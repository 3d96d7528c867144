import Mathlib.Algebra.Order.Ring.Rat
import Mathlib.Data.Finset.Insert
import Mathlib.Logic.Function.Basic
import MultiAddonRss.Strings

/-!
# State of the plugin

The members of `MultiAddonManager`, the global table `g_ClientAddons`, the
ConVars and the parts of the engine that the plugin reads back: its addon
string, its registered search paths and the preference files. What the engine,
Steam and the file system answer during one call is collected in a `Host`.
-/

namespace MultiAddonRss

inductive ClientConnectedState
  | none
  | connecting
  | joined
deriving DecidableEq

structure ClientAddonInfo where
  lastActiveTime : ℚ := 0
  addonsToLoad : List CString := []
  downloadedAddons : List CString := []
  currentPendingAddon : CString := []
  connectedState : ClientConnectedState := .none
  connectionStartTime : ℚ := 0
deriving DecidableEq

inductive SignonState
  | none
  | challenge
  | connected
  | new
  | prespawn
  | spawn
  | full
  | changelevel
deriving DecidableEq

/-- The fields of `CNETMsg_SignonState` that the plugin reads or replaces. -/
structure SignonMessage where
  signonState : SignonState
  addons : CString
deriving DecidableEq

inductive NetMessage
  | signonState (msg : SignonMessage)
  | other
deriving DecidableEq

structure ServerSideClient where
  steamID64 : UInt64
  signonState : SignonState
deriving DecidableEq

/-- What the plugin makes the engine, Steam or a client see. -/
inductive Output
  /-- A message handed to the original `SendNetMessage` or to the net channel. -/
  | netMessage (steamID64 : UInt64) (msg : NetMessage)
  /-- The original `ReplyConnection`, called while the server string is `addons`. -/
  | replyConnection (steamID64 : UInt64) (addons : CString)
  /-- The plain zero-list return: the engine replies with its own string. -/
  | plainReply (steamID64 : UInt64) (addons : CString)
  | disconnect (steamID64 : UInt64)
  | downloadItem (addon : UInt64)
  | serverCommand (cmd : CString)
deriving DecidableEq

structure ConVars where
  mmAddonMountDownload : Bool := false
  mmCacheClientsWithAddons : Bool := false
  mmCacheClientsDuration : ℚ := 0
  mmAddonConnectionTimeout : ℚ := 30
  mmExtraAddonsTimeout : ℚ := 10
  mmExtraAddons : CString := []
  mmClientExtraAddons : CString := []
deriving DecidableEq

/-- The two arguments of the package path format. -/
structure AddonPath where
  addon : CString
  legacy : Bool
deriving DecidableEq

/-- The contents of the main, legacy and temporary preference files. -/
structure PreferenceFiles where
  main : Option CString := none
  legacy : Option CString := none
  temp : Option CString := none
deriving DecidableEq

/-- A client without an entry in `g_ClientAddons` has the default record, which
is what `operator[]` creates. -/
structure MultiAddonManager where
  dedicatedServer : Bool := true
  globalsReady : Bool := false
  extraAddons : List CString := []
  mountedAddons : List CString := []
  globalClientAddons : List CString := []
  importantDownloads : List UInt64 := []
  downloadQueue : List UInt64 := []
  currentWorkshopMap : CString := []
  timedOutClients : Finset UInt64 := ∅
  rssAssetOptOutClients : Finset UInt64 := ∅
  rssAssetPreferencesWritable : Bool := false
  clientAddons : UInt64 → ClientAddonInfo := fun _ => {}
  conVars : ConVars := {}
  serverAddons : CString := []
  searchPaths : List AddonPath := []
  files : PreferenceFiles := {}

/-- The answers given to the plugin during one call. -/
structure Host where
  now : ℚ := 0
  clients : List ServerSideClient := []
  mapname : CString := []
  hasSteamUGC : Bool := true
  itemState : UInt64 → UInt32 := fun _ => 0
  downloadItem : UInt64 → Bool := fun _ => true
  stringToUint64 : CString → UInt64 := fun _ => 0
  packageExists : AddonPath → Bool := fun _ => true
  addSearchPath : List AddonPath → AddonPath → List AddonPath := fun paths path => path :: paths
  removeSearchPath : List AddonPath → AddonPath → Option (List AddonPath) :=
    fun paths path => if path ∈ paths then some (paths.erase path) else none
  levelFileExists : CString → Bool := fun _ => false
  /-- `MAX_PATH` of the platform. -/
  maxPath : ℕ := 260
  isOfficialAddon : CString → Bool := fun _ => false

/-! ## Records of single clients -/

namespace MultiAddonManager

variable (m : MultiAddonManager) (steamID64 : UInt64) (info : ClientAddonInfo)

def setClient : MultiAddonManager :=
  { m with clientAddons := Function.update m.clientAddons steamID64 info }

@[simp] theorem clientAddons_setClient_self :
    (m.setClient steamID64 info).clientAddons steamID64 = info := by
  simp [setClient]

theorem clientAddons_setClient_of_ne {id : UInt64} (h : id ≠ steamID64) :
    (m.setClient steamID64 info).clientAddons id = m.clientAddons id := by
  simp [setClient, h]

@[simp] theorem setClient_self : m.setClient steamID64 (m.clientAddons steamID64) = m := by
  simp [setClient]

@[simp] theorem setClient_setClient (info' : ClientAddonInfo) :
    (m.setClient steamID64 info).setClient steamID64 info' = m.setClient steamID64 info' := by
  simp [setClient]

@[simp] theorem dedicatedServer_setClient :
    (m.setClient steamID64 info).dedicatedServer = m.dedicatedServer := rfl

@[simp] theorem globalsReady_setClient :
    (m.setClient steamID64 info).globalsReady = m.globalsReady := rfl

@[simp] theorem mountedAddons_setClient :
    (m.setClient steamID64 info).mountedAddons = m.mountedAddons := rfl

@[simp] theorem globalClientAddons_setClient :
    (m.setClient steamID64 info).globalClientAddons = m.globalClientAddons := rfl

@[simp] theorem currentWorkshopMap_setClient :
    (m.setClient steamID64 info).currentWorkshopMap = m.currentWorkshopMap := rfl

@[simp] theorem rssAssetOptOutClients_setClient :
    (m.setClient steamID64 info).rssAssetOptOutClients = m.rssAssetOptOutClients := rfl

@[simp] theorem conVars_setClient : (m.setClient steamID64 info).conVars = m.conVars := rfl

@[simp] theorem serverAddons_setClient :
    (m.setClient steamID64 info).serverAddons = m.serverAddons := rfl

end MultiAddonManager

end MultiAddonRss
