import Mathlib.Data.Finset.Erase
import MultiAddonRss.Manager.ClientLists
import MultiAddonRss.Preferences.Writer

/-!
# The preference store

Loading publishes the opt-out set and sets the latch that allows later saves. A
save writes the temporary file and renames it over the main file. The outcomes
say which file operations fail; one that reports success did what it reports.
-/

namespace MultiAddonRss

open RssPrefs

structure SaveOutcome where
  openTemp : Bool := true
  /-- The number of bytes a short write stores. -/
  shortWrite : Option ℕ := none
  isOk : Bool := true
  renameFile : Bool := true
  removeFile : Bool := true

structure LoadOutcome where
  openMain : Bool := true
  /-- The number of bytes a short read returns. -/
  shortRead : Option ℕ := none
  openLegacy : Bool := true
  /-- The number of lines read before the first failure. -/
  shortReadLine : Option ℕ := none
  isOk : Bool := true
  save : SaveOutcome := {}

/-- What a possibly short transfer moves. -/
def transferred {α : Type} (short : Option ℕ) (data : List α) : List α :=
  match short with
  | none => data
  | some count => data.take count

theorem transferred_eq_of_length {α : Type} {short : Option ℕ} {data : List α}
    (h : (transferred short data).length = data.length) : transferred short data = data := by
  cases short with
  | none => rfl
  | some count =>
    have hle : data.length ≤ count := by simpa [transferred] using h
    simp [transferred, hle]

/-! ## The legacy list -/

/-- One `ReadLine` into a buffer with room for `room` bytes and the terminator. -/
def readLine : ℕ → CString → CString × CString
  | 0, text => ([], text)
  | _ + 1, [] => ([], [])
  | room + 1, c :: text =>
    if c = 10 then ([c], text)
    else
      let (line, text) := readLine room text
      (c :: line, text)

/-- The strings made from the buffer end at its first NUL. -/
def readLines : ℕ → CString → List CString
  | 0, _ => []
  | _, [] => []
  | fuel + 1, text =>
    let (line, text) := readLine 63 text
    line.takeWhile (· ≠ 0) :: readLines fuel text

def stripLineEnd (line : CString) : CString :=
  (line.reverse.dropWhile fun c => c = 10 || c = 13).reverse

def collectLegacyLines : List CString → Finset RssSteamId → Option (Finset RssSteamId)
  | [], parsed => some parsed
  | line :: lines, parsed =>
    let digits := stripLineEnd line
    if line = [] then none
    else if digits = [] then none
    else
      match parseDecimalUll digits with
      | none => none
      | some id => if id ∈ parsed then none else collectLegacyLines lines (insert id parsed)

def collectLegacyOptOutIds (lines : List CString) (bReadOk : Bool) : Option (Finset RssSteamId) :=
  if bReadOk then collectLegacyLines lines ∅ else none

/-! ## The setter state machine -/

/-- The variables that `ApplyRssPreferenceChange` gets by reference, the world
that its callbacks change, and its answer. -/
structure PreferenceChange (σ : Type) where
  bWritableLatch : Bool
  members : Finset RssSteamId
  world : σ
  result : Bool

def applyRssPreferenceChange {σ : Type} (bWritableLatch : Bool) (members : Finset RssSteamId)
    (world : σ) (steamId : RssSteamId) (bEnabled : Bool)
    (persist : Finset RssSteamId → σ → Bool × σ) (onPersisted : σ → σ) : PreferenceChange σ :=
  if steamId = 0 then ⟨bWritableLatch, members, world, false⟩
  else if !bWritableLatch then ⟨bWritableLatch, members, world, false⟩
  else
    let bWasEnabled : Bool := steamId ∉ members
    if bWasEnabled = bEnabled then ⟨bWritableLatch, members, world, true⟩
    else
      let members := if bEnabled then members.erase steamId else insert steamId members
      let (bPersisted, world) := persist members world
      if !bPersisted then
        let members := if bWasEnabled then members.erase steamId else insert steamId members
        ⟨false, members, world, false⟩
      else
        ⟨bWritableLatch, members, onPersisted world, true⟩

namespace MultiAddonManager

variable (m : MultiAddonManager)

/-! ## Saving -/

def saveRssAssetOptOutClientsLocked (o : SaveOutcome) (optOutClients : Finset RssSteamId) :
    Bool × MultiAddonManager :=
  let json := buildRssAssetPreferencesJson optOutClients
  let removeTemp (m : MultiAddonManager) : MultiAddonManager :=
    if o.removeFile then { m with files := { m.files with temp := none } } else m
  if !o.openTemp then (false, m)
  else
    let stored := transferred o.shortWrite json
    let bSuccess := stored.length = json.length && o.isOk
    let m := { m with files := { m.files with temp := some stored } }
    if !bSuccess then (false, removeTemp m)
    else if !o.renameFile then (false, removeTemp m)
    else (true, { m with files := { m.files with main := m.files.temp, temp := none } })

def saveRssAssetOptOutClients (o : SaveOutcome) : Bool × MultiAddonManager :=
  m.saveRssAssetOptOutClientsLocked o m.rssAssetOptOutClients

/-! ## Loading -/

def maxPreferenceFileSize : ℕ := 1024 * 1024

/-- The part of the load for an existing main file. -/
def loadMainFile (o : LoadOutcome) (content : CString) : MultiAddonManager :=
  if !o.openMain then m
  else if content.length > maxPreferenceFileSize then m
  else
    let json := transferred o.shortRead content
    if json.length ≠ content.length then m
    else
      match parseDocument json with
      | none => m
      | some parsed =>
        { m with rssAssetOptOutClients := parsed, rssAssetPreferencesWritable := true }

/-- The part for an existing legacy file, which migrates it. -/
def loadLegacyFile (o : LoadOutcome) (content : CString) : MultiAddonManager :=
  if !o.openLegacy then m
  else
    let lines := transferred o.shortReadLine (readLines (content.length + 1) content)
    match collectLegacyOptOutIds lines o.isOk with
    | none => m
    | some parsed =>
      let m := { m with rssAssetOptOutClients := parsed }
      let (bSaved, m) := m.saveRssAssetOptOutClientsLocked o.save m.rssAssetOptOutClients
      if bSaved then { m with rssAssetPreferencesWritable := true }
      else { m with rssAssetOptOutClients := ∅ }

def loadRssAssetOptOutClients (o : LoadOutcome) : MultiAddonManager :=
  let m := { m with rssAssetOptOutClients := ∅, rssAssetPreferencesWritable := false }
  match m.files.main with
  | some content => m.loadMainFile o content
  | none =>
    match m.files.legacy with
    | some content => m.loadLegacyFile o content
    | none =>
      let (bSaved, m) := m.saveRssAssetOptOutClientsLocked o.save m.rssAssetOptOutClients
      if bSaved then { m with rssAssetPreferencesWritable := true } else m

/-! ## The setter -/

/-- Clears what the client has of the assets, so that they are staged again. -/
def clearRssAssets (steamID64 : UInt64) : MultiAddonManager :=
  let clientInfo := m.clientAddons steamID64
  m.setClient steamID64
    { clientInfo with
      downloadedAddons := clientInfo.downloadedAddons.filter fun addon => !isRssAssetAddon addon,
      currentPendingAddon :=
        if isRssAssetAddon clientInfo.currentPendingAddon then []
        else clientInfo.currentPendingAddon }

def setClientRssAssetsEnabled (o : SaveOutcome) (steamID64 : UInt64) (bEnabled : Bool) :
    Bool × MultiAddonManager :=
  if steamID64 = 0 then (false, m)
  else
    let change := applyRssPreferenceChange m.rssAssetPreferencesWritable m.rssAssetOptOutClients m
      steamID64 bEnabled (fun members m => m.saveRssAssetOptOutClientsLocked o members)
      (fun m => if bEnabled then m.clearRssAssets steamID64 else m)
    (change.result,
      { change.world with rssAssetOptOutClients := change.members,
                          rssAssetPreferencesWritable := change.bWritableLatch })

end MultiAddonManager
end MultiAddonRss
