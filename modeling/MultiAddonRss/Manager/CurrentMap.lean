import MultiAddonRss.Foundations.PastTime
import MultiAddonRss.Manager.Frames

/-!
# One current map

`Hook_SetPendingHostStateRequest` writes down the workshop map when a request selects a
map. Everything the plugin does with the map afterwards reads that note: the lists of the
clients, the command that reloads the map, and the answer to scripts.
-/

namespace MultiAddonRss

open Foundations

/-- The map that a request selects, which is empty for a map that is no addon. An official
addon is always selected. Otherwise a request named `ChangeLevel` selects none, nor does a
vote for the map that is being played, which has neither key values nor an addon nor a map
file. -/
def HostStateRequest.selectedMap (h : Host) (request : HostStateRequest) : Option CString :=
  if request.addons ≠ [] ∧ h.isOfficialAddon request.addons then
    some request.addons
  else
    match request.keyValues with
    | none =>
      if request.addons ≠ [] then some request.addons
      else if h.levelFileExists request.levelName then some []
      else none
    | some kv =>
      if stricmpEq kv.name (ascii "ChangeLevel") then none
      else if stricmpEq kv.name (ascii "map_workshop") then some (kv.customgamemode.getD [])
      else some []

def Call.selectedMap : Call → Option CString
  | ⟨h, .setPendingHostStateRequest request⟩ => request.selectedMap h
  | _ => none

def lastSelectedMap (first : CString) (calls : List Call) : CString :=
  ((calls.filterMap Call.selectedMap).getLast?).getD first

/-- The command that reloads a map, cut to the size of its buffer. -/
def reloadCommand (h : Host) (workshopMap : CString) : CString :=
  snprintf h.maxPath
    (if workshopMap = [] ∨ h.isOfficialAddon workshopMap then ascii "changelevel " ++ h.mapname
    else ascii "host_workshop_map " ++ workshopMap)

namespace MultiAddonManager

variable (h : Host) (m : MultiAddonManager)

theorem requestedWorkshopMap_eq (request : HostStateRequest) :
    m.requestedWorkshopMap h request = (request.selectedMap h).getD m.currentWorkshopMap := by
  unfold requestedWorkshopMap HostStateRequest.selectedMap
  cases request.keyValues <;> grind

theorem currentWorkshopMap_step (call : Call) :
    (m.step call).1.currentWorkshopMap = call.selectedMap.getD m.currentWorkshopMap := by
  by_cases hcall : ∃ request, call.event = .setPendingHostStateRequest request
  · obtain ⟨h, event⟩ := call
    obtain ⟨request, rfl⟩ := hcall
    exact m.requestedWorkshopMap_eq h request
  · have hnone : call.selectedMap = none := by
      obtain ⟨h, event⟩ := call
      cases event with
      | setPendingHostStateRequest request => exact absurd ⟨request, rfl⟩ hcall
      | _ => rfl
    rw [hnone]
    exact congrArg (fun state => state.2.1) (m.serverState_step (not_exists.1 hcall))

theorem currentWorkshopMap_run (calls : List Call) :
    (run step m calls).currentWorkshopMap = lastSelectedMap m.currentWorkshopMap calls :=
  register_run step m currentWorkshopMap Call.selectedMap
    (fun pre call => (run step m pre).currentWorkshopMap_step call) calls

/-! ## Server commands -/

def OnlyReloads (h : Host) (workshopMap : CString) (out : List Output) : Prop :=
  ∀ cmd, .serverCommand cmd ∈ out → cmd = reloadCommand h workshopMap

variable {h m} {workshopMap : CString}

theorem OnlyReloads.append {out out' : List Output} (hout : OnlyReloads h workshopMap out)
    (hout' : OnlyReloads h workshopMap out') : OnlyReloads h workshopMap (out ++ out') := by
  intro cmd hcmd
  rcases List.mem_append.1 hcmd with hcmd | hcmd
  · exact hout cmd hcmd
  · exact hout' cmd hcmd

theorem onlyReloads_nil : OnlyReloads h workshopMap [] := by
  intro cmd hcmd
  cases hcmd

theorem onlyReloads_reloadMap : OnlyReloads h m.currentWorkshopMap (m.reloadMap h) := by
  intro cmd hcmd
  unfold reloadMap at hcmd
  unfold reloadCommand
  split_ifs at hcmd ⊢ with h1 h2 <;> simp_all

variable (h m)

theorem onlyReloads_downloadAddon (pszAddon : CString) (bImportant bForce : Bool) :
    OnlyReloads h workshopMap (m.downloadAddon h pszAddon bImportant bForce).2.2 := by
  rcases downloadAddon_cases h m pszAddon bImportant bForce with
    ⟨result, hcall⟩ | ⟨addon, importantDownloads, -, -, -, hcall⟩
  · rw [hcall]
    exact onlyReloads_nil
  · intro cmd hcmd
    simp [hcall] at hcmd

theorem onlyReloads_mountAddon (pszAddon : CString) :
    OnlyReloads h workshopMap (m.mountAddon h pszAddon).2.2 := by
  obtain ⟨result, hdownload, hcall⟩ := m.mountAddon_cases h pszAddon
  have hresult : OnlyReloads h workshopMap result.2 := by
    rcases hdownload with rfl | ⟨bImportant, bForce, rfl⟩
    · exact onlyReloads_nil
    · exact m.onlyReloads_downloadAddon h pszAddon bImportant bForce
  rcases hcall with ⟨-, hcall⟩ | ⟨-, hcall⟩
  · rwa [hcall]
  · rwa [hcall]

theorem onlyReloads_mountAll (addons : List CString) : ∀ m : MultiAddonManager,
    OnlyReloads h workshopMap (mountAll h addons m).2.2 := by
  induction addons with
  | nil => exact fun _ => onlyReloads_nil
  | cons addon addons ih =>
    intro m
    exact (m.onlyReloads_mountAddon h addon).append (ih _)

theorem MountChange.currentWorkshopMap {m m' : MultiAddonManager} (hchange : m.MountChange m') :
    m'.currentWorkshopMap = m.currentWorkshopMap := by
  obtain ⟨_, _, _, _, rfl⟩ := hchange
  rfl

theorem onlyReloads_refreshAddons (bReloadMap : Bool) :
    OnlyReloads h m.currentWorkshopMap (m.refreshAddons h bReloadMap).2 := by
  have hunmount := m.mountEffect_unmountAll h m.mountedAddons.length
  simp only [refreshAddons]
  generalize unmountAll h m.mountedAddons.length m = unmounted at hunmount ⊢
  have hmount := mountEffect_mountAll h unmounted unmounted.extraAddons
  have hout : OnlyReloads h m.currentWorkshopMap
      (mountAll h unmounted.extraAddons unmounted).2.2 :=
    onlyReloads_mountAll h unmounted.extraAddons unmounted
  have hmap : (mountAll h unmounted.extraAddons unmounted).2.1.currentWorkshopMap =
      m.currentWorkshopMap :=
    hmount.change.currentWorkshopMap.trans hunmount.change.currentWorkshopMap
  split_ifs
  · exact onlyReloads_nil
  · apply hout.append
    rw [← hmap]
    exact onlyReloads_reloadMap
  · exact hout

theorem onlyReloads_onAddonDownloaded (publishedFileId : UInt64) :
    OnlyReloads h m.currentWorkshopMap (m.onAddonDownloaded h publishedFileId).2 := by
  simp only [onAddonDownloaded]
  split_ifs
  · exact onlyReloads_reloadMap
  · exact onlyReloads_nil
  · exact onlyReloads_nil

theorem OnlyReloads.of_client {out : List Output} (hout : ∀ o ∈ out, o.isServerSide = false) :
    OnlyReloads h workshopMap out := by
  intro cmd hcmd
  cases hout _ hcmd

theorem onlyReloads_addClientAddon (pszAddon : CString) (steamID64 : UInt64) (bRefresh : Bool) :
    OnlyReloads h workshopMap (m.addClientAddon h pszAddon steamID64 bRefresh).2 := by
  simp only [addClientAddon]
  split_ifs
  · exact onlyReloads_nil
  · rw [refreshClients_eq]
    apply OnlyReloads.of_client
    intro o ho
    obtain ⟨pClient, -, rfl⟩ := List.mem_map.1 ho
    rfl
  · exact onlyReloads_nil

theorem onlyReloads_step (call : Call) :
    OnlyReloads call.host m.currentWorkshopMap (m.step call).2 := by
  obtain ⟨h, event⟩ := call
  cases event with
  | replyConnection id =>
    apply OnlyReloads.of_client
    simp only [step, hookReplyConnection]
    split <;> split_ifs <;> simp [Output.isServerSide]
  | sendNetMessage id pData =>
    apply OnlyReloads.of_client
    simp [step, Output.isServerSide]
  | gameFrame =>
    apply OnlyReloads.of_client
    intro o ho
    obtain ⟨id, rfl⟩ := m.outputs_hookGameFrame h.clients o ho
    rfl
  | startupServer => exact onlyReloads_refreshAddons h _ false
  | gameServerSteamAPIActivated =>
    simp only [step, hookGameServerSteamAPIActivated]
    split_ifs
    · exact onlyReloads_nil
    · exact m.onlyReloads_refreshAddons h true
  | downloadAddon pszAddon bImportant bForce =>
    exact m.onlyReloads_downloadAddon h pszAddon bImportant bForce
  | onAddonDownloaded publishedFileId => exact m.onlyReloads_onAddonDownloaded h publishedFileId
  | mountAddon pszAddon => exact m.onlyReloads_mountAddon h pszAddon
  | addAddon pszAddon bRefresh =>
    simp only [step, addAddon]
    split_ifs
    · exact onlyReloads_nil
    · exact onlyReloads_refreshAddons h _ false
    · exact onlyReloads_nil
  | removeAddon pszAddon bRefresh =>
    simp only [step, removeAddon]
    split_ifs
    · exact onlyReloads_refreshAddons h _ false
    · exact onlyReloads_nil
    · exact onlyReloads_nil
  | refreshAddons bReloadMap => exact m.onlyReloads_refreshAddons h bReloadMap
  | setExtraAddons newVal => exact onlyReloads_refreshAddons h _ false
  | addClientAddon pszAddon id bRefresh =>
    exact m.onlyReloads_addClientAddon h pszAddon id bRefresh
  | _ => exact onlyReloads_nil

/-- In every run, each part of the plugin goes by the map that was selected last: a command
of a step is the reload of that map, as far as it fits its buffer, the list of every client
begins with it, and an answer to scripts is its number. -/
theorem current_map_agreed (m : MultiAddonManager) (calls : List Call) :
    EveryStep (fun pre call =>
      let workshopMap := lastSelectedMap m.currentWorkshopMap pre
      (∀ cmd, .serverCommand cmd ∈ (step (run step m pre) call).2 →
        cmd = reloadCommand call.host workshopMap) ∧
      (workshopMap ≠ [] → ∀ steamID64 bIncludeOptedOutRssAssets,
        ((run step m pre).getClientAddons steamID64 bIncludeOptedOutRssAssets).head? =
          some workshopMap) ∧
      ∀ iAddon, (run step m pre).hookScriptGetAddon call.host = some iAddon →
        iAddon = call.host.stringToUint64 workshopMap) calls := by
  intro pre call post _
  have hmap := m.currentWorkshopMap_run pre
  dsimp only
  rw [← hmap]
  refine ⟨?_, ?_, ?_⟩
  · exact (run step m pre).onlyReloads_step call
  · intro hne steamID64 bIncludeOptedOutRssAssets
    exact head?_getClientAddons hne bIncludeOptedOutRssAssets
  · intro iAddon hanswer
    simp only [hookScriptGetAddon] at hanswer
    split_ifs at hanswer
    exact (Option.some.inj hanswer).symm

end MultiAddonManager
end MultiAddonRss
