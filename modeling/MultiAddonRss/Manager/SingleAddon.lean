import MultiAddonRss.CommaLists
import MultiAddonRss.Manager.Offers

/-!
# One addon in each message

A `CHANGELEVEL` message is to name one addon. The hook cuts the messages of the
server down to one; those it makes itself name an entry of a list or the
workshop map, and the refresh names its argument, whatever these contain.
-/

namespace MultiAddonRss

open Foundations

/-- The string splits into at most one addon. -/
def NamesOne (addons : CString) : Prop :=
  (stringToVector addons).length ≤ 1

instance decidableNamesOne (addons : CString) : Decidable (NamesOne addons) :=
  inferInstanceAs (Decidable (_ ≤ _))

theorem IsSingleEntry.namesOne {addon : CString} (haddon : IsSingleEntry addon) :
    NamesOne addon := by
  rw [NamesOne, stringToVector_of_notMem haddon.2]
  split_ifs <;> simp

namespace MultiAddonManager

/-- Everything that a client can be sent to names one addon. -/
structure SingleLists (m : MultiAddonManager) : Prop where
  workshopMap : NamesOne m.currentWorkshopMap
  mounted : ∀ addon ∈ m.mountedAddons, NamesOne addon
  global : ∀ addon ∈ m.globalClientAddons, NamesOne addon
  own : ∀ steamID64, ∀ addon ∈ (m.clientAddons steamID64).addonsToLoad, NamesOne addon

/-- The addons that an event tries to mount. Those of a ConVar text are split. -/
def mountCandidates (m : MultiAddonManager) : Event → List CString
  | .mountAddon pszAddon => [pszAddon]
  | .addAddon pszAddon bRefresh =>
    if bRefresh && pszAddon ∉ m.extraAddons then m.extraAddons ++ [pszAddon] else []
  | .removeAddon pszAddon bRefresh =>
    if bRefresh && pszAddon ∈ m.extraAddons then m.extraAddons.erase pszAddon else []
  | .startupServer | .gameServerSteamAPIActivated | .refreshAddons _ => m.extraAddons
  | _ => []

/-- What enters the lists by a call names one addon: the addons that it can
mount, an addon for clients and the workshop map of a host state request. -/
structure EntersSingle (m : MultiAddonManager) (call : Call) : Prop where
  mounted : ∀ addon ∈ m.mountCandidates call.event, call.host.canMount addon = true →
    NamesOne addon
  added : ∀ pszAddon steamID64 bRefresh,
    call.event = .addClientAddon pszAddon steamID64 bRefresh → NamesOne pszAddon
  requested : ∀ request, call.event = .setPendingHostStateRequest request →
    NamesOne (m.requestedWorkshopMap call.host request)

variable {m : MultiAddonManager}

/-! ## The lists along a run -/

theorem SingleLists.addonSources (hm : m.SingleLists) {steamID64 : UInt64} {addon : CString}
    (haddon : addon ∈ m.addonSources steamID64) : NamesOne addon := by
  simp only [MultiAddonManager.addonSources, List.mem_append] at haddon
  rcases haddon with hmap | hmounted | hglobal | hown
  · split_ifs at hmap
    · rw [List.mem_singleton.1 hmap]
      exact hm.workshopMap
    · simp at hmap
  · exact hm.mounted addon hmounted
  · exact hm.global addon hglobal
  · split_ifs at hown
    · exact hm.own steamID64 addon hown
    · simp at hown

theorem SingleLists.mountEffect (hm : m.SingleLists) {h : Host} {added : List CString}
    {result : MultiAddonManager × List Output} (hresult : m.MountEffect h added result)
    (hadded : ∀ addon ∈ added, h.canMount addon = true → NamesOne addon) :
    result.1.SingleLists := by
  have hmounted : ∀ addon ∈ result.1.mountedAddons, NamesOne addon := by
    intro addon haddon
    rcases hresult.mounted addon haddon with hold | ⟨hnew, hmount⟩
    · exact hm.mounted addon hold
    · exact hadded addon hnew hmount
  obtain ⟨_, _, _, _, hchange⟩ := hresult.change
  rw [hchange] at hmounted ⊢
  exact ⟨hm.workshopMap, hmounted, hm.global, hm.own⟩

theorem SingleLists.recordsChange (hm : m.SingleLists) {m' : MultiAddonManager}
    (hchange : m.RecordsChange m')
    (hown : ∀ id, (m'.clientAddons id).addonsToLoad = (m.clientAddons id).addonsToLoad) :
    m'.SingleLists := by
  obtain ⟨clientAddons, timedOutClients, rfl⟩ := hchange
  refine ⟨hm.workshopMap, hm.mounted, hm.global, fun id addon haddon => ?_⟩
  rw [hown id] at haddon
  exact hm.own id addon haddon

theorem addonsToLoad_setClient {steamID64 : UInt64} {info : ClientAddonInfo}
    (hload : info.addonsToLoad = (m.clientAddons steamID64).addonsToLoad) (id : UInt64) :
    ((m.setClient steamID64 info).clientAddons id).addonsToLoad =
      (m.clientAddons id).addonsToLoad := by
  by_cases hid : id = steamID64
  · subst hid
    rw [clientAddons_setClient_self, hload]
  · rw [clientAddons_setClient_of_ne _ _ _ hid]

theorem addonsToLoad_hookReplyConnection (now : ℚ) (steamID64 id : UInt64) :
    ((m.hookReplyConnection now steamID64).1.clientAddons id).addonsToLoad =
      (m.clientAddons id).addonsToLoad := by
  have hload := m.addonsToLoad_replyInfo now steamID64
  cases hlist : m.getClientAddons steamID64 false with
  | nil =>
    rw [hookReplyConnection_of_nil hlist]
    exact addonsToLoad_setClient (by exact hload) id
  | cons firstAddon rest =>
    cases htimeout : m.connectionTimedOut now (m.replyInfo now steamID64) with
    | true =>
      rw [hookReplyConnection_of_timeout (by simp [hlist]) htimeout]
      exact addonsToLoad_setClient (by exact hload) id
    | false =>
      rw [hookReplyConnection_of_cons hlist htimeout]
      exact addonsToLoad_setClient (by exact hload) id

theorem addonsToLoad_checkClientAddons (now : ℚ) (steamID64 id : UInt64) :
    ((m.checkClientAddons now steamID64).clientAddons id).addonsToLoad =
      (m.clientAddons id).addonsToLoad := by
  simp only [checkClientAddons]
  split_ifs <;> exact addonsToLoad_setClient (by rfl) id

theorem addonsToLoad_hookSendNetMessage (now : ℚ) (steamID64 : UInt64) (pData : NetMessage)
    (id : UInt64) :
    ((m.hookSendNetMessage now steamID64 pData).1.clientAddons id).addonsToLoad =
      (m.clientAddons id).addonsToLoad := by
  have hactive : ((m.setClient steamID64 { m.clientAddons steamID64 with
      lastActiveTime := now }).clientAddons id).addonsToLoad =
        (m.clientAddons id).addonsToLoad := addonsToLoad_setClient (by rfl) id
  cases pData with
  | other => exact hactive
  | signonState pMsg =>
    simp only [hookSendNetMessage]
    split_ifs
    · exact hactive
    · unfold sendChangelevel
      rw [addonsToLoad_setClient (by rfl), hactive]
    · unfold sendStaged
      split
      · rw [addonsToLoad_setClient (by rfl), hactive]
      · rw [addonsToLoad_setClient (by rfl), hactive]

theorem addonsToLoad_step {call : Call} {steamID64 : UInt64}
    (hclient : call.event.client = some steamID64) (id : UInt64) :
    ((m.step call).1.clientAddons id).addonsToLoad = (m.clientAddons id).addonsToLoad := by
  obtain ⟨h, event⟩ := call
  cases event with
  | replyConnection steamID64 => exact addonsToLoad_hookReplyConnection h.now steamID64 id
  | clientConnect steamID64 | canHLTVClientConnect steamID64 =>
    exact addonsToLoad_checkClientAddons h.now steamID64 id
  | clientDisconnect steamID64 => exact addonsToLoad_setClient (by rfl) id
  | clientActive steamID64 =>
    simp only [step, hookClientActive]
    split_ifs
    · rfl
    · exact addonsToLoad_setClient (by rfl) id
  | sendNetMessage steamID64 pData => exact addonsToLoad_hookSendNetMessage h.now steamID64 pData id
  | _ => simp [Event.client] at hclient

theorem SingleLists.setClientList (hm : m.SingleLists) (steamID64 : UInt64)
    {addons : List CString} (haddons : ∀ addon ∈ addons, NamesOne addon) :
    (m.setClientList steamID64 addons).SingleLists := by
  unfold MultiAddonManager.setClientList
  split_ifs
  · exact ⟨hm.workshopMap, hm.mounted, haddons, hm.own⟩
  · refine ⟨hm.workshopMap, hm.mounted, hm.global, fun id addon haddon => ?_⟩
    by_cases hid : id = steamID64
    · subst hid
      rw [setAddonsToLoad, clientAddons_setClient_self] at haddon
      exact haddons addon haddon
    · rw [setAddonsToLoad, clientAddons_setClient_of_ne _ _ _ hid] at haddon
      exact hm.own id addon haddon

theorem SingleLists.clientList (hm : m.SingleLists) {steamID64 : UInt64} {addon : CString}
    (haddon : addon ∈ m.clientList steamID64) : NamesOne addon := by
  unfold MultiAddonManager.clientList at haddon
  split_ifs at haddon
  · exact hm.global addon haddon
  · exact hm.own steamID64 addon haddon

theorem addonsToLoad_refreshClients (pszAddon : CString) (steamID64 : UInt64)
    (clients : List ServerSideClient) (id : UInt64) :
    ((refreshClients pszAddon steamID64 clients m).1.clientAddons id).addonsToLoad =
      (m.clientAddons id).addonsToLoad := by
  rw [refreshClients_eq]
  dsimp only
  split_ifs
  · rfl
  · exact addonsToLoad_setClient (by rfl) id

theorem SingleLists.addClientAddon (hm : m.SingleLists) (h : Host) {pszAddon : CString}
    (hpsz : NamesOne pszAddon) (steamID64 : UInt64) (bRefresh : Bool) :
    (m.addClientAddon h pszAddon steamID64 bRefresh).1.SingleLists := by
  have hlist : (m.setClientList steamID64 (m.clientList steamID64 ++ [pszAddon])).SingleLists := by
    apply hm.setClientList
    intro addon haddon
    rcases List.mem_append.1 haddon with hold | hnew
    · exact hm.clientList hold
    · rwa [List.mem_singleton.1 hnew]
  simp only [MultiAddonManager.addClientAddon]
  split_ifs
  · exact hm
  · exact hlist.recordsChange (recordsChange_refreshClients _ pszAddon steamID64 h.clients)
      (addonsToLoad_refreshClients pszAddon steamID64 h.clients)
  · exact hlist

theorem SingleLists.refreshAddons (hm : m.SingleLists) (h : Host) (bReloadMap : Bool)
    (hextra : ∀ addon ∈ m.extraAddons, h.canMount addon = true → NamesOne addon) :
    (m.refreshAddons h bReloadMap).1.SingleLists :=
  hm.mountEffect (m.mountEffect_refreshAddons h bReloadMap) hextra

theorem SingleLists.addAddon (hm : m.SingleLists) {h : Host} {pszAddon : CString}
    {bRefresh : Bool} (hadded : ∀ addon ∈ m.mountCandidates (.addAddon pszAddon bRefresh),
      h.canMount addon = true → NamesOne addon) :
    (m.addAddon h pszAddon bRefresh).2.1.SingleLists := by
  simp only [MultiAddonManager.addAddon, mountCandidates] at hadded ⊢
  split_ifs with hold hrefresh
  · exact hm
  · apply SingleLists.refreshAddons
    · exact ⟨hm.workshopMap, hm.mounted, hm.global, hm.own⟩
    · simpa [hrefresh, hold] using hadded
  · exact ⟨hm.workshopMap, hm.mounted, hm.global, hm.own⟩

theorem SingleLists.removeAddon (hm : m.SingleLists) {h : Host} {pszAddon : CString}
    {bRefresh : Bool} (hadded : ∀ addon ∈ m.mountCandidates (.removeAddon pszAddon bRefresh),
      h.canMount addon = true → NamesOne addon) :
    (m.removeAddon h pszAddon bRefresh).2.1.SingleLists := by
  simp only [MultiAddonManager.removeAddon, mountCandidates] at hadded ⊢
  split_ifs with hold hrefresh
  · apply SingleLists.refreshAddons
    · exact ⟨hm.workshopMap, hm.mounted, hm.global, hm.own⟩
    · simpa [hrefresh, hold] using hadded
  · exact ⟨hm.workshopMap, hm.mounted, hm.global, hm.own⟩
  · exact hm

theorem SingleLists.setterChange (hm : m.SingleLists) {m' : MultiAddonManager}
    {steamID64 : UInt64} (hchange : m.SetterChange steamID64 m') : m'.SingleLists := by
  obtain ⟨_, _, _, clientAddons, rfl, hrecords⟩ := hchange
  refine ⟨hm.workshopMap, hm.mounted, hm.global, fun id addon haddon => hm.own id addon ?_⟩
  rcases hrecords with rfl | ⟨-, rfl⟩
  · exact haddon
  · rwa [clearRssAssets, addonsToLoad_setClient (by rfl)] at haddon

theorem SingleLists.step (hm : m.SingleLists) {call : Call} (hcall : m.EntersSingle call) :
    (m.step call).1.SingleLists := by
  obtain ⟨h, event⟩ := call
  cases event with
  | replyConnection id | clientConnect id | canHLTVClientConnect id | clientDisconnect id
  | clientActive id | sendNetMessage id pData =>
    exact hm.recordsChange (m.recordChange_step rfl).recordsChange (addonsToLoad_step rfl)
  | gameFrame =>
    apply hm.recordsChange (m.recordsChange_hookGameFrame h.clients)
    intro id
    rw [clientAddons_hookGameFrame]
    split_ifs <;> rfl
  | startupServer =>
    apply SingleLists.refreshAddons
    · exact ⟨hm.workshopMap, hm.mounted, hm.global, hm.own⟩
    · exact hcall.mounted
  | gameServerSteamAPIActivated =>
    simp only [MultiAddonManager.step, hookGameServerSteamAPIActivated]
    split_ifs
    · exact hm
    · exact hm.refreshAddons h true hcall.mounted
  | downloadAddon pszAddon bImportant bForce =>
    exact hm.mountEffect (m.mountEffect_downloadAddon h pszAddon bImportant bForce) (by simp)
  | onAddonDownloaded publishedFileId =>
    exact hm.mountEffect (m.mountEffect_onAddonDownloaded h publishedFileId) (by simp)
  | mountAddon pszAddon =>
    exact hm.mountEffect (m.mountEffect_mountAddon h pszAddon) hcall.mounted
  | unmountAddon pszAddon =>
    exact hm.mountEffect (m.mountEffect_unmountAddon h pszAddon) (by simp)
  | addAddon pszAddon bRefresh => exact hm.addAddon hcall.mounted
  | removeAddon pszAddon bRefresh => exact hm.removeAddon hcall.mounted
  | clearAddons =>
    have hcleared : SingleLists { m with
        extraAddons := []
        conVars := { m.conVars with mmExtraAddons := [] } } :=
      ⟨hm.workshopMap, hm.mounted, hm.global, hm.own⟩
    exact hcleared.mountEffect (mountEffect_unmountAll h _ _) (by simp)
  | refreshAddons bReloadMap => exact hm.refreshAddons h bReloadMap hcall.mounted
  | setExtraAddons newVal =>
    apply SingleLists.refreshAddons
    · exact ⟨hm.workshopMap, hm.mounted, hm.global, hm.own⟩
    · intro addon haddon hmount
      exact (isSingleEntry_of_mem_stringToVector haddon).namesOne
  | setPendingHostStateRequest request =>
    exact ⟨hcall.requested request rfl, hm.mounted, hm.global, hm.own⟩
  | addClientAddon pszAddon steamID64 bRefresh =>
    exact hm.addClientAddon h (hcall.added _ _ _ rfl) steamID64 bRefresh
  | removeClientAddon pszAddon steamID64 =>
    apply hm.setClientList
    intro addon haddon
    exact hm.clientList (List.mem_of_mem_erase haddon)
  | clearClientAddons steamID64 => exact hm.setClientList steamID64 (by simp)
  | setClientExtraAddons newVal =>
    refine ⟨hm.workshopMap, hm.mounted, fun addon haddon => ?_, hm.own⟩
    exact (isSingleEntry_of_mem_stringToVector haddon).namesOne
  | setClientRssAssetsEnabled o steamID64 bEnabled =>
    exact hm.setterChange (m.setterChange_setClientRssAssetsEnabled o steamID64 bEnabled)
  | setConVars conVars => exact ⟨hm.workshopMap, hm.mounted, hm.global, hm.own⟩

/-! ## The messages -/

theorem namesOne_of_hookSendNetMessage (hdedicated : m.dedicatedServer = true)
    (hm : m.SingleLists) {now : ℚ} {steamID64 : UInt64} {pData : NetMessage} {addons : CString}
    (hmsg : .signonState ⟨.changelevel, addons⟩ =
      (m.hookSendNetMessage now steamID64 pData).2) : NamesOne addons := by
  obtain ⟨-, pMsg, -, (rfl | hmem) | ⟨-, hhead⟩⟩ := offer_of_hookSendNetMessage hdedicated hmsg
  · decide
  · exact (isSingleEntry_of_mem_stringToVector (List.mem_of_mem_filter hmem)).namesOne
  · have hmem := List.mem_of_mem_head? hhead
    rw [remainingAddons_eq_filter] at hmem
    exact hm.addonSources (mem_getClientAddons.1 (List.mem_of_mem_filter hmem)).1

theorem namesOne_of_offer (hdedicated : m.dedicatedServer = true) (hm : m.SingleLists)
    {call : Call} (hcall : m.EntersSingle call) {steamID64 : UInt64} {addons : CString}
    (hoffer : offer steamID64 addons ∈ (m.step call).2) : NamesOne addons := by
  rcases netMessage_mem_step m hoffer with
    ⟨pData, -, hmsg⟩ | ⟨pszAddon, id, bRefresh, hevent, hmem⟩
  · exact namesOne_of_hookSendNetMessage hdedicated hm hmsg
  · obtain ⟨-, rfl, -⟩ := offer_mem_addClientAddon.1 hmem
    exact hcall.added _ _ _ hevent

/-- On a dedicated server, where everything that enters the lists names one addon,
every `CHANGELEVEL` message of the run names at most one. -/
theorem changelevel_names_one (m : MultiAddonManager) (hdedicated : m.dedicatedServer = true)
    (hm : m.SingleLists) (calls : List Call)
    (hcalls : EveryStep (fun pre call => (run step m pre).EntersSingle call) calls) :
    EveryStep (fun pre call => ∀ steamID64 addons,
      .netMessage steamID64 (.signonState ⟨.changelevel, addons⟩) ∈
        (step (run step m pre) call).2 → (stringToVector addons).length ≤ 1) calls := by
  rintro pre call post rfl steamID64 addons hoffer
  have hpre : (run step m pre).SingleLists :=
    run_induction step (fun _ m => m.SingleLists) (EveryStep.of_append _ hcalls) hm
      fun _ _ hcall hm => hm.step hcall
  exact namesOne_of_offer (dedicatedServer_run hdedicated pre) hpre
    (hcalls pre call post rfl) hoffer

theorem changelevel_names_one_client_addon :
    let calls : List Call := [⟨{}, .addClientAddon (ascii "1111111111") 0 true⟩,
      ⟨{}, .sendNetMessage 76561198000000001 (.signonState ⟨.new, []⟩)⟩]
    EveryStep (fun pre call => ∀ steamID64 addons,
      .netMessage steamID64 (.signonState ⟨.changelevel, addons⟩) ∈
        (step (run step {} pre) call).2 → (stringToVector addons).length ≤ 1) calls := by
  intro calls
  apply changelevel_names_one {} rfl ⟨by decide, by simp, by simp, by simp⟩ calls
  refine everyStep_cons.2 ⟨?_, everyStep_cons.2 ⟨?_, everyStep_nil⟩⟩
  · refine ⟨by simp [mountCandidates], ?_, by simp⟩
    rintro _ _ _ ⟨rfl⟩
    decide +kernel
  · exact ⟨by simp [mountCandidates], by simp, by simp⟩

/-- One entry with two identifiers is offered as it is. -/
theorem changelevel_names_two :
    let calls : List Call :=
      [⟨{}, .addClientAddon (ascii "1111111111,2222222222") 76561198000000001 false⟩]
    let signon : Call := ⟨{}, .sendNetMessage 76561198000000001 (.signonState ⟨.new, []⟩)⟩
    ¬ EveryStep (fun pre call => ∀ steamID64 addons,
      .netMessage steamID64 (.signonState ⟨.changelevel, addons⟩) ∈
        (step (run step {} pre) call).2 → (stringToVector addons).length ≤ 1)
      (calls ++ [signon]) := by
  intro calls signon hrun
  have hlength := hrun calls signon [] rfl 76561198000000001 (ascii "1111111111,2222222222")
    (by decide +kernel)
  exact absurd hlength (by decide +kernel)

end MultiAddonManager
end MultiAddonRss
