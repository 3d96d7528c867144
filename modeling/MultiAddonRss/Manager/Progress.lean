import MultiAddonRss.Manager.Frames
import MultiAddonRss.Manager.HookSpecs

/-!
# The progress of a client

What a client has and what it was offered, and which events change that. An
addon enters the downloaded ones in two places only, and only from the pending
one: when the client reconnects, and when nothing is left to download.
-/

namespace MultiAddonRss

open Foundations

/-- The events that change what a client has or what it was offered. -/
def Event.concerns (steamID64 : UInt64) : Event → Bool
  | .replyConnection id | .clientConnect id | .canHLTVClientConnect id | .clientActive id
  | .sendNetMessage id _ => id = steamID64
  | .addClientAddon _ id bRefresh => id = steamID64 && bRefresh
  | _ => false

namespace MultiAddonManager

def progress (m : MultiAddonManager) (steamID64 : UInt64) : List CString × CString :=
  ((m.clientAddons steamID64).downloadedAddons, (m.clientAddons steamID64).currentPendingAddon)

variable (m : MultiAddonManager) {steamID64 : UInt64}

/-! ## Events that do not concern the client -/

theorem progress_setClient_of_ne {id : UInt64} (info : ClientAddonInfo) (hid : id ≠ steamID64) :
    (m.setClient id info).progress steamID64 = m.progress steamID64 := by
  rw [progress, clientAddons_setClient_of_ne m id info hid.symm, progress]

@[simp] theorem progress_setClient_self (info : ClientAddonInfo) :
    (m.setClient steamID64 info).progress steamID64 =
      (info.downloadedAddons, info.currentPendingAddon) := by
  rw [progress, clientAddons_setClient_self]

theorem progress_setClient {id : UInt64} {info : ClientAddonInfo}
    (hdownloaded : info.downloadedAddons = (m.clientAddons id).downloadedAddons)
    (hpending : info.currentPendingAddon = (m.clientAddons id).currentPendingAddon) :
    (m.setClient id info).progress steamID64 = m.progress steamID64 := by
  by_cases hid : id = steamID64
  · subst hid
    rw [progress, clientAddons_setClient_self, hdownloaded, hpending, progress]
  · exact m.progress_setClient_of_ne info hid

theorem RecordChange.progress_of_ne {m m' : MultiAddonManager} {id : UInt64}
    (hchange : m.RecordChange id m') (hid : id ≠ steamID64) :
    m'.progress steamID64 = m.progress steamID64 := by
  obtain ⟨info, timedOutClients, rfl⟩ := hchange
  exact m.progress_setClient_of_ne info hid

theorem progress_hookGameFrame (clients : List ServerSideClient) :
    (hookGameFrame clients m).1.progress steamID64 = m.progress steamID64 := by
  rw [progress, clientAddons_hookGameFrame]
  split_ifs <;> rfl

theorem progress_setClientList (id : UInt64) (addons : List CString) :
    (m.setClientList id addons).progress steamID64 = m.progress steamID64 := by
  unfold setClientList
  split_ifs
  · rfl
  · exact m.progress_setClient rfl rfl

theorem progress_addClientAddon (h : Host) (pszAddon : CString) {id : UInt64} {bRefresh : Bool}
    (hrefresh : id = steamID64 → bRefresh = false) :
    (m.addClientAddon h pszAddon id bRefresh).1.progress steamID64 = m.progress steamID64 := by
  simp only [addClientAddon]
  split_ifs with hmem hloop
  · rfl
  · have hid : id ≠ steamID64 := by
      intro hid
      simp [hrefresh hid] at hloop
    rw [refreshClients_eq]
    dsimp only
    split_ifs
    · exact m.progress_setClientList id _
    · rw [progress_setClient_of_ne _ _ hid]
      exact m.progress_setClientList id _
  · exact m.progress_setClientList id _

theorem progress_setClientRssAssetsEnabled (o : SaveOutcome) (id : UInt64) (bEnabled : Bool)
    (henabled : m.isClientRssAssetsEnabled steamID64 = true) :
    (m.setClientRssAssetsEnabled o id bEnabled).2.progress steamID64 = m.progress steamID64 := by
  obtain ⟨_, _, _, records, hset, hrecords⟩ :=
    m.setterChange_setClientRssAssetsEnabled o id bEnabled
  rw [hset]
  rcases hrecords with rfl | ⟨hoff, rfl⟩
  · rfl
  · have hid : id ≠ steamID64 := by
      rintro rfl
      simp [hoff] at henabled
    exact m.progress_setClient_of_ne _ hid

/-- The operations on the server's own addons, and the calls that are about
another client. -/
theorem progress_step_of_foreign {call : Call} (hevent : call.event.isServerSide = true ∨
    ∃ id, call.event.client = some id ∧ id ≠ steamID64) :
    (m.step call).1.progress steamID64 = m.progress steamID64 := by
  rcases hevent with hserver | ⟨id, hclient, hid⟩
  · have hrecords := congrArg ClientSide.clientAddons (m.serverSide_step _ hserver).clientSide
    simp only [clientSide] at hrecords
    rw [progress, hrecords, progress]
  · exact (m.recordChange_step hclient).progress_of_ne hid

theorem progress_step {call : Call} (henabled : m.isClientRssAssetsEnabled steamID64 = true)
    (hcall : call.event.concerns steamID64 = false) :
    (m.step call).1.progress steamID64 = m.progress steamID64 := by
  by_cases hforeign : call.event.isServerSide = true ∨
      ∃ id, call.event.client = some id ∧ id ≠ steamID64
  · exact m.progress_step_of_foreign hforeign
  obtain ⟨h, event⟩ := call
  cases event with
  | clientDisconnect id => exact m.progress_setClient rfl rfl
  | gameFrame => exact m.progress_hookGameFrame h.clients
  | setPendingHostStateRequest request => rfl
  | addClientAddon pszAddon id bRefresh =>
    exact m.progress_addClientAddon h pszAddon (by simpa [Event.concerns] using hcall)
  | removeClientAddon pszAddon id => exact m.progress_setClientList id _
  | clearClientAddons id => exact m.progress_setClientList id _
  | setClientExtraAddons newVal => rfl
  | setClientRssAssetsEnabled o id bEnabled =>
    exact m.progress_setClientRssAssetsEnabled o id bEnabled henabled
  | setConVars conVars => rfl
  | _ => simp_all [Event.isServerSide, Event.client, Event.concerns]

/-! ## The two places that credit an addon -/

/-- The calls of `CheckClientAddons` that get past its first test. -/
def ChecksPending (m : MultiAddonManager) (steamID64 : UInt64) (call : Call) : Prop :=
  m.dedicatedServer = true ∧
    (call.event = .clientConnect steamID64 ∨ call.event = .canHLTVClientConnect steamID64) ∧
    m.getClientAddons steamID64 true ≠ []

def CompletesList (m : MultiAddonManager) (steamID64 : UInt64) (call : Call) : Prop :=
  m.dedicatedServer = true ∧ m.isClientRssAssetsEnabled steamID64 = true ∧
    (m.progress steamID64).2 ≠ [] ∧ m.remainingAddons steamID64 = [] ∧
    ∃ pMsg, call.event = .sendNetMessage steamID64 (.signonState pMsg) ∧
      pMsg.signonState ≠ .changelevel

theorem downloaded_hookReplyConnection (now : ℚ) :
    ((m.hookReplyConnection now steamID64).1.progress steamID64).1 =
      (m.replyInfo now steamID64).downloadedAddons := by
  cases hlist : m.getClientAddons steamID64 false with
  | nil => simp [hookReplyConnection_of_nil hlist]
  | cons firstAddon rest =>
    cases htimeout : m.connectionTimedOut now (m.replyInfo now steamID64) with
    | true =>
      rw [hookReplyConnection_of_timeout (by simp [hlist]) htimeout]
      simp [progress]
    | false => simp [hookReplyConnection_of_cons hlist htimeout, repliedInfo]

theorem downloadedAddons_replyInfo_sublist (now : ℚ) :
    (m.replyInfo now steamID64).downloadedAddons.Sublist (m.progress steamID64).1 := by
  unfold replyInfo
  split_ifs
  · exact List.nil_sublist _
  · exact List.Sublist.refl _

theorem downloaded_of_checksPending {call : Call} (hcheck : m.ChecksPending steamID64 call) :
    ((m.step call).1.progress steamID64).1 =
      (m.progress steamID64).1 ++ m.credited call.host.now steamID64 := by
  obtain ⟨h, event⟩ := call
  obtain ⟨hdedicated, hevent, hfull⟩ := hcheck
  have hconnect : ((m.checkClientAddons h.now steamID64).progress steamID64).1 =
      (m.progress steamID64).1 ++ m.credited h.now steamID64 := by
    simp [checkClientAddons_of_ne_nil hdedicated hfull, progress]
  rcases hevent with hevent | hevent
  · obtain rfl : event = _ := hevent
    exact hconnect
  · obtain rfl : event = _ := hevent
    exact hconnect

theorem downloaded_of_completesList {call : Call} (hcomplete : m.CompletesList steamID64 call) :
    ((m.step call).1.progress steamID64).1 =
      (m.progress steamID64).1 ++ [(m.progress steamID64).2] := by
  obtain ⟨h, event⟩ := call
  obtain ⟨hdedicated, henabled, hpending, hneed, pMsg, hevent, hstate⟩ := hcomplete
  obtain rfl : event = _ := hevent
  unfold progress at hpending
  simp [step, hookSendNetMessage_of_complete hdedicated hstate hneed, progress, henabled, hpending]

theorem downloaded_checkClientAddons {h : Host} {event : Event}
    (hevent : event = .clientConnect steamID64 ∨ event = .canHLTVClientConnect steamID64)
    (hcheck : ¬ m.ChecksPending steamID64 ⟨h, event⟩) :
    ((m.checkClientAddons h.now steamID64).progress steamID64).1 = (m.progress steamID64).1 := by
  cases hdedicated : m.dedicatedServer with
  | false => simp [checkClientAddons, hdedicated, progress]
  | true =>
    by_cases hfull : m.getClientAddons steamID64 true = []
    · simp [checkClientAddons_of_nil hfull, progress]
    · exact absurd ⟨hdedicated, hevent, hfull⟩ hcheck

theorem downloaded_hookSendNetMessage {h : Host} {pData : NetMessage}
    (hcomplete : ¬ m.CompletesList steamID64 ⟨h, .sendNetMessage steamID64 pData⟩) :
    ((m.hookSendNetMessage h.now steamID64 pData).1.progress steamID64).1 =
      (m.progress steamID64).1 := by
  cases hdedicated : m.dedicatedServer with
  | false => cases pData <;> simp [hookSendNetMessage, hdedicated, progress]
  | true =>
    cases pData with
    | other => simp [hookSendNetMessage, progress]
    | signonState pMsg =>
      by_cases hstate : pMsg.signonState = .changelevel
      · simp [hookSendNetMessage_of_changelevel hdedicated hstate, progress]
      cases hneed : m.remainingAddons steamID64 with
      | cons addon rest => simp [hookSendNetMessage_of_remaining hdedicated hstate hneed, progress]
      | nil =>
        rw [hookSendNetMessage_of_complete hdedicated hstate hneed, progress_setClient_self]
        dsimp only
        split_ifs with hpending
        · simp only [Bool.and_eq_true, Bool.not_eq_true', List.isEmpty_eq_false_iff] at hpending
          exact absurd ⟨hdedicated, hpending.2, hpending.1, hneed, pMsg, rfl, hstate⟩ hcomplete
        · rfl

theorem downloaded_addClientAddon (h : Host) (pszAddon : CString) (id : UInt64)
    (bRefresh : Bool) :
    ((m.addClientAddon h pszAddon id bRefresh).1.progress steamID64).1 =
      (m.progress steamID64).1 := by
  have hlist (addons : List CString) :=
    congrArg Prod.fst (@progress_setClientList m steamID64 id addons)
  simp only [addClientAddon]
  split_ifs
  · rfl
  · rw [refreshClients_eq, ← hlist (m.clientList id ++ [pszAddon])]
    dsimp only
    split_ifs
    · rfl
    · by_cases hid : id = steamID64
      · simp [hid, progress]
      · rw [progress_setClient_of_ne _ _ hid]
  · exact hlist _

theorem downloaded_setClientRssAssetsEnabled (o : SaveOutcome) (id : UInt64) (bEnabled : Bool) :
    ((m.setClientRssAssetsEnabled o id bEnabled).2.progress steamID64).1.Sublist
      (m.progress steamID64).1 := by
  obtain ⟨_, _, _, records, hset, hrecords⟩ :=
    m.setterChange_setClientRssAssetsEnabled o id bEnabled
  rw [hset]
  rcases hrecords with rfl | ⟨-, rfl⟩
  · exact List.Sublist.refl _
  · unfold progress
    by_cases hid : steamID64 = id
    · subst hid
      simp [clearRssAssets]
    · rw [clearRssAssets, clientAddons_setClient_of_ne _ _ _ hid]

theorem downloaded_of_not {call : Call} (hcheck : ¬ m.ChecksPending steamID64 call)
    (hcomplete : ¬ m.CompletesList steamID64 call) :
    ((m.step call).1.progress steamID64).1.Sublist (m.progress steamID64).1 := by
  have hkept {m' : MultiAddonManager} (hsame : (m'.progress steamID64).1 =
      (m.progress steamID64).1) : (m'.progress steamID64).1.Sublist (m.progress steamID64).1 := by
    rw [hsame]
  by_cases hforeign : call.event.isServerSide = true ∨
      ∃ id, call.event.client = some id ∧ id ≠ steamID64
  · rw [m.progress_step_of_foreign hforeign]
  obtain ⟨hevent, hother⟩ := not_or.1 hforeign
  obtain ⟨h, event⟩ := call
  cases event with
  | replyConnection id =>
    obtain rfl : id = steamID64 := by simpa [Event.client] using hother
    rw [step, downloaded_hookReplyConnection]
    exact m.downloadedAddons_replyInfo_sublist h.now
  | clientConnect id =>
    obtain rfl : id = steamID64 := by simpa [Event.client] using hother
    exact hkept (m.downloaded_checkClientAddons (.inl rfl) hcheck)
  | canHLTVClientConnect id =>
    obtain rfl : id = steamID64 := by simpa [Event.client] using hother
    exact hkept (m.downloaded_checkClientAddons (.inr rfl) hcheck)
  | clientDisconnect id => exact hkept (congrArg Prod.fst (m.progress_setClient rfl rfl))
  | clientActive id =>
    obtain rfl : id = steamID64 := by simpa [Event.client] using hother
    simp only [step, hookClientActive]
    split_ifs
    · exact List.Sublist.refl _
    · simp
  | sendNetMessage id pData =>
    obtain rfl : id = steamID64 := by simpa [Event.client] using hother
    exact hkept (m.downloaded_hookSendNetMessage hcomplete)
  | gameFrame => exact hkept (congrArg Prod.fst (m.progress_hookGameFrame h.clients))
  | addClientAddon pszAddon id bRefresh =>
    exact hkept (m.downloaded_addClientAddon h pszAddon id bRefresh)
  | removeClientAddon pszAddon id | clearClientAddons id =>
    exact hkept (congrArg Prod.fst (m.progress_setClientList id _))
  | setClientRssAssetsEnabled o id bEnabled =>
    exact m.downloaded_setClientRssAssetsEnabled o id bEnabled
  | setPendingHostStateRequest request | setClientExtraAddons newVal | setConVars conVars =>
    exact hkept rfl
  | _ => simp [Event.isServerSide] at hevent

/-- An addon comes to count as downloaded only from the pending one. -/
theorem mem_downloaded_step {call : Call} {addon : CString}
    (haddon : addon ∈ ((m.step call).1.progress steamID64).1) :
    addon ∈ (m.progress steamID64).1 ∨ addon = (m.progress steamID64).2 := by
  by_cases hcheck : m.ChecksPending steamID64 call
  · rw [m.downloaded_of_checksPending hcheck] at haddon
    exact (List.mem_append.1 haddon).imp_right mem_credited_eq
  by_cases hcomplete : m.CompletesList steamID64 call
  · rw [m.downloaded_of_completesList hcomplete] at haddon
    exact (List.mem_append.1 haddon).imp_right List.mem_singleton.1
  · exact .inl ((m.downloaded_of_not hcheck hcomplete).subset haddon)

end MultiAddonManager
end MultiAddonRss
