import MultiAddonRss.Manager.Frames
import MultiAddonRss.Manager.HookSpecs

/-!
# What each operation reads

Operations on the server's addons read no record of a client. The hooks of a client
read and write its own record, and do the same in all states that agree on it.
-/

namespace MultiAddonRss

namespace MultiAddonManager

variable (h : Host) (m : MultiAddonManager) (c : UInt64 → ClientAddonInfo) (t : Finset UInt64)

abbrev withClients : MultiAddonManager :=
  { m with clientAddons := c, timedOutClients := t }

/-! ## Operations on the server's addons do not read the records -/

theorem downloadAddon_withClients (pszAddon : CString) (bImportant bForce : Bool) :
    (m.withClients c t).downloadAddon h pszAddon bImportant bForce =
      ((m.downloadAddon h pszAddon bImportant bForce).1,
        (m.downloadAddon h pszAddon bImportant bForce).2.1.withClients c t,
        (m.downloadAddon h pszAddon bImportant bForce).2.2) := by
  simp only [downloadAddon]
  split_ifs <;> rfl

theorem onAddonDownloaded_withClients (publishedFileId : UInt64) :
    (m.withClients c t).onAddonDownloaded h publishedFileId =
      ((m.onAddonDownloaded h publishedFileId).1.withClients c t,
        (m.onAddonDownloaded h publishedFileId).2) := by
  simp only [onAddonDownloaded]
  split_ifs <;> rfl

theorem mountAddon_withClients (pszAddon : CString) :
    (m.withClients c t).mountAddon h pszAddon =
      ((m.mountAddon h pszAddon).1, (m.mountAddon h pszAddon).2.1.withClients c t,
        (m.mountAddon h pszAddon).2.2) := by
  simp only [mountAddon, downloadAddon_withClients]
  split_ifs <;> rfl

theorem mountAll_withClients (addons : List CString) : ∀ m : MultiAddonManager,
    mountAll h addons (m.withClients c t) =
      ((mountAll h addons m).1, (mountAll h addons m).2.1.withClients c t,
        (mountAll h addons m).2.2) := by
  induction addons with
  | nil => exact fun _ => rfl
  | cons pszAddon addons ih =>
    intro m
    simp only [mountAll, mountAddon_withClients, ih]

theorem unmountAddon_withClients (pszAddon : CString) :
    (m.withClients c t).unmountAddon h pszAddon =
      ((m.unmountAddon h pszAddon).1, (m.unmountAddon h pszAddon).2.withClients c t) := by
  simp only [unmountAddon]
  split_ifs
  · rfl
  · cases h.removeSearchPath m.searchPaths ⟨pszAddon, false⟩ <;> rfl

theorem unmountAll_withClients (count : ℕ) : ∀ m : MultiAddonManager,
    unmountAll h count (m.withClients c t) = (unmountAll h count m).withClients c t := by
  induction count with
  | zero => exact fun _ => rfl
  | succ count ih =>
    intro m
    simp only [unmountAll, unmountAddon_withClients, ih]

theorem refreshAddons_withClients (bReloadMap : Bool) :
    (m.withClients c t).refreshAddons h bReloadMap =
      ((m.refreshAddons h bReloadMap).1.withClients c t, (m.refreshAddons h bReloadMap).2) := by
  simp only [refreshAddons, unmountAll_withClients, mountAll_withClients]
  split_ifs <;> rfl

theorem clearAddons_withClients :
    (m.withClients c t).clearAddons h = (m.clearAddons h).withClients c t := by
  unfold clearAddons
  exact unmountAll_withClients h c t m.mountedAddons.length
    { m with extraAddons := [], conVars := { m.conVars with mmExtraAddons := [] } }

theorem addAddon_withClients (pszAddon : CString) (bRefresh : Bool) :
    (m.withClients c t).addAddon h pszAddon bRefresh =
      ((m.addAddon h pszAddon bRefresh).1, (m.addAddon h pszAddon bRefresh).2.1.withClients c t,
        (m.addAddon h pszAddon bRefresh).2.2) := by
  simp only [addAddon]
  split_ifs
  · rfl
  · exact congrArg (Prod.mk true) (refreshAddons_withClients h
      { m with extraAddons := m.extraAddons ++ [pszAddon],
               conVars := { m.conVars with
                 mmExtraAddons := vectorToString (m.extraAddons ++ [pszAddon]) } } c t false)
  · rfl

theorem removeAddon_withClients (pszAddon : CString) (bRefresh : Bool) :
    (m.withClients c t).removeAddon h pszAddon bRefresh =
      ((m.removeAddon h pszAddon bRefresh).1,
        (m.removeAddon h pszAddon bRefresh).2.1.withClients c t,
        (m.removeAddon h pszAddon bRefresh).2.2) := by
  simp only [removeAddon]
  split_ifs
  · exact congrArg (Prod.mk true) (refreshAddons_withClients h
      { m with extraAddons := m.extraAddons.erase pszAddon,
               conVars := { m.conVars with
                 mmExtraAddons := vectorToString (m.extraAddons.erase pszAddon) } } c t false)
  · rfl
  · rfl

theorem setExtraAddons_withClients (newVal : CString) :
    (m.withClients c t).setExtraAddons h newVal =
      ((m.setExtraAddons h newVal).1.withClients c t, (m.setExtraAddons h newVal).2) := by
  unfold setExtraAddons
  exact refreshAddons_withClients h
    { m with extraAddons := stringToVector newVal,
             conVars := { m.conVars with mmExtraAddons := newVal } } c t false

theorem hookGameServerSteamAPIActivated_withClients :
    (m.withClients c t).hookGameServerSteamAPIActivated h =
      ((m.hookGameServerSteamAPIActivated h).1.withClients c t,
        (m.hookGameServerSteamAPIActivated h).2) := by
  simp only [hookGameServerSteamAPIActivated]
  split_ifs
  · rfl
  · exact refreshAddons_withClients h m c t true

/-! ## Hooks of a client read its own record -/

variable {m c t} {steamID64 : UInt64} (hown : c steamID64 = m.clientAddons steamID64)

include hown

theorem getClientAddons_withClients (bIncludeOptedOutRssAssets : Bool) :
    (m.withClients c t).getClientAddons steamID64 bIncludeOptedOutRssAssets =
      m.getClientAddons steamID64 bIncludeOptedOutRssAssets := by
  simp only [getClientAddons, hown]
  rfl

theorem remainingAddons_withClients :
    (m.withClients c t).remainingAddons steamID64 = m.remainingAddons steamID64 := by
  simp only [remainingAddons, getClientAddons_withClients hown, hown]

theorem replyInfo_withClients (now : ℚ) :
    (m.withClients c t).replyInfo now steamID64 = m.replyInfo now steamID64 := by
  simp only [replyInfo, hown]
  rfl

theorem repliedAddons_withClients (clientInfo : ClientAddonInfo) :
    (m.withClients c t).repliedAddons steamID64 clientInfo =
      m.repliedAddons steamID64 clientInfo := by
  simp only [repliedAddons, getClientAddons_withClients hown]
  rfl

omit hown

/-- An operation of a client reads of all records only its own, writes only that one,
and marks at most this client as timed out. -/
def OwnRecord (steamID64 : UInt64) (op : MultiAddonManager → MultiAddonManager × List Output) :
    Prop :=
  ∀ m : MultiAddonManager, ∃ (info : ClientAddonInfo) (marks : Bool) (out : List Output),
    ∀ c t, c steamID64 = m.clientAddons steamID64 →
      op (m.withClients c t) =
        (m.withClients (Function.update c steamID64 info)
          (if marks then insert steamID64 t else t), out)

theorem ownRecord_hookReplyConnection (now : ℚ) (steamID64 : UInt64) :
    OwnRecord steamID64 fun m => m.hookReplyConnection now steamID64 := by
  intro m
  have hlist' (c : UInt64 → ClientAddonInfo) (t : Finset UInt64)
      (hown : c steamID64 = m.clientAddons steamID64) :=
    getClientAddons_withClients (t := t) hown false
  cases hlist : m.getClientAddons steamID64 false with
  | nil =>
    refine ⟨{ m.replyInfo now steamID64 with currentPendingAddon := [] }, false,
      (m.hookReplyConnection now steamID64).2, fun c t hown => ?_⟩
    dsimp only
    rw [hookReplyConnection_of_nil hlist,
      hookReplyConnection_of_nil ((hlist' c t hown).trans hlist), replyInfo_withClients hown,
      getClientAddons_withClients hown]
    rfl
  | cons firstAddon rest =>
    cases htimeout : m.connectionTimedOut now (m.replyInfo now steamID64) with
    | true =>
      refine ⟨m.replyInfo now steamID64, true, [], fun c t hown => ?_⟩
      have hmarks : (m.withClients c t).connectionTimedOut now
          ((m.withClients c t).replyInfo now steamID64) = true := by
        rw [replyInfo_withClients hown]
        exact htimeout
      dsimp only
      rw [hookReplyConnection_of_timeout (by simp [hlist' c t hown, hlist]) hmarks,
        replyInfo_withClients hown]
      rfl
    | false =>
      refine ⟨m.repliedInfo now steamID64 firstAddon, false,
        (m.hookReplyConnection now steamID64).2, fun c t hown => ?_⟩
      have hmarks : (m.withClients c t).connectionTimedOut now
          ((m.withClients c t).replyInfo now steamID64) = false := by
        rw [replyInfo_withClients hown]
        exact htimeout
      have hinfo : (m.withClients c t).repliedInfo now steamID64 firstAddon =
          m.repliedInfo now steamID64 firstAddon := by
        simp only [repliedInfo, replyInfo_withClients hown]
      dsimp only
      rw [hookReplyConnection_of_cons hlist htimeout,
        hookReplyConnection_of_cons ((hlist' c t hown).trans hlist) hmarks, hinfo,
        repliedAddons_withClients hown]
      rfl

theorem ownRecord_of_setClient {op : MultiAddonManager → MultiAddonManager × List Output}
    {info : MultiAddonManager → ClientAddonInfo} {out : MultiAddonManager → List Output}
    (hop : ∀ m, op m = (m.setClient steamID64 (info m), out m))
    (hcongr : ∀ (m : MultiAddonManager) c t, c steamID64 = m.clientAddons steamID64 →
      info (m.withClients c t) = info m ∧ out (m.withClients c t) = out m) :
    OwnRecord steamID64 op := by
  intro m
  refine ⟨info m, false, out m, fun c t hown => ?_⟩
  obtain ⟨hinfo, hout⟩ := hcongr m c t hown
  rw [hop, hinfo, hout]
  rfl

def checkedInfo (m : MultiAddonManager) (now : ℚ) (steamID64 : UInt64) : ClientAddonInfo :=
  if m.getClientAddons steamID64 true = [] || !m.dedicatedServer then
    { m.clientAddons steamID64 with connectedState := .joined }
  else
    { m.clientAddons steamID64 with
      connectedState := .joined
      downloadedAddons := (m.clientAddons steamID64).downloadedAddons ++ m.credited now steamID64
      currentPendingAddon := []
      lastActiveTime := now }

theorem checkClientAddons_eq (m : MultiAddonManager) (now : ℚ) (steamID64 : UInt64) :
    m.checkClientAddons now steamID64 = m.setClient steamID64 (m.checkedInfo now steamID64) := by
  unfold checkedInfo
  by_cases hfull : m.getClientAddons steamID64 true = []
  · rw [checkClientAddons_of_nil hfull]
    simp [hfull]
  · cases hdedicated : m.dedicatedServer with
    | false => simp [checkClientAddons, hdedicated]
    | true =>
      rw [checkClientAddons_of_ne_nil hdedicated hfull]
      simp [hfull]

theorem ownRecord_checkClientAddons (now : ℚ) (steamID64 : UInt64) :
    OwnRecord steamID64 fun m => (m.checkClientAddons now steamID64, []) := by
  refine ownRecord_of_setClient (fun m => by rw [checkClientAddons_eq]) fun m c t hown => ?_
  refine ⟨?_, rfl⟩
  simp only [checkedInfo, credited, getClientAddons_withClients hown,
    remainingAddons_withClients hown, hown]
  rfl

theorem ownRecord_hookClientDisconnect (now : ℚ) (steamID64 : UInt64) :
    OwnRecord steamID64 fun m => (m.hookClientDisconnect now steamID64, []) := by
  refine ownRecord_of_setClient (fun m => rfl) fun m c t hown => ?_
  simp only [hown, and_self]

theorem ownRecord_hookClientActive (steamID64 : UInt64) :
    OwnRecord steamID64 fun m => (m.hookClientActive steamID64, []) := by
  have hop (m : MultiAddonManager) : m.hookClientActive steamID64 = m.setClient steamID64
      (if m.conVars.mmCacheClientsWithAddons then m.clientAddons steamID64
        else { m.clientAddons steamID64 with downloadedAddons := [] }) := by
    unfold hookClientActive
    split_ifs <;> simp
  refine ownRecord_of_setClient (fun m => by rw [hop]) fun m c t hown => ?_
  simp only [hown, and_self]

theorem ownRecord_hookSendNetMessage (now : ℚ) (steamID64 : UInt64) (pData : NetMessage) :
    OwnRecord steamID64 fun m =>
      ((m.hookSendNetMessage now steamID64 pData).1,
        [.netMessage steamID64 (m.hookSendNetMessage now steamID64 pData).2]) := by
  intro m
  refine ⟨(m.hookSendNetMessage now steamID64 pData).1.clientAddons steamID64, false,
    [.netMessage steamID64 (m.hookSendNetMessage now steamID64 pData).2], fun c t hown => ?_⟩
  dsimp only
  cases pData with
  | other => simp [hookSendNetMessage, hown, setClient]
  | signonState pMsg =>
    cases hdedicated : m.dedicatedServer with
    | false => simp [hookSendNetMessage, hdedicated, hown, setClient]
    | true =>
      have hdedicated' : (m.withClients c t).dedicatedServer = true := hdedicated
      by_cases hstate : pMsg.signonState = .changelevel
      · rw [hookSendNetMessage_of_changelevel hdedicated hstate,
          hookSendNetMessage_of_changelevel hdedicated' hstate]
        simp only [hown, clientAddons_setClient_self]
        rfl
      · cases hneed : m.remainingAddons steamID64 with
        | nil =>
          rw [hookSendNetMessage_of_complete hdedicated hstate hneed,
            hookSendNetMessage_of_complete hdedicated' hstate
              ((remainingAddons_withClients hown).trans hneed)]
          simp only [hown, clientAddons_setClient_self]
          rfl
        | cons addon rest =>
          rw [hookSendNetMessage_of_remaining hdedicated hstate hneed,
            hookSendNetMessage_of_remaining hdedicated' hstate
              ((remainingAddons_withClients hown).trans hneed)]
          simp only [hown, clientAddons_setClient_self]
          rfl

theorem ownRecord_refreshClients (pszAddon : CString) (steamID64 : UInt64)
    (clients : List ServerSideClient) :
    OwnRecord steamID64 fun m => refreshClients pszAddon steamID64 clients m := by
  have hop (m : MultiAddonManager) : refreshClients pszAddon steamID64 clients m =
      (m.setClient steamID64
        (if m.refreshTargets steamID64 clients = [] then m.clientAddons steamID64
        else { m.clientAddons steamID64 with
          currentPendingAddon := m.refreshedPending steamID64 }),
        (m.refreshTargets steamID64 clients).map (refreshMessage pszAddon)) := by
    rw [refreshClients_eq]
    split_ifs <;> simp
  refine ownRecord_of_setClient hop fun m c t hown => ?_
  have htargets : (m.withClients c t).refreshTargets steamID64 clients =
      m.refreshTargets steamID64 clients := by
    simp only [refreshTargets, remainingAddons_withClients hown, hown]
  simp only [htargets, refreshedPending, remainingAddons_withClients hown, hown, and_self]

theorem ownRecord_setAddonsToLoad (steamID64 : UInt64) (change : List CString → List CString) :
    OwnRecord steamID64 fun m =>
      (m.setAddonsToLoad steamID64 (change (m.clientAddons steamID64).addonsToLoad), []) := by
  refine ownRecord_of_setClient (fun m => rfl) fun m c t hown => ?_
  simp only [hown, and_true]

end MultiAddonManager
end MultiAddonRss
