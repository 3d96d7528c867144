import MultiAddonRss.Manager.Connections

/-!
# What the connection hooks do

One equation for each way through a hook. The later modules use these and do not
unfold the hooks again.
-/

namespace MultiAddonRss
namespace MultiAddonManager

variable {m : MultiAddonManager} {now : ℚ} {steamID64 : UInt64}

/-! ## ReplyConnection -/

def replyInfo (m : MultiAddonManager) (now : ℚ) (steamID64 : UInt64) : ClientAddonInfo :=
  { (if m.cacheExpired now (m.clientAddons steamID64) then
      { m.clientAddons steamID64 with currentPendingAddon := [], downloadedAddons := [] }
    else m.clientAddons steamID64) with lastActiveTime := now }

theorem addonsToLoad_replyInfo (m : MultiAddonManager) (now : ℚ) (steamID64 : UInt64) :
    (m.replyInfo now steamID64).addonsToLoad = (m.clientAddons steamID64).addonsToLoad := by
  unfold replyInfo
  split_ifs <;> rfl

def repliedInfo (m : MultiAddonManager) (now : ℚ) (steamID64 : UInt64) (firstAddon : CString) :
    ClientAddonInfo :=
  let clientInfo := m.replyInfo now steamID64
  { clientInfo with
    connectedState := .connecting
    connectionStartTime :=
      if clientInfo.connectedState ≠ .connecting then now else clientInfo.connectionStartTime
    currentPendingAddon :=
      if firstAddon ∉ clientInfo.downloadedAddons then firstAddon
      else clientInfo.currentPendingAddon }

theorem hookReplyConnection_of_nil (hlist : m.getClientAddons steamID64 false = []) :
    m.hookReplyConnection now steamID64 =
      (m.setClient steamID64 { m.replyInfo now steamID64 with currentPendingAddon := [] },
        if m.isClientRssAssetsEnabled steamID64 || m.getClientAddons steamID64 true = [] then
          [.plainReply steamID64 m.serverAddons]
        else
          [.replyConnection steamID64 (vectorToString (m.getClientAddons steamID64 true))]) := by
  have hfull : (m.setClient steamID64 { m.replyInfo now steamID64 with
      currentPendingAddon := [] }).getClientAddons steamID64 true =
        m.getClientAddons steamID64 true :=
    getClientAddons_setClient steamID64 true (m.addonsToLoad_replyInfo now steamID64)
  unfold replyInfo at hfull
  simp only [hookReplyConnection, hlist, replyInfo, hfull, isClientRssAssetsEnabled_setClient]
  cases m.isClientRssAssetsEnabled steamID64 with
  | true => simp
  | false => split_ifs <;> simp_all

theorem hookReplyConnection_of_timeout (hlist : m.getClientAddons steamID64 false ≠ [])
    (htimeout : m.connectionTimedOut now (m.replyInfo now steamID64) = true) :
    m.hookReplyConnection now steamID64 =
      ({ m.setClient steamID64 (m.replyInfo now steamID64) with
          timedOutClients := insert steamID64 m.timedOutClients }, []) := by
  obtain ⟨firstAddon, rest, hcons⟩ := List.exists_cons_of_ne_nil hlist
  unfold replyInfo at htimeout
  simp only [hookReplyConnection, hcons, replyInfo, htimeout, if_true]

theorem hookReplyConnection_of_cons {firstAddon : CString} {rest : List CString}
    (hlist : m.getClientAddons steamID64 false = firstAddon :: rest)
    (htimeout : m.connectionTimedOut now (m.replyInfo now steamID64) = false) :
    m.hookReplyConnection now steamID64 =
      (m.setClient steamID64 (m.repliedInfo now steamID64 firstAddon),
        [.replyConnection steamID64 (vectorToString
          (m.repliedAddons steamID64 (m.repliedInfo now steamID64 firstAddon)))]) := by
  have hinfo : m.repliedInfo now steamID64 firstAddon =
      let clientInfo := m.replyInfo now steamID64
      let clientInfo :=
        if clientInfo.connectedState ≠ .connecting then
          { clientInfo with connectionStartTime := now, connectedState := .connecting }
        else clientInfo
      if firstAddon ∉ clientInfo.downloadedAddons then
        { clientInfo with currentPendingAddon := firstAddon }
      else clientInfo := by
    simp only [repliedInfo]
    obtain ⟨time, load, downloaded, pending, state, start⟩ := m.replyInfo now steamID64
    cases state <;> split_ifs <;> simp_all
  unfold replyInfo at htimeout
  simp only [hookReplyConnection, hlist, htimeout, hinfo, replyInfo, Bool.false_eq_true, if_false]

/-! ## ClientConnect -/

/-- The addons that a reconnect adds to the downloaded ones. For an opted-out
client that needs nothing more, the pending addon may be added twice. -/
def credited (m : MultiAddonManager) (now : ℚ) (steamID64 : UInt64) : List CString :=
  let clientInfo := m.clientAddons steamID64
  let pending := clientInfo.currentPendingAddon
  let bEnabled := m.isClientRssAssetsEnabled steamID64
  if pending = [] then []
  else
    (if !bEnabled && m.remainingAddons steamID64 = [] && !isRssAssetAddon pending &&
        pending ∉ clientInfo.downloadedAddons then [pending] else []) ++
      if now - clientInfo.lastActiveTime > m.conVars.mmExtraAddonsTimeout then []
      else if bEnabled || !isRssAssetAddon pending then [pending] else []

theorem mem_credited_eq {addon : CString} (haddon : addon ∈ m.credited now steamID64) :
    addon = (m.clientAddons steamID64).currentPendingAddon := by
  unfold credited at haddon
  simp only at haddon
  split_ifs at haddon <;> simp_all

theorem checkClientAddons_of_nil (hfull : m.getClientAddons steamID64 true = []) :
    m.checkClientAddons now steamID64 =
      m.setClient steamID64 { m.clientAddons steamID64 with connectedState := .joined } := by
  simp [checkClientAddons, hfull]

/-- The skipped assets stay in the list that would have to be empty. -/
theorem skippedRssAssets_eq_nil {pending : CString}
    (hleft : m.fullAddonsLeft steamID64 pending = []) :
    m.skippedRssAssets steamID64 pending = [] := by
  simp only [fullAddonsLeft, List.filter_eq_nil_iff] at hleft
  simp only [skippedRssAssets, List.filter_eq_nil_iff]
  intro addon haddon htest
  simp only [Bool.and_eq_true] at htest
  exact hleft addon haddon htest.1.1

/-- A reconnect credits at most the pending addon. The fast mount of the opt-out
branch is never reached. -/
theorem checkClientAddons_of_ne_nil (hdedicated : m.dedicatedServer = true)
    (hfull : m.getClientAddons steamID64 true ≠ []) :
    m.checkClientAddons now steamID64 =
      m.setClient steamID64 { m.clientAddons steamID64 with
        connectedState := .joined
        downloadedAddons :=
          (m.clientAddons steamID64).downloadedAddons ++ m.credited now steamID64
        currentPendingAddon := []
        lastActiveTime := now } := by
  have hdead : ∀ pending, (m.skippedRssAssets steamID64 pending ≠ [] &&
      decide (m.fullAddonsLeft steamID64 pending = [])) = false := by
    intro pending
    by_contra h
    simp only [Bool.not_eq_false, Bool.and_eq_true, decide_eq_true_eq] at h
    exact h.1 (skippedRssAssets_eq_nil h.2)
  simp only [checkClientAddons, credited, hfull, hdedicated, Bool.and_assoc, hdead, Bool.and_false,
    Bool.not_true, Bool.or_false, decide_false, Bool.false_eq_true, if_false]
  generalize m.clientAddons steamID64 = clientInfo
  by_cases hpending : clientInfo.currentPendingAddon = []
  · simp [hpending]
  · simp only [hpending, List.isEmpty_iff, if_false]
    congr 2
    split_ifs <;> simp

/-! ## SendNetMessage -/

variable {pMsg : SignonMessage}

@[simp] theorem changelevelAddons_setClient (info : ClientAddonInfo) (id : UInt64)
    (addons : CString) :
    (m.setClient steamID64 info).changelevelAddons id addons = m.changelevelAddons id addons := rfl

theorem hookSendNetMessage_of_changelevel (hdedicated : m.dedicatedServer = true)
    (hstate : pMsg.signonState = .changelevel) :
    m.hookSendNetMessage now steamID64 (.signonState pMsg) =
      let addon := (m.changelevelAddons steamID64 pMsg.addons).headD []
      (m.setClient steamID64 { m.clientAddons steamID64 with
          lastActiveTime := now, currentPendingAddon := addon },
        .signonState ⟨.changelevel, addon⟩) := by
  obtain ⟨state, addons⟩ := pMsg
  simp only at hstate
  simp only [hookSendNetMessage, dedicatedServer_setClient, hdedicated, hstate, sendChangelevel,
    changelevelAddons_setClient, clientAddons_setClient_self, setClient_setClient, Bool.not_true,
    Bool.false_eq_true, if_false, if_true]

theorem remainingAddons_active (m : MultiAddonManager) (now : ℚ) (steamID64 : UInt64) :
    (m.setClient steamID64 { m.clientAddons steamID64 with
      lastActiveTime := now }).remainingAddons steamID64 = m.remainingAddons steamID64 :=
  remainingAddons_setClient rfl rfl

theorem hookSendNetMessage_of_remaining (hdedicated : m.dedicatedServer = true)
    (hstate : pMsg.signonState ≠ .changelevel) {addon : CString} {rest : List CString}
    (hneed : m.remainingAddons steamID64 = addon :: rest) :
    m.hookSendNetMessage now steamID64 (.signonState pMsg) =
      (m.setClient steamID64 { m.clientAddons steamID64 with
          lastActiveTime := now, currentPendingAddon := addon },
        .signonState ⟨.changelevel, addon⟩) := by
  have hneed' := (m.remainingAddons_active now steamID64).trans hneed
  simp only [hookSendNetMessage, dedicatedServer_setClient, hdedicated, hstate, sendStaged, hneed',
    clientAddons_setClient_self, setClient_setClient, Bool.not_true, Bool.false_eq_true, if_false]

theorem hookSendNetMessage_of_complete (hdedicated : m.dedicatedServer = true)
    (hstate : pMsg.signonState ≠ .changelevel) (hneed : m.remainingAddons steamID64 = []) :
    m.hookSendNetMessage now steamID64 (.signonState pMsg) =
      (m.setClient steamID64 { m.clientAddons steamID64 with
          lastActiveTime := now
          downloadedAddons :=
            if !(m.clientAddons steamID64).currentPendingAddon.isEmpty &&
                m.isClientRssAssetsEnabled steamID64 then
              (m.clientAddons steamID64).downloadedAddons ++
                [(m.clientAddons steamID64).currentPendingAddon]
            else (m.clientAddons steamID64).downloadedAddons
          currentPendingAddon := [] },
        .signonState pMsg) := by
  have hneed' := (m.remainingAddons_active now steamID64).trans hneed
  simp only [hookSendNetMessage, dedicatedServer_setClient, hdedicated, hstate, sendStaged, hneed',
    clientAddons_setClient_self, setClient_setClient, isClientRssAssetsEnabled_setClient,
    Bool.not_true, Bool.false_eq_true, if_false]

/-! ## GameFrame -/

def Kicks (m : MultiAddonManager) (clients : List ServerSideClient) (steamID64 : UInt64) : Prop :=
  steamID64 ∈ m.timedOutClients ∧ steamID64 ∈ clients.map ServerSideClient.steamID64

instance decidableKicks (m : MultiAddonManager) (clients : List ServerSideClient)
    (steamID64 : UInt64) : Decidable (m.Kicks clients steamID64) :=
  inferInstanceAs (Decidable (_ ∧ _))

variable {pClient : ServerSideClient} {clients : List ServerSideClient}

theorem kicks_cons :
    m.Kicks (pClient :: clients) steamID64 ↔
      (pClient.steamID64 ∈ m.timedOutClients ∧ steamID64 = pClient.steamID64) ∨
        m.Kicks clients steamID64 := by
  simp only [Kicks, List.map_cons, List.mem_cons]
  constructor
  · rintro ⟨htimeout, rfl | hmem⟩
    · exact .inl ⟨htimeout, rfl⟩
    · exact .inr ⟨htimeout, hmem⟩
  · rintro (⟨htimeout, rfl⟩ | ⟨htimeout, hmem⟩)
    · exact ⟨htimeout, .inl rfl⟩
    · exact ⟨htimeout, .inr hmem⟩

theorem kicks_erase {info : ClientAddonInfo} :
    Kicks { m.setClient pClient.steamID64 info with
        timedOutClients := m.timedOutClients.erase pClient.steamID64 } clients steamID64 ↔
      steamID64 ≠ pClient.steamID64 ∧ m.Kicks clients steamID64 := by
  simp only [Kicks, Finset.mem_erase, and_assoc]

variable (m clients steamID64)

theorem mem_timedOutClients_hookGameFrame :
    steamID64 ∈ (hookGameFrame clients m).1.timedOutClients ↔
      steamID64 ∈ m.timedOutClients ∧ ¬ m.Kicks clients steamID64 := by
  induction clients generalizing m with
  | nil => simp [hookGameFrame, Kicks]
  | cons pClient clients ih =>
    simp only [hookGameFrame, kicks_cons]
    split_ifs with hkick
    · rw [ih, kicks_erase, Finset.mem_erase]
      tauto
    · rw [ih]
      tauto

theorem clientAddons_hookGameFrame :
    (hookGameFrame clients m).1.clientAddons steamID64 =
      if m.Kicks clients steamID64 then
        { m.clientAddons steamID64 with connectedState := .none }
      else m.clientAddons steamID64 := by
  induction clients generalizing m with
  | nil => simp [hookGameFrame, Kicks]
  | cons pClient clients ih =>
    simp only [hookGameFrame, kicks_cons]
    by_cases hkick : pClient.steamID64 ∈ m.timedOutClients
    · simp only [hkick, if_true, true_and, ih, kicks_erase]
      by_cases hid : steamID64 = pClient.steamID64
      · simp [hid, setClient]
      · simp [hid, setClient]
    · simp only [hkick, if_false, false_and, false_or, ih]

theorem disconnect_mem_hookGameFrame :
    Output.disconnect steamID64 ∈ (hookGameFrame clients m).2 ↔ m.Kicks clients steamID64 := by
  induction clients generalizing m with
  | nil => simp [hookGameFrame, Kicks]
  | cons pClient clients ih =>
    simp only [hookGameFrame, kicks_cons]
    by_cases hkick : pClient.steamID64 ∈ m.timedOutClients
    · simp only [hkick, if_true, true_and, List.mem_cons, Output.disconnect.injEq, ih, kicks_erase]
      tauto
    · simp only [hkick, if_false, false_and, false_or, ih]

end MultiAddonManager
end MultiAddonRss
