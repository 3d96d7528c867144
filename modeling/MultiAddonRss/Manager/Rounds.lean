import MultiAddonRss.Foundations.StagedDelivery
import MultiAddonRss.Manager.HookSpecs

/-!
# Rounds of the staged download

A round is a connection reply, the reconnect of the client and one `SignonState`
of the server. With fixed lists the three hooks together are one round of the
delivery of the client's list, where the pending addon is credited unless it is
an asset that the client opted out of.
-/

namespace MultiAddonRss

open Foundations

structure Round where
  replyTime : ℚ
  connectTime : ℚ
  sendTime : ℚ
  pMsg : SignonMessage

def offeredAddon : NetMessage → Option CString
  | .signonState ⟨.changelevel, addon⟩ => some addon
  | _ => none

theorem offeredAddon_of_ne {pMsg : SignonMessage} (hstate : pMsg.signonState ≠ .changelevel) :
    offeredAddon (.signonState pMsg) = none := by
  obtain ⟨state, addons⟩ := pMsg
  cases state <;> first | rfl | exact absurd rfl hstate

def pendingOption (pending : CString) : Option CString :=
  if pending = [] then none else some pending

namespace MultiAddonManager

variable (steamID64 : UInt64) (m : MultiAddonManager)

/-- The new state and the message that the client gets. -/
def roundStep (r : Round) : MultiAddonManager × NetMessage :=
  let m := (m.hookReplyConnection r.replyTime steamID64).1
  let m := m.hookClientConnect r.connectTime steamID64
  m.hookSendNetMessage r.sendTime steamID64 (.signonState r.pMsg)

/-- The reply meets neither the cache expiry nor the connection timeout, the
client comes back in time, and the server does not change the map. -/
structure RoundOk (r : Round) : Prop where
  cache : m.cacheExpired r.replyTime (m.clientAddons steamID64) = false
  connection : m.connectionTimedOut r.replyTime (m.replyInfo r.replyTime steamID64) = false
  timely : r.connectTime -
      ((m.hookReplyConnection r.replyTime steamID64).1.clientAddons steamID64).lastActiveTime ≤
    m.conVars.mmExtraAddonsTimeout
  state : r.pMsg.signonState ≠ .changelevel

instance (r : Round) : Decidable (m.RoundOk steamID64 r) :=
  decidable_of_iff (_ ∧ _ ∧ _ ∧ _) ⟨fun ⟨h₁, h₂, h₃, h₄⟩ => ⟨h₁, h₂, h₃, h₄⟩,
    fun ⟨h₁, h₂, h₃, h₄⟩ => ⟨h₁, h₂, h₃, h₄⟩⟩

/-- What the client has and what it was offered last. -/
def delivery : Delivery CString :=
  ⟨(m.clientAddons steamID64).downloadedAddons.toFinset,
    pendingOption (m.clientAddons steamID64).currentPendingAddon⟩

def credits (addon : CString) : Bool :=
  m.isClientRssAssetsEnabled steamID64 || !isRssAssetAddon addon

variable {steamID64 m} {r : Round}

/-! ## The three hooks of a round -/

theorem reply_of_ok (hok : m.RoundOk steamID64 r)
    (hids : ∀ a ∈ m.getClientAddons steamID64 false, a ≠ []) :
    ∃ info : ClientAddonInfo,
      (m.hookReplyConnection r.replyTime steamID64).1 = m.setClient steamID64 info ∧
      info.addonsToLoad = (m.clientAddons steamID64).addonsToLoad ∧
      info.downloadedAddons = (m.clientAddons steamID64).downloadedAddons ∧
      pendingOption info.currentPendingAddon =
        (m.delivery steamID64).carried (m.getClientAddons steamID64 false) := by
  have hreply : m.replyInfo r.replyTime steamID64 =
      { m.clientAddons steamID64 with lastActiveTime := r.replyTime } := by
    simp [replyInfo, hok.cache]
  cases hlist : m.getClientAddons steamID64 false with
  | nil =>
    refine ⟨_, by rw [hookReplyConnection_of_nil hlist], ?_, ?_, ?_⟩
    · simp [hreply]
    · simp [hreply]
    · simp [pendingOption, Delivery.carried]
  | cons firstAddon rest =>
    have hne : firstAddon ≠ [] := hids firstAddon (by simp [hlist])
    refine ⟨_, by rw [hookReplyConnection_of_cons hlist hok.connection], ?_, ?_, ?_⟩
    · simp [repliedInfo, hreply]
    · simp [repliedInfo, hreply]
    · by_cases hmem : firstAddon ∈ (m.clientAddons steamID64).downloadedAddons
      · simp [repliedInfo, hreply, hmem, Delivery.carried, delivery]
      · simp [repliedInfo, hreply, hmem, hne, Delivery.carried, delivery, pendingOption]

theorem pendingOption_eq_none {pending : CString} :
    pendingOption pending = none ↔ pending = [] := by
  simp [pendingOption]

@[simp] theorem credits_setClient (info : ClientAddonInfo) :
    (m.setClient steamID64 info).credits steamID64 = m.credits steamID64 := rfl

theorem toFinset_credited (m : MultiAddonManager) (steamID64 : UInt64) {now : ℚ}
    (htimely : now - (m.clientAddons steamID64).lastActiveTime ≤ m.conVars.mmExtraAddonsTimeout) :
    ((m.clientAddons steamID64).downloadedAddons ++ m.credited now steamID64).toFinset =
      (m.delivery steamID64).received (m.credits steamID64) (m.delivery steamID64).pending := by
  by_cases hpending : (m.clientAddons steamID64).currentPendingAddon = []
  · simp [credited, delivery, pendingOption, hpending, Delivery.received]
  · simp only [delivery, pendingOption, hpending, if_false, credited, not_lt.2 htimely, credits,
      Delivery.received]
    cases hcredits : m.isClientRssAssetsEnabled steamID64 ||
        !isRssAssetAddon (m.clientAddons steamID64).currentPendingAddon with
    | true =>
      simp only [if_true]
      ext a
      split_ifs
      all_goals
        simp only [List.mem_toFinset, List.mem_append, List.mem_singleton, List.not_mem_nil,
          Finset.mem_insert]
        tauto
    | false =>
      obtain ⟨henabled, hrss⟩ := Bool.or_eq_false_iff.1 hcredits
      have hasset : isRssAssetAddon (m.clientAddons steamID64).currentPendingAddon = true := by
        simpa using hrss
      simp [hasset]

theorem connect_of_ok (hdedicated : m.dedicatedServer = true) (hok : m.RoundOk steamID64 r)
    (hids : ∀ a ∈ m.getClientAddons steamID64 false, a ≠ []) :
    ∃ info : ClientAddonInfo,
      (m.hookReplyConnection r.replyTime steamID64).1.hookClientConnect r.connectTime steamID64 =
        m.setClient steamID64 info ∧
      info.addonsToLoad = (m.clientAddons steamID64).addonsToLoad ∧
      info.currentPendingAddon = [] ∧
      info.downloadedAddons.toFinset = (m.delivery steamID64).reconnected
        (m.getClientAddons steamID64 false) (m.credits steamID64) := by
  obtain ⟨info, hreply, hload, hdownloaded, hpending⟩ := reply_of_ok hok hids
  have htimely := hok.timely
  rw [hreply, clientAddons_setClient_self] at htimely
  have hfull := getClientAddons_setClient (m := m) steamID64 true hload
  rw [hreply, hookClientConnect]
  by_cases hnil : m.getClientAddons steamID64 true = []
  · rw [checkClientAddons_of_nil (hfull.trans hnil), setClient_setClient,
      clientAddons_setClient_self]
    have hlist : m.getClientAddons steamID64 false = [] := by
      refine List.eq_nil_iff_forall_not_mem.2 fun a ha => ?_
      have hmem := mem_getClientAddons.2 ⟨(mem_getClientAddons.1 ha).1, .inl rfl⟩
      rw [hnil] at hmem
      simp at hmem
    rw [hlist] at hpending ⊢
    refine ⟨_, rfl, hload, pendingOption_eq_none.1 hpending, ?_⟩
    simp [hdownloaded, Delivery.reconnected, Delivery.received, Delivery.carried, delivery]
  · rw [checkClientAddons_of_ne_nil (m := m.setClient steamID64 info) hdedicated
        (fun h => hnil (hfull.symm.trans h)),
      setClient_setClient, clientAddons_setClient_self]
    refine ⟨_, rfl, hload, rfl, ?_⟩
    have hcredited := (m.setClient steamID64 info).toFinset_credited steamID64
      (by simpa using htimely : r.connectTime - _ ≤ _)
    simp only [clientAddons_setClient_self] at hcredited
    rw [hcredited]
    simp only [delivery, clientAddons_setClient_self, hpending, hdownloaded,
      Delivery.reconnected, Delivery.received, credits_setClient]

/-- With fixed lists, a round of the hooks is a round of the delivery. -/
theorem delivery_roundStep (hdedicated : m.dedicatedServer = true) (hok : m.RoundOk steamID64 r)
    (hids : ∀ a ∈ m.getClientAddons steamID64 false, a ≠ []) :
    ∃ info : ClientAddonInfo,
      (m.roundStep steamID64 r).1 = m.setClient steamID64 info ∧
      info.addonsToLoad = (m.clientAddons steamID64).addonsToLoad ∧
      ((m.roundStep steamID64 r).1.delivery steamID64, offeredAddon (m.roundStep steamID64 r).2) =
        (m.delivery steamID64).round (m.getClientAddons steamID64 false) (m.credits steamID64) ∧
      (offeredAddon (m.roundStep steamID64 r).2 = none →
        (m.roundStep steamID64 r).2 = .signonState r.pMsg ∧ info.currentPendingAddon = []) := by
  obtain ⟨info, hconnect, hload, hpending, hdownloaded⟩ := connect_of_ok hdedicated hok hids
  have hremaining : (m.setClient steamID64 info).remainingAddons steamID64 =
      (m.getClientAddons steamID64 false).filter fun a => a ∉
        (m.delivery steamID64).reconnected (m.getClientAddons steamID64 false)
          (m.credits steamID64) := by
    rw [remainingAddons_eq_filter, getClientAddons_setClient _ _ hload, ← hdownloaded,
      clientAddons_setClient_self]
    simp only [List.mem_toFinset]
  simp only [roundStep, hconnect]
  cases hrest : (m.setClient steamID64 info).remainingAddons steamID64 with
  | nil =>
    rw [hookSendNetMessage_of_complete (m := m.setClient steamID64 info) hdedicated hok.state hrest,
      setClient_setClient, clientAddons_setClient_self]
    refine ⟨_, rfl, hload, ?_, fun _ => ⟨rfl, rfl⟩⟩
    have hoffered := offeredAddon_of_ne hok.state
    unfold Delivery.round
    rw [← hremaining, hrest]
    simp [delivery, hoffered, hpending, hdownloaded, pendingOption]
  | cons addon rest =>
    rw [hookSendNetMessage_of_remaining (m := m.setClient steamID64 info) hdedicated hok.state
      hrest, setClient_setClient, clientAddons_setClient_self]
    refine ⟨_, rfl, hload, ?_, by simp [offeredAddon]⟩
    have hne : addon ≠ [] := by
      have hmem : addon ∈ (m.setClient steamID64 info).remainingAddons steamID64 := by simp [hrest]
      rw [hremaining] at hmem
      exact hids addon (List.mem_of_mem_filter hmem)
    unfold Delivery.round
    rw [← hremaining, hrest]
    simp [delivery, offeredAddon, hdownloaded, pendingOption, hne]

end MultiAddonManager
end MultiAddonRss
