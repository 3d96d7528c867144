import MultiAddonRss.Foundations.PastTime
import MultiAddonRss.Manager.Progress

/-!
# What a client has when its messages are forwarded

A message is forwarded when every addon of the list counts as downloaded. An
addon comes to count as downloaded when the client reconnects after it was named
to it, but also when nothing is left to download while it is pending. Where the
second way is only taken after such a reconnect, lists may change at any time.
-/

namespace MultiAddonRss

open Foundations

def Output.Names (steamID64 : UInt64) (addon : CString) : Output → Prop
  | .replyConnection id addons => id = steamID64 ∧
      ∃ vector, addon ∈ vector ∧ vectorToString vector = addons
  | .netMessage id msg => id = steamID64 ∧ msg = .signonState ⟨.changelevel, addon⟩
  | _ => False

namespace MultiAddonManager

variable (m : MultiAddonManager) {steamID64 : UInt64}

/-! ## One step -/

def Clears (m : MultiAddonManager) (steamID64 : UInt64) (call : Call) : Prop :=
  (call.event = .clientActive steamID64 ∧ m.conVars.mmCacheClientsWithAddons = false) ∨
    (call.event = .replyConnection steamID64 ∧
      m.cacheExpired call.host.now (m.clientAddons steamID64) = true)

/-- The calls other than `ClientConnect` that complete the pending addon: a
`SignonState` with nothing left to download, and a timely connection of an HLTV
client. -/
def CompletesPending (m : MultiAddonManager) (steamID64 : UInt64) (call : Call) : Prop :=
  (∃ pMsg, call.event = .sendNetMessage steamID64 (.signonState pMsg) ∧
    pMsg.signonState ≠ .changelevel ∧ m.remainingAddons steamID64 = []) ∨
  (call.event = .canHLTVClientConnect steamID64 ∧ m.getClientAddons steamID64 false ≠ [] ∧
    call.host.now - (m.clientAddons steamID64).lastActiveTime ≤ m.conVars.mmExtraAddonsTimeout)

structure StepEffect (m : MultiAddonManager) (steamID64 : UInt64) (call : Call) : Prop where
  pending : ((m.step call).1.progress steamID64).2 = [] ∨
    ((m.step call).1.progress steamID64).2 = (m.progress steamID64).2 ∨
    ∃ o ∈ (m.step call).2, o.Names steamID64 ((m.step call).1.progress steamID64).2
  downloaded : ∀ addon ∈ ((m.step call).1.progress steamID64).1,
    (addon ∈ (m.progress steamID64).1 ∧ ¬ m.Clears steamID64 call) ∨
    (addon = (m.progress steamID64).2 ∧ addon ≠ [] ∧
      (call.event = .clientConnect steamID64 ∨ m.CompletesPending steamID64 call))

variable {m} {call : Call}

theorem downloaded_of_clears (hclears : m.Clears steamID64 call) :
    ((m.step call).1.progress steamID64).1 = [] := by
  obtain ⟨h, event⟩ := call
  rcases hclears with ⟨hevent, hcache⟩ | ⟨hevent, hcache⟩
  · obtain rfl : event = _ := hevent
    simp [step, hookClientActive, hcache, progress]
  · obtain rfl : event = _ := hevent
    rw [step, downloaded_hookReplyConnection]
    simp [replyInfo, hcache]

/-- For an enabled client, only a timely reconnect credits the pending addon. -/
theorem mem_credited {now : ℚ} {addon : CString}
    (henabled : m.isClientRssAssetsEnabled steamID64 = true)
    (haddon : addon ∈ m.credited now steamID64) :
    addon = (m.progress steamID64).2 ∧ addon ≠ [] ∧
      now - (m.clientAddons steamID64).lastActiveTime ≤ m.conVars.mmExtraAddonsTimeout := by
  simp only [credited, henabled] at haddon
  split_ifs at haddon with hpending htimeout <;> simp_all [progress]

theorem mem_downloaded_of_enabled {addon : CString}
    (henabled : m.isClientRssAssetsEnabled steamID64 = true)
    (haddon : addon ∈ ((m.step call).1.progress steamID64).1) :
    addon ∈ (m.progress steamID64).1 ∨
    (addon = (m.progress steamID64).2 ∧ addon ≠ [] ∧
      (call.event = .clientConnect steamID64 ∨ m.CompletesPending steamID64 call)) := by
  by_cases hcheck : m.ChecksPending steamID64 call
  · rw [m.downloaded_of_checksPending hcheck] at haddon
    refine (List.mem_append.1 haddon).imp_right fun hcredited => ?_
    obtain ⟨hpending, hne, htimely⟩ := mem_credited henabled hcredited
    obtain ⟨-, hevent, hfull⟩ := hcheck
    rw [← getClientAddons_of_enabled henabled] at hfull
    exact ⟨hpending, hne, hevent.imp_right fun hHLTV => .inr ⟨hHLTV, hfull, htimely⟩⟩
  by_cases hcomplete : m.CompletesList steamID64 call
  · rw [m.downloaded_of_completesList hcomplete] at haddon
    refine (List.mem_append.1 haddon).imp_right fun hmem => ?_
    obtain rfl := List.mem_singleton.1 hmem
    obtain ⟨-, -, hne, hneed, pMsg, hevent, hstate⟩ := hcomplete
    exact ⟨rfl, hne, .inr (.inl ⟨pMsg, hevent, hstate, hneed⟩)⟩
  · exact .inl ((m.downloaded_of_not hcheck hcomplete).subset haddon)

/-- The pending addon of a result is none, the one before, or one that an output
names to the client. -/
def PendingNamed (m : MultiAddonManager) (steamID64 : UInt64)
    (result : MultiAddonManager × List Output) : Prop :=
  (result.1.progress steamID64).2 = [] ∨
  (result.1.progress steamID64).2 = (m.progress steamID64).2 ∨
  ∃ o ∈ result.2, o.Names steamID64 (result.1.progress steamID64).2

theorem currentPendingAddon_replyInfo (m : MultiAddonManager) (now : ℚ) (steamID64 : UInt64) :
    (m.replyInfo now steamID64).currentPendingAddon = [] ∨
      (m.replyInfo now steamID64).currentPendingAddon = (m.progress steamID64).2 := by
  cases hcache : m.cacheExpired now (m.clientAddons steamID64) <;>
    simp [replyInfo, progress, hcache]

theorem pending_replyConnection (now : ℚ) (henabled : m.isClientRssAssetsEnabled steamID64 = true) :
    m.PendingNamed steamID64 (m.hookReplyConnection now steamID64) := by
  have hpending := m.currentPendingAddon_replyInfo now steamID64
  cases hlist : m.getClientAddons steamID64 false with
  | nil =>
    rw [hookReplyConnection_of_nil hlist]
    exact .inl (by simp)
  | cons firstAddon rest =>
    cases htimeout : m.connectionTimedOut now (m.replyInfo now steamID64) with
    | true =>
      rw [hookReplyConnection_of_timeout (by simp [hlist]) htimeout]
      apply hpending.imp
      · intro hnil
        simpa [progress] using hnil
      · intro hsame
        exact .inl (by simpa [progress] using hsame)
    | false =>
      rw [hookReplyConnection_of_cons hlist htimeout]
      by_cases hfirst : firstAddon ∈ (m.replyInfo now steamID64).downloadedAddons
      · apply hpending.imp
        · intro hnil
          simp [repliedInfo, hfirst, hnil]
        · intro hsame
          exact .inl (by simp [repliedInfo, hfirst, hsame])
      · have hnamed : firstAddon ∈
            m.repliedAddons steamID64 (m.repliedInfo now steamID64 firstAddon) := by
          simp [repliedAddons, repliedInfo, henabled, hlist, hfirst]
        have hoffered : (m.repliedInfo now steamID64 firstAddon).currentPendingAddon =
            firstAddon := by
          simp [repliedInfo, hfirst]
        refine .inr (.inr ⟨_, List.mem_singleton_self _, rfl, _, ?_, rfl⟩)
        rwa [progress_setClient_self, hoffered]

theorem pending_checkClientAddons (now : ℚ) (hdedicated : m.dedicatedServer = true) :
    ((m.checkClientAddons now steamID64).progress steamID64).2 = [] ∨
      ((m.checkClientAddons now steamID64).progress steamID64).2 = (m.progress steamID64).2 := by
  by_cases hfull : m.getClientAddons steamID64 true = []
  · rw [checkClientAddons_of_nil hfull]
    exact .inr (by simp [progress])
  · rw [checkClientAddons_of_ne_nil hdedicated hfull]
    exact .inl (by simp)

theorem pending_clientActive :
    ((m.hookClientActive steamID64).progress steamID64).2 = (m.progress steamID64).2 := by
  unfold hookClientActive
  split_ifs
  · rfl
  · rw [progress_setClient_self, progress]

theorem pending_sendNetMessage (h : Host) (pData : NetMessage)
    (hdedicated : m.dedicatedServer = true) :
    m.PendingNamed steamID64 (m.step ⟨h, .sendNetMessage steamID64 pData⟩) := by
  cases pData with
  | other => exact .inr (.inl (by simp [step, hookSendNetMessage, progress]))
  | signonState pMsg =>
    by_cases hstate : pMsg.signonState = .changelevel
    · have hstep : m.hookSendNetMessage h.now steamID64 (.signonState pMsg) = _ :=
        hookSendNetMessage_of_changelevel hdedicated hstate
      exact .inr (.inr (by simp [step, hstep, Output.Names]))
    cases hneed : m.remainingAddons steamID64 with
    | nil =>
      have hstep : m.hookSendNetMessage h.now steamID64 (.signonState pMsg) = _ :=
        hookSendNetMessage_of_complete hdedicated hstate hneed
      exact .inl (by simp [step, hstep])
    | cons addon rest =>
      have hstep : m.hookSendNetMessage h.now steamID64 (.signonState pMsg) = _ :=
        hookSendNetMessage_of_remaining hdedicated hstate hneed
      exact .inr (.inr (by simp [step, hstep, Output.Names]))

theorem pending_step (hdedicated : m.dedicatedServer = true)
    (henabled : m.isClientRssAssetsEnabled steamID64 = true)
    (hrefresh : ∀ pszAddon, call.event ≠ .addClientAddon pszAddon steamID64 true) :
    m.PendingNamed steamID64 (m.step call) := by
  cases hcall : call.event.concerns steamID64 with
  | false => exact .inr (.inl (by rw [m.progress_step henabled hcall]))
  | true =>
    obtain ⟨h, event⟩ := call
    cases event with
    | replyConnection id =>
      obtain rfl : id = steamID64 := by simpa [Event.concerns] using hcall
      exact pending_replyConnection h.now henabled
    | clientConnect id | canHLTVClientConnect id =>
      obtain rfl : id = steamID64 := by simpa [Event.concerns] using hcall
      exact (pending_checkClientAddons h.now hdedicated).imp_right .inl
    | clientActive id =>
      obtain rfl : id = steamID64 := by simpa [Event.concerns] using hcall
      exact .inr (.inl pending_clientActive)
    | sendNetMessage id pData =>
      obtain rfl : id = steamID64 := by simpa [Event.concerns] using hcall
      exact pending_sendNetMessage h pData hdedicated
    | addClientAddon pszAddon id bRefresh =>
      obtain ⟨rfl, rfl⟩ : id = steamID64 ∧ bRefresh = true := by
        simpa [Event.concerns] using hcall
      exact absurd rfl (hrefresh pszAddon)
    | _ => simp [Event.concerns] at hcall

theorem stepEffect (hdedicated : m.dedicatedServer = true)
    (henabled : m.isClientRssAssetsEnabled steamID64 = true)
    (hrefresh : ∀ pszAddon, call.event ≠ .addClientAddon pszAddon steamID64 true) :
    m.StepEffect steamID64 call := by
  constructor
  · exact pending_step hdedicated henabled hrefresh
  · intro addon haddon
    have hclears : ¬ m.Clears steamID64 call := by
      intro hclears
      simp [downloaded_of_clears hclears] at haddon
    exact (mem_downloaded_of_enabled henabled haddon).imp_left fun hmem => ⟨hmem, hclears⟩

/-! ## Whole runs -/

def Named (m : MultiAddonManager) (steamID64 : UInt64) (addon : CString) : List Call → Prop :=
  Once fun pre call => ∃ o ∈ (step (run step m pre) call).2, o.Names steamID64 addon

/-- Since its downloaded addons were last cleared, the client has connected after
the addon was named to it. -/
def Reconnected (m : MultiAddonManager) (steamID64 : UInt64) (addon : CString) :
    List Call → Prop :=
  Since (fun pre call => call.event = .clientConnect steamID64 ∧ m.Named steamID64 addon pre)
    fun pre call => ¬ (run step m pre).Clears steamID64 call

/-- The client stays enabled, and `AddClientAddon` is called for it without refresh. -/
def EnabledRun (m : MultiAddonManager) (steamID64 : UInt64) (calls : List Call) : Prop :=
  EveryStep (fun pre call => (run step m pre).isClientRssAssetsEnabled steamID64 = true ∧
    ∀ pszAddon, call.event ≠ .addClientAddon pszAddon steamID64 true) calls

/-- A pending addon that is completed is none, one that was downloaded before, or
one that the client has reconnected for. -/
def CompletesReconnected (m : MultiAddonManager) (steamID64 : UInt64) (pre : List Call)
    (call : Call) : Prop :=
  (run step m pre).CompletesPending steamID64 call →
    ((run step m pre).progress steamID64).2 = [] ∨
    ((run step m pre).progress steamID64).2 ∈ ((run step m pre).progress steamID64).1 ∨
    m.Reconnected steamID64 ((run step m pre).progress steamID64).2 pre

/-- Where a `SignonState` is forwarded, the client has reconnected for every
addon of its list. -/
def GateClosed (m : MultiAddonManager) (steamID64 : UInt64) (pre : List Call) (call : Call) :
    Prop :=
  ∀ pMsg, call.event = .sendNetMessage steamID64 (.signonState pMsg) →
    pMsg.signonState ≠ .changelevel →
    .netMessage steamID64 (.signonState pMsg) ∈ (step (run step m pre) call).2 →
    ∀ addon ∈ (run step m pre).getClientAddons steamID64 false,
      m.Reconnected steamID64 addon pre

/-- Where a client stands after a run. -/
structure ProgressInv (m : MultiAddonManager) (steamID64 : UInt64) (pre : List Call)
    (m' : MultiAddonManager) : Prop where
  pending : (m'.progress steamID64).2 ≠ [] → m.Named steamID64 (m'.progress steamID64).2 pre
  downloaded : ∀ addon ∈ (m'.progress steamID64).1, m.Reconnected steamID64 addon pre

theorem progressInv_step (hdedicated : m.dedicatedServer = true) {pre : List Call} {call : Call}
    (henabled : (run step m pre).isClientRssAssetsEnabled steamID64 = true)
    (hrefresh : ∀ pszAddon, call.event ≠ .addClientAddon pszAddon steamID64 true)
    (hcompletes : m.CompletesReconnected steamID64 pre call)
    (hpre : m.ProgressInv steamID64 pre (run step m pre)) :
    m.ProgressInv steamID64 (pre ++ [call]) (step (run step m pre) call).1 := by
  have heffect := stepEffect (dedicatedServer_run hdedicated pre) henabled hrefresh
  refine ⟨fun hne => ?_, fun addon haddon => ?_⟩
  · rcases heffect.pending with hnil | hsame | hnamed
    · exact absurd hnil hne
    · rw [hsame] at hne ⊢
      exact once_concat.2 (.inl (hpre.pending hne))
    · exact once_concat.2 (.inr hnamed)
  · rcases heffect.downloaded addon haddon with ⟨hmem, hkept⟩ | ⟨rfl, hne, hconnect | hcomplete⟩
    · exact since_concat.2 (.inr ⟨hpre.downloaded addon hmem, hkept⟩)
    · exact since_concat.2 (.inl ⟨hconnect, hpre.pending hne⟩)
    · have hkept : ¬ (run step m pre).Clears steamID64 call := by
        rintro (⟨hevent, -⟩ | ⟨hevent, -⟩) <;>
          rcases hcomplete with ⟨pMsg, hevent', -⟩ | ⟨hevent', -⟩ <;> simp [hevent] at hevent'
      rcases hcompletes hcomplete with hnil | hmem | hreconnected
      · exact absurd hnil hne
      · exact since_concat.2 (.inr ⟨hpre.downloaded _ hmem, hkept⟩)
      · exact since_concat.2 (.inr ⟨hreconnected, hkept⟩)

theorem progressInv_run (hdedicated : m.dedicatedServer = true)
    (hdownloaded : (m.clientAddons steamID64).downloadedAddons = [])
    (hpending : (m.clientAddons steamID64).currentPendingAddon = []) {calls : List Call}
    (hcalls : m.EnabledRun steamID64 calls)
    (hcompletes : EveryStep (m.CompletesReconnected steamID64) calls) :
    m.ProgressInv steamID64 calls (run step m calls) := by
  refine run_induction step (m.ProgressInv steamID64)
    (fun pre call post hsplit => And.intro (hcalls pre call post hsplit)
      (hcompletes pre call post hsplit)) ?_ ?_
  · exact ⟨by simp [progress, hpending], by simp [progress, hdownloaded]⟩
  · rintro pre call ⟨⟨henabled, hrefresh⟩, hcomplete⟩ hpre
    exact progressInv_step hdedicated henabled hrefresh hcomplete hpre

theorem remainingAddons_of_forwarded {h : Host} {pMsg : SignonMessage}
    (hdedicated : m.dedicatedServer = true) (hstate : pMsg.signonState ≠ .changelevel)
    (hforward : .netMessage steamID64 (.signonState pMsg) ∈
      (m.step ⟨h, .sendNetMessage steamID64 (.signonState pMsg)⟩).2) :
    m.remainingAddons steamID64 = [] := by
  cases hneed : m.remainingAddons steamID64 with
  | nil => rfl
  | cons addon rest =>
    have hstep : m.hookSendNetMessage h.now steamID64 (.signonState pMsg) = _ :=
      hookSendNetMessage_of_remaining hdedicated hstate hneed
    obtain rfl : pMsg = ⟨.changelevel, addon⟩ := by simpa [step, hstep] using hforward
    exact absurd rfl hstate

/-- In a run of an enabled client that starts with an empty record, the gate
stays closed if every pending addon that is completed without `ClientConnect` is
one that the client has reconnected for. -/
theorem gate_closed (m : MultiAddonManager) (steamID64 : UInt64)
    (hdedicated : m.dedicatedServer = true)
    (hdownloaded : (m.clientAddons steamID64).downloadedAddons = [])
    (hpending : (m.clientAddons steamID64).currentPendingAddon = []) (calls : List Call)
    (hcalls : m.EnabledRun steamID64 calls)
    (hcompletes : EveryStep (m.CompletesReconnected steamID64) calls) :
    EveryStep (m.GateClosed steamID64) calls := by
  rintro pre ⟨h, event⟩ post rfl pMsg rfl hstate hforward addon haddon
  have hpre := progressInv_run hdedicated hdownloaded hpending
    (EveryStep.of_append _ hcalls) (EveryStep.of_append _ hcompletes)
  have hremaining :=
    remainingAddons_of_forwarded (dedicatedServer_run hdedicated pre) hstate hforward
  rw [remainingAddons_eq_filter, List.filter_eq_nil_iff] at hremaining
  exact hpre.downloaded addon (by simpa [progress] using hremaining addon haddon)

theorem gate_closed_one_addon :
    let m : MultiAddonManager := { mountedAddons := [ascii "1111111111"] }
    let calls : List Call := [⟨{}, .replyConnection 76561198000000001⟩,
      ⟨{ now := 5 }, .clientConnect 76561198000000001⟩,
      ⟨{ now := 6 }, .sendNetMessage 76561198000000001 (.signonState ⟨.new, []⟩)⟩]
    EveryStep (m.GateClosed 76561198000000001) calls := by
  intro m calls
  apply gate_closed m 76561198000000001 rfl rfl rfl calls
  · exact everyStep_cons.2 ⟨⟨by decide +kernel, by simp⟩, everyStep_cons.2
      ⟨⟨by decide +kernel, by simp⟩, everyStep_cons.2
        ⟨⟨by decide +kernel, by simp⟩, everyStep_nil⟩⟩⟩
  · exact everyStep_cons.2 ⟨fun _ => .inl (by decide +kernel), everyStep_cons.2
      ⟨by simp [CompletesReconnected, CompletesPending], everyStep_cons.2
        ⟨fun _ => .inl (by decide +kernel), everyStep_nil⟩⟩⟩

/-- The addon 1111111111 is offered, removed, completed by the next message without
a reconnect, and added again. The message after that is forwarded. -/
theorem gate_opened_by_removed_addon :
    let m : MultiAddonManager := {}
    let signon (state : SignonState) : Call :=
      ⟨{}, .sendNetMessage 76561198000000001 (.signonState ⟨state, []⟩)⟩
    let calls : List Call := [⟨{}, .replyConnection 76561198000000001⟩,
      ⟨{}, .clientConnect 76561198000000001⟩,
      ⟨{}, .addClientAddon (ascii "1111111111") 76561198000000001 false⟩, signon .new,
      ⟨{}, .removeClientAddon (ascii "1111111111") 76561198000000001⟩, signon .prespawn,
      ⟨{}, .addClientAddon (ascii "1111111111") 76561198000000001 false⟩]
    m.EnabledRun 76561198000000001 (calls ++ [signon .spawn]) ∧
      ¬ EveryStep (m.GateClosed 76561198000000001) (calls ++ [signon .spawn]) := by
  intro m signon calls
  constructor
  · simp only [EnabledRun, calls, signon, List.cons_append, List.nil_append, everyStep_cons,
      everyStep_nil, and_true]
    refine ⟨⟨?_, ?_⟩, ⟨?_, ?_⟩, ⟨?_, ?_⟩, ⟨?_, ?_⟩, ⟨?_, ?_⟩, ⟨?_, ?_⟩, ⟨?_, ?_⟩, ⟨?_, ?_⟩⟩ <;>
      first | decide +kernel | simp
  · intro hrun
    have hgate := (hrun calls (signon .spawn) [] rfl) ⟨.spawn, []⟩ rfl (by decide)
      (by decide +kernel) (ascii "1111111111") (by decide +kernel)
    have hreply : (m.step ⟨{}, .replyConnection 76561198000000001⟩).2 =
        [.plainReply 76561198000000001 []] := by decide +kernel
    -- the only `ClientConnect` comes before the offer
    have hnamed : ¬ m.Named 76561198000000001 (ascii "1111111111")
        [⟨{}, .replyConnection 76561198000000001⟩] := by
      simp [Named, once_cons, hreply, Output.Names]
    simp [Reconnected, since_cons, calls, signon, hnamed] at hgate

end MultiAddonManager
end MultiAddonRss
