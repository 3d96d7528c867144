import MultiAddonRss.Foundations.PastTime
import MultiAddonRss.Manager.Frames
import MultiAddonRss.Manager.HookSpecs

/-!
# Connection attempts

`Hook_ReplyConnection` times the connection attempt of a client and marks a
client that takes too long. The mark is acted on in a later frame, and it stays
when the client leaves before that.
-/

namespace MultiAddonRss

open Foundations

inductive ConnectionEvent
  | replyConnection (steamID64 : UInt64)
  | clientConnect (steamID64 : UInt64)
  | clientDisconnect (steamID64 : UInt64)
  | gameFrame
  | startupServer

structure ConnectionCall where
  host : Host
  event : ConnectionEvent

namespace MultiAddonManager

def connectionStep (m : MultiAddonManager) : ConnectionCall → MultiAddonManager × List Output
  | ⟨h, .replyConnection steamID64⟩ => m.hookReplyConnection h.now steamID64
  | ⟨h, .clientConnect steamID64⟩ => (m.hookClientConnect h.now steamID64, [])
  | ⟨h, .clientDisconnect steamID64⟩ => (m.hookClientDisconnect h.now steamID64, [])
  | ⟨h, .gameFrame⟩ => hookGameFrame h.clients m
  | ⟨h, .startupServer⟩ => m.hookStartupServer h

/-! ## The history of a client -/

/-- A reply that gets to the timing code: the client has addons to load. -/
def timesReply (m : MultiAddonManager) (steamID64 : UInt64) : ConnectionCall → Bool
  | ⟨_, .replyConnection id⟩ => id = steamID64 && m.getClientAddons steamID64 false ≠ []
  | _ => false

def endsAttempt (m : MultiAddonManager) (steamID64 : UInt64) : ConnectionCall → Bool
  | ⟨_, .clientConnect id⟩ | ⟨_, .clientDisconnect id⟩ => id = steamID64
  | ⟨h, .gameFrame⟩ => m.Kicks h.clients steamID64
  | _ => false

variable (m : MultiAddonManager) (steamID64 : UInt64)

/-- An attempt of the client has started and not ended. -/
def InAttempt (pre : List ConnectionCall) : Prop :=
  Since (fun pre call => (run connectionStep m pre).timesReply steamID64 call = true)
    (fun pre call => (run connectionStep m pre).endsAttempt steamID64 call = false) pre

/-- The attempt that the client is in started at the time `t`. -/
def StartedAt (t : ℚ) (pre : List ConnectionCall) : Prop :=
  Since (fun pre call => (run connectionStep m pre).timesReply steamID64 call = true ∧
      ¬ m.InAttempt steamID64 pre ∧ call.host.now = t)
    (fun pre call => (run connectionStep m pre).endsAttempt steamID64 call = false) pre

/-- The attempt that the client is in has had a reply later than the timeout. -/
def LateAttempt (pre : List ConnectionCall) : Prop :=
  Since (fun pre call => (run connectionStep m pre).timesReply steamID64 call = true ∧
      ∃ t, m.StartedAt steamID64 t pre ∧
        call.host.now - t > (run connectionStep m pre).conVars.mmAddonConnectionTimeout)
    (fun pre call => (run connectionStep m pre).endsAttempt steamID64 call = false) pre

def marks (m : MultiAddonManager) (steamID64 : UInt64) (call : ConnectionCall) : Bool :=
  m.timesReply steamID64 call &&
    m.connectionTimedOut call.host.now (m.clientAddons steamID64)

/-- Since it was last marked, the client has neither connected nor disconnected
and was not kicked. -/
def MarkedInAttempt (pre : List ConnectionCall) : Prop :=
  Since (fun pre call => (run connectionStep m pre).marks steamID64 call = true)
    (fun pre call => (run connectionStep m pre).endsAttempt steamID64 call = false) pre

/-- Every client that a call disconnects is in an attempt with a late reply. -/
def KicksLate (pre : List ConnectionCall) (call : ConnectionCall) : Prop :=
  ∀ steamID64, .disconnect steamID64 ∈ (connectionStep (run connectionStep m pre) call).2 →
    m.InAttempt steamID64 pre ∧ m.LateAttempt steamID64 pre

/-- The clients in the list of a frame that are marked have not left since. -/
def KicksMarked (pre : List ConnectionCall) (call : ConnectionCall) : Prop :=
  call.event = .gameFrame → ∀ steamID64,
    (run connectionStep m pre).Kicks call.host.clients steamID64 →
      m.MarkedInAttempt steamID64 pre

def ConnectingSince (t : ℚ) : Prop :=
  (m.clientAddons steamID64).connectedState = .connecting ∧
    (m.clientAddons steamID64).connectionStartTime = t

variable {m steamID64}

/-! ## One step -/

theorem connection_replyInfo (m : MultiAddonManager) (now : ℚ) (steamID64 : UInt64) :
    (m.replyInfo now steamID64).connectedState = (m.clientAddons steamID64).connectedState ∧
      (m.replyInfo now steamID64).connectionStartTime =
        (m.clientAddons steamID64).connectionStartTime := by
  unfold replyInfo
  split_ifs <;> exact ⟨rfl, rfl⟩

theorem connectionTimedOut_replyInfo (now : ℚ) :
    m.connectionTimedOut now (m.replyInfo now steamID64) =
      m.connectionTimedOut now (m.clientAddons steamID64) := by
  simp only [connectionTimedOut, m.connection_replyInfo now steamID64]

theorem connectingSince_hookReplyConnection (now t : ℚ) :
    (m.hookReplyConnection now steamID64).1.ConnectingSince steamID64 t ↔
      (m.getClientAddons steamID64 false ≠ [] ∧
        (m.clientAddons steamID64).connectedState ≠ .connecting ∧ now = t) ∨
      m.ConnectingSince steamID64 t := by
  have hreply := m.connection_replyInfo now steamID64
  cases hlist : m.getClientAddons steamID64 false with
  | nil => simp [hookReplyConnection_of_nil hlist, ConnectingSince, hreply]
  | cons firstAddon rest =>
    cases htimeout : m.connectionTimedOut now (m.replyInfo now steamID64) with
    | true =>
      rw [hookReplyConnection_of_timeout (by simp [hlist]) htimeout]
      rw [connectionTimedOut_replyInfo] at htimeout
      simp only [connectionTimedOut, Bool.and_eq_true, decide_eq_true_eq] at htimeout
      simp [ConnectingSince, hreply, htimeout.1.1]
    | false =>
      rw [hookReplyConnection_of_cons hlist htimeout]
      by_cases hstate : (m.clientAddons steamID64).connectedState = .connecting <;>
        simp [ConnectingSince, repliedInfo, hreply, hstate]

theorem RecordChange.connectingSince_of_ne {m' : MultiAddonManager} {id : UInt64} {t : ℚ}
    (hchange : m.RecordChange id m') (hid : id ≠ steamID64) :
    m'.ConnectingSince steamID64 t ↔ m.ConnectingSince steamID64 t := by
  obtain ⟨info, timedOutClients, rfl⟩ := hchange
  unfold ConnectingSince
  rw [clientAddons_setClient_of_ne m id info hid.symm]

theorem connectedState_checkClientAddons (now : ℚ) :
    ((m.checkClientAddons now steamID64).clientAddons steamID64).connectedState = .joined := by
  simp only [checkClientAddons]
  split_ifs <;> simp

/-- After a step, a client has been connecting since `t` if its first reply came
then, or if it was before and the step does not end the attempt. -/
theorem connectingSince_step (m : MultiAddonManager) (steamID64 : UInt64)
    (call : ConnectionCall) (t : ℚ) :
    (m.connectionStep call).1.ConnectingSince steamID64 t ↔
      (m.timesReply steamID64 call = true ∧
        (m.clientAddons steamID64).connectedState ≠ .connecting ∧ call.host.now = t) ∨
      (m.ConnectingSince steamID64 t ∧ m.endsAttempt steamID64 call = false) := by
  obtain ⟨h, event⟩ := call
  cases event with
  | replyConnection id =>
    by_cases hid : id = steamID64
    · subst hid
      simp [connectionStep, timesReply, endsAttempt, connectingSince_hookReplyConnection]
    · simp [connectionStep, timesReply, endsAttempt, hid,
        (m.recordChange_hookReplyConnection h.now id).connectingSince_of_ne hid]
  | clientConnect id =>
    by_cases hid : id = steamID64
    · subst hid
      simp [connectionStep, timesReply, endsAttempt, ConnectingSince, hookClientConnect,
        connectedState_checkClientAddons]
    · simp [connectionStep, timesReply, endsAttempt, hid, hookClientConnect,
        (m.recordChange_checkClientAddons h.now id).connectingSince_of_ne hid]
  | clientDisconnect id =>
    by_cases hid : id = steamID64
    · subst hid
      simp [connectionStep, timesReply, endsAttempt, ConnectingSince, hookClientDisconnect]
    · simp [connectionStep, timesReply, endsAttempt, hid, hookClientDisconnect,
        (m.recordChange_setClient id _).connectingSince_of_ne hid]
  | gameFrame =>
    simp only [connectionStep, timesReply, endsAttempt, ConnectingSince,
      clientAddons_hookGameFrame]
    by_cases hkick : m.Kicks h.clients steamID64 <;> simp [hkick]
  | startupServer =>
    have hrecords := congrArg ClientSide.clientAddons (m.serverSide_hookStartupServer h).clientSide
    simp only [clientSide] at hrecords
    simp [connectionStep, timesReply, endsAttempt, ConnectingSince, hrecords]

theorem connectionTimedOut_iff {now : ℚ} :
    m.connectionTimedOut now (m.clientAddons steamID64) = true ↔
      0 < m.conVars.mmAddonConnectionTimeout ∧
        ∃ t, m.ConnectingSince steamID64 t ∧ now - t > m.conVars.mmAddonConnectionTimeout := by
  simp only [connectionTimedOut, ConnectingSince, Bool.and_eq_true, decide_eq_true_eq]
  constructor
  · rintro ⟨⟨hstate, hpositive⟩, hlate⟩
    exact ⟨hpositive, _, ⟨hstate, rfl⟩, hlate⟩
  · rintro ⟨hpositive, t, ⟨hstate, rfl⟩, hlate⟩
    exact ⟨⟨hstate, hpositive⟩, hlate⟩

theorem conVars_hookReplyConnection (now : ℚ) (id : UInt64) :
    (m.hookReplyConnection now id).1.conVars = m.conVars := by
  obtain ⟨_, _, hchange⟩ := m.recordChange_hookReplyConnection now id
  rw [hchange]
  rfl

theorem timedOutClients_hookReplyConnection {now : ℚ} {id : UInt64}
    (hmem : steamID64 ∈ (m.hookReplyConnection now id).1.timedOutClients) :
    steamID64 ∈ m.timedOutClients ∨ 0 < m.conVars.mmAddonConnectionTimeout := by
  cases hlist : m.getClientAddons id false with
  | nil =>
    rw [hookReplyConnection_of_nil hlist] at hmem
    exact .inl hmem
  | cons firstAddon rest =>
    cases htimeout : m.connectionTimedOut now (m.replyInfo now id) with
    | true =>
      rw [connectionTimedOut_replyInfo] at htimeout
      exact .inr (connectionTimedOut_iff.1 htimeout).1
    | false =>
      rw [hookReplyConnection_of_cons hlist htimeout] at hmem
      exact .inl hmem

theorem timeout_step (m : MultiAddonManager) (steamID64 : UInt64) (call : ConnectionCall) :
    (m.connectionStep call).1.conVars = m.conVars ∧
      (steamID64 ∈ (m.connectionStep call).1.timedOutClients →
        steamID64 ∈ m.timedOutClients ∨ 0 < m.conVars.mmAddonConnectionTimeout) := by
  obtain ⟨h, event⟩ := call
  cases event with
  | replyConnection id =>
    exact ⟨conVars_hookReplyConnection h.now id, timedOutClients_hookReplyConnection⟩
  | clientConnect id =>
    simp only [connectionStep, hookClientConnect, checkClientAddons]
    split_ifs <;> exact ⟨rfl, .inl⟩
  | clientDisconnect id => exact ⟨rfl, .inl⟩
  | gameFrame =>
    obtain ⟨_, _, hchange⟩ := m.recordsChange_hookGameFrame h.clients
    refine ⟨by rw [connectionStep, hchange], fun hmem => .inl ?_⟩
    exact ((m.mem_timedOutClients_hookGameFrame steamID64 h.clients).1 hmem).1
  | startupServer =>
    obtain ⟨_, _, _, _, hchange⟩ := (mountEffect_refreshAddons h
      { m with globalsReady := true, timedOutClients := ∅ } false).change
    simp only [connectionStep, hookStartupServer]
    rw [hchange]
    exact ⟨rfl, fun hmem => absurd hmem (Finset.notMem_empty _)⟩

/-! ## Runs -/

structure AttemptInv (m : MultiAddonManager) (steamID64 : UInt64) (pre : List ConnectionCall)
    (m' : MultiAddonManager) : Prop where
  conVars : m'.conVars = m.conVars
  connecting : (m'.clientAddons steamID64).connectedState = .connecting ↔
    m.InAttempt steamID64 pre
  started : ∀ t, m'.ConnectingSince steamID64 t ↔ m.StartedAt steamID64 t pre
  positive : steamID64 ∈ m'.timedOutClients → 0 < m.conVars.mmAddonConnectionTimeout

theorem connecting_iff_exists :
    (m.clientAddons steamID64).connectedState = .connecting ↔
      ∃ t, m.ConnectingSince steamID64 t := by
  simp [ConnectingSince]

theorem endsAttempt_of_timesReply {call : ConnectionCall}
    (hreply : m.timesReply steamID64 call = true) : m.endsAttempt steamID64 call = false := by
  obtain ⟨h, event⟩ := call
  cases event with
  | replyConnection id => rfl
  | _ => simp [timesReply] at hreply

theorem attemptInv_step {pre : List ConnectionCall} {call : ConnectionCall}
    (hpre : m.AttemptInv steamID64 pre (run connectionStep m pre)) :
    m.AttemptInv steamID64 (pre ++ [call])
      (connectionStep (run connectionStep m pre) call).1 := by
  have htimeout := (run connectionStep m pre).timeout_step steamID64 call
  have hstep := (run connectionStep m pre).connectingSince_step steamID64 call
  refine ⟨htimeout.1.trans hpre.conVars, ?_, fun t => ?_, fun hmem => ?_⟩
  · rw [InAttempt, since_concat, ← InAttempt, ← hpre.connecting, connecting_iff_exists]
    simp only [hstep, exists_or, exists_and_left, exists_and_right, exists_eq', and_true,
      connecting_iff_exists]
    have hends : (run connectionStep m pre).timesReply steamID64 call = true →
        (run connectionStep m pre).endsAttempt steamID64 call = false := endsAttempt_of_timesReply
    tauto
  · rw [StartedAt, since_concat, ← StartedAt, ← hpre.started, ← hpre.connecting, hstep]
  · rcases htimeout.2 hmem with hold | hpositive
    · exact hpre.positive hold
    · rwa [hpre.conVars] at hpositive

theorem attemptInv_run (htimedOut : m.timedOutClients = ∅)
    (hconnecting : (m.clientAddons steamID64).connectedState ≠ .connecting)
    (calls : List ConnectionCall) :
    m.AttemptInv steamID64 calls (run connectionStep m calls) := by
  refine run_invariant connectionStep (m.AttemptInv steamID64) ?_
    (fun _ _ hpre => attemptInv_step hpre) calls
  exact ⟨rfl, by simp [InAttempt, hconnecting], by simp [StartedAt, ConnectingSince, hconnecting],
    by simp [htimedOut]⟩

/-- Where there is a timeout, the replies that mark a client are the late ones. -/
theorem lateAttempt_iff_marked (htimedOut : m.timedOutClients = ∅)
    (hconnecting : (m.clientAddons steamID64).connectedState ≠ .connecting)
    (hpositive : 0 < m.conVars.mmAddonConnectionTimeout) {calls : List ConnectionCall} :
    m.LateAttempt steamID64 calls ↔ m.MarkedInAttempt steamID64 calls := by
  apply since_congr
  intro pre call
  have hpre := attemptInv_run htimedOut hconnecting pre
  rw [marks, Bool.and_eq_true, connectionTimedOut_iff, hpre.conVars]
  simp only [hpre.started, hpositive, true_and]

theorem inAttempt_of_late {calls : List ConnectionCall}
    (hlate : m.LateAttempt steamID64 calls) : m.InAttempt steamID64 calls :=
  hlate.mono fun _ _ h => h.1

theorem disconnect_mem_connectionStep {call : ConnectionCall} :
    .disconnect steamID64 ∈ (m.connectionStep call).2 ↔
      call.event = .gameFrame ∧ m.Kicks call.host.clients steamID64 := by
  obtain ⟨h, event⟩ := call
  cases event with
  | gameFrame => simp [connectionStep, disconnect_mem_hookGameFrame]
  | replyConnection id =>
    simp only [connectionStep, hookReplyConnection]
    split <;> split_ifs <;> simp
  | startupServer =>
    have hside : Output.disconnect steamID64 ∉ (m.hookStartupServer h).2 := by
      intro hmem
      have hserver := (m.serverSide_hookStartupServer h).outputs _ hmem
      simp [Output.isServerSide] at hserver
    simp [connectionStep, hside]
  | _ => simp [connectionStep]

/-- From a state in which nobody is connecting, every client that is kicked is in
an attempt with a late reply exactly when no marked client has left before the
frame that kicks it. -/
theorem kicks_late_iff (m : MultiAddonManager) (htimedOut : m.timedOutClients = ∅)
    (hconnecting : ∀ steamID64, (m.clientAddons steamID64).connectedState ≠ .connecting)
    (calls : List ConnectionCall) :
    EveryStep m.KicksLate calls ↔ EveryStep m.KicksMarked calls := by
  apply everyStep_congr
  intro pre call
  simp only [KicksLate, KicksMarked, disconnect_mem_connectionStep]
  have hiff (steamID64 : UInt64)
      (hkick : (run connectionStep m pre).Kicks call.host.clients steamID64) :
      m.LateAttempt steamID64 pre ↔ m.MarkedInAttempt steamID64 pre :=
    lateAttempt_iff_marked htimedOut (hconnecting steamID64)
      ((attemptInv_run htimedOut (hconnecting steamID64) pre).positive hkick.1)
  constructor
  · intro hlate hframe steamID64 hkick
    exact (hiff steamID64 hkick).1 (hlate steamID64 ⟨hframe, hkick⟩).2
  · rintro hmarked steamID64 ⟨hframe, hkick⟩
    have hlate := (hiff steamID64 hkick).2 (hmarked hframe steamID64 hkick)
    exact ⟨inAttempt_of_late hlate, hlate⟩

theorem kicks_late_iff_slow_client :
    let m : MultiAddonManager := { mountedAddons := [ascii "1111111111"] }
    let calls : List ConnectionCall :=
      [⟨{}, .replyConnection 76561198000000001⟩,
        ⟨{ now := 31 }, .replyConnection 76561198000000001⟩,
        ⟨{ now := 31, clients := [⟨76561198000000001, .none⟩] }, .gameFrame⟩]
    EveryStep m.KicksLate calls ↔ EveryStep m.KicksMarked calls :=
  kicks_late_iff _ rfl (by simp) _

/-- The client is marked at 31 seconds and disconnects. It comes back and is kicked
in the first frame of its new attempt, which has had one reply. -/
theorem marked_client_kicked_after_return :
    let m : MultiAddonManager := { mountedAddons := [ascii "1111111111"] }
    let calls : List ConnectionCall :=
      [⟨{}, .replyConnection 76561198000000001⟩,
        ⟨{ now := 31 }, .replyConnection 76561198000000001⟩,
        ⟨{ now := 32 }, .clientDisconnect 76561198000000001⟩,
        ⟨{ now := 33 }, .replyConnection 76561198000000001⟩]
    let frame : ConnectionCall :=
      ⟨{ now := 33, clients := [⟨76561198000000001, .none⟩] }, .gameFrame⟩
    ¬ EveryStep m.KicksLate (calls ++ [frame]) := by
  intro m calls frame hrun
  have hkicked := hrun calls frame [] rfl 76561198000000001 (by decide +kernel)
  -- a late reply would come after another one of the same attempt
  have hsecond : Since (fun pre call =>
      (run connectionStep m pre).timesReply 76561198000000001 call = true ∧
        m.InAttempt 76561198000000001 pre)
      (fun pre call => (run connectionStep m pre).endsAttempt 76561198000000001 call = false)
      calls := by
    apply hkicked.2.mono
    rintro pre call ⟨hreply, t, hstarted, -⟩
    exact ⟨hreply, hstarted.mono fun _ _ h => h.1⟩
  unfold InAttempt at hsecond
  exact absurd hsecond (by decide +kernel)

end MultiAddonManager
end MultiAddonRss
