import MultiAddonRss.Manager.Frames
import MultiAddonRss.Manager.HookSpecs

/-!
# Replies with an empty list

Without any addon for a client the reply is left to the engine, which sends its
own addon string. That string was built from the configured addons at the last
host state request, the client's list is built from the mounted ones.
-/

namespace MultiAddonRss

open Foundations

def lastRequest : List Call → Option (List Call × Host × HostStateRequest)
  | [] => none
  | call :: calls =>
    match lastRequest calls with
    | some (pre, h, request) => some (call :: pre, h, request)
    | none =>
      match call with
      | ⟨h, .setPendingHostStateRequest request⟩ => some ([], h, request)
      | _ => none

theorem lastRequest_concat_request (calls : List Call) (h : Host) (request : HostStateRequest) :
    lastRequest (calls ++ [⟨h, .setPendingHostStateRequest request⟩]) =
      some (calls, h, request) := by
  induction calls with
  | nil => rfl
  | cons call calls ih => simp [lastRequest, ih]

theorem lastRequest_concat_other (calls : List Call) {call : Call}
    (hcall : ∀ request, call.event ≠ .setPendingHostStateRequest request) :
    lastRequest (calls ++ [call]) = lastRequest calls := by
  induction calls with
  | nil =>
    obtain ⟨h, event⟩ := call
    cases event <;> simp_all [lastRequest]
  | cons head calls ih => simp [lastRequest, ih]

namespace MultiAddonManager

variable {m : MultiAddonManager}

theorem plainReply_mem_hookReplyConnection {now : ℚ} {steamID64 id : UInt64} {addons : CString} :
    .plainReply id addons ∈ (m.hookReplyConnection now steamID64).2 ↔
      id = steamID64 ∧ addons = m.serverAddons ∧ m.addonSources steamID64 = [] := by
  cases hlist : m.getClientAddons steamID64 false with
  | nil =>
    have hplain : (m.isClientRssAssetsEnabled steamID64 ||
        decide (m.getClientAddons steamID64 true = [])) = true ↔
          m.addonSources steamID64 = [] := by
      rw [← getClientAddons_true_eq_nil, Bool.or_eq_true, decide_eq_true_eq, or_iff_right_iff_imp]
      intro henabled
      rw [← getClientAddons_of_enabled henabled, hlist]
    rw [hookReplyConnection_of_nil hlist]
    by_cases hsources : m.addonSources steamID64 = []
    · rw [if_pos (hplain.2 hsources)]
      simp [hsources]
    · rw [if_neg (mt hplain.1 hsources)]
      simp [hsources]
  | cons firstAddon rest =>
    have hsources : m.addonSources steamID64 ≠ [] := by
      have hmem : firstAddon ∈ m.getClientAddons steamID64 false := by simp [hlist]
      exact List.ne_nil_of_mem (mem_getClientAddons.1 hmem).1
    cases htimeout : m.connectionTimedOut now (m.replyInfo now steamID64) with
    | true => simp [hookReplyConnection_of_timeout (by simp [hlist]) htimeout, hsources]
    | false => simp [hookReplyConnection_of_cons hlist htimeout, hsources]

def PlainRepliesEmpty (out : List Output) : Prop :=
  ∀ steamID64 addons, .plainReply steamID64 addons ∈ out → addons = []

/-- The request carries no addons, and none are configured. An empty identifier
as the only configured addon counts as none. -/
def RequestsNothing (m : MultiAddonManager) (request : HostStateRequest) : Prop :=
  (m.extraAddons = [] ∧ request.addons = []) ∨ m.extraAddons = [[]]

/-- Where a client without addons asks for a connection, the last host state
request, if any, carried no addons and was made when none were configured. -/
def ZeroListJustified (m : MultiAddonManager) (pre : List Call) (call : Call) : Prop :=
  ∀ steamID64, call.event = .replyConnection steamID64 →
    (run step m pre).addonSources steamID64 = [] →
      ∀ before h request, lastRequest pre = some (before, h, request) →
        (run step m before).RequestsNothing request

/-- The workshop map and the addon string of the engine since the last request. -/
def SinceLastRequest (m : MultiAddonManager) (pre : List Call) (m' : MultiAddonManager) : Prop :=
  match lastRequest pre with
  | none => m'.serverAddons = []
  | some (before, h, request) =>
    let requested := (run step m before).hookSetPendingHostStateRequest h request
    m'.currentWorkshopMap = requested.1.currentWorkshopMap ∧
      m'.serverAddons = requested.2.addons

theorem sinceLastRequest_run (hempty : m.serverAddons = []) (calls : List Call) :
    SinceLastRequest m calls (run step m calls) := by
  refine run_invariant step (SinceLastRequest m) hempty ?_ calls
  intro pre call hpre
  by_cases hcall : ∃ request, call.event = .setPendingHostStateRequest request
  · obtain ⟨h, event⟩ := call
    obtain ⟨request, rfl⟩ := hcall
    simp only [SinceLastRequest, lastRequest_concat_request]
    exact ⟨rfl, rfl⟩
  · have hother := not_exists.1 hcall
    have hstate := (run step m pre).serverState_step hother
    simp only [serverState, Prod.mk.injEq] at hstate
    simpa only [SinceLastRequest, lastRequest_concat_other pre hother, hstate] using hpre

theorem vectorToString_eq_nil {addons : List CString} (hne : addons ≠ []) :
    vectorToString addons = [] ↔ addons = [[]] := by
  match addons, hne with
  | [addon], _ => simp [vectorToString]
  | addon :: addon' :: rest, _ => simp [vectorToString, List.intercalate]

theorem rebuilt_eq_nil {h : Host} {request : HostStateRequest}
    (hmap : (m.hookSetPendingHostStateRequest h request).1.currentWorkshopMap = []) :
    (m.hookSetPendingHostStateRequest h request).2.addons = [] ↔ m.RequestsNothing request := by
  have hmap' : m.requestedWorkshopMap h request = [] := hmap
  simp only [hookSetPendingHostStateRequest, rebuiltAddons, hmap', RequestsNothing,
    List.isEmpty_nil, if_true, List.length_eq_zero_iff]
  by_cases hextra : m.extraAddons = []
  · simp [hextra]
  · simp [hextra, vectorToString_eq_nil hextra]

theorem currentWorkshopMap_of_no_sources {steamID64 : UInt64}
    (hsources : m.addonSources steamID64 = []) : m.currentWorkshopMap = [] := by
  by_contra hmap
  simp [addonSources, hmap] at hsources

theorem serverAddons_eq_nil_iff (hempty : m.serverAddons = []) {pre : List Call}
    (hmap : (run step m pre).currentWorkshopMap = []) :
    (run step m pre).serverAddons = [] ↔
      ∀ before h request, lastRequest pre = some (before, h, request) →
        (run step m before).RequestsNothing request := by
  have hsince := sinceLastRequest_run hempty pre
  cases hlast : lastRequest pre with
  | none => simpa [SinceLastRequest, hlast] using hsince
  | some last =>
    obtain ⟨before, h, request⟩ := last
    simp only [SinceLastRequest, hlast] at hsince
    obtain ⟨hmap', haddons⟩ := hsince
    rw [haddons, rebuilt_eq_nil (hmap'.symm.trans hmap)]
    simp

theorem plainRepliesEmpty_step_iff (hempty : m.serverAddons = []) (pre : List Call)
    (call : Call) :
    PlainRepliesEmpty (step (run step m pre) call).2 ↔ m.ZeroListJustified pre call := by
  constructor
  · rintro hstep steamID64 hevent hsources
    apply (serverAddons_eq_nil_iff hempty (currentWorkshopMap_of_no_sources hsources)).1
    obtain ⟨h, event⟩ := call
    obtain rfl : event = _ := hevent
    exact hstep steamID64 _ (plainReply_mem_hookReplyConnection.2 ⟨rfl, rfl, hsources⟩)
  · intro hjustified steamID64 addons hreply
    obtain ⟨id, hevent, hmem⟩ := plainReply_mem_step _ hreply
    obtain ⟨-, rfl, hsources⟩ := plainReply_mem_hookReplyConnection.1 hmem
    exact (serverAddons_eq_nil_iff hempty (currentWorkshopMap_of_no_sources hsources)).2
      (hjustified id hevent hsources)

/-- Starting with an empty addon string, every reply that is left to the engine
sends no addons exactly when every such reply follows a host state request that
asked for none. -/
theorem plain_replies_empty_iff (m : MultiAddonManager) (hempty : m.serverAddons = [])
    (calls : List Call) :
    EveryStep (fun pre call => PlainRepliesEmpty (step (run step m pre) call).2) calls ↔
      EveryStep m.ZeroListJustified calls :=
  everyStep_congr (plainRepliesEmpty_step_iff hempty)

theorem plain_replies_empty_iff_fresh_server :
    let calls : List Call := [⟨{}, .startupServer⟩, ⟨{}, .replyConnection 76561198000000001⟩]
    EveryStep (fun pre call => PlainRepliesEmpty (step (run step {} pre) call).2) calls ↔
      EveryStep (ZeroListJustified {}) calls :=
  plain_replies_empty_iff {} rfl _

/-- The configured addon 1111111111 is not installed yet when the map starts and
the client connects, so the engine sends an addon that was never mounted. -/
theorem plain_reply_sends_unmounted_addon :
    let h : Host :=
      { stringToUint64 := fun _ => 1111111111, levelFileExists := fun s => s = ascii "de_dust2" }
    let calls : List Call := [⟨h, .addAddon (ascii "1111111111") true⟩,
      ⟨h, .setPendingHostStateRequest { levelName := ascii "de_dust2" }⟩, ⟨h, .startupServer⟩]
    let reply : Call := ⟨h, .replyConnection 76561198000000001⟩
    ¬ EveryStep (fun pre call => PlainRepliesEmpty (step (run step {} pre) call).2)
      (calls ++ [reply]) := by
  intro h calls reply hrun
  have hstep := hrun calls reply [] rfl
  have hreply : .plainReply 76561198000000001 (ascii "1111111111") ∈
      (step (run step {} calls) reply).2 := by decide +kernel
  exact absurd (hstep _ _ hreply) (by decide +kernel)

end MultiAddonManager
end MultiAddonRss
