import MultiAddonRss.CommaLists
import MultiAddonRss.Manager.Frames
import MultiAddonRss.Manager.HookSpecs

/-!
# Offers to clients

A client is offered addons by a `CHANGELEVEL` message, whose text it splits at commas.
The send hook compares the entries of the lists with the assets as whole strings, so an
entry with a comma can hide one. The refresh of `AddClientAddon` goes past the hook and
names the added addon, whatever the client needs.
-/

namespace MultiAddonRss

open Foundations

def offer (steamID64 : UInt64) (addon : CString) : Output :=
  .netMessage steamID64 (.signonState ⟨.changelevel, addon⟩)

namespace MultiAddonManager

/-- Of the addons that a message names to an opted-out client, none is an asset but the
workshop map. -/
def RespectsOptOut (m : MultiAddonManager) (out : List Output) : Prop :=
  ∀ steamID64 addons, offer steamID64 addons ∈ out →
    m.isClientRssAssetsEnabled steamID64 = false →
      ∀ addon ∈ stringToVector addons,
        isRssAssetAddon addon = false ∨ addon = m.currentWorkshopMap

/-- The pending addon of every client with an offer is the offered one. -/
def StoresOffers (m : MultiAddonManager) (out : List Output) : Prop :=
  ∀ steamID64 addon, offer steamID64 addon ∈ out → addon ≠ [] →
    (m.clientAddons steamID64).currentPendingAddon = addon

variable {m : MultiAddonManager}

/-! ## The send hook -/

theorem isStaged_eq_true_iff {steamID64 : UInt64} {addon : CString} :
    m.isStaged steamID64 addon = true ↔
      m.isClientRssAssetsEnabled steamID64 = true ∨ isRssAssetAddon addon = false ∨
        (m.currentWorkshopMap ≠ [] ∧ addon = m.currentWorkshopMap) := by
  simp [isStaged, or_assoc]

theorem isStaged_of_mem_changelevelAddons {steamID64 : UInt64} {addons addon : CString}
    (h : addon ∈ m.changelevelAddons steamID64 addons) : m.isStaged steamID64 addon = true := by
  have htest := (List.mem_filter.1 h).2
  rw [isStaged_eq_true_iff]
  simp only [Bool.or_eq_true, Bool.and_eq_true, Bool.not_eq_true', List.isEmpty_eq_false_iff,
    decide_eq_true_eq] at htest
  tauto

theorem isStaged_of_mem_remainingAddons {steamID64 : UInt64} {addon : CString}
    (h : addon ∈ m.remainingAddons steamID64) : m.isStaged steamID64 addon = true := by
  rw [remainingAddons_eq_filter, List.mem_filter] at h
  exact isStaged_of_mem_getClientAddons h.1

/-- An offer that passes the hook is left pending. It is empty or one of the addons of a
map change of the server, or else the first addon that the client needs. -/
theorem offer_of_hookSendNetMessage (hdedicated : m.dedicatedServer = true) {now : ℚ}
    {steamID64 : UInt64} {pData : NetMessage} {addons : CString}
    (hoffer : .signonState ⟨.changelevel, addons⟩ =
      (m.hookSendNetMessage now steamID64 pData).2) :
    ((m.hookSendNetMessage now steamID64 pData).1.clientAddons steamID64).currentPendingAddon =
        addons ∧
      ∃ pMsg, pData = .signonState pMsg ∧
        ((addons = [] ∨ addons ∈ m.changelevelAddons steamID64 pMsg.addons) ∨
          pMsg.signonState ≠ .changelevel ∧ addons ∈ (m.remainingAddons steamID64).head?) := by
  cases pData with
  | other => simp [hookSendNetMessage] at hoffer
  | signonState pMsg =>
    by_cases hstate : pMsg.signonState = .changelevel
    · rw [hookSendNetMessage_of_changelevel hdedicated hstate] at hoffer ⊢
      obtain rfl : addons = (m.changelevelAddons steamID64 pMsg.addons).headD [] := by
        simpa using hoffer
      refine ⟨by simp, pMsg, rfl, .inl ?_⟩
      cases m.changelevelAddons steamID64 pMsg.addons <;> simp
    cases hneed : m.remainingAddons steamID64 with
    | nil =>
      rw [hookSendNetMessage_of_complete hdedicated hstate hneed] at hoffer
      obtain rfl : _ = pMsg := by simpa using hoffer
      exact absurd rfl hstate
    | cons head rest =>
      rw [hookSendNetMessage_of_remaining hdedicated hstate hneed] at hoffer ⊢
      obtain rfl : addons = head := by simpa using hoffer
      exact ⟨by simp, pMsg, rfl, .inr ⟨hstate, rfl⟩⟩

theorem isStaged_of_hookSendNetMessage (hdedicated : m.dedicatedServer = true) {now : ℚ}
    {steamID64 : UInt64} {pData : NetMessage} {addons : CString}
    (hoffer : .signonState ⟨.changelevel, addons⟩ =
      (m.hookSendNetMessage now steamID64 pData).2) : m.isStaged steamID64 addons = true := by
  obtain ⟨-, pMsg, -, (rfl | hmem) | ⟨-, hhead⟩⟩ := offer_of_hookSendNetMessage hdedicated hoffer
  · simp [isStaged, isRssAssetAddon_nil]
  · exact isStaged_of_mem_changelevelAddons hmem
  · exact isStaged_of_mem_remainingAddons (List.mem_of_mem_head? hhead)

/-! ## The refresh -/

/-- The state in which the refresh loop of a call starts. -/
def withClientAddon (m : MultiAddonManager) (pszAddon : CString) (steamID64 : UInt64) :
    MultiAddonManager :=
  m.setClientList steamID64 (m.clientList steamID64 ++ [pszAddon])

def Refreshes (m : MultiAddonManager) (pszAddon : CString) (steamID64 : UInt64)
    (bRefresh : Bool) : Prop :=
  bRefresh = true ∧ m.globalsReady = true ∧ pszAddon ∉ m.clientList steamID64

theorem globalsReady_setClientList (steamID64 : UInt64) (addons : List CString) :
    (m.setClientList steamID64 addons).globalsReady = m.globalsReady := by
  unfold setClientList
  split_ifs <;> rfl

theorem clientAddons_withClientAddon (pszAddon : CString) (steamID64 id : UInt64) :
    ((m.withClientAddon pszAddon steamID64).clientAddons id).downloadedAddons =
        (m.clientAddons id).downloadedAddons ∧
      ((m.withClientAddon pszAddon steamID64).clientAddons id).currentPendingAddon =
        (m.clientAddons id).currentPendingAddon := by
  unfold withClientAddon setClientList
  split_ifs
  · exact ⟨rfl, rfl⟩
  · by_cases hid : id = steamID64
    · subst hid
      simp [setAddonsToLoad]
    · rw [setAddonsToLoad, clientAddons_setClient_of_ne _ _ _ hid]
      exact ⟨rfl, rfl⟩

theorem isStaged_withClientAddon (pszAddon : CString) (steamID64 id : UInt64) (addon : CString) :
    (m.withClientAddon pszAddon steamID64).isStaged id addon = m.isStaged id addon := by
  unfold withClientAddon setClientList
  split_ifs <;> rfl

theorem addonSources_withClientAddon (pszAddon : CString) (steamID64 : UInt64) :
    (m.withClientAddon pszAddon steamID64).addonSources steamID64 =
      m.addonSources steamID64 ++ [pszAddon] := by
  by_cases hid : steamID64 = 0
  · simp [withClientAddon, setClientList, clientList, setGlobalClientAddons, addonSources, hid]
  · simp [withClientAddon, setClientList, clientList, setAddonsToLoad, addonSources, hid]

theorem remainingAddons_withClientAddon (m : MultiAddonManager) (pszAddon : CString)
    (steamID64 : UInt64) :
    (m.withClientAddon pszAddon steamID64).remainingAddons steamID64 =
        m.remainingAddons steamID64 ∨
      (m.withClientAddon pszAddon steamID64).remainingAddons steamID64 =
        m.remainingAddons steamID64 ++ [pszAddon] := by
  have hdownloaded := (clientAddons_withClientAddon (m := m) pszAddon steamID64 steamID64).1
  simp only [remainingAddons_eq_filter, getClientAddons_eq_filter, addonSources_withClientAddon,
    isStaged_withClientAddon, hdownloaded, Foundations.eraseDups_concat]
  split_ifs
  · exact .inl rfl
  · simp only [List.filter_append, List.filter_singleton]
    cases false || m.isStaged steamID64 pszAddon
    · simp
    · by_cases hmem : pszAddon ∈ (m.clientAddons steamID64).downloadedAddons <;> simp [hmem]

theorem addClientAddon_of_refreshes {h : Host} {pszAddon : CString} {steamID64 : UInt64}
    {bRefresh : Bool} (hrefresh : m.Refreshes pszAddon steamID64 bRefresh) :
    m.addClientAddon h pszAddon steamID64 bRefresh =
      refreshClients pszAddon steamID64 h.clients (m.withClientAddon pszAddon steamID64) := by
  obtain ⟨rfl, hready, hnew⟩ := hrefresh
  simp [addClientAddon, hnew, globalsReady_setClientList, hready, withClientAddon]

theorem addClientAddon_outputs_of_not {h : Host} {pszAddon : CString} {steamID64 : UInt64}
    {bRefresh : Bool} (hrefresh : ¬ m.Refreshes pszAddon steamID64 bRefresh) :
    (m.addClientAddon h pszAddon steamID64 bRefresh).2 = [] := by
  simp only [addClientAddon, globalsReady_setClientList]
  split_ifs with hmem hready
  · rfl
  · simp only [Bool.and_eq_true] at hready
    exact absurd ⟨hready.1, hready.2, hmem⟩ hrefresh
  · rfl

/-- The offers of a call go to the targets of the loop and name the added addon. -/
theorem offer_mem_addClientAddon {h : Host} {pszAddon addon : CString} {steamID64 id : UInt64}
    {bRefresh : Bool} :
    offer id addon ∈ (m.addClientAddon h pszAddon steamID64 bRefresh).2 ↔
      m.Refreshes pszAddon steamID64 bRefresh ∧ addon = pszAddon ∧
        ∃ pClient ∈ (m.withClientAddon pszAddon steamID64).refreshTargets steamID64 h.clients,
          pClient.steamID64 = id := by
  by_cases hrefresh : m.Refreshes pszAddon steamID64 bRefresh
  · rw [addClientAddon_of_refreshes hrefresh, refreshClients_eq]
    simp only [List.mem_map, refreshMessage, offer, Output.netMessage.injEq,
      NetMessage.signonState.injEq, SignonMessage.mk.injEq, true_and, hrefresh]
    constructor
    · rintro ⟨pClient, hmem, rfl, rfl⟩
      exact ⟨rfl, pClient, hmem, rfl⟩
    · rintro ⟨rfl, pClient, hmem, rfl⟩
      exact ⟨pClient, hmem, rfl, rfl⟩
  · simp [addClientAddon_outputs_of_not hrefresh, hrefresh]

/-- The next entry of an opted-out client's list hides no asset behind a comma, and the
refresh loop gets to no opted-out client with an asset. The workshop map is excepted. -/
def CallRespectsOptOut (m : MultiAddonManager) : Call → Prop
  | ⟨_, .sendNetMessage steamID64 (.signonState pMsg)⟩ =>
    pMsg.signonState ≠ .changelevel → m.isClientRssAssetsEnabled steamID64 = false →
      ∀ entry ∈ (m.remainingAddons steamID64).head?, 44 ∈ entry →
        ∀ addon ∈ stringToVector entry,
          isRssAssetAddon addon = true → addon = m.currentWorkshopMap
  | ⟨h, .addClientAddon pszAddon steamID64 bRefresh⟩ =>
    m.Refreshes pszAddon steamID64 bRefresh →
      ∀ addon ∈ stringToVector pszAddon,
        isRssAssetAddon addon = true → addon ≠ m.currentWorkshopMap →
          ∀ pClient ∈ (m.withClientAddon pszAddon steamID64).refreshTargets steamID64 h.clients,
            m.isClientRssAssetsEnabled pClient.steamID64 = true
  | _ => True

/-- A client that the refresh loop gets to needs no other addon first. A client
whose record the loop does not write has the added addon pending already. -/
def RefreshStoresOffer (m : MultiAddonManager) : Call → Prop
  | ⟨h, .addClientAddon pszAddon steamID64 bRefresh⟩ =>
    m.Refreshes pszAddon steamID64 bRefresh → pszAddon ≠ [] →
      ∀ pClient ∈ (m.withClientAddon pszAddon steamID64).refreshTargets steamID64 h.clients,
        (if pClient.steamID64 = steamID64 then (m.remainingAddons steamID64).headD pszAddon
        else (m.clientAddons pClient.steamID64).currentPendingAddon) = pszAddon
  | _ => True

/-! ## Steps -/

theorem respectsOptOut_of_step (hdedicated : m.dedicatedServer = true) {call : Call}
    (hstep : m.RespectsOptOut (m.step call).2) : m.CallRespectsOptOut call := by
  obtain ⟨h, event⟩ := call
  cases event with
  | sendNetMessage steamID64 pData =>
    cases pData with
    | other => trivial
    | signonState pMsg =>
      intro hstate hdisabled entry hentry _ addon haddon hrss
      obtain ⟨rest, hneed⟩ : ∃ rest, m.remainingAddons steamID64 = entry :: rest := by
        cases hneed : m.remainingAddons steamID64 <;> simp_all
      have hoffer : offer steamID64 entry ∈
          (m.step ⟨h, .sendNetMessage steamID64 (.signonState pMsg)⟩).2 := by
        simp [step, hookSendNetMessage_of_remaining hdedicated hstate hneed, offer]
      simpa [hrss] using hstep _ _ hoffer hdisabled addon haddon
  | addClientAddon pszAddon steamID64 bRefresh =>
    intro hrefresh addon haddon hrss hmap pClient hmem
    by_contra hdisabled
    have hoffer := offer_mem_addClientAddon.2 ⟨hrefresh, rfl, pClient, hmem, rfl⟩
    rcases hstep _ _ hoffer (by simpa using hdisabled) addon haddon with hnot | hsame
    · simp [hnot] at hrss
    · exact hmap hsame
  | _ => trivial

theorem respectsOptOut_step_iff (hdedicated : m.dedicatedServer = true) (call : Call) :
    m.RespectsOptOut (m.step call).2 ↔ m.CallRespectsOptOut call := by
  refine ⟨respectsOptOut_of_step hdedicated, ?_⟩
  intro hcall steamID64 addons hoffer hdisabled addon haddon
  obtain ⟨h, event⟩ := call
  rcases netMessage_mem_step m hoffer with
    ⟨pData, hevent, hmsg⟩ | ⟨pszAddon, id, bRefresh, hevent, hmem⟩
  · obtain rfl : event = _ := hevent
    by_cases hcomma : 44 ∈ addons
    · -- the entries of a message of the server are split, so this is an entry of the list
      obtain ⟨-, pMsg, rfl, (rfl | hmem) | ⟨hstate, hhead⟩⟩ :=
        offer_of_hookSendNetMessage hdedicated hmsg
      · cases hcomma
      · exact absurd hcomma (isSingleEntry_of_mem_stringToVector (List.mem_of_mem_filter hmem)).2
      · cases hrss : isRssAssetAddon addon with
        | false => exact .inl rfl
        | true => exact .inr (hcall hstate hdisabled addons hhead hcomma addon haddon hrss)
    · -- without a comma the text is the entry that was compared with the assets
      obtain rfl : addon = addons := by
        rw [stringToVector_of_notMem hcomma] at haddon
        split_ifs at haddon
        · cases haddon
        · simpa using haddon
      have hstaged := isStaged_of_hookSendNetMessage hdedicated hmsg
      rw [isStaged_eq_true_iff, hdisabled] at hstaged
      tauto
  · obtain rfl : event = _ := hevent
    obtain ⟨hloop, rfl, pClient, htarget, rfl⟩ := offer_mem_addClientAddon.1 hmem
    by_contra hbad
    push Not at hbad
    have henabled := hcall hloop addon haddon (by simpa using hbad.1) hbad.2 pClient htarget
    simp [henabled] at hdisabled

theorem remainingAddons_ne_nil_of_target {steamID64 : UInt64} {clients : List ServerSideClient}
    {pClient : ServerSideClient} (hmem : pClient ∈ m.refreshTargets steamID64 clients) :
    m.remainingAddons steamID64 ≠ [] := by
  intro hneed
  simp [refreshTargets, hneed] at hmem

/-- What the loop stores: the first addon needed before the call, if any. -/
theorem refreshedPending_withClientAddon {pszAddon : CString} {steamID64 : UInt64}
    (hneed : (m.withClientAddon pszAddon steamID64).remainingAddons steamID64 ≠ []) :
    (m.withClientAddon pszAddon steamID64).refreshedPending steamID64 =
      (m.remainingAddons steamID64).headD pszAddon := by
  unfold refreshedPending
  rcases m.remainingAddons_withClientAddon pszAddon steamID64 with hsame | happended
  · rw [hsame] at hneed ⊢
    obtain ⟨addon, rest, hcons⟩ := List.exists_cons_of_ne_nil hneed
    simp [hcons]
  · rw [happended]
    cases m.remainingAddons steamID64 <;> simp

theorem pending_of_target {h : Host} {pszAddon : CString} {steamID64 : UInt64} {bRefresh : Bool}
    (hrefresh : m.Refreshes pszAddon steamID64 bRefresh) {pClient : ServerSideClient}
    (hmem : pClient ∈ (m.withClientAddon pszAddon steamID64).refreshTargets steamID64 h.clients) :
    ((m.addClientAddon h pszAddon steamID64 bRefresh).1.clientAddons
        pClient.steamID64).currentPendingAddon =
      if pClient.steamID64 = steamID64 then (m.remainingAddons steamID64).headD pszAddon
      else (m.clientAddons pClient.steamID64).currentPendingAddon := by
  rw [addClientAddon_of_refreshes hrefresh, refreshClients_eq]
  simp only [List.ne_nil_of_mem hmem, if_false]
  split_ifs with hid
  · rw [hid, clientAddons_setClient_self,
      refreshedPending_withClientAddon (remainingAddons_ne_nil_of_target hmem)]
  · rw [clientAddons_setClient_of_ne _ _ _ hid, (clientAddons_withClientAddon _ _ _).2]

theorem storesOffers_step_iff (hdedicated : m.dedicatedServer = true) (call : Call) :
    (m.step call).1.StoresOffers (m.step call).2 ↔ m.RefreshStoresOffer call := by
  constructor
  · intro hstep
    obtain ⟨h, event⟩ := call
    cases event with
    | addClientAddon pszAddon steamID64 bRefresh =>
      intro hrefresh hne pClient hmem
      have hoffer := offer_mem_addClientAddon.2 ⟨hrefresh, rfl, pClient, hmem, rfl⟩
      rw [← pending_of_target hrefresh hmem]
      exact hstep _ _ hoffer hne
    | _ => trivial
  · intro hrefresh steamID64 addon hoffer hne
    obtain ⟨h, event⟩ := call
    rcases netMessage_mem_step m hoffer with
      ⟨pData, hevent, hmsg⟩ | ⟨pszAddon, id, bRefresh, hevent, hmem⟩
    · obtain rfl : event = _ := hevent
      exact (offer_of_hookSendNetMessage hdedicated hmsg).1
    · obtain rfl : event = _ := hevent
      obtain ⟨hloop, rfl, pClient, htarget, rfl⟩ := offer_mem_addClientAddon.1 hmem
      exact (pending_of_target hloop htarget).trans (hrefresh hloop hne pClient htarget)

/-! ## Runs -/

/-- On a dedicated server, the messages of a run name to opted-out clients no asset but
the workshop map exactly if no entry hides one and no refresh gets to such a client with
one. -/
theorem offers_respect_opt_out_iff (m : MultiAddonManager) (hdedicated : m.dedicatedServer = true)
    (calls : List Call) :
    EveryStep (fun pre call =>
        RespectsOptOut (run step m pre) (step (run step m pre) call).2) calls ↔
      EveryStep (fun pre call => CallRespectsOptOut (run step m pre) call) calls :=
  everyStep_congr fun pre call =>
    respectsOptOut_step_iff (dedicatedServer_run hdedicated pre) call

theorem offers_respect_opt_out_iff_two_offers :
    let m : MultiAddonManager :=
      { globalsReady := true, mountedAddons := [ascii "1111111111"],
        rssAssetOptOutClients := {76561198000000001} }
    let refresh : Call := ⟨{ clients := [⟨76561198000000001, .full⟩] },
      .addClientAddon (ascii "2222222222") 76561198000000001 true⟩
    let signon : Call := ⟨{}, .sendNetMessage 76561198000000001 (.signonState ⟨.new, []⟩)⟩
    (outputs step m [refresh, signon]).flatten =
        [offer 76561198000000001 (ascii "2222222222"),
          offer 76561198000000001 (ascii "1111111111")] ∧
      EveryStep (fun pre call =>
        RespectsOptOut (run step m pre) (step (run step m pre) call).2) [refresh, signon] := by
  intro m refresh signon
  refine ⟨by decide +kernel, ?_⟩
  rw [offers_respect_opt_out_iff m rfl, everyStep_cons, everyStep_cons]
  refine ⟨?_, ?_, everyStep_nil⟩
  · intro _ addon haddon hrss
    obtain rfl : addon = ascii "2222222222" := by
      simpa [show stringToVector (ascii "2222222222") = [ascii "2222222222"] by decide] using haddon
    exact absurd hrss (by decide)
  · intro _ _ entry hentry hcomma
    obtain rfl : ascii "1111111111" = entry := by
      have hhead : (remainingAddons (run step m [refresh]) 76561198000000001).head? =
          some (ascii "1111111111") := by decide +kernel
      exact Option.some.inj (hhead.symm.trans hentry)
    exact absurd hcomma (by decide)

/-- An opted-out client still needs the mounted addon 1111111111, so the refresh
for the asset 3782730321 gets to it and offers the asset. -/
theorem refresh_offers_asset_to_opted_out_client :
    let m : MultiAddonManager := { rssAssetOptOutClients := {76561198000000001} }
    let h : Host :=
      { clients := [⟨76561198000000001, .full⟩], stringToUint64 := fun _ => 1111111111,
        itemState := fun _ => itemStateInstalled }
    let calls : List Call := [⟨h, .addAddon (ascii "1111111111") true⟩, ⟨h, .startupServer⟩]
    let refresh : Call := ⟨h, .addClientAddon (ascii "3782730321") 76561198000000001 true⟩
    ¬ EveryStep (fun pre call =>
        RespectsOptOut (run step m pre) (step (run step m pre) call).2) (calls ++ [refresh]) := by
  intro m h calls refresh hrun
  have hstep := hrun calls refresh [] rfl
  have hoffer : offer 76561198000000001 (ascii "3782730321") ∈
      (step (run step m calls) refresh).2 := by decide +kernel
  rcases hstep _ _ hoffer (by decide +kernel) (ascii "3782730321") (by decide +kernel) with
    hnot | hmap
  · exact absurd hnot (by decide +kernel)
  · exact absurd hmap (by decide +kernel)

/-- On a dedicated server, every offer of a run is left pending exactly when
every refresh stores the addon that it names. -/
theorem offers_stored_iff (m : MultiAddonManager) (hdedicated : m.dedicatedServer = true)
    (calls : List Call) :
    EveryStep (fun pre call =>
        StoresOffers (run step m (pre ++ [call])) (step (run step m pre) call).2) calls ↔
      EveryStep (fun pre call => RefreshStoresOffer (run step m pre) call) calls := by
  refine everyStep_congr fun pre call => ?_
  rw [run_concat]
  exact storesOffers_step_iff (dedicatedServer_run hdedicated pre) call

theorem offers_stored_iff_one_refresh :
    let m : MultiAddonManager := { globalsReady := true }
    let refresh : Call := ⟨{ clients := [⟨76561198000000001, .full⟩] },
      .addClientAddon (ascii "2222222222") 76561198000000001 true⟩
    (step m refresh).2 = [offer 76561198000000001 (ascii "2222222222")] ∧
      EveryStep (fun pre call =>
        StoresOffers (run step m (pre ++ [call])) (step (run step m pre) call).2) [refresh] := by
  intro m refresh
  refine ⟨by decide +kernel, ?_⟩
  rw [offers_stored_iff m rfl, everyStep_cons]
  refine ⟨?_, everyStep_nil⟩
  intro _ _ pClient hclient
  have htargets : (withClientAddon m (ascii "2222222222") 76561198000000001).refreshTargets
      76561198000000001 [⟨76561198000000001, .full⟩] = [⟨76561198000000001, .full⟩] := by
    decide +kernel
  obtain rfl : pClient = ⟨76561198000000001, .full⟩ := by
    simpa [htargets] using hclient
  decide +kernel

/-- A client still needs the mounted addon 1111111111. A refresh for 2222222222
offers it the new addon and leaves the old one pending. -/
theorem refresh_stores_other_addon :
    let h : Host :=
      { clients := [⟨76561198000000001, .full⟩], stringToUint64 := fun _ => 1111111111,
        itemState := fun _ => itemStateInstalled }
    let calls : List Call := [⟨h, .addAddon (ascii "1111111111") true⟩, ⟨h, .startupServer⟩]
    let refresh : Call := ⟨h, .addClientAddon (ascii "2222222222") 76561198000000001 true⟩
    ¬ EveryStep (fun pre call =>
        StoresOffers (run step {} (pre ++ [call])) (step (run step {} pre) call).2)
      (calls ++ [refresh]) := by
  intro h calls refresh hrun
  have hstep := hrun calls refresh [] rfl
  have hoffer : offer 76561198000000001 (ascii "2222222222") ∈
      (step (run step {} calls) refresh).2 := by decide +kernel
  exact absurd (hstep _ _ hoffer (by decide +kernel)) (by decide +kernel)

end MultiAddonManager
end MultiAddonRss
