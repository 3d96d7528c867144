import MultiAddonRss.Manager.RequestedAddons
import MultiAddonRss.Manager.SearchPaths

/-!
# A change of map

A host state request leaves a list of addons with the engine, which hands it to clients,
and the start of the server mounts the configured addons again. The two lists come from
different functions, at different times. They agree exactly if the addons that cannot be
unmounted are the first of the new ones, and then the list of every client begins with
them.
-/

namespace MultiAddonRss

open Foundations

/-- Events that leave the mounts and the list of the server alone. -/
def Event.keepsMounts : Event → Bool
  | .downloadAddon .. | .onAddonDownloaded _ => true
  | event => event.isClientSide

namespace MultiAddonManager

def mapEntries (m : MultiAddonManager) : List CString :=
  if m.currentWorkshopMap = [] then [] else [m.currentWorkshopMap]

/-- The addons that the engine names to clients are those that the server has mounted, in
their order. -/
def EngineNamesMounts (m : MultiAddonManager) : Prop :=
  stringToVector m.serverAddons = m.mapEntries ++ m.mountedAddons

/-- What a host state request leaves, for the addons that are configured: a text that
reads as the map and the addons to be mounted. -/
structure Announced (m : MultiAddonManager) : Prop where
  serverAddons : stringToVector m.serverAddons = m.mapEntries ++ m.mountTargets
  nodup : (m.mapEntries ++ m.mountTargets).Nodup

variable {m : MultiAddonManager} {h : Host} {request : HostStateRequest}

/-! ## The request -/

theorem mountTargets_of_entry (hsingle : ∀ addon ∈ m.extraAddons, IsSingleEntry addon)
    (hnodup : m.extraAddons.Nodup)
    (hentry : m.currentWorkshopMap = [] ∨ IsSingleEntry m.currentWorkshopMap) :
    m.mountTargets = m.extraAddons.erase m.currentWorkshopMap := by
  have hfilter : (m.extraAddons.filter fun addon => addon ∉ stringToVector m.currentWorkshopMap) =
      m.extraAddons.filter (· ≠ m.currentWorkshopMap) := by
    apply List.filter_congr
    intro addon haddon
    rcases hentry with hnil | hmap
    · have hne := (hsingle addon haddon).1
      simp [hnil, hne]
    · simp [stringToVector_of_notMem hmap.2, hmap.1]
  rw [mountTargets, hfilter, eraseDups_of_nodup (hnodup.filter _), hnodup.erase_eq_filter]
  apply List.filter_congr
  intro addon _
  by_cases heq : addon = m.currentWorkshopMap <;> simp [heq]

theorem announced_request (hsingle : ∀ addon ∈ m.extraAddons, IsSingleEntry addon)
    (hnodup : m.extraAddons.Nodup) (hextra : m.extraAddons ≠ [])
    (hentry : (m.hookSetPendingHostStateRequest h request).1.currentWorkshopMap = [] ∨
      IsSingleEntry (m.hookSetPendingHostStateRequest h request).1.currentWorkshopMap) :
    (m.hookSetPendingHostStateRequest h request).1.Announced := by
  have htext := stringToVector_requestAddons hsingle hextra rfl hentry
  have htargets : (m.hookSetPendingHostStateRequest h request).1.mountTargets =
      m.extraAddons.erase (m.hookSetPendingHostStateRequest h request).1.currentWorkshopMap :=
    mountTargets_of_entry hsingle hnodup hentry
  have hserver : (m.hookSetPendingHostStateRequest h request).1.serverAddons =
      (m.hookSetPendingHostStateRequest h request).2.addons := rfl
  have hnone : (m.hookSetPendingHostStateRequest h request).1.currentWorkshopMap = [] →
      (m.hookSetPendingHostStateRequest h request).1.currentWorkshopMap ∉ m.extraAddons :=
    fun hnil hmem => (hsingle _ hmem).1 hnil
  constructor
  · rw [hserver, htext, htargets, mapEntries]
    split_ifs with hnil
    · rw [List.nil_append, List.erase_of_not_mem (hnone hnil)]
    · rfl
  · rw [htargets, mapEntries]
    split_ifs with hnil
    · exact hnodup.erase _
    · exact nodup_cons_erase_iff.2 hnodup

/-! ## Between the request and the start -/

theorem mounts_of_keepsMounts {call : Call} (hcall : call.event.keepsMounts = true) :
    (m.step call).1.mounts = m.mounts ∧ (m.step call).1.extraAddons = m.extraAddons ∧
      (m.step call).1.serverState = m.serverState := by
  have hother : ∀ request, call.event ≠ .setPendingHostStateRequest request := by
    intro request hevent
    rw [hevent] at hcall
    cases hcall
  refine ⟨?_, ?_, m.serverState_step hother⟩
  · obtain ⟨h, event⟩ := call
    cases event with
    | downloadAddon pszAddon bImportant bForce =>
      obtain ⟨hmounted, hpaths⟩ := m.mounts_downloadAddon h pszAddon bImportant bForce
      exact Prod.ext hmounted hpaths
    | onAddonDownloaded publishedFileId => exact m.mounts_onAddonDownloaded h publishedFileId
    | _ => exact mounts_of_serverPart (m.serverPart_step hcall)
  · rw [extraAddons_step]
    cases hevent : call.event with
    | addAddon pszAddon bRefresh | removeAddon pszAddon bRefresh | clearAddons
    | setExtraAddons newVal =>
      rw [hevent] at hcall
      cases hcall
    | _ => rfl

theorem Announced.congr {m' : MultiAddonManager} (ha : m.Announced)
    (hextra : m'.extraAddons = m.extraAddons) (hstate : m'.serverState = m.serverState) :
    m'.Announced := by
  simp only [serverState, Prod.mk.injEq] at hstate
  obtain ⟨-, hmap, hserver⟩ := hstate
  obtain ⟨hlist, hnodup⟩ := ha
  constructor
  · simpa only [mapEntries, mountTargets, hextra, hmap, hserver] using hlist
  · simpa only [mapEntries, mountTargets, hextra, hmap] using hnodup

theorem mounts_run_of_keepsMounts {calls : List Call}
    (hcalls : EveryStep (fun _ call => call.event.keepsMounts = true) calls) :
    (run step m calls).mounts = m.mounts ∧ (run step m calls).extraAddons = m.extraAddons ∧
      (run step m calls).serverState = m.serverState := by
  refine run_induction step (fun _ m' => m'.mounts = m.mounts ∧
    m'.extraAddons = m.extraAddons ∧ m'.serverState = m.serverState) hcalls ⟨rfl, rfl, rfl⟩ ?_
  intro pre call hcall ⟨hmounts, hextra, hstate⟩
  obtain ⟨hmounts', hextra', hstate'⟩ := mounts_of_keepsMounts hcall
  exact ⟨hmounts'.trans hmounts, hextra'.trans hextra, hstate'.trans hstate⟩

/-! ## The start of the server -/

theorem engineNamesMounts_startupServer_iff (ha : m.Announced) (hm : m.MountsRegistered)
    (hfs : h.RegistersPackages) (hugc : h.hasSteamUGC = true) (hall : m.AllMountable h) :
    (m.hookStartupServer h).1.EngineNamesMounts ↔
      sweepBack m.staysMounted m.mountedAddons [] <+: m.mountTargets := by
  have hside := (m.serverSide_hookStartupServer h).clientSide
  have hserver : (m.hookStartupServer h).1.serverAddons = m.serverAddons :=
    congrArg ClientSide.serverAddons hside
  have hmap : (m.hookStartupServer h).1.currentWorkshopMap = m.currentWorkshopMap :=
    congrArg ClientSide.currentWorkshopMap hside
  have hmounted := mountedAddons_refreshAddons_of_allMountable
    (m := { m with globalsReady := true, timedOutClients := ∅ }) (hm.congr rfl) hfs hugc hall false
  have htargets : m.mountTargets.Nodup := nodup_eraseDups _
  rw [EngineNamesMounts, mapEntries, hserver, hmap, ha.serverAddons, mapEntries,
    List.append_cancel_left_eq, ← append_filter_notMem_eq_iff htargets, eq_comm]
  exact Eq.congr_left hmounted

theorem EngineNamesMounts.isPrefix (hm : m.EngineNamesMounts)
    (hnodup : (stringToVector m.serverAddons).Nodup) (steamID64 : UInt64) :
    stringToVector m.serverAddons <+: m.getClientAddons steamID64 true := by
  have hsources : m.addonSources steamID64 = stringToVector m.serverAddons ++
      (m.globalClientAddons ++
        if steamID64 ≠ 0 then (m.clientAddons steamID64).addonsToLoad else []) := by
    rw [addonSources, hm, mapEntries, List.append_assoc]
    simp
  rw [getClientAddons_eq_filter, hsources, List.eraseDups_append, eraseDups_of_nodup hnodup]
  simp

/-- In every history of a plugin that starts without mounts: after a host state request
and the start of the server, the engine names the map and the mounted addons, in their
order, exactly if the addons that could not be unmounted are the first of the new ones;
and then this is where the list of each client begins. The request leaves `m_Addons` alone
while no addon is configured, and it compares the map with whole entries: so some addon is
configured, the map reads as one entry, and no earlier call configured an addon twice or
several in one entry. -/
theorem map_change_agreed_iff (m : MultiAddonManager) (hmounted : m.mountedAddons = [])
    (hpaths : m.searchPaths = []) (hsingle : ∀ addon ∈ m.extraAddons, IsSingleEntry addon)
    (hnodup : m.extraAddons.Nodup) (before between : List Call) (h h' : Host)
    (request : HostStateRequest)
    (hbefore : EveryStep (fun _ call => call.host.RegistersPackages ∧
      call.event.AddsOneAddon ∧ call.event.AssignsDistinct) before)
    (hbetween : EveryStep (fun _ call => call.event.keepsMounts = true) between)
    (hfs : h'.RegistersPackages) (hugc : h'.hasSteamUGC = true) :
    let s := run step m (before ++ ⟨h, .setPendingHostStateRequest request⟩ :: between)
    let s' := (step s ⟨h', .startupServer⟩).1
    s.extraAddons ≠ [] → (s.currentWorkshopMap = [] ∨ IsSingleEntry s.currentWorkshopMap) →
      s.AllMountable h' →
      (s'.EngineNamesMounts ↔
        sweepBack s.staysMounted s.mountedAddons [] <+: s.mountTargets) ∧
      (s'.EngineNamesMounts → ∀ steamID64,
        stringToVector s'.serverAddons <+: s'.getClientAddons steamID64 true) := by
  intro s s' hextra hentry hall
  have hinit : m.MountsRegistered := by
    refine ⟨?_, ?_, ?_⟩ <;> simp [hmounted, hpaths]
  obtain ⟨hregistered, hentries, hdistinct⟩ := run_induction step
    (fun _ m => m.MountsRegistered ∧ (∀ addon ∈ m.extraAddons, IsSingleEntry addon) ∧
      m.extraAddons.Nodup) hbefore ⟨hinit, hsingle, hnodup⟩
    fun _ call hcall hpre => ⟨hpre.1.step hcall.1, singleEntries_step hpre.2.1 hcall.2.1,
      (nodup_extraAddons_step_iff hpre.2.2 call).2 hcall.2.2⟩
  -- the state right behind the request
  let q := ((run step m before).hookSetPendingHostStateRequest h request).1
  have hs : s = run step q between := by
    simp only [s, run_append, run_cons]
    rfl
  obtain ⟨hmounts, hextraKept, hstate⟩ := @mounts_run_of_keepsMounts q between hbetween
  rw [← hs] at hmounts hextraKept hstate
  have hmap : s.currentWorkshopMap = q.currentWorkshopMap :=
    congrArg (fun state => state.2.1) hstate
  rw [hmap] at hentry
  have hextra' : (run step m before).extraAddons ≠ [] := by
    intro hnil
    exact hextra (hextraKept.trans hnil)
  have hannounced : s.Announced :=
    (announced_request hentries hdistinct hextra' hentry).congr hextraKept hstate
  have hregistered' : s.MountsRegistered := hregistered.congr hmounts
  refine ⟨engineNamesMounts_startupServer_iff hannounced hregistered' hfs hugc hall, ?_⟩
  intro hnames steamID64
  apply hnames.isPrefix
  have hserver : s'.serverAddons = s.serverAddons :=
    congrArg ClientSide.serverAddons (s.serverSide_hookStartupServer h').clientSide
  rw [hserver, hannounced.serverAddons]
  exact hannounced.nodup

theorem map_change_agreed_iff_one_addon :
    let s := run step {} ([⟨packageHost false, .addAddon (ascii "1111111111") false⟩] ++
      ⟨{}, .setPendingHostStateRequest { addons := ascii "2222222222" }⟩ ::
        [⟨{}, .clientActive 7⟩])
    let s' := (step s ⟨packageHost false, .startupServer⟩).1
    s'.EngineNamesMounts ∧
      ∀ steamID64, stringToVector s'.serverAddons <+: s'.getClientAddons steamID64 true := by
  intro s s'
  have hfs : (packageHost false).RegistersPackages := registersPackages_packageHost false
  have hadd : IsSingleEntry (ascii "1111111111") := by decide
  have hall : s.AllMountable (packageHost false) := by
    unfold AllMountable
    decide +kernel
  obtain ⟨hiff, hprefixes⟩ := map_change_agreed_iff {} rfl rfl (by simp) List.nodup_nil
    [⟨packageHost false, .addAddon (ascii "1111111111") false⟩] [⟨{}, .clientActive 7⟩] {}
    (packageHost false) { addons := ascii "2222222222" }
    (everyStep_cons.2 ⟨⟨hfs, hadd, trivial⟩, everyStep_nil⟩)
    (everyStep_cons.2 ⟨rfl, everyStep_nil⟩) hfs rfl (by decide +kernel)
    (.inr (by decide +kernel)) hall
  have hnames : s'.EngineNamesMounts := hiff.2 (by decide +kernel)
  exact ⟨hnames, hprefixes hnames⟩

end MultiAddonManager
end MultiAddonRss
