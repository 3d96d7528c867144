import MultiAddonRss.Manager.ConVarMirror
import MultiAddonRss.Manager.MountSpecs

/-!
# Mounts and search paths

Every mounted addon has its search path. Unmounting asks for the path with the
`_dir` suffix, so an addon whose package is a single file, registered without the
suffix, is never unmounted. A refresh puts the configured addons behind those.
-/

namespace MultiAddonRss

open Foundations

/-- The file system registers a package under the name its file has, and removes
the paths that are registered. -/
structure Host.RegistersPackages (h : Host) : Prop where
  add : ∀ paths addon, (∀ path ∈ paths, path.addon ≠ addon) →
    (h.addSearchPath paths ⟨addon, true⟩).Perm
      (⟨addon, !h.packageExists ⟨addon, false⟩⟩ :: paths)
  remove_none : ∀ paths path, path ∉ paths → h.removeSearchPath paths path = none
  remove_some : ∀ paths path, path ∈ paths →
    ∃ paths', h.removeSearchPath paths path = some paths' ∧ paths'.Perm (paths.erase path)

namespace MultiAddonManager

/-- The registered paths are those of the mounted addons. -/
structure MountsRegistered (m : MultiAddonManager) : Prop where
  nodup : m.mountedAddons.Nodup
  ne_nil : ∀ addon ∈ m.mountedAddons, addon ≠ []
  paths : (m.searchPaths.map AddonPath.addon).Perm m.mountedAddons

/-- The path that unmounting asks for is not registered. -/
def staysMounted (m : MultiAddonManager) (addon : CString) : Bool :=
  ⟨addon, false⟩ ∉ m.searchPaths

variable {h : Host} {m : MultiAddonManager}

/-! ## Unmounting -/

theorem findAndFastRemove_append {xs ys : List CString} {addon : CString} (hxs : addon ∉ xs) :
    findAndFastRemove (xs ++ addon :: ys) addon = xs ++ lastToFront ys := by
  have hidx : (xs ++ addon :: ys).idxOf addon = xs.length := by
    rw [List.idxOf_append_of_notMem hxs, List.idxOf_cons_self, Nat.add_zero]
  rw [findAndFastRemove, if_pos (by simp), hidx, dropLast_set_getLastD]

theorem findAndFastRemove_perm {vector : List CString} {addon : CString}
    (haddon : addon ∈ vector) : (findAndFastRemove vector addon).Perm (vector.erase addon) := by
  obtain ⟨xs, ys, rfl, hxs⟩ := List.eq_append_cons_of_mem haddon
  rw [findAndFastRemove_append hxs, List.erase_append_right _ hxs, List.erase_cons_head]
  exact (lastToFront_perm ys).append_left xs

theorem MountsRegistered.mem_of_mem_searchPaths (hm : m.MountsRegistered) {path : AddonPath}
    (hpath : path ∈ m.searchPaths) : path.addon ∈ m.mountedAddons :=
  hm.paths.subset (List.mem_map_of_mem hpath)

theorem MountsRegistered.unmountAddon_cases (hm : m.MountsRegistered) (hfs : h.RegistersPackages)
    (addon : CString) :
    (∃ paths, (⟨addon, false⟩ : AddonPath) ∈ m.searchPaths ∧
        paths.Perm (m.searchPaths.erase ⟨addon, false⟩) ∧
        (m.unmountAddon h addon).2 =
          { m with searchPaths := paths,
                   mountedAddons := findAndFastRemove m.mountedAddons addon }) ∨
      (⟨addon, false⟩ : AddonPath) ∉ m.searchPaths ∧ (m.unmountAddon h addon).2 = m := by
  by_cases hpath : (⟨addon, false⟩ : AddonPath) ∈ m.searchPaths
  · have hne : addon ≠ [] := hm.ne_nil addon (hm.mem_of_mem_searchPaths hpath)
    obtain ⟨paths, hremove, hperm⟩ := hfs.remove_some m.searchPaths _ hpath
    refine .inl ⟨paths, hpath, hperm, ?_⟩
    simp [unmountAddon, hne, hremove]
  · refine .inr ⟨hpath, ?_⟩
    rw [unmountAddon, hfs.remove_none m.searchPaths _ hpath]
    split_ifs <;> rfl

theorem map_addon_erase {searchPaths paths : List AddonPath} {mountedAddons : List CString}
    {path : AddonPath} (hpaths : (searchPaths.map AddonPath.addon).Perm mountedAddons)
    (hpath : path ∈ searchPaths) (hperm : paths.Perm (searchPaths.erase path)) :
    (paths.map AddonPath.addon).Perm (mountedAddons.erase path.addon) := by
  have haddon : path.addon ∈ mountedAddons := hpaths.subset (List.mem_map_of_mem hpath)
  have hcons : (path.addon :: paths.map AddonPath.addon).Perm
      (searchPaths.map AddonPath.addon) :=
    ((hperm.cons path).trans (List.perm_cons_erase hpath).symm).map _
  exact ((hcons.trans hpaths).trans (List.perm_cons_erase haddon)).cons_inv

theorem MountsRegistered.unmountAddon (hm : m.MountsRegistered) (hfs : h.RegistersPackages)
    (addon : CString) : (m.unmountAddon h addon).2.MountsRegistered := by
  rcases hm.unmountAddon_cases hfs addon with ⟨paths, hpath, hperm, hcall⟩ | ⟨-, hcall⟩
  · have hfast := findAndFastRemove_perm (hm.mem_of_mem_searchPaths hpath)
    rw [hcall]
    refine ⟨hfast.nodup_iff.2 (hm.nodup.erase addon), fun a ha => ?_, ?_⟩
    · exact hm.ne_nil a (List.mem_of_mem_erase (hfast.subset ha))
    · exact (map_addon_erase hm.paths hpath hperm).trans hfast.symm
  · rw [hcall]
    exact hm

theorem MountsRegistered.unmountAll (hfs : h.RegistersPackages) (count : ℕ) :
    ∀ {m : MultiAddonManager}, m.MountsRegistered → (unmountAll h count m).MountsRegistered := by
  induction count with
  | zero => exact id
  | succ count ih => exact fun hm => ih (hm.unmountAddon hfs _)

theorem MountsRegistered.unmountAddon_sweep (hm : m.MountsRegistered)
    (hfs : h.RegistersPackages) {xs kept : List CString} {addon : CString}
    (hmounted : m.mountedAddons = xs ++ addon :: kept) :
    (m.unmountAddon h addon).2.mountedAddons =
        xs ++ (if m.staysMounted addon then addon :: kept else lastToFront kept) ∧
      ∀ a ∈ xs, (m.unmountAddon h addon).2.staysMounted a = m.staysMounted a := by
  have hxs : addon ∉ xs := by
    have hnodup := hmounted ▸ hm.nodup
    exact fun hmem => (List.nodup_append.1 hnodup).2.2 addon hmem addon (by simp) rfl
  rcases hm.unmountAddon_cases hfs addon with ⟨paths, hpath, hperm, hcall⟩ | ⟨hpath, hcall⟩
  · rw [hcall]
    refine ⟨by simp [staysMounted, hpath, hmounted, findAndFastRemove_append hxs], ?_⟩
    intro a ha
    have hne : (⟨a, false⟩ : AddonPath) ≠ ⟨addon, false⟩ := by
      rintro ⟨⟩
      exact hxs ha
    simp only [staysMounted, hperm.mem_iff, List.mem_erase_of_ne hne]
  · rw [hcall]
    exact ⟨by simp [staysMounted, hpath, hmounted], fun _ _ => rfl⟩

theorem mountedAddons_unmountAll (hfs : h.RegistersPackages) (xs : List CString) :
    ∀ {m : MultiAddonManager} {kept : List CString}, m.MountsRegistered →
      m.mountedAddons = xs ++ kept →
      (MultiAddonManager.unmountAll h xs.length m).mountedAddons =
        sweepBack m.staysMounted xs kept := by
  induction xs using List.reverseRecOn with
  | nil => exact fun _ hmounted => hmounted
  | append_singleton xs addon ih =>
    intro m kept hm hmounted
    have hlast : m.mountedAddons.getD xs.length [] = addon := by
      simp [hmounted]
    rw [List.append_assoc, List.singleton_append] at hmounted
    obtain ⟨hmounted', hstays⟩ := hm.unmountAddon_sweep hfs hmounted
    rw [List.length_append, List.length_singleton, MultiAddonManager.unmountAll, hlast,
      sweepBack_concat, ih (hm.unmountAddon hfs addon) hmounted', sweepBack_congr hstays]

/-- The unmount loop leaves the addons whose paths do not have the suffix. -/
theorem leftMounted_eq (hfs : h.RegistersPackages) (hm : m.MountsRegistered) :
    m.leftMounted h = sweepBack m.staysMounted m.mountedAddons [] :=
  mountedAddons_unmountAll hfs m.mountedAddons hm (List.append_nil _).symm

/-! ## Mounting -/

theorem MountsRegistered.mountAddon (hm : m.MountsRegistered) (hfs : h.RegistersPackages)
    (addon : CString) : (m.mountAddon h addon).2.1.MountsRegistered := by
  rcases m.mounts_mountAddon h addon with
    ⟨⟨hmountable, hnew⟩, -, hmounted, hpaths⟩ | ⟨-, -, hmounted, hpaths⟩
  · have hne : addon ≠ [] := by
      rintro rfl
      simp [mountable] at hmountable
    refine ⟨?_, ?_, ?_⟩
    · rw [hmounted, ← List.concat_eq_append]
      exact hm.nodup.concat hnew
    · rw [hmounted, List.forall_mem_append]
      exact ⟨hm.ne_nil, by simpa using hne⟩
    · have hfresh : ∀ path ∈ m.searchPaths, path.addon ≠ addon :=
        fun path hpath heq => hnew (heq ▸ hm.mem_of_mem_searchPaths hpath)
      rw [hmounted, hpaths]
      refine ((hfs.add m.searchPaths addon hfresh).map _).trans ?_
      exact (hm.paths.cons addon).trans (List.perm_append_singleton addon _).symm
  · exact ⟨hmounted ▸ hm.nodup, hmounted ▸ hm.ne_nil, hmounted ▸ hpaths ▸ hm.paths⟩

theorem MountsRegistered.mountAll (hfs : h.RegistersPackages) (addons : List CString) :
    ∀ {m : MultiAddonManager}, m.MountsRegistered →
      (mountAll h addons m).2.1.MountsRegistered := by
  induction addons with
  | nil => exact id
  | cons addon addons ih => exact fun hm => ih (hm.mountAddon hfs addon)

theorem MountsRegistered.refreshAddons (hm : m.MountsRegistered) (hfs : h.RegistersPackages)
    (bReloadMap : Bool) : (m.refreshAddons h bReloadMap).1.MountsRegistered := by
  have hboth := MountsRegistered.mountAll hfs
    (MultiAddonManager.unmountAll h m.mountedAddons.length m).extraAddons
    (MountsRegistered.unmountAll hfs m.mountedAddons.length hm)
  simp only [MultiAddonManager.refreshAddons]
  split_ifs
  · exact hm
  · exact hboth
  · exact hboth

/-! ## Runs -/

def mounts (m : MultiAddonManager) : List CString × List AddonPath :=
  (m.mountedAddons, m.searchPaths)

theorem MountsRegistered.congr {m' : MultiAddonManager} (hm : m.MountsRegistered)
    (hmounts : m'.mounts = m.mounts) : m'.MountsRegistered := by
  obtain ⟨hmounted, hpaths⟩ := Prod.mk.inj hmounts
  exact ⟨hmounted ▸ hm.nodup, hmounted ▸ hm.ne_nil, hmounted ▸ hpaths ▸ hm.paths⟩

theorem MountsRegistered.refreshAddons_congr {m' : MultiAddonManager} (hm : m.MountsRegistered)
    (hmounts : m'.mounts = m.mounts) (hfs : h.RegistersPackages) (bReloadMap : Bool) :
    (m'.refreshAddons h bReloadMap).1.MountsRegistered :=
  (hm.congr hmounts).refreshAddons hfs bReloadMap

theorem mounts_of_serverPart {m' : MultiAddonManager} (hpart : m'.serverPart = m.serverPart) :
    m'.mounts = m.mounts :=
  congrArg (fun p : ServerPart => (p.mountedAddons, p.searchPaths)) hpart

theorem mounts_onAddonDownloaded (m : MultiAddonManager) (h : Host) (publishedFileId : UInt64) :
    (m.onAddonDownloaded h publishedFileId).1.mounts = m.mounts := by
  simp only [onAddonDownloaded]
  split_ifs <;> rfl

theorem MountsRegistered.step (hm : m.MountsRegistered) {call : Call}
    (hfs : call.host.RegistersPackages) : (m.step call).1.MountsRegistered := by
  obtain ⟨h, event⟩ := call
  cases event with
  | startupServer => exact hm.refreshAddons_congr (by rfl) hfs false
  | gameServerSteamAPIActivated =>
    simp only [MultiAddonManager.step, hookGameServerSteamAPIActivated]
    split_ifs
    · exact hm
    · exact hm.refreshAddons hfs true
  | downloadAddon pszAddon bImportant bForce =>
    obtain ⟨hmounted, hpaths⟩ := m.mounts_downloadAddon h pszAddon bImportant bForce
    exact hm.congr (Prod.ext hmounted hpaths)
  | onAddonDownloaded publishedFileId =>
    exact hm.congr (m.mounts_onAddonDownloaded h publishedFileId)
  | mountAddon pszAddon => exact hm.mountAddon hfs pszAddon
  | unmountAddon pszAddon => exact hm.unmountAddon hfs pszAddon
  | addAddon pszAddon bRefresh =>
    simp only [MultiAddonManager.step, addAddon]
    split_ifs
    · exact hm
    · exact hm.refreshAddons_congr (by rfl) hfs false
    · exact hm.congr rfl
  | removeAddon pszAddon bRefresh =>
    simp only [MultiAddonManager.step, removeAddon]
    split_ifs
    · exact hm.refreshAddons_congr (by rfl) hfs false
    · exact hm.congr rfl
    · exact hm
  | clearAddons => exact MountsRegistered.unmountAll hfs _ (hm.congr rfl)
  | refreshAddons bReloadMap => exact hm.refreshAddons hfs bReloadMap
  | setExtraAddons newVal => exact hm.refreshAddons_congr (by rfl) hfs false
  | setPendingHostStateRequest request => exact hm.congr rfl
  | _ => exact hm.congr (mounts_of_serverPart (m.serverPart_step rfl))

/-! ## Reconciliation -/

/-- The configured addons, without repetitions and without the workshop map. -/
def mountTargets (m : MultiAddonManager) : List CString :=
  (m.extraAddons.filter fun addon => addon ∉ stringToVector m.currentWorkshopMap).eraseDups

/-- All configured addons are installed, compatible and have a package. -/
def AllMountable (h : Host) (m : MultiAddonManager) : Prop :=
  ∀ addon ∈ m.extraAddons, addon ≠ [] ∧ h.canMount addon = true

/-- The state in which a call begins to refresh the addons, if it does. -/
def refreshStart (m : MultiAddonManager) (call : Call) : Option MultiAddonManager :=
  match call.event with
  | .refreshAddons _ => some m
  | .startupServer => some { m with globalsReady := true, timedOutClients := ∅ }
  | .gameServerSteamAPIActivated => if m.dedicatedServer then some m else none
  | .addAddon pszAddon bRefresh =>
    if pszAddon ∉ m.extraAddons ∧ bRefresh = true then
      some (m.addAddon call.host pszAddon false).2.1
    else none
  | .removeAddon pszAddon bRefresh =>
    if pszAddon ∈ m.extraAddons ∧ bRefresh = true then
      some (m.removeAddon call.host pszAddon false).2.1
    else none
  | .setExtraAddons newVal =>
    some { m with extraAddons := stringToVector newVal,
                  conVars := { m.conVars with mmExtraAddons := newVal } }
  | _ => none

theorem addAddon_of_notMem {pszAddon : CString} (h : Host) (hnew : pszAddon ∉ m.extraAddons) :
    (m.addAddon h pszAddon true).2 = (m.addAddon h pszAddon false).2.1.refreshAddons h false ∧
      (m.addAddon h pszAddon false).2.1.mounts = m.mounts := by
  refine ⟨by simp [addAddon, hnew], ?_⟩
  simp only [addAddon, hnew, if_false, Bool.false_eq_true]
  rfl

theorem removeAddon_of_mem {pszAddon : CString} (h : Host) (hold : pszAddon ∈ m.extraAddons) :
    (m.removeAddon h pszAddon true).2 =
        (m.removeAddon h pszAddon false).2.1.refreshAddons h false ∧
      (m.removeAddon h pszAddon false).2.1.mounts = m.mounts := by
  refine ⟨by simp [removeAddon, hold], ?_⟩
  simp only [removeAddon, hold, if_false, Bool.false_eq_true]
  rfl

/-- A call that refreshes is its change of the list followed by `RefreshAddons`. -/
theorem step_of_refreshStart {call : Call} {start : MultiAddonManager}
    (hstart : start ∈ m.refreshStart call) :
    (∃ bReloadMap, m.step call = start.refreshAddons call.host bReloadMap) ∧
      start.mounts = m.mounts := by
  obtain ⟨h, event⟩ := call
  cases event with
  | refreshAddons bReloadMap =>
    obtain rfl := Option.some.inj hstart
    exact ⟨⟨bReloadMap, rfl⟩, rfl⟩
  | startupServer | setExtraAddons newVal =>
    obtain rfl := Option.some.inj hstart
    exact ⟨⟨false, rfl⟩, rfl⟩
  | gameServerSteamAPIActivated =>
    cases hdedicated : m.dedicatedServer with
    | false => simp [refreshStart, hdedicated] at hstart
    | true =>
      obtain rfl : m = start := by simpa [refreshStart, hdedicated] using hstart
      refine ⟨⟨true, ?_⟩, rfl⟩
      simp [MultiAddonManager.step, hookGameServerSteamAPIActivated, hdedicated]
  | addAddon pszAddon bRefresh =>
    simp only [refreshStart, Option.mem_def, Option.ite_none_right_eq_some] at hstart
    obtain ⟨⟨hnew, rfl⟩, hstart⟩ := hstart
    obtain ⟨hrefresh, hmounts⟩ := addAddon_of_notMem h hnew
    obtain rfl := Option.some.inj hstart
    exact ⟨⟨false, hrefresh⟩, hmounts⟩
  | removeAddon pszAddon bRefresh =>
    simp only [refreshStart, Option.mem_def, Option.ite_none_right_eq_some] at hstart
    obtain ⟨⟨hold, rfl⟩, hstart⟩ := hstart
    obtain ⟨hrefresh, hmounts⟩ := removeAddon_of_mem h hold
    obtain rfl := Option.some.inj hstart
    exact ⟨⟨false, hrefresh⟩, hmounts⟩
  | _ => cases hstart

/-- A refresh, also one inside another call, mounts exactly the configured addons, in
their order, and clearing unmounts everything. -/
def Reconciles (m : MultiAddonManager) (call : Call) : Prop :=
  let m' := (m.step call).1
  match call.event with
  | .clearAddons => m'.mountedAddons = [] ∧ m'.searchPaths = []
  | _ => ∀ start ∈ m.refreshStart call, call.host.hasSteamUGC = true →
    start.AllMountable call.host →
      m'.mountedAddons = start.mountTargets ∧
        (m'.searchPaths.map AddonPath.addon).Perm m'.mountedAddons

/-- The addons that cannot be unmounted, in the order in which the loop leaves
them, are the first of those to be mounted; before clearing there are none. -/
def OnlyTargetsStay (m : MultiAddonManager) (call : Call) : Prop :=
  match call.event with
  | .clearAddons => ∀ addon ∈ m.mountedAddons, m.staysMounted addon = false
  | _ => ∀ start ∈ m.refreshStart call, call.host.hasSteamUGC = true →
    start.AllMountable call.host →
      sweepBack m.staysMounted m.mountedAddons [] <+: start.mountTargets

theorem mountedAddons_refreshAddons_of_allMountable (hm : m.MountsRegistered)
    (hfs : h.RegistersPackages) (hugc : h.hasSteamUGC = true) (hall : m.AllMountable h)
    (bReloadMap : Bool) :
    (m.refreshAddons h bReloadMap).1.mountedAddons =
      sweepBack m.staysMounted m.mountedAddons [] ++
        m.mountTargets.filter (· ∉ sweepBack m.staysMounted m.mountedAddons []) := by
  have hmountable : ∀ addon ∈ m.extraAddons,
      m.mountable h addon = (addon ∉ stringToVector m.currentWorkshopMap : Bool) := by
    intro addon haddon
    obtain ⟨hne, hcan⟩ := hall addon haddon
    simp [mountable, hne, hcan]
  rw [mountedAddons_refreshAddons hugc, leftMounted_eq hfs hm, foldl_appendNew_append,
    mountTargets, filter_eraseDups, List.filter_filter]
  congr 2
  refine List.filter_congr fun addon haddon => ?_
  rw [hmountable addon haddon, Bool.and_comm]

theorem MountsRegistered.mountedAddons_refresh_iff (hm : m.MountsRegistered) {call : Call}
    (hfs : call.host.RegistersPackages) {start : MultiAddonManager}
    (hstart : start ∈ m.refreshStart call) (hugc : call.host.hasSteamUGC = true)
    (hall : start.AllMountable call.host) :
    (m.step call).1.mountedAddons = start.mountTargets ↔
      sweepBack m.staysMounted m.mountedAddons [] <+: start.mountTargets := by
  obtain ⟨⟨bReloadMap, hstep⟩, hmounts⟩ := step_of_refreshStart hstart
  obtain ⟨hsame, hpaths⟩ := Prod.mk.inj hmounts
  have hstays : start.staysMounted = m.staysMounted := by
    funext addon
    simp only [staysMounted, hpaths]
  have hmounted := mountedAddons_refreshAddons_of_allMountable (hm.congr hmounts) hfs hugc hall
    bReloadMap
  rw [← hstep, hsame, hstays] at hmounted
  have htargets : start.mountTargets.Nodup := nodup_eraseDups _
  rw [← append_filter_notMem_eq_iff htargets]
  exact Eq.congr_left hmounted

theorem MountsRegistered.reconciles_iff (hm : m.MountsRegistered) {call : Call}
    (hfs : call.host.RegistersPackages) : m.Reconciles call ↔ m.OnlyTargetsStay call := by
  have hpaths := (hm.step hfs).paths
  obtain ⟨h, event⟩ := call
  cases event with
  | clearAddons =>
    have hleft : (m.clearAddons h).mountedAddons =
        sweepBack m.staysMounted m.mountedAddons [] :=
      mountedAddons_unmountAll hfs m.mountedAddons (hm.congr rfl) (List.append_nil _).symm
    rw [OnlyTargetsStay, ← sweepBack_eq_nil_iff, ← hleft]
    refine and_iff_left_of_imp fun hnil => ?_
    rw [hnil] at hpaths
    exact List.map_eq_nil_iff.1 hpaths.eq_nil
  | _ =>
    refine forall₄_congr fun start hstart hugc hall => ?_
    rw [← hm.mountedAddons_refresh_iff hfs hstart hugc hall]
    exact and_iff_left hpaths

/-- Over every history of a plugin that starts without mounts, each refresh and each
clearing does what it should exactly if the addons that cannot be unmounted are
those that come first anyway. -/
theorem mounts_reconciled_iff (m : MultiAddonManager) (hmounted : m.mountedAddons = [])
    (hpaths : m.searchPaths = []) (calls : List Call)
    (hfs : EveryStep (fun _ call => call.host.RegistersPackages) calls) :
    EveryStep (fun pre call => (run step m pre).Reconciles call) calls ↔
      EveryStep (fun pre call => (run step m pre).OnlyTargetsStay call) calls := by
  have hinit : m.MountsRegistered := by
    refine ⟨?_, ?_, ?_⟩ <;> simp [hmounted, hpaths]
  refine everyStep_iff_of_assumed hfs fun pre call hpre hcall => ?_
  have hreached := run_induction step (fun _ m => m.MountsRegistered) hpre hinit
    fun _ _ hfs hm => hm.step hfs
  exact hreached.reconciles_iff hcall

/-- Packages that are all of one layout, registered by the name of their file. -/
def packageHost (legacy : Bool) : Host :=
  { itemState := fun _ => itemStateInstalled
    packageExists := fun path => path.legacy = legacy
    addSearchPath := fun paths path => ⟨path.addon, legacy⟩ :: paths }

theorem registersPackages_packageHost (legacy : Bool) :
    (packageHost legacy).RegistersPackages where
  add paths addon _ := by cases legacy <;> exact List.Perm.refl _
  remove_none paths path hpath := if_neg hpath
  remove_some paths path hpath := ⟨_, if_pos hpath, List.Perm.refl _⟩

theorem mounts_reconciled_two_refreshes :
    let calls : List Call := [⟨packageHost false, .addAddon (ascii "1111111111") true⟩,
      ⟨packageHost false, .refreshAddons true⟩]
    EveryStep (fun pre call => (run step {} pre).Reconciles call) calls ↔
      EveryStep (fun pre call => (run step {} pre).OnlyTargetsStay call) calls :=
  mounts_reconciled_iff {} rfl rfl _ <| everyStep_cons.2
    ⟨registersPackages_packageHost false, everyStep_cons.2
      ⟨registersPackages_packageHost false, everyStep_nil⟩⟩

/-- The addon 1111111111 is a single file. After it is removed from the list, a
refresh leaves it mounted. -/
theorem single_file_addon_stays_mounted :
    let calls : List Call := [⟨packageHost true, .addAddon (ascii "1111111111") true⟩,
      ⟨packageHost true, .removeAddon (ascii "1111111111") false⟩,
      ⟨packageHost true, .refreshAddons false⟩]
    EveryStep (fun _ call => call.host.RegistersPackages) calls ∧
      ¬ EveryStep (fun pre call => (run step {} pre).Reconciles call) calls := by
  intro calls
  have hfs : (packageHost true).RegistersPackages := registersPackages_packageHost true
  refine ⟨everyStep_cons.2 ⟨hfs, everyStep_cons.2 ⟨hfs, everyStep_cons.2 ⟨hfs, everyStep_nil⟩⟩⟩, ?_⟩
  intro hrun
  have hextra : (run step {} [⟨packageHost true, .addAddon (ascii "1111111111") true⟩,
      ⟨packageHost true, .removeAddon (ascii "1111111111") false⟩]).extraAddons = [] := by
    decide +kernel
  have hmountable : (run step {} [⟨packageHost true, .addAddon (ascii "1111111111") true⟩,
      ⟨packageHost true, .removeAddon (ascii "1111111111") false⟩]).AllMountable
        (packageHost true) := by
    rw [AllMountable, hextra]
    exact fun _ haddon => absurd haddon List.not_mem_nil
  have hreconciled := (hrun [_, _] _ [] rfl _ rfl rfl hmountable).1
  exact absurd hreconciled (by decide +kernel)

end MultiAddonManager
end MultiAddonRss
