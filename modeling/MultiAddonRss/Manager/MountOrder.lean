import MultiAddonRss.Manager.SearchPaths

/-!
# The order of the mounts

The server puts each addon on top of its search paths and at the end of its list of
mounts, and a client mounts its list from the first addon to the last, so that both
resolve a file to the same addon. The fast removal moves the last mounted addon, though,
and the search path stays where it is. The orders agree exactly as long as no addon is
unmounted from before the last two.
-/

namespace MultiAddonRss

open Foundations

/-- The file system puts a new path on top and keeps the order of the others. -/
structure Host.StacksPackages (h : Host) : Prop where
  add : ∀ paths addon, (∀ path ∈ paths, path.addon ≠ addon) →
    h.addSearchPath paths ⟨addon, true⟩ = ⟨addon, !h.packageExists ⟨addon, false⟩⟩ :: paths
  remove_none : ∀ paths path, path ∉ paths → h.removeSearchPath paths path = none
  remove_some : ∀ paths path, path ∈ paths →
    h.removeSearchPath paths path = some (paths.erase path)

namespace Host.StacksPackages

variable {h : Host}

theorem registersPackages (hfs : h.StacksPackages) : h.RegistersPackages where
  add paths addon hfresh := by rw [hfs.add paths addon hfresh]
  remove_none := hfs.remove_none
  remove_some paths path hpath := ⟨_, hfs.remove_some paths path hpath, List.Perm.refl _⟩

end Host.StacksPackages

namespace MultiAddonManager

/-- The addon that was mounted last is on top. -/
def Stacked (m : MultiAddonManager) : Prop :=
  m.searchPaths.map AddonPath.addon = m.mountedAddons.reverse

instance (m : MultiAddonManager) : Decidable m.Stacked :=
  inferInstanceAs (Decidable (_ = _))

def searchOrder (m : MultiAddonManager) : List CString :=
  m.searchPaths.map AddonPath.addon

variable {h : Host} {m : MultiAddonManager}

/-! ## Paths of distinct addons -/

/-- An addon has one path, so unmounting it takes it out of the order. -/
theorem map_addon_erase_eq {paths : List AddonPath}
    (hnodup : (paths.map AddonPath.addon).Nodup) {path : AddonPath} (hpath : path ∈ paths) :
    (paths.erase path).map AddonPath.addon = (paths.map AddonPath.addon).erase path.addon := by
  induction paths with
  | nil => simp at hpath
  | cons first paths ih =>
    obtain ⟨hfirst, hrest⟩ := List.nodup_cons.1 hnodup
    by_cases heq : first = path
    · subst heq
      simp
    · have hmem : path ∈ paths := (List.mem_cons.1 hpath).resolve_left (Ne.symm heq)
      have hne : first.addon ≠ path.addon := by
        intro h
        exact hfirst (h ▸ List.mem_map_of_mem hmem)
      rw [List.erase_cons_tail (by simpa using heq), List.map_cons, List.map_cons,
        List.erase_cons_tail (by simpa using hne), ih hrest hmem]

/-! ## Unmounting -/

theorem MountsRegistered.nodup_searchOrder (hm : m.MountsRegistered) : m.searchOrder.Nodup :=
  hm.paths.nodup_iff.2 hm.nodup

theorem MountsRegistered.unmountAddon_orders (hm : m.MountsRegistered) (hfs : h.StacksPackages)
    (addon : CString) :
    (addon ∈ m.mountedAddons ∧ m.staysMounted addon = false ∧
        (m.unmountAddon h addon).2.searchOrder = m.searchOrder.erase addon ∧
        (m.unmountAddon h addon).2.mountedAddons = findAndFastRemove m.mountedAddons addon) ∨
      (addon ∉ m.mountedAddons ∨ m.staysMounted addon = true) ∧
        (m.unmountAddon h addon).2 = m := by
  by_cases hpath : (⟨addon, false⟩ : AddonPath) ∈ m.searchPaths
  · have hmem : addon ∈ m.mountedAddons := hm.mem_of_mem_searchPaths hpath
    have hne : addon ≠ [] := hm.ne_nil addon hmem
    refine .inl ⟨hmem, by simpa [staysMounted] using hpath, ?_, ?_⟩
    · have horder := map_addon_erase_eq hm.nodup_searchOrder hpath
      simpa [MultiAddonManager.unmountAddon, hne, hfs.remove_some _ _ hpath, searchOrder]
        using horder
    · simp [MultiAddonManager.unmountAddon, hne, hfs.remove_some _ _ hpath]
  · refine .inr ⟨.inr (by simpa [staysMounted] using hpath), ?_⟩
    rw [MultiAddonManager.unmountAddon, hfs.remove_none _ _ hpath]
    split_ifs <;> rfl

theorem searchOrder_unmountAll (hfs : h.StacksPackages) (xs : List CString) :
    ∀ {m : MultiAddonManager} {kept : List CString}, m.MountsRegistered →
      m.mountedAddons = xs ++ kept →
      (MultiAddonManager.unmountAll h xs.length m).searchOrder =
        m.searchOrder.filter fun a => m.staysMounted a || a ∉ xs := by
  induction xs using List.reverseRecOn with
  | nil =>
    intro m kept _ _
    simp [MultiAddonManager.unmountAll]
  | append_singleton xs addon ih =>
    intro m kept hm hmounted
    have hlast : m.mountedAddons.getD xs.length [] = addon := by
      simp [hmounted]
    rw [List.append_assoc, List.singleton_append] at hmounted
    obtain ⟨hmounted', hstays⟩ :=
      hm.unmountAddon_sweep hfs.registersPackages hmounted
    have hmem : addon ∈ m.mountedAddons := by
      simp [hmounted]
    rw [List.length_append, List.length_singleton, MultiAddonManager.unmountAll, hlast,
      ih (hm.unmountAddon hfs.registersPackages addon) hmounted']
    rcases hm.unmountAddon_orders hfs addon with ⟨-, hgone, horder, -⟩ | ⟨hstay, hsame⟩
    · rw [horder, hm.nodup_searchOrder.erase_eq_filter, List.filter_filter]
      apply List.filter_congr
      intro a _
      by_cases hxs : a ∈ xs
      · have hne : a ≠ addon := by
          rintro rfl
          exact (List.nodup_append.1 (hmounted ▸ hm.nodup)).2.2 a hxs a (by simp) rfl
        simp [hstays a hxs, hxs, hne]
      · by_cases heq : a = addon <;> simp [hxs, heq, hgone]
    · rw [hsame]
      have hstays' : m.staysMounted addon = true := hstay.resolve_left fun hnot => hnot hmem
      apply List.filter_congr
      intro a _
      by_cases heq : a = addon <;> simp [heq, hstays']

/-! ## What keeps the order -/

theorem Stacked.unmountAll_iff (hm : m.MountsRegistered) (hfs : h.StacksPackages)
    (hstacked : m.Stacked) :
    (MultiAddonManager.unmountAll h m.mountedAddons.length m).Stacked ↔
      sweepBack m.staysMounted m.mountedAddons [] = m.mountedAddons.filter m.staysMounted := by
  have hmounted := mountedAddons_unmountAll hfs.registersPackages m.mountedAddons hm
    (List.append_nil _).symm
  have horder := searchOrder_unmountAll hfs m.mountedAddons hm (List.append_nil _).symm
  have hleft : (m.searchOrder.filter fun a => m.staysMounted a || a ∉ m.mountedAddons) =
      (m.mountedAddons.filter m.staysMounted).reverse := by
    rw [← List.filter_reverse, ← show m.searchOrder = _ from hstacked]
    apply List.filter_congr
    intro a ha
    have hmem : a ∈ m.mountedAddons := hm.paths.subset ha
    simp [hmem]
  unfold Stacked
  rw [← searchOrder, horder, hleft, hmounted, List.reverse_inj, eq_comm]

theorem stacked_mountAddon_iff (hm : m.MountsRegistered) (hfs : h.StacksPackages)
    (addon : CString) : (m.mountAddon h addon).2.1.Stacked ↔ m.Stacked := by
  unfold Stacked
  rcases m.mounts_mountAddon h addon with
    ⟨⟨-, hnew⟩, -, hmounted, hpaths⟩ | ⟨-, -, hmounted, hpaths⟩
  · have hfresh : ∀ path ∈ m.searchPaths, path.addon ≠ addon := by
      intro path hpath heq
      exact hnew (heq ▸ hm.mem_of_mem_searchPaths hpath)
    rw [hmounted, hpaths, hfs.add _ _ hfresh]
    simp
  · rw [hmounted, hpaths]

theorem stacked_mountAll_iff (hfs : h.StacksPackages) (addons : List CString) :
    ∀ {m : MultiAddonManager}, m.MountsRegistered →
      ((MultiAddonManager.mountAll h addons m).2.1.Stacked ↔ m.Stacked) := by
  induction addons with
  | nil => exact fun _ => Iff.rfl
  | cons addon addons ih =>
    intro m hm
    exact (ih (hm.mountAddon hfs.registersPackages addon)).trans
      (stacked_mountAddon_iff hm hfs addon)

theorem stacked_refreshAddons_iff (hm : m.MountsRegistered) (hfs : h.StacksPackages)
    (hstacked : m.Stacked) (bReloadMap : Bool) :
    (m.refreshAddons h bReloadMap).1.Stacked ↔ (h.hasSteamUGC = true →
      sweepBack m.staysMounted m.mountedAddons [] = m.mountedAddons.filter m.staysMounted) := by
  cases hugc : h.hasSteamUGC with
  | false => simpa [MultiAddonManager.refreshAddons, hugc] using hstacked
  | true =>
    have hunmounted := MountsRegistered.unmountAll hfs.registersPackages m.mountedAddons.length hm
    rw [← hstacked.unmountAll_iff hm hfs, ← stacked_mountAll_iff hfs
      (MultiAddonManager.unmountAll h m.mountedAddons.length m).extraAddons hunmounted]
    simp only [MultiAddonManager.refreshAddons, hugc, Bool.not_true, Bool.false_eq_true, if_false,
      forall_const]
    split_ifs <;> rfl

theorem Stacked.congr {m' : MultiAddonManager} (hstacked : m.Stacked)
    (hmounts : m'.mounts = m.mounts) : m'.Stacked := by
  obtain ⟨hmounted, hpaths⟩ := Prod.mk.inj hmounts
  unfold Stacked
  rw [hmounted, hpaths]
  exact hstacked

/-! ## Steps and runs -/

def sweeps (m : MultiAddonManager) (call : Call) : Bool :=
  match call.event with
  | .startupServer | .refreshAddons _ | .setExtraAddons _ => call.host.hasSteamUGC
  | .gameServerSteamAPIActivated => m.dedicatedServer && call.host.hasSteamUGC
  | .addAddon pszAddon bRefresh => pszAddon ∉ m.extraAddons && bRefresh && call.host.hasSteamUGC
  | .removeAddon pszAddon bRefresh => pszAddon ∈ m.extraAddons && bRefresh && call.host.hasSteamUGC
  | .clearAddons => true
  | _ => false

/-- The fast removal moves an addon past others that stay mounted. -/
def Disorders (m : MultiAddonManager) (call : Call) : Prop :=
  match call.event with
  | .unmountAddon addon => addon ∈ m.mountedAddons ∧ m.staysMounted addon = false ∧
      findAndFastRemove m.mountedAddons addon ≠ m.mountedAddons.erase addon
  | _ => m.sweeps call = true ∧
      sweepBack m.staysMounted m.mountedAddons [] ≠ m.mountedAddons.filter m.staysMounted

theorem stacked_unmountAddon_iff (hm : m.MountsRegistered) (hfs : h.StacksPackages)
    (hstacked : m.Stacked) (addon : CString) : (m.unmountAddon h addon).2.Stacked ↔
      (addon ∈ m.mountedAddons → m.staysMounted addon = false →
        findAndFastRemove m.mountedAddons addon = m.mountedAddons.erase addon) := by
  rcases hm.unmountAddon_orders hfs addon with ⟨hmem, hgone, horder, hmounted⟩ | ⟨hkept, hsame⟩
  · have hreverse : m.searchOrder.erase addon = (m.mountedAddons.erase addon).reverse := by
      rw [show m.searchOrder = m.mountedAddons.reverse from hstacked,
        (List.nodup_reverse.2 hm.nodup).erase_eq_filter, hm.nodup.erase_eq_filter,
        List.filter_reverse]
    unfold Stacked
    rw [← searchOrder, horder, hmounted, hreverse, List.reverse_inj, eq_comm]
    simp [hmem, hgone]
  · rw [hsame]
    refine iff_of_true hstacked fun hmem hgone => ?_
    rcases hkept with hnot | hstays
    · exact absurd hmem hnot
    · rw [hgone] at hstays
      cases hstays

theorem Stacked.step_iff (hm : m.MountsRegistered) (hstacked : m.Stacked) {call : Call}
    (hfs : call.host.StacksPackages) : (m.step call).1.Stacked ↔ ¬ m.Disorders call := by
  obtain ⟨h, event⟩ := call
  have hrefresh {m' : MultiAddonManager} (hmounts : m'.mounts = m.mounts) (bReloadMap : Bool) :
      (m'.refreshAddons h bReloadMap).1.Stacked ↔ ¬ (h.hasSteamUGC = true ∧
        sweepBack m.staysMounted m.mountedAddons [] ≠ m.mountedAddons.filter m.staysMounted) := by
    obtain ⟨hmounted, hpaths⟩ := Prod.mk.inj hmounts
    have hstays : m'.staysMounted = m.staysMounted := by
      funext a
      simp only [staysMounted, hpaths]
    rw [stacked_refreshAddons_iff (hm.congr hmounts) hfs (hstacked.congr hmounts), hmounted, hstays]
    tauto
  have hquiet (hmounts : (m.step ⟨h, event⟩).1.mounts = m.mounts)
      (hkept : ¬ m.Disorders ⟨h, event⟩) :
      (m.step ⟨h, event⟩).1.Stacked ↔ ¬ m.Disorders ⟨h, event⟩ :=
    iff_of_true (hstacked.congr hmounts) hkept
  cases event with
  | startupServer => exact hrefresh (by rfl) false
  | refreshAddons bReloadMap => exact hrefresh rfl bReloadMap
  | setExtraAddons newVal => exact hrefresh (by rfl) false
  | gameServerSteamAPIActivated =>
    simp only [MultiAddonManager.step, hookGameServerSteamAPIActivated, Disorders, sweeps]
    cases m.dedicatedServer with
    | false => simpa using hstacked
    | true => simpa using hrefresh rfl true
  | unmountAddon addon =>
    simp only [MultiAddonManager.step, Disorders]
    rw [stacked_unmountAddon_iff hm hfs hstacked]
    tauto
  | addAddon pszAddon bRefresh =>
    by_cases hadd : pszAddon ∉ m.extraAddons ∧ bRefresh = true
    · obtain ⟨hnew, rfl⟩ := hadd
      simpa [MultiAddonManager.step, MultiAddonManager.addAddon, Disorders, sweeps, hnew] using
        hrefresh (by rfl) false
    · apply hquiet
      · simp only [MultiAddonManager.step, MultiAddonManager.addAddon]
        split_ifs with hmem hrefreshes
        · rfl
        · exact absurd ⟨hmem, hrefreshes⟩ hadd
        · rfl
      · simp only [Disorders, sweeps, Bool.and_eq_true, decide_eq_true_eq]
        tauto
  | removeAddon pszAddon bRefresh =>
    by_cases hremove : pszAddon ∈ m.extraAddons ∧ bRefresh = true
    · obtain ⟨hold, rfl⟩ := hremove
      simpa [MultiAddonManager.step, MultiAddonManager.removeAddon, Disorders, sweeps, hold] using
        hrefresh (by rfl) false
    · apply hquiet
      · simp only [MultiAddonManager.step, MultiAddonManager.removeAddon]
        split_ifs with hmem hrefreshes
        · exact absurd ⟨hmem, hrefreshes⟩ hremove
        · rfl
        · rfl
      · simp only [Disorders, sweeps, Bool.and_eq_true, decide_eq_true_eq]
        tauto
  | clearAddons =>
    let cleared : MultiAddonManager :=
      { m with extraAddons := [], conVars := { m.conVars with mmExtraAddons := [] } }
    have hcleared : (MultiAddonManager.unmountAll h m.mountedAddons.length cleared).Stacked ↔
        sweepBack m.staysMounted m.mountedAddons [] = m.mountedAddons.filter m.staysMounted :=
      Stacked.unmountAll_iff (m := cleared) (hm.congr rfl) hfs (hstacked.congr rfl)
    simp only [Disorders, sweeps, true_and, not_not]
    exact hcleared
  | mountAddon pszAddon =>
    exact iff_of_true ((stacked_mountAddon_iff hm hfs pszAddon).2 hstacked)
      (by simp [Disorders, sweeps])
  | downloadAddon pszAddon bImportant bForce =>
    obtain ⟨hmounted, hpaths⟩ := m.mounts_downloadAddon h pszAddon bImportant bForce
    exact hquiet (Prod.ext hmounted hpaths) (by simp [Disorders, sweeps])
  | onAddonDownloaded publishedFileId =>
    exact hquiet (m.mounts_onAddonDownloaded h publishedFileId) (by simp [Disorders, sweeps])
  | setPendingHostStateRequest request => exact hquiet rfl (by simp [Disorders, sweeps])
  | _ =>
    exact hquiet (mounts_of_serverPart (m.serverPart_step rfl)) (by simp [Disorders, sweeps])

/-! ## The order of the clients -/

/-- A client's list has the mounted addons that are staged for it in the order in which
the server has mounted them. -/
theorem MountsRegistered.sublist_getClientAddons (hm : m.MountsRegistered) (steamID64 : UInt64)
    (bIncludeOptedOutRssAssets : Bool) :
    (m.mountedAddons.filter fun addon => addon ≠ m.currentWorkshopMap &&
      (bIncludeOptedOutRssAssets || m.isStaged steamID64 addon)).Sublist
        (m.getClientAddons steamID64 bIncludeOptedOutRssAssets) := by
  rw [getClientAddons_eq_filter, addonSources]
  refine List.Sublist.trans ?_ ((filter_sublist_eraseDups _ hm.nodup).filter _)
  rw [List.filter_filter]
  apply List.monotone_filter_right
  intro addon haddon
  by_cases hmap : m.currentWorkshopMap = [] <;> simp_all

/-- Over every history of a plugin that starts without mounts, the server's search order
is that of its mounts after each step exactly if no step moves an addon past one that
stays mounted. Then the staged addons come in the server's order in the list of a client,
except for the current workshop map, which heads that list wherever the server mounted it. -/
theorem mount_order_kept_iff (m : MultiAddonManager) (hmounted : m.mountedAddons = [])
    (hpaths : m.searchPaths = []) (calls : List Call)
    (hfs : EveryStep (fun _ call => call.host.StacksPackages) calls) :
    (EveryStep (fun pre call => ((run step m pre).step call).1.Stacked) calls ↔
      EveryStep (fun pre call => ¬ (run step m pre).Disorders call) calls) ∧
    (EveryStep (fun pre call => ¬ (run step m pre).Disorders call) calls →
      ∀ steamID64 bIncludeOptedOutRssAssets,
        ((run step m calls).searchOrder.reverse.filter fun addon =>
          addon ≠ (run step m calls).currentWorkshopMap &&
            (bIncludeOptedOutRssAssets || (run step m calls).isStaged steamID64 addon)).Sublist
          ((run step m calls).getClientAddons steamID64 bIncludeOptedOutRssAssets)) := by
  have hinit : m.MountsRegistered := by
    refine ⟨?_, ?_, ?_⟩ <;> simp [hmounted, hpaths]
  have hempty : m.Stacked := by
    simp [Stacked, hmounted, hpaths]
  have hregistered {pre : List Call}
      (hpre : EveryStep (fun _ call => call.host.StacksPackages) pre) :
      (run step m pre).MountsRegistered :=
    run_induction step (fun _ m => m.MountsRegistered) hpre hinit
      fun _ _ hcall hm => hm.step hcall.registersPackages
  have hstacked {pre : List Call}
      (hpre : EveryStep (fun pre call => ((run step m pre).step call).1.Stacked) pre) :
      (run step m pre).Stacked :=
    run_induction step (fun _ m => m.Stacked) hpre hempty fun _ _ hnext _ => hnext
  have hiff : EveryStep (fun pre call => ((run step m pre).step call).1.Stacked) calls ↔
      EveryStep (fun pre call => ¬ (run step m pre).Disorders call) calls := by
    apply everyStep_iff_of_assumed_agree hfs
    intro pre call hpre hcall hnext
    exact (hstacked hnext).step_iff (hregistered hpre) hcall
  refine ⟨hiff, ?_⟩
  intro hquiet steamID64 bIncludeOptedOutRssAssets
  have horder : (run step m calls).searchOrder.reverse = (run step m calls).mountedAddons := by
    rw [show (run step m calls).searchOrder = _ from hstacked (hiff.2 hquiet), List.reverse_reverse]
  rw [horder]
  exact (hregistered hfs).sublist_getClientAddons steamID64 bIncludeOptedOutRssAssets

theorem stacksPackages_packageHost (legacy : Bool) : (packageHost legacy).StacksPackages where
  add paths addon _ := by cases legacy <;> rfl
  remove_none paths path hpath := if_neg hpath
  remove_some paths path hpath := if_pos hpath

theorem mount_order_kept_iff_two_addons :
    let calls : List Call := [⟨packageHost false, .addAddon (ascii "1111111111") true⟩,
      ⟨packageHost false, .addAddon (ascii "2222222222") true⟩]
    EveryStep (fun pre call => ((run step {} pre).step call).1.Stacked) calls ↔
      EveryStep (fun pre call => ¬ (run step {} pre).Disorders call) calls := by
  intro calls
  have hfs : (packageHost false).StacksPackages := stacksPackages_packageHost false
  exact (mount_order_kept_iff {} rfl rfl calls (everyStep_cons.2 ⟨hfs, everyStep_cons.2
    ⟨hfs, everyStep_nil⟩⟩)).1

/-- Unmounting the first of three addons puts the third one below the second for clients,
while it stays on top on the server. -/
example :
    let m : MultiAddonManager := run step {} [⟨packageHost false, .mountAddon (ascii "1")⟩,
      ⟨packageHost false, .mountAddon (ascii "2")⟩, ⟨packageHost false, .mountAddon (ascii "3")⟩,
      ⟨packageHost false, .unmountAddon (ascii "1")⟩]
    m.searchOrder = [ascii "3", ascii "2"] ∧
      m.getClientAddons 7 true = [ascii "3", ascii "2"] := by
  decide +kernel

end MultiAddonManager
end MultiAddonRss
