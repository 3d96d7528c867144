import MultiAddonRss.Manager.MountSpecs
import MultiAddonRss.Manager.ReloadCycle

/-!
# The reload after a refresh

`RefreshAddons(true)` is to reload the map once all addons are mounted. It does if
every call of `MountAddon` mounts its addon, so not if an addon is there already.
-/

namespace MultiAddonRss
namespace MultiAddonManager

variable {h : Host} {m : MultiAddonManager}

theorem reloadsMap_append (out rest : List Output) :
    reloadsMap (out ++ rest) = (reloadsMap out || reloadsMap rest) := List.any_append

theorem MayDownload.reloadsMap {pszAddon : CString} {result : MultiAddonManager × List Output}
    (hresult : m.MayDownload h pszAddon result) : reloadsMap result.2 = false := by
  rcases hresult with rfl | ⟨bImportant, bForce, rfl⟩
  · rfl
  · exact m.reloadsMap_downloadAddon h pszAddon bImportant bForce

theorem reloadsMap_mountAddon (h : Host) (m : MultiAddonManager) (pszAddon : CString) :
    reloadsMap (m.mountAddon h pszAddon).2.2 = false := by
  obtain ⟨result, hdownload, ⟨-, hcall⟩ | ⟨-, hcall⟩⟩ := m.mountAddon_cases h pszAddon
  · rw [hcall]
    exact hdownload.reloadsMap
  · rw [hcall]
    exact hdownload.reloadsMap

theorem reloadsMap_mountAll (addons : List CString) :
    reloadsMap (mountAll h addons m).2.2 = false := by
  induction addons generalizing m with
  | nil => rfl
  | cons addon addons ih =>
    simp only [mountAll, reloadsMap_append, reloadsMap_mountAddon, ih, Bool.or_self]

theorem reloadsMap_refreshAddons (hugc : h.hasSteamUGC = true) :
    reloadsMap (m.refreshAddons h true).2 = true ↔ m.extraAddons.Nodup ∧
      ∀ addon ∈ m.extraAddons, m.mountable h addon = true ∧ addon ∉ m.leftMounted h := by
  have hextra : (unmountAll h m.mountedAddons.length m).extraAddons = m.extraAddons :=
    (m.mountEffect_unmountAll h m.mountedAddons.length).change.extraAddons
  rw [← mountAll_unmounted_iff]
  simp only [refreshAddons, hugc, hextra, Bool.not_true, Bool.false_eq_true,
    if_false, Bool.and_true]
  split_ifs with hmounted
  · simp [hmounted, reloadsMap_append, reloadsMap_reloadMap]
  · simp [hmounted, reloadsMap_mountAll]

/-- All addons of the list are mounted, or the workshop map. -/
def AllMounted (m : MultiAddonManager) : Prop :=
  ∀ addon ∈ m.extraAddons, m.isAddonMounted addon true = true

theorem allMounted_refreshAddons (hugc : h.hasSteamUGC = true) (bReloadMap : Bool) :
    (m.refreshAddons h bReloadMap).1.AllMounted ↔ ∀ addon ∈ m.extraAddons,
      addon ∈ m.leftMounted h ∨ m.mountable h addon = true ∨ m.currentWorkshopMap = addon := by
  have heffect := m.mountEffect_refreshAddons h bReloadMap
  obtain ⟨_, _, _, _, hrefresh⟩ := heffect.change
  have hmap : (m.refreshAddons h bReloadMap).1.currentWorkshopMap = m.currentWorkshopMap := by
    rw [hrefresh]
  rw [AllMounted, heffect.change.extraAddons]
  refine forall₂_congr fun addon haddon => ?_
  rw [isAddonMounted, hmap, mountedAddons_refreshAddons hugc]
  simp [Foundations.mem_foldl_appendNew, haddon, or_assoc]

/-- The reload is issued exactly when all addons are mounted if some addon is not
available at all, or if each one is mounted anew. -/
theorem reload_iff_allMounted_iff (h : Host) (m : MultiAddonManager)
    (hugc : h.hasSteamUGC = true) :
    (reloadsMap (m.refreshAddons h true).2 = true ↔ (m.refreshAddons h true).1.AllMounted) ↔
      (∃ addon ∈ m.extraAddons, addon ∉ m.leftMounted h ∧ m.mountable h addon = false ∧
        m.currentWorkshopMap ≠ addon) ∨
      (m.extraAddons.Nodup ∧
        ∀ addon ∈ m.extraAddons, m.mountable h addon = true ∧ addon ∉ m.leftMounted h) := by
  rw [reloadsMap_refreshAddons hugc, allMounted_refreshAddons hugc]
  constructor
  · intro hagree
    by_cases hall : ∀ addon ∈ m.extraAddons,
        addon ∈ m.leftMounted h ∨ m.mountable h addon = true ∨ m.currentWorkshopMap = addon
    · exact .inr (hagree.2 hall)
    · push Not at hall
      obtain ⟨addon, haddon, hleft, hmount, hmap⟩ := hall
      exact .inl ⟨addon, haddon, hleft, Bool.not_eq_true _ ▸ hmount, hmap⟩
  · rintro (⟨addon, haddon, hleft, hmount, hmap⟩ | hanew)
    · refine iff_of_false (fun hanew => ?_) fun hall => ?_
      · simp [(hanew.2 addon haddon).1] at hmount
      · rcases hall addon haddon with hin | hyes | heq
        · exact hleft hin
        · simp [hyes] at hmount
        · exact hmap heq
    · exact iff_of_true hanew fun addon haddon => .inr (.inl (hanew.2 addon haddon).1)

theorem reload_iff_allMounted_one_addon :
    let h : Host := { itemState := fun _ => itemStateInstalled }
    let m : MultiAddonManager := { extraAddons := [ascii "1111111111"] }
    (reloadsMap (m.refreshAddons h true).2 = true ↔ (m.refreshAddons h true).1.AllMounted) ↔
      (∃ addon ∈ m.extraAddons, addon ∉ m.leftMounted h ∧ m.mountable h addon = false ∧
        m.currentWorkshopMap ≠ addon) ∨
      (m.extraAddons.Nodup ∧
        ∀ addon ∈ m.extraAddons, m.mountable h addon = true ∧ addon ∉ m.leftMounted h) :=
  reload_iff_allMounted_iff _ _ rfl

/-- The workshop map is also in the list of the server: everything is mounted, but
the map is not reloaded. -/
theorem workshop_map_in_list_never_reloads :
    let h : Host := { itemState := fun _ => itemStateInstalled }
    let m : MultiAddonManager := { extraAddons := [ascii "1111111111"],
                                   currentWorkshopMap := ascii "1111111111" }
    ¬ (reloadsMap (m.refreshAddons h true).2 = true ↔
      (m.refreshAddons h true).1.AllMounted) := by
  intro h m hagree
  have hmounted : (m.refreshAddons h true).1.AllMounted := by
    intro addon haddon
    obtain rfl : addon = ascii "1111111111" := by
      simpa [(m.mountEffect_refreshAddons h true).change.extraAddons, m] using haddon
    decide +kernel
  exact absurd (hagree.2 hmounted) (by decide +kernel)

end MultiAddonManager
end MultiAddonRss
