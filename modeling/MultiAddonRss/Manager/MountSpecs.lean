import MultiAddonRss.Foundations.FirstOccurrences
import MultiAddonRss.Foundations.SwapRemove
import MultiAddonRss.Manager.MountEffects

/-!
# What a refresh of the mounts computes

Mounting appends the first occurrences of the mountable addons. Unmounting
asks for the removal of the path with the `_dir` suffix, so an addon that is
registered under the other path stays where it is.
-/

namespace MultiAddonRss

open Foundations

namespace MultiAddonManager

variable (h : Host) (m : MultiAddonManager)

/-! ## Mounting -/

theorem mounts_mountAddon (pszAddon : CString) :
    let result := m.mountAddon h pszAddon
    (m.mountable h pszAddon = true ∧ pszAddon ∉ m.mountedAddons) ∧ result.1 = true ∧
        result.2.1.mountedAddons = m.mountedAddons ++ [pszAddon] ∧
        result.2.1.searchPaths = h.addSearchPath m.searchPaths ⟨pszAddon, true⟩ ∨
      ¬ (m.mountable h pszAddon = true ∧ pszAddon ∉ m.mountedAddons) ∧ result.1 = false ∧
        result.2.1.mountedAddons = m.mountedAddons ∧
        result.2.1.searchPaths = m.searchPaths := by
  obtain ⟨result, hdownload, ⟨hnew, hcall⟩ | ⟨hnot, hcall⟩⟩ := m.mountAddon_cases h pszAddon
  · rw [hcall]
    exact .inl ⟨hnew, rfl, rfl, rfl⟩
  · rw [hcall]
    exact .inr ⟨hnot, rfl, hdownload.mounts⟩

variable {m} in
theorem MountChange.mountable {m' : MultiAddonManager} (hchange : m.MountChange m') :
    m'.mountable h = m.mountable h := by
  obtain ⟨_, _, _, _, rfl⟩ := hchange
  rfl

theorem mountedAddons_mountAddon (pszAddon : CString) :
    (m.mountAddon h pszAddon).2.1.mountedAddons =
      appendNew (m.mountable h) m.mountedAddons pszAddon := by
  rcases m.mounts_mountAddon h pszAddon with ⟨⟨hnew, hold⟩, -, hmounted, -⟩ | ⟨hnot, -, hmounted, -⟩
  · simp [hmounted, appendNew, hnew, hold]
  · rw [hmounted, appendNew]
    split_ifs with hkeep hold
    · rfl
    · rfl
    · exact absurd ⟨by simpa using hkeep, hold⟩ hnot

theorem mountAddon_eq_true_iff (pszAddon : CString) :
    (m.mountAddon h pszAddon).1 = true ↔
      m.mountable h pszAddon = true ∧ pszAddon ∉ m.mountedAddons := by
  rcases m.mounts_mountAddon h pszAddon with ⟨hnew, hresult, -⟩ | ⟨hnot, hresult, -⟩
  · exact iff_of_true hresult hnew
  · exact iff_of_false (by simp [hresult]) hnot

/-- The mount loop appends the first occurrences of the mountable addons. -/
theorem mountedAddons_mountAll (addons : List CString) :
    (mountAll h addons m).2.1.mountedAddons =
      addons.foldl (appendNew (m.mountable h)) m.mountedAddons := by
  induction addons generalizing m with
  | nil => rfl
  | cons addon addons ih =>
    have hchange := (m.mountEffect_mountAddon h addon).change
    rw [List.foldl_cons, ← m.mountedAddons_mountAddon h addon, ← hchange.mountable h]
    exact ih _

theorem mountAll_eq_true_iff (addons : List CString) :
    (mountAll h addons m).1 = true ↔
      addons.Nodup ∧ ∀ addon ∈ addons, m.mountable h addon = true ∧ addon ∉ m.mountedAddons := by
  induction addons generalizing m with
  | nil => simp [mountAll]
  | cons addon addons ih =>
    have hchange := (m.mountEffect_mountAddon h addon).change
    have hhead := m.mountAddon_eq_true_iff h addon
    simp only [mountAll, Bool.and_eq_true, ih, hhead, hchange.mountable h, List.nodup_cons,
      List.forall_mem_cons, m.mountedAddons_mountAddon h addon]
    constructor
    · rintro ⟨hnew, hnodup, hall⟩
      simp only [appendNew, hnew, Bool.not_true, Bool.false_eq_true, if_false, List.mem_append,
        List.mem_singleton, not_or] at hall
      exact ⟨⟨fun hmem => (hall addon hmem).2.2 rfl, hnodup⟩, hnew,
        fun a ha => ⟨(hall a ha).1, (hall a ha).2.1⟩⟩
    · rintro ⟨⟨hfresh, hnodup⟩, hnew, hall⟩
      refine ⟨hnew, hnodup, fun a ha => ⟨(hall a ha).1, ?_⟩⟩
      simp only [appendNew, hnew, Bool.not_true, Bool.false_eq_true, if_false, List.mem_append,
        List.mem_singleton, not_or]
      exact ⟨(hall a ha).2, ne_of_mem_of_not_mem ha hfresh⟩

/-! ## The refresh -/

def leftMounted : List CString :=
  (unmountAll h m.mountedAddons.length m).mountedAddons

variable {h m}

theorem mountedAddons_refreshAddons (hugc : h.hasSteamUGC = true) (bReloadMap : Bool) :
    (m.refreshAddons h bReloadMap).1.mountedAddons =
      m.extraAddons.foldl (appendNew (m.mountable h)) (m.leftMounted h) := by
  have hchange := (m.mountEffect_unmountAll h m.mountedAddons.length).change
  simp only [refreshAddons, leftMounted, hugc, Bool.not_true, Bool.false_eq_true, if_false]
  generalize unmountAll h m.mountedAddons.length m = unmounted at hchange ⊢
  rw [hchange.extraAddons, ← hchange.mountable h, ← mountedAddons_mountAll]
  split_ifs <;> rfl

/-- A refresh succeeds if no addon is repeated and each one can be mounted and was
not left mounted. -/
theorem mountAll_unmounted_iff :
    (mountAll h m.extraAddons (unmountAll h m.mountedAddons.length m)).1 = true ↔
      m.extraAddons.Nodup ∧
        ∀ addon ∈ m.extraAddons, m.mountable h addon = true ∧ addon ∉ m.leftMounted h := by
  have hchange := (m.mountEffect_unmountAll h m.mountedAddons.length).change
  rw [mountAll_eq_true_iff, hchange.mountable h, leftMounted]

end MultiAddonManager
end MultiAddonRss
