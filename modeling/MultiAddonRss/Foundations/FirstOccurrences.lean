import Mathlib.Data.List.Induction
import Mathlib.Data.List.Nodup

/-!
# Lists built by first occurrences

A loop that appends each element it has not appended yet builds the list of
first occurrences. A test in front of the append filters the list.
-/

namespace Foundations

variable {α : Type*} [BEq α] [LawfulBEq α]

def appendNew (keep : α → Bool) (acc : List α) (x : α) : List α :=
  if !keep x then acc else if x ∈ acc then acc else acc ++ [x]

theorem eraseDups_concat (xs : List α) (x : α) :
    (xs ++ [x]).eraseDups = if x ∈ xs then xs.eraseDups else xs.eraseDups ++ [x] := by
  rw [List.eraseDups_append]
  by_cases hx : x ∈ xs <;> simp [List.removeAll, hx, List.eraseDups_cons]

/-- The loop appends the first occurrences that it does not start with. -/
theorem foldl_appendNew_append (keep : α → Bool) (acc xs : List α) :
    xs.foldl (appendNew keep) acc =
      acc ++ (xs.filter fun x => keep x && x ∉ acc).eraseDups := by
  induction xs using List.reverseRecOn with
  | nil => simp
  | append_singleton xs x ih =>
    rw [List.foldl_concat, ih, List.filter_append, List.filter_singleton]
    by_cases hx : keep x = true
    · by_cases hacc : x ∈ acc
      · simp [appendNew, hx, hacc]
      · simp only [appendNew, hx, hacc, Bool.not_true, Bool.false_eq_true, if_false,
          not_false_eq_true, decide_true, Bool.and_self, cond_true, eraseDups_concat]
        by_cases hxs : x ∈ xs <;> simp [hxs, hx, hacc, List.mem_eraseDups]
    · simp [appendNew, hx]

theorem foldl_appendNew (keep : α → Bool) (xs : List α) :
    xs.foldl (appendNew keep) [] = (xs.filter keep).eraseDups := by
  simpa using foldl_appendNew_append keep [] xs

theorem mem_foldl_appendNew {keep : α → Bool} {acc xs : List α} {x : α} :
    x ∈ xs.foldl (appendNew keep) acc ↔ x ∈ acc ∨ x ∈ xs ∧ keep x = true := by
  rw [foldl_appendNew_append, List.mem_append, List.mem_eraseDups, List.mem_filter]
  by_cases hacc : x ∈ acc <;> simp [hacc]

theorem nodup_eraseDups (xs : List α) : xs.eraseDups.Nodup := by
  induction xs using List.reverseRecOn with
  | nil => simp
  | append_singleton xs x ih =>
    rw [eraseDups_concat]
    split_ifs with hx
    · exact ih
    · refine List.nodup_append.2 ⟨ih, by simp, ?_⟩
      simpa [List.mem_eraseDups] using fun a ha => ne_of_mem_of_not_mem ha hx

theorem eraseDups_of_nodup {xs : List α} (hxs : xs.Nodup) : xs.eraseDups = xs := by
  induction xs using List.reverseRecOn with
  | nil => rfl
  | append_singleton xs x ih =>
    obtain ⟨hnodup, -, hdisjoint⟩ := List.nodup_append.1 hxs
    have hx : x ∉ xs := fun hmem => hdisjoint x hmem x (by simp) rfl
    rw [eraseDups_concat, if_neg hx, ih hnodup]

theorem nodup_cons_erase_iff {xs : List α} {x : α} : (x :: xs.erase x).Nodup ↔ xs.Nodup := by
  by_cases hx : x ∈ xs
  · exact (List.perm_cons_erase hx).symm.nodup_iff
  · simp [List.erase_of_not_mem hx, hx]

theorem filter_eraseDups (p : α → Bool) (xs : List α) :
    xs.eraseDups.filter p = (xs.filter p).eraseDups := by
  induction xs using List.reverseRecOn with
  | nil => rfl
  | append_singleton xs x ih =>
    rw [eraseDups_concat, List.filter_append, List.filter_singleton]
    cases hp : p x with
    | false => split_ifs <;> simp [ih, hp]
    | true =>
      rw [cond_true, eraseDups_concat]
      by_cases hx : x ∈ xs <;> simp [ih, hp, hx]

/-- A middle part without repetitions keeps its order, apart from what stands before it. -/
theorem filter_sublist_eraseDups {xs ys : List α} (zs : List α) (hys : ys.Nodup) :
    (ys.filter (· ∉ xs)).Sublist (xs ++ (ys ++ zs)).eraseDups := by
  have hfirst : (ys.filter fun y => !xs.elem y).eraseDups = ys.filter (· ∉ xs) := by
    rw [eraseDups_of_nodup (hys.filter _)]
    apply List.filter_congr
    simp
  rw [List.eraseDups_append, List.removeAll, List.filter_append, List.eraseDups_append, hfirst]
  exact (List.sublist_append_left _ _).trans (List.sublist_append_right _ _)

end Foundations
