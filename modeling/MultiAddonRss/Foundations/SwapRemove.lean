import Mathlib.Data.List.Induction
import Mathlib.Data.List.Nodup
import Mathlib.Data.List.Perm.Basic

/-!
# Removing from a vector while walking it backwards

A fast removal moves the last element of a vector into the gap. In a loop from the
last index to the first, the elements behind the index are those that stay, and
each removal moves the last of them to their front.
-/

namespace Foundations

variable {α : Type*}

def lastToFront (l : List α) : List α :=
  l.getLast?.toList ++ l.dropLast

@[simp] theorem lastToFront_nil : lastToFront ([] : List α) = [] := rfl

@[simp] theorem lastToFront_concat (l : List α) (a : α) : lastToFront (l ++ [a]) = a :: l := by
  simp [lastToFront]

theorem lastToFront_perm (l : List α) : (lastToFront l).Perm l := by
  induction l using List.reverseRecOn with
  | nil => rfl
  | append_singleton l a _ =>
    rw [lastToFront_concat]
    exact (List.perm_append_singleton a l).symm

theorem dropLast_set_getLastD (xs ys : List α) (a d : α) :
    ((xs ++ a :: ys).set xs.length ((xs ++ a :: ys).getLastD d)).dropLast =
      xs ++ lastToFront ys := by
  induction ys using List.reverseRecOn with
  | nil => simp
  | append_singleton ys b _ =>
    have hlast : (xs ++ a :: (ys ++ [b])).getLastD d = b := by
      rw [← List.cons_append, ← List.append_assoc, List.getLastD_concat]
    have hset : (xs ++ a :: (ys ++ [b])).set xs.length b = (xs ++ b :: ys) ++ [b] := by
      simp
    rw [hlast, hset, List.dropLast_concat, lastToFront_concat]

/-- What a backward loop leaves of `l` if the elements behind it are `kept` and all
elements are removed that do not stay. -/
def sweepBack (stays : α → Bool) (l kept : List α) : List α :=
  l.foldr (fun a kept => if stays a then a :: kept else lastToFront kept) kept

variable {stays : α → Bool} {l kept : List α}

theorem sweepBack_concat (a : α) : sweepBack stays (l ++ [a]) kept =
    sweepBack stays l (if stays a then a :: kept else lastToFront kept) := by
  simp [sweepBack]

theorem sweepBack_congr {stays' : α → Bool} (h : ∀ a ∈ l, stays a = stays' a) :
    sweepBack stays l kept = sweepBack stays' l kept := by
  induction l with
  | nil => rfl
  | cons a l ih =>
    obtain ⟨ha, hl⟩ := List.forall_mem_cons.1 h
    simp only [sweepBack, List.foldr_cons, ha] at ih ⊢
    rw [ih hl]

theorem sweepBack_perm : (sweepBack stays l kept).Perm (l.filter stays ++ kept) := by
  induction l with
  | nil => rfl
  | cons a l ih =>
    rw [sweepBack, List.foldr_cons, ← sweepBack]
    cases ha : stays a with
    | true => simpa [ha] using ih
    | false => simpa [ha] using (lastToFront_perm _).trans ih

theorem mem_sweepBack {a : α} : a ∈ sweepBack stays l [] ↔ a ∈ l ∧ stays a = true := by
  rw [sweepBack_perm.mem_iff, List.append_nil, List.mem_filter]

theorem sweepBack_eq_nil_iff : sweepBack stays l [] = [] ↔ ∀ a ∈ l, stays a = false := by
  rw [← List.perm_nil]
  constructor
  · intro hnil a ha
    by_contra hstays
    have hmem := mem_sweepBack.2 ⟨ha, Bool.not_eq_false _ ▸ hstays⟩
    simp [List.perm_nil.1 hnil] at hmem
  · intro hgone
    refine sweepBack_perm.trans ?_
    simpa [List.filter_eq_nil_iff] using hgone

/-- Appending what is missing from a list of distinct elements gives that list
exactly for its prefixes. -/
theorem append_filter_notMem_eq_iff [BEq α] [LawfulBEq α] {t : List α} (ht : t.Nodup) :
    l ++ t.filter (· ∉ l) = t ↔ l <+: t := by
  constructor
  · intro heq
    exact ⟨_, heq⟩
  · rintro ⟨r, rfl⟩
    have hdisjoint := (List.nodup_append.1 ht).2.2
    have hleft : l.filter (· ∉ l) = [] := by simp
    have hright : r.filter (· ∉ l) = r := by
      rw [List.filter_eq_self]
      intro b hb
      simpa using fun hmem => hdisjoint b hmem b hb rfl
    rw [List.filter_append, hleft, hright, List.nil_append]

end Foundations
