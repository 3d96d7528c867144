import Mathlib.Data.List.Basic
import Mathlib.Tactic.TypeStar

/-!
# Lines of a text

A text is cut behind each separator; what follows the last separator is a line of
its own, unless it is empty. A reader with a buffer of fixed size gets a line as a
whole if there is room for it.
-/

namespace Foundations

variable {α : Type*} {sep : α}

/-- A first line, with its separator, and the rest of the text. Only the last line
may have none. -/
inductive IsLine (sep : α) : List α → List α → Prop
  | ended (rest : List α) : IsLine sep [sep] rest
  | last {c : α} : c ≠ sep → IsLine sep [c] []
  | cons {c : α} {line rest : List α} : c ≠ sep → IsLine sep line rest →
      IsLine sep (c :: line) rest

theorem IsLine.ne_nil {line rest : List α} (h : IsLine sep line rest) : line ≠ [] := by
  cases h <;> simp

theorem IsLine.drop {line rest : List α} (h : IsLine sep line rest) {n : ℕ}
    (hn : n < line.length) : IsLine sep (line.drop n) rest := by
  induction h generalizing n with
  | ended rest =>
    obtain rfl : n = 0 := by simpa using hn
    exact .ended rest
  | last hc =>
    obtain rfl : n = 0 := by simpa using hn
    exact .last hc
  | cons hc hline ih =>
    rcases n with _ | n
    · exact .cons hc hline
    · exact ih (by simpa using hn)

theorem IsLine.rest_eq_nil {line rest : List α} (h : IsLine sep line rest) (hsep : sep ∉ line) :
    rest = [] := by
  induction h with
  | ended rest => simp at hsep
  | last hc => rfl
  | cons hc hline ih => exact ih fun hmem => hsep (List.mem_cons_of_mem _ hmem)

theorem isLine_concat {line : List α} (rest : List α) (hsep : sep ∉ line) :
    IsLine sep (line ++ [sep]) rest := by
  induction line with
  | nil => exact .ended rest
  | cons c line ih =>
    have hc : c ≠ sep := by
      intro h
      exact hsep (by simp [h])
    exact .cons hc (ih fun hmem => hsep (List.mem_cons_of_mem _ hmem))

theorem isLine_of_notMem {line : List α} (hne : line ≠ []) (hsep : sep ∉ line) :
    IsLine sep line [] := by
  induction line with
  | nil => exact absurd rfl hne
  | cons c line ih =>
    have hc : c ≠ sep := by
      intro h
      exact hsep (by simp [h])
    by_cases hnil : line = []
    · rw [hnil]
      exact .last hc
    · exact .cons hc (ih hnil fun hmem => hsep (List.mem_cons_of_mem _ hmem))

section Split

variable [DecidableEq α]

/-- The lines of a text, with their separators. -/
def splitLines (sep : α) : List α → List (List α)
  | [] => []
  | c :: text =>
    if c = sep then [c] :: splitLines sep text
    else
      match splitLines sep text with
      | [] => [[c]]
      | line :: lines => (c :: line) :: lines

theorem splitLines_append {line rest : List α} (h : IsLine sep line rest) :
    splitLines sep (line ++ rest) = line :: splitLines sep rest := by
  induction h with
  | ended rest => simp [splitLines]
  | last hc => simp [splitLines, hc]
  | cons hc hline ih => simp [splitLines, hc, ih]

theorem exists_isLine (sep : α) {text : List α} (htext : text ≠ []) :
    ∃ line rest, text = line ++ rest ∧ IsLine sep line rest := by
  induction text with
  | nil => exact absurd rfl htext
  | cons c text ih =>
    by_cases hc : c = sep
    · exact ⟨[c], text, rfl, hc ▸ .ended text⟩
    · by_cases hnil : text = []
      · exact ⟨[c], [], by rw [hnil, List.append_nil], .last hc⟩
      · obtain ⟨line, rest, rfl, hline⟩ := ih hnil
        exact ⟨c :: line, rest, rfl, .cons hc hline⟩

/-- Reads up to the next separator, or as much as there is room for. -/
def readUpTo (sep : α) : ℕ → List α → List α × List α
  | 0, text => ([], text)
  | _ + 1, [] => ([], [])
  | room + 1, c :: text =>
    if c = sep then ([c], text)
    else
      let (line, text) := readUpTo sep room text
      (c :: line, text)

theorem readUpTo_append {line rest : List α} (h : IsLine sep line rest) : ∀ room,
    readUpTo sep room (line ++ rest) =
      if line.length ≤ room then (line, rest) else (line.take room, line.drop room ++ rest) := by
  induction h with
  | ended rest => rintro (_ | room) <;> simp [readUpTo]
  | last hc => rintro (_ | _ | room) <;> simp [readUpTo, hc]
  | cons hc hline ih =>
    rintro (_ | room)
    · simp [readUpTo]
    · simp only [List.cons_append, readUpTo, hc, if_false, ih, List.length_cons,
        Nat.add_le_add_iff_right]
      split_ifs <;> simp

end Split

/-! ## Parts -/

/-- Cuts a line into parts of `room` elements, of which the last may be shorter. -/
def cutInto (room : ℕ) (line : List α) : List (List α) :=
  if 0 < room ∧ room < line.length then
    line.take room :: cutInto room (line.drop room)
  else
    [line]
termination_by line.length
decreasing_by simp only [List.length_drop]; omega

variable {room : ℕ} {line : List α}

theorem cutInto_of_length_le (hshort : line.length ≤ room) : cutInto room line = [line] := by
  rw [cutInto, if_neg]
  omega

theorem cutInto_of_lt (hroom : 0 < room) (hlong : room < line.length) :
    cutInto room line = line.take room :: cutInto room (line.drop room) := by
  rw [cutInto, if_pos ⟨hroom, hlong⟩]

theorem exists_mem_cutInto (room : ℕ) (line : List α) :
    ∃ part ∈ cutInto room line, part ⊆ line := by
  rw [cutInto]
  split_ifs with hlong
  · exact ⟨_, List.mem_cons_self, List.take_subset room line⟩
  · exact ⟨line, List.mem_cons_self, List.Subset.refl line⟩

end Foundations
