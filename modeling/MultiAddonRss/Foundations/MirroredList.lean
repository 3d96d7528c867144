import Mathlib.Data.List.Basic
import Mathlib.Tactic.TypeStar

/-!
# A list and its text

A list is kept together with a text that is to decode to it. Some operations set
the text and decode the list from it, others change the list and encode the text
from it. The encoding is read back only for lists of good entries.
-/

namespace Foundations

variable {α τ : Type*}

/-- An encoding of lists that is exact on good entries. All decoded entries are
good. -/
structure ListCodec (α τ : Type*) (good : α → Prop) where
  encode : List α → τ
  decode : τ → List α
  decode_encode : ∀ {l}, (∀ a ∈ l, good a) → decode (encode l) = l
  good_of_mem_decode : ∀ {a t}, a ∈ decode t → good a

structure MirroredList (α τ : Type*) where
  list : List α
  text : τ

inductive MirrorOp (α τ : Type*)
  | keep
  /-- The list is decoded from a new text. -/
  | assign (text : τ)
  /-- The text is encoded from the changed list. -/
  | append (a : α)
  | erase (a : α)
  | clear

namespace MirroredList

variable {good : α → Prop}

def step [BEq α] (c : ListCodec α τ good) (s : MirroredList α τ) : MirrorOp α τ → MirroredList α τ
  | .keep => s
  | .assign text => ⟨c.decode text, text⟩
  | .append a => ⟨s.list ++ [a], c.encode (s.list ++ [a])⟩
  | .erase a => ⟨s.list.erase a, c.encode (s.list.erase a)⟩
  | .clear => ⟨[], c.encode []⟩

def Mirrors (c : ListCodec α τ good) (s : MirroredList α τ) : Prop :=
  c.decode s.text = s.list

variable {c : ListCodec α τ good} {s : MirroredList α τ}

theorem Mirrors.good_of_mem (h : s.Mirrors c) {a : α} (ha : a ∈ s.list) : good a := by
  rw [← h] at ha
  exact c.good_of_mem_decode ha

theorem mirrors_encode_iff {l : List α} :
    (⟨l, c.encode l⟩ : MirroredList α τ).Mirrors c ↔ ∀ a ∈ l, good a :=
  ⟨fun h _ ha => h.good_of_mem ha, c.decode_encode⟩

/-- Only the append of a bad entry breaks the mirror. -/
theorem Mirrors.step_iff [BEq α] (h : s.Mirrors c) (op : MirrorOp α τ) :
    (s.step c op).Mirrors c ↔ ∀ a, op = .append a → good a := by
  cases op with
  | keep => exact iff_of_true h (by simp)
  | assign text => exact iff_of_true rfl (by simp)
  | append a =>
    rw [step, mirrors_encode_iff]
    constructor
    · rintro hgood b ⟨rfl⟩
      exact hgood a (by simp)
    · intro hgood b hb
      rcases List.mem_append.1 hb with hmem | hmem
      · exact h.good_of_mem hmem
      · rw [List.mem_singleton.1 hmem]
        exact hgood a rfl
  | erase a =>
    rw [step, mirrors_encode_iff]
    exact iff_of_true (fun b hb => h.good_of_mem (List.mem_of_mem_erase hb)) (by simp)
  | clear =>
    rw [step, mirrors_encode_iff]
    exact iff_of_true (by simp) (by simp)

end MirroredList
end Foundations
