import Mathlib.Data.List.Basic
import Mathlib.Tactic.Common
import Mathlib.Tactic.TypeStar

/-!
# Replacing a file through a temporary one

The new text is written to a temporary file that is then renamed over the main
one. Whatever part of the operations is carried out, the main file holds its old
text or the complete new one.
-/

namespace Foundations

structure ReplacedFile (β : Type*) where
  main : Option (List β)
  temp : Option (List β)
deriving DecidableEq

inductive ReplaceOp (β : Type*)
  | createTemp
  | append (b : β)
  | removeTemp
  | rename
deriving DecidableEq

namespace ReplacedFile

variable {β : Type*} (s : ReplacedFile β)

def apply : ReplaceOp β → ReplacedFile β
  | .createTemp => { s with temp := some [] }
  | .append b => { s with temp := s.temp.map (· ++ [b]) }
  | .removeTemp => { s with temp := none }
  | .rename =>
    match s.temp with
    | none => s
    | some text => ⟨some text, none⟩

def exec (ops : List (ReplaceOp β)) : ReplacedFile β :=
  ops.foldl apply s

@[simp] theorem exec_nil : s.exec [] = s := rfl

@[simp] theorem exec_cons (op : ReplaceOp β) (ops : List (ReplaceOp β)) :
    s.exec (op :: ops) = (s.apply op).exec ops := rfl

theorem exec_append (ops ops' : List (ReplaceOp β)) :
    s.exec (ops ++ ops') = (s.exec ops).exec ops' := by
  simp [exec]

/-- Creating the temporary file and writing a text to it. -/
def writeTemp (text : List β) : List (ReplaceOp β) :=
  .createTemp :: text.map .append

theorem exec_map_append (text : List β) : ∀ written : List β,
    (⟨s.main, some written⟩ : ReplacedFile β).exec (text.map .append) =
      ⟨s.main, some (written ++ text)⟩ := by
  induction text with
  | nil => simp
  | cons b text ih =>
    intro written
    simp only [List.map_cons, exec_cons, apply, Option.map_some]
    rw [ih]
    simp

theorem exec_writeTemp (text : List β) :
    s.exec (writeTemp text) = ⟨s.main, some text⟩ := by
  simpa [writeTemp, apply] using s.exec_map_append text []

theorem rename_notMem_writeTemp (text : List β) : .rename ∉ writeTemp text := by
  simp [writeTemp]

variable {s}

theorem main_exec_of_notMem {ops : List (ReplaceOp β)} (hops : .rename ∉ ops) :
    (s.exec ops).main = s.main := by
  induction ops generalizing s with
  | nil => rfl
  | cons op ops ih =>
    obtain ⟨hop, hops⟩ := List.ne_and_not_mem_of_not_mem_cons hops
    rw [exec_cons, ih hops]
    cases op with
    | rename => exact absurd rfl hop
    | createTemp | append b | removeTemp => rfl

/-- A part of a replacement that ends with the rename has carried it out, or has
left the main file alone. -/
theorem main_exec_take_replace (text : List β) (count : ℕ) :
    let done := (writeTemp text ++ [ReplaceOp.rename]).take count
    (.rename ∈ done ∧ s.exec done = ⟨some text, none⟩) ∨
      (.rename ∉ done ∧ (s.exec done).main = s.main) := by
  intro done
  by_cases hcount : (writeTemp text).length < count
  · have hdone : done = writeTemp text ++ [.rename] := by
      apply List.take_of_length_le
      simpa using Nat.succ_le_of_lt hcount
    rw [hdone, exec_append, exec_writeTemp]
    exact .inl ⟨by simp, rfl⟩
  · have hdone : done = (writeTemp text).take count :=
      List.take_append_of_le_length (Nat.le_of_not_lt hcount)
    have hrename : .rename ∉ done := by
      rw [hdone]
      exact fun hmem => rename_notMem_writeTemp text (List.mem_of_mem_take hmem)
    exact .inr ⟨hrename, main_exec_of_notMem hrename⟩

end ReplacedFile
end Foundations
