import Mathlib.Order.Basic
import Mathlib.Tactic.Linarith

/-!
# Decimal numerals over bytes

The value of a string of ASCII digits, read most significant digit first from
a running value. A bounded reader may stop as soon as the running value leaves
its range, because the running value never decreases.
-/

namespace Foundations

def IsNumeralDigit (c : UInt8) : Prop := 48 ≤ c.toNat ∧ c.toNat ≤ 57

instance : DecidablePred IsNumeralDigit :=
  fun _ => inferInstanceAs (Decidable (_ ∧ _))

/-- Continue reading a numeral whose digits so far have value `v`. -/
def numeralFrom (v : ℕ) (t : List UInt8) : ℕ :=
  t.foldl (fun v c => v * 10 + (c.toNat - 48)) v

def numeralValue (t : List UInt8) : ℕ := numeralFrom 0 t

@[simp] theorem numeralFrom_nil (v : ℕ) : numeralFrom v [] = v := rfl

@[simp] theorem numeralFrom_cons (v : ℕ) (c : UInt8) (t : List UInt8) :
    numeralFrom v (c :: t) = numeralFrom (v * 10 + (c.toNat - 48)) t := by
  simp [numeralFrom]

@[simp] theorem numeralFrom_concat (v : ℕ) (t : List UInt8) (c : UInt8) :
    numeralFrom v (t ++ [c]) = numeralFrom v t * 10 + (c.toNat - 48) := by
  simp [numeralFrom]

theorem le_numeralFrom (t : List UInt8) : ∀ v, v ≤ numeralFrom v t := by
  induction t with
  | nil => intro v; exact le_rfl
  | cons c t ih =>
    intro v
    have h := ih (v * 10 + (c.toNat - 48))
    rw [numeralFrom_cons]
    omega

end Foundations
