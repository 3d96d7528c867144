import MultiAddonRss.Foundations.PastTime

/-!
# How often something happens in a run

If every step of one kind spends a step of another kind, and a reset forgets the
unspent ones, then there are no more steps of the first kind than of the second.
-/

namespace Foundations

variable {ε : Type*}

/-- The number of steps that satisfy `P`, which also sees the events before. -/
def countSteps : (List ε → ε → Bool) → List ε → ℕ
  | _, [] => 0
  | P, e :: evs => (if P [] e then 1 else 0) + countSteps (fun pre => P (e :: pre)) evs

theorem countSteps_append (P : List ε → ε → Bool) (evs evs' : List ε) :
    countSteps P (evs ++ evs') =
      countSteps P evs + countSteps (fun pre => P (evs ++ pre)) evs' := by
  induction evs generalizing P with
  | nil => simp [countSteps]
  | cons e evs ih => simp [countSteps, ih, Nat.add_assoc]

theorem countSteps_concat (P : List ε → ε → Bool) (evs : List ε) (e : ε) :
    countSteps P (evs ++ [e]) = countSteps P evs + if P evs e then 1 else 0 := by
  simp [countSteps_append, countSteps]

/-- Every spending step is also a reset, and comes with an earning step: itself, or
one before it and after the last reset. -/
theorem countSteps_le_of_since (spends earns resets : List ε → ε → Bool)
    (hreset : ∀ pre e, spends pre e = true → resets pre e = true) {evs : List ε}
    (hspend : EveryStep (fun pre e => spends pre e = true → earns pre e = true ∨
      Since (fun pre e => earns pre e = true ∧ resets pre e = false)
        (fun pre e => resets pre e = false) pre) evs) :
    countSteps spends evs ≤ countSteps earns evs := by
  -- an earned step that is not yet spent keeps the counts one apart
  suffices hcount : countSteps spends evs ≤ countSteps earns evs ∧
      (Since (fun pre e => earns pre e = true ∧ resets pre e = false)
        (fun pre e => resets pre e = false) evs →
          countSteps spends evs < countSteps earns evs) from hcount.1
  induction evs using List.reverseRecOn with
  | nil => simp [countSteps]
  | append_singleton evs e ih =>
    obtain ⟨hevs, he⟩ := everyStep_concat.1 hspend
    obtain ⟨hle, hlt⟩ := ih hevs
    rw [countSteps_concat, countSteps_concat, since_concat]
    cases hspends : spends evs e with
    | true =>
      have hresets := hreset evs e hspends
      rcases he hspends with hearns | hsince
      · simp [hresets, hearns, hle]
      · have hbefore := hlt hsince
        simp only [hresets, if_true, Bool.true_eq_false, and_false, or_self, false_imp_iff,
          and_true]
        omega
    | false =>
      cases hearns : earns evs e with
      | true =>
        simp only [Bool.false_eq_true, if_false, if_true]
        exact ⟨by omega, fun _ => by omega⟩
      | false =>
        simp only [Bool.false_eq_true, if_false, false_and, false_or]
        exact ⟨hle, fun h => hlt h.1⟩

end Foundations
