import MultiAddonRss.Foundations.Runs

/-!
# Runs without the events of others

An observer cannot tell certain states apart, sees a part of every output, and is not
concerned by certain events. If no step tells it more, it sees the same in a run as in
the run without the events that do not concern it.
-/

namespace Foundations

variable {σ ε ω : Type*}

/-- What no step tells an observer. -/
structure Unwinding (step : σ → ε → σ × List ω) (Alike : σ → σ → Prop) (concerns : ε → Bool)
    (sees : ω → Bool) : Prop where
  /-- Alike states stay alike and show the same. -/
  consistent : ∀ s t e, Alike s t → concerns e = true →
    Alike (step s e).1 (step t e).1 ∧ (step s e).2.filter sees = (step t e).2.filter sees
  /-- The other events show nothing. -/
  respects : ∀ s t e, Alike s t → concerns e = false →
    Alike (step s e).1 t ∧ (step s e).2.filter sees = []

namespace Unwinding

variable {step : σ → ε → σ × List ω} {Alike : σ → σ → Prop} {concerns : ε → Bool} {sees : ω → Bool}

def seen (step : σ → ε → σ × List ω) (sees : ω → Bool) (s : σ) (evs : List ε) : List ω :=
  (outputs step s evs).flatMap fun out => out.filter sees

theorem seen_cons (s : σ) (e : ε) (evs : List ε) :
    seen step sees s (e :: evs) =
      (step s e).2.filter sees ++ seen step sees (step s e).1 evs := by
  simp [seen, outputs]

theorem purge (h : Unwinding step Alike concerns sees) (evs : List ε) : ∀ s t, Alike s t →
    Alike (run step s evs) (run step t (evs.filter concerns)) ∧
      seen step sees s evs = seen step sees t (evs.filter concerns) := by
  induction evs with
  | nil => exact fun s t halike => ⟨halike, rfl⟩
  | cons e evs ih =>
    intro s t halike
    rw [seen_cons, run_cons]
    cases hevent : concerns e with
    | true =>
      obtain ⟨hnext, hout⟩ := h.consistent s t e halike hevent
      rw [List.filter_cons_of_pos hevent, run_cons, seen_cons, hout]
      obtain ⟨hrun, hseen⟩ := ih _ _ hnext
      exact ⟨hrun, by rw [hseen]⟩
    | false =>
      obtain ⟨hnext, hout⟩ := h.respects s t e halike hevent
      rw [List.filter_cons_of_neg (by simp [hevent]), hout, List.nil_append]
      exact ih _ _ hnext

/-- Two runs with the same events that concern the observer look the same to it. -/
theorem seen_eq_of_filter_eq (h : Unwinding step Alike concerns sees)
    (hsymm : ∀ s t, Alike s t → Alike t s) (htrans : ∀ s t u, Alike s t → Alike t u → Alike s u)
    {s t : σ} (halike : Alike s t) {evs evs' : List ε}
    (hevs : evs.filter concerns = evs'.filter concerns) :
    Alike (run step s evs) (run step t evs') ∧
      seen step sees s evs = seen step sees t evs' := by
  obtain ⟨hrun, hseen⟩ := h.purge evs s t halike
  obtain ⟨hrun', hseen'⟩ := h.purge evs' t t (htrans _ _ _ (hsymm _ _ halike) halike)
  rw [hevs] at hrun hseen
  exact ⟨htrans _ _ _ hrun (hsymm _ _ hrun'), hseen.trans hseen'.symm⟩

end Unwinding
end Foundations
