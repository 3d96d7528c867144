import MultiAddonRss.Foundations.Runs

/-!
# Simulation with stuttering

A machine is looked at through an abstraction of its states and a view of its outputs.
Some of its events are moves of a smaller machine, the others leave the abstraction as
it is and show nothing. Its runs are then runs of the smaller machine.
-/

namespace Foundations

variable {σ ε ω τ φ ο : Type*}

/-- What the smaller machine has to know about every step from a state that satisfies
the invariant. -/
structure Simulates (step : σ → ε → σ × List ω) (move : τ → φ → τ × List ο)
    (invariant : σ → Prop) (allowed : σ → ε → Prop) (abs : σ → τ) (label : ε → Option φ)
    (view : ω → Option ο) : Prop where
  keeps : ∀ s e, invariant s → allowed s e → invariant (step s e).1
  moves : ∀ s e a, invariant s → allowed s e → label e = some a →
    abs (step s e).1 = (move (abs s) a).1 ∧ (step s e).2.filterMap view = (move (abs s) a).2
  stays : ∀ s e, invariant s → allowed s e → label e = none →
    abs (step s e).1 = abs s ∧ (step s e).2.filterMap view = []

namespace Simulates

variable {step : σ → ε → σ × List ω} {move : τ → φ → τ × List ο} {invariant : σ → Prop}
  {allowed : σ → ε → Prop} {abs : σ → τ} {label : ε → Option φ} {view : ω → Option ο}

def shown (step : σ → ε → σ × List ω) (view : ω → Option ο) (s : σ) (evs : List ε) : List ο :=
  (outputs step s evs).flatten.filterMap view

theorem shown_concat (s : σ) (evs : List ε) (e : ε) :
    shown step view s (evs ++ [e]) =
      shown step view s evs ++ (step (run step s evs) e).2.filterMap view := by
  simp [shown, outputs_concat]

/-- A run is a run of the smaller machine over the moves among its events. -/
theorem run_eq (h : Simulates step move invariant allowed abs label view) {s : σ}
    (hs : invariant s) {evs : List ε}
    (hevs : EveryStep (fun pre e => allowed (run step s pre) e) evs) :
    invariant (run step s evs) ∧
      abs (run step s evs) = run move (abs s) (evs.filterMap label) ∧
      shown step view s evs = (outputs move (abs s) (evs.filterMap label)).flatten := by
  induction evs using List.reverseRecOn with
  | nil => exact ⟨hs, rfl, rfl⟩
  | append_singleton evs e ih =>
    obtain ⟨hpre, he⟩ := everyStep_concat.1 hevs
    obtain ⟨hinv, habs, hshown⟩ := ih hpre
    rw [run_concat, shown_concat, hshown, List.filterMap_append]
    refine ⟨h.keeps _ e hinv he, ?_⟩
    cases hlabel : label e with
    | none =>
      obtain ⟨hnext, hout⟩ := h.stays _ e hinv he hlabel
      rw [hnext, hout, habs]
      simp [hlabel]
    | some a =>
      obtain ⟨hnext, hout⟩ := h.moves _ e a hinv he hlabel
      have hlast : [e].filterMap label = [a] := by simp [hlabel]
      rw [hnext, hout, habs, hlast, run_concat, outputs_concat]
      simp

end Simulates
end Foundations
