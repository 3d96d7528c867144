import Mathlib.Data.List.Induction
import Mathlib.Tactic.TypeStar

/-!
# Runs of a machine with outputs

A machine answers each event with a new state and an output. A run is the list
of events it reads. Properties of whole runs are stated step by step, each step
together with the events that came before it, so that conditions on the inputs
and properties of the outputs have the same form and are compared pointwise.
-/

namespace Foundations

variable {σ ε ω : Type*}

section Run

variable (step : σ → ε → σ × ω)

def run (s : σ) (evs : List ε) : σ :=
  evs.foldl (fun t e => (step t e).1) s

@[simp] theorem run_nil (s : σ) : run step s [] = s := rfl

@[simp] theorem run_cons (s : σ) (e : ε) (evs : List ε) :
    run step s (e :: evs) = run step (step s e).1 evs := rfl

theorem run_append (s : σ) (evs evs' : List ε) :
    run step s (evs ++ evs') = run step (run step s evs) evs' := by
  simp [run]

@[simp] theorem run_concat (s : σ) (evs : List ε) (e : ε) :
    run step s (evs ++ [e]) = (step (run step s evs) e).1 := by
  simp [run]

def outputs : σ → List ε → List ω
  | _, [] => []
  | s, e :: evs => (step s e).2 :: outputs (step s e).1 evs

@[simp] theorem outputs_nil (s : σ) : outputs step s [] = [] := rfl

theorem outputs_concat (s : σ) (evs : List ε) (e : ε) :
    outputs step s (evs ++ [e]) = outputs step s evs ++ [(step (run step s evs) e).2] := by
  induction evs generalizing s with
  | nil => rfl
  | cons e' evs ih => simp [outputs, ih]

theorem outputs_append (s : σ) (evs evs' : List ε) :
    outputs step s (evs ++ evs') = outputs step s evs ++ outputs step (run step s evs) evs' := by
  induction evs generalizing s with
  | nil => rfl
  | cons e evs ih => simp [outputs, ih]

end Run

theorem concat_eq_append_cons {evs pre post : List ε} {e a : ε}
    (h : evs ++ [e] = pre ++ a :: post) : pre = evs ∧ a = e ∧ post = [] ∨
      ∃ post', post = post' ++ [e] ∧ evs = pre ++ a :: post' := by
  induction post using List.reverseRecOn with
  | nil =>
    obtain ⟨rfl, hae⟩ := List.append_inj' h rfl
    obtain rfl : e = a := by simpa using hae
    exact .inl ⟨rfl, rfl, rfl⟩
  | append_singleton post b _ =>
    have hsplit : evs ++ [e] = (pre ++ a :: post) ++ [b] := by simpa using h
    obtain ⟨rfl, hbe⟩ := List.append_inj' hsplit rfl
    obtain rfl : e = b := by simpa using hbe
    exact .inr ⟨post, rfl, rfl⟩

/-- Every event of the run satisfies `C`, which also sees the events before it. -/
def EveryStep (C : List ε → ε → Prop) (evs : List ε) : Prop :=
  ∀ pre e post, evs = pre ++ e :: post → C pre e

section EveryStep

variable {C D : List ε → ε → Prop}

@[simp] theorem everyStep_nil : EveryStep C [] := by
  intro pre e post h
  simp at h

theorem everyStep_concat {evs : List ε} {e : ε} :
    EveryStep C (evs ++ [e]) ↔ EveryStep C evs ∧ C evs e := by
  constructor
  · intro h
    refine ⟨fun pre a post ha => h pre a (post ++ [e]) (by simp [ha]), h evs e [] rfl⟩
  · rintro ⟨h, he⟩ pre a post ha
    rcases concat_eq_append_cons ha with ⟨rfl, rfl, -⟩ | ⟨post', -, hevs⟩
    · exact he
    · exact h pre a post' hevs

theorem everyStep_cons {e : ε} {evs : List ε} :
    EveryStep C (e :: evs) ↔ C [] e ∧ EveryStep (fun pre => C (e :: pre)) evs := by
  constructor
  · intro h
    exact ⟨h [] e evs rfl, fun pre a post ha => h (e :: pre) a post (by simp [ha])⟩
  · rintro ⟨he, h⟩ pre a post ha
    cases pre with
    | nil =>
      obtain ⟨rfl, rfl⟩ := List.cons.inj ha
      exact he
    | cons b pre =>
      obtain ⟨rfl, hpost⟩ := List.cons.inj ha
      exact h pre a post hpost

instance decidableEveryStep : (C : List ε → ε → Prop) → [∀ pre e, Decidable (C pre e)] →
    (evs : List ε) → Decidable (EveryStep C evs)
  | _, _, [] => .isTrue everyStep_nil
  | C, _, e :: evs =>
    have := decidableEveryStep (fun pre => C (e :: pre)) evs
    decidable_of_iff _ everyStep_cons.symm

theorem EveryStep.of_append {evs : List ε} (evs' : List ε) (h : EveryStep C (evs ++ evs')) :
    EveryStep C evs := by
  intro pre e post he
  exact h pre e (post ++ evs') (by simp [he])

theorem EveryStep.mono {evs : List ε} (h : EveryStep C evs)
    (himp : ∀ pre e post, evs = pre ++ e :: post → C pre e → D pre e) : EveryStep D evs :=
  fun pre e post he => himp pre e post he (h pre e post he)

theorem everyStep_congr {evs : List ε} (hiff : ∀ pre e, C pre e ↔ D pre e) :
    EveryStep C evs ↔ EveryStep D evs :=
  ⟨fun h => h.mono fun pre e _ _ => (hiff pre e).1,
    fun h => h.mono fun pre e _ _ => (hiff pre e).2⟩

/-- The induction rule for runs: an invariant of the events read so far and the
state they lead to, kept by every step that meets `C`, holds after the run. -/
theorem run_induction (step : σ → ε → σ × ω) {s : σ} {evs : List ε} (I : List ε → σ → Prop)
    (h : EveryStep C evs) (init : I [] s)
    (keep : ∀ pre e, C pre e → I pre (run step s pre) →
      I (pre ++ [e]) (step (run step s pre) e).1) :
    I evs (run step s evs) := by
  induction evs using List.reverseRecOn with
  | nil => exact init
  | append_singleton evs e ih =>
    obtain ⟨hevs, he⟩ := everyStep_concat.1 h
    rw [run_concat]
    exact keep evs e he (ih hevs)

theorem run_invariant (step : σ → ε → σ × ω) {s : σ} (I : List ε → σ → Prop) (init : I [] s)
    (keep : ∀ pre e, I pre (run step s pre) → I (pre ++ [e]) (step (run step s pre) e).1)
    (evs : List ε) : I evs (run step s evs) := by
  have hevs : EveryStep (fun _ _ => True) evs := fun _ _ _ _ => trivial
  exact run_induction step I hevs init fun pre e _ => keep pre e

/-- Where a condition and a property can first differ only after steps that all
meet the condition, they hold on the same runs. -/
theorem everyStep_iff_of_agree {evs : List ε}
    (agree : ∀ pre e, EveryStep C pre → (C pre e ↔ D pre e)) :
    EveryStep C evs ↔ EveryStep D evs := by
  induction evs using List.reverseRecOn with
  | nil => simp
  | append_singleton evs e ih =>
    rw [everyStep_concat, everyStep_concat, ← ih]
    exact and_congr_right fun hevs => agree evs e hevs

/-- On runs that meet an assumption at every step, two properties can be compared
under the assumption. -/
theorem everyStep_iff_of_assumed {A : List ε → ε → Prop} {evs : List ε}
    (hassumed : EveryStep A evs)
    (agree : ∀ pre e, EveryStep A pre → A pre e → (C pre e ↔ D pre e)) :
    EveryStep C evs ↔ EveryStep D evs := by
  induction evs using List.reverseRecOn with
  | nil => simp
  | append_singleton evs e ih =>
    obtain ⟨hevs, he⟩ := everyStep_concat.1 hassumed
    rw [everyStep_concat, everyStep_concat, ih hevs]
    exact and_congr_right fun _ => agree evs e hevs he

/-- The two combined: the properties are compared under the assumption, after steps that
all meet the first one. -/
theorem everyStep_iff_of_assumed_agree {A : List ε → ε → Prop} {evs : List ε}
    (hassumed : EveryStep A evs)
    (agree : ∀ pre e, EveryStep A pre → A pre e → EveryStep C pre → (C pre e ↔ D pre e)) :
    EveryStep C evs ↔ EveryStep D evs := by
  induction evs using List.reverseRecOn with
  | nil => simp
  | append_singleton evs e ih =>
    obtain ⟨hevs, he⟩ := everyStep_concat.1 hassumed
    rw [everyStep_concat, everyStep_concat, ← ih hevs]
    exact and_congr_right fun hC => agree evs e hevs he hC

end EveryStep

end Foundations
