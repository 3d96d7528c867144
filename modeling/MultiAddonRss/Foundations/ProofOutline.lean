import MultiAddonRss.Foundations.Runs

/-!
# Proof outlines of an interrupted routine

A routine performs a list of actions, any of which may make it return. Between two
actions its environment changes the world. An outline has an assertion for each point
of the routine and one for each result, and it is valid if the actions lead from one
assertion to the next and the environment keeps them all. The assertions also see what
has happened so far.
-/

namespace Foundations

/-- A routine under way: what it works on, the actions still to come, and the value
that it has returned. -/
structure Routine (σ α ρ : Type*) where
  world : σ
  remaining : List α
  result : Option ρ := none

inductive RoutineEvent (ε : Type*)
  /-- The next action of the routine. -/
  | advance
  | interrupt (e : ε)

namespace RoutineEvent

variable {ε : Type*}

def interruption : RoutineEvent ε → Option ε
  | advance => none
  | interrupt e => some e

def isAdvance : RoutineEvent ε → Bool
  | advance => true
  | interrupt _ => false

end RoutineEvent

namespace Routine

variable {σ α ρ ε : Type*}

def start (program : List α) (world : σ) : Routine σ α ρ :=
  ⟨world, program, none⟩

variable (perform : α → σ → σ × Option ρ) (interfere : ε → σ → σ)

/-- An action that returns a value is the last one. -/
def advance (s : Routine σ α ρ) : Routine σ α ρ :=
  match s.remaining with
  | [] => s
  | a :: rest =>
    match perform a s.world with
    | (world, none) => ⟨world, rest, s.result⟩
    | (world, some r) => ⟨world, [], some r⟩

def step (s : Routine σ α ρ) : RoutineEvent ε → Routine σ α ρ × Unit
  | .advance => (s.advance perform, ())
  | .interrupt e => ({ s with world := interfere e s.world }, ())

/-- A valid outline: `assert` holds of the events so far, the actions to come and the
world, and `post` of the events, the result and the world. -/
structure Outline (assert : List (RoutineEvent ε) → List α → σ → Prop)
    (post : List (RoutineEvent ε) → ρ → σ → Prop) : Prop where
  idle : ∀ evs world, assert evs [] world → assert (evs ++ [.advance]) [] world
  next : ∀ evs a rest world world', assert evs (a :: rest) world →
    perform a world = (world', none) → assert (evs ++ [.advance]) rest world'
  returns : ∀ evs a rest world world' r, assert evs (a :: rest) world →
    perform a world = (world', some r) → post (evs ++ [.advance]) r world'
  stable : ∀ evs e rest world, assert evs rest world →
    assert (evs ++ [.interrupt e]) rest (interfere e world)
  idle_post : ∀ evs r world, post evs r world → post (evs ++ [.advance]) r world
  stable_post : ∀ evs e r world, post evs r world →
    post (evs ++ [.interrupt e]) r (interfere e world)

variable {perform interfere}

def Holds (assert : List (RoutineEvent ε) → List α → σ → Prop)
    (post : List (RoutineEvent ε) → ρ → σ → Prop) (evs : List (RoutineEvent ε))
    (s : Routine σ α ρ) : Prop :=
  match s.result with
  | none => assert evs s.remaining s.world
  | some r => s.remaining = [] ∧ post evs r s.world

variable {assert : List (RoutineEvent ε) → List α → σ → Prop}
  {post : List (RoutineEvent ε) → ρ → σ → Prop}

theorem Outline.holds_step (h : Outline perform interfere assert post)
    {evs : List (RoutineEvent ε)} {s : Routine σ α ρ} (hs : s.Holds assert post evs)
    (e : RoutineEvent ε) :
    (s.step perform interfere e).1.Holds assert post (evs ++ [e]) := by
  obtain ⟨world, remaining, result⟩ := s
  cases result with
  | none =>
    cases e with
    | interrupt e => exact h.stable evs e remaining world hs
    | advance =>
      cases remaining with
      | nil => exact h.idle evs world hs
      | cons a rest =>
        cases hperform : perform a world with
        | mk world' result =>
          cases result with
          | none => simpa [step, advance, Holds, hperform] using h.next evs a rest _ _ hs hperform
          | some r =>
            simpa [step, advance, Holds, hperform] using h.returns evs a rest _ _ r hs hperform
  | some r =>
    obtain ⟨hremaining, hpost⟩ := hs
    dsimp only at hremaining hpost
    subst hremaining
    cases e with
    | interrupt e => exact ⟨rfl, h.stable_post evs e r world hpost⟩
    | advance => exact ⟨rfl, h.idle_post evs r world hpost⟩

/-- A valid outline holds at every point of every interleaving. -/
theorem Outline.holds_run (h : Outline perform interfere assert post) {program : List α}
    {world : σ} (hstart : assert [] program world) (evs : List (RoutineEvent ε)) :
    (run (step perform interfere) (start program world) evs).Holds assert post evs := by
  apply run_invariant (step perform interfere) (fun evs s => s.Holds assert post evs)
  · exact hstart
  · intro pre e hpre
    exact h.holds_step hpre e

/-! ## Returning -/

variable (perform interfere)

theorem length_remaining_advance (s : Routine σ α ρ) :
    (s.advance perform).remaining.length ≤ s.remaining.length - 1 := by
  obtain ⟨world, remaining, result⟩ := s
  cases remaining with
  | nil => simp [advance]
  | cons a rest =>
    cases hperform : perform a world with
    | mk world' result' => cases result' <;> simp [advance, hperform]

theorem length_remaining_run (s : Routine σ α ρ) (evs : List (RoutineEvent ε)) :
    (run (step perform interfere) s evs).remaining.length ≤
      s.remaining.length - evs.countP RoutineEvent.isAdvance := by
  induction evs using List.reverseRecOn with
  | nil => simp
  | append_singleton evs e ih =>
    rw [run_concat, List.countP_append]
    cases e with
    | interrupt e => simpa [step, RoutineEvent.isAdvance] using ih
    | advance =>
      have hadvance := length_remaining_advance perform (run (step perform interfere) s evs)
      simp only [step, List.countP_singleton, RoutineEvent.isAdvance, if_true]
      omega

theorem remaining_run_eq_nil {program : List α} {world : σ} {evs : List (RoutineEvent ε)}
    (htime : program.length ≤ evs.countP RoutineEvent.isAdvance) :
    (run (step perform interfere) (start program world : Routine σ α ρ) evs).remaining = [] := by
  have hlength := length_remaining_run perform interfere (start program world) evs
  rw [← List.length_eq_zero_iff]
  simp only [start] at hlength ⊢
  omega

end Routine
end Foundations
