import MultiAddonRss.Foundations.Runs

/-!
# What has happened in a run

`Once P` says that some earlier event satisfies `P`, and `Since P Q` that every
event after it satisfies `Q`. Each is determined by the last event of the run and
by what held before it, so both can be carried along as part of an invariant. A
register that events write is the last value written.
-/

namespace Foundations

variable {ε : Type*} {P Q : List ε → ε → Prop} {e : ε} {evs : List ε}

/-- Some event of the run satisfies `P`, which also sees the events before it. -/
def Once (P : List ε → ε → Prop) (evs : List ε) : Prop :=
  ∃ pre e post, evs = pre ++ e :: post ∧ P pre e

/-- Some event satisfies `P`, and all events after it satisfy `Q`. -/
def Since (P Q : List ε → ε → Prop) (evs : List ε) : Prop :=
  ∃ pre e post, evs = pre ++ e :: post ∧ P pre e ∧
    EveryStep (fun later => Q (pre ++ e :: later)) post

theorem once_iff_not_everyStep : Once P evs ↔ ¬ EveryStep (fun pre e => ¬ P pre e) evs := by
  simp only [Once, EveryStep]
  push Not
  rfl

@[simp] theorem once_nil : ¬ Once P [] := by
  simp [once_iff_not_everyStep]

theorem once_concat : Once P (evs ++ [e]) ↔ Once P evs ∨ P evs e := by
  rw [once_iff_not_everyStep, once_iff_not_everyStep, everyStep_concat, not_and_or, not_not]

theorem once_cons : Once P (e :: evs) ↔ P [] e ∨ Once (fun pre => P (e :: pre)) evs := by
  rw [once_iff_not_everyStep, once_iff_not_everyStep, everyStep_cons, not_and_or, not_not]

@[simp] theorem since_nil : ¬ Since P Q [] := by
  rintro ⟨pre, e, post, h, -⟩
  simp at h

theorem since_concat : Since P Q (evs ++ [e]) ↔ P evs e ∨ (Since P Q evs ∧ Q evs e) := by
  constructor
  · rintro ⟨pre, a, post, ha, hP, hQ⟩
    rcases concat_eq_append_cons ha with ⟨rfl, rfl, -⟩ | ⟨post', rfl, rfl⟩
    · exact .inl hP
    · obtain ⟨hpost, he⟩ := everyStep_concat.1 hQ
      exact .inr ⟨⟨pre, a, post', rfl, hP, hpost⟩, he⟩
  · rintro (hP | ⟨⟨pre, a, post, rfl, hP, hQ⟩, he⟩)
    · exact ⟨evs, e, [], rfl, hP, everyStep_nil⟩
    · exact ⟨pre, a, post ++ [e], by simp, hP, everyStep_concat.2 ⟨hQ, he⟩⟩

theorem since_cons : Since P Q (e :: evs) ↔
    (P [] e ∧ EveryStep (fun later => Q (e :: later)) evs) ∨
      Since (fun pre => P (e :: pre)) (fun pre => Q (e :: pre)) evs := by
  constructor
  · rintro ⟨pre, a, post, ha, hP, hQ⟩
    cases pre with
    | nil =>
      obtain ⟨rfl, rfl⟩ := List.cons.inj ha
      exact .inl ⟨hP, hQ⟩
    | cons b pre =>
      obtain ⟨rfl, rfl⟩ := List.cons.inj ha
      exact .inr ⟨pre, a, post, rfl, hP, hQ⟩
  · rintro (⟨hP, hQ⟩ | ⟨pre, a, post, rfl, hP, hQ⟩)
    · exact ⟨[], e, evs, rfl, hP, hQ⟩
    · exact ⟨e :: pre, a, post, rfl, hP, hQ⟩

instance decidableSince : (P Q : List ε → ε → Prop) → [∀ pre e, Decidable (P pre e)] →
    [∀ pre e, Decidable (Q pre e)] → (evs : List ε) → Decidable (Since P Q evs)
  | _, _, _, _, [] => .isFalse since_nil
  | P, Q, _, _, e :: evs =>
    have := decidableSince (fun pre => P (e :: pre)) (fun pre => Q (e :: pre)) evs
    decidable_of_iff _ since_cons.symm

theorem Since.mono {P' : List ε → ε → Prop} (h : Since P Q evs)
    (himp : ∀ pre e, P pre e → P' pre e) : Since P' Q evs := by
  obtain ⟨pre, e, post, rfl, hP, hQ⟩ := h
  exact ⟨pre, e, post, rfl, himp pre e hP, hQ⟩

theorem since_congr {P' : List ε → ε → Prop} (hiff : ∀ pre e, P pre e ↔ P' pre e) :
    Since P Q evs ↔ Since P' Q evs :=
  ⟨fun h => h.mono fun pre e => (hiff pre e).1, fun h => h.mono fun pre e => (hiff pre e).2⟩

section Register

variable {σ ω α : Type*} (step : σ → ε → σ × ω) (s : σ) (read : σ → α)
  (Writes : α → List ε → ε → Prop)

/-- A register that some events write, and that the others keep, has the value
that was written last, or its first one. -/
theorem last_write
    (write : ∀ pre e a, Writes a pre e → read (step (run step s pre) e).1 = a)
    (keep : ∀ pre e, (∀ a, ¬ Writes a pre e) →
      read (step (run step s pre) e).1 = read (run step s pre)) (evs : List ε) :
    (∀ a, Since (Writes a) (fun pre e => ∀ b, ¬ Writes b pre e) evs →
        read (run step s evs) = a) ∧
      (EveryStep (fun pre e => ∀ a, ¬ Writes a pre e) evs →
        read (run step s evs) = read s) := by
  induction evs using List.reverseRecOn with
  | nil => simp
  | append_singleton evs e ih =>
    rw [run_concat]
    refine ⟨fun a hsince => ?_, fun hnone => ?_⟩
    · rcases since_concat.1 hsince with hnow | ⟨hbefore, hkept⟩
      · exact write evs e a hnow
      · rw [keep evs e hkept, ih.1 a hbefore]
    · obtain ⟨hbefore, hkept⟩ := everyStep_concat.1 hnone
      rw [keep evs e hkept, ih.2 hbefore]

theorem register_run (written : ε → Option α)
    (hstep : ∀ pre e, read (step (run step s pre) e).1 =
      (written e).getD (read (run step s pre))) (evs : List ε) :
    read (run step s evs) = ((evs.filterMap written).getLast?).getD (read s) := by
  induction evs using List.reverseRecOn with
  | nil => rfl
  | append_singleton evs e ih =>
    rw [run_concat, hstep, ih, List.filterMap_append]
    cases hwritten : written e with
    | none => simp [hwritten]
    | some a => simp [hwritten]

end Register

/-- A property that some events bring about, and that is then kept until an event ends
it, holds exactly since it was brought about last, or from the start. -/
theorem holds_iff_since {σ ω : Type*} (step : σ → ε → σ × ω) (s : σ) (Holds : σ → Prop)
    (Gains Loses : List ε → ε → Prop)
    (hstep : ∀ pre e, Holds (step (run step s pre) e).1 ↔
      Gains pre e ∨ Holds (run step s pre) ∧ ¬ Loses pre e) (evs : List ε) :
    Holds (run step s evs) ↔ Since Gains (fun pre e => ¬ Loses pre e) evs ∨
      Holds s ∧ EveryStep (fun pre e => ¬ Loses pre e) evs := by
  induction evs using List.reverseRecOn with
  | nil => simp
  | append_singleton evs e ih =>
    rw [run_concat, hstep, ih, since_concat, everyStep_concat]
    tauto

end Foundations
