import MultiAddonRss.Foundations.Runs

/-!
# A value in memory with its encoding on disk

Every change of the value is saved before it takes effect, and a failed save
closes the store for good. While the store is open, decoding the disk gives the
value in memory.
-/

namespace Foundations

/-- The decoder reads back the encoding of every valid value. -/
structure Codec (α β : Type*) (valid : α → Prop) where
  encode : α → β
  decode : β → Option α
  decode_encode : ∀ {a}, valid a → decode (encode a) = some a

structure WriteThrough (α β : Type*) where
  value : α
  stored : Option β
  writable : Bool

/-- A request is refused, finds its value in place, saves a new value or fails
to save it. -/
inductive SaveResult (α : Type*)
  | refused
  | kept
  | saved (value : α)
  | failed

namespace WriteThrough

variable {α β : Type*} {valid : α → Prop} (codec : Codec α β valid) (s : WriteThrough α β)

/-- The new store and whether the request was met. A closed store meets none. -/
def step (r : SaveResult α) : WriteThrough α β × Bool :=
  if s.writable then
    match r with
    | .refused => (s, false)
    | .kept => (s, true)
    | .saved value => (⟨value, some (codec.encode value), true⟩, true)
    | .failed => ({ s with writable := false }, false)
  else (s, false)

/-- The value is valid, and an open store holds an encoding of it. -/
structure Agrees : Prop where
  valid_value : valid s.value
  decodes : s.writable = true → ∃ c, s.stored = some c ∧ codec.decode c = some s.value

variable {codec s}

theorem Agrees.step (h : s.Agrees codec) {r : SaveResult α}
    (hr : ∀ value, r = .saved value → valid value) : (s.step codec r).1.Agrees codec := by
  cases hw : s.writable with
  | false => simpa [WriteThrough.step, hw] using h
  | true =>
    cases r with
    | refused | kept => simpa [WriteThrough.step, hw] using h
    | saved value =>
      refine ⟨by simpa [WriteThrough.step, hw] using hr value rfl, fun _ => ?_⟩
      refine ⟨codec.encode value, ?_⟩
      simpa [WriteThrough.step, hw] using codec.decode_encode (hr value rfl)
    | failed =>
      exact ⟨by simpa [WriteThrough.step, hw] using h.valid_value, by simp [WriteThrough.step, hw]⟩

theorem step_of_met {r : SaveResult α} (h : (s.step codec r).2 = true) :
    s.writable = true ∧ (r = .kept ∧ (s.step codec r).1 = s ∨
      ∃ value, r = .saved value ∧
        (s.step codec r).1 = ⟨value, some (codec.encode value), true⟩) := by
  cases hw : s.writable <;> cases r <;> simp_all [step]

end WriteThrough

end Foundations
