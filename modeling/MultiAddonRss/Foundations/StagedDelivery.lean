import Mathlib.Data.Finset.Insert
import Mathlib.Data.List.ReduceOption
import MultiAddonRss.Foundations.Runs

/-!
# Delivery of one item a round

A receiver has to get every item of a list. In each round it is sent back with
the item that it was offered last, the sender credits that item if it can, and
offers the first item that is still missing. Only the first round can start with
a stale offer. If every item missing after it can be credited, the offers are
exactly these items in order.
-/

namespace Foundations

variable {α ε : Type*} [DecidableEq α]

structure Delivery (α : Type*) where
  delivered : Finset α
  pending : Option α

namespace Delivery

variable (needed : List α) (credits : α → Bool) (s : Delivery α)

def missing : List α := needed.filter fun a => a ∉ s.delivered

/-- The item a receiver comes back with: the first one of the list if that is
missing, otherwise the one offered last. -/
def carried : Option α :=
  match needed with
  | [] => none
  | first :: _ => if first ∉ s.delivered then some first else s.pending

def received : Option α → Finset α
  | some a => if credits a then insert a s.delivered else s.delivered
  | none => s.delivered

def reconnected : Finset α := s.received credits (s.carried needed)

/-- One round, with its offer. -/
def round : Delivery α × Option α :=
  let rest := needed.filter fun a => a ∉ s.reconnected needed credits
  (⟨s.reconnected needed credits, rest.head?⟩, rest.head?)

def step (s : Delivery α) (_ : ε) : Delivery α × Option α := s.round needed credits

/-- The pending item is the first missing one. -/
def Settled : Prop := s.pending = (s.missing needed).head?

variable {needed credits s}

theorem settled_round : (s.round needed credits).1.Settled needed := rfl

theorem offer_round :
    (s.round needed credits).2 = ((s.round needed credits).1.missing needed).head? := rfl

theorem Settled.carried_eq (h : s.Settled needed) : s.carried needed = s.pending := by
  cases needed with
  | nil => simpa [carried, missing] using h.symm
  | cons first rest =>
    by_cases hfirst : first ∈ s.delivered
    · simp [carried, hfirst]
    · have hpending : s.pending = some first := by simpa [Settled, missing, hfirst] using h
      simp [carried, hfirst, hpending]

/-- From a settled state, a round delivers the first missing item. -/
theorem Settled.missing_round (h : s.Settled needed) (hneeded : needed.Nodup)
    (hcredits : ∀ a ∈ s.missing needed, credits a = true) :
    (s.round needed credits).1.missing needed = (s.missing needed).tail := by
  have hnodup : (s.missing needed).Nodup := hneeded.filter _
  have hcarried := h.carried_eq
  rw [h] at hcarried
  cases hmissing : s.missing needed with
  | nil =>
    have hsame : s.reconnected needed credits = s.delivered := by
      simp [reconnected, received, hcarried, hmissing]
    have hround : (s.round needed credits).1.missing needed = s.missing needed := by
      simp [round, missing, hsame]
    rw [hround, hmissing, List.tail_nil]
  | cons a rest =>
    have ha : credits a = true := hcredits a (by simp [hmissing])
    have hinsert : s.reconnected needed credits = insert a s.delivered := by
      simp [reconnected, received, hcarried, hmissing, ha]
    have hround : (s.round needed credits).1.missing needed =
        (s.missing needed).filter fun b => b ≠ a := by
      simp [round, missing, hinsert, List.filter_filter]
    rw [hmissing] at hnodup
    have hrest : ∀ b ∈ rest, b ≠ a := fun b hb =>
      ne_of_mem_of_not_mem hb (List.nodup_cons.1 hnodup).1
    rw [hround, hmissing, List.tail_cons, List.filter_cons_of_neg (by simp),
      List.filter_eq_self.2 (by simpa using hrest)]

section Runs

variable (hneeded : needed.Nodup)
  (hcredits : ∀ a ∈ (s.round needed credits).1.missing needed, credits a = true)
include hneeded hcredits

theorem missing_run (e : ε) (evs : List ε) :
    (run (step needed credits) s (e :: evs)).Settled needed ∧
      (run (step needed credits) s (e :: evs)).missing needed =
        ((s.round needed credits).1.missing needed).drop evs.length := by
  induction evs using List.reverseRecOn with
  | nil => exact ⟨settled_round, rfl⟩
  | append_singleton evs e' ih =>
    obtain ⟨hsettled, hmissing⟩ := ih
    rw [← List.cons_append, run_concat]
    refine ⟨settled_round, ?_⟩
    have hcredits' : ∀ a ∈ (run (step needed credits) s (e :: evs)).missing needed,
        credits a = true := fun a ha => hcredits a (List.mem_of_mem_drop (hmissing ▸ ha))
    have htail := hsettled.missing_round hneeded hcredits'
    rw [step, htail, hmissing, List.tail_drop, List.length_append, List.length_singleton]

theorem offer_run (evs : List ε) (e : ε) :
    (step needed credits (run (step needed credits) s evs) e).2 =
      ((s.round needed credits).1.missing needed)[evs.length]? := by
  cases evs with
  | nil => rw [step, run_nil, offer_round, List.head?_eq_getElem?, List.length_nil]
  | cons e' evs =>
    have hmissing := (missing_run hneeded hcredits e' (evs ++ [e])).2
    rw [← List.cons_append, run_concat] at hmissing
    rw [step, offer_round, ← step, hmissing, List.head?_drop]
    simp

/-- The offers of a run are the first items missing after the first round. -/
theorem offers_run (evs : List ε) :
    (outputs (step needed credits) s evs).reduceOption =
      ((s.round needed credits).1.missing needed).take evs.length := by
  induction evs using List.reverseRecOn with
  | nil => simp
  | append_singleton evs e ih =>
    rw [outputs_concat, List.reduceOption_append, ih, offer_run hneeded hcredits,
      List.length_append, List.length_singleton, List.take_add_one, List.reduceOption_singleton]

end Runs

theorem delivered_subset_round : s.delivered ⊆ (s.round needed credits).1.delivered := by
  simp only [round, reconnected]
  cases s.carried needed with
  | none => exact Finset.Subset.refl _
  | some a =>
    simp only [received]
    split_ifs
    · exact Finset.subset_insert a s.delivered
    · exact Finset.Subset.refl _

section Stuck

variable {first : α} {rest : List α} (hneeded : needed = first :: rest)
  (hfirst : first ∉ s.delivered) (hcredits : credits first = false)
include hneeded hfirst hcredits

theorem round_of_stuck :
    (s.round needed credits).1.delivered = s.delivered ∧
      (s.round needed credits).2 = some first := by
  subst hneeded
  have hsame : s.reconnected (first :: rest) credits = s.delivered := by
    simp [reconnected, received, carried, hfirst, hcredits]
  simp [round, hsame, hfirst]

theorem offer_of_stuck (evs : List ε) (e : ε) :
    (step needed credits (run (step needed credits) s evs) e).2 = some first := by
  have hdelivered : (run (step needed credits) s evs).delivered = s.delivered := by
    refine run_invariant (step needed credits) (fun _ t => t.delivered = s.delivered) rfl ?_ evs
    intro pre e' hpre
    exact (round_of_stuck hneeded (hpre ▸ hfirst) hcredits).1.trans hpre
  exact (round_of_stuck hneeded (hdelivered ▸ hfirst) hcredits).2

end Stuck

/-! ## The parts of a round -/

/-- A round is the reply to a connection attempt, the reconnect and the next offer. -/
inductive Part
  | reply
  | reconnect
  | offer
deriving DecidableEq

/-- The parts of a round as the moves of a machine. An offer that finds nothing missing
delivers a pending item that `finishes` allows. -/
def move (needed : List α) (credits finishes : α → Bool) (s : Delivery α) :
    Part → Delivery α × List α
  | .reply => (⟨s.delivered, s.carried needed⟩, [])
  | .reconnect => (⟨s.received credits s.pending, none⟩, [])
  | .offer =>
    match s.missing needed with
    | [] => (⟨s.received finishes s.pending, none⟩, [])
    | a :: _ => (⟨s.delivered, some a⟩, [a])

def parts (n : ℕ) : List Part :=
  (List.replicate n [Part.reply, .reconnect, .offer]).flatten

section Parts

theorem parts_succ (n : ℕ) : parts (n + 1) = parts n ++ [Part.reply, .reconnect, .offer] := by
  simp [parts, List.replicate_succ']

variable (needed : List α) (credits finishes : α → Bool) (s : Delivery α)

theorem move_offer_reconnected :
    let returned : Delivery α := ⟨s.reconnected needed credits, none⟩
    returned.move needed credits finishes .offer =
      ((s.round needed credits).1, (s.round needed credits).2.toList) := by
  simp only [move, missing, round]
  cases needed.filter fun a => a ∉ s.reconnected needed credits <;> rfl

theorem run_parts (n : ℕ) :
    run (move needed credits finishes) s (parts n) =
      run (step needed credits) s (List.replicate n ()) := by
  induction n with
  | zero => rfl
  | succ n ih =>
    rw [parts_succ, run_append, ih, List.replicate_succ', run_concat]
    exact congrArg Prod.fst (move_offer_reconnected needed credits finishes _)

theorem outputs_parts (n : ℕ) :
    (outputs (move needed credits finishes) s (parts n)).flatten =
      (outputs (step needed credits) s (List.replicate n ())).reduceOption := by
  induction n with
  | zero => rfl
  | succ n ih =>
    have hoffer := congrArg Prod.snd (move_offer_reconnected needed credits finishes
      (run (move needed credits finishes) s (parts n)))
    rw [parts_succ, outputs_append, List.flatten_append, ih, List.replicate_succ', outputs_concat,
      List.reduceOption_append, ← run_parts needed credits finishes s n]
    congr 1
    rw [List.reduceOption_singleton]
    simp only [outputs, List.flatten_cons, List.flatten_nil, List.append_nil]
    -- only the last part makes an offer
    exact hoffer

variable {needed : List α} {credits : α → Bool} {s : Delivery α} (hneeded : needed.Nodup)
  (hcredits : ∀ a ∈ (s.round needed credits).1.missing needed, credits a = true)
include hneeded hcredits

/-- The offers of whole rounds are items of the list in its order, and once there are
fewer offers than rounds everything is delivered. -/
theorem offers_parts (n : ℕ) :
    (outputs (move needed credits finishes) s (parts n)).flatten.Sublist needed ∧
      ((outputs (move needed credits finishes) s (parts n)).flatten.length < n →
        (run (move needed credits finishes) s (parts n)).missing needed = [] ∧
          (run (move needed credits finishes) s (parts n)).pending = none) := by
  rw [outputs_parts, run_parts, offers_run hneeded hcredits, List.length_replicate]
  refine ⟨(List.take_sublist _ _).trans List.filter_sublist, fun hlen => ?_⟩
  cases n with
  | zero => simp at hlen
  | succ n =>
    obtain ⟨hsettled, hmissing⟩ := missing_run hneeded hcredits () (List.replicate n ())
    rw [List.length_take] at hlen
    have hnil : (run (step needed credits) s (() :: List.replicate n ())).missing needed = [] := by
      rw [hmissing, List.length_replicate, List.drop_eq_nil_iff]
      omega
    refine ⟨hnil, ?_⟩
    unfold Settled at hsettled
    rwa [hnil] at hsettled

end Parts

end Delivery
end Foundations
