import Mathlib.Data.List.Range
import Mathlib.Tactic.Common

/-!
# Repeated search in a moving window

A search looks at the next `width` numbers from a cursor and moves the cursor behind
what it finds. The window moves along, so the hits up to a bound are followed by
those that the last window reaches behind it.
-/

namespace Foundations

variable (p : ℕ → Bool) (width : ℕ)

/-- The answer of the `k`-th search, counted from 0, with the cursor first at `c`. -/
def nthHit : ℕ → ℕ → Option ℕ
  | 0, c => (List.range' c width).find? p
  | k + 1, c =>
    match (List.range' c width).find? p with
    | none => none
    | some a => nthHit k (a + 1)

def cursorAfter : ℕ → List ℕ → ℕ
  | c, [] => c
  | _, a :: hits => cursorAfter (a + 1) hits

variable {p width}

theorem nthHit_of_none {c : ℕ} (hnone : (List.range' c width).find? p = none) (k : ℕ) :
    nthHit p width k c = none := by
  cases k <;> simp [nthHit, hnone]

theorem filter_range'_eq_cons {n : ℕ} : ∀ {c a : ℕ} {hits : List ℕ},
    (List.range' c n).filter p = a :: hits →
      (c ≤ a ∧ a < c + n ∧ p a = true ∧ ∀ b, c ≤ b → b < a → p b = false) ∧
        (List.range' (a + 1) (c + n - (a + 1))).filter p = hits := by
  induction n with
  | zero => simp
  | succ n ih =>
    intro c a hits hfilter
    rw [List.range'_succ, List.filter_cons] at hfilter
    split_ifs at hfilter with hc
    · obtain ⟨rfl, rfl⟩ := List.cons.inj hfilter
      refine ⟨⟨le_rfl, by omega, hc, fun b hle hlt => by omega⟩, ?_⟩
      rw [show c + (n + 1) - (c + 1) = n by omega]
    · obtain ⟨⟨hle, hlt, ha, hfirst⟩, hhits⟩ := ih hfilter
      refine ⟨⟨by omega, by omega, ha, fun b hb hba => ?_⟩, ?_⟩
      · rcases Nat.eq_or_lt_of_le hb with rfl | hb
        · exact Bool.not_eq_true _ ▸ hc
        · exact hfirst b hb hba
      · rwa [show c + (n + 1) - (a + 1) = c + 1 + n - (a + 1) by omega]

theorem lt_cursorAfter {hits : List ℕ} : ∀ {c n : ℕ}, (List.range' c n).filter p = hits →
    c ≤ cursorAfter c hits ∧ ∀ a ∈ hits, a < cursorAfter c hits := by
  induction hits with
  | nil => simp [cursorAfter]
  | cons a hits ih =>
    intro c n hfilter
    obtain ⟨⟨hle, -⟩, hhits⟩ := filter_range'_eq_cons hfilter
    obtain ⟨hcursor, hall⟩ := ih hhits
    refine ⟨by simp only [cursorAfter]; omega, List.forall_mem_cons.2 ⟨?_, hall⟩⟩
    exact hcursor

/-- The searches find exactly the hits below the bound if the last window finds
nothing behind them. -/
theorem nthHit_eq_iff {hits : List ℕ} : ∀ {c n : ℕ}, n ≤ width →
    (List.range' c n).filter p = hits →
    ((∀ k, nthHit p width k c = hits[k]?) ↔
      ∀ a, cursorAfter c hits ≤ a → a < cursorAfter c hits + width → p a = false) := by
  induction hits with
  | nil =>
    intro c n _ _
    have hnone : (∀ a, c ≤ a → a < c + width → p a = false) ↔
        (List.range' c width).find? p = none := by
      simp
    simp only [cursorAfter, hnone, List.getElem?_nil]
    exact ⟨fun h => h 0, nthHit_of_none⟩
  | cons a hits ih =>
    intro c n hn hfilter
    obtain ⟨⟨hle, hlt, ha, hfirst⟩, hhits⟩ := filter_range'_eq_cons hfilter
    have hfind : (List.range' c width).find? p = some a := by
      rw [List.find?_range'_eq_some]
      exact ⟨ha, List.mem_range'_1.2 ⟨hle, by omega⟩, by simpa using hfirst⟩
    rw [cursorAfter, ← ih (by omega) hhits]
    constructor
    · intro h k
      simpa [nthHit, hfind] using h (k + 1)
    · rintro h (_ | k)
      · simp [nthHit, hfind]
      · simpa [nthHit, hfind] using h k

/-! ## Searching until a hit passes a test -/

/-- Repeats the search until a hit passes the test or nothing is found, at most `fuel`
times. The outer `none` says that this was not enough. -/
def searchUntil (p : ℕ → Bool) (width : ℕ) (test : ℕ → Bool) : ℕ → ℕ → Option (Option ℕ)
  | 0, _ => none
  | fuel + 1, c =>
    match (List.range' c width).find? p with
    | none => some none
    | some a => if test a then some (some a) else searchUntil p width test fuel (a + 1)

variable {test : ℕ → Bool}

theorem find?_range'_some {c a : ℕ} (hfind : (List.range' c width).find? p = some a) :
    (c ≤ a ∧ a < c + width) ∧ p a = true ∧ ∀ b, c ≤ b → b < a → p b = false := by
  rw [List.find?_range'_eq_some] at hfind
  obtain ⟨hp, hmem, hfirst⟩ := hfind
  rw [List.mem_range'_1] at hmem
  exact ⟨hmem, hp, by simpa using hfirst⟩

theorem searchUntil_some {fuel : ℕ} : ∀ {c a : ℕ},
    searchUntil p width test fuel c = some (some a) →
      (c ≤ a ∧ p a = true ∧ test a = true) ∧
        ∀ b, c ≤ b → b < a → p b = true → test b = false := by
  induction fuel with
  | zero => simp [searchUntil]
  | succ fuel ih =>
    intro c a hsearch
    unfold searchUntil at hsearch
    cases hfind : (List.range' c width).find? p with
    | none => simp [hfind] at hsearch
    | some hit =>
      obtain ⟨⟨hle, -⟩, hp, hfirst⟩ := find?_range'_some hfind
      simp only [hfind] at hsearch
      split_ifs at hsearch with htest
      · obtain rfl : hit = a := by simpa using hsearch
        refine ⟨⟨hle, hp, htest⟩, ?_⟩
        intro b hb hlt hpb
        rw [hfirst b hb hlt] at hpb
        cases hpb
      · obtain ⟨⟨hle', ha⟩, hbefore⟩ := ih hsearch
        refine ⟨⟨by omega, ha⟩, ?_⟩
        intro b hb hlt hpb
        rcases Nat.lt_trichotomy b hit with hbelow | rfl | habove
        · rw [hfirst b hb hbelow] at hpb
          cases hpb
        · simpa using htest
        · exact hbefore b habove hlt hpb

/-- A hit that passes the test, and before which no other one does, is found if the
first window reaches it. -/
theorem searchUntil_of_first {fuel : ℕ} : ∀ {c a : ℕ}, a - c < fuel → c ≤ a → a < c + width →
    p a = true → test a = true → (∀ b, c ≤ b → b < a → p b = true → test b = false) →
      searchUntil p width test fuel c = some (some a) := by
  induction fuel with
  | zero =>
    intro c a hfuel
    omega
  | succ fuel ih =>
    intro c a hfuel hle hlt hp htest hbefore
    have hsome : ((List.range' c width).find? p).isSome = true := by
      rw [List.find?_isSome]
      exact ⟨a, List.mem_range'_1.2 ⟨hle, hlt⟩, hp⟩
    obtain ⟨hit, hfind⟩ := Option.isSome_iff_exists.1 hsome
    obtain ⟨⟨hle', -⟩, hphit, hfirst⟩ := find?_range'_some hfind
    have hhit : hit ≤ a := by
      by_contra hgt
      rw [hfirst a hle (by omega)] at hp
      cases hp
    unfold searchUntil
    simp only [hfind]
    rcases Nat.eq_or_lt_of_le hhit with rfl | hhit
    · rw [if_pos htest]
    · rw [if_neg (by simp [hbefore hit hle' hhit hphit])]
      apply ih (by omega) (by omega) (by omega) hp htest
      intro b hb
      exact hbefore b (by omega)

end Foundations
