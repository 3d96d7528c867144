import Mathlib.Algebra.Order.Ring.Nat
import Mathlib.Data.List.Basic
import Mathlib.Tactic.Common

/-!
# Words in a byte memory

A memory is a function from addresses to bytes. A word of some width is stored with its
least significant byte first, so that a search for the bytes of a number is a search for
the addresses from which the number is read.
-/

namespace Foundations

def wordBytes : ℕ → ℕ → List UInt8
  | 0, _ => []
  | width + 1, n => UInt8.ofNat n :: wordBytes width (n / 256)

variable (memory : ℕ → UInt8)

/-- The number that is stored at an address. -/
def readWord : ℕ → ℕ → ℕ
  | 0, _ => 0
  | width + 1, address => (memory address).toNat + 256 * readWord width (address + 1)

/-- The memory has the bytes from the address on. -/
def HoldsAt : List UInt8 → ℕ → Prop
  | [], _ => True
  | b :: bytes, address => memory address = b ∧ HoldsAt bytes (address + 1)

variable {memory}

instance : ∀ (bytes : List UInt8) (address : ℕ), Decidable (HoldsAt memory bytes address)
  | [], _ => inferInstanceAs (Decidable True)
  | b :: bytes, address =>
    have := instDecidableHoldsAt bytes (address + 1)
    inferInstanceAs (Decidable (memory address = b ∧ HoldsAt memory bytes (address + 1)))

@[simp] theorem length_wordBytes (width : ℕ) : ∀ n, (wordBytes width n).length = width := by
  induction width with
  | zero => exact fun _ => rfl
  | succ width ih =>
    intro n
    rw [wordBytes, List.length_cons, ih]

/-- Addresses beyond the period are other names of the same bytes. -/
theorem readWord_mod {period : ℕ} (hmemory : ∀ a, memory (a % period) = memory a) (width : ℕ) :
    ∀ address offset, readWord memory width (address % period + offset) =
      readWord memory width (address + offset) := by
  induction width with
  | zero => exact fun _ _ => rfl
  | succ width ih =>
    intro address offset
    have hbyte : memory (address % period + offset) = memory (address + offset) := by
      rw [← hmemory (address % period + offset), ← hmemory (address + offset), Nat.mod_add_mod]
    rw [readWord, readWord, hbyte, add_assoc, add_assoc, ih]

theorem eq_ofNat_iff {b : UInt8} {n : ℕ} : b = UInt8.ofNat n ↔ b.toNat = n % 256 := by
  rw [← UInt8.toNat_inj, UInt8.toNat_ofNat']

theorem holdsAt_wordBytes_iff (width : ℕ) : ∀ n address,
    HoldsAt memory (wordBytes width n) address ↔
      readWord memory width address = n % 256 ^ width := by
  induction width with
  | zero =>
    intro n address
    simp [wordBytes, HoldsAt, readWord, Nat.mod_one]
  | succ width ih =>
    intro n address
    have hbyte := (memory address).toNat_lt
    have hsplit : n % 256 ^ (width + 1) = n % 256 + 256 * (n / 256 % 256 ^ width) := by
      rw [pow_succ', Nat.mod_mul]
    rw [wordBytes, HoldsAt, readWord, ih, eq_ofNat_iff, hsplit]
    constructor
    · rintro ⟨hlow, hhigh⟩
      rw [hlow, hhigh]
    · intro hsum
      omega

theorem holdsAt_append {ys : List UInt8} : ∀ {xs : List UInt8} {address : ℕ},
    HoldsAt memory (xs ++ ys) address ↔
      HoldsAt memory xs address ∧ HoldsAt memory ys (address + xs.length)
  | [], _ => by simp [HoldsAt]
  | x :: xs, address => by
    rw [List.cons_append, HoldsAt, HoldsAt, holdsAt_append, List.length_cons, and_assoc,
      Nat.add_right_comm, add_assoc]

/-! ## Texts with a terminator -/

/-- The bytes up to the first zero, which must be one of the next `fuel` bytes. -/
def readTerminated (memory : ℕ → UInt8) : ℕ → ℕ → Option (List UInt8)
  | 0, _ => none
  | fuel + 1, address =>
    if memory address = 0 then some []
    else (readTerminated memory fuel (address + 1)).map (memory address :: ·)

theorem readTerminated_of_mem {bytes : List UInt8} : ∀ {fuel address : ℕ},
    HoldsAt memory bytes address → 0 ∈ bytes → bytes.length ≤ fuel →
      readTerminated memory fuel address = some (bytes.takeWhile (· ≠ 0)) := by
  induction bytes with
  | nil => simp
  | cons b bytes ih =>
    intro fuel address hholds hzero hfuel
    obtain ⟨hb, hrest⟩ := hholds
    cases fuel with
    | zero => simp at hfuel
    | succ fuel =>
      rw [readTerminated, hb]
      by_cases hend : b = 0
      · rw [if_pos hend, List.takeWhile_cons_of_neg (by simpa using hend)]
      · have hmem : 0 ∈ bytes := (List.mem_cons.1 hzero).resolve_left (Ne.symm hend)
        rw [if_neg hend, ih hrest hmem (Nat.le_of_succ_le_succ hfuel), Option.map_some,
          List.takeWhile_cons_of_pos (by simpa using hend)]

theorem takeWhile_ne_append {z : UInt8} {text : List UInt8} (hz : z ∉ text) :
    (text ++ [z]).takeWhile (· ≠ z) = text := by
  rw [List.takeWhile_append_of_pos]
  · simp
  · intro b hb
    exact decide_eq_true (ne_of_mem_of_not_mem hb hz)

theorem readTerminated_of_holdsAt {text : List UInt8} {fuel address : ℕ}
    (hholds : HoldsAt memory (text ++ [0]) address) (hnul : 0 ∉ text)
    (hfuel : text.length < fuel) : readTerminated memory fuel address = some text := by
  have hlength : (text ++ [0]).length ≤ fuel := by
    rw [List.length_append, List.length_singleton]
    exact hfuel
  rw [readTerminated_of_mem hholds (by simp) hlength, takeWhile_ne_append hnul]

theorem takeWhile_ne_append_isPrefix {z : UInt8} : ∀ {bytes : List UInt8}, z ∈ bytes →
    bytes.takeWhile (· ≠ z) ++ [z] <+: bytes
  | b :: bytes, hz => by
    by_cases hend : b = z
    · subst hend
      simp
    · have hmem : z ∈ bytes := (List.mem_cons.1 hz).resolve_left (Ne.symm hend)
      rw [List.takeWhile_cons_of_pos (by simpa using hend), List.cons_append,
        List.cons_prefix_cons]
      exact ⟨rfl, takeWhile_ne_append_isPrefix hmem⟩

theorem takeWhile_ne_eq_iff {z : UInt8} {bytes text : List UInt8} (hz : z ∈ bytes)
    (hnul : z ∉ text) : bytes.takeWhile (· ≠ z) = text ↔ text ++ [z] <+: bytes := by
  constructor
  · rintro rfl
    exact takeWhile_ne_append_isPrefix hz
  · rintro ⟨rest, rfl⟩
    rw [List.append_assoc, List.takeWhile_append_of_pos]
    · simp
    · intro b hb
      exact decide_eq_true (ne_of_mem_of_not_mem hb hnul)

theorem HoldsAt.eq_of_terminated {z : UInt8} : ∀ {xs ys : List UInt8} {address : ℕ},
    HoldsAt memory (xs ++ [z]) address → HoldsAt memory (ys ++ [z]) address →
      z ∉ xs → z ∉ ys → xs = ys
  | [], [], _, _, _, _, _ => rfl
  | [], y :: ys, address, hxs, hys, _, hny => by
    have hy : y = z := hys.1.symm.trans hxs.1
    exact absurd (by simp [hy]) hny
  | x :: xs, [], address, hxs, hys, hnx, _ => by
    have hx : x = z := hxs.1.symm.trans hys.1
    exact absurd (by simp [hx]) hnx
  | x :: xs, y :: ys, address, hxs, hys, hnx, hny => by
    have hhead : x = y := hxs.1.symm.trans hys.1
    have htail : xs = ys := HoldsAt.eq_of_terminated hxs.2 hys.2
      (fun hmem => hnx (List.mem_cons_of_mem _ hmem))
      (fun hmem => hny (List.mem_cons_of_mem _ hmem))
    rw [hhead, htail]

end Foundations
