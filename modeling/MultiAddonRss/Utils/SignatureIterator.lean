import MultiAddonRss.Foundations.WindowSearch

/-!
# Signature scanning

`FindNext` compares the signature at the addresses from its cursor on. The number of
addresses it tries is the size of the region, wherever the cursor is and however
long the signature.
-/

namespace MultiAddonRss

open Foundations

/-- The bytes of the process, of which the region of a scan is a part. -/
abbrev Memory := ℕ → UInt8

structure SignatureIterator where
  base : ℕ
  size : ℕ
  signature : List UInt8
  current : ℕ

namespace SignatureIterator

def create (base size : ℕ) (signature : List UInt8) : SignatureIterator :=
  ⟨base, size, signature, base⟩

section FindNext

variable (memory : Memory) (allowWildcard : Bool)

/-- The inner loop, which stops at the first byte that differs. -/
def matchesAt : List UInt8 → ℕ → Bool
  | [], _ => true
  | c :: signature, address =>
    (memory address = c || (allowWildcard && c = 42)) && matchesAt signature (address + 1)

/-- The outer loop, with `count` addresses left to try. -/
def scan (signature : List UInt8) : ℕ → ℕ → Option ℕ
  | 0, _ => none
  | count + 1, address =>
    if matchesAt memory allowWildcard signature address then some address
    else scan signature count (address + 1)

def findNext (it : SignatureIterator) : Option ℕ × SignatureIterator :=
  match scan memory allowWildcard it.signature it.size it.current with
  | some address => (some address, { it with current := address + 1 })
  | none => (none, it)

def nthResult : ℕ → SignatureIterator → Option ℕ
  | 0, it => (it.findNext memory allowWildcard).1
  | k + 1, it => nthResult k (it.findNext memory allowWildcard).2

/-- The addresses at which the signature occurs inside a region, in increasing order. -/
def occurrences (base size : ℕ) (signature : List UInt8) : List ℕ :=
  (List.range' base (size + 1 - signature.length)).filter
    (matchesAt memory allowWildcard signature)

end FindNext

variable {memory : Memory} {allowWildcard : Bool} {signature : List UInt8}

theorem scan_eq_find? (count : ℕ) : ∀ address,
    scan memory allowWildcard signature count address =
      (List.range' address count).find? (matchesAt memory allowWildcard signature) := by
  induction count with
  | zero => exact fun _ => rfl
  | succ count ih =>
    intro address
    rw [List.range'_succ, List.find?_cons, scan, ih]
    cases matchesAt memory allowWildcard signature address <;> rfl

theorem nthResult_eq_nthHit (k : ℕ) : ∀ it : SignatureIterator,
    it.nthResult memory allowWildcard k =
      nthHit (matchesAt memory allowWildcard it.signature) it.size k it.current := by
  induction k with
  | zero =>
    intro it
    simp only [nthResult, findNext, nthHit, scan_eq_find?]
    cases (List.range' it.current it.size).find? _ <;> rfl
  | succ k ih =>
    intro it
    simp only [nthResult, nthHit, ih, findNext, scan_eq_find?]
    cases hfind : (List.range' it.current it.size).find? _ with
    | none => exact nthHit_of_none hfind k
    | some address => rfl

/-! ## Occurrences -/

theorem mem_occurrences {base size address : ℕ} (hsig : signature ≠ []) :
    address ∈ occurrences memory allowWildcard base size signature ↔
      base ≤ address ∧ address + signature.length ≤ base + size ∧
        matchesAt memory allowWildcard signature address = true := by
  have hlength := List.length_pos_of_ne_nil hsig
  rw [occurrences, List.mem_filter, List.mem_range'_1, ← and_assoc]
  refine and_congr_left fun _ => and_congr_right fun _ => ?_
  omega

/-- The calls return the occurrences inside the region one after the other, and then
none. -/
def EnumeratesRegion (memory : Memory) (allowWildcard : Bool) (base size : ℕ)
    (signature : List UInt8) : Prop :=
  ∀ k, (create base size signature).nthResult memory allowWildcard k =
    (occurrences memory allowWildcard base size signature)[k]?

/-- The calls return the occurrences inside the region exactly if none that reaches
out of it begins within the size of the region behind the last one inside. -/
theorem enumeratesRegion_iff (memory : Memory) (allowWildcard : Bool) (base size : ℕ)
    (signature : List UInt8) (hsig : signature ≠ []) :
    let cursor := cursorAfter base (occurrences memory allowWildcard base size signature)
    EnumeratesRegion memory allowWildcard base size signature ↔
      ∀ address, cursor ≤ address → address < cursor + size →
        base + size < address + signature.length →
          matchesAt memory allowWildcard signature address = false := by
  have hlength := List.length_pos_of_ne_nil hsig
  have hcount : size + 1 - signature.length ≤ size := by omega
  obtain ⟨hbase, hbelow⟩ :=
    lt_cursorAfter (rfl : occurrences memory allowWildcard base size signature = _)
  simp only [EnumeratesRegion, nthResult_eq_nthHit]
  refine (nthHit_eq_iff hcount rfl).trans ?_
  constructor
  · exact fun h address hle hlt _ => h address hle hlt
  · intro h address hle hlt
    by_contra hmatch
    refine hmatch (h address hle hlt ?_)
    -- an occurrence inside the region is not behind the last one
    by_contra hinside
    have hmem := (mem_occurrences hsig).2
      ⟨hbase.trans hle, not_lt.1 hinside, Bool.not_eq_false _ ▸ hmatch⟩
    exact absurd (hbelow address hmem) (not_lt.2 hle)

theorem enumeratesRegion_two_bytes :
    let memory : Memory := fun address => if address = 3 then 65 else 0
    let cursor := cursorAfter 0 (occurrences memory false 0 4 [65])
    EnumeratesRegion memory false 0 4 [65] ↔
      ∀ address, cursor ≤ address → address < cursor + 4 → 0 + 4 < address + [65].length →
        matchesAt memory false [65] address = false :=
  enumeratesRegion_iff _ false 0 4 [65] (by decide)

/-- The first byte of the signature is the last byte of the region and the second one
lies behind it, but the first call returns the address. -/
theorem match_across_end_is_returned :
    let memory : Memory := fun address => if address = 3 then 65 else if address = 4 then 66 else 0
    ¬ EnumeratesRegion memory false 0 4 [65, 66] := by
  intro memory henumerates
  exact absurd (henumerates 0) (by decide +kernel)

end SignatureIterator
end MultiAddonRss
