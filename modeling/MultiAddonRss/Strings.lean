import Mathlib.Data.List.TakeWhile
import Mathlib.Order.Defs.LinearOrder

/-!
# Strings, comma lists and identifiers

A string is the list of its bytes. It stands for a C string or for a
`std::string` made from one, so it holds no NUL. Addon lists are vectors of
strings; their text form separates the entries with commas.
-/

namespace MultiAddonRss

abbrev CString := List UInt8

def ascii (s : String) : CString := s.toList.map fun c => c.toNat.toUInt8

theorem takeWhile_ne_zero {s : CString} (hnul : 0 ∉ s) : s.takeWhile (· ≠ 0) = s := by
  rw [List.takeWhile_eq_self_iff]
  intro c hc
  simpa using ne_of_mem_of_not_mem hc hnul

instance lawfulBEqCString : LawfulBEq CString := inferInstance

/-- `uint64` identifiers are compared as numbers. -/
instance linearOrderUInt64 : LinearOrder UInt64 where
  le_refl := UInt64.le_refl
  le_trans _ _ _ := UInt64.le_trans
  le_antisymm _ _ := UInt64.le_antisymm
  le_total := UInt64.le_total
  lt_iff_le_not_ge a b := by
    rw [UInt64.lt_iff_toNat_lt, UInt64.le_iff_toNat_le, UInt64.le_iff_toNat_le]
    omega
  toDecidableLE := inferInstance
  toDecidableLT := inferInstance

/-- `getline` visits the segments between commas; empty segments are dropped. -/
def stringToVector (pszString : CString) : List CString :=
  (pszString.splitOn 44).filter fun substr => !substr.isEmpty

/-- The entries joined by commas. -/
def vectorToString (vector : List CString) : CString :=
  [44].intercalate vector

def toLowerByte (c : UInt8) : UInt8 := if 65 ≤ c && c ≤ 90 then c + 32 else c

/-- `V_stricmp` answers zero. -/
def stricmpEq (a b : CString) : Bool := a.map toLowerByte == b.map toLowerByte

/-- What `V_snprintf` leaves in a buffer, the last byte of which is for the terminator. -/
def snprintf (size : ℕ) (text : CString) : CString := text.take (size - 1)

end MultiAddonRss
