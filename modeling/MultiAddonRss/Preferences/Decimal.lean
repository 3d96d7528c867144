import Mathlib.Tactic.Linarith
import MultiAddonRss.Foundations.Numeral
import MultiAddonRss.Preferences.Scanner

/-!
# Identifier texts

`parseDecimalUll` computes modulo `2^64`. Its overflow test is exact, so the
wrapped computation agrees with the mathematical value of the numeral, and no
operation behind the test wraps.
-/

namespace MultiAddonRss
namespace RssPrefs

open Foundations

@[simp] theorem isDigitChar_iff (c : UInt8) : isDigitChar c = true ↔ IsNumeralDigit c := by
  simp [isDigitChar, IsNumeralDigit, UInt8.le_iff_toNat_le]

theorem toNat_digit {c : UInt8} (h : IsNumeralDigit c) :
    ((c - 48).toUInt64).toNat = c.toNat - 48 ∧ ((c - 48).toUInt64).toNat ≤ 9 := by
  obtain ⟨hlo, hhi⟩ := h
  have hsub : (c - 48).toNat = c.toNat - 48 :=
    UInt8.toNat_sub_of_le c 48 (UInt8.le_iff_toNat_le.2 hlo)
  rw [UInt8.toNat_toUInt64, hsub]
  omega

theorem toNat_ten : (10 : UInt64).toNat = 10 := rfl

/-- The guard fails exactly where the next value would leave 64 bits. -/
theorem guard_iff {value digit : UInt64} (h : digit.toNat ≤ 9) :
    value > (18446744073709551615 - digit) / 10 ↔
      2 ^ 64 ≤ value.toNat * 10 + digit.toNat := by
  have hsub : (18446744073709551615 - digit).toNat = 18446744073709551615 - digit.toNat :=
    UInt64.toNat_sub_of_le _ _ (UInt64.le_iff_toNat_le.2 (by
      have : (18446744073709551615 : UInt64).toNat = 18446744073709551615 := rfl
      omega))
  rw [gt_iff_lt, UInt64.lt_iff_toNat_lt, UInt64.toNat_div, hsub, toNat_ten]
  omega

theorem toNat_next {value digit : UInt64} (h : value.toNat * 10 + digit.toNat < 2 ^ 64) :
    (value * 10).toNat = value.toNat * 10 ∧
      (value * 10 + digit).toNat = value.toNat * 10 + digit.toNat := by
  rw [UInt64.toNat_add, UInt64.toNat_mul, toNat_ten]
  omega

theorem decimalLoop_eq_some_iff {t : CString} (ht : ∀ c ∈ t, IsNumeralDigit c) :
    ∀ {value id : RssSteamId}, decimalLoop t value = some id ↔
      numeralFrom value.toNat t = id.toNat := by
  induction t with
  | nil => intro value id; simp [decimalLoop, UInt64.toNat_inj]
  | cons c cs ih =>
    intro value id
    obtain ⟨hc, hcs⟩ := List.forall_mem_cons.1 ht
    obtain ⟨hdigit, hle⟩ := toNat_digit hc
    simp only [decimalLoop, guard_iff hle, numeralFrom_cons]
    split_ifs with hover
    · -- the value only grows, so it cannot come back into range
      have hgrow := le_numeralFrom cs (value.toNat * 10 + (c.toNat - 48))
      have hid := id.toNat_lt
      simp only [false_iff]
      omega
    · rw [ih hcs, (toNat_next (by omega)).2, hdigit]

/-- The texts of an identifier: 1 to 20 digits, leading zeros allowed, with a
non-zero value that fits in 64 bits. -/
def IsIdText (t : CString) (id : RssSteamId) : Prop :=
  1 ≤ t.length ∧ t.length ≤ 20 ∧ (∀ c ∈ t, IsNumeralDigit c) ∧
    numeralValue t = id.toNat ∧ id ≠ 0

theorem parseDecimalUll_eq_some_iff {t : CString} {id : RssSteamId} :
    parseDecimalUll t = some id ↔ IsIdText t id := by
  by_cases hdigits : ∀ c ∈ t, IsNumeralDigit c
  · have hloop := @decimalLoop_eq_some_iff t hdigits 0
    have hall : t.all isDigitChar = true := by simpa [List.all_eq_true] using hdigits
    simp only [parseDecimalUll, hall, IsIdText, List.isEmpty_iff, Bool.or_eq_true,
      decide_eq_true_eq, numeralValue]
    split_ifs with hlen
    · simp only [false_iff]
      rintro ⟨hpos, hle, -⟩
      rcases hlen with rfl | hgt
      · simp at hpos
      · omega
    · contradiction
    · have hpos : 1 ≤ t.length := by
        rcases t with _ | ⟨c, t⟩
        · simp at hlen
        · simp
      simp only [Option.bind_eq_bind, Option.bind_eq_some_iff, hloop]
      constructor
      · rintro ⟨value, hvalue, hid⟩
        split_ifs at hid with hzero
        obtain rfl : value = id := by simpa using hid
        exact ⟨hpos, by omega, hdigits, hvalue, hzero⟩
      · rintro ⟨-, -, -, hvalue, hne⟩
        exact ⟨id, hvalue, by simp [hne]⟩
  · have hall : ¬ t.all isDigitChar = true := by simpa [List.all_eq_true] using hdigits
    simp [parseDecimalUll, hall, IsIdText, hdigits]

/-! ## The operations of the loop -/

/-- One execution of `value = value * 10ULL + digit`. -/
structure DecimalTurn where
  value : RssSteamId
  digit : RssSteamId

def DecimalTurn.Exact (turn : DecimalTurn) : Prop :=
  (turn.value * 10).toNat = turn.value.toNat * 10 ∧
    (turn.value * 10 + turn.digit).toNat = (turn.value * 10).toNat + turn.digit.toNat

/-- The accumulation together with the turns that get past the overflow test. -/
def decimalLoopTraced : CString → RssSteamId → Option RssSteamId × List DecimalTurn
  | [], value => (some value, [])
  | c :: cs, value =>
    let digit : RssSteamId := (c - 48).toUInt64
    if value > (18446744073709551615 - digit) / 10 then (none, [])
    else
      let (result, turns) := decimalLoopTraced cs (value * 10 + digit)
      (result, ⟨value, digit⟩ :: turns)

structure DecimalCall where
  result : Bool
  out : RssSteamId
  turns : List DecimalTurn

def parseDecimalUllTraced (text : CString) (out : RssSteamId) : DecimalCall :=
  if text.isEmpty || text.length > 20 then ⟨false, out, []⟩
  else if !text.all isDigitChar then ⟨false, out, []⟩
  else
    match decimalLoopTraced text 0 with
    | (none, turns) => ⟨false, out, turns⟩
    | (some value, turns) =>
      if value = 0 then ⟨false, out, turns⟩ else ⟨true, value, turns⟩

theorem decimalLoopTraced_value (t : CString) (value : RssSteamId) :
    (decimalLoopTraced t value).1 = decimalLoop t value := by
  induction t generalizing value with
  | nil => rfl
  | cons c cs ih =>
    simp only [decimalLoopTraced, decimalLoop]
    split_ifs
    · rfl
    · exact ih _

theorem exact_decimalLoopTraced {t : CString} (ht : ∀ c ∈ t, IsNumeralDigit c)
    (value : RssSteamId) : ∀ turn ∈ (decimalLoopTraced t value).2, turn.Exact := by
  induction t generalizing value with
  | nil => simp [decimalLoopTraced]
  | cons c cs ih =>
    obtain ⟨hc, hcs⟩ := List.forall_mem_cons.1 ht
    obtain ⟨-, hle⟩ := toNat_digit hc
    simp only [decimalLoopTraced, guard_iff hle]
    split_ifs with hover
    · simp
    · obtain ⟨hmul, hadd⟩ := toNat_next (not_le.1 hover)
      rw [← hmul] at hadd
      exact List.forall_mem_cons.2 ⟨⟨hmul, hadd⟩, ih hcs _⟩

theorem parseDecimalUllTraced_eq (text : CString) (out : RssSteamId) :
    (parseDecimalUllTraced text out).result = (parseDecimalUll text).isSome ∧
      (parseDecimalUllTraced text out).out = (parseDecimalUll text).getD out := by
  have hvalue := decimalLoopTraced_value text 0
  unfold parseDecimalUllTraced parseDecimalUll
  split_ifs
  · exact ⟨rfl, rfl⟩
  · exact ⟨rfl, rfl⟩
  · rw [← hvalue]
    rcases decimalLoopTraced text 0 with ⟨_ | value, turns⟩
    · exact ⟨rfl, rfl⟩
    · by_cases hzero : value = 0
      · simp [hzero]
      · simp [hzero]

theorem exact_parseDecimalUllTraced (text : CString) (out : RssSteamId) :
    ∀ turn ∈ (parseDecimalUllTraced text out).turns, turn.Exact := by
  unfold parseDecimalUllTraced
  split_ifs with hlength hdigits
  · simp
  · simp
  · have hall : ∀ c ∈ text, IsNumeralDigit c := by simpa [List.all_eq_true] using hdigits
    have hturns := exact_decimalLoopTraced hall 0
    generalize decimalLoopTraced text 0 = loop at hturns ⊢
    obtain ⟨_ | value, turns⟩ := loop
    · exact hturns
    · dsimp only
      split_ifs
      · exact hturns
      · exact hturns

theorem exists_isIdText_iff {t : CString} :
    (∃ id, IsIdText t id) ↔ 1 ≤ t.length ∧ t.length ≤ 20 ∧ (∀ c ∈ t, IsNumeralDigit c) ∧
      1 ≤ numeralValue t ∧ numeralValue t ≤ 2 ^ 64 - 1 := by
  constructor
  · rintro ⟨id, hpos, hle, hdigits, hvalue, hne⟩
    have hlt := id.toNat_lt
    have hzero : id.toNat ≠ 0 := fun h => hne (UInt64.toNat_inj.1 h)
    exact ⟨hpos, hle, hdigits, by omega, by omega⟩
  · rintro ⟨hpos, hle, hdigits, hone, hmax⟩
    have hid : (UInt64.ofNat (numeralValue t)).toNat = numeralValue t :=
      UInt64.toNat_ofNat_of_lt' (Nat.lt_of_le_of_lt hmax (by decide))
    refine ⟨UInt64.ofNat (numeralValue t), hpos, hle, hdigits, hid.symm, fun hzero => ?_⟩
    rw [hzero] at hid
    simp at hid
    omega

/-- The parse accepts exactly the numerals of the identifiers, stores their value,
leaves `out` alone where it fails, and computes without wrapping. -/
theorem parseDecimalUll_exact (text : CString) (out : RssSteamId) :
    let call := parseDecimalUllTraced text out
    (call.result = true ↔ 1 ≤ text.length ∧ text.length ≤ 20 ∧
      (∀ c ∈ text, IsNumeralDigit c) ∧ 1 ≤ numeralValue text ∧
        numeralValue text ≤ 2 ^ 64 - 1) ∧
    (call.result = true → call.out.toNat = numeralValue text) ∧
    (call.result = false → call.out = out) ∧
    ∀ turn ∈ call.turns, (turn.value * 10).toNat = turn.value.toNat * 10 ∧
      (turn.value * 10 + turn.digit).toNat = (turn.value * 10).toNat + turn.digit.toNat := by
  obtain ⟨hresult, hout⟩ := parseDecimalUllTraced_eq text out
  refine ⟨?_, ?_, ?_, exact_parseDecimalUllTraced text out⟩
  · rw [hresult, Option.isSome_iff_exists, ← exists_isIdText_iff]
    simp only [parseDecimalUll_eq_some_iff]
  · rw [hresult, hout, Option.isSome_iff_exists]
    rintro ⟨id, hid⟩
    obtain ⟨-, -, -, hvalue, -⟩ := parseDecimalUll_eq_some_iff.1 hid
    rw [hid, Option.getD_some, hvalue]
  · rw [hresult, hout, Option.isSome_eq_false_iff, Option.isNone_iff_eq_none]
    intro hnone
    rw [hnone, Option.getD_none]

end RssPrefs
end MultiAddonRss
