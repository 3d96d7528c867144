import Mathlib.Data.Finset.Sort
import MultiAddonRss.Preferences.Grammar

/-!
# The canonical preference text

`BuildRssAssetPreferencesJson` lists the opted-out identifiers in increasing
order, one entry a line. Its texts are documents of the grammar, so parsing
them gives the set back.
-/

namespace MultiAddonRss
namespace RssPrefs

open Foundations

/-! ## The writer -/

/-- The digits of a number, least significant first, in a buffer of `fuel` bytes. -/
def revDigits : ℕ → RssSteamId → CString
  | 0, _ => []
  | fuel + 1, v => if v > 0 then (48 + (v % 10).toUInt8) :: revDigits fuel (v / 10) else []

def numBuf (v : RssSteamId) : CString :=
  if v = 0 then [48] else (revDigits 24 v).reverse

def entryLine (v : RssSteamId) (more : Bool) : CString :=
  ascii "    \"" ++ numBuf v ++ ascii "\": true" ++ (if more then ascii "," else ascii "") ++
    ascii "\n"

/-- The loop over the identifiers, of which `index` are already written. -/
def entryLines (size : ℕ) : ℕ → List RssSteamId → CString
  | _, [] => []
  | index, v :: vs => entryLine v (index + 1 < size) ++ entryLines size (index + 1) vs

def buildHeader : CString :=
  ascii "\x7b\n" ++
  ascii "  // true skips the five staged RSS asset checks and fast-mounts cached assets.\n" ++
  ascii "  // Missing IDs default to ON and use the normal staged download flow.\n" ++
  ascii "  \"version\": 1,\n" ++
  ascii "  \"opt_out_steam_ids\": \x7b\n"

def buildRssAssetPreferencesJson (optOutIds : Finset RssSteamId) : CString :=
  buildHeader ++ entryLines optOutIds.card 0 (optOutIds.sort (· ≤ ·)) ++ ascii "  \x7d\n\x7d\n"

/-! ## Identifier texts -/

theorem isNumeralDigit_rem (v : RssSteamId) : IsNumeralDigit (48 + (v % 10).toUInt8) ∧
    (48 + (v % 10).toUInt8).toNat - 48 = v.toNat % 10 := by
  have hrem : (48 + (v % 10).toUInt8).toNat = 48 + v.toNat % 10 := by
    have h48 : (48 : UInt8).toNat = 48 := rfl
    rw [UInt8.toNat_add, UInt64.toNat_toUInt8, UInt64.toNat_mod, toNat_ten, h48]
    omega
  constructor
  · constructor <;> omega
  · omega

theorem toNat_div_ten (v : RssSteamId) : (v / 10).toNat = v.toNat / 10 := by
  rw [UInt64.toNat_div, toNat_ten]

theorem revDigits_isNumeral (fuel : ℕ) : ∀ v, ∀ c ∈ revDigits fuel v, IsNumeralDigit c := by
  induction fuel with
  | zero => intro v c hc; simp [revDigits] at hc
  | succ fuel ih =>
    intro v c hc
    unfold revDigits at hc
    split_ifs at hc
    · rcases List.mem_cons.1 hc with rfl | hc
      · exact (isNumeralDigit_rem v).1
      · exact ih _ c hc
    · simp at hc

theorem revDigits_length_le (fuel : ℕ) : ∀ {v : RssSteamId} {n : ℕ}, v.toNat < 10 ^ n →
    (revDigits fuel v).length ≤ n := by
  induction fuel with
  | zero => intro v n _; simp [revDigits]
  | succ fuel ih =>
    intro v n hv
    unfold revDigits
    split_ifs with hpos
    · rcases n with _ | n
      · have := UInt64.lt_iff_toNat_lt.1 hpos
        simp at hv this
        omega
      · have hdiv : (v / 10).toNat < 10 ^ n := by
          rw [toNat_div_ten]
          rw [pow_succ] at hv
          omega
        simpa using ih hdiv
    · simp

theorem revDigits_value (fuel : ℕ) : ∀ {v : RssSteamId}, v.toNat < 10 ^ fuel →
    numeralValue (revDigits fuel v).reverse = v.toNat := by
  induction fuel with
  | zero =>
    intro v hv
    simp only [pow_zero, Nat.lt_one_iff] at hv
    simp [revDigits, numeralValue, hv]
  | succ fuel ih =>
    intro v hv
    unfold revDigits
    split_ifs with hpos
    · have hih : numeralFrom 0 (revDigits fuel (v / 10)).reverse = v.toNat / 10 := by
        rw [← toNat_div_ten]
        apply ih
        rw [toNat_div_ten]
        rw [pow_succ] at hv
        omega
      rw [List.reverse_cons, numeralValue, numeralFrom_concat, hih, (isNumeralDigit_rem v).2]
      omega
    · have hzero : ¬ 0 < v.toNat := fun h => hpos (UInt64.lt_iff_toNat_lt.2 h)
      simp only [List.reverse_nil, numeralValue, numeralFrom_nil]
      omega

theorem isIdText_numBuf {v : RssSteamId} (hv : v ≠ 0) : IsIdText (numBuf v) v := by
  have hlt := v.toNat_lt
  have hvalue : numeralValue (revDigits 24 v).reverse = v.toNat := revDigits_value 24 (by omega)
  have hpos : v.toNat ≠ 0 := fun h => hv (UInt64.toNat_inj.1 h)
  rw [numBuf, if_neg hv]
  refine ⟨?_, ?_, ?_, hvalue, hv⟩
  · rcases hdigits : revDigits 24 v with _ | ⟨c, t⟩
    · rw [hdigits] at hvalue
      simp [numeralValue] at hvalue
      omega
    · simp
  · rw [List.length_reverse]
    exact revDigits_length_le 24 (by omega)
  · intro c hc
    exact revDigits_isNumeral 24 v c (List.mem_reverse.1 hc)

/-! ## The text is a document -/

theorem nulFree_append {s t : CString} : NulFree (s ++ t) ↔ NulFree s ∧ NulFree t := by
  simp [NulFree]

theorem nulFree_numBuf (v : RssSteamId) : NulFree (numBuf v) := by
  by_cases hv : v = 0
  · subst hv
    decide
  · exact fun h0 => (isIdText_numBuf hv).plain 0 h0 (by decide)

theorem nulFree_entryLine (v : RssSteamId) (more : Bool) : NulFree (entryLine v more) := by
  simp only [entryLine, nulFree_append]
  refine ⟨⟨⟨⟨by decide, nulFree_numBuf v⟩, by decide⟩, ?_⟩, by decide⟩
  cases more <;> decide

theorem nulFree_entryLines (size : ℕ) (l : List RssSteamId) :
    ∀ index, NulFree (entryLines size index l) := by
  induction l with
  | nil => intro index h; simp [entryLines] at h
  | cons v vs ih => exact fun index => nulFree_append.2 ⟨nulFree_entryLine v _, ih _⟩

theorem nulFree_build (optOutIds : Finset RssSteamId) :
    NulFree (buildRssAssetPreferencesJson optOutIds) := by
  refine nulFree_append.2 ⟨nulFree_append.2 ⟨by decide +kernel, ?_⟩, by decide⟩
  exact nulFree_entryLines _ _ 0

theorem idEntry_numBuf {v : RssSteamId} (hv : v ≠ 0) (r : CString) :
    IdEntry (34 :: numBuf v ++ 34 :: 58 :: 32 :: (ascii "true" ++ r)) (v, true) r :=
  .mk (isIdText_numBuf hv) .nil (ws_blank (t := [32]) (by decide +kernel) _)

theorem entryLine_append (v : RssSteamId) (more : Bool) (s : CString) :
    entryLine v more ++ s = [32, 32, 32, 32] ++ (34 :: numBuf v ++ 34 :: 58 :: 32 ::
      (ascii "true" ++ ((if more then [44] else []) ++ 10 :: s))) := by
  cases more <;> simp [entryLine, ascii]

theorem commaItems_entryLines (size : ℕ) (r : CString) : ∀ {l : List RssSteamId} (index : ℕ),
    l ≠ [] → (∀ v ∈ l, v ≠ 0) → index + l.length = size →
    ∃ s, Ws (entryLines size index l ++ (ascii "  " ++ 125 :: r)) s ∧
      CommaItems Ws IdEntry 44 125 s (l.map fun v => (v, true)) r
  | [v], index, _, hv, hsize => by
    have hmore : ¬ index + 1 < size := by simp at hsize; omega
    have hend : Ws (10 :: (ascii "  " ++ 125 :: r)) (125 :: r) :=
      ws_blank (t := [10, 32, 32]) (by decide +kernel) _
    refine ⟨_, ?_, .last (idEntry_numBuf (hv v (by simp)) _) hend⟩
    simp only [entryLines, List.append_nil, hmore, decide_false, entryLine_append]
    exact ws_blank (by decide +kernel) _
  | v :: w :: vs, index, _, hv, hsize => by
    have hmore : index + 1 < size := by simp at hsize; omega
    obtain ⟨hv₀, hvs⟩ := List.forall_mem_cons.1 hv
    have hsize' : index + 1 + (w :: vs).length = size := by simp at hsize ⊢; omega
    obtain ⟨s, hs, hitems⟩ := commaItems_entryLines size r (index + 1) (by simp) hvs hsize'
    refine ⟨_, ?_, .cons (idEntry_numBuf hv₀ (44 :: 10 :: _)) .nil (.char (by decide) hs) hitems⟩
    rw [entryLines, List.append_assoc, entryLine_append]
    simpa only [hmore, decide_true, if_true, List.cons_append, List.nil_append] using
      ws_blank (t := [32, 32, 32, 32]) (by decide +kernel) _

theorem commaBody_entryLines (r : CString) {l : List RssSteamId} (hl : ∀ v ∈ l, v ≠ 0) :
    CommaBody Ws IdEntry 44 125 (10 :: entryLines l.length 0 l ++ (ascii "  " ++ 125 :: r))
      (l.map fun v => (v, true)) r := by
  by_cases hne : l = []
  · subst hne
    exact .empty (ws_blank (t := [10, 32, 32]) (by decide +kernel) _)
  · obtain ⟨s, hs, hitems⟩ := commaItems_entryLines l.length r 0 hne hl (by simp)
    exact .items (.char (by decide) hs) hitems

theorem ws_lineComment (t : CString) {s : CString} (ht : ∀ b ∈ t, b ≠ 10 ∧ b ≠ 13) :
    Ws (47 :: 47 :: (t ++ 10 :: s)) (10 :: s) := by
  refine .line ht ?_ .nil
  rintro c ⟨⟩
  exact .inl rfl

def headerComment : CString :=
  ascii " true skips the five staged RSS asset checks and fast-mounts cached assets."

def defaultComment : CString :=
  ascii " Missing IDs default to ON and use the normal staged download flow."

theorem buildHeader_eq : buildHeader =
    123 :: ([10, 32, 32] ++ 47 :: 47 :: (headerComment ++ 10 :: ([32, 32] ++
      47 :: 47 :: (defaultComment ++ 10 :: ([32, 32] ++
        (34 :: ascii "version" ++ 34 :: 58 :: 32 :: 49 :: 44 :: ([10, 32, 32] ++
          (34 :: ascii "opt_out_steam_ids" ++ 34 :: 58 :: 32 :: 123 :: [10])))))))) := by
  decide +kernel

theorem ws_headerComments (s : CString) :
    Ws ([10, 32, 32] ++ 47 :: 47 :: (headerComment ++ 10 :: ([32, 32] ++
      47 :: 47 :: (defaultComment ++ 10 :: ([32, 32] ++ s))))) s := by
  have hblank : ∀ t, Ws (10 :: ([32, 32] ++ t)) t :=
    ws_blank (t := [10, 32, 32]) (by decide +kernel)
  have hfirst := ws_lineComment headerComment
    (s := [32, 32] ++ 47 :: 47 :: (defaultComment ++ 10 :: ([32, 32] ++ s))) (by decide +kernel)
  have hsecond := ws_lineComment defaultComment (s := [32, 32] ++ s) (by decide +kernel)
  exact (hblank _).trans (hfirst.trans ((hblank _).trans (hsecond.trans (hblank s))))

theorem document_build {optOutIds : Finset RssSteamId} (h0 : 0 ∉ optOutIds) :
    Document (buildRssAssetPreferencesJson optOutIds)
      ((optOutIds.sort (· ≤ ·)).map fun v => (v, true)) := by
  have hne : ∀ v ∈ optOutIds.sort (· ≤ ·), v ≠ 0 := by
    rintro v hv rfl
    exact h0 ((Finset.mem_sort _).1 hv)
  have hbody := commaBody_entryLines (ascii "\n\x7d\n") hne
  rw [Finset.length_sort] at hbody
  have hspace : ∀ s, Ws (32 :: s) s := ws_blank (t := [32]) (by decide +kernel)
  have hversion : ∀ r, Member (34 :: ascii "version" ++ 34 :: 58 :: 32 :: 49 :: r) .version r :=
    fun r => .version .nil (hspace _)
  have hitems := CommaItems.cons (hversion (44 :: _)) .nil
    (ws_blank (t := [10, 32, 32]) (by decide +kernel) _)
    (.last (.optOut .nil (hspace _) hbody) (ws_blank (t := [10]) (by decide +kernel) [125, 10]))
  refine ⟨_, _, _, ?_, .items (ws_headerComments _) hitems,
    ws_blank (t := [10]) (by decide +kernel) [], .inl rfl⟩
  have hfooter : ascii "  \x7d\n\x7d\n" = ascii "  " ++ 125 :: ascii "\n\x7d\n" := by decide
  rw [buildRssAssetPreferencesJson, buildHeader_eq, hfooter]
  simpa only [List.cons_append, List.append_assoc, List.nil_append] using Ws.nil

theorem trueIds_map_true (l : List RssSteamId) :
    trueIds (l.map fun v => (v, true)) = l.toFinset := by
  simp [trueIds, List.filter_map, Function.comp_def]

theorem parseDocument_build {optOutIds : Finset RssSteamId} (h0 : 0 ∉ optOutIds) :
    parseDocument (buildRssAssetPreferencesJson optOutIds) = some optOutIds := by
  refine parseDocument_eq_some_iff.2 ⟨nulFree_build _, _, document_build h0, ?_, ?_⟩
  · rw [DistinctIds, List.map_map]
    simp [Function.comp_def]
  · rw [trueIds_map_true, Finset.sort_toFinset]

/-- The parser reads every text of the writer back, and the text that is written
for the result of the parser is a fixed point of parsing and writing. -/
theorem writer_parser_inverse :
    (∀ optOutIds out, 0 ∉ optOutIds →
      parseRssAssetPreferences (buildRssAssetPreferencesJson optOutIds) out =
        (true, optOutIds)) ∧
    ∀ doc out, (parseRssAssetPreferences doc out).1 = true →
      let parsed := (parseRssAssetPreferences doc out).2
      let text := buildRssAssetPreferencesJson parsed
      0 ∉ parsed ∧ ∀ out', (parseRssAssetPreferences text out').1 = true ∧
        (parseRssAssetPreferences text out').2 = parsed ∧
        buildRssAssetPreferencesJson (parseRssAssetPreferences text out').2 = text := by
  have hbuild {optOutIds : Finset RssSteamId} (h0 : 0 ∉ optOutIds) (out : Finset RssSteamId) :
      parseRssAssetPreferences (buildRssAssetPreferencesJson optOutIds) out =
        (true, optOutIds) := by
    rw [parseRssAssetPreferences, parseDocument_build h0]
  refine ⟨fun optOutIds out h0 => hbuild h0 out, fun doc out haccept => ?_⟩
  cases hparse : parseDocument doc with
  | none => simp [parseRssAssetPreferences, hparse] at haccept
  | some T =>
    have h0 : 0 ∉ T := zero_notMem_of_parseDocument hparse
    simp only [parseRssAssetPreferences, hparse]
    refine ⟨h0, fun out' => ?_⟩
    simp [parseDocument_build h0]

/-! ## Size -/

theorem length_entryLine (v : RssSteamId) (more : Bool) :
    (entryLine v more).length = (numBuf v).length + 13 + more.toNat := by
  have hopen : (ascii "    \"").length = 5 := by decide
  have hclose : (ascii "\": true").length = 7 := by decide
  have hcomma : (ascii ",").length = 1 := by decide
  have hnone : (ascii "").length = 0 := by decide
  have hend : (ascii "\n").length = 1 := by decide
  simp only [entryLine, List.length_append, hopen, hclose, hend]
  cases more <;> simp only [if_true, Bool.false_eq_true, if_false, hcomma, hnone, Bool.toNat_true,
    Bool.toNat_false] <;> omega

theorem length_entryLines (vs : List RssSteamId) : ∀ index,
    (entryLines (index + vs.length) index vs).length =
      (vs.map fun v => (numBuf v).length + 14).sum - (if vs = [] then 0 else 1) := by
  induction vs with
  | nil => simp [entryLines]
  | cons v vs ih =>
    intro index
    have hih := ih (index + 1)
    rw [show index + 1 + vs.length = index + (v :: vs).length by simp; omega] at hih
    simp only [entryLines, List.length_append, length_entryLine, hih, List.map_cons, List.sum_cons]
    rcases vs with _ | ⟨w, vs⟩
    · simp
    · have hmore : index + 1 < index + (v :: w :: vs).length := by simp
      simp only [hmore, decide_true, Bool.toNat_true, List.map_cons, List.sum_cons,
        reduceCtorEq, if_false]
      omega

theorem length_build_ge (optOutIds : Finset RssSteamId) :
    14 * optOutIds.card ≤ (buildRssAssetPreferencesJson optOutIds).length := by
  have hlines := length_entryLines (optOutIds.sort (· ≤ ·)) 0
  rw [Nat.zero_add, Finset.length_sort] at hlines
  have hsum : ((optOutIds.sort (· ≤ ·)).map fun v => (numBuf v).length + 14).sum ≥
      (optOutIds.sort (· ≤ ·)).length * 14 := by
    induction optOutIds.sort (· ≤ ·) with
    | nil => simp
    | cons v vs ih => simp only [List.map_cons, List.sum_cons, List.length_cons]; omega
  have hfooter : (ascii "  \x7d\n\x7d\n").length = 6 := by decide
  rw [Finset.length_sort] at hsum
  simp only [buildRssAssetPreferencesJson, List.length_append, hlines, hfooter]
  split_ifs <;> omega

end RssPrefs
end MultiAddonRss
