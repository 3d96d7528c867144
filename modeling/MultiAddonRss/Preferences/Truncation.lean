import MultiAddonRss.Preferences.Writer

/-!
# Truncated documents

What the parser reads up to the closing brace does not depend on the text behind
it. A document that is cut off is therefore refused, or it lost only white space
and comments.
-/

namespace MultiAddonRss
namespace RssPrefs

open Foundations

/-! ## Text behind what is read -/

/-- A line comment can only grow at the end of the text. -/
theorem Ws.append {s r : CString} (h : Ws s r) (hr : r ≠ []) (t : CString) :
    Ws (s ++ t) (r ++ t) := by
  induction h with
  | nil => exact .nil
  | char hc _ ih => exact .char hc (ih hr)
  | @line body s r hbody hend hws ih =>
    have hs : s ≠ [] := by
      rintro rfl
      exact hr (List.suffix_nil.1 hws.suffix)
    have hend' : EndsLine (s ++ t) := by
      intro c hc
      rw [List.head?_append_of_ne_nil _ hs] at hc
      exact hend c hc
    simpa using Ws.line hbody hend' (ih hr)
  | block hfirst _ ih => simpa using Ws.block hfirst (ih hr)

theorem IdEntry.append {s r : CString} {e : RssSteamId × Bool} (h : IdEntry s e r) :
    s ≠ [] ∧ ∀ t, IdEntry (s ++ t) e (r ++ t) := by
  obtain @⟨digits, id, value, s₁, s₂, _, hid, hcolon, hvalue⟩ := h
  have hne : boolLiteral value ++ r ≠ [] := by cases value <;> simp [boolLiteral, ascii]
  refine ⟨by simp, fun t => ?_⟩
  have hvalue' := hvalue.append hne t
  rw [List.append_assoc] at hvalue'
  simpa using IdEntry.mk hid (hcolon.append (by simp) t) hvalue'

theorem Member.append {s r : CString} {p : Pair} (h : Member s p r) :
    s ≠ [] ∧ ∀ t, Member (s ++ t) p (r ++ t) := by
  cases h with
  | version hcolon hvalue =>
    refine ⟨by simp, fun t => ?_⟩
    simpa using Member.version (hcolon.append (by simp) t) (hvalue.append (by simp) t)
  | optOut hcolon hbrace hbody =>
    refine ⟨by simp, fun t => ?_⟩
    have hbody' := hbody.append Ws.append IdEntry.append t
    simpa using Member.optOut (hcolon.append (by simp) t) (hbrace.append (by simp) t) hbody'

/-! ## Two runs of the parser -/

/-- Where the parser accepts a text, it gets to the closing brace with the same
result if more text follows. -/
theorem parsePairs_of_prefix {doc t : CString} {T : Finset RssSteamId}
    (hdoc : parseDocument doc = some T) (hnul : NulFree (doc ++ t)) :
    ∃ s₁ s₂ ids, skipWsAndComments (doc ++ t) = some (123 :: s₁) ∧
      parsePairs s₁ {} = some (s₂, ⟨ids, true, true⟩) ∧ ids.parsed = T := by
  obtain ⟨-, entries, ⟨s₁, pairs, s₂, hopen, hbody, -, hpairs⟩, hdist, rfl⟩ :=
    parseDocument_eq_some_iff.1 hdoc
  have hopen' : Ws (doc ++ t) (123 :: (s₁ ++ t)) := hopen.append (by simp) t
  have hs₁ : NulFree (s₁ ++ t) := hnul.suffix ((List.suffix_cons 123 _).trans hopen'.suffix)
  have hids := (@foldlM_acceptEntry_eq_some_iff entries {} _).2 ⟨hdist, by simp, rfl⟩
  have hfold := (foldlM_acceptPair_complete_iff.2 ⟨entries, _, hpairs, hids, rfl⟩).1
  have hbody' := hbody.append Ws.append Member.append t
  exact ⟨s₁ ++ t, s₂ ++ t, _, skip_to hnul hopen' (by decide),
    (parsePairs_eq_some_iff hs₁).2 ⟨pairs, hbody', hfold⟩, Finset.empty_union _⟩

theorem parseDocument_of_prefix {doc t : CString} {T T' : Finset RssSteamId}
    (hdoc : parseDocument (doc ++ t) = some T) (hcut : parseDocument doc = some T') :
    T' = T := by
  have hnul := (parseDocument_eq_some_iff.1 hdoc).1
  obtain ⟨s₁, s₂, ids, hopen, hpairs, rfl⟩ := parsePairs_of_prefix hcut hnul
  have hany : (doc ++ t).any (· = 0) = false := by
    refine List.any_eq_false.2 fun c hc => ?_
    simpa using fun h0 : c = 0 => hnul (h0 ▸ hc)
  simp only [parseDocument, hany, Bool.false_eq_true, if_false, Option.bind_eq_bind, hopen,
    Option.bind_some, consumeChar_eq_some_iff.2 rfl, hpairs, Bool.not_true, Bool.or_self] at hdoc
  obtain ⟨s₃, -, hresult⟩ := Option.bind_eq_some_iff.1 hdoc
  split_ifs at hresult
  exact Option.some.inj hresult

/-! ## The identifier zero -/

theorem sort_eq_cons_zero {optOutIds : Finset RssSteamId} (h0 : 0 ∈ optOutIds) :
    ∃ vs, optOutIds.sort (· ≤ ·) = 0 :: vs := by
  have hmem : 0 ∈ optOutIds.sort (· ≤ ·) := (Finset.mem_sort _).2 h0
  have hsorted := optOutIds.pairwise_sort (· ≤ ·)
  rcases hsort : optOutIds.sort (· ≤ ·) with _ | ⟨v, vs⟩
  · simp [hsort] at hmem
  · rw [hsort] at hmem hsorted
    rcases List.mem_cons.1 hmem with rfl | hmem
    · exact ⟨vs, rfl⟩
    · have hle := (List.pairwise_cons.1 hsorted).1 0 hmem
      exact ⟨vs, by rw [UInt64.le_zero_iff.1 hle]⟩

theorem parseIdEntry_zero (r : CString) (st : ParsedIds) :
    parseIdEntry (34 :: numBuf 0 ++ 34 :: r) st = none := by
  have hquoted : parseQuotedString (34 :: numBuf 0 ++ 34 :: r) = some (numBuf 0, r) :=
    parseQuotedString_eq_some_iff.2 ⟨rfl, by decide +kernel⟩
  have hzero : parseDecimalUll (numBuf 0) = none := by decide
  simp only [parseIdEntry, hquoted, hzero, Option.bind_eq_bind, Option.bind_some,
    Option.bind_none]

/-- The opt-out object is refused at its first entry, where the writer puts the
smallest identifier. -/
theorem parsePair_build_zero {size : ℕ} {vs : List RssSteamId} {r : CString}
    (hnul : NulFree (10 :: (entryLines size 0 (0 :: vs) ++ r))) (st : ParsedDocument) :
    parsePair (34 :: ascii "opt_out_steam_ids" ++ 34 :: 58 :: 32 :: 123 :: 10 ::
      (entryLines size 0 (0 :: vs) ++ r)) st = none := by
  obtain ⟨s, hs⟩ : ∃ s, Ws (10 :: (entryLines size 0 (0 :: vs) ++ r))
      (34 :: numBuf 0 ++ 34 :: s) := by
    rw [entryLines, List.append_assoc, entryLine_append]
    exact ⟨_, ws_blank (t := [10, 32, 32, 32, 32]) (by decide +kernel) _⟩
  have hentries : parseIdEntries (10 :: (entryLines size 0 (0 :: vs) ++ r)) st.ids = none :=
    commaLoop_eq_none (skip_to hnul hs (by decide)) (by simp) (parseIdEntry_zero s st.ids)
  have hquoted := (@parseQuotedString_eq_some_iff
    (34 :: ascii "opt_out_steam_ids" ++ 34 :: 58 :: 32 :: 123 :: 10 ::
      (entryLines size 0 (0 :: vs) ++ r)) _ _).2 ⟨rfl, by decide +kernel⟩
  have hkey : ascii "opt_out_steam_ids" ≠ ascii "version" := by decide
  have hcolon : NulFree (58 :: 32 :: 123 :: 10 :: (entryLines size 0 (0 :: vs) ++ r)) := by
    simpa [NulFree] using hnul
  have hbrace : NulFree (32 :: 123 :: 10 :: (entryLines size 0 (0 :: vs) ++ r)) :=
    hcolon.suffix (List.suffix_cons _ _)
  simp only [parsePair, hquoted, Option.bind_eq_bind, Option.bind_some,
    skip_to hcolon .nil (by decide), consumeChar_eq_some_iff.2 rfl,
    skip_to hbrace (ws_blank (t := [32]) (by decide +kernel) _) (by decide),
    if_neg hkey, if_true, hentries, Option.bind_none, ite_self]

theorem build_eq (optOutIds : Finset RssSteamId) :
    ∃ s₁, buildRssAssetPreferencesJson optOutIds = 123 :: s₁ ∧
      Ws s₁ (34 :: ascii "version" ++ 34 :: 58 :: 32 :: 49 :: 44 :: ([10, 32, 32] ++
        (34 :: ascii "opt_out_steam_ids" ++ 34 :: 58 :: 32 :: 123 :: 10 ::
          (entryLines optOutIds.card 0 (optOutIds.sort (· ≤ ·)) ++ ascii "  \x7d\n\x7d\n")))) := by
  refine ⟨_, ?_, ws_headerComments _⟩
  rw [buildRssAssetPreferencesJson, buildHeader_eq]
  simp only [List.cons_append, List.append_assoc, List.nil_append]

theorem parsePairs_build_eq_none {optOutIds : Finset RssSteamId} (h0 : 0 ∈ optOutIds)
    {s₁ : CString} {st : ParsedDocument} (hst : st.seenVersion = false)
    (hopen : skipWsAndComments (buildRssAssetPreferencesJson optOutIds) = some (123 :: s₁)) :
    parsePairs s₁ st = none := by
  obtain ⟨vs, hvs⟩ := sort_eq_cons_zero h0
  obtain ⟨s₁', htext, hws⟩ := build_eq optOutIds
  have hnul := nulFree_build optOutIds
  rw [htext] at hopen hnul
  obtain rfl : s₁' = s₁ := by simpa using (skip_to hnul .nil (by decide)).symm.trans hopen
  have hs₁ : NulFree s₁' := hnul.suffix (List.suffix_cons _ _)
  rw [hvs] at hws
  generalize hbody : 10 :: (entryLines optOutIds.card 0 (0 :: vs) ++ ascii "  \x7d\n\x7d\n") =
    body at hws
  have hpair := hs₁.suffix hws.suffix
  have hcomma : NulFree (44 :: ([10, 32, 32] ++
      (34 :: ascii "opt_out_steam_ids" ++ 34 :: 58 :: 32 :: 123 :: body))) :=
    hpair.suffix ⟨34 :: ascii "version" ++ [34, 58, 32, 49], by simp⟩
  have hnext := hcomma.suffix (List.suffix_cons _ _)
  have hnul₃ : NulFree body :=
    hnext.suffix ⟨[10, 32, 32] ++ 34 :: ascii "opt_out_steam_ids" ++ [34, 58, 32, 123], by simp⟩
  have hversion := @parsePair_complete _ _ .version st { st with seenVersion := true } hpair
    (.version .nil (ws_blank (t := [32]) (by decide +kernel) _)) (by simp [acceptPair, hst])
    ⟨_, .inl .nil⟩
  rw [parsePairs, commaLoop_cons (skip_to hs₁ hws (by decide)) (by simp) hversion
    (skip_to hcomma .nil (by decide))]
  subst hbody
  exact commaLoop_eq_none (skip_to hnext (ws_blank (by decide +kernel) _) (by decide)) (by simp)
    (parsePair_build_zero hnul₃ _)

/-! ## A cut file -/

/-- A prefix of a document that is accepted gives the result of the document,
whatever either call starts from. No text of the writer can be cut so that
another set is read. -/
theorem truncated_never_different :
    (∀ doc out p out', (parseRssAssetPreferences doc out).1 = true → p <+: doc →
      (parseRssAssetPreferences p out').1 = true →
        (parseRssAssetPreferences p out').2 = (parseRssAssetPreferences doc out).2) ∧
    ∀ optOutIds p out, p <+: buildRssAssetPreferencesJson optOutIds →
      (parseRssAssetPreferences p out).1 = true →
        (parseRssAssetPreferences p out).2 = optOutIds := by
  have haccept {doc : CString} {out : Finset RssSteamId}
      (h : (parseRssAssetPreferences doc out).1 = true) :
      ∃ T, parseDocument doc = some T ∧ (parseRssAssetPreferences doc out).2 = T := by
    cases hparse : parseDocument doc with
    | none => simp [parseRssAssetPreferences, hparse] at h
    | some T => exact ⟨T, rfl, by simp [parseRssAssetPreferences, hparse]⟩
  constructor
  · rintro doc out p out' hdoc ⟨t, rfl⟩ hp
    obtain ⟨T, hT, hresult⟩ := haccept hdoc
    obtain ⟨T', hT', hresult'⟩ := haccept hp
    rw [hresult, hresult']
    exact parseDocument_of_prefix hT hT'
  · rintro optOutIds p out ⟨t, ht⟩ hp
    obtain ⟨T, hT, hresult⟩ := haccept hp
    rw [hresult]
    by_cases h0 : 0 ∈ optOutIds
    · have hnul := nulFree_build optOutIds
      rw [← ht] at hnul
      obtain ⟨s₁, s₂, ids, hopen, hpairs, -⟩ := parsePairs_of_prefix hT hnul
      rw [ht] at hopen
      rw [parsePairs_build_eq_none h0 rfl hopen] at hpairs
      cases hpairs
    · have hbuild := parseDocument_build h0
      rw [← ht] at hbuild
      exact parseDocument_of_prefix hbuild hT

end RssPrefs
end MultiAddonRss
