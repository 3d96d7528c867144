import Mathlib.Data.Finset.Lattice.Lemmas
import Mathlib.Data.List.Nodup
import MultiAddonRss.Preferences.Decimal
import MultiAddonRss.Preferences.Parser
import MultiAddonRss.Preferences.Trivia

/-!
# The grammar of preference documents

The documents are described without the scanner, as relations between a text,
the value at its front and the rest. The two loops of the parser are instances
of the general comma loop, so the parser accepts exactly these documents.
-/

namespace MultiAddonRss
namespace RssPrefs

open Foundations

/-! ## Documents -/

def boolLiteral (value : Bool) : CString := if value then ascii "true" else ascii "false"

/-- One entry of the opt-out object: a quoted identifier, a colon, a boolean. -/
inductive IdEntry : CString → RssSteamId × Bool → CString → Prop
  | mk {digits id value s₁ s₂ r} : IsIdText digits id → Ws s₁ (58 :: s₂) →
      Ws s₂ (boolLiteral value ++ r) → IdEntry (34 :: digits ++ 34 :: s₁) (id, value) r

inductive Pair
  | version
  | optOut (entries : List (RssSteamId × Bool))

/-- The two pairs that may occur: the version number 1 and the opt-out object. -/
inductive Member : CString → Pair → CString → Prop
  | version {s₁ s₂ r} : Ws s₁ (58 :: s₂) → Ws s₂ (49 :: r) →
      Member (34 :: ascii "version" ++ 34 :: s₁) .version r
  | optOut {s₁ s₂ s₃ entries r} : Ws s₁ (58 :: s₂) → Ws s₂ (123 :: s₃) →
      CommaBody Ws IdEntry 44 125 s₃ entries r →
      Member (34 :: ascii "opt_out_steam_ids" ++ 34 :: s₁) (.optOut entries) r

/-- Both pairs occur exactly once, in either order, and only white space and
comments surround the object. -/
def Document (doc : CString) (entries : List (RssSteamId × Bool)) : Prop :=
  ∃ s₁ pairs s₂, Ws doc (123 :: s₁) ∧ CommaBody Ws Member 44 125 s₁ pairs s₂ ∧ Ws s₂ [] ∧
    (pairs = [.version, .optOut entries] ∨ pairs = [.optOut entries, .version])

/-- No two entries have the same numeric value, whatever their booleans. -/
def DistinctIds (entries : List (RssSteamId × Bool)) : Prop := (entries.map Prod.fst).Nodup

def trueIds (entries : List (RssSteamId × Bool)) : Finset RssSteamId :=
  ((entries.filter Prod.snd).map Prod.fst).toFinset

/-! ## Tokens -/

@[simp] theorem consumeChar_eq_some_iff {s r : CString} {c : UInt8} :
    consumeChar s c = some r ↔ s = c :: r := by
  rcases s with _ | ⟨b, s⟩
  · simp [consumeChar]
  · simp only [consumeChar, Option.ite_none_right_eq_some, Option.some.injEq, List.cons.injEq]

theorem quotedLoop_eq_some_iff {s : CString} : ∀ {out content r : CString},
    quotedLoop s out = some (content, r) ↔
      ∃ body, s = body ++ 34 :: r ∧ content = out ++ body ∧ ∀ b ∈ body, b ∉ [0, 92, 34] := by
  induction s with
  | nil => intro out content r; simp [quotedLoop]
  | cons c cs ih =>
    intro out content r
    unfold quotedLoop
    constructor
    · intro h
      split_ifs at h with hnul hescape hquote
      · obtain ⟨rfl, rfl⟩ := by simpa using h
        exact ⟨[], by simp [hquote], by simp, by simp⟩
      · obtain ⟨body, rfl, rfl, hbody⟩ := ih.1 h
        refine ⟨c :: body, rfl, by simp, ?_⟩
        rw [List.forall_mem_cons]
        exact ⟨by simp [hnul, hescape, hquote], hbody⟩
    · rintro ⟨_ | ⟨b, body⟩, heq, rfl, hbody⟩
      · obtain ⟨rfl, rfl⟩ := by simpa using heq
        simp
      · obtain ⟨rfl, rfl⟩ := by simpa using heq
        obtain ⟨hc, hbody⟩ := List.forall_mem_cons.1 hbody
        simp only [List.mem_cons, List.not_mem_nil, or_false, not_or] at hc
        rw [if_neg hc.1, if_neg hc.2.1, if_neg hc.2.2]
        exact ih.2 ⟨body, rfl, by simp, hbody⟩

theorem parseQuotedString_eq_some_iff {s content r : CString} :
    parseQuotedString s = some (content, r) ↔
      s = 34 :: content ++ 34 :: r ∧ ∀ b ∈ content, b ∉ [0, 92, 34] := by
  simp only [parseQuotedString, Option.bind_eq_bind, Option.bind_eq_some_iff,
    consumeChar_eq_some_iff, quotedLoop_eq_some_iff, List.nil_append]
  constructor
  · rintro ⟨s', rfl, body, rfl, rfl, hbody⟩
    exact ⟨rfl, hbody⟩
  · rintro ⟨rfl, hbody⟩
    exact ⟨_, rfl, content, rfl, rfl, hbody⟩

theorem IsIdText.plain {t : CString} {id : RssSteamId} (h : IsIdText t id) :
    ∀ b ∈ t, b ∉ [0, 92, 34] := by
  intro b hb hmem
  obtain ⟨hlo, hhi⟩ := h.2.2.1 b hb
  simp only [List.mem_cons, List.not_mem_nil, or_false] at hmem
  rcases hmem with rfl | rfl | rfl <;> revert hlo hhi <;> decide

theorem atToken_cons {c : UInt8} {s : CString} (h : c ∉ [0, 32, 9, 10, 13, 47]) :
    AtToken (c :: s) := by
  rintro b ⟨⟩
  exact h

theorem atToken_nil : AtToken [] := by
  rintro b ⟨⟩

theorem atToken_boolLiteral (value : Bool) (r : CString) : AtToken (boolLiteral value ++ r) := by
  cases value <;> exact atToken_cons (by decide)

theorem Ws.isTokenDelimiter {s r : CString} {c : UInt8} (h : Ws s (c :: r))
    (hc : c = 44 ∨ c = 125) : isTokenDelimiter s = true := by
  cases h with
  | nil => rcases hc with rfl | rfl <;> rfl
  | char hws _ =>
    simp only [List.mem_cons, List.not_mem_nil, or_false] at hws
    rcases hws with rfl | rfl | rfl | rfl <;> rfl
  | line => rfl
  | block => rfl

theorem isTokenDelimiter_of_follow {r : CString} (h : Follow Ws 44 125 r) :
    isTokenDelimiter r = true := by
  obtain ⟨r', h | h⟩ := h
  · exact h.isTokenDelimiter (.inl rfl)
  · exact h.isTokenDelimiter (.inr rfl)

theorem skip_to {s r : CString} {c : UInt8} (hs : NulFree s) (h : Ws s (c :: r))
    (hc : c ∉ [0, 32, 9, 10, 13, 47]) : skipWsAndComments s = some (c :: r) :=
  skips_ws.complete hs h (atToken_cons hc)

/-! ## Entries and the inner loop -/

def acceptEntry (st : ParsedIds) (e : RssSteamId × Bool) : Option ParsedIds :=
  if e.1 ∈ st.seenIds then none
  else some ⟨if e.2 then insert e.1 st.parsed else st.parsed, insert e.1 st.seenIds⟩

theorem acceptEntry_eq_some_iff {st st' : ParsedIds} {e : RssSteamId × Bool} :
    acceptEntry st e = some st' ↔ e.1 ∉ st.seenIds ∧
      st' = ⟨if e.2 then insert e.1 st.parsed else st.parsed, insert e.1 st.seenIds⟩ := by
  simp only [acceptEntry, Option.ite_none_left_eq_some, Option.some.injEq, eq_comm (b := st')]

theorem IdEntry.tail_suffix {s r : CString} {e : RssSteamId × Bool} (h : IdEntry s e r) :
    r <:+ s ∧ r.length < s.length := by
  obtain @⟨digits, id, value, s₁, s₂, _, -, hcolon, hvalue⟩ := h
  have hr : r <:+ s₁ :=
    ((List.suffix_append _ r).trans hvalue.suffix).trans
      ((List.suffix_cons 58 s₂).trans hcolon.suffix)
  refine ⟨hr.trans ⟨34 :: digits ++ [34], by simp⟩, ?_⟩
  have := hr.length_le
  simp only [List.length_append, List.length_cons]
  omega

theorem parseIdEntry_sound {s r : CString} {st st' : ParsedIds}
    (h : parseIdEntry s st = some (r, st')) :
    ∃ e, IdEntry s e r ∧ acceptEntry st e = some st' := by
  simp only [parseIdEntry, Option.bind_eq_bind, Option.bind_eq_some_iff, Prod.exists,
    parseQuotedString_eq_some_iff, parseDecimalUll_eq_some_iff] at h
  obtain ⟨digits, s₁, ⟨rfl, -⟩, id, hid, h⟩ := h
  split_ifs at h with hseen
  simp only [Option.bind_eq_some_iff, consumeChar_eq_some_iff] at h
  obtain ⟨_, hcolon, s₂, rfl, s₃, hvalue, h⟩ := h
  have hcolon := skips_ws.sound hcolon
  have hvalue := skips_ws.sound hvalue
  split_ifs at h with htrue hfalse
  · obtain ⟨htake, -⟩ := by simpa using htrue
    obtain ⟨rfl, rfl⟩ := by simpa using h
    refine ⟨(id, true), .mk hid hcolon ?_, acceptEntry_eq_some_iff.2 ⟨hseen, rfl⟩⟩
    rwa [boolLiteral, if_pos rfl, ← htake, List.take_append_drop]
  · obtain ⟨htake, -⟩ := by simpa using hfalse
    obtain ⟨rfl, rfl⟩ := by simpa using h
    refine ⟨(id, false), .mk hid hcolon ?_, acceptEntry_eq_some_iff.2 ⟨hseen, rfl⟩⟩
    rwa [boolLiteral, if_neg (by decide), ← htake, List.take_append_drop]

theorem parseIdEntry_complete {s r : CString} {e : RssSteamId × Bool} {st st' : ParsedIds}
    (hs : NulFree s) (h : IdEntry s e r) (hacc : acceptEntry st e = some st')
    (hr : Follow Ws 44 125 r) : parseIdEntry s st = some (r, st') := by
  obtain @⟨digits, id, value, s₁, s₂, _, hid, hcolon, hvalue⟩ := h
  have hs₁ : NulFree s₁ := hs.suffix ⟨34 :: digits ++ [34], by simp⟩
  have hs₂ : NulFree s₂ := hs₁.suffix ((List.suffix_cons 58 s₂).trans hcolon.suffix)
  have hquoted : parseQuotedString (34 :: digits ++ 34 :: s₁) = some (digits, s₁) :=
    parseQuotedString_eq_some_iff.2 ⟨rfl, hid.plain⟩
  have hdelim := isTokenDelimiter_of_follow hr
  have hskip := skips_ws.complete hs₂ hvalue (atToken_boolLiteral value r)
  obtain ⟨hseen, rfl⟩ := acceptEntry_eq_some_iff.1 hacc
  simp only [parseIdEntry, hquoted, parseDecimalUll_eq_some_iff.2 hid, Option.bind_eq_bind,
    Option.bind_some, if_neg hseen, skip_to hs₁ hcolon (by decide),
    consumeChar_eq_some_iff.2 rfl, hskip]
  cases value <;> simp [boolLiteral, ascii, hdelim]

theorem scansItem_idEntry :
    ScansItem parseIdEntry IdEntry acceptEntry NulFree (Follow Ws 44 125) where
  sound _ h := parseIdEntry_sound h
  complete := parseIdEntry_complete
  suffix h := h.tail_suffix.1
  shorter h := h.tail_suffix.2

theorem parseIdEntries_eq_some_iff {s r : CString} {st st' : ParsedIds} (hs : NulFree s) :
    parseIdEntries s st = some (r, st') ↔
      ∃ entries, CommaBody Ws IdEntry 44 125 s entries r ∧
        entries.foldlM acceptEntry st = some st' := by
  refine commaLoop_iff skips_ws scansItem_idEntry NulFree.suffix ?_ ?_ (by decide) hs
    (Nat.lt_succ_self _)
  · intro s
    exact ⟨atToken_cons (by decide), atToken_cons (by decide)⟩
  · rintro s x r ⟨_, _, _⟩
    exact ⟨atToken_cons (by decide), by simp⟩

theorem trueIds_cons (e : RssSteamId × Bool) (entries : List (RssSteamId × Bool)) :
    trueIds (e :: entries) = if e.2 then insert e.1 (trueIds entries) else trueIds entries := by
  rcases e with ⟨id, _ | _⟩ <;> simp [trueIds]

/-- The inner loop accepts the entries with distinct identifiers and collects
those whose value is true. -/
theorem foldlM_acceptEntry_eq_some_iff {entries : List (RssSteamId × Bool)} :
    ∀ {st st' : ParsedIds}, entries.foldlM acceptEntry st = some st' ↔
      DistinctIds entries ∧ (∀ e ∈ entries, e.1 ∉ st.seenIds) ∧
        st' = ⟨st.parsed ∪ trueIds entries, st.seenIds ∪ (entries.map Prod.fst).toFinset⟩ := by
  induction entries with
  | nil =>
    intro st st'
    simp [DistinctIds, trueIds, eq_comm (a := st)]
  | cons e entries ih =>
    intro st st'
    rw [List.foldlM_cons, Option.bind_eq_bind, Option.bind_eq_some_iff]
    have hsets : (⟨(if e.2 then insert e.1 st.parsed else st.parsed) ∪ trueIds entries,
        insert e.1 st.seenIds ∪ (entries.map Prod.fst).toFinset⟩ : ParsedIds) =
        ⟨st.parsed ∪ trueIds (e :: entries),
          st.seenIds ∪ ((e :: entries).map Prod.fst).toFinset⟩ := by
      rw [trueIds_cons]
      congr 1
      · split_ifs <;> simp
      · simp
    constructor
    · rintro ⟨st₁, hacc, hrest⟩
      obtain ⟨hnew, rfl⟩ := acceptEntry_eq_some_iff.1 hacc
      obtain ⟨hdist, hfresh, rfl⟩ := ih.1 hrest
      simp only [Finset.mem_insert, not_or] at hfresh
      refine ⟨?_, ?_, hsets⟩
      · rw [DistinctIds, List.map_cons, List.nodup_cons]
        refine ⟨fun hmem => ?_, hdist⟩
        obtain ⟨e', he', heq⟩ := List.mem_map.1 hmem
        exact (hfresh e' he').1 heq
      · rw [List.forall_mem_cons]
        exact ⟨hnew, fun e' he' => (hfresh e' he').2⟩
    · rintro ⟨hdist, hfresh, rfl⟩
      rw [DistinctIds, List.map_cons, List.nodup_cons] at hdist
      rw [List.forall_mem_cons] at hfresh
      refine ⟨_, acceptEntry_eq_some_iff.2 ⟨hfresh.1, rfl⟩, ih.2 ⟨hdist.2, ?_, hsets.symm⟩⟩
      intro e' he'
      rw [Finset.mem_insert, not_or]
      refine ⟨fun heq => hdist.1 (heq ▸ List.mem_map_of_mem he'), hfresh.2 e' he'⟩

/-! ## Pairs and the outer loop -/

def acceptPair (st : ParsedDocument) : Pair → Option ParsedDocument
  | .version => if st.seenVersion then none else some { st with seenVersion := true }
  | .optOut entries =>
    if st.seenOptOut then none
    else (entries.foldlM acceptEntry st.ids).map fun ids =>
      { st with ids := ids, seenOptOut := true }

theorem Member.tail_suffix {s r : CString} {p : Pair} (h : Member s p r) :
    r <:+ s ∧ r.length < s.length := by
  have hquoted : ∀ {key s₁ : CString}, r <:+ s₁ →
      r <:+ 34 :: key ++ 34 :: s₁ ∧ r.length < (34 :: key ++ 34 :: s₁).length := by
    intro key s₁ hr
    refine ⟨hr.trans ⟨34 :: key ++ [34], by simp⟩, ?_⟩
    have := hr.length_le
    simp only [List.length_append, List.length_cons]
    omega
  cases h with
  | version hcolon hvalue =>
    exact hquoted (((List.suffix_cons _ _).trans hvalue.suffix).trans
      ((List.suffix_cons _ _).trans hcolon.suffix))
  | optOut hcolon hbrace hbody =>
    have hr := hbody.suffix Ws.suffix fun h => h.tail_suffix.1
    exact hquoted ((hr.trans ((List.suffix_cons _ _).trans hbrace.suffix)).trans
      ((List.suffix_cons _ _).trans hcolon.suffix))

theorem parsePair_sound {s r : CString} {st st' : ParsedDocument} (hs : NulFree s)
    (h : parsePair s st = some (r, st')) :
    ∃ p, Member s p r ∧ acceptPair st p = some st' := by
  simp only [parsePair, Option.bind_eq_bind, Option.bind_eq_some_iff, Prod.exists,
    parseQuotedString_eq_some_iff, consumeChar_eq_some_iff] at h
  obtain ⟨key, s₁, ⟨rfl, -⟩, _, hcolon, s₂, rfl, s₃, hvalue, h⟩ := h
  have hcolon := skips_ws.sound hcolon
  have hvalue := skips_ws.sound hvalue
  split_ifs at h with hversion hseen hoptOut hseen
  · simp only [Option.bind_eq_some_iff, consumeChar_eq_some_iff] at h
    obtain ⟨s₄, rfl, h⟩ := h
    split_ifs at h
    obtain ⟨rfl, rfl⟩ := by simpa using h
    subst hversion
    exact ⟨.version, .version hcolon hvalue, by simp [acceptPair, hseen]⟩
  · simp only [Option.bind_eq_some_iff, consumeChar_eq_some_iff, Prod.exists] at h
    obtain ⟨s₄, rfl, r', ids, hbody, h⟩ := h
    obtain ⟨rfl, rfl⟩ := by simpa using h
    subst hoptOut
    have hs₄ : NulFree s₄ := ((hs.suffix ⟨34 :: ascii "opt_out_steam_ids" ++ [34], by simp⟩ :
        NulFree s₁).suffix
      ((List.suffix_cons _ _).trans hcolon.suffix)).suffix
        ((List.suffix_cons _ _).trans hvalue.suffix)
    obtain ⟨entries, hbody, hfold⟩ := (parseIdEntries_eq_some_iff hs₄).1 hbody
    exact ⟨.optOut entries, .optOut hcolon hvalue hbody, by simp [acceptPair, hseen, hfold]⟩

theorem parsePair_complete {s r : CString} {p : Pair} {st st' : ParsedDocument}
    (hs : NulFree s) (h : Member s p r) (hacc : acceptPair st p = some st')
    (hr : Follow Ws 44 125 r) : parsePair s st = some (r, st') := by
  cases h with
  | @version s₁ s₂ r hcolon hvalue =>
    have hs₁ : NulFree s₁ := hs.suffix ⟨34 :: ascii "version" ++ [34], by simp⟩
    have hs₂ : NulFree s₂ := hs₁.suffix ((List.suffix_cons 58 s₂).trans hcolon.suffix)
    have hquoted : parseQuotedString (34 :: ascii "version" ++ 34 :: s₁) =
        some (ascii "version", s₁) :=
      parseQuotedString_eq_some_iff.2 ⟨rfl, by decide +kernel⟩
    obtain ⟨hseen, rfl⟩ : st.seenVersion = false ∧ _ = st' := by
      simpa [acceptPair] using hacc
    simp only [parsePair, hquoted, Option.bind_eq_bind, Option.bind_some,
      skip_to hs₁ hcolon (by decide), consumeChar_eq_some_iff.2 rfl,
      skip_to hs₂ hvalue (by decide)]
    simp [hseen, isTokenDelimiter_of_follow hr]
  | @optOut s₁ s₂ s₃ entries r hcolon hbrace hbody =>
    have hs₁ : NulFree s₁ := hs.suffix ⟨34 :: ascii "opt_out_steam_ids" ++ [34], by simp⟩
    have hs₂ : NulFree s₂ := hs₁.suffix ((List.suffix_cons 58 s₂).trans hcolon.suffix)
    have hs₃ : NulFree s₃ := hs₂.suffix ((List.suffix_cons 123 s₃).trans hbrace.suffix)
    have hquoted : parseQuotedString (34 :: ascii "opt_out_steam_ids" ++ 34 :: s₁) =
        some (ascii "opt_out_steam_ids", s₁) :=
      parseQuotedString_eq_some_iff.2 ⟨rfl, by decide +kernel⟩
    obtain ⟨hseen, ids, hfold, rfl⟩ :
        st.seenOptOut = false ∧ ∃ ids, entries.foldlM acceptEntry st.ids = some ids ∧
          _ = st' := by
      simpa [acceptPair] using hacc
    have hentries := (parseIdEntries_eq_some_iff hs₃).2 ⟨entries, hbody, hfold⟩
    have hkey : ascii "opt_out_steam_ids" ≠ ascii "version" := by decide
    simp only [parsePair, hquoted, Option.bind_eq_bind, Option.bind_some,
      skip_to hs₁ hcolon (by decide), consumeChar_eq_some_iff.2 rfl,
      skip_to hs₂ hbrace (by decide), if_neg hkey, hentries]
    simp [hseen]

theorem scansItem_pair :
    ScansItem parsePair Member acceptPair NulFree (Follow Ws 44 125) where
  sound := parsePair_sound
  complete := parsePair_complete
  suffix h := h.tail_suffix.1
  shorter h := h.tail_suffix.2

theorem parsePairs_eq_some_iff {s r : CString} {st st' : ParsedDocument} (hs : NulFree s) :
    parsePairs s st = some (r, st') ↔
      ∃ pairs, CommaBody Ws Member 44 125 s pairs r ∧ pairs.foldlM acceptPair st = some st' := by
  refine commaLoop_iff skips_ws scansItem_pair NulFree.suffix ?_ ?_ (by decide) hs
    (Nat.lt_succ_self _)
  · intro s
    exact ⟨atToken_cons (by decide), atToken_cons (by decide)⟩
  · rintro s x r (⟨_, _⟩ | ⟨_, _, _⟩)
    · exact ⟨atToken_cons (by decide), by simp⟩
    · exact ⟨atToken_cons (by decide), by simp⟩

theorem acceptPair_eq_some_iff {st st' : ParsedDocument} {p : Pair} :
    acceptPair st p = some st' ↔
      (p = .version ∧ st.seenVersion = false ∧ st' = { st with seenVersion := true }) ∨
      ∃ entries ids, p = .optOut entries ∧ st.seenOptOut = false ∧
        entries.foldlM acceptEntry st.ids = some ids ∧
          st' = { st with ids := ids, seenOptOut := true } := by
  cases p with
  | version => simp [acceptPair, eq_comm (b := st')]
  | optOut entries => simp [acceptPair, eq_comm (b := st')]

theorem foldlM_acceptPair_of_complete {pairs : List Pair} {ids : ParsedIds}
    {st : ParsedDocument} :
    pairs.foldlM acceptPair ⟨ids, true, true⟩ = some st ↔ pairs = [] ∧ st = ⟨ids, true, true⟩ := by
  rcases pairs with _ | ⟨p, pairs⟩
  · simp [eq_comm]
  · cases p <;> simp [acceptPair]

theorem foldlM_acceptPair_complete_iff {pairs : List Pair} {st : ParsedDocument} :
    pairs.foldlM acceptPair {} = some st ∧ st.seenVersion = true ∧ st.seenOptOut = true ↔
      ∃ entries ids, (pairs = [.version, .optOut entries] ∨ pairs = [.optOut entries, .version]) ∧
        entries.foldlM acceptEntry {} = some ids ∧ st = ⟨ids, true, true⟩ := by
  constructor
  · rintro ⟨hfold, hversion, hoptOut⟩
    rcases pairs with _ | ⟨p, _ | ⟨q, pairs⟩⟩
    · obtain rfl : {} = st := by simpa using hfold
      simp at hversion
    · rw [List.foldlM_cons, Option.bind_eq_bind, Option.bind_eq_some_iff] at hfold
      obtain ⟨st₁, hp, hfold⟩ := hfold
      obtain rfl : st₁ = st := by simpa using hfold
      rcases acceptPair_eq_some_iff.1 hp with ⟨-, -, rfl⟩ | ⟨_, _, -, -, -, rfl⟩
      · simp at hoptOut
      · simp at hversion
    · simp only [List.foldlM_cons, Option.bind_eq_bind, Option.bind_eq_some_iff] at hfold
      obtain ⟨st₁, hp, st₂, hq, hfold⟩ := hfold
      rcases acceptPair_eq_some_iff.1 hp with ⟨rfl, -, rfl⟩ | ⟨entries, ids, rfl, -, hids, rfl⟩
      · rcases acceptPair_eq_some_iff.1 hq with ⟨-, h, -⟩ | ⟨entries, ids, rfl, -, hids, rfl⟩
        · simp at h
        · obtain ⟨rfl, rfl⟩ := foldlM_acceptPair_of_complete.1 hfold
          exact ⟨entries, ids, .inl rfl, hids, rfl⟩
      · rcases acceptPair_eq_some_iff.1 hq with ⟨rfl, -, rfl⟩ | ⟨_, _, -, h, -, -⟩
        · obtain ⟨rfl, rfl⟩ := foldlM_acceptPair_of_complete.1 hfold
          exact ⟨entries, ids, .inr rfl, hids, rfl⟩
        · simp at h
  · rintro ⟨entries, ids, rfl | rfl, hids, rfl⟩ <;> simp [acceptPair, hids]

/-! ## The whole document -/

theorem parseDocument_eq_some_iff {doc : CString} {T : Finset RssSteamId} :
    parseDocument doc = some T ↔
      NulFree doc ∧
        ∃ entries, Document doc entries ∧ DistinctIds entries ∧ T = trueIds entries := by
  by_cases hnul : NulFree doc
  · have hany : doc.any (· = 0) = false := by
      refine List.any_eq_false.2 fun c hc => ?_
      simpa using fun h0 : c = 0 => hnul (h0 ▸ hc)
    simp only [parseDocument, hany, Bool.false_eq_true, if_false, Option.bind_eq_bind,
      Option.bind_eq_some_iff, consumeChar_eq_some_iff, Prod.exists, hnul, true_and]
    constructor
    · rintro ⟨_, hopen, s₁, rfl, s₂, st, hpairs, h⟩
      have hopen := skips_ws.sound hopen
      have hs₁ : NulFree s₁ := hnul.suffix ((List.suffix_cons 123 s₁).trans hopen.suffix)
      obtain ⟨pairs, hbody, hfold⟩ := (parsePairs_eq_some_iff hs₁).1 hpairs
      split_ifs at h with hflags
      simp only [Option.bind_eq_some_iff] at h
      obtain ⟨s₃, hend, h⟩ := h
      split_ifs at h with hrest
      obtain rfl : s₃ = [] := not_not.1 hrest
      have hboth : st.seenVersion = true ∧ st.seenOptOut = true := by simpa using hflags
      obtain ⟨entries, ids, hshape, hids, rfl⟩ :=
        foldlM_acceptPair_complete_iff.1 ⟨hfold, hboth⟩
      obtain ⟨hdist, -, rfl⟩ := foldlM_acceptEntry_eq_some_iff.1 hids
      obtain rfl : _ = T := by simpa using h
      exact ⟨entries, ⟨s₁, pairs, s₂, hopen, hbody, skips_ws.sound hend, hshape⟩, hdist, by simp⟩
    · rintro ⟨entries, ⟨s₁, pairs, s₂, hopen, hbody, hend, hpairs⟩, hdist, rfl⟩
      have hs₁ : NulFree s₁ := hnul.suffix ((List.suffix_cons 123 s₁).trans hopen.suffix)
      have hs₂ : NulFree s₂ := hs₁.suffix (hbody.suffix Ws.suffix fun h => h.tail_suffix.1)
      have hids := (@foldlM_acceptEntry_eq_some_iff entries {} _).2 ⟨hdist, by simp, rfl⟩
      have hfold := (foldlM_acceptPair_complete_iff.2 ⟨entries, _, hpairs, hids, rfl⟩).1
      refine ⟨_, skip_to hnul hopen (by decide), s₁, rfl, s₂, _,
        (parsePairs_eq_some_iff hs₁).2 ⟨pairs, hbody, hfold⟩, ?_⟩
      simp [skips_ws.complete hs₂ hend atToken_nil]
  · have hany : doc.any (· = 0) = true := by simpa [NulFree] using hnul
    simp [parseDocument, hany, hnul]

theorem Document.id_ne_zero {doc : CString} {entries : List (RssSteamId × Bool)}
    (h : Document doc entries) : ∀ e ∈ entries, e.1 ≠ 0 := by
  obtain ⟨s₁, pairs, s₂, -, hbody, -, hpairs⟩ := h
  have hmember := hbody.forall_mem (P := fun p => ∀ es, p = .optOut es → ∀ e ∈ es, e.1 ≠ 0) <| by
    rintro s p r (_ | ⟨_, _, hentries⟩) es hes
    · cases hes
    · cases hes
      refine hentries.forall_mem ?_
      rintro s e r ⟨⟨-, -, -, -, hid⟩, -, -⟩
      exact hid
  refine hmember (.optOut entries) ?_ entries rfl
  rcases hpairs with rfl | rfl <;> simp

theorem zero_notMem_of_parseDocument {doc : CString} {T : Finset RssSteamId}
    (h : parseDocument doc = some T) : 0 ∉ T := by
  obtain ⟨-, entries, hdoc, -, rfl⟩ := parseDocument_eq_some_iff.1 h
  intro h0
  simp only [trueIds, List.mem_toFinset, List.mem_map, List.mem_filter] at h0
  obtain ⟨e, ⟨he, -⟩, hzero⟩ := h0
  exact hdoc.id_ne_zero e he hzero

/-- Acceptance is membership in the grammar, the published set is the set of
identifiers with value true, and a refused document leaves `out` as it was. -/
theorem parseRssAssetPreferences_grammar (doc : CString) (out : Finset RssSteamId) :
    ((parseRssAssetPreferences doc out).1 = true ↔
        0 ∉ doc ∧ ∃ entries, Document doc entries ∧ DistinctIds entries) ∧
      (∀ entries, 0 ∉ doc → Document doc entries → DistinctIds entries →
        (parseRssAssetPreferences doc out).2 = trueIds entries) ∧
      ((parseRssAssetPreferences doc out).1 = false →
        (parseRssAssetPreferences doc out).2 = out) := by
  have haccept : ∀ {T}, parseDocument doc = some T →
      parseRssAssetPreferences doc out = (true, T) := by
    intro T h
    simp [parseRssAssetPreferences, h]
  have hderive : ∀ {entries}, 0 ∉ doc → Document doc entries → DistinctIds entries →
      parseRssAssetPreferences doc out = (true, trueIds entries) :=
    fun h0 hdoc hdist => haccept (parseDocument_eq_some_iff.2 ⟨h0, _, hdoc, hdist, rfl⟩)
  refine ⟨⟨fun h => ?_, ?_⟩, fun entries h0 hdoc hdist => by rw [hderive h0 hdoc hdist], ?_⟩
  · cases hparse : parseDocument doc with
    | none => simp [parseRssAssetPreferences, hparse] at h
    | some T =>
      obtain ⟨h0, entries, hdoc, hdist, -⟩ := parseDocument_eq_some_iff.1 hparse
      exact ⟨h0, entries, hdoc, hdist⟩
  · rintro ⟨h0, entries, hdoc, hdist⟩
    rw [hderive h0 hdoc hdist]
  · intro h
    cases hparse : parseDocument doc with
    | none => simp [parseRssAssetPreferences, hparse]
    | some T => simp [haccept hparse] at h

end RssPrefs
end MultiAddonRss
