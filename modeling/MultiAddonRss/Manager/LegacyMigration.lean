import Mathlib.Data.List.TakeWhile
import MultiAddonRss.Foundations.Lines
import MultiAddonRss.Manager.Preferences

/-!
# The migration of the legacy list

`LoadRssAssetOptOutClients` reads the legacy file through a buffer of 64 bytes and
makes a string of each piece, so the strict collector sees the lines of the file only
if they fit and contain no NUL.
-/

namespace MultiAddonRss

open Foundations RssPrefs

/-! ## The collector -/

/-- The lines hold the identifiers, each one followed by nothing but CR and LF, and
no identifier is repeated. -/
def HoldIds (lines : List CString) (ids : List RssSteamId) : Prop :=
  List.Forall₂ (fun line id => IsIdText (stripLineEnd line) id) lines ids ∧ ids.Nodup

def WellFormedLines (lines : List CString) : Prop :=
  ∃ ids, HoldIds lines ids

theorem collectLegacyLines_cons (line : CString) (lines : List CString)
    (parsed : Finset RssSteamId) :
    collectLegacyLines (line :: lines) parsed =
      (parseDecimalUll (stripLineEnd line)).bind fun id =>
        if id ∈ parsed then none else collectLegacyLines lines (insert id parsed) := by
  have hnil : parseDecimalUll [] = none := by decide
  simp only [collectLegacyLines]
  split_ifs with hline hdigits
  · rw [hline]
    rfl
  · rw [hdigits, hnil]
    rfl
  · cases parseDecimalUll (stripLineEnd line) <;> rfl

/-- The collector accepts the well-formed lists, and collects their identifiers. -/
theorem collectLegacyLines_eq_some_iff {lines : List CString} :
    ∀ {parsed result : Finset RssSteamId}, collectLegacyLines lines parsed = some result ↔
      ∃ ids, HoldIds lines ids ∧ (∀ id ∈ ids, id ∉ parsed) ∧ result = parsed ∪ ids.toFinset := by
  induction lines with
  | nil =>
    intro parsed result
    simp [collectLegacyLines, HoldIds, eq_comm (a := parsed)]
  | cons line lines ih =>
    intro parsed result
    simp only [collectLegacyLines_cons, Option.bind_eq_some_iff, parseDecimalUll_eq_some_iff,
      Option.ite_none_left_eq_some, ih, Finset.mem_insert, not_or]
    constructor
    · rintro ⟨id, hid, hnew, ids, ⟨hlines, hnodup⟩, hfresh, rfl⟩
      refine ⟨id :: ids, ⟨.cons hid hlines, ?_⟩, ?_, ?_⟩
      · exact List.nodup_cons.2 ⟨fun hmem => (hfresh id hmem).1 rfl, hnodup⟩
      · exact List.forall_mem_cons.2 ⟨hnew, fun id' hmem => (hfresh id' hmem).2⟩
      · simp
    · rintro ⟨_, ⟨hlines, hnodup⟩, hfresh, rfl⟩
      obtain @⟨-, -⟩ | @⟨_, id, _, ids, hid, hlines⟩ := hlines
      obtain ⟨hnot, hnodup⟩ := List.nodup_cons.1 hnodup
      obtain ⟨hnew, hfresh⟩ := List.forall_mem_cons.1 hfresh
      refine ⟨id, hid, hnew, ids, ⟨hlines, hnodup⟩, fun id' hmem => ⟨?_, hfresh id' hmem⟩, ?_⟩
      · rintro rfl
        exact hnot hmem
      · simp

theorem HoldIds.isIdText {lines : List CString} {ids : List RssSteamId} (h : HoldIds lines ids) :
    ∀ line ∈ lines, ∃ id, IsIdText (stripLineEnd line) id := by
  obtain ⟨hlines, -⟩ := h
  induction hlines with
  | nil => simp
  | cons hid _ ih => exact List.forall_mem_cons.2 ⟨⟨_, hid⟩, ih⟩

theorem HoldIds.collectLegacyLines {lines : List CString} {ids : List RssSteamId}
    (h : HoldIds lines ids) : collectLegacyLines lines ∅ = some ids.toFinset :=
  collectLegacyLines_eq_some_iff.2 ⟨ids, h, by simp, by simp⟩

theorem isSome_collectLegacyLines_iff {lines : List CString} :
    (collectLegacyLines lines ∅).isSome = true ↔ WellFormedLines lines := by
  rw [Option.isSome_iff_exists]
  constructor
  · rintro ⟨result, hresult⟩
    obtain ⟨ids, hids, -⟩ := collectLegacyLines_eq_some_iff.1 hresult
    exact ⟨ids, hids⟩
  · rintro ⟨ids, hids⟩
    exact ⟨_, hids.collectLegacyLines⟩

/-! ## Stripped lines -/

theorem stripLineEnd_eq_nil {line : CString} (hline : ∀ c ∈ line, c = 10 ∨ c = 13) :
    stripLineEnd line = [] := by
  rw [stripLineEnd, List.reverse_eq_nil_iff, List.dropWhile_eq_nil_iff]
  simpa using hline

theorem exists_lineEnd (line : CString) :
    ∃ lineEnd, line = stripLineEnd line ++ lineEnd ∧ ∀ c ∈ lineEnd, c = 10 ∨ c = 13 := by
  refine ⟨(line.reverse.takeWhile fun c => c = 10 || c = 13).reverse, ?_, fun c hc => ?_⟩
  · rw [stripLineEnd, ← List.reverse_append, List.takeWhile_append_dropWhile, List.reverse_reverse]
  · simpa using List.mem_takeWhile_imp (List.mem_reverse.1 hc)

theorem notMem_zero_of_isIdText {line : CString} {id : RssSteamId}
    (hid : IsIdText (stripLineEnd line) id) : 0 ∉ line := by
  obtain ⟨lineEnd, hline, hend⟩ := exists_lineEnd line
  rw [hline, List.mem_append]
  rintro (hdigit | h0)
  · exact absurd (hid.2.2.1 0 hdigit) (by decide)
  · exact absurd (hend 0 h0) (by decide)

/-- Behind its first 63 bytes, a line that holds an identifier has only CR and LF. -/
theorem lineEnd_of_isIdText {line : CString} {id : RssSteamId}
    (hid : IsIdText (stripLineEnd line) id) : ∀ c ∈ line.drop 63, c = 10 ∨ c = 13 := by
  obtain ⟨lineEnd, hline, hend⟩ := exists_lineEnd line
  have hlength : (stripLineEnd line).length ≤ 63 := hid.2.1.trans (by omega)
  rw [hline, List.drop_append, List.drop_eq_nil_of_le hlength, List.nil_append]
  exact fun c hc => hend c (List.mem_of_mem_drop hc)

/-! ## The buffer -/

theorem readLine_eq (room : ℕ) : ∀ text, readLine room text = readUpTo 10 room text := by
  induction room with
  | zero => exact fun _ => rfl
  | succ room ih => rintro (_ | ⟨c, text⟩) <;> simp [readLine, readUpTo, ih]

theorem readLines_append {line rest : CString} (hline : IsLine 10 line rest) (fuel : ℕ) :
    readLines (fuel + 1) (line ++ rest) =
      if line.length ≤ 63 then line.takeWhile (· ≠ 0) :: readLines fuel rest
      else (line.take 63).takeWhile (· ≠ 0) :: readLines fuel (line.drop 63 ++ rest) := by
  obtain ⟨c, text, htext⟩ := List.exists_cons_of_ne_nil
    (List.append_ne_nil_of_left_ne_nil hline.ne_nil rest)
  rw [htext, readLines, ← htext, readLine_eq, readUpTo_append hline]
  · split_ifs <;> rfl
  · simp

/-- The strings that the collector gets for a file: each line is cut into parts of 63
bytes, and a part ends at its first NUL. -/
def legacyPieces (content : CString) : List CString :=
  (splitLines 10 content).flatMap fun line => (cutInto 63 line).map (List.takeWhile (· ≠ 0))

theorem legacyPieces_append {line rest : CString} (hline : IsLine 10 line rest) :
    legacyPieces (line ++ rest) =
      (cutInto 63 line).map (List.takeWhile (· ≠ 0)) ++ legacyPieces rest := by
  rw [legacyPieces, splitLines_append hline, List.flatMap_cons, legacyPieces]

theorem readLines_eq (fuel : ℕ) : ∀ text, text.length < fuel →
    readLines fuel text = legacyPieces text := by
  induction fuel with
  | zero => simp
  | succ fuel ih =>
    intro text hfuel
    by_cases htext : text = []
    · simp [htext, readLines, legacyPieces, splitLines]
    obtain ⟨line, rest, rfl, hline⟩ := exists_isLine 10 htext
    have hpos := List.length_pos_of_ne_nil hline.ne_nil
    rw [List.length_append] at hfuel
    rw [readLines_append hline, legacyPieces_append hline]
    split_ifs with hshort
    · rw [cutInto_of_length_le hshort, ih rest (by omega)]
      rfl
    · -- the rest of the line is a line of the text that is left
      have hlong := not_le.1 hshort
      have hlength : (line.drop 63 ++ rest).length < fuel := by
        rw [List.length_append, List.length_drop]
        omega
      rw [cutInto_of_lt (by omega) hlong, ih _ hlength, legacyPieces_append (hline.drop hlong)]
      rfl

theorem legacyPieces_of_fit {content : CString}
    (hfit : ∀ line ∈ splitLines 10 content, line.length ≤ 63 ∧ 0 ∉ line) :
    legacyPieces content = splitLines 10 content := by
  have hpieces : ∀ line ∈ splitLines 10 content,
      (cutInto 63 line).map (List.takeWhile (· ≠ 0)) = [line] := by
    intro line hline
    obtain ⟨hshort, hnul⟩ := hfit line hline
    rw [cutInto_of_length_le hshort, List.map_singleton, takeWhile_ne_zero hnul]
  rw [legacyPieces, List.flatMap_congr hpieces, List.flatMap_singleton']

/-- A line that holds an identifier and does not fit leaves a piece without any digit. -/
theorem exists_blank_piece {content line : CString} {id : RssSteamId}
    (hline : line ∈ splitLines 10 content) (hid : IsIdText (stripLineEnd line) id)
    (hlong : 63 < line.length) : ∃ piece ∈ legacyPieces content, stripLineEnd piece = [] := by
  obtain ⟨part, hpart, hsubset⟩ := exists_mem_cutInto 63 (line.drop 63)
  have hmem : part ∈ cutInto 63 line := by
    rw [cutInto_of_lt (by omega) hlong]
    exact List.mem_cons_of_mem _ hpart
  refine ⟨part.takeWhile (· ≠ 0), List.mem_flatMap.2 ⟨line, hline, List.mem_map_of_mem hmem⟩, ?_⟩
  apply stripLineEnd_eq_nil
  intro c hc
  exact lineEnd_of_isIdText hid c (hsubset ((List.takeWhile_prefix _).subset hc))

/-! ## Loading -/

namespace MultiAddonManager

def MigratesWellFormed (m : MultiAddonManager) (content : CString) : Prop :=
  let m' := m.loadRssAssetOptOutClients {}
  let lines := splitLines 10 content
  (m'.rssAssetPreferencesWritable = true ↔ WellFormedLines lines) ∧
    (∀ ids, HoldIds lines ids → m'.rssAssetOptOutClients = ids.toFinset) ∧
    (¬ WellFormedLines lines →
      m'.rssAssetOptOutClients = ∅ ∧ m'.rssAssetPreferencesWritable = false)

theorem loadRssAssetOptOutClients_legacy (m : MultiAddonManager) (content : CString)
    (temp : Option CString) :
    let m' := { m with files := ⟨none, some content, temp⟩ }.loadRssAssetOptOutClients {}
    m'.rssAssetOptOutClients = (collectLegacyLines (legacyPieces content) ∅).getD ∅ ∧
      m'.rssAssetPreferencesWritable =
        (collectLegacyLines (legacyPieces content) ∅).isSome := by
  have hlegacy : collectLegacyOptOutIds (transferred none (readLines (content.length + 1) content))
      true = collectLegacyLines (legacyPieces content) ∅ := by
    rw [readLines_eq _ content (Nat.lt_succ_self _)]
    rfl
  simp only [loadRssAssetOptOutClients, loadLegacyFile, Bool.not_true, Bool.false_eq_true,
    if_false, hlegacy]
  cases collectLegacyLines (legacyPieces content) ∅ with
  | none => exact ⟨rfl, rfl⟩
  | some parsed => simp [saveRssAssetOptOutClientsLocked, transferred]

theorem not_wellFormedLines_legacyPieces {content : CString}
    (hlines : WellFormedLines (splitLines 10 content))
    (hfit : ¬ ∀ line ∈ splitLines 10 content, line.length ≤ 63 ∧ 0 ∉ line) :
    ¬ WellFormedLines (legacyPieces content) := by
  obtain ⟨ids, hids⟩ := hlines
  push Not at hfit
  obtain ⟨line, hline, hbad⟩ := hfit
  obtain ⟨id, hid⟩ := hids.isIdText line hline
  have hlong : 63 < line.length := by
    by_contra hshort
    exact notMem_zero_of_isIdText hid (hbad (not_lt.1 hshort))
  obtain ⟨piece, hpiece, hnil⟩ := exists_blank_piece hline hid hlong
  rintro ⟨ids', hids'⟩
  obtain ⟨id, hpos, -⟩ := hids'.isIdText piece hpiece
  simp [hnil] at hpos

/-- The load publishes exactly the well-formed lists if all lines fit into the buffer
and hold no NUL, and otherwise where neither the lines nor the pieces that they are
cut into are well formed. -/
theorem migrates_wellFormed_iff (m : MultiAddonManager) (content : CString)
    (temp : Option CString) :
    MigratesWellFormed { m with files := ⟨none, some content, temp⟩ } content ↔
      (∀ line ∈ splitLines 10 content, line.length ≤ 63 ∧ 0 ∉ line) ∨
        ¬ WellFormedLines (splitLines 10 content) ∧
          ¬ WellFormedLines (legacyPieces content) := by
  obtain ⟨hclients, hwritable⟩ := m.loadRssAssetOptOutClients_legacy content temp
  simp only [MigratesWellFormed, hclients, hwritable, isSome_collectLegacyLines_iff]
  have hnone {lines : List CString} (hnot : ¬ WellFormedLines lines) :
      collectLegacyLines lines ∅ = none := by
    rwa [← isSome_collectLegacyLines_iff, Bool.not_eq_true, Option.isSome_eq_false_iff,
      Option.isNone_iff_eq_none] at hnot
  by_cases hfit : ∀ line ∈ splitLines 10 content, line.length ≤ 63 ∧ 0 ∉ line
  · rw [legacyPieces_of_fit hfit]
    refine iff_of_true ⟨Iff.rfl, fun ids hids => ?_, fun hnot => ?_⟩ (.inl hfit)
    · simp [hids.collectLegacyLines]
    · simp [hnone hnot]
  rw [or_iff_right hfit]
  by_cases hlines : WellFormedLines (splitLines 10 content)
  · have hpieces : ¬ WellFormedLines (legacyPieces content) :=
      not_wellFormedLines_legacyPieces hlines hfit
    exact iff_of_false (fun hmigrates => hpieces (hmigrates.1.2 hlines)) fun hnot => hnot.1 hlines
  · constructor
    · exact fun hmigrates => ⟨hlines, fun hpieces => hlines (hmigrates.1.1 hpieces)⟩
    · rintro ⟨-, hpieces⟩
      refine ⟨iff_of_false hpieces hlines, fun ids hids => absurd ⟨ids, hids⟩ hlines, ?_⟩
      simp [hnone hpieces]

/-- The line holds 123, a NUL and an x; the set {123} is published. -/
theorem line_with_nul_migrates :
    let content := ascii "123" ++ [0] ++ ascii "x\n"
    ¬ MigratesWellFormed { files := ⟨none, some content, none⟩ } content := by
  intro content hmigrates
  have hwritable : (MultiAddonManager.loadRssAssetOptOutClients
      { files := ⟨none, some content, none⟩ } {}).rssAssetPreferencesWritable = true := by
    decide +kernel
  obtain ⟨ids, hids⟩ := hmigrates.1.1 hwritable
  have hlines : splitLines 10 content = [content] := by decide +kernel
  obtain ⟨id, hid⟩ := hids.isIdText content (by simp [hlines])
  exact notMem_zero_of_isIdText hid (by decide +kernel)

end MultiAddonManager
end MultiAddonRss
