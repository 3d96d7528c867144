import MultiAddonRss.Foundations.InputStream
import MultiAddonRss.Strings

/-!
# The configuration file

`ParseCfg` hands the lines of the file to the server as commands. A line may end with
LF or with CR and LF, the last one need not end at all, and empty lines are skipped.
-/

namespace MultiAddonRss

open Foundations

/-- The body of the loop: the command of a line, which ends at its first NUL. -/
def executeLine (commands : List CString) (strCommand : CString) : List CString :=
  let strCommand :=
    if !strCommand.isEmpty && strCommand.getLast? = some 13 then strCommand.dropLast
    else strCommand
  if !strCommand.isEmpty then commands ++ [strCommand.takeWhile (· ≠ 0)] else commands

/-- The commands that reach the server. The file may be missing. -/
def parseCfg (cfgFile : Option CString) : List CString :=
  match cfgFile with
  | none => []
  | some text => ({ rest := text } : InputStream UInt8).whileRead 10 executeLine []

/-- A line of a file with the bytes that end it. A CR before a lone LF is not part of
the text. -/
structure CfgLine where
  text : CString
  crlf : Bool
  lf_notMem : 10 ∉ text
  cr_notLast : crlf = false → text.getLast? ≠ some 13

def CfgLine.bytes (line : CfgLine) : CString :=
  line.text ++ if line.crlf then [13, 10] else [10]

def commandOf (text : CString) : List CString :=
  if text.isEmpty then [] else [text.takeWhile (· ≠ 0)]

theorem executeLine_text (commands : List CString) {text : CString}
    (hcr : text.getLast? ≠ some 13) :
    executeLine commands text = commands ++ commandOf text := by
  unfold executeLine commandOf
  cases text with
  | nil => simp
  | cons c text => simp [hcr]

theorem executeLine_concat_cr (commands : List CString) (text : CString) :
    executeLine commands (text ++ [13]) = commands ++ commandOf text := by
  have hlast : (text ++ [13]).getLast? = some 13 := by simp
  unfold executeLine commandOf
  rw [hlast, List.dropLast_concat]
  cases text with
  | nil => simp
  | cons c text => simp

theorem executeLine_bytes (commands : List CString) (line : CfgLine) :
    executeLine commands (line.bytes.takeWhile (· ≠ 10)) = commands ++ commandOf line.text := by
  obtain ⟨text, crlf, hlf, hcr⟩ := line
  have hall : ∀ c ∈ text, decide (c ≠ 10) = true := by
    intro c hc
    simpa using ne_of_mem_of_not_mem hc hlf
  cases crlf with
  | false =>
    have hread : (text ++ [10]).takeWhile (· ≠ 10) = text := by
      rw [List.takeWhile_append_of_pos hall]
      simp
    simp only [CfgLine.bytes, Bool.false_eq_true, if_false, hread]
    exact executeLine_text commands (hcr rfl)
  | true =>
    have hread : (text ++ [13, 10]).takeWhile (· ≠ 10) = text ++ [13] := by
      rw [List.takeWhile_append_of_pos hall]
      rfl
    simp only [CfgLine.bytes, if_true, hread]
    exact executeLine_concat_cr commands text

theorem isLine_bytes (line : CfgLine) (rest : CString) : IsLine 10 line.bytes rest := by
  obtain ⟨text, crlf, hlf, hcr⟩ := line
  cases crlf with
  | false => exact isLine_concat rest hlf
  | true =>
    have hline : IsLine 10 (text ++ [13] ++ [10]) rest := isLine_concat rest (by simp [hlf])
    simpa [CfgLine.bytes] using hline

theorem parseCfg_lines (lines : List CfgLine) (last : CString) (commands : List CString) :
    ((splitLines 10 (lines.flatMap CfgLine.bytes ++ last)).map
        fun line => line.takeWhile (· ≠ 10)).foldl executeLine commands =
      ((splitLines 10 last).map fun line => line.takeWhile (· ≠ 10)).foldl executeLine
        (commands ++ lines.flatMap fun line => commandOf line.text) := by
  induction lines generalizing commands with
  | nil => simp
  | cons line lines ih =>
    rw [List.flatMap_cons, List.append_assoc, splitLines_append (isLine_bytes line _),
      List.map_cons, List.foldl_cons, executeLine_bytes, ih, List.flatMap_cons, List.append_assoc]

theorem exists_cfgLine {text : CString} (hlf : 10 ∉ text) :
    ∃ line : CfgLine, line.bytes = text ++ [10] := by
  by_cases hcr : text.getLast? = some 13
  · obtain ⟨front, rfl⟩ := List.getLast?_eq_some_iff.1 hcr
    have hfront : 10 ∉ front := fun hmem => hlf (List.mem_append_left _ hmem)
    exact ⟨⟨front, true, hfront, by simp⟩, by simp [CfgLine.bytes]⟩
  · exact ⟨⟨text, false, hlf, fun _ => hcr⟩, rfl⟩

theorem exists_cfgLines (text : CString) : ∃ (lines : List CfgLine) (last : CString),
    10 ∉ last ∧ text = lines.flatMap CfgLine.bytes ++ last := by
  induction hlength : text.length using Nat.strongRecOn generalizing text with
  | _ n ih =>
    by_cases hlf : 10 ∈ text
    · obtain ⟨front, rest, rfl, hfront⟩ := List.eq_append_cons_of_mem hlf
      have hlt : rest.length < n := by
        rw [List.length_append, List.length_cons] at hlength
        omega
      obtain ⟨lines, last, hlast, hrest⟩ := ih rest.length hlt rest rfl
      obtain ⟨line, hline⟩ := exists_cfgLine hfront
      refine ⟨line :: lines, last, hlast, ?_⟩
      rw [List.flatMap_cons, hline, List.append_assoc, List.append_assoc, ← hrest]
      rfl
    · exact ⟨[], text, hlf, rfl⟩

end MultiAddonRss
