import Mathlib.Data.List.Basic
import Mathlib.Tactic.TypeStar
import MultiAddonRss.Foundations.Lines

/-!
# A text stream

A stream remembers that a read has met the end of the text or has read nothing. A
loop that reads up to a delimiter while the stream is good visits the segments of the
text, also an empty one behind a last delimiter.
-/

namespace Foundations

structure InputStream (α : Type*) where
  rest : List α
  eofbit : Bool := false
  failbit : Bool := false

namespace InputStream

variable {α β : Type*}

def good (stream : InputStream α) : Bool := !stream.eofbit && !stream.failbit

variable [DecidableEq α]

def extract (delim : α) : List α → List α × List α × Bool
  | [] => ([], [], true)
  | c :: rest =>
    if c = delim then ([], rest, false)
    else
      let (str, rest, eof) := extract delim rest
      (c :: str, rest, eof)

/-- Reads up to the next delimiter, which is dropped. The read fails if nothing is
left, not even a delimiter. -/
def getline (delim : α) (stream : InputStream α) : List α × InputStream α :=
  if stream.good then
    let (str, rest, eof) := extract delim stream.rest
    (str, ⟨rest, eof, stream.rest.isEmpty⟩)
  else
    ([], { stream with failbit := true })

def readsLeft (stream : InputStream α) : ℕ :=
  if stream.good then stream.rest.length + 1 else 0

variable {delim : α} {stream : InputStream α} {text : List α}

theorem length_extract_lt (heof : (extract delim text).2.2 = false) :
    (extract delim text).2.1.length < text.length := by
  induction text with
  | nil => simp [extract] at heof
  | cons c text ih =>
    unfold extract at heof ⊢
    split_ifs at heof ⊢ with hc
    · simp
    · have hrest := ih heof
      rw [List.length_cons]
      exact Nat.lt_succ_of_lt hrest

theorem readsLeft_getline_lt (hgood : stream.good = true) :
    (stream.getline delim).2.readsLeft < stream.readsLeft := by
  simp only [getline, hgood, if_true, readsLeft]
  split_ifs with hnext
  · have heof : (extract delim stream.rest).2.2 = false := by
      simp only [good, Bool.and_eq_true, Bool.not_eq_true'] at hnext
      exact hnext.1
    exact Nat.succ_lt_succ (length_extract_lt heof)
  · exact Nat.succ_pos _

/-- Reads while the stream is good, and runs the body on what each read returns. -/
def whileGood (delim : α) (body : β → List α → β) (stream : InputStream α) (b : β) : β :=
  if stream.good then
    whileGood delim body (stream.getline delim).2 (body b (stream.getline delim).1)
  else
    b
termination_by stream.readsLeft
decreasing_by exact readsLeft_getline_lt ‹_›

theorem splitOn_eq_extract (text : List α) :
    text.splitOn delim = (extract delim text).1 ::
      if (extract delim text).2.2 then [] else (extract delim text).2.1.splitOn delim := by
  induction text with
  | nil => simp [extract]
  | cons c text ih =>
    rw [List.splitOn_cons_eq_if_modifyHead]
    unfold extract
    by_cases hc : c = delim
    · simp [hc]
    · rw [if_neg (by simpa using hc), ih, List.modifyHead_cons, if_neg hc]

/-- The loop over a whole text is a fold over its segments. -/
theorem whileGood_eq_foldl (body : β → List α → β) (text : List α) (b : β) :
    whileGood delim body { rest := text } b = (text.splitOn delim).foldl body b := by
  induction hlength : text.length using Nat.strongRecOn generalizing text b with
  | _ n ih =>
    have hgood : ({ rest := text } : InputStream α).good = true := rfl
    rw [whileGood, if_pos hgood, splitOn_eq_extract text, List.foldl_cons]
    simp only [getline, hgood, if_true]
    cases heof : (extract delim text).2.2 with
    | true =>
      -- the next test of the loop fails
      rw [whileGood, if_neg (by simp [good])]
      rfl
    | false =>
      have hlt := length_extract_lt heof
      have hne : text.isEmpty = false := by
        cases text with
        | nil => simp at hlt
        | cons c text => rfl
      rw [hne]
      exact ih _ (hlength ▸ hlt) _ _ rfl

/-! ## Reading lines -/

/-- Reads until a read fails, and runs the body on what each read returns. -/
def whileRead (delim : α) (body : β → List α → β) (stream : InputStream α) (b : β) : β :=
  if (stream.getline delim).2.failbit then b
  else whileRead delim body (stream.getline delim).2 (body b (stream.getline delim).1)
termination_by stream.readsLeft
decreasing_by
  apply readsLeft_getline_lt
  by_contra hgood
  simp_all [getline]

theorem extract_append {line rest : List α} (h : IsLine delim line rest) :
    extract delim (line ++ rest) = (line.takeWhile (· ≠ delim), rest, decide (delim ∉ line)) := by
  induction h with
  | ended rest => simp [extract]
  | last hc => simp [extract, hc, Ne.symm hc]
  | cons hc hline ih => simp [extract, ih, hc, Ne.symm hc]

theorem whileRead_of_not_good (body : β → List α → β) (b : β) (hgood : stream.good = false) :
    whileRead delim body stream b = b := by
  rw [whileRead, if_pos]
  simp [getline, hgood]

/-- The loop over a whole text is a fold over its lines. Nothing is read behind a last
delimiter. -/
theorem whileRead_eq_foldl (body : β → List α → β) (text : List α) (b : β) :
    whileRead delim body { rest := text } b =
      ((splitLines delim text).map fun line => line.takeWhile (· ≠ delim)).foldl body b := by
  induction hlength : text.length using Nat.strongRecOn generalizing text b with
  | _ n ih =>
    have hgood : ({ rest := text } : InputStream α).good = true := rfl
    by_cases hnil : text = []
    · subst hnil
      rw [whileRead, if_pos (by simp [getline, good])]
      rfl
    · obtain ⟨line, rest, rfl, hline⟩ := exists_isLine delim hnil
      have hread : ({ rest := line ++ rest } : InputStream α).getline delim =
          (line.takeWhile (· ≠ delim), ⟨rest, decide (delim ∉ line), false⟩) := by
        simp [getline, hgood, extract_append hline, hline.ne_nil]
      rw [whileRead, hread, if_neg (by simp), splitLines_append hline, List.map_cons,
        List.foldl_cons]
      by_cases hdelim : delim ∈ line
      · have hlt : rest.length < n := by
          have hpos := List.length_pos_of_ne_nil hline.ne_nil
          rw [List.length_append] at hlength
          omega
        rw [decide_eq_false (not_not.2 hdelim)]
        exact ih rest.length hlt rest _ rfl
      · rw [hline.rest_eq_nil hdelim, whileRead_of_not_good]
        · rfl
        · simp [good, hdelim]

end InputStream
end Foundations
