import Mathlib.Data.List.Basic
import MultiAddonRss.Foundations.InputStream
import MultiAddonRss.Strings

/-!
# The text form of addon lists

`StringToVector` reads back what `VectorToString` writes if every entry is a
single one: not empty and without a comma. What it reads is always of this kind.
The loops of the two functions compute the segments and the joined text.
-/

namespace MultiAddonRss

open Foundations

/-- An entry that the text form keeps apart. -/
def IsSingleEntry (addon : CString) : Prop :=
  addon ≠ [] ∧ 44 ∉ addon

instance decidableIsSingleEntry (addon : CString) : Decidable (IsSingleEntry addon) :=
  inferInstanceAs (Decidable (_ ∧ _))

theorem mem_of_mem_splitOn {α : Type*} [BEq α] [LawfulBEq α] {x c : α} {xs l : List α}
    (hl : l ∈ xs.splitOn x) (hc : c ∈ l) : c ∈ xs ∧ c ≠ x := by
  induction xs generalizing l with
  | nil =>
    obtain rfl : l = [] := by simpa using hl
    simp at hc
  | cons y ys ih =>
    rw [List.splitOn_cons_eq_if_modifyHead] at hl
    split_ifs at hl with hy
    · rcases List.mem_cons.1 hl with rfl | hl
      · simp at hc
      · exact (ih hl hc).imp_left (List.mem_cons_of_mem y)
    · obtain ⟨segment, rest, hsplit⟩ := List.exists_cons_of_ne_nil (List.splitOn_ne_nil x ys)
      rw [hsplit, List.modifyHead_cons] at hl
      rcases List.mem_cons.1 hl with rfl | hl
      · rcases List.mem_cons.1 hc with rfl | hc
        · exact ⟨List.mem_cons_self, by simpa using hy⟩
        · exact (ih (by simp [hsplit]) hc).imp_left (List.mem_cons_of_mem y)
      · exact (ih (by simp [hsplit, hl]) hc).imp_left (List.mem_cons_of_mem y)

variable {addon pszString : CString} {vector : List CString}

theorem isSingleEntry_of_mem_stringToVector (haddon : addon ∈ stringToVector pszString) :
    IsSingleEntry addon := by
  obtain ⟨hsegment, hne⟩ := List.mem_filter.1 haddon
  exact ⟨by simpa using hne, fun hcomma => (mem_of_mem_splitOn hsegment hcomma).2 rfl⟩

@[simp] theorem stringToVector_nil : stringToVector [] = [] := rfl

theorem stringToVector_of_notMem (hcomma : 44 ∉ pszString) :
    stringToVector pszString = if pszString = [] then [] else [pszString] := by
  rw [stringToVector, List.splitOn_eq_singleton hcomma]
  cases pszString <;> rfl

theorem stringToVector_vectorToString (hentries : ∀ addon ∈ vector, IsSingleEntry addon) :
    stringToVector (vectorToString vector) = vector := by
  cases hvector : vector with
  | nil => rfl
  | cons addon rest =>
    rw [← hvector, stringToVector, vectorToString,
      List.splitOn_intercalate 44 (fun a ha => (hentries a ha).2) (by simp [hvector]),
      List.filter_eq_self]
    intro a ha
    simpa using (hentries a ha).1

/-! ## The loops -/

/-- `std::stringstream stream(pszString)`: the text of a C string ends at its first NUL. -/
def stringStream (pszString : CString) : InputStream UInt8 :=
  { rest := pszString.takeWhile (· ≠ 0) }

/-- `StringToVector`, with its stream. -/
def stringToVectorLoop (pszString : CString) : List CString :=
  (stringStream pszString).whileGood 44
    (fun vector substr => if !substr.isEmpty then vector ++ [substr] else vector) []

/-- The loop of `VectorToString` over the entries from index `i` on. -/
def appendEntries (count : ℕ) : ℕ → List CString → CString → CString
  | _, [], result => result
  | i, addon :: rest, result =>
    let result := result ++ addon
    appendEntries count (i + 1) rest (if i + 1 < count then result ++ [44] else result)

/-- `VectorToString`, with its index. -/
def vectorToStringLoop (vector : List CString) : CString :=
  appendEntries vector.length 0 vector []

theorem stringToVectorLoop_eq (pszString : CString) :
    stringToVectorLoop pszString = stringToVector (pszString.takeWhile (· ≠ 0)) := by
  have haddToTail (segments : List CString) :
      segments.foldl (fun vector substr => vector ++ [substr]) [] = segments := by
    rw [List.foldl_append_eq_append, List.nil_append, ← List.flatMap_def, List.flatMap_singleton']
  unfold stringToVectorLoop stringStream
  rw [InputStream.whileGood_eq_foldl, ← List.foldl_filter, haddToTail, stringToVector]

theorem stringToVectorLoop_of_nulFree (hnul : 0 ∉ pszString) :
    stringToVectorLoop pszString = stringToVector pszString := by
  rw [stringToVectorLoop_eq, takeWhile_ne_zero hnul]

theorem appendEntries_eq (vector : List CString) (i : ℕ) (result : CString) :
    appendEntries (i + vector.length) i vector result = result ++ vectorToString vector := by
  induction vector generalizing i result with
  | nil => simp [appendEntries, vectorToString]
  | cons addon rest ih =>
    have hcount : i + (addon :: rest).length = i + 1 + rest.length := by
      rw [List.length_cons]
      omega
    rw [hcount, appendEntries, ih]
    cases rest with
    | nil => simp [vectorToString]
    | cons next rest => simp [vectorToString]

theorem vectorToStringLoop_eq (vector : List CString) :
    vectorToStringLoop vector = vectorToString vector := by
  have hloop := appendEntries_eq vector 0 []
  rwa [Nat.zero_add, List.nil_append] at hloop

theorem notMem_vectorToString {c : UInt8} (hc : c ≠ 44) (hentries : ∀ addon ∈ vector, c ∉ addon) :
    c ∉ vectorToString vector := by
  induction vector with
  | nil => simp [vectorToString]
  | cons addon rest ih =>
    obtain ⟨haddon, hrest⟩ := List.forall_mem_cons.1 hentries
    have hih := ih hrest
    cases rest with
    | nil => simpa [vectorToString] using haddon
    | cons next rest =>
      rw [vectorToString] at hih ⊢
      rw [List.intercalate_cons_cons]
      simp [haddon, hc, hih]

theorem notMem_of_mem_stringToVector {c : UInt8} (hc : c ∉ pszString)
    (haddon : addon ∈ stringToVector pszString) : c ∉ addon :=
  fun hmem => hc (mem_of_mem_splitOn (List.mem_filter.1 haddon).1 hmem).1

theorem stringToVector_vectorToString_iff :
    stringToVector (vectorToString vector) = vector ↔ ∀ addon ∈ vector, IsSingleEntry addon := by
  constructor
  · intro hread addon haddon
    rw [← hread] at haddon
    exact isSingleEntry_of_mem_stringToVector haddon
  · exact stringToVector_vectorToString

theorem stringToVector_normal (pszString : CString) :
    stringToVector (vectorToString (stringToVector pszString)) = stringToVector pszString :=
  stringToVector_vectorToString fun _ => isSingleEntry_of_mem_stringToVector

/-- The loops decode the non-empty segments, are inverse exactly on lists of single
entries, and have a normal form for every text. -/
theorem comma_encoding_exact :
    (∀ pszString : CString, 0 ∉ pszString →
      stringToVectorLoop pszString = (pszString.splitOn 44).filter (· ≠ [])) ∧
    (∀ vector : List CString, (∀ addon ∈ vector, 0 ∉ addon) →
      (stringToVectorLoop (vectorToStringLoop vector) = vector ↔
        ∀ addon ∈ vector, addon ≠ [] ∧ 44 ∉ addon)) ∧
    ∀ pszString : CString, 0 ∉ pszString →
      let normal := vectorToStringLoop (stringToVectorLoop pszString)
      stringToVectorLoop normal = stringToVectorLoop pszString ∧
        vectorToStringLoop (stringToVectorLoop normal) = normal := by
  refine ⟨fun pszString hnul => ?_, fun vector hnul => ?_, fun pszString hnul => ?_⟩
  · rw [stringToVectorLoop_of_nulFree hnul]
    apply List.filter_congr
    intro substr _
    cases substr <;> simp
  · have htext : 0 ∉ vectorToString vector := notMem_vectorToString (by decide) hnul
    rw [vectorToStringLoop_eq, stringToVectorLoop_of_nulFree htext]
    exact stringToVector_vectorToString_iff
  · have hentries : ∀ addon ∈ stringToVector pszString, 0 ∉ addon :=
      fun addon haddon => notMem_of_mem_stringToVector hnul haddon
    have htext : 0 ∉ vectorToString (stringToVector pszString) :=
      notMem_vectorToString (by decide) hentries
    have hread : stringToVectorLoop (vectorToString (stringToVector pszString)) =
        stringToVector pszString := by
      rw [stringToVectorLoop_of_nulFree htext, stringToVector_normal]
    simp only [stringToVectorLoop_of_nulFree hnul, vectorToStringLoop_eq, hread, and_self]

end MultiAddonRss
