import Mathlib.Tactic.Tauto
import MultiAddonRss.Foundations.CommaObject
import MultiAddonRss.Preferences.Scanner

/-!
# Whitespace and comments

The relation between a text and what may remain of it after a run of white
space and comments, and the proof that `skipWsAndComments` computes the longest
such run in front of a token.
-/

namespace MultiAddonRss
namespace RssPrefs

open Foundations

/-- A line comment reaches to the first LF or CR, or to the end of the text. -/
def EndsLine (s : CString) : Prop := ∀ c, s.head? = some c → c = 10 ∨ c = 13

/-- `Ws s r`: the text `s` is a run of spaces, tabs, LF, CR, line comments and
block comments followed by `r`. A block comment ends at the first closing mark. -/
inductive Ws : CString → CString → Prop
  | nil {s} : Ws s s
  | char {c s r} : c ∈ [32, 9, 10, 13] → Ws s r → Ws (c :: s) r
  | line {body s r} : (∀ b ∈ body, b ≠ 10 ∧ b ≠ 13) → EndsLine s → Ws s r →
      Ws (47 :: 47 :: (body ++ s)) r
  | block {body s r} : ¬ [42, 47] <:+: body ++ [42] → Ws s r →
      Ws (47 :: 42 :: (body ++ 42 :: 47 :: s)) r

/-- No gap starts here: the text is at its end or at a visible character other
than a slash. -/
def AtToken (s : CString) : Prop := ∀ c, s.head? = some c → c ∉ [0, 32, 9, 10, 13, 47]

/-- The document as a whole is checked for NUL before it is scanned. -/
def NulFree (s : CString) : Prop := 0 ∉ s

instance : DecidablePred NulFree := fun s => inferInstanceAs (Decidable (0 ∉ s))

theorem NulFree.suffix {s r : CString} (h : NulFree s) (hr : r <:+ s) : NulFree r :=
  fun h0 => h (hr.mem h0)

theorem Ws.suffix {s r : CString} (h : Ws s r) : r <:+ s := by
  induction h with
  | nil => exact List.suffix_rfl
  | char _ _ ih => exact ih.trans (List.suffix_cons _ _)
  | @line body s r _ _ _ ih => exact ih.trans ⟨47 :: 47 :: body, by simp⟩
  | @block body s r _ _ ih => exact ih.trans ⟨47 :: 42 :: body ++ [42, 47], by simp⟩

theorem Ws.trans {s t r : CString} (h : Ws s t) (h' : Ws t r) : Ws s r := by
  induction h with
  | nil => exact h'
  | char hc _ ih => exact .char hc (ih h')
  | line hbody hend _ ih => exact .line hbody hend (ih h')
  | block hfirst _ ih => exact .block hfirst (ih h')

theorem ws_blank {t : CString} (ht : ∀ c ∈ t, c ∈ [32, 9, 10, 13]) (s : CString) :
    Ws (t ++ s) s := by
  induction t with
  | nil => exact .nil
  | cons c t ih =>
    obtain ⟨hc, ht⟩ := List.forall_mem_cons.1 ht
    exact .char hc (ih ht)

theorem isWsChar_iff (c : UInt8) : isWsChar c = true ↔ c ∈ [32, 9, 10, 13] := by
  simp [isWsChar, or_assoc]

theorem skipLineComment_eq_some_iff {s : CString} : ∀ {r : CString},
    skipLineComment s = some r ↔
      ∃ body, s = body ++ r ∧ (∀ b ∈ body, b ≠ 0 ∧ b ≠ 10 ∧ b ≠ 13) ∧ EndsLine r := by
  induction s with
  | nil =>
    intro r
    simp only [skipLineComment, Option.some.injEq, List.nil_eq_append_iff]
    constructor
    · rintro rfl
      exact ⟨[], ⟨rfl, rfl⟩, by simp, by simp [EndsLine]⟩
    · rintro ⟨body, ⟨-, rfl⟩, -⟩
      rfl
  | cons c cs ih =>
    intro r
    simp only [skipLineComment, Bool.or_eq_true, decide_eq_true_eq]
    constructor
    · intro h
      split_ifs at h with hend hnul
      · obtain rfl : c :: cs = r := by simpa using h
        exact ⟨[], rfl, by simp, by simpa [EndsLine] using hend⟩
      · obtain ⟨body, rfl, hbody, hr⟩ := ih.1 h
        exact ⟨c :: body, rfl, by simpa using ⟨by tauto, hbody⟩, hr⟩
    · rintro ⟨_ | ⟨b, body⟩, heq, hbody, hr⟩
      · obtain rfl : c :: cs = r := heq
        rw [if_pos (hr c rfl)]
      · obtain ⟨rfl, rfl⟩ := by simpa using heq
        obtain ⟨hb, hbody⟩ := List.forall_mem_cons.1 hbody
        rw [if_neg (by tauto), if_neg hb.1]
        exact ih.2 ⟨body, rfl, hbody, hr⟩

theorem skipBlockComment_eq_some_iff {s : CString} : ∀ {r : CString},
    skipBlockComment s = some r ↔
      ∃ body, s = body ++ 42 :: 47 :: r ∧ 0 ∉ body ∧ ¬ [42, 47] <:+: body ++ [42] := by
  induction s with
  | nil => intro r; simp [skipBlockComment]
  | cons c cs ih =>
    intro r
    simp only [skipBlockComment, Bool.and_eq_true, decide_eq_true_eq]
    constructor
    · intro h
      split_ifs at h with hnul hend
      · obtain ⟨rfl, hhead⟩ := hend
        obtain ⟨tl, rfl⟩ := List.head?_eq_some_iff.1 hhead
        obtain rfl : tl = r := by simpa using h
        exact ⟨[], rfl, by simp, by decide⟩
      · obtain ⟨body, rfl, hbody, hfirst⟩ := ih.1 h
        refine ⟨c :: body, rfl, ?_, ?_⟩
        · simpa [eq_comm] using ⟨hnul, hbody⟩
        · rw [List.cons_append, List.infix_cons_iff]
          rintro (hpre | hin)
          · -- an opening `*` here would have closed the comment
            obtain ⟨rfl, hpre⟩ := List.cons_prefix_cons.1 hpre
            obtain ⟨tl, htl⟩ := hpre
            refine hend ⟨rfl, ?_⟩
            rcases body with _ | ⟨b, body⟩
            · simp at htl
            · obtain ⟨rfl, -⟩ := by simpa using htl
              rfl
          · exact hfirst hin
    · rintro ⟨_ | ⟨b, body⟩, heq, hbody, hfirst⟩
      · obtain ⟨rfl, rfl⟩ := by simpa using heq
        simp
      · obtain ⟨rfl, rfl⟩ := by simpa using heq
        obtain ⟨hb, hbody⟩ : c ≠ 0 ∧ 0 ∉ body := by simpa [eq_comm] using hbody
        rw [List.cons_append, List.infix_cons_iff, not_or] at hfirst
        rw [if_neg hb, if_neg]
        · exact ih.2 ⟨body, rfl, hbody, hfirst.2⟩
        · rintro ⟨rfl, hhead⟩
          rcases body with _ | ⟨b, body⟩
          · simp at hhead
          · obtain rfl : b = 47 := by simpa using hhead
            exact hfirst.1 ⟨body ++ [42], by simp⟩

theorem skipLoop_sound : ∀ (fuel : ℕ) {s r : CString}, skipLoop fuel s = some r → Ws s r := by
  intro fuel
  induction fuel with
  | zero => intro s r h; simp [skipLoop] at h
  | succ fuel ih =>
    intro s r h
    rcases s with _ | ⟨c, cs⟩
    · obtain rfl : [] = r := by simpa [skipLoop] using h
      exact .nil
    · simp only [skipLoop, Bool.and_eq_true, decide_eq_true_eq, Option.bind_eq_bind] at h
      split_ifs at h with hnul hws hline hblock
      · exact .char ((isWsChar_iff c).1 hws) (ih h)
      · obtain ⟨rfl, hhead⟩ := hline
        obtain ⟨tl, rfl⟩ := List.head?_eq_some_iff.1 hhead
        obtain ⟨s', hs', hrest⟩ := Option.bind_eq_some_iff.1 h
        obtain ⟨body, hbody, hfree, hend⟩ := skipLineComment_eq_some_iff.1 hs'
        obtain rfl : tl = body ++ s' := hbody
        exact .line (fun b hb => (hfree b hb).2) hend (ih hrest)
      · obtain ⟨rfl, hhead⟩ := hblock
        obtain ⟨tl, rfl⟩ := List.head?_eq_some_iff.1 hhead
        obtain ⟨s', hs', hrest⟩ := Option.bind_eq_some_iff.1 h
        obtain ⟨body, hbody, hfree, hfirst⟩ := skipBlockComment_eq_some_iff.1 hs'
        obtain rfl : tl = body ++ 42 :: 47 :: s' := hbody
        exact .block hfirst (ih hrest)
      · obtain rfl : c :: cs = r := by simpa using h
        exact .nil

theorem skipLoop_complete {s r : CString} (h : Ws s r) : ∀ {fuel : ℕ}, s.length < fuel →
    NulFree s → AtToken r → skipLoop fuel s = some r := by
  induction h with
  | @nil s =>
    intro fuel hfuel _ hr
    obtain ⟨fuel, rfl⟩ : ∃ n, fuel = n + 1 := ⟨fuel - 1, by omega⟩
    rcases s with _ | ⟨c, cs⟩
    · rfl
    · have hc := hr c rfl
      have hws : isWsChar c = false := by
        rw [Bool.eq_false_iff, ne_eq, isWsChar_iff]
        exact fun h => hc (List.mem_cons_of_mem 0 (List.mem_append_left [47] h))
      simp only [List.mem_cons, not_or] at hc
      simp [skipLoop, hws, hc]
  | @char c s r hc _ ih =>
    intro fuel hfuel hs hr
    obtain ⟨fuel, rfl⟩ : ∃ n, fuel = n + 1 := ⟨fuel - 1, by omega⟩
    have hs' := hs.suffix (List.suffix_cons c s)
    have hnul : c ≠ 0 := by rintro rfl; exact hs (by simp)
    simp only [List.length_cons] at hfuel
    have hrec : skipLoop fuel s = some r := ih (by omega) hs' hr
    simp [skipLoop, hnul, (isWsChar_iff c).2 hc, hrec]
  | @line body s r hbody hend _ ih =>
    intro fuel hfuel hs hr
    obtain ⟨fuel, rfl⟩ : ∃ n, fuel = n + 1 := ⟨fuel - 1, by omega⟩
    have hs' := hs.suffix ⟨47 :: 47 :: body, rfl⟩
    have hskip : skipLineComment (body ++ s) = some s := by
      refine skipLineComment_eq_some_iff.2 ⟨body, rfl, fun b hb => ⟨?_, hbody b hb⟩, hend⟩
      rintro rfl
      exact hs (by simp [hb])
    simp only [List.length_cons, List.length_append] at hfuel
    have hrec : skipLoop fuel s = some r := ih (by omega) hs' hr
    simp [skipLoop, isWsChar, hskip, hrec]
  | @block body s r hfirst _ ih =>
    intro fuel hfuel hs hr
    obtain ⟨fuel, rfl⟩ : ∃ n, fuel = n + 1 := ⟨fuel - 1, by omega⟩
    have hs' := hs.suffix (r := s) ⟨47 :: 42 :: body ++ [42, 47], by simp⟩
    have hskip : skipBlockComment (body ++ 42 :: 47 :: s) = some s :=
      skipBlockComment_eq_some_iff.2 ⟨body, rfl, fun hb => hs (by simp [hb]), hfirst⟩
    simp only [List.length_cons, List.length_append] at hfuel
    have hrec : skipLoop fuel s = some r := ih (by omega) hs' hr
    simp [skipLoop, isWsChar, hskip, hrec]

theorem skips_ws : Skips skipWsAndComments Ws NulFree AtToken where
  sound h := skipLoop_sound _ h
  complete hs h hr := skipLoop_complete h (Nat.lt_succ_self _) hs hr
  suffix := Ws.suffix

end RssPrefs
end MultiAddonRss
