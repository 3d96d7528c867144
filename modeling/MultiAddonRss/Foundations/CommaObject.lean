import Mathlib.Data.List.Basic
import Mathlib.Control.Basic

/-!
# Comma-separated bodies with an optional trailing comma

A grammar is a relation between a text, the value read from its front and the
text that remains. The body of a braced object is a possibly empty sequence of
items separated by single commas, closed by a brace and allowing one comma
before it. `commaLoop` is the usual scanning loop for such a body; it accepts
exactly the bodies whose items its state accepts one after another.
-/

namespace Foundations

variable {α β τ : Type}

section Grammar

variable (gap : List α → List α → Prop) (item : List α → β → List α → Prop) (comma close : α)

/-- At least one item, then the closing symbol, possibly after a last comma. -/
inductive CommaItems : List α → List β → List α → Prop
  | last {s x s₁ r} : item s x s₁ → gap s₁ (close :: r) → CommaItems s [x] r
  | trailing {s x s₁ s₂ r} : item s x s₁ → gap s₁ (comma :: s₂) → gap s₂ (close :: r) →
      CommaItems s [x] r
  | cons {s x s₁ s₂ s₃ xs r} : item s x s₁ → gap s₁ (comma :: s₂) → gap s₂ s₃ →
      CommaItems s₃ xs r → CommaItems s (x :: xs) r

/-- What follows an opening brace. -/
inductive CommaBody : List α → List β → List α → Prop
  | empty {s r} : gap s (close :: r) → CommaBody s [] r
  | items {s s₁ xs r} : gap s s₁ → CommaItems gap item comma close s₁ xs r → CommaBody s xs r

theorem CommaItems.suffix {gap : List α → List α → Prop} {item : List α → β → List α → Prop}
    {comma close : α} (hgap : ∀ {s r}, gap s r → r <:+ s) (hitem : ∀ {s x r}, item s x r → r <:+ s)
    {s : List α} {xs : List β} {r : List α} (h : CommaItems gap item comma close s xs r) :
    r <:+ s := by
  have hcons : ∀ {s r : List α} {c : α}, gap s (c :: r) → r <:+ s :=
    fun h => (List.suffix_cons _ _).trans (hgap h)
  induction h with
  | last hx hend => exact (hcons hend).trans (hitem hx)
  | trailing hx hcomma hend => exact ((hcons hend).trans (hcons hcomma)).trans (hitem hx)
  | cons hx hcomma hsep _ ih =>
    exact ((ih.trans (hgap hsep)).trans (hcons hcomma)).trans (hitem hx)

theorem CommaBody.suffix {gap : List α → List α → Prop} {item : List α → β → List α → Prop}
    {comma close : α} (hgap : ∀ {s r}, gap s r → r <:+ s) (hitem : ∀ {s x r}, item s x r → r <:+ s)
    {s : List α} {xs : List β} {r : List α} (h : CommaBody gap item comma close s xs r) :
    r <:+ s := by
  cases h with
  | empty hend => exact (List.suffix_cons _ _).trans (hgap hend)
  | items hsep hitems => exact (hitems.suffix hgap hitem).trans (hgap hsep)

theorem CommaItems.forall_mem {gap : List α → List α → Prop}
    {item : List α → β → List α → Prop} {comma close : α} {P : β → Prop}
    (hitem : ∀ s x r, item s x r → P x) {s : List α} {xs : List β} {r : List α}
    (h : CommaItems gap item comma close s xs r) : ∀ x ∈ xs, P x := by
  induction h with
  | last hx _ => simpa using hitem _ _ _ hx
  | trailing hx _ _ => simpa using hitem _ _ _ hx
  | cons hx _ _ _ ih => exact List.forall_mem_cons.2 ⟨hitem _ _ _ hx, ih⟩

theorem CommaBody.forall_mem {gap : List α → List α → Prop}
    {item : List α → β → List α → Prop} {comma close : α} {P : β → Prop}
    (hitem : ∀ s x r, item s x r → P x) {s : List α} {xs : List β} {r : List α}
    (h : CommaBody gap item comma close s xs r) : ∀ x ∈ xs, P x := by
  cases h with
  | empty _ => simp
  | items _ hitems => exact hitems.forall_mem hitem

theorem CommaItems.append {gap : List α → List α → Prop} {item : List α → β → List α → Prop}
    {comma close : α} (hgap : ∀ {s r}, gap s r → r ≠ [] → ∀ t, gap (s ++ t) (r ++ t))
    (hitem : ∀ {s x r}, item s x r → s ≠ [] ∧ ∀ t, item (s ++ t) x (r ++ t))
    {s : List α} {xs : List β} {r : List α} (h : CommaItems gap item comma close s xs r)
    (t : List α) : s ≠ [] ∧ CommaItems gap item comma close (s ++ t) xs (r ++ t) := by
  have hcons : ∀ {s r : List α} {c : α}, gap s (c :: r) → gap (s ++ t) (c :: (r ++ t)) :=
    fun h => hgap h (by simp) t
  induction h with
  | last hx hend => exact ⟨(hitem hx).1, .last ((hitem hx).2 t) (hcons hend)⟩
  | trailing hx hcomma hend =>
    exact ⟨(hitem hx).1, .trailing ((hitem hx).2 t) (hcons hcomma) (hcons hend)⟩
  | cons hx hcomma hsep _ ih =>
    exact ⟨(hitem hx).1, .cons ((hitem hx).2 t) (hcons hcomma) (hgap hsep ih.1 t) ih.2⟩

theorem CommaBody.append {gap : List α → List α → Prop} {item : List α → β → List α → Prop}
    {comma close : α} (hgap : ∀ {s r}, gap s r → r ≠ [] → ∀ t, gap (s ++ t) (r ++ t))
    (hitem : ∀ {s x r}, item s x r → s ≠ [] ∧ ∀ t, item (s ++ t) x (r ++ t))
    {s : List α} {xs : List β} {r : List α} (h : CommaBody gap item comma close s xs r)
    (t : List α) : CommaBody gap item comma close (s ++ t) xs (r ++ t) := by
  cases h with
  | empty hend => exact .empty (hgap hend (by simp) t)
  | items hsep hitems =>
    obtain ⟨hne, hitems⟩ := hitems.append hgap hitem t
    exact .items (hgap hsep hne t) hitems

def Follow (r : List α) : Prop := ∃ r', gap r (comma :: r') ∨ gap r (close :: r')

end Grammar

/-- A skipper for the gaps between tokens. On clean text it stops exactly where
a gap ends at the start of a token. -/
structure Skips (skip : List α → Option (List α)) (gap : List α → List α → Prop)
    (clean token : List α → Prop) : Prop where
  sound : ∀ {s r}, skip s = some r → gap s r
  complete : ∀ {s r}, clean s → gap s r → token r → skip s = some r
  suffix : ∀ {s r}, gap s r → r <:+ s

/-- A scanner for one item. It reads an item `x` exactly when its state accepts
`x`, provided the item is followed by something that may follow an item. -/
structure ScansItem (scan : List α → τ → Option (List α × τ)) (item : List α → β → List α → Prop)
    (accept : τ → β → Option τ) (clean follow : List α → Prop) : Prop where
  sound : ∀ {s t r t'}, clean s → scan s t = some (r, t') → ∃ x, item s x r ∧ accept t x = some t'
  complete : ∀ {s t x r t'}, clean s → item s x r → accept t x = some t' → follow r →
    scan s t = some (r, t')
  suffix : ∀ {s x r}, item s x r → r <:+ s
  shorter : ∀ {s x r}, item s x r → r.length < s.length

section Loop

variable [DecidableEq α]

/-- Scan items up to the closing symbol. The flag stands for an item being
allowed at this point. -/
def commaLoop (skip : List α → Option (List α)) (scan : List α → τ → Option (List α × τ))
    (comma close : α) : ℕ → Bool → List α → τ → Option (List α × τ)
  | 0, _, _, _ => none
  | fuel + 1, needPair, s, t => do
    let s₁ ← skip s
    if s₁.head? = some close then
      some (s₁.tail, t)
    else if !needPair then
      none
    else do
      let (s₂, t₁) ← scan s₁ t
      let s₃ ← skip s₂
      if s₃.head? = some comma then
        commaLoop skip scan comma close fuel true s₃.tail t₁
      else if s₃.head? = some close then
        some (s₃.tail, t₁)
      else
        none

variable {skip : List α → Option (List α)} {scan : List α → τ → Option (List α × τ)}
variable {gap : List α → List α → Prop} {item : List α → β → List α → Prop}
variable {accept : τ → β → Option τ} {comma close : α} {clean token : List α → Prop}

theorem commaLoop_cons {fuel : ℕ} {s s₁ s₂ s₃ : List α} {t t₁ : τ} (hs : skip s = some s₁)
    (hhead : s₁.head? ≠ some close) (hx : scan s₁ t = some (s₂, t₁))
    (hcomma : skip s₂ = some (comma :: s₃)) :
    commaLoop skip scan comma close (fuel + 1) true s t =
      commaLoop skip scan comma close fuel true s₃ t₁ := by
  simp [commaLoop, hs, hhead, hx, hcomma]

theorem commaLoop_eq_none {fuel : ℕ} {need : Bool} {s s₁ : List α} {t : τ}
    (hs : skip s = some s₁) (hhead : s₁.head? ≠ some close) (hx : scan s₁ t = none) :
    commaLoop skip scan comma close fuel need s t = none := by
  cases fuel with
  | zero => rfl
  | succ fuel => simp [commaLoop, hs, hhead, hx]

theorem commaLoop_sound (hskip : Skips skip gap clean token)
    (hscan : ScansItem scan item accept clean (Follow gap comma close))
    (hclean : ∀ {s r}, clean s → r <:+ s → clean r) :
    ∀ (fuel : ℕ) {s : List α} {t : τ} {r : List α} {t' : τ}, clean s →
      commaLoop skip scan comma close fuel true s t = some (r, t') →
      ∃ xs, CommaBody gap item comma close s xs r ∧ xs.foldlM accept t = some t' := by
  intro fuel
  induction fuel with
  | zero => intro s t r t' _ h; simp [commaLoop] at h
  | succ fuel ih =>
    intro s t r t' hs h
    simp only [commaLoop, Option.bind_eq_bind, Option.bind_eq_some_iff] at h
    obtain ⟨s₁, hs₁, h⟩ := h
    have hgap := hskip.sound hs₁
    have hc₁ := hclean hs (hskip.suffix hgap)
    split_ifs at h with hclose hneed
    · obtain ⟨tl, rfl⟩ := List.head?_eq_some_iff.1 hclose
      obtain ⟨rfl, rfl⟩ := by simpa using h
      exact ⟨[], .empty hgap, rfl⟩
    · simp only [Option.bind_eq_some_iff, Prod.exists] at h
      obtain ⟨s₂, t₁, hs₂, s₃, hs₃, h⟩ := h
      obtain ⟨x, hx, hacc⟩ := hscan.sound hc₁ hs₂
      have hc₂ := hclean hc₁ (hscan.suffix hx)
      have hgap₃ := hskip.sound hs₃
      split_ifs at h with hcomma hclose₃
      · obtain ⟨s₄, rfl⟩ := List.head?_eq_some_iff.1 hcomma
        have hc₄ : clean s₄ :=
          hclean hc₂ ((List.suffix_cons comma s₄).trans (hskip.suffix hgap₃))
        obtain ⟨xs, hbody, hfold⟩ := ih hc₄ h
        refine ⟨x :: xs, .items hgap ?_, by simpa [hacc] using hfold⟩
        cases hbody with
        | empty hend => exact .trailing hx hgap₃ hend
        | items hsep hitems => exact .cons hx hgap₃ hsep hitems
      · obtain ⟨s₄, rfl⟩ := List.head?_eq_some_iff.1 hclose₃
        obtain ⟨rfl, rfl⟩ := by simpa using h
        exact ⟨[x], .items hgap (.last hx hgap₃), by simpa using hacc⟩

variable (hskip : Skips skip gap clean token)
variable (hscan : ScansItem scan item accept clean (Follow gap comma close))
variable (hclean : ∀ {s r}, clean s → r <:+ s → clean r)
variable (htoken : ∀ {s}, token (comma :: s) ∧ token (close :: s))
variable (hitem : ∀ {s x r}, item s x r → token s ∧ s.head? ≠ some close)
variable (hne : comma ≠ close)

include hskip hscan hclean htoken hitem hne in
theorem commaLoop_items {s : List α} {xs : List β} {r : List α}
    (h : CommaItems gap item comma close s xs r) :
    ∀ {fuel : ℕ} {s₀ : List α} {t t' : τ}, clean s₀ → gap s₀ s → s₀.length < fuel →
      xs.foldlM accept t = some t' →
      commaLoop skip scan comma close fuel true s₀ t = some (r, t') := by
  induction h with
  | @last s x s₁ r hx hend =>
    intro fuel s₀ t t' hc hgap hfuel hfold
    obtain ⟨fuel, rfl⟩ : ∃ n, fuel = n + 1 := ⟨fuel - 1, by omega⟩
    obtain ⟨htok, hhead⟩ := hitem hx
    have hcs := hclean hc (hskip.suffix hgap)
    have hc₁ := hclean hcs (hscan.suffix hx)
    have hacc : accept t x = some t' := by simpa using hfold
    simp [commaLoop, hskip.complete hc hgap htok, hhead,
      hscan.complete hcs hx hacc ⟨r, .inr hend⟩, hskip.complete hc₁ hend htoken.2, hne.symm]
  | @trailing s x s₁ s₂ r hx hcomma hend =>
    intro fuel s₀ t t' hc hgap hfuel hfold
    obtain ⟨fuel, rfl⟩ : ∃ n, fuel = n + 2 := by
      have h₀ := (hskip.suffix hgap).length_le
      have h₁ := hscan.shorter hx
      exact ⟨fuel - 2, by omega⟩
    obtain ⟨htok, hhead⟩ := hitem hx
    have hcs := hclean hc (hskip.suffix hgap)
    have hc₁ := hclean hcs (hscan.suffix hx)
    have hc₂ := hclean hc₁ ((List.suffix_cons comma s₂).trans (hskip.suffix hcomma))
    have hacc : accept t x = some t' := by simpa using hfold
    simp [commaLoop, hskip.complete hc hgap htok, hhead,
      hscan.complete hcs hx hacc ⟨s₂, .inl hcomma⟩, hskip.complete hc₁ hcomma htoken.1,
      hskip.complete hc₂ hend htoken.2]
  | @cons s x s₁ s₂ s₃ xs r hx hcomma hsep _ ih =>
    intro fuel s₀ t t' hc hgap hfuel hfold
    obtain ⟨fuel, rfl⟩ : ∃ n, fuel = n + 1 := ⟨fuel - 1, by omega⟩
    obtain ⟨htok, hhead⟩ := hitem hx
    have hcs := hclean hc (hskip.suffix hgap)
    have hc₁ := hclean hcs (hscan.suffix hx)
    have hsuf := (List.suffix_cons comma s₂).trans (hskip.suffix hcomma)
    obtain ⟨t₁, hacc, hfold⟩ : ∃ t₁, accept t x = some t₁ ∧ xs.foldlM accept t₁ = some t' := by
      simpa [Option.bind_eq_some_iff] using hfold
    have hlen : s₂.length < fuel := by
      have h₀ := (hskip.suffix hgap).length_le
      have h₁ := hscan.shorter hx
      have h₂ := (hskip.suffix hcomma).length_le
      simp only [List.length_cons] at h₂
      omega
    simp [commaLoop, hskip.complete hc hgap htok, hhead,
      hscan.complete hcs hx hacc ⟨s₂, .inl hcomma⟩, hskip.complete hc₁ hcomma htoken.1,
      ih (hclean hc₁ hsuf) hsep hlen hfold]

include hskip hscan hclean htoken hitem hne in
/-- The loop with enough fuel accepts exactly the bodies of the grammar whose
items are accepted in order. -/
theorem commaLoop_iff {fuel : ℕ} {s : List α} {t : τ} {r : List α} {t' : τ}
    (hc : clean s) (hfuel : s.length < fuel) :
    commaLoop skip scan comma close fuel true s t = some (r, t') ↔
      ∃ xs, CommaBody gap item comma close s xs r ∧ xs.foldlM accept t = some t' := by
  constructor
  · exact commaLoop_sound hskip hscan hclean fuel hc
  · rintro ⟨xs, hbody, hfold⟩
    cases hbody with
    | empty hend =>
      obtain ⟨fuel, rfl⟩ : ∃ n, fuel = n + 1 := ⟨fuel - 1, by omega⟩
      obtain rfl : t = t' := by simpa using hfold
      simp [commaLoop, hskip.complete hc hend htoken.2]
    | items hgap hitems =>
      exact commaLoop_items hskip hscan hclean htoken hitem hne hitems hc hgap hfuel hfold

end Loop

end Foundations
