import Tabular.Proofs.Formula.Token

/-!
# Scanning a masked text

In a masked text whose quoted names contain no opening bracket, every opening bracket is that of a bracketed
token. The scanners look for names from every character on, also from within a token. So it has to be shown
that they find nothing there: a quote in a quoted name or behind it, taken for an opening one, begins a name
that is never followed by a bracket.
-/

namespace Tabular.Formula

open Text

variable {s t u rest body : List Char} {ts : List Token} {c : Char}

/-- A masked text with its tokens, where quoted names contain no opening bracket. -/
inductive MaskedText : List Char → List Token → Prop
  | nil : MaskedText [] []
  | quoted {s body rest : List Char} {ts : List Token} : StartsWithBody s body rest →
      rest.head? ≠ some '\'' → '[' ∉ body → MaskedText rest ts →
      MaskedText ('\'' :: s) (.quoted body :: ts)
  | bracketed {rest : List Char} {ts : List Token} (name : List Char) : MaskedText rest ts →
      MaskedText ('[' :: (blanksFor name ++ ']' :: rest)) (.bracketed name :: ts)
  | other {c : Char} {rest : List Char} {ts : List Token} : c ≠ '\'' → c ≠ '[' →
      MaskedText rest ts → MaskedText (c :: rest) (.other c :: ts)

section Read

theorem head?_mask (code : List Char) : (mask code).head? = code.head? := by
  cases code with
  | nil => rfl
  | cons c code => simp [mask, maskFrom]

theorem StartsWithBody.of_append (h : StartsWithBody s body rest) (rest' : List Char) :
    StartsWithBody (body ++ '\'' :: rest') body rest' := by
  induction h with
  | closed _ => exact .closed rest'
  | pair _ ih => exact ih.pair
  | char hc _ ih => exact ih.char hc

theorem head?_of_quotedBody (h : quotedBody s = some (body, rest)) : rest.head? ≠ some '\'' := by
  fun_induction quotedBody s generalizing body with
  | case1 => simp at h
  | case2 r ih =>
    obtain ⟨⟨b, t⟩, hr, he⟩ := Option.map_eq_some_iff.1 h
    exact ih (by rw [hr, ← (Prod.mk.inj he).2])
  | case3 r hr =>
    obtain ⟨rfl, rfl⟩ := Prod.mk.inj (Option.some.inj h)
    cases r with
    | nil => simp
    | cons c r =>
      intro hc
      exact hr r (by rw [Option.some.inj hc])
  | case4 c r _ _ ih =>
    obtain ⟨⟨b, t⟩, hr, he⟩ := Option.map_eq_some_iff.1 h
    exact ih (by rw [hr, ← (Prod.mk.inj he).2])

/-- A body is read up to the quote that no other one follows. -/
theorem StartsWithBody.quotedBody_eq (h : StartsWithBody s body rest)
    (hr : rest.head? ≠ some '\'') : quotedBody s = some (body, rest) := by
  induction h with
  | closed rest =>
    rw [quotedBody]
    rintro r rfl
    exact hr rfl
  | pair _ ih => simp [quotedBody, ih hr]
  | char hc _ ih => simp [quotedBody, hc, ih hr]

theorem maskedText_of_readTokens {code : List Char} (h : readTokens code = some ts)
    (hq : ∀ body, .quoted body ∈ ts → '[' ∉ body) : MaskedText (mask code) ts := by
  fun_induction readTokens code generalizing ts with
  | case1 =>
    obtain rfl := Option.some.inj h
    exact .nil
  | case2 cs body rest hb ih =>
    obtain ⟨us, hr, rfl⟩ := Option.map_eq_some_iff.1 h
    have hs := startsWithBody_of_quotedBody hb
    have hm : mask ('\'' :: cs) = '\'' :: (body ++ '\'' :: mask rest) := by
      rw [← hs.maskFrom_quote]
      rfl
    rw [hm]
    refine .quoted (hs.of_append _) ?_ (hq body List.mem_cons_self) (ih hr ?_)
    · rw [head?_mask]
      exact head?_of_quotedBody hb
    · exact fun body hb => hq body (List.mem_cons_of_mem _ hb)
  | case3 cs hb => simp at h
  | case4 cs name rest hs ih =>
    obtain ⟨us, hr, rfl⟩ := Option.map_eq_some_iff.1 h
    obtain ⟨rfl, hn⟩ := splitAtFirst_eq_some hs
    rw [mask_bracketed hn]
    exact .bracketed name (ih hr fun body hb => hq body (List.mem_cons_of_mem _ hb))
  | case5 cs hs => simp at h
  | case6 c cs hquote hbracket ih =>
    obtain ⟨us, hr, rfl⟩ := Option.map_eq_some_iff.1 h
    rw [mask_cons hbracket hquote]
    exact .other hquote hbracket (ih hr fun body hb => hq body (List.mem_cons_of_mem _ hb))

end Read

section Outside

theorem quotedBody_append (h : '\'' ∉ u) (s : List Char) :
    quotedBody (u ++ s) = (quotedBody s).map fun p => (u ++ p.1, p.2) := by
  induction u with
  | nil => simp
  | cons c u ih =>
    rw [List.mem_cons, not_or] at h
    have hc : c ≠ '\'' := Ne.symm h.1
    rw [List.cons_append, quotedBody, ih h.2, Option.map_map]
    · rfl
    · exact fun _ hq => absurd hq hc
    · exact hc

theorem exists_quotedBody_of_append {b r : List Char} (h : '\'' ∉ u)
    (hb : quotedBody (u ++ s) = some (b, r)) : ∃ b', quotedBody s = some (b', r) := by
  rw [quotedBody_append h] at hb
  obtain ⟨⟨b', r'⟩, hr, he⟩ := Option.map_eq_some_iff.1 hb
  exact ⟨b', by rw [hr, ← (Prod.mk.inj he).2]⟩

/-- What is read behind the opening quote of a quoted token, as if it were outside, ends before no
bracket. -/
theorem StartsWithBody.head?_of_quotedBody_cons {b r : List Char} (h : StartsWithBody s body rest)
    (hn : '[' ∉ body)
    (hrest : ∀ b r, quotedBody rest = some (b, r) → r.head? ≠ some '[')
    (hb : quotedBody ('\'' :: s) = some (b, r)) : r.head? ≠ some '[' := by
  induction h generalizing b with
  | closed rest =>
    obtain ⟨⟨b', r'⟩, hr, he⟩ := Option.map_eq_some_iff.1 hb
    obtain ⟨-, rfl⟩ := Prod.mk.inj he
    exact hrest b' r' hr
  | pair _ ih =>
    rw [quotedBody] at hb
    obtain ⟨⟨b', r'⟩, hr, he⟩ := Option.map_eq_some_iff.1 hb
    obtain ⟨-, rfl⟩ := Prod.mk.inj he
    refine ih ?_ hrest hr
    exact fun hm => hn (List.mem_cons_of_mem _ (List.mem_cons_of_mem _ hm))
  | @char c s body rest hc _ _ =>
    -- here the quote is taken for a closing one, and a character of the name follows
    have he : quotedBody ('\'' :: c :: s) = some ([], c :: s) := by
      rw [quotedBody]
      rintro r hr
      exact hc (List.cons.inj hr).1
    rw [he] at hb
    obtain ⟨-, rfl⟩ := Prod.mk.inj (Option.some.inj hb)
    intro hh
    exact hn (by rw [Option.some.inj hh]; exact List.mem_cons_self)

/-- A quote that is taken for an opening one between two tokens begins a name before no bracket. -/
theorem MaskedText.head?_of_quotedBody (h : MaskedText s ts) :
    ∀ b r, quotedBody s = some (b, r) → r.head? ≠ some '[' := by
  induction h with
  | nil =>
    intro b r hb
    simp [quotedBody] at hb
  | quoted hs _ hn _ ih => exact fun b r => hs.head?_of_quotedBody_cons hn ih
  | @bracketed rest ts name _ ih =>
    intro b r hb
    have hq : '\'' ∉ '[' :: (blanksFor name ++ [']']) := by
      intro hm
      simp only [List.mem_cons, List.mem_append, List.not_mem_nil, or_false] at hm
      rcases hm with hm | hm | hm
      · exact absurd hm (by decide)
      · exact notMem_blanksFor (by decide) hm
      · exact absurd hm (by decide)
    have he : '[' :: (blanksFor name ++ ']' :: rest) = '[' :: (blanksFor name ++ [']']) ++ rest := by
      simp
    rw [he] at hb
    obtain ⟨b', hb'⟩ := exists_quotedBody_of_append hq hb
    exact ih b' r hb'
  | @other c rest ts hquote _ _ ih =>
    intro b r hb
    have hq : '\'' ∉ [c] := fun hm => hquote (List.mem_singleton.mp hm).symm
    obtain ⟨b', hb'⟩ := exists_quotedBody_of_append hq hb
    exact ih b' r hb'

end Outside

section Columns

/-- No column with its table begins here. -/
def NoColumnAt (s : List Char) : Prop :=
  ∀ written name rest, tableAt? s = some (written, name, rest) → bracketAt? rest = none

theorem NoColumnAt.qualifiedAt?_eq (h : NoColumnAt s) (offset : Nat) :
    qualifiedAt? offset s = none := by
  unfold qualifiedAt?
  split
  · next ht => rw [h _ _ _ ht]
  · rfl

theorem bracketAt?_of_head? (h : s.head? ≠ some '[') : bracketAt? s = none := by
  unfold bracketAt?
  split
  · exact absurd rfl h
  · rfl

theorem noColumnAt_of_other (hq : c ≠ '\'') (hs : isTableStart c = false) (s : List Char) :
    NoColumnAt (c :: s) := by
  intro written name rest ht
  have hn : tableAt? (c :: s) = none := by
    unfold tableAt?
    split <;> simp_all
  simp [hn] at ht

theorem tableAt?_of_start (hc : isTableStart c = true) (s : List Char) :
    tableAt? (c :: s) =
      some (c :: s.takeWhile isTableChar, c :: s.takeWhile isTableChar, s.dropWhile isTableChar) := by
  have hq : c ≠ '\'' := by
    rintro rfl
    exact absurd hc (by decide)
  unfold tableAt?
  split <;> simp_all

theorem noColumnAt_quote
    (h : ∀ b r, quotedBody s = some (b, r) → b = [] ∨ bracketAt? r = none) :
    NoColumnAt ('\'' :: s) := by
  intro written name rest ht
  unfold tableAt? at ht
  split at ht
  · next cs he =>
    obtain ⟨-, rfl⟩ := List.cons.inj he
    split at ht
    · simp at ht
    · simp at ht
    · next body r hne hb =>
      simp only [Option.some.injEq, Prod.mk.injEq] at ht
      exact ht.2.2 ▸ (h body r hb).resolve_left hne
  · next c cs hn he => exact absurd (List.cons.inj he).1.symm hn
  · simp at ht

theorem noColumnAt_of_quotedBody (h : quotedBody s = some (body, rest))
    (hb : body = [] ∨ bracketAt? rest = none) : NoColumnAt ('\'' :: s) := by
  apply noColumnAt_quote
  intro b r hr
  rw [h, Option.some.injEq, Prod.mk.injEq] at hr
  rwa [← hr.1, ← hr.2]

/-- Where no column begins the scanner goes on with the next character. -/
theorem qualifiedMatches_cons (h : NoColumnAt (c :: s)) (offset : Nat) :
    qualifiedMatches offset (c :: s) = qualifiedMatches (offset + c.utf8Size) s := by
  have hn := h.qualifiedAt?_eq offset
  rw [qualifiedMatches]
  split
  · next hs => simp [hn] at hs
  · rfl

theorem qualifiedMatches_append (h : ∀ v, v <:+ u → v ≠ [] → NoColumnAt (v ++ s)) (offset : Nat) :
    qualifiedMatches offset (u ++ s) = qualifiedMatches (offset + utf8Length u) s := by
  induction u generalizing offset with
  | nil => rfl
  | cons c u ih =>
    have hc : NoColumnAt (c :: (u ++ s)) := h (c :: u) (List.suffix_refl _) (List.cons_ne_nil c u)
    have hu : ∀ v, v <:+ u → v ≠ [] → NoColumnAt (v ++ s) := fun v hv =>
      h v (hv.trans (List.suffix_cons c u))
    rw [List.cons_append, qualifiedMatches_cons hc, ih hu, utf8Length_cons, Nat.add_assoc]

/-- No column begins in a plain name that no bracket follows. -/
theorem qualifiedMatches_plain (hu : ∀ c ∈ u, isTableChar c = true)
    (hs : ∀ c ∈ s.head?, isTableChar c = false) (hb : bracketAt? s = none) (offset : Nat) :
    qualifiedMatches offset (u ++ s) = qualifiedMatches (offset + utf8Length u) s := by
  apply qualifiedMatches_append
  intro v hv hne
  obtain ⟨c, v, rfl⟩ := List.exists_cons_of_ne_nil hne
  have hmem : ∀ d ∈ c :: v, isTableChar d = true := fun d hd => hu d (hv.subset hd)
  have hq : c ≠ '\'' := by
    rintro rfl
    exact absurd (hmem _ List.mem_cons_self) (by decide)
  cases hc : isTableStart c with
  | false => exact noColumnAt_of_other hq hc _
  | true =>
    intro written name rest ht
    have hdrop : (v ++ s).dropWhile isTableChar = s := by
      rw [List.dropWhile_append_of_pos fun d hd => hmem d (List.mem_cons_of_mem c hd)]
      cases s with
      | nil => rfl
      | cons d s => exact List.dropWhile_cons_of_neg (by simpa using hs d rfl)
    rw [List.cons_append, tableAt?_of_start hc, hdrop] at ht
    simp only [Option.some.injEq, Prod.mk.injEq] at ht
    rw [← ht.2.2, hb]

theorem StartsWithBody.head?_dropWhile (h : StartsWithBody s body rest) (hn : '[' ∉ body) :
    (s.dropWhile isTableChar).head? ≠ some '[' := by
  rw [h.eq_append, dropWhile_append_stop (by decide)]
  intro hh
  have hm : '[' ∈ body.dropWhile isTableChar := by
    cases hd : body.dropWhile isTableChar with
    | nil => simp [hd] at hh
    | cons c cs =>
      rw [hd] at hh
      rw [Option.some.inj hh]
      exact List.mem_cons_self
  exact hn ((List.dropWhile_sublist isTableChar).subset hm)

/-- No column begins in a quoted name behind its opening quote, unless nothing but the closing quote
is left of it: no bracket follows. -/
theorem StartsWithBody.qualifiedMatches_eq (h : StartsWithBody s body rest) (hn : '[' ∉ body)
    (hr : rest.head? ≠ some '\'')
    (hrest : ∀ b r, quotedBody rest = some (b, r) → r.head? ≠ some '[')
    (hb : body = [] ∨ bracketAt? rest = none) (offset : Nat) :
    qualifiedMatches offset s = qualifiedMatches (offset + utf8Length body + 1) rest := by
  induction h generalizing offset with
  | closed rest =>
    apply qualifiedMatches_cons
    exact noColumnAt_quote fun b r hq => .inr (bracketAt?_of_head? (hrest b r hq))
  | @pair s body rest hs ih =>
    have hrb : bracketAt? rest = none := hb.resolve_left (List.cons_ne_nil _ _)
    have hn' : '[' ∉ body := fun hm => hn (List.mem_cons_of_mem _ (List.mem_cons_of_mem _ hm))
    have h₁ : NoColumnAt ('\'' :: '\'' :: s) := noColumnAt_quote fun b r hq =>
      .inr (bracketAt?_of_head? (hs.head?_of_quotedBody_cons hn' hrest hq))
    have h₂ : NoColumnAt ('\'' :: s) := noColumnAt_of_quotedBody (hs.quotedBody_eq hr) (.inr hrb)
    have hl : '\''.utf8Size = 1 := rfl
    rw [qualifiedMatches_cons h₁, qualifiedMatches_cons h₂, ih hn' hr hrest (.inr hrb),
      utf8Length_cons, utf8Length_cons, hl]
    congr 1
    omega
  | @char c s body rest hc hs ih =>
    have hrb : bracketAt? rest = none := hb.resolve_left (List.cons_ne_nil _ _)
    have hn' : '[' ∉ body := fun hm => hn (List.mem_cons_of_mem _ hm)
    have h₁ : NoColumnAt (c :: s) := by
      cases ht : isTableStart c with
      | false => exact noColumnAt_of_other hc ht s
      | true =>
        intro written name r hw
        rw [tableAt?_of_start ht, Option.some.injEq, Prod.mk.injEq, Prod.mk.injEq] at hw
        rw [← hw.2.2]
        exact bracketAt?_of_head? (hs.head?_dropWhile hn')
    rw [qualifiedMatches_cons h₁, ih hn' hr hrest (.inr hrb), utf8Length_cons, ← Nat.add_assoc]

end Columns

end Tabular.Formula
