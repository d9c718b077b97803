import Tabular.Formula.Mask
import Tabular.Formula.Strip
import Tabular.Proofs.Formula.Bracket
import Tabular.Proofs.Text.Trim

/-!
# What stands between delimiters

A literal, a comment or a bracketed name that begins at the top level of a formula is read to the
delimiter that closes it, whatever it contains. Of a literal and of a comment nothing depends on the
contents in what is left of the formula; of a bracketed name the contents stay where they were.
-/

namespace Tabular.Formula

open Text

/-- Where the character after a text stands of which the first one stands at a place. A quote at the
very end of the text is taken for the last one of its literal. -/
def placeAfter : Place → List Char → Place
  | r, [] => r
  | .code, '"' :: cs => placeAfter .literal cs
  | .code, '[' :: cs => placeAfter .bracket cs
  | .code, '\'' :: cs => placeAfter .quote cs
  | .code, '/' :: '/' :: cs => placeAfter .lineComment cs
  | .code, '-' :: '-' :: cs => placeAfter .lineComment cs
  | .code, '/' :: '*' :: cs => placeAfter .blockComment cs
  | .code, _ :: cs => placeAfter .code cs
  | .bracket, c :: cs => placeAfter (if c = ']' then .code else .bracket) cs
  | .quote, c :: cs => placeAfter (if c = '\'' then .code else .quote) cs
  | .literal, '"' :: '"' :: cs => placeAfter .literal cs
  | .literal, c :: cs => placeAfter (if c = '"' then .code else .literal) cs
  | .lineComment, c :: cs => placeAfter (if c = '\n' then .code else .lineComment) cs
  | .blockComment, '*' :: '/' :: cs => placeAfter .code cs
  | .blockComment, _ :: cs => placeAfter .blockComment cs

/-- The region of a stripped formula in which what is left of a place stands. -/
def Place.region : Place → Region
  | bracket => .bracket
  | quote => .quote
  | code | literal | lineComment | blockComment => .code

/-- A text that ends in no character that could begin a comment together with the next one. -/
def EndsClear (p : List Char) : Prop := p.getLast? ≠ some '/' ∧ p.getLast? ≠ some '-'

/-- A text after which a formula is at its top level, whatever comes next. -/
structure AtTopLevel (p : List Char) : Prop where
  place : placeAfter .code p = .code
  clear : EndsClear p

instance (p : List Char) : Decidable (EndsClear p) :=
  inferInstanceAs (Decidable (p.getLast? ≠ some '/' ∧ p.getLast? ≠ some '-'))

instance (p : List Char) : Decidable (AtTopLevel p) :=
  decidable_of_iff (placeAfter .code p = .code ∧ EndsClear p)
    ⟨fun h => ⟨h.1, h.2⟩, fun h => ⟨h.place, h.clear⟩⟩

section Prefix

variable {r r' : Place} {c : Char} {p cs : List Char}

theorem EndsClear.tail (h : EndsClear (c :: cs)) : EndsClear cs := by
  cases cs with
  | nil => simp [EndsClear]
  | cons e es => rwa [EndsClear, List.getLast?_cons_cons] at h

theorem EndsClear.ne_nil (h : EndsClear (c :: cs)) (hc : c = '/' ∨ c = '-') : cs ≠ [] := by
  rintro rfl
  obtain rfl | rfl := hc
  · exact h.1 rfl
  · exact h.2 rfl

/-- What is left of a text does not depend on what follows it. What follows is read as code, or else
as the rest of a literal whose last quote is the end of the text. -/
def Splits (r : Place) (p : List Char) : Prop :=
  ∃ s : List Char, s.foldl Region.after r.region = .code ∧
    ((∀ t, stripFrom r (p ++ t) = s ++ stripFrom .code t) ∨
      ∀ t, stripFrom r (p ++ t) = s ++ stripFrom .literal ('"' :: t))

/-- The first piece of the text leaves a mark, whatever follows it. -/
theorem Splits.step (piece mark : List Char) (h : Splits r' cs)
    (hs : ∀ t, stripFrom r (piece ++ (cs ++ t)) = mark ++ stripFrom r' (cs ++ t))
    (hm : mark.foldl Region.after r.region = r'.region) : Splits r (piece ++ cs) := by
  obtain ⟨s, hr, ht⟩ := h
  refine ⟨mark ++ s, by rw [List.foldl_append, hm, hr], ht.imp (fun ht t => ?_) fun ht t => ?_⟩
  · rw [List.append_assoc, hs, ht, List.append_assoc]
  · rw [List.append_assoc, hs, ht, List.append_assoc]

theorem ne_cons_append {d : Char} (hn : cs ≠ []) (h : ∀ u, cs ≠ d :: u) (t u : List Char) :
    cs ++ t ≠ d :: u := by
  obtain ⟨e, es, rfl⟩ := List.exists_cons_of_ne_nil hn
  intro he
  rw [List.cons_append, List.cons.injEq] at he
  exact h es (by rw [he.1])

/-- A character of code is kept that begins neither a name nor a literal nor a comment. -/
theorem stripFrom_code_cons (h₁ : c ≠ '"') (h₂ : c ≠ '[') (h₃ : c ≠ '\'')
    (h₄ : c = '/' → ∀ u, cs ≠ '/' :: u) (h₅ : c = '-' → ∀ u, cs ≠ '-' :: u)
    (h₆ : c = '/' → ∀ u, cs ≠ '*' :: u) : stripFrom .code (c :: cs) = c :: stripFrom .code cs := by
  rw [stripFrom] <;> grind

/-- A text that ends at the top level splits the formula. -/
theorem splits_of_placeAfter (h : placeAfter r p = .code) (hc : EndsClear p) : Splits r p := by
  fun_induction placeAfter r p
  case case1 => exact ⟨[], by rw [h]; rfl, .inl fun t => by rw [h]; rfl⟩
  case case2 cs ih =>
    exact .step ['"'] ['"', '"'] (ih h hc.tail) (fun t => by simp [stripFrom]) rfl
  case case3 cs ih => exact .step ['['] ['['] (ih h hc.tail) (fun t => by simp [stripFrom]) rfl
  case case4 cs ih => exact .step ['\''] ['\''] (ih h hc.tail) (fun t => by simp [stripFrom]) rfl
  case case5 cs ih =>
    exact .step ['/', '/'] [' '] (ih h hc.tail.tail) (fun t => by simp [stripFrom]) rfl
  case case6 cs ih =>
    exact .step ['-', '-'] [' '] (ih h hc.tail.tail) (fun t => by simp [stripFrom]) rfl
  case case7 cs ih =>
    exact .step ['/', '*'] [' '] (ih h hc.tail.tail) (fun t => by simp [stripFrom]) rfl
  case case8 c cs h₁ h₂ h₃ h₄ h₅ h₆ ih =>
    -- no two characters make a comment, not even the last one with what follows
    refine .step [c] [c] (ih h hc.tail) (fun t => ?_) ?_
    · exact stripFrom_code_cons h₁ h₂ h₃
        (fun e => ne_cons_append (hc.ne_nil (.inl e)) (fun u => h₄ u e) t)
        (fun e => ne_cons_append (hc.ne_nil (.inr e)) (fun u => h₅ u e) t)
        fun e => ne_cons_append (hc.ne_nil (.inl e)) (fun u => h₆ u e) t
    · rw [List.foldl_cons, Place.region, Region.after, if_neg h₂, if_neg h₃]
      rfl
  case case9 c cs ih =>
    refine .step [c] [c] (ih h hc.tail) (fun t => by simp [stripFrom]) ?_
    by_cases he : c = ']' <;> simp [he, Place.region, Region.after]
  case case10 c cs ih =>
    refine .step [c] [c] (ih h hc.tail) (fun t => by simp [stripFrom]) ?_
    by_cases he : c = '\'' <;> simp [he, Place.region, Region.after]
  case case11 cs ih =>
    exact .step ['"', '"'] [] (ih h hc.tail.tail) (fun t => by simp [stripFrom]) rfl
  case case12 c cs hn ih =>
    -- a quote that ends the text may turn out to be the first of a pair
    by_cases he : c = '"' ∧ cs = []
    · obtain ⟨rfl, rfl⟩ := he
      exact ⟨[], rfl, .inr fun t => rfl⟩
    · refine .step [c] [] (ih h hc.tail) (fun t => ?_) (by split <;> rfl)
      rw [List.singleton_append, stripFrom]
      · rfl
      · intro u hq
        have hne : cs ≠ [] := fun hcs => he ⟨hq, hcs⟩
        exact ne_cons_append hne (fun u => hn u hq) t u
  case case13 c cs ih =>
    by_cases he : c = '\n'
    · exact .step [c] [c] (ih h hc.tail) (fun t => by simp [stripFrom, he]) (by simp [he]; rfl)
    · exact .step [c] [] (ih h hc.tail) (fun t => by simp [stripFrom, he]) (by simp [he])
  case case14 cs ih =>
    exact .step ['*', '/'] [] (ih h hc.tail.tail) (fun t => by simp [stripFrom]) rfl
  case case15 c cs hn ih =>
    have hne : cs ≠ [] := by
      rintro rfl
      simp [placeAfter] at h
    refine .step [c] [] (ih h hc.tail) (fun t => ?_) rfl
    rw [List.singleton_append, stripFrom]
    · rfl
    · intro u hs
      exact ne_cons_append hne (fun u => hn u hs) t u

end Prefix

section Blank

variable {b : Char} {p : List Char}

theorem ne_cons_append_of_blank {d : Char} (hb : isBlank b = true) (hd : isBlank d = false)
    (h : ∀ u, p ≠ d :: u) (t u : List Char) : p ++ b :: t ≠ d :: u := by
  by_cases hn : p = []
  · subst hn
    intro he
    rw [(List.cons.inj he).1, hd] at hb
    exact absurd hb (by decide)
  · exact ne_cons_append hn h _ u

/-- What is left of a text does not depend on what follows behind a blank. -/
theorem stripFrom_append_blank (hb : isBlank b = true) (r : Place) (p t : List Char) :
    stripFrom r (p ++ b :: t) = stripFrom r p ++ stripFrom (placeAfter r p) (b :: t) := by
  fun_induction placeAfter r p with
  | case1 => simp [stripFrom]
  | case2 cs ih | case3 cs ih | case4 cs ih | case5 cs ih | case6 cs ih | case7 cs ih
  | case11 cs ih | case14 cs ih => simp [stripFrom, ih]
  | case8 c cs h₁ h₂ h₃ h₄ h₅ h₆ ih =>
    -- no two characters make a comment, not even the last one with the blank
    have hslash : c = '/' → ∀ u, cs ++ b :: t ≠ '/' :: u := fun hc =>
      ne_cons_append_of_blank hb (by decide) (fun u => h₄ u hc) t
    have hdash : c = '-' → ∀ u, cs ++ b :: t ≠ '-' :: u := fun hc =>
      ne_cons_append_of_blank hb (by decide) (fun u => h₅ u hc) t
    have hstar : c = '/' → ∀ u, cs ++ b :: t ≠ '*' :: u := fun hc =>
      ne_cons_append_of_blank hb (by decide) (fun u => h₆ u hc) t
    have hkeep : stripFrom .code (c :: cs) = c :: stripFrom .code cs :=
      stripFrom_code_cons h₁ h₂ h₃ (fun hc u => h₄ u hc) (fun hc u => h₅ u hc) fun hc u => h₆ u hc
    rw [List.cons_append, stripFrom_code_cons h₁ h₂ h₃ hslash hdash hstar, ih, hkeep,
      List.cons_append]
  | case9 c cs ih | case10 c cs ih => simp [stripFrom, ih]
  | case12 c cs hn ih =>
    rw [List.cons_append, stripFrom, stripFrom, ih]
    · exact fun u hc => hn u hc
    · exact fun u hc => ne_cons_append_of_blank hb (by decide) (fun u => hn u hc) t u
  | case13 c cs ih => by_cases hc : c = '\n' <;> simp_all [stripFrom]
  | case15 c cs hn ih =>
    rw [List.cons_append, stripFrom, stripFrom, ih]
    · exact fun u hc => hn u hc
    · exact fun u hc => ne_cons_append_of_blank hb (by decide) (fun u => hn u hc) t u

end Blank

inductive Delimiter where
  | bracket
  | literal
  /-- A comment that begins with two slashes. -/
  | slashes
  /-- A comment that begins with two dashes. -/
  | dashes
  | block
  deriving DecidableEq, Repr

/-- A text in which every double quote is one of a pair. -/
inductive QuotesDoubled : List Char → Prop
  | nil : QuotesDoubled []
  | pair {cs : List Char} : QuotesDoubled cs → QuotesDoubled ('"' :: '"' :: cs)
  | char {c : Char} {cs : List Char} : c ≠ '"' → QuotesDoubled cs → QuotesDoubled (c :: cs)

namespace Delimiter

def opening : Delimiter → List Char
  | bracket => ['[']
  | literal => ['"']
  | slashes => ['/', '/']
  | dashes => ['-', '-']
  | block => ['/', '*']

/-- A comment to the end of its line is closed by the end of the line, which is not part of it. -/
def closing : Delimiter → List Char
  | bracket => [']']
  | literal => ['"']
  | slashes | dashes => []
  | block => ['*', '/']

/-- The contents between the delimiters. -/
def enclose (d : Delimiter) (contents : List Char) : List Char :=
  d.opening ++ contents ++ d.closing

/-- Before what follows, the closing delimiter is the first one after the contents. -/
def Encloses : Delimiter → (contents next : List Char) → Prop
  | bracket, c, _ => ']' ∉ c
  | literal, c, q => QuotesDoubled c ∧ q.head? ≠ some '"'
  | slashes, c, q | dashes, c, q => '\n' ∉ c ∧ (q = [] ∨ q.head? = some '\n')
  | block, c, _ => ¬ ['*', '/'] <:+: c

/-- Where the contents stand. -/
def place : Delimiter → Place
  | bracket => .bracket
  | literal => .literal
  | slashes | dashes => .lineComment
  | block => .blockComment

/-- What is left of the opening delimiter. -/
def mark : Delimiter → List Char
  | bracket => ['[']
  | literal => ['"', '"']
  | slashes | dashes | block => [' ']

def kept : Delimiter → List Char → List Char
  | bracket, c => c ++ [']']
  | literal, _ | slashes, _ | dashes, _ | block, _ => []

theorem kept_eq_nil {d : Delimiter} (hd : d ≠ bracket) (c : List Char) : d.kept c = [] := by
  cases d with
  | bracket => exact absurd rfl hd
  | literal | slashes | dashes | block => rfl

end Delimiter

section Contents

variable {d : Delimiter} {c q : List Char}

theorem stripFrom_opening (d : Delimiter) (t : List Char) :
    stripFrom .code (d.opening ++ t) = d.mark ++ stripFrom d.place t := by
  cases d <;> simp [Delimiter.opening, Delimiter.mark, Delimiter.place, stripFrom]

theorem stripFrom_literal (hc : QuotesDoubled c) (hq : q.head? ≠ some '"') :
    stripFrom .literal (c ++ '"' :: q) = stripFrom .code q := by
  induction hc with
  | nil =>
    rw [List.nil_append, stripFrom]
    · rfl
    · rintro u - rfl
      exact hq rfl
  | pair _ ih => simpa [stripFrom] using ih
  | char hc _ ih =>
    rw [List.cons_append, stripFrom, if_neg hc, ih]
    exact fun u h => absurd h hc

theorem stripFrom_lineComment (hc : '\n' ∉ c) (hq : q = [] ∨ q.head? = some '\n') :
    stripFrom .lineComment (c ++ q) = stripFrom .code q := by
  induction c with
  | nil =>
    cases q with
    | nil => rfl
    | cons n q =>
      obtain rfl : n = '\n' := by simpa using hq
      simp [stripFrom]
  | cons x c ih =>
    rw [List.mem_cons, not_or] at hc
    rw [List.cons_append, stripFrom, if_neg (Ne.symm hc.1), ih hc.2]

theorem stripFrom_blockComment (hc : ¬ ['*', '/'] <:+: c) (q : List Char) :
    stripFrom .blockComment (c ++ '*' :: '/' :: q) = stripFrom .code q := by
  induction c with
  | nil => rfl
  | cons x c ih =>
    rw [List.cons_append, stripFrom, ih fun h => hc (h.trans (List.suffix_cons x c).isInfix)]
    rintro u rfl hu
    cases c with
    | nil => simp at hu
    | cons y c =>
      rw [List.cons_append, List.cons.injEq] at hu
      obtain ⟨rfl, -⟩ := hu
      exact hc (List.prefix_append ['*', '/'] c).isInfix

/-- Contents are read up to the delimiter that closes them. -/
theorem stripFrom_contents (h : d.Encloses c q) :
    stripFrom d.place (c ++ d.closing ++ q) = d.kept c ++ stripFrom .code q := by
  rw [List.append_assoc]
  cases d with
  | bracket => exact (stripFrom_bracket h q).trans (List.append_cons c ']' _)
  | literal => exact stripFrom_literal h.1 h.2
  | slashes | dashes => exact stripFrom_lineComment h.1 h.2
  | block => exact stripFrom_blockComment h q

end Contents

section Strip

variable {d : Delimiter} {p : List Char}

/-- What is left of a formula up to the contents of a delimiter. Only a literal may leave no mark of
its own: the one that continues a literal before it. -/
theorem exists_strip_enclosed (hp : AtTopLevel p) (d : Delimiter) :
    ∃ s m : List Char, s.foldl Region.after .code = .code ∧ (d ≠ .literal → m = d.mark) ∧
      ∀ {c q : List Char}, d.Encloses c q →
        strip (p ++ d.enclose c ++ q) = s ++ (m ++ (d.kept c ++ strip q)) := by
  have he : ∀ c q, p ++ d.enclose c ++ q = p ++ (d.opening ++ (c ++ d.closing ++ q)) := by
    intro c q
    simp [Delimiter.enclose]
  obtain ⟨s, hs, ht⟩ := splits_of_placeAfter hp.place hp.clear
  obtain ht | ht := ht
  · refine ⟨s, d.mark, hs, fun _ => rfl, fun {c q} h => ?_⟩
    rw [he, strip, ht, stripFrom_opening, stripFrom_contents h, strip]
  · by_cases hd : d = .literal
    · subst hd
      refine ⟨s, [], hs, fun h => absurd rfl h, fun {c q} h => ?_⟩
      rw [he, strip, ht, strip, List.nil_append, ← stripFrom_contents h]
      rfl
    · refine ⟨s, d.mark, hs, fun _ => rfl, fun {c q} h => ?_⟩
      have hq : (d.opening ++ (c ++ d.closing ++ q)).head? ≠ some '"' := by
        cases d <;> simp_all [Delimiter.opening]
      rw [he, strip, ht, strip, ← stripFrom_contents h, ← stripFrom_opening]
      exact congrArg (s ++ ·) (stripFrom_literal .nil hq)

theorem strip_eq_of_encloses (hp : AtTopLevel p) (hd : d ≠ .bracket) {c c' q : List Char}
    (hc : d.Encloses c q) (hc' : d.Encloses c' q) :
    strip (p ++ d.enclose c ++ q) = strip (p ++ d.enclose c' ++ q) := by
  obtain ⟨s, m, -, -, hs⟩ := exists_strip_enclosed hp d
  rw [hs hc, hs hc', Delimiter.kept_eq_nil hd, Delimiter.kept_eq_nil hd]

/-- A bracketed name at the top level stays between what is left of the rest. -/
theorem exists_strip_bracket (hp : AtTopLevel p) :
    ∃ s : List Char, s.foldl Region.after .code = .code ∧ ∀ {c q : List Char}, ']' ∉ c →
      strip (p ++ Delimiter.bracket.enclose c ++ q) = s ++ '[' :: (c ++ ']' :: strip q) := by
  obtain ⟨s, m, hs, hm, ht⟩ := exists_strip_enclosed hp .bracket
  refine ⟨s, hs, fun {c q} h => ?_⟩
  rw [ht h, hm (by decide), Delimiter.mark, Delimiter.kept, ← List.append_cons]
  rfl

end Strip

section Trim

theorem blank_not_special {b : Char} (hb : isBlank b = true) :
    b ≠ '"' ∧ b ≠ '[' ∧ b ≠ '\'' ∧ b ≠ '/' ∧ b ≠ '-' := by
  refine ⟨?_, ?_, ?_, ?_, ?_⟩ <;> (rintro rfl; revert hb; decide)

theorem placeAfter_cons_of_blank {b : Char} (hb : isBlank b = true) (s : List Char) :
    placeAfter .code (b :: s) = placeAfter .code s := by
  obtain ⟨h₁, h₂, h₃, h₄, h₅⟩ := blank_not_special hb
  rw [placeAfter] <;> intros <;> contradiction

theorem placeAfter_trimStart (p : List Char) :
    placeAfter .code (Text.trimStart p) = placeAfter .code p := by
  induction p with
  | nil => rfl
  | cons b p ih =>
    cases hb : isBlank b with
    | true => rw [trimStart_cons_of_blank hb, ih, placeAfter_cons_of_blank hb]
    | false => rw [trimStart_cons_of_not_blank hb]

theorem EndsClear.of_suffix {p s : List Char} (hp : EndsClear p) (h : s <:+ p) : EndsClear s := by
  obtain ⟨t, rfl⟩ := h
  by_cases hn : s = []
  · simp [EndsClear, hn]
  · rwa [EndsClear, List.getLast?_append_of_ne_nil _ hn] at hp

theorem AtTopLevel.trimStart {p : List Char} (hp : AtTopLevel p) : AtTopLevel (trimStart p) where
  place := (placeAfter_trimStart p).trans hp.place
  clear := hp.clear.of_suffix (List.dropWhile_suffix isBlank)

namespace Delimiter

variable {d : Delimiter} {c q : List Char}

theorem Encloses.shorten_next {q' : List Char} (h : d.Encloses c q) (hq : q' <+: q) :
    d.Encloses c q' := by
  have hh : q' = [] ∨ q'.head? = q.head? := by
    obtain ⟨t, rfl⟩ := hq
    cases q' <;> simp
  cases d with
  | bracket | block => exact h
  | literal => exact ⟨h.1, by obtain rfl | hh := hh <;> simp_all [h.2]⟩
  | slashes | dashes =>
    refine ⟨h.1, ?_⟩
    obtain rfl | hn := h.2
    · exact .inl (List.prefix_nil.mp hq)
    · exact hh.imp_right fun hh => hh.trans hn

theorem trimStart_enclose (d : Delimiter) (c q : List Char) :
    Text.trimStart (d.enclose c ++ q) = d.enclose c ++ q := by
  rw [trimStart_eq_self_iff]
  cases d <;> simp [enclose, opening] <;> decide

theorem trimEnd_opening (d : Delimiter) : trimEnd d.opening = d.opening := by
  cases d <;> decide

theorem trimEnd_closing (d : Delimiter) : trimEnd d.closing = d.closing := by
  cases d <;> decide

/-- Only a comment to the end of its line has no closing delimiter, and part of one is one. -/
theorem Encloses.shorten_contents {c' : List Char} (h : d.Encloses c q) (hn : d.closing = [])
    (hc : c' <+: c) : d.Encloses c' q := by
  cases d with
  | bracket | literal | block => simp [closing] at hn
  | slashes | dashes => exact ⟨fun hm => h.1 (hc.subset hm), h.2⟩

/-- Trimming a formula trims what is around a delimiter, and of a comment that ends the formula also
the contents. -/
theorem exists_trim_enclose (h : d.Encloses c q) (p : List Char) :
    ∃ c', d.Encloses c' (trimEnd q) ∧
      trim (p ++ d.enclose c ++ q) = Text.trimStart p ++ d.enclose c' ++ trimEnd q := by
  have hq := h.shorten_next (prefix_trimEnd q)
  have hb : isBlankText (d.enclose c ++ q) = false := by
    rw [enclose, List.append_assoc, List.append_assoc, isBlankText_append]
    cases d <;> rfl
  have hs : trim (p ++ d.enclose c ++ q) = Text.trimStart p ++ trimEnd (d.enclose c ++ q) := by
    rw [trim, List.append_assoc, trimStart_append_trimmed (trimStart_enclose d c q),
      trimEnd_append_of_not_blank hb]
  rw [hs]
  by_cases hn : d.closing = []
  · cases hb : isBlankText q with
    | false =>
      exact ⟨c, hq, by rw [trimEnd_append_of_not_blank hb, List.append_assoc]⟩
    | true =>
      refine ⟨trimEnd c, hq.shorten_contents hn (prefix_trimEnd c), ?_⟩
      have he : trimEnd q = [] := trimEnd_append_of_blank hb []
      rw [he, trimEnd_append_of_blank hb, enclose, enclose, hn, List.append_nil, List.append_nil,
        List.append_nil, trimEnd_trimmed_append (trimEnd_opening d)]
  · have he : trimEnd (d.enclose c) = d.enclose c := trimEnd_append (trimEnd_closing d) hn _
    exact ⟨c, hq, by rw [trimEnd_trimmed_append he, List.append_assoc]⟩

end Delimiter

end Trim

end Tabular.Formula
