import Tabular.Proofs.Formula.Bracket
import Tabular.Proofs.Formula.Match
import Tabular.Proofs.Graph.Entries
import Tabular.Proofs.Text.Search

/-!
# References and tokens

Read from left to right, a stripped formula is a sequence of quoted names, bracketed names and other
characters. Masking works token by token, so an opening bracket of the masked text either is that of
a bracketed name, which the scanners then find as a whole, or stands in a quoted name. Only from the
latter can the scanners take what is no reference.
-/

namespace Tabular.Formula

open Text

inductive Token where
  /-- A quoted name, with its quotes still doubled. -/
  | quoted (body : List Char)
  | bracketed (name : List Char)
  | other (c : Char)
  deriving DecidableEq, Repr

namespace Token

/-- A token as it is written. -/
def text : Token → List Char
  | quoted body => '\'' :: (body ++ ['\''])
  | bracketed name => '[' :: (name ++ [']'])
  | other c => [c]

/-- A token as it is left by masking. -/
def masked : Token → List Char
  | bracketed name => '[' :: (blanksFor name ++ [']'])
  | t => t.text

end Token

/-- The tokens of a stripped formula, unless some name is not closed. -/
def readTokens (code : List Char) : Option (List Token) :=
  match code with
  | [] => some []
  | '\'' :: cs =>
    match _ : quotedBody cs with
    | some (body, rest) => (readTokens rest).map (.quoted body :: ·)
    | none => none
  | '[' :: cs =>
    match _ : splitAtFirst ']' cs with
    | some (name, rest) => (readTokens rest).map (.bracketed name :: ·)
    | none => none
  | c :: cs => (readTokens cs).map (.other c :: ·)
termination_by code.length
decreasing_by
  · have := quotedBody_length ‹_›
    simp only [List.length_cons]
    omega
  · have := (splitAtFirst_eq_some ‹_›).1
    simp [this]
    omega
  · simp

def Token.WellFormed : Token → Prop
  | quoted _ => True
  | bracketed name => ']' ∉ name
  | other c => c ≠ '['

/-- The tokens of a text, which is both written and masked token by token. -/
structure Reads (code : List Char) (ts : List Token) : Prop where
  text : code = ts.flatMap Token.text
  mask : mask code = ts.flatMap Token.masked
  wellFormed : ∀ t ∈ ts, t.WellFormed

theorem Reads.cons {code rest : List Char} {t : Token} {ts : List Token} (h : Reads rest ts)
    (ht : code = t.text ++ rest) (hm : Formula.mask code = t.masked ++ Formula.mask rest)
    (hw : t.WellFormed) : Reads code (t :: ts) where
  text := by rw [ht, h.text, List.flatMap_cons]
  mask := by rw [hm, h.mask, List.flatMap_cons]
  wellFormed := List.forall_mem_cons.mpr ⟨hw, h.wellFormed⟩

theorem StartsWithBody.maskFrom_quote {s body rest : List Char} (h : StartsWithBody s body rest) :
    maskFrom .quote s = body ++ '\'' :: mask rest := by
  induction h with
  | closed rest => simp [maskFrom, Region.after, mask]
  | pair _ ih => simp [maskFrom, Region.after, ih]
  | char hc _ ih => simp [maskFrom, Region.after, ih, hc]

theorem reads_of_readTokens {code : List Char} {ts : List Token} (h : readTokens code = some ts) :
    Reads code ts := by
  fun_induction readTokens code generalizing ts with
  | case1 =>
    obtain rfl := Option.some.inj h
    exact ⟨rfl, rfl, List.forall_mem_nil _⟩
  | case2 cs body rest hq ih =>
    obtain ⟨us, hr, rfl⟩ := Option.map_eq_some_iff.1 h
    have hb := startsWithBody_of_quotedBody hq
    refine (ih hr).cons ?_ ?_ trivial
    · rw [hb.eq_append, Token.text, List.cons_append, List.append_assoc]
      rfl
    · have hm : mask ('\'' :: cs) = '\'' :: maskFrom .quote cs := rfl
      rw [hm, hb.maskFrom_quote, Token.masked, Token.text, List.cons_append, List.append_assoc]
      · rfl
      · exact fun _ h => by cases h
  | case3 cs hq => simp at h
  | case4 cs name rest hs ih =>
    obtain ⟨us, hr, rfl⟩ := Option.map_eq_some_iff.1 h
    obtain ⟨rfl, hn⟩ := splitAtFirst_eq_some hs
    refine (ih hr).cons ?_ ?_ hn
    · rw [Token.text, List.cons_append, List.append_assoc]
      rfl
    · rw [mask_bracketed hn, Token.masked, List.cons_append, List.append_assoc]
      rfl
  | case5 cs hs => simp at h
  | case6 c cs hq hb ih =>
    obtain ⟨us, hr, rfl⟩ := Option.map_eq_some_iff.1 h
    exact (ih hr).cons rfl (mask_cons hb hq cs) hb

/-- The span of the contents of a bracketed token. -/
def NameSpan (ts : List Token) (name : List Char) (span : Span) : Prop :=
  ∃ before after : List Token, ts = before ++ .bracketed name :: after ∧
    span = ⟨utf8Length (before.flatMap Token.text) + 1,
      utf8Length (before.flatMap Token.text) + 1 + utf8Length name⟩

/-- The span begins behind an opening bracket in a quoted token. -/
def OpensInQuote (ts : List Token) (span : Span) : Prop :=
  ∃ (before after : List Token) (s t : List Char), ts = before ++ .quoted (s ++ '[' :: t) :: after ∧
    span.first = utf8Length (before.flatMap Token.text) + utf8Length s + 2

theorem utf8Length_masked (ts : List Token) :
    utf8Length (ts.flatMap Token.masked) = utf8Length (ts.flatMap Token.text) := by
  induction ts with
  | nil => rfl
  | cons t ts ih =>
    cases t <;> simp [Token.masked, Token.text, utf8Length_blanksFor, ih]

theorem exists_token_of_flatMap {f : Token → List Char} {x : Char} {ts : List Token}
    {before after : List Char} (h : ts.flatMap f = before ++ x :: after) :
    ∃ us t vs s u, ts = us ++ t :: vs ∧ f t = s ++ x :: u ∧
      before = us.flatMap f ++ s ∧ after = u ++ vs.flatMap f := by
  induction ts generalizing before with
  | nil => simp at h
  | cons t ts ih =>
    -- the character is one of the first token, or else one of the others
    rw [List.flatMap_cons, List.append_eq_append_iff] at h
    have hrest : ∀ r, before = f t ++ r → ts.flatMap f = r ++ x :: after →
        ∃ us t' vs s u, t :: ts = us ++ t' :: vs ∧ f t' = s ++ x :: u ∧
          before = us.flatMap f ++ s ∧ after = u ++ vs.flatMap f := by
      intro r hb hr
      obtain ⟨us, t', vs, s, u, rfl, ht, rfl, ha⟩ := ih hr
      exact ⟨t :: us, t', vs, s, u, rfl, ht, by rw [hb, List.flatMap_cons, List.append_assoc], ha⟩
    obtain ⟨r, hb, hr⟩ | ⟨r, ht, hr⟩ := h
    · exact hrest r hb hr
    · cases r with
      | nil => exact hrest [] (by rw [ht, List.append_nil, List.append_nil]) hr.symm
      | cons y u =>
        rw [List.cons_append, List.cons.injEq] at hr
        obtain ⟨rfl, ha⟩ := hr
        exact ⟨[], t, ts, before, u, rfl, ht, rfl, ha⟩

theorem masked_quoted_eq {body s u : List Char} (h : (Token.quoted body).masked = s ++ '[' :: u) :
    ∃ s' u', s = '\'' :: s' ∧ body = s' ++ '[' :: u' := by
  have h : '\'' :: (body ++ ['\'']) = s ++ '[' :: u := h
  cases s with
  | nil => simp at h
  | cons q s =>
    rw [List.cons_append, List.cons.injEq, List.append_eq_append_iff] at h
    obtain ⟨rfl, ⟨r, -, hr⟩ | ⟨r, rfl, hr⟩⟩ := h
    · have hm : '[' ∈ ['\''] := hr ▸ List.mem_append_right r List.mem_cons_self
      simp at hm
    · cases r with
      | nil => simp at hr
      | cons x r =>
        rw [List.cons_append, List.cons.injEq] at hr
        exact ⟨s, r, rfl, by rw [hr.1]⟩

theorem masked_bracketed_eq {name s u : List Char}
    (h : (Token.bracketed name).masked = s ++ '[' :: u) : s = [] ∧ u = blanksFor name ++ [']'] := by
  have h : '[' :: (blanksFor name ++ [']']) = s ++ '[' :: u := h
  cases s with
  | nil => exact ⟨rfl, (List.cons.inj h).2.symm⟩
  | cons x s =>
    have hm : '[' ∈ blanksFor name ++ [']'] := by
      rw [(List.cons.inj h).2]
      exact List.mem_append_right s List.mem_cons_self
    obtain hm | hm := List.mem_append.mp hm
    · exact absurd (eq_blank_of_mem_blanksFor hm) (by decide)
    · simp at hm

/-- A bracket of the masked text is a bracketed token as a whole, or opens in a quoted one. -/
theorem nameSpan_or_opensInQuote {code : List Char} {ts : List Token} {span : Span}
    (h : Reads code ts) (hb : BracketSpan 0 (mask code) span) :
    (∃ name, NameSpan ts name span) ∨ OpensInQuote ts span := by
  obtain ⟨before, content, after, hm, hc, rfl⟩ := hb
  rw [h.mask] at hm
  obtain ⟨us, t, vs, s, u, rfl, ht, rfl, hu⟩ := exists_token_of_flatMap hm
  have hw := h.wellFormed t (by simp)
  cases t with
  | quoted body =>
    right
    obtain ⟨s, u', rfl, rfl⟩ := masked_quoted_eq ht
    refine ⟨us, vs, s, u', rfl, ?_⟩
    have hq : '\''.utf8Size = 1 := rfl
    simp only [utf8Length_append, utf8Length_masked, utf8Length_cons]
    omega
  | bracketed name =>
    left
    obtain ⟨rfl, rfl⟩ := masked_bracketed_eq ht
    have hb : ']' ∉ blanksFor name := fun hm => by simpa using eq_blank_of_mem_blanksFor hm
    have hn : content = blanksFor name := by
      rw [List.append_assoc] at hu
      exact (eq_of_append_cons_eq hc hb hu).1
    refine ⟨name, us, vs, rfl, ?_⟩
    rw [hn, List.append_nil, utf8Length_masked, utf8Length_blanksFor, Nat.zero_add]
  | other c =>
    have ht : [c] = s ++ '[' :: u := ht
    have hm : '[' ∈ [c] := ht ▸ List.mem_append_right s List.mem_cons_self
    exact absurd (List.mem_singleton.mp hm).symm hw

/-- What is cut out at the span of a bracketed token is its name. -/
theorem NameSpan.name?_eq {ts : List Token} {name : List Char} {span : Span}
    (h : NameSpan ts name span) :
    span.name? (ts.flatMap Token.text) = some (String.ofList (trim name)) := by
  obtain ⟨us, vs, rfl, rfl⟩ := h
  have ht : (us ++ Token.bracketed name :: vs).flatMap Token.text =
      (us.flatMap Token.text ++ ['[']) ++ name ++ (']' :: vs.flatMap Token.text) := by
    simp [Token.text]
  have hl : utf8Length (us.flatMap Token.text) + 1 = utf8Length (us.flatMap Token.text ++ ['[']) := by
    rw [utf8Length_append]
    rfl
  rw [Span.name?, ht, hl, sliceUtf8_append]
  rfl

theorem NameSpan.mem {ts : List Token} {name : List Char} {span : Span} (h : NameSpan ts name span) :
    .bracketed name ∈ ts := by
  obtain ⟨us, vs, rfl, -⟩ := h
  simp

namespace References

/-- The spans in a stripped formula out of which names in brackets and columns are cut. -/
def spans (code : List Char) : List Span :=
  bracketMatches none 0 (mask code) ++ (qualifiedMatches 0 (mask code)).map (·.column)

theorem bracketSpan_of_mem_spans {code : List Char} {span : Span} (h : span ∈ spans code) :
    BracketSpan 0 (mask code) span := by
  obtain h | h := List.mem_append.mp h
  · exact bracketSpan_of_mem_bracketMatches h
  · obtain ⟨m, hm, rfl⟩ := List.mem_map.mp h
    exact bracketSpan_of_mem_qualifiedMatches hm

theorem exists_span_of_mem_brackets {code : List Char} {name : String}
    (h : name ∈ (ofCode code).brackets) : ∃ span ∈ spans code, span.name? code = some name := by
  rw [ofCode, mem_distinct, List.mem_filter, List.mem_filterMap] at h
  obtain ⟨⟨span, hs, hn⟩, -⟩ := h
  exact ⟨span, List.mem_append_left _ hs, hn⟩

theorem exists_span_of_mem_qualified {code : List Char} {p : String × String}
    (h : p ∈ (ofCode code).qualified) : ∃ span ∈ spans code, span.name? code = some p.2 := by
  rw [ofCode, mem_distinct, List.mem_filterMap] at h
  obtain ⟨m, hm, hp⟩ := h
  obtain ⟨column, hn, rfl⟩ := Option.map_eq_some_iff.mp hp
  exact ⟨m.column, List.mem_append_right _ (List.mem_map.mpr ⟨m, hm, rfl⟩), hn⟩

/-- In a formula whose names are closed, a reference is cut out of one bracketed token as a whole, or
its bracket opens in a quoted name. If no quoted name contains an opening bracket, then every name in
brackets and every column is the trimmed content of a bracketed token, and nothing that a quoted name
contains belongs to a reference. -/
theorem reference_of_bracketed {formula : List Char} {ts : List Token}
    (h : readTokens (strip formula) = some ts) :
    (∀ span ∈ spans (strip formula), (∃ name, NameSpan ts name span) ∨ OpensInQuote ts span) ∧
      ((∀ body, .quoted body ∈ ts → '[' ∉ body) →
        (∀ span ∈ spans (strip formula), ∃ name, NameSpan ts name span) ∧
        (∀ name ∈ (ofFormula formula).brackets,
          ∃ content, .bracketed content ∈ ts ∧ name = String.ofList (trim content)) ∧
        ∀ p ∈ (ofFormula formula).qualified,
          ∃ content, .bracketed content ∈ ts ∧ p.2 = String.ofList (trim content)) := by
  have hr := reads_of_readTokens h
  have hs : ∀ span ∈ spans (strip formula), (∃ name, NameSpan ts name span) ∨ OpensInQuote ts span :=
    fun span hspan => nameSpan_or_opensInQuote hr (bracketSpan_of_mem_spans hspan)
  refine ⟨hs, fun hq => ?_⟩
  have hname : ∀ span ∈ spans (strip formula), ∃ name, NameSpan ts name span := by
    intro span hspan
    obtain hn | ⟨us, vs, s, t, rfl, -⟩ := hs span hspan
    · exact hn
    · exact absurd (List.mem_append_right s List.mem_cons_self) (hq (s ++ '[' :: t) (by simp))
  have hcut : ∀ span ∈ spans (strip formula), ∀ name, span.name? (strip formula) = some name →
      ∃ content, .bracketed content ∈ ts ∧ name = String.ofList (trim content) := by
    intro span hspan name hn
    obtain ⟨content, hc⟩ := hname span hspan
    rw [hr.text, hc.name?_eq, Option.some.injEq] at hn
    exact ⟨content, hc.mem, hn.symm⟩
  refine ⟨hname, fun name hb => ?_, fun p hp => ?_⟩
  · obtain ⟨span, hspan, hn⟩ := exists_span_of_mem_brackets hb
    exact hcut span hspan name hn
  · obtain ⟨span, hspan, hn⟩ := exists_span_of_mem_qualified hp
    exact hcut span hspan p.2 hn

/-- A quoted name with an escaped quote, and two bracketed names. -/
theorem reference_of_bracketed_escaped :
    let formula := "'It''s'[A]+[ b ]".toList
    let ts : List Token := [.quoted "It''s".toList, .bracketed "A".toList, .other '+',
      .bracketed " b ".toList]
    readTokens (strip formula) = some ts ∧ (∀ body, .quoted body ∈ ts → '[' ∉ body) ∧
      ofFormula formula = ⟨["b"], [("It's", "A")], []⟩ ∧
      ∀ name ∈ (ofFormula formula).brackets,
        ∃ content, .bracketed content ∈ ts ∧ name = String.ofList (trim content) := by
  have ht : readTokens (strip "'It''s'[A]+[ b ]".toList) = some [.quoted "It''s".toList,
      .bracketed "A".toList, .other '+', .bracketed " b ".toList] := by decide +kernel
  have hq : ∀ body, Token.quoted body ∈ [.quoted "It''s".toList, .bracketed "A".toList, .other '+',
      .bracketed " b ".toList] → '[' ∉ body := by simp
  exact ⟨ht, hq, by decide +kernel, ((reference_of_bracketed ht).2 hq).2.1⟩

/-- The brackets in a quoted name are taken for a reference, though no bracketed name is there. -/
theorem quoted_name_taken_for_reference :
    let formula := "COUNTROWS('Sales [EU]')".toList
    ∃ ts, readTokens (strip formula) = some ts ∧ .quoted [] ∉ ts ∧
      "EU" ∈ (ofFormula formula).brackets ∧ ∀ content, .bracketed content ∉ ts := by
  refine ⟨"COUNTROWS(".toList.map .other ++ [.quoted "Sales [EU]".toList, .other ')'],
    by decide +kernel, by decide, by decide +kernel, by simp⟩

end References

end Tabular.Formula
