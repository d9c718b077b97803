import Tabular.Proofs.Formula.TableName

/-!
# Which bracketed names are reported

A bracketed name is reported without a table unless a quote or a word character stands before it, and as
a column if a table name ends before it. The two tests look at different characters: a word character may
end no table name, and the bracketed name behind it is lost.
-/

namespace Tabular.Formula

open Text

variable {s : List Char} {us ts : List Token} {c : Char}

/-- A quote or a word character ends the tokens, so a bracket behind them is taken for one of a table. -/
def Touched (us : List Token) : Bool := isQualifier (us.flatMap Token.text).getLast?

/-- A bracketed name with the tokens before it. -/
structure Occurrence where
  before : List Token
  name : List Char
  deriving DecidableEq, Repr

namespace Occurrence

def span (o : Occurrence) : Span :=
  let first := utf8Length (o.before.flatMap Token.text) + 1
  ⟨first, first + utf8Length o.name⟩

/-- The span, if the name is reported without a table. -/
def bracket? (o : Occurrence) : Option Span :=
  if o.name = [] ∨ Touched o.before then none else some o.span

/-- The name as a column, if a table name ends before it. -/
def column? (o : Occurrence) : Option QualifiedMatch :=
  if o.name = [] then none else (Lead.ofTokens o.before).table?.map fun table => ⟨table, o.span⟩

def title (o : Occurrence) : String := String.ofList (trim o.name)

end Occurrence

/-- The bracketed names among tokens that follow others, from left to right. -/
def occurrencesFrom (us : List Token) : List Token → List Occurrence
  | [] => []
  | .bracketed name :: ts => ⟨us, name⟩ :: occurrencesFrom (us ++ [.bracketed name]) ts
  | t :: ts => occurrencesFrom (us ++ [t]) ts

theorem text_concat (us : List Token) (t : Token) :
    (us ++ [t]).flatMap Token.text = us.flatMap Token.text ++ t.text := by
  rw [List.flatMap_append, List.flatMap_singleton]

theorem utf8Length_concat (us : List Token) (t : Token) :
    utf8Length ((us ++ [t]).flatMap Token.text) =
      utf8Length (us.flatMap Token.text) + utf8Length t.text := by
  rw [text_concat, utf8Length_append]

theorem Occurrence.span_last_succ (us : List Token) (name : List Char) :
    (span ⟨us, name⟩).last + 1 = utf8Length ((us ++ [Token.bracketed name]).flatMap Token.text) := by
  rw [utf8Length_concat, Token.text, utf8Length_cons, utf8Length_append, utf8Length_cons,
    utf8Length_nil, span]
  have hopen : '['.utf8Size = 1 := rfl
  have hclose : ']'.utf8Size = 1 := rfl
  dsimp only
  omega

@[simp] theorem occurrencesFrom_quoted (us : List Token) (body : List Char) (ts : List Token) :
    occurrencesFrom us (.quoted body :: ts) = occurrencesFrom (us ++ [.quoted body]) ts := rfl

@[simp] theorem occurrencesFrom_other (us : List Token) (c : Char) (ts : List Token) :
    occurrencesFrom us (.other c :: ts) = occurrencesFrom (us ++ [.other c]) ts := rfl

section Columns

theorem bracketed_others (name : List Char) :
    ∀ c ∈ '[' :: (blanksFor name ++ [']']), c ≠ '\'' ∧ isTableStart c = false := by
  intro c hc
  simp only [List.mem_cons, List.mem_append, List.not_mem_nil, or_false] at hc
  obtain rfl | hc | rfl := hc
  · decide
  · rw [eq_blank_of_mem_blanksFor hc]
    decide
  · decide

/-- Behind these tokens the scanner finds the columns of the bracketed names that follow, also if it
has just begun to read a table name. -/
def ScansFrom (us : List Token) (s : List Char) (ts : List Token) : Prop :=
  ∀ offset, utf8Length (us.flatMap Token.text) =
      offset + utf8Length (Lead.ofTokens us).written →
    qualifiedMatches offset ((Lead.ofTokens us).written ++ s) =
      (occurrencesFrom us ts).filterMap Occurrence.column?

namespace ScansFrom

theorem of_none (h : ScansFrom us s ts) (hl : Lead.ofTokens us = .none) :
    qualifiedMatches (utf8Length (us.flatMap Token.text)) s =
      (occurrencesFrom us ts).filterMap Occurrence.column? := by
  have hs := h (utf8Length (us.flatMap Token.text)) (by rw [hl]; rfl)
  rwa [hl] at hs

theorem passed (hf : (Lead.ofTokens us).Fits s) (hm : MaskedText s ts)
    (hb : bracketAt? s = none ∨ Lead.ofTokens us = .none)
    (hc : ∀ name, Lead.ofTokens us = .plain name → ∀ c ∈ s.head?, isTableChar c = false)
    (h : qualifiedMatches (utf8Length (us.flatMap Token.text)) s =
      (occurrencesFrom us ts).filterMap Occurrence.column?) : ScansFrom us s ts := by
  intro offset hl
  rw [hf.qualifiedMatches_eq hm hb hc, ← hl, h]

theorem quoted {body rest : List Char} (hf : (Lead.ofTokens us).Fits ('\'' :: s))
    (hs : StartsWithBody s body rest) (hq : rest.head? ≠ some '\'') (hn : '[' ∉ body)
    (hm : MaskedText rest ts)
    (ih : (Lead.ofTokens (us ++ [.quoted body])).Fits rest →
      ScansFrom (us ++ [.quoted body]) rest ts) :
    ScansFrom us ('\'' :: s) (.quoted body :: ts) := by
  have hu := utf8Length_concat us (.quoted body)
  have hquote : '\''.utf8Size = 1 := rfl
  rw [Token.text, utf8Length_cons, utf8Length_append, utf8Length_cons, utf8Length_nil, hquote] at hu
  apply passed hf (.quoted hs hq hn hm) (.inl rfl)
  · rintro name - c hc
    obtain rfl := Option.some.inj hc
    decide
  by_cases hb : body = []
  · subst hb
    have hlead : Lead.ofTokens (us ++ [.quoted []]) = .none := Lead.ofTokens_concat us _
    have hrest := (ih (hlead ▸ .none)).of_none hlead
    rw [qualifiedMatches_cons (noColumnAt_of_quotedBody (hs.quotedBody_eq hq) (.inl rfl)),
      hs.qualifiedMatches_eq hn hq hm.head?_of_quotedBody (.inl rfl), hquote, utf8Length_nil]
    rw [hu] at hrest
    exact hrest
  · have hlead : Lead.ofTokens (us ++ [.quoted body]) = .quoted body := by
      rw [Lead.ofTokens_concat, Lead.after, if_neg hb]
    have hrest := ih (hlead ▸ .quoted (hs.of_append rest) hq hn hb)
      (utf8Length (us.flatMap Token.text)) (by rw [hu, hlead]; simp [Lead.written, hquote])
    rw [hlead, Lead.written] at hrest
    rw [hs.eq_append]
    simpa using hrest

theorem bracketed {name rest : List Char}
    (hf : (Lead.ofTokens us).Fits ('[' :: (blanksFor name ++ ']' :: rest)))
    (hm : MaskedText rest ts)
    (ih : (Lead.ofTokens (us ++ [.bracketed name])).Fits rest →
      ScansFrom (us ++ [.bracketed name]) rest ts) :
    ScansFrom us ('[' :: (blanksFor name ++ ']' :: rest)) (.bracketed name :: ts) := by
  have hlead : Lead.ofTokens (us ++ [.bracketed name]) = .none := by
    rw [Lead.ofTokens_concat, Lead.after_bracketed]
  have hrest := (ih (hlead ▸ .none)).of_none hlead
  have htext : '[' :: (blanksFor name ++ ']' :: rest) = '[' :: (blanksFor name ++ [']']) ++ rest := by
    simp
  have hlength : utf8Length ('[' :: (blanksFor name ++ [']'])) =
      utf8Length (Token.bracketed name).text := by
    simp [Token.text, utf8Length_blanksFor]
  have hhead : ∀ w, Lead.ofTokens us = .plain w →
      ∀ c ∈ ('[' :: (blanksFor name ++ ']' :: rest)).head?, isTableChar c = false := by
    rintro w - c hc
    obtain rfl := Option.some.inj hc
    decide
  have hpass (hb : bracketAt? ('[' :: (blanksFor name ++ ']' :: rest)) = none ∨
      Lead.ofTokens us = .none) (hcolumn : Occurrence.column? ⟨us, name⟩ = none) :
      ScansFrom us ('[' :: (blanksFor name ++ ']' :: rest)) (.bracketed name :: ts) := by
    apply passed hf (.bracketed name hm) hb hhead
    rw [occurrencesFrom, List.filterMap_cons_none hcolumn, htext,
      qualifiedMatches_others (bracketed_others name), hlength, ← utf8Length_concat, hrest]
  by_cases hn : name = []
  · subst hn
    exact hpass (.inl rfl) (if_pos rfl)
  · cases ht : (Lead.ofTokens us).table? with
    | none =>
      apply hpass (.inr (Lead.table?_eq_none_iff.mp ht))
      rw [Occurrence.column?, if_neg hn, ht]
      rfl
    | some table =>
      intro offset hl
      have hclose : ']' ∉ blanksFor name := notMem_blanksFor (by decide)
      have hfound : qualifiedAt? offset ((Lead.ofTokens us).written ++
          '[' :: (blanksFor name ++ ']' :: rest)) =
            some (⟨table, Occurrence.span ⟨us, name⟩⟩, rest) := by
        rw [hf.qualifiedAt?_eq ht (blanksFor_ne_nil hn) hclose, utf8Length_blanksFor, ← hl]
        rfl
      have hcolumn : Occurrence.column? ⟨us, name⟩ =
          some ⟨table, Occurrence.span ⟨us, name⟩⟩ := by
        rw [Occurrence.column?, if_neg hn, ht]
        rfl
      rw [qualifiedMatches_of_qualifiedAt? hfound, occurrencesFrom,
        List.filterMap_cons_some hcolumn, Occurrence.span_last_succ, hrest]

theorem other {rest : List Char} (hf : (Lead.ofTokens us).Fits (c :: rest)) (hq : c ≠ '\'')
    (hb : c ≠ '[') (hm : MaskedText rest ts)
    (ih : (Lead.ofTokens (us ++ [.other c])).Fits rest → ScansFrom (us ++ [.other c]) rest ts) :
    ScansFrom us (c :: rest) (.other c :: ts) := by
  have hu := utf8Length_concat us (.other c)
  have hlead := Lead.ofTokens_concat us (.other c)
  obtain ⟨name, hl, hc⟩ | ⟨hc, ha⟩ := Lead.after_other (Lead.ofTokens us) c
  · -- the character is read with the plain name before it
    rw [hl, Lead.after, if_pos hc] at hlead
    intro offset ho
    have hname : IsPlainName name := by
      rw [hl] at hf
      cases hf with
      | plain hn => exact hn
    have hrest := ih (hlead ▸ .plain (hname.concat hc)) offset (by
      rw [hu, hlead, ho, hl, Lead.written, Lead.written, utf8Length_append, Nat.add_assoc]
      rfl)
    rw [hlead, Lead.written, ← List.append_cons] at hrest
    rw [hl]
    exact hrest
  · rw [ha] at hlead
    have hopen : bracketAt? (c :: rest) = none := bracketAt?_of_head? fun he => hb (Option.some.inj he)
    apply passed hf (.other hq hb hm) (.inl hopen)
    · rintro name hl d hd
      rw [← Option.some.inj hd]
      exact hc name hl
    cases hs : isTableStart c with
    | true =>
      rw [hs, if_pos rfl] at hlead
      have hplain : IsPlainName [c] := .intro hs (List.forall_mem_nil _)
      have hrest := ih (hlead ▸ .plain hplain) (utf8Length (us.flatMap Token.text))
        (by rw [hu, hlead]; rfl)
      rw [hlead] at hrest
      exact hrest
    | false =>
      rw [hs, if_neg (by decide)] at hlead
      have hrest := (ih (hlead ▸ .none)).of_none hlead
      rw [hu] at hrest
      rw [qualifiedMatches_cons (noColumnAt_of_other hq hs rest)]
      exact hrest

end ScansFrom

/-- The columns that the scanner finds are those of the bracketed names, each behind its table. -/
theorem scansFrom_of_maskedText (h : MaskedText s ts) (us : List Token)
    (hf : (Lead.ofTokens us).Fits s) : ScansFrom us s ts := by
  induction h generalizing us with
  | nil =>
    apply ScansFrom.passed hf .nil (.inl rfl) (by simp)
    simp [qualifiedMatches, occurrencesFrom]
  | quoted hs hq hn hm ih => exact .quoted hf hs hq hn hm (ih _)
  | bracketed name hm ih => exact .bracketed hf hm (ih _)
  | other hq hb hm ih => exact .other hf hq hb hm (ih _)

end Columns

section Brackets

theorem bracketMatches_cons (h : bracketAt? (c :: s) = none) (w : List Char) :
    bracketMatches w.getLast? (utf8Length w) (c :: s) =
      bracketMatches (w ++ [c]).getLast? (utf8Length (w ++ [c])) s := by
  rw [bracketMatches]
  split
  · next hs => simp [h] at hs
  · simp [utf8Length_append]

theorem bracketMatches_append {u : List Char} (h : '[' ∉ u) (w : List Char) :
    bracketMatches w.getLast? (utf8Length w) (u ++ s) =
      bracketMatches (w ++ u).getLast? (utf8Length (w ++ u)) s := by
  induction u generalizing w with
  | nil => rw [List.append_nil, List.nil_append]
  | cons c u ih =>
    rw [List.mem_cons, not_or] at h
    have hc : bracketAt? (c :: (u ++ s)) = none :=
      bracketAt?_of_head? fun he => h.1 (Option.some.inj he).symm
    rw [List.cons_append, bracketMatches_cons hc, ih h.2, ← List.append_cons]

/-- The spans that the scanner finds without a table are those of the bracketed names before which it
sees no table. -/
theorem bracketMatches_of_maskedText (h : MaskedText s ts) (us : List Token) :
    bracketMatches (us.flatMap Token.text).getLast? (utf8Length (us.flatMap Token.text)) s =
      (occurrencesFrom us ts).filterMap Occurrence.bracket? := by
  induction h generalizing us with
  | nil => simp [bracketMatches, occurrencesFrom]
  | @quoted s body rest ts hs _ hn _ ih =>
    have hn : '[' ∉ (Token.quoted body).text := by simpa [Token.text] using hn
    have hs : '\'' :: s = (Token.quoted body).text ++ rest := by
      rw [hs.eq_append]
      simp [Token.text]
    rw [hs, bracketMatches_append hn, ← text_concat, ih, occurrencesFrom_quoted]
  | @bracketed rest ts name _ ih =>
    have hlast : ((us ++ [Token.bracketed name]).flatMap Token.text).getLast? = some ']' := by
      rw [text_concat, Token.text, ← List.cons_append, ← List.append_assoc, List.getLast?_concat]
    have hrest := ih (us ++ [.bracketed name])
    rw [hlast, ← Occurrence.span_last_succ] at hrest
    by_cases hn : name = []
    · subst hn
      have hnone : Occurrence.bracket? ⟨us, []⟩ = none := if_pos (.inl rfl)
      have hpair : '[' :: (blanksFor [] ++ ']' :: rest) = '[' :: ([']'] ++ rest) := rfl
      rw [hpair, bracketMatches_cons rfl, bracketMatches_append (by decide), List.append_assoc,
        occurrencesFrom, List.filterMap_cons_none hnone, ← ih, text_concat]
      rfl
    · have hclose : ']' ∉ blanksFor name := notMem_blanksFor (by decide)
      rw [bracketMatches_content (blanksFor_ne_nil hn) hclose, utf8Length_blanksFor, occurrencesFrom]
      cases ht : Touched us with
      | true =>
        have hnone : Occurrence.bracket? ⟨us, name⟩ = none := if_pos (.inr ht)
        rw [List.filterMap_cons_none hnone, ← hrest]
        exact if_pos ht
      | false =>
        have hsome : Occurrence.bracket? ⟨us, name⟩ = some (Occurrence.span ⟨us, name⟩) :=
          if_neg (by simp [hn, ht])
        rw [List.filterMap_cons_some hsome, ← hrest]
        exact if_neg (by simpa [Touched] using ht)
  | @other c rest ts _ hb _ ih =>
    have hc : '[' ∉ [c] := fun hm => hb (List.mem_singleton.mp hm).symm
    rw [occurrencesFrom_other, ← ih, text_concat]
    exact bracketMatches_append hc _

end Brackets

section Names

theorem mem_occurrencesFrom {o : Occurrence} :
    o ∈ occurrencesFrom us ts ↔
      ∃ vs ws, ts = vs ++ .bracketed o.name :: ws ∧ o.before = us ++ vs := by
  induction ts generalizing us with
  | nil => simp [occurrencesFrom]
  | cons t ts ih =>
    -- the first token is the one that is meant, or comes before it
    have hcons : (∃ vs ws, t :: ts = vs ++ .bracketed o.name :: ws ∧ o.before = us ++ vs) ↔
        (t = .bracketed o.name ∧ o.before = us) ∨
          ∃ vs ws, ts = vs ++ .bracketed o.name :: ws ∧ o.before = us ++ [t] ++ vs := by
      constructor
      · rintro ⟨vs, ws, he, hb⟩
        cases vs with
        | nil => exact .inl ⟨(List.cons.inj he).1, by rw [hb, List.append_nil]⟩
        | cons v vs =>
          obtain ⟨rfl, rfl⟩ := List.cons.inj he
          exact .inr ⟨vs, ws, rfl, by rw [hb, ← List.append_cons]⟩
      · rintro (⟨rfl, hb⟩ | ⟨vs, ws, rfl, hb⟩)
        · exact ⟨[], ts, rfl, by rw [hb, List.append_nil]⟩
        · exact ⟨t :: vs, ws, rfl, by rw [hb, ← List.append_cons]⟩
    rw [hcons, ← ih]
    cases t with
    | quoted body => simp
    | other c => simp
    | bracketed name =>
      obtain ⟨before, name'⟩ := o
      simp [occurrencesFrom, and_comm, eq_comm]

/-- What is cut out at the span of a bracketed name is the name. -/
theorem Occurrence.name?_span {o : Occurrence} (h : o ∈ occurrencesFrom [] ts) :
    o.span.name? (ts.flatMap Token.text) = some o.title := by
  obtain ⟨vs, ws, ht, hb⟩ := mem_occurrencesFrom.mp h
  refine NameSpan.name?_eq ⟨vs, ws, ht, ?_⟩
  rw [span, hb, List.nil_append]

theorem Occurrence.title_eq_empty_iff {o : Occurrence} : o.title = "" ↔ trim o.name = [] := by
  simp [title]

def Occurrence.reportedName? (o : Occurrence) : Option String :=
  if trim o.name = [] ∨ Touched o.before then none else some o.title

def Occurrence.reportedColumn? (o : Occurrence) : Option (String × String) :=
  if o.name = [] then none
  else (Lead.ofTokens o.before).table?.map fun table => (String.ofList table, o.title)

theorem Occurrence.reportedName?_eq_some_iff {o : Occurrence} {name : String} :
    o.reportedName? = some name ↔
      trim o.name ≠ [] ∧ Touched o.before = false ∧ o.title = name := by
  rw [reportedName?, ite_eq_iff]
  simp [and_assoc]

theorem Occurrence.exists_reportedColumn?_iff {o : Occurrence} {name : String} :
    (∃ table, o.reportedColumn? = some (table, name)) ↔
      o.name ≠ [] ∧ EndsInTable o.before ∧ o.title = name := by
  rw [← isSome_table?_iff, Option.isSome_iff_exists]
  unfold reportedColumn?
  split
  · next hn => simp [hn]
  · next hn =>
    cases (Lead.ofTokens o.before).table? <;> simp [hn]

namespace References

variable {formula : List Char}

/-- The names in brackets are those of the tokens before which the scanner sees no table. -/
theorem brackets_ofFormula (h : readTokens (strip formula) = some ts)
    (hq : ∀ body, .quoted body ∈ ts → '[' ∉ body) :
    (ofFormula formula).brackets =
      distinct ((occurrencesFrom [] ts).filterMap Occurrence.reportedName?) := by
  have hr := reads_of_readTokens h
  have hb : bracketMatches none 0 (mask (strip formula)) =
      (occurrencesFrom [] ts).filterMap Occurrence.bracket? :=
    bracketMatches_of_maskedText (maskedText_of_readTokens h hq) []
  rw [ofFormula, ofCode]
  dsimp only
  rw [hb, List.filterMap_filterMap, List.filter_filterMap]
  congr 1
  apply List.filterMap_congr
  intro o ho
  have hn := o.name?_span ho
  rw [← hr.text] at hn
  unfold Occurrence.bracket? Occurrence.reportedName?
  cases ht : Touched o.before with
  | true => simp
  | false =>
    by_cases hne : o.name = []
    · simp [hne]
    · by_cases hb : trim o.name = []
      · simp [hne, hb, hn, Occurrence.title_eq_empty_iff]
      · simp [hne, hb, hn, Occurrence.title_eq_empty_iff]

/-- The columns are those of the tokens before which a table name ends. -/
theorem qualified_ofFormula (h : readTokens (strip formula) = some ts)
    (hq : ∀ body, .quoted body ∈ ts → '[' ∉ body) :
    (ofFormula formula).qualified =
      distinct ((occurrencesFrom [] ts).filterMap Occurrence.reportedColumn?) := by
  have hr := reads_of_readTokens h
  have hm : qualifiedMatches 0 (mask (strip formula)) =
      (occurrencesFrom [] ts).filterMap Occurrence.column? :=
    scansFrom_of_maskedText (maskedText_of_readTokens h hq) [] .none 0 rfl
  rw [ofFormula, ofCode]
  dsimp only
  rw [hm, List.filterMap_filterMap]
  congr 1
  apply List.filterMap_congr
  intro o ho
  have hn := o.name?_span ho
  rw [← hr.text] at hn
  unfold Occurrence.column? Occurrence.reportedColumn?
  split
  · rfl
  · cases (Lead.ofTokens o.before).table? with
    | none => rfl
    | some table => simp [hn]

/-- The name is reported in brackets or as a column. -/
def Reports (r : References) (name : String) : Prop :=
  name ∈ r.brackets ∨ ∃ table, (table, name) ∈ r.qualified

/-- A name is reported exactly if one of the tokens that bear it is. -/
theorem reports_iff (h : readTokens (strip formula) = some ts)
    (hq : ∀ body, .quoted body ∈ ts → '[' ∉ body) {name : List Char} (hn : name ≠ []) :
    (ofFormula formula).Reports (String.ofList name) ↔
      ∃ us content vs, ts = us ++ .bracketed content :: vs ∧ trim content = name ∧
        (Touched us = false ∨ EndsInTable us) := by
  have hmem : ∀ o, o ∈ occurrencesFrom [] ts ↔ ∃ ws, ts = o.before ++ .bracketed o.name :: ws := by
    intro o
    rw [mem_occurrencesFrom]
    constructor
    · rintro ⟨vs, ws, ht, hb⟩
      exact ⟨ws, by rw [ht, hb, List.nil_append]⟩
    · rintro ⟨ws, ht⟩
      exact ⟨o.before, ws, ht, rfl⟩
  unfold Reports
  rw [brackets_ofFormula h hq, qualified_ofFormula h hq]
  simp only [mem_distinct, List.mem_filterMap]
  constructor
  · rintro (⟨o, ho, hr⟩ | ⟨table, o, ho, hr⟩)
    · obtain ⟨-, ht, he⟩ := Occurrence.reportedName?_eq_some_iff.mp hr
      obtain ⟨ws, hts⟩ := (hmem o).mp ho
      exact ⟨o.before, o.name, ws, hts, String.ofList_injective he, .inl ht⟩
    · obtain ⟨-, ht, he⟩ := Occurrence.exists_reportedColumn?_iff.mp ⟨table, hr⟩
      obtain ⟨ws, hts⟩ := (hmem o).mp ho
      exact ⟨o.before, o.name, ws, hts, String.ofList_injective he, .inr ht⟩
  · rintro ⟨us, content, vs, hts, rfl, hu⟩
    have ho := (hmem ⟨us, content⟩).mpr ⟨vs, hts⟩
    obtain hu | hu := hu
    · exact .inl ⟨_, ho, Occurrence.reportedName?_eq_some_iff.mpr ⟨hn, hu, rfl⟩⟩
    · have hc : content ≠ [] := by
        rintro rfl
        exact hn rfl
      have hcolumn : ∃ table, Occurrence.reportedColumn? ⟨us, content⟩ =
          some (table, String.ofList (trim content)) :=
        Occurrence.exists_reportedColumn?_iff.mpr ⟨hc, hu, rfl⟩
      obtain ⟨table, hr⟩ := hcolumn
      exact .inr ⟨table, _, ho, hr⟩

/-- In a formula whose names are closed and whose quoted names contain no opening bracket, the scanner
reports the bracketed names before which it sees no table, and as columns those behind a table name. A
name that is not blank is reported unless it stands behind a quote or a word character that ends no table
name; then only another bracketed name can bring it in. -/
theorem bracketed_reported_iff (h : readTokens (strip formula) = some ts)
    (hq : ∀ body, .quoted body ∈ ts → '[' ∉ body) :
    (ofFormula formula).brackets =
        distinct ((occurrencesFrom [] ts).filterMap Occurrence.reportedName?) ∧
      (ofFormula formula).qualified =
        distinct ((occurrencesFrom [] ts).filterMap Occurrence.reportedColumn?) ∧
      ∀ us name vs, ts = us ++ .bracketed name :: vs → trim name ≠ [] →
        ((Touched us = true → EndsInTable us) →
          (ofFormula formula).Reports (String.ofList (trim name))) ∧
        ((ofFormula formula).Reports (String.ofList (trim name)) ↔
          ∃ us' name' vs', ts = us' ++ .bracketed name' :: vs' ∧ trim name' = trim name ∧
            (Touched us' = false ∨ EndsInTable us')) := by
  refine ⟨brackets_ofFormula h hq, qualified_ofFormula h hq, fun us name vs hts hn => ?_⟩
  have hiff := reports_iff h hq hn
  refine ⟨fun ht => hiff.mpr ⟨us, name, vs, hts, rfl, ?_⟩, hiff⟩
  cases hu : Touched us with
  | false => exact .inl rfl
  | true => exact .inr (ht hu)

/-- A column behind its table, and a name alone. -/
theorem bracketed_reported_umsatz :
    let formula := "Umsatz[ Wert ]+[Ziel]".toList
    let us := "Umsatz".toList.map Token.other
    let vs := [Token.other '+', .bracketed "Ziel".toList]
    readTokens (strip formula) = some (us ++ .bracketed " Wert ".toList :: vs) ∧
      (∀ body, .quoted body ∈ us ++ .bracketed " Wert ".toList :: vs → '[' ∉ body) ∧
      trim " Wert ".toList ≠ [] ∧ Touched us = true ∧ EndsInTable us ∧
      (ofFormula formula).Reports (String.ofList (trim " Wert ".toList)) := by
  intro formula us vs
  have ht : readTokens (strip formula) = some (us ++ .bracketed " Wert ".toList :: vs) := by
    decide +kernel
  have hq : ∀ body, .quoted body ∈ us ++ .bracketed " Wert ".toList :: vs → '[' ∉ body := by
    intro body hb
    simp [us, vs] at hb
  have hn : trim " Wert ".toList ≠ [] := by decide
  have hend : EndsInTable us := .plain [] (.intro (by decide) (List.all_eq_true.mp (by decide)))
  exact ⟨ht, hq, hn, by decide +kernel, hend,
    ((bracketed_reported_iff ht hq).2.2 us _ vs rfl hn).1 fun _ => hend⟩

/-- The vowel signs of a table name are word characters, but neither letters nor numbers: the table is
not recognised, and its column is lost. -/
theorem column_of_unread_table_lost :
    let formula := "SUM(बिक्री[Amount])".toList
    let us := "SUM(बिक्री".toList.map Token.other
    let ts := us ++ [.bracketed "Amount".toList, .other ')']
    readTokens (strip formula) = some ts ∧ (∀ body, .quoted body ∉ ts) ∧
      trim "Amount".toList = "Amount".toList ∧ Touched us = true ∧
      ¬ (ofFormula formula).Reports "Amount" := by
  intro formula us ts
  have hnone : ofFormula formula = ⟨[], [], []⟩ := by decide +kernel
  refine ⟨by decide +kernel, by simp [ts, us], by decide, by decide +kernel, ?_⟩
  rw [hnone]
  rintro (h | ⟨table, h⟩)
  · exact absurd h List.not_mem_nil
  · exact absurd h List.not_mem_nil

end References

end Names

end Tabular.Formula
