import Tabular.Proofs.Analysis.Rule
import Tabular.Proofs.Formula.CallRow
import Tabular.Proofs.Text.LetterCase
import Tabular.Proofs.Text.Search
import Tabular.Proofs.Text.Trim

/-!
# When a keyword is reported

The rules on keywords look for names of functions with their parentheses in the masked text without its
blanks and in upper case. So they see every call that is made, and also what only spells one: behind a
letter that goes on with the name, in a quoted name, or with blanks between the letters.
-/

namespace Tabular

open Text Formula

variable {c : Char} {s w p p' : List Char} {ks : List String}

/-- A text in upper case and without its blanks. -/
def spelling (s : List Char) : List Char := (dropBlanks s).map asciiUpper

section Spelling

theorem keywordText_eq (code : List Char) : keywordText code = spelling (mask code) := rfl

theorem spelling_append (s t : List Char) : spelling (s ++ t) = spelling s ++ spelling t := by
  rw [spelling, dropBlanks, List.filter_append, List.map_append]
  rfl

theorem spelling_of_blanks (h : ∀ d ∈ s, isBlank d = true) : spelling s = [] := by
  rw [spelling, dropBlanks, List.filter_eq_nil_iff.mpr, List.map_nil]
  intro d hd
  simp [h d hd]

theorem spelling_cons_of_not_blank (h : isBlank c = false) (s : List Char) :
    spelling (c :: s) = asciiUpper c :: spelling s := by
  rw [spelling, dropBlanks, List.filter_cons_of_pos (by simp [h]), List.map_cons]
  rfl

theorem spelling_of_not_blank (h : ∀ d ∈ s, isBlank d = false) : spelling s = s.map asciiUpper := by
  rw [spelling, dropBlanks, List.filter_eq_self.mpr]
  intro d hd
  simp [h d hd]

theorem spelling_trimStart (s : List Char) : spelling (trimStart s) = spelling s := by
  obtain ⟨blanks, hs, hb⟩ := exists_append_trimStart s
  conv_rhs => rw [hs, spelling_append, spelling_of_blanks hb]
  rfl

theorem exists_of_spelling_eq_append (h : spelling s = p ++ p') :
    ∃ u v, s = u ++ v ∧ spelling u = p ∧ spelling v = p' := by
  obtain ⟨u', v', hs, rfl, rfl⟩ := List.map_eq_append_iff.mp h
  obtain ⟨u, v, rfl, rfl, rfl⟩ := List.filter_eq_append_iff.mp hs
  exact ⟨u, v, rfl, rfl, rfl⟩

theorem exists_of_spelling_eq_cons (h : spelling s = c :: p) :
    ∃ blanks d t, s = blanks ++ d :: t ∧ (∀ x ∈ blanks, isBlank x = true) ∧ isBlank d = false ∧
      asciiUpper d = c ∧ spelling t = p := by
  obtain ⟨d, t', hs, rfl, rfl⟩ := List.map_eq_cons_iff.mp h
  obtain ⟨blanks, t, rfl, hb, hd, rfl⟩ := List.filter_eq_cons_iff.mp hs
  exact ⟨blanks, d, t, rfl, by simpa using hb, by simpa using hd, rfl, rfl⟩

end Spelling

def rowText (ks : List String) : List Char := ks.flatMap fun k => k.toList ++ ['(']

/-- Blanks stand between two characters of a text that are no opening parentheses. -/
def HasGap (w : List Char) : Prop :=
  ∃ u x blanks y v, w = u ++ x :: (blanks ++ y :: v) ∧ blanks ≠ [] ∧
    (∀ d ∈ blanks, isBlank d = true) ∧ isBlank x = false ∧ isBlank y = false ∧ x ≠ '(' ∧ y ≠ '('

/-- Behind a text, another one spells a row of calls and yet makes none, as no name may begin there or a
name has a gap. -/
def IsStray (before w : List Char) : Prop := ¬ AllowsCall before ∨ HasGap w

/-- Somewhere in a stripped formula a row of calls is spelled that is none. -/
def SpelledAstray (ks : List String) (code : List Char) : Prop :=
  ∃ before w after, mask code = before ++ (w ++ after) ∧ trimStart w = w ∧ spelling w = rowText ks ∧
    IsStray before w

section Row

theorem HasGap.append (h : HasGap w) (u : List Char) : HasGap (u ++ w) := by
  obtain ⟨u', x, blanks, y, v, rfl, h⟩ := h
  exact ⟨u ++ u', x, blanks, y, v, by rw [List.append_assoc], h⟩

theorem prefix_spelling_of_callsInRow (h : CallsInRow ks s) : rowText ks <+: spelling s := by
  induction ks generalizing s with
  | nil => exact List.nil_prefix
  | cons k ks ih =>
    obtain ⟨name, rest, hcall, rfl, hrest⟩ := h
    obtain ⟨blanks, rfl, hname, hblanks⟩ := callAt?_eq_some hcall
    obtain ⟨after, ha⟩ := ih hrest
    rw [spelling_trimStart] at ha
    refine ⟨after, ?_⟩
    rw [spelling_append, spelling_of_not_blank fun d hd => isBlank_of_isCallChar (hname d hd),
      spelling_append, spelling_of_blanks hblanks, spelling_cons_of_not_blank (by decide), ← ha,
      rowText, List.flatMap_cons, String.toList_ofList]
    simp [rowText, asciiUpper]

theorem ne_paren_of_isAsciiLetter (h : isAsciiLetter (asciiUpper c) = true) : c ≠ '(' := by
  rintro rfl
  exact absurd h (by decide)

/-- A name that is spelled without a gap before a parenthesis stands there letter by letter. -/
theorem exists_of_spelled_name (hn : p ≠ []) (hl : ∀ d ∈ p, isAsciiLetter d = true)
    (hs : spelling w = p ++ '(' :: p') (hw : trimStart w = w) (hg : ¬ HasGap w) :
    ∃ name blanks v, w = name ++ (blanks ++ '(' :: v) ∧ name.map asciiUpper = p ∧
      (∀ d ∈ blanks, isBlank d = true) ∧ spelling v = p' := by
  induction p generalizing w with
  | nil => exact absurd rfl hn
  | cons c p ih =>
    obtain ⟨hc, hl'⟩ := List.forall_mem_cons.mp hl
    obtain ⟨blanks, d, t, rfl, hblanks, hd, rfl, ht⟩ := exists_of_spelling_eq_cons hs
    rw [trimStart_append_of_blank hblanks, trimStart_cons_of_not_blank hd] at hw
    obtain rfl : blanks = [] := by simpa using congrArg List.length hw
    cases p with
    | nil =>
      obtain ⟨blanks, e, v, rfl, hblanks, -, he, hv⟩ := exists_of_spelling_eq_cons ht
      obtain rfl := eq_of_asciiUpper_eq he (by decide)
      exact ⟨[d], blanks, v, rfl, rfl, hblanks, hv⟩
    | cons c' p =>
      -- Blanks before the next letter would be a gap, as both letters are no parentheses.
      have htrim : trimStart t = t := by
        obtain ⟨blanks, e, v, rfl, hblanks, he, rfl, -⟩ := exists_of_spelling_eq_cons ht
        by_cases hb : blanks = []
        · rw [hb]
          exact trimStart_cons_of_not_blank he v
        · refine absurd ⟨[], d, blanks, e, v, rfl, hb, hblanks, hd, he, ?_, ?_⟩ hg
          · exact ne_paren_of_isAsciiLetter hc
          · exact ne_paren_of_isAsciiLetter (hl' _ List.mem_cons_self)
      obtain ⟨name, blanks, v, rfl, hname, hblanks, hv⟩ :=
        ih (List.cons_ne_nil _ _) hl' ht htrim fun h => hg (h.append [d])
      exact ⟨d :: name, blanks, v, rfl, by rw [List.map_cons, hname], hblanks, hv⟩

/-- What is spelled without gaps is called, whatever follows. -/
theorem callsInRow_of_spelling (hks : ∀ k ∈ ks, k.toList ≠ [] ∧ k.toList.all isAsciiLetter = true)
    (hw : trimStart w = w) (hs : spelling w = rowText ks) (hg : ¬ HasGap w) (after : List Char) :
    CallsInRow ks (w ++ after) := by
  induction ks generalizing w with
  | nil => trivial
  | cons k ks ih =>
    obtain ⟨⟨hn, hl⟩, hks⟩ := List.forall_mem_cons.mp hks
    rw [List.all_eq_true] at hl
    rw [rowText, List.flatMap_cons, List.append_assoc] at hs
    obtain ⟨name, blanks, v, rfl, hname, hblanks, hv⟩ := exists_of_spelled_name hn hl hs hw hg
    have hne : name ≠ [] := by
      rintro rfl
      exact hn hname.symm
    have hletters : ∀ d ∈ name, isAsciiLetter d = true := by
      intro d hd
      rw [← isAsciiLetter_asciiUpper]
      exact hl _ (hname ▸ List.mem_map_of_mem hd)
    refine ⟨name, v ++ after, ?_, by rw [hname, String.ofList_toList], ?_⟩
    · rw [List.append_assoc, List.append_assoc, List.cons_append]
      exact callAt?_letters hne hletters hblanks _
    · cases ks with
      | nil => trivial
      | cons k' ks =>
        obtain ⟨bs, hv', hbs⟩ := exists_append_trimStart v
        have hne : trimStart v ≠ [] := by
          intro h
          rw [← spelling_trimStart, h] at hv
          exact absurd hv (by simp [spelling, dropBlanks])
        have hrest : trimStart (v ++ after) = trimStart v ++ after := by
          conv_lhs => rw [hv', List.append_assoc]
          rw [trimStart_append_of_blank hbs, trimStart_append (trimStart_trimStart v) hne]
        rw [hrest]
        refine ih hks (trimStart_trimStart v) ((spelling_trimStart v).trans hv) fun h => hg ?_
        rw [hv', ← List.cons_append, ← List.append_assoc, ← List.append_assoc]
        exact h.append _

/-- A row of keywords is found in the text of a formula if the functions are called in a row, or if this
is spelled where it is no row of calls. -/
theorem occursIn_rowText_iff
    (hks : ∀ k ∈ ks, k.toList ≠ [] ∧ k.toList.all isAsciiLetter = true) (code : List Char) :
    occursIn (rowText ks) (keywordText code) = true ↔ CalledInRow ks code ∨ SpelledAstray ks code := by
  rw [occursIn_iff, keywordText_eq]
  constructor
  · rintro ⟨p, p', h⟩
    obtain ⟨u, after, hs, hu, -⟩ := exists_of_spelling_eq_append h.symm
    obtain ⟨u, w, rfl, -, hw⟩ := exists_of_spelling_eq_append hu
    obtain ⟨blanks, hw', -⟩ := exists_append_trimStart w
    have hcode : mask code = (u ++ blanks) ++ (trimStart w ++ after) := by
      rw [hs, List.append_assoc, List.append_assoc, ← List.append_assoc blanks, ← hw']
    have hspells : spelling (trimStart w) = rowText ks := by rw [spelling_trimStart, hw]
    by_cases hstray : IsStray (u ++ blanks) (trimStart w)
    · exact .inr ⟨_, _, after, hcode, trimStart_trimStart w, hspells, hstray⟩
    · obtain ⟨hallows, hgap⟩ := not_or.mp hstray
      exact .inl ⟨_, _, hcode, not_not.mp hallows,
        callsInRow_of_spelling hks (trimStart_trimStart w) hspells hgap after⟩
  · rintro (⟨before, s, hs, -, hrow⟩ | ⟨before, w, after, hs, -, hw, -⟩)
    · rw [hs, spelling_append]
      exact (prefix_spelling_of_callsInRow hrow).isInfix.trans (List.suffix_append _ _).isInfix
    · rw [hs, spelling_append, spelling_append, hw]
      exact ⟨spelling before, spelling after, by rw [List.append_assoc]⟩

end Row

section Rules

variable (l : Limits) (m : Measure) (node : Option Dependency) (complexity : Option Complexity)

theorem mem_codes_keyword {rule : String × Finding} (hr : rule ∈ keywordFindings) :
    rule.2.code ∈ (m.issues l node complexity).map (·.code) ↔
      occursIn rule.1.toList (keywordText (strip (trim m.expression.toList))) = true := by
  have hcodes : ∀ rule ∈ keywordFindings,
      rule.2.code ∉ ["DAX001", "DAX002", "DAX003", "DAX004", "DAX005", "DAX009", "DAX010"] := by decide
  have hdiffer : ∀ rule ∈ keywordFindings, ∀ rule' ∈ keywordFindings,
      rule'.2.code = rule.2.code → rule' = rule := by decide
  have hfound : (∃ f ∈ findKeywords (strip (trim m.expression.toList)), f.code = rule.2.code) ↔
      occursIn rule.1.toList (keywordText (strip (trim m.expression.toList))) = true := by
    constructor
    · rintro ⟨f, hf, hc⟩
      obtain ⟨rule', hr', rfl⟩ := List.mem_map.mp hf
      obtain ⟨hmem, hoccurs⟩ := List.mem_filter.mp hr'
      rwa [hdiffer rule hr rule' hmem hc] at hoccurs
    · exact fun h => ⟨rule.2, List.mem_map_of_mem (List.mem_filter.mpr ⟨hr, h⟩), rfl⟩
  have hother := hcodes rule hr
  simp only [List.mem_cons, List.not_mem_nil, or_false, not_or] at hother
  rw [mem_codes_iff, ← hfound]
  simp only [hother, false_and, false_or, or_false]

theorem mem_codes_row {ks : List String} {f : Finding}
    (hks : ∀ k ∈ ks, k.toList ≠ [] ∧ k.toList.all isAsciiLetter = true)
    (hr : (String.ofList (rowText ks), f) ∈ keywordFindings) :
    f.code ∈ (m.issues l node complexity).map (·.code) ↔
      CalledInRow ks (strip (trim m.expression.toList)) ∨
        SpelledAstray ks (strip (trim m.expression.toList)) := by
  have h := mem_codes_keyword l m node complexity hr
  rw [String.toList_ofList, occursIn_rowText_iff hks] at h
  exact h

/-- The rules on keywords report every call that is made, and what is spelled like one where none is:
behind a letter that goes on with the name, in a quoted name, or with blanks between the letters. -/
theorem reports_keywords :
    let code := strip (trim m.expression.toList)
    let codes := (m.issues l node complexity).map (·.code)
    ("DAX006" ∈ codes ↔ "IFERROR" ∈ functionCalls code ∨ SpelledAstray ["IFERROR"] code) ∧
      ("DAX007" ∈ codes ↔ "EARLIER" ∈ functionCalls code ∨ SpelledAstray ["EARLIER"] code) ∧
      ("DAX008" ∈ codes ↔
        CalledInRow ["FILTER", "ALL"] code ∨ SpelledAstray ["FILTER", "ALL"] code) := by
  simp only [mem_functionCalls_iff]
  exact ⟨mem_codes_row l m node complexity (f := .errorHandling) (by decide) (by decide),
    mem_codes_row l m node complexity (f := .outerRow) (by decide) (by decide),
    mem_codes_row l m node complexity (f := .wholeTableFilter) (by decide) (by decide)⟩

/-- In a quoted name and at the end of a longer name, keywords are reported that nothing calls. -/
theorem spelled_keywords_reported :
    let quoted : Measure := { name := "Old", expression := "SUM('IFERROR (old)'[Amount])" }
    let longer : Measure := { name := "Pre", expression := "PREFILTER(ALL(Sales))" }
    (functionCalls (strip (trim quoted.expression.toList)) = ["SUM"] ∧
        "DAX006" ∈ (quoted.issues {} none none).map (·.code)) ∧
      functionCalls (strip (trim longer.expression.toList)) = ["PREFILTER", "ALL"] ∧
        "DAX008" ∈ (longer.issues {} none none).map (·.code) := by
  decide +kernel

end Rules

end Tabular
