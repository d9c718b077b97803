import Tabular.Analysis.Issue
import Tabular.Analysis.Pattern
import Tabular.Proofs.Formula.Contents
import Tabular.Proofs.Formula.Enclosed

/-!
# Contents that no analysis sees

Two formulas that differ in the contents of one literal, one comment or one bracketed name have the
same calls, the same nesting, the same pattern and the same issues of the rules that read the text
of the formula. A bracketed name is of course a reference; but literals and comments make no
difference to the references and to whether the formula holds a constant either.
-/

namespace Tabular

open Text Formula

section Slash

theorem hasSlash_append_congr {t t' : List Char} (h : ∀ q, hasSlash q t = hasSlash q t') (q : Bool)
    (s : List Char) : hasSlash q (s ++ t) = hasSlash q (s ++ t') := by
  induction s generalizing q with
  | nil => exact h q
  | cons c s ih => simp only [List.cons_append, hasSlash, ih]

theorem hasSlash_blanks {blanks : List Char} (hb : ∀ x ∈ blanks, x = ' ') (q : Bool)
    (t : List Char) : hasSlash q (blanks ++ t) = hasSlash q t := by
  induction blanks with
  | nil => rfl
  | cons x blanks ih =>
    obtain rfl : x = ' ' := hb x List.mem_cons_self
    rw [List.cons_append, hasSlash, if_neg (by decide), if_neg (by simp)]
    exact ih fun y hy => hb y (List.mem_cons_of_mem _ hy)

end Slash

section Bracketed

variable {s c : List Char} (hs : s.foldl Region.after .code = .code) (hc : ']' ∉ c)
include hs hc

theorem dividesBarely_bracketed (t : List Char) :
    dividesBarely (s ++ '[' :: (c ++ ']' :: t)) = dividesBarely (s ++ '[' :: ']' :: t) := by
  have hm : hasSlash false (mask (s ++ '[' :: (c ++ ']' :: t))) =
      hasSlash false (mask (s ++ '[' :: ']' :: t)) := by
    rw [mask_append_bracketed hs hc, mask_append_emptied hs]
    refine hasSlash_append_congr (fun q => ?_) false (mask s)
    simp only [hasSlash, hasSlash_blanks fun x => eq_blank_of_mem_blanksFor]
  rw [dividesBarely, dividesBarely, hm, functionCalls_bracketed hs hc]

theorem keywordText_bracketed (t : List Char) :
    keywordText (s ++ '[' :: (c ++ ']' :: t)) = keywordText (s ++ '[' :: ']' :: t) := by
  have hb : ∀ u, dropBlanks (blanksFor c ++ u) = dropBlanks u := by
    intro u
    rw [dropBlanks, List.filter_append, List.filter_eq_nil_iff.mpr, List.nil_append, dropBlanks]
    intro x hx
    rw [eq_blank_of_mem_blanksFor hx]
    decide
  have hd : ∀ u v : List Char, dropBlanks (u ++ '[' :: v) = dropBlanks u ++ '[' :: dropBlanks v :=
    fun u v => List.filter_append u ('[' :: v)
  rw [keywordText, keywordText, mask_append_bracketed hs hc, mask_append_emptied hs, hd, hd, hb]

end Bracketed

/-- The rules that read the text of a formula and nothing else. -/
def textRules : List String := ["DAX001", "DAX004", "DAX006", "DAX007", "DAX008"]

/-- The issues that rules found in the text of a formula. -/
def textIssues (issues : List Issue) : List Issue :=
  issues.filter fun i => textRules.contains i.code

theorem filter_when (p : Finding → Bool) (b : Bool) (f : Finding) :
    (when b f).filter p = if p f then when b f else [] := by
  cases b <;> cases h : p f <;> simp [when, h]

theorem textIssues_issues (l : Limits) (m : Measure) (node : Option Dependency)
    (complexity : Option Complexity) :
    textIssues (m.issues l node complexity) =
      let code := strip (trim m.expression.toList)
      let depth := conditionalDepth code
      (when (dividesBarely code) .division ++
        when (l.maxIfNesting < depth) (.deepConditions depth l.maxIfNesting) ++
        findKeywords code).map fun f => { f with measure := m.name } := by
  have hk : ∀ code, (findKeywords code).filter (textRules.contains ·.code) = findKeywords code := by
    intro code
    rw [List.filter_eq_self]
    intro f hf
    obtain ⟨rule, hr, rfl⟩ := List.mem_map.mp hf
    have ha : ∀ rule ∈ keywordFindings, textRules.contains rule.2.code = true := by decide
    exact ha rule (List.mem_of_mem_filter hr)
  have hc : ((complexity.toList.filter (·.level == .complex)).map Finding.tooComplex).filter
      (textRules.contains ·.code) = [] := by
    have hn : textRules.contains "DAX010" = false := by decide
    rw [List.filter_eq_nil_iff]
    intro f hf hm
    obtain ⟨k, -, rfl⟩ := List.mem_map.mp hf
    exact absurd (hn.symm.trans hm) (by decide)
  have hd : ∀ depth limit, textRules.contains (Finding.deepConditions depth limit).code = true :=
    fun _ _ => (by decide : textRules.contains "DAX004" = true)
  have ht : textRules.contains Finding.division.code = true := by decide
  have hn : ∀ f ∈ [Finding.undocumented, .unfoldered, .noReference, .emptyFormula],
      textRules.contains f.code = false := by decide
  simp only [List.forall_mem_cons, List.not_mem_nil, false_implies, implies_true, and_true] at hn
  obtain ⟨hn₂, hn₃, hn₅, hn₉⟩ := hn
  have hm : ∀ fs : List Finding, textIssues (fs.map fun f => { f with measure := m.name }) =
      (fs.filter (textRules.contains ·.code)).map fun f => { f with measure := m.name } :=
    fun fs => List.filter_map
  rw [Measure.issues, hm]
  refine congrArg _ ?_
  simp only [findings, List.filter_append, filter_when, hk, hc, hd, ht, hn₂, hn₃, hn₅, hn₉,
    Bool.false_eq_true, if_true, if_false, List.append_nil]

section Theorem

variable {d : Delimiter} {p c c' q : List Char}

/-- The analyses that read the text of a formula through its calls, its parentheses and keywords. -/
structure SameReading (f f' : List Char) : Prop where
  calls : functionCalls (strip f) = functionCalls (strip f')
  parens : parenDepth (strip f) = parenDepth (strip f')
  conditions : conditionalDepth (strip f) = conditionalDepth (strip f')
  divides : dividesBarely (strip f) = dividesBarely (strip f')
  keywords : keywordText (strip f) = keywordText (strip f')

theorem SameReading.of_strip_eq {f f' : List Char} (h : strip f = strip f') : SameReading f f' := by
  constructor <;> rw [h]

theorem sameReading (hp : AtTopLevel p) (hc : d.Encloses c q) (hc' : d.Encloses c' q) :
    SameReading (p ++ d.enclose c ++ q) (p ++ d.enclose c' ++ q) := by
  by_cases hd : d = .bracket
  · subst hd
    obtain ⟨s, hs, h⟩ := exists_strip_bracket hp
    have hc : ']' ∉ c := hc
    have hc' : ']' ∉ c' := hc'
    constructor <;> rw [h hc, h hc']
    · rw [functionCalls_bracketed hs hc, functionCalls_bracketed hs hc']
    · rw [parenDepth, parenDepth, Nesting.scan_bracketed hs hc, Nesting.scan_bracketed hs hc']
    · rw [conditionalDepth, conditionalDepth, Nesting.scan_bracketed hs hc,
        Nesting.scan_bracketed hs hc']
    · rw [dividesBarely_bracketed hs hc, dividesBarely_bracketed hs hc']
    · rw [keywordText_bracketed hs hc, keywordText_bracketed hs hc']
  · exact .of_strip_eq (strip_eq_of_encloses hp hd hc hc')

/-- The rules that read the text find the same in formulas that read the same once trimmed. -/
theorem textIssues_eq {l : Limits} {m m' : Measure}
    (h : SameReading (trim m.expression.toList) (trim m'.expression.toList)) (hn : m.name = m'.name)
    (node node' : Option Dependency) (k k' : Option Complexity) :
    textIssues (m.issues l node k) = textIssues (m'.issues l node' k') := by
  rw [textIssues_issues, textIssues_issues]
  simp only [h.divides, h.conditions, findKeywords, h.keywords, hn]

/-- What a literal, a comment or a bracketed name contains makes no difference to the calls of a
formula, to its nesting, to its pattern and to the issues that rules find in its text, whatever the
graph and the complexity say. What a literal or a comment contains makes none to what is left of the
formula, so none to its references and constants. -/
theorem contents_invisible (hp : AtTopLevel p) (hc : d.Encloses c q) (hc' : d.Encloses c' q) :
    let f := p ++ d.enclose c ++ q
    let f' := p ++ d.enclose c' ++ q
    functionCalls (strip f) = functionCalls (strip f') ∧
      parenDepth (strip f) = parenDepth (strip f') ∧
      conditionalDepth (strip f) = conditionalDepth (strip f') ∧
      Pattern.ofFormula f = Pattern.ofFormula f' ∧
      (∀ (l : Limits) (m : Measure) (node node' : Option Dependency) (k k' : Option Complexity),
        textIssues ({ m with expression := String.ofList f }.issues l node k) =
          textIssues ({ m with expression := String.ofList f' }.issues l node' k')) ∧
      (d ≠ .bracket →
        strip f = strip f' ∧ References.ofFormula f = References.ofFormula f' ∧
          hasLiteral f = hasLiteral f') := by
  have h := sameReading hp hc hc'
  have ht : SameReading (trim (p ++ d.enclose c ++ q)) (trim (p ++ d.enclose c' ++ q)) := by
    obtain ⟨u, hu, he⟩ := Delimiter.exists_trim_enclose hc p
    obtain ⟨u', hu', he'⟩ := Delimiter.exists_trim_enclose hc' p
    rw [he, he']
    exact sameReading hp.trimStart hu hu'
  refine ⟨h.calls, h.parens, h.conditions, ?_, fun l m node node' k k' => ?_, fun hd => ?_⟩
  · rw [Pattern.ofFormula, Pattern.ofFormula, h.calls]
  · rw [← String.toList_ofList (l := p ++ d.enclose c ++ q),
      ← String.toList_ofList (l := p ++ d.enclose c' ++ q)] at ht
    refine textIssues_eq ?_ ?_ node node' k k'
    · exact ht
    · rfl
  · have hs := strip_eq_of_encloses hp hd hc hc'
    refine ⟨hs, ?_, ?_⟩
    · rw [References.ofFormula, References.ofFormula, hs]
    · rw [hasLiteral, hasLiteral, hs]

/-- A literal with an escaped quote and a parenthesis reads like one with an apostrophe. -/
theorem contents_invisible_apostrophe :
    let f := "IF([A], ".toList ++ Delimiter.literal.enclose "\"\"(".toList ++ ")".toList
    let f' := "IF([A], ".toList ++ Delimiter.literal.enclose "\'".toList ++ ")".toList
    AtTopLevel "IF([A], ".toList ∧ functionCalls (strip f) = functionCalls (strip f') ∧
      strip f = strip f' := by
  have hp : AtTopLevel "IF([A], ".toList := by decide
  have hc : Delimiter.literal.Encloses "\"\"(".toList ")".toList :=
    ⟨.pair (.char (by decide) .nil), by decide⟩
  have hc' : Delimiter.literal.Encloses "\'".toList ")".toList :=
    ⟨.char (by decide) .nil, by decide⟩
  have h := contents_invisible hp hc hc'
  exact ⟨hp, h.1, (h.2.2.2.2.2 (by decide)).1⟩

end Theorem

end Tabular
