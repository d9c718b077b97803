import Tabular.Analysis.Complexity
import Tabular.Formula.Literal

/-!
# Issues of measures

A measure is checked by independent rules, each of which reports at most one issue. The order of the
rules is the order of the report.
-/

namespace Tabular

open Text Formula

/-- How bad an issue is. -/
inductive Severity where
  | error
  | warning
  | info
  deriving DecidableEq, Repr

def Severity.word : Severity → String
  | error => "error"
  | warning => "warning"
  | info => "info"

/-- What an issue is about. -/
inductive IssueCategory where
  | correctness
  | performance
  | maintainability
  | documentation
  deriving DecidableEq, Repr

def IssueCategory.word : IssueCategory → String
  | correctness => "correctness"
  | performance => "performance"
  | maintainability => "maintainability"
  | documentation => "documentation"

/-- The finding of one rule, before it is tied to a measure. -/
structure Finding where
  code : String
  severity : Severity
  category : IssueCategory
  message : String
  suggestion : Option String
  deriving DecidableEq, Repr

/-- A finding on a measure. -/
structure Issue extends Finding where
  measure : String
  deriving DecidableEq, Repr

def Issue.describe (i : Issue) : String :=
  "[" ++ i.severity.word ++ "] " ++ i.code ++ " " ++ i.measure ++ ": " ++ i.message

namespace Finding

/-- A division that fails on zero. -/
def division : Finding :=
  ⟨"DAX001", .error, .correctness, "Division operator '/' fails on a zero denominator",
    some "Use DIVIDE(numerator, denominator) for safe division"⟩

/-- A measure that nothing describes. -/
def undocumented : Finding :=
  ⟨"DAX002", .info, .documentation, "Measure has no description",
    some "Add a description explaining what the measure calculates"⟩

def unfoldered : Finding :=
  ⟨"DAX003", .info, .documentation, "Measure is not assigned to a display folder",
    some "Group related measures with displayFolder"⟩

def deepConditions (depth limit : Nat) : Finding :=
  ⟨"DAX004", .warning, .maintainability,
    "Conditional nesting depth " ++ toString depth ++ " exceeds " ++ toString limit,
    some "Replace nested IF with SWITCH(TRUE(), ...)"⟩

/-- A formula that neither refers to anything nor holds a constant. -/
def noReference : Finding :=
  ⟨"DAX005", .warning, .correctness, "Formula references no measure, column or table",
    some "Check for a broken or misspelled reference"⟩

def errorHandling : Finding :=
  ⟨"DAX006", .warning, .performance, "IFERROR forces row-by-row error handling",
    some "Prevent the error instead, e.g. with DIVIDE or an explicit IF test"⟩

def outerRow : Finding :=
  ⟨"DAX007", .info, .maintainability, "EARLIER is hard to read",
    some "Capture the outer row value in a variable (VAR)"⟩

def wholeTableFilter : Finding :=
  ⟨"DAX008", .warning, .performance, "FILTER over ALL of a table iterates every row",
    some "Use a column filter in CALCULATE or REMOVEFILTERS instead"⟩

/-- A measure without formula. -/
def emptyFormula : Finding :=
  ⟨"DAX009", .error, .correctness, "Measure has an empty formula", none⟩

def tooComplex (c : Complexity) : Finding :=
  ⟨"DAX010", .info, .maintainability,
    "Complexity score " ++ toString c.score ++ " is in the complex band", some c.advice⟩

end Finding

/-- Whether a masked formula has a slash outside quoted names. -/
def hasSlash (inQuote : Bool) : List Char → Bool
  | [] => false
  | c :: cs =>
    if c = '\'' then hasSlash (!inQuote) cs
    else if c = '/' ∧ inQuote = false then true
    else hasSlash inQuote cs

/-- Whether a stripped formula divides with the operator and nowhere with the function. -/
def dividesBarely (code : List Char) : Bool :=
  hasSlash false (mask code) && !(functionCalls code).any ratioFunctions.contains

/-- The masked code in upper case and without blanks, in which keywords are looked for. -/
def keywordText (code : List Char) : List Char :=
  (dropBlanks (mask code)).map asciiUpper

/-- The findings that hang on a sequence of keywords in the code. -/
def keywordFindings : List (String × Finding) := [
  ("IFERROR(", .errorHandling), ("EARLIER(", .outerRow), ("FILTER(ALL(", .wholeTableFilter)]

def findKeywords (code : List Char) : List Finding :=
  (keywordFindings.filter fun rule => occursIn rule.1.toList (keywordText code)).map (·.2)

def when (condition : Bool) (f : Finding) : List Finding := if condition then [f] else []

/-- Whether a formula with this node refers to nothing and holds no constant. -/
def refersToNothing (formula : List Char) : Option Dependency → Bool
  | some d => !formula.isEmpty && d.isIsolated && !hasLiteral formula
  | none => false

/-- All findings on a measure. The node of the measure and the complexity of its formula are needed
by one rule each, which without them finds nothing. -/
def findings (l : Limits) (m : Measure) (node : Option Dependency) (complexity : Option Complexity) :
    List Finding :=
  let formula := trim m.expression.toList
  let code := strip formula
  let depth := conditionalDepth code
  when (dividesBarely code) .division ++
    when (!m.isDocumented) .undocumented ++
    when (!m.isFoldered) .unfoldered ++
    when (l.maxIfNesting < depth) (.deepConditions depth l.maxIfNesting) ++
    when (refersToNothing formula node) .noReference ++
    findKeywords code ++
    when formula.isEmpty .emptyFormula ++
    (complexity.toList.filter (·.level == .complex)).map .tooComplex

def Measure.issues (l : Limits) (m : Measure) (node : Option Dependency)
    (complexity : Option Complexity) : List Issue :=
  (findings l m node complexity).map fun f => { f with measure := m.name }

end Tabular
