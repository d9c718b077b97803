import Tabular.Formula.Call

/-!
# Patterns of formulas

A formula is classed by the functions that it calls. The classes are tried in a fixed order, and the
first one of which some function is called is taken.
-/

namespace Tabular

open Formula

/-- A class of formulas. -/
inductive PatternType where
  | timeIntelligence
  | ratio
  | conditional
  | aggregation
  | text
  | unknown
  deriving DecidableEq, Repr

namespace PatternType

def word : PatternType → String
  | timeIntelligence => "time_intelligence"
  | ratio => "ratio"
  | conditional => "conditional"
  | aggregation => "aggregation"
  | text => "text"
  | unknown => "unknown"

def describe : PatternType → String
  | timeIntelligence => "Time intelligence calculation over a date table"
  | ratio => "Ratio computed with safe division"
  | conditional => "Conditional logic selecting between results"
  | aggregation => "Aggregation of column values"
  | text => "Text manipulation or formatting"
  | unknown => "No recognized pattern"

/-- The classes with their functions, in the order in which they are tried. -/
def rules : List (PatternType × List String) := [
  (timeIntelligence, timeFunctions), (ratio, ratioFunctions), (conditional, conditionals),
  (aggregation, aggregations), (text, textFunctions)]

end PatternType

/-- The class of a formula with the functions that put it there. -/
structure Pattern where
  type : PatternType
  functions : List String
  deriving DecidableEq, Repr

namespace Pattern

/-- How sure the class is: it grows with the number of functions up to one. -/
def confidence (p : Pattern) : Float :=
  if p.functions.isEmpty then 0
  else
    let c := 0.4 + 0.2 * Float.ofNat p.functions.length
    if c < 1.0 then c else 1.0

/-- The first class of which one of the calls is a function. -/
def ofCalls (calls : List String) : Pattern :=
  let hits := PatternType.rules.filterMap fun rule =>
    let found := callsAmong rule.2 calls
    if found.isEmpty then none else some ⟨rule.1, found⟩
  hits.headD ⟨.unknown, []⟩

def ofFormula (formula : List Char) : Pattern := ofCalls (functionCalls (strip formula))

end Pattern

end Tabular
