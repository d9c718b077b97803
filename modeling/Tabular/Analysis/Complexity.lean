import Tabular.Config.Settings
import Tabular.Formula.Call
import Tabular.Formula.Nesting
import Tabular.Graph.Basic

/-!
# Complexity of formulas

A formula is scored by how deep its parentheses nest, which functions it calls and how many tables
and measures it refers to. Every part only adds to the score, which is at most 100.
-/

namespace Tabular

open Formula

/-- The band of a score. -/
inductive ComplexityLevel where
  | simple
  | moderate
  | complex
  deriving DecidableEq, Repr

namespace ComplexityLevel

def word : ComplexityLevel → String
  | simple => "simple"
  | moderate => "moderate"
  | complex => "complex"

def advice : ComplexityLevel → String
  | simple => "Formula is simple and easy to maintain"
  | moderate => "Consider using variables (VAR) to name intermediate results"
  | complex => "Split the formula into smaller base measures and reuse them"

end ComplexityLevel

/-- The band in which a score falls; the upper limit is looked at first. -/
def Limits.level (l : Limits) (score : Nat) : ComplexityLevel :=
  if l.complexThreshold ≤ score then .complex
  else if l.moderateThreshold ≤ score then .moderate
  else .simple

/-- What is counted in a formula. -/
structure FormulaSize where
  nestingDepth : Nat
  functionCount : Nat
  tableCount : Nat
  measureCount : Nat
  hasIterator : Bool
  hasFilterModifier : Bool
  deriving DecidableEq, Repr

namespace FormulaSize

/-- Counts a formula. Tables and measures are those of its node in the graph if there is one, else
all tables and all names in brackets that the formula itself shows. -/
def ofFormula (formula : List Char) (node : Option Dependency) : FormulaSize :=
  let code := strip formula
  let calls := functionCalls code
  let refs := References.ofFormula formula
  { nestingDepth := parenDepth code
    functionCount := (calls.filter knownFunctions.contains).length
    tableCount := match node with | some d => d.tables.length | none => refs.tables.length
    measureCount := match node with | some d => d.measures.length | none => refs.brackets.length
    hasIterator := !(callsAmong iterators calls).isEmpty
    hasFilterModifier := !(callsAmong filterModifiers calls).isEmpty }

def weight (s : FormulaSize) : Nat :=
  8 * s.nestingDepth + 3 * s.functionCount + 5 * s.tableCount + 4 * s.measureCount +
    (if s.hasIterator then 15 else 0) + (if s.hasFilterModifier then 10 else 0)

/-- The score: the weight, counted in 32 bits, up to 100. -/
def score (s : FormulaSize) : Nat := min (s.weight % 0x100000000) 100

end FormulaSize

/-- The complexity of a formula. -/
structure Complexity where
  size : FormulaSize
  score : Nat
  level : ComplexityLevel
  deriving DecidableEq, Repr

namespace Complexity

def ofSize (l : Limits) (s : FormulaSize) : Complexity := ⟨s, s.score, l.level s.score⟩

/-- The complexity of a formula, with its node in the graph if it has one. -/
def ofFormula (l : Limits) (formula : List Char) (node : Option Dependency) : Complexity :=
  ofSize l (.ofFormula formula node)

def advice (c : Complexity) : String := c.level.advice

end Complexity

end Tabular
