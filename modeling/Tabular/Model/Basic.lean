import Tabular.Text.Ascii
import Tabular.Text.Blank

/-!
# Semantic models

A semantic model is a list of tables and the relationships between them. A table holds measures,
columns and hierarchies in the order of their declarations. Fields that a declaration may leave out
are optional and absent by default.
-/

open Tabular.Text

namespace Tabular

/-- A named note on a table, a measure or a column. -/
structure Annotation where
  name : String
  value : String
  deriving DecidableEq, Repr

/-- A named formula of a table. -/
structure Measure where
  name : String
  expression : String := ""
  displayFolder : Option String := none
  formatString : Option String := none
  description : Option String := none
  isHidden : Bool := false
  dataCategory : Option String := none
  lineageTag : Option String := none
  annotations : List Annotation := []
  deriving DecidableEq, Repr

/-- The date hierarchy that a column offers in place of its own values. -/
structure Variation where
  name : String
  isDefault : Bool := false
  relationship : Option String := none
  defaultHierarchy : Option String := none
  deriving DecidableEq, Repr

/-- A column; one with an expression is calculated. -/
structure Column where
  name : String
  dataType : String := "string"
  sourceColumn : Option String := none
  isHidden : Bool := false
  formatString : Option String := none
  dataCategory : Option String := none
  summarizeBy : Option String := none
  sortByColumn : Option String := none
  displayFolder : Option String := none
  lineageTag : Option String := none
  description : Option String := none
  expression : Option String := none
  annotations : List Annotation := []
  variation : Option Variation := none
  deriving DecidableEq, Repr

/-- One level of a hierarchy. -/
structure Level where
  name : String
  column : Option String := none
  lineageTag : Option String := none
  ordinal : Option Int32 := none
  deriving DecidableEq, Repr

/-- A drill-down path, coarsest level first. -/
structure Hierarchy where
  name : String
  lineageTag : Option String := none
  levels : List Level := []
  isHidden : Bool := false
  displayFolder : Option String := none
  deriving DecidableEq, Repr

/-- A table with its children in declaration order. -/
structure Table where
  name : String
  lineageTag : Option String := none
  isHidden : Bool := false
  description : Option String := none
  measures : List Measure := []
  columns : List Column := []
  hierarchies : List Hierarchy := []
  annotations : List Annotation := []
  deriving DecidableEq, Repr

/-- How many rows of one side of a relationship a row of the other may meet. -/
inductive Cardinality where
  | one
  | many
  deriving DecidableEq, Repr

/-- A relationship between a column of one table and a column of another. -/
structure Relationship where
  name : Option String := none
  fromTable : String := ""
  fromColumn : String := ""
  toTable : String := ""
  toColumn : String := ""
  fromCardinality : Option Cardinality := none
  toCardinality : Option Cardinality := none
  isActive : Bool := true
  crossFilteringBehavior : Option String := none
  securityFilteringBehavior : Option String := none
  lineageTag : Option String := none
  deriving DecidableEq, Repr

/-- A named list of tables with their relationships. -/
structure SemanticModel where
  name : String
  tables : List Table
  relationships : List Relationship
  deriving DecidableEq, Repr

def isFilled : Option String → Bool
  | some s => !isBlankText s.toList
  | none => false

namespace Measure

def isDocumented (m : Measure) : Bool := isFilled m.description

def isFoldered (m : Measure) : Bool := isFilled m.displayFolder

end Measure

def Column.isCalculated (c : Column) : Bool := c.expression.isSome

namespace Cardinality

def word : Cardinality → String
  | one => "one"
  | many => "many"

/-- Reads a cardinality, without regard to ASCII case and outer blanks. -/
def ofText (s : List Char) : Option Cardinality :=
  match String.ofList ((trim s).map asciiLower) with
  | "one" => some one
  | "many" => some many
  | _ => none

end Cardinality

namespace Relationship

def hasEndpoints (r : Relationship) : Bool := !r.fromTable.isEmpty && !r.toTable.isEmpty

def hasCardinalities (r : Relationship) : Bool :=
  r.fromCardinality.isSome && r.toCardinality.isSome

/-- One line that names both ends, as in `Sales[Key] -> Product[Key]`. -/
def describe (r : Relationship) : String :=
  let ends := r.fromTable ++ "[" ++ r.fromColumn ++ "] -> " ++ r.toTable ++ "[" ++ r.toColumn ++ "]"
  if r.isActive then ends else ends ++ " (inactive)"

end Relationship

end Tabular
