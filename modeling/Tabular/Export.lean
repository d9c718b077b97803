import Tabular.Model.Basic
import Tabular.Text.Lines

/-!
# Exports of a table

A script lists the measures of a table as definitions, each under a comment with its description or
name. A schema lists the columns.
-/

namespace Tabular

open Text

def commentLine (text : List Char) : List Char := ['-', '-', ' '] ++ text

/-- What is said of a measure: its description unless that is blank, else its name. -/
def Measure.title (m : Measure) : String :=
  match m.description with
  | some d => if isBlankText d.toList then m.name else d
  | none => m.name

/-- The lines of a script for one measure, with an empty one at the end. -/
def Measure.scriptLines (m : Measure) : List (List Char) :=
  (lines m.title.toList).map commentLine ++
    [("[" ++ m.name ++ "] = " ++ m.expression).toList] ++
    (m.formatString.toList.map fun f => commentLine ("Format: " ++ f).toList) ++ [[]]

def Table.scriptLines (t : Table) : List (List Char) :=
  [commentLine ("DAX Measures for " ++ t.name).toList,
    commentLine "Generated by pbi-model-analyzer".toList, []] ++
    t.measures.flatMap (·.scriptLines)

def Table.script (t : Table) : String := String.ofList (joinWith ['\n'] t.scriptLines)

/-- A column as a schema shows it. -/
structure ColumnSchema where
  name : String
  dataType : String
  /-- The column that it comes from, under its own name if none is given. -/
  source : String
  isHidden : Bool
  deriving DecidableEq, Repr

/-- A table as a schema shows it. -/
structure TableSchema where
  name : String
  columns : List ColumnSchema
  measureCount : Nat
  hierarchyCount : Nat
  deriving DecidableEq, Repr

def Column.schema (c : Column) : ColumnSchema :=
  ⟨c.name, c.dataType, c.sourceColumn.getD c.name, c.isHidden⟩

def Table.schema (t : Table) : TableSchema :=
  ⟨t.name, t.columns.map (·.schema), t.measures.length, t.hierarchies.length⟩

end Tabular
