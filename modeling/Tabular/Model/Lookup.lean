import Tabular.Model.Basic
import Tabular.Model.Failure

/-!
# Looking objects up by name

An object that bears the very name is preferred; failing that, the first one whose name differs only
in the case of ASCII letters is taken.
-/

namespace Tabular

open Text

/-- The first item called `name`, else the first called so up to ASCII case. -/
def findNamed {α : Type} (nameOf : α → String) (name : String) (items : List α) : Option α :=
  match items.find? (nameOf · == name) with
  | some x => some x
  | none => items.find? fun x => eqIgnoreCase (nameOf x) name

namespace Table

def measure? (t : Table) (name : String) : Option Measure :=
  findNamed Measure.name name t.measures

def column? (t : Table) (name : String) : Option Column :=
  findNamed Column.name name t.columns

def hierarchy? (t : Table) (name : String) : Option Hierarchy :=
  t.hierarchies.find? (·.name == name)

end Table

namespace SemanticModel

/-- Every measure with the table that declares it, in declaration order. -/
def measures (m : SemanticModel) : List (Table × Measure) :=
  m.tables.flatMap fun t => t.measures.map (t, ·)

def measureCount (m : SemanticModel) : Nat :=
  (m.tables.flatMap (·.measures)).length

def columnCount (m : SemanticModel) : Nat :=
  (m.tables.flatMap (·.columns)).length

def table (m : SemanticModel) (name : String) : Except Failure Table :=
  match findNamed Table.name name m.tables with
  | some t => .ok t
  | none => .error (.tableNotFound name)

/-- The measure with this name and its table; of several tables that declare it the first. -/
def measure (m : SemanticModel) (name : String) : Except Failure (Table × Measure) :=
  match findNamed (fun p : Table × Measure => p.2.name) name m.measures with
  | some p => .ok p
  | none => .error (.measureNotFound name)

/-- A column of a table. A missing column is reported under the name that the table itself has. -/
def column (m : SemanticModel) (table column : String) : Except Failure Column :=
  match m.table table with
  | .error e => .error e
  | .ok t =>
    match t.column? column with
    | some c => .ok c
    | none => .error (.columnNotFound t.name column)

theorem length_measures (m : SemanticModel) : m.measures.length = m.measureCount := by
  simp [measures, measureCount, List.length_flatMap]

end SemanticModel

end Tabular
