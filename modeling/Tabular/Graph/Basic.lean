import Tabular.Formula.Reference
import Tabular.Model.Lookup
import Tabular.Text.LetterCase

/-!
# The dependency graph

A graph has one node for each measure name, in order of declaration. Names that differ in letter case
only are one name, and the first declaration gives the spelling and the owner. Each node knows the
measures that it refers to and those that refer to it.
-/

namespace Tabular

open Text Formula

/-- A column as a formula refers to it. -/
structure ColumnRef where
  table : String
  column : String
  deriving DecidableEq, Repr

def ColumnRef.describe (c : ColumnRef) : String := "'" ++ c.table ++ "'[" ++ c.column ++ "]"

/-- What one measure depends on, and which measures depend on it. -/
structure Dependency where
  measure : String
  table : String
  measures : List String := []
  columns : List ColumnRef := []
  tables : List String := []
  dependents : List String := []
  deriving DecidableEq, Repr

namespace Dependency

/-- The measure refers to no measure. -/
def isRoot (d : Dependency) : Bool := d.measures.isEmpty

def isLeaf (d : Dependency) : Bool := d.dependents.isEmpty

/-- The measure refers to nothing. -/
def isIsolated (d : Dependency) : Bool :=
  d.measures.isEmpty && d.columns.isEmpty && d.tables.isEmpty

end Dependency

/-- Adds an item unless it is there. -/
def insertLast {α : Type} [BEq α] (items : List α) (x : α) : List α :=
  if items.contains x then items else items ++ [x]

/-- The name by which measures are told apart. -/
def foldName (name : String) : List Char := lower name.toList

/-- Nodes by name, in the order in which the names came. -/
abbrev Entries := List (String × Dependency)

namespace Entries

/-- Changes the node of this name, if there is one. -/
def modify (name : String) (f : Dependency → Dependency) (entries : Entries) : Entries :=
  entries.map fun e => if e.1 = name then (e.1, f e.2) else e

/-- Adds a node at the end, or puts it in the place of the one that has its name. -/
def insert (name : String) (d : Dependency) (entries : Entries) : Entries :=
  if (entries.lookup name).isSome then modify name (fun _ => d) entries
  else entries ++ [(name, d)]

end Entries

/-- What the declarations give: for each folded name its spelling, and the nodes, still without
edges. -/
structure Declared where
  spellings : List (List Char × String) := []
  entries : Entries := []
  deriving DecidableEq, Repr

namespace Declared

/-- Adds the declaration of a measure in a table; a name that has been seen adds nothing. -/
def add (s : Declared) (p : Table × Measure) : Declared :=
  match s.spellings.lookup (foldName p.2.name) with
  | some _ => s
  | none =>
    { spellings := s.spellings ++ [(foldName p.2.name, p.2.name)]
      entries := s.entries.insert p.2.name { measure := p.2.name, table := p.1.name } }

def ofMeasures (measures : List (Table × Measure)) : Declared := measures.foldl add {}

def resolve? (s : Declared) (name : String) : Option String := s.spellings.lookup (foldName name)

end Declared

/-- A graph: its nodes by name. -/
structure Graph where
  entries : Entries
  deriving DecidableEq, Repr

namespace Graph

/-- Adds a name in brackets: a measure if there is one of the name, else a column of the own table. -/
def addBracket (s : Declared) (table : String) (d : Dependency) (name : String) : Dependency :=
  match s.resolve? name with
  | some target => { d with measures := insertLast d.measures target }
  | none => { d with columns := insertLast d.columns ⟨table, name⟩ }

/-- Adds a table without column. -/
def addTable (d : Dependency) (table : String) : Dependency :=
  { d with tables := insertLast d.tables table }

def addColumn (d : Dependency) (column : String × String) : Dependency :=
  { d with
    tables := insertLast d.tables column.1
    columns := insertLast d.columns ⟨column.1, column.2⟩ }

def addReferences (s : Declared) (table : String) (refs : References) (d : Dependency) :
    Dependency :=
  let d := refs.brackets.foldl (addBracket s table) d
  let d := refs.loneTables.foldl addTable d
  refs.qualified.foldl addColumn d

/-- Adds the references of a declaration that bears the name of the node, provided that the node is
owned by a table of this name. -/
def linkNode (s : Declared) (d : Dependency) (p : Table × Measure) : Dependency :=
  if d.table = p.1.name then
    addReferences s p.1.name (References.ofFormula p.2.expression.toList) d
  else d

/-- The declared nodes with the references of all declarations. -/
def linkAll (s : Declared) (measures : List (Table × Measure)) : Entries :=
  measures.foldl (fun es p => es.modify p.2.name (linkNode s · p)) s.entries

/-- Each reference to a measure, turned round: the measure referred to and the one that refers. -/
def backReferences (entries : Entries) : List (String × String) :=
  entries.flatMap fun e => e.2.measures.map (·, e.2.measure)

def addDependent (d : Dependency) (dependent : String) : Dependency :=
  { d with dependents := insertLast d.dependents dependent }

/-- The nodes with every reference to a measure entered at its target too. -/
def invert (entries : Entries) : Entries :=
  (backReferences entries).foldl (fun es r => es.modify r.1 (addDependent · r.2)) entries

def ofModel (m : SemanticModel) : Graph :=
  ⟨invert (linkAll (Declared.ofMeasures m.measures) m.measures)⟩

/-- The nodes in order. -/
def nodes (g : Graph) : List Dependency := g.entries.map Prod.snd

/-- The names of the nodes in order. -/
def names (g : Graph) : List String := g.entries.map Prod.fst

def node? (g : Graph) (name : String) : Option Dependency := g.entries.lookup name

/-- The node of this name, or the first one whose measure is called so up to ASCII case. -/
def get? (g : Graph) (name : String) : Option Dependency :=
  match g.node? name with
  | some d => some d
  | none => g.nodes.find? fun d => eqIgnoreCase d.measure name

def dependency (g : Graph) (name : String) : Except Failure Dependency :=
  match g.get? name with
  | some d => .ok d
  | none => .error (.measureNotFound name)

def successors (g : Graph) (name : String) : List String :=
  match g.node? name with
  | some d => d.measures
  | none => []

/-- The measures that refer to no measure. -/
def roots (g : Graph) : List String := (g.nodes.filter (·.isRoot)).map (·.measure)

/-- The measures that no measure refers to. -/
def leaves (g : Graph) : List String := (g.nodes.filter (·.isLeaf)).map (·.measure)

/-- The measures that nothing in the model uses. -/
def unused (g : Graph) : List String := g.leaves

/-- The measure is there and refers to no measure. -/
def isRoot (g : Graph) (name : String) : Bool := (g.get? name).any (·.isRoot)

/-- The measure is there and no measure refers to it. -/
def isLeaf (g : Graph) (name : String) : Bool := (g.get? name).any (·.isLeaf)

end Graph

end Tabular
