import Tabular.Graph.Basic

/-!
# Edges of the dependency graph

An edge leads from a measure to a measure, a column or a table.
-/

namespace Tabular

/-- What an edge leads to. -/
inductive EdgeKind where
  | measure
  | column
  | table
  deriving DecidableEq, Repr

def EdgeKind.word : EdgeKind → String
  | measure => "measure"
  | column => "column"
  | table => "table"

/-- An edge with the name of its target. -/
structure Edge where
  source : String
  target : String
  kind : EdgeKind
  deriving DecidableEq, Repr

/-- The edges of one node: to measures, to columns, to tables. -/
def Dependency.edges (d : Dependency) : List Edge :=
  d.measures.map (⟨d.measure, ·, .measure⟩) ++
    d.columns.map (fun c => ⟨d.measure, c.describe, .column⟩) ++
    d.tables.map (⟨d.measure, ·, .table⟩)

namespace Graph

def edges (g : Graph) : List Edge := g.nodes.flatMap (·.edges)

def measureEdgeCount (g : Graph) : Nat := (g.nodes.flatMap (·.measures)).length

def columnEdgeCount (g : Graph) : Nat := (g.nodes.flatMap (·.columns)).length

def tableEdgeCount (g : Graph) : Nat := (g.nodes.flatMap (·.tables)).length

end Graph

end Tabular
