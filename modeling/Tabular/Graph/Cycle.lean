import Tabular.Graph.Basic

/-!
# Circular dependencies

The graph is searched depth first from each measure that has not been seen. Whenever a reference
leads back to the path of the search, the part of the path from there on is a cycle.
-/

namespace Tabular

/-- Measures each of which refers to the next, and the last to the first. -/
structure Cycle where
  measures : List String
  deriving DecidableEq, Repr

/-- The cycle in a line, closed by its first measure. -/
def Cycle.describe (c : Cycle) : String :=
  " -> ".intercalate (c.measures ++ c.measures.take 1)

/-- What a search has met. -/
structure Search where
  visited : List String := []
  cycles : List Cycle := []
  deriving DecidableEq, Repr

namespace Search

def visit (s : Search) (name : String) : Search := { s with visited := name :: s.visited }

/-- Reports the part of a path that begins with a measure. -/
def report (s : Search) (path : List String) (first : String) : Search :=
  { s with cycles := s.cycles ++ [⟨path.dropWhile (· != first)⟩] }

/-- Meets a measure at the end of a path: one on the path closes a cycle, and one that has not been
seen is entered. -/
def meet (path : List String) (enter : Search → String → Search) (s : Search) (next : String) :
    Search :=
  if path.contains next then s.report path next
  else if s.visited.contains next then s
  else enter s next

end Search

namespace Graph

/-- Searches from a measure that is joined to the end of a path. The path can take `room` more
measures. -/
def searchFrom (g : Graph) : Nat → List String → Search → String → Search
  | 0, _, s, _ => s
  | room + 1, path, s, name =>
    (g.successors name).foldl (Search.meet (path ++ [name]) (searchFrom g room (path ++ [name])))
      (s.visit name)

/-- The whole search, from each measure in order. A path has room for every measure. -/
def search (g : Graph) : Search :=
  g.names.foldl (Search.meet [] (g.searchFrom (g.names.length + 1) [])) {}

/-- The cycles that the search finds, in its order. -/
def findCycles (g : Graph) : List Cycle := g.search.cycles

end Graph

end Tabular
