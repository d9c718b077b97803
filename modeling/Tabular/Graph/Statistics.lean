import Tabular.Graph.Cycle
import Tabular.Graph.Depth
import Tabular.Graph.Edge

/-!
# Statistics of the dependency graph
-/

namespace Tabular

/-- Counts over a dependency graph. -/
structure GraphStatistics where
  totalMeasures : Nat
  measureEdges : Nat
  columnEdges : Nat
  tableEdges : Nat
  rootMeasures : Nat
  leafMeasures : Nat
  unusedMeasures : Nat
  circularDependencies : Nat
  maxDepth : Nat
  /-- References to measures per measure; zero without measures. -/
  meanReferences : Float
  deriving Repr

def Graph.statistics (g : Graph) : GraphStatistics :=
  { totalMeasures := g.nodes.length
    measureEdges := g.measureEdgeCount
    columnEdges := g.columnEdgeCount
    tableEdges := g.tableEdgeCount
    rootMeasures := g.roots.length
    leafMeasures := g.leaves.length
    unusedMeasures := g.unused.length
    circularDependencies := g.findCycles.length
    maxDepth := g.maxDepth
    meanReferences :=
      if g.nodes.isEmpty then 0
      else Float.ofNat g.measureEdgeCount / Float.ofNat g.nodes.length }

end Tabular
