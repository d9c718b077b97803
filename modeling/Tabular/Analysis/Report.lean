import Tabular.Analysis.Naming
import Tabular.Analysis.Pattern
import Tabular.Analysis.Recommendation
import Tabular.Graph.Statistics

/-!
# Reports

The analyses of one measure, and all analyses of a model.
-/

namespace Tabular

/-- The analyses of one measure. -/
structure MeasureReport where
  measure : String
  table : String
  expression : String
  complexity : Complexity
  pattern : Pattern
  issues : List Issue
  deriving DecidableEq, Repr

/-- Analyses a measure of a table. Its node in the graph is the one found by its name. -/
def Measure.report (l : Limits) (g : Graph) (table : String) (m : Measure) : MeasureReport :=
  let node := g.get? m.name
  let complexity := Complexity.ofFormula l m.expression.toList node
  { measure := m.name
    table := table
    expression := m.expression
    complexity := complexity
    pattern := .ofFormula m.expression.toList
    issues := m.issues l node (some complexity) }

namespace SemanticModel

def measureReport (l : Limits) (g : Graph) (m : SemanticModel) (name : String) :
    Except Failure MeasureReport :=
  match m.measure name with
  | .ok (t, found) => .ok (found.report l g t.name)
  | .error e => .error e

/-- Analyses every measure, in declaration order. -/
def measureReports (l : Limits) (g : Graph) (m : SemanticModel) : List MeasureReport :=
  m.measures.map fun p => p.2.report l g p.1.name

def qualityCounts (l : Limits) (g : Graph) (m : SemanticModel) : QualityCounts :=
  let reports := m.measureReports l g
  .ofModel m (reports.flatMap fun r => r.issues.map (·.severity))
    (reports.map (·.complexity.score)) g.findCycles.length g.unused.length
    (Naming.checkModel l m).length

def quality (l : Limits) (g : Graph) (m : SemanticModel) : Quality := (m.qualityCounts l g).quality

end SemanticModel

/-- All analyses of a model. -/
structure ModelReport where
  modelName : String
  quality : Quality
  recommendations : List String
  measures : List MeasureReport
  namingIssues : List NamingIssue
  cycles : List Cycle
  statistics : GraphStatistics
  deriving Repr

def SemanticModel.report (l : Limits) (m : SemanticModel) : ModelReport :=
  let g := Graph.ofModel m
  let q := m.quality l g
  { modelName := m.name
    quality := q
    recommendations := q.recommendations l
    measures := m.measureReports l g
    namingIssues := Naming.checkModel l m
    cycles := g.findCycles
    statistics := g.statistics }

end Tabular
