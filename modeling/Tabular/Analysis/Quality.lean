import Tabular.Analysis.Issue

/-!
# Quality of a model

The quality of a model is a weighted sum of six scores between 0 and 100: for its issues, its
documentation, its folders, its relationships, its complexity and its cycles. A share of nothing is
complete. The sum is written once for any kind of number.
-/

namespace Tabular

/-- What the quality of a model is computed from. -/
structure QualityCounts where
  tables : Nat
  measures : Nat
  columns : Nat
  relationships : Nat
  documented : Nat
  foldered : Nat
  /-- Relationships with both cardinalities. -/
  explicit : Nat
  errors : Nat
  warnings : Nat
  infos : Nat
  cycles : Nat
  unused : Nat
  namingIssues : Nat
  /-- The complexity scores of the formulas. -/
  scores : List Nat
  deriving DecidableEq, Repr

namespace QualityCounts

/-- Counts the objects of a model; issues, scores and cycles are given. -/
def ofModel (m : SemanticModel) (severities : List Severity) (scores : List Nat)
    (cycles unused namingIssues : Nat) : QualityCounts :=
  { tables := m.tables.length
    measures := m.measureCount
    columns := m.columnCount
    relationships := m.relationships.length
    documented := (m.measures.filter (·.2.isDocumented)).length
    foldered := (m.measures.filter (·.2.isFoldered)).length
    explicit := (m.relationships.filter (·.hasCardinalities)).length
    errors := severities.count .error
    warnings := severities.count .warning
    infos := severities.count .info
    cycles := cycles
    unused := unused
    namingIssues := namingIssues
    scores := scores }

section Scores

variable {α : Type} [NatCast α] [OfScientific α] [Add α] [Sub α] [Mul α] [Div α] [LT α]
  [DecidableLT α]

/-- A part of a whole; of nothing all is there. -/
def share (part whole : Nat) : α :=
  if whole = 0 then ((1 : Nat) : α) else (part : α) / (whole : α)

/-- A number, or zero in place of a negative one. -/
def floorZero (x : α) : α := if x < ((0 : Nat) : α) then ((0 : Nat) : α) else x

/-- The mean of the complexity scores; zero if there are none. -/
def meanScore (c : QualityCounts) : α :=
  if c.scores.isEmpty then ((0 : Nat) : α)
  else (c.scores.foldl (fun (sum : α) (s : Nat) => sum + (s : α)) ((0 : Nat) : α)) / (c.scores.length : α)

/-- The score for the issues: ten points less for each error, three for each warning. -/
def issueScore (c : QualityCounts) : α :=
  floorZero (((100 : Nat) : α) - ((10 : Nat) : α) * (c.errors : α) -
    ((3 : Nat) : α) * (c.warnings : α))

/-- The score for the cycles: twenty-five points less for each. -/
def cycleScore (c : QualityCounts) : α :=
  floorZero (((100 : Nat) : α) - ((25 : Nat) : α) * (c.cycles : α))

def documentation (c : QualityCounts) : α := share c.documented c.measures

def folders (c : QualityCounts) : α := share c.foldered c.measures

def completeness (c : QualityCounts) : α := share c.explicit c.relationships

def weightedScore (c : QualityCounts) : α :=
  let hundred : α := ((100 : Nat) : α)
  (c.issueScore : α) * 0.35 + (c.documentation : α) * hundred * 0.15 +
    (c.folders : α) * hundred * 0.10 + (c.completeness : α) * hundred * 0.15 +
    (hundred - (c.meanScore : α)) * 0.15 + (c.cycleScore : α) * 0.10

/-- A score brought into the range from 0 to 100. -/
def clampScore (x : α) : α :=
  if x < ((0 : Nat) : α) then ((0 : Nat) : α)
  else if ((100 : Nat) : α) < x then ((100 : Nat) : α) else x

end Scores

end QualityCounts

/-- Counts are turned into the nearest doubles. -/
instance instNatCastFloat : NatCast Float := ⟨Float.ofNat⟩

/-- A number rounded to one decimal place, halves away from zero. -/
def roundTenth (x : Float) : Float := (x * 10).round / 10

/-- The quality of a model as it is reported. -/
structure Quality where
  overallScore : Float
  issueScore : Float
  documentationCoverage : Float
  displayFolderCoverage : Float
  relationshipCompleteness : Float
  averageComplexity : Float
  totalTables : Nat
  totalMeasures : Nat
  totalColumns : Nat
  totalRelationships : Nat
  errorCount : Nat
  warningCount : Nat
  infoCount : Nat
  cycleCount : Nat
  unusedMeasureCount : Nat
  namingIssueCount : Nat
  deriving Repr

def QualityCounts.quality (c : QualityCounts) : Quality :=
  { overallScore := roundTenth (clampScore c.weightedScore)
    issueScore := c.issueScore
    documentationCoverage := c.documentation
    displayFolderCoverage := c.folders
    relationshipCompleteness := c.completeness
    averageComplexity := roundTenth c.meanScore
    totalTables := c.tables
    totalMeasures := c.measures
    totalColumns := c.columns
    totalRelationships := c.relationships
    errorCount := c.errors
    warningCount := c.warnings
    infoCount := c.infos
    cycleCount := c.cycles
    unusedMeasureCount := c.unused
    namingIssueCount := c.namingIssues }

end Tabular
