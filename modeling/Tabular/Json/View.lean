import Tabular.Analysis.Report
import Tabular.Export
import Tabular.Json.Basic

/-!
# Results as JSON

The members of each object stand in a fixed order.
-/

namespace Tabular

namespace ColumnRef

def toJson (c : ColumnRef) : Json := .obj [("table", .str c.table), ("column", .str c.column)]

end ColumnRef

namespace Dependency

def toJson (d : Dependency) : Json := .obj [
  ("measure", .str d.measure), ("table", .str d.table), ("measures", .strs d.measures),
  ("columns", .arr (d.columns.map (·.toJson))), ("tables", .strs d.tables),
  ("dependents", .strs d.dependents)]

end Dependency

namespace Edge

def toJson (e : Edge) : Json := .obj [
  ("from", .str e.source), ("to", .str e.target), ("kind", .str e.kind.word)]

end Edge

namespace Cycle

def toJson (c : Cycle) : Json := .obj [("measures", .strs c.measures)]

end Cycle

namespace GraphStatistics

def toJson (s : GraphStatistics) : Json := .obj [
  ("total_measures", .nat s.totalMeasures), ("measure_edges", .nat s.measureEdges),
  ("column_edges", .nat s.columnEdges), ("table_edges", .nat s.tableEdges),
  ("root_measures", .nat s.rootMeasures), ("leaf_measures", .nat s.leafMeasures),
  ("unused_measures", .nat s.unusedMeasures),
  ("circular_dependencies", .nat s.circularDependencies), ("max_depth", .nat s.maxDepth),
  ("avg_measure_dependencies", .float s.meanReferences)]

end GraphStatistics

namespace Complexity

def toJson (c : Complexity) : Json := .obj [
  ("score", .nat c.score), ("nesting_depth", .nat c.size.nestingDepth),
  ("function_count", .nat c.size.functionCount), ("table_references", .nat c.size.tableCount),
  ("measure_references", .nat c.size.measureCount), ("has_iterators", .bool c.size.hasIterator),
  ("has_filter_modification", .bool c.size.hasFilterModifier), ("level", .str c.level.word),
  ("recommendation", .str c.advice)]

end Complexity

namespace Pattern

def toJson (p : Pattern) : Json := .obj [
  ("pattern_type", .str p.type.word), ("confidence", .float p.confidence),
  ("matched_keywords", .strs p.functions), ("description", .str p.type.describe)]

end Pattern

namespace Issue

def toJson (i : Issue) : Json := .obj [
  ("code", .str i.code), ("severity", .str i.severity.word), ("category", .str i.category.word),
  ("measure", .str i.measure), ("message", .str i.message), ("suggestion", .optStr i.suggestion)]

end Issue

namespace MeasureReport

def toJson (r : MeasureReport) : Json := .obj [
  ("measure", .str r.measure), ("table", .str r.table), ("expression", .str r.expression),
  ("complexity", r.complexity.toJson), ("pattern", r.pattern.toJson),
  ("issues", .arr (r.issues.map (·.toJson)))]

end MeasureReport

namespace NamingIssue

def toJson (i : NamingIssue) : Json := .obj [
  ("object_kind", .str i.kind.word), ("table", .optStr i.table), ("name", .str i.name),
  ("problems", .strs (i.problems.map (·.describe))), ("suggested_name", .str i.suggestedName)]

end NamingIssue

namespace Quality

def toJson (q : Quality) (recommendations : List String) : Json := .obj [
  ("overall_score", .float q.overallScore), ("issue_score", .float q.issueScore),
  ("documentation_coverage", .float q.documentationCoverage),
  ("display_folder_coverage", .float q.displayFolderCoverage),
  ("relationship_completeness", .float q.relationshipCompleteness),
  ("average_complexity", .float q.averageComplexity), ("total_tables", .nat q.totalTables),
  ("total_measures", .nat q.totalMeasures), ("total_columns", .nat q.totalColumns),
  ("total_relationships", .nat q.totalRelationships), ("error_count", .nat q.errorCount),
  ("warning_count", .nat q.warningCount), ("info_count", .nat q.infoCount),
  ("cycle_count", .nat q.cycleCount), ("unused_measure_count", .nat q.unusedMeasureCount),
  ("naming_issue_count", .nat q.namingIssueCount), ("recommendations", .strs recommendations)]

end Quality

def Table.scriptJson (t : Table) : Json := .obj [
  ("dax_script", .str t.script), ("table_name", .str t.name),
  ("measure_count", .nat t.measures.length)]

end Tabular
