import Tabular.Command.Format
import Tabular.Json.View
import Tabular.Project.Assembly
import Tabular.Terminal.Layout

/-!
# Views of a project

Each request has one view of the project in text and one in JSON.
-/

namespace Tabular.View

open Terminal

def json (v : Json) : String := line v.pretty

def count (n : Nat) : String := toString n

def summary (colours : Bool) (p : Project) : OutputFormat → String
  | .json =>
    let table (t : Table) : Json := .obj [
      ("name", .str t.name), ("measures", .nat t.measures.length),
      ("columns", .nat t.columns.length), ("hierarchies", .nat t.hierarchies.length),
      ("is_hidden", .bool t.isHidden)]
    json (.obj [
      ("model_name", .str p.model.name), ("semantic_model_path", .str p.modelPath),
      ("tables", .arr (p.model.tables.map table)),
      ("relationships", .strs (p.model.relationships.map (·.describe)))])
  | .text =>
    let row (t : Table) : List String :=
      [t.name, count t.measures.length, count t.columns.length, count t.hierarchies.length]
    let relationships := p.model.relationships.map (·.describe)
    heading colours ("Model: " ++ p.model.name) ++
      field colours "Path" p.modelPath ++
      field colours "Tables" (count p.model.tables.length) ++
      field colours "Measures" (count p.model.measureCount) ++
      field colours "Columns" (count p.model.columnCount) ++
      field colours "Relationships" (count relationships.length) ++
      heading colours "Tables" ++
      table colours ["Table", "Measures", "Columns", "Hierarchies"] (p.model.tables.map row) ++
      if relationships.isEmpty then ""
      else heading colours "Relationships" ++ String.join (relationships.map item)

def references (colours : Bool) (d : Dependency) : String :=
  field colours "Measures" (joined d.measures) ++
    field colours "Columns" (joined (d.columns.map (·.describe))) ++
    field colours "Tables" (joined d.tables) ++
    field colours "Used by" (joined d.dependents)

def severityStyle : Severity → Style
  | .error => { bold := true, colour := some .red }
  | .warning => { colour := some .yellow }
  | .info => { colour := some .blue }

def issue (colours : Bool) (i : Issue) : String :=
  item ((severityStyle i.severity).paint colours i.severity.word ++ " " ++ i.code ++ " " ++
      i.message) ++
    match i.suggestion with
    | some s => line ("      " ++ Style.paint colours { dimmed := true } s)
    | none => ""

def measure (colours : Bool) (r : MeasureReport) (d : Dependency) : OutputFormat → String
  | .json => json (Json.obj [("analysis", r.toJson), ("dependencies", d.toJson)]).sortKeys
  | .text =>
    heading colours (r.table ++ "[" ++ r.measure ++ "]") ++
      line r.expression ++
      heading colours "Complexity" ++
      field colours "Score" (count r.complexity.score ++ " (" ++ r.complexity.level.word ++ ")") ++
      field colours "Nesting depth" (count r.complexity.size.nestingDepth) ++
      field colours "Functions" (count r.complexity.size.functionCount) ++
      field colours "Recommendation" r.complexity.advice ++
      heading colours "Pattern" ++
      field colours "Type"
        (r.pattern.type.word ++ " (confidence " ++ Decimal.fixedText 1 r.pattern.confidence ++ ")") ++
      (if r.pattern.functions.isEmpty then ""
        else field colours "Keywords" (", ".intercalate r.pattern.functions)) ++
      heading colours "Dependencies" ++
      references colours d ++
      heading colours "Issues" ++
      (if r.issues.isEmpty then success colours "No issues found" else "") ++
      String.join (r.issues.map (issue colours))

def dependency (colours : Bool) (d : Dependency) : OutputFormat → String
  | .json => json d.toJson
  | .text => heading colours (d.table ++ "[" ++ d.measure ++ "]") ++ references colours d

def dependencies (colours : Bool) (g : Graph) : OutputFormat → String
  | .json =>
    json (Json.obj [("statistics", g.statistics.toJson),
      ("edges", .arr (g.edges.map (·.toJson)))]).sortKeys
  | .text =>
    let s := g.statistics
    let edges := count s.measureEdges ++ " measure, " ++ count s.columnEdges ++ " column, " ++
      count s.tableEdges ++ " table"
    let rows := (g.nodes.filter (!·.measures.isEmpty)).map fun d =>
      [d.measure, ", ".intercalate d.measures]
    heading colours "Dependency graph" ++
      field colours "Measures" (count s.totalMeasures) ++
      field colours "Edges" edges ++
      field colours "Root measures" (count s.rootMeasures) ++
      field colours "Unused measures" (count s.unusedMeasures) ++
      field colours "Max depth" (count s.maxDepth) ++
      field colours "Circular dependencies" (count s.circularDependencies) ++
      if rows.isEmpty then ""
      else heading colours "Measure references" ++ table colours ["Measure", "References"] rows

def cycles (colours : Bool) (cs : List Cycle) : OutputFormat → String
  | .json => json (.arr (cs.map (·.toJson)))
  | .text =>
    if cs.isEmpty then success colours "No circular dependencies"
    else
      warning colours (count cs.length ++ " circular dependencies found") ++
        String.join (cs.map fun c => item c.describe)

def quality (colours : Bool) (model : String) (q : Quality) (recommendations : List String) :
    OutputFormat → String
  | .json => json (q.toJson recommendations)
  | .text =>
    let issues := count q.errorCount ++ " errors, " ++ count q.warningCount ++ " warnings, " ++
      count q.infoCount ++ " info"
    heading colours ("Model quality: " ++ model) ++
      field colours "Overall score" (score colours q.overallScore) ++
      field colours "Issues" issues ++
      field colours "Documented measures" (percent q.documentationCoverage) ++
      field colours "Measures in folders" (percent q.displayFolderCoverage) ++
      field colours "Relationships with cardinality" (percent q.relationshipCompleteness) ++
      field colours "Average complexity" (Decimal.fixedText 1 q.averageComplexity) ++
      field colours "Circular dependencies" (count q.cycleCount) ++
      field colours "Unused measures" (count q.unusedMeasureCount) ++
      field colours "Naming issues" (count q.namingIssueCount) ++
      heading colours "Recommendations" ++
      String.join (recommendations.map item)

def naming (colours : Bool) (issues : List NamingIssue) : OutputFormat → String
  | .json => json (.arr (issues.map (·.toJson)))
  | .text =>
    if issues.isEmpty then success colours "All names follow the conventions"
    else
      heading colours ("Naming issues (" ++ count issues.length ++ ")") ++
        String.join (issues.map fun i => item i.describe)

def script (t : Table) : OutputFormat → String
  | .json => json t.scriptJson
  | .text => line t.script

end Tabular.View
