import Tabular.Command.Arguments
import Tabular.Command.View
import Tabular.Config.File

/-!
# Commands

A command reads its configuration, loads the project and shows one view of it. The first thing that
goes wrong ends it.
-/

namespace Tabular

/-- Why a command fails. -/
inductive CommandFault where
  | unknownFormat (name : String)
  | noConfig (path : String)
  | config (path : String) (failure : Failure)
  | project (path : String) (failure : Failure)
  | lookup (failure : Failure)
  deriving DecidableEq, Repr

/-- The sentence for a failure, followed by what caused it. -/
def Failure.messageWithCause : Failure → String
  | .unreadable path cause => (Failure.unreadable path cause).message ++ ": " ++ cause
  | f => f.message

def CommandFault.message : CommandFault → String
  | unknownFormat name => "Unknown output format: " ++ name
  | noConfig path => "Config file does not exist: " ++ path
  | config path f => "Failed to load config: " ++ path ++ ": " ++ f.messageWithCause
  | project path f => "Failed to load project: " ++ path ++ ": " ++ f.messageWithCause
  | lookup f => f.messageWithCause

/-- What a command leaves behind: its status and its texts for both streams. -/
structure Outcome where
  status : Nat
  output : String := ""
  errors : String := ""
  deriving DecidableEq, Repr

/-- The files that commands read. -/
structure Host (m : Type → Type) where
  /-- The octets of a configuration file; nothing if the path leads nowhere. -/
  config : Path → m (Option (Except ReadFault (List UInt8)))
  /-- The files of the model that belongs to a project. -/
  source : Layout → String → m Source

/-- The tree of a directory as the files that commands read there. -/
def Tree.toHost (t : Tree) : Host Id where
  config p := if t.hasEntry p then some (t.readBytes p) else none
  source _ _ := t.toSource

namespace Request

def answer (l : Limits) (colours : Bool) (format : OutputFormat) (p : Project) :
    Request → Except Failure String
  | summary => .ok (View.summary colours p format)
  | measure name => do
    let g := Graph.ofModel p.model
    let r ← p.model.measureReport l g name
    let d ← g.dependency r.measure
    return View.measure colours r d format
  | dependencies (some name) => do
    let d ← (Graph.ofModel p.model).dependency name
    return View.dependency colours d format
  | dependencies none => .ok (View.dependencies colours (.ofModel p.model) format)
  | cycles => .ok (View.cycles colours (Graph.ofModel p.model).findCycles format)
  | quality =>
    let q := p.model.quality l (.ofModel p.model)
    .ok (View.quality colours p.model.name q (q.recommendations l) format)
  | naming => .ok (View.naming colours (Naming.checkModel l p.model) format)
  | script table => do
    let t ← p.model.table table
    return View.script t format

end Request

namespace Invocation

/-- The settings that an invocation names; without a name the defaults. -/
def settings {m : Type → Type} [Monad m] (i : Invocation) (h : Host m) :
    m (Except CommandFault Settings) := do
  match i.config with
  | none => return .ok {}
  | some path =>
    match ← h.config (.ofString path) with
    | none => return .error (.noConfig path)
    | some content => return (Settings.ofFile (.ofString path) content).mapError (.config path)

/-- The text that an invocation answers with, once its settings and files are known. -/
def answer (i : Invocation) (colours : Bool) (format : OutputFormat) (s : Settings)
    (files : Source) : Except CommandFault String := do
  let p ← (s.layout.assemble files i.project).mapError (.project i.project)
  (i.request.answer s.limits colours format p).mapError .lookup

def run {m : Type → Type} [Monad m] (i : Invocation) (h : Host m) (colours : Bool) :
    m (Except CommandFault String) := do
  match OutputFormat.ofName? i.format with
  | none => return .error (.unknownFormat i.format)
  | some format =>
    match ← i.settings h with
    | .error e => return .error e
    | .ok s => return i.answer colours format s (← h.source s.layout i.project)

end Invocation

def versionLine : String := "pbi-model-analyzer 0.3.0\n"

def usage : String := String.join <| [
  "Static analyzer for Power BI semantic models (TMDL) and DAX measures",
  "",
  "Usage: pbi-model-analyzer [OPTIONS] <COMMAND>",
  "",
  "Commands:",
  "  summary       Show tables, measures and relationships of a project",
  "  measure       Analyze one measure: complexity, pattern, issues and dependencies",
  "  dependencies  Show the dependency graph, or the dependencies of one measure",
  "  cycles        List circular measure dependencies",
  "  quality       Compute the model quality score with recommendations",
  "  naming        Check naming conventions of tables, measures and columns",
  "  export-dax    Export the measures of a table as a DAX script",
  "  help          Print this message or the help of the given subcommand(s)",
  "",
  "Options:",
  "  -v, --verbose          Enable verbose logging",
  "  -f, --format <FORMAT>  Output format (text, json) [default: text]",
  "  -c, --config <CONFIG>  Path to analyzer configuration (TOML or YAML)",
  "  -h, --help             Print help",
  "  -V, --version          Print version"].map (· ++ "\n")

def Interruption.outcome : Interruption → Outcome
  | version => ⟨0, versionLine, ""⟩
  | help => ⟨0, usage, ""⟩
  | misuse reason => ⟨2, "", "error: " ++ reason ++ "\n\n" ++ usage⟩

def execute {m : Type → Type} [Monad m] (h : Host m) (colours : Bool) (args : List String) :
    m Outcome := do
  match Arguments.read args with
  | .error i => return i.outcome
  | .ok i =>
    match ← i.run h colours with
    | .ok text => return ⟨0, text, ""⟩
    | .error fault => return ⟨1, "", Terminal.error colours fault.message⟩

end Tabular
