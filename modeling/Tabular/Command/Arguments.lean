import Tabular.Text.Search

/-!
# Arguments of the command line

The arguments name a command with its operands; options may stand before and after the command. An
option is given once at most on each side, and behind the command it takes precedence. Arguments are
read from the left, and the first that settles the outcome does.
-/

namespace Tabular

open Text

/-- What can be asked about a project. -/
inductive Request where
  | summary
  | measure (name : String)
  | dependencies (measure : Option String)
  | cycles
  | quality
  | naming
  | script (table : String)
  deriving DecidableEq, Repr

/-- A request with the options it was made with. -/
structure Invocation where
  request : Request
  project : String
  format : String := "text"
  config : Option String := none
  verbose : Bool := false
  deriving DecidableEq, Repr

/-- Outcomes that need no project. -/
inductive Interruption where
  | version
  | help
  | misuse (reason : String)
  deriving DecidableEq, Repr

namespace Arguments

/-- The commands by their kind. -/
inductive Verb where
  | summary
  | measure
  | dependencies
  | cycles
  | quality
  | naming
  | exportDax
  deriving DecidableEq, Repr

def verbs : List Verb :=
  [.summary, .measure, .dependencies, .cycles, .quality, .naming, .exportDax]

def Verb.word : Verb → String
  | summary => "summary"
  | measure => "measure"
  | dependencies => "dependencies"
  | cycles => "cycles"
  | quality => "quality"
  | naming => "naming"
  | exportDax => "export-dax"

/-- The greatest number of operands. -/
def Verb.operandLimit : Verb → Nat
  | measure | dependencies | exportDax => 2
  | summary | cycles | quality | naming => 1

/-- The project and the request that a command with its operands stands for. -/
def Verb.request? : Verb → List String → Option (String × Request)
  | summary, [p] => some (p, .summary)
  | measure, [p, name] => some (p, .measure name)
  | dependencies, [p] => some (p, .dependencies none)
  | dependencies, [p, name] => some (p, .dependencies (some name))
  | cycles, [p] => some (p, .cycles)
  | quality, [p] => some (p, .quality)
  | naming, [p] => some (p, .naming)
  | exportDax, [p, table] => some (p, .script table)
  | _, _ => none

/-- Options with a value. -/
inductive Key where
  | format
  | config
  deriving DecidableEq, Repr

/-- The options on one side of the command. -/
structure Options where
  verbose : Bool := false
  format : Option String := none
  config : Option String := none
  deriving DecidableEq, Repr

namespace Options

/-- Sets an option that has no value yet. The path of a configuration is not empty. -/
def set (o : Options) (key : Key) (value : String) : Except Interruption Options :=
  match key with
  | .format =>
    if o.format.isSome then .error (.misuse "the format is given twice")
    else .ok { o with format := some value }
  | .config =>
    if o.config.isSome then .error (.misuse "the configuration is given twice")
    else if value.isEmpty then .error (.misuse "the path of the configuration is empty")
    else .ok { o with config := some value }

def setVerbose (o : Options) : Except Interruption Options :=
  if o.verbose then .error (.misuse "verbosity is asked for twice")
  else .ok { o with verbose := true }

/-- The options of both sides; those behind the command come first. -/
def override (before behind : Options) : Options :=
  { verbose := before.verbose || behind.verbose
    format := behind.format.or before.format
    config := behind.config.or before.config }

end Options

/-- Reads the letters behind a single dash. A letter with a value takes the rest of the argument, or
else the next argument. -/
def readLetters (global : Bool) (o : Options) :
    List Char → Except Interruption (Options × Option Key)
  | [] => .ok (o, none)
  | c :: rest =>
    let valued (key : Key) : Except Interruption (Options × Option Key) :=
      match rest with
      | [] => .ok (o, some key)
      | '=' :: value => (o.set key (String.ofList value)).map (·, none)
      | value => (o.set key (String.ofList value)).map (·, none)
    if c = 'v' then
      match o.setVerbose with
      | .ok o => readLetters global o rest
      | .error e => .error e
    else if c = 'f' then valued .format
    else if c = 'c' then valued .config
    else if c = 'h' then .error .help
    else if c = 'V' ∧ global then .error .version
    else .error (.misuse "there is no such option")

/-- Reads what stands behind two dashes: a word, with a value behind an equals sign or in the next
argument. -/
def readWord (global : Bool) (o : Options) (text : List Char) :
    Except Interruption (Options × Option Key) :=
  let parts : List Char × Option (List Char) :=
    match splitAtFirst '=' text with
    | some (word, value) => (word, some value)
    | none => (text, none)
  let valued (key : Key) : Except Interruption (Options × Option Key) :=
    match parts.2 with
    | some value => (o.set key (String.ofList value)).map (·, none)
    | none => .ok (o, some key)
  match String.ofList parts.1, parts.2 with
  | "format", _ => valued .format
  | "config", _ => valued .config
  | "verbose", none => o.setVerbose.map (·, none)
  | "help", none => .error .help
  | "version", none =>
    if global then .error .version else .error (.misuse "there is no such option")
  | _, _ => .error (.misuse "there is no such option")

/-- The argument is an option; a single dash by itself is none. -/
def isOption (arg : String) : Bool :=
  match arg.toList with
  | '-' :: _ :: _ => true
  | _ => false

def readOption (global : Bool) (o : Options) (arg : String) :
    Except Interruption (Options × Option Key) :=
  match arg.toList with
  | '-' :: '-' :: word => readWord global o word
  | _ :: letters => readLetters global o letters
  | [] => .ok (o, none)

/-- Reads the arguments behind a command. All that follow two dashes are operands. -/
def readOperands (verb : Verb) (o : Options) (pending : Option Key) (literal : Bool)
    (operands : List String) : List String → Except Interruption (Options × List String)
  | [] =>
    if pending.isSome then .error (.misuse "an option has no value") else .ok (o, operands)
  | arg :: rest =>
    match pending with
    | some key =>
      if isOption arg then .error (.misuse "an option has no value")
      else
        match o.set key arg with
        | .ok o => readOperands verb o none literal operands rest
        | .error e => .error e
    | none =>
      if literal ∨ !isOption arg then
        if operands.length < verb.operandLimit then
          readOperands verb o none literal (operands ++ [arg]) rest
        else .error (.misuse "there are too many operands")
      else if arg = "--" then readOperands verb o none true operands rest
      else
        match readOption false o arg with
        | .ok (o, pending) => readOperands verb o pending literal operands rest
        | .error e => .error e

def readCommand (before : Options) (verb : Verb) (args : List String) :
    Except Interruption Invocation :=
  match readOperands verb {} none false [] args with
  | .error e => .error e
  | .ok (behind, operands) =>
    let o := before.override behind
    match verb.request? operands with
    | some (project, request) =>
      .ok { request, project, format := o.format.getD "text", config := o.config,
            verbose := o.verbose }
    | none => .error (.misuse "there are too few operands")

def readHelp : List String → Interruption
  | [] => .help
  | [topic] =>
    if topic = "help" ∨ (verbs.map (·.word)).contains topic then .help
    else .misuse "there is no such command"
  | _ => .misuse "there is no such command"

def readFrom (o : Options) (pending : Option Key) :
    List String → Except Interruption Invocation
  | [] =>
    if pending.isSome then .error (.misuse "an option has no value")
    else .error (.misuse "there is no command")
  | arg :: rest =>
    match pending with
    | some key =>
      if isOption arg then .error (.misuse "an option has no value")
      else
        match o.set key arg with
        | .ok o => readFrom o none rest
        | .error e => .error e
    | none =>
      match verbs.find? (·.word == arg) with
      | some verb => readCommand o verb rest
      | none =>
        if arg = "help" then .error (readHelp rest)
        else if isOption arg then
          match readOption true o arg with
          | .ok (o, pending) => readFrom o pending rest
          | .error e => .error e
        else .error (.misuse "there is no such command")

def read (args : List String) : Except Interruption Invocation := readFrom {} none args

end Arguments

end Tabular
