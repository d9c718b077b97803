import Tabular.Text.Letter
import Tabular.Text.Quoted
import Tabular.Text.Search
import Tabular.Text.Ascii

/-!
# Lines of a model definition

Every line of a definition file stands for itself: it opens a record, sets a property or a flag of
one, documents the next one, or is none of these. Its depth counts the indentation before it.
-/

namespace Tabular.Tmdl

open Text

/-- The records that a declaration can open. -/
inductive Keyword where
  | model
  | table
  | measure
  | column
  | hierarchy
  | level
  | variation
  | note
  | relationship
  deriving DecidableEq, Repr

def Keyword.word : Keyword → String
  | model => "model"
  | table => "table"
  | measure => "measure"
  | column => "column"
  | hierarchy => "hierarchy"
  | level => "level"
  | variation => "variation"
  | note => "annotation"
  | relationship => "relationship"

def Keyword.ofWord (w : String) : Option Keyword :=
  [model, table, measure, column, hierarchy, level, variation, note, relationship].find?
    (·.word == w)

/-- Words that open a block of which nothing is read. -/
def unreadBlocks : List String := [
  "partition", "calculationGroup", "calculationItem", "perspective", "perspectiveTable", "role",
  "tablePermission", "culture", "linguisticMetadata", "expression", "formatStringDefinition",
  "detailRowsDefinition", "extendedProperty", "changedProperty", "alternateOf", "refreshPolicy",
  "queryGroup", "dataAccessOptions"]

/-- What a line says. -/
inductive LineKind where
  | blank
  /-- A documentation line for the record that follows. -/
  | doc (text : String)
  /-- `keyword name` or `keyword name = value`. -/
  | declaration (keyword : Keyword) (name : String) (value : Option String)
  /-- The head of a block of which nothing is read. -/
  | unread (keyword : String)
  /-- `key: value`. -/
  | property (key value : String)
  /-- A lone identifier. -/
  | flag (name : String)
  | other
  deriving DecidableEq, Repr

/-- A line with its depth of indentation. -/
structure Line where
  raw : List Char
  depth : Nat
  kind : LineKind
  deriving DecidableEq, Repr

/-- The units of indentation at the start of a text, `spaces` spaces having been seen since the last
whole unit. A tab is a unit and so are four spaces; a tab discards the spaces before it. -/
def indentFrom (spaces : Nat) : List Char → Nat
  | '\t' :: cs => indentFrom 0 cs + 1
  | ' ' :: cs => if spaces = 3 then indentFrom 0 cs + 1 else indentFrom (spaces + 1) cs
  | _ => 0

def indentDepth (s : List Char) : Nat := indentFrom 0 s

/-- Splits what follows a keyword into the name and the value after `=`. -/
def splitDeclaration (s : List Char) : List Char × Option (List Char) :=
  let bare (t : List Char) :=
    match splitAtFirst '=' t with
    | some (name, value) => (trim name, some (trim value))
    | none => (t, none)
  match trim s with
  | '\'' :: r =>
    match readQuoted r with
    | some (name, rest) =>
      match trimStart rest with
      | '=' :: value => (name, some (trim value))
      | _ => (name, none)
    | none => bare ('\'' :: r)
  | t => bare t

/-- Splits `key: value`, if what stands before the first colon is an identifier. -/
def splitProperty (s : List Char) : Option (List Char × List Char) :=
  match splitAtFirst ':' s with
  | some (key, value) =>
    if isIdentifier (trimEnd key) then some (trimEnd key, trim value) else none
  | none => none

/-- What the text after a keyword-like word has to be for the word to open a record: something that
does not make the line a property. -/
def isOperand (s : List Char) : Bool := !s.isEmpty && s.head? != some ':'

/-- Reads a trimmed line that no keyword opens. -/
def LineKind.ofPlain (s : List Char) : LineKind :=
  match splitProperty s with
  | some (key, value) => .property (String.ofList key) (String.ofList value)
  | none => if isIdentifier s then .flag (String.ofList s) else .other

def LineKind.ofTrimmed (s : List Char) : LineKind :=
  match s with
  | [] => .blank
  | '/' :: '/' :: '/' :: text => .doc (String.ofList (trim text))
  | _ =>
    let head := String.ofList (s.takeWhile (!isBlank ·))
    let rest := trimStart (s.dropWhile (!isBlank ·))
    match Keyword.ofWord head, isOperand rest with
    | some keyword, true =>
      let d := splitDeclaration rest
      .declaration keyword (String.ofList d.1) (d.2.map String.ofList)
    | _, _ =>
      if unreadBlocks.contains head && rest.head? != some ':' then .unread head
      else .ofPlain s

def Line.ofRaw (raw : List Char) : Line :=
  ⟨raw, indentDepth raw, .ofTrimmed (trim raw)⟩

def Line.isBlank (l : Line) : Bool := l.kind == .blank

/-- The value of a flag: a bare flag is set, and `true` and `false` are read without regard to ASCII
case. -/
def readFlag (s : List Char) : Option Bool :=
  match String.ofList ((trim s).map asciiLower) with
  | "" | "true" => some true
  | "false" => some false
  | _ => none

theorem Keyword.ofWord_word (k : Keyword) : Keyword.ofWord k.word = some k := by
  cases k <;> decide

end Tabular.Tmdl
