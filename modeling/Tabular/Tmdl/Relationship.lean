import Tabular.Text.Lines
import Tabular.Tmdl.Property

/-!
# Reading relationships

A relationships file is a list of records, each opened by a line `relationship` with or without a
name and filled by the property lines after it. A record is kept when both of its ends are known.
-/

namespace Tabular

open Text Tmdl

/-- The first part of a column reference and what follows the point after it: a quoted name that is
not empty, or a run without points, blanks and quotes. -/
def referencedTable? : List Char → Option (List Char × List Char)
  | '\'' :: r =>
    match readQuoted r with
    | some (name, '.' :: rest) => if name.isEmpty then none else some (name, rest)
    | _ => none
  | s =>
    let stops (c : Char) := c == '.' || c == '\'' || isBlank c
    match s.takeWhile (!stops ·), s.dropWhile (!stops ·) with
    | [], _ => none
    | name, '.' :: rest => some (name, rest)
    | _, _ => none

/-- Whether the text is one quoted name that is not empty. -/
def isQuotedName : List Char → Bool
  | '\'' :: r =>
    match readQuoted r with
    | some (name, []) => !name.isEmpty
    | _ => false
  | _ => false

/-- Whether the text after the point can name a column: it is a quoted name, or stands on one line. -/
def isColumnPart (s : List Char) : Bool :=
  isQuotedName s || (!s.isEmpty && !s.contains '\n')

/-- Reads `Table.Column`, either of which may be quoted; neither may be empty. -/
def splitColumnReference (s : List Char) : Option (List Char × List Char) :=
  match referencedTable? (trim s) with
  | some (table, rest) =>
    let column := unquoteName rest
    if isColumnPart rest && !column.isEmpty then some (table, column) else none
  | none => none

namespace Relationship

/-- Sets a property of a relationship. A reference that cannot be read leaves the end as it is, and
only the very word `false` makes the relationship inactive. -/
def setProperty (r : Relationship) (key value : String) : Relationship :=
  match key with
  | "fromColumn" =>
    match splitColumnReference value.toList with
    | some (t, c) => { r with fromTable := String.ofList t, fromColumn := String.ofList c }
    | none => r
  | "toColumn" =>
    match splitColumnReference value.toList with
    | some (t, c) => { r with toTable := String.ofList t, toColumn := String.ofList c }
    | none => r
  | "fromCardinality" => { r with fromCardinality := Cardinality.ofText value.toList }
  | "toCardinality" => { r with toCardinality := Cardinality.ofText value.toList }
  | "isActive" => if String.ofList (trim value.toList) = "false" then { r with isActive := false } else r
  | "crossFilteringBehavior" => { r with crossFilteringBehavior := some (valueText value) }
  | "securityFilteringBehavior" => { r with securityFilteringBehavior := some (valueText value) }
  | "lineageTag" => { r with lineageTag := some (valueText value) }
  | _ => r

end Relationship

namespace Tmdl

/-- The relationships read so far, with the one that is open. -/
structure RelationshipReader where
  closed : List Relationship := []
  current : Option Relationship := none
  deriving DecidableEq, Repr

namespace RelationshipReader

/-- All relationships with both ends, the open one last. -/
def finish (r : RelationshipReader) : List Relationship :=
  r.closed ++ r.current.toList.filter (·.hasEndpoints)

def openRecord (r : RelationshipReader) (record : Relationship) : RelationshipReader :=
  ⟨r.finish, some record⟩

def feed (r : RelationshipReader) (line : LineKind) : RelationshipReader :=
  match line with
  | .declaration .relationship name _ => r.openRecord { name := some name }
  | .flag "relationship" => r.openRecord {}
  | .property key value => { r with current := r.current.map (·.setProperty key value) }
  | _ => r

end RelationshipReader

def parseRelationships (text : List Char) : List Relationship :=
  ((Text.lines text).foldl (fun r raw => r.feed (Line.ofRaw raw).kind)
    ({} : RelationshipReader)).finish

end Tmdl

end Tabular
