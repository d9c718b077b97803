import Tabular.Config.Node

/-!
# Tables of a TOML document under construction

A table comes about by a header, by a header for something inside it, or by a key with dots. Each
kind limits what may be added later: nothing is defined twice, and a value in braces is complete.
-/

namespace Tabular.Toml

/-- How a table came about. -/
inductive Origin where
  /-- It has a header of its own. -/
  | header
  /-- It lies on the way to a table with a header. -/
  | passage
  /-- It lies on the way to a value with dots in its key. -/
  | dotted
  deriving DecidableEq, Repr

/-- What stands under a key. -/
inductive Item where
  /-- A value that is complete. -/
  | value (v : Node)
  | table (origin : Origin) (members : List (String × Item))
  /-- Tables with equal headers: those before the last, and the last. -/
  | tables (before : List (List (String × Item))) (last : List (String × Item))
  deriving Repr

abbrev Members := List (String × Item)

namespace Members

def replace (ms : Members) (key : String) (item : Item) : Members :=
  ms.map fun m => if m.1 = key then (key, item) else m

/-- Goes down a path and changes the table at its end. Tables that are missing on the way are made
with the given origin; a key with dots enters no table that has a header. -/
def descend (made : Origin) (change : Origin → Members → Option Members) (origin : Origin)
    (ms : Members) : List String → Option Members
  | [] => change origin ms
  | key :: path =>
    match ms.lookup key with
    | none => (descend made change made [] path).map fun t => ms ++ [(key, .table made t)]
    | some (.value _) => none
    | some (.tables before last) =>
      (descend made change .header last path).map fun t => ms.replace key (.tables before t)
    | some (.table o members) =>
      if made = .dotted ∧ o = .header then none
      else (descend made change o members path).map fun t => ms.replace key (.table o t)

/-- Adds a value under a key with dots. The last table on the way was made by such a key. -/
def addValue (path : List String) (key : String) (v : Node) (ms : Members) : Option Members :=
  let change (origin : Origin) (ms : Members) : Option Members :=
    if path ≠ [] ∧ origin ≠ .dotted then none
    else if (ms.lookup key).isSome then none
    else some (ms ++ [(key, .value v)])
  descend .dotted change .header ms path

/-- Adds a table with a header. It may have been on the way to another one. -/
def openTable (path : List String) (key : String) (ms : Members) : Option Members :=
  let change (_ : Origin) (ms : Members) : Option Members :=
    match ms.lookup key with
    | none => some (ms ++ [(key, .table .header [])])
    | some (.table .passage members) => some (ms.replace key (.table .header members))
    | some _ => none
  descend .passage change .header ms path

def openNext (path : List String) (key : String) (ms : Members) : Option Members :=
  let change (_ : Origin) (ms : Members) : Option Members :=
    match ms.lookup key with
    | none => some (ms ++ [(key, .tables [] [])])
    | some (.tables before last) => some (ms.replace key (.tables (before ++ [last]) []))
    | some _ => none
  descend .passage change .header ms path

def addUnder (header path : List String) (key : String) (v : Node) (ms : Members) :
    Option Members :=
  descend .passage (fun _ t => t.addValue path key v) .header ms header

mutual

def itemNode : Item → Node
  | .value v => v
  | .table _ ms => .group (memberNodes ms)
  | .tables before last => .list (tableNodes before ++ [.group (memberNodes last)])

def memberNodes : List (String × Item) → List (String × Node)
  | [] => []
  | (key, item) :: ms => (key, itemNode item) :: memberNodes ms

def tableNodes : List (List (String × Item)) → List Node
  | [] => []
  | ms :: rest => .group (memberNodes ms) :: tableNodes rest

end

end Members

end Tabular.Toml
