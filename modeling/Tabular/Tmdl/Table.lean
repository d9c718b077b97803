import Tabular.Tmdl.Expression
import Tabular.Tmdl.Fence
import Tabular.Tmdl.Property

/-!
# Reading a table

A table is read line by line. At any time at most one child of the table (a measure, a column or a
hierarchy) is open, and it joins the table when another child opens, when a line at its own depth
belongs to the table, or at the end. Lines of an expression and of an unread block are set aside
before anything is made of them.
-/

namespace Tabular.Tmdl

open Text

/-- The child that is being filled, with the depth of its declaration. A variation or a level that
is being filled keeps its own depth. -/
inductive Child where
  | measure (record : Measure) (depth : Nat)
  | column (record : Column) (depth : Nat) (variation : Option (Variation × Nat))
  | hierarchy (record : Hierarchy) (depth : Nat) (level : Option (Level × Nat))
  deriving DecidableEq, Repr

namespace Child

def depth : Child → Nat
  | measure _ d | column _ d _ | hierarchy _ d _ => d

/-- Gives the child its expression; a hierarchy has none. -/
def setExpression (expression : String) : Child → Child
  | measure m d => measure { m with expression := expression } d
  | column c d v => column { c with expression := some expression } d v
  | hierarchy h d l => hierarchy h d l

/-- Sets a property that stands at depth `here`: of the variation or level if it is deeper than that
or has a key of its own, else of the child. -/
def setProperty (here : Nat) (key value : String) : Child → Child
  | measure m d => measure (m.setProperty key value) d
  | column c d none => column (c.setProperty key value) d none
  | column c d (some (v, vd)) =>
    if vd < here || isVariationKey key then column c d (some (v.setProperty key value, vd))
    else column (c.setProperty key value) d (some (v, vd))
  | hierarchy h d none => hierarchy (h.setProperty key value) d none
  | hierarchy h d (some (l, ld)) =>
    if ld < here || isLevelKey key then hierarchy h d (some (l.setProperty key value, ld))
    else hierarchy (h.setProperty key value) d (some (l, ld))

/-- Adds an annotation; a hierarchy has none. -/
def annotate (a : Annotation) : Child → Child
  | measure m d => measure { m with annotations := m.annotations ++ [a] } d
  | column c d v => column { c with annotations := c.annotations ++ [a] } d v
  | hierarchy h d l => hierarchy h d l

/-- Opens a level of a hierarchy, closing the one before. -/
def openLevel (name : String) (here : Nat) : Child → Child
  | hierarchy h d l =>
    hierarchy { h with levels := h.levels ++ (l.map Prod.fst).toList } d
      (some ({ name := name }, here))
  | c => c

/-- Opens a variation of a column in place of the one before. -/
def openVariation (name : String) (here : Nat) : Child → Child
  | column c d _ => column c d (some ({ name := name }, here))
  | c => c

/-- The table with the child added as the last of its kind. -/
def close (t : Table) : Child → Table
  | measure m _ => { t with measures := t.measures ++ [m] }
  | column c _ v => { t with columns := t.columns ++ [{ c with variation := v.map Prod.fst }] }
  | hierarchy h _ l =>
    { t with hierarchies := t.hierarchies ++ [{ h with levels := h.levels ++ (l.map Prod.fst).toList }] }

end Child

/-- How the next line is taken. -/
inductive Mode where
  /-- The line is read for what it says. -/
  | scan
  /-- The line belongs to an expression that runs to the closing fence. -/
  | fenced (lines : List (List Char))
  /-- The line belongs to an expression if it is blank or at least this deep. -/
  | indented (minDepth : Nat) (lines : List (List Char))
  /-- The line is skipped if it is blank or deeper than this. -/
  | skip (depth : Nat)
  deriving DecidableEq, Repr

/-- A table that is being read, with the depth of its declaration and the documentation lines that
wait for a record. -/
structure Draft where
  table : Table
  depth : Nat
  child : Option Child := none
  mode : Mode := .scan
  docs : List String := []
  deriving DecidableEq, Repr

namespace Draft

def description (docs : List String) : Option String :=
  if docs.isEmpty then none else some ("\n".intercalate docs)

def flush (d : Draft) : Draft :=
  match d.child with
  | some c => { d with table := c.close d.table, child := none }
  | none => d

def setExpression (d : Draft) (lines : List (List Char)) : Draft :=
  { d with
    child := d.child.map (Child.setExpression (String.ofList (joinExpression lines)))
    mode := .scan }

/-- Opens a child whose declaration stands at `depth` and gives `value`. -/
def openChild (d : Draft) (child : Child) (depth : Nat) (value : Option String) : Draft :=
  let d := { d.flush with child := some child }
  match value.map Opening.ofValue with
  | none => d
  | some (.inline expression) => { d with child := some (child.setExpression expression) }
  | some .fenced => { d with mode := .fenced [] }
  | some .below => { d with mode := .indented (depth + 2) [] }

/-- Closes the open child if a line at `depth` is none of its own: such a line is not deeper than
the declaration of the child, which in turn is deeper than that of the table. -/
def settle (d : Draft) (depth : Nat) : Draft :=
  match d.child with
  | some c => if c.depth < depth || c.depth ≤ d.depth then d else d.flush
  | none => d

def setProperty (d : Draft) (depth : Nat) (key value : String) : Draft :=
  let d := d.settle depth
  match d.child with
  | some c => { d with child := some (c.setProperty depth key value) }
  | none => { d with table := d.table.setProperty key value }

def annotate (d : Draft) (depth : Nat) (a : Annotation) : Draft :=
  let d := d.settle depth
  match d.child with
  | some c => { d with child := some (c.annotate a) }
  | none => { d with table := { d.table with annotations := d.table.annotations ++ [a] } }

def declare (d : Draft) (depth : Nat) (name : String) (value : Option String) : Keyword → Draft
  | .measure =>
    d.openChild (.measure { name := name, description := description d.docs } depth) depth value
  | .column =>
    d.openChild (.column { name := name, description := description d.docs } depth none) depth value
  | .hierarchy => d.openChild (.hierarchy { name := name } depth none) depth none
  | .level => { d with child := d.child.map (Child.openLevel name depth) }
  | .variation => { d with child := d.child.map (Child.openVariation name depth) }
  | .note => d.annotate depth ⟨name, (value.map valueText).getD ""⟩
  | .model | .table | .relationship => d

/-- Passes over a block at `depth`, which closes the open child unless it is nested in it. -/
def skipBlock (d : Draft) (depth : Nat) : Draft :=
  let d := if d.child.any (·.depth < depth) then d else d.flush
  { d with mode := .skip depth }

def scan (d : Draft) (line : Line) : Draft :=
  match line.kind with
  | .blank => d
  | .doc text => { d with docs := d.docs ++ [text] }
  | .declaration keyword name value =>
    { d.declare line.depth name value keyword with docs := [] }
  | .unread _ => { d.skipBlock line.depth with docs := [] }
  | .property key value => { d.setProperty line.depth key value with docs := [] }
  | .flag name => { d.setProperty line.depth name "" with docs := [] }
  | .other => { d with docs := [] }

def feed (d : Draft) (line : Line) : Draft :=
  match d.mode with
  | .scan => d.scan line
  | .fenced lines =>
    if trim line.raw = fence then d.setExpression lines
    else { d with mode := .fenced (lines ++ [line.raw]) }
  | .indented minDepth lines =>
    if line.isBlank || minDepth ≤ line.depth then
      { d with mode := .indented minDepth (lines ++ [line.raw]) }
    else (d.setExpression lines).scan line
  | .skip depth =>
    if line.isBlank || depth < line.depth then d
    else { d with mode := .scan }.scan line

/-- The table once no line is left. -/
def finish (d : Draft) : Table :=
  match d.mode with
  | .fenced lines | .indented _ lines => (d.setExpression lines).flush.table
  | .scan | .skip _ => d.flush.table

end Draft

/-- The state of reading a definition file: before its table is declared only documentation and
blocks to be skipped matter. -/
inductive Reader where
  | before (docs : List String) (skipping : Option Nat)
  | inside (draft : Draft)
  deriving DecidableEq, Repr

namespace Reader

def start : Reader := before [] none

def scanBefore (docs : List String) (line : Line) : Reader :=
  match line.kind with
  | .blank => before docs none
  | .doc text => before (docs ++ [text]) none
  | .declaration .table name _ =>
    inside { table := { name := name, description := Draft.description docs }, depth := line.depth }
  | .unread _ => before [] (some line.depth)
  | .declaration _ _ _ | .property _ _ | .flag _ | .other => before [] none

def feed (r : Reader) (line : Line) : Reader :=
  match r with
  | inside d => inside (d.feed line)
  | before docs none => scanBefore docs line
  | before docs (some depth) =>
    if line.isBlank || depth < line.depth then r else scanBefore docs line

/-- The table once no line is left, if there was one. -/
def finish : Reader → Option Table
  | inside d => some d.finish
  | before _ _ => none

end Reader

def readTable (lines : List (List Char)) : Option Table :=
  (lines.foldl (fun r raw => r.feed (.ofRaw raw)) Reader.start).finish

def parseTable (text : List Char) : Option Table := readTable (Text.lines text)

end Tabular.Tmdl
