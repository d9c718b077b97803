import Mathlib.Tactic.MkIffOfInductiveProp
import Tabular.Proofs.Text.Integer
import Tabular.Proofs.Text.Lines
import Tabular.Proofs.Text.Quoted
import Tabular.Tmdl.Table

/-!
# Writing a table

A table is written row by row: its documentation and declaration, its own properties one level
deeper, then its measures, columns and hierarchies in any order that keeps those of one kind in
theirs, and its annotations last. A layout chooses that order, the unit of indentation and the form
of every expression; the rest is settled by the table.
-/

namespace Tabular.Tmdl

open Text

inductive Indent where
  | tab
  | spaces
  deriving DecidableEq, Repr

namespace Indent

def unit : Indent → List Char
  | tab => ['\t']
  | spaces => [' ', ' ', ' ', ' ']

def times (i : Indent) : Nat → List Char
  | 0 => []
  | n + 1 => i.unit ++ i.times n

end Indent

/-- A line to be written at some depth. -/
structure Row where
  depth : Nat
  text : List Char
  deriving DecidableEq, Repr

/-- The line that a row becomes; nothing stands on an empty one. -/
def Row.write (i : Indent) (r : Row) : List Char :=
  if r.text = [] then [] else i.times r.depth ++ r.text

def spaced (s : List Char) : List Char := if s = [] then [] else ' ' :: s

def textLines (s : String) : List (List Char) := splitOn (· == '\n') s.toList

def assigned : Option (List Char) → List Char
  | none => []
  | some v => ' ' :: '=' :: spaced v

def declaration (keyword : Keyword) (name : String) (value : Option (List Char)) : List Char :=
  keyword.word.toList ++ ' ' :: (quoteName name.toList ++ assigned value)

def docRow (depth : Nat) (l : List Char) : Row := ⟨depth, '/' :: '/' :: '/' :: spaced l⟩

/-- The documentation before the declaration of a record. -/
def docRows (depth : Nat) : Option String → List Row
  | none => []
  | some s => (textLines s).map (docRow depth)

def annotationRow (depth : Nat) (a : Annotation) : Row :=
  ⟨depth, declaration .note a.name (some (quoteValue a.value.toList))⟩

def annotationRows (depth : Nat) (annotations : List Annotation) : List Row :=
  annotations.map (annotationRow depth)

/-- The keys of the properties that a record is written with. -/
inductive Key where
  | lineageTag
  | isHidden
  | formatString
  | displayFolder
  | dataCategory
  | dataType
  | sourceColumn
  | summarizeBy
  | sortByColumn
  | isDefault
  | relationship
  | defaultHierarchy
  | column
  | ordinal
  deriving DecidableEq, Repr

def Key.word : Key → String
  | lineageTag => "lineageTag"
  | isHidden => "isHidden"
  | formatString => "formatString"
  | displayFolder => "displayFolder"
  | dataCategory => "dataCategory"
  | dataType => "dataType"
  | sourceColumn => "sourceColumn"
  | summarizeBy => "summarizeBy"
  | sortByColumn => "sortByColumn"
  | isDefault => "isDefault"
  | relationship => "relationship"
  | defaultHierarchy => "defaultHierarchy"
  | column => "column"
  | ordinal => "ordinal"

/-- A property or a flag of a record. It is left out when it is absent or not set. -/
inductive Setting where
  | flag (key : Key) (isSet : Bool)
  /-- A value in double quotes. -/
  | text (key : Key) (value : Option String)
  /-- A name in single quotes. -/
  | name (key : Key) (value : Option String)
  /-- A value without quotes. -/
  | bare (key : Key) (value : Option String)
  | number (key : Key) (value : Option Int32)
  deriving DecidableEq, Repr

namespace Setting

def key : Setting → Key
  | flag k _ | text k _ | name k _ | bare k _ | number k _ => k

/-- What is written for the value, which is nothing at all for a flag. -/
def value? : Setting → Option (List Char)
  | flag _ isSet => if isSet then some [] else none
  | text _ v => v.map fun s => quoteValue s.toList
  | name _ v => v.map fun s => quoteName s.toList
  | bare _ v => v.map String.toList
  | number _ v => v.map fun n => decimal n.toInt

def line (s : Setting) (value : List Char) : List Char :=
  match s with
  | flag k _ => k.word.toList
  | _ => s.key.word.toList ++ ':' :: spaced value

def rows (depth : Nat) (s : Setting) : List Row :=
  (s.value?.map fun v => (⟨depth, s.line v⟩ : Row)).toList

end Setting

def OneLine (s : String) : Prop := '\n' ∉ s.toList

instance (s : String) : Decidable (OneLine s) := inferInstanceAs (Decidable (¬ _))

/-- The texts of the setting stand on one line, and without blanks at the ends where no quotes keep
them. -/
def Setting.IsPlain : Setting → Prop
  | flag _ _ | number _ _ => True
  | text _ v | name _ v => ∀ s ∈ v, OneLine s
  | bare _ v => ∀ s ∈ v, OneLine s ∧ trim s.toList = s.toList

instance : (s : Setting) → Decidable s.IsPlain
  | .flag _ _ | .number _ _ => inferInstanceAs (Decidable True)
  | .text _ _ | .name _ _ | .bare _ _ => inferInstanceAs (Decidable (∀ s ∈ _, _))

/-- No line of the documentation has blanks at its ends. -/
def IsDoc (s : String) : Prop := ∀ l ∈ textLines s, trim l = l

instance (s : String) : Decidable (IsDoc s) := inferInstanceAs (Decidable (∀ l ∈ _, _))

/-- The expression has no blanks at its ends, and none of its lines is of blanks only or ends in a
carriage return. -/
def IsCode (e : String) : Prop :=
  trim e.toList = e.toList ∧
    ∀ l ∈ textLines e, (isBlankText l = true → l = []) ∧ l.getLast? ≠ some '\r'

instance (e : String) : Decidable (IsCode e) := inferInstanceAs (Decidable (_ ∧ _))

inductive ExpressionForm where
  /-- On the line of the declaration. -/
  | inline
  /-- On the line of the declaration between two fences. -/
  | inlineFenced
  /-- On lines at one depth before a closing fence at another. -/
  | fenced (depth fenceDepth : Nat)
  /-- On lines deeper than the declaration by two levels and some more. -/
  | below (more : Nat)
  deriving DecidableEq, Repr

namespace ExpressionForm

/-- What is written after the equals sign. -/
def value (e : String) : ExpressionForm → List Char
  | inline => e.toList
  | inlineFenced => fence ++ e.toList ++ fence
  | fenced _ _ => fence
  | below _ => []

/-- What follows a declaration at `depth`. -/
def body (depth : Nat) (e : String) : ExpressionForm → List Row
  | inline | inlineFenced => []
  | fenced n k => (textLines e).map (⟨n, ·⟩) ++ [⟨k, fence⟩]
  | below n => (textLines e).map (⟨depth + 2 + n, ·⟩)

def Admits (e : String) : ExpressionForm → Prop
  | inline => e ≠ "" ∧ '\n' ∉ e.toList ∧ ¬ fence <+: e.toList
  | inlineFenced => '\n' ∉ e.toList
  | fenced _ _ => ∀ l ∈ textLines e, trim l ≠ fence
  | below _ => True

instance (e : String) : (f : ExpressionForm) → Decidable (f.Admits e)
  | inline => inferInstanceAs (Decidable (_ ∧ _))
  | inlineFenced => inferInstanceAs (Decidable (¬ _))
  | fenced _ _ => inferInstanceAs (Decidable (∀ l ∈ _, _))
  | below _ => inferInstanceAs (Decidable True)

end ExpressionForm

def expressionRows (depth : Nat) (keyword : Keyword) (name : String) (form : ExpressionForm) :
    Option String → List Row
  | none => [⟨depth, declaration keyword name none⟩]
  | some e => ⟨depth, declaration keyword name (some (form.value e))⟩ :: form.body depth e

end Tabular.Tmdl

namespace Tabular

open Tmdl

def Table.settings (t : Table) : List Setting :=
  [.text .lineageTag t.lineageTag, .flag .isHidden t.isHidden]

def Measure.settings (m : Measure) : List Setting :=
  [.text .formatString m.formatString, .text .displayFolder m.displayFolder,
    .flag .isHidden m.isHidden, .text .dataCategory m.dataCategory,
    .text .lineageTag m.lineageTag]

def Column.settings (c : Column) : List Setting :=
  [.text .dataType (some c.dataType), .text .sourceColumn c.sourceColumn,
    .flag .isHidden c.isHidden, .text .formatString c.formatString,
    .text .dataCategory c.dataCategory, .text .summarizeBy c.summarizeBy,
    .name .sortByColumn c.sortByColumn, .text .displayFolder c.displayFolder,
    .text .lineageTag c.lineageTag]

def Variation.settings (v : Variation) : List Setting :=
  [.flag .isDefault v.isDefault, .text .relationship v.relationship,
    .bare .defaultHierarchy v.defaultHierarchy]

def Hierarchy.settings (h : Hierarchy) : List Setting :=
  [.text .lineageTag h.lineageTag, .flag .isHidden h.isHidden,
    .text .displayFolder h.displayFolder]

def Level.settings (l : Level) : List Setting :=
  [.name .column l.column, .text .lineageTag l.lineageTag, .number .ordinal l.ordinal]

def Annotation.IsPlain (a : Annotation) : Prop := OneLine a.name ∧ OneLine a.value

instance (a : Annotation) : Decidable a.IsPlain := inferInstanceAs (Decidable (_ ∧ _))

/-- What the measure holds can be written and read back. -/
@[mk_iff]
structure Measure.IsPlain (m : Measure) : Prop where
  name : OneLine m.name
  description : ∀ s ∈ m.description, IsDoc s
  expression : IsCode m.expression
  settings : ∀ s ∈ m.settings, s.IsPlain
  annotations : ∀ a ∈ m.annotations, a.IsPlain

@[mk_iff]
structure Variation.IsPlain (v : Variation) : Prop where
  name : OneLine v.name
  settings : ∀ s ∈ v.settings, s.IsPlain

instance (v : Variation) : Decidable v.IsPlain := decidable_of_iff' _ (Variation.isPlain_iff v)

@[mk_iff]
structure Column.IsPlain (c : Column) : Prop where
  name : OneLine c.name
  description : ∀ s ∈ c.description, IsDoc s
  expression : ∀ e ∈ c.expression, IsCode e
  settings : ∀ s ∈ c.settings, s.IsPlain
  annotations : ∀ a ∈ c.annotations, a.IsPlain
  variation : ∀ v ∈ c.variation, v.IsPlain

@[mk_iff]
structure Level.IsPlain (l : Level) : Prop where
  name : OneLine l.name
  settings : ∀ s ∈ l.settings, s.IsPlain

instance (l : Level) : Decidable l.IsPlain := decidable_of_iff' _ (Level.isPlain_iff l)

@[mk_iff]
structure Hierarchy.IsPlain (h : Hierarchy) : Prop where
  name : OneLine h.name
  settings : ∀ s ∈ h.settings, s.IsPlain
  levels : ∀ l ∈ h.levels, l.IsPlain

instance (m : Measure) : Decidable m.IsPlain := decidable_of_iff' _ (Measure.isPlain_iff m)

instance (c : Column) : Decidable c.IsPlain := decidable_of_iff' _ (Column.isPlain_iff c)

instance (h : Hierarchy) : Decidable h.IsPlain := decidable_of_iff' _ (Hierarchy.isPlain_iff h)

@[mk_iff]
structure Table.IsPlain (t : Table) : Prop where
  name : OneLine t.name
  description : ∀ s ∈ t.description, IsDoc s
  settings : ∀ s ∈ t.settings, s.IsPlain
  measures : ∀ m ∈ t.measures, m.IsPlain
  columns : ∀ c ∈ t.columns, c.IsPlain
  hierarchies : ∀ h ∈ t.hierarchies, h.IsPlain
  annotations : ∀ a ∈ t.annotations, a.IsPlain

instance (t : Table) : Decidable t.IsPlain := decidable_of_iff' _ (Table.isPlain_iff t)

def Measure.rows (m : Measure) (form : ExpressionForm) : List Row :=
  docRows 1 m.description ++ expressionRows 1 .measure m.name form (some m.expression) ++
    m.settings.flatMap (·.rows 2) ++ annotationRows 2 m.annotations

def Variation.rows (v : Variation) : List Row :=
  ⟨2, declaration .variation v.name none⟩ :: v.settings.flatMap (·.rows 3)

/-- A column, with how its expression is written if it has one. -/
def Column.rows (c : Column) (form : ExpressionForm) : List Row :=
  docRows 1 c.description ++ expressionRows 1 .column c.name form c.expression ++
    c.settings.flatMap (·.rows 2) ++ annotationRows 2 c.annotations ++
    c.variation.toList.flatMap Variation.rows

def Level.rows (l : Level) : List Row :=
  ⟨2, declaration .level l.name none⟩ :: l.settings.flatMap (·.rows 3)

def Hierarchy.rows (h : Hierarchy) : List Row :=
  ⟨1, declaration .hierarchy h.name none⟩ :: h.settings.flatMap (·.rows 2) ++
    h.levels.flatMap Level.rows

end Tabular

namespace Tabular.Tmdl

open Text

inductive Block where
  | measure (record : Measure) (form : ExpressionForm)
  | column (record : Column) (form : ExpressionForm)
  | hierarchy (record : Hierarchy)
  deriving DecidableEq, Repr

namespace Block

def measure? : Block → Option Measure
  | measure m _ => some m
  | _ => none

def column? : Block → Option Column
  | column c _ => some c
  | _ => none

def hierarchy? : Block → Option Hierarchy
  | hierarchy h => some h
  | _ => none

def rows : Block → List Row
  | measure m f => m.rows f
  | column c f => c.rows f
  | hierarchy h => h.rows

def Admits : Block → Prop
  | measure m f => f.Admits m.expression
  | column c f => ∀ e ∈ c.expression, f.Admits e
  | hierarchy _ => True

instance : (b : Block) → Decidable b.Admits
  | measure m f => inferInstanceAs (Decidable (f.Admits m.expression))
  | column _ _ => inferInstanceAs (Decidable (∀ e ∈ _, _))
  | hierarchy _ => inferInstanceAs (Decidable True)

end Block

/-- A way to write a table. -/
structure Layout (t : Table) where
  indent : Indent
  blocks : List Block
  measures_eq : blocks.filterMap Block.measure? = t.measures
  columns_eq : blocks.filterMap Block.column? = t.columns
  hierarchies_eq : blocks.filterMap Block.hierarchy? = t.hierarchies
  admits : ∀ b ∈ blocks, b.Admits

namespace Layout

variable {t : Table}

def rows (l : Layout t) : List Row :=
  docRows 0 t.description ++ ⟨0, declaration .table t.name none⟩ ::
    (t.settings.flatMap (·.rows 1) ++ (l.blocks.flatMap Block.rows ++ annotationRows 1 t.annotations))

def render (l : Layout t) : List Char := unlines (l.rows.map (Row.write l.indent))

/-- Every table can be written: here kind by kind, with every expression below its declaration. -/
def plain (t : Table) : Layout t where
  indent := .tab
  blocks := t.measures.map (.measure · (.below 0)) ++ (t.columns.map (.column · (.below 0)) ++
    t.hierarchies.map .hierarchy)
  measures_eq := by
    simp [List.filterMap_map, Function.comp_def, Block.measure?]
  columns_eq := by
    simp [List.filterMap_map, Function.comp_def, Block.column?]
  hierarchies_eq := by
    simp [List.filterMap_map, Function.comp_def, Block.hierarchy?]
  admits := by
    intro b hb
    simp only [List.mem_append, List.mem_map] at hb
    rcases hb with ⟨m, -, rfl⟩ | ⟨c, -, rfl⟩ | ⟨h, -, rfl⟩
    · trivial
    · exact fun _ _ => trivial
    · trivial

instance : Inhabited (Layout t) := ⟨plain t⟩

example : (plain { name := "T", measures := [{ name := "A's", expression := "1" }] }).render =
    "table 'T'\n\tmeasure 'A''s' =\n\t\t\t1\n".toList := by
  decide +kernel

end Layout

end Tabular.Tmdl
