import Tabular.Model.Basic
import Tabular.Text.Integer
import Tabular.Tmdl.Line

/-!
# Properties of the records

Each kind of record knows some keys. A property with another key leaves the record as it is, and so
does a flag whose value is neither true nor false.
-/

namespace Tabular

open Text Tmdl

def valueText (value : String) : String := String.ofList (unquoteValue value.toList)

def valueName (value : String) : String := String.ofList (unquoteName value.toList)

def valueFlag (old : Bool) (value : String) : Bool := (readFlag value.toList).getD old

def Table.setProperty (t : Table) (key value : String) : Table :=
  match key with
  | "lineageTag" => { t with lineageTag := some (valueText value) }
  | "isHidden" => { t with isHidden := valueFlag t.isHidden value }
  | "description" => { t with description := some (valueText value) }
  | _ => t

def Measure.setProperty (m : Measure) (key value : String) : Measure :=
  match key with
  | "formatString" => { m with formatString := some (valueText value) }
  | "displayFolder" => { m with displayFolder := some (valueText value) }
  | "description" => { m with description := some (valueText value) }
  | "isHidden" => { m with isHidden := valueFlag m.isHidden value }
  | "dataCategory" => { m with dataCategory := some (valueText value) }
  | "lineageTag" => { m with lineageTag := some (valueText value) }
  | _ => m

def Column.setProperty (c : Column) (key value : String) : Column :=
  match key with
  | "dataType" => { c with dataType := valueText value }
  | "sourceColumn" => { c with sourceColumn := some (valueText value) }
  | "isHidden" => { c with isHidden := valueFlag c.isHidden value }
  | "formatString" => { c with formatString := some (valueText value) }
  | "dataCategory" => { c with dataCategory := some (valueText value) }
  | "summarizeBy" => { c with summarizeBy := some (valueText value) }
  | "sortByColumn" => { c with sortByColumn := some (valueName value) }
  | "displayFolder" => { c with displayFolder := some (valueText value) }
  | "lineageTag" => { c with lineageTag := some (valueText value) }
  | "description" => { c with description := some (valueText value) }
  | _ => c

def Variation.setProperty (v : Variation) (key value : String) : Variation :=
  match key with
  | "isDefault" => { v with isDefault := valueFlag v.isDefault value }
  | "relationship" => { v with relationship := some (valueText value) }
  | "defaultHierarchy" => { v with defaultHierarchy := some (String.ofList (trim value.toList)) }
  | _ => v

def Hierarchy.setProperty (h : Hierarchy) (key value : String) : Hierarchy :=
  match key with
  | "lineageTag" => { h with lineageTag := some (valueText value) }
  | "isHidden" => { h with isHidden := valueFlag h.isHidden value }
  | "displayFolder" => { h with displayFolder := some (valueText value) }
  | _ => h

def Level.setProperty (l : Level) (key value : String) : Level :=
  match key with
  | "lineageTag" => { l with lineageTag := some (valueText value) }
  | "column" => { l with column := some (valueName value) }
  | "ordinal" => { l with ordinal := readInt32? (trim value.toList) }
  | _ => l

/-- Keys that go to the variation of a column however deep they stand. -/
def isVariationKey (key : String) : Bool :=
  ["isDefault", "relationship", "defaultHierarchy"].contains key

/-- Keys that go to the level of a hierarchy however deep they stand. -/
def isLevelKey (key : String) : Bool := ["column", "ordinal"].contains key

end Tabular
