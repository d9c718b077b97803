import Tabular.Config.Settings

/-!
# Settings from a tree of values

Configuration files of every notation come down to a tree of scalars, lists and groups. A scalar
is seen through the readings it admits: as a text, as a count, as a number, or as no value. Settings
that are not there keep their defaults, and names that are no setting are passed over.
-/

namespace Tabular

/-- The readings of a scalar. -/
structure Scalar where
  text? : Option String := none
  count? : Option Nat := none
  number? : Option Float := none
  /-- An optional setting with this scalar has no value. -/
  isNull : Bool := false
  /-- The scalar stands for a list or group without members as well. -/
  isEmpty : Bool := false
  deriving Repr

/-- A value of a configuration file. -/
inductive Node where
  | scalar (s : Scalar)
  | list (items : List Node)
  | group (members : List (String × Node))
  deriving Repr

namespace Node

def toText? : Node → Option String
  | scalar s => s.text?
  | _ => none

def toNumber? : Node → Option Float
  | scalar s => s.number?
  | _ => none

/-- The value as a count up to a greatest one. -/
def toCount? (greatest : Nat) : Node → Option Nat
  | scalar s => s.count?.filter (· ≤ greatest)
  | _ => none

def toOptionalCount? (greatest : Nat) : Node → Option (Option Nat)
  | scalar s => if s.isNull then some none else ((scalar s).toCount? greatest).map some
  | _ => none

def toTexts? : Node → Option (List String)
  | scalar s => if s.isEmpty then some [] else none
  | list items => items.mapM toText?
  | group _ => none

/-- The members of a section that are settings. A setting is there once at most. If a notation
allows it, a list gives the settings in their order. -/
def toGroup? (positional : Bool) (names : List String) : Node → Option (List (String × Node))
  | scalar s => if s.isEmpty then some [] else none
  | list items => if positional then some (names.zip items) else none
  | group members =>
    let known := members.filter fun m => names.contains m.1
    if (known.map (·.1)).Nodup then some known else none

/-- Reads a setting if it is there. -/
def setting {α : Type} (members : List (String × Node)) (name : String) (read? : Node → Option α)
    (default : α) : Option α :=
  match members.lookup name with
  | some v => read? v
  | none => some default

end Node

/-- The greatest count of 32 bits. -/
def greatestCount32 : Nat := 0xFFFFFFFF

/-- The greatest count of 64 bits. -/
def greatestCount64 : Nat := 0xFFFFFFFFFFFFFFFF

def Layout.ofNode? (positional : Bool) (v : Node) : Option Layout := do
  let d : Layout := {}
  let ms ← v.toGroup? positional
    ["model_dir_suffix", "definition_dir", "tables_dir", "table_extension", "relationships_file",
      "model_file", "default_model_name"]
  let text (name default : String) : Option String := Node.setting ms name Node.toText? default
  return {
    modelDirSuffix := ← text "model_dir_suffix" d.modelDirSuffix
    definitionDir := ← text "definition_dir" d.definitionDir
    tablesDir := ← text "tables_dir" d.tablesDir
    tableExtension := ← text "table_extension" d.tableExtension
    relationshipsFile := ← text "relationships_file" d.relationshipsFile
    modelFile := ← text "model_file" d.modelFile
    defaultModelName := ← text "default_model_name" d.defaultModelName }

def Settings.capacityOfNode? (positional : Bool) (v : Node) : Option (Option Nat) := do
  let ms ← v.toGroup? positional ["capacity"]
  Node.setting ms "capacity" (Node.toOptionalCount? greatestCount64) none

def Limits.ofNode? (positional : Bool) (v : Node) : Option Limits := do
  let d : Limits := {}
  let ms ← v.toGroup? positional
    ["max_if_nesting", "moderate_threshold", "complex_threshold", "coverage_threshold",
      "allowed_abbreviations"]
  let count (name : String) (greatest default : Nat) : Option Nat :=
    Node.setting ms name (Node.toCount? greatest) default
  return {
    maxIfNesting := ← count "max_if_nesting" greatestCount64 d.maxIfNesting
    moderateThreshold := ← count "moderate_threshold" greatestCount32 d.moderateThreshold
    complexThreshold := ← count "complex_threshold" greatestCount32 d.complexThreshold
    coverageThreshold := ←
      Node.setting ms "coverage_threshold" Node.toNumber? d.coverageThreshold
    allowedAbbreviations := ←
      Node.setting ms "allowed_abbreviations" Node.toTexts? d.allowedAbbreviations }

def Settings.ofNode? (positional : Bool) (v : Node) : Option Settings := do
  let ms ← v.toGroup? positional ["loader", "cache", "analysis"]
  return {
    layout := ← Node.setting ms "loader" (Layout.ofNode? positional) {}
    cacheCapacity := ← Node.setting ms "cache" (Settings.capacityOfNode? positional) none
    limits := ← Node.setting ms "analysis" (Limits.ofNode? positional) {} }

end Tabular
