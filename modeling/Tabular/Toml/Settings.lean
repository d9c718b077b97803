import Tabular.Config.Settings
import Tabular.Decimal.Text
import Tabular.Text.Search
import Tabular.Toml.Quoted

/-!
# Settings as a TOML document

Each group of settings is a table. A text stands in double quotes, unless it holds a double quote or
a backslash and single quotes spare the escapes. A list of several texts has one line for each.
-/

namespace Tabular.Toml

open Text

/-- The hexadecimal digits of a number below 256, after two zeros. -/
def codeDigits (n : Nat) : List Char :=
  let digit (d : Nat) : Char := if d < 10 then Char.ofNat (48 + d) else Char.ofNat (55 + d)
  ['0', '0', digit (n / 16), digit (n % 16)]

/-- A character between double quotes; between three of them lines may end. -/
def escapeChar (isLong : Bool) (c : Char) : List Char :=
  if c.toNat = 8 then ['\\', 'b']
  else if c = '\t' then ['\\', 't']
  else if c = '\n' then if isLong then ['\n'] else ['\\', 'n']
  else if c.toNat = 12 then ['\\', 'f']
  else if c = '\r' then ['\\', 'r']
  else if c = '"' then ['\\', '"']
  else if c = '\\' then ['\\', '\\']
  else if c.toNat < 0x20 ∨ c.toNat = 0x7F then '\\' :: 'u' :: codeDigits c.toNat
  else [c]

/-- Single quotes spare escapes and can hold the text: there is something to spare, no control
character besides tabs and line ends, no three single quotes in a row and none at the end. -/
def prefersSingle (s : List Char) : Bool :=
  (s.contains '"' || s.contains '\\') && s.all (fun c => isPrintable c || c == '\n') &&
    !occursIn ['\'', '\'', '\''] s && s.getLast? != some '\''

def quote (s : List Char) : List Char :=
  let isLong := s.contains '\n'
  if prefersSingle s then
    let marks := List.replicate (if isLong ∨ s.contains '\'' then 3 else 1) '\''
    marks ++ (if isLong then ['\n'] else []) ++ s ++ marks
  else
    let marks := List.replicate (if isLong then 3 else 1) '"'
    marks ++ (if isLong then ['\n'] else []) ++ s.flatMap (escapeChar isLong) ++ marks

def quoteString (s : String) : String := String.ofList (quote s.toList)

/-- A list of texts: one stands on the line, more have a line each. -/
def quoteAll : List String → String
  | [] => "[]"
  | [s] => "[" ++ quoteString s ++ "]"
  | ss => "[\n" ++ String.join (ss.map fun s => "    " ++ quoteString s ++ ",\n") ++ "]"

def member (name value : String) : String := name ++ " = " ++ value ++ "\n"

/-- The greatest integer of a document. -/
def greatestInteger : Nat := 0x7FFFFFFFFFFFFFFF

end Tabular.Toml

namespace Tabular

/-- The settings as a document. Its integers have a greatest one. -/
def Settings.toToml (s : Settings) : Except ConfigFault String :=
  if Toml.greatestInteger < s.cacheCapacity.getD 0 ∨ Toml.greatestInteger < s.limits.maxIfNesting then
    .error .integerRange
  else
    let l := s.layout
    .ok <|
      "[loader]\n" ++
      Toml.member "model_dir_suffix" (Toml.quoteString l.modelDirSuffix) ++
      Toml.member "definition_dir" (Toml.quoteString l.definitionDir) ++
      Toml.member "tables_dir" (Toml.quoteString l.tablesDir) ++
      Toml.member "table_extension" (Toml.quoteString l.tableExtension) ++
      Toml.member "relationships_file" (Toml.quoteString l.relationshipsFile) ++
      Toml.member "model_file" (Toml.quoteString l.modelFile) ++
      Toml.member "default_model_name" (Toml.quoteString l.defaultModelName) ++
      "\n[cache]\n" ++
      (s.cacheCapacity.map fun n => Toml.member "capacity" (toString n)).getD "" ++
      "\n[analysis]\n" ++
      Toml.member "max_if_nesting" (toString s.limits.maxIfNesting) ++
      Toml.member "moderate_threshold" (toString s.limits.moderateThreshold) ++
      Toml.member "complex_threshold" (toString s.limits.complexThreshold) ++
      Toml.member "coverage_threshold" (Decimal.settingText s.limits.coverageThreshold) ++
      Toml.member "allowed_abbreviations" (Toml.quoteAll s.limits.allowedAbbreviations)

end Tabular
