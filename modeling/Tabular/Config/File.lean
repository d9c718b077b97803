import Tabular.Files.Tree
import Tabular.Toml.Document
import Tabular.Yaml.Document

/-!
# Configuration files

The extension of a file tells its notation: `yaml` and `yml` are YAML, all others TOML. Settings are
checked as soon as they are read.
-/

namespace Tabular

/-- The notations in which configuration files are written. -/
inductive ConfigFormat where
  | toml
  | yaml
  deriving DecidableEq, Repr

namespace ConfigFormat

def ofPath (p : Path) : ConfigFormat :=
  if p.hasExtension "yaml" || p.hasExtension "yml" then yaml else toml

/-- Reads settings; a list may give the settings of a group in TOML only. -/
def read (f : ConfigFormat) (text : List Char) : Except ConfigFault Settings :=
  match f with
  | toml => ((Toml.read? text).bind (Settings.ofNode? true)).elim (.error .malformedToml) .ok
  | yaml => ((Yaml.read? text).bind (Settings.ofNode? false)).elim (.error .malformedYaml) .ok

end ConfigFormat

namespace Settings

def ofText (f : ConfigFormat) (text : List Char) : Except ConfigFault Settings := do
  let s ← f.read text
  s.validate
  return s

def ofFile (p : Path) (content : Except ReadFault (List UInt8)) : Except Failure Settings :=
  let text : Except ReadFault (List Char) := do
    match Encoding.decodeUtf8? (← content) with
    | some s => return s
    | none => throw .notUtf8
  match text with
  | .error fault => .error (.unreadable p.toString fault.message)
  | .ok s => (ofText (.ofPath p) s).mapError .badConfig

end Settings

end Tabular
