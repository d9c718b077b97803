import Tabular.Text.Lines
import Tabular.Tmdl.Line

/-!
# The name of the model

Of the file that declares the model only its name is read.
-/

namespace Tabular.Tmdl

/-- The name that a line gives the model; an empty name counts for nothing. -/
def declaredModelName? (raw : List Char) : Option String :=
  match (Line.ofRaw raw).kind with
  | .declaration .model name _ => if name.isEmpty then none else some name
  | _ => none

/-- The name in the first line that gives one. -/
def parseModelName (text : List Char) : Option String :=
  (Text.lines text).findSome? declaredModelName?

end Tabular.Tmdl
