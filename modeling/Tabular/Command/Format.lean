import Tabular.Text.LetterCase

/-!
# Output formats

A report is written as text for people or as JSON for programs.
-/

namespace Tabular

/-- The formats of a report. -/
inductive OutputFormat where
  | text
  | json
  deriving DecidableEq, Repr

/-- The format of a name, in whatever case it is written. -/
def OutputFormat.ofName? (name : String) : Option OutputFormat :=
  match String.ofList (Text.lower name.toList) with
  | "text" | "txt" => some .text
  | "json" => some .json
  | _ => none

end Tabular
