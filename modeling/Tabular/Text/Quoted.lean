import Tabular.Text.Blank

/-!
# Quoted names and values

A name in single quotes writes each quote of its own twice. A value may stand in one pair of single
or double quotes, inside which nothing is escaped.
-/

namespace Tabular.Text

/-- Reads a quoted name whose opening quote has been taken; gives the name and what follows its
closing quote, or nothing when there is none. -/
def readQuoted : List Char → Option (List Char × List Char)
  | [] => none
  | '\'' :: '\'' :: r => (readQuoted r).map fun p => ('\'' :: p.1, p.2)
  | '\'' :: r => some ([], r)
  | c :: r => (readQuoted r).map fun p => (c :: p.1, p.2)

/-- Replaces each doubled quote, from left to right, by one. -/
def halveQuotes : List Char → List Char
  | [] => []
  | '\'' :: '\'' :: r => '\'' :: halveQuotes r
  | c :: r => c :: halveQuotes r

def doubleQuotes (s : List Char) : List Char :=
  s.flatMap fun c => if c = '\'' then ['\'', '\''] else [c]

/-- What stands between a leading and a trailing `q`, two different occurrences. -/
def between? (q : Char) : List Char → Option (List Char)
  | c :: d :: r => if c = q ∧ (d :: r).getLast? = some q then some (d :: r).dropLast else none
  | _ => none

/-- A trimmed name, freed of its pair of single quotes if it has one. -/
def unquoteName (s : List Char) : List Char :=
  match between? '\'' (trim s) with
  | some inner => halveQuotes inner
  | none => trim s

/-- A trimmed value, freed of one pair of double or single quotes if it has one. -/
def unquoteValue (s : List Char) : List Char :=
  match between? '"' (trim s), between? '\'' (trim s) with
  | some inner, _ => inner
  | none, some inner => inner
  | none, none => trim s

end Tabular.Text
