import Tabular.Text.Blank

/-!
# Fences

Three backquotes on the line of a declaration open an expression that runs to a line holding three
backquotes alone, or to the same three at the end of the declaration.
-/

namespace Tabular.Tmdl

open Text

def fence : List Char := List.replicate 3 (Char.ofNat 0x60)

/-- How the value of a measure or column declaration begins its expression. -/
inductive Opening where
  /-- The whole expression stands on the line. -/
  | inline (expression : String)
  /-- A fence is open. -/
  | fenced
  /-- The expression is on the deeper lines that follow. -/
  | below
  deriving DecidableEq, Repr

def beforeFence? (s : List Char) : Option (List Char) :=
  if fence.isSuffixOf s then some (s.take (s.length - 3)) else none

/-- What the value after `=` begins. -/
def Opening.ofValue (value : String) : Opening :=
  match value.toList with
  | [] => .below
  | cs =>
    if fence.isPrefixOf cs then
      match beforeFence? (trimEnd (cs.drop 3)) with
      | some body => .inline (String.ofList (trim body))
      | none => .fenced
    else .inline value

end Tabular.Tmdl
