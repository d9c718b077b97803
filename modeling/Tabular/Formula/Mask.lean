import Tabular.Text.Utf8

/-!
# Masking bracketed names

In a stripped formula the characters of bracketed names are replaced by spaces, as many as the bytes
they take in UTF-8. So nothing in a name is taken for code, and every offset stays what it was.
-/

namespace Tabular.Formula

/-- What a character of a stripped formula belongs to. -/
inductive Region where
  | code
  | bracket
  | quote
  deriving DecidableEq, Repr

/-- The region of the character after `c`. -/
def Region.after (r : Region) (c : Char) : Region :=
  match r with
  | code => if c = '[' then bracket else if c = '\'' then quote else code
  | bracket => if c = ']' then code else bracket
  | quote => if c = '\'' then code else quote

/-- The masked form of a text of which the first character lies in a region. -/
def maskFrom : Region → List Char → List Char
  | _, [] => []
  | .bracket, c :: cs =>
    (if c = ']' then [c] else List.replicate c.utf8Size ' ') ++ maskFrom (Region.bracket.after c) cs
  | r, c :: cs => c :: maskFrom (r.after c) cs

/-- The text with the contents of its bracketed names blanked. -/
def mask (code : List Char) : List Char := maskFrom .code code

end Tabular.Formula
