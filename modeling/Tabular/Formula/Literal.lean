import Tabular.Formula.Strip
import Tabular.Text.Letter
import Tabular.Text.LetterCase
import Tabular.Text.Search

/-!
# Constants in a formula

A formula holds a constant if it has a string literal, a number that is not part of a name, or a
call of `TRUE`, `FALSE` or `BLANK` without arguments.
-/

namespace Tabular.Formula

open Text

/-- Whether a digit outside names follows something other than a word character. Brackets and quotes
toggle whether the text is inside a name. -/
def hasNumber (inBracket inQuote : Bool) (before : Char) : List Char → Bool
  | [] => false
  | c :: cs =>
    if c = '[' ∧ inQuote = false then hasNumber true inQuote c cs
    else if c = ']' ∧ inQuote = false then hasNumber false inQuote c cs
    else if c = '\'' ∧ inBracket = false then hasNumber inBracket (!inQuote) c cs
    else if !inBracket && !inQuote && isAsciiDigit c && !isWordChar before then true
    else hasNumber inBracket inQuote c cs

/-- Whether a constant is called without arguments. -/
def hasConstantCall (code : List Char) : Bool :=
  let u := upper code
  occursIn "TRUE()".toList u || occursIn "FALSE()".toList u || occursIn "BLANK()".toList u

def codeHasLiteral (code : List Char) : Bool :=
  occursIn ['"', '"'] code || hasNumber false false ' ' code || hasConstantCall code

/-- Whether a formula holds a constant outside its comments. -/
def hasLiteral (formula : List Char) : Bool := codeHasLiteral (strip formula)

end Tabular.Formula
