import Tabular.Text.Lines
import Tabular.Text.Utf8

/-!
# Expressions over several lines

The lines of an expression lose the indentation that they share, measured in bytes; a line into
which that cut cannot be made loses all of its own.
-/

namespace Tabular.Tmdl

open Text

/-- The bytes of blanks before the first other character. -/
def leadingBytes (line : List Char) : Nat := utf8Length (line.takeWhile isBlank)

/-- The smallest number of leading blank bytes of the lines that are not blank. -/
def commonIndent (lines : List (List Char)) : Nat :=
  (((lines.filter (!isBlankText ·)).map leadingBytes).min?).getD 0

/-- A line without its first `n` bytes; a blank line becomes empty. -/
def dedentLine (n : Nat) (line : List Char) : List Char :=
  if isBlankText line then []
  else (dropUtf8 n line).getD (trimStart line)

def joinExpression (lines : List (List Char)) : List Char :=
  trim (joinWith ['\n'] (lines.map (dedentLine (commonIndent lines))))

end Tabular.Tmdl
