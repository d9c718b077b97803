import Tabular.Text.Blank

/-!
# Lines and pieces of a text

A line ends at a line feed, which a carriage return may precede. A text that ends with a line feed
has no empty last line.
-/

namespace Tabular.Text

/-- The pieces between the characters that satisfy `p`; there is always at least one. -/
def splitOn (p : Char → Bool) : List Char → List (List Char)
  | [] => [[]]
  | c :: cs =>
    if p c then [] :: splitOn p cs
    else
      match splitOn p cs with
      | [] => [[c]]
      | w :: ws => (c :: w) :: ws

/-- A line without the carriage return before its line feed. -/
def dropReturn (line : List Char) : List Char :=
  if line.getLast? = some '\r' then line.dropLast else line

/-- Drops the carriage return of every line that a line feed ends, and the empty text after the
last line feed. -/
def endLines : List (List Char) → List (List Char)
  | [] => []
  | [last] => if last.isEmpty then [] else [last]
  | line :: rest => dropReturn line :: endLines rest

def lines (s : List Char) : List (List Char) := endLines (splitOn (· == '\n') s)

def joinWith (sep : List Char) (pieces : List (List Char)) : List Char :=
  sep.intercalate pieces

def words (s : List Char) : List (List Char) :=
  (splitOn isBlank s).filter (!·.isEmpty)

theorem splitOn_ne_nil (p : Char → Bool) (s : List Char) : splitOn p s ≠ [] := by
  cases s with
  | nil => simp [splitOn]
  | cons c cs =>
    rw [splitOn]
    split
    · simp
    · split <;> simp

end Tabular.Text
