import Tabular.Text.Ascii
import Tabular.Text.Blank
import Tabular.Text.Letter

/-!
# Nesting of parentheses

One pass over a stripped formula finds how deep its parentheses nest, and how deep those nest that
calls of certain functions open. Names are passed over.
-/

namespace Tabular.Formula

open Text

/-- The state of the pass. The word before the next character is kept, also over blanks. -/
structure Nesting where
  /-- For each open parenthesis, innermost first, whether a marked call opened it. -/
  stack : List Bool := []
  /-- The number of open parentheses that marked calls opened. -/
  marked : Nat := 0
  maxDepth : Nat := 0
  maxMarked : Nat := 0
  word : List Char := []
  pending : List Char := []
  inBracket : Bool := false
  inQuote : Bool := false
  deriving DecidableEq, Repr

namespace Nesting

def callee (n : Nesting) : List Char := if n.word.isEmpty then n.pending else n.word

def push (isMarked : List Char → Bool) (n : Nesting) : Nesting :=
  let mark := !n.callee.isEmpty && isMarked n.callee
  let marked := if mark then n.marked + 1 else n.marked
  { n with
    stack := mark :: n.stack
    marked := marked
    maxDepth := max n.maxDepth (n.stack.length + 1)
    maxMarked := max n.maxMarked marked }

/-- Closes a parenthesis; one too many changes nothing. -/
def pop (n : Nesting) : Nesting :=
  match n.stack with
  | [] => n
  | mark :: rest => { n with stack := rest, marked := if mark then n.marked - 1 else n.marked }

def note (c : Char) (n : Nesting) : Nesting :=
  if isWordChar c || c == '.' then { n with word := n.word ++ [c], pending := [] }
  else if isBlank c then
    if n.word.isEmpty then n else { n with pending := n.word, word := [] }
  else { n with word := [], pending := [] }

def step (isMarked : List Char → Bool) (n : Nesting) (c : Char) : Nesting :=
  if n.inBracket then { n with inBracket := c != ']' }
  else if n.inQuote then { n with inQuote := c != '\'' }
  else
    let n :=
      if c = '[' then { n with inBracket := true }
      else if c = '\'' then { n with inQuote := true }
      else if c = '(' then n.push isMarked
      else if c = ')' then n.pop
      else n
    n.note c

def scan (isMarked : List Char → Bool) (code : List Char) : Nesting :=
  code.foldl (step isMarked) {}

end Nesting

/-- The functions whose nesting counts as nesting of conditions. -/
def nestingConditionals : List String := ["IF", "SWITCH", "IF.EAGER"]

/-- Whether a name, in any ASCII case, is that of a nesting condition. -/
def isConditional (name : List Char) : Bool :=
  nestingConditionals.contains (String.ofList (name.map asciiUpper))

def parenDepth (code : List Char) : Nat := (Nesting.scan (fun _ => false) code).maxDepth

def conditionalDepth (code : List Char) : Nat := (Nesting.scan isConditional code).maxMarked

end Tabular.Formula
