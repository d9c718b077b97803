/-!
# Characters and positions in YAML

A document is read from a cursor that knows its line and column. A line ends at a line feed or at
one of the two separators of lines and paragraphs.
-/

namespace Tabular.Yaml

def isAllowed (c : Char) : Bool :=
  let n := c.toNat
  n == 0x09 || n == 0x0A || n == 0x0D || (0x20 ≤ n && n ≤ 0x7E) || n == 0x85 ||
    (0xA0 ≤ n && n != 0xFFFE && n != 0xFFFF)

def isBlank (c : Char) : Bool := c == ' ' || c == '\t'

def isBreak (c : Char) : Bool := c == '\n' || c.toNat == 0x2028 || c.toNat == 0x2029

/-- Nothing but a blank, the end of a line or the end of the document comes first. -/
def atGap : List Char → Bool
  | [] => true
  | c :: _ => isBlank c || isBreak c

def atLineEnd : List Char → Bool
  | [] => true
  | c :: _ => isBreak c

/-- A marker between documents, which stands at the beginning of a line. -/
def atMarker (mark : Char) : List Char → Bool
  | a :: b :: c :: rest => a == mark && b == mark && c == mark && atGap rest
  | _ => false

def isNameChar (c : Char) : Bool := c.isAlphanum || c == '-' || c == '_'

def openBrace : Char := Char.ofNat 0x7B

def closeBrace : Char := Char.ofNat 0x7D

/-- A character with a meaning of its own between brackets. -/
def isFlowMark (c : Char) : Bool :=
  c == ',' || c == '[' || c == ']' || c == openBrace || c == closeBrace

/-- What is left of a document, with the position of its first character. -/
structure Cursor where
  rest : List Char
  line : Nat := 0
  column : Nat := 0
  deriving DecidableEq, Repr

namespace Cursor

def skip (p : Cursor) (n : Nat) : Cursor :=
  { p with rest := p.rest.drop n, column := p.column + n }

def skipBreak (p : Cursor) : Cursor := ⟨p.rest.drop 1, p.line + 1, 0⟩

/-- Goes on over the characters that satisfy a test, all on one line. -/
def skipWhile (p : Cursor) (test : Char → Bool) : Cursor :=
  p.skip (p.rest.takeWhile test).length

def atDocument (p : Cursor) : Bool :=
  p.column == 0 && (atMarker '-' p.rest || atMarker '.' p.rest)

end Cursor

/-- Line ends of every kind as line feeds, except for the separators. -/
def unifyBreaks : List Char → List Char
  | '\r' :: '\n' :: s => '\n' :: unifyBreaks s
  | '\r' :: s => '\n' :: unifyBreaks s
  | c :: s => (if c.toNat = 0x85 then '\n' else c) :: unifyBreaks s
  | [] => []

end Tabular.Yaml
