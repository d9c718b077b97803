/-!
# Styled text

On a terminal that shows colours a style is switched on in front of a text and everything is
switched off behind it. Where the text itself switches everything off, the style is switched on
again.
-/

namespace Tabular

/-- The colours in use. -/
inductive Colour where
  | red
  | green
  | yellow
  | blue
  deriving DecidableEq, Repr

def Colour.code : Colour → List Char
  | red => "31".toList
  | green => "32".toList
  | yellow => "33".toList
  | blue => "34".toList

/-- How a text is shown. -/
structure Style where
  bold : Bool := false
  dimmed : Bool := false
  colour : Option Colour := none
  deriving DecidableEq, Repr

namespace Style

def escape : Char := Char.ofNat 0x1B

def sequence (codes : List (List Char)) : List Char :=
  escape :: '[' :: [';'].intercalate codes ++ ['m']

def off : List Char := sequence [['0']]

def on (s : Style) : List Char :=
  sequence <| (if s.bold then [['1']] else []) ++ (if s.dimmed then [['2']] else []) ++
    (s.colour.map (·.code)).toList

/-- Writes `mark` behind each place where the text switches everything off. -/
def resume (mark : List Char) : List Char → List Char
  | a :: '[' :: '0' :: 'm' :: rest =>
    if a = escape then off ++ mark ++ resume mark rest
    else a :: '[' :: '0' :: 'm' :: resume mark rest
  | c :: rest => c :: resume mark rest
  | [] => []

/-- A text in the style, if colours are shown. -/
def paint (colours : Bool) (s : Style) (text : String) : String :=
  if colours then String.ofList (s.on ++ resume s.on text.toList ++ off) else text

end Style

end Tabular
