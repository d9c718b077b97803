import Tabular.Decimal.Read
import Tabular.Text.Lines
import Tabular.Toml.Quoted

/-!
# Numbers in TOML

Digits may be grouped by single underscores between two of them. An integer has 64 bits with sign; a
hexadecimal, octal or binary one has no sign. A decimal has no leading zeros.
-/

namespace Tabular.Toml

open Text

/-- Grouped digits without the underscores. -/
def ungroup? (isDigit : Char → Bool) (s : List Char) : Option (List Char) :=
  let groups := splitOn (· == '_') s
  if groups.all fun g => !g.isEmpty && g.all isDigit then some groups.flatten else none

/-- Grouped decimal digits without leading zeros. -/
def wholeDigits? (s : List Char) : Option (List Char) :=
  (ungroup? isAsciiDigit s).filter fun ds => ds.length == 1 || ds.head? != some '0'

/-- A sign and the rest; whether the sign is a minus. -/
def splitSign : List Char → Bool × List Char
  | '-' :: s => (true, s)
  | '+' :: s => (false, s)
  | s => (false, s)

def valueOf (base : Nat) (ds : List Char) : Nat :=
  ds.foldl (fun n c => n * base + (hexValue? c).getD 0) 0

/-- An integer if it fits in 64 bits with sign. -/
def fit64? (i : Int) : Option Int :=
  if -0x8000000000000000 ≤ i ∧ i < 0x8000000000000000 then some i else none

def readBased? (base : Nat) (s : List Char) : Option Int :=
  let isDigit (c : Char) : Bool := (hexValue? c).any (· < base)
  (ungroup? isDigit s).bind fun ds => fit64? (valueOf base ds)

def readInteger? : List Char → Option Int
  | '0' :: 'x' :: s => readBased? 16 s
  | '0' :: 'o' :: s => readBased? 8 s
  | '0' :: 'b' :: s => readBased? 2 s
  | s =>
    let r := splitSign s
    (wholeDigits? r.2).bind fun ds =>
      fit64? (if r.1 then -(valueOf 10 ds : Int) else valueOf 10 ds)

def exponentDigits? (s : List Char) : Option (List Char) :=
  let r := splitSign s
  (ungroup? isAsciiDigit r.2).map fun ds => if r.1 then '-' :: ds else ds

def readFraction? (s : List Char) : Option Float := do
  let p := Decimal.Parts.ofText s
  let whole ← wholeDigits? p.whole
  let fraction ← match p.fraction with
    | some f => (ungroup? isAsciiDigit f).map some
    | none => some none
  let exponent ← match p.exponent with
    | some e => (exponentDigits? e).map some
    | none => some none
  if fraction.isNone ∧ exponent.isNone then none
  else Decimal.Parts.toFloat? ⟨whole, fraction, exponent⟩

/-- Reads a number that is no integer. One above all others is only written by its name. -/
def readFloat? (s : List Char) : Option Float :=
  let r := splitSign s
  let signed (x : Float) : Float := if r.1 then -x else x
  match String.ofList r.2 with
  | "inf" => some (signed (1.0 / 0.0))
  | "nan" => some (signed (0.0 / 0.0))
  | _ => ((readFraction? r.2).map signed).filter fun x => !(x == 1.0 / 0.0)

end Tabular.Toml
