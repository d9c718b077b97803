import Tabular.Text.Integer

/-!
# Reading decimal fractions

A decimal is given by its digits and a power of ten and stands for the nearest double. Magnitudes
beyond every double are infinite or zero, however large their exponents are.
-/

namespace Tabular.Decimal

open Text

/-- The double nearest to `digits * 10 ^ exponent`, with `count` digits written. -/
def nearestFloat (digits count : Nat) (exponent : Int) : Float :=
  if digits = 0 then 0
  else if 310 < exponent + count then 1.0 / 0.0
  else if exponent + count < -330 then 0
  else
    match exponent with
    | .ofNat e => Float.ofScientific digits false e
    | .negSucc e => Float.ofScientific digits true (e + 1)

/-- The parts of an unsigned decimal: digits, digits after a point, exponent. -/
structure Parts where
  whole : List Char
  fraction : Option (List Char)
  exponent : Option (List Char)
  deriving DecidableEq, Repr

/-- Splits an unsigned decimal at its point and at its `e`. -/
def Parts.ofText (s : List Char) : Parts :=
  let isE (c : Char) := c == 'e' || c == 'E'
  let head := s.takeWhile (!isE ·)
  let whole := head.takeWhile (· != '.')
  { whole := whole
    fraction := (head.dropWhile (· != '.')).tail?
    exponent := (s.dropWhile (!isE ·)).tail? }

/-- The double that the parts stand for, if they are digits where they have to be. -/
def Parts.toFloat? (p : Parts) : Option Float :=
  let fraction := p.fraction.getD []
  match digitsValue 0 (p.whole ++ fraction), (p.exponent.map readInt?).getD (some 0) with
  | some digits, some e =>
    some (nearestFloat digits (p.whole.length + fraction.length) (e - fraction.length))
  | _, _ => none

end Tabular.Decimal
