import Tabular.Decimal.Binary

/-!
# The shortest decimal of a double

The digits of a double are the fewest that no other double is nearer to; among equally many, those
nearest to its value.
-/

namespace Tabular.Decimal

/-- The number `digits * 10 ^ exponent`. -/
structure Digits where
  digits : Nat
  exponent : Int
  deriving DecidableEq, Repr

/-- A point of the decimal grid, with the rational numbers that round to a double. All bounds are
four times the mantissa scale, over one denominator. -/
structure Interval where
  low : Nat
  middle : Nat
  high : Nat
  den : Nat
  closed : Bool
  deriving DecidableEq, Repr

/-- The numbers that round to a magnitude. Its end points do so when the mantissa is even. -/
def Binary.interval (b : Binary) : Interval :=
  let scaled (k : Nat) : Nat := (Binary.mk k b.exponent).fraction.1
  { low := scaled (4 * b.mantissa - (if b.isLowestOfItsBinade then 1 else 2))
    middle := scaled (4 * b.mantissa)
    high := scaled (4 * b.mantissa + 2)
    den := 4 * b.fraction.2
    closed := b.mantissa % 2 == 0 }

namespace Interval

/-- Numerator and denominator of `n * 10 ^ e` over the denominator of the interval. -/
def gridPoint (i : Interval) (n : Nat) (e : Int) : Nat × Nat :=
  match e with
  | .ofNat k => (n * Nat.pow 10 k * i.den, 1)
  | .negSucc k => (n * i.den, Nat.pow 10 (k + 1))

/-- Whether `n * 10 ^ e` lies in the interval. -/
def holds (i : Interval) (n : Nat) (e : Int) : Bool :=
  let (a, b) := i.gridPoint n e
  if i.closed then i.low * b ≤ a && a ≤ i.high * b else i.low * b < a && a < i.high * b

/-- The greatest `n` with `n * 10 ^ e` not above the middle. -/
def below (i : Interval) (e : Int) : Nat :=
  match e with
  | .ofNat k => i.middle / (Nat.pow 10 k * i.den)
  | .negSucc k => i.middle * Nat.pow 10 (k + 1) / i.den

/-- Whether `n * 10 ^ e` is nearer to the middle than `(n + 1) * 10 ^ e`, or as near and even. -/
def prefersLower (i : Interval) (n : Nat) (e : Int) : Bool :=
  let (a, b) := i.gridPoint (2 * n + 1) e
  if 2 * i.middle * b < a then true
  else if a < 2 * i.middle * b then false
  else n % 2 == 0

/-- The point of the grid of step `10 ^ e` in the interval that is nearest to its middle. -/
def nearest? (i : Interval) (e : Int) : Option Nat :=
  let n := i.below e
  match i.holds n e, i.holds (n + 1) e with
  | true, true => some (if i.prefersLower n e then n else n + 1)
  | true, false => some n
  | false, true => some (n + 1)
  | false, false => none

/-- Tries grids of step `10 ^ top`, `10 ^ (top - 1)`, … and takes the first point found. -/
def coarsest (i : Interval) (top : Int) : Nat → Option Digits
  | 0 => none
  | tries + 1 =>
    match i.nearest? top with
    | some n => some ⟨n, top⟩
    | none => i.coarsest (top - 1) tries

end Interval

/-- The number of decimal digits of a number that is at most `fuel` digits long. -/
def countDigits (fuel n : Nat) : Nat :=
  match fuel with
  | 0 => 0
  | fuel + 1 => if n < 10 then 1 else countDigits fuel (n / 10) + 1

/-- An exponent such that `10 ^ e` is not below the magnitude, and at most two digits above. -/
def Interval.top (i : Interval) : Int :=
  (countDigits 400 i.middle : Int) - (countDigits 400 i.den : Int) + 1

def Digits.trim (fuel : Nat) (d : Digits) : Digits :=
  match fuel with
  | 0 => d
  | fuel + 1 =>
    if d.digits % 10 = 0 && d.digits != 0 then Digits.trim fuel ⟨d.digits / 10, d.exponent + 1⟩ else d

def Binary.shortest (b : Binary) : Digits :=
  if b.mantissa = 0 then ⟨0, 0⟩
  else
    let i := b.interval
    match i.coarsest i.top 24 with
    | some d => d.trim 20
    | none => ⟨0, 0⟩

end Tabular.Decimal
