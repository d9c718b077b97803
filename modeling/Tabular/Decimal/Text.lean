import Tabular.Decimal.Shortest

/-!
# Decimal texts

The layouts in which numbers are written: with a fixed number of places, positionally with all
digits of the shortest decimal, and with an exponent where the point would stand far from the digits.
-/

namespace Tabular.Decimal

def digitText (n : Nat) : List Char := (toString n).toList

/-- Digits with the last `places` of them behind a point; zeros fill up in front. -/
def pointed (places n : Nat) : List Char :=
  let ds := digitText n
  let padded := List.replicate (places + 1 - ds.length) '0' ++ ds
  if places = 0 then padded
  else padded.take (padded.length - places) ++ '.' :: padded.drop (padded.length - places)

def Binary.fixed (places : Nat) (b : Binary) : List Char :=
  let f := b.fraction
  pointed places (roundHalfEven (f.1 * Nat.pow 10 places) f.2)

/-- The shortest decimal written without exponent; an integer has no point. -/
def Digits.positional (d : Digits) : List Char :=
  match d.exponent with
  | .ofNat e => digitText d.digits ++ List.replicate e '0'
  | .negSucc e => pointed (e + 1) d.digits

/-- The shortest decimal with one digit before the point and an exponent. -/
def Digits.scientific (d : Digits) : List Char :=
  let ds := digitText d.digits
  let exponent := d.exponent + (ds.length : Int) - 1
  let mantissa :=
    match ds with
    | [] => []
    | [c] => [c]
    | c :: cs => c :: '.' :: cs
  mantissa ++ 'e' :: (toString exponent).toList

def signText (negative : Bool) : List Char := if negative then ['-'] else []

/-- A number with a fixed number of places; not a number and infinities have names. -/
def fixedText (places : Nat) (x : Float) : String :=
  match Value.ofFloat x with
  | .nan => "NaN"
  | .infinite negative => String.ofList (signText negative ++ "inf".toList)
  | .finite negative b => String.ofList (signText negative ++ b.fixed places)

/-- Positions of the point between which a number is written positionally: after at most sixteen
digits, and before at most four zeros behind it. -/
def isPositional (point : Int) : Bool := -5 < point && point ≤ 16

/-- The shortest decimal with a point or an exponent, so that it is seen to be no integer. -/
def Digits.floating (d : Digits) : List Char :=
  if isPositional (d.exponent + ((digitText d.digits).length : Int)) then
    if 0 ≤ d.exponent then d.positional ++ ['.', '0'] else d.positional
  else d.scientific

/-- A finite number in its shortest form; nothing for an infinity and what is no number. -/
def floatingText? (x : Float) : Option String :=
  match Value.ofFloat x with
  | .finite negative b => some (String.ofList (signText negative ++ b.shortest.floating))
  | .nan | .infinite _ => none

/-- A number in a configuration file: positional, with a point also for an integer. -/
def settingText (x : Float) : String :=
  match Value.ofFloat x with
  | .nan => if x.toBits.toNat / 0x8000000000000000 = 1 then "-nan" else "nan"
  | .infinite negative => String.ofList (signText negative ++ "inf".toList)
  | .finite negative b =>
    let d := b.shortest
    String.ofList (signText negative ++ d.positional ++ if 0 ≤ d.exponent then ['.', '0'] else [])

end Tabular.Decimal
