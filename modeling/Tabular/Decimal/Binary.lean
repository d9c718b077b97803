/-!
# Binary numbers with exact value

A finite double is a sign, a mantissa and an exponent of two. What is printed of it is computed from
these in exact arithmetic.
-/

namespace Tabular.Decimal

/-- The magnitude `mantissa * 2 ^ exponent`. -/
structure Binary where
  mantissa : Nat
  exponent : Int
  deriving DecidableEq, Repr

/-- A double as it is printed: not a number, or a sign with an infinite or finite magnitude. -/
inductive Value where
  | nan
  | infinite (negative : Bool)
  | finite (negative : Bool) (magnitude : Binary)
  deriving DecidableEq, Repr

def Value.ofBits (bits : Nat) : Value :=
  let negative := bits / 0x8000000000000000 % 2 == 1
  let exponent : Nat := bits / 0x10000000000000 % 2048
  let fraction : Nat := bits % 0x10000000000000
  if exponent = 2047 then
    if fraction = 0 then .infinite negative else .nan
  else if exponent = 0 then .finite negative ⟨fraction, -1074⟩
  else .finite negative ⟨fraction + 0x10000000000000, (exponent : Int) - 1075⟩

def Value.ofFloat (x : Float) : Value := .ofBits x.toBits.toNat

namespace Binary

def fraction (b : Binary) : Nat × Nat :=
  match b.exponent with
  | .ofNat e => (b.mantissa * Nat.pow 2 e, 1)
  | .negSucc e => (b.mantissa, Nat.pow 2 (e + 1))

/-- Whether the double below is nearer than the one above: at a power of two the spacing halves. -/
def isLowestOfItsBinade (b : Binary) : Bool := b.mantissa == 0x10000000000000 && -1074 < b.exponent

end Binary

/-- The quotient rounded to the nearest integer, a half going to the even one. -/
def roundHalfEven (num den : Nat) : Nat :=
  let q := num / den
  let r := num % den
  if 2 * r < den then q
  else if den < 2 * r then q + 1
  else if q % 2 = 0 then q else q + 1

end Tabular.Decimal
