import Tabular.Text.Letter

/-!
# Decimal integers

A decimal integer is an optional sign and at least one ASCII digit.
-/

namespace Tabular.Text

/-- The value of a text of ASCII digits, the digits before it being worth `acc`. -/
def digitsValue (acc : Nat) : List Char → Option Nat
  | [] => some acc
  | c :: cs => if isAsciiDigit c then digitsValue (acc * 10 + (c.toNat - 48)) cs else none

/-- Reads at least one digit and nothing else. -/
def readNat? (s : List Char) : Option Nat :=
  if s.isEmpty then none else digitsValue 0 s

def readInt? : List Char → Option Int
  | '-' :: cs => (readNat? cs).map fun n => -(n : Int)
  | '+' :: cs => (readNat? cs).map Int.ofNat
  | cs => (readNat? cs).map Int.ofNat

/-- Reads an integer that fits in 32 bits with sign. -/
def readInt32? (s : List Char) : Option Int32 :=
  match readInt? s with
  | some i => if -2147483648 ≤ i ∧ i ≤ 2147483647 then some (Int32.ofInt i) else none
  | none => none

end Tabular.Text
