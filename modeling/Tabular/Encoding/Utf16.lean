/-!
# UTF-16

Octets are joined to units in either order, and a high surrogate with the low surrogate after it to
one character. A surrogate without its partner is an invalid item; so is what the end cuts off.
-/

namespace Tabular.Encoding

/-- The order of the two octets of a unit. -/
inductive Endian where
  | little
  | big
  deriving DecidableEq, Repr

def Endian.unit (e : Endian) (first second : UInt8) : Nat :=
  match e with
  | little => second.toNat * 256 + first.toNat
  | big => first.toNat * 256 + second.toNat

def isHighSurrogate (u : Nat) : Bool := 0xD800 ≤ u && u < 0xDC00

def isLowSurrogate (u : Nat) : Bool := 0xDC00 ≤ u && u < 0xE000

/-- The items that one unit completes, with the high surrogate that waits after it. -/
def stepUtf16 (waiting : Option Nat) (u : Nat) : List (Option Char) × Option Nat :=
  let afresh : List (Option Char) × Option Nat :=
    if isHighSurrogate u then ([], some u)
    else if isLowSurrogate u then ([none], none)
    else ([some (Char.ofNat u)], none)
  match waiting with
  | none => afresh
  | some high =>
    if isLowSurrogate u then
      ([some (Char.ofNat (0x10000 + (high - 0xD800) * 0x400 + (u - 0xDC00)))], none)
    else (none :: afresh.1, afresh.2)

/-- The items of a sequence of octets; an invalid one is `none`. -/
def utf16Items (e : Endian) (waiting : Option Nat) : List UInt8 → List (Option Char)
  | a :: b :: bs =>
    let r := stepUtf16 waiting (e.unit a b)
    r.1 ++ utf16Items e r.2 bs
  | [_] => [none]
  | [] => if waiting.isSome then [none] else []

end Tabular.Encoding
