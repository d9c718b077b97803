/-!
# UTF-8

Octets are read one at a time. A sequence that cannot be completed counts as one invalid item, and
the octet that breaks it is read afresh.
-/

namespace Tabular.Encoding

/-- A character that has begun: the octets it still needs, the value so far and the bounds of its
next octet. -/
structure Partial where
  needed : Nat
  value : Nat
  low : Nat
  high : Nat
  deriving DecidableEq, Repr

/-- What an octet between characters begins, or the item it is by itself. -/
def beginUtf8 (b : Nat) : Option Char ⊕ Partial :=
  if b < 0x80 then .inl (some (Char.ofNat b))
  else if b < 0xC2 then .inl none
  else if b < 0xE0 then .inr ⟨1, b - 0xC0, 0x80, 0xBF⟩
  else if b < 0xF0 then
    .inr ⟨2, b - 0xE0, if b = 0xE0 then 0xA0 else 0x80, if b = 0xED then 0x9F else 0xBF⟩
  else if b < 0xF5 then
    .inr ⟨3, b - 0xF0, if b = 0xF0 then 0x90 else 0x80, if b = 0xF4 then 0x8F else 0xBF⟩
  else .inl none

/-- The items that one octet completes, with the character that is under way after it. -/
def stepUtf8 (state : Option Partial) (b : Nat) : List (Option Char) × Option Partial :=
  let afresh : List (Option Char) × Option Partial :=
    match beginUtf8 b with
    | .inl item => ([item], none)
    | .inr p => ([], some p)
  match state with
  | none => afresh
  | some p =>
    if p.low ≤ b ∧ b ≤ p.high then
      let value := p.value * 64 + (b - 0x80)
      if p.needed = 1 then ([some (Char.ofNat value)], none)
      else ([], some ⟨p.needed - 1, value, 0x80, 0xBF⟩)
    else (none :: afresh.1, afresh.2)

/-- The items of a sequence of octets; an invalid one is `none`. -/
def utf8Items (state : Option Partial) : List UInt8 → List (Option Char)
  | [] => if state.isSome then [none] else []
  | b :: bs =>
    let r := stepUtf8 state b.toNat
    r.1 ++ utf8Items r.2 bs

def replacement : Char := Char.ofNat 0xFFFD

def replaceInvalid (items : List (Option Char)) : List Char := items.map (·.getD replacement)

/-- The text of a sequence of octets, if it is valid throughout. -/
def decodeUtf8? (bytes : List UInt8) : Option (List Char) := (utf8Items none bytes).mapM id

end Tabular.Encoding
