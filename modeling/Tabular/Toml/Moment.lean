import Tabular.Text.Letter
import Tabular.Text.Lines

/-!
# Dates and times in TOML

A date is a day of the calendar, a time a second of a day with optional fractions. Behind a date and
a time may stand the distance from universal time.
-/

namespace Tabular.Toml

open Text

def isBetween (low high : Nat) : List Char → Bool
  | [a, b] =>
    let n := (a.toNat - 48) * 10 + (b.toNat - 48)
    isAsciiDigit a && isAsciiDigit b && low ≤ n && n ≤ high
  | _ => false

def yearOf? (s : List Char) : Option Nat :=
  if s.length = 4 ∧ s.all isAsciiDigit then
    some (s.foldl (fun n c => n * 10 + (c.toNat - 48)) 0)
  else none

def daysIn (year month : Nat) : Nat :=
  if month = 2 then
    if year % 4 = 0 ∧ (year % 100 ≠ 0 ∨ year % 400 = 0) then 29 else 28
  else if month = 4 ∨ month = 6 ∨ month = 9 ∨ month = 11 then 30
  else 31

def isDate (s : List Char) : Bool :=
  match splitOn (· == '-') s with
  | [year, month, day] =>
    match yearOf? year with
    | some y =>
      isBetween 1 12 month &&
        isBetween 1 (daysIn y (month.foldl (fun n c => n * 10 + (c.toNat - 48)) 0)) day
    | none => false
  | _ => false

def isTime (s : List Char) : Bool :=
  match splitOn (· == ':') s with
  | [hour, minute, second] =>
    isBetween 0 23 hour && isBetween 0 59 minute &&
      match splitOn (· == '.') second with
      | [whole] => isBetween 0 60 whole
      | [whole, fraction] => isBetween 0 60 whole && !fraction.isEmpty && fraction.all isAsciiDigit
      | _ => false
  | _ => false

def isOffset : List Char → Bool
  | ['Z'] | ['z'] => true
  | sign :: s =>
    (sign == '+' || sign == '-') &&
      match splitOn (· == ':') s with
      | [hour, minute] => isBetween 0 23 hour && isBetween 0 59 minute
      | _ => false
  | [] => false

/-- Whether the text is a time of day, with or without a distance from universal time. -/
def isTimeAndOffset (s : List Char) : Bool :=
  let p (c : Char) : Bool := isAsciiDigit c || c == ':' || c == '.'
  isTime (s.takeWhile p) && ((s.dropWhile p).isEmpty || isOffset (s.dropWhile p))

/-- Whether the text is a date, a time, or both with a letter between them. -/
def isMoment (s : List Char) : Bool :=
  isDate s || isTime s ||
    (isDate (s.take 10) &&
      match s.drop 10 with
      | c :: rest => (c == 'T' || c == 't') && isTimeAndOffset rest
      | [] => false)

end Tabular.Toml
