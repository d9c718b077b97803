import Tabular.Toml.Moment
import Tabular.Toml.Number
import Tabular.Toml.Table

/-!
# TOML documents

A document is a list of lines with a key and a value, or with the header of a table. Arrays and
tables in braces nest to a fixed depth.
-/

namespace Tabular.Toml

open Text

def openBrace : Char := Char.ofNat 0x7B

def closeBrace : Char := Char.ofNat 0x7D

def isBlank (c : Char) : Bool := c == ' ' || c == '\t'

def skipSpace (inComment : Bool) : List Char → List Char
  | [] => []
  | c :: cs =>
    if c = '\n' then skipSpace false cs
    else if inComment then if isPrintable c then skipSpace true cs else c :: cs
    else if isBlank c then skipSpace false cs
    else if c = '#' then skipSpace true cs
    else c :: cs

/-- The rest after the end of a line, which a comment may precede. -/
def endLine? (s : List Char) : Option (List Char) :=
  let r :=
    match s.dropWhile isBlank with
    | '#' :: cs => cs.dropWhile isPrintable
    | r => r
  match r with
  | [] => some []
  | '\n' :: r => some r
  | _ => none

/-- A character of a key without quotes. -/
def isBare (c : Char) : Bool := c.isAlphanum || c == '-' || c == '_'

def readName? (s : List Char) : Option (List Char × List Char) :=
  match s with
  | '"' :: _ | '\'' :: _ => readShort? s
  | _ => if s.takeWhile isBare = [] then none else some (s.takeWhile isBare, s.dropWhile isBare)

/-- Reads a key: names between dots. -/
def readKey? : Nat → List Char → Option (List String × List Char)
  | 0, _ => none
  | fuel + 1, s =>
    match readName? (s.dropWhile isBlank) with
    | none => none
    | some (name, r) =>
      match r.dropWhile isBlank with
      | '.' :: r => (readKey? fuel r).map fun k => (String.ofList name :: k.1, k.2)
      | r => some ([String.ofList name], r)

/-- The characters of a value without quotes and brackets. -/
def isToken (c : Char) : Bool :=
  !(isBlank c || c == '\n' || c == ',' || c == ']' || c == closeBrace || c == '#')

/-- The readings of a value without quotes and brackets. A boolean and a moment have none. -/
def readToken? (s : List Char) : Option Scalar :=
  if s = "true".toList ∨ s = "false".toList ∨ isMoment s then some {}
  else
    match readInteger? s with
    | some i =>
      some { count? := if 0 ≤ i then some i.toNat else none, number? := some (Float.ofInt i) }
    | none => (readFloat? s).map fun x => { number? := some x }

/-- Reads a value without quotes and brackets. A blank may stand between a date and a time. -/
def readPlain? (s : List Char) : Option (Node × List Char) :=
  let token := s.takeWhile isToken
  let rest := s.dropWhile isToken
  match readToken? token with
  | none => none
  | some v =>
    match rest with
    | ' ' :: r =>
      if isDate token ∧ isTimeAndOffset (r.takeWhile isToken) then
        some (.scalar v, r.dropWhile isToken)
      else some (.scalar v, rest)
    | _ => some (.scalar v, rest)

mutual

/-- Reads a value inside fewer than the greatest number of brackets. -/
def readValue? (fuel depth : Nat) (s : List Char) : Option (Node × List Char) :=
  match fuel with
  | 0 => none
  | fuel + 1 =>
    match s with
    | '"' :: _ | '\'' :: _ =>
      (readText? s).map fun r => (.scalar { text? := some (String.ofList r.1) }, r.2)
    | c :: r =>
      if c = '[' then
        if depth = 0 then none
        else (readItems? fuel (depth - 1) r).map fun l => (.list l.1, l.2)
      else if c = openBrace then
        if depth = 0 then none
        else
          match r.dropWhile isBlank with
          | [] => none
          | d :: r' =>
            if d = closeBrace then some (.group [], r')
            else
              (readMembers? fuel (depth - 1) [] (d :: r')).map fun m =>
                (.group (Members.memberNodes m.1), m.2)
      else readPlain? s
    | [] => none

/-- Reads the items of an array up to its closing bracket. -/
def readItems? (fuel depth : Nat) (s : List Char) : Option (List Node × List Char) :=
  match fuel with
  | 0 => none
  | fuel + 1 =>
    match skipSpace false s with
    | ']' :: r => some ([], r)
    | s =>
      match readValue? fuel depth s with
      | none => none
      | some (v, r) =>
        match skipSpace false r with
        | ']' :: r => some ([v], r)
        | ',' :: r => (readItems? fuel depth r).map fun l => (v :: l.1, l.2)
        | _ => none

/-- Reads the members of a table in braces up to its closing brace. -/
def readMembers? (fuel depth : Nat) (done : Members) (s : List Char) :
    Option (Members × List Char) :=
  match fuel with
  | 0 => none
  | fuel + 1 =>
    match readKey? (s.length + 1) s with
    | some (key, '=' :: r) =>
      match readValue? fuel depth (r.dropWhile isBlank) with
      | none => none
      | some (v, r) =>
        match done.addValue key.dropLast (key.getLastD "") v, r.dropWhile isBlank with
        | some ms, c :: r =>
          if c = closeBrace then some (ms, r)
          else if c = ',' then readMembers? fuel depth ms r
          else none
        | _, _ => none
    | _ => none

end

/-- The greatest number of brackets around a value. -/
def depthLimit : Nat := 79

/-- A document as far as it is read: its tables, and the header that the next values belong to. -/
structure Progress where
  members : Members := []
  header : List String := []
  deriving Repr

def readHeader? (p : Progress) (s : List Char) : Option (Progress × List Char) :=
  let isNext := s.head? == some '['
  match readKey? (s.length + 1) (if isNext then s.tail else s) with
  | none => none
  | some (key, r) =>
    let closed :=
      match isNext, r with
      | false, ']' :: r => endLine? r
      | true, ']' :: ']' :: r => endLine? r
      | _, _ => none
    let last := key.getLastD ""
    let opened :=
      if isNext then p.members.openNext key.dropLast last
      else p.members.openTable key.dropLast last
    match closed, opened with
    | some r, some ms => some (⟨ms, key⟩, r)
    | _, _ => none

def readSetting? (p : Progress) (s : List Char) : Option (Progress × List Char) :=
  match readKey? (s.length + 1) s with
  | some (key, '=' :: r) =>
    match readValue? (2 * r.length + 2) depthLimit (r.dropWhile isBlank) with
    | none => none
    | some (v, r) =>
      match endLine? r, p.members.addUnder p.header key.dropLast (key.getLastD "") v with
      | some r, some ms => some ({ p with members := ms }, r)
      | _, _ => none
  | _ => none

def readLines? (fuel : Nat) (p : Progress) (s : List Char) : Option Progress :=
  match fuel with
  | 0 => none
  | fuel + 1 =>
    match s.dropWhile isBlank with
    | [] => some p
    | '\n' :: r => readLines? fuel p r
    | '#' :: _ => (endLine? s).bind (readLines? fuel p)
    | '[' :: r => (readHeader? p r).bind fun q => readLines? fuel q.1 q.2
    | s => (readSetting? p s).bind fun q => readLines? fuel q.1 q.2

/-- Line ends without the carriage returns before them. -/
def unifyLineEnds : List Char → List Char
  | '\r' :: '\n' :: s => '\n' :: unifyLineEnds s
  | c :: s => c :: unifyLineEnds s
  | [] => []

/-- Reads a document. A byte order mark in front of it is no part of it. -/
def read? (text : List Char) : Option Node :=
  let s :=
    match unifyLineEnds text with
    | c :: rest => if c.toNat = 0xFEFF then rest else c :: rest
    | [] => []
  (readLines? (s.length + 2) {} s).map fun p => .group (Members.memberNodes p.members)

end Tabular.Toml
