import Tabular.Text.Integer

/-!
# Quoted texts in TOML

A text stands between double quotes, where a backslash begins an escape, or between single quotes,
where every character stands for itself. Three quotes on each side allow line ends inside; a line
end right behind the opening quotes is dropped. Lines end at a line feed.
-/

namespace Tabular.Toml

/-- A character that a text or comment may hold as it is. -/
def isPrintable (c : Char) : Bool := c == '\t' || (0x20 ≤ c.toNat && c.toNat != 0x7F)

def hexValue? (c : Char) : Option Nat :=
  if '0' ≤ c ∧ c ≤ '9' then some (c.toNat - 48)
  else if 'a' ≤ c ∧ c ≤ 'f' then some (c.toNat - 87)
  else if 'A' ≤ c ∧ c ≤ 'F' then some (c.toNat - 55)
  else none

/-- The character of a code point; surrogates stand for none. -/
def charOf? (n : Nat) : Option Char :=
  if n < 0xD800 ∨ (0xE000 ≤ n ∧ n < 0x110000) then some (Char.ofNat n) else none

/-- The character that a letter stands for behind a backslash. -/
def escaped? : Char → Option Char
  | 'b' => some (Char.ofNat 8)
  | 't' => some '\t'
  | 'n' => some '\n'
  | 'f' => some (Char.ofNat 12)
  | 'r' => some '\r'
  | '"' => some '"'
  | '\\' => some '\\'
  | _ => none

/-- What has begun inside a quoted text. -/
inductive Pending where
  | nothing
  /-- A backslash. -/
  | escape
  /-- A code point: the digits that are missing and the value so far. -/
  | code (missing value : Nat)
  /-- A backslash and blanks: the line has to end. -/
  | lineEnd
  /-- A line end behind a backslash: blanks and further line ends are dropped. -/
  | lineStart
  /-- Quotes that may close the text. -/
  | quotes (count : Nat)
  deriving DecidableEq, Repr

/-- The kind of a quoted text. -/
structure QuoteKind where
  mark : Char
  hasEscapes : Bool
  isLong : Bool
  deriving DecidableEq, Repr

/-- Reads a quoted text behind its opening quotes. The characters so far are in reverse. -/
def readQuoted (k : QuoteKind) (pending : Pending) (done : List Char) :
    List Char → Option (List Char × List Char)
  | [] =>
    match pending with
    | .quotes n => if 3 ≤ n then some ((done.drop 3).reverse, []) else none
    | _ => none
  | c :: rest =>
    let fresh : Option (List Char × List Char) :=
      if c = k.mark then
        if k.isLong then readQuoted k (.quotes 1) (c :: done) rest else some (done.reverse, rest)
      else if c = '\\' ∧ k.hasEscapes then readQuoted k .escape done rest
      else if isPrintable c ∨ (k.isLong ∧ c = '\n') then readQuoted k .nothing (c :: done) rest
      else none
    match pending with
    | .nothing => fresh
    | .escape =>
      if c = 'u' then readQuoted k (.code 4 0) done rest
      else if c = 'U' then readQuoted k (.code 8 0) done rest
      else if k.isLong ∧ c = '\n' then readQuoted k .lineStart done rest
      else if k.isLong ∧ (c = ' ' ∨ c = '\t') then readQuoted k .lineEnd done rest
      else
        match escaped? c with
        | some e => readQuoted k .nothing (e :: done) rest
        | none => none
    | .code missing value =>
      match hexValue? c with
      | none => none
      | some d =>
        let value := value * 16 + d
        if missing = 1 then
          match charOf? value with
          | some e => readQuoted k .nothing (e :: done) rest
          | none => none
        else readQuoted k (.code (missing - 1) value) done rest
    | .lineEnd =>
      if c = '\n' then readQuoted k .lineStart done rest
      else if c = ' ' ∨ c = '\t' then readQuoted k .lineEnd done rest
      else none
    | .lineStart =>
      if c = '\n' ∨ c = ' ' ∨ c = '\t' then readQuoted k .lineStart done rest else fresh
    | .quotes n =>
      if c = k.mark ∧ n < 4 then readQuoted k (.quotes (n + 1)) (c :: done) rest
      else if c = k.mark then some ((done.drop 2).reverse, rest)
      else if 3 ≤ n then some ((done.drop 3).reverse, c :: rest)
      else fresh

def dropLineEnd : List Char → List Char
  | '\n' :: rest => rest
  | rest => rest

def readShort? : List Char → Option (List Char × List Char)
  | '"' :: rest => readQuoted ⟨'"', true, false⟩ .nothing [] rest
  | '\'' :: rest => readQuoted ⟨'\'', false, false⟩ .nothing [] rest
  | _ => none

def readText? : List Char → Option (List Char × List Char)
  | '"' :: '"' :: '"' :: rest => readQuoted ⟨'"', true, true⟩ .nothing [] (dropLineEnd rest)
  | '\'' :: '\'' :: '\'' :: rest => readQuoted ⟨'\'', false, true⟩ .nothing [] (dropLineEnd rest)
  | s => readShort? s

end Tabular.Toml
