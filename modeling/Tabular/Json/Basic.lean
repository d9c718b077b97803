import Tabular.Decimal.Text

/-!
# JSON values

A value keeps the order of the members of its objects. It is written over several lines, two spaces
to each level, and an empty array or object in two characters.
-/

namespace Tabular

/-- A JSON value. -/
inductive Json where
  | null
  | bool (b : Bool)
  | int (i : Int)
  | float (x : Float)
  | str (s : String)
  | arr (items : List Json)
  | obj (members : List (String × Json))
  deriving Inhabited

namespace Json

def optStr : Option String → Json
  | some s => str s
  | none => null

def nat (n : Nat) : Json := int n

def strs (xs : List String) : Json := arr (xs.map str)

def hexDigit (n : Nat) : Char :=
  if n < 10 then Char.ofNat (48 + n) else Char.ofNat (87 + n)

/-- A character inside quotes. Quotes, backslashes and control characters are escaped. -/
def escapeChar (c : Char) : List Char :=
  if c = '"' then ['\\', '"']
  else if c = '\\' then ['\\', '\\']
  else if c = '\n' then ['\\', 'n']
  else if c = '\r' then ['\\', 'r']
  else if c = '\t' then ['\\', 't']
  else if c.toNat = 8 then ['\\', 'b']
  else if c.toNat = 12 then ['\\', 'f']
  else if c.toNat < 0x20 then
    ['\\', 'u', '0', '0', hexDigit (c.toNat / 16), hexDigit (c.toNat % 16)]
  else [c]

def quote (s : String) : List Char := '"' :: s.toList.flatMap escapeChar ++ ['"']

def newline (level : Nat) : List Char := '\n' :: List.replicate (2 * level) ' '

/-- Puts a number into its shortest form; what is no finite number is null. -/
def floatText (x : Float) : List Char := ((Decimal.floatingText? x).getD "null").toList

mutual

def layout (level : Nat) : Json → List Char
  | null => "null".toList
  | bool true => "true".toList
  | bool false => "false".toList
  | int i => (toString i).toList
  | float x => floatText x
  | str s => quote s
  | arr [] => ['[', ']']
  | arr (x :: xs) =>
    '[' :: newline (level + 1) ++ layout (level + 1) x ++ layoutItems (level + 1) xs ++
      newline level ++ [']']
  | obj [] => [Char.ofNat 0x7B, Char.ofNat 0x7D]
  | obj ((k, v) :: ms) =>
    Char.ofNat 0x7B :: newline (level + 1) ++ quote k ++ [':', ' '] ++ layout (level + 1) v ++
      layoutMembers (level + 1) ms ++ newline level ++ [Char.ofNat 0x7D]

/-- The items after the first. -/
def layoutItems (level : Nat) : List Json → List Char
  | [] => []
  | x :: xs => ',' :: newline level ++ layout level x ++ layoutItems level xs

/-- The members after the first. -/
def layoutMembers (level : Nat) : List (String × Json) → List Char
  | [] => []
  | (k, v) :: ms =>
    ',' :: newline level ++ quote k ++ [':', ' '] ++ layout level v ++ layoutMembers level ms

end

def pretty (v : Json) : String := String.ofList (layout 0 v)

/-- Puts a member in its place by key; of two with one key the later value stays. -/
def insertMember (k : String) (v : Json) : List (String × Json) → List (String × Json)
  | [] => [(k, v)]
  | (k', v') :: ms =>
    if k < k' then (k, v) :: (k', v') :: ms
    else if k = k' then (k, v) :: ms
    else (k', v') :: insertMember k v ms

mutual

/-- The value with the members of every object in the order of their keys. -/
def sortKeys : Json → Json
  | arr items => arr (sortItems items)
  | obj members => obj (sortMembers [] members)
  | v => v

def sortItems : List Json → List Json
  | [] => []
  | x :: xs => sortKeys x :: sortItems xs

/-- The members with sorted keys, merged into those already in order. -/
def sortMembers (done : List (String × Json)) : List (String × Json) → List (String × Json)
  | [] => done
  | (k, v) :: ms => sortMembers (insertMember k (sortKeys v) done) ms

end

end Json

end Tabular
