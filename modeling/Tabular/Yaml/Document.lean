import Tabular.Config.Node
import Tabular.Decimal.Read
import Tabular.Yaml.Token

/-!
# YAML documents

A document is one node: a text, a sequence, a mapping, or a reference to a node that was named
before. Only a plain text is read as a count, a number or nothing.
-/

namespace Tabular.Yaml

open Text

/-- The expansions of the handles of tags that need no declaration. -/
def standardHandles : List (List Char × List Char) :=
  [(['!'], ['!']), (['!', '!'], "tag:yaml.org,2002:".toList)]

def Tag.resolve? (handles : List (List Char × List Char)) (t : Tag) : Option (List Char) :=
  if t.handle = [] then some t.suffix
  else (handles.lookup t.handle).map (· ++ t.suffix)

/-- A text without the words before it, if it begins with them. -/
def dropWords (words s : List Char) : Option (List Char) :=
  if words.isPrefixOf s then some (s.drop words.length) else none

/-- Digits to a base without sign. -/
def readDigits? (base : Nat) (s : List Char) : Option Nat :=
  if s = [] then none
  else
    s.foldl (fun n c => n.bind fun n => ((hexValue? c).filter (· < base)).map (n * base + ·)) (some 0)

/-- A zero in front of further digits makes a text of them. -/
def isPadded (s : List Char) : Bool := 1 < s.length && s.head? == some '0' && s.all isAsciiDigit

def readCount? (s : List Char) : Option Nat :=
  let s := if s.head? = some '+' then s.tail else s
  let based (mark : Char) (base : Nat) : Option Nat :=
    (dropWords ['0', mark] s).bind (readDigits? base)
  match based 'x' 16, based 'o' 8, based 'b' 2 with
  | some n, _, _ => some n
  | none, some n, _ => some n
  | none, none, some n => some n
  | none, none, none => if isPadded s then none else readDigits? 10 s

/-- The finite number that an unsigned decimal stands for. -/
def readDecimal? (s : List Char) : Option Float :=
  let p := Decimal.Parts.ofText s
  let digits := p.whole ++ p.fraction.getD []
  if digits = [] then none else p.toFloat?.filter fun x => x.isFinite

def readNumber? (s : List Char) : Option Float :=
  let infinite := [".inf", ".Inf", ".INF"].map String.toList
  let unsigned := if s.head? = some '+' then s.tail else s
  if infinite.contains unsigned then some (1.0 / 0.0)
  else if s.head? = some '-' ∧ infinite.contains s.tail then some (-(1.0 / 0.0))
  else if ([".nan", ".NaN", ".NAN"].map String.toList).contains s then some (0.0 / 0.0)
  else if s.head? = some '-' then (readDecimal? s.tail).map (- ·)
  else readDecimal? unsigned

/-- A plain text that stands for nothing. -/
def isNullWord (s : List Char) : Bool :=
  (["null", "Null", "NULL", "~"].map String.toList).contains s

def standardTag (name : String) : List Char := "tag:yaml.org,2002:".toList ++ name.toList

/-- The readings of a text. A literal block is read like a plain text if its tag asks for it. -/
def readings (style : TextStyle) (tag : Option (List Char)) (s : List Char) : Scalar :=
  let readAs (name : String) : Bool :=
    style = .plain ∨ (style = .literal ∧ tag = some (standardTag name))
  { text? := some (String.ofList s)
    count? := if readAs "int" then readCount? s else none
    number? := if readAs "float" then readNumber? s else none
    isNull := style = .plain ∧
      ((tag = none ∧ (s = [] ∨ isNullWord s)) ∨ (tag = some (standardTag "null") ∧ isNullWord s))
    isEmpty := style = .plain ∧ s = [] }

/-- What is left to read, and the nodes with a name. -/
structure Reading where
  tokens : List Token
  handles : List (List Char × List Char)
  anchors : List (List Char × Node) := []

/-- Reads a part of a document, if it is there. -/
abbrev Read (α : Type) := StateT Reading Option α

namespace Read

def peek : Read (Option Token) := do return (← get).tokens.head?

def advance : Read Unit := modify fun r => { r with tokens := r.tokens.tail }

/-- There is no such document. -/
def refuse {α : Type} : Read α := fun _ => none

def emptyNode : Node := .scalar (readings .plain none [])

def isNext (ts : List Token) : Read Bool := do return (← peek).any ts.contains

def anchor : Read (Option (List Char)) := do
  match ← peek with
  | some (.anchor name) =>
    advance
    return some name
  | _ => return none

/-- Reads the tag in front of a node. A tag that is a mere mark counts for nothing on a text. -/
def tag : Read (Option (List Char)) := do
  match ← peek with
  | some (.tag t) =>
    advance
    match t.resolve? (← get).handles with
    | some full => return some full
    | none => refuse
  | _ => return none

/-- Reads an anchor and a tag in either order. -/
def properties : Read (Option (List Char) × Option (List Char)) := do
  let a ← anchor
  let t ← tag
  match a with
  | some _ => return (a, t)
  | none => return (← anchor, t)

def name (a : Option (List Char)) (v : Node) : Read Node := do
  match a with
  | some a =>
    modify fun r => { r with anchors := (a, v) :: r.anchors }
    return v
  | none => return v

/-- The node of a mapping. A key that is no text makes it unfit for settings. -/
def mappingNode (members : List (Node × Node)) : Node :=
  match members.mapM fun m => m.1.toText?.map (·, m.2) with
  | some ms => .group ms
  | none => .scalar {}

mutual

/-- Reads a node. A block may begin only where `inBlock`; a sequence may stand without indentation
only where `unindented`. -/
def node (inBlock unindented : Bool) : Nat → Read Node
  | 0 => refuse
  | fuel + 1 => do
    match ← peek with
    | some (.alias a) =>
      advance
      match (← get).anchors.lookup a with
      | some v => return v
      | none => refuse
    | _ =>
      let (a, t) ← properties
      match ← peek with
      | some (.text style s) =>
        advance
        let t := t.filter (· != ['!'])
        name a (.scalar (readings style t s))
      | some .entry =>
        if unindented then name a (.list (← unindentedItems fuel))
        else if a.isSome ∨ t.isSome then name a (.scalar (readings .plain t []))
        else refuse
      | some .flowSequenceStart =>
        advance
        name a (.list (← flowItems true fuel))
      | some .flowMappingStart =>
        advance
        name a (mappingNode (← flowMembers true fuel))
      | some .sequenceStart =>
        if inBlock then
          advance
          name a (.list (← items fuel))
        else if a.isSome ∨ t.isSome then name a (.scalar (readings .plain t []))
        else refuse
      | some .mappingStart =>
        if inBlock then
          advance
          name a (mappingNode (← members fuel))
        else if a.isSome ∨ t.isSome then name a (.scalar (readings .plain t []))
        else refuse
      | _ =>
        if a.isSome ∨ t.isSome then name a (.scalar (readings .plain t [])) else refuse

/-- Reads a node, or nothing in front of one of the given tokens. -/
def optional (inBlock unindented : Bool) (stops : List Token) : Nat → Read Node
  | 0 => refuse
  | fuel + 1 => do
    if ← isNext stops then return emptyNode else node inBlock unindented fuel

def items : Nat → Read (List Node)
  | 0 => refuse
  | fuel + 1 => do
    match ← peek with
    | some .entry =>
      advance
      let v ← optional true false [.entry, .blockEnd] fuel
      return v :: (← items fuel)
    | some .blockEnd =>
      advance
      return []
    | _ => refuse

/-- Reads the items of a sequence without indentation. -/
def unindentedItems : Nat → Read (List Node)
  | 0 => refuse
  | fuel + 1 => do
    match ← peek with
    | some .entry =>
      advance
      let v ← optional true false [.entry, .key, .value, .blockEnd] fuel
      return v :: (← unindentedItems fuel)
    | _ => return []

def members : Nat → Read (List (Node × Node))
  | 0 => refuse
  | fuel + 1 => do
    match ← peek with
    | some .key =>
      advance
      let k ← optional true true [.key, .value, .blockEnd] fuel
      let v ← memberValue fuel
      return (k, v) :: (← members fuel)
    | some .blockEnd =>
      advance
      return []
    | _ => refuse

/-- Reads the value of a member, which may be missing. -/
def memberValue : Nat → Read Node
  | 0 => refuse
  | fuel + 1 => do
    if ← isNext [.value] then
      advance
      optional true true [.key, .value, .blockEnd] fuel
    else return emptyNode

/-- Reads the items of a sequence in brackets. An item may be a mapping with one member. -/
def flowItems (isFirst : Bool) : Nat → Read (List Node)
  | 0 => refuse
  | fuel + 1 => do
    if ← isNext [.flowSequenceEnd] then
      advance
      return []
    else
      if !isFirst then
        if ← isNext [.comma] then advance else refuse
      match ← peek with
      | some .key =>
        advance
        let k ← optional false false [.value, .comma, .flowSequenceEnd] fuel
        let v ← flowValue [.comma, .flowSequenceEnd] fuel
        return mappingNode [(k, v)] :: (← flowItems false fuel)
      | some .flowSequenceEnd =>
        advance
        return []
      | _ =>
        let v ← node false false fuel
        return v :: (← flowItems false fuel)

def flowMembers (isFirst : Bool) : Nat → Read (List (Node × Node))
  | 0 => refuse
  | fuel + 1 => do
    if ← isNext [.flowMappingEnd] then
      advance
      return []
    else
      if !isFirst then
        if ← isNext [.comma] then advance else refuse
      match ← peek with
      | some .key =>
        advance
        let k ← optional false false [.value, .comma, .flowMappingEnd] fuel
        let v ← flowValue [.comma, .flowMappingEnd] fuel
        return (k, v) :: (← flowMembers false fuel)
      | some .flowMappingEnd =>
        advance
        return []
      | _ =>
        let k ← node false false fuel
        return (k, emptyNode) :: (← flowMembers false fuel)

/-- Reads the value of a member in brackets or braces, which may be missing. -/
def flowValue (stops : List Token) : Nat → Read Node
  | 0 => refuse
  | fuel + 1 => do
    if ← isNext [.value] then
      advance
      optional false false stops fuel
    else return emptyNode

end

def directives (hasVersion : Bool) (handles : List (List Char × List Char)) :
    List Token → Option (List (List Char × List Char) × List Token)
  | .version major minor :: rest =>
    if hasVersion ∨ major ≠ 1 ∨ (minor ≠ 1 ∧ minor ≠ 2) then none
    else directives true handles rest
  | .tagHandle handle expansion :: rest =>
    if (handles.lookup handle).isSome then none
    else directives hasVersion ((handle, expansion) :: handles) rest
  | rest => some (handles, rest)

/-- Reads the node of a document, or nothing. -/
def content (fuel : Nat) : Read Node := do
  match ← peek with
  | none | some .documentEnd | some .documentStart => return emptyNode
  | _ => node true false fuel

/-- Reads a document and nothing behind it. -/
def document (tokens : List Token) : Option Node := do
  let (handles, rest) ← directives false [] tokens
  let isExplicit := rest.head? = some .documentStart
  guard (isExplicit ∨ rest.length = tokens.length)
  let body := if isExplicit then rest.tail else rest
  guard (isExplicit ∨ body.head? ≠ some .documentEnd)
  let (v, r) ← (content (8 * tokens.length + 8)).run
    { tokens := body, handles := handles ++ standardHandles }
  guard (r.tokens.dropWhile (· == .documentEnd) = [])
  return v

end Read

def read? (text : List Char) : Option Node := (tokens? text).bind Read.document

end Tabular.Yaml
