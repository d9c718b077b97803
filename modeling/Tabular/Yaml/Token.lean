import Tabular.Yaml.Scalar

/-!
# Tokens of a YAML document

The tokens make the structure that indentation gives explicit: the beginnings and ends of sequences
and mappings, and the keys. A key without a mark of its own is recognised by the colon behind it; its
token, and the one that opens its mapping, are then put where the key began.
-/

namespace Tabular.Yaml

/-- The handle and the rest of a tag. -/
structure Tag where
  handle : List Char
  suffix : List Char
  deriving DecidableEq, Repr

/-- The ways to write a text that matter for its readings. -/
inductive TextStyle where
  | plain
  | quoted
  | literal
  | folded
  deriving DecidableEq, Repr

/-- The tokens of a document. -/
inductive Token where
  | version (major minor : Nat)
  | tagHandle (handle expansion : List Char)
  | documentStart
  | documentEnd
  | sequenceStart
  | mappingStart
  | blockEnd
  | flowSequenceStart
  | flowSequenceEnd
  | flowMappingStart
  | flowMappingEnd
  | entry
  | comma
  | key
  | value
  | alias (name : List Char)
  | anchor (name : List Char)
  | tag (t : Tag)
  | text (style : TextStyle) (s : List Char)
  deriving DecidableEq, Repr

/-- A place where a key may have begun. -/
structure KeyStart where
  /-- The number of tokens before it. -/
  before : Nat
  /-- Nothing but a key can stand there. -/
  isRequired : Bool
  line : Nat
  column : Nat
  /-- How much of the document was left. -/
  left : Nat
  deriving DecidableEq, Repr

/-- The tokens so far and what decides about the next one. -/
structure Scan where
  cursor : Cursor
  tokens : List Token := []
  /-- Where a key may have begun, for each open bracket and outside of all. -/
  starts : List (Option KeyStart) := [none]
  /-- A key without a mark may begin here. -/
  keyAllowed : Bool := true
  /-- The column of the innermost block; outside of all it is −1. -/
  indent : Int := -1
  outer : List Int := []
  deriving Repr

namespace Scan

def inFlow (s : Scan) : Bool := 1 < s.starts.length

def push (s : Scan) (t : Token) : Scan := { s with tokens := s.tokens ++ [t] }

def pushAt (s : Scan) (before : Nat) (t : Token) : Scan :=
  { s with tokens := s.tokens.take before ++ t :: s.tokens.drop before }

def skip (s : Scan) (n : Nat) : Scan := { s with cursor := s.cursor.skip n }

/-- A key that began too far away, or on another line, is none. -/
def dropStale (s : Scan) : Option Scan := do
  let starts ← s.starts.mapM fun start =>
    match start with
    | none => some none
    | some k =>
      if k.line < s.cursor.line ∨ s.cursor.rest.length + 1024 < k.left then
        if k.isRequired then none else some none
      else some (some k)
  return { s with starts := starts }

def forgetKey (s : Scan) : Option Scan :=
  match s.starts with
  | some k :: outer => if k.isRequired then none else some { s with starts := none :: outer }
  | _ => some s

def saveKey (s : Scan) : Option Scan :=
  if s.keyAllowed then do
    let s ← s.forgetKey
    let k : KeyStart :=
      { before := s.tokens.length
        isRequired := !s.inFlow && s.indent == (s.cursor.column : Int)
        line := s.cursor.line
        column := s.cursor.column
        left := s.cursor.rest.length }
    return { s with starts := some k :: s.starts.tail }
  else some s

/-- Opens a block if the column is deeper than the innermost one. -/
def roll (s : Scan) (column before : Nat) (opening : Token) : Scan :=
  if !s.inFlow && s.indent < (column : Int) then
    { s.pushAt before opening with indent := column, outer := s.indent :: s.outer }
  else s

def unrollFrom (column : Int) (tokens : List Token) (indent : Int) :
    List Int → List Token × Int × List Int
  | [] => (tokens, indent, [])
  | i :: outer =>
    if column < indent then unrollFrom column (tokens ++ [.blockEnd]) i outer
    else (tokens, indent, i :: outer)

/-- Closes the blocks that are deeper than a column, outside of brackets. -/
def unroll (s : Scan) (column : Int) : Scan :=
  if s.inFlow then s
  else
    let r := unrollFrom column s.tokens s.indent s.outer
    { s with tokens := r.1, indent := r.2.1, outer := r.2.2 }

/-- Goes on over blanks, comments and line ends. Where a key may begin outside of brackets, tabs are
no blanks. -/
def skipSpace (s : Scan) : Nat → Scan
  | 0 => s
  | fuel + 1 =>
    match s.cursor.rest with
    | c :: _ =>
      if c = ' ' ∨ (c = '\t' ∧ (s.inFlow ∨ !s.keyAllowed)) then (s.skip 1).skipSpace fuel
      else if c.toNat = 0xFEFF ∧ s.cursor.column = 0 then (s.skip 1).skipSpace fuel
      else if c = '#' then
        let p := s.cursor.skipWhile (!isBreak ·)
        if p.rest = [] then { s with cursor := p } else ({ s with cursor := p }).skipSpace fuel
      else if isBreak c then
        ({ s with cursor := s.cursor.skipBreak, keyAllowed := s.keyAllowed || !s.inFlow }).skipSpace
          fuel
      else s
    | [] => s

def readNumber? (s : List Char) : Option (Nat × List Char) :=
  let ds := s.takeWhile (·.isDigit)
  if ds.length ≤ 9 then (Text.readNat? ds).map (·, s.dropWhile (·.isDigit)) else none

def readDirective? (name text : List Char) : Option (Token × List Char) := do
  let text := text.dropWhile isBlank
  if name = "YAML".toList then
    match ← readNumber? text with
    | (major, '.' :: rest) =>
      let (minor, rest) ← readNumber? rest
      return (.version major minor, rest)
    | _ => none
  else if name = "TAG".toList then
    let handle := text.takeWhile (!isBlank ·)
    let expansion := (text.dropWhile (!isBlank ·)).dropWhile isBlank
    let word := expansion.takeWhile fun c => !isBlank c && !isBreak c
    guard (handle.head? = some '!' ∧ handle.getLast? = some '!' ∧ word ≠ [] ∧
      (handle.drop 1).dropLast.all isNameChar)
    return (.tagHandle handle word, expansion.drop word.length)
  else none

def fetchDirective (s : Scan) : Option Scan := do
  let s ← (s.unroll (-1)).forgetKey
  let line := (s.cursor.rest.drop 1).takeWhile (!isBreak ·)
  let name := line.takeWhile isNameChar
  let rest := line.drop name.length
  guard (atGap rest)
  let (t, tail) ← readDirective? name rest
  guard (atGap tail ∧ (tail.dropWhile isBlank).head?.all (· == '#'))
  return { s.push t with cursor := s.cursor.skip (line.length + 1), keyAllowed := false }

def fetchMarker (s : Scan) (t : Token) : Option Scan := do
  let s ← (s.unroll (-1)).forgetKey
  return { (s.push t).skip 3 with keyAllowed := false }

def fetchOpening (s : Scan) (t : Token) : Option Scan := do
  let s ← s.saveKey
  return { (s.push t).skip 1 with starts := none :: s.starts, keyAllowed := true }

def fetchClosing (s : Scan) (t : Token) : Option Scan := do
  let s ← s.forgetKey
  let starts := if s.inFlow then s.starts.tail else s.starts
  return { (s.push t).skip 1 with starts := starts, keyAllowed := false }

def fetchComma (s : Scan) : Option Scan := do
  let s ← s.forgetKey
  return { (s.push .comma).skip 1 with keyAllowed := true }

def fetchEntry (s : Scan) : Option Scan := do
  guard (s.inFlow ∨ s.keyAllowed)
  let s ← (s.roll s.cursor.column s.tokens.length .sequenceStart).forgetKey
  return { (s.push .entry).skip 1 with keyAllowed := true }

def fetchKey (s : Scan) : Option Scan := do
  guard (s.inFlow ∨ s.keyAllowed)
  let s ← (s.roll s.cursor.column s.tokens.length .mappingStart).forgetKey
  return { (s.push .key).skip 1 with keyAllowed := !s.inFlow }

def fetchValue (s : Scan) : Option Scan :=
  match s.starts with
  | some k :: outer =>
    let s := (s.pushAt k.before .key).roll k.column k.before .mappingStart
    some { (s.push .value).skip 1 with starts := none :: outer, keyAllowed := false }
  | _ => do
    guard (s.inFlow ∨ s.keyAllowed)
    let s := s.roll s.cursor.column s.tokens.length .mappingStart
    return { (s.push .value).skip 1 with keyAllowed := !s.inFlow }

/-- Reads the name of an anchor or of a reference to one. -/
def fetchName (s : Scan) (token : List Char → Token) : Option Scan := do
  let s ← s.saveKey
  let name := (s.cursor.rest.drop 1).takeWhile isNameChar
  let rest := s.cursor.rest.drop (name.length + 1)
  let ends := ['?', ':', ',', ']', closeBrace, '%', '@', Char.ofNat 0x60]
  guard (name ≠ [] ∧ (atGap rest ∨ rest.head?.any ends.contains))
  return { (s.push (token name)).skip (name.length + 1) with keyAllowed := false }

def isTagChar (c : Char) : Bool := isNameChar c || ";/?:@&=+$.!~*'()%".toList.contains c

def readTag? (s : List Char) : Option (Tag × List Char) :=
  match s with
  | '!' :: '<' :: rest =>
    let p (c : Char) : Bool := isTagChar c || c == ',' || c == '[' || c == ']'
    let suffix := rest.takeWhile p
    match rest.drop suffix.length with
    | '>' :: rest => if suffix = [] then none else some (⟨[], suffix⟩, rest)
    | _ => none
  | '!' :: rest =>
    let name := rest.takeWhile isNameChar
    match rest.drop name.length with
    | '!' :: rest =>
      let suffix := rest.takeWhile isTagChar
      if suffix = [] then none
      else some (⟨'!' :: name ++ ['!'], suffix⟩, rest.drop suffix.length)
    | _ =>
      let suffix := rest.takeWhile isTagChar
      let rest := rest.drop suffix.length
      if suffix = [] then some (⟨[], ['!']⟩, rest) else some (⟨['!'], suffix⟩, rest)
  | _ => none

def fetchTag (s : Scan) : Option Scan := do
  let s ← s.saveKey
  let (t, rest) ← readTag? s.cursor.rest
  guard (atGap rest ∨ (s.inFlow ∧ rest.head? = some ','))
  let n := s.cursor.rest.length - rest.length
  return { (s.push (.tag t)).skip n with keyAllowed := false }

def fetchBlock (s : Scan) (isLiteral : Bool) : Option Scan := do
  let s ← s.forgetKey
  let (text, p) ← readBlock isLiteral s.indent (s.cursor.skip 1)
  let style : TextStyle := if isLiteral then .literal else .folded
  return { s.push (.text style text) with cursor := p, keyAllowed := true }

def fetchQuoted (s : Scan) (isSingle : Bool) : Option Scan := do
  let s ← s.saveKey
  let p := s.cursor.skip 1
  let (text, p) ←
    if isSingle then readSingle [] .nothing p.line p.column p.rest
    else readDouble [] .nothing .nothing p.line p.column p.rest
  return { s.push (.text .quoted text) with cursor := p, keyAllowed := false }

def fetchPlain (s : Scan) : Option Scan := do
  let s ← s.saveKey
  let p := s.cursor
  let e ← readPlain s.inFlow (s.indent + 1) [] .nothing p.line p.column p.rest
  return { s.push (.text .plain e.text) with cursor := e.cursor, keyAllowed := e.hasBreak }

def startsPlain (inFlow : Bool) (c : Char) (rest : List Char) : Bool :=
  if c == '-' then !(rest.head?.any isBlank)
  else if c == '?' || c == ':' then !inFlow && !atGap rest
  else !(isFlowMark c || "#&*!|>'\"%@".toList.contains c || c.toNat == 0x60)

/-- Reads the next token, if there is one. -/
def fetch (s : Scan) (c : Char) (rest : List Char) : Option Scan :=
  let atLineStart := s.cursor.column = 0
  if atLineStart ∧ c = '%' then s.fetchDirective
  else if atLineStart ∧ atMarker '-' (c :: rest) then s.fetchMarker .documentStart
  else if atLineStart ∧ atMarker '.' (c :: rest) then s.fetchMarker .documentEnd
  else if c = '[' then s.fetchOpening .flowSequenceStart
  else if c = openBrace then s.fetchOpening .flowMappingStart
  else if c = ']' then s.fetchClosing .flowSequenceEnd
  else if c = closeBrace then s.fetchClosing .flowMappingEnd
  else if c = ',' then s.fetchComma
  else if c = '-' ∧ atGap rest then s.fetchEntry
  else if c = '?' ∧ (s.inFlow ∨ atGap rest) then s.fetchKey
  else if c = ':' ∧ (s.inFlow ∨ atGap rest) then s.fetchValue
  else if c = '*' then s.fetchName .alias
  else if c = '&' then s.fetchName .anchor
  else if c = '!' then s.fetchTag
  else if c = '|' ∧ !s.inFlow then s.fetchBlock true
  else if c = '>' ∧ !s.inFlow then s.fetchBlock false
  else if c = '\'' then s.fetchQuoted true
  else if c = '"' then s.fetchQuoted false
  else if startsPlain s.inFlow c rest then s.fetchPlain
  else none

def run (s : Scan) : Nat → Option (List Token)
  | 0 => none
  | fuel + 1 => do
    let s ← (s.skipSpace (s.cursor.rest.length + 1)).dropStale
    let s := s.unroll s.cursor.column
    match s.cursor.rest with
    | [] =>
      let s ← (s.unroll (-1)).forgetKey
      return s.tokens
    | c :: rest =>
      let s ← s.fetch c rest
      s.run fuel

end Scan

/-- The tokens of a document. A byte order mark in front of it is no part of it. -/
def tokens? (text : List Char) : Option (List Token) :=
  let s := unifyBreaks text
  if s.all isAllowed then ({ cursor := ⟨s, 0, 0⟩ } : Scan).run (s.length + 1) else none

end Tabular.Yaml
