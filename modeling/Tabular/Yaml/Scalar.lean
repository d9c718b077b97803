import Tabular.Text.Integer
import Tabular.Yaml.Cursor

/-!
# Texts in YAML

A text is written plainly, between quotes, or as a block of indented lines. Over several lines a
single line end counts as a blank, and further ones as line ends.
-/

namespace Tabular.Yaml

/-- Blanks and line ends between two characters of a text. -/
inductive Gap where
  | nothing
  /-- Blanks of one line, in reverse. -/
  | blanks (done : List Char)
  /-- The first line end, unless it is escaped, and the further ones. -/
  | breaks (first : Option Char) (more : List Char)
  deriving DecidableEq, Repr

namespace Gap

def text : Gap → List Char
  | nothing => []
  | blanks done => done.reverse
  | breaks (some '\n') [] => [' ']
  | breaks (some '\n') more => more
  | breaks first more => first.toList ++ more

def hasBreak : Gap → Bool
  | breaks _ _ => true
  | _ => false

/-- The gap with one more blank. Blanks at the beginning of a line do not count. -/
def addBlank (c : Char) : Gap → Gap
  | nothing => blanks [c]
  | blanks done => blanks (c :: done)
  | breaks first more => breaks first more

/-- The gap with one more line end. Blanks before it do not count. -/
def addBreak (c : Char) : Gap → Gap
  | breaks first more => breaks first (more ++ [c])
  | _ => breaks (some c) []

end Gap

/-- Where a text ended and whether a line ended behind it. -/
structure PlainEnd where
  text : List Char
  cursor : Cursor
  hasBreak : Bool
  deriving DecidableEq, Repr

/-- Reads a plain text. It ends where a value, a comment, a marker between documents or a line with
less than the given indentation begins, and between brackets also at their marks. The characters so
far are in reverse. -/
def readPlain (inFlow : Bool) (indent : Int) (done : List Char) (gap : Gap) (line column : Nat) :
    List Char → Option PlainEnd
  | [] => some ⟨done.reverse, ⟨[], line, column⟩, gap.hasBreak⟩
  | c :: rest =>
    let here : PlainEnd := ⟨done.reverse, ⟨c :: rest, line, column⟩, gap.hasBreak⟩
    if isBlank c then
      if gap.hasBreak ∧ (column : Int) < indent ∧ c = '\t' then none
      else readPlain inFlow indent done (gap.addBlank c) line (column + 1) rest
    else if isBreak c then readPlain inFlow indent done (gap.addBreak c) (line + 1) 0 rest
    else if gap ≠ .nothing ∧ (c = '#' ∨ here.cursor.atDocument ∨
        (!inFlow ∧ (column : Int) < indent)) then some here
    else if inFlow ∧ c = ':' ∧ (rest.head?.any fun d => isFlowMark d || d == '?') then none
    else if c = ':' ∧ atGap rest then some here
    else if inFlow ∧ isFlowMark c then some here
    else readPlain inFlow indent (c :: gap.text.reverse ++ done) .nothing line (column + 1) rest

def hexValue? (c : Char) : Option Nat :=
  if '0' ≤ c ∧ c ≤ '9' then some (c.toNat - 48)
  else if 'a' ≤ c ∧ c ≤ 'f' then some (c.toNat - 87)
  else if 'A' ≤ c ∧ c ≤ 'F' then some (c.toNat - 55)
  else none

/-- The character that stands for itself behind a backslash, or for which a letter stands. -/
def escaped? (c : Char) : Option Char :=
  let codes : List (Char × Nat) := [
    ('0', 0), ('a', 7), ('b', 8), ('t', 9), ('\t', 9), ('n', 10), ('v', 11), ('f', 12), ('r', 13),
    ('e', 27), (' ', 32), ('"', 34), ('/', 47), ('\\', 92), ('N', 0x85), ('_', 0xA0),
    ('L', 0x2028), ('P', 0x2029)]
  (codes.lookup c).map Char.ofNat

/-- The number of hexadecimal digits that a letter announces behind a backslash. -/
def codeLength? : Char → Option Nat
  | 'x' => some 2
  | 'u' => some 4
  | 'U' => some 8
  | _ => none

/-- What has begun between double quotes. -/
inductive Escape where
  | nothing
  | begun
  /-- A code point: the digits that are missing and the value so far. -/
  | code (missing value : Nat)
  deriving DecidableEq, Repr

/-- Reads a text between double quotes behind the opening one. -/
def readDouble (done : List Char) (gap : Gap) (escape : Escape) (line column : Nat) :
    List Char → Option (List Char × Cursor)
  | [] => none
  | c :: rest =>
    match escape with
    | .begun =>
      if isBreak c then readDouble done (.breaks none []) .nothing (line + 1) 0 rest
      else
        match codeLength? c, escaped? c with
        | some n, _ => readDouble done .nothing (.code n 0) line (column + 1) rest
        | none, some e => readDouble (e :: done) .nothing .nothing line (column + 1) rest
        | none, none => none
    | .code missing value =>
      match hexValue? c with
      | none => none
      | some d =>
        let value := value * 16 + d
        if missing = 1 then
          if value < 0xD800 ∨ (0xE000 ≤ value ∧ value < 0x110000) then
            readDouble (Char.ofNat value :: done) .nothing .nothing line (column + 1) rest
          else none
        else readDouble done .nothing (.code (missing - 1) value) line (column + 1) rest
    | .nothing =>
      let done' := gap.text.reverse ++ done
      if isBlank c then readDouble done (gap.addBlank c) .nothing line (column + 1) rest
      else if isBreak c then readDouble done (gap.addBreak c) .nothing (line + 1) 0 rest
      else if gap ≠ .nothing ∧ (Cursor.mk (c :: rest) line column).atDocument then none
      else if c = '"' then some (done'.reverse, ⟨rest, line, column + 1⟩)
      else if c = '\\' then readDouble done' .nothing .begun line (column + 1) rest
      else readDouble (c :: done') .nothing .nothing line (column + 1) rest

/-- Reads a text between single quotes behind the opening one. A quote inside is written twice. -/
def readSingle (done : List Char) (gap : Gap) (line column : Nat) :
    List Char → Option (List Char × Cursor)
  | [] => none
  | '\'' :: '\'' :: rest =>
    readSingle ('\'' :: gap.text.reverse ++ done) .nothing line (column + 2) rest
  | c :: rest =>
    let done' := gap.text.reverse ++ done
    if isBlank c then readSingle done (gap.addBlank c) line (column + 1) rest
    else if isBreak c then readSingle done (gap.addBreak c) (line + 1) 0 rest
    else if gap ≠ .nothing ∧ (Cursor.mk (c :: rest) line column).atDocument then none
    else if c = '\'' then some (done'.reverse, ⟨rest, line, column + 1⟩)
    else readSingle (c :: done') .nothing line (column + 1) rest

/-- What happens to the line ends behind a block. -/
inductive Chomping where
  | clip
  | keep
  | strip
  deriving DecidableEq, Repr

/-- Reads the marks behind the one that begins a block: what happens to the last line ends, and how
much the block is indented beyond its surroundings. -/
def readBlockHeader (s : List Char) : Option (Chomping × Option Nat × List Char) :=
  let digit (c : Char) : Option Nat :=
    if '1' ≤ c ∧ c ≤ '9' then some (c.toNat - 48) else none
  let chomping : Char → Option Chomping
    | '+' => some .keep
    | '-' => some .strip
    | _ => none
  match s with
  | '0' :: _ => none
  | a :: rest =>
    match chomping a, digit a with
    | some k, _ =>
      match rest with
      | '0' :: _ => none
      | b :: rest' =>
        match digit b with
        | some n => some (k, some n, rest')
        | none => some (k, none, rest)
      | [] => some (k, none, [])
    | none, some n =>
      match rest with
      | b :: rest' =>
        match chomping b with
        | some k => some (k, some n, rest')
        | none => some (.clip, some n, rest)
      | [] => some (.clip, some n, [])
    | none, none => some (.clip, none, s)
  | [] => some (.clip, none, [])

/-- Reads empty lines and the indentation of the next line. Without a known indentation the deepest
column counts; a tab is no indentation. -/
def readBlockBreaks (indent : Option Nat) (deepest : Nat) (breaks : List Char) (line column : Nat) :
    List Char → Option (List Char × Nat × Cursor)
  | [] => some (breaks.reverse, max deepest column, ⟨[], line, column⟩)
  | c :: rest =>
    let isBefore := indent.all (column < ·)
    if isBefore ∧ c = ' ' then readBlockBreaks indent deepest breaks line (column + 1) rest
    else if isBefore ∧ c = '\t' then none
    else if isBreak c then
      readBlockBreaks indent (max deepest column) (c :: breaks) (line + 1) 0 rest
    else some (breaks.reverse, max deepest column, ⟨c :: rest, line, column⟩)

/-- Reads the lines of a block. `leading` is the end of the last line and `more` the empty lines
behind it; `wasBlank` tells that the last line began with a blank. -/
def readBlockLines (isLiteral : Bool) (chomping : Chomping) (indent : Nat) (done : List Char)
    (leading more : List Char) (wasBlank : Bool) (p : Cursor) :
    Nat → Option (List Char × Cursor)
  | 0 => none
  | fuel + 1 =>
    match p.rest with
    | c :: _ =>
      if p.column = indent then
        let isFolded := !isLiteral && leading == ['\n'] && !wasBlank && !isBlank c
        let between :=
          if isFolded then (if more = [] then [' '] else []) ++ more else leading ++ more
        let content := p.rest.takeWhile (!isBreak ·)
        let q := p.skip content.length
        let leading := q.rest.take 1
        let q := if q.rest = [] then q else q.skipBreak
        match readBlockBreaks (some indent) 0 [] q.line q.column q.rest with
        | some (more, _, q) =>
          readBlockLines isLiteral chomping indent (done ++ between ++ content) leading more
            (isBlank c) q fuel
        | none => none
      else some (ending p)
    | [] => some (ending p)
where
  /-- The text with the line ends that stay. -/
  ending (p : Cursor) : List Char × Cursor :=
    (done ++ (if chomping = .strip then [] else leading) ++
      (if chomping = .keep then more else []), p)

/-- Reads a block behind the mark that begins it. `indent` is the indentation around it. -/
def readBlock (isLiteral : Bool) (indent : Int) (p : Cursor) : Option (List Char × Cursor) := do
  let (chomping, extra, rest) ← readBlockHeader p.rest
  let p := p.skip (p.rest.length - rest.length)
  let p := p.skipWhile isBlank
  let p := if p.rest.head? = some '#' then p.skipWhile (!isBreak ·) else p
  guard (atLineEnd p.rest)
  let p := if p.rest = [] then p else p.skipBreak
  let known := extra.map fun n => if 0 ≤ indent then indent.toNat + n else n
  let (breaks, deepest, p) ← readBlockBreaks known 0 [] p.line p.column p.rest
  let indent := known.getD (max deepest (max (indent + 1).toNat 1))
  readBlockLines isLiteral chomping indent [] [] breaks false p (p.rest.length + 1)

end Tabular.Yaml
