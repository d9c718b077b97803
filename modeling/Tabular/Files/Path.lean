import Tabular.Text.Ascii
import Tabular.Text.Lines

/-!
# Paths

A path is a text whose names stand between slashes. Empty names and single dots do not matter for
where it leads, except that a leading dot is kept; a double dot is a step of its own. Two paths are
compared step by step.
-/

namespace Tabular

open Text

/-- One step of a path. -/
inductive Step where
  /-- The slash in front of an absolute path. -/
  | root
  /-- The single dot in front of a relative path. -/
  | here
  | parent
  | name (text : List Char)
  deriving DecidableEq, Repr

namespace Step

def rank : Step → Nat
  | root => 0
  | here => 1
  | parent => 2
  | name _ => 3

/-- The order of steps; names are in the order of their code points. -/
def lt : Step → Step → Bool
  | name s, name t => decide (s < t)
  | a, b => decide (a.rank < b.rank)

/-- The order of step lists: the first difference decides, and a beginning comes before its
continuations. -/
def listLt : List Step → List Step → Bool
  | _, [] => false
  | [], _ :: _ => true
  | a :: as, b :: bs => if a = b then listLt as bs else a.lt b

end Step

/-- A path as it was written. -/
structure Path where
  text : List Char
  deriving DecidableEq, Repr

namespace Path

def ofString (s : String) : Path := ⟨s.toList⟩

def toString (p : Path) : String := String.ofList p.text

def pieces (p : Path) : List (List Char) := splitOn (· == '/') p.text

def isAbsolute (p : Path) : Bool := p.text.head? == some '/'

/-- The step that a piece stands for; an empty piece and a single dot stand for none. -/
def stepOf? (piece : List Char) : Option Step :=
  if piece = [] ∨ piece = ['.'] then none
  else if piece = ['.', '.'] then some .parent
  else some (.name piece)

/-- What the path begins with, besides its names. -/
def lead (p : Path) : List Step :=
  if p.isAbsolute then [.root]
  else if p.pieces.head? = some ['.'] then [.here]
  else []

def steps (p : Path) : List Step := p.lead ++ p.pieces.filterMap stepOf?

/-- The last name of a path; a path that ends in a double dot, or is only a root or a dot, has
none. -/
def fileName? (p : Path) : Option (List Char) :=
  match p.steps.getLast? with
  | some (.name n) => some n
  | _ => none

/-- A file name at its last dot: the stem and the extension. A dot in front is part of the stem. -/
def splitName (name : List Char) : List Char × Option (List Char) :=
  let extension := (name.reverse.takeWhile (· != '.')).reverse
  let stem := (name.reverse.dropWhile (· != '.')).tail.reverse
  if name.contains '.' ∧ stem ≠ [] then (stem, some extension) else (name, none)

/-- The extension of the last name. -/
def extension? (p : Path) : Option (List Char) := p.fileName?.bind fun n => (splitName n).2

/-- The last name has this extension, up to the case of ASCII letters. -/
def hasExtension (p : Path) (extension : String) : Bool :=
  match p.extension? with
  | some e => eqIgnoreCase (String.ofList e) extension
  | none => false

/-- Pieces from the last one, without those that stand for no step. -/
def dropIdle : List (List Char) → List (List Char)
  | [] => []
  | piece :: rest => if piece = [] ∨ piece = ['.'] then dropIdle rest else piece :: rest

/-- The path ends with its last name, without a slash or a dot behind it. -/
def endsWithName (p : Path) : Bool := p.pieces.getLast? == p.fileName?

/-- The last name of a path without its extension. Where only one dot would be left, the dot in front
of the extension stays with it, unless something idle follows the name. -/
def stem (p : Path) (name : List Char) : List Char :=
  let stem := (splitName name).1
  if stem = ['.'] ∧ p.endsWithName then ['.', '.'] else stem

/-- The path without the extension of its last name and without what follows that name. A path
without a last name stays as it is. -/
def withoutExtension (p : Path) : Path :=
  match p.fileName?, dropIdle p.pieces.reverse with
  | some name, _ :: before => ⟨joinWith ['/'] (before.reverse ++ [p.stem name])⟩
  | _, _ => p

/-- The path of something inside a directory. An absolute path replaces the directory. -/
def join (dir inner : Path) : Path :=
  if inner.isAbsolute then inner
  else if dir.text = [] ∨ dir.text.getLast? = some '/' then ⟨dir.text ++ inner.text⟩
  else ⟨dir.text ++ '/' :: inner.text⟩

def append (p : Path) (suffix : String) : Path := ⟨p.text ++ suffix.toList⟩

def same (p q : Path) : Bool := p.steps == q.steps

/-- `q` leads strictly below `p`. -/
def isAbove (p q : Path) : Bool := p.steps.isPrefixOf q.steps && p.steps != q.steps

/-- `q` leads to something directly inside the directory `p`. -/
def isParentOf (p q : Path) : Bool :=
  match q.steps.reverse with
  | [] => false
  | .root :: _ => false
  | _ :: before => before.reverse == p.steps

end Path

end Tabular
