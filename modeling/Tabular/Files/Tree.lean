import Tabular.Encoding.Decode
import Tabular.Files.Source

/-!
# Directory trees

A tree of directories and files with their octets, seen from its top directory. What a path leads
to is found step by step: each step starts from a directory, and a path may leave the tree, where
there are directories but nothing in them is known.
-/

namespace Tabular

/-- Why a file cannot be read as text. -/
inductive ReadFault where
  | missing
  | notDirectory
  | isDirectory
  | notUtf8
  deriving DecidableEq, Repr

def ReadFault.message : ReadFault → String
  | missing => "No such file or directory (os error 2)"
  | notDirectory => "Not a directory (os error 20)"
  | isDirectory => "Is a directory (os error 21)"
  | notUtf8 => "stream did not contain valid UTF-8"

/-- Files and directories by the names that lead to them. -/
structure Tree where
  files : List (List (List Char) × List UInt8) := []
  directories : List (List (List Char)) := []
  deriving DecidableEq, Repr

/-- Where a path leads. -/
inductive Place where
  /-- A directory outside of the tree. -/
  | outside
  /-- A file or directory of the tree, by the names that lead to it. -/
  | inside (names : List (List Char))
  deriving DecidableEq, Repr

namespace Tree

def bytes? (t : Tree) (names : List (List Char)) : Option (List UInt8) := t.files.lookup names

/-- The names lead to a directory: the top, a directory by itself, or one that something is in. -/
def hasDirectory (t : Tree) (names : List (List Char)) : Bool :=
  names.isEmpty || t.directories.any (names.isPrefixOf ·) ||
    t.files.any fun f => names.isPrefixOf f.1 && f.1 != names

def walk (t : Tree) (place : Place) : List (List Char) → Except ReadFault Place
  | [] =>
    match place with
    | .outside => .ok .outside
    | .inside names =>
      if t.hasDirectory names || (t.bytes? names).isSome then .ok place else .error .missing
  | piece :: rest =>
    match place with
    | .outside =>
      if piece = [] ∨ piece = ['.'] ∨ piece = ['.', '.'] then walk t .outside rest
      else .error .missing
    | .inside names =>
      if t.hasDirectory names then
        if piece = [] ∨ piece = ['.'] then walk t place rest
        else if piece = ['.', '.'] then
          walk t (if names.isEmpty then .outside else .inside names.dropLast) rest
        else walk t (.inside (names ++ [piece])) rest
      else if (t.bytes? names).isSome then .error .notDirectory
      else .error .missing

/-- Where a path leads, if there is something. -/
def resolve (t : Tree) (p : Path) : Except ReadFault Place :=
  if p.text.isEmpty then .error .missing
  else t.walk (if p.isAbsolute then .outside else .inside []) p.pieces

def isDirectory (t : Tree) (p : Path) : Bool :=
  match t.resolve p with
  | .ok .outside => true
  | .ok (.inside names) => t.hasDirectory names
  | .error _ => false

def readBytes (t : Tree) (p : Path) : Except ReadFault (List UInt8) :=
  match t.resolve p with
  | .ok .outside => .error .isDirectory
  | .ok (.inside names) =>
    match t.bytes? names with
    | some bytes => .ok bytes
    | none => .error .isDirectory
  | .error fault => .error fault

def isFile (t : Tree) (p : Path) : Bool := (t.readBytes p).isOk

def hasEntry (t : Tree) (p : Path) : Bool := (t.resolve p).isOk

/-- Puts a name in its place, in the order of code points. -/
def insertName (name : List Char) : List (List Char) → List (List Char)
  | [] => [name]
  | n :: ns => if name < n then name :: n :: ns else n :: insertName name ns

def fileNames (t : Tree) (dir : List (List Char)) : List (List Char) :=
  let names := t.files.filterMap fun f =>
    if f.1.dropLast = dir then f.1.getLast? else none
  names.foldl (fun sorted n => insertName n sorted) []

/-- Adds or replaces a file. -/
def insert (t : Tree) (p : Path) (bytes : List UInt8) : Tree :=
  let names := p.steps.filterMap fun s => match s with
    | .name n => some n
    | _ => none
  { t with files := (t.files.filter (·.1 != names)) ++ [(names, bytes)] }

def insertDirectory (t : Tree) (p : Path) : Tree :=
  let names := p.steps.filterMap fun s => match s with
    | .name n => some n
    | _ => none
  { t with directories := names :: t.directories }

def toSource (t : Tree) : Source where
  isDirectory := t.isDirectory
  isFile := t.isFile
  filesIn dir :=
    match t.resolve dir with
    | .ok (.inside names) => (t.fileNames names).map fun n => dir.join ⟨n⟩
    | _ => []
  read? p := (t.readBytes p).toOption.map Encoding.decode

end Tree

end Tabular
