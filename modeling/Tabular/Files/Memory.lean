import Tabular.Files.Source

/-!
# Files in memory

A list of named texts in the order of their paths. A directory exists exactly if some file lies
below it. A file may be broken: it is there, but it has no text to give.
-/

namespace Tabular

/-- A file that is held in memory; a broken one has no text. -/
structure MemoryFile where
  path : Path
  text : Option (List Char)
  deriving DecidableEq, Repr

/-- Files in the order of their paths, no two of which lead the same way. -/
structure Memory where
  files : List MemoryFile := []
  deriving DecidableEq, Repr

namespace Memory

/-- Puts a file in its place; one that was there before is replaced. -/
def place (f : MemoryFile) : List MemoryFile → List MemoryFile
  | [] => [f]
  | g :: gs =>
    if f.path.same g.path then ⟨g.path, f.text⟩ :: gs
    else if Step.listLt f.path.steps g.path.steps then f :: g :: gs
    else g :: place f gs

/-- Adds or replaces a file. -/
def insert (m : Memory) (p : Path) (text : Option (List Char)) : Memory :=
  ⟨place ⟨p, text⟩ m.files⟩

def find? (m : Memory) (p : Path) : Option MemoryFile := m.files.find? (·.path.same p)

def toSource (m : Memory) : Source where
  isDirectory p := m.files.any (p.isAbove ·.path)
  isFile p := (m.find? p).isSome
  filesIn dir := (m.files.map (·.path)).filter dir.isParentOf
  read? p := (m.find? p).bind (·.text)

end Memory

end Tabular
