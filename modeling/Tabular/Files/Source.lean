import Tabular.Files.Path

/-!
# Sources of files

Whatever holds the files of a model answers four questions about paths. An answer about a file's
text can fail although the file exists.
-/

namespace Tabular

/-- The answers of a store of files. -/
structure Source where
  isDirectory : Path → Bool
  isFile : Path → Bool
  /-- The files directly inside a directory, in order of their names. -/
  filesIn : Path → List Path
  /-- The text of a file that can be read. -/
  read? : Path → Option (List Char)

namespace Source

/-- The files directly inside a directory whose names have an extension. -/
def filesWith (s : Source) (dir : Path) (extension : String) : List Path :=
  (s.filesIn dir).filter (·.hasExtension extension)

def textOf? (s : Source) (p : Path) : Option (List Char) :=
  if s.isFile p then s.read? p else none

end Source

end Tabular
