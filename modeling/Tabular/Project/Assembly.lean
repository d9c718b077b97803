import Tabular.Config.Settings
import Tabular.Files.Source
import Tabular.Model.Basic
import Tabular.Tmdl.ModelName
import Tabular.Tmdl.Relationship
import Tabular.Tmdl.Table

/-!
# Assembling a project

The files of a model lie in a directory whose name is that of the project file without its extension
and with a suffix. Only this directory has to exist: a file that is missing or cannot be read leaves
the model as if there were none.
-/

namespace Tabular

/-- A model with the paths that it was loaded by. -/
structure Project where
  sourcePath : String
  modelPath : String
  model : SemanticModel
  deriving DecidableEq, Repr

namespace Layout

/-- The directory of the model that belongs to a project file. -/
def modelDir (l : Layout) (sourcePath : String) : Path :=
  (Path.ofString sourcePath).withoutExtension.append l.modelDirSuffix

def definitionIn (l : Layout) (modelDir : Path) : Path := modelDir.join (.ofString l.definitionDir)

def tablesIn (l : Layout) (definition : Path) : Path := definition.join (.ofString l.tablesDir)

def modelFileIn (l : Layout) (definition : Path) : Path := definition.join (.ofString l.modelFile)

def relationshipsIn (l : Layout) (definition : Path) : Path :=
  definition.join (.ofString l.relationshipsFile)

/-- The name that the model gives itself, or else the default name. -/
def readName (l : Layout) (s : Source) (definition : Path) : String :=
  ((s.textOf? (l.modelFileIn definition)).bind Tmdl.parseModelName).getD l.defaultModelName

/-- The tables of those table files that can be read and declare one. -/
def readTables (l : Layout) (s : Source) (dir : Path) : List Table :=
  if s.isDirectory dir then
    (s.filesWith dir l.tableExtension).filterMap fun p => (s.read? p).bind Tmdl.parseTable
  else []

def readRelationships (l : Layout) (s : Source) (definition : Path) : List Relationship :=
  match s.textOf? (l.relationshipsIn definition) with
  | some text => Tmdl.parseRelationships text
  | none => []

def readModel (l : Layout) (s : Source) (modelDir : Path) : SemanticModel :=
  let definition := l.definitionIn modelDir
  { name := l.readName s definition
    tables := l.readTables s (l.tablesIn definition)
    relationships := l.readRelationships s definition }

def assemble (l : Layout) (s : Source) (sourcePath : String) : Except Failure Project :=
  let dir := l.modelDir sourcePath
  if s.isDirectory dir then .ok ⟨sourcePath, dir.toString, l.readModel s dir⟩
  else .error (.modelNotFound dir.toString)

end Layout

end Tabular
