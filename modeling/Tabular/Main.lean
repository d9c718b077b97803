import Tabular.Command.Run
import Tabular.Terminal.Colours

/-!
# The program

Reads the files that a command needs, prints what it answers and ends with its status.
-/

namespace Tabular

def isDirectoryOnDisk (p : Path) : IO Bool := do
  try
    (← IO.FS.realPath p.toString).isDir
  catch _ => return false

def existsOnDisk (p : Path) : IO Bool := do
  try
    (← IO.FS.realPath p.toString).pathExists
  catch _ => return false

def readFromDisk (p : Path) : IO (Except ReadFault (List UInt8)) := do
  if ← isDirectoryOnDisk p then return .error .isDirectory
  try
    return .ok (← IO.FS.readBinFile p.toString).toList
  catch _ => return .error .missing

/-- The names of the regular files directly inside a directory. -/
def namesOnDisk (dir : Path) : IO (List (List Char)) := do
  try
    let entries ← (← IO.FS.realPath dir.toString).readDir
    let files ← entries.toList.filterM fun e => do
      try
        return (← e.path.symlinkMetadata).type == .file
      catch _ => return false
    return files.foldl (fun sorted e => Tree.insertName e.fileName.toList sorted) []
  catch _ => return []

/-- The files of a model, read from disk where the layout has them. -/
def diskSource (l : Layout) (project : String) : IO Source := do
  let modelDir := l.modelDir project
  let definition := l.definitionIn modelDir
  let tablesDir := l.tablesIn definition
  let directories ← [modelDir, tablesDir].filterM isDirectoryOnDisk
  let tableFiles := (← namesOnDisk tablesDir).map fun n => tablesDir.join ⟨n⟩
  let files := l.modelFileIn definition :: l.relationshipsIn definition :: tableFiles
  let texts ← files.filterMapM fun p => do
    match ← readFromDisk p with
    | .ok bytes => return some (p, Encoding.decode bytes)
    | .error _ => return none
  return {
    isDirectory := directories.contains
    isFile := fun p => (texts.lookup p).isSome
    filesIn := fun dir => if dir = tablesDir then tableFiles else []
    read? := fun p => texts.lookup p }

def diskHost : Host IO where
  config p := do
    if ← existsOnDisk p then return some (← readFromDisk p) else return none
  source := diskSource

end Tabular

open Tabular

def main (args : List String) : IO UInt32 := do
  let out ← IO.getStdout
  let colours := Terminal.showsColours (← IO.getEnv "CLICOLOR_FORCE") (← IO.getEnv "NO_COLOR")
    (← IO.getEnv "CLICOLOR") (← out.isTty)
  let outcome ← execute diskHost colours args
  IO.print outcome.output
  IO.eprint outcome.errors
  return outcome.status.toUInt32
