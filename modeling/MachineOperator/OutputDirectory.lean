import MachineOperator.AssetFile
import MachineOperator.Effect

/-!
The directory that generated files are written to, and that files of an earlier run are read from.
-/
namespace MachineOperator

structure OutputDirectory where
  path : File.Path
deriving DecidableEq

namespace OutputDirectory

inductive FetchError where
  | unreadable (path : File.Path) (cause : File.Error)
deriving DecidableEq

def FetchError.message : FetchError → String
  | .unreadable path cause => "failed to read asset file " ++ path.text ++ ": " ++ cause.message

def FetchError.outline : FetchError → String
  | .unreadable path cause => Text.outline "Read" [("path", Text.quoted path.text), ("source", cause.outline)]

inductive WriteError where
  | directory (path : File.Path) (cause : File.Error)
  | file (path : File.Path) (cause : File.Error)
deriving DecidableEq

def WriteError.message : WriteError → String
  | .directory path cause => "failed to create output directory " ++ path.text ++ ": " ++ cause.message
  | .file path cause => "failed to write " ++ path.text ++ ": " ++ cause.message

def WriteError.outline : WriteError → String
  | .directory path cause =>
    Text.outline "CreateOutputDir" [("path", Text.quoted path.text), ("source", cause.outline)]
  | .file path cause => Text.outline "WriteFile" [("path", Text.quoted path.text), ("source", cause.outline)]

variable {m : Type → Type} [Monad m] [FileSystem m]

/-- The file of a name, if there is one. -/
def fetch (d : OutputDirectory) (name : String) : ExceptT FetchError m (Option AssetFile) := do
  let path := d.path.join name
  match ← ExceptT.lift (FileSystem.read path) with
  | .ok data => return some ⟨name, data⟩
  | .error .notFound => return none
  | .error cause => throw (.unreadable path cause)

variable [Journal m]

def writeFile (d : OutputDirectory) (f : AssetFile) : ExceptT WriteError m File.Path := do
  let path := d.path.join f.filename
  match ← ExceptT.lift (FileSystem.write path f.data) with
  | .error cause => throw (.file path cause)
  | .ok () =>
    ExceptT.lift (Journal.report (.fileWritten path f.data.size (Digest.short f.digest)))
    return path

/-- Writes files in their order, up to the first that fails, and gives their paths. -/
def write (d : OutputDirectory) (files : List AssetFile) : ExceptT WriteError m (List File.Path) := do
  match ← ExceptT.lift (FileSystem.createAll d.path) with
  | .error cause => throw (.directory d.path cause)
  | .ok () => files.mapM d.writeFile

end OutputDirectory
end MachineOperator
