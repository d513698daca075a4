import MachineOperator.Text.Outline
import MachineOperator.Text.Quoted

/-!
Why a file cannot be read or written.
-/
namespace MachineOperator.File

inductive Error where
  | notFound
  | exists
  | notDirectory
  | isDirectory
  | nameTooLong
  | denied
  /-- A name with a character that no name can hold. -/
  | noName
  /-- Bytes that are no text. -/
  | noText
  /-- Whatever else the system reports, by its code. -/
  | other (code : Nat) (text : String)
deriving DecidableEq

namespace Error

/-- The number that the system has for an error, if it is one of the system's. -/
def code? : Error → Option Nat
  | notFound => some 2
  | denied => some 13
  | .exists => some 17
  | notDirectory => some 20
  | isDirectory => some 21
  | nameTooLong => some 36
  | other code _ => some code
  | noName | noText => none

def kind : Error → String
  | notFound => "NotFound"
  | denied => "PermissionDenied"
  | .exists => "AlreadyExists"
  | notDirectory => "NotADirectory"
  | isDirectory => "IsADirectory"
  | nameTooLong => "InvalidFilename"
  | other _ _ => "Uncategorized"
  | noName => "InvalidInput"
  | noText => "InvalidData"

def text : Error → String
  | notFound => "No such file or directory"
  | denied => "Permission denied"
  | .exists => "File exists"
  | notDirectory => "Not a directory"
  | isDirectory => "Is a directory"
  | nameTooLong => "File name too long"
  | other _ text => text
  | noName => "file name contained an unexpected NUL byte"
  | noText => "stream did not contain valid UTF-8"

def message (e : Error) : String :=
  match e.code? with
  | some code => e.text ++ " (os error " ++ toString code ++ ")"
  | none => e.text

def outline (e : Error) : String :=
  match e.code? with
  | some code => Text.outline "Os" [("code", toString code), ("kind", e.kind), ("message", Text.quoted e.text)]
  | none => Text.outline "Error" [("kind", e.kind), ("message", Text.quoted e.text)]

end Error
end MachineOperator.File
