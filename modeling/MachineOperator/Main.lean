import MachineOperator.Command
import MachineOperator.Sample
import MachineOperator.Url.Punycode

/-!
The command line. A run takes its settings from the environment and reports what the filter shows; no server is
within reach of it, so clusters on AWS need an image that is set. With `--sample` the samples are printed instead.
-/
namespace MachineOperator

/-- The world, and which events are shown. -/
abbrev Terminal := ReaderT Event.Filter IO

namespace Terminal

/-- An error of the system by its code. -/
def errorOfCode (code : UInt32) (text : String) : File.Error :=
  [File.Error.notFound, .denied, .exists, .notDirectory, .isDirectory, .nameTooLong].find?
    (·.code? = some code.toNat) |>.getD (.other code.toNat text)

def errorOf : IO.Error → File.Error
  | .noFileOrDirectory _ code text | .permissionDenied _ code text | .alreadyExists _ code text
  | .inappropriateType _ code text | .invalidArgument _ code text | .resourceExhausted _ code text
  | .otherError code text => errorOfCode code text
  | e => .other 0 (toString e)

def attempt (action : IO α) : Terminal (Except File.Error α) := do
  match ← action.toBaseIO with
  | .ok a => return .ok a
  | .error e => return .error (errorOf e)

instance : Environment Terminal where
  lookup? name := return (← IO.getEnv name).map String.toUTF8

instance : FileSystem Terminal where
  read path := attempt (IO.FS.readBinFile path.text)
  createAll path := attempt (if path.text = "" then pure () else IO.FS.createDirAll path.text)
  write path data := attempt (IO.FS.writeBinFile path.text data)

instance : Web Terminal where
  send _ := return none

instance : Journal Terminal where
  report e := do if (← read).shows e then IO.println e.line

end Terminal
end MachineOperator

open MachineOperator

def main (args : List String) : IO UInt32 := do
  if args = ["--sample"] then
    match Sample.text with
    | .ok text => IO.print text; return 0
    | .error e => IO.eprintln e.message; return 1
  let filter := Event.Filter.ofVariable ((← IO.getEnv Event.filterVariable).map String.toUTF8)
  let exit ← (Command.run : Terminal Command.Exit).run filter
  IO.eprint exit.errors
  return exit.status
