import MachineOperator.Event.Filter
import MachineOperator.Generator

/-!
The command: a run, the report of its failure, and what is left for whoever called it.
-/
namespace MachineOperator.Command

/-- How a command ends: its status, and what it writes about an error. -/
structure Exit where
  status : UInt32
  errors : String
deriving DecidableEq

def Exit.ofResult : Except Generator.Error Unit → Exit
  | .ok () => ⟨0, ""⟩
  | .error e => ⟨1, "Error: " ++ e.outline ++ "\n"⟩

variable {m : Type → Type} [Monad m] [Environment m] [FileSystem m] [Web m] [Journal m] [Url.NameRules]

def run : m Exit := do
  let result ← Generator.run.run
  if let .error e := result then Journal.report (.failed e.message)
  return .ofResult result

end MachineOperator.Command
