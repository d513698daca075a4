import MachineOperator.Event
import MachineOperator.File.Error
import MachineOperator.Http

/-!
What a program may do outside itself: read variables of its environment, read and write files, ask servers and
report events. A program names those it needs, and so does nothing else.
-/
namespace MachineOperator

class Environment (m : Type → Type) where
  lookup? : String → m (Option ByteArray)

class FileSystem (m : Type → Type) where
  read : File.Path → m (Except File.Error ByteArray)
  /-- Makes a directory and all that are missing above it. -/
  createAll : File.Path → m (Except File.Error Unit)
  write : File.Path → ByteArray → m (Except File.Error Unit)

class Web (m : Type → Type) where
  /-- One request to an address, and the response if there is one. -/
  send : Url → m (Option Http.Response)

class Journal (m : Type → Type) where
  report : Event → m Unit

/-- Events that nobody asks for are dropped. -/
instance : Journal Id := ⟨fun _ => ()⟩

end MachineOperator
