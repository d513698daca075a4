import MachineOperator.Effect
import MachineOperator.File.Tree
import MachineOperator.Url.Punycode

/-!
Everything outside a program: the variables it is given, the servers it can reach, the files it works on, and what
it has asked for and reported so far.
-/
namespace MachineOperator

structure World where
  environment : Dict String ByteArray
  network : Http.Network
  files : File.Tree
  /-- The addresses that were asked, in order. -/
  requests : List Url := []
  /-- The events that were reported, in order. -/
  events : List Event := []

namespace World

/-- A world with nothing in it. -/
def empty : World := { environment := .empty, network := fun _ => none, files := ⟨.empty, []⟩ }

instance : Environment (StateM World) where
  lookup? name := return (← get).environment.get? name

instance : FileSystem (StateM World) where
  read path := return (← get).files.read path
  createAll path := modifyGet fun w =>
    let (result, files) := w.files.createAll path
    (result, { w with files })
  write path data := modifyGet fun w =>
    match w.files.write path data with
    | .ok files => (.ok (), { w with files })
    | .error e => (.error e, w)

instance : Web (StateM World) where
  send url := modifyGet fun w => (w.network url, { w with requests := w.requests ++ [url] })

instance : Journal (StateM World) where
  report e := modify fun w => { w with events := w.events ++ [e] }

end World
end MachineOperator
