/-!
Paths: names between slashes, from the root or from the working directory. A path is kept as it is written.
-/
namespace MachineOperator.File

structure Path where
  text : String
deriving DecidableEq

namespace Path

def isAbsolute (p : Path) : Bool := p.text.toList.head? = some '/'

/-- What stands between the slashes. -/
def parts (p : Path) : List String := (p.text.toList.splitOn '/').map String.ofList

/-- An absolute name takes the place of the path. -/
def join (p : Path) (name : String) : Path :=
  if (Path.mk name).isAbsolute then ⟨name⟩
  else if p.text = "" || p.text.toList.getLast? = some '/' then ⟨p.text ++ name⟩
  else ⟨p.text ++ "/" ++ name⟩

/-- The names that count: repeated slashes and dots in the middle say nothing. -/
def names (p : Path) : List String :=
  match p.parts with
  | "." :: r => "." :: r.filter fun s => s ≠ "" && s ≠ "."
  | ps => ps.filter fun s => s ≠ "" && s ≠ "."

def ofNames (absolute : Bool) (names : List String) : Path :=
  ⟨(if absolute then "/" else "") ++ String.intercalate "/" names⟩

/-- The directories that a path leads through, the nearest first. -/
def ancestors (p : Path) : List Path :=
  (List.range p.names.length).reverse.map fun n => ofNames p.isAbsolute (p.names.take n)

end Path
end MachineOperator.File
