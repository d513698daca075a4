import MachineOperator.Bytes
import MachineOperator.Digest
import MachineOperator.Text.Outline
import MachineOperator.Text.Quoted

/-!
A generated file: its name relative to the output directory, and its bytes. What logs show of it is its size and
its digest, never its bytes.
-/
namespace MachineOperator

structure AssetFile where
  filename : String
  data : ByteArray
deriving DecidableEq

namespace AssetFile

def digest (f : AssetFile) : String := Digest.nameOf f.data

/-- What may be shown of a file, as names and values. -/
def shown (f : AssetFile) : List (String × String) :=
  [("filename", Text.quoted f.filename), ("bytes", toString f.data.size), ("digest", Text.quoted f.digest)]

def line (f : AssetFile) : String := Text.outline "AssetFile" f.shown

def lines (f : AssetFile) : String :=
  "AssetFile \x7b\n" ++ String.join (f.shown.map fun (name, value) => "    " ++ name ++ ": " ++ value ++ ",\n") ++ "\x7d"

end AssetFile
end MachineOperator
