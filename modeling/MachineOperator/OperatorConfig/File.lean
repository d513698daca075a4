import MachineOperator.AssetFile
import MachineOperator.OperatorConfig.Document
import MachineOperator.Yaml.Print
import MachineOperator.Yaml.Schema.Read

/-!
The configuration as a file, and reading it back.
-/
namespace MachineOperator.OperatorConfig
open Yaml

def filename : String := "machine-api-operator-config.yml"

/-- Why bytes are no configuration: they are no such document, or the document is refused. -/
inductive DecodeError where
  | unreadable (error : ReadError)
  | refused (refusal : Refusal)
deriving DecidableEq

def DecodeError.message : DecodeError → String
  | .unreadable error => error.message
  | .refused refusal => refusal.message

def toValue (c : OperatorConfig) : Value := Document.schema.toValue (Document.ofConfig c).toCarrier

def render (c : OperatorConfig) : String := c.toValue.render

def marshal (c : OperatorConfig) : AssetFile := ⟨filename, c.render.toUTF8⟩

/-- A document is refused before what follows it is looked at. -/
def ofDocument (d : Yaml.Document) : Except DecodeError OperatorConfig := do
  let carrier ← (d.readRoot Document.schema).mapError .unreadable
  let config ← (Document.ofCarrier carrier).toConfig.mapError .refused
  d.close.mapError .unreadable
  return config

def decode (data : ByteArray) : Except DecodeError OperatorConfig := ofDocument (.ofBytes data)

end MachineOperator.OperatorConfig
