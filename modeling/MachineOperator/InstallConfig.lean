import MachineOperator.ObjectMeta
import MachineOperator.Platform
import MachineOperator.Yaml.Print
import MachineOperator.Yaml.Schema.Read

/-!
The specification of a cluster: its name and ID, the pools of machines asked for, and the platform they run on.
-/
namespace MachineOperator
open Yaml

structure MachinePool where
  name : String
  replicas : Option Int64
deriving DecidableEq

structure InstallConfig where
  metadata : ObjectMeta := {}
  clusterId : String
  baseDomain : Option String := none
  machines : List MachinePool := []
  platform : Platform
deriving BEq

namespace MachinePool

def schema : Schema :=
  .record "struct MachinePool" true <|
  .cons "name" .required .text <|
  .cons "replicas" .elided (.optional .int64) <|
  .nil

def ofCarrier : schema.Carrier → MachinePool
  | (name, replicas, ()) => { name, replicas }

def toCarrier (p : MachinePool) : schema.Carrier := (p.name, p.replicas, ())

@[simp] theorem ofCarrier_toCarrier (p : MachinePool) : ofCarrier p.toCarrier = p := rfl

end MachinePool

namespace InstallConfig

/-- A cluster without a name has the empty one. -/
def clusterName (c : InstallConfig) : String := c.metadata.name.getD ""

def schema : Schema :=
  .record "struct InstallConfig" true <|
  .cons "metadata" .defaulted ObjectMeta.schema <|
  .cons "clusterID" .required .text <|
  .cons "baseDomain" .elided (.optional .text) <|
  .cons "machines" .elided (.listOf MachinePool.schema) <|
  .cons "platform" .required Platform.schema <|
  .nil

def ofCarrier : schema.Carrier → InstallConfig
  | (metadata, clusterId, baseDomain, machines, platform, ()) =>
    { metadata := .ofCarrier metadata
      clusterId, baseDomain
      machines := List.map (α := MachinePool.schema.Carrier) MachinePool.ofCarrier machines
      platform := .ofCarrier platform }

def toCarrier (c : InstallConfig) : schema.Carrier :=
  (c.metadata.toCarrier, c.clusterId, c.baseDomain, c.machines.map MachinePool.toCarrier, c.platform.toCarrier, ())

def parse (text : String) : Except ReadError InstallConfig :=
  ((Document.ofString text).read schema).map ofCarrier

def toValue (c : InstallConfig) : Value := schema.toValue c.toCarrier

def render (c : InstallConfig) : String := c.toValue.render

end InstallConfig

/-- A platform that is a document of its own. -/
def Platform.parse (text : String) : Except ReadError Platform :=
  ((Document.ofString text).read Platform.schema).map .ofCarrier

end MachineOperator
