import MachineOperator.CertificateAuthority
import MachineOperator.Effect
import MachineOperator.InstallConfig
import MachineOperator.OperatorConfig
import MachineOperator.Release.Lookup

/-!
The configuration for a cluster, from its specification and the certificate authority of its API. Only a cluster on
AWS needs an image, so only then one is looked up.
-/
namespace MachineOperator.OperatorConfig

/-- What is generated, as errors and events call it. -/
def assetName : String := "Machine API Operator"

/-- The channel that images are taken from. -/
def channel : String := "tested"

/-- Why there is no configuration for a cluster. That a configuration cannot be written is no such cause: it holds texts
and whole numbers only, of which every one can be written, so `marshal` has no error. -/
inductive GenerationError where
  | unknownProvider
  | noImage (cause : Release.LookupError)
deriving DecidableEq

def GenerationError.message : GenerationError → String
  | .unknownProvider => "unknown provider for machine-api-operator"
  | .noImage cause => "failed to get AMI for " ++ assetName ++ " config: " ++ cause.message

def GenerationError.outline : GenerationError → String
  | .unknownProvider => "UnsupportedProvider"
  | .noImage cause => Text.outline "ResolveImage" [("asset", Text.quoted assetName), ("source", cause.outline)]

variable {m : Type → Type} [Monad m]

/-- The provider's settings, from those of the platform. No machines are asked for, whatever the pools say. -/
def settingsFor (resolve : Resolver m) (cluster : InstallConfig) :
    Platform.Active → ExceptT GenerationError m Section
  | .aws platform => do
    let image ← (resolve channel platform.region).adapt .noImage
    return .aws (.unmanaged cluster.clusterName cluster.clusterId platform.region image)
  | .libvirt platform =>
    return .libvirt (.unmanaged cluster.clusterName platform.uri platform.network.name platform.network.ipRange)
  | .openstack platform =>
    return .openstack (.unmanaged cluster.clusterName cluster.clusterId platform.region)

/-- The configuration for a cluster on the platform that counts. -/
def forCluster [Journal m] (resolve : Resolver m) (cluster : InstallConfig) (authority : CertificateAuthority) :
    ExceptT GenerationError m OperatorConfig := do
  let some platform := cluster.platform.active | throw .unknownProvider
  ExceptT.lift (Journal.report (.rendering platform.provider cluster.clusterName))
  return trusting authority.pem (← settingsFor resolve cluster platform)

end MachineOperator.OperatorConfig
