import MachineOperator.OperatorConfig.File
import MachineOperator.OperatorConfig.Generation
import MachineOperator.Release.StaticImages

/-!
A sample of the configuration for every provider.
-/
namespace MachineOperator.Sample

def pem : String :=
  "-----BEGIN CERTIFICATE-----\nMIIBszCCAVmgAwIBAgIBADAKBggqhkjOPQQDAjAAMB4XDTI2MDEwMTAwMDAwMFoX\n-----END CERTIFICATE-----\n"

def authority : CertificateAuthority := ⟨"aggregator-ca", pem, by decide +kernel⟩

def images : Release.StaticImages := .everywhere "ami-00000000000000000"

def platforms : List Platform :=
  [{ aws := some { region := "us-east-1" } },
   { libvirt := some { uri := "qemu+tcp://192.168.122.1/system"
                       network := { name := "tt0", ipRange := "192.168.126.0/24" } } },
   { openstack := some { region := "RegionOne" } }]

def cluster (platform : Platform) : InstallConfig :=
  { metadata := { name := some "sample" }
    clusterId := "00000000-0000-0000-0000-000000000000"
    platform }

/-- One provider's configuration, under a comment that names it. -/
def document (platform : Platform) : Except OperatorConfig.GenerationError String := do
  let config ← (OperatorConfig.forCluster images.resolver (cluster platform) authority : ExceptT _ Id _).run
  return "# " ++ platform.name ++ ": " ++ OperatorConfig.filename ++ "\n---\n" ++ config.render ++ "\n"

def text : Except OperatorConfig.GenerationError String := (platforms.mapM document).map String.join

end MachineOperator.Sample
