import MachineOperator.Provider

/-!
The startup configuration of the machine operator: which namespace it works in, the certificate authority it
trusts, and the settings of the one provider that it manages machines on.
-/
namespace MachineOperator

/-- No machines are asked for, so that the operator does not compete with the installer for them. -/
def unmanagedReplicas : Int32 := 0

namespace OperatorConfig

structure AwsSection where
  clusterName : String
  clusterId : String
  region : String
  availabilityZone : String
  image : String
  replicas : Int32
deriving DecidableEq

structure LibvirtSection where
  clusterName : String
  uri : String
  networkName : String
  ipRange : String
  replicas : Int32
deriving DecidableEq

structure OpenStackSection where
  clusterName : String
  clusterId : String
  region : String
  replicas : Int32
deriving DecidableEq

/-- The settings of one provider. -/
inductive Section where
  | aws (settings : AwsSection)
  | libvirt (settings : LibvirtSection)
  | openstack (settings : OpenStackSection)
deriving DecidableEq

namespace Section

def provider : Section → Provider
  | .aws _ => .aws
  | .libvirt _ => .libvirt
  | .openstack _ => .openstack

def replicas : Section → Int32
  | .aws s => s.replicas
  | .libvirt s => s.replicas
  | .openstack s => s.replicas

end Section

/-- The availability zone is chosen later. -/
def AwsSection.unmanaged (clusterName clusterId region image : String) : AwsSection :=
  { clusterName, clusterId, region, availabilityZone := "", image, replicas := unmanagedReplicas }

def LibvirtSection.unmanaged (clusterName uri networkName ipRange : String) : LibvirtSection :=
  { clusterName, uri, networkName, ipRange, replicas := unmanagedReplicas }

def OpenStackSection.unmanaged (clusterName clusterId region : String) : OpenStackSection :=
  { clusterName, clusterId, region, replicas := unmanagedReplicas }

/-- The settings, if they are for this provider. -/
def Section.aws? : Section → Option AwsSection
  | .aws s => some s
  | _ => none

def Section.libvirt? : Section → Option LibvirtSection
  | .libvirt s => some s
  | _ => none

def Section.openstack? : Section → Option OpenStackSection
  | .openstack s => some s
  | _ => none

def defaultApiVersion : String := "v1"
def defaultKind : String := "machineAPIOperatorConfig"
def defaultNamespace : String := "openshift-cluster-api"

end OperatorConfig

structure OperatorConfig where
  apiVersion : String
  kind : String
  targetNamespace : String
  apiServiceCa : String
  settings : OperatorConfig.Section
deriving DecidableEq

namespace OperatorConfig

/-- The configuration that trusts a certificate and manages one provider's machines. -/
def trusting (apiServiceCa : String) (settings : Section) : OperatorConfig :=
  { apiVersion := defaultApiVersion, kind := defaultKind, targetNamespace := defaultNamespace, apiServiceCa, settings }

def provider (c : OperatorConfig) : Provider := c.settings.provider
def replicas (c : OperatorConfig) : Int32 := c.settings.replicas

end OperatorConfig
end MachineOperator
