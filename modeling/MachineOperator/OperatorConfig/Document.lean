import MachineOperator.OperatorConfig
import MachineOperator.Yaml.Schema

/-!
The configuration as it is written: the provider by its name, and one place for the settings of each provider.
Documents can say more than one provider or none, or name another than they have settings for; configurations
are exactly the documents that do not.
-/
namespace MachineOperator.OperatorConfig
open Yaml

structure Document where
  apiVersion : String
  kind : String
  targetNamespace : String
  apiServiceCa : String
  provider : String
  aws : Option AwsSection
  libvirt : Option LibvirtSection
  openstack : Option OpenStackSection
deriving DecidableEq

/-- Why a document is no configuration. -/
inductive Refusal where
  | missingSection (provider : String)
  | severalSections (providers : List Provider)
  | otherSection (provider : String) (found : Provider)
deriving DecidableEq

def Refusal.message : Refusal → String
  | .missingSection provider => "operator config for provider '" ++ provider ++ "' has no provider section"
  | .severalSections providers =>
    "operator config has more than one provider section: " ++ String.intercalate ", " (providers.map Provider.name)
  | .otherSection provider found =>
    "operator config declares provider '" ++ provider ++ "' but carries a '" ++ found.name ++ "' section"

namespace Document

def ofConfig (c : OperatorConfig) : Document :=
  { apiVersion := c.apiVersion, kind := c.kind, targetNamespace := c.targetNamespace, apiServiceCa := c.apiServiceCa
    provider := c.provider.name
    aws := c.settings.aws?, libvirt := c.settings.libvirt?, openstack := c.settings.openstack? }

def sections (d : Document) : List Section :=
  (d.aws.map Section.aws).toList ++ (d.libvirt.map Section.libvirt).toList ++
    (d.openstack.map Section.openstack).toList

/-- A document with one section, for the provider it names. -/
def toConfig (d : Document) : Except Refusal OperatorConfig :=
  match d.sections with
  | [] => .error (.missingSection d.provider)
  | [settings] =>
    if settings.provider.name = d.provider then
      .ok { apiVersion := d.apiVersion, kind := d.kind, targetNamespace := d.targetNamespace
            apiServiceCa := d.apiServiceCa, settings }
    else .error (.otherSection d.provider settings.provider)
  | several => .error (.severalSections (several.map Section.provider))

end Document

namespace AwsSection

def schema : Schema :=
  .record "struct AwsConfig" true <|
  .cons "clusterName" .required .text <|
  .cons "clusterID" .required .text <|
  .cons "region" .required .text <|
  .cons "availabilityZone" .required .text <|
  .cons "image" .required .text <|
  .cons "replicas" .required .int32 <|
  .nil

def ofCarrier : schema.Carrier → AwsSection
  | (clusterName, clusterId, region, availabilityZone, image, replicas, ()) =>
    { clusterName, clusterId, region, availabilityZone, image, replicas }

def toCarrier (s : AwsSection) : schema.Carrier :=
  (s.clusterName, s.clusterId, s.region, s.availabilityZone, s.image, s.replicas, ())

@[simp] theorem ofCarrier_toCarrier (s : AwsSection) : ofCarrier s.toCarrier = s := rfl

end AwsSection

namespace LibvirtSection

def schema : Schema :=
  .record "struct LibvirtConfig" true <|
  .cons "clusterName" .required .text <|
  .cons "uri" .required .text <|
  .cons "networkName" .required .text <|
  .cons "iprange" .required .text <|
  .cons "replicas" .required .int32 <|
  .nil

def ofCarrier : schema.Carrier → LibvirtSection
  | (clusterName, uri, networkName, ipRange, replicas, ()) => { clusterName, uri, networkName, ipRange, replicas }

def toCarrier (s : LibvirtSection) : schema.Carrier :=
  (s.clusterName, s.uri, s.networkName, s.ipRange, s.replicas, ())

@[simp] theorem ofCarrier_toCarrier (s : LibvirtSection) : ofCarrier s.toCarrier = s := rfl

end LibvirtSection

namespace OpenStackSection

def schema : Schema :=
  .record "struct OpenStackConfig" true <|
  .cons "clusterName" .required .text <|
  .cons "clusterID" .required .text <|
  .cons "region" .required .text <|
  .cons "replicas" .required .int32 <|
  .nil

def ofCarrier : schema.Carrier → OpenStackSection
  | (clusterName, clusterId, region, replicas, ()) => { clusterName, clusterId, region, replicas }

def toCarrier (s : OpenStackSection) : schema.Carrier := (s.clusterName, s.clusterId, s.region, s.replicas, ())

@[simp] theorem ofCarrier_toCarrier (s : OpenStackSection) : ofCarrier s.toCarrier = s := rfl

end OpenStackSection

namespace Document

/-- The order of the fields is the order that they are written in. -/
def schema : Schema :=
  .record "struct OperatorConfigDocument" true <|
  .cons "apiVersion" .defaulted .text <|
  .cons "kind" .defaulted .text <|
  .cons "targetNamespace" .required .text <|
  .cons "apiServiceCA" .required .text <|
  .cons "provider" .required .text <|
  .cons "aws" .defaulted (.optional AwsSection.schema) <|
  .cons "libvirt" .defaulted (.optional LibvirtSection.schema) <|
  .cons "openstack" .defaulted (.optional OpenStackSection.schema) <|
  .nil

def ofCarrier : schema.Carrier → Document
  | (apiVersion, kind, targetNamespace, apiServiceCa, provider, aws, libvirt, openstack, ()) =>
    { apiVersion, kind, targetNamespace, apiServiceCa, provider
      aws := aws.map AwsSection.ofCarrier
      libvirt := libvirt.map LibvirtSection.ofCarrier
      openstack := openstack.map OpenStackSection.ofCarrier }

def toCarrier (d : Document) : schema.Carrier :=
  (d.apiVersion, d.kind, d.targetNamespace, d.apiServiceCa, d.provider, d.aws.map AwsSection.toCarrier,
    d.libvirt.map LibvirtSection.toCarrier, d.openstack.map OpenStackSection.toCarrier, ())

end Document
end MachineOperator.OperatorConfig
