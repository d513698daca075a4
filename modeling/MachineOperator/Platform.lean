import MachineOperator.Provider
import MachineOperator.Yaml.Schema

/-!
The platform that a cluster is installed on: settings for each provider, of which the first that is there counts.
-/
namespace MachineOperator
open Yaml

namespace Platform

structure Aws where
  region : String
  vpcCidrBlock : Option String := none
  userTags : Dict String String := .empty
deriving DecidableEq

structure LibvirtNetwork where
  name : String
  ipRange : String
deriving DecidableEq

structure Libvirt where
  uri : String
  network : LibvirtNetwork
deriving DecidableEq

structure OpenStack where
  region : String
  baseImage : Option String := none
  cloud : Option String := none
  externalNetwork : Option String := none
deriving DecidableEq

/-- The settings that count. -/
inductive Active where
  | aws (settings : Aws)
  | libvirt (settings : Libvirt)
  | openstack (settings : OpenStack)
deriving DecidableEq

def Active.provider : Active → Provider
  | .aws _ => .aws
  | .libvirt _ => .libvirt
  | .openstack _ => .openstack

/-- The region that machines run in, or the address of their host. -/
def Active.location : Active → String
  | .aws settings => settings.region
  | .libvirt settings => settings.uri
  | .openstack settings => settings.region

end Platform

structure Platform where
  aws : Option Platform.Aws := none
  libvirt : Option Platform.Libvirt := none
  openstack : Option Platform.OpenStack := none
deriving DecidableEq

namespace Platform

def active (p : Platform) : Option Active :=
  p.aws.map .aws <|> p.libvirt.map .libvirt <|> p.openstack.map .openstack

def provider (p : Platform) : Option Provider := p.active.map Active.provider

/-- The provider's name, and no name without a provider. -/
def name (p : Platform) : String := (p.provider.map Provider.name).getD ""

namespace Aws

def schema : Schema :=
  .record "struct AwsPlatform" true <|
  .cons "region" .required .text <|
  .cons "vpcCIDRBlock" .elided (.optional .text) <|
  .cons "userTags" .elided (.mapOf .text) <|
  .nil

def ofCarrier : schema.Carrier → Aws
  | (region, vpcCidrBlock, userTags, ()) => { region, vpcCidrBlock, userTags }

def toCarrier (p : Aws) : schema.Carrier := (p.region, p.vpcCidrBlock, p.userTags, ())

@[simp] theorem ofCarrier_toCarrier (p : Aws) : ofCarrier p.toCarrier = p := rfl

end Aws

namespace LibvirtNetwork

def schema : Schema :=
  .record "struct LibvirtNetwork" true <|
  .cons "if" .required .text <|
  .cons "ipRange" .required .text <|
  .nil

def ofCarrier : schema.Carrier → LibvirtNetwork
  | (name, ipRange, ()) => { name, ipRange }

def toCarrier (n : LibvirtNetwork) : schema.Carrier := (n.name, n.ipRange, ())

@[simp] theorem ofCarrier_toCarrier (n : LibvirtNetwork) : ofCarrier n.toCarrier = n := rfl

end LibvirtNetwork

namespace Libvirt

def schema : Schema :=
  .record "struct LibvirtPlatform" true <|
  .cons "URI" .required .text <|
  .cons "network" .required LibvirtNetwork.schema <|
  .nil

def ofCarrier : schema.Carrier → Libvirt
  | (uri, network, ()) => { uri, network := .ofCarrier network }

def toCarrier (p : Libvirt) : schema.Carrier := (p.uri, p.network.toCarrier, ())

@[simp] theorem ofCarrier_toCarrier (p : Libvirt) : ofCarrier p.toCarrier = p := rfl

end Libvirt

namespace OpenStack

def schema : Schema :=
  .record "struct OpenStackPlatform" true <|
  .cons "region" .required .text <|
  .cons "baseImage" .elided (.optional .text) <|
  .cons "cloud" .elided (.optional .text) <|
  .cons "externalNetwork" .elided (.optional .text) <|
  .nil

def ofCarrier : schema.Carrier → OpenStack
  | (region, baseImage, cloud, externalNetwork, ()) => { region, baseImage, cloud, externalNetwork }

def toCarrier (p : OpenStack) : schema.Carrier := (p.region, p.baseImage, p.cloud, p.externalNetwork, ())

@[simp] theorem ofCarrier_toCarrier (p : OpenStack) : ofCarrier p.toCarrier = p := rfl

end OpenStack

def schema : Schema :=
  .record "struct Platform" true <|
  .cons "aws" .elided (.optional Aws.schema) <|
  .cons "libvirt" .elided (.optional Libvirt.schema) <|
  .cons "openstack" .elided (.optional OpenStack.schema) <|
  .nil

def ofCarrier : schema.Carrier → Platform
  | (aws, libvirt, openstack, ()) =>
    { aws := aws.map Aws.ofCarrier
      libvirt := libvirt.map Libvirt.ofCarrier
      openstack := openstack.map OpenStack.ofCarrier }

def toCarrier (p : Platform) : schema.Carrier :=
  (p.aws.map Aws.toCarrier, p.libvirt.map Libvirt.toCarrier, p.openstack.map OpenStack.toCarrier, ())

end Platform
end MachineOperator
