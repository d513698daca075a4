/-!
The cloud providers that clusters run on.
-/
namespace MachineOperator

inductive Provider where
  | aws
  | libvirt
  | openstack
deriving DecidableEq

namespace Provider

def name : Provider → String
  | aws => "aws"
  | libvirt => "libvirt"
  | openstack => "openstack"

/-- Where several providers are given, an earlier one goes before a later one. -/
def all : List Provider := [aws, libvirt, openstack]

end Provider
end MachineOperator
