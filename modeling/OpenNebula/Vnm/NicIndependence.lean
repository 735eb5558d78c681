import OpenNebula.Vnm.SGDriver

namespace OpenNebula.Vnm

/-! # The firewalls of the NICs of a VM

A NIC without security groups replaces the rules of the driver, and the NICs behind it lose the
rules of their groups.  Nothing else that one NIC does is seen by another one, but for an error.
-/

variable {host : Host} {vm : VM} {nic : Nic} {table : Table}

def VM.alone (vm : VM) (nic : Nic) : VM where
  id := vm.id
  nics := [nic]
  nicsAlias := (vars vm.id vm.nicsAlias nic).nicsAlias
  securityGroupRules sgId := if sgId ∈ split (nic.securityGroups.getD "") then vm.securityGroupRules sgId else []

end OpenNebula.Vnm
