import OpenNebula.Library.Table
import Mathlib.Algebra.BigOperators.Group.Finset.Basic
import Mathlib.Data.Finset.Union
import Mathlib.Data.NNRat.Defs
import Mathlib.Algebra.Order.Field.Rat

namespace OpenNebula.OneDrs

open Library

/-! # Hosts, datastores, virtual machines and their matches (`model.py`)

The arithmetic is exact: amounts are rational numbers, and a number that is not known (`nan`) is
`none`.
-/

structure Capacity where
  total : ℚ
  usage : ℚ

instance : Inhabited Capacity := ⟨0, 0⟩

namespace Capacity

def free (capacity : Capacity) : ℚ := capacity.total - capacity.usage

def available (capacity : Capacity) (free : Bool) : ℚ := if free then capacity.free else capacity.total

end Capacity

structure PCIDevice where
  shortAddress : String
  vendorId : String := ""
  deviceId : String := ""
  classId : String := ""
  vmId : Int := -1

structure Contention where
  memory : Option ℚ := none
  cpuRatio : Option ℚ := none
  cpuUsage : Option ℚ := none

structure HostCapacity where
  memory : Capacity
  cpu : Capacity
  disks : Table ℕ Capacity := .ofList []
  pciDevices : List PCIDevice := []
  clusterId : ℕ := 0
  /-- Pairs of a CPU usage and an energy consumption -/
  energy : Option (List (ℚ × ℚ)) := none
  contention : Contention := {}
  cpuUsage : ℚ := 0
  carbonIntensity : ℚ := 0

instance : Inhabited HostCapacity := ⟨{ memory := default, cpu := default }⟩

structure DStoreCapacity where
  size : Capacity
  clusterIds : Finset ℕ

instance : Inhabited DStoreCapacity := ⟨default, ∅⟩

structure VNetCapacity where
  freeIpAddresses : Int
  clusterIds : Finset ℕ

instance : Inhabited VNetCapacity := ⟨0, ∅⟩

inductive VMState where
  | pending | resched | running | poweroff
deriving DecidableEq

structure PCIDeviceRequirement where
  shortAddress : String := ""
  vendorId : String := ""
  deviceId : String := ""
  classId : String := ""

structure DStoreRequirement where
  size : ℚ≥0
  allowHostDstores : Bool := true
  hostDstoreIds : Option (Table ℕ (List ℕ)) := none
  sharedDstoreIds : List ℕ := []

instance : Inhabited DStoreRequirement := ⟨{ size := 0 }⟩

structure VMRequirements where
  state : Option VMState
  memory : ℚ≥0
  cpuRatio : ℚ≥0
  cpuUsage : Option ℚ := none
  storage : Table ℕ DStoreRequirement := .ofList []
  pciDevices : List PCIDeviceRequirement := []
  hostIds : Option (Finset ℕ) := none
  shareVnets : Bool := false
  nicMatches : Table ℕ (List ℕ) := .ofList []

instance : Inhabited VMRequirements := ⟨{ state := none, memory := 0, cpuRatio := 0 }⟩

structure VMGroup where
  affined : Bool
  vmIds : Finset ℕ

instance : Inhabited VMGroup := ⟨false, ∅⟩

namespace HostCapacity

variable (host : HostCapacity) (free : Bool)

def candidates : List PCIDevice := host.pciDevices.filter fun device => !free || device.vmId = -1

def addresses : Finset String := ((host.candidates free).map PCIDevice.shortAddress).toFinset

def deviceAt (address : String) : Option PCIDevice :=
  ((host.candidates free).filter fun device => device.shortAddress = address).getLast?

end HostCapacity

def matchPciDevice (request : PCIDeviceRequirement) (device : PCIDevice) (free : Bool) : Bool :=
  if free && 0 ≤ device.vmId then false
  else
    (request.vendorId = device.vendorId || request.vendorId = "") &&
      (request.deviceId = device.deviceId || request.deviceId = "") &&
        (request.classId = device.classId || request.classId = "")

def matchPciDevices (request : PCIDeviceRequirement) (host : HostCapacity) (free : Bool) : Finset String :=
  if request.shortAddress ≠ "" then (host.addresses free).filter fun address => address = request.shortAddress
  else
    (host.addresses free).filter fun address =>
      (host.deviceAt free address).any fun device => matchPciDevice request device free

section Hosts

variable (hosts : Table ℕ HostCapacity) (vnets : Table ℕ VNetCapacity) (free : Bool)

namespace VMRequirements

variable (vm : VMRequirements)

def nicClusters (nic : ℕ) : Finset ℕ :=
  (vm.nicMatches.get nic).toFinset.biUnion fun vnet => (vnets.get vnet).clusterIds

def commonClusters : Finset ℕ :=
  (vm.nicMatches.ids.biUnion (vm.nicClusters vnets)).filter fun cluster =>
    ∀ nic ∈ vm.nicMatches.ids, cluster ∈ vm.nicClusters vnets nic

def reaches (host : HostCapacity) : Bool :=
  vm.state ≠ some .pending || vm.commonClusters vnets = ∅ || host.clusterId ∈ vm.commonClusters vnets

def findHostMatches : Finset ℕ :=
  hosts.ids.filter fun id =>
    let host := hosts.get id
    vm.reaches vnets host ∧ (∀ ids ∈ vm.hostIds, id ∈ ids) ∧
      (vm.cpuRatio : ℚ) ≤ host.cpu.available free ∧ (vm.memory : ℚ) ≤ host.memory.available free ∧
        ∀ request ∈ vm.pciDevices, matchPciDevices request host free ≠ ∅

end VMRequirements

/-- `set.intersection`, `none` without any set -/
def intersection : List (Finset ℕ) → Option (Finset ℕ)
  | [] => none
  | first :: rest => some (rest.foldl (· ∩ ·) first)

def groupRequirements (vms : Table ℕ VMRequirements) (vmIds : Finset ℕ) : VMRequirements :=
  let members := (vms.keys.filter fun vm => vm ∈ vmIds).map vms.get
  let nics := members.flatMap fun vm => vm.nicMatches.keys.map vm.nicMatches.get
  { state := none
    memory := ∑ vm ∈ vms.ids.filter fun vm => vm ∈ vmIds, (vms.get vm).memory
    cpuRatio := ∑ vm ∈ vms.ids.filter fun vm => vm ∈ vmIds, (vms.get vm).cpuRatio
    pciDevices := members.flatMap VMRequirements.pciDevices
    hostIds := intersection (members.filterMap VMRequirements.hostIds)
    shareVnets := vms.keys.all fun vm => (vms.get vm).shareVnets
    nicMatches := ⟨List.range nics.length, fun nic => nics.getD nic []⟩ }

end Hosts

def diskMatches (request : DStoreRequirement) (id : ℕ) (host : HostCapacity) (free : Bool) : Finset ℕ :=
  if request.allowHostDstores then
    (match request.hostDstoreIds with
      | none => host.disks.ids
      | some disks => if id ∈ disks.ids then (disks.get id).toFinset else ∅).filter fun disk =>
      (request.size : ℚ) ≤ (host.disks.get disk).available free
  else ∅

def sharedMatches (request : DStoreRequirement) (dstores : Table ℕ DStoreCapacity) (free : Bool) : Finset ℕ :=
  if request.allowHostDstores then ∅
  else request.sharedDstoreIds.toFinset.filter fun dstore =>
    (request.size : ℚ) ≤ (dstores.get dstore).size.available free

end OpenNebula.OneDrs
