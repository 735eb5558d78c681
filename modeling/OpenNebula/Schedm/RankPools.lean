import OpenNebula.Common.VectorAttribute
import OpenNebula.Schedm.Requirements
import Mathlib.Data.NNRat.Floor

namespace OpenNebula.Schedm.Rank

open Common Library Parsers

/-! # The pools of the rank scheduler

The objects have the attributes that `match_schedule` and `dispatch` read.  The fractions of a
CPU are exact, and what the PCI devices and the NUMA nodes of a host do is a parameter, as is
what a host answers to the comparisons other than those of `CURRENT_VMS` with a number.
-/

/-- The number of an object, an `int` that is not negative -/
abbrev Oid := Fin (2 ^ 31)

instance oidNeZero : NeZero (2 ^ 31) := ⟨by decide⟩

structure HostShareCapacity where
  vmid : Oid
  cpu : Nat
  mem : Nat
  disk : Nat
  pci : List VectorAttribute
  topology : Option VectorAttribute
  nodes : List VectorAttribute

/-- `HostSharePCI` and `HostShareNUMA` -/
structure Devices (δ : Type) where
  test : δ → HostShareCapacity → Bool
  add : δ → HostShareCapacity → δ

structure HostXML (δ : Type) where
  cluster : Int
  vms : List Oid
  cpuUsage : Int
  maxCpu : Int
  memUsage : Int
  maxMem : Int
  freeDisk : Int
  dsFreeDisk : Map Oid Int
  devices : δ
  dispatchedVms : List Oid := []
  answers : List Oid → Object

namespace HostXML

variable {δ : Type} (host : HostXML δ)

def testCapacity (devices : Devices δ) (sr : HostShareCapacity) : Bool :=
  devices.test host.devices sr ∧ (sr.cpu : Int) ≤ host.maxCpu - host.cpuUsage ∧
    (sr.mem : Int) ≤ host.maxMem - host.memUsage

def addCapacity (devices : Devices δ) (sr : HostShareCapacity) : HostXML δ :=
  { host with
    cpuUsage := host.cpuUsage + sr.cpu
    memUsage := host.memUsage + sr.mem
    devices := devices.add host.devices sr
    dispatchedVms := host.dispatchedVms.insert sr.vmid }

def dsFree (dsid : Oid) : Int := (host.dsFreeDisk.lookup dsid).getD host.freeDisk

def testDsCapacity (dsid : Oid) (disk : Nat) : Bool := (disk : Int) < host.dsFree dsid

def addDsCapacity (dsid : Oid) (disk : Nat) : HostXML δ :=
  { host with dsFreeDisk := host.dsFreeDisk.insert dsid (host.dsFree dsid - disk) }

def currentVms (vmid : Int) : Int :=
  if (host.vms ++ host.dispatchedVms).any fun vm => (vm.val : Int) = vmid then vmid else -1

def object : Object := fun name relation value =>
  match relation, value with
  | .eq, .integer vmid =>
    if name = "CURRENT_VMS" then host.currentVms vmid = vmid
    else host.answers host.dispatchedVms name relation value
  | .ne, .integer vmid =>
    if name = "CURRENT_VMS" then host.currentVms vmid ≠ vmid
    else host.answers host.dispatchedVms name relation value
  | _, _ => host.answers host.dispatchedVms name relation value

def meets (requirements : String) : Bool := evalBool host.object requirements = some true

end HostXML

structure DatastoreXML where
  clusters : List Int
  freeMb : Int
  monitored : Bool
  shared : Bool

namespace DatastoreXML

def testCapacity (ds : DatastoreXML) (disk : Nat) : Bool := (disk : Int) < ds.freeMb ∨ disk = 0

def addCapacity (ds : DatastoreXML) (disk : Nat) : DatastoreXML :=
  { ds with freeMb := ds.freeMb - disk }

end DatastoreXML

structure VirtualNetworkXML where
  clusters : List Int
  freeLeases : Int

namespace VirtualNetworkXML

def testLeases (net : VirtualNetworkXML) : Bool := 0 < net.freeLeases

def addLease (net : VirtualNetworkXML) : VirtualNetworkXML :=
  { net with freeLeases := net.freeLeases - 1 }

def rollbackLeases (net : VirtualNetworkXML) (leases : Nat) : VirtualNetworkXML :=
  { net with freeLeases := net.freeLeases + leases }

end VirtualNetworkXML

structure VirtualMachineXML where
  state : Nat := 1
  lcmState : Nat := 0
  resched : Bool := false
  /-- The last action of its history stopped or undeployed it. -/
  resume : Bool := false
  hid : Option Oid := none
  dsid : Option Oid := none
  /-- The template names a role of a VM group. -/
  inRole : Bool := false
  memory : Nat
  cpu : ℚ≥0
  systemDsUsage : Nat
  dsUsage : Map Oid Nat := ∅
  pci : List VectorAttribute := []
  topology : Option VectorAttribute := none
  nodes : List VectorAttribute := []
  requirements : String := ""
  prereqHosts : List Oid
  prereqDs : List Oid
  prereqNics : Map Nat (List Oid) := ∅
  nicsIds : List Nat := []
  matchHosts : List Oid := []
  matchDatastores : List Oid := []
  matchNetworks : Map Nat (List Oid) := ∅
  affinedVms : List Oid := []

namespace VirtualMachineXML

variable (vm : VirtualMachineXML)

def isActive : Bool := vm.state = 3

/-- The `get_suitable_nodes` of the pool: pending, or to be rescheduled -/
def suitable : Bool :=
  vm.state = 1 ∨ ((vm.state = 8 ∨ vm.lcmState = 3 ∨ vm.lcmState = 16) ∧ vm.resched)

def getCapacity (oid : Oid) : HostShareCapacity :=
  let asks : Bool := vm.memory ≠ 0 ∧ vm.cpu ≠ 0
  { vmid := oid
    cpu := if asks then ⌊vm.cpu * 100⌋₊ else 0
    mem := if asks then vm.memory * 1024 else 0
    disk := if asks then vm.systemDsUsage else 0
    pci := vm.pci
    topology := vm.topology
    nodes := vm.nodes }

def addCapacity (other : VirtualMachineXML) : VirtualMachineXML :=
  { vm with
    cpu := vm.cpu + (⌊other.cpu⌋₊ : ℚ≥0)
    memory := vm.memory + other.memory
    systemDsUsage := vm.systemDsUsage + other.systemDsUsage
    nodes := vm.nodes ++ other.nodes }

def resetCapacity : VirtualMachineXML :=
  { vm with cpu := 0, memory := 0, systemDsUsage := 0, nodes := [] }

def addRequirements (added : String) : VirtualMachineXML :=
  { vm with requirements := Schedm.addRequirements vm.requirements added }

def addAffined (oid : Oid) : VirtualMachineXML :=
  { vm with affinedVms := vm.affinedVms.insert oid }

def addMatchHost (hid : Oid) : VirtualMachineXML :=
  if vm.resched ∧ vm.hid = some hid then vm else { vm with matchHosts := vm.matchHosts ++ [hid] }

def addMatchDatastore (dsid : Oid) : VirtualMachineXML :=
  { vm with matchDatastores := vm.matchDatastores ++ [dsid] }

def testImageDatastoreCapacity (images : Map Oid DatastoreXML) : Bool :=
  vm.dsUsage.entries.all fun usage =>
    usage.2 = 0 ∨ (images.lookup usage.1).any (·.testCapacity usage.2)

def addImageDatastoreCapacity (images : Map Oid DatastoreXML) : Map Oid DatastoreXML :=
  Map.modify (fun dsid ds =>
    match vm.dsUsage.lookup dsid with
    | none => ds
    | some amount => ds.addCapacity amount) images

end VirtualMachineXML

structure Pools (δ : Type) where
  hosts : Map Oid (HostXML δ)
  datastores : Map Oid DatastoreXML
  images : Map Oid DatastoreXML
  vnets : Map Oid VirtualNetworkXML
  vms : Map Oid VirtualMachineXML

end OpenNebula.Schedm.Rank
