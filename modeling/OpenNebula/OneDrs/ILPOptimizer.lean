import OpenNebula.OneDrs.Model
import OpenNebula.Library.Binary
import Mathlib.Data.Finset.Sigma
import Mathlib.Data.Finset.Sum

namespace OpenNebula.OneDrs

open Library

/-! # The integer program of the scheduler (`ILPOptimizer`)

The variables of the program are binary, so that an assignment gives `true` or `false` to each of
them.  A dictionary of variables has an entry for some of its keys only; the constraints range over
these keys, and `Input.Builds` says which lookups must not fail.
-/

/-- The arguments of the constructor; preemptive scheduling and other criteria raise an error. -/
structure Input where
  currentPlacement : Table ℕ ℕ := .ofList []
  /-- The disk of the current host that a storage requirement of a VM uses -/
  usedHostDstores : Table (ℕ × ℕ) ℕ := .ofList []
  usedSharedDstores : Table (ℕ × ℕ) ℕ := .ofList []
  vms : Table ℕ VMRequirements
  vmGroups : Table ℕ VMGroup := .ofList []
  vmClusterGroups : List (List ℕ) := []
  hosts : Table ℕ HostCapacity
  dstores : Table ℕ DStoreCapacity := .ofList []
  vnets : Table ℕ VNetCapacity := .ofList []
  allowedMigrations : Option ℕ := none

/-- The binary variables -/
structure Assignment where
  /-- `y` -/
  used : ℕ → Bool
  alloc : ℕ → ℕ → Bool
  groupAlloc : ℕ → ℕ → Bool
  pend : ℕ → Bool
  groupPend : ℕ → Bool
  /-- `z` -/
  pci : ℕ → ℕ → ℕ → String → Bool
  hostDisk : ℕ → ℕ → ℕ → ℕ → Bool
  sharedDstore : ℕ → ℕ → ℕ → Bool
  vnet : ℕ → ℕ → ℕ → Bool

namespace Input

variable (input : Input)

def state (vm : ℕ) : Option VMState := (input.vms.get vm).state

def allWaiting : Bool := decide (∀ vm ∈ input.vms.ids, input.state vm = some .pending ∨ input.state vm = some .resched)

/-- Without VMs that run the free resources of the hosts are given to those that wait. -/
def narrow : Bool := input.allWaiting

def affinedGroups : List ℕ := input.vmGroups.keys.filter fun group => (input.vmGroups.get group).affined

def antiAffinedGroups : List ℕ := input.vmGroups.keys.filter fun group => !(input.vmGroups.get group).affined

def affinedGroup (vm : ℕ) : Option ℕ :=
  (input.affinedGroups.filter fun group => vm ∈ (input.vmGroups.get group).vmIds).getLast?

/-- The VMs of an affined group for which common hosts are determined -/
def matchedTogether (group : ℕ) : Finset ℕ :=
  let vmIds := (input.vmGroups.get group).vmIds
  let nonPending := vmIds.filter fun vm => input.state vm ≠ some .pending
  if nonPending ≠ ∅ ∧ nonPending.card < vmIds.card then nonPending else vmIds

def matchingGroup (vm : ℕ) : Option ℕ :=
  (input.affinedGroups.filter fun group => vm ∈ input.matchedTogether group).getLast?

def matchingRequirements (vm : ℕ) : VMRequirements :=
  match input.matchingGroup vm with
  | some group => groupRequirements input.vms (input.matchedTogether group)
  | none => input.vms.get vm

def hostMatches (vm : ℕ) : Finset ℕ :=
  (input.matchingRequirements vm).findHostMatches input.hosts input.vnets input.narrow

def vmMatches (host : ℕ) : Finset ℕ := input.vms.ids.filter fun vm => host ∈ input.hostMatches vm

def request (vm req : ℕ) : DStoreRequirement := (input.vms.get vm).storage.get req

def usedStorage (dstore : ℕ) : ℚ :=
  ∑ key ∈ input.usedSharedDstores.ids.filter fun key => input.usedSharedDstores.get key = dstore,
    ((input.request key.1 key.2).size : ℚ)

def dstoreCaps : Table ℕ DStoreCapacity where
  keys := input.dstores.keys
  get dstore :=
    let used := input.usedStorage dstore
    { input.dstores.get dstore with size := ⟨(input.dstores.get dstore).size.free + used, used⟩ }

def sharedGroup (vm : ℕ) : Option ℕ :=
  (input.affinedGroup vm).filter fun group =>
    decide (∀ other ∈ (input.vmGroups.get group).vmIds, input.state other = some .pending) ||
      input.state vm ≠ some .pending

def pciAddresses (vm request host : ℕ) : Finset String :=
  match (input.vms.get vm).pciDevices[request]? with
  | some wanted => if host ∈ input.hostMatches vm then matchPciDevices wanted (input.hosts.get host) input.narrow else ∅
  | none => ∅

def pciPlaces (vm request : ℕ) : Finset (Σ _ : ℕ, String) :=
  (input.hostMatches vm).sigma (input.pciAddresses vm request)

def pciRequests (host : ℕ) (address : String) : Finset (Σ _ : ℕ, ℕ) :=
  input.vms.ids.sigma fun vm =>
    (Finset.range (input.vms.get vm).pciDevices.length).filter fun request => address ∈ input.pciAddresses vm request host

def hostDisks (vm req host : ℕ) : Finset ℕ :=
  if (vm, req) ∈ input.usedSharedDstores.ids ∨ host ∉ input.hostMatches vm then ∅
  else diskMatches (input.request vm req) host (input.hosts.get host) input.narrow

def sharedDstores (vm req : ℕ) : Finset ℕ :=
  if input.hostMatches vm = ∅ then ∅
  else
    match input.usedSharedDstores.lookup (vm, req) with
    | some dstore => {dstore}
    | none => sharedMatches (input.request vm req) input.dstoreCaps input.narrow

def storagePlaces (vm req : ℕ) : Finset ((Σ _ : ℕ, ℕ) ⊕ ℕ) :=
  ((input.hostMatches vm).sigma (input.hostDisks vm req)).disjSum (input.sharedDstores vm req)

def diskRequests (host disk : ℕ) : Finset (Σ _ : ℕ, ℕ) :=
  input.vms.ids.sigma fun vm => (input.vms.get vm).storage.ids.filter fun req => disk ∈ input.hostDisks vm req host

def dstoreRequests (dstore : ℕ) : Finset (Σ _ : ℕ, ℕ) :=
  input.vms.ids.sigma fun vm => (input.vms.get vm).storage.ids.filter fun req => dstore ∈ input.sharedDstores vm req

def nics (vm : ℕ) : Finset ℕ := if input.state vm = some .pending then (input.vms.get vm).nicMatches.ids else ∅

def nicVnets (vm nic : ℕ) : Finset ℕ := ((input.vms.get vm).nicMatches.get nic).toFinset

def vnetNics (vm vnet : ℕ) : Finset ℕ := (input.nics vm).filter fun nic => vnet ∈ input.nicVnets vm nic

def vnetRequests (vnet : ℕ) : Finset (Σ _ : ℕ, ℕ) := input.vms.ids.sigma fun vm => input.vnetNics vm vnet

def vmClusters (vm : ℕ) : Finset ℕ := (input.hostMatches vm).image fun host => (input.hosts.get host).clusterId

def clusterPairs : List (ℕ × ℕ) :=
  input.vmClusterGroups.flatMap fun
    | [] => []
    | first :: rest => rest.map fun other => (first, other)

def migrations : Finset (Σ _ : ℕ, ℕ) :=
  (input.vms.ids.filter fun vm => vm ∈ input.currentPlacement.ids).sigma fun vm =>
    (input.hostMatches vm).filter fun host => host ≠ input.currentPlacement.get vm

/-- No lookup fails while the model is built, and no constraint is given twice. -/
structure Builds : Prop where
  usedHost : ∀ key ∈ input.usedHostDstores.ids, key.1 ∈ input.currentPlacement.ids
  usedShared : ∀ key ∈ input.usedSharedDstores.ids,
    key.1 ∈ input.vms.ids ∧ key.2 ∈ (input.vms.get key.1).storage.ids
  groups : ∀ group ∈ input.vmGroups.ids, ∀ vm ∈ (input.vmGroups.get group).vmIds, vm ∈ input.vms.ids
  vnets : ∀ vm ∈ input.vms.ids, ∀ nic ∈ input.nics vm, ∀ vnet ∈ input.nicVnets vm nic, vnet ∈ input.vnets.ids
  disks : ∀ vm ∈ input.vms.ids, ∀ req ∈ (input.vms.get vm).storage.ids, (input.request vm req).allowHostDstores = true →
    ∀ disks ∈ (input.request vm req).hostDstoreIds, ∀ host ∈ disks.ids, host ∈ input.hostMatches vm →
      ∀ disk ∈ disks.get host, disk ∈ (input.hosts.get host).disks.ids
  dstores : ∀ vm ∈ input.vms.ids, ∀ req ∈ (input.vms.get vm).storage.ids, (input.request vm req).allowHostDstores = false →
    ∀ dstore ∈ (input.request vm req).sharedDstoreIds, dstore ∈ input.dstores.ids
  placedDstores : ∀ vm ∈ input.vms.ids, ∀ req ∈ (input.vms.get vm).storage.ids, ∀ dstore ∈ input.sharedDstores vm req,
    dstore ∈ input.dstores.ids
  joined : ∀ vm ∈ input.vms.ids, input.sharedGroup vm = none → ∀ group ∈ input.affinedGroup vm,
    ∀ host ∈ input.hostMatches vm,
      ∃ other ∈ input.vms.ids, input.sharedGroup other = some group ∧ host ∈ input.hostMatches other
  remaining : ∀ vm ∈ input.vms.ids, input.state vm = some .resched → ∀ req ∈ (input.vms.get vm).storage.ids,
    ∀ disk ∈ input.usedHostDstores.lookup (vm, req), disk ∈ input.hostDisks vm req (input.currentPlacement.get vm)
  clusterGroups : [] ∉ input.vmClusterGroups ∧
    ∀ pair ∈ input.clusterPairs, pair.1 ∈ input.vms.ids ∧ pair.2 ∈ input.vms.ids
  clusterNames : (input.clusterPairs.filter fun pair =>
    decide (input.vmClusters pair.1 ∩ input.vmClusters pair.2 ≠ ∅)).Nodup

end Input

namespace Assignment

variable (input : Input) (values : Assignment)

def next (vm host : ℕ) : Bool :=
  match input.sharedGroup vm with
  | some group => values.groupAlloc group host
  | none => values.alloc vm host

def pending (vm : ℕ) : Bool :=
  if input.hostMatches vm = ∅ then true
  else if vm ∈ input.currentPlacement.ids then false
  else
    match input.sharedGroup vm with
    | some group => values.groupPend group
    | none => values.pend vm

def shared (vm req dstore : ℕ) : Bool :=
  if (vm, req) ∈ input.usedSharedDstores.ids then true else values.sharedDstore vm req dstore

/-- The variables of the disks and datastores of a storage requirement -/
def stored (vm req : ℕ) : ((Σ _ : ℕ, ℕ) ⊕ ℕ) → Bool
  | .inl place => values.hostDisk vm req place.1 place.2
  | .inr dstore => values.shared input vm req dstore

def inCluster (vm cluster : ℕ) : ℚ :=
  ∑ host ∈ (input.hostMatches vm).filter fun host => (input.hosts.get host).clusterId = cluster,
    bit (values.next input vm host)

/-- `_add_constraints` -/
structure Satisfies : Prop where
  oneHost : ∀ vm ∈ input.vms.ids, input.hostMatches vm ≠ ∅ →
    ∑ host ∈ input.hostMatches vm, bit (values.next input vm host) + bit (values.pending input vm) = 1
  memory : ∀ host ∈ input.hosts.ids, input.vmMatches host ≠ ∅ →
    ∑ vm ∈ input.vmMatches host, ((input.vms.get vm).memory : ℚ) * bit (values.next input vm host) ≤
      (input.hosts.get host).memory.available input.narrow * bit (values.used host)
  cpu : ∀ host ∈ input.hosts.ids, input.vmMatches host ≠ ∅ →
    ∑ vm ∈ input.vmMatches host, ((input.vms.get vm).cpuRatio : ℚ) * bit (values.next input vm host) ≤
      (input.hosts.get host).cpu.available input.narrow * bit (values.used host)
  committed : ∀ vm ∈ input.vms.ids, ∀ host ∈ input.hostMatches vm,
    bit (values.next input vm host) ≤ bit (values.used host)
  withGroup : ∀ vm ∈ input.vms.ids, input.sharedGroup vm = none → ∀ group ∈ input.affinedGroup vm,
    ∀ host ∈ input.hostMatches vm, bit (values.next input vm host) ≤ bit (values.groupAlloc group host)
  antiAffined : ∀ group ∈ input.antiAffinedGroups, ∀ left ∈ (input.vmGroups.get group).vmIds,
    ∀ right ∈ (input.vmGroups.get group).vmIds, left ≠ right →
      ∀ host ∈ input.hostMatches left ∩ input.hostMatches right,
        bit (values.next input left host) + bit (values.next input right host) ≤ 1
  pciAllocation : ∀ vm ∈ input.vms.ids, ∀ request < (input.vms.get vm).pciDevices.length,
    ∀ place ∈ input.pciPlaces vm request,
      bit (values.pci vm request place.1 place.2) ≤ bit (values.next input vm place.1)
  pciRequest : ∀ vm ∈ input.vms.ids, ∀ request < (input.vms.get vm).pciDevices.length,
    input.pciPlaces vm request ≠ ∅ →
      ∑ place ∈ input.pciPlaces vm request, bit (values.pci vm request place.1 place.2) =
        1 - bit (values.pending input vm)
  pciDevice : ∀ host address, ∑ key ∈ input.pciRequests host address, bit (values.pci key.1 key.2 host address) ≤ 1
  diskAllocation : ∀ vm ∈ input.vms.ids, ∀ req ∈ (input.vms.get vm).storage.ids, ∀ host ∈ input.hostMatches vm,
    ∀ disk ∈ input.hostDisks vm req host, bit (values.hostDisk vm req host disk) ≤ bit (values.next input vm host)
  remaining : ∀ vm ∈ input.vms.ids, input.state vm = some .resched → ∀ req ∈ (input.vms.get vm).storage.ids,
    ∀ disk ∈ input.usedHostDstores.lookup (vm, req),
      bit (values.next input vm (input.currentPlacement.get vm)) ≤
        bit (values.hostDisk vm req (input.currentPlacement.get vm) disk)
  storage : ∀ vm ∈ input.vms.ids, ∀ req ∈ (input.vms.get vm).storage.ids,
    ∑ place ∈ input.storagePlaces vm req, bit (values.stored input vm req place) = 1 - bit (values.pending input vm)
  disk : ∀ host disk, input.diskRequests host disk ≠ ∅ →
    ∑ key ∈ input.diskRequests host disk,
      ((input.request key.1 key.2).size : ℚ) * bit (values.hostDisk key.1 key.2 host disk) ≤
        ((input.hosts.get host).disks.get disk).available input.narrow * bit (values.used host)
  dstore : ∀ dstore, input.dstoreRequests dstore ≠ ∅ →
    ∑ key ∈ input.dstoreRequests dstore,
      ((input.request key.1 key.2).size : ℚ) * bit (values.shared input key.1 key.2 dstore) ≤
        (input.dstoreCaps.get dstore).size.available input.narrow
  nic : ∀ vm ∈ input.vms.ids, ∀ nic ∈ input.nics vm, input.nicVnets vm nic ≠ ∅ →
    ∑ vnet ∈ input.nicVnets vm nic, bit (values.vnet vm nic vnet) = 1 - bit (values.pending input vm)
  addresses : ∀ vnet, input.vnetRequests vnet ≠ ∅ →
    ∑ key ∈ input.vnetRequests vnet, bit (values.vnet key.1 key.2 vnet) ≤ ((input.vnets.get vnet).freeIpAddresses : ℚ)
  share : ∀ vm ∈ input.vms.ids, (input.vms.get vm).shareVnets = false → ∀ vnet, input.vnetNics vm vnet ≠ ∅ →
    ∑ nic ∈ input.vnetNics vm vnet, bit (values.vnet vm nic vnet) = 1 - bit (values.pending input vm)
  dstoreCluster : ∀ vm ∈ input.vms.ids, ∀ req ∈ (input.vms.get vm).storage.ids, ∀ dstore ∈ input.sharedDstores vm req,
    bit (values.shared input vm req dstore) ≤
      ∑ cluster ∈ (input.dstoreCaps.get dstore).clusterIds, values.inCluster input vm cluster
  vnetCluster : ∀ vm ∈ input.vms.ids, ∀ nic ∈ input.nics vm, ∀ vnet ∈ input.nicVnets vm nic,
    bit (values.vnet vm nic vnet) ≤ ∑ cluster ∈ (input.vnets.get vnet).clusterIds, values.inCluster input vm cluster
  sameCluster : ∀ pair ∈ input.clusterPairs, ∀ cluster ∈ input.vmClusters pair.1 ∩ input.vmClusters pair.2,
    values.inCluster input pair.1 cluster = values.inCluster input pair.2 cluster
  migrations : ∀ bound ∈ input.allowedMigrations,
    ∑ key ∈ input.migrations, bit (values.next input key.1 key.2) ≤ bound

end Assignment

structure Allocation where
  host : Option ℕ
  hostDisk : ℕ → Option ℕ
  sharedDstore : ℕ → Option ℕ
  vnet : ℕ → Option ℕ

def Assignment.optPlacement (values : Assignment) (input : Input) (vm : ℕ) : Option Allocation :=
  if values.pending input vm then none
  else
    let matching := input.hosts.keys.filter fun host => host ∈ input.hostMatches vm
    some
      { host := matching.find? fun host => values.next input vm host
        hostDisk := fun req =>
          (matching.flatMap fun host => (input.hosts.get host).disks.keys.filter fun disk =>
            disk ∈ input.hostDisks vm req host ∧ values.hostDisk vm req host disk).getLast?
        sharedDstore := fun req =>
          (input.dstores.keys.filter fun dstore =>
            dstore ∈ input.sharedDstores vm req ∧ values.shared input vm req dstore).getLast?
        vnet := fun nic =>
          if nic ∈ input.nics vm then ((input.vms.get vm).nicMatches.get nic).find? fun vnet => values.vnet vm nic vnet
          else none }

end OpenNebula.OneDrs
