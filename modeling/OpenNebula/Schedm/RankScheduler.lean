import OpenNebula.Schedm.VMGroups

namespace OpenNebula.Schedm.Rank

open Library

/-! # The rank scheduler

`match_schedule` and `dispatch`.  The order that the priorities of the policies give to the
resources is a parameter.
-/

/-- An order of resources, by ascending priority -/
structure Ranking where
  sort : List Oid → List Oid
  perm : ∀ resources, (sort resources).Perm resources

structure Scheduler (δ : Type) where
  hostDispatchLimit : Nat
  diffVnets : Bool
  devices : Devices δ
  vmPolicy : Ranking
  hostPolicy : Oid → Ranking
  dsPolicy : Oid → Ranking
  nicPolicy : Oid → Nat → Ranking

inductive Operation where
  | deploy | migrate
deriving DecidableEq

structure ActionXML where
  vm : Oid
  host : Oid
  ds : Oid
  operation : Operation
  nics : List (Nat × Oid)
deriving DecidableEq

namespace Scheduler

variable {δ : Type} (scheduler : Scheduler δ) (pools : Pools δ) (oid : Oid) (vm : VirtualMachineXML)

def matchHost (sr : HostShareCapacity) (host : HostXML δ) : Bool :=
  host.testCapacity scheduler.devices sr ∧ (vm.requirements = "" ∨ host.meets vm.requirements)

def matchHosts : List Oid :=
  vm.prereqHosts.filter fun hid =>
    (pools.hosts.lookup hid).any (scheduler.matchHost vm (vm.getCapacity oid))

def matchSystemDs (disk : Nat) (ds : DatastoreXML) : Bool :=
  if ds.shared ∧ ¬vm.resched ∧ ¬vm.resume then ds.monitored ∧ ds.testCapacity disk else true

def matchDatastores : List Oid :=
  vm.prereqDs.filter fun dsid =>
    (pools.datastores.lookup dsid).any (matchSystemDs vm (vm.getCapacity oid).disk)

def matchNics (matched : Map Nat (List Oid)) : List (Σ _ : Nat, List Oid) → Option (Map Nat (List Oid))
  | [] => some matched
  | ⟨nic, vnetIds⟩ :: rest =>
    if nic ∈ vm.nicsIds then
      match vnetIds.filter fun id => (pools.vnets.lookup id).any (·.testLeases) with
      | [] => none
      | vnets => matchNics (matched.insert nic ((scheduler.nicPolicy oid nic).sort vnets)) rest
    else matchNics matched rest

/-- The body of the loop of `match_schedule`: the VM with its matches, and whether it is still
to be dispatched -/
def matchVm : VirtualMachineXML × Bool :=
  if ¬vm.resched ∧ ¬vm.resume ∧ ¬vm.testImageDatastoreCapacity pools.images then (vm, false)
  else
    let hosts := scheduler.matchHosts pools oid vm
    let vm := { vm with matchHosts := hosts.filter fun hid => ¬(vm.resched ∧ vm.hid = some hid) }
    if hosts = [] then (vm, false)
    else
      let vm := { vm with matchHosts := (scheduler.hostPolicy oid).sort vm.matchHosts }
      if vm.resched then ({ vm with matchDatastores := vm.dsid.toList }, true)
      else
        let datastores := matchDatastores pools oid vm
        if datastores = [] then ({ vm with matchHosts := [] }, false)
        else
          match scheduler.matchNics pools oid vm ∅ vm.prereqNics.entries with
          | none => ({ vm with matchHosts := [] }, false)
          | some networks =>
            ({ vm with
              matchDatastores := (scheduler.dsPolicy oid).sort datastores
              matchNetworks := networks }, true)

def matchSchedule : Pools δ × List Oid :=
  if pools.hosts.entries = [] ∨ pools.datastores.entries = [] then (pools, pools.vms.keys)
  else
    ({ pools with vms := Map.modify (fun oid vm => (scheduler.matchVm pools oid vm).1) pools.vms },
      pools.vms.keys.filter fun oid =>
        (pools.vms.lookup oid).any fun vm => (scheduler.matchVm pools oid vm).2)

def currentVmsText : List Char := "CURRENT_VMS".toList

/-- A host is asked again only about requirements with `CURRENT_VMS`. -/
def stillMeets (host : HostXML δ) : Bool :=
  if currentVmsText <:+: vm.requirements.toList then host.meets vm.requirements else true

def hasRoom (host : HostXML δ) (dsid : Oid) (disk : Nat) (ds : DatastoreXML) : Bool :=
  if ds.shared then
    if ¬ds.monitored then false
    else if vm.resched ∨ vm.resume then true
    else ds.testCapacity disk
  else host.testDsCapacity dsid disk

def selectDatastore (host : HostXML δ) (disk : Nat) : Option Oid :=
  vm.matchDatastores.reverse.find? fun dsid =>
    (pools.datastores.lookup dsid).any fun ds =>
      ds.clusters.contains host.cluster && hasRoom vm host dsid disk ds

def selectNetwork (cluster : Int) (vnets : Map Oid VirtualNetworkXML) (used : List Oid)
    (matched : List Oid) : Option Oid :=
  matched.reverse.find? fun id =>
    !(scheduler.diffVnets && used.contains id) &&
      (vnets.lookup id).any fun net => net.clusters.contains cluster && net.testLeases

def leaseNics (cluster : Int) : List Nat → Map Oid VirtualNetworkXML → List (Nat × Oid) →
      Map Oid VirtualNetworkXML × List (Nat × Oid)
  | [], vnets, leased => (vnets, leased)
  | nic :: rest, vnets, leased =>
    match scheduler.selectNetwork cluster vnets (leased.map Prod.snd)
        ((vm.matchNetworks.lookup nic).getD []) with
    | none => (vnets, leased)
    | some id =>
      leaseNics cluster rest (vnets.update id (·.addLease)) (leased ++ [(nic, id)])

def networksCounter (leased : List (Nat × Oid)) : Map Oid Nat :=
  leased.foldl (fun counter nic =>
    counter.insert nic.2 ((counter.lookup nic.2).getD 0 + 1)) ∅

def rollback (leased : List (Nat × Oid)) (vnets : Map Oid VirtualNetworkXML) : Map Oid VirtualNetworkXML :=
  (networksCounter leased).entries.foldl (fun vnets row =>
    vnets.update row.1 (·.rollbackLeases row.2)) vnets

def addAffinedMatches (hid dsid : Oid) (vms : Map Oid VirtualMachineXML) : Map Oid VirtualMachineXML :=
  vm.affinedVms.foldl (fun vms id =>
    vms.update id fun avm => (avm.addMatchHost hid).addMatchDatastore dsid) vms

def charge (hid : Oid) (host : HostXML δ) (dsid : Oid) (sr : HostShareCapacity) : Pools δ :=
  let shared := (pools.datastores.lookup dsid).any (·.shared)
  let host := if shared then host else host.addDsCapacity dsid sr.disk
  { pools with
    hosts := pools.hosts.update hid fun _ => host.addCapacity scheduler.devices sr
    datastores :=
      if shared ∧ ¬vm.resched ∧ ¬vm.resume then
        pools.datastores.update dsid (·.addCapacity sr.disk)
      else pools.datastores
    images := if vm.resched then pools.images else vm.addImageDatastoreCapacity pools.images
    vms := addAffinedMatches vm hid dsid pools.vms }

def tryHost (sr : HostShareCapacity) (pools : Pools δ) (hid : Oid) : Pools δ × Option ActionXML :=
  match pools.hosts.lookup hid with
  | none => (pools, none)
  | some host =>
    if ¬stillMeets vm host ∨ ¬host.testCapacity scheduler.devices sr ∨
        (0 < scheduler.hostDispatchLimit ∧ scheduler.hostDispatchLimit ≤ host.dispatchedVms.length) then (pools, none)
    else
      match selectDatastore pools vm host sr.disk with
      | none => (pools, none)
      | some dsid =>
        let (vnets, leased) := scheduler.leaseNics vm host.cluster vm.nicsIds pools.vnets []
        if ¬vm.resched ∧ leased.length < vm.nicsIds.length then
          ({ pools with vnets := rollback leased vnets }, none)
        else
          (scheduler.charge { pools with vnets := vnets } vm hid host dsid sr, some
              { vm := oid, host := hid, ds := dsid
                operation := if vm.resched then .migrate else .deploy
                nics := if vm.resched then [] else leased })

def tryHosts (sr : HostShareCapacity) (pools : Pools δ) : List Oid → Pools δ × Option ActionXML
  | [] => (pools, none)
  | hid :: rest =>
    match scheduler.tryHost oid vm sr pools hid with
    | (pools, none) => tryHosts sr pools rest
    | dispatched => dispatched

def dispatchVm : Pools δ × Option ActionXML :=
  match pools.vms.lookup oid with
  | none => (pools, none)
  | some vm =>
    if vm.matchHosts ≠ [] ∧ ¬vm.resched ∧ ¬vm.resume ∧
        ¬vm.testImageDatastoreCapacity pools.images then (pools, none)
    else scheduler.tryHosts oid vm (vm.getCapacity oid) pools vm.matchHosts.reverse

def dispatchAll (pools : Pools δ) : List Oid → Pools δ × List ActionXML
  | [] => (pools, [])
  | oid :: rest =>
    let (next, action) := scheduler.dispatchVm pools oid
    let (last, plan) := dispatchAll next rest
    (last, action.toList ++ plan)

def dispatchOrder (resources : List Oid) : List Oid := (scheduler.vmPolicy.sort resources).reverse

end Scheduler

structure SchedulerInput (δ : Type) where
  pools : Pools δ
  vmgpool : VMGroupPoolXML
  fresh : ∀ row ∈ pools.hosts.entries, row.2.dispatchedVms = []
  unmatched : ∀ row ∈ pools.vms.entries, row.2.matchHosts = [] ∧ row.2.matchDatastores = [] ∧
    row.2.affinedVms = []

namespace SchedulerInput

variable {δ : Type} (input : SchedulerInput δ)

def vmpool : Map Oid VirtualMachineXML := Map.filter (fun _ vm => vm.suitable) input.pools.vms

def rolesPool : Map Oid VirtualMachineXML := Map.filter (fun _ vm => vm.inRole) input.pools.vms

def grouped : Pools δ :=
  { input.pools with vms := doVmGroups input.vmgpool input.rolesPool input.vmpool }

def matched (scheduler : Scheduler δ) : Pools δ := (scheduler.matchSchedule input.grouped).1

def order (scheduler : Scheduler δ) : List Oid :=
  scheduler.dispatchOrder (scheduler.matchSchedule input.grouped).2

def plan (scheduler : Scheduler δ) : List ActionXML :=
  (scheduler.dispatchAll (input.matched scheduler) (input.order scheduler)).2

end SchedulerInput

def inOrder : Ranking := ⟨id, fun _ => .refl _⟩

def plainScheduler : Scheduler Unit where
  hostDispatchLimit := 0
  diffVnets := false
  devices := ⟨fun _ _ => true, fun _ _ => ()⟩
  vmPolicy := ⟨List.reverse, List.reverse_perm⟩
  hostPolicy := fun _ => inOrder
  dsPolicy := fun _ => inOrder
  nicPolicy := fun _ _ => inOrder

def plainHost (vms : List Oid) (cpuUsage maxCpu : Int) : HostXML Unit where
  cluster := 0
  vms := vms
  cpuUsage := cpuUsage
  maxCpu := maxCpu
  memUsage := 0
  maxMem := 10000000
  freeDisk := 1000
  dsFreeDisk := ∅
  devices := ()
  answers := fun _ _ _ _ => true

def plainDatastore (freeMb : Int) : DatastoreXML := ⟨[0], freeMb, true, true⟩

def plainVm : VirtualMachineXML where
  memory := 1
  cpu := 1
  systemDsUsage := 1
  prereqHosts := [0]
  prereqDs := [0]

end OpenNebula.Schedm.Rank
