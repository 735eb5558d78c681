import OpenNebula.OneDrs.ILPOptimizer
import Mathlib.Data.List.MinMax
import Mathlib.Data.Rat.Floor

namespace OpenNebula.OneDrs

open Library

/-! # The storage in the scheduler's document (`optimizer_parser.py`, `optimizer_serializer.py`)

What the parser reads besides the storage is taken as it is given to the program.
-/

inductive DatastoreType where
  | systemDs | imageDs | other
deriving DecidableEq

structure Datastore where
  type : DatastoreType
  shared : Bool
  clusterIds : Finset ℕ
  limitMb : Option ℕ := none
  totalMb : ℕ
  usedMb : ℕ

instance : Inhabited Datastore := ⟨{ type := .other, shared := false, clusterIds := ∅, totalMb := 0, usedMb := 0 }⟩

inductive Target where
  | self | system | other
deriving DecidableEq

structure Disk where
  /-- A `SWAP` or `FS` disk -/
  volatile : Bool := false
  size : ℕ
  snapshotSize : ℕ := 0
  clone : Option Bool := none
  cloneTarget : Option Target := none
  lnTarget : Option Target := none
  datastoreId : Option ℕ := none

structure Machine where
  requirements : VMRequirements
  disks : List Disk
  /-- Sequence numbers and system datastores -/
  history : List (ℕ × ℕ) := []

instance : Inhabited Machine := ⟨default, [], []⟩

structure Host where
  capacity : HostCapacity
  clusterId : ℕ
  localDs : List ℕ := []
  usedDisk : ℚ := 0
  freeDisk : ℚ := 0
  vms : List ℕ := []

instance : Inhabited Host := ⟨{ capacity := default, clusterId := 0 }⟩

namespace Disk

variable (disk : Disk)

def fullSize : ℕ := disk.snapshotSize + disk.size

def target : Option Target :=
  if disk.volatile then none
  else disk.clone.bind fun clone => if clone then disk.cloneTarget else disk.lnTarget

def imageUsage : ℕ := if disk.target = some .self then disk.fullSize else 0

def systemUsage : ℕ := if disk.volatile ∨ disk.target = some .system then disk.fullSize else 0

end Disk

/-- The pools of the document; an object of a pool is known by its identifier. -/
structure Document where
  datastores : Table ℕ Datastore
  hosts : Table ℕ Host
  vms : Table ℕ Machine
  /-- The datastores that match each VM that is to be scheduled -/
  requirements : Table ℕ (List ℕ)
  memorySystemDsScale : ℚ := 0
  vmGroups : Table ℕ VMGroup := .ofList []
  vnets : Table ℕ VNetCapacity := .ofList []
  allowedMigrations : Option ℕ := none
  matchesSystem : ∀ vm ∈ requirements.ids, ∀ id ∈ requirements.get vm, id ∈ datastores.ids →
    (datastores.get id).type = .systemDs
  imagesStored : ∀ vm ∈ vms.ids, ∀ disk ∈ (vms.get vm).disks, disk.volatile = false → ∀ id ∈ disk.datastoreId,
    id ∈ datastores.ids → (datastores.get id).type = .imageDs

namespace Document

variable (document : Document)

def sharedDs : Finset ℕ := document.datastores.ids.filter fun id =>
  (document.datastores.get id).type ≠ .imageDs ∧ (document.datastores.get id).shared

def localHosts (id : ℕ) : List ℕ := document.hosts.keys.filter fun host => id ∈ (document.hosts.get host).localDs

def isLocal (id : ℕ) : Bool := document.localHosts id ≠ []

def getSystemDs (host : ℕ) : Option ℕ :=
  if host ∈ document.hosts.ids then
    document.datastores.keys.find? fun id =>
      (document.datastores.get id).type = .systemDs ∧
        (document.hosts.get host).clusterId ∈ (document.datastores.get id).clusterIds
  else none

/-- `_build_dstores`: local datastores are allowed if some of them match, and then shared ones are not. -/
def systemRequirement (vm : ℕ) (size : ℚ≥0) : DStoreRequirement :=
  let hostDisks := (document.requirements.get vm).flatMap document.localHosts
  { size := size
    allowHostDstores := hostDisks ≠ []
    hostDstoreIds := some ⟨hostDisks, fun _ => [0]⟩
    sharedDstoreIds := (document.requirements.get vm).filter fun id => !document.isLocal id && id ∈ document.sharedDs }

def memoryUsage (vm : ℕ) : ℚ :=
  if 0 < (document.vms.get vm).requirements.memory ∧ 0 ≤ document.memorySystemDsScale then
    (document.vms.get vm).requirements.memory * document.memorySystemDsScale
  else 0

def diskRequirement (vm : ℕ) (disk : Disk) : DStoreRequirement :=
  if !disk.volatile && disk.clone.isNone then document.systemRequirement vm 0
  else if 0 < disk.imageUsage then
    { size := disk.imageUsage
      allowHostDstores := false
      sharedDstoreIds := disk.datastoreId.toList }
  else document.systemRequirement vm (⌊disk.systemUsage + document.memoryUsage vm⌋.toNat : ℕ)

def buildVmStorage (vm : ℕ) : Table ℕ DStoreRequirement :=
  let disks := (document.vms.get vm).disks
  if disks = [] then
    if document.requirements.get vm = [] then .ofList [] else ⟨[0], fun _ => document.systemRequirement vm 0⟩
  else ⟨List.range disks.length, fun req => (disks[req]?).elim default (document.diskRequirement vm)⟩

def scheduled : List ℕ := document.requirements.keys.filter fun vm => vm ∈ document.vms.ids

def lastDs (vm : ℕ) : Option ℕ := ((document.vms.get vm).history.argmax Prod.fst).map Prod.snd

def currentPlacement : Table ℕ ℕ where
  keys := document.hosts.keys.flatMap fun host => (document.hosts.get host).vms
  get vm := ((document.hosts.keys.filter fun host => vm ∈ (document.hosts.get host).vms).getLast?).getD 0

/-- The VMs whose last datastore is local: their first requirement uses a disk. -/
def usedHostDstores : Table (ℕ × ℕ) ℕ where
  keys := (document.scheduled.filter fun vm => (document.lastDs vm).any document.isLocal).map fun vm => (vm, 0)
  get _ := 0

def usedSharedDstores : Table (ℕ × ℕ) ℕ where
  keys := (document.scheduled.filter fun vm =>
    (document.lastDs vm).any fun id => !document.isLocal id && id ∈ document.sharedDs).map fun vm => (vm, 0)
  get key := (document.lastDs key.1).getD 0

def input : Input where
  currentPlacement := document.currentPlacement
  usedHostDstores := document.usedHostDstores
  usedSharedDstores := document.usedSharedDstores
  vms := ⟨document.scheduled, fun vm =>
    { (document.vms.get vm).requirements with storage := document.buildVmStorage vm }⟩
  vmGroups := document.vmGroups
  hosts := ⟨document.hosts.keys, fun id =>
    let host := document.hosts.get id
    { host.capacity with
      disks := ⟨[0], fun _ => ⟨host.freeDisk + host.usedDisk, host.usedDisk⟩⟩
      clusterId := host.clusterId }⟩
  dstores := ⟨document.datastores.keys.filter fun id => id ∈ document.sharedDs, fun id =>
    let store := document.datastores.get id
    ⟨⟨(store.limitMb.getD store.totalMb : ℕ), store.usedMb⟩, store.clusterIds⟩⟩
  vnets := document.vnets
  allowedMigrations := document.allowedMigrations

/-- No lookup fails; a disk without a datastore is looked for in vain. -/
structure Builds : Prop where
  program : document.input.Builds
  imageDatastores : ∀ vm ∈ document.scheduled, ∀ disk ∈ (document.vms.get vm).disks,
    0 < disk.imageUsage → disk.datastoreId.isSome

variable (vm : ℕ) (allocation : Allocation)

def sharedDstoreIds : List ℕ := (document.buildVmStorage vm).keys.filterMap allocation.sharedDstore

def hostDstoreIds : List ℕ := (document.buildVmStorage vm).keys.filterMap allocation.hostDisk

def localMatches (host : ℕ) : Finset ℕ :=
  (document.hosts.get host).localDs.toFinset ∩ (document.requirements.get vm).toFinset

def getVmDs : Finset (Option ℕ) :=
  match allocation.host with
  | none => ∅
  | some host =>
    if document.sharedDstoreIds vm allocation ≠ [] then
      match (document.sharedDstoreIds vm allocation).find? fun id => id ∈ document.sharedDs with
      | some id => {some id}
      | none => {document.getSystemDs host}
    else if document.hostDstoreIds vm allocation ≠ [] then (document.localMatches vm host).image some
    else {document.getSystemDs host}

end Document

inductive Operation where
  | deploy | migrate
deriving DecidableEq

structure Action where
  vm : ℕ
  operation : Operation
  host : Option ℕ
  ds : Option ℕ
deriving DecidableEq

namespace Document

variable (document : Document) (values : Assignment) (vm : ℕ)

def getOperation (allocation : Allocation) : Option Operation :=
  match document.currentPlacement.lookup vm with
  | none => some .deploy
  | some host => if allocation.host = some host then none else some .migrate

/-- The actions that `build_optimizer_output` may emit for a VM -/
def actions : Finset Action :=
  match values.optPlacement document.input vm with
  | none => ∅
  | some allocation =>
    match document.getOperation vm allocation with
    | none => ∅
    | some operation => (document.getVmDs vm allocation).image fun ds => ⟨vm, operation, allocation.host, ds⟩

/-- Where the program reserves the space of a datastore that is used from a host -/
def placeOf (id host : ℕ) : (Σ _ : ℕ, ℕ) ⊕ ℕ := if document.isLocal id then .inl ⟨host, 0⟩ else .inr id

def Reserved (req : ℕ) (place : (Σ _ : ℕ, ℕ) ⊕ ℕ) : Prop :=
  place ∈ document.input.storagePlaces vm req ∧ values.stored document.input vm req place = true

def Usable (id host : ℕ) : Prop :=
  if document.isLocal id then id ∈ (document.hosts.get host).localDs
  else (document.hosts.get host).clusterId ∈ (document.datastores.get id).clusterIds

def systemRequests : Finset ℕ := (document.buildVmStorage vm).ids.filter fun req =>
  ((document.vms.get vm).disks[req]?).all fun disk => disk.imageUsage = 0

structure Agrees (action : Action) (host id : ℕ) : Prop where
  hostIs : action.host = some host
  dsIs : action.ds = some id
  matched : id ∈ document.requirements.get action.vm
  system : id ∈ document.datastores.ids → (document.datastores.get id).type = .systemDs
  usable : document.Usable id host
  reserved : ∀ req ∈ document.systemRequests action.vm,
    document.Reserved values action.vm req (document.placeOf id host)

end Document

end OpenNebula.OneDrs
