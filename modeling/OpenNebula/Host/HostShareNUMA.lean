import Mathlib.Algebra.Order.Ring.Int
import Mathlib.Data.Finset.Card
import Mathlib.Data.List.Sort
import Mathlib.Data.Rat.Defs
import Mathlib.Algebra.Order.Ring.Rat
import OpenNebula.Library.Map

namespace OpenNebula.Host

open Library

/-! # NUMA nodes of a host (`HostShareNUMA`)

The attributes of a request are given as they are read: a value that cannot be read
is the default of its variable, or `none` where the reader asks.
-/

/-- A CPU thread and the virtual machines that it is assigned to -/
structure Cpu where
  id : Nat
  vms : List Nat
deriving DecidableEq

/-- Without the marks of a VM, when the thread is in the list -/
def Cpu.unmark (vmid : Nat) (ids : List Nat) (cpu : Cpu) : Cpu :=
  if cpu.id ∈ ids then { cpu with vms := cpu.vms.filter (· ≠ vmid) } else cpu

structure Core where
  id : Nat
  freeCpus : Nat
  usedCpus : Nat
  vmsThread : Nat
  dedicated : Bool
  /-- In the order of their ids -/
  cpus : List Cpu
  reservedCpus : Finset Nat
deriving DecidableEq

namespace Core

variable (core : Core)

def marks : Nat := (core.cpus.map fun cpu => cpu.vms.length).sum

def setCpuUsage : Core :=
  if core.dedicated then { core with freeCpus := 0, usedCpus := 1 }
  else
    { core with
      usedCpus := core.marks
      freeCpus := (core.cpus.length - core.reservedCpus.card) * core.vmsThread % 2 ^ 32 - core.marks }

/-- A core that can be given to a VM as a whole -/
def isFree : Bool := core.usedCpus = 0 && core.reservedCpus.card < core.cpus.length

/-- The mark is set on the first thread. -/
def dedicate (id : Nat) : Core × List Nat :=
  match core.cpus with
  | [] => (core, [])
  | cpu :: rest =>
    ({ core with
        cpus := { cpu with vms := id :: cpu.vms } :: rest
        dedicated := true, usedCpus := 1, freeCpus := 0 }, [cpu.id])

/-- A thread that can take another VM -/
def accepts (cpu : Cpu) : Bool := cpu.vms.length < core.vmsThread && cpu.id ∉ core.reservedCpus

/-- The loop over the threads of a core, for at most `count` of them: every thread takes one
mark at most. -/
def markCpus (id : Nat) : Nat → List Cpu → List Cpu × List Nat
  | 0, cpus => (cpus, [])
  | _ + 1, [] => ([], [])
  | count + 1, cpu :: rest =>
    if core.accepts cpu then
      let (rest, ids) := markCpus id count rest
      ({ cpu with vms := id :: cpu.vms } :: rest, cpu.id :: ids)
    else
      let (rest, ids) := markCpus id (count + 1) rest
      (cpu :: rest, ids)

/-- `free_cpus--` and `used_cpus++` for every mark; `tcpus` is what is still to be allocated. -/
def allocateHt (id tc tcpus : Nat) : Core × List Nat :=
  let (cpus, ids) := core.markCpus id (min (core.freeCpus / tc * tc) tcpus) core.cpus
  ({ core with
      cpus
      freeCpus := (core.freeCpus + (2 ^ 32 - ids.length)) % 2 ^ 32
      usedCpus := core.usedCpus + ids.length }, ids)

def delCpus (vmid : Nat) (ids : List Nat) : Core × List Nat :=
  let own id := id ∈ core.cpus.map Cpu.id
  if ids.any fun id => own id then
    (setCpuUsage { core with cpus := core.cpus.map (Cpu.unmark vmid ids), dedicated := false },
      ids.filter fun id => !own id)
  else (core, ids)

/-- What becomes of a thread that is or is not in the list of reserved ones: threads in use
keep what they are. -/
def reserves (ids : List Nat) (cpu : Cpu) : Bool :=
  cpu.id ∈ ids && (cpu.vms.isEmpty || cpu.id ∈ core.reservedCpus)

def reserveCpus (ids : List Nat) : Core :=
  let updated := core.cpus.any fun cpu =>
    if cpu.id ∈ ids then cpu.vms.isEmpty else decide (cpu.id ∈ core.reservedCpus)
  let reserved := ((core.cpus.filter (core.reserves ids)).map Cpu.id).toFinset
  if updated then setCpuUsage { core with reservedCpus := reserved }
  else { core with reservedCpus := reserved }

end Core

structure HugePage where
  nr : Nat
  usage : Nat

structure HostShareNode where
  nodeId : Nat
  /-- In the order of their ids -/
  cores : List Core
  /-- By the size in KB -/
  pages : Map Nat HugePage
  totalMem : Int
  memUsage : Int
  /-- The nodes, the closest first -/
  distance : List Nat

namespace HostShareNode

variable (node : HostShareNode)

def empty (id : Nat) : HostShareNode :=
  { nodeId := id, cores := [], pages := ∅, totalMem := 0, memUsage := 0, distance := [] }

def freeCapacity (tc : Nat) : Nat := (node.cores.map fun core => core.freeCpus / tc).sum % 2 ^ 32

def freeDedicatedCapacity : Nat := node.cores.countP Core.isFree

/-- The loop over the cores; what is left to allocate is in `tcpus`. -/
def dedicateCores (id : Nat) : Nat → List Core → List Core × List Nat
  | 0, cores => (cores, [])
  | _ + 1, [] => ([], [])
  | tcpus + 1, core :: rest =>
    if core.isFree then
      let (core, ids) := core.dedicate id
      let (rest, more) := dedicateCores id tcpus rest
      (core :: rest, ids ++ more)
    else
      let (rest, ids) := dedicateCores id (tcpus + 1) rest
      (core :: rest, ids)

def htCores (id tc : Nat) : Nat → List Core → List Core × List Nat
  | 0, cores => (cores, [])
  | _ + 1, [] => ([], [])
  | tcpus + 1, core :: rest =>
    let (core, ids) := core.allocateHt id tc (tcpus + 1)
    let (rest, more) := htCores id tc (tcpus + 1 - ids.length) rest
    (core :: rest, ids ++ more)

def allocated (tcpus : Nat) (outcome : List Core × List Nat) : HostShareNode × List Nat :=
  ({ node with cores := outcome.1 }, if outcome.2.length = tcpus then outcome.2 else [])

def allocateDedicatedCpus (id tcpus : Nat) : HostShareNode × List Nat :=
  node.allocated tcpus (dedicateCores id tcpus node.cores)

def allocateHtCpus (id tcpus tc : Nat) : HostShareNode × List Nat :=
  node.allocated tcpus (htCores id tc tcpus node.cores)

def delCores (vmid : Nat) : List Nat → List Core → List Core
  | _, [] => []
  | ids, core :: rest =>
    let (core, ids) := core.delCpus vmid ids
    core :: delCores vmid ids rest

def delCpu (ids : List Nat) (vmid : Nat) : HostShareNode :=
  { node with cores := delCores vmid ids node.cores }

def lsCpus : List Nat :=
  node.cores.flatMap fun core =>
    (core.cpus.map Cpu.id).filter fun id => id ∉ core.reservedCpus

def freeMemory : Int := node.totalMem - node.memUsage

def addMemory (memory : Nat) : HostShareNode := { node with memUsage := node.memUsage + memory }

/-- `nr - usage`, as a signed number -/
def freePages (size : Nat) : Option Int :=
  (node.pages.lookup size).map fun page => (page.nr : Int) - page.usage

def addPages (size count : Nat) : HostShareNode :=
  match node.pages.lookup size with
  | none => node
  | some page =>
    { node with pages := node.pages.insert size { page with usage := page.usage + count } }

def delPages (size count : Nat) : HostShareNode :=
  match node.pages.lookup size with
  | none => node
  | some page =>
    { node with
      pages := node.pages.insert size
        { page with usage := if page.usage > count then page.usage - count else 0 } }

end HostShareNode

inductive PinPolicy where
  | none
  | core
  | thread
  | shared
deriving DecidableEq

structure Topology where
  pinPolicy : PinPolicy
  nodeAffinity : Int := -1
  /-- In MB -/
  hugepageSize : Nat := 0
  threads : Int := 0
  cores : Int := 0
  sockets : Int := 0

/-- `hpsz_kb` -/
def Topology.pageSize (topology : Topology) : Nat := topology.hugepageSize * 1024 % 2 ^ 64

structure VirtualNode where
  totalCpus : Nat := 0
  memory : Option Nat := none
  nodeId : Option Nat := none
  memoryNodeId : Option Nat := none
  cpus : Option (List Nat) := none

structure NumaCapacity where
  vmid : Nat
  vcpu : Nat
  mem : Nat
  pciNodes : List Int := []
  topology : Option Topology
  nodes : List VirtualNode

structure NUMANodeRequest where
  position : Nat
  totalCpus : Nat
  memory : Nat

/-- The nodes that a virtual node is given: `node_id` and `mem_node_id` -/
structure Placement where
  request : NUMANodeRequest
  nodeId : Nat
  memNodeId : Nat

/-- The temporal allocation on a node, which every search starts with 0 -/
structure Booking where
  cpus : Nat := 0
  memory : Nat := 0
  pages : Nat := 0

abbrev Bookings := Nat → Booking

/-- What `make_topology` returns: 0, -1, or not at all after a division by zero -/
inductive Outcome where
  | ok
  | failed
  | crashed
deriving DecidableEq

structure HostShareNUMA where
  nodes : Map Nat HostShareNode
  threadsCore : Nat

/-- The fraction of the CPUs of a node that stay free, a `float`, plus 1 when the node has
a PCI device of the VM -/
abbrev Fitness := (totalCpus capacity : Nat) → (hasPci : Bool) → ℚ

def exactFitness : Fitness := fun totalCpus capacity hasPci =>
  1 - (totalCpus : ℚ) / capacity + if hasPci then 1 else 0

namespace HostShareNUMA

variable (fitness : Fitness) (host : HostShareNUMA)

def inOrder : List (Σ _ : Nat, HostShareNode) :=
  host.nodes.entries.insertionSort fun left right => left.1 ≤ right.1

def getNode (id : Nat) : HostShareNode := (host.nodes.lookup id).getD (.empty id)

def setNode (id : Nat) (node : HostShareNode) : HostShareNUMA :=
  { host with nodes := host.nodes.insert id node }

/-- How the search for the nodes of a VM runs -/
structure Search where
  threads : Nat
  dedicated : Bool
  /-- `hpsz_kb`, 0 without huge pages -/
  pageSize : Nat

section

variable (search : Search)

def freeGroups (node : HostShareNode) (booked : Booking) : Nat :=
  let capacity := if search.dedicated then node.freeDedicatedCapacity else node.freeCapacity search.threads
  (capacity + (2 ^ 32 - booked.cpus / search.threads % 2 ^ 32)) % 2 ^ 32

section

variable (request : NUMANodeRequest)

def cpusFit (node : HostShareNode) (booked : Booking) : Bool :=
  request.totalCpus ≤ freeGroups search node booked * search.threads % 2 ^ 32

/-- `n_fhp`: the subtractions are those of `unsigned long`. -/
def freePages (page : HugePage) (booked : Booking) : Nat :=
  (page.nr + (2 ^ 64 - page.usage % 2 ^ 64) + (2 ^ 64 - booked.pages % 2 ^ 64)) % 2 ^ 64

def memoryFits (node : HostShareNode) (booked : Booking) : Bool :=
  (request.memory : Int) ≤ node.freeMemory - booked.memory &&
    (search.pageSize = 0 || ((node.pages.lookup search.pageSize).elim false fun page =>
        0 < freePages page booked && request.memory / search.pageSize ≤ freePages page booked))

def cpuFits (pci : Option Nat) (bookings : Bookings) : List Nat :=
  let fits := host.inOrder.filter fun row => cpusFit search request row.2 (bookings row.1)
  let graded := fits.map fun row =>
    (fitness request.totalCpus (search.threads * freeGroups search row.2 (bookings row.1))
      (pci = some row.2.nodeId), row.1)
  let sorted := graded.insertionSort fun left right =>
    left.1 < right.1 ∨ (left.1 = right.1 ∧ left.2 ≤ right.2)
  (sorted.map Prod.snd).reverse

def memFits (bookings : Bookings) : List Nat :=
  (host.inOrder.filter fun row => memoryFits search request row.2 (bookings row.1)).map Sigma.fst

/-- The closest memory first, then the best node for the CPUs.  Past the end of the list of
distances, where the code reads what is in memory, no node is found. -/
def closest (cpuFits memFits : List Nat) : Option (Nat × Nat) :=
  (List.range host.nodes.entries.length).findSome? fun hop =>
    cpuFits.findSome? fun snode =>
      match (host.getNode snode).distance[hop]? with
      | none => none
      | some memSnode => if memSnode ∈ memFits then some (snode, memSnode) else none

def book (snode : Nat) (bookings : Bookings) : Bookings :=
  let booked := bookings snode
  let pages :=
    if search.pageSize ≠ 0 ∧ search.pageSize ∈ (host.getNode snode).pages then
      request.memory / search.pageSize
    else 0
  Function.update bookings snode
    { cpus := booked.cpus + request.totalCpus
      memory := booked.memory + request.memory
      pages := booked.pages + pages }

def scheduleNodes (pci : Option Nat)
    (bookings : Bookings) : Option (Placement × Bookings) :=
  (host.closest (host.cpuFits fitness search request pci bookings)
      (host.memFits search request bookings)).map fun (snode, memSnode) =>
    (⟨request, snode, memSnode⟩, host.book search request snode bookings)

def testNodes (bookings : Bookings) : Bool :=
  (host.inOrder.any fun row => cpusFit search request row.2 (bookings row.1)) &&
    host.inOrder.any fun row => memoryFits search request row.2 (bookings row.1)

end

end

def useNode (pciNodes : List Int) (index : Nat) : Option Nat :=
  if (index : Int) ∈ pciNodes then some index else none

/-- The virtual nodes one after the other, with what the earlier ones booked -/
def scheduleAll (search : Search) (pciNodes : List Int) :
    Nat → Bookings → List NUMANodeRequest → Option (List Placement)
  | _, _, [] => some []
  | index, bookings, request :: rest =>
    match host.scheduleNodes fitness search request (useNode pciNodes index) bookings with
    | none => none
    | some (placement, bookings) =>
      (scheduleAll search pciNodes (index + 1) bookings rest).map (placement :: ·)

end HostShareNUMA

def NumaCapacity.vmNodes (sr : NumaCapacity) : List NUMANodeRequest :=
  (sr.nodes.zipIdx.map fun node => ⟨node.2, node.1.totalCpus, node.1.memory.getD 0⟩).filter
    fun request => 0 < request.totalCpus ∧ 0 < request.memory

def threadsMax (threadsCore : Nat) (wanted : Int) : Nat :=
  2 ^ Nat.log2 (if wanted ≤ 0 ∨ (threadsCore : Int) < wanted then threadsCore else wanted.toNat)

/-- `t_valid`, the largest first; `none` when the number of threads that is asked for is not
among them -/
def validThreads (threadsCore : Nat) (topology : Topology) (requests : List NUMANodeRequest) : Option (List Nat) :=
  if topology.pinPolicy = .core then some [1]
  else
    let tMax := threadsMax threadsCore topology.threads
    let powers := ((List.range (Nat.log2 tMax + 1)).map fun exponent => 2 ^ exponent).reverse
    let valid := powers.filter fun threads =>
      requests ≠ [] ∧ requests.all fun request => request.totalCpus % threads = 0
    if topology.threads = 0 then some valid
    else if topology.threads.toNat ∈ valid ∧ 0 < topology.threads then some [topology.threads.toNat]
    else none

def Placement.takeCpus (topology : Topology) (threads : Int) (vmid : Nat) (placement : Placement)
    (node : HostShareNode) : HostShareNode × List Nat :=
  if topology.pinPolicy = .core then node.allocateDedicatedCpus vmid placement.request.totalCpus
  else node.allocateHtCpus vmid placement.request.totalCpus threads.toNat

def Placement.takeMemory (topology : Topology) (placement : Placement) (node : HostShareNode) : HostShareNode :=
  let node := node.addMemory placement.request.memory
  if topology.pageSize = 0 then node
  else node.addPages topology.pageSize (placement.request.memory / topology.pageSize)

namespace HostShareNUMA

variable (fitness : Fitness) (host : HostShareNUMA)

section

variable (topology : Topology)

section

variable (sr : NumaCapacity)

/-- The first number of threads with which all the virtual nodes are found a place, and their
places; without a virtual node and a number, the one of the request. -/
def findThreads
    (find : Search → Option (List Placement)) : Option (Int × List Placement) :=
  (validThreads host.threadsCore topology sr.vmNodes).bind fun valid =>
    if valid = [] ∧ sr.vmNodes = [] then some (topology.threads, [])
    else
      valid.findSome? fun threads =>
        (find ⟨threads, topology.pinPolicy = .core, topology.pageSize⟩).map ((threads : Int), ·)

/-- Every virtual node for itself -/
def testAll (search : Search) : Option (List Placement) :=
  if sr.vmNodes.all fun request => host.testNodes search request fun _ => {} then some [] else none

def placeAll (search : Search) : Option (List Placement) :=
  host.scheduleAll fitness search sr.pciNodes 0 (fun _ => {}) sr.vmNodes

def places : Option (Int × List Placement) :=
  host.findThreads topology sr (host.placeAll fitness sr)

end

/-- The CPUs, the memory and the pages for one virtual node; `none` when a node or its pages
do not exist. -/
def allocateNode (threads : Int) (vmid : Nat) (placement : Placement) :
    HostShareNUMA × Option (List Nat) :=
  match host.nodes.lookup placement.nodeId with
  | none => (host, none)
  | some node =>
    let (node, ids) := placement.takeCpus topology threads vmid node
    let host := host.setNode placement.nodeId node
    match host.nodes.lookup placement.memNodeId with
    | none => (host, none)
    | some memNode =>
      if topology.pageSize = 0 ∨ topology.pageSize ∈ memNode.pages then
        (host.setNode placement.memNodeId (placement.takeMemory topology memNode), some ids)
      else
        (host.setNode placement.memNodeId (memNode.addMemory placement.request.memory), none)

def recorded (placement : Placement) (ids : List Nat) (node : VirtualNode) : VirtualNode :=
  { node with
    nodeId := some placement.nodeId
    cpus := some (if placement.request.totalCpus = 0 then [] else ids)
    memoryNodeId := if placement.request.memory = 0 then none else some placement.memNodeId }

def allocateAll (topology : Topology) (threads : Int) :
    HostShareNUMA → NumaCapacity → List Placement → HostShareNUMA × NumaCapacity × Bool
  | host, sr, [] => (host, sr, true)
  | host, sr, placement :: rest =>
    match host.allocateNode topology threads sr.vmid placement with
    | (host, none) => (host, sr, false)
    | (host, some ids) =>
      allocateAll topology threads host
        { sr with nodes := sr.nodes.modify placement.request.position (recorded placement ids) }
        rest

/-- `v_t * s_t`, as the unsigned number that `vcpu` is divided by -/
def divisor (threads : Int) : Nat := (threads * topology.sockets % 2 ^ 32).toNat

section

variable (sr : NumaCapacity)

def makePinnedTopology : HostShareNUMA × NumaCapacity × Outcome :=
  match host.places fitness topology sr with
  | none => (host, sr, .failed)
  | some (threads, placements) =>
    match allocateAll topology threads host sr placements with
    | (host, sr, false) => (host, sr, .failed)
    | (host, sr, true) =>
      if divisor topology threads = 0 then (host, sr, .crashed)
      else
        let cores := sr.vcpu / divisor topology threads
        (host, { sr with topology := some { topology with threads, cores } }, .ok)

def assigned (id : Nat) (cpus : List Nat) (node : VirtualNode) : VirtualNode :=
  { node with
    nodeId := some id
    memoryNodeId := if node.memory.getD 0 = 0 then none else some id
    cpus := some (if node.totalCpus = 0 then [] else cpus) }

def assignNode (pageSize id : Nat) (node : HostShareNode) : HostShareNUMA × NumaCapacity :=
  let used := node.addMemory sr.mem
  let used := if pageSize = 0 then used else used.addPages pageSize (sr.mem / pageSize)
  (host.setNode id used, { sr with nodes := sr.nodes.map (assigned id node.lsCpus) })

def memoryLeft (node : HostShareNode) : Bool :=
  0 < node.freeMemory && (sr.mem : Int) ≤ node.freeMemory

def pagesLeft (pageSize : Nat) (node : HostShareNode) : Bool :=
  (node.freePages pageSize).elim false fun pages =>
    0 < pages && ((sr.mem / pageSize : Nat) : Int) ≤ pages

def morePages (pageSize : Nat) (best : Option (Σ _ : Nat, HostShareNode))
    (row : Σ _ : Nat, HostShareNode) : Option (Σ _ : Nat, HostShareNode) :=
  match best with
  | none => some row
  | some found =>
    if (found.2.freePages pageSize).getD 0 < (row.2.freePages pageSize).getD 0 then some row
    else some found

def hugepageNode (pageSize : Nat) : Option (Σ _ : Nat, HostShareNode) :=
  (host.inOrder.filter fun row => memoryLeft sr row.2 && pagesLeft sr pageSize row.2).foldl
    (morePages pageSize) none

def affinedNode (affinity : Int) (pageSize : Nat) : Option (Σ _ : Nat, HostShareNode) :=
  if affinity < 0 then none
  else
    match host.nodes.lookup affinity.toNat with
    | none => none
    | some node =>
      if memoryLeft sr node && (pageSize = 0 || pagesLeft sr pageSize node) then
        some ⟨affinity.toNat, node⟩
      else none

def singleNode : Option (Σ _ : Nat, HostShareNode) :=
  if topology.nodeAffinity ≠ -1 then
    host.affinedNode sr topology.nodeAffinity topology.pageSize
  else host.hugepageNode sr topology.pageSize

end

end

end HostShareNUMA

/-- Neither an affinity nor only huge pages: the virtual nodes are scheduled. -/
def Topology.isScheduled (topology : Topology) : Bool :=
  topology.nodeAffinity = -1 && (topology.pageSize = 0 || topology.pinPolicy ≠ .none)

namespace HostShareNUMA

variable (fitness : Fitness) (host : HostShareNUMA)

section

variable (sr : NumaCapacity)

/-- `make_topology` without `do_alloc` -/
def test : Bool :=
  match sr.topology with
  | none => true
  | some topology =>
    if sr.nodes = [] then true
    else if topology.isScheduled then (host.findThreads topology sr (host.testAll sr)).isSome
    else (host.singleNode topology sr).isSome

def makeTopology : HostShareNUMA × NumaCapacity × Outcome :=
  match sr.topology with
  | none => (host, sr, .ok)
  | some topology =>
    if sr.nodes = [] then (host, sr, .ok)
    else if topology.isScheduled then host.makePinnedTopology fitness topology sr
    else
      match host.singleNode topology sr with
      | none => (host, sr, .failed)
      | some ⟨id, node⟩ =>
        let (host, sr) := host.assignNode sr topology.pageSize id node
        (host, sr, .ok)

def add : HostShareNUMA × NumaCapacity :=
  ((host.makeTopology fitness sr).1, (host.makeTopology fitness sr).2.1)

/-- The release of one virtual node; nothing happens unless all its attributes can be read. -/
def delNode (vmid pageSize : Nat) (virtual : VirtualNode) : HostShareNUMA :=
  match virtual.nodeId, virtual.memoryNodeId, virtual.cpus, virtual.memory with
  | some nodeId, some memNodeId, some ids, some memory =>
    let host := host.setNode nodeId ((host.getNode nodeId).delCpu ids vmid)
    let memNode := host.getNode memNodeId
    let memNode := { memNode with memUsage := memNode.memUsage - memory }
    let memNode := if pageSize = 0 then memNode else memNode.delPages pageSize (memory / pageSize)
    host.setNode memNodeId memNode
  | _, _, _, _ => host

def del : HostShareNUMA :=
  let pageSize := (sr.topology.map Topology.pageSize).getD 0
  sr.nodes.foldl (fun host virtual => host.delNode sr.vmid pageSize virtual) host

end

def reserveCpus (ids : List Nat) : HostShareNUMA :=
  { host with
    nodes := host.nodes.modify fun _ node =>
      { node with cores := node.cores.map fun core => core.reserveCpus ids } }

end HostShareNUMA

end OpenNebula.Host
