import OpenNebula.Host.HostShareNUMA

namespace OpenNebula.Host

open Library

/-! # What the NUMA operations change

The marks of an allocation go to threads that accept them, the booked memory and the
pages to one node; every operation acts on each node by itself.
-/

theorem Cpu.unmark_id (vmid : Nat) (ids : List Nat) (cpu : Cpu) : (cpu.unmark vmid ids).id = cpu.id := by
  simp only [Cpu.unmark]
  split <;> rfl

theorem Cpu.unmark_sublist (vmid : Nat) (ids : List Nat) (cpu : Cpu) : (cpu.unmark vmid ids).vms.Sublist cpu.vms := by
  simp only [Cpu.unmark]
  split
  · exact List.filter_sublist
  · exact List.Sublist.refl _

namespace Core

variable {core : Core} {vmid count : Nat} {cpus : List Cpu}

def marked (vmid : Nat) (cpu : Cpu) : Cpu := { cpu with vms := vmid :: cpu.vms }

theorem mem_markCpus {cpu : Cpu} (member : cpu ∈ (core.markCpus vmid count cpus).1) :
    cpu ∈ cpus ∨ ∃ before ∈ cpus, core.accepts before = true ∧ cpu = marked vmid before := by
  induction cpus generalizing count with
  | nil => cases count <;> simp [markCpus] at member
  | cons first rest ih =>
    cases count with
    | zero => exact .inl member
    | succ count =>
      simp only [markCpus] at member
      split at member
      · rename_i accepted
        rcases List.mem_cons.1 member with same | later
        · exact .inr ⟨first, List.mem_cons_self, accepted, same⟩
        · rcases ih later with old | ⟨before, isBefore, isMarked⟩
          · exact .inl (List.mem_cons_of_mem _ old)
          · exact .inr ⟨before, List.mem_cons_of_mem _ isBefore, isMarked⟩
      · rcases List.mem_cons.1 member with same | later
        · exact .inl (same ▸ List.mem_cons_self)
        · rcases ih later with old | ⟨before, isBefore, isMarked⟩
          · exact .inl (List.mem_cons_of_mem _ old)
          · exact .inr ⟨before, List.mem_cons_of_mem _ isBefore, isMarked⟩

theorem mem_markCpus_ids {id : Nat} (member : id ∈ (core.markCpus vmid count cpus).2) :
    ∃ cpu ∈ cpus, core.accepts cpu = true ∧ cpu.id = id := by
  induction cpus generalizing count with
  | nil => cases count <;> simp [markCpus] at member
  | cons first rest ih =>
    cases count with
    | zero => simp [markCpus] at member
    | succ count =>
      simp only [markCpus] at member
      split at member
      · rename_i accepted
        rcases List.mem_cons.1 member with same | later
        · exact ⟨first, List.mem_cons_self, accepted, same.symm⟩
        · obtain ⟨cpu, inside, isCpu⟩ := ih later
          exact ⟨cpu, List.mem_cons_of_mem _ inside, isCpu⟩
      · obtain ⟨cpu, inside, isCpu⟩ := ih member
        exact ⟨cpu, List.mem_cons_of_mem _ inside, isCpu⟩

theorem markCpus_map_id : (core.markCpus vmid count cpus).1.map Cpu.id = cpus.map Cpu.id := by
  induction cpus generalizing count with
  | nil => cases count <;> rfl
  | cons first rest ih =>
    cases count with
    | zero => rfl
    | succ count =>
      simp only [markCpus]
      split <;> simp only [List.map_cons, ih]

/-- The number of threads that can take another VM -/
def accepting (core : Core) (cpus : List Cpu) : Nat := cpus.countP core.accepts

theorem markCpus_length : (core.markCpus vmid count cpus).2.length = min count (core.accepting cpus) := by
  induction cpus generalizing count with
  | nil => cases count <;> simp [markCpus, accepting]
  | cons first rest ih =>
    cases count with
    | zero => simp [markCpus]
    | succ count =>
      simp only [markCpus]
      split
      · rename_i accepted
        simp only [List.length_cons, ih, accepting, List.countP_cons_of_pos accepted]
        omega
      · rename_i refused
        simp only [ih, accepting, List.countP_cons_of_neg refused]

theorem markCpus_marks : ((core.markCpus vmid count cpus).1.map fun cpu => cpu.vms.length).sum =
      (cpus.map fun cpu => cpu.vms.length).sum + (core.markCpus vmid count cpus).2.length := by
  induction cpus generalizing count with
  | nil => cases count <;> simp [markCpus]
  | cons first rest ih =>
    cases count with
    | zero => simp [markCpus]
    | succ count =>
      simp only [markCpus]
      split
      · simp only [List.map_cons, List.sum_cons, List.length_cons, ih]
        omega
      · simp only [List.map_cons, List.sum_cons, ih]
        omega

theorem allocateHt_few (core : Core) (vmid tc tcpus : Nat) :
    (core.markCpus vmid (min (core.freeCpus / tc * tc) tcpus) core.cpus).2.length ≤ core.freeCpus := by
  rw [markCpus_length]
  have whole := Nat.div_mul_le_self core.freeCpus tc
  omega

theorem allocateHt_full (full : core.freeCpus = 0) (tc tcpus : Nat) : core.allocateHt vmid tc tcpus = (core, []) := by
  have none : core.markCpus vmid 0 core.cpus = (core.cpus, []) := by
    cases core.cpus <;> rfl
  simp only [allocateHt, full, Nat.zero_div, Nat.zero_mul, Nat.zero_min, none]
  cases core
  simp_all

section

variable (core : Core)

/-- The ids of the threads and the reserved ones, which no operation of a VM changes -/
def layout : List Nat × Finset Nat := (core.cpus.map Cpu.id, core.reservedCpus)

@[simp] theorem layout_setCpuUsage : core.setCpuUsage.layout = core.layout := by
  simp only [setCpuUsage]
  split <;> rfl

theorem layout_dedicate (vmid : Nat) : (core.dedicate vmid).1.layout = core.layout := by
  simp only [dedicate]
  split
  · rfl
  · rename_i isCpus
    simp only [layout, isCpus, List.map_cons]

theorem layout_allocateHt (vmid tc tcpus : Nat) :
    (core.allocateHt vmid tc tcpus).1.layout = core.layout :=
  Prod.ext markCpus_map_id rfl

theorem layout_delCpus (vmid : Nat) (ids : List Nat) :
    (core.delCpus vmid ids).1.layout = core.layout := by
  simp only [delCpus]
  split
  · rw [layout_setCpuUsage]
    refine Prod.ext ?_ rfl
    simp only [layout, List.map_map]
    exact List.map_congr_left fun cpu _ => Cpu.unmark_id vmid ids cpu
  · rfl

end

end Core

namespace HostShareNode

variable {vmid tc tcpus : Nat} {cores : List Core}

variable {core : Core}

theorem mem_dedicateCores (member : core ∈ (dedicateCores vmid tcpus cores).1) :
    core ∈ cores ∨ ∃ before ∈ cores, before.isFree = true ∧ core = (before.dedicate vmid).1 := by
  induction cores generalizing tcpus with
  | nil => cases tcpus <;> simp [dedicateCores] at member
  | cons first rest ih =>
    cases tcpus with
    | zero => exact .inl member
    | succ tcpus =>
      simp only [dedicateCores] at member
      split at member
      · rename_i isFree
        rcases List.mem_cons.1 member with same | later
        · exact .inr ⟨first, List.mem_cons_self, isFree, same⟩
        · rcases ih later with old | ⟨before, isBefore, isGiven⟩
          · exact .inl (List.mem_cons_of_mem _ old)
          · exact .inr ⟨before, List.mem_cons_of_mem _ isBefore, isGiven⟩
      · rcases List.mem_cons.1 member with same | later
        · exact .inl (same ▸ List.mem_cons_self)
        · rcases ih later with old | ⟨before, isBefore, isGiven⟩
          · exact .inl (List.mem_cons_of_mem _ old)
          · exact .inr ⟨before, List.mem_cons_of_mem _ isBefore, isGiven⟩

theorem mem_dedicateCores_ids {id : Nat} (member : id ∈ (dedicateCores vmid tcpus cores).2) :
    ∃ core ∈ cores, core.isFree = true ∧ id ∈ (core.dedicate vmid).2 := by
  induction cores generalizing tcpus with
  | nil => cases tcpus <;> simp [dedicateCores] at member
  | cons first rest ih =>
    cases tcpus with
    | zero => simp [dedicateCores] at member
    | succ tcpus =>
      simp only [dedicateCores] at member
      split at member
      · rename_i isFree
        rcases List.mem_append.1 member with own | later
        · exact ⟨first, List.mem_cons_self, isFree, own⟩
        · obtain ⟨core, inside, isCore⟩ := ih later
          exact ⟨core, List.mem_cons_of_mem _ inside, isCore⟩
      · obtain ⟨core, inside, isCore⟩ := ih member
        exact ⟨core, List.mem_cons_of_mem _ inside, isCore⟩

theorem dedicateCores_layout : (dedicateCores vmid tcpus cores).1.map Core.layout = cores.map Core.layout := by
  induction cores generalizing tcpus with
  | nil => cases tcpus <;> rfl
  | cons first rest ih =>
    cases tcpus with
    | zero => rfl
    | succ tcpus =>
      simp only [dedicateCores]
      split
      · simp only [List.map_cons, ih, Core.layout_dedicate]
      · simp only [List.map_cons, ih]

theorem mem_htCores (member : core ∈ (htCores vmid tc tcpus cores).1) :
    core ∈ cores ∨ ∃ before ∈ cores, ∃ count, core = (before.allocateHt vmid tc count).1 := by
  induction cores generalizing tcpus with
  | nil => cases tcpus <;> simp [htCores] at member
  | cons first rest ih =>
    cases tcpus with
    | zero => exact .inl member
    | succ tcpus =>
      simp only [htCores] at member
      rcases List.mem_cons.1 member with same | later
      · exact .inr ⟨first, List.mem_cons_self, tcpus + 1, same⟩
      · rcases ih later with old | ⟨before, isBefore, isGiven⟩
        · exact .inl (List.mem_cons_of_mem _ old)
        · exact .inr ⟨before, List.mem_cons_of_mem _ isBefore, isGiven⟩

theorem mem_htCores_ids {id : Nat} (member : id ∈ (htCores vmid tc tcpus cores).2) :
    ∃ core ∈ cores, ∃ cpu ∈ core.cpus, core.accepts cpu = true ∧ cpu.id = id := by
  induction cores generalizing tcpus with
  | nil => cases tcpus <;> simp [htCores] at member
  | cons first rest ih =>
    cases tcpus with
    | zero => simp [htCores] at member
    | succ tcpus =>
      simp only [htCores] at member
      rcases List.mem_append.1 member with own | later
      · exact ⟨first, List.mem_cons_self, Core.mem_markCpus_ids own⟩
      · obtain ⟨core, inside, isCore⟩ := ih later
        exact ⟨core, List.mem_cons_of_mem _ inside, isCore⟩

theorem htCores_layout : (htCores vmid tc tcpus cores).1.map Core.layout = cores.map Core.layout := by
  induction cores generalizing tcpus with
  | nil => cases tcpus <;> rfl
  | cons first rest ih =>
    cases tcpus with
    | zero => rfl
    | succ tcpus => simp only [htCores, List.map_cons, ih, Core.layout_allocateHt]

theorem mem_delCores {ids : List Nat} (member : core ∈ delCores vmid ids cores) :
    ∃ before ∈ cores, ∃ left, core = (before.delCpus vmid left).1 := by
  induction cores generalizing ids with
  | nil => simp [delCores] at member
  | cons first rest ih =>
    simp only [delCores] at member
    rcases List.mem_cons.1 member with same | later
    · exact ⟨first, List.mem_cons_self, ids, same⟩
    · obtain ⟨before, isBefore, isDel⟩ := ih later
      exact ⟨before, List.mem_cons_of_mem _ isBefore, isDel⟩

theorem delCores_layout {ids : List Nat} : (delCores vmid ids cores).map Core.layout = cores.map Core.layout := by
  induction cores generalizing ids with
  | nil => rfl
  | cons first rest ih => simp only [delCores, List.map_cons, ih, Core.layout_delCpus]

section

variable (node : HostShareNode)

@[simp] theorem addPages_cores (size count : Nat) :
    (node.addPages size count).cores = node.cores := by
  simp only [addPages]
  split <;> rfl

@[simp] theorem addPages_memUsage (size count : Nat) :
    (node.addPages size count).memUsage = node.memUsage := by
  simp only [addPages]
  split <;> rfl

@[simp] theorem addPages_totalMem (size count : Nat) :
    (node.addPages size count).totalMem = node.totalMem := by
  simp only [addPages]
  split <;> rfl

theorem addPages_lookup (size count other : Nat) :
    (node.addPages size count).pages.lookup other = (node.pages.lookup other).map fun page =>
        if other = size then { page with usage := page.usage + count } else page := by
  simp only [addPages]
  split
  · rename_i absent
    by_cases same : other = size
    · rw [same, absent]
      rfl
    · simp [same]
  · rename_i page found
    rw [Map.lookup_insert_eq]
    by_cases same : other = size
    · rw [if_pos same, same, found]
      simp
    · simp [same]

end

end HostShareNode

def Placement.apply (topology : Topology) (threads : Int) (vmid id : Nat) (node : HostShareNode)
    (placement : Placement) : HostShareNode :=
  let node := if id = placement.nodeId then (placement.takeCpus topology threads vmid node).1 else node
  if id = placement.memNodeId then placement.takeMemory topology node else node

theorem Placement.takeMemory_cores (topology : Topology) (placement : Placement) (node : HostShareNode) :
    (placement.takeMemory topology node).cores = node.cores := by
  simp only [Placement.takeMemory]
  split
  · rfl
  · exact HostShareNode.addPages_cores _ _ _

theorem Placement.apply_cores (topology : Topology) (threads : Int) (vmid id : Nat)
    (node : HostShareNode) (placement : Placement) : (Placement.apply topology threads vmid id node placement).cores =
      if id = placement.nodeId then (placement.takeCpus topology threads vmid node).1.cores
      else node.cores := by
  simp only [Placement.apply]
  split <;> split <;> simp only [Placement.takeMemory_cores]

namespace HostShareNUMA

variable {fitness : Fitness} {host : HostShareNUMA} {topology : Topology} {threads : Int}
  {vmid : Nat} {placement : Placement}

theorem lookup_setNode (host : HostShareNUMA) (id other : Nat) (node : HostShareNode) :
    (host.setNode id node).nodes.lookup other = if other = id then some node else host.nodes.lookup other :=
  Map.lookup_insert_eq id other node host.nodes

structure Locates (host : HostShareNUMA) (topology : Topology) (placement : Placement) : Prop where
  cpus : placement.nodeId ∈ host.nodes
  memory : ∃ node, host.nodes.lookup placement.memNodeId = some node ∧
    (topology.pageSize = 0 ∨ topology.pageSize ∈ node.pages)

variable {id : Nat} {node : HostShareNode} {search : Search} {request : NUMANodeRequest} {bookings : Bookings}
  {placements : List Placement} {sr : NumaCapacity}

theorem mem_iff_lookup : id ∈ host.nodes ↔ ∃ node, host.nodes.lookup id = some node := by
  rw [← AList.lookup_isSome, Option.isSome_iff_exists]

theorem takeCpus_pages (topology : Topology) (threads : Int) (vmid : Nat) (placement : Placement)
    (node : HostShareNode) : (placement.takeCpus topology threads vmid node).1.pages = node.pages ∧
      (placement.takeCpus topology threads vmid node).1.memUsage = node.memUsage ∧
      (placement.takeCpus topology threads vmid node).1.totalMem = node.totalMem := by
  simp only [Placement.takeCpus]
  split <;> exact ⟨rfl, rfl, rfl⟩

theorem allocateNode_lookup (threads : Int) (vmid : Nat) (located : host.Locates topology placement) :
    ∃ node, host.nodes.lookup placement.nodeId = some node ∧ (host.allocateNode topology threads vmid placement).2 =
        some (placement.takeCpus topology threads vmid node).2 ∧
      ∀ id, (host.allocateNode topology threads vmid placement).1.nodes.lookup id =
        (host.nodes.lookup id).map fun node =>
          Placement.apply topology threads vmid id node placement := by
  obtain ⟨node, isNode⟩ := mem_iff_lookup.1 located.cpus
  obtain ⟨memNode, isMemNode, hasPages⟩ := located.memory
  refine ⟨node, isNode, ?_⟩
  -- The node of the memory, after the CPUs have been taken
  let middle := if placement.memNodeId = placement.nodeId then
    (placement.takeCpus topology threads vmid node).1 else memNode
  have isMiddle : (host.setNode placement.nodeId
      (placement.takeCpus topology threads vmid node).1).nodes.lookup placement.memNodeId =
        some middle := by
    rw [lookup_setNode, isMemNode]
    simp only [middle]
    split <;> rfl
  have stillPages : topology.pageSize = 0 ∨ topology.pageSize ∈ middle.pages := by
    refine hasPages.imp_right fun inside => ?_
    simp only [middle]
    split
    · rename_i same
      rw [same, isNode] at isMemNode
      rw [(takeCpus_pages _ _ _ _ node).1, Option.some.inj isMemNode]
      exact inside
    · exact inside
  simp only [allocateNode, isNode, isMiddle, if_pos stillPages, true_and]
  intro id
  rw [lookup_setNode, lookup_setNode]
  by_cases isMemory : id = placement.memNodeId
  · subst isMemory
    rw [if_pos rfl, isMemNode]
    simp only [Option.map_some, Placement.apply, if_true, middle, Option.some.injEq]
    split
    · rename_i same
      rw [same, isNode] at isMemNode
      rw [Option.some.inj isMemNode]
    · rfl
  · simp only [if_neg isMemory, Placement.apply]
    by_cases isCpus : id = placement.nodeId
    · subst isCpus
      simp [isNode]
    · simp [isCpus]

def nodeAfter (topology : Topology) (threads : Int) (vmid id : Nat) (placements : List Placement)
    (node : HostShareNode) : HostShareNode :=
  placements.foldl (Placement.apply topology threads vmid id) node

theorem apply_pages {size : Nat} :
    size ∈ (Placement.apply topology threads vmid id node placement).pages ↔ size ∈ node.pages := by
  have cpus := fun node => (takeCpus_pages topology threads vmid placement node).1
  have memory : ∀ node, size ∈ (placement.takeMemory topology node).pages ↔ size ∈ node.pages := by
    intro node
    simp only [Placement.takeMemory]
    split
    · rfl
    · rw [← AList.lookup_isSome, ← AList.lookup_isSome, HostShareNode.addPages_lookup, Option.isSome_map]
      rfl
  simp only [Placement.apply]
  split <;> split <;> simp only [memory, cpus]

theorem Locates.allocateNode {other : Placement} (located : host.Locates topology placement)
    (threads : Int) (vmid : Nat) (isOther : host.Locates topology other) :
    (host.allocateNode topology threads vmid placement).1.Locates topology other := by
  obtain ⟨_, -, -, lookups⟩ := allocateNode_lookup threads vmid located
  obtain ⟨cpuNode, isCpuNode⟩ := mem_iff_lookup.1 isOther.cpus
  obtain ⟨memNode, isMemNode, hasPages⟩ := isOther.memory
  refine ⟨mem_iff_lookup.2 ⟨_, by rw [lookups, isCpuNode, Option.map_some]⟩,
    _, by rw [lookups, isMemNode, Option.map_some], ?_⟩
  exact hasPages.imp_right apply_pages.2

def takenCpus (topology : Topology) (threads : Int) (vmid : Nat) : HostShareNUMA → List Placement → List (List Nat)
  | _, [] => []
  | host, placement :: rest =>
    let (after, ids) := host.allocateNode topology threads vmid placement
    ids.getD [] :: takenCpus topology threads vmid after rest

def record (places : List (Placement × List Nat)) (nodes : List VirtualNode) : List VirtualNode :=
  places.foldl
    (fun nodes place => nodes.modify place.1.request.position (recorded place.1 place.2)) nodes

theorem allocateAll_eq (threads : Int) (sr : NumaCapacity) {placements : List Placement}
    (located : ∀ placement ∈ placements, host.Locates topology placement) :
    (allocateAll topology threads host sr placements).2 = ({ sr with
            nodes := record (placements.zip (takenCpus topology threads sr.vmid host placements))
              sr.nodes }, true) ∧
      ∀ id, (allocateAll topology threads host sr placements).1.nodes.lookup id =
        (host.nodes.lookup id).map (nodeAfter topology threads sr.vmid id placements) := by
  induction placements generalizing host sr with
  | nil => exact ⟨rfl, fun id => Option.map_id'.symm⟩
  | cons placement rest ih =>
    have isFirst := located placement List.mem_cons_self
    obtain ⟨node, -, isIds, lookups⟩ := allocateNode_lookup threads sr.vmid isFirst
    have further : ∀ other ∈ rest,
        (host.allocateNode topology threads sr.vmid placement).1.Locates topology other :=
      fun other inside =>
        isFirst.allocateNode threads sr.vmid (located other (List.mem_cons_of_mem _ inside))
    simp only [allocateAll, takenCpus]
    cases isResult : host.allocateNode topology threads sr.vmid placement with
    | mk after ids =>
      rw [isResult] at isIds lookups further
      simp only at isIds lookups further
      subst isIds
      obtain ⟨recorded, nodes⟩ := @ih after { sr with
        nodes := sr.nodes.modify placement.request.position
          (recorded placement (placement.takeCpus topology threads sr.vmid node).2) } further
      refine ⟨recorded, fun id => ?_⟩
      rw [nodes, lookups, Option.map_map]
      rfl

theorem mem_inOrder : (⟨id, node⟩ : Σ _ : Nat, HostShareNode) ∈ host.inOrder ↔ host.nodes.lookup id = some node := by
  rw [inOrder, List.mem_insertionSort, Map.mem_entries_iff]

theorem mem_cpuFits {pci : Option Nat} : id ∈ host.cpuFits fitness search request pci bookings ↔
      ∃ node, host.nodes.lookup id = some node ∧ cpusFit search request node (bookings id) = true := by
  simp only [cpuFits, List.mem_reverse, List.mem_map, List.mem_insertionSort, List.mem_filter]
  constructor
  · rintro ⟨_, ⟨⟨found, node⟩, ⟨inside, fits⟩, rfl⟩, rfl⟩
    exact ⟨node, mem_inOrder.1 inside, fits⟩
  · rintro ⟨node, isNode, fits⟩
    exact ⟨_, ⟨⟨id, node⟩, ⟨mem_inOrder.2 isNode, fits⟩, rfl⟩, rfl⟩

theorem mem_memFits : id ∈ host.memFits search request bookings ↔ ∃ node, host.nodes.lookup id = some node ∧
        memoryFits search request node (bookings id) = true := by
  simp only [memFits, List.mem_map, List.mem_filter]
  constructor
  · rintro ⟨⟨found, node⟩, ⟨inside, fits⟩, rfl⟩
    exact ⟨node, mem_inOrder.1 inside, fits⟩
  · rintro ⟨node, isNode, fits⟩
    exact ⟨⟨id, node⟩, ⟨mem_inOrder.2 isNode, fits⟩, rfl⟩

theorem closest_mem {cpus memory : List Nat} {snode memSnode : Nat}
    (found : host.closest cpus memory = some (snode, memSnode)) : snode ∈ cpus ∧ memSnode ∈ memory := by
  obtain ⟨hop, -, isHop⟩ := List.exists_of_findSome?_eq_some found
  obtain ⟨node, isNode, isPlace⟩ := List.exists_of_findSome?_eq_some isHop
  split at isPlace
  · cases isPlace
  · split at isPlace
    · rename_i inside
      obtain ⟨rfl, rfl⟩ := Prod.mk.inj (Option.some.inj isPlace)
      exact ⟨isNode, inside⟩
    · cases isPlace

structure Fits (host : HostShareNUMA) (search : Search) (bookings : Bookings)
    (placement : Placement) : Prop where
  cpus : ∃ node, host.nodes.lookup placement.nodeId = some node ∧
    cpusFit search placement.request node (bookings placement.nodeId) = true
  memory : ∃ node, host.nodes.lookup placement.memNodeId = some node ∧
    memoryFits search placement.request node (bookings placement.memNodeId) = true

theorem scheduleNodes_fits {pci : Option Nat} {after : Bookings}
    (found : host.scheduleNodes fitness search request pci bookings = some (placement, after)) :
    placement.request = request ∧ host.Fits search bookings placement ∧
      after = host.book search request placement.nodeId bookings := by
  obtain ⟨⟨snode, memSnode⟩, isClosest, isResult⟩ := Option.map_eq_some_iff.1 found
  obtain ⟨rfl, rfl⟩ := Prod.mk.inj isResult
  obtain ⟨fitsCpus, fitsMemory⟩ := closest_mem isClosest
  exact ⟨rfl, ⟨mem_cpuFits.1 fitsCpus, mem_memFits.1 fitsMemory⟩, rfl⟩

/-- Every place was found with what the places before it booked. -/
inductive Scheduled (host : HostShareNUMA) (search : Search) : Bookings → List Placement → Prop where
  | nil (bookings : Bookings) : Scheduled host search bookings []
  | cons {bookings : Bookings} {placement : Placement} {rest : List Placement}
      (fits : host.Fits search bookings placement)
      (further : Scheduled host search (host.book search placement.request placement.nodeId bookings) rest) :
      Scheduled host search bookings (placement :: rest)

theorem scheduleAll_scheduled {pciNodes : List Int} {index : Nat} {requests : List NUMANodeRequest}
    (found : host.scheduleAll fitness search pciNodes index bookings requests = some placements) :
    placements.map Placement.request = requests ∧ host.Scheduled search bookings placements := by
  induction requests generalizing index bookings placements with
  | nil =>
    simp only [scheduleAll, Option.some.injEq] at found
    subst found
    exact ⟨rfl, .nil bookings⟩
  | cons request rest ih =>
    simp only [scheduleAll] at found
    split at found
    · cases found
    · rename_i placement after isPlacement
      obtain ⟨places, isPlaces, rfl⟩ := Option.map_eq_some_iff.1 found
      obtain ⟨isRequest, fits, isAfter⟩ := scheduleNodes_fits isPlacement
      obtain ⟨isRest, scheduled⟩ := ih isPlaces
      subst isAfter
      exact ⟨by rw [List.map_cons, isRequest, isRest], .cons fits (isRequest ▸ scheduled)⟩

theorem Scheduled.locates (scheduled : host.Scheduled search bookings placements)
    (samePages : search.pageSize = topology.pageSize) :
    ∀ placement ∈ placements, host.Locates topology placement := by
  induction scheduled with
  | nil => simp
  | cons fits _ ih =>
    intro placement inside
    rcases List.mem_cons.1 inside with rfl | later
    · obtain ⟨cpuNode, isCpuNode, -⟩ := fits.cpus
      obtain ⟨memNode, isMemNode, fitsMemory⟩ := fits.memory
      refine ⟨mem_iff_lookup.2 ⟨cpuNode, isCpuNode⟩, memNode, isMemNode, ?_⟩
      simp only [memoryFits, Bool.and_eq_true, Bool.or_eq_true, decide_eq_true_eq] at fitsMemory
      refine samePages ▸ fitsMemory.2.imp_right fun fits => ?_
      rw [← AList.lookup_isSome]
      cases isPage : memNode.pages.lookup search.pageSize with
      | none => simp [isPage] at fits
      | some page => rfl
    · exact ih placement later

def searchOf (topology : Topology) (threads : Nat) : Search :=
  ⟨threads, topology.pinPolicy = .core, topology.pageSize⟩

theorem places_found (found : host.places fitness topology sr = some (threads, placements)) :
    placements.map Placement.request = sr.vmNodes ∧ ((placements = [] ∧ threads = topology.threads) ∨
        ∃ valid count, validThreads host.threadsCore topology sr.vmNodes = some valid ∧
          count ∈ valid ∧ threads = (count : Int) ∧
          host.Scheduled (searchOf topology count) (fun _ => {}) placements) := by
  obtain ⟨valid, isValid, found⟩ := Option.bind_eq_some_iff.1 found
  split at found
  · rename_i nothing
    obtain ⟨rfl, rfl⟩ := Prod.mk.inj (Option.some.inj found)
    exact ⟨nothing.2.symm, .inl ⟨rfl, rfl⟩⟩
  · obtain ⟨count, inside, isFound⟩ := List.exists_of_findSome?_eq_some found
    obtain ⟨places, isPlaces, isResult⟩ := Option.map_eq_some_iff.1 isFound
    obtain ⟨rfl, rfl⟩ := Prod.mk.inj isResult
    obtain ⟨isRequests, scheduled⟩ := scheduleAll_scheduled isPlaces
    exact ⟨isRequests, .inr ⟨valid, count, isValid, inside, rfl, scheduled⟩⟩

theorem places_located (found : host.places fitness topology sr = some (threads, placements)) :
    ∀ placement ∈ placements, host.Locates topology placement := by
  rcases (places_found found).2 with ⟨rfl, -⟩ | ⟨_, _, -, -, -, scheduled⟩
  · simp
  · exact scheduled.locates rfl

theorem foldl_morePages {pageSize : Nat} {rows : List (Σ _ : Nat, HostShareNode)}
    {best : Option (Σ _ : Nat, HostShareNode)} {found : Σ _ : Nat, HostShareNode}
    (isFound : rows.foldl (morePages pageSize) best = some found) : found ∈ rows ∨ best = some found := by
  induction rows generalizing best with
  | nil => exact .inr isFound
  | cons first rest ih =>
    rcases ih isFound with later | isBest
    · exact .inl (List.mem_cons_of_mem _ later)
    · simp only [morePages] at isBest
      split at isBest
      · exact .inl (Option.some.inj isBest ▸ List.mem_cons_self)
      · split at isBest
        · exact .inl (Option.some.inj isBest ▸ List.mem_cons_self)
        · exact .inr isBest

theorem singleNode_found (found : host.singleNode topology sr = some ⟨id, node⟩) :
    host.nodes.lookup id = some node ∧ memoryLeft sr node = true ∧
      (topology.pageSize = 0 ∨ pagesLeft sr topology.pageSize node = true) := by
  simp only [singleNode] at found
  split at found
  · simp only [affinedNode] at found
    split at found
    · cases found
    · split at found
      · cases found
      · rename_i isNode
        split at found
        · rename_i checked
          cases found
          simpa [isNode] using checked
        · cases found
  · rcases foldl_morePages found with inside | none
    · obtain ⟨listed, checked⟩ := List.mem_filter.1 inside
      simp only [Bool.and_eq_true] at checked
      exact ⟨mem_inOrder.1 listed, checked.1, .inr checked.2⟩
    · cases none

theorem nodeAfter_append {earlier : List Placement} :
    nodeAfter topology threads vmid id (earlier ++ [placement]) node =
      Placement.apply topology threads vmid id (nodeAfter topology threads vmid id earlier node) placement := by
  simp only [nodeAfter, List.foldl_append, List.foldl_cons, List.foldl_nil]

def nodeInTurn (topology : Topology) (threads : Int) (vmid : Nat) (host : HostShareNUMA)
    (earlier : List Placement) (placement : Placement) : HostShareNode :=
  nodeAfter topology threads vmid placement.nodeId earlier (host.getNode placement.nodeId)

def givenInTurn (topology : Topology) (threads : Int) (vmid : Nat) (host : HostShareNUMA) :
    (earlier placements : List Placement) → List (Placement × List Nat)
  | _, [] => []
  | earlier, placement :: rest =>
    (placement, (placement.takeCpus topology threads vmid
      (host.nodeInTurn topology threads vmid earlier placement)).2) ::
        givenInTurn topology threads vmid host (earlier ++ [placement]) rest

theorem zip_takenCpus {now : HostShareNUMA} {earlier placements : List Placement} (isNow : ∀ id, now.nodes.lookup id =
      (host.nodes.lookup id).map (nodeAfter topology threads vmid id earlier))
    (located : ∀ placement ∈ placements, now.Locates topology placement) :
    placements.zip (takenCpus topology threads vmid now placements) =
      host.givenInTurn topology threads vmid earlier placements := by
  induction placements generalizing now earlier with
  | nil => rfl
  | cons placement rest ih =>
    have isFirst := located placement List.mem_cons_self
    obtain ⟨node, isNode, isIds, lookups⟩ := allocateNode_lookup threads vmid isFirst
    have further := @ih (now.allocateNode topology threads vmid placement).1
      (earlier ++ [placement])
      (fun id => by
        rw [lookups, isNow, Option.map_map]
        exact congrArg (fun update => (host.nodes.lookup id).map update)
          (funext fun node => nodeAfter_append.symm))
      (fun other inside =>
        isFirst.allocateNode threads vmid (located other (List.mem_cons_of_mem _ inside)))
    rw [isNow] at isNode
    obtain ⟨before, isBefore, rfl⟩ := Option.map_eq_some_iff.1 isNode
    have isTurn : nodeAfter topology threads vmid placement.nodeId earlier before =
        host.nodeInTurn topology threads vmid earlier placement := by
      rw [nodeInTurn, getNode, isBefore, Option.getD_some]
    simp only [takenCpus, List.zip_cons_cons, givenInTurn, isIds, Option.getD_some, isTurn, further]

theorem givenInTurn_fst {earlier placements : List Placement} :
    (host.givenInTurn topology threads vmid earlier placements).map Prod.fst = placements := by
  induction placements generalizing earlier with
  | nil => rfl
  | cons placement rest ih => rw [givenInTurn, List.map_cons, ih]

theorem mem_givenInTurn {earlier : List Placement} {place : Placement × List Nat}
    (member : place ∈ host.givenInTurn topology threads vmid earlier placements) :
    ∃ before, place.2 = (place.1.takeCpus topology threads vmid
      (host.nodeInTurn topology threads vmid before place.1)).2 := by
  induction placements generalizing earlier with
  | nil => cases member
  | cons placement rest ih =>
    rcases List.mem_cons.1 member with rfl | later
    · exact ⟨earlier, rfl⟩
    · exact ih later

theorem vmNodes_position : request ∈ sr.vmNodes ↔ ∃ virtual, sr.nodes[request.position]? = some virtual ∧
      request.totalCpus = virtual.totalCpus ∧ request.memory = virtual.memory.getD 0 ∧
      0 < request.totalCpus ∧ 0 < request.memory := by
  simp only [NumaCapacity.vmNodes, List.mem_filter, List.mem_map, decide_eq_true_eq]
  constructor
  · rintro ⟨⟨⟨virtual, position⟩, inside, rfl⟩, positive⟩
    exact ⟨virtual, List.mem_zipIdx_iff_getElem?.mp inside, rfl, rfl, positive⟩
  · rintro ⟨virtual, isVirtual, isCpus, isMemory, positive⟩
    refine ⟨⟨(virtual, request.position), List.mem_zipIdx_iff_getElem?.mpr isVirtual, ?_⟩, positive⟩
    rw [← isCpus, ← isMemory]

theorem vmNodes_distinct (sr : NumaCapacity) : (sr.vmNodes.map NUMANodeRequest.position).Nodup := by
  refine List.Nodup.sublist (List.Sublist.map _ List.filter_sublist) ?_
  rw [List.map_map]
  have positions : (sr.nodes.zipIdx.map Prod.snd).Nodup := by
    rw [List.zipIdx_map_snd]
    exact List.nodup_range'
  exact positions

theorem record_other {places : List (Placement × List Nat)} {nodes : List VirtualNode}
    {position : Nat} (apart : ∀ place ∈ places, place.1.request.position ≠ position) :
    (record places nodes)[position]? = nodes[position]? := by
  induction places generalizing nodes with
  | nil => rfl
  | cons place rest ih =>
    rw [record, List.foldl_cons]
    refine (ih fun other inside => apart other (List.mem_cons_of_mem _ inside)).trans ?_
    simp [apart place List.mem_cons_self]

theorem record_own {places : List (Placement × List Nat)} {nodes : List VirtualNode}
    (distinct : (places.map fun place => place.1.request.position).Nodup)
    {place : Placement × List Nat} (inside : place ∈ places) : (record places nodes)[place.1.request.position]? =
      (nodes[place.1.request.position]?).map (recorded place.1 place.2) := by
  induction places generalizing nodes with
  | nil => cases inside
  | cons first rest ih =>
    obtain ⟨isFirst, further⟩ := List.nodup_cons.1 distinct
    rw [record, List.foldl_cons]
    rcases List.mem_cons.1 inside with rfl | later
    · refine (record_other fun other isOther same => isFirst ?_).trans ?_
      · exact List.mem_map.2 ⟨other, isOther, same⟩
      · simp
    · refine (ih further later).trans ?_
      have apart : first.1.request.position ≠ place.1.request.position := fun same =>
        isFirst (List.mem_map.2 ⟨place, later, same.symm⟩)
      simp [apart]

end HostShareNUMA

end OpenNebula.Host
