import OpenNebula.Host.NumaPlacement
import OpenNebula.Library.Transition

namespace OpenNebula.Host

open Library

/-! # Isolation of CPUs

Threads take marks only where they are not reserved and not full, and a core with marks is
not dedicated any more.  The one mark of a dedicated core is set on its first thread without
a look at the reserved ones.
-/

/-- Reserved threads have no VM, no thread has more VMs than it can take, and a dedicated core
has one VM. -/
structure Core.Isolated (core : Core) : Prop where
  reserved : ∀ cpu ∈ core.cpus, cpu.id ∈ core.reservedCpus → cpu.vms = []
  shared : ∀ cpu ∈ core.cpus, cpu.vms.length ≤ core.vmsThread
  alone : core.dedicated = true → ∃ vm, ∀ cpu ∈ core.cpus, ∀ other ∈ cpu.vms, other = vm

/-- The counters that keep other VMs away. -/
structure Core.Guarded (core : Core) : Prop extends core.Isolated where
  positive : 0 < core.vmsThread
  counted : core.dedicated = false → core.usedCpus = core.marks
  closed : core.dedicated = true → core.usedCpus = 1 ∧ core.freeCpus = 0

/-- The thread that gets the mark of a dedicated core is not reserved. -/
def Core.FirstUnreserved (core : Core) : Prop :=
  core.isFree = true → ∀ cpu ∈ core.cpus.head?, cpu.id ∉ core.reservedCpus

namespace Core

variable {core : Core}

theorem vms_eq_nil (unmarked : core.marks = 0) : ∀ cpu ∈ core.cpus, cpu.vms = [] := by
  intro cpu inside
  exact List.length_eq_zero_iff.1
    (List.sum_eq_zero_iff_forall_eq_nat.1 unmarked _ (List.mem_map.2 ⟨cpu, inside, rfl⟩))

theorem Guarded.unmarked (guarded : core.Guarded) (unused : core.usedCpus = 0) :
    core.dedicated = false ∧ ∀ cpu ∈ core.cpus, cpu.vms = [] := by
  cases isDedicated : core.dedicated with
  | true =>
    have used := (guarded.closed isDedicated).1
    omega
  | false => exact ⟨rfl, vms_eq_nil ((guarded.counted isDedicated).symm.trans unused)⟩

theorem Guarded.dedicate (guarded : core.Guarded) (isFree : core.isFree = true)
    (first : core.FirstUnreserved) (vmid : Nat) :
    (core.dedicate vmid).1.Guarded ∧ (core.dedicate vmid).1.FirstUnreserved := by
  have outside := first isFree
  simp only [Core.isFree, Bool.and_eq_true, decide_eq_true_eq] at isFree
  obtain ⟨-, unmarked⟩ := guarded.unmarked isFree.1
  simp only [Core.dedicate]
  split
  · rename_i isCpus
    simp [isCpus] at isFree
  · rename_i cpu rest isCpus
    rw [isCpus] at outside unmarked
    have isEmpty : cpu.vms = [] := unmarked cpu List.mem_cons_self
    have others : ∀ other ∈ rest, other.vms = [] := fun other inside =>
      unmarked other (List.mem_cons_of_mem _ inside)
    refine ⟨⟨⟨?_, ?_, fun _ => ⟨vmid, ?_⟩⟩, guarded.positive, fun contra => ?_, fun _ => ⟨rfl, rfl⟩⟩,
      fun contra => ?_⟩
    · intro other inside isReserved
      rcases List.mem_cons.1 inside with rfl | later
      · exact absurd isReserved (outside cpu rfl)
      · exact others other later
    · intro other inside
      rcases List.mem_cons.1 inside with rfl | later
      · simpa [isEmpty] using Nat.succ_le_of_lt guarded.positive
      · simp [others other later]
    · intro other inside vm isVm
      rcases List.mem_cons.1 inside with rfl | later
      · simpa [isEmpty] using isVm
      · simp [others other later] at isVm
    · cases contra
    · simp [Core.isFree] at contra

theorem Guarded.allocateHt (guarded : core.Guarded) (vmid tc tcpus : Nat) :
    (core.allocateHt vmid tc tcpus).1.Guarded := by
  cases isDedicated : core.dedicated with
  | true =>
    rw [allocateHt_full (guarded.closed isDedicated).2]
    exact guarded
  | false =>
    refine ⟨⟨?_, ?_, fun contra => ?_⟩, guarded.positive, fun _ => ?_, fun contra => ?_⟩
    · intro cpu inside isReserved
      rcases mem_markCpus inside with old | ⟨before, isBefore, accepted, rfl⟩
      · exact guarded.reserved cpu old isReserved
      · simp only [accepts, Bool.and_eq_true, decide_eq_true_eq] at accepted
        exact absurd isReserved accepted.2
    · intro cpu inside
      rcases mem_markCpus inside with old | ⟨before, isBefore, accepted, rfl⟩
      · exact guarded.shared cpu old
      · simp only [accepts, Bool.and_eq_true, decide_eq_true_eq] at accepted
        exact accepted.1
    · exact absurd (isDedicated.symm.trans contra) (by decide)
    · have counted := guarded.counted isDedicated
      rw [marks] at counted
      simp only [Core.allocateHt, marks, markCpus_marks, counted]
    · exact absurd (isDedicated.symm.trans contra) (by decide)

theorem Guarded.delCpus (guarded : core.Guarded) (vmid : Nat) (ids : List Nat) :
    (core.delCpus vmid ids).1.Guarded := by
  simp only [Core.delCpus]
  split
  · simp only [setCpuUsage, Bool.false_eq_true, if_false]
    refine ⟨⟨?_, ?_, fun contra => by cases contra⟩, guarded.positive, fun _ => rfl, fun contra => by cases contra⟩
    · intro cpu inside isReserved
      obtain ⟨before, isBefore, rfl⟩ := List.mem_map.1 inside
      rw [Cpu.unmark_id] at isReserved
      have unmarked := before.unmark_sublist vmid ids
      rw [guarded.reserved before isBefore isReserved] at unmarked
      exact List.sublist_nil.1 unmarked
    · intro cpu inside
      obtain ⟨before, isBefore, rfl⟩ := List.mem_map.1 inside
      exact Nat.le_trans (before.unmark_sublist vmid ids).length_le (guarded.shared before isBefore)
  · exact guarded

end Core

def HostShareNode.Guarded (dedicated : Prop) (node : HostShareNode) : Prop :=
  ∀ core ∈ node.cores, core.Guarded ∧ (dedicated → core.FirstUnreserved)

def HostShareNUMA.Guarded (dedicated : Prop) (host : HostShareNUMA) : Prop :=
  ∀ id node, host.nodes.lookup id = some node → node.Guarded dedicated

def HostShareNUMA.Unreserved (host : HostShareNUMA) (id cpu : Nat) : Prop :=
  ∃ node, host.nodes.lookup id = some node ∧
    ∃ layout ∈ node.cores.map Core.layout, cpu ∈ layout.1 ∧ cpu ∉ layout.2

namespace HostShareNode

variable {node : HostShareNode} {topology : Topology} {threads : Int} {vmid : Nat}
  {placement : Placement}

theorem Guarded.takeCpus (guarded : node.Guarded (topology.pinPolicy = .core)) :
    (placement.takeCpus topology threads vmid node).1.Guarded (topology.pinPolicy = .core) := by
  intro core inside
  simp only [Placement.takeCpus] at inside
  split at inside
  · rename_i isCore
    rcases mem_dedicateCores inside with old | ⟨before, isBefore, isFree, rfl⟩
    · exact guarded core old
    · obtain ⟨isGuarded, first⟩ := guarded before isBefore
      exact (isGuarded.dedicate isFree (first isCore) vmid).imp_right fun first _ => first
  · rename_i notCore
    rcases mem_htCores inside with old | ⟨before, isBefore, count, rfl⟩
    · exact guarded core old
    · exact ⟨(guarded before isBefore).1.allocateHt vmid _ count, fun isCore => absurd isCore notCore⟩

theorem takeCpus_layout : (placement.takeCpus topology threads vmid node).1.cores.map Core.layout =
      node.cores.map Core.layout := by
  simp only [Placement.takeCpus]
  split
  · exact dedicateCores_layout
  · exact htCores_layout

theorem Guarded.takeCpus_unreserved (guarded : node.Guarded (topology.pinPolicy = .core)) {cpu : Nat}
    (taken : cpu ∈ (placement.takeCpus topology threads vmid node).2) :
    ∃ layout ∈ node.cores.map Core.layout, cpu ∈ layout.1 ∧ cpu ∉ layout.2 := by
  simp only [Placement.takeCpus] at taken
  split at taken
  · rename_i isCore
    simp only [allocateDedicatedCpus, allocated] at taken
    split at taken
    · obtain ⟨core, inside, isFree, given⟩ := mem_dedicateCores_ids taken
      have outside := (guarded core inside).2 isCore isFree
      refine ⟨core.layout, List.mem_map.2 ⟨core, inside, rfl⟩, ?_⟩
      simp only [Core.dedicate] at given
      split at given
      · cases given
      · rename_i first rest isCpus
        obtain rfl := List.mem_singleton.1 given
        exact ⟨by simp [Core.layout, isCpus], outside first (by rw [isCpus]; rfl)⟩
    · cases taken
  · simp only [allocateHtCpus, allocated] at taken
    split at taken
    · obtain ⟨core, inside, first, isFirst, accepted, rfl⟩ := mem_htCores_ids taken
      simp only [Core.accepts, Bool.and_eq_true, decide_eq_true_eq] at accepted
      exact ⟨core.layout, List.mem_map.2 ⟨core, inside, rfl⟩, List.mem_map.2 ⟨first, isFirst, rfl⟩, accepted.2⟩
    · cases taken

theorem apply_layout (topology : Topology) (threads : Int) (vmid id : Nat) (node : HostShareNode)
    (placement : Placement) : (Placement.apply topology threads vmid id node placement).cores.map Core.layout =
      node.cores.map Core.layout := by
  rw [Placement.apply_cores]
  split
  · exact takeCpus_layout
  · rfl

theorem nodeAfter_layout (topology : Topology) (threads : Int) (vmid id : Nat)
    (placements : List Placement) (node : HostShareNode) :
    (HostShareNUMA.nodeAfter topology threads vmid id placements node).cores.map Core.layout =
      node.cores.map Core.layout := by
  induction placements generalizing node with
  | nil => rfl
  | cons placement rest ih => exact (ih _).trans (apply_layout topology threads vmid id node placement)

theorem Guarded.apply (guarded : node.Guarded (topology.pinPolicy = .core)) (threads : Int)
    (vmid id : Nat) (placement : Placement) :
    (Placement.apply topology threads vmid id node placement).Guarded (topology.pinPolicy = .core) := by
  intro core inside
  rw [Placement.apply_cores] at inside
  split at inside
  · exact guarded.takeCpus core inside
  · exact guarded core inside

theorem Guarded.nodeAfter (threads : Int) (vmid id : Nat) {placements : List Placement}
    (guarded : node.Guarded (topology.pinPolicy = .core)) :
    (HostShareNUMA.nodeAfter topology threads vmid id placements node).Guarded (topology.pinPolicy = .core) := by
  induction placements generalizing node with
  | nil => exact guarded
  | cons placement rest ih => exact ih (guarded.apply threads vmid id placement)

theorem Guarded.delCpu (guarded : node.Guarded False) (ids : List Nat) (vmid : Nat) :
    (node.delCpu ids vmid).Guarded False := by
  intro core inside
  obtain ⟨before, isBefore, left, rfl⟩ := mem_delCores inside
  exact ⟨(guarded before isBefore).1.delCpus vmid left, False.elim⟩

theorem delPages_cores (node : HostShareNode) (size count : Nat) : (node.delPages size count).cores = node.cores := by
  simp only [delPages]
  split <;> rfl

theorem lsCpus_unreserved {cpu : Nat} (listed : cpu ∈ node.lsCpus) :
    ∃ layout ∈ node.cores.map Core.layout, cpu ∈ layout.1 ∧ cpu ∉ layout.2 := by
  obtain ⟨core, inside, isListed⟩ := List.mem_flatMap.1 listed
  obtain ⟨isCpu, outside⟩ := List.mem_filter.1 isListed
  exact ⟨core.layout, List.mem_map.2 ⟨core, inside, rfl⟩, isCpu, of_decide_eq_true outside⟩

end HostShareNode

namespace HostShareNUMA

variable {fitness : Fitness} {host : HostShareNUMA} {topology : Topology} {threads : Int} {vmid : Nat}
  {placement : Placement} {sr : NumaCapacity}

variable {dedicated : Prop}

theorem Guarded.weaken (guarded : host.Guarded dedicated) : host.Guarded False :=
  fun id node isNode core inside => ⟨(guarded id node isNode core inside).1, False.elim⟩

theorem Guarded.setNode (guarded : host.Guarded dedicated) {id : Nat} {node : HostShareNode}
    (isGuarded : node.Guarded dedicated) : (host.setNode id node).Guarded dedicated := by
  intro other found isFound
  rw [lookup_setNode] at isFound
  split at isFound
  · exact Option.some.inj isFound ▸ isGuarded
  · exact guarded other found isFound

theorem Guarded.getNode (guarded : host.Guarded dedicated) (id : Nat) : (host.getNode id).Guarded dedicated := by
  rw [HostShareNUMA.getNode]
  cases isNode : host.nodes.lookup id with
  | none => exact fun core inside => absurd inside List.not_mem_nil
  | some node => exact guarded id node isNode

theorem takenCpus_unreserved {placements : List Placement} (guarded : host.Guarded (topology.pinPolicy = .core))
    (located : ∀ placement ∈ placements, host.Locates topology placement) :
    ∀ place ∈ placements.zip (takenCpus topology threads vmid host placements),
      ∀ cpu ∈ place.2, host.Unreserved place.1.nodeId cpu := by
  intro place inside cpu isCpu
  obtain ⟨node, isNode⟩ := mem_iff_lookup.1 (located place.1 (List.of_mem_zip inside).1).cpus
  rw [@zip_takenCpus host _ _ _ host [] _ (fun id => Option.map_id'.symm) located] at inside
  obtain ⟨before, isTaken⟩ := mem_givenInTurn inside
  have isTurn : host.nodeInTurn topology threads vmid before place.1 =
      nodeAfter topology threads vmid place.1.nodeId before node := by
    rw [nodeInTurn, getNode, isNode, Option.getD_some]
  rw [isTaken, isTurn] at isCpu
  obtain ⟨layout, isLayout, unreserved⟩ :=
    ((guarded _ node isNode).nodeAfter threads vmid place.1.nodeId).takeCpus_unreserved isCpu
  rw [HostShareNode.nodeAfter_layout] at isLayout
  exact ⟨node, isNode, layout, isLayout, unreserved⟩

theorem Guarded.allocateAll (threads : Int) (sr : NumaCapacity) {placements : List Placement}
    (guarded : host.Guarded (topology.pinPolicy = .core))
    (located : ∀ placement ∈ placements, host.Locates topology placement) :
    (allocateAll topology threads host sr placements).1.Guarded (topology.pinPolicy = .core) := by
  intro id node isNode
  rw [(allocateAll_eq threads sr located).2] at isNode
  obtain ⟨before, isBefore, rfl⟩ := Option.map_eq_some_iff.1 isNode
  exact (guarded id before isBefore).nodeAfter threads sr.vmid id

/-- The virtual nodes that `add` changes are given CPUs that are not reserved. -/
def AssignsUnreserved (host : HostShareNUMA) (before after : NumaCapacity) : Prop :=
  ∀ virtual ∈ after.nodes, virtual ∈ before.nodes ∨
    ∀ id ∈ virtual.nodeId, ∀ ids ∈ virtual.cpus, ∀ cpu ∈ ids, host.Unreserved id cpu

theorem mem_record {places : List (Placement × List Nat)} {nodes : List VirtualNode}
    {virtual : VirtualNode} (member : virtual ∈ record places nodes) :
    virtual ∈ nodes ∨ ∃ place ∈ places, ∃ before, virtual = recorded place.1 place.2 before := by
  induction places generalizing nodes with
  | nil => exact .inl member
  | cons place rest ih =>
    rcases ih member with earlier | ⟨other, inside, isRecorded⟩
    · obtain ⟨position, small, isNode⟩ := List.mem_iff_getElem.1 earlier
      rw [List.getElem_modify] at isNode
      split at isNode
      · exact .inr ⟨place, List.mem_cons_self, _, isNode.symm⟩
      · exact .inl (isNode ▸ List.getElem_mem _)
    · exact .inr ⟨other, List.mem_cons_of_mem _ inside, isRecorded⟩

theorem Guarded.makePinnedTopology (guarded : host.Guarded (topology.pinPolicy = .core)) :
    (host.makePinnedTopology fitness topology sr).1.Guarded False ∧
      host.AssignsUnreserved sr (host.makePinnedTopology fitness topology sr).2.1 := by
  simp only [HostShareNUMA.makePinnedTopology]
  split
  · exact ⟨guarded.weaken, fun virtual inside => .inl inside⟩
  · rename_i threads placements found
    have located := places_located found
    have allocated := (allocateAll_eq threads sr located).1
    have kept := (guarded.allocateAll threads sr located).weaken
    have unreserved : host.AssignsUnreserved sr
        (HostShareNUMA.allocateAll topology threads host sr placements).2.1 := by
      rw [allocated]
      intro virtual inside
      refine (mem_record inside).imp_right ?_
      rintro ⟨place, isPlace, before, rfl⟩ id isId ids isIds cpu isCpu
      cases isId
      cases isIds
      split at isCpu
      · cases isCpu
      · exact takenCpus_unreserved guarded located place isPlace cpu isCpu
    split
    · rename_i isResult
      rw [isResult] at kept unreserved
      exact ⟨kept, unreserved⟩
    · rename_i isResult
      rw [isResult] at kept unreserved
      split
      · exact ⟨kept, unreserved⟩
      · exact ⟨kept, unreserved⟩

theorem Guarded.makeTopology (guarded : host.Guarded False)
    (first : ∀ topology ∈ sr.topology, topology.isScheduled = true → host.Guarded (topology.pinPolicy = .core)) :
    (host.makeTopology fitness sr).1.Guarded False ∧
      host.AssignsUnreserved sr (host.makeTopology fitness sr).2.1 := by
  simp only [HostShareNUMA.makeTopology]
  split
  · exact ⟨guarded, fun virtual inside => .inl inside⟩
  · rename_i topology isTopology
    split
    · exact ⟨guarded, fun virtual inside => .inl inside⟩
    · split
      · rename_i isScheduled
        exact (first topology isTopology isScheduled).makePinnedTopology
      · split
        · exact ⟨guarded, fun virtual inside => .inl inside⟩
        · rename_i id node found
          have isNode := (singleNode_found found).1
          refine ⟨guarded.setNode fun core inside => ?_, fun virtual inside => .inr ?_⟩
          · refine guarded id node isNode core ?_
            split at inside
            · exact inside
            · rw [HostShareNode.addPages_cores] at inside
              exact inside
          · obtain ⟨before, -, rfl⟩ := List.mem_map.1 inside
            intro other isOther ids isIds cpu isCpu
            cases isOther
            cases isIds
            split at isCpu
            · cases isCpu
            · exact ⟨node, isNode, HostShareNode.lsCpus_unreserved isCpu⟩

theorem Guarded.delNode (guarded : host.Guarded False) (vmid pageSize : Nat) (virtual : VirtualNode) :
    (host.delNode vmid pageSize virtual).Guarded False := by
  simp only [HostShareNUMA.delNode]
  split
  · rename_i nodeId memNodeId ids memory _ _ _ _
    have cpus : (host.setNode nodeId ((host.getNode nodeId).delCpu ids vmid)).Guarded False :=
      guarded.setNode ((guarded.getNode nodeId).delCpu ids vmid)
    refine cpus.setNode fun core inside => cpus.getNode memNodeId core ?_
    split at inside
    · exact inside
    · rw [HostShareNode.delPages_cores] at inside
      exact inside
  · exact guarded

theorem Guarded.del (guarded : host.Guarded False) (sr : NumaCapacity) : (host.del sr).Guarded False := by
  simp only [HostShareNUMA.del]
  generalize sr.nodes = nodes
  induction nodes generalizing host with
  | nil => exact guarded
  | cons virtual rest ih => exact ih (guarded.delNode _ _ virtual)

end HostShareNUMA

/-- A host with the requests of the VMs that run on it, as `add` left them -/
structure NumaState where
  host : HostShareNUMA
  running : List NumaCapacity

inductive NumaEvent where
  | add (sr : NumaCapacity)
  | del (vmid : Nat)

/-- Requests are tested before they are added, once for each VM.  Nothing follows a division
by zero. -/
def NumaState.step (fitness : Fitness) (state : NumaState) : NumaEvent → Option NumaState
  | .add sr =>
    if state.host.test sr ∧ (∀ other ∈ state.running, other.vmid ≠ sr.vmid) ∧
        (state.host.makeTopology fitness sr).2.2 ≠ .crashed then
      some ⟨(state.host.add fitness sr).1, (state.host.add fitness sr).2 :: state.running⟩ else none
  | .del vmid =>
    (state.running.find? fun sr => sr.vmid = vmid).map fun sr =>
      ⟨state.host.del sr, state.running.filter fun other => other.vmid ≠ vmid⟩

def Core.Fresh (core : Core) : Prop :=
  0 < core.vmsThread ∧ core.dedicated = false ∧ core.reservedCpus = ∅ ∧
    (∀ cpu ∈ core.cpus, cpu.vms = []) ∧ core.setCpuUsage = core

instance (core : Core) : Decidable core.Fresh := inferInstanceAs (Decidable (_ ∧ _ ∧ _ ∧ _ ∧ _))

def HostShareNUMA.Fresh (host : HostShareNUMA) : Prop :=
  ∀ row ∈ host.nodes.entries, ∀ core ∈ row.2.cores, core.Fresh

instance (host : HostShareNUMA) : Decidable host.Fresh :=
  inferInstanceAs (Decidable (∀ row ∈ host.nodes.entries, _))

/-- Hosts start without VMs, with the CPUs of `ISOLCPUS` reserved. -/
def numaSystem (fitness : Fitness) : System NumaState NumaEvent where
  initial start := ∃ (host : HostShareNUMA) (ids : List Nat),
    host.Fresh ∧ start = ⟨host.reserveCpus ids, []⟩
  step := NumaState.step fitness

/-- Cores are dedicated to VMs only while no core that could be chosen has its first thread
reserved. -/
def NumaEvent.Unreserved (state : NumaState) : NumaEvent → Prop
  | .add sr => ∀ topology ∈ sr.topology, topology.isScheduled = true → topology.pinPolicy = .core →
      ∀ row ∈ state.host.nodes.entries, ∀ core ∈ row.2.cores, core.FirstUnreserved
  | .del _ => True

instance (core : Core) : Decidable core.FirstUnreserved :=
  inferInstanceAs (Decidable (_ → ∀ cpu ∈ core.cpus.head?, _))

instance (state : NumaState) : (event : NumaEvent) → Decidable (event.Unreserved state)
  | .add sr => inferInstanceAs (Decidable (∀ topology ∈ sr.topology, _))
  | .del _ => isTrue trivial

theorem Core.guarded_of_unmarked {core : Core} (positive : 0 < core.vmsThread)
    (undedicated : core.dedicated = false) (unmarked : ∀ cpu ∈ core.cpus, cpu.vms = [])
    (counted : core.usedCpus = core.marks) : core.Guarded := by
  refine ⟨⟨fun cpu inside _ => unmarked cpu inside, fun cpu inside => ?_, fun contra => ?_⟩,
    positive, fun _ => counted, fun contra => ?_⟩
  · simp [unmarked cpu inside]
  · exact absurd (undedicated.symm.trans contra) (by decide)
  · exact absurd (undedicated.symm.trans contra) (by decide)

theorem Core.Fresh.reserveCpus {core : Core} (fresh : core.Fresh) (ids : List Nat) :
    (core.reserveCpus ids).Guarded := by
  obtain ⟨positive, undedicated, -, unmarked, counted⟩ := fresh
  have isUsed : core.usedCpus = core.marks := by
    have used := congrArg Core.usedCpus counted
    simpa [Core.setCpuUsage, undedicated] using used.symm
  simp only [Core.reserveCpus]
  split
  · simp only [Core.setCpuUsage, undedicated, Bool.false_eq_true, if_false]
    exact Core.guarded_of_unmarked positive rfl unmarked rfl
  · exact Core.guarded_of_unmarked positive undedicated unmarked isUsed

theorem HostShareNUMA.Fresh.reserveCpus {host : HostShareNUMA} (fresh : host.Fresh)
    (ids : List Nat) : (host.reserveCpus ids).Guarded False := by
  intro id node isNode core inside
  simp only [HostShareNUMA.reserveCpus, Map.lookup_modify] at isNode
  obtain ⟨before, isBefore, rfl⟩ := Option.map_eq_some_iff.1 isNode
  obtain ⟨old, isOld, rfl⟩ := List.mem_map.1 inside
  exact ⟨(fresh _ (Map.mem_entries_iff.2 isBefore) old isOld).reserveCpus ids, False.elim⟩

theorem NumaEvent.Unreserved.guarded {state : NumaState} {sr : NumaCapacity}
    (unreserved : (NumaEvent.add sr).Unreserved state) (guarded : state.host.Guarded False) :
    ∀ topology ∈ sr.topology, topology.isScheduled = true → state.host.Guarded (topology.pinPolicy = .core) := by
  intro topology isTopology isScheduled id node isNode core inside
  exact ⟨(guarded id node isNode core inside).1, fun isCore =>
    unreserved topology isTopology isScheduled isCore ⟨id, node⟩ (Map.mem_entries_iff.2 isNode)
      core inside⟩

theorem NumaState.step_guarded {fitness : Fitness} {state next : NumaState} {event : NumaEvent}
    (guarded : state.host.Guarded False) (unreserved : event.Unreserved state)
    (stepped : state.step fitness event = some next) : next.host.Guarded False := by
  cases event with
  | add sr =>
    simp only [step] at stepped
    split at stepped
    · cases stepped
      exact (guarded.makeTopology (unreserved.guarded guarded)).1
    · cases stepped
  | del vmid =>
    obtain ⟨sr, -, rfl⟩ := Option.map_eq_some_iff.1 stepped
    exact guarded.del sr

/-- In a run that dedicates only cores with an unreserved first thread, reserved threads have no
VM, threads have no more VMs than they can take and dedicated cores have one VM; what `add`
assigns is not reserved. -/
theorem numa_isolation (fitness : Fitness) (state : NumaState)
    (reached : (numaSystem fitness).Reachable (fun state event => event.Unreserved state) state) :
    (∀ id node, state.host.nodes.lookup id = some node → ∀ core ∈ node.cores, core.Isolated) ∧
      ∀ sr, state.host.test sr = true → (NumaEvent.add sr).Unreserved state →
        state.host.AssignsUnreserved sr (state.host.add fitness sr).2 := by
  have guarded : state.host.Guarded False := by
    refine @System.Reachable.invariant _ _ _ _ (fun state : NumaState => state.host.Guarded False) _
      reached ?_ ?_
    · rintro start ⟨host, ids, fresh, rfl⟩
      exact fresh.reserveCpus ids
    · intro before event next guarded unreserved stepped
      exact NumaState.step_guarded guarded unreserved stepped
  refine ⟨fun id node isNode core inside => ?_, fun sr _ unreserved => ?_⟩
  · exact (guarded id node isNode core inside).1.toIsolated
  · exact (guarded.makeTopology (unreserved.guarded guarded)).2

def newCore (id vmsThread : Nat) (threads : List Nat) : Core :=
  Core.setCpuUsage
    { id, freeCpus := 0, usedCpus := 0, vmsThread, dedicated := false
      cpus := threads.map fun thread => ⟨thread, []⟩, reservedCpus := ∅ }

def newNode (id : Nat) (cores : List Core) (distance : List Nat) : HostShareNode :=
  { nodeId := id, cores, pages := ∅, totalMem := 16777216, memUsage := 0, distance }

def twoCores : HostShareNUMA where
  nodes := AList.insert 0 (newNode 0 [newCore 0 1 [0, 1], newCore 1 1 [2, 3]] [0]) ∅
  threadsCore := 2

/-- A VM with one virtual node of 1 GB -/
def oneNode (vmid totalCpus : Nat) (pinPolicy : PinPolicy) : NumaCapacity where
  vmid
  vcpu := totalCpus
  mem := 1048576
  topology := some { pinPolicy, sockets := 1 }
  nodes := [{ totalCpus, memory := some 1048576 }]

theorem numaSystem_initial {fitness : Fitness} {host : HostShareNUMA} (fresh : host.Fresh)
    (ids : List Nat) : (numaSystem fitness).initial ⟨host.reserveCpus ids, []⟩ :=
  ⟨host, ids, fresh, rfl⟩

def HostShareNUMA.marksOf (host : HostShareNUMA) : List (List (List (List Nat))) :=
  host.inOrder.map fun row => row.2.cores.map fun core => core.cpus.map Cpu.vms

/-- With the second threads reserved, one VM has the first core and another one the first
thread of the second core. -/
theorem numa_isolation_two_vms :
    ∃ state, (numaSystem exactFitness).Reachable (fun state event => event.Unreserved state) state ∧
      state.host.marksOf = [[[[7], []], [[8], []]]] ∧
      (∀ id node, state.host.nodes.lookup id = some node → ∀ core ∈ node.cores, core.Isolated) ∧
        ∀ sr, state.host.test sr = true → (NumaEvent.add sr).Unreserved state →
          state.host.AssignsUnreserved sr (state.host.add exactFitness sr).2 := by
  have ran : (((numaSystem exactFitness).exec (fun state event => event.Unreserved state)
      ⟨twoCores.reserveCpus [1, 3], []⟩ [.add (oneNode 7 1 .core), .add (oneNode 8 1 .thread)]).map
        fun state => state.host.marksOf) = some [[[[7], []], [[8], []]]] := by
    decide
  obtain ⟨state, isRun, isMarks⟩ := Option.map_eq_some_iff.mp ran
  have reached := System.reachable_of_exec (numaSystem_initial (by decide) [1, 3]) isRun
  exact ⟨state, reached, isMarks, numa_isolation exactFitness state reached⟩

/-- With the first threads reserved, a VM that has a core to itself is given a reserved one. -/
theorem numa_isolation_first_thread : ¬∀ state, (numaSystem exactFitness).Reachable System.anyStep state →
      ∀ id node, state.host.nodes.lookup id = some node → ∀ core ∈ node.cores, core.Isolated := by
  intro always
  have ran : (((numaSystem exactFitness).exec System.anyStep ⟨twoCores.reserveCpus [0, 2], []⟩
      [.add (oneNode 7 1 .core)]).map fun state => (state.host.nodes.lookup 0).map
        fun node => (node.cores.head?).map fun core =>
          decide (⟨0, [7]⟩ ∈ core.cpus ∧ 0 ∈ core.reservedCpus)) = some (some (some true)) := by
    decide
  obtain ⟨state, isRun, isNode⟩ := Option.map_eq_some_iff.mp ran
  obtain ⟨node, found, isCore⟩ := Option.map_eq_some_iff.mp isNode
  obtain ⟨core, isFirst, isMarked⟩ := Option.map_eq_some_iff.mp isCore
  have reached := System.reachable_of_exec (numaSystem_initial (by decide) [0, 2]) isRun
  have isolated := always state reached 0 node found core (List.mem_of_mem_head? isFirst)
  obtain ⟨inside, isReserved⟩ := of_decide_eq_true isMarked
  exact absurd (isolated.reserved ⟨0, [7]⟩ inside isReserved) (by decide)

end OpenNebula.Host
