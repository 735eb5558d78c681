import Mathlib.Algebra.BigOperators.Fin
import OpenNebula.Host.NumaRelease

namespace OpenNebula.Host

open Library

/-! # `add` and `del` of a virtual machine

What `add` records of the places is what `del` gives back: the marks are on the recorded
threads, and the memory and the pages are those of the virtual nodes.
-/

theorem sum_at_positions {α : Type} {values : List α} {amount : α → Nat} {positions : List Nat}
    (distinct : positions.Nodup) (inside : ∀ position ∈ positions, position < values.length)
    (nothing : ∀ position, ∀ value ∈ values[position]?, position ∉ positions → amount value = 0) :
    (values.map amount).sum = (positions.map fun position => (values[position]?).elim 0 amount).sum := by
  have byPosition : (values.map amount).sum =
      ∑ position ∈ Finset.range values.length, (values[position]?).elim 0 amount := by
    rw [Finset.sum_range, ← Fin.sum_univ_getElem]
    refine Fintype.sum_equiv (finCongr (List.length_map _)) _ _ fun position => ?_
    have small : position.val < values.length := by
      simpa using position.isLt
    simp [List.getElem?_eq_getElem small]
  rw [byPosition, ← List.sum_toFinset _ distinct]
  refine (Finset.sum_subset ?_ ?_).symm
  · intro position isPosition
    exact Finset.mem_range.2 (inside position (List.mem_toFinset.1 isPosition))
  · intro position isInside outside
    have isValue := List.getElem?_eq_getElem (Finset.mem_range.1 isInside)
    rw [isValue]
    exact nothing position _ isValue fun isPosition => outside (List.mem_toFinset.2 isPosition)

namespace HostShareNUMA

variable {host : HostShareNUMA} {topology : Topology} {threads : Int}
  {vmid id : Nat} {node : HostShareNode} {placement : Placement} {sr : NumaCapacity}

theorem marks_nodeAfter {earlier placements : List Placement} {vm cpu : Nat}
    (isNode : host.nodes.lookup id = some node) (positive : ∀ placement ∈ placements, 0 < placement.request.totalCpus)
    (complete : Complete (host.givenInTurn topology threads vmid earlier placements))
    (marked : Marks (nodeAfter topology threads vmid id (earlier ++ placements) node).cores vm cpu) :
    Marks (nodeAfter topology threads vmid id earlier node).cores vm cpu ∨
      (vm = vmid ∧ ∃ place ∈ host.givenInTurn topology threads vmid earlier placements,
        place.1.nodeId = id ∧ cpu ∈ place.2) := by
  induction placements generalizing earlier with
  | nil =>
    rw [List.append_nil] at marked
    exact .inl marked
  | cons placement rest ih =>
    simp only [Complete, givenInTurn, List.forall_mem_cons] at complete
    rw [List.append_cons] at marked
    rcases ih (fun other inside => positive other (List.mem_cons_of_mem _ inside)) complete.2 marked
      with between | ⟨same, place, inside, given⟩
    · rw [nodeAfter_append] at between
      have isTurn : id = placement.nodeId →
          host.nodeInTurn topology threads vmid earlier placement =
            nodeAfter topology threads vmid id earlier node := by
        rintro rfl
        rw [nodeInTurn, getNode, isNode, Option.getD_some]
      rcases marks_apply (fun isId => isTurn isId ▸ complete.1)
        (positive placement List.mem_cons_self) between with before | ⟨same, isId, given⟩
      · exact .inl before
      · exact .inr ⟨same, _, List.mem_cons_self, isId.symm, (isTurn isId).symm ▸ given⟩
    · exact .inr ⟨same, place, List.mem_cons_of_mem _ inside, given⟩

theorem hosts_apply {cores : List Core} (hosts : List.Forall₂ (Core.Hosts vmid) cores node.cores) :
    List.Forall₂ (Core.Hosts vmid) cores (Placement.apply topology threads vmid id node placement).cores := by
  rw [Placement.apply_cores]
  split
  · simp only [Placement.takeCpus]
    split
    · exact HostShareNode.hosts_dedicateCores hosts
    · exact HostShareNode.hosts_htCores hosts
  · exact hosts

theorem hosts_nodeAfter {cores : List Core} {placements : List Placement}
    (hosts : List.Forall₂ (Core.Hosts vmid) cores node.cores) : List.Forall₂ (Core.Hosts vmid) cores
      (nodeAfter topology threads vmid id placements node).cores := by
  induction placements generalizing node with
  | nil => exact hosts
  | cons placement rest ih => exact ih (hosts_apply hosts)

theorem takeCpus_undedicated {cores : List Core} {cpu : Nat} (hosts : List.Forall₂ (Core.Hosts vmid) cores node.cores)
    (taken : cpu ∈ (placement.takeCpus topology threads vmid node).2) :
    ∃ core ∈ cores, core.dedicated = false ∧ cpu ∈ core.cpus.map Cpu.id := by
  simp only [Placement.takeCpus] at taken
  split at taken
  · simp only [HostShareNode.allocateDedicatedCpus, HostShareNode.allocated] at taken
    split at taken
    · exact HostShareNode.dedicateCores_undedicated hosts taken
    · cases taken
  · simp only [HostShareNode.allocateHtCpus, HostShareNode.allocated] at taken
    split at taken
    · exact HostShareNode.htCores_undedicated hosts taken
    · cases taken

def recordOf (place : Placement × List Nat) : Nat × Nat × List Nat × Nat :=
  (place.1.nodeId, place.1.memNodeId, place.2, place.1.memory)

def Blank (sr : NumaCapacity) : Prop :=
  ∀ virtual ∈ sr.nodes, virtual.totalCpus = 0 ∨ virtual.memory.getD 0 = 0 → virtual.place = none

instance (sr : NumaCapacity) : Decidable (Blank sr) :=
  inferInstanceAs (Decidable (∀ virtual ∈ sr.nodes, _))

theorem recorded_place {virtual : VirtualNode} {place : Placement × List Nat}
    (isMemory : place.1.request.memory = virtual.memory.getD 0)
    (hasCpus : 0 < place.1.request.totalCpus) (hasMemory : 0 < place.1.request.memory) :
    (recorded place.1 place.2 virtual).place = some (recordOf place) := by
  cases isSome : virtual.memory with
  | none =>
    rw [isSome] at isMemory
    exact absurd isMemory hasMemory.ne'
  | some memory =>
    rw [isSome] at isMemory
    simp only [VirtualNode.place, recorded, if_neg hasCpus.ne', if_neg hasMemory.ne', isSome,
      recordOf, Placement.memory]
    rw [isMemory, Option.getD_some]

section Records

variable {placements : List Placement} (isRequests : placements.map Placement.request = sr.vmNodes)

include isRequests

theorem record_mem {place : Placement × List Nat}
    (inside : place ∈ host.givenInTurn topology threads vmid [] placements) :
    ∃ virtual, (record (host.givenInTurn topology threads vmid [] placements)
        sr.nodes)[place.1.request.position]? = some virtual ∧ virtual.place = some (recordOf place) := by
  obtain ⟨before, isBefore, -, isMemory, hasCpus, hasMemory⟩ := given_virtual isRequests inside
  refine ⟨recorded place.1 place.2 before, ?_, recorded_place isMemory hasCpus hasMemory⟩
  rw [record_own (given_distinct isRequests) inside, isBefore, Option.map_some]

theorem record_blank {virtual : VirtualNode} {position : Nat} (blank : Blank sr)
    (isVirtual : (record (host.givenInTurn topology threads vmid [] placements) sr.nodes)[position]? = some virtual)
    (outside : position ∉ (host.givenInTurn topology threads vmid [] placements).map
      fun place => place.1.request.position) : virtual.place = none := by
  rw [record_other fun place inside same => outside (List.mem_map.2 ⟨place, inside, same⟩)]
    at isVirtual
  refine blank virtual (List.mem_of_getElem? isVirtual) ?_
  by_contra whole
  rw [not_or] at whole
  obtain ⟨place, isGiven, isPosition⟩ := @given_of_virtual host topology threads vmid sr []
    placements position virtual isRequests isVirtual (Nat.pos_of_ne_zero whole.1)
    (Nat.pos_of_ne_zero whole.2)
  exact outside (List.mem_map.2 ⟨place, isGiven, isPosition⟩)

theorem mem_record_place {virtual : VirtualNode} (blank : Blank sr)
    (inside : virtual ∈ record (host.givenInTurn topology threads vmid [] placements) sr.nodes) :
    virtual.place = none ∨ ∃ place ∈ host.givenInTurn topology threads vmid [] placements,
      virtual.place = some (recordOf place) := by
  obtain ⟨position, isVirtual⟩ := List.mem_iff_getElem?.mp inside
  by_cases given : position ∈ (host.givenInTurn topology threads vmid [] placements).map
      fun place => place.1.request.position
  · obtain ⟨place, isGiven, rfl⟩ := List.mem_map.1 given
    obtain ⟨other, isOther, isPlace⟩ := record_mem isRequests isGiven
    obtain rfl := Option.some.inj (isVirtual.symm.trans isOther)
    exact .inr ⟨place, isGiven, isPlace⟩
  · exact .inl (record_blank isRequests blank isVirtual given)

theorem sum_record {amount : Option (Nat × Nat × List Nat × Nat) → Nat} (none : amount none = 0) (blank : Blank sr) :
    ((record (host.givenInTurn topology threads vmid [] placements) sr.nodes).map
        fun virtual => amount virtual.place).sum = ((host.givenInTurn topology threads vmid [] placements).map
        fun place => amount (some (recordOf place))).sum := by
  rw [sum_at_positions (given_distinct isRequests) ?_ ?_, List.map_map]
  · refine congrArg List.sum (List.map_congr_left fun place inside => ?_)
    obtain ⟨virtual, isVirtual, isPlace⟩ := record_mem isRequests inside
    simp only [Function.comp_apply, isVirtual, Option.elim_some, isPlace]
  · intro position isPosition
    obtain ⟨place, inside, rfl⟩ := List.mem_map.1 isPosition
    obtain ⟨virtual, isVirtual, -⟩ := record_mem isRequests inside
    exact (List.getElem?_eq_some_iff.1 isVirtual).1
  · intro position virtual isVirtual outside
    rw [record_blank isRequests blank isVirtual outside, none]

theorem sum_memoryOn {count : Nat → Nat} (zero : count 0 = 0) (blank : Blank sr) :
    ((record (host.givenInTurn topology threads vmid [] placements) sr.nodes).map
      fun virtual => count (virtual.memoryOn id)).sum =
        takenFrom (fun placement => count placement.memory) id placements := by
  have counted := @sum_record host topology threads vmid sr placements isRequests
    (fun place => count (place.elim 0 fun place => if place.2.1 = id then place.2.2.2 else 0)) zero
    blank
  simp only [VirtualNode.memoryOn_eq]
  refine counted.trans ?_
  rw [takenFrom_eq_sum]
  conv_rhs => rw [← @givenInTurn_fst host topology threads vmid [] placements, List.map_map]
  refine congrArg List.sum (List.map_congr_left fun place _ => ?_)
  by_cases same : place.1.memNodeId = id
  · simp [recordOf, same]
  · simp [recordOf, same, zero]

end Records

end HostShareNUMA

/-- The cores, the memory and the pages in use are the same. -/
structure HostShareNode.Same (node again : HostShareNode) : Prop where
  cores : again.cores = node.cores
  memory : again.memUsage = node.memUsage
  pages : ∀ size, again.pages.lookup size = node.pages.lookup size

/-- The host has the nodes that it had, with the same in use. -/
def HostShareNUMA.Restored (host again : HostShareNUMA) : Prop :=
  (∀ id, ∀ node ∈ host.nodes.lookup id, ∃ other ∈ again.nodes.lookup id, node.Same other) ∧
    ∀ id ∈ again.nodes, id ∈ host.nodes

def HostShareNUMA.Distinct (host : HostShareNUMA) : Prop :=
  ∀ row ∈ host.nodes.entries, row.2.cpuIds.Nodup

instance (host : HostShareNUMA) : Decidable host.Distinct :=
  inferInstanceAs (Decidable (∀ row ∈ host.nodes.entries, _))

/-- The counters of the cores are those of their marks. -/
def HostShareNUMA.Counted (host : HostShareNUMA) : Prop :=
  ∀ id, ∀ node ∈ host.nodes.lookup id, ∀ core ∈ node.cores, core.Counted

def HostShareNUMA.Marks (host : HostShareNUMA) (vm id cpu : Nat) : Prop :=
  ∃ node ∈ host.nodes.lookup id, OpenNebula.Host.Marks node.cores vm cpu

namespace HostShareNUMA

variable {fitness : Fitness} {host : HostShareNUMA} {topology : Topology} {threads : Int}
  {vmid id : Nat} {node : HostShareNode} {sr : NumaCapacity} {placements : List Placement}

theorem Distinct.cpuIds (distinct : host.Distinct) (isNode : host.nodes.lookup id = some node) : node.cpuIds.Nodup :=
  distinct ⟨id, node⟩ (Map.mem_entries_iff.2 isNode)

theorem Counted.start (counted : host.Counted) (isNode : host.nodes.lookup id = some node)
    (unmarked : ∀ cpu, ¬host.Marks vmid id cpu) : List.Forall₂ (Core.Hosts vmid) node.cores node.cores := by
  refine List.forall₂_same.2 fun core inside => Core.Hosts.start (counted id node isNode core inside) ?_
  intro cpu isCpu isMarked
  exact unmarked cpu.id ⟨node, isNode, core, inside, cpu, isCpu, rfl, isMarked⟩

theorem core_unique {cores : List Core} {core other : Core} {cpu : Nat}
    (distinct : (cores.flatMap fun core => core.cpus.map Cpu.id).Nodup) (inside : core ∈ cores)
    (isOther : other ∈ cores) (isCpu : cpu ∈ core.cpus.map Cpu.id)
    (isOtherCpu : cpu ∈ other.cpus.map Cpu.id) : core = other := by
  by_contra apart
  have symmetric : Std.Symm (Function.onFun List.Disjoint fun core : Core => core.cpus.map Cpu.id) :=
    ⟨fun _ _ disjoint => List.Disjoint.symm disjoint⟩
  have disjoint := (List.nodup_flatMap.1 distinct).2.forall inside isOther apart
  exact disjoint isCpu isOtherCpu

theorem nodeReleased_nodeAfter (isNode : host.nodes.lookup id = some node) (counted : host.Counted)
    (distinct : host.Distinct) (unmarked : ∀ cpu, ¬host.Marks sr.vmid id cpu) (blank : Blank sr)
    (isRequests : placements.map Placement.request = sr.vmNodes)
    (complete : Complete (host.givenInTurn topology threads sr.vmid [] placements)) :
    node.Same (nodeReleased sr.vmid topology.pageSize id
      (record (host.givenInTurn topology threads sr.vmid [] placements) sr.nodes)
      (nodeAfter topology threads sr.vmid id placements node)) := by
  have hosts := counted.start isNode unmarked
  have nodup := distinct.cpuIds isNode
  have nodupAfter : (nodeAfter topology threads sr.vmid id placements node).cpuIds.Nodup := by
    rw [HostShareNode.cpuIds_congr (HostShareNode.nodeAfter_layout ..)]
    exact nodup
  refine ⟨?_, ?_, fun size => ?_⟩
  · refine eq_of_hosts (hosts_nodeReleased (hosts_nodeAfter hosts) nodupAfter ?_)
      (counted id node isNode) ?_
    · -- Threads that are given back are not on a core that was dedicated.
      intro virtual inside core isCore isDedicated cpu isCpu given
      rcases mem_record_place isRequests blank inside with none | ⟨place, isGiven, isPlace⟩
      · simp [VirtualNode.cpusOn, none] at given
      · simp only [VirtualNode.cpusOn, isPlace, recordOf] at given
        split at given
        · rename_i same
          obtain ⟨before, isTaken⟩ := mem_givenInTurn isGiven
          rw [isTaken, nodeInTurn, getNode, same, isNode, Option.getD_some] at given
          obtain ⟨other, isOther, notDedicated, isOtherCpu⟩ := takeCpus_undedicated (hosts_nodeAfter hosts) given
          obtain rfl := core_unique nodup isCore isOther isCpu isOtherCpu
          exact absurd (notDedicated.symm.trans isDedicated) (by decide)
        · cases given
    · intro cpu marked
      obtain ⟨isMarked, apart⟩ := marks_nodeReleased nodupAfter marked
      rcases @marks_nodeAfter host topology threads sr.vmid id node [] placements sr.vmid cpu isNode
        (placements_positive isRequests) complete isMarked with before | ⟨-, place, isGiven, isId, given⟩
      · exact unmarked cpu ⟨node, isNode, before⟩
      · obtain ⟨virtual, isVirtual, isPlace⟩ := record_mem isRequests isGiven
        refine apart ⟨rfl, virtual, List.mem_of_getElem? isVirtual, ?_⟩
        simp only [VirtualNode.cpusOn, isPlace, recordOf, if_pos isId]
        exact given
  · have taken := @sum_memoryOn host topology threads sr.vmid id sr placements isRequests
      (fun memory => memory) rfl blank
    rw [nodeReleased_memUsage, nodeAfter_memory.1]
    have same : ((record (host.givenInTurn topology threads sr.vmid [] placements) sr.nodes).map
        (VirtualNode.memoryOn id)).sum = takenFrom Placement.memory id placements := taken
    omega
  · have taken := @sum_memoryOn host topology threads sr.vmid id sr placements isRequests
      (fun memory => memory / topology.pageSize) (Nat.zero_div _) blank
    rw [nodeReleased_lookup, nodeAfter_lookup, Option.map_map, taken]
    refine (congrArg (fun update => (node.pages.lookup size).map update) (funext fun page => ?_)).trans Option.map_id'
    simp only [Function.comp_apply, pageAfter]
    split
    · have same : takenFrom (Placement.pages topology.pageSize) id placements =
          takenFrom (fun placement => placement.memory / topology.pageSize) id placements := rfl
      rw [same, Nat.add_sub_cancel]
    · rfl

theorem assigned_place (cpus : List Nat) (virtual : VirtualNode) : (assigned id cpus virtual).place =
      if virtual.memory.getD 0 = 0 then none
      else some (id, id, if virtual.totalCpus = 0 then [] else cpus, virtual.memory.getD 0) := by
  simp only [VirtualNode.place, assigned]
  cases virtual.memory with
  | none => rfl
  | some memory =>
    by_cases isZero : memory = 0
    · simp [isZero]
    · simp [isZero]

theorem assigned_memoryOn (cpus : List Nat) (other : Nat) (virtual : VirtualNode) :
    (assigned id cpus virtual).memoryOn other = if other = id then virtual.memory.getD 0 else 0 := by
  simp only [VirtualNode.memoryOn, assigned_place]
  by_cases isZero : virtual.memory.getD 0 = 0
  · simp [isZero]
  · by_cases same : other = id
    · simp [isZero, same]
    · simp [isZero, same, Ne.symm same]

theorem sum_assigned {cpus : List Nat} {count : Nat → Nat} (zero : count 0 = 0) (other : Nat) :
    ((sr.nodes.map (assigned id cpus)).map fun virtual => count (virtual.memoryOn other)).sum =
      if other = id then (sr.nodes.map fun virtual => count (virtual.memory.getD 0)).sum else 0 := by
  rw [List.map_map]
  simp only [Function.comp_def, assigned_memoryOn]
  split
  · rfl
  · simp [zero]

theorem nodeReleased_assigned {other : Nat} {middle : HostShareNode} {cpus : List Nat}
    (isNode : host.nodes.lookup other = some node) (counted : host.Counted)
    (distinct : host.Distinct) (unmarked : ∀ cpu, ¬host.Marks sr.vmid other cpu)
    (sameCores : middle.cores = node.cores)
    (shared : other = id → ∀ virtual ∈ sr.nodes, virtual.totalCpus ≠ 0 → virtual.memory.getD 0 ≠ 0 →
      ∀ core ∈ node.cores, core.dedicated = false) :
    (nodeReleased sr.vmid topology.pageSize other (sr.nodes.map (assigned id cpus)) middle).cores = node.cores := by
  have hosts := counted.start isNode unmarked
  have nodup : middle.cpuIds.Nodup := by
    rw [HostShareNode.cpuIds_congr (congrArg (List.map Core.layout) sameCores)]
    exact distinct.cpuIds isNode
  refine eq_of_hosts (hosts_nodeReleased (sameCores.symm ▸ hosts) nodup ?_) (counted other node isNode) ?_
  · intro virtual inside core isCore isDedicated cpu isCpu given
    obtain ⟨before, isBefore, rfl⟩ := List.mem_map.1 inside
    simp only [VirtualNode.cpusOn, assigned_place] at given
    by_cases hasMemory : before.memory.getD 0 = 0
    · simp [hasMemory] at given
    · by_cases hasCpus : before.totalCpus = 0
      · simp [hasMemory, hasCpus] at given
      · simp only [if_neg hasMemory] at given
        split at given
        · rename_i same
          have notDedicated := shared same.symm before isBefore hasCpus hasMemory core isCore
          exact absurd (notDedicated.symm.trans isDedicated) (by decide)
        · cases given
  · intro cpu marked
    have isMarked := (marks_nodeReleased nodup marked).1
    exact unmarked cpu ⟨node, isNode, sameCores ▸ isMarked⟩

def Unplaced (sr : NumaCapacity) : Prop := ∀ virtual ∈ sr.nodes, virtual.place = none

instance (sr : NumaCapacity) : Decidable (Unplaced sr) :=
  inferInstanceAs (Decidable (∀ virtual ∈ sr.nodes, _))

/-- The virtual nodes have the memory of the VM, also in whole pages, and where they are given CPUs
the cores of the node are not dedicated. -/
structure Shares (topology : Topology) (sr : NumaCapacity) (node : HostShareNode) : Prop where
  memory : (sr.nodes.map fun virtual => virtual.memory.getD 0).sum = sr.mem
  pages : (sr.nodes.map fun virtual => virtual.memory.getD 0 / topology.pageSize).sum =
    sr.mem / topology.pageSize
  cpus : ∀ virtual ∈ sr.nodes, virtual.totalCpus ≠ 0 → virtual.memory.getD 0 ≠ 0 →
    ∀ core ∈ node.cores, core.dedicated = false

/-- What a request must meet for its release to give back all that it takes, and nothing else:
the virtual nodes without a place have none of an earlier allocation, those with a place are
given all their CPUs, and a node that is shared has no dedicated cores. -/
def Reverses (fitness : Fitness) (host : HostShareNUMA) (sr : NumaCapacity) : Prop :=
  (sr.topology = none → Unplaced sr) ∧ ∀ topology ∈ sr.topology, sr.nodes ≠ [] →
    (topology.isScheduled = true → (host.places fitness topology sr = none → Unplaced sr) ∧
      ∀ found ∈ host.places fitness topology sr, Blank sr ∧
        (topology.pinPolicy ≠ .core → host.PassesInTurn topology found.1 sr.vmid [] found.2)) ∧
    (topology.isScheduled = false → (host.singleNode topology sr = none → Unplaced sr) ∧
      ∀ found ∈ host.singleNode topology sr, Shares topology sr found.2)

instance (topology : Topology) (sr : NumaCapacity) (node : HostShareNode) : Decidable (Shares topology sr node) :=
  decidable_of_iff (_ ∧ _ ∧ ∀ virtual ∈ sr.nodes, _ → _ → ∀ core ∈ node.cores, _)
    ⟨fun ⟨memory, pages, cpus⟩ => ⟨memory, pages, cpus⟩, fun shares => ⟨shares.memory, shares.pages, shares.cpus⟩⟩

instance (fitness : Fitness) (host : HostShareNUMA) (sr : NumaCapacity) : Decidable (host.Reverses fitness sr) :=
  inferInstanceAs (Decidable (_ ∧ ∀ topology ∈ sr.topology, _ → (_ → _ ∧ _) ∧ (_ → _ ∧ _)))

theorem restored_of_lookup {again : HostShareNUMA} {update : Nat → HostShareNode → HostShareNode}
    (lookups : ∀ id, again.nodes.lookup id = (host.nodes.lookup id).map (update id))
    (same : ∀ id node, host.nodes.lookup id = some node → node.Same (update id node)) : host.Restored again := by
  refine ⟨fun id node isNode => ⟨update id node, ?_, same id node isNode⟩, fun id inside => ?_⟩
  · rw [lookups, Option.mem_def.1 isNode, Option.map_some]
    rfl
  · obtain ⟨node, isNode⟩ := mem_iff_lookup.1 inside
    rw [lookups] at isNode
    obtain ⟨before, isBefore, -⟩ := Option.map_eq_some_iff.1 isNode
    exact mem_iff_lookup.2 ⟨before, isBefore⟩

theorem nodeReleased_unplaced {pageSize : Nat} {nodes : List VirtualNode}
    (unplaced : ∀ virtual ∈ nodes, virtual.place = none) : nodeReleased vmid pageSize id nodes node = node := by
  induction nodes with
  | nil => rfl
  | cons virtual rest ih =>
    rw [nodeReleased, List.foldl_cons, VirtualNode.release, unplaced virtual List.mem_cons_self]
    exact ih fun other inside => unplaced other (List.mem_cons_of_mem _ inside)

theorem del_unplaced (unplaced : Unplaced sr) : host.Restored (host.del sr) := by
  have known : ∀ virtual ∈ sr.nodes, host.Knows virtual := by
    intro virtual inside place isPlace
    rw [unplaced virtual inside] at isPlace
    cases isPlace
  refine restored_of_lookup (fun id => del_lookup known) fun id node _ => ?_
  rw [nodeReleased_unplaced unplaced]
  exact ⟨rfl, rfl, fun _ => rfl⟩

theorem record_known {after : HostShareNUMA} (blank : Blank sr)
    (found : host.places fitness topology sr = some (threads, placements))
    (kept : ∀ id ∈ host.nodes, id ∈ after.nodes) :
    ∀ virtual ∈ record (host.givenInTurn topology threads sr.vmid [] placements) sr.nodes, after.Knows virtual := by
  intro virtual inside place isPlace
  rcases mem_record_place (places_found found).1 blank inside with none | ⟨given, isGiven, isRecord⟩
  · rw [none] at isPlace
    cases isPlace
  · obtain rfl := Option.some.inj (isRecord.symm.trans isPlace)
    have located := places_located found given.1 (given_mem isGiven)
    obtain ⟨memNode, isMemNode, -⟩ := located.memory
    exact ⟨kept _ located.cpus, kept _ (mem_iff_lookup.2 ⟨memNode, isMemNode⟩)⟩

theorem mem_of_lookup_map {after : HostShareNUMA} {update : Nat → HostShareNode → HostShareNode}
    (lookups : ∀ id, after.nodes.lookup id = (host.nodes.lookup id).map (update id)) :
    ∀ id ∈ host.nodes, id ∈ after.nodes := by
  intro id inside
  obtain ⟨node, isNode⟩ := mem_iff_lookup.1 inside
  exact mem_iff_lookup.2 ⟨_, by rw [lookups, isNode, Option.map_some]⟩

/-- The request as `add` leaves it -/
theorem makePinnedTopology_after (isTopology : sr.topology = some topology)
    (found : host.places fitness topology sr = some (threads, placements)) :
    (host.makePinnedTopology fitness topology sr).2.1.vmid = sr.vmid ∧
      ((host.makePinnedTopology fitness topology sr).2.1.topology.map Topology.pageSize).getD 0 = topology.pageSize ∧
      (host.makePinnedTopology fitness topology sr).2.1.nodes =
        record (host.givenInTurn topology threads sr.vmid [] placements) sr.nodes := by
  rw [makePinnedTopology_request found]
  split
  · exact ⟨rfl, by rw [isTopology]; rfl, rfl⟩
  · exact ⟨rfl, rfl, rfl⟩

theorem del_makePinnedTopology (isTopology : sr.topology = some topology)
    (found : host.places fitness topology sr = some (threads, placements)) (counted : host.Counted)
    (distinct : host.Distinct) (unmarked : ∀ id cpu, ¬host.Marks sr.vmid id cpu) (blank : Blank sr)
    (complete : Complete (host.givenInTurn topology threads sr.vmid [] placements)) :
    host.Restored ((host.makePinnedTopology fitness topology sr).1.del
      (host.makePinnedTopology fitness topology sr).2.1) := by
  obtain ⟨isVm, isSize, isNodes⟩ := makePinnedTopology_after isTopology found
  have lookups := fun id => @makePinnedTopology_lookup topology threads id placements fitness host sr found
  have known := record_known blank found (mem_of_lookup_map lookups)
  rw [← isNodes] at known
  refine restored_of_lookup (fun id => ?_) fun id node isNode =>
    nodeReleased_nodeAfter isNode counted distinct (unmarked id) blank (places_found found).1 complete
  rw [del_lookup known, lookups, Option.map_map, isVm, isSize, isNodes]
  rfl

theorem assigned_known {after : HostShareNUMA} {cpus : List Nat} (hasNode : id ∈ after.nodes) :
    ∀ virtual ∈ sr.nodes.map (assigned id cpus), after.Knows virtual := by
  intro virtual inside place isPlace
  obtain ⟨before, -, rfl⟩ := List.mem_map.1 inside
  rw [assigned_place] at isPlace
  split at isPlace
  · cases isPlace
  · cases isPlace
    exact ⟨hasNode, hasNode⟩

theorem lookup_assignNode {pageSize : Nat} (isNode : host.nodes.lookup id = some node) (other : Nat) :
    (host.setNode id (nodeAssigned sr pageSize node)).nodes.lookup other = (host.nodes.lookup other).map fun node =>
        if other = id then nodeAssigned sr pageSize node else node := by
  rw [lookup_setNode]
  by_cases same : other = id
  · subst same
    simp [isNode]
  · simp [same]

theorem del_assignNode {found : Σ _ : Nat, HostShareNode} (isTopology : sr.topology = some topology)
    (isFound : host.singleNode topology sr = some found) (counted : host.Counted)
    (distinct : host.Distinct) (unmarked : ∀ id cpu, ¬host.Marks sr.vmid id cpu)
    (shares : Shares topology sr found.2) :
    host.Restored ((host.assignNode sr topology.pageSize found.1 found.2).1.del
      (host.assignNode sr topology.pageSize found.1 found.2).2) := by
  obtain ⟨id, chosen⟩ := found
  have isChosen := (singleNode_found isFound).1
  rw [assignNode_fst]
  have isAfter : (host.assignNode sr topology.pageSize id chosen).2 =
      { sr with nodes := sr.nodes.map (assigned id chosen.lsCpus) } := rfl
  rw [isAfter]
  have lookups := @lookup_assignNode host id chosen sr topology.pageSize isChosen
  have known := @assigned_known id sr _ chosen.lsCpus
    (mem_of_lookup_map lookups id (mem_iff_lookup.2 ⟨chosen, isChosen⟩))
  refine restored_of_lookup (fun other => by rw [del_lookup known, lookups, Option.map_map]) ?_
  intro other node isNode
  simp only [isTopology, Option.map_some, Option.getD_some, Function.comp_apply]
  have memory := @sum_assigned id sr chosen.lsCpus (fun memory => memory) rfl other
  have pages := @sum_assigned id sr chosen.lsCpus (fun memory => memory / topology.pageSize)
    (Nat.zero_div _) other
  rw [shares.memory] at memory
  rw [shares.pages] at pages
  refine ⟨nodeReleased_assigned isNode counted distinct (unmarked other) ?_ ?_, ?_, fun size => ?_⟩
  · split
    · exact (nodeAssigned_memory sr topology.pageSize node).2.2
    · rfl
  · rintro rfl
    obtain rfl := Option.some.inj (isChosen.symm.trans isNode)
    exact shares.cpus
  · have given : ((sr.nodes.map (assigned id chosen.lsCpus)).map (VirtualNode.memoryOn other)).sum =
        if other = id then sr.mem else 0 := memory
    rw [nodeReleased_memUsage, given]
    split
    · rw [(nodeAssigned_memory sr topology.pageSize node).1]
      omega
    · omega
  · rw [nodeReleased_lookup, pages]
    by_cases same : other = id
    · rw [if_pos same, if_pos same, nodeAssigned_lookup, Option.map_map]
      refine (congrArg (fun update => (node.pages.lookup size).map update)
        (funext fun page => ?_)).trans Option.map_id'
      simp only [Function.comp_apply]
      split
      · rw [Nat.add_sub_cancel]
      · rfl
    · rw [if_neg same, if_neg same]
      simp

/-- What `add` does with such a request: nothing, the places of the virtual nodes, or one node -/
theorem Reverses.add_cases (reverses : host.Reverses fitness sr) : (Unplaced sr ∧ host.add fitness sr = (host, sr)) ∨
    (∃ topology threads placements, sr.topology = some topology ∧
      host.places fitness topology sr = some (threads, placements) ∧ Blank sr ∧
      Complete (host.givenInTurn topology threads sr.vmid [] placements) ∧
      host.add fitness sr = ((host.makePinnedTopology fitness topology sr).1,
        (host.makePinnedTopology fitness topology sr).2.1)) ∨ ∃ topology found, sr.topology = some topology ∧
      host.singleNode topology sr = some found ∧ Shares topology sr found.2 ∧
      host.add fitness sr = host.assignNode sr topology.pageSize found.1 found.2 := by
  simp only [add, makeTopology]
  cases isTopology : sr.topology with
  | none => exact .inl ⟨reverses.1 isTopology, rfl⟩
  | some topology =>
    by_cases isEmpty : sr.nodes = []
    · exact .inl ⟨by simp [Unplaced, isEmpty], by simp [isEmpty]⟩
    · obtain ⟨scheduled, shared⟩ := reverses.2 topology isTopology isEmpty
      simp only [if_neg isEmpty]
      cases isScheduled : topology.isScheduled with
      | true =>
        cases found : host.places fitness topology sr with
        | none =>
          refine .inl ⟨(scheduled isScheduled).1 found, ?_⟩
          simp [makePinnedTopology, found]
        | some place =>
          obtain ⟨blank, passes⟩ := (scheduled isScheduled).2 place found
          exact .inr (.inl ⟨topology, place.1, place.2, rfl, found, blank, (places_complete found).2 passes, rfl⟩)
      | false =>
        cases isFound : host.singleNode topology sr with
        | none =>
          refine .inl ⟨(shared isScheduled).1 isFound, ?_⟩
          simp
        | some found =>
          exact .inr (.inr ⟨topology, found, rfl, isFound, (shared isScheduled).2 found isFound, rfl⟩)

theorem add_del_restored (counted : host.Counted) (distinct : host.Distinct)
    (unmarked : ∀ id cpu, ¬host.Marks sr.vmid id cpu) (reverses : host.Reverses fitness sr) :
    host.Restored ((host.add fitness sr).1.del (host.add fitness sr).2) := by
  rcases reverses.add_cases with ⟨unplaced, isAdd⟩ |
      ⟨topology, threads, placements, isTopology, found, blank, complete, isAdd⟩ |
      ⟨topology, found, isTopology, isFound, shares, isAdd⟩
  · rw [isAdd]
    exact del_unplaced unplaced
  · rw [isAdd]
    exact del_makePinnedTopology isTopology found counted distinct unmarked blank complete
  · rw [isAdd]
    exact del_assignNode isTopology isFound counted distinct unmarked shares

end HostShareNUMA

end OpenNebula.Host
