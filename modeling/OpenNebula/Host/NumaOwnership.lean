import OpenNebula.Host.NumaInverse

namespace OpenNebula.Host

open Library

/-! # Owners of the marks

Along a run every mark on a thread is one of a running VM, which has recorded the thread.
-/

namespace HostShareNUMA

variable {fitness : Fitness} {host : HostShareNUMA} {sr : NumaCapacity}

/-- The VM has recorded the thread for its release. -/
def Covers (sr : NumaCapacity) (id cpu : Nat) : Prop := ∃ virtual ∈ sr.nodes, cpu ∈ virtual.cpusOn id

/-- What `add` changes for a VM without marks: the threads that are marked are recorded, on nodes
that exist. -/
structure Added (host : HostShareNUMA) (vmid : Nat) (after : HostShareNUMA) (added : NumaCapacity) :
    Prop where
  sameVm : added.vmid = vmid
  counted : after.Counted
  marks : ∀ vm id cpu, after.Marks vm id cpu →
    host.Marks vm id cpu ∨ (vm = vmid ∧ Covers added id cpu)
  kept : ∀ id ∈ host.nodes, id ∈ after.nodes
  known : ∀ virtual ∈ added.nodes, after.Knows virtual

theorem added_scheduled {topology : Topology} {threads : Int} {placements : List Placement}
    (isTopology : sr.topology = some topology)
    (found : host.places fitness topology sr = some (threads, placements)) (counted : host.Counted)
    (unmarked : ∀ id cpu, ¬host.Marks sr.vmid id cpu) (blank : Blank sr)
    (complete : Complete (host.givenInTurn topology threads sr.vmid [] placements)) :
    host.Added sr.vmid (host.makePinnedTopology fitness topology sr).1
      (host.makePinnedTopology fitness topology sr).2.1 := by
  obtain ⟨isVm, -, isNodes⟩ := makePinnedTopology_after isTopology found
  have isRequests := (places_found found).1
  have lookups := fun id => @makePinnedTopology_lookup topology threads id placements fitness host sr
    found
  refine ⟨isVm, ?_, ?_, mem_of_lookup_map lookups, ?_⟩
  · intro id node isNode core inside
    rw [Option.mem_def, lookups] at isNode
    obtain ⟨before, isBefore, rfl⟩ := Option.map_eq_some_iff.1 isNode
    have hosts := @hosts_nodeAfter topology threads sr.vmid id before before.cores placements
      (counted.start isBefore (unmarked id))
    exact counted_of_hosts hosts core inside
  · rintro vm id cpu ⟨node, isNode, marked⟩
    rw [Option.mem_def, lookups] at isNode
    obtain ⟨before, isBefore, rfl⟩ := Option.map_eq_some_iff.1 isNode
    rcases @marks_nodeAfter host topology threads sr.vmid id before [] placements vm cpu isBefore
      (placements_positive isRequests) complete marked with was | ⟨same, place, isGiven, isId, given⟩
    · exact .inl ⟨before, isBefore, was⟩
    · obtain ⟨virtual, isVirtual, isPlace⟩ := record_mem isRequests isGiven
      refine .inr ⟨same, virtual, ?_, ?_⟩
      · rw [isNodes]
        exact List.mem_of_getElem? isVirtual
      · simp only [VirtualNode.cpusOn, isPlace, recordOf, if_pos isId]
        exact given
  · rw [isNodes]
    exact record_known blank found (mem_of_lookup_map lookups)

theorem added_assigned {topology : Topology} {found : Σ _ : Nat, HostShareNode}
    (isFound : host.singleNode topology sr = some found) (counted : host.Counted) :
    host.Added sr.vmid (host.assignNode sr topology.pageSize found.1 found.2).1
      (host.assignNode sr topology.pageSize found.1 found.2).2 := by
  obtain ⟨id, chosen⟩ := found
  have isChosen := (singleNode_found isFound).1
  have lookups := @lookup_assignNode host id chosen sr topology.pageSize isChosen
  -- The cores are those before.
  have cores : ∀ other, ∀ node ∈ (host.setNode id (nodeAssigned sr topology.pageSize
      chosen)).nodes.lookup other, ∃ before ∈ host.nodes.lookup other, node.cores = before.cores := by
    intro other node isNode
    rw [Option.mem_def, lookups] at isNode
    obtain ⟨before, isBefore, rfl⟩ := Option.map_eq_some_iff.1 isNode
    refine ⟨before, isBefore, ?_⟩
    split
    · exact (nodeAssigned_memory sr topology.pageSize before).2.2
    · rfl
  rw [assignNode_fst]
  refine ⟨rfl, ?_, ?_, mem_of_lookup_map lookups, ?_⟩
  · intro other node isNode core inside
    obtain ⟨before, isBefore, same⟩ := cores other node isNode
    exact counted other before isBefore core (same ▸ inside)
  · rintro vm other cpu ⟨node, isNode, marked⟩
    obtain ⟨before, isBefore, same⟩ := cores other node isNode
    exact .inl ⟨before, isBefore, same ▸ marked⟩
  · exact assigned_known (mem_of_lookup_map lookups id (mem_iff_lookup.2 ⟨chosen, isChosen⟩))

theorem Reverses.added (reverses : host.Reverses fitness sr) (counted : host.Counted)
    (unmarked : ∀ id cpu, ¬host.Marks sr.vmid id cpu) :
    host.Added sr.vmid (host.add fitness sr).1 (host.add fitness sr).2 := by
  rcases reverses.add_cases with ⟨unplaced, isAdd⟩ |
      ⟨topology, threads, placements, isTopology, found, blank, complete, isAdd⟩ |
      ⟨topology, found, -, isFound, -, isAdd⟩
  · rw [isAdd]
    refine ⟨rfl, counted, fun _ _ _ marked => .inl marked, fun _ inside => inside, ?_⟩
    intro virtual inside place isPlace
    rw [unplaced virtual inside] at isPlace
    cases isPlace
  · rw [isAdd]
    exact added_scheduled isTopology found counted unmarked blank complete
  · rw [isAdd]
    exact added_assigned isFound counted

end HostShareNUMA

/-- The counters are those of the marks, the marks are recorded by the VMs that run, and what
these have recorded exists. -/
structure NumaState.Owned (state : NumaState) : Prop where
  counted : state.host.Counted
  unique : (state.running.map NumaCapacity.vmid).Nodup
  marks : ∀ vm id cpu, state.host.Marks vm id cpu →
    ∃ sr ∈ state.running, sr.vmid = vm ∧ HostShareNUMA.Covers sr id cpu
  known : ∀ sr ∈ state.running, ∀ virtual ∈ sr.nodes, state.host.Knows virtual

/-- The threads of a node are told apart by their ids, and a request that is added can be
released. -/
def NumaEvent.Reverses (fitness : Fitness) (state : NumaState) : NumaEvent → Prop
  | .add sr => state.host.Distinct ∧ state.host.Reverses fitness sr
  | .del _ => state.host.Distinct

namespace NumaState

variable {fitness : Fitness} {state next : NumaState} {sr : NumaCapacity} {event : NumaEvent}

theorem Owned.unmarked (owned : state.Owned) (apart : ∀ other ∈ state.running, other.vmid ≠ sr.vmid) :
    ∀ id cpu, ¬state.host.Marks sr.vmid id cpu := by
  intro id cpu marked
  obtain ⟨other, inside, same, -⟩ := owned.marks _ id cpu marked
  exact apart other inside same

theorem Owned.add (owned : state.Owned) (apart : ∀ other ∈ state.running, other.vmid ≠ sr.vmid)
    (reverses : state.host.Reverses fitness sr) :
    Owned ⟨(state.host.add fitness sr).1, (state.host.add fitness sr).2 :: state.running⟩ := by
  have added := reverses.added owned.counted (owned.unmarked apart)
  refine ⟨added.counted, ?_, ?_, ?_⟩
  · rw [List.map_cons, List.nodup_cons, added.sameVm]
    refine ⟨fun inside => ?_, owned.unique⟩
    obtain ⟨other, isOther, same⟩ := List.mem_map.1 inside
    exact apart other isOther same
  · intro vm id cpu marked
    rcases added.marks vm id cpu marked with before | ⟨same, covered⟩
    · obtain ⟨other, inside, covers⟩ := owned.marks vm id cpu before
      exact ⟨other, List.mem_cons_of_mem _ inside, covers⟩
    · exact ⟨_, List.mem_cons_self, added.sameVm.trans same.symm, covered⟩
  · intro other inside virtual isVirtual
    rcases List.mem_cons.1 inside with rfl | running
    · exact added.known virtual isVirtual
    · intro place isPlace
      obtain ⟨cpus, memory⟩ := owned.known other running virtual isVirtual place isPlace
      exact ⟨added.kept _ cpus, added.kept _ memory⟩

theorem Owned.del (owned : state.Owned) (distinct : state.host.Distinct) (isRunning : sr ∈ state.running) :
    Owned ⟨state.host.del sr, state.running.filter fun other => other.vmid ≠ sr.vmid⟩ := by
  have lookups := fun id => @HostShareNUMA.del_lookup state.host id sr (owned.known sr isRunning)
  have kept := HostShareNUMA.mem_of_lookup_map lookups
  refine ⟨?_, ?_, ?_, ?_⟩
  · intro id node isNode
    rw [Option.mem_def, lookups] at isNode
    obtain ⟨before, isBefore, rfl⟩ := Option.map_eq_some_iff.1 isNode
    exact HostShareNUMA.nodeReleased_counted (owned.counted id before isBefore)
  · exact owned.unique.sublist (List.Sublist.map _ List.filter_sublist)
  · rintro vm id cpu ⟨node, isNode, marked⟩
    rw [Option.mem_def, lookups] at isNode
    obtain ⟨before, isBefore, rfl⟩ := Option.map_eq_some_iff.1 isNode
    obtain ⟨was, apart⟩ := HostShareNUMA.marks_nodeReleased (distinct.cpuIds isBefore) marked
    obtain ⟨other, inside, same, covers⟩ := owned.marks vm id cpu ⟨before, isBefore, was⟩
    refine ⟨other, List.mem_filter.2 ⟨inside, decide_eq_true fun sameVm => ?_⟩, same, covers⟩
    -- The VM that is released has recorded all its marks.
    obtain rfl := List.inj_on_of_nodup_map owned.unique inside isRunning sameVm
    exact apart ⟨same.symm, covers⟩
  · intro other inside virtual isVirtual place isPlace
    obtain ⟨cpus, memory⟩ := owned.known other (List.mem_filter.1 inside).1 virtual isVirtual place
      isPlace
    exact ⟨kept _ cpus, kept _ memory⟩

theorem Owned.step (owned : state.Owned) (reverses : event.Reverses fitness state)
    (stepped : state.step fitness event = some next) : next.Owned := by
  cases event with
  | add sr =>
    simp only [NumaState.step] at stepped
    split at stepped
    · rename_i checked
      cases stepped
      exact owned.add checked.2.1 reverses.2
    · cases stepped
  | del vmid =>
    obtain ⟨sr, isFound, rfl⟩ := Option.map_eq_some_iff.1 stepped
    have sameVm : sr.vmid = vmid := by
      simpa using List.find?_some isFound
    subst sameVm
    exact owned.del reverses (List.mem_of_find?_eq_some isFound)

theorem owned_initial (isInitial : (numaSystem fitness).initial state) : state.Owned := by
  obtain ⟨host, ids, fresh, rfl⟩ := isInitial
  have cores : ∀ id, ∀ node ∈ (host.reserveCpus ids).nodes.lookup id, ∀ core ∈ node.cores,
      core.Counted ∧ ∀ cpu ∈ core.cpus, cpu.vms = [] := by
    intro id node isNode core inside
    simp only [HostShareNUMA.reserveCpus, Map.lookup_modify, Option.mem_def] at isNode
    obtain ⟨before, isBefore, rfl⟩ := Option.map_eq_some_iff.1 isNode
    obtain ⟨old, isOld, rfl⟩ := List.mem_map.1 inside
    exact (fresh _ (Map.mem_entries_iff.2 isBefore) old isOld).counted ids
  refine ⟨fun id node isNode core inside => (cores id node isNode core inside).1, List.nodup_nil, ?_,
    fun sr inside => absurd inside List.not_mem_nil⟩
  rintro vm id cpu ⟨node, isNode, core, inside, thread, isThread, -, isMarked⟩
  rw [(cores id node isNode core inside).2 thread isThread] at isMarked
  cases isMarked

end NumaState

instance (fitness : Fitness) (state : NumaState) : (event : NumaEvent) → Decidable (event.Reverses fitness state)
  | .add sr => inferInstanceAs (Decidable (state.host.Distinct ∧ state.host.Reverses fitness sr))
  | .del _ => inferInstanceAs (Decidable state.host.Distinct)

/-- In a run whose requests can be released, `del` right after `add` gives back what a VM that is
not on the host took. -/
theorem add_del_inverse (fitness : Fitness) (state : NumaState) (reached : (numaSystem fitness).Reachable
      (fun state event => event.Reverses fitness state) state) :
    ∀ sr, state.host.test sr = true → (∀ other ∈ state.running, other.vmid ≠ sr.vmid) →
      (NumaEvent.add sr).Reverses fitness state →
        state.host.Restored ((state.host.add fitness sr).1.del (state.host.add fitness sr).2) := by
  have owned : state.Owned :=
    @System.Reachable.invariant _ _ _ _ NumaState.Owned _ reached
      (fun start isInitial => NumaState.owned_initial isInitial)
      fun before event next owned reverses stepped => owned.step reverses stepped
  intro sr _ apart reverses
  exact HostShareNUMA.add_del_restored owned.counted reverses.1 (owned.unmarked apart) reverses.2

def onNode (vmid totalCpus affinity : Nat) : NumaCapacity where
  vmid
  vcpu := totalCpus
  mem := 1048576
  topology := some { pinPolicy := .none, nodeAffinity := affinity, threads := 1, cores := 1, sockets := 1 }
  nodes := [{ totalCpus, memory := some 1048576 }]

/-- Beside a VM with a core to itself, another one comes and goes on the threads of the other
core. -/
theorem add_del_inverse_two_vms : ∃ state, (numaSystem exactFitness).Reachable
        (fun state event => event.Reverses exactFitness state) state ∧ state.host.marksOf = [[[[7], []], [[], []]]] ∧
      (state.host.add exactFitness (oneNode 8 2 .thread)).1.marksOf = [[[[7], []], [[8], [8]]]] ∧
      state.host.Restored ((state.host.add exactFitness (oneNode 8 2 .thread)).1.del
        (state.host.add exactFitness (oneNode 8 2 .thread)).2) := by
  have ran : (((numaSystem exactFitness).exec (fun state event => event.Reverses exactFitness state)
      ⟨twoCores.reserveCpus [], []⟩ [.add (oneNode 7 1 .core)]).map fun state =>
        decide (state.host.marksOf = [[[[7], []], [[], []]]] ∧
          (state.host.add exactFitness (oneNode 8 2 .thread)).1.marksOf =
            [[[[7], []], [[8], [8]]]] ∧
          state.host.test (oneNode 8 2 .thread) = true ∧
          (∀ other ∈ state.running, other.vmid ≠ (oneNode 8 2 .thread).vmid) ∧
          (NumaEvent.add (oneNode 8 2 .thread)).Reverses exactFitness state)) = some true := by
    decide
  obtain ⟨state, isRun, isResult⟩ := Option.map_eq_some_iff.mp ran
  obtain ⟨isMarks, isAdded, isTested, isApart, isReversed⟩ := of_decide_eq_true isResult
  have reached := System.reachable_of_exec (numaSystem_initial (by decide) []) isRun
  exact ⟨state, reached, isMarks, isAdded, add_del_inverse exactFitness state reached _ isTested isApart isReversed⟩

/-- A VM with an affinity comes and goes, and the core of another VM is not dedicated any more. -/
theorem add_del_inverse_dedicated : ¬∀ state, (numaSystem exactFitness).Reachable System.anyStep state →
      ∀ sr, state.host.test sr = true → (∀ other ∈ state.running, other.vmid ≠ sr.vmid) → state.host.Restored
          ((state.host.add exactFitness sr).1.del (state.host.add exactFitness sr).2) := by
  intro always
  have ran : (((numaSystem exactFitness).exec System.anyStep ⟨twoCores.reserveCpus [], []⟩
      [.add (oneNode 7 1 .core)]).map fun state =>
        (state.host.test (onNode 8 1 0), decide (∀ other ∈ state.running, other.vmid ≠ (onNode 8 1 0).vmid),
          (state.host.nodes.lookup 0).map fun node => node.cores.map Core.dedicated,
          (((state.host.add exactFitness (onNode 8 1 0)).1.del
            (state.host.add exactFitness (onNode 8 1 0)).2).nodes.lookup 0).map fun node =>
              node.cores.map Core.dedicated)) =
      some (true, true, some [true, false], some [false, false]) := by
    decide
  obtain ⟨state, isRun, isResult⟩ := Option.map_eq_some_iff.mp ran
  simp only [Prod.mk.injEq] at isResult
  obtain ⟨isTested, isApart, isBefore, isAfter⟩ := isResult
  have reached := System.reachable_of_exec (numaSystem_initial (by decide) []) isRun
  have restored := always state reached _ isTested (of_decide_eq_true isApart)
  obtain ⟨node, isNode, flags⟩ := Option.map_eq_some_iff.mp isBefore
  obtain ⟨again, isAgain, same⟩ := restored.1 0 node isNode
  rw [Option.mem_def.mp isAgain, Option.map_some, Option.some.injEq, same.cores, flags] at isAfter
  exact absurd isAfter (by decide)

end OpenNebula.Host
