import OpenNebula.Host.NumaIsolation

namespace OpenNebula.Host

open Library

/-! # The threads of pinned virtual machines

The allocation books what the virtual nodes before it take, and sets one mark on a thread for each
of them.
-/

namespace HostShareNode

variable {vmid tc tcpus : Nat} {cores : List Core}

def onePass (cores : List Core) (tc : Nat) : Nat :=
  (cores.map fun core => min (core.freeCpus / tc * tc) (core.accepting core.cpus)).sum

theorem onePass_cons (core : Core) (rest : List Core) (tc : Nat) : onePass (core :: rest) tc =
      min (core.freeCpus / tc * tc) (core.accepting core.cpus) + onePass rest tc := by
  simp only [onePass, List.map_cons, List.sum_cons]

theorem htCores_length : (htCores vmid tc tcpus cores).2.length = min tcpus (onePass cores tc) := by
  induction cores generalizing tcpus with
  | nil => cases tcpus <;> simp [htCores, onePass]
  | cons core rest ih =>
    cases tcpus with
    | zero => simp [htCores]
    | succ tcpus =>
      have own : (core.allocateHt vmid tc (tcpus + 1)).2.length =
          min (min (core.freeCpus / tc * tc) (tcpus + 1)) (core.accepting core.cpus) :=
        Core.markCpus_length
      simp only [htCores, List.length_append, ih, own, onePass_cons]
      omega

theorem dedicate_free {core : Core} (isFree : core.isFree = true) :
    (core.dedicate vmid).2.length = 1 ∧ (core.dedicate vmid).1.isFree = false := by
  simp only [Core.isFree, Bool.and_eq_true, decide_eq_true_eq] at isFree
  simp only [Core.dedicate]
  split
  · rename_i isCpus
    simp [isCpus] at isFree
  · exact ⟨rfl, by simp [Core.isFree]⟩

theorem dedicateCores_length : (dedicateCores vmid tcpus cores).2.length = min tcpus (cores.countP Core.isFree) ∧
      (dedicateCores vmid tcpus cores).1.countP Core.isFree = cores.countP Core.isFree - tcpus := by
  induction cores generalizing tcpus with
  | nil => cases tcpus <;> simp [dedicateCores]
  | cons core rest ih =>
    cases tcpus with
    | zero => simp [dedicateCores]
    | succ tcpus =>
      simp only [dedicateCores]
      split
      · rename_i isFree
        obtain ⟨own, taken⟩ := @dedicate_free vmid core isFree
        obtain ⟨given, left⟩ := @ih tcpus
        simp only [List.length_append, own, given, List.countP_cons, isFree, taken, left,
          if_true, Bool.false_eq_true, if_false]
        omega
      · rename_i notFree
        obtain ⟨given, left⟩ := @ih (tcpus + 1)
        simp only [given, List.countP_cons, notFree, left, Bool.false_eq_true, if_false]
        omega

def cpuIds (node : HostShareNode) : List Nat := node.cores.flatMap fun core => core.cpus.map Cpu.id

end HostShareNode

namespace HostShareNUMA

variable {fitness : Fitness} {host : HostShareNUMA} {topology : Topology} {threads : Int} {vmid : Nat}
  {placement : Placement} {sr : NumaCapacity}

def capacityFor (topology : Topology) (threads : Int) (node : HostShareNode) : Nat :=
  if topology.pinPolicy = .core then node.freeDedicatedCapacity
  else HostShareNode.onePass node.cores threads.toNat

theorem takeCpus_length {node : HostShareNode} (positive : 0 < placement.request.totalCpus) :
    (placement.takeCpus topology threads vmid node).2.length = placement.request.totalCpus ↔
      placement.request.totalCpus ≤ capacityFor topology threads node := by
  simp only [Placement.takeCpus, capacityFor]
  split
  · simp only [HostShareNode.allocateDedicatedCpus, HostShareNode.allocated,
      HostShareNode.dedicateCores_length.1, HostShareNode.freeDedicatedCapacity]
    split
    · rw [HostShareNode.dedicateCores_length.1]
      omega
    · simp only [List.length_nil]
      omega
  · simp only [HostShareNode.allocateHtCpus, HostShareNode.allocated, HostShareNode.htCores_length]
    split
    · rw [HostShareNode.htCores_length]
      omega
    · simp only [List.length_nil]
      omega

variable {node : HostShareNode} {placements : List Placement}

/-- Every place finds threads for all its CPUs in one pass over the cores of its node, after the
places before it. -/
def PassesInTurn (topology : Topology) (threads : Int) (vmid : Nat) (host : HostShareNUMA) :
    (earlier placements : List Placement) → Prop
  | _, [] => True
  | earlier, placement :: rest =>
    placement.request.totalCpus ≤ HostShareNode.onePass
      (host.nodeInTurn topology threads vmid earlier placement).cores threads.toNat ∧
    PassesInTurn topology threads vmid host (earlier ++ [placement]) rest

instance (topology : Topology) (threads : Int) (vmid : Nat) (host : HostShareNUMA) :
    (earlier placements : List Placement) → Decidable (host.PassesInTurn topology threads vmid earlier placements)
  | _, [] => isTrue trivial
  | earlier, placement :: rest =>
    have := instDecidablePassesInTurn topology threads vmid host (earlier ++ [placement]) rest
    inferInstanceAs (Decidable (_ ∧ _))

def Complete (places : List (Placement × List Nat)) : Prop :=
  ∀ place ∈ places, place.2.length = place.1.request.totalCpus

theorem complete_givenInTurn {earlier placements : List Placement} (notCore : topology.pinPolicy ≠ .core)
    (positive : ∀ placement ∈ placements, 0 < placement.request.totalCpus) :
    Complete (host.givenInTurn topology threads vmid earlier placements) ↔
      host.PassesInTurn topology threads vmid earlier placements := by
  induction placements generalizing earlier with
  | nil => simp [Complete, givenInTurn, PassesInTurn]
  | cons placement rest ih =>
    have further := @ih (earlier ++ [placement]) fun other inside =>
      positive other (List.mem_cons_of_mem _ inside)
    have own := @takeCpus_length topology threads vmid placement
      (host.nodeInTurn topology threads vmid earlier placement) (positive placement List.mem_cons_self)
    rw [capacityFor, if_neg notCore] at own
    rw [PassesInTurn, ← further, ← own]
    simp only [Complete, givenInTurn, List.forall_mem_cons]

theorem apply_freeDedicated {id : Nat} (isCore : topology.pinPolicy = .core) :
    (Placement.apply topology threads vmid id node placement).freeDedicatedCapacity =
      if id = placement.nodeId then node.freeDedicatedCapacity - placement.request.totalCpus
      else node.freeDedicatedCapacity := by
  simp only [HostShareNode.freeDedicatedCapacity, Placement.apply_cores]
  split
  · simp only [Placement.takeCpus, if_pos isCore]
    exact HostShareNode.dedicateCores_length.2
  · rfl

theorem Scheduled.complete {search : Search} {bookings : Bookings}
    {earlier placements : List Placement} (isCore : topology.pinPolicy = .core)
    (dedicated : search.dedicated = true) (single : search.threads = 1)
    (positive : ∀ placement ∈ placements, 0 < placement.request.totalCpus)
    (scheduled : host.Scheduled search bookings placements) (booked : ∀ id node, host.nodes.lookup id = some node →
      (nodeAfter topology threads vmid id earlier node).freeDedicatedCapacity + (bookings id).cpus =
        node.freeDedicatedCapacity) : Complete (host.givenInTurn topology threads vmid earlier placements) := by
  induction scheduled generalizing earlier with
  | nil => simp [Complete, givenInTurn]
  | @cons bookings placement rest fits _ ih =>
    obtain ⟨node, isNode, fitsCpus⟩ := fits.cpus
    have isBooked := booked _ node isNode
    have enough : placement.request.totalCpus ≤ (nodeAfter topology threads vmid placement.nodeId
        earlier node).freeDedicatedCapacity := by
      simp only [cpusFit, freeGroups, dedicated, single, if_true, decide_eq_true_eq] at fitsCpus
      omega
    have isTurn : host.nodeInTurn topology threads vmid earlier placement =
        nodeAfter topology threads vmid placement.nodeId earlier node := by
      rw [nodeInTurn, getNode, isNode, Option.getD_some]
    have own := (@takeCpus_length topology threads vmid placement
      (host.nodeInTurn topology threads vmid earlier placement)
      (positive placement List.mem_cons_self)).2 (by rw [capacityFor, if_pos isCore, isTurn]; exact enough)
    have further := @ih (earlier ++ [placement])
      (fun other inside => positive other (List.mem_cons_of_mem _ inside)) (by
        intro id other isOther
        have before := booked id other isOther
        rw [nodeAfter_append, apply_freeDedicated isCore]
        by_cases same : id = placement.nodeId
        · subst same
          obtain rfl := Option.some.inj (isNode.symm.trans isOther)
          simp only [if_true, book, Function.update_self]
          omega
        · simp only [if_neg same, book, Function.update_of_ne same]
          exact before)
    simp only [Complete, givenInTurn, List.forall_mem_cons]
    exact ⟨own, further⟩

/-- The request with the places, and with the threads and the cores when nothing is divided by
zero -/
theorem makePinnedTopology_request {placements : List Placement}
    (found : host.places fitness topology sr = some (threads, placements)) :
    let nodes := record (host.givenInTurn topology threads sr.vmid [] placements) sr.nodes
    (host.makePinnedTopology fitness topology sr).2 =
      if divisor topology threads = 0 then ({ sr with nodes }, .crashed)
      else
        let cores := sr.vcpu / divisor topology threads
        ({ sr with nodes, topology := some { topology with threads, cores } }, .ok) := by
  have located := places_located found
  have allocated := (allocateAll_eq threads sr located).1
  rw [@zip_takenCpus host _ _ _ host [] _ (fun id => Option.map_id'.symm) located] at allocated
  simp only [makePinnedTopology, found]
  split
  · rename_i isResult
    rw [isResult] at allocated
    exact absurd (congrArg Prod.snd allocated) (by simp)
  · rename_i isResult
    rw [isResult] at allocated
    obtain rfl := (Prod.mk.inj allocated).1
    split <;> rfl

theorem placements_positive (isRequests : placements.map Placement.request = sr.vmNodes) :
    ∀ placement ∈ placements, 0 < placement.request.totalCpus := by
  intro placement inside
  have isRequest : placement.request ∈ sr.vmNodes := by
    rw [← isRequests]
    exact List.mem_map.2 ⟨placement, inside, rfl⟩
  obtain ⟨_, -, -, -, positive, -⟩ := vmNodes_position.1 isRequest
  exact positive

theorem given_mem {earlier placements : List Placement} {place : Placement × List Nat}
    (inside : place ∈ host.givenInTurn topology threads vmid earlier placements) : place.1 ∈ placements := by
  rw [← @givenInTurn_fst host topology threads vmid earlier placements]
  exact List.mem_map.2 ⟨place, inside, rfl⟩

theorem given_distinct {earlier placements : List Placement}
    (isRequests : placements.map Placement.request = sr.vmNodes) :
    ((host.givenInTurn topology threads vmid earlier placements).map
      fun place => place.1.request.position).Nodup := by
  have positions := vmNodes_distinct sr
  rw [← isRequests, ← @givenInTurn_fst host topology threads vmid earlier placements, List.map_map,
    List.map_map] at positions
  exact positions

theorem given_virtual {earlier : List Placement} {place : Placement × List Nat}
    (isRequests : placements.map Placement.request = sr.vmNodes)
    (inside : place ∈ host.givenInTurn topology threads vmid earlier placements) :
    ∃ virtual, sr.nodes[place.1.request.position]? = some virtual ∧ place.1.request.totalCpus = virtual.totalCpus ∧
      place.1.request.memory = virtual.memory.getD 0 ∧
      0 < place.1.request.totalCpus ∧ 0 < place.1.request.memory := by
  refine vmNodes_position.1 ?_
  rw [← isRequests]
  exact List.mem_map.2 ⟨place.1, given_mem inside, rfl⟩

theorem given_of_virtual {earlier placements : List Placement} {position : Nat}
    {virtual : VirtualNode} (isRequests : placements.map Placement.request = sr.vmNodes)
    (isVirtual : sr.nodes[position]? = some virtual) (hasCpus : 0 < virtual.totalCpus)
    (hasMemory : 0 < virtual.memory.getD 0) : ∃ place ∈ host.givenInTurn topology threads vmid earlier placements,
      place.1.request.position = position := by
  have isRequest : (⟨position, virtual.totalCpus, virtual.memory.getD 0⟩ : NUMANodeRequest) ∈
      sr.vmNodes :=
    vmNodes_position.2 ⟨virtual, isVirtual, rfl, rfl, hasCpus, hasMemory⟩
  rw [← isRequests, ← @givenInTurn_fst host topology threads vmid earlier placements, List.map_map] at isRequest
  obtain ⟨place, isGiven, isSame⟩ := List.mem_map.1 isRequest
  exact ⟨place, isGiven, congrArg NUMANodeRequest.position isSame⟩

theorem places_complete {placements : List Placement}
    (found : host.places fitness topology sr = some (threads, placements)) :
    Complete (host.givenInTurn topology threads sr.vmid [] placements) ↔
      (topology.pinPolicy ≠ .core → host.PassesInTurn topology threads sr.vmid [] placements) := by
  obtain ⟨isRequests, isFound⟩ := places_found found
  have positive := placements_positive isRequests
  by_cases isCore : topology.pinPolicy = .core
  · have complete : Complete (host.givenInTurn topology threads sr.vmid [] placements) := by
      rcases isFound with ⟨rfl, -⟩ | ⟨valid, count, isValid, inside, -, scheduled⟩
      · simp [Complete, givenInTurn]
      · rw [validThreads, if_pos isCore, Option.some.injEq] at isValid
        subst isValid
        obtain rfl := List.mem_singleton.1 inside
        exact scheduled.complete isCore (decide_eq_true isCore) rfl positive
          fun id node _ => Nat.add_zero _
    simp [complete, isCore]
  · simp [complete_givenInTurn isCore positive, isCore]

end HostShareNUMA

end OpenNebula.Host
