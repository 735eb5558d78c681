import OpenNebula.Host.NumaIsolation

namespace OpenNebula.Host

open Library

/-! # Memory and pages of the NUMA nodes

What an allocation takes from a node is the sum over the places with their memory
on that node.
-/

section

variable (amount : Placement → Nat)

/-- What the places take from the node of their memory -/
def takenFrom (id : Nat) (placements : List Placement) : Nat :=
  ((placements.filter fun placement => placement.memNodeId = id).map amount).sum

theorem takenFrom_cons (id : Nat) (placement : Placement) (rest : List Placement) :
    takenFrom amount id (placement :: rest) =
      (if placement.memNodeId = id then amount placement else 0) + takenFrom amount id rest := by
  by_cases same : placement.memNodeId = id
  · simp [takenFrom, same]
  · simp [takenFrom, same]

theorem takenFrom_eq_sum (id : Nat) (placements : List Placement) :
    takenFrom amount id placements =
      (placements.map fun placement => if placement.memNodeId = id then amount placement else 0).sum := by
  induction placements with
  | nil => rfl
  | cons placement rest ih => rw [takenFrom_cons, ih, List.map_cons, List.sum_cons]

end

theorem takenFrom_eq_zero {amount : Placement → Nat} {id : Nat} {placements : List Placement}
    (apart : ∀ placement ∈ placements, placement.memNodeId ≠ id) : takenFrom amount id placements = 0 := by
  have none : (placements.filter fun placement => placement.memNodeId = id) = [] := by
    simpa using apart
  rw [takenFrom, none]
  rfl

def Placement.memory (placement : Placement) : Nat := placement.request.memory

def Placement.pages (pageSize : Nat) (placement : Placement) : Nat :=
  placement.request.memory / pageSize

namespace HostShareNUMA

variable {topology : Topology} {threads : Int} {vmid id : Nat} {node : HostShareNode} {placement : Placement}
  {placements : List Placement}

theorem apply_memory : (Placement.apply topology threads vmid id node placement).memUsage =
        node.memUsage + (if placement.memNodeId = id then placement.memory else 0 : Nat) ∧
      (Placement.apply topology threads vmid id node placement).totalMem = node.totalMem := by
  have cpus := (takeCpus_pages topology threads vmid placement node).2
  have memory : ∀ node, (placement.takeMemory topology node).memUsage =
      node.memUsage + placement.memory ∧
        (placement.takeMemory topology node).totalMem = node.totalMem := by
    intro node
    simp only [Placement.takeMemory]
    split
    · exact ⟨rfl, rfl⟩
    · rw [HostShareNode.addPages_memUsage, HostShareNode.addPages_totalMem]
      exact ⟨rfl, rfl⟩
  simp only [Placement.apply, @eq_comm Nat placement.memNodeId]
  split <;> split <;> simp [memory, cpus]

theorem nodeAfter_memory : (nodeAfter topology threads vmid id placements node).memUsage =
        node.memUsage + takenFrom Placement.memory id placements ∧
      (nodeAfter topology threads vmid id placements node).totalMem = node.totalMem := by
  induction placements generalizing node with
  | nil => simp [nodeAfter, takenFrom]
  | cons placement rest ih =>
    obtain ⟨isUsage, isTotal⟩ := @apply_memory topology threads vmid id node placement
    obtain ⟨further, isFurther⟩ := @ih (Placement.apply topology threads vmid id node placement)
    simp only [nodeAfter, List.foldl_cons] at further isFurther ⊢
    rw [further, isFurther, isUsage, isTotal, takenFrom_cons]
    push_cast
    exact ⟨by omega, rfl⟩

def pageAfter (topology : Topology) (id size : Nat) (placements : List Placement) (page : HugePage) : HugePage :=
  if size = topology.pageSize ∧ topology.pageSize ≠ 0 then
    { page with usage := page.usage + takenFrom (Placement.pages topology.pageSize) id placements }
  else page

theorem pageAfter_cons (topology : Topology) (id size : Nat) (placement : Placement)
    (rest : List Placement) (page : HugePage) : pageAfter topology id size (placement :: rest) page =
      pageAfter topology id size rest (pageAfter topology id size [placement] page) := by
  simp only [pageAfter]
  split
  · rw [takenFrom_cons, takenFrom_cons]
    simp only [takenFrom, List.filter_nil, List.map_nil, List.sum_nil, Nat.add_zero, Nat.add_assoc]
  · rfl

theorem takeMemory_lookup (size : Nat) (node : HostShareNode) :
    (placement.takeMemory topology node).pages.lookup size =
      (node.pages.lookup size).map (pageAfter topology placement.memNodeId size [placement]) := by
  have isAfter : pageAfter topology placement.memNodeId size [placement] = fun page =>
      if size = topology.pageSize ∧ topology.pageSize ≠ 0 then
        { page with usage := page.usage + placement.request.memory / topology.pageSize }
      else page := by
    funext page
    simp [pageAfter, takenFrom, Placement.pages]
  rw [isAfter]
  simp only [Placement.takeMemory]
  split
  · rename_i isZero
    simp [isZero, HostShareNode.addMemory]
  · rename_i isSize
    rw [HostShareNode.addPages_lookup]
    simp only [isSize, not_false_eq_true, and_true, ne_eq, HostShareNode.addMemory]

theorem apply_lookup (size : Nat) : (Placement.apply topology threads vmid id node placement).pages.lookup size =
      (node.pages.lookup size).map (pageAfter topology id size [placement]) := by
  have cpus : (if id = placement.nodeId then (placement.takeCpus topology threads vmid node).1
      else node).pages = node.pages := by
    split
    · exact (takeCpus_pages topology threads vmid placement node).1
    · rfl
  simp only [Placement.apply]
  split
  · rename_i same
    rw [takeMemory_lookup, cpus, same]
  · rename_i apart
    have untouched : pageAfter topology id size [placement] = fun page => page := by
      funext page
      have nothing := @takenFrom_eq_zero (Placement.pages topology.pageSize) id [placement]
        (by simpa using fun same => apart same.symm)
      simp [pageAfter, nothing]
    rw [cpus, untouched, Option.map_id']

theorem nodeAfter_lookup (size : Nat) : (nodeAfter topology threads vmid id placements node).pages.lookup size =
      (node.pages.lookup size).map (pageAfter topology id size placements) := by
  induction placements generalizing node with
  | nil =>
    have untouched : pageAfter topology id size [] = fun page => page := by
      funext page
      simp [pageAfter, takenFrom]
    rw [untouched, Option.map_id']
    rfl
  | cons placement rest ih =>
    rw [nodeAfter, List.foldl_cons]
    refine ih.trans ?_
    rw [apply_lookup, Option.map_map]
    exact congrArg (fun update => (node.pages.lookup size).map update)
      (funext fun page => (pageAfter_cons topology id size placement rest page).symm)

variable {fitness : Fitness} {host : HostShareNUMA} {sr : NumaCapacity}

theorem makePinnedTopology_lookup (found : host.places fitness topology sr = some (threads, placements)) :
    (host.makePinnedTopology fitness topology sr).1.nodes.lookup id =
      (host.nodes.lookup id).map (nodeAfter topology threads sr.vmid id placements) := by
  rw [← (allocateAll_eq threads sr (places_located found)).2 id]
  simp only [makePinnedTopology, found]
  split
  · rename_i isResult
    rw [isResult]
  · rename_i isResult
    rw [isResult]
    split <;> rfl

def nodeAssigned (sr : NumaCapacity) (pageSize : Nat) (node : HostShareNode) : HostShareNode :=
  if pageSize = 0 then node.addMemory sr.mem
  else (node.addMemory sr.mem).addPages pageSize (sr.mem / pageSize)

theorem assignNode_fst (host : HostShareNUMA) (sr : NumaCapacity) (pageSize id : Nat) (node : HostShareNode) :
    (host.assignNode sr pageSize id node).1 = host.setNode id (nodeAssigned sr pageSize node) := rfl

theorem nodeAssigned_memory (sr : NumaCapacity) (pageSize : Nat) (node : HostShareNode) :
    (nodeAssigned sr pageSize node).memUsage = node.memUsage + sr.mem ∧
      (nodeAssigned sr pageSize node).totalMem = node.totalMem ∧
      (nodeAssigned sr pageSize node).cores = node.cores := by
  simp only [nodeAssigned]
  split <;> simp [HostShareNode.addMemory]

theorem nodeAssigned_lookup (sr : NumaCapacity) (pageSize size : Nat) (node : HostShareNode) :
    (nodeAssigned sr pageSize node).pages.lookup size = (node.pages.lookup size).map fun page =>
      if size = pageSize ∧ pageSize ≠ 0 then { page with usage := page.usage + sr.mem / pageSize }
      else page := by
  simp only [nodeAssigned]
  split
  · rename_i isZero
    simp [isZero, HostShareNode.addMemory]
  · rename_i isSize
    simp [isSize, HostShareNode.addPages_lookup, HostShareNode.addMemory]

end HostShareNUMA

end OpenNebula.Host
