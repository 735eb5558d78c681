import OpenNebula.Schedm.RankScheduler

namespace OpenNebula.Schedm.Rank.Scheduler

open Library

/-! # Steps of the dispatch

What the loop does with one host, one VM and all the VMs.
-/

variable {δ : Type} {scheduler : Scheduler δ} {pools next : Pools δ} {oid hid : Oid}
  {vm : VirtualMachineXML} {sr : HostShareCapacity} {action : ActionXML}

section

variable (leased : List (Nat × Oid))

/-- The leases of a network among those of some NICs -/
def leasesOf (id : Oid) : Nat := (leased.map Prod.snd).count id

theorem leasesOf_cons (nic : Nat × Oid) (rest : List (Nat × Oid)) (id : Oid) :
    leasesOf (nic :: rest) id = leasesOf rest id + if nic.2 = id then 1 else 0 := by
  rw [leasesOf, List.map_cons, List.count_cons, leasesOf]
  simp

def takeLeases (leases : Nat) (net : VirtualNetworkXML) : VirtualNetworkXML :=
  { net with freeLeases := net.freeLeases - leases }

theorem takeLeases_none (id : Oid) : takeLeases (leasesOf [] id) = fun net => net := by
  funext net
  simp [takeLeases, leasesOf]

theorem selectNetwork_free {cluster : Int} {vnets : Map Oid VirtualNetworkXML} {used matched : List Oid} {id : Oid}
    (selected : scheduler.selectNetwork cluster vnets used matched = some id) :
    ∃ net, vnets.lookup id = some net ∧ 0 < net.freeLeases := by
  have chosen := List.find?_some selected
  simp only [Bool.and_eq_true] at chosen
  obtain ⟨net, found, inside⟩ := (Option.any_eq_true _ _).1 chosen.2
  simp only [Bool.and_eq_true, VirtualNetworkXML.testLeases, decide_eq_true_eq] at inside
  exact ⟨net, found, inside.2⟩

theorem leaseNics_spec (scheduler : Scheduler δ) (vm : VirtualMachineXML) (cluster : Int) (nics : List Nat)
    (vnets : Map Oid VirtualNetworkXML)
    (leased : List (Nat × Oid)) : ∃ added, (scheduler.leaseNics vm cluster nics vnets leased).2 = leased ++ added ∧
      added.length ≤ nics.length ∧ ∀ id, (scheduler.leaseNics vm cluster nics vnets leased).1.lookup id =
          (vnets.lookup id).map (takeLeases (leasesOf added id)) ∧ (leasesOf added id ≠ 0 →
          ∃ net, vnets.lookup id = some net ∧ (leasesOf added id : Int) ≤ net.freeLeases) := by
  induction nics generalizing vnets leased with
  | nil =>
    refine ⟨[], (List.append_nil _).symm, Nat.le_refl _, fun id => ⟨?_, fun some => absurd rfl some⟩⟩
    rw [takeLeases_none, Option.map_id']
    rfl
  | cons nic rest ih =>
    rw [leaseNics]
    cases selected : scheduler.selectNetwork cluster vnets (leased.map Prod.snd)
        ((vm.matchNetworks.lookup nic).getD []) with
    | none =>
      refine ⟨[], (List.append_nil _).symm, Nat.zero_le _, fun id => ⟨?_, fun some => absurd rfl some⟩⟩
      rw [takeLeases_none, Option.map_id']
    | some chosen =>
      obtain ⟨net, found, isFree⟩ := selectNetwork_free selected
      obtain ⟨added, isAdded, short, later⟩ := ih (vnets.update chosen (·.addLease)) (leased ++ [(nic, chosen)])
      refine ⟨(nic, chosen) :: added, ?_, Nat.succ_le_succ short, fun id => ?_⟩
      · rw [isAdded, List.append_assoc]
        rfl
      · obtain ⟨lookup, covered⟩ := later id
        rw [Map.lookup_update] at lookup covered
        by_cases same : id = chosen
        · subst same
          have one : leasesOf ((nic, id) :: added) id = leasesOf added id + 1 := by
            rw [leasesOf_cons, if_pos rfl]
          rw [lookup, one, found]
          constructor
          · simp only [Option.map_some, if_true, takeLeases, VirtualNetworkXML.addLease]
            congr 2
            omega
          · intro _
            refine ⟨net, rfl, ?_⟩
            by_cases none : leasesOf added id = 0
            · omega
            · obtain ⟨taken, isTaken, enough⟩ := covered none
              rw [found, Option.map_some, if_pos rfl] at isTaken
              cases isTaken
              simp only [VirtualNetworkXML.addLease] at enough
              omega
        · have none : leasesOf ((nic, chosen) :: added) id = leasesOf added id := by
            rw [leasesOf_cons, if_neg (Ne.symm same), Nat.add_zero]
          have unchanged : ((vnets.lookup id).map fun net =>
              if id = chosen then net.addLease else net) = vnets.lookup id := by
            simp [same]
          rw [none]
          rw [unchanged] at lookup covered
          exact ⟨lookup, covered⟩

theorem networksCounter_lookup (id : Oid) :
    ((networksCounter leased).lookup id).getD 0 = leasesOf leased id := by
  have counted : ∀ counter : Map Oid Nat,
      ((leased.foldl (fun counter nic =>
        counter.insert nic.2 ((counter.lookup nic.2).getD 0 + 1)) counter).lookup id).getD 0 =
        (counter.lookup id).getD 0 + leasesOf leased id := by
    induction leased with
    | nil => exact fun counter => rfl
    | cons nic rest ih =>
      intro counter
      rw [List.foldl_cons, ih, Map.lookup_insert_eq, leasesOf_cons]
      by_cases same : id = nic.2
      · subst same
        simp only [if_true, Option.getD_some]
        omega
      · rw [if_neg same, if_neg (Ne.symm same), Nat.add_zero]
  simpa [networksCounter] using counted ∅

theorem rollback_lookup (vnets : Map Oid VirtualNetworkXML) (id : Oid) :
    (rollback leased vnets).lookup id = (vnets.lookup id).map (·.rollbackLeases (leasesOf leased id)) := by
  have folded := Map.lookup_foldl_update
    (fun (leases : Nat) (net : VirtualNetworkXML) => net.rollbackLeases leases)
    (networksCounter leased).entries (networksCounter leased).nodupKeys vnets id
  rw [rollback]
  refine folded.trans ?_
  have counted := networksCounter_lookup leased id
  congr 1
  funext net
  have same : (networksCounter leased).entries.dlookup id = (networksCounter leased).lookup id := rfl
  rw [same, ← counted]
  cases (networksCounter leased).lookup id with
  | none => simp [VirtualNetworkXML.rollbackLeases]
  | some leases => rfl

end

theorem rollback_leaseNics (cluster : Int) (nics : List Nat) (vnets : Map Oid VirtualNetworkXML) (id : Oid) :
    (rollback (scheduler.leaseNics vm cluster nics vnets []).2
      (scheduler.leaseNics vm cluster nics vnets []).1).lookup id = vnets.lookup id := by
  obtain ⟨added, isAdded, -, later⟩ := leaseNics_spec scheduler vm cluster nics vnets []
  rw [rollback_lookup, isAdded, List.nil_append, (later id).1, Option.map_map]
  refine Eq.trans ?_ Option.map_id'
  congr 1
  funext net
  simp [takeLeases, VirtualNetworkXML.rollbackLeases]

def Unchanged (pools next : Pools δ) : Prop :=
  ∃ vnets, next = { pools with vnets := vnets } ∧ ∀ id, vnets.lookup id = pools.vnets.lookup id

theorem Unchanged.refl (pools : Pools δ) : Unchanged pools pools :=
  ⟨pools.vnets, rfl, fun _ => rfl⟩

theorem Unchanged.trans {middle last : Pools δ} (first : Unchanged pools middle)
    (second : Unchanged middle last) : Unchanged pools last := by
  obtain ⟨vnets, rfl, same⟩ := first
  obtain ⟨vnets', rfl, same'⟩ := second
  exact ⟨vnets', rfl, fun id => (same' id).trans (same id)⟩

structure Placed (scheduler : Scheduler δ) (oid : Oid) (vm : VirtualMachineXML)
    (sr : HostShareCapacity) (pools next : Pools δ) (action : ActionXML) (host : HostXML δ)
    (ds : DatastoreXML) (leased : Map Oid VirtualNetworkXML × List (Nat × Oid)) : Prop where
  isHost : pools.hosts.lookup action.host = some host
  meets : stillMeets vm host = true
  fits : host.testCapacity scheduler.devices sr = true
  below : 0 < scheduler.hostDispatchLimit → host.dispatchedVms.length < scheduler.hostDispatchLimit
  isDatastore : pools.datastores.lookup action.ds = some ds
  hasRoom : hasRoom vm host action.ds sr.disk ds = true
  isLeased : scheduler.leaseNics vm host.cluster vm.nicsIds pools.vnets [] = leased
  isAction : action =
    { vm := oid, host := action.host, ds := action.ds
      operation := if vm.resched then .migrate else .deploy
      nics := if vm.resched then [] else leased.2 }
  isNext : next = scheduler.charge { pools with vnets := leased.1 } vm action.host host action.ds sr

inductive Tried (scheduler : Scheduler δ) (oid : Oid) (vm : VirtualMachineXML)
    (sr : HostShareCapacity) (pools : Pools δ) : Pools δ × Option ActionXML → Prop where
  | skipped (next : Pools δ) (unchanged : Unchanged pools next) : Tried scheduler oid vm sr pools (next, none)
  | placed (next : Pools δ) (action : ActionXML) (host : HostXML δ) (ds : DatastoreXML)
      (leased : Map Oid VirtualNetworkXML × List (Nat × Oid))
      (placed : Placed scheduler oid vm sr pools next action host ds leased) :
      Tried scheduler oid vm sr pools (next, some action)

theorem tryHost_tried (scheduler : Scheduler δ) (oid : Oid) (vm : VirtualMachineXML)
    (sr : HostShareCapacity) (pools : Pools δ) (hid : Oid) :
    Tried scheduler oid vm sr pools (scheduler.tryHost oid vm sr pools hid) := by
  rw [tryHost]
  cases isHost : pools.hosts.lookup hid with
  | none => exact .skipped _ (.refl pools)
  | some host =>
    simp only
    split
    · exact .skipped _ (.refl pools)
    · rename_i passes
      simp only [not_or, not_and, not_le, Decidable.not_not] at passes
      cases selected : selectDatastore pools vm host sr.disk with
      | none => exact .skipped _ (.refl pools)
      | some dsid =>
        simp only
        split
        · exact .skipped _ ⟨_, rfl, rollback_leaseNics host.cluster vm.nicsIds pools.vnets⟩
        · have chosen := List.find?_some selected
          obtain ⟨ds, found, inside⟩ := (Option.any_eq_true _ _).1 chosen
          simp only [Bool.and_eq_true] at inside
          exact .placed _ _ host ds _
            { isHost := isHost, meets := passes.1, fits := passes.2.1, below := passes.2.2
              isDatastore := found, hasRoom := inside.2, isLeased := rfl, isAction := rfl
              isNext := rfl }

theorem tryHost_host (placed : (scheduler.tryHost oid vm sr pools hid).2 = some action) : action.host = hid := by
  rw [tryHost] at placed
  cases isHost : pools.hosts.lookup hid with
  | none =>
    rw [isHost] at placed
    cases placed
  | some host =>
    rw [isHost] at placed
    simp only at placed
    split at placed
    · cases placed
    · cases selected : selectDatastore pools vm host sr.disk with
      | none =>
        rw [selected] at placed
        cases placed
      | some dsid =>
        rw [selected] at placed
        simp only at placed
        split at placed
        · cases placed
        · cases placed
          rfl

inductive Dispatched (scheduler : Scheduler δ) (oid : Oid) (vm : VirtualMachineXML)
    (sr : HostShareCapacity) (hosts : List Oid) (pools : Pools δ) :
    Pools δ × Option ActionXML → Prop where
  | skipped (next : Pools δ) (unchanged : Unchanged pools next) :
      Dispatched scheduler oid vm sr hosts pools (next, none)
  | placed (middle next : Pools δ) (action : ActionXML) (host : HostXML δ) (ds : DatastoreXML)
      (leased : Map Oid VirtualNetworkXML × List (Nat × Oid)) (unchanged : Unchanged pools middle)
      (listed : action.host ∈ hosts)
      (placed : Placed scheduler oid vm sr middle next action host ds leased) :
      Dispatched scheduler oid vm sr hosts pools (next, some action)

theorem tryHosts_dispatched (scheduler : Scheduler δ) (oid : Oid) (vm : VirtualMachineXML)
    (sr : HostShareCapacity) (pools : Pools δ) (hosts : List Oid) :
    Dispatched scheduler oid vm sr hosts pools (scheduler.tryHosts oid vm sr pools hosts) := by
  induction hosts generalizing pools with
  | nil => exact .skipped _ (.refl pools)
  | cons hid rest ih =>
    rw [tryHosts]
    have tried := tryHost_tried scheduler oid vm sr pools hid
    have sameHost : ∀ action, (scheduler.tryHost oid vm sr pools hid).2 = some action →
        action.host = hid := fun _ => tryHost_host
    generalize scheduler.tryHost oid vm sr pools hid = result at tried sameHost
    cases tried with
    | skipped middle unchanged =>
      simp only
      have later := @ih middle
      generalize scheduler.tryHosts oid vm sr middle rest = last at later
      cases later with
      | skipped next after => exact .skipped next (unchanged.trans after)
      | placed found next action host ds leased after listed placed =>
        exact .placed found next action host ds leased (unchanged.trans after)
          (List.mem_cons_of_mem _ listed) placed
    | placed next action host ds leased placed =>
      refine .placed pools next action host ds leased (.refl pools) ?_ placed
      rw [sameHost action rfl]
      exact List.mem_cons_self

theorem dispatchVm_dispatched (scheduler : Scheduler δ) (isVm : pools.vms.lookup oid = some vm) :
    Dispatched scheduler oid vm (vm.getCapacity oid) vm.matchHosts.reverse pools (scheduler.dispatchVm pools oid) ∧
      ((scheduler.dispatchVm pools oid).2.isSome → vm.resched = false → vm.resume = false →
        vm.testImageDatastoreCapacity pools.images = true) := by
  rw [dispatchVm, isVm]
  simp only
  split
  · exact ⟨.skipped _ (.refl pools), fun placed => absurd placed (by simp)⟩
  · rename_i passes
    have dispatched := tryHosts_dispatched scheduler oid vm (vm.getCapacity oid) pools
      vm.matchHosts.reverse
    refine ⟨dispatched, fun placed fresh started => ?_⟩
    generalize scheduler.tryHosts oid vm (vm.getCapacity oid) pools vm.matchHosts.reverse = result
      at dispatched placed
    cases dispatched with
    | skipped => cases placed
    | placed middle next action host ds leased unchanged listed placed =>
      have matched : vm.matchHosts ≠ [] := by
        intro empty
        simp [empty] at listed
      simp only [not_and, Decidable.not_not] at passes
      exact passes matched (by simp [fresh]) (by simp [started])

theorem dispatchVm_cases (scheduler : Scheduler δ) (pools : Pools δ) (oid : Oid) :
    (∃ next, scheduler.dispatchVm pools oid = (next, none) ∧ Unchanged pools next) ∨
      ∃ vm middle next action host ds leased,
        scheduler.dispatchVm pools oid = (next, some action) ∧ pools.vms.lookup oid = some vm ∧
        Unchanged pools middle ∧ action.host ∈ vm.matchHosts ∧
        Placed scheduler oid vm (vm.getCapacity oid) middle next action host ds leased ∧
        (vm.resched = false → vm.resume = false → vm.testImageDatastoreCapacity pools.images = true) := by
  cases isVm : pools.vms.lookup oid with
  | none =>
    rw [dispatchVm, isVm]
    exact .inl ⟨pools, rfl, .refl pools⟩
  | some vm =>
    obtain ⟨dispatched, tested⟩ := dispatchVm_dispatched scheduler isVm
    generalize scheduler.dispatchVm pools oid = result at dispatched tested
    cases dispatched with
    | skipped next unchanged => exact .inl ⟨next, rfl, unchanged⟩
    | placed middle next action host ds leased unchanged listed placed =>
      exact .inr ⟨vm, middle, next, action, host, ds, leased, rfl, rfl, unchanged,
        List.mem_reverse.1 listed, placed, tested rfl⟩

theorem Placed.isVm {host : HostXML δ} {ds : DatastoreXML} {leased : Map Oid VirtualNetworkXML × List (Nat × Oid)}
    (placed : Placed scheduler oid vm sr pools next action host ds leased) : action.vm = oid := by
  rw [placed.isAction]

theorem dispatchAll_cons (pools : Pools δ) (oid : Oid) (rest : List Oid) : scheduler.dispatchAll pools (oid :: rest) =
      ((scheduler.dispatchAll (scheduler.dispatchVm pools oid).1 rest).1, (scheduler.dispatchVm pools oid).2.toList ++
          (scheduler.dispatchAll (scheduler.dispatchVm pools oid).1 rest).2) := rfl

theorem dispatchAll_sublist (order : List Oid) :
    ((scheduler.dispatchAll pools order).2.map ActionXML.vm).Sublist order := by
  induction order generalizing pools with
  | nil => exact .refl _
  | cons oid rest ih =>
    rw [dispatchAll_cons]
    rcases dispatchVm_cases scheduler pools oid with
      ⟨next, isNext, -⟩ | ⟨vm, middle, next, action, host, ds, leased, isNext, -, -, -, placed, -⟩
    · rw [isNext]
      exact (@ih next).trans (List.sublist_cons_self oid rest)
    · rw [isNext]
      simp only [Option.toList_some, List.cons_append, List.nil_append, List.map_cons, placed.isVm]
      exact (@ih next).cons_cons oid

end OpenNebula.Schedm.Rank.Scheduler
