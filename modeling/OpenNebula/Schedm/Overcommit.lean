import OpenNebula.Library.Budget
import OpenNebula.Schedm.Dispatch

namespace OpenNebula.Schedm.Rank.Scheduler

open Library

/-! # What a plan charges -/

variable {δ : Type} (scheduler : Scheduler δ)

inductive Counter where
  | cpu (host : Oid)
  | memory (host : Oid)
  | slots (host : Oid)
  | localDatastore (host ds : Oid)
  | sharedDatastore (ds : Oid)
  | image (ds : Oid)
  | leases (vnet : Oid)

section

variable (pools : Pools δ)

def isShared (dsid : Oid) : Bool := (pools.datastores.lookup dsid).any (·.shared)

def left : Counter → Int
  | .cpu hid => ((pools.hosts.lookup hid).map fun host => host.maxCpu - host.cpuUsage).getD 0
  | .memory hid => ((pools.hosts.lookup hid).map fun host => host.maxMem - host.memUsage).getD 0
  | .slots hid =>
    if scheduler.hostDispatchLimit = 0 then 0
    else ((pools.hosts.lookup hid).map fun host =>
      (scheduler.hostDispatchLimit : Int) - host.dispatchedVms.length).getD 0
  | .localDatastore hid dsid =>
    if isShared pools dsid then 0 else ((pools.hosts.lookup hid).map (·.dsFree dsid)).getD 0
  | .sharedDatastore dsid =>
    if isShared pools dsid then ((pools.datastores.lookup dsid).map (·.freeMb)).getD 0 else 0
  | .image dsid => ((pools.images.lookup dsid).map (·.freeMb)).getD 0
  | .leases id => ((pools.vnets.lookup id).map (·.freeLeases)).getD 0

def imageMb (vm : VirtualMachineXML) (dsid : Oid) : Nat :=
  if (pools.images.lookup dsid).isSome ∧ ¬vm.resched then (vm.dsUsage.lookup dsid).getD 0 else 0

def chargeOf (vm : VirtualMachineXML) (action : ActionXML) : Counter → Nat
  | .cpu hid => if action.host = hid then (vm.getCapacity action.vm).cpu else 0
  | .memory hid => if action.host = hid then (vm.getCapacity action.vm).mem else 0
  | .slots hid => if action.host = hid ∧ scheduler.hostDispatchLimit ≠ 0 then 1 else 0
  | .localDatastore hid dsid =>
    if action.host = hid ∧ action.ds = dsid ∧ ¬isShared pools dsid then
      (vm.getCapacity action.vm).disk else 0
  | .sharedDatastore dsid =>
    if action.ds = dsid ∧ isShared pools dsid ∧ ¬vm.resched ∧ ¬vm.resume then
      (vm.getCapacity action.vm).disk else 0
  | .image dsid => imageMb pools vm dsid
  | .leases id => leasesOf action.nics id

def charged (plan : List ActionXML) (counter : Counter) : Nat :=
  (plan.map fun action =>
    ((pools.vms.lookup action.vm).map fun vm => scheduler.chargeOf pools vm action counter).getD 0).sum

end

structure WithinCapacity (pools : Pools δ) (plan : List ActionXML) : Prop where
  once : (plan.map ActionXML.vm).Nodup
  covered : ∀ counter, (scheduler.charged pools plan counter : Int) ≤ max (scheduler.left pools counter) 0

variable {scheduler} {pools middle next : Pools δ} {oid : Oid} {vm : VirtualMachineXML}
  {sr : HostShareCapacity} {action : ActionXML}

def stripMatches (vm : VirtualMachineXML) : VirtualMachineXML :=
  { vm with matchHosts := [], matchDatastores := [], matchNetworks := ∅ }

theorem chargeOf_stripMatches (pools : Pools δ) (vm : VirtualMachineXML) (action : ActionXML) (counter : Counter) :
    scheduler.chargeOf pools (stripMatches vm) action counter = scheduler.chargeOf pools vm action counter := by
  cases counter <;> rfl

structure Kept (pools next : Pools δ) : Prop where
  shared : ∀ dsid, isShared next dsid = isShared pools dsid
  images : ∀ dsid, (next.images.lookup dsid).isSome = (pools.images.lookup dsid).isSome
  vms : Agree stripMatches pools.vms next.vms

theorem Kept.trans (first : Kept pools middle) (second : Kept middle next) : Kept pools next :=
  ⟨fun dsid => (second.shared dsid).trans (first.shared dsid),
    fun dsid => (second.images dsid).trans (first.images dsid),
    fun oid => (second.vms oid).trans (first.vms oid)⟩

theorem Kept.imageMb (kept : Kept pools next) (vm : VirtualMachineXML) (dsid : Oid) :
    imageMb next vm dsid = imageMb pools vm dsid := by
  rw [Scheduler.imageMb, Scheduler.imageMb, kept.images]

theorem Kept.chargeOf (kept : Kept pools next) (vm : VirtualMachineXML) (action : ActionXML) (counter : Counter) :
    scheduler.chargeOf next vm action counter = scheduler.chargeOf pools vm action counter := by
  cases counter with
  | localDatastore | sharedDatastore => simp only [Scheduler.chargeOf, kept.shared]
  | image dsid => exact kept.imageMb vm dsid
  | _ => rfl

theorem Kept.charged (kept : Kept pools next) (plan : List ActionXML) :
    scheduler.charged next plan = scheduler.charged pools plan := by
  funext counter
  rw [Scheduler.charged, Scheduler.charged]
  congr 2
  funext action
  have same := congrArg
    (Option.map fun vm => scheduler.chargeOf pools vm action counter) (kept.vms action.vm)
  rw [Option.map_map, Option.map_map] at same
  have chargeSame : ∀ vm, scheduler.chargeOf next vm action counter =
      ((fun vm => scheduler.chargeOf pools vm action counter) ∘ stripMatches) vm := by
    intro vm
    rw [Function.comp_apply, chargeOf_stripMatches]
    exact kept.chargeOf vm action counter
  rw [funext chargeSame, same]
  congr 2

theorem charged_cons (pools : Pools δ) (action : ActionXML) (plan : List ActionXML)
    (counter : Counter) (isVm : pools.vms.lookup action.vm = some vm) :
    scheduler.charged pools (action :: plan) counter =
      scheduler.chargeOf pools vm action counter + scheduler.charged pools plan counter := by
  rw [charged, List.map_cons, List.sum_cons, isVm]
  rfl

theorem Unchanged.left (unchanged : Unchanged pools next) : scheduler.left next = scheduler.left pools := by
  obtain ⟨vnets, rfl, same⟩ := unchanged
  funext counter
  cases counter with
  | leases id => simp only [Scheduler.left, same]
  | _ => rfl

theorem Unchanged.kept (unchanged : Unchanged pools next) : Kept pools next := by
  obtain ⟨vnets, rfl, -⟩ := unchanged
  exact ⟨fun _ => rfl, fun _ => rfl, fun _ => rfl⟩

variable {host : HostXML δ} {ds : DatastoreXML} {leased : Map Oid VirtualNetworkXML × List (Nat × Oid)}

theorem addAffinedMatches_agree (hid dsid : Oid) (vms : Map Oid VirtualMachineXML) :
    Agree stripMatches vms (addAffinedMatches vm hid dsid vms) := by
  refine agree_foldl (fun _ => rfl) fun _ id agree => agree_update agree (fun avm => ?_) id
  rw [VirtualMachineXML.addMatchHost]
  split <;> rfl

theorem addImage_lookup (vm : VirtualMachineXML) (images : Map Oid DatastoreXML) (dsid : Oid) :
    (vm.addImageDatastoreCapacity images).lookup dsid =
      (images.lookup dsid).map (·.addCapacity ((vm.dsUsage.lookup dsid).getD 0)) := by
  rw [VirtualMachineXML.addImageDatastoreCapacity, Map.lookup_modify]
  congr 1
  funext ds
  cases vm.dsUsage.lookup dsid with
  | none => simp [DatastoreXML.addCapacity]
  | some amount => rfl

section

variable (placed : Placed scheduler oid vm sr pools next action host ds leased)
include placed

theorem Placed.kept : Kept pools next := by
  rw [placed.isNext]
  constructor
  · intro dsid
    simp only [charge, isShared]
    split
    · rw [Map.lookup_update]
      cases pools.datastores.lookup dsid with
      | none => rfl
      | some found =>
        simp only [Option.map_some, Option.any_some]
        split <;> rfl
    · rfl
  · intro dsid
    simp only [charge]
    split
    · rfl
    · rw [addImage_lookup, Option.isSome_map]
  · exact addAffinedMatches_agree action.host action.ds pools.vms

theorem Placed.hosts (hid : Oid) :
    next.hosts.lookup hid = if hid = action.host then
        some ((if isShared pools action.ds then host
          else host.addDsCapacity action.ds sr.disk).addCapacity scheduler.devices sr)
      else pools.hosts.lookup hid := by
  rw [placed.isNext]
  simp only [charge, Map.lookup_update]
  by_cases same : hid = action.host
  · subst same
    rw [placed.isHost, if_pos rfl, Option.map_some, if_pos rfl]
    rfl
  · simp [same]

def ImageRoom (pools : Pools δ) (vm : VirtualMachineXML) : Prop :=
  ∀ dsid, imageMb pools vm dsid = 0 ∨
    (imageMb pools vm dsid : Int) ≤ ((pools.images.lookup dsid).map (·.freeMb)).getD 0

theorem Placed.image_left (dsid : Oid) : scheduler.left next (.image dsid) =
      scheduler.left pools (.image dsid) - imageMb pools vm dsid := by
  rw [placed.isNext]
  simp only [Scheduler.left, charge, imageMb]
  cases isResched : vm.resched with
  | true => simp
  | false =>
    rw [if_neg (by simp), addImage_lookup]
    cases pools.images.lookup dsid with
    | none => simp
    | some found => simp [DatastoreXML.addCapacity]

end

theorem hostFits (fits : host.testCapacity scheduler.devices sr = true) :
    (sr.cpu : Int) ≤ host.maxCpu - host.cpuUsage ∧ (sr.mem : Int) ≤ host.maxMem - host.memUsage := by
  simp only [HostXML.testCapacity, Bool.decide_and, Bool.and_eq_true, decide_eq_true_eq] at fits
  exact fits.2

theorem dsFree_after (shared : Bool) (dsid other : Oid) :
    ((if shared then host else host.addDsCapacity dsid sr.disk).addCapacity scheduler.devices sr).dsFree
        other = if shared = false ∧ dsid = other then host.dsFree other - sr.disk else host.dsFree other := by
  cases shared with
  | true => rfl
  | false =>
    simp only [Bool.false_eq_true, if_false, HostXML.addCapacity, HostXML.addDsCapacity,
      HostXML.dsFree, true_and, Map.lookup_insert_eq]
    by_cases same : dsid = other
    · subst same
      simp
    · rw [if_neg (Ne.symm same), if_neg same]

theorem Placed.spends (placed : Placed scheduler oid vm (vm.getCapacity oid) pools next action host ds leased)
    (fresh : oid ∉ host.dispatchedVms) (room : ImageRoom pools vm) :
    Spends (scheduler.left pools) (scheduler.left next)
      (fun counter => (scheduler.chargeOf pools vm action counter : Int)) := by
  have isVm : action.vm = oid := by rw [placed.isAction]
  have each : ∀ counter, scheduler.left next counter ≤
      scheduler.left pools counter - scheduler.chargeOf pools vm action counter ∧
      (scheduler.left next counter = scheduler.left pools counter ∨ 0 ≤ scheduler.left next counter) := by
    intro counter
    cases counter with
    | cpu hid =>
      simp only [left, chargeOf, placed.hosts, isVm]
      by_cases same : hid = action.host
      · subst same
        have enough := (hostFits placed.fits).1
        simp only [if_true, placed.isHost, Option.map_some, Option.getD_some]
        split <;> simp only [HostXML.addCapacity, HostXML.addDsCapacity] <;> omega
      · simp [same, Ne.symm same]
    | memory hid =>
      simp only [left, chargeOf, placed.hosts, isVm]
      by_cases same : hid = action.host
      · subst same
        have enough := (hostFits placed.fits).2
        simp only [if_true, placed.isHost, Option.map_some, Option.getD_some]
        split <;> simp only [HostXML.addCapacity, HostXML.addDsCapacity] <;> omega
      · simp [same, Ne.symm same]
    | slots hid =>
      simp only [left, chargeOf, placed.hosts]
      by_cases unlimited : scheduler.hostDispatchLimit = 0
      · simp [unlimited]
      · by_cases same : hid = action.host
        · subst same
          have below := placed.below (Nat.pos_of_ne_zero unlimited)
          have longer : (host.dispatchedVms.insert oid).length = host.dispatchedVms.length + 1 :=
            List.length_insert_of_not_mem fresh
          simp only [unlimited, if_true, if_false, placed.isHost, Option.map_some, Option.getD_some]
          split <;>
            simp only [HostXML.addCapacity, HostXML.addDsCapacity, VirtualMachineXML.getCapacity,
              longer] <;> simp <;> omega
        · simp [same, Ne.symm same]
    | localDatastore hid dsid =>
      simp only [left, chargeOf, placed.hosts, isVm, placed.kept.shared]
      by_cases shared : isShared pools dsid = true
      · simp [shared]
      · by_cases same : hid = action.host
        · subst same
          simp only [if_true, placed.isHost, Option.map_some, Option.getD_some, shared, dsFree_after]
          by_cases used : action.ds = dsid
          · subst used
            have isLocal : ds.shared = false := by
              simpa [isShared, placed.isDatastore] using shared
            have enough := placed.hasRoom
            simp only [Scheduler.hasRoom, isLocal, HostXML.testDsCapacity] at enough
            simp at enough
            simp [shared]
            omega
          · simp [used]
        · simp [shared, same, Ne.symm same]
    | sharedDatastore dsid =>
      simp only [left, chargeOf, isVm, placed.kept.shared]
      by_cases shared : isShared pools dsid = true
      · rw [placed.isNext]
        simp only [charge, shared, if_true]
        by_cases used : action.ds = dsid
        · subst used
          have isShared' : ds.shared = true := by
            simpa [isShared, placed.isDatastore] using shared
          have enough := placed.hasRoom
          simp only [Scheduler.hasRoom, isShared', DatastoreXML.testCapacity] at enough
          by_cases counted : vm.resched = false ∧ vm.resume = false
          · simp [counted] at enough
            simp [counted, Map.lookup_update, placed.isDatastore, DatastoreXML.addCapacity, isShared']
            omega
          · have notCounted : ¬(vm.resched = false ∧ vm.resume = false) := counted
            simp [placed.isDatastore, isShared', notCounted]
        · simp only [used, false_and, if_false]
          split
          · simp [Map.lookup_update, Ne.symm used]
          · simp
      · simp [shared]
    | image dsid =>
      rw [placed.image_left dsid]
      have enough := room dsid
      simp only [chargeOf, left]
      omega
    | leases id =>
      obtain ⟨added, isAdded, -, later⟩ := leaseNics_spec scheduler vm
        host.cluster vm.nicsIds pools.vnets []
      rw [placed.isLeased] at isAdded later
      obtain ⟨lookup, covered⟩ := later id
      rw [List.nil_append] at isAdded
      have fewer : leasesOf action.nics id ≤ leasesOf added id := by
        rw [placed.isAction]
        simp only
        split
        · exact Nat.zero_le _
        · rw [isAdded]
      rw [placed.isNext]
      simp only [left, charge, chargeOf, lookup]
      by_cases none : leasesOf added id = 0
      · rw [none] at fewer ⊢
        cases pools.vnets.lookup id <;> simp [takeLeases] <;> omega
      · obtain ⟨net, found, enough⟩ := covered none
        rw [found]
        simp only [Option.map_some, Option.getD_some, takeLeases]
        omega
  constructor
  · intro counter
    have spent := (each counter).1
    omega
  · exact fun counter => (each counter).2

end OpenNebula.Schedm.Rank.Scheduler
