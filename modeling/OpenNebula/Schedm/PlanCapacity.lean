import OpenNebula.Schedm.Overcommit
import Mathlib.Algebra.Order.BigOperators.Group.List

namespace OpenNebula.Schedm.Rank

open Library

namespace Scheduler

/-! # Plans within the capacity

A resumed VM is charged in the image datastores without the test that a new VM has to pass, and
a VM whose capacity a set leader has taken over is dispatched without any.
-/

variable {δ : Type} (scheduler : Scheduler δ)

def fitsImages (pools : Pools δ) (vm : VirtualMachineXML) : Bool :=
  vm.dsUsage.entries.all fun usage =>
    vm.resched ∨ usage.2 = 0 ∨
      (pools.images.lookup usage.1).all fun ds => ((usage.2 : Int) ≤ ds.freeMb)

def resumedFit (pools : Pools δ) : List Oid → Bool
  | [] => true
  | oid :: rest =>
    ((scheduler.dispatchVm pools oid).2.isNone ||
      (pools.vms.lookup oid).all fun vm => !vm.resume || fitsImages pools vm) &&
      resumedFit (scheduler.dispatchVm pools oid).1 rest

def asksAtLeast (vm grouped : VirtualMachineXML) : Bool :=
  (vm.getCapacity 0).cpu ≤ (grouped.getCapacity 0).cpu ∧
    (vm.getCapacity 0).mem ≤ (grouped.getCapacity 0).mem ∧
    (vm.getCapacity 0).disk ≤ (grouped.getCapacity 0).disk

def reducedUnmatched (input : SchedulerInput δ) : Bool :=
  input.grouped.vms.entries.all fun row =>
    scheduler.matchHosts input.grouped row.1 row.2 = [] ∨
      (input.vmpool.lookup row.1).all fun vm => asksAtLeast vm row.2

variable {scheduler} {pools next : Pools δ} {oid : Oid} {vm : VirtualMachineXML}

theorem fitsImages_iff (pools : Pools δ) (vm : VirtualMachineXML) :
    fitsImages pools vm = true ↔ ImageRoom pools vm := by
  rw [fitsImages, List.all_eq_true]
  constructor
  · intro fits dsid
    rw [imageMb]
    split
    · rename_i counted
      cases isUsed : vm.dsUsage.lookup dsid with
      | none => exact .inl rfl
      | some amount =>
        have row := fits ⟨dsid, amount⟩ (Map.mem_entries_iff.2 isUsed)
        obtain ⟨ds, isDs⟩ := Option.isSome_iff_exists.1 counted.1
        simp only [decide_eq_true_eq, isDs, Option.all_some] at row
        rw [isDs]
        exact row.resolve_left counted.2
    · exact .inl rfl
  · intro room row member
    have isUsed := Map.mem_entries_iff.1 member
    have enough := room row.1
    simp only [decide_eq_true_eq]
    cases isResched : vm.resched with
    | true => exact .inl rfl
    | false =>
      refine .inr ?_
      cases isDs : pools.images.lookup row.1 with
      | none => exact .inr rfl
      | some ds =>
        simp only [imageMb, isDs, isUsed, isResched] at enough
        simpa using enough

theorem imageRoom_of_test (tested : vm.resched = false → vm.testImageDatastoreCapacity pools.images = true) :
    ImageRoom pools vm := by
  intro dsid
  rw [imageMb]
  split
  · rename_i counted
    cases isUsed : vm.dsUsage.lookup dsid with
    | none => exact .inl rfl
    | some amount =>
      have row := List.all_eq_true.1 (tested (by simpa using counted.2)) ⟨dsid, amount⟩
        (Map.mem_entries_iff.2 isUsed)
      obtain ⟨ds, isDs⟩ := Option.isSome_iff_exists.1 counted.1
      simp only [isDs, DatastoreXML.testCapacity, decide_eq_true_eq, Option.any_some] at row
      simp only [isDs, Option.map_some, Option.getD_some]
      omega
  · exact .inl rfl

theorem Unchanged.hosts (unchanged : Unchanged pools next) : next.hosts = pools.hosts := by
  obtain ⟨vnets, rfl, -⟩ := unchanged
  rfl

theorem Unchanged.imageRoom (unchanged : Unchanged pools next) (room : ImageRoom pools vm) : ImageRoom next vm := by
  obtain ⟨vnets, rfl, -⟩ := unchanged
  exact room

def Undispatched (pools : Pools δ) (order : List Oid) : Prop :=
  ∀ hid host, pools.hosts.lookup hid = some host → ∀ oid ∈ order, oid ∉ host.dispatchedVms

theorem Unchanged.undispatched {order : List Oid} (unchanged : Unchanged pools next)
    (before : Undispatched pools order) : Undispatched next order := by
  intro hid host isHost
  rw [unchanged.hosts] at isHost
  exact before hid host isHost

theorem Placed.undispatched {middle : Pools δ} {sr : HostShareCapacity} {action : ActionXML}
    {host : HostXML δ} {ds : DatastoreXML} {leased : Map Oid VirtualNetworkXML × List (Nat × Oid)}
    {order : List Oid} (placed : Placed scheduler oid vm sr middle next action host ds leased)
    (isVmid : sr.vmid = oid) (absent : oid ∉ order) (before : Undispatched middle order) :
    Undispatched next order := by
  intro hid found isFound other member
  rw [placed.hosts] at isFound
  split at isFound
  · cases isFound
    have apart : other ≠ sr.vmid := by
      rintro rfl
      exact absent (isVmid ▸ member)
    have notBefore := before action.host host placed.isHost other member
    split <;> simp [HostXML.addCapacity, HostXML.addDsCapacity, List.mem_insert_iff, apart, notBefore]
  · exact before hid found isFound other member

theorem dispatchAll_spends (order : List Oid) (nodup : order.Nodup)
    (undispatched : Undispatched pools order) (fit : scheduler.resumedFit pools order = true) :
    Spends (scheduler.left pools) (scheduler.left (scheduler.dispatchAll pools order).1)
      (fun counter => (scheduler.charged pools (scheduler.dispatchAll pools order).2 counter : Int)) := by
  induction order generalizing pools with
  | nil => exact Spends.nothing
  | cons oid rest ih =>
    obtain ⟨absent, nodupRest⟩ := List.nodup_cons.1 nodup
    simp only [resumedFit, Bool.and_eq_true] at fit
    obtain ⟨fits, fitRest⟩ := fit
    have later : Undispatched pools rest := fun hid host isHost other member =>
      undispatched hid host isHost other (List.mem_cons_of_mem _ member)
    rw [dispatchAll_cons]
    rcases dispatchVm_cases scheduler pools oid with
      ⟨next, isNext, unchanged⟩ |
      ⟨vm, middle, next, action, host, ds, leased, isNext, isVm, unchanged, -, placed, tested⟩
    · rw [isNext] at fitRest ⊢
      have rests := ih nodupRest (unchanged.undispatched later) fitRest
      rw [unchanged.left, unchanged.kept.charged] at rests
      exact rests
    · rw [isNext] at fits fitRest ⊢
      have room : ImageRoom pools vm := by
        by_cases resumed : vm.resume = true
        · rw [isVm] at fits
          simp only [Option.isNone_some, Bool.false_or, Option.all_some, resumed, Bool.not_true] at fits
          exact (fitsImages_iff pools vm).1 fits
        · exact imageRoom_of_test fun fresh => tested fresh (by simpa using resumed)
      have spends := placed.spends
        (undispatched _ host (unchanged.hosts ▸ placed.isHost) oid List.mem_cons_self)
        (unchanged.imageRoom room)
      rw [unchanged.left] at spends
      have kept := unchanged.kept.trans placed.kept
      have rests := ih nodupRest
        (placed.undispatched rfl absent (unchanged.undispatched later)) fitRest
      rw [kept.charged] at rests
      have both := spends.trans rests
      refine both.mono fun counter => ?_
      simp only [Option.toList_some, List.cons_append, List.nil_append, Pi.add_apply]
      rw [charged_cons pools action _ counter (placed.isVm ▸ isVm), unchanged.kept.chargeOf]
      omega

theorem resumedFit_of_covered (order : List Oid)
    (covered : ∀ dsid, scheduler.charged pools (scheduler.dispatchAll pools order).2 (.image dsid) = 0 ∨
      (scheduler.charged pools (scheduler.dispatchAll pools order).2 (.image dsid) : Int) ≤
        scheduler.left pools (.image dsid)) : scheduler.resumedFit pools order = true := by
  induction order generalizing pools with
  | nil => rfl
  | cons oid rest ih =>
    rw [dispatchAll_cons] at covered
    rw [resumedFit, Bool.and_eq_true]
    rcases dispatchVm_cases scheduler pools oid with
      ⟨next, isNext, unchanged⟩ |
      ⟨vm, middle, next, action, host, ds, leased, isNext, isVm, unchanged, -, placed, -⟩
    · rw [isNext] at covered ⊢
      refine ⟨rfl, ih fun dsid => ?_⟩
      rw [unchanged.left, unchanged.kept.charged]
      exact covered dsid
    · rw [isNext] at covered ⊢
      simp only [Option.toList_some, List.cons_append, List.nil_append] at covered
      have kept := unchanged.kept.trans placed.kept
      have split : ∀ dsid, imageMb pools vm dsid +
          scheduler.charged pools (scheduler.dispatchAll next rest).2 (.image dsid) = 0 ∨
          ((imageMb pools vm dsid +
            scheduler.charged pools (scheduler.dispatchAll next rest).2 (.image dsid) : Nat) : Int) ≤
            scheduler.left pools (.image dsid) := by
        intro dsid
        have whole := covered dsid
        rw [charged_cons pools action _ _ (placed.isVm ▸ isVm)] at whole
        exact whole
      constructor
      · rw [isVm]
        simp only [Option.isNone_some, Bool.false_or, Option.all_some, Bool.or_eq_true]
        refine .inr ((fitsImages_iff pools vm).2 fun dsid => ?_)
        have bound := split dsid
        simp only [left] at bound
        omega
      · refine ih fun dsid => ?_
        dsimp only
        rw [kept.charged, placed.image_left, unchanged.left, unchanged.kept.imageMb]
        have bound := split dsid
        omega

theorem dispatchAll_nothing (order : List Oid) (empty : pools.hosts.entries = [] ∨ pools.datastores.entries = []) :
    (scheduler.dispatchAll pools order).2 = [] := by
  induction order generalizing pools with
  | nil => rfl
  | cons oid rest ih =>
    rw [dispatchAll_cons]
    rcases dispatchVm_cases scheduler pools oid with
      ⟨next, isNext, vnets, rfl, -⟩ |
      ⟨vm, middle, next, action, host, ds, leased, -, -, ⟨vnets, rfl, -⟩, -, placed, -⟩
    · rw [isNext]
      exact ih empty
    · rcases empty with none | none
      · have member := Map.mem_entries_iff.2 placed.isHost
        rw [none] at member
        cases member
      · have member := Map.mem_entries_iff.2 placed.isDatastore
        rw [none] at member
        cases member

theorem matchHosts_of_matchVm (matched : (scheduler.matchVm pools oid vm).2 = true) :
    scheduler.matchHosts pools oid vm ≠ [] := by
  intro empty
  rw [matchVm] at matched
  split at matched
  · cases matched
  · rw [empty] at matched
    cases matched

theorem stripMatches_matchVm (pools : Pools δ) (oid : Oid) (vm : VirtualMachineXML) :
    stripMatches (scheduler.matchVm pools oid vm).1 = stripMatches vm := by
  rw [matchVm]
  split
  · rfl
  · dsimp only
    split
    · rfl
    · split
      · rfl
      · split
        · rfl
        · cases scheduler.matchNics pools oid _ ∅ vm.prereqNics.entries <;> rfl

end Scheduler

namespace SchedulerInput

open Scheduler

variable {δ : Type} (input : SchedulerInput δ) (scheduler : Scheduler δ)

/-- The pools before the groups, with the capacity that the templates ask for -/
def requested : Pools δ := { input.pools with vms := input.vmpool }

theorem matched_agree : Agree stripMatches input.grouped.vms (input.matched scheduler).vms := by
  intro oid
  rw [matched, matchSchedule]
  split
  · rfl
  · rw [Map.lookup_modify, Option.map_map]
    congr 1
    funext vm
    exact stripMatches_matchVm input.grouped oid vm

theorem matched_left : scheduler.left (input.matched scheduler) = scheduler.left input.requested := by
  rw [matched, matchSchedule]
  split <;> rfl

theorem matched_kept (vm : VirtualMachineXML) (action : ActionXML) :
    scheduler.chargeOf (input.matched scheduler) vm action = scheduler.chargeOf input.requested vm action := by
  rw [matched, matchSchedule]
  split <;> (funext counter; cases counter <;> rfl)

theorem order_nodup : (input.order scheduler).Nodup := by
  rw [order, dispatchOrder, List.nodup_reverse, (scheduler.vmPolicy.perm _).nodup_iff, matchSchedule]
  split
  · exact AList.keys_nodup _
  · exact (AList.keys_nodup _).filter _

theorem order_undispatched : Undispatched (input.matched scheduler) (input.order scheduler) := by
  intro hid host isHost oid _
  have isHost' : input.pools.hosts.lookup hid = some host := by
    rw [matched, matchSchedule] at isHost
    split at isHost <;> exact isHost
  have none : host.dispatchedVms = [] := input.fresh ⟨hid, host⟩ (Map.mem_entries_iff.2 isHost')
  rw [none]
  exact List.not_mem_nil

theorem plan_matched {action : ActionXML} (member : action ∈ input.plan scheduler) :
    ∃ vm, input.grouped.vms.lookup action.vm = some vm ∧ scheduler.matchHosts input.grouped action.vm vm ≠ [] := by
  have inside : action.vm ∈ input.order scheduler :=
    (dispatchAll_sublist (input.order scheduler)).subset (List.mem_map_of_mem member)
  rw [order, dispatchOrder, List.mem_reverse, (scheduler.vmPolicy.perm _).mem_iff] at inside
  rw [plan, matched] at member
  rw [matchSchedule] at inside member
  split at inside
  · rename_i empty
    rw [if_pos empty] at member
    rw [dispatchAll_nothing _ empty] at member
    cases member
  · obtain ⟨vm, isVm, kept⟩ := (Option.any_eq_true _ _).1 (List.mem_filter.1 inside).2
    exact ⟨vm, isVm, matchHosts_of_matchVm kept⟩

def fixedAttributes (vm : VirtualMachineXML) : Bool × Bool × Map Oid Nat :=
  (vm.resched, vm.resume, vm.dsUsage)

theorem fixedAttributes_untouched : Untouched fixedAttributes :=
  ⟨fun _ _ => rfl, fun _ _ => rfl, fun _ => rfl, fun _ _ => rfl⟩

theorem grouped_agree : Agree fixedAttributes input.vmpool input.grouped.vms :=
  agree_doVmGroups fixedAttributes_untouched input.vmgpool input.rolesPool input.vmpool

theorem plan_vm {action : ActionXML} (member : action ∈ input.plan scheduler) :
    ∃ vm grouped matched, input.requested.vms.lookup action.vm = some vm ∧
      input.grouped.vms.lookup action.vm = some grouped ∧
      (input.matched scheduler).vms.lookup action.vm = some matched ∧
      fixedAttributes grouped = fixedAttributes vm ∧ stripMatches matched = stripMatches grouped ∧
      scheduler.matchHosts input.grouped action.vm grouped ≠ [] := by
  obtain ⟨grouped, isGrouped, matchesHost⟩ := input.plan_matched scheduler member
  have fixed := input.grouped_agree action.vm
  have strip := input.matched_agree scheduler action.vm
  rw [isGrouped, Option.map_some] at fixed strip
  obtain ⟨vm, isVm, sameFixed⟩ := Option.map_eq_some_iff.1 fixed.symm
  obtain ⟨matched, isMatched, sameStrip⟩ := Option.map_eq_some_iff.1 strip
  exact ⟨vm, grouped, matched, isVm, isGrouped, isMatched, sameFixed.symm, sameStrip, matchesHost⟩

theorem imageMb_fixed {pools : Pools δ} {vm grouped : VirtualMachineXML}
    (fixed : fixedAttributes grouped = fixedAttributes vm) (dsid : Oid) :
    imageMb pools grouped dsid = imageMb pools vm dsid := by
  simp only [fixedAttributes, Prod.mk.injEq] at fixed
  simp only [imageMb, fixed.1, fixed.2.2]

theorem chargeOf_grouped {pools : Pools δ} {vm grouped : VirtualMachineXML}
    (fixed : fixedAttributes grouped = fixedAttributes vm) (asks : asksAtLeast vm grouped = true)
    (action : ActionXML) (counter : Counter) :
    scheduler.chargeOf pools vm action counter ≤ scheduler.chargeOf pools grouped action counter := by
  simp only [asksAtLeast, decide_eq_true_eq] at asks
  have same := fixed
  simp only [fixedAttributes, Prod.mk.injEq] at same
  cases counter with
  | cpu hid =>
    simp only [chargeOf]
    split
    · exact asks.1
    · exact Nat.le_refl _
  | memory hid =>
    simp only [chargeOf]
    split
    · exact asks.2.1
    · exact Nat.le_refl _
  | slots hid => exact Nat.le_refl _
  | localDatastore hid dsid =>
    simp only [chargeOf]
    split
    · exact asks.2.2
    · exact Nat.le_refl _
  | sharedDatastore dsid =>
    simp only [chargeOf, same.1, same.2.1]
    split
    · exact asks.2.2
    · exact Nat.le_refl _
  | image dsid => exact (imageMb_fixed fixed dsid).ge
  | leases id => exact Nat.le_refl _

theorem charged_image (dsid : Oid) :
    scheduler.charged (input.matched scheduler) (input.plan scheduler) (.image dsid) =
      scheduler.charged input.requested (input.plan scheduler) (.image dsid) := by
  rw [charged, charged]
  congr 1
  refine List.map_congr_left fun action member => ?_
  obtain ⟨vm, grouped, matched, isVm, -, isMatched, fixed, strip, -⟩ := input.plan_vm scheduler member
  rw [isVm, isMatched, Option.map_some, Option.map_some, Option.getD_some, Option.getD_some,
    matched_kept, ← chargeOf_stripMatches, strip, chargeOf_stripMatches]
  exact imageMb_fixed fixed dsid

theorem charged_requested (reduced : scheduler.reducedUnmatched input = true) (counter : Counter) :
    scheduler.charged input.requested (input.plan scheduler) counter ≤
      scheduler.charged (input.matched scheduler) (input.plan scheduler) counter := by
  rw [charged, charged]
  refine List.sum_le_sum fun action member => ?_
  obtain ⟨vm, grouped, matched, isVm, isGrouped, isMatched, fixed, strip, matchesHost⟩ :=
    input.plan_vm scheduler member
  have row := List.all_eq_true.1 reduced ⟨action.vm, grouped⟩ (Map.mem_entries_iff.2 isGrouped)
  simp only [decide_eq_true_eq] at row
  have asks := row.resolve_left matchesHost
  have isVm' : input.vmpool.lookup action.vm = some vm := isVm
  rw [isVm', Option.all_some] at asks
  rw [isVm, isMatched, Option.map_some, Option.map_some, Option.getD_some, Option.getD_some,
    matched_kept, ← chargeOf_stripMatches _ matched, strip, chargeOf_stripMatches]
  exact chargeOf_grouped scheduler fixed asks action counter

end SchedulerInput

/-- While every VM that the groups left with less than its template matches no host, the plan
stays within the capacity if and only if each resumed VM that is dispatched fits in the image
datastores at its turn. -/
theorem dispatch_within_capacity {δ : Type} (scheduler : Scheduler δ) (input : SchedulerInput δ)
    (reduced : scheduler.reducedUnmatched input = true) :
    scheduler.WithinCapacity input.requested (input.plan scheduler) ↔
      scheduler.resumedFit (input.matched scheduler) (input.order scheduler) = true := by
  constructor
  · intro within
    refine Scheduler.resumedFit_of_covered _ fun dsid => ?_
    have bound := within.covered (.image dsid)
    rw [← input.charged_image scheduler, ← input.matched_left scheduler] at bound
    have same : input.plan scheduler =
      (scheduler.dispatchAll (input.matched scheduler) (input.order scheduler)).2 := rfl
    rw [← same]
    omega
  · intro fit
    refine ⟨(Scheduler.dispatchAll_sublist _).nodup (input.order_nodup scheduler), fun counter => ?_⟩
    have spends := Scheduler.dispatchAll_spends (input.order scheduler) (input.order_nodup scheduler)
      (input.order_undispatched scheduler) fit
    have within := spends.within counter
    rw [input.matched_left scheduler] at within
    have less := input.charged_requested scheduler reduced counter
    have same : input.plan scheduler =
      (scheduler.dispatchAll (input.matched scheduler) (input.order scheduler)).2 := rfl
    rw [← same] at within
    omega

def stoppedVm : VirtualMachineXML :=
  { plainVm with resume := true, dsUsage := AList.singleton 1 2000 }

def roomyInput : SchedulerInput Unit where
  pools :=
    { hosts := AList.singleton 0 (plainHost [] 0 200)
      datastores := AList.singleton 0 (plainDatastore 1000)
      images := AList.singleton 1 (plainDatastore 3000)
      vnets := ∅
      vms := (AList.singleton 1 stoppedVm).insert 2 plainVm }
  vmgpool := ⟨[], .nil⟩
  fresh := by decide +kernel
  unmatched := by decide +kernel

theorem dispatch_within_capacity_resumed :
    plainScheduler.WithinCapacity roomyInput.requested (roomyInput.plan plainScheduler) :=
  (dispatch_within_capacity plainScheduler roomyInput (by decide +kernel)).mpr (by decide +kernel)

/-- The stopped VM, with half of its MB left in the image datastore -/
def resumedInput : SchedulerInput Unit where
  pools := { roomyInput.pools with images := AList.singleton 1 (plainDatastore 1000) }
  vmgpool := ⟨[], .nil⟩
  fresh := roomyInput.fresh
  unmatched := roomyInput.unmatched

def affinedRole : VMGroupRole where
  id := 0
  name := "affined"
  policy := .affined
  vms := [1, 2, 3]
  ascending := by decide

/-- An affined role with one VM in poweroff that is to be rescheduled, and one CPU left on its
host -/
def affinedInput : SchedulerInput Unit where
  pools :=
    { hosts := AList.singleton 0 (plainHost [1] 100 200)
      datastores := AList.singleton 0 (plainDatastore 1000)
      images := ∅
      vnets := ∅
      vms := ((AList.singleton 1
        { plainVm with state := 8, resched := true, hid := some 0, dsid := some 0, inRole := true }).insert
          2 { plainVm with inRole := true }).insert 3 { plainVm with inRole := true } }
  vmgpool := ⟨[⟨[affinedRole], [], [], by decide, by decide, by decide⟩], by decide +kernel⟩
  fresh := by decide +kernel
  unmatched := by decide +kernel

/-- The two kinds of inputs whose plan charges more than what was left -/
theorem dispatch_overcommits :
    ¬plainScheduler.WithinCapacity resumedInput.requested (resumedInput.plan plainScheduler) ∧
      ¬plainScheduler.WithinCapacity affinedInput.requested (affinedInput.plan plainScheduler) :=
  ⟨fun within => absurd (within.covered (.image 1)) (by decide +kernel),
    fun within => absurd (within.covered (.cpu 0)) (by decide +kernel)⟩

end OpenNebula.Schedm.Rank
