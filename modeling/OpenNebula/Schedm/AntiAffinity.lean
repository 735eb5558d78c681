import OpenNebula.Schedm.GroupRequirements
import OpenNebula.Schedm.PlanCapacity

namespace OpenNebula.Schedm.Rank

open Library

/-! # Anti-affinity of the plans

A requirement about `CURRENT_VMS` is asked again when the VM is dispatched, so it sees the VMs
that are dispatched before it.
-/

variable {δ : Type} {scheduler : Scheduler δ} {pools next : Pools δ} {oid a b : Oid}
  {vm : VirtualMachineXML} {text : String}

theorem Demanded.agree {pool after : Map Oid VirtualMachineXML} (demanded : Demanded oid text pool)
    (agree : Agree Scheduler.stripMatches pool after) : Demanded oid text after := by
  intro later isLater
  have same := agree oid
  rw [isLater, Option.map_some] at same
  obtain ⟨vm, isVm, strip⟩ := Option.map_eq_some_iff.1 same.symm
  have sameText : vm.requirements = later.requirements := by
    simpa only [Scheduler.stripMatches] using congrArg VirtualMachineXML.requirements strip
  exact sameText ▸ demanded vm isVm

theorem asksCurrentVms {op : String} (narrows : Narrows (currentVmsTerm op b) vm.requirements) :
    Scheduler.currentVmsText <:+: vm.requirements.toList := by
  refine List.IsInfix.trans ?_ narrows.within
  have first : "CURRENT_VMS ".toList = Scheduler.currentVmsText ++ [' '] := by decide
  rw [currentVmsTerm, String.toList_append, String.toList_append, String.toList_append, first,
    List.append_assoc, List.append_assoc, List.append_assoc]
  exact (List.prefix_append _ _).isInfix

variable {host : HostXML δ} {i j : Nat}

theorem meets_currentVms {op : String} {relation : Parsers.Relation}
    (isOp : op = "=" ∧ relation = .eq ∨ op = "!=" ∧ relation = .ne)
    (narrows : Narrows (currentVmsTerm op b) vm.requirements) (meets : host.meets vm.requirements = true) :
    host.object "CURRENT_VMS" relation (.integer b.val) = true := by
  simp only [HostXML.meets, decide_eq_true_eq] at meets
  have holds := narrows.holds host.object meets
  rw [(evaluates_term isOp b).isValue, Option.some.injEq] at holds
  exact holds

theorem object_ne (holds : host.object "CURRENT_VMS" .ne (.integer b.val) = true) :
    b ∉ host.vms ++ host.dispatchedVms := by
  intro inside
  have found : ((host.vms ++ host.dispatchedVms).any fun vm => (vm.val : Int) = b.val) = true :=
    List.any_eq_true.2 ⟨b, inside, by simp⟩
  simp only [HostXML.object, HostXML.currentVms, found, if_true] at holds
  simp at holds

theorem stillMeets_antiAffined (narrows : Narrows (currentVmsTerm "!=" b) vm.requirements)
    (meets : Scheduler.stillMeets vm host = true) : b ∉ host.vms ++ host.dispatchedVms := by
  rw [Scheduler.stillMeets, if_pos (asksCurrentVms narrows)] at meets
  exact object_ne (meets_currentVms (.inr ⟨rfl, rfl⟩) narrows meets)

def Present (pools : Pools δ) (hid oid : Oid) : Prop :=
  ∃ host, pools.hosts.lookup hid = some host ∧ oid ∈ host.vms ++ host.dispatchedVms

namespace Scheduler

variable {middle : Pools δ} {action : ActionXML} {host : HostXML δ}
  {ds : DatastoreXML} {leased : Map Oid VirtualNetworkXML × List (Nat × Oid)}

theorem Unchanged.present (unchanged : Unchanged pools next) {hid : Oid} :
    Present next hid oid ↔ Present pools hid oid := by
  obtain ⟨vnets, rfl, -⟩ := unchanged
  rfl

theorem Placed.present {hid : Oid}
    (placed : Placed scheduler oid vm (vm.getCapacity oid) pools next action host ds leased) :
    Present next hid b ↔ Present pools hid b ∨ hid = action.host ∧ b = oid := by
  rw [Present, placed.hosts]
  by_cases same : hid = action.host
  · subst same
    have after : ∀ shared : Bool, b ∈ (if shared then host
          else host.addDsCapacity action.ds (vm.getCapacity oid).disk).vms ++
          ((if shared then host else host.addDsCapacity action.ds (vm.getCapacity oid).disk).addCapacity
            scheduler.devices (vm.getCapacity oid)).dispatchedVms ↔
        b ∈ host.vms ++ host.dispatchedVms ∨ b = oid := by
      intro shared
      cases shared <;>
        simp [HostXML.addCapacity, HostXML.addDsCapacity, VirtualMachineXML.getCapacity, or_comm, or_left_comm]
    rw [if_pos rfl, Present, placed.isHost]
    simp only [Option.some.injEq, exists_eq_left', true_and]
    exact after _
  · rw [if_neg same, Present]
    simp [same]

theorem dispatchAll_absent (order : List Oid)
    (demanded : Demanded a (currentVmsTerm "!=" b) pools.vms) {action : ActionXML}
    (member : action ∈ (scheduler.dispatchAll pools order).2) (isVm : action.vm = a) :
    ¬Present pools action.host b := by
  induction order generalizing pools with
  | nil => cases member
  | cons oid rest ih =>
    rw [dispatchAll_cons] at member
    rcases dispatchVm_cases scheduler pools oid with
      ⟨next, isNext, unchanged⟩ |
      ⟨vm, middle, next, first, host, ds, leased, isNext, isFirst, unchanged, -, placed, -⟩
    · rw [isNext] at member
      rw [← unchanged.present]
      exact ih (demanded.agree unchanged.kept.vms) member
    · rw [isNext] at member
      simp only [Option.toList_some, List.cons_append, List.nil_append, List.mem_cons] at member
      rcases member with rfl | later
      · rw [placed.isVm] at isVm
        subst isVm
        have absent := stillMeets_antiAffined (demanded vm isFirst) placed.meets
        rw [← unchanged.present]
        rintro ⟨found, isFound, inside⟩
        rw [placed.isHost, Option.some.injEq] at isFound
        subst isFound
        exact absent inside
      · intro present
        refine ih ((demanded.agree unchanged.kept.vms).agree placed.kept.vms) later ?_
        exact placed.present.2 (.inl (unchanged.present.2 present))

theorem dispatchAll_apart (scheduler : Scheduler δ) (order : List Oid)
    (left : Demanded a (currentVmsTerm "!=" b) pools.vms) (right : Demanded b (currentVmsTerm "!=" a) pools.vms) :
    (scheduler.dispatchAll pools order).2.Pairwise fun first second =>
      first.vm = a ∧ second.vm = b ∨ first.vm = b ∧ second.vm = a → first.host ≠ second.host := by
  induction order generalizing pools with
  | nil => exact .nil
  | cons oid rest ih =>
    rw [dispatchAll_cons]
    rcases dispatchVm_cases scheduler pools oid with
      ⟨next, isNext, unchanged⟩ |
      ⟨vm, middle, next, first, host, ds, leased, isNext, -, unchanged, -, placed, -⟩
    · rw [isNext]
      exact ih (left.agree unchanged.kept.vms) (right.agree unchanged.kept.vms)
    · rw [isNext]
      have leftNext := (left.agree unchanged.kept.vms).agree placed.kept.vms
      have rightNext := (right.agree unchanged.kept.vms).agree placed.kept.vms
      have inHost : Present next first.host first.vm := placed.present.2 (.inr ⟨rfl, placed.isVm⟩)
      refine List.pairwise_cons.2 ⟨fun second later both sameHost => ?_, ih leftNext rightNext⟩
      rw [sameHost] at inHost
      rcases both with ⟨isA, isB⟩ | ⟨isB, isA⟩
      · exact dispatchAll_absent rest rightNext later isB (isA ▸ inHost)
      · exact dispatchAll_absent rest leftNext later isA (isB ▸ inHost)

end Scheduler

namespace SchedulerInput

structure KeepsApart (input : SchedulerInput δ) (scheduler : Scheduler δ) (a b : Oid) : Prop where
  plan : ∀ first ∈ input.plan scheduler, ∀ second ∈ input.plan scheduler,
    first.vm = a → second.vm = b → first.host ≠ second.host
  left : ∀ action ∈ input.plan scheduler, action.vm = a →
    ∀ host, input.pools.hosts.lookup action.host = some host → b ∉ host.vms
  right : ∀ action ∈ input.plan scheduler, action.vm = b →
    ∀ host, input.pools.hosts.lookup action.host = some host → a ∉ host.vms

variable (input : SchedulerInput δ)

theorem matched_hosts (scheduler : Scheduler δ) : (input.matched scheduler).hosts = input.pools.hosts := by
  rw [matched, Scheduler.matchSchedule]
  split <;> rfl

theorem plan_absent (demanded : Demanded a (currentVmsTerm "!=" b) input.grouped.vms)
    {action : ActionXML} (member : action ∈ input.plan scheduler) (isVm : action.vm = a)
    {host : HostXML δ} (isHost : input.pools.hosts.lookup action.host = some host) : b ∉ host.vms := by
  intro inside
  refine Scheduler.dispatchAll_absent _ (demanded.agree (input.matched_agree scheduler)) member isVm ?_
  rw [← input.matched_hosts scheduler] at isHost
  exact ⟨host, isHost, List.mem_append_left _ inside⟩

theorem keepsApart_of_demanded (differ : a ≠ b) (left : Demanded a (currentVmsTerm "!=" b) input.grouped.vms)
    (right : Demanded b (currentVmsTerm "!=" a) input.grouped.vms) : input.KeepsApart scheduler a b where
  plan := by
    intro first isFirst second isSecond isA isB
    have apart := Scheduler.dispatchAll_apart scheduler (input.order scheduler)
      (left.agree (input.matched_agree scheduler)) (right.agree (input.matched_agree scheduler))
    have other : first ≠ second := by
      rintro rfl
      exact differ (isA.symm.trans isB)
    have symm : Std.Symm fun first second : ActionXML =>
        first.vm = a ∧ second.vm = b ∨ first.vm = b ∧ second.vm = a → first.host ≠ second.host :=
      ⟨fun x y keeps both => (keeps (both.symm.imp And.symm And.symm)).symm⟩
    exact apart.forall isFirst isSecond other (.inl ⟨isA, isB⟩)
  left := fun _ member isVm _ isHost => input.plan_absent left member isVm isHost
  right := fun _ member isVm _ isHost => input.plan_absent right member isVm isHost

end SchedulerInput

def pairedRole (id : Nat) (name : String) (vm : Oid) : VMGroupRole where
  id := id
  name := name
  policy := .none
  vms := [vm]
  ascending := List.pairwise_singleton _ _

def pairedGroup {i j : Nat} (differ : i ≠ j) : VMGroupXML where
  roles := [pairedRole i "a" 1, pairedRole j "b" 2]
  antiAffined := [["a", "b"]]
  idsNodup := by simpa [pairedRole] using differ
  namesNodup := by simp [pairedRole]
  named := by simp [pairedRole]

def pairedPools : Pools Unit where
  hosts := AList.singleton 0 (plainHost [] 0 200)
  datastores := AList.singleton 0 (plainDatastore 1000)
  images := ∅
  vnets := ∅
  vms := (AList.singleton 1 plainVm).insert 2 plainVm

def pairedInput {i j : Nat} (differ : i ≠ j) : SchedulerInput Unit where
  pools := pairedPools
  vmgpool := ⟨[pairedGroup differ], List.pairwise_singleton _ _⟩
  fresh := by decide
  unmatched := by decide

/-- The same cloud without a group -/
def ungroupedInput : SchedulerInput Unit where
  pools := pairedPools
  vmgpool := roomyInput.vmgpool
  fresh := by decide
  unmatched := by decide

theorem addRequirements_none (oids : List Oid) (pool : Map Oid VirtualMachineXML) :
    VMGroupXML.addRequirements "" oids pool = pool := by
  have same : (fun vm : VirtualMachineXML => vm.addRequirements "") = id := by
    funext vm
    simp [VirtualMachineXML.addRequirements, Schedm.addRequirements]
  rw [VMGroupXML.addRequirements, same]
  induction oids with
  | nil => rfl
  | cons first rest ih => rw [List.foldl_cons, Map.update_id, ih]

theorem pairedGroup_setRequirements (differ : i ≠ j) (lost : ¬(i < maxRoles ∧ j < maxRoles))
    (rolesPool pool : Map Oid VirtualMachineXML) : (pairedGroup differ).setRequirements rolesPool pool = pool := by
  have isRule : (pairedGroup differ).namesToIds ["a", "b"] = [i, j] := by
    simp [VMGroupXML.namesToIds, pairedGroup, pairedRole]
  have alone : ∀ id ∈ (VMGroupRule.ofIds [i, j]).roles,
      (pairedGroup differ).roleRequirements (VMGroupRule.ofIds [i, j]) id = "" := by
    intro id member
    have none : (VMGroupRule.ofIds [i, j]).roles.filter (fun other => other ≠ id) = [] := by
      refine List.filter_eq_nil_iff.2 fun other inside => ?_
      have both := VMGroupRule.mem_roles.1 inside
      have kept := VMGroupRule.mem_roles.1 member
      simp only [List.mem_cons, List.not_mem_nil, or_false] at both kept
      simp only [decide_eq_true_eq, not_not]
      omega
    rw [VMGroupXML.roleRequirements, none]
    rfl
  have antiaffinity : (pairedGroup differ).setAntiaffinityRequirements pool = pool := by
    have rules : (pairedGroup differ).ruleSet (pairedGroup differ).antiAffined =
        [VMGroupRule.ofIds [i, j]] := by
      rw [← isRule]
      rfl
    rw [VMGroupXML.setAntiaffinityRequirements, rules]
    change List.foldl _ _ (VMGroupRule.ofIds [i, j]).roles = pool
    refine List.foldlRecOn _ _ (motive := fun after => after = pool) rfl fun after same id member => ?_
    rw [same, alone id member]
    cases (pairedGroup differ).role id with
    | none => rfl
    | some role => exact addRequirements_none role.vms pool
  have affinity : (pairedGroup differ).setAffinityRequirements rolesPool pool = pool := rfl
  rw [VMGroupXML.setRequirements, affinity, antiaffinity]
  have first := addRequirements_none [1] pool
  exact (addRequirements_none [2] _).trans first

theorem pairedInput_plan (differ : i ≠ j) (lost : ¬(i < maxRoles ∧ j < maxRoles)) :
    (pairedInput differ).plan plainScheduler = ungroupedInput.plan plainScheduler := by
  have grouped : (pairedInput differ).grouped = ungroupedInput.grouped := by
    have same := pairedGroup_setRequirements differ lost (pairedInput differ).rolesPool
      (pairedInput differ).vmpool
    rw [SchedulerInput.grouped]
    exact congrArg (fun vms => { (pairedInput differ).pools with vms := vms }) same
  rw [SchedulerInput.plan, SchedulerInput.plan, SchedulerInput.matched, SchedulerInput.matched,
    SchedulerInput.order, SchedulerInput.order, grouped]

theorem pairedInput_together (differ : i ≠ j) (lost : ¬(i < maxRoles ∧ j < maxRoles)) :
    ¬(pairedInput differ).KeepsApart plainScheduler 1 2 := by
  intro keeps
  have plan := keeps.plan
  rw [pairedInput_plan differ lost] at plan
  exact absurd plan (by decide +kernel)

theorem pairedGroup_apart (differ : i ≠ j) {counts : Nat → Prop} (first : counts i) (second : counts j) :
    (pairedGroup differ).Apart counts 1 2 :=
  .rule ["a", "b"] List.mem_cons_self (pairedRole i "a" 1) (pairedRole j "b" 2) List.mem_cons_self
    (by simp [pairedGroup]) (by simp [pairedRole]) (by simp [pairedRole]) differ first second
    List.mem_cons_self List.mem_cons_self (by decide)

/-- The plans keep the VMs of a group apart if and only if the roles of its rules have numbers
below 32. -/
theorem plan_keeps_apart (counts : Nat → Prop) :
    (∀ (δ : Type) (scheduler : Scheduler δ) (input : SchedulerInput δ), ∀ group ∈ input.vmgpool.groups,
      ∀ a b, group.Apart counts a b → input.KeepsApart scheduler a b) ↔
    ∀ i j, i ≠ j → counts i → counts j → i < maxRoles ∧ j < maxRoles := by
  constructor
  · intro keeps i j differ first second
    by_contra lost
    exact pairedInput_together differ lost (keeps Unit plainScheduler (pairedInput differ) _
      List.mem_cons_self 1 2 (pairedGroup_apart differ first second))
  · intro small δ scheduler input group member a b isApart
    have below : group.Apart (· < maxRoles) a b := isApart.below small
    exact input.keepsApart_of_demanded isApart.differ (doVmGroups_apart member below)
      (doVmGroups_apart member below.symm)

/-- Two VMs of roles 32 and 33, which an anti-affined rule names, in one host -/
theorem plan_not_apart :
    (∃ group ∈ (pairedInput (show 32 ≠ 33 by decide)).vmgpool.groups, group.Apart (fun _ => True) 1 2) ∧
      ¬(pairedInput (show 32 ≠ 33 by decide)).KeepsApart plainScheduler 1 2 :=
  ⟨⟨_, List.mem_cons_self, pairedGroup_apart (by decide) trivial trivial⟩,
    pairedInput_together (by decide) (by decide)⟩

end OpenNebula.Schedm.Rank
