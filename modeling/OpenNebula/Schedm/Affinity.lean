import OpenNebula.Schedm.AntiAffinity

namespace OpenNebula.Schedm.Rank

open Library

/-! # Affined sets of the plans

The VMs of a set wait for their leader: their requirements name it, and no host has it when the
hosts of the VMs are matched.
-/

variable {δ : Type} {scheduler : Scheduler δ} {pool after rolesPool : Map Oid VirtualMachineXML}
  {leader oid : Oid} {text : String}

theorem added_leader (leader : Oid) : Added (currentVmsTerm "=" leader) :=
  .inr ⟨_, evaluates_term (.inl ⟨rfl, rfl⟩) leader⟩

theorem leaderText_eq (leader : Oid) : "CURRENT_VMS = " ++ toString leader.val = currentVmsTerm "=" leader :=
  String.toList_injective (by simp [currentVmsTerm])

namespace VMGroupXML

variable {group : VMGroupXML}

theorem leaderOf_agree (agree : Agree (fun _ => ()) pool after) (oids : List Oid) :
    leaderOf after oids = leaderOf pool oids := by
  have same : ∀ oid, (after.lookup oid).isNone = (pool.lookup oid).isNone := by
    intro oid
    have found := congrArg Option.isNone (agree oid)
    rwa [Option.isNone_map, Option.isNone_map] at found
  rw [leaderOf, leaderOf]
  simp only [same]

theorem demanded_followLeader (differ : oid ≠ leader) (id : Oid) (demanded : Demanded oid text pool) :
    Demanded oid text (followLeader leader id pool) := by
  rw [followLeader]
  cases pool.lookup id with
  | none => exact demanded
  | some tmp =>
    refine (demanded.update leader fun vm same => absurd same.symm differ).update id fun vm _ => ?_
    rw [leaderText_eq]
    exact (added_leader leader).narrows vm.requirements

theorem followLeader_demands (leader oid : Oid) (pool : Map Oid VirtualMachineXML) :
    Demanded oid (currentVmsTerm "=" leader) (followLeader leader oid pool) := by
  intro vm isVm
  rw [followLeader] at isVm
  cases isTmp : pool.lookup oid with
  | none =>
    rw [isTmp, isTmp] at isVm
    cases isVm
  | some tmp =>
    rw [isTmp] at isVm
    simp only at isVm
    rw [Map.lookup_update] at isVm
    obtain ⟨before, -, rfl⟩ := Option.map_eq_some_iff.1 isVm
    rw [if_pos rfl, leaderText_eq]
    exact ((evaluates_term (.inl ⟨rfl, rfl⟩) leader).added _).2

def Leads (group : VMGroupXML) (pool : Map Oid VirtualMachineXML) (oid : Oid) : Prop :=
  ∃ oids ∈ group.affinedSets, ∃ id rest, leaderOf pool oids = some (oid, id :: rest)

variable {oids : List Oid}

theorem demanded_scheculeAffinedSet (follows : ∀ id rest, leaderOf pool oids ≠ some (oid, id :: rest))
    (demanded : Demanded oid text pool) : Demanded oid text (scheculeAffinedSet rolesPool oids pool) := by
  rw [scheculeAffinedSet]
  split
  · exact demanded
  · split
    · cases found : leaderOf pool oids with
      | none => exact demanded
      | some both =>
        obtain ⟨leader, rest⟩ := both
        cases rest with
        | nil => exact demanded
        | cons first rest =>
          have differ : oid ≠ leader := by
            rintro rfl
            exact follows first rest found
          exact foldl_keeps (fun _ id demanded => demanded_followLeader differ id demanded) demanded
    · exact demanded_addRequirements demanded (added_hostRequirements (.inl ⟨rfl, rfl⟩) _) oids

theorem scheculeAffinedSet_demands {rest : List Oid} (notRunning : affinedHosts rolesPool oids = [])
    (isLeader : leaderOf pool oids = some (leader, rest)) (differ : oid ≠ leader) (member : oid ∈ rest) :
    Demanded oid (currentVmsTerm "=" leader) (scheculeAffinedSet rolesPool oids pool) := by
  have several : ¬oids.length ≤ 1 := by
    obtain ⟨front, rfl, -⟩ := leaderOf_split isLeader
    have some := List.length_pos_of_mem member
    simp only [List.length_append, List.length_cons]
    omega
  rw [scheculeAffinedSet, if_neg several, if_pos notRunning, isLeader]
  exact foldl_reaches member (fun pool => followLeader_demands leader oid pool)
    (fun _ id demanded => demanded_followLeader differ id demanded) pool

theorem setRequirements_demands {rest : List Oid} (isSet : oids ∈ group.affinedSets)
    (notRunning : affinedHosts rolesPool oids = []) (isLeader : leaderOf pool oids = some (leader, rest))
    (member : oid ∈ rest) (follows : ¬group.Leads pool oid) (agree : Agree (fun _ => ()) pool after) :
    Demanded oid (currentVmsTerm "=" leader) (group.setRequirements rolesPool after) := by
  refine demanded_setHostRequirements (demanded_setAntiaffinity ?_)
  have untouched : Untouched (fun _ : VirtualMachineXML => ()) :=
    ⟨fun _ _ => rfl, fun _ _ => rfl, fun _ => rfl, fun _ _ => rfl⟩
  have leadsNone : ∀ other ∈ group.affinedSets, ∀ middle, Agree (fun _ => ()) pool middle →
      ∀ id others, leaderOf middle other ≠ some (oid, id :: others) := by
    intro other inside middle same id others found
    rw [leaderOf_agree same] at found
    exact follows ⟨other, inside, id, others, found⟩
  have differ : oid ≠ leader := by
    rintro rfl
    obtain ⟨id, others, rfl⟩ := List.exists_cons_of_ne_nil (List.ne_nil_of_mem member)
    exact follows ⟨oids, isSet, id, others, isLeader⟩
  obtain ⟨front, back, isSplit⟩ := List.append_of_mem isSet
  have later : ∀ other ∈ back, other ∈ group.affinedSets :=
    fun other inside => isSplit ▸ List.mem_append_right _ (List.mem_cons_of_mem _ inside)
  rw [setAffinityRequirements, isSplit, List.foldl_append, List.foldl_cons]
  have before : Agree (fun _ => ()) pool
      (front.foldl (fun pool oids => scheculeAffinedSet rolesPool oids pool) after) :=
    agree_foldl agree fun _ oids agree => agree_scheculeAffinedSet untouched agree oids
  have both : ∀ middle, Agree (fun _ => ()) pool middle → Demanded oid (currentVmsTerm "=" leader) middle →
      Demanded oid (currentVmsTerm "=" leader)
        (back.foldl (fun pool oids => scheculeAffinedSet rolesPool oids pool) middle) := by
    intro middle same demanded
    refine (List.foldlRecOn back _ (motive := fun middle =>
      Agree (fun _ => ()) pool middle ∧ Demanded oid (currentVmsTerm "=" leader) middle)
      ⟨same, demanded⟩ fun middle holds other inside => ⟨?_, ?_⟩).2
    · exact agree_scheculeAffinedSet untouched holds.1 other
    · exact demanded_scheculeAffinedSet (leadsNone other (later other inside) middle holds.1) holds.2
  refine both _ (agree_scheculeAffinedSet untouched before oids) ?_
  exact scheculeAffinedSet_demands notRunning ((leaderOf_agree before oids).trans isLeader) differ member

end VMGroupXML

theorem object_eq {host : HostXML δ} (holds : host.object "CURRENT_VMS" .eq (.integer leader.val) = true) :
    leader ∈ host.vms ++ host.dispatchedVms := by
  by_contra absent
  have none : ¬((host.vms ++ host.dispatchedVms).any fun vm => (vm.val : Int) = leader.val) = true := by
    intro found
    obtain ⟨vm, inside, same⟩ := List.any_eq_true.1 found
    simp only [decide_eq_true_eq, Int.natCast_inj] at same
    exact absent (Fin.ext same ▸ inside)
  simp only [HostXML.object, HostXML.currentVms, if_neg none] at holds
  simp at holds

namespace SchedulerInput

variable (input : SchedulerInput δ)

/-- No host has the VM. -/
def Unlisted (oid : Oid) : Prop :=
  ∀ hid host, input.pools.hosts.lookup hid = some host → oid ∉ host.vms

theorem plan_without (unlisted : input.Unlisted leader)
    (demanded : Demanded oid (currentVmsTerm "=" leader) input.grouped.vms) {action : ActionXML}
    (member : action ∈ input.plan scheduler) : action.vm ≠ oid := by
  rintro rfl
  obtain ⟨vm, isVm, matchesHost⟩ := input.plan_matched scheduler member
  obtain ⟨hid, isMatch⟩ := List.exists_mem_of_ne_nil _ matchesHost
  obtain ⟨host, isHost, passes⟩ := (Option.any_eq_true _ _).1 (List.mem_filter.1 isMatch).2
  have isHost' : input.pools.hosts.lookup hid = some host := isHost
  have narrows := demanded vm isVm
  have some : vm.requirements ≠ "" := by
    intro empty
    have inside := narrows.within
    rw [empty] at inside
    exact (evaluates_term (.inl ⟨rfl, rfl⟩) leader).nonempty
      (String.toList_injective (List.eq_nil_of_infix_nil inside))
  simp only [Scheduler.matchHost, Bool.decide_and, Bool.and_eq_true, decide_eq_true_eq] at passes
  have listed := object_eq (meets_currentVms (.inl ⟨rfl, rfl⟩) narrows (passes.2.resolve_left some))
  have fresh : host.dispatchedVms = [] := input.fresh ⟨hid, host⟩ (Map.mem_entries_iff.2 isHost')
  rw [fresh, List.append_nil] at listed
  exact unlisted hid host isHost' listed

def IsPending (oid : Oid) : Prop := ∃ vm, input.vmpool.lookup oid = some vm ∧ vm.state = 1

/-- The VMs of a set that are to be placed -/
def scheduled (oids : List Oid) : List Oid := oids.filter fun oid => (input.vmpool.lookup oid).isSome

/-- The plan places a set of VMs as one, where it is said which VMs have enough leases for
their automatic NICs. -/
structure Together (scheduler : Scheduler δ) (oids : List Oid) (enoughLeases : Oid → Prop) : Prop where
  oneHost : ∀ first ∈ input.plan scheduler, ∀ second ∈ input.plan scheduler,
    first.vm ∈ oids → second.vm ∈ oids → first.host = second.host
  followers : ∀ leader rest, VMGroupXML.leaderOf input.vmpool oids = some (leader, rest) →
    ∀ action ∈ input.plan scheduler, action.vm = leader →
      ∀ oid ∈ rest, input.IsPending oid → enoughLeases oid →
        ∃ follower ∈ input.plan scheduler, follower.vm = oid ∧ follower.host = action.host

variable {oids : List Oid}

theorem plan_scheduled {action : ActionXML} (member : action ∈ input.plan scheduler)
    (inside : action.vm ∈ oids) : action.vm ∈ input.scheduled oids := by
  obtain ⟨vm, grouped, matched, isVm, -⟩ := input.plan_vm scheduler member
  have isVm' : input.vmpool.lookup action.vm = some vm := isVm
  exact List.mem_filter.2 ⟨inside, by simp [isVm']⟩

theorem plan_once {first second : ActionXML} (isFirst : first ∈ input.plan scheduler)
    (isSecond : second ∈ input.plan scheduler) (same : first.vm = second.vm) : first = second :=
  List.inj_on_of_nodup_map ((Scheduler.dispatchAll_sublist _).nodup (input.order_nodup scheduler))
    isFirst isSecond same

theorem scheduled_eq {rest : List Oid} (isLeader : VMGroupXML.leaderOf input.vmpool oids = some (leader, rest)) :
    input.scheduled oids = leader :: input.scheduled rest := by
  obtain ⟨front, rfl, none, some⟩ := VMGroupXML.leaderOf_split isLeader
  have nothing : front.filter (fun oid => (input.vmpool.lookup oid).isSome) = [] :=
    List.filter_eq_nil_iff.2 fun oid member => by simp [none oid member]
  rw [scheduled, List.filter_append, nothing, List.nil_append, List.filter_cons, if_pos some]
  rfl

theorem together_of_one (one : (input.scheduled oids).length ≤ 1) (enoughLeases : Oid → Prop) :
    input.Together scheduler oids enoughLeases where
  oneHost := by
    intro first isFirst second isSecond firstIn secondIn
    have isOne := input.plan_scheduled isFirst firstIn
    have isOther := input.plan_scheduled isSecond secondIn
    have same : first.vm = second.vm := by
      obtain ⟨only, isOnly⟩ := List.length_eq_one_iff.1
        (le_antisymm one (List.length_pos_of_mem isOne))
      rw [isOnly, List.mem_singleton] at isOne isOther
      exact isOne.trans isOther.symm
    rw [input.plan_once isFirst isSecond same]
  followers := by
    intro leader rest isLeader action _ _ oid member isPending _
    obtain ⟨vm, isVm, -⟩ := isPending
    have inside : oid ∈ input.scheduled rest := List.mem_filter.2 ⟨member, by simp [isVm]⟩
    rw [input.scheduled_eq isLeader, List.length_cons] at one
    have some := List.length_pos_of_mem inside
    omega

end SchedulerInput

/-- The plan places an affined set as one when at most one of its VMs is to be placed; when more
are, and no host has the leader, the others stay out of the plan. -/
theorem affined_together (scheduler : Scheduler δ) (input : SchedulerInput δ) (group : VMGroupXML)
    (member : group ∈ input.vmgpool.groups) {oids : List Oid} (isSet : oids ∈ group.affinedSets)
    (notRunning : VMGroupXML.affinedHosts input.rolesPool oids = []) (enoughLeases : Oid → Prop) :
    ((input.scheduled oids).length ≤ 1 → input.Together scheduler oids enoughLeases) ∧
      ∀ leader rest, VMGroupXML.leaderOf input.vmpool oids = some (leader, rest) →
        input.Unlisted leader → (∀ oid ∈ rest, ¬group.Leads input.vmpool oid) →
        (∀ action ∈ input.plan scheduler, action.vm ∉ rest) ∧ (input.Together scheduler oids enoughLeases ↔
            ∀ action ∈ input.plan scheduler, action.vm = leader →
              ∀ oid ∈ rest, input.IsPending oid → ¬enoughLeases oid) := by
  refine ⟨fun one => input.together_of_one one enoughLeases, ?_⟩
  intro leader rest isLeader unlisted follow
  have without : ∀ action ∈ input.plan scheduler, action.vm ∉ rest := by
    intro action inPlan inRest
    have inGroup : action.vm ∈ group.vms := by
      obtain ⟨front, isSplit, -⟩ := VMGroupXML.leaderOf_split isLeader
      exact VMGroupXML.affinedSets_subset isSet (by simp [isSplit, inRest])
    refine input.plan_without unlisted ?_ inPlan rfl
    exact doVmGroups_demands member inGroup fun after agree =>
      VMGroupXML.setRequirements_demands isSet notRunning isLeader inRest (follow _ inRest) agree
  refine ⟨without, fun together action inPlan isAction oid inRest isPending enough => ?_, fun fewer => ?_⟩
  · obtain ⟨follower, inPlan', isFollower, -⟩ :=
      together.followers leader rest isLeader action inPlan isAction oid inRest isPending enough
    exact without follower inPlan' (isFollower ▸ inRest)
  · have onlyLeader : ∀ action ∈ input.plan scheduler, action.vm ∈ oids → action.vm = leader := by
      intro action inPlan inside
      have isScheduled := input.plan_scheduled inPlan inside
      rw [input.scheduled_eq isLeader] at isScheduled
      rcases List.mem_cons.mp isScheduled with same | later
      · exact same
      · exact absurd (List.mem_filter.mp later).1 (without action inPlan)
    constructor
    · intro first isFirst second isSecond firstIn secondIn
      rw [input.plan_once isFirst isSecond
        ((onlyLeader first isFirst firstIn).trans (onlyLeader second isSecond secondIn).symm)]
    · intro other rest' isOther action inPlan isAction oid inRest isPending enough
      rw [isLeader, Option.some.injEq, Prod.mk.injEq] at isOther
      obtain ⟨rfl, rfl⟩ := isOther
      exact absurd enough (fewer action inPlan isAction oid inRest isPending)

def twoRole : VMGroupRole where
  id := 0
  name := "affined"
  policy := .affined
  vms := [1, 2]
  ascending := by decide

def twoGroup : VMGroupXML := ⟨[twoRole], [], [], by decide, by decide, by decide⟩

def memberVm : VirtualMachineXML := { plainVm with inRole := true }

def twoInput : SchedulerInput Unit where
  pools :=
    { hosts := AList.singleton 0 (plainHost [] 0 200)
      datastores := AList.singleton 0 (plainDatastore 1000)
      images := ∅
      vnets := ∅
      vms := (AList.singleton 1 memberVm).insert 2 memberVm }
  vmgpool := ⟨[twoGroup], List.pairwise_singleton _ _⟩
  fresh := by decide
  unmatched := by decide

/-- The second VM of the role is not to be placed. -/
def oneInput : SchedulerInput Unit where
  pools := { twoInput.pools with vms := AList.singleton 1 memberVm }
  vmgpool := twoInput.vmgpool
  fresh := twoInput.fresh
  unmatched := by decide

theorem affined_together_one : oneInput.Together plainScheduler twoRole.vms fun _ => True :=
  (affined_together plainScheduler oneInput twoGroup List.mem_cons_self (by decide) (by decide) _).1 (by decide)

def movedInput : SchedulerInput Unit where
  pools :=
    { hosts := (AList.singleton 0 (plainHost [1] 100 200)).insert 1 (plainHost [] 0 200)
      datastores := AList.singleton 0 (plainDatastore 1000)
      images := ∅
      vnets := ∅
      vms := (AList.singleton 1 { memberVm with
        state := 8, resched := true, hid := some 0, dsid := some 0, prereqHosts := [0, 1] }).insert 2
          { memberVm with prereqHosts := [0, 1] } }
  vmgpool := twoInput.vmgpool
  fresh := by decide
  unmatched := by decide

/-- The other VM of a set of pending VMs stays out of the plan, and a VM goes to the host that its
leader leaves. -/
theorem affined_not_together : (VMGroupXML.affinedHosts twoInput.rolesPool twoRole.vms = [] ∧
      ¬twoInput.Together plainScheduler twoRole.vms fun oid =>
        (twoInput.vmpool.lookup oid).all fun vm => vm.nicsIds = []) ∧
    VMGroupXML.affinedHosts movedInput.rolesPool twoRole.vms = [] ∧
      ¬movedInput.Together plainScheduler twoRole.vms fun _ => True := by
  refine ⟨⟨by decide +kernel, fun together => ?_⟩, by decide +kernel, fun together => ?_⟩
  · have without : ∀ action ∈ twoInput.plan plainScheduler, action.vm ≠ 2 := by decide +kernel
    obtain ⟨follower, inPlan, isFollower, -⟩ :=
      together.followers 1 [2] (by decide +kernel) ⟨1, 0, 0, .deploy, []⟩ (by decide +kernel) rfl 2
        List.mem_cons_self ⟨memberVm, rfl, rfl⟩ (by decide +kernel)
    exact without follower inPlan isFollower
  · exact absurd together.oneHost (by decide +kernel)

end OpenNebula.Schedm.Rank
