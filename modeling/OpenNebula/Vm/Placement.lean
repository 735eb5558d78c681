import OpenNebula.Vm.VirtualMachineAPI

namespace OpenNebula.Vm

open Library

/-! # The hosts that hold a machine

Each state of a machine has a place: the hosts whose VM collection holds it.  A migration
holds two hosts while the machine runs on the last one, and every other deployed state
holds the host of the current record.
-/

/-- The hosts that hold a machine; an epilog may start after the host was freed. -/
inductive Place where
  | none
  | current
  | both
  | atMostCurrent
deriving DecidableEq

def LcmState.place : LcmState → Place
  | .migrate | .saveMigrate => .both
  | .epilog | .epilogStop | .epilogUndeploy | .epilogFailure | .epilogStopFailure
  | .epilogUndeployFailure => .atMostCurrent
  | .lcmInit | .cleanupResubmit | .cleanupDelete | .hotplugSaveasUndeployed
  | .hotplugSaveasStopped | .diskResizeUndeployed => .none
  | _ => .current

def VmState.place : VmState → LcmState → Place
  | .poweroff, _ | .suspended, _ => .current
  | .active, lcmState => lcmState.place
  | _, _ => .none

def Place.Holds (hid previousHid : Option Int) (hosts : Finset Int) : Place → Prop
  | .none => hosts = ∅
  | .current => hid.isSome ∧ hosts = hid.toFinset
  | .both => hid.isSome ∧ previousHid.isSome ∧ hosts = hid.toFinset ∪ previousHid.toFinset
  | .atMostCurrent => hosts ⊆ hid.toFinset

/-- The machine moves without a change of hosts. -/
def Place.leadsTo (before after : Place) : Prop :=
  (before ≠ .both ∧ after = before) ∨ (before ≠ .both ∧ after = .atMostCurrent)

instance (before after : Place) : Decidable (before.leadsTo after) :=
  inferInstanceAs (Decidable (_ ∨ _))

theorem Place.Holds.subset {place : Place} {hid previousHid : Option Int} {hosts : Finset Int}
    (holds : place.Holds hid previousHid hosts) (single : place ≠ .both) : hosts ⊆ hid.toFinset := by
  cases place with
  | none => rw [show hosts = ∅ from holds]; exact Finset.empty_subset _
  | current => rw [holds.2]
  | both => exact (single rfl).elim
  | atMostCurrent => exact holds

theorem Place.Holds.leadsTo {before after : Place} {hid previousHid later : Option Int}
    {hosts : Finset Int} (holds : before.Holds hid previousHid hosts)
    (leads : before.leadsTo after) : after.Holds hid later hosts := by
  rcases leads with ⟨single, rfl⟩ | ⟨single, rfl⟩
  · cases after with
    | none | current => exact holds
    | both => exact (single rfl).elim
    | atMostCurrent => exact holds
  · exact holds.subset single

namespace Cloud

variable {cloud before after : Cloud}

/-- The hosts of the machine are those of its place, and only an active machine has a state of
the life-cycle manager. -/
structure WellPlaced (cloud : Cloud) : Prop where
  idle : cloud.vm.state ≠ .active → cloud.vm.lcmState = .lcmInit
  placed : (cloud.vm.state.place cloud.vm.lcmState).Holds cloud.vm.hid cloud.vm.previousHid
    cloud.hosts

variable {lcmState : LcmState}

theorem WellPlaced.active (wellPlaced : cloud.WellPlaced) (inState : cloud.vm.lcmState = lcmState)
    (busy : lcmState ≠ .lcmInit) : cloud.vm.state = .active := by
  by_contra other
  exact busy (inState.symm.trans (wellPlaced.idle other))

theorem WellPlaced.holds (wellPlaced : cloud.WellPlaced) (inState : cloud.vm.lcmState = lcmState)
    (busy : lcmState ≠ .lcmInit) : lcmState.place.Holds cloud.vm.hid cloud.vm.previousHid cloud.hosts := by
  have placed := wellPlaced.placed
  rw [wellPlaced.active inState busy, inState] at placed
  exact placed

theorem WellPlaced.holdsAt (wellPlaced : cloud.WellPlaced) {state : VmState} (inState : cloud.vm.state = state) :
    (state.place cloud.vm.lcmState).Holds cloud.vm.hid cloud.vm.previousHid cloud.hosts := by
  rw [← inState]
  exact wellPlaced.placed

theorem WellPlaced.of_active (lcmState : LcmState) (state : after.vm.state = .active)
    (inState : after.vm.lcmState = lcmState)
    (holds : lcmState.place.Holds after.vm.hid after.vm.previousHid after.hosts) : after.WellPlaced where
  idle other := (other state).elim
  placed := by rw [state, inState]; exact holds

theorem WellPlaced.of_idle {state : VmState} (inState : after.vm.state = state) (idle : after.vm.lcmState = .lcmInit)
    (holds : (state.place .lcmInit).Holds after.vm.hid after.vm.previousHid after.hosts) : after.WellPlaced where
  idle _ := idle
  placed := by rw [inState, idle]; exact holds

theorem WellPlaced.move (wellPlaced : before.WellPlaced) (state : VmState) (lcmState : LcmState)
    (leads : (before.vm.state.place before.vm.lcmState).leadsTo (state.place lcmState))
    (inState : after.vm.state = state) (inLcm : after.vm.lcmState = lcmState)
    (idle : state ≠ .active → lcmState = .lcmInit)
    (hid : after.vm.hid = before.vm.hid) (hosts : after.hosts = before.hosts) : after.WellPlaced where
  idle other := by
    rw [inLcm]
    exact idle (inState ▸ other)
  placed := by
    rw [inState, inLcm, hid, hosts]
    exact wellPlaced.placed.leadsTo leads

theorem WellPlaced.moveLcm (wellPlaced : before.WellPlaced) (next : LcmState)
    (inState : before.vm.lcmState = lcmState) (busy : lcmState ≠ .lcmInit)
    (leads : lcmState.place.leadsTo next.place) (state : after.vm.state = before.vm.state)
    (inNext : after.vm.lcmState = next) (hid : after.vm.hid = before.vm.hid) (hosts : after.hosts = before.hosts) :
    after.WellPlaced := by
  have active := wellPlaced.active inState busy
  refine wellPlaced.move _ _ ?_ (state.trans active) inNext (fun other => (other rfl).elim) hid hosts
  rw [active, inState]
  exact leads

theorem WellPlaced.setLcmState (wellPlaced : cloud.WellPlaced) {next : LcmState}
    (inState : cloud.vm.lcmState = lcmState) (busy : lcmState ≠ .lcmInit)
    (leads : lcmState.place.leadsTo next.place) : (cloud.setLcmState next).WellPlaced :=
  wellPlaced.moveLcm next inState busy leads rfl rfl rfl rfl

theorem WellPlaced.settle (wellPlaced : before.WellPlaced) (inState : before.vm.lcmState = lcmState)
    (busy : lcmState ≠ .lcmInit) (state : VmState) (leads : lcmState.place.leadsTo (state.place .lcmInit))
    (inNext : after.vm.state = state) (idle : after.vm.lcmState = .lcmInit)
    (hid : after.vm.hid = before.vm.hid) (hosts : after.hosts = before.hosts) : after.WellPlaced := by
  refine wellPlaced.move _ _ ?_ inNext idle (fun _ => rfl) hid hosts
  rw [wellPlaced.active inState busy, inState]
  exact leads

section

variable (wellPlaced : cloud.WellPlaced)
include wellPlaced

theorem WellPlaced.triggerSuspendSuccess :
    cloud.triggerSuspendSuccess.WellPlaced := by
  unfold Cloud.triggerSuspendSuccess
  split
  · rename_i accepted
    obtain ⟨active, member⟩ := accepted
    have placed : ∀ lcmState ∈ ([.saveSuspend, .prologMigrateSuspend,
        .prologMigrateSuspendFailure, .diskSnapshotSuspended,
        .diskSnapshotDeleteSuspended] : List LcmState),
        lcmState ≠ .lcmInit ∧ lcmState.place = .current := by decide
    obtain ⟨busy, place⟩ := placed _ member
    exact wellPlaced.settle rfl busy .suspended (by rw [place]; decide) rfl rfl rfl rfl
  · exact wellPlaced

theorem WellPlaced.triggerPoweroffSuccess :
    cloud.triggerPoweroffSuccess.WellPlaced := by
  unfold Cloud.triggerPoweroffSuccess
  split
  · rename_i accepted
    obtain ⟨active, member⟩ := accepted
    have placed : ∀ lcmState ∈ ([.shutdownPoweroff, .hotplugPrologPoweroff,
        .hotplugEpilogPoweroff, .prologMigratePoweroff, .diskSnapshotPoweroff,
        .diskSnapshotRevertPoweroff, .diskSnapshotDeletePoweroff, .diskResizePoweroff,
        .hotplugNicPoweroff, .prologMigratePoweroffFailure] : List LcmState),
        lcmState ≠ .lcmInit ∧ lcmState.place = .current := by decide
    obtain ⟨busy, place⟩ := placed _ member
    exact wellPlaced.settle rfl busy .poweroff (by rw [place]; decide) rfl rfl rfl rfl
  · exact wellPlaced

theorem WellPlaced.triggerStopSuccess (free : cloud.hosts = ∅) :
    cloud.triggerStopSuccess.WellPlaced := by
  unfold Cloud.triggerStopSuccess
  split
  · exact .of_idle rfl rfl free
  · exact wellPlaced

theorem WellPlaced.triggerUndeploySuccess
    (free : cloud.hosts = ∅) : cloud.triggerUndeploySuccess.WellPlaced := by
  unfold Cloud.triggerUndeploySuccess
  split
  · exact .of_idle rfl rfl free
  · exact wellPlaced

end

theorem wellPlaced_freeVmResources (free : cloud.hosts = ∅) : cloud.freeVmResources.WellPlaced :=
  .of_idle rfl rfl free

theorem WellPlaced.triggerDone (wellPlaced : cloud.WellPlaced) (free : cloud.hosts = ∅) :
    cloud.triggerDone.WellPlaced := by
  unfold Cloud.triggerDone
  split
  · exact wellPlaced_freeVmResources free
  · exact wellPlaced

theorem WellPlaced.triggerResubmit (wellPlaced : cloud.WellPlaced) : cloud.triggerResubmit.WellPlaced := by
  unfold Cloud.triggerResubmit
  split
  · rename_i inState
    exact wellPlaced.settle inState (by decide) .pending (by decide) rfl rfl rfl rfl
  · exact wellPlaced

theorem sdiff_previous {hid previousHid : Option Int} (different : hid ≠ previousHid) :
    (hid.toFinset ∪ previousHid.toFinset) \ previousHid.toFinset = hid.toFinset := by
  ext host
  simp only [Finset.mem_sdiff, Finset.mem_union, Option.mem_toFinset, Option.mem_def]
  constructor
  · intro kept
    exact kept.1.resolve_right kept.2
  · intro found
    refine ⟨.inl found, ?_⟩
    intro previous
    exact different (found.trans previous.symm)

theorem delPreviousCapacity_vm : cloud.delPreviousCapacity.vm = cloud.vm := by
  unfold delPreviousCapacity
  split <;> rfl

theorem delPreviousCapacity_hosts (both : cloud.hosts = cloud.vm.hid.toFinset ∪ cloud.vm.previousHid.toFinset) :
    cloud.delPreviousCapacity.hosts = cloud.vm.hid.toFinset := by
  unfold delPreviousCapacity
  split
  · rename_i different
    simp only [delCapacity, both]
    exact sdiff_previous different
  · rename_i same
    rw [both, not_not.1 same, Finset.union_self]

theorem wellPlaced_triggerDeploy (active : cloud.vm.state = .active)
    (deployed : cloud.vm.hid.isSome) (free : cloud.hosts = ∅) : cloud.triggerDeploy.WellPlaced := by
  unfold Cloud.triggerDeploy
  rw [if_pos active]
  have hosts : cloud.hosts ∪ cloud.vm.hid.toFinset = cloud.vm.hid.toFinset := by
    rw [free, Finset.empty_union]
  refine .of_active _ active rfl ?_
  simp only [addCapacity, setLcmState, VirtualMachine.setLcmState]
  split
  · exact ⟨deployed, hosts⟩
  · split
    · exact ⟨deployed, hosts⟩
    · exact ⟨deployed, hosts⟩

theorem WellPlaced.deploy (wellPlaced : cloud.WellPlaced) (request : DeployRequest) :
    (cloud.deploy request).WellPlaced := by
  unfold Cloud.deploy
  split
  · rename_i accepted
    simp only [Bool.and_eq_true, decide_eq_true_eq] at accepted
    have none : ∀ state ∈ ([.pending, .hold, .stopped, .undeployed] : List VmState),
        ∀ lcmState, state.place lcmState = .none := by
      simp [VmState.place]
    have free : cloud.hosts = ∅ := by
      have placed := wellPlaced.placed
      rw [none _ accepted.2] at placed
      exact placed
    split
    · split
      · exact wellPlaced_triggerDeploy rfl rfl free
      · exact wellPlaced
    · exact wellPlaced_triggerDeploy rfl rfl free
  · exact wellPlaced

theorem wellPlaced_triggerMigrate {action : VmAction} (deployed : cloud.vm.hid.isSome)
    (moved : cloud.vm.previousHid.isSome) (last : cloud.hosts = cloud.vm.previousHid.toFinset)
    (ready : cloud.vm.state ∈ [.poweroff, .suspended] ∨
      (cloud.vm.state = .active ∧ cloud.vm.lcmState ∈ [.running, .unknown])) :
    (cloud.triggerMigrate action).WellPlaced := by
  have both : cloud.hosts ∪ cloud.vm.hid.toFinset =
      cloud.vm.hid.toFinset ∪ cloud.vm.previousHid.toFinset := by
    rw [last, Finset.union_comm]
  unfold Cloud.triggerMigrate
  split
  · rename_i running
    refine .of_active .saveMigrate running.1 rfl ?_
    refine ⟨?_, ?_, ?_⟩
    · simpa [updateVm] using deployed
    · simpa [updateVm] using moved
    · simpa [updateVm] using both
  · rename_i elsewhere
    have bypass (lcmState : LcmState) (place : lcmState.place = .current)
        (update : VirtualMachine → VirtualMachine) (hid : ∀ vm, (update vm).hid = vm.hid)
        (state : ∀ vm, (update vm).state = vm.state)
        (inLcm : ∀ vm, (update vm).lcmState = vm.lcmState) :
        (((((cloud.enter .active lcmState).updateVm fun vm =>
          vm.setPreviousEtime.setAction .migrate).addCapacity
            cloud.vm.hid).delPreviousCapacity).updateVm update).WellPlaced := by
      refine .of_active lcmState ?_ ?_ ?_
      · simp only [updateVm, state, delPreviousCapacity_vm]
        rfl
      · simp only [updateVm, inLcm, delPreviousCapacity_vm]
        rfl
      · rw [place]
        simp only [updateVm, hid]
        rw [delPreviousCapacity_vm, delPreviousCapacity_hosts]
        · exact ⟨by simpa using deployed, rfl⟩
        · simpa using both
    split
    · exact bypass .prologMigratePoweroff rfl id (fun _ => rfl) (fun _ => rfl) fun _ => rfl
    · exact bypass .prologMigrateSuspend rfl id (fun _ => rfl) (fun _ => rfl) fun _ => rfl
    · exact bypass .prologMigrateUnknown rfl _ (fun _ => rfl) (fun _ => rfl) fun _ => rfl
    · rename_i notPoweroff notSuspended notUnknown
      exfalso
      rcases ready with idle | ⟨active, member⟩
      · simp only [List.mem_cons, List.not_mem_nil, or_false] at idle
        rcases idle with poweroff | suspended
        · exact notPoweroff poweroff
        · exact notSuspended suspended
      · simp only [List.mem_cons, List.not_mem_nil, or_false] at member
        rcases member with running | unknown
        · exact elsewhere ⟨active, running⟩
        · exact notUnknown active unknown

theorem wellPlaced_triggerLiveMigrate (deployed : cloud.vm.hid.isSome)
    (moved : cloud.vm.previousHid.isSome) (last : cloud.hosts = cloud.vm.previousHid.toFinset)
    (running : cloud.vm.state = .active ∧ cloud.vm.lcmState = .running) : cloud.triggerLiveMigrate.WellPlaced := by
  have both : cloud.hosts ∪ cloud.vm.hid.toFinset =
      cloud.vm.hid.toFinset ∪ cloud.vm.previousHid.toFinset := by
    rw [last, Finset.union_comm]
  unfold Cloud.triggerLiveMigrate
  rw [if_pos running]
  refine .of_active .migrate running.1 rfl ?_
  refine ⟨?_, ?_, ?_⟩
  · simpa using deployed
  · simpa using moved
  · simpa using both

section

variable (wellPlaced : cloud.WellPlaced)
include wellPlaced

theorem WellPlaced.migrate (request : MigrateRequest) : (cloud.migrate request).WellPlaced := by
  unfold Cloud.migrate
  split
  · rename_i admitted
    simp only [admits, Bool.and_eq_true, Bool.or_eq_true, decide_eq_true_eq] at admitted
    obtain ⟨⟨⟨⟨⟨_, _⟩, ready⟩, _⟩, _⟩, _⟩ := admitted
    have current : cloud.vm.state.place cloud.vm.lcmState = .current := by
      rcases ready with idle | ⟨active, member⟩
      · have places : ∀ state ∈ ([.poweroff, .suspended] : List VmState),
            ∀ lcmState, state.place lcmState = .current := by simp [VmState.place]
        exact places _ idle _
      · have places : ∀ lcmState ∈ ([.running, .unknown] : List LcmState),
            lcmState.place = .current := by decide
        rw [active]
        exact places _ member
    have placed := wellPlaced.placed
    rw [current] at placed
    have last : (cloud.vm.addHistory request.hid
        (if request.dsId = -1 then cloud.dsId.getD (-1) else request.dsId)).previousHid =
        cloud.vm.hid :=
      cloud.vm.addHistory_previousHid placed.1
    simp only
    split
    · rename_i live
      simp only [Bool.and_eq_true, decide_eq_true_eq] at live
      have active : cloud.vm.state = .active := wellPlaced.active live.2 (by decide)
      refine wellPlaced_triggerLiveMigrate rfl ?_ ?_ ⟨active, live.2⟩
      · rw [updateVm_vm, last]
        exact placed.1
      · rw [updateVm_vm, last]
        exact placed.2
    · refine wellPlaced_triggerMigrate rfl ?_ ?_ ready
      · rw [updateVm_vm, last]
        exact placed.1
      · rw [updateVm_vm, last]
        exact placed.2
  · exact wellPlaced

theorem WellPlaced.startPrologMigrate
    (inState : cloud.vm.lcmState = .saveMigrate) : cloud.startPrologMigrate.WellPlaced := by
  obtain ⟨deployed, _, both⟩ := wellPlaced.holds inState (by decide)
  refine .of_active .prologMigrate ?_ ?_ ⟨?_, ?_⟩
  · simpa [Cloud.startPrologMigrate, delPreviousCapacity_vm] using
      wellPlaced.active inState (by decide)
  · simp [Cloud.startPrologMigrate, delPreviousCapacity_vm]
  · simpa [Cloud.startPrologMigrate, delPreviousCapacity_vm] using deployed
  · unfold Cloud.startPrologMigrate
    rw [delPreviousCapacity_hosts (by simpa using both), delPreviousCapacity_vm]

theorem WellPlaced.revertMigrateAfterFailure
    (inState : cloud.vm.lcmState = lcmState) (place : lcmState.place = .both) :
    cloud.revertMigrateAfterFailure.WellPlaced := by
  have busy : lcmState ≠ .lcmInit := by
    intro idle
    subst lcmState
    simp [idle, LcmState.place] at place
  have active := wellPlaced.active inState busy
  have placed := wellPlaced.holds inState busy
  rw [place] at placed
  obtain ⟨deployed, moved, both⟩ := placed
  have back : cloud.revertMigrateAfterFailure.vm.hid = cloud.vm.previousHid := by
    unfold Cloud.revertMigrateAfterFailure
    simp only [updateVm_vm]
    split
    · rw [VirtualMachine.cpPreviousHistory_hid _ (by simpa using deployed) (by simpa using moved)]
      simp
    · rw [VirtualMachine.cpPreviousHistory_hid _ (by simpa using deployed) (by simpa using moved)]
      simp
  refine .of_active .running ?_ ?_ ⟨?_, ?_⟩
  · unfold Cloud.revertMigrateAfterFailure
    split <;> simpa using active
  · unfold Cloud.revertMigrateAfterFailure
    split <;> simp
  · rw [back]
    exact moved
  · rw [back]
    unfold Cloud.revertMigrateAfterFailure
    split
    · rename_i different
      simp only [updateVm_hosts, delCapacity_hosts, setLcmState_hosts, both]
      rw [Finset.union_comm]
      exact sdiff_previous (Ne.symm different)
    · rename_i same
      simp only [updateVm_hosts, setLcmState_hosts, both]
      rw [not_not.1 same, Finset.union_self]

theorem WellPlaced.triggerSaveSuccess : cloud.triggerSaveSuccess.WellPlaced := by
  unfold Cloud.triggerSaveSuccess
  split
  · rename_i inState
    exact wellPlaced.startPrologMigrate inState
  · exact wellPlaced.triggerSuspendSuccess
  · rename_i inState
    exact wellPlaced.setLcmState inState (by decide) (by decide)
  · exact wellPlaced

theorem WellPlaced.triggerSaveFailure : cloud.triggerSaveFailure.WellPlaced := by
  unfold Cloud.triggerSaveFailure
  split
  · rename_i inState
    exact wellPlaced.revertMigrateAfterFailure inState rfl
  · rename_i inState
    exact wellPlaced.moveLcm .running inState (by decide) (by decide) rfl rfl
      (by simp) rfl
  · rename_i inState
    exact wellPlaced.moveLcm .running inState (by decide) (by decide) rfl rfl
      (by simp) rfl
  · exact wellPlaced

theorem WellPlaced.triggerDeploySuccess (other : cloud.vm.lcmState = .migrate → cloud.vm.hid ≠ cloud.vm.previousHid) :
    cloud.triggerDeploySuccess.WellPlaced := by
  unfold Cloud.triggerDeploySuccess
  split
  · rename_i inState
    obtain ⟨deployed, _, both⟩ := wellPlaced.holds inState (by decide)
    refine .of_active .running ?_ rfl ⟨?_, ?_⟩
    · simpa using wellPlaced.active inState (by decide)
    · simpa using deployed
    · simp only [setLcmState_hosts, delCapacity_hosts, updateVm_hosts, setLcmState_vm,
        delCapacity_vm, updateVm_vm, VirtualMachine.setLcmState_hid,
        VirtualMachine.setPreviousEtime_hid, both]
      exact sdiff_previous (other inState)
  · split
    · rename_i member
      have places : ∀ lcmState ∈ bootStates,
          lcmState ≠ .lcmInit ∧ lcmState.place.leadsTo LcmState.running.place := by decide
      obtain ⟨busy, leads⟩ := places _ member
      exact wellPlaced.moveLcm .running rfl busy leads rfl rfl (by simp) rfl
    · exact wellPlaced

theorem WellPlaced.triggerDeployFailure : cloud.triggerDeployFailure.WellPlaced := by
  unfold Cloud.triggerDeployFailure
  split
  case h_1 inState => exact wellPlaced.revertMigrateAfterFailure inState rfl
  case h_2 inState | h_3 inState | h_4 inState =>
    exact wellPlaced.setLcmState inState (by decide) (by decide)
  case h_5 inState =>
    exact wellPlaced.settle inState (by decide) .poweroff (by decide) rfl rfl rfl rfl
  case h_6 inState =>
    exact wellPlaced.settle inState (by decide) .suspended (by decide) rfl rfl rfl rfl
  case h_7 inState =>
    exact wellPlaced.moveLcm .bootStoppedFailure inState (by decide) (by decide)
      rfl rfl (by simp) rfl
  case h_8 inState =>
    exact wellPlaced.moveLcm .bootUndeployFailure inState (by decide) (by decide)
      rfl rfl (by simp) rfl
  case h_9 => exact wellPlaced

theorem WellPlaced.triggerShutdownSuccess : cloud.triggerShutdownSuccess.WellPlaced := by
  unfold Cloud.triggerShutdownSuccess
  split
  · rename_i inState
    exact wellPlaced.setLcmState inState (by decide) (by decide)
  · exact wellPlaced.triggerPoweroffSuccess
  · rename_i inState
    exact wellPlaced.setLcmState inState (by decide) (by decide)
  · rename_i inState
    exact wellPlaced.startPrologMigrate inState
  · exact wellPlaced

theorem WellPlaced.triggerShutdownFailure : cloud.triggerShutdownFailure.WellPlaced := by
  have running {lcmState : LcmState} (inState : cloud.vm.lcmState = lcmState)
      (busy : lcmState ≠ .lcmInit) (leads : lcmState.place.leadsTo .current) :
      ((cloud.setLcmState .running).updateVm fun vm => vm.setAction .none).WellPlaced :=
    wellPlaced.moveLcm .running inState busy leads rfl rfl (by simp) rfl
  unfold Cloud.triggerShutdownFailure
  split
  · rename_i inState
    exact running inState (by decide) (by decide)
  · rename_i inState
    exact running inState (by decide) (by decide)
  · rename_i inState
    exact running inState (by decide) (by decide)
  · rename_i inState
    exact wellPlaced.revertMigrateAfterFailure inState rfl
  · exact wellPlaced

theorem WellPlaced.triggerPrologSuccess : cloud.triggerPrologSuccess.WellPlaced := by
  unfold Cloud.triggerPrologSuccess
  split
  case h_1 inState | h_2 inState | h_3 inState | h_4 inState =>
    exact wellPlaced.setLcmState inState (by decide) (by decide)
  case h_5 inState | h_6 inState =>
    split
    · exact wellPlaced.setLcmState inState (by decide) (by decide)
    · exact wellPlaced.setLcmState inState (by decide) (by decide)
  case h_7 inState | h_8 inState | h_9 inState | h_10 inState =>
    exact wellPlaced.setLcmState inState (by decide) (by decide)
  case h_11 | h_12 => exact wellPlaced.triggerPoweroffSuccess
  case h_13 | h_14 => exact wellPlaced.triggerSuspendSuccess
  case h_15 => exact wellPlaced

theorem WellPlaced.revertPrologMigrate {next : LcmState}
    (inState : cloud.vm.lcmState = lcmState) (busy : lcmState ≠ .lcmInit) (place : lcmState.place = .current)
    (back : next.place = .current) : (cloud.revertPrologMigrate next).WellPlaced := by
  have placed := wellPlaced.holds inState busy
  rw [place] at placed
  obtain ⟨deployed, hosts⟩ := placed
  unfold Cloud.revertPrologMigrate
  apply WellPlaced.triggerPrologSuccess
  refine .of_active next ?_ ?_ ?_
  · simpa using wellPlaced.active inState busy
  · simp
  · rw [back]
    refine ⟨?_, ?_⟩
    · exact VirtualMachine.cpPreviousHistory_hid_isSome _ (by simpa using deployed)
    · simp [hosts]

theorem WellPlaced.triggerPrologFailure : cloud.triggerPrologFailure.WellPlaced := by
  unfold Cloud.triggerPrologFailure
  split
  case h_1 inState | h_2 inState | h_3 inState | h_4 inState | h_5 inState | h_6 inState | h_7 inState =>
    exact wellPlaced.setLcmState inState (by decide) (by decide)
  case h_8 inState | h_9 inState | h_10 inState | h_11 inState =>
    exact wellPlaced.revertPrologMigrate inState (by decide) rfl rfl
  case h_12 => exact wellPlaced

theorem WellPlaced.closeEpilog (next : LcmState) (inState : cloud.vm.lcmState = lcmState) (busy : lcmState ≠ .lcmInit)
    (place : lcmState.place = .atMostCurrent) (epilog : next.place = .atMostCurrent) :
    (cloud.closeEpilog next).WellPlaced ∧ (cloud.closeEpilog next).hosts = ∅ := by
  have placed := wellPlaced.holds inState busy
  rw [place] at placed
  have free : (cloud.closeEpilog next).hosts = ∅ := by
    simpa [Cloud.closeEpilog] using Finset.sdiff_eq_empty_iff_subset.2 placed
  refine ⟨.of_active next ?_ rfl ?_, free⟩
  · simpa [Cloud.closeEpilog] using wellPlaced.active inState busy
  · rw [epilog, free]
    exact Finset.empty_subset _

theorem WellPlaced.triggerEpilogSuccess : cloud.triggerEpilogSuccess.WellPlaced := by
  unfold Cloud.triggerEpilogSuccess
  split
  case h_1 inState | h_2 inState =>
    obtain ⟨closed, free⟩ := wellPlaced.closeEpilog .epilogStop inState (by decide) rfl rfl
    exact closed.triggerStopSuccess free
  case h_3 inState | h_4 inState =>
    obtain ⟨closed, free⟩ := wellPlaced.closeEpilog .epilogUndeploy inState (by decide) rfl rfl
    exact closed.triggerUndeploySuccess free
  case h_5 inState | h_6 inState =>
    obtain ⟨closed, free⟩ := wellPlaced.closeEpilog .epilog inState (by decide) rfl rfl
    exact closed.triggerDone free
  case h_7 => exact wellPlaced.triggerResubmit
  case h_8 => exact wellPlaced

theorem WellPlaced.triggerEpilogFailure : cloud.triggerEpilogFailure.WellPlaced := by
  unfold Cloud.triggerEpilogFailure
  split
  · exact wellPlaced.triggerResubmit
  · rename_i inState
    exact wellPlaced.setLcmState inState (by decide) (by decide)
  · rename_i inState
    exact wellPlaced.setLcmState inState (by decide) (by decide)
  · rename_i inState
    exact wellPlaced.setLcmState inState (by decide) (by decide)
  · exact wellPlaced

end

def Exit.fits (lcmState : LcmState) : Exit → Bool
  | .running => lcmState.place = .current
  | .direct state => lcmState.place = state.place .lcmInit && state ≠ .active
  | .poweroffSuccess | .suspendSuccess => true
  | .undeploySuccess => lcmState.place = .none

theorem Operation.exits_fit (operation : Operation) :
    ∀ entry ∈ operation.exits, entry.1 ≠ .lcmInit ∧ entry.2.fits entry.1 = true := by
  cases operation <;> decide

section

variable (wellPlaced : cloud.WellPlaced)
include wellPlaced

theorem WellPlaced.leave {exit : Exit}
    (busy : cloud.vm.lcmState ≠ .lcmInit) (fits : exit.fits cloud.vm.lcmState = true) :
    (cloud.leave exit).WellPlaced := by
  cases exit with
  | running =>
    have place : cloud.vm.lcmState.place = .current := by simpa [Exit.fits] using fits
    exact wellPlaced.setLcmState rfl busy (by rw [place]; decide)
  | direct state =>
    have place : cloud.vm.lcmState.place = state.place .lcmInit ∧ state ≠ .active := by
      simpa [Exit.fits] using fits
    have single : state.place .lcmInit ≠ .both := by cases state <;> decide
    exact wellPlaced.settle rfl busy state (.inl ⟨by rw [place.1]; exact single, place.1.symm⟩)
      rfl rfl rfl rfl
  | poweroffSuccess => exact wellPlaced.triggerPoweroffSuccess
  | suspendSuccess => exact wellPlaced.triggerSuspendSuccess
  | undeploySuccess =>
    have place : cloud.vm.lcmState.place = .none := by simpa [Exit.fits] using fits
    have placed := wellPlaced.holds rfl busy
    rw [place] at placed
    exact wellPlaced.triggerUndeploySuccess placed

theorem WellPlaced.finish (operation : Operation) : (cloud.finish operation.exits).WellPlaced := by
  unfold Cloud.finish
  cases found : operation.exits.lookup cloud.vm.lcmState with
  | none => exact wellPlaced
  | some exit =>
    obtain ⟨busy, fits⟩ := operation.exits_fit _ (lookup_mem found)
    exact wellPlaced.leave busy fits

theorem WellPlaced.clearAttachNic : cloud.clearAttachNic.WellPlaced :=
  ⟨wellPlaced.idle, wellPlaced.placed⟩

theorem WellPlaced.deleteAttachNic : cloud.deleteAttachNic.WellPlaced := by
  unfold Cloud.deleteAttachNic
  split
  · split
    · exact ⟨wellPlaced.idle, wellPlaced.placed⟩
    · exact ⟨wellPlaced.idle, wellPlaced.placed⟩
  · exact ⟨wellPlaced.idle, wellPlaced.placed⟩

theorem WellPlaced.triggerNicKept : cloud.triggerNicKept.WellPlaced := by
  unfold Cloud.triggerNicKept
  split
  · rename_i inState
    exact wellPlaced.clearAttachNic.setLcmState inState (by decide) (by decide)
  · exact wellPlaced.clearAttachNic.triggerPoweroffSuccess
  · exact wellPlaced

theorem WellPlaced.triggerNicDeleted : cloud.triggerNicDeleted.WellPlaced := by
  unfold Cloud.triggerNicDeleted
  split
  · rename_i inState
    exact (wellPlaced.setLcmState inState (by decide) (by decide)).deleteAttachNic
  · exact wellPlaced.deleteAttachNic.triggerPoweroffSuccess
  · exact wellPlaced

theorem WellPlaced.triggerResizeSuccess : cloud.triggerResizeSuccess.WellPlaced := by
  unfold Cloud.triggerResizeSuccess
  split
  · rename_i inState
    exact wellPlaced.moveLcm .running inState (by decide) (by decide) rfl rfl rfl rfl
  · exact wellPlaced

theorem WellPlaced.triggerResizeFailure : cloud.triggerResizeFailure.WellPlaced := by
  unfold Cloud.triggerResizeFailure
  split
  · rename_i inState
    obtain ⟨deployed, hosts⟩ := wellPlaced.holds inState (by decide)
    have active := wellPlaced.active inState (by decide)
    have kept : cloud.hosts \ cloud.vm.hid.toFinset ∪ cloud.vm.hid.toFinset =
        cloud.vm.hid.toFinset := by
      rw [hosts, Finset.sdiff_self, Finset.empty_union]
    simp only
    split
    · exact .of_active .running active rfl ⟨deployed, kept⟩
    · exact .of_active .running active rfl ⟨deployed, kept⟩
  · exact wellPlaced

theorem WellPlaced.triggerDiskLock
    (ready error onHold : Bool) : (cloud.triggerDiskLock ready error onHold).WellPlaced := by
  unfold Cloud.triggerDiskLock
  split
  · rename_i member
    have free : ∀ state ∈ ([.cloning, .cloningFailure] : List VmState),
        state ≠ .active ∧ ∀ lcmState, state.place lcmState = .none := by simp [VmState.place]
    obtain ⟨other, place⟩ := free _ member
    have waits (state : VmState) (none : ∀ lcmState, state.place lcmState = .none) :
        (cloud.enter state cloud.vm.lcmState).WellPlaced :=
      wellPlaced.move _ _ (by rw [place]; exact .inl ⟨by decide, none _⟩) rfl rfl
        (fun _ => wellPlaced.idle other) rfl rfl
    split
    · split
      · exact waits .hold fun _ => rfl
      · exact waits .pending fun _ => rfl
    · split
      · exact waits .cloningFailure fun _ => rfl
      · exact waits .cloning fun _ => rfl
  · exact wellPlaced

end

theorem runs_place : ∀ lcmState ∈ ([.running, .unknown] : List LcmState),
    lcmState ≠ .lcmInit ∧ lcmState.place = .current := by decide

section

variable (wellPlaced : cloud.WellPlaced)
include wellPlaced

theorem WellPlaced.triggerMonitorSuspend :
    cloud.triggerMonitorSuspend.WellPlaced := by
  unfold Cloud.triggerMonitorSuspend
  split
  · rename_i member
    obtain ⟨busy, place⟩ := runs_place _ member
    apply WellPlaced.triggerSuspendSuccess
    exact wellPlaced.moveLcm .saveSuspend rfl busy (by rw [place]; decide) rfl rfl (by simp) rfl
  · exact wellPlaced

theorem WellPlaced.triggerMonitorDone : cloud.triggerMonitorDone.WellPlaced := by
  unfold Cloud.triggerMonitorDone
  split
  · rename_i inState
    exact wellPlaced.setLcmState inState (by decide) (by decide)
  · exact wellPlaced

theorem WellPlaced.triggerMonitorPoweroff :
    cloud.triggerMonitorPoweroff.WellPlaced := by
  unfold Cloud.triggerMonitorPoweroff
  split
  · rename_i member
    obtain ⟨busy, place⟩ := runs_place _ member
    apply WellPlaced.triggerPoweroffSuccess
    exact wellPlaced.moveLcm .shutdownPoweroff rfl busy (by rw [place]; decide) rfl rfl (by simp)
      rfl
  · split
    · exact wellPlaced.triggerShutdownSuccess
    · exact wellPlaced

theorem WellPlaced.triggerMonitorPoweron :
    cloud.triggerMonitorPoweron.WellPlaced := by
  unfold Cloud.triggerMonitorPoweron
  split
  · rename_i member
    have places : ∀ state ∈ ([.poweroff, .suspended] : List VmState),
        ∀ lcmState, state.place lcmState = .current := by simp [VmState.place]
    refine wellPlaced.move .active .running ?_ (by simp) (by simp)
      (fun other => (other rfl).elim) (by simp) rfl
    rw [places _ member]
    decide
  · split
    · split
      · rename_i inState
        exact wellPlaced.setLcmState inState (by decide) (by decide)
      · split
        · rename_i member
          apply wellPlaced.triggerDeploySuccess
          intro migrates
          rw [migrates] at member
          exact absurd member (by decide)
        · exact wellPlaced
    · exact wellPlaced

end

end Cloud

end OpenNebula.Vm
