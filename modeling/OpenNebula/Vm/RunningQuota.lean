import OpenNebula.Vm.VirtualMachineAPI

namespace OpenNebula.Vm

open Library

/-! # The running usage that a machine is charged

Each state of a machine has a bill: the running usage of the machine is charged once or not
at all.  A machine that moves, is backed up or is restored while it is off is the exception.
`is_running_quota` counts it as charged, and the requests that lead there charge nothing.
-/

inductive Bill where
  | charged
  | free
  | either
deriving DecidableEq

def LcmState.bill : LcmState → Bill
  | .hotplugSaveasPoweroff | .hotplugSaveasSuspended | .diskSnapshotPoweroff
  | .diskSnapshotRevertPoweroff | .diskSnapshotDeletePoweroff | .diskSnapshotSuspended
  | .diskSnapshotDeleteSuspended | .diskResizePoweroff | .diskResizeUndeployed
  | .hotplugNicPoweroff | .hotplugSaveasUndeployed | .hotplugSaveasStopped
  | .hotplugPrologPoweroff | .hotplugEpilogPoweroff => .free
  | .prologMigratePoweroff | .prologMigratePoweroffFailure | .prologMigrateSuspend
  | .prologMigrateSuspendFailure | .backupPoweroff | .restore => .either
  | _ => .charged

def VmState.bill : VmState → LcmState → Bill
  | .pending, _ | .hold, _ | .cloning, _ | .cloningFailure, _ => .charged
  | .active, lcmState => lcmState.bill
  | _, _ => .free

def Bill.Allows (quota usage : RunningUsage) : Bill → Prop
  | .charged => usage = quota
  | .free => usage = 0
  | .either => usage = quota ∨ usage = 0

/-- The machine moves without a change of its usage. -/
def Bill.leadsTo (before after : Bill) : Prop := after = before ∨ after = .either

instance Bill.decidableLeadsTo (before after : Bill) : Decidable (before.leadsTo after) :=
  inferInstanceAs (Decidable (_ ∨ _))

theorem Bill.Allows.leadsTo {before after : Bill} {quota usage : RunningUsage}
    (allows : before.Allows quota usage) (leads : before.leadsTo after) : after.Allows quota usage := by
  rcases leads with rfl | rfl
  · exact allows
  · cases before with
    | charged => exact .inl allows
    | free => exact .inr allows
    | either => exact allows

theorem LcmState.isRunningQuota_active (vm : VirtualMachine) (active : vm.state = .active) :
    vm.isRunningQuota = decide (vm.lcmState.bill ≠ .free) := by
  unfold VirtualMachine.isRunningQuota
  rw [active]
  cases vm.lcmState <;> rfl

theorem isRunningQuota_eq (vm : VirtualMachine) : vm.isRunningQuota = decide (vm.state.bill vm.lcmState ≠ .free) := by
  by_cases active : vm.state = .active
  · rw [active]
    exact LcmState.isRunningQuota_active vm active
  · unfold VirtualMachine.isRunningQuota
    cases inState : vm.state <;> simp_all [VmState.bill]

namespace Cloud

variable {cloud before after : Cloud}

@[simp] theorem quotaTemplate_true : cloud.quotaTemplate true = cloud.vm.runningQuota cloud.generic := rfl

@[simp] theorem quotaTemplate_false : cloud.quotaTemplate false = 0 := rfl

def IsCharged (cloud : Cloud) : Prop := cloud.usage .vms ≠ 0

instance (cloud : Cloud) : Decidable cloud.IsCharged := inferInstanceAs (Decidable (¬_))

structure WellBilled (cloud : Cloud) : Prop where
  idle : cloud.vm.state ≠ .active → cloud.vm.lcmState = .lcmInit
  billed : (cloud.vm.state.bill cloud.vm.lcmState).Allows
    (cloud.vm.runningQuota cloud.generic) cloud.usage

variable {lcmState : LcmState}

section

variable (wellBilled : cloud.WellBilled)
include wellBilled

theorem WellBilled.active (inState : cloud.vm.lcmState = lcmState) (busy : lcmState ≠ .lcmInit) :
    cloud.vm.state = .active := by
  by_contra other
  exact busy (inState.symm.trans (wellBilled.idle other))

theorem WellBilled.allows {bill : Bill} (isBill : cloud.vm.state.bill cloud.vm.lcmState = bill) :
    bill.Allows (cloud.vm.runningQuota cloud.generic) cloud.usage := by
  rw [← isBill]
  exact wellBilled.billed

theorem WellBilled.allowsIn (inState : cloud.vm.lcmState = lcmState) (busy : lcmState ≠ .lcmInit) :
    lcmState.bill.Allows (cloud.vm.runningQuota cloud.generic) cloud.usage :=
  wellBilled.allows (by rw [wellBilled.active inState busy, inState]; rfl)

theorem WellBilled.usage_charged (isCharged : cloud.IsCharged) :
    cloud.usage = cloud.vm.runningQuota cloud.generic := by
  have absent (free : cloud.usage = 0) : False := isCharged (congrFun free .vms)
  cases isBill : cloud.vm.state.bill cloud.vm.lcmState with
  | charged => exact wellBilled.allows isBill
  | free => exact (absent (wellBilled.allows isBill)).elim
  | either => exact (wellBilled.allows isBill).resolve_right absent

theorem WellBilled.usage_free (notCharged : ¬cloud.IsCharged) : cloud.usage = 0 := by
  have absent (charged : cloud.usage = cloud.vm.runningQuota cloud.generic) : False := by
    apply notCharged
    rw [IsCharged, charged]
    exact one_ne_zero
  cases isBill : cloud.vm.state.bill cloud.vm.lcmState with
  | charged => exact (absent (wellBilled.allows isBill)).elim
  | free => exact wellBilled.allows isBill
  | either => exact (wellBilled.allows isBill).resolve_left absent

theorem WellBilled.isCharged (isBill : cloud.vm.state.bill cloud.vm.lcmState = .charged) : cloud.IsCharged := by
  rw [IsCharged, show cloud.usage = _ from wellBilled.allows isBill]
  exact one_ne_zero

theorem WellBilled.givenBack (owed : cloud.vm.state.bill cloud.vm.lcmState = .either → cloud.IsCharged) :
    cloud.usage - cloud.quotaTemplate cloud.vm.isRunningQuota = 0 := by
  rw [isRunningQuota_eq]
  cases isBill : cloud.vm.state.bill cloud.vm.lcmState with
  | charged => exact sub_eq_zero_of_eq (wellBilled.allows isBill)
  | free => exact (sub_zero _).trans (wellBilled.allows isBill)
  | either => exact sub_eq_zero_of_eq (wellBilled.usage_charged (owed isBill))

end

theorem WellBilled.of_active (lcmState : LcmState) (state : after.vm.state = .active)
    (inState : after.vm.lcmState = lcmState)
    (allows : lcmState.bill.Allows (after.vm.runningQuota after.generic) after.usage) : after.WellBilled where
  idle other := (other state).elim
  billed := by rw [state, inState]; exact allows

theorem WellBilled.of_idle {state : VmState} (inState : after.vm.state = state) (idle : after.vm.lcmState = .lcmInit)
    (allows : (state.bill .lcmInit).Allows (after.vm.runningQuota after.generic) after.usage) : after.WellBilled where
  idle _ := idle
  billed := by rw [inState, idle]; exact allows

theorem WellBilled.move (wellBilled : before.WellBilled) (state : VmState) (lcmState : LcmState)
    (leads : (before.vm.state.bill before.vm.lcmState).leadsTo (state.bill lcmState))
    (inState : after.vm.state = state) (inLcm : after.vm.lcmState = lcmState)
    (idle : state ≠ .active → lcmState = .lcmInit)
    (quota : after.vm.runningQuota after.generic = before.vm.runningQuota before.generic)
    (usage : after.usage = before.usage) : after.WellBilled where
  idle other := by
    rw [inLcm]
    exact idle (inState ▸ other)
  billed := by
    rw [inState, inLcm, quota, usage]
    exact wellBilled.billed.leadsTo leads

theorem WellBilled.moveLcm (wellBilled : before.WellBilled) (next : LcmState)
    (inState : before.vm.lcmState = lcmState) (busy : lcmState ≠ .lcmInit)
    (leads : lcmState.bill.leadsTo next.bill) (state : after.vm.state = before.vm.state)
    (inNext : after.vm.lcmState = next)
    (quota : after.vm.runningQuota after.generic = before.vm.runningQuota before.generic)
    (usage : after.usage = before.usage) : after.WellBilled := by
  have active := wellBilled.active inState busy
  refine wellBilled.move _ _ ?_ (state.trans active) inNext (fun other => (other rfl).elim) quota
    usage
  rw [active, inState]
  exact leads

theorem WellBilled.setLcmState (wellBilled : cloud.WellBilled) {next : LcmState}
    (inState : cloud.vm.lcmState = lcmState) (busy : lcmState ≠ .lcmInit)
    (leads : lcmState.bill.leadsTo next.bill) : (cloud.setLcmState next).WellBilled :=
  wellBilled.moveLcm next inState busy leads rfl rfl (by simp) rfl

theorem WellBilled.settle (wellBilled : before.WellBilled) (inState : before.vm.lcmState = lcmState)
    (busy : lcmState ≠ .lcmInit) (state : VmState) (leads : lcmState.bill.leadsTo (state.bill .lcmInit))
    (inNext : after.vm.state = state) (idle : after.vm.lcmState = .lcmInit)
    (quota : after.vm.runningQuota after.generic = before.vm.runningQuota before.generic)
    (usage : after.usage = before.usage) : after.WellBilled := by
  refine wellBilled.move _ _ ?_ inNext idle (fun _ => rfl) quota usage
  rw [wellBilled.active inState busy, inState]
  exact leads

section

variable (wellBilled : cloud.WellBilled)
include wellBilled

theorem WellBilled.triggerSuspendSuccess (charged : cloud.vm.lcmState.bill ≠ .charged → cloud.IsCharged) :
    cloud.triggerSuspendSuccess.WellBilled := by
  unfold Cloud.triggerSuspendSuccess
  split
  · rename_i accepted
    have isCharged : cloud.IsCharged := by
      by_cases isBill : cloud.vm.lcmState.bill = .charged
      · exact wellBilled.isCharged (by rw [accepted.1]; exact isBill)
      · exact charged isBill
    exact .of_idle rfl rfl (sub_eq_zero_of_eq (wellBilled.usage_charged isCharged))
  · exact wellBilled

theorem WellBilled.triggerStopSuccess : cloud.triggerStopSuccess.WellBilled := by
  unfold Cloud.triggerStopSuccess
  split
  · rename_i accepted
    have bills : ∀ lcmState ∈ ([.epilogStop, .prologResume] : List LcmState),
        lcmState.bill = .charged := by decide
    have isCharged := wellBilled.isCharged (by rw [accepted.1]; exact bills _ accepted.2)
    exact .of_idle rfl rfl (sub_eq_zero_of_eq (wellBilled.usage_charged isCharged))
  · exact wellBilled

theorem WellBilled.triggerUndeploySuccess : cloud.triggerUndeploySuccess.WellBilled := by
  unfold Cloud.triggerUndeploySuccess
  split
  · rename_i accepted
    have bills : ∀ lcmState ∈ ([.epilogUndeploy, .diskResizeUndeployed,
        .prologUndeploy] : List LcmState), lcmState.bill ≠ .either := by decide
    refine .of_idle rfl rfl (wellBilled.givenBack ?_)
    intro isEither
    rw [accepted.1] at isEither
    exact (bills _ accepted.2 isEither).elim
  · exact wellBilled

theorem WellBilled.triggerPoweroffSuccess (owed : cloud.vm.lcmState.bill = .either → cloud.IsCharged) :
    cloud.triggerPoweroffSuccess.WellBilled := by
  unfold Cloud.triggerPoweroffSuccess
  split
  · rename_i accepted
    refine .of_idle rfl rfl (wellBilled.givenBack ?_)
    rw [accepted.1]
    exact owed
  · exact wellBilled

theorem WellBilled.freeVmResources (owed : cloud.vm.state.bill cloud.vm.lcmState = .either → cloud.IsCharged) :
    cloud.freeVmResources.WellBilled :=
  .of_idle rfl rfl (wellBilled.givenBack owed)

theorem WellBilled.triggerDone : cloud.triggerDone.WellBilled := by
  unfold Cloud.triggerDone
  split
  · rename_i accepted
    have bills : ∀ lcmState ∈ ([.epilog, .cleanupDelete] : List LcmState),
        lcmState.bill ≠ .either := by decide
    apply wellBilled.freeVmResources
    intro isEither
    rw [accepted.1] at isEither
    exact (bills _ accepted.2 isEither).elim
  · exact wellBilled

theorem WellBilled.triggerResubmit : cloud.triggerResubmit.WellBilled := by
  unfold Cloud.triggerResubmit
  split
  · rename_i inState
    exact wellBilled.settle inState (by decide) .pending (by decide) rfl rfl (by simp) rfl
  · exact wellBilled

end

theorem wellBilled_triggerDeploy (active : cloud.vm.state = .active)
    (charged : cloud.usage = cloud.vm.runningQuota cloud.generic) : cloud.triggerDeploy.WellBilled := by
  have deploys (lcmState : LcmState) (isBill : lcmState.bill = .charged) :
      ((cloud.setLcmState lcmState).addCapacity cloud.vm.hid).WellBilled := by
    refine .of_active lcmState active rfl ?_
    rw [isBill]
    simpa [Bill.Allows] using charged
  unfold Cloud.triggerDeploy
  rw [if_pos active]
  simp only
  split
  · exact deploys .prologResume rfl
  · split
    · exact deploys .prologUndeploy rfl
    · exact deploys .prolog rfl

theorem WellBilled.deploy (wellBilled : cloud.WellBilled) (request : DeployRequest) :
    (cloud.deploy request).WellBilled := by
  unfold Cloud.deploy
  split
  · rename_i accepted
    simp only [Bool.and_eq_true, decide_eq_true_eq] at accepted
    split
    · rename_i member
      split
      · have bills : ∀ state ∈ ([.stopped, .undeployed] : List VmState),
            ∀ lcmState, state.bill lcmState = .free := by simp [VmState.bill]
        have free : cloud.usage = 0 := wellBilled.allows (bills _ member _)
        apply wellBilled_triggerDeploy rfl
        simp [free]
      · exact wellBilled
    · rename_i others
      have bills : ∀ state ∈ ([.pending, .hold, .stopped, .undeployed] : List VmState),
          state ∉ ([.stopped, .undeployed] : List VmState) →
            ∀ lcmState, state.bill lcmState = .charged := by simp [VmState.bill]
      have charged : cloud.usage = cloud.vm.runningQuota cloud.generic :=
        wellBilled.allows (bills _ accepted.2 others _)
      apply wellBilled_triggerDeploy rfl
      simpa using charged
  · exact wellBilled

theorem delPreviousCapacity_keeps (cloud : Cloud) : cloud.delPreviousCapacity.vm = cloud.vm ∧
    cloud.delPreviousCapacity.usage = cloud.usage ∧ cloud.delPreviousCapacity.generic = cloud.generic := by
  unfold delPreviousCapacity
  split <;> exact ⟨rfl, rfl, rfl⟩

section

variable (wellBilled : cloud.WellBilled)
include wellBilled

theorem WellBilled.delPreviousCapacity : cloud.delPreviousCapacity.WellBilled := by
  obtain ⟨vm, usage, generic⟩ := cloud.delPreviousCapacity_keeps
  refine ⟨?_, ?_⟩
  · rw [vm]
    exact wellBilled.idle
  · rw [vm, usage, generic]
    exact wellBilled.billed

theorem WellBilled.updateVm {update : VirtualMachine → VirtualMachine} (state : ∀ vm, (update vm).state = vm.state)
    (inLcm : ∀ vm, (update vm).lcmState = vm.lcmState)
    (quota : ∀ vm generic, (update vm).runningQuota generic = vm.runningQuota generic) :
    (cloud.updateVm update).WellBilled := by
  refine ⟨?_, ?_⟩
  · simpa [state, inLcm] using wellBilled.idle
  · simpa [state, inLcm, quota] using wellBilled.billed

theorem WellBilled.triggerMigrate (action : VmAction) : (cloud.triggerMigrate action).WellBilled := by
  unfold Cloud.triggerMigrate
  split
  · rename_i running
    exact wellBilled.moveLcm .saveMigrate running.2 (by decide) (by decide) rfl rfl (by simp) rfl
  · have bypass (lcmState : LcmState)
        (leads : (cloud.vm.state.bill cloud.vm.lcmState).leadsTo lcmState.bill) :
        ((((cloud.enter .active lcmState).updateVm fun vm =>
          vm.setPreviousEtime.setAction .migrate).addCapacity
            cloud.vm.hid).delPreviousCapacity).WellBilled := by
      apply WellBilled.delPreviousCapacity
      exact wellBilled.move .active lcmState leads rfl rfl (fun other => (other rfl).elim) (by simp)
        rfl
    simp only
    split
    · rename_i inState
      exact bypass .prologMigratePoweroff (.inr rfl)
    · rename_i inState
      exact bypass .prologMigrateSuspend (.inr rfl)
    · rename_i inState inLcm
      refine (bypass .prologMigrateUnknown ?_).updateVm (fun _ => rfl) (fun _ => rfl) (by simp)
      rw [inState, inLcm]
      decide
    · exact wellBilled

theorem WellBilled.triggerLiveMigrate : cloud.triggerLiveMigrate.WellBilled := by
  unfold Cloud.triggerLiveMigrate
  split
  · rename_i running
    exact wellBilled.moveLcm .migrate running.2 (by decide) (by decide) rfl rfl (by simp) rfl
  · exact wellBilled

theorem WellBilled.migrate (request : MigrateRequest) : (cloud.migrate request).WellBilled := by
  unfold Cloud.migrate
  split
  · have moved (dsId : Int) :
        (cloud.updateVm fun vm => vm.addHistory request.hid dsId).WellBilled :=
      wellBilled.updateVm (fun _ => rfl) (fun _ => rfl) (by simp)
    simp only
    split
    · exact (moved _).triggerLiveMigrate
    · exact (moved _).triggerMigrate _
  · exact wellBilled

theorem WellBilled.startPrologMigrate
    (inState : cloud.vm.lcmState = .saveMigrate) : cloud.startPrologMigrate.WellBilled := by
  unfold Cloud.startPrologMigrate
  apply WellBilled.delPreviousCapacity
  exact wellBilled.moveLcm .prologMigrate inState (by decide) (by decide) rfl rfl (by simp) rfl

theorem WellBilled.revertMigrateAfterFailure
    (inState : cloud.vm.lcmState = lcmState) (busy : lcmState ≠ .lcmInit) (isBill : lcmState.bill = .charged) :
    cloud.revertMigrateAfterFailure.WellBilled := by
  have leads : lcmState.bill.leadsTo LcmState.running.bill := .inl isBill.symm
  unfold Cloud.revertMigrateAfterFailure
  simp only
  split
  · exact wellBilled.moveLcm .running inState busy leads (by simp) (by simp) (by simp) rfl
  · exact wellBilled.moveLcm .running inState busy leads (by simp) (by simp) (by simp) rfl

theorem WellBilled.triggerSaveSuccess : cloud.triggerSaveSuccess.WellBilled := by
  unfold Cloud.triggerSaveSuccess
  split
  · rename_i inState
    exact wellBilled.startPrologMigrate inState
  · rename_i inState
    apply wellBilled.triggerSuspendSuccess
    intro other
    exact (other (by rw [inState]; rfl)).elim
  · rename_i inState
    exact wellBilled.setLcmState inState (by decide) (by decide)
  · exact wellBilled

theorem WellBilled.keepsRunning (inState : cloud.vm.lcmState = lcmState)
    (busy : lcmState ≠ .lcmInit) (leads : lcmState.bill.leadsTo .charged) :
    ((cloud.setLcmState .running).updateVm fun vm => vm.setAction .none).WellBilled :=
  wellBilled.moveLcm .running inState busy leads rfl rfl (by simp) rfl

theorem WellBilled.triggerSaveFailure : cloud.triggerSaveFailure.WellBilled := by
  unfold Cloud.triggerSaveFailure
  split
  · rename_i inState
    exact wellBilled.revertMigrateAfterFailure inState (by decide) rfl
  · rename_i inState
    exact wellBilled.keepsRunning inState (by decide) (by decide)
  · rename_i inState
    exact wellBilled.keepsRunning inState (by decide) (by decide)
  · exact wellBilled

theorem WellBilled.triggerDeploySuccess : cloud.triggerDeploySuccess.WellBilled := by
  unfold Cloud.triggerDeploySuccess
  split
  · rename_i inState
    exact wellBilled.moveLcm .running inState (by decide) (by decide) rfl rfl (by simp) rfl
  · split
    · rename_i member
      have bills : ∀ lcmState ∈ bootStates,
          lcmState ≠ .lcmInit ∧ lcmState.bill.leadsTo LcmState.running.bill := by decide
      obtain ⟨busy, leads⟩ := bills _ member
      exact wellBilled.moveLcm .running rfl busy leads rfl rfl (by simp) rfl
    · exact wellBilled

/-- A machine that was off goes back without giving its usage back. -/
def KeepsDeployFailure (cloud : Cloud) : Prop :=
  cloud.vm.lcmState ∉ [.bootPoweroff, .bootSuspended]

theorem WellBilled.triggerDeployFailure
    (keeps : cloud.KeepsDeployFailure) : cloud.triggerDeployFailure.WellBilled := by
  unfold Cloud.triggerDeployFailure
  split
  case h_1 inState => exact wellBilled.revertMigrateAfterFailure inState (by decide) rfl
  case h_2 inState | h_3 inState | h_4 inState => exact wellBilled.setLcmState inState (by decide) (by decide)
  case h_5 inState | h_6 inState => exact (keeps (by rw [inState]; decide)).elim
  case h_7 inState =>
    exact wellBilled.moveLcm .bootStoppedFailure inState (by decide) (by decide)
      rfl rfl (by simp) rfl
  case h_8 inState =>
    exact wellBilled.moveLcm .bootUndeployFailure inState (by decide) (by decide)
      rfl rfl (by simp) rfl
  case h_9 => exact wellBilled

theorem WellBilled.triggerShutdownSuccess : cloud.triggerShutdownSuccess.WellBilled := by
  unfold Cloud.triggerShutdownSuccess
  split
  · rename_i inState
    exact wellBilled.setLcmState inState (by decide) (by decide)
  · rename_i inState
    apply wellBilled.triggerPoweroffSuccess
    intro isEither
    rw [inState] at isEither
    cases isEither
  · rename_i inState
    exact wellBilled.setLcmState inState (by decide) (by decide)
  · rename_i inState
    exact wellBilled.startPrologMigrate inState
  · exact wellBilled

theorem WellBilled.triggerShutdownFailure : cloud.triggerShutdownFailure.WellBilled := by
  unfold Cloud.triggerShutdownFailure
  split
  · rename_i inState
    exact wellBilled.keepsRunning inState (by decide) (by decide)
  · rename_i inState
    exact wellBilled.keepsRunning inState (by decide) (by decide)
  · rename_i inState
    exact wellBilled.keepsRunning inState (by decide) (by decide)
  · rename_i inState
    exact wellBilled.revertMigrateAfterFailure inState (by decide) rfl
  · exact wellBilled

/-- The states in which a prolog ends with the usage given back: after a success, and after a
failure that brings the machine back to the last host -/
def movedOff : Bool → List LcmState
  | true =>
    [.prologMigratePoweroff, .prologMigratePoweroffFailure, .prologMigrateSuspend, .prologMigrateSuspendFailure]
  | false => [.prologMigratePoweroffFailure, .prologMigrateSuspendFailure]

def KeepsProlog (cloud : Cloud) (success : Bool) : Prop :=
  cloud.vm.lcmState ∈ movedOff success → cloud.IsCharged

theorem WellBilled.triggerPrologSuccess (keeps : cloud.KeepsProlog true) : cloud.triggerPrologSuccess.WellBilled := by
  have movedOff {lcmState : LcmState} (inState : cloud.vm.lcmState = lcmState)
      (member : lcmState ∈ movedOff true) : cloud.IsCharged :=
    keeps (by rw [inState]; exact member)
  unfold Cloud.triggerPrologSuccess
  split
  case h_1 inState | h_2 inState | h_3 inState | h_4 inState =>
    exact wellBilled.setLcmState inState (by decide) (by decide)
  case h_5 inState | h_6 inState =>
    split
    · exact wellBilled.setLcmState inState (by decide) (by decide)
    · exact wellBilled.setLcmState inState (by decide) (by decide)
  case h_7 inState | h_8 inState | h_9 inState | h_10 inState =>
    exact wellBilled.setLcmState inState (by decide) (by decide)
  case h_11 inState | h_12 inState =>
    exact wellBilled.triggerPoweroffSuccess fun _ => movedOff inState (by decide)
  case h_13 inState | h_14 inState =>
    exact wellBilled.triggerSuspendSuccess fun _ => movedOff inState (by decide)
  case h_15 => exact wellBilled

theorem WellBilled.revertPrologMigrate (next : LcmState)
    (inState : cloud.vm.lcmState = lcmState) (busy : lcmState ≠ .lcmInit)
    (leads : lcmState.bill.leadsTo next.bill) (keeps : next ∈ movedOff true → cloud.IsCharged) :
    (cloud.revertPrologMigrate next).WellBilled := by
  unfold Cloud.revertPrologMigrate
  apply WellBilled.triggerPrologSuccess
  · exact wellBilled.moveLcm next inState busy leads (by simp) (by simp) (by simp) rfl
  · intro member
    apply keeps
    simpa using member

theorem WellBilled.triggerPrologFailure
    (keeps : cloud.KeepsProlog false) : cloud.triggerPrologFailure.WellBilled := by
  unfold Cloud.triggerPrologFailure
  split
  case h_1 inState | h_2 inState | h_3 inState | h_4 inState | h_5 inState | h_6 inState | h_7 inState =>
    exact wellBilled.setLcmState inState (by decide) (by decide)
  case h_8 inState =>
    exact wellBilled.revertPrologMigrate .prologMigrate inState (by decide) (by decide)
      fun member => absurd member (by decide)
  case h_9 inState =>
    exact wellBilled.revertPrologMigrate .prologMigratePoweroff inState (by decide) (by decide)
      fun _ => keeps (by rw [inState]; decide)
  case h_10 inState =>
    exact wellBilled.revertPrologMigrate .prologMigrateSuspend inState (by decide) (by decide)
      fun _ => keeps (by rw [inState]; decide)
  case h_11 inState =>
    exact wellBilled.revertPrologMigrate .prologMigrateUnknown inState (by decide) (by decide)
      fun member => absurd member (by decide)
  case h_12 => exact wellBilled

theorem WellBilled.closeEpilog (next : LcmState) (inState : cloud.vm.lcmState = lcmState) (busy : lcmState ≠ .lcmInit)
    (leads : lcmState.bill.leadsTo next.bill) : (cloud.closeEpilog next).WellBilled :=
  wellBilled.moveLcm next inState busy leads rfl rfl (by simp [Cloud.closeEpilog]) rfl

theorem WellBilled.triggerEpilogSuccess : cloud.triggerEpilogSuccess.WellBilled := by
  unfold Cloud.triggerEpilogSuccess
  split
  case h_1 inState | h_2 inState =>
    exact (wellBilled.closeEpilog .epilogStop inState (by decide) (by decide)).triggerStopSuccess
  case h_3 inState | h_4 inState =>
    exact (wellBilled.closeEpilog .epilogUndeploy inState (by decide) (by decide)).triggerUndeploySuccess
  case h_5 inState | h_6 inState =>
    exact (wellBilled.closeEpilog .epilog inState (by decide) (by decide)).triggerDone
  case h_7 => exact wellBilled.triggerResubmit
  case h_8 => exact wellBilled

theorem WellBilled.triggerEpilogFailure : cloud.triggerEpilogFailure.WellBilled := by
  unfold Cloud.triggerEpilogFailure
  split
  · exact wellBilled.triggerResubmit
  · rename_i inState
    exact wellBilled.setLcmState inState (by decide) (by decide)
  · rename_i inState
    exact wellBilled.setLcmState inState (by decide) (by decide)
  · rename_i inState
    exact wellBilled.setLcmState inState (by decide) (by decide)
  · exact wellBilled

end

def Exit.settles (lcmState : LcmState) : Exit → Bool
  | .running => lcmState.bill = .charged
  | .direct state => lcmState.bill ≠ .charged && state.bill .lcmInit = .free && state ≠ .active
  | .poweroffSuccess => lcmState.bill = .free
  | .suspendSuccess => lcmState ∈ [.diskSnapshotSuspended, .diskSnapshotDeleteSuspended]
  | .undeploySuccess => true

theorem Operation.exits_settle (operation : Operation) :
    ∀ entry ∈ operation.exits, entry.1 ≠ .lcmInit ∧ entry.2.settles entry.1 = true := by
  cases operation <;> decide

/-- A snapshot of a suspended machine gives back what was not charged, and a backup or a
restore of a machine that is off does not give back what was. -/
def KeepsOperation (cloud : Cloud) : Operation → Prop
  | .diskSnapshot =>
    cloud.vm.lcmState ∉ [.diskSnapshotSuspended, .diskSnapshotDeleteSuspended]
  | .backup => cloud.vm.lcmState = .backupPoweroff → ¬cloud.IsCharged
  | .diskRestore => cloud.vm.lcmState = .restore → ¬cloud.IsCharged
  | _ => True

theorem Operation.exits_suspend (operation : Operation) : ∀ entry ∈ operation.exits,
    entry.2 = .suspendSuccess → operation = .diskSnapshot := by
  cases operation <;> decide

theorem Operation.exits_either (operation : Operation) : ∀ entry ∈ operation.exits,
    entry.1.bill = .either → (operation = .backup ∧ entry.1 = .backupPoweroff) ∨
      (operation = .diskRestore ∧ entry.1 = .restore) := by
  cases operation <;> decide

theorem WellBilled.leave (wellBilled : cloud.WellBilled) {exit : Exit}
    (busy : cloud.vm.lcmState ≠ .lcmInit) (settles : exit.settles cloud.vm.lcmState = true)
    (keeps : exit ≠ .suspendSuccess) (notCharged : cloud.vm.lcmState.bill = .either → ¬cloud.IsCharged) :
    (cloud.leave exit).WellBilled := by
  cases exit with
  | running =>
    have isBill : cloud.vm.lcmState.bill = .charged := by simpa [Exit.settles] using settles
    exact wellBilled.setLcmState rfl busy (by rw [isBill]; decide)
  | direct state =>
    simp only [Exit.settles, Bool.and_eq_true, decide_eq_true_eq] at settles
    obtain ⟨⟨notOwed, isFree⟩, _⟩ := settles
    have billed := wellBilled.allowsIn rfl busy
    have free : cloud.usage = 0 := by
      cases isBill : cloud.vm.lcmState.bill with
      | charged => exact (notOwed isBill).elim
      | free =>
        rw [isBill] at billed
        exact billed
      | either => exact wellBilled.usage_free (notCharged isBill)
    have inState : (cloud.leave (.direct state)).vm.state = state := rfl
    refine .of_idle inState rfl ?_
    rw [isFree]
    exact free
  | poweroffSuccess =>
    have isBill : cloud.vm.lcmState.bill = .free := by simpa [Exit.settles] using settles
    apply wellBilled.triggerPoweroffSuccess
    intro isEither
    rw [isBill] at isEither
    cases isEither
  | suspendSuccess => exact (keeps rfl).elim
  | undeploySuccess => exact wellBilled.triggerUndeploySuccess

theorem WellBilled.finish (wellBilled : cloud.WellBilled) (operation : Operation)
    (keeps : cloud.KeepsOperation operation) : (cloud.finish operation.exits).WellBilled := by
  unfold Cloud.finish
  cases found : operation.exits.lookup cloud.vm.lcmState with
  | none => exact wellBilled
  | some exit =>
    have member := lookup_mem found
    obtain ⟨busy, settles⟩ := operation.exits_settle _ member
    refine wellBilled.leave busy settles ?_ ?_
    · intro suspends
      obtain rfl := operation.exits_suspend _ member suspends
      rw [suspends] at settles
      exact keeps (by simpa [Exit.settles] using settles)
    · intro isEither
      rcases operation.exits_either _ member isEither with ⟨rfl, inState⟩ | ⟨rfl, inState⟩
      · exact keeps inState
      · exact keeps inState

theorem WellBilled.clearAttachNic (wellBilled : cloud.WellBilled) : cloud.clearAttachNic.WellBilled :=
  wellBilled.updateVm (fun _ => rfl) (fun _ => rfl)
    fun _ _ => funext fun metric => by cases metric <;> rfl

theorem runningQuota_withNic (vm : VirtualMachine) (attachNic : Option Bool) (generic : List String) :
    { vm with attachNic, pciNic := vm.pciNic + 1 }.runningQuota generic =
      vm.runningQuota generic + oneNic := by
  funext metric
  cases metric <;> simp [VirtualMachine.runningQuota, oneNic]

theorem runningQuota_withoutNic (vm : VirtualMachine) (attachNic : Option Bool) (generic : List String) :
    { vm with attachNic, pciNic := vm.pciNic - 1 }.runningQuota generic =
      vm.runningQuota generic - oneNic := by
  funext metric
  cases metric <;> simp [VirtualMachine.runningQuota, oneNic]

theorem WellBilled.deleteAttachNic (wellBilled : cloud.WellBilled)
    (settled : cloud.vm.state.bill cloud.vm.lcmState ≠ .either) : cloud.deleteAttachNic.WellBilled := by
  unfold Cloud.deleteAttachNic
  split
  · rw [isRunningQuota_eq]
    cases isBill : cloud.vm.state.bill cloud.vm.lcmState with
    | charged =>
      have charged : cloud.usage = cloud.vm.runningQuota cloud.generic := wellBilled.allows isBill
      refine ⟨wellBilled.idle, ?_⟩
      simp [isBill, Bill.Allows, runningQuota_withoutNic, charged]
    | free =>
      have free : cloud.usage = 0 := wellBilled.allows isBill
      refine ⟨wellBilled.idle, ?_⟩
      simp [isBill, Bill.Allows, free]
    | either => exact (settled isBill).elim
  · exact wellBilled.clearAttachNic

theorem WellBilled.triggerNicKept (wellBilled : cloud.WellBilled) : cloud.triggerNicKept.WellBilled := by
  unfold Cloud.triggerNicKept
  split
  · rename_i inState
    exact wellBilled.clearAttachNic.setLcmState inState (by decide) (by decide)
  · rename_i inState
    apply wellBilled.clearAttachNic.triggerPoweroffSuccess
    intro isEither
    rw [show cloud.clearAttachNic.vm.lcmState = .hotplugNicPoweroff from inState] at isEither
    cases isEither
  · exact wellBilled

theorem WellBilled.triggerNicDeleted (wellBilled : cloud.WellBilled) : cloud.triggerNicDeleted.WellBilled := by
  unfold Cloud.triggerNicDeleted
  split
  · rename_i inState
    apply (wellBilled.setLcmState inState (by decide) (by decide)).deleteAttachNic
    rw [show (cloud.setLcmState .running).vm.state = .active from
      wellBilled.active inState (by decide)]
    exact fun isEither => nomatch isEither
  · rename_i inState
    have active := wellBilled.active inState (by decide)
    have deleted : cloud.deleteAttachNic.WellBilled := wellBilled.deleteAttachNic (by rw [active, inState]; decide)
    apply deleted.triggerPoweroffSuccess
    intro isEither
    have sameLcm : cloud.deleteAttachNic.vm.lcmState = cloud.vm.lcmState := by
      unfold Cloud.deleteAttachNic
      split
      · split <;> rfl
      · rfl
    rw [sameLcm, inState] at isEither
    cases isEither
  · exact wellBilled

/-- Each amount of the resize is the old one or is not ignored. -/
def Restores (cloud : Cloud) (new : Capacity) : Prop :=
  (new.cpu = cloud.vm.cpu ∨ 0 < new.cpu) ∧ (new.memory = cloud.vm.memory ∨ 0 < new.memory) ∧
  ("VCPU" ∈ cloud.generic → new.vcpu = cloud.vm.amount "VCPU" ∨ 0 < new.vcpu)

instance (cloud : Cloud) (new : Capacity) : Decidable (cloud.Restores new) :=
  inferInstanceAs (Decidable (_ ∧ _))

theorem kept_or_new {old new : Rat} (restores : new = old ∨ 0 < new) : (if 0 < new then new else old) = new := by
  split
  · rfl
  · rename_i ignored
    exact (restores.resolve_right ignored).symm

theorem runningQuota_resize {new : Capacity} (restores : cloud.Restores new) :
    (cloud.vm.resize new).runningQuota cloud.generic =
      cloud.vm.runningQuota cloud.generic + cloud.resizeDeltas cloud.vm.capacity new := by
  obtain ⟨cpu, memory, vcpu⟩ := restores
  funext metric
  cases metric with
  | memory =>
    simp [VirtualMachine.runningQuota, VirtualMachine.resize, resizeDeltas,
      VirtualMachine.capacity, kept_or_new memory]
  | cpu =>
    simp [VirtualMachine.runningQuota, VirtualMachine.resize, resizeDeltas, VirtualMachine.capacity, kept_or_new cpu]
  | vms => simp [VirtualMachine.runningQuota, resizeDeltas]
  | pciDev | pciNic => simp [VirtualMachine.runningQuota, VirtualMachine.resize, resizeDeltas]
  | generic name =>
    by_cases member : name ∈ cloud.generic
    · by_cases isVcpu : name = "VCPU"
      · subst name
        simp [VirtualMachine.runningQuota, VirtualMachine.resize, resizeDeltas, member,
          VirtualMachine.capacity, kept_or_new (vcpu member)]
      · simp [VirtualMachine.runningQuota, VirtualMachine.resize, resizeDeltas, member, isVcpu]
    · simp [VirtualMachine.runningQuota, resizeDeltas, member]

theorem resizeDeltas_swap (old new : Capacity) : cloud.resizeDeltas old new = -cloud.resizeDeltas new old := by
  funext metric
  cases metric with
  | memory | cpu | vms | pciDev | pciNic => simp [resizeDeltas]
  | generic name =>
    simp only [resizeDeltas, Pi.neg_apply]
    split
    · exact (neg_sub _ _).symm
    · exact neg_zero.symm

theorem WellBilled.triggerResizeSuccess (wellBilled : cloud.WellBilled) : cloud.triggerResizeSuccess.WellBilled := by
  unfold Cloud.triggerResizeSuccess
  split
  · rename_i inState
    refine wellBilled.moveLcm .running inState (by decide) (by decide) rfl rfl ?_ rfl
    funext metric
    cases metric <;> rfl
  · exact wellBilled

def KeepsResizeFailure (cloud : Cloud) : Prop :=
  cloud.vm.lcmState = .hotplugResize → ∀ old ∈ cloud.vm.resizeAttribute, cloud.Restores old

theorem WellBilled.triggerResizeFailure (wellBilled : cloud.WellBilled)
    (keeps : cloud.KeepsResizeFailure) : cloud.triggerResizeFailure.WellBilled := by
  unfold Cloud.triggerResizeFailure
  split
  · rename_i inState
    have active := wellBilled.active inState (by decide)
    have charged : cloud.usage = cloud.vm.runningQuota cloud.generic := wellBilled.allowsIn inState (by decide)
    simp only
    split
    · exact .of_active .running active rfl (by simpa [LcmState.bill, Bill.Allows] using charged)
    · rename_i old isOld
      refine .of_active .running active rfl ?_
      have restored : (cloud.vm.resize old).runningQuota cloud.generic =
          cloud.usage - cloud.resizeDeltas old cloud.vm.capacity := by
        rw [runningQuota_resize (keeps inState old isOld), charged, resizeDeltas_swap, sub_eq_add_neg]
      refine Eq.trans ?_ (restored.symm.trans ?_)
      · rfl
      · funext metric
        cases metric <;> rfl
  · exact wellBilled

theorem WellBilled.triggerDiskLock (wellBilled : cloud.WellBilled)
    (ready error onHold : Bool) : (cloud.triggerDiskLock ready error onHold).WellBilled := by
  unfold Cloud.triggerDiskLock
  split
  · rename_i member
    have bills : ∀ state ∈ ([.cloning, .cloningFailure] : List VmState),
        state ≠ .active ∧ ∀ lcmState, state.bill lcmState = .charged := by simp [VmState.bill]
    obtain ⟨other, isBill⟩ := bills _ member
    have waits (state : VmState) (charged : ∀ lcmState, state.bill lcmState = .charged) :
        (cloud.enter state cloud.vm.lcmState).WellBilled :=
      wellBilled.move _ _ (by rw [isBill]; exact .inl (charged _)) rfl rfl
        (fun _ => wellBilled.idle other) (by simp) rfl
    split
    · split
      · exact waits .hold fun _ => rfl
      · exact waits .pending fun _ => rfl
    · split
      · exact waits .cloningFailure fun _ => rfl
      · exact waits .cloning fun _ => rfl
  · exact wellBilled

theorem runs_bill : ∀ lcmState ∈ ([.running, .unknown] : List LcmState),
    lcmState ≠ .lcmInit ∧ lcmState.bill = .charged := by decide

theorem WellBilled.triggerMonitorSuspend (wellBilled : cloud.WellBilled) :
    cloud.triggerMonitorSuspend.WellBilled := by
  unfold Cloud.triggerMonitorSuspend
  split
  · rename_i member
    obtain ⟨busy, isBill⟩ := runs_bill _ member
    apply WellBilled.triggerSuspendSuccess
    · exact wellBilled.moveLcm .saveSuspend rfl busy (by rw [isBill]; decide) rfl rfl (by simp) rfl
    · intro other
      exact (other rfl).elim
  · exact wellBilled

theorem WellBilled.triggerMonitorDone (wellBilled : cloud.WellBilled) : cloud.triggerMonitorDone.WellBilled := by
  unfold Cloud.triggerMonitorDone
  split
  · rename_i inState
    exact wellBilled.setLcmState inState (by decide) (by decide)
  · exact wellBilled

theorem WellBilled.triggerMonitorPoweroff (wellBilled : cloud.WellBilled) :
    cloud.triggerMonitorPoweroff.WellBilled := by
  unfold Cloud.triggerMonitorPoweroff
  split
  · rename_i member
    obtain ⟨busy, isBill⟩ := runs_bill _ member
    apply WellBilled.triggerPoweroffSuccess
    · exact wellBilled.moveLcm .shutdownPoweroff rfl busy (by rw [isBill]; decide) rfl rfl
        (by simp) rfl
    · intro isEither
      cases isEither
  · split
    · exact wellBilled.triggerShutdownSuccess
    · exact wellBilled

theorem WellBilled.charge (wellBilled : before.WellBilled) (lcmState : LcmState)
    (isFree : before.vm.state.bill before.vm.lcmState = .free)
    (charged : lcmState.bill = .charged) (active : after.vm.state = .active) (inLcm : after.vm.lcmState = lcmState)
    (quota : after.vm.runningQuota after.generic = before.vm.runningQuota before.generic)
    (usage : after.usage = before.usage + before.vm.runningQuota before.generic) : after.WellBilled := by
  refine .of_active lcmState active inLcm ?_
  have free : before.usage = 0 := wellBilled.allows isFree
  rw [charged, usage, quota, free]
  exact zero_add _

theorem WellBilled.triggerMonitorPoweron (wellBilled : cloud.WellBilled) :
    cloud.triggerMonitorPoweron.WellBilled := by
  unfold Cloud.triggerMonitorPoweron
  split
  · rename_i member
    have bills : ∀ state ∈ ([.poweroff, .suspended] : List VmState),
        ∀ lcmState, state.bill lcmState = .free := by simp [VmState.bill]
    exact wellBilled.charge .running (bills _ member _) rfl (by simp) (by simp) (by simp) rfl
  · split
    · split
      · rename_i inState
        exact wellBilled.setLcmState inState (by decide) (by decide)
      · split
        · exact wellBilled.triggerDeploySuccess
        · exact wellBilled
    · exact wellBilled

end Cloud

end OpenNebula.Vm
