import OpenNebula.Vm.RunningQuota

namespace OpenNebula.Vm

open Library

/-! # Conservation of the running usage over the life cycle

A machine that starts to move or to be backed up while it is off is charged nothing, and
`is_running_quota` counts it as charged.  What ends there, and what deletes the machine there,
gives back what was never charged.  The other steps that lose the balance are listed in
`KeepsUsage`.
-/

namespace Cloud

variable {cloud before after : Cloud}

section

variable (wellBilled : cloud.WellBilled)
include wellBilled

theorem WellBilled.shutsDown {hard : Bool} {lcmState : LcmState}
    (shuts : cloud.shutsDown hard lcmState = true) (isBill : lcmState.bill = .charged)
    (busy : lcmState ≠ .lcmInit) (action : VmAction) :
    ((cloud.setLcmState lcmState).updateVm fun vm => vm.setAction action).WellBilled := by
  simp only [Cloud.shutsDown, Bool.and_eq_true, Bool.or_eq_true, decide_eq_true_eq] at shuts
  obtain ⟨_, member | ⟨_, inState⟩⟩ := shuts
  · obtain ⟨running, charged⟩ := runs_bill _ member
    exact wellBilled.moveLcm lcmState rfl running (by rw [charged, isBill]; decide) rfl rfl
      (by simp) rfl
  · exact wellBilled.moveLcm lcmState inState busy (by rw [isBill]; decide) rfl rfl (by simp) rfl

theorem WellBilled.hold : cloud.hold.WellBilled := by
  unfold Cloud.hold
  split
  · rename_i inState
    refine wellBilled.move _ _ ?_ rfl rfl (fun _ => wellBilled.idle ?_) (by simp) rfl
    · rw [inState]
      exact .inl rfl
    · simp [inState]
  · exact wellBilled

theorem WellBilled.release (met : Bool) : (cloud.release met).WellBilled := by
  unfold Cloud.release
  split
  · rename_i accepted
    simp only [Bool.and_eq_true, decide_eq_true_eq] at accepted
    refine wellBilled.move _ _ ?_ rfl rfl (fun _ => wellBilled.idle ?_) (by simp) rfl
    · rw [accepted.1]
      exact .inl rfl
    · simp [accepted.1]
  · exact wellBilled

theorem WellBilled.stop : cloud.stop.WellBilled := by
  unfold Cloud.stop
  split
  · rename_i running
    exact wellBilled.moveLcm .saveStop running.2 (by decide) (by decide) rfl rfl (by simp) rfl
  · split
    · rename_i suspended
      exact wellBilled.charge .epilogStop (by rw [suspended]; rfl) rfl rfl rfl (by simp) rfl
    · exact wellBilled

theorem WellBilled.suspend : cloud.suspend.WellBilled := by
  unfold Cloud.suspend
  split
  · rename_i running
    exact wellBilled.moveLcm .saveSuspend running.2 (by decide) (by decide) rfl rfl (by simp) rfl
  · exact wellBilled

theorem WellBilled.poweroff (hard : Bool) : (cloud.poweroff hard).WellBilled := by
  unfold Cloud.poweroff
  split
  · rename_i shuts
    exact wellBilled.shutsDown shuts rfl (by decide) _
  · exact wellBilled

theorem WellBilled.undeploy (hard : Bool) : (cloud.undeploy hard).WellBilled := by
  unfold Cloud.undeploy
  split
  · rename_i shuts
    exact wellBilled.shutsDown shuts rfl (by decide) _
  · split
    · rename_i poweroff
      exact wellBilled.charge .epilogUndeploy (by rw [poweroff]; rfl) rfl rfl rfl (by simp) rfl
    · exact wellBilled

theorem WellBilled.triggerShutdown (hard : Bool) : (cloud.triggerShutdown hard).WellBilled := by
  unfold Cloud.triggerShutdown
  split
  · rename_i shuts
    exact wellBilled.shutsDown shuts rfl (by decide) _
  · split
    · rename_i member
      have bills : ∀ state ∈ ([.suspended, .poweroff, .stopped, .undeployed] : List VmState),
          ∀ lcmState, state.bill lcmState = .free := by simp [VmState.bill]
      exact wellBilled.charge .epilog (bills _ member _) rfl rfl rfl (by simp) rfl
    · exact wellBilled

/-- The running usage is charged before the machine is asked for its state, so a machine in
UNKNOWN, which is charged already, is charged twice. -/
def KeepsResume (cloud : Cloud) (inQuota : Bool) : Prop :=
  inQuota = true → ¬(cloud.vm.state = .active ∧ cloud.vm.lcmState = .unknown)

theorem WellBilled.resume (inQuota met : Bool)
    (keeps : cloud.KeepsResume inQuota) : (cloud.resume inQuota met).WellBilled := by
  unfold Cloud.resume
  simp only
  split
  · exact wellBilled
  · rename_i allowed
    have charged (isFree : cloud.vm.state.bill cloud.vm.lcmState = .free) :
        cloud.usage + cloud.quotaTemplate true = cloud.vm.runningQuota cloud.generic := by
      rw [show cloud.usage = 0 from wellBilled.allows isFree]
      exact zero_add _
    split
    · rename_i member
      have bills : ∀ state ∈ ([.stopped, .undeployed] : List VmState),
          state ≠ .active ∧ ∀ lcmState, state.bill lcmState = .free := by simp [VmState.bill]
      obtain ⟨other, isFree⟩ := bills _ member
      split
      · exact .of_idle rfl (wellBilled.idle other) (charged (isFree _))
      · exact wellBilled
    · split
      · rename_i suspended
        simp only [Cloud.triggerRestore, vmAdd_vm, suspended, if_true]
        exact wellBilled.charge .bootSuspended (by rw [suspended]; rfl) rfl (by simp) (by simp)
          (by simp) rfl
      · split
        · rename_i ready
          have notUnknown := keeps (by simpa using allowed)
          have poweroff := ready.resolve_right notUnknown
          simp only [Cloud.triggerRestart, vmAdd_vm, poweroff, if_true]
          exact wellBilled.charge .bootPoweroff (by rw [poweroff]; rfl) rfl (by simp) (by simp)
            (by simp) rfl
        · exact wellBilled

end

theorem cleanUpVm_keeps (cloud : Cloud) (dispose : Bool) : (cloud.cleanUpVm dispose).1.vm.state = .active ∧
    (cloud.cleanUpVm dispose).1.vm.lcmState = (if dispose then .cleanupDelete else .cleanupResubmit) ∧
    (cloud.cleanUpVm dispose).1.vm.runningQuota (cloud.cleanUpVm dispose).1.generic =
      cloud.vm.runningQuota cloud.generic ∧ (cloud.cleanUpVm dispose).1.usage = cloud.usage := by
  have sameQuota (vm : VirtualMachine) (attachNic : Option Bool)
      (resizeAttribute : Option Capacity) (generic : List String) :
      { vm with attachNic, resizeAttribute }.runningQuota generic = vm.runningQuota generic := by
    funext metric
    cases metric <;> rfl
  unfold Cloud.cleanUpVm
  simp only
  split
  · exact ⟨rfl, rfl, by simp, rfl⟩
  · split
    case h_1 | h_2 =>
      exact ⟨rfl, rfl, (sameQuota _ _ _ _).trans (by simp [Cloud.clearAttachNic]), rfl⟩
    case h_3 => exact ⟨rfl, rfl, (sameQuota _ _ _ _).trans (by simp), rfl⟩
    case h_4 | h_5 | h_6 => exact ⟨rfl, rfl, by simp, rfl⟩

theorem cleanUpVm_amount (dispose : Bool) (elsewhere : cloud.vm.state ∉ [.poweroff, .suspended]) :
    (cloud.cleanUpVm dispose).2 = 0 := by
  unfold Cloud.cleanUpVm
  simp only [elsewhere, if_false]
  split <;> rfl

section

variable (wellBilled : cloud.WellBilled)
include wellBilled

theorem WellBilled.triggerDelete
    (charged : cloud.vm.state = .active → cloud.IsCharged) : cloud.triggerDelete.WellBilled := by
  unfold Cloud.triggerDelete
  split
  · rename_i active
    split
    · rename_i inState
      exact (wellBilled.setLcmState inState (by decide) (by decide)).triggerDone
    · exact wellBilled.triggerDone
    · obtain ⟨isActive, inLcm, quota, usage⟩ := cleanUpVm_keeps cloud true
      apply WellBilled.triggerDone
      refine .of_active .cleanupDelete isActive inLcm ?_
      rw [quota, usage]
      exact wellBilled.usage_charged (charged active)
  · exact wellBilled

/-- The machine counts in the metrics of the memory, the CPU and the machines only. -/
def OnlyBasic (cloud : Cloud) : Prop :=
  cloud.vm.pciDev = 0 ∧ cloud.vm.pciNic = 0 ∧ ∀ name ∈ cloud.generic, cloud.vm.amount name = 0

/-- The clean-up of a machine that is off charges its memory, its CPU and the machine again, and
no other metric. -/
def KeepsRecreate (cloud : Cloud) : Prop :=
  (cloud.vm.state = .active → cloud.IsCharged) ∧
  (cloud.vm.state ∈ [.poweroff, .suspended] → cloud.OnlyBasic)

theorem WellBilled.triggerDeleteRecreate (keeps : cloud.KeepsRecreate) : cloud.triggerDeleteRecreate.WellBilled := by
  unfold Cloud.triggerDeleteRecreate
  split
  · rename_i member
    split
    · exact wellBilled
    · exact wellBilled.triggerResubmit
    · obtain ⟨isActive, inLcm, quota, usage⟩ := cleanUpVm_keeps cloud false
      refine .of_active .cleanupResubmit isActive inLcm ?_
      rw [vmDel_usage, vmDel_vm, vmDel_generic, quota, usage]
      by_cases off : cloud.vm.state ∈ [.poweroff, .suspended]
      · have bills : ∀ state ∈ ([.poweroff, .suspended] : List VmState),
            ∀ lcmState, state.bill lcmState = .free := by simp [VmState.bill]
        obtain ⟨pciDev, pciNic, amounts⟩ := keeps.2 off
        rw [show cloud.usage = 0 from wellBilled.allows (bills _ off _)]
        funext metric
        cases metric with
        | memory | cpu | vms => simp [Cloud.cleanUpVm, off, VirtualMachine.runningQuota]
        | pciDev => simp [Cloud.cleanUpVm, off, VirtualMachine.runningQuota, pciDev]
        | pciNic => simp [Cloud.cleanUpVm, off, VirtualMachine.runningQuota, pciNic]
        | generic name =>
          by_cases counted : name ∈ cloud.generic
          · simp [Cloud.cleanUpVm, off, VirtualMachine.runningQuota, amounts name counted]
          · simp [Cloud.cleanUpVm, off, VirtualMachine.runningQuota, counted]
      · have active : cloud.vm.state = .active := by
          simp only [List.mem_cons, List.not_mem_nil, or_false, not_or] at member off
          tauto
        rw [cleanUpVm_amount false off, sub_zero]
        exact wellBilled.usage_charged (keeps.1 active)
  · exact wellBilled

theorem WellBilled.freeIdle {state : VmState}
    (inState : cloud.vm.state = state) (settled : ∀ lcmState, state.bill lcmState ≠ .either) :
    cloud.freeVmResources.WellBilled := by
  apply wellBilled.freeVmResources
  intro isEither
  rw [inState] at isEither
  exact (settled _ isEither).elim

theorem WellBilled.delCapacity (hid : Option Int) : (cloud.delCapacity hid).WellBilled :=
  ⟨wellBilled.idle, wellBilled.billed⟩

theorem WellBilled.deleteVm (charged : cloud.vm.state = .active → cloud.IsCharged) : cloud.deleteVm.WellBilled := by
  unfold Cloud.deleteVm
  split
  case h_1 inState | h_2 inState => exact (wellBilled.delCapacity _).freeIdle inState (by simp [VmState.bill])
  case h_3 inState | h_4 inState | h_5 inState | h_6 inState | h_7 inState | h_8 inState | h_9 inState =>
    exact wellBilled.freeIdle inState (by simp [VmState.bill])
  case h_10 => exact wellBilled.triggerDelete charged
  case h_11 => exact wellBilled

/-- A machine that has left its host is charged for the user and the group, or for neither. -/
def KeepsDeleteRecreate (cloud : Cloud) (inUserQuota inGroupQuota : Bool) : Prop :=
  (cloud.vm.state ∈ [.stopped, .undeployed] → inUserQuota = true → inGroupQuota = true) ∧ cloud.KeepsRecreate

theorem WellBilled.deleteRecreate {inUserQuota inGroupQuota : Bool}
    (keeps : cloud.KeepsDeleteRecreate inUserQuota inGroupQuota) :
    (cloud.deleteRecreate inUserQuota inGroupQuota).WellBilled := by
  have recharged {state : VmState} (inState : cloud.vm.state = state)
      (isFree : ∀ lcmState, state.bill lcmState = .free) :
      (((cloud.vmAdd (cloud.quotaTemplate true)).updateVm fun vm =>
        vm.setAction .deleteRecreate).enter .pending .lcmInit).WellBilled := by
    have isBill : cloud.vm.state.bill cloud.vm.lcmState = .free := by rw [inState, isFree]
    have free : cloud.usage = 0 := wellBilled.allows isBill
    refine .of_idle rfl rfl ?_
    simp [VmState.bill, Bill.Allows, free]
  unfold Cloud.deleteRecreate
  split
  case h_1 | h_2 | h_3 | h_4 | h_5 => exact wellBilled
  case h_6 inState | h_7 inState =>
    dsimp only
    split
    · exact wellBilled
    · rename_i granted
      rw [Bool.not_eq_true', Bool.not_eq_false] at granted
      have both : inGroupQuota = true := keeps.1 (by simp [inState]) granted
      rw [if_neg (by simp [both])]
      exact recharged inState fun _ => rfl
  case h_8 inState =>
    have isBill : cloud.vm.state.bill cloud.vm.lcmState = .charged := by rw [inState]; rfl
    have charged : cloud.usage = cloud.vm.runningQuota cloud.generic := wellBilled.allows isBill
    refine .of_idle rfl rfl ?_
    simpa [VmState.bill, Bill.Allows] using charged
  case h_9 | h_10 | h_11 => exact wellBilled.triggerDeleteRecreate keeps.2

theorem WellBilled.deleteVmDb
    (owed : cloud.vm.lcmState.bill = .either → cloud.IsCharged) : cloud.deleteVmDb.WellBilled := by
  unfold Cloud.deleteVmDb
  split
  case h_1 inState | h_2 inState => exact (wellBilled.delCapacity _).freeIdle inState (by simp [VmState.bill])
  case h_3 inState =>
    apply (wellBilled.delCapacity _).freeVmResources
    rw [delCapacity_vm, inState]
    exact owed
  case h_4 inState | h_5 inState | h_6 inState | h_7 inState | h_8 inState | h_9 inState | h_10 inState =>
    exact wellBilled.freeIdle inState (by simp [VmState.bill])
  case h_11 => exact wellBilled

/-- The states of a failure from which `terminate` deletes a machine that was off -/
theorem WellBilled.terminate (hard : Bool) (keeps : cloud.KeepsProlog false) : (cloud.terminate hard).WellBilled := by
  unfold Cloud.terminate
  split
  case h_1 | h_2 | h_3 | h_4 => exact wellBilled.triggerShutdown false
  case h_5 inState | h_6 inState | h_7 inState | h_8 inState | h_9 inState =>
    exact wellBilled.freeIdle inState (by simp [VmState.bill])
  case h_10 => exact wellBilled
  case h_11 =>
    split
    · exact wellBilled.triggerShutdown hard
    · split
      · rename_i member
        have bills : ∀ lcmState ∈ ([.bootFailure, .bootMigrateFailure, .prologMigrateFailure,
            .prologFailure, .epilogFailure, .epilogStopFailure, .epilogUndeployFailure,
            .prologMigratePoweroffFailure, .prologMigrateSuspendFailure, .bootUndeployFailure,
            .bootStoppedFailure, .prologResumeFailure, .prologUndeployFailure,
            .prologMigrateUnknownFailure] : List LcmState),
            lcmState ∈ movedOff false ∨ lcmState.bill = .charged := by decide
        apply wellBilled.triggerDelete
        intro active
        rcases bills _ member with off | isBill
        · exact keeps off
        · exact wellBilled.isCharged (by rw [active]; exact isBill)
      · exact wellBilled

def KeepsRecovery (cloud : Cloud) (success : Bool) : Prop :=
  cloud.KeepsProlog success ∧
  (success = false → cloud.KeepsDeployFailure ∧ cloud.KeepsResizeFailure) ∧
  cloud.KeepsOperation .diskSnapshot ∧ cloud.KeepsOperation .backup ∧
  cloud.KeepsOperation .diskRestore

theorem WellBilled.recoverLcm (success : Bool)
    (keeps : cloud.KeepsRecovery success) : (cloud.recoverLcm success).WellBilled := by
  obtain ⟨keepsProlog, keepsFailure, snapshot, backup, restore⟩ := keeps
  have answers {ifSuccess ifFailure : Cloud} (first : success = true → ifSuccess.WellBilled)
      (second : success = false → ifFailure.WellBilled) :
      (if success then ifSuccess else ifFailure).WellBilled := by
    split
    · rename_i succeeded
      exact first succeeded
    · rename_i failed
      exact second (Bool.eq_false_iff.2 failed)
  have prolog := answers
    (fun succeeded => wellBilled.triggerPrologSuccess (succeeded ▸ keepsProlog))
    (fun failed => wellBilled.triggerPrologFailure (failed ▸ keepsProlog))
  have epilog := answers (fun _ => wellBilled.triggerEpilogSuccess)
    (fun _ => wellBilled.triggerEpilogFailure)
  have deploy := answers (fun _ => wellBilled.triggerDeploySuccess)
    (fun failed => wellBilled.triggerDeployFailure (keepsFailure failed).1)
  have shutdown := answers (fun _ => wellBilled.triggerShutdownSuccess)
    (fun _ => wellBilled.triggerShutdownFailure)
  have save := answers (fun _ => wellBilled.triggerSaveSuccess)
    (fun _ => wellBilled.triggerSaveFailure)
  have nic := answers (fun _ => wellBilled.triggerNicKept)
    (fun _ => wellBilled.triggerNicDeleted)
  have resize := answers (fun _ => wellBilled.triggerResizeSuccess)
    (fun failed => wellBilled.triggerResizeFailure (keepsFailure failed).2)
  unfold Cloud.recoverLcm
  simp only
  split
  all_goals first
    | exact wellBilled
    | exact prolog
    | exact epilog
    | exact deploy
    | exact shutdown
    | exact save
    | exact nic
    | exact resize
    | exact wellBilled.finish _ snapshot
    | exact wellBilled.finish _ backup
    | exact wellBilled.finish _ restore
    | exact wellBilled.finish _ trivial
    | exact wellBilled.triggerResubmit
    | exact wellBilled.triggerDone
    | skip
  rename_i inState
  exact wellBilled.setLcmState inState (by decide) (by decide)

theorem WellBilled.recover (success ready error onHold : Bool) (keeps : cloud.KeepsRecovery success) :
    (cloud.recover success ready error onHold).WellBilled := by
  unfold Cloud.recover
  split
  · exact wellBilled.triggerDiskLock ready error onHold
  · exact wellBilled.recoverLcm success keeps
  · exact wellBilled

end

theorem retryStates_bill : ∀ entry ∈ retryStates, entry.1 ≠ .lcmInit ∧ entry.1.bill.leadsTo entry.2.bill := by decide

theorem WellBilled.retry (wellBilled : cloud.WellBilled) : cloud.retry.WellBilled := by
  unfold Cloud.retry
  split
  · cases found : retryStates.lookup cloud.vm.lcmState with
    | none => exact wellBilled
    | some next =>
      obtain ⟨busy, leads⟩ := retryStates_bill _ (lookup_mem found)
      exact wellBilled.setLcmState rfl busy leads
  · exact wellBilled

theorem Start.entries_bill (operation : Start) : ∀ entry ∈ operation.entries,
    (entry.1.1.bill entry.1.2).leadsTo entry.2.bill := by
  cases operation <;> decide

theorem Start.record_runningQuota (operation : Start) (vm : VirtualMachine) (generic : List String) :
    ((operation.action vm.state).elim vm vm.closeCpHistory).runningQuota generic = vm.runningQuota generic := by
  cases operation.action vm.state with
  | none => rfl
  | some action => exact vm.closeCpHistory_runningQuota action generic

theorem WellBilled.start (wellBilled : cloud.WellBilled) (operation : Start)
    (accepted : Bool) : (cloud.start operation accepted).WellBilled := by
  unfold Cloud.start
  split
  · rename_i lcmState found
    refine wellBilled.move .active lcmState (operation.entries_bill _ (lookup_mem found)) rfl rfl
      (fun other => (other rfl).elim) ?_ rfl
    simp [operation.record_runningQuota]
  · exact wellBilled

/-- The running usage of a PCI device is charged only when the NIC is attached: the machine
is running and the dispatch manager accepts the NIC. -/
def KeepsAttach (cloud : Cloud) (pci granted setUp : Bool) : Prop :=
  (pci && granted && cloud.vm.isRunningQuota) = true →
    cloud.vm.state = .active ∧ cloud.vm.lcmState = .running ∧ setUp = true

theorem runningQuota_attached (vm : VirtualMachine) (action : VmAction)
    (attachNic : Option Bool) (pci : Bool) (generic : List String) : { vm.closeCpHistory action with
      attachNic, pciNic := vm.pciNic + (if pci then 1 else 0) }.runningQuota generic =
      vm.runningQuota generic + (if pci then oneNic else 0) := by
  have same : (vm.closeCpHistory action).pciNic = vm.pciNic :=
    congrFun (vm.closeCpHistory_runningQuota action generic) .pciNic
  rw [← same, ← vm.closeCpHistory_runningQuota action generic]
  generalize vm.closeCpHistory action = closed
  cases pci with
  | true => exact runningQuota_withNic _ attachNic generic
  | false =>
    funext metric
    cases metric <;> simp [VirtualMachine.runningQuota]

theorem WellBilled.stayFree (wellBilled : before.WellBilled)
    (isFree : before.vm.state.bill before.vm.lcmState = .free) (state : after.vm.state = before.vm.state)
    (inLcm : after.vm.lcmState = before.vm.lcmState) (usage : after.usage = before.usage) : after.WellBilled := by
  refine ⟨?_, ?_⟩
  · rw [state, inLcm]
    exact wellBilled.idle
  · rw [state, inLcm, usage, isFree]
    exact wellBilled.allows isFree

theorem WellBilled.attachNic (wellBilled : cloud.WellBilled) (pci granted setUp cold : Bool)
    (keeps : cloud.KeepsAttach pci granted setUp) : (cloud.attachNic pci granted setUp cold).WellBilled := by
  have refused (isGranted : granted = true) (notAttached : ¬(cloud.vm.state = .active ∧
      cloud.vm.lcmState = .running ∧ setUp = true)) :
      (if pci && cloud.vm.isRunningQuota then cloud.vmAdd oneNic else cloud).WellBilled := by
    split
    · rename_i isCharged
      simp only [Bool.and_eq_true] at isCharged
      exact (notAttached (keeps (by simp [isGranted, isCharged]))).elim
    · exact wellBilled
  unfold Cloud.attachNic
  simp only
  split
  · exact wellBilled
  · rename_i isGranted
    simp only [Bool.not_eq_true', Bool.not_eq_false] at isGranted
    split
    · rename_i running
      have isBill : cloud.vm.state.bill cloud.vm.lcmState = .charged := by
        rw [running.1, running.2]
        rfl
      have charged : cloud.usage = cloud.vm.runningQuota cloud.generic := wellBilled.allows isBill
      have counts : cloud.vm.isRunningQuota = true := by
        rw [isRunningQuota_eq, isBill]
        rfl
      split
      · simp only [counts, Bool.and_true]
        have quota := runningQuota_attached cloud.vm .nicAttach (some pci) pci cloud.generic
        refine .of_active .hotplugNic ?_ rfl ?_
        · cases pci <;> simpa using running.1
        · cases pci with
          | true =>
            exact (congrArg (· + oneNic) charged).trans
              (quota.symm.trans (VirtualMachine.setLcmState_runningQuota _ _ _).symm)
          | false =>
            exact (charged.trans (add_zero _).symm).trans
              (quota.symm.trans (VirtualMachine.setLcmState_runningQuota _ _ _).symm)
      · rename_i notSetUp
        exact refused isGranted fun attached => notSetUp attached.2.2
    · rename_i notRunning
      split
      · rename_i poweroff
        have isBill : cloud.vm.state.bill cloud.vm.lcmState = .free := by
          rw [poweroff.1]
          rfl
        have free : cloud.usage = 0 := wellBilled.allows isBill
        have counts : cloud.vm.isRunningQuota = false := by
          rw [isRunningQuota_eq, isBill]
          rfl
        simp only [counts, Bool.and_false, Bool.false_eq_true, if_false]
        split
        · exact wellBilled
        · split
          · exact .of_active .hotplugNicPoweroff rfl rfl free
          · exact wellBilled.stayFree isBill (VirtualMachine.closeCpHistory_state _ _)
              (VirtualMachine.closeCpHistory_lcmState _ _) rfl
      · exact refused isGranted fun attached => notRunning ⟨attached.1, attached.2.1⟩

theorem WellBilled.detachNic (wellBilled : cloud.WellBilled) (pci found cold : Bool) :
    (cloud.detachNic pci found cold).WellBilled := by
  have marked : (cloud.updateVm fun vm =>
      { vm.closeCpHistory .nicDetach with attachNic := some pci }).WellBilled := by
    apply wellBilled.updateVm
    · exact fun vm => vm.closeCpHistory_state _
    · exact fun vm => vm.closeCpHistory_lcmState _
    · intro vm generic
      rw [← vm.closeCpHistory_runningQuota .nicDetach generic]
      funext metric
      cases metric <;> rfl
  unfold Cloud.detachNic
  simp only
  split
  · exact wellBilled
  · split
    · rename_i running
      exact marked.setLcmState ((VirtualMachine.closeCpHistory_lcmState _ _).trans running.2)
        (by decide) (by decide)
    · split
      · rename_i poweroff
        have isFree : cloud.vm.state.bill cloud.vm.lcmState = .free := by
          rw [poweroff.1]
          rfl
        split
        · exact .of_active .hotplugNicPoweroff rfl rfl (wellBilled.allows isFree)
        · apply marked.deleteAttachNic
          simp [isFree]
      · exact wellBilled

theorem WellBilled.changePci (wellBilled : cloud.WellBilled) (change : Rat) (action : VmAction)
    (accepted : Bool) : (cloud.changePci change action accepted).WellBilled := by
  unfold Cloud.changePci
  split
  · rename_i allowed
    simp only [Bool.and_eq_true, decide_eq_true_eq] at allowed
    have bills : ∀ state ∈ ([.poweroff, .undeployed] : List VmState),
        ∀ lcmState, state.bill lcmState = .free := by simp [VmState.bill]
    refine wellBilled.stayFree (bills _ allowed.1.2 _) ?_ ?_ rfl
    · simp only [updateVm_vm]
      split <;> simp
    · simp only [updateVm_vm]
      split <;> simp
  · exact wellBilled

theorem restores_resizeTarget {asked : Capacity} (valid : ¬(asked.cpu < 0 ∨ asked.memory < 0 ∨
    asked.vcpu < 0)) : cloud.Restores (cloud.resizeTarget asked) := by
  have keepsOrAsks (given current : Rat) (nonneg : ¬given < 0) :
      (if given = 0 then current else given) = current ∨
        0 < (if given = 0 then current else given) := by
    split
    · exact .inl rfl
    · rename_i given
      exact .inr (lt_of_le_of_ne (not_lt.1 nonneg) (Ne.symm given))
  simp only [not_or] at valid
  obtain ⟨cpu, memory, vcpu⟩ := valid
  refine ⟨?_, keepsOrAsks _ _ memory, fun _ => keepsOrAsks _ _ vcpu⟩
  apply keepsOrAsks
  split
  · exact vcpu
  · exact cpu

/-- A machine that is cloned is charged, and no resize changes its running usage. -/
def KeepsResize (cloud : Cloud) (asked : Capacity) (inQuota accepted : Bool) : Prop :=
  cloud.vm.state ∈ [.cloning, .cloningFailure] →
    0 ≤ asked.cpu ∧ 0 ≤ asked.memory ∧ 0 ≤ asked.vcpu ∧ inQuota = true ∧ accepted = true →
    (cloud.resizeTarget asked).cpu = cloud.vm.cpu ∧
    (cloud.resizeTarget asked).memory = cloud.vm.memory ∧
    ("VCPU" ∈ cloud.generic → (cloud.resizeTarget asked).vcpu = cloud.vm.amount "VCPU")

theorem resizeDeltas_zero {new : Capacity} (cpu : new.cpu = cloud.vm.cpu) (memory : new.memory = cloud.vm.memory)
    (vcpu : "VCPU" ∈ cloud.generic → new.vcpu = cloud.vm.amount "VCPU") :
    cloud.resizeDeltas cloud.vm.capacity new = 0 := by
  funext metric
  cases metric with
  | memory => simp [resizeDeltas, VirtualMachine.capacity, memory]
  | cpu => simp [resizeDeltas, VirtualMachine.capacity, cpu]
  | vms | pciDev | pciNic => rfl
  | generic name =>
    simp only [resizeDeltas, VirtualMachine.capacity, Pi.zero_apply]
    split
    · rename_i counted
      rw [vcpu (counted.1 ▸ counted.2), sub_self]
    · rfl

theorem WellBilled.chargeDeltas (wellBilled : before.WellBilled) {new : Capacity} (restores : before.Restores new)
    (isBill : before.vm.state.bill before.vm.lcmState = .charged)
    (isCharged : after.vm.state.bill after.vm.lcmState = .charged)
    (idle : after.vm.state ≠ .active → after.vm.lcmState = .lcmInit) (quota : after.vm.runningQuota after.generic =
      (before.vm.resize new).runningQuota before.generic)
    (usage : after.usage = before.usage + before.resizeDeltas before.vm.capacity new) : after.WellBilled := by
  refine ⟨idle, ?_⟩
  rw [isCharged, usage, quota, runningQuota_resize restores]
  exact congrArg (· + _) (wellBilled.allows isBill)

theorem WellBilled.resize (wellBilled : cloud.WellBilled) (asked : Capacity)
    (inQuota accepted : Bool) (keeps : cloud.KeepsResize asked inQuota accepted) :
    (cloud.resize asked inQuota accepted).WellBilled := by
  unfold Cloud.resize
  split
  · exact wellBilled
  · rename_i valid
    simp only [not_or, Bool.not_eq_true', Bool.not_eq_false] at valid
    obtain ⟨cpu, memory, vcpu, allowed⟩ := valid
    have restores : cloud.Restores (cloud.resizeTarget asked) :=
      restores_resizeTarget (by simp only [not_or]; exact ⟨cpu, memory, vcpu⟩)
    simp only
    split
    · rename_i member
      split
      · rename_i isAccepted
        by_cases waits : cloud.vm.state ∈ [.pending, .hold]
        · have bills : ∀ state ∈ ([.pending, .hold] : List VmState),
              ∀ lcmState, state.bill lcmState = .charged := by simp [VmState.bill]
          have isBill := bills _ waits cloud.vm.lcmState
          rw [if_pos (.inl waits)]
          exact wellBilled.chargeDeltas restores isBill isBill wellBilled.idle rfl rfl
        · have notCharged : ¬(cloud.vm.state ∈ [.pending, .hold] ∨
              (cloud.vm.state = .active ∧ cloud.vm.lcmState = .running)) := by
            intro either
            rcases either with idle | running
            · exact waits idle
            · rw [running.1] at member
              exact absurd member (by decide)
          rw [if_neg notCharged]
          by_cases clones : cloud.vm.state ∈ [.cloning, .cloningFailure]
          · have bills : ∀ state ∈ ([.cloning, .cloningFailure] : List VmState),
                ∀ lcmState, state.bill lcmState = .charged := by simp [VmState.bill]
            have isBill := bills _ clones cloud.vm.lcmState
            obtain ⟨sameCpu, sameMemory, sameVcpu⟩ := keeps clones
              ⟨not_lt.1 cpu, not_lt.1 memory, not_lt.1 vcpu, allowed, isAccepted⟩
            have unchanged := resizeDeltas_zero sameCpu sameMemory sameVcpu
            refine wellBilled.chargeDeltas restores isBill isBill wellBilled.idle rfl ?_
            rw [unchanged, add_zero]
            rfl
          · have bills : ∀ state ∈ ([.init, .pending, .hold, .undeployed, .cloning,
                .cloningFailure] : List VmState), state ∉ ([.pending, .hold] : List VmState) →
                state ∉ ([.cloning, .cloningFailure] : List VmState) →
                  ∀ lcmState, state.bill lcmState = .free := by simp [VmState.bill]
            exact wellBilled.stayFree (bills _ member waits clones _) rfl rfl rfl
      · exact wellBilled
    · split
      · rename_i poweroff
        split
        · have notCharged : ¬(cloud.vm.state ∈ [.pending, .hold] ∨
              (cloud.vm.state = .active ∧ cloud.vm.lcmState = .running)) := by
            simp [poweroff]
          rw [if_neg notCharged]
          refine wellBilled.stayFree ?_ ?_ ?_ rfl
          · rw [poweroff]
            rfl
          · exact VirtualMachine.closeCpHistory_state _ _
          · exact VirtualMachine.closeCpHistory_lcmState _ _
        · exact wellBilled
      · split
        · rename_i running
          obtain ⟨⟨active, inLcm⟩, _⟩ := running
          have isBill : cloud.vm.state.bill cloud.vm.lcmState = .charged := by
            rw [active, inLcm]
            rfl
          have isCharged : cloud.vm.state ∈ [.pending, .hold] ∨
              (cloud.vm.state = .active ∧ cloud.vm.lcmState = .running) := .inr ⟨active, inLcm⟩
          rw [if_pos isCharged]
          split
          · rename_i same
            have unchanged : cloud.resizeDeltas cloud.vm.capacity (cloud.resizeTarget asked) = 0 := by
              rw [← same]
              exact resizeDeltas_zero rfl rfl fun _ => rfl
            refine wellBilled.moveLcm .running inLcm (by decide) (by decide) ?_ ?_ ?_ ?_
            · exact VirtualMachine.closeCpHistory_state _ _
            · exact (VirtualMachine.closeCpHistory_lcmState _ _).trans inLcm
            · exact VirtualMachine.closeCpHistory_runningQuota _ _ _
            · exact (congrArg (cloud.usage + ·) unchanged).trans (add_zero _)
          · have isActive : ((cloud.vm.resize (cloud.resizeTarget asked)).closeCpHistory .resize).state = .active :=
              (VirtualMachine.closeCpHistory_state _ _).trans active
            refine wellBilled.chargeDeltas restores isBill ?_ ?_ ?_ rfl
            · exact congrArg (VmState.bill · .hotplugResize) isActive
            · exact fun other => (other isActive).elim
            · refine Eq.trans ?_ (VirtualMachine.closeCpHistory_runningQuota _ .resize _)
              funext metric
              cases metric <;> rfl
        · exact wellBilled

def KeepsAnswer (cloud : Cloud) : Callback → Prop
  | .deploy false => cloud.KeepsDeployFailure
  | .prolog success => cloud.KeepsProlog success
  | .operation operation true => cloud.KeepsOperation operation
  | .resize false => cloud.KeepsResizeFailure
  | _ => True

def KeepsUsage (cloud : Cloud) : Event → Prop
  | .callback callback => cloud.KeepsAnswer callback
  | .recover success _ _ _ => cloud.KeepsRecovery success
  | .terminate _ => cloud.KeepsProlog false
  | .delete => cloud.vm.state = .active → cloud.IsCharged
  | .deleteRecreate inUserQuota inGroupQuota => cloud.KeepsDeleteRecreate inUserQuota inGroupQuota
  | .deleteDb => cloud.vm.lcmState.bill = .either → cloud.IsCharged
  | .resume inQuota _ => cloud.KeepsResume inQuota
  | .attachNic pci granted setUp _ => cloud.KeepsAttach pci granted setUp
  | .resize asked inQuota accepted => cloud.KeepsResize asked inQuota accepted
  | _ => True

theorem WellBilled.answer (wellBilled : cloud.WellBilled) (callback : Callback)
    (keeps : cloud.KeepsAnswer callback) : (cloud.answer callback).WellBilled := by
  cases callback with
  | save success =>
    cases success
    · exact wellBilled.triggerSaveFailure
    · exact wellBilled.triggerSaveSuccess
  | deploy success =>
    cases success
    · exact wellBilled.triggerDeployFailure keeps
    · exact wellBilled.triggerDeploySuccess
  | shutdown success =>
    cases success
    · exact wellBilled.triggerShutdownFailure
    · exact wellBilled.triggerShutdownSuccess
  | prolog success =>
    cases success
    · exact wellBilled.triggerPrologFailure keeps
    · exact wellBilled.triggerPrologSuccess keeps
  | epilog success =>
    cases success
    · exact wellBilled.triggerEpilogFailure
    · exact wellBilled.triggerEpilogSuccess
  | cleanup => exact wellBilled.triggerResubmit
  | operation operation found =>
    cases found
    · exact wellBilled
    · exact wellBilled.finish operation keeps
  | attachNic success =>
    cases success
    · exact wellBilled.triggerNicDeleted
    · exact wellBilled.triggerNicKept
  | detachNic success =>
    cases success
    · exact wellBilled.triggerNicKept
    · exact wellBilled.triggerNicDeleted
  | resize success =>
    cases success
    · exact wellBilled.triggerResizeFailure keeps
    · exact wellBilled.triggerResizeSuccess
  | diskLock ready error onHold => exact wellBilled.triggerDiskLock ready error onHold

theorem WellBilled.step (wellBilled : cloud.WellBilled) (event : Event)
    (keeps : cloud.KeepsUsage event) : (cloud.step event).WellBilled := by
  cases event with
  | deploy request => exact wellBilled.deploy request
  | migrate request => exact wellBilled.migrate request
  | hold => exact wellBilled.hold
  | release met => exact wellBilled.release met
  | stop => exact wellBilled.stop
  | suspend => exact wellBilled.suspend
  | poweroff hard => exact wellBilled.poweroff hard
  | undeploy hard => exact wellBilled.undeploy hard
  | resume inQuota met => exact wellBilled.resume inQuota met keeps
  | terminate hard => exact wellBilled.terminate hard keeps
  | recover success ready error onHold => exact wellBilled.recover success ready error onHold keeps
  | retry => exact wellBilled.retry
  | delete => exact wellBilled.deleteVm keeps
  | deleteRecreate inUserQuota inGroupQuota => exact wellBilled.deleteRecreate keeps
  | deleteDb => exact wellBilled.deleteVmDb keeps
  | start operation accepted => exact wellBilled.start operation accepted
  | attachNic pci granted setUp cold => exact wellBilled.attachNic pci granted setUp cold keeps
  | detachNic pci found cold => exact wellBilled.detachNic pci found cold
  | attachPci accepted => exact wellBilled.changePci 1 .pciAttach accepted
  | detachPci accepted => exact wellBilled.changePci (-1) .pciDetach accepted
  | resize asked inQuota accepted => exact wellBilled.resize asked inQuota accepted keeps
  | callback callback => exact wellBilled.answer callback keeps
  | monitor report =>
    cases report
    · exact wellBilled.triggerMonitorSuspend
    · exact wellBilled.triggerMonitorDone
    · exact wellBilled.triggerMonitorPoweroff
    · exact wellBilled.triggerMonitorPoweron

/-- A machine whose running usage is charged if and only if `is_running_quota` is true -/
structure Balanced (cloud : Cloud) : Prop where
  idle : cloud.vm.state ≠ .active → cloud.vm.lcmState = .lcmInit
  balance : cloud.usage = cloud.quotaTemplate cloud.vm.isRunningQuota

theorem Balanced.wellBilled (balanced : cloud.Balanced) : cloud.WellBilled := by
  refine ⟨balanced.idle, ?_⟩
  rw [balanced.balance, isRunningQuota_eq]
  cases isBill : cloud.vm.state.bill cloud.vm.lcmState with
  | charged | free => exact rfl
  | either => exact .inl rfl

theorem reachable_wellBilled (reached : (lifeCycle Balanced).Reachable KeepsUsage cloud) : cloud.WellBilled := by
  refine reached.invariant ?_ ?_
  · intro start balanced
    exact balanced.wellBilled
  · intro before event after wellBilled keeps stepped
    obtain rfl := Option.some.inj stepped
    exact wellBilled.step event keeps

/-- The states in which a machine that is off waits for a driver and `is_running_quota` is true -/
def unsettledStates : List LcmState :=
  [.prologMigratePoweroff, .prologMigratePoweroffFailure, .prologMigrateSuspend,
    .prologMigrateSuspendFailure, .backupPoweroff, .restore]

theorem unsettled_of_either (vm : VirtualMachine)
    (isEither : vm.state.bill vm.lcmState = .either) : vm.lcmState ∈ unsettledStates := by
  have unsettled (lcmState : LcmState) (isBill : lcmState.bill = .either) :
      lcmState ∈ unsettledStates := by
    cases lcmState <;> first | decide | cases isBill
  cases inState : vm.state with
  | active =>
    rw [inState] at isEither
    exact unsettled vm.lcmState isEither
  | _ =>
    rw [inState] at isEither
    cases isEither

/-- The running usage is charged once when `is_running_quota` is true and otherwise not at all. -/
structure Conserved (cloud : Cloud) : Prop where
  charged : cloud.vm.lcmState ∉ unsettledStates → cloud.vm.isRunningQuota = true →
    cloud.usage = cloud.vm.runningQuota cloud.generic
  uncharged : cloud.vm.isRunningQuota = false → cloud.usage = 0
  off : cloud.vm.state ∈ [.poweroff, .suspended, .stopped, .undeployed, .done] → cloud.usage = 0

theorem WellBilled.conserved (wellBilled : cloud.WellBilled) : cloud.Conserved := by
  refine ⟨?_, ?_, ?_⟩
  · intro settled counts
    rw [isRunningQuota_eq] at counts
    cases isBill : cloud.vm.state.bill cloud.vm.lcmState with
    | charged => exact wellBilled.allows isBill
    | free => simp [isBill] at counts
    | either => exact (settled (unsettled_of_either cloud.vm isBill)).elim
  · intro counts
    rw [isRunningQuota_eq] at counts
    cases isBill : cloud.vm.state.bill cloud.vm.lcmState with
    | charged => simp [isBill] at counts
    | free => exact wellBilled.allows isBill
    | either => simp [isBill] at counts
  · intro member
    have bills : ∀ state ∈ ([.poweroff, .suspended, .stopped, .undeployed, .done] : List VmState),
        ∀ lcmState, state.bill lcmState = .free := by simp [VmState.bill]
    exact wellBilled.allows (bills _ member _)

/-- In every run of such steps the running usage is charged once or not at all, as the state
tells. -/
theorem running_quota_conservation {cloud : Cloud}
    (reached : (lifeCycle Balanced).Reachable KeepsUsage cloud) : cloud.Conserved :=
  (reachable_wellBilled reached).conserved

instance (cloud : Cloud) (success : Bool) : Decidable (cloud.KeepsProlog success) :=
  inferInstanceAs (Decidable (_ → _))

instance (cloud : Cloud) : Decidable cloud.KeepsDeployFailure :=
  inferInstanceAs (Decidable (_ ∉ _))

instance (cloud : Cloud) : Decidable cloud.KeepsResizeFailure :=
  inferInstanceAs (Decidable (_ → ∀ _ ∈ _, _))

instance (cloud : Cloud) (operation : Operation) : Decidable (cloud.KeepsOperation operation) := by
  unfold KeepsOperation
  split <;> infer_instance

instance (cloud : Cloud) (success : Bool) : Decidable (cloud.KeepsRecovery success) :=
  inferInstanceAs (Decidable (_ ∧ _))

instance (cloud : Cloud) : Decidable cloud.KeepsRecreate :=
  inferInstanceAs (Decidable ((_ → _) ∧ (_ → _ ∧ _ ∧ ∀ _ ∈ _, _)))

instance (cloud : Cloud) (inUserQuota inGroupQuota : Bool) :
    Decidable (cloud.KeepsDeleteRecreate inUserQuota inGroupQuota) :=
  inferInstanceAs (Decidable ((_ → _ → _) ∧ _))

instance (cloud : Cloud) (inQuota : Bool) : Decidable (cloud.KeepsResume inQuota) :=
  inferInstanceAs (Decidable (_ → _))

instance (cloud : Cloud) (pci granted setUp : Bool) : Decidable (cloud.KeepsAttach pci granted setUp) :=
  inferInstanceAs (Decidable (_ → _))

instance (cloud : Cloud) (asked : Capacity) (inQuota accepted : Bool) :
    Decidable (cloud.KeepsResize asked inQuota accepted) :=
  inferInstanceAs (Decidable (_ → _ → _))

instance (cloud : Cloud) (callback : Callback) : Decidable (cloud.KeepsAnswer callback) := by
  unfold KeepsAnswer
  split <;> infer_instance

instance (cloud : Cloud) (event : Event) : Decidable (cloud.KeepsUsage event) := by
  unfold KeepsUsage
  split <;> infer_instance

def chargedCloud : Cloud :=
  { pendingCloud with usage := pendingCloud.vm.runningQuota pendingCloud.generic }

theorem chargedCloud_balanced : chargedCloud.Balanced := ⟨fun _ => rfl, rfl⟩

/-- What a run that is evaluated below is read for -/
def charge (cloud : Cloud) : VmState × LcmState × Rat :=
  (cloud.vm.state, cloud.vm.lcmState, cloud.usage .vms)

/-- A machine is powered off, resumed, suspended and stopped; the user's quotas refuse to recreate it, and
then they allow it. -/
theorem running_quota_conservation_run : ∃ cloud : Cloud, (lifeCycle Balanced).Reachable KeepsUsage cloud ∧
      cloud.charge = (.pending, .lcmInit, 1) ∧ cloud.Conserved := by
  have ran : ((lifeCycle Balanced).exec KeepsUsage chargedCloud
      (deployment ++ [.poweroff false, .callback (.shutdown true), .resume true true,
        .callback (.deploy true), .suspend, .callback (.save true), .stop,
        .callback (.epilog true), .deleteRecreate false true, .deleteRecreate true true])).map charge =
          some (.pending, .lcmInit, 1) := by
    decide +kernel
  obtain ⟨cloud, isRun, isCharge⟩ := Option.map_eq_some_iff.mp ran
  have reached := System.reachable_of_exec chargedCloud_balanced isRun
  exact ⟨cloud, reached, isCharge, running_quota_conservation reached⟩

/-- A machine that is off gives back its running usage once more when it has moved. -/
theorem running_quota_conservation_migration :
    ¬∀ cloud : Cloud, (lifeCycle Balanced).Reachable System.anyStep cloud → cloud.Conserved := by
  intro always
  have ran : ((lifeCycle Balanced).exec System.anyStep chargedCloud
      (deployment ++ [.poweroff false, .callback (.shutdown true), migration 1 (-1) false,
        .callback (.prolog true)])).map charge = some (.poweroff, .lcmInit, -1) := by
    decide +kernel
  obtain ⟨cloud, isRun, isCharge⟩ := Option.map_eq_some_iff.mp ran
  have conserved := always cloud (System.reachable_of_exec chargedCloud_balanced isRun)
  simp only [charge, Prod.mk.injEq] at isCharge
  obtain ⟨off, -, drifted⟩ := isCharge
  rw [conserved.off (by rw [off]; decide)] at drifted
  exact absurd drifted (by decide)

end Cloud

end OpenNebula.Vm
