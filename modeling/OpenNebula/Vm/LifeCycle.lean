import Mathlib.Data.Finset.Option
import OpenNebula.Library.Transition
import OpenNebula.Vm.VirtualMachine

namespace OpenNebula.Vm

/-! # The life cycle of a virtual machine (`DispatchManager`, `LifeCycleManager`)

The handlers of both managers and the requests of `VirtualMachineAPI` that they serve, for
one machine.  A request runs together with the triggers that it raises, and so does the
answer of a driver.  What a request needs of the rest of the cloud (authorization, room in
a host, the drivers) is part of the request.  Quotas of clusters are left out.
-/

/-- The machine, and what the managers keep about it elsewhere -/
structure Cloud where
  vm : VirtualMachine
  /-- The hosts whose VM collection holds the machine -/
  hosts : Finset Int
  /-- What the user's quotas count for the machine; the group's are charged and given back after them. -/
  usage : RunningUsage
  generic : List String

namespace Cloud

variable (cloud : Cloud)

def enter (state : VmState) (lcmState : LcmState) : Cloud :=
  { cloud with vm := cloud.vm.enter state lcmState }

def setLcmState (lcmState : LcmState) : Cloud :=
  { cloud with vm := cloud.vm.setLcmState lcmState }

def updateVm (update : VirtualMachine → VirtualMachine) : Cloud :=
  { cloud with vm := update cloud.vm }

def addCapacity (hid : Option Int) : Cloud := { cloud with hosts := cloud.hosts ∪ hid.toFinset }

def delCapacity (hid : Option Int) : Cloud := { cloud with hosts := cloud.hosts \ hid.toFinset }

def vmAdd (amount : RunningUsage) : Cloud := { cloud with usage := cloud.usage + amount }

def vmDel (amount : RunningUsage) : Cloud := { cloud with usage := cloud.usage - amount }

section

variable (state : VmState)

section

variable (lcmState : LcmState)

@[simp] theorem enter_vm :
    (cloud.enter state lcmState).vm = cloud.vm.enter state lcmState := rfl

@[simp] theorem enter_hosts :
    (cloud.enter state lcmState).hosts = cloud.hosts := rfl

@[simp] theorem enter_usage :
    (cloud.enter state lcmState).usage = cloud.usage := rfl

@[simp] theorem enter_generic :
    (cloud.enter state lcmState).generic = cloud.generic := rfl

end

end

section

variable (lcmState : LcmState)

@[simp] theorem setLcmState_vm :
    (cloud.setLcmState lcmState).vm = cloud.vm.setLcmState lcmState := rfl

@[simp] theorem setLcmState_hosts : (cloud.setLcmState lcmState).hosts = cloud.hosts := rfl

@[simp] theorem setLcmState_usage : (cloud.setLcmState lcmState).usage = cloud.usage := rfl

@[simp] theorem setLcmState_generic :
    (cloud.setLcmState lcmState).generic = cloud.generic := rfl

end

section

variable (update : VirtualMachine → VirtualMachine)
include update

@[simp] theorem updateVm_vm : (cloud.updateVm update).vm = update cloud.vm := rfl

@[simp] theorem updateVm_hosts : (cloud.updateVm update).hosts = cloud.hosts := rfl

@[simp] theorem updateVm_usage : (cloud.updateVm update).usage = cloud.usage := rfl

@[simp] theorem updateVm_generic : (cloud.updateVm update).generic = cloud.generic := rfl

end

section

variable (hid : Option Int)
include hid

@[simp] theorem addCapacity_vm : (cloud.addCapacity hid).vm = cloud.vm := rfl

@[simp] theorem addCapacity_hosts : (cloud.addCapacity hid).hosts = cloud.hosts ∪ hid.toFinset := rfl

@[simp] theorem addCapacity_usage : (cloud.addCapacity hid).usage = cloud.usage := rfl

@[simp] theorem addCapacity_generic : (cloud.addCapacity hid).generic = cloud.generic := rfl

@[simp] theorem delCapacity_vm : (cloud.delCapacity hid).vm = cloud.vm := rfl

@[simp] theorem delCapacity_hosts : (cloud.delCapacity hid).hosts = cloud.hosts \ hid.toFinset := rfl

@[simp] theorem delCapacity_usage : (cloud.delCapacity hid).usage = cloud.usage := rfl

@[simp] theorem delCapacity_generic : (cloud.delCapacity hid).generic = cloud.generic := rfl

end

section

variable (amount : RunningUsage)
include amount

@[simp] theorem vmAdd_vm : (cloud.vmAdd amount).vm = cloud.vm := rfl

@[simp] theorem vmAdd_usage : (cloud.vmAdd amount).usage = cloud.usage + amount := rfl

@[simp] theorem vmAdd_generic : (cloud.vmAdd amount).generic = cloud.generic := rfl

@[simp] theorem vmDel_vm : (cloud.vmDel amount).vm = cloud.vm := rfl

@[simp] theorem vmDel_usage : (cloud.vmDel amount).usage = cloud.usage - amount := rfl

@[simp] theorem vmDel_generic : (cloud.vmDel amount).generic = cloud.generic := rfl

end

def quotaTemplate (runningQuota : Bool) : RunningUsage :=
  if runningQuota then cloud.vm.runningQuota cloud.generic else 0

def triggerSuspendSuccess : Cloud :=
  if cloud.vm.state = .active ∧ cloud.vm.lcmState ∈
      [.saveSuspend, .prologMigrateSuspend, .prologMigrateSuspendFailure,
        .diskSnapshotSuspended, .diskSnapshotDeleteSuspended] then
    (cloud.vmDel (cloud.quotaTemplate true)).enter .suspended .lcmInit
  else cloud

def triggerStopSuccess : Cloud :=
  if cloud.vm.state = .active ∧ cloud.vm.lcmState ∈ [.epilogStop, .prologResume] then
    ((cloud.vmDel (cloud.quotaTemplate true)).updateVm fun vm =>
      if vm.getAction = .none then vm.setAction .stop else vm).enter .stopped .lcmInit
  else cloud

def triggerUndeploySuccess : Cloud :=
  if cloud.vm.state = .active ∧ cloud.vm.lcmState ∈
      [.epilogUndeploy, .diskResizeUndeployed, .prologUndeploy] then
    ((cloud.vmDel (cloud.quotaTemplate cloud.vm.isRunningQuota)).updateVm fun vm =>
      if vm.getAction = .none then vm.setAction .undeploy else vm).enter .undeployed .lcmInit
  else cloud

def triggerPoweroffSuccess : Cloud :=
  if cloud.vm.state = .active ∧ cloud.vm.lcmState ∈
      [.shutdownPoweroff, .hotplugPrologPoweroff, .hotplugEpilogPoweroff,
        .prologMigratePoweroff, .diskSnapshotPoweroff, .diskSnapshotRevertPoweroff,
        .diskSnapshotDeletePoweroff, .diskResizePoweroff, .hotplugNicPoweroff,
        .prologMigratePoweroffFailure] then
    (cloud.vmDel (cloud.quotaTemplate cloud.vm.isRunningQuota)).enter .poweroff .lcmInit
  else cloud

def freeVmResources : Cloud :=
  ((cloud.vmDel (cloud.quotaTemplate cloud.vm.isRunningQuota)).updateVm
    fun vm => vm.setEtime true).enter .done .lcmInit

def triggerDone : Cloud :=
  if cloud.vm.state = .active ∧ cloud.vm.lcmState ∈ [.epilog, .cleanupDelete] then
    cloud.freeVmResources
  else cloud

def triggerResubmit : Cloud :=
  if cloud.vm.lcmState = .cleanupResubmit then cloud.enter .pending .lcmInit else cloud

def triggerDeploy : Cloud :=
  if cloud.vm.state = .active then
    let lcmState : LcmState :=
      if cloud.vm.previousAction = .stop then .prologResume
      else if cloud.vm.previousAction ∈ [.undeploy, .undeployHard] then .prologUndeploy
      else .prolog
    (cloud.setLcmState lcmState).addCapacity cloud.vm.hid
  else cloud

/-- The last host keeps no capacity, unless it is the new one. -/
def delPreviousCapacity : Cloud :=
  if cloud.vm.hid ≠ cloud.vm.previousHid then cloud.delCapacity cloud.vm.previousHid else cloud

def triggerMigrate (action : VmAction) : Cloud :=
  if cloud.vm.state = .active ∧ cloud.vm.lcmState = .running then
    ((cloud.setLcmState .saveMigrate).addCapacity cloud.vm.hid).updateVm fun vm =>
      (vm.setAction action).setPreviousAction action
  else
    let bypass (lcmState : LcmState) : Cloud :=
      (((cloud.enter .active lcmState).updateVm fun vm =>
        vm.setPreviousEtime.setAction .migrate).addCapacity cloud.vm.hid).delPreviousCapacity
    match cloud.vm.state, cloud.vm.lcmState with
    | .poweroff, _ => bypass .prologMigratePoweroff
    | .suspended, _ => bypass .prologMigrateSuspend
    | .active, .unknown =>
      (bypass .prologMigrateUnknown).updateVm fun vm => vm.setPreviousAction .migrate
    | _, _ => cloud

def triggerLiveMigrate : Cloud :=
  if cloud.vm.state = .active ∧ cloud.vm.lcmState = .running then
    ((cloud.setLcmState .migrate).addCapacity cloud.vm.hid).updateVm fun vm =>
      vm.setPreviousAction .liveMigrate
  else cloud

def startPrologMigrate : Cloud :=
  ((cloud.setLcmState .prologMigrate).updateVm VirtualMachine.setPreviousEtime).delPreviousCapacity

def revertMigrateAfterFailure : Cloud :=
  let closed := (cloud.setLcmState .running).updateVm fun vm => vm.setEtime true
  let reverted := if cloud.vm.hid ≠ cloud.vm.previousHid then closed.delCapacity cloud.vm.hid else closed
  reverted.updateVm fun vm => vm.setPreviousEtime.cpPreviousHistory

def triggerSaveSuccess : Cloud :=
  match cloud.vm.lcmState with
  | .saveMigrate => cloud.startPrologMigrate
  | .saveSuspend => cloud.triggerSuspendSuccess
  | .saveStop => cloud.setLcmState .epilogStop
  | _ => cloud

def triggerSaveFailure : Cloud :=
  match cloud.vm.lcmState with
  | .saveMigrate => cloud.revertMigrateAfterFailure
  | .saveSuspend | .saveStop =>
    (cloud.setLcmState .running).updateVm fun vm => vm.setAction .none
  | _ => cloud

def bootStates : List LcmState :=
  [.boot, .bootPoweroff, .bootUnknown, .bootSuspended, .bootStopped, .bootUndeploy,
    .bootMigrate, .bootMigrateFailure, .bootStoppedFailure, .bootUndeployFailure, .bootFailure]

def triggerDeploySuccess : Cloud :=
  if cloud.vm.lcmState = .migrate then
    -- the capacity of the last host goes even when it is the new one
    ((cloud.updateVm VirtualMachine.setPreviousEtime).delCapacity cloud.vm.previousHid).setLcmState .running
  else if cloud.vm.lcmState ∈ bootStates then
    (cloud.setLcmState .running).updateVm fun vm => (vm.setAction .none).setEtime false
  else cloud

def triggerDeployFailure : Cloud :=
  match cloud.vm.lcmState with
  | .migrate => cloud.revertMigrateAfterFailure
  | .boot => cloud.setLcmState .bootFailure
  | .bootMigrate => cloud.setLcmState .bootMigrateFailure
  | .bootUnknown => cloud.setLcmState .unknown
  | .bootPoweroff => cloud.enter .poweroff .lcmInit
  | .bootSuspended => cloud.enter .suspended .lcmInit
  | .bootStopped =>
    (cloud.setLcmState .bootStoppedFailure).updateVm fun vm => vm.setEtime true
  | .bootUndeploy =>
    (cloud.setLcmState .bootUndeployFailure).updateVm fun vm => vm.setEtime true
  | _ => cloud

def triggerShutdownSuccess : Cloud :=
  match cloud.vm.lcmState with
  | .shutdown => cloud.setLcmState .epilog
  | .shutdownPoweroff => cloud.triggerPoweroffSuccess
  | .shutdownUndeploy => cloud.setLcmState .epilogUndeploy
  | .saveMigrate => cloud.startPrologMigrate
  | _ => cloud

def triggerShutdownFailure : Cloud :=
  match cloud.vm.lcmState with
  | .shutdown | .shutdownPoweroff | .shutdownUndeploy =>
    (cloud.setLcmState .running).updateVm fun vm => vm.setAction .none
  | .saveMigrate => cloud.revertMigrateAfterFailure
  | _ => cloud

def triggerPrologSuccess : Cloud :=
  match cloud.vm.lcmState with
  | .prologResume | .prologResumeFailure => cloud.setLcmState .bootStopped
  | .prologUndeploy | .prologUndeployFailure => cloud.setLcmState .bootUndeploy
  | .prologMigrate | .prologMigrateFailure =>
    if cloud.vm.getAction ∈ [.poffMigrate, .poffHardMigrate] then cloud.setLcmState .boot
    else cloud.setLcmState .bootMigrate
  | .prologMigrateUnknown | .prologMigrateUnknownFailure | .prolog | .prologFailure =>
    cloud.setLcmState .boot
  | .prologMigratePoweroff | .prologMigratePoweroffFailure => cloud.triggerPoweroffSuccess
  | .prologMigrateSuspend | .prologMigrateSuspendFailure => cloud.triggerSuspendSuccess
  | _ => cloud

def revertPrologMigrate (lcmState : LcmState) : Cloud :=
  let closed := (cloud.updateVm fun vm => vm.setEtime true).setLcmState lcmState
  let moved := (closed.delCapacity cloud.vm.hid).updateVm VirtualMachine.cpPreviousHistory
  (moved.addCapacity moved.vm.hid).triggerPrologSuccess

def triggerPrologFailure : Cloud :=
  match cloud.vm.lcmState with
  | .prolog => cloud.setLcmState .prologFailure
  | .prologMigrate => cloud.setLcmState .prologMigrateFailure
  | .prologMigratePoweroff => cloud.setLcmState .prologMigratePoweroffFailure
  | .prologMigrateSuspend => cloud.setLcmState .prologMigrateSuspendFailure
  | .prologMigrateUnknown => cloud.setLcmState .prologMigrateUnknownFailure
  | .prologResume => cloud.setLcmState .prologResumeFailure
  | .prologUndeploy => cloud.setLcmState .prologUndeployFailure
  -- recovery from a failure with a failure
  | .prologMigrateFailure => cloud.revertPrologMigrate .prologMigrate
  | .prologMigratePoweroffFailure => cloud.revertPrologMigrate .prologMigratePoweroff
  | .prologMigrateSuspendFailure => cloud.revertPrologMigrate .prologMigrateSuspend
  | .prologMigrateUnknownFailure => cloud.revertPrologMigrate .prologMigrateUnknown
  | _ => cloud

/-- The end of an epilog: the record is closed and the host freed. -/
def closeEpilog (lcmState : LcmState) : Cloud :=
  ((cloud.setLcmState lcmState).updateVm fun vm => vm.setEtime true).delCapacity cloud.vm.hid

def triggerEpilogSuccess : Cloud :=
  match cloud.vm.lcmState with
  | .epilogStop | .epilogStopFailure => (cloud.closeEpilog .epilogStop).triggerStopSuccess
  | .epilogUndeploy | .epilogUndeployFailure =>
    (cloud.closeEpilog .epilogUndeploy).triggerUndeploySuccess
  | .epilog | .epilogFailure => (cloud.closeEpilog .epilog).triggerDone
  | .cleanupResubmit => cloud.triggerResubmit
  | _ => cloud

def triggerEpilogFailure : Cloud :=
  match cloud.vm.lcmState with
  | .cleanupResubmit => cloud.triggerResubmit
  | .epilog => cloud.setLcmState .epilogFailure
  | .epilogStop => cloud.setLcmState .epilogStopFailure
  | .epilogUndeploy => cloud.setLcmState .epilogUndeployFailure
  | _ => cloud

def triggerCleanupCallback : Cloud := cloud.triggerResubmit

/-- How an operation ends -/
inductive Exit where
  | running
  /-- Back to a state of the dispatch manager, without its trigger -/
  | direct (state : VmState)
  | poweroffSuccess
  | suspendSuccess
  | undeploySuccess
deriving DecidableEq

def leave : Exit → Cloud
  | .running => cloud.setLcmState .running
  | .direct state => cloud.enter state .lcmInit
  | .poweroffSuccess => cloud.triggerPoweroffSuccess
  | .suspendSuccess => cloud.triggerSuspendSuccess
  | .undeploySuccess => cloud.triggerUndeploySuccess

def finish (exits : List (LcmState × Exit)) : Cloud :=
  ((exits.lookup cloud.vm.lcmState).map cloud.leave).getD cloud

theorem lookup_mem {α β : Type} [BEq α] [LawfulBEq α] {entries : List (α × β)} {key : α}
    {value : β} (found : entries.lookup key = some value) : (key, value) ∈ entries := by
  obtain ⟨first, last, split, _⟩ := List.lookup_eq_some_iff.1 found
  rw [split]
  simp

inductive Operation where
  | attach | detach | snapshot | saveas | diskSnapshot | diskResize | updateConf | exec
  | updateNic | backup | diskRestore
deriving DecidableEq

/-- The exits of `trigger_*_success` and `trigger_*_failure`, which are the same -/
def Operation.exits : Operation → List (LcmState × Exit)
  | .attach => [(.hotplug, .running), (.hotplugPrologPoweroff, .poweroffSuccess)]
  | .detach => [(.hotplug, .running), (.hotplugEpilogPoweroff, .poweroffSuccess)]
  | .snapshot => [(.hotplugSnapshot, .running)]
  | .saveas =>
    [(.hotplugSaveas, .running), (.hotplugSaveasPoweroff, .direct .poweroff),
      (.hotplugSaveasSuspended, .direct .suspended), (.hotplugSaveasUndeployed, .direct .undeployed),
      (.hotplugSaveasStopped, .direct .stopped)]
  | .diskSnapshot =>
    [(.diskSnapshot, .running), (.diskSnapshotDelete, .running), (.diskSnapshotPoweroff, .poweroffSuccess),
      (.diskSnapshotRevertPoweroff, .poweroffSuccess), (.diskSnapshotDeletePoweroff, .poweroffSuccess),
      (.diskSnapshotSuspended, .suspendSuccess), (.diskSnapshotDeleteSuspended, .suspendSuccess)]
  | .diskResize =>
    [(.diskResize, .running), (.diskResizePoweroff, .poweroffSuccess), (.diskResizeUndeployed, .undeploySuccess)]
  | .updateConf | .exec => [(.hotplug, .running)]
  | .updateNic => [(.hotplugNic, .running)]
  | .backup => [(.backup, .running), (.backupPoweroff, .direct .poweroff)]
  | .diskRestore => [(.restore, .direct .poweroff)]

def oneNic : RunningUsage
  | .pciNic => 1
  | _ => 0

def deleteAttachNic : Cloud :=
  match cloud.vm.attachNic with
  | some true =>
    (if cloud.vm.isRunningQuota then cloud.vmDel oneNic else cloud).updateVm fun vm =>
      { vm with attachNic := none, pciNic := vm.pciNic - 1 }
  | _ => cloud.updateVm fun vm => { vm with attachNic := none }

def clearAttachNic : Cloud := cloud.updateVm fun vm => { vm with attachNic := none }

def triggerNicKept : Cloud :=
  match cloud.vm.lcmState with
  | .hotplugNic => cloud.clearAttachNic.setLcmState .running
  | .hotplugNicPoweroff => cloud.clearAttachNic.triggerPoweroffSuccess
  | _ => cloud

def triggerNicDeleted : Cloud :=
  match cloud.vm.lcmState with
  | .hotplugNic => (cloud.setLcmState .running).deleteAttachNic
  | .hotplugNicPoweroff => cloud.deleteAttachNic.triggerPoweroffSuccess
  | _ => cloud

def triggerResizeSuccess : Cloud :=
  if cloud.vm.lcmState = .hotplugResize then
    (cloud.setLcmState .running).updateVm fun vm => { vm with resizeAttribute := none }
  else cloud

def resizeDeltas (old new : Capacity) : RunningUsage
  | .memory => new.memory - old.memory
  | .cpu => new.cpu - old.cpu
  | .generic name =>
    if name = "VCPU" ∧ name ∈ cloud.generic then new.vcpu - old.vcpu else 0
  | _ => 0

def triggerResizeFailure : Cloud :=
  if cloud.vm.lcmState = .hotplugResize then
    let running := ((cloud.setLcmState .running).delCapacity cloud.vm.hid).addCapacity cloud.vm.hid
    match cloud.vm.resizeAttribute with
    | none => running
    | some old =>
      (running.updateVm fun vm => { vm.resize old with resizeAttribute := none }).vmDel
        (cloud.resizeDeltas old cloud.vm.capacity)
  else cloud

def triggerDiskLock (ready error onHold : Bool) : Cloud :=
  if cloud.vm.state ∈ [.cloning, .cloningFailure] then
    if ready then
      if onHold then cloud.enter .hold cloud.vm.lcmState else cloud.enter .pending cloud.vm.lcmState
    else if error then cloud.enter .cloningFailure cloud.vm.lcmState
    else cloud.enter .cloning cloud.vm.lcmState
  else cloud

def triggerMonitorSuspend : Cloud :=
  if cloud.vm.lcmState ∈ [.running, .unknown] then
    ((cloud.setLcmState .saveSuspend).updateVm fun vm =>
      vm.setAction .monitor).triggerSuspendSuccess
  else cloud

def triggerMonitorDone : Cloud :=
  if cloud.vm.lcmState = .running then cloud.setLcmState .unknown else cloud

def triggerMonitorPoweroff : Cloud :=
  if cloud.vm.lcmState ∈ [.running, .unknown] then
    ((cloud.setLcmState .shutdownPoweroff).updateVm fun vm =>
      vm.setAction .monitor).triggerPoweroffSuccess
  else if cloud.vm.lcmState ∈ [.shutdown, .shutdownPoweroff, .shutdownUndeploy] then
    cloud.triggerShutdownSuccess
  else cloud

def triggerMonitorPoweron : Cloud :=
  if cloud.vm.state ∈ [.poweroff, .suspended] then
    ((cloud.enter .active .running).updateVm fun vm => (vm.setEtime true).cpHistory).vmAdd
      (cloud.quotaTemplate true)
  else if cloud.vm.state = .active then
    if cloud.vm.lcmState = .unknown then cloud.setLcmState .running
    else if cloud.vm.lcmState ∈ bootStates then cloud.triggerDeploySuccess
    else cloud
  else cloud

end Cloud

end OpenNebula.Vm
