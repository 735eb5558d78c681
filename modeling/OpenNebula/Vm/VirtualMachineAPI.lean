import OpenNebula.Vm.LifeCycle

namespace OpenNebula.Vm

open Library

/-! # Requests on a virtual machine, and its life cycle as a state machine -/

namespace Cloud

variable (cloud : Cloud)

structure DeployRequest where
  hid : Int
  dsId : Int
  /-- Authorization, room in the host, drivers and ports -/
  granted : Bool
  /-- The quotas allow the running usage once more. -/
  inQuota : Bool

def deploy (request : DeployRequest) : Cloud :=
  if request.granted && cloud.vm.state ∈ [.pending, .hold, .stopped, .undeployed] then
    if cloud.vm.state ∈ [.stopped, .undeployed] then
      if request.inQuota then
        (((cloud.vmAdd (cloud.quotaTemplate true)).updateVm fun vm =>
          (vm.addHistory request.hid request.dsId).setState .active)).triggerDeploy
      else cloud
    else
      (cloud.updateVm fun vm =>
        (vm.addHistory request.hid request.dsId).setState .active).triggerDeploy
  else cloud

structure MigrateRequest where
  hid : Int
  dsId : Int
  live : Bool
  poweroff : Int
  /-- Authorization, room in the host, clusters, PCI devices, ports and quotas of clusters -/
  granted : Bool
  isDsLiveMigration : Bool
  /-- The driver can move a machine between system datastores. -/
  dsMigr : Bool
  sameTmMad : Bool

/-- The datastore of the current record -/
def dsId : Option Int := cloud.vm.history.map History.dsId

/-- The checks of `VirtualMachineAPI::migrate` -/
def admits (request : MigrateRequest) : Bool :=
  request.granted &&
  !cloud.vm.isPreviousHistoryOpen &&
  (cloud.vm.state ∈ [.poweroff, .suspended] ||
    (cloud.vm.state = .active && cloud.vm.lcmState ∈ [.running, .unknown])) &&
  !(request.live && cloud.vm.pinned) &&
  !(cloud.vm.hid = some request.hid && (request.dsId = -1 || cloud.dsId = some request.dsId)) &&
  (request.dsId = -1 || cloud.dsId = some request.dsId ||
    ((!request.live || request.isDsLiveMigration) && request.dsMigr && request.sameTmMad))

def migrateAction (poweroff : Int) : VmAction :=
  if poweroff = 1 then .poffMigrate else if poweroff = 2 then .poffHardMigrate else .migrate

def migrate (request : MigrateRequest) : Cloud :=
  if cloud.admits request then
    let dsId := if request.dsId = -1 then cloud.dsId.getD (-1) else request.dsId
    let moved := cloud.updateVm fun vm => vm.addHistory request.hid dsId
    if request.live && cloud.vm.lcmState = .running then moved.triggerLiveMigrate
    else moved.triggerMigrate (migrateAction request.poweroff)
  else cloud

def hold : Cloud :=
  if cloud.vm.state = .pending then cloud.enter .hold cloud.vm.lcmState else cloud

/-- `met` when the automatic requirements could be computed -/
def release (met : Bool) : Cloud :=
  if cloud.vm.state = .hold && met then cloud.enter .pending cloud.vm.lcmState else cloud

def stop : Cloud :=
  if cloud.vm.state = .active ∧ cloud.vm.lcmState = .running then
    (cloud.setLcmState .saveStop).updateVm fun vm => vm.setAction .stop
  else if cloud.vm.state = .suspended then
    ((cloud.enter .active .epilogStop).updateVm fun vm => vm.setAction .stop).vmAdd
      (cloud.quotaTemplate true)
  else cloud

def suspend : Cloud :=
  if cloud.vm.state = .active ∧ cloud.vm.lcmState = .running then
    (cloud.setLcmState .saveSuspend).updateVm fun vm => vm.setAction .suspend
  else cloud

def shutsDown (hard : Bool) (lcmState : LcmState) : Bool :=
  cloud.vm.state = .active &&
  (cloud.vm.lcmState ∈ [.running, .unknown] || (hard && cloud.vm.lcmState = lcmState))

def poweroff (hard : Bool) : Cloud :=
  if cloud.shutsDown hard .shutdownPoweroff then
    (cloud.setLcmState .shutdownPoweroff).updateVm fun vm =>
      vm.setAction (if hard then .poweroffHard else .poweroff)
  else cloud

def undeploy (hard : Bool) : Cloud :=
  if cloud.shutsDown hard .shutdownUndeploy then
    (cloud.setLcmState .shutdownUndeploy).updateVm fun vm =>
      vm.setAction (if hard then .undeployHard else .undeploy)
  else if cloud.vm.state = .poweroff then
    ((cloud.enter .active .epilogUndeploy).updateVm fun vm => vm.setAction .undeploy).vmAdd
      (cloud.quotaTemplate true)
  else cloud

def triggerShutdown (hard : Bool) : Cloud :=
  if cloud.shutsDown hard .shutdown then
    (cloud.setLcmState .shutdown).updateVm fun vm =>
      vm.setAction (if hard then .terminateHard else .terminate)
  else if cloud.vm.state ∈ [.suspended, .poweroff, .stopped, .undeployed] then
    ((cloud.enter .active .epilog).updateVm fun vm => vm.setAction .terminate).vmAdd
      (cloud.quotaTemplate true)
  else cloud

def triggerRestore : Cloud :=
  if cloud.vm.state = .suspended then
    (cloud.enter .active .bootSuspended).updateVm fun vm =>
      ((vm.setEtime true).cpHistory).setAction .resume
  else cloud

def triggerRestart : Cloud :=
  if cloud.vm.state = .active ∧ cloud.vm.lcmState = .unknown then
    cloud.setLcmState .bootUnknown
  else if cloud.vm.state = .poweroff then
    (cloud.enter .active .bootPoweroff).updateVm fun vm =>
      ((vm.setEtime true).cpHistory).setAction .resume
  else cloud

/-- The running usage is charged first, and given back when the action is refused. -/
def resume (inQuota met : Bool) : Cloud :=
  let charged := cloud.vmAdd (cloud.quotaTemplate true)
  if !inQuota then cloud
  else if cloud.vm.state ∈ [.stopped, .undeployed] then
    if met then charged.enter .pending cloud.vm.lcmState else cloud
  else if cloud.vm.state = .suspended then charged.triggerRestore
  else if cloud.vm.state = .poweroff ∨
      (cloud.vm.state = .active ∧ cloud.vm.lcmState = .unknown) then
    charged.triggerRestart
  else cloud

def cleanUpVm (dispose : Bool) : Cloud × RunningUsage :=
  let cleaned : Cloud :=
    (((cloud.enter .active (if dispose then .cleanupDelete else .cleanupResubmit)).updateVm
      fun vm => (vm.setAction (if dispose then .delete else .deleteRecreate)).setEtime true)).delCapacity
        cloud.vm.hid
  if cloud.vm.state ∈ [.poweroff, .suspended] then
    (cleaned, fun
      | .memory => -cloud.vm.memory
      | .cpu => -cloud.vm.cpu
      | .vms => -1
      | _ => 0)
  else
    match cloud.vm.lcmState with
    | .hotplugNic | .hotplugNicPoweroff => (cleaned.clearAttachNic, 0)
    | .hotplugResize =>
      (cleaned.updateVm fun vm => { vm with resizeAttribute := none }, 0)
    | .migrate | .saveMigrate =>
      ((cleaned.updateVm VirtualMachine.setPreviousEtime).delCapacity cloud.vm.previousHid, 0)
    | _ => (cleaned, 0)

def triggerDelete : Cloud :=
  if cloud.vm.state = .active then
    match cloud.vm.lcmState with
    | .cleanupResubmit => (cloud.setLcmState .cleanupDelete).triggerDone
    | .cleanupDelete => cloud.triggerDone
    | _ => (cloud.cleanUpVm true).1.triggerDone
  else cloud

def triggerDeleteRecreate : Cloud :=
  if cloud.vm.state ∈ [.active, .poweroff, .suspended] then
    match cloud.vm.lcmState with
    | .cleanupDelete => cloud
    | .cleanupResubmit => cloud.triggerResubmit
    | _ => (cloud.cleanUpVm false).1.vmDel (cloud.cleanUpVm false).2
  else cloud

def deleteVm : Cloud :=
  match cloud.vm.state with
  | .suspended | .poweroff => (cloud.delCapacity cloud.vm.hid).freeVmResources
  | .stopped | .undeployed | .init | .pending | .hold | .cloning | .cloningFailure =>
    cloud.freeVmResources
  | .active => cloud.triggerDelete
  | .done => cloud

def deleteRecreate (inUserQuota inGroupQuota : Bool) : Cloud :=
  match cloud.vm.state with
  | .init | .pending | .cloning | .cloningFailure | .done => cloud
  | .stopped | .undeployed =>
    let charged := cloud.vmAdd (cloud.quotaTemplate true)
    if !inUserQuota then cloud
    -- `vm_check` has stored the user's quotas when the group's refuse
    else if !inGroupQuota then charged
    else (charged.updateVm fun vm => vm.setAction .deleteRecreate).enter .pending .lcmInit
  | .hold => (cloud.updateVm fun vm => vm.setAction .deleteRecreate).enter .pending .lcmInit
  | .poweroff | .suspended | .active => cloud.triggerDeleteRecreate

def deleteVmDb : Cloud :=
  match cloud.vm.state with
  | .suspended | .poweroff | .active => (cloud.delCapacity cloud.vm.hid).freeVmResources
  | .stopped | .undeployed | .init | .pending | .hold | .cloning | .cloningFailure =>
    cloud.freeVmResources
  | .done => cloud

def terminate (hard : Bool) : Cloud :=
  match cloud.vm.state with
  | .suspended | .poweroff | .stopped | .undeployed => cloud.triggerShutdown false
  | .init | .pending | .hold | .cloning | .cloningFailure => cloud.freeVmResources
  | .done => cloud
  | .active =>
    if cloud.vm.lcmState ∈ [.running, .unknown] ∨ (hard ∧ cloud.vm.lcmState = .shutdown) then
      cloud.triggerShutdown hard
    else if cloud.vm.lcmState ∈
        [.bootFailure, .bootMigrateFailure, .prologMigrateFailure, .prologFailure,
          .epilogFailure, .epilogStopFailure, .epilogUndeployFailure,
          .prologMigratePoweroffFailure, .prologMigrateSuspendFailure, .bootUndeployFailure,
          .bootStoppedFailure, .prologResumeFailure, .prologUndeployFailure,
          .prologMigrateUnknownFailure] then
      cloud.triggerDelete
    else cloud

/-- `LifeCycleManager::recover`: the answer that the driver would give -/
def recoverLcm (success : Bool) : Cloud :=
  let answer (ifSuccess ifFailure : Cloud) : Cloud := if success then ifSuccess else ifFailure
  match cloud.vm.lcmState with
  | .lcmInit | .running => cloud
  | .cleanupDelete => cloud.triggerDone
  | .cleanupResubmit => cloud.triggerResubmit
  | .unknown => cloud.setLcmState .running
  | .prolog | .prologMigrate | .prologMigrateFailure | .prologResume | .prologResumeFailure
  | .prologUndeploy | .prologUndeployFailure | .prologFailure | .prologMigratePoweroff
  | .prologMigratePoweroffFailure | .prologMigrateSuspend | .prologMigrateSuspendFailure
  | .prologMigrateUnknown | .prologMigrateUnknownFailure =>
    answer cloud.triggerPrologSuccess cloud.triggerPrologFailure
  | .epilog | .epilogStop | .epilogUndeploy | .epilogFailure | .epilogStopFailure
  | .epilogUndeployFailure => answer cloud.triggerEpilogSuccess cloud.triggerEpilogFailure
  | .hotplugSaveas | .hotplugSaveasPoweroff | .hotplugSaveasSuspended
  | .hotplugSaveasUndeployed | .hotplugSaveasStopped => cloud.finish Operation.saveas.exits
  | .hotplugPrologPoweroff | .hotplug => cloud.finish Operation.attach.exits
  | .hotplugEpilogPoweroff => cloud.finish Operation.detach.exits
  | .boot | .bootUnknown | .bootPoweroff | .bootSuspended | .bootStopped | .bootUndeploy
  | .migrate | .bootMigrate | .bootMigrateFailure | .bootFailure | .bootStoppedFailure
  | .bootUndeployFailure => answer cloud.triggerDeploySuccess cloud.triggerDeployFailure
  | .backup | .backupPoweroff => cloud.finish Operation.backup.exits
  | .shutdown | .shutdownPoweroff | .shutdownUndeploy =>
    answer cloud.triggerShutdownSuccess cloud.triggerShutdownFailure
  | .saveStop | .saveSuspend | .saveMigrate =>
    answer cloud.triggerSaveSuccess cloud.triggerSaveFailure
  | .hotplugNic | .hotplugNicPoweroff => answer cloud.triggerNicKept cloud.triggerNicDeleted
  | .hotplugSnapshot => cloud.finish Operation.snapshot.exits
  | .hotplugResize => answer cloud.triggerResizeSuccess cloud.triggerResizeFailure
  | .diskSnapshotPoweroff | .diskSnapshotRevertPoweroff | .diskSnapshotDeletePoweroff
  | .diskSnapshotSuspended | .diskSnapshotDeleteSuspended | .diskSnapshot
  | .diskSnapshotDelete => cloud.finish Operation.diskSnapshot.exits
  | .diskResizePoweroff | .diskResizeUndeployed | .diskResize =>
    cloud.finish Operation.diskResize.exits
  | .restore => cloud.finish Operation.diskRestore.exits

/-- `DispatchManager::recover`, with the images that are cloned -/
def recover (success ready error onHold : Bool) : Cloud :=
  match cloud.vm.state with
  | .cloningFailure => cloud.triggerDiskLock ready error onHold
  | .active => cloud.recoverLcm success
  | _ => cloud

def retryStates : List (LcmState × LcmState) :=
  [(.bootFailure, .boot), (.bootMigrateFailure, .bootMigrate),
    (.bootUndeployFailure, .bootUndeploy), (.bootStoppedFailure, .bootStopped),
    (.prologMigrateFailure, .prologMigrate),
    (.prologMigratePoweroffFailure, .prologMigratePoweroff),
    (.prologMigrateSuspendFailure, .prologMigrateSuspend),
    (.prologMigrateUnknownFailure, .prologMigrateUnknown),
    (.prologResumeFailure, .prologResume), (.prologUndeployFailure, .prologUndeploy),
    (.prologFailure, .prolog), (.epilogFailure, .epilog), (.epilogStopFailure, .epilogStop),
    (.epilogUndeployFailure, .epilogUndeploy)]

/-- The other states ask the driver again and stay. -/
def retry : Cloud :=
  if cloud.vm.state = .active then
    ((retryStates.lookup cloud.vm.lcmState).map cloud.setLcmState).getD cloud
  else cloud

/-- The operations of the dispatch manager that wait for a driver, under their names -/
inductive Start where
  | attach | detach | snapshotCreate | snapshotRevert | snapshotDelete | updateNic | saveas
  | diskSnapshotCreate | diskSnapshotRevert | diskSnapshotDelete | diskResize
  | liveUpdateconf | backup | restore | exec | execCancel

def Start.entries : Start → List ((VmState × LcmState) × LcmState)
  | .attach =>
    [((.active, .running), .hotplug), ((.poweroff, .lcmInit), .hotplugPrologPoweroff)]
  | .detach =>
    [((.active, .running), .hotplug), ((.poweroff, .lcmInit), .hotplugEpilogPoweroff)]
  | .snapshotCreate | .snapshotRevert | .snapshotDelete =>
    [((.active, .running), .hotplugSnapshot)]
  | .updateNic => [((.active, .running), .hotplugNic)]
  | .saveas =>
    [((.active, .running), .hotplugSaveas), ((.poweroff, .lcmInit), .hotplugSaveasPoweroff),
      ((.suspended, .lcmInit), .hotplugSaveasSuspended), ((.undeployed, .lcmInit), .hotplugSaveasUndeployed),
      ((.stopped, .lcmInit), .hotplugSaveasStopped)]
  | .diskSnapshotCreate =>
    [((.poweroff, .lcmInit), .diskSnapshotPoweroff),
      ((.suspended, .lcmInit), .diskSnapshotSuspended), ((.active, .running), .diskSnapshot)]
  | .diskSnapshotRevert => [((.poweroff, .lcmInit), .diskSnapshotRevertPoweroff)]
  | .diskSnapshotDelete =>
    [((.poweroff, .lcmInit), .diskSnapshotDeletePoweroff), ((.suspended, .lcmInit), .diskSnapshotDeleteSuspended),
      ((.active, .running), .diskSnapshotDelete)]
  | .diskResize =>
    [((.poweroff, .lcmInit), .diskResizePoweroff),
      ((.undeployed, .lcmInit), .diskResizeUndeployed), ((.active, .running), .diskResize)]
  | .liveUpdateconf | .exec | .execCancel => [((.active, .running), .hotplug)]
  | .backup => [((.active, .running), .backup), ((.poweroff, .lcmInit), .backupPoweroff)]
  | .restore => [((.poweroff, .lcmInit), .restore)]

/-- The action of the record that the operation closes, if it closes one -/
def Start.action : Start → VmState → Option VmAction
  | .attach, _ => some .diskAttach
  | .detach, _ => some .diskDetach
  | .updateNic, _ => some .nicUpdate
  | .diskSnapshotCreate, _ => some .diskSnapshotCreate
  | .diskSnapshotRevert, _ => some .diskSnapshotRevert
  | .diskSnapshotDelete, _ => some .diskSnapshotDelete
  | .diskResize, .undeployed => none
  | .diskResize, _ => some .diskResize
  | .backup, _ => some .backup
  | .restore, _ => some .restore
  | .exec, _ => some .exec
  | .execCancel, _ => some .execCancel
  | .snapshotCreate, _ | .snapshotRevert, _ | .snapshotDelete, _ | .saveas, _
  | .liveUpdateconf, _ => none

/-- `accepted` when the disks, snapshots and images of the request are right -/
def start (operation : Start) (accepted : Bool) : Cloud :=
  match accepted, operation.entries.lookup (cloud.vm.state, cloud.vm.lcmState) with
  | true, some lcmState =>
    (cloud.updateVm fun vm =>
      (operation.action vm.state).elim vm vm.closeCpHistory).enter .active lcmState
  | _, _ => cloud

def attachNic (pci granted setUp cold : Bool) : Cloud :=
  let charged := if pci && cloud.vm.isRunningQuota then cloud.vmAdd oneNic else cloud
  let attached (attachNic : Option Bool) : Cloud :=
    charged.updateVm fun vm =>
      { vm.closeCpHistory .nicAttach with
        attachNic, pciNic := vm.pciNic + (if pci then 1 else 0) }
  if !granted then cloud
  else if cloud.vm.state = .active ∧ cloud.vm.lcmState = .running then
    if setUp then (attached (some pci)).setLcmState .hotplugNic else charged
  else if cloud.vm.state = .poweroff ∧ cloud.vm.lcmState = .lcmInit then
    if !setUp then charged
    else if cold then (attached (some pci)).enter .active .hotplugNicPoweroff
    else attached none
  else charged

def detachNic (pci found cold : Bool) : Cloud :=
  let marked : Cloud := cloud.updateVm fun vm => { vm.closeCpHistory .nicDetach with attachNic := some pci }
  if !found then cloud
  else if cloud.vm.state = .active ∧ cloud.vm.lcmState = .running then
    marked.setLcmState .hotplugNic
  else if cloud.vm.state = .poweroff ∧ cloud.vm.lcmState = .lcmInit then
    if cold then marked.enter .active .hotplugNicPoweroff else marked.deleteAttachNic
  else cloud

def changePci (change : Rat) (action : VmAction) (accepted : Bool) : Cloud :=
  if accepted && cloud.vm.state ∈ [.poweroff, .undeployed] && cloud.vm.lcmState = .lcmInit then
    cloud.updateVm fun vm =>
      { (if vm.state = .undeployed then vm else vm.closeCpHistory action) with
        pciDev := vm.pciDev + change }
  else cloud

def attachPci (accepted : Bool) : Cloud := cloud.changePci 1 .pciAttach accepted

def detachPci (accepted : Bool) : Cloud := cloud.changePci (-1) .pciDetach accepted

/-- An amount that a request leaves out keeps its value, and a pinned machine has a CPU for
each VCPU. -/
def resizeTarget (asked : Capacity) : Capacity :=
  let current := cloud.vm.capacity
  let cpu := if cloud.vm.pinned then asked.vcpu else asked.cpu
  { cpu := if cpu = 0 then current.cpu else cpu
    memory := if asked.memory = 0 then current.memory else asked.memory
    vcpu := if asked.vcpu = 0 then current.vcpu else asked.vcpu }

def resize (asked : Capacity) (inQuota accepted : Bool) : Cloud :=
  if asked.cpu < 0 ∨ asked.memory < 0 ∨ asked.vcpu < 0 ∨ !inQuota then cloud
  else
    let old := cloud.vm.capacity
    let new := cloud.resizeTarget asked
    let running := cloud.vm.state = .active ∧ cloud.vm.lcmState = .running
    let charged :=
      if cloud.vm.state ∈ [.pending, .hold] ∨ running then
        cloud.vmAdd (cloud.resizeDeltas old new)
      else cloud
    if cloud.vm.state ∈ [.init, .pending, .hold, .undeployed, .cloning, .cloningFailure] then
      if accepted then charged.updateVm fun vm => vm.resize new else cloud
    else if cloud.vm.state = .poweroff then
      if accepted then
        ((charged.updateVm fun vm => (vm.resize new).closeCpHistory .resize).delCapacity
          cloud.vm.hid).addCapacity cloud.vm.hid
      else cloud
    else if running ∧ !cloud.vm.pinned ∧ accepted then
      if old = new then charged.updateVm fun vm => vm.closeCpHistory .resize
      else
        (((charged.updateVm fun vm =>
          { (vm.resize new).closeCpHistory .resize with
            resizeAttribute := some old }).setLcmState .hotplugResize).delCapacity
          cloud.vm.hid).addCapacity cloud.vm.hid
    else cloud

end Cloud

/-- The driver that answers, and whether it succeeded -/
inductive Callback where
  | save (success : Bool)
  | deploy (success : Bool)
  | shutdown (success : Bool)
  | prolog (success : Bool)
  | epilog (success : Bool)
  | cleanup
  | operation (operation : Cloud.Operation) (found : Bool)
  | attachNic (success : Bool)
  | detachNic (success : Bool)
  | resize (success : Bool)
  | diskLock (ready error onHold : Bool)

inductive Monitor where
  | suspend | done | poweroff | poweron

inductive Event where
  | deploy (request : Cloud.DeployRequest)
  | migrate (request : Cloud.MigrateRequest)
  | hold
  | release (met : Bool)
  | stop
  | suspend
  | poweroff (hard : Bool)
  | undeploy (hard : Bool)
  | resume (inQuota met : Bool)
  | terminate (hard : Bool)
  | recover (success ready error onHold : Bool)
  | retry
  | delete
  | deleteRecreate (inUserQuota inGroupQuota : Bool)
  | deleteDb
  | start (operation : Cloud.Start) (accepted : Bool)
  | attachNic (pci granted setUp cold : Bool)
  | detachNic (pci found cold : Bool)
  | attachPci (accepted : Bool)
  | detachPci (accepted : Bool)
  | resize (asked : Capacity) (inQuota accepted : Bool)
  | callback (callback : Callback)
  | monitor (report : Monitor)

namespace Cloud

variable (cloud : Cloud)

def answer : Callback → Cloud
  | .save success => if success then cloud.triggerSaveSuccess else cloud.triggerSaveFailure
  | .deploy success =>
    if success then cloud.triggerDeploySuccess else cloud.triggerDeployFailure
  | .shutdown success =>
    if success then cloud.triggerShutdownSuccess else cloud.triggerShutdownFailure
  | .prolog success =>
    if success then cloud.triggerPrologSuccess else cloud.triggerPrologFailure
  | .epilog success =>
    if success then cloud.triggerEpilogSuccess else cloud.triggerEpilogFailure
  | .cleanup => cloud.triggerCleanupCallback
  | .operation operation found => if found then cloud.finish operation.exits else cloud
  | .attachNic success => if success then cloud.triggerNicKept else cloud.triggerNicDeleted
  | .detachNic success => if success then cloud.triggerNicDeleted else cloud.triggerNicKept
  | .resize success =>
    if success then cloud.triggerResizeSuccess else cloud.triggerResizeFailure
  | .diskLock ready error onHold => cloud.triggerDiskLock ready error onHold

def report : Monitor → Cloud
  | .suspend => cloud.triggerMonitorSuspend
  | .done => cloud.triggerMonitorDone
  | .poweroff => cloud.triggerMonitorPoweroff
  | .poweron => cloud.triggerMonitorPoweron

def step : Event → Cloud
  | .deploy request => cloud.deploy request
  | .migrate request => cloud.migrate request
  | .hold => cloud.hold
  | .release met => cloud.release met
  | .stop => cloud.stop
  | .suspend => cloud.suspend
  | .poweroff hard => cloud.poweroff hard
  | .undeploy hard => cloud.undeploy hard
  | .resume inQuota met => cloud.resume inQuota met
  | .terminate hard => cloud.terminate hard
  | .recover success ready error onHold => cloud.recover success ready error onHold
  | .retry => cloud.retry
  | .delete => cloud.deleteVm
  | .deleteRecreate inUserQuota inGroupQuota => cloud.deleteRecreate inUserQuota inGroupQuota
  | .deleteDb => cloud.deleteVmDb
  | .start operation accepted => cloud.start operation accepted
  | .attachNic pci granted setUp cold => cloud.attachNic pci granted setUp cold
  | .detachNic pci found cold => cloud.detachNic pci found cold
  | .attachPci accepted => cloud.attachPci accepted
  | .detachPci accepted => cloud.detachPci accepted
  | .resize asked inQuota accepted => cloud.resize asked inQuota accepted
  | .callback callback => cloud.answer callback
  | .monitor report => cloud.report report

end Cloud

/-- Every event can happen in every state; the wrong ones change nothing. -/
def lifeCycle (initial : Cloud → Prop) : System Cloud Event where
  initial := initial
  step cloud event := some (cloud.step event)

namespace Cloud

def pendingCloud : Cloud where
  vm := {
    state := .pending
    lcmState := .lcmInit
    history := none
    previousHistory := none
    cpu := 1
    memory := 1024
    pciDev := 0
    pciNic := 0
    amount := fun _ => 0 }
  hosts := ∅
  usage := 0
  generic := []

def deployment : List Event :=
  [.deploy { hid := 0, dsId := 100, granted := true, inQuota := true },
    .callback (.prolog true), .callback (.deploy true)]

def migration (hid dsId : Int) (live : Bool) : Event :=
  .migrate {
    hid, dsId, live, poweroff := 0, granted := true
    isDsLiveMigration := true, dsMigr := true, sameTmMad := true }

end Cloud

end OpenNebula.Vm
