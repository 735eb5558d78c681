import Mathlib.Algebra.Order.Field.Rat

namespace OpenNebula.Vm

/-! # The virtual machine (`VirtualMachine`)

The state that the dispatch manager sets, the state that the life-cycle manager sets, the
current and the previous history record, and the part of the template that is charged as
running usage.
-/

inductive VmState where
  | init | pending | hold | active | stopped | suspended | done | poweroff | undeployed
  | cloning | cloningFailure
deriving DecidableEq

inductive LcmState where
  | lcmInit | prolog | boot | running | migrate | saveStop | saveSuspend | saveMigrate
  | prologMigrate | prologResume | epilogStop | epilog | shutdown | cleanupResubmit | unknown
  | hotplug | shutdownPoweroff | bootUnknown | bootPoweroff | bootSuspended | bootStopped
  | cleanupDelete | hotplugSnapshot | hotplugNic | hotplugSaveas | hotplugSaveasPoweroff
  | hotplugSaveasSuspended | shutdownUndeploy | epilogUndeploy | prologUndeploy | bootUndeploy
  | hotplugPrologPoweroff | hotplugEpilogPoweroff | bootMigrate | bootFailure
  | bootMigrateFailure | prologMigrateFailure | prologFailure | epilogFailure
  | epilogStopFailure | epilogUndeployFailure | prologMigratePoweroff
  | prologMigratePoweroffFailure | prologMigrateSuspend | prologMigrateSuspendFailure
  | bootUndeployFailure | bootStoppedFailure | prologResumeFailure | prologUndeployFailure
  | diskSnapshotPoweroff | diskSnapshotRevertPoweroff | diskSnapshotDeletePoweroff
  | diskSnapshotSuspended | diskSnapshotDeleteSuspended | diskSnapshot | diskSnapshotDelete
  | prologMigrateUnknown | prologMigrateUnknownFailure | diskResize | diskResizePoweroff
  | diskResizeUndeployed | hotplugNicPoweroff | hotplugResize | hotplugSaveasUndeployed
  | hotplugSaveasStopped | backup | backupPoweroff | restore
deriving DecidableEq

/-- `VMActions`, those that a history record gets -/
inductive VmAction where
  | none | migrate | liveMigrate | poffMigrate | poffHardMigrate | stop | suspend | resume
  | undeploy | undeployHard | terminate | terminateHard | poweroff | poweroffHard | delete
  | deleteRecreate | monitor | diskAttach | diskDetach | diskSnapshotCreate
  | diskSnapshotRevert | diskSnapshotDelete | diskResize | nicAttach | nicDetach | nicUpdate
  | resize | pciAttach | pciDetach | backup | restore | exec | execCancel
deriving DecidableEq

/-- A history record; it is closed when its `etime` is not 0. -/
structure History where
  hid : Int
  dsId : Int
  action : VmAction := .none
  closed : Bool := false

inductive RunningMetric where
  | memory | cpu | vms | pciDev | pciNic
  | generic (name : String)

/-- An amount for each metric; an attribute that a request lacks is 0. -/
abbrev RunningUsage := RunningMetric → Rat

/-- `CPU`, `MEMORY` and `VCPU` of a resize -/
structure Capacity where
  cpu : Rat
  memory : Rat
  vcpu : Rat
deriving DecidableEq

structure VirtualMachine where
  state : VmState
  lcmState : LcmState
  history : Option History
  previousHistory : Option History
  cpu : Rat
  memory : Rat
  pciDev : Rat
  pciNic : Rat
  /-- The other attributes that a generic metric may count, `VCPU` among them -/
  amount : String → Rat
  resizeAttribute : Option Capacity := none
  attachNic : Option Bool := none
  pinned : Bool := false

namespace VirtualMachine

variable (vm : VirtualMachine)

/-- `get_hid`, for a machine that has been deployed -/
def hid : Option Int := vm.history.map History.hid

def previousHid : Option Int := vm.previousHistory.map History.hid

def getAction : VmAction := (vm.history.map History.action).getD .none

def previousAction : VmAction := (vm.previousHistory.map History.action).getD .none

def isPreviousHistoryOpen : Bool := vm.previousHistory.any fun record => !record.closed

section

variable (action : VmAction)

def setAction : VirtualMachine :=
  { vm with history := vm.history.map fun record => { record with action } }

def setPreviousAction : VirtualMachine :=
  { vm with previousHistory := vm.previousHistory.map fun record => { record with action } }

def setEtime (closed : Bool) : VirtualMachine :=
  { vm with history := vm.history.map fun record => { record with closed } }

def setPreviousEtime : VirtualMachine :=
  { vm with previousHistory := vm.previousHistory.map fun record => { record with closed := true } }

def addHistory (hid dsId : Int) : VirtualMachine :=
  { vm with
    history := some { hid, dsId }
    previousHistory := vm.history.or vm.previousHistory }

def cpHistory : VirtualMachine :=
  match vm.history with
  | none => vm
  | some record => vm.addHistory record.hid record.dsId

def cpPreviousHistory : VirtualMachine :=
  match vm.history, vm.previousHistory with
  | some _, some previous => vm.addHistory previous.hid previous.dsId
  | _, _ => vm

def closeCpHistory : VirtualMachine :=
  (((vm.setEtime true).setAction action).cpHistory).setAction vm.getAction

section

variable (state : VmState)

def setState : VirtualMachine := { vm with state }

def setLcmState (lcmState : LcmState) : VirtualMachine := { vm with lcmState }

def enter (lcmState : LcmState) : VirtualMachine := { vm with state, lcmState }

def isRunningQuota : Bool :=
  vm.state = .pending || vm.state = .cloning || vm.state = .cloningFailure || vm.state = .hold ||
  (vm.state = .active && vm.lcmState ∉ [.hotplugSaveasPoweroff, .hotplugSaveasSuspended, .diskSnapshotPoweroff,
      .diskSnapshotRevertPoweroff, .diskSnapshotDeletePoweroff, .diskSnapshotSuspended,
      .diskSnapshotDeleteSuspended, .diskResizePoweroff, .diskResizeUndeployed,
      .hotplugNicPoweroff, .hotplugSaveasUndeployed, .hotplugSaveasStopped,
      .hotplugPrologPoweroff, .hotplugEpilogPoweroff])

def runningQuota (generic : List String) : RunningUsage
  | .memory => vm.memory
  | .cpu => vm.cpu
  | .vms => 1
  | .pciDev => vm.pciDev
  | .pciNic => vm.pciNic
  | .generic name => if name ∈ generic then vm.amount name else 0

/-- `resize`: an amount that is not positive keeps the old one. -/
def resize (new : Capacity) : VirtualMachine :=
  { vm with
    cpu := if 0 < new.cpu then new.cpu else vm.cpu
    memory := if 0 < new.memory then new.memory else vm.memory
    amount := fun name =>
      if name = "VCPU" ∧ 0 < new.vcpu then new.vcpu else vm.amount name }

@[simp] theorem resize_state (new : Capacity) : (vm.resize new).state = vm.state := rfl

@[simp] theorem resize_lcmState (new : Capacity) : (vm.resize new).lcmState = vm.lcmState := rfl

@[simp] theorem resize_hid (new : Capacity) : (vm.resize new).hid = vm.hid := rfl

def capacity : Capacity := { cpu := vm.cpu, memory := vm.memory, vcpu := vm.amount "VCPU" }

@[simp] theorem enter_state (lcmState : LcmState) : (vm.enter state lcmState).state = state := rfl

@[simp] theorem enter_lcmState (lcmState : LcmState) :
    (vm.enter state lcmState).lcmState = lcmState := rfl

@[simp] theorem enter_hid (lcmState : LcmState) : (vm.enter state lcmState).hid = vm.hid := rfl

@[simp] theorem enter_previousHid (lcmState : LcmState) :
    (vm.enter state lcmState).previousHid = vm.previousHid := rfl

@[simp] theorem enter_runningQuota (lcmState : LcmState) (generic : List String) :
    (vm.enter state lcmState).runningQuota generic = vm.runningQuota generic := by
  funext metric
  cases metric <;> rfl

end

section

variable (lcmState : LcmState)
include lcmState

@[simp] theorem setLcmState_state : (vm.setLcmState lcmState).state = vm.state := rfl

@[simp] theorem setLcmState_lcmState : (vm.setLcmState lcmState).lcmState = lcmState := rfl

@[simp] theorem setLcmState_hid : (vm.setLcmState lcmState).hid = vm.hid := rfl

@[simp] theorem setLcmState_previousHid :
    (vm.setLcmState lcmState).previousHid = vm.previousHid := rfl

@[simp] theorem setLcmState_runningQuota (generic : List String) :
    (vm.setLcmState lcmState).runningQuota generic = vm.runningQuota generic := by
  funext metric
  cases metric <;> rfl

end

@[simp] theorem setState_runningQuota (state : VmState) (generic : List String) :
    (vm.setState state).runningQuota generic = vm.runningQuota generic := by
  funext metric
  cases metric <;> rfl

theorem runningQuota_withHistory (history previousHistory : Option History) (generic : List String) :
    { vm with history, previousHistory }.runningQuota generic = vm.runningQuota generic := by
  funext metric
  cases metric <;> rfl

@[simp] theorem setAction_state : (vm.setAction action).state = vm.state := rfl

@[simp] theorem setAction_lcmState : (vm.setAction action).lcmState = vm.lcmState := rfl

section

variable (generic : List String)

@[simp] theorem setAction_runningQuota :
    (vm.setAction action).runningQuota generic = vm.runningQuota generic :=
  vm.runningQuota_withHistory _ _ _

@[simp] theorem setPreviousAction_runningQuota :
    (vm.setPreviousAction action).runningQuota generic = vm.runningQuota generic :=
  vm.runningQuota_withHistory _ _ _

@[simp] theorem setEtime_state (closed : Bool) : (vm.setEtime closed).state = vm.state := rfl

@[simp] theorem setEtime_lcmState (closed : Bool) : (vm.setEtime closed).lcmState = vm.lcmState := rfl

@[simp] theorem setEtime_runningQuota (closed : Bool) (generic : List String) :
    (vm.setEtime closed).runningQuota generic = vm.runningQuota generic :=
  vm.runningQuota_withHistory _ _ _

@[simp] theorem setPreviousEtime_state : vm.setPreviousEtime.state = vm.state := rfl

@[simp] theorem setPreviousEtime_lcmState : vm.setPreviousEtime.lcmState = vm.lcmState := rfl

@[simp] theorem setPreviousEtime_runningQuota :
    vm.setPreviousEtime.runningQuota generic = vm.runningQuota generic :=
  vm.runningQuota_withHistory _ _ _

@[simp] theorem addHistory_runningQuota (hid dsId : Int) (generic : List String) :
    (vm.addHistory hid dsId).runningQuota generic = vm.runningQuota generic :=
  vm.runningQuota_withHistory _ _ _

@[simp] theorem setAction_hid : (vm.setAction action).hid = vm.hid := by
  simp [hid, setAction, Function.comp_def]

@[simp] theorem setAction_previousHid : (vm.setAction action).previousHid = vm.previousHid := rfl

@[simp] theorem setEtime_hid (closed : Bool) : (vm.setEtime closed).hid = vm.hid := by
  simp [hid, setEtime, Function.comp_def]

@[simp] theorem setEtime_previousHid (closed : Bool) : (vm.setEtime closed).previousHid = vm.previousHid := rfl

@[simp] theorem setPreviousAction_hid : (vm.setPreviousAction action).hid = vm.hid := rfl

@[simp] theorem setPreviousAction_previousHid :
    (vm.setPreviousAction action).previousHid = vm.previousHid := by
  simp [previousHid, setPreviousAction, Function.comp_def]

@[simp] theorem setPreviousEtime_hid : vm.setPreviousEtime.hid = vm.hid := rfl

@[simp] theorem setPreviousEtime_previousHid : vm.setPreviousEtime.previousHid = vm.previousHid := by
  simp [previousHid, setPreviousEtime, Function.comp_def]

@[simp] theorem addHistory_hid (hid dsId : Int) : (vm.addHistory hid dsId).hid = some hid := rfl

@[simp] theorem cpHistory_state : vm.cpHistory.state = vm.state := by
  unfold cpHistory
  split <;> rfl

@[simp] theorem cpHistory_lcmState : vm.cpHistory.lcmState = vm.lcmState := by
  unfold cpHistory
  split <;> rfl

@[simp] theorem cpHistory_runningQuota :
    vm.cpHistory.runningQuota generic = vm.runningQuota generic := by
  unfold cpHistory
  split <;> simp

@[simp] theorem cpPreviousHistory_state : vm.cpPreviousHistory.state = vm.state := by
  unfold cpPreviousHistory
  split <;> rfl

@[simp] theorem cpPreviousHistory_lcmState : vm.cpPreviousHistory.lcmState = vm.lcmState := by
  unfold cpPreviousHistory
  split <;> rfl

@[simp] theorem cpPreviousHistory_runningQuota :
    vm.cpPreviousHistory.runningQuota generic = vm.runningQuota generic := by
  unfold cpPreviousHistory
  split <;> simp

@[simp] theorem cpHistory_hid : vm.cpHistory.hid = vm.hid := by
  cases found : vm.history with
  | none => simp [cpHistory, found]
  | some record => simp [cpHistory, found, hid, addHistory]

@[simp] theorem closeCpHistory_state : (vm.closeCpHistory action).state = vm.state := by
  simp [closeCpHistory]

@[simp] theorem closeCpHistory_lcmState : (vm.closeCpHistory action).lcmState = vm.lcmState := by
  simp [closeCpHistory]

@[simp] theorem closeCpHistory_hid : (vm.closeCpHistory action).hid = vm.hid := by
  simp [closeCpHistory]

@[simp] theorem closeCpHistory_runningQuota :
    (vm.closeCpHistory action).runningQuota generic = vm.runningQuota generic := by
  simp [closeCpHistory]

end

end

theorem addHistory_previousHid {hid dsId : Int} (deployed : vm.hid.isSome) :
    (vm.addHistory hid dsId).previousHid = vm.hid := by
  simp only [VirtualMachine.hid, Option.isSome_map] at deployed
  obtain ⟨record, found⟩ := Option.isSome_iff_exists.1 deployed
  simp [previousHid, addHistory, VirtualMachine.hid, found]

theorem cpPreviousHistory_hid (deployed : vm.hid.isSome) (moved : vm.previousHid.isSome) :
    vm.cpPreviousHistory.hid = vm.previousHid := by
  simp only [hid, previousHid, Option.isSome_map] at deployed moved
  obtain ⟨record, current⟩ := Option.isSome_iff_exists.1 deployed
  obtain ⟨last, previous⟩ := Option.isSome_iff_exists.1 moved
  simp [cpPreviousHistory, current, previous, previousHid]

theorem cpPreviousHistory_hid_isSome (deployed : vm.hid.isSome) : vm.cpPreviousHistory.hid.isSome := by
  unfold cpPreviousHistory
  split
  · rfl
  · exact deployed

end VirtualMachine

end OpenNebula.Vm
