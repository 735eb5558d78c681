import Mathlib.Data.Finset.Max
import OpenNebula.Library.Transition
import OpenNebula.Vm.VirtualMachine

namespace OpenNebula.Secgroup

open Library Vm

/-! # Updates of the VMs of a security group

A commit marks the VMs of the group as outdated.  The life-cycle manager takes them one by one, and
the reply of the driver for one VM triggers the next one.
-/

structure SecurityGroup where
  updated : Finset Nat
  outdated : Finset Nat
  updating : Finset Nat
  error : Finset Nat

namespace SecurityGroup

variable (group : SecurityGroup) (vm : Nat)

def vms : Finset Nat := group.updated ∪ group.updating ∪ group.error ∪ group.outdated

def addVm : SecurityGroup := { group with updated := insert vm group.updated }

def delVm : SecurityGroup :=
  if vm ∈ group.updated then { group with updated := group.updated.erase vm }
  else if vm ∈ group.updating then { group with updating := group.updating.erase vm }
  else if vm ∈ group.error then { group with error := group.error.erase vm }
  else { group with outdated := group.outdated.erase vm }

def commit (recover : Bool) : SecurityGroup :=
  { updated := if recover then group.updated else ∅
    outdated := (if recover then group.outdated else group.outdated ∪ group.updated) ∪ group.updating ∪ group.error
    updating := ∅
    error := ∅ }

/-- The smallest identifier is taken out. -/
def getOutdated : Option (Nat × SecurityGroup) :=
  if present : group.outdated.Nonempty then
    let first := group.outdated.min' present
    some (first, { group with outdated := group.outdated.erase first })
  else none

def addUpdating : SecurityGroup := { group with updating := insert vm group.updating }

def delUpdating : SecurityGroup := { group with updating := group.updating.erase vm }

def addError : SecurityGroup := { group with error := insert vm group.error }

end SecurityGroup

inductive Update where
  /-- `is_error`: the rules are being created or updated by another operation. -/
  | error
  /-- `is_tmpl` -/
  | template
  /-- `is_update` -/
  | hypervisor

def blockedStates : List LcmState :=
  [.boot, .bootMigrate, .bootSuspended, .bootStopped, .bootUndeploy, .bootPoweroff, .bootUnknown, .bootFailure,
    .bootMigrateFailure, .bootUndeployFailure, .bootStoppedFailure, .migrate, .hotplugNic, .hotplugNicPoweroff,
    .unknown]

def hypervisorStates : List LcmState :=
  [.running, .hotplug, .hotplugSnapshot, .hotplugSaveas, .hotplugResize, .diskSnapshot, .diskSnapshotDelete,
    .diskResize, .backup]

def updateOf (state : VmState) (lcmState : LcmState) : Update :=
  if state ≠ .active then .template
  else if lcmState ∈ blockedStates then .error
  else if lcmState ∈ hypervisorStates then .hypervisor
  else .template

/-- What is put into the group for a VM, with the rules that it has been given -/
inductive Outcome where
  | error
  | template (rules : Nat)
  | hypervisor (rules : Nat)
deriving DecidableEq

/-- `trigger_updatesg` between two of its locks -/
inductive Handler where
  | idle
  /-- A VM has been taken from the outdated ones. -/
  | popped (vm : Nat)
  | locked (vm : Nat) (host : Bool)
  | loaded (vm : Nat) (host : Bool) (rules : Nat)
  | settling (vm : Nat) (outcome : Outcome)
  /-- A VM that is not in the pool: the next iteration uses the group that has been released. -/
  | crashed
deriving DecidableEq

def Handler.holds : Handler → Nat → Bool
  | .popped vm, other | .locked vm _, other | .loaded vm _ _, other | .settling vm _, other => vm = other
  | .idle, _ | .crashed, _ => false

/-- The rules that it has read -/
def Handler.rules : Handler → Option Nat
  | .loaded _ _ rules | .settling _ (.template rules) | .settling _ (.hypervisor rules) => some rules
  | .idle | .popped _ | .locked _ _ | .settling _ .error | .crashed => none

def Handler.locks : Handler → Nat → Bool
  | .locked vm _, other | .loaded vm _ _, other => vm = other
  | .idle, _ | .popped _, _ | .settling .., _ | .crashed, _ => false

structure Reply where
  vm : Nat
  rules : Nat
  success : Bool
deriving DecidableEq

structure State where
  group : SecurityGroup
  rules : Nat
  users : Finset Nat
  vms : Nat → Option (VmState × LcmState)
  handler : Handler
  /-- The queue of the life-cycle manager has one entry for each call that waits. -/
  triggers : Nat
  /-- The requests that the driver has not replied to, with the rules they carry -/
  requests : List (Nat × Nat)
  replies : List Reply
  /-- The replies that have left the group and are about to trigger the next VM -/
  finishing : Nat

namespace State

variable (state : State)

def pop (group : SecurityGroup) : State :=
  match group.getOutdated with
  | none => { state with group := group, handler := .idle }
  | some (vm, rest) => { state with group := rest, handler := .popped vm }

def ignores (vm : Nat) : Bool :=
  match state.vms vm with
  | none => true
  | some (_, lcmState) => lcmState = .lcmInit

end State

inductive Event where
  /-- The life-cycle manager takes a call of `trigger_updatesg` from its queue. -/
  | start
  | lockVm
  | readRules
  /-- The rules of the VM are replaced, and the driver is told if need be. -/
  | release
  | store
  | receive (vm rules : Nat) (success : Bool)
  | apply (reply : Reply)
  | finish
  | commit (recover : Bool)
  | update
  /-- A VM gets a NIC with the group; it can have other NICs with it. -/
  | join (vm : Nat)
  | leave (vm : Nat)
  | status (vm : Nat) (states : Option (VmState × LcmState))

def step (state : State) : Event → Option State
  | .start =>
    if state.handler = .idle ∧ 0 < state.triggers then
      some ({ state with triggers := state.triggers - 1 }.pop state.group)
    else none
  | .lockVm =>
    match state.handler with
    | .popped vm =>
      match state.vms vm with
      | none => some { state with handler := .crashed }
      | some (vmState, lcmState) =>
        match updateOf vmState lcmState with
        | .error => some { state with handler := .settling vm .error }
        | .template => some { state with handler := .locked vm false }
        | .hypervisor => some { state with handler := .locked vm true }
    | _ => none
  | .readRules =>
    match state.handler with
    | .locked vm host => some { state with handler := .loaded vm host state.rules }
    | _ => none
  | .release =>
    match state.handler with
    | .loaded vm true rules =>
      some { state with
        group := state.group.delVm vm
        handler := .settling vm (.hypervisor rules)
        requests := (vm, rules) :: state.requests }
    | .loaded vm false rules =>
      some { state with group := state.group.delVm vm, handler := .settling vm (.template rules) }
    | _ => none
  | .store =>
    match state.handler with
    | .settling vm .error => some (state.pop (state.group.addError vm))
    | .settling vm (.template _) => some (state.pop (state.group.addVm vm))
    | .settling vm (.hypervisor _) => some { state with group := state.group.addUpdating vm, handler := .idle }
    | _ => none
  | .receive vm rules success =>
    if (vm, rules) ∈ state.requests then
      if state.ignores vm then some { state with requests := state.requests.erase (vm, rules) }
      else
        some { state with
          requests := state.requests.erase (vm, rules)
          replies := ⟨vm, rules, success⟩ :: state.replies }
    else none
  | .apply reply =>
    if reply ∈ state.replies then
      some { state with
        replies := state.replies.erase reply
        finishing := state.finishing + 1
        group :=
          if reply.vm ∈ state.group.updating then
            if reply.success then (state.group.delUpdating reply.vm).addVm reply.vm
            else (state.group.delUpdating reply.vm).addError reply.vm
          else state.group }
    else none
  | .finish =>
    if 0 < state.finishing then
      some { state with finishing := state.finishing - 1, triggers := state.triggers + 1 }
    else none
  | .commit recover =>
    some { state with group := state.group.commit recover, triggers := state.triggers + 1 }
  | .update =>
    some { state with
      rules := state.rules + 1
      group := state.group.commit false
      triggers := state.triggers + 1 }
  | .join vm =>
    if state.handler.locks vm then none
    else some { state with group := state.group.addVm vm, users := insert vm state.users }
  | .leave vm =>
    if vm ∉ state.users ∨ state.handler.locks vm then none
    else some { state with group := state.group.delVm vm, users := state.users.erase vm }
  | .status vm states =>
    if state.handler.locks vm then none
    else some { state with vms := Function.update state.vms vm states }

def protocol : System State Event where
  initial := fun state =>
    state.group = ⟨∅, ∅, ∅, ∅⟩ ∧ state.users = ∅ ∧ state.handler = .idle ∧ state.triggers = 0 ∧
      state.requests = [] ∧ state.replies = [] ∧ state.finishing = 0
  step := step

end OpenNebula.Secgroup
