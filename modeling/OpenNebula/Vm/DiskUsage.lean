import Mathlib.Algebra.Ring.Int.Defs
import OpenNebula.Vm.Snapshots

namespace OpenNebula.Vm

open Library

/-! # Disks, their snapshots and what they cost (`VirtualMachineDisk`)

A disk is charged to the owner of its image, to the owner of the virtual machine, or to both.
Snapshots and larger sizes are charged when they are asked for; what is not used any more is
given back when the driver has answered.
-/

namespace Snapshots

variable (snapshots : Snapshots)

def snapshotSize (id : Int) : Int := (snapshots.getSnapshot id).elim 0 Snapshot.sizeMb

def totalSize : Int := (snapshots.pool.entries.map fun row => row.2.sizeMb).sum

def youngerSnapshots (id : Int) : List Int :=
  (snapshots.pool.keys.filter (id < ·)).insertionSort (· ≤ ·)

end Snapshots

inductive TmTarget where
  | system
  | self
  | none
  | other
deriving DecidableEq

structure VirtualMachineDisk where
  isVolatile : Bool
  isPersistent : Bool
  readonly : Bool := false
  tmTarget : TmTarget
  allowOrphans : AllowOrphansMode
  size : Int
  sizePrev : Option Int := .none
  snapshots : Option Snapshots := .none

/-- What is taken from quotas or given back: the size in the template for datastores, that of
the disk in the template for virtual machines, and whose datastore usage changes -/
structure Deltas where
  ds : Option Int := .none
  vm : Option Int := .none
  imgOwner : Bool := false
  vmOwner : Bool := false

def readInt (value : Int) : Int := max (-2147483648) (min value 2147483647)

def storeInt (value : Int) : Int := (BitVec.ofInt 32 value).toInt

namespace VirtualMachineDisk

variable (disk : VirtualMachineDisk)

def createSnapshot (name : String) (date : Int) : Except String (VirtualMachineDisk × Int) :=
  if disk.isVolatile then .error "Cannot make snapshots on volatile disks"
  else if disk.readonly then .error "Cannot make snapshots on readonly disks"
  else
    let held := disk.snapshots.getD { orphans := disk.allowOrphans }
    let (snapshots, id) := held.createSnapshot name disk.size date
    if id = -1 then .error "" else .ok ({ disk with snapshots := some snapshots }, id)

def revertSnapshot (id : Int) (revert : Bool) : VirtualMachineDisk :=
  { disk with snapshots := disk.snapshots.map fun snapshots => (snapshots.activeSnapshot id revert).1 }

def resizeQuotas (delta : Int) : Deltas :=
  let vmOwner := !disk.isVolatile && disk.tmTarget = .self
  let imgOwner := !disk.isVolatile && (disk.isPersistent || disk.tmTarget = .none)
  { ds := if vmOwner || imgOwner then some delta else .none
    vm := if disk.isVolatile || disk.tmTarget = .system then some delta else .none
    imgOwner
    vmOwner }

def revertSnapshotQuotas (id : Int) : VirtualMachineDisk × Deltas :=
  match disk.snapshots with
  | .none => (disk, {})
  | some snapshots =>
    let snapSize := snapshots.snapshotSize id
    if disk.size ≠ snapSize then
      ({ disk with size := snapSize }, disk.resizeQuotas (disk.size - snapSize))
    else (disk, {})

def deleteSnapshot (id : Int) : VirtualMachineDisk × Deltas :=
  match disk.snapshots with
  | .none => (disk, {})
  | some snapshots =>
    let size := snapshots.snapshotSize id
    let vmOwner := disk.tmTarget = .self
    let imgOwner := disk.isPersistent || disk.tmTarget = .none
    ({ disk with snapshots := some (snapshots.deleteSnapshot id) },
      { ds := if imgOwner || vmOwner then some size else .none
        vm := if disk.tmTarget = .system then some size else .none
        imgOwner
        vmOwner })

def deleteYounger : List Int → Int → Snapshots → Int × Snapshots
  | [], size, snapshots => (size, snapshots)
  | id :: rest, size, snapshots =>
    deleteYounger rest (size + snapshots.snapshotSize id) (snapshots.deleteSnapshot id)

def deleteYoungerSnapshots (id : Int) (deltas : Deltas) : VirtualMachineDisk × Deltas :=
  match disk.snapshots with
  | .none => (disk, { deltas with imgOwner := false, vmOwner := false })
  | some snapshots =>
    let (size, kept) := deleteYounger (snapshots.youngerSnapshots id) 0 snapshots
    let vmOwner := disk.tmTarget = .self
    let imgOwner := disk.isPersistent || disk.tmTarget = .none
    ({ disk with snapshots := some kept },
      { ds :=
          if imgOwner || vmOwner then some (storeInt (readInt (deltas.ds.getD 0) + size)) else deltas.ds
        vm := if disk.tmTarget = .system then some size else deltas.vm
        imgOwner
        vmOwner })

def setUpResize (size : Int) : Except String VirtualMachineDisk :=
  if size ≤ disk.size then .error "New size has to be bigger than current one"
  else .ok { disk with sizePrev := some disk.size, size }

def clearResize (restore : Bool) : VirtualMachineDisk :=
  { disk with size := if restore then disk.sizePrev.getD disk.size else disk.size, sizePrev := .none }

end VirtualMachineDisk

/-- What the owners were charged for the disk, less what they were given back: the owner of the
image and that of the virtual machine in the datastore, and the latter for the system disk -/
structure DiskUsage where
  image : Int := 0
  vmDatastore : Int := 0
  vmSystem : Int := 0

namespace DiskUsage

variable (usage : DiskUsage)

section

variable (deltas : Deltas)

def addImage : DiskUsage :=
  if deltas.imgOwner then { usage with image := usage.image + deltas.ds.getD 0 } else usage

def addDatastore : DiskUsage :=
  if deltas.vmOwner then { usage with vmDatastore := usage.vmDatastore + deltas.ds.getD 0 } else usage

def addSystem : DiskUsage :=
  match deltas.vm with
  | .none => usage
  | some size => { usage with vmSystem := usage.vmSystem + size }

def delImage : DiskUsage :=
  if deltas.imgOwner then { usage with image := usage.image - deltas.ds.getD 0 } else usage

def delDatastore : DiskUsage :=
  if deltas.vmOwner then { usage with vmDatastore := usage.vmDatastore - deltas.ds.getD 0 } else usage

def delSystem : DiskUsage :=
  match deltas.vm with
  | .none => usage
  | some size => { usage with vmSystem := usage.vmSystem - size }

/-- The end of the functions of the life cycle manager; the template for datastores is looked
at first. -/
def giveBack : DiskUsage :=
  let datastores := if deltas.ds.isSome then (usage.delImage deltas).delDatastore deltas else usage
  datastores.delSystem deltas

/-- The end of a request that is refused: what was taken is given back. -/
def rollback : DiskUsage :=
  ((usage.delImage deltas).delDatastore deltas).delSystem deltas

end

end DiskUsage

structure QuotaAnswers where
  image : Bool := true
  datastore : Bool := true
  system : Bool := true

/-- The quotas are taken one after the other, and those that were taken are given back when one
of them refuses: the usage, and whether the request goes on. -/
def DiskUsage.take (usage : DiskUsage) (deltas : Deltas) (answers : QuotaAnswers) : DiskUsage × Bool :=
  if deltas.imgOwner && !answers.image then (usage, false)
  else
    let image := usage.addImage deltas
    if deltas.vmOwner && !answers.datastore then (image.delImage deltas, false)
    else
      let datastore := image.addDatastore deltas
      if deltas.vm.isSome && !answers.system then
        ((datastore.delImage deltas).delDatastore deltas, false)
      else (datastore.addSystem deltas, true)

inductive PowerState where
  | running
  | poweroff
  | suspended
  | undeployed
  | other
deriving DecidableEq

inductive DiskOperation where
  | snapshot (id : Int)
  | revert (id : Int)
  | delete (id : Int)
  | resize

structure DiskMachine where
  state : PowerState
  pending : Option DiskOperation := .none
  disk : VirtualMachineDisk
  usage : DiskUsage := {}
  start : Int

namespace DiskMachine

inductive Event where
  | power (state : PowerState)
  | snapshotCreate (name : String) (date : Int) (allowed : Bool) (answers : QuotaAnswers)
  | snapshotRevert (id : Int) (allowed : Bool)
  | snapshotDelete (id : Int) (allowed : Bool)
  | resize (size : Int) (allowed : Bool) (answers : QuotaAnswers)
  | snapshotSuccess
  | snapshotFailure
  | resizeSuccess
  | resizeFailure

variable (machine : DiskMachine)

def accepts (states : List PowerState) : Bool := machine.pending.isNone && machine.state ∈ states

def diskSnapshotCreate (name : String) (date : Int) (allowed : Bool) (answers : QuotaAnswers) :
    DiskMachine :=
  if machine.disk.isVolatile || !allowed then machine
  else
    let deltas := machine.disk.resizeQuotas machine.disk.size
    match machine.usage.take deltas answers with
    | (usage, false) => { machine with usage }
    | (usage, true) =>
      if machine.accepts [.poweroff, .suspended, .running] then
        match machine.disk.createSnapshot name date with
        | .error _ => { machine with usage := usage.rollback deltas }
        | .ok (disk, id) => { machine with usage, disk, pending := some (.snapshot id) }
      else { machine with usage := usage.rollback deltas }

def hasSnapshot (id : Int) : Bool := machine.disk.snapshots.any fun snapshots => id ∈ snapshots.pool

def diskSnapshotRevert (id : Int) (allowed : Bool) : DiskMachine :=
  if allowed && machine.accepts [.poweroff] && machine.hasSnapshot id then
    { machine with pending := some (.revert id) }
  else machine

def diskSnapshotDelete (id : Int) (allowed : Bool) : DiskMachine :=
  let passes := machine.disk.snapshots.any fun snapshots =>
    (snapshots.testDelete id machine.disk.isPersistent).isOk
  if allowed && machine.accepts [.poweroff, .suspended, .running] && passes &&
      machine.hasSnapshot id then
    { machine with pending := some (.delete id) }
  else machine

def diskResize (size : Int) (allowed : Bool) (answers : QuotaAnswers) : DiskMachine :=
  if size ≤ machine.disk.size ∨ !allowed then machine
  else
    let deltas := machine.disk.resizeQuotas (size - machine.disk.size)
    match machine.usage.take deltas answers with
    | (usage, false) => { machine with usage }
    | (usage, true) =>
      if machine.accepts [.poweroff, .undeployed, .running] then
        match machine.disk.setUpResize size with
        | .error _ => { machine with usage := usage.rollback deltas }
        | .ok disk => { machine with usage, disk, pending := some .resize }
      else { machine with usage := usage.rollback deltas }

/-- The operation is over. -/
def finish (disk : VirtualMachineDisk) (deltas : Deltas) : DiskMachine :=
  { machine with disk, pending := .none, usage := machine.usage.giveBack deltas }

def triggerDiskSnapshotSuccess : DiskMachine :=
  match machine.pending with
  | some (.snapshot id) => machine.finish (machine.disk.revertSnapshot id false) {}
  | some (.revert id) =>
    let (sized, deltas) := machine.disk.revertSnapshotQuotas id
    let reverted := sized.revertSnapshot id true
    if machine.disk.allowOrphans = .linear then
      let (disk, all) := reverted.deleteYoungerSnapshots id deltas
      machine.finish disk all
    else machine.finish reverted deltas
  | some (.delete id) =>
    let (disk, deltas) := machine.disk.deleteSnapshot id
    machine.finish disk deltas
  | some .resize | .none => machine

def triggerDiskSnapshotFailure : DiskMachine :=
  match machine.pending with
  | some (.snapshot id) =>
    let (disk, deltas) := machine.disk.deleteSnapshot id
    machine.finish disk deltas
  | some (.revert _) | some (.delete _) => machine.finish machine.disk {}
  | some .resize | .none => machine

def triggerDiskResizeSuccess : DiskMachine :=
  match machine.pending with
  | some .resize => { machine with disk := machine.disk.clearResize false, pending := .none }
  | some (.snapshot _) | some (.revert _) | some (.delete _) | .none => machine

def triggerDiskResizeFailure : DiskMachine :=
  match machine.pending with
  | some .resize =>
    let deltas := machine.disk.resizeQuotas (machine.disk.size - machine.disk.sizePrev.getD 0)
    { machine with
      disk := machine.disk.clearResize true
      pending := .none
      usage := machine.usage.rollback deltas }
  | some (.snapshot _) | some (.revert _) | some (.delete _) | .none => machine

def step : Event → DiskMachine
  | .power state => if machine.pending.isNone then { machine with state } else machine
  | .snapshotCreate name date allowed answers => machine.diskSnapshotCreate name date allowed answers
  | .snapshotRevert id allowed => machine.diskSnapshotRevert id allowed
  | .snapshotDelete id allowed => machine.diskSnapshotDelete id allowed
  | .resize size allowed answers => machine.diskResize size allowed answers
  | .snapshotSuccess => machine.triggerDiskSnapshotSuccess
  | .snapshotFailure => machine.triggerDiskSnapshotFailure
  | .resizeSuccess => machine.triggerDiskResizeSuccess
  | .resizeFailure => machine.triggerDiskResizeFailure

def held : Int := machine.disk.size + machine.disk.snapshots.elim 0 Snapshots.totalSize

/-- Nothing is in progress, and the identifiers of the snapshots are those that were given.
Volatile disks have no snapshots. -/
def system : System DiskMachine Event where
  initial machine :=
    machine.pending = .none ∧ machine.usage = {} ∧ machine.start = machine.held ∧
      (∀ snapshots ∈ machine.disk.snapshots, ∀ id ∈ snapshots.pool, id < snapshots.nextSnapshot) ∧
      (machine.disk.isVolatile = true → machine.disk.snapshots = .none)
  step machine event := some (machine.step event)

end DiskMachine

end OpenNebula.Vm
