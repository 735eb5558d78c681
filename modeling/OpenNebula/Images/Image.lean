import Mathlib.Data.Finset.Card
import OpenNebula.Library.Transition

namespace OpenNebula.Images

open Library

/-! # Images and the operations that use them -/

inductive ImageType where
  | os | cdrom | datablock | kernel | ramdisk | context | backup
deriving DecidableEq

namespace ImageType

def toStr : ImageType → String
  | os => "OS"
  | cdrom => "CDROM"
  | datablock => "DATABLOCK"
  | kernel => "KERNEL"
  | ramdisk => "RAMDISK"
  | context => "CONTEXT"
  | backup => "BACKUP"

def isDisk : ImageType → Bool
  | os | cdrom | datablock => true
  | kernel | ramdisk | context | backup => false

end ImageType

inductive ImageState where
  | init | ready | used | disabled | locked | error | clone | delete | usedPers | lockedUsed
  | lockedUsedPers
deriving DecidableEq

def ImageState.toStr : ImageState → String
  | init => "INIT"
  | ready => "READY"
  | used => "USED"
  | disabled => "DISABLED"
  | locked => "LOCKED"
  | error => "ERROR"
  | clone => "CLONE"
  | delete => "DELETE"
  | usedPers => "USED"
  | lockedUsed => "LOCKED_USED"
  | lockedUsedPers => "LOCKED_USED"

inductive CloneType where
  | image | marketplaceApp
deriving DecidableEq

structure Image where
  oid : Int
  name : String
  type : ImageType
  state : ImageState
  persistentImg : Bool
  persistentType : String
  snapshots : Nat
  vmCollection : Finset Int
  runningVms : Int
  imgCloneCollection : Finset Int
  appCloneCollection : Finset Int
  cloningOps : Int

namespace Image

variable (img : Image)

def shareable : Bool := img.persistentType.toUpper = "SHAREABLE"

def incRunning (vmId : Int) : Image :=
  if vmId ∈ img.vmCollection then img
  else { img with vmCollection := insert vmId img.vmCollection, runningVms := img.runningVms + 1 }

def decRunning (vmId : Int) : Image :=
  if vmId ∈ img.vmCollection then
    { img with vmCollection := img.vmCollection.erase vmId, runningVms := img.runningVms - 1 }
  else img

def incCloning (ot : CloneType) (oid : Int) : Image :=
  match ot with
  | .image =>
    if oid ∈ img.imgCloneCollection then img
    else { img with
      imgCloneCollection := insert oid img.imgCloneCollection, cloningOps := img.cloningOps + 1 }
  | .marketplaceApp =>
    if oid ∈ img.appCloneCollection then img
    else { img with
      appCloneCollection := insert oid img.appCloneCollection, cloningOps := img.cloningOps + 1 }

def decCloning (ot : CloneType) (oid : Int) : Image :=
  match ot with
  | .image =>
    if oid ∈ img.imgCloneCollection then
      { img with
        imgCloneCollection := img.imgCloneCollection.erase oid, cloningOps := img.cloningOps - 1 }
    else img
  | .marketplaceApp =>
    if oid ∈ img.appCloneCollection then
      { img with
        appCloneCollection := img.appCloneCollection.erase oid, cloningOps := img.cloningOps - 1 }
    else img

def setState (state : ImageState) : Image := { img with state := state }

def setStateUnlock : Image :=
  match img.state with
  | .locked => img.setState .ready
  | .lockedUsed => img.setState .used
  | .lockedUsedPers => img.setState .usedPers
  | .error =>
    if img.runningVms = 0 then img.setState .ready
    else if img.persistentImg then img.setState .usedPers
    else img.setState .used
  | _ => img

def persistent (persis : Bool) : Except String Image :=
  if 0 < img.snapshots ∧ ¬persis then .error "Image has snapshots."
  else
    match img.state with
    | .used | .clone | .usedPers | .lockedUsed | .lockedUsedPers =>
      .error ("Image cannot be in state " ++ img.state.toStr ++ ".")
    | .init | .ready | .disabled | .locked | .error | .delete =>
      .ok { img with persistentImg := persis }

private def cannotAcquire (why : String) : String := "Cannot acquire image " ++ toString img.oid ++ why

def acquireImage (vmId : Int) (attach : Bool) : Except String Image :=
  if ¬img.type.isDisk then
    .error ("Image " ++ toString img.oid ++ " (" ++ img.name ++ ") " ++ "of type " ++ img.type.toStr ++
      " cannot be used as DISK.")
  else
    match img.state with
    | .ready =>
      .ok ((img.incRunning vmId).setState (if img.persistentImg then .usedPers else .used))
    | .locked =>
      if attach then .error (img.cannotAcquire ", it is locked")
      else .ok ((img.incRunning vmId).setState (if img.persistentImg then .lockedUsedPers else .lockedUsed))
    | .usedPers =>
      if ¬img.shareable then .error (img.cannotAcquire ", it is persistent and already in use")
      else .ok (img.incRunning vmId)
    | .used => .ok (img.incRunning vmId)
    | .lockedUsedPers =>
      if ¬img.shareable then .error (img.cannotAcquire ", it is persistent and already in use")
      else if attach then .error (img.cannotAcquire ", it is locked")
      else .ok (img.incRunning vmId)
    | .lockedUsed =>
      if attach then .error (img.cannotAcquire ", it is locked")
      else .ok (img.incRunning vmId)
    | .init | .disabled | .error | .delete | .clone =>
      .error (img.cannotAcquire (", it is in state: " ++ img.state.toStr))

def releasedState (failed : Bool) (unused : ImageState) : Image :=
  if failed then img.setState .error
  else if img.runningVms = 0 then img.setState unused
  else img

def releaseImage (vmId : Int) (failed : Bool) : Image :=
  if ¬img.type.isDisk then img
  else
    match img.state with
    | .usedPers => (img.decRunning vmId).releasedState failed .ready
    | .lockedUsedPers => (img.decRunning vmId).releasedState failed .locked
    | .used =>
      let img := img.decRunning vmId
      if img.runningVms = 0 ∧ img.cloningOps = 0 then img.setState .ready else img
    | .lockedUsed =>
      let img := img.decRunning vmId
      if img.runningVms = 0 ∧ img.cloningOps = 0 then img.setState .locked else img
    | .locked | .clone | .delete | .init | .disabled | .ready | .error => img

def setCloneState (ot : CloneType) (newId : Int) : Except String Image :=
  if img.type = .backup then .error "Cannoe clone backup images"
  else
    match img.state with
    | .ready =>
      .ok ((img.incCloning ot newId).setState (if img.persistentImg then .clone else .used))
    | .used | .clone => .ok (img.incCloning ot newId)
    | .usedPers | .init | .disabled | .error | .delete | .locked | .lockedUsed | .lockedUsedPers =>
      .error "Cannot clone image in current state"

def releaseCloningResource (ot : CloneType) (cloneOid : Int) : Image :=
  if ¬img.type.isDisk then img
  else
    match img.state with
    | .used | .clone =>
      let img := img.decCloning ot cloneOid
      if img.cloningOps = 0 ∧ img.runningVms = 0 then img.setState .ready else img
    | .delete | .init | .disabled | .ready | .error | .usedPers | .locked | .lockedUsed
    | .lockedUsedPers => img

def enableImage (toEnable : Bool) : Except String Image :=
  if img.type = .backup then .error "Backup images cannot be enabled or disabled."
  else if toEnable then
    match img.state with
    | .disabled => .ok (img.setState .ready)
    | .error => .ok img.setStateUnlock
    | .ready => .ok img
    | _ => .error ("Image cannot be in state " ++ img.state.toStr ++ ".")
  else
    match img.state with
    | .ready | .error => .ok (img.setState .disabled)
    | .disabled => .ok img
    | _ => .error ("Image cannot be in state " ++ img.state.toStr ++ ".")

end Image

inductive Event where
  | acquire (vmId : Int) (attach : Bool)
  | release (vmId : Int) (failed : Bool)
  | setClone (ot : CloneType) (newId : Int)
  | releaseClone (ot : CloneType) (cloneOid : Int)
  | unlock
  | enable (toEnable : Bool)
  | persistent (persis : Bool)

/-- An image with the VMs that have acquired it and the clones that are registered, until they
are released -/
structure Usage where
  image : Image
  holders : Finset Int
  clones : Finset (CloneType × Int)

namespace Usage

def step (usage : Usage) : Event → Option Usage
  | .acquire vmId attach =>
    match usage.image.acquireImage vmId attach with
    | .error _ => some usage
    | .ok image => some { usage with image := image, holders := insert vmId usage.holders }
  | .release vmId failed =>
    if vmId ∈ usage.holders then
      some { usage with
        image := usage.image.releaseImage vmId failed, holders := usage.holders.erase vmId }
    else none
  | .setClone ot newId =>
    match usage.image.setCloneState ot newId with
    | .error _ => some usage
    | .ok image => some { usage with image := image, clones := insert (ot, newId) usage.clones }
  | .releaseClone ot cloneOid =>
    some { usage with
      image := usage.image.releaseCloningResource ot cloneOid
      clones := usage.clones.erase (ot, cloneOid) }
  | .unlock => some { usage with image := usage.image.setStateUnlock }
  | .enable toEnable =>
    some { usage with image := (usage.image.enableImage toEnable).toOption.getD usage.image }
  | .persistent persis =>
    some { usage with image := (usage.image.persistent persis).toOption.getD usage.image }

structure Initial (usage : Usage) : Prop where
  disk : usage.image.type.isDisk = true
  state : usage.image.state = .locked ∨ usage.image.state = .ready
  noVms : usage.image.vmCollection = ∅ ∧ usage.image.runningVms = 0
  noClones : usage.image.imgCloneCollection = ∅ ∧ usage.image.appCloneCollection = ∅ ∧
    usage.image.cloningOps = 0
  unused : usage.holders = ∅ ∧ usage.clones = ∅

def system : System Usage Event where
  initial := Initial
  step := step

end Usage

end OpenNebula.Images
