import Mathlib.Data.List.Dedup
import Mathlib.Data.List.Sort
import OpenNebula.Library.Map
import OpenNebula.Library.Transition

namespace OpenNebula.Vm

open Library

/-! # Disk snapshots (`Snapshots`)

The snapshots of a disk form a forest: each one has the identifier of its parent, -1 for a
root, and the list of its children.
-/

inductive AllowOrphansMode where
  | allow
  | deny
  | mixed
  | format
  | linear
deriving DecidableEq

structure Snapshot where
  name : String := ""
  sizeMb : Int
  date : Int
  parent : Int
  children : List Int := []
  active : Bool := false
deriving DecidableEq

structure Snapshots where
  pool : Map Int Snapshot := ∅
  nextSnapshot : Int := 0
  active : Int := -1
  orphans : AllowOrphansMode
  currentBase : Int := -1

namespace Snapshots

variable (snapshots : Snapshots)

section

variable (id : Int)

def getSnapshot : Option Snapshot := snapshots.pool.lookup id

def replace (update : Snapshot → Snapshot) : Snapshots :=
  { snapshots with
    pool := snapshots.pool.modify fun key snapshot => if key = id then update snapshot else snapshot }

def addChild (parent : Int) : Snapshots :=
  snapshots.replace parent fun snapshot =>
    { snapshot with children := snapshot.children ++ [snapshots.nextSnapshot] }

def addChildDeny : Option (Int × Snapshots) :=
  if snapshots.active = -1 then some (-1, snapshots)
  else
    (snapshots.getSnapshot snapshots.active).map fun _ =>
      (snapshots.active, snapshots.addChild snapshots.active)

def addChildMixed : Int × Snapshots :=
  (snapshots.currentBase, if snapshots.currentBase = -1 then snapshots else snapshots.addChild snapshots.currentBase)

def createSnapshot (name : String) (sizeMb date : Int) : Snapshots × Int :=
  let added :=
    match snapshots.orphans with
    | .deny => snapshots.addChildDeny
    | .mixed => some snapshots.addChildMixed
    | .allow | .format | .linear => some (-1, snapshots)
  match added with
  | none => (snapshots, -1)
  | some (parent, added) =>
    ({ added with
        pool := added.pool.insertNew snapshots.nextSnapshot { name, sizeMb, date, parent }
        nextSnapshot := snapshots.nextSnapshot + 1 },
      snapshots.nextSnapshot)

def childSet (children : List Int) : List Int := children.dedup.insertionSort (· ≤ ·)

def relink (snapshot parent : Snapshot) : Snapshots :=
  let only := if (childSet snapshot.children).length = 1 then childSet snapshot.children else []
  let moved := only.foldl
    (fun snapshots child => snapshots.replace child fun child => { child with parent := snapshot.parent })
    snapshots
  let adopted := moved.replace snapshot.parent fun held =>
    { held with children := childSet ((childSet parent.children).erase id ++ only) }
  if snapshots.active = id then
    { adopted.replace snapshot.parent fun held => { held with active := true } with
      active := snapshot.parent }
  else adopted

/-- Roots are deleted as they are. -/
def deleteSnapshot : Snapshots :=
  match snapshots.getSnapshot id with
  | none => snapshots
  | some snapshot =>
    let relinked :=
      if snapshots.orphans = .deny ∨ snapshots.orphans = .mixed then
        if snapshot.parent = -1 then snapshots
        else
          match snapshots.getSnapshot snapshot.parent with
          | none => snapshots
          | some parent => snapshots.relink id snapshot parent
      else snapshots
    { relinked with pool := relinked.pool.erase id }

/-- The value that is returned -/
def activeSnapshot (revert : Bool) : Snapshots × Int :=
  if id = snapshots.active then (snapshots, 0)
  else
    match snapshots.getSnapshot id with
    | none => (snapshots, -1)
    | some _ =>
      if snapshots.orphans = .mixed ∧ !revert then (snapshots, 0)
      else
        let based := if snapshots.orphans = .mixed then { snapshots with currentBase := id } else snapshots
        let marked := based.replace id fun snapshot => { snapshot with active := true }
        let unmarked := marked.replace snapshots.active fun snapshot => { snapshot with active := false }
        ({ unmarked with active := id }, 0)

/-- `children`: -1 when there is no such snapshot -/
def childrenCount : Int :=
  if id ≤ -1 then -1 else (snapshots.getSnapshot id).elim (-1) fun snapshot => snapshot.children.length

def testChain (snapshot : Snapshot) (child : Int) : Except String Unit :=
  if 1 < snapshots.childrenCount child ∨
      (snapshots.childrenCount child = 1 ∧ snapshots.active = child) then
    .error "Cannot delete snapshot if child has children"
  else if snapshot.parent ≠ -1 ∧ 1 < snapshots.childrenCount snapshot.parent then
    .error "Cannot delete snapshot if parent has more than one child"
  else .ok ()

def testDelete (persistent : Bool) : Except String Unit :=
  match snapshots.getSnapshot id with
  | none => .error "Snapshot does not exist"
  | some snapshot =>
    match snapshots.orphans with
    | .deny | .linear =>
      if persistent ∧ id = 0 then .error "Cannot delete snapshot 0 for persistent disk images"
      else
        match snapshot.children with
        | [] => .ok ()
        | [child] =>
          if snapshots.active = id then .error "Cannot delete the active snapshot with children"
          else snapshots.testChain snapshot child
        | _ :: _ :: _ => .error "Cannot delete snapshot with more than one children"
    | .mixed =>
      if id = snapshots.active then .error "Cannot delete the active snapshot"
      else if snapshot.children ≠ [] then .error "Cannot delete snapshot with children"
      else .ok ()
    | .allow => .ok ()
    | .format => .error "Inconsistent snapshot orphan mode"

end

def init : Snapshots :=
  { snapshots with
    active := ((snapshots.pool.entries.find? fun row => row.2.active).map Sigma.fst).getD (-1) }

inductive Event where
  | create (name : String) (sizeMb date : Int)
  /-- A snapshot is deleted when the test lets it. -/
  | delete (id : Int) (persistent : Bool)
  | activate (id : Int) (revert : Bool)
  | reload

def step (snapshots : Snapshots) : Event → Snapshots
  | .create name sizeMb date => (snapshots.createSnapshot name sizeMb date).1
  | .delete id persistent =>
    match snapshots.testDelete id persistent with
    | .ok _ => snapshots.deleteSnapshot id
    | .error _ => snapshots
  | .activate id revert => (snapshots.activeSnapshot id revert).1
  | .reload => snapshots.init

def system : System Snapshots Event where
  initial snapshots := ∃ orphans, (orphans = .deny ∨ orphans = .mixed) ∧ snapshots = { orphans }
  step snapshots event := some (snapshots.step event)

end Snapshots

end OpenNebula.Vm
