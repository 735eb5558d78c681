import OpenNebula.Vm.DiskUsage

namespace OpenNebula.Vm

open Library

/-! # What a disk costs is what it holds

The usage is the growth of the disk and of its snapshots, charged to the owners that the disk
asks for.  Reverting a linear disk is the exception: the size of the younger snapshots takes the
place of the change of the disk when the system disk pays, and is added to it in an `int` when a
datastore pays.
-/

namespace Snapshots

variable {snapshots after later : Snapshots}

structure SameSizes (snapshots after : Snapshots) : Prop where
  total : after.totalSize = snapshots.totalSize
  sizes : ∀ id, after.snapshotSize id = snapshots.snapshotSize id
  members : ∀ id, id ∈ after.pool ↔ id ∈ snapshots.pool
  next : after.nextSnapshot = snapshots.nextSnapshot

theorem SameSizes.refl (snapshots : Snapshots) : SameSizes snapshots snapshots :=
  ⟨rfl, fun _ => rfl, fun _ => Iff.rfl, rfl⟩

theorem SameSizes.trans (first : SameSizes snapshots after) (second : SameSizes after later) :
    SameSizes snapshots later where
  total := second.total.trans first.total
  sizes id := (second.sizes id).trans (first.sizes id)
  members id := (second.members id).trans (first.members id)
  next := second.next.trans first.next

section

variable (snapshots : Snapshots)

theorem sameSizes_replace (id : Int) (update : Snapshot → Snapshot)
    (kept : ∀ snapshot, (update snapshot).sizeMb = snapshot.sizeMb) :
    SameSizes snapshots (snapshots.replace id update) := by
  have each : ∀ key snapshot,
      (if key = id then update snapshot else snapshot : Snapshot).sizeMb = snapshot.sizeMb := by
    intro key snapshot
    split
    · exact kept snapshot
    · rfl
  constructor
  · exact Map.sum_modify each
  · intro key
    have lookup : (snapshots.replace id update).getSnapshot key =
        (snapshots.getSnapshot key).map fun snapshot => if key = id then update snapshot else snapshot :=
      Map.lookup_modify _ _ _
    rw [snapshotSize, lookup, snapshotSize]
    cases snapshots.getSnapshot key with
    | none => rfl
    | some snapshot => exact each key snapshot
  · intro key
    exact Map.mem_modify
  · rfl

theorem sameSizes_relink (id : Int) (snapshot parent : Snapshot) :
    SameSizes snapshots (snapshots.relink id snapshot parent) := by
  -- Each child that moves keeps its size.
  have moved : ∀ (children : List Int) (current : Snapshots), SameSizes current
      (children.foldl (fun snapshots child =>
        snapshots.replace child fun child => { child with parent := snapshot.parent }) current) := by
    intro children
    induction children with
    | nil => exact SameSizes.refl
    | cons child rest ih =>
      intro current
      have first := sameSizes_replace current child
        (fun child => { child with parent := snapshot.parent }) fun _ => rfl
      exact first.trans (ih _)
  unfold relink
  dsimp only
  generalize (if (childSet snapshot.children).length = 1 then childSet snapshot.children else []) = only
  have adopted := (moved only snapshots).trans
    (sameSizes_replace _ snapshot.parent (fun held =>
        { held with children := childSet ((childSet parent.children).erase id ++ only) })
      fun _ => rfl)
  split
  · have marked := adopted.trans
      (sameSizes_replace _ snapshot.parent (fun held => { held with active := true }) fun _ => rfl)
    exact ⟨marked.total, marked.sizes, marked.members, marked.next⟩
  · exact adopted

theorem sameSizes_activeSnapshot (id : Int) (revert : Bool) :
    SameSizes snapshots (snapshots.activeSnapshot id revert).1 := by
  unfold activeSnapshot
  split
  · exact .refl snapshots
  · split
    · exact .refl snapshots
    · split
      · exact .refl snapshots
      · have based : SameSizes snapshots
            (if snapshots.orphans = .mixed then { snapshots with currentBase := id } else snapshots) := by
          split
          · exact ⟨rfl, fun _ => rfl, fun _ => Iff.rfl, rfl⟩
          · exact .refl snapshots
        have marked := based.trans
          (sameSizes_replace _ id (fun snapshot => { snapshot with active := true }) fun _ => rfl)
        have unmarked := marked.trans
          (sameSizes_replace _ snapshots.active (fun snapshot => { snapshot with active := false }) fun _ => rfl)
        exact ⟨unmarked.total, unmarked.sizes, unmarked.members, unmarked.next⟩

/-- Every identifier was given before. -/
def Numbered : Prop := ∀ id ∈ snapshots.pool, id < snapshots.nextSnapshot

end

theorem Numbered.of_sameSizes (numbered : snapshots.Numbered) (same : SameSizes snapshots after) :
    after.Numbered := by
  intro id member
  rw [same.next]
  exact numbered id ((same.members id).1 member)

variable {id : Int}

theorem deleteSnapshot_eq {snapshot : Snapshot} (found : snapshots.getSnapshot id = some snapshot) :
    ∃ relinked, SameSizes snapshots relinked ∧
      snapshots.deleteSnapshot id = { relinked with pool := relinked.pool.erase id } := by
  refine ⟨_, ?_, by simp only [deleteSnapshot, found]; rfl⟩
  split
  · split
    · exact .refl snapshots
    · split
      · exact .refl snapshots
      · exact sameSizes_relink snapshots id snapshot _
  · exact .refl snapshots

theorem deleteSnapshot_missing (missing : snapshots.getSnapshot id = none) :
    snapshots.deleteSnapshot id = snapshots := by
  simp only [deleteSnapshot, missing]

theorem totalSize_deleteSnapshot (snapshots : Snapshots) (id : Int) :
    snapshots.snapshotSize id + (snapshots.deleteSnapshot id).totalSize = snapshots.totalSize := by
  cases found : snapshots.getSnapshot id with
  | none => rw [deleteSnapshot_missing found, snapshotSize, found, Option.elim_none, zero_add]
  | some snapshot =>
    obtain ⟨relinked, same, isDeleted⟩ := deleteSnapshot_eq found
    have inside : id ∈ relinked.pool := (same.members id).2 (AList.lookup_isSome.1 (Option.isSome_of_mem found))
    obtain ⟨held, isHeld⟩ := Option.isSome_iff_exists.1 (AList.lookup_isSome.2 inside)
    have size : relinked.snapshotSize id = held.sizeMb := by
      rw [snapshotSize, getSnapshot, isHeld, Option.elim_some]
    have erased : held.sizeMb + Map.sum Snapshot.sizeMb (relinked.pool.erase id) =
        Map.sum Snapshot.sizeMb relinked.pool := Map.sum_erase isHeld
    rw [isDeleted, ← same.total, ← same.sizes, size]
    exact erased

theorem Numbered.deleteSnapshot (numbered : snapshots.Numbered) (id : Int) :
    (snapshots.deleteSnapshot id).Numbered := by
  cases found : snapshots.getSnapshot id with
  | none => rwa [deleteSnapshot_missing found]
  | some snapshot =>
    obtain ⟨relinked, same, isDeleted⟩ := deleteSnapshot_eq found
    rw [isDeleted]
    intro other member
    exact numbered.of_sameSizes same other (AList.mem_erase.1 member).2

theorem sameSizes_added {parent : Int} (snapshots : Snapshots) : SameSizes snapshots (snapshots.addChild parent) :=
  sameSizes_replace snapshots parent _ fun _ => rfl

theorem createSnapshot_cases (numbered : snapshots.Numbered) {name : String} {sizeMb date : Int}
    (created : snapshots.createSnapshot name sizeMb date = (after, id)) :
    id = -1 ∨ (after.Numbered ∧ after.totalSize = sizeMb + snapshots.totalSize) := by
  have added : ∀ {parent : Int} {middle : Snapshots}, SameSizes snapshots middle →
      ({ middle with
          pool := middle.pool.insertNew snapshots.nextSnapshot { name, sizeMb, date, parent }
          nextSnapshot := snapshots.nextSnapshot + 1 }, snapshots.nextSnapshot) = (after, id) →
      after.Numbered ∧ after.totalSize = sizeMb + snapshots.totalSize := by
    intro parent middle same isAfter
    obtain ⟨rfl, -⟩ := Prod.mk.inj isAfter
    have fresh : snapshots.nextSnapshot ∉ middle.pool := by
      intro member
      exact lt_irrefl _ (numbered _ ((same.members _).1 member))
    constructor
    · intro other member
      obtain rfl | member := Map.mem_insertNew.1 member
      · exact Int.lt_succ _
      · exact (numbered other ((same.members other).1 member)).trans (Int.lt_succ _)
    · exact (Map.sum_insertNew fresh _).trans (congrArg (sizeMb + ·) same.total)
  cases policy : snapshots.orphans with
  | deny =>
    simp only [createSnapshot, policy, addChildDeny] at created
    split at created
    · exact .inl (Prod.mk.inj created).2.symm
    · rename_i parent middle isAdded
      refine .inr (added ?_ created)
      split at isAdded
      · cases isAdded
        exact .refl snapshots
      · obtain ⟨held, -, isPair⟩ := Option.map_eq_some_iff.1 isAdded
        cases isPair
        exact sameSizes_added snapshots
  | mixed =>
    simp only [createSnapshot, policy, addChildMixed] at created
    refine .inr (added ?_ created)
    split
    · exact .refl snapshots
    · exact sameSizes_added snapshots
  | allow | format | linear =>
    simp only [createSnapshot, policy] at created
    rw [← policy] at created
    exact .inr (added (.refl snapshots) created)

theorem snapshotSize_deleteSnapshot {other : Int} (snapshots : Snapshots) (apart : other ≠ id) :
    (snapshots.deleteSnapshot id).snapshotSize other = snapshots.snapshotSize other := by
  cases found : snapshots.getSnapshot id with
  | none => rw [deleteSnapshot_missing found]
  | some snapshot =>
    obtain ⟨relinked, same, isDeleted⟩ := deleteSnapshot_eq found
    rw [isDeleted, ← same.sizes, snapshotSize, snapshotSize, getSnapshot, getSnapshot, AList.lookup_erase_ne apart]

theorem youngerSnapshots_nodup (snapshots : Snapshots) (id : Int) : (snapshots.youngerSnapshots id).Nodup :=
  (List.perm_insertionSort _ _).nodup_iff.2 (snapshots.pool.keys_nodup.filter _)

theorem mem_youngerSnapshots {other : Int} :
    other ∈ snapshots.youngerSnapshots id ↔ other ∈ snapshots.pool ∧ id < other := by
  rw [youngerSnapshots, List.mem_insertionSort, List.mem_filter, ← AList.mem_keys, decide_eq_true_iff]

theorem SameSizes.younger (same : SameSizes snapshots after) (id : Int) :
    ((after.youngerSnapshots id).map after.snapshotSize).sum =
      ((snapshots.youngerSnapshots id).map snapshots.snapshotSize).sum := by
  have perm : (after.youngerSnapshots id).Perm (snapshots.youngerSnapshots id) := by
    apply (List.perm_ext_iff_of_nodup (youngerSnapshots_nodup after id) (youngerSnapshots_nodup snapshots id)).2
    intro other
    rw [mem_youngerSnapshots, mem_youngerSnapshots, same.members]
  rw [funext same.sizes]
  exact (perm.map _).sum_eq

theorem deleteYounger_size {ids : List Int} (nodup : ids.Nodup) (size : Int) (snapshots : Snapshots) :
    (VirtualMachineDisk.deleteYounger ids size snapshots).1 = size + (ids.map snapshots.snapshotSize).sum := by
  induction ids generalizing size snapshots with
  | nil => exact (add_zero size).symm
  | cons id rest ih =>
    obtain ⟨absent, nodupRest⟩ := List.nodup_cons.1 nodup
    have kept : rest.map (snapshots.deleteSnapshot id).snapshotSize = rest.map snapshots.snapshotSize := by
      apply List.map_congr_left
      intro other member
      exact snapshotSize_deleteSnapshot snapshots (ne_of_mem_of_not_mem member absent)
    rw [VirtualMachineDisk.deleteYounger, ih nodupRest, kept, List.map_cons, List.sum_cons]
    exact add_assoc _ _ _

theorem Numbered.deleteYounger {ids : List Int} (numbered : snapshots.Numbered) (size : Int) :
    (VirtualMachineDisk.deleteYounger ids size snapshots).2.Numbered := by
  induction ids generalizing size snapshots with
  | nil => exact numbered
  | cons id rest ih => exact ih (numbered.deleteSnapshot id) _

theorem totalSize_deleteYounger (ids : List Int) (size : Int) (snapshots : Snapshots) :
    (VirtualMachineDisk.deleteYounger ids size snapshots).1 +
        (VirtualMachineDisk.deleteYounger ids size snapshots).2.totalSize = size + snapshots.totalSize := by
  induction ids generalizing size snapshots with
  | nil => rfl
  | cons id rest ih =>
    have deleted := totalSize_deleteSnapshot snapshots id
    rw [VirtualMachineDisk.deleteYounger, ih, ← deleted]
    exact add_assoc _ _ _

end Snapshots

theorem readInt_of_fits {value : Int} (low : -2147483648 ≤ value) (high : value < 2147483648) :
    readInt value = value := by
  unfold readInt
  omega

theorem storeInt_of_fits {value : Int} (low : -2147483648 ≤ value) (high : value < 2147483648) :
    storeInt value = value := by
  rw [storeInt, BitVec.toInt_ofInt, Int.bmod_def]
  omega

namespace DiskUsage

variable (usage : DiskUsage) (deltas : Deltas)

/-- All that is charged for a request -/
def addAll : DiskUsage := ((usage.addImage deltas).addDatastore deltas).addSystem deltas

theorem delImage_addImage : (usage.addImage deltas).delImage deltas = usage := by
  unfold addImage delImage
  split
  · simp
  · rfl

theorem delBoth_addBoth :
    (((usage.addImage deltas).addDatastore deltas).delImage deltas).delDatastore deltas = usage := by
  unfold addDatastore delDatastore
  split
  · have inner := delImage_addImage usage deltas
    simp only [delImage, addImage] at inner ⊢
    split
    · simp
    · simp
  · exact delImage_addImage usage deltas

theorem rollback_addAll : (usage.addAll deltas).rollback deltas = usage := by
  have both := delBoth_addBoth usage deltas
  unfold addAll rollback addSystem delSystem
  cases deltas.vm with
  | none => exact both
  | some size =>
    have apart : ∀ (held : DiskUsage) (system : Int),
        (({ held with vmSystem := system }).delImage deltas).delDatastore deltas =
          { (held.delImage deltas).delDatastore deltas with vmSystem := system } := by
      intro held system
      unfold delDatastore delImage
      split
      · split
        · rfl
        · rfl
      · split
        · rfl
        · rfl
    have same : ((usage.addImage deltas).addDatastore deltas).vmSystem = usage.vmSystem := by
      unfold addDatastore addImage
      split
      · split
        · rfl
        · rfl
      · split
        · rfl
        · rfl
    dsimp only
    rw [apart, both, same, Int.add_sub_cancel]

theorem take_cases (answers : QuotaAnswers) :
    usage.take deltas answers = (usage, false) ∨ usage.take deltas answers = (usage.addAll deltas, true) := by
  unfold take
  split
  · exact .inl rfl
  · split
    · exact .inl (congrArg (·, false) (delImage_addImage usage deltas))
    · split
      · exact .inl (congrArg (·, false) (delBoth_addBoth usage deltas))
      · exact .inr rfl

end DiskUsage

namespace VirtualMachineDisk

variable {disk : VirtualMachineDisk} {amount delta : Int}

def charges (disk : VirtualMachineDisk) (amount : Int) : DiskUsage where
  image := if disk.isVolatile = false ∧ (disk.isPersistent = true ∨ disk.tmTarget = .none) then amount else 0
  vmDatastore := if disk.isVolatile = false ∧ disk.tmTarget = .self then amount else 0
  vmSystem := if disk.isVolatile = true ∨ disk.tmTarget = .system then amount else 0

theorem addAll_charges : (disk.charges amount).addAll (disk.resizeQuotas delta) = disk.charges (amount + delta) := by
  obtain ⟨volatile, persistent, readonly, target, orphans, size, sizePrev, snapshots⟩ := disk
  cases volatile with
  | true => rfl
  | false =>
    cases persistent <;> cases target <;> rfl

theorem rollback_charges :
    (disk.charges (amount + delta)).rollback (disk.resizeQuotas delta) = disk.charges amount := by
  rw [← addAll_charges]
  exact DiskUsage.rollback_addAll _ _

theorem giveBack_charges :
    (disk.charges amount).giveBack (disk.resizeQuotas delta) = disk.charges (amount - delta) := by
  have whole : amount - delta + delta = amount := Int.sub_add_cancel amount delta
  have back : (disk.charges (amount - delta + delta)).rollback (disk.resizeQuotas delta) =
      disk.charges (amount - delta) := rollback_charges
  rw [whole] at back
  rw [← back]
  unfold DiskUsage.giveBack DiskUsage.rollback
  split
  · rfl
  · rename_i empty
    simp only [resizeQuotas] at empty ⊢
    split at empty
    · exact absurd rfl empty
    · rename_i nobody
      simp only [Bool.or_eq_true, not_or, Bool.not_eq_true] at nobody
      simp [DiskUsage.delImage, DiskUsage.delDatastore, nobody]

variable {snapshots : Snapshots}

theorem revertSnapshotQuotas_eq (held : disk.snapshots = some snapshots) (id : Int) :
    disk.revertSnapshotQuotas id = ({ disk with size := snapshots.snapshotSize id },
      if disk.size = snapshots.snapshotSize id then {}
      else disk.resizeQuotas (disk.size - snapshots.snapshotSize id)) := by
  simp only [revertSnapshotQuotas, held]
  by_cases same : disk.size = snapshots.snapshotSize id
  · rw [if_neg (not_not_intro same), if_pos same, ← same, ← held]
  · rw [if_pos same, if_neg same]

theorem younger_deltas {change younger : Int} {deltas : Deltas} (attached : disk.isVolatile = false)
    (isDeltas : deltas = if change = 0 then {} else disk.resizeQuotas change)
    (system : disk.tmTarget = .system → change = 0)
    (fits : disk.isPersistent = true ∨ disk.tmTarget = .self ∨ disk.tmTarget = .none →
      -2147483648 ≤ change ∧ change < 2147483648 ∧ -2147483648 ≤ change + younger ∧ change + younger < 2147483648) :
    ({ ds :=
          if disk.isPersistent || disk.tmTarget = .none || disk.tmTarget = .self then
            some (storeInt (readInt (deltas.ds.getD 0) + younger)) else deltas.ds
       vm := if disk.tmTarget = .system then some younger else deltas.vm
       imgOwner := disk.isPersistent || disk.tmTarget = .none
       vmOwner := disk.tmTarget = .self } : Deltas) = disk.resizeQuotas (change + younger) := by
  have stored : disk.isPersistent = true ∨ disk.tmTarget = .self ∨ disk.tmTarget = .none →
      storeInt (readInt change + younger) = change + younger := by
    intro owner
    obtain ⟨low, high, lowSum, highSum⟩ := fits owner
    rw [readInt_of_fits low high, storeInt_of_fits lowSum highSum]
  by_cases unchanged : change = 0
  · subst unchanged
    rw [if_pos rfl] at isDeltas
    subst isDeltas
    cases persistent : disk.isPersistent <;> cases target : disk.tmTarget <;>
      simp_all [resizeQuotas]
  · have notSystem : disk.tmTarget ≠ .system := fun isSystem => unchanged (system isSystem)
    rw [if_neg unchanged] at isDeltas
    subst isDeltas
    cases persistent : disk.isPersistent <;> cases target : disk.tmTarget <;>
      simp_all [resizeQuotas]

theorem deleteYoungerSnapshots_eq {id change : Int} {deltas : Deltas} (held : disk.snapshots = some snapshots)
    (attached : disk.isVolatile = false) (isDeltas : deltas = if change = 0 then {} else disk.resizeQuotas change)
    (system : disk.tmTarget = .system → change = 0)
    (fits : disk.isPersistent = true ∨ disk.tmTarget = .self ∨ disk.tmTarget = .none →
      -2147483648 ≤ change ∧ change < 2147483648 ∧
      -2147483648 ≤ change + ((snapshots.youngerSnapshots id).map snapshots.snapshotSize).sum ∧
      change + ((snapshots.youngerSnapshots id).map snapshots.snapshotSize).sum < 2147483648) :
    disk.deleteYoungerSnapshots id deltas =
      ({ disk with snapshots := some (deleteYounger (snapshots.youngerSnapshots id) 0 snapshots).2 },
        disk.resizeQuotas (change + ((snapshots.youngerSnapshots id).map snapshots.snapshotSize).sum)) := by
  have sizes := Snapshots.deleteYounger_size (snapshots.youngerSnapshots_nodup id) 0 snapshots
  rw [zero_add] at sizes
  rw [← younger_deltas attached isDeltas system fits, ← sizes]
  simp only [deleteYoungerSnapshots, held]

theorem deleteSnapshot_deltas (held : disk.snapshots = some snapshots) (attached : disk.isVolatile = false)
    (id : Int) : disk.deleteSnapshot id = ({ disk with snapshots := some (snapshots.deleteSnapshot id) },
      disk.resizeQuotas (snapshots.snapshotSize id)) := by
  simp only [deleteSnapshot, held, resizeQuotas, attached]
  congr 1
  simp [Bool.or_comm]

end VirtualMachineDisk

namespace DiskMachine

variable {machine : DiskMachine}

/-- What every owner was charged, less what was given back -/
structure Charged (machine : DiskMachine) : Prop where
  image : machine.disk.isVolatile = false → machine.disk.isPersistent = true ∨ machine.disk.tmTarget = .none →
    machine.usage.image = machine.held - machine.start
  vmDatastore : machine.disk.isVolatile = false → machine.disk.tmTarget = .self →
    machine.usage.vmDatastore = machine.held - machine.start
  vmSystem : machine.disk.isVolatile = true ∨ machine.disk.tmTarget = .system →
    machine.usage.vmSystem = machine.held - machine.start

def revertSizes (machine : DiskMachine) (id : Int) : Int × Int :=
  match machine.disk.snapshots with
  | none => (0, 0)
  | some snapshots =>
    (machine.disk.size - snapshots.snapshotSize id, ((snapshots.youngerSnapshots id).map snapshots.snapshotSize).sum)

/-- The templates of the revert are right: nothing but the younger snapshots is given back when
the system disk pays, and all sizes fit in an `int` when a datastore pays. -/
def SparesRevert (machine : DiskMachine) (id : Int) : Prop :=
  let (change, younger) := machine.revertSizes id
  (machine.disk.tmTarget = .system → change = 0) ∧
    (machine.disk.isPersistent = true ∨ machine.disk.tmTarget = .self ∨ machine.disk.tmTarget = .none →
      -2147483648 ≤ change ∧ change < 2147483648 ∧
        -2147483648 ≤ change + younger ∧ change + younger < 2147483648)

instance (id : Int) : Decidable (machine.SparesRevert id) :=
  inferInstanceAs (Decidable ((_ → _) ∧ (_ → _)))

/-- The snapshot of the revert that the driver has been asked for -/
def pendingRevert (machine : DiskMachine) : Option Int :=
  match machine.pending with
  | some (.revert id) => some id
  | _ => none

def Event.Spares (machine : DiskMachine) : Event → Prop
  | .snapshotSuccess => ∀ id ∈ machine.pendingRevert, machine.disk.allowOrphans = .linear →
      machine.SparesRevert id
  | _ => True

instance (machine : DiskMachine) : (event : Event) → Decidable (event.Spares machine)
  | .snapshotSuccess => inferInstanceAs (Decidable (∀ id ∈ machine.pendingRevert, _ → _))
  | .power _ | .snapshotCreate .. | .snapshotRevert .. | .snapshotDelete .. | .resize .. | .snapshotFailure
  | .resizeSuccess | .resizeFailure => isTrue trivial

/-- What is kept by every event -/
structure Balanced (machine : DiskMachine) : Prop where
  usage : machine.usage = machine.disk.charges (machine.held - machine.start)
  numbered : ∀ snapshots ∈ machine.disk.snapshots, snapshots.Numbered
  volatile : machine.disk.isVolatile = true → machine.disk.snapshots = none
  resizing : machine.pending = some .resize → machine.disk.sizePrev.isSome

theorem Balanced.charged (balanced : machine.Balanced) : machine.Charged := by
  obtain ⟨usage, -, -, -⟩ := balanced
  constructor
  · intro attached owner
    rw [usage]
    exact if_pos ⟨attached, owner⟩
  · intro attached owner
    rw [usage]
    exact if_pos ⟨attached, owner⟩
  · intro owner
    rw [usage]
    exact if_pos owner

theorem balanced_of_change (machine : DiskMachine) {size delta : Int} {sizePrev : Option Int}
    {snapshots : Option Snapshots} {pending : Option DiskOperation}
    (grows : size + snapshots.elim 0 Snapshots.totalSize = machine.held + delta)
    (numbered : ∀ held ∈ snapshots, held.Numbered) (volatile : machine.disk.isVolatile = true → snapshots = none)
    (resizing : pending = some .resize → sizePrev.isSome) : Balanced { machine with
      disk := { machine.disk with size, sizePrev, snapshots }
      pending
      usage := machine.disk.charges (machine.held - machine.start + delta) } := by
  constructor
  · change machine.disk.charges _ =
      machine.disk.charges (size + snapshots.elim 0 Snapshots.totalSize - machine.start)
    rw [grows]
    congr 1
    omega
  · exact numbered
  · exact volatile
  · exact resizing

theorem Balanced.same_usage (balanced : machine.Balanced) {usage : DiskUsage} (same : usage = machine.usage) :
    Balanced { machine with usage } := by
  subst same
  exact balanced

theorem createSnapshot_ok {disk after : VirtualMachineDisk} {name : String} {date id : Int}
    (numbered : ∀ snapshots ∈ disk.snapshots, snapshots.Numbered)
    (created : disk.createSnapshot name date = .ok (after, id)) :
    ∃ snapshots, after = { disk with snapshots := some snapshots } ∧ snapshots.Numbered ∧
      snapshots.totalSize = disk.size + disk.snapshots.elim 0 Snapshots.totalSize := by
  unfold VirtualMachineDisk.createSnapshot at created
  split at created
  · cases created
  · split at created
    · cases created
    · dsimp only at created
      split at created
      · cases created
      · rename_i given
        cases created
        have first : (disk.snapshots.getD { orphans := disk.allowOrphans }).Numbered := by
          cases held : disk.snapshots with
          | none =>
            intro other member
            cases AList.notMem_empty other member
          | some snapshots => exact numbered snapshots held
        have total : (disk.snapshots.getD { orphans := disk.allowOrphans }).totalSize =
            disk.snapshots.elim 0 Snapshots.totalSize := by
          cases disk.snapshots with
          | none | some snapshots => rfl
        obtain refused | ⟨after, grown⟩ := Snapshots.createSnapshot_cases first (Prod.mk.eta).symm
        · exact absurd refused given
        · exact ⟨_, rfl, after, grown.trans (congrArg _ total)⟩

section

variable (balanced : machine.Balanced)
include balanced

theorem Balanced.diskSnapshotCreate (name : String) (date : Int) (allowed : Bool) (answers : QuotaAnswers) :
    (machine.diskSnapshotCreate name date allowed answers).Balanced := by
  unfold DiskMachine.diskSnapshotCreate
  split
  · exact balanced
  · rename_i passes
    have attached : machine.disk.isVolatile = false := by
      cases isVolatile : machine.disk.isVolatile with
      | false => rfl
      | true => simp [isVolatile] at passes
    have back := DiskUsage.rollback_addAll machine.usage (machine.disk.resizeQuotas machine.disk.size)
    dsimp only
    obtain refused | taken := machine.usage.take_cases (machine.disk.resizeQuotas machine.disk.size) answers
    · rw [refused]
      exact balanced.same_usage rfl
    · rw [taken]
      dsimp only
      split
      · split
        · exact balanced.same_usage back
        · rename_i disk id created
          obtain ⟨snapshots, rfl, numbered, total⟩ := createSnapshot_ok balanced.numbered created
          rw [balanced.usage, VirtualMachineDisk.addAll_charges]
          refine balanced_of_change machine ?_ ?_ ?_ ?_
          · rw [Option.elim_some, total, held]
            omega
          · intro held isHeld
            cases isHeld
            exact numbered
          · intro isVolatile
            rw [attached] at isVolatile
            cases isVolatile
          · intro isResize
            cases isResize
      · exact balanced.same_usage back

theorem Balanced.diskResize (size : Int) (allowed : Bool)
    (answers : QuotaAnswers) : (machine.diskResize size allowed answers).Balanced := by
  unfold DiskMachine.diskResize
  split
  · exact balanced
  · have back := DiskUsage.rollback_addAll machine.usage
      (machine.disk.resizeQuotas (size - machine.disk.size))
    dsimp only
    obtain refused | taken := machine.usage.take_cases
      (machine.disk.resizeQuotas (size - machine.disk.size)) answers
    · rw [refused]
      exact balanced.same_usage rfl
    · rw [taken]
      dsimp only
      split
      · split
        · exact balanced.same_usage back
        · rename_i disk larger
          unfold VirtualMachineDisk.setUpResize at larger
          split at larger
          · cases larger
          · cases larger
            rw [balanced.usage, VirtualMachineDisk.addAll_charges]
            refine balanced_of_change machine ?_ balanced.numbered balanced.volatile fun _ => rfl
            rw [held]
            omega
      · exact balanced.same_usage back

theorem Balanced.request {operation : DiskOperation}
    (other : operation ≠ .resize) : Balanced { machine with pending := some operation } := by
  refine ⟨balanced.usage, balanced.numbered, balanced.volatile, ?_⟩
  intro isResize
  exact absurd (Option.some.inj isResize) other

theorem Balanced.deleteSnapshot (id : Int) :
    (machine.finish (machine.disk.deleteSnapshot id).1 (machine.disk.deleteSnapshot id).2).Balanced := by
  cases isHeld : machine.disk.snapshots with
  | none =>
    simp only [VirtualMachineDisk.deleteSnapshot, isHeld]
    exact ⟨balanced.usage, balanced.numbered, balanced.volatile, by simp [finish]⟩
  | some snapshots =>
    have attached : machine.disk.isVolatile = false := by
      cases isVolatile : machine.disk.isVolatile with
      | false => rfl
      | true =>
        rw [balanced.volatile isVolatile] at isHeld
        cases isHeld
    rw [VirtualMachineDisk.deleteSnapshot_deltas isHeld attached, finish, balanced.usage,
      VirtualMachineDisk.giveBack_charges, sub_eq_add_neg]
    refine balanced_of_change machine ?_ ?_ ?_ ?_
    · have total := snapshots.totalSize_deleteSnapshot id
      rw [Option.elim_some, held, isHeld, Option.elim_some]
      omega
    · intro deleted isDeleted
      cases isDeleted
      exact (balanced.numbered snapshots isHeld).deleteSnapshot id
    · intro isVolatile
      rw [attached] at isVolatile
      cases isVolatile
    · intro isResize
      cases isResize

theorem Balanced.revertSnapshot (id : Int) (revert : Bool) :
    (machine.finish (machine.disk.revertSnapshot id revert) {}).Balanced := by
  have unchanged : machine.usage = machine.disk.charges (machine.held - machine.start + 0) := by
    rw [add_zero, ← balanced.usage]
  change Balanced { machine with
    disk := machine.disk.revertSnapshot id revert
    pending := none
    usage := machine.usage }
  rw [unchanged]
  refine balanced_of_change machine ?_ ?_ ?_ ?_
  · rw [add_zero, held]
    cases machine.disk.snapshots with
    | none => rfl
    | some snapshots => exact congrArg _ (snapshots.sameSizes_activeSnapshot id revert).total
  · intro after isAfter
    obtain ⟨snapshots, isHeld, rfl⟩ := Option.map_eq_some_iff.1 isAfter
    exact (balanced.numbered snapshots isHeld).of_sameSizes (snapshots.sameSizes_activeSnapshot id revert)
  · intro isVolatile
    rw [balanced.volatile isVolatile, Option.map_none]
  · intro isResize
    cases isResize

end

theorem charges_zero (disk : VirtualMachineDisk) (amount : Int) :
    disk.charges (amount - 0) = (disk.charges amount).giveBack {} := by
  rw [sub_zero]
  rfl

section

variable (balanced : machine.Balanced)
include balanced

theorem Balanced.revert (id : Int) : (machine.finish ((machine.disk.revertSnapshotQuotas id).1.revertSnapshot id true)
      (machine.disk.revertSnapshotQuotas id).2).Balanced := by
  cases isHeld : machine.disk.snapshots with
  | none =>
    simp only [VirtualMachineDisk.revertSnapshotQuotas, isHeld]
    exact balanced.revertSnapshot id true
  | some snapshots =>
    have same := snapshots.sameSizes_activeSnapshot id true
    have given : machine.usage.giveBack (machine.disk.revertSnapshotQuotas id).2 =
        machine.disk.charges
          (machine.held - machine.start - (machine.disk.size - snapshots.snapshotSize id)) := by
      rw [VirtualMachineDisk.revertSnapshotQuotas_eq isHeld, balanced.usage]
      dsimp only
      split
      · rename_i unchanged
        rw [unchanged, sub_self, charges_zero]
      · exact VirtualMachineDisk.giveBack_charges
    rw [finish, given, sub_eq_add_neg, VirtualMachineDisk.revertSnapshotQuotas_eq isHeld]
    simp only [VirtualMachineDisk.revertSnapshot, isHeld, Option.map_some]
    refine balanced_of_change machine ?_ ?_ ?_ ?_
    · rw [Option.elim_some, same.total, held, isHeld, Option.elim_some]
      omega
    · intro after isAfter
      cases isAfter
      exact (balanced.numbered snapshots isHeld).of_sameSizes same
    · intro isVolatile
      rw [balanced.volatile isVolatile] at isHeld
      cases isHeld
    · intro isResize
      cases isResize

theorem Balanced.linearRevert {id : Int} (spared : machine.SparesRevert id) :
    let reverted := (machine.disk.revertSnapshotQuotas id).1.revertSnapshot id true
    let younger := reverted.deleteYoungerSnapshots id (machine.disk.revertSnapshotQuotas id).2
    (machine.finish younger.1 younger.2).Balanced := by
  dsimp only
  cases isHeld : machine.disk.snapshots with
  | none =>
    simp only [VirtualMachineDisk.revertSnapshotQuotas, isHeld, VirtualMachineDisk.revertSnapshot,
      Option.map_none, VirtualMachineDisk.deleteYoungerSnapshots]
    have unchanged : ({ machine.disk with snapshots := none } : VirtualMachineDisk) = machine.disk := by
      rw [← isHeld]
    rw [unchanged]
    exact ⟨balanced.usage, balanced.numbered, balanced.volatile, by simp [finish]⟩
  | some snapshots =>
    have attached : machine.disk.isVolatile = false := by
      cases isVolatile : machine.disk.isVolatile with
      | false => rfl
      | true =>
        rw [balanced.volatile isVolatile] at isHeld
        cases isHeld
    obtain ⟨system, fits⟩ : (machine.disk.tmTarget = .system → _) ∧ _ := by
      simpa only [SparesRevert, revertSizes, isHeld] using spared
    have same := snapshots.sameSizes_activeSnapshot id true
    rw [← same.younger] at fits
    have isDeltas : (machine.disk.revertSnapshotQuotas id).2 =
        if machine.disk.size - snapshots.snapshotSize id = 0 then {}
        else machine.disk.resizeQuotas (machine.disk.size - snapshots.snapshotSize id) := by
      rw [VirtualMachineDisk.revertSnapshotQuotas_eq isHeld]
      simp only [sub_eq_zero]
    have reverted : (machine.disk.revertSnapshotQuotas id).1.revertSnapshot id true =
        { machine.disk with
          size := snapshots.snapshotSize id
          snapshots := some (snapshots.activeSnapshot id true).1 } := by
      rw [VirtualMachineDisk.revertSnapshotQuotas_eq isHeld]
      simp only [VirtualMachineDisk.revertSnapshot, isHeld, Option.map_some]
    have deleted := @VirtualMachineDisk.deleteYoungerSnapshots_eq
      { machine.disk with
        size := snapshots.snapshotSize id
        snapshots := some (snapshots.activeSnapshot id true).1 } _ _ _ _ rfl attached isDeltas system fits
    have quotas : ∀ delta, ({ machine.disk with
        size := snapshots.snapshotSize id
        snapshots := some (snapshots.activeSnapshot id true).1 } : VirtualMachineDisk).resizeQuotas delta =
        machine.disk.resizeQuotas delta := fun _ => rfl
    have sizes := Snapshots.deleteYounger_size
      ((snapshots.activeSnapshot id true).1.youngerSnapshots_nodup id) 0 (snapshots.activeSnapshot id true).1
    have total := Snapshots.totalSize_deleteYounger
      ((snapshots.activeSnapshot id true).1.youngerSnapshots id) 0 (snapshots.activeSnapshot id true).1
    rw [reverted, deleted, quotas, finish, balanced.usage, VirtualMachineDisk.giveBack_charges, sub_eq_add_neg]
    refine balanced_of_change machine ?_ ?_ ?_ ?_
    · dsimp only
      rw [Option.elim_some, held, isHeld, Option.elim_some]
      rw [sizes, same.total] at total
      omega
    · intro after isAfter
      cases isAfter
      exact ((balanced.numbered snapshots isHeld).of_sameSizes same).deleteYounger 0
    · intro isVolatile
      rw [attached] at isVolatile
      cases isVolatile
    · intro isResize
      cases isResize

theorem Balanced.snapshotSuccess
    (spared : Event.Spares machine .snapshotSuccess) : machine.triggerDiskSnapshotSuccess.Balanced := by
  unfold triggerDiskSnapshotSuccess
  cases isPending : machine.pending with
  | none => exact balanced
  | some operation =>
    cases operation with
    | snapshot id => exact balanced.revertSnapshot id false
    | revert id =>
      dsimp only
      split
      · rename_i linear
        exact balanced.linearRevert (spared id (by rw [pendingRevert, isPending]; rfl) linear)
      · exact balanced.revert id
    | delete id => exact balanced.deleteSnapshot id
    | resize => exact balanced

theorem Balanced.snapshotFailure : machine.triggerDiskSnapshotFailure.Balanced := by
  have unchanged : (machine.finish machine.disk {}).Balanced :=
    ⟨balanced.usage, balanced.numbered, balanced.volatile, fun isResize => by cases isResize⟩
  unfold triggerDiskSnapshotFailure
  cases machine.pending with
  | none => exact balanced
  | some operation =>
    cases operation with
    | snapshot id => exact balanced.deleteSnapshot id
    | revert id | delete id => exact unchanged
    | resize => exact balanced

theorem Balanced.resizeSuccess : machine.triggerDiskResizeSuccess.Balanced := by
  unfold triggerDiskResizeSuccess
  split
  · exact ⟨balanced.usage, balanced.numbered, balanced.volatile, fun isResize => by cases isResize⟩
  all_goals exact balanced

theorem Balanced.resizeFailure : machine.triggerDiskResizeFailure.Balanced := by
  unfold triggerDiskResizeFailure
  cases isPending : machine.pending with
  | none => exact balanced
  | some operation =>
    cases operation with
    | resize =>
      obtain ⟨size, before⟩ := Option.isSome_iff_exists.1 (balanced.resizing isPending)
      have grown : machine.held - machine.start =
          machine.held - machine.start + (size - machine.disk.size) + (machine.disk.size - size) := by
        omega
      dsimp only
      rw [before, Option.getD_some, balanced.usage, grown, VirtualMachineDisk.rollback_charges]
      simp only [VirtualMachineDisk.clearResize, before, if_true, Option.getD_some]
      refine balanced_of_change machine ?_ balanced.numbered balanced.volatile fun isResize => by cases isResize
      rw [held]
      omega
    | snapshot id | revert id | delete id => exact balanced

theorem Balanced.step {event : Event} (spared : event.Spares machine) : (machine.step event).Balanced := by
  cases event with
  | power state =>
    unfold DiskMachine.step
    dsimp only
    split
    · exact ⟨balanced.usage, balanced.numbered, balanced.volatile, balanced.resizing⟩
    · exact balanced
  | snapshotCreate name date allowed answers => exact balanced.diskSnapshotCreate name date allowed answers
  | snapshotRevert id allowed =>
    unfold DiskMachine.step diskSnapshotRevert
    dsimp only
    split
    · exact balanced.request fun same => by cases same
    · exact balanced
  | snapshotDelete id allowed =>
    unfold DiskMachine.step diskSnapshotDelete
    dsimp only
    split
    · exact balanced.request fun same => by cases same
    · exact balanced
  | resize size allowed answers => exact balanced.diskResize size allowed answers
  | snapshotSuccess => exact balanced.snapshotSuccess spared
  | snapshotFailure => exact balanced.snapshotFailure
  | resizeSuccess => exact balanced.resizeSuccess
  | resizeFailure => exact balanced.resizeFailure

end

/-- What was charged and not given back is the growth of the disk and of its snapshots. -/
theorem disk_usage (reached : system.Reachable Event.Spares machine) : machine.Charged := by
  have balanced : machine.Balanced := by
    apply reached.invariant
    · rintro start ⟨idle, unused, isStart, numbered, volatile⟩
      refine ⟨?_, numbered, volatile, ?_⟩
      · rw [unused, isStart, sub_self]
        simp [VirtualMachineDisk.charges]
      · rw [idle]
        intro isResize
        cases isResize
    · intro before event next balanced spared stepped
      cases stepped
      exact balanced.step spared
  exact balanced.charged

def linearMachine (tmTarget : TmTarget) : DiskMachine where
  state := .poweroff
  disk := { isVolatile := false, isPersistent := false, tmTarget, allowOrphans := .linear, size := 10 }
  start := 10

theorem linearMachine_initial (tmTarget : TmTarget) : system.initial (linearMachine tmTarget) := by
  refine ⟨rfl, rfl, rfl, ?_, fun _ => rfl⟩
  intro snapshots isHeld
  cases isHeld

def growAndRevert : List Event :=
  [.snapshotCreate "first" 1 true {}, .snapshotSuccess, .resize 20 true {}, .resizeSuccess,
    .snapshotRevert 0 true, .snapshotSuccess]

/-- In a datastore the sum is that of the snapshot that is left. -/
theorem disk_usage_datastore : ∃ machine, system.Reachable Event.Spares machine ∧
    machine.usage.vmDatastore = 10 ∧ machine.Charged := by
  have ran : ∃ machine, system.exec Event.Spares (linearMachine .self) growAndRevert = some machine ∧
      machine.usage.vmDatastore = 10 := ⟨_, rfl, by decide⟩
  obtain ⟨machine, ran, usage⟩ := ran
  have reached := System.reachable_of_exec (linearMachine_initial .self) ran
  exact ⟨machine, reached, usage, disk_usage reached⟩

/-- The system disk is not given back what the disk had grown. -/
theorem disk_usage_linear : ∃ machine, system.Reachable System.anyStep machine ∧
    machine.disk.tmTarget = .system ∧ machine.held - machine.start = 10 ∧
    machine.usage.vmSystem = 20 ∧ ¬machine.Charged := by
  have ran : ∃ machine, system.exec System.anyStep (linearMachine .system) growAndRevert = some machine ∧
      machine.disk.tmTarget = .system ∧ machine.held - machine.start = 10 ∧ machine.usage.vmSystem = 20 :=
    ⟨_, rfl, by decide⟩
  obtain ⟨machine, ran, target, change, usage⟩ := ran
  have reached := System.reachable_of_exec (linearMachine_initial .system) ran
  refine ⟨machine, reached, target, change, usage, ?_⟩
  intro charged
  have same := charged.vmSystem (.inr target)
  rw [usage, change] at same
  cases same

end DiskMachine

end OpenNebula.Vm
