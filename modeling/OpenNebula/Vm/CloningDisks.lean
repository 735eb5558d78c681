import Mathlib.Data.Finset.Sort
import Mathlib.Data.List.Count
import Mathlib.Data.List.Forall2
import OpenNebula.Common.VectorAttribute
import OpenNebula.Images.Image
import OpenNebula.Vm.VirtualMachine

namespace OpenNebula.Vm

open Common Library
open Images (ImageState)

/-! # Machines that wait for their images -/

namespace Cloning

/-- What is read of an image. -/
structure Copy where
  state : ImageState
  source : String
  format : String

structure Machine where
  state : VmState
  disks : List VectorAttribute
  submitOnHold : Bool

def isCloning (disk : VectorAttribute) : Bool := (disk.vectorValue "CLONING").toUpper = "YES"

def imageId (disk : VectorAttribute) : Option Int :=
  let (id, good) := disk.intValue "IMAGE_ID" 0
  if good then some id else none

def getCloningImageIds (disks : List VectorAttribute) : Finset Int :=
  ((disks.filter fun disk => isCloning disk).filterMap imageId).toFinset

def cleared (disk : VectorAttribute) (image : Copy) : VectorAttribute :=
  let sourced := (disk.remove "CLONING").replace "SOURCE" image.source
  if image.format = "" then sourced else (sourced.replace "DRIVER" image.format).replace "FORMAT" image.format

/-- The search ends at the first disk of the image. -/
def clearCloningImageId (id : Int) (image : Copy) : List VectorAttribute → List VectorAttribute
  | [] => []
  | disk :: rest =>
    if imageId disk = some id then cleared disk image :: rest else disk :: clearCloningImageId id image rest

abbrev Images := Int → Option Copy

def readyImage (images : Images) (id : Int) : Option Copy :=
  (images id).filter fun image => image.state = .used ∨ image.state = .usedPers

def readyImages (images : Images) (ids : Finset Int) : List (Int × Copy) :=
  (ids.sort (· ≤ ·)).filterMap fun id => (readyImage images id).map (id, ·)

def clearReady (disks : List VectorAttribute) (ready : List (Int × Copy)) : List VectorAttribute :=
  ready.foldl (fun disks image => clearCloningImageId image.1 image.2 disks) disks

section

variable (vm : Machine)

def Machine.isWaiting : Prop := vm.state = .cloning ∨ vm.state = .cloningFailure

instance (vm : Machine) : Decidable vm.isWaiting := inferInstanceAs (Decidable (_ ∨ _))

def Machine.triggerDiskLockSuccess (images : Images) : Machine :=
  if vm.isWaiting then
    let ids := getCloningImageIds vm.disks
    let ready := readyImages images ids
    let state : VmState :=
      if ids.card = ready.length then if vm.submitOnHold then .hold else .pending
      else if ∃ id ∈ ids, (images id).any (fun image => image.state = .error) then .cloningFailure
      else .cloning
    { vm with state, disks := clearReady vm.disks ready }
  else vm

def Machine.run (tables : List Images) : Machine := tables.foldl Machine.triggerDiskLockSuccess vm

def Machine.hasLeft : Prop := vm.state = .pending ∨ vm.state = .hold

/-- The disk has what its image had when it was found ready. -/
def Sourced (tables : List Images) (before after : VectorAttribute) : Prop :=
  ∃ images ∈ tables, ∃ image, (imageId before).bind (readyImage images) = some image ∧
    after.vectorValue "SOURCE" = image.source ∧ (image.format ≠ "" → after.vectorValue "FORMAT" = image.format)

def Machine.LeavesReady : Prop :=
  ∀ tables,
    ((vm.run tables).hasLeft → List.Forall₂ (fun before after =>
      (isCloning before → Sourced tables before after) ∧ isCloning after = false) vm.disks (vm.run tables).disks) ∧
    ∀ images, (vm.run tables).isWaiting →
      (∀ disk ∈ (vm.run tables).disks, isCloning disk → ((imageId disk).bind (readyImage images)).isSome) →
      ((vm.run tables).triggerDiskLockSuccess images).hasLeft

end

def FirstOfImage (disks : List VectorAttribute) : Prop :=
  ∀ before disk after, disks = before ++ disk :: after → isCloning disk →
    imageId disk ≠ none ∧ imageId disk ∉ before.map imageId

def settle (images : Images) (disk : VectorAttribute) : VectorAttribute :=
  if isCloning disk then ((imageId disk).bind (readyImage images)).elim disk (cleared disk) else disk

section Disks

variable {disk : VectorAttribute} {disks before after : List VectorAttribute} {image : Copy} {images : Images}
  {id : Int} {ready : List (Int × Copy)}

@[simp] theorem imageId_cleared : imageId (cleared disk image) = imageId disk := by
  simp only [imageId, VectorAttribute.intValue, cleared]
  split <;> simp

@[simp] theorem isCloning_cleared : isCloning (cleared disk image) = false := by
  simp only [isCloning, cleared]
  split <;> simp <;> decide +kernel

theorem sourced_cleared : (cleared disk image).vectorValue "SOURCE" = image.source ∧
    (image.format ≠ "" → (cleared disk image).vectorValue "FORMAT" = image.format) := by
  simp only [cleared]
  split
  · simp_all
  · simp

@[simp] theorem imageId_settle : imageId (settle images disk) = imageId disk := by
  unfold settle
  split
  · cases (imageId disk).bind (readyImage images) <;> simp
  · rfl

theorem settle_of_not_cloning (idle : isCloning disk = false) : settle images disk = disk := by
  simp [settle, idle]

theorem isCloning_of_settle (cloning : isCloning (settle images disk)) :
    isCloning disk ∧ (imageId disk).bind (readyImage images) = none ∧ settle images disk = disk := by
  unfold settle at cloning ⊢
  split at cloning
  · rename_i was
    cases found : (imageId disk).bind (readyImage images) with
    | none => simp [was]
    | some image => simp [found] at cloning
  · rename_i idle
    exact absurd cloning idle

theorem map_imageId_clear : (clearCloningImageId id image disks).map imageId = disks.map imageId := by
  induction disks with
  | nil => rfl
  | cons disk rest induction =>
    unfold clearCloningImageId
    split
    · simp
    · simp [induction]

theorem clear_append (before disks : List VectorAttribute) : clearCloningImageId id image (before ++ disks) =
      if some id ∈ before.map imageId then clearCloningImageId id image before ++ disks
      else before ++ clearCloningImageId id image disks := by
  induction before with
  | nil => rfl
  | cons first before induction =>
    by_cases own : imageId first = some id
    · simp [clearCloningImageId, own]
    · simp only [List.cons_append, clearCloningImageId, own, if_false, induction, List.map_cons, List.mem_cons,
        Ne.symm own, false_or]
      split <;> rfl

theorem clearReady_stops (blocked : imageId disk = none ∨ imageId disk ∈ before.map imageId)
    (ready : List (Int × Copy)) :
    ∃ before' after', clearReady (before ++ disk :: after) ready = before' ++ disk :: after' := by
  induction ready generalizing before after with
  | nil => exact ⟨before, after, rfl⟩
  | cons row ready induction =>
    rw [clearReady, List.foldl_cons, ← clearReady, clear_append]
    split
    · refine induction ?_
      rw [map_imageId_clear]
      exact blocked
    · rename_i fresh
      have other : imageId disk ≠ some row.1 := by
        intro same
        rw [same] at blocked
        exact blocked.elim (fun absent => by cases absent) fresh
      rw [clearCloningImageId, if_neg other]
      exact induction blocked

theorem FirstOfImage.map {change : VectorAttribute → VectorAttribute} (first : FirstOfImage disks)
    (same : ∀ disk, imageId (change disk) = imageId disk) (fewer : ∀ disk, isCloning (change disk) → isCloning disk) :
    FirstOfImage (disks.map change) := by
  intro before disk after parts cloning
  obtain ⟨before, rest, rfl, rfl, tail⟩ := List.map_eq_append_iff.1 parts
  obtain ⟨disk, after, rfl, rfl, rfl⟩ := List.map_eq_cons_iff.1 tail
  simpa [same, Function.comp_def] using first before disk after rfl (fewer disk cloning)

theorem clear_eq (first : FirstOfImage disks) (isReady : readyImage images id = some image)
    (waited : ∃ disk ∈ disks, isCloning disk ∧ imageId disk = some id) : clearCloningImageId id image disks =
      disks.map fun disk => if imageId disk = some id then settle images disk else disk := by
  obtain ⟨disk, member, cloning, own⟩ := waited
  obtain ⟨before, after, rfl⟩ := List.append_of_mem member
  have fresh := (first before disk after rfl cloning).2
  rw [own] at fresh
  have earlier : ∀ other ∈ before, imageId other ≠ some id := fun other member same =>
    fresh (List.mem_map.2 ⟨other, member, same⟩)
  have later : ∀ other ∈ after, imageId other = some id → isCloning other = false := by
    intro other member same
    obtain ⟨between, rest, rfl⟩ := List.append_of_mem member
    by_contra cloning
    have unnamed := (first (before ++ disk :: between) other rest (by simp) (by simpa using cloning)).2
    exact unnamed (by simp [same, own])
  rw [clear_append, if_neg fresh, clearCloningImageId, if_pos own, List.map_append, List.map_cons, if_pos own]
  congr 1
  · exact (List.map_congr_left fun other member => if_neg (earlier other member)).trans (List.map_id _) |>.symm
  · have settled : settle images disk = cleared disk image := by simp [settle, cloning, own, isReady]
    rw [settled]
    congr 1
    refine ((List.map_congr_left fun other member => ?_).trans (List.map_id after)).symm
    split
    · rename_i same
      exact settle_of_not_cloning (later other member same)
    · rfl

theorem clearReady_eq (first : FirstOfImage disks) (apart : (ready.map Prod.fst).Nodup)
    (waited : ∀ row ∈ ready, readyImage images row.1 = some row.2 ∧
      ∃ disk ∈ disks, isCloning disk ∧ imageId disk = some row.1) : clearReady disks ready = disks.map fun disk =>
      if imageId disk ∈ ready.map (fun row => some row.1) then settle images disk else disk := by
  induction ready generalizing disks with
  | nil => simp [clearReady]
  | cons row ready induction =>
    obtain ⟨fresh, apart⟩ := List.nodup_cons.1 apart
    obtain ⟨⟨isReady, found⟩, waited⟩ := List.forall_mem_cons.1 waited
    let change (disk : VectorAttribute) := if imageId disk = some row.1 then settle images disk else disk
    have same (disk : VectorAttribute) : imageId (change disk) = imageId disk := by
      simp only [change]
      split <;> simp
    have other {disk : VectorAttribute} (apart : imageId disk ≠ some row.1) : change disk = disk := if_neg apart
    rw [clearReady, List.foldl_cons, ← clearReady, clear_eq first isReady found]
    rw [induction (first.map same fun disk => ?_) apart fun later member => ?_, List.map_map]
    · refine List.map_congr_left fun disk _ => ?_
      simp only [Function.comp_apply, same, List.map_cons, List.mem_cons]
      by_cases own : imageId disk = some row.1
      · have gone : some row.1 ∉ ready.map fun row => some row.1 := by simpa using fresh
        rw [own, if_neg gone, if_pos (.inl rfl)]
        exact if_pos own
      · rw [other own]
        by_cases later : imageId disk ∈ ready.map fun row => some row.1
        · rw [if_pos later, if_pos (.inr later)]
        · rw [if_neg later, if_neg (not_or.2 ⟨own, later⟩)]
    · simp only [change]
      split
      · exact fun cloning => (isCloning_of_settle cloning).1
      · exact id
    · obtain ⟨isReady, disk, inside, cloning, own⟩ := waited later member
      have different : imageId disk ≠ some row.1 := by
        rw [own]
        rintro same
        exact fresh (List.mem_map.2 ⟨later, member, Option.some.inj same⟩)
      exact ⟨isReady, disk, List.mem_map.2 ⟨disk, inside, other different⟩, cloning, own⟩

theorem mem_getCloningImageIds : id ∈ getCloningImageIds disks ↔
    ∃ disk ∈ disks, isCloning disk ∧ imageId disk = some id := by
  simp [getCloningImageIds, and_assoc]

theorem mem_readyImages {ids : Finset Int} {row : Int × Copy} :
    row ∈ readyImages images ids ↔ row.1 ∈ ids ∧ readyImage images row.1 = some row.2 := by
  obtain ⟨id, image⟩ := row
  simp [readyImages]

theorem clearReady_readyImages (first : FirstOfImage disks) :
    clearReady disks (readyImages images (getCloningImageIds disks)) = disks.map (settle images) := by
  rw [@clearReady_eq _ images _ first]
  · refine List.map_congr_left fun disk member => ?_
    split
    · rfl
    · rename_i absent
      by_cases cloning : isCloning disk
      · cases found : (imageId disk).bind (readyImage images) with
        | none => simp [settle, found]
        | some image =>
          obtain ⟨id, own, isReady⟩ := Option.bind_eq_some_iff.1 found
          refine absurd (List.mem_map.2 ⟨(id, image), ?_, own.symm⟩) absent
          exact mem_readyImages.2 ⟨mem_getCloningImageIds.2 ⟨disk, member, cloning, own⟩, isReady⟩
      · exact (settle_of_not_cloning (by simpa using cloning)).symm
  · rw [readyImages, List.map_filterMap]
    refine (Finset.sort_nodup _ _).filterMap fun first second id one other => ?_
    simp only [Option.map_map, Option.mem_def, Option.map_eq_some_iff, Function.comp_apply] at one other
    obtain ⟨_, _, rfl⟩ := one
    obtain ⟨_, _, rfl⟩ := other
    rfl
  · intro row member
    obtain ⟨inside, isReady⟩ := mem_readyImages.1 member
    exact ⟨isReady, mem_getCloningImageIds.1 inside⟩

theorem all_ready_iff (images : Images) (ids : Finset Int) :
    ids.card = (readyImages images ids).length ↔ ∀ id ∈ ids, (readyImage images id).isSome := by
  rw [readyImages, List.length_filterMap_eq_countP, ← Finset.length_sort (· ≤ ·), eq_comm, List.countP_eq_length]
  simp

end Disks

variable {vm start : Machine} {images : Images} {tables : List Images}

theorem trigger_left_iff (waiting : vm.isWaiting) : (vm.triggerDiskLockSuccess images).hasLeft ↔
    ∀ id ∈ getCloningImageIds vm.disks, (readyImage images id).isSome := by
  rw [← all_ready_iff, Machine.triggerDiskLockSuccess, if_pos waiting]
  simp only [Machine.hasLeft]
  split
  · rename_i all
    simp only [all, iff_true]
    split <;> simp
  · rename_i missing
    simp only [missing, iff_false]
    split <;> simp

theorem forall₂_and_right {related : VectorAttribute → VectorAttribute → Prop} {held : VectorAttribute → Prop}
    {disks others : List VectorAttribute} :
    List.Forall₂ (fun disk other => related disk other ∧ held other) disks others ↔
      List.Forall₂ related disks others ∧ ∀ other ∈ others, held other := by
  induction disks generalizing others with
  | nil => cases others <;> simp
  | cons disk disks induction => cases others <;> simp [induction, and_and_and_comm]

/-- What has become of a disk. -/
structure Waited (tables : List Images) (before after : VectorAttribute) : Prop where
  image : imageId after = imageId before
  fewer : isCloning after → isCloning before
  sourced : isCloning before → isCloning after ∨ Sourced tables before after

structure Machine.Held (start : Machine) (tables : List Images) (vm : Machine) : Prop where
  first : FirstOfImage vm.disks
  disks : List.Forall₂ (Waited tables) start.disks vm.disks
  left : vm.hasLeft → ∀ disk ∈ vm.disks, isCloning disk = false

theorem Sourced.more {before after : VectorAttribute} (sourced : Sourced tables before after) :
    Sourced (tables ++ [images]) before after := by
  obtain ⟨table, member, image, found⟩ := sourced
  exact ⟨table, List.mem_append_left _ member, image, found⟩

theorem waited_settle {before after : VectorAttribute} (waited : Waited tables before after) :
    Waited (tables ++ [images]) before (settle images after) := by
  refine ⟨imageId_settle.trans waited.image, fun cloning => waited.fewer (isCloning_of_settle cloning).1, ?_⟩
  intro was
  cases cloning : isCloning after with
  | false =>
    rw [settle_of_not_cloning cloning]
    exact .inr ((waited.sourced was).resolve_left (by simp [cloning])).more
  | true =>
    cases found : (imageId after).bind (readyImage images) with
    | none => exact .inl (by simpa [settle, found] using cloning)
    | some image =>
      have settled : settle images after = cleared after image := by simp [settle, cloning, found]
      exact .inr ⟨images, by simp, image, waited.image ▸ found, settled ▸ sourced_cleared⟩

theorem held_trigger (held : start.Held tables vm) : start.Held (tables ++ [images]) (vm.triggerDiskLockSuccess images) := by
  by_cases waiting : vm.isWaiting
  · have disks : (vm.triggerDiskLockSuccess images).disks = vm.disks.map (settle images) := by
      rw [Machine.triggerDiskLockSuccess, if_pos waiting]
      exact clearReady_readyImages held.first
    refine ⟨?_, ?_, fun left => ?_⟩
    · rw [disks]
      exact held.first.map (fun _ => imageId_settle) fun _ cloning => (isCloning_of_settle cloning).1
    · rw [disks, List.forall₂_map_right_iff]
      exact held.disks.imp fun _ _ => waited_settle
    · rw [trigger_left_iff waiting] at left
      rw [disks, List.forall_mem_map]
      intro disk member
      by_contra cloning
      obtain ⟨was, unready, -⟩ := isCloning_of_settle (by simpa using cloning)
      obtain ⟨before, after, parts⟩ := List.append_of_mem member
      obtain ⟨id, own⟩ := Option.ne_none_iff_exists'.1 (held.first before disk after parts was).1
      have isReady := left id (mem_getCloningImageIds.2 ⟨disk, member, was, own⟩)
      rw [own, Option.bind_some] at unready
      simp [unready] at isReady
  · rw [Machine.triggerDiskLockSuccess, if_neg waiting]
    exact ⟨held.first, held.disks.imp fun _ _ waited => ⟨waited.image, waited.fewer, fun was =>
      (waited.sourced was).imp_right Sourced.more⟩, held.left⟩

theorem held_run (waiting : start.isWaiting) (first : FirstOfImage start.disks) (tables : List Images) :
    start.Held tables (start.run tables) := by
  induction tables using List.reverseRecOn with
  | nil =>
    refine ⟨first, ?_, fun left => ?_⟩
    · exact List.forall₂_same.2 fun disk _ => ⟨rfl, id, .inl⟩
    · have state : (start.run []).state = start.state := rfl
      rw [Machine.hasLeft, state] at left
      rcases waiting with waiting | waiting <;> simp [waiting] at left
  | append_singleton tables images induction =>
    rw [Machine.run, List.foldl_append]
    exact held_trigger induction

def allUsed : Images := fun _ => some ⟨.used, "", ""⟩

/-- A machine is never left with a disk that is not there exactly where each of its disks that are
being cloned names an image, and is the first disk of the machine that names it. -/
theorem leavesReady_iff (vm : Machine) (waiting : vm.isWaiting) : vm.LeavesReady ↔ FirstOfImage vm.disks := by
  constructor
  · intro leaves before disk after parts cloning
    by_contra wrong
    have blocked : imageId disk = none ∨ imageId disk ∈ before.map imageId := by
      by_contra neither
      exact wrong (not_or.mp neither)
    have left : (vm.run [allUsed]).hasLeft := (trigger_left_iff waiting).mpr fun id _ => by simp [readyImage, allUsed]
    have idle := (forall₂_and_right.mp ((leaves [allUsed]).1 left)).2
    obtain ⟨before', after', kept⟩ :=
      @clearReady_stops _ _ after blocked (readyImages allUsed (getCloningImageIds vm.disks))
    have disks : (vm.run [allUsed]).disks = before' ++ disk :: after' := by
      rw [← kept, ← parts, Machine.run, List.foldl_cons, List.foldl_nil, Machine.triggerDiskLockSuccess, if_pos waiting]
    have clear := idle disk (disks ▸ by simp)
    rw [cloning] at clear
    cases clear
  · intro first tables
    obtain ⟨-, disks, left⟩ := held_run waiting first tables
    refine ⟨fun hasLeft => ?_, fun images waiting found => ?_⟩
    · refine (forall₂_and_right.mpr ⟨disks, left hasLeft⟩).imp fun before after ⟨waited, idle⟩ => ⟨fun was => ?_, idle⟩
      exact (waited.sourced was).resolve_left (by simp [idle])
    · refine (trigger_left_iff waiting).mpr fun id member => ?_
      obtain ⟨disk, inside, cloning, own⟩ := mem_getCloningImageIds.mp member
      simpa [own] using found disk inside cloning

def cloningDisk : VectorAttribute := ((∅ : VectorAttribute).replace "IMAGE_ID" "3").replace "CLONING" "YES"

def otherDisk : VectorAttribute := cloningDisk.replace "IMAGE_ID" "4"

theorem leavesReady_two : (Machine.mk .cloning [cloningDisk, otherDisk] false).LeavesReady := by
  refine (leavesReady_iff ⟨.cloning, [cloningDisk, otherDisk], false⟩ (.inl rfl)).mpr fun before disk after parts _ => ?_
  match before with
  | [] =>
    obtain ⟨rfl, -⟩ := List.cons.inj parts
    exact ⟨by decide +kernel, by simp⟩
  | [first] =>
    obtain ⟨rfl, rest⟩ := List.cons.inj parts
    obtain ⟨rfl, -⟩ := List.cons.inj rest
    exact ⟨by decide +kernel, by decide +kernel⟩
  | first :: second :: before => simp at parts

/-- Two disks of one image: the second one is never found. -/
theorem leaves_twice : (Machine.mk .cloning [cloningDisk, cloningDisk] false |>.run [allUsed]).state = .pending ∧
      ∃ disk ∈ (Machine.mk .cloning [cloningDisk, cloningDisk] false |>.run [allUsed]).disks, isCloning disk := by
  decide +kernel

end Cloning

end OpenNebula.Vm
