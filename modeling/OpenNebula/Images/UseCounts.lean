import OpenNebula.Images.Image

namespace OpenNebula.Images

open Library

/-! # The use counts of an image agree with its state

A release that fails puts the image in the error state.  When other VMs still have the image
their releases are refused from then on, and the counters stay.
-/

namespace Image

variable {img after : Image} {vmId oid : Int} {state : ImageState}

structure Counters (img : Image) : Prop where
  running : img.runningVms = img.vmCollection.card
  cloning : img.cloningOps = img.imgCloneCollection.card + img.appCloneCollection.card

def HasClone (img : Image) (ot : CloneType) (oid : Int) : Prop :=
  match ot with
  | .image => oid ∈ img.imgCloneCollection
  | .marketplaceApp => oid ∈ img.appCloneCollection

def NoClones (img : Image) : Prop := ∀ ot oid, ¬img.HasClone ot oid

theorem Counters.noVms_iff (counters : img.Counters) : img.runningVms = 0 ↔ img.vmCollection = ∅ := by
  rw [counters.running, Int.natCast_eq_zero, Finset.card_eq_zero]

theorem noClones_iff_empty : img.NoClones ↔ img.imgCloneCollection = ∅ ∧ img.appCloneCollection = ∅ := by
  constructor
  · intro none
    exact ⟨Finset.eq_empty_of_forall_notMem (none .image), Finset.eq_empty_of_forall_notMem (none .marketplaceApp)⟩
  · rintro ⟨noImages, noApps⟩ ot oid
    cases ot <;> simp [HasClone, noImages, noApps]

section

variable (counters : img.Counters)
include counters

theorem Counters.noClones_iff : img.cloningOps = 0 ↔ img.NoClones := by
  rw [counters.cloning, noClones_iff_empty, ← Finset.card_eq_zero, ← Finset.card_eq_zero]
  omega

theorem Counters.incRunning (vmId : Int) : (img.incRunning vmId).Counters := by
  rw [Image.incRunning]
  split
  · exact counters
  · rename_i absent
    refine ⟨?_, counters.cloning⟩
    rw [Finset.card_insert_of_notMem absent, counters.running]
    rfl

theorem Counters.decRunning (vmId : Int) : (img.decRunning vmId).Counters := by
  rw [Image.decRunning]
  split
  · rename_i member
    refine ⟨?_, counters.cloning⟩
    have counted := Finset.card_erase_add_one member
    rw [counters.running]
    simp only
    omega
  · exact counters

theorem Counters.incCloning (ot : CloneType) (oid : Int) : (img.incCloning ot oid).Counters := by
  cases ot <;> rw [Image.incCloning] <;> split
  · exact counters
  · rename_i absent
    refine ⟨counters.running, ?_⟩
    simp only [Finset.card_insert_of_notMem absent, counters.cloning]
    omega
  · exact counters
  · rename_i absent
    refine ⟨counters.running, ?_⟩
    simp only [Finset.card_insert_of_notMem absent, counters.cloning]
    omega

theorem Counters.decCloning (ot : CloneType) (oid : Int) : (img.decCloning ot oid).Counters := by
  cases ot <;> rw [Image.decCloning] <;> split
  · rename_i member
    have counted := Finset.card_erase_add_one member
    refine ⟨counters.running, ?_⟩
    simp only [counters.cloning]
    omega
  · exact counters
  · rename_i member
    have counted := Finset.card_erase_add_one member
    refine ⟨counters.running, ?_⟩
    simp only [counters.cloning]
    omega
  · exact counters

end

@[simp] theorem incRunning_vms (img : Image) (vmId : Int) :
    (img.incRunning vmId).vmCollection = insert vmId img.vmCollection := by
  rw [incRunning]
  split
  · rename_i member
    exact (Finset.insert_eq_of_mem member).symm
  · rfl

@[simp] theorem decRunning_vms (img : Image) (vmId : Int) :
    (img.decRunning vmId).vmCollection = img.vmCollection.erase vmId := by
  rw [decRunning]
  split
  · rfl
  · rename_i absent
    exact (Finset.erase_eq_of_notMem absent).symm

@[simp] theorem incCloning_vms (img : Image) (ot : CloneType) (oid : Int) :
    (img.incCloning ot oid).vmCollection = img.vmCollection := by
  cases ot <;> rw [incCloning] <;> split <;> rfl

@[simp] theorem decCloning_vms (img : Image) (ot : CloneType) (oid : Int) :
    (img.decCloning ot oid).vmCollection = img.vmCollection := by
  cases ot <;> rw [decCloning] <;> split <;> rfl

variable {ot : CloneType}

@[simp] theorem hasClone_incRunning : (img.incRunning vmId).HasClone ot oid ↔ img.HasClone ot oid := by
  rw [incRunning]
  split <;> rfl

@[simp] theorem hasClone_decRunning : (img.decRunning vmId).HasClone ot oid ↔ img.HasClone ot oid := by
  rw [decRunning]
  split <;> rfl

theorem hasClone_incCloning {other : CloneType} {id : Int} :
    (img.incCloning ot oid).HasClone other id ↔ (other, id) = (ot, oid) ∨ img.HasClone other id := by
  cases ot <;> cases other <;> rw [incCloning] <;> split <;> simp_all [HasClone]

theorem hasClone_decCloning {other : CloneType} {id : Int} :
    (img.decCloning ot oid).HasClone other id ↔ (other, id) ≠ (ot, oid) ∧ img.HasClone other id := by
  cases ot <;> cases other <;> rw [decCloning] <;> split <;> simp_all [HasClone] <;>
    (rintro member rfl; contradiction)

/-- The attributes that the counters do not change -/
structure Same (img after : Image) : Prop where
  type : after.type = img.type
  state : after.state = img.state
  persistentImg : after.persistentImg = img.persistentImg
  shareable : after.shareable = img.shareable

theorem same_incRunning (img : Image) (vmId : Int) : img.Same (img.incRunning vmId) := by
  rw [incRunning]
  split <;> exact ⟨rfl, rfl, rfl, rfl⟩

theorem same_decRunning (img : Image) (vmId : Int) : img.Same (img.decRunning vmId) := by
  rw [decRunning]
  split <;> exact ⟨rfl, rfl, rfl, rfl⟩

theorem same_incCloning (img : Image) (ot : CloneType) (oid : Int) : img.Same (img.incCloning ot oid) := by
  cases ot <;> rw [incCloning] <;> split <;> exact ⟨rfl, rfl, rfl, rfl⟩

theorem same_decCloning (img : Image) (ot : CloneType) (oid : Int) : img.Same (img.decCloning ot oid) := by
  cases ot <;> rw [decCloning] <;> split <;> exact ⟨rfl, rfl, rfl, rfl⟩

theorem setState_same (isState : img.state = state) : img.setState state = img := by
  subst isState
  rfl

theorem noClones_incRunning (img : Image) (vmId : Int) : (img.incRunning vmId).NoClones ↔ img.NoClones := by
  simp only [NoClones, hasClone_incRunning]

theorem noClones_decRunning (img : Image) (vmId : Int) : (img.decRunning vmId).NoClones ↔ img.NoClones := by
  simp only [NoClones, hasClone_decRunning]

theorem incCloning_some (img : Image) (ot : CloneType) (oid : Int) : ¬(img.incCloning ot oid).NoClones :=
  fun none => none ot oid (hasClone_incCloning.2 (.inl rfl))

end Image

/-- What a state says about the VMs and the clones -/
def ImageState.Allows (state : ImageState) (img : Image) : Prop :=
  match state with
  | .used => img.persistentImg = false ∧ ¬(img.vmCollection = ∅ ∧ img.NoClones)
  | .lockedUsed => img.persistentImg = false ∧ img.vmCollection ≠ ∅ ∧ img.NoClones
  | .usedPers | .lockedUsedPers =>
    img.persistentImg = true ∧ img.vmCollection ≠ ∅ ∧ img.NoClones ∧
      (img.shareable = false → img.vmCollection.card ≤ 1)
  | .clone => img.persistentImg = true ∧ img.vmCollection = ∅ ∧ ¬img.NoClones
  | .init | .delete | .ready | .locked | .disabled | .error => img.vmCollection = ∅ ∧ img.NoClones

theorem allows_setState {state other : ImageState} {img : Image} :
    state.Allows (img.setState other) ↔ state.Allows img := by
  cases state <;> rfl

namespace Usage

structure Counted (usage : Usage) : Prop where
  running : usage.image.runningVms = usage.image.vmCollection.card
  cloning : usage.image.cloningOps =
    usage.image.imgCloneCollection.card + usage.image.appCloneCollection.card
  unused : usage.image.state ∈ [.ready, .locked, .disabled] →
    usage.image.runningVms = 0 ∧ usage.image.cloningOps = 0
  used : usage.image.state ∈ [.used, .usedPers, .lockedUsed, .lockedUsedPers] →
    0 < usage.image.runningVms + usage.image.cloningOps
  alone : usage.image.persistentImg = true → usage.image.shareable = false → usage.holders.card ≤ 1
  settled : usage.holders = ∅ → usage.clones = ∅ →
    usage.image.runningVms = 0 ∧ usage.image.cloningOps = 0

def Spares (usage : Usage) : Event → Prop
  | .release vmId true =>
    usage.image.state = .usedPers ∨ usage.image.state = .lockedUsedPers → usage.image.vmCollection ⊆ {vmId}
  | _ => True

instance (usage : Usage) : (event : Event) → Decidable (usage.Spares event)
  | .release vmId true => inferInstanceAs (Decidable (_ → usage.image.vmCollection ⊆ {vmId}))
  | .release _ false | .acquire .. | .setClone .. | .releaseClone .. | .unlock | .enable _
  | .persistent _ => isTrue trivial

/-- The image holds what was acquired and not released. -/
structure Tracked (usage : Usage) : Prop where
  disk : usage.image.type.isDisk = true
  counters : usage.image.Counters
  holders : usage.image.vmCollection = usage.holders
  clones : ∀ ot oid, usage.image.HasClone ot oid ↔ (ot, oid) ∈ usage.clones
  allows : usage.image.state.Allows usage.image

variable {usage : Usage} {after : Image} {vmId : Int} {attach failed : Bool}

variable {state : ImageState}

theorem Tracked.grown (tracked : usage.Tracked) (allows : state.Allows (usage.image.incRunning vmId)) :
    Tracked { usage with
      image := (usage.image.incRunning vmId).setState state
      holders := insert vmId usage.holders } where
  disk := by
    have same := (Image.same_incRunning usage.image vmId).type
    exact same ▸ tracked.disk
  counters := ⟨(tracked.counters.incRunning vmId).running, (tracked.counters.incRunning vmId).cloning⟩
  holders := by
    rw [← tracked.holders]
    exact Image.incRunning_vms _ _
  clones := fun ot oid => Iff.trans Image.hasClone_incRunning (tracked.clones ot oid)
  allows := allows_setState.2 allows

theorem Tracked.shrunk (tracked : usage.Tracked) (allows : state.Allows (usage.image.decRunning vmId)) :
    Tracked { usage with
      image := (usage.image.decRunning vmId).setState state
      holders := usage.holders.erase vmId } where
  disk := by
    have same := (Image.same_decRunning usage.image vmId).type
    exact same ▸ tracked.disk
  counters := ⟨(tracked.counters.decRunning vmId).running, (tracked.counters.decRunning vmId).cloning⟩
  holders := by
    rw [← tracked.holders]
    exact Image.decRunning_vms _ _
  clones := fun ot oid => Iff.trans Image.hasClone_decRunning (tracked.clones ot oid)
  allows := allows_setState.2 allows

theorem allows_more (img : Image) (vmId : Int) (isPersistent : img.persistentImg = false) :
    ImageState.Allows .used (img.incRunning vmId) ∧
      (img.NoClones → ImageState.Allows .lockedUsed (img.incRunning vmId)) := by
  have same := Image.same_incRunning img vmId
  have some : (img.incRunning vmId).vmCollection ≠ ∅ := by
    rw [Image.incRunning_vms]
    exact Finset.insert_ne_empty _ _
  exact ⟨⟨same.persistentImg.trans isPersistent, fun both => some both.1⟩,
    fun none => ⟨same.persistentImg.trans isPersistent, some, (Image.noClones_incRunning img vmId).2 none⟩⟩

theorem allows_morePersistent (img : Image) (vmId : Int) (isPersistent : img.persistentImg = true)
    (none : img.NoClones) (alone : img.shareable = false → img.vmCollection = ∅) :
    ImageState.Allows .usedPers (img.incRunning vmId) ∧ ImageState.Allows .lockedUsedPers (img.incRunning vmId) := by
  have same := Image.same_incRunning img vmId
  have some : (img.incRunning vmId).vmCollection ≠ ∅ := by
    rw [Image.incRunning_vms]
    exact Finset.insert_ne_empty _ _
  have one : (img.incRunning vmId).shareable = false → (img.incRunning vmId).vmCollection.card ≤ 1 := by
    intro notShareable
    rw [Image.incRunning_vms, alone (same.shareable ▸ notShareable)]
    simp
  exact ⟨⟨same.persistentImg.trans isPersistent, some, (Image.noClones_incRunning img vmId).2 none, one⟩,
    ⟨same.persistentImg.trans isPersistent, some, (Image.noClones_incRunning img vmId).2 none, one⟩⟩

theorem Tracked.acquired (tracked : usage.Tracked) (acquired : usage.image.acquireImage vmId attach = .ok after) :
    Tracked { usage with image := after, holders := insert vmId usage.holders } := by
  have same := Image.same_incRunning usage.image vmId
  have allows := tracked.allows
  rw [Image.acquireImage, if_neg (not_not.2 tracked.disk)] at acquired
  cases isState : usage.image.state <;> rw [isState] at acquired allows <;>
    simp only [ImageState.Allows] at acquired allows
  case ready =>
      cases acquired
      refine tracked.grown ?_
      split
      · rename_i isPersistent
        exact (allows_morePersistent _ vmId isPersistent allows.2 fun _ => allows.1).1
      · rename_i notPersistent
        exact (allows_more _ vmId (Bool.eq_false_iff.2 notPersistent)).1
  case locked =>
      split at acquired
      · cases acquired
      · cases acquired
        refine tracked.grown ?_
        split
        · rename_i isPersistent
          exact (allows_morePersistent _ vmId isPersistent allows.2 fun _ => allows.1).2
        · rename_i notPersistent
          exact (allows_more _ vmId (Bool.eq_false_iff.2 notPersistent)).2 allows.2
  case used =>
      cases acquired
      have kept := tracked.grown (allows_more usage.image vmId allows.1).1
      rwa [Image.setState_same (same.state.trans isState)] at kept
  case lockedUsed =>
      split at acquired
      · cases acquired
      · cases acquired
        have kept := tracked.grown ((allows_more usage.image vmId allows.1).2 allows.2.2)
        rwa [Image.setState_same (same.state.trans isState)] at kept
  case usedPers =>
      split at acquired
      · cases acquired
      · rename_i shared
        cases acquired
        have kept := tracked.grown (allows_morePersistent usage.image vmId allows.1 allows.2.2.1
          fun notShareable => absurd (by simp [notShareable]) shared).1
        rwa [Image.setState_same (same.state.trans isState)] at kept
  case lockedUsedPers =>
      split at acquired
      · cases acquired
      · rename_i shared
        split at acquired
        · cases acquired
        · cases acquired
          have kept := tracked.grown (allows_morePersistent usage.image vmId allows.1 allows.2.2.1
            fun notShareable => absurd (by simp [notShareable]) shared).2
          rwa [Image.setState_same (same.state.trans isState)] at kept
  all_goals cases acquired

theorem Tracked.releasedUsed (tracked : usage.Tracked) {unused : ImageState} (isState : usage.image.state = state)
    (kinds : state = .used ∧ unused = .ready ∨ state = .lockedUsed ∧ unused = .locked) : Tracked { usage with
      image :=
        if (usage.image.decRunning vmId).runningVms = 0 ∧ (usage.image.decRunning vmId).cloningOps = 0 then
          (usage.image.decRunning vmId).setState unused
        else usage.image.decRunning vmId
      holders := usage.holders.erase vmId } := by
  have same := Image.same_decRunning usage.image vmId
  have counters := tracked.counters.decRunning vmId
  have allows := tracked.allows
  split
  · rename_i empty
    refine tracked.shrunk ?_
    have nothing : ImageState.Allows .ready (usage.image.decRunning vmId) :=
      ⟨counters.noVms_iff.1 empty.1, counters.noClones_iff.1 empty.2⟩
    rcases kinds with ⟨-, rfl⟩ | ⟨-, rfl⟩ <;> exact nothing
  · rename_i some
    rw [counters.noVms_iff, counters.noClones_iff] at some
    have kept : state.Allows (usage.image.decRunning vmId) := by
      rw [isState] at allows
      rcases kinds with ⟨rfl, -⟩ | ⟨rfl, -⟩
      · exact ⟨same.persistentImg.trans allows.1, some⟩
      · have none := (Image.noClones_decRunning usage.image vmId).2 allows.2.2
        exact ⟨same.persistentImg.trans allows.1, fun empty => some ⟨empty, none⟩, none⟩
    have tracks := tracked.shrunk kept
    rwa [Image.setState_same (same.state.trans isState)] at tracks

theorem Tracked.releasedPersistent (tracked : usage.Tracked) {unused : ImageState}
    (isState : usage.image.state = state)
    (kinds : state = .usedPers ∧ unused = .ready ∨ state = .lockedUsedPers ∧ unused = .locked)
    (spares : failed = true → usage.image.vmCollection ⊆ {vmId}) : Tracked { usage with
      image := (usage.image.decRunning vmId).releasedState failed unused
      holders := usage.holders.erase vmId } := by
  have same := Image.same_decRunning usage.image vmId
  have counters := tracked.counters.decRunning vmId
  have allows : ImageState.Allows .usedPers usage.image := by
    have whole := tracked.allows
    rw [isState] at whole
    rcases kinds with ⟨rfl, -⟩ | ⟨rfl, -⟩ <;> exact whole
  obtain ⟨isPersistent, -, none, alone⟩ := allows
  have none := (Image.noClones_decRunning usage.image vmId).2 none
  rw [Image.releasedState]
  split
  · rename_i isFailed
    refine tracked.shrunk ⟨?_, none⟩
    rw [Image.decRunning_vms, Finset.erase_eq_empty_iff]
    exact Finset.subset_singleton_iff.1 (spares isFailed)
  · split
    · rename_i empty
      have nothing : ImageState.Allows .ready (usage.image.decRunning vmId) := ⟨counters.noVms_iff.1 empty, none⟩
      refine tracked.shrunk ?_
      rcases kinds with ⟨-, rfl⟩ | ⟨-, rfl⟩ <;> exact nothing
    · rename_i some
      rw [counters.noVms_iff] at some
      have fewer : (usage.image.decRunning vmId).vmCollection.card ≤ usage.image.vmCollection.card := by
        rw [Image.decRunning_vms]
        exact Finset.card_erase_le
      have kept : ImageState.Allows .usedPers (usage.image.decRunning vmId) :=
        ⟨same.persistentImg.trans isPersistent, some, none,
          fun notShareable => fewer.trans (alone (same.shareable ▸ notShareable))⟩
      have tracks : Tracked { usage with
          image := (usage.image.decRunning vmId).setState state
          holders := usage.holders.erase vmId } := by
        refine tracked.shrunk ?_
        rcases kinds with ⟨rfl, -⟩ | ⟨rfl, -⟩ <;> exact kept
      rwa [Image.setState_same (same.state.trans isState)] at tracks

theorem Tracked.released (tracked : usage.Tracked) (member : vmId ∈ usage.holders)
    (spares : usage.Spares (.release vmId failed)) : Tracked { usage with
      image := usage.image.releaseImage vmId failed, holders := usage.holders.erase vmId } := by
  have allows := tracked.allows
  have held : usage.image.vmCollection ≠ ∅ := by
    rw [tracked.holders]
    exact Finset.ne_empty_of_mem member
  rw [Image.releaseImage, if_neg (not_not.2 tracked.disk)]
  cases isState : usage.image.state <;> rw [isState] at allows
  case used => exact tracked.releasedUsed isState (.inl ⟨rfl, rfl⟩)
  case lockedUsed => exact tracked.releasedUsed isState (.inr ⟨rfl, rfl⟩)
  case usedPers =>
      refine tracked.releasedPersistent isState (.inl ⟨rfl, rfl⟩) ?_
      rintro rfl
      exact spares (.inl isState)
  case lockedUsedPers =>
      refine tracked.releasedPersistent isState (.inr ⟨rfl, rfl⟩) ?_
      rintro rfl
      exact spares (.inr isState)
  case clone => exact absurd allows.2.1 held
  all_goals exact absurd allows.1 held

variable {ot : CloneType} {oid : Int}

section

variable (tracked : usage.Tracked)
include tracked

theorem Tracked.cloned (allows : state.Allows (usage.image.incCloning ot oid)) : Tracked { usage with
      image := (usage.image.incCloning ot oid).setState state
      clones := insert (ot, oid) usage.clones } where
  disk := by
    have same := (Image.same_incCloning usage.image ot oid).type
    exact same ▸ tracked.disk
  counters := ⟨(tracked.counters.incCloning ot oid).running, (tracked.counters.incCloning ot oid).cloning⟩
  holders := by
    rw [← tracked.holders]
    exact Image.incCloning_vms _ _ _
  clones := by
    intro other id
    rw [Finset.mem_insert, ← tracked.clones other id]
    exact Image.hasClone_incCloning
  allows := allows_setState.2 allows

theorem Tracked.setClone (cloned : usage.image.setCloneState ot oid = .ok after) :
    Tracked { usage with image := after, clones := insert (ot, oid) usage.clones } := by
  have same := Image.same_incCloning usage.image ot oid
  have some := Image.incCloning_some usage.image ot oid
  have vms := Image.incCloning_vms usage.image ot oid
  have allows := tracked.allows
  have notBackup : usage.image.type ≠ .backup := by
    intro isBackup
    have disk := tracked.disk
    rw [isBackup] at disk
    cases disk
  rw [Image.setCloneState, if_neg notBackup] at cloned
  cases isState : usage.image.state <;> rw [isState] at cloned allows
  case ready =>
      cases cloned
      refine tracked.cloned ?_
      split
      · rename_i isPersistent
        exact ⟨same.persistentImg.trans isPersistent, vms.trans allows.1, some⟩
      · rename_i notPersistent
        exact ⟨same.persistentImg.trans (Bool.eq_false_iff.2 notPersistent), fun both => some both.2⟩
  case used =>
      cases cloned
      have kept : ImageState.Allows .used (usage.image.incCloning ot oid) :=
        ⟨same.persistentImg.trans allows.1, fun both => some both.2⟩
      have tracks := tracked.cloned kept
      rwa [Image.setState_same (same.state.trans isState)] at tracks
  case clone =>
      cases cloned
      have kept : ImageState.Allows .clone (usage.image.incCloning ot oid) :=
        ⟨same.persistentImg.trans allows.1, vms.trans allows.2.1, some⟩
      have tracks := tracked.cloned kept
      rwa [Image.setState_same (same.state.trans isState)] at tracks
  all_goals cases cloned

theorem Tracked.uncloned (allows : state.Allows (usage.image.decCloning ot oid)) : Tracked { usage with
      image := (usage.image.decCloning ot oid).setState state
      clones := usage.clones.erase (ot, oid) } where
  disk := by
    have same := (Image.same_decCloning usage.image ot oid).type
    exact same ▸ tracked.disk
  counters := ⟨(tracked.counters.decCloning ot oid).running, (tracked.counters.decCloning ot oid).cloning⟩
  holders := by
    rw [← tracked.holders]
    exact Image.decCloning_vms _ _ _
  clones := by
    intro other id
    rw [Finset.mem_erase, ← tracked.clones other id]
    exact Image.hasClone_decCloning
  allows := allows_setState.2 allows

theorem Tracked.releaseClone : Tracked { usage with
      image := usage.image.releaseCloningResource ot oid, clones := usage.clones.erase (ot, oid) } := by
  have same := Image.same_decCloning usage.image ot oid
  have counters := tracked.counters.decCloning ot oid
  have vms := Image.decCloning_vms usage.image ot oid
  have allows := tracked.allows
  -- without clones there is nothing to forget
  have unchanged : usage.image.NoClones →
      Tracked { usage with image := usage.image, clones := usage.clones.erase (ot, oid) } := by
    intro none
    rw [Finset.erase_eq_of_notMem fun member => none ot oid ((tracked.clones ot oid).2 member)]
    exact tracked
  rw [Image.releaseCloningResource, if_neg (not_not.2 tracked.disk)]
  cases isState : usage.image.state <;> rw [isState] at allows <;> simp only
  case used =>
      split
      · rename_i empty
        exact tracked.uncloned ⟨counters.noVms_iff.1 empty.2, counters.noClones_iff.1 empty.1⟩
      · rename_i some
        rw [counters.noVms_iff, counters.noClones_iff] at some
        have kept : ImageState.Allows .used (usage.image.decCloning ot oid) :=
          ⟨same.persistentImg.trans allows.1, fun both => some both.symm⟩
        have tracks := tracked.uncloned kept
        rwa [Image.setState_same (same.state.trans isState)] at tracks
  case clone =>
      split
      · rename_i empty
        exact tracked.uncloned ⟨counters.noVms_iff.1 empty.2, counters.noClones_iff.1 empty.1⟩
      · rename_i some
        rw [counters.noVms_iff, counters.noClones_iff] at some
        have noVms := vms.trans allows.2.1
        have kept : ImageState.Allows .clone (usage.image.decCloning ot oid) :=
          ⟨same.persistentImg.trans allows.1, noVms, fun none => some ⟨none, noVms⟩⟩
        have tracks := tracked.uncloned kept
        rwa [Image.setState_same (same.state.trans isState)] at tracks
  case lockedUsed => exact unchanged allows.2.2
  case usedPers | lockedUsedPers => exact unchanged allows.2.2.1
  all_goals exact unchanged allows.2

theorem Tracked.restate (allows : state.Allows usage.image) :
    Tracked { usage with image := usage.image.setState state } :=
  { tracked with
    counters := ⟨tracked.counters.running, tracked.counters.cloning⟩
    allows := allows_setState.2 allows }

theorem Tracked.unlocked : Tracked { usage with image := usage.image.setStateUnlock } := by
  have allows := tracked.allows
  rw [Image.setStateUnlock]
  cases isState : usage.image.state <;> rw [isState] at allows
  case locked => exact tracked.restate allows
  case lockedUsed => exact tracked.restate ⟨allows.1, fun both => allows.2.1 both.1⟩
  case lockedUsedPers => exact tracked.restate allows
  case error =>
      simp only
      rw [if_pos (tracked.counters.noVms_iff.2 allows.1)]
      exact tracked.restate allows
  all_goals exact tracked

theorem Tracked.enabled (toEnable : Bool) : Tracked { usage with
      image := (usage.image.enableImage toEnable).toOption.getD usage.image } := by
  have allows := tracked.allows
  have notBackup : usage.image.type ≠ .backup := by
    intro isBackup
    have disk := tracked.disk
    rw [isBackup] at disk
    cases disk
  rw [Image.enableImage, if_neg notBackup]
  cases isState : usage.image.state <;> rw [isState] at allows <;> cases toEnable
  case disabled.true | ready.false | error.false => exact tracked.restate allows
  case error.true => exact tracked.unlocked
  all_goals exact tracked

theorem Tracked.persists (persis : Bool) : Tracked { usage with
      image := (usage.image.persistent persis).toOption.getD usage.image } := by
  have allows := tracked.allows
  rw [Image.persistent]
  split
  · exact tracked
  · cases isState : usage.image.state <;> rw [isState] at allows
    case used | clone | usedPers | lockedUsed | lockedUsedPers => exact tracked
    all_goals
      exact { tracked with
        counters := ⟨tracked.counters.running, tracked.counters.cloning⟩
        allows := by
          simp only [Except.toOption, Option.getD_some]
          exact allows }

end

theorem Initial.tracked (initial : usage.Initial) : usage.Tracked where
  disk := initial.disk
  counters := by
    constructor
    · rw [initial.noVms.1, initial.noVms.2]
      rfl
    · rw [initial.noClones.1, initial.noClones.2.1, initial.noClones.2.2]
      rfl
  holders := initial.noVms.1.trans initial.unused.1.symm
  clones := by
    intro ot oid
    have none := Image.noClones_iff_empty.2 ⟨initial.noClones.1, initial.noClones.2.1⟩ ot oid
    simp [none, initial.unused.2]
  allows := by
    have empty := Image.noClones_iff_empty.2 ⟨initial.noClones.1, initial.noClones.2.1⟩
    rcases initial.state with isState | isState <;>
      (rw [isState]; exact ⟨initial.noVms.1, empty⟩)

theorem Tracked.step (tracked : usage.Tracked) {event : Event} (spares : usage.Spares event)
    {next : Usage} (stepped : usage.step event = some next) : next.Tracked := by
  cases event with
  | acquire vmId attach =>
    simp only [Usage.step] at stepped
    split at stepped
    · cases stepped
      exact tracked
    · rename_i image acquired
      cases stepped
      exact tracked.acquired acquired
  | release vmId failed =>
    simp only [Usage.step] at stepped
    split at stepped
    · rename_i member
      cases stepped
      exact tracked.released member spares
    · cases stepped
  | setClone ot newId =>
    simp only [Usage.step] at stepped
    split at stepped
    · cases stepped
      exact tracked
    · rename_i image cloned
      cases stepped
      exact tracked.setClone cloned
  | releaseClone ot cloneOid =>
    cases stepped
    exact tracked.releaseClone
  | unlock =>
    cases stepped
    exact tracked.unlocked
  | enable toEnable =>
    cases stepped
    exact tracked.enabled toEnable
  | persistent persis =>
    cases stepped
    exact tracked.persists persis

theorem Tracked.counted (tracked : usage.Tracked) : usage.Counted where
  running := tracked.counters.running
  cloning := tracked.counters.cloning
  unused := by
    intro isState
    have allows := tracked.allows
    rw [tracked.counters.noVms_iff, tracked.counters.noClones_iff]
    simp only [List.mem_cons, List.not_mem_nil, or_false] at isState
    rcases isState with isState | isState | isState <;> (rw [isState] at allows; exact allows)
  used := by
    intro isState
    have allows := tracked.allows
    have noVms := tracked.counters.noVms_iff
    have noClones := tracked.counters.noClones_iff
    have running := tracked.counters.running
    have cloning := tracked.counters.cloning
    have some : ¬(usage.image.vmCollection = ∅ ∧ usage.image.NoClones) := by
      simp only [List.mem_cons, List.not_mem_nil, or_false] at isState
      rcases isState with isState | isState | isState | isState <;> rw [isState] at allows
      · exact allows.2
      · exact fun both => allows.2.1 both.1
      · exact fun both => allows.2.1 both.1
      · exact fun both => allows.2.1 both.1
    rw [← noVms, ← noClones] at some
    omega
  alone := by
    intro isPersistent notShareable
    have allows := tracked.allows
    rw [← tracked.holders]
    cases isState : usage.image.state <;> rw [isState] at allows
    case used | lockedUsed => exact absurd (allows.1.symm.trans isPersistent) (by decide)
    case usedPers | lockedUsedPers => exact allows.2.2.2 notShareable
    case clone => simp [allows.2.1]
    all_goals simp [allows.1]
  settled := by
    intro noHolders noClones
    rw [tracked.counters.noVms_iff, tracked.counters.noClones_iff]
    refine ⟨tracked.holders.trans noHolders, fun ot oid cloned => ?_⟩
    have member := (tracked.clones ot oid).1 cloned
    rw [noClones] at member
    exact absurd member (Finset.notMem_empty _)

/-- In a run where no release fails while another VM has the persistent image, the counters agree
with the state, and with the VMs and clones that are not released. -/
theorem use_counts (reached : system.Reachable Spares usage) : usage.Counted := by
  have tracked : usage.Tracked :=
    reached.invariant (fun _ initial => initial.tracked)
      fun _ _ _ tracked spares stepped => tracked.step spares stepped
  exact tracked.counted

def sharedImage : Usage where
  image :=
    { oid := 0, name := "shared", type := .datablock, state := .ready, persistentImg := true
      persistentType := "SHAREABLE", snapshots := 0, vmCollection := ∅, runningVms := 0
      imgCloneCollection := ∅, appCloneCollection := ∅, cloningOps := 0 }
  holders := ∅
  clones := ∅

theorem initial_sharedImage : system.initial sharedImage :=
  ⟨rfl, .inr rfl, ⟨rfl, rfl⟩, ⟨rfl, rfl, rfl⟩, ⟨rfl, rfl⟩⟩

/-- The second of two VMs releases the image with a failure, and the image is enabled again. -/
theorem use_counts_run : ∃ usage, system.Reachable Spares usage ∧ usage.image.state = .ready ∧ usage.Counted := by
  have ran : (system.exec Spares sharedImage
      [.acquire 1 false, .acquire 2 true, .release 1 false, .release 2 true, .enable true]).map
        (fun usage => usage.image.state) = some .ready := by
    decide +kernel
  obtain ⟨usage, isRun, isReady⟩ := Option.map_eq_some_iff.mp ran
  have reached := System.reachable_of_exec initial_sharedImage isRun
  exact ⟨usage, reached, isReady, use_counts reached⟩

/-- After the first of two VMs has released the image with a failure, the release of the other one
is refused; the image can be disabled while it counts this VM. -/
theorem use_counts_failed : (∃ usage, system.Reachable System.anyStep usage ∧ usage.holders = ∅ ∧ usage.clones = ∅ ∧
      usage.image.runningVms = 1 ∧ ¬usage.Counted) ∧
    ∃ usage, system.Reachable System.anyStep usage ∧ usage.image.state = .disabled ∧
      usage.image.runningVms = 1 ∧ ¬usage.Counted := by
  have lost : (system.exec System.anyStep sharedImage
      [.acquire 1 false, .acquire 2 false, .release 1 true, .release 2 false]).map
        (fun usage => (usage.holders, usage.clones, usage.image.runningVms)) = some (∅, ∅, 1) := by
    decide +kernel
  have disabled : (system.exec System.anyStep sharedImage
      [.acquire 1 false, .acquire 2 false, .release 1 true, .enable false]).map
        (fun usage => (usage.image.state, usage.image.runningVms)) = some (.disabled, 1) := by
    decide +kernel
  constructor
  · obtain ⟨usage, isRun, reads⟩ := Option.map_eq_some_iff.mp lost
    simp only [Prod.mk.injEq] at reads
    refine ⟨usage, System.reachable_of_exec initial_sharedImage isRun, reads.1, reads.2.1, reads.2.2, ?_⟩
    intro counted
    have settled := (counted.settled reads.1 reads.2.1).1
    omega
  · obtain ⟨usage, isRun, reads⟩ := Option.map_eq_some_iff.mp disabled
    simp only [Prod.mk.injEq] at reads
    refine ⟨usage, System.reachable_of_exec initial_sharedImage isRun, reads.1, reads.2, ?_⟩
    intro counted
    have unused := (counted.unused (by simp [reads.1])).1
    omega

end Usage

end OpenNebula.Images
