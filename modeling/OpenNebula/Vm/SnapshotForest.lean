import Mathlib.Logic.Relation
import OpenNebula.Vm.Snapshots

namespace OpenNebula.Vm

open Library

/-! # The snapshots of a disk are a forest

Parents are older than their children, and every link is kept in both directions.  A root
that is deleted takes its links with it: its child keeps a parent that does not exist, and
the active snapshot may be gone.
-/

namespace Snapshots

variable {snapshots after : Snapshots} {id other : Int} {snapshot : Snapshot}

section

variable (snapshots : Snapshots)

def ParentOf (id parent : Int) : Prop :=
  ∃ snapshot, snapshots.getSnapshot id = some snapshot ∧ snapshot.parent = parent

structure Forest (snapshots : Snapshots) : Prop where
  parent : ∀ id snapshot, snapshots.getSnapshot id = some snapshot → snapshot.parent = -1 ∨
    ∃ parent, snapshots.getSnapshot snapshot.parent = some parent ∧ parent.children.count id = 1
  children : ∀ id snapshot, snapshots.getSnapshot id = some snapshot → ∀ child ∈ snapshot.children,
    ∃ held, snapshots.getSnapshot child = some held
  acyclic : ∀ id, ¬Relation.TransGen snapshots.ParentOf id id
  oneActive : ∀ id other first second, snapshots.getSnapshot id = some first →
    snapshots.getSnapshot other = some second → first.active = true → second.active = true → id = other
  active : snapshots.active = -1 ∨ ∃ snapshot, snapshots.getSnapshot snapshots.active = some snapshot
  next : ∀ id snapshot, snapshots.getSnapshot id = some snapshot → id < snapshots.nextSnapshot
  create : ∀ name sizeMb date, (snapshots.createSnapshot name sizeMb date).2 ≠ -1

/-- A root that is deleted is not active and has no child. -/
def Event.Spares : Event → Prop
  | .delete id persistent => (snapshots.testDelete id persistent).isOk = true →
      ∀ snapshot ∈ snapshots.getSnapshot id, snapshot.parent = -1 → snapshots.active ≠ id ∧ snapshot.children = []
  | _ => True

instance (snapshots : Snapshots) : (event : Event) → Decidable (event.Spares snapshots)
  | .delete _ _ => inferInstanceAs (Decidable (_ → ∀ snapshot ∈ snapshots.getSnapshot _, _))
  | .create .. | .activate .. | .reload => isTrue trivial

structure Linked (snapshots : Snapshots) : Prop where
  policy : snapshots.orphans = .deny ∨ snapshots.orphans = .mixed
  ids : ∀ id snapshot, snapshots.getSnapshot id = some snapshot → 0 ≤ id ∧ id < snapshots.nextSnapshot
  first : 0 ≤ snapshots.nextSnapshot
  older : ∀ id snapshot, snapshots.getSnapshot id = some snapshot → snapshot.parent < id
  up : ∀ id snapshot, snapshots.getSnapshot id = some snapshot → snapshot.parent = -1 ∨
    ∃ parent, snapshots.getSnapshot snapshot.parent = some parent ∧ id ∈ parent.children
  down : ∀ id snapshot, snapshots.getSnapshot id = some snapshot → ∀ child ∈ snapshot.children,
    ∃ held, snapshots.getSnapshot child = some held ∧ held.parent = id
  nodup : ∀ id snapshot, snapshots.getSnapshot id = some snapshot → snapshot.children.Nodup
  active : snapshots.active = -1 ∨
    ∃ snapshot, snapshots.getSnapshot snapshots.active = some snapshot ∧ snapshot.active = true
  marked : ∀ id snapshot, snapshots.getSnapshot id = some snapshot → snapshot.active = true →
    id = snapshots.active
  base : snapshots.orphans = .mixed → snapshots.currentBase = snapshots.active

@[simp] theorem getSnapshot_replace (id : Int) (update : Snapshot → Snapshot) (other : Int) :
    (snapshots.replace id update).getSnapshot other =
      (snapshots.getSnapshot other).map fun snapshot => if other = id then update snapshot else snapshot :=
  Map.lookup_modify _ _ _

theorem mem_childSet {children : List Int} {child : Int} : child ∈ childSet children ↔ child ∈ children := by
  rw [childSet, List.mem_insertionSort, List.mem_dedup]

theorem childSet_nodup (children : List Int) : (childSet children).Nodup :=
  (List.perm_insertionSort (· ≤ ·) children.dedup).nodup_iff.2 (List.nodup_dedup children)

def grown (name : String) (sizeMb date : Int) : Snapshots :=
  { snapshots with
    pool := (snapshots.addChild snapshots.active).pool.insertNew snapshots.nextSnapshot
      { name, sizeMb, date, parent := snapshots.active }
    nextSnapshot := snapshots.nextSnapshot + 1 }

end

theorem replace_missing (missing : snapshots.getSnapshot id = none) (update : Snapshot → Snapshot) :
    snapshots.replace id update = snapshots := by
  have same : snapshots.pool.modify (fun key snapshot => if key = id then update snapshot else snapshot) =
      snapshots.pool := by
    refine AList.ext ?_
    refine (List.map_congr_left fun row member => ?_).trans (List.map_id _)
    have apart : row.1 ≠ id := by
      rintro rfl
      have found : snapshots.getSnapshot row.1 = some row.2 := Map.mem_entries_iff.1 member
      rw [missing] at found
      cases found
    simp [Sigma.map, apart]
  rw [replace, same]

section

variable (linked : snapshots.Linked)
include linked

theorem Linked.create_eq (name : String) (sizeMb date : Int) : snapshots.createSnapshot name sizeMb date =
      (snapshots.grown name sizeMb date, snapshots.nextSnapshot) := by
  have noRoot : snapshots.active = -1 → snapshots.addChild snapshots.active = snapshots := by
    intro isRoot
    refine replace_missing ?_ _
    cases found : snapshots.getSnapshot snapshots.active with
    | none => rfl
    | some snapshot =>
      have natural := (linked.ids _ _ found).1
      omega
  rcases linked.policy with deny | mixed
  · rcases linked.active with isRoot | ⟨snapshot, found, -⟩
    · have same := noRoot isRoot
      simp only [createSnapshot, deny, addChildDeny, isRoot, if_true, grown]
      rw [isRoot] at same
      rw [same]
    · have exists' : snapshots.active ≠ -1 := by
        have natural := (linked.ids _ _ found).1
        omega
      simp only [createSnapshot, deny, addChildDeny, exists', if_false, found, Option.map_some]
      rfl
  · have isBase := linked.base mixed
    by_cases isRoot : snapshots.active = -1
    · have same := noRoot isRoot
      simp only [createSnapshot, mixed, addChildMixed, isBase, isRoot, if_true, grown]
      rw [isRoot] at same
      rw [same]
    · simp only [createSnapshot, mixed, addChildMixed, isBase, isRoot, if_false]
      rfl

theorem Linked.fresh : snapshots.getSnapshot snapshots.nextSnapshot = none := by
  cases found : snapshots.getSnapshot snapshots.nextSnapshot with
  | none => rfl
  | some snapshot => exact absurd (linked.ids _ _ found).2 (lt_irrefl _)

theorem Linked.getSnapshot_grown (name : String) (sizeMb date other : Int) :
    (snapshots.grown name sizeMb date).getSnapshot other =
      if other = snapshots.nextSnapshot then some { name, sizeMb, date, parent := snapshots.active }
      else
        (snapshots.getSnapshot other).map fun snapshot =>
          if other = snapshots.active then
            { snapshot with children := snapshot.children ++ [snapshots.nextSnapshot] }
          else snapshot := by
  have fresh : (snapshots.addChild snapshots.active).getSnapshot snapshots.nextSnapshot = none := by
    rw [addChild, getSnapshot_replace, linked.fresh, Option.map_none]
  have notMem : snapshots.nextSnapshot ∉ (snapshots.addChild snapshots.active).pool := AList.lookup_eq_none.1 fresh
  rw [getSnapshot, grown, Map.insertNew, if_neg notMem, Map.lookup_insert_eq]
  split
  · rfl
  · exact getSnapshot_replace _ _ _ _

theorem Linked.grown (name : String) (sizeMb date : Int) : (snapshots.grown name sizeMb date).Linked := by
  have lookup := linked.getSnapshot_grown name sizeMb date
  have older : snapshots.active < snapshots.nextSnapshot := by
    rcases linked.active with isRoot | ⟨snapshot, found, -⟩
    · have first := linked.first
      omega
    · exact (linked.ids _ _ found).2
  -- A snapshot afterwards is the new one, or an old one with its links.
  have cases : ∀ id snapshot, (snapshots.grown name sizeMb date).getSnapshot id = some snapshot →
      (id = snapshots.nextSnapshot ∧ snapshot = { name, sizeMb, date, parent := snapshots.active }) ∨
        ∃ old, id ≠ snapshots.nextSnapshot ∧ snapshots.getSnapshot id = some old ∧
          snapshot = if id = snapshots.active then
            { old with children := old.children ++ [snapshots.nextSnapshot] } else old := by
    intro id snapshot found
    rw [lookup] at found
    split at found
    · rename_i isNew
      exact .inl ⟨isNew, (Option.some.inj found).symm⟩
    · rename_i notNew
      obtain ⟨old, isOld, same⟩ := Option.map_eq_some_iff.1 found
      exact .inr ⟨old, notNew, isOld, same.symm⟩
  have kept : ∀ id old, snapshots.getSnapshot id = some old →
      ∃ snapshot, (snapshots.grown name sizeMb date).getSnapshot id = some snapshot ∧
        snapshot.parent = old.parent ∧ snapshot.active = old.active ∧
        ∀ child ∈ old.children, child ∈ snapshot.children := by
    intro id old found
    have notNew : id ≠ snapshots.nextSnapshot := (linked.ids id old found).2.ne
    rw [lookup, if_neg notNew, found]
    refine ⟨_, rfl, ?_⟩
    split
    · exact ⟨rfl, rfl, fun child member => List.mem_append_left _ member⟩
    · exact ⟨rfl, rfl, fun child member => member⟩
  refine ⟨linked.policy, ?_, ?_, ?_, ?_, ?_, ?_, ?_, ?_, linked.base⟩
  · intro id snapshot found
    change 0 ≤ id ∧ id < snapshots.nextSnapshot + 1
    obtain ⟨rfl, -⟩ | ⟨old, -, isOld, -⟩ := cases id snapshot found
    · exact ⟨linked.first, by omega⟩
    · have bounds := linked.ids id old isOld
      exact ⟨bounds.1, by omega⟩
  · have first := linked.first
    change 0 ≤ snapshots.nextSnapshot + 1
    omega
  · intro id snapshot found
    obtain ⟨rfl, rfl⟩ | ⟨old, -, isOld, rfl⟩ := cases id snapshot found
    · exact older
    · split <;> exact linked.older id old isOld
  · intro id snapshot found
    obtain ⟨rfl, rfl⟩ | ⟨old, -, isOld, rfl⟩ := cases id snapshot found
    · rcases linked.active with isRoot | ⟨parent, isParent, -⟩
      · exact .inl isRoot
      · refine .inr ⟨_, (lookup _).trans ((if_neg older.ne).trans (congrArg _ isParent)), ?_⟩
        simp
    · have sameParent : (if id = snapshots.active then
          { old with children := old.children ++ [snapshots.nextSnapshot] } else old).parent = old.parent := by
        split <;> rfl
      rw [sameParent]
      rcases linked.up id old isOld with isRoot | ⟨parent, isParent, listed⟩
      · exact .inl isRoot
      · obtain ⟨held, isHeld, -, -, keeps⟩ := kept _ _ isParent
        exact .inr ⟨held, isHeld, keeps id listed⟩
  · intro id snapshot found child listed
    obtain ⟨rfl, rfl⟩ | ⟨old, -, isOld, rfl⟩ := cases id snapshot found
    · cases listed
    · have fromOld : child ∈ old.children →
          ∃ held, (snapshots.grown name sizeMb date).getSnapshot child = some held ∧ held.parent = id := by
        intro member
        obtain ⟨held, isHeld, isParent⟩ := linked.down id old isOld child member
        obtain ⟨after, isAfter, sameParent, -⟩ := kept _ _ isHeld
        exact ⟨after, isAfter, sameParent.trans isParent⟩
      split at listed
      · rename_i isActive
        rcases List.mem_append.1 listed with member | isNew
        · exact fromOld member
        · rw [List.mem_singleton.1 isNew, lookup, if_pos rfl]
          exact ⟨_, rfl, isActive.symm⟩
      · exact fromOld listed
  · intro id snapshot found
    obtain ⟨rfl, rfl⟩ | ⟨old, -, isOld, rfl⟩ := cases id snapshot found
    · exact List.nodup_nil
    · split
      · refine List.nodup_append.2 ⟨linked.nodup id old isOld, List.nodup_singleton _, ?_⟩
        intro child member new isNew same
        obtain ⟨held, isHeld, -⟩ := linked.down id old isOld child member
        rw [same, List.mem_singleton.1 isNew, linked.fresh] at isHeld
        cases isHeld
      · exact linked.nodup id old isOld
  · rcases linked.active with isRoot | ⟨held, isHeld, isMarked⟩
    · exact .inl isRoot
    · obtain ⟨after, isAfter, -, sameActive, -⟩ := kept _ _ isHeld
      exact .inr ⟨after, isAfter, sameActive.trans isMarked⟩
  · intro id snapshot found isMarked
    obtain ⟨rfl, rfl⟩ | ⟨old, -, isOld, rfl⟩ := cases id snapshot found
    · cases isMarked
    · refine linked.marked id old isOld ?_
      split at isMarked <;> exact isMarked

/-- What the test leaves: a snapshot with at most one child, which is not active when it has one
and, with mixed orphans, not active at all. -/
theorem Linked.testDelete_ok {persistent : Bool} (found : snapshots.getSnapshot id = some snapshot)
    (passed : snapshots.testDelete id persistent = .ok ()) :
    (snapshot.children = [] ∨ ∃ child, snapshot.children = [child] ∧ snapshots.active ≠ id) ∧
      (snapshots.orphans = .mixed → snapshots.active ≠ id ∧ snapshot.children = []) := by
  rw [testDelete, found] at passed
  rcases linked.policy with deny | mixed
  · simp only [deny] at passed
    refine ⟨?_, fun mixed => by rw [deny] at mixed; cases mixed⟩
    split at passed
    · cases passed
    · split at passed
      · rename_i noChild
        exact .inl noChild
      · rename_i child isChild
        split at passed
        · cases passed
        · rename_i notActive
          exact .inr ⟨child, isChild, notActive⟩
      · cases passed
  · simp only [mixed] at passed
    split at passed
    · cases passed
    · rename_i notActive
      split at passed
      · cases passed
      · rename_i noChild
        have isEmpty : snapshot.children = [] := not_not.1 noChild
        exact ⟨.inl isEmpty, fun _ => ⟨fun same => notActive same.symm, isEmpty⟩⟩

end

theorem getSnapshot_erase (snapshots : Snapshots) (id other : Int) :
    ({ snapshots with pool := snapshots.pool.erase id } : Snapshots).getSnapshot other =
      if other = id then none else snapshots.getSnapshot other :=
  Map.lookup_erase_eq id other snapshots.pool

theorem Linked.eraseAlone (linked : snapshots.Linked) (found : snapshots.getSnapshot id = some snapshot)
    (isRoot : snapshot.parent = -1) (notActive : snapshots.active ≠ id) (noChild : snapshot.children = []) :
    Linked { snapshots with pool := snapshots.pool.erase id } := by
  have lookup : ∀ other held,
      ({ snapshots with pool := snapshots.pool.erase id } : Snapshots).getSnapshot other = some held ↔
        other ≠ id ∧ snapshots.getSnapshot other = some held := by
    intro other held
    rw [getSnapshot_erase]
    split <;> simp_all
  refine ⟨linked.policy, ?_, linked.first, ?_, ?_, ?_, ?_, ?_, ?_, linked.base⟩
  · exact fun other held isHeld => linked.ids other held ((lookup other held).1 isHeld).2
  · exact fun other held isHeld => linked.older other held ((lookup other held).1 isHeld).2
  · intro other held isHeld
    have isOld := ((lookup other held).1 isHeld).2
    rcases linked.up other held isOld with noParent | ⟨parent, isParent, listed⟩
    · exact .inl noParent
    · refine .inr ⟨parent, (lookup _ _).2 ⟨?_, isParent⟩, listed⟩
      intro same
      rw [same, found] at isParent
      rw [← Option.some.inj isParent, noChild] at listed
      cases listed
  · intro other held isHeld child listed
    have isOld := ((lookup other held).1 isHeld).2
    obtain ⟨kept, isKept, isParent⟩ := linked.down other held isOld child listed
    refine ⟨kept, (lookup _ _).2 ⟨?_, isKept⟩, isParent⟩
    intro same
    rw [same, found] at isKept
    have natural := (linked.ids other held isOld).1
    rw [← Option.some.inj isKept, isRoot] at isParent
    omega
  · exact fun other held isHeld => linked.nodup other held ((lookup other held).1 isHeld).2
  · rcases linked.active with isRoot | ⟨held, isHeld, isMarked⟩
    · exact .inl isRoot
    · exact .inr ⟨held, (lookup _ _).2 ⟨notActive, isHeld⟩, isMarked⟩
  · exact fun other held isHeld => linked.marked other held ((lookup other held).1 isHeld).2

def relinked (snapshots : Snapshots) (id : Int) (snapshot parent : Snapshot) (other : Int)
    (held : Snapshot) : Snapshot :=
  { held with
    parent := if other ∈ snapshot.children then snapshot.parent else held.parent
    children :=
      if other = snapshot.parent then
        childSet ((childSet parent.children).erase id ++ snapshot.children)
      else held.children
    active := held.active || (other = snapshot.parent && snapshots.active = id) }

theorem getSnapshot_relink {parent : Snapshot}
    (few : snapshot.children = [] ∨ ∃ child, snapshot.children = [child]) (other : Int) :
    (snapshots.relink id snapshot parent).getSnapshot other =
      (snapshots.getSnapshot other).map (snapshots.relinked id snapshot parent other) := by
  have only : (if (childSet snapshot.children).length = 1 then childSet snapshot.children else []) =
      snapshot.children := by
    rcases few with isNil | ⟨child, isChild⟩
    · rw [isNil]
      rfl
    · rw [isChild]
      rfl
  have withActive : ∀ (held : Snapshots) (active : Int),
      ({ held with active } : Snapshots).getSnapshot other = held.getSnapshot other := fun _ _ => rfl
  rw [relink, only]
  cases found : snapshots.getSnapshot other with
  | none =>
    rcases few with isNil | ⟨child, isChild⟩
    · by_cases isActive : snapshots.active = id <;> simp [isNil, isActive, withActive, found]
    · by_cases isActive : snapshots.active = id <;> simp [isChild, isActive, withActive, found]
  | some held =>
    rcases few with isNil | ⟨child, isChild⟩
    · by_cases isActive : snapshots.active = id <;> by_cases isParent : other = snapshot.parent <;>
        simp_all [relinked]
    · by_cases isActive : snapshots.active = id <;> by_cases isParent : other = snapshot.parent <;>
        by_cases isOnly : other = child <;>
        simp_all [relinked]

theorem relink_fields {parent : Snapshot} : (snapshots.relink id snapshot parent).orphans = snapshots.orphans ∧
      (snapshots.relink id snapshot parent).nextSnapshot = snapshots.nextSnapshot ∧
      (snapshots.relink id snapshot parent).currentBase = snapshots.currentBase ∧
      (snapshots.relink id snapshot parent).active =
        if snapshots.active = id then snapshot.parent else snapshots.active := by
  have kept : ∀ (only : List Int) (held : Snapshots) (update : Snapshot → Snapshot),
      (only.foldl (fun held child => held.replace child update) held).orphans = held.orphans ∧
        (only.foldl (fun held child => held.replace child update) held).nextSnapshot = held.nextSnapshot ∧
        (only.foldl (fun held child => held.replace child update) held).currentBase = held.currentBase ∧
        (only.foldl (fun held child => held.replace child update) held).active = held.active := by
    intro only held update
    induction only generalizing held with
    | nil => exact ⟨rfl, rfl, rfl, rfl⟩
    | cons child rest ih => exact ih _
  obtain ⟨orphans, next, base, active⟩ :=
    kept (if (childSet snapshot.children).length = 1 then childSet snapshot.children else []) snapshots
      fun child => { child with parent := snapshot.parent }
  rw [relink]
  by_cases isActive : snapshots.active = id
  · simp only [isActive, if_true]
    exact ⟨orphans, next, base, trivial⟩
  · simp only [isActive, if_false]
    exact ⟨orphans, next, base, active⟩

section

variable (linked : snapshots.Linked)
include linked

theorem Linked.eraseBetween (found : snapshots.getSnapshot id = some snapshot)
    {parent : Snapshot} (isParent : snapshots.getSnapshot snapshot.parent = some parent)
    (few : snapshot.children = [] ∨ ∃ child, snapshot.children = [child] ∧ snapshots.active ≠ id)
    (mixed : snapshots.orphans = .mixed → snapshots.active ≠ id) : Linked { snapshots.relink id snapshot parent with
      pool := (snapshots.relink id snapshot parent).pool.erase id } := by
  obtain ⟨sameOrphans, sameNext, sameBase, isActive⟩ := @relink_fields snapshots id snapshot parent
  have olderParent := linked.older id snapshot found
  have lookup : ∀ other held,
      ({ snapshots.relink id snapshot parent with
          pool := (snapshots.relink id snapshot parent).pool.erase id } : Snapshots).getSnapshot other =
          some held ↔
        other ≠ id ∧ ∃ old, snapshots.getSnapshot other = some old ∧
          held = snapshots.relinked id snapshot parent other old := by
    intro other held
    have fewer : snapshot.children = [] ∨ ∃ child, snapshot.children = [child] := by
      rcases few with isNil | ⟨child, isChild, -⟩
      · exact .inl isNil
      · exact .inr ⟨child, isChild⟩
    rw [getSnapshot_erase, getSnapshot_relink fewer]
    split
    · rename_i same
      exact iff_of_false (fun isSome => by cases isSome) fun apart => apart.1 same
    · rename_i apart
      rw [Option.map_eq_some_iff]
      constructor
      · rintro ⟨old, isOld, same⟩
        exact ⟨apart, old, isOld, same.symm⟩
      · rintro ⟨-, old, isOld, same⟩
        exact ⟨old, isOld, same.symm⟩
  -- The children of the snapshot have no other parent.
  have ownChild : ∀ child ∈ snapshot.children, ∀ held, snapshots.getSnapshot child = some held →
      held.parent = id ∧ child ≠ id := by
    intro child listed held isHeld
    obtain ⟨kept, isKept, ofSnapshot⟩ := linked.down id snapshot found child listed
    obtain rfl := Option.some.inj (isKept.symm.trans isHeld)
    refine ⟨ofSnapshot, fun same => ?_⟩
    have older := linked.older child kept isHeld
    rw [ofSnapshot, same] at older
    exact lt_irrefl _ older
  have listedByParent : ∀ child, child ∈ childSet ((childSet parent.children).erase id ++ snapshot.children) ↔
      (child ≠ id ∧ child ∈ parent.children) ∨ child ∈ snapshot.children := by
    intro child
    rw [mem_childSet, List.mem_append, (childSet_nodup _).mem_erase_iff, mem_childSet]
  refine ⟨sameOrphans ▸ linked.policy, ?_, sameNext ▸ linked.first, ?_, ?_, ?_, ?_, ?_, ?_, ?_⟩
  · intro other held isHeld
    obtain ⟨-, old, isOld, -⟩ := (lookup other held).1 isHeld
    exact sameNext ▸ linked.ids other old isOld
  · intro other held isHeld
    obtain ⟨-, old, isOld, rfl⟩ := (lookup other held).1 isHeld
    simp only [relinked]
    split
    · rename_i listed
      have older := linked.older other old isOld
      rw [(ownChild other listed old isOld).1] at older
      exact olderParent.trans older
    · exact linked.older other old isOld
  · intro other held isHeld
    obtain ⟨apart, old, isOld, rfl⟩ := (lookup other held).1 isHeld
    simp only [relinked]
    split
    · rename_i listed
      refine .inr ⟨_, (lookup _ _).2 ⟨olderParent.ne, parent, isParent, rfl⟩, ?_⟩
      simp only [relinked, if_true]
      exact (listedByParent other).2 (.inr listed)
    · rename_i notListed
      rcases linked.up other old isOld with noParent | ⟨upper, isUpper, listed⟩
      · exact .inl noParent
      · have upperApart : old.parent ≠ id := by
          intro same
          rw [same, found] at isUpper
          exact notListed (Option.some.inj isUpper ▸ listed)
        refine .inr ⟨_, (lookup _ _).2 ⟨upperApart, upper, isUpper, rfl⟩, ?_⟩
        simp only [relinked]
        split
        · rename_i same
          rw [same, isParent] at isUpper
          exact (listedByParent other).2 (.inl ⟨apart, Option.some.inj isUpper ▸ listed⟩)
        · exact listed
  · intro other held isHeld child listed
    obtain ⟨apart, old, isOld, rfl⟩ := (lookup other held).1 isHeld
    simp only [relinked] at listed
    -- A child that stays keeps its parent.
    have stays : ∀ kept, child ≠ id → snapshots.getSnapshot child = some kept → kept.parent = other →
        ∃ held, ({ snapshots.relink id snapshot parent with
            pool := (snapshots.relink id snapshot parent).pool.erase id } : Snapshots).getSnapshot child =
            some held ∧ held.parent = other := by
      intro kept notGone isKept ofOther
      refine ⟨_, (lookup _ _).2 ⟨notGone, kept, isKept, rfl⟩, ?_⟩
      simp only [relinked]
      split
      · rename_i mine
        exact absurd (ofOther.symm.trans (ownChild child mine kept isKept).1) apart
      · exact ofOther
    split at listed
    · rename_i isUpper
      rw [isUpper, isParent] at isOld
      obtain rfl := Option.some.inj isOld
      rcases (listedByParent child).1 listed with ⟨notGone, member⟩ | mine
      · obtain ⟨kept, isKept, ofParent⟩ := linked.down _ _ isParent child member
        exact stays kept notGone isKept (ofParent.trans isUpper.symm)
      · obtain ⟨kept, isKept, -⟩ := linked.down id snapshot found child mine
        refine ⟨_, (lookup _ _).2 ⟨(ownChild child mine kept isKept).2, kept, isKept, rfl⟩, ?_⟩
        simp only [relinked, if_pos mine]
        exact isUpper.symm
    · rename_i notUpper
      obtain ⟨kept, isKept, ofOther⟩ := linked.down other old isOld child listed
      refine stays kept (fun same => ?_) isKept ofOther
      rw [same, found] at isKept
      exact notUpper (ofOther ▸ Option.some.inj isKept ▸ rfl)
  · intro other held isHeld
    obtain ⟨-, old, isOld, rfl⟩ := (lookup other held).1 isHeld
    simp only [relinked]
    split
    · exact childSet_nodup _
    · exact linked.nodup other old isOld
  · change (snapshots.relink id snapshot parent).active = -1 ∨ ∃ held, _
    rw [isActive]
    split
    · rename_i gone
      refine .inr ⟨_, (lookup _ _).2 ⟨olderParent.ne, parent, isParent, rfl⟩, ?_⟩
      simp [relinked, gone]
    · rename_i notGone
      rcases linked.active with isRoot | ⟨held, isHeld, isMarked⟩
      · exact .inl isRoot
      · refine .inr ⟨_, (lookup _ _).2 ⟨notGone, held, isHeld, rfl⟩, ?_⟩
        simp [relinked, isMarked]
  · intro other held isHeld isMarked
    obtain ⟨apart, old, isOld, rfl⟩ := (lookup other held).1 isHeld
    change other = (snapshots.relink id snapshot parent).active
    rw [isActive]
    simp only [relinked, Bool.or_eq_true, Bool.and_eq_true, decide_eq_true_eq] at isMarked
    rcases isMarked with wasMarked | ⟨isUpper, gone⟩
    · have wasActive := linked.marked other old isOld wasMarked
      rw [if_neg fun gone => apart (wasActive.trans gone)]
      exact wasActive
    · rw [if_pos gone]
      exact isUpper
  · intro isMixed
    change (snapshots.relink id snapshot parent).currentBase = (snapshots.relink id snapshot parent).active
    have wasMixed : snapshots.orphans = .mixed := sameOrphans.symm.trans isMixed
    rw [sameBase, isActive, if_neg (mixed wasMixed)]
    exact linked.base wasMixed

theorem Linked.delete {persistent : Bool} (passed : snapshots.testDelete id persistent = .ok ())
    (spares : (Event.delete id persistent).Spares snapshots) : (snapshots.deleteSnapshot id).Linked := by
  cases found : snapshots.getSnapshot id with
  | none =>
    rw [testDelete, found] at passed
    cases passed
  | some snapshot =>
    obtain ⟨few, mixed⟩ := linked.testDelete_ok found passed
    simp only [deleteSnapshot, found, if_pos linked.policy]
    split
    · rename_i isRoot
      have isOk : (snapshots.testDelete id persistent).isOk = true := by rw [passed]; rfl
      obtain ⟨notActive, noChild⟩ := spares isOk snapshot found isRoot
      exact linked.eraseAlone found isRoot notActive noChild
    · rename_i notRoot
      obtain isRoot | ⟨parent, isParent, -⟩ := linked.up id snapshot found
      · exact absurd isRoot notRoot
      · simp only [isParent]
        exact linked.eraseBetween found isParent few fun isMixed => (mixed isMixed).1

theorem Linked.remark (mark : Int → Bool) (active base : Int) (lookup : ∀ other, after.getSnapshot other =
      (snapshots.getSnapshot other).map fun snapshot => { snapshot with active := mark other })
    (sameOrphans : after.orphans = snapshots.orphans) (sameNext : after.nextSnapshot = snapshots.nextSnapshot)
    (isActive : after.active = active) (isBase : after.currentBase = base)
    (found : snapshots.getSnapshot active = some snapshot)
    (marks : ∀ other, mark other = true ↔ other = active)
    (mixed : snapshots.orphans = .mixed → base = active) : after.Linked := by
  have cases : ∀ other held, after.getSnapshot other = some held →
      ∃ old, snapshots.getSnapshot other = some old ∧ held = { old with active := mark other } := by
    intro other held isHeld
    rw [lookup] at isHeld
    obtain ⟨old, isOld, same⟩ := Option.map_eq_some_iff.1 isHeld
    exact ⟨old, isOld, same.symm⟩
  have kept : ∀ other old, snapshots.getSnapshot other = some old →
      after.getSnapshot other = some { old with active := mark other } := by
    intro other old isOld
    rw [lookup, isOld, Option.map_some]
  refine ⟨sameOrphans ▸ linked.policy, ?_, sameNext ▸ linked.first, ?_, ?_, ?_, ?_, ?_, ?_, ?_⟩
  · intro other held isHeld
    obtain ⟨old, isOld, -⟩ := cases other held isHeld
    exact sameNext ▸ linked.ids other old isOld
  · intro other held isHeld
    obtain ⟨old, isOld, rfl⟩ := cases other held isHeld
    exact linked.older other old isOld
  · intro other held isHeld
    obtain ⟨old, isOld, rfl⟩ := cases other held isHeld
    rcases linked.up other old isOld with isRoot | ⟨parent, isParent, listed⟩
    · exact .inl isRoot
    · exact .inr ⟨_, kept _ _ isParent, listed⟩
  · intro other held isHeld child listed
    obtain ⟨old, isOld, rfl⟩ := cases other held isHeld
    obtain ⟨own, isOwn, ofOther⟩ := linked.down other old isOld child listed
    exact ⟨_, kept _ _ isOwn, ofOther⟩
  · intro other held isHeld
    obtain ⟨old, isOld, rfl⟩ := cases other held isHeld
    exact linked.nodup other old isOld
  · rw [isActive]
    exact .inr ⟨_, kept _ _ found, (marks active).2 rfl⟩
  · intro other held isHeld isMarked
    obtain ⟨old, -, rfl⟩ := cases other held isHeld
    exact ((marks other).1 isMarked).trans isActive.symm
  · intro isMixed
    rw [isBase, isActive]
    exact mixed (sameOrphans.symm.trans isMixed)

theorem Linked.activate (id : Int) (revert : Bool) : (snapshots.activeSnapshot id revert).1.Linked := by
  rw [activeSnapshot]
  split
  · exact linked
  · rename_i notActive
    split
    · exact linked
    · rename_i snapshot found
      split
      · exact linked
      · have marks : ∀ other, (fun other => decide (other = id)) other = true ↔ other = id :=
          fun other => decide_eq_true_iff
        -- The old active snapshot is the only one that was marked.
        have lookup : ∀ held : Snapshots, held.pool = snapshots.pool → ∀ other,
            ((held.replace id fun snapshot => { snapshot with active := true }).replace snapshots.active
                fun snapshot => { snapshot with active := false }).getSnapshot other =
              (snapshots.getSnapshot other).map fun snapshot =>
                { snapshot with active := decide (other = id) } := by
          intro held samePool other
          have same : held.getSnapshot other = snapshots.getSnapshot other :=
            congrArg (fun pool : Map Int Snapshot => pool.lookup other) samePool
          rw [getSnapshot_replace, getSnapshot_replace, same]
          cases isOld : snapshots.getSnapshot other with
          | none => rfl
          | some old =>
            by_cases isNew : other = id
            · have apart : id ≠ snapshots.active := notActive
              simp [isNew, apart]
            · by_cases wasActive : other = snapshots.active
              · have apart : snapshots.active ≠ id := fun same => notActive same.symm
                simp [wasActive, apart]
              · have unmarked : old.active = false := by
                  by_contra marked
                  exact wasActive (linked.marked other old isOld (by simpa using marked))
                simp [isNew, wasActive, ← unmarked]
        split
        · exact linked.remark (fun other => decide (other = id)) id id
            (lookup { snapshots with currentBase := id } rfl) rfl rfl rfl rfl found marks fun _ => rfl
        · rename_i notMixed
          exact linked.remark (fun other => decide (other = id)) id snapshots.currentBase
            (lookup snapshots rfl) rfl rfl rfl rfl found marks fun mixed => absurd mixed notMixed

theorem Linked.init_eq : snapshots.init = snapshots := by
  have sameActive : ((snapshots.pool.entries.find? fun row => row.2.active).map Sigma.fst).getD (-1) =
      snapshots.active := by
    cases isFound : snapshots.pool.entries.find? fun row => row.2.active with
    | none =>
      rcases linked.active with isRoot | ⟨snapshot, found, isMarked⟩
      · exact isRoot.symm
      · have unmarked := List.find?_eq_none.1 isFound ⟨snapshots.active, snapshot⟩
          (Map.mem_entries_iff.2 found)
        exact absurd isMarked unmarked
    | some row =>
      have isMarked : row.2.active = true := by simpa using List.find?_some isFound
      exact linked.marked row.1 row.2 (Map.mem_entries_iff.1 (List.mem_of_find?_eq_some isFound)) isMarked
  rw [init, sameActive]

theorem Linked.step {event : Event} (spares : event.Spares snapshots) : (snapshots.step event).Linked := by
  cases event with
  | create name sizeMb date =>
    rw [Snapshots.step, linked.create_eq]
    exact linked.grown name sizeMb date
  | delete id persistent =>
    simp only [Snapshots.step]
    split
    · rename_i passed
      exact linked.delete passed spares
    · exact linked
  | activate id revert => exact linked.activate id revert
  | reload =>
    rw [Snapshots.step, linked.init_eq]
    exact linked

end

theorem Linked.initial {orphans : AllowOrphansMode} (policy : orphans = .deny ∨ orphans = .mixed) :
    Linked { orphans } := by
  have missing : ∀ id, ({ orphans } : Snapshots).getSnapshot id = none := fun id => AList.lookup_empty id
  refine ⟨policy, ?_, le_refl 0, ?_, ?_, ?_, ?_, .inl rfl, ?_, fun _ => rfl⟩ <;>
    · intro id snapshot found
      rw [missing] at found
      cases found

theorem Linked.parent_older (linked : snapshots.Linked)
    (ancestor : Relation.TransGen snapshots.ParentOf id other) : other < id := by
  induction ancestor with
  | single isParent =>
    obtain ⟨snapshot, found, rfl⟩ := isParent
    exact linked.older id snapshot found
  | tail _ isParent older =>
    obtain ⟨snapshot, found, rfl⟩ := isParent
    exact (linked.older _ snapshot found).trans older

theorem Linked.forest (linked : snapshots.Linked) : snapshots.Forest where
  parent id snapshot found := by
    rcases linked.up id snapshot found with isRoot | ⟨parent, isParent, listed⟩
    · exact .inl isRoot
    · exact .inr ⟨parent, isParent, List.count_eq_one_of_mem (linked.nodup _ _ isParent) listed⟩
  children id snapshot found child listed := by
    obtain ⟨held, isHeld, -⟩ := linked.down id snapshot found child listed
    exact ⟨held, isHeld⟩
  acyclic id ancestor := lt_irrefl id (linked.parent_older ancestor)
  oneActive id other first second isFirst isSecond firstMarked secondMarked :=
    (linked.marked id first isFirst firstMarked).trans
      (linked.marked other second isSecond secondMarked).symm
  active := by
    rcases linked.active with isRoot | ⟨snapshot, found, -⟩
    · exact .inl isRoot
    · exact .inr ⟨snapshot, found⟩
  next id snapshot found := (linked.ids id snapshot found).2
  create name sizeMb date := by
    rw [linked.create_eq]
    have first := linked.first
    change snapshots.nextSnapshot ≠ -1
    omega

/-- In a run where no root is deleted that is active or has a child, the snapshots are a forest in
every state, and one can be created. -/
theorem snapshot_forest (reached : system.Reachable (fun snapshots event => event.Spares snapshots) snapshots) :
    snapshots.Forest := by
  have linked : snapshots.Linked := by
    refine reached.invariant ?_ ?_
    · rintro _ ⟨orphans, policy, rfl⟩
      exact .initial policy
    · intro before event after linked spares stepped
      obtain rfl := Option.some.inj stepped
      exact linked.step spares
  exact linked.forest

theorem initial_deny : system.initial { orphans := .deny } := ⟨.deny, .inl rfl, rfl⟩

/-- A snapshot is taken and becomes the active one. -/
def take (id : Int) : List Event := [.create "" 1 0, .activate id false]

/-- The middle one of three snapshots is deleted, and then the last one, which is active. -/
theorem snapshot_forest_run : ∃ snapshots : Snapshots,
      system.Reachable (fun snapshots event => event.Spares snapshots) snapshots ∧
        (snapshots.active, snapshots.nextSnapshot) = (0, 3) ∧ snapshots.Forest := by
  have ran : (system.exec (fun snapshots event => event.Spares snapshots) { orphans := .deny }
      (take 0 ++ take 1 ++ take 2 ++ [.delete 1 false, .delete 2 false])).map
        (fun snapshots => (snapshots.active, snapshots.nextSnapshot)) = some (0, 3) := by
    decide
  obtain ⟨snapshots, isRun, isActive⟩ := Option.map_eq_some_iff.mp ran
  have reached := System.reachable_of_exec initial_deny isRun
  exact ⟨snapshots, reached, isActive, snapshot_forest reached⟩

/-- When the first of two snapshots is deleted, the other one keeps it as its parent. -/
theorem snapshot_forest_root :
    ¬∀ snapshots : Snapshots, system.Reachable System.anyStep snapshots → snapshots.Forest := by
  intro always
  have ran : (system.exec System.anyStep { orphans := .deny } (take 0 ++ take 1 ++ [.delete 0 false])).map
      (fun snapshots => ((snapshots.getSnapshot 1).map Snapshot.parent, snapshots.getSnapshot 0)) =
      some (some 0, none) := by
    decide
  obtain ⟨snapshots, isRun, answered⟩ := Option.map_eq_some_iff.mp ran
  obtain ⟨isChild, missing⟩ := Prod.mk.inj answered
  obtain ⟨snapshot, found, isParent⟩ := Option.map_eq_some_iff.mp isChild
  have forest := always snapshots (System.reachable_of_exec initial_deny isRun)
  rcases forest.parent 1 snapshot found with isRoot | ⟨parent, isHeld, -⟩
  · rw [isParent] at isRoot
    exact absurd isRoot (by decide)
  · rw [isParent, missing] at isHeld
    cases isHeld

/-- When the only snapshot is deleted while it is active, no other one can be created. -/
example : (system.exec System.anyStep { orphans := .deny } (take 0 ++ [.delete 0 false])).map
    (fun snapshots => (snapshots.active, (snapshots.createSnapshot "" 1 0).2)) = some (0, -1) := by
  decide

end Snapshots

end OpenNebula.Vm
