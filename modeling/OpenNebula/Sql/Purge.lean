import Mathlib.Data.List.Sort
import OpenNebula.Sql.Records

namespace OpenNebula.Sql

open Library

/-! # Purging the log (`LogDB::purge_log`)

Applied records go, save the last `log_retention` ones; federated records are
counted apart.  A row that is deleted has `log_retention` applied rows of its own
kind above it.
-/

/-- The `LIMIT` of a `DELETE` statement, where the database has one.  The number
goes through an `int`: MySQL refuses a negative one, for SQLite it is no limit. -/
inductive DeleteLimit where
  | unsupported
  | mysql (limitPurge : UInt32)
  | sqlite (limitPurge : UInt32)

def fitsInt (number : UInt32) : Bool := number.toNat < 2 ^ 31

/-- The rows that a `DELETE` removes out of those that match; `visit` ranks them
in the order in which the database meets them. -/
def DeleteLimit.apply (limit : DeleteLimit) (visit : Nat → Nat) (indexes : List Nat) : List Nat :=
  let first (number : UInt32) := (indexes.insertionSort fun left right => visit left ≤ visit right).take number.toNat
  match limit with
  | .unsupported => indexes
  | .mysql number => if fitsInt number then first number else []
  | .sqlite number => if fitsInt number then first number else indexes

/-- `SELECT MIN(i.log_index) FROM (SELECT ... ORDER BY log_index DESC LIMIT ...) AS i`.
With a negative limit the query fails, or finds the smallest of all the rows:
nothing is deleted either way. -/
def retained (logRetention : UInt32) (indexes : List Nat) : Option Nat :=
  if fitsInt logRetention then
    ((indexes.insertionSort (· ≥ ·)).take logRetention.toNat).min?
  else none

namespace LogDB

def appliedRows (db : LogDB) (kind : LogRow → Bool) : List Nat :=
  (Map.filter (fun _ row => row.applied && kind row) db.table).keys

def purgedRows (db : LogDB) (kind : LogRow → Bool) (logRetention : UInt32) (limit : DeleteLimit)
    (visit : Nat → Nat) : List Nat :=
  match retained logRetention (db.appliedRows kind) with
  | none => []
  | some minIdx => limit.apply visit ((db.appliedRows kind).filter (· < minIdx))

def deleteRows (db : LogDB) (rows : List Nat) : LogDB :=
  { db with table := Map.filter (fun index _ => index ∉ rows) db.table }

/-- Returns the number of purged records. -/
def purgeLog (db : LogDB) (logRetention : UInt32) (limit : DeleteLimit) (visit : Nat → Nat) : LogDB × Nat :=
  let rows := db.purgedRows (fun row => row.fedIndex.isNone) logRetention limit visit
  let db := db.deleteRows rows
  if db.fedLog.card < logRetention.toNat then (db, rows.length)
  else
    let fedRows := db.purgedRows (fun row => row.fedIndex.isSome) logRetention limit visit
    ((db.deleteRows fedRows).buildFederatedIndex, rows.length + fedRows.length)

variable {db : LogDB}

theorem lookup_deleteRows (db : LogDB) (rows : List Nat) (index : Nat) : (db.deleteRows rows).table.lookup index =
      if index ∈ rows then none else db.table.lookup index := by
  rw [deleteRows, Map.lookup_filter]
  by_cases gone : index ∈ rows
  · rw [if_pos gone]
    cases db.table.lookup index <;> simp [gone]
  · rw [if_neg gone]
    cases db.table.lookup index <;> simp [gone]

theorem mem_appliedRows {kind : LogRow → Bool} {index : Nat} : index ∈ db.appliedRows kind ↔
      ∃ row, db.table.lookup index = some row ∧ row.applied = true ∧ kind row = true := by
  rw [appliedRows, Map.mem_keys_iff]
  simp only [Map.lookup_filter, Option.filter_eq_some_iff, Bool.and_eq_true]

end LogDB

theorem DeleteLimit.apply_subset (limit : DeleteLimit) (visit : Nat → Nat) (indexes : List Nat) :
    limit.apply visit indexes ⊆ indexes := by
  have first (number : UInt32) :
      (indexes.insertionSort fun left right => visit left ≤ visit right).take number.toNat ⊆ indexes :=
    fun index inside => (List.perm_insertionSort _ _).subset (List.take_subset _ _ inside)
  cases limit with
  | unsupported => exact List.Subset.refl _
  | mysql number =>
    simp only [DeleteLimit.apply]
    split
    · exact first number
    · exact List.nil_subset _
  | sqlite number =>
    simp only [DeleteLimit.apply]
    split
    · exact first number
    · exact List.Subset.refl _

theorem retained_above {logRetention : UInt32} {indexes : List Nat} {minIdx index : Nat}
    (isMin : retained logRetention indexes = some minIdx) (inside : index ∈ indexes) (below : index < minIdx) :
    logRetention.toNat ≤ (indexes.filter (index < ·)).length := by
  rw [retained] at isMin
  split at isMin
  · obtain ⟨-, smallest⟩ := List.min?_eq_some_iff.1 isMin
    have same := List.perm_insertionSort (· ≥ ·) indexes
    have enough : logRetention.toNat ≤ (indexes.insertionSort (· ≥ ·)).length := by
      by_contra short
      rw [List.take_of_length_le (by omega)] at smallest
      exact absurd (smallest index (same.symm.subset inside)) (Nat.not_le.2 below)
    calc logRetention.toNat
        = ((indexes.insertionSort (· ≥ ·)).take logRetention.toNat).length := (List.length_take_of_le enough).symm
      _ = (((indexes.insertionSort (· ≥ ·)).take logRetention.toNat).filter (index < ·)).length := by
          rw [List.filter_eq_self.2]
          intro other isOther
          exact decide_eq_true (below.trans_le (smallest other isOther))
      _ ≤ ((indexes.insertionSort (· ≥ ·)).filter (index < ·)).length := ((List.take_sublist _ _).filter _).length_le
      _ = (indexes.filter (index < ·)).length := (same.filter _).length_eq
  · contradiction

namespace LogDB

variable {db : LogDB} {kind : LogRow → Bool} {logRetention : UInt32} {limit : DeleteLimit}
  {visit : Nat → Nat} {index : Nat}

theorem mem_purgedRows (gone : index ∈ db.purgedRows kind logRetention limit visit) : index ∈ db.appliedRows kind ∧
      logRetention.toNat ≤ ((db.appliedRows kind).filter (index < ·)).length := by
  rw [purgedRows] at gone
  split at gone
  · cases gone
  · rename_i minIdx isMin
    obtain ⟨inside, below⟩ := List.mem_filter.1 (limit.apply_subset visit _ gone)
    exact ⟨inside, retained_above isMin inside (of_decide_eq_true below)⟩

theorem appliedRows_nodup (db : LogDB) (kind : LogRow → Bool) : (db.appliedRows kind).Nodup :=
  AList.keys_nodup _

theorem two_above (retention : 2 ≤ logRetention.toNat) (gone : index ∈ db.purgedRows kind logRetention limit visit) :
    db.Applied index ∧ ∃ left right, index < left ∧ left < right ∧ db.Applied left ∧ db.Applied right := by
  obtain ⟨inside, above⟩ := mem_purgedRows gone
  have isApplied {other : Nat} (isOther : other ∈ db.appliedRows kind) : db.Applied other := by
    obtain ⟨row, stored, marked, -⟩ := mem_appliedRows.1 isOther
    exact ⟨row, stored, marked⟩
  refine ⟨isApplied inside, ?_⟩
  have nodup : ((db.appliedRows kind).filter (index < ·)).Nodup := (db.appliedRows_nodup kind).filter _
  have isAbove {other : Nat} (isOther : other ∈ (db.appliedRows kind).filter (index < ·)) :
      index < other ∧ db.Applied other := by
    obtain ⟨inRows, below⟩ := List.mem_filter.1 isOther
    exact ⟨of_decide_eq_true below, isApplied inRows⟩
  match rows : (db.appliedRows kind).filter (index < ·) with
  | [] | [_] =>
    rw [rows] at above
    exact absurd (retention.trans above) (by simp)
  | left :: right :: rest =>
    rw [rows] at nodup isAbove
    obtain ⟨leftAbove, leftApplied⟩ := isAbove (List.mem_cons_self ..)
    obtain ⟨rightAbove, rightApplied⟩ := isAbove (List.mem_cons_of_mem _ (List.mem_cons_self ..))
    have apart : left ≠ right := fun same =>
      (List.nodup_cons.1 nodup).1 (same ▸ List.mem_cons_self ..)
    rcases Nat.lt_or_gt_of_ne apart with smaller | larger
    · exact ⟨left, right, leftAbove, smaller, leftApplied, rightApplied⟩
    · exact ⟨right, left, rightAbove, larger, rightApplied, leftApplied⟩

/-- What a purge leaves: the indexes in memory, and of the table every record but
some of those with two applied records above. -/
structure Purged (before after : LogDB) : Prop where
  nextIndex : after.nextIndex = before.nextIndex
  lastIndex : after.lastIndex = before.lastIndex
  lastTerm : after.lastTerm = before.lastTerm
  lastApplied : after.lastApplied = before.lastApplied
  rows : ∀ index row, after.table.lookup index = some row → before.table.lookup index = some row
  gone : ∀ index row, before.table.lookup index = some row → after.table.lookup index = some row ∨
    before.Applied index ∧ ∃ left right, index < left ∧ left < right ∧ before.Applied left ∧
      before.Applied right

theorem Purged.applied {before after : LogDB} (purged : Purged before after)
    (applied : after.Applied index) : before.Applied index := by
  obtain ⟨row, stored, marked⟩ := applied
  exact ⟨row, purged.rows index row stored, marked⟩

theorem Purged.trans {first second third : LogDB} (left : Purged first second)
    (right : Purged second third) : Purged first third where
  nextIndex := right.nextIndex.trans left.nextIndex
  lastIndex := right.lastIndex.trans left.lastIndex
  lastTerm := right.lastTerm.trans left.lastTerm
  lastApplied := right.lastApplied.trans left.lastApplied
  rows index row stored := left.rows index row (right.rows index row stored)
  gone index row stored := by
    rcases left.gone index row stored with kept | above
    · rcases right.gone index row kept with keptTwice | ⟨applied, low, high, isLow, isHigh, rest⟩
      · exact .inl keptTwice
      · exact .inr ⟨left.applied applied, low, high, isLow, isHigh, left.applied rest.1, left.applied rest.2⟩
    · exact .inr above

theorem purged_deleteRows (retention : 2 ≤ logRetention.toNat) :
    Purged db (db.deleteRows (db.purgedRows kind logRetention limit visit)) where
  nextIndex := rfl
  lastIndex := rfl
  lastTerm := rfl
  lastApplied := rfl
  rows index row stored := by
    rw [lookup_deleteRows] at stored
    split at stored
    · contradiction
    · exact stored
  gone index row stored := by
    rw [lookup_deleteRows]
    split
    · rename_i isGone
      exact .inr (two_above retention isGone)
    · exact .inl stored

theorem purged_purgeLog (db : LogDB) (retention : 2 ≤ logRetention.toNat) (limit : DeleteLimit)
    (visit : Nat → Nat) : Purged db (db.purgeLog logRetention limit visit).1 := by
  have first : Purged db _ :=
    @purged_deleteRows db (fun row => row.fedIndex.isNone) logRetention limit visit retention
  rw [purgeLog]
  split
  · exact first
  · have second := first.trans
      (@purged_deleteRows _ (fun row => row.fedIndex.isSome) logRetention limit visit retention)
    exact ⟨second.nextIndex, second.lastIndex, second.lastTerm, second.lastApplied, second.rows, second.gone⟩

end LogDB

end OpenNebula.Sql
