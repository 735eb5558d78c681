import OpenNebula.Library.Transition
import OpenNebula.Sql.Federated
import OpenNebula.Sql.Purge

namespace OpenNebula.Sql

open Library

/-! # `fed_log` and the log table

`fed_log` is built from the table by `setup_index` and by `purge_log`, and kept by
the inserts.  `delete_log_records` leaves it alone, and so does a row that is
replaced: what they take away from the table stays in the set.
-/

inductive LogEvent where
  | setupIndex
  | insertLogRecord (term : Nat) (sql : String) (applied : Bool) (fedIndex : Option Nat)
  | insertReplica (index term : Nat) (sql : String) (applied : Bool) (fedIndex : Option Nat)
      (replace : Bool)
  | insertSolo (cmd : String) (fedIndex : Option Nat)
  | deleteLogRecords (startIndex : Nat)
  | applyLogRecords (commitIndex : Nat) (rc : Nat → SqlError)
  | purgeLog (logRetention : UInt32) (limit : DeleteLimit) (visit : Nat → Nat)

namespace LogDB

/-- A failed insert changes nothing. -/
def step (db : LogDB) : LogEvent → LogDB
  | .setupIndex => db.setupIndex.1
  | .insertLogRecord term sql applied fedIndex =>
    match db.insertLogRecord term sql applied fedIndex with
    | none => db
    | some (after, _) => after
  | .insertReplica index term sql applied fedIndex replace =>
    (db.insertReplica index term sql applied fedIndex replace).getD db
  | .insertSolo cmd fedIndex => db.insertSolo cmd fedIndex true
  | .deleteLogRecords startIndex => db.deleteLogRecords startIndex
  | .applyLogRecords commitIndex rc => (db.applyLogRecords commitIndex rc).1
  | .purgeLog logRetention limit visit => (db.purgeLog logRetention limit visit).1

/-- Runs on a table that `setup_index` has read. -/
def system : System LogDB LogEvent where
  initial db := ∃ stored : LogDB, db = stored.setupIndex.1
  step db event := some (db.step event)

/-- The values of `fed_index` in the table. -/
def federatedRows (db : LogDB) : Finset Nat :=
  (db.table.entries.filterMap fun row => row.2.fedIndex).toFinset

def Indexed (db : LogDB) : Prop := db.fedLog = db.federatedRows

variable {db : LogDB}

theorem mem_federatedRows {fed : Nat} : fed ∈ db.federatedRows ↔
      ∃ index row, db.table.lookup index = some row ∧ row.fedIndex = some fed := by
  rw [federatedRows, List.mem_toFinset, List.mem_filterMap]
  constructor
  · rintro ⟨⟨index, row⟩, isRow, isFederated⟩
    exact ⟨index, row, Map.mem_entries_iff.1 isRow, isFederated⟩
  · rintro ⟨index, row, isRow, isFederated⟩
    exact ⟨⟨index, row⟩, Map.mem_entries_iff.2 isRow, isFederated⟩

def Elsewhere (db : LogDB) (index fed : Nat) : Prop :=
  ∃ entry ∈ db.table.entries, entry.1 ≠ index ∧ entry.2.fedIndex = some fed

/-- The insert finds the index free.  Or it replaces a row whose federated index
the new row or another one has; or it keeps the row that is there, and the
federated index of the new record is in the table. -/
def Spares (db : LogDB) (index : Nat) (fedIndex : Option Nat) (replace : Bool) : Prop :=
  ∀ row ∈ db.table.lookup index,
    if replace then ∀ fed ∈ row.fedIndex, fedIndex = some fed ∨ db.Elsewhere index fed
    else ∀ fed ∈ fedIndex, fed ∈ db.federatedRows

/-- Every federated index of a deleted row is that of a row that stays. -/
def SparesBelow (db : LogDB) (startIndex : Nat) : Prop :=
  ∀ entry ∈ db.table.entries, startIndex ≤ entry.1 → ∀ fed ∈ entry.2.fedIndex,
    ∃ kept ∈ db.table.entries, kept.1 < startIndex ∧ kept.2.fedIndex = some fed

instance (db : LogDB) (index fed : Nat) : Decidable (db.Elsewhere index fed) :=
  inferInstanceAs (Decidable (∃ entry ∈ db.table.entries, _))

instance (db : LogDB) (index : Nat) (fedIndex : Option Nat) (replace : Bool) :
    Decidable (db.Spares index fedIndex replace) :=
  inferInstanceAs (Decidable (∀ row ∈ db.table.lookup index, ite _ _ _))

instance (db : LogDB) (startIndex : Nat) : Decidable (db.SparesBelow startIndex) :=
  inferInstanceAs (Decidable (∀ entry ∈ db.table.entries, startIndex ≤ entry.1 → ∀ fed ∈ entry.2.fedIndex,
      ∃ kept ∈ db.table.entries, kept.1 < startIndex ∧ kept.2.fedIndex = some fed))

end LogDB

def LogEvent.Spares (db : LogDB) : LogEvent → Prop
  | .insertLogRecord _ _ _ fedIndex | .insertSolo _ fedIndex =>
    db.Spares db.nextIndex (LogDB.federatedIndex fedIndex db.nextIndex) false
  | .insertReplica index _ _ _ fedIndex replace => db.Spares index fedIndex replace
  | .deleteLogRecords startIndex => db.SparesBelow startIndex
  | .setupIndex | .applyLogRecords .. | .purgeLog .. => True

instance (db : LogDB) : (event : LogEvent) → Decidable (event.Spares db)
  | .insertLogRecord _ _ _ fedIndex | .insertSolo _ fedIndex =>
    inferInstanceAs (Decidable (db.Spares db.nextIndex (LogDB.federatedIndex fedIndex db.nextIndex) false))
  | .insertReplica index _ _ _ fedIndex replace =>
    inferInstanceAs (Decidable (db.Spares index fedIndex replace))
  | .deleteLogRecords startIndex => inferInstanceAs (Decidable (db.SparesBelow startIndex))
  | .setupIndex | .applyLogRecords .. | .purgeLog .. => isTrue trivial

namespace LogDB

variable {db stored after : LogDB}

variable {index term : Nat} {sql : String} {applied replace : Bool} {fedIndex : Option Nat}

theorem insert_table (inserted : db.insert index term sql applied fedIndex replace = some stored) :
    stored.table = db.table.insert index ⟨term, sql, fedIndex, applied⟩ ∧ (replace = true ∨ index ∉ db.table) ∨
      stored.table = db.table ∧ replace = false ∧ index ∈ db.table := by
  simp only [LogDB.insert] at inserted
  split at inserted
  · rename_i isNew
    obtain rfl := Option.some.inj inserted
    exact .inl ⟨rfl, isNew⟩
  · rename_i taken
    rw [not_or, not_not, Bool.not_eq_true] at taken
    split at inserted
    · contradiction
    · split at inserted
      · obtain rfl := Option.some.inj inserted
        exact .inr ⟨rfl, taken⟩
      · contradiction

theorem Indexed.insert (indexed : db.Indexed) (spares : db.Spares index fedIndex replace)
    (inserted : db.insert index term sql applied fedIndex replace = some stored) (table : after.table = stored.table)
    (fedLog : ∀ fed, fed ∈ after.fedLog ↔ fedIndex = some fed ∨ fed ∈ db.fedLog) : after.Indexed := by
  ext fed
  rw [fedLog, indexed, mem_federatedRows, mem_federatedRows, table]
  rcases insert_table inserted with ⟨isTable, isNew⟩ | ⟨isTable, isKept, taken⟩
  · rw [isTable]
    constructor
    · rintro (isFed | ⟨other, row, isRow, isFed⟩)
      · exact ⟨index, _, AList.lookup_insert _, isFed⟩
      · by_cases same : other = index
        · subst same
          rcases isNew with replaced | absent
          · have kept := spares row isRow
            rw [if_pos replaced] at kept
            rcases kept fed isFed with isNewFed | ⟨⟨another, anotherRow⟩, isAnother, apart, hasFed⟩
            · exact ⟨other, _, AList.lookup_insert _, isNewFed⟩
            · exact ⟨another, anotherRow, (AList.lookup_insert_ne apart).trans
                (Map.mem_entries_iff.1 isAnother), hasFed⟩
          · rw [AList.lookup_eq_none.2 absent] at isRow
            cases isRow
        · exact ⟨other, row, (AList.lookup_insert_ne same).trans isRow, isFed⟩
    · rintro ⟨other, row, isRow, isFed⟩
      rw [Map.lookup_insert_eq] at isRow
      split at isRow
      · obtain rfl := Option.some.inj isRow
        exact .inl isFed
      · exact .inr ⟨other, row, isRow, isFed⟩
  · rw [isTable]
    refine ⟨?_, .inr⟩
    rintro (isFed | inside)
    · obtain ⟨row, isRow⟩ := Option.isSome_iff_exists.1 (AList.lookup_isSome.2 taken)
      have kept := spares row isRow
      rw [isKept, if_neg (by decide)] at kept
      exact mem_federatedRows.1 (kept fed isFed)
    · exact inside

theorem Indexed.insertLogRecord (indexed : db.Indexed) {term index : Nat} {sql : String}
    {applied : Bool} {fedIndex : Option Nat}
    (spares : db.Spares db.nextIndex (federatedIndex fedIndex db.nextIndex) false)
    (inserted : db.insertLogRecord term sql applied fedIndex = some (after, index)) : after.Indexed := by
  have members (fed : Nat) := @mem_insertLogRecord db after term index fed sql applied fedIndex inserted
  simp only [LogDB.insertLogRecord] at inserted
  split at inserted
  · contradiction
  · rename_i stored isStored
    obtain ⟨rfl, -⟩ := Prod.mk.inj (Option.some.inj inserted)
    exact indexed.insert spares isStored (noteFederated_table _ _) members

theorem Indexed.insertReplica (indexed : db.Indexed) (spares : db.Spares index fedIndex replace)
    (inserted : db.insertReplica index term sql applied fedIndex replace = some after) : after.Indexed := by
  obtain ⟨stored, isStored, rfl⟩ := Option.map_eq_some_iff.1 inserted
  refine indexed.insert spares isStored ?_ fun fed => ?_
  · rw [LogDB.noteReplica, noteFederated_table]
    split <;> rfl
  · rw [LogDB.noteReplica, mem_noteFederated]
    split <;> exact or_congr_right (by rw [← insert_fedLog isStored])

theorem indexed_buildFederatedIndex (db : LogDB) : db.buildFederatedIndex.Indexed := rfl

section

variable (indexed : db.Indexed)
include indexed

theorem Indexed.deleteRows {rows : List Nat}
    (plain : ∀ index ∈ rows, ∀ row ∈ db.table.lookup index, row.fedIndex = none) : (db.deleteRows rows).Indexed := by
  ext fed
  rw [show (db.deleteRows rows).fedLog = db.fedLog from rfl, indexed, mem_federatedRows, mem_federatedRows]
  constructor
  · rintro ⟨index, row, isRow, isFed⟩
    have kept : index ∉ rows := fun gone => by
      rw [plain index gone row isRow] at isFed
      cases isFed
    exact ⟨index, row, by rw [lookup_deleteRows, if_neg kept]; exact isRow, isFed⟩
  · rintro ⟨index, row, isRow, isFed⟩
    rw [lookup_deleteRows] at isRow
    split at isRow
    · contradiction
    · exact ⟨index, row, isRow, isFed⟩

theorem Indexed.purgeLog (logRetention : UInt32) (limit : DeleteLimit)
    (visit : Nat → Nat) : (db.purgeLog logRetention limit visit).1.Indexed := by
  rw [LogDB.purgeLog]
  split
  · refine indexed.deleteRows fun index gone row isRow => ?_
    obtain ⟨found, isFound, -, plain⟩ := mem_appliedRows.1 (mem_purgedRows gone).1
    rw [isFound] at isRow
    exact Option.some.inj isRow ▸ Option.isNone_iff_eq_none.1 plain
  · exact indexed_buildFederatedIndex _

theorem Indexed.deleteLogRecords {startIndex : Nat}
    (spares : db.SparesBelow startIndex) : (db.deleteLogRecords startIndex).Indexed := by
  have fedLog : (db.deleteLogRecords startIndex).fedLog = db.fedLog := by
    simp only [LogDB.deleteLogRecords]
    split <;> rfl
  ext fed
  rw [fedLog, indexed, mem_federatedRows, mem_federatedRows]
  constructor
  · rintro ⟨index, row, isRow, isFed⟩
    by_cases below : index < startIndex
    · exact ⟨index, row, by rw [lookup_deleteLogRecords, if_pos below]; exact isRow, isFed⟩
    · obtain ⟨⟨kept, keptRow⟩, isKept, keptBelow, hasFed⟩ :=
        spares ⟨index, row⟩ (Map.mem_entries_iff.2 isRow) (Nat.le_of_not_lt below) fed isFed
      exact ⟨kept, keptRow, by rw [lookup_deleteLogRecords, if_pos keptBelow];
                               exact Map.mem_entries_iff.1 isKept, hasFed⟩
  · rintro ⟨index, row, isRow, isFed⟩
    rw [lookup_deleteLogRecords] at isRow
    split at isRow
    · exact ⟨index, row, isRow, isFed⟩
    · contradiction

theorem Indexed.markApplied (lr : LogDBRecord) : (db.markApplied lr).Indexed := by
  ext fed
  rw [show (db.markApplied lr).fedLog = db.fedLog from rfl, indexed, mem_federatedRows, mem_federatedRows]
  constructor
  · rintro ⟨index, row, isRow, isFed⟩
    refine ⟨index, _, by rw [lookup_markApplied, isRow]; rfl, ?_⟩
    split <;> exact isFed
  · rintro ⟨index, row, isRow, isFed⟩
    rw [lookup_markApplied, Option.map_eq_some_iff] at isRow
    obtain ⟨before, isBefore, rfl⟩ := isRow
    refine ⟨index, before, isBefore, ?_⟩
    split at isFed <;> exact isFed

theorem Indexed.applyLoop {commitIndex : Nat} {rc : Nat → SqlError} {turns : Nat}
    : (LogDB.applyLoop commitIndex rc turns db).1.Indexed := by
  induction turns generalizing db with
  | zero => exact indexed
  | succ turns ih =>
    simp only [LogDB.applyLoop]
    split
    · split
      · exact indexed
      · rename_i lr found
        cases rc lr.index with
        | success | sqlDupKey => exact ih (indexed.markApplied lr)
        | sql => exact indexed.markApplied lr
        | internal | connection => exact indexed
    · exact indexed

theorem Indexed.step {event : LogEvent} (spares : event.Spares db) : (db.step event).Indexed := by
  cases event with
  | setupIndex => exact indexed_buildFederatedIndex _
  | insertLogRecord term sql applied fedIndex =>
    simp only [LogDB.step]
    split
    · exact indexed
    · rename_i after index inserted
      exact indexed.insertLogRecord spares inserted
  | insertReplica index term sql applied fedIndex replace =>
    cases inserted : db.insertReplica index term sql applied fedIndex replace with
    | none => simpa [LogDB.step, inserted] using indexed
    | some after => simpa [LogDB.step, inserted] using indexed.insertReplica spares inserted
  | insertSolo cmd fedIndex =>
    simp only [LogDB.step, LogDB.insertSolo, if_true]
    split
    · exact indexed
    · rename_i after index inserted
      have kept : after.Indexed := indexed.insertLogRecord spares inserted
      exact kept
  | deleteLogRecords startIndex => exact indexed.deleteLogRecords spares
  | applyLogRecords commitIndex rc => exact indexed.applyLoop
  | purgeLog logRetention limit visit => exact indexed.purgeLog logRetention limit visit

end

def Names (db : LogDB) (fed : Nat) : Prop :=
  db.lastFederated = some fed ∨
    ∃ index, db.previousFederated index = some fed ∨ db.nextFederated index = some fed

def OwnRows (db : LogDB) : Prop :=
  ∀ index row fed, db.table.lookup index = some row → row.fedIndex = some fed → fed = index

/-- The record of a federated index can be loaded; on a master under that index,
with another one as the previous. -/
def Resolves (db : LogDB) : Prop :=
  (∀ fed, db.Names fed → ∃ index prev lr, db.getLogRecord index prev = some lr ∧ lr.fedIndex = some fed) ∧
  (db.OwnRows → ∀ fed prev, db.Names fed → db.Names prev →
    ∃ lr, db.getLogRecord fed prev = some lr ∧ lr.index = fed ∧ lr.fedIndex = some fed)

theorem Names.mem {fed : Nat} (named : db.Names fed) : fed ∈ db.fedLog := by
  rcases named with isLast | ⟨index, isPrev | isNext⟩
  · exact (largest_eq_some isLast).1
  · rw [LogDB.previousFederated] at isPrev
    split at isPrev
    · exact (Finset.mem_filter.1 (largest_eq_some isPrev).1).1
    · contradiction
  · rw [LogDB.nextFederated] at isNext
    split at isNext
    · rw [smallest] at isNext
      split at isNext
      · rename_i nonempty
        obtain rfl := Option.some.inj isNext
        exact (Finset.mem_filter.1 (Finset.min'_mem _ nonempty)).1
      · contradiction
    · contradiction

theorem getLogRecord_rows {prev : Nat} {row prevRow : LogRow} (stored : db.table.lookup index = some row)
    (isPrev : db.table.lookup prev = some prevRow) : ∃ lr, db.getLogRecord index prev = some lr ∧ lr.index = index ∧
      lr.fedIndex = row.fedIndex := by
  rw [LogDB.getLogRecord]
  by_cases zero : index = 0
  · subst zero
    exact ⟨⟨0, 0, row.term, row.term, row.sqlcmd, row.fedIndex⟩, by simp [stored], rfl, rfl⟩
  · refine ⟨⟨index, prev, row.term, prevRow.term, row.sqlcmd, row.fedIndex⟩, ?_, rfl, rfl⟩
    rw [if_neg zero, stored, isPrev]

theorem Indexed.resolves (indexed : db.Indexed) : db.Resolves := by
  have found {fed : Nat} (named : db.Names fed) :
      ∃ index row, db.table.lookup index = some row ∧ row.fedIndex = some fed :=
    mem_federatedRows.1 (indexed ▸ named.mem)
  constructor
  · intro fed named
    obtain ⟨index, row, stored, isFed⟩ := found named
    obtain ⟨lr, loaded, -, sameFed⟩ := getLogRecord_rows stored stored
    exact ⟨index, index, lr, loaded, sameFed.trans isFed⟩
  · intro own fed prev named prevNamed
    obtain ⟨index, row, stored, isFed⟩ := found named
    obtain ⟨prevIndex, prevRow, prevStored, isPrevFed⟩ := found prevNamed
    obtain rfl := own index row fed stored isFed
    obtain rfl := own prevIndex prevRow prev prevStored isPrevFed
    obtain ⟨lr, loaded, isIndex, sameFed⟩ := getLogRecord_rows stored prevStored
    exact ⟨lr, loaded, isIndex, sameFed.trans isFed⟩

/-- In a run whose steps take no federated index out of the table, `fed_log` is
what the table holds and every index it names can be loaded. -/
theorem federated_index (db : LogDB) (reached : system.Reachable (fun db event => event.Spares db) db) :
    db.Indexed ∧ db.Resolves := by
  have indexed := @System.Reachable.invariant _ _ _ _ Indexed _ reached ?_ ?_
  · exact ⟨indexed, indexed.resolves⟩
  · rintro start ⟨stored, rfl⟩
    exact indexed_buildFederatedIndex _
  · intro before event next indexed spares stepped
    obtain rfl := Option.some.inj stepped
    exact indexed.step spares

/-- A new database with its first record. -/
def fresh : LogDB := load false false ∅ none [] "0"

theorem fresh_initial : system.initial fresh := ⟨_, rfl⟩

/-- Two federated records, one that is not, a truncation after the federated ones
and a purge. -/
theorem federated_index_truncated : ∃ db, system.Reachable (fun db event => event.Spares db) db ∧ db.fedLog = {1, 2} ∧
      db.Indexed ∧ db.Resolves := by
  have ran : ((system.exec (fun db event => event.Spares db) fresh
      [.insertLogRecord 1 "CREATE" false (some 0), .insertReplica 2 1 "INSERT" false (some 2) true,
        .insertReplica 3 1 "UPDATE" false none true, .deleteLogRecords 3,
        .applyLogRecords 2 fun _ => .success, .purgeLog 2 .unsupported id]).map
          LogDB.fedLog) = some {1, 2} := by
    decide
  obtain ⟨db, ran, isFedLog⟩ := Option.map_eq_some_iff.mp ran
  have reached : system.Reachable (fun db event => event.Spares db) db := System.reachable_of_exec fresh_initial ran
  exact ⟨db, reached, isFedLog, federated_index db reached⟩

/-- A federated record is truncated after a change of leader: its index stays in
`fed_log`. -/
theorem federated_index_stale : ¬ ∀ db, system.Reachable System.anyStep db → db.Indexed ∧ db.Resolves := by
  intro claim
  have ran : ((system.exec System.anyStep fresh
      [.insertReplica 1 1 "CREATE" false (some 1) true, .deleteLogRecords 1]).map
          fun db => (db.fedLog, db.federatedRows)) = some ({1}, ∅) := by
    decide
  obtain ⟨db, ran, isDb⟩ := Option.map_eq_some_iff.mp ran
  obtain ⟨isFedLog, isRows⟩ := Prod.mk.inj isDb
  have indexed := (claim db (System.reachable_of_exec fresh_initial ran)).1
  rw [Indexed, isFedLog, isRows] at indexed
  exact absurd indexed (by decide)

end LogDB

end OpenNebula.Sql
