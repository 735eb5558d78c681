import OpenNebula.Library.Consensus.Model
import OpenNebula.Sql.LogDB

namespace OpenNebula.Sql

open Library Library.Consensus

/-! # The log as a list of records

The rows 1, 2, ... of `logdb` without gaps are a list of records, and the
mirrored indexes follow from it.  Each operation of `LogDB` is one operation on
that list.
-/

def termAt (log : List LogEntry) : Nat → Option Nat
  | 0 => some 0
  | index + 1 => log[index]?.map LogEntry.term

namespace LogDB

structure Rows (table : Map Nat LogRow) (log : List LogEntry) : Prop where
  boot : ∃ row, table.lookup 0 = some row ∧ row.term = 0
  row : ∀ index, (table.lookup (index + 1)).map LogRow.entry = log[index]?

structure Represents (db : LogDB) (log : List LogEntry) : Prop extends Rows db.table log where
  last : db.lastIndex = log.length
  next : db.nextIndex = log.length + 1
  term : db.lastTerm = lastEpoch LogEntry.term log

def Applied (db : LogDB) (index : Nat) : Prop :=
  ∃ row, db.table.lookup index = some row ∧ row.applied = true

variable {db : LogDB} {table : Map Nat LogRow} {log other : List LogEntry}

variable {index commitIndex : Nat} {row : LogRow} {lr : LogDBRecord} {before after : LogDB}

section

variable (rows : Rows table log)
include rows

theorem Rows.lookup {entry : LogEntry} (found : log[index]? = some entry) :
    ∃ row, table.lookup (index + 1) = some row ∧ row.entry = entry := by
  have stored := rows.row index
  rwa [found, Option.map_eq_some_iff] at stored

theorem Rows.entry {index : Nat} {row : LogRow}
    (found : table.lookup (index + 1) = some row) : log[index]? = some row.entry := by
  rw [← rows.row index, found, Option.map_some]

theorem Rows.absent (beyond : log.length ≤ index) : table.lookup (index + 1) = none := by
  have stored := rows.row index
  rwa [List.getElem?_eq_none beyond, Option.map_eq_none_iff] at stored

theorem Rows.bound (found : table.lookup index = some row) : index ≤ log.length := by
  cases index with
  | zero => exact Nat.zero_le _
  | succ index => exact (List.getElem?_eq_some_iff.1 (rows.entry found)).1

theorem Rows.rowTerm (found : table.lookup index = some row) : termAt log index = some row.term := by
  cases index with
  | zero =>
    obtain ⟨boot, isBoot, zero⟩ := rows.boot
    rw [found, Option.some.injEq] at isBoot
    rw [isBoot, zero]
    rfl
  | succ index => rw [termAt, rows.entry found]; rfl

theorem Rows.present (inside : index ≤ log.length) : ∃ row, table.lookup index = some row := by
  cases index with
  | zero => exact rows.boot.imp fun _ found => found.1
  | succ index =>
    obtain ⟨row, found, _⟩ := rows.lookup (List.getElem?_eq_getElem inside)
    exact ⟨row, found⟩

end

theorem getLogRecord_cases {prevIndex : Nat} (loaded : db.getLogRecord index prevIndex = some lr) :
    ∃ row prevRow, db.table.lookup index = some row ∧
      db.table.lookup (if index = 0 then 0 else prevIndex) = some prevRow ∧
      lr = ⟨index, if index = 0 then 0 else prevIndex, row.term, prevRow.term, row.sqlcmd,
        row.fedIndex⟩ := by
  simp only [getLogRecord] at loaded
  split at loaded
  · rename_i row prevRow found prevFound
    exact ⟨row, prevRow, found, prevFound, (Option.some.inj loaded).symm⟩
  · contradiction

theorem getLogRecord_table (same : after.table = before.table) (index prevIndex : Nat) :
    after.getLogRecord index prevIndex = before.getLogRecord index prevIndex := by
  rw [getLogRecord, getLogRecord, same]

theorem getLogRecord_term {prevRow : LogRow} (stored : db.table.lookup index = some row)
    (prevStored : db.table.lookup (index - 1) = some prevRow) :
    ∃ lr, db.getLogRecord index (index - 1) = some lr ∧ lr.term = row.term := by
  by_cases zero : index = 0
  · subst zero
    exact ⟨⟨0, 0, row.term, row.term, row.sqlcmd, row.fedIndex⟩, by simp [getLogRecord, stored], rfl⟩
  · exact ⟨⟨index, index - 1, row.term, prevRow.term, row.sqlcmd, row.fedIndex⟩,
      by simp only [getLogRecord]; rw [if_neg zero, stored, prevStored], rfl⟩

section

variable (repr : db.Represents log)
include repr

theorem Represents.load {index : Nat} {entry : LogEntry} (found : log[index]? = some entry) :
    ∃ prevTerm, termAt log index = some prevTerm ∧ db.getLogRecord (index + 1) index =
        some ⟨index + 1, index, entry.term, prevTerm, entry.sqlcmd, entry.fedIndex⟩ := by
  obtain ⟨row, stored, rfl⟩ := repr.lookup found
  have inside := (List.getElem?_eq_some_iff.1 found).1
  obtain ⟨prevRow, prevStored⟩ := repr.present (Nat.le_of_lt inside)
  refine ⟨prevRow.term, repr.rowTerm prevStored, ?_⟩
  simp [getLogRecord, stored, prevStored, LogRow.entry]

theorem Represents.load_none (beyond : log.length ≤ index) (prevIndex : Nat) :
    db.getLogRecord (index + 1) prevIndex = none := by
  simp [getLogRecord, repr.absent beyond]

theorem Represents.load_boot (prevIndex : Nat) :
    ∃ lr, db.getLogRecord 0 prevIndex = some lr ∧ lr.index = 0 ∧ lr.prevIndex = 0 ∧
      lr.term = 0 ∧ lr.prevTerm = 0 := by
  obtain ⟨row, stored, zero⟩ := repr.boot
  exact ⟨_, by simp [getLogRecord, stored]; rfl, rfl, rfl, zero, zero⟩

theorem Represents.loadedTerm
    (loaded : db.getLogRecord index (index - 1) = some lr) : termAt log index = some lr.term := by
  obtain ⟨row, _, stored, _, rfl⟩ := getLogRecord_cases loaded
  exact repr.rowTerm stored

theorem Represents.loaded (isLoaded : db.getLogRecord index (index - 1) = some lr) :
    lr.index = index ∧ lr.prevIndex = index - 1 ∧ ((index = 0 ∧ lr.term = 0 ∧ lr.prevTerm = 0) ∨
        (0 < index ∧ log[index - 1]? = some lr.entry ∧ termAt log (index - 1) = some lr.prevTerm)) := by
  obtain ⟨row, prevRow, stored, prevStored, rfl⟩ := getLogRecord_cases isLoaded
  have rowTerm := repr.rowTerm stored
  cases index with
  | zero =>
    have prevTerm := repr.rowTerm prevStored
    simp only [termAt, Option.some.injEq, if_true] at rowTerm prevTerm
    exact ⟨rfl, by simp, .inl ⟨rfl, rowTerm.symm, prevTerm.symm⟩⟩
  | succ index =>
    simp only [Nat.add_one_ne_zero, if_false, Nat.add_one_sub_one] at prevStored ⊢
    exact ⟨trivial, trivial, .inr ⟨Nat.succ_pos _, repr.entry stored, repr.rowTerm prevStored⟩⟩

end

theorem lastEpoch_append (log : List LogEntry) (entry : LogEntry) :
    lastEpoch LogEntry.term (log ++ [entry]) = entry.term := by
  simp [lastEpoch]

/-- The fields that storing and deleting records leave alone. -/
structure Untouched (before after : LogDB) : Prop where
  raftState : after.raftState = before.raftState
  executed : after.executed = before.executed
  lastApplied : after.lastApplied = before.lastApplied
  solo : after.solo = before.solo
  cache : after.cache = before.cache

theorem Untouched.trans {first second third : LogDB} (left : Untouched first second)
    (right : Untouched second third) : Untouched first third :=
  ⟨right.raftState.trans left.raftState, right.executed.trans left.executed,
    right.lastApplied.trans left.lastApplied, right.solo.trans left.solo,
    right.cache.trans left.cache⟩

theorem Represents.noteFederated (repr : db.Represents log) (fedIndex : Option Nat) :
    (noteFederated fedIndex db).Represents log := by
  cases fedIndex with
  | none => exact repr
  | some index => exact ⟨repr.toRows, repr.last, repr.next, repr.term⟩

theorem noteFederated_table (fedIndex : Option Nat) (db : LogDB) : (noteFederated fedIndex db).table = db.table := by
  cases fedIndex <;> rfl

theorem noteFederated_untouched (fedIndex : Option Nat) (same : Untouched before db) :
    Untouched before (noteFederated fedIndex db) := by
  cases fedIndex with
  | none => exact same
  | some index => exact ⟨same.raftState, same.executed, same.lastApplied, same.solo, same.cache⟩

section

variable (repr : db.Represents log)
include repr

theorem Represents.raftState (raftState : Option RaftState) :
    Represents { db with raftState } log :=
  ⟨repr.toRows, repr.last, repr.next, repr.term⟩

theorem Represents.push (row : LogRow) : Represents { db with
      table := db.table.insert (log.length + 1) row
      lastIndex := log.length + 1
      lastTerm := row.term
      nextIndex := log.length + 1 + 1 } (log ++ [row.entry]) where
  boot := by
    obtain ⟨boot, stored, zero⟩ := repr.boot
    exact ⟨boot, by simpa [Map.lookup_insert_eq] using stored, zero⟩
  row := by
    intro index
    simp only [Map.lookup_insert_eq, Nat.add_right_cancel_iff]
    by_cases atEnd : index = log.length
    · subst atEnd; simp
    · rw [if_neg atEnd, repr.row index]
      by_cases inside : index < log.length
      · rw [List.getElem?_append_left inside]
      · rw [List.getElem?_eq_none (by omega), List.getElem?_eq_none (by simp; omega)]
  last := by simp
  next := by simp
  term := (lastEpoch_append log row.entry).symm

def federatedIndex (fedIndex : Option Nat) (index : Nat) : Option Nat :=
  if fedIndex = some 0 then some index else fedIndex

theorem Represents.insertLogRecord (term : Nat) (sql : String)
    (applied : Bool) (fedIndex : Option Nat) :
    ∃ after, db.insertLogRecord term sql applied fedIndex = some (after, log.length + 1) ∧
      after.Represents (log ++ [⟨term, sql, federatedIndex fedIndex (log.length + 1)⟩]) ∧
      after.table = db.table.insert (log.length + 1) ⟨term, sql, federatedIndex fedIndex (log.length + 1), applied⟩ ∧
      Untouched db after := by
  have absent : log.length + 1 ∉ db.table := AList.lookup_eq_none.1 (repr.absent (Nat.le_refl _))
  have pushed := repr.push ⟨term, sql, federatedIndex fedIndex (log.length + 1), applied⟩
  refine ⟨LogDB.noteFederated (federatedIndex fedIndex (log.length + 1)) _, ?_,
    pushed.noteFederated _, noteFederated_table _ _,
    noteFederated_untouched _ ⟨rfl, rfl, rfl, rfl, rfl⟩⟩
  simp only [LogDB.insertLogRecord, LogDB.insert, repr.next, absent, not_false_eq_true, or_true,
    if_true, federatedIndex]

theorem Represents.insertReplica (entry : LogEntry) :
    ∃ after, db.insertReplica (log.length + 1) entry.term entry.sqlcmd false entry.fedIndex true = some after ∧
      after.Represents (log ++ [entry]) ∧ after.table = db.table.insert (log.length + 1)
        ⟨entry.term, entry.sqlcmd, entry.fedIndex, false⟩ ∧ Untouched db after := by
  have pushed := repr.push ⟨entry.term, entry.sqlcmd, entry.fedIndex, false⟩
  have isNew : db.lastIndex < log.length + 1 := by rw [repr.last]; exact Nat.lt_succ_self _
  refine ⟨LogDB.noteFederated entry.fedIndex _, ?_, pushed.noteFederated _, noteFederated_table _ _,
    noteFederated_untouched _ ⟨rfl, rfl, rfl, rfl, rfl⟩⟩
  simp only [LogDB.insertReplica, LogDB.noteReplica, LogDB.insert, true_or, if_true, isNew, Option.map_some]

end

theorem deleteLogRecords_table (db : LogDB) (startIndex : Nat) : (db.deleteLogRecords startIndex).table =
      Map.filter (fun index _ => index < startIndex) db.table := by
  simp only [deleteLogRecords]
  split <;> rfl

theorem lookup_deleteLogRecords (db : LogDB) (startIndex index : Nat) :
    (db.deleteLogRecords startIndex).table.lookup index =
      if index < startIndex then db.table.lookup index else none := by
  rw [deleteLogRecords_table, Map.lookup_filter]
  split
  · rename_i below
    cases db.table.lookup index <;> simp [below]
  · rename_i above
    cases db.table.lookup index <;> simp [above]

theorem termAt_le {term : Nat} (isTerm : termAt log index = some term) : index ≤ log.length := by
  cases index with
  | zero => exact Nat.zero_le _
  | succ before =>
    rw [termAt, Option.map_eq_some_iff] at isTerm
    obtain ⟨entry, found, _⟩ := isTerm
    exact (List.getElem?_eq_some_iff.1 found).1

theorem lastEpoch_termAt (log : List LogEntry) : termAt log log.length = some (lastEpoch LogEntry.term log) := by
  rcases List.eq_nil_or_concat log with rfl | ⟨front, last, rfl⟩
  · rfl
  · simp [termAt, lastEpoch]

theorem deleteLogRecords_indexes {index : Nat} {row prevRow : LogRow}
    (stored : (db.deleteLogRecords (index + 1)).table.lookup index = some row)
    (prevStored : (db.deleteLogRecords (index + 1)).table.lookup (index - 1) = some prevRow) :
    (db.deleteLogRecords (index + 1)).nextIndex = index + 1 ∧ (db.deleteLogRecords (index + 1)).lastIndex = index ∧
      (db.deleteLogRecords (index + 1)).lastTerm = row.term := by
  rw [deleteLogRecords_table] at stored prevStored
  obtain ⟨lr, loaded, isTerm⟩ := @getLogRecord_term
    { db with
      table := Map.filter (fun key _ => key < index + 1) db.table
      nextIndex := index + 1
      lastIndex := index } index row prevRow stored prevStored
  simp only [deleteLogRecords, Nat.add_one_sub_one, loaded]
  exact ⟨trivial, trivial, isTerm⟩

theorem deleteLogRecords_untouched (db : LogDB) (startIndex : Nat) :
    Untouched db (db.deleteLogRecords startIndex) := by
  simp only [deleteLogRecords]
  split <;> exact ⟨rfl, rfl, rfl, rfl, rfl⟩

theorem Represents.deleteLogRecords (repr : db.Represents log) (inside : index < log.length) :
    (db.deleteLogRecords (index + 1)).Represents (log.take index) := by
  have length : (log.take index).length = index := by
    rw [List.length_take]; omega
  have boot : ∃ row, (db.deleteLogRecords (index + 1)).table.lookup 0 = some row ∧
      row.term = 0 := by
    obtain ⟨row, stored, zero⟩ := repr.boot
    exact ⟨row, by rw [lookup_deleteLogRecords, if_pos (Nat.succ_pos _)]; exact stored, zero⟩
  have rows : ∀ position, ((db.deleteLogRecords (index + 1)).table.lookup (position + 1)).map
      LogRow.entry = (log.take index)[position]? := by
    intro position
    rw [lookup_deleteLogRecords, List.getElem?_take]
    by_cases below : position < index
    · rw [if_pos below, if_pos (Nat.succ_lt_succ below), repr.row position]
    · rw [if_neg below, if_neg (by omega), Option.map_none]
  have kept : ∀ position ≤ index, ∃ row, db.table.lookup position = some row ∧
      (db.deleteLogRecords (index + 1)).table.lookup position = some row := by
    intro position within
    obtain ⟨row, stored⟩ := repr.present (within.trans inside.le)
    exact ⟨row, stored, by rw [lookup_deleteLogRecords, if_pos (by omega)]; exact stored⟩
  obtain ⟨row, stored, rowKept⟩ := kept index (Nat.le_refl _)
  obtain ⟨prevRow, _, prevKept⟩ := kept (index - 1) (Nat.sub_le _ _)
  have lastTerm : row.term = lastEpoch LogEntry.term (log.take index) := by
    have atLast := lastEpoch_termAt (log.take index)
    have atRow := repr.rowTerm stored
    rw [length] at atLast
    cases index with
    | zero => rw [← Option.some.inj atLast, ← Option.some.inj atRow]
    | succ position =>
      rw [termAt] at atLast atRow
      rw [List.getElem?_take, if_pos (Nat.lt_succ_self _), atRow] at atLast
      exact Option.some.inj atLast
  obtain ⟨isNext, isLast, isTerm⟩ := deleteLogRecords_indexes rowKept prevKept
  exact ⟨⟨boot, rows⟩, isLast.trans length.symm, by rw [isNext, length], isTerm.trans lastTerm⟩

theorem Represents.deleteLogRecords_end (repr : db.Represents log) : db.deleteLogRecords (log.length + 1) = db := by
  have kept : Map.filter (fun index _ => index < log.length + 1) db.table = db.table := by
    refine AList.ext (List.filter_eq_self.2 fun row stored => ?_)
    have found := AList.mem_lookup_iff.2 stored
    exact decide_eq_true (Nat.lt_succ_of_le (repr.bound found))
  obtain ⟨row, stored⟩ := repr.present (Nat.le_refl _)
  obtain ⟨_, prevStored⟩ := repr.present (Nat.sub_le log.length 1)
  obtain ⟨lr, loaded, isTerm⟩ := getLogRecord_term stored prevStored
  have lastTerm : lr.term = db.lastTerm := by
    rw [isTerm, repr.term, ← Option.some.injEq, ← repr.rowTerm stored, lastEpoch_termAt]
  have same : { db with nextIndex := log.length + 1, lastIndex := log.length } = db := by
    rw [← repr.next, ← repr.last]
  simp only [LogDB.deleteLogRecords, kept, Nat.add_sub_cancel, same, loaded, lastTerm]

structure Stored (log : List LogEntry) (index : Nat) (entry : LogEntry) (before after : LogDB) :
    Prop where
  repr : after.Represents (log.take index ++ [entry])
  row : ∀ other, after.table.lookup other =
    if other = index + 1 then some ⟨entry.term, entry.sqlcmd, entry.fedIndex, false⟩
    else if other ≤ index then before.table.lookup other else none
  untouched : Untouched before after

theorem Represents.extend (repr : db.Represents log) (entry : LogEntry) :
    ∃ after, db.insertReplica (log.length + 1) entry.term entry.sqlcmd false entry.fedIndex true =
        some after ∧ Stored log log.length entry db after := by
  obtain ⟨after, inserted, reprAfter, table, untouched⟩ := repr.insertReplica entry
  refine ⟨after, inserted, by simpa using reprAfter, fun other => ?_, untouched⟩
  rw [table, Map.lookup_insert_eq]
  split
  · rfl
  · split
    · rfl
    · obtain ⟨index, rfl⟩ : ∃ index, other = index + 1 := ⟨other - 1, by omega⟩
      exact repr.absent (by omega)

theorem Represents.replace (repr : db.Represents log) (entry : LogEntry) (inside : index < log.length) :
    ∃ after, (db.deleteLogRecords (index + 1)).insertReplica (index + 1) entry.term entry.sqlcmd
        false entry.fedIndex true = some after ∧ Stored log index entry db after := by
  have cut := repr.deleteLogRecords inside
  have length : (log.take index).length = index := by rw [List.length_take]; omega
  obtain ⟨after, inserted, stored⟩ := cut.extend entry
  rw [length] at inserted stored
  refine ⟨after, inserted, by simpa [List.take_take] using stored.repr, fun other => ?_,
    (deleteLogRecords_untouched db _).trans stored.untouched⟩
  rw [stored.row other, lookup_deleteLogRecords]
  split
  · rfl
  · split
    · rw [if_pos (by omega)]
    · rfl

theorem maxIndex_eq_some {rows : Map Nat LogRow} : maxIndex rows = some index ↔
      (∃ row, rows.lookup index = some row) ∧ ∀ other row, rows.lookup other = some row → other ≤ index := by
  rw [maxIndex, List.max?_eq_some_iff, Map.mem_keys_iff]
  refine and_congr_right fun _ => ⟨fun above other row stored => ?_, fun above other isKey => ?_⟩
  · exact above other (Map.mem_keys_iff.2 ⟨row, stored⟩)
  · obtain ⟨row, stored⟩ := Map.mem_keys_iff.1 isKey
    exact above other row stored

theorem Rows.maxIndex (rows : Rows table log) : LogDB.maxIndex table = some log.length :=
  maxIndex_eq_some.2 ⟨rows.present (Nat.le_refl _), fun _ _ stored => rows.bound stored⟩

def appliedIndex (db : LogDB) : Nat := (maxApplied db.table).getD 0

theorem appliedIndex_cases (db : LogDB) : db.appliedIndex = 0 ∨ db.Applied db.appliedIndex := by
  rw [appliedIndex]
  cases largest : maxApplied db.table with
  | none => exact .inl rfl
  | some index =>
    right
    obtain ⟨row, stored⟩ := (maxIndex_eq_some.1 largest).1
    rw [Map.lookup_filter, Option.filter_eq_some_iff] at stored
    exact ⟨row, stored⟩

theorem Applied.le_appliedIndex (applied : db.Applied index) : index ≤ db.appliedIndex := by
  obtain ⟨row, stored, marked⟩ := applied
  have kept : (Map.filter (fun _ row => row.applied) db.table).lookup index = some row := by
    rw [Map.lookup_filter, Option.filter_eq_some_iff]
    exact ⟨stored, marked⟩
  rw [appliedIndex]
  cases largest : maxApplied db.table with
  | none =>
    have absent := List.max?_eq_none_iff.1 largest
    have isKey := Map.mem_keys_iff.2 ⟨row, kept⟩
    rw [absent] at isKey
    cases isKey
  | some largestIndex => exact (maxIndex_eq_some.1 largest).2 index row kept

theorem Rows.appliedIndex_le (rows : Rows db.table log) : db.appliedIndex ≤ log.length := by
  rcases db.appliedIndex_cases with zero | ⟨row, stored, _⟩
  · rw [zero]; exact Nat.zero_le _
  · exact rows.bound stored

theorem Rows.setupIndex (rows : Rows db.table log) :
    db.setupIndex.1.Represents log ∧ db.setupIndex.2 = (db.appliedIndex, log.length) ∧
      db.setupIndex.1.table = db.table ∧ db.setupIndex.1.lastApplied = db.appliedIndex ∧
      db.setupIndex.1.raftState = db.raftState ∧ db.setupIndex.1.executed = db.executed ∧
      db.setupIndex.1.solo = db.solo ∧ db.setupIndex.1.cache = db.cache := by
  obtain ⟨row, stored⟩ := rows.present (Nat.le_refl _)
  obtain ⟨prevRow, prevStored⟩ := rows.present (Nat.sub_le log.length 1)
  obtain ⟨lr, loaded, isTerm⟩ := @getLogRecord_term
    { db with
      nextIndex := log.length + 1
      lastIndex := log.length
      lastApplied := db.appliedIndex } log.length row prevRow stored prevStored
  have lastTerm : lr.term = lastEpoch LogEntry.term log := by
    have atRow := rows.rowTerm stored
    rw [lastEpoch_termAt, Option.some.injEq] at atRow
    rw [isTerm, atRow]
  simp only [appliedIndex] at loaded
  simp only [LogDB.setupIndex, rows.maxIndex, Option.getD_some, loaded, buildFederatedIndex, appliedIndex]
  exact ⟨⟨rows, rfl, rfl, lastTerm⟩, trivial, trivial, trivial, trivial, trivial, trivial, trivial⟩

inductive ApplyRun (log : List LogEntry) (commitIndex : Nat) : LogDB → LogDB → Prop where
  | done (db : LogDB) : ApplyRun log commitIndex db db
  | next {db after : LogDB} {lr : LogDBRecord} (below : db.lastApplied < commitIndex)
      (index : lr.index = db.lastApplied + 1) (found : log[db.lastApplied]? = some lr.entry)
      (rest : ApplyRun log commitIndex (db.markApplied lr) after) :
      ApplyRun log commitIndex db after

theorem lookup_markApplied (db : LogDB) (lr : LogDBRecord) (index : Nat) :
    (db.markApplied lr).table.lookup index = (db.table.lookup index).map fun row =>
      if index = lr.index then { row with applied := true } else row :=
  Map.lookup_modify _ _ _

theorem Represents.markApplied (repr : db.Represents log) (lr : LogDBRecord) :
    (db.markApplied lr).Represents log where
  boot := by
    obtain ⟨row, stored, zero⟩ := repr.boot
    refine ⟨_, by rw [lookup_markApplied, stored]; rfl, ?_⟩
    split <;> exact zero
  row := by
    intro index
    rw [lookup_markApplied, ← repr.row index, Option.map_map]
    congr 1
    funext row
    simp only [Function.comp]
    split <;> rfl
  last := repr.last
  next := repr.next
  term := repr.term

theorem applyLoop_run (commitIndex : Nat) (rc : Nat → SqlError) (turns : Nat) (repr : db.Represents log) :
    ApplyRun log commitIndex db (applyLoop commitIndex rc turns db).1 := by
  induction turns generalizing db with
  | zero => exact .done db
  | succ turns ih =>
    rw [applyLoop]
    split
    · rename_i below
      cases loaded : db.getLogRecord (db.lastApplied + 1) db.lastApplied with
      | none => exact .done db
      | some lr =>
        obtain ⟨index, _, isRecord⟩ := repr.loaded loaded
        have found : log[db.lastApplied]? = some lr.entry := by
          rcases isRecord with ⟨zero, _⟩ | ⟨_, found, _⟩
          · omega
          · exact found
        have after := ih (repr.markApplied lr)
        have once : ApplyRun log commitIndex db (db.markApplied lr) := .next below index found (.done _)
        cases outcome : rc lr.index with
        | success | sqlDupKey => simpa [applyLogRecord, outcome] using .next below index found after
        | sql => simpa [applyLogRecord, outcome] using once
        | internal | connection => simpa [applyLogRecord, outcome] using .done db
    · exact .done db

theorem Represents.applyLogRecords (repr : db.Represents log) (commitIndex : Nat)
    (rc : Nat → SqlError) : ApplyRun log commitIndex db (db.applyLogRecords commitIndex rc).1 :=
  applyLoop_run commitIndex rc _ repr

theorem applyLoop_success {rc : Nat → SqlError} {turns : Nat} (enough : commitIndex - db.lastApplied ≤ turns)
    (success : (applyLoop commitIndex rc turns db).2 = true) :
    commitIndex ≤ (applyLoop commitIndex rc turns db).1.lastApplied := by
  induction turns generalizing db with
  | zero => simp only [applyLoop]; omega
  | succ turns ih =>
    rw [applyLoop] at success ⊢
    split at success
    · rename_i below
      rw [if_pos below]
      cases loaded : db.getLogRecord (db.lastApplied + 1) db.lastApplied with
      | none => simp [loaded] at success
      | some lr =>
        obtain ⟨row, prevRow, _, _, rfl⟩ := getLogRecord_cases loaded
        simp only [loaded] at success ⊢
        generalize isOutcome : rc _ = outcome at success ⊢
        cases outcome with
        | success | sqlDupKey => exact ih (by simp only [markApplied]; omega) success
        | sql | internal | connection => simp [applyLogRecord] at success
    · rename_i above
      rw [if_neg above]
      exact Nat.le_of_not_lt above

theorem applyLogRecords_success {rc : Nat → SqlError} (success : (db.applyLogRecords commitIndex rc).2 = true) :
    commitIndex ≤ (db.applyLogRecords commitIndex rc).1.lastApplied :=
  applyLoop_success (Nat.le_refl _) success

theorem ApplyRun.represents (ran : ApplyRun log commitIndex before after) (repr : before.Represents log) :
    after.Represents log := by
  induction ran with
  | done db => exact repr
  | next _ _ _ _ ih => exact ih (repr.markApplied _)

theorem ApplyRun.same (ran : ApplyRun log commitIndex before after) :
    after.raftState = before.raftState ∧ after.solo = before.solo ∧ after.cache = before.cache := by
  induction ran with
  | done db => exact ⟨rfl, rfl, rfl⟩
  | next _ _ _ _ ih => exact ih

/-- The records marked as applied were executed. -/
def Recorded (db : LogDB) : Prop :=
  ∀ index row, db.table.lookup (index + 1) = some row → row.applied = true →
    (index + 1, row.entry) ∈ db.executed

theorem Recorded.markApplied (recorded : db.Recorded) (repr : db.Represents log)
    (isIndex : lr.index = db.lastApplied + 1) (found : log[db.lastApplied]? = some lr.entry) :
    (db.markApplied lr).Recorded := by
  intro index row stored marked
  rw [lookup_markApplied, Option.map_eq_some_iff] at stored
  obtain ⟨before, isBefore, rfl⟩ := stored
  by_cases here : index + 1 = lr.index
  · have isEntry := repr.entry isBefore
    have same : index = db.lastApplied := by omega
    rw [same, found, Option.some.injEq] at isEntry
    refine List.mem_append_right _ (List.mem_singleton.2 ?_)
    rw [if_pos here, ← here, isEntry]
    rfl
  · rw [if_neg here] at marked ⊢
    exact List.mem_append_left _ (recorded index before isBefore marked)

theorem Applied.markApplied (applied : db.Applied index) (lr : LogDBRecord) : (db.markApplied lr).Applied index := by
  obtain ⟨row, stored, marked⟩ := applied
  refine ⟨_, by rw [lookup_markApplied, stored]; rfl, ?_⟩
  split
  · rfl
  · exact marked

theorem applied_markApplied (repr : db.Represents log) (isIndex : lr.index = db.lastApplied + 1)
    (found : log[db.lastApplied]? = some lr.entry) : (db.markApplied lr).Applied lr.index := by
  obtain ⟨row, stored, _⟩ := repr.lookup found
  rw [← isIndex] at stored
  exact ⟨_, by rw [lookup_markApplied, stored]; rfl, by simp⟩

theorem Applied.of_markApplied (applied : (db.markApplied lr).Applied index) :
    index = lr.index ∨ db.Applied index := by
  obtain ⟨row, stored, marked⟩ := applied
  rw [lookup_markApplied, Option.map_eq_some_iff] at stored
  obtain ⟨before, isBefore, rfl⟩ := stored
  by_cases here : index = lr.index
  · exact .inl here
  · rw [if_neg here] at marked
    exact .inr ⟨before, isBefore, marked⟩

theorem ApplyRun.recorded (ran : ApplyRun log commitIndex before after) (repr : before.Represents log)
    (recorded : before.Recorded) : after.Recorded := by
  induction ran with
  | done db => exact recorded
  | next _ index found _ ih =>
    exact ih (repr.markApplied _) (recorded.markApplied repr index found)

theorem ApplyRun.applied {commitIndex index : Nat} {before after : LogDB}
    (ran : ApplyRun log commitIndex before after) (applied : before.Applied index) : after.Applied index := by
  induction ran with
  | done db => exact applied
  | next _ _ _ _ ih => exact ih (applied.markApplied _)

theorem ApplyRun.passed {commitIndex index : Nat} {before after : LogDB}
    (ran : ApplyRun log commitIndex before after) (repr : before.Represents log)
    (above : before.lastApplied < index) (passed : index ≤ after.lastApplied) : after.Applied index := by
  induction ran with
  | done db => omega
  | @next db after lr _ isIndex found rest ih =>
    have marked : (db.markApplied lr).lastApplied = lr.index := rfl
    by_cases here : index = lr.index
    · rw [here]; exact rest.applied (applied_markApplied repr isIndex found)
    · exact ih (repr.markApplied _) (by omega) passed

theorem load_represents (rows : Rows db.table log) (solo cache : Bool)
    (raftState : Option RaftState) (executed : List (Nat × LogEntry)) (now : String) :
    let loaded := load solo cache db.table raftState executed now
    loaded.Represents log ∧ loaded.table = db.table ∧ loaded.lastApplied = db.appliedIndex ∧
      loaded.raftState = raftState ∧ loaded.executed = executed ∧ loaded.solo = solo ∧
      loaded.cache = cache := by
  obtain ⟨boot, stored, _⟩ := rows.boot
  let opened : LogDB := { solo, cache, table := db.table, raftState, executed,
                          nextIndex := 0, lastApplied := 0, lastIndex := 0, lastTerm := 0,
                          fedLog := ∅ }
  have isLoad : load solo cache db.table raftState executed now = opened.setupIndex.1 := by
    simp [load, getLogRecord, stored, opened]
  have openedRows : Rows opened.table log := rows
  obtain ⟨repr, _, same, applied, state, ran, isSolo, isCache⟩ := openedRows.setupIndex
  intro loaded
  rw [show loaded = opened.setupIndex.1 from isLoad]
  exact ⟨repr, same, applied, state, ran, isSolo, isCache⟩

theorem load_empty (raftState : Option RaftState) (now : String) : let loaded := load false false ∅ raftState [] now
    loaded.Represents [] ∧ loaded.table.lookup 0 = some ⟨0, now, none, true⟩ ∧
      loaded.lastApplied = 0 ∧ loaded.raftState = raftState ∧ loaded.executed = [] ∧
      loaded.solo = false ∧ loaded.cache = false := by
  let opened : LogDB := { solo := false, cache := false,
                          table := AList.insert 0 ⟨0, now, none, true⟩ ∅, raftState,
                          executed := [], nextIndex := 0, lastApplied := 0, lastIndex := 0,
                          lastTerm := 0, fedLog := ∅ }
  have stored : opened.table.lookup 0 = some ⟨0, now, none, true⟩ := AList.lookup_insert _
  have rows : Rows opened.table [] := by
    refine ⟨⟨_, stored, rfl⟩, fun index => ?_⟩
    rw [show opened.table = AList.insert 0 ⟨0, now, none, true⟩ ∅ from rfl, Map.lookup_insert_eq]
    simp
  have isLoad : load false false ∅ raftState [] now = opened.setupIndex.1 := by
    simp [load, getLogRecord, insertReplica, noteReplica, LogDB.insert, noteFederated, opened]
  obtain ⟨repr, _, same, applied, state, ran, solo, cache⟩ := rows.setupIndex
  have none : opened.appliedIndex = 0 := Nat.le_zero.1 rows.appliedIndex_le
  intro loaded
  rw [show loaded = opened.setupIndex.1 from isLoad]
  exact ⟨repr, by rw [same]; exact stored, applied.trans none, state, ran, solo, cache⟩

end LogDB

end OpenNebula.Sql
