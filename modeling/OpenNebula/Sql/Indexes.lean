import OpenNebula.Sql.FederatedIndex

namespace OpenNebula.Sql

open Library

/-! # The indexes in memory and the log table

`next_index`, `last_index`, `last_term` and `last_applied` are read from the table
once, by `setup_index`, and then moved by each operation.  The operations trust
their callers: a replica inserts the record after its last one, and truncates
records that are in its log and were not applied.
-/

namespace LogDB

variable {db after : LogDB}

/-- The indexes in memory are those of the table. -/
structure IndexMirror (db : LogDB) : Prop where
  next : db.nextIndex = db.lastIndex + 1
  last : maxIndex db.table = some db.lastIndex
  term : (db.table.lookup db.lastIndex).map LogRow.term = some db.lastTerm
  applied : maxApplied db.table = some db.lastApplied
  contiguous : ∀ index, db.lastApplied < index → index ≤ db.lastIndex → index ∈ db.table

structure WellFormed (table : Map Nat LogRow) (lastApplied lastIndex : Nat) : Prop where
  applied : maxApplied table = some lastApplied
  last : maxIndex table = some lastIndex
  previous : lastApplied = 0 ∨ lastApplied - 1 ∈ table
  contiguous : ∀ index, lastApplied < index → index ≤ lastIndex → index ∈ table

/-- `IndexMirror` row by row, with the record before the last applied one. -/
structure Counted (db : LogDB) : Prop where
  next : db.nextIndex = db.lastIndex + 1
  term : ∃ row, db.table.lookup db.lastIndex = some row ∧ row.term = db.lastTerm
  bound : ∀ index row, db.table.lookup index = some row → index ≤ db.lastIndex
  applied : db.Applied db.lastApplied
  above : ∀ index, db.Applied index → index ≤ db.lastApplied
  contiguous : ∀ index, db.lastApplied < index → index ≤ db.lastIndex →
    ∃ row, db.table.lookup index = some row
  previous : db.lastApplied = 0 ∨ ∃ row, db.table.lookup (db.lastApplied - 1) = some row

variable {index : Nat}

theorem lookup_applied {table : Map Nat LogRow} {row : LogRow} :
    (Map.filter (fun _ row => row.applied) table).lookup index = some row ↔
      table.lookup index = some row ∧ row.applied = true := by
  rw [Map.lookup_filter, Option.filter_eq_some_iff]

theorem maxApplied_eq_some : maxApplied db.table = some index ↔
      db.Applied index ∧ ∀ other, db.Applied other → other ≤ index := by
  rw [maxApplied, maxIndex_eq_some]
  simp only [lookup_applied]
  exact and_congr_right fun _ =>
    ⟨fun above other ⟨row, stored⟩ => above other row stored, fun above other row stored => above other ⟨row, stored⟩⟩

theorem mem_table {table : Map Nat LogRow} : index ∈ table ↔ ∃ row, table.lookup index = some row := by
  rw [← AList.lookup_isSome, Option.isSome_iff_exists]

theorem Counted.mirror (counted : db.Counted) : db.IndexMirror where
  next := counted.next
  last := by
    obtain ⟨row, stored, -⟩ := counted.term
    exact maxIndex_eq_some.2 ⟨⟨row, stored⟩, counted.bound⟩
  term := by
    obtain ⟨row, stored, isTerm⟩ := counted.term
    rw [stored, Option.map_some, isTerm]
  applied := maxApplied_eq_some.2 ⟨counted.applied, counted.above⟩
  contiguous index above within := mem_table.2 (counted.contiguous index above within)

theorem Counted.le (counted : db.Counted) : db.lastApplied ≤ db.lastIndex := by
  obtain ⟨row, stored, -⟩ := counted.applied
  exact counted.bound _ row stored

theorem Counted.present (counted : db.Counted) (low : db.lastApplied ≤ index + 1)
    (high : index ≤ db.lastIndex) : ∃ row, db.table.lookup index = some row := by
  rcases Nat.lt_trichotomy db.lastApplied index with above | same | below
  · exact counted.contiguous index above high
  · obtain ⟨row, stored, -⟩ := counted.applied
    exact ⟨row, same ▸ stored⟩
  · rcases counted.previous with zero | isPrevious
    · omega
    · rwa [show db.lastApplied - 1 = index by omega] at isPrevious

theorem WellFormed.setupIndex {applied last : Nat} (wellFormed : WellFormed db.table applied last) :
    db.setupIndex.1.Counted := by
  obtain ⟨⟨row, stored⟩, bound⟩ := maxIndex_eq_some.1 wellFormed.last
  obtain ⟨isApplied, above⟩ := maxApplied_eq_some.1 wellFormed.applied
  obtain ⟨appliedRow, appliedStored, -⟩ := id isApplied
  have within : applied ≤ last := bound applied appliedRow appliedStored
  have previous : ∃ prevRow, db.table.lookup (last - 1) = some prevRow := by
    rcases Nat.lt_or_ge applied (last - 1) with below | beyond
    · exact mem_table.1 (wellFormed.contiguous _ below (Nat.sub_le _ _))
    rcases Nat.lt_or_ge (last - 1) applied with under | least
    · rcases wellFormed.previous with zero | isPrevious
      · omega
      · have same : applied - 1 = last - 1 := by omega
        exact mem_table.1 (same ▸ isPrevious)
    · have same : last - 1 = applied := Nat.le_antisymm beyond least
      exact ⟨appliedRow, by rw [same]; exact appliedStored⟩
  obtain ⟨prevRow, prevStored⟩ := previous
  obtain ⟨lr, loaded, isTerm⟩ := @getLogRecord_term
    { db with nextIndex := last + 1, lastIndex := last, lastApplied := applied }
    last row prevRow stored prevStored
  simp only [LogDB.setupIndex, wellFormed.last, wellFormed.applied, Option.getD_some, loaded]
  exact
    { next := rfl
      term := ⟨row, stored, isTerm.symm⟩
      bound := bound
      applied := isApplied
      above := above
      contiguous := fun index beyond inside => mem_table.1 (wellFormed.contiguous index beyond inside)
      previous := wellFormed.previous.imp_right mem_table.1 }

theorem Counted.setupIndex (counted : db.Counted) : db.setupIndex.1.Counted :=
  @WellFormed.setupIndex db db.lastApplied db.lastIndex
    { applied := counted.mirror.applied
      last := counted.mirror.last
      previous := counted.previous.imp_right mem_table.2
      contiguous := counted.mirror.contiguous }

theorem applied_iff {row : LogRow} (stored : db.table.lookup index = some row) :
    db.Applied index ↔ row.applied = true := by
  constructor
  · rintro ⟨other, isOther, marked⟩
    rw [stored] at isOther
    exact Option.some.inj isOther ▸ marked
  · exact fun marked => ⟨row, stored, marked⟩

section

variable (counted : db.Counted)
include counted

theorem Counted.push (row : LogRow) (table : ∀ index, after.table.lookup index =
      if index = db.lastIndex + 1 then some row else db.table.lookup index)
    (next : after.nextIndex = db.lastIndex + 2) (last : after.lastIndex = db.lastIndex + 1)
    (term : after.lastTerm = row.term)
    (lastApplied : after.lastApplied = if row.applied then db.lastIndex + 1 else db.lastApplied) :
    after.Counted := by
  have atLast : after.table.lookup (db.lastIndex + 1) = some row := by rw [table, if_pos rfl]
  have kept {index : Nat} (inside : index ≤ db.lastIndex) :
      after.table.lookup index = db.table.lookup index := by
    rw [table, if_neg (by omega)]
  have le := counted.le
  have bound (index : Nat) (other : LogRow) (stored : after.table.lookup index = some other) :
      index ≤ db.lastIndex + 1 := by
    rw [table] at stored
    split at stored
    · omega
    · exact Nat.le_succ_of_le (counted.bound index other stored)
  have keptApplied {index : Nat} (inside : index ≤ db.lastIndex) :
      after.Applied index ↔ db.Applied index := by
    simp only [Applied, kept inside]
  have isNext : after.nextIndex = after.lastIndex + 1 := by rw [next, last]
  have isTerm : ∃ found, after.table.lookup after.lastIndex = some found ∧
      found.term = after.lastTerm :=
    ⟨row, by rw [last]; exact atLast, term.symm⟩
  rw [← last] at bound
  cases isApplied : row.applied with
  | true =>
    rw [isApplied, if_pos rfl, ← last] at lastApplied
    refine ⟨isNext, isTerm, bound, ⟨row, by rw [lastApplied, last]; exact atLast, isApplied⟩,
      fun index ⟨other, stored, _⟩ => by rw [lastApplied]; exact bound index other stored,
      fun index beyond inside => by omega, .inr ?_⟩
    rw [lastApplied, last, Nat.add_one_sub_one, kept (Nat.le_refl _)]
    exact counted.present (by omega) (Nat.le_refl _)
  | false =>
    rw [isApplied, if_neg (by decide)] at lastApplied
    refine ⟨isNext, isTerm, bound, lastApplied.symm ▸ (keptApplied le).2 counted.applied,
      fun index applied => ?_, fun index beyond inside => ?_, ?_⟩
    all_goals rw [lastApplied] at *
    · by_cases isNew : index = db.lastIndex + 1
      · subst isNew
        rw [applied_iff atLast, isApplied] at applied
        cases applied
      · obtain ⟨other, stored, -⟩ := id applied
        have atMost := bound index other stored
        exact counted.above index ((keptApplied (by omega)).1 applied)
    · rw [last] at inside
      by_cases isNew : index = db.lastIndex + 1
      · exact ⟨row, isNew ▸ atLast⟩
      · rw [kept (by omega)]
        exact counted.contiguous index beyond (by omega)
    · rw [kept (by omega)]
      exact counted.previous

theorem Counted.put {position : Nat} {row : LogRow} (inside : position ≤ db.lastIndex) (fresh : row.applied = false)
    (isOpen : position ∈ db.table → db.lastApplied < position ∧ (position = db.lastIndex → row.term = db.lastTerm))
    (table : ∀ index, after.table.lookup index = if index = position then some row else db.table.lookup index)
    (next : after.nextIndex = db.nextIndex) (last : after.lastIndex = db.lastIndex)
    (term : after.lastTerm = db.lastTerm) (lastApplied : after.lastApplied = db.lastApplied) : after.Counted := by
  have present {index : Nat} (isRow : ∃ other, db.table.lookup index = some other) :
      ∃ other, after.table.lookup index = some other := by
    rw [table]
    split
    · exact ⟨row, rfl⟩
    · exact isRow
  have appliedBefore {index : Nat} (applied : after.Applied index) : db.Applied index := by
    obtain ⟨other, stored, marked⟩ := applied
    rw [table] at stored
    split at stored
    · rw [← Option.some.inj stored, fresh] at marked
      cases marked
    · exact ⟨other, stored, marked⟩
  obtain ⟨lastRow, lastStored, isTerm⟩ := counted.term
  obtain ⟨appliedRow, appliedStored, marked⟩ := counted.applied
  have apart : db.lastApplied ≠ position := by
    rintro rfl
    exact Nat.lt_irrefl _ (isOpen (mem_table.2 ⟨appliedRow, appliedStored⟩)).1
  refine ⟨by rw [next, last]; exact counted.next, ?_, fun index other stored => ?_,
    ⟨appliedRow, by rw [lastApplied, table, if_neg apart]; exact appliedStored, marked⟩,
    fun index applied => by rw [lastApplied]; exact counted.above index (appliedBefore applied),
    fun index beyond within => ?_, ?_⟩
  · rw [last, table, term]
    split
    · rename_i here
      exact ⟨row, rfl, (isOpen (mem_table.2 ⟨lastRow, here ▸ lastStored⟩)).2 here.symm⟩
    · exact ⟨lastRow, lastStored, isTerm⟩
  · rw [table] at stored
    rw [last]
    split at stored
    · rename_i here
      exact here ▸ inside
    · exact counted.bound index other stored
  · rw [lastApplied] at beyond
    rw [last] at within
    exact present (counted.contiguous index beyond within)
  · rw [lastApplied]
    exact counted.previous.imp_right present

theorem Counted.free : db.nextIndex ∉ db.table := by
  intro taken
  obtain ⟨row, stored⟩ := mem_table.1 taken
  have bound := counted.bound _ row stored
  have next := counted.next
  omega

theorem Counted.insertLogRecord (term : Nat) (sql : String) (applied : Bool) (fedIndex : Option Nat) :
    ∃ stored row, db.insertLogRecord term sql applied fedIndex = some (stored, db.nextIndex) ∧
      row.applied = applied ∧ row.term = term ∧ stored.nextIndex = db.lastIndex + 2 ∧
      stored.lastIndex = db.lastIndex + 1 ∧ stored.lastTerm = term ∧ stored.lastApplied = db.lastApplied ∧
      ∀ index, stored.table.lookup index = if index = db.lastIndex + 1 then some row else db.table.lookup index := by
  have free : db.lastIndex + 1 ∉ db.table := counted.next ▸ counted.free
  have fields (fed : Option Nat) (noted : LogDB) :
      (LogDB.noteFederated fed noted).nextIndex = noted.nextIndex ∧
        (LogDB.noteFederated fed noted).lastIndex = noted.lastIndex ∧
        (LogDB.noteFederated fed noted).lastTerm = noted.lastTerm ∧
        (LogDB.noteFederated fed noted).lastApplied = noted.lastApplied := by
    cases fed <;> exact ⟨rfl, rfl, rfl, rfl⟩
  refine ⟨_, ⟨term, sql, federatedIndex fedIndex (db.lastIndex + 1), applied⟩, by
    simp only [LogDB.insertLogRecord, LogDB.insert, counted.next, free, not_false_eq_true, or_true, if_true]
    rfl, rfl, rfl, ?_⟩
  simp only [fields, noteFederated_table]
  exact ⟨trivial, trivial, trivial, trivial, fun index => Map.lookup_insert_eq _ _ _ _⟩

theorem Counted.deleteLogRecords {startIndex : Nat}
    (unapplied : db.lastApplied < startIndex) (inside : startIndex ≤ db.lastIndex + 1) :
    (db.deleteLogRecords startIndex).Counted := by
  obtain ⟨index, rfl⟩ : ∃ index, startIndex = index + 1 := ⟨startIndex - 1, by omega⟩
  have kept {other : Nat} (below : other ≤ index) :
      (db.deleteLogRecords (index + 1)).table.lookup other = db.table.lookup other := by
    rw [lookup_deleteLogRecords, if_pos (by omega)]
  have before {other : Nat} {row : LogRow}
      (stored : (db.deleteLogRecords (index + 1)).table.lookup other = some row) :
      other ≤ index ∧ db.table.lookup other = some row := by
    rw [lookup_deleteLogRecords] at stored
    split at stored
    · exact ⟨by omega, stored⟩
    · contradiction
  obtain ⟨row, stored⟩ : ∃ row, db.table.lookup index = some row := counted.present (by omega) (by omega)
  obtain ⟨prevRow, prevStored⟩ : ∃ row, db.table.lookup (index - 1) = some row :=
    counted.present (by omega) (by omega)
  rw [← kept (Nat.le_refl _)] at stored
  rw [← kept (Nat.sub_le _ _)] at prevStored
  obtain ⟨isNext, isLast, isTerm⟩ := deleteLogRecords_indexes stored prevStored
  have same := (db.deleteLogRecords_untouched (index + 1)).lastApplied
  refine ⟨by rw [isNext, isLast], ⟨row, by rw [isLast]; exact stored, isTerm.symm⟩,
    fun other otherRow isRow => by rw [isLast]; exact (before isRow).1, ?_,
    fun other ⟨otherRow, isRow, marked⟩ => ?_, fun other beyond within => ?_, ?_⟩
  · obtain ⟨appliedRow, isRow, marked⟩ := counted.applied
    exact ⟨appliedRow, by rw [same, kept (by omega)]; exact isRow, marked⟩
  · rw [same]
    exact counted.above other ⟨otherRow, (before isRow).2, marked⟩
  · rw [same] at beyond
    rw [isLast] at within
    rw [kept within]
    exact counted.contiguous other beyond (by omega)
  · rw [same, kept (by omega)]
    exact counted.previous

theorem Counted.markApplied {lr : LogDBRecord}
    (isIndex : lr.index = db.lastApplied + 1) (inside : lr.index ≤ db.lastIndex) : (db.markApplied lr).Counted := by
  have present {index : Nat} (isRow : ∃ row, db.table.lookup index = some row) :
      ∃ row, (db.markApplied lr).table.lookup index = some row := by
    obtain ⟨row, stored⟩ := isRow
    exact ⟨_, by rw [lookup_markApplied, stored]; rfl⟩
  refine ⟨counted.next, ?_, fun index row stored => ?_, ?_, fun index applied => ?_,
    fun index beyond within => present (counted.contiguous index ?_ within), .inr ?_⟩
  · obtain ⟨row, stored, isTerm⟩ := counted.term
    refine ⟨if db.lastIndex = lr.index then { row with applied := true } else row, ?_, ?_⟩
    · rw [lookup_markApplied]
      exact congrArg _ stored
    · split <;> exact isTerm
  · rw [lookup_markApplied, Option.map_eq_some_iff] at stored
    obtain ⟨before, isBefore, -⟩ := stored
    exact counted.bound index before isBefore
  · obtain ⟨row, stored⟩ := counted.contiguous lr.index (by omega) inside
    refine ⟨_, by rw [lookup_markApplied]; exact congrArg _ stored, ?_⟩
    exact congrArg LogRow.applied (if_pos rfl)
  · rcases applied.of_markApplied with rfl | applied
    · exact Nat.le_refl _
    · exact (counted.above index applied).trans (by simp only [LogDB.markApplied]; omega)
  · have isLast : (db.markApplied lr).lastApplied = lr.index := rfl
    omega
  · refine present (counted.present ?_ ?_)
    · simp only [LogDB.markApplied]; omega
    · simp only [LogDB.markApplied]; omega

theorem Counted.applyLoop {commitIndex : Nat} {rc : Nat → SqlError} {turns : Nat}
    : (LogDB.applyLoop commitIndex rc turns db).1.Counted := by
  induction turns generalizing db with
  | zero => exact counted
  | succ turns ih =>
    simp only [LogDB.applyLoop]
    split
    · split
      · exact counted
      · rename_i lr found
        obtain ⟨row, prevRow, stored, -, isRecord⟩ := getLogRecord_cases found
        have isIndex : lr.index = db.lastApplied + 1 := by rw [isRecord]
        have marked : (db.markApplied lr).Counted :=
          counted.markApplied isIndex (isIndex ▸ counted.bound _ row stored)
        cases rc lr.index with
        | success | sqlDupKey => exact ih marked
        | sql => exact marked
        | internal | connection => exact counted
    · exact counted

theorem Counted.purged (purged : Purged db after) : after.Counted := by
  have kept {index : Nat} {row : LogRow} (late : db.lastApplied ≤ index + 1)
      (stored : db.table.lookup index = some row) : after.table.lookup index = some row := by
    rcases purged.gone index row stored with isKept | ⟨-, left, right, isLeft, isRight, -, applied⟩
    · exact isKept
    · have atMost := counted.above right applied
      omega
  have le := counted.le
  refine ⟨by rw [purged.nextIndex, purged.lastIndex]; exact counted.next, ?_,
    fun index row stored => ?_, ?_, fun index applied => ?_, fun index beyond within => ?_, ?_⟩
  · obtain ⟨row, stored, isTerm⟩ := counted.term
    rw [purged.lastIndex, purged.lastTerm]
    exact ⟨row, kept (by omega) stored, isTerm⟩
  · rw [purged.lastIndex]
    exact counted.bound index row (purged.rows index row stored)
  · obtain ⟨row, stored, marked⟩ := counted.applied
    rw [purged.lastApplied]
    exact ⟨row, kept (by omega) stored, marked⟩
  · rw [purged.lastApplied]
    exact counted.above index (purged.applied applied)
  · rw [purged.lastApplied] at beyond
    rw [purged.lastIndex] at within
    obtain ⟨row, stored⟩ := counted.contiguous index beyond within
    exact ⟨row, kept (by omega) stored⟩
  · rw [purged.lastApplied]
    rcases counted.previous with zero | ⟨row, stored⟩
    · exact .inl zero
    · exact .inr ⟨row, kept (by omega) stored⟩

end

end LogDB

/-- The operations with the arguments that their callers give them: only solo mode
inserts an applied record, a replica stores the record after its last one or one
that it truncated, deletes records that it has and did not apply, and applies
records that it has. -/
def LogEvent.Regular (db : LogDB) : LogEvent → Prop
  | .insertLogRecord _ _ applied _ => applied = false
  | .insertReplica index term _ applied _ replace =>
    applied = false ∧ index ≤ db.lastIndex + 1 ∧ (index ∈ db.table → replace = true →
        db.lastApplied < index ∧ (index = db.lastIndex → term = db.lastTerm))
  | .deleteLogRecords startIndex => db.lastApplied < startIndex ∧ startIndex ≤ db.lastIndex + 1
  | .applyLogRecords commitIndex _ => commitIndex ≤ db.lastIndex
  | .purgeLog logRetention _ _ => 2 ≤ logRetention.toNat
  | .setupIndex | .insertSolo .. => True

instance (db : LogDB) : (event : LogEvent) → Decidable (event.Regular db)
  | .insertLogRecord _ _ applied _ => inferInstanceAs (Decidable (applied = false))
  | .insertReplica index term _ applied _ replace =>
    inferInstanceAs (Decidable (applied = false ∧ index ≤ db.lastIndex + 1 ∧ (index ∈ db.table → replace = true →
        db.lastApplied < index ∧ (index = db.lastIndex → term = db.lastTerm))))
  | .deleteLogRecords startIndex =>
    inferInstanceAs (Decidable (db.lastApplied < startIndex ∧ startIndex ≤ db.lastIndex + 1))
  | .applyLogRecords commitIndex _ => inferInstanceAs (Decidable (commitIndex ≤ db.lastIndex))
  | .purgeLog logRetention _ _ => inferInstanceAs (Decidable (2 ≤ logRetention.toNat))
  | .setupIndex | .insertSolo .. => isTrue trivial

namespace LogDB

variable {db after : LogDB}

theorem Counted.insertReplica (counted : db.Counted) {index term : Nat} {sql : String}
    {applied replace : Bool} {fedIndex : Option Nat}
    (regular : (LogEvent.insertReplica index term sql applied fedIndex replace).Regular db)
    (inserted : db.insertReplica index term sql applied fedIndex replace = some after) : after.Counted := by
  obtain ⟨rfl, inside, isOpen⟩ := regular
  obtain ⟨stored, isStored, rfl⟩ := Option.map_eq_some_iff.1 inserted
  have same : stored.nextIndex = db.nextIndex ∧ stored.lastIndex = db.lastIndex ∧
      stored.lastTerm = db.lastTerm ∧ stored.lastApplied = db.lastApplied := by
    simp only [LogDB.insert] at isStored
    split at isStored
    · obtain rfl := Option.some.inj isStored
      exact ⟨rfl, rfl, rfl, rfl⟩
    · split at isStored
      · contradiction
      · split at isStored
        · obtain rfl := Option.some.inj isStored
          exact ⟨rfl, rfl, rfl, rfl⟩
        · contradiction
  obtain ⟨sameNext, sameLast, sameTerm, sameApplied⟩ := same
  have noted {other : LogDB} (isCounted : other.Counted) :
      (LogDB.noteFederated fedIndex other).Counted := by
    cases fedIndex with
    | none => exact isCounted
    | some fed =>
      exact ⟨isCounted.next, isCounted.term, isCounted.bound, isCounted.applied, isCounted.above,
        isCounted.contiguous, isCounted.previous⟩
  refine noted ?_
  have le := counted.le
  rcases insert_table isStored with ⟨table, isNew⟩ | ⟨table, isKept, taken⟩
  · have rows (other : Nat) := Map.lookup_insert_eq index other
      ⟨term, sql, fedIndex, false⟩ db.table
    split
    · rename_i beyond
      obtain rfl : index = db.lastIndex + 1 := by omega
      refine counted.push ⟨term, sql, fedIndex, false⟩ (fun other => ?_) rfl rfl rfl sameApplied
      rw [← rows]
      exact congrArg _ table
    · refine @Counted.put db stored counted index ⟨term, sql, fedIndex, false⟩ (by omega) rfl
        (fun isTaken => ?_) (fun other => ?_) sameNext sameLast sameTerm sameApplied
      · rcases isNew with replaced | absent
        · exact isOpen isTaken replaced
        · exact absurd isTaken absent
      · rw [← rows, ← table]
  · obtain ⟨row, isRow⟩ := mem_table.1 taken
    have bound := counted.bound index row isRow
    rw [if_neg (by omega)]
    have unchanged : stored.table = db.table := table
    obtain ⟨next, isTerm, isBound, isApplied, above, contiguous, previous⟩ := counted
    rw [← sameLast, ← sameTerm, ← unchanged] at isTerm
    exact ⟨by rw [sameNext, sameLast]; exact next, isTerm,
      by rw [sameLast, unchanged]; exact isBound,
      by rw [sameApplied, Applied, unchanged]; exact isApplied,
      by simp only [sameApplied, Applied, unchanged]; exact above,
      by rw [sameApplied, sameLast, unchanged]; exact contiguous,
      by rw [sameApplied, unchanged]; exact previous⟩

theorem Counted.step (counted : db.Counted) {event : LogEvent} (regular : event.Regular db) :
    (db.step event).Counted := by
  cases event with
  | setupIndex => exact counted.setupIndex
  | insertLogRecord term sql applied fedIndex =>
    obtain ⟨stored, row, inserted, isApplied, isTerm, next, last, lastTerm, lastApplied, table⟩ :=
      counted.insertLogRecord term sql applied fedIndex
    simp only [LogDB.step, inserted]
    refine counted.push row table next last (lastTerm.trans isTerm.symm) ?_
    rw [isApplied, show applied = false from regular, if_neg (by decide)]
    exact lastApplied
  | insertReplica index term sql applied fedIndex replace =>
    cases inserted : db.insertReplica index term sql applied fedIndex replace with
    | none => simpa [LogDB.step, inserted] using counted
    | some after => simpa [LogDB.step, inserted] using counted.insertReplica regular inserted
  | insertSolo cmd fedIndex =>
    obtain ⟨stored, row, inserted, isApplied, isTerm, next, last, lastTerm, -, table⟩ :=
      counted.insertLogRecord 0 cmd true fedIndex
    simp only [LogDB.step, LogDB.insertSolo, if_true, inserted]
    refine counted.push row table next last (lastTerm.trans isTerm.symm) ?_
    rw [isApplied, if_pos rfl]
    exact last
  | deleteLogRecords startIndex => exact counted.deleteLogRecords regular.1 regular.2
  | applyLogRecords commitIndex rc => exact counted.applyLoop
  | purgeLog logRetention limit visit =>
    exact counted.purged (db.purged_purgeLog regular limit visit)

def wellFormedSystem : System LogDB LogEvent where
  initial db := ∃ (stored : LogDB) (lastApplied lastIndex : Nat),
    WellFormed stored.table lastApplied lastIndex ∧ db = stored.setupIndex.1
  step db event := some (db.step event)

/-- In a run of operations as their callers make them, the indexes in memory are
those of the table. -/
theorem index_mirror (db : LogDB) (reached : wellFormedSystem.Reachable (fun db event => event.Regular db) db) :
    db.IndexMirror := by
  have counted := @System.Reachable.invariant _ _ _ _ Counted _ reached ?_ ?_
  · exact counted.mirror
  · rintro start ⟨stored, lastApplied, lastIndex, wellFormed, rfl⟩
    exact wellFormed.setupIndex
  · intro before event next counted regular stepped
    obtain rfl := Option.some.inj stepped
    exact counted.step regular

theorem fresh_wellFormed : wellFormedSystem.initial fresh := by
  refine ⟨_, 0, 0, ?_, rfl⟩
  exact
    { applied := by decide
      last := by decide
      previous := .inl rfl
      contiguous := fun index beyond within => by omega }

/-- Records of two leaders, a truncation, a purge of the applied ones. -/
theorem index_mirror_truncated : ∃ db, wellFormedSystem.Reachable (fun db event => event.Regular db) db ∧
      (db.lastApplied, db.lastIndex, db.lastTerm) = (5, 5, 0) ∧ db.IndexMirror := by
  have ran : ((wellFormedSystem.exec (fun db event => event.Regular db) fresh
      [.insertLogRecord 1 "CREATE" false (some 0), .insertReplica 2 1 "INSERT" false none true,
        .insertReplica 3 1 "UPDATE" false none true, .deleteLogRecords 3,
        .insertReplica 3 2 "DELETE" false none true, .insertReplica 4 2 "INSERT" false none true,
        .applyLogRecords 3 fun _ => .success, .purgeLog 2 .unsupported id,
        .insertSolo "UPDATE" none, .deleteLogRecords 6, .setupIndex]).map
          fun db => (db.lastApplied, db.lastIndex, db.lastTerm)) = some (5, 5, 0) := by
    decide
  obtain ⟨db, ran, isDb⟩ := Option.map_eq_some_iff.mp ran
  have reached : wellFormedSystem.Reachable (fun db event => event.Regular db) db :=
    System.reachable_of_exec fresh_wellFormed ran
  exact ⟨db, reached, isDb, index_mirror db reached⟩

end LogDB

def LogEvent.Listed (db : LogDB) : LogEvent → Prop
  | .insertLogRecord .. | .insertReplica .. | .applyLogRecords .. => True
  | .deleteLogRecords startIndex => db.lastApplied < startIndex
  | .purgeLog logRetention _ _ => 2 ≤ logRetention.toNat
  | .setupIndex | .insertSolo .. => False

namespace LogDB

/-- A replica record that is not the next one leaves a gap. -/
theorem index_mirror_gap :
    ¬ ∀ db, wellFormedSystem.Reachable (fun db event => event.Listed db) db → db.IndexMirror := by
  intro claim
  have mirror := claim (fresh.step (.insertReplica 5 1 "INSERT" false none true))
    ⟨fresh, fresh_wellFormed, Relation.ReflTransGen.single
      ⟨.insertReplica 5 1 "INSERT" false none true, trivial, rfl⟩⟩
  exact absurd (mirror.contiguous 1 (by decide) (by decide)) (by decide)

end LogDB

end OpenNebula.Sql
