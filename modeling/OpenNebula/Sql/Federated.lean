import OpenNebula.Library.Sequence
import OpenNebula.Sql.Records

namespace OpenNebula.Sql

open Library

/-! # The federated records of a log

`fed_log` holds the federated indexes of the records, and its neighbours are the
neighbours in the sequence of federated records.  A write keeps that, and leaves
each executed record with its place in the log.
-/

def federated (log : List LogEntry) : List (Nat × String) :=
  log.filterMap fun entry => entry.fedIndex.map (·, entry.sqlcmd)

theorem mem_federated {log : List LogEntry} {index : Nat} {cmd : String} : (index, cmd) ∈ federated log ↔
      ∃ entry ∈ log, entry.fedIndex = some index ∧ entry.sqlcmd = cmd := by
  simp only [federated, List.mem_filterMap, Option.map_eq_some_iff, Prod.mk.injEq]
  constructor
  · rintro ⟨entry, isEntry, found, isIndex, rfl, rfl⟩
    exact ⟨entry, isEntry, isIndex, rfl⟩
  · rintro ⟨entry, isEntry, isIndex, rfl⟩
    exact ⟨entry, isEntry, index, isIndex, rfl, rfl⟩

theorem federated_snoc_none (log : List LogEntry) {entry : LogEntry}
    (plain : entry.fedIndex = none) : federated (log ++ [entry]) = federated log := by
  simp [federated, plain]

theorem federated_snoc_some (log : List LogEntry) {entry : LogEntry} {index : Nat}
    (isFederated : entry.fedIndex = some index) :
    federated (log ++ [entry]) = federated log ++ [(index, entry.sqlcmd)] := by
  simp [federated, isFederated]

namespace LogDB

variable {db after : LogDB} {log : List LogEntry}

/-- `fed_log` is the set of the federated indexes of the records. -/
def Mirrors (db : LogDB) (log : List LogEntry) : Prop :=
  ∀ index, index ∈ db.fedLog ↔ ∃ cmd, (index, cmd) ∈ federated log

variable {index : Nat}

theorem largest_eq_some {indexes : Finset Nat} (isLargest : largest indexes = some index) :
    index ∈ indexes ∧ ∀ other ∈ indexes, other ≤ index := by
  rw [largest] at isLargest
  split at isLargest
  · rw [← Option.some.inj isLargest]
    exact ⟨indexes.max'_mem _, fun other inside => indexes.le_max' other inside⟩
  · contradiction

theorem Mirrors.lastFederated (mirrors : db.Mirrors log) (ascending : Ascending Prod.fst (federated log))
    (isLast : db.lastFederated = some index) : ∃ front cmd, federated log = front ++ [(index, cmd)] := by
  obtain ⟨inLog, above⟩ := largest_eq_some isLast
  obtain ⟨cmd, isRecord⟩ := (mirrors index).1 inLog
  rcases List.eq_nil_or_concat (federated log) with empty | ⟨front, last, isConcat⟩
  · rw [empty] at isRecord
    cases isRecord
  · rw [List.concat_eq_append] at isConcat
    have inside : last ∈ federated log := by rw [isConcat]; simp
    have atMost : last.1 ≤ index := above last.1 ((mirrors last.1).2 ⟨last.2, inside⟩)
    have notBefore : (index, cmd) ∉ front := by
      intro earlier
      rw [isConcat] at ascending
      have below := (List.pairwise_append.1 ascending).2.2 _ earlier last (List.mem_singleton_self _)
      exact absurd below (Nat.not_lt.2 atMost)
    rw [isConcat] at isRecord
    have isEnd : (index, cmd) = last := by
      rcases List.mem_append.1 isRecord with earlier | atEnd
      · exact absurd earlier notBefore
      · exact List.mem_singleton.1 atEnd
    exact ⟨front, cmd, isEnd ▸ isConcat⟩

theorem Mirrors.previousFederated (mirrors : db.Mirrors log) (ascending : Ascending Prod.fst (federated log))
    {prev : Nat} {cmd : String} (isRecord : (index, cmd) ∈ federated log)
    (isPrev : db.previousFederated index = some prev) :
    ∃ prevCmd, [(prev, prevCmd), (index, cmd)] <:+: federated log := by
  rw [LogDB.previousFederated, if_pos ((mirrors index).2 ⟨cmd, isRecord⟩)] at isPrev
  obtain ⟨isFiltered, above⟩ := largest_eq_some isPrev
  obtain ⟨inLog, below⟩ := Finset.mem_filter.1 isFiltered
  obtain ⟨prevCmd, prevRecord⟩ := (mirrors prev).1 inLog
  refine ⟨prevCmd, ascending.neighbours prevRecord isRecord below ?_⟩
  rintro ⟨other, otherCmd⟩ inside smaller
  have isIndex := (mirrors other).2 ⟨otherCmd, inside⟩
  exact above other (Finset.mem_filter.2 ⟨isIndex, smaller⟩)

theorem mem_of_previousFederated {prev : Nat} (isPrev : db.previousFederated index = some prev) :
    index ∈ db.fedLog := by
  rw [LogDB.previousFederated] at isPrev
  by_contra absent
  rw [if_neg absent] at isPrev
  cases isPrev

structure Zone (db : LogDB) (log : List LogEntry) : Prop where
  repr : db.Represents log
  mirrors : db.Mirrors log
  boot : ∀ row, db.table.lookup 0 = some row → row.fedIndex = none

structure Journal (db : LogDB) (log : List LogEntry) : Prop where
  ascending : Ascending Prod.fst db.executed
  bounded : ∀ run ∈ db.executed, run.1 ≤ db.lastApplied
  recorded : ∀ index entry, (index, entry) ∈ db.executed →
    ∃ position, index = position + 1 ∧ log[position]? = some entry
  applied : db.lastApplied = 0 ∨ db.Applied db.lastApplied
  inside : db.lastApplied ≤ log.length

theorem insert_fedLog {term : Nat} {sql : String} {applied replace : Bool} {fedIndex : Option Nat}
    (inserted : db.insert index term sql applied fedIndex replace = some after) : after.fedLog = db.fedLog := by
  simp only [LogDB.insert] at inserted
  split at inserted
  · rw [← Option.some.inj inserted]
  · split at inserted
    · contradiction
    · split at inserted
      · rw [← Option.some.inj inserted]
      · contradiction

theorem mem_noteFederated {fedIndex : Option Nat} :
    index ∈ (noteFederated fedIndex db).fedLog ↔ fedIndex = some index ∨ index ∈ db.fedLog := by
  cases fedIndex with
  | none => simp [LogDB.noteFederated]
  | some other => simp [LogDB.noteFederated, eq_comm]

theorem mem_insertLogRecord {term index other : Nat} {sql : String} {applied : Bool} {fedIndex : Option Nat}
    (inserted : db.insertLogRecord term sql applied fedIndex = some (after, index)) : other ∈ after.fedLog ↔
      federatedIndex fedIndex db.nextIndex = some other ∨ other ∈ db.fedLog := by
  simp only [LogDB.insertLogRecord] at inserted
  split at inserted
  · contradiction
  · rename_i stored isStored
    obtain ⟨rfl, -⟩ := Prod.mk.inj (Option.some.inj inserted)
    rw [mem_noteFederated, insert_fedLog isStored]
    rfl

/-- The record that a write with `federated` adds to the log. -/
def newEntry (log : List LogEntry) (term : Nat) (cmd : String) (fedIndex : Option Nat) : LogEntry :=
  ⟨term, cmd, federatedIndex fedIndex (log.length + 1)⟩

theorem Mirrors.snoc (mirrors : db.Mirrors log) {entry : LogEntry}
    (isFedLog : ∀ index, index ∈ after.fedLog ↔ entry.fedIndex = some index ∨ index ∈ db.fedLog) :
    after.Mirrors (log ++ [entry]) := by
  intro index
  rw [isFedLog index, mirrors index]
  cases found : entry.fedIndex with
  | none => simp [federated_snoc_none log found]
  | some other =>
    rw [federated_snoc_some log found]
    simp only [Option.some.injEq, List.mem_append, List.mem_singleton, Prod.mk.injEq]
    constructor
    · rintro (rfl | ⟨cmd, inside⟩)
      · exact ⟨entry.sqlcmd, .inr ⟨rfl, rfl⟩⟩
      · exact ⟨cmd, .inl inside⟩
    · rintro ⟨cmd, inside | ⟨rfl, rfl⟩⟩
      · exact .inr ⟨cmd, inside⟩
      · exact .inl rfl

theorem Zone.insertLogRecord (zone : Zone db log) (term : Nat) (cmd : String) (applied : Bool)
    (fedIndex : Option Nat) : ∃ after, db.insertLogRecord term cmd applied fedIndex = some (after, log.length + 1) ∧
      Zone after (log ++ [newEntry log term cmd fedIndex]) ∧ Untouched db after ∧
      ∀ index, after.table.lookup index = if index = log.length + 1 then
        some ⟨term, cmd, federatedIndex fedIndex (log.length + 1), applied⟩ else db.table.lookup index := by
  obtain ⟨after, inserted, repr, table, untouched⟩ := zone.repr.insertLogRecord term cmd applied fedIndex
  have rows : ∀ index, after.table.lookup index = if index = log.length + 1 then
      some ⟨term, cmd, federatedIndex fedIndex (log.length + 1), applied⟩
      else db.table.lookup index := by
    intro index
    rw [table, Map.lookup_insert_eq]
  refine ⟨after, inserted, ⟨repr, zone.mirrors.snoc fun index => ?_, fun row stored => ?_⟩, untouched, rows⟩
  · rw [mem_insertLogRecord inserted, zone.repr.next]
    rfl
  · rw [rows 0, if_neg (Nat.succ_ne_zero _).symm] at stored
    exact zone.boot row stored

theorem Journal.snoc (journal : Journal db log) {entry : LogEntry} (untouched : Untouched db after)
    (rows : ∀ index ≤ log.length, after.table.lookup index = db.table.lookup index) :
    Journal after (log ++ [entry]) where
  ascending := by rw [untouched.executed]; exact journal.ascending
  bounded := by rw [untouched.executed, untouched.lastApplied]; exact journal.bounded
  recorded := by
    intro index ran isRun
    rw [untouched.executed] at isRun
    obtain ⟨position, isIndex, found⟩ := journal.recorded index ran isRun
    refine ⟨position, isIndex, ?_⟩
    rw [List.getElem?_append_left (List.getElem?_eq_some_iff.1 found).1]
    exact found
  applied := by
    rw [untouched.lastApplied]
    rcases journal.applied with zero | ⟨row, stored, marked⟩
    · exact .inl zero
    · exact .inr ⟨row, by rw [rows _ journal.inside]; exact stored, marked⟩
  inside := by
    rw [untouched.lastApplied, List.length_append]
    exact Nat.le_add_right_of_le journal.inside

theorem Zone.markApplied (zone : Zone db log) (lr : LogDBRecord) : Zone (db.markApplied lr) log where
  repr := zone.repr.markApplied lr
  mirrors := zone.mirrors
  boot := by
    intro row stored
    rw [lookup_markApplied, Option.map_eq_some_iff] at stored
    obtain ⟨before, isBefore, rfl⟩ := stored
    split <;> exact zone.boot before isBefore

theorem Journal.run (journal : Journal db log) {index : Nat} {entry : LogEntry}
    (isIndex : db.lastApplied < index) (executed : after.executed = db.executed ++ [(index, entry)])
    (found : log[index - 1]? = some entry) (isLast : after.lastApplied = index)
    (applied : after.Applied index) : Journal after log where
  ascending := by
    rw [executed]
    exact journal.ascending.snoc fun run isRun => (journal.bounded run isRun).trans_lt isIndex
  bounded := by
    intro run isRun
    rw [executed] at isRun
    rw [isLast]
    rcases List.mem_append.1 isRun with earlier | atEnd
    · exact (journal.bounded run earlier).trans isIndex.le
    · rw [List.mem_singleton.1 atEnd]
  recorded := by
    intro ranIndex ran isRun
    rw [executed] at isRun
    rcases List.mem_append.1 isRun with earlier | atEnd
    · exact journal.recorded ranIndex ran earlier
    · obtain ⟨rfl, rfl⟩ := Prod.mk.inj (List.mem_singleton.1 atEnd)
      exact ⟨ranIndex - 1, by omega, found⟩
  applied := by rw [isLast]; exact .inr applied
  inside := by
    have bound := (List.getElem?_eq_some_iff.1 found).1
    rw [isLast]
    omega

theorem ApplyRun.zone {commitIndex : Nat} {before : LogDB}
    (ran : ApplyRun log commitIndex before after) (zone : Zone before log) : Zone after log := by
  induction ran with
  | done db => exact zone
  | next _ _ _ _ ih => exact ih (zone.markApplied _)

theorem ApplyRun.journal {commitIndex : Nat} {before : LogDB}
    (ran : ApplyRun log commitIndex before after) (repr : before.Represents log)
    (journal : Journal before log) : Journal after log := by
  induction ran with
  | done db => exact journal
  | @next db after lr below isIndex found rest ih =>
    refine ih (repr.markApplied lr) (journal.run (by omega) rfl ?_ rfl (applied_markApplied repr isIndex found))
    rw [isIndex, Nat.add_one_sub_one]
    exact found

/-- A write adds one record to the log or none.  When the record of an executed
command is stored, each executed record keeps its place in the log. -/
structure Written (log : List LogEntry) (cmd : String) (fedIndex : Option Nat) (stored : Bool)
    (before after : LogDB) (logAfter : List LogEntry) : Prop where
  zone : Zone after logAfter
  added : logAfter = log ∨ ∃ term, logAfter = log ++ [newEntry log term cmd fedIndex]
  journal : stored = true → Journal before log → Journal after logAfter

theorem Zone.memory (zone : Zone db log) (executed : List (Nat × LogEntry)) (lastApplied : Nat) :
    Zone { db with executed, lastApplied } log :=
  ⟨⟨zone.repr.toRows, zone.repr.last, zone.repr.next, zone.repr.term⟩, zone.mirrors, zone.boot⟩

theorem Zone.insertSolo (zone : Zone db log) (cmd : String) (fedIndex : Option Nat) (stored : Bool) :
    ∃ logAfter, Written log cmd fedIndex stored db
      ((db.markExecuted cmd fedIndex).insertSolo cmd fedIndex stored) logAfter := by
  cases stored with
  | false => exact ⟨log, zone.memory _ _, .inl rfl, fun stored => by cases stored⟩
  | true =>
    have ranZone : Zone (db.markExecuted cmd fedIndex) log := zone.memory _ _
    obtain ⟨after, inserted, zoneAfter, untouched, rows⟩ := ranZone.insertLogRecord 0 cmd true fedIndex
    have isAfter : (db.markExecuted cmd fedIndex).insertSolo cmd fedIndex true =
        { after with lastApplied := after.lastIndex } := by
      simp only [LogDB.insertSolo, if_true, inserted]
    have isLast : after.lastIndex = log.length + 1 := by
      rw [zoneAfter.repr.last, List.length_append]
      rfl
    refine ⟨_, by rw [isAfter]; exact zoneAfter.memory _ _, .inr ⟨0, rfl⟩, fun _ journal => ?_⟩
    rw [isAfter]
    let noted : LogDB := { after with executed := db.executed, lastApplied := db.lastApplied }
    have untouchedNoted : Untouched db noted := ⟨untouched.raftState, rfl, rfl, untouched.solo, untouched.cache⟩
    have journalNoted : Journal noted (log ++ [newEntry log 0 cmd fedIndex]) := by
      refine journal.snoc untouchedNoted fun index within => ?_
      exact (rows index).trans (if_neg (by omega))
    refine @Journal.run noted _ _ journalNoted (log.length + 1) (newEntry log 0 cmd fedIndex)
      (Nat.lt_succ_of_le journal.inside) ?_ ?_ isLast ?_
    · rw [show after.executed = _ from untouched.executed, markExecuted, zone.repr.next]
      rfl
    · simp
    · exact ⟨_, (rows _).trans (if_pos rfl), rfl⟩

theorem Zone.execWr (zone : Zone db log) (cmd : String) (fedIndex : Option Nat) (outcome : WriteOutcome) :
    ∃ logAfter, Written log cmd fedIndex outcome.stored db (db.execWr cmd fedIndex outcome).1 logAfter := by
  have kept : Written log cmd fedIndex outcome.stored db db log := ⟨zone, .inl rfl, fun _ journal => journal⟩
  rw [LogDB.execWr]
  split
  · split
    · exact zone.insertSolo cmd fedIndex outcome.stored
    · exact ⟨log, kept⟩
  split
  · exact ⟨log, kept⟩
  split
  · exact ⟨log, kept⟩
  cases isStored : outcome.stored with
  | false =>
    rw [isStored] at kept
    exact ⟨log, kept⟩
  | true =>
    obtain ⟨after, inserted, zoneAfter, untouched, rows⟩ := zone.insertLogRecord outcome.term cmd false fedIndex
    have journalAfter (journal : Journal db log) :
        Journal after (log ++ [newEntry log outcome.term cmd fedIndex]) :=
      journal.snoc untouched fun index within => (rows index).trans (if_neg (by omega))
    simp only [if_true, inserted]
    refine ⟨_, ?_, .inr ⟨outcome.term, rfl⟩, fun _ journal => ?_⟩
    · split
      · exact (zoneAfter.repr.applyLogRecords _ _).zone zoneAfter
      · exact zoneAfter
    · split
      · exact (zoneAfter.repr.applyLogRecords _ _).journal zoneAfter.repr (journalAfter journal)
      · exact journalAfter journal

theorem load_fedLog (solo cache : Bool) (table : Map Nat LogRow) (raftState : Option RaftState)
    (executed : List (Nat × LogEntry)) (now : String) : (LogDB.load solo cache table raftState executed now).fedLog =
      ((LogDB.load solo cache table raftState executed now).table.entries.filterMap
        fun row => row.2.fedIndex).toFinset :=
  rfl

theorem Zone.load (zone : Zone db log) (now : String) :
    Zone (LogDB.load db.solo db.cache db.table db.raftState db.executed now) log := by
  obtain ⟨repr, table, -⟩ := load_represents zone.repr.toRows db.solo db.cache db.raftState
    db.executed now
  refine ⟨repr, fun index => ?_, by rw [table]; exact zone.boot⟩
  rw [load_fedLog, table, List.mem_toFinset, List.mem_filterMap]
  constructor
  · rintro ⟨⟨key, row⟩, isRow, isFederated⟩
    have stored := Map.mem_entries_iff.1 isRow
    cases key with
    | zero =>
      rw [zone.boot row stored] at isFederated
      cases isFederated
    | succ key =>
      have found := zone.repr.entry stored
      exact ⟨row.sqlcmd, mem_federated.2 ⟨row.entry, List.mem_of_getElem? found, isFederated, rfl⟩⟩
  · rintro ⟨cmd, isRecord⟩
    obtain ⟨entry, isEntry, isFederated, -⟩ := mem_federated.1 isRecord
    obtain ⟨position, found⟩ := List.mem_iff_getElem?.mp isEntry
    obtain ⟨row, stored, rfl⟩ := zone.repr.lookup found
    exact ⟨⟨position + 1, row⟩, Map.mem_entries_iff.2 stored, isFederated⟩

theorem Journal.load (journal : Journal db log) (repr : db.Represents log) (now : String) :
    Journal (LogDB.load db.solo db.cache db.table db.raftState db.executed now) log := by
  obtain ⟨-, table, applied, -, executed, -⟩ := load_represents repr.toRows db.solo db.cache
    db.raftState db.executed now
  have atLeast : db.lastApplied ≤ db.appliedIndex := by
    rcases journal.applied with zero | marked
    · omega
    · exact marked.le_appliedIndex
  refine ⟨by rw [executed]; exact journal.ascending, ?_, by rw [executed]; exact journal.recorded,
    ?_, by rw [applied]; exact repr.toRows.appliedIndex_le⟩
  · rw [executed, applied]
    exact fun run isRun => (journal.bounded run isRun).trans atLeast
  · rw [applied]
    rcases db.appliedIndex_cases with zero | ⟨row, stored, marked⟩
    · exact .inl zero
    · exact .inr ⟨row, by rw [table]; exact stored, marked⟩

end LogDB

end OpenNebula.Sql
