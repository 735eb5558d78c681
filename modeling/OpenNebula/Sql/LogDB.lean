import Mathlib.Data.Finset.Max
import Mathlib.Data.Finset.Image
import OpenNebula.Library.Map

namespace OpenNebula.Sql

open Library

/-! # The replicated log (`LogDB`)

The `logdb` table is a finite map from `log_index` to the other columns.  Column
`timestamp` is not kept: it is nonzero exactly when `applied` is set.  An index
that the source writes as `UINT64_MAX` is `none`.  The statements on `logdb` and
`system_attributes` do what they say; the outcome of a replicated command is an input, and so are
the answers to the statements of `replicate_log`.
-/

inductive SqlError where
  | success | internal | connection | sql | sqlDupKey
deriving DecidableEq

/-- A row of `logdb` without its primary key. -/
structure LogRow where
  term : Nat
  sqlcmd : String
  fedIndex : Option Nat
  applied : Bool
deriving DecidableEq

/-- The columns that are replicated; `applied` is local to each server. -/
structure LogEntry where
  term : Nat
  sqlcmd : String
  fedIndex : Option Nat
deriving DecidableEq

def LogRow.entry (row : LogRow) : LogEntry := ⟨row.term, row.sqlcmd, row.fedIndex⟩

structure LogDBRecord where
  index : Nat
  prevIndex : Nat
  term : Nat
  prevTerm : Nat
  sql : String
  fedIndex : Option Nat
deriving DecidableEq

def LogDBRecord.entry (lr : LogDBRecord) : LogEntry := ⟨lr.term, lr.sql, lr.fedIndex⟩

structure RaftState where
  term : Nat
  votedfor : Int

structure LogDB where
  solo : Bool
  cache : Bool
  /-- rows of `logdb` -/
  table : Map Nat LogRow
  raftState : Option RaftState
  /-- the replicated commands executed on the database, in order -/
  executed : List (Nat × LogEntry)
  nextIndex : Nat
  lastApplied : Nat
  lastIndex : Nat
  lastTerm : Nat
  fedLog : Finset Nat

namespace LogDB

section

variable (db : LogDB)

/-- `SELECT c.*, p.log_index, p.term FROM logdb c, logdb p WHERE ...` -/
def getLogRecord (index prevIndex : Nat) : Option LogDBRecord :=
  let prevIndex := if index = 0 then 0 else prevIndex
  match db.table.lookup index, db.table.lookup prevIndex with
  | some c, some p => some ⟨index, prevIndex, c.term, p.term, c.sqlcmd, c.fedIndex⟩
  | _, _ => none

def buildFederatedIndex : LogDB :=
  { db with fedLog := (db.table.entries.filterMap fun row => row.2.fedIndex).toFinset }

def largest (indexes : Finset Nat) : Option Nat :=
  if nonempty : indexes.Nonempty then some (indexes.max' nonempty) else none

def smallest (indexes : Finset Nat) : Option Nat :=
  if nonempty : indexes.Nonempty then some (indexes.min' nonempty) else none

def lastFederated : Option Nat := largest db.fedLog

def previousFederated (i : Nat) : Option Nat :=
  if i ∈ db.fedLog then largest (db.fedLog.filter (· < i)) else none

def nextFederated (i : Nat) : Option Nat :=
  if i ∈ db.fedLog then smallest (db.fedLog.filter (i < ·)) else none

def maxIndex (rows : Map Nat LogRow) : Option Nat := rows.keys.max?

def maxApplied (rows : Map Nat LogRow) : Option Nat :=
  maxIndex (Map.filter (fun _ row => row.applied) rows)

/-- Reads the indexes from the table; also returns the last applied and the last
index.  A table without rows, which the constructor excludes, keeps them. -/
def setupIndex : LogDB × Nat × Nat :=
  let lastIndex := (maxIndex db.table).getD db.lastIndex
  let lastApplied := (maxApplied db.table).getD 0
  let db := { db with nextIndex := lastIndex + 1, lastIndex, lastApplied }
  let lastTerm := match db.getLogRecord lastIndex (lastIndex - 1) with
    | some lr => lr.term
    | none => db.lastTerm
  ({ db with lastTerm }.buildFederatedIndex, lastApplied, lastIndex)

def getLastRecordIndex : Nat × Nat := (db.lastIndex, db.lastTerm)

def getRaftState : Option RaftState := db.raftState

def updateRaftState (state : RaftState) : LogDB := { db with raftState := some state }

def insert (db : LogDB) (index term : Nat) (sql : String) (applied : Bool)
    (fedIndex : Option Nat) (replace : Bool) : Option LogDB :=
  if replace ∨ index ∉ db.table then
    some { db with table := db.table.insert index ⟨term, sql, fedIndex, applied⟩ }
  else
    let prevIndex := match fedIndex with
      | none => some (index - 1)
      | some _ => db.previousFederated index
    match prevIndex with
    | none => none
    | some prevIndex => if (db.getLogRecord index prevIndex).isSome then some db else none

def noteFederated (fedIndex : Option Nat) (db : LogDB) : LogDB :=
  match fedIndex with
  | none => db
  | some index => { db with fedLog := Insert.insert index db.fedLog }

/-- The version a leader uses: takes `next_index`, returns the index used.
`fed_index` 0 asks for the index itself. -/
def insertLogRecord (term : Nat) (sql : String) (applied : Bool)
    (fedIndex : Option Nat) : Option (LogDB × Nat) :=
  let index := db.nextIndex
  let fed := if fedIndex = some 0 then some index else fedIndex
  match db.insert index term sql applied fed false with
  | none => none
  | some db =>
    some (noteFederated fed { db with lastIndex := db.nextIndex, lastTerm := term, nextIndex := db.nextIndex + 1 },
      index)

def noteReplica (index term : Nat) (fedIndex : Option Nat) : LogDB :=
  let db := if db.lastIndex < index then
    { db with lastIndex := index, lastTerm := term, nextIndex := index + 1 } else db
  noteFederated fedIndex db

/-- The version a follower uses, with the index of the record. -/
def insertReplica (index term : Nat) (sql : String) (applied : Bool)
    (fedIndex : Option Nat) (replace : Bool) : Option LogDB :=
  (db.insert index term sql applied fedIndex replace).map fun db => db.noteReplica index term fedIndex

def deleteLogRecords (startIndex : Nat) : LogDB :=
  let db := { db with
    table := Map.filter (fun index _ => index < startIndex) db.table
    nextIndex := startIndex
    lastIndex := startIndex - 1 }
  match db.getLogRecord db.lastIndex (db.lastIndex - 1) with
  | some lr => { db with lastTerm := lr.term }
  | none => db

def markApplied (lr : LogDBRecord) : LogDB :=
  { db with
    table := Map.modify
      (fun index row => if index = lr.index then { row with applied := true } else row) db.table
    lastApplied := lr.index
    executed := db.executed ++ [(lr.index, lr.entry)] }

/-- Executes the command of the record; a command that the database rejects is
marked as applied too, and reported. -/
def applyLogRecord (lr : LogDBRecord) (rc : SqlError) : LogDB × Bool :=
  match rc with
  | .success | .sqlDupKey => (db.markApplied lr, true)
  | .sql => (db.markApplied lr, false)
  | .internal | .connection => (db, false)

end

def applyLoop (commitIndex : Nat) (rc : Nat → SqlError) : Nat → LogDB → LogDB × Bool
  | 0, db => (db, true)
  | turns + 1, db =>
    if db.lastApplied < commitIndex then
      match db.getLogRecord (db.lastApplied + 1) db.lastApplied with
      | none => (db, false)
      | some lr =>
        match db.applyLogRecord lr (rc lr.index) with
        | (db, true) => applyLoop commitIndex rc turns db
        | (db, false) => (db, false)
    else (db, true)

def applyLogRecords (db : LogDB) (commitIndex : Nat) (rc : Nat → SqlError) : LogDB × Bool :=
  applyLoop commitIndex rc (commitIndex - db.lastApplied) db

/-- What `_exec_wr` meets outside of the log. -/
structure WriteOutcome where
  stored : Bool
  isLeader : Bool
  term : Nat
  /-- a majority has the record and the server is still the leader -/
  replicated : Bool
  /-- the outcome of executing the command of the record `index` -/
  rc : Nat → SqlError

/-- The record of a command that was executed in solo mode.  The result of the
insert is not read. -/
def insertSolo (db : LogDB) (cmd : String) (federated : Option Nat) (stored : Bool) : LogDB :=
  let db := match (if stored then db.insertLogRecord 0 cmd true federated else none) with
    | none => db
    | some (db, _) => db
  { db with lastApplied := db.lastIndex }

def markExecuted (db : LogDB) (cmd : String) (federated : Option Nat) : LogDB :=
  let fed := if federated = some 0 then some db.nextIndex else federated
  { db with executed := db.executed ++ [(db.nextIndex, ⟨0, cmd, fed⟩)] }

def execWr (db : LogDB) (cmd : String) (federated : Option Nat) (outcome : WriteOutcome) : LogDB × Bool :=
  if db.solo then
    if outcome.rc db.nextIndex = .success then
      ((db.markExecuted cmd federated).insertSolo cmd federated outcome.stored, true)
    else (db, false)
  else if db.cache then (db, false)
  else if outcome.isLeader = false then (db, false)
  else
    match (if outcome.stored then db.insertLogRecord outcome.term cmd false federated else none) with
    | none => (db, false)
    | some (db, rindex) =>
      if outcome.replicated then db.applyLogRecords rindex outcome.rc else (db, false)

/-- The constructor on the stored rows: inserts record 0 when it is missing, with
the start time as its command, and reads the indexes. -/
def load (solo cache : Bool) (table : Map Nat LogRow) (raftState : Option RaftState)
    (executed : List (Nat × LogEntry)) (now : String) : LogDB :=
  let db : LogDB := { solo, cache, table, raftState, executed, nextIndex := 0, lastApplied := 0,
                      lastIndex := 0, lastTerm := 0, fedLog := ∅ }
  let db := match db.getLogRecord 0 0 with
    | some _ => db
    | none => (db.insertReplica 0 0 now true none false).getD db
  db.setupIndex.1

end LogDB

end OpenNebula.Sql
