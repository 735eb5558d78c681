import OpenNebula.Raft.RaftManager

namespace OpenNebula.Raft

open Library Sql

/-! # The handlers of the Raft calls (`ZoneAPI`) -/

inductive ErrorCode where
  | success | authorization | internal | action | replication
deriving DecidableEq

/-- The error code and the attributes `resp_id` and `resp_msg` of the request. -/
structure Response where
  code : ErrorCode
  respId : Nat
  respMsg : String
deriving DecidableEq

structure ReplicateLogParams where
  leaderId : Int
  leaderCommit : Nat
  leaderTerm : Nat
  index : Nat
  term : Nat
  prevIndex : Nat
  prevTerm : Nat
  fedIndex : Option Nat
  sql : String

namespace ZoneAPI

/-- What the statements of a replication on `logdb` do.  A read returns the record, or something else: on
SQLite a SELECT without rows counts the rows of the last write, and then the record has never been filled. -/
structure Answers where
  previous : Option LogDBRecord → Option LogDBRecord := id
  record : Option LogDBRecord → Option LogDBRecord := id
  deletes : Bool := true
  inserts : Bool := true
  /-- A record is found at the index when REPLACE has failed. -/
  duplicate : Bool := false

def isHeartbeat (params : ReplicateLogParams) : Bool :=
  params.index = 0 ∧ params.prevIndex = 0 ∧ params.term = 0 ∧ params.prevTerm = 0 ∧ params.sql = ""

section

variable (oned : Oned)

def advanceCommit (leaderCommit index : Nat) (rc : Nat → SqlError) : Oned :=
  let (raft, newCommit) := oned.raft.updateCommit leaderCommit index
  { raft, logdb := (oned.logdb.applyLogRecords newCommit rc).1 }

def followLeader (leaderId : Int) (leaderTerm : Nat) : Oned :=
  let oned := if oned.raft.term < leaderTerm then oned.follower leaderTerm else oned
  let oned := if oned.raft.state = .candidate then oned.follower leaderTerm else oned
  { oned with raft := oned.raft.updateLastHeartbeat leaderId }

variable (answers : Answers)

def checkPrevious (logdb : LogDB) (params : ReplicateLogParams) : Option String :=
  if 0 < params.index then
    match answers.previous (logdb.getLogRecord params.prevIndex (params.prevIndex - 1)) with
    | none => some "Error loading previous log record"
    | some prevLr =>
      if prevLr.term ≠ params.prevTerm then some "Previous log record missmatch" else none
  else none

section

variable (params : ReplicateLogParams)

def writeRecord : Option LogDB :=
  if answers.inserts then
    oned.logdb.insertReplica params.index params.term params.sql false params.fedIndex true
  else if answers.duplicate then some (oned.logdb.noteReplica params.index params.term params.fedIndex)
  else none

/-- That DELETE fails is not looked at. -/
def deleteRecords : LogDB :=
  if answers.deletes then oned.logdb.deleteLogRecords params.index else oned.logdb

def insertRecord (rc : Nat → SqlError) (currentTerm : Nat) : Oned × Response :=
  match writeRecord oned answers params with
  | none => (oned, ⟨.action, currentTerm, "Error writing log record"⟩)
  | some logdb =>
    (advanceCommit { oned with logdb } params.leaderCommit params.index rc, ⟨.success, currentTerm, ""⟩)

def receive (rc : Nat → SqlError) (currentTerm : Nat) : Oned × Response :=
  if isHeartbeat params then
    let (lindex, _) := oned.logdb.getLastRecordIndex
    (advanceCommit oned params.leaderCommit lindex rc, ⟨.success, currentTerm, ""⟩)
  else if params.sql = "" then
    (oned, ⟨.action, currentTerm, "Empty SQL command in log record"⟩)
  else
    match checkPrevious answers oned.logdb params with
    | some error => (oned, ⟨.action, currentTerm, error⟩)
    | none =>
      match answers.record (oned.logdb.getLogRecord params.index (params.index - 1)) with
      | some lr =>
        if lr.term ≠ params.term then
          insertRecord { oned with logdb := deleteRecords oned answers params } answers params rc currentTerm
        else (oned, ⟨.success, currentTerm, ""⟩)
      | none => insertRecord oned answers params rc currentTerm

/-- `rc index` is the outcome of executing the command of the record `index`. -/
def replicateLog (oneadmin : Bool)
    (rc : Nat → SqlError) : Oned × Response :=
  let currentTerm := oned.raft.term
  if oneadmin = false then (oned, ⟨.authorization, currentTerm, ""⟩)
  else if oned.logdb.cache then (oned, ⟨.action, 0, "Server is in cache mode."⟩)
  else if params.leaderTerm < currentTerm then
    (oned, ⟨.action, currentTerm, "Leader term (" ++ toString params.leaderTerm ++
      ") is outdated (" ++ toString currentTerm ++ ")"⟩)
  else receive (followLeader oned params.leaderId params.leaderTerm) answers params rc currentTerm

end

def vote (candidateTerm : Nat) (candidateId : Int)
    (candidateLogIndex candidateLogTerm : Nat) (oneadmin : Bool) : Oned × Response :=
  let currentTerm := oned.raft.term
  let (logIndex, logTerm) := oned.logdb.getLastRecordIndex
  if candidateId < 0 then (oned, ⟨.internal, currentTerm, ""⟩)
  else if oneadmin = false then (oned, ⟨.authorization, currentTerm, ""⟩)
  else if oned.logdb.cache then (oned, ⟨.action, 0, "Server is in cache mode."⟩)
  else if candidateTerm < currentTerm then
    (oned, ⟨.action, currentTerm, "Candidate's term is outdated"⟩)
  else
    let oned := if currentTerm < candidateTerm then oned.follower candidateTerm else oned
    if candidateLogTerm < logTerm ∨ (logTerm = candidateLogTerm ∧ candidateLogIndex < logIndex) then
      (oned, ⟨.action, currentTerm, "Candidate's log is outdated"⟩)
    else
      match oned.updateVotedfor candidateId with
      | none => (oned, ⟨.action, currentTerm, "Already voted for another candidate"⟩)
      | some oned => (oned, ⟨.success, currentTerm, ""⟩)

end

end ZoneAPI

end OpenNebula.Raft
