import OpenNebula.Raft.Cluster
import OpenNebula.Raft.Handlers

namespace OpenNebula.Raft

open Library Sql

/-! # The handlers of one server, lock by lock

Threads of the server run `ZoneAPI::vote` and `ZoneAPI::replicate_log` at the
same time.  Each call of `RaftManager` or `LogDB` takes its lock, works and
releases it; between two calls other threads run.  A phase names the call that a
thread is about to make, with the local variables it still needs.
-/

structure VoteRequest where
  candidateTerm : Nat
  candidateId : Int
  candidateLogIndex : Nat
  candidateLogTerm : Nat
  oneadmin : Bool
deriving DecidableEq

inductive VotePhase where
  | getTerm
  | getLastRecordIndex (currentTerm : Nat)
  | follower (currentTerm logIndex logTerm : Nat)
  | updateVotedfor (currentTerm : Nat)
  | answered (response : Response)
deriving DecidableEq

namespace VoteRequest

def checkLog (request : VoteRequest) (currentTerm logIndex logTerm : Nat) : VotePhase :=
  if request.candidateLogTerm < logTerm ∨
      (logTerm = request.candidateLogTerm ∧ request.candidateLogIndex < logIndex) then
    .answered ⟨.action, currentTerm, "Candidate's log is outdated"⟩
  else .updateVotedfor currentTerm

def checkTerm (request : VoteRequest) (cache : Bool) (currentTerm logIndex logTerm : Nat) : VotePhase :=
  if request.candidateId < 0 then .answered ⟨.internal, currentTerm, ""⟩
  else if request.oneadmin = false then .answered ⟨.authorization, currentTerm, ""⟩
  else if cache then .answered ⟨.action, 0, "Server is in cache mode."⟩
  else if request.candidateTerm < currentTerm then
    .answered ⟨.action, currentTerm, "Candidate's term is outdated"⟩
  else if currentTerm < request.candidateTerm then .follower currentTerm logIndex logTerm
  else request.checkLog currentTerm logIndex logTerm

def step (request : VoteRequest) (oned : Oned) : VotePhase → Option (Oned × VotePhase)
  | .getTerm => some (oned, .getLastRecordIndex oned.raft.term)
  | .getLastRecordIndex currentTerm =>
    let (logIndex, logTerm) := oned.logdb.getLastRecordIndex
    some (oned, request.checkTerm oned.logdb.cache currentTerm logIndex logTerm)
  | .follower currentTerm logIndex logTerm =>
    some (oned.follower request.candidateTerm, request.checkLog currentTerm logIndex logTerm)
  | .updateVotedfor currentTerm =>
    match oned.updateVotedfor request.candidateId with
    | none =>
      some (oned, .answered ⟨.action, currentTerm, "Already voted for another candidate"⟩)
    | some oned => some (oned, .answered ⟨.success, currentTerm, ""⟩)
  | .answered _ => none

def alone (request : VoteRequest) : Nat → Oned × VotePhase → Oned × VotePhase
  | 0, thread => thread
  | calls + 1, thread =>
    match request.step thread.1 thread.2 with
    | none => thread
    | some next => request.alone calls next

end VoteRequest

inductive ReplicatePhase where
  | getTerm
  | newTerm (currentTerm : Nat)
  | isCandidate (currentTerm : Nat)
  | stepDown (currentTerm : Nat)
  | updateLastHeartbeat (currentTerm : Nat)
  | getLastRecordIndex (currentTerm : Nat)
  | loadPrevious (currentTerm : Nat)
  | loadRecord (currentTerm : Nat)
  | deleteLogRecords (currentTerm : Nat)
  | insertLogRecord (currentTerm : Nat)
  | updateCommit (currentTerm index : Nat)
  | applyLogRecords (currentTerm commit : Nat)
  | answered (response : Response)

namespace ReplicateLogParams

def checkTerm (params : ReplicateLogParams) (oneadmin cache : Bool) (currentTerm : Nat) : ReplicatePhase :=
  if oneadmin = false then .answered ⟨.authorization, currentTerm, ""⟩
  else if cache then .answered ⟨.action, 0, "Server is in cache mode."⟩
  else if params.leaderTerm < currentTerm then
    .answered ⟨.action, currentTerm, "Leader term (" ++ toString params.leaderTerm ++
      ") is outdated (" ++ toString currentTerm ++ ")"⟩
  else if currentTerm < params.leaderTerm then .newTerm currentTerm
  else .isCandidate currentTerm

def step (params : ReplicateLogParams) (oneadmin : Bool) (answers : ZoneAPI.Answers) (rc : Nat → SqlError)
    (oned : Oned) : ReplicatePhase → Option (Oned × ReplicatePhase)
  | .getTerm => some (oned, params.checkTerm oneadmin oned.logdb.cache oned.raft.term)
  | .newTerm currentTerm => some (oned.follower params.leaderTerm, .isCandidate currentTerm)
  | .isCandidate currentTerm =>
    some (oned, if oned.raft.state = .candidate then .stepDown currentTerm
      else .updateLastHeartbeat currentTerm)
  | .stepDown currentTerm =>
    some (oned.follower params.leaderTerm, .updateLastHeartbeat currentTerm)
  | .updateLastHeartbeat currentTerm =>
    some ({ oned with raft := oned.raft.updateLastHeartbeat params.leaderId },
      if ZoneAPI.isHeartbeat params then .getLastRecordIndex currentTerm
      else if params.sql = "" then
        .answered ⟨.action, currentTerm, "Empty SQL command in log record"⟩
      else .loadPrevious currentTerm)
  | .getLastRecordIndex currentTerm =>
    some (oned, .updateCommit currentTerm oned.logdb.getLastRecordIndex.1)
  | .loadPrevious currentTerm =>
    some (oned, match ZoneAPI.checkPrevious answers oned.logdb params with
      | some error => .answered ⟨.action, currentTerm, error⟩
      | none => .loadRecord currentTerm)
  | .loadRecord currentTerm =>
    some (oned, match answers.record (oned.logdb.getLogRecord params.index (params.index - 1)) with
      | some lr => if lr.term ≠ params.term then .deleteLogRecords currentTerm
          else .answered ⟨.success, currentTerm, ""⟩
      | none => .insertLogRecord currentTerm)
  | .deleteLogRecords currentTerm =>
    some ({ oned with logdb := ZoneAPI.deleteRecords oned answers params }, .insertLogRecord currentTerm)
  | .insertLogRecord currentTerm =>
    match ZoneAPI.writeRecord oned answers params with
    | none => some (oned, .answered ⟨.action, currentTerm, "Error writing log record"⟩)
    | some logdb => some ({ oned with logdb }, .updateCommit currentTerm params.index)
  | .updateCommit currentTerm index =>
    let (raft, commit) := oned.raft.updateCommit params.leaderCommit index
    some ({ oned with raft }, .applyLogRecords currentTerm commit)
  | .applyLogRecords currentTerm commit =>
    some ({ oned with logdb := (oned.logdb.applyLogRecords commit rc).1 }, .answered ⟨.success, currentTerm, ""⟩)
  | .answered _ => none

def alone (params : ReplicateLogParams) (oneadmin : Bool) (answers : ZoneAPI.Answers) (rc : Nat → SqlError) :
    Nat → Oned × ReplicatePhase → Oned × ReplicatePhase
  | 0, thread => thread
  | calls + 1, thread =>
    match params.step oneadmin answers rc thread.1 thread.2 with
    | none => thread
    | some next => params.alone oneadmin answers rc calls next

end ReplicateLogParams

/-! ## One thread alone

Without other threads in between, the calls of a thread are the handler. -/

namespace VoteRequest

variable (request : VoteRequest) (oned : Oned) (calls currentTerm : Nat)

@[simp] theorem alone_answered (response : Response) :
    request.alone calls (oned, .answered response) = (oned, .answered response) := by
  cases calls <;> rfl

theorem alone_updateVotedfor : request.alone (calls + 1) (oned, .updateVotedfor currentTerm) =
      match oned.updateVotedfor request.candidateId with
      | none => (oned, .answered ⟨.action, currentTerm, "Already voted for another candidate"⟩)
      | some oned => (oned, .answered ⟨.success, currentTerm, ""⟩) := by
  cases updated : oned.updateVotedfor request.candidateId with
  | none | some voted => simp [alone, step, updated]

theorem alone_checkLog (logIndex logTerm : Nat) :
    request.alone (calls + 1) (oned, request.checkLog currentTerm logIndex logTerm) =
      if request.candidateLogTerm < logTerm ∨
          (logTerm = request.candidateLogTerm ∧ request.candidateLogIndex < logIndex) then
        (oned, .answered ⟨.action, currentTerm, "Candidate's log is outdated"⟩) else
        match oned.updateVotedfor request.candidateId with
        | none => (oned, .answered ⟨.action, currentTerm, "Already voted for another candidate"⟩)
        | some oned => (oned, .answered ⟨.success, currentTerm, ""⟩) := by
  rw [checkLog]
  split
  · rw [alone_answered]
  · rw [alone_updateVotedfor]

theorem alone_vote : request.alone 4 (oned, .getTerm) =
      let (after, response) := ZoneAPI.vote oned request.candidateTerm request.candidateId
        request.candidateLogIndex request.candidateLogTerm request.oneadmin
      (after, .answered response) := by
  change request.alone 2 (oned, request.checkTerm oned.logdb.cache oned.raft.term
    oned.logdb.lastIndex oned.logdb.lastTerm) = _
  simp only [checkTerm, ZoneAPI.vote, LogDB.getLastRecordIndex]
  split_ifs with negative admin cached outdated newer old old'
  all_goals try rfl
  · change request.alone 1 (oned.follower request.candidateTerm,
      request.checkLog oned.raft.term oned.logdb.lastIndex oned.logdb.lastTerm) = _
    rw [alone_checkLog, if_pos old]
  · change request.alone 1 (oned.follower request.candidateTerm,
      request.checkLog oned.raft.term oned.logdb.lastIndex oned.logdb.lastTerm) = _
    rw [alone_checkLog, if_neg old]
    cases updated : (oned.follower request.candidateTerm).updateVotedfor request.candidateId <;> rfl
  · rw [alone_checkLog, if_pos old']
  · rw [alone_checkLog, if_neg old']
    cases updated : oned.updateVotedfor request.candidateId <;> rfl

end VoteRequest

namespace ReplicateLogParams

variable (params : ReplicateLogParams) (oneadmin : Bool) (answers : ZoneAPI.Answers) (rc : Nat → SqlError)
  (oned : Oned) (calls currentTerm : Nat)

@[simp] theorem alone_answered (response : Response) :
    params.alone oneadmin answers rc calls (oned, .answered response) = (oned, .answered response) := by
  cases calls <;> rfl

end ReplicateLogParams

/-! ## The threads of a server

The timer thread runs elections, each with replies of any kind; threads of a
leader step down when a reply has a higher term. -/

/-- A server, and the handlers started so far. -/
structure Voter where
  node : Node
  votes : List (VoteRequest × VotePhase)
  replicas : List ((ReplicateLogParams × Bool) × ReplicatePhase)

inductive VoterEvent where
  | vote (request : VoteRequest)
  | voteStep (thread : Nat)
  | replicate (params : ReplicateLogParams) (oneadmin : Bool)
  | replicateStep (thread : Nat) (answers : ZoneAPI.Answers) (rc : Nat → SqlError)
  | timeout
  | startElection
  | voteCall (call : Nat)
  | voteReply (reply : Option Reply)
  | endElection
  /-- `follower()` of a replication or heartbeat thread -/
  | stepDown (term : Nat)

namespace Voter

def setOned (voter : Voter) (oned : Oned) : Voter :=
  { voter with node := { voter.node with oned } }

/-- `request_vote` never asks its own server. -/
def step (servers : List Int) (voter : Voter) : VoterEvent → Option Voter
  | .vote request =>
    if request.candidateId = voter.node.oned.raft.serverId then none
    else some { voter with votes := voter.votes ++ [(request, .getTerm)] }
  | .voteStep thread =>
    match voter.votes[thread]? with
    | none => none
    | some (request, phase) =>
      (request.step voter.node.oned phase).map fun (oned, phase) =>
        { voter.setOned oned with votes := voter.votes.set thread (request, phase) }
  | .replicate params oneadmin =>
    some { voter with replicas := voter.replicas ++ [((params, oneadmin), .getTerm)] }
  | .replicateStep thread answers rc =>
    match voter.replicas[thread]? with
    | none => none
    | some ((params, oneadmin), phase) =>
      (params.step oneadmin answers rc voter.node.oned phase).map fun (oned, phase) =>
        { voter.setOned oned with
          replicas := voter.replicas.set thread ((params, oneadmin), phase) }
  | .timeout => voter.node.timeout.map fun node => { voter with node }
  | .startElection => (voter.node.startElection servers).map fun node => { voter with node }
  | .voteCall call => (voter.node.voteCall call).map fun (node, _) => { voter with node }
  | .voteReply reply =>
    (voter.node.voteReply reply.toList (reply.map fun _ => 0)).map fun node => { voter with node }
  | .endElection => voter.node.endElection.map fun node => { voter with node }
  | .stepDown term => some (voter.setOned (voter.node.oned.follower term))

def system (id : Int) (servers : List Int) : System Voter VoterEvent where
  initial := fun voter => ∃ stored now, voter =
    { node := Node.start id stored servers now, votes := [], replicas := [] }
  step := step servers

end Voter

end OpenNebula.Raft
