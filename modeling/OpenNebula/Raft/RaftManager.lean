import OpenNebula.Sql.LogDB
import OpenNebula.Raft.ReplicaRequest

namespace OpenNebula.Raft

open Library Sql

/-! # Raft state of a server (`RaftManager`, `ReplicaManager`)

Terms and indexes are natural numbers; -1 is no vote and no leader.  Hooks, the
information manager, ACL reload and the threads of the federation do not touch
this state and are left out, as are the endpoints of the servers.
-/

inductive State where
  | solo | candidate | follower | leader
deriving DecidableEq

/-- A remote call that a replication thread waits for: its identification, and
the local variables `term` and `next_index` of `replicate()`. -/
structure Call where
  id : Nat
  term : Nat
  nextIndex : Nat

structure ReplicaThread where
  pendingRequests : Bool
  retryRequest : Bool
  call : Option Call

abbrev ReplicaManager := Map Int ReplicaThread

namespace ReplicaManager

def idle : ReplicaThread := { pendingRequests := false, retryRequest := false, call := none }

def addReplicaThread (thisId followerId : Int) (pool : ReplicaManager) : ReplicaManager :=
  if followerId = thisId then pool else Map.insertNew followerId idle pool

def startReplicaThreads (thisId : Int) (fids : List Int) (pool : ReplicaManager) : ReplicaManager :=
  fids.foldl (fun pool id => addReplicaThread thisId id pool) pool

def replicateAll (pool : ReplicaManager) : ReplicaManager :=
  Map.modify (fun _ thread => { thread with pendingRequests := true }) pool

def replicate (followerId : Int) (pool : ReplicaManager) : ReplicaManager :=
  Map.modify (fun id thread =>
    if id = followerId then { thread with pendingRequests := true } else thread) pool

def calls (pool : ReplicaManager) : List (Int × Call) :=
  pool.entries.filterMap fun thread => thread.2.call.map (thread.1, ·)

end ReplicaManager

structure RaftManager where
  requests : ReplicaRequestMap
  state : State
  serverId : Int
  term : Nat
  numServers : Nat
  votedfor : Int
  leaderId : Int
  /-- the template written to the database -/
  raftState : RaftState
  reconciling : Bool
  replicaManager : ReplicaManager
  heartbeatManager : ReplicaManager
  /-- threads that left the pools during a call -/
  finalized : List (Int × Call)
  finalizedHeartbeats : List (Int × Call)
  commit : Nat
  next : Map Int Nat
  matched : Map Int Nat
  servers : List Int

namespace RaftManager

def make (id : Int) (stored : Option RaftState) (servers : List Int) : RaftManager :=
  let raftState := stored.getD ⟨0, -1⟩
  { requests := ⟨∅, ∅⟩, state := if id = -1 then .solo else .follower, serverId := id,
    term := raftState.term, numServers := servers.length, votedfor := raftState.votedfor,
    leaderId := -1, raftState, reconciling := false, replicaManager := ∅, heartbeatManager := ∅,
    finalized := [], finalizedHeartbeats := [], commit := 0, next := ∅, matched := ∅, servers }

section

variable (raft : RaftManager)

section

variable (followerId : Int)

def addServer (logIndex : Nat) : RaftManager :=
  if raft.state ≠ .leader then raft else
    { raft with
      numServers := raft.numServers + 1
      servers := if followerId ∈ raft.servers then raft.servers else raft.servers ++ [followerId]
      next := Map.insertNew followerId (logIndex + 1) raft.next
      matched := Map.insertNew followerId 0 raft.matched
      replicaManager := raft.replicaManager.addReplicaThread raft.serverId followerId
      heartbeatManager := raft.heartbeatManager.addReplicaThread raft.serverId followerId }

def deleteServer : RaftManager :=
  if raft.state ≠ .leader then raft else
    { raft with
      numServers := raft.numServers - 1
      servers := raft.servers.erase followerId
      next := raft.next.erase followerId
      matched := raft.matched.erase followerId
      finalized := raft.finalized ++ raft.replicaManager.calls.filter fun call => call.1 = followerId
      finalizedHeartbeats :=
        raft.finalizedHeartbeats ++ raft.heartbeatManager.calls.filter fun call => call.1 = followerId
      replicaManager := raft.replicaManager.erase followerId
      heartbeatManager := raft.heartbeatManager.erase followerId }

def resetIndex (logIndex : Nat) : RaftManager :=
  { raft with
    next := Map.modify (fun id next => if id = followerId then logIndex + 1 else next) raft.next }

def leader (raft : RaftManager) (applied index : Nat) : RaftManager :=
  if raft.state ≠ .candidate then raft else
    let nextIndex := if applied < index then index else index + 1
    let followerIds := raft.servers.filter (· ≠ raft.serverId)
    { raft with
      next := followerIds.foldl (fun next id => Map.insertNew id nextIndex next) ∅
      matched := followerIds.foldl (fun matched id => Map.insertNew id 0 matched) ∅
      requests := raft.requests.clear
      state := .leader
      commit := applied
      leaderId := raft.serverId
      reconciling := if applied < index then true else raft.reconciling
      replicaManager := raft.replicaManager.startReplicaThreads raft.serverId followerIds
      heartbeatManager := (raft.heartbeatManager.startReplicaThreads raft.serverId followerIds).replicateAll }

def follower (raft : RaftManager) (term applied : Nat) : RaftManager :=
  let raft := { raft with
    finalized := raft.finalized ++ raft.replicaManager.calls
    finalizedHeartbeats := raft.finalizedHeartbeats ++ raft.heartbeatManager.calls
    replicaManager := ∅
    heartbeatManager := ∅
    state := .follower }
  let raft := if raft.term < term then
    { raft with term, votedfor := -1, raftState := ⟨term, -1⟩ } else raft
  { raft with
    commit := applied
    leaderId := -1
    next := ∅
    matched := ∅
    requests := raft.requests.clear }

def replicated (index : Nat) : Nat :=
  (raft.next.entries.filter fun follower => index < follower.2).length

def replicateLog (request : Nat) : RaftManager :=
  match raft.requests.objects.lookup request with
  | none => raft
  | some rr =>
    if raft.state ≠ .leader then
      { raft with requests := (raft.requests.update request .notify).remove rr.index }
    else
      let toCommit : Int := (raft.numServers / 2 : Nat) - (raft.replicated rr.index : Int)
      let raft := { raft with
        replicaManager := raft.next.entries.foldl
          (fun (pool : ReplicaManager) (follower : Σ _ : Int, Nat) =>
            if rr.index < follower.2 then pool else pool.replicate follower.1)
          raft.replicaManager }
      if toCommit ≤ 0 then
        { raft with
          requests := (raft.requests.update request fun rr =>
            { rr.notify with result := true, timeout := false }).remove rr.index
          commit := rr.index }
      else
        { raft with
          requests := (raft.requests.update request fun rr =>
            { rr with toCommit := toCommit }).set rr.index request }

def replicateSuccess (dbLindex : Nat) : RaftManager :=
  match raft.next.lookup followerId, raft.matched.lookup followerId with
  | some replicatedIndex, some _ =>
    let (requests, toCommit) := raft.requests.addReplica replicatedIndex
    let raft := { raft with
      matched := raft.matched.insert followerId replicatedIndex
      next := raft.next.insert followerId (replicatedIndex + 1)
      requests
      commit := if toCommit = 0 then replicatedIndex else raft.commit }
    if replicatedIndex < dbLindex ∧ raft.state = .leader ∧
        raft.requests.isReplicable (replicatedIndex + 1) then
      { raft with replicaManager := raft.replicaManager.replicate followerId }
    else raft
  | _, _ => raft

def replicateFailure : RaftManager :=
  let raft := match raft.next.lookup followerId with
    | some next =>
      if 0 < next then { raft with next := raft.next.insert followerId (next - 1) } else raft
    | none => raft
  if raft.state = .leader then
    { raft with replicaManager := raft.replicaManager.replicate followerId }
  else raft

end

def replicateAllocate (rindex : Nat) : RaftManager :=
  { raft with requests := raft.requests.allocate rindex }

def updateLastHeartbeat (leaderId : Int) : RaftManager :=
  { raft with leaderId }

def updateCommit (leaderCommit index : Nat) : RaftManager × Nat :=
  let commit := if raft.commit < leaderCommit then
    (if index < leaderCommit then index else leaderCommit) else raft.commit
  ({ raft with commit }, commit)

def updateVotedfor (votedfor : Int) : Option RaftManager :=
  if raft.votedfor ≠ -1 ∧ raft.votedfor ≠ votedfor then none
  else some { raft with votedfor, raftState := { raft.raftState with votedfor } }

/-- First block of the loop in `request_vote`. -/
def startElection (servers : List Int) : RaftManager :=
  { raft with
    servers
    numServers := servers.length
    term := raft.term + 1
    votedfor := raft.serverId
    leaderId := -1
    raftState := ⟨raft.term + 1, raft.serverId⟩ }

/-- Last block of the loop in `request_vote`. -/
def clearVote : RaftManager :=
  { raft with votedfor := -1, raftState := { raft.raftState with votedfor := -1 } }

end

end RaftManager

/-! # The daemon -/

structure Oned where
  raft : RaftManager
  logdb : LogDB

namespace Oned

def start (id : Int) (stored : LogDB) (servers : List Int) (now : String) : Oned :=
  let logdb := LogDB.load false false stored.table stored.raftState stored.executed now
  let raft := RaftManager.make id logdb.getRaftState servers
  { raft, logdb := logdb.updateRaftState raft.raftState }

def leader (oned : Oned) : Oned :=
  let (logdb, applied, index) := oned.logdb.setupIndex
  { raft := oned.raft.leader applied index, logdb }

def follower (oned : Oned) (term : Nat) : Oned :=
  let (logdb, applied, _) := oned.logdb.setupIndex
  let raft := oned.raft.follower term applied
  { raft, logdb := if oned.raft.term < term then logdb.updateRaftState raft.raftState else logdb }

def updateVotedfor (oned : Oned) (votedfor : Int) : Option Oned :=
  (oned.raft.updateVotedfor votedfor).map fun raft =>
    { raft, logdb := oned.logdb.updateRaftState raft.raftState }

def startElection (oned : Oned) (servers : List Int) : Oned :=
  let raft := oned.raft.startElection servers
  { raft, logdb := oned.logdb.updateRaftState raft.raftState }

def clearVote (oned : Oned) : Oned :=
  let raft := oned.raft.clearVote
  { raft, logdb := oned.logdb.updateRaftState raft.raftState }

def insertLogRecord (oned : Oned) (term : Nat) (cmd : String) (federated : Option Nat) : Option (Oned × Nat) :=
  (oned.logdb.insertLogRecord term cmd false federated).map fun (logdb, rindex) =>
    ({ raft := oned.raft.replicateAllocate rindex, logdb }, rindex)

end Oned

end OpenNebula.Raft
