import Mathlib.Logic.Function.Basic
import OpenNebula.Library.Transition
import OpenNebula.Raft.ZoneAPI

namespace OpenNebula.Raft

open Library Sql

/-! # The servers of a zone and their network

One event is one uninterrupted piece of a thread: a handler of `ZoneAPI`, the
part of `request_vote` or of `replicate()` between two remote calls, the part of
a client write between two waits.  A request that was sent stays in the network:
it can be delivered late, many times, or never; each delivery adds a reply, and
the caller takes one of the replies to its call or gives up.
-/

inductive Request where
  | vote (candidateTerm : Nat) (candidateId : Int) (candidateLogIndex candidateLogTerm : Nat)
  /-- `log` is history: the table of the sender at that moment, read by no handler -/
  | replicate (params : ReplicateLogParams) (log : Map Nat LogRow)

structure Packet where
  id : Nat
  dest : Int
  body : Request

structure Reply where
  id : Nat
  success : Bool
  term : Nat

/-- The local variables of `request_vote`; `call` is the vote request it waits for. -/
structure Election where
  term : Nat
  lindex : Nat
  lterm : Nat
  grantedVotes : Nat
  votes2go : Nat
  remaining : List Int
  call : Option (Nat × Int)
deriving DecidableEq

inductive TimerThread where
  | idle
  | electing
  | polling (election : Election)
deriving DecidableEq

inductive WriterPhase where
  /-- before `replicate_log` -/
  | inserted
  | waiting
  | applying
  | returned (success : Bool)
deriving DecidableEq

/-- A thread in `_exec_wr`, or the thread of a new leader that replicates its log
(`cmd = none`).  Its number is the pointer to its replica request. -/
structure Writer where
  cmd : Option String
  term : Nat
  rindex : Nat
  phase : WriterPhase
deriving DecidableEq

structure Node where
  oned : Oned
  timer : TimerThread
  writers : Map Nat Writer
  nextWriter : Nat

structure Cluster where
  node : Int → Node
  nextCall : Nat
  requests : List Packet
  replies : List Reply

inductive ThreadRef where
  | pool (followerId : Int)
  | finalized (position : Nat)

inductive Event where
  /-- `timer_action` of a follower without heartbeats -/
  | timeout (id : Int)
  | startElection (id : Int)
  | voteCall (id : Int)
  /-- position of the reply, `none` for a failed call -/
  | voteReply (id : Int) (reply : Option Nat)
  | endElection (id : Int)
  /-- a request reaches its server -/
  | deliver (packet : Nat) (rc : Nat → SqlError)
  /-- `timer_action` of a leader -/
  | heartbeat (id : Int)
  | heartbeatCall (id followerId : Int)
  | heartbeatReply (id : Int) (thread : ThreadRef) (reply : Option Nat)
  | replicaCall (id followerId : Int)
  | replicaReply (id : Int) (thread : ThreadRef) (reply : Option Nat)
  | replicaRetry (id followerId : Int)
  /-- `_exec_wr` up to the inserted record -/
  | write (id : Int) (cmd : String) (federated : Option Nat)
  | replicate (id : Int) (writer : Nat)
  | wake (id : Int) (writer : Nat)
  | apply (id : Int) (writer : Nat) (rc : Nat → SqlError)
  | restart (id : Int) (now : String)

def Event.server : Event → Option Int
  | .deliver _ _ => none
  | .timeout id | .startElection id | .voteCall id | .voteReply id _ | .endElection id
  | .heartbeat id | .heartbeatCall id _ | .heartbeatReply id _ _ | .replicaCall id _
  | .replicaReply id _ _ | .replicaRetry id _ | .write id _ _ | .replicate id _ | .wake id _
  | .apply id _ _ | .restart id _ => some id

namespace Node

def start (id : Int) (stored : LogDB) (servers : List Int) (now : String) : Node :=
  { oned := Oned.start id stored servers now, timer := .idle, writers := ∅, nextWriter := 0 }

def boot (id : Int) (servers : List Int) (now : Nat) : Node :=
  start id { solo := false, cache := false, table := ∅, raftState := none, executed := [],
             nextIndex := 0, lastApplied := 0, lastIndex := 0, lastTerm := 0, fedLog := ∅ }
    servers (toString now)

section

variable (node : Node)

def setRaft (raft : RaftManager) : Node :=
  { node with oned := { node.oned with raft } }

def setElection (election : Election) : Node :=
  { node with timer := .polling election }

def timeout : Option Node :=
  if node.timer = .idle ∧ node.oned.raft.state = .follower then
    some { node.setRaft { node.oned.raft with state := .candidate } with timer := .electing }
  else none

def startElection (node : Node) (servers : List Int) : Option Node :=
  if node.timer ≠ .electing then none
  else if node.oned.raft.state ≠ .candidate then some { node with timer := .idle }
  else
    let oned := node.oned.startElection servers
    let (lindex, lterm) := oned.logdb.getLastRecordIndex
    some { node with
      oned
      timer := .polling
        { term := oned.raft.term, lindex, lterm, grantedVotes := 0,
          votes2go := oned.raft.numServers / 2,
          remaining := servers.filter (· ≠ oned.raft.serverId), call := none } }

/-- The next vote request: the follower and the request.  The request carries
the current term, and the log index in 32 bits. -/
def voteCall (call : Nat) : Option (Node × Option Packet) :=
  match node.timer with
  | .polling election =>
    match election.call, election.remaining with
    | none, followerId :: remaining =>
      if election.votes2go ≤ election.grantedVotes then none
      else if followerId ∉ node.oned.raft.servers then
        some (node.setElection { election with remaining }, none)
      else
        some (node.setElection { election with remaining, call := some (call, followerId) },
          some { id := call, dest := followerId,
                 body := .vote node.oned.raft.term node.oned.raft.serverId
                   (election.lindex % 2 ^ 32) election.lterm })
    | _, _ => none
  | _ => none

section

variable (replies : List Reply)

def voteReply (reply : Option Nat) : Option Node :=
  match node.timer with
  | .polling election =>
    match election.call with
    | none => none
    | some (call, _) =>
      match reply with
      | none => some (node.setElection { election with call := none })
      | some position =>
        match replies[position]? with
        | none => none
        | some answer =>
          if answer.id ≠ call then none
          else if answer.success then
            some (node.setElection { election with call := none, grantedVotes := election.grantedVotes + 1 })
          else if election.term < answer.term then
            some { node with oned := node.oned.follower answer.term, timer := .idle }
          else some (node.setElection { election with call := none })
  | _ => none

/-- `leader()`; a leader with records that are not applied starts a thread that
replicates its last record. -/
def becomeLeader : Node :=
  let (_, applied, index) := node.oned.logdb.setupIndex
  let oned := node.oned.leader
  if node.oned.raft.state = .candidate ∧ applied < index then
    { node with
      oned
      timer := .idle
      writers := node.writers.insert node.nextWriter
        { cmd := none, term := oned.raft.term, rindex := index, phase := .inserted }
      nextWriter := node.nextWriter + 1 }
  else { node with oned, timer := .idle }

def endElection : Option Node :=
  match node.timer with
  | .polling election =>
    if election.call ≠ none then none
    else if election.votes2go ≤ election.grantedVotes then some node.becomeLeader
    else if election.remaining ≠ [] then none
    else if node.oned.raft.state ≠ .candidate then some { node with timer := .idle }
    else some { node with oned := node.oned.clearVote, timer := .electing }
  | _ => none

def setReplica (followerId : Int) (thread : ReplicaThread) : Node :=
  node.setRaft { node.oned.raft with
    replicaManager := node.oned.raft.replicaManager.insert followerId thread }

def setHeartbeat (followerId : Int) (thread : ReplicaThread) : Node :=
  node.setRaft { node.oned.raft with
    heartbeatManager := node.oned.raft.heartbeatManager.insert followerId thread }

def heartbeat : Option Node :=
  if node.oned.raft.state = .leader then
    some (node.setRaft { node.oned.raft with
      heartbeatManager := node.oned.raft.heartbeatManager.replicateAll })
  else none

def replicatePacket (call : Nat) (followerId : Int) (lr : LogDBRecord) : Packet :=
  { id := call, dest := followerId,
    body := .replicate
      { leaderId := node.oned.raft.serverId, leaderCommit := node.oned.raft.commit,
        leaderTerm := node.oned.raft.term, index := lr.index, term := lr.term,
        prevIndex := lr.prevIndex, prevTerm := lr.prevTerm, fedIndex := lr.fedIndex, sql := lr.sql }
      node.oned.logdb.table }

def heartbeatRecord : LogDBRecord :=
  { index := 0, prevIndex := 0, term := 0, prevTerm := 0, sql := "", fedIndex := none }

/-- `HeartBeatThread::replicate` up to the call -/
def heartbeatCall (call : Nat) (followerId : Int) : Option (Node × Option Packet) :=
  match node.oned.raft.heartbeatManager.lookup followerId with
  | some thread =>
    if thread.pendingRequests ∧ thread.call = none then
      if followerId ∈ node.oned.raft.servers then
        some (node.setHeartbeat followerId
            { thread with pendingRequests := false, call := some ⟨call, node.oned.raft.term, 0⟩ },
          some (node.replicatePacket call followerId heartbeatRecord))
      else some (node.setHeartbeat followerId { thread with pendingRequests := false }, none)
    else none
  | none => none

/-- `RaftReplicaThread::replicate` up to the call -/
def replicaCall (call : Nat) (followerId : Int) (answers : ZoneAPI.Answers) : Option (Node × Option Packet) :=
  match node.oned.raft.replicaManager.lookup followerId with
  | some thread =>
    if thread.pendingRequests ∧ thread.call = none then
      let failed := (node.setReplica followerId { thread with pendingRequests := false, retryRequest := true }, none)
      match node.oned.raft.next.lookup followerId with
      | none => some failed
      | some nextIndex =>
        match answers.record (node.oned.logdb.getLogRecord nextIndex (nextIndex - 1)) with
        | none => some failed
        | some lr =>
          if followerId ∈ node.oned.raft.servers then
            some (node.setReplica followerId { thread with
                  pendingRequests := false
                  call := some ⟨call, node.oned.raft.term, nextIndex⟩ },
              some (node.replicatePacket call followerId lr))
          else some failed
    else none
  | none => none

def replicaRetry (followerId : Int) : Option Node :=
  match node.oned.raft.replicaManager.lookup followerId with
  | some thread =>
    if thread.retryRequest ∧ thread.call = none then
      some (node.setReplica followerId { thread with pendingRequests := true })
    else none
  | none => none

def endReplicaCall (thread : ThreadRef) (failed : Bool) : Option (Node × Int × Call) :=
  match thread with
  | .pool followerId =>
    match node.oned.raft.replicaManager.lookup followerId with
    | some thread =>
      thread.call.map fun call =>
        (node.setReplica followerId { thread with call := none, retryRequest := failed }, followerId, call)
    | none => none
  | .finalized position =>
    node.oned.raft.finalized[position]?.map fun (followerId, call) =>
      (node.setRaft { node.oned.raft with
          finalized := node.oned.raft.finalized.eraseIdx position },
        followerId, call)

def endHeartbeatCall (thread : ThreadRef) : Option (Node × Int × Call) :=
  match thread with
  | .pool followerId =>
    match node.oned.raft.heartbeatManager.lookup followerId with
    | some thread =>
      thread.call.map fun call =>
        (node.setHeartbeat followerId { thread with call := none }, followerId, call)
    | none => none
  | .finalized position =>
    node.oned.raft.finalizedHeartbeats[position]?.map fun (followerId, call) =>
      (node.setRaft { node.oned.raft with
          finalizedHeartbeats := node.oned.raft.finalizedHeartbeats.eraseIdx position },
        followerId, call)

def answerOf (call : Call) (position : Nat) : Option Reply :=
  match replies[position]? with
  | some answer => if answer.id = call.id then some answer else none
  | none => none

def replicaReply (thread : ThreadRef) (reply : Option Nat) : Option Node :=
  match node.endReplicaCall thread reply.isNone with
  | none => none
  | some (node, followerId, call) =>
    match reply with
    | none => some node
    | some position =>
      match answerOf replies call position with
      | none => none
      | some answer =>
        if answer.success then
          some (node.setRaft (node.oned.raft.replicateSuccess followerId node.oned.logdb.lastIndex))
        else if call.term < answer.term then
          some { node with oned := node.oned.follower answer.term }
        else some (node.setRaft (node.oned.raft.replicateFailure followerId))

/-- `HeartBeatThread::replicate` after the call -/
def heartbeatReply (thread : ThreadRef) (reply : Option Nat) : Option Node :=
  match node.endHeartbeatCall thread with
  | none => none
  | some (node, _, call) =>
    match reply with
    | none => some node
    | some position =>
      match answerOf replies call position with
      | none => none
      | some answer =>
        if answer.success = false ∧ call.term < answer.term then
          some { node with oned := node.oned.follower answer.term }
        else some node

end

/-- `_exec_wr` of a server that is not in solo or cache mode, up to the record -/
def write (cmd : String) (federated : Option Nat) : Option Node :=
  if node.oned.logdb.solo ∨ node.oned.logdb.cache ∨ node.oned.raft.state ≠ .leader then none
  else
    match node.oned.insertLogRecord node.oned.raft.term cmd federated with
    | none => none
    | some (oned, rindex) =>
      some { node with
        oned
        writers := node.writers.insert node.nextWriter
          { cmd := some cmd, term := node.oned.raft.term, rindex, phase := .inserted }
        nextWriter := node.nextWriter + 1 }

def setPhase (id : Nat) (writer : Writer) (phase : WriterPhase) : Node :=
  { node with writers := node.writers.insert id { writer with phase } }

/-- `LogDB::replicate` up to the wait -/
def replicate (id : Nat) : Option Node :=
  match node.writers.lookup id with
  | some writer =>
    if writer.phase ≠ .inserted then none
    else
      let requests := { node.oned.raft.requests with
        objects := node.oned.raft.requests.objects.insert id (.make writer.rindex) }
      let raft := { node.oned.raft with requests }.replicateLog id
      some ((node.setRaft raft).setPhase id writer .waiting)
  | none => none

/-- End of a thread in `LogDB::replicate`; a new leader has its log replicated. -/
def finish (id : Nat) (writer : Writer) (success : Bool) : Node :=
  let node := node.setPhase id writer (.returned success)
  if writer.cmd = none then
    node.setRaft { node.oned.raft with reconciling := false }
  else node

/-- `LogDB::replicate` after the wait, up to `apply_log_records` -/
def wake (id : Nat) : Option Node :=
  match node.writers.lookup id, node.oned.raft.requests.objects.lookup id with
  | some writer, some rr =>
    if writer.phase ≠ .waiting ∨ rr.notified = 0 then none
    else if node.oned.raft.state = .leader ∧ rr.result then
      some (node.setPhase id writer .applying)
    else some (node.finish id writer false)
  | _, _ => none

def apply (id : Nat) (rc : Nat → SqlError) : Option Node :=
  match node.writers.lookup id with
  | some writer =>
    if writer.phase ≠ .applying then none
    else
      let (logdb, success) := node.oned.logdb.applyLogRecords writer.rindex rc
      some ({ node with oned := { node.oned with logdb } }.finish id writer success)
  | none => none

end

end Node

/-- Run a handler on a server. -/
def handle (oned : Oned) (body : Request) (answers : ZoneAPI.Answers) (rc : Nat → SqlError) : Oned × Response :=
  match body with
  | .vote term id logIndex logTerm => ZoneAPI.vote oned term id logIndex logTerm true
  | .replicate params _ => ZoneAPI.replicateLog oned answers params true rc

structure Zone where
  servers : List Int
  nodup : servers.Nodup
  nonneg : ∀ id ∈ servers, 0 ≤ id

namespace Cluster

def init (zone : Zone) (now : Int → Nat) : Cluster where
  node := fun id => Node.boot id zone.servers (now id)
  nextCall := 0
  requests := []
  replies := []

section

variable (cluster : Cluster)

def setNode (id : Int) (node : Node) : Cluster :=
  { cluster with node := Function.update cluster.node id node }

def onNode (id : Int) (step : Node → Option Node) : Option Cluster :=
  (step (cluster.node id)).map (cluster.setNode id)

def sending (id : Int) (step : Node → Nat → Option (Node × Option Packet)) : Option Cluster :=
  (step (cluster.node id) cluster.nextCall).map fun (node, packet) =>
    { cluster.setNode id node with
      nextCall := cluster.nextCall + 1
      requests := cluster.requests ++ packet.toList }

def deliver (zone : Zone) (packet : Nat) (answers : ZoneAPI.Answers) (rc : Nat → SqlError) : Option Cluster :=
  match cluster.requests[packet]? with
  | none => none
  | some request =>
    if request.dest ∉ zone.servers then none
    else
      let node := cluster.node request.dest
      let (oned, response) := handle node.oned request.body answers rc
      some { cluster.setNode request.dest { node with oned } with
        replies := cluster.replies ++
          [{ id := request.id, success := response.code = .success, term := response.respId }] }

end

def run (zone : Zone) (cluster : Cluster) : Event → Option Cluster
  | .timeout id => cluster.onNode id Node.timeout
  | .startElection id => cluster.onNode id fun node => node.startElection zone.servers
  | .voteCall id => cluster.sending id Node.voteCall
  | .voteReply id reply => cluster.onNode id fun node => node.voteReply cluster.replies reply
  | .endElection id => cluster.onNode id Node.endElection
  | .deliver packet rc => cluster.deliver zone packet {} rc
  | .heartbeat id => cluster.onNode id Node.heartbeat
  | .heartbeatCall id followerId =>
    cluster.sending id fun node call => node.heartbeatCall call followerId
  | .heartbeatReply id thread reply =>
    cluster.onNode id fun node => node.heartbeatReply cluster.replies thread reply
  | .replicaCall id followerId =>
    cluster.sending id fun node call => node.replicaCall call followerId {}
  | .replicaReply id thread reply =>
    cluster.onNode id fun node => node.replicaReply cluster.replies thread reply
  | .replicaRetry id followerId => cluster.onNode id fun node => node.replicaRetry followerId
  | .write id cmd federated => cluster.onNode id fun node => node.write cmd federated
  | .replicate id writer => cluster.onNode id fun node => node.replicate writer
  | .wake id writer => cluster.onNode id fun node => node.wake writer
  | .apply id writer rc => cluster.onNode id fun node => node.apply writer rc
  | .restart id now => cluster.onNode id fun node =>
    some (Node.start id node.oned.logdb zone.servers now)

def step (zone : Zone) (cluster : Cluster) (event : Event) : Option Cluster :=
  match event.server with
  | some id => if id ∈ zone.servers then cluster.run zone event else none
  | none => cluster.run zone event

/-- The zone as a state machine: every server starts on an empty database, which
reports a record that is missing and writes the records. -/
def system (zone : Zone) : System Cluster Event where
  initial := fun cluster => ∃ now, cluster = Cluster.init zone now
  step := step zone

end Cluster

end OpenNebula.Raft
