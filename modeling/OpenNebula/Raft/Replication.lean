import OpenNebula.Raft.Cluster

namespace OpenNebula.Raft

open Library Sql

/-! # A leader and its followers

The run of one leader: client writes, the calls of its replication threads and
their replies, and changes of the followers, in any order.  The followers run
`replicate_log` on the requests of the leader, which can come late, many times,
or never.
-/

structure Replication where
  leader : Node
  follower : Int → Oned
  nextCall : Nat
  requests : List Packet
  replies : List Reply

inductive ReplicationEvent where
  /-- `_exec_wr` up to the inserted record -/
  | write (cmd : String) (federated : Option Nat)
  | replicate (writer : Nat)
  | wake (writer : Nat)
  | apply (writer : Nat) (rc : Nat → SqlError)
  | replicaCall (followerId : Int) (answers : ZoneAPI.Answers := {})
  /-- position of the reply, `none` for a failed call -/
  | replicaReply (thread : ThreadRef) (reply : Option Nat)
  | replicaRetry (followerId : Int)
  /-- a request reaches its follower -/
  | deliver (packet : Nat) (rc : Nat → SqlError) (answers : ZoneAPI.Answers := {})
  /-- a new server of the zone, with an identifier that no other one has -/
  | addServer (followerId : Int)
  | deleteServer (followerId : Int)
  | resetIndex (followerId : Int)

namespace Replication

def onLeader (state : Replication) (leader : Option Node) : Option Replication :=
  leader.map fun leader => { state with leader }

def replicaCall (state : Replication) (followerId : Int) (answers : ZoneAPI.Answers) : Option Replication :=
  (state.leader.replicaCall state.nextCall followerId answers).map fun (leader, packet) =>
    { state with
      leader
      nextCall := state.nextCall + 1
      requests := state.requests ++ packet.toList }

def deliver (state : Replication) (packet : Nat) (answers : ZoneAPI.Answers) (rc : Nat → SqlError) :
    Option Replication :=
  match state.requests[packet]? with
  | none => none
  | some request =>
    let (oned, response) := handle (state.follower request.dest) request.body answers rc
    some { state with
      follower := Function.update state.follower request.dest oned
      replies := state.replies ++
        [{ id := request.id, success := response.code = .success, term := response.respId }] }

def step (state : Replication) : ReplicationEvent → Option Replication
  | .write cmd federated => state.onLeader (state.leader.write cmd federated)
  | .replicate writer => state.onLeader (state.leader.replicate writer)
  | .wake writer => state.onLeader (state.leader.wake writer)
  | .apply writer rc => state.onLeader (state.leader.apply writer rc)
  | .replicaCall followerId answers => state.replicaCall followerId answers
  | .replicaReply thread reply =>
    state.onLeader (state.leader.replicaReply state.replies thread reply)
  | .replicaRetry followerId => state.onLeader (state.leader.replicaRetry followerId)
  | .deliver packet rc answers => state.deliver packet answers rc
  | .addServer followerId =>
    if followerId = state.leader.oned.raft.serverId then none
    else some { state with
      leader := state.leader.setRaft
        (state.leader.oned.raft.addServer followerId state.leader.oned.logdb.lastIndex) }
  | .deleteServer followerId =>
    some { state with
      leader := state.leader.setRaft (state.leader.oned.raft.deleteServer followerId) }
  | .resetIndex followerId =>
    some { state with
      leader := state.leader.setRaft
        (state.leader.oned.raft.resetIndex followerId state.leader.oned.logdb.lastIndex) }

end Replication

end OpenNebula.Raft
