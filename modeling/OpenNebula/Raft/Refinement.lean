import OpenNebula.Library.Consensus.Logs
import OpenNebula.Raft.Cluster
import OpenNebula.Raft.Handlers

namespace OpenNebula.Raft

open Library Library.Consensus Sql

/-! # The zone refines the abstract protocol

The state of the zone is related to a state of `Consensus`, whose fields are the
history of the run.  A vote in the memory of a server is a vote in the history,
except that a candidate votes for itself, and a candidate that lost its election
clears that vote: its own vote enters the history only when it wins.
-/

abbrev History := Core Int LogEntry

def Zone.members (zone : Zone) : Finset Int := zone.servers.toFinset

theorem Zone.mem_members {zone : Zone} {id : Int} : id ∈ zone.members ↔ id ∈ zone.servers :=
  List.mem_toFinset

theorem Zone.card_members (zone : Zone) : zone.members.card = zone.servers.length :=
  List.toFinset_card_of_nodup zone.nodup

def RaftManager.Serves (raft : RaftManager) (followerId : Int) : Prop :=
  followerId ∈ raft.next ∨ followerId ∈ raft.replicaManager ∨ followerId ∈ raft.heartbeatManager

structure Server (zone : Zone) (core : History) (id : Int) (oned : Oned) : Prop where
  serverId : oned.raft.serverId = id
  servers : oned.raft.servers = zone.servers
  numServers : oned.raft.numServers = zone.servers.length
  cache : oned.logdb.cache = false
  term : oned.raft.term = core.term id
  log : oned.logdb.Represents (core.log id)
  stored : oned.logdb.raftState = some oned.raft.raftState
  template : oned.raft.raftState = ⟨oned.raft.term, oned.raft.votedfor⟩
  voted : ∀ candidate, core.voted id (core.term id) = some candidate →
    oned.raft.votedfor = candidate ∧ 0 ≤ candidate
  cast : oned.raft.votedfor ≠ -1 → oned.raft.votedfor ≠ id →
    core.voted id (core.term id) = some oned.raft.votedfor
  leader : oned.raft.state = .leader →
    ∃ reign, core.reign (core.term id) = some reign ∧ reign.leader = id
  serves : ∀ followerId, oned.raft.Serves followerId →
    oned.raft.state = .leader ∧ followerId ≠ id ∧ followerId ∈ zone.servers

/-- The election of a server that collects votes.  When the server is still a
candidate, the followers counted so far voted for it. -/
structure Polling (zone : Zone) (core : History) (requests : List Packet) (id : Int)
    (raft : RaftManager) (election : Election) : Prop where
  notLeader : raft.state ≠ .leader
  past : election.term ≤ raft.term
  left : election.term < raft.term → core.cand id raft.term = none
  stood : ∃ log, core.cand id election.term = some log ∧ election.lindex = log.length ∧
    election.lterm = lastEpoch LogEntry.term log
  votes2go : election.votes2go = zone.servers.length / 2
  nodup : election.remaining.Nodup
  remaining : ∀ followerId ∈ election.remaining, followerId ∈ zone.servers ∧ followerId ≠ id
  call : ∀ call followerId, election.call = some (call, followerId) →
    followerId ∈ zone.servers ∧ followerId ≠ id ∧ followerId ∉ election.remaining ∧
    ∃ packet ∈ requests, packet.id = call ∧ packet.dest = followerId ∧
      ∃ term lindex lterm, packet.body = .vote term id lindex lterm ∧
        (raft.state = .candidate → term = raft.term)
  candidate : raft.state = .candidate →
    election.term = raft.term ∧ raft.votedfor = id ∧ core.voted id raft.term = none ∧
    core.cand id raft.term = some (core.log id) ∧
    ∃ granted : Finset Int, granted ⊆ zone.members ∧ granted.card = election.grantedVotes ∧
      ∀ voter ∈ granted, voter ≠ id ∧ core.voted voter raft.term = some id ∧
        voter ∉ election.remaining ∧ ∀ call, election.call ≠ some (call, voter)

/-- What a request in the network says is true of the history. -/
def Authentic (core : History) (packet : Packet) : Prop :=
  match packet.body with
  | .vote term candidate lindex lterm =>
    candidate ≠ packet.dest ∧ term ≤ core.term candidate ∧
      ∀ log, core.cand candidate term = some log →
        lindex = log.length % 2 ^ 32 ∧ lterm = lastEpoch LogEntry.term log
  | .replicate params table =>
    ∃ reign, core.reign params.leaderTerm = some reign ∧ reign.leader ≠ packet.dest ∧
      (params.index = 0 → params.term = 0) ∧
      (∀ index, params.index = index + 1 → params.prevIndex = index ∧
        reign.log[index]? = some (ZoneAPI.record params) ∧
        termAt reign.log index = some params.prevTerm) ∧
      ∃ log, LogDB.Rows table log ∧ log <+: reign.log

def Answered (core : History) (packet : Packet) : Prop :=
  match packet.body with
  | .vote term candidate _ _ => core.voted packet.dest term = some candidate
  | .replicate params _ => params.index ≤ core.acked packet.dest params.leaderTerm

structure Tracks (zone : Zone) (cluster : Cluster) (core : History) : Prop where
  server : ∀ id ∈ zone.servers, Server zone core id (cluster.node id).oned
  polling : ∀ id ∈ zone.servers, ∀ election, (cluster.node id).timer = .polling election →
    Polling zone core cluster.requests id (cluster.node id).oned.raft election
  authentic : ∀ packet ∈ cluster.requests, Authentic core packet
  issued : ∀ packet ∈ cluster.requests, packet.id < cluster.nextCall
  distinct : ∀ packet ∈ cluster.requests, ∀ other ∈ cluster.requests,
    packet.id = other.id → packet = other
  replied : ∀ reply ∈ cluster.replies, reply.id < cluster.nextCall
  answered : ∀ reply ∈ cluster.replies, reply.success = true →
    ∀ packet ∈ cluster.requests, packet.id = reply.id → Answered core packet

structure Others (id : Int) (before after : History) : Prop where
  term : ∀ other, other ≠ id → after.term other = before.term other
  log : ∀ other, other ≠ id → after.log other = before.log other
  voted : ∀ other, other ≠ id → after.voted other = before.voted other

variable {zone : Zone} {core before after : History} {id : Int} {oned : Oned}

theorem Others.refl (id : Int) (core : History) : Others id core core :=
  ⟨fun _ _ => rfl, fun _ _ => rfl, fun _ _ => rfl⟩

theorem Others.trans {middle : History} (first : Others id before middle)
    (second : Others id middle after) : Others id before after where
  term other apart := (second.term other apart).trans (first.term other apart)
  log other apart := (second.log other apart).trans (first.log other apart)
  voted other apart := (second.voted other apart).trans (first.voted other apart)

theorem Server.frame (server : Server zone before id oned) (grows : Grows before after)
    (term : after.term id = before.term id) (log : after.log id = before.log id)
    (voted : after.voted id = before.voted id) : Server zone after id oned where
  serverId := server.serverId
  servers := server.servers
  numServers := server.numServers
  cache := server.cache
  term := server.term.trans term.symm
  log := by rw [log]; exact server.log
  stored := server.stored
  template := server.template
  voted := by rw [term, voted]; exact server.voted
  cast := by rw [term, voted]; exact server.cast
  leader := by
    intro isLeader
    obtain ⟨reign, leads, self⟩ := server.leader isLeader
    obtain ⟨later, leadsAfter, sameLeader, _⟩ := grows.reignLog leads
    exact ⟨later, by rw [term]; exact leadsAfter, sameLeader.trans self⟩
  serves := server.serves

theorem Polling.frame {requests more : List Packet} {raft : RaftManager} {election : Election}
    (polling : Polling zone before requests id raft election) (grows : Grows before after)
    (current : raft.term = before.term id) (log : after.log id = before.log id)
    (voted : after.voted id = before.voted id) (sent : ∀ packet ∈ requests, packet ∈ more) :
    Polling zone after more id raft election where
  notLeader := polling.notLeader
  past := polling.past
  left earlier := (grows.stood id _ current.le).trans (polling.left earlier)
  stood := by
    obtain ⟨found, stood, rest⟩ := polling.stood
    exact ⟨found, grows.cand _ _ _ stood, rest⟩
  votes2go := polling.votes2go
  nodup := polling.nodup
  remaining := polling.remaining
  call := by
    intro call followerId isCall
    obtain ⟨member, apart, asked, packet, inside, rest⟩ := polling.call call followerId isCall
    exact ⟨member, apart, asked, packet, sent packet inside, rest⟩
  candidate := by
    intro isCandidate
    obtain ⟨sameTerm, self, free, stood, granted, subset, card, votes⟩ := polling.candidate isCandidate
    refine ⟨sameTerm, self, by rw [voted]; exact free,
      by rw [log, grows.stood id _ current.le]; exact stood, granted, subset, card, ?_⟩
    intro voter inside
    obtain ⟨apart, vote, rest⟩ := votes voter inside
    exact ⟨apart, grows.voted _ _ _ vote, rest⟩

variable {packet : Packet} {cluster : Cluster}

theorem Authentic.grows (authentic : Authentic before packet) (grows : Grows before after) :
    Authentic after packet := by
  unfold Authentic at authentic ⊢
  split at authentic
  · obtain ⟨apart, past, stood⟩ := authentic
    exact ⟨apart, past.trans (grows.term _), fun log isCand =>
      stood log (by rw [← grows.stood _ _ past]; exact isCand)⟩
  · rename_i params table
    obtain ⟨reign, leads, apart, zero, record, log, rows, isPrefix⟩ := authentic
    obtain ⟨later, leadsAfter, sameLeader, _, extended⟩ := grows.reignLog leads
    refine ⟨later, leadsAfter, by rw [sameLeader]; exact apart, zero, fun index isIndex => ?_,
      log, rows, isPrefix.trans extended⟩
    obtain ⟨previous, present, prevTerm⟩ := record index isIndex
    have inside := length_lt_of_getElem? present
    refine ⟨previous, (getElem?_of_isPrefix extended inside).trans present, ?_⟩
    cases index with
    | zero => exact prevTerm
    | succ index =>
      rw [termAt] at prevTerm ⊢
      rw [getElem?_of_isPrefix extended (by omega)]
      exact prevTerm

theorem Answered.grows (answered : Answered before packet) (grows : Grows before after) : Answered after packet := by
  unfold Answered at answered ⊢
  split at answered
  · exact grows.voted _ _ _ answered
  · exact answered.trans (grows.acked _ _)

theorem Tracks.setNode {node : Node} (tracks : Tracks zone cluster before) (grows : Grows before after)
    (others : Others id before after) (server : Server zone after id node.oned)
    (polling : ∀ election, node.timer = .polling election → Polling zone after cluster.requests id node.oned.raft election) :
    Tracks zone (cluster.setNode id node) after where
  server := by
    intro other inside
    by_cases same : other = id
    · subst same; simpa [Cluster.setNode] using server
    · simpa [Cluster.setNode, same] using (tracks.server other inside).frame grows
        (others.term other same) (others.log other same) (others.voted other same)
  polling := by
    intro other inside election
    by_cases same : other = id
    · subst same; simpa [Cluster.setNode] using polling election
    · intro isPolling
      simp only [Cluster.setNode, Function.update_of_ne same] at isPolling ⊢
      exact (tracks.polling other inside election isPolling).frame grows
        (tracks.server other inside).term (others.log other same) (others.voted other same)
        (fun _ isSent => isSent)
  authentic packet inside := (tracks.authentic packet inside).grows grows
  issued := tracks.issued
  distinct := tracks.distinct
  replied := tracks.replied
  answered reply isReply success packet inside same :=
    (tracks.answered reply isReply success packet inside same).grows grows

theorem Tracks.skipCall (tracks : Tracks zone cluster core) :
    Tracks zone { cluster with nextCall := cluster.nextCall + 1 } core :=
  { tracks with
    issued := fun packet inside => Nat.lt_succ_of_lt (tracks.issued packet inside)
    replied := fun reply inside => Nat.lt_succ_of_lt (tracks.replied reply inside) }

theorem Tracks.send (tracks : Tracks zone cluster core) (fresh : packet.id = cluster.nextCall)
    (authentic : Authentic core packet) : Tracks zone { cluster with
      nextCall := cluster.nextCall + 1
      requests := cluster.requests ++ [packet] } core where
  server := tracks.server
  polling := by
    intro id inside election isPolling
    exact (tracks.polling id inside election isPolling).frame (Grows.refl core)
      (tracks.server id inside).term rfl rfl (fun other isSent => List.mem_append_left _ isSent)
  authentic := by
    intro other inside
    rcases List.mem_append.1 inside with old | new
    · exact tracks.authentic other old
    · rw [List.mem_singleton.1 new]; exact authentic
  issued := by
    intro other inside
    rcases List.mem_append.1 inside with old | new
    · exact Nat.lt_succ_of_lt (tracks.issued other old)
    · rw [List.mem_singleton.1 new, fresh]; exact Nat.lt_succ_self _
  distinct := by
    intro left inLeft right inRight same
    rcases List.mem_append.1 inLeft with oldLeft | newLeft <;>
      rcases List.mem_append.1 inRight with oldRight | newRight
    · exact tracks.distinct left oldLeft right oldRight same
    · have issued := tracks.issued left oldLeft
      rw [same, List.mem_singleton.1 newRight, fresh] at issued
      exact absurd issued (Nat.lt_irrefl _)
    · have issued := tracks.issued right oldRight
      rw [← same, List.mem_singleton.1 newLeft, fresh] at issued
      exact absurd issued (Nat.lt_irrefl _)
    · rw [List.mem_singleton.1 newLeft, List.mem_singleton.1 newRight]
  replied reply inside := Nat.lt_succ_of_lt (tracks.replied reply inside)
  answered := by
    intro reply isReply success other inside same
    rcases List.mem_append.1 inside with old | new
    · exact tracks.answered reply isReply success other old same
    · have replied := tracks.replied reply isReply
      rw [← same, List.mem_singleton.1 new, fresh] at replied
      exact absurd replied (Nat.lt_irrefl _)

theorem Tracks.answer (tracks : Tracks zone cluster core) {reply : Reply} (isSent : packet ∈ cluster.requests)
    (sameCall : reply.id = packet.id) (isAnswer : reply.success = true → Answered core packet) :
    Tracks zone { cluster with replies := cluster.replies ++ [reply] } core :=
  { tracks with
    replied := by
      intro other inside
      rcases List.mem_append.1 inside with old | new
      · exact tracks.replied other old
      · rw [List.mem_singleton.1 new, sameCall]; exact tracks.issued packet isSent
    answered := by
      intro other inside success found isFound same
      rcases List.mem_append.1 inside with old | new
      · exact tracks.answered other old success found isFound same
      · rw [List.mem_singleton.1 new] at success same
        rw [tracks.distinct found isFound packet isSent (same.trans sameCall)]
        exact isAnswer success }

end OpenNebula.Raft
