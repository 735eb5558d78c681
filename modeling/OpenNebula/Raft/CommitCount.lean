import OpenNebula.Raft.Answers
import OpenNebula.Raft.Ledger

namespace OpenNebula.Raft

open Library Sql

/-! # Commit counting

A leader commits a record when it counted half of the servers.  The count is
right while no follower is credited with a record that it did not confirm: adding
a follower or resetting its index does that for the records that clients are
about to replicate, and a change of the number of servers leaves the requests
that were counted with the old number.
-/

namespace Replication

/-- No client is between the insert of its record and `replicate_log`. -/
def NoInserted (state : Replication) : Prop :=
  ∀ row ∈ state.leader.writers.entries, row.2.phase ≠ .inserted

/-- No client waits for replicas of its record. -/
def NoRequest (state : Replication) : Prop :=
  ∀ slot ∈ state.leader.oned.raft.requests.requests.entries, slot.2 = none

/-- The side condition of a step under which the count stays right. -/
def Careful (state : Replication) : ReplicationEvent → Prop
  | .write cmd _ => cmd ≠ ""
  | .replicaCall followerId answers => state.leader.Reads followerId answers
  | .deliver packet _ answers => ∀ request ∈ state.requests[packet]?,
      answers.Handled (state.follower request.dest).logdb request.body
  | .addServer followerId =>
    state.NoInserted ∧ (∀ waiting ∈ state.leader.oned.raft.finalized, waiting.1 ≠ followerId) ∧
      (state.leader.oned.raft.numServers % 2 = 0 ∨ state.NoRequest)
  | .deleteServer followerId =>
    state.leader.oned.raft.numServers % 2 = 0 ∨
      ∀ slot ∈ state.leader.oned.raft.requests.requests.entries, slot.2 ≠ none →
        ∀ found ∈ state.leader.oned.raft.matched.lookup followerId, found < slot.1
  | .resetIndex followerId =>
    state.leader.oned.raft.next.lookup followerId = some (state.leader.oned.logdb.lastIndex + 1) ∨
      ((state.leader.oned.raft.replicaManager.lookup followerId).bind ReplicaThread.call = none ∧
        ∀ row ∈ state.leader.writers.entries, row.2.phase = .inserted →
          ∀ found ∈ state.leader.oned.raft.matched.lookup followerId, row.2.rindex ≤ found)
  | _ => True

instance (state : Replication) : (event : ReplicationEvent) → Decidable (state.Careful event)
  | .write cmd _ => inferInstanceAs (Decidable (cmd ≠ ""))
  | .replicaCall followerId answers => inferInstanceAs (Decidable (state.leader.Reads followerId answers))
  | .deliver packet _ answers => inferInstanceAs (Decidable (∀ request ∈ state.requests[packet]?,
      answers.Handled (state.follower request.dest).logdb request.body))
  | .addServer followerId => inferInstanceAs (Decidable ((∀ row ∈ state.leader.writers.entries,
        row.2.phase ≠ .inserted) ∧ (∀ waiting ∈ state.leader.oned.raft.finalized, waiting.1 ≠ followerId) ∧
      (state.leader.oned.raft.numServers % 2 = 0 ∨
        ∀ slot ∈ state.leader.oned.raft.requests.requests.entries, slot.2 = none)))
  | .deleteServer followerId =>
    inferInstanceAs (Decidable (state.leader.oned.raft.numServers % 2 = 0 ∨
      ∀ slot ∈ state.leader.oned.raft.requests.requests.entries, slot.2 ≠ none →
        ∀ found ∈ state.leader.oned.raft.matched.lookup followerId, found < slot.1))
  | .resetIndex followerId => inferInstanceAs (Decidable (state.leader.oned.raft.next.lookup followerId =
          some (state.leader.oned.logdb.lastIndex + 1) ∨
        ((state.leader.oned.raft.replicaManager.lookup followerId).bind ReplicaThread.call = none ∧
          ∀ row ∈ state.leader.writers.entries, row.2.phase = .inserted →
            ∀ found ∈ state.leader.oned.raft.matched.lookup followerId, row.2.rindex ≤ found)))
  | .replicate _ | .wake _ | .apply .. | .replicaReply .. | .replicaRetry _ => isTrue trivial

end Replication

/-- The invariant of the run of a leader. -/
def Sound (state : Replication) : Prop :=
  state.leader.oned.raft.state = .leader →
    ∃ log logs, Network state state.leader.oned.raft.term log logs ∧
      Ledger state.leader state.requests state.replies log logs

/-- A leader that raises its commit index has the record on half of the servers. -/
def Counted (before after : Replication) : Prop :=
  after.leader.oned.raft.state = .leader →
    before.leader.oned.raft.commit < after.leader.oned.raft.commit →
    Replicated after after.leader.oned.raft.commit

variable {state next : Replication} {log : List LogEntry} {logs : Int → List LogEntry}

theorem Sound.leads {leader : Node} (sound : Sound state)
    (before : leader.oned.raft.state = .leader → state.leader.oned.raft.state = .leader)
    (kept : ∀ log logs, Network state state.leader.oned.raft.term log logs →
      Ledger state.leader state.requests state.replies log logs →
      state.leader.oned.raft.state = .leader → leader.oned.raft.state = .leader →
      leader.oned.raft.term = state.leader.oned.raft.term ∧
      ∃ logAfter, Network state state.leader.oned.raft.term logAfter logs ∧
        Ledger leader state.requests state.replies logAfter logs ∧
        (leader.oned.raft.commit = state.leader.oned.raft.commit ∨
          (1 ≤ leader.oned.raft.commit ∧ leader.oned.raft.commit ≤ logAfter.length ∧ leader.oned.raft.numServers / 2 ≤
              (leader.oned.raft.confirmed leader.oned.raft.commit).card))) :
    Sound { state with leader } ∧ Counted state { state with leader } := by
  have held (leads : leader.oned.raft.state = .leader) :
      ∃ log logs, Network { state with leader } leader.oned.raft.term log logs ∧
        Ledger leader state.requests state.replies log logs ∧
        (leader.oned.raft.commit = state.leader.oned.raft.commit ∨
          (1 ≤ leader.oned.raft.commit ∧ leader.oned.raft.commit ≤ log.length ∧ leader.oned.raft.numServers / 2 ≤
              (leader.oned.raft.confirmed leader.oned.raft.commit).card)) := by
    obtain ⟨log, logs, network, ledger⟩ := sound (before leads)
    obtain ⟨isTerm, logAfter, networkAfter, ledgerAfter, commit⟩ := kept log logs network ledger (before leads) leads
    exact ⟨logAfter, logs, isTerm ▸ networkAfter.withLeader leader, ledgerAfter, commit⟩
  refine ⟨fun leads => ?_, fun leads raised => ?_⟩
  · obtain ⟨log, logs, network, ledger, -⟩ := held leads
    exact ⟨log, logs, network, ledger⟩
  · obtain ⟨log, logs, network, ledger, same | ⟨positive, inside, half⟩⟩ := held leads
    · exact absurd raised (by rw [same]; exact Nat.lt_irrefl _)
    · exact @Ledger.replicated { state with leader } _ _ _ _ ledger _ network _ positive inside half

variable {leader : Node} {call : Call} {followerId : Int} {event : ReplicationEvent}

theorem Sound.write (sound : Sound state) {cmd : String} {federated : Option Nat} (isCmd : cmd ≠ "")
    (stepped : state.leader.write cmd federated = some leader) :
    Sound { state with leader } ∧ Counted state { state with leader } := by
  obtain ⟨isLeader, oned, rindex, inserted, rfl⟩ := Node.write_cases stepped
  refine sound.leads (fun _ => isLeader) fun log logs network ledger _ _ => ?_
  obtain ⟨isIndex, isRaft, entry, isTerm, isEntry, repr⟩ := Oned.insertLogRecord_cases ledger.repr inserted
  exact ⟨by rw [isRaft]; rfl, _, network.snoc isTerm,
    ledger.write isCmd inserted isIndex isRaft isEntry repr, .inl (by rw [isRaft]; rfl)⟩

theorem Sound.quiet (sound : Sound state) (same : SameBooks state.leader leader)
    (logdb : leader.oned.logdb = state.leader.oned.logdb) :
    Sound { state with leader } ∧ Counted state { state with leader } := by
  refine sound.leads (fun leads => (same.leads leads).1) fun log logs network ledger _ leads => ?_
  exact ⟨(same.leads leads).2.1, log, network,
    ledger.same same leads (by rw [logdb]; exact ledger.repr), .inl same.commit⟩

theorem Sound.client (sound : Sound state)
    (isRaft : ∃ reconciling, leader.oned.raft = { state.leader.oned.raft with reconciling })
    (kept : ∀ log logs, Ledger state.leader state.requests state.replies log logs →
      Ledger leader state.requests state.replies log logs) :
    Sound { state with leader } ∧ Counted state { state with leader } := by
  obtain ⟨reconciling, isRaft⟩ := isRaft
  refine sound.leads (by rw [isRaft]; exact id) fun log logs network ledger _ leads => ?_
  exact ⟨by rw [isRaft], log, network, kept log logs ledger, .inl (by rw [isRaft])⟩

theorem Sound.down {leader : Node} (follows : leader.oned.raft.state ≠ .leader) :
    Sound { state with leader } ∧ Counted state { state with leader } :=
  ⟨fun leads => absurd leads follows, fun leads => absurd leads follows⟩

theorem Node.answerOf_cases {replies : List Reply} {position : Nat} {answer : Reply}
    (isAnswer : Node.answerOf replies call position = some answer) : answer ∈ replies ∧ answer.id = call.id := by
  simp only [Node.answerOf] at isAnswer
  split at isAnswer
  · rename_i found isFound
    split at isAnswer
    · rename_i sameId
      rw [← Option.some.inj isAnswer]
      exact ⟨List.mem_of_getElem? isFound, sameId⟩
    · contradiction
  · contradiction

theorem Ledger.ended {middle : Node} {requests : List Packet} {replies : List Reply}
    (ledger : Ledger leader requests replies log logs) (same : SameBooks leader middle)
    (isCall : (leader.oned.raft.replicaManager.Waits followerId call ∧
      ∀ other, ¬ middle.oned.raft.replicaManager.Waits followerId other) ∨
      (followerId, call) ∈ leader.oned.raft.finalized) :
    middle.oned.raft.next.lookup followerId = none ∨ (leader.oned.raft.replicaManager.Waits followerId call ∧
        ∀ other, ¬ middle.oned.raft.replicaManager.Waits followerId other) := by
  rcases isCall with inPool | isFinalized
  · exact .inr inPool
  · rw [same.next]
    exact .inl (ledger.finalized _ isFinalized)

section

variable (sound : Sound state)
include sound

theorem Sound.success {middle : Node} {followerId : Int} {call : Call}
    {answer : Reply} (same : SameBooks state.leader middle) (logdb : middle.oned.logdb = state.leader.oned.logdb)
    (isCall : (state.leader.oned.raft.replicaManager.Waits followerId call ∧
        ∀ other, ¬ middle.oned.raft.replicaManager.Waits followerId other) ∨
      (followerId, call) ∈ state.leader.oned.raft.finalized)
    (isAnswer : answer ∈ state.replies) (isId : answer.id = call.id)
    (success : answer.success = true) {leader : Node} (isLeader : leader = middle.setRaft
      (middle.oned.raft.replicateSuccess followerId middle.oned.logdb.lastIndex)) :
    Sound { state with leader } ∧ Counted state { state with leader } := by
  have isRaft : leader.oned.raft.state = middle.oned.raft.state ∧
      leader.oned.raft.term = middle.oned.raft.term := by
    rw [isLeader]
    rcases middle.oned.raft.replicateSuccess_cases followerId middle.oned.logdb.lastIndex with
      ⟨_, same⟩ | ⟨_, _, _, _, isSuccess⟩
    · rw [Node.setRaft, same]; exact ⟨rfl, rfl⟩
    · rw [Node.setRaft, isSuccess]; exact ⟨rfl, rfl⟩
  refine sound.leads (fun leads => (same.leads (isRaft.1 ▸ leads)).1)
    fun log logs network ledger _ leads => ?_
  have middleLeads : middle.oned.raft.state = .leader := isRaft.1 ▸ leads
  have ledgerMiddle := ledger.same same middleLeads (by rw [logdb]; exact ledger.repr)
  refine ⟨isRaft.2.trans (same.leads middleLeads).2.1, log, network, ?_⟩
  rw [← same.commit, isLeader]
  rcases ledger.ended same isCall with unknown | ⟨waits, noCall⟩
  · rw [show middle.oned.raft.replicateSuccess followerId middle.oned.logdb.lastIndex =
      middle.oned.raft by simp [RaftManager.replicateSuccess, unknown]]
    exact ⟨ledgerMiddle, .inl rfl⟩
  · obtain ⟨_, isNext, sent, isSent, sentId, sentDest, params, table, body, isIndex⟩ :=
      ledger.calls followerId call waits
    obtain ⟨packet, isPacket, packetId, held⟩ := network.replies answer isAnswer
    have samePacket := network.unique packet isPacket sent isSent
      (packetId.trans (isId.trans sentId.symm))
    subst samePacket
    have holds := held success params table body
    rw [sentDest, isIndex] at holds
    exact ledgerMiddle.success (by rw [same.next]; exact isNext) noCall holds rfl

theorem Sound.failure {middle : Node} {answer : Reply}
    (same : SameBooks state.leader middle) (logdb : middle.oned.logdb = state.leader.oned.logdb)
    (isCall : (state.leader.oned.raft.replicaManager.Waits followerId call ∧
      ∀ other, ¬ middle.oned.raft.replicaManager.Waits followerId other) ∨
      (followerId, call) ∈ state.leader.oned.raft.finalized)
    (isAnswer : answer ∈ state.replies) (isId : answer.id = call.id) (failed : answer.success = false)
    (current : answer.term ≤ call.term)
    (isLeader : leader = middle.setRaft (middle.oned.raft.replicateFailure followerId)) :
    Sound { state with leader } ∧ Counted state { state with leader } := by
  have isRaft : leader.oned.raft.state = middle.oned.raft.state ∧
      leader.oned.raft.term = middle.oned.raft.term := by
    rw [isLeader]
    obtain ⟨_, _, _, _, isFailure⟩ := middle.oned.raft.replicateFailure_cases followerId
    rw [Node.setRaft, isFailure]
    exact ⟨rfl, rfl⟩
  refine sound.leads (fun leads => (same.leads (isRaft.1 ▸ leads)).1)
    fun log logs network ledger _ leads => ?_
  have middleLeads : middle.oned.raft.state = .leader := isRaft.1 ▸ leads
  have ledgerMiddle := ledger.same same middleLeads (by rw [logdb]; exact ledger.repr)
  have ended := ledger.ended same isCall
  have below : ∀ index found, middle.oned.raft.next.lookup followerId = some index →
      middle.oned.raft.matched.lookup followerId = some found → found + 1 < index := by
    intro index found isNext isFound
    rcases ended with unknown | ⟨waits, _⟩
    · rw [unknown] at isNext
      cases isNext
    · rw [same.next] at isNext
      rw [same.matched] at isFound
      obtain ⟨_, isIndex, _⟩ := ledger.calls followerId call waits
      rw [isNext, Option.some.injEq] at isIndex
      rw [isIndex]
      exact ledger.refused followerId call waits answer isAnswer isId failed current found isFound
  obtain ⟨ledgerAfter, commit⟩ := ledgerMiddle.failure (ended.imp id And.right) below rfl
  refine ⟨isRaft.2.trans (same.leads middleLeads).2.1, log, network, ?_⟩
  rw [← same.commit, isLeader]
  exact ⟨ledgerAfter, .inl commit⟩

theorem Sound.replicaReply {thread : ThreadRef} {reply : Option Nat}
    (stepped : state.leader.replicaReply state.replies thread reply = some leader) :
    Sound { state with leader } ∧ Counted state { state with leader } := by
  simp only [Node.replicaReply] at stepped
  split at stepped
  · contradiction
  rename_i middle followerId call ended
  obtain ⟨same, logdb, isCall⟩ := Node.endReplicaCall_cases ended
  split at stepped
  · rw [← Option.some.inj stepped]
    exact sound.quiet same logdb
  split at stepped
  · contradiction
  rename_i answer isAnswer
  obtain ⟨inside, isId⟩ := Node.answerOf_cases isAnswer
  split at stepped
  · rename_i success
    exact sound.success same logdb isCall inside isId success (Option.some.inj stepped).symm
  rename_i failed
  split at stepped
  · rw [← Option.some.inj stepped]
    exact Sound.down (by simp [Oned.follower])
  · rename_i current
    exact sound.failure same logdb isCall inside isId (Bool.not_eq_true _ ▸ failed)
      (Nat.le_of_not_lt current) (Option.some.inj stepped).symm

theorem Sound.replicaCall {answers : ZoneAPI.Answers} (reads : state.leader.Reads followerId answers)
    (stepped : state.replicaCall followerId answers = some next) : Sound next ∧ Counted state next := by
  simp only [Replication.replicaCall, Node.replicaCall_reads reads, Option.map_eq_some_iff] at stepped
  obtain ⟨⟨leader, packet⟩, isCall, rfl⟩ := stepped
  rcases Node.replicaCall_cases isCall with
    ⟨rfl, logdb, same⟩ | ⟨thread, index, lr, inPool, isNext, loaded, rfl, rfl⟩
  · rw [Option.toList_none, List.append_nil]
    obtain ⟨soundAfter, counted⟩ := sound.quiet same logdb
    refine ⟨fun leads => ?_, counted⟩
    obtain ⟨log, logs, network, ledger⟩ := soundAfter leads
    refine ⟨log, logs, ?_, ledger⟩
    exact ⟨network.follower, network.agree, network.own,
      fun packet isPacket => Nat.lt_succ_of_lt (network.issued packet isPacket), network.unique,
      network.requests, network.replies⟩
  · refine ⟨fun leads => ?_, fun _ raised => absurd raised (Nat.lt_irrefl _)⟩
    obtain ⟨log, logs, network, ledger⟩ := sound leads
    refine ⟨log, logs, network.call ledger loaded _, ledger.call inPool isNext ?_ ?_⟩
    · intro reply isReply sameId
      obtain ⟨packet, isPacket, packetId, _⟩ := network.replies reply isReply
      have issued := network.issued packet isPacket
      omega
    · refine ⟨_, List.mem_append_right _ (List.mem_singleton_self _), rfl, rfl, _, _, rfl, ?_⟩
      exact (ledger.repr.loaded loaded).1

theorem Sound.deliver {packet : Nat} {rc : Nat → SqlError} {answers : ZoneAPI.Answers}
    (reported : ∀ request ∈ state.requests[packet]?, answers.Handled (state.follower request.dest).logdb request.body)
    (stepped : state.deliver packet answers rc = some next) : Sound next ∧ Counted state next := by
  simp only [Replication.deliver] at stepped
  split at stepped
  · contradiction
  rename_i request isRequest
  rw [← Option.some.inj stepped]
  refine ⟨fun leads => ?_, fun _ raised => absurd raised (Nat.lt_irrefl _)⟩
  obtain ⟨log, logs, network, ledger⟩ := sound leads
  have isPacket := List.mem_of_getElem? isRequest
  obtain ⟨params, table, body, -, carries⟩ := network.requests request isPacket
  obtain ⟨isOned, isCode, isRespId⟩ := handle_reported (network.follower request.dest).1 (reported request isRequest)
    (fun other _ isBody => by
      obtain ⟨rfl, -⟩ := Request.replicate.inj (body.symm.trans isBody)
      exact fun index isIndex => carries.previous isIndex) rc
  rw [isOned, isCode, isRespId]
  have isHandled : handle (state.follower request.dest) request.body {} rc =
      ZoneAPI.replicateLog (state.follower request.dest) {} params true rc := by
    rw [body]
    rfl
  rw [isHandled]
  obtain ⟨after, received, networkAfter⟩ := network.deliver isPacket body rfl
  exact ⟨log, Function.update logs request.dest after, networkAfter,
    ledger.deliver network rfl isPacket body received⟩

theorem Sound.addServer {followerId : Int} (careful : state.Careful (.addServer followerId))
    (isNew : followerId ≠ state.leader.oned.raft.serverId) {leader : Node} (isLeader : leader = state.leader.setRaft
      (state.leader.oned.raft.addServer followerId state.leader.oned.logdb.lastIndex)) :
    Sound { state with leader } ∧ Counted state { state with leader } := by
  obtain ⟨noInserted, noFinalized, half⟩ := careful
  have isRaft : leader.oned.raft.state = state.leader.oned.raft.state ∧
      leader.oned.raft.term = state.leader.oned.raft.term := by
    rw [isLeader, Node.setRaft, RaftManager.addServer]
    split <;> exact ⟨rfl, rfl⟩
  refine sound.leads (fun leads => isRaft.1 ▸ leads) fun log logs network ledger leads _ => ?_
  refine ⟨isRaft.2, log, network, ?_⟩
  rw [isLeader]
  obtain ⟨ledgerAfter, commit⟩ := ledger.addServer leads isNew
    (fun number writer isWriter => noInserted _ (Map.mem_entries_iff.2 isWriter)) noFinalized
    (half.imp id fun none index pointer isSlot =>
      absurd (none _ (Map.mem_entries_iff.2 isSlot)) (by simp)) rfl
  rw [ledger.repr.last]
  exact ⟨ledgerAfter, .inl commit⟩

theorem Sound.deleteServer (careful : state.Careful (.deleteServer followerId))
    (isLeader : leader = state.leader.setRaft (state.leader.oned.raft.deleteServer followerId)) :
    Sound { state with leader } ∧ Counted state { state with leader } := by
  have isRaft : leader.oned.raft.state = state.leader.oned.raft.state ∧
      leader.oned.raft.term = state.leader.oned.raft.term := by
    rw [isLeader, Node.setRaft, RaftManager.deleteServer]
    split <;> exact ⟨rfl, rfl⟩
  refine sound.leads (fun leads => isRaft.1 ▸ leads) fun log logs network ledger leads _ => ?_
  refine ⟨isRaft.2, log, network, ?_⟩
  rw [isLeader]
  obtain ⟨ledgerAfter, commit⟩ := ledger.deleteServer leads
    (careful.imp id fun past index pointer found isSlot isFound =>
      past _ (Map.mem_entries_iff.2 isSlot) (by simp) found isFound) rfl
  exact ⟨ledgerAfter, .inl commit⟩

theorem Sound.resetIndex {followerId : Int} (careful : state.Careful (.resetIndex followerId)) {leader : Node}
    (isLeader : leader = state.leader.setRaft
      (state.leader.oned.raft.resetIndex followerId state.leader.oned.logdb.lastIndex)) :
    Sound { state with leader } ∧ Counted state { state with leader } := by
  have isRaft : leader.oned.raft.state = state.leader.oned.raft.state ∧
      leader.oned.raft.term = state.leader.oned.raft.term := by
    rw [isLeader]
    exact ⟨rfl, rfl⟩
  refine sound.leads (fun leads => isRaft.1 ▸ leads) fun log logs network ledger _ _ => ?_
  refine ⟨isRaft.2, log, network, ?_⟩
  rw [isLeader]
  rw [Replication.Careful, ledger.repr.last] at careful
  have settled : state.leader.oned.raft.next.lookup followerId = some (log.length + 1) ∨
      ((∀ call, ¬ state.leader.oned.raft.replicaManager.Waits followerId call) ∧
        ∀ number writer, state.leader.writers.lookup number = some writer →
          writer.phase = .inserted → ∀ found,
            state.leader.oned.raft.matched.lookup followerId = some found →
            writer.rindex ≤ found) := by
    rcases careful with last | ⟨noCall, past⟩
    · exact .inl last
    · refine .inr ⟨?_, fun number writer isWriter phase found isFound =>
        past _ (Map.mem_entries_iff.2 isWriter) phase found isFound⟩
      rintro call ⟨thread, inPool, isCall⟩
      rw [inPool, Option.bind_some, isCall] at noCall
      cases noCall
  obtain ⟨ledgerAfter, commit⟩ := ledger.resetIndex settled rfl
  rw [ledger.repr.last]
  exact ⟨ledgerAfter, .inl commit⟩

theorem Sound.step (careful : state.Careful event)
    (stepped : state.step event = some next) : Sound next ∧ Counted state next := by
  cases event with
  | write cmd federated =>
    obtain ⟨leader, isLeader, rfl⟩ := Option.map_eq_some_iff.1 stepped
    exact sound.write careful isLeader
  | replicate writer =>
    obtain ⟨leader, isLeader, rfl⟩ := Option.map_eq_some_iff.1 stepped
    obtain ⟨found, rr, slot, replicates⟩ := Node.replicate_replicates isLeader
    refine sound.leads (replicates.state ▸ id) fun log logs network ledger _ _ => ?_
    obtain ⟨ledgerAfter, commit⟩ := ledger.replicate isLeader
    exact ⟨replicates.term, log, network, ledgerAfter, commit⟩
  | wake writer =>
    obtain ⟨leader, isLeader, rfl⟩ := Option.map_eq_some_iff.1 stepped
    refine sound.client ?_ fun log logs ledger => ledger.wake isLeader
    obtain ⟨_, _, _, _, _, _, ⟨_, _, rfl⟩ | ⟨_, rfl⟩⟩ := Node.wake_cases isLeader
    · exact ⟨state.leader.oned.raft.reconciling, rfl⟩
    · exact Node.finish_raft _ _ _ _
  | apply writer rc =>
    obtain ⟨leader, isLeader, rfl⟩ := Option.map_eq_some_iff.1 stepped
    refine sound.client ?_ fun log logs ledger => ledger.apply isLeader
    obtain ⟨_, _, _, rfl⟩ := Node.apply_cases isLeader
    exact Node.finish_raft _ _ _ _
  | replicaCall followerId answers => exact sound.replicaCall careful stepped
  | replicaReply thread reply =>
    obtain ⟨leader, isLeader, rfl⟩ := Option.map_eq_some_iff.1 stepped
    exact sound.replicaReply isLeader
  | replicaRetry followerId =>
    obtain ⟨leader, isLeader, rfl⟩ := Option.map_eq_some_iff.1 stepped
    obtain ⟨same, logdb⟩ := Node.replicaRetry_same isLeader
    exact sound.quiet same logdb
  | deliver packet rc answers => exact sound.deliver careful stepped
  | addServer followerId =>
    simp only [Replication.step] at stepped
    split at stepped
    · contradiction
    · rename_i isNew
      rw [← Option.some.inj stepped]
      exact sound.addServer careful isNew rfl
  | deleteServer followerId =>
    rw [← Option.some.inj stepped]
    exact sound.deleteServer careful rfl
  | resetIndex followerId =>
    rw [← Option.some.inj stepped]
    exact sound.resetIndex careful rfl

end

/-- A candidate without clients or calls of an earlier term has become leader, the
logs of the followers match its log, and none has a record of its term. -/
def Replication.Start (state : Replication) : Prop :=
  ∃ candidate log, candidate.oned.raft.state = .candidate ∧
    state.leader = candidate.becomeLeader ∧ Waiting candidate ∧
    (∀ number writer, candidate.writers.lookup number = some writer → writer.phase ≠ .inserted) ∧
    candidate.oned.raft.replicaManager = ∅ ∧ candidate.oned.raft.finalized = [] ∧
    candidate.oned.logdb.Represents log ∧ (∀ entry ∈ log, entry.sqlcmd ≠ "") ∧
    (∀ id, ∃ mine, (state.follower id).logdb.Represents mine ∧
      (state.follower id).logdb.cache = false ∧ Matches mine log ∧
      ∀ entry ∈ mine, entry.term ≠ candidate.oned.raft.term) ∧
    state.requests = [] ∧ state.replies = []

def Replication.system : System Replication ReplicationEvent where
  initial := Replication.Start
  step := Replication.step

theorem Ledger.start {candidate : Node} (isCandidate : candidate.oned.raft.state = .candidate)
    (waiting : Waiting candidate) (noInserted : ∀ number writer, candidate.writers.lookup number = some writer →
      writer.phase ≠ .inserted) (noPool : candidate.oned.raft.replicaManager = ∅)
    (noFinalized : candidate.oned.raft.finalized = [])
    (repr : candidate.oned.logdb.Represents log) (commands : ∀ entry ∈ log, entry.sqlcmd ≠ "") :
    Ledger candidate.becomeLeader [] [] log logs := by
  obtain ⟨isRaft, reprAfter, writers⟩ := Node.becomeLeader_cases repr.toRows
  obtain ⟨isNext, isMatched, -⟩ := @RaftManager.leader_indexes candidate.oned.raft
    candidate.oned.logdb.appliedIndex log.length isCandidate
  rw [← isRaft] at isNext isMatched
  have noCall (followerId : Int) (call : Call) :
      ¬ candidate.becomeLeader.oned.raft.replicaManager.Waits followerId call := by
    intro waits
    rw [isRaft] at waits
    simp only [RaftManager.leader, isCandidate, ne_eq, not_true_eq_false, if_false, noPool] at waits
    obtain ⟨thread, inPool, -⟩ := ReplicaManager.startReplicaThreads_waits waits
    simp at inPool
  refine ⟨waiting.becomeLeader isCandidate, reprAfter, commands,
    fun followerId call waits => absurd waits (noCall followerId call),
    fun followerId call waits => absurd waits (noCall followerId call), ?_,
    isRaft ▸ Counting.leader isCandidate, ?_, ?_, ?_, ?_, ?_⟩
  · intro call inside
    rw [isRaft] at inside
    simp [RaftManager.leader, isCandidate, noFinalized] at inside
  · intro followerId found isFound
    rw [isMatched followerId found isFound]
    exact ⟨Nat.zero_le _, List.nil_prefix⟩
  · intro followerId next found
    rw [isNext followerId next found]
    split <;> omega
  · intro number writer isWriter phase
    rcases writers with same | ⟨unapplied, isInsert⟩
    · rw [same] at isWriter
      exact absurd phase (noInserted number writer isWriter)
    · rw [isInsert, Map.lookup_insert_eq] at isWriter
      split at isWriter
      · rw [← Option.some.inj isWriter]
        refine ⟨fun followerId next found past => ?_, Nat.one_le_of_lt unapplied, Nat.le_refl _⟩
        rw [isNext followerId next found, if_pos unapplied] at past
        exact absurd past (Nat.lt_irrefl _)
      · exact absurd phase (noInserted number writer isWriter)
  · intro index pointer isSlot
    rw [isRaft] at isSlot
    simp [RaftManager.leader, isCandidate] at isSlot
  · intro followerId found isFound
    rw [isRaft] at isFound ⊢
    have apart := RaftManager.leader_members isCandidate isFound
    simpa [RaftManager.leader, isCandidate] using apart

theorem Sound.start (isStart : state.Start) : Sound state := by
  obtain ⟨candidate, log, isCandidate, isLeader, waiting, noInserted, noPool, noFinalized, repr,
    commands, followers, noRequests, noReplies⟩ := isStart
  choose logs follower cacheOff agree other using followers
  have isTerm : state.leader.oned.raft.term = candidate.oned.raft.term := by
    rw [isLeader, (Node.becomeLeader_cases repr.toRows).1]
    simp [RaftManager.leader, isCandidate]
  intro _
  refine ⟨log, logs, ⟨fun id => ⟨follower id, cacheOff id⟩, agree, ?_, ?_, ?_, ?_, ?_⟩, ?_⟩
  · intro id position entry isEntry same
    exact absurd (same.trans isTerm) (other id entry (List.mem_of_getElem? isEntry))
  · simp [noRequests]
  · simp [noRequests]
  · simp [noRequests]
  · simp [noReplies]
  · rw [isLeader, noRequests, noReplies]
    exact Ledger.start isCandidate waiting noInserted noPool noFinalized repr commands

theorem commit_counted (reached : Replication.system.Reachable Replication.Careful state)
    (careful : state.Careful event) (stepped : state.step event = some next) : Counted state next := by
  have sound : Sound state := reached.invariant (fun start isStart => Sound.start isStart)
    fun before event after sound careful stepped => (sound.step careful stepped).1
  exact (sound.step careful stepped).2

def newCandidate : Node :=
  (Node.boot 0 [0, 1, 2] 0).setRaft
    { (Node.boot 0 [0, 1, 2] 0).oned.raft with state := .candidate, term := 1 }

def newLeader : Replication :=
  { leader := newCandidate.becomeLeader, follower := fun id => (Node.boot id [0, 1, 2] 0).oned,
    nextCall := 0, requests := [], replies := [] }

theorem Node.boot_represents (id : Int) (servers : List Int) (now : Nat) :
    (Node.boot id servers now).oned.logdb.Represents [] ∧ (Node.boot id servers now).oned.logdb.cache = false := by
  obtain ⟨repr, _, _, _, _, _, cache⟩ := LogDB.load_empty none (toString now)
  exact ⟨repr.raftState _, cache⟩

theorem newLeader_start : newLeader.Start := by
  have waiting : Waiting (Node.boot 0 [0, 1, 2] 0) := Waiting.start _ _ _
  refine ⟨newCandidate, [], rfl, rfl, waiting.sameRequests ⟨rfl, rfl, rfl⟩, ?_, rfl, rfl,
    (Node.boot_represents 0 [0, 1, 2] 0).1, by simp, fun id => ⟨[], ?_⟩, rfl, rfl⟩
  · intro number writer isWriter
    cases isWriter
  · obtain ⟨repr, cacheOff⟩ := Node.boot_represents id [0, 1, 2] 0
    exact ⟨repr, cacheOff, fun _ _ _ found => by simp at found, by simp⟩

/-- The first record of the new leader is committed by the reply of one follower. -/
theorem commit_counted_first_record : ∃ state next, Replication.system.Reachable Replication.Careful state ∧
      state.step (.replicaReply (.pool 1) (some 0)) = some next ∧
      state.leader.oned.raft.commit = 0 ∧ next.leader.oned.raft.commit = 1 ∧
      next.leader.oned.raft.numServers = 3 ∧ Replicated next 1 := by
  have ran : ((Replication.system.exec Replication.Careful newLeader
        [.write "INSERT" none, .replicate 0, .replicaCall 1, .deliver 0 fun _ => .success]).bind
      fun state => (state.step (.replicaReply (.pool 1) (some 0))).map fun next =>
        (state.leader.oned.raft.commit, next.leader.oned.raft.commit,
          next.leader.oned.raft.numServers, next.leader.oned.raft.state)) =
      some (0, 1, 3, .leader) := by
    decide
  obtain ⟨state, isState, ran⟩ := Option.bind_eq_some_iff.mp ran
  obtain ⟨next, isNext, ran⟩ := Option.map_eq_some_iff.mp ran
  simp only [Prod.mk.injEq] at ran
  obtain ⟨before, after, servers, leads⟩ := ran
  have reached : Replication.system.Reachable Replication.Careful state :=
    System.reachable_of_exec newLeader_start isState
  have careful : state.Careful (.replicaReply (.pool 1) (some 0)) := trivial
  have counted : Counted state next := commit_counted reached careful isNext
  exact ⟨state, next, reached, isNext, before, after, servers,
    after ▸ counted leads (by rw [before, after]; exact Nat.zero_lt_one)⟩

theorem Replication.step_follower (stepped : state.step event = some next) {id : Int}
    (noRequest : ∀ packet ∈ next.requests, packet.dest ≠ id) :
    (∀ packet ∈ state.requests, packet.dest ≠ id) ∧ next.follower id = state.follower id := by
  have onLeader {leader : Option Node} (stepped : state.onLeader leader = some next) :
      next.requests = state.requests ∧ next.follower = state.follower := by
    obtain ⟨_, _, rfl⟩ := Option.map_eq_some_iff.1 stepped
    exact ⟨rfl, rfl⟩
  have same (kept : next.requests = state.requests ∧ next.follower = state.follower) :
      (∀ packet ∈ state.requests, packet.dest ≠ id) ∧ next.follower id = state.follower id :=
    ⟨kept.1 ▸ noRequest, congrFun kept.2 id⟩
  cases event with
  | write _ _ | replicate _ | wake _ | apply _ _ | replicaReply _ _ | replicaRetry _ =>
    exact same (onLeader stepped)
  | replicaCall followerId answers =>
    obtain ⟨_, _, rfl⟩ := Option.map_eq_some_iff.1 stepped
    exact ⟨fun packet inside => noRequest packet (List.mem_append_left _ inside), rfl⟩
  | deliver packet rc answers =>
    simp only [Replication.step, Replication.deliver] at stepped
    split at stepped
    · contradiction
    · rename_i request isRequest
      rw [← Option.some.inj stepped] at noRequest ⊢
      have apart := noRequest request (List.mem_of_getElem? isRequest)
      exact ⟨noRequest, Function.update_of_ne (Ne.symm apart) _ _⟩
  | addServer followerId =>
    simp only [Replication.step] at stepped
    split at stepped
    · contradiction
    · exact same (Option.some.inj stepped ▸ ⟨rfl, rfl⟩)
  | deleteServer _ | resetIndex _ => exact same (Option.some.inj stepped ▸ ⟨rfl, rfl⟩)

theorem Replication.path_follower {ok : Replication → ReplicationEvent → Prop} {start : Replication}
    (path : Replication.system.Path ok start state) {id : Int}
    (noRequest : ∀ packet ∈ state.requests, packet.dest ≠ id) : state.follower id = start.follower id := by
  induction path with
  | refl => rfl
  | tail _ last ih =>
    obtain ⟨event, _, stepped⟩ := last
    obtain ⟨before, same⟩ := Replication.step_follower stepped noRequest
    exact same.trans (ih before)

/-- A server is added between the insert of a record and `replicate_log`. -/
def lateServer : List ReplicationEvent :=
  [.write "INSERT" none, .addServer 3, .replicate 0, .replicaCall 1, .deliver 0 fun _ => .success]

/-- The new server counts as a replica: of four servers only one follower has the
record when it is committed. -/
theorem commit_counted_late_server : ∃ state next, Replication.system.Reachable System.anyStep state ∧
      state.step (.replicaReply (.pool 1) (some 0)) = some next ∧
      next.leader.oned.raft.numServers = 4 ∧ next.leader.oned.raft.commit = 1 ∧ ¬ Counted state next := by
  have ran : ((Replication.system.exec System.anyStep newLeader lateServer).bind
      fun state => (state.step (.replicaReply (.pool 1) (some 0))).map fun next =>
        (state.leader.oned.raft.commit, next.leader.oned.raft.commit,
          next.leader.oned.raft.numServers, next.leader.oned.raft.state,
          next.requests.map Packet.dest)) =
      some (0, 1, 4, .leader, [1]) := by
    decide
  obtain ⟨state, isState, ran⟩ := Option.bind_eq_some_iff.mp ran
  obtain ⟨next, isNext, ran⟩ := Option.map_eq_some_iff.mp ran
  simp only [Prod.mk.injEq] at ran
  obtain ⟨before, after, servers, leads, sentTo⟩ := ran
  have path : Replication.system.Path System.anyStep newLeader next :=
    (System.path_of_exec isState).tail ⟨.replicaReply (.pool 1) (some 0), trivial, isNext⟩
  refine ⟨state, next, System.reachable_of_exec newLeader_start isState, isNext, servers, after, ?_⟩
  intro counted
  obtain ⟨holders, half, holds⟩ := counted leads (by rw [before, after]; exact Nat.zero_lt_one)
  have only : holders ⊆ {1} := by
    intro id isHolder
    obtain ⟨-, -, theirs, -, isTheirs, -⟩ := holds id isHolder
    rw [Finset.mem_singleton]
    by_contra apart
    have same : next.follower id = (Node.boot id [0, 1, 2] 0).oned :=
      Replication.path_follower path fun packet inside isId =>
        apart (by simpa [sentTo, isId] using List.mem_map_of_mem (f := Packet.dest) inside)
    rw [same, after] at isTheirs
    exact absurd ((Node.boot_represents id [0, 1, 2] 0).1.bound isTheirs) (by decide)
  have few := Finset.card_le_card only
  rw [servers] at half
  simp only [Finset.card_singleton] at few
  omega

end OpenNebula.Raft
