import OpenNebula.Raft.Counting
import OpenNebula.Raft.Daemon
import OpenNebula.Raft.Followers
import OpenNebula.Raft.Replication

namespace OpenNebula.Raft

open Library Sql

/-! # What a leader counts

The replies that a leader gets tell which records its followers hold, as long as
each replication thread counts the reply to the record that it sent.
-/

structure Network (state : Replication) (term : Nat) (log : List LogEntry)
    (logs : Int → List LogEntry) : Prop where
  follower : ∀ id, (state.follower id).logdb.Represents (logs id) ∧
    (state.follower id).logdb.cache = false
  agree : ∀ id, Matches (logs id) log
  own : ∀ id position entry, (logs id)[position]? = some entry → entry.term = term →
    position < log.length
  issued : ∀ packet ∈ state.requests, packet.id < state.nextCall
  unique : ∀ packet ∈ state.requests, ∀ other ∈ state.requests, packet.id = other.id →
    packet = other
  requests : ∀ packet ∈ state.requests, ∃ params table, packet.body = .replicate params table ∧
    params.leaderTerm = term ∧ Carries log params
  replies : ∀ reply ∈ state.replies, ∃ packet ∈ state.requests, packet.id = reply.id ∧
    (reply.success = true → ∀ params table, packet.body = .replicate params table →
      Holds log (logs packet.dest) params.index)

def Sent (requests : List Packet) (followerId : Int) (call : Call) : Prop :=
  ∃ packet ∈ requests, packet.id = call.id ∧ packet.dest = followerId ∧
    ∃ params table, packet.body = .replicate params table ∧ params.index = call.nextIndex

structure Ledger (leader : Node) (requests : List Packet) (replies : List Reply)
    (log : List LogEntry) (logs : Int → List LogEntry) : Prop where
  waiting : Waiting leader
  repr : leader.oned.logdb.Represents log
  commands : ∀ entry ∈ log, entry.sqlcmd ≠ ""
  calls : ∀ followerId call, leader.oned.raft.replicaManager.Waits followerId call →
    call.term = leader.oned.raft.term ∧
      leader.oned.raft.next.lookup followerId = some call.nextIndex ∧ Sent requests followerId call
  refused : ∀ followerId call, leader.oned.raft.replicaManager.Waits followerId call →
    ∀ reply ∈ replies, reply.id = call.id → reply.success = false → reply.term ≤ call.term →
    ∀ found, leader.oned.raft.matched.lookup followerId = some found → found + 1 < call.nextIndex
  finalized : ∀ waiting ∈ leader.oned.raft.finalized,
    leader.oned.raft.next.lookup waiting.1 = none
  counting : Counting (fun _ => True) leader.oned.raft
  confirmed : ∀ followerId found, leader.oned.raft.matched.lookup followerId = some found →
    Holds log (logs followerId) found
  bound : ∀ followerId next, leader.oned.raft.next.lookup followerId = some next →
    next ≤ log.length + 1
  fresh : ∀ number writer, leader.writers.lookup number = some writer →
    writer.phase = .inserted → leader.oned.raft.Fresh writer.rindex ∧ 1 ≤ writer.rindex ∧
      writer.rindex ≤ log.length
  slots : ∀ index pointer, leader.oned.raft.requests.requests.lookup index = some (some pointer) →
    1 ≤ index ∧ index ≤ log.length
  members : ∀ followerId found, leader.oned.raft.matched.lookup followerId = some found →
    followerId ≠ leader.oned.raft.serverId

/-- At least half of the servers are followers that hold the record. -/
def Replicated (state : Replication) (index : Nat) : Prop :=
  ∃ holders : Finset Int, state.leader.oned.raft.numServers / 2 ≤ holders.card ∧
    ∀ followerId ∈ holders, followerId ≠ state.leader.oned.raft.serverId ∧ ∃ mine theirs,
      state.leader.oned.logdb.table.lookup index = some mine ∧
      (state.follower followerId).logdb.table.lookup index = some theirs ∧
      mine.entry = theirs.entry

variable {state next : Replication} {leader : Node} {log : List LogEntry}
  {logs : Int → List LogEntry} {requests : List Packet} {replies : List Reply}

variable {changed : Node} {term : Nat} {oned : Oned} {followerId : Int} {packet : Packet}

theorem Ledger.same (ledger : Ledger leader requests replies log logs) (same : SameBooks leader changed)
    (leads : changed.oned.raft.state = .leader) (repr : changed.oned.logdb.Represents log) :
    Ledger changed requests replies log logs := by
  obtain ⟨_, isTerm, numServers⟩ := same.leads leads
  refine ⟨ledger.waiting.same same, repr, ledger.commands, ?_, ?_, ?_,
    ledger.counting.same same.next same.matched same.requests numServers, ?_, ?_, ?_, ?_, ?_⟩
  · rw [isTerm, same.next]
    exact fun followerId call waits => ledger.calls followerId call (same.calls followerId call waits)
  · rw [same.matched]
    exact fun followerId call waits =>
      ledger.refused followerId call (same.calls followerId call waits)
  · rw [same.next]
    exact fun waiting inside => ledger.finalized waiting (same.finalized waiting inside)
  · rw [same.matched]; exact ledger.confirmed
  · rw [same.next]; exact ledger.bound
  · rw [same.writers]
    intro number writer isWriter phase
    obtain ⟨fresh, inside⟩ := ledger.fresh number writer isWriter phase
    refine ⟨?_, inside⟩
    rw [RaftManager.Fresh, same.next, same.matched]
    exact fresh
  · rw [same.requests]; exact ledger.slots
  · rw [same.matched, same.serverId]; exact ledger.members

theorem Network.snoc (network : Network state term log logs) {entry : LogEntry} (isTerm : entry.term = term) :
    Network state term (log ++ [entry]) logs where
  follower := network.follower
  agree := fun id => (network.agree id).snoc fun position found isFound same =>
    network.own id position found isFound (same.trans isTerm)
  own := by
    intro id position found isFound same
    have inside := network.own id position found isFound same
    rw [List.length_append]
    omega
  issued := network.issued
  unique := network.unique
  requests := by
    intro packet isPacket
    obtain ⟨params, table, body, leaderTerm, carries⟩ := network.requests packet isPacket
    exact ⟨params, table, body, leaderTerm, carries.snoc entry⟩
  replies := by
    intro reply isReply
    obtain ⟨packet, isPacket, isId, held⟩ := network.replies reply isReply
    exact ⟨packet, isPacket, isId, fun success params table body =>
      (held success params table body).snoc entry⟩

theorem Network.withLeader (network : Network state term log logs) (leader : Node) :
    Network { state with leader } term log logs :=
  ⟨network.follower, network.agree, network.own, network.issued, network.unique, network.requests,
    network.replies⟩

theorem Oned.insertLogRecord_cases {written : Oned} {rindex : Nat} {cmd : String} {federated : Option Nat}
    (repr : oned.logdb.Represents log)
    (inserted : oned.insertLogRecord term cmd federated = some (written, rindex)) :
    rindex = log.length + 1 ∧ written.raft = oned.raft.replicateAllocate rindex ∧
      ∃ entry, entry.term = term ∧ entry.sqlcmd = cmd ∧
        written.logdb.Represents (log ++ [entry]) := by
  obtain ⟨after, isInserted, reprAfter, -⟩ := repr.insertLogRecord term cmd false federated
  rw [Oned.insertLogRecord, isInserted] at inserted
  obtain ⟨rfl, rfl⟩ := Prod.mk.inj (Option.some.inj inserted)
  exact ⟨rfl, rfl, _, rfl, rfl, reprAfter⟩

theorem Ledger.write (ledger : Ledger leader requests replies log logs) {rindex : Nat} {cmd : String}
    {federated : Option Nat} {entry : LogEntry} (isCmd : cmd ≠ "")
    (inserted : leader.oned.insertLogRecord leader.oned.raft.term cmd federated = some (oned, rindex))
    (isIndex : rindex = log.length + 1) (isRaft : oned.raft = leader.oned.raft.replicateAllocate rindex)
    (isEntry : entry.sqlcmd = cmd) (repr : oned.logdb.Represents (log ++ [entry])) :
    Ledger { leader with
      oned
      writers := leader.writers.insert leader.nextWriter
        { cmd := some cmd, term := leader.oned.raft.term, rindex, phase := .inserted }
      nextWriter := leader.nextWriter + 1 } requests replies (log ++ [entry]) logs := by
  have longer : (log ++ [entry]).length = log.length + 1 := by simp
  refine ⟨ledger.waiting.write inserted, repr, ?_, ?_, ?_, ?_, ?_, ?_, ?_, ?_, ?_, ?_⟩
  · intro other isOther
    rcases List.mem_append.1 isOther with before | new
    · exact ledger.commands other before
    · rw [List.mem_singleton.1 new, isEntry]
      exact isCmd
  · rw [isRaft]; exact ledger.calls
  · rw [isRaft]; exact ledger.refused
  · rw [isRaft]; exact ledger.finalized
  · rw [isRaft]; exact ledger.counting.allocate rindex
  · rw [isRaft]
    exact fun followerId found isFound => (ledger.confirmed followerId found isFound).snoc entry
  · rw [isRaft, longer]
    intro followerId next isNext
    have := ledger.bound followerId next isNext
    omega
  · rw [isRaft, longer]
    intro number writer isWriter phase
    rw [Map.lookup_insert_eq] at isWriter
    split at isWriter
    · rw [← Option.some.inj isWriter, isIndex]
      refine ⟨fun followerId next isNext past => ?_, Nat.le_add_left _ _, Nat.le_refl _⟩
      exact absurd past (Nat.not_lt.2 (ledger.bound followerId next isNext))
    · obtain ⟨fresh, positive, inside⟩ := ledger.fresh number writer isWriter phase
      exact ⟨fresh, positive, by omega⟩
  · rw [isRaft, longer]
    intro index pointer isSlot
    have := ledger.slots index pointer (ReplicaRequestMap.allocate_slot isSlot)
    omega
  · rw [isRaft]; exact ledger.members

theorem Ledger.moved (ledger : Ledger leader requests replies log logs) (waiting : Waiting changed)
    (repr : changed.oned.logdb.Represents log)
    (isRaft : ∃ reconciling, changed.oned.raft = { leader.oned.raft with reconciling })
    (writers : ∀ number writer, changed.writers.lookup number = some writer → writer.phase = .inserted →
      leader.writers.lookup number = some writer) :
    Ledger changed requests replies log logs := by
  obtain ⟨reconciling, isRaft⟩ := isRaft
  refine ⟨waiting, repr, ledger.commands, ?_, ?_, ?_, ?_, ?_, ?_, ?_, ?_, ?_⟩
  · rw [isRaft]; exact ledger.calls
  · rw [isRaft]; exact ledger.refused
  · rw [isRaft]; exact ledger.finalized
  · rw [isRaft]; exact ledger.counting.same rfl rfl rfl rfl
  · rw [isRaft]; exact ledger.confirmed
  · rw [isRaft]; exact ledger.bound
  · rw [isRaft]
    exact fun number writer isWriter phase =>
      ledger.fresh number writer (writers number writer isWriter phase) phase
  · rw [isRaft]; exact ledger.slots
  · rw [isRaft]; exact ledger.members

theorem Node.finish_raft (node : Node) (number : Nat) (writer : Writer) (success : Bool) :
    ∃ reconciling, (node.finish number writer success).oned.raft =
      { node.oned.raft with reconciling } := by
  simp only [Node.finish]
  split
  · exact ⟨false, rfl⟩
  · exact ⟨node.oned.raft.reconciling, rfl⟩

/-- A writer in another phase than `inserted` leaves those that are in it. -/
theorem lookup_moved {writers : Map Nat Writer} {number other : Nat} {moved writer : Writer}
    (phase : moved.phase ≠ .inserted)
    (isWriter : (writers.insert number moved).lookup other = some writer)
    (inserted : writer.phase = .inserted) : writers.lookup other = some writer := by
  rw [Map.lookup_insert_eq] at isWriter
  split at isWriter
  · rw [← Option.some.inj isWriter] at inserted
    exact absurd inserted phase
  · exact isWriter

section

variable (ledger : Ledger leader requests replies log logs)
include ledger

theorem Ledger.wake {number : Nat}
    (stepped : leader.wake number = some changed) :
    Ledger changed requests replies log logs := by
  obtain ⟨writer, rr, isWriter, -, -, -, ⟨-, -, rfl⟩ | ⟨-, rfl⟩⟩ := Node.wake_cases stepped
  · exact ledger.moved (ledger.waiting.setPhase isWriter _ (by simp)) ledger.repr
      ⟨leader.oned.raft.reconciling, rfl⟩ fun other found isFound inserted =>
        lookup_moved (by simp) isFound inserted
  · refine ledger.moved (ledger.waiting.finish isWriter _) ?_ (Node.finish_raft _ _ _ _) ?_
    · rw [(Node.finish_cases _ _ _ _).2]; exact ledger.repr
    · intro other found isFound inserted
      rw [(Node.finish_cases _ _ _ _).1] at isFound
      exact lookup_moved (by simp) isFound inserted

theorem Ledger.apply {number : Nat}
    {rc : Nat → SqlError} {changed : Node} (stepped : leader.apply number rc = some changed) :
    Ledger changed requests replies log logs := by
  obtain ⟨writer, isWriter, -, rfl⟩ := Node.apply_cases stepped
  have ran := ledger.repr.applyLogRecords writer.rindex rc
  have waiting := ledger.waiting.setLogdb (leader.oned.logdb.applyLogRecords writer.rindex rc).1
  refine ledger.moved (waiting.finish isWriter _) ?_ (Node.finish_raft _ _ _ _) ?_
  · rw [(Node.finish_cases _ _ _ _).2]
    exact ran.represents ledger.repr
  · intro other found isFound inserted
    rw [(Node.finish_cases _ _ _ _).1] at isFound
    exact lookup_moved (by simp) isFound inserted

theorem Ledger.replicate {number : Nat}
    {changed : Node} (stepped : leader.replicate number = some changed) :
    Ledger changed requests replies log logs ∧
      (changed.oned.raft.commit = leader.oned.raft.commit ∨
        (1 ≤ changed.oned.raft.commit ∧ changed.oned.raft.commit ≤ log.length ∧
          changed.oned.raft.numServers / 2 ≤
            (changed.oned.raft.confirmed changed.oned.raft.commit).card)) := by
  obtain ⟨writer, rr, slot, replicates⟩ := Node.replicate_replicates stepped
  obtain ⟨fresh, positive, inside⟩ :=
    ledger.fresh number writer replicates.isWriter replicates.phase
  obtain ⟨counting, commit⟩ := ledger.counting.replicate ledger.waiting replicates fun _ => fresh
  refine ⟨⟨ledger.waiting.replicate stepped, by rw [replicates.logdb]; exact ledger.repr,
    ledger.commands, ?_, ?_, ?_, counting, ?_, ?_, ?_, ?_, ?_⟩, ?_⟩
  · rw [replicates.term, replicates.followers]
    exact fun followerId call waits => ledger.calls followerId call (replicates.calls.waits waits)
  · rw [replicates.matched]
    exact fun followerId call waits => ledger.refused followerId call (replicates.calls.waits waits)
  · rw [replicates.finalized, replicates.followers]; exact ledger.finalized
  · rw [replicates.matched]; exact ledger.confirmed
  · rw [replicates.followers]; exact ledger.bound
  · rw [replicates.writers]
    intro other found isFound inserted
    obtain ⟨isFresh, within⟩ :=
      ledger.fresh other found (lookup_moved (by simp) isFound inserted) inserted
    refine ⟨?_, within⟩
    rw [RaftManager.Fresh, replicates.followers, replicates.matched]
    exact isFresh
  · intro index pointer isSlot
    rw [replicates.slots] at isSlot
    split at isSlot
    · rename_i here
      rw [here]
      exact ⟨positive, inside⟩
    · exact ledger.slots index pointer isSlot
  · rw [replicates.matched, replicates.serverId]; exact ledger.members
  · rcases commit with same | ⟨isCommit, half⟩
    · exact .inl same
    · right
      rw [isCommit, replicates.numServers, RaftManager.confirmed_congr replicates.matched]
      exact ⟨positive, inside, half trivial⟩

theorem Ledger.call {call index : Nat}
    {thread : ReplicaThread} (inPool : leader.oned.raft.replicaManager.lookup followerId = some thread)
    (isNext : leader.oned.raft.next.lookup followerId = some index)
    (isNew : ∀ reply ∈ replies, reply.id ≠ call)
    (sent : Sent (requests ++ [packet]) followerId ⟨call, leader.oned.raft.term, index⟩) :
    Ledger (leader.setReplica followerId
      { thread with
        pendingRequests := false
        call := some ⟨call, leader.oned.raft.term, index⟩ })
      (requests ++ [packet]) replies log logs := by
  have waits : ∀ id found, (leader.setReplica followerId { thread with
      pendingRequests := false
      call := some ⟨call, leader.oned.raft.term, index⟩ }).oned.raft.replicaManager.Waits id found →
      (id = followerId ∧ found = ⟨call, leader.oned.raft.term, index⟩) ∨
        leader.oned.raft.replicaManager.Waits id found := by
    rintro id found ⟨changed, isChanged, isCall⟩
    simp only [Node.setReplica, Node.setRaft, Map.lookup_insert_eq] at isChanged
    split at isChanged
    · rename_i same
      rw [← Option.some.inj isChanged] at isCall
      exact .inl ⟨same, (Option.some.inj isCall).symm⟩
    · exact .inr ⟨changed, isChanged, isCall⟩
  refine ⟨ledger.waiting.sameRequests ⟨rfl, rfl, rfl⟩, ledger.repr, ledger.commands, ?_, ?_,
    ledger.finalized, ledger.counting.same rfl rfl rfl rfl, ledger.confirmed, ledger.bound,
    ledger.fresh, ledger.slots, ledger.members⟩
  · intro id found isWaiting
    rcases waits id found isWaiting with ⟨rfl, rfl⟩ | before
    · exact ⟨rfl, isNext, sent⟩
    · obtain ⟨isTerm, isIndex, earlier, isEarlier, rest⟩ := ledger.calls id found before
      exact ⟨isTerm, isIndex, earlier, List.mem_append_left _ isEarlier, rest⟩
  · intro id found isWaiting reply isReply isId
    rcases waits id found isWaiting with ⟨rfl, rfl⟩ | before
    · exact absurd isId (isNew reply isReply)
    · exact ledger.refused id found before reply isReply isId

theorem Ledger.success {followerId : Int}
    {index dbLindex : Nat} (isNext : leader.oned.raft.next.lookup followerId = some index)
    (noCall : ∀ call, ¬ leader.oned.raft.replicaManager.Waits followerId call)
    (holds : Holds log (logs followerId) index) {raft : RaftManager}
    (isRaft : raft = leader.oned.raft.replicateSuccess followerId dbLindex) :
    Ledger (leader.setRaft raft) requests replies log logs ∧
      (raft.commit = leader.oned.raft.commit ∨
        (1 ≤ raft.commit ∧ raft.commit ≤ log.length ∧
          raft.numServers / 2 ≤ (raft.confirmed raft.commit).card)) := by
  obtain ⟨counting, commit⟩ :=
    @Counting.success _ _ followerId dbLindex index ledger.counting ledger.waiting isNext
  obtain ⟨found, isFound, below⟩ := ledger.counting.known followerId index isNext
  have positive : 1 ≤ index := by omega
  rcases leader.oned.raft.replicateSuccess_cases followerId dbLindex with
    ⟨unknown, _⟩ | ⟨other, pool, isOther, calls, isSuccess⟩
  · rw [isNext, isFound] at unknown
    simp at unknown
  rw [isNext, Option.some.injEq] at isOther
  subst isOther
  have waiting : Waiting (leader.setRaft raft) := isRaft ▸ ledger.waiting.success
  rw [← isRaft] at counting commit
  rw [isSuccess] at isRaft
  have apart {id : Int} {call : Call} (waits : raft.replicaManager.Waits id call) :
      leader.oned.raft.replicaManager.Waits id call ∧ id ≠ followerId := by
    rw [isRaft] at waits
    have before := calls.waits waits
    exact ⟨before, fun same => noCall call (same ▸ before)⟩
  refine ⟨⟨waiting, ledger.repr, ledger.commands, ?_, ?_, ?_, counting, ?_, ?_, ?_, ?_, ?_⟩, ?_⟩
  · intro id call waits
    obtain ⟨before, different⟩ := apart waits
    obtain ⟨isTerm, isIndex, sent⟩ := ledger.calls id call before
    refine ⟨by rw [Node.setRaft, isRaft]; exact isTerm, ?_, sent⟩
    rw [Node.setRaft, isRaft]
    dsimp only
    rw [Map.lookup_insert_eq, if_neg different]
    exact isIndex
  · intro id call waits reply isReply isId failed current matchedIndex isMatched
    obtain ⟨before, different⟩ := apart waits
    rw [Node.setRaft, isRaft] at isMatched
    dsimp only at isMatched
    rw [Map.lookup_insert_eq, if_neg different] at isMatched
    exact ledger.refused id call before reply isReply isId failed current matchedIndex isMatched
  · rw [Node.setRaft, isRaft]
    intro waiting inside
    have unknown := ledger.finalized waiting inside
    dsimp only
    rw [Map.lookup_insert_eq, if_neg]
    · exact unknown
    · intro same
      rw [same, isNext] at unknown
      cases unknown
  · rw [Node.setRaft, isRaft]
    intro id matchedIndex isMatched
    dsimp only at isMatched
    rw [Map.lookup_insert_eq] at isMatched
    split at isMatched
    · rename_i same
      rw [same, ← Option.some.inj isMatched]
      exact holds
    · exact ledger.confirmed id matchedIndex isMatched
  · rw [Node.setRaft, isRaft]
    intro id next isLookup
    dsimp only at isLookup
    rw [Map.lookup_insert_eq] at isLookup
    split at isLookup
    · rw [← Option.some.inj isLookup]
      exact Nat.succ_le_succ holds.1
    · exact ledger.bound id next isLookup
  · intro number writer isWriter phase
    obtain ⟨fresh, inside⟩ := ledger.fresh number writer isWriter phase
    refine ⟨?_, inside⟩
    rw [Node.setRaft, isRaft]
    intro id next isLookup past
    dsimp only at isLookup ⊢
    rw [Map.lookup_insert_eq] at isLookup ⊢
    split at isLookup
    · rename_i same
      rw [if_pos same]
      exact ⟨index, rfl, by have := Option.some.inj isLookup; omega⟩
    · rename_i different
      rw [if_neg different]
      exact fresh id next isLookup past
  · rw [Node.setRaft, isRaft]
    exact fun slot pointer isSlot =>
      ledger.slots slot pointer (ReplicaRequestMap.addReplica_slot isSlot)
  · rw [Node.setRaft, isRaft]
    intro id matchedIndex isMatched
    dsimp only at isMatched ⊢
    rw [Map.lookup_insert_eq] at isMatched
    split at isMatched
    · rename_i same
      rw [same]
      exact ledger.members followerId found isFound
    · exact ledger.members id matchedIndex isMatched
  · rcases commit with same | ⟨isCommit, half⟩
    · exact .inl same
    · right
      rw [isCommit, show raft.numServers = leader.oned.raft.numServers by rw [isRaft]]
      exact ⟨positive, holds.1, half trivial⟩

theorem Ledger.failure
    (noCall : leader.oned.raft.next.lookup followerId = none ∨ ∀ call, ¬ leader.oned.raft.replicaManager.Waits followerId call)
    (below : ∀ index found, leader.oned.raft.next.lookup followerId = some index →
      leader.oned.raft.matched.lookup followerId = some found → found + 1 < index)
    {raft : RaftManager} (isRaft : raft = leader.oned.raft.replicateFailure followerId) :
    Ledger (leader.setRaft raft) requests replies log logs ∧
      raft.commit = leader.oned.raft.commit := by
  have counting := ledger.counting.failure below
  rw [← isRaft] at counting
  obtain ⟨lowered, pool, calls, isLowered, isFailure⟩ :=
    leader.oned.raft.replicateFailure_cases followerId
  rw [isFailure] at isRaft
  have lower : ∀ id next, lowered.lookup id = some next →
      ∃ before, leader.oned.raft.next.lookup id = some before ∧ next ≤ before := by
    intro id next isLookup
    rw [isLowered, Option.map_eq_some_iff] at isLookup
    obtain ⟨before, isBefore, rfl⟩ := isLookup
    exact ⟨before, isBefore, by split <;> omega⟩
  refine ⟨⟨?_, ledger.repr, ledger.commands, ?_, ?_, ?_, counting, ?_, ?_, ?_, ?_, ?_⟩,
    by rw [isRaft]⟩
  · exact ledger.waiting.sameRequests (.of_raft (by rw [isRaft]))
  · rw [Node.setRaft, isRaft]
    intro id call waits
    obtain ⟨isTerm, isIndex, sent⟩ := ledger.calls id call (calls.waits waits)
    refine ⟨isTerm, ?_, sent⟩
    dsimp only
    rw [isLowered, isIndex, Option.map_some, if_neg]
    rintro rfl
    rcases noCall with unknown | none
    · rw [unknown] at isIndex
      cases isIndex
    · exact none call (calls.waits waits)
  · rw [Node.setRaft, isRaft]
    exact fun id call waits => ledger.refused id call (calls.waits waits)
  · rw [Node.setRaft, isRaft]
    intro waiting inside
    dsimp only
    rw [isLowered, ledger.finalized waiting inside]
    rfl
  · rw [Node.setRaft, isRaft]; exact ledger.confirmed
  · rw [Node.setRaft, isRaft]
    intro id next isLookup
    obtain ⟨before, isBefore, less⟩ := lower id next isLookup
    exact less.trans (ledger.bound id before isBefore)
  · intro number writer isWriter phase
    obtain ⟨fresh, inside⟩ := ledger.fresh number writer isWriter phase
    refine ⟨?_, inside⟩
    rw [Node.setRaft, isRaft]
    intro id next isLookup past
    obtain ⟨before, isBefore, less⟩ := lower id next isLookup
    exact fresh id before isBefore (past.trans_le less)
  · rw [Node.setRaft, isRaft]; exact ledger.slots
  · rw [Node.setRaft, isRaft]; exact ledger.members

theorem Ledger.addServer {followerId : Int}
    (isLeader : leader.oned.raft.state = .leader)
    (isNew : followerId ≠ leader.oned.raft.serverId)
    (noInserted : ∀ number writer, leader.writers.lookup number = some writer →
      writer.phase ≠ .inserted)
    (noFinalized : ∀ waiting ∈ leader.oned.raft.finalized, waiting.1 ≠ followerId)
    (half : leader.oned.raft.numServers % 2 = 0 ∨ ∀ index pointer,
      leader.oned.raft.requests.requests.lookup index ≠ some (some pointer)) {raft : RaftManager}
    (isRaft : raft = leader.oned.raft.addServer followerId log.length) :
    Ledger (leader.setRaft raft) requests replies log logs ∧
      raft.commit = leader.oned.raft.commit := by
  have counting := @Counting.addServer _ _ followerId log.length ledger.counting
    (fun found isFound => (ledger.confirmed followerId found isFound).1) half
  rw [← isRaft] at counting
  simp only [RaftManager.addServer, isLeader, ne_eq, not_true_eq_false, if_false] at isRaft
  have calls {id : Int} {call : Call} (waits : raft.replicaManager.Waits id call) :
      leader.oned.raft.replicaManager.Waits id call := by
    obtain ⟨thread, inPool, isCall⟩ := waits
    rw [isRaft] at inPool
    dsimp only at inPool
    rw [ReplicaManager.addReplicaThread] at inPool
    split at inPool
    · exact ⟨thread, inPool, isCall⟩
    · by_cases same : id = followerId
      · subst same
        rw [Map.lookup_insertNew_self, Option.some.injEq] at inPool
        cases before : leader.oned.raft.replicaManager.lookup id with
        | none =>
          rw [before, Option.getD_none] at inPool
          rw [← inPool] at isCall
          cases isCall
        | some old =>
          rw [before, Option.getD_some] at inPool
          exact ⟨thread, inPool ▸ before, isCall⟩
      · rw [Map.lookup_insertNew_ne same] at inPool
        exact ⟨thread, inPool, isCall⟩
  have isNext {id : Int} {next : Nat} (found : raft.next.lookup id = some next) :
      leader.oned.raft.next.lookup id = some next ∨ (id = followerId ∧ next = log.length + 1) := by
    rw [isRaft] at found
    dsimp only at found
    by_cases same : id = followerId
    · subst same
      rw [Map.lookup_insertNew_self, Option.some.injEq] at found
      cases before : leader.oned.raft.next.lookup id with
      | none => rw [before, Option.getD_none] at found; exact .inr ⟨rfl, found.symm⟩
      | some old => rw [before, Option.getD_some] at found; exact .inl (congrArg some found)
    · rw [Map.lookup_insertNew_ne same] at found
      exact .inl found
  have isMatched {id : Int} {found : Nat} (isFound : raft.matched.lookup id = some found) :
      leader.oned.raft.matched.lookup id = some found ∨ found = 0 := by
    rw [isRaft] at isFound
    dsimp only at isFound
    by_cases same : id = followerId
    · subst same
      rw [Map.lookup_insertNew_self, Option.some.injEq] at isFound
      cases before : leader.oned.raft.matched.lookup id with
      | none => rw [before, Option.getD_none] at isFound; exact .inr isFound.symm
      | some old => rw [before, Option.getD_some] at isFound; exact .inl (congrArg some isFound)
    · rw [Map.lookup_insertNew_ne same] at isFound
      exact .inl isFound
  refine ⟨⟨ledger.waiting.sameRequests (.of_raft (by rw [isRaft])), ledger.repr, ledger.commands,
    ?_, ?_, ?_, counting, ?_, ?_, ?_, ?_, ?_⟩, by rw [isRaft]⟩
  · intro id call waits
    obtain ⟨isTerm, isIndex, sent⟩ := ledger.calls id call (calls waits)
    refine ⟨by rw [Node.setRaft, isRaft]; exact isTerm, ?_, sent⟩
    rw [Node.setRaft, isRaft]
    dsimp only
    by_cases same : id = followerId
    · subst same
      rw [Map.lookup_insertNew_self, isIndex]
      rfl
    · rw [Map.lookup_insertNew_ne same]
      exact isIndex
  · intro id call waits reply isReply isId failed current found isFound
    rcases isMatched isFound with before | rfl
    · exact ledger.refused id call (calls waits) reply isReply isId failed current found before
    · obtain ⟨_, isIndex, _⟩ := ledger.calls id call (calls waits)
      obtain ⟨old, isOld, _⟩ := ledger.counting.known id call.nextIndex isIndex
      have := ledger.refused id call (calls waits) reply isReply isId failed current old isOld
      omega
  · intro waiting inside
    have earlier : waiting ∈ leader.oned.raft.finalized := by rwa [Node.setRaft, isRaft] at inside
    cases found : (leader.setRaft raft).oned.raft.next.lookup waiting.1 with
    | none => rfl
    | some next =>
      rcases isNext found with before | ⟨same, _⟩
      · rw [ledger.finalized waiting earlier] at before
        cases before
      · exact absurd same (noFinalized waiting earlier)
  · intro id found isFound
    rcases isMatched isFound with before | rfl
    · exact ledger.confirmed id found before
    · exact ⟨Nat.zero_le _, List.nil_prefix⟩
  · intro id next found
    rcases isNext found with before | ⟨_, rfl⟩
    · exact ledger.bound id next before
    · exact Nat.le_refl _
  · exact fun number writer isWriter phase => absurd phase (noInserted number writer isWriter)
  · rw [Node.setRaft, isRaft]; exact ledger.slots
  · rw [Node.setRaft, isRaft]
    intro id found isFound
    dsimp only at isFound ⊢
    by_cases same : id = followerId
    · rw [same]
      exact isNew
    · rw [Map.lookup_insertNew_ne same] at isFound
      exact ledger.members id found isFound

theorem Ledger.deleteServer
    (isLeader : leader.oned.raft.state = .leader)
    (half : leader.oned.raft.numServers % 2 = 0 ∨ ∀ index pointer found,
      leader.oned.raft.requests.requests.lookup index = some (some pointer) →
      leader.oned.raft.matched.lookup followerId = some found → found < index)
    {raft : RaftManager} (isRaft : raft = leader.oned.raft.deleteServer followerId) :
    Ledger (leader.setRaft raft) requests replies log logs ∧
      raft.commit = leader.oned.raft.commit := by
  have counting := ledger.counting.deleteServer half
  rw [← isRaft] at counting
  simp only [RaftManager.deleteServer, isLeader, ne_eq, not_true_eq_false, if_false] at isRaft
  have erased {rows : Map Int Nat} {id : Int} {value : Nat}
      (found : (rows.erase followerId).lookup id = some value) :
      rows.lookup id = some value ∧ id ≠ followerId := by
    rw [Map.lookup_erase_eq] at found
    split at found
    · cases found
    · rename_i apart
      exact ⟨found, apart⟩
  have calls {id : Int} {call : Call} (waits : raft.replicaManager.Waits id call) :
      leader.oned.raft.replicaManager.Waits id call ∧ id ≠ followerId := by
    obtain ⟨thread, inPool, isCall⟩ := waits
    rw [isRaft] at inPool
    dsimp only at inPool
    rw [Map.lookup_erase_eq] at inPool
    split at inPool
    · cases inPool
    · rename_i apart
      exact ⟨⟨thread, inPool, isCall⟩, apart⟩
  refine ⟨⟨ledger.waiting.sameRequests (.of_raft (by rw [isRaft])), ledger.repr, ledger.commands,
    ?_, ?_, ?_, counting, ?_, ?_, ?_, ?_, ?_⟩, by rw [isRaft]⟩
  · intro id call waits
    obtain ⟨before, apart⟩ := calls waits
    obtain ⟨isTerm, isIndex, sent⟩ := ledger.calls id call before
    refine ⟨by rw [Node.setRaft, isRaft]; exact isTerm, ?_, sent⟩
    rw [Node.setRaft, isRaft]
    dsimp only
    rw [Map.lookup_erase_eq, if_neg apart]
    exact isIndex
  · intro id call waits reply isReply isId failed current found isFound
    rw [Node.setRaft, isRaft] at isFound
    exact ledger.refused id call (calls waits).1 reply isReply isId failed current found
      (erased isFound).1
  · rw [Node.setRaft, isRaft]
    intro waiting inside
    dsimp only at inside ⊢
    rw [Map.lookup_erase_eq]
    split
    · rfl
    · rename_i apart
      rcases List.mem_append.1 inside with earlier | new
      · exact ledger.finalized waiting earlier
      · have same := (List.mem_filter.1 new).2
        exact absurd (of_decide_eq_true same) apart
  · rw [Node.setRaft, isRaft]
    exact fun id found isFound => ledger.confirmed id found (erased isFound).1
  · rw [Node.setRaft, isRaft]
    exact fun id next isLookup => ledger.bound id next (erased isLookup).1
  · intro number writer isWriter phase
    obtain ⟨fresh, inside⟩ := ledger.fresh number writer isWriter phase
    refine ⟨?_, inside⟩
    rw [Node.setRaft, isRaft]
    intro id next isLookup past
    obtain ⟨before, apart⟩ := erased isLookup
    dsimp only
    rw [Map.lookup_erase_eq, if_neg apart]
    exact fresh id next before past
  · rw [Node.setRaft, isRaft]; exact ledger.slots
  · rw [Node.setRaft, isRaft]
    exact fun id found isFound => ledger.members id found (erased isFound).1

theorem Ledger.resetIndex {followerId : Int}
    (careful : leader.oned.raft.next.lookup followerId = some (log.length + 1) ∨
      ((∀ call, ¬ leader.oned.raft.replicaManager.Waits followerId call) ∧
        ∀ number writer, leader.writers.lookup number = some writer → writer.phase = .inserted →
          ∀ found, leader.oned.raft.matched.lookup followerId = some found →
            writer.rindex ≤ found))
    {raft : RaftManager} (isRaft : raft = leader.oned.raft.resetIndex followerId log.length) :
    Ledger (leader.setRaft raft) requests replies log logs ∧
      raft.commit = leader.oned.raft.commit := by
  have counting := @Counting.resetIndex _ _ followerId log.length ledger.counting
    fun found isFound => (ledger.confirmed followerId found isFound).1
  rw [← isRaft] at counting
  have isNext : ∀ id, raft.next.lookup id = (leader.oned.raft.next.lookup id).map fun next =>
      if id = followerId then log.length + 1 else next := by
    intro id
    rw [isRaft]
    exact Map.lookup_modify _ _ _
  rw [RaftManager.resetIndex] at isRaft
  refine ⟨⟨ledger.waiting.sameRequests (.of_raft (by rw [isRaft])), ledger.repr, ledger.commands,
    ?_, ?_, ?_, counting, ?_, ?_, ?_, ?_, ?_⟩, by rw [isRaft]⟩
  · intro id call waits
    have before : leader.oned.raft.replicaManager.Waits id call := by
      rwa [Node.setRaft, isRaft] at waits
    obtain ⟨isTerm, isIndex, sent⟩ := ledger.calls id call before
    refine ⟨by rw [Node.setRaft, isRaft]; exact isTerm, ?_, sent⟩
    show raft.next.lookup id = some call.nextIndex
    rw [isNext, isIndex, Option.map_some]
    split
    · rename_i same
      subst same
      rcases careful with last | ⟨noCall, _⟩
      · rw [isIndex] at last
        exact last.symm
      · exact absurd before (noCall call)
    · rfl
  · rw [Node.setRaft, isRaft]; exact ledger.refused
  · intro waiting inside
    have earlier : waiting ∈ leader.oned.raft.finalized := by rwa [Node.setRaft, isRaft] at inside
    show raft.next.lookup waiting.1 = none
    rw [isNext, ledger.finalized waiting earlier]
    rfl
  · rw [Node.setRaft, isRaft]; exact ledger.confirmed
  · intro id next found
    rw [show (leader.setRaft raft).oned.raft.next.lookup id = _ from isNext id,
      Option.map_eq_some_iff] at found
    obtain ⟨before, isBefore, rfl⟩ := found
    split
    · exact Nat.le_refl _
    · exact ledger.bound id before isBefore
  · intro number writer isWriter phase
    obtain ⟨fresh, inside⟩ := ledger.fresh number writer isWriter phase
    refine ⟨?_, inside⟩
    intro id next found past
    rw [show (leader.setRaft raft).oned.raft.next.lookup id = _ from isNext id,
      Option.map_eq_some_iff] at found
    obtain ⟨before, isBefore, isIndex⟩ := found
    rw [show (leader.setRaft raft).oned.raft.matched = leader.oned.raft.matched by
      rw [Node.setRaft, isRaft]]
    split at isIndex
    · rename_i same
      subst same
      rcases careful with last | ⟨_, past⟩
      · rw [isBefore, Option.some.injEq] at last
        exact fresh id before isBefore (by omega)
      · obtain ⟨found, isFound, _⟩ := ledger.counting.known id before isBefore
        exact ⟨found, isFound, past number writer isWriter phase found isFound⟩
    · exact fresh id before isBefore (by omega)
  · rw [Node.setRaft, isRaft]; exact ledger.slots
  · rw [Node.setRaft, isRaft]; exact ledger.members

end

theorem Network.call (network : Network state leader.oned.raft.term log logs)
    (ledger : Ledger leader state.requests state.replies log logs) {index : Nat} {lr : LogDBRecord}
    (loaded : leader.oned.logdb.getLogRecord index (index - 1) = some lr) (changed : Node) :
    Network { state with
      leader := changed
      nextCall := state.nextCall + 1
      requests := state.requests ++ [leader.replicatePacket state.nextCall followerId lr] }
      leader.oned.raft.term log logs where
  follower := network.follower
  agree := network.agree
  own := network.own
  issued := by
    intro packet isPacket
    rcases List.mem_append.1 isPacket with before | new
    · exact Nat.lt_succ_of_lt (network.issued packet before)
    · rw [List.mem_singleton.1 new]
      exact Nat.lt_succ_self _
  unique := by
    intro packet isPacket other isOther sameId
    rcases List.mem_append.1 isPacket with before | new <;>
      rcases List.mem_append.1 isOther with otherBefore | otherNew
    · exact network.unique packet before other otherBefore sameId
    · have earlier := network.issued packet before
      rw [sameId, List.mem_singleton.1 otherNew] at earlier
      exact absurd earlier (Nat.lt_irrefl _)
    · have earlier := network.issued other otherBefore
      rw [← sameId, List.mem_singleton.1 new] at earlier
      exact absurd earlier (Nat.lt_irrefl _)
    · rw [List.mem_singleton.1 new, List.mem_singleton.1 otherNew]
  requests := by
    intro packet isPacket
    rcases List.mem_append.1 isPacket with before | new
    · exact network.requests packet before
    · rw [List.mem_singleton.1 new]
      refine ⟨_, _, rfl, rfl, ?_⟩
      obtain ⟨isIndex, isPrev, ⟨zero, isTerm, prevTerm⟩ | ⟨positive, found, prevTerm⟩⟩ :=
        ledger.repr.loaded loaded
      · exact .inl ⟨isIndex.trans zero, by rw [isPrev, zero], isTerm, prevTerm⟩
      · exact .inr ⟨index - 1, isIndex.trans (Nat.sub_add_cancel positive).symm, isPrev, prevTerm, found,
          ledger.commands lr.entry (List.mem_of_getElem? found)⟩
  replies := by
    intro reply isReply
    obtain ⟨packet, isPacket, rest⟩ := network.replies reply isReply
    exact ⟨packet, List.mem_append_left _ isPacket, rest⟩

theorem Network.deliver (network : Network state term log logs) {params : ReplicateLogParams}
    {table : Map Nat LogRow} (isPacket : packet ∈ state.requests)
    (body : packet.body = .replicate params table) {rc : Nat → SqlError} {response : Response}
    (isResult : ZoneAPI.replicateLog (state.follower packet.dest) {} params true rc = (oned, response)) :
    ∃ after, Received log (logs packet.dest) after params response ∧
      Network { state with
        follower := Function.update state.follower packet.dest oned
        replies := state.replies ++
          [{ id := packet.id, success := response.code = .success, term := response.respId }] }
        term log (Function.update logs packet.dest after) := by
  obtain ⟨found, foundTable, foundBody, leaderTerm, carries⟩ := network.requests packet isPacket
  obtain ⟨rfl, rfl⟩ : found = params ∧ foundTable = table := by
    rw [body] at foundBody
    cases foundBody
    exact ⟨rfl, rfl⟩
  obtain ⟨repr, cacheOff⟩ := network.follower packet.dest
  obtain ⟨after, reprAfter, cacheAfter, received⟩ :=
    replicateLog_received repr cacheOff (network.agree packet.dest) carries rc
  rw [isResult] at reprAfter cacheAfter received
  have keeps : ∀ id count, Holds log (logs id) count →
      Holds log (Function.update logs packet.dest after id) count := by
    intro id count holds
    by_cases same : id = packet.dest
    · subst same
      rw [Function.update_self]
      exact received.kept count holds
    · rw [Function.update_of_ne same]
      exact holds
  refine ⟨after, received, ?_, ?_, ?_, network.issued, network.unique, network.requests, ?_⟩
  · intro id
    by_cases same : id = packet.dest
    · subst same
      simp only [Function.update_self]
      exact ⟨reprAfter, cacheAfter⟩
    · simp only [Function.update_of_ne same]
      exact network.follower id
  · intro id
    by_cases same : id = packet.dest
    · subst same
      rw [Function.update_self]
      rcases received.took with rfl | ⟨count, rfl⟩
      · exact network.agree packet.dest
      · exact Matches.take log count
    · rw [Function.update_of_ne same]
      exact network.agree id
  · intro id position entry isEntry isTerm
    by_cases same : id = packet.dest
    · subst same
      rw [Function.update_self] at isEntry
      rcases received.took with rfl | ⟨count, rfl⟩
      · exact network.own packet.dest position entry isEntry isTerm
      · have inside := (List.getElem?_eq_some_iff.1 isEntry).1
        rw [List.length_take] at inside
        omega
    · rw [Function.update_of_ne same] at isEntry
      exact network.own id position entry isEntry isTerm
  · intro reply isReply
    rcases List.mem_append.1 isReply with before | new
    · obtain ⟨sent, isSent, isId, held⟩ := network.replies reply before
      exact ⟨sent, isSent, isId, fun success other otherTable isBody =>
        keeps _ _ (held success other otherTable isBody)⟩
    · rw [List.mem_singleton.1 new]
      refine ⟨packet, isPacket, rfl, fun success other otherTable isBody => ?_⟩
      rw [body] at isBody
      cases isBody
      rw [Function.update_self]
      exact received.success (of_decide_eq_true success)

theorem Ledger.deliver (ledger : Ledger leader state.requests state.replies log logs)
    (network : Network state term log logs) (isTerm : leader.oned.raft.term = term)
    {params : ReplicateLogParams} {table : Map Nat LogRow} (isPacket : packet ∈ state.requests)
    (body : packet.body = .replicate params table) {after : List LogEntry} {response : Response}
    (received : Received log (logs packet.dest) after params response) :
    Ledger leader state.requests (state.replies ++
      [{ id := packet.id, success := response.code = .success, term := response.respId }]) log
      (Function.update logs packet.dest after) := by
  refine ⟨ledger.waiting, ledger.repr, ledger.commands, ledger.calls, ?_, ledger.finalized,
    ledger.counting, ?_, ledger.bound, ledger.fresh, ledger.slots, ledger.members⟩
  · intro followerId call waits reply isReply isId failed current found isFound
    rcases List.mem_append.1 isReply with before | new
    · exact ledger.refused followerId call waits reply before isId failed current found isFound
    · rw [List.mem_singleton.1 new] at isId failed current
      obtain ⟨callTerm, _, sent, isSent, sentId, sentDest, sentParams, sentTable, sentBody, isIndex⟩ :=
        ledger.calls followerId call waits
      have same := network.unique sent isSent packet isPacket (sentId.trans isId.symm)
      subst same
      obtain ⟨rfl, -⟩ := Request.replicate.inj (sentBody.symm.trans body)
      obtain ⟨foundParams, _, foundBody, leaderTerm, _⟩ := network.requests sent isPacket
      obtain ⟨rfl, -⟩ := Request.replicate.inj (foundBody.symm.trans body)
      have notSuccess : response.code ≠ .success := of_decide_eq_false failed
      have respId : response.respId ≤ foundParams.leaderTerm := by
        rw [leaderTerm, ← isTerm, ← callTerm]
        exact current
      obtain ⟨index, atIndex, missing⟩ := received.refused notSuccess respId
      rw [← isIndex, atIndex]
      by_contra atLeast
      have holds := ledger.confirmed followerId found isFound
      rw [← sentDest] at holds
      exact missing (holds.le (by omega))
  · intro followerId found isFound
    have holds := ledger.confirmed followerId found isFound
    by_cases same : followerId = packet.dest
    · subst same
      rw [Function.update_self]
      exact received.kept found holds
    · rw [Function.update_of_ne same]
      exact holds

theorem Ledger.replicated (ledger : Ledger state.leader requests replies log logs) {term : Nat}
    (network : Network state term log logs) {index : Nat} (positive : 1 ≤ index)
    (inside : index ≤ log.length)
    (half : state.leader.oned.raft.numServers / 2 ≤
      (state.leader.oned.raft.confirmed index).card) : Replicated state index := by
  refine ⟨state.leader.oned.raft.confirmed index, half, fun followerId isConfirmed => ?_⟩
  obtain ⟨found, isFound, past⟩ := RaftManager.mem_confirmed.1 isConfirmed
  have holds := ledger.confirmed followerId found isFound
  obtain ⟨position, rfl⟩ : ∃ position, index = position + 1 := ⟨index - 1, by omega⟩
  have atLeader := List.getElem?_eq_getElem inside
  have atFollower := (holds.getElem? past).trans atLeader
  obtain ⟨mine, isMine, mineEntry⟩ := ledger.repr.lookup atLeader
  obtain ⟨theirs, isTheirs, theirEntry⟩ := (network.follower followerId).1.lookup atFollower
  exact ⟨ledger.members followerId found isFound, mine, theirs, isMine, isTheirs,
    mineEntry.trans theirEntry.symm⟩

end OpenNebula.Raft
