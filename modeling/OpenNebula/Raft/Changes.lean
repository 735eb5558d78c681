import OpenNebula.Raft.Simulation

namespace OpenNebula.Raft

open Library Library.Consensus Sql

/-! # What a step changes on a server

The invariants about commit indexes and waiting clients read the records, the
requests and the calls of a server.  Most steps leave them alone; `Change` lists
the others.
-/

def ReplicaManager.Waits (pool : ReplicaManager) (followerId : Int) (call : Call) : Prop :=
  ∃ thread, pool.lookup followerId = some thread ∧ thread.call = some call

variable {followerId : Int} {call : Call} {thread : ThreadRef} {packet : Option Packet} {reply : Option Nat}

theorem ReplicaManager.SameCalls.waits {before after : ReplicaManager} (same : before.SameCalls after)
    (waits : after.Waits followerId call) : before.Waits followerId call := by
  obtain ⟨thread, found, isCall⟩ := waits
  have calls := same followerId
  rw [found, Option.map_some, isCall] at calls
  obtain ⟨old, foundOld, oldCall⟩ := Option.map_eq_some_iff.1 calls.symm
  exact ⟨old, foundOld, oldCall⟩

/-- The second server has the records and the requests of the first, and no calls
that the first did not have. -/
structure SameBooks (before after : Node) : Prop where
  writers : after.writers = before.writers
  nextWriter : after.nextWriter = before.nextWriter
  requests : after.oned.raft.requests = before.oned.raft.requests
  commit : after.oned.raft.commit = before.oned.raft.commit
  next : after.oned.raft.next = before.oned.raft.next
  matched : after.oned.raft.matched = before.oned.raft.matched
  serverId : after.oned.raft.serverId = before.oned.raft.serverId
  leads : after.oned.raft.state = .leader →
    before.oned.raft.state = .leader ∧ after.oned.raft.term = before.oned.raft.term ∧
      after.oned.raft.numServers = before.oned.raft.numServers
  calls : ∀ followerId call, after.oned.raft.replicaManager.Waits followerId call →
    before.oned.raft.replicaManager.Waits followerId call
  finalized : ∀ waiting ∈ after.oned.raft.finalized, waiting ∈ before.oned.raft.finalized
  table : after.oned.logdb.table = before.oned.logdb.table
  lastApplied : after.oned.logdb.lastApplied = before.oned.logdb.lastApplied
  executed : after.oned.logdb.executed = before.oned.logdb.executed

def Node.books (node : Node) :=
  ((node.writers, node.nextWriter, node.oned.raft.requests, node.oned.raft.commit,
    node.oned.raft.next, node.oned.raft.matched, node.oned.raft.serverId), (node.oned.raft.state, node.oned.raft.term,
    node.oned.raft.numServers, node.oned.raft.replicaManager, node.oned.raft.finalized),
    (node.oned.logdb.table, node.oned.logdb.lastApplied, node.oned.logdb.executed))

theorem SameBooks.of_books {before after : Node} (same : after.books = before.books) : SameBooks before after := by
  simp only [Node.books, Prod.mk.injEq] at same
  obtain ⟨⟨writers, nextWriter, requests, commit, next, matched, serverId⟩,
    ⟨state, term, numServers, pool, finalized⟩, table, lastApplied, executed⟩ := same
  refine ⟨writers, nextWriter, requests, commit, next, matched, serverId,
    fun leads => ⟨state ▸ leads, term, numServers⟩, fun followerId call waits => ?_,
    fun waiting inside => ?_, table, lastApplied, executed⟩
  · rw [← pool]; exact waits
  · rw [← finalized]; exact inside

theorem SameBooks.refl (node : Node) : SameBooks node node := SameBooks.of_books rfl

inductive Change (zone : Zone) (cluster : Cluster) : Event → Int → Node → Prop where
  | quiet {event : Event} {id : Int} {after : Node} (same : SameBooks (cluster.node id) after) :
      Change zone cluster event id after
  | reindex {event : Event} {id : Int} {after : Node}
      (notLeader : (cluster.node id).oned.raft.state ≠ .leader)
      (same : SameBooks { cluster.node id with oned := { (cluster.node id).oned with
        logdb := (cluster.node id).oned.logdb.setupIndex.1 } } after) :
      Change zone cluster event id after
  | down {event : Event} {id : Int} {middle after : Node} (term : Nat)
      (first : SameBooks (cluster.node id) middle) (represents : middle.oned.logdb = (cluster.node id).oned.logdb)
      (last : SameBooks { middle with oned := middle.oned.follower term } after) :
      Change zone cluster event id after
  | lead {event : Event} {id : Int} {election : Election}
      (isPolling : (cluster.node id).timer = .polling election)
      (isCandidate : (cluster.node id).oned.raft.state = .candidate) :
      Change zone cluster event id (cluster.node id).becomeLeader
  | call {event : Event} {id followerId : Int} {thread : ReplicaThread} {index : Nat}
      (inPool : (cluster.node id).oned.raft.replicaManager.lookup followerId = some thread)
      (isNext : (cluster.node id).oned.raft.next.lookup followerId = some index) :
      Change zone cluster event id ((cluster.node id).setReplica followerId { thread with
          pendingRequests := false
          call := some ⟨cluster.nextCall, (cluster.node id).oned.raft.term, index⟩ })
  | success {id : Int} {thread : ThreadRef} {position : Nat} {middle : Node} {followerId : Int}
      {call : Call} {answer : Reply}
      (ended : (cluster.node id).endReplicaCall thread false = some (middle, followerId, call))
      (isAnswer : Node.answerOf cluster.replies call position = some answer)
      (success : answer.success = true) :
      Change zone cluster (.replicaReply id thread (some position)) id (middle.setRaft
        (middle.oned.raft.replicateSuccess followerId middle.oned.logdb.lastIndex))
  | failure {id : Int} {thread : ThreadRef} {position : Nat} {middle : Node} {followerId : Int}
      {call : Call} {answer : Reply}
      (ended : (cluster.node id).endReplicaCall thread false = some (middle, followerId, call))
      (isAnswer : Node.answerOf cluster.replies call position = some answer)
      (failed : answer.success = false) (current : answer.term ≤ call.term) :
      Change zone cluster (.replicaReply id thread (some position)) id (middle.setRaft
        (middle.oned.raft.replicateFailure followerId))
  | write {id : Int} {cmd : String} {federated : Option Nat} {after : Node}
      (stepped : (cluster.node id).write cmd federated = some after) :
      Change zone cluster (.write id cmd federated) id after
  | replicate {id : Int} {writer : Nat} {after : Node}
      (stepped : (cluster.node id).replicate writer = some after) :
      Change zone cluster (.replicate id writer) id after
  | wake {id : Int} {writer : Nat} {after : Node}
      (stepped : (cluster.node id).wake writer = some after) :
      Change zone cluster (.wake id writer) id after
  | apply {id : Int} {writer : Nat} {rc : Nat → SqlError} {after : Node}
      (stepped : (cluster.node id).apply writer rc = some after) :
      Change zone cluster (.apply id writer rc) id after
  | restart {id : Int} {now : String} :
      Change zone cluster (.restart id now) id
        (Node.start id (cluster.node id).oned.logdb zone.servers now)
  | receive {packet : Nat} {rc : Nat → SqlError} {request : Packet} {params : ReplicateLogParams}
      {table : Map Nat LogRow} (isRequest : cluster.requests[packet]? = some request)
      (body : request.body = .replicate params table) :
      Change zone cluster (.deliver packet rc) request.dest
        { cluster.node request.dest with
          oned := (ZoneAPI.replicateLog (cluster.node request.dest).oned {} params true rc).1 }

variable {zone : Zone} {cluster after : Cluster} {core : History} {id : Int} {node next : Node}
  {event : Event}

theorem Node.endReplicaCall_cases {failed : Bool}
    (ended : node.endReplicaCall thread failed = some (next, followerId, call)) :
    SameBooks node next ∧ next.oned.logdb = node.oned.logdb ∧ ((node.oned.raft.replicaManager.Waits followerId call ∧
          ∀ other, ¬ next.oned.raft.replicaManager.Waits followerId other) ∨
        (followerId, call) ∈ node.oned.raft.finalized) := by
  unfold Node.endReplicaCall at ended
  split at ended
  · rename_i follower
    split at ended
    · rename_i thread found
      rw [Option.map_eq_some_iff] at ended
      obtain ⟨waiting, isCall, isResult⟩ := ended
      simp only [Prod.mk.injEq] at isResult
      obtain ⟨rfl, rfl, rfl⟩ := isResult
      refine ⟨⟨rfl, rfl, rfl, rfl, rfl, rfl, rfl, fun leads => ⟨leads, rfl, rfl⟩, ?_, fun _ inside => inside,
        rfl, rfl, rfl⟩, rfl, .inl ⟨⟨thread, found, isCall⟩, ?_⟩⟩
      · rintro other call ⟨changed, isChanged, hasCall⟩
        simp only [Node.setReplica, Node.setRaft, Map.lookup_insert_eq] at isChanged
        split at isChanged
        · rw [← Option.some.inj isChanged] at hasCall
          cases hasCall
        · exact ⟨changed, isChanged, hasCall⟩
      · rintro other ⟨changed, isChanged, hasCall⟩
        simp only [Node.setReplica, Node.setRaft, Map.lookup_insert_eq, if_true, Option.some.injEq] at isChanged
        rw [← isChanged] at hasCall
        cases hasCall
    · contradiction
  · rename_i position
    rw [Option.map_eq_some_iff] at ended
    obtain ⟨waiting, isWaiting, isResult⟩ := ended
    simp only [Prod.mk.injEq] at isResult
    obtain ⟨rfl, rfl, rfl⟩ := isResult
    refine ⟨⟨rfl, rfl, rfl, rfl, rfl, rfl, rfl, fun leads => ⟨leads, rfl, rfl⟩, fun _ _ waits => waits,
      fun other inside => ?_, rfl, rfl, rfl⟩, rfl, .inr (List.mem_of_getElem? isWaiting)⟩
    exact List.mem_of_mem_eraseIdx inside

theorem Node.timeout_same (stepped : node.timeout = some next) : SameBooks node next := by
  simp only [Node.timeout] at stepped
  split at stepped
  · simp only [Option.some.injEq] at stepped
    subst stepped
    exact ⟨rfl, rfl, rfl, rfl, rfl, rfl, rfl, fun leads => (by cases leads), fun _ _ waits => waits,
      fun _ inside => inside, rfl, rfl, rfl⟩
  · contradiction

theorem Node.startElection_same {servers : List Int}
    (stepped : node.startElection servers = some next) : SameBooks node next := by
  simp only [Node.startElection] at stepped
  split at stepped
  · contradiction
  · split at stepped
    · rw [← Option.some.inj stepped]
      exact SameBooks.of_books rfl
    · rename_i isCandidate
      simp only [ne_eq, Decidable.not_not] at isCandidate
      rw [← Option.some.inj stepped]
      refine ⟨rfl, rfl, rfl, rfl, rfl, rfl, rfl, fun leads => ?_, fun _ _ waits => waits,
        fun _ inside => inside, rfl, rfl, rfl⟩
      exact absurd (isCandidate.symm.trans leads) (by simp)

theorem Node.voteCall_same {call : Nat} (stepped : node.voteCall call = some (next, packet)) :
    SameBooks node next := by
  simp only [Node.voteCall] at stepped
  split at stepped
  · split at stepped
    · split at stepped
      · contradiction
      · split at stepped <;>
          (rw [← (Prod.mk.inj (Option.some.inj stepped)).1]; exact SameBooks.of_books rfl)
    · contradiction
  · contradiction

theorem Node.heartbeat_same (stepped : node.heartbeat = some next) : SameBooks node next := by
  simp only [Node.heartbeat] at stepped
  split at stepped
  · rw [← Option.some.inj stepped]
    exact SameBooks.of_books rfl
  · contradiction

theorem Node.heartbeatCall_same {call : Nat} (stepped : node.heartbeatCall call followerId = some (next, packet)) :
    SameBooks node next := by
  simp only [Node.heartbeatCall] at stepped
  split at stepped
  · split at stepped
    · split at stepped <;>
        (rw [← (Prod.mk.inj (Option.some.inj stepped)).1]; exact SameBooks.of_books rfl)
    · contradiction
  · contradiction

theorem Node.endHeartbeatCall_same (ended : node.endHeartbeatCall thread = some (next, followerId, call)) :
    SameBooks node next ∧ next.oned.logdb = node.oned.logdb := by
  unfold Node.endHeartbeatCall at ended
  split at ended
  · split at ended
    · rw [Option.map_eq_some_iff] at ended
      obtain ⟨waiting, _, isResult⟩ := ended
      rw [← (Prod.mk.inj isResult).1]
      exact ⟨SameBooks.of_books rfl, rfl⟩
    · contradiction
  · rw [Option.map_eq_some_iff] at ended
    obtain ⟨waiting, _, isResult⟩ := ended
    rw [← (Prod.mk.inj isResult).1]
    exact ⟨SameBooks.of_books rfl, rfl⟩

theorem Change.voteReply (stepped : (cluster.node id).voteReply cluster.replies reply = some next) :
    Change zone cluster event id next := by
  simp only [Node.voteReply] at stepped
  split at stepped
  · split at stepped
    · contradiction
    · split at stepped
      · rw [← Option.some.inj stepped]
        exact .quiet (SameBooks.of_books rfl)
      · split at stepped
        · contradiction
        · rename_i answer _
          split at stepped
          · contradiction
          · split at stepped
            · rw [← Option.some.inj stepped]
              exact .quiet (SameBooks.of_books rfl)
            · split at stepped
              · rw [← Option.some.inj stepped]
                exact .down answer.term (SameBooks.refl _) rfl (SameBooks.of_books rfl)
              · rw [← Option.some.inj stepped]
                exact .quiet (SameBooks.of_books rfl)
  · contradiction

theorem Change.endElection (stepped : (cluster.node id).endElection = some next)
    (notLeader : ∀ election, (cluster.node id).timer = .polling election →
      (cluster.node id).oned.raft.state ≠ .leader) : Change zone cluster event id next := by
  simp only [Node.endElection] at stepped
  split at stepped
  · rename_i election isPolling
    split at stepped
    · contradiction
    · split at stepped
      · rw [← Option.some.inj stepped]
        by_cases isCandidate : (cluster.node id).oned.raft.state = .candidate
        · exact .lead isPolling isCandidate
        · refine .reindex (notLeader election isPolling) (SameBooks.of_books ?_)
          simp [Node.becomeLeader, isCandidate, Node.books, Oned.leader, RaftManager.leader]
      · split at stepped
        · contradiction
        · split at stepped <;>
            (rw [← Option.some.inj stepped]; exact .quiet (SameBooks.of_books rfl))
  · contradiction

theorem Change.heartbeatReply (stepped : (cluster.node id).heartbeatReply cluster.replies thread reply = some next) :
    Change zone cluster event id next := by
  simp only [Node.heartbeatReply] at stepped
  split at stepped
  · contradiction
  · rename_i middle followerId call ended
    obtain ⟨same, logdb⟩ := Node.endHeartbeatCall_same ended
    split at stepped
    · rw [← Option.some.inj stepped]; exact .quiet same
    · split at stepped
      · contradiction
      · rename_i answer _
        split at stepped
        · rw [← Option.some.inj stepped]
          exact .down answer.term same logdb (SameBooks.refl _)
        · rw [← Option.some.inj stepped]; exact .quiet same

theorem Node.replicaCall_cases {call : Nat} (stepped : node.replicaCall call followerId {} = some (next, packet)) :
    (packet = none ∧ next.oned.logdb = node.oned.logdb ∧ SameBooks node next) ∨
    ∃ thread index lr, node.oned.raft.replicaManager.lookup followerId = some thread ∧
      node.oned.raft.next.lookup followerId = some index ∧ node.oned.logdb.getLogRecord index (index - 1) = some lr ∧
      next = node.setReplica followerId { thread with
          pendingRequests := false
          call := some ⟨call, node.oned.raft.term, index⟩ } ∧
      packet = some (node.replicatePacket call followerId lr) := by
  simp only [Node.replicaCall, id_eq] at stepped
  split at stepped
  · rename_i thread found
    split at stepped
    · rename_i ready
      -- a request that is not sent leaves a thread without a call
      have failed : ∀ (node' : Node) (packet' : Option Packet), node' = node.setReplica followerId
          { thread with pendingRequests := false, retryRequest := true } → packet' = none →
          packet' = none ∧ node'.oned.logdb = node.oned.logdb ∧ SameBooks node node' := by
        rintro node' packet' rfl rfl
        refine ⟨rfl, rfl, rfl, rfl, rfl, rfl, rfl, rfl, rfl, fun leads => ⟨leads, rfl, rfl⟩, ?_,
          fun _ inside => inside, rfl, rfl, rfl⟩
        rintro other call ⟨changed, isChanged, hasCall⟩
        simp only [Node.setReplica, Node.setRaft, Map.lookup_insert_eq] at isChanged
        split at isChanged
        · rw [← Option.some.inj isChanged, ready.2] at hasCall
          cases hasCall
        · exact ⟨changed, isChanged, hasCall⟩
      split at stepped
      · obtain ⟨isNode, isPacket⟩ := Prod.mk.inj (Option.some.inj stepped)
        exact .inl (failed _ _ isNode.symm isPacket.symm)
      · rename_i index isNext
        split at stepped
        · obtain ⟨isNode, isPacket⟩ := Prod.mk.inj (Option.some.inj stepped)
          exact .inl (failed _ _ isNode.symm isPacket.symm)
        · rename_i lr loaded
          split at stepped
          · obtain ⟨isNode, isPacket⟩ := Prod.mk.inj (Option.some.inj stepped)
            exact .inr ⟨thread, index, lr, found, isNext, loaded, isNode.symm, isPacket.symm⟩
          · obtain ⟨isNode, isPacket⟩ := Prod.mk.inj (Option.some.inj stepped)
            exact .inl (failed _ _ isNode.symm isPacket.symm)
    · contradiction
  · contradiction

theorem Change.replicaCall
    (stepped : (cluster.node id).replicaCall cluster.nextCall followerId {} = some (next, packet)) :
    Change zone cluster event id next := by
  rcases Node.replicaCall_cases stepped with
    ⟨_, _, same⟩ | ⟨thread, index, lr, found, isNext, _, rfl, _⟩
  · exact .quiet same
  · exact .call found isNext

theorem Change.replicaReply (stepped : (cluster.node id).replicaReply cluster.replies thread reply = some next) :
    Change zone cluster (.replicaReply id thread reply) id next := by
  simp only [Node.replicaReply] at stepped
  split at stepped
  · contradiction
  · rename_i middle followerId call ended
    obtain ⟨same, logdb, _⟩ := Node.endReplicaCall_cases ended
    split at stepped
    · rw [← Option.some.inj stepped]; exact .quiet same
    · rename_i position
      split at stepped
      · contradiction
      · rename_i answer isAnswer
        split at stepped
        · rename_i success
          rw [← Option.some.inj stepped]
          exact .success ended isAnswer success
        · rename_i failed
          split at stepped
          · rw [← Option.some.inj stepped]
            exact .down answer.term same logdb (SameBooks.refl _)
          · rename_i current
            rw [← Option.some.inj stepped]
            exact .failure ended isAnswer (Bool.not_eq_true _ ▸ failed) (Nat.le_of_not_lt current)

theorem Node.replicaRetry_same (stepped : node.replicaRetry followerId = some next) :
    SameBooks node next ∧ next.oned.logdb = node.oned.logdb := by
  simp only [Node.replicaRetry] at stepped
  split at stepped
  · rename_i thread found
    split at stepped
    · rw [← Option.some.inj stepped]
      refine ⟨⟨rfl, rfl, rfl, rfl, rfl, rfl, rfl, fun leads => ⟨leads, rfl, rfl⟩, ?_,
        fun _ inside => inside, rfl, rfl, rfl⟩, rfl⟩
      rintro other call ⟨changed, isChanged, hasCall⟩
      simp only [Node.setReplica, Node.setRaft, Map.lookup_insert_eq] at isChanged
      split at isChanged
      · rename_i same
        rw [← Option.some.inj isChanged] at hasCall
        exact ⟨thread, same ▸ found, hasCall⟩
      · exact ⟨changed, isChanged, hasCall⟩
    · contradiction
  · contradiction

theorem Change.vote {candidateTerm lindex lterm : Nat} {candidate : Int} {log : List LogEntry}
    (cacheOff : (cluster.node id).oned.logdb.cache = false) (repr : (cluster.node id).oned.logdb.Represents log) :
    Change zone cluster event id { cluster.node id with
      oned := (ZoneAPI.vote (cluster.node id).oned candidateTerm candidate lindex lterm true).1 } := by
  rcases ZoneAPI.vote_cases cacheOff repr rfl with
    ⟨same, _⟩ | ⟨_, current, isCurrent, outcome⟩
  · rw [same]; exact .quiet (SameBooks.refl _)
  · have books : SameBooks { cluster.node id with oned := current }
        { cluster.node id with oned := (ZoneAPI.vote (cluster.node id).oned candidateTerm candidate
          lindex lterm true).1 } := by
      rcases outcome with ⟨same, _⟩ | ⟨granted, _⟩
      · rw [same]; exact SameBooks.refl _
      · simp only [Oned.updateVotedfor, RaftManager.updateVotedfor] at granted
        split at granted
        · contradiction
        · rw [← Option.some.inj granted]
          exact SameBooks.of_books rfl
    by_cases later : (cluster.node id).oned.raft.term < candidateTerm
    · rw [if_pos later] at isCurrent
      subst isCurrent
      exact .down candidateTerm (SameBooks.refl _) rfl books
    · rw [if_neg later] at isCurrent
      subst isCurrent
      exact .quiet books

theorem Cluster.onNode_cases {step : Node → Option Node} (stepped : cluster.onNode id step = some after) :
    step (cluster.node id) = some (after.node id) ∧ (∀ other, other ≠ id → after.node other = cluster.node other) ∧
      after.requests = cluster.requests ∧ after.replies = cluster.replies := by
  simp only [Cluster.onNode, Option.map_eq_some_iff] at stepped
  obtain ⟨next, isNext, rfl⟩ := stepped
  refine ⟨by simpa [Cluster.setNode] using isNext, fun other apart => ?_, rfl, rfl⟩
  simp [Cluster.setNode, apart]

theorem Cluster.sending_cases {step : Node → Nat → Option (Node × Option Packet)}
    (stepped : cluster.sending id step = some after) :
    ∃ packet, step (cluster.node id) cluster.nextCall = some (after.node id, packet) ∧
      (∀ other, other ≠ id → after.node other = cluster.node other) ∧
      after.requests = cluster.requests ++ packet.toList ∧ after.replies = cluster.replies := by
  simp only [Cluster.sending, Option.map_eq_some_iff] at stepped
  obtain ⟨⟨next, packet⟩, isNext, rfl⟩ := stepped
  refine ⟨packet, by simpa [Cluster.setNode] using isNext, fun other apart => ?_, rfl, rfl⟩
  simp [Cluster.setNode, apart]

theorem Cluster.step_change (tracks : Tracks zone cluster core)
    (stepped : Cluster.step zone cluster event = some after) :
    ∃ id ∈ zone.servers, Change zone cluster event id (after.node id) ∧
      ∀ other, other ≠ id → after.node other = cluster.node other := by
  have alone {id : Int} {step : Node → Option Node} (member : id ∈ zone.servers)
      (isStep : cluster.onNode id step = some after)
      (change : ∀ next, step (cluster.node id) = some next → Change zone cluster event id next) :
      ∃ id ∈ zone.servers, Change zone cluster event id (after.node id) ∧
        ∀ other, other ≠ id → after.node other = cluster.node other := by
    obtain ⟨isNext, others, _⟩ := Cluster.onNode_cases isStep
    exact ⟨id, member, change _ isNext, others⟩
  have sending {id : Int} {step : Node → Nat → Option (Node × Option Packet)}
      (member : id ∈ zone.servers) (isStep : cluster.sending id step = some after)
      (change : ∀ next packet, step (cluster.node id) cluster.nextCall = some (next, packet) →
        Change zone cluster event id next) :
      ∃ id ∈ zone.servers, Change zone cluster event id (after.node id) ∧
        ∀ other, other ≠ id → after.node other = cluster.node other := by
    obtain ⟨packet, isNext, others, _⟩ := Cluster.sending_cases isStep
    exact ⟨id, member, change _ packet isNext, others⟩
  simp only [Cluster.step] at stepped
  split at stepped
  · rename_i id isServer
    split at stepped
    · rename_i member
      cases event with
      | deliver => cases isServer
      | timeout =>
        cases isServer
        rw [Cluster.run] at stepped
        exact alone member stepped fun _ isNext => .quiet (Node.timeout_same isNext)
      | startElection =>
        cases isServer
        rw [Cluster.run] at stepped
        exact alone member stepped fun _ isNext => .quiet (Node.startElection_same isNext)
      | voteCall =>
        cases isServer
        rw [Cluster.run] at stepped
        exact sending member stepped fun _ _ isNext => .quiet (Node.voteCall_same isNext)
      | voteReply =>
        cases isServer
        rw [Cluster.run] at stepped
        exact alone member stepped fun _ isNext => .voteReply isNext
      | endElection =>
        cases isServer
        rw [Cluster.run] at stepped
        exact alone member stepped fun _ isNext => .endElection isNext
          fun election isPolling => (tracks.polling id member election isPolling).notLeader
      | heartbeat =>
        cases isServer
        rw [Cluster.run] at stepped
        exact alone member stepped fun _ isNext => .quiet (Node.heartbeat_same isNext)
      | heartbeatCall =>
        cases isServer
        rw [Cluster.run] at stepped
        exact sending member stepped fun _ _ isNext => .quiet (Node.heartbeatCall_same isNext)
      | heartbeatReply =>
        cases isServer
        rw [Cluster.run] at stepped
        exact alone member stepped fun _ isNext => .heartbeatReply isNext
      | replicaCall =>
        cases isServer
        rw [Cluster.run] at stepped
        exact sending member stepped fun _ _ isNext => .replicaCall isNext
      | replicaReply =>
        cases isServer
        rw [Cluster.run] at stepped
        exact alone member stepped fun _ isNext => .replicaReply isNext
      | replicaRetry =>
        cases isServer
        rw [Cluster.run] at stepped
        exact alone member stepped fun _ isNext => .quiet (Node.replicaRetry_same isNext).1
      | write =>
        cases isServer
        rw [Cluster.run] at stepped
        exact alone member stepped fun _ isNext => .write isNext
      | replicate =>
        cases isServer
        rw [Cluster.run] at stepped
        exact alone member stepped fun _ isNext => .replicate isNext
      | wake =>
        cases isServer
        rw [Cluster.run] at stepped
        exact alone member stepped fun _ isNext => .wake isNext
      | apply =>
        cases isServer
        rw [Cluster.run] at stepped
        exact alone member stepped fun _ isNext => .apply isNext
      | restart =>
        cases isServer
        rw [Cluster.run] at stepped
        exact alone member stepped fun _ isNext => by
          rw [← Option.some.inj isNext]; exact .restart
    · contradiction
  · rename_i noServer
    cases event with
    | deliver packet rc =>
      rw [Cluster.run] at stepped
      simp only [Cluster.deliver] at stepped
      split at stepped
      · contradiction
      · rename_i request isRequest
        split at stepped
        · contradiction
        · rename_i member
          simp only [Decidable.not_not] at member
          have server := tracks.server request.dest member
          simp only [Option.some.injEq] at stepped
          subst stepped
          refine ⟨request.dest, member, ?_, fun other apart => by simp [Cluster.setNode, apart]⟩
          simp only [Cluster.setNode, Function.update_self]
          cases body : request.body with
          | vote term candidate lindex lterm => exact .vote server.cache server.log
          | replicate params table => exact .receive isRequest body
    | _ => cases noServer

/-- What each step keeps on the server that takes it, given the history, holds on
every server of every state reached; the other servers only see a longer
history. -/
theorem Cluster.serverInvariant {ok : Cluster → Event → Prop} {holds : History → Int → Node → Prop}
    (reached : (Cluster.system zone).Reachable ok cluster)
    (initially : ∀ id now, holds (Core.start Int LogEntry) id (Node.boot id zone.servers now))
    (frame : ∀ core later id node, Grows core later → Server zone core id node.oned →
      Server zone later id node.oned → holds core id node → holds later id node)
    (kept : ∀ cluster core later event id next, Related zone cluster core → id ∈ zone.servers →
      zone.Invariant later → Grows core later → Server zone later id next.oned →
      ok cluster event → Change zone cluster event id next → holds core id (cluster.node id) → holds later id next) :
    ∃ core, Related zone cluster core ∧ ∀ id ∈ zone.servers, holds core id (cluster.node id) := by
  refine @System.Reachable.invariant _ _ _ _ (fun cluster => ∃ core, Related zone cluster core ∧
    ∀ id ∈ zone.servers, holds core id (cluster.node id)) cluster reached ?_ ?_
  · rintro start ⟨now, rfl⟩
    exact ⟨_, Related.init zone now, fun id _ => initially id (now id)⟩
  · rintro before event next ⟨core, ⟨inv, tracks⟩, all⟩ meets stepped
    obtain ⟨_, later, moves, tracksAfter⟩ := tracks.step inv stepped
    obtain ⟨moved, isMember, change, others⟩ := Cluster.step_change tracks stepped
    have grows := moves.grows inv
    have invAfter := moves.invariant inv
    refine ⟨later, ⟨invAfter, tracksAfter⟩, fun id member => ?_⟩
    have serverAfter := tracksAfter.server id member
    by_cases same : id = moved
    · subst same
      exact kept before core later event id _ ⟨inv, tracks⟩ member invAfter grows serverAfter meets
        change (all id member)
    · rw [others id same] at serverAfter ⊢
      exact frame core later id _ grows (tracks.server id member) serverAfter (all id member)

end OpenNebula.Raft
