import OpenNebula.Raft.Operations

namespace OpenNebula.Raft

open Library Library.Consensus Sql

/-! # Every run of the zone is a run of the protocol -/

structure Local (zone : Zone) (core : History) (requests : List Packet) (id : Int) (node : Node) :
    Prop where
  server : Server zone core id node.oned
  polling : ∀ election, node.timer = .polling election →
    Polling zone core requests id node.oned.raft election

variable {zone : Zone} {core : History} {id : Int} {requests : List Packet} {node next : Node}

variable {raft : RaftManager} {election : Election} {followerId : Int} {call writer : Nat}
  {replies : List Reply} {reply : Option Nat} {thread : ThreadRef} {rc : Nat → SqlError}

theorem Local.quiet (holds : Local zone core requests id node) (quiet : Quiet node.oned.raft raft) :
    Local zone core requests id (node.setRaft raft) :=
  ⟨holds.server.quiet quiet,
    fun election isPolling => (holds.polling election isPolling).quiet quiet⟩

theorem Local.follower (inv : zone.Invariant core) (holds : Local zone core requests id node)
    (term : Nat) : Local zone (core.advance id term) requests id
      { node with oned := node.oned.follower term } :=
  ⟨holds.server.follower inv term,
    fun election isPolling => (holds.polling election isPolling).follower inv holds.server term⟩

theorem Local.idle {timer : TimerThread} {oned : Oned} (server : Server zone core id oned)
    (notPolling : ∀ election, timer ≠ .polling election) :
    Local zone core requests id { node with oned, timer } :=
  ⟨server, fun election isPolling => absurd isPolling (notPolling election)⟩

theorem Local.timeout (holds : Local zone core requests id node)
    (stepped : node.timeout = some next) : Local zone core requests id next := by
  simp only [Node.timeout] at stepped
  split at stepped
  · rename_i ready
    simp only [Option.some.injEq] at stepped
    subst stepped
    have notLeader : node.oned.raft.state ≠ .leader := by rw [ready.2]; simp
    refine Local.idle ?_ (by simp)
    exact { holds.server with
      leader := by
        intro isLeader
        cases isLeader
      serves := fun followerId serves =>
        absurd serves (holds.server.unserved notLeader followerId) }
  · contradiction

theorem Local.startElection (inv : zone.Invariant core)
    (holds : Local zone core requests id node)
    (stepped : node.startElection zone.servers = some next) :
    ∃ after, Moves zone id core after ∧ Local zone after requests id next := by
  simp only [Node.startElection] at stepped
  split at stepped
  · contradiction
  · split at stepped
    · simp only [Option.some.injEq] at stepped
      subst stepped
      exact ⟨core, Moves.refl zone id core, Local.idle holds.server (by simp)⟩
    · rename_i isCandidate
      simp only [ne_eq, Decidable.not_not] at isCandidate
      simp only [Option.some.injEq] at stepped
      subst stepped
      obtain ⟨after, moves, server, term, log, stood, free⟩ :=
        holds.server.startElection inv isCandidate
      have raftTerm : (node.oned.startElection zone.servers).raft.term = core.term id + 1 :=
        server.term.trans term
      refine ⟨after, moves, server, fun election isPolling => ?_⟩
      simp only [TimerThread.polling.injEq] at isPolling
      subst isPolling
      constructor
      case notLeader => exact fun leads => absurd (isCandidate.symm.trans leads) (by simp)
      case past => exact Nat.le_refl _
      case left => exact fun earlier => absurd earlier (Nat.lt_irrefl _)
      case stood =>
        refine ⟨core.log id, by rw [raftTerm]; exact stood, ?_, ?_⟩
        · rw [← log]; exact server.log.last
        · rw [← log]; exact server.log.term
      case votes2go => exact congrArg (· / 2) server.numServers
      case nodup => exact zone.nodup.filter _
      case remaining =>
        intro followerId inside
        simp only [server.serverId, ne_eq, List.mem_filter, decide_not, Bool.not_eq_eq_eq_not,
          Bool.not_true, decide_eq_false_iff_not] at inside
        exact inside
      case call => intro call followerId isCall; cases isCall
      case candidate =>
        intro _
        refine ⟨rfl, holds.server.serverId, by rw [raftTerm]; exact free,
          by rw [raftTerm, log]; exact stood, ∅, Finset.empty_subset _, rfl, ?_⟩
        intro voter inside
        exact absurd inside (Finset.notMem_empty voter)

section

variable (polling : Polling zone core requests id raft election)
include polling

theorem Polling.ask {remaining : List Int} {packet : Packet}
    (isRemaining : election.remaining = followerId :: remaining) (inside : packet ∈ requests)
    (isCall : packet.id = call) (dest : packet.dest = followerId) {lindex lterm : Nat}
    (body : packet.body = .vote raft.term id lindex lterm) :
    Polling zone core requests id raft
      { election with remaining, call := some (call, followerId) } := by
  have nodup := polling.nodup
  rw [isRemaining, List.nodup_cons] at nodup
  have members := polling.remaining
  rw [isRemaining] at members
  refine { polling with
    nodup := nodup.2
    remaining := fun other among => members other (List.mem_cons_of_mem _ among)
    call := ?_
    candidate := ?_ }
  · intro callId other isSame
    simp only [Option.some.injEq, Prod.mk.injEq] at isSame
    obtain ⟨rfl, rfl⟩ := isSame
    obtain ⟨member, apart⟩ := members followerId List.mem_cons_self
    exact ⟨member, apart, nodup.1, packet, inside, isCall, dest, raft.term, lindex, lterm, body,
      fun _ => rfl⟩
  · intro isCandidate
    obtain ⟨sameTerm, self, free, stood, granted, subset, card, votes⟩ :=
      polling.candidate isCandidate
    refine ⟨sameTerm, self, free, stood, granted, subset, card, fun voter among => ?_⟩
    obtain ⟨apart, vote, notAsked, _⟩ := votes voter among
    rw [isRemaining, List.mem_cons, not_or] at notAsked
    refine ⟨apart, vote, notAsked.2, fun callId isSame => ?_⟩
    simp only [Option.some.injEq, Prod.mk.injEq] at isSame
    exact notAsked.1 isSame.2.symm

theorem Polling.forget {remaining : List Int}
    (fewer : remaining.Sublist election.remaining) :
    Polling zone core requests id raft { election with remaining, call := none } := by
  refine { polling with
    nodup := polling.nodup.sublist fewer
    remaining := fun other among => polling.remaining other (fewer.subset among)
    call := fun call followerId isCall => by cases isCall
    candidate := ?_ }
  intro isCandidate
  obtain ⟨sameTerm, self, free, stood, granted, subset, card, votes⟩ :=
    polling.candidate isCandidate
  refine ⟨sameTerm, self, free, stood, granted, subset, card, fun voter among => ?_⟩
  obtain ⟨apart, vote, notAsked, _⟩ := votes voter among
  exact ⟨apart, vote, fun asked => notAsked (fewer.subset asked), fun call isCall => by cases isCall⟩

theorem Polling.count
    (isCall : election.call = some (call, followerId))
    (answered : ∀ packet ∈ requests, packet.id = call → Answered core packet) :
    Polling zone core requests id raft
      { election with call := none, grantedVotes := election.grantedVotes + 1 } := by
  obtain ⟨member, apart, notAsked, packet, inside, sameCall, dest, term, lindex, lterm, body,
    current⟩ := polling.call call followerId isCall
  refine { polling with
    call := fun call followerId isCall => by cases isCall
    candidate := ?_ }
  intro isCandidate
  obtain ⟨sameTerm, self, free, stood, granted, subset, card, votes⟩ :=
    polling.candidate isCandidate
  have vote := answered packet inside sameCall
  simp only [Answered, body, dest, current isCandidate] at vote
  have fresh : followerId ∉ granted := fun among => (votes followerId among).2.2.2 call isCall
  refine ⟨sameTerm, self, free, stood, insert followerId granted,
    Finset.insert_subset (Zone.mem_members.2 member) subset,
    by rw [Finset.card_insert_of_notMem fresh, card], fun voter among => ?_⟩
  rcases Finset.mem_insert.1 among with rfl | old
  · exact ⟨apart, vote, notAsked, fun call isCall => by cases isCall⟩
  · obtain ⟨notSelf, voted, notRemaining, _⟩ := votes voter old
    exact ⟨notSelf, voted, notRemaining, fun call isCall => by cases isCall⟩

end

theorem Local.voteReply (inv : zone.Invariant core) (holds : Local zone core requests id node)
    (answered : ∀ answer ∈ replies, answer.success = true → ∀ packet ∈ requests, packet.id = answer.id → Answered core packet)
    (stepped : node.voteReply replies reply = some next) :
    ∃ after, Moves zone id core after ∧ Local zone after requests id next := by
  simp only [Node.voteReply] at stepped
  split at stepped
  · rename_i election isPolling
    have polling := holds.polling election isPolling
    have failed : Local zone core requests id
        (node.setElection { election with call := none }) :=
      ⟨holds.server, fun other isOther => by
        simp only [Node.setElection, TimerThread.polling.injEq] at isOther
        subst isOther
        exact polling.forget (List.Sublist.refl _)⟩
    split at stepped
    · contradiction
    · rename_i call followerId isCall
      split at stepped
      · simp only [Option.some.injEq] at stepped
        subst stepped
        exact ⟨core, Moves.refl zone id core, failed⟩
      · split at stepped
        · contradiction
        · rename_i answer isAnswer
          split at stepped
          · contradiction
          · rename_i sameCall
            simp only [ne_eq, Decidable.not_not] at sameCall
            split at stepped
            · rename_i success
              simp only [Option.some.injEq] at stepped
              subst stepped
              refine ⟨core, Moves.refl zone id core, holds.server, fun other isOther => ?_⟩
              simp only [Node.setElection, TimerThread.polling.injEq] at isOther
              subst isOther
              exact polling.count isCall fun packet inside isPacket =>
                answered answer (List.mem_of_getElem? isAnswer) success packet inside
                  (isPacket.trans sameCall.symm)
            · split at stepped
              · simp only [Option.some.injEq] at stepped
                subst stepped
                exact ⟨_, Moves.advance zone core id answer.term,
                  Local.idle (holds.server.follower inv _) (by simp)⟩
              · simp only [Option.some.injEq] at stepped
                subst stepped
                exact ⟨core, Moves.refl zone id core, failed⟩
  · contradiction

theorem Node.becomeLeader_eq (node : Node) :
    node.becomeLeader.oned = node.oned.leader ∧ node.becomeLeader.timer = .idle := by
  simp only [Node.becomeLeader]
  split <;> exact ⟨rfl, rfl⟩

theorem Local.endElection (holds : Local zone core requests id node)
    (member : id ∈ zone.servers) (stepped : node.endElection = some next) :
    ∃ after, Moves zone id core after ∧ Local zone after requests id next := by
  simp only [Node.endElection] at stepped
  split at stepped
  · rename_i election isPolling
    have polling := holds.polling election isPolling
    split at stepped
    · contradiction
    · split at stepped
      · rename_i enough
        simp only [Option.some.injEq] at stepped
        subst stepped
        obtain ⟨isOned, isTimer⟩ := node.becomeLeader_eq
        have elected : ∃ after, Moves zone id core after ∧
            Server zone after id node.oned.leader := by
          by_cases isCandidate : node.oned.raft.state = .candidate
          · exact holds.server.leaderElected member polling isCandidate enough
          · exact ⟨core, Moves.refl zone id core, (holds.server.leaderRefused isCandidate).1⟩
        obtain ⟨after, moves, server⟩ := elected
        refine ⟨after, moves, by rw [isOned]; exact server, fun other isOther => ?_⟩
        rw [isTimer] at isOther
        cases isOther
      · split at stepped
        · contradiction
        · split at stepped
          · simp only [Option.some.injEq] at stepped
            subst stepped
            exact ⟨core, Moves.refl zone id core, Local.idle holds.server (by simp)⟩
          · rename_i isCandidate
            simp only [ne_eq, Decidable.not_not] at isCandidate
            simp only [Option.some.injEq] at stepped
            subst stepped
            have free := (polling.candidate isCandidate).2.2.1
            rw [holds.server.term] at free
            exact ⟨core, Moves.refl zone id core,
              Local.idle (holds.server.clearVote free) (by simp)⟩
  · contradiction

section Threads

variable (raft : RaftManager) {followerId : Int}

theorem Quiet.refl : Quiet raft raft :=
  ⟨rfl, rfl, rfl, rfl, rfl, rfl, rfl, fun _ serves => serves⟩

theorem Quiet.replicaThread (inside : followerId ∈ raft.replicaManager) (thread : ReplicaThread) :
    Quiet raft
      { raft with replicaManager := raft.replicaManager.insert followerId thread } := by
  refine ⟨rfl, rfl, rfl, rfl, rfl, rfl, rfl, fun other serves => ?_⟩
  rcases serves with inNext | inPool | inHeartbeat
  · exact .inl inNext
  · rcases (AList.mem_insert _).1 inPool with rfl | old
    · exact .inr (.inl inside)
    · exact .inr (.inl old)
  · exact .inr (.inr inHeartbeat)

theorem Quiet.heartbeatThread (inside : followerId ∈ raft.heartbeatManager)
    (thread : ReplicaThread) :
    Quiet raft
      { raft with heartbeatManager := raft.heartbeatManager.insert followerId thread } := by
  refine ⟨rfl, rfl, rfl, rfl, rfl, rfl, rfl, fun other serves => ?_⟩
  rcases serves with inNext | inPool | inHeartbeat
  · exact .inl inNext
  · exact .inr (.inl inPool)
  · rcases (AList.mem_insert _).1 inHeartbeat with rfl | old
    · exact .inr (.inr inside)
    · exact .inr (.inr old)

theorem Quiet.replicateFailure (followerId : Int) :
    Quiet raft (raft.replicateFailure followerId) := by
  obtain ⟨next, pool, sameCalls, lookups, isFailure⟩ := raft.replicateFailure_cases followerId
  rw [isFailure]
  refine ⟨rfl, rfl, rfl, rfl, rfl, rfl, rfl, fun other serves => ?_⟩
  rcases serves with inNext | inPool | inHeartbeat
  · rw [← AList.lookup_isSome, lookups, Option.isSome_map, AList.lookup_isSome] at inNext
    exact .inl inNext
  · exact .inr (.inl (sameCalls.mem.1 inPool))
  · exact .inr (.inr inHeartbeat)

theorem Quiet.replicateSuccess (followerId : Int) (dbLindex : Nat) :
    Quiet raft (raft.replicateSuccess followerId dbLindex) := by
  rcases raft.replicateSuccess_cases followerId dbLindex with
    ⟨_, same⟩ | ⟨index, pool, found, sameCalls, isSuccess⟩
  · rw [same]; exact Quiet.refl raft
  · rw [isSuccess]
    have known : followerId ∈ raft.next := AList.lookup_isSome.1 (by rw [found]; rfl)
    refine ⟨rfl, rfl, rfl, rfl, rfl, rfl, rfl, fun other serves => ?_⟩
    rcases serves with inNext | inPool | inHeartbeat
    · exact .inl (((AList.mem_insert _).1 inNext).elim (fun same => same ▸ known) id)
    · exact .inr (.inl (sameCalls.mem.1 inPool))
    · exact .inr (.inr inHeartbeat)

theorem Quiet.pool {pool : ReplicaManager} (sameCalls : raft.replicaManager.SameCalls pool)
    (requests : ReplicaRequestMap) (commit : Nat) :
    Quiet raft { raft with replicaManager := pool, requests, commit } := by
  refine ⟨rfl, rfl, rfl, rfl, rfl, rfl, rfl, fun other serves => ?_⟩
  rcases serves with inNext | inPool | inHeartbeat
  · exact .inl inNext
  · exact .inr (.inl (sameCalls.mem.1 inPool))
  · exact .inr (.inr inHeartbeat)

theorem Quiet.replicateLog (request : Nat) : Quiet raft (raft.replicateLog request) := by
  cases found : raft.requests.objects.lookup request with
  | none =>
    rw [show raft.replicateLog request = raft by simp [RaftManager.replicateLog, found]]
    exact Quiet.refl raft
  | some rr =>
    rcases raft.replicateLog_cases found with
      ⟨_, isResult⟩ | ⟨_, pool, sameCalls, ⟨_, isResult⟩ | ⟨_, isResult⟩⟩
    · rw [isResult]; exact Quiet.pool raft (ReplicaManager.SameCalls.refl _) _ raft.commit
    · rw [isResult]; exact Quiet.pool raft sameCalls _ _
    · rw [isResult]; exact Quiet.pool raft sameCalls _ raft.commit

end Threads

theorem Node.endReplicaCall_quiet {failed : Bool} {call : Call}
    (ended : node.endReplicaCall thread failed = some (next, followerId, call)) :
    ∃ raft, next = node.setRaft raft ∧ Quiet node.oned.raft raft := by
  unfold Node.endReplicaCall at ended
  split at ended
  · split at ended
    · rename_i thread found
      rw [Option.map_eq_some_iff] at ended
      obtain ⟨waiting, _, isResult⟩ := ended
      simp only [Prod.mk.injEq] at isResult
      rw [← isResult.1]
      exact ⟨_, rfl, Quiet.replicaThread _ (AList.lookup_isSome.1 (by rw [found]; rfl)) _⟩
    · contradiction
  · rw [Option.map_eq_some_iff] at ended
    obtain ⟨waiting, _, isResult⟩ := ended
    simp only [Prod.mk.injEq] at isResult
    rw [← isResult.1]
    exact ⟨_, rfl, rfl, rfl, rfl, rfl, rfl, rfl, rfl, fun _ serves => serves⟩

theorem Node.endHeartbeatCall_quiet {call : Call}
    (ended : node.endHeartbeatCall thread = some (next, followerId, call)) :
    ∃ raft, next = node.setRaft raft ∧ Quiet node.oned.raft raft := by
  unfold Node.endHeartbeatCall at ended
  split at ended
  · split at ended
    · rename_i thread found
      rw [Option.map_eq_some_iff] at ended
      obtain ⟨waiting, _, isResult⟩ := ended
      simp only [Prod.mk.injEq] at isResult
      rw [← isResult.1]
      exact ⟨_, rfl, Quiet.heartbeatThread _ (AList.lookup_isSome.1 (by rw [found]; rfl)) _⟩
    · contradiction
  · rw [Option.map_eq_some_iff] at ended
    obtain ⟨waiting, _, isResult⟩ := ended
    simp only [Prod.mk.injEq] at isResult
    rw [← isResult.1]
    exact ⟨_, rfl, rfl, rfl, rfl, rfl, rfl, rfl, rfl, fun _ serves => serves⟩

theorem Local.replicaReply (inv : zone.Invariant core) (holds : Local zone core requests id node)
    (stepped : node.replicaReply replies thread reply = some next) :
    ∃ after, Moves zone id core after ∧ Local zone after requests id next := by
  simp only [Node.replicaReply] at stepped
  split at stepped
  · contradiction
  · rename_i middle followerId call ended
    obtain ⟨raft, rfl, quiet⟩ := Node.endReplicaCall_quiet ended
    have kept := holds.quiet quiet
    split at stepped
    · simp only [Option.some.injEq] at stepped
      subst stepped
      exact ⟨core, Moves.refl zone id core, kept⟩
    · split at stepped
      · contradiction
      · rename_i answer _
        split at stepped
        · simp only [Option.some.injEq] at stepped
          subst stepped
          exact ⟨core, Moves.refl zone id core, kept.quiet (Quiet.replicateSuccess _ _ _)⟩
        · split at stepped
          · simp only [Option.some.injEq] at stepped
            subst stepped
            exact ⟨_, Moves.advance zone core id answer.term, kept.follower inv _⟩
          · simp only [Option.some.injEq] at stepped
            subst stepped
            exact ⟨core, Moves.refl zone id core, kept.quiet (Quiet.replicateFailure _ _)⟩

theorem Local.heartbeatReply (inv : zone.Invariant core) (holds : Local zone core requests id node)
    (stepped : node.heartbeatReply replies thread reply = some next) :
    ∃ after, Moves zone id core after ∧ Local zone after requests id next := by
  simp only [Node.heartbeatReply] at stepped
  split at stepped
  · contradiction
  · rename_i middle followerId call ended
    obtain ⟨raft, rfl, quiet⟩ := Node.endHeartbeatCall_quiet ended
    have kept := holds.quiet quiet
    split at stepped
    · simp only [Option.some.injEq] at stepped
      subst stepped
      exact ⟨core, Moves.refl zone id core, kept⟩
    · split at stepped
      · contradiction
      · rename_i answer _
        split at stepped
        · simp only [Option.some.injEq] at stepped
          subst stepped
          exact ⟨_, Moves.advance zone core id answer.term, kept.follower inv _⟩
        · simp only [Option.some.injEq] at stepped
          subst stepped
          exact ⟨core, Moves.refl zone id core, kept⟩

theorem Local.heartbeat (holds : Local zone core requests id node)
    (stepped : node.heartbeat = some next) : Local zone core requests id next := by
  simp only [Node.heartbeat] at stepped
  split at stepped
  · simp only [Option.some.injEq] at stepped
    subst stepped
    refine holds.quiet ⟨rfl, rfl, rfl, rfl, rfl, rfl, rfl, fun other serves => ?_⟩
    rcases serves with inNext | inPool | inHeartbeat
    · exact .inl inNext
    · exact .inr (.inl inPool)
    · exact .inr (.inr ((ReplicaManager.replicateAll_sameCalls _).mem.1 inHeartbeat))
  · contradiction

theorem Local.replicaRetry (holds : Local zone core requests id node)
    (stepped : node.replicaRetry followerId = some next) : Local zone core requests id next := by
  simp only [Node.replicaRetry] at stepped
  split at stepped
  · rename_i thread found
    split at stepped
    · simp only [Option.some.injEq] at stepped
      subst stepped
      exact holds.quiet
        (Quiet.replicaThread _ (AList.lookup_isSome.1 (by rw [found]; rfl)) _)
    · contradiction
  · contradiction

section

variable (inv : zone.Invariant core)
include inv

theorem Server.reign {oned : Oned} (server : Server zone core id oned)
    (isLeader : oned.raft.state = .leader) :
    ∃ reign, core.reign (core.term id) = some reign ∧ reign.leader = id ∧
      core.log id = reign.log := by
  obtain ⟨reign, leads, self⟩ := server.leader isLeader
  refine ⟨reign, leads, self, ?_⟩
  have log := inv.logs.leaderLog _ reign leads (by rw [self])
  rwa [self] at log

theorem Local.authentic (holds : Local zone core requests id node)
    (serves : node.oned.raft.Serves followerId) (call : Nat) {lr : LogDBRecord}
    (zero : lr.index = 0 → lr.term = 0)
    (record : ∀ index, lr.index = index + 1 → lr.prevIndex = index ∧ (core.log id)[index]? = some lr.entry ∧
      termAt (core.log id) index = some lr.prevTerm) :
    Authentic core (node.replicatePacket call followerId lr) := by
  obtain ⟨isLeader, apart, _⟩ := holds.server.serves followerId serves
  obtain ⟨reign, leads, self, log⟩ := holds.server.reign inv isLeader
  rw [← holds.server.term] at leads
  refine ⟨reign, leads, by rw [self]; exact apart.symm, zero, ?_, core.log id,
    holds.server.log.toRows, by rw [log]⟩
  rw [← log]
  exact record

theorem Local.heartbeatCall {packet : Option Packet}
    (holds : Local zone core requests id node)
    (stepped : node.heartbeatCall call followerId = some (next, packet)) :
    (∃ raft, next = node.setRaft raft ∧ Quiet node.oned.raft raft) ∧
      ∀ sent, packet = some sent → sent.id = call ∧ Authentic core sent := by
  simp only [Node.heartbeatCall] at stepped
  split at stepped
  · rename_i thread found
    have inside : followerId ∈ node.oned.raft.heartbeatManager :=
      AList.lookup_isSome.1 (by rw [found]; rfl)
    split at stepped
    · split at stepped
      all_goals
        simp only [Option.some.injEq, Prod.mk.injEq] at stepped
        obtain ⟨rfl, rfl⟩ := stepped
        refine ⟨⟨_, rfl, Quiet.heartbeatThread _ inside _⟩, ?_⟩
      · rintro sent ⟨rfl⟩
        refine ⟨rfl, holds.authentic inv (.inr (.inr inside)) call (fun _ => rfl) ?_⟩
        intro index isIndex
        cases isIndex
      · intro sent isSent
        cases isSent
    · contradiction
  · contradiction

theorem Local.replicaCall {packet : Option Packet}
    (holds : Local zone core requests id node)
    (stepped : node.replicaCall call followerId {} = some (next, packet)) :
    (∃ raft, next = node.setRaft raft ∧ Quiet node.oned.raft raft) ∧
      ∀ sent, packet = some sent → sent.id = call ∧ Authentic core sent := by
  simp only [Node.replicaCall, id_eq] at stepped
  split at stepped
  · rename_i thread found
    have inside : followerId ∈ node.oned.raft.replicaManager :=
      AList.lookup_isSome.1 (by rw [found]; rfl)
    have failed : ∀ thread, (∃ raft, node.setReplica followerId thread = node.setRaft raft ∧
        Quiet node.oned.raft raft) :=
      fun thread => ⟨_, rfl, Quiet.replicaThread _ inside _⟩
    split at stepped
    · split at stepped
      · simp only [Option.some.injEq, Prod.mk.injEq] at stepped
        obtain ⟨rfl, rfl⟩ := stepped
        exact ⟨failed _, fun sent isSent => by cases isSent⟩
      · rename_i nextIndex isNext
        split at stepped
        · simp only [Option.some.injEq, Prod.mk.injEq] at stepped
          obtain ⟨rfl, rfl⟩ := stepped
          exact ⟨failed _, fun sent isSent => by cases isSent⟩
        · rename_i lr loaded
          split at stepped
          · simp only [Option.some.injEq, Prod.mk.injEq] at stepped
            obtain ⟨rfl, rfl⟩ := stepped
            refine ⟨failed _, ?_⟩
            rintro sent ⟨rfl⟩
            obtain ⟨isIndex, isPrev, isRecord⟩ := holds.server.log.loaded loaded
            refine ⟨rfl, holds.authentic inv (.inr (.inl inside)) call ?_ ?_⟩
            · intro zero
              rcases isRecord with ⟨_, term, _⟩ | ⟨positive, _⟩
              · exact term
              · omega
            · intro index isSucc
              rcases isRecord with ⟨zero, _⟩ | ⟨_, present, prevTerm⟩
              · omega
              · obtain rfl : index = nextIndex - 1 := by omega
                exact ⟨isPrev, present, prevTerm⟩
          · simp only [Option.some.injEq, Prod.mk.injEq] at stepped
            obtain ⟨rfl, rfl⟩ := stepped
            exact ⟨failed _, fun sent isSent => by cases isSent⟩
    · contradiction
  · contradiction

end

theorem Node.write_cases {cmd : String} {federated : Option Nat}
    (stepped : node.write cmd federated = some next) :
    node.oned.raft.state = .leader ∧ ∃ oned rindex,
      node.oned.insertLogRecord node.oned.raft.term cmd federated = some (oned, rindex) ∧
      next = { node with
        oned
        writers := node.writers.insert node.nextWriter
          { cmd := some cmd, term := node.oned.raft.term, rindex, phase := .inserted }
        nextWriter := node.nextWriter + 1 } := by
  simp only [Node.write] at stepped
  split at stepped
  · contradiction
  · rename_i ready
    simp only [not_or, ne_eq, Decidable.not_not] at ready
    split at stepped
    · contradiction
    · rename_i oned rindex inserted
      exact ⟨ready.2.2, oned, rindex, inserted, (Option.some.inj stepped).symm⟩

theorem Polling.settled {changed : RaftManager} {after : History}
    (polling : Polling zone core requests id raft election) (grows : Grows core after)
    (current : raft.term = core.term id) (same : changed.state = raft.state) (state : raft.state ≠ .candidate)
    (term : changed.term = raft.term) :
    Polling zone after requests id changed election := by
  refine polling.lapse grows (same ▸ polling.notLeader) (same ▸ state) term.ge ?_
  rw [term]
  exact fun earlier => (grows.stood id _ current.le).trans (polling.left earlier)

theorem Local.write {cmd : String} {federated : Option Nat}
    (holds : Local zone core requests id node)
    (stepped : node.write cmd federated = some next) :
    ∃ after, Moves zone id core after ∧ Local zone after requests id next := by
  obtain ⟨isLeader, oned, rindex, inserted, rfl⟩ := Node.write_cases stepped
  obtain ⟨after, moves, server, _⟩ := holds.server.insertLogRecord isLeader inserted
  exact ⟨after, moves, server, fun election isPolling =>
    absurd isLeader (holds.polling election isPolling).notLeader⟩

theorem Node.replicate_cases (stepped : node.replicate writer = some next) :
    ∃ found, node.writers.lookup writer = some found ∧ found.phase = .inserted ∧
      next = (node.setRaft ({ node.oned.raft with
        requests := { node.oned.raft.requests with
          objects := node.oned.raft.requests.objects.insert writer (.make found.rindex) } }
        |>.replicateLog writer)).setPhase writer found .waiting := by
  simp only [Node.replicate] at stepped
  split at stepped
  · rename_i found isFound
    split at stepped
    · contradiction
    · rename_i phase
      simp only [ne_eq, Decidable.not_not] at phase
      exact ⟨found, isFound, phase, (Option.some.inj stepped).symm⟩
  · contradiction

theorem Local.replicate {writer : Nat} (holds : Local zone core requests id node)
    (stepped : node.replicate writer = some next) : Local zone core requests id next := by
  obtain ⟨found, _, _, rfl⟩ := Node.replicate_cases stepped
  have allocated : Quiet node.oned.raft { node.oned.raft with
      requests := { node.oned.raft.requests with
        objects := node.oned.raft.requests.objects.insert writer (.make found.rindex) } } :=
    ⟨rfl, rfl, rfl, rfl, rfl, rfl, rfl, fun _ serves => serves⟩
  have kept := holds.quiet allocated
  have replicated := kept.quiet (Quiet.replicateLog _ writer)
  exact ⟨replicated.server, replicated.polling⟩

theorem Local.finish {found : Writer} {success : Bool} (holds : Local zone core requests id node) :
    Local zone core requests id (node.finish writer found success) := by
  simp only [Node.finish]
  split
  · exact ⟨holds.server.quiet ⟨rfl, rfl, rfl, rfl, rfl, rfl, rfl, fun _ serves => serves⟩,
      fun election isPolling => (holds.polling election isPolling).quiet
        ⟨rfl, rfl, rfl, rfl, rfl, rfl, rfl, fun _ serves => serves⟩⟩
  · exact ⟨holds.server, holds.polling⟩

theorem Node.wake_cases (stepped : node.wake writer = some next) :
    ∃ found rr, node.writers.lookup writer = some found ∧
      node.oned.raft.requests.objects.lookup writer = some rr ∧ found.phase = .waiting ∧
      rr.notified ≠ 0 ∧
      ((node.oned.raft.state = .leader ∧ rr.result = true ∧
          next = node.setPhase writer found .applying) ∨
        (¬ (node.oned.raft.state = .leader ∧ rr.result = true) ∧
          next = node.finish writer found false)) := by
  simp only [Node.wake] at stepped
  split at stepped
  · rename_i found rr isFound isRequest
    split at stepped
    · contradiction
    · rename_i ready
      simp only [not_or, ne_eq, Decidable.not_not] at ready
      refine ⟨found, rr, isFound, isRequest, ready.1, ready.2, ?_⟩
      split at stepped
      · rename_i committed
        exact .inl ⟨committed.1, committed.2, (Option.some.inj stepped).symm⟩
      · rename_i notCommitted
        exact .inr ⟨notCommitted, (Option.some.inj stepped).symm⟩
  · contradiction

theorem Local.wake (holds : Local zone core requests id node) (stepped : node.wake writer = some next) :
    Local zone core requests id next := by
  obtain ⟨found, rr, _, _, _, _, ⟨_, _, rfl⟩ | ⟨_, rfl⟩⟩ := Node.wake_cases stepped
  · exact ⟨holds.server, holds.polling⟩
  · exact holds.finish

theorem Node.apply_cases (stepped : node.apply writer rc = some next) :
    ∃ found, node.writers.lookup writer = some found ∧ found.phase = .applying ∧
      next = { node with oned := { node.oned with
          logdb := (node.oned.logdb.applyLogRecords found.rindex rc).1 } }.finish writer found
        (node.oned.logdb.applyLogRecords found.rindex rc).2 := by
  simp only [Node.apply] at stepped
  split at stepped
  · rename_i found isFound
    split at stepped
    · contradiction
    · rename_i phase
      simp only [ne_eq, Decidable.not_not] at phase
      exact ⟨found, isFound, phase, (Option.some.inj stepped).symm⟩
  · contradiction

theorem Local.apply {writer : Nat} {rc : Nat → SqlError}
    (holds : Local zone core requests id node)
    (stepped : node.apply writer rc = some next) : Local zone core requests id next := by
  obtain ⟨found, _, _, rfl⟩ := Node.apply_cases stepped
  have ran := holds.server.log.applyLogRecords found.rindex rc
  obtain ⟨raftState, _, cache⟩ := ran.same
  have applied := holds.server.logdb (ran.represents holds.server.log) raftState cache
  exact Local.finish ⟨applied, holds.polling⟩

theorem Local.restart (holds : Local zone core requests id node) (member : id ∈ zone.servers)
    (now : String) :
    Local zone core requests id (Node.start id node.oned.logdb zone.servers now) := by
  have server := holds.server
  obtain ⟨repr, _, _, raftState, _, _, cache⟩ := LogDB.load_represents server.log.toRows false false
    node.oned.logdb.raftState node.oned.logdb.executed now
  have nonneg := zone.nonneg id member
  have isState : (RaftManager.make id (LogDB.load false false node.oned.logdb.table
      node.oned.logdb.raftState node.oned.logdb.executed now).getRaftState zone.servers).raftState =
      node.oned.raft.raftState := by
    rw [LogDB.getRaftState, raftState, server.stored]
    rfl
  refine ⟨?_, fun election isPolling => by cases isPolling⟩
  have term : (Oned.start id node.oned.logdb zone.servers now).raft.term = node.oned.raft.term := by
    have same := congrArg RaftState.term isState
    rw [server.template] at same
    exact same
  have votedfor : (Oned.start id node.oned.logdb zone.servers now).raft.votedfor =
      node.oned.raft.votedfor := by
    have same := congrArg RaftState.votedfor isState
    rw [server.template] at same
    exact same
  constructor
  case serverId | servers | numServers => rfl
  case cache => exact cache
  case term => exact term.trans server.term
  case log => exact repr.raftState _
  case stored | template => rfl
  case voted =>
    rw [show (Node.start id node.oned.logdb zone.servers now).oned.raft.votedfor = _ from votedfor]
    exact server.voted
  case cast =>
    rw [show (Node.start id node.oned.logdb zone.servers now).oned.raft.votedfor = _ from votedfor]
    exact server.cast
  case leader =>
    intro isLeader
    have state : (Oned.start id node.oned.logdb zone.servers now).raft.state = .follower := by
      simp only [Oned.start, RaftManager.make]
      rw [if_neg (by omega)]
    rw [show (Node.start id node.oned.logdb zone.servers now).oned.raft.state = _ from state]
      at isLeader
    cases isLeader
  case serves =>
    rintro followerId (inNext | inPool | inHeartbeat)
    · exact absurd inNext (AList.notMem_empty _)
    · exact absurd inPool (AList.notMem_empty _)
    · exact absurd inHeartbeat (AList.notMem_empty _)

theorem Local.vote {candidateTerm lindex lterm : Nat} {candidate : Int} {result : Oned × Response}
    (inv : zone.Invariant core) (holds : Local zone core requests id node)
    (member : id ∈ zone.servers) (apart : candidate ≠ id)
    (asked : candidateTerm ≤ core.term candidate)
    (stood : ∀ log, core.cand candidate candidateTerm = some log →
      lindex = log.length % 2 ^ 32 ∧ lterm = lastEpoch LogEntry.term log)
    (isResult : ZoneAPI.vote node.oned candidateTerm candidate lindex lterm true = result) :
    ∃ after, Moves zone id core after ∧ Local zone after requests id { node with oned := result.1 } ∧
      (result.2.code = .success → after.voted id candidateTerm = some candidate) := by
  have server := holds.server
  rcases ZoneAPI.vote_cases server.cache server.log isResult with
    ⟨same, failed⟩ | ⟨current, oned, isOned, outcome⟩
  · exact ⟨core, Moves.refl zone id core, by rw [same]; exact holds,
      fun success => absurd success failed⟩
  · -- the server is in the term of the candidate
    have advanced : Local zone (core.advance id candidateTerm) requests id { node with oned } := by
      by_cases later : node.oned.raft.term < candidateTerm
      · rw [if_pos later] at isOned
        subst isOned
        exact holds.follower inv candidateTerm
      · rw [if_neg later] at isOned
        subst isOned
        rw [server.term] at later
        rw [Core.advance_of_le (Nat.le_of_not_lt later)]
        exact holds
    have moves := Moves.advance zone core id candidateTerm
    have inTerm : (core.advance id candidateTerm).term id = candidateTerm := by
      rw [Core.advance_self, ← server.term, Nat.max_eq_right current]
    rcases outcome with ⟨same, failed⟩ | ⟨granted, nonneg, newer⟩
    · exact ⟨_, moves, by rw [same]; exact advanced, fun success => absurd success failed⟩
    · obtain ⟨after, grants, sameTerm, _, _, serverAfter, voted⟩ := advanced.server.grant granted nonneg
        apart.symm (by rw [inTerm, Core.advance_other core _ apart]; exact asked) (by
          rw [inTerm]
          intro log isCand
          obtain ⟨isIndex, isTerm⟩ := stood log isCand
          have short := Nat.mod_le log.length (2 ^ 32)
          rw [← isIndex] at short
          rw [isTerm] at newer
          exact newer.imp_right fun same => ⟨same.1, same.2.trans short⟩)
      rw [inTerm] at voted
      refine ⟨after, moves.trans grants, ⟨serverAfter, fun election isPolling => ?_⟩, fun _ => voted⟩
      have polling := advanced.polling election isPolling
      have updated := granted
      simp only [Oned.updateVotedfor, RaftManager.updateVotedfor] at updated
      split at updated
      · contradiction
      · rename_i allowed
        have state := polling.noGrant (zone.nonneg id member) apart.symm allowed
        simp only [Option.map_some, Option.some.injEq] at updated
        rw [← updated]
        exact polling.settled (grants.grows (moves.invariant inv)) advanced.server.term rfl state rfl

theorem store_present {log : List LogEntry} {index : Nat} {entry : LogEntry}
    (same : log[index]?.map LogEntry.term = some entry.term) :
    store LogEntry.term log index entry = log := by
  rw [Option.map_eq_some_iff] at same
  obtain ⟨present, found, sameTerm⟩ := same
  simp [store, found, sameTerm]

theorem store_conflict {log : List LogEntry} {index : Nat} {entry : LogEntry}
    (conflict : log[index]?.map LogEntry.term ≠ some entry.term) :
    store LogEntry.term log index entry = log.take index ++ [entry] := by
  unfold store
  split
  · rename_i present found
    rw [found, Option.map_some, ne_eq, Option.some.injEq] at conflict
    rw [if_neg conflict]
  · rfl

theorem Local.advanceCommit (holds : Local zone core requests id node) (leaderCommit index : Nat)
    (rc : Nat → SqlError) : Local zone core requests id
      { node with oned := ZoneAPI.advanceCommit node.oned leaderCommit index rc } :=
  ⟨holds.server.advanceCommit leaderCommit index rc, fun election isPolling =>
    (holds.polling election isPolling).quiet
      ⟨rfl, rfl, rfl, rfl, rfl, rfl, rfl, fun _ serves => serves⟩⟩

theorem Local.replicateLog {params : ReplicateLogParams} {reign : Reign Int LogEntry}
    (inv : zone.Invariant core) (holds : Local zone core requests id node)
    (leads : core.reign params.leaderTerm = some reign) (apart : reign.leader ≠ id)
    (zero : params.index = 0 → params.term = 0)
    (record : ∀ index, params.index = index + 1 → params.prevIndex = index ∧
      reign.log[index]? = some (ZoneAPI.record params) ∧ termAt reign.log index = some params.prevTerm) :
    ∃ after, Moves zone id core after ∧ Local zone after requests id
        { node with oned := (ZoneAPI.replicateLog node.oned {} params true rc).1 } ∧
      ((ZoneAPI.replicateLog node.oned {} params true rc).2.code = .success →
        params.index ≤ after.acked id params.leaderTerm) := by
  have server := holds.server
  rcases ZoneAPI.replicateLog_cases params rc server.cache with
    ⟨_, same, failed⟩ | ⟨current, isResult⟩
  · exact ⟨core, Moves.refl zone id core, by rw [same]; exact holds,
      fun success => absurd success failed⟩
  · generalize ZoneAPI.replicateLog node.oned {} params true rc = result at isResult
    have moves := Moves.advance zone core id params.leaderTerm
    have inTerm : (core.advance id params.leaderTerm).term id = params.leaderTerm := by
      rw [Core.advance_self, ← server.term, Nat.max_eq_right current]
    have followed : Local zone (core.advance id params.leaderTerm) requests id
        { node with oned := ZoneAPI.followLeader node.oned params.leaderId params.leaderTerm } :=
      ⟨server.followLeader inv params.leaderId params.leaderTerm, fun election isPolling =>
        (holds.polling election isPolling).followLeader inv server params.leaderId
          params.leaderTerm⟩
    rcases ZoneAPI.receive_cases followed.server.log zero (fun index isIndex => (record index isIndex).1)
        isResult.symm with
      ⟨same, failed, _⟩ | ⟨_, ⟨_, isZero, same⟩ | ⟨_, isZero, same⟩ |
        ⟨_, index, isIndex, prevTerm, outcome⟩⟩
    · exact ⟨_, moves, by rw [same]; exact followed, fun success => absurd success failed⟩
    · exact ⟨_, moves, by rw [same]; exact followed.advanceCommit _ _ _,
        fun _ => by rw [isZero]; exact Nat.zero_le _⟩
    · exact ⟨_, moves, by rw [same]; exact followed, fun _ => by rw [isZero]; exact Nat.zero_le _⟩
    · obtain ⟨_, present, theirTerm⟩ := record index isIndex
      have leadsNow : (core.advance id params.leaderTerm).reign
          ((core.advance id params.leaderTerm).term id) = some reign := by rw [inTerm]; exact leads
      have accepts : ∀ logdb : LogDB, logdb.Represents (store LogEntry.term (core.log id) index
            (ZoneAPI.record params)) →
          logdb.raftState = (ZoneAPI.followLeader node.oned params.leaderId
            params.leaderTerm).logdb.raftState →
          logdb.cache = (ZoneAPI.followLeader node.oned params.leaderId
            params.leaderTerm).logdb.cache →
          ∃ after, Moves zone id core after ∧ Local zone after requests id
            { node with oned := { ZoneAPI.followLeader node.oned params.leaderId
              params.leaderTerm with logdb } } ∧ index + 1 ≤ after.acked id params.leaderTerm := by
        intro logdb repr raftState cache
        obtain ⟨after, accept, serverAfter, _, _, _, _, acked⟩ := followed.server.accept leadsNow
          apart.symm present prevTerm theirTerm repr raftState cache
        rw [inTerm] at acked
        refine ⟨after, moves.trans accept, ⟨serverAfter, fun election isPolling => ?_⟩, acked⟩
        have notCandidate : (ZoneAPI.followLeader node.oned params.leaderId
            params.leaderTerm).raft.state ≠ .candidate := by
          rw [ZoneAPI.followLeader_eq]
          split
          · simp [Oned.follower, RaftManager.updateLastHeartbeat]
          · rename_i stays
            exact fun isCandidate => stays (.inr isCandidate)
        exact (followed.polling election isPolling).settled
          (accept.grows (moves.invariant inv)) followed.server.term rfl notCandidate rfl
      rcases outcome with ⟨found, same⟩ | ⟨conflict, logdb, stored, same⟩
      · obtain ⟨after, all, kept, acked⟩ := accepts _
          (by rw [store_present found]; exact followed.server.log) rfl rfl
        exact ⟨after, all, by rw [same]; exact kept, fun _ => by rw [isIndex]; exact acked⟩
      · obtain ⟨after, all, kept, acked⟩ := accepts logdb
          (by rw [store_conflict conflict]; exact stored.repr) stored.untouched.raftState
          stored.untouched.cache
        exact ⟨after, all, by rw [same]; exact kept.advanceCommit _ _ _,
          fun _ => by rw [isIndex]; exact acked⟩

variable {cluster after : Cluster}

theorem Tracks.local (tracks : Tracks zone cluster core) (member : id ∈ zone.servers) :
    Local zone core cluster.requests id (cluster.node id) :=
  ⟨tracks.server id member, tracks.polling id member⟩

theorem Tracks.onNode {step : Node → Option Node} (inv : zone.Invariant core)
    (tracks : Tracks zone cluster core) (stepped : cluster.onNode id step = some after)
    (kept : ∀ next, step (cluster.node id) = some next →
      ∃ later, Moves zone id core later ∧ Local zone later cluster.requests id next) :
    ∃ later, Moves zone id core later ∧ Tracks zone after later := by
  simp only [Cluster.onNode, Option.map_eq_some_iff] at stepped
  obtain ⟨next, isNext, rfl⟩ := stepped
  obtain ⟨later, moves, holds⟩ := kept next isNext
  exact ⟨later, moves, tracks.setNode (moves.grows inv) moves.others holds.server holds.polling⟩

theorem Tracks.setLocal (tracks : Tracks zone cluster core)
    (holds : Local zone core cluster.requests id node) : Tracks zone (cluster.setNode id node) core :=
  tracks.setNode (Grows.refl core) (Others.refl id core) holds.server holds.polling

theorem Tracks.sending {step : Node → Nat → Option (Node × Option Packet)}
    (tracks : Tracks zone cluster core) (member : id ∈ zone.servers)
    (stepped : cluster.sending id step = some after)
    (kept : ∀ next packet, step (cluster.node id) cluster.nextCall = some (next, packet) →
      (∃ raft, next = (cluster.node id).setRaft raft ∧ Quiet (cluster.node id).oned.raft raft) ∧
        ∀ sent, packet = some sent → sent.id = cluster.nextCall ∧ Authentic core sent) :
    Tracks zone after core := by
  simp only [Cluster.sending, Option.map_eq_some_iff] at stepped
  obtain ⟨⟨next, packet⟩, isNext, rfl⟩ := stepped
  obtain ⟨⟨raft, rfl, quiet⟩, authentic⟩ := kept next packet isNext
  cases packet with
  | none =>
    have skipped := tracks.skipCall
    have same := skipped.setLocal ((skipped.local member).quiet quiet)
    simpa [Cluster.setNode] using same
  | some sent =>
    obtain ⟨fresh, isAuthentic⟩ := authentic sent rfl
    have more := tracks.send fresh isAuthentic
    exact more.setLocal ((more.local member).quiet quiet)

theorem Tracks.voteCall (tracks : Tracks zone cluster core) (member : id ∈ zone.servers)
    (stepped : cluster.sending id Node.voteCall = some after) : Tracks zone after core := by
  simp only [Cluster.sending, Option.map_eq_some_iff] at stepped
  obtain ⟨⟨next, packet⟩, isNext, rfl⟩ := stepped
  simp only [Node.voteCall] at isNext
  split at isNext
  · rename_i election isPolling
    have polling := tracks.polling id member election isPolling
    have server := tracks.server id member
    split at isNext
    · rename_i followerId remaining isCall isRemaining
      split at isNext
      · contradiction
      · split at isNext
        · simp only [Option.some.injEq, Prod.mk.injEq] at isNext
          obtain ⟨rfl, rfl⟩ := isNext
          have skipped := tracks.skipCall
          have forgot := polling.forget
            (by rw [isRemaining]; exact List.sublist_cons_self _ _ : remaining.Sublist _)
          rw [← isCall] at forgot
          have holds : Local zone core cluster.requests id
              ((cluster.node id).setElection { election with remaining }) :=
            ⟨server, fun other isOther => by
              simp only [Node.setElection, TimerThread.polling.injEq] at isOther
              subst isOther
              exact forgot⟩
          have same := skipped.setLocal holds
          simpa [Cluster.setNode] using same
        · simp only [Option.some.injEq, Prod.mk.injEq] at isNext
          obtain ⟨rfl, rfl⟩ := isNext
          have apart := (polling.remaining followerId (by rw [isRemaining]; simp)).2
          have authentic : Authentic core
              { id := cluster.nextCall, dest := followerId,
                body := .vote (cluster.node id).oned.raft.term (cluster.node id).oned.raft.serverId
                  (election.lindex % 2 ^ 32) election.lterm } := by
            obtain ⟨log, stood, lindex, lterm⟩ := polling.stood
            refine ⟨by rw [server.serverId]; exact apart.symm,
              by rw [server.serverId]; exact server.term.le, fun other isOther => ?_⟩
            rw [server.serverId] at isOther
            rcases Nat.lt_or_eq_of_le polling.past with earlier | same
            · rw [polling.left earlier] at isOther
              cases isOther
            · rw [← same, stood, Option.some.injEq] at isOther
              subst isOther
              exact ⟨by rw [lindex], lterm⟩
          have more := tracks.send rfl authentic
          refine more.setNode (Grows.refl core) (Others.refl id core) server
            fun other isOther => ?_
          simp only [Node.setElection, TimerThread.polling.injEq] at isOther
          subst isOther
          exact (more.polling id member election isPolling).ask isRemaining
            (List.mem_append_right _ (List.mem_singleton_self _)) rfl rfl
            (congrArg (fun self => Request.vote _ self _ _) server.serverId)
    · contradiction
  · contradiction

theorem Tracks.deliver {packet : Nat} (inv : zone.Invariant core) (tracks : Tracks zone cluster core)
    (stepped : cluster.deliver zone packet {} rc = some after) :
    ∃ id later, Moves zone id core later ∧ Tracks zone after later := by
  simp only [Cluster.deliver] at stepped
  split at stepped
  · contradiction
  · rename_i request isRequest
    have inside := List.mem_of_getElem? isRequest
    split at stepped
    · contradiction
    · rename_i member
      simp only [Decidable.not_not] at member
      have holds := tracks.local member
      have authentic := tracks.authentic request inside
      have handled : ∃ later, Moves zone request.dest core later ∧
          Local zone later cluster.requests request.dest
            { cluster.node request.dest with
              oned := (handle (cluster.node request.dest).oned request.body {} rc).1 } ∧
          ((handle (cluster.node request.dest).oned request.body {} rc).2.code = .success →
            Answered later request) := by
        unfold Authentic at authentic
        unfold Answered
        split at authentic
        · rename_i term candidate lindex lterm body
          obtain ⟨apart, asked, stood⟩ := authentic
          rw [body]
          exact holds.vote inv member apart asked stood rfl
        · rename_i params table body
          obtain ⟨reign, leads, apart, zero, record, _⟩ := authentic
          rw [body]
          exact holds.replicateLog inv leads apart zero record
      obtain ⟨later, moves, localAfter, answered⟩ := handled
      simp only [Option.some.injEq] at stepped
      subst stepped
      refine ⟨request.dest, later, moves, ?_⟩
      have moved := tracks.setNode (moves.grows inv) moves.others localAfter.server
        localAfter.polling
      exact moved.answer inside rfl fun success => answered (of_decide_eq_true success)

theorem Tracks.step {event : Event} (inv : zone.Invariant core) (tracks : Tracks zone cluster core)
    (stepped : Cluster.step zone cluster event = some after) :
    ∃ id later, Moves zone id core later ∧ Tracks zone after later := by
  have same {id : Int} {step : Node → Option Node}
      (isStep : cluster.onNode id step = some after)
      (kept : ∀ next, step (cluster.node id) = some next →
        Local zone core cluster.requests id next) :
      ∃ id later, Moves zone id core later ∧ Tracks zone after later :=
    ⟨id, tracks.onNode inv isStep
      fun next isNext => ⟨core, Moves.refl zone id core, kept next isNext⟩⟩
  simp only [Cluster.step] at stepped
  split at stepped
  · rename_i id isServer
    split at stepped
    · rename_i member
      have holds := tracks.local member
      cases event with
      | deliver => cases isServer
      | timeout =>
        cases isServer
        rw [Cluster.run] at stepped
        exact same stepped fun _ => holds.timeout
      | startElection =>
        cases isServer
        rw [Cluster.run] at stepped
        exact ⟨id, tracks.onNode inv stepped fun _ => holds.startElection inv⟩
      | voteCall =>
        cases isServer
        rw [Cluster.run] at stepped
        exact ⟨id, core, Moves.refl zone id core, tracks.voteCall member stepped⟩
      | voteReply =>
        cases isServer
        rw [Cluster.run] at stepped
        exact ⟨id, tracks.onNode inv stepped fun _ => holds.voteReply inv tracks.answered⟩
      | endElection =>
        cases isServer
        rw [Cluster.run] at stepped
        exact ⟨id, tracks.onNode inv stepped fun _ => holds.endElection member⟩
      | heartbeat =>
        cases isServer
        rw [Cluster.run] at stepped
        exact same stepped fun _ => holds.heartbeat
      | heartbeatCall =>
        cases isServer
        rw [Cluster.run] at stepped
        exact ⟨id, core, Moves.refl zone id core,
          tracks.sending member stepped fun _ _ => holds.heartbeatCall inv⟩
      | heartbeatReply =>
        cases isServer
        rw [Cluster.run] at stepped
        exact ⟨id, tracks.onNode inv stepped fun _ => holds.heartbeatReply inv⟩
      | replicaCall =>
        cases isServer
        rw [Cluster.run] at stepped
        exact ⟨id, core, Moves.refl zone id core,
          tracks.sending member stepped fun _ _ => holds.replicaCall inv⟩
      | replicaReply =>
        cases isServer
        rw [Cluster.run] at stepped
        exact ⟨id, tracks.onNode inv stepped fun _ => holds.replicaReply inv⟩
      | replicaRetry =>
        cases isServer
        rw [Cluster.run] at stepped
        exact same stepped fun _ => holds.replicaRetry
      | write =>
        cases isServer
        rw [Cluster.run] at stepped
        exact ⟨id, tracks.onNode inv stepped fun _ => holds.write⟩
      | replicate =>
        cases isServer
        rw [Cluster.run] at stepped
        exact same stepped fun _ => holds.replicate
      | wake =>
        cases isServer
        rw [Cluster.run] at stepped
        exact same stepped fun _ => holds.wake
      | apply =>
        cases isServer
        rw [Cluster.run] at stepped
        exact same stepped fun _ => holds.apply
      | restart id now =>
        cases isServer
        rw [Cluster.run] at stepped
        exact same stepped fun next isNext => by
          rw [← Option.some.inj isNext]; exact holds.restart member now
    · contradiction
  · cases event with
    | deliver packet rc => exact tracks.deliver inv stepped
    | _ => simp_all [Event.server]

theorem Tracks.init (zone : Zone) (now : Int → Nat) :
    Tracks zone (Cluster.init zone now) (Core.start Int LogEntry) where
  server := by
    intro id member
    have nonneg := zone.nonneg id member
    obtain ⟨repr, _, _, raftState, _, _, cache⟩ := LogDB.load_empty none (toString (now id))
    have state : (Node.boot id zone.servers (now id)).oned.raft.state = .follower := by
      simp only [Node.boot, Node.start, Oned.start, RaftManager.make]
      rw [if_neg (by omega)]
    have isState : (Node.boot id zone.servers (now id)).oned.raft.raftState = ⟨0, -1⟩ := by
      simp only [Node.boot, Node.start, Oned.start, RaftManager.make, LogDB.getRaftState]
      rw [raftState]
      rfl
    have votedfor : (Node.boot id zone.servers (now id)).oned.raft.votedfor = -1 :=
      congrArg RaftState.votedfor isState
    constructor
    case serverId | servers | numServers => rfl
    case cache => exact cache
    case term => exact congrArg RaftState.term isState
    case log => exact repr.raftState _
    case stored | template => rfl
    case voted => intro candidate voted; cases voted
    case cast => exact fun used => absurd votedfor used
    case leader => exact fun isLeader => absurd (state.symm.trans isLeader) (by simp)
    case serves =>
      rintro followerId (inNext | inPool | inHeartbeat)
      · exact absurd inNext (AList.notMem_empty _)
      · exact absurd inPool (AList.notMem_empty _)
      · exact absurd inHeartbeat (AList.notMem_empty _)
  polling := by intro id _ election isPolling; cases isPolling
  authentic := by intro packet inside; cases inside
  issued := by intro packet inside; cases inside
  distinct := by intro packet inside; cases inside
  replied := by intro reply inside; cases inside
  answered := by intro reply inside; cases inside

/-- The states of the zone and of the protocol along a run. -/
def Related (zone : Zone) (cluster : Cluster) (core : History) : Prop :=
  zone.Invariant core ∧ Tracks zone cluster core

theorem simulates (zone : Zone) (ok : Cluster → Event → Prop) :
    System.Simulates (Cluster.system zone) ok zone.Step (Related zone) where
  kept := by
    rintro before event after core ⟨inv, tracks⟩ _ stepped
    obtain ⟨id, later, moves, tracksAfter⟩ := tracks.step inv stepped
    exact ⟨later, moves.run, moves.invariant inv, tracksAfter⟩

theorem Related.init (zone : Zone) (now : Int → Nat) :
    Related zone (Cluster.init zone now) (Core.start Int LogEntry) :=
  ⟨Consensus.Invariant.start, Tracks.init zone now⟩

theorem related_of_reachable {ok : Cluster → Event → Prop}
    (reached : (Cluster.system zone).Reachable ok cluster) : ∃ core, Related zone cluster core := by
  obtain ⟨start, ⟨now, rfl⟩, path⟩ := reached
  obtain ⟨core, _, related⟩ := (simulates zone ok).path path (Related.init zone now)
  exact ⟨core, related⟩

end OpenNebula.Raft
