import OpenNebula.Raft.Refinement

namespace OpenNebula.Raft

open Library Library.Consensus Sql

/-! # Operations of a server as steps of the protocol

Each operation of `RaftManager` keeps the relation of `Refinement`: it is no step
of the history, or one step of the server it runs on.
-/

abbrev Zone.Invariant (zone : Zone) (core : History) : Prop :=
  Consensus.Invariant zone.members LogEntry.term core

abbrev Zone.Step (zone : Zone) : History → History → Prop :=
  Consensus.Step zone.members LogEntry.term

structure Moves (zone : Zone) (id : Int) (before after : History) : Prop where
  run : Relation.ReflTransGen zone.Step before after
  others : Others id before after

variable {zone : Zone} {core before after : History} {id : Int} {oned : Oned}
  {requests : List Packet} {raft : RaftManager} {election : Election}

theorem Moves.refl (zone : Zone) (id : Int) (core : History) : Moves zone id core core :=
  ⟨.refl, Others.refl id core⟩

theorem Moves.trans {middle : History} (first : Moves zone id before middle)
    (second : Moves zone id middle after) : Moves zone id before after :=
  ⟨first.run.trans second.run, first.others.trans second.others⟩

theorem Moves.invariant (moves : Moves zone id before after) (inv : zone.Invariant before) : zone.Invariant after :=
  (Consensus.Invariant.run inv moves.run).1

theorem Moves.grows (moves : Moves zone id before after) (inv : zone.Invariant before) : Grows before after :=
  (Consensus.Invariant.run inv moves.run).2

theorem Moves.advance (zone : Zone) (core : History) (id : Int) (term : Nat) :
    Moves zone id core (core.advance id term) where
  run := .single (core.advance_step _ _ id term)
  others := ⟨fun _ apart => core.advance_other term apart, fun _ _ => rfl, fun _ _ => rfl⟩

structure Quiet (before after : RaftManager) : Prop where
  serverId : after.serverId = before.serverId
  servers : after.servers = before.servers
  numServers : after.numServers = before.numServers
  term : after.term = before.term
  votedfor : after.votedfor = before.votedfor
  raftState : after.raftState = before.raftState
  state : after.state = before.state
  serves : ∀ followerId, after.Serves followerId → before.Serves followerId

theorem Server.quiet (server : Server zone core id oned) (quiet : Quiet oned.raft raft) :
    Server zone core id { oned with raft } where
  serverId := quiet.serverId.trans server.serverId
  servers := quiet.servers.trans server.servers
  numServers := quiet.numServers.trans server.numServers
  cache := server.cache
  term := quiet.term.trans server.term
  log := server.log
  stored := by rw [quiet.raftState]; exact server.stored
  template := by rw [quiet.raftState, quiet.term, quiet.votedfor]; exact server.template
  voted := by rw [quiet.votedfor]; exact server.voted
  cast := by rw [quiet.votedfor]; exact server.cast
  leader := by rw [quiet.state]; exact server.leader
  serves := by
    rw [quiet.state]
    exact fun followerId serves => server.serves followerId (quiet.serves followerId serves)

theorem Polling.quiet {changed : RaftManager} (polling : Polling zone core requests id raft election)
    (quiet : Quiet raft changed) : Polling zone core requests id changed election where
  notLeader := by rw [quiet.state]; exact polling.notLeader
  past := by rw [quiet.term]; exact polling.past
  left := by rw [quiet.term]; exact polling.left
  stood := polling.stood
  votes2go := polling.votes2go
  nodup := polling.nodup
  remaining := polling.remaining
  call := by rw [quiet.state, quiet.term]; exact polling.call
  candidate := by rw [quiet.state, quiet.term, quiet.votedfor]; exact polling.candidate

theorem Server.logdb (server : Server zone core id oned) {logdb : LogDB}
    (repr : logdb.Represents (core.log id)) (raftState : logdb.raftState = oned.logdb.raftState)
    (cache : logdb.cache = oned.logdb.cache) : Server zone core id { oned with logdb } :=
  { server with
    log := repr
    stored := raftState.trans server.stored
    cache := cache.trans server.cache }

theorem Server.advanceCommit (server : Server zone core id oned) (leaderCommit index : Nat) (rc : Nat → SqlError) :
    Server zone core id (ZoneAPI.advanceCommit oned leaderCommit index rc) := by
  have ran := server.log.applyLogRecords (oned.raft.updateCommit leaderCommit index).2 rc
  obtain ⟨raftState, _, cache⟩ := ran.same
  have applied := server.logdb (ran.represents server.log) raftState cache
  exact applied.quiet ⟨rfl, rfl, rfl, rfl, rfl, rfl, rfl, fun _ serves => serves⟩

theorem Core.advance_of_le {term : Nat} (past : term ≤ core.term id) : core.advance id term = core := by
  have same : Function.update core.term id (max (core.term id) term) = core.term := by
    rw [Nat.max_eq_left past, Function.update_eq_self]
  rw [Core.advance, same]

theorem Server.follower (inv : zone.Invariant core) (server : Server zone core id oned)
    (term : Nat) : Server zone (core.advance id term) id (oned.follower term) := by
  have down := Oned.follower_steppedDown server.log.toRows term
  constructor
  case serverId => rw [down.raft]; simp [server.serverId]
  case servers => rw [down.raft]; simp [server.servers]
  case numServers => rw [down.raft]; simp [server.numServers]
  case cache => rw [down.cache]; exact server.cache
  case term => rw [down.raft]; simp [server.term]
  case log => exact down.repr
  case stored =>
    rw [down.raftState, down.raft]
    by_cases later : oned.raft.term < term
    · simp [later]
    · simp [later, server.stored]
  case template =>
    rw [down.raft]
    by_cases later : oned.raft.term < term
    · simp [later]; omega
    · simp [later, server.template]; omega
  case voted =>
    intro candidate voted
    rw [Core.advance_self] at voted
    by_cases later : core.term id < term
    · have bound := (inv.votes.term _ _ _ voted).1
      omega
    · rw [Nat.max_eq_left (Nat.le_of_not_lt later)] at voted
      obtain ⟨same, nonneg⟩ := server.voted candidate voted
      rw [down.raft]
      simp only [RaftManager.follower_votedfor, server.term, if_neg later]
      exact ⟨same, nonneg⟩
  case cast =>
    rw [down.raft, Core.advance_self]
    simp only [RaftManager.follower_votedfor, server.term]
    by_cases later : core.term id < term
    · simp [later]
    · rw [if_neg later, Nat.max_eq_left (Nat.le_of_not_lt later)]
      exact server.cast
  case leader => rw [down.raft]; simp
  case serves =>
    intro followerId serves
    rw [down.raft] at serves
    simp [RaftManager.Serves] at serves

theorem Polling.lapse {changed : RaftManager} (polling : Polling zone before requests id raft election)
    (grows : Grows before after) (notLeader : changed.state ≠ .leader)
    (state : changed.state ≠ .candidate) (later : raft.term ≤ changed.term)
    (left : election.term < changed.term → after.cand id changed.term = none) :
    Polling zone after requests id changed election where
  notLeader := notLeader
  past := polling.past.trans later
  left := left
  stood := by
    obtain ⟨found, stood, rest⟩ := polling.stood
    exact ⟨found, grows.cand _ _ _ stood, rest⟩
  votes2go := polling.votes2go
  nodup := polling.nodup
  remaining := polling.remaining
  call := by
    intro call followerId isCall
    obtain ⟨member, apart, asked, packet, inside, sameCall, dest, term, lindex, lterm, body, _⟩ :=
      polling.call call followerId isCall
    exact ⟨member, apart, asked, packet, inside, sameCall, dest, term, lindex, lterm, body,
      fun isCandidate => absurd isCandidate state⟩
  candidate := fun isCandidate => absurd isCandidate state

theorem Polling.follower (inv : zone.Invariant core) (server : Server zone core id oned)
    (polling : Polling zone core requests id oned.raft election) (term : Nat) :
    Polling zone (core.advance id term) requests id (oned.follower term).raft election := by
  have down := Oned.follower_steppedDown server.log.toRows term
  rw [down.raft]
  refine polling.lapse ((Moves.advance zone core id term).grows inv) (by simp) (by simp)
    (by simp) ?_
  intro earlier
  simp only [RaftManager.follower_term] at earlier ⊢
  by_cases later : oned.raft.term < term
  · rw [Nat.max_eq_right later.le]
    cases stood : (core.advance id term).cand id term with
    | none => rfl
    | some log =>
      have bound := (inv.logs.candTerm id term log stood).1
      rw [server.term] at later
      omega
  · rw [Nat.max_eq_left (Nat.le_of_not_lt later)] at earlier ⊢
    exact polling.left earlier

theorem Server.followLeader (inv : zone.Invariant core) (server : Server zone core id oned)
    (leaderId : Int) (leaderTerm : Nat) : Server zone (core.advance id leaderTerm) id
      (ZoneAPI.followLeader oned leaderId leaderTerm) := by
  rw [ZoneAPI.followLeader_eq]
  split
  · exact (server.follower inv leaderTerm).quiet
      ⟨rfl, rfl, rfl, rfl, rfl, rfl, rfl, fun _ serves => serves⟩
  · rename_i stays
    have same : leaderTerm ≤ core.term id := by
      rw [← server.term]
      exact Nat.le_of_not_lt fun later => stays (.inl later)
    rw [Core.advance_of_le same]
    exact server.quiet ⟨rfl, rfl, rfl, rfl, rfl, rfl, rfl, fun _ serves => serves⟩

theorem Polling.followLeader (inv : zone.Invariant core) (server : Server zone core id oned)
    (polling : Polling zone core requests id oned.raft election) (leaderId : Int) (leaderTerm : Nat) :
    Polling zone (core.advance id leaderTerm) requests id
      (ZoneAPI.followLeader oned leaderId leaderTerm).raft election := by
  rw [ZoneAPI.followLeader_eq]
  split
  · exact (polling.follower inv server leaderTerm).quiet
      ⟨rfl, rfl, rfl, rfl, rfl, rfl, rfl, fun _ serves => serves⟩
  · rename_i stays
    have same : leaderTerm ≤ core.term id := by
      rw [← server.term]
      exact Nat.le_of_not_lt fun later => stays (.inl later)
    rw [Core.advance_of_le same]
    exact polling.quiet ⟨rfl, rfl, rfl, rfl, rfl, rfl, rfl, fun _ serves => serves⟩

theorem Server.grant (server : Server zone core id oned) {candidate : Int} {voted : Oned}
    (updated : oned.updateVotedfor candidate = some voted) (nonneg : 0 ≤ candidate)
    (apart : id ≠ candidate) (asked : core.term id ≤ core.term candidate)
    (upToDate : ∀ log, core.cand candidate (core.term id) = some log → UpToDate LogEntry.term log (core.log id)) :
    ∃ after, Moves zone id core after ∧ after.term = core.term ∧ after.log = core.log ∧
      after.cand = core.cand ∧ Server zone after id voted ∧ after.voted id (core.term id) = some candidate := by
  simp only [Oned.updateVotedfor, RaftManager.updateVotedfor] at updated
  split at updated
  · contradiction
  · rename_i allowed
    simp only [Option.map_some, Option.some.injEq] at updated
    subst updated
    by_cases repeated : oned.raft.votedfor = candidate
    · have cast := server.cast (by omega) (by omega)
      rw [repeated] at cast
      refine ⟨core, Moves.refl zone id core, rfl, rfl, rfl, ?_, cast⟩
      have template := server.template
      rw [repeated] at template
      refine { server with
        log := server.log.raftState _, stored := rfl, template := ?_, voted := ?_, cast := ?_ }
      · simp [template]
      · intro other given
        rw [cast, Option.some.injEq] at given
        exact ⟨given, by omega⟩
      · intro _ _; exact cast
    · have unused : oned.raft.votedfor = -1 := by
        by_contra used
        exact allowed ⟨used, repeated⟩
      have free : core.voted id (core.term id) = none := by
        cases given : core.voted id (core.term id) with
        | none => rfl
        | some other =>
          obtain ⟨same, positive⟩ := server.voted other given
          omega
      let after : History := { core with voted := setPair core.voted id (core.term id) (some candidate) }
      have moves : Moves zone id core after :=
        ⟨.single (.grant core id candidate apart asked free upToDate), fun _ _ => rfl, fun _ _ => rfl,
          fun other different => setPair_server core.voted id (core.term id) _ different⟩
      have cast : after.voted id (core.term id) = some candidate := by simp [after]
      refine ⟨after, moves, rfl, rfl, rfl, ?_, cast⟩
      refine { server with
        log := server.log.raftState _, stored := rfl, template := ?_, voted := ?_, cast := ?_ }
      · simp [server.template]
      · intro other given
        rw [show after.term id = core.term id from rfl, cast, Option.some.injEq] at given
        exact ⟨given, by omega⟩
      · intro _ _; exact cast

theorem Polling.noGrant (polling : Polling zone core requests id raft election)
    (member : 0 ≤ id) {candidate : Int} (apart : id ≠ candidate)
    (allowed : ¬ (raft.votedfor ≠ -1 ∧ raft.votedfor ≠ candidate)) : raft.state ≠ .candidate := by
  intro isCandidate
  have self := (polling.candidate isCandidate).2.1
  omega

theorem Server.startElection (inv : zone.Invariant core) (server : Server zone core id oned)
    (isCandidate : oned.raft.state = .candidate) : ∃ after, Moves zone id core after ∧
      Server zone after id (oned.startElection zone.servers) ∧
      after.term id = core.term id + 1 ∧ after.log id = core.log id ∧
      after.cand id (core.term id + 1) = some (core.log id) ∧ after.voted id (core.term id + 1) = none := by
  let after : History :=
    { core with
      term := Function.update core.term id (core.term id + 1)
      cand := setPair core.cand id (core.term id + 1) (some (core.log id)) }
  have term : after.term id = core.term id + 1 := by simp [after]
  have free : after.voted id (core.term id + 1) = none := by
    cases given : core.voted id (core.term id + 1) with
    | none => rfl
    | some other =>
      have bound := (inv.votes.term _ _ _ given).1
      omega
  have moves : Moves zone id core after :=
    ⟨.single (.stand core id _ (Nat.lt_succ_self _)),
      fun _ apart => Function.update_of_ne apart _ _, fun _ _ => rfl, fun _ _ => rfl⟩
  refine ⟨after, moves, ?_, term, rfl, by simp [after], free⟩
  constructor
  case serverId => exact server.serverId
  case servers | numServers => rfl
  case cache => exact server.cache
  case term => rw [term, ← server.term]; rfl
  case log => exact server.log.raftState _
  case stored | template => rfl
  case voted =>
    intro other given
    rw [term, free] at given
    cases given
  case cast =>
    intro _ notSelf
    exact absurd server.serverId notSelf
  case leader =>
    intro isLeader
    rw [show (oned.startElection zone.servers).raft.state = oned.raft.state from rfl, isCandidate] at isLeader
    cases isLeader
  case serves =>
    intro followerId serves
    have isLeader := (server.serves followerId serves).1
    rw [isCandidate] at isLeader
    cases isLeader

theorem Server.clearVote (server : Server zone core id oned)
    (free : core.voted id (core.term id) = none) : Server zone core id oned.clearVote :=
  { server with
    log := server.log.raftState _
    stored := rfl
    template := by simp [Oned.clearVote, RaftManager.clearVote, server.template]
    voted := by
      intro other given
      rw [free] at given
      cases given
    cast := fun used _ => absurd rfl used }

theorem mem_foldl_insertNew {α : Type} (ids : List Int) (value : α) (rows : Map Int α) (followerId : Int) :
    followerId ∈ ids.foldl (fun rows id => Map.insertNew id value rows) rows ↔
      followerId ∈ ids ∨ followerId ∈ rows := by
  induction ids generalizing rows with
  | nil => simp
  | cons id ids ih =>
    rw [List.foldl_cons, ih, Map.mem_insertNew, List.mem_cons]
    tauto

theorem ReplicaManager.mem_startReplicaThreads {thisId : Int} {ids : List Int}
    {pool : ReplicaManager} {followerId : Int} (inside : followerId ∈ pool.startReplicaThreads thisId ids) :
    followerId ∈ ids ∨ followerId ∈ pool := by
  induction ids generalizing pool with
  | nil => exact .inr inside
  | cons id ids ih =>
    rw [startReplicaThreads, List.foldl_cons] at inside
    rcases ih inside with later | here
    · exact .inl (List.mem_cons_of_mem _ later)
    · rw [addReplicaThread] at here
      split at here
      · exact .inr here
      · rcases Map.mem_insertNew.1 here with rfl | old
        · exact .inl List.mem_cons_self
        · exact .inr old

variable {index : Nat}

theorem RaftManager.leader_serves {applied : Nat} (isCandidate : raft.state = .candidate)
    (none : ∀ followerId, ¬ raft.Serves followerId) {followerId : Int}
    (serves : (raft.leader applied index).Serves followerId) :
    followerId ∈ raft.servers ∧ followerId ≠ raft.serverId := by
  have unserved := none followerId
  simp only [RaftManager.Serves, not_or] at unserved
  have isFollower : followerId ∈ raft.servers.filter (· ≠ raft.serverId) := by
    simp only [RaftManager.Serves, RaftManager.leader, isCandidate, ne_eq, not_true_eq_false,
      if_false, mem_foldl_insertNew, ReplicaManager.replicateAll, Map.mem_modify] at serves
    rcases serves with inNext | inPool | inHeartbeat
    · exact inNext.resolve_right (AList.notMem_empty _)
    · exact (ReplicaManager.mem_startReplicaThreads inPool).resolve_right unserved.2.1
    · exact (ReplicaManager.mem_startReplicaThreads inHeartbeat).resolve_right unserved.2.2
  simpa using isFollower

section

variable (server : Server zone core id oned)
include server

theorem Server.unserved (notLeader : oned.raft.state ≠ .leader) (followerId : Int) : ¬ oned.raft.Serves followerId :=
  fun serves => notLeader (server.serves followerId serves).1

theorem Server.leaderRefused (notCandidate : oned.raft.state ≠ .candidate) :
    Server zone core id oned.leader ∧ oned.leader.raft = oned.raft := by
  obtain ⟨repr, _, _, _, raftState, _, _, cache⟩ := server.log.setupIndex
  have same : oned.leader.raft = oned.raft := by
    simp [Oned.leader, RaftManager.leader, notCandidate]
  refine ⟨?_, same⟩
  have loaded := server.logdb repr raftState cache
  rw [show oned.leader = ⟨oned.leader.raft, oned.logdb.setupIndex.1⟩ from rfl, same]
  exact loaded

theorem Server.leaderElected (member : id ∈ zone.servers) (polling : Polling zone core requests id oned.raft election)
    (isCandidate : oned.raft.state = .candidate) (enough : election.votes2go ≤ election.grantedVotes) :
    ∃ after, Moves zone id core after ∧ Server zone after id oned.leader := by
  obtain ⟨_, self, free, stood, granted, subset, card, votes⟩ := polling.candidate isCandidate
  rw [server.term] at free stood votes
  have majority : Majority zone.members (insert id granted) := by
    refine Majority.insert_half (Zone.mem_members.2 member) subset ?_ ?_
    · intro inside
      exact (votes id inside).1 rfl
    · rw [Zone.card_members, card, ← polling.votes2go]
      exact enough
  let after : History :=
    { core with
      voted := setPair core.voted id (core.term id) (some id)
      reign := Function.update core.reign (core.term id) (some ⟨id, core.log id, []⟩)
      acked := setPair core.acked id (core.term id) (core.log id).length }
  have moves : Moves zone id core after := by
    refine ⟨.single (.win core id (insert id granted) stood free majority
      (Finset.mem_insert_self _ _) ?_), fun _ _ => rfl, fun _ _ => rfl,
      fun other apart => setPair_server core.voted id (core.term id) _ apart⟩
    intro voter inside notSelf
    exact (votes voter ((Finset.mem_insert.1 inside).resolve_left notSelf)).2.1
  obtain ⟨repr, _, _, _, raftState, _, _, cache⟩ := server.log.setupIndex
  have kept : oned.leader.raft.serverId = oned.raft.serverId ∧
      oned.leader.raft.servers = oned.raft.servers ∧
      oned.leader.raft.numServers = oned.raft.numServers ∧
      oned.leader.raft.term = oned.raft.term ∧ oned.leader.raft.votedfor = oned.raft.votedfor ∧
      oned.leader.raft.raftState = oned.raft.raftState ∧
      oned.leader.raft.state = .leader := by
    simp [Oned.leader, RaftManager.leader, isCandidate]
  obtain ⟨serverId, servers, numServers, term, votedfor, template, isLeader⟩ := kept
  refine ⟨after, moves, ?_⟩
  constructor
  case serverId => exact serverId.trans server.serverId
  case servers => exact servers.trans server.servers
  case numServers => exact numServers.trans server.numServers
  case cache => exact cache.trans server.cache
  case term => exact term.trans server.term
  case log => exact repr
  case stored => rw [template]; exact raftState.trans server.stored
  case template => rw [template, term, votedfor]; exact server.template
  case voted =>
    intro other given
    simp only [after, setPair_self, Option.some.injEq] at given
    rw [votedfor, self]
    exact ⟨given, given ▸ zone.nonneg id member⟩
  case cast =>
    intro _ notSelf
    rw [votedfor, self] at notSelf
    exact absurd rfl notSelf
  case leader => exact fun _ => ⟨⟨id, core.log id, []⟩, by simp [after], rfl⟩
  case serves =>
    intro followerId serves
    obtain ⟨inside, apart⟩ := RaftManager.leader_serves isCandidate
      (server.unserved (by rw [isCandidate]; simp)) serves
    rw [server.servers] at inside
    rw [server.serverId] at apart
    exact ⟨isLeader, apart, inside⟩

theorem Server.insertLogRecord (isLeader : oned.raft.state = .leader) {written : Oned} {rindex : Nat} {cmd : String}
    {federated : Option Nat} (inserted : oned.insertLogRecord oned.raft.term cmd federated = some (written, rindex)) :
    ∃ after, Moves zone id core after ∧ Server zone after id written ∧
      after.term = core.term ∧ rindex = (core.log id).length + 1 ∧
      after.log id = core.log id ++ [⟨core.term id, cmd, LogDB.federatedIndex federated rindex⟩] ∧
      written.raft = oned.raft.replicateAllocate rindex ∧ LogDB.Untouched oned.logdb written.logdb ∧
      written.logdb.table = oned.logdb.table.insert rindex
        ⟨core.term id, cmd, LogDB.federatedIndex federated rindex, false⟩ := by
  obtain ⟨reign, leads, self⟩ := server.leader isLeader
  obtain ⟨logdb, isLogdb, repr, table, untouched⟩ := server.log.insertLogRecord oned.raft.term cmd false federated
  simp only [Oned.insertLogRecord, isLogdb, Option.map_some, Option.some.injEq, Prod.mk.injEq] at inserted
  obtain ⟨rfl, rfl⟩ := inserted
  rw [server.term] at repr table
  let entry : LogEntry := ⟨core.term id, cmd, LogDB.federatedIndex federated ((core.log id).length + 1)⟩
  let after : History :=
    { core with
      log := Function.update core.log reign.leader (core.log reign.leader ++ [entry])
      reign := Function.update core.reign (core.term id)
        (some { reign with own := reign.own ++ [entry] })
      acked := setPair core.acked reign.leader (core.term id) (reign.log.length + 1) }
  have moves : Moves zone id core after :=
    ⟨.single (.append core reign (core.term id) entry leads (by rw [self]) rfl), fun _ _ => rfl,
      fun other apart => Function.update_of_ne (by rw [self]; exact apart) _ _, fun _ _ => rfl⟩
  have log : after.log id = core.log id ++ [entry] := by
    simp only [after, self, Function.update_self]
  refine ⟨after, moves, ?_, rfl, rfl, log, rfl, untouched, table⟩
  exact { server with
    cache := untouched.cache.trans server.cache
    log := by rw [log]; exact repr
    stored := untouched.raftState.trans server.stored
    leader := fun _ => ⟨{ reign with own := reign.own ++ [entry] }, by simp [after], self⟩ }

end

theorem previous_of_termAt {mine theirs : List LogEntry} {prevTerm : Nat}
    (isMine : termAt mine index = some prevTerm) (isTheirs : termAt theirs index = some prevTerm) :
    ∀ before, index = before + 1 → ∃ left right, mine[before]? = some left ∧
      theirs[before]? = some right ∧ left.term = right.term := by
  rintro before rfl
  rw [termAt, Option.map_eq_some_iff] at isMine isTheirs
  obtain ⟨left, foundLeft, leftTerm⟩ := isMine
  obtain ⟨right, foundRight, rightTerm⟩ := isTheirs
  exact ⟨left, right, foundLeft, foundRight, leftTerm.trans rightTerm.symm⟩

theorem Server.accept (server : Server zone core id oned) {reign : Reign Int LogEntry}
    (leads : core.reign (core.term id) = some reign) (apart : id ≠ reign.leader) {entry : LogEntry}
    (present : reign.log[index]? = some entry) {prevTerm : Nat}
    (isMine : termAt (core.log id) index = some prevTerm) (isTheirs : termAt reign.log index = some prevTerm)
    {logdb : LogDB} (repr : logdb.Represents (store LogEntry.term (core.log id) index entry))
    (raftState : logdb.raftState = oned.logdb.raftState) (cache : logdb.cache = oned.logdb.cache) :
    ∃ after, Moves zone id core after ∧ Server zone after id { oned with logdb } ∧
      after.term = core.term ∧ after.log id = store LogEntry.term (core.log id) index entry ∧
      after.cand = core.cand ∧ after.voted = core.voted ∧ index + 1 ≤ after.acked id (core.term id) := by
  let after : History :=
    { core with
      log := Function.update core.log id (store LogEntry.term (core.log id) index entry)
      acked := setPair core.acked id (core.term id)
        (max (core.acked id (core.term id)) (index + 1)) }
  have moves : Moves zone id core after :=
    ⟨.single (.accept core id reign index entry leads apart present
      (previous_of_termAt isMine isTheirs)), fun _ _ => rfl,
      fun other different => Function.update_of_ne different _ _, fun _ _ => rfl⟩
  have log : after.log id = store LogEntry.term (core.log id) index entry := by simp [after]
  refine ⟨after, moves, ?_, rfl, log, rfl, rfl, by simp [after]⟩
  exact { server with
    cache := cache.trans server.cache
    log := by rw [log]; exact repr
    stored := raftState.trans server.stored }

end OpenNebula.Raft
