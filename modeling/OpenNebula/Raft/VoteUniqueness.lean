import OpenNebula.Raft.Threads

namespace OpenNebula.Raft

open Library Sql

/-! # Votes of one server

`votedfor` belongs to the current term.  A handler that read the term of its
candidate and then lost the lock may find `votedfor` cleared for a newer term.
-/

/-- A step that gives no vote: a new term has no vote, and only the server's own
vote is taken back. -/
structure Calm (before after : RaftManager) : Prop where
  serverId : after.serverId = before.serverId
  votes : before.term < after.term ∨ (after.term = before.term ∧
    (after.votedfor = before.votedfor ∨ before.votedfor = before.serverId))

/-- A step of a handler also leaves an election alone or ends it. -/
structure CalmCall (before after : RaftManager) : Prop extends Calm before after where
  state : after.state = .candidate → before.state = .candidate ∧ after.votedfor = before.votedfor

theorem CalmCall.same {before after : RaftManager} (serverId : after.serverId = before.serverId)
    (term : after.term = before.term) (votedfor : after.votedfor = before.votedfor)
    (state : after.state = before.state) : CalmCall before after :=
  ⟨⟨serverId, .inr ⟨term, .inl votedfor⟩⟩, fun isCandidate => ⟨state ▸ isCandidate, votedfor⟩⟩

theorem CalmCall.follower (oned : Oned) (term : Nat) : CalmCall oned.raft (oned.follower term).raft := by
  refine ⟨⟨by simp [Oned.follower], ?_⟩, fun isCandidate => by simp [Oned.follower] at isCandidate⟩
  simp only [Oned.follower, RaftManager.follower_term, RaftManager.follower_votedfor]
  by_cases later : oned.raft.term < term
  · exact .inl (by omega)
  · exact .inr ⟨by omega, .inl (by rw [if_neg later])⟩

def VotePhase.checked : VotePhase → Bool
  | .follower _ _ _ | .updateVotedfor _ => true
  | _ => false

/-- The next call of the handler is `update_votedfor`. -/
def VotePhase.records : VotePhase → Bool
  | .updateVotedfor _ => true
  | _ => false

def VotePhase.granted : VotePhase → Bool
  | .answered response => response.code = .success
  | _ => false

theorem VoteRequest.checkLog_granted (request : VoteRequest) (currentTerm logIndex logTerm : Nat) :
    (request.checkLog currentTerm logIndex logTerm).granted = false := by
  rw [checkLog]
  split <;> rfl

theorem VoteRequest.checkTerm_cases (request : VoteRequest) (cache : Bool) (currentTerm logIndex logTerm : Nat) :
    (request.checkTerm cache currentTerm logIndex logTerm).granted = false ∧
      ((request.checkTerm cache currentTerm logIndex logTerm).checked = true → 0 ≤ request.candidateId) := by
  rw [checkTerm]
  split
  · exact ⟨rfl, fun isChecked => by cases isChecked⟩
  · rename_i nonneg
    refine ⟨?_, fun _ => by omega⟩
    repeat' split
    all_goals first | rfl | exact request.checkLog_granted _ _ _

variable {oned : Oned}

/-- A call of `vote` is calm and grants nothing, or it is `update_votedfor`. -/
theorem VoteRequest.step_cases {request : VoteRequest} {after : Oned} {phase next : VotePhase}
    (stepped : request.step oned phase = some (after, next)) : (CalmCall oned.raft after.raft ∧ next.granted = false ∧
      (next.checked = true → phase.checked = true ∨ 0 ≤ request.candidateId)) ∨
    (phase.records = true ∧ next.granted = true ∧ next.checked = false ∧
      oned.updateVotedfor request.candidateId = some after) := by
  cases phase with
  | getTerm =>
    simp only [step, Option.some.injEq, Prod.mk.injEq] at stepped
    obtain ⟨rfl, rfl⟩ := stepped
    exact .inl ⟨.same rfl rfl rfl rfl, rfl, fun isChecked => by cases isChecked⟩
  | getLastRecordIndex currentTerm =>
    simp only [step, Option.some.injEq, Prod.mk.injEq] at stepped
    obtain ⟨rfl, rfl⟩ := stepped
    obtain ⟨granted, checked⟩ := request.checkTerm_cases oned.logdb.cache currentTerm
      oned.logdb.getLastRecordIndex.1 oned.logdb.getLastRecordIndex.2
    exact .inl ⟨.same rfl rfl rfl rfl, granted, fun isChecked => .inr (checked isChecked)⟩
  | follower currentTerm logIndex logTerm =>
    simp only [step, Option.some.injEq, Prod.mk.injEq] at stepped
    obtain ⟨rfl, rfl⟩ := stepped
    exact .inl ⟨.follower oned _, request.checkLog_granted _ _ _, fun _ => .inl rfl⟩
  | updateVotedfor currentTerm =>
    simp only [step] at stepped
    split at stepped
    · simp only [Option.some.injEq, Prod.mk.injEq] at stepped
      obtain ⟨rfl, rfl⟩ := stepped
      exact .inl ⟨.same rfl rfl rfl rfl, rfl, fun isChecked => by cases isChecked⟩
    · rename_i voted updated
      simp only [Option.some.injEq, Prod.mk.injEq] at stepped
      obtain ⟨rfl, rfl⟩ := stepped
      exact .inr ⟨rfl, rfl, rfl, updated⟩
  | answered response => cases stepped

theorem ReplicateLogParams.step_calm {params : ReplicateLogParams} {oneadmin : Bool} {answers : ZoneAPI.Answers}
    {rc : Nat → SqlError} {after : Oned} {phase next : ReplicatePhase}
    (stepped : params.step oneadmin answers rc oned phase = some (after, next)) : CalmCall oned.raft after.raft := by
  cases phase with
  | newTerm | stepDown =>
    rw [← (Prod.mk.inj (Option.some.inj stepped)).1]
    exact .follower oned _
  | insertLogRecord =>
    simp only [step] at stepped
    split at stepped <;>
      (rw [← (Prod.mk.inj (Option.some.inj stepped)).1]; exact .same rfl rfl rfl rfl)
  | answered => cases stepped
  | _ =>
    rw [← (Prod.mk.inj (Option.some.inj stepped)).1]
    exact .same rfl rfl rfl rfl

/-- A candidate that collects votes has voted for itself. -/
def OwnVote (node : Node) : Prop :=
  ∀ election, node.timer = .polling election → node.oned.raft.state = .candidate →
    node.oned.raft.votedfor = node.oned.raft.serverId

section Elections

variable {node next : Node}

theorem Calm.refl (raft : RaftManager) : Calm raft raft := ⟨rfl, .inr ⟨rfl, .inl rfl⟩⟩

theorem OwnVote.call (own : OwnVote node) {oned : Oned} (calm : CalmCall node.oned.raft oned.raft) :
    OwnVote { node with oned } := by
  intro election isPolling isCandidate
  obtain ⟨before, votedfor⟩ := calm.state isCandidate
  rw [votedfor, calm.serverId]
  exact own election isPolling before

theorem OwnVote.timeout (stepped : node.timeout = some next) : Calm node.oned.raft next.oned.raft ∧ OwnVote next := by
  simp only [Node.timeout] at stepped
  split at stepped
  · rw [← Option.some.inj stepped]
    exact ⟨⟨rfl, .inr ⟨rfl, .inl rfl⟩⟩, fun _ isPolling => by cases isPolling⟩
  · contradiction

theorem OwnVote.startElection {servers : List Int} (stepped : node.startElection servers = some next) :
    Calm node.oned.raft next.oned.raft ∧ OwnVote next := by
  simp only [Node.startElection] at stepped
  split at stepped
  · contradiction
  · split at stepped
    · rw [← Option.some.inj stepped]
      exact ⟨Calm.refl _, fun _ isPolling => by cases isPolling⟩
    · rw [← Option.some.inj stepped]
      exact ⟨⟨rfl, .inl (Nat.lt_succ_self _)⟩, fun _ _ _ => rfl⟩

theorem OwnVote.voteCall {call : Nat} {packet : Option Packet} (own : OwnVote node)
    (stepped : node.voteCall call = some (next, packet)) : Calm node.oned.raft next.oned.raft ∧ OwnVote next := by
  simp only [Node.voteCall] at stepped
  split at stepped
  · rename_i election isPolling
    have kept (changed : Election) : OwnVote (node.setElection changed) := fun _ _ => own election isPolling
    split at stepped
    · split at stepped
      · contradiction
      · split at stepped <;>
          (rw [← (Prod.mk.inj (Option.some.inj stepped)).1]; exact ⟨Calm.refl _, kept _⟩)
    · contradiction
  · contradiction

theorem OwnVote.voteReply {replies : List Reply} {reply : Option Nat} (own : OwnVote node)
    (stepped : node.voteReply replies reply = some next) : Calm node.oned.raft next.oned.raft ∧ OwnVote next := by
  simp only [Node.voteReply] at stepped
  split at stepped
  · rename_i election isPolling
    have kept (changed : Election) : OwnVote (node.setElection changed) := fun _ _ => own election isPolling
    split at stepped
    · contradiction
    · split at stepped
      · rw [← Option.some.inj stepped]; exact ⟨Calm.refl _, kept _⟩
      · split at stepped
        · contradiction
        · rename_i answer _
          split at stepped
          · contradiction
          · split at stepped
            · rw [← Option.some.inj stepped]; exact ⟨Calm.refl _, kept _⟩
            · split at stepped
              · rw [← Option.some.inj stepped]
                exact ⟨(CalmCall.follower node.oned answer.term).toCalm, fun _ isPolling => by cases isPolling⟩
              · rw [← Option.some.inj stepped]; exact ⟨Calm.refl _, kept _⟩
  · contradiction

theorem Node.becomeLeader_calm (node : Node) :
    Calm node.oned.raft node.becomeLeader.oned.raft ∧ node.becomeLeader.timer = .idle := by
  have calm : Calm node.oned.raft node.oned.leader.raft := by
    simp only [Oned.leader, RaftManager.leader]
    split
    · exact Calm.refl _
    · exact ⟨rfl, .inr ⟨rfl, .inl rfl⟩⟩
  simp only [Node.becomeLeader]
  split <;> exact ⟨calm, rfl⟩

theorem OwnVote.endElection (own : OwnVote node) (stepped : node.endElection = some next) :
    Calm node.oned.raft next.oned.raft ∧ OwnVote next := by
  simp only [Node.endElection] at stepped
  split at stepped
  · rename_i election isPolling
    split at stepped
    · contradiction
    · split at stepped
      · rw [← Option.some.inj stepped]
        obtain ⟨calm, idle⟩ := node.becomeLeader_calm
        exact ⟨calm, fun _ isPolling => by rw [idle] at isPolling; cases isPolling⟩
      · split at stepped
        · contradiction
        · split at stepped
          · rw [← Option.some.inj stepped]
            exact ⟨Calm.refl _, fun _ isPolling => by cases isPolling⟩
          · rename_i isCandidate
            rw [← Option.some.inj stepped]
            -- the vote that a lost election takes back is the server's own
            exact ⟨⟨rfl, .inr ⟨rfl, .inr (own election isPolling (Decidable.not_not.1 isCandidate))⟩⟩,
              fun _ isPolling => by cases isPolling⟩
  · contradiction

end Elections

structure Ballots (voter : Voter) : Prop where
  self : 0 ≤ voter.node.oned.raft.serverId
  own : OwnVote voter.node
  others : ∀ thread ∈ voter.votes, thread.1.candidateId ≠ voter.node.oned.raft.serverId
  checked : ∀ thread ∈ voter.votes, thread.2.checked = true → 0 ≤ thread.1.candidateId
  current : ∀ thread ∈ voter.votes, thread.2.granted = true →
    0 ≤ thread.1.candidateId ∧ thread.1.candidateTerm ≤ voter.node.oned.raft.term ∧
      (thread.1.candidateTerm = voter.node.oned.raft.term → voter.node.oned.raft.votedfor = thread.1.candidateId)
  unique : ∀ thread ∈ voter.votes, ∀ other ∈ voter.votes, thread.2.granted = true →
    other.2.granted = true → thread.1.candidateTerm = other.1.candidateTerm →
    thread.1.candidateId = other.1.candidateId

variable {voter next : Voter} {event : VoterEvent} {servers : List Int} {id : Int}

theorem Ballots.calm (ballots : Ballots voter)
    (calm : Calm voter.node.oned.raft next.node.oned.raft) (own : OwnVote next.node)
    (threads : ∀ thread ∈ next.votes, thread ∈ voter.votes ∨
      (thread.2.granted = false ∧ thread.1.candidateId ≠ voter.node.oned.raft.serverId ∧
        (thread.2.checked = true → 0 ≤ thread.1.candidateId))) : Ballots next where
  self := by rw [calm.serverId]; exact ballots.self
  own := own
  others := by
    intro thread inside
    rw [calm.serverId]
    exact (threads thread inside).elim (ballots.others thread) fun new => new.2.1
  checked := by
    intro thread inside isChecked
    exact (threads thread inside).elim (fun old => ballots.checked thread old isChecked)
      fun new => new.2.2 isChecked
  current := by
    intro thread inside granted
    rcases threads thread inside with old | ⟨notGranted, _⟩
    · obtain ⟨nonneg, past, isVote⟩ := ballots.current thread old granted
      refine ⟨nonneg, ?_, fun same => ?_⟩
      · rcases calm.votes with later | ⟨same, _⟩ <;> omega
      · rcases calm.votes with later | ⟨sameTerm, votedfor | ownVote⟩
        · omega
        · rw [votedfor]; exact isVote (same.trans sameTerm)
        · have voted := isVote (same.trans sameTerm)
          exact absurd (voted.symm.trans ownVote) (ballots.others thread old)
    · rw [notGranted] at granted; cases granted
  unique := by
    intro thread inside other inOther granted grantedOther same
    rcases threads thread inside with old | ⟨notGranted, _⟩
    · rcases threads other inOther with oldOther | ⟨notGranted, _⟩
      · exact ballots.unique thread old other oldOther granted grantedOther same
      · rw [notGranted] at grantedOther; cases grantedOther
    · rw [notGranted] at granted; cases granted

/-- `update_votedfor` in the term that the candidate asked for. -/
theorem Ballots.vote (ballots : Ballots voter) {thread : Nat} {request : VoteRequest}
    {phase answered : VotePhase} (found : voter.votes[thread]? = some (request, phase))
    (isChecked : phase.checked = true) (inTerm : voter.node.oned.raft.term = request.candidateTerm)
    (updated : voter.node.oned.updateVotedfor request.candidateId = some oned)
    (notChecked : answered.checked = false) :
    Ballots { voter.setOned oned with votes := voter.votes.set thread (request, answered) } := by
  have inside := List.mem_of_getElem? found
  have nonneg := ballots.checked _ inside isChecked
  have apart := ballots.others _ inside
  simp only [Oned.updateVotedfor, RaftManager.updateVotedfor] at updated
  split at updated
  · contradiction
  · rename_i allowed
    rw [← Option.some.inj updated]
    have self := ballots.self
    -- an earlier success in this term has the same candidate
    have same : ∀ old ∈ voter.votes, old.2.granted = true →
        old.1.candidateTerm = request.candidateTerm → old.1.candidateId = request.candidateId := by
      intro old isOld granted sameTerm
      obtain ⟨oldNonneg, _, isVote⟩ := ballots.current old isOld granted
      have voted := isVote (sameTerm.trans inTerm.symm)
      omega
    refine ⟨self, ?_, ?_, ?_, ?_, ?_⟩
    · intro election isPolling isCandidate
      have own := ballots.own election isPolling isCandidate
      simp only at apart
      omega
    · intro other isOther
      rcases List.mem_or_eq_of_mem_set isOther with old | rfl
      · exact ballots.others other old
      · exact apart
    · intro other isOther isChecked
      rcases List.mem_or_eq_of_mem_set isOther with old | rfl
      · exact ballots.checked other old isChecked
      · rw [notChecked] at isChecked; cases isChecked
    · intro other isOther granted
      rcases List.mem_or_eq_of_mem_set isOther with old | rfl
      · obtain ⟨oldNonneg, past, _⟩ := ballots.current other old granted
        exact ⟨oldNonneg, past, fun sameTerm =>
          (same other old granted (sameTerm.trans inTerm)).symm⟩
      · exact ⟨nonneg, inTerm.ge, fun _ => rfl⟩
    · intro left isLeft right isRight grantedLeft grantedRight sameTerm
      rcases List.mem_or_eq_of_mem_set isLeft with oldLeft | rfl <;>
        rcases List.mem_or_eq_of_mem_set isRight with oldRight | rfl
      · exact ballots.unique left oldLeft right oldRight grantedLeft grantedRight sameTerm
      · exact same left oldLeft grantedLeft sameTerm
      · exact (same right oldRight grantedRight sameTerm.symm).symm
      · rfl

/-- A handler that records a vote does so in the term that its candidate asked
for. -/
def InTerm (voter : Voter) : VoterEvent → Prop
  | .voteStep thread => ∀ handler ∈ voter.votes[thread]?, handler.2.records = true →
      voter.node.oned.raft.term = handler.1.candidateTerm
  | _ => True

instance (voter : Voter) (event : VoterEvent) : Decidable (InTerm voter event) := by
  cases event <;> unfold InTerm <;> infer_instance

theorem Ballots.step (ballots : Ballots voter) (inTerm : InTerm voter event)
    (stepped : Voter.step servers voter event = some next) : Ballots next := by
  have same : ∀ thread ∈ voter.votes, thread ∈ voter.votes ∨ (thread.2.granted = false ∧
      thread.1.candidateId ≠ voter.node.oned.raft.serverId ∧
      (thread.2.checked = true → 0 ≤ thread.1.candidateId)) := fun _ inside => .inl inside
  cases event with
  | vote request =>
    simp only [Voter.step] at stepped
    split at stepped
    · contradiction
    · rename_i apart
      rw [← Option.some.inj stepped]
      refine ballots.calm (Calm.refl _) ballots.own fun thread inside => ?_
      rcases List.mem_append.1 inside with old | new
      · exact .inl old
      · rw [List.mem_singleton.1 new]
        exact .inr ⟨rfl, apart, fun isChecked => by cases isChecked⟩
  | voteStep thread =>
    simp only [Voter.step] at stepped
    split at stepped
    · contradiction
    · rename_i request phase found
      rw [Option.map_eq_some_iff] at stepped
      obtain ⟨⟨oned, answered⟩, isStep, rfl⟩ := stepped
      have inside := List.mem_of_getElem? found
      rcases VoteRequest.step_cases isStep with
        ⟨calm, notGranted, isChecked⟩ | ⟨records, _, notChecked, updated⟩
      · refine ballots.calm calm.toCalm (ballots.own.call calm) fun other isOther => ?_
        rcases List.mem_or_eq_of_mem_set isOther with old | rfl
        · exact .inl old
        · exact .inr ⟨notGranted, ballots.others (request, phase) inside, fun checked =>
            (isChecked checked).elim (ballots.checked (request, phase) inside) id⟩
      · refine ballots.vote found ?_ (inTerm _ found records) updated notChecked
        cases phase <;> first | rfl | cases records
  | replicate params oneadmin =>
    rw [← Option.some.inj stepped]
    exact ballots.calm (Calm.refl _) ballots.own same
  | replicateStep thread answers rc =>
    simp only [Voter.step] at stepped
    split at stepped
    · contradiction
    · rw [Option.map_eq_some_iff] at stepped
      obtain ⟨⟨oned, answered⟩, isStep, rfl⟩ := stepped
      have calm := ReplicateLogParams.step_calm isStep
      exact ballots.calm calm.toCalm (ballots.own.call calm) same
  | stepDown term =>
    rw [← Option.some.inj stepped]
    have calm := CalmCall.follower voter.node.oned term
    exact ballots.calm calm.toCalm (ballots.own.call calm) same
  | timeout =>
    obtain ⟨node, isNode, rfl⟩ := Option.map_eq_some_iff.1 stepped
    obtain ⟨calm, own⟩ := OwnVote.timeout isNode
    exact ballots.calm calm own same
  | startElection =>
    obtain ⟨node, isNode, rfl⟩ := Option.map_eq_some_iff.1 stepped
    obtain ⟨calm, own⟩ := OwnVote.startElection isNode
    exact ballots.calm calm own same
  | voteCall call =>
    obtain ⟨node, isNode, rfl⟩ := Option.map_eq_some_iff.1 stepped
    obtain ⟨calm, own⟩ := ballots.own.voteCall isNode
    exact ballots.calm calm own same
  | voteReply reply =>
    obtain ⟨node, isNode, rfl⟩ := Option.map_eq_some_iff.1 stepped
    obtain ⟨calm, own⟩ := ballots.own.voteReply isNode
    exact ballots.calm calm own same
  | endElection =>
    obtain ⟨node, isNode, rfl⟩ := Option.map_eq_some_iff.1 stepped
    obtain ⟨calm, own⟩ := ballots.own.endElection isNode
    exact ballots.calm calm own same

/-- No two candidates that asked with the same term got a success. -/
def VoteUniqueness (voter : Voter) : Prop :=
  ∀ request phase other phase', (request, phase) ∈ voter.votes → (other, phase') ∈ voter.votes →
    phase.granted = true → phase'.granted = true → request.candidateTerm = other.candidateTerm →
    request.candidateId = other.candidateId

theorem vote_uniqueness (nonneg : 0 ≤ id)
    (reached : (Voter.system id servers).Reachable InTerm voter) : VoteUniqueness voter := by
  have ballots : Ballots voter := by
    refine reached.invariant ?_ fun _ _ _ ballots inTerm stepped => ballots.step inTerm stepped
    rintro start ⟨stored, now, rfl⟩
    exact ⟨nonneg, fun _ isPolling => (by cases isPolling), fun _ inside => (by cases inside),
      fun _ inside => (by cases inside), fun _ inside => (by cases inside),
      fun _ inside => (by cases inside)⟩
  intro request phase other phase' inside inOther granted granted' sameTerm
  exact ballots.unique _ inside _ inOther granted granted' sameTerm

/-- The stored state of a new server. -/
def emptyLog : LogDB :=
  { solo := false, cache := false, table := ∅, raftState := none, executed := [], nextIndex := 0,
    lastApplied := 0, lastIndex := 0, lastTerm := 0, fedLog := ∅ }

/-- Servers 1 and 2 ask for term 1, server 3 for term 2.  The handler of server 2
has read term 1 when the one of server 3 starts term 2, without a vote in it. -/
def lateVote : List VoterEvent :=
  [.vote ⟨1, 1, 0, 0, true⟩, .voteStep 0, .voteStep 0, .voteStep 0, .voteStep 0,
    .vote ⟨1, 2, 0, 0, true⟩, .voteStep 1, .voteStep 1,
    .vote ⟨2, 3, 0, 0, true⟩, .voteStep 2, .voteStep 2, .voteStep 2,
    .voteStep 1]

theorem vote_uniqueness_late_vote : ∃ voter, (Voter.system 0 [0, 1, 2, 3]).Reachable System.anyStep voter ∧
      ¬ VoteUniqueness voter := by
  have ran : (((Voter.system 0 [0, 1, 2, 3]).exec System.anyStep
      { node := Node.start 0 emptyLog [0, 1, 2, 3] "0", votes := [], replicas := [] }
      lateVote).map fun voter => voter.votes) =
      some [(⟨1, 1, 0, 0, true⟩, .answered ⟨.success, 0, ""⟩), (⟨1, 2, 0, 0, true⟩, .answered ⟨.success, 1, ""⟩),
        (⟨2, 3, 0, 0, true⟩, .updateVotedfor 1)] := by
    decide
  obtain ⟨voter, ran, isVotes⟩ := Option.map_eq_some_iff.mp ran
  refine ⟨voter, System.reachable_of_exec ⟨_, _, rfl⟩ ran, fun unique => ?_⟩
  have same := unique ⟨1, 1, 0, 0, true⟩ (.answered ⟨.success, 0, ""⟩) ⟨1, 2, 0, 0, true⟩
    (.answered ⟨.success, 1, ""⟩) (by rw [isVotes]; simp) (by rw [isVotes]; simp) rfl rfl rfl
  exact absurd same (by decide)

/-- Server 1 gets the vote of term 1 and server 2 that of term 2. -/
theorem vote_uniqueness_two_terms : ∃ voter, (Voter.system 0 [0, 1, 2, 3]).Reachable InTerm voter ∧
      voter.votes.map (fun handler => handler.2.granted) = [true, false, true] ∧ VoteUniqueness voter := by
  have ran : (((Voter.system 0 [0, 1, 2, 3]).exec InTerm
      { node := Node.start 0 emptyLog [0, 1, 2, 3] "0", votes := [], replicas := [] }
      [.vote ⟨1, 1, 0, 0, true⟩, .vote ⟨1, 2, 0, 0, true⟩, .voteStep 0, .voteStep 1, .voteStep 0,
        .voteStep 1, .voteStep 0, .voteStep 1, .voteStep 0, .voteStep 1, .vote ⟨2, 2, 0, 0, true⟩,
        .voteStep 2, .voteStep 2, .voteStep 2, .voteStep 2]).map fun voter =>
        voter.votes.map fun handler => handler.2.granted) = some [true, false, true] := by
    decide
  obtain ⟨voter, ran, granted⟩ := Option.map_eq_some_iff.mp ran
  have reached : (Voter.system 0 [0, 1, 2, 3]).Reachable InTerm voter := System.reachable_of_exec ⟨_, _, rfl⟩ ran
  exact ⟨voter, reached, granted, vote_uniqueness (by decide) reached⟩

end OpenNebula.Raft
