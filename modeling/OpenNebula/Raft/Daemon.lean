import OpenNebula.Raft.Writers

namespace OpenNebula.Raft

open Library Sql

/-! # One server and its clients

The calls of `RaftManager` and `LogDB` on one server, each of which runs under
its lock, in any order: client writes, the replies that replication threads get,
changes of the servers of the zone, elections, and the requests of other leaders.
What the other servers do is an input.
-/

inductive DaemonEvent where
  /-- `_exec_wr` up to the inserted record -/
  | write (cmd : String) (federated : Option Nat)
  | replicate (writer : Nat)
  | wake (writer : Nat)
  | apply (writer : Nat) (rc : Nat → SqlError)
  | replicateSuccess (followerId : Int)
  | replicateFailure (followerId : Int)
  | addServer (followerId : Int)
  | deleteServer (followerId : Int)
  | resetIndex (followerId : Int)
  /-- `timer_action` of a follower without heartbeats -/
  | timeout
  /-- a round of `request_vote` -/
  | startElection (servers : List Int)
  | leader
  | follower (term : Nat)
  | receive (params : ReplicateLogParams) (rc : Nat → SqlError)

namespace Daemon

def step (node : Node) : DaemonEvent → Option Node
  | .write cmd federated => node.write cmd federated
  | .replicate writer => node.replicate writer
  | .wake writer => node.wake writer
  | .apply writer rc => node.apply writer rc
  | .replicateSuccess followerId =>
    some (node.setRaft (node.oned.raft.replicateSuccess followerId node.oned.logdb.lastIndex))
  | .replicateFailure followerId =>
    some (node.setRaft (node.oned.raft.replicateFailure followerId))
  | .addServer followerId =>
    some (node.setRaft (node.oned.raft.addServer followerId node.oned.logdb.lastIndex))
  | .deleteServer followerId => some (node.setRaft (node.oned.raft.deleteServer followerId))
  | .resetIndex followerId =>
    some (node.setRaft (node.oned.raft.resetIndex followerId node.oned.logdb.lastIndex))
  | .timeout =>
    if node.oned.raft.state = .follower then
      some (node.setRaft { node.oned.raft with state := .candidate })
    else none
  | .startElection servers =>
    if node.oned.raft.state = .candidate then
      some { node with oned := node.oned.startElection servers }
    else none
  | .leader => if node.oned.raft.state = .candidate then some node.becomeLeader else none
  | .follower term => some { node with oned := node.oned.follower term }
  | .receive params rc =>
    some { node with oned := (ZoneAPI.replicateLog node.oned {} params true rc).1 }

def system (id : Int) (servers : List Int) : System Node DaemonEvent where
  initial := fun node => ∃ stored now, node = Node.start id stored servers now
  step := step

end Daemon

variable {node next : Node} {event : DaemonEvent} {id : Int} {servers : List Int}

structure SameRequests (before after : Node) : Prop where
  requests : after.oned.raft.requests = before.oned.raft.requests
  writers : after.writers = before.writers
  nextWriter : after.nextWriter = before.nextWriter

theorem SameRequests.of_raft {raft : RaftManager} (same : raft.requests = node.oned.raft.requests) :
    SameRequests node (node.setRaft raft) := ⟨same, rfl, rfl⟩

theorem Waiting.sameRequests (waiting : Waiting node) (same : SameRequests node next) : Waiting next := by
  refine ⟨?_, ?_, ?_⟩
  · rw [same.writers, same.nextWriter]; exact waiting.known
  · rw [same.writers, same.nextWriter, same.requests]; exact waiting.object
  · rw [same.requests]; exact waiting.slot

inductive DaemonChange (node : Node) : DaemonEvent → Node → Prop where
  | same {event : DaemonEvent} {after : Node} (same : SameRequests node after)
      (leads : after.oned.raft.state = .leader → node.oned.raft.state = .leader)
      (commit : node.oned.raft.state = .leader → (∃ params rc, event = .receive params rc) ∨
          (after.oned.raft.commit = node.oned.raft.commit ∧ after.oned.logdb.nextIndex = node.oned.logdb.nextIndex)) :
      DaemonChange node event after
  | clear {event : DaemonEvent} {after : Node} (writers : after.writers = node.writers)
      (nextWriter : after.nextWriter = node.nextWriter)
      (requests : after.oned.raft.requests = node.oned.raft.requests.clear)
      (state : after.oned.raft.state = .follower) : DaemonChange node event after
  | write {cmd : String} {federated : Option Nat} {after : Node}
      (stepped : node.write cmd federated = some after) :
      DaemonChange node (.write cmd federated) after
  | replicate {writer : Nat} {after : Node} (stepped : node.replicate writer = some after) :
      DaemonChange node (.replicate writer) after
  | wake {writer : Nat} {after : Node} (stepped : node.wake writer = some after) :
      DaemonChange node (.wake writer) after
  | apply {writer : Nat} {rc : Nat → SqlError} {after : Node}
      (stepped : node.apply writer rc = some after) : DaemonChange node (.apply writer rc) after
  | success {followerId : Int} : DaemonChange node (.replicateSuccess followerId)
      (node.setRaft (node.oned.raft.replicateSuccess followerId node.oned.logdb.lastIndex))
  | lead (isCandidate : node.oned.raft.state = .candidate) :
      DaemonChange node .leader node.becomeLeader

theorem Daemon.step_change (stepped : Daemon.step node event = some next) : DaemonChange node event next := by
  cases event with
  | write => exact .write stepped
  | replicate => exact .replicate stepped
  | wake => exact .wake stepped
  | apply => exact .apply stepped
  | replicateSuccess followerId =>
    rw [← Option.some.inj stepped]
    exact .success
  | replicateFailure followerId =>
    rw [← Option.some.inj stepped]
    obtain ⟨_, _, _, _, isFailure⟩ := node.oned.raft.replicateFailure_cases followerId
    exact .same (.of_raft (by rw [isFailure])) (by rw [isFailure]; exact id)
      fun _ => .inr (by rw [isFailure]; exact ⟨rfl, rfl⟩)
  | addServer followerId =>
    rw [← Option.some.inj stepped]
    simp only [RaftManager.addServer]
    split
    · exact .same (.of_raft rfl) id fun _ => .inr ⟨rfl, rfl⟩
    · exact .same (.of_raft rfl) id fun _ => .inr ⟨rfl, rfl⟩
  | deleteServer followerId =>
    rw [← Option.some.inj stepped]
    simp only [RaftManager.deleteServer]
    split
    · exact .same (.of_raft rfl) id fun _ => .inr ⟨rfl, rfl⟩
    · exact .same (.of_raft rfl) id fun _ => .inr ⟨rfl, rfl⟩
  | resetIndex followerId =>
    rw [← Option.some.inj stepped]
    exact .same (.of_raft rfl) id fun _ => .inr ⟨rfl, rfl⟩
  | timeout =>
    simp only [Daemon.step] at stepped
    split at stepped
    · rename_i isFollower
      rw [← Option.some.inj stepped]
      exact .same (.of_raft rfl) (fun leads => by cases leads)
        fun isLeader => by rw [isFollower] at isLeader; cases isLeader
    · contradiction
  | startElection servers =>
    simp only [Daemon.step] at stepped
    split at stepped
    · rename_i isCandidate
      rw [← Option.some.inj stepped]
      exact .same ⟨rfl, rfl, rfl⟩ id
        fun isLeader => by rw [isCandidate] at isLeader; cases isLeader
    · contradiction
  | leader =>
    simp only [Daemon.step] at stepped
    split at stepped
    · rename_i isCandidate
      rw [← Option.some.inj stepped]
      exact .lead isCandidate
    · contradiction
  | follower term =>
    rw [← Option.some.inj stepped]
    exact .clear rfl rfl (by simp [Oned.follower]) (by simp [Oned.follower])
  | receive params rc =>
    rw [← Option.some.inj stepped]
    rcases ZoneAPI.replicateLog_raft node.oned params rc with
      ⟨commit, leaderId, isRaft⟩ | ⟨applied, commit, leaderId, isRaft⟩
    · exact .same ⟨by rw [isRaft], rfl, rfl⟩ (by rw [isRaft]; exact id)
        fun _ => .inl ⟨params, rc, rfl⟩
    · exact .clear rfl rfl (by rw [isRaft]; simp) (by rw [isRaft]; simp)

theorem Waiting.daemon (waiting : Waiting node) (change : DaemonChange node event next) : Waiting next := by
  cases change with
  | same same _ _ => exact waiting.sameRequests same
  | clear writers nextWriter requests => exact waiting.clear writers nextWriter requests
  | write stepped =>
    obtain ⟨_, oned, rindex, inserted, rfl⟩ := Node.write_cases stepped
    exact waiting.write inserted
  | replicate stepped => exact waiting.replicate stepped
  | wake stepped =>
    obtain ⟨found, rr, isWriter, _, _, _, ⟨_, _, rfl⟩ | ⟨_, rfl⟩⟩ := Node.wake_cases stepped
    · exact waiting.setPhase isWriter _ (by simp)
    · exact waiting.finish isWriter _
  | @apply _ rc _ stepped =>
    obtain ⟨found, isWriter, _, rfl⟩ := Node.apply_cases stepped
    exact (waiting.setLogdb (node.oned.logdb.applyLogRecords found.rindex rc).1).finish isWriter _
  | success => exact waiting.success
  | lead isCandidate => exact waiting.becomeLeader isCandidate

/-- A request that was passed to `replicate_log` is notified at most once, and
stands in the map under its index until then. -/
def Present (node : Node) : Prop :=
  ∀ number rr, node.oned.raft.requests.objects.lookup number = some rr →
    rr.notified ≤ 1 ∧
      (rr.notified = 0 → node.oned.raft.requests.requests.lookup rr.index = some (some number))

section

variable (present : Present node)
include present

theorem Present.of_requests (requests : next.oned.raft.requests = node.oned.raft.requests) : Present next := by
  rw [Present, requests]; exact present

/-- Everybody that `clear` finds in the map is notified, once. -/
theorem Present.clear (waiting : Waiting node)
    (requests : next.oned.raft.requests = node.oned.raft.requests.clear) : Present next := by
  intro number rr isObject
  rw [requests, ReplicaRequestMap.lookup_clear, Option.map_eq_some_iff] at isObject
  obtain ⟨before, isBefore, rfl⟩ := isObject
  have only : ∀ other, node.oned.raft.requests.requests.lookup other = some (some number) →
      other = before.index := by
    intro other isSlot
    obtain ⟨found, isFound, isIndex, _⟩ := waiting.slot other number isSlot
    rw [isBefore, Option.some.injEq] at isFound
    rw [isFound, isIndex]
  obtain ⟨once, inMap⟩ := present number before isBefore
  rw [ReplicaRequestMap.iterate_stepDown_notified, ReplicaRequestMap.references_eq only]
  split
  · rename_i isSlot
    obtain ⟨found, isFound, _, notNotified⟩ := waiting.slot _ number isSlot
    rw [isBefore, Option.some.injEq] at isFound
    rw [isFound, notNotified]
    exact ⟨Nat.le_refl _, fun zero => absurd zero (by omega)⟩
  · rename_i noSlot
    exact ⟨once, fun zero => absurd (inMap zero) noSlot⟩

theorem Present.allocate {rindex : Nat}
    (requests : next.oned.raft.requests = node.oned.raft.requests.allocate rindex) : Present next := by
  intro number rr isObject
  rw [requests] at isObject ⊢
  obtain ⟨once, inMap⟩ := present number rr isObject
  refine ⟨once, fun zero => ?_⟩
  have isSlot := inMap zero
  rw [ReplicaRequestMap.allocate]
  by_cases same : rr.index = rindex
  · rw [same] at isSlot ⊢
    rw [Map.lookup_insertNew_self, isSlot]
    rfl
  · rw [Map.lookup_insertNew_ne same]
    exact isSlot

theorem Present.success {followerId : Int} {dbLindex : Nat} (waiting : Waiting node) :
    Present (node.setRaft (node.oned.raft.replicateSuccess followerId dbLindex)) := by
  rcases node.oned.raft.replicateSuccess_cases followerId dbLindex with
    ⟨_, same⟩ | ⟨index, pool, _, _, isSuccess⟩
  · rw [same]; exact present
  · rw [isSuccess]
    rcases node.oned.raft.requests.addReplica_cases index with
      ⟨_, slots, objects, _⟩ | ⟨pointer, rr, isSlot, isObject, isMap, _⟩
    · intro number found isFound
      simp only [Node.setRaft, objects, slots] at isFound ⊢
      exact present number found isFound
    · intro number found isFound
      simp only [Node.setRaft, isMap, ReplicaRequestMap.lookup_update] at isFound ⊢
      obtain ⟨before, isBefore, rfl⟩ := Option.map_eq_some_iff.1 isFound
      obtain ⟨once, inMap⟩ := present number before isBefore
      by_cases here : number = pointer
      · subst here
        rw [isBefore, Option.some.injEq] at isObject
        subst isObject
        obtain ⟨_, isSame, isIndex, notNotified⟩ := waiting.slot index number isSlot
        rw [isBefore, Option.some.injEq] at isSame
        subst isSame
        rw [if_pos rfl, ReplicaRequest.addReplica_index, isIndex]
        by_cases done : before.addReplica.toCommit = 0
        · rw [(ReplicaRequest.addReplica_done done).1, notNotified]
          exact ⟨Nat.le_refl _, fun zero => absurd zero (by omega)⟩
        · rw [(ReplicaRequest.addReplica_pending done).1, if_neg done]
          exact ⟨once, fun _ => isSlot⟩
      · rw [if_neg here]
        refine ⟨once, fun zero => ?_⟩
        have kept := inMap zero
        split
        · rw [Map.lookup_erase_eq, if_neg]
          · exact kept
          · intro same
            rw [same, isSlot, Option.some.injEq, Option.some.injEq] at kept
            exact here kept.symm
        · exact kept

/-- `replicate_log` for an index under which nobody else waits. -/
theorem Present.replicate {number : Nat} (free : ∀ writer ∈ node.writers.lookup number, ∀ pointer,
      node.oned.raft.requests.requests.lookup writer.rindex ≠ some (some pointer))
    (stepped : node.replicate number = some next) : Present next := by
  obtain ⟨writer, rr, slot, replicates⟩ := Node.replicate_replicates stepped
  intro other found isObject
  rw [replicates.objects] at isObject
  rw [replicates.slots]
  split at isObject
  · rename_i same
    subst same
    rw [← Option.some.inj isObject, if_pos replicates.outcome.index]
    have outcome := replicates.outcome
    generalize next.oned.raft.commit = commit at outcome
    cases outcome with
    | refused | committed => exact ⟨Nat.le_refl _, fun zero => by cases zero⟩
    | waits => exact ⟨Nat.zero_le _, fun _ => rfl⟩
  · obtain ⟨once, inMap⟩ := present other found isObject
    refine ⟨once, fun zero => ?_⟩
    rw [if_neg]
    · exact inMap zero
    · intro same
      exact free writer replicates.isWriter other (same ▸ inMap zero)

end

/-- The requests of the clients that called `replicate_log` exist. -/
def Passed (node : Node) : Prop :=
  ∀ number writer, node.writers.lookup number = some writer → writer.phase ≠ .inserted →
    ∃ rr, node.oned.raft.requests.objects.lookup number = some rr

theorem Passed.mono (passed : Passed node) (writers : ∀ number writer, next.writers.lookup number = some writer →
      writer.phase ≠ .inserted → ∃ before, node.writers.lookup number = some before ∧ before.phase ≠ .inserted)
    (objects : ∀ number, (∃ rr, node.oned.raft.requests.objects.lookup number = some rr) →
      ∃ rr, next.oned.raft.requests.objects.lookup number = some rr) : Passed next := by
  intro number writer isWriter moved
  obtain ⟨before, isBefore, movedBefore⟩ := writers number writer isWriter moved
  exact objects number (passed number before isBefore movedBefore)

theorem Passed.same_writers (same : next.writers = node.writers) :
    ∀ number writer, next.writers.lookup number = some writer → writer.phase ≠ .inserted →
      ∃ before, node.writers.lookup number = some before ∧ before.phase ≠ .inserted := by
  rw [same]
  exact fun _ writer isWriter moved => ⟨writer, isWriter, moved⟩

theorem Passed.setPhase {number : Nat} {writer : Writer} {phase : WriterPhase}
    (isWriter : node.writers.lookup number = some writer) (moved : writer.phase ≠ .inserted)
    (writers : next.writers = node.writers.insert number { writer with phase }) :
    ∀ other found, next.writers.lookup other = some found → found.phase ≠ .inserted →
      ∃ before, node.writers.lookup other = some before ∧ before.phase ≠ .inserted := by
  intro other found isFound foundMoved
  rw [writers, Map.lookup_insert_eq] at isFound
  split at isFound
  · rename_i same
    exact ⟨writer, same ▸ isWriter, moved⟩
  · exact ⟨found, isFound, foundMoved⟩

/-- A new thread has not called `replicate_log`. -/
theorem Passed.push {number : Nat} {writer : Writer} (inserted : writer.phase = .inserted)
    (writers : next.writers = node.writers.insert number writer) :
    ∀ other found, next.writers.lookup other = some found → found.phase ≠ .inserted →
      ∃ before, node.writers.lookup other = some before ∧ before.phase ≠ .inserted := by
  intro other found isFound moved
  rw [writers, Map.lookup_insert_eq] at isFound
  split at isFound
  · rw [← Option.some.inj isFound] at moved
    exact absurd inserted moved
  · exact ⟨found, isFound, moved⟩

theorem ReplicaRequestMap.clear_exists {map : ReplicaRequestMap} (number : Nat)
    (isObject : ∃ rr, map.objects.lookup number = some rr) : ∃ rr, map.clear.objects.lookup number = some rr := by
  obtain ⟨rr, found⟩ := isObject
  rw [ReplicaRequestMap.lookup_clear, found]
  exact ⟨_, rfl⟩

theorem RaftManager.replicateSuccess_exists (raft : RaftManager) (followerId : Int)
    (dbLindex number : Nat) (isObject : ∃ rr, raft.requests.objects.lookup number = some rr) :
    ∃ rr, (raft.replicateSuccess followerId dbLindex).requests.objects.lookup number = some rr := by
  rcases raft.replicateSuccess_cases followerId dbLindex with
    ⟨_, same⟩ | ⟨index, pool, _, _, isSuccess⟩
  · rw [same]; exact isObject
  · rw [isSuccess]
    obtain ⟨rr, found⟩ := isObject
    rcases raft.requests.addReplica_cases index with
      ⟨_, _, objects, _⟩ | ⟨pointer, _, _, _, isMap, _⟩
    · exact ⟨rr, (objects number).trans found⟩
    · rw [isMap]
      dsimp only
      rw [ReplicaRequestMap.lookup_update, found]
      exact ⟨_, rfl⟩

theorem Node.becomeLeader_writers (node : Node) : node.becomeLeader.writers = node.writers ∨
      ∃ number writer, writer.phase = .inserted ∧ node.becomeLeader.writers = node.writers.insert number writer := by
  simp only [Node.becomeLeader]
  split
  · exact .inr ⟨_, _, rfl, rfl⟩
  · exact .inl rfl

theorem Node.becomeLeader_requests (isCandidate : node.oned.raft.state = .candidate) :
    node.becomeLeader.oned.raft.requests = node.oned.raft.requests.clear := by
  rw [node.becomeLeader_eq.1]
  simp [Oned.leader, RaftManager.leader, isCandidate]

theorem Node.write_requests {cmd : String} {federated : Option Nat} (stepped : node.write cmd federated = some next) :
    ∃ rindex, next.oned.raft = node.oned.raft.replicateAllocate rindex ∧
      rindex = node.oned.logdb.nextIndex ∧ next.oned.logdb.nextIndex = rindex + 1 ∧
      next.writers = node.writers.insert node.nextWriter
        { cmd := some cmd, term := node.oned.raft.term, rindex, phase := .inserted } := by
  obtain ⟨_, oned, rindex, inserted, rfl⟩ := Node.write_cases stepped
  simp only [Oned.insertLogRecord, Option.map_eq_some_iff] at inserted
  obtain ⟨⟨logdb, index⟩, isLogdb, isOned⟩ := inserted
  obtain ⟨rfl, rfl⟩ := Prod.mk.inj isOned
  simp only [LogDB.insertLogRecord] at isLogdb
  split at isLogdb
  · contradiction
  · rename_i stored isStored
    obtain ⟨rfl, rfl⟩ := Prod.mk.inj (Option.some.inj isLogdb)
    refine ⟨_, rfl, rfl, ?_, rfl⟩
    have kept : stored.nextIndex = node.oned.logdb.nextIndex := by
      simp only [LogDB.insert] at isStored
      split at isStored
      · rw [← Option.some.inj isStored]
      · repeat' split at isStored
        all_goals first | contradiction | rw [← Option.some.inj isStored]
    generalize (if federated = some 0 then some node.oned.logdb.nextIndex else federated) = fed
    cases fed <;> simp [LogDB.noteFederated, kept]

theorem Passed.step (passed : Passed node) (change : DaemonChange node event next) : Passed next := by
  cases change with
  | same same _ _ =>
    exact passed.mono (Passed.same_writers same.writers) (by rw [same.requests]; exact fun _ => id)
  | clear writers _ requests =>
    exact passed.mono (Passed.same_writers writers)
      (by rw [requests]; exact ReplicaRequestMap.clear_exists)
  | write stepped =>
    obtain ⟨rindex, isRaft, _, _, writers⟩ := Node.write_requests stepped
    exact passed.mono (Passed.push rfl writers) (by rw [isRaft]; exact fun _ => id)
  | @replicate number _ stepped =>
    obtain ⟨writer, rr, slot, replicates⟩ := Node.replicate_replicates stepped
    intro other found isFound moved
    rw [replicates.objects]
    split
    · exact ⟨rr, rfl⟩
    · rename_i apart
      rw [replicates.writers, Map.lookup_insert_eq, if_neg apart] at isFound
      exact passed other found isFound moved
  | wake stepped =>
    obtain ⟨found, rr, isWriter, _, phase, _, ⟨_, _, rfl⟩ | ⟨_, rfl⟩⟩ := Node.wake_cases stepped
    · exact passed.mono (Passed.setPhase isWriter (by rw [phase]; simp) rfl) fun _ => id
    · refine passed.mono (Passed.setPhase isWriter (by rw [phase]; simp) (Node.finish_cases _ _ _ _).1) ?_
      rw [Node.finish_requests]
      exact fun _ => id
  | apply stepped =>
    obtain ⟨found, isWriter, phase, rfl⟩ := Node.apply_cases stepped
    refine passed.mono (Passed.setPhase isWriter (by rw [phase]; simp) (Node.finish_cases _ _ _ _).1) ?_
    rw [Node.finish_requests]
    exact fun _ => id
  | success =>
    exact passed.mono (fun _ writer isWriter moved => ⟨writer, isWriter, moved⟩)
      (node.oned.raft.replicateSuccess_exists _ _)
  | lead isCandidate =>
    have objects : ∀ number, (∃ rr, node.oned.raft.requests.objects.lookup number = some rr) →
        ∃ rr, node.becomeLeader.oned.raft.requests.objects.lookup number = some rr := by
      rw [Node.becomeLeader_requests isCandidate]
      exact ReplicaRequestMap.clear_exists
    rcases node.becomeLeader_writers with same | ⟨_, _, inserted, pushed⟩
    · exact passed.mono (Passed.same_writers same) objects
    · exact passed.mono (Passed.push inserted pushed) objects

/-- When a client calls `replicate_log`, no request is set under its index. -/
def FreeSlot (node : Node) : DaemonEvent → Prop
  | .replicate number => ∀ writer ∈ node.writers.lookup number,
      ∀ slot ∈ node.oned.raft.requests.requests.lookup writer.rindex, slot = none
  | _ => True

instance (node : Node) (event : DaemonEvent) : Decidable (FreeSlot node event) := by
  cases event <;> unfold FreeSlot <;> infer_instance

theorem Present.step (present : Present node) (waiting : Waiting node) (free : FreeSlot node event)
    (change : DaemonChange node event next) : Present next := by
  cases change with
  | same same _ _ => exact present.of_requests same.requests
  | clear _ _ requests => exact present.clear waiting requests
  | write stepped =>
    obtain ⟨rindex, isRaft, _⟩ := Node.write_requests stepped
    exact present.allocate (by rw [isRaft]; rfl)
  | replicate stepped =>
    exact present.replicate (fun writer isWriter pointer isSlot => by
      cases free writer isWriter _ isSlot) stepped
  | wake stepped =>
    obtain ⟨found, rr, _, _, _, _, ⟨_, _, rfl⟩ | ⟨_, rfl⟩⟩ := Node.wake_cases stepped
    · exact present.of_requests rfl
    · exact present.of_requests (Node.finish_requests _ _ _ _)
  | apply stepped =>
    obtain ⟨found, _, _, rfl⟩ := Node.apply_cases stepped
    exact present.of_requests (Node.finish_requests _ _ _ _)
  | success => exact present.success waiting
  | lead isCandidate => exact present.clear waiting (Node.becomeLeader_requests isCandidate)

/-- Every client that called `replicate_log` is notified at most once, and its
request stands under its index until it is. -/
def NoLostWaiter (node : Node) : Prop :=
  ∀ number writer, node.writers.lookup number = some writer → writer.phase ≠ .inserted →
    ∃ rr, node.oned.raft.requests.objects.lookup number = some rr ∧ rr.index = writer.rindex ∧
      rr.notified ≤ 1 ∧ (rr.notified = 0 → node.oned.raft.requests.requests.lookup writer.rindex = some (some number))

theorem no_lost_waiter (reached : (Daemon.system id servers).Reachable FreeSlot node) : NoLostWaiter node := by
  have all : Waiting node ∧ Passed node ∧ Present node := by
    refine @System.Reachable.invariant _ _ _ _
      (fun node => Waiting node ∧ Passed node ∧ Present node) _ reached ?_ ?_
    · rintro start ⟨stored, now, rfl⟩
      refine ⟨Waiting.start _ _ _, fun number writer isWriter => ?_, fun number rr isObject => ?_⟩
      · simp [Node.start] at isWriter
      · simp [Node.start, Oned.start, RaftManager.make] at isObject
    · rintro before event after ⟨waiting, passed, present⟩ free stepped
      have change := Daemon.step_change stepped
      exact ⟨waiting.daemon change, passed.step change, present.step waiting free change⟩
  obtain ⟨waiting, passed, present⟩ := all
  intro number writer isWriter moved
  obtain ⟨rr, isObject⟩ := passed number writer isWriter moved
  have isIndex := ((waiting.object number rr isObject).2 writer isWriter).2
  obtain ⟨once, inMap⟩ := present number rr isObject
  exact ⟨rr, isObject, isIndex, once, by rw [← isIndex]; exact inMap⟩

/-- The server steps down before a client calls `replicate_log` for record 1, and
is elected again: the thread of the new leader waits under the same index. -/
def sameIndex : List DaemonEvent :=
  [.timeout, .startElection [0, 1, 2], .leader, .write "INSERT" none, .follower 2, .timeout,
    .startElection [0, 1, 2], .leader, .replicate 1, .replicate 0]

theorem no_lost_waiter_same_index :
    ∃ node, (Daemon.system 0 [0, 1, 2]).Reachable System.anyStep node ∧ ¬ NoLostWaiter node := by
  have ran : (((Daemon.system 0 [0, 1, 2]).exec System.anyStep (Node.boot 0 [0, 1, 2] 0)
      sameIndex).map fun node => (node.writers.lookup 1,
        (node.oned.raft.requests.objects.lookup 1).map ReplicaRequest.notified,
        node.oned.raft.requests.requests.lookup 1)) =
      some (some ⟨none, 3, 1, .waiting⟩, some 0, some (some 0)) := by
    decide
  obtain ⟨node, ran, isState⟩ := Option.map_eq_some_iff.mp ran
  simp only [Prod.mk.injEq] at isState
  obtain ⟨isWriter, notNotified, isSlot⟩ := isState
  refine ⟨node, System.reachable_of_exec ⟨_, _, rfl⟩ ran, fun waiter => ?_⟩
  obtain ⟨rr, isObject, _, _, inMap⟩ := waiter 1 _ isWriter (by simp)
  rw [isObject, Option.map_some, Option.some.injEq] at notNotified
  have lost := isSlot.symm.trans (inMap notNotified)
  simp at lost

/-- Two clients wait for their records; one reply notifies the first. -/
theorem no_lost_waiter_two_clients : ∃ node, (Daemon.system 0 [0, 1, 2]).Reachable FreeSlot node ∧
      (node.oned.raft.requests.objects.lookup 0).map ReplicaRequest.notified = some 1 ∧
      (node.oned.raft.requests.objects.lookup 1).map ReplicaRequest.notified = some 0 ∧ NoLostWaiter node := by
  have ran : (((Daemon.system 0 [0, 1, 2]).exec FreeSlot (Node.boot 0 [0, 1, 2] 0)
      [.timeout, .startElection [0, 1, 2], .leader, .write "INSERT" none, .write "DELETE" none,
        .replicate 1, .replicate 0, .replicateSuccess 1]).map fun node =>
        ((node.oned.raft.requests.objects.lookup 0).map ReplicaRequest.notified,
          (node.oned.raft.requests.objects.lookup 1).map ReplicaRequest.notified)) =
      some (some 1, some 0) := by
    decide
  obtain ⟨node, ran, isState⟩ := Option.map_eq_some_iff.mp ran
  obtain ⟨first, second⟩ := Prod.mk.inj isState
  have reached : (Daemon.system 0 [0, 1, 2]).Reachable FreeSlot node := System.reachable_of_exec ⟨_, _, rfl⟩ ran
  exact ⟨node, reached, first, second, no_lost_waiter reached⟩

end OpenNebula.Raft
