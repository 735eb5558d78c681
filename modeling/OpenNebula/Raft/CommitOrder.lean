import OpenNebula.Raft.Daemon

namespace OpenNebula.Raft

open Library Sql

/-! # The commit index of a leader

`replicate_log` and `replicate_success` assign the index of the request to
`commit` without comparing the two.  Clients get their indexes in order but can
call `replicate_log` in another one.
-/

variable {node next later : Node} {event : DaemonEvent} {id : Int} {servers : List Int}

def Node.Open (node : Node) (index : Nat) : Prop :=
  node.oned.raft.commit < index ∧ index < node.oned.logdb.nextIndex

structure Ahead (node : Node) : Prop where
  next : node.oned.raft.commit < node.oned.logdb.nextIndex
  inserted : ∀ number writer, node.writers.lookup number = some writer →
    writer.phase = .inserted → node.Open writer.rindex
  requested : ∀ index pointer,
    node.oned.raft.requests.requests.lookup index = some (some pointer) → node.Open index

/-- No other client is on its way to `replicate_log` with an index up to `index`, and
none waits in the map under a smaller one. -/
def Settled (node : Node) (number index : Nat) : Prop :=
  (∀ entry ∈ node.writers.entries, entry.1 ≠ number → entry.2.phase = .inserted → index < entry.2.rindex) ∧
  ∀ slot ∈ node.oned.raft.requests.requests.entries, slot.1 ≠ index → slot.2 ≠ none →
    index < slot.1

instance (node : Node) (number index : Nat) : Decidable (Settled node number index) :=
  inferInstanceAs (Decidable (_ ∧ _))

/-- Records are committed in the order of their indexes: when a client's index is
committed, no other client still asks for a smaller one; the clients
that are late in an earlier term have an index that the new leader has not
applied; and no other leader sends records. -/
def Ordered (node : Node) : DaemonEvent → Prop
  | .replicate number => ∀ writer ∈ node.writers.lookup number,
      node.oned.raft.state = .leader → node.oned.raft.needed writer.rindex ≤ 0 → Settled node number writer.rindex
  | .replicateSuccess followerId => ∀ index ∈ node.oned.raft.next.lookup followerId,
      ∀ slot ∈ node.oned.raft.requests.requests.lookup index, ∀ pointer ∈ slot,
      ∀ rr ∈ node.oned.raft.requests.objects.lookup pointer, 0 ≤ rr.toCommit ∧ rr.toCommit ≤ 1 →
      Settled node pointer index
  | .leader => ∀ entry ∈ node.writers.entries, entry.2.phase = .inserted →
      node.oned.logdb.appliedIndex < entry.2.rindex ∧ entry.2.rindex ≤ node.oned.logdb.setupIndex.2.2
  | .receive _ _ => node.oned.raft.state ≠ .leader
  | _ => True

instance (node : Node) : (event : DaemonEvent) → Decidable (Ordered node event)
  | .replicate number => inferInstanceAs (Decidable (∀ writer ∈ node.writers.lookup number, _))
  | .replicateSuccess followerId =>
    inferInstanceAs (Decidable (∀ index ∈ node.oned.raft.next.lookup followerId, _))
  | .leader => inferInstanceAs (Decidable (∀ entry ∈ node.writers.entries, _))
  | .receive _ _ => inferInstanceAs (Decidable (node.oned.raft.state ≠ .leader))
  | .write _ _ | .wake _ | .apply _ _ | .replicateFailure _ | .addServer _ | .deleteServer _
  | .resetIndex _ | .timeout | .startElection _ | .follower _ => isTrue trivial

theorem LogDB.applyLogRecords_nextIndex (db : LogDB) (commitIndex : Nat) (rc : Nat → SqlError) :
    (db.applyLogRecords commitIndex rc).1.nextIndex = db.nextIndex := by
  have loop : ∀ turns (db : LogDB), (LogDB.applyLoop commitIndex rc turns db).1.nextIndex =
      db.nextIndex := by
    intro turns
    induction turns with
    | zero => exact fun _ => rfl
    | succ turns ih =>
      intro db
      rw [LogDB.applyLoop]
      split
      · cases loaded : db.getLogRecord (db.lastApplied + 1) db.lastApplied with
        | none => rfl
        | some lr =>
          have same : (db.markApplied lr).nextIndex = db.nextIndex := rfl
          cases outcome : rc lr.index with
          | success | sqlDupKey => simp [LogDB.applyLogRecord, outcome, ih, same]
          | sql => simp [LogDB.applyLogRecord, outcome, LogDB.markApplied]
          | internal | connection => simp [LogDB.applyLogRecord, outcome]
      · rfl
  exact loop _ db

theorem LogDB.setupIndex_le (db : LogDB) :
    db.setupIndex.2.1 = db.appliedIndex ∧ db.setupIndex.2.1 ≤ db.setupIndex.2.2 ∧
      db.setupIndex.1.nextIndex = db.setupIndex.2.2 + 1 := by
  refine ⟨rfl, ?_, rfl⟩
  change db.appliedIndex ≤ (LogDB.maxIndex db.table).getD db.lastIndex
  rcases db.appliedIndex_cases with zero | ⟨row, stored, _⟩
  · rw [zero]; exact Nat.zero_le _
  · cases largest : LogDB.maxIndex db.table with
    | none =>
      have absent := List.max?_eq_none_iff.1 largest
      have isKey := Map.mem_keys_iff.2 ⟨row, stored⟩
      rw [absent] at isKey
      cases isKey
    | some index => exact (LogDB.maxIndex_eq_some.1 largest).2 _ row stored

variable {number index : Nat}

theorem Settled.inserted (settled : Settled node number index) {other : Nat} {writer : Writer}
    (isWriter : node.writers.lookup other = some writer) (apart : other ≠ number)
    (phase : writer.phase = .inserted) : index < writer.rindex :=
  settled.1 ⟨other, writer⟩ (Map.mem_entries_iff.2 isWriter) apart phase

theorem Settled.requested (settled : Settled node number index) {other pointer : Nat}
    (isSlot : node.oned.raft.requests.requests.lookup other = some (some pointer)) (apart : other ≠ index) :
    index < other :=
  settled.2 ⟨other, some pointer⟩ (Map.mem_entries_iff.2 isSlot) apart (by simp)

theorem Ahead.keep (ahead : Ahead node) (commit : next.oned.raft.commit = node.oned.raft.commit)
    (nextIndex : next.oned.logdb.nextIndex = node.oned.logdb.nextIndex)
    (writers : ∀ number writer, next.writers.lookup number = some writer →
      writer.phase = .inserted → node.writers.lookup number = some writer)
    (requests : next.oned.raft.requests = node.oned.raft.requests) : Ahead next where
  next := by rw [commit, nextIndex]; exact ahead.next
  inserted := by
    intro number writer isWriter phase
    rw [Node.Open, commit, nextIndex]
    exact ahead.inserted number writer (writers number writer isWriter phase) phase
  requested := by
    intro index pointer isSlot
    rw [Node.Open, commit, nextIndex]
    exact ahead.requested index pointer (requests ▸ isSlot)

theorem Ahead.commit (ahead : Ahead node) (isOpen : node.Open index) (settled : Settled node number index)
    (isCommit : next.oned.raft.commit = index) (nextIndex : next.oned.logdb.nextIndex = node.oned.logdb.nextIndex)
    (writers : ∀ other writer, next.writers.lookup other = some writer → writer.phase = .inserted →
      other ≠ number ∧ node.writers.lookup other = some writer)
    (slots : ∀ other, next.oned.raft.requests.requests.lookup other =
      if other = index then none else node.oned.raft.requests.requests.lookup other) :
    Ahead next ∧ node.oned.raft.commit ≤ next.oned.raft.commit := by
  refine ⟨⟨?_, ?_, ?_⟩, by rw [isCommit]; exact isOpen.1.le⟩
  · rw [isCommit, nextIndex]; exact isOpen.2
  · intro other writer isWriter phase
    obtain ⟨apart, isBefore⟩ := writers other writer isWriter phase
    rw [Node.Open, isCommit, nextIndex]
    exact ⟨settled.inserted isBefore apart phase, (ahead.inserted other writer isBefore phase).2⟩
  · intro other pointer isSlot
    rw [slots] at isSlot
    split at isSlot
    · cases isSlot
    · rename_i apart
      rw [Node.Open, isCommit, nextIndex]
      exact ⟨settled.requested isSlot apart, (ahead.requested other pointer isSlot).2⟩

theorem lookup_setPhase {found : Writer} {phase : WriterPhase}
    (writers : next.writers = node.writers.insert number { found with phase }) (moved : phase ≠ .inserted) :
    ∀ other writer, next.writers.lookup other = some writer → writer.phase = .inserted →
      other ≠ number ∧ node.writers.lookup other = some writer := by
  intro other writer isWriter isInserted
  rw [writers, Map.lookup_insert_eq] at isWriter
  split at isWriter
  · rw [← Option.some.inj isWriter] at isInserted
    exact absurd isInserted moved
  · rename_i apart
    exact ⟨apart, isWriter⟩

theorem Node.finish_commit (node : Node) (number : Nat) (writer : Writer) (success : Bool) :
    (node.finish number writer success).oned.raft.commit = node.oned.raft.commit ∧
      (node.finish number writer success).oned.raft.state = node.oned.raft.state := by
  simp only [Node.finish]
  split <;> exact ⟨rfl, rfl⟩

/-- A client calls `replicate_log`, in order. -/
theorem Ahead.replicate {number : Nat} (ahead : Ahead node)
    (ordered : Ordered node (.replicate number)) (isLeader : node.oned.raft.state = .leader)
    (stepped : node.replicate number = some next) : Ahead next ∧ node.oned.raft.commit ≤ next.oned.raft.commit := by
  obtain ⟨writer, rr, slot, replicates⟩ := Node.replicate_replicates stepped
  have isWriter := replicates.isWriter
  have isOpen := ahead.inserted number writer isWriter replicates.phase
  have writers := lookup_setPhase replicates.writers (by simp)
  have nextIndex := congrArg LogDB.nextIndex replicates.logdb
  have slots := replicates.slots
  have outcome := replicates.outcome
  generalize isCommit : next.oned.raft.commit = commit at outcome
  cases outcome with
  | refused notLeader => exact absurd isLeader notLeader
  | committed _ enough =>
    have committed := ahead.commit isOpen (ordered writer isWriter isLeader enough) isCommit
      nextIndex writers slots
    rwa [isCommit] at committed
  | waits =>
    refine ⟨⟨by rw [isCommit, nextIndex]; exact ahead.next, ?_, ?_⟩, Nat.le_refl _⟩
    · intro other found isFound phase
      rw [Node.Open, isCommit, nextIndex]
      exact ahead.inserted other found (writers other found isFound phase).2 phase
    · intro other pointer isSlot
      rw [Node.Open, isCommit, nextIndex]
      rw [slots] at isSlot
      split at isSlot
      · rename_i here
        rw [here]; exact isOpen
      · exact ahead.requested other pointer isSlot

theorem Ahead.success {followerId : Int} {dbLindex : Nat} (waiting : Waiting node)
    (ahead : Ahead node) (ordered : Ordered node (.replicateSuccess followerId)) :
    Ahead (node.setRaft (node.oned.raft.replicateSuccess followerId dbLindex)) ∧
      node.oned.raft.commit ≤ (node.oned.raft.replicateSuccess followerId dbLindex).commit := by
  rcases node.oned.raft.replicateSuccess_cases followerId dbLindex with
    ⟨_, same⟩ | ⟨index, pool, isNext, _, isSuccess⟩
  · rw [same]; exact ⟨ahead, Nat.le_refl _⟩
  · rw [isSuccess]
    rcases node.oned.raft.requests.addReplica_cases index with
      ⟨_, slots, _, toCommit⟩ | ⟨pointer, rr, isSlot, isObject, isMap, toCommit⟩
    · rw [toCommit, if_neg (by decide)]
      refine ⟨⟨ahead.next, ahead.inserted, ?_⟩, Nat.le_refl _⟩
      simp only [Node.setRaft, slots]
      exact ahead.requested
    · rw [toCommit]
      by_cases done : rr.addReplica.toCommit = 0
      · have bounds : 0 ≤ rr.toCommit ∧ rr.toCommit ≤ 1 := by
          rw [ReplicaRequest.addReplica_toCommit] at done
          split at done <;> omega
        have settled := ordered index isNext _ isSlot pointer rfl rr isObject bounds
        refine ahead.commit (ahead.requested index pointer isSlot) settled (if_pos done) rfl ?_ ?_
        · intro other writer isWriter phase
          refine ⟨?_, isWriter⟩
          rintro rfl
          exact absurd phase ((waiting.object other rr isObject).2 writer isWriter).1
        · intro other
          simp only [Node.setRaft, isMap, if_pos done]
          exact Map.lookup_erase_eq _ _ _
      · rw [if_neg done]
        refine ⟨⟨ahead.next, ahead.inserted, ?_⟩, Nat.le_refl _⟩
        simp only [Node.setRaft, isMap, if_neg done]
        exact ahead.requested

theorem Ahead.lead (isCandidate : node.oned.raft.state = .candidate)
    (ordered : Ordered node .leader) : Ahead node.becomeLeader := by
  obtain ⟨isApplied, le, nextIndex⟩ := LogDB.setupIndex_le node.oned.logdb
  have isOned := node.becomeLeader_eq.1
  have commit : node.becomeLeader.oned.raft.commit = node.oned.logdb.appliedIndex := by
    rw [isOned, ← isApplied]
    simp [Oned.leader, RaftManager.leader, isCandidate]
  have next : node.becomeLeader.oned.logdb.nextIndex = node.oned.logdb.setupIndex.2.2 + 1 := by
    rw [isOned, ← nextIndex]
    rfl
  refine ⟨by rw [commit, next]; omega, ?_, ?_⟩
  · intro number writer isWriter phase
    rw [Node.Open, commit, next]
    have old (isOld : node.writers.lookup number = some writer) :
        node.oned.logdb.appliedIndex < writer.rindex ∧
          writer.rindex < node.oned.logdb.setupIndex.2.2 + 1 := by
      have late := ordered ⟨number, writer⟩ (Map.mem_entries_iff.2 isOld) phase
      exact ⟨late.1, Nat.lt_succ_of_le late.2⟩
    simp only [Node.becomeLeader] at isWriter
    split at isWriter
    · rename_i unapplied
      rw [Map.lookup_insert_eq] at isWriter
      split at isWriter
      · rw [← Option.some.inj isWriter, ← isApplied]
        exact ⟨unapplied.2, Nat.lt_succ_self _⟩
      · exact old isWriter
    · exact old isWriter
  · intro index pointer isSlot
    rw [Node.becomeLeader_requests isCandidate] at isSlot
    simp at isSlot

theorem Ahead.step (waiting : Waiting node) (ordered : Ordered node event)
    (ahead : node.oned.raft.state = .leader → Ahead node)
    (change : DaemonChange node event next) (leads : next.oned.raft.state = .leader) :
    Ahead next ∧ (node.oned.raft.state = .leader → node.oned.raft.commit ≤ next.oned.raft.commit) := by
  cases change with
  | same same wasLeader commit =>
    have isLeader := wasLeader leads
    rcases commit isLeader with ⟨params, rc, rfl⟩ | ⟨isCommit, nextIndex⟩
    · exact absurd isLeader ordered
    · exact ⟨(ahead isLeader).keep isCommit nextIndex
        (by rw [same.writers]; exact fun _ _ isWriter _ => isWriter) same.requests,
        fun _ => isCommit.ge⟩
  | clear _ _ _ state => rw [state] at leads; cases leads
  | write stepped =>
    have isLeader := (Node.write_cases stepped).1
    obtain ⟨rindex, isRaft, isIndex, nextIndex, writers⟩ := Node.write_requests stepped
    have before := ahead isLeader
    have commit : next.oned.raft.commit = node.oned.raft.commit := by rw [isRaft]; rfl
    have longer (index : Nat) (isOpen : node.Open index) : next.Open index := by
      rw [Node.Open, commit, nextIndex]
      exact ⟨isOpen.1, by have := isOpen.2; omega⟩
    have bound := before.next
    refine ⟨⟨by rw [commit, nextIndex]; omega, ?_, ?_⟩, fun _ => commit.ge⟩
    · intro number writer isWriter phase
      rw [writers, Map.lookup_insert_eq] at isWriter
      split at isWriter
      · rw [← Option.some.inj isWriter, Node.Open, commit, nextIndex]
        exact ⟨by dsimp only; omega, Nat.lt_succ_self _⟩
      · exact longer _ (before.inserted number writer isWriter phase)
    · intro index pointer isSlot
      rw [isRaft] at isSlot
      exact longer _ (before.requested index pointer (ReplicaRequestMap.allocate_slot isSlot))
  | replicate stepped =>
    obtain ⟨_, _, _, replicates⟩ := Node.replicate_replicates stepped
    have isLeader := replicates.state.symm.trans leads
    obtain ⟨after, commit⟩ := (ahead isLeader).replicate ordered isLeader stepped
    exact ⟨after, fun _ => commit⟩
  | wake stepped =>
    obtain ⟨found, rr, isWriter, _, _, _, ⟨_, _, rfl⟩ | ⟨_, rfl⟩⟩ := Node.wake_cases stepped
    · exact ⟨(ahead leads).keep rfl rfl (fun other writer isFound phase =>
          (lookup_setPhase rfl (by simp) other writer isFound phase).2) rfl,
        fun _ => Nat.le_refl _⟩
    · obtain ⟨commit, state⟩ := Node.finish_commit node _ found false
      obtain ⟨writers, logdb⟩ := Node.finish_cases node _ found false
      exact ⟨(ahead (state ▸ leads)).keep commit (by rw [logdb]) (fun other writer isFound phase =>
          (lookup_setPhase writers (by simp) other writer isFound phase).2)
        (Node.finish_requests _ _ _ _), fun _ => commit.ge⟩
  | @apply number rc _ stepped =>
    obtain ⟨found, isWriter, _, rfl⟩ := Node.apply_cases stepped
    obtain ⟨commit, state⟩ := Node.finish_commit { node with oned := { node.oned with
      logdb := (node.oned.logdb.applyLogRecords found.rindex rc).1 } } number found
      (node.oned.logdb.applyLogRecords found.rindex rc).2
    obtain ⟨writers, logdb⟩ := Node.finish_cases { node with oned := { node.oned with
      logdb := (node.oned.logdb.applyLogRecords found.rindex rc).1 } } number found
      (node.oned.logdb.applyLogRecords found.rindex rc).2
    exact ⟨(ahead (state ▸ leads)).keep commit (by rw [logdb]; exact LogDB.applyLogRecords_nextIndex _ _ _)
      (fun other writer isFound phase =>
        (lookup_setPhase writers (by simp) other writer isFound phase).2)
      (Node.finish_requests _ _ _ _), fun _ => commit.ge⟩
  | @success followerId =>
    have isLeader : node.oned.raft.state = .leader := by
      rw [← (Quiet.replicateSuccess node.oned.raft followerId node.oned.logdb.lastIndex).state]
      exact leads
    obtain ⟨after, commit⟩ := (ahead isLeader).success waiting ordered
    exact ⟨after, fun _ => commit⟩
  | lead isCandidate =>
    exact ⟨.lead isCandidate ordered, fun isLeader => by rw [isCandidate] at isLeader; cases isLeader⟩

theorem ahead_of_reachable (reached : (Daemon.system id servers).Reachable Ordered node) :
    Waiting node ∧ (node.oned.raft.state = .leader → Ahead node) := by
  refine @System.Reachable.invariant _ _ _ _
    (fun node => Waiting node ∧ (node.oned.raft.state = .leader → Ahead node)) _ reached ?_ ?_
  · rintro start ⟨stored, now, rfl⟩
    refine ⟨Waiting.start _ _ _, fun isLeader => ?_⟩
    simp only [Node.start, Oned.start, RaftManager.make] at isLeader
    split at isLeader <;> cases isLeader
  · rintro before event after ⟨waiting, ahead⟩ ordered stepped
    have change := Daemon.step_change stepped
    exact ⟨waiting.daemon change, fun leads => (Ahead.step waiting ordered ahead change leads).1⟩

/-- A step of a server that leads. -/
def OrderedLeader (node : Node) (event : DaemonEvent) : Prop :=
  Ordered node event ∧ node.oned.raft.state = .leader

instance (node : Node) (event : DaemonEvent) : Decidable (OrderedLeader node event) :=
  inferInstanceAs (Decidable (_ ∧ _))

/-- While a server stays leader its commit index does not decrease. -/
theorem leader_commit_monotone (reached : (Daemon.system id servers).Reachable Ordered node)
    (path : (Daemon.system id servers).Path OrderedLeader node later) (stays : later.oned.raft.state = .leader) :
    node.oned.raft.commit ≤ later.oned.raft.commit := by
  induction path with
  | refl => exact Nat.le_refl _
  | @tail middle after path last ih =>
    obtain ⟨event, ⟨ordered, isLeader⟩, stepped⟩ := last
    have along : (Daemon.system id servers).Reachable Ordered middle :=
      reached.path (System.Path.weaken path fun _ _ meets => meets.1)
    obtain ⟨waiting, ahead⟩ := ahead_of_reachable along
    exact (ih isLeader).trans
      ((Ahead.step waiting ordered ahead (Daemon.step_change stepped) stays).2 isLeader)

/-- Server 0 leads and two clients have written records 1 and 2. -/
def twoWrites : List DaemonEvent :=
  [.timeout, .startElection [0, 1, 2], .leader, .write "INSERT" none, .write "DELETE" none]

/-- The client of record 2 is the first to call `replicate_log`, and a follower
stores both records before the other client calls it. -/
theorem leader_commit_monotone_late_client : ∃ node later, (Daemon.system 0 [0, 1, 2]).Reachable System.anyStep node ∧
      Daemon.step node (.replicate 0) = some later ∧ node.oned.raft.state = .leader ∧
      later.oned.raft.state = .leader ∧ ¬ node.oned.raft.commit ≤ later.oned.raft.commit := by
  have ran : (((Daemon.system 0 [0, 1, 2]).exec System.anyStep (Node.boot 0 [0, 1, 2] 0)
      (twoWrites ++ [.replicate 1, .replicateSuccess 1, .replicateSuccess 1])).map fun node =>
        (node.oned.raft.state, node.oned.raft.commit, (Daemon.step node (.replicate 0)).map fun later =>
          (later.oned.raft.state, later.oned.raft.commit))) =
      some (.leader, 2, some (.leader, 1)) := by
    decide
  obtain ⟨node, ran, isState⟩ := Option.map_eq_some_iff.mp ran
  simp only [Prod.mk.injEq] at isState
  obtain ⟨isLeader, commit, isStep⟩ := isState
  obtain ⟨later, stepped, isLater⟩ := Option.map_eq_some_iff.mp isStep
  obtain ⟨laterLeads, laterCommit⟩ := Prod.mk.inj isLater
  refine ⟨node, later, System.reachable_of_exec ⟨_, _, rfl⟩ ran, stepped, isLeader, laterLeads, ?_⟩
  rw [commit, laterCommit]
  decide

theorem leader_commit_monotone_in_order : ∃ node later, (Daemon.system 0 [0, 1, 2]).Reachable Ordered node ∧
      (Daemon.system 0 [0, 1, 2]).Path OrderedLeader node later ∧
      later.oned.raft.commit = 2 ∧ node.oned.raft.commit ≤ later.oned.raft.commit := by
  have first : (((Daemon.system 0 [0, 1, 2]).exec Ordered (Node.boot 0 [0, 1, 2] 0)
      twoWrites).bind fun node => ((Daemon.system 0 [0, 1, 2]).exec OrderedLeader node
        [.replicate 0, .replicate 1, .replicateSuccess 1, .replicateSuccess 1]).map fun later =>
          (later.oned.raft.state, later.oned.raft.commit)) = some (.leader, 2) := by
    decide
  obtain ⟨node, ranFirst, rest⟩ := Option.bind_eq_some_iff.mp first
  obtain ⟨later, ran, isState⟩ := Option.map_eq_some_iff.mp rest
  obtain ⟨stays, commit⟩ := Prod.mk.inj isState
  have reached : (Daemon.system 0 [0, 1, 2]).Reachable Ordered node := System.reachable_of_exec ⟨_, _, rfl⟩ ranFirst
  have path : (Daemon.system 0 [0, 1, 2]).Path OrderedLeader node later := System.path_of_exec ran
  exact ⟨node, later, reached, path, commit, leader_commit_monotone reached path stays⟩

end OpenNebula.Raft
