import OpenNebula.Raft.Changes
import OpenNebula.Raft.Requests

namespace OpenNebula.Raft

open Library Library.Consensus Sql

/-! # Client writes

A thread that writes owns one replica request, known by the number of the
thread.  A write that inserts its record in a term and returns in that term, with
the server leading it all the time, returns success for its own record.
-/

structure Waiting (node : Node) : Prop where
  known : ∀ number writer, node.writers.lookup number = some writer → number < node.nextWriter
  object : ∀ number rr, node.oned.raft.requests.objects.lookup number = some rr →
    number < node.nextWriter ∧ ∀ writer, node.writers.lookup number = some writer →
      writer.phase ≠ .inserted ∧ rr.index = writer.rindex
  slot : ∀ index pointer,
    node.oned.raft.requests.requests.lookup index = some (some pointer) →
    ∃ rr, node.oned.raft.requests.objects.lookup pointer = some rr ∧ rr.index = index ∧
      rr.notified = 0

variable {zone : Zone} {cluster after : Cluster} {core later : History} {id : Int}
  {node next : Node} {event : Event}

theorem Waiting.same (waiting : Waiting node) (same : SameBooks node next) : Waiting next := by
  refine ⟨?_, ?_, ?_⟩
  · rw [same.writers, same.nextWriter]; exact waiting.known
  · rw [same.writers, same.nextWriter, same.requests]; exact waiting.object
  · rw [same.requests]; exact waiting.slot

theorem Waiting.setLogdb (waiting : Waiting node) (logdb : LogDB) :
    Waiting { node with oned := { node.oned with logdb } } :=
  ⟨waiting.known, waiting.object, waiting.slot⟩

theorem Waiting.clear (waiting : Waiting node) (writers : next.writers = node.writers)
    (nextWriter : next.nextWriter = node.nextWriter)
    (requests : next.oned.raft.requests = node.oned.raft.requests.clear) : Waiting next := by
  refine ⟨?_, ?_, ?_⟩
  · rw [writers, nextWriter]; exact waiting.known
  · rw [writers, nextWriter, requests]
    intro number rr cleared
    obtain ⟨before, isBefore, sameIndex, _⟩ := ReplicaRequestMap.clear_object cleared
    obtain ⟨bound, ofWriter⟩ := waiting.object number before isBefore
    exact ⟨bound, fun writer isWriter => sameIndex ▸ ofWriter writer isWriter⟩
  · rw [requests]
    intro index pointer isSlot
    simp at isSlot

variable {number rindex : Nat} {writer : Writer}

theorem Waiting.setPhase (waiting : Waiting node) (isWriter : node.writers.lookup number = some writer)
    (phase : WriterPhase) (moved : phase ≠ .inserted) : Waiting (node.setPhase number writer phase) := by
  refine ⟨?_, ?_, waiting.slot⟩
  · intro other found isFound
    simp only [Node.setPhase, Map.lookup_insert_eq] at isFound
    split at isFound
    · rename_i same
      rw [same]; exact waiting.known number writer isWriter
    · exact waiting.known other found isFound
  · intro other rr isObject
    obtain ⟨bound, ofWriter⟩ := waiting.object other rr isObject
    refine ⟨bound, fun found isFound => ?_⟩
    simp only [Node.setPhase, Map.lookup_insert_eq] at isFound
    split at isFound
    · rename_i same
      subst same
      rw [← Option.some.inj isFound]
      exact ⟨moved, (ofWriter writer isWriter).2⟩
    · exact ofWriter found isFound

theorem Waiting.finish (waiting : Waiting node) (isWriter : node.writers.lookup number = some writer)
    (success : Bool) :
    Waiting (node.finish number writer success) := by
  have moved := waiting.setPhase isWriter (.returned success) (by simp)
  simp only [Node.finish]
  split
  · exact moved.same (SameBooks.of_books rfl)
  · exact moved

theorem Waiting.push (waiting : Waiting node) (writer : Writer)
    (isNext : next.writers = node.writers.insert node.nextWriter writer)
    (nextWriter : next.nextWriter = node.nextWriter + 1)
    (requests : next.oned.raft.requests.objects = node.oned.raft.requests.objects)
    (slots : ∀ index pointer,
      next.oned.raft.requests.requests.lookup index = some (some pointer) →
      node.oned.raft.requests.requests.lookup index = some (some pointer)) : Waiting next := by
  refine ⟨?_, ?_, ?_⟩
  · rw [isNext, nextWriter]
    intro number found isFound
    rw [Map.lookup_insert_eq] at isFound
    split at isFound
    · omega
    · have bound := waiting.known number found isFound
      omega
  · rw [isNext, nextWriter, requests]
    intro number rr isObject
    obtain ⟨bound, ofWriter⟩ := waiting.object number rr isObject
    refine ⟨by omega, fun found isFound => ?_⟩
    rw [Map.lookup_insert_eq, if_neg (by omega)] at isFound
    exact ofWriter found isFound
  · rw [requests]
    exact fun index pointer isSlot => waiting.slot index pointer (slots index pointer isSlot)

/-- What `replicate_log` makes of a new request: the request, the slot of its index
and the commit index. -/
inductive ReplicateOutcome (raft : RaftManager) (number rindex : Nat) :
    ReplicaRequest → Option (Option Nat) → Nat → Prop where
  | refused (notLeader : raft.state ≠ .leader) :
      ReplicateOutcome raft number rindex (ReplicaRequest.make rindex).notify none raft.commit
  | committed (isLeader : raft.state = .leader) (enough : raft.needed rindex ≤ 0) :
      ReplicateOutcome raft number rindex
        { (ReplicaRequest.make rindex).notify with result := true } none rindex
  | waits (isLeader : raft.state = .leader) (more : 0 < raft.needed rindex) :
      ReplicateOutcome raft number rindex
        { ReplicaRequest.make rindex with toCommit := raft.needed rindex }
        (some (some number)) raft.commit

theorem ReplicateOutcome.index {raft : RaftManager} {commit : Nat} {rr : ReplicaRequest}
    {slot : Option (Option Nat)} (outcome : ReplicateOutcome raft number rindex rr slot commit) :
    rr.index = rindex := by
  cases outcome <;> rfl

structure Replicates (node next : Node) (number : Nat) (writer : Writer) (rr : ReplicaRequest)
    (slot : Option (Option Nat)) : Prop where
  isWriter : node.writers.lookup number = some writer
  phase : writer.phase = .inserted
  writers : next.writers = node.writers.insert number { writer with phase := .waiting }
  nextWriter : next.nextWriter = node.nextWriter
  logdb : next.oned.logdb = node.oned.logdb
  objects : ∀ other, next.oned.raft.requests.objects.lookup other =
    if other = number then some rr else node.oned.raft.requests.objects.lookup other
  slots : ∀ index, next.oned.raft.requests.requests.lookup index =
    if index = writer.rindex then slot else node.oned.raft.requests.requests.lookup index
  state : next.oned.raft.state = node.oned.raft.state
  term : next.oned.raft.term = node.oned.raft.term
  numServers : next.oned.raft.numServers = node.oned.raft.numServers
  followers : next.oned.raft.next = node.oned.raft.next
  matched : next.oned.raft.matched = node.oned.raft.matched
  serverId : next.oned.raft.serverId = node.oned.raft.serverId
  calls : node.oned.raft.replicaManager.SameCalls next.oned.raft.replicaManager
  finalized : next.oned.raft.finalized = node.oned.raft.finalized
  outcome : ReplicateOutcome node.oned.raft number writer.rindex rr slot next.oned.raft.commit

theorem Node.replicate_replicates (stepped : node.replicate number = some next) :
    ∃ writer rr slot, Replicates node next number writer rr slot := by
  obtain ⟨writer, isWriter, phase, rfl⟩ := Node.replicate_cases stepped
  have found : ({ node.oned.raft with
      requests := { node.oned.raft.requests with
        objects := node.oned.raft.requests.objects.insert number (.make writer.rindex) } } :
        RaftManager).requests.objects.lookup number = some (.make writer.rindex) :=
    AList.lookup_insert _
  have objects : ∀ (change : ReplicaRequest → ReplicaRequest) (other : Nat),
      (({ node.oned.raft.requests with
        objects := node.oned.raft.requests.objects.insert number (.make writer.rindex) } :
        ReplicaRequestMap).update number change).objects.lookup other =
      if other = number then some (change (.make writer.rindex))
      else node.oned.raft.requests.objects.lookup other := by
    intro change other
    rw [ReplicaRequestMap.lookup_update, Map.lookup_insert_eq]
    split
    · rfl
    · simp
  rcases RaftManager.replicateLog_cases _ found with
    ⟨notLeader, isResult⟩ | ⟨isLeader, pool, same, ⟨enough, isResult⟩ | ⟨more, isResult⟩⟩ <;>
    rw [isResult]
  · exact ⟨writer, _, none, isWriter, phase, rfl, rfl, rfl, objects .notify,
      fun _ => Map.lookup_erase_eq _ _ _, rfl, rfl, rfl, rfl, rfl, rfl,
      ReplicaManager.SameCalls.refl _, rfl, .refused notLeader⟩
  · exact ⟨writer, _, none, isWriter, phase, rfl, rfl, rfl,
      objects fun rr => { rr.notify with result := true, timeout := false },
      fun _ => Map.lookup_erase_eq _ _ _, rfl, rfl, rfl, rfl, rfl, rfl, same, rfl,
      .committed isLeader enough⟩
  · exact ⟨writer, _, some (some number), isWriter, phase, rfl, rfl, rfl,
      objects fun rr => { rr with toCommit := node.oned.raft.needed writer.rindex },
      fun _ => Map.lookup_insert_eq _ _ _ _, rfl, rfl, rfl, rfl, rfl, rfl, same, rfl,
      .waits isLeader more⟩

theorem Waiting.replicate {number : Nat} (waiting : Waiting node)
    (stepped : node.replicate number = some next) : Waiting next := by
  obtain ⟨writer, rr, slot, replicates⟩ := Node.replicate_replicates stepped
  have isWriter := replicates.isWriter
  have bound := waiting.known number writer isWriter
  have unused : node.oned.raft.requests.objects.lookup number = none := by
    cases isObject : node.oned.raft.requests.objects.lookup number with
    | none => rfl
    | some rr =>
      exact absurd replicates.phase ((waiting.object number rr isObject).2 writer isWriter).1
  refine ⟨?_, ?_, ?_⟩
  · intro other found isFound
    rw [replicates.writers, Map.lookup_insert_eq] at isFound
    rw [replicates.nextWriter]
    split at isFound
    · rename_i same
      rw [same]; exact bound
    · exact waiting.known other found isFound
  · intro other found isObject
    rw [replicates.nextWriter]
    rw [replicates.objects] at isObject
    split at isObject
    · rename_i same
      subst same
      refine ⟨bound, fun changed isChanged => ?_⟩
      rw [replicates.writers, AList.lookup_insert, Option.some.injEq] at isChanged
      rw [← isChanged, ← Option.some.inj isObject, replicates.outcome.index]
      exact ⟨by simp, rfl⟩
    · rename_i apart
      obtain ⟨below, ofWriter⟩ := waiting.object other found isObject
      refine ⟨below, fun changed isChanged => ?_⟩
      rw [replicates.writers, Map.lookup_insert_eq, if_neg apart] at isChanged
      exact ofWriter changed isChanged
  · intro index pointer isSlot
    rw [replicates.slots] at isSlot
    split at isSlot
    · rename_i here
      rw [here]
      have outcome := replicates.outcome
      generalize next.oned.raft.commit = commit at outcome
      cases outcome with
      | refused | committed => cases isSlot
      | waits =>
        rw [← Option.some.inj (Option.some.inj isSlot), replicates.objects, if_pos rfl]
        exact ⟨_, rfl, rfl, rfl⟩
    · obtain ⟨found, isObject, rest⟩ := waiting.slot index pointer isSlot
      refine ⟨found, ?_, rest⟩
      rw [replicates.objects, if_neg, isObject]
      rintro rfl
      rw [unused] at isObject
      cases isObject

theorem Waiting.success {followerId : Int} {dbLindex : Nat} (waiting : Waiting node) :
    Waiting (node.setRaft (node.oned.raft.replicateSuccess followerId dbLindex)) := by
  rcases node.oned.raft.replicateSuccess_cases followerId dbLindex with
    ⟨_, same⟩ | ⟨index, pool, _, _, isSuccess⟩
  · rw [same]; exact waiting.same (SameBooks.of_books rfl)
  · rw [isSuccess]
    rcases node.oned.raft.requests.addReplica_cases index with
      ⟨_, slots, objects, _⟩ | ⟨pointer, rr, isSlot, isObject, isMap, _⟩
    · refine ⟨waiting.known, ?_, ?_⟩
      · simp only [Node.setRaft, objects]; exact waiting.object
      · simp only [Node.setRaft, objects, slots]; exact waiting.slot
    · refine ⟨waiting.known, ?_, ?_⟩
      · simp only [Node.setRaft, isMap, ReplicaRequestMap.lookup_update]
        intro number changed isChanged
        obtain ⟨before, isBefore, rfl⟩ := Option.map_eq_some_iff.1 isChanged
        obtain ⟨bound, ofWriter⟩ := waiting.object number before isBefore
        refine ⟨bound, fun writer isWriter => ?_⟩
        obtain ⟨phase, rindex⟩ := ofWriter writer isWriter
        refine ⟨phase, ?_⟩
        split
        · rw [ReplicaRequest.addReplica_index]; exact rindex
        · exact rindex
      · simp only [Node.setRaft, isMap, ReplicaRequestMap.lookup_update]
        intro other found inSlot
        have kept : node.oned.raft.requests.requests.lookup other = some (some found) ∧
            (rr.addReplica.toCommit = 0 → other ≠ index) := by
          split at inSlot
          · rw [Map.lookup_erase_eq] at inSlot
            split at inSlot
            · cases inSlot
            · rename_i apart
              exact ⟨inSlot, fun _ => apart⟩
          · rename_i left
            exact ⟨inSlot, fun done => absurd done left⟩
        obtain ⟨before, isBefore, rindex, notNotified⟩ := waiting.slot other found kept.1
        rw [isBefore]
        refine ⟨_, rfl, ?_⟩
        split
        · rename_i same
          subst same
          obtain ⟨_, isRr, isIndex, _⟩ := waiting.slot index found isSlot
          rw [isBefore, Option.some.injEq] at isRr isObject
          subst isRr isObject
          have left : before.addReplica.toCommit ≠ 0 := fun done =>
            kept.2 done (rindex.symm.trans isIndex)
          rw [ReplicaRequest.addReplica_index, (ReplicaRequest.addReplica_pending left).1]
          exact ⟨rindex, notNotified⟩
        · exact ⟨rindex, notNotified⟩

theorem Waiting.start (stored : LogDB) (servers : List Int) (now : String) :
    Waiting (Node.start id stored servers now) :=
  ⟨fun _ _ isWriter => by simp [Node.start] at isWriter,
    fun _ _ isObject => by simp [Node.start, Oned.start, RaftManager.make] at isObject,
    fun _ _ isSlot => by simp [Node.start, Oned.start, RaftManager.make] at isSlot⟩

theorem Waiting.becomeLeader (waiting : Waiting node)
    (isCandidate : node.oned.raft.state = .candidate) : Waiting node.becomeLeader := by
  have requests : node.oned.leader.raft.requests = node.oned.raft.requests.clear := by
    simp [Oned.leader, RaftManager.leader, isCandidate]
  have cleared : Waiting { node with oned := node.oned.leader, timer := .idle } :=
    waiting.clear rfl rfl requests
  simp only [Node.becomeLeader]
  split
  · exact cleared.push _ rfl rfl rfl fun _ _ isSlot => isSlot
  · exact cleared

theorem Waiting.write (waiting : Waiting node) {cmd : String} {federated : Option Nat} {oned : Oned}
    (inserted : node.oned.insertLogRecord node.oned.raft.term cmd federated = some (oned, rindex)) :
    Waiting { node with
      oned
      writers := node.writers.insert node.nextWriter
        { cmd := some cmd, term := node.oned.raft.term, rindex, phase := .inserted }
      nextWriter := node.nextWriter + 1 } := by
  simp only [Oned.insertLogRecord, Option.map_eq_some_iff] at inserted
  obtain ⟨_, _, isOned⟩ := inserted
  rw [← (Prod.mk.inj isOned).1]
  exact waiting.push _ rfl rfl rfl fun _ _ isSlot => ReplicaRequestMap.allocate_slot isSlot

def Wrote (core : History) (id : Int) (writer : Writer) : Prop :=
  ∃ reign, core.reign writer.term = some reign ∧ reign.leader = id ∧
    ∀ cmd, writer.cmd = some cmd → 0 < writer.rindex ∧
      ∃ entry, reign.log[writer.rindex - 1]? = some entry ∧ entry.sqlcmd = cmd

theorem Wrote.grows (wrote : Wrote core id writer) (grows : Grows core later) :
    Wrote later id writer := by
  obtain ⟨reign, leads, self, record⟩ := wrote
  obtain ⟨after, leadsAfter, sameLeader, _, extended⟩ := grows.reignLog leads
  refine ⟨after, leadsAfter, sameLeader.trans self, fun cmd isCmd => ?_⟩
  obtain ⟨positive, entry, found, isSql⟩ := record cmd isCmd
  exact ⟨positive, entry,
    (getElem?_of_isPrefix extended (length_lt_of_getElem? found)).trans found, isSql⟩

structure SameWrite (before after : Writer) : Prop where
  cmd : after.cmd = before.cmd
  term : after.term = before.term
  rindex : after.rindex = before.rindex

theorem SameWrite.wrote {before : Writer} (same : SameWrite before writer) (wrote : Wrote core id before) :
    Wrote core id writer := by
  obtain ⟨reign, leads, self, record⟩ := wrote
  exact ⟨reign, by rw [same.term]; exact leads, self, fun cmd isCmd => by
    rw [same.rindex]; exact record cmd (same.cmd ▸ isCmd)⟩

/-- Where a writer of a server comes from: an earlier one that went on, a new
leader's thread, or a new write. -/
inductive Origin (cluster : Cluster) (id : Int) (next : Node) (number : Nat) (writer : Writer) :
    Event → Prop where
  | same {event : Event} (isWriter : (cluster.node id).writers.lookup number = some writer) :
      Origin cluster id next number writer event
  | moved {event : Event} {before : Writer}
      (isBefore : (cluster.node id).writers.lookup number = some before)
      (write : SameWrite before writer) (phase : writer.phase ≠ .returned true) :
      Origin cluster id next number writer event
  | applied {rc : Nat → SqlError} {before : Writer}
      (isBefore : (cluster.node id).writers.lookup number = some before)
      (write : SameWrite before writer)
      (phase : writer.phase =
        .returned ((cluster.node id).oned.logdb.applyLogRecords before.rindex rc).2)
      (logdb : next.oned.logdb =
        ((cluster.node id).oned.logdb.applyLogRecords before.rindex rc).1) :
      Origin cluster id next number writer (.apply id number rc)
  | reconcile {event : Event} (isLeader : next.oned.raft.state = .leader)
      (term : writer.term = next.oned.raft.term) (cmd : writer.cmd = none)
      (phase : writer.phase = .inserted) : Origin cluster id next number writer event
  | wrote {cmd : String} {federated : Option Nat}
      (isLeader : (cluster.node id).oned.raft.state = .leader) {oned : Oned} {rindex : Nat}
      (inserted : (cluster.node id).oned.insertLogRecord (cluster.node id).oned.raft.term cmd
        federated = some (oned, rindex))
      (isOned : next.oned = oned)
      (isWriter : writer = { cmd := some cmd, term := (cluster.node id).oned.raft.term, rindex,
                             phase := .inserted }) :
      Origin cluster id next number writer (.write id cmd federated)

theorem Node.finish_cases (node : Node) (number : Nat) (writer : Writer) (success : Bool) :
    (node.finish number writer success).writers =
        node.writers.insert number { writer with phase := .returned success } ∧
      (node.finish number writer success).oned.logdb = node.oned.logdb := by
  simp only [Node.finish]
  split <;> exact ⟨rfl, rfl⟩

theorem Node.finish_requests (node : Node) (number : Nat) (writer : Writer) (success : Bool) :
    (node.finish number writer success).oned.raft.requests = node.oned.raft.requests := by
  simp only [Node.finish]
  split <;> rfl

theorem Change.origin {number : Nat} {writer : Writer}
    (change : Change zone cluster event id next)
    (isWriter : next.writers.lookup number = some writer) :
    Origin cluster id next number writer event := by
  -- one writer in another phase, the others as they were
  have setPhase {other : Nat} {found : Writer} {phase : WriterPhase}
      (isFound : (cluster.node id).writers.lookup other = some found)
      (phaseLookup : next.writers = (cluster.node id).writers.insert other { found with phase })
      (here : number = other → Origin cluster id next number { found with phase } event) :
      Origin cluster id next number writer event := by
    rw [phaseLookup, Map.lookup_insert_eq] at isWriter
    split at isWriter
    · rename_i same
      rw [← Option.some.inj isWriter]
      exact here same
    · exact .same isWriter
  cases change with
  | quiet same | reindex _ same => exact .same (same.writers ▸ isWriter)
  | down term first _ last => exact .same (first.writers ▸ last.writers ▸ isWriter)
  | @lead _ _ election isPolling isCandidate =>
    have leads : (cluster.node id).oned.leader.raft.state = .leader := by
      simp [Oned.leader, RaftManager.leader, isCandidate]
    have isOned := (cluster.node id).becomeLeader_eq.1
    simp only [Node.becomeLeader] at isWriter
    split at isWriter
    · rw [Map.lookup_insert_eq] at isWriter
      split at isWriter
      · rw [← Option.some.inj isWriter]
        exact .reconcile (by rw [isOned]; exact leads) (by rw [isOned]) rfl rfl
      · exact .same isWriter
    · exact .same isWriter
  | call => exact .same isWriter
  | success ended | failure ended => exact .same ((Node.endReplicaCall_cases ended).1.writers ▸ isWriter)
  | write stepped =>
    obtain ⟨isLeader, oned, rindex, inserted, rfl⟩ := Node.write_cases stepped
    rw [Map.lookup_insert_eq] at isWriter
    split at isWriter
    · exact .wrote isLeader inserted rfl (Option.some.inj isWriter).symm
    · exact .same isWriter
  | replicate stepped =>
    obtain ⟨found, isFound, _, rfl⟩ := Node.replicate_cases stepped
    refine setPhase isFound rfl fun same => ?_
    subst same
    exact .moved isFound ⟨rfl, rfl, rfl⟩ (by simp)
  | wake stepped =>
    obtain ⟨found, rr, isFound, _, _, _, ⟨_, _, rfl⟩ | ⟨_, rfl⟩⟩ := Node.wake_cases stepped
    · refine setPhase isFound rfl fun same => ?_
      subst same
      exact .moved isFound ⟨rfl, rfl, rfl⟩ (by simp)
    · refine setPhase isFound (Node.finish_cases _ _ _ _).1 fun same => ?_
      subst same
      exact .moved isFound ⟨rfl, rfl, rfl⟩ (by simp)
  | apply stepped =>
    obtain ⟨found, isFound, _, rfl⟩ := Node.apply_cases stepped
    refine setPhase isFound (Node.finish_cases _ _ _ _).1 fun same => ?_
    subst same
    exact .applied isFound ⟨rfl, rfl, rfl⟩ rfl (Node.finish_cases _ _ _ _).2
  | restart => simp [Node.start] at isWriter
  | receive => exact .same isWriter

theorem Server.wrote {written : Oned} {cmd : String} {federated : Option Nat} (inv : zone.Invariant later)
    (server : Server zone core id node.oned) (isLeader : node.oned.raft.state = .leader)
    (inserted : node.oned.insertLogRecord node.oned.raft.term cmd federated = some (written, rindex))
    (after : Server zone later id written) :
    Wrote later id { cmd := some cmd, term := node.oned.raft.term, rindex, phase := .inserted } := by
  obtain ⟨_, _, _, _, isIndex, _, isRaft, _, table⟩ := server.insertLogRecord isLeader inserted
  have leads : written.raft.state = .leader := by rw [isRaft]; exact isLeader
  obtain ⟨reign, isReign, self, log⟩ := after.reign inv leads
  have sameTerm : written.raft.term = node.oned.raft.term := by rw [isRaft]; rfl
  rw [← after.term, sameTerm] at isReign
  refine ⟨reign, isReign, self, fun found isCmd => ⟨by dsimp only; omega, ?_⟩⟩
  have stored : written.logdb.table.lookup (rindex - 1 + 1) =
      some ⟨core.term id, cmd, LogDB.federatedIndex federated rindex, false⟩ := by
    rw [Nat.sub_add_cancel (by omega), table, AList.lookup_insert]
  rw [← log]
  exact ⟨_, after.log.entry stored, Option.some.inj isCmd⟩

theorem Wrote.change (inv : zone.Invariant later) (grows : Grows core later)
    (server : Server zone core id (cluster.node id).oned) (after : Server zone later id next.oned)
    (wrote : ∀ number writer, (cluster.node id).writers.lookup number = some writer → Wrote core id writer)
    (change : Change zone cluster event id next) (isWriter : next.writers.lookup number = some writer) :
    Wrote later id writer := by
  cases change.origin isWriter with
  | same isBefore => exact (wrote _ _ isBefore).grows grows
  | moved isBefore same | applied isBefore same => exact same.wrote ((wrote _ _ isBefore).grows grows)
  | reconcile isLeader term cmd phase =>
    obtain ⟨reign, leads, self, _⟩ := after.reign inv isLeader
    rw [← after.term, ← term] at leads
    exact ⟨reign, leads, self, fun found isCmd => by rw [cmd] at isCmd; cases isCmd⟩
  | wrote isLeader inserted isOned isNew =>
    rw [isNew]
    exact server.wrote inv isLeader inserted (isOned ▸ after)

end OpenNebula.Raft
