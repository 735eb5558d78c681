import OpenNebula.Raft.Simulation

namespace OpenNebula.Raft

open Library Library.Consensus Sql

/-! # Answers of the database

A read of a record that is not there is reported, or it returns a record that was
never filled.  As long as no such record has the term that the reader looks for,
and the writes succeed, the handler does what it does on a database that reports
every missing record.
-/

namespace ZoneAPI

/-- The read returns the record; where there is none it says so, or returns a record of another term. -/
def Answers.Reads (read : Option LogDBRecord → Option LogDBRecord) (term : Nat) : Option LogDBRecord → Prop
  | some lr => read (some lr) = some lr
  | none => ∀ lr ∈ read none, lr.term ≠ term

instance (read : Option LogDBRecord → Option LogDBRecord) (term : Nat) :
    (stored : Option LogDBRecord) → Decidable (Answers.Reads read term stored)
  | some lr => inferInstanceAs (Decidable (read (some lr) = some lr))
  | none => inferInstanceAs (Decidable (∀ lr ∈ read none, lr.term ≠ term))

/-- The writes succeed, and no missing record is taken for the one that the request names. -/
structure Answers.Reported (answers : Answers) (logdb : LogDB) (params : ReplicateLogParams) : Prop where
  previous : Reads answers.previous params.prevTerm (logdb.getLogRecord params.prevIndex (params.prevIndex - 1))
  record : Reads answers.record params.term (logdb.getLogRecord params.index (params.index - 1))
  deletes : answers.deletes = true
  inserts : answers.inserts = true

instance (answers : Answers) (logdb : LogDB) (params : ReplicateLogParams) :
    Decidable (answers.Reported logdb params) :=
  decidable_of_iff (_ ∧ _ ∧ _ ∧ _) ⟨fun ⟨previous, record, deletes, inserts⟩ => ⟨previous, record, deletes, inserts⟩,
    fun ⟨previous, record, deletes, inserts⟩ => ⟨previous, record, deletes, inserts⟩⟩

def Answers.Handled (answers : Answers) (logdb : LogDB) : Request → Prop
  | .vote .. => True
  | .replicate params _ => answers.Reported logdb params

instance (answers : Answers) (logdb : LogDB) : (body : Request) → Decidable (answers.Handled logdb body)
  | .vote .. => isTrue trivial
  | .replicate params _ => inferInstanceAs (Decidable (answers.Reported logdb params))

variable {oned : Oned} {log : List LogEntry} {params : ReplicateLogParams} {answers : Answers}
  {rc : Nat → SqlError} {currentTerm : Nat}

theorem checkPrevious_reported {logdb : LogDB} (reported : answers.Reported logdb params) :
    checkPrevious answers logdb params = none ↔ checkPrevious {} logdb params = none := by
  have reads := reported.previous
  simp only [checkPrevious]
  split
  · cases loaded : logdb.getLogRecord params.prevIndex (params.prevIndex - 1) with
    | some lr =>
      rw [loaded] at reads
      rw [show answers.previous (some lr) = some lr from reads]
      rfl
    | none =>
      rw [loaded] at reads
      cases isRead : answers.previous none with
      | none => simp
      | some lr => simp [show lr.term ≠ params.prevTerm from reads lr isRead]
  · rfl

/-- The state, the error code and `resp_id` agree; the texts of two errors can differ. -/
def SameAnswer (left right : Oned × Response) : Prop :=
  left.1 = right.1 ∧ left.2.code = right.2.code ∧ left.2.respId = right.2.respId

theorem insertRecord_reported {logdb : LogDB} (reported : answers.Reported logdb params) :
    insertRecord oned answers params rc currentTerm = insertRecord oned {} params rc currentTerm := by
  simp only [insertRecord, writeRecord, reported.inserts, if_true]

theorem receive_reported (repr : oned.logdb.Represents log)
    (previous : ∀ index, params.index = index + 1 → params.prevIndex = index)
    (reported : answers.Reported oned.logdb params) :
    SameAnswer (receive oned answers params rc currentTerm) (receive oned {} params rc currentTerm) := by
  simp only [receive]
  split
  · exact ⟨rfl, rfl, rfl⟩
  split
  · exact ⟨rfl, rfl, rfl⟩
  cases checked : checkPrevious {} oned.logdb params with
  | some error =>
    cases other : checkPrevious answers oned.logdb params with
    | none => rw [(checkPrevious_reported reported).1 other] at checked; contradiction
    | some _ => exact ⟨rfl, rfl, rfl⟩
  | none =>
    rw [(checkPrevious_reported reported).2 checked]
    have reads := reported.record
    simp only [insertRecord_reported reported]
    cases loaded : oned.logdb.getLogRecord params.index (params.index - 1) with
    | some lr =>
      rw [loaded] at reads
      rw [show answers.record (some lr) = some lr from reads, deleteRecords, reported.deletes]
      exact ⟨rfl, rfl, rfl⟩
    | none =>
      rw [loaded] at reads
      cases isRead : answers.record none with
      | none => exact ⟨rfl, rfl, rfl⟩
      | some lr =>
        -- the record after the last one is missing, and nothing is deleted
        have atEnd : params.index = log.length + 1 := by
          cases isIndex : params.index with
          | zero =>
            obtain ⟨boot, found, _⟩ := repr.load_boot 0
            rw [isIndex, found] at loaded
            contradiction
          | succ index =>
            have isTerm := checkPrevious_none repr isIndex (previous index isIndex) checked
            rw [isIndex, Nat.add_sub_cancel] at loaded
            have beyond : log.length ≤ index := by
              by_contra inside
              obtain ⟨_, _, found⟩ := repr.load (List.getElem?_eq_getElem (Nat.lt_of_not_le inside))
              rw [found] at loaded
              contradiction
            rw [Nat.le_antisymm (LogDB.termAt_le isTerm) beyond]
        simp only [show lr.term ≠ params.term from reads lr isRead, ne_eq, not_false_eq_true, if_true, deleteRecords,
          reported.deletes, atEnd, repr.deleteLogRecords_end]
        exact ⟨rfl, rfl, rfl⟩

/-- With answers of this kind the handler does what it does on a database that reports a missing record. -/
theorem replicateLog_reported (repr : oned.logdb.Represents log)
    (previous : ∀ index, params.index = index + 1 → params.prevIndex = index)
    (reported : answers.Reported oned.logdb params) (oneadmin : Bool) :
    SameAnswer (replicateLog oned answers params oneadmin rc) (replicateLog oned {} params oneadmin rc) := by
  have followed : (followLeader oned params.leaderId params.leaderTerm).logdb.Represents log ∧
      (followLeader oned params.leaderId params.leaderTerm).logdb.table = oned.logdb.table := by
    rw [followLeader_eq]
    split
    · have down := Oned.follower_steppedDown repr.toRows params.leaderTerm
      exact ⟨down.repr, down.table⟩
    · exact ⟨repr, rfl⟩
  have kept : answers.Reported (followLeader oned params.leaderId params.leaderTerm).logdb params := by
    refine ⟨?_, ?_, reported.deletes, reported.inserts⟩
    · rw [LogDB.getLogRecord_table followed.2]
      exact reported.previous
    · rw [LogDB.getLogRecord_table followed.2]
      exact reported.record
  simp only [replicateLog]
  split
  · exact ⟨rfl, rfl, rfl⟩
  split
  · exact ⟨rfl, rfl, rfl⟩
  split
  · exact ⟨rfl, rfl, rfl⟩
  exact receive_reported followed.1 previous kept

end ZoneAPI

/-- The read of the next record of the follower returns it, or says that it is missing. -/
def Node.Reads (node : Node) (followerId : Int) (answers : ZoneAPI.Answers) : Prop :=
  ∀ index ∈ node.oned.raft.next.lookup followerId,
    answers.record (node.oned.logdb.getLogRecord index (index - 1)) = node.oned.logdb.getLogRecord index (index - 1)

instance (node : Node) (followerId : Int) (answers : ZoneAPI.Answers) : Decidable (node.Reads followerId answers) :=
  inferInstanceAs (Decidable (∀ index ∈ node.oned.raft.next.lookup followerId, _ = _))

theorem Node.replicaCall_reads {node : Node} {followerId : Int} {answers : ZoneAPI.Answers}
    (reads : node.Reads followerId answers) (call : Nat) :
    node.replicaCall call followerId answers = node.replicaCall call followerId {} := by
  simp only [Node.replicaCall]
  cases isNext : node.oned.raft.next.lookup followerId with
  | none => rfl
  | some index => simp only [reads index isNext, id_eq]

theorem handle_reported {oned : Oned} {log : List LogEntry} {body : Request} {answers : ZoneAPI.Answers}
    (repr : oned.logdb.Represents log) (handled : answers.Handled oned.logdb body)
    (previous : ∀ params table, body = .replicate params table →
      ∀ index, params.index = index + 1 → params.prevIndex = index) (rc : Nat → SqlError) :
    ZoneAPI.SameAnswer (handle oned body answers rc) (handle oned body {} rc) := by
  cases body with
  | vote => exact ⟨rfl, rfl, rfl⟩
  | replicate params table => exact ZoneAPI.replicateLog_reported repr (previous params table rfl) handled true

namespace Cluster

/-- The zone on databases with any answers. -/
def answered (zone : Zone) : System Cluster (Event × ZoneAPI.Answers) where
  initial := (system zone).initial
  step := fun cluster (event, answers) =>
    match event with
    | .deliver packet rc => cluster.deliver zone packet answers rc
    | .replicaCall id followerId =>
      if id ∈ zone.servers then
        cluster.sending id fun node call => node.replicaCall call followerId answers
      else none
    | event => step zone cluster event

/-- Every read of the step returns the record that it names, or what it returns is not taken for it. -/
def Reported (cluster : Cluster) : Event × ZoneAPI.Answers → Prop
  | (.deliver packet _, answers) => ∀ request ∈ cluster.requests[packet]?,
      answers.Handled (cluster.node request.dest).oned.logdb request.body
  | (.replicaCall id followerId, answers) => (cluster.node id).Reads followerId answers
  | _ => True

instance (cluster : Cluster) : (event : Event × ZoneAPI.Answers) → Decidable (cluster.Reported event)
  | (.deliver packet _, answers) => inferInstanceAs (Decidable (∀ request ∈ cluster.requests[packet]?,
      answers.Handled (cluster.node request.dest).oned.logdb request.body))
  | (.replicaCall id followerId, answers) => inferInstanceAs (Decidable ((cluster.node id).Reads followerId answers))
  | (.timeout _, _) | (.startElection _, _) | (.voteCall _, _) | (.voteReply .., _) | (.endElection _, _)
  | (.heartbeat _, _) | (.heartbeatCall .., _) | (.heartbeatReply .., _) | (.replicaReply .., _)
  | (.replicaRetry .., _) | (.write .., _) | (.replicate .., _) | (.wake .., _) | (.apply .., _)
  | (.restart .., _) => isTrue trivial

variable {zone : Zone} {cluster : Cluster} {core : History}

theorem deliver_reported {packet : Nat} {answers : ZoneAPI.Answers} (tracks : Tracks zone cluster core)
    (reported : ∀ request ∈ cluster.requests[packet]?,
      answers.Handled (cluster.node request.dest).oned.logdb request.body) (rc : Nat → SqlError) :
    cluster.deliver zone packet answers rc = cluster.deliver zone packet {} rc := by
  simp only [Cluster.deliver]
  cases isRequest : cluster.requests[packet]? with
  | none => rfl
  | some request =>
    simp only
    split
    · rfl
    · rename_i member
      have authentic := tracks.authentic request (List.mem_of_getElem? isRequest)
      have previous : ∀ params table, request.body = .replicate params table →
          ∀ index, params.index = index + 1 → params.prevIndex = index := by
        intro params table body index isIndex
        simp only [Authentic, body] at authentic
        obtain ⟨_, _, _, _, record, _⟩ := authentic
        exact (record index isIndex).1
      obtain ⟨state, code, respId⟩ := handle_reported (tracks.server request.dest (Decidable.not_not.1 member)).log
        (reported request isRequest) previous rc
      rw [state, code, respId]

theorem answered_step {event : Event × ZoneAPI.Answers} (tracks : Tracks zone cluster core)
    (reported : cluster.Reported event) : (answered zone).step cluster event = (system zone).step cluster event.1 := by
  obtain ⟨event, answers⟩ := event
  cases event with
  | deliver packet rc => exact deliver_reported tracks reported rc
  | replicaCall id followerId =>
    simp only [answered, sending, Node.replicaCall_reads reported]
    rfl
  | _ => rfl

/-- The runs with answers of this kind are the runs of the zone. -/
theorem reachable_of_answered (reached : (answered zone).Reachable Reported cluster) :
    (system zone).Reachable System.anyStep cluster := by
  refine reached.invariant (fun start isInitial => ⟨start, isInitial, Relation.ReflTransGen.refl⟩) ?_
  intro before event next reachedBefore reported stepped
  obtain ⟨core, _, tracks⟩ := related_of_reachable reachedBefore
  rw [answered_step tracks reported] at stepped
  exact reachedBefore.step trivial stepped

end Cluster

end OpenNebula.Raft
