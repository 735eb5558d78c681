import OpenNebula.Raft.Safety
import OpenNebula.Raft.Writers

namespace OpenNebula.Raft

open Library Library.Consensus Sql

/-! # Acknowledged writes

`_exec_wr` waits for its replica request, checks that the server leads and
applies the log up to the index it got from `insert_log_record`.  Nothing in
that path compares terms: another leader may have replaced the record while the
client waited.
-/

/-- The rows marked as applied are still those that were executed, and nothing
that was executed is forgotten. -/
structure LogDB.Executes (before after : LogDB) : Prop where
  recorded : before.Recorded → after.Recorded
  executed : ∀ record ∈ before.executed, record ∈ after.executed

namespace LogDB.Executes

theorem trans {first second third : LogDB} (left : Executes first second)
    (right : Executes second third) : Executes first third :=
  ⟨fun recorded => right.recorded (left.recorded recorded),
    fun record inside => right.executed record (left.executed record inside)⟩

variable {before after : LogDB}

theorem of_same (table : after.table = before.table) (executed : after.executed = before.executed) :
    Executes before after where
  recorded := by rw [LogDB.Recorded, LogDB.Recorded, table, executed]; exact id
  executed := by rw [executed]; exact fun _ inside => inside

theorem of_run {log : List LogEntry} {commitIndex : Nat} (ran : LogDB.ApplyRun log commitIndex before after)
    (repr : before.Represents log) : Executes before after := by
  refine ⟨ran.recorded repr, ?_⟩
  induction ran with
  | done db => exact fun _ inside => inside
  | next _ _ _ _ ih =>
    exact fun record inside => ih (repr.markApplied _) record (List.mem_append_left _ inside)

theorem of_rows (executed : after.executed = before.executed)
    (rows : ∀ index row, after.table.lookup index = some row → row.applied = true → before.table.lookup index = some row) :
    Executes before after where
  recorded := by
    intro recorded index row stored marked
    rw [executed]
    exact recorded index row (rows _ row stored marked) marked
  executed := by rw [executed]; exact fun _ inside => inside

end LogDB.Executes

variable {zone : Zone} {cluster after : Cluster} {core later : History} {id : Int}
  {node next : Node} {event : Event}

theorem ZoneAPI.advanceCommit_executes {oned : Oned} {log : List LogEntry}
    (repr : oned.logdb.Represents log) (leaderCommit index : Nat) (rc : Nat → SqlError) :
    LogDB.Executes oned.logdb (advanceCommit oned leaderCommit index rc).logdb :=
  .of_run (repr.applyLogRecords _ rc) repr

theorem ZoneAPI.followLeader_executes {oned : Oned} {log : List LogEntry}
    (repr : oned.logdb.Represents log) (leaderId : Int) (leaderTerm : Nat) :
    LogDB.Executes oned.logdb (followLeader oned leaderId leaderTerm).logdb := by
  rw [followLeader_eq]
  split
  · have down := Oned.follower_steppedDown repr.toRows leaderTerm
    exact .of_same down.table down.executed
  · exact .of_same rfl rfl

section

variable (inv : zone.Invariant core)
include inv

theorem ZoneAPI.replicateLog_executes {params : ReplicateLogParams} {rc : Nat → SqlError}
    {oned : Oned} (server : Server zone core id oned)
    (zero : params.index = 0 → params.term = 0)
    (previous : ∀ index, params.index = index + 1 → params.prevIndex = index) :
    LogDB.Executes oned.logdb (replicateLog oned {} params true rc).1.logdb := by
  rcases replicateLog_cases params rc server.cache with ⟨_, same, _⟩ | ⟨_, isResult⟩
  · rw [same]; exact .of_same rfl rfl
  · have follows := followLeader_executes server.log params.leaderId params.leaderTerm
    have repr := (server.followLeader inv params.leaderId params.leaderTerm).log
    rcases receive_cases repr zero previous isResult.symm with
      ⟨same, _⟩ | ⟨_, ⟨_, _, same⟩ | ⟨_, _, same⟩ | ⟨_, index, _, _, outcome⟩⟩
    · rw [same]; exact follows
    · rw [same]; exact follows.trans (advanceCommit_executes repr _ _ rc)
    · rw [same]; exact follows
    · rcases outcome with ⟨_, same⟩ | ⟨_, logdb, stored, same⟩
      · rw [same]; exact follows
      · have kept : LogDB.Executes (followLeader oned params.leaderId params.leaderTerm).logdb
            logdb := by
          refine .of_rows stored.untouched.executed fun other row isRow marked => ?_
          rw [stored.row other] at isRow
          split at isRow
          · rw [← Option.some.inj isRow] at marked
            cases marked
          · split at isRow
            · exact isRow
            · cases isRow
        rw [same]
        exact follows.trans (kept.trans (@advanceCommit_executes
          { followLeader oned params.leaderId params.leaderTerm with logdb } _ stored.repr _ _ rc))

theorem Change.executes (tracks : Tracks zone cluster core)
    (member : id ∈ zone.servers) (change : Change zone cluster event id next) :
    LogDB.Executes (cluster.node id).oned.logdb next.oned.logdb := by
  have server := tracks.server id member
  obtain ⟨_, _, table, _, _, executed, _⟩ := server.log.toRows.setupIndex
  cases change with
  | quiet same => exact .of_same same.table same.executed
  | reindex _ same => exact .of_same (same.table.trans table) (same.executed.trans executed)
  | @down _ _ middle _ term first represents last =>
    have rows : LogDB.Rows middle.oned.logdb.table (core.log id) := by
      rw [represents]; exact server.log.toRows
    have down := Oned.follower_steppedDown rows term
    exact .of_same (last.table.trans (down.table.trans first.table))
      (last.executed.trans (down.executed.trans first.executed))
  | lead =>
    rw [(cluster.node id).becomeLeader_eq.1]
    exact .of_same table executed
  | call => exact .of_same rfl rfl
  | success ended | failure ended =>
    have same := (Node.endReplicaCall_cases ended).1
    exact .of_same same.table same.executed
  | write stepped =>
    obtain ⟨isLeader, oned, rindex, inserted, rfl⟩ := Node.write_cases stepped
    obtain ⟨_, _, _, _, _, _, _, untouched, table⟩ := server.insertLogRecord isLeader inserted
    refine .of_rows untouched.executed fun index row isRow marked => ?_
    rw [table, Map.lookup_insert_eq] at isRow
    split at isRow
    · rw [← Option.some.inj isRow] at marked
      cases marked
    · exact isRow
  | replicate stepped =>
    obtain ⟨found, _, _, rfl⟩ := Node.replicate_cases stepped
    exact .of_same rfl rfl
  | wake stepped =>
    obtain ⟨found, rr, _, _, _, _, ⟨_, _, rfl⟩ | ⟨_, rfl⟩⟩ := Node.wake_cases stepped
    · exact .of_same rfl rfl
    · rw [(Node.finish_cases _ _ _ _).2]; exact .of_same rfl rfl
  | @apply _ _ rc _ stepped =>
    obtain ⟨found, _, _, rfl⟩ := Node.apply_cases stepped
    rw [(Node.finish_cases _ _ _ _).2]
    exact .of_run (server.log.applyLogRecords found.rindex rc) server.log
  | @restart _ now =>
    obtain ⟨_, table, _, _, executed, _⟩ := LogDB.load_represents server.log.toRows
      false false (cluster.node id).oned.logdb.raftState (cluster.node id).oned.logdb.executed now
    exact .of_same table executed
  | @receive _ rc request params table isRequest body =>
    have authentic := tracks.authentic request (List.mem_of_getElem? isRequest)
    rw [Authentic, body] at authentic
    obtain ⟨_, _, _, zero, record, _⟩ := authentic
    exact ZoneAPI.replicateLog_executes inv server zero fun index isIndex =>
      (record index isIndex).1

/-- The record at the index of the write is applied and has its command. -/
def Honoured (node : Node) (writer : Writer) (cmd : String) : Prop :=
  ∃ row, node.oned.logdb.table.lookup writer.rindex = some row ∧ row.applied = true ∧
    row.sqlcmd = cmd ∧ (writer.rindex, row.entry) ∈ node.oned.logdb.executed

/-- When a client goes on to `apply_log_records`, its index still holds a record
of the term it wrote in, and `last_applied` is not past that record unless the
record is applied. -/
def Steady (cluster : Cluster) : Event → Prop
  | .apply id number _ => ∀ writer ∈ (cluster.node id).writers.lookup number, writer.cmd ≠ none →
      ∃ row ∈ (cluster.node id).oned.logdb.table.lookup writer.rindex, row.term = writer.term ∧
        (writer.rindex ≤ (cluster.node id).oned.logdb.lastApplied → row.applied = true)
  | _ => True

instance (cluster : Cluster) (event : Event) : Decidable (Steady cluster event) := by
  cases event <;> unfold Steady <;> infer_instance

structure Books (core : History) (id : Int) (node : Node) : Prop where
  wrote : ∀ number writer, node.writers.lookup number = some writer → Wrote core id writer
  recorded : node.oned.logdb.Recorded
  returned : ∀ number writer cmd, node.writers.lookup number = some writer →
    writer.cmd = some cmd → writer.phase = .returned true →
    ∃ entry, (writer.rindex, entry) ∈ node.oned.logdb.executed ∧ entry.sqlcmd = cmd

theorem Wrote.entry {writer : Writer} {cmd : String} {row : LogRow}
    (wrote : Wrote core id writer) (isCmd : writer.cmd = some cmd)
    (rows : LogDB.Rows node.oned.logdb.table (core.log id))
    (stored : node.oned.logdb.table.lookup writer.rindex = some row) (sameTerm : row.term = writer.term) :
    row.sqlcmd = cmd ∧ (core.log id)[writer.rindex - 1]? = some row.entry := by
  obtain ⟨reign, leads, _, record⟩ := wrote
  obtain ⟨positive, entry, found, isSql⟩ := record cmd isCmd
  rw [← Nat.sub_add_cancel positive] at stored
  have mine := rows.entry stored
  obtain ⟨holder, leadsHolder, agrees⟩ := inv.logs.coherent id _ _ mine
  rw [show row.entry.term = writer.term from sameTerm, leads, Option.some.injEq] at leadsHolder
  subst leadsHolder
  have inside := length_lt_of_getElem? mine
  have theirs := @getElem?_of_isPrefix _ _ _ (writer.rindex - 1) agrees
    (by rw [List.length_take]; omega)
  rw [List.getElem?_take_of_lt (Nat.lt_succ_self _), mine, found, Option.some.injEq] at theirs
  exact ⟨by rw [← isSql, theirs]; rfl, mine⟩

theorem Honoured.of_success {writer : Writer} {cmd : String} {row : LogRow} {rc : Nat → SqlError}
    (repr : node.oned.logdb.Represents (core.log id))
    (wrote : Wrote core id writer) (recorded : node.oned.logdb.Recorded) (isCmd : writer.cmd = some cmd)
    (success : (node.oned.logdb.applyLogRecords writer.rindex rc).2 = true)
    (logdb : next.oned.logdb = (node.oned.logdb.applyLogRecords writer.rindex rc).1)
    (stored : node.oned.logdb.table.lookup writer.rindex = some row) (sameTerm : row.term = writer.term)
    (passed : writer.rindex ≤ node.oned.logdb.lastApplied → row.applied = true) : Honoured next writer cmd := by
  have ran := repr.applyLogRecords writer.rindex rc
  have reached := LogDB.applyLogRecords_success success
  rw [← logdb] at ran reached
  have applied : next.oned.logdb.Applied writer.rindex := by
    rcases Nat.lt_or_ge node.oned.logdb.lastApplied writer.rindex with ahead | behind
    · exact ran.passed repr ahead reached
    · exact ran.applied ⟨row, stored, passed behind⟩
  obtain ⟨row', stored', marked⟩ := applied
  have sameLog := (ran.represents repr).toRows
  have positive : 0 < writer.rindex := by
    obtain ⟨_, _, _, record⟩ := wrote
    exact (record cmd isCmd).1
  obtain ⟨_, mine⟩ := wrote.entry inv isCmd repr.toRows stored sameTerm
  have sameEntry : row'.entry = row.entry := by
    have found := @LogDB.Rows.entry _ _ sameLog (writer.rindex - 1) row'
      (by rw [Nat.sub_add_cancel positive]; exact stored')
    rw [mine, Option.some.injEq] at found
    exact found.symm
  have isSql := (wrote.entry inv isCmd sameLog stored' ((congrArg LogEntry.term sameEntry).trans sameTerm)).1
  have isRecorded := ran.recorded repr recorded (writer.rindex - 1) row'
    (by rw [Nat.sub_add_cancel positive]; exact stored') marked
  rw [Nat.sub_add_cancel positive] at isRecorded
  exact ⟨row', stored', marked, isSql, isRecorded⟩

end

theorem Books.frame (books : Books core id node) (grows : Grows core later) : Books later id node :=
  { books with wrote := fun number writer isWriter => (books.wrote number writer isWriter).grows grows }

theorem Books.honoured {number : Nat} {writer : Writer} {cmd : String}
    (related : Related zone cluster core) (member : id ∈ zone.servers)
    (books : Books core id (cluster.node id)) (steady : Steady cluster event)
    (change : Change zone cluster event id next)
    (isWriter : next.writers.lookup number = some writer) (isCmd : writer.cmd = some cmd)
    (success : writer.phase = .returned true) :
    (cluster.node id).writers.lookup number = some writer ∨ Honoured next writer cmd := by
  cases change.origin isWriter with
  | same isBefore => exact .inl isBefore
  | moved _ _ phase => exact absurd success phase
  | reconcile _ _ cmd => rw [cmd] at isCmd; cases isCmd
  | wrote _ _ _ isNew => rw [isNew] at success; cases success
  | @applied rc before isBefore same phase logdb =>
    right
    have isCmdBefore : before.cmd = some cmd := same.cmd ▸ isCmd
    rw [success, WriterPhase.returned.injEq] at phase
    obtain ⟨row, stored, sameTerm, passed⟩ := steady before isBefore (by rw [isCmdBefore]; simp)
    rw [Honoured, same.rindex]
    exact Honoured.of_success related.1 (related.2.server id member).log
      (books.wrote number before isBefore) books.recorded isCmdBefore phase.symm logdb stored
      sameTerm passed

theorem Books.change (related : Related zone cluster core) (member : id ∈ zone.servers)
    (inv : zone.Invariant later) (grows : Grows core later)
    (after : Server zone later id next.oned) (steady : Steady cluster event)
    (change : Change zone cluster event id next) (books : Books core id (cluster.node id)) : Books later id next := by
  have executes := change.executes related.1 related.2 member
  refine ⟨fun number writer => Wrote.change inv grows (related.2.server id member) after books.wrote
    change, executes.recorded books.recorded, ?_⟩
  intro number writer cmd isWriter isCmd success
  rcases books.honoured related member steady change isWriter isCmd success with
    isBefore | ⟨row, _, _, isSql, inside⟩
  · obtain ⟨entry, inside, isSql⟩ := books.returned number writer cmd isBefore isCmd success
    exact ⟨entry, executes.executed _ inside, isSql⟩
  · exact ⟨row.entry, inside, isSql⟩

theorem Books.boot (id : Int) (servers : List Int) (now : Nat) :
    Books (Core.start Int LogEntry) id (Node.boot id servers now) := by
  obtain ⟨repr, stored, _, _, executed, _⟩ := LogDB.load_empty none (toString now)
  refine ⟨fun number writer isWriter => ?_, fun index row isRow => ?_, fun number writer cmd isWriter => ?_⟩
  · simp [Node.boot, Node.start] at isWriter
  · have absent := repr.absent (Nat.zero_le index)
    have isLoaded : (LogDB.load false false ∅ none [] (toString now)).table.lookup (index + 1) =
        some row := isRow
    rw [absent] at isLoaded
    cases isLoaded
  · simp [Node.boot, Node.start] at isWriter

/-- Every write that returned success executed its command at its index. -/
def WriteIntegrity (zone : Zone) (cluster : Cluster) : Prop :=
  ∀ id ∈ zone.servers, ∀ number writer cmd,
    (cluster.node id).writers.lookup number = some writer → writer.cmd = some cmd →
    writer.phase = .returned true →
    ∃ entry, (writer.rindex, entry) ∈ (cluster.node id).oned.logdb.executed ∧ entry.sqlcmd = cmd

/-- In a run of steady steps every acknowledged write was executed, and when it
returns its record is in the log and applied. -/
theorem write_integrity (reached : (Cluster.system zone).Reachable Steady cluster) :
    WriteIntegrity zone cluster ∧ ∀ event after, Steady cluster event →
      Cluster.step zone cluster event = some after → ∀ id ∈ zone.servers, ∀ number writer cmd,
      (after.node id).writers.lookup number = some writer → writer.cmd = some cmd → writer.phase = .returned true →
      (cluster.node id).writers.lookup number ≠ some writer → Honoured (after.node id) writer cmd := by
  obtain ⟨core, related, books⟩ := Cluster.serverInvariant reached
    (fun id now => Books.boot id zone.servers now)
    (fun _ _ _ _ grows _ _ books => books.frame grows)
    (fun _ _ _ _ _ _ related member inv grows after steady change books =>
      books.change related member inv grows after steady change)
  refine ⟨fun id member => (books id member).returned, ?_⟩
  intro event after steady stepped id member number writer cmd isWriter isCmd success isNew
  obtain ⟨moved, _, change, others⟩ := Cluster.step_change related.2 stepped
  by_cases same : id = moved
  · subst same
    exact ((books id member).honoured related member steady change isWriter isCmd success).resolve_left
      isNew
  · rw [others id same] at isWriter
    exact absurd isWriter isNew

/-- The client of server 0 is slow: server 1 leads in between, puts another
record at its index, and server 0 is elected again. -/
def slowClient : List Event :=
  [.timeout 0, .startElection 0, .voteCall 0, .deliver 0 fun _ => .success, .voteReply 0 (some 0),
    .endElection 0, .write 0 "INSERT" none,
    .timeout 1, .startElection 1, .voteCall 1, .voteReply 1 none, .voteCall 1,
    .deliver 2 fun _ => .success, .voteReply 1 (some 1), .endElection 1, .write 1 "DELETE" none,
    .replicate 1 0, .replicaCall 1 0, .deliver 3 fun _ => .success,
    .replicaReply 1 (.pool 0) (some 2), .heartbeatCall 1 0, .deliver 4 fun _ => .success,
    .timeout 0, .startElection 0, .voteCall 0, .deliver 5 fun _ => .success,
    .voteReply 0 (some 4), .endElection 0,
    .replicate 0 0, .wake 0 0, .apply 0 0 fun _ => .success]

theorem write_integrity_slow_client : ∃ cluster, (Cluster.system threeServers).Reachable System.anyStep cluster ∧
      (cluster.node 0).writers.lookup 0 = some ⟨some "INSERT", 1, 1, .returned true⟩ ∧
      (cluster.node 0).oned.logdb.table.lookup 1 = some ⟨2, "DELETE", none, true⟩ ∧
      ¬ WriteIntegrity threeServers cluster := by
  have ran : (((Cluster.system threeServers).exec System.anyStep
      (Cluster.init threeServers fun _ => 0) slowClient).map fun cluster =>
        ((cluster.node 0).writers.lookup 0, (cluster.node 0).oned.logdb.table.lookup 1,
          (cluster.node 0).oned.logdb.executed)) =
      some (some ⟨some "INSERT", 1, 1, .returned true⟩, some ⟨2, "DELETE", none, true⟩,
        [(1, ⟨2, "DELETE", none⟩)]) := by
    decide
  obtain ⟨cluster, ran, isState⟩ := Option.map_eq_some_iff.mp ran
  simp only [Prod.mk.injEq] at isState
  obtain ⟨isWriter, stored, executed⟩ := isState
  refine ⟨cluster, System.reachable_of_exec ⟨_, rfl⟩ ran, isWriter, stored, fun integrity => ?_⟩
  obtain ⟨entry, inside, isSql⟩ := integrity 0 (by decide) 0 _ "INSERT" isWriter rfl rfl
  rw [executed, List.mem_singleton, Prod.mk.injEq] at inside
  rw [inside.2] at isSql
  exact absurd isSql (by decide)

/-- The record is replicated to server 1, committed and applied. -/
theorem write_integrity_first_reign : ∃ cluster entry, (Cluster.system threeServers).Reachable Steady cluster ∧
      (cluster.node 0).writers.lookup 0 = some ⟨some "INSERT", 1, 1, .returned true⟩ ∧
      (1, entry) ∈ (cluster.node 0).oned.logdb.executed ∧ entry.sqlcmd = "INSERT" := by
  have ran : (((Cluster.system threeServers).exec Steady (Cluster.init threeServers fun _ => 0)
      (firstReign ++ [.replicaReply 0 (.pool 1) (some 1), .wake 0 0,
        .apply 0 0 fun _ => .success])).map fun cluster => (cluster.node 0).writers.lookup 0) =
      some (some ⟨some "INSERT", 1, 1, .returned true⟩) := by
    decide
  obtain ⟨cluster, ran, isWriter⟩ := Option.map_eq_some_iff.mp ran
  have reached : (Cluster.system threeServers).Reachable Steady cluster := System.reachable_of_exec ⟨_, rfl⟩ ran
  obtain ⟨entry, inside, isSql⟩ := (write_integrity reached).1 0 (by decide) 0 _ "INSERT" isWriter
    rfl rfl
  exact ⟨cluster, entry, reached, isWriter, inside, isSql⟩

end OpenNebula.Raft
