import OpenNebula.Sql.Records
import OpenNebula.Raft.ZoneAPI

namespace OpenNebula.Raft

open Library Library.Consensus Sql

/-! # What the handlers do

One lemma for each handler lists its outcomes in terms of the log as a list; the
invariants use these and do not unfold the handlers.
-/

namespace RaftManager

variable (raft : RaftManager) (term applied : Nat)

@[simp] theorem follower_state : (raft.follower term applied).state = .follower := by
  simp only [follower]; split <;> rfl

@[simp] theorem follower_serverId : (raft.follower term applied).serverId = raft.serverId := by
  simp only [follower]; split <;> rfl

@[simp] theorem follower_servers : (raft.follower term applied).servers = raft.servers := by
  simp only [follower]; split <;> rfl

@[simp] theorem follower_numServers : (raft.follower term applied).numServers = raft.numServers := by
  simp only [follower]; split <;> rfl

@[simp] theorem follower_term : (raft.follower term applied).term = max raft.term term := by
  simp only [follower]; split <;> simp only <;> omega

@[simp] theorem follower_votedfor : (raft.follower term applied).votedfor =
    if raft.term < term then -1 else raft.votedfor := by
  simp only [follower]; split <;> rfl

@[simp] theorem follower_raftState : (raft.follower term applied).raftState =
    if raft.term < term then ⟨term, -1⟩ else raft.raftState := by
  simp only [follower]; split <;> rfl

@[simp] theorem follower_commit : (raft.follower term applied).commit = applied := rfl

@[simp] theorem follower_next : (raft.follower term applied).next = ∅ := rfl

@[simp] theorem follower_matched : (raft.follower term applied).matched = ∅ := rfl

@[simp] theorem follower_replicaManager : (raft.follower term applied).replicaManager = ∅ := by
  simp only [follower]; split <;> rfl

@[simp] theorem follower_heartbeatManager : (raft.follower term applied).heartbeatManager = ∅ := by
  simp only [follower]; split <;> rfl

@[simp] theorem follower_finalized : (raft.follower term applied).finalized =
    raft.finalized ++ raft.replicaManager.calls := by
  simp only [follower]; split <;> rfl

@[simp] theorem follower_requests : (raft.follower term applied).requests = raft.requests.clear := by
  simp only [follower]; split <;> rfl

end RaftManager

def ReplicaManager.SameCalls (before after : ReplicaManager) : Prop :=
  ∀ id, (after.lookup id).map ReplicaThread.call = (before.lookup id).map ReplicaThread.call

namespace ReplicaManager

theorem SameCalls.refl (pool : ReplicaManager) : SameCalls pool pool := fun _ => rfl

theorem SameCalls.trans {first second third : ReplicaManager} (left : SameCalls first second)
    (right : SameCalls second third) : SameCalls first third :=
  fun id => (right id).trans (left id)

theorem SameCalls.mem {before after : ReplicaManager} (same : SameCalls before after) {id : Int} :
    id ∈ after ↔ id ∈ before := by
  have lookups := congrArg Option.isSome (same id)
  rw [Option.isSome_map, Option.isSome_map] at lookups
  rw [← AList.lookup_isSome, ← AList.lookup_isSome, lookups]

theorem replicate_sameCalls (followerId : Int) (pool : ReplicaManager) :
    SameCalls pool (pool.replicate followerId) := by
  intro id
  rw [replicate, Map.lookup_modify, Option.map_map]
  congr 1
  funext thread
  simp only [Function.comp]
  split <;> rfl

theorem replicateAll_sameCalls (pool : ReplicaManager) : SameCalls pool pool.replicateAll := by
  intro id
  rw [replicateAll, Map.lookup_modify, Option.map_map]
  rfl

theorem foldl_replicate_sameCalls (followers : List (Σ _ : Int, Nat)) (index : Nat) (pool : ReplicaManager) :
    SameCalls pool (followers.foldl (fun (pool : ReplicaManager) (follower : Σ _ : Int, Nat) =>
      if index < follower.2 then pool else pool.replicate follower.1) pool) := by
  induction followers generalizing pool with
  | nil => exact SameCalls.refl pool
  | cons follower followers ih =>
    rw [List.foldl_cons]
    split
    · exact ih pool
    · exact (replicate_sameCalls follower.1 pool).trans (ih _)

end ReplicaManager

namespace RaftManager

section

variable (raft : RaftManager)

theorem replicateFailure_cases (followerId : Int) :
    ∃ next pool, raft.replicaManager.SameCalls pool ∧ (∀ id, next.lookup id = (raft.next.lookup id).map fun index =>
        if id = followerId then index - 1 else index) ∧
      raft.replicateFailure followerId = { raft with next, replicaManager := pool } := by
  have pools : ∀ next : Map Int Nat, ∃ pool, raft.replicaManager.SameCalls pool ∧
      (if ({ raft with next } : RaftManager).state = .leader then
        { raft with next, replicaManager := raft.replicaManager.replicate followerId }
      else { raft with next }) = { raft with next, replicaManager := pool } := by
    intro next
    by_cases isLeader : raft.state = .leader
    · exact ⟨_, ReplicaManager.replicate_sameCalls followerId _, by simp [isLeader]⟩
    · exact ⟨_, ReplicaManager.SameCalls.refl _, by simp [isLeader]⟩
  have unchanged : ∀ id, raft.next.lookup id = none ∨ raft.next.lookup id = some 0 ∨
      id ≠ followerId → raft.next.lookup id = (raft.next.lookup id).map fun index =>
        if id = followerId then index - 1 else index := by
    intro id either
    rcases either with absent | zero | apart
    · rw [absent]; rfl
    · rw [zero]; simp
    · simp [apart]
  cases found : raft.next.lookup followerId with
  | none =>
    obtain ⟨pool, same, isPool⟩ := pools raft.next
    refine ⟨raft.next, pool, same, fun id => unchanged id ?_, ?_⟩
    · by_cases isId : id = followerId
      · exact .inl (isId ▸ found)
      · exact .inr (.inr isId)
    · simpa [replicateFailure, found] using isPool
  | some index =>
    by_cases positive : 0 < index
    · obtain ⟨pool, same, isPool⟩ := pools (raft.next.insert followerId (index - 1))
      refine ⟨_, pool, same, fun id => ?_, by simpa [replicateFailure, found, positive] using isPool⟩
      rw [Map.lookup_insert_eq]
      split
      · rename_i isId
        rw [isId, found]; simp
      · rename_i apart
        simp
    · obtain ⟨pool, same, isPool⟩ := pools raft.next
      refine ⟨raft.next, pool, same, fun id => unchanged id ?_,
        by simpa [replicateFailure, found, positive] using isPool⟩
      by_cases isId : id = followerId
      · rw [isId, found, Nat.eq_zero_of_not_pos positive]; exact .inr (.inl rfl)
      · exact .inr (.inr isId)

theorem replicateSuccess_cases (followerId : Int) (dbLindex : Nat) :
    ((raft.next.lookup followerId = none ∨ raft.matched.lookup followerId = none) ∧
      raft.replicateSuccess followerId dbLindex = raft) ∨ ∃ index pool, raft.next.lookup followerId = some index ∧
      raft.replicaManager.SameCalls pool ∧ raft.replicateSuccess followerId dbLindex = { raft with
          matched := raft.matched.insert followerId index
          next := raft.next.insert followerId (index + 1)
          requests := (raft.requests.addReplica index).1
          commit := if (raft.requests.addReplica index).2 = 0 then index else raft.commit
          replicaManager := pool } := by
  simp only [replicateSuccess]
  cases found : raft.next.lookup followerId with
  | none => left; simp
  | some index =>
    cases known : raft.matched.lookup followerId with
    | none => left; simp
    | some matchedIndex =>
      right
      dsimp only
      split
      · exact ⟨index, _, rfl, ReplicaManager.replicate_sameCalls followerId _, rfl⟩
      · exact ⟨index, _, rfl, ReplicaManager.SameCalls.refl _, rfl⟩

def needed (index : Nat) : Int :=
  (raft.numServers / 2 : Nat) - (raft.replicated index : Int)

theorem replicateLog_cases {request : Nat} {rr : ReplicaRequest}
    (found : raft.requests.objects.lookup request = some rr) : (raft.state ≠ .leader ∧ raft.replicateLog request =
      { raft with requests := (raft.requests.update request .notify).remove rr.index }) ∨
    (raft.state = .leader ∧ ∃ pool, raft.replicaManager.SameCalls pool ∧
      ((raft.needed rr.index ≤ 0 ∧ raft.replicateLog request = { raft with
          replicaManager := pool
          requests := (raft.requests.update request fun rr =>
            { rr.notify with result := true, timeout := false }).remove rr.index
          commit := rr.index }) ∨
      (0 < raft.needed rr.index ∧ raft.replicateLog request = { raft with
          replicaManager := pool
          requests := (raft.requests.update request fun other =>
            { other with toCommit := raft.needed rr.index }).set rr.index request }))) := by
  by_cases isLeader : raft.state = .leader
  · right
    refine ⟨isLeader, _, ReplicaManager.foldl_replicate_sameCalls raft.next.entries rr.index _, ?_⟩
    by_cases enough : raft.needed rr.index ≤ 0
    · left
      refine ⟨enough, ?_⟩
      rw [needed] at enough
      simp only [replicateLog, found, isLeader, ne_eq, not_true_eq_false, if_false, enough, if_true]
    · right
      refine ⟨Int.not_le.1 enough, ?_⟩
      rw [needed] at enough ⊢
      simp only [replicateLog, found, isLeader, ne_eq, not_true_eq_false, if_false, enough]
  · left
    exact ⟨isLeader, by simp [replicateLog, found, isLeader]⟩

end

end RaftManager

namespace Oned

structure SteppedDown (log : List LogEntry) (term : Nat) (before after : Oned) : Prop where
  raft : after.raft = before.raft.follower term before.logdb.appliedIndex
  repr : after.logdb.Represents log
  table : after.logdb.table = before.logdb.table
  lastApplied : after.logdb.lastApplied = before.logdb.appliedIndex
  executed : after.logdb.executed = before.logdb.executed
  solo : after.logdb.solo = before.logdb.solo
  cache : after.logdb.cache = before.logdb.cache
  raftState : after.logdb.raftState =
    if before.raft.term < term then some ⟨term, -1⟩ else before.logdb.raftState

variable {oned : Oned} {log : List LogEntry}

theorem follower_steppedDown (rows : LogDB.Rows oned.logdb.table log) (term : Nat) :
    SteppedDown log term oned (oned.follower term) := by
  obtain ⟨repr, indexes, table, lastApplied, raftState, executed, solo, cache⟩ := rows.setupIndex
  have raft : (oned.follower term).raft = oned.raft.follower term oned.logdb.appliedIndex := by
    simp only [follower, indexes]
  by_cases later : oned.raft.term < term
  · have logdb : (oned.follower term).logdb =
        oned.logdb.setupIndex.1.updateRaftState ⟨term, -1⟩ := by
      simp [follower, later]
    exact ⟨raft, logdb ▸ repr.raftState _, logdb ▸ table, logdb ▸ lastApplied, logdb ▸ executed,
      logdb ▸ solo, logdb ▸ cache, by rw [if_pos later, logdb]; rfl⟩
  · have logdb : (oned.follower term).logdb = oned.logdb.setupIndex.1 := by
      simp [follower, later]
    exact ⟨raft, logdb ▸ repr, logdb ▸ table, logdb ▸ lastApplied, logdb ▸ executed,
      logdb ▸ solo, logdb ▸ cache, by rw [if_neg later, logdb, raftState]⟩

end Oned

namespace ZoneAPI

variable {oned : Oned} {log : List LogEntry}

theorem followLeader_eq (oned : Oned) (leaderId : Int) (leaderTerm : Nat) : followLeader oned leaderId leaderTerm =
      let oned := if oned.raft.term < leaderTerm ∨ oned.raft.state = .candidate then
        oned.follower leaderTerm else oned
      { oned with raft := oned.raft.updateLastHeartbeat leaderId } := by
  by_cases later : oned.raft.term < leaderTerm
  · have down : (oned.follower leaderTerm).raft.state = .follower := by simp [Oned.follower]
    simp [followLeader, later, down]
  · simp [followLeader, later]

def record (params : ReplicateLogParams) : LogEntry := ⟨params.term, params.sql, params.fedIndex⟩

variable {params : ReplicateLogParams}

theorem checkPrevious_none {logdb : LogDB} (repr : logdb.Represents log) {index : Nat}
    (isIndex : params.index = index + 1) (previous : params.prevIndex = index)
    (passed : checkPrevious {} logdb params = none) : termAt log index = some params.prevTerm := by
  simp only [checkPrevious, isIndex, Nat.succ_pos, if_true, previous] at passed
  split at passed
  · contradiction
  · rename_i prevLr loaded
    split at passed
    · contradiction
    · rename_i same
      rw [repr.loadedTerm loaded, Decidable.not_not.1 same]

theorem checkPrevious_some {logdb : LogDB} (repr : logdb.Represents log) {error : String}
    (previous : ∀ index, params.index = index + 1 → params.prevIndex = index)
    (failed : checkPrevious {} logdb params = some error) :
    ∃ index, params.index = index + 1 ∧ termAt log index ≠ some params.prevTerm := by
  simp only [checkPrevious] at failed
  split at failed
  · rename_i positive
    obtain ⟨index, isIndex⟩ : ∃ index, params.index = index + 1 := ⟨params.index - 1, by omega⟩
    refine ⟨index, isIndex, fun isTerm => ?_⟩
    rw [previous index isIndex] at failed
    have inside := LogDB.termAt_le isTerm
    obtain ⟨row, stored⟩ := repr.present inside
    obtain ⟨prevRow, prevStored⟩ := repr.present ((Nat.sub_le index 1).trans inside)
    obtain ⟨lr, loaded, lrTerm⟩ := LogDB.getLogRecord_term stored prevStored
    rw [repr.rowTerm stored, Option.some.injEq] at isTerm
    rw [loaded] at failed
    simp [lrTerm, isTerm] at failed
  · contradiction

/-- The outcomes of the second part of `replicate_log`, on a request with a record
of a leader. -/
theorem receive_cases {rc : Nat → SqlError} {currentTerm : Nat} {result : Oned × Response}
    (repr : oned.logdb.Represents log) (zeroTerm : params.index = 0 → params.term = 0)
    (previous : ∀ index, params.index = index + 1 → params.prevIndex = index)
    (received : receive oned {} params rc currentTerm = result) :
    (result.1 = oned ∧ result.2.code ≠ .success ∧ isHeartbeat params = false ∧ (params.sql = "" ∨
        ∃ index, params.index = index + 1 ∧ termAt log index ≠ some params.prevTerm)) ∨ (result.2.code = .success ∧
      ((isHeartbeat params = true ∧ params.index = 0 ∧
        result.1 = advanceCommit oned params.leaderCommit log.length rc) ∨
      (isHeartbeat params = false ∧ params.index = 0 ∧ result.1 = oned) ∨
      (isHeartbeat params = false ∧ ∃ index, params.index = index + 1 ∧ termAt log index = some params.prevTerm ∧
        ((log[index]?.map LogEntry.term = some params.term ∧ result.1 = oned) ∨
        (log[index]?.map LogEntry.term ≠ some params.term ∧
          ∃ logdb, LogDB.Stored log index (record params) oned.logdb logdb ∧
          result.1 = advanceCommit { oned with logdb } params.leaderCommit (index + 1) rc))))) := by
  subst received
  cases heartbeat : isHeartbeat params with
  | true =>
    right
    have zero : params.index = 0 := by
      simp only [isHeartbeat, decide_eq_true_eq] at heartbeat
      exact heartbeat.1
    refine ⟨by simp [receive, heartbeat], .inl ⟨rfl, zero, ?_⟩⟩
    simp [receive, heartbeat, LogDB.getLastRecordIndex, repr.last]
  | false =>
    by_cases empty : params.sql = ""
    · left
      exact ⟨by simp [receive, heartbeat, empty], by simp [receive, heartbeat, empty], rfl,
        .inl empty⟩
    · cases checked : checkPrevious {} oned.logdb params with
      | some error =>
        left
        exact ⟨by simp [receive, heartbeat, empty, checked],
          by simp [receive, heartbeat, empty, checked], rfl,
          .inr (checkPrevious_some repr previous checked)⟩
      | none =>
        right
        cases isIndex : params.index with
        | zero =>
          obtain ⟨lr, loaded, _, _, zero, _⟩ := repr.load_boot 0
          have found : receive oned {} params rc currentTerm = (oned, ⟨.success, currentTerm, ""⟩) := by
            simp [receive, heartbeat, empty, checked, isIndex, loaded, zero, zeroTerm isIndex]
          rw [found]
          exact ⟨rfl, .inr (.inl ⟨rfl, rfl, rfl⟩)⟩
        | succ index =>
          have prevTerm := checkPrevious_none repr isIndex (previous index isIndex) checked
          by_cases inside : index < log.length
          · obtain ⟨_, _, loaded⟩ := repr.load (List.getElem?_eq_getElem inside)
            have isTerm : log[index]?.map LogEntry.term = some (log[index]).term := by
              rw [List.getElem?_eq_getElem inside, Option.map_some]
            by_cases same : (log[index]).term = params.term
            · have found : receive oned {} params rc currentTerm =
                  (oned, ⟨.success, currentTerm, ""⟩) := by
                simp [receive, heartbeat, empty, checked, isIndex, loaded, same]
              rw [found]
              exact ⟨rfl, .inr (.inr ⟨rfl, index, rfl, prevTerm, .inl ⟨by rw [isTerm, same], rfl⟩⟩)⟩
            · obtain ⟨logdb, inserted, stored⟩ := repr.replace (record params) inside
              simp only [record] at inserted
              have replaced : receive oned {} params rc currentTerm =
                  (advanceCommit { oned with logdb } params.leaderCommit (index + 1) rc,
                    ⟨.success, currentTerm, ""⟩) := by
                simp [receive, insertRecord, writeRecord, deleteRecords, heartbeat, empty, checked, isIndex, loaded, same,
                  inserted]
              rw [replaced]
              exact ⟨rfl, .inr (.inr ⟨rfl, index, rfl, prevTerm,
                .inr ⟨by rw [isTerm]; simpa using same, logdb, stored, rfl⟩⟩)⟩
          · obtain ⟨logdb, inserted, stored⟩ := repr.extend (record params)
            obtain rfl := Nat.le_antisymm (LogDB.termAt_le prevTerm) (Nat.le_of_not_lt inside)
            have absent := repr.load_none (Nat.le_refl log.length) log.length
            simp only [record] at inserted
            have extended : receive oned {} params rc currentTerm =
                (advanceCommit { oned with logdb } params.leaderCommit (log.length + 1) rc,
                  ⟨.success, currentTerm, ""⟩) := by
              simp [receive, insertRecord, writeRecord, heartbeat, empty, checked, isIndex, absent, inserted]
            rw [extended]
            exact ⟨rfl, .inr (.inr ⟨rfl, log.length, rfl, prevTerm, .inr ⟨by simp, logdb, stored, rfl⟩⟩)⟩

theorem replicateLog_cases (params : ReplicateLogParams) (rc : Nat → SqlError) (cacheOff : oned.logdb.cache = false) :
    (params.leaderTerm < oned.raft.term ∧ (replicateLog oned {} params true rc).1 = oned ∧
      (replicateLog oned {} params true rc).2.code ≠ .success) ∨
    (oned.raft.term ≤ params.leaderTerm ∧ replicateLog oned {} params true rc =
      receive (followLeader oned params.leaderId params.leaderTerm) {} params rc oned.raft.term) := by
  by_cases outdated : params.leaderTerm < oned.raft.term
  · left; simp [replicateLog, cacheOff, outdated]
  · right
    exact ⟨Nat.le_of_not_lt outdated, by simp [replicateLog, cacheOff, outdated]⟩

theorem receive_raft (oned : Oned) (params : ReplicateLogParams) (rc : Nat → SqlError) (currentTerm : Nat) :
    ∃ commit, (receive oned {} params rc currentTerm).1.raft = { oned.raft with commit } := by
  have inserted : ∀ logdb : LogDB, ∃ commit,
      (insertRecord { oned with logdb } {} params rc currentTerm).1.raft = { oned.raft with commit } := by
    intro logdb
    simp only [insertRecord]
    split
    · exact ⟨oned.raft.commit, rfl⟩
    · exact ⟨_, rfl⟩
  have same : ∃ commit, oned.raft = { oned.raft with commit } := ⟨oned.raft.commit, rfl⟩
  simp only [receive]
  split
  · exact ⟨_, rfl⟩
  · split
    · exact same
    · split
      · exact same
      · split
        · split
          · exact inserted _
          · exact same
        · exact inserted oned.logdb

theorem replicateLog_raft (oned : Oned) (params : ReplicateLogParams) (rc : Nat → SqlError) :
    (∃ commit leaderId, (replicateLog oned {} params true rc).1.raft = { oned.raft with commit, leaderId }) ∨
    ∃ applied commit leaderId, (replicateLog oned {} params true rc).1.raft =
      { oned.raft.follower params.leaderTerm applied with commit, leaderId } := by
  have same : ∃ commit leaderId, oned.raft = { oned.raft with commit, leaderId } :=
    ⟨oned.raft.commit, oned.raft.leaderId, rfl⟩
  simp only [replicateLog]
  split
  · exact .inl same
  · split
    · exact .inl same
    · split
      · exact .inl same
      · obtain ⟨commit, isRaft⟩ := receive_raft
          (followLeader oned params.leaderId params.leaderTerm) params rc oned.raft.term
        rw [isRaft, followLeader_eq]
        split
        · exact .inr ⟨oned.logdb.setupIndex.2.1, commit, params.leaderId, rfl⟩
        · exact .inl ⟨commit, params.leaderId, rfl⟩

theorem vote_cases {candidateTerm candidateLogIndex candidateLogTerm : Nat} {candidateId : Int}
    {result : Oned × Response} (cacheOff : oned.logdb.cache = false) (repr : oned.logdb.Represents log)
    (isResult : vote oned candidateTerm candidateId candidateLogIndex candidateLogTerm true = result) :
    (result.1 = oned ∧ result.2.code ≠ .success) ∨ (oned.raft.term ≤ candidateTerm ∧ ∃ current,
      current = (if oned.raft.term < candidateTerm then oned.follower candidateTerm else oned) ∧
      ((result.1 = current ∧ result.2.code ≠ .success) ∨
      (current.updateVotedfor candidateId = some result.1 ∧ 0 ≤ candidateId ∧
        (lastEpoch LogEntry.term log < candidateLogTerm ∨
          (lastEpoch LogEntry.term log = candidateLogTerm ∧ log.length ≤ candidateLogIndex))))) := by
  subst isResult
  by_cases negative : candidateId < 0
  · left; simp [vote, negative]
  by_cases outdated : candidateTerm < oned.raft.term
  · left; simp [vote, negative, cacheOff, outdated]
  right
  refine ⟨Nat.le_of_not_lt outdated, _, rfl, ?_⟩
  by_cases old : candidateLogTerm < lastEpoch LogEntry.term log ∨
      (lastEpoch LogEntry.term log = candidateLogTerm ∧ candidateLogIndex < log.length)
  · left
    simp [vote, negative, cacheOff, outdated, LogDB.getLastRecordIndex, repr.last, repr.term, old]
  · generalize isCurrent :
      (if oned.raft.term < candidateTerm then oned.follower candidateTerm else oned) = current
    cases granted : current.updateVotedfor candidateId with
    | none =>
      left
      simp [vote, negative, cacheOff, outdated, LogDB.getLastRecordIndex, repr.last, repr.term,
        old, isCurrent, granted]
    | some voted =>
      right
      refine ⟨?_, Int.not_lt.1 negative, by omega⟩
      simp [vote, negative, cacheOff, outdated, LogDB.getLastRecordIndex, repr.last, repr.term,
        old, isCurrent, granted]

end ZoneAPI

end OpenNebula.Raft
