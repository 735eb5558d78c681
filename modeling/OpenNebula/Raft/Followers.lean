import OpenNebula.Raft.Handlers

namespace OpenNebula.Raft

open Library Sql

/-! # The logs of the followers of a leader

What a record of the leader does to the log of a follower that matches the
leader's: the follower ends with the log of the leader up to that record, or had
it already.
-/

def Matches (mine theirs : List LogEntry) : Prop :=
  ∀ (position : Nat) (left right : LogEntry), mine[position]? = some left →
    theirs[position]? = some right → left.term = right.term →
    mine.take (position + 1) = theirs.take (position + 1)

/-- The first records of the leader are those of the follower. -/
def Holds (log mine : List LogEntry) (count : Nat) : Prop :=
  count ≤ log.length ∧ log.take count <+: mine

/-- The request carries a record of the leader with the term of the one before it. -/
def Carries (log : List LogEntry) (params : ReplicateLogParams) : Prop :=
  (params.index = 0 ∧ params.prevIndex = 0 ∧ params.term = 0 ∧ params.prevTerm = 0) ∨ ∃ index, params.index = index + 1 ∧
    params.prevIndex = index ∧ termAt log index = some params.prevTerm ∧
    log[index]? = some (ZoneAPI.record params) ∧ params.sql ≠ ""

variable {log mine : List LogEntry} {oned : Oned} {params : ReplicateLogParams}

variable {index count : Nat}

theorem Matches.previous (agree : Matches mine log) {prevTerm : Nat}
    (isMine : termAt mine index = some prevTerm) (isTheirs : termAt log index = some prevTerm) :
    mine.take index = log.take index := by
  cases index with
  | zero => rfl
  | succ position =>
    rw [termAt, Option.map_eq_some_iff] at isMine isTheirs
    obtain ⟨left, foundLeft, leftTerm⟩ := isMine
    obtain ⟨right, foundRight, rightTerm⟩ := isTheirs
    exact agree position left right foundLeft foundRight (leftTerm.trans rightTerm.symm)

theorem Matches.snoc (agree : Matches mine log) {entry : LogEntry}
    (own : ∀ position found, mine[position]? = some found → found.term = entry.term →
      position < log.length) : Matches mine (log ++ [entry]) := by
  intro position left right foundLeft foundRight same
  by_cases inside : position < log.length
  · rw [List.getElem?_append_left inside] at foundRight
    rw [agree position left right foundLeft foundRight same, List.take_append_of_le_length inside]
  · rw [List.getElem?_append_right (Nat.le_of_not_lt inside)] at foundRight
    have isEntry := List.mem_singleton.1 (List.mem_of_getElem? foundRight)
    exact absurd (own position left foundLeft (isEntry ▸ same)) inside

theorem Matches.take (log : List LogEntry) (count : Nat) : Matches (log.take count) log := by
  intro position left right foundLeft _ _
  have inside := (List.getElem?_eq_some_iff.1 foundLeft).1
  rw [List.length_take] at inside
  rw [List.take_take, Nat.min_eq_left (by omega)]

section

variable (holds : Holds log mine count)
include holds

theorem Holds.snoc (entry : LogEntry) : Holds (log ++ [entry]) mine count := by
  refine ⟨?_, ?_⟩
  · rw [List.length_append]
    exact Nat.le_add_right_of_le holds.1
  · rw [List.take_append_of_le_length holds.1]
    exact holds.2

theorem Holds.le {fewer : Nat} (less : fewer ≤ count) : Holds log mine fewer := by
  refine ⟨less.trans holds.1, List.IsPrefix.trans ?_ holds.2⟩
  rw [← Nat.min_eq_left less, ← List.take_take]
  exact List.take_prefix _ _

theorem Holds.getElem? {position : Nat} (inside : position < count) :
    mine[position]? = log[position]? := by
  obtain ⟨rest, isMine⟩ := holds.2
  have within : position < (log.take count).length := by
    rw [List.length_take, Nat.min_eq_left holds.1]
    exact inside
  rw [← isMine, List.getElem?_append_left within, List.getElem?_take_of_lt inside]

theorem Holds.termAt (inside : index ≤ count) :
    Sql.termAt mine index = Sql.termAt log index := by
  cases index with
  | zero => rfl
  | succ position => rw [Sql.termAt, Sql.termAt, holds.getElem? inside]

end

theorem Carries.previous (carries : Carries log params) (isIndex : params.index = index + 1) :
    params.prevIndex = index := by
  rcases carries with ⟨isZero, _⟩ | ⟨other, isOther, isPrev, _⟩
  · omega
  · omega

theorem Carries.snoc (carries : Carries log params) (entry : LogEntry) : Carries (log ++ [entry]) params := by
  rcases carries with zero | ⟨index, isIndex, isPrev, prevTerm, found, isSql⟩
  · exact .inl zero
  · have inside := (List.getElem?_eq_some_iff.1 found).1
    refine .inr ⟨index, isIndex, isPrev, ?_, ?_, isSql⟩
    · cases index with
      | zero => exact prevTerm
      | succ position =>
        rw [Sql.termAt, List.getElem?_append_left (by omega)]
        exact prevTerm
    · rw [List.getElem?_append_left inside]
      exact found

namespace ZoneAPI

theorem followLeader_log (repr : oned.logdb.Represents log) (leaderId : Int) (leaderTerm : Nat) :
    (followLeader oned leaderId leaderTerm).logdb.Represents log ∧
      (followLeader oned leaderId leaderTerm).logdb.cache = oned.logdb.cache := by
  rw [followLeader_eq]
  split
  · have down := Oned.follower_steppedDown repr.toRows leaderTerm
    exact ⟨down.repr, down.cache⟩
  · exact ⟨repr, rfl⟩

theorem advanceCommit_log (repr : oned.logdb.Represents log) (leaderCommit index : Nat) (rc : Nat → SqlError) :
    (advanceCommit oned leaderCommit index rc).logdb.Represents log ∧
      (advanceCommit oned leaderCommit index rc).logdb.cache = oned.logdb.cache := by
  have ran := repr.applyLogRecords (oned.raft.updateCommit leaderCommit index).2 rc
  exact ⟨ran.represents repr, ran.same.2.2⟩

end ZoneAPI

structure Received (log mine after : List LogEntry) (params : ReplicateLogParams)
    (response : Response) : Prop where
  took : after = mine ∨ ∃ count, after = log.take count
  kept : ∀ count, Holds log mine count → Holds log after count
  success : response.code = .success → Holds log after params.index
  refused : response.code ≠ .success → response.respId ≤ params.leaderTerm →
    ∃ index, params.index = index + 1 ∧ ¬ Holds log mine index

theorem Received.none {response : Response} (failed : response.code ≠ .success)
    (later : params.leaderTerm < response.respId) : Received log mine mine params response :=
  ⟨.inl rfl, fun _ holds => holds, fun success => absurd success failed,
    fun _ current => absurd current (Nat.not_le.2 later)⟩

theorem Received.stored {entry : LogEntry} {response : Response} (success : response.code = .success)
    (isIndex : params.index = index + 1) (previous : mine.take index = log.take index)
    (found : log[index]? = some entry) (differs : mine[index]?.map LogEntry.term ≠ some entry.term) :
    Received log mine (mine.take index ++ [entry]) params response := by
  have inside := (List.getElem?_eq_some_iff.1 found).1
  have isTake : mine.take index ++ [entry] = log.take (index + 1) := by
    rw [previous, List.take_add_one, found]
    rfl
  rw [isTake]
  refine ⟨.inr ⟨index + 1, rfl⟩, fun count holds => ?_, fun _ => ?_, fun failed => absurd success failed⟩
  · have below : count ≤ index := by
      by_contra beyond
      rw [holds.getElem? (Nat.lt_of_not_le beyond), found] at differs
      exact differs rfl
    refine ⟨holds.1, ?_⟩
    rw [← Nat.min_eq_left (Nat.le_succ_of_le below), ← List.take_take]
    exact List.take_prefix _ _
  · rw [isIndex]
    exact ⟨inside, List.prefix_rfl⟩

theorem replicateLog_received (repr : oned.logdb.Represents mine)
    (cacheOff : oned.logdb.cache = false) (agree : Matches mine log) (carries : Carries log params)
    (rc : Nat → SqlError) : ∃ after, (ZoneAPI.replicateLog oned {} params true rc).1.logdb.Represents after ∧
      (ZoneAPI.replicateLog oned {} params true rc).1.logdb.cache = false ∧
      Received log mine after params (ZoneAPI.replicateLog oned {} params true rc).2 := by
  rcases ZoneAPI.replicateLog_cases params rc cacheOff with
    ⟨outdated, same, failed⟩ | ⟨current, isResult⟩
  · refine ⟨mine, by rw [same]; exact repr, by rw [same]; exact cacheOff, .none failed ?_⟩
    simp [ZoneAPI.replicateLog, cacheOff, outdated]
  rw [isResult]
  obtain ⟨followed, isCache⟩ := ZoneAPI.followLeader_log repr params.leaderId params.leaderTerm
  rw [cacheOff] at isCache
  have zero : params.index = 0 → params.term = 0 := by
    rcases carries with ⟨_, _, isTerm, _⟩ | ⟨index, isIndex, _⟩
    · exact fun _ => isTerm
    · exact fun isZero => by omega
  have mineZero : Holds log mine 0 := ⟨Nat.zero_le _, List.nil_prefix⟩
  rcases ZoneAPI.receive_cases followed zero (fun _ => carries.previous) rfl with
    ⟨same, failed, isRecord, reason⟩ | ⟨success, ⟨_, isZero, same⟩ | ⟨_, isZero, same⟩ |
      ⟨_, index, isIndex, prevTerm, outcome⟩⟩
  · refine ⟨mine, by rw [same]; exact followed, by rw [same]; exact isCache, .inl rfl,
      fun _ holds => holds, fun success => absurd success failed, fun _ _ => ?_⟩
    rcases carries with ⟨isZero, isPrev, isTerm, isPrevTerm⟩ | ⟨index, isIndex, _, theirTerm, _, isSql⟩
    · rcases reason with empty | ⟨other, isOther, _⟩
      · simp [ZoneAPI.isHeartbeat, isZero, isPrev, isTerm, isPrevTerm, empty] at isRecord
      · omega
    · rcases reason with empty | ⟨other, isOther, differs⟩
      · exact absurd empty isSql
      · refine ⟨index, isIndex, fun holds => differs ?_⟩
        rw [show other = index by omega, holds.termAt (Nat.le_refl _), theirTerm]
  · obtain ⟨reprAfter, cacheAfter⟩ := ZoneAPI.advanceCommit_log followed params.leaderCommit
      mine.length rc
    refine ⟨mine, by rw [same]; exact reprAfter, by rw [same, cacheAfter]; exact isCache, .inl rfl,
      fun _ holds => holds, fun _ => by rw [isZero]; exact mineZero,
      fun failed => absurd success failed⟩
  · refine ⟨mine, by rw [same]; exact followed, by rw [same]; exact isCache, .inl rfl,
      fun _ holds => holds, fun _ => by rw [isZero]; exact mineZero,
      fun failed => absurd success failed⟩
  · rcases carries with ⟨isZero, _⟩ | ⟨position, isPosition, _, theirTerm, found, _⟩
    · omega
    · obtain rfl : position = index := by omega
      have same := agree.previous prevTerm theirTerm
      rcases outcome with ⟨sameTerm, isOned⟩ | ⟨differs, logdb, stored, isOned⟩
      · obtain ⟨entry, isEntry, entryTerm⟩ := Option.map_eq_some_iff.1 sameTerm
        have shared := agree position entry _ isEntry found entryTerm
        refine ⟨mine, by rw [isOned]; exact followed, by rw [isOned]; exact isCache, .inl rfl,
          fun _ holds => holds, fun _ => ?_, fun failed => absurd success failed⟩
        rw [isPosition]
        refine ⟨(List.getElem?_eq_some_iff.1 found).1, ?_⟩
        rw [← shared]
        exact List.take_prefix _ _
      · obtain ⟨reprAfter, cacheAfter⟩ := @ZoneAPI.advanceCommit_log _
          { ZoneAPI.followLeader oned params.leaderId params.leaderTerm with logdb } stored.repr
          params.leaderCommit (position + 1) rc
        refine ⟨_, by rw [isOned]; exact reprAfter, ?_, .stored success isPosition same found differs⟩
        rw [isOned, cacheAfter]
        exact stored.untouched.cache.trans isCache

end OpenNebula.Raft
