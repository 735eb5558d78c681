import OpenNebula.Raft.Writers

namespace OpenNebula.Raft

open Library Sql

/-! # Counting replicas

A leader counts the followers that confirmed a record: those with a `match` index
at or past it.  `replicate_log` takes the `next` indexes for it instead, which is
the same for a record that no follower was credited with.
-/

namespace RaftManager

def confirmed (raft : RaftManager) (index : Nat) : Finset Int :=
  Map.keysWhere (fun found => decide (index ≤ found)) raft.matched

variable {raft : RaftManager}

theorem mem_confirmed {index : Nat} {followerId : Int} : followerId ∈ raft.confirmed index ↔
      ∃ found, raft.matched.lookup followerId = some found ∧ index ≤ found := by
  simp [confirmed, Map.mem_keysWhere]

theorem confirmed_congr {changed : RaftManager} (same : changed.matched = raft.matched) :
    changed.confirmed = raft.confirmed := by
  funext index
  rw [confirmed, confirmed, same]

/-- A follower is past the record only when it confirmed it. -/
def Fresh (raft : RaftManager) (index : Nat) : Prop :=
  ∀ followerId next, raft.next.lookup followerId = some next → index < next →
    ∃ found, raft.matched.lookup followerId = some found ∧ index ≤ found

theorem Fresh.replicated_le {index : Nat} (fresh : raft.Fresh index) :
    raft.replicated index ≤ (raft.confirmed index).card := by
  have isCard := Map.card_keysWhere (fun next => decide (index < next)) raft.next
  rw [replicated, ← isCard]
  apply Finset.card_le_card
  intro followerId inside
  obtain ⟨next, isNext, past⟩ := Map.mem_keysWhere.1 inside
  exact mem_confirmed.2 (fresh followerId next isNext (of_decide_eq_true past))

end RaftManager

/-- For the records that `counts` selects: the replicas that a request still needs
and the confirmed ones make half of the servers. -/
structure Counting (counts : Nat → Prop) (raft : RaftManager) : Prop where
  known : ∀ followerId next, raft.next.lookup followerId = some next →
    ∃ found, raft.matched.lookup followerId = some found ∧ found < next
  slots : ∀ index pointer rr, raft.requests.requests.lookup index = some (some pointer) →
    raft.requests.objects.lookup pointer = some rr → counts index →
    0 < rr.toCommit ∧ (raft.numServers / 2 : Nat) ≤ rr.toCommit + (raft.confirmed index).card

variable {counts : Nat → Prop} {raft changed : RaftManager} {node next : Node}

theorem Counting.same (counting : Counting counts raft) (isNext : changed.next = raft.next)
    (isMatched : changed.matched = raft.matched) (requests : changed.requests = raft.requests)
    (numServers : changed.numServers = raft.numServers) : Counting counts changed := by
  refine ⟨by rw [isNext, isMatched]; exact counting.known, ?_⟩
  rw [requests, numServers, RaftManager.confirmed_congr isMatched]
  exact counting.slots

theorem Counting.allocate (counting : Counting counts raft) (rindex : Nat) :
    Counting counts (raft.replicateAllocate rindex) :=
  ⟨counting.known, fun index pointer rr isSlot isObject isCounted =>
    counting.slots index pointer rr (ReplicaRequestMap.allocate_slot isSlot) isObject isCounted⟩

theorem Counting.replicate {number : Nat} {writer : Writer} {rr : ReplicaRequest}
    {slot : Option (Option Nat)} (counting : Counting counts node.oned.raft)
    (waiting : Waiting node) (replicates : Replicates node next number writer rr slot)
    (fresh : counts writer.rindex → node.oned.raft.Fresh writer.rindex) : Counting counts next.oned.raft ∧
      (next.oned.raft.commit = node.oned.raft.commit ∨
        (next.oned.raft.commit = writer.rindex ∧ (counts writer.rindex →
          node.oned.raft.numServers / 2 ≤ (node.oned.raft.confirmed writer.rindex).card))) := by
  have confirmed := RaftManager.confirmed_congr replicates.matched
  have enough (isCounted : counts writer.rindex) :
      (node.oned.raft.numServers / 2 : Nat) ≤
        node.oned.raft.needed writer.rindex + (node.oned.raft.confirmed writer.rindex).card := by
    have atMost := (fresh isCounted).replicated_le
    rw [RaftManager.needed]
    omega
  have outcome := replicates.outcome
  refine ⟨⟨by rw [replicates.followers, replicates.matched]; exact counting.known, ?_⟩, ?_⟩
  · intro index pointer found isSlot isFound isCounted
    rw [replicates.slots] at isSlot
    rw [replicates.objects] at isFound
    rw [replicates.numServers, confirmed]
    split at isSlot
    · rename_i here
      subst here
      generalize next.oned.raft.commit = commit at outcome
      cases outcome with
      | refused | committed => cases isSlot
      | waits _ more =>
        rw [if_pos (Option.some.inj (Option.some.inj isSlot)).symm] at isFound
        rw [← Option.some.inj isFound]
        exact ⟨more, enough isCounted⟩
    · rw [if_neg] at isFound
      · exact counting.slots index pointer found isSlot isFound isCounted
      · rintro rfl
        obtain ⟨object, isObject, -⟩ := waiting.slot index pointer isSlot
        exact ((waiting.object pointer object isObject).2 writer replicates.isWriter).1
          replicates.phase
  · generalize next.oned.raft.commit = commit at outcome
    cases outcome with
    | refused => exact .inl rfl
    | committed _ none =>
      refine .inr ⟨rfl, fun isCounted => ?_⟩
      have half := enough isCounted
      omega
    | waits => exact .inl rfl

variable {followerId : Int} {index : Nat}

theorem RaftManager.confirmed_insert {before : Nat} (isBefore : raft.matched.lookup followerId = some before)
    (below : before < index) (isMatched : changed.matched = raft.matched.insert followerId index) :
    (∀ other, raft.confirmed other ⊆ changed.confirmed other) ∧
      (raft.confirmed index).card < (changed.confirmed index).card := by
  have grows : ∀ other, raft.confirmed other ⊆ changed.confirmed other := by
    intro other id inside
    obtain ⟨found, isFound, past⟩ := mem_confirmed.1 inside
    refine mem_confirmed.2 ?_
    rw [isMatched, Map.lookup_insert_eq]
    split
    · rename_i same
      rw [same, isBefore, Option.some.injEq] at isFound
      exact ⟨index, rfl, by omega⟩
    · exact ⟨found, isFound, past⟩
  refine ⟨grows, Finset.card_lt_card (Finset.ssubset_iff_of_subset (grows index) |>.mpr ?_)⟩
  refine ⟨followerId, mem_confirmed.2 ?_, fun inside => ?_⟩
  · exact ⟨index, by rw [isMatched]; exact AList.lookup_insert _, Nat.le_refl _⟩
  · obtain ⟨found, isFound, past⟩ := mem_confirmed.1 inside
    rw [isBefore, Option.some.injEq] at isFound
    omega

theorem Counting.success {followerId : Int} {dbLindex index : Nat}
    (counting : Counting counts node.oned.raft) (waiting : Waiting node)
    (isNext : node.oned.raft.next.lookup followerId = some index) :
    Counting counts (node.oned.raft.replicateSuccess followerId dbLindex) ∧
      ((node.oned.raft.replicateSuccess followerId dbLindex).commit = node.oned.raft.commit ∨
        ((node.oned.raft.replicateSuccess followerId dbLindex).commit = index ∧
          (counts index → node.oned.raft.numServers / 2 ≤
            ((node.oned.raft.replicateSuccess followerId dbLindex).confirmed index).card))) := by
  rcases node.oned.raft.replicateSuccess_cases followerId dbLindex with
    ⟨_, same⟩ | ⟨found, pool, isFound, _, isSuccess⟩
  · rw [same]
    exact ⟨counting, .inl rfl⟩
  rw [isNext, Option.some.injEq] at isFound
  subst isFound
  obtain ⟨before, isBefore, below⟩ := counting.known followerId index isNext
  have isMatched : (node.oned.raft.replicateSuccess followerId dbLindex).matched =
      node.oned.raft.matched.insert followerId index := by rw [isSuccess]
  obtain ⟨grows, more⟩ := RaftManager.confirmed_insert isBefore below isMatched
  have known : ∀ id next,
      (node.oned.raft.replicateSuccess followerId dbLindex).next.lookup id = some next →
      ∃ found, (node.oned.raft.replicateSuccess followerId dbLindex).matched.lookup id = some found ∧
        found < next := by
    intro id next isLookup
    rw [isMatched, Map.lookup_insert_eq]
    rw [isSuccess] at isLookup
    simp only [Map.lookup_insert_eq] at isLookup
    split at isLookup
    · rename_i same
      rw [if_pos same]
      exact ⟨index, rfl, by have := Option.some.inj isLookup; omega⟩
    · rename_i apart
      rw [if_neg apart]
      exact counting.known id next isLookup
  have numServers : (node.oned.raft.replicateSuccess followerId dbLindex).numServers =
      node.oned.raft.numServers := by rw [isSuccess]
  rcases node.oned.raft.requests.addReplica_cases index with
    ⟨_, slots, objects, none⟩ | ⟨pointer, rr, isSlot, isObject, isMap, isLeft⟩
  · have commit : (node.oned.raft.replicateSuccess followerId dbLindex).commit =
        node.oned.raft.commit := by
      rw [isSuccess]
      simp [none]
    refine ⟨⟨known, ?_⟩, .inl commit⟩
    intro other otherPointer otherRr otherSlot otherObject isCounted
    rw [isSuccess] at otherSlot otherObject
    simp only [slots, objects] at otherSlot otherObject
    obtain ⟨positive, half⟩ := counting.slots other otherPointer otherRr otherSlot otherObject isCounted
    have atLeast := Finset.card_le_card (grows other)
    rw [numServers]
    exact ⟨positive, by omega⟩
  · have isIndex : ∀ other otherPointer, node.oned.raft.requests.requests.lookup other =
        some (some otherPointer) → otherPointer = pointer → other = index := by
      rintro other otherPointer otherSlot rfl
      obtain ⟨object, isFound, isOther, -⟩ := waiting.slot other otherPointer otherSlot
      obtain ⟨object', isFound', isIndex, -⟩ := waiting.slot index otherPointer isSlot
      rw [isFound, Option.some.injEq] at isFound'
      rw [← isOther, isFound', isIndex]
    refine ⟨⟨known, ?_⟩, ?_⟩
    · intro other otherPointer otherRr otherSlot otherObject isCounted
      rw [isSuccess] at otherSlot otherObject
      simp only [isMap, ReplicaRequestMap.lookup_update] at otherSlot otherObject
      rw [numServers]
      obtain ⟨beforeRr, isBeforeRr, rfl⟩ := Option.map_eq_some_iff.1 otherObject
      have kept : node.oned.raft.requests.requests.lookup other = some (some otherPointer) ∧
          (rr.addReplica.toCommit = 0 → other ≠ index) := by
        split at otherSlot
        · rw [Map.lookup_erase_eq] at otherSlot
          split at otherSlot
          · cases otherSlot
          · rename_i apart
            exact ⟨otherSlot, fun _ => apart⟩
        · rename_i left
          exact ⟨otherSlot, fun done => absurd done left⟩
      obtain ⟨positive, half⟩ := counting.slots other otherPointer beforeRr kept.1 isBeforeRr isCounted
      split
      · rename_i same
        have here := isIndex other otherPointer kept.1 same
        subst here same
        rw [isObject, Option.some.injEq] at isBeforeRr
        subst isBeforeRr
        have left : rr.addReplica.toCommit ≠ 0 := fun done => kept.2 done rfl
        rw [ReplicaRequest.addReplica_toCommit, if_pos positive] at left ⊢
        omega
      · have atLeast := Finset.card_le_card (grows other)
        exact ⟨positive, by omega⟩
    · rw [show (node.oned.raft.replicateSuccess followerId dbLindex).commit =
        if (node.oned.raft.requests.addReplica index).2 = 0 then index
        else node.oned.raft.commit by rw [isSuccess]]
      split
      · rename_i done
        refine .inr ⟨rfl, fun isCounted => ?_⟩
        obtain ⟨positive, half⟩ := counting.slots index pointer rr isSlot isObject isCounted
        rw [isLeft, ReplicaRequest.addReplica_toCommit, if_pos positive] at done
        omega
      · exact .inl rfl

theorem Counting.failure (counting : Counting counts raft)
    (below : ∀ index found, raft.next.lookup followerId = some index →
      raft.matched.lookup followerId = some found → found + 1 < index) :
    Counting counts (raft.replicateFailure followerId) := by
  obtain ⟨lowered, pool, _, isLowered, isFailure⟩ := raft.replicateFailure_cases followerId
  rw [isFailure]
  refine ⟨?_, counting.slots⟩
  intro id index isNext
  rw [isLowered] at isNext
  obtain ⟨before, isBefore, isIndex⟩ := Option.map_eq_some_iff.1 isNext
  obtain ⟨found, isFound, less⟩ := counting.known id before isBefore
  refine ⟨found, isFound, ?_⟩
  split at isIndex
  · rename_i same
    subst same
    have := below before found isBefore isFound
    omega
  · omega

theorem lookup_foldl_insertNew {α : Type} {ids : List Int} {value found : α} {rows : Map Int α}
    (isFound : (ids.foldl (fun rows id => Map.insertNew id value rows) rows).lookup followerId = some found) :
    found = value ∨ rows.lookup followerId = some found := by
  induction ids generalizing rows with
  | nil => exact .inr isFound
  | cons id ids ih =>
    rw [List.foldl_cons] at isFound
    rcases ih isFound with here | earlier
    · exact .inl here
    · by_cases same : followerId = id
      · subst same
        rw [Map.lookup_insertNew_self, Option.some.injEq] at earlier
        cases before : rows.lookup followerId with
        | none => rw [before] at earlier; exact .inl earlier.symm
        | some old => rw [before] at earlier; exact .inr (congrArg some earlier)
      · rw [Map.lookup_insertNew_ne same] at earlier
        exact .inr earlier

theorem RaftManager.leader_indexes {applied index : Nat} (isCandidate : raft.state = .candidate) :
    (∀ followerId next, (raft.leader applied index).next.lookup followerId = some next →
      next = if applied < index then index else index + 1) ∧
    (∀ followerId found, (raft.leader applied index).matched.lookup followerId = some found → found = 0) ∧
    (∀ followerId next, (raft.leader applied index).next.lookup followerId = some next →
      (raft.leader applied index).matched.lookup followerId = some 0) := by
  have isLeader : raft.leader applied index = { raft.leader applied index with
      next := (raft.servers.filter (· ≠ raft.serverId)).foldl
        (fun next id => Map.insertNew id (if applied < index then index else index + 1) next) ∅
      matched := (raft.servers.filter (· ≠ raft.serverId)).foldl
        (fun matched id => Map.insertNew id 0 matched) ∅ } := by
    simp [leader, isCandidate]
  rw [isLeader]
  have confirmedNone : ∀ followerId found,
      ((raft.servers.filter (· ≠ raft.serverId)).foldl
        (fun matched id => Map.insertNew id 0 matched) (∅ : Map Int Nat)).lookup followerId =
          some found → found = 0 := by
    intro followerId found isFound
    exact (lookup_foldl_insertNew isFound).resolve_right (by simp)
  refine ⟨fun followerId next isNext => ?_, confirmedNone, fun followerId next isNext => ?_⟩
  · exact (lookup_foldl_insertNew isNext).resolve_right (by simp)
  · have inside : followerId ∈ (raft.servers.filter (· ≠ raft.serverId)).foldl
        (fun next id => Map.insertNew id (if applied < index then index else index + 1) next)
          (∅ : Map Int Nat) :=
      AList.lookup_isSome.1 (Option.isSome_of_eq_some isNext)
    rw [mem_foldl_insertNew] at inside
    have isMember : followerId ∈ (raft.servers.filter (· ≠ raft.serverId)).foldl
        (fun matched id => Map.insertNew id 0 matched) (∅ : Map Int Nat) :=
      (mem_foldl_insertNew _ _ _ _).2 inside
    obtain ⟨found, isFound⟩ := Option.isSome_iff_exists.1 (AList.lookup_isSome.2 isMember)
    have zero := confirmedNone followerId found isFound
    subst zero
    exact isFound

theorem ReplicaManager.startReplicaThreads_waits {pool : ReplicaManager} {thisId : Int} {ids : List Int}
    {call : Call} (waits : (pool.startReplicaThreads thisId ids).Waits followerId call) :
    pool.Waits followerId call := by
  induction ids generalizing pool with
  | nil => exact waits
  | cons id ids ih =>
    rw [startReplicaThreads, List.foldl_cons] at waits
    obtain ⟨thread, inPool, isCall⟩ := ih waits
    rw [addReplicaThread] at inPool
    split at inPool
    · exact ⟨thread, inPool, isCall⟩
    · by_cases same : followerId = id
      · subst same
        rw [Map.lookup_insertNew_self, Option.some.injEq] at inPool
        cases before : pool.lookup followerId with
        | none =>
          rw [before, Option.getD_none] at inPool
          rw [← inPool] at isCall
          cases isCall
        | some old =>
          rw [before, Option.getD_some] at inPool
          exact ⟨thread, inPool ▸ before, isCall⟩
      · rw [Map.lookup_insertNew_ne same] at inPool
        exact ⟨thread, inPool, isCall⟩

theorem Node.becomeLeader_cases {log : List LogEntry} (rows : LogDB.Rows node.oned.logdb.table log) :
    node.becomeLeader.oned.raft = node.oned.raft.leader node.oned.logdb.appliedIndex log.length ∧
      node.becomeLeader.oned.logdb.Represents log ∧ (node.becomeLeader.writers = node.writers ∨
        (node.oned.logdb.appliedIndex < log.length ∧ node.becomeLeader.writers = node.writers.insert node.nextWriter
            { cmd := none, term := node.becomeLeader.oned.raft.term, rindex := log.length,
              phase := .inserted })) := by
  obtain ⟨repr, indexes, -⟩ := rows.setupIndex
  refine ⟨?_, ?_, ?_⟩
  · rw [node.becomeLeader_eq.1]
    simp only [Oned.leader, indexes]
  · rw [node.becomeLeader_eq.1]
    exact repr
  · simp only [Node.becomeLeader, indexes]
    split
    · rename_i unapplied
      exact .inr ⟨unapplied.2, rfl⟩
    · exact .inl rfl

theorem RaftManager.leader_members {applied found : Nat} (isCandidate : raft.state = .candidate)
    (isFound : (raft.leader applied index).matched.lookup followerId = some found) : followerId ≠ raft.serverId := by
  simp only [RaftManager.leader, isCandidate, ne_eq, not_true_eq_false, if_false] at isFound
  have inside := AList.lookup_isSome.1 (Option.isSome_of_eq_some isFound)
  rw [mem_foldl_insertNew] at inside
  rcases inside with isFollower | empty
  · simpa using (List.mem_filter.1 isFollower).2
  · exact absurd empty (AList.notMem_empty _)

theorem Counting.leader {applied index : Nat} (isCandidate : raft.state = .candidate) :
    Counting counts (raft.leader applied index) := by
  obtain ⟨isNext, -, isMatched⟩ := @RaftManager.leader_indexes raft applied index isCandidate
  refine ⟨fun followerId next found => ⟨0, isMatched followerId next found, ?_⟩, ?_⟩
  · rw [isNext followerId next found]
    split <;> omega
  · intro slot pointer rr isSlot
    simp [RaftManager.leader, isCandidate] at isSlot

theorem RaftManager.confirmed_mono
    (grows : ∀ id found, raft.matched.lookup id = some found → index ≤ found →
      ∃ more, changed.matched.lookup id = some more ∧ index ≤ more) :
    raft.confirmed index ⊆ changed.confirmed index := by
  intro id inside
  obtain ⟨found, isFound, past⟩ := mem_confirmed.1 inside
  exact mem_confirmed.2 (grows id found isFound past)

/-- A change of the followers under waiting requests: half of the servers grows by
no more than the confirmed replicas. -/
theorem Counting.change (counting : Counting counts raft) (requests : changed.requests = raft.requests)
    (known : ∀ followerId next, changed.next.lookup followerId = some next →
      ∃ found, changed.matched.lookup followerId = some found ∧ found < next)
    (half : ∀ index pointer, raft.requests.requests.lookup index = some (some pointer) →
      changed.numServers / 2 = 0 ∨ changed.numServers / 2 + (raft.confirmed index).card ≤
        raft.numServers / 2 + (changed.confirmed index).card) : Counting counts changed := by
  refine ⟨known, ?_⟩
  rw [requests]
  intro index pointer rr isSlot isObject isCounted
  obtain ⟨positive, before⟩ := counting.slots index pointer rr isSlot isObject isCounted
  have := half index pointer isSlot
  exact ⟨positive, by omega⟩

theorem Counting.addServer {followerId : Int} {logIndex : Nat} (counting : Counting counts raft)
    (inside : ∀ found, raft.matched.lookup followerId = some found → found ≤ logIndex)
    (half : raft.numServers % 2 = 0 ∨ ∀ index pointer, raft.requests.requests.lookup index ≠ some (some pointer)) :
    Counting counts (raft.addServer followerId logIndex) := by
  rw [RaftManager.addServer]
  split
  · exact counting
  refine counting.change rfl (fun id next isNext => ?_) fun index pointer isSlot => ?_
  · by_cases same : id = followerId
    · subst same
      simp only [Map.lookup_insertNew_self, Option.some.injEq] at isNext ⊢
      refine ⟨_, rfl, ?_⟩
      cases isBefore : raft.next.lookup id with
      | none =>
        rw [isBefore, Option.getD_none] at isNext
        cases isFound : raft.matched.lookup id with
        | none => rw [Option.getD_none]; omega
        | some found =>
          have := inside found isFound
          rw [Option.getD_some]
          omega
      | some before =>
        obtain ⟨found, isFound, below⟩ := counting.known id before isBefore
        rw [isBefore, Option.getD_some] at isNext
        rw [isFound, Option.getD_some]
        omega
    · simp only [Map.lookup_insertNew_ne same] at isNext ⊢
      exact counting.known id next isNext
  · rcases half with even | noSlot
    · right
      refine Nat.add_le_add (by show (raft.numServers + 1) / 2 ≤ _; omega) (Finset.card_le_card ?_)
      refine RaftManager.confirmed_mono fun id found isFound past => ⟨found, ?_, past⟩
      by_cases same : id = followerId
      · subst same
        simp only [Map.lookup_insertNew_self, isFound, Option.getD_some]
      · simp only [Map.lookup_insertNew_ne same]
        exact isFound
    · exact absurd isSlot (noSlot index pointer)

theorem RaftManager.confirmed_erase (index : Nat) (isMatched : changed.matched = raft.matched.erase followerId) :
    (raft.confirmed index).erase followerId ⊆ changed.confirmed index := by
  intro id inside
  obtain ⟨apart, isConfirmed⟩ := Finset.mem_erase.1 inside
  obtain ⟨found, isFound, past⟩ := mem_confirmed.1 isConfirmed
  refine mem_confirmed.2 ⟨found, ?_, past⟩
  rw [isMatched, Map.lookup_erase_eq, if_neg apart]
  exact isFound

theorem Counting.deleteServer {followerId : Int} (counting : Counting counts raft)
    (half : raft.numServers % 2 = 0 ∨ ∀ index pointer found,
      raft.requests.requests.lookup index = some (some pointer) →
      raft.matched.lookup followerId = some found → found < index) :
    Counting counts (raft.deleteServer followerId) := by
  by_cases isLeader : raft.state = .leader
  · have isNext : (raft.deleteServer followerId).next = raft.next.erase followerId := by
      simp [RaftManager.deleteServer, isLeader]
    have isMatched : (raft.deleteServer followerId).matched = raft.matched.erase followerId := by
      simp [RaftManager.deleteServer, isLeader]
    have numServers : (raft.deleteServer followerId).numServers = raft.numServers - 1 := by
      simp [RaftManager.deleteServer, isLeader]
    refine counting.change (by simp [RaftManager.deleteServer, isLeader])
      (fun id next isFollower => ?_) fun index pointer isSlot => ?_
    · rw [isNext, Map.lookup_erase_eq] at isFollower
      rw [isMatched, Map.lookup_erase_eq]
      split at isFollower
      · cases isFollower
      · rename_i apart
        rw [if_neg apart]
        exact counting.known id next isFollower
    · have kept := Finset.card_le_card (RaftManager.confirmed_erase index isMatched)
      rw [numServers]
      rcases half with even | past
      · have atLeast := @Finset.pred_card_le_card_erase _ (raft.confirmed index) followerId _
        omega
      · have apart : followerId ∉ raft.confirmed index := by
          intro inside
          obtain ⟨found, isFound, atLeast⟩ := RaftManager.mem_confirmed.1 inside
          have := past index pointer found isSlot isFound
          omega
        rw [Finset.erase_eq_of_notMem apart] at kept
        omega
  · simpa [RaftManager.deleteServer, isLeader] using counting

theorem Counting.resetIndex {followerId : Int} {logIndex : Nat} (counting : Counting counts raft)
    (inside : ∀ found, raft.matched.lookup followerId = some found → found ≤ logIndex) :
    Counting counts (raft.resetIndex followerId logIndex) := by
  refine ⟨fun id next isNext => ?_, counting.slots⟩
  rw [RaftManager.resetIndex, Map.lookup_modify, Option.map_eq_some_iff] at isNext
  obtain ⟨before, isBefore, isIndex⟩ := isNext
  obtain ⟨found, isFound, below⟩ := counting.known id before isBefore
  refine ⟨found, isFound, ?_⟩
  split at isIndex
  · rename_i same
    subst same
    have := inside found isFound
    omega
  · omega

end OpenNebula.Raft
