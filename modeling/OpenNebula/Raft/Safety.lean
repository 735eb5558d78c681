import OpenNebula.Raft.Answers

namespace OpenNebula.Raft

open Library Library.Consensus Sql

/-! # Election safety and log matching

Both hold in every run: handlers and threads interleave in any order, requests
and replies are lost, delayed or repeated, elections fail, and servers restart
from their stored state.
-/

variable {zone : Zone} {cluster : Cluster} {left right : Int}

/-- No two servers lead the same term. -/
theorem election_safety (reached : (Cluster.system zone).Reachable System.anyStep cluster)
    (inLeft : left ∈ zone.servers) (inRight : right ∈ zone.servers)
    (leftLeads : (cluster.node left).oned.raft.state = .leader)
    (rightLeads : (cluster.node right).oned.raft.state = .leader)
    (sameTerm : (cluster.node left).oned.raft.term = (cluster.node right).oned.raft.term) : left = right := by
  obtain ⟨core, _, tracks⟩ := related_of_reachable reached
  obtain ⟨reign, leads, isLeft⟩ := (tracks.server left inLeft).leader leftLeads
  obtain ⟨reign', leads', isRight⟩ := (tracks.server right inRight).leader rightLeads
  rw [← (tracks.server left inLeft).term, sameTerm, (tracks.server right inRight).term, leads',
    Option.some.injEq] at leads
  rw [← isLeft, ← isRight, leads]

def threeServers : Zone := ⟨[0, 1, 2], by decide, by decide⟩

/-- Server 0 is elected with the vote of server 1, writes a record and replicates
it to server 1. -/
def firstReign : List Event :=
  [.timeout 0, .startElection 0, .voteCall 0, .deliver 0 fun _ => .success, .voteReply 0 (some 0),
    .endElection 0, .write 0 "INSERT" none, .replicate 0 0, .replicaCall 0 1,
    .deliver 1 fun _ => .success]

theorem election_safety_first_reign : ∃ cluster, (Cluster.system threeServers).Reachable System.anyStep cluster ∧
      (cluster.node 0).oned.raft.state = .leader ∧
      ∀ other ∈ threeServers.servers, (cluster.node other).oned.raft.state = .leader →
        (cluster.node 0).oned.raft.term = (cluster.node other).oned.raft.term → 0 = other := by
  have ran : (((Cluster.system threeServers).exec System.anyStep
      (Cluster.init threeServers fun _ => 0) firstReign).map fun cluster => (cluster.node 0).oned.raft.state) = some .leader := by
    decide
  obtain ⟨cluster, ran, isLeader⟩ := Option.map_eq_some_iff.mp ran
  have reached : (Cluster.system threeServers).Reachable System.anyStep cluster :=
    System.reachable_of_exec ⟨_, rfl⟩ ran
  exact ⟨cluster, reached, isLeader, fun other inside otherLeads sameTerm =>
    election_safety reached (by decide) inside isLeader otherLeads sameTerm⟩

theorem logs_match (reached : (Cluster.system zone).Reachable System.anyStep cluster)
    (inLeft : left ∈ zone.servers) (inRight : right ∈ zone.servers) {index : Nat}
    (positive : 1 ≤ index) {mine theirs : LogRow}
    (storedLeft : (cluster.node left).oned.logdb.table.lookup index = some mine)
    (storedRight : (cluster.node right).oned.logdb.table.lookup index = some theirs)
    (sameTerm : mine.term = theirs.term) : mine.entry = theirs.entry ∧ ∀ earlier, 1 ≤ earlier → earlier ≤ index →
      ∃ row row', (cluster.node left).oned.logdb.table.lookup earlier = some row ∧
        (cluster.node right).oned.logdb.table.lookup earlier = some row' ∧ row.entry = row'.entry := by
  obtain ⟨core, inv, tracks⟩ := related_of_reachable reached
  obtain ⟨position, rfl⟩ : ∃ position, index = position + 1 := ⟨index - 1, by omega⟩
  have reprLeft := (tracks.server left inLeft).log
  have reprRight := (tracks.server right inRight).log
  have agree := (inv.logs.coherent left).matching (inv.logs.coherent right)
    (reprLeft.entry storedLeft) (reprRight.entry storedRight) sameTerm
  have same : ∀ earlier ≤ position, (core.log left)[earlier]? = (core.log right)[earlier]? := by
    intro earlier within
    have cut := congrArg (fun log => log[earlier]?) agree
    simpa [List.getElem?_take_of_lt (Nat.lt_succ_of_le within)] using cut
  constructor
  · have last := same position (Nat.le_refl _)
    rw [reprLeft.entry storedLeft, reprRight.entry storedRight] at last
    exact Option.some.inj last
  · intro earlier lower upper
    obtain ⟨place, rfl⟩ : ∃ place, earlier = place + 1 := ⟨earlier - 1, by omega⟩
    have inside : place < (core.log left).length := (Nat.lt_of_succ_le upper).trans_le (reprLeft.bound storedLeft)
    have foundLeft := List.getElem?_eq_getElem inside
    have foundRight := (same place (by omega)).symm.trans foundLeft
    obtain ⟨row, isRow, rowEntry⟩ := reprLeft.lookup foundLeft
    obtain ⟨row', isRow', rowEntry'⟩ := reprRight.lookup foundRight
    exact ⟨row, row', isRow, isRow', rowEntry.trans rowEntry'.symm⟩

/-- Two records with one index and one term are the same record, and the logs
agree up to it.  The column `applied` is local to each server. -/
theorem log_matching (reached : (Cluster.answered zone).Reachable Cluster.Reported cluster)
    (inLeft : left ∈ zone.servers) (inRight : right ∈ zone.servers) {index : Nat}
    (positive : 1 ≤ index) {mine theirs : LogRow}
    (storedLeft : (cluster.node left).oned.logdb.table.lookup index = some mine)
    (storedRight : (cluster.node right).oned.logdb.table.lookup index = some theirs)
    (sameTerm : mine.term = theirs.term) : mine.entry = theirs.entry ∧ ∀ earlier, 1 ≤ earlier → earlier ≤ index →
      ∃ row row', (cluster.node left).oned.logdb.table.lookup earlier = some row ∧
        (cluster.node right).oned.logdb.table.lookup earlier = some row' ∧ row.entry = row'.entry :=
  logs_match (Cluster.reachable_of_answered reached) inLeft inRight positive storedLeft storedRight sameTerm

/-- A record that the statement has not filled, where there is none. -/
def unfilled (term : Nat) : ZoneAPI.Answers :=
  { previous := fun stored => stored.or (some ⟨0, 0, term, 0, "", none⟩)
    record := fun stored => stored.or (some ⟨0, 0, 0, 0, "", none⟩) }

theorem log_matching_first_reign :
    ∃ cluster mine theirs, (Cluster.answered threeServers).Reachable Cluster.Reported cluster ∧
      (cluster.node 0).oned.logdb.table.lookup 1 = some mine ∧
      (cluster.node 1).oned.logdb.table.lookup 1 = some theirs ∧ mine.entry = theirs.entry := by
  have ran : (((Cluster.answered threeServers).exec Cluster.Reported (Cluster.init threeServers fun _ => 0)
      (firstReign.map (·, unfilled 0))).map fun cluster => ((cluster.node 0).oned.logdb.table.lookup 1,
        (cluster.node 1).oned.logdb.table.lookup 1)) =
      some (some ⟨1, "INSERT", none, false⟩, some ⟨1, "INSERT", none, false⟩) := by
    decide
  obtain ⟨cluster, ran, stored⟩ := Option.map_eq_some_iff.mp ran
  obtain ⟨storedLeft, storedRight⟩ := Prod.mk.inj stored
  have reached : (Cluster.answered threeServers).Reachable Cluster.Reported cluster :=
    System.reachable_of_exec ⟨_, rfl⟩ ran
  exact ⟨cluster, _, _, reached, storedLeft, storedRight,
    (log_matching reached (by decide : (0 : Int) ∈ threeServers.servers)
      (by decide : (1 : Int) ∈ threeServers.servers) (Nat.le_refl 1) storedLeft storedRight rfl).1⟩

/-- Server 0 commits the record with server 1, steps down, leads term 3, and sends its second record to
server 2, which never got the first one. -/
def secondReign : List Event :=
  firstReign ++ [.replicaReply 0 (.pool 1) (some 1), .wake 0 0, .apply 0 0 fun _ => .success, .timeout 1,
    .startElection 1, .voteCall 1, .deliver 2 fun _ => .success, .timeout 0, .startElection 0, .voteCall 0,
    .deliver 3 fun _ => .success, .voteReply 0 (some 3), .endElection 0, .write 0 "UPDATE" none, .replicate 0 1,
    .replicaCall 0 2, .deliver 4 fun _ => .success]

/-- The first record is missing on server 2, and a record that was never filled passes for it. -/
theorem log_matching_unfilled : ∃ cluster row,
    (Cluster.answered threeServers).Reachable System.anyStep cluster ∧
      (cluster.node 0).oned.logdb.table.lookup 2 = some row ∧ (cluster.node 2).oned.logdb.table.lookup 2 = some row ∧
      (cluster.node 0).oned.logdb.table.lookup 1 ≠ none ∧ (cluster.node 2).oned.logdb.table.lookup 1 = none := by
  have ran : (((Cluster.answered threeServers).exec System.anyStep (Cluster.init threeServers fun _ => 0)
      (secondReign.map (·, unfilled 1))).map fun cluster =>
        [(cluster.node 0).oned.logdb.table.lookup 2, (cluster.node 2).oned.logdb.table.lookup 2,
          (cluster.node 0).oned.logdb.table.lookup 1, (cluster.node 2).oned.logdb.table.lookup 1]) =
      some [some ⟨3, "UPDATE", none, false⟩, some ⟨3, "UPDATE", none, false⟩, some ⟨1, "INSERT", none, true⟩, none] := by
    decide
  obtain ⟨cluster, ran, stored⟩ := Option.map_eq_some_iff.mp ran
  simp only [List.cons.injEq, and_true] at stored
  obtain ⟨mine, theirs, first, missing⟩ := stored
  exact ⟨cluster, _, System.reachable_of_exec ⟨_, rfl⟩ ran, mine, theirs, by rw [first]; simp, missing⟩

end OpenNebula.Raft
