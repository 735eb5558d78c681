import OpenNebula.Sql.Purge

namespace OpenNebula.Sql.LogDB

open Library

/-! # What a purge must not lose (`LogDB::purge_log`) -/

variable {db : LogDB} {kind other : LogRow → Bool} {logRetention : UInt32} {limit : DeleteLimit}
  {visit : Nat → Nat} {index : Nat} {row : LogRow}

def appliedAbove (db : LogDB) (kind : LogRow → Bool) (index : Nat) : List Nat :=
  (db.appliedRows kind).filter (index < ·)

/-- What survives a purge.  The last index and the last applied index are only known
to bound those of the records, as the maxima of the table do. -/
structure Keeps (before after : LogDB) (retention : Nat) : Prop where
  unapplied : ∀ index row, before.table.lookup index = some row → row.applied = false →
    after.table.lookup index = some row
  lastApplied : ∀ last, (∀ index, before.Applied index → index ≤ last) →
    after.table.lookup last = before.table.lookup last
  lastRecord : ∀ last, (∀ index ∈ before.table, index ≤ last) →
    after.getLogRecord last (last - 1) = before.getLogRecord last (last - 1)
  nextRecord : ∀ last, (∀ index, before.Applied index → index ≤ last) →
    after.getLogRecord (last + 1) last = before.getLogRecord (last + 1) last
  nonfederated : ∀ index ∈ before.appliedRows (fun row => row.fedIndex.isNone),
    (before.appliedAbove (fun row => row.fedIndex.isNone) index).length < retention →
      after.table.lookup index = before.table.lookup index
  federated : ∀ index ∈ before.appliedRows (fun row => row.fedIndex.isSome),
    (before.appliedAbove (fun row => row.fedIndex.isSome) index).length < retention →
      after.table.lookup index = before.table.lookup index

theorem not_mem_purgedRows
    (few : index ∈ db.appliedRows kind → (db.appliedAbove kind index).length < logRetention.toNat) :
    index ∉ db.purgedRows kind logRetention limit visit := by
  intro gone
  obtain ⟨inside, enough⟩ := mem_purgedRows gone
  exact absurd (few inside) (Nat.not_lt.2 enough)

theorem appliedRows_deleteRows (apart : ∀ row, kind row = true → other row = false)
    {rows : List Nat} (deleted : rows ⊆ db.appliedRows kind) :
    (db.deleteRows rows).appliedRows other = db.appliedRows other := by
  have kept : ∀ entry ∈ db.table.entries, (entry.2.applied && other entry.2) = true → entry.1 ∉ rows := by
    intro entry stored isOther gone
    obtain ⟨row, found, -, isKind⟩ := mem_appliedRows.1 (deleted gone)
    have same : entry.2 = row := by
      have := Map.mem_entries_iff.1 stored
      rw [found] at this
      exact (Option.some.inj this).symm
    rw [Bool.and_eq_true, same, apart row isKind] at isOther
    cases isOther.2
  unfold appliedRows AList.keys
  congr 1
  change (db.table.entries.filter _).filter _ = db.table.entries.filter _
  rw [List.filter_filter]
  refine List.filter_congr fun entry stored => ?_
  cases isOther : (entry.2.applied && other entry.2) with
  | false => simp only [isOther, Bool.false_and]
  | true => simp only [isOther, kept entry stored isOther, not_false_eq_true, decide_true, Bool.and_self]

theorem lookup_purgeLog (stored : db.table.lookup index = some row)
    (nonfederated : index ∈ db.appliedRows (fun row => row.fedIndex.isNone) →
      (db.appliedAbove (fun row => row.fedIndex.isNone) index).length < logRetention.toNat)
    (federated : index ∈ db.appliedRows (fun row => row.fedIndex.isSome) →
      (db.appliedAbove (fun row => row.fedIndex.isSome) index).length < logRetention.toNat) :
    (db.purgeLog logRetention limit visit).1.table.lookup index = some row := by
  have first (rows : List Nat)
      (isRows : rows = db.purgedRows (fun row => row.fedIndex.isNone) logRetention limit visit) :
      (db.deleteRows rows).table.lookup index = some row := by
    rw [lookup_deleteRows, if_neg (isRows ▸ not_mem_purgedRows nonfederated)]
    exact stored
  rw [purgeLog]
  split
  · exact first _ rfl
  · have apart : ∀ row : LogRow, row.fedIndex.isNone = true → row.fedIndex.isSome = false := by
      intro row isNone
      rw [Option.isNone_iff_eq_none.1 isNone, Option.isSome_none]
    let rows := db.purgedRows (fun row => row.fedIndex.isNone) logRetention limit visit
    have gone : rows ⊆ db.appliedRows fun row => row.fedIndex.isNone := fun _ gone => (mem_purgedRows gone).1
    have same := appliedRows_deleteRows apart gone
    change ((db.deleteRows _).deleteRows _).table.lookup index = some row
    rw [lookup_deleteRows, if_neg (not_mem_purgedRows _)]
    · exact first _ rfl
    · unfold appliedAbove
      rw [same]
      exact federated

/-- A record stays, or stays absent, when fewer applied ones of any kind are above it
than are retained. -/
theorem lookup_purgeLog_eq (retention : 2 ≤ logRetention.toNat)
    (few : ∀ kind, index ∈ db.appliedRows kind → (db.appliedAbove kind index).length < logRetention.toNat) :
    (db.purgeLog logRetention limit visit).1.table.lookup index = db.table.lookup index := by
  cases stored : db.table.lookup index with
  | some row => exact lookup_purgeLog stored (few _) (few _)
  | none =>
    cases left : (db.purgeLog logRetention limit visit).1.table.lookup index with
    | none => rfl
    | some row =>
      have before := (purged_purgeLog db retention limit visit).rows index row left
      rw [stored] at before
      cases before

theorem appliedAbove_short {last : Nat} (bounded : ∀ index, db.Applied index → index ≤ last)
    (close : last ≤ index + 1) : (db.appliedAbove kind index).length ≤ 1 := by
  have nodup : (db.appliedAbove kind index).Nodup := (db.appliedRows_nodup kind).filter _
  have single : ∀ above ∈ db.appliedAbove kind index, above = last := by
    intro above isAbove
    obtain ⟨inside, larger⟩ := List.mem_filter.1 isAbove
    obtain ⟨row, stored, applied, -⟩ := mem_appliedRows.1 inside
    have smaller := bounded above ⟨row, stored, applied⟩
    have larger : index < above := of_decide_eq_true larger
    omega
  rw [List.eq_replicate_of_mem single] at nodup
  exact List.nodup_replicate.1 nodup

theorem getLogRecord_congr {after : LogDB} {prevIndex : Nat}
    (record : after.table.lookup index = db.table.lookup index)
    (previous : after.table.lookup prevIndex = db.table.lookup prevIndex) :
    after.getLogRecord index prevIndex = db.getLogRecord index prevIndex := by
  have paired : after.table.lookup (if index = 0 then 0 else prevIndex) =
      db.table.lookup (if index = 0 then 0 else prevIndex) := by
    by_cases zero : index = 0
    · rw [if_pos zero]
      exact zero ▸ record
    · rw [if_neg zero]
      exact previous
  simp only [getLogRecord, record, paired]

/-- No purge that retains two records or more loses one that is still needed. -/
theorem purge_safe (db : LogDB) (logRetention : UInt32) (limit : DeleteLimit) (visit : Nat → Nat)
    (retention : 2 ≤ logRetention.toNat) : Keeps db (db.purgeLog logRetention limit visit).1 logRetention.toNat where
  unapplied index row stored notApplied := by
    have absent (kind : LogRow → Bool) : index ∉ db.appliedRows kind := by
      intro inside
      obtain ⟨other, found, applied, -⟩ := mem_appliedRows.mp inside
      rw [stored] at found
      cases found
      rw [notApplied] at applied
      cases applied
    exact lookup_purgeLog stored (fun inside => absurd inside (absent _))
      (fun inside => absurd inside (absent _))
  lastApplied last bounded :=
    lookup_purgeLog_eq retention fun _ _ =>
      (appliedAbove_short bounded (Nat.le_succ last)).trans_lt retention
  lastRecord last bounded := by
    have appliedBounded : ∀ index, db.Applied index → index ≤ last := by
      intro index applied
      obtain ⟨row, stored, -⟩ := applied
      exact bounded index (Map.mem_keys_iff.mpr ⟨row, stored⟩)
    refine getLogRecord_congr ?_ ?_
    · exact lookup_purgeLog_eq retention fun _ _ =>
        (appliedAbove_short appliedBounded (Nat.le_succ last)).trans_lt retention
    · exact lookup_purgeLog_eq retention fun _ _ =>
        (appliedAbove_short appliedBounded (by omega)).trans_lt retention
  nextRecord last bounded := by
    refine getLogRecord_congr ?_ ?_
    · exact lookup_purgeLog_eq retention fun _ _ =>
        (appliedAbove_short bounded (by omega)).trans_lt retention
    · exact lookup_purgeLog_eq retention fun _ _ =>
        (appliedAbove_short bounded (Nat.le_succ last)).trans_lt retention
  nonfederated index inside few := by
    obtain ⟨row, stored, -, isKind⟩ := mem_appliedRows.mp inside
    rw [stored]
    refine lookup_purgeLog stored (fun _ => few) fun other => ?_
    obtain ⟨again, found, -, isOther⟩ := mem_appliedRows.mp other
    rw [stored] at found
    cases found
    rw [Option.isNone_iff_eq_none.mp isKind] at isOther
    cases isOther
  federated index inside few := by
    obtain ⟨row, stored, -, isKind⟩ := mem_appliedRows.mp inside
    rw [stored]
    refine lookup_purgeLog stored (fun other => ?_) fun _ => few
    obtain ⟨again, found, -, isOther⟩ := mem_appliedRows.mp other
    rw [stored] at found
    cases found
    rw [Option.isNone_iff_eq_none.mp isOther] at isKind
    cases isKind

def sixRecords : LogDB :=
  let row (index : Nat) : LogRow := ⟨1, "", if index = 2 then some 2 else none, index ≠ 5⟩
  { solo := false, cache := false, table := ((List.range 6).map fun index => (⟨index, row index⟩ : Sigma _)).toAList,
    raftState := none, executed := [], nextIndex := 6, lastApplied := 4, lastIndex := 5, lastTerm := 1,
    fedLog := {2} }

theorem purge_safe_sixRecords : (sixRecords.purgeLog 2 (.mysql 1) id).1.table.keys = [1, 2, 3, 4, 5] ∧
    Keeps sixRecords (sixRecords.purgeLog 2 (.mysql 1) id).1 2 :=
  ⟨by decide, purge_safe sixRecords 2 (.mysql 1) id (by decide)⟩

end OpenNebula.Sql.LogDB
