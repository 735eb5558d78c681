import Mathlib.Logic.Function.Iterate
import OpenNebula.Raft.ReplicaRequest

namespace OpenNebula.Raft

open Library

/-! # Requests behind pointers -/

namespace ReplicaRequest

theorem addReplica_index (rr : ReplicaRequest) : rr.addReplica.index = rr.index := by
  simp only [addReplica, notify]
  split <;> split <;> rfl

theorem addReplica_toCommit (rr : ReplicaRequest) :
    rr.addReplica.toCommit = if 0 < rr.toCommit then rr.toCommit - 1 else rr.toCommit := by
  simp only [addReplica, notify]
  split <;> split <;> rfl

theorem addReplica_pending {rr : ReplicaRequest} (left : rr.addReplica.toCommit ≠ 0) :
    rr.addReplica.notified = rr.notified ∧ rr.addReplica.result = rr.result := by
  rw [addReplica_toCommit] at left
  simp only [addReplica, notify]
  split <;> split <;> simp_all

theorem addReplica_done {rr : ReplicaRequest} (done : rr.addReplica.toCommit = 0) :
    rr.addReplica.notified = rr.notified + 1 ∧ rr.addReplica.result = true := by
  rw [addReplica_toCommit] at done
  simp only [addReplica, notify]
  split <;> split <;> simp_all

end ReplicaRequest

namespace ReplicaRequestMap

variable {map : ReplicaRequestMap} {pointer index : Nat} {rr : ReplicaRequest}

theorem lookup_update (map : ReplicaRequestMap) (pointer : Nat)
    (change : ReplicaRequest → ReplicaRequest) (other : Nat) : (map.update pointer change).objects.lookup other =
      (map.objects.lookup other).map fun rr => if other = pointer then change rr else rr :=
  Map.lookup_modify _ _ _

@[simp] theorem update_requests (map : ReplicaRequestMap) (pointer : Nat) (change : ReplicaRequest → ReplicaRequest) :
    (map.update pointer change).requests = map.requests := rfl

theorem allocate_slot {rindex : Nat} (isSlot : (map.allocate rindex).requests.lookup index = some (some pointer)) :
    map.requests.lookup index = some (some pointer) := by
  rw [allocate] at isSlot
  by_cases same : index = rindex
  · subst same
    rw [Map.lookup_insertNew_self] at isSlot
    cases found : map.requests.lookup index with
    | none => rw [found] at isSlot; cases isSlot
    | some slot => rw [found] at isSlot; exact isSlot
  · rwa [Map.lookup_insertNew_ne same] at isSlot

theorem addReplica_cases (map : ReplicaRequestMap) (rindex : Nat) :
    ((∀ pointer rr, map.requests.lookup rindex = some (some pointer) → map.objects.lookup pointer ≠ some rr) ∧
      (map.addReplica rindex).1.requests = map.requests ∧
      (∀ other, (map.addReplica rindex).1.objects.lookup other = map.objects.lookup other) ∧
      (map.addReplica rindex).2 = -1) ∨ ∃ pointer rr, map.requests.lookup rindex = some (some pointer) ∧
      map.objects.lookup pointer = some rr ∧ (map.addReplica rindex).1 = { map.update pointer .addReplica with
        requests := if rr.addReplica.toCommit = 0 then map.requests.erase rindex
          else map.requests } ∧
      (map.addReplica rindex).2 = rr.addReplica.toCommit := by
  unfold addReplica
  split
  · rename_i pointer isSlot
    dsimp only
    rw [lookup_update]
    cases isObject : map.objects.lookup pointer with
    | none =>
      left
      refine ⟨fun other rr sameSlot => ?_, rfl, fun other => ?_, rfl⟩
      · rw [isSlot, Option.some.injEq, Option.some.injEq] at sameSlot
        rw [← sameSlot, isObject]
        simp
      · rw [Option.map_none]
        dsimp only
        rw [lookup_update]
        split
        · rename_i same
          rw [same, isObject]
          rfl
        · simp
    | some rr =>
      right
      refine ⟨pointer, rr, isSlot, isObject, ?_⟩
      simp only [Option.map_some, if_true]
      split <;> exact ⟨rfl, trivial⟩
  · rename_i noSlot
    exact .inl ⟨fun pointer rr isSlot => absurd isSlot (noSlot pointer), rfl, fun _ => rfl, rfl⟩

theorem addReplica_slot {rindex : Nat}
    (isSlot : (map.addReplica rindex).1.requests.lookup index = some (some pointer)) :
    map.requests.lookup index = some (some pointer) := by
  rcases map.addReplica_cases rindex with ⟨_, slots, _⟩ | ⟨_, _, _, _, isMap, _⟩
  · rwa [slots] at isSlot
  · rw [isMap] at isSlot
    dsimp only at isSlot
    split at isSlot
    · rw [Map.lookup_erase_eq] at isSlot
      split at isSlot
      · cases isSlot
      · exact isSlot
    · exact isSlot

def references (map : ReplicaRequestMap) (pointer : Nat) : Nat :=
  (map.requests.entries.filter fun slot => slot.2 = some pointer).length

theorem foldl_stepDown (slots : List (Σ _ : Nat, Option Nat)) (map : ReplicaRequestMap) (pointer : Nat) :
    (slots.foldl (fun (map : ReplicaRequestMap) (slot : Σ _ : Nat, Option Nat) =>
      match slot.2 with
      | none => map
      | some pointer => map.update pointer .stepDown) map).objects.lookup pointer =
      (map.objects.lookup pointer).map
        (ReplicaRequest.stepDown^[(slots.filter fun slot => slot.2 = some pointer).length]) := by
  induction slots generalizing map with
  | nil => simp
  | cons slot slots ih =>
    rw [List.foldl_cons, ih]
    cases isSlot : slot.2 with
    | none => simp [isSlot]
    | some other =>
      dsimp only
      rw [lookup_update, Option.map_map]
      by_cases same : pointer = other
      · subst same
        simp only [List.filter_cons, isSlot, decide_true, if_true, List.length_cons]
        rfl
      · simp only [List.filter_cons, isSlot, Option.some.injEq, Ne.symm same, decide_false, if_neg same]
        rfl

@[simp] theorem clear_requests (map : ReplicaRequestMap) : map.clear.requests = ∅ := rfl

theorem lookup_clear (map : ReplicaRequestMap) (pointer : Nat) : map.clear.objects.lookup pointer =
      (map.objects.lookup pointer).map (ReplicaRequest.stepDown^[map.references pointer]) :=
  foldl_stepDown map.requests.entries map pointer

theorem iterate_stepDown_index (count : Nat) (rr : ReplicaRequest) :
    (ReplicaRequest.stepDown^[count] rr).index = rr.index := by
  induction count generalizing rr with
  | zero => rfl
  | succ count ih => rw [Function.iterate_succ_apply, ih]; rfl

theorem iterate_stepDown_notified (count : Nat) (rr : ReplicaRequest) :
    (ReplicaRequest.stepDown^[count] rr).notified = rr.notified + count := by
  induction count generalizing rr with
  | zero => rfl
  | succ count ih =>
    rw [Function.iterate_succ_apply, ih]
    simp only [ReplicaRequest.stepDown, ReplicaRequest.notify]
    omega

theorem references_eq (only : ∀ other, map.requests.lookup other = some (some pointer) → other = index) :
    map.references pointer = if map.requests.lookup index = some (some pointer) then 1 else 0 := by
  have counted : map.references pointer =
      map.requests.entries.count (⟨index, some pointer⟩ : Σ _ : Nat, Option Nat) := by
    rw [references, List.count, List.countP_eq_length_filter]
    congr 1
    apply List.filter_congr
    rintro ⟨other, slot⟩ inside
    rw [Map.mem_entries_iff] at inside
    rw [Bool.eq_iff_iff, decide_eq_true_iff, beq_iff_eq]
    constructor
    · rintro rfl
      rw [only other inside]
    · intro same
      cases same
      rfl
  rw [counted]
  split
  · rename_i isSlot
    exact List.count_eq_one_of_mem map.requests.nodupKeys.nodup (Map.mem_entries_iff.2 isSlot)
  · rename_i noSlot
    exact List.count_eq_zero.2 fun inside => noSlot (Map.mem_entries_iff.1 inside)

theorem iterate_stepDown_result (count : Nat) (rr : ReplicaRequest)
    (result : (ReplicaRequest.stepDown^[count] rr).result = true) : rr.result = true := by
  induction count generalizing rr with
  | zero => exact result
  | succ count ih =>
    rw [Function.iterate_succ_apply] at result
    cases ih _ result

theorem clear_object (cleared : map.clear.objects.lookup pointer = some rr) :
    ∃ before, map.objects.lookup pointer = some before ∧ rr.index = before.index ∧
      (rr.result = true → before.result = true) := by
  rw [lookup_clear, Option.map_eq_some_iff] at cleared
  obtain ⟨before, isBefore, rfl⟩ := cleared
  exact ⟨before, isBefore, iterate_stepDown_index _ _, iterate_stepDown_result _ _⟩

end ReplicaRequestMap

end OpenNebula.Raft
