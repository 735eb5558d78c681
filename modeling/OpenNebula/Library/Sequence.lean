import Mathlib.Data.List.Nodup
import Mathlib.Order.Basic

namespace OpenNebula.Library

/-! # Contiguous runs of a sequence

A copy of a sequence that only ever takes the element after its last one stays a
contiguous run of the sequence.  The elements are told apart by a key that grows
along the sequence.
-/

universe u v

variable {α : Type u} {κ : Type v}

def Ascending [LT κ] (key : α → κ) (sequence : List α) : Prop :=
  sequence.Pairwise fun left right => key left < key right

namespace Ascending

variable [Preorder κ] {key : α → κ} {sequence : List α}

theorem nodup (ascending : Ascending key sequence) : sequence.Nodup := by
  refine List.Pairwise.imp ?_ ascending
  rintro left right below rfl
  exact lt_irrefl _ below

theorem unique (ascending : Ascending key sequence) {left right : α} (isLeft : left ∈ sequence)
    (isRight : right ∈ sequence) (same : key left = key right) : left = right := by
  induction sequence with
  | nil => cases isLeft
  | cons first rest ih =>
    obtain ⟨above, tail⟩ := List.pairwise_cons.1 ascending
    rcases List.mem_cons.1 isLeft with rfl | inLeft <;>
      rcases List.mem_cons.1 isRight with rfl | inRight
    · rfl
    · exact absurd (above right inRight) (same ▸ lt_irrefl _)
    · exact absurd (above left inLeft) (same ▸ lt_irrefl _)
    · exact ih tail inLeft inRight

theorem snoc (ascending : Ascending key sequence) {last : α} (above : ∀ element ∈ sequence, key element < key last) :
    Ascending key (sequence ++ [last]) := by
  refine List.pairwise_append.2 ⟨ascending, List.pairwise_singleton _ _, ?_⟩
  intro element isElement other isLast
  rw [List.mem_singleton.1 isLast]
  exact above element isElement

theorem mem_take {key : α → Nat} {sequence : List α} (ascending : Ascending key sequence)
    {start count : Nat} (above : ∀ element ∈ sequence, start ≤ key element) {element : α}
    (isElement : element ∈ sequence) (near : key element < start + count) : element ∈ sequence.take count := by
  induction sequence generalizing start count with
  | nil => cases isElement
  | cons first rest ih =>
    obtain ⟨aboveFirst, tail⟩ := List.pairwise_cons.1 ascending
    have fromStart := above first List.mem_cons_self
    cases count with
    | zero => exact absurd (above element isElement) (by omega)
    | succ count =>
      rw [List.take_succ_cons]
      rcases List.mem_cons.1 isElement with rfl | inRest
      · exact List.mem_cons_self
      · refine List.mem_cons_of_mem _ (ih tail (fun other inside => ?_) inRest
          (show key element < (start + 1) + count by omega))
        have := aboveFirst other inside
        omega

end Ascending

theorem Ascending.neighbours [PartialOrder κ] {key : α → κ} {sequence : List α} (ascending : Ascending key sequence)
    {prev element : α} (isPrev : prev ∈ sequence) (isElement : element ∈ sequence) (below : key prev < key element)
    (largest : ∀ other ∈ sequence, key other < key element → key other ≤ key prev) :
    [prev, element] <:+: sequence := by
  obtain ⟨front, back, rfl⟩ := List.append_of_mem isElement
  obtain ⟨sorted, sortedBack, across⟩ := List.pairwise_append.1 ascending
  have inFront : prev ∈ front := by
    rcases List.mem_append.1 isPrev with inside | inside
    · exact inside
    · rcases List.mem_cons.1 inside with rfl | later
      · exact absurd below (lt_irrefl _)
      · exact absurd (below.trans ((List.pairwise_cons.1 sortedBack).1 prev later)) (lt_irrefl _)
  rcases List.eq_nil_or_concat front with rfl | ⟨first, last, rfl⟩
  · cases inFront
  · rw [List.concat_eq_append] at *
    have isLast : last ∈ first ++ [last] := List.mem_append_right _ (List.mem_singleton_self _)
    have lastBelow : key last < key element := across last isLast element (List.mem_cons_self ..)
    have atMost := largest last (List.mem_append_left _ isLast) lastBelow
    rcases List.mem_append.1 inFront with earlier | same
    · have before := (List.pairwise_append.1 sorted).2.2 prev earlier last (List.mem_singleton_self _)
      exact absurd (before.trans_le atMost) (lt_irrefl _)
    · rw [List.mem_singleton.1 same]
      exact ⟨first, back, by simp⟩

theorem run_snoc {sequence run : List α} {last next : α} (nodup : sequence.Nodup)
    (isRun : run ++ [last] <:+: sequence) (follows : [last, next] <:+: sequence) :
    run ++ [last] ++ [next] <:+: sequence := by
  obtain ⟨before, after, isWhole⟩ := isRun
  obtain ⟨front, back, isSplit⟩ := follows
  have left : sequence = (before ++ run) ++ last :: after := by rw [← isWhole]; simp
  have right : sequence = front ++ last :: (next :: back) := by rw [← isSplit]; simp
  have once := nodup
  rw [left] at once
  obtain ⟨-, onceBack, across⟩ := List.nodup_append.1 once
  have notBefore : last ∉ before ++ run := fun inside => across last inside last (List.mem_cons_self ..) rfl
  have notAfter : last ∉ after := (List.nodup_cons.1 onceBack).1
  obtain ⟨-, -, isAfter⟩ := (List.append_cons_inj_of_notMem notBefore notAfter).1 (left.symm.trans right)
  refine ⟨before, back, ?_⟩
  rw [left, isAfter]
  simp

end OpenNebula.Library
