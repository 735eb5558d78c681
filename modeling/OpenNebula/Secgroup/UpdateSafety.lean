import OpenNebula.Secgroup.UpdateRules

namespace OpenNebula.Secgroup

open Library Vm

/-! # What holds of a security group while its VMs are updated -/

structure Sound (state : State) : Prop where
  updatedOutdated : Disjoint state.group.updated state.group.outdated
  updatedUpdating : Disjoint state.group.updated state.group.updating
  updatedError : Disjoint state.group.updated state.group.error
  outdatedUpdating : Disjoint state.group.outdated state.group.updating
  outdatedError : Disjoint state.group.outdated state.group.error
  updatingError : Disjoint state.group.updating state.group.error
  users : state.handler = .idle → state.group.vms = state.users
  served : state.group.outdated = ∅ ∨ 0 < state.triggers ∨ 0 < state.finishing ∨ state.handler ≠ .idle ∨
    ∃ vm ∈ state.group.updating, state.Awaited vm

variable {state after : State}

theorem disjoint_of_marks {vms others : Finset Nat} (apart : ∀ vm, mark vms vm + mark others vm ≤ 1) :
    Disjoint vms others := by
  refine Finset.disjoint_left.2 fun vm member other => ?_
  have counted := apart vm
  rw [mark_of_mem member, mark_of_mem other] at counted
  omega

theorem Kept.sound (kept : Kept state) : Sound state := by
  have once := kept.places_le
  unfold SecurityGroup.places at once
  refine ⟨disjoint_of_marks fun vm => ?_, disjoint_of_marks fun vm => ?_, disjoint_of_marks fun vm => ?_,
    disjoint_of_marks fun vm => ?_, disjoint_of_marks fun vm => ?_, disjoint_of_marks fun vm => ?_,
    fun idle => ?_, ?_⟩
  iterate 6 (have counted := once vm; omega)
  · ext vm
    have counted := kept.once vm
    rw [idle] at counted
    simp only [Handler.holds, Bool.false_eq_true, if_false, Nat.add_zero] at counted
    rw [SecurityGroup.mem_vms, counted]
    by_cases member : vm ∈ state.users <;> simp [member]
  · rcases kept.driven with empty | waits | waits | proceeds | updating
    · exact .inl empty
    · exact .inr (.inl waits)
    · exact .inr (.inr (.inl waits))
    · refine .inr (.inr (.inr (.inl fun idle => ?_)))
      rw [State.Proceeds, idle] at proceeds
      exact proceeds
    · exact .inr (.inr (.inr (.inr updating)))

variable {vm : Nat}

def empty : State where
  group := ⟨∅, ∅, ∅, ∅⟩
  rules := 0
  users := ∅
  vms := fun _ => some (.active, .running)
  handler := .idle
  triggers := 0
  requests := []
  replies := []
  finishing := 0

end OpenNebula.Secgroup
