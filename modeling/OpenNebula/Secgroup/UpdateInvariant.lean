import OpenNebula.Secgroup.UpdateProtocol

namespace OpenNebula.Secgroup

open Library Vm

/-! # Each VM of a group has one place -/

/-- Membership as a number -/
def mark (vms : Finset Nat) (vm : Nat) : Nat := if vm ∈ vms then 1 else 0

section Mark

variable (vms others : Finset Nat) (vm other : Nat)

theorem mark_pos {vms : Finset Nat} {vm : Nat} : 0 < mark vms vm ↔ vm ∈ vms := by unfold mark; split <;> simp_all

theorem mark_of_mem {vms : Finset Nat} {vm : Nat} (member : vm ∈ vms) : mark vms vm = 1 := if_pos member

theorem mark_of_notMem {vms : Finset Nat} {vm : Nat} (absent : vm ∉ vms) : mark vms vm = 0 := if_neg absent

@[simp] theorem mark_empty : mark ∅ vm = 0 := rfl

theorem mark_insert : mark (insert vm vms) other = if other = vm then 1 else mark vms other := by
  by_cases same : other = vm <;> simp [mark, same]

theorem mark_erase : mark (vms.erase vm) other = if other = vm then 0 else mark vms other := by
  by_cases same : other = vm <;> simp [mark, same]

theorem mark_union : mark (vms ∪ others) vm = max (mark vms vm) (mark others vm) := by
  unfold mark
  by_cases vm ∈ vms <;> by_cases vm ∈ others <;> simp [*]

end Mark

namespace SecurityGroup

variable (group : SecurityGroup) (vm other : Nat)

def places : Nat := mark group.updated vm + mark group.outdated vm + mark group.updating vm + mark group.error vm

variable {group vm other}

theorem mem_vms : vm ∈ group.vms ↔ 0 < group.places vm := by
  unfold vms places
  simp only [Finset.mem_union, ← mark_pos]
  omega

theorem places_addVm (absent : group.places vm = 0) (other : Nat) :
    (group.addVm vm).places other = group.places other + if other = vm then 1 else 0 := by
  simp only [places, addVm, mark_insert] at absent ⊢
  split
  next same => subst same; omega
  next => omega

theorem places_addUpdating (absent : group.places vm = 0) (other : Nat) :
    (group.addUpdating vm).places other = group.places other + if other = vm then 1 else 0 := by
  simp only [places, addUpdating, mark_insert] at absent ⊢
  split
  next same => subst same; omega
  next => omega

theorem places_addError (absent : group.places vm = 0) (other : Nat) :
    (group.addError vm).places other = group.places other + if other = vm then 1 else 0 := by
  simp only [places, addError, mark_insert] at absent ⊢
  split
  next same => subst same; omega
  next => omega

theorem places_delVm (once : group.places vm ≤ 1) (other : Nat) :
    (group.delVm vm).places other = if other = vm then 0 else group.places other := by
  unfold delVm
  by_cases same : other = vm
  · subst same
    rw [if_pos rfl]
    unfold places at once
    split_ifs with updated updating error
    · simp only [places, mark_erase, if_true]
      rw [mark_of_mem updated] at once
      omega
    · simp only [places, mark_erase, if_true]
      rw [mark_of_mem updating] at once
      omega
    · simp only [places, mark_erase, if_true]
      rw [mark_of_mem error] at once
      omega
    · simp only [places, mark_erase, if_true, mark_of_notMem updated, mark_of_notMem updating, mark_of_notMem error]
  · split_ifs <;> simp [places, mark_erase, same]

theorem delVm_outdated (group : SecurityGroup) (vm : Nat) : (group.delVm vm).outdated ⊆ group.outdated := by
  unfold delVm
  split_ifs
  · exact Finset.Subset.refl _
  · exact Finset.Subset.refl _
  · exact Finset.Subset.refl _
  · exact Finset.erase_subset _ _

theorem delVm_updating (absent : vm ∉ group.updating) : (group.delVm vm).updating = group.updating := by
  unfold delVm
  split_ifs <;> rfl

theorem places_delUpdating (member : vm ∈ group.updating) (other : Nat) :
    (group.delUpdating vm).places other + (if other = vm then 1 else 0) = group.places other := by
  simp only [places, delUpdating, mark_erase]
  split
  next same => subst same; rw [mark_of_mem member]; omega
  next => omega

theorem places_commit (once : group.places vm ≤ 1) (recover : Bool) :
    (group.commit recover).places vm = group.places vm := by
  unfold places at once ⊢
  cases recover <;> simp only [commit, if_true, Bool.false_eq_true, if_false, mark_union, mark_empty] <;> omega

theorem getOutdated_eq_some {rest : SecurityGroup} (popped : group.getOutdated = some (vm, rest)) :
    vm ∈ group.outdated ∧ rest = { group with outdated := group.outdated.erase vm } := by
  unfold getOutdated at popped
  split at popped
  next present =>
    cases popped
    exact ⟨Finset.min'_mem _ present, rfl⟩
  next => cases popped

theorem getOutdated_eq_none (empty : group.getOutdated = none) : group.outdated = ∅ := by
  unfold getOutdated at empty
  split at empty
  next => cases empty
  next absent => exact Finset.not_nonempty_iff_eq_empty.1 absent

theorem places_pop {rest : SecurityGroup} (popped : group.getOutdated = some (vm, rest)) (other : Nat) :
    rest.places other + (if other = vm then 1 else 0) = group.places other := by
  obtain ⟨member, rfl⟩ := getOutdated_eq_some popped
  simp only [places, mark_erase]
  split
  next same => subst same; rw [mark_of_mem member]; omega
  next => omega

end SecurityGroup

namespace State

variable (state : State)

/-- The driver's reply for a VM is still to come, or is being processed. -/
def Awaited (vm : Nat) : Prop :=
  (∃ request ∈ state.requests, request.1 = vm) ∨ ∃ reply ∈ state.replies, reply.vm = vm

instance (vm : Nat) : Decidable (state.Awaited vm) :=
  inferInstanceAs (Decidable ((∃ request ∈ state.requests, _) ∨ ∃ reply ∈ state.replies, _))

/-- The handler will take another VM, or waits for the reply of the one that it holds. -/
def Proceeds : Prop :=
  match state.handler with
  | .idle | .crashed => False
  | .settling vm (.hypervisor _) => state.Awaited vm
  | _ => True

/-- Something goes on to the next outdated VM. -/
def Driven : Prop :=
  0 < state.triggers ∨ 0 < state.finishing ∨ state.Proceeds ∨ ∃ vm ∈ state.group.updating, state.Awaited vm

/-- What the driver has been told for the VM, and not finished, are the present rules. -/
def Fresh (vm : Nat) : Prop :=
  (∀ request ∈ state.requests, request.1 = vm → request.2 = state.rules) ∧
    ∀ reply ∈ state.replies, reply.vm = vm → reply.rules = state.rules

instance (vm : Nat) : Decidable (state.Fresh vm) :=
  inferInstanceAs (Decidable ((∀ request ∈ state.requests, _) ∧ ∀ reply ∈ state.replies, _))

end State

/-- A step after which no VM has two places and none is forgotten with old rules -/
def Clean (state : State) : Event → Prop
  | .lockVm =>
    match state.handler with
    | .popped vm => (state.vms vm).isSome
    | _ => True
  | .release =>
    match state.handler with
    | .loaded vm true _ => state.Fresh vm
    | _ => True
  | .receive vm _ _ => state.ignores vm = true → state.group.outdated = ∅
  | .update => state.handler.rules = none
  | .join vm => vm ∉ state.users ∨ vm ∈ state.group.updated
  | .leave vm => state.handler.holds vm = false ∧ (vm ∈ state.group.updating → state.group.outdated = ∅)
  | _ => True

instance (state : State) (event : Event) : Decidable (Clean state event) := by
  unfold Clean
  split
  · split <;> infer_instance
  · split <;> infer_instance
  all_goals infer_instance

structure Kept (state : State) : Prop where
  once : ∀ vm, state.group.places vm + (if state.handler.holds vm then 1 else 0) =
    if vm ∈ state.users then 1 else 0
  driven : state.group.outdated = ∅ ∨ state.Driven
  alive : state.handler ≠ .crashed

variable {state after : State}

namespace Kept

theorem places_le (kept : Kept state) (vm : Nat) : state.group.places vm ≤ 1 := by
  have once := kept.once vm
  split at once <;> split at once <;> omega

theorem absent_of_holds (kept : Kept state) {vm : Nat} (holds : state.handler.holds vm = true) :
    state.group.places vm = 0 := by
  have once := kept.once vm
  rw [if_pos holds] at once
  split at once <;> omega

end Kept

theorem State.pop_once (state : State) {group : SecurityGroup} {count : Nat → Nat}
    (places : ∀ vm, group.places vm = count vm) (vm : Nat) :
    (state.pop group).group.places vm + (if (state.pop group).handler.holds vm then 1 else 0) = count vm := by
  unfold State.pop
  cases popped : group.getOutdated with
  | none => simp [Handler.holds, places vm]
  | some taken =>
    obtain ⟨first, rest⟩ := taken
    have counted := SecurityGroup.places_pop popped vm
    simp only [Handler.holds, decide_eq_true_eq]
    by_cases same : first = vm
    · subst same
      simp only [if_true] at counted ⊢
      rw [counted, places]
    · have apart : ¬ vm = first := fun equal => same equal.symm
      simp only [same, apart, if_false, Nat.add_zero] at counted ⊢
      rw [counted, places]

theorem State.pop_driven (state : State) (group : SecurityGroup) :
    (state.pop group).group.outdated = ∅ ∨ (state.pop group).Driven := by
  unfold State.pop
  cases popped : group.getOutdated with
  | none => exact .inl (SecurityGroup.getOutdated_eq_none popped)
  | some taken => exact .inr (.inr (.inr (.inl trivial)))

theorem State.pop_alive (state : State) (group : SecurityGroup) : (state.pop group).handler ≠ .crashed := by
  unfold State.pop
  cases group.getOutdated <;> simp

theorem State.pop_users (state : State) (group : SecurityGroup) : (state.pop group).users = state.users := by
  unfold State.pop
  cases group.getOutdated <;> rfl

theorem kept_pop {group : SecurityGroup} (triggers : Nat)
    (places : ∀ vm, group.places vm = if vm ∈ state.users then 1 else 0) :
    Kept ({ state with triggers := triggers }.pop group) := by
  refine ⟨fun vm => ?_, State.pop_driven _ _, State.pop_alive _ _⟩
  rw [State.pop_users]
  exact State.pop_once _ places vm

section

variable (kept : Kept state)
include kept

theorem kept_start (stepped : step state .start = some after) : Kept after := by
  simp only [step] at stepped
  split at stepped
  next ready =>
    cases stepped
    refine kept_pop (state.triggers - 1) fun vm => ?_
    have once := kept.once vm
    rw [ready.1] at once
    simpa [Handler.holds] using once
  next => cases stepped

theorem kept_lockVm (clean : Clean state .lockVm)
    (stepped : step state .lockVm = some after) : Kept after := by
  cases handler : state.handler with
  | popped vm =>
    simp only [Clean, handler] at clean
    obtain ⟨⟨vmState, lcmState⟩, found⟩ := Option.isSome_iff_exists.1 clean
    simp only [step, handler, found] at stepped
    have once := kept.once
    rw [handler] at once
    cases needs : updateOf vmState lcmState <;> rw [needs] at stepped <;> cases stepped
    all_goals exact ⟨once, .inr (.inr (.inr (.inl trivial))), by simp⟩
  | _ => simp [step, handler] at stepped

theorem kept_readRules (stepped : step state .readRules = some after) : Kept after := by
  cases handler : state.handler with
  | locked vm host =>
    simp only [step, handler] at stepped
    cases stepped
    have once := kept.once
    rw [handler] at once
    exact ⟨once, .inr (.inr (.inr (.inl trivial))), by simp⟩
  | _ => simp [step, handler] at stepped

theorem kept_release (stepped : step state .release = some after) : Kept after := by
  cases handler : state.handler with
  | loaded vm host rules =>
    have absent : state.group.places vm = 0 := kept.absent_of_holds (by simp [handler, Handler.holds])
    have once := kept.once
    rw [handler] at once
    have deleted : ∀ other, (state.group.delVm vm).places other = state.group.places other := by
      intro other
      rw [SecurityGroup.places_delVm (by omega)]
      split
      next same => rw [same, absent]
      next => rfl
    cases host with
    | true =>
      simp only [step, handler] at stepped
      cases stepped
      refine ⟨fun other => ?_, .inr (.inr (.inr (.inl ?_))), by simp⟩
      · have counted := once other
        rw [← deleted other] at counted
        exact counted
      · exact .inl ⟨(vm, rules), by simp, rfl⟩
    | false =>
      simp only [step, handler] at stepped
      cases stepped
      refine ⟨fun other => ?_, .inr (.inr (.inr (.inl trivial))), by simp⟩
      have counted := once other
      rw [← deleted other] at counted
      exact counted
  | _ => simp [step, handler] at stepped

theorem kept_store (stepped : step state .store = some after) : Kept after := by
  cases handler : state.handler with
  | settling vm outcome =>
    have absent : state.group.places vm = 0 := kept.absent_of_holds (by simp [handler, Handler.holds])
    have stored : ∀ other, state.group.places other + (if other = vm then 1 else 0) =
        if other ∈ state.users then 1 else 0 := by
      intro other
      have once := kept.once other
      rw [handler] at once
      simpa [Handler.holds, eq_comm] using once
    cases outcome with
    | error =>
      simp only [step, handler] at stepped
      cases stepped
      exact kept_pop state.triggers fun other => by
        rw [SecurityGroup.places_addError absent, stored]
    | template rules =>
      simp only [step, handler] at stepped
      cases stepped
      exact kept_pop state.triggers fun other => by
        rw [SecurityGroup.places_addVm absent, stored]
    | hypervisor rules =>
      simp only [step, handler] at stepped
      cases stepped
      refine ⟨fun other => ?_, ?_, by simp⟩
      · simp only [Handler.holds, Bool.false_eq_true, if_false, Nat.add_zero]
        rw [SecurityGroup.places_addUpdating absent, stored]
      · rcases kept.driven with empty | triggers | finishing | proceeds | ⟨other, updating, awaited⟩
        · exact .inl empty
        · exact .inr (.inl triggers)
        · exact .inr (.inr (.inl finishing))
        · rw [State.Proceeds, handler] at proceeds
          exact .inr (.inr (.inr (.inr ⟨vm, Finset.mem_insert_self _ _, proceeds⟩)))
        · exact .inr (.inr (.inr (.inr ⟨other, Finset.mem_insert_of_mem updating, awaited⟩)))
  | _ => simp [step, handler] at stepped

end

theorem State.Driven.mono (driven : state.Driven) (triggers : state.triggers ≤ after.triggers)
    (finishing : state.finishing ≤ after.finishing) (handler : after.handler = state.handler)
    (awaited : ∀ vm, state.Awaited vm → after.Awaited vm)
    (updating : ∀ vm ∈ state.group.updating, vm ∈ after.group.updating) : after.Driven := by
  rcases driven with waits | waits | proceeds | ⟨vm, member, reply⟩
  · exact .inl (Nat.lt_of_lt_of_le waits triggers)
  · exact .inr (.inl (Nat.lt_of_lt_of_le waits finishing))
  · refine .inr (.inr (.inl ?_))
    unfold State.Proceeds at proceeds ⊢
    rw [handler]
    split at proceeds
    next => exact proceeds
    next => exact proceeds
    next same => exact awaited _ proceeds
    next => trivial
  · exact .inr (.inr (.inr ⟨vm, updating vm member, awaited vm reply⟩))

variable {vm : Nat}

section

variable (kept : Kept state)
include kept

theorem kept_receive {rules : Nat} {success : Bool} (clean : Clean state (.receive vm rules success))
    (stepped : step state (.receive vm rules success) = some after) : Kept after := by
  simp only [step] at stepped
  split at stepped
  next isRequest =>
    split at stepped
    next ignored =>
      cases stepped
      exact ⟨kept.once, .inl (clean ignored), kept.alive⟩
    next =>
      cases stepped
      refine ⟨kept.once, kept.driven.imp_right fun driven => ?_, kept.alive⟩
      refine driven.mono le_rfl le_rfl rfl (fun other awaited => ?_) fun other member => member
      -- the request that is taken leaves a reply for its VM
      rcases awaited with ⟨request, member, rfl⟩ | ⟨reply, member, rfl⟩
      · by_cases same : request = (vm, rules)
        · subst same
          exact .inr ⟨_, List.mem_cons_self, rfl⟩
        · exact .inl ⟨request, (List.mem_erase_of_ne same).2 member, rfl⟩
      · exact .inr ⟨reply, List.mem_cons_of_mem _ member, rfl⟩
  next => cases stepped

theorem kept_apply {reply : Reply} (stepped : step state (.apply reply) = some after) : Kept after := by
  simp only [step] at stepped
  split at stepped
  next isReply =>
    cases stepped
    refine ⟨fun vm => ?_, .inr (.inr (.inl (Nat.succ_pos _))), kept.alive⟩
    rw [← kept.once vm]
    congr 1
    simp only
    split
    next updating =>
      have moved := SecurityGroup.places_delUpdating updating
      have gone : (state.group.delUpdating reply.vm).places reply.vm = 0 := by
        have own := moved reply.vm
        have once := kept.places_le reply.vm
        rw [if_pos rfl] at own
        omega
      cases reply.success with
      | true => rw [if_pos rfl, SecurityGroup.places_addVm gone, moved]
      | false => rw [if_neg Bool.false_ne_true, SecurityGroup.places_addError gone, moved]
    next => rfl
  next => cases stepped

theorem kept_finish (stepped : step state .finish = some after) : Kept after := by
  simp only [step] at stepped
  split at stepped
  next =>
    cases stepped
    exact ⟨kept.once, .inr (.inl (Nat.succ_pos _)), kept.alive⟩
  next => cases stepped

theorem kept_commit (recover : Bool) {rules : Nat} :
    Kept { state with rules := rules, group := state.group.commit recover, triggers := state.triggers + 1 } := by
  refine ⟨fun vm => ?_, .inr (.inl (Nat.succ_pos _)), kept.alive⟩
  rw [← kept.once vm, SecurityGroup.places_commit (kept.places_le vm)]

theorem member_of_places {vm : Nat} (placed : 0 < state.group.places vm) : vm ∈ state.users := by
  by_contra unused
  have once := kept.once vm
  rw [if_neg unused] at once
  omega

theorem kept_join (clean : Clean state (.join vm)) (stepped : step state (.join vm) = some after) : Kept after := by
  simp only [step] at stepped
  split at stepped
  next => cases stepped
  next =>
    cases stepped
    refine ⟨fun other => ?_, kept.driven.imp_right fun driven => ?_, kept.alive⟩
    · rcases clean with unused | updated
      · have own := kept.once vm
        rw [if_neg unused] at own
        have once := kept.once other
        rw [SecurityGroup.places_addVm (by omega)]
        by_cases same : other = vm
        · subst same
          simp only [if_true, Finset.mem_insert_self]
          omega
        · simp only [Finset.mem_insert, same, false_or, if_false, Nat.add_zero]
          exact once
      · have placed : 0 < state.group.places vm := SecurityGroup.mem_vms.1 (by simp [SecurityGroup.vms, updated])
        have isUser := member_of_places kept placed
        simp only [SecurityGroup.addVm, Finset.insert_eq_of_mem updated, Finset.insert_eq_of_mem isUser]
        exact kept.once other
    · exact driven.mono le_rfl le_rfl rfl (fun _ awaited => awaited) fun _ member => member

theorem kept_leave (clean : Clean state (.leave vm))
    (stepped : step state (.leave vm) = some after) : Kept after := by
  simp only [step] at stepped
  split at stepped
  next => cases stepped
  next =>
    cases stepped
    refine ⟨fun other => ?_, ?_, kept.alive⟩
    · have once := kept.once other
      rw [SecurityGroup.places_delVm (kept.places_le vm)]
      by_cases same : other = vm
      · subst same
        simp [clean.1]
      · simp only [same, if_false, Finset.mem_erase, ne_eq, not_false_eq_true, true_and]
        exact once
    · have fewer := state.group.delVm_outdated vm
      by_cases updating : vm ∈ state.group.updating
      · exact .inl (Finset.subset_empty.1 (clean.2 updating ▸ fewer))
      · rcases kept.driven with empty | driven
        · exact .inl (Finset.subset_empty.1 (empty ▸ fewer))
        · refine .inr (driven.mono le_rfl le_rfl rfl (fun _ awaited => awaited) fun other member => ?_)
          rwa [SecurityGroup.delVm_updating updating]

theorem kept_step {event : Event} (clean : Clean state event)
    (stepped : step state event = some after) : Kept after := by
  cases event with
  | start => exact kept_start kept stepped
  | lockVm => exact kept_lockVm kept clean stepped
  | readRules => exact kept_readRules kept stepped
  | release => exact kept_release kept stepped
  | store => exact kept_store kept stepped
  | receive vm rules success => exact kept_receive kept clean stepped
  | apply reply => exact kept_apply kept stepped
  | finish => exact kept_finish kept stepped
  | commit recover => cases stepped; exact kept_commit kept recover
  | update => cases stepped; exact kept_commit kept false
  | join vm => exact kept_join kept clean stepped
  | leave vm => exact kept_leave kept clean stepped
  | status vm states =>
    simp only [step] at stepped
    split at stepped
    next => cases stepped
    next =>
      cases stepped
      exact ⟨kept.once, kept.driven.imp_right fun driven =>
        driven.mono le_rfl le_rfl rfl (fun _ awaited => awaited) fun _ member => member, kept.alive⟩

end

end OpenNebula.Secgroup
