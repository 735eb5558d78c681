import OpenNebula.Secgroup.UpdateInvariant

namespace OpenNebula.Secgroup

open Library Vm

/-! # The rules that a VM is given

What the handler has read, and what the driver has been told for a VM that is being updated, are the
rules of the last update.
-/

structure Given (state : State) : Prop where
  read : ∀ rules ∈ state.handler.rules, rules = state.rules
  told : ∀ vm rules, state.handler = .settling vm (.hypervisor rules) → state.Fresh vm
  fresh : ∀ vm ∈ state.group.updating, state.Fresh vm

variable {state after : State} {vm : Nat}

theorem SecurityGroup.updating_delVm (group : SecurityGroup) (vm : Nat) :
    (group.delVm vm).updating ⊆ group.updating := by
  unfold SecurityGroup.delVm
  split_ifs
  · exact Finset.Subset.refl _
  · exact Finset.erase_subset _ _
  · exact Finset.Subset.refl _
  · exact Finset.Subset.refl _

theorem State.updating_pop (state : State) (group : SecurityGroup) :
    (state.pop group).group.updating = group.updating := by
  unfold State.pop
  cases popped : group.getOutdated with
  | none => rfl
  | some taken =>
    obtain ⟨first, rest⟩ := taken
    obtain ⟨-, rfl⟩ := SecurityGroup.getOutdated_eq_some popped
    rfl

theorem State.pop_handler (state : State) (group : SecurityGroup) : (state.pop group).handler.rules = none := by
  unfold State.pop
  cases group.getOutdated <;> rfl

theorem State.pop_same (state : State) (group : SecurityGroup) : (state.pop group).rules = state.rules ∧
    (state.pop group).requests = state.requests ∧ (state.pop group).replies = state.replies := by
  unfold State.pop
  cases group.getOutdated <;> exact ⟨rfl, rfl, rfl⟩

theorem State.Fresh.mono (fresh : state.Fresh vm) (rules : after.rules = state.rules)
    (requests : after.requests ⊆ state.requests) (replies : after.replies ⊆ state.replies) : after.Fresh vm := by
  refine ⟨fun request member => ?_, fun reply member => ?_⟩
  · rw [rules]
    exact fresh.1 request (requests member)
  · rw [rules]
    exact fresh.2 reply (replies member)

namespace Given

theorem update (clean : Clean state .update) (stepped : step state .update = some after) : Given after := by
  cases stepped
  refine ⟨fun read isRead => ?_, fun vm read settling => ?_, fun vm member => absurd member (Finset.notMem_empty vm)⟩
  · rw [show state.handler.rules = none from clean] at isRead
    cases isRead
  · have none : state.handler.rules = none := clean
    rw [show state.handler = _ from settling] at none
    cases none

variable (given : Given state)
include given

/-- A step after which the handler has read no rules -/
theorem forget (handler : after.handler.rules = none) (rules : after.rules = state.rules)
    (requests : after.requests ⊆ state.requests) (replies : after.replies ⊆ state.replies)
    (updating : after.group.updating ⊆ state.group.updating) : Given after := by
  refine ⟨fun read isRead => ?_, fun vm read settling => ?_, fun vm member => ?_⟩
  · rw [handler] at isRead
    cases isRead
  · rw [settling] at handler
    cases handler
  · exact (given.fresh vm (updating member)).mono rules requests replies

theorem keep (handler : after.handler = state.handler) (rules : after.rules = state.rules)
    (requests : after.requests ⊆ state.requests) (replies : after.replies ⊆ state.replies)
    (updating : after.group.updating ⊆ state.group.updating) : Given after := by
  refine ⟨?_, fun vm read settling => ?_, fun vm member => ?_⟩
  · rw [handler, rules]
    exact given.read
  · exact (given.told vm read (handler ▸ settling)).mono rules requests replies
  · exact (given.fresh vm (updating member)).mono rules requests replies

theorem pop (group : SecurityGroup) (triggers : Nat) (updating : group.updating ⊆ state.group.updating) :
    Given ({ state with triggers := triggers }.pop group) := by
  obtain ⟨rules, requests, replies⟩ := { state with triggers := triggers }.pop_same group
  refine given.forget (State.pop_handler _ _) rules (fun _ member => requests ▸ member)
    (fun _ member => replies ▸ member) ?_
  rw [State.updating_pop]
  exact updating

theorem lockVm (stepped : step state .lockVm = some after) : Given after := by
  simp only [step] at stepped
  split at stepped
  next =>
    have silent {handler : Handler} (quiet : handler.rules = none) : Given { state with handler } :=
      given.forget quiet rfl (List.Subset.refl _) (List.Subset.refl _) (Finset.Subset.refl _)
    split at stepped
    next => cases stepped; exact silent rfl
    next => split at stepped <;> (cases stepped; exact silent rfl)
  next => cases stepped

theorem readRules (stepped : step state .readRules = some after) : Given after := by
  simp only [step] at stepped
  split at stepped
  next =>
    cases stepped
    refine ⟨fun read isRead => (Option.some.inj isRead).symm, fun _ _ settling => ?_, given.fresh⟩
    cases settling
  next => cases stepped

theorem release (clean : Clean state .release) (stepped : step state .release = some after) : Given after := by
  cases handler : state.handler with
  | loaded vm host rules =>
    have present : rules = state.rules := given.read rules (by simp [handler, Handler.rules])
    cases host with
    | true =>
      simp only [Clean, handler] at clean
      simp only [step, handler] at stepped
      cases stepped
      -- the new request carries the present rules
      have more {other : Nat} (fresh : state.Fresh other) : (∀ request ∈ (vm, rules) :: state.requests,
          request.1 = other → request.2 = state.rules) ∧ ∀ reply ∈ state.replies, reply.vm = other →
            reply.rules = state.rules := by
        refine ⟨fun request member isVm => ?_, fresh.2⟩
        rcases List.mem_cons.1 member with rfl | earlier
        · exact present
        · exact fresh.1 request earlier isVm
      refine ⟨fun read isRead => (Option.some.inj isRead).symm.trans present, fun other read settling => ?_,
        fun other member => more (given.fresh other (SecurityGroup.updating_delVm _ _ member))⟩
      cases settling
      exact more clean
    | false =>
      simp only [step, handler] at stepped
      cases stepped
      refine ⟨fun read isRead => (Option.some.inj isRead).symm.trans present, fun _ _ settling => ?_,
        fun other member => given.fresh other (SecurityGroup.updating_delVm _ _ member)⟩
      cases settling
  | _ => simp [step, handler] at stepped

theorem store (stepped : step state .store = some after) : Given after := by
  cases handler : state.handler with
  | settling vm outcome =>
    cases outcome with
    | error | template rules =>
      simp only [step, handler] at stepped
      cases stepped
      exact given.pop _ state.triggers (Finset.Subset.refl _)
    | hypervisor rules =>
      simp only [step, handler] at stepped
      cases stepped
      refine ⟨fun read isRead => (by cases isRead), fun _ _ settling => (by cases settling), fun other member => ?_⟩
      rcases Finset.mem_insert.1 member with rfl | already
      · exact given.told other rules handler
      · exact given.fresh other already
  | _ => simp [step, handler] at stepped

theorem receive {rules : Nat} {success : Bool} (stepped : step state (.receive vm rules success) = some after) :
    Given after := by
  simp only [step] at stepped
  split at stepped
  next isRequest =>
    have fewer : state.requests.erase (vm, rules) ⊆ state.requests := List.erase_subset
    split at stepped
    next =>
      cases stepped
      exact given.keep rfl rfl fewer (List.Subset.refl _) (Finset.Subset.refl _)
    next =>
      cases stepped
      -- the reply carries the rules of its request
      have replied {other : Nat} (fresh : state.Fresh other) : (∀ request ∈ state.requests.erase (vm, rules),
          request.1 = other → request.2 = state.rules) ∧ ∀ reply ∈ ⟨vm, rules, success⟩ :: state.replies,
            reply.vm = other → reply.rules = state.rules := by
        refine ⟨fun request member => fresh.1 request (fewer member), fun reply member isVm => ?_⟩
        rcases List.mem_cons.1 member with rfl | earlier
        · exact fresh.1 (vm, rules) isRequest isVm
        · exact fresh.2 reply earlier isVm
      exact ⟨given.read, fun other read settling => replied (given.told other read settling),
        fun other member => replied (given.fresh other member)⟩
  next => cases stepped

theorem apply {reply : Reply} (stepped : step state (.apply reply) = some after) : Given after := by
  simp only [step] at stepped
  split at stepped
  next =>
    cases stepped
    refine given.keep rfl rfl (List.Subset.refl _) List.erase_subset ?_
    simp only
    split_ifs
    · exact Finset.erase_subset _ _
    · exact Finset.erase_subset _ _
    · exact Finset.Subset.refl _
  next => cases stepped

theorem step {event : Event} (clean : Clean state event) (stepped : Secgroup.step state event = some after) :
    Given after := by
  have same (handler : after.handler = state.handler) (rules : after.rules = state.rules)
      (requests : after.requests = state.requests) (replies : after.replies = state.replies)
      (updating : after.group.updating ⊆ state.group.updating) : Given after :=
    given.keep handler rules (fun _ member => requests ▸ member) (fun _ member => replies ▸ member) updating
  cases event with
  | start =>
    simp only [Secgroup.step] at stepped
    split at stepped
    next => cases stepped; exact given.pop _ _ (Finset.Subset.refl _)
    next => cases stepped
  | lockVm => exact given.lockVm stepped
  | readRules => exact given.readRules stepped
  | release => exact given.release clean stepped
  | store => exact given.store stepped
  | receive => exact given.receive stepped
  | apply => exact given.apply stepped
  | finish =>
    simp only [Secgroup.step] at stepped
    split at stepped
    next => cases stepped; exact same rfl rfl rfl rfl (Finset.Subset.refl _)
    next => cases stepped
  | commit => cases stepped; exact same rfl rfl rfl rfl (Finset.empty_subset _)
  | update => exact .update clean stepped
  | join | status =>
    simp only [Secgroup.step] at stepped
    split at stepped
    next => cases stepped
    next => cases stepped; exact same rfl rfl rfl rfl (Finset.Subset.refl _)
  | leave =>
    simp only [Secgroup.step] at stepped
    split at stepped
    next => cases stepped
    next => cases stepped; exact same rfl rfl rfl rfl (SecurityGroup.updating_delVm _ _)

end Given

end OpenNebula.Secgroup
