import OpenNebula.OneFlow.Loops

namespace OpenNebula.OneFlow

open Library

/-! # The VMs that a service accounts for

A VM that was instantiated for a service is on the list of nodes of one of its roles until it was
asked to terminate or was reported DONE, so that no VM is left when the document goes.
-/

/-- The VM was asked to terminate, or was reported DONE. -/
def Cloud.Settled (cloud : Cloud) (vm : Nat) : Prop := vm ∈ cloud.terminated ∨ vm ∈ cloud.gone

def Deed.Complete : Deed → Prop
  | .shutdown .undeploy _ _ _ nodes targets _ => targets = nodes
  | .roleDone _ left => left = []
  | _ => True

/-- No VM is instantiated before a template that cannot be read, and each one that is can be read. -/
structure Api.Sound (api : Api) : Prop where
  template : (∀ name, api.template name = true) ∨ ∀ name vm, api.instantiate name vm = false
  nodeInfo : ∀ name vm, api.instantiate name vm = true → api.nodeInfo vm = true

namespace Role

variable {api : Api} {name : String} {role : Role} {cloud : Cloud}

structure Deploys (api : Api) (role : Role) (cloud : Cloud) (deployed : Role) (after : Cloud) : Prop where
  kind : deployed.kind = role.kind
  state : deployed.state = role.state
  kept : ∀ vm ∈ role.nodes, vm ∈ deployed.nodes
  terminated : after.terminated = cloud.terminated
  gone : after.gone = cloud.gone
  created : ∀ vm < after.instantiated, vm < cloud.instantiated ∨ vm ∈ deployed.nodes
  still : (∀ name vm, api.instantiate name vm = false) → after.instantiated = cloud.instantiated

theorem Deploys.refl (role : Role) (cloud : Cloud) : Deploys api role cloud role cloud :=
  ⟨rfl, rfl, fun _ member => member, rfl, rfl, fun _ earlier => .inl earlier, fun _ => rfl⟩

theorem deploys_instantiateNodes (sound : api.Sound) (count : Nat) (role : Role) (cloud : Cloud) :
    Deploys api role cloud (role.instantiateNodes api name count cloud).2.1
      (role.instantiateNodes api name count cloud).2.2 := by
  induction count generalizing role cloud with
  | zero => exact .refl role cloud
  | succ count ih =>
    unfold instantiateNodes
    dsimp only
    split
    · rename_i instantiated
      rw [if_pos (sound.nodeInfo _ _ instantiated)]
      have rest := ih { role with nodes := role.nodes ++ [cloud.instantiated] }
        { cloud with instantiated := cloud.instantiated + 1 }
      have whole : Deploys api role cloud _ _ := {
        kind := rest.kind
        state := rest.state
        kept := fun vm member => rest.kept vm (List.mem_append_left _ member)
        terminated := rest.terminated
        gone := rest.gone
        created := fun vm earlier => by
          obtain before | listed := rest.created vm earlier
          · obtain less | same := Nat.lt_succ_iff_lt_or_eq.1 before
            · exact .inl less
            · exact .inr (rest.kept vm (by simp [same]))
          · exact .inr listed
        still := fun never => by
          rw [never] at instantiated
          cases instantiated }
      split
      · rename_i isNodes
        rwa [isNodes] at whole
      · exact whole
    · exact .refl role cloud

theorem deploys_deploy (sound : api.Sound) (isVm : role.kind = .vm) :
    Deploys api role cloud (role.deploy api name cloud).2.1 (role.deploy api name cloud).2.2 := by
  unfold deploy
  dsimp only
  split
  · exact .refl role cloud
  · rw [isVm]
    dsimp only
    split
    · exact .refl role cloud
    · exact deploys_instantiateNodes sound ..

theorem deploy_raised (isVm : role.kind = .vm) (raised : (role.deploy api name cloud).1 = .raised) :
    (role.deploy api name cloud).2 = (role, cloud) := by
  unfold deploy at raised ⊢
  dsimp only at raised ⊢
  split
  · rfl
  · rename_i missing
    rw [if_neg missing, isVm] at raised
    rw [isVm]
    dsimp only at raised ⊢
    split
    · rfl
    · rename_i readable
      rw [if_neg readable] at raised
      exact absurd raised (Flow.instantiateNodes_not_raised _ _ _ _)

theorem recoverDeploy_snd (report : Bool) :
    (role.recoverDeploy api name report cloud).2 = (role.deploy api name cloud).2 := by
  unfold recoverDeploy
  dsimp only
  split
  · rename_i isNodes
    rw [isNodes]
  · rfl

theorem recoverDeploy_raised {report : Bool} (raised : (role.recoverDeploy api name report cloud).1 = .raised) :
    (role.deploy api name cloud).1 = .raised := by
  unfold recoverDeploy at raised
  dsimp only at raised
  split at raised
  · cases raised
  · exact raised

def whole (role : Role) : Bool :=
  role.nodes.length = role.cardinality || role.nodes.isEmpty || role.cardinality ≤ 0

def unrecovered (api : Api) (role : Role) : Bool := role.nodes.all fun vm => !(api.failure vm && api.recover vm)

theorem mem_firstNodes {nodes : List Nat} {count : Int} {vm : Nat} (member : vm ∈ firstNodes nodes count) :
    vm ∈ nodes := by
  unfold firstNodes at member
  split at member
  · exact List.mem_of_mem_take member
  · exact List.mem_of_mem_take member

theorem le_shutdownCount (isWhole : role.whole = true) :
    (role.nodes.length : Int) ≤ role.shutdownCount ∨ role.nodes = [] := by
  simp only [whole, Bool.or_eq_true, decide_eq_true_eq, List.isEmpty_iff] at isWhole
  unfold shutdownCount
  obtain (same | empty) | none := isWhole
  · rw [if_neg (not_not.2 same)]
    exact .inl le_rfl
  · exact .inr empty
  · split
    · exact .inl (by omega)
    · exact .inl le_rfl

theorem firstNodes_whole (isWhole : role.whole = true) : firstNodes role.nodes role.shutdownCount = role.nodes := by
  obtain enough | empty := le_shutdownCount isWhole
  · unfold firstNodes
    split
    · exact List.take_of_length_le (by omega)
    · exact List.take_of_length_le (by omega)
  · rw [empty]
    simp [firstNodes]

structure Shuts (role : Role) (cloud : Cloud) (result : Option (List Nat) × Cloud) : Prop where
  instantiated : result.2.instantiated = cloud.instantiated
  gone : result.2.gone = cloud.gone
  terminated : ∀ vm ∈ cloud.terminated, vm ∈ result.2.terminated
  asked : ∀ vms, result.1 = some vms → ∀ vm ∈ vms, vm ∈ result.2.terminated
  all : role.whole = true → ∀ vms, result.1 = some vms → ∀ vm ∈ role.nodes, vm ∈ result.2.terminated

theorem shutdownNode_terminated {recover hard : Bool} {vm : Nat}
    (unrecovered : recover = true → (api.failure vm && api.recover vm) = false)
    (done : shutdownNode api recover hard vm ≠ .failed) : shutdownNode api recover hard vm = .terminated := by
  have notRecovered : ¬(recover && api.failure vm && api.recover vm) = true := by
    cases recover with
    | false => simp
    | true => simp [unrecovered rfl]
  cases outcome : shutdownNode api recover hard vm with
  | terminated => rfl
  | failed => exact absurd outcome done
  | recovered => grind [shutdownNode]

theorem shuts_shutdown (isVm : role.kind = .vm) {recover : Bool}
    (unrecovered : recover = true → role.unrecovered api = true) :
    Shuts role cloud (role.shutdown api name recover cloud) := by
  have terminates : ∀ vm ∈ firstNodes role.nodes role.shutdownCount,
      shutdownNode api recover role.terminateHard vm ≠ .failed →
      shutdownNode api recover role.terminateHard vm = .terminated := by
    intro vm member done
    refine shutdownNode_terminated (fun isRecover => ?_) done
    have kept := List.all_eq_true.1 (unrecovered isRecover) vm (mem_firstNodes member)
    rwa [Bool.not_eq_true'] at kept
  unfold shutdown
  rw [isVm]
  dsimp only
  unfold shutdownNodes
  dsimp only
  split
  · rename_i enough
    refine ⟨rfl, rfl, fun vm member => List.mem_append_right _ member, ?_, ?_⟩
    · rintro vms ⟨⟩ vm member
      obtain ⟨target, done⟩ := List.mem_filter.1 member
      refine List.mem_append_left _ (List.mem_filter.2 ⟨target, ?_⟩)
      exact decide_eq_true (terminates vm target (of_decide_eq_true done))
    · intro isWhole vms _ vm member
      rw [firstNodes_whole isWhole] at enough terminates ⊢
      obtain least | empty := le_shutdownCount isWhole
      · have fewer := List.length_filter_le
          (fun vm => decide (shutdownNode api recover role.terminateHard vm ≠ .failed)) role.nodes
        have same : (role.nodes.filter fun vm =>
            decide (shutdownNode api recover role.terminateHard vm ≠ .failed)).length = role.nodes.length := by
          omega
        have all := List.length_filter_eq_length_iff.1 same
        exact List.mem_append_left _
          (List.mem_filter.2 ⟨member, decide_eq_true (terminates vm member (of_decide_eq_true (all vm member)))⟩)
      · rw [empty] at member
        cases member
  · refine ⟨rfl, rfl, fun vm member => List.mem_append_right _ member, ?_, ?_⟩
    · rintro vms ⟨⟩
    · rintro - vms ⟨⟩

end Role

/-- The waits that take nodes off the list of a role -/
def WaitKind.ends (kind : WaitKind) : Bool := kind ∈ [.undeploy, .scaledown, .remove]

namespace Flow

variable {api : Api} {flow : Flow}

/-- The networks are being undeployed, after which the document is deleted. -/
def NetsDue (flow : Flow) : Prop :=
  flow.service.state = .undeployingNets ∨ flow.service.state = .failedUndeployingNets ∨
    .undeployNets ∈ flow.followups ∨ ∃ wait ∈ flow.waits, wait.kind = .undeployNets

structure Accounted (flow : Flow) : Prop where
  alive : flow.deleted = false
  kinds : ∀ name role, flow.service.roles.lookup name = some role → role.kind = .vm
  recorded : ∀ vm < flow.cloud.instantiated, flow.cloud.Settled vm ∨
    ∃ name role, flow.service.roles.lookup name = some role ∧ vm ∈ role.nodes
  undeploying : ∀ name role, flow.service.roles.lookup name = some role → role.state = .undeploying →
    ∀ vm ∈ role.nodes, flow.cloud.Settled vm
  done : ∀ name role, flow.service.roles.lookup name = some role → role.state = .done →
    role.nodes = [] ∧ .roleDone name [] ∈ flow.history
  waits : ∀ wait ∈ flow.waits, wait.kind ≠ .remove ∧ (wait.kind.ends = true → ∀ vm ∈ wait.nodes, flow.cloud.Settled vm)
  nets : flow.NetsDue → ∀ name role, flow.service.roles.lookup name = some role → .roleDone name [] ∈ flow.history
  complete : ∀ deed ∈ flow.history, deed.Complete

/-- What is on the record stays there. -/
structure Grows (api : Api) (before after : Flow) : Prop where
  settled : ∀ vm, before.cloud.Settled vm → after.cloud.Settled vm
  history : ∀ deed ∈ before.history, deed ∈ after.history
  still : (∀ name vm, api.instantiate name vm = false) → after.cloud.instantiated = before.cloud.instantiated

theorem Grows.refl (flow : Flow) : Grows api flow flow :=
  ⟨fun _ settled => settled, fun _ member => member, fun _ => rfl⟩

theorem Grows.trans {first second third : Flow} (left : Grows api first second) (right : Grows api second third) :
    Grows api first third where
  settled vm settled := right.settled vm (left.settled vm settled)
  history deed member := right.history deed (left.history deed member)
  still never := (right.still never).trans (left.still never)

theorem grows_of_same (api : Api) {after : Flow} (cloud : after.cloud = flow.cloud) (history : after.history = flow.history) :
    Grows api flow after :=
  ⟨fun _ settled => by rwa [cloud], fun _ member => by rwa [history], fun _ => by rw [cloud]⟩

theorem grows_of_gone (api : Api) (vms : List Nat) {after : Flow}
    (cloud : after.cloud = { flow.cloud with gone := vms ++ flow.cloud.gone }) (history : after.history = flow.history) :
    Grows api flow after := by
  refine ⟨fun vm settled => ?_, fun _ member => by rwa [history], fun _ => by rw [cloud]⟩
  rw [cloud]
  exact settled.imp_right (List.mem_append_right vms)

structure Tidy (before after : Flow) : Prop where
  alive : after.deleted = before.deleted
  waits : ∀ wait ∈ after.waits, wait ∈ before.waits ∨
    wait.kind ≠ .remove ∧ (wait.kind.ends = true → ∀ vm ∈ wait.nodes, after.cloud.Settled vm)
  nets : after.NetsDue → before.NetsDue
  complete : ∀ deed ∈ after.history, deed ∈ before.history ∨ deed.Complete

theorem Accounted.turn {after : Flow} {name : String} {role changed : Role} (accounted : flow.Accounted)
    (found : flow.service.roles.lookup name = some role) (roles : ∀ other, after.service.roles.lookup other =
      if other = name then some changed else flow.service.roles.lookup other)
    (grows : Grows api flow after) (tidy : Tidy flow after) (kind : changed.kind = role.kind)
    (kept : ∀ vm ∈ role.nodes, vm ∈ changed.nodes ∨ after.cloud.Settled vm)
    (created : ∀ vm < after.cloud.instantiated, vm < flow.cloud.instantiated ∨ vm ∈ changed.nodes)
    (undeploying : changed.state = .undeploying → ∀ vm ∈ changed.nodes, after.cloud.Settled vm)
    (done : changed.state = .done → changed.nodes = [] ∧ .roleDone name [] ∈ after.history) : after.Accounted where
  alive := tidy.alive.trans accounted.alive
  kinds other seen isSeen := by
    rw [roles] at isSeen
    split at isSeen
    · cases isSeen
      exact kind.trans (accounted.kinds name role found)
    · exact accounted.kinds other seen isSeen
  recorded vm earlier := by
    have own : after.service.roles.lookup name = some changed := by rw [roles, if_pos rfl]
    obtain before | listed := created vm earlier
    · obtain settled | ⟨other, seen, isSeen, member⟩ := accounted.recorded vm before
      · exact .inl (grows.settled vm settled)
      · by_cases same : other = name
        · subst same
          cases Option.some.inj (found.symm.trans isSeen)
          obtain still | settled := kept vm member
          · exact .inr ⟨other, changed, own, still⟩
          · exact .inl settled
        · exact .inr ⟨other, seen, by rwa [roles, if_neg same], member⟩
    · exact .inr ⟨name, changed, own, listed⟩
  undeploying other seen isSeen isUndeploying vm member := by
    rw [roles] at isSeen
    split at isSeen
    · cases isSeen
      exact undeploying isUndeploying vm member
    · exact grows.settled vm (accounted.undeploying other seen isSeen isUndeploying vm member)
  done other seen isSeen isDone := by
    rw [roles] at isSeen
    split at isSeen
    · rename_i same
      cases isSeen
      subst same
      exact done isDone
    · obtain ⟨empty, reported⟩ := accounted.done other seen isSeen isDone
      exact ⟨empty, grows.history _ reported⟩
  waits wait member := by
    obtain before | new := tidy.waits wait member
    · obtain ⟨notRemove, settled⟩ := accounted.waits wait before
      exact ⟨notRemove, fun ends vm inside => grows.settled vm (settled ends vm inside)⟩
    · exact new
  nets due other seen isSeen := by
    rw [roles] at isSeen
    split at isSeen
    · rename_i same
      cases isSeen
      subst same
      exact grows.history _ (accounted.nets (tidy.nets due) other role found)
    · exact grows.history _ (accounted.nets (tidy.nets due) other seen isSeen)
  complete deed member := by
    obtain before | complete := tidy.complete deed member
    · exact accounted.complete deed before
    · exact complete

theorem Accounted.relabel {after : Flow} (change : String → Role → Role) (accounted : flow.Accounted)
    (roles : ∀ name, after.service.roles.lookup name = (flow.service.roles.lookup name).map (change name))
    (grows : Grows api flow after) (tidy : Tidy flow after)
    (created : after.cloud.instantiated = flow.cloud.instantiated)
    (kind : ∀ name role, flow.service.roles.lookup name = some role → (change name role).kind = role.kind)
    (kept : ∀ name role, flow.service.roles.lookup name = some role →
      ∀ vm ∈ role.nodes, vm ∈ (change name role).nodes ∨ after.cloud.Settled vm)
    (fewer : ∀ name role, flow.service.roles.lookup name = some role → ∀ vm ∈ (change name role).nodes, vm ∈ role.nodes)
    (state : ∀ name role, flow.service.roles.lookup name = some role → (change name role).state = role.state ∨
      (change name role).state ≠ .undeploying ∧ (change name role).state ≠ .done) : after.Accounted where
  alive := tidy.alive.trans accounted.alive
  kinds name role found := by
    rw [roles] at found
    obtain ⟨before, isBefore, rfl⟩ := Option.map_eq_some_iff.1 found
    exact (kind name before isBefore).trans (accounted.kinds name before isBefore)
  recorded vm earlier := by
    rw [created] at earlier
    obtain settled | ⟨name, role, found, member⟩ := accounted.recorded vm earlier
    · exact .inl (grows.settled vm settled)
    · obtain still | settled := kept name role found vm member
      · exact .inr ⟨name, change name role, by rw [roles, found, Option.map_some], still⟩
      · exact .inl settled
  undeploying name role found isUndeploying vm member := by
    rw [roles] at found
    obtain ⟨before, isBefore, rfl⟩ := Option.map_eq_some_iff.1 found
    have wasUndeploying : before.state = .undeploying := by
      obtain same | ⟨other, -⟩ := state name before isBefore
      · exact same.symm.trans isUndeploying
      · exact absurd isUndeploying other
    exact grows.settled vm
      (accounted.undeploying name before isBefore wasUndeploying vm (fewer name before isBefore vm member))
  done name role found isDone := by
    rw [roles] at found
    obtain ⟨before, isBefore, rfl⟩ := Option.map_eq_some_iff.1 found
    have wasDone : before.state = .done := by
      obtain same | ⟨-, other⟩ := state name before isBefore
      · exact same.symm.trans isDone
      · exact absurd isDone other
    obtain ⟨empty, reported⟩ := accounted.done name before isBefore wasDone
    refine ⟨List.eq_nil_iff_forall_not_mem.2 fun vm member => ?_, grows.history _ reported⟩
    have inside := fewer name before isBefore vm member
    rw [empty] at inside
    cases inside
  waits wait member := by
    obtain before | new := tidy.waits wait member
    · obtain ⟨notRemove, settled⟩ := accounted.waits wait before
      exact ⟨notRemove, fun ends vm inside => grows.settled vm (settled ends vm inside)⟩
    · exact new
  nets due name role found := by
    rw [roles] at found
    obtain ⟨before, isBefore, rfl⟩ := Option.map_eq_some_iff.1 found
    exact grows.history _ (accounted.nets (tidy.nets due) name before isBefore)
  complete deed member := by
    obtain before | complete := tidy.complete deed member
    · exact accounted.complete deed before
    · exact complete

theorem Accounted.same {after : Flow} (accounted : flow.Accounted)
    (roles : after.service.roles = flow.service.roles) (grows : Grows api flow after) (tidy : Tidy flow after)
    (created : after.cloud.instantiated = flow.cloud.instantiated) : after.Accounted := by
  refine accounted.relabel (fun _ role => role) (fun name => ?_) grows tidy created (fun _ _ _ => rfl)
    (fun _ _ _ _ => .inl) (fun _ _ _ _ => id) (fun _ _ _ => .inl rfl)
  rw [roles, Option.map_id']

theorem Accounted.change {after : Flow} {name : String} {change : Role → Role} (accounted : flow.Accounted)
    (roles : after.service.roles = (flow.setRole name change).service.roles)
    (grows : Grows api flow after) (tidy : Tidy flow after)
    (created : after.cloud.instantiated = flow.cloud.instantiated)
    (kind : ∀ role, flow.service.roles.lookup name = some role → (change role).kind = role.kind)
    (kept : ∀ role, flow.service.roles.lookup name = some role →
      ∀ vm ∈ role.nodes, vm ∈ (change role).nodes ∨ after.cloud.Settled vm)
    (fewer : ∀ role, flow.service.roles.lookup name = some role → ∀ vm ∈ (change role).nodes, vm ∈ role.nodes)
    (state : ∀ role, flow.service.roles.lookup name = some role → (change role).state = role.state ∨
      (change role).state ≠ .undeploying ∧ (change role).state ≠ .done) : after.Accounted := by
  refine accounted.relabel (fun other role => if other = name then change role else role) (fun other => ?_) grows tidy
    created ?_ ?_ ?_ ?_
  · rw [roles]
    exact lookup_setRole name other change
  · intro other role found
    split
    · rename_i same
      exact kind role (same ▸ found)
    · rfl
  · intro other role found
    split
    · rename_i same
      exact kept role (same ▸ found)
    · exact fun _ => .inl
  · intro other role found
    split
    · rename_i same
      exact fewer role (same ▸ found)
    · exact fun _ => id
  · intro other role found
    split
    · rename_i same
      exact state role (same ▸ found)
    · exact .inl rfl

/-- A wait that deletes nothing, for nodes that are settled when it takes them off the list -/
structure Plain (cloud : Cloud) (wait : Wait) : Prop where
  notRemove : wait.kind ≠ .remove
  notNets : wait.kind ≠ .undeployNets
  settled : wait.kind.ends = true → ∀ vm ∈ wait.nodes, cloud.Settled vm

theorem tidy_of_plain {after : Flow} {deed : Deed} (alive : after.deleted = flow.deleted)
    (state : after.service.state = flow.service.state) (followups : after.followups = flow.followups)
    (waits : ∀ wait ∈ after.waits, wait ∈ flow.waits ∨ Plain after.cloud wait)
    (history : after.history = deed :: flow.history) (complete : deed.Complete) : Tidy flow after where
  alive := alive
  waits wait member := (waits wait member).imp_right fun plain => ⟨plain.notRemove, plain.settled⟩
  nets := by
    rintro (isNets | failedNets | due | ⟨wait, member, isNets⟩)
    · exact .inl (state.symm.trans isNets)
    · exact .inr (.inl (state.symm.trans failedNets))
    · rw [followups] at due
      exact .inr (.inr (.inl due))
    · exact .inr (.inr (.inr ⟨wait, (waits wait member).resolve_right fun plain => plain.notNets isNets, isNets⟩))
  complete other member := by
    rw [history] at member
    obtain rfl | before := List.mem_cons.1 member
    · exact .inr complete
    · exact .inl before

structure Visits (api : Api) (name : String) (role changed : Role) (deed : Deed) (flow after : Flow) : Prop where
  roles : ∀ other, after.service.roles.lookup other =
    if other = name then some changed else flow.service.roles.lookup other
  history : after.history = deed :: flow.history
  settled : ∀ vm, flow.cloud.Settled vm → after.cloud.Settled vm
  tidy : Tidy flow after
  kind : changed.kind = role.kind
  kept : ∀ vm ∈ role.nodes, vm ∈ changed.nodes
  created : ∀ vm < after.cloud.instantiated, vm < flow.cloud.instantiated ∨ vm ∈ changed.nodes
  still : (∀ name vm, api.instantiate name vm = false) → after.cloud.instantiated = flow.cloud.instantiated

theorem Visits.grows {name : String} {role changed : Role} {deed : Deed} {after : Flow}
    (visits : Visits api name role changed deed flow after) : Grows api flow after := by
  refine ⟨visits.settled, fun other member => ?_, visits.still⟩
  rw [visits.history]
  exact List.mem_cons_of_mem _ member

theorem Visits.accounted {name : String} {role changed : Role} {deed : Deed} {after : Flow}
    (visits : Visits api name role changed deed flow after) (accounted : flow.Accounted)
    (found : flow.service.roles.lookup name = some role)
    (undeploying : changed.state = .undeploying → ∀ vm ∈ changed.nodes, after.cloud.Settled vm)
    (done : changed.state = .done → role.state = .done ∧ changed.nodes = role.nodes) :
    after.Accounted ∧ Grows api flow after := by
  refine ⟨accounted.turn found visits.roles visits.grows visits.tidy visits.kind
    (fun vm member => .inl (visits.kept vm member)) visits.created undeploying fun isDone => ?_, visits.grows⟩
  obtain ⟨wasDone, same⟩ := done isDone
  obtain ⟨empty, reported⟩ := accounted.done name role found wasDone
  exact ⟨same.trans empty, visits.grows.history _ reported⟩

theorem lookup_setRole_const {name : String} {role changed : Role} (found : flow.service.roles.lookup name = some role)
    (other : String) : (flow.setRole name fun _ => changed).service.roles.lookup other =
      if other = name then some changed else flow.service.roles.lookup other := by
  rw [lookup_setRole]
  split
  · rename_i same
    rw [same, found, Option.map_some]
  · simp

theorem lookup_setRoleState {name : String} {role : Role} (found : flow.service.roles.lookup name = some role)
    (state : RoleState) (other : String) : (flow.setRoleState name state).service.roles.lookup other =
      if other = name then some { role with state } else flow.service.roles.lookup other := by
  rw [setRoleState, lookup_setRole]
  split
  · rename_i same
    rw [same, found, Option.map_some]
  · simp

theorem mem_trigger {wait other : Wait} (member : other ∈ (flow.trigger wait).waits) : other ∈ flow.waits ∨ other = wait := by
  simpa [trigger] using member

end Flow

end OpenNebula.OneFlow
