import OpenNebula.OneFlow.Actions

namespace OpenNebula.OneFlow

open Library

/-! # Loops over roles

One turn of a loop works on its role, and what follows from its turns for the loop is stated once.
-/

namespace Service

variable {service : Service}

theorem mem_select {wanted : Role → Bool} {name : String} :
    name ∈ service.select wanted ↔ ∃ role, service.roles.lookup name = some role ∧ wanted role = true := by
  simp only [select, List.mem_map, List.mem_filter, Sigma.exists, exists_and_right, exists_eq_right,
    Map.mem_entries_iff]

theorem nodup_select (wanted : Role → Bool) : (service.select wanted).Nodup :=
  List.Nodup.sublist (List.filter_sublist.map Sigma.fst) service.roles.nodupKeys

theorem allRoles_iff {state : RoleState} :
    service.allRoles state = true ↔ ∀ name role, service.roles.lookup name = some role → role.state = state := by
  simp only [allRoles, List.all_eq_true, decide_eq_true_eq, ← Map.mem_entries_iff, Sigma.forall]

theorem parentsIn_iff {state : RoleState} {role : Role} : service.parentsIn state role = true ↔
      ∀ parent ∈ role.parents, ∃ other, service.roles.lookup parent = some other ∧ other.state = state := by
  simp only [parentsIn, List.all_eq_true, roleIn, Option.any_eq_true, decide_eq_true_eq]

end Service

namespace Flow

variable {api : Api} {flow : Flow}

theorem lookup_setRole (name other : String) (change : Role → Role) :
    (flow.setRole name change).service.roles.lookup other =
      (flow.service.roles.lookup other).map fun role => if other = name then change role else role :=
  Map.lookup_update name other change _

theorem lookup_setRole_self (name : String) (change : Role → Role) :
    (flow.setRole name change).service.roles.lookup name = (flow.service.roles.lookup name).map change := by
  simp [lookup_setRole]

variable {name : String} {names : List String} {after : Flow} {visit : String → Role → Flow → Outcome × Flow}
  {success error : RoleState} {action : WaitKind} {role : Role}

theorem lookup_setRole_ne {other : String} (apart : other ≠ name) (change : Role → Role) :
    (flow.setRole name change).service.roles.lookup other = flow.service.roles.lookup other := by
  simp [lookup_setRole, apart]

theorem nodup_rolesShutdown : flow.service.rolesShutdown.Nodup := by
  unfold Service.rolesShutdown
  split
  · exact (Service.nodup_select _).filter _
  · exact Service.nodup_select _

/-- Only these roles, the waits, the cloud and the record change. -/
structure Touches (names : List String) (before after : Flow) : Prop where
  state : after.service.state = before.service.state
  straight : after.service.straight = before.service.straight
  onHold : after.service.onHold = before.service.onHold
  deleted : after.deleted = before.deleted
  watched : after.watched = before.watched
  followups : after.followups = before.followups
  watchDog : after.watchDog = before.watchDog
  others : ∀ other, other ∉ names → after.service.roles.lookup other = before.service.roles.lookup other
  inside : ∀ other, (after.service.roles.lookup other).isSome = (before.service.roles.lookup other).isSome

theorem Touches.refl (names : List String) (flow : Flow) : Touches names flow flow :=
  ⟨rfl, rfl, rfl, rfl, rfl, rfl, rfl, fun _ _ => rfl, fun _ => rfl⟩

theorem Touches.trans {first second third : Flow} (left : Touches names first second)
    (right : Touches names second third) : Touches names first third where
  state := right.state.trans left.state
  straight := right.straight.trans left.straight
  onHold := right.onHold.trans left.onHold
  deleted := right.deleted.trans left.deleted
  watched := right.watched.trans left.watched
  followups := right.followups.trans left.followups
  watchDog := right.watchDog.trans left.watchDog
  others other outside := (right.others other outside).trans (left.others other outside)
  inside other := (right.inside other).trans (left.inside other)

theorem Touches.mono {more : List String} {before : Flow} (touches : Touches names before after)
    (fewer : ∀ name ∈ names, name ∈ more) : Touches more before after :=
  { touches with others := fun other outside => touches.others other fun inside => outside (fewer other inside) }

theorem touches_setRole (name : String) (change : Role → Role) : Touches [name] flow (flow.setRole name change) where
  state := rfl
  straight := rfl
  onHold := rfl
  deleted := rfl
  watched := rfl
  followups := rfl
  watchDog := rfl
  others other outside := lookup_setRole_ne (fun same => outside (List.mem_singleton.2 same)) change
  inside other := by rw [lookup_setRole, Option.isSome_map]

theorem eachRole_rule (holds : List String → Flow → Prop) {ends : Flow → Prop}
    (finished : ∀ flow, holds [] flow → ends flow)
    (absent : ∀ name rest flow, holds (name :: rest) flow → flow.service.roles.lookup name = none → holds rest flow)
    (ok : ∀ name rest role flow next, holds (name :: rest) flow → flow.service.roles.lookup name = some role →
      visit name role flow = (.ok, next) → holds rest next)
    (stopped : ∀ name rest role flow outcome next, holds (name :: rest) flow →
      flow.service.roles.lookup name = some role → visit name role flow = (outcome, next) → outcome ≠ .ok → ends next)
    (start : holds names flow) : ends (eachRole visit names flow).2 := by
  induction names generalizing flow with
  | nil => exact finished flow start
  | cons name rest ih =>
    unfold eachRole
    cases found : flow.service.roles.lookup name with
    | none => exact ih (absent name rest flow start found)
    | some role =>
      dsimp only
      split
      · rename_i next visited
        exact ih (ok name rest role flow next start found visited)
      · rename_i outcome notOk
        exact stopped name rest role flow _ _ start found rfl (fun isOk => notOk _ (Prod.ext isOk rfl))

theorem eachRole_invariant_mem (holds : Flow → Prop)
    (kept : ∀ name ∈ names, ∀ role flow, holds flow → flow.service.roles.lookup name = some role → holds (visit name role flow).2)
    (start : holds flow) : holds (eachRole visit names flow).2 := by
  refine eachRole_rule (fun rest flow => (∀ name ∈ rest, name ∈ names) ∧ holds flow) (fun _ held => held.2) ?_ ?_ ?_
    ⟨fun _ member => member, start⟩
  · exact fun name rest before held _ => ⟨fun other member => held.1 other (List.mem_cons_of_mem _ member), held.2⟩
  · intro name rest role before next held found visited
    have next := kept name (held.1 name (List.mem_cons_self ..)) role before held.2 found
    rw [visited] at next
    exact ⟨fun other member => held.1 other (List.mem_cons_of_mem _ member), next⟩
  · intro name rest role before outcome next held found visited _
    have next := kept name (held.1 name (List.mem_cons_self ..)) role before held.2 found
    rwa [visited] at next

theorem eachRole_invariant (holds : Flow → Prop)
    (kept : ∀ name role flow, holds flow → flow.service.roles.lookup name = some role → holds (visit name role flow).2)
    (start : holds flow) : holds (eachRole visit names flow).2 :=
  eachRole_invariant_mem holds (fun name _ => kept name) start

theorem touches_eachRole
    (turn : ∀ name role flow, flow.service.roles.lookup name = some role → Touches [name] flow (visit name role flow).2)
    (names : List String) : Touches names flow (eachRole visit names flow).2 := by
  induction names generalizing flow with
  | nil => exact .refl [] flow
  | cons name rest ih =>
    unfold eachRole
    cases found : flow.service.roles.lookup name with
    | none => exact ih.mono (fun _ => List.mem_cons_of_mem name)
    | some role =>
      have first : Touches (name :: rest) flow (visit name role flow).2 := (turn name role flow found).mono (by simp)
      dsimp only
      split
      · rename_i next visited
        rw [visited] at first
        exact first.trans (ih.mono (fun _ => List.mem_cons_of_mem name))
      · exact first

theorem eachRole_fresh (holds : Flow → Prop) (nodup : names.Nodup)
    (touches : ∀ name role flow, flow.service.roles.lookup name = some role → Touches [name] flow (visit name role flow).2)
    (kept : ∀ name ∈ names, ∀ role current, flow.service.roles.lookup name = some role → holds current →
      current.service.roles.lookup name = some role → holds (visit name role current).2)
    (start : holds flow) : holds (eachRole visit names flow).2 := by
  have turn : ∀ name rest role (current : Flow),
      ((name :: rest).Nodup ∧ (∀ other ∈ name :: rest, other ∈ names ∧
        current.service.roles.lookup other = flow.service.roles.lookup other) ∧ holds current) →
      current.service.roles.lookup name = some role →
      (rest.Nodup ∧ ∀ other ∈ rest, other ∈ names ∧
        (visit name role current).2.service.roles.lookup other = flow.service.roles.lookup other) ∧
        holds (visit name role current).2 := by
    intro name rest role current ⟨nodup, same, held⟩ found
    obtain ⟨fresh, nodupRest⟩ := List.nodup_cons.1 nodup
    obtain ⟨isName, unchanged⟩ := same name (List.mem_cons_self ..)
    refine ⟨⟨nodupRest, fun other member => ?_⟩, kept name isName role current (unchanged ▸ found) held found⟩
    obtain ⟨isOther, otherSame⟩ := same other (List.mem_cons_of_mem _ member)
    have apart : other ∉ [name] := fun inside => fresh (List.mem_singleton.1 inside ▸ member)
    exact ⟨isOther, ((touches name role current found).others other apart).trans otherSame⟩
  refine eachRole_rule
    (fun rest current => rest.Nodup ∧ (∀ other ∈ rest, other ∈ names ∧
      current.service.roles.lookup other = flow.service.roles.lookup other) ∧ holds current)
    (fun _ held => held.2.2) ?_ ?_ ?_ ⟨nodup, fun other member => ⟨member, rfl⟩, start⟩
  · intro name rest current ⟨nodup, same, held⟩ _
    exact ⟨(List.nodup_cons.1 nodup).2, fun other member => same other (List.mem_cons_of_mem _ member), held⟩
  · intro name rest role current next held found visited
    have after := turn name rest role current held found
    rw [visited] at after
    exact ⟨after.1.1, after.1.2, after.2⟩
  · intro name rest role current outcome next held found visited _
    have after := turn name rest role current held found
    rw [visited] at after
    exact after.2

theorem touches_of_setRole {change : Role → Role}
    (service : after.service = (flow.setRole name change).service) (deleted : after.deleted = flow.deleted)
    (watched : after.watched = flow.watched) (followups : after.followups = flow.followups)
    (watchDog : after.watchDog = flow.watchDog) : Touches [name] flow after := by
  have touches : Touches [name] flow _ := touches_setRole name change
  exact ⟨by rw [service]; rfl, by rw [service]; rfl, by rw [service]; rfl, deleted, watched, followups, watchDog,
    by rw [service]; exact touches.others, by rw [service]; exact touches.inside⟩

theorem touches_of_service (service : after.service = flow.service) (deleted : after.deleted = flow.deleted)
    (watched : after.watched = flow.watched) (followups : after.followups = flow.followups)
    (watchDog : after.watchDog = flow.watchDog) : Touches names flow after :=
  ⟨by rw [service], by rw [service], by rw [service], deleted, watched, followups, watchDog,
    fun _ _ => by rw [service], fun _ => by rw [service]⟩

theorem touches_deployRole (success error : RoleState) (action : WaitKind) (name : String) (role : Role) (flow : Flow) :
    Touches [name] flow (deployRole api success error action name role flow).2 := by
  unfold deployRole
  dsimp only
  split
  · exact touches_of_setRole rfl rfl rfl rfl rfl
  · exact touches_of_setRole rfl rfl rfl rfl rfl
  · split
    · exact touches_of_setRole rfl rfl rfl rfl rfl
    · exact touches_of_setRole rfl rfl rfl rfl rfl

theorem touches_undeployRole (success error : RoleState) (action : WaitKind) (name : String) (role : Role)
    (flow : Flow) : Touches [name] flow (undeployRole api success error action name role flow).2 := by
  unfold undeployRole
  dsimp only
  split
  · exact touches_of_setRole rfl rfl rfl rfl rfl
  · exact touches_of_setRole rfl rfl rfl rfl rfl

theorem touches_releaseRole (success error : RoleState) (action : WaitKind) (name : String) (role : Role)
    (flow : Flow) : Touches [name] flow (releaseRole api success error action name role flow).2 := by
  unfold releaseRole
  dsimp only
  split
  · exact touches_of_setRole rfl rfl rfl rfl rfl
  · exact touches_of_setRole rfl rfl rfl rfl rfl

theorem touches_redeployRole (action : WaitKind) (name : String) (role : Role) (flow : Flow) :
    Touches [name] flow (redeployRole api action name role flow).2 := by
  unfold redeployRole
  dsimp only
  split
  · exact touches_of_setRole rfl rfl rfl rfl rfl
  · exact touches_of_setRole rfl rfl rfl rfl rfl
  · exact touches_of_setRole rfl rfl rfl rfl rfl

theorem touches_reshutdownRole (action : WaitKind) (failure : Outcome) (name : String) (role : Role) (flow : Flow) :
    Touches [name] flow (reshutdownRole api action failure name role flow).2 := by
  unfold reshutdownRole
  dsimp only
  split
  · exact touches_of_service rfl rfl rfl rfl rfl
  · exact touches_of_service rfl rfl rfl rfl rfl

theorem touches_deployRoles (success error : RoleState) (action : WaitKind) (names : List String) (flow : Flow) :
    Touches names flow (deployRoles api success error action names flow).2 :=
  touches_eachRole (fun name role flow _ => touches_deployRole success error action name role flow) names

theorem touches_undeployRoles (success error : RoleState) (action : WaitKind) (names : List String) (flow : Flow) :
    Touches names flow (undeployRoles api success error action names flow).2 :=
  touches_eachRole (fun name role flow _ => touches_undeployRole success error action name role flow) names

theorem touches_releaseRoles (success error : RoleState) (action : WaitKind) (names : List String) (flow : Flow) :
    Touches names flow (releaseRoles api success error action names flow).2 :=
  touches_eachRole (fun name role flow _ => touches_releaseRole success error action name role flow) names

theorem touches_recoverDeploy (flow : Flow) : Touches flow.service.names flow (flow.recoverDeploy api).2 := by
  refine touches_eachRole (fun name role flow _ => ?_) _
  unfold recoverDeployRole
  split
  · exact touches_redeployRole .deploy name role flow
  · exact .refl _ flow

theorem service_reshutdownRole (action : WaitKind) (failure : Outcome) (name : String) (role : Role) (flow : Flow) :
    (reshutdownRole api action failure name role flow).2.service = flow.service := by
  unfold reshutdownRole
  dsimp only
  split
  · rfl
  · rfl

theorem touches_recoverUndeployRole (name : String) (role : Role) (flow : Flow) :
    Touches [name] flow (recoverUndeployRole api name role flow).2 := by
  unfold recoverUndeployRole
  split
  · exact touches_reshutdownRole ..
  · exact .refl _ flow

theorem touches_recoverScaleRole (name : String) (role : Role) (flow : Flow) :
    Touches [name] flow (recoverScaleRole api name role flow).2 := by
  unfold recoverScaleRole
  split
  · split
    · exact touches_redeployRole ..
    · exact touches_reshutdownRole ..
    · exact .refl _ flow
  · exact .refl _ flow

theorem touches_recoverUndeploy (flow : Flow) : Touches flow.service.names flow (flow.recoverUndeploy api).2 :=
  touches_eachRole (fun name role flow _ => touches_recoverUndeployRole name role flow) _

theorem touches_recoverScale (flow : Flow) : Touches flow.service.names flow (flow.recoverScale api).2 :=
  touches_eachRole (fun name role flow _ => touches_recoverScaleRole name role flow) _

theorem outcome_eachRole (never : ∀ name role flow, (visit name role flow).1 ≠ .raised) (names : List String)
    (flow : Flow) : (eachRole visit names flow).1 ≠ .raised := by
  induction names generalizing flow with
  | nil => simp [eachRole]
  | cons name rest ih =>
    unfold eachRole
    cases flow.service.roles.lookup name with
    | none => exact ih flow
    | some role =>
      dsimp only
      split
      · exact ih _
      · exact never name role flow

theorem outcome_undeployRoles : (undeployRoles api success error action names flow).1 ≠ .raised := by
  refine outcome_eachRole (fun name role flow => ?_) names flow
  unfold undeployRole
  dsimp only
  split
  · simp
  · simp

theorem outcome_releaseRoles : (releaseRoles api success error action names flow).1 ≠ .raised := by
  refine outcome_eachRole (fun name role flow => ?_) names flow
  unfold releaseRole
  dsimp only
  split
  · simp
  · simp

theorem instantiateNodes_not_raised (name : String) (count : Nat) (role : Role) (cloud : Cloud) :
    (role.instantiateNodes api name count cloud).1 ≠ .raised := by
  induction count generalizing role cloud with
  | zero => simp [Role.instantiateNodes]
  | succ count ih =>
    unfold Role.instantiateNodes
    dsimp only
    split
    · split
      · simp
      · exact ih _ _
    · simp

theorem deploy_not_raised {cloud : Cloud}
    (readable : role.kind = .vm → 0 < role.cardinality - role.nodes.length → api.template name = true) :
    (role.deploy api name cloud).1 ≠ .raised := by
  unfold Role.deploy
  dsimp only
  split
  · simp
  · split
    · rename_i isVm
      split
      · rename_i unreadable
        rw [readable isVm unreadable.1] at unreadable
        simp at unreadable
      · exact instantiateNodes_not_raised _ _ _ _
    · unfold Role.instantiateVrouter
      dsimp only
      split
      · simp
      · simp

theorem outcome_deployRole
    (readable : role.kind = .vm → 0 < role.cardinality - role.nodes.length → api.template name = true) :
    (deployRole api success error action name role flow).1 ≠ .raised := by
  unfold deployRole
  dsimp only
  split
  · rename_i isRaised
    exact absurd isRaised (deploy_not_raised readable)
  · simp
  · split
    · simp
    · simp

theorem outcome_deployRoles_singleton (found : flow.service.roles.lookup name = some role)
    (readable : role.kind = .vm → 0 < role.cardinality - role.nodes.length → api.template name = true) :
    (deployRoles api success error action [name] flow).1 ≠ .raised := by
  have turn : (deployRole api success error action name role flow).1 ≠ .raised := outcome_deployRole readable
  unfold deployRoles eachRole
  rw [found]
  dsimp only
  split
  · simp [eachRole]
  · exact turn

theorem update_vm {updated : Role} {cardinality : Int} {force : Bool}
    (isUpdated : role.update cardinality force = some updated) : updated = { role with cardinality } := by
  unfold Role.update at isUpdated
  split at isUpdated
  · split at isUpdated
    · cases isUpdated
    · exact (Option.some.inj isUpdated).symm
  · cases isUpdated

theorem finish_of_service {before other : Flow} (same : before.service = other.service) (result : Flow × Ending) :
    before.finish result = other.finish result := by
  obtain ⟨after, ending⟩ := result
  cases ending with
  | updated => rfl
  | dropped => rw [finish, finish, same]

theorem act_of_deleted {work : Flow → Flow × Ending} (deleted : flow.deleted = true) : flow.act work = flow := by
  rw [act, if_pos deleted]

theorem act_of_alive {work : Flow → Flow × Ending} (alive : flow.deleted = false) :
    flow.act work = flow.finish (work flow) := by
  rw [act, if_neg (by rw [alive]; simp)]

theorem decremented_eq (role : Role) : ∃ cardinality,
    (if 0 ≤ role.cardinality - 1 then (role.update (role.cardinality - 1) true).getD role else role) =
      { role with cardinality } := by
  split
  · cases isUpdated : role.update (role.cardinality - 1) true with
    | none => exact ⟨role.cardinality, rfl⟩
    | some updated => exact ⟨_, update_vm isUpdated⟩
  · exact ⟨role.cardinality, rfl⟩

theorem addService_eq (api : Api) (flow : Flow) :
    ∃ watchDog, flow.addService api = { flow with watched := true, watchDog } := by
  have node : ∀ (name : String) (nodes : List Nat) (start : Flow),
      ∃ watchDog, nodes.foldl (fun flow node => flow.checkRoleState name node (api.observed node)) start =
        { start with watchDog } := by
    intro name nodes
    induction nodes with
    | nil => exact fun start => ⟨start.watchDog, rfl⟩
    | cons node rest ih =>
      intro start
      obtain ⟨watchDog, eq⟩ := ih (start.checkRoleState name node (api.observed node))
      rw [List.foldl_cons, eq]
      cases api.observed node <;> exact ⟨watchDog, rfl⟩
  have rows : ∀ (entries : List (Σ _ : String, Role)) (start : Flow), ∃ watchDog,
      entries.foldl (fun flow row =>
        row.2.nodes.foldl (fun flow node => flow.checkRoleState row.1 node (api.observed node)) flow) start =
        { start with watchDog } := by
    intro entries
    induction entries with
    | nil => exact fun start => ⟨start.watchDog, rfl⟩
    | cons row rest ih =>
      intro start
      obtain ⟨first, isFirst⟩ := node row.1 row.2.nodes start
      obtain ⟨second, isSecond⟩ := ih { start with watchDog := first }
      exact ⟨second, by rw [List.foldl_cons, isFirst, isSecond]⟩
  exact rows flow.service.roles.entries { flow with watched := true }

@[simp] theorem addService_service : (flow.addService api).service = flow.service := by
  obtain ⟨_, eq⟩ := addService_eq api flow
  rw [eq]

@[simp] theorem addService_history : (flow.addService api).history = flow.history := by
  obtain ⟨_, eq⟩ := addService_eq api flow
  rw [eq]

@[simp] theorem addService_watched : (flow.addService api).watched = true := by
  obtain ⟨_, eq⟩ := addService_eq api flow
  rw [eq]

@[simp] theorem addService_deleted : (flow.addService api).deleted = flow.deleted := by
  obtain ⟨_, eq⟩ := addService_eq api flow
  rw [eq]

@[simp] theorem addService_waits : (flow.addService api).waits = flow.waits := by
  obtain ⟨_, eq⟩ := addService_eq api flow
  rw [eq]

@[simp] theorem addService_followups : (flow.addService api).followups = flow.followups := by
  obtain ⟨_, eq⟩ := addService_eq api flow
  rw [eq]

@[simp] theorem addService_cloud : (flow.addService api).cloud = flow.cloud := by
  obtain ⟨_, eq⟩ := addService_eq api flow
  rw [eq]

theorem cancelAction_eq (cancelled : Option Nat) (flow : Flow) :
    ∃ waits, flow.cancelAction cancelled = { flow with waits } := by
  cases cancelled with
  | none => exact ⟨flow.waits, rfl⟩
  | some index => exact ⟨flow.waits.eraseIdx index, rfl⟩

@[simp] theorem cancelAction_service (cancelled : Option Nat) : (flow.cancelAction cancelled).service = flow.service := by
  obtain ⟨_, eq⟩ := cancelAction_eq cancelled flow
  rw [eq]

@[simp] theorem cancelAction_watched (cancelled : Option Nat) : (flow.cancelAction cancelled).watched = flow.watched := by
  obtain ⟨_, eq⟩ := cancelAction_eq cancelled flow
  rw [eq]

@[simp] theorem cancelAction_deleted (cancelled : Option Nat) : (flow.cancelAction cancelled).deleted = flow.deleted := by
  obtain ⟨_, eq⟩ := cancelAction_eq cancelled flow
  rw [eq]

end Flow

end OpenNebula.OneFlow
