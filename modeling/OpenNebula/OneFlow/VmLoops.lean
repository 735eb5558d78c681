import OpenNebula.OneFlow.VmAccount

namespace OpenNebula.OneFlow

open Library

/-! # The VMs in the loops over the roles

Deploying, shutting down and releasing the roles one after the other loses no VM.
-/

namespace Flow

variable {api : Api} {flow : Flow}

theorem plain_deploy {cloud : Cloud} {action : WaitKind} (plain : action.ends = false ∧ action ≠ .undeployNets)
    (name : String) (vms : List Nat) : Plain cloud ⟨action, name, vms⟩ where
  notRemove := by
    rintro rfl
    exact absurd plain.1 (by simp [WaitKind.ends])
  notNets := plain.2
  settled ends := by
    rw [plain.1] at ends
    cases ends

theorem visits_of_deploys {name : String} {role deployed changed : Role} {deed : Deed} {after : Flow}
    (found : flow.service.roles.lookup name = some role) (deploys : Role.Deploys api role flow.cloud deployed after.cloud)
    (service : after.service = (flow.setRole name fun _ => changed).service)
    (kind : changed.kind = deployed.kind) (nodes : changed.nodes = deployed.nodes)
    (alive : after.deleted = flow.deleted) (followups : after.followups = flow.followups)
    (waits : ∀ wait ∈ after.waits, wait ∈ flow.waits ∨ Plain after.cloud wait)
    (history : after.history = deed :: flow.history) (complete : deed.Complete) :
    Visits api name role changed deed flow after where
  roles other := by
    rw [service]
    exact lookup_setRole_const found other
  history := history
  settled vm settled := by rwa [Cloud.Settled, deploys.terminated, deploys.gone]
  tidy := tidy_of_plain alive (by rw [service]; rfl) followups waits history complete
  kind := kind.trans deploys.kind
  kept vm member := by
    rw [nodes]
    exact deploys.kept vm member
  created vm earlier := by
    rw [nodes]
    exact deploys.created vm earlier
  still := deploys.still

theorem accounted_deployRole (sound : api.Sound) {success error : RoleState} {action : WaitKind}
    (states : success ≠ .undeploying ∧ success ≠ .done ∧ error ≠ .undeploying ∧ error ≠ .done)
    (plain : action.ends = false ∧ action ≠ .undeployNets) {name : String} {role : Role} (accounted : flow.Accounted)
    (found : flow.service.roles.lookup name = some role) :
    (deployRole api success error action name role flow).2.Accounted ∧
      Grows api flow (deployRole api success error action name role flow).2 := by
  have isVm := accounted.kinds name role found
  unfold deployRole
  generalize (role.onHold || _ : Bool) = onHold
  have onHoldVm : ({ role with onHold } : Role).kind = .vm := isVm
  have deploys : Role.Deploys api role flow.cloud ({ role with onHold }.deploy api name flow.cloud).2.1
      ({ role with onHold }.deploy api name flow.cloud).2.2 := by
    have deploys : Role.Deploys api _ flow.cloud ({ role with onHold }.deploy api name flow.cloud).2.1 _ :=
      Role.deploys_deploy sound onHoldVm
    exact ⟨deploys.kind, deploys.state, deploys.kept, deploys.terminated, deploys.gone, deploys.created, deploys.still⟩
  have raised : ({ role with onHold }.deploy api name flow.cloud).1 = .raised →
      ({ role with onHold }.deploy api name flow.cloud).2 = ({ role with onHold }, flow.cloud) :=
    Role.deploy_raised onHoldVm
  dsimp only
  generalize Role.deploy api name { role with onHold } flow.cloud = result at deploys raised ⊢
  obtain ⟨outcome, deployed, cloud⟩ := result
  cases outcome with
  | raised =>
    cases raised rfl
    refine Visits.accounted (visits_of_deploys found deploys rfl rfl rfl rfl rfl (fun _ => .inl) rfl trivial)
      accounted found ?_ ?_
    · exact accounted.undeploying name role found
    · exact fun isDone => ⟨isDone, rfl⟩
  | failed =>
    refine Visits.accounted (visits_of_deploys found deploys rfl rfl rfl rfl rfl (fun _ => .inl) rfl trivial)
      accounted found ?_ ?_
    · exact fun isUndeploying => absurd isUndeploying states.2.2.1
    · exact fun isDone => absurd isDone states.2.2.2
  | nodes vms =>
    dsimp only
    split
    · refine Visits.accounted (visits_of_deploys found deploys rfl rfl rfl rfl rfl (fun wait member => ?_) rfl trivial)
        accounted found ?_ ?_
      · obtain before | rfl := mem_trigger member
        · exact .inl before
        · exact .inr (plain_deploy (by simp [WaitKind.ends]) name _)
      · simp
      · simp
    · refine Visits.accounted (visits_of_deploys found deploys rfl rfl rfl rfl rfl (fun wait member => ?_) rfl trivial)
        accounted found ?_ ?_
      · obtain before | rfl := mem_trigger member
        · exact .inl before
        · exact .inr (plain_deploy plain name _)
      · exact fun isUndeploying => absurd isUndeploying states.1
      · exact fun isDone => absurd isDone states.2.1

theorem accounted_redeployRole (sound : api.Sound) {action : WaitKind}
    (plain : action.ends = false ∧ action ≠ .undeployNets) {name : String} {role : Role} (accounted : flow.Accounted)
    (found : flow.service.roles.lookup name = some role) (states : role.state ≠ .undeploying ∧ role.state ≠ .done) :
    (redeployRole api action name role flow).2.Accounted ∧ Grows api flow (redeployRole api action name role flow).2 := by
  have isVm := accounted.kinds name role found
  have deploys : Role.Deploys api role flow.cloud (role.recoverDeploy api name flow.service.reportReady flow.cloud).2.1
      (role.recoverDeploy api name flow.service.reportReady flow.cloud).2.2 := by
    rw [Role.recoverDeploy_snd]
    exact Role.deploys_deploy sound isVm
  unfold redeployRole
  dsimp only
  generalize role.recoverDeploy api name flow.service.reportReady flow.cloud = result at deploys ⊢
  obtain ⟨outcome, deployed, cloud⟩ := result
  have notUndeploying : deployed.state = .undeploying → ∀ vm ∈ deployed.nodes, cloud.Settled vm := fun isUndeploying =>
    absurd (deploys.state.symm.trans isUndeploying) states.1
  have notDone : deployed.state = .done → role.state = .done ∧ deployed.nodes = role.nodes := fun isDone =>
    absurd (deploys.state.symm.trans isDone) states.2
  have waiting : ∀ vms, ∀ wait ∈ (trigger { flow.note (.deploy name role.state (flow.parentStates role)) with cloud }
      ⟨action, name, vms⟩).waits, wait ∈ flow.waits ∨ Plain cloud wait := by
    intro vms wait member
    obtain before | rfl := mem_trigger member
    · exact .inl before
    · exact .inr (plain_deploy plain name vms)
  cases outcome with
  | raised =>
    exact Visits.accounted (visits_of_deploys found deploys rfl rfl rfl rfl rfl (fun _ => .inl) rfl trivial)
      accounted found notUndeploying notDone
  | failed =>
    exact Visits.accounted (visits_of_deploys found deploys rfl rfl rfl rfl rfl (waiting []) rfl trivial)
      accounted found notUndeploying notDone
  | nodes vms =>
    exact Visits.accounted (visits_of_deploys found deploys rfl rfl rfl rfl rfl (waiting vms) rfl trivial)
      accounted found notUndeploying notDone

theorem visits_of_shuts {name : String} {role changed : Role} {result : Option (List Nat) × Cloud} {deed : Deed}
    {after : Flow} (shuts : role.Shuts flow.cloud result) (roles : ∀ other, after.service.roles.lookup other =
      if other = name then some changed else flow.service.roles.lookup other)
    (state : after.service.state = flow.service.state) (cloud : after.cloud = result.2)
    (kind : changed.kind = role.kind) (nodes : changed.nodes = role.nodes)
    (alive : after.deleted = flow.deleted) (followups : after.followups = flow.followups)
    (waits : ∀ wait ∈ after.waits, wait ∈ flow.waits ∨ Plain after.cloud wait)
    (history : after.history = deed :: flow.history) (complete : deed.Complete) :
    Visits api name role changed deed flow after where
  roles := roles
  history := history
  settled vm settled := by
    rw [cloud]
    obtain terminated | gone := settled
    · exact .inl (shuts.terminated vm terminated)
    · exact .inr (by rwa [shuts.gone])
  tidy := tidy_of_plain alive state followups waits history complete
  kind := kind
  kept vm member := by rwa [nodes]
  created vm earlier := by
    rw [cloud, shuts.instantiated] at earlier
    exact .inl earlier
  still _ := by rw [cloud, shuts.instantiated]

theorem plain_shutdown {role : Role} {cloud : Cloud} {vms : List Nat} {after : Cloud}
    (shuts : role.Shuts cloud (some vms, after)) {action : WaitKind} (plain : action ≠ .remove ∧ action ≠ .undeployNets)
    (name : String) : Plain after ⟨action, name, vms⟩ :=
  ⟨plain.1, plain.2, fun _ vm member => .inl (shuts.asked vms rfl vm member)⟩

theorem complete_shutdown {action : WaitKind} {role : Role} (isWhole : action = .undeploy → role.whole = true)
    (recover : Bool) (name : String) (children : List (String × RoleState)) :
    Deed.Complete (.shutdown action recover name role.state role.nodes
      (Role.firstNodes role.nodes role.shutdownCount) children) := by
  cases action with
  | undeploy => exact Role.firstNodes_whole (isWhole rfl)
  | _ => trivial

theorem accounted_undeployRole {success error : RoleState} {action : WaitKind}
    (states : success ≠ .done ∧ error ≠ .undeploying ∧ error ≠ .done ∧ (action ≠ .undeploy → success ≠ .undeploying))
    (plain : action ≠ .remove ∧ action ≠ .undeployNets) {name : String} {role : Role} (accounted : flow.Accounted)
    (found : flow.service.roles.lookup name = some role) (isWhole : action = .undeploy → role.whole = true) :
    (undeployRole api success error action name role flow).2.Accounted ∧
      Grows api flow (undeployRole api success error action name role flow).2 := by
  have shuts : role.Shuts flow.cloud (role.shutdown api name false flow.cloud) :=
    Role.shuts_shutdown (accounted.kinds name role found) (by simp)
  have complete := complete_shutdown isWhole false name (flow.childStates name)
  unfold undeployRole
  dsimp only
  generalize role.shutdown api name false flow.cloud = result at shuts ⊢
  obtain ⟨undeployed, cloud⟩ := result
  cases undeployed with
  | none =>
    refine Visits.accounted (visits_of_shuts shuts (lookup_setRoleState found error) rfl rfl rfl rfl rfl rfl (fun _ => .inl) rfl
      complete) accounted found ?_ ?_
    · exact fun isUndeploying => absurd isUndeploying states.2.1
    · exact fun isDone => absurd isDone states.2.2.1
  | some vms =>
    refine Visits.accounted (visits_of_shuts shuts (lookup_setRoleState found success) rfl rfl rfl rfl rfl rfl
      (fun wait member => ?_) rfl complete) accounted found ?_ ?_
    · obtain before | rfl := mem_trigger member
      · exact .inl before
      · exact .inr (plain_shutdown shuts plain name)
    · intro isUndeploying vm member
      have isUndeploy : action = .undeploy := by
        by_contra other
        exact states.2.2.2 other isUndeploying
      exact .inl (shuts.all (isWhole isUndeploy) vms rfl vm member)
    · exact fun isDone => absurd isDone states.1

theorem accounted_reshutdownRole {action : WaitKind} {failure : Outcome}
    (plain : action ≠ .remove ∧ action ≠ .undeployNets) {name : String} {role : Role} (accounted : flow.Accounted)
    (found : flow.service.roles.lookup name = some role) (isWhole : action = .undeploy → role.whole = true)
    (unrecovered : role.unrecovered api = true) : (reshutdownRole api action failure name role flow).2.Accounted ∧
      Grows api flow (reshutdownRole api action failure name role flow).2 := by
  have isVm := accounted.kinds name role found
  have shuts : role.Shuts flow.cloud (role.recoverUndeploy api name flow.cloud) := by
    have shuts : role.Shuts flow.cloud (role.shutdown api name true flow.cloud) :=
      Role.shuts_shutdown isVm fun _ => unrecovered
    unfold Role.recoverUndeploy
    rw [isVm]
    split
    · rename_i isVr _
      cases isVr
    · exact shuts
  have complete := complete_shutdown isWhole true name (flow.childStates name)
  have unchanged : ∀ other, flow.service.roles.lookup other =
      if other = name then some role else flow.service.roles.lookup other := by
    intro other
    split
    · rename_i same
      rw [same, found]
    · rfl
  unfold reshutdownRole
  dsimp only
  generalize role.recoverUndeploy api name flow.cloud = result at shuts ⊢
  obtain ⟨undeployed, cloud⟩ := result
  have settled : ∀ vm, flow.cloud.Settled vm → cloud.Settled vm := fun vm settled =>
    settled.imp (shuts.terminated vm) fun gone => by rwa [shuts.gone]
  have undeploying : role.state = .undeploying → ∀ vm ∈ role.nodes, cloud.Settled vm := fun isUndeploying vm member =>
    settled vm (accounted.undeploying name role found isUndeploying vm member)
  cases undeployed with
  | none =>
    exact Visits.accounted (visits_of_shuts shuts unchanged rfl rfl rfl rfl rfl rfl (fun _ => .inl) rfl complete)
      accounted found undeploying fun isDone => ⟨isDone, rfl⟩
  | some vms =>
    refine Visits.accounted (visits_of_shuts shuts unchanged rfl rfl rfl rfl rfl rfl (fun wait member => ?_) rfl
      complete) accounted found undeploying fun isDone => ⟨isDone, rfl⟩
    obtain before | rfl := mem_trigger member
    · exact .inl before
    · exact .inr (plain_shutdown shuts plain name)

theorem accounted_releaseRole {success error : RoleState} {action : WaitKind}
    (states : success ≠ .undeploying ∧ success ≠ .done ∧ error ≠ .undeploying ∧ error ≠ .done)
    (plain : action.ends = false ∧ action ≠ .undeployNets) {name : String} {role : Role} (accounted : flow.Accounted)
    (found : flow.service.roles.lookup name = some role) :
    (releaseRole api success error action name role flow).2.Accounted ∧
      Grows api flow (releaseRole api success error action name role flow).2 := by
  have nothing : role.Shuts flow.cloud (none, flow.cloud) :=
    ⟨rfl, rfl, fun _ member => member, fun _ isSome => (by cases isSome), fun _ _ isSome => (by cases isSome)⟩
  unfold releaseRole
  dsimp only
  split
  · refine Visits.accounted (visits_of_shuts nothing (lookup_setRoleState found success) rfl rfl rfl rfl rfl rfl
      (fun wait member => ?_) rfl trivial) accounted found ?_ ?_
    · obtain before | rfl := mem_trigger member
      · exact .inl before
      · exact .inr (plain_deploy plain name _)
    · exact fun isUndeploying => absurd isUndeploying states.1
    · exact fun isDone => absurd isDone states.2.1
  · refine Visits.accounted (visits_of_shuts nothing (lookup_setRoleState found error) rfl rfl rfl rfl rfl rfl
      (fun _ => .inl) rfl trivial) accounted found ?_ ?_
    · exact fun isUndeploying => absurd isUndeploying states.2.2.1
    · exact fun isDone => absurd isDone states.2.2.2

theorem accounted_eachRole {visit : String → Role → Flow → Outcome × Flow} {names : List String}
    (turn : ∀ name ∈ names, ∀ role flow, flow.Accounted → flow.service.roles.lookup name = some role →
      (visit name role flow).2.Accounted ∧ Grows api flow (visit name role flow).2) (accounted : flow.Accounted) :
    (eachRole visit names flow).2.Accounted ∧ Grows api flow (eachRole visit names flow).2 := by
  refine eachRole_invariant_mem (fun after => after.Accounted ∧ Grows api flow after) ?_ ⟨accounted, .refl flow⟩
  intro name member role before held found
  obtain ⟨kept, grows⟩ := turn name member role before held.1 found
  exact ⟨kept, held.2.trans grows⟩

theorem accounted_deployRoles (sound : api.Sound) {success error : RoleState} {action : WaitKind}
    (states : success ≠ .undeploying ∧ success ≠ .done ∧ error ≠ .undeploying ∧ error ≠ .done)
    (plain : action.ends = false ∧ action ≠ .undeployNets) (names : List String) (accounted : flow.Accounted) :
    (deployRoles api success error action names flow).2.Accounted ∧
      Grows api flow (deployRoles api success error action names flow).2 :=
  accounted_eachRole (fun _ _ _ _ => accounted_deployRole sound states plain) accounted

theorem accounted_releaseRoles {success error : RoleState} {action : WaitKind}
    (states : success ≠ .undeploying ∧ success ≠ .done ∧ error ≠ .undeploying ∧ error ≠ .done)
    (plain : action.ends = false ∧ action ≠ .undeployNets) (names : List String) (accounted : flow.Accounted) :
    (releaseRoles api success error action names flow).2.Accounted ∧
      Grows api flow (releaseRoles api success error action names flow).2 :=
  accounted_eachRole (fun _ _ _ _ => accounted_releaseRole states plain) accounted

def Whole (flow : Flow) (names : List String) : Prop :=
  ∀ name ∈ names, ∀ role, flow.service.roles.lookup name = some role → role.whole = true

theorem accounted_undeployRoles {success error : RoleState} {action : WaitKind}
    (states : success ≠ .done ∧ error ≠ .undeploying ∧ error ≠ .done ∧ (action ≠ .undeploy → success ≠ .undeploying))
    (plain : action ≠ .remove ∧ action ≠ .undeployNets) {names : List String} (nodup : names.Nodup)
    (accounted : flow.Accounted) (whole : action = .undeploy → flow.Whole names) :
    (undeployRoles api success error action names flow).2.Accounted ∧
      Grows api flow (undeployRoles api success error action names flow).2 := by
  refine eachRole_fresh (fun after => after.Accounted ∧ Grows api flow after) nodup
    (fun name role current _ => touches_undeployRole success error action name role current) ?_ ⟨accounted, .refl flow⟩
  intro name member role current atStart held found
  obtain ⟨kept, grows⟩ := accounted_undeployRole states plain held.1 found
    fun isUndeploy => whole isUndeploy name member role atStart
  exact ⟨kept, held.2.trans grows⟩

theorem accounted_recoverDeploy (sound : api.Sound) (accounted : flow.Accounted) :
    (flow.recoverDeploy api).2.Accounted ∧ Grows api flow (flow.recoverDeploy api).2 := by
  refine accounted_eachRole (fun name _ role current accounted found => ?_) accounted
  unfold recoverDeployRole
  split
  · rename_i canRecover
    refine accounted_redeployRole sound (by simp [WaitKind.ends]) accounted found ⟨?_, ?_⟩
    · intro isUndeploying
      rw [Service.canRecoverDeploy, isUndeploying] at canRecover
      simp at canRecover
    · intro isDone
      rw [Service.canRecoverDeploy, isDone] at canRecover
      simp at canRecover
  · exact ⟨accounted, .refl current⟩

theorem states_of_canRecoverScale {role : Role} (canRecover : role.canRecoverScale = true) :
    role.state ≠ .undeploying ∧ role.state ≠ .done := by
  constructor
  · intro isUndeploying
    rw [Role.canRecoverScale, isUndeploying] at canRecover
    simp at canRecover
  · intro isDone
    rw [Role.canRecoverScale, isDone] at canRecover
    simp at canRecover

def Recovers (flow : Flow) (api : Api) : Prop :=
  ∀ name role, flow.service.roles.lookup name = some role → flow.service.canRecoverUndeploy name role = true →
    role.whole = true ∧ role.unrecovered api = true

theorem accounted_recoverUndeploy (accounted : flow.Accounted) (recovers : flow.Recovers api) :
    (flow.recoverUndeploy api).2.Accounted ∧ Grows api flow (flow.recoverUndeploy api).2 := by
  have kept : (flow.recoverUndeploy api).2.service = flow.service ∧ (flow.recoverUndeploy api).2.Accounted ∧
      Grows api flow (flow.recoverUndeploy api).2 := by
    refine eachRole_invariant (fun after => after.service = flow.service ∧ after.Accounted ∧ Grows api flow after) ?_
      ⟨rfl, accounted, .refl flow⟩
    intro name role current ⟨same, accounted, grows⟩ found
    unfold recoverUndeployRole
    split
    · rename_i canRecover
      rw [same] at canRecover
      obtain ⟨isWhole, unrecovered⟩ := recovers name role (same ▸ found) canRecover
      have turn : (reshutdownRole api .undeploy .error name role current).2.Accounted ∧ Grows api current _ :=
        accounted_reshutdownRole (by simp) accounted found (fun _ => isWhole) unrecovered
      exact ⟨(service_reshutdownRole ..).trans same, turn.1, grows.trans turn.2⟩
    · exact ⟨same, accounted, grows⟩
  exact kept.2

def ScalesDown (flow : Flow) (api : Api) : Prop :=
  ∀ name role, flow.service.roles.lookup name = some role → role.canRecoverScale = true →
    role.scaleWay = some .down → role.unrecovered api = true

theorem accounted_recoverScale (sound : api.Sound) (accounted : flow.Accounted) (scales : flow.ScalesDown api) :
    (flow.recoverScale api).2.Accounted ∧ Grows api flow (flow.recoverScale api).2 := by
  refine eachRole_fresh (fun after => after.Accounted ∧ Grows api flow after) flow.service.roles.nodupKeys
    (fun name role current _ => touches_recoverScaleRole name role current) ?_ ⟨accounted, .refl flow⟩
  intro name _ role current atStart ⟨accounted, grows⟩ found
  unfold recoverScaleRole
  split
  · rename_i canRecover
    split
    · have turn : (redeployRole api .scaleup name role current).2.Accounted ∧ Grows api current _ :=
        accounted_redeployRole sound (by simp [WaitKind.ends]) accounted found (states_of_canRecoverScale canRecover)
      exact ⟨turn.1, grows.trans turn.2⟩
    · rename_i isDown
      have turn : (reshutdownRole api .scaledown .ok name role current).2.Accounted ∧ Grows api current _ :=
        accounted_reshutdownRole (by simp) accounted found (by simp) (scales name role atStart canRecover isDown)
      exact ⟨turn.1, grows.trans turn.2⟩
    · exact ⟨accounted, grows⟩
  · exact ⟨accounted, grows⟩

theorem raised_deployRoles (sound : api.Sound) {success error : RoleState} {action : WaitKind} {names : List String}
    (raised : (deployRoles api success error action names flow).1 = .raised) :
    ∀ name vm, api.instantiate name vm = false := by
  refine sound.template.resolve_left fun readable => ?_
  exact outcome_eachRole (fun name role current => outcome_deployRole fun _ _ => readable name) names flow raised

theorem outcome_redeployRole {action : WaitKind} {name : String} {role : Role} (readable : api.template name = true) :
    (redeployRole api action name role flow).1 ≠ .raised := by
  unfold redeployRole
  dsimp only
  split
  · rename_i isRaised
    exact absurd (Role.recoverDeploy_raised isRaised) (deploy_not_raised fun _ _ => readable)
  · simp
  · simp

theorem raised_recoverDeploy (sound : api.Sound) (raised : (flow.recoverDeploy api).1 = .raised) :
    ∀ name vm, api.instantiate name vm = false := by
  refine sound.template.resolve_left fun readable => ?_
  refine outcome_eachRole (fun name role current => ?_) flow.service.names flow raised
  unfold recoverDeployRole
  split
  · exact outcome_redeployRole (readable name)
  · simp

theorem outcome_reshutdownRole {action : WaitKind} {failure : Outcome} (notRaised : failure ≠ .raised) {name : String}
    {role : Role} : (reshutdownRole api action failure name role flow).1 ≠ .raised := by
  unfold reshutdownRole
  dsimp only
  split
  · exact notRaised
  · simp

theorem raised_recoverScale (sound : api.Sound) (raised : (flow.recoverScale api).1 = .raised) :
    ∀ name vm, api.instantiate name vm = false := by
  refine sound.template.resolve_left fun readable => ?_
  refine outcome_eachRole (fun name role current => ?_) flow.service.names flow raised
  unfold recoverScaleRole
  split
  · split
    · exact outcome_redeployRole (readable name)
    · exact outcome_reshutdownRole (by simp)
    · simp
  · simp

theorem outcome_recoverUndeploy : (flow.recoverUndeploy api).1 ≠ .raised := by
  refine outcome_eachRole (fun name role current => ?_) flow.service.names flow
  unfold recoverUndeployRole
  split
  · exact outcome_reshutdownRole (by simp)
  · simp

theorem Accounted.restore {after : Flow} (accounted : flow.Accounted) (later : after.Accounted)
    (grows : Grows api flow after) (state : after.service.state = flow.service.state)
    (inside : ∀ name, (after.service.roles.lookup name).isSome = (flow.service.roles.lookup name).isSome)
    (created : after.cloud.instantiated = flow.cloud.instantiated) :
    Accounted { after with service := flow.service } where
  alive := later.alive
  kinds := accounted.kinds
  recorded vm earlier := by
    obtain settled | listed := accounted.recorded vm (created ▸ earlier)
    · exact .inl (grows.settled vm settled)
    · exact .inr listed
  undeploying name role found isUndeploying vm member :=
    grows.settled vm (accounted.undeploying name role found isUndeploying vm member)
  done name role found isDone := by
    obtain ⟨empty, reported⟩ := accounted.done name role found isDone
    exact ⟨empty, grows.history _ reported⟩
  waits := later.waits
  nets due name role found := by
    have isSome := inside name
    rw [found, Option.isSome_some] at isSome
    obtain ⟨other, isOther⟩ := Option.isSome_iff_exists.1 isSome
    refine later.nets ?_ name other isOther
    obtain isNets | failedNets | rest := due
    · exact .inl (state.trans isNets)
    · exact .inr (.inl (state.trans failedNets))
    · exact .inr (.inr rest)
  complete := later.complete

theorem Accounted.setState (accounted : flow.Accounted) {state : ServiceState}
    (plain : state ≠ .undeployingNets ∧ state ≠ .failedUndeployingNets) : (flow.setState state).Accounted := by
  refine accounted.same rfl (grows_of_same {} rfl rfl) ⟨rfl, fun _ => .inl, ?_, fun _ => .inl⟩ rfl
  rintro (isNets | failedNets | rest)
  · exact absurd isNets plain.1
  · exact absurd failedNets plain.2
  · exact .inr (.inr rest)

structure Worked (api : Api) (before : Flow) (result : Outcome × Flow) : Prop where
  accounted : result.2.Accounted
  grows : Grows api before result.2
  state : result.2.service.state = before.service.state
  inside : ∀ name, (result.2.service.roles.lookup name).isSome = (before.service.roles.lookup name).isSome
  raised : result.1 = .raised → ∀ name vm, api.instantiate name vm = false

theorem Worked.dropped {result : Outcome × Flow} (worked : Worked api flow result) (accounted : flow.Accounted)
    (raised : result.1 = .raised) : (flow.finish (result.2, .dropped)).Accounted :=
  accounted.restore worked.accounted worked.grows worked.state worked.inside (worked.grows.still (worked.raised raised))

theorem accounted_settle {success error : ServiceState} {result : Outcome × Flow} (worked : Worked api flow result)
    (accounted : flow.Accounted) (plainSuccess : success ≠ .undeployingNets ∧ success ≠ .failedUndeployingNets)
    (plainError : error ≠ .undeployingNets ∧ error ≠ .failedUndeployingNets) :
    (flow.finish (settle success error result)).Accounted := by
  obtain ⟨outcome, after⟩ := result
  cases outcome with
  | ok => exact worked.accounted.setState plainSuccess
  | error => exact worked.accounted.setState plainError
  | raised => exact worked.dropped accounted rfl

theorem accounted_written {result : Outcome × Flow} (worked : Worked api flow result) (accounted : flow.Accounted) :
    (flow.finish (written result)).Accounted := by
  obtain ⟨outcome, after⟩ := result
  cases outcome with
  | ok | error => exact worked.accounted
  | raised => exact worked.dropped accounted rfl

theorem Worked.after {middle : Flow} {result : Outcome × Flow} (worked : Worked api middle result)
    (grows : Grows api flow middle) (state : middle.service.state = flow.service.state)
    (inside : ∀ name, (middle.service.roles.lookup name).isSome = (flow.service.roles.lookup name).isSome) :
    Worked api flow result where
  accounted := worked.accounted
  grows := grows.trans worked.grows
  state := worked.state.trans state
  inside name := (worked.inside name).trans (inside name)
  raised := worked.raised

theorem worked_deployRoles (sound : api.Sound) {success error : RoleState} {action : WaitKind}
    (states : success ≠ .undeploying ∧ success ≠ .done ∧ error ≠ .undeploying ∧ error ≠ .done)
    (plain : action.ends = false ∧ action ≠ .undeployNets) (names : List String) (accounted : flow.Accounted) :
    Worked api flow (deployRoles api success error action names flow) where
  accounted := (accounted_deployRoles sound states plain names accounted).1
  grows := (accounted_deployRoles sound states plain names accounted).2
  state := (touches_deployRoles ..).state
  inside := (touches_deployRoles ..).inside
  raised := raised_deployRoles sound

theorem worked_releaseRoles {success error : RoleState} {action : WaitKind}
    (states : success ≠ .undeploying ∧ success ≠ .done ∧ error ≠ .undeploying ∧ error ≠ .done)
    (plain : action.ends = false ∧ action ≠ .undeployNets) (names : List String) (accounted : flow.Accounted) :
    Worked api flow (releaseRoles api success error action names flow) where
  accounted := (accounted_releaseRoles states plain names accounted).1
  grows := (accounted_releaseRoles states plain names accounted).2
  state := (touches_releaseRoles ..).state
  inside := (touches_releaseRoles ..).inside
  raised isRaised := (outcome_releaseRoles isRaised).elim

theorem worked_undeployRoles {success error : RoleState} {action : WaitKind}
    (states : success ≠ .done ∧ error ≠ .undeploying ∧ error ≠ .done ∧ (action ≠ .undeploy → success ≠ .undeploying))
    (plain : action ≠ .remove ∧ action ≠ .undeployNets) {names : List String} (nodup : names.Nodup)
    (accounted : flow.Accounted) (whole : action = .undeploy → flow.Whole names) :
    Worked api flow (undeployRoles api success error action names flow) where
  accounted := (accounted_undeployRoles states plain nodup accounted whole).1
  grows := (accounted_undeployRoles states plain nodup accounted whole).2
  state := (touches_undeployRoles ..).state
  inside := (touches_undeployRoles ..).inside
  raised isRaised := (outcome_undeployRoles isRaised).elim

end Flow

end OpenNebula.OneFlow
