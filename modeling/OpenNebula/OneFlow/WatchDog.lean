import OpenNebula.OneFlow.Loops

namespace OpenNebula.OneFlow

open Library

/-! # The watchdog and the life cycle of a service

Events of the watchdog run when they run, whatever has happened since they were queued, and what
is watched is decided by the actions and callbacks themselves.
-/

def ServiceState.calm (state : ServiceState) : Bool := !(state.transient || state.failed)

def RoleState.calm (state : RoleState) : Bool :=
  state ∉ [.deploying, .undeploying, .scaling, .cooldown, .failedDeploying, .failedUndeploying, .failedScaling]

namespace Flow

variable {api : Api} {flow : Flow}

/-- A running service has running roles, and a service that runs is watched. -/
structure Coheres (flow : Flow) : Prop where
  running : flow.service.state = .running → flow.service.allRolesRunning = true
  watched : flow.service.state = .running ∨ flow.service.state = .warning → flow.watched = true

section

variable (flow : Flow)

def Coherent : Prop := flow.deleted = false → flow.Coheres

/-- Nothing leaves a state that is transient or failed. -/
structure Steady (before after : Flow) : Prop where
  service : before.service.state.calm = false → after.service.state = before.service.state
  roles : ∀ name role, before.service.roles.lookup name = some role → role.state.calm = false →
    ∃ next, after.service.roles.lookup name = some next ∧ next.state = role.state

def othersIn (name : String) (state : RoleState) : Bool :=
  flow.service.roles.entries.all fun row => row.1 = name || row.2.state = state

/-- A scaling that fails, or that changes the number of VMs and reads its template -/
def scales (name : String) (cardinality : Int) (force : Bool) (api : Api) : Bool :=
  (flow.service.roles.lookup name).any fun role =>
    (role.update cardinality force).isNone ||
      (cardinality ≠ role.cardinality &&
        (cardinality < role.cardinality || cardinality ≤ role.nodes.length || api.template name))

def waitSpares (wait : Wait) (report : Report) : Bool :=
  match wait.kind, report.success with
  | .cooldown, _ | .add, true => wait.role ∉ flow.service.roles || flow.othersIn wait.role .running
  | .remove, true => flow.othersIn wait.role .done || flow.othersIn wait.role .running
  | .hold, _ => flow.service.state ≠ .running || wait.role ∉ flow.service.roles || flow.othersIn wait.role .hold
  | .undeploy, true =>
    flow.service.state ≠ .running || wait.role ∉ flow.service.roles || flow.othersIn wait.role .done
  | _, _ => true

def watchDogSpares (event : WatchDogEvent) : Bool :=
  (flow.service.roles.lookup event.role).all fun role =>
    match event.seen with
    | .warning => role.state.calm && flow.service.state.calm && flow.watched
    | .running =>
      role.state.calm && (!flow.othersIn event.role .running || (flow.service.state.calm && flow.watched))
    | .done | .other => true

/-- The branches that lose the watchdog, or that mistake the state of the other roles, are not taken. -/
def Event.spares (event : Event) : Bool :=
  flow.deleted ||
    match event with
    | .scale name cardinality force api =>
      flow.service.state ≠ .running || flow.scales name cardinality force api
    | .recover false _ _ => flow.service.state ≠ .cooldown || flow.watched
    | .addRole name role api =>
      flow.service.state ≠ .running || name ∈ flow.service.roles || !api.fillTemplate || role.kind ≠ .vm ||
        role.cardinality ≤ 0 || api.template name
    | .callback index report _ _ => (flow.waits[index]?).all fun wait => flow.waitSpares wait report
    | .watchDog index => (flow.watchDog[index]?).all flow.watchDogSpares
    | _ => true

end

variable {name : String} {state : RoleState} {change : Role → Role} {after : Flow} {result : Outcome × Flow}
  {role : Role} {event : WatchDogEvent}

theorem othersIn_iff : flow.othersIn name state = true ↔
      ∀ other role, flow.service.roles.lookup other = some role → other ≠ name → role.state = state := by
  simp only [othersIn, List.all_eq_true, Bool.or_eq_true, decide_eq_true_eq, ← Map.mem_entries_iff, Sigma.forall,
    ← or_iff_not_imp_left]

theorem allRoles_setRole (others : flow.othersIn name state = true) (own : ∀ role, (change role).state = state) :
    (flow.setRole name change).service.allRoles state = true := by
  rw [Service.allRoles_iff]
  intro other role found
  rw [lookup_setRole] at found
  obtain ⟨before, isBefore, rfl⟩ := Option.map_eq_some_iff.1 found
  split
  · exact own before
  · rename_i apart
    exact othersIn_iff.1 others other before isBefore apart

theorem othersIn_of_setRole (all : (flow.setRole name change).service.allRoles state = true) :
    flow.othersIn name state = true := by
  rw [Service.allRoles_iff] at all
  refine othersIn_iff.2 fun other role found apart => all other role ?_
  rwa [lookup_setRole_ne apart]

theorem othersIn_of_allRoles (name : String) (all : flow.service.allRoles state = true) :
    flow.othersIn name state = true :=
  othersIn_iff.2 fun other role found _ => Service.allRoles_iff.1 all other role found

theorem allRoles_setRole_same (all : flow.service.allRoles state = true)
    (same : ∀ role, flow.service.roles.lookup name = some role → (change role).state = role.state) :
    (flow.setRole name change).service.allRoles state = true := by
  rw [Service.allRoles_iff] at all ⊢
  intro other role found
  rw [lookup_setRole] at found
  obtain ⟨before, isBefore, rfl⟩ := Option.map_eq_some_iff.1 found
  split
  · rename_i isName
    rw [same before (isName ▸ isBefore)]
    exact all other before isBefore
  · exact all other before isBefore

theorem coheres_of_busy (notRunning : flow.service.state ≠ .running) (notWarning : flow.service.state ≠ .warning) :
    flow.Coheres := by
  refine ⟨fun isRunning => absurd isRunning notRunning, fun either => ?_⟩
  obtain isRunning | isWarning := either
  · exact absurd isRunning notRunning
  · exact absurd isWarning notWarning

theorem Coheres.same (coheres : flow.Coheres) (service : after.service = flow.service)
    (watched : flow.watched = true → after.watched = true) : after.Coheres := by
  refine ⟨fun isRunning => ?_, fun either => watched (coheres.watched ?_)⟩
  · rw [service] at isRunning ⊢
    exact coheres.running isRunning
  · rwa [service] at either

theorem coherent_dropped (coheres : flow.Coheres) (watched : flow.watched = true → after.watched = true) :
    (flow.finish (after, .dropped)).Coherent :=
  fun _ => coheres.same rfl watched

theorem coherent_settle {success error : ServiceState} (notSuccess : success ≠ .running ∧ success ≠ .warning)
    (notError : error ≠ .running ∧ error ≠ .warning) (notRaised : result.1 ≠ .raised) :
    (flow.finish (settle success error result)).Coherent := by
  obtain ⟨outcome, after⟩ := result
  cases outcome with
  | ok => exact fun _ => coheres_of_busy notSuccess.1 notSuccess.2
  | error => exact fun _ => coheres_of_busy notError.1 notError.2
  | raised => exact absurd rfl notRaised

section

variable (coheres : flow.Coheres)
include coheres

theorem coherent_settle_touches {names : List String} {success error : ServiceState}
    (touches : Touches names flow result.2) (notSuccess : success ≠ .running ∧ success ≠ .warning)
    (notError : error ≠ .running ∧ error ≠ .warning) : (flow.finish (settle success error result)).Coherent := by
  by_cases isRaised : result.1 = .raised
  · obtain ⟨outcome, after⟩ := result
    obtain rfl : outcome = .raised := isRaised
    exact coherent_dropped coheres fun isWatched => touches.watched.trans isWatched
  · exact coherent_settle notSuccess notError isRaised

theorem coherent_written {names : List String} {middle : Flow}
    (touches : Touches names middle result.2) (state : middle.service.state = flow.service.state)
    (watched : middle.watched = flow.watched) (notRunning : flow.service.state ≠ .running) :
    (flow.finish (written result)).Coherent := by
  obtain ⟨outcome, after⟩ := result
  have sameState : after.service.state = flow.service.state := touches.state.trans state
  have sameWatch : after.watched = flow.watched := touches.watched.trans watched
  have kept : after.Coheres := by
    refine ⟨fun isRunning => absurd (sameState.symm.trans isRunning) notRunning, fun either => ?_⟩
    rw [sameState] at either
    rw [sameWatch]
    exact coheres.watched either
  cases outcome with
  | ok | error => exact fun _ => kept
  | raised => exact coherent_dropped coheres fun isWatched => sameWatch.trans isWatched

theorem coherent_undeployAction (delete : Bool) : (flow.finish (flow.undeployAction api delete)).Coherent := by
  unfold undeployAction
  split
  · exact coherent_dropped coheres id
  · split
    · intro notDeleted
      cases notDeleted
    · exact coherent_settle (by simp) (by simp) outcome_undeployRoles

theorem coherent_deployAction : (flow.finish (flow.deployAction api)).Coherent := by
  unfold deployAction
  split
  · exact fun _ => coheres_of_busy (by simp [finish, setState]) (by simp [finish, setState])
  · split
    · split
      · rename_i allRunning
        refine fun _ => ⟨fun _ => ?_, fun _ => addService_watched⟩
        rw [finish, addService_service]
        exact allRunning
      · exact coherent_dropped coheres id
    · refine coherent_settle_touches coheres (touches_deployRoles ..) ?_ (by simp)
      split
      · simp
      · simp

theorem coherent_scaleAction {cardinality : Int} {force : Bool}
    (spares : flow.service.state ≠ .running ∨ flow.scales name cardinality force api = true) :
    (flow.finish (flow.scaleAction api name cardinality force)).Coherent := by
  unfold scaleAction
  split
  · exact coherent_dropped coheres id
  · rename_i isRunning
    have scales := spares.resolve_left isRunning
    rw [Flow.scales, Option.any_eq_true] at scales
    obtain ⟨role, found, spared⟩ := scales
    dsimp only
    rw [show flow.removeService.service.roles.lookup name = some role from found]
    dsimp only
    split
    · exact coherent_dropped coheres fun _ => addService_watched
    · rename_i updated isUpdated
      obtain rfl := update_vm isUpdated
      rw [isUpdated, Option.isNone_some, Bool.false_or, Bool.and_eq_true, decide_eq_true_eq] at spared
      simp only [Bool.or_eq_true, decide_eq_true_eq] at spared
      split
      · rename_i more
        have present : (flow.removeService.setRole name fun _ =>
            { role with cardinality, scaleWay := some .up }).service.roles.lookup name =
            some { role with cardinality, scaleWay := some .up } := by
          rw [lookup_setRole_self, show flow.removeService.service.roles.lookup name = some role from found,
            Option.map_some]
        refine coherent_settle (by simp) (by simp) (outcome_deployRoles_singleton present fun _ missing => ?_)
        simp only at missing
        obtain (fewer | enough) | readable := spared.2
        · omega
        · omega
        · exact readable
      · split
        · exact coherent_settle (by simp) (by simp) outcome_undeployRoles
        · omega

theorem coherent_recoverAction (spares : flow.service.state ≠ .cooldown ∨ flow.watched = true) :
    (flow.finish (flow.recoverAction api)).Coherent := by
  unfold recoverAction
  split
  · rename_i canRecover
    refine coherent_written coheres (touches_recoverDeploy flow) rfl rfl fun isRunning => ?_
    rw [isRunning] at canRecover
    cases canRecover
  · split
    · rename_i canRecover
      refine coherent_written coheres (touches_recoverUndeploy flow) rfl rfl fun isRunning => ?_
      rw [isRunning] at canRecover
      cases canRecover
    · split
      · rename_i canRecover
        refine coherent_written coheres (touches_recoverScale flow) rfl rfl fun isRunning => ?_
        rw [isRunning] at canRecover
        cases canRecover
      · split
        · exact fun _ => coheres.same rfl id
        · split
          · exact fun _ => coheres.same rfl id
          · split
            · rename_i isCooldown
              have isWatched := spares.resolve_left (not_not.2 isCooldown)
              refine fun _ => ⟨fun _ => ?_, fun _ => isWatched⟩
              rw [Service.allRolesRunning, Service.allRoles_iff]
              intro name role found
              obtain ⟨before, -, rfl⟩ := Option.map_eq_some_iff.1 ((Map.lookup_modify ..).symm.trans found)
              rfl
            · exact coherent_dropped coheres id

theorem coherent_releaseAction : (flow.finish (flow.releaseAction api)).Coherent := by
  unfold releaseAction
  split
  · exact coherent_dropped coheres id
  · exact coherent_settle (by simp) (by simp) outcome_releaseRoles

theorem coherent_removeRoleAction (name : String) : (flow.finish (flow.removeRoleAction api name)).Coherent := by
  unfold removeRoleAction
  split
  · exact coherent_dropped coheres id
  · exact coherent_settle (by simp) (by simp) outcome_undeployRoles

theorem coherent_addRoleAction
    (spares : flow.service.state = .running → name ∉ flow.service.roles → api.fillTemplate = true →
      role.kind = .vm → 0 < role.cardinality → api.template name = true) :
    (flow.finish (flow.addRoleAction api name role)).Coherent := by
  unfold addRoleAction
  split
  · exact coherent_dropped coheres id
  · rename_i accepted
    obtain ⟨isRunning, absent⟩ := not_or.1 accepted
    rw [not_not] at isRunning
    dsimp only
    split
    · exact fun _ => coheres_of_busy (by simp [finish, setState]) (by simp [finish, setState])
    · rename_i filled
      rw [Bool.not_eq_true', Bool.not_eq_false] at filled
      refine coherent_settle (by simp) (by simp) (outcome_deployRoles_singleton
        ((Map.lookup_insertLast absent name).trans (if_pos rfl)) fun isVm missing => ?_)
      exact spares isRunning absent filled isVm (by simpa using missing)

end

theorem coherent_backToRunning (others : flow.othersIn name .running = true) :
    Coherent (((flow.setRoleState name .running).setState .running).addService api) := by
  refine fun _ => ⟨fun _ => ?_, fun _ => addService_watched⟩
  rw [addService_service]
  exact allRoles_setRole others fun _ => rfl

section

variable (coheres : flow.Coheres)
include coheres

theorem coherent_runningCb {next : Flow → Outcome × Flow}
    (touches : ∀ flow, ∃ names, Touches names flow (next flow).2) :
    (flow.finish (flow.runningCb api next name)).Coherent := by
  unfold runningCb
  split
  · exact coherent_dropped coheres id
  · rename_i role found
    dsimp only
    split
    · rename_i allRunning
      exact fun notDeleted => (coherent_backToRunning (othersIn_of_setRole allRunning) notDeleted).same rfl id
    · rename_i notAll
      have notRunning : flow.service.state ≠ .running := fun isRunning =>
        notAll (allRoles_setRole (othersIn_of_allRoles name (coheres.running isRunning)) fun _ => rfl)
      obtain ⟨names, touch⟩ := touches (flow.setRoleState name .running)
      have kept : (flow.finish (written (next (flow.setRoleState name .running)))).Coherent :=
        coherent_written coheres touch rfl rfl notRunning
      split
      · split
        · rename_i isWritten
          rw [isWritten] at kept
          exact fun isDeleted => (kept isDeleted).same rfl id
        · exact kept
      · exact fun _ => ⟨fun isRunning => absurd isRunning notRunning, coheres.watched⟩

theorem coherent_failureCb {state : ServiceState} (roleState : RoleState)
    (notState : state ≠ .running ∧ state ≠ .warning) (report : Option Report) (name : String) :
    (flow.finish (flow.failureCb state roleState report name)).Coherent := by
  unfold failureCb
  split
  · exact fun _ => coheres_of_busy notState.1 notState.2
  · exact coherent_dropped coheres id

theorem coherent_undeployCb {report : Report}
    (spares : flow.service.state = .running → name ∈ flow.service.roles → flow.othersIn name .done = true) :
    (flow.finish (flow.undeployCb api name report)).Coherent := by
  unfold undeployCb
  split
  · exact coherent_dropped coheres id
  · rename_i role found
    dsimp only
    split
    · exact coherent_dropped coheres id
    · rename_i notAll
      have notRunning : flow.service.state ≠ .running := fun isRunning =>
        notAll (allRoles_setRole (spares isRunning (AList.lookup_isSome.1 (by rw [found]; rfl))) fun _ => rfl)
      split
      · exact coherent_written coheres (touches_undeployRoles ..) rfl rfl notRunning
      · exact fun _ => ⟨fun isRunning => absurd isRunning notRunning, coheres.watched⟩

theorem coherent_scaleCb (report : Option Report) (name : String) :
    (flow.finish (flow.scaleCb report name)).Coherent := by
  unfold scaleCb
  split
  · exact fun _ => coheres_of_busy (by simp [finish, setState, trigger]) (by simp [finish, setState, trigger])
  · exact coherent_dropped coheres id

theorem coherent_cooldownCb (spares : name ∈ flow.service.roles → flow.othersIn name .running = true) :
    (flow.finish (flow.cooldownCb api name)).Coherent := by
  unfold cooldownCb
  split
  · exact coherent_dropped coheres id
  · rename_i role found
    have others := spares (AList.lookup_isSome.1 (by rw [found]; rfl))
    exact fun notDeleted => (coherent_backToRunning others notDeleted).same rfl id

theorem coherent_addCb (spares : name ∈ flow.service.roles → flow.othersIn name .running = true) :
    (flow.finish (flow.addCb api name)).Coherent := by
  unfold addCb
  split
  · rename_i present
    have allRunning : ((flow.setRoleState name .running).setState .running).service.allRolesRunning = true :=
      allRoles_setRole (spares present) fun _ => rfl
    dsimp only
    rw [if_pos allRunning]
    exact coherent_backToRunning (spares present)
  · exact coherent_dropped coheres id

end

theorem coherent_removeCb (spares : flow.othersIn name .done = true ∨ flow.othersIn name .running = true) :
    (flow.finish (flow.removeCb api name)).Coherent := by
  have removed : ∀ state, flow.othersIn name state = true →
      Service.allRoles { flow.service with roles := flow.service.roles.erase name } state = true := by
    intro state others
    rw [Service.allRoles_iff]
    intro other role found
    rw [Map.lookup_erase_eq] at found
    split at found
    · cases found
    · rename_i apart
      exact othersIn_iff.1 others other role found apart
  unfold removeCb
  dsimp only
  split
  · intro notDeleted
    cases notDeleted
  · rename_i notDone
    have others := spares.resolve_left fun others => notDone (removed .done others)
    have allRunning := removed .running others
    split
    · refine fun _ => ⟨fun _ => ?_, fun _ => addService_watched⟩
      rw [finish, addService_service]
      exact allRunning
    · rename_i notAll
      exact absurd allRunning notAll

theorem coherent_holdCb (coheres : flow.Coheres)
    (spares : flow.service.state = .running → name ∈ flow.service.roles → flow.othersIn name .hold = true) :
    (flow.finish (flow.holdCb api name)).Coherent := by
  unfold holdCb
  split
  · rename_i present
    dsimp only
    split
    · exact fun _ => coheres_of_busy (by simp [finish, setState]) (by simp [finish, setState])
    · rename_i notAll
      have notRunning : flow.service.state ≠ .running := fun isRunning => by
        refine notAll ?_
        rw [Bool.and_eq_true, decide_eq_true_eq]
        refine ⟨allRoles_setRole (spares isRunning present) fun _ => rfl, ?_⟩
        show flow.service.state ≠ .hold
        rw [isRunning]
        simp
      split
      · exact coherent_written coheres (touches_deployRoles ..) rfl rfl notRunning
      · exact fun _ => ⟨fun isRunning => absurd isRunning notRunning, coheres.watched⟩
  · exact coherent_dropped coheres id

theorem coherent_errorWdCb (coheres : flow.Coheres) (spares : name ∈ flow.service.roles → flow.watched = true) :
    (flow.finish (flow.errorWdCb name)).Coherent := by
  unfold errorWdCb
  split
  · rename_i present
    exact fun _ => ⟨fun isRunning => (by cases isRunning), fun _ => spares present⟩
  · exact coherent_dropped coheres id

theorem coherent_runningWdCb (coheres : flow.Coheres)
    (spares : flow.othersIn name .running = true → name ∈ flow.service.roles → flow.watched = true) :
    (flow.finish (flow.runningWdCb name)).Coherent := by
  unfold runningWdCb
  split
  · exact coherent_dropped coheres id
  · rename_i role found
    have present : name ∈ flow.service.roles := AList.lookup_isSome.1 (by rw [found]; rfl)
    dsimp only
    split
    · rename_i allRunning
      exact fun _ => ⟨fun _ => allRunning, fun _ => spares (othersIn_of_setRole allRunning) present⟩
    · rename_i notAll
      have notRunning : flow.service.state ≠ .running := fun isRunning =>
        notAll (allRoles_setRole (othersIn_of_allRoles name (coheres.running isRunning)) fun _ => rfl)
      exact fun _ => ⟨fun isRunning => absurd isRunning notRunning, coheres.watched⟩

theorem state_decremented (role : Role) :
    (if 0 ≤ role.cardinality - 1 then (role.update (role.cardinality - 1) true).getD role else role).state =
      role.state := by
  obtain ⟨_, isUpdated⟩ := decremented_eq role
  rw [isUpdated]

theorem coherent_doneWdCb (coheres : flow.Coheres) (name : String) (node : Nat) :
    (flow.finish (flow.doneWdCb name node)).Coherent := by
  unfold doneWdCb
  split
  · exact coherent_dropped coheres id
  · rename_i role found
    split
    · refine fun _ => ⟨fun isRunning => ?_, coheres.watched⟩
      refine allRoles_setRole_same (coheres.running isRunning) fun other isOther => ?_
      cases Option.some.inj (found.symm.trans isOther)
      exact state_decremented role
    · exact coherent_dropped coheres id

theorem calm_of_warning (spares : flow.watchDogSpares event = true) (isWarning : event.seen = .warning)
    (found : flow.service.roles.lookup event.role = some role) :
    role.state.calm = true ∧ flow.service.state.calm = true ∧ flow.watched = true := by
  rw [watchDogSpares, found, Option.all_some, isWarning] at spares
  simpa only [Bool.and_eq_true, and_assoc] using spares

theorem calm_of_running (spares : flow.watchDogSpares event = true) (isRunning : event.seen = .running)
    (found : flow.service.roles.lookup event.role = some role) : role.state.calm = true ∧
      (flow.othersIn event.role .running = true → flow.service.state.calm = true ∧ flow.watched = true) := by
  rw [watchDogSpares, found, Option.all_some, isRunning] at spares
  simp only [Bool.and_eq_true, Bool.or_eq_true, Bool.not_eq_true'] at spares
  refine ⟨spares.1, fun others => spares.2.resolve_left ?_⟩
  rw [others]
  simp

theorem exists_of_mem (present : name ∈ flow.service.roles) : ∃ role, flow.service.roles.lookup name = some role :=
  Option.isSome_iff_exists.1 (AList.lookup_isSome.2 present)

theorem coherent_watchDogCallback (coheres : flow.Coheres) (spares : flow.watchDogSpares event = true) :
    (flow.finish (flow.watchDogCallback event)).Coherent := by
  unfold watchDogCallback
  split
  · rename_i isWarning
    refine coherent_errorWdCb coheres fun present => ?_
    obtain ⟨role, found⟩ := exists_of_mem present
    exact (calm_of_warning spares isWarning found).2.2
  · rename_i isRunning
    refine coherent_runningWdCb coheres fun others present => ?_
    obtain ⟨role, found⟩ := exists_of_mem present
    exact ((calm_of_running spares isRunning found).2 others).2
  · exact coherent_doneWdCb coheres event.role event.node
  · exact coherent_dropped coheres id

theorem steady_of_same (service : after.service = flow.service) : Steady flow after :=
  ⟨fun _ => by rw [service], fun name role found _ => ⟨role, by rwa [service], rfl⟩⟩

theorem steady_setRole (name : String) (change : Role → Role)
    (roles : after.service.roles = (flow.setRole name change).service.roles)
    (service : flow.service.state.calm = false → after.service.state = flow.service.state)
    (own : ∀ role, flow.service.roles.lookup name = some role → role.state.calm = false → (change role).state = role.state) :
    Steady flow after := by
  refine ⟨service, fun other role found restless => ?_⟩
  rw [roles]
  by_cases same : other = name
  · subst same
    exact ⟨change role, by rw [lookup_setRole_self, found, Option.map_some], own role found restless⟩
  · exact ⟨role, (lookup_setRole_ne same change).trans found, rfl⟩

theorem steady_watchDogCallback (spares : flow.watchDogSpares event = true) :
    Steady flow (flow.finish (flow.watchDogCallback event)) := by
  unfold watchDogCallback
  split
  · rename_i isWarning
    unfold errorWdCb
    split
    · rename_i present
      obtain ⟨role, found⟩ := exists_of_mem present
      obtain ⟨roleCalm, serviceCalm, -⟩ := calm_of_warning spares isWarning found
      refine steady_setRole event.role _ rfl (fun restless => ?_) fun other isOther restless => ?_
      · rw [serviceCalm] at restless
        cases restless
      · cases Option.some.inj (found.symm.trans isOther)
        rw [roleCalm] at restless
        cases restless
    · exact steady_of_same rfl
  · rename_i isRunning
    unfold runningWdCb
    split
    · exact steady_of_same rfl
    · rename_i role found
      obtain ⟨roleCalm, serviceCalm⟩ := calm_of_running spares isRunning found
      have own : ∀ other, flow.service.roles.lookup event.role = some other → other.state.calm = false →
          RoleState.running = other.state := by
        intro other isOther restless
        cases Option.some.inj (found.symm.trans isOther)
        rw [roleCalm] at restless
        cases restless
      dsimp only
      split
      · rename_i allRunning
        refine steady_setRole event.role _ rfl (fun restless => ?_) own
        rw [(serviceCalm (othersIn_of_setRole allRunning)).1] at restless
        cases restless
      · exact steady_setRole event.role _ rfl (fun _ => rfl) own
  · unfold doneWdCb
    split
    · exact steady_of_same rfl
    · rename_i role found
      split
      · refine steady_setRole event.role _ rfl (fun _ => rfl) fun other isOther _ => ?_
        cases Option.some.inj (found.symm.trans isOther)
        exact state_decremented role
      · exact steady_of_same rfl
  · exact steady_of_same rfl

theorem coherent_callback (coheres : flow.Coheres) {wait : Wait} {report : Report} (cancelled : Option Nat)
    (spares : flow.waitSpares wait report = true) :
    (flow.finish (flow.callback api wait report cancelled)).Coherent := by
  have cancelling : (flow.cancelAction cancelled).service = flow.service := cancelAction_service cancelled
  have cancels : (flow.cancelAction cancelled).Coheres :=
    coheres.same cancelling fun isWatched => (cancelAction_watched cancelled).trans isWatched
  have both : ((flow.cancelAction cancelled).reported report).Coheres := cancels.same rfl id
  have reported : (flow.reported report).Coheres := coheres.same rfl id
  unfold callback
  split
  · exact coherent_runningCb coheres fun _ => ⟨_, touches_deployRoles ..⟩
  · rw [finish_of_service cancelling.symm]
    exact coherent_failureCb cancels _ (by simp) _ _
  · rw [finish_of_service cancelling.symm]
    exact coherent_failureCb cancels _ (by simp) _ _
  · rw [finish_of_service cancelling.symm]
    exact coherent_failureCb cancels _ (by simp) _ _
  · rename_i isUndeploy succeeds
    simp only [waitSpares, isUndeploy, succeeds, Bool.or_eq_true, decide_eq_true_eq] at spares
    refine coherent_undeployCb reported fun isRunning present => ?_
    obtain (notRunning | absent) | others := spares
    · exact absurd isRunning notRunning
    · exact absurd present absent
    · exact others
  · rw [finish_of_service cancelling.symm]
    exact coherent_failureCb both _ (by simp) _ _
  · rw [finish_of_service cancelling.symm]
    exact coherent_failureCb both _ (by simp) _ _
  · exact coherent_scaleCb coheres none wait.role
  · rw [finish_of_service cancelling.symm]
    exact coherent_failureCb cancels _ (by simp) _ _
  · exact coherent_scaleCb reported (some report) wait.role
  · rw [finish_of_service cancelling.symm]
    exact coherent_failureCb both _ (by simp) _ _
  · rename_i isAdd succeeds
    simp only [waitSpares, isAdd, succeeds, Bool.or_eq_true, decide_eq_true_eq] at spares
    exact coherent_addCb coheres fun present => spares.resolve_left (not_not.2 present)
  · rename_i isRemove succeeds
    simp only [waitSpares, isRemove, succeeds, Bool.or_eq_true] at spares
    exact coherent_removeCb spares
  · rename_i isCooldown
    simp only [waitSpares, isCooldown, Bool.or_eq_true, decide_eq_true_eq] at spares
    exact coherent_cooldownCb coheres fun present => spares.resolve_left (not_not.2 present)
  · exact coherent_deployAction coheres
  · exact fun _ => coheres_of_busy (by simp [finish, setState]) (by simp [finish, setState])
  · intro notDeleted
    cases notDeleted
  · exact fun _ => coheres_of_busy (by simp [finish, setState]) (by simp [finish, setState])
  · rename_i isHold
    simp only [waitSpares, isHold, Bool.or_eq_true, decide_eq_true_eq] at spares
    refine coherent_holdCb coheres fun isRunning present => ?_
    obtain (notRunning | absent) | others := spares
    · exact absurd isRunning notRunning
    · exact absurd present absent
    · exact others
  · exact coherent_runningCb coheres fun _ => ⟨_, touches_releaseRoles ..⟩

theorem coherent_act {work : Flow → Flow × Ending} (coherent : flow.Coherent)
    (kept : flow.deleted = false → flow.Coheres → (flow.finish (work flow)).Coherent) : (flow.act work).Coherent := by
  unfold act
  split
  · exact coherent
  · rename_i notDeleted
    rw [Bool.not_eq_true] at notDeleted
    exact kept notDeleted (coherent notDeleted)

theorem Coherent.same (coherent : flow.Coherent) (service : after.service = flow.service)
    (watched : after.watched = flow.watched) (deleted : after.deleted = flow.deleted) : after.Coherent := by
  intro notDeleted
  rw [deleted] at notDeleted
  exact (coherent notDeleted).same service fun isWatched => watched.trans isWatched

theorem coherent_step {event : Event} (coherent : flow.Coherent) (spares : event.spares flow = true)
    (stepped : flow.step event = some after) : after.Coherent := by
  cases event with
  | deployNets api =>
    cases stepped
    refine coherent_act coherent fun _ coheres => ?_
    unfold deployNetsAction
    split
    · exact fun _ => coheres_of_busy (by simp [finish, setState]) (by simp [finish, setState])
    · exact fun _ => coheres_of_busy (by simp [finish, setState, trigger]) (by simp [finish, setState, trigger])
  | deploy api =>
    cases stepped
    exact coherent_act coherent fun _ coheres => coherent_deployAction coheres
  | undeploy api =>
    cases stepped
    exact coherent_act coherent fun _ coheres => coherent_undeployAction coheres false
  | scale name cardinality force api =>
    cases stepped
    refine coherent_act coherent fun notDeleted coheres => coherent_scaleAction coheres ?_
    simpa only [Event.spares, notDeleted, Bool.false_or, Bool.or_eq_true, decide_eq_true_eq] using spares
  | recover delete cancelled api =>
    cases stepped
    have cancels : Coherent (flow.cancelAction cancelled) :=
      coherent.same (cancelAction_service _) (cancelAction_watched _) (cancelAction_deleted _)
    refine coherent_act cancels fun notDeleted coheres => ?_
    rw [cancelAction_deleted] at notDeleted
    cases delete with
    | true => exact coherent_undeployAction coheres true
    | false =>
      refine coherent_recoverAction coheres ?_
      rw [cancelAction_service, cancelAction_watched]
      simpa only [Event.spares, notDeleted, Bool.false_or, Bool.or_eq_true, decide_eq_true_eq] using spares
  | release api =>
    cases stepped
    exact coherent_act coherent fun _ coheres => coherent_releaseAction coheres
  | addRole name role api =>
    cases stepped
    refine coherent_act coherent fun notDeleted coheres => coherent_addRoleAction coheres ?_
    intro isRunning absent filled isVm more
    simpa [Event.spares, notDeleted, isRunning, absent, filled, isVm, not_le.2 more] using spares
  | removeRole name api =>
    cases stepped
    exact coherent_act coherent fun _ coheres => coherent_removeRoleAction coheres name
  | callback index report cancelled api =>
    simp only [step] at stepped
    split at stepped
    · cases stepped
    · rename_i wait found
      split at stepped
      · cases stepped
        refine coherent_act (coherent.same rfl rfl rfl) fun notDeleted coheres => ?_
        rw [Event.spares, show flow.deleted = false from notDeleted, Bool.false_or] at spares
        simp only [found, Option.all_some] at spares
        exact coherent_callback coheres cancelled spares
      · cases stepped
  | followup index api =>
    simp only [step] at stepped
    split at stepped
    · cases stepped
    · rename_i followup _
      cases stepped
      refine coherent_act (coherent.same rfl rfl rfl) fun _ coheres => ?_
      cases followup with
      | undeploy => exact coherent_undeployAction coheres false
      | undeployNets =>
        exact fun _ => coheres_of_busy (by simp [finish, setState, trigger, undeployNetsAction])
          (by simp [finish, setState, trigger, undeployNetsAction])
  | notice event =>
    simp only [step] at stepped
    split at stepped
    · cases stepped
      unfold checkRoleState
      split
      · exact coherent
      · exact coherent.same rfl rfl rfl
      · exact coherent.same rfl rfl rfl
      · exact coherent.same rfl rfl rfl
    · cases stepped
  | watchDog index =>
    simp only [step] at stepped
    split at stepped
    · cases stepped
    · rename_i event found
      cases stepped
      refine coherent_act (coherent.same rfl rfl rfl) fun notDeleted coheres => ?_
      rw [Event.spares, show flow.deleted = false from notDeleted, Bool.false_or] at spares
      simp only [found, Option.all_some] at spares
      exact coherent_watchDogCallback coheres spares

/-- In every run that spares the watchdog, a running service has running roles and is watched, and
no callback of the watchdog takes a service or a role out of a transient or failed state. -/
theorem watchdog_coherence (reached : system.Reachable (fun flow event => event.spares flow = true) flow) :
    flow.Coherent ∧ ∀ index after, Event.spares flow (.watchDog index) = true →
      flow.step (.watchDog index) = some after → Steady flow after := by
  constructor
  · refine reached.invariant ?_ ?_
    · intro start isAllocated _
      obtain ⟨isPending, -⟩ := isAllocated
      exact coheres_of_busy (by rw [isPending]; simp) (by rw [isPending]; simp)
    · exact fun before event after coherent spares stepped => coherent_step coherent spares stepped
  · intro index after spares stepped
    simp only [step] at stepped
    split at stepped
    · cases stepped
    · rename_i event found
      cases stepped
      unfold act
      split
      · exact steady_of_same rfl
      · rename_i notDeleted
        rw [Bool.not_eq_true] at notDeleted
        rw [Event.spares, show flow.deleted = false from notDeleted, Bool.false_or] at spares
        simp only [found, Option.all_some] at spares
        have steady : Steady { flow with watchDog := flow.watchDog.eraseIdx index } _ := steady_watchDogCallback spares
        exact ⟨steady.service, steady.roles⟩

/-- A service of one VM, whose watchdog has seen nothing yet -/
def single : Flow where
  service := { straight := true, roles := Map.insertLast "web" { cardinality := 1 } ∅ }

theorem allocated_single : single.Allocated := by
  refine ⟨rfl, fun name role found => ?_, rfl, rfl, rfl, rfl, rfl, rfl, rfl⟩
  rw [single, Map.lookup_insertLast (by decide)] at found
  split at found
  · cases found
    exact ⟨rfl, rfl, rfl⟩
  · cases found

def singleEvents : List Event := [.deployNets {}, .callback 0 {} none {}, .callback 0 { stopped := [0] } none {}]

def watching (flow : Flow) : ServiceState × Bool × Bool := (flow.service.state, flow.watched, flow.deleted)

/-- The service is scaled to the number of VMs that it has, and is no longer watched. -/
theorem watchdog_coherence_forgotten : ¬∀ flow, system.Reachable System.anyStep flow → flow.Coherent := by
  intro always
  have ran : (system.exec System.anyStep single (singleEvents ++ [.scale "web" 1 false {}])).map watching =
      some (.running, false, false) := by
    decide
  obtain ⟨flow, isRun, isSeen⟩ := Option.map_eq_some_iff.mp ran
  simp only [watching, Prod.mk.injEq] at isSeen
  obtain ⟨isRunning, notWatched, notDeleted⟩ := isSeen
  have coheres := always flow (System.reachable_of_exec allocated_single isRun) notDeleted
  rw [coheres.watched (.inl isRunning)] at notWatched
  cases notWatched

/-- The service is scaled up, cools down and is watched again. -/
theorem watchdog_coherence_scaled : ∃ flow, system.Reachable (fun flow event => event.spares flow = true) flow ∧
      flow.service.state = .running ∧ flow.watched = true ∧ flow.service.allRolesRunning = true := by
  have ran : (system.exec (fun flow event => event.spares flow = true) single (singleEvents ++
      [.scale "web" 2 false {}, .callback 0 { stopped := [1] } none {}, .callback 0 {} none {}])).map watching =
      some (.running, true, false) := by
    decide
  obtain ⟨flow, isRun, isSeen⟩ := Option.map_eq_some_iff.mp ran
  simp only [watching, Prod.mk.injEq] at isSeen
  obtain ⟨isRunning, isWatched, notDeleted⟩ := isSeen
  have reached := System.reachable_of_exec allocated_single isRun
  exact ⟨flow, reached, isRunning, isWatched, ((watchdog_coherence reached).1 notDeleted).running isRunning⟩

end Flow

end OpenNebula.OneFlow
