import OpenNebula.OneFlow.VmLoops

namespace OpenNebula.OneFlow

open Library

/-! # The VMs in the actions of a service

An action leaves a service that accounts for its VMs, or one that is deleted and has none.
-/

namespace Flow

variable {api : Api} {flow : Flow}

structure Ended (flow : Flow) : Prop where
  deleted : flow.deleted = true
  settled : ∀ vm < flow.cloud.instantiated, flow.cloud.Settled vm
  states : ∀ name role, flow.service.roles.lookup name = some role →
    role.state ≠ .failedUndeploying ∧ (role.state = .undeploying → .roleDone name [] ∈ flow.history)
  complete : ∀ deed ∈ flow.history, deed.Complete

section

variable (flow : Flow)

/-- No VM is lost. -/
def Kept : Prop := flow.Accounted ∨ flow.Ended

def readyToEnd (role : Role) : Bool := role.state = .done || (!role.state.shutDown && role.nodes.isEmpty)

def allWhole (names : List String) : Bool :=
  names.all fun name => (flow.service.roles.lookup name).all Role.whole

def undeploySpares : Bool :=
  (flow.service.rolesShutdown ≠ [] || flow.service.roles.entries.all fun row => readyToEnd row.2) &&
    flow.allWhole flow.service.rolesShutdown

def recoverSpares (api : Api) : Bool :=
  (!flow.service.state.canRecoverUndeploy || flow.service.roles.entries.all fun row =>
      !flow.service.canRecoverUndeploy row.1 row.2 || (row.2.whole && row.2.unrecovered api)) &&
    (!flow.service.state.canRecoverScale || flow.service.roles.entries.all fun row =>
      !row.2.canRecoverScale || row.2.scaleWay ≠ some .down || row.2.unrecovered api)

def undeployed (name : String) (left : List Nat) : Flow :=
  flow.setRole name fun role => { role with state := .done, nodes := left }

def endSpares (wait : Wait) (report : Report) : Bool :=
  match wait.kind, report.success with
  | .undeploy, true =>
    (flow.service.roles.lookup wait.role).all fun role =>
      (role.nodes.all fun vm => vm ∈ wait.nodes && vm ∉ report.failure) &&
        (!flow.service.straight || (flow.undeployed wait.role (report.left role.nodes)).allWhole
            (flow.undeployed wait.role (report.left role.nodes)).service.rolesShutdown)
  | .undeployNets, true =>
    flow.service.roles.entries.all fun row => row.2.state = .done || row.2.state = .undeploying
  | _, _ => true

end

theorem whole_of_allWhole {names : List String} (all : flow.allWhole names = true) : flow.Whole names := by
  intro name member role found
  have isWhole := List.all_eq_true.1 all name member
  rwa [found, Option.all_some] at isWhole

theorem all_entries (holds : String → Role → Bool)
    (all : (flow.service.roles.entries.all fun row => holds row.1 row.2) = true) {name : String} {role : Role}
    (found : flow.service.roles.lookup name = some role) : holds name role = true :=
  List.all_eq_true.1 all ⟨name, role⟩ (Map.mem_entries_iff.2 found)

section

variable (accounted : flow.Accounted)
include accounted

theorem accounted_dropped : (flow.finish (flow, .dropped)).Accounted := accounted

theorem Accounted.watch {after : Flow} (service : after.service = flow.service)
    (deleted : after.deleted = flow.deleted) (waits : after.waits = flow.waits)
    (followups : after.followups = flow.followups) (cloud : after.cloud = flow.cloud)
    (history : after.history = flow.history) : after.Accounted := by
  refine accounted.same (by rw [service]) (grows_of_same {} cloud history) ⟨deleted, ?_, ?_, ?_⟩ (by rw [cloud])
  · intro wait member
    rw [waits] at member
    exact .inl member
  · intro due
    rwa [NetsDue, service, followups, waits] at due
  · intro deed member
    rw [history] at member
    exact .inl member

theorem Accounted.addService : (flow.addService api).Accounted :=
  accounted.watch addService_service addService_deleted addService_waits addService_followups addService_cloud
    addService_history

theorem Accounted.trigger {wait : Wait} (plain : Plain flow.cloud wait) : (flow.trigger wait).Accounted := by
  refine accounted.same rfl (grows_of_same {} rfl rfl) ⟨rfl, ?_, ?_, fun _ => .inl⟩ rfl
  · intro other member
    obtain before | rfl := mem_trigger member
    · exact .inl before
    · exact .inr ⟨plain.notRemove, plain.settled⟩
  · rintro (isNets | failedNets | followup | ⟨other, member, isNets⟩)
    · exact .inl isNets
    · exact .inr (.inl failedNets)
    · exact .inr (.inr (.inl followup))
    · obtain before | rfl := mem_trigger member
      · exact .inr (.inr (.inr ⟨other, before, isNets⟩))
      · exact absurd isNets plain.notNets

theorem Accounted.triggerNets (due : flow.NetsDue) : (flow.trigger ⟨.undeployNets, "", []⟩).Accounted := by
  refine accounted.same rfl (grows_of_same {} rfl rfl) ⟨rfl, ?_, fun _ => due, fun _ => .inl⟩ rfl
  intro other member
  obtain before | rfl := mem_trigger member
  · exact .inl before
  · exact .inr ⟨by simp, fun _ _ inside => (by cases inside)⟩

theorem kept_undeployAction {delete : Bool}
    (spares : (!flow.service.state.canUndeploy && !delete) = true ∨ flow.undeploySpares = true) :
    Kept (flow.finish (flow.undeployAction api delete)) := by
  unfold undeployAction
  split
  · exact .inl (accounted_dropped accounted)
  · rename_i accepted
    have spared := spares.resolve_left accepted
    simp only [undeploySpares, Bool.and_eq_true, Bool.or_eq_true, decide_eq_true_eq] at spared
    split
    · rename_i none
      have ready : ∀ name role, flow.service.roles.lookup name = some role →
          role.state = .done ∨ role.state.shutDown = false ∧ role.nodes = [] := by
        intro name role found
        have isReady := all_entries (fun _ => readyToEnd) (spared.1.resolve_left (not_not.2 none)) found
        simpa only [readyToEnd, Bool.or_eq_true, decide_eq_true_eq, Bool.and_eq_true, Bool.not_eq_true',
          List.isEmpty_iff] using isReady
      refine .inr ⟨rfl, fun vm earlier => ?_, fun name role found => ?_, ?_⟩
      · obtain settled | ⟨name, role, found, member⟩ := accounted.recorded vm earlier
        · exact settled
        · obtain isDone | ⟨-, empty⟩ := ready name role found
          · rw [(accounted.done name role found isDone).1] at member
            cases member
          · rw [empty] at member
            cases member
      · obtain isDone | ⟨notShutDown, -⟩ := ready name role found
        · rw [isDone]
          simp
        · constructor
          · intro isFailed
            rw [isFailed] at notShutDown
            cases notShutDown
          · intro isUndeploying
            rw [isUndeploying] at notShutDown
            cases notShutDown
      · intro deed member
        obtain rfl | before := List.mem_cons.1 member
        · trivial
        · exact accounted.complete deed before
    · have removed : flow.removeService.Accounted := accounted.watch rfl rfl rfl rfl rfl rfl
      have worked : Worked api flow.removeService (undeployRoles api .undeploying .failedUndeploying .undeploy
          flow.service.rolesShutdown flow.removeService) :=
        worked_undeployRoles (by simp) (by simp) nodup_rolesShutdown removed fun _ => whole_of_allWhole spared.2
      exact .inl (accounted_settle (worked.after (grows_of_same api rfl rfl) rfl fun _ => rfl) accounted (by simp) (by simp))

end

theorem accounted_deployAction (sound : api.Sound) (accounted : flow.Accounted) :
    (flow.finish (flow.deployAction api)).Accounted := by
  unfold deployAction
  split
  · exact accounted.setState (by simp)
  · split
    · split
      · exact (accounted.setState (by simp)).addService
      · exact accounted_dropped accounted
    · refine accounted_settle (worked_deployRoles sound (by simp) (by simp [WaitKind.ends]) _ accounted) accounted ?_
        (by simp)
      split
      · simp
      · simp

theorem tidy_of_fewer {after : Flow} (alive : after.deleted = flow.deleted)
    (state : after.service.state = flow.service.state ∨
      after.service.state ≠ .undeployingNets ∧ after.service.state ≠ .failedUndeployingNets)
    (followups : ∀ followup ∈ after.followups, followup ∈ flow.followups ∨ followup ≠ .undeployNets)
    (waits : ∀ wait ∈ after.waits, wait ∈ flow.waits) (history : after.history = flow.history) : Tidy flow after where
  alive := alive
  waits wait member := .inl (waits wait member)
  nets := by
    rintro (isNets | failedNets | due | ⟨wait, member, isNets⟩)
    · obtain same | other := state
      · exact .inl (same.symm.trans isNets)
      · exact absurd isNets other.1
    · obtain same | other := state
      · exact .inr (.inl (same.symm.trans failedNets))
      · exact absurd failedNets other.2
    · exact .inr (.inr (.inl ((followups _ due).resolve_right (by simp))))
    · exact .inr (.inr (.inr ⟨wait, waits wait member, isNets⟩))
  complete deed member := by
    rw [history] at member
    exact .inl member

theorem accounted_scaleAction (sound : api.Sound) (accounted : flow.Accounted) (name : String) (cardinality : Int)
    (force : Bool) : (flow.finish (flow.scaleAction api name cardinality force)).Accounted := by
  have removed : flow.removeService.Accounted := accounted.watch rfl rfl rfl rfl rfl rfl
  unfold scaleAction
  split
  · exact accounted_dropped accounted
  · dsimp only
    split
    · exact accounted.watch rfl rfl rfl rfl rfl rfl
    · rename_i role found
      split
      · exact removed.addService.watch (by rw [addService_service]; rfl) rfl rfl rfl rfl rfl
      · rename_i updated isUpdated
        obtain rfl := update_vm isUpdated
        have scaled : ∀ way, (flow.removeService.setRole name fun _ =>
            { role with cardinality, scaleWay := some way }).Accounted := by
          intro way
          refine removed.change rfl (grows_of_same {} rfl rfl)
            (tidy_of_fewer rfl (.inl rfl) (fun _ => .inl) (fun _ => id) rfl) rfl ?_ ?_ ?_ ?_
          · intro other isOther
            cases Option.some.inj (found.symm.trans isOther)
            rfl
          · intro other isOther vm member
            cases Option.some.inj (found.symm.trans isOther)
            exact .inl member
          · intro other isOther vm member
            cases Option.some.inj (found.symm.trans isOther)
            exact member
          · intro other isOther
            cases Option.some.inj (found.symm.trans isOther)
            exact .inl rfl
        have after : ∀ way result, Worked api (flow.removeService.setRole name fun _ =>
            { role with cardinality, scaleWay := some way }) result → Worked api flow result := by
          intro way result worked
          refine worked.after (grows_of_same api rfl rfl) rfl fun other => ?_
          rw [lookup_setRole, Option.isSome_map]
          rfl
        split
        · exact accounted_settle
            (after .up _ (worked_deployRoles sound (by simp) (by simp [WaitKind.ends]) _ (scaled .up))) accounted
            (by simp) (by simp)
        · split
          · exact accounted_settle
              (after .down _ (worked_undeployRoles (by simp) (by simp) (List.nodup_singleton name) (scaled .down)
                (by simp))) accounted (by simp) (by simp)
          · exact accounted.watch rfl rfl rfl rfl rfl rfl

theorem accounted_recoverAction (sound : api.Sound) (accounted : flow.Accounted)
    (spares : flow.recoverSpares api = true) : (flow.finish (flow.recoverAction api)).Accounted := by
  simp only [recoverSpares, Bool.and_eq_true, Bool.or_eq_true, Bool.not_eq_true'] at spares
  unfold recoverAction
  split
  · obtain ⟨kept, grows⟩ := accounted_recoverDeploy sound accounted
    exact accounted_written ⟨kept, grows, (touches_recoverDeploy flow).state, (touches_recoverDeploy flow).inside,
      raised_recoverDeploy sound⟩ accounted
  · split
    · rename_i canRecover
      have all := spares.1.resolve_left (by rw [canRecover]; simp)
      have recovers : flow.Recovers api := by
        intro name role found canRole
        have spared := List.all_eq_true.1 all ⟨name, role⟩ (Map.mem_entries_iff.2 found)
        simpa [canRole] using spared
      obtain ⟨kept, grows⟩ := accounted_recoverUndeploy accounted recovers
      exact accounted_written ⟨kept, grows, (touches_recoverUndeploy flow).state, (touches_recoverUndeploy flow).inside,
        fun isRaised => (outcome_recoverUndeploy isRaised).elim⟩ accounted
    · split
      · rename_i canRecover
        have all := spares.2.resolve_left (by rw [canRecover]; simp)
        have scales : flow.ScalesDown api := by
          intro name role found canRole isDown
          have spared := List.all_eq_true.1 all ⟨name, role⟩ (Map.mem_entries_iff.2 found)
          simpa [canRole, isDown] using spared
        obtain ⟨kept, grows⟩ := accounted_recoverScale sound accounted scales
        exact accounted_written ⟨kept, grows, (touches_recoverScale flow).state, (touches_recoverScale flow).inside,
          raised_recoverScale sound⟩ accounted
      · split
        · exact accounted.trigger (plain_deploy (by simp [WaitKind.ends]) "" [])
        · split
          · rename_i isNets
            refine accounted.triggerNets ?_
            simp only [ServiceState.canRecoverUndeployNets, List.mem_cons, List.not_mem_nil, or_false,
              decide_eq_true_eq] at isNets
            obtain isNets | failedNets := isNets
            · exact .inl isNets
            · exact .inr (.inl failedNets)
          · split
            · refine accounted.relabel (fun _ role => { role with state := .running }) (fun name => ?_)
                (grows_of_same {} rfl rfl) (tidy_of_fewer rfl (.inr ⟨by simp [finish], by simp [finish]⟩)
                  (fun _ => .inl) (fun _ => id) rfl) rfl ?_ ?_ ?_ ?_
              · exact Map.lookup_modify ..
              · exact fun _ _ _ => rfl
              · exact fun _ _ _ _ => .inl
              · exact fun _ _ _ _ => id
              · exact fun _ _ _ => .inr ⟨by simp, by simp⟩
            · exact accounted_dropped accounted

section

variable (accounted : flow.Accounted)
include accounted

theorem accounted_releaseAction : (flow.finish (flow.releaseAction api)).Accounted := by
  unfold releaseAction
  split
  · exact accounted_dropped accounted
  · exact accounted_settle (worked_releaseRoles (by simp) (by simp [WaitKind.ends]) _ accounted) accounted (by simp)
      (by simp)

theorem Accounted.setRoleState (name : String) {state : RoleState}
    (plain : state ≠ .undeploying ∧ state ≠ .done) : (flow.setRoleState name state).Accounted :=
  accounted.change rfl (grows_of_same {} rfl rfl) (tidy_of_fewer rfl (.inl rfl) (fun _ => .inl) (fun _ => id) rfl) rfl
    (fun _ _ => rfl) (fun _ _ _ => .inl) (fun _ _ _ => id) fun _ _ => .inr plain

theorem Accounted.followUp (due : Bool) : (flow.followUp due .undeploy).Accounted := by
  refine accounted.same rfl (grows_of_same {} rfl rfl) (tidy_of_fewer rfl (.inl rfl) ?_ (fun _ => id) rfl) rfl
  intro followup member
  obtain before | new := List.mem_append.1 member
  · exact .inl before
  · split at new
    · exact .inr (by simp [List.mem_singleton.1 new])
    · cases new

theorem accounted_runningCb {next : Flow → Outcome × Flow}
    (worked : ∀ flow : Flow, flow.Accounted → Worked api flow (next flow)) (name : String) :
    (flow.finish (flow.runningCb api next name)).Accounted := by
  have running : (flow.setRoleState name .running).Accounted := accounted.setRoleState name (by simp)
  unfold runningCb
  split
  · exact accounted_dropped accounted
  · dsimp only
    split
    · exact ((running.setState (by simp)).addService).followUp _
    · split
      · have moved : Worked api flow (next (flow.setRoleState name .running)) :=
          (worked _ running).after (grows_of_same api rfl rfl) rfl (touches_setRole name _).inside
        have kept := accounted_written moved accounted
        split
        · rename_i isWritten
          rw [isWritten] at kept
          exact kept.followUp _
        · exact kept
      · exact running.followUp _

end

end Flow

end OpenNebula.OneFlow
