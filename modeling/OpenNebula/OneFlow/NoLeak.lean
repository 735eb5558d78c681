import OpenNebula.OneFlow.VmActions

namespace OpenNebula.OneFlow

open Library

/-! # The VMs of a service that is deleted

The callbacks of the driver and of the watchdog keep the account, and no VM is left when the document goes.
-/

namespace Flow

variable {api : Api} {flow : Flow}

theorem mem_left {report : Report} {nodes : List Nat} {vm : Nat} (member : vm ∈ nodes)
    (settled : ∀ vm ∈ report.done ++ report.stopped, flow.cloud.Settled vm) :
    vm ∈ report.left nodes ∨ flow.cloud.Settled vm := by
  by_cases reported : vm ∈ report.done ++ report.stopped
  · exact .inr (settled vm reported)
  · exact .inl (List.mem_filter.2 ⟨member, decide_eq_true (.inr reported)⟩)

def Reports (flow : Flow) (report : Option Report) : Prop :=
  ∀ found, report = some found → ∀ vm ∈ found.done ++ found.stopped, flow.cloud.Settled vm

theorem Reports.kept {report : Option Report} (reports : flow.Reports report) {nodes : List Nat} {vm : Nat}
    (member : vm ∈ nodes) : vm ∈ (report.map fun found => found.left nodes).getD nodes ∨ flow.cloud.Settled vm := by
  cases report with
  | none => exact .inl member
  | some found => exact mem_left member (reports found rfl)

theorem fewer_of_report (report : Option Report) {nodes : List Nat} {vm : Nat}
    (member : vm ∈ (report.map fun found => found.left nodes).getD nodes) : vm ∈ nodes := by
  cases report with
  | none => exact member
  | some found => exact List.mem_of_mem_filter member

section

variable (accounted : flow.Accounted)
include accounted

theorem accounted_failureCb {state : ServiceState} {roleState : RoleState}
    (plain : state ≠ .undeployingNets ∧ state ≠ .failedUndeployingNets)
    (plainRole : roleState ≠ .undeploying ∧ roleState ≠ .done) {report : Option Report}
    (reports : flow.Reports report) (name : String) :
    (flow.finish (flow.failureCb state roleState report name)).Accounted := by
  unfold failureCb
  split
  · exact accounted.change rfl (grows_of_same {} rfl rfl)
      (tidy_of_fewer rfl (.inr plain) (fun _ => .inl) (fun _ => id) rfl) rfl (fun _ _ => rfl)
      (fun _ _ _ => reports.kept) (fun _ _ _ => fewer_of_report report) fun _ _ => .inr plainRole
  · exact accounted_dropped accounted

theorem accounted_scaleCb {report : Option Report} (reports : flow.Reports report)
    (name : String) : (flow.finish (flow.scaleCb report name)).Accounted := by
  unfold scaleCb
  split
  · refine Accounted.trigger (Accounted.setState ?_ (by simp)) (plain_deploy (by simp [WaitKind.ends]) name [])
    exact accounted.change rfl (grows_of_same {} rfl rfl) (tidy_of_fewer rfl (.inl rfl) (fun _ => .inl) (fun _ => id) rfl)
      rfl (fun _ _ => rfl) (fun _ _ _ => reports.kept) (fun _ _ _ => fewer_of_report report)
      fun _ _ => .inr ⟨by simp, by simp⟩
  · exact accounted_dropped accounted

theorem accounted_cooldownCb (name : String) :
    (flow.finish (flow.cooldownCb api name)).Accounted := by
  unfold cooldownCb
  split
  · exact accounted_dropped accounted
  · exact (((accounted.setRoleState name (by simp)).setState (by simp)).addService).followUp _

theorem accounted_addCb (name : String) :
    (flow.finish (flow.addCb api name)).Accounted := by
  have running : ((flow.setRoleState name .running).setState .running).Accounted :=
    (accounted.setRoleState name (by simp)).setState (by simp)
  unfold addCb
  split
  · dsimp only
    split
    · exact running.addService
    · exact running
  · exact accounted_dropped accounted

end

theorem accounted_holdCb (sound : api.Sound) (accounted : flow.Accounted) (name : String) :
    (flow.finish (flow.holdCb api name)).Accounted := by
  have held : (flow.setRoleState name .hold).Accounted := accounted.setRoleState name (by simp)
  unfold holdCb
  split
  · dsimp only
    split
    · exact held.setState (by simp)
    · split
      · have worked : Worked api (flow.setRoleState name .hold)
            (deployRoles api .deploying .failedDeploying .deploy (flow.setRoleState name .hold).service.rolesHold
              (flow.setRoleState name .hold)) :=
          worked_deployRoles sound (by simp) (by simp [WaitKind.ends]) _ held
        exact accounted_written
          (worked.after (grows_of_same api rfl rfl) rfl (touches_setRole name _).inside) accounted
      · exact held
  · exact accounted_dropped accounted

section

variable (accounted : flow.Accounted)
include accounted

theorem accounted_watchDogCallback (event : WatchDogEvent) :
    (flow.finish (flow.watchDogCallback event)).Accounted := by
  unfold watchDogCallback
  split
  · unfold errorWdCb
    split
    · exact (accounted.setRoleState event.role (by simp)).setState (by simp)
    · exact accounted_dropped accounted
  · unfold runningWdCb
    split
    · exact accounted_dropped accounted
    · have running : (flow.setRoleState event.role .running).Accounted := accounted.setRoleState event.role (by simp)
      dsimp only
      split
      · exact (running.setState (by simp)).followUp _
      · exact running.followUp _
  · unfold doneWdCb
    split
    · exact accounted_dropped accounted
    · rename_i role found
      split
      · obtain ⟨cardinality, isUpdated⟩ := decremented_eq role
        dsimp only
        rw [isUpdated]
        refine Accounted.followUp ?_ _
        refine accounted.change rfl (grows_of_gone {} [event.node] rfl rfl)
          (tidy_of_fewer rfl (.inl rfl) (fun _ => .inl) (fun _ => id) rfl) rfl ?_ ?_ ?_ ?_
        · intro other isOther
          cases Option.some.inj (found.symm.trans isOther)
          rfl
        · intro other isOther vm member
          cases Option.some.inj (found.symm.trans isOther)
          by_cases same : vm = event.node
          · exact .inr (.inr (List.mem_cons.2 (.inl same)))
          · exact .inl (List.mem_filter.2 ⟨member, decide_eq_true same⟩)
        · intro other isOther vm member
          cases Option.some.inj (found.symm.trans isOther)
          exact List.mem_of_mem_filter member
        · intro other isOther
          cases Option.some.inj (found.symm.trans isOther)
          exact .inl rfl
      · exact accounted_dropped accounted
  · exact accounted_dropped accounted

def AllReported (flow : Flow) : Prop :=
  ∀ name role, flow.service.roles.lookup name = some role → .roleDone name [] ∈ flow.history

theorem Accounted.toNets {after : Flow} (reported : flow.AllReported)
    (roles : after.service.roles = flow.service.roles) (deleted : after.deleted = flow.deleted)
    (cloud : after.cloud = flow.cloud) (history : after.history = flow.history)
    (waits : ∀ wait ∈ after.waits, wait ∈ flow.waits ∨ wait = ⟨.undeployNets, "", []⟩) : after.Accounted where
  alive := deleted.trans accounted.alive
  kinds := by
    rw [roles]
    exact accounted.kinds
  recorded := by
    rw [roles, cloud]
    exact accounted.recorded
  undeploying := by
    rw [roles, cloud]
    exact accounted.undeploying
  done := by
    rw [roles, history]
    exact accounted.done
  waits wait member := by
    rw [cloud]
    obtain before | rfl := waits wait member
    · exact accounted.waits wait before
    · exact ⟨by simp, fun _ vm inside => (by cases inside)⟩
  nets _ name role found := by
    rw [roles] at found
    rw [history]
    exact reported name role found
  complete := by
    rw [history]
    exact accounted.complete

theorem accounted_undeployNetsAction (reported : flow.AllReported) :
    (flow.finish flow.undeployNetsAction).Accounted :=
  accounted.toNets reported rfl rfl rfl rfl fun _ member => mem_trigger member

theorem kept_undeployNetsCb (reported : flow.AllReported)
    (spares : ∀ name role, flow.service.roles.lookup name = some role → role.state = .done ∨ role.state = .undeploying) :
    Kept (flow.finish flow.undeployNetsCb) := by
  refine .inr ⟨rfl, fun vm earlier => ?_, fun name role found => ⟨?_, fun _ => reported name role found⟩,
    accounted.complete⟩
  · obtain settled | ⟨name, role, found, member⟩ := accounted.recorded vm earlier
    · exact settled
    · obtain isDone | isUndeploying := spares name role found
      · rw [(accounted.done name role found isDone).1] at member
        cases member
      · exact accounted.undeploying name role found isUndeploying vm member
  · obtain isDone | isUndeploying := spares name role found
    · rw [isDone]
      simp
    · rw [isUndeploying]
      simp

theorem accounted_undeployed {name : String} {role : Role} {report : Report}
    (found : flow.service.roles.lookup name = some role)
    (settled : ∀ vm ∈ report.done ++ report.stopped, flow.cloud.Settled vm)
    (all : ∀ vm ∈ role.nodes, vm ∈ report.done ++ report.stopped ∧ vm ∉ report.failure) :
    report.left role.nodes = [] ∧ ((flow.undeployed name []).note (.roleDone name [])).Accounted := by
  constructor
  · refine List.filter_eq_nil_iff.2 fun vm member left => ?_
    obtain ⟨reported, notFailed⟩ := all vm member
    exact (of_decide_eq_true left).elim notFailed fun notReported => notReported reported
  · have grows : Grows {} flow ((flow.undeployed name []).note (.roleDone name [])) :=
      ⟨fun _ => id, fun _ => List.mem_cons_of_mem _, fun _ => rfl⟩
    have roles : ∀ other, ((flow.undeployed name []).note (.roleDone name [])).service.roles.lookup other =
        if other = name then some { role with state := .done, nodes := [] } else flow.service.roles.lookup other := by
      intro other
      refine (lookup_setRole name other _).trans ?_
      split
      · rename_i same
        rw [same, found, Option.map_some]
      · simp
    exact accounted.turn found roles grows
      (tidy_of_plain rfl rfl rfl (fun _ => .inl) rfl (show Deed.Complete (.roleDone name []) from rfl)) rfl
      (fun vm member => .inr (settled vm (all vm member).1)) (fun _ => .inl) (fun isUndeploying => (by cases isUndeploying))
      (fun _ => ⟨rfl, List.mem_cons_self ..⟩)

theorem accounted_undeployCb {name : String} {report : Report}
    (settled : ∀ vm ∈ report.done ++ report.stopped, flow.cloud.Settled vm)
    (all : ∀ role, flow.service.roles.lookup name = some role →
      ∀ vm ∈ role.nodes, vm ∈ report.done ++ report.stopped ∧ vm ∉ report.failure)
    (whole : ∀ role, flow.service.roles.lookup name = some role → flow.service.straight = true →
      (flow.undeployed name (report.left role.nodes)).allWhole
        (flow.undeployed name (report.left role.nodes)).service.rolesShutdown = true) :
    (flow.finish (flow.undeployCb api name report)).Accounted := by
  unfold undeployCb
  split
  · exact accounted_dropped accounted
  · rename_i role found
    obtain ⟨empty, undeployed⟩ := accounted_undeployed accounted found settled (all role found)
    have isWhole := whole role found
    rw [empty] at isWhole
    have touches : Touches [name] flow (flow.undeployed name []) := touches_setRole name _
    have inside := touches.inside
    dsimp only
    rw [empty]
    split
    · rename_i allDone
      have reported : AllReported ((flow.undeployed name []).note (.roleDone name [])) := fun other seen isSeen =>
        (undeployed.done other seen isSeen (Service.allRoles_iff.1 allDone other seen isSeen)).2
      have later : (followUp ((flow.undeployed name []).note (.roleDone name [])) true .undeployNets).Accounted :=
        undeployed.toNets reported rfl rfl rfl rfl fun _ => .inl
      have grows : Grows {} flow (followUp ((flow.undeployed name []).note (.roleDone name [])) true .undeployNets) :=
        ⟨fun _ => id, fun _ => List.mem_cons_of_mem _, fun _ => rfl⟩
      exact accounted.restore later grows rfl inside rfl
    · split
      · rename_i isStraight
        have worked : Worked api ((flow.undeployed name []).note (.roleDone name []))
            (undeployRoles api .undeploying .failedUndeploying .undeploy
              ((flow.undeployed name []).note (.roleDone name [])).service.rolesShutdown
              ((flow.undeployed name []).note (.roleDone name []))) :=
          worked_undeployRoles (by simp) (by simp) nodup_rolesShutdown undeployed
            fun _ => whole_of_allWhole (isWhole isStraight)
        exact accounted_written
          (worked.after ⟨fun _ => id, fun _ => List.mem_cons_of_mem _, fun _ => rfl⟩ rfl inside) accounted
      · exact undeployed

theorem Accounted.fewerWaits {after : Flow} (service : after.service = flow.service)
    (deleted : after.deleted = flow.deleted) (waits : ∀ wait ∈ after.waits, wait ∈ flow.waits)
    (followups : ∀ followup ∈ after.followups, followup ∈ flow.followups) (cloud : after.cloud = flow.cloud)
    (history : after.history = flow.history) : after.Accounted :=
  accounted.same (by rw [service]) (grows_of_same {} cloud history)
    (tidy_of_fewer deleted (.inl (by rw [service])) (fun followup member => .inl (followups followup member)) waits
      history) (by rw [cloud])

theorem Accounted.cancel (cancelled : Option Nat) : (flow.cancelAction cancelled).Accounted := by
  cases cancelled with
  | none => exact accounted
  | some index => exact accounted.fewerWaits rfl rfl (fun _ => List.mem_of_mem_eraseIdx) (fun _ => id) rfl rfl

theorem Accounted.reported (report : Report) : (flow.reported report).Accounted :=
  accounted.same rfl (grows_of_gone {} report.done rfl rfl)
    (tidy_of_fewer rfl (.inl rfl) (fun _ => .inl) (fun _ => id) rfl) rfl

end

theorem reports_reported {wait : Wait} {report : Report} (fits : report.Fits wait.nodes)
    (settled : ∀ vm ∈ wait.nodes, flow.cloud.Settled vm) : Reports (flow.reported report) (some report) := by
  rintro _ ⟨⟩ vm member
  obtain isDone | isStopped := List.mem_append.1 member
  · exact .inr (List.mem_append_left _ isDone)
  · obtain terminated | gone := settled vm (fits.1 vm (List.mem_append_left _ member))
    · exact .inl terminated
    · exact .inr (List.mem_append_right _ gone)

theorem kept_callback (sound : api.Sound) (accounted : flow.Accounted) {wait : Wait} {report : Report}
    (cancelled : Option Nat) (notRemove : wait.kind ≠ .remove)
    (settled : wait.kind.ends = true → ∀ vm ∈ wait.nodes, flow.cloud.Settled vm)
    (reported : wait.kind = .undeployNets → flow.AllReported) (fits : report.Fits wait.nodes)
    (spares : flow.endSpares wait report = true) : Kept (flow.finish (flow.callback api wait report cancelled)) := by
  have cancels : (flow.cancelAction cancelled).Accounted := accounted.cancel cancelled
  have cancelling : (flow.cancelAction cancelled).service = flow.service := cancelAction_service cancelled
  have cancelReported : ((flow.cancelAction cancelled).reported report).service = flow.service := cancelling
  have cancelCloud : (flow.cancelAction cancelled).cloud = flow.cloud := by
    obtain ⟨_, eq⟩ := cancelAction_eq cancelled flow
    rw [eq]
  have none : ∀ flow : Flow, flow.Reports none := fun _ _ isSome => (by cases isSome)
  have fails : wait.kind.ends = true → Reports ((flow.cancelAction cancelled).reported report) (some report) :=
    fun ends => reports_reported fits fun vm member => by
      rw [cancelCloud]
      exact settled ends vm member
  have succeeds : wait.kind.ends = true → Reports (flow.reported report) (some report) :=
    fun ends => reports_reported fits (settled ends)
  unfold callback
  split
  · exact .inl (accounted_runningCb accounted (fun flow accounted =>
      worked_deployRoles sound (by simp) (by simp [WaitKind.ends]) _ accounted) _)
  · rw [finish_of_service cancelling.symm]
    exact .inl (accounted_failureCb cancels (by simp) (by simp) (none _) _)
  · rw [finish_of_service cancelling.symm]
    exact .inl (accounted_failureCb cancels (by simp) (by simp) (none _) _)
  · rw [finish_of_service cancelling.symm]
    exact .inl (accounted_failureCb cancels (by simp) (by simp) (none _) _)
  · rename_i isUndeploy isSuccess
    have spared : ∀ role, flow.service.roles.lookup wait.role = some role →
        (∀ vm ∈ role.nodes, vm ∈ wait.nodes ∧ vm ∉ report.failure) ∧
          (flow.service.straight = true → (flow.undeployed wait.role (report.left role.nodes)).allWhole
            (flow.undeployed wait.role (report.left role.nodes)).service.rolesShutdown = true) := by
      intro role found
      rw [endSpares, isUndeploy, isSuccess] at spares
      simp only [found, Option.all_some, Bool.and_eq_true, List.all_eq_true, decide_eq_true_eq, Bool.or_eq_true,
        Bool.not_eq_true'] at spares
      exact ⟨spares.1, fun isStraight => spares.2.resolve_left (by rw [isStraight]; simp)⟩
    have ended : ∀ vm ∈ report.done ++ report.stopped, (flow.reported report).cloud.Settled vm :=
      succeeds (by rw [isUndeploy]; simp [WaitKind.ends]) report rfl
    refine .inl (accounted_undeployCb (accounted.reported report) ended (fun role found vm member => ?_)
      fun role found => (spared role found).2)
    obtain ⟨waited, notFailed⟩ := (spared role found).1 vm member
    have reported := fits.2 isSuccess vm waited
    exact ⟨(List.mem_append.1 reported).resolve_right notFailed, notFailed⟩
  · rename_i isUndeploy _
    rw [finish_of_service cancelReported.symm]
    exact .inl (accounted_failureCb (cancels.reported report) (by simp) (by simp)
      (fails (by rw [isUndeploy]; simp [WaitKind.ends])) _)
  · rename_i isRemove _
    exact absurd isRemove notRemove
  · exact .inl (accounted_scaleCb accounted (none _) _)
  · rw [finish_of_service cancelling.symm]
    exact .inl (accounted_failureCb cancels (by simp) (by simp) (none _) _)
  · rename_i isDown _
    exact .inl (accounted_scaleCb (accounted.reported report) (succeeds (by rw [isDown]; simp [WaitKind.ends])) _)
  · rename_i isDown _
    rw [finish_of_service cancelReported.symm]
    exact .inl (accounted_failureCb (cancels.reported report) (by simp) (by simp)
      (fails (by rw [isDown]; simp [WaitKind.ends])) _)
  · exact .inl (accounted_addCb accounted _)
  · rename_i isRemove _
    exact absurd isRemove notRemove
  · exact .inl (accounted_cooldownCb accounted _)
  · exact .inl (accounted_deployAction sound accounted)
  · exact .inl (cancels.setState (by simp))
  · rename_i isNets isSuccess
    simp only [endSpares, isNets, isSuccess] at spares
    refine kept_undeployNetsCb accounted (reported isNets) fun name role found => ?_
    have state := all_entries (fun _ role => role.state = .done || role.state = .undeploying) spares found
    simpa only [Bool.or_eq_true, decide_eq_true_eq] using state
  · rename_i isNets _
    have reportedHere : (flow.cancelAction cancelled).AllReported := by
      intro name role found
      obtain ⟨_, eq⟩ := cancelAction_eq cancelled flow
      rw [eq] at found ⊢
      exact reported isNets name role found
    exact .inl (cancels.toNets reportedHere rfl rfl rfl rfl fun _ => .inl)
  · exact .inl (accounted_holdCb sound accounted _)
  · exact .inl (accounted_runningCb accounted (fun flow accounted =>
      worked_releaseRoles (by simp) (by simp [WaitKind.ends]) _ accounted) _)

/-- The events of a service whose roles stay the same -/
def Event.inLife : Event → Bool
  | .addRole .. | .removeRole .. => false
  | _ => true

def Event.losesNone (flow : Flow) (event : Event) : Bool :=
  flow.deleted ||
    match event with
    | .undeploy _ => !flow.service.state.canUndeploy || flow.undeploySpares
    | .recover delete _ api => if delete then flow.undeploySpares else flow.recoverSpares api
    | .followup index _ =>
      flow.followups[index]? ≠ some .undeploy || !flow.service.state.canUndeploy || flow.undeploySpares
    | .callback index report _ _ => (flow.waits[index]?).all fun wait => flow.endSpares wait report
    | _ => true

def Event.Sound : Event → Prop
  | .deploy api | .scale _ _ _ api | .recover _ _ api | .callback _ _ _ api => api.Sound
  | _ => True

theorem Kept.of_ended {after : Flow} (ended : flow.Ended) (deleted : after.deleted = flow.deleted)
    (service : after.service = flow.service) (cloud : after.cloud = flow.cloud)
    (history : after.history = flow.history) : after.Kept := by
  refine .inr ⟨deleted.trans ended.deleted, ?_, ?_, ?_⟩
  · rw [cloud]
    exact ended.settled
  · rw [service, history]
    exact ended.states
  · rw [history]
    exact ended.complete

theorem kept_of_ended {event : Event} {after : Flow} (ended : flow.Ended) (stepped : flow.step event = some after) :
    after.Kept := by
  have deleted := ended.deleted
  cases event with
  | recover delete cancelled api =>
    cases stepped
    obtain ⟨waits, eq⟩ := cancelAction_eq cancelled flow
    rw [act_of_deleted ((cancelAction_deleted cancelled).trans deleted), eq]
    exact .of_ended ended rfl rfl rfl rfl
  | callback index report cancelled api =>
    simp only [step] at stepped
    split at stepped
    · cases stepped
    · split at stepped
      · cases stepped
        rw [act_of_deleted (by exact deleted)]
        exact .of_ended ended rfl rfl rfl rfl
      · cases stepped
  | followup index api =>
    simp only [step] at stepped
    split at stepped
    · cases stepped
    · cases stepped
      rw [act_of_deleted (by exact deleted)]
      exact .of_ended ended rfl rfl rfl rfl
  | notice event =>
    simp only [step] at stepped
    split at stepped
    · cases stepped
      unfold checkRoleState
      split
      · exact .inr ended
      · exact .of_ended ended rfl rfl rfl rfl
      · exact .of_ended ended rfl rfl rfl rfl
      · exact .of_ended ended rfl rfl rfl rfl
    · cases stepped
  | watchDog index =>
    simp only [step] at stepped
    split at stepped
    · cases stepped
    · cases stepped
      rw [act_of_deleted (by exact deleted)]
      exact .of_ended ended rfl rfl rfl rfl
  | _ =>
    cases stepped
    rw [act_of_deleted deleted]
    exact .inr ended

theorem kept_step {event : Event} {after : Flow} (accounted : flow.Accounted) (inLife : event.inLife = true)
    (safe : event.losesNone flow = true) (sound : event.Sound) (stepped : flow.step event = some after) :
    after.Kept := by
  have alive := accounted.alive
  simp only [Event.losesNone, alive, Bool.false_or] at safe
  cases event with
  | deployNets api =>
    cases stepped
    rw [act_of_alive alive]
    unfold deployNetsAction
    split
    · exact .inl (accounted.setState (by simp))
    · exact .inl ((accounted.setState (by simp)).trigger (plain_deploy (by simp [WaitKind.ends]) "" []))
  | deploy api =>
    cases stepped
    rw [act_of_alive alive]
    exact .inl (accounted_deployAction sound accounted)
  | undeploy api =>
    cases stepped
    rw [act_of_alive alive]
    refine kept_undeployAction accounted ?_
    simpa using safe
  | scale name cardinality force api =>
    cases stepped
    rw [act_of_alive alive]
    exact .inl (accounted_scaleAction sound accounted name cardinality force)
  | recover delete cancelled api =>
    cases stepped
    rw [act_of_alive ((cancelAction_deleted cancelled).trans alive)]
    have cancels := accounted.cancel cancelled
    obtain ⟨waits, eq⟩ := cancelAction_eq cancelled flow
    rw [eq] at cancels ⊢
    cases delete with
    | true => exact kept_undeployAction cancels (.inr safe)
    | false => exact .inl (accounted_recoverAction sound cancels safe)
  | release api =>
    cases stepped
    rw [act_of_alive alive]
    exact .inl (accounted_releaseAction accounted)
  | addRole name role api | removeRole name api => cases inLife
  | callback index report cancelled api =>
    simp only [step] at stepped
    split at stepped
    · cases stepped
    · rename_i wait found
      split at stepped
      · rename_i fits
        cases stepped
        rw [act_of_alive (by exact alive)]
        have member := List.mem_of_getElem? found
        have fewer : Accounted { flow with waits := flow.waits.eraseIdx index } :=
          accounted.fewerWaits rfl rfl (fun _ => List.mem_of_mem_eraseIdx) (fun _ => id) rfl rfl
        obtain ⟨notRemove, settled⟩ := accounted.waits wait member
        simp only [found, Option.all_some] at safe
        exact kept_callback sound fewer cancelled notRemove settled
          (fun isNets => accounted.nets (.inr (.inr (.inr ⟨wait, member, isNets⟩)))) fits safe
      · cases stepped
  | followup index api =>
    simp only [step] at stepped
    split at stepped
    · cases stepped
    · rename_i followup found
      cases stepped
      rw [act_of_alive (by exact alive)]
      have fewer : Accounted { flow with followups := flow.followups.eraseIdx index } :=
        accounted.fewerWaits rfl rfl (fun _ => id) (fun _ => List.mem_of_mem_eraseIdx) rfl rfl
      cases followup with
      | undeploy =>
        have spared : (!flow.service.state.canUndeploy && !false) = true ∨ flow.undeploySpares = true := by
          simpa [found] using safe
        exact kept_undeployAction fewer spared
      | undeployNets =>
        have member := List.mem_of_getElem? found
        exact .inl (accounted_undeployNetsAction fewer (accounted.nets (.inr (.inr (.inl member)))))
  | notice event =>
    simp only [step] at stepped
    split at stepped
    · cases stepped
      unfold checkRoleState
      split
      · exact .inl accounted
      · exact .inl (accounted.watch rfl rfl rfl rfl rfl rfl)
      · exact .inl (accounted.watch rfl rfl rfl rfl rfl rfl)
      · exact .inl (accounted.watch rfl rfl rfl rfl rfl rfl)
    · cases stepped
  | watchDog index =>
    simp only [step] at stepped
    split at stepped
    · cases stepped
    · rename_i event found
      cases stepped
      rw [act_of_alive (by exact alive)]
      have fewer : Accounted { flow with watchDog := flow.watchDog.eraseIdx index } :=
        accounted.watch rfl rfl rfl rfl rfl rfl
      exact .inl (accounted_watchDogCallback fewer event)

def vmSystem : System Flow Event where
  initial flow := flow.Allocated ∧ ∀ name role, flow.service.roles.lookup name = some role → role.kind = .vm
  step := step

/-- An event that takes none of the branches that lose a VM -/
def Spared (flow : Flow) (event : Event) : Prop :=
  (event.inLife = true ∧ event.losesNone flow = true) ∧ event.Sound

theorem accounted_initial (initial : vmSystem.initial flow) : flow.Accounted := by
  obtain ⟨⟨isPending, pending, alive, noWaits, noFollowups, -, -, noCloud, noHistory⟩, kinds⟩ := initial
  refine ⟨alive, kinds, ?_, ?_, ?_, ?_, ?_, ?_⟩
  · intro vm earlier
    rw [noCloud] at earlier
    exact absurd earlier (Nat.not_lt_zero vm)
  · intro name role found isUndeploying
    rw [(pending name role found).1] at isUndeploying
    cases isUndeploying
  · intro name role found isDone
    rw [(pending name role found).1] at isDone
    cases isDone
  · intro wait member
    rw [noWaits] at member
    cases member
  · rintro (isNets | failedNets | due | ⟨wait, member, -⟩)
    · rw [isPending] at isNets
      cases isNets
    · rw [isPending] at failedNets
      cases failedNets
    · rw [noFollowups] at due
      cases due
    · rw [noWaits] at member
      cases member
  · intro deed member
    rw [noHistory] at member
    cases member

/-- In every run that takes none of these branches, the VMs of a document that is deleted were asked
to terminate or reported DONE, and its roles were reported undeployed. -/
theorem no_leak (reached : vmSystem.Reachable Spared flow) : (flow.deleted = true →
      (∀ vm < flow.cloud.instantiated, flow.cloud.Settled vm) ∧
        ∀ name role, flow.service.roles.lookup name = some role →
          role.state ≠ .failedUndeploying ∧ (role.state = .undeploying → .roleDone name [] ∈ flow.history)) ∧
      ∀ deed ∈ flow.history, deed.Complete := by
  have kept : flow.Kept := by
    refine reached.invariant (fun start initial => .inl (accounted_initial initial)) ?_
    intro before event next kept spared stepped
    obtain accounted | ended := kept
    · exact kept_step accounted spared.1.1 spared.1.2 spared.2 stepped
    · exact kept_of_ended ended stepped
  obtain accounted | ended := kept
  · refine ⟨fun deleted => ?_, accounted.complete⟩
    rw [accounted.alive] at deleted
    cases deleted
  · exact ⟨fun _ => ⟨ended.settled, ended.states⟩, ended.complete⟩

def webService (cardinality : Int) : Flow where
  service := { straight := true, roles := Map.insertLast "web" { cardinality } ∅ }

theorem initial_webService (cardinality : Int) : vmSystem.initial (webService cardinality) := by
  have only : ∀ name role, (webService cardinality).service.roles.lookup name = some role → role = { cardinality } := by
    intro name role found
    rw [webService, Map.lookup_insertLast (by decide)] at found
    split at found
    · exact (Option.some.inj found).symm
    · cases found
  refine ⟨⟨rfl, fun name role found => ?_, rfl, rfl, rfl, rfl, rfl, rfl, rfl⟩, fun name role found => ?_⟩
  · rw [only name role found]
    exact ⟨rfl, rfl, rfl⟩
  · rw [only name role found]

/-- The second VM cannot be instantiated; the service is deleted, and the first VM stays. -/
theorem no_leak_partial :
    ¬∀ flow, vmSystem.Reachable (fun _ event => event.inLife = true) flow → flow.deleted = true →
      ∀ vm < flow.cloud.instantiated, flow.cloud.Settled vm := by
  intro always
  have ran : (vmSystem.exec (fun _ event => event.inLife = true) (webService 2)
      [.deployNets {}, .callback 0 {} none { instantiate := fun _ vm => vm = 0 }, .recover true none {},
        .callback 0 {} none {}, .followup 0 {}, .callback 0 {} none {}]).map
        (fun flow => (flow.deleted, flow.cloud)) = some (true, { instantiated := 1 }) := by
    decide
  obtain ⟨flow, isRun, isSeen⟩ := Option.map_eq_some_iff.mp ran
  obtain ⟨deleted, isCloud⟩ := Prod.mk.inj isSeen
  have settled := always flow (System.reachable_of_exec (initial_webService 2) isRun) deleted 0 (by rw [isCloud]; decide)
  rw [Cloud.Settled, isCloud] at settled
  simp at settled

/-- A service is deployed, undeployed and deleted. -/
theorem no_leak_undeployed :
    ∃ flow, vmSystem.Reachable Spared flow ∧ flow.deleted = true ∧ flow.cloud.instantiated = 1 ∧
      flow.cloud.Settled 0 := by
  have ran : (vmSystem.exec (fun flow event => event.inLife = true ∧ event.losesNone flow = true) (webService 1)
      [.deployNets {}, .callback 0 {} none {}, .callback 0 { stopped := [0] } none {}, .undeploy {},
        .callback 0 { done := [0] } none {}, .followup 0 {}, .callback 0 {} none {}]).map
        (fun flow => (flow.deleted, flow.cloud.instantiated)) = some (true, 1) := by
    decide
  obtain ⟨flow, isRun, isSeen⟩ := Option.map_eq_some_iff.mp ran
  obtain ⟨deleted, isCreated⟩ := Prod.mk.inj isSeen
  have sound : Api.Sound {} := ⟨.inl fun _ => rfl, fun _ _ _ => rfl⟩
  have reached : vmSystem.Reachable Spared flow :=
    System.reachable_of_exec_and (initial_webService 1) (by simp [Event.Sound, sound]) isRun
  exact ⟨flow, reached, deleted, isCreated, ((no_leak reached).1 deleted).1 0 (by rw [isCreated]; decide)⟩

end Flow

end OpenNebula.OneFlow
