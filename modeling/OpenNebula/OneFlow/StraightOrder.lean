import OpenNebula.OneFlow.Loops

namespace OpenNebula.OneFlow

open Library

/-! # The order of a straight deployment

Roles are deployed and released when their parents are running, and terminated when the roles that
name them as a parent are done.
-/

def Deed.InOrder : Deed → Prop
  | .deploy _ state parents =>
    state ≠ .hold ∧ (state = .pending →
      (∀ parent ∈ parents, parent = none ∨ parent = some .running) ∨ ∀ parent ∈ parents, parent = some .hold)
  | .release _ parents => ∀ parent ∈ parents, parent = some .running
  | .shutdown .undeploy recover name state _ _ children =>
    ∀ child childState, (child, childState) ∈ children →
      childState = .done ∨ recover = true ∧ (child = name ∨ state = .undeploying ∨ state = .failedUndeploying)
  | _ => True

/-- What a straight deployment would promise without exception -/
def Deed.Strict : Deed → Prop
  | .deploy _ state parents =>
    state = .pending → (∀ parent ∈ parents, parent = some .running) ∨ ∀ parent ∈ parents, parent = some .hold
  | .shutdown .undeploy _ _ _ _ _ children => ∀ child ∈ children, child.2 = .done
  | _ => True

def Deed.Leaves (name : String) : Deed → Prop
  | .deploy other state _ => other = name ∧ state = .hold
  | .release other _ => other = name
  | .shutdown _ _ other .. => other = name
  | _ => False

namespace Flow

def Event.deployment : Event → Bool
  | .scale .. | .addRole .. => false
  | _ => true

def Event.Answers (flow : Flow) (name : String) : Event → Prop
  | .callback index .. => ∃ wait, flow.waits[index]? = some wait ∧ wait.role = name
  | .watchDog index => ∃ event, flow.watchDog[index]? = some event ∧ event.role = name
  | .recover .. => flow.service.state = .cooldown
  | _ => False

variable {api : Api} {flow : Flow} {excused : String → Prop}

def Ordered (flow : Flow) : Prop := ∀ deed ∈ flow.history, deed.InOrder

def OrderedIfStraight (flow : Flow) : Prop := flow.service.straight = true → flow.Ordered

def InHold (flow : Flow) (name : String) : Prop :=
  ∃ role, flow.service.roles.lookup name = some role ∧ role.state = .hold

/-- A role leaves HOLD when it is asked to, or with an excuse. -/
def Recorded (excused : String → Prop) (before after : Flow) : Prop :=
  ∃ deeds, after.history = deeds ++ before.history ∧
    ∀ name, before.InHold name → after.InHold name ∨ excused name ∨ ∃ deed ∈ deeds, deed.Leaves name

/-- What the actions do to a straight service -/
structure Keeps (excused : String → Prop) (before after : Flow) : Prop where
  straight : after.service.straight = before.service.straight
  ordered : before.service.straight = true → before.Ordered → after.Ordered
  recorded : Recorded excused before after

variable {before after : Flow} {name : String} {role : Role} {deed : Deed} {names : List String}
  {success error : RoleState}

theorem InHold.of_roles (inHold : before.InHold name) (roles : after.service.roles = before.service.roles) :
    after.InHold name := by
  rwa [InHold, roles]

theorem Recorded.refl (flow : Flow) : Recorded excused flow flow := ⟨[], rfl, fun _ inHold => .inl inHold⟩

theorem Recorded.trans {first second third : Flow} (left : Recorded excused first second)
    (right : Recorded excused second third) : Recorded excused first third := by
  obtain ⟨leftDeeds, leftHistory, leftHolds⟩ := left
  obtain ⟨rightDeeds, rightHistory, rightHolds⟩ := right
  refine ⟨rightDeeds ++ leftDeeds, by rw [rightHistory, leftHistory, List.append_assoc], ?_⟩
  intro name inHold
  obtain still | isExcused | ⟨deed, member, leaves⟩ := leftHolds name inHold
  · obtain stays | isExcused | ⟨deed, member, leaves⟩ := rightHolds name still
    · exact .inl stays
    · exact .inr (.inl isExcused)
    · exact .inr (.inr ⟨deed, List.mem_append_left _ member, leaves⟩)
  · exact .inr (.inl isExcused)
  · exact .inr (.inr ⟨deed, List.mem_append_right _ member, leaves⟩)

theorem Keeps.refl (flow : Flow) : Keeps excused flow flow := ⟨rfl, fun _ ordered => ordered, .refl flow⟩

theorem Keeps.trans {first second third : Flow} (left : Keeps excused first second)
    (right : Keeps excused second third) : Keeps excused first third where
  straight := right.straight.trans left.straight
  ordered straight ordered := right.ordered (left.straight.trans straight) (left.ordered straight ordered)
  recorded := left.recorded.trans right.recorded

theorem keeps_of_history (straight : after.service.straight = before.service.straight)
    (history : after.history = before.history)
    (holds : ∀ name, before.InHold name → after.InHold name ∨ excused name) : Keeps excused before after := by
  refine ⟨straight, fun _ ordered => by rwa [Ordered, history], [], history, fun name inHold => ?_⟩
  obtain still | isExcused := holds name inHold
  · exact .inl still
  · exact .inr (.inl isExcused)

theorem keeps_of_roles (straight : after.service.straight = before.service.straight)
    (history : after.history = before.history) (roles : after.service.roles = before.service.roles) :
    Keeps excused before after :=
  keeps_of_history straight history fun _ inHold => .inl (inHold.of_roles roles)

theorem keeps_setRole {change : Role → Role}
    (leaves : ∀ role, flow.service.roles.lookup name = some role → role.state = .hold →
      (change role).state = .hold ∨ excused name) :
    Keeps excused flow (flow.setRole name change) := by
  refine keeps_of_history rfl rfl fun other ⟨role, found, isHold⟩ => ?_
  by_cases same : other = name
  · subst same
    obtain stays | isExcused := leaves role found isHold
    · exact .inl ⟨change role, by rw [lookup_setRole_self, found, Option.map_some], stays⟩
    · exact .inr isExcused
  · exact .inl ⟨role, by rwa [lookup_setRole_ne same], isHold⟩

theorem recorded_turn (found : flow.service.roles.lookup name = some role)
    (touches : Touches [name] flow after) (history : after.history = deed :: flow.history)
    (leaves : role.state = .hold → deed.Leaves name) : Recorded excused flow after := by
  refine ⟨[deed], history, fun other ⟨own, isOwn, isHold⟩ => ?_⟩
  by_cases same : other = name
  · subst same
    cases Option.some.inj (found.symm.trans isOwn)
    exact .inr (.inr ⟨deed, List.mem_singleton_self _, leaves isHold⟩)
  · exact .inl ⟨own, by rwa [touches.others other (by simpa using same)], isHold⟩

theorem recorded_eachRole {visit : String → Role → Flow → Outcome × Flow}
    (turn : ∀ name role flow, flow.service.roles.lookup name = some role → Recorded excused flow (visit name role flow).2)
    (names : List String) : Recorded excused flow (eachRole visit names flow).2 :=
  eachRole_invariant (Recorded excused flow) (fun name role before held found => held.trans (turn name role before found))
    (.refl flow)

def Ready (own wanted : RoleState) (flow : Flow) (name : String) : Prop :=
  ∃ role, flow.service.roles.lookup name = some role ∧ role.state = own ∧ flow.service.parentsIn wanted role = true

theorem Ready.next {own wanted : RoleState} {before after : Flow} {name visited : String}
    (ready : Ready own wanted before name) (touches : Touches [visited] before after) (apart : name ≠ visited)
    (unwanted : ∀ role, before.service.roles.lookup visited = some role → role.state ≠ wanted) :
    Ready own wanted after name := by
  obtain ⟨role, found, isOwn, parents⟩ := ready
  refine ⟨role, ?_, isOwn, ?_⟩
  · rwa [touches.others name (by simpa using apart)]
  · rw [Service.parentsIn_iff] at parents ⊢
    intro parent isParent
    obtain ⟨other, isOther, isWanted⟩ := parents parent isParent
    have parentApart : parent ≠ visited := by
      intro same
      subst same
      exact unwanted other isOther isWanted
    exact ⟨other, by rwa [touches.others parent (by simpa using parentApart)], isWanted⟩

theorem parentStates_ready {wanted : RoleState} (parents : flow.service.parentsIn wanted role = true) :
    ∀ parent ∈ flow.parentStates role, parent = some wanted := by
  intro state member
  obtain ⟨parent, isParent, rfl⟩ := List.mem_map.1 member
  obtain ⟨other, found, rfl⟩ := Service.parentsIn_iff.1 parents parent isParent
  rw [found, Option.map_some]

theorem ordered_eachRole {visit : String → Role → Flow → Outcome × Flow} (own wanted : RoleState)
    (apart : own ≠ wanted) (touches : ∀ name role flow, Touches [name] flow (visit name role flow).2)
    (asks : ∀ name role flow, flow.service.roles.lookup name = some role → role.state = own →
      flow.service.parentsIn wanted role = true → flow.Ordered → (visit name role flow).2.Ordered)
    (nodup : names.Nodup) (ready : ∀ name ∈ names, Ready own wanted flow name) (ordered : flow.Ordered) :
    (eachRole visit names flow).2.Ordered := by
  have turn : ∀ name rest role (before : Flow),
      (name :: rest).Nodup ∧ (∀ other ∈ name :: rest, Ready own wanted before other) ∧ before.Ordered →
      before.service.roles.lookup name = some role →
      (rest.Nodup ∧ ∀ other ∈ rest, Ready own wanted (visit name role before).2 other) ∧
        (visit name role before).2.Ordered := by
    intro name rest role before ⟨nodup, ready, ordered⟩ found
    obtain ⟨fresh, nodupRest⟩ := List.nodup_cons.1 nodup
    obtain ⟨same, isSame, isOwn, parents⟩ := ready name (List.mem_cons_self ..)
    cases Option.some.inj (found.symm.trans isSame)
    refine ⟨⟨nodupRest, fun other member => ?_⟩, asks name role before found isOwn parents ordered⟩
    refine (ready other (List.mem_cons_of_mem _ member)).next (touches name role before) ?_ ?_
    · exact fun same => fresh (same ▸ member)
    · intro seen isSeen
      cases Option.some.inj (found.symm.trans isSeen)
      rwa [isOwn]
  refine eachRole_rule
    (fun names flow => names.Nodup ∧ (∀ name ∈ names, Ready own wanted flow name) ∧ flow.Ordered)
    (fun _ held => held.2.2) ?_ ?_ ?_ ⟨nodup, ready, ordered⟩
  · intro name rest before ⟨_, ready, _⟩ absent
    obtain ⟨role, found, -⟩ := ready name (List.mem_cons_self ..)
    rw [absent] at found
    cases found
  · intro name rest role before next held found visited
    have after := turn name rest role before held found
    rw [visited] at after
    exact ⟨after.1.1, after.1.2, after.2⟩
  · intro name rest role before outcome next held found visited _
    have after := turn name rest role before held found
    rw [visited] at after
    exact after.2

section

variable (success error : RoleState)

theorem history_deployRole (action : WaitKind) (name : String) (role : Role) (flow : Flow) :
    (deployRole api success error action name role flow).2.history =
      .deploy name role.state (flow.parentStates role) :: flow.history := by
  unfold deployRole
  dsimp only
  split
  · rfl
  · rfl
  · split
    · rfl
    · rfl

theorem history_releaseRole (action : WaitKind) (name : String) (role : Role) (flow : Flow) :
    (releaseRole api success error action name role flow).2.history =
      .release name (flow.parentStates role) :: flow.history := by
  unfold releaseRole
  dsimp only
  split
  · rfl
  · rfl

theorem history_undeployRole (action : WaitKind) (name : String) (role : Role)
    (flow : Flow) : (undeployRole api success error action name role flow).2.history =
      (flow.noteShutdown action false name role).history := by
  unfold undeployRole
  dsimp only
  split
  · rfl
  · rfl

end

theorem Ordered.cons {after : Flow} {deed : Deed} (ordered : flow.Ordered)
    (history : after.history = deed :: flow.history) (inOrder : deed.InOrder) : after.Ordered := by
  intro other member
  rw [history] at member
  obtain rfl | earlier := List.mem_cons.1 member
  · exact inOrder
  · exact ordered other earlier

theorem keeps_deployRoles {wanted : RoleState} (either : wanted = .running ∨ wanted = .hold)
    (action : WaitKind) (nodup : names.Nodup)
    (ready : flow.service.straight = true → ∀ name ∈ names, Ready .pending wanted flow name) :
    Keeps excused flow (deployRoles api success error action names flow).2 where
  straight := (touches_deployRoles success error action names flow).straight
  ordered straight ordered := by
    refine ordered_eachRole .pending wanted ?_
      (fun name role flow => touches_deployRole success error action name role flow) ?_ nodup (ready straight) ordered
    · rintro rfl
      obtain same | same := either <;> cases same
    · intro name role before found isPending parents ordered
      have notHold : role.state ≠ .hold := by
        rw [isPending]
        simp
      refine ordered.cons (history_deployRole ..) ⟨notHold, fun _ => ?_⟩
      obtain rfl | rfl := either
      · exact .inl fun parent member => .inr (parentStates_ready parents parent member)
      · exact .inr (parentStates_ready parents)
  recorded := recorded_eachRole (fun name role flow found => recorded_turn found (touches_deployRole ..)
    (history_deployRole ..) fun isHold => ⟨rfl, isHold⟩) names

section

variable (action : WaitKind)

theorem keeps_releaseRoles (nodup : names.Nodup)
    (ready : flow.service.straight = true → ∀ name ∈ names, Ready .hold .running flow name) :
    Keeps excused flow (releaseRoles api success error action names flow).2 where
  straight := (touches_releaseRoles success error action names flow).straight
  ordered straight ordered := by
    refine ordered_eachRole .hold .running (by decide)
      (fun name role flow => touches_releaseRole success error action name role flow) ?_ nodup (ready straight) ordered
    intro name role before found isHold parents ordered
    exact ordered.cons (history_releaseRole ..) (parentStates_ready parents)
  recorded := recorded_eachRole (fun name role flow found => recorded_turn found (touches_releaseRole ..)
    (history_releaseRole ..) fun _ => rfl) names

def Alone (flow : Flow) (name : String) : Prop :=
  (∃ role, flow.service.roles.lookup name = some role ∧ role.state ≠ .done) ∧
    ∀ child role, flow.service.roles.lookup child = some role → name ∈ role.parents → role.state = .done

theorem childStates_alone {child : String} {state : RoleState} (member : (child, state) ∈ flow.childStates name) :
    ∃ role, flow.service.roles.lookup child = some role ∧ name ∈ role.parents ∧ role.state = state := by
  obtain ⟨⟨other, role⟩, inside, same⟩ := List.mem_map.1 member
  obtain ⟨inEntries, isParent⟩ := List.mem_filter.1 inside
  cases same
  exact ⟨role, Map.mem_entries_iff.1 inEntries, of_decide_eq_true isParent, rfl⟩

theorem lookup_undeployRole (api : Api) (success error : RoleState) (action : WaitKind) {flow : Flow}
    (found : flow.service.roles.lookup name = some role) :
    ∃ state, (undeployRole api success error action name role flow).2.service.roles.lookup name =
      some { role with state } := by
  unfold undeployRole
  dsimp only
  split
  · refine ⟨error, (lookup_setRole_self name _).trans ?_⟩
    show Option.map _ (flow.service.roles.lookup name) = _
    rw [found]
    rfl
  · refine ⟨success, (lookup_setRole_self name _).trans ?_⟩
    show Option.map _ (flow.service.roles.lookup name) = _
    rw [found]
    rfl

theorem Alone.next {name visited : String} {role : Role} {success error : RoleState} {action : WaitKind}
    (alone : flow.Alone name) (apart : name ≠ visited) (found : flow.service.roles.lookup visited = some role)
    (notDone : role.state ≠ .done) : Alone (undeployRole api success error action visited role flow).2 name := by
  have touches : Touches [visited] flow (undeployRole api success error action visited role flow).2 :=
    touches_undeployRole ..
  obtain ⟨⟨own, isOwn, ownNotDone⟩, children⟩ := alone
  refine ⟨⟨own, by rwa [touches.others name (by simpa using apart)], ownNotDone⟩, ?_⟩
  intro child other isOther isParent
  by_cases same : child = visited
  · subst same
    obtain ⟨state, after⟩ := lookup_undeployRole api success error action found
    rw [after] at isOther
    cases isOther
    exact absurd (children child role found isParent) notDone
  · rw [touches.others child (by simpa using same)] at isOther
    exact children child other isOther isParent

theorem recorded_undeployRoles (success error : RoleState) (action : WaitKind) (names : List String) :
    Recorded excused flow (undeployRoles api success error action names flow).2 :=
  recorded_eachRole (fun _ _ _ found => recorded_turn found (touches_undeployRole ..) (history_undeployRole ..)
    fun _ => rfl) names

theorem keeps_undeployRoles (nodup : names.Nodup)
    (alone : flow.service.straight = true → ∀ name ∈ names, flow.Alone name) :
    Keeps excused flow (undeployRoles api success error action names flow).2 where
  straight := (touches_undeployRoles success error action names flow).straight
  ordered straight ordered := by
    have turn : ∀ name rest role (before : Flow),
        (name :: rest).Nodup ∧ (∀ other ∈ name :: rest, before.Alone other) ∧ before.Ordered →
        before.service.roles.lookup name = some role →
        (rest.Nodup ∧ ∀ other ∈ rest, Alone (undeployRole api success error action name role before).2 other) ∧
          (undeployRole api success error action name role before).2.Ordered := by
      intro name rest role before ⟨nodup, alone, ordered⟩ found
      obtain ⟨fresh, nodupRest⟩ := List.nodup_cons.1 nodup
      obtain ⟨⟨own, isOwn, notDone⟩, children⟩ := alone name (List.mem_cons_self ..)
      cases Option.some.inj (found.symm.trans isOwn)
      refine ⟨⟨nodupRest, fun other member => ?_⟩, ordered.cons (history_undeployRole ..) ?_⟩
      · exact (alone other (List.mem_cons_of_mem _ member)).next (fun same => fresh (same ▸ member)) found notDone
      · cases action with
        | undeploy =>
          intro child state member
          obtain ⟨other, isOther, isParent, rfl⟩ := childStates_alone member
          exact .inl (children child other isOther isParent)
        | _ => trivial
    refine eachRole_rule
      (fun names flow => names.Nodup ∧ (∀ name ∈ names, flow.Alone name) ∧ flow.Ordered)
      (fun _ held => held.2.2) ?_ ?_ ?_ ⟨nodup, alone straight, ordered⟩
    · intro name rest before ⟨_, alone, _⟩ absent
      obtain ⟨⟨role, found, -⟩, -⟩ := alone name (List.mem_cons_self ..)
      rw [absent] at found
      cases found
    · intro name rest role before next held found visited
      have after := turn name rest role before held found
      rw [visited] at after
      exact ⟨after.1.1, after.1.2, after.2⟩
    · intro name rest role before outcome next held found visited _
      have after := turn name rest role before held found
      rw [visited] at after
      exact after.2
  recorded := recorded_undeployRoles ..

theorem keeps_undeployRoles_other {action : WaitKind} (other : action ≠ .undeploy) (names : List String) :
    Keeps excused flow (undeployRoles api success error action names flow).2 where
  straight := (touches_undeployRoles success error action names flow).straight
  ordered _ ordered := by
    refine eachRole_invariant Ordered (fun name role before ordered _ => ?_) ordered
    refine ordered.cons (history_undeployRole ..) ?_
    cases action with
    | undeploy => exact absurd rfl other
    | _ => trivial
  recorded := recorded_undeployRoles ..

theorem history_redeployRole (name : String) (role : Role) (flow : Flow) :
    (redeployRole api action name role flow).2.history =
      .deploy name role.state (flow.parentStates role) :: flow.history := by
  unfold redeployRole
  dsimp only
  split
  · rfl
  · rfl
  · rfl

theorem history_reshutdownRole (failure : Outcome) (name : String) (role : Role) (flow : Flow) :
    (reshutdownRole api action failure name role flow).2.history = (flow.noteShutdown action true name role).history := by
  unfold reshutdownRole
  dsimp only
  split
  · rfl
  · rfl

end

theorem canRecoverDeploy_not_hold (canRecover : flow.service.canRecoverDeploy role = true) : role.state ≠ .hold := by
  intro isHold
  rw [Service.canRecoverDeploy, isHold] at canRecover
  simp at canRecover

theorem keeps_recoverDeploy (flow : Flow) : Keeps excused flow (flow.recoverDeploy api).2 where
  straight := (touches_recoverDeploy flow).straight
  ordered _ ordered := by
    refine eachRole_invariant Ordered (fun name role before ordered _ => ?_) ordered
    unfold recoverDeployRole
    split
    · rename_i canRecover
      refine ordered.cons (history_redeployRole ..) ⟨canRecoverDeploy_not_hold canRecover, fun isPending => .inl ?_⟩
      intro state member
      obtain ⟨parent, isParent, rfl⟩ := List.mem_map.1 member
      rw [Service.canRecoverDeploy, if_pos isPending, List.all_eq_true] at canRecover
      have isRunning := canRecover parent isParent
      cases found : before.service.roles.lookup parent with
      | none => exact .inl rfl
      | some other =>
        rw [found] at isRunning
        exact .inr (congrArg some (of_decide_eq_true isRunning))
    · exact ordered
  recorded := by
    refine recorded_eachRole (fun name role before found => ?_) _
    unfold recoverDeployRole
    split
    · exact recorded_turn found (touches_redeployRole ..) (history_redeployRole ..) fun isHold => ⟨rfl, isHold⟩
    · exact .refl before

theorem keeps_recoverUndeploy (flow : Flow) : Keeps excused flow (flow.recoverUndeploy api).2 where
  straight := (touches_recoverUndeploy flow).straight
  ordered _ ordered := by
    refine eachRole_invariant Ordered (fun name role before ordered found => ?_) ordered
    unfold recoverUndeployRole
    split
    · rename_i canRecover
      refine ordered.cons (history_reshutdownRole ..) ?_
      intro child state member
      obtain ⟨other, isOther, isParent, rfl⟩ := childStates_alone member
      simp only [Service.canRecoverUndeploy, Bool.or_eq_true, decide_eq_true_eq, List.mem_cons, List.not_mem_nil,
        or_false, List.all_eq_true, Bool.not_eq_true', Bool.and_eq_false_imp, decide_eq_false_iff_not, not_not]
        at canRecover
      obtain failed | children := canRecover
      · exact .inr ⟨rfl, .inr failed.symm⟩
      · obtain same | done := children ⟨child, other⟩ (Map.mem_entries_iff.2 isOther)
        · exact .inr ⟨rfl, .inl same⟩
        · exact .inl (done isParent)
    · exact ordered
  recorded := by
    refine recorded_eachRole (fun name role before found => ?_) _
    unfold recoverUndeployRole
    split
    · exact recorded_turn found (touches_reshutdownRole ..) (history_reshutdownRole ..) fun _ => rfl
    · exact .refl before

theorem keeps_recoverScale (flow : Flow) : Keeps excused flow (flow.recoverScale api).2 where
  straight := (touches_recoverScale flow).straight
  ordered _ ordered := by
    refine eachRole_invariant Ordered (fun name role before ordered found => ?_) ordered
    unfold recoverScaleRole
    split
    · rename_i canRecover
      split
      · refine ordered.cons (history_redeployRole ..) ⟨?_, fun isPending => ?_⟩
        · intro isHold
          rw [Role.canRecoverScale, isHold] at canRecover
          simp at canRecover
        · rw [Role.canRecoverScale, isPending] at canRecover
          simp at canRecover
      · exact ordered.cons (history_reshutdownRole ..) trivial
      · exact ordered
    · exact ordered
  recorded := by
    refine recorded_eachRole (fun name role before found => ?_) _
    unfold recoverScaleRole
    split
    · split
      · exact recorded_turn found (touches_redeployRole ..) (history_redeployRole ..) fun isHold => ⟨rfl, isHold⟩
      · exact recorded_turn found (touches_reshutdownRole ..) (history_reshutdownRole ..) fun _ => rfl
      · exact .refl before
    · exact .refl before

theorem Keeps.noted (keeps : Keeps excused flow after) (inOrder : deed.InOrder) :
    Keeps excused flow (after.note deed) :=
  keeps.trans ⟨rfl, fun _ ordered => ordered.cons rfl inOrder, [deed], rfl, fun _ inHold => .inl inHold⟩

theorem Keeps.settle {success error : ServiceState} {result : Outcome × Flow} (keeps : Keeps excused flow result.2) :
    Keeps excused flow (settle success error result).1 := by
  unfold Flow.settle
  split
  · exact keeps.trans (keeps_of_roles rfl rfl rfl)
  · exact keeps.trans (keeps_of_roles rfl rfl rfl)
  · exact keeps

theorem Keeps.written {result : Outcome × Flow} (keeps : Keeps excused flow result.2) :
    Keeps excused flow (written result).1 := by
  unfold Flow.written
  split
  · exact keeps
  · exact keeps

theorem Keeps.finish {result : Flow × Ending} (keeps : Keeps excused flow result.1) :
    Keeps excused flow (flow.finish result) := by
  unfold Flow.finish
  split
  · exact keeps
  · obtain ⟨deeds, history, -⟩ := keeps.recorded
    exact ⟨rfl, keeps.ordered, deeds, history, fun _ inHold => .inl inHold⟩

section

variable (straight : flow.service.straight = true)
include straight

theorem ready_rolesDeploy : ∀ name ∈ flow.service.rolesDeploy, Ready .pending .running flow name := by
  intro name member
  obtain ⟨role, found, isReady⟩ := Service.mem_select.1 member
  rw [if_pos straight, Bool.and_eq_true, decide_eq_true_eq] at isReady
  exact ⟨role, found, isReady⟩

theorem ready_rolesHold : ∀ name ∈ flow.service.rolesHold, Ready .pending .hold flow name := by
  intro name member
  obtain ⟨role, found, isReady⟩ := Service.mem_select.1 member
  rw [straight, Bool.not_true, Bool.false_or, Bool.and_eq_true, decide_eq_true_eq] at isReady
  exact ⟨role, found, isReady⟩

theorem ready_rolesRelease : ∀ name ∈ flow.service.rolesRelease, Ready .hold .running flow name := by
  intro name member
  obtain ⟨role, found, isReady⟩ := Service.mem_select.1 member
  rw [straight, Bool.not_true, Bool.false_or, Bool.and_eq_true, decide_eq_true_eq] at isReady
  exact ⟨role, found, isReady⟩

theorem alone_rolesShutdown : ∀ name ∈ flow.service.rolesShutdown, flow.Alone name := by
  intro name member
  rw [Service.rolesShutdown, if_pos straight] at member
  obtain ⟨isRunning, notParent⟩ := List.mem_filter.1 member
  obtain ⟨role, found, notShutDown⟩ := Service.mem_select.1 isRunning
  refine ⟨⟨role, found, ?_⟩, ?_⟩
  · intro isDone
    rw [isDone] at notShutDown
    exact absurd notShutDown (by decide)
  · intro child other isOther isParent
    by_contra notDone
    refine of_decide_eq_true notParent (List.mem_flatMap.2 ⟨⟨child, other⟩, Map.mem_entries_iff.2 isOther, ?_⟩)
    rwa [if_neg notDone]

end

theorem keeps_deployAction : Keeps excused flow (flow.deployAction api).1 := by
  unfold deployAction
  split
  · exact keeps_of_roles rfl rfl rfl
  · split
    · split
      · exact keeps_of_roles (by rw [addService_service]; rfl) addService_history (by rw [addService_service]; rfl)
      · exact .refl flow
    · exact (keeps_deployRoles (.inl rfl) _ (Service.nodup_select _) ready_rolesDeploy).settle

theorem keeps_undeployAction (delete : Bool) : Keeps excused flow (flow.undeployAction api delete).1 := by
  unfold undeployAction
  split
  · exact .refl flow
  · split
    · have removed : Keeps excused flow flow.removeService := keeps_of_roles rfl rfl rfl
      have inOrder : Deed.InOrder (.delete (flow.service.roles.entries.map fun row => row.2.state)) := trivial
      exact (removed.noted inOrder).trans (keeps_of_roles rfl rfl rfl)
    · have keeps : Keeps excused flow.removeService (undeployRoles api .undeploying .failedUndeploying .undeploy
          flow.service.rolesShutdown flow.removeService).2 :=
        keeps_undeployRoles .undeploy nodup_rolesShutdown alone_rolesShutdown
      have removed : Keeps excused flow flow.removeService := keeps_of_roles rfl rfl rfl
      exact (removed.trans keeps).settle

theorem keeps_recoverAction (cooled : flow.service.state = .cooldown → ∀ name, excused name) :
    Keeps excused flow (flow.recoverAction api).1 := by
  unfold recoverAction
  split
  · exact (keeps_recoverDeploy flow).written
  · split
    · exact (keeps_recoverUndeploy flow).written
    · split
      · exact (keeps_recoverScale flow).written
      · split
        · exact keeps_of_roles rfl rfl rfl
        · split
          · exact keeps_of_roles rfl rfl rfl
          · split
            · rename_i isCooldown
              exact keeps_of_history rfl rfl fun name _ => .inr (cooled isCooldown name)
            · exact .refl flow

theorem keeps_releaseAction : Keeps excused flow (flow.releaseAction api).1 := by
  unfold releaseAction
  split
  · exact .refl flow
  · exact (keeps_releaseRoles _ (Service.nodup_select _) ready_rolesRelease).settle

theorem keeps_removeRoleAction (name : String) : Keeps excused flow (flow.removeRoleAction api name).1 := by
  unfold removeRoleAction
  split
  · exact .refl flow
  · have removed : Keeps excused flow flow.removeService := keeps_of_roles rfl rfl rfl
    exact (removed.trans (keeps_undeployRoles_other (by simp) [name])).settle

theorem keeps_setRoleState (own : excused name) (state : RoleState) :
    Keeps excused flow (flow.setRoleState name state) :=
  keeps_setRole fun _ _ _ => .inr own

theorem keeps_addService (running : Bool) (keeps : Keeps excused before flow) :
    Keeps excused before (if running then flow.addService api else flow) := by
  split
  · exact keeps.trans (keeps_of_roles (by rw [addService_service]) addService_history (by rw [addService_service]))
  · exact keeps

theorem keeps_runningCb {next : Flow → Outcome × Flow} (keeps : ∀ flow, Keeps excused flow (next flow).2)
    (own : excused name) : Keeps excused flow (flow.runningCb api next name).1 := by
  have first : Keeps excused flow (flow.setRoleState name .running) := keeps_setRoleState own .running
  have after := first.trans (keeps (flow.setRoleState name .running)).written
  unfold runningCb
  split
  · exact .refl flow
  · dsimp only
    split
    · have running : Keeps excused flow ((flow.setRoleState name .running).setState .running) :=
        first.trans (keeps_of_roles rfl rfl rfl)
      exact (keeps_addService true running).trans (keeps_of_roles rfl rfl rfl)
    · split
      · split
        · rename_i isWritten
          rw [isWritten] at after
          exact after.trans (keeps_of_roles rfl rfl rfl)
        · exact after
      · exact first.trans (keeps_of_roles rfl rfl rfl)

theorem keeps_failureCb (state : ServiceState) (roleState : RoleState) (report : Option Report)
    (own : excused name) : Keeps excused flow (flow.failureCb state roleState report name).1 := by
  unfold failureCb
  split
  · exact (keeps_setRole fun _ _ _ => .inr own).trans (keeps_of_roles rfl rfl rfl)
  · exact .refl flow

theorem keeps_undeployCb (own : excused name) (report : Report) :
    Keeps excused flow (flow.undeployCb api name report).1 := by
  unfold undeployCb
  split
  · exact .refl flow
  · rename_i role found
    have first : Keeps excused flow ((flow.setRole name fun other =>
        { other with state := .done, nodes := report.left role.nodes }).note (.roleDone name (report.left role.nodes))) :=
      Keeps.noted (keeps_setRole fun _ _ _ => .inr own) trivial
    dsimp only
    split
    · exact first.trans (keeps_of_roles rfl rfl rfl)
    · split
      · exact (first.trans (keeps_undeployRoles .undeploy nodup_rolesShutdown alone_rolesShutdown)).written
      · exact first

theorem keeps_scaleCb (report : Option Report) (own : excused name) :
    Keeps excused flow (flow.scaleCb report name).1 := by
  unfold scaleCb
  split
  · exact (keeps_setRole fun _ _ _ => .inr own).trans (keeps_of_roles rfl rfl rfl)
  · exact .refl flow

theorem keeps_cooldownCb (own : excused name) : Keeps excused flow (flow.cooldownCb api name).1 := by
  unfold cooldownCb
  split
  · exact .refl flow
  · have first : Keeps excused flow ((flow.setRoleState name .running).setState .running) :=
      (keeps_setRoleState own .running).trans (keeps_of_roles rfl rfl rfl)
    exact (keeps_addService true first).trans (keeps_of_roles rfl rfl rfl)

theorem keeps_addCb (own : excused name) : Keeps excused flow (flow.addCb api name).1 := by
  unfold addCb
  split
  · exact keeps_addService _ ((keeps_setRoleState own .running).trans (keeps_of_roles rfl rfl rfl))
  · exact .refl flow

theorem keeps_removeCb (own : excused name) : Keeps excused flow (flow.removeCb api name).1 := by
  have removed : Keeps excused flow
      { flow with service := { flow.service with roles := flow.service.roles.erase name } } := by
    refine keeps_of_history rfl rfl fun other ⟨role, found, isHold⟩ => ?_
    by_cases same : other = name
    · exact .inr (same ▸ own)
    · exact .inl ⟨role, by rwa [Map.lookup_erase_eq, if_neg same], isHold⟩
  unfold removeCb
  dsimp only
  split
  · exact removed.trans (keeps_of_roles rfl rfl rfl)
  · exact keeps_addService _ (removed.trans (keeps_of_roles rfl rfl rfl))

theorem keeps_holdCb (name : String) : Keeps excused flow (flow.holdCb api name).1 := by
  have first : Keeps excused flow (flow.setRoleState name .hold) := keeps_setRole fun _ _ _ => .inl rfl
  unfold holdCb
  split
  · dsimp only
    split
    · exact first.trans (keeps_of_roles rfl rfl rfl)
    · split
      · exact (first.trans (keeps_deployRoles (.inr rfl) _ (Service.nodup_select _) ready_rolesHold)).written
      · exact first
  · exact .refl flow

theorem keeps_watchDogCallback {event : WatchDogEvent} (own : excused event.role) :
    Keeps excused flow (flow.watchDogCallback event).1 := by
  unfold watchDogCallback
  split
  · unfold errorWdCb
    split
    · exact (keeps_setRoleState own .warning).trans (keeps_of_roles rfl rfl rfl)
    · exact .refl flow
  · unfold runningWdCb
    split
    · exact .refl flow
    · have first : Keeps excused flow (flow.setRoleState event.role .running) := keeps_setRoleState own .running
      dsimp only
      split
      · exact first.trans (keeps_of_roles rfl rfl rfl)
      · exact first.trans (keeps_of_roles rfl rfl rfl)
  · unfold doneWdCb
    split
    · exact .refl flow
    · split
      · dsimp only
        exact (keeps_setRole fun _ _ _ => .inr own).trans (keeps_of_roles rfl rfl rfl)
      · exact .refl flow
  · exact .refl flow

theorem keeps_cancelAction (cancelled : Option Nat) : Keeps excused flow (flow.cancelAction cancelled) := by
  unfold cancelAction
  split
  · exact .refl flow
  · exact keeps_of_roles rfl rfl rfl

theorem keeps_deployCb (own : excused name) : Keeps excused flow (flow.deployCb api name).1 :=
  keeps_runningCb (fun _ => keeps_deployRoles (.inl rfl) _ (Service.nodup_select _) ready_rolesDeploy) own

theorem keeps_releaseCb (own : excused name) : Keeps excused flow (flow.releaseCb api name).1 :=
  keeps_runningCb (fun _ => keeps_releaseRoles _ (Service.nodup_select _) ready_rolesRelease) own

theorem keeps_callback {wait : Wait} (own : excused wait.role) (report : Report) (cancelled : Option Nat) :
    Keeps excused flow (flow.callback api wait report cancelled).1 := by
  have reported : Keeps excused flow (flow.reported report) := keeps_of_roles rfl rfl rfl
  have cancels : Keeps excused flow (flow.cancelAction cancelled) := keeps_cancelAction cancelled
  have both : Keeps excused flow ((flow.cancelAction cancelled).reported report) := cancels.trans (keeps_of_roles rfl rfl rfl)
  unfold callback
  split
  · exact keeps_deployCb own
  · exact cancels.trans (keeps_failureCb _ _ _ own)
  · exact cancels.trans (keeps_failureCb _ _ _ own)
  · exact cancels.trans (keeps_failureCb _ _ _ own)
  · exact reported.trans (keeps_undeployCb own _)
  · exact both.trans (keeps_failureCb _ _ _ own)
  · exact both.trans (keeps_failureCb _ _ _ own)
  · exact keeps_scaleCb _ own
  · exact cancels.trans (keeps_failureCb _ _ _ own)
  · exact reported.trans (keeps_scaleCb _ own)
  · exact both.trans (keeps_failureCb _ _ _ own)
  · exact keeps_addCb own
  · exact reported.trans (keeps_removeCb own)
  · exact keeps_cooldownCb own
  · exact keeps_deployAction
  · exact cancels.trans (keeps_of_roles rfl rfl rfl)
  · exact keeps_of_roles rfl rfl rfl
  · exact cancels.trans (keeps_of_roles rfl rfl rfl)
  · exact keeps_holdCb _
  · exact keeps_releaseCb own

theorem Keeps.act {work : Flow → Flow × Ending} (keeps : Keeps excused flow (work flow).1) :
    Keeps excused flow (flow.act work) := by
  unfold Flow.act
  split
  · exact .refl flow
  · exact keeps.finish

theorem keeps_step {event : Event} (deployment : event.deployment = true)
    (stepped : flow.step event = some after) : Keeps (fun name => event.Answers flow name) flow after := by
  cases event with
  | deployNets api =>
    cases stepped
    refine Keeps.act ?_
    unfold deployNetsAction
    split
    · exact keeps_of_roles rfl rfl rfl
    · exact keeps_of_roles rfl rfl rfl
  | deploy api =>
    cases stepped
    exact keeps_deployAction.act
  | undeploy api =>
    cases stepped
    exact (keeps_undeployAction false).act
  | scale name cardinality force api => cases deployment
  | recover delete cancelled api =>
    cases stepped
    have cancels : Keeps (fun name => Event.Answers flow name (.recover delete cancelled api)) flow
        (flow.cancelAction cancelled) := keeps_cancelAction cancelled
    refine cancels.trans (Keeps.act ?_)
    split
    · exact keeps_undeployAction true
    · refine keeps_recoverAction fun isCooldown name => ?_
      rwa [cancelAction_service] at isCooldown
  | release api =>
    cases stepped
    exact keeps_releaseAction.act
  | addRole name role api => cases deployment
  | removeRole name api =>
    cases stepped
    exact (keeps_removeRoleAction name).act
  | callback index report cancelled api =>
    simp only [step] at stepped
    split at stepped
    · cases stepped
    · rename_i wait found
      split at stepped
      · cases stepped
        have own : Event.Answers flow wait.role (.callback index report cancelled api) := ⟨wait, found, rfl⟩
        have ended : Keeps (fun name => Event.Answers flow name (.callback index report cancelled api)) flow
            { flow with waits := flow.waits.eraseIdx index } := keeps_of_roles rfl rfl rfl
        exact ended.trans (keeps_callback own report cancelled).act
      · cases stepped
  | followup index api =>
    simp only [step] at stepped
    split at stepped
    · cases stepped
    · rename_i followup _
      cases stepped
      have taken : Keeps (fun name => Event.Answers flow name (.followup index api)) flow
          { flow with followups := flow.followups.eraseIdx index } := keeps_of_roles rfl rfl rfl
      refine taken.trans (Keeps.act ?_)
      cases followup with
      | undeploy => exact keeps_undeployAction false
      | undeployNets => exact keeps_of_roles rfl rfl rfl
  | notice event =>
    simp only [step] at stepped
    split at stepped
    · cases stepped
      unfold checkRoleState
      split
      · exact .refl flow
      · exact keeps_of_roles rfl rfl rfl
      · exact keeps_of_roles rfl rfl rfl
      · exact keeps_of_roles rfl rfl rfl
    · cases stepped
  | watchDog index =>
    simp only [step] at stepped
    split at stepped
    · cases stepped
    · rename_i event found
      cases stepped
      have own : Event.Answers flow event.role (.watchDog index) := ⟨event, found, rfl⟩
      have taken : Keeps (fun name => Event.Answers flow name (.watchDog index)) flow
          { flow with watchDog := flow.watchDog.eraseIdx index } := keeps_of_roles rfl rfl rfl
      exact taken.trans (keeps_watchDogCallback own).act

theorem ordered_reachable (reached : system.Reachable (fun _ event => event.deployment = true) flow)
    (straight : flow.service.straight = true) : flow.Ordered := by
  have kept : flow.OrderedIfStraight := by
    refine reached.invariant ?_ ?_
    · intro start isAllocated _ deed member
      obtain ⟨-, -, -, -, -, -, -, -, noHistory⟩ := isAllocated
      rw [noHistory] at member
      cases member
    · intro before event after ordered deployment stepped isStraight
      have keeps := keeps_step deployment stepped
      have straightBefore : before.service.straight = true := keeps.straight.symm.trans isStraight
      exact keeps.ordered straightBefore (ordered straightBefore)
  exact kept straight

/-- A role that is in HOLD stays there until it is released, with all its parents running, or shut
down, or until a callback of its own. -/
def StaysInHold (flow : Flow) (event : Event) (after : Flow) : Prop :=
  ∃ deeds, after.history = deeds ++ flow.history ∧
    ∀ name, flow.InHold name → after.InHold name ∨ event.Answers flow name ∨
      (∃ parents, .release name parents ∈ deeds ∧ ∀ parent ∈ parents, parent = some .running) ∨
      ∃ kind recover state nodes targets children,
        .shutdown kind recover name state nodes targets children ∈ deeds

/-- In every run of a straight deployment, what is asked of a role suits its parents and children,
and a role leaves HOLD for a reason. -/
theorem straight_order (reached : system.Reachable (fun _ event => event.deployment = true) flow)
    (straight : flow.service.straight = true) :
    flow.Ordered ∧ ∀ event after, event.deployment = true → flow.step event = some after →
      flow.StaysInHold event after := by
  refine ⟨ordered_reachable reached straight, fun event after deployment stepped => ?_⟩
  have keeps := keeps_step deployment stepped
  have ordered := ordered_reachable (reached.step deployment stepped) (keeps.straight.trans straight)
  obtain ⟨deeds, history, holds⟩ := keeps.recorded
  refine ⟨deeds, history, fun name inHold => ?_⟩
  obtain still | answers | ⟨deed, member, leaves⟩ := holds name inHold
  · exact .inl still
  · exact .inr (.inl answers)
  · have inOrder := ordered deed (by rw [history]; exact List.mem_append_left _ member)
    cases deed with
    | deploy other state parents => exact absurd leaves.2 inOrder.1
    | release other parents =>
      obtain rfl : other = name := leaves
      exact .inr (.inr (.inl ⟨parents, member, inOrder⟩))
    | shutdown kind recover other state nodes targets children =>
      obtain rfl : other = name := leaves
      exact .inr (.inr (.inr ⟨kind, recover, state, nodes, targets, children, member⟩))
    | roleDone other left | delete states => exact leaves.elim

def allocate (onHold : Bool) (frontend : Role) : Flow where
  service :=
    { straight := true, onHold,
      roles := Map.insertLast "frontend" frontend (Map.insertLast "database" { cardinality := 1 } ∅) }

theorem allocated_allocate (onHold : Bool) (parents : List String) :
    (allocate onHold { cardinality := 1, parents }).Allocated := by
  refine ⟨rfl, fun name role found => ?_, rfl, rfl, rfl, rfl, rfl, rfl, rfl⟩
  rw [allocate, Map.lookup_insertLast (by decide), Map.lookup_insertLast (by decide)] at found
  split at found
  · cases found
    exact ⟨rfl, rfl, rfl⟩
  · split at found
    · cases found
      exact ⟨rfl, rfl, rfl⟩
    · cases found

def Event.ended (index : Nat) (nodes : List Nat) : Event := .callback index { done := nodes } none {}

def holdEvents : List Event := [.deployNets {}, .ended 0 [], .ended 0 [0]]

theorem leaves_hold {events : List Event} {event : Event}
    (ran : (system.exec (fun _ event => event.deployment = true)
      (allocate true { cardinality := 1, parents := ["database"] }) events).map (fun flow =>
        (flow.service.straight,
          (flow.service.roles.lookup "frontend").map fun role => (role.state, flow.service.parentsIn .running role),
          (flow.step event).map fun after => after.service.roleIn .hold "frontend")) =
      some (true, some (.hold, false), some false)) :
    ∃ flow after role, system.Reachable (fun _ event => event.deployment = true) flow ∧
      flow.step event = some after ∧ flow.service.straight = true ∧
      flow.service.roles.lookup "frontend" = some role ∧ role.state = .hold ∧
      flow.service.parentsIn .running role = false ∧ after.service.roleIn .hold "frontend" = false := by
  obtain ⟨flow, isRun, isSeen⟩ := Option.map_eq_some_iff.1 ran
  simp only [Prod.mk.injEq] at isSeen
  obtain ⟨straight, isRole, isAfter⟩ := isSeen
  obtain ⟨role, found, isRole⟩ := Option.map_eq_some_iff.1 isRole
  obtain ⟨isHold, parents⟩ := Prod.mk.inj isRole
  obtain ⟨after, stepped, left⟩ := Option.map_eq_some_iff.1 isAfter
  exact ⟨flow, after, role, System.reachable_of_exec (allocated_allocate ..) isRun, stepped, straight, found, isHold,
    parents, left⟩

theorem asked_of_exec {start : Flow} {events : List Event} {index : Nat} (allocated : start.Allocated)
    (ran : (system.exec (fun _ event => event.deployment = true) start events).map (fun flow =>
      (flow.service.straight, flow.history[index]?)) = some (true, some deed)) :
    ∃ flow, system.Reachable (fun _ event => event.deployment = true) flow ∧ flow.service.straight = true ∧
      deed ∈ flow.history := by
  obtain ⟨flow, isRun, isSeen⟩ := Option.map_eq_some_iff.1 ran
  obtain ⟨straight, isDeed⟩ := Prod.mk.inj isSeen
  exact ⟨flow, System.reachable_of_exec allocated isRun, straight, List.mem_of_getElem? isDeed⟩

/-- A service on hold can be undeployed; a recovery deploys a role whose only parent does not exist, and
terminates a database under a front end that has come back to HOLD; and a front end that the end of a
late wait brings back to HOLD leaves it at the end of its undeployment. -/
theorem straight_order_exceptions :
    (∃ flow after role, system.Reachable (fun _ event => event.deployment = true) flow ∧
      flow.step (.undeploy {}) = some after ∧ flow.service.straight = true ∧
      flow.service.roles.lookup "frontend" = some role ∧ role.state = .hold ∧
      flow.service.parentsIn .running role = false ∧ after.service.roleIn .hold "frontend" = false) ∧
    (∃ flow, system.Reachable (fun _ event => event.deployment = true) flow ∧ flow.service.straight = true ∧
      ∃ deed ∈ flow.history, ¬deed.Strict ∧ deed = .deploy "frontend" .pending [none]) ∧
    (∃ flow, system.Reachable (fun _ event => event.deployment = true) flow ∧ flow.service.straight = true ∧
      ∃ deed ∈ flow.history, ¬deed.Strict ∧
        deed = .shutdown .undeploy true "database" .undeploying [0] [0] [("frontend", .hold)]) ∧
    ∃ flow after role, system.Reachable (fun _ event => event.deployment = true) flow ∧
      flow.step (.ended 0 [1]) = some after ∧ flow.service.straight = true ∧
      flow.service.roles.lookup "frontend" = some role ∧ role.state = .hold ∧
      flow.service.parentsIn .running role = false ∧ after.service.roleIn .hold "frontend" = false := by
  refine ⟨@leaves_hold holdEvents _ (by decide), ?_, ?_,
    @leaves_hold (holdEvents ++ [.undeploy {}, .ended 0 [1]]) _ (by decide)⟩
  · have ran : (system.exec (fun _ event => event.deployment = true)
        (allocate false { cardinality := 1, parents := ["network"] }) [.recover false none {}]).map (fun flow =>
          (flow.service.straight, flow.history[0]?)) = some (true, some (.deploy "frontend" .pending [none])) := by
      decide
    obtain ⟨flow, reached, straight, asked⟩ := asked_of_exec (allocated_allocate ..) ran
    refine ⟨flow, reached, straight, _, asked, ?_, rfl⟩
    simp [Deed.Strict]
  · have ran : (system.exec (fun _ event => event.deployment = true)
        (allocate true { cardinality := 1, parents := ["database"] })
        (holdEvents ++ [.undeploy {}, .ended 1 [1], .ended 0 [1], .recover false none {}])).map (fun flow =>
          (flow.service.straight, flow.history[1]?)) =
          some (true, some (.shutdown .undeploy true "database" .undeploying [0] [0] [("frontend", .hold)])) := by
      decide
    obtain ⟨flow, reached, straight, asked⟩ := asked_of_exec (allocated_allocate ..) ran
    refine ⟨flow, reached, straight, _, asked, ?_, rfl⟩
    simp [Deed.Strict]

/-- The front end is deployed on hold after the database, and then undeployed. -/
theorem straight_order_on_hold : ∃ flow, system.Reachable (fun _ event => event.deployment = true) flow ∧
      .deploy "frontend" .pending [some .hold] ∈ flow.history ∧ flow.Ordered ∧
      ∀ event after, event.deployment = true → flow.step event = some after → flow.StaysInHold event after := by
  have ran : (system.exec (fun _ event => event.deployment = true)
      (allocate true { cardinality := 1, parents := ["database"] }) holdEvents).map (fun flow =>
        (flow.service.straight, flow.history[0]?)) = some (true, some (.deploy "frontend" .pending [some .hold])) := by
    decide
  obtain ⟨flow, reached, straight, asked⟩ := asked_of_exec (allocated_allocate ..) ran
  exact ⟨flow, reached, asked, straight_order reached straight⟩

end Flow

end OpenNebula.OneFlow
