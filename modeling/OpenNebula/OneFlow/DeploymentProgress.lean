import OpenNebula.OneFlow.Loops
import Mathlib.Data.Fintype.Card
import Mathlib.Data.Set.Finite.List

namespace OpenNebula.OneFlow

open Library

/-! # Progress of a deployment

A deployment comes to an end with all roles running, or with a role in HOLD that can be released, as
long as every release that makes a role deployable leaves somebody to deploy it.
-/

theorem acyclic_induction {α : Type} {related : α → α → Prop} {members : List α}
    (acyclic : ∀ a, ¬Relation.TransGen related a a) (holds : α → Prop)
    (turn : ∀ a ∈ members, (∀ b ∈ members, related a b → holds b) → holds a) {start : α} (member : start ∈ members) :
    holds start := by
  have : Finite { a // a ∈ members } := (List.finite_toSet members).to_subtype
  let below (first second : { a // a ∈ members }) : Prop := Relation.TransGen related second.1 first.1
  have isTrans : IsTrans _ below := ⟨fun _ _ _ first second => Relation.TransGen.trans second first⟩
  have isIrrefl : Std.Irrefl below := ⟨fun a => acyclic a.1⟩
  have induction (a : { a // a ∈ members }) : holds a.1 := by
    induction a using (Finite.wellFounded_of_trans_of_irrefl below).induction with
    | h a ih => exact turn a.1 a.2 fun b inside isRelated => ih ⟨b, inside⟩ (Relation.TransGen.single isRelated)
  exact induction ⟨start, member⟩

namespace Service

variable (service : Service)

/-- The first role names the second one as a parent. -/
def ChildOf (child parent : String) : Prop :=
  ∃ role, service.roles.lookup child = some role ∧ parent ∈ role.parents

/-- The parents are roles of the service, in an acyclic graph. -/
def Orderly : Prop :=
  (∀ child parent, service.ChildOf child parent → parent ∈ service.roles) ∧
    ∀ name, ¬Relation.TransGen service.ChildOf name name

end Service

/-- All calls succeed, and the VMs run. -/
structure Api.Succeeds (api : Api) : Prop where
  template : ∀ name, api.template name = true
  instantiate : ∀ name vm, api.instantiate name vm = true
  vrouter : ∀ name, api.vrouter name = true
  release : ∀ vm, api.release vm = true
  fillTemplate : api.fillTemplate = true
  observed : ∀ vm, api.observed vm = .running ∨ api.observed vm = .other

namespace Flow

def Event.Succeeds : Event → Prop
  | .release api | .followup _ api => api.Succeeds
  | .callback _ report _ api => report.success = true ∧ api.Succeeds
  | .notice event => event.seen = .running ∨ event.seen = .other
  | .watchDog _ => True
  | _ => False

/-- After a release somebody deploys the roles that can be deployed now: a callback of a deployment
that is pending already, or that of a role that is released next.  The service is not deleted, for want
of nodes. -/
def Event.forwards (flow : Flow) : Event → Bool
  | .callback index .. =>
    match flow.waits[index]? with
    | some ⟨.release, name, _⟩ =>
      let service := (flow.setRoleState name .running).service
      !service.straight || service.rolesDeploy.isEmpty || !service.rolesRelease.isEmpty ||
        flow.waits.any fun wait => wait.kind = .deploy
    | _ => true
  | .followup .. => !flow.service.state.canUndeploy
  | _ => true

/-- A service that has just been created -/
def Begun (flow : Flow) : Prop :=
  ∃ allocated api, Allocated allocated ∧ api.deployNetworks = true ∧
    flow = allocated.act fun flow => flow.deployNetsAction api

/-- Nothing is pending. -/
def Quiet (flow : Flow) : Prop := flow.waits = [] ∧ flow.followups = [] ∧ flow.watchDog = []

/-- All is running, or something can be released, and what is PENDING still has such a role among its
ancestors. -/
def Progresses (flow : Flow) : Prop :=
  (flow.service.allRolesRunning = true ∧ flow.service.state = .running ∨ flow.service.rolesRelease ≠ []) ∧
    ∀ name role, flow.service.roles.lookup name = some role → role.state = .pending →
      ∃ held ∈ flow.service.rolesRelease, Relation.TransGen flow.service.ChildOf name held

variable {api : Api} {flow : Flow}

theorem instantiateNodes_succeeds (succeeds : api.Succeeds) (name : String) (count : Nat) (role : Role) (cloud : Cloud) :
    ∃ vms nodes after, role.instantiateNodes api name count cloud = (.nodes vms, { role with nodes }, after) := by
  induction count generalizing role cloud with
  | zero => exact ⟨[], role.nodes, cloud, rfl⟩
  | succ count ih =>
    obtain ⟨vms, nodes, after, isRest⟩ :=
      ih (if api.nodeInfo cloud.instantiated then { role with nodes := role.nodes ++ [cloud.instantiated] } else role)
        { cloud with instantiated := cloud.instantiated + 1 }
    unfold Role.instantiateNodes
    dsimp only
    rw [if_pos (succeeds.instantiate name _), isRest]
    refine ⟨cloud.instantiated :: vms, nodes, after, ?_⟩
    cases api.nodeInfo cloud.instantiated
    · rfl
    · rfl

theorem deploy_succeeds (succeeds : api.Succeeds) (name : String) (role : Role) (cloud : Cloud) :
    ∃ vms nodes vrouter after, role.deploy api name cloud = (.nodes vms, { role with nodes, vrouter }, after) := by
  unfold Role.deploy
  dsimp only
  split
  · exact ⟨[], role.nodes, role.vrouter, cloud, rfl⟩
  · split
    · rw [if_neg (by simp [succeeds.template name])]
      obtain ⟨vms, nodes, after, isDeployed⟩ := instantiateNodes_succeeds succeeds name _ role cloud
      exact ⟨vms, nodes, role.vrouter, after, isDeployed⟩
    · rw [Role.instantiateVrouter, if_pos (succeeds.vrouter name)]
      exact ⟨_, _, _, _, rfl⟩

def parentsOf (flow : Flow) (name : String) : Option (List String) :=
  (flow.service.roles.lookup name).map Role.parents

structure Starts (action : WaitKind) (holds : Prop) (names : List String) (before after : Flow) : Prop where
  touches : Touches names before after
  parents : after.parentsOf = before.parentsOf
  started : ∀ name ∈ names, ∀ role, after.service.roles.lookup name = some role →
    holds ∧ role.state = .hold ∨ role.state = .deploying ∧ ∃ wait ∈ after.waits, wait.kind = action ∧ wait.role = name
  waits : ∀ wait ∈ before.waits, wait ∈ after.waits
  fresh : ∀ wait ∈ after.waits, wait ∈ before.waits ∨
    (wait.kind = action ∨ wait.kind = .hold) ∧ (before.service.roles.lookup wait.role).isSome

variable {action : WaitKind} {holds : Prop} {names : List String} {before after : Flow}

theorem Starts.refl (action : WaitKind) (holds : Prop) (flow : Flow) : Starts action holds [] flow flow where
  touches := .refl [] flow
  parents := rfl
  started _ member := absurd member List.not_mem_nil
  waits _ member := member
  fresh _ member := .inl member

variable {name : String} {role : Role}

theorem Starts.absent (starts : Starts action holds names before after)
    (missing : before.service.roles.lookup name = none) : Starts action holds (name :: names) before after where
  touches := starts.touches.mono fun _ => List.mem_cons_of_mem name
  parents := starts.parents
  started other member role found := by
    obtain rfl | member := List.mem_cons.1 member
    · have inside := starts.touches.inside other
      rw [found, missing] at inside
      cases inside
    · exact starts.started other member role found
  waits := starts.waits
  fresh := starts.fresh

theorem Starts.cons {name : String} {middle : Flow} (first : Starts action holds [name] before middle)
    (rest : Starts action holds names middle after) : Starts action holds (name :: names) before after where
  touches := (first.touches.mono (by simp)).trans (rest.touches.mono fun _ => List.mem_cons_of_mem name)
  parents := rest.parents.trans first.parents
  started other member role found := by
    by_cases again : other ∈ names
    · exact rest.started other again role found
    · obtain rfl : other = name := (List.mem_cons.1 member).resolve_right again
      rw [rest.touches.others other again] at found
      obtain onHold | ⟨deploying, wait, isWait, about⟩ := first.started other (List.mem_singleton.2 rfl) role found
      · exact .inl onHold
      · exact .inr ⟨deploying, wait, rest.waits wait isWait, about⟩
  waits wait member := rest.waits wait (first.waits wait member)
  fresh wait member := by
    obtain old | ⟨kind, known⟩ := rest.fresh wait member
    · exact first.fresh wait old
    · exact .inr ⟨kind, (first.touches.inside wait.role).symm.trans known⟩

theorem starts_eachRole {visit : String → Role → Flow → Outcome × Flow}
    (turn : ∀ name role flow, flow.service.roles.lookup name = some role →
      (visit name role flow).1 = .ok ∧ Starts action holds [name] flow (visit name role flow).2)
    (names : List String) (flow : Flow) :
    (eachRole visit names flow).1 = .ok ∧ Starts action holds names flow (eachRole visit names flow).2 := by
  induction names generalizing flow with
  | nil => exact ⟨rfl, .refl action holds flow⟩
  | cons name rest ih =>
    unfold eachRole
    cases found : flow.service.roles.lookup name with
    | none => exact ⟨(ih flow).1, (ih flow).2.absent found⟩
    | some role =>
      obtain ⟨isOk, starts⟩ := turn name role flow found
      dsimp only
      split
      · rename_i next visited
        rw [visited] at starts
        exact ⟨(ih next).1, starts.cons (ih next).2⟩
      · rename_i notOk
        exact (notOk _ (Prod.ext isOk rfl)).elim

theorem starts_of_setRole {change : Role → Role} {nodes : List Nat} {kind : WaitKind}
    (found : before.service.roles.lookup name = some role) (parents : (change role).parents = role.parents)
    (service : after.service = (before.setRole name change).service)
    (deleted : after.deleted = before.deleted) (watched : after.watched = before.watched)
    (followups : after.followups = before.followups) (watchDog : after.watchDog = before.watchDog)
    (waits : after.waits = before.waits ++ [⟨kind, name, nodes⟩])
    (either : holds ∧ (change role).state = .hold ∧ kind = .hold ∨ (change role).state = .deploying ∧ kind = action) :
    Starts action holds [name] before after where
  touches := touches_of_setRole service deleted watched followups watchDog
  parents := by
    funext other
    rw [parentsOf, parentsOf, service, lookup_setRole]
    split
    · rename_i isName
      rw [isName, found]
      exact congrArg some parents
    · simp
  started other member now isNow := by
    obtain rfl := List.mem_singleton.1 member
    rw [service, lookup_setRole_self, found] at isNow
    cases isNow
    obtain ⟨mayHold, isHold, -⟩ | ⟨isDeploying, isKind⟩ := either
    · exact .inl ⟨mayHold, isHold⟩
    · exact .inr ⟨isDeploying, ⟨kind, other, nodes⟩, by simp [waits], isKind, rfl⟩
  waits wait member := by simp [waits, member]
  fresh wait member := by
    rw [waits, List.mem_append, List.mem_singleton] at member
    obtain old | rfl := member
    · exact .inl old
    · refine .inr ⟨?_, by rw [found]; rfl⟩
      obtain ⟨-, -, isHold⟩ | ⟨-, isKind⟩ := either
      · exact .inr isHold
      · exact .inl isKind

theorem starts_deployRole (succeeds : api.Succeeds) (found : flow.service.roles.lookup name = some role) :
    (deployRole api .deploying .failedDeploying action name role flow).1 = .ok ∧
      Starts action True [name] flow (deployRole api .deploying .failedDeploying action name role flow).2 := by
  unfold deployRole
  generalize (role.onHold || _) = onHold
  dsimp only
  obtain ⟨vms, nodes, vrouter, cloud, isDeployed⟩ := deploy_succeeds succeeds name { role with onHold } flow.cloud
  rw [isDeployed]
  dsimp only
  split
  · exact ⟨rfl, starts_of_setRole found rfl rfl rfl rfl rfl rfl rfl (.inl ⟨trivial, rfl, rfl⟩)⟩
  · exact ⟨rfl, starts_of_setRole found rfl rfl rfl rfl rfl rfl rfl (.inr ⟨rfl, rfl⟩)⟩

theorem starts_deployRoles (action : WaitKind) (succeeds : api.Succeeds) (names : List String) (flow : Flow) :
    (deployRoles api .deploying .failedDeploying action names flow).1 = .ok ∧
      Starts action True names flow (deployRoles api .deploying .failedDeploying action names flow).2 :=
  starts_eachRole (fun _ _ _ found => starts_deployRole succeeds found) names flow

theorem starts_releaseRole (succeeds : api.Succeeds) (found : flow.service.roles.lookup name = some role) :
    (releaseRole api .deploying .failedDeploying action name role flow).1 = .ok ∧
      Starts action False [name] flow (releaseRole api .deploying .failedDeploying action name role flow).2 := by
  have released : (role.release api).2 = true := by simp [Role.release, succeeds.release]
  unfold releaseRole
  dsimp only
  rw [if_pos released]
  exact ⟨rfl, starts_of_setRole found rfl rfl rfl rfl rfl rfl rfl (.inr ⟨rfl, rfl⟩)⟩

theorem starts_releaseRoles (action : WaitKind) (succeeds : api.Succeeds) (names : List String) (flow : Flow) :
    (releaseRoles api .deploying .failedDeploying action names flow).1 = .ok ∧
      Starts action False names flow (releaseRoles api .deploying .failedDeploying action names flow).2 :=
  starts_eachRole (fun _ _ _ found => starts_releaseRole succeeds found) names flow

theorem parentsOf_setRoleState (name : String) (state : RoleState) :
    (flow.setRoleState name state).parentsOf = flow.parentsOf := by
  funext other
  rw [parentsOf, setRoleState, lookup_setRole, Option.map_map]
  refine congrFun (congrArg Option.map ?_) _
  funext role
  dsimp only [Function.comp]
  split
  · rfl
  · rfl

theorem starts_hold (name : String) : Starts action True [name] flow (flow.setRoleState name .hold) where
  touches := touches_setRole name _
  parents := parentsOf_setRoleState name .hold
  started other member role found := by
    rw [List.mem_singleton.1 member, setRoleState, lookup_setRole_self, Option.map_eq_some_iff] at found
    obtain ⟨_, _, rfl⟩ := found
    exact .inl ⟨trivial, rfl⟩
  waits _ member := member
  fresh _ member := .inl member

theorem Starts.old (starts : Starts action holds names before after)
    (found : after.service.roles.lookup name = some role) (notHold : role.state ≠ .hold)
    (notDeploying : role.state ≠ .deploying) : name ∉ names ∧ before.service.roles.lookup name = some role := by
  have outside : name ∉ names := by
    intro member
    obtain ⟨-, isHold⟩ | ⟨isDeploying, -⟩ := starts.started name member role found
    · exact notHold isHold
    · exact notDeploying isDeploying
  exact ⟨outside, (starts.touches.others name outside).symm.trans found⟩

theorem Starts.allRolesRunning (starts : Starts action holds names before after)
    (running : after.service.allRolesRunning = true) : before.service.allRolesRunning = true := by
  refine Service.allRoles_iff.2 fun name role found => ?_
  have inside := starts.touches.inside name
  rw [found, Option.isSome_some, Option.isSome_iff_exists] at inside
  obtain ⟨later, isLater⟩ := inside
  have isRunning := Service.allRoles_iff.1 running name later isLater
  have same := (starts.old isLater (by simp [isRunning]) (by simp [isRunning])).2
  rw [found] at same
  exact Option.some.inj same ▸ isRunning

theorem mem_rolesDeploy_iff {service : Service} :
    name ∈ service.rolesDeploy ↔ ∃ role, service.roles.lookup name = some role ∧
      (service.straight = true ∧ role.state = .pending ∧ service.parentsIn .running role = true ∨
        service.straight = false ∧ (role.state = .pending ∨ role.state = .scaling)) := by
  simp only [Service.rolesDeploy, Service.mem_select]
  cases service.straight
  · simp
  · simp

theorem mem_rolesRelease_iff {service : Service} :
    name ∈ service.rolesRelease ↔ ∃ role, service.roles.lookup name = some role ∧ role.state = .hold ∧
      (service.straight = true → service.parentsIn .running role = true) := by
  simp only [Service.rolesRelease, Service.mem_select]
  cases service.straight
  · simp
  · simp

theorem Starts.rolesDeploy (starts : Starts action holds names before after)
    (member : name ∈ after.service.rolesDeploy) : name ∈ before.service.rolesDeploy ∧ name ∉ names := by
  obtain ⟨role, found, ready⟩ := mem_rolesDeploy_iff.1 member
  rw [starts.touches.straight] at ready
  obtain ⟨straight, isPending, parents⟩ | ⟨straight, either⟩ := ready
  · obtain ⟨outside, same⟩ := starts.old found (by simp [isPending]) (by simp [isPending])
    refine ⟨mem_rolesDeploy_iff.2 ⟨role, same, .inl ⟨straight, isPending, ?_⟩⟩, outside⟩
    rw [Service.parentsIn_iff] at parents ⊢
    intro parent isParent
    obtain ⟨other, isOther, isRunning⟩ := parents parent isParent
    exact ⟨other, (starts.old isOther (by simp [isRunning]) (by simp [isRunning])).2, isRunning⟩
  · obtain ⟨outside, same⟩ : name ∉ names ∧ before.service.roles.lookup name = some role := by
      obtain isPending | isScaling := either
      · exact starts.old found (by simp [isPending]) (by simp [isPending])
      · exact starts.old found (by simp [isScaling]) (by simp [isScaling])
    exact ⟨mem_rolesDeploy_iff.2 ⟨role, same, .inr ⟨straight, either⟩⟩, outside⟩

/-- Roles are waited for while they are deployed, and the watchdog has been told of running VMs only. -/
structure Sound (flow : Flow) : Prop where
  present : flow.deleted = false
  states : ∀ name role, flow.service.roles.lookup name = some role →
    role.state = .pending ∨ role.state = .deploying ∨ role.state = .hold ∨ role.state = .running
  awaited : ∀ name role, flow.service.roles.lookup name = some role → role.state = .deploying →
    ∃ wait ∈ flow.waits, (wait.kind = .deploy ∨ wait.kind = .release) ∧ wait.role = name
  waits : ∀ wait ∈ flow.waits, (wait.kind = .deploy ∨ wait.kind = .release ∨ wait.kind = .hold) ∧
    (flow.service.roles.lookup wait.role).isSome
  followups : ∀ followup ∈ flow.followups, followup = .undeploy
  watching : flow.watched = true ∨ flow.watchDog ≠ [] →
    ∀ name role, flow.service.roles.lookup name = some role → role.state ≠ .pending
  healthy : ∀ event ∈ flow.watchDog, event.seen = .running

structure Underway (flow : Flow) : Prop extends Sound flow where
  ready : flow.service.rolesDeploy ≠ [] → flow.service.straight = true ∧ ∃ wait ∈ flow.waits, wait.kind = .deploy
  running : flow.service.allRolesRunning = true → flow.service.state = .running

theorem Sound.starts (sound : before.Sound) (starts : Starts action holds names before after)
    (either : action = .deploy ∨ action = .release) : after.Sound where
  present := starts.touches.deleted.trans sound.present
  states name role found := by
    by_cases member : name ∈ names
    · obtain ⟨-, isHold⟩ | ⟨isDeploying, -⟩ := starts.started name member role found
      · exact .inr (.inr (.inl isHold))
      · exact .inr (.inl isDeploying)
    · exact sound.states name role ((starts.touches.others name member).symm.trans found)
  awaited name role found isDeploying := by
    by_cases member : name ∈ names
    · obtain ⟨-, isHold⟩ | ⟨-, wait, isWait, kind, about⟩ := starts.started name member role found
      · rw [isDeploying] at isHold
        cases isHold
      · exact ⟨wait, isWait, either.imp kind.trans kind.trans, about⟩
    · obtain ⟨wait, isWait, about⟩ :=
        sound.awaited name role ((starts.touches.others name member).symm.trans found) isDeploying
      exact ⟨wait, starts.waits wait isWait, about⟩
  waits wait member := by
    rw [starts.touches.inside]
    obtain old | ⟨isAction | isHold, known⟩ := starts.fresh wait member
    · exact sound.waits wait old
    · exact ⟨either.imp isAction.trans fun isRelease => .inl (isAction.trans isRelease), known⟩
    · exact ⟨.inr (.inr isHold), known⟩
  followups := by
    rw [starts.touches.followups]
    exact sound.followups
  watching := by
    rw [starts.touches.watched, starts.touches.watchDog]
    intro watching name role found isPending
    have same := (starts.old found (by simp [isPending]) (by simp [isPending])).2
    exact sound.watching watching name role same isPending
  healthy := by
    rw [starts.touches.watchDog]
    exact sound.healthy

theorem Sound.reached (sound : flow.Sound) (waits : List Wait) (fewer : ∀ wait ∈ waits, wait ∈ flow.waits)
    (others : ∀ wait ∈ flow.waits, wait.role ≠ name → wait ∈ waits) :
    Sound ({ flow with waits }.setRoleState name .running) where
  present := sound.present
  states other role found := by
    rw [setRoleState, lookup_setRole, Option.map_eq_some_iff] at found
    obtain ⟨old, isOld, rfl⟩ := found
    split
    · exact .inr (.inr (.inr rfl))
    · exact sound.states other old isOld
  awaited other role found isDeploying := by
    rw [setRoleState, lookup_setRole, Option.map_eq_some_iff] at found
    obtain ⟨old, isOld, rfl⟩ := found
    split at isDeploying
    · cases isDeploying
    · rename_i apart
      obtain ⟨wait, isWait, kind, rfl⟩ := sound.awaited other old isOld isDeploying
      exact ⟨wait, others wait isWait apart, kind, rfl⟩
  waits wait member := by
    rw [setRoleState, lookup_setRole, Option.isSome_map]
    exact sound.waits wait (fewer wait member)
  followups := sound.followups
  watching watching other role found := by
    rw [setRoleState, lookup_setRole, Option.map_eq_some_iff] at found
    obtain ⟨old, isOld, rfl⟩ := found
    split
    · simp
    · exact sound.watching watching other old isOld
  healthy := sound.healthy

theorem mem_eraseIdx_of_ne {α : Type} {items : List α} {index : Nat} {item removed : α} (member : item ∈ items)
    (found : items[index]? = some removed) (apart : item ≠ removed) : item ∈ items.eraseIdx index := by
  obtain ⟨position, isItem⟩ := List.mem_iff_getElem?.mp member
  refine List.mem_eraseIdx_iff_getElem?.mpr ⟨position, fun same => apart ?_, isItem⟩
  rw [same, found] at isItem
  exact (Option.some.inj isItem).symm

theorem healthy_addService (succeeds : api.Succeeds) (healthy : ∀ event ∈ flow.watchDog, event.seen = .running) :
    ∀ event ∈ (flow.addService api).watchDog, event.seen = .running := by
  refine List.foldlRecOn (motive := fun (flow : Flow) => ∀ event ∈ flow.watchDog, event.seen = .running) _ _ healthy ?_
  intro before healthy row _
  refine List.foldlRecOn (motive := fun (flow : Flow) => ∀ event ∈ flow.watchDog, event.seen = .running) _ _ healthy ?_
  intro before healthy node _ event member
  obtain isRunning | isOther := succeeds.observed node
  · rw [isRunning] at member
    obtain old | isNew := List.mem_append.1 member
    · exact healthy event old
    · exact List.mem_singleton.1 isNew ▸ rfl
  · rw [isOther] at member
    exact healthy event member

structure Advances (before after : Flow) : Prop where
  underway : after.Underway
  parents : after.parentsOf = before.parentsOf
  straight : after.service.straight = before.service.straight

theorem Sound.allRunning (sound : flow.Sound) (succeeds : api.Succeeds)
    (running : flow.service.allRolesRunning = true) : Underway ((flow.setState .running).addService api) where
  present := by
    rw [addService_deleted]
    exact sound.present
  states := by
    rw [addService_service]
    exact sound.states
  awaited := by
    rw [addService_service, addService_waits]
    exact sound.awaited
  waits := by
    rw [addService_service, addService_waits]
    exact sound.waits
  followups := by
    rw [addService_followups]
    exact sound.followups
  watching := by
    rw [addService_service]
    intro _ name role found isPending
    have isRunning := Service.allRoles_iff.1 running name role found
    rw [isPending] at isRunning
    cases isRunning
  healthy := healthy_addService succeeds sound.healthy
  ready := by
    rw [addService_service]
    intro some
    obtain ⟨name, member⟩ := List.exists_mem_of_ne_nil _ some
    obtain ⟨role, found, ready⟩ := mem_rolesDeploy_iff.1 member
    have isRunning := Service.allRoles_iff.1 running name role found
    simp [isRunning] at ready
  running := by simp [setState]

theorem Underway.followUp (underway : flow.Underway) (due : Bool) : (flow.followUp due .undeploy).Underway := by
  refine { underway with followups := fun followup member => ?_ }
  obtain old | isNew := List.mem_append.1 member
  · exact underway.followups followup old
  · cases due with
    | false => cases isNew
    | true => exact List.mem_singleton.1 isNew

theorem Sound.running_of_starts (sound : after.Sound) (starts : Starts action holds names before after)
    (notAll : before.service.allRolesRunning = false)
    (ready : after.service.rolesDeploy ≠ [] → after.service.straight = true ∧ ∃ wait ∈ after.waits, wait.kind = .deploy) :
    after.Underway := by
  refine ⟨sound, ready, fun all => ?_⟩
  rw [starts.allRolesRunning all] at notAll
  cases notAll

theorem advances_runningCb (flow : Flow) {next : Flow → Outcome × Flow} (succeeds : api.Succeeds)
    (found : flow.service.roles.lookup name = some role) (sound : Sound (flow.setRoleState name .running))
    (flat : flow.service.straight = false → (flow.setRoleState name .running).service.rolesDeploy = [])
    (goesOn : flow.service.straight = true → (next (flow.setRoleState name .running)).1 = .ok ∧
      ∃ holds names, Starts .deploy holds names (flow.setRoleState name .running)
        (next (flow.setRoleState name .running)).2 ∧
      ((next (flow.setRoleState name .running)).2.service.rolesDeploy ≠ [] →
        ∃ wait ∈ (next (flow.setRoleState name .running)).2.waits, wait.kind = .deploy))
    (start : Flow) : Advances flow (start.finish (flow.runningCb api next name)) := by
  have parents : (flow.setRoleState name .running).parentsOf = flow.parentsOf := parentsOf_setRoleState name .running
  unfold runningCb
  rw [found]
  dsimp only
  generalize (flow.setRoleState name .running).service.checkRole role = due
  split
  · rename_i running
    refine ⟨(sound.allRunning succeeds running).followUp due, ?_, ?_⟩
    · rw [finish, ← parents]
      unfold parentsOf followUp
      rw [addService_service]
      rfl
    · rw [finish, followUp, addService_service]
      rfl
  · rename_i notAll
    have notAll := Bool.eq_false_iff.2 notAll
    split
    · rename_i straight
      obtain ⟨isOk, holds, names, starts, deployed⟩ := goesOn straight
      generalize next (flow.setRoleState name .running) = result at isOk starts deployed
      obtain ⟨outcome, after⟩ := result
      cases isOk
      refine ⟨Underway.followUp ((sound.starts starts (.inl rfl)).running_of_starts starts notAll fun some =>
        ⟨starts.touches.straight.trans straight, deployed some⟩) due, starts.parents.trans parents,
        starts.touches.straight⟩
    · rename_i notStraight
      have none := flat (Bool.eq_false_iff.2 notStraight)
      refine ⟨Underway.followUp ⟨sound, fun some => absurd none some, fun all => ?_⟩ due, parents, rfl⟩
      rw [all] at notAll
      cases notAll

theorem rolesDeploy_setRoleState (straight : flow.service.straight = false)
    (none : flow.service.rolesDeploy = []) : (flow.setRoleState name .running).service.rolesDeploy = [] := by
  refine List.eq_nil_iff_forall_not_mem.2 fun other member => ?_
  obtain ⟨role, found, ready⟩ := mem_rolesDeploy_iff.1 member
  rw [setRoleState, lookup_setRole, Option.map_eq_some_iff] at found
  obtain ⟨old, isOld, rfl⟩ := found
  obtain ⟨isStraight, -⟩ | ⟨-, either⟩ := ready
  · exact absurd isStraight (by simp [setRoleState, setRole, straight])
  · split at either
    · simp at either
    · have member : other ∈ flow.service.rolesDeploy := mem_rolesDeploy_iff.2 ⟨old, isOld, .inr ⟨straight, either⟩⟩
      rw [none] at member
      cases member

theorem Underway.flat (underway : flow.Underway) (straight : flow.service.straight = false) :
    flow.service.rolesDeploy = [] := by
  by_contra some
  rw [(underway.ready some).1] at straight
  cases straight

def endWait (flow : Flow) (index : Nat) : Flow := { flow with waits := flow.waits.eraseIdx index }

variable {index : Nat} {wait : Wait}

theorem Sound.ended (sound : flow.Sound) (found : flow.waits[index]? = some wait) :
    Sound ((flow.endWait index).setRoleState wait.role .running) := by
  refine sound.reached _ (fun _ => List.mem_of_mem_eraseIdx) fun other member apart => ?_
  exact mem_eraseIdx_of_ne member found fun same => apart (congrArg Wait.role same)

theorem Sound.waiting (sound : flow.Sound) (found : flow.waits[index]? = some wait) :
    (wait.kind = .deploy ∨ wait.kind = .release ∨ wait.kind = .hold) ∧
      ∃ role, flow.service.roles.lookup wait.role = some role := by
  obtain ⟨kind, known⟩ := sound.waits wait (List.mem_of_getElem? found)
  exact ⟨kind, Option.isSome_iff_exists.1 known⟩

theorem advances_deployCb (underway : flow.Underway) (succeeds : api.Succeeds)
    (found : flow.waits[index]? = some wait) (start : Flow) :
    Advances (flow.endWait index) (start.finish ((flow.endWait index).deployCb api wait.role)) := by
  obtain ⟨-, role, isRole⟩ := underway.waiting found
  refine advances_runningCb (flow.endWait index) succeeds isRole
    (underway.ended found) (fun straight => rolesDeploy_setRoleState straight (underway.flat straight)) ?_ start
  intro _
  obtain ⟨isOk, starts⟩ := starts_deployRoles .deploy succeeds
    ((flow.endWait index).setRoleState wait.role .running).service.rolesDeploy
    ((flow.endWait index).setRoleState wait.role .running)
  refine ⟨isOk, True, _, starts, fun some => ?_⟩
  -- whatever could be deployed has been started
  obtain ⟨name, member⟩ := List.exists_mem_of_ne_nil _ some
  obtain ⟨before, outside⟩ := starts.rolesDeploy member
  exact absurd before outside

theorem advances_releaseCb (underway : flow.Underway) (succeeds : api.Succeeds)
    (found : flow.waits[index]? = some wait) (isRelease : wait.kind = .release)
    (forwards : flow.service.straight = true → (flow.setRoleState wait.role .running).service.rolesDeploy ≠ [] →
      (flow.setRoleState wait.role .running).service.rolesRelease ≠ [] ∨ ∃ other ∈ flow.waits, other.kind = .deploy)
    (start : Flow) : Advances (flow.endWait index) (start.finish ((flow.endWait index).releaseCb api wait.role)) := by
  obtain ⟨-, role, isRole⟩ := underway.waiting found
  refine advances_runningCb (flow.endWait index) succeeds isRole
    (underway.ended found) (fun straight => rolesDeploy_setRoleState straight (underway.flat straight)) ?_ start
  intro straight
  obtain ⟨isOk, starts⟩ := starts_releaseRoles .deploy succeeds
    ((flow.endWait index).setRoleState wait.role .running).service.rolesRelease
    ((flow.endWait index).setRoleState wait.role .running)
  refine ⟨isOk, False, _, starts, fun some => ?_⟩
  obtain ⟨name, member⟩ := List.exists_mem_of_ne_nil _ some
  obtain released | ⟨other, isOther, isDeploy⟩ := forwards straight (List.ne_nil_of_mem (starts.rolesDeploy member).1)
  · obtain ⟨next, isNext⟩ := List.exists_mem_of_ne_nil _ released
    obtain ⟨held, isHeld, -⟩ := mem_rolesRelease_iff.1 isNext
    obtain ⟨after, isAfter⟩ := Option.isSome_iff_exists.1
      ((starts.touches.inside next).trans (Option.isSome_iff_exists.2 ⟨held, isHeld⟩))
    obtain ⟨never, -⟩ | ⟨-, wait, isWait, isDeploy, -⟩ := starts.started next isNext after isAfter
    · exact never.elim
    · exact ⟨wait, isWait, isDeploy⟩
  · have apart : other ≠ wait := by
      rintro rfl
      rw [isRelease] at isDeploy
      cases isDeploy
    exact ⟨other, starts.waits other (mem_eraseIdx_of_ne isOther found apart), isDeploy⟩

theorem Sound.held (sound : flow.Sound) (found : flow.waits[index]? = some wait) (isHold : wait.kind = .hold) :
    (flow.endWait index).Sound :=
  { sound with
    awaited := fun name role isRole isDeploying => by
      obtain ⟨other, isOther, kind, about⟩ := sound.awaited name role isRole isDeploying
      refine ⟨other, mem_eraseIdx_of_ne isOther found ?_, kind, about⟩
      rintro rfl
      simp [isHold] at kind
    waits := fun other member => sound.waits other (List.mem_of_mem_eraseIdx member) }

theorem advances_holdCb (underway : flow.Underway) (succeeds : api.Succeeds)
    (found : flow.waits[index]? = some wait) (isHold : wait.kind = .hold) (start : Flow) :
    Advances (flow.endWait index) (start.finish ((flow.endWait index).holdCb api wait.role)) := by
  obtain ⟨-, role, isRole⟩ := underway.waiting found
  have sound := underway.held found isHold
  have hold : Starts .deploy True [wait.role] (flow.endWait index)
      ((flow.endWait index).setRoleState wait.role .hold) := starts_hold wait.role
  have notAll : ((flow.endWait index).setRoleState wait.role .hold).service.allRolesRunning =
      false := by
    refine Bool.eq_false_iff.2 fun all => ?_
    have isRunning := Service.allRoles_iff.1 all wait.role { role with state := .hold } (by
      rw [setRoleState, lookup_setRole_self]
      exact congrArg (Option.map _) isRole)
    cases isRunning
  -- the waits for a deployment are still there
  have ready {names : List String} {after : Flow}
      (starts : Starts .deploy True names (flow.endWait index) after)
      (some : after.service.rolesDeploy ≠ []) :
      after.service.straight = true ∧ ∃ wait ∈ after.waits, wait.kind = .deploy := by
    obtain ⟨name, member⟩ := List.exists_mem_of_ne_nil _ some
    obtain ⟨straight, other, isOther, isDeploy⟩ := underway.ready (List.ne_nil_of_mem (starts.rolesDeploy member).1)
    refine ⟨starts.touches.straight.trans straight, other, starts.waits other (mem_eraseIdx_of_ne isOther found ?_), isDeploy⟩
    rintro rfl
    rw [isHold] at isDeploy
    cases isDeploy
  have heldSound : Sound ((flow.endWait index).setRoleState wait.role .hold) := sound.starts hold (.inl rfl)
  unfold holdCb
  rw [if_pos (AList.lookup_isSome.1 (Option.isSome_iff_exists.2 ⟨role, isRole⟩))]
  dsimp only
  split
  · have heldReady := ready hold
    refine ⟨⟨{ heldSound with }, heldReady, fun all => ?_⟩, hold.parents, rfl⟩
    exact absurd (notAll.symm.trans all) (by simp)
  · split
    · obtain ⟨isOk, starts⟩ := starts_deployRoles .deploy succeeds
        ((flow.endWait index).setRoleState wait.role .hold).service.rolesHold
        ((flow.endWait index).setRoleState wait.role .hold)
      generalize deployRoles api _ _ _ _ _ = result at isOk starts
      obtain ⟨outcome, after⟩ := result
      cases isOk
      refine ⟨(heldSound.starts starts (.inl rfl)).running_of_starts starts notAll (ready (hold.cons starts)),
        starts.parents.trans hold.parents, starts.touches.straight⟩
    · refine ⟨⟨heldSound, ready hold, fun all => ?_⟩, hold.parents, rfl⟩
      exact absurd (notAll.symm.trans all) (by simp)

theorem advances_releaseAction (underway : flow.Underway) (succeeds : api.Succeeds) (start : Flow)
    (same : start.service = flow.service) : Advances flow (start.finish (flow.releaseAction api)) := by
  unfold releaseAction
  split
  · rw [finish, same]
    exact ⟨underway, rfl, rfl⟩
  · rename_i released
    obtain ⟨name, member⟩ := List.exists_mem_of_ne_nil _ released
    obtain ⟨role, found, isHold, -⟩ := mem_rolesRelease_iff.1 member
    have notAll : flow.service.allRolesRunning = false := by
      refine Bool.eq_false_iff.2 fun all => ?_
      rw [Service.allRoles_iff.1 all name role found] at isHold
      cases isHold
    obtain ⟨isOk, starts⟩ := starts_releaseRoles .release succeeds flow.service.rolesRelease flow
    generalize releaseRoles api _ _ _ _ _ = result at isOk starts ⊢
    obtain ⟨outcome, after⟩ := result
    cases isOk
    have sound := underway.starts starts (.inr rfl)
    have going : after.Underway := sound.running_of_starts starts notAll fun some => by
      obtain ⟨name, member⟩ := List.exists_mem_of_ne_nil _ some
      obtain ⟨straight, other, isOther, isDeploy⟩ := underway.ready (List.ne_nil_of_mem (starts.rolesDeploy member).1)
      exact ⟨starts.touches.straight.trans straight, other, starts.waits other isOther, isDeploy⟩
    refine ⟨⟨{ sound with }, going.ready, fun all => ?_⟩, starts.parents, starts.touches.straight⟩
    rw [starts.allRolesRunning all] at notAll
    cases notAll

theorem advances_runningWdCb (underway : flow.Underway) (name : String)
    (watching : ∀ name role, flow.service.roles.lookup name = some role → role.state ≠ .pending) (start : Flow)
    (same : start.service = flow.service) : Advances flow (start.finish (flow.runningWdCb name)) := by
  unfold runningWdCb
  split
  · rw [finish, same]
    exact ⟨underway, rfl, rfl⟩
  · rename_i role found
    have sound : (flow.setRoleState name .running).Sound :=
      underway.reached flow.waits (fun _ => id) (fun _ member _ => member)
    have parents : (flow.setRoleState name .running).parentsOf = flow.parentsOf := parentsOf_setRoleState name .running
    have ready : (flow.setRoleState name .running).service.rolesDeploy = [] := by
      refine List.eq_nil_iff_forall_not_mem.2 fun other member => ?_
      obtain ⟨later, isLater, ready⟩ := mem_rolesDeploy_iff.1 member
      have early : later.state = .pending := by
        obtain ⟨-, isPending, -⟩ | ⟨-, isPending | isScaling⟩ := ready
        · exact isPending
        · exact isPending
        · have states := sound.states other later isLater
          simp [isScaling] at states
      rw [setRoleState, lookup_setRole, Option.map_eq_some_iff] at isLater
      obtain ⟨old, isOld, rfl⟩ := isLater
      split at early
      · cases early
      · exact watching other old isOld early
    dsimp only
    split
    · generalize Service.checkRole _ _ = due
      have running : ((flow.setRoleState name .running).setState .running).Underway :=
        ⟨{ sound with }, fun some => absurd ready some, fun _ => rfl⟩
      exact ⟨running.followUp due, parents, rfl⟩
    · rename_i notAll
      generalize Service.checkRole _ _ = due
      have running : (flow.setRoleState name .running).Underway :=
        ⟨sound, fun some => absurd ready some, fun all => absurd all notAll⟩
      exact ⟨running.followUp due, parents, rfl⟩

/-- The networks are not there yet. -/
structure Waiting (flow : Flow) : Prop where
  state : flow.service.state = .deployingNets
  present : flow.deleted = false
  pending : ∀ name role, flow.service.roles.lookup name = some role → role.state = .pending
  waits : flow.waits = [⟨.deployNets, "", []⟩]
  followups : flow.followups = []
  watched : flow.watched = false
  watchDog : flow.watchDog = []

theorem Begun.waiting (begun : flow.Begun) : flow.Waiting := by
  obtain ⟨allocated, api, ⟨isPending, roles, present, noWaits, noFollowups, unwatched, noEvents, -⟩, deploys, rfl⟩ := begun
  have isBegun : (allocated.act fun flow => flow.deployNetsAction api) =
      (allocated.setState .deployingNets).trigger ⟨.deployNets, "", []⟩ := by
    rw [act_of_alive present, deployNetsAction, if_neg (by simp [deploys])]
    rfl
  rw [isBegun]
  exact ⟨rfl, present, fun name role found => (roles name role found).1, by simp [trigger, setState, noWaits],
    noFollowups, unwatched, noEvents⟩

theorem advances_deployAction (waiting : flow.Waiting) (succeeds : api.Succeeds) :
    Advances (flow.endWait 0) ((flow.endWait 0).finish ((flow.endWait 0).deployAction api)) := by
  have noWaits : (flow.endWait 0).waits = [] := by
    rw [endWait, waiting.waits]
    rfl
  have sound : (flow.endWait 0).Sound :=
    { present := waiting.present
      states := fun name role found => .inl (waiting.pending name role found)
      awaited := fun name role found isDeploying => by
        rw [waiting.pending name role found] at isDeploying
        cases isDeploying
      waits := fun wait member => by
        rw [noWaits] at member
        cases member
      followups := fun followup member => by
        rw [endWait, waiting.followups] at member
        cases member
      watching := fun watching => by simp [endWait, waiting.watched, waiting.watchDog] at watching
      healthy := fun event member => by
        rw [endWait, waiting.watchDog] at member
        cases member }
  unfold deployAction
  rw [if_neg (by simp [succeeds.fillTemplate])]
  split
  · rename_i none
    split
    · rename_i all
      refine ⟨sound.allRunning succeeds all, ?_, ?_⟩
      · rw [finish]
        unfold parentsOf
        rw [addService_service]
        rfl
      · rw [finish, addService_service]
        rfl
    · rename_i notAll
      exact ⟨⟨sound, fun some => absurd none some, fun all => absurd all notAll⟩, rfl, rfl⟩
  · rename_i deployed
    obtain ⟨name, member⟩ := List.exists_mem_of_ne_nil _ deployed
    obtain ⟨role, found, -⟩ := mem_rolesDeploy_iff.1 member
    have notAll : (flow.endWait 0).service.allRolesRunning = false := by
      refine Bool.eq_false_iff.2 fun all => ?_
      have isRunning := Service.allRoles_iff.1 all name role found
      rw [waiting.pending name role found] at isRunning
      cases isRunning
    obtain ⟨isOk, starts⟩ := starts_deployRoles .deploy succeeds (flow.endWait 0).service.rolesDeploy (flow.endWait 0)
    generalize deployRoles api _ _ _ _ _ = result at isOk starts ⊢
    obtain ⟨outcome, after⟩ := result
    cases isOk
    have going : after.Underway := (sound.starts starts (.inl rfl)).running_of_starts starts notAll fun some => by
      obtain ⟨name, member⟩ := List.exists_mem_of_ne_nil _ some
      exact absurd (starts.rolesDeploy member).1 (starts.rolesDeploy member).2
    refine ⟨⟨{ going with }, going.ready, fun all => ?_⟩, starts.parents, starts.touches.straight⟩
    rw [starts.allRolesRunning all] at notAll
    cases notAll

theorem advances_undeployAction (api : Api) (underway : flow.Underway) (refused : flow.service.state.canUndeploy = false)
    (start : Flow) (same : start.service = flow.service) :
    Advances flow (start.finish (flow.undeployAction api false)) := by
  rw [undeployAction, if_pos (by simp [refused]), finish, same]
  exact ⟨underway, rfl, rfl⟩

section

variable (underway : flow.Underway)
include underway

theorem Underway.endFollowup (index : Nat) :
    Underway { flow with followups := flow.followups.eraseIdx index } :=
  { underway with followups := fun followup member => underway.followups followup (List.mem_of_mem_eraseIdx member) }

theorem Underway.endWatchDog (index : Nat) :
    Underway { flow with watchDog := flow.watchDog.eraseIdx index } :=
  { underway with
    watching := fun watching => underway.watching (watching.imp_right fun some none => some (by simp [none]))
    healthy := fun event member => underway.healthy event (List.mem_of_mem_eraseIdx member) }

theorem Underway.notice (watched : flow.watched = true) {event : WatchDogEvent}
    (healthy : event.seen = .running ∨ event.seen = .other) :
    Underway (flow.checkRoleState event.role event.node event.seen) := by
  obtain isRunning | isOther := healthy
  · rw [isRunning]
    refine { underway with watching := fun _ => underway.watching (.inl watched), healthy := fun other member => ?_ }
    obtain old | isNew := List.mem_append.1 member
    · exact underway.healthy other old
    · exact List.mem_singleton.1 isNew ▸ rfl
  · rw [isOther]
    exact underway

theorem advances_step {event : Event} {next : Flow} (succeeds : event.Succeeds)
    (forwards : event.forwards flow = true) (stepped : flow.step event = some next) : Advances flow next := by
  cases event with
  | deployNets | deploy | undeploy | scale | recover | addRole | removeRole => exact succeeds.elim
  | release api =>
    obtain rfl := Option.some.inj stepped
    rw [act_of_alive underway.present]
    exact advances_releaseAction underway succeeds flow rfl
  | callback index report cancelled api =>
    simp only [step] at stepped
    split at stepped
    · cases stepped
    · rename_i wait found
      split at stepped
      · obtain rfl := Option.some.inj stepped
        have going : Advances (flow.endWait index) ((flow.endWait index).finish
            ((flow.endWait index).callback api wait report cancelled)) := by
          unfold callback
          obtain isDeploy | isRelease | isHold := (underway.waiting found).1
          · rw [isDeploy, succeeds.1]
            exact advances_deployCb underway succeeds.2 found _
          · rw [isRelease, succeeds.1]
            refine advances_releaseCb underway succeeds.2 found isRelease ?_ _
            obtain ⟨kind, name, nodes⟩ := wait
            cases isRelease
            intro straight some
            have straightAfter : (flow.setRoleState name .running).service.straight = true := straight
            simpa [Event.forwards, found, straightAfter, some] using forwards
          · rw [isHold]
            exact advances_holdCb underway succeeds.2 found isHold _
        have present : (flow.endWait index).deleted = false := underway.present
        change Advances flow ((flow.endWait index).act fun flow => flow.callback api wait report cancelled)
        rw [act_of_alive present]
        exact ⟨going.underway, going.parents, going.straight⟩
      · cases stepped
  | followup index api =>
    simp only [step] at stepped
    split at stepped
    · cases stepped
    · rename_i followup found
      obtain rfl := Option.some.inj stepped
      obtain rfl := underway.followups followup (List.mem_of_getElem? found)
      have refused : flow.service.state.canUndeploy = false := by simpa [Event.forwards] using forwards
      have ended := underway.endFollowup index
      have going := advances_undeployAction api ended refused _ rfl
      rw [act_of_alive ended.present]
      exact ⟨going.underway, going.parents, going.straight⟩
  | notice event =>
    simp only [step] at stepped
    split at stepped
    · rename_i watched
      obtain rfl := Option.some.inj stepped
      refine ⟨underway.notice watched succeeds, ?_, ?_⟩
      · cases event.seen <;> rfl
      · cases event.seen <;> rfl
    · cases stepped
  | watchDog index =>
    simp only [step] at stepped
    split at stepped
    · cases stepped
    · rename_i event found
      obtain rfl := Option.some.inj stepped
      have isRunning := underway.healthy event (List.mem_of_getElem? found)
      have ended := underway.endWatchDog index
      have going := advances_runningWdCb ended event.role
        (underway.watching (.inr (List.ne_nil_of_mem (List.mem_of_getElem? found)))) _ rfl
      rw [act_of_alive ended.present, watchDogCallback, isRunning]
      exact ⟨going.underway, going.parents, going.straight⟩

end

theorem Waiting.releaseAction (waiting : flow.Waiting) : flow.finish (flow.releaseAction api) = flow := by
  have none : flow.service.rolesRelease = [] := by
    refine List.eq_nil_iff_forall_not_mem.2 fun name member => ?_
    obtain ⟨role, found, isHold, -⟩ := mem_rolesRelease_iff.1 member
    rw [waiting.pending name role found] at isHold
    cases isHold
  unfold Flow.releaseAction
  rw [none]
  rfl

theorem begins_step {event : Event} {next : Flow} (waiting : flow.Waiting) (succeeds : event.Succeeds)
    (stepped : flow.step event = some next) : next = flow ∨ Advances flow next := by
  cases event with
  | deployNets | deploy | undeploy | scale | recover | addRole | removeRole => exact succeeds.elim
  | release api =>
    obtain rfl := Option.some.inj stepped
    rw [act_of_alive waiting.present]
    exact .inl waiting.releaseAction
  | callback index report cancelled api =>
    simp only [step, waiting.waits] at stepped
    cases index with
    | succ index => cases stepped
    | zero =>
      dsimp only [List.getElem?_cons_zero] at stepped
      split at stepped
      · obtain rfl := Option.some.inj stepped
        have going := advances_deployAction waiting succeeds.2
        have present : (flow.endWait 0).deleted = false := waiting.present
        have isNext : ({ flow with waits := [] } : Flow) = flow.endWait 0 := by
          rw [endWait, waiting.waits]
          rfl
        dsimp only [List.eraseIdx_cons_zero]
        rw [isNext, act_of_alive present, callback, succeeds.1]
        exact .inr ⟨going.underway, going.parents, going.straight⟩
      · cases stepped
  | followup index api =>
    simp only [step, waiting.followups] at stepped
    cases stepped
  | notice event =>
    simp only [step, waiting.watched] at stepped
    cases stepped
  | watchDog index =>
    simp only [step, waiting.watchDog] at stepped
    cases stepped

theorem childOf_iff {child parent : String} :
    flow.service.ChildOf child parent ↔ ∃ parents, flow.parentsOf child = some parents ∧ parent ∈ parents := by
  constructor
  · rintro ⟨role, found, member⟩
    exact ⟨role.parents, congrArg (Option.map Role.parents) found, member⟩
  · rintro ⟨parents, isParents, member⟩
    obtain ⟨role, found, rfl⟩ := Option.map_eq_some_iff.1 isParents
    exact ⟨role, found, member⟩

theorem mem_roles_iff : name ∈ flow.service.roles ↔ (flow.parentsOf name).isSome := by
  rw [parentsOf, Option.isSome_map, AList.lookup_isSome]

theorem orderly_of_parentsOf (orderly : before.service.Orderly) (same : after.parentsOf = before.parentsOf) :
    after.service.Orderly := by
  have children : after.service.ChildOf = before.service.ChildOf := by
    funext child parent
    rw [eq_iff_iff, childOf_iff, childOf_iff, same]
  refine ⟨fun child parent isChild => ?_, by rw [children]; exact orderly.2⟩
  rw [children] at isChild
  have known := orderly.1 child parent isChild
  rwa [mem_roles_iff, same, ← mem_roles_iff]

theorem Underway.released (underway : flow.Underway) (quiet : flow.Quiet)
    (orderly : flow.service.straight = true → flow.service.Orderly)
    (found : flow.service.roles.lookup name = some role) (notRunning : role.state ≠ .running) :
    ∃ held ∈ flow.service.rolesRelease, Relation.ReflTransGen flow.service.ChildOf name held := by
  have none : flow.service.rolesDeploy = [] := by
    by_contra some
    obtain ⟨-, wait, isWait, -⟩ := underway.ready some
    rw [quiet.1] at isWait
    cases isWait
  have notDeploying : ∀ other role, flow.service.roles.lookup other = some role → role.state ≠ .deploying := by
    intro other role found isDeploying
    obtain ⟨wait, isWait, -⟩ := underway.awaited other role found isDeploying
    rw [quiet.1] at isWait
    cases isWait
  cases straight : flow.service.straight with
  | false =>
    obtain isPending | isDeploying | isHold | isRunning := underway.states name role found
    · have member : name ∈ flow.service.rolesDeploy := mem_rolesDeploy_iff.2 ⟨role, found, .inr ⟨straight, .inl isPending⟩⟩
      rw [none] at member
      cases member
    · exact absurd isDeploying (notDeploying name role found)
    · have member : name ∈ flow.service.rolesRelease :=
        mem_rolesRelease_iff.2 ⟨role, found, isHold, by simp [straight]⟩
      exact ⟨name, member, .refl⟩
    · exact absurd isRunning notRunning
  | true =>
    have ordered := orderly straight
    have known : name ∈ flow.service.names :=
      AList.mem_keys.1 (AList.lookup_isSome.1 (Option.isSome_iff_exists.2 ⟨role, found⟩))
    refine acyclic_induction ordered.2
      (fun name => ∀ role, flow.service.roles.lookup name = some role → role.state ≠ .running →
        ∃ held ∈ flow.service.rolesRelease, Relation.ReflTransGen flow.service.ChildOf name held)
      ?_ known role found notRunning
    intro name _ ih role found notRunning
    by_cases parents : flow.service.parentsIn .running role = true
    · obtain isPending | isDeploying | isHold | isRunning := underway.states name role found
      · have member : name ∈ flow.service.rolesDeploy :=
          mem_rolesDeploy_iff.2 ⟨role, found, .inl ⟨straight, isPending, parents⟩⟩
        rw [none] at member
        cases member
      · exact absurd isDeploying (notDeploying name role found)
      · have member : name ∈ flow.service.rolesRelease :=
          mem_rolesRelease_iff.2 ⟨role, found, isHold, fun _ => parents⟩
        exact ⟨name, member, .refl⟩
      · exact absurd isRunning notRunning
    -- some parent does not run either
    · rw [Service.parentsIn_iff] at parents
      push Not at parents
      obtain ⟨parent, isParent, stopped⟩ := parents
      have isChild : flow.service.ChildOf name parent := ⟨role, found, isParent⟩
      have known := ordered.1 name parent isChild
      obtain ⟨other, isOther⟩ := Option.isSome_iff_exists.1 (AList.lookup_isSome.2 known)
      obtain ⟨held, isHeld, path⟩ := ih parent (AList.mem_keys.1 known) isChild other isOther (stopped other isOther)
      exact ⟨held, isHeld, .head isChild path⟩

theorem Underway.progresses (underway : flow.Underway) (quiet : flow.Quiet)
    (orderly : flow.service.straight = true → flow.service.Orderly) : flow.Progresses := by
  constructor
  · cases all : flow.service.allRolesRunning with
    | true => exact .inl ⟨rfl, underway.running all⟩
    | false =>
      have some : ¬∀ name role, flow.service.roles.lookup name = some role → role.state = .running := by
        rw [← Service.allRoles_iff]
        exact Bool.eq_false_iff.1 all
      push Not at some
      obtain ⟨name, role, found, notRunning⟩ := some
      obtain ⟨held, isHeld, -⟩ := underway.released quiet orderly found notRunning
      exact .inr (List.ne_nil_of_mem isHeld)
  · intro name role found isPending
    obtain ⟨held, isHeld, path⟩ := underway.released quiet orderly found (by simp [isPending])
    obtain same | path := Relation.reflTransGen_iff_eq_or_transGen.1 path
    · subst same
      obtain ⟨other, isOther, isHold, -⟩ := mem_rolesRelease_iff.1 isHeld
      rw [found] at isOther
      obtain rfl := Option.some.inj isOther
      rw [isPending] at isHold
      cases isHold
    · exact ⟨held, isHeld, path⟩

theorem waiting_or_underway {start : Flow} (begun : start.Begun)
    (path : system.Path (fun flow event => event.Succeeds ∧ event.forwards flow = true) start flow) :
    (flow.Waiting ∨ flow.Underway) ∧ flow.parentsOf = start.parentsOf ∧
      flow.service.straight = start.service.straight := by
  have kept : ∀ before event after, ((before.Waiting ∨ before.Underway) ∧ before.parentsOf = start.parentsOf ∧
      before.service.straight = start.service.straight) → (event.Succeeds ∧ event.forwards before = true) →
        system.step before event = some after → (after.Waiting ∨ after.Underway) ∧
          after.parentsOf = start.parentsOf ∧ after.service.straight = start.service.straight := by
    rintro before event after ⟨waiting | underway, parents, straight⟩ ⟨succeeds, forwards⟩ stepped
    · obtain rfl | going := begins_step waiting succeeds stepped
      · exact ⟨.inl waiting, parents, straight⟩
      · exact ⟨.inr going.underway, going.parents.trans parents, going.straight.trans straight⟩
    · have going := advances_step underway succeeds forwards stepped
      exact ⟨.inr going.underway, going.parents.trans parents, going.straight.trans straight⟩
  exact path.invariant ⟨.inl begun.waiting, rfl, rfl⟩ kept

/-- A deployment in which all goes well, of a service whose parents are in order, does not get stuck. -/
theorem deployment_progress {start : Flow} (begun : start.Begun)
    (orderly : start.service.straight = true → start.service.Orderly)
    (path : system.Path (fun flow event => event.Succeeds ∧ event.forwards flow = true) start flow)
    (quiet : flow.Quiet) : flow.Progresses := by
  obtain ⟨waiting | underway, parents, straight⟩ := waiting_or_underway begun path
  · have pending := quiet.1
    rw [waiting.waits] at pending
    cases pending
  · exact underway.progresses quiet fun isStraight =>
      orderly_of_parentsOf (orderly (straight.symm.trans isStraight)) parents

section

variable (cacheOnHold : Bool)

def stacked : Flow where
  service :=
    { straight := true,
      roles := Map.insertLast "frontend" { cardinality := 1, parents := ["cache", "database"] }
        (Map.insertLast "database" { cardinality := 1, onHold := true }
          (Map.insertLast "cache" { cardinality := 1, onHold := cacheOnHold } ∅)) }

theorem lookup_stacked {cacheOnHold : Bool} (found : (stacked cacheOnHold).service.roles.lookup name = some role) :
    role.state = .pending ∧ role.nodes = [] ∧ role.vrouter = none ∧
      (name = "frontend" ∧ role.parents = ["cache", "database"] ∨ (name = "cache" ∨ name = "database") ∧ role.parents = []) := by
  rw [stacked, Map.lookup_insertLast (by cases cacheOnHold <;> decide),
    Map.lookup_insertLast (by cases cacheOnHold <;> decide), Map.lookup_insertLast (by decide)] at found
  split at found
  · rename_i isFrontend
    cases found
    exact ⟨rfl, rfl, rfl, .inl ⟨isFrontend, rfl⟩⟩
  · split at found
    · rename_i isDatabase
      cases found
      exact ⟨rfl, rfl, rfl, .inr ⟨.inr isDatabase, rfl⟩⟩
    · split at found
      · rename_i isCache
        cases found
        exact ⟨rfl, rfl, rfl, .inr ⟨.inl isCache, rfl⟩⟩
      · cases found

theorem allocated_stacked : (stacked cacheOnHold).Allocated :=
  ⟨rfl, fun _ _ found => ⟨(lookup_stacked found).1, (lookup_stacked found).2.1, (lookup_stacked found).2.2.1⟩,
    rfl, rfl, rfl, rfl, rfl, rfl, rfl⟩

def stackedBegun : Flow := (stacked cacheOnHold).act fun flow => flow.deployNetsAction {}

theorem begun_stacked : (stackedBegun cacheOnHold).Begun :=
  ⟨stacked cacheOnHold, {}, allocated_stacked cacheOnHold, rfl, rfl⟩

theorem orderly_stacked : (stackedBegun cacheOnHold).service.Orderly := by
  have children : ∀ child parent, (stackedBegun cacheOnHold).service.ChildOf child parent →
      child = "frontend" ∧ (parent = "cache" ∨ parent = "database") := by
    rintro child parent ⟨role, found, member⟩
    obtain ⟨-, -, -, ⟨isFrontend, parents⟩ | ⟨-, parents⟩⟩ := lookup_stacked found
    · rw [parents] at member
      exact ⟨isFrontend, by simpa using member⟩
    · rw [parents] at member
      cases member
  constructor
  · intro child parent isChild
    obtain ⟨-, rfl | rfl⟩ := children child parent isChild
    · exact AList.mem_keys.2 (by cases cacheOnHold <;> decide)
    · exact AList.mem_keys.2 (by cases cacheOnHold <;> decide)
  · intro name cycle
    obtain ⟨parent, isChild, path⟩ := Relation.TransGen.head'_iff.1 cycle
    obtain ⟨rfl, isParent⟩ := children name parent isChild
    obtain isName | ⟨next, isNext, -⟩ := Relation.ReflTransGen.cases_head path
    · simp [isName] at isParent
    · obtain ⟨isFrontend, -⟩ := children parent next isNext
      simp [isFrontend] at isParent

end

theorem api_succeeds : Api.Succeeds {} where
  template _ := rfl
  instantiate _ _ := rfl
  vrouter _ := rfl
  release _ := rfl
  fillTemplate := rfl
  observed _ := .inr rfl

def Event.reached (nodes : List Nat) : Event := .callback 0 { stopped := nodes } none {}

theorem succeeds_reached (nodes : List Nat) : (Event.reached nodes).Succeeds := ⟨rfl, api_succeeds⟩

theorem succeeds_release : (Event.release {}).Succeeds := api_succeeds

/-- The cache runs, the database gets to HOLD and is released: nobody deploys the front end. -/
def staleEvents : List Event := [.reached [], .reached [0], .reached [1], .release {}, .reached [1]]

/-- All calls succeed and all waits end well, and a front end whose parents run is left PENDING. -/
theorem deployment_stuck : ∃ start flow role, start.Begun ∧ start.service.Orderly ∧
      system.Path (fun _ event => event.Succeeds) start flow ∧ flow.Quiet ∧ ¬flow.Progresses ∧
      flow.service.rolesRelease = [] ∧ flow.service.roles.lookup "frontend" = some role ∧ role.state = .pending ∧
      flow.service.parentsIn .running role = true := by
  have ran : (system.exec System.anyStep (stackedBegun false) staleEvents).map (fun flow =>
      (flow.waits, flow.watchDog, flow.followups.isEmpty && flow.service.rolesRelease.isEmpty,
        (flow.service.roles.lookup "frontend").map fun role => (role.state, flow.service.parentsIn .running role))) =
      some ([], [], true, some (.pending, true)) := by
    decide
  obtain ⟨flow, isRun, isSeen⟩ := Option.map_eq_some_iff.mp ran
  simp only [Prod.mk.injEq] at isSeen
  obtain ⟨noWaits, noEvents, empty, isRole⟩ := isSeen
  obtain ⟨noFollowups, released⟩ := Bool.and_eq_true_iff.mp empty
  have released := List.isEmpty_iff.mp released
  obtain ⟨role, found, isRole⟩ := Option.map_eq_some_iff.mp isRole
  obtain ⟨isPending, parents⟩ := Prod.mk.inj isRole
  have all : ∀ event ∈ staleEvents, event.Succeeds := by
    simp [staleEvents, succeeds_reached, succeeds_release]
  have path := (System.path_of_exec_and all isRun).weaken fun _ _ meets => meets.2
  refine ⟨stackedBegun false, flow, role, begun_stacked false, orderly_stacked false, path,
    ⟨noWaits, List.isEmpty_iff.mp noFollowups, noEvents⟩, ?_, released, found, isPending, parents⟩
  intro progresses
  obtain ⟨held, isHeld, -⟩ := progresses.2 "frontend" role found isPending
  rw [released] at isHeld
  cases isHeld

/-- With both parents on hold the front end follows them, and the service gets to RUNNING. -/
theorem deployment_progress_stacked :
    ∃ flow, system.Path (fun flow event => event.Succeeds ∧ event.forwards flow = true) (stackedBegun true) flow ∧
      flow.Quiet ∧ flow.service.state = .running ∧ flow.Progresses := by
  let events : List Event := [.reached [], .reached [0], .reached [1], .reached [2], .release {}, .reached [0],
    .reached [1], .reached [2]]
  have ran : (system.exec (fun flow event => event.forwards flow = true) (stackedBegun true) events).map (fun flow =>
      (flow.waits, flow.followups.isEmpty, flow.watchDog, flow.service.state)) = some ([], true, [], .running) := by
    decide
  obtain ⟨flow, isRun, isSeen⟩ := Option.map_eq_some_iff.mp ran
  simp only [Prod.mk.injEq] at isSeen
  obtain ⟨noWaits, noFollowups, noEvents, isRunning⟩ := isSeen
  have all : ∀ event ∈ events, event.Succeeds := by
    simp [events, succeeds_reached, succeeds_release]
  have path : system.Path (fun flow event => event.Succeeds ∧ event.forwards flow = true) (stackedBegun true) flow :=
    (System.path_of_exec_and all isRun).weaken fun _ _ meets => ⟨meets.2, meets.1⟩
  have quiet : flow.Quiet := ⟨noWaits, List.isEmpty_iff.mp noFollowups, noEvents⟩
  exact ⟨flow, path, quiet, isRunning,
    deployment_progress (begun_stacked true) (fun _ => orderly_stacked true) path quiet⟩

end Flow

end OpenNebula.OneFlow
