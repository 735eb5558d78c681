import OpenNebula.OneFlow.ServiceLCM

namespace OpenNebula.OneFlow

open Library

/-! # Actions and callbacks of the life cycle manager (`ServiceLCM`) -/

namespace Flow

variable (api : Api) (flow : Flow)

def deployNetsAction : Flow × Ending :=
  if flow.service.state = .pending ∧ !api.deployNetworks then (flow.setState .failedDeploying, .updated)
  else ((flow.setState .deployingNets).trigger ⟨.deployNets, "", []⟩, .updated)

def undeployNetsAction : Flow × Ending :=
  ((flow.setState .undeployingNets).trigger ⟨.undeployNets, "", []⟩, .updated)

def deployAction : Flow × Ending :=
  if !api.fillTemplate then (flow.setState .failedDeploying, .updated)
  else
    match flow.service.rolesDeploy with
    | [] =>
      if flow.service.allRolesRunning then ((flow.setState .running).addService api, .updated)
      else (flow, .dropped)
    | roles =>
      settle (if flow.service.onHold then .hold else .deploying) .failedDeploying
        (deployRoles api .deploying .failedDeploying .deploy roles flow)

def undeployAction (delete : Bool) : Flow × Ending :=
  if !flow.service.state.canUndeploy && !delete then (flow, .dropped)
  else
    match flow.service.rolesShutdown with
    | [] =>
      let states := flow.service.roles.entries.map fun row => row.2.state
      ({ flow.removeService.note (.delete states) with deleted := true }, .updated)
    | roles =>
      settle .undeploying .failedUndeploying
        (undeployRoles api .undeploying .failedUndeploying .undeploy roles flow.removeService)

section

variable (name : String)

def scaleAction (cardinality : Int) (force : Bool) : Flow × Ending :=
  if flow.service.state ≠ .running then (flow, .dropped)
  else
    let flow := flow.removeService
    match flow.service.roles.lookup name with
    | none => (flow, .dropped)
    | some role =>
      match role.update cardinality force with
      | none => (flow.addService api, .dropped)
      | some updated =>
        if 0 < cardinality - role.cardinality then
          settle .scaling .failedScaling
            (deployRoles api .scaling .failedScaling .scaleup [name]
              (flow.setRole name fun _ => { updated with scaleWay := some .up }))
        else if cardinality - role.cardinality < 0 then
          settle .scaling .failedScaling
            (undeployRoles api .scaling .failedScaling .scaledown [name]
              (flow.setRole name fun _ => { updated with scaleWay := some .down }))
        else (flow, .dropped)

def recoverAction : Flow × Ending :=
  if flow.service.state.canRecoverDeploy then written (flow.recoverDeploy api)
  else if flow.service.state.canRecoverUndeploy then written (flow.recoverUndeploy api)
  else if flow.service.state.canRecoverScale then written (flow.recoverScale api)
  else if flow.service.state.canRecoverDeployNets then (flow.trigger ⟨.deployNets, "", []⟩, .updated)
  else if flow.service.state.canRecoverUndeployNets then (flow.trigger ⟨.undeployNets, "", []⟩, .updated)
  else if flow.service.state = .cooldown then
    let roles := Map.modify (fun _ role => { role with state := .running }) flow.service.roles
    ({ flow with service := { flow.service with state := .running, roles } }, .updated)
  else (flow, .dropped)

def releaseAction : Flow × Ending :=
  match flow.service.rolesRelease with
  | [] => (flow, .dropped)
  | roles =>
    settle .deploying .failedDeploying (releaseRoles api .deploying .failedDeploying .release roles flow)

def addRoleAction (role : Role) : Flow × Ending :=
  if flow.service.state ≠ .running ∨ name ∈ flow.service.roles then (flow, .dropped)
  else
    let role := { role with state := .pending, nodes := [], scaleWay := none, vrouter := none }
    let flow := { flow with service := { flow.service with roles := Map.insertLast name role flow.service.roles } }
    if !api.fillTemplate then (flow.setState .failedDeploying, .updated)
    else
      (finish flow (settle .deploying .failedDeploying
        (deployRoles api .deploying .failedDeploying .add [name] flow.removeService)), .updated)

def removeRoleAction : Flow × Ending :=
  if flow.service.state ≠ .running ∨ name ∉ flow.service.roles then (flow, .dropped)
  else
    settle .undeploying .failedUndeploying
      (undeployRoles api .undeploying .failedUndeploying .remove [name] flow.removeService)

def followUp (due : Bool) (followup : Followup) : Flow :=
  { flow with followups := flow.followups ++ if due then [followup] else [] }

/-- `deploy_cb` and `release_cb`, up to the roles that come next.  The nodes of the report are looked
up under the wrong keys, so that none is taken away. -/
def runningCb (next : Flow → Outcome × Flow) (name : String) : Flow × Ending :=
  match flow.service.roles.lookup name with
  | none => (flow, .dropped)
  | some role =>
    let flow := flow.setRoleState name .running
    let due := flow.service.checkRole role
    if flow.service.allRolesRunning then
      (((flow.setState .running).addService api).followUp due .undeploy, .updated)
    else if flow.service.straight then
      match written (next flow) with
      | (flow, .updated) => (flow.followUp due .undeploy, .updated)
      | dropped => dropped
    else (flow.followUp due .undeploy, .updated)

def deployCb : String → Flow × Ending :=
  flow.runningCb api fun flow => deployRoles api .deploying .failedDeploying .deploy flow.service.rolesDeploy flow

def releaseCb : String → Flow × Ending :=
  flow.runningCb api fun flow => releaseRoles api .deploying .failedDeploying .deploy flow.service.rolesRelease flow

def failureCb (state : ServiceState) (roleState : RoleState) (report : Option Report) (name : String) :
    Flow × Ending :=
  if name ∈ flow.service.roles then
    let change (role : Role) : Role :=
      { role with state := roleState, nodes := (report.map fun report => report.left role.nodes).getD role.nodes }
    ((flow.setRole name change).setState state, .updated)
  else (flow, .dropped)

/-- Nodes that a wait for the end of VMs has found DONE -/
def reported (report : Report) : Flow :=
  { flow with cloud := { flow.cloud with gone := report.done ++ flow.cloud.gone } }

def undeployCb (report : Report) : Flow × Ending :=
  match flow.service.roles.lookup name with
  | none => (flow, .dropped)
  | some role =>
    let left := report.left role.nodes
    let flow := (flow.setRole name fun role => { role with state := .done, nodes := left }).note (.roleDone name left)
    if flow.service.allRolesDone then (flow.followUp true .undeployNets, .dropped)
    else if flow.service.straight then
      written (undeployRoles api .undeploying .failedUndeploying .undeploy flow.service.rolesShutdown flow)
    else (flow, .updated)

def undeployNetsCb : Flow × Ending := ({ flow with deleted := true }, .updated)

def scaleCb (report : Option Report) (name : String) : Flow × Ending :=
  if name ∈ flow.service.roles then
    let change (role : Role) : Role :=
      { role with
        state := .cooldown
        nodes := (report.map fun report => report.left role.nodes).getD role.nodes
        scaleWay := if role.kind = .vm then none else role.scaleWay }
    (((flow.setRole name change).setState .cooldown).trigger ⟨.cooldown, name, []⟩, .updated)
  else (flow, .dropped)

def cooldownCb : Flow × Ending :=
  match flow.service.roles.lookup name with
  | none => (flow, .dropped)
  | some role =>
    let flow := (flow.setRoleState name .running).setState .running
    ((flow.addService api).followUp (flow.service.checkRole role) .undeploy, .updated)

def addCb : Flow × Ending :=
  if name ∈ flow.service.roles then
    let flow := (flow.setRoleState name .running).setState .running
    (if flow.service.allRolesRunning then flow.addService api else flow, .updated)
  else (flow, .dropped)

def removeCb : Flow × Ending :=
  let flow := { flow with service := { flow.service with roles := flow.service.roles.erase name } }
  if flow.service.allRolesDone then ({ flow with deleted := true }, .updated)
  else
    let flow := flow.setState .running
    (if flow.service.allRolesRunning then flow.addService api else flow, .updated)

def holdCb : Flow × Ending :=
  if name ∈ flow.service.roles then
    let flow := flow.setRoleState name .hold
    if flow.service.allRolesHold && flow.service.state ≠ .hold then (flow.setState .hold, .updated)
    else if flow.service.straight then
      written (deployRoles api .deploying .failedDeploying .deploy flow.service.rolesHold flow)
    else (flow, .updated)
  else (flow, .dropped)

def errorWdCb : Flow × Ending :=
  if name ∈ flow.service.roles then ((flow.setRoleState name .warning).setState .warning, .updated)
  else (flow, .dropped)

def runningWdCb : Flow × Ending :=
  match flow.service.roles.lookup name with
  | none => (flow, .dropped)
  | some role =>
    let flow := flow.setRoleState name .running
    let flow := if flow.service.allRolesRunning then flow.setState .running else flow
    (flow.followUp (flow.service.checkRole role) .undeploy, .updated)

def doneWdCb (node : Nat) : Flow × Ending :=
  match flow.service.roles.lookup name with
  | none => (flow, .dropped)
  | some role =>
    if node ∈ role.nodes then
      let updated := if 0 ≤ role.cardinality - 1 then (role.update (role.cardinality - 1) true).getD role else role
      let role := { updated with nodes := updated.nodes.filter fun vm => vm ≠ node }
      let flow := flow.setRole name fun _ => role
      let flow := { flow with cloud := { flow.cloud with gone := node :: flow.cloud.gone } }
      (flow.followUp (flow.service.checkRole role) .undeploy, .updated)
    else (flow, .dropped)

end

inductive Event where
  | deployNets (api : Api)
  | deploy (api : Api)
  | undeploy (api : Api)
  | scale (name : String) (cardinality : Int) (force : Bool) (api : Api)
  | recover (delete : Bool) (cancelled : Option Nat) (api : Api)
  | release (api : Api)
  | addRole (name : String) (role : Role) (api : Api)
  | removeRole (name : String) (api : Api)
  | callback (index : Nat) (report : Report) (cancelled : Option Nat) (api : Api)
  /-- The rest of a callback runs. -/
  | followup (index : Nat) (api : Api)
  | notice (seen : WatchDogEvent)
  /-- A callback of the watchdog runs. -/
  | watchDog (index : Nat)

def callback (wait : Wait) (report : Report) (cancelled : Option Nat) : Flow × Ending :=
  match wait.kind, report.success with
  | .deploy, true => flow.deployCb api wait.role
  | .deploy, false | .release, false | .add, false =>
    (flow.cancelAction cancelled).failureCb .failedDeploying .failedDeploying none wait.role
  | .undeploy, true => (flow.reported report).undeployCb api wait.role report
  | .undeploy, false | .remove, false =>
    ((flow.cancelAction cancelled).reported report).failureCb .failedUndeploying .failedUndeploying report wait.role
  | .scaleup, true => flow.scaleCb none wait.role
  | .scaleup, false => (flow.cancelAction cancelled).failureCb .failedScaling .failedScaling none wait.role
  | .scaledown, true => (flow.reported report).scaleCb report wait.role
  | .scaledown, false =>
    ((flow.cancelAction cancelled).reported report).failureCb .failedScaling .failedScaling report wait.role
  | .add, true => flow.addCb api wait.role
  | .remove, true => (flow.reported report).removeCb api wait.role
  | .cooldown, _ => flow.cooldownCb api wait.role
  | .deployNets, true => flow.deployAction api
  | .deployNets, false => ((flow.cancelAction cancelled).setState .failedDeployingNets, .updated)
  | .undeployNets, true => flow.undeployNetsCb
  | .undeployNets, false => ((flow.cancelAction cancelled).setState .failedUndeployingNets, .updated)
  | .hold, _ => flow.holdCb api wait.role
  | .release, true => flow.releaseCb api wait.role

def watchDogCallback (event : WatchDogEvent) : Flow × Ending :=
  match event.seen with
  | .warning => flow.errorWdCb event.role
  | .running => flow.runningWdCb event.role
  | .done => flow.doneWdCb event.role event.node
  | .other => (flow, .dropped)

/-- One event; without a document nothing is read or written. -/
def act (work : Flow → Flow × Ending) : Flow := if flow.deleted then flow else flow.finish (work flow)

def step : Event → Option Flow
  | .deployNets api => some (flow.act fun flow => flow.deployNetsAction api)
  | .deploy api => some (flow.act fun flow => flow.deployAction api)
  | .undeploy api => some (flow.act fun flow => flow.undeployAction api false)
  | .scale name cardinality force api => some (flow.act fun flow => flow.scaleAction api name cardinality force)
  | .recover delete cancelled api =>
    some ((flow.cancelAction cancelled).act fun flow =>
      if delete then flow.undeployAction api true else flow.recoverAction api)
  | .release api => some (flow.act fun flow => flow.releaseAction api)
  | .addRole name role api => some (flow.act fun flow => flow.addRoleAction api name role)
  | .removeRole name api => some (flow.act fun flow => flow.removeRoleAction api name)
  | .callback index report cancelled api =>
    match flow.waits[index]? with
    | none => none
    | some wait =>
      if report.Fits wait.nodes then
        some ({ flow with waits := flow.waits.eraseIdx index }.act fun flow =>
          flow.callback api wait report cancelled)
      else none
  | .followup index api =>
    match flow.followups[index]? with
    | none => none
    | some followup =>
      some ({ flow with followups := flow.followups.eraseIdx index }.act fun flow =>
        match followup with
        | .undeploy => flow.undeployAction api false
        | .undeployNets => flow.undeployNetsAction)
  | .notice event => if flow.watched then some (flow.checkRoleState event.role event.node event.seen) else none
  | .watchDog index =>
    match flow.watchDog[index]? with
    | none => none
    | some event =>
      some ({ flow with watchDog := flow.watchDog.eraseIdx index }.act fun flow => flow.watchDogCallback event)

def Allocated : Prop :=
  flow.service.state = .pending ∧
    (∀ name role, flow.service.roles.lookup name = some role →
      role.state = .pending ∧ role.nodes = [] ∧ role.vrouter = none) ∧
    flow.deleted = false ∧ flow.waits = [] ∧ flow.followups = [] ∧ flow.watched = false ∧ flow.watchDog = [] ∧
    flow.cloud = {} ∧ flow.history = []

def system : System Flow Event where
  initial := Allocated
  step := step

end Flow

end OpenNebula.OneFlow
