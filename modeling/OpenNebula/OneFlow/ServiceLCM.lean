import OpenNebula.OneFlow.Service
import OpenNebula.Library.Transition

namespace OpenNebula.OneFlow

open Library

/-! # The life cycle of a service (`ServiceLCM`, `EventManager`, `ServiceWD`)

Every action reads the document of the service, works on this copy and writes it back, under the
lock of the service.  A wait of the event manager and the callback that it triggers are one
pending task: the callback may run at any time, with what the wait has reported.
-/

inductive WaitKind where
  | deploy | undeploy | scaleup | scaledown | add | remove | cooldown | deployNets | undeployNets | hold | release
deriving DecidableEq

structure Wait where
  kind : WaitKind
  role : String := ""
  nodes : List Nat := []
deriving DecidableEq

structure Report where
  success : Bool := true
  done : List Nat := []
  /-- Nodes that were found in another state that ends the wait -/
  stopped : List Nat := []
  failure : List Nat := []

/-- A report is about the nodes of the wait, and about all of them when the wait succeeds: it does so
too when the nodes that are left were found in a failure state at once. -/
def Report.Fits (report : Report) (nodes : List Nat) : Prop :=
  (∀ vm ∈ report.done ++ report.stopped ++ report.failure, vm ∈ nodes) ∧
    (report.success = true → ∀ vm ∈ nodes, vm ∈ report.done ++ report.stopped ++ report.failure)

instance (report : Report) (nodes : List Nat) : Decidable (report.Fits nodes) :=
  inferInstanceAs (Decidable ((∀ vm ∈ _, _) ∧ (_ → ∀ vm ∈ _, _)))

def Report.left (report : Report) (nodes : List Nat) : List Nat :=
  nodes.filter fun vm => vm ∈ report.failure ∨ vm ∉ report.done ++ report.stopped

structure WatchDogEvent where
  role : String
  node : Nat
  seen : Observation
deriving DecidableEq

/-- What was asked of the cloud and of the document, for the record -/
inductive Deed where
  | deploy (name : String) (state : RoleState) (parents : List (Option RoleState))
  | release (name : String) (parents : List (Option RoleState))
  | shutdown (kind : WaitKind) (recover : Bool) (name : String) (state : RoleState) (nodes targets : List Nat)
      (children : List (String × RoleState))
  | roleDone (name : String) (left : List Nat)
  /-- The document is deleted at once. -/
  | delete (states : List RoleState)
deriving DecidableEq

/-- What a callback still does after it has given the lock back -/
inductive Followup where
  /-- The automatic deletion of the service -/
  | undeploy
  | undeployNets
deriving DecidableEq

structure Flow where
  service : Service
  deleted : Bool := false
  waits : List Wait := []
  followups : List Followup := []
  /-- Whether the service is among those that the watchdog watches -/
  watched : Bool := false
  watchDog : List WatchDogEvent := []
  cloud : Cloud := {}
  history : List Deed := []

namespace Flow

inductive Ending where
  /-- `update` -/
  | updated
  | dropped

/-- The copy of the document is written back, or dropped. -/
def finish (before : Flow) : Flow × Ending → Flow
  | (after, .updated) => after
  | (after, .dropped) => { after with service := before.service }

variable (api : Api) (flow : Flow)

def setState (state : ServiceState) : Flow := { flow with service := { flow.service with state } }

def setRole (name : String) (change : Role → Role) : Flow :=
  { flow with service := { flow.service with roles := Map.update name change flow.service.roles } }

def setRoleState (name : String) (state : RoleState) : Flow := flow.setRole name fun role => { role with state }

def trigger (wait : Wait) : Flow := { flow with waits := flow.waits ++ [wait] }

/-- `cancel_action`: at most one pending task ends, the last one that was started in general. -/
def cancelAction (cancelled : Option Nat) : Flow :=
  match cancelled with
  | none => flow
  | some index => { flow with waits := flow.waits.eraseIdx index }

def note (deed : Deed) : Flow := { flow with history := deed :: flow.history }

def checkRoleState (name : String) (node : Nat) (seen : Observation) : Flow :=
  match seen with
  | .other => flow
  | .warning | .done | .running => { flow with watchDog := flow.watchDog ++ [⟨name, node, seen⟩] }

def addService : Flow :=
  flow.service.roles.entries.foldl
    (fun flow row => row.2.nodes.foldl (fun flow node => flow.checkRoleState row.1 node (api.observed node)) flow)
    { flow with watched := true }

def removeService : Flow := { flow with watched := false }

def parentStates (role : Role) : List (Option RoleState) :=
  role.parents.map fun parent => (flow.service.roles.lookup parent).map Role.state

def childStates (name : String) : List (String × RoleState) :=
  (flow.service.roles.entries.filter fun row => name ∈ row.2.parents).map fun row => (row.1, row.2.state)

inductive Outcome where
  | ok
  | error
  /-- An error that nobody rescues ends the action. -/
  | raised
deriving DecidableEq

/-- A loop over roles, which the first error breaks -/
def eachRole (visit : String → Role → Flow → Outcome × Flow) : List String → Flow → Outcome × Flow
  | [], flow => (.ok, flow)
  | name :: rest, flow =>
    match flow.service.roles.lookup name with
    | none => eachRole visit rest flow
    | some role =>
      match visit name role flow with
      | (.ok, flow) => eachRole visit rest flow
      | stopped => stopped

section

variable (success error : RoleState)

section

variable (action : WaitKind)

def deployRole (name : String) (role : Role) (flow : Flow) :
    Outcome × Flow :=
  let onHold := role.onHold || (role.state = .pending && (flow.service.onHold || flow.service.anyParentOnHold role))
  let (outcome, deployed, cloud) := { role with onHold }.deploy api name flow.cloud
  let flow := { flow.note (.deploy name role.state (flow.parentStates role)) with cloud }
  match outcome with
  | .raised => (.raised, flow.setRole name fun _ => deployed)
  | .failed => (.error, flow.setRole name fun _ => { deployed with state := error })
  | .nodes vms =>
    if onHold && role.state = .pending then
      (.ok, (flow.setRole name fun _ => { deployed with state := .hold }).trigger ⟨.hold, name, vms⟩)
    else (.ok, (flow.setRole name fun _ => { deployed with state := success }).trigger ⟨action, name, vms⟩)

def deployRoles : List String → Flow → Outcome × Flow :=
  eachRole (deployRole api success error action)

def noteShutdown (kind : WaitKind) (recover : Bool) (name : String) (role : Role) : Flow :=
  flow.note (.shutdown kind recover name role.state role.nodes
    (Role.firstNodes role.nodes role.shutdownCount) (flow.childStates name))

def undeployRole (name : String) (role : Role) (flow : Flow) :
    Outcome × Flow :=
  let (undeployed, cloud) := role.shutdown api name false flow.cloud
  let flow := { flow.noteShutdown action false name role with cloud }
  match undeployed with
  | none => (.error, flow.setRoleState name error)
  | some vms => (.ok, (flow.setRoleState name success).trigger ⟨action, name, vms⟩)

def undeployRoles : List String → Flow → Outcome × Flow :=
  eachRole (undeployRole api success error action)

def releaseRole (name : String) (role : Role) (flow : Flow) :
    Outcome × Flow :=
  let (vms, released) := role.release api
  let flow := flow.note (.release name (flow.parentStates role))
  if released then (.ok, (flow.setRoleState name success).trigger ⟨action, name, vms⟩)
  else (.error, flow.setRoleState name error)

def releaseRoles : List String → Flow → Outcome × Flow :=
  eachRole (releaseRole api success error action)

end

end

/-- `Role#recover_deploy` and its wait: after an error the message takes the place of the nodes. -/
def redeployRole (action : WaitKind) (name : String) (role : Role) (flow : Flow) : Outcome × Flow :=
  let (outcome, deployed, cloud) := role.recoverDeploy api name flow.service.reportReady flow.cloud
  let flow := { flow.note (.deploy name role.state (flow.parentStates role)) with cloud }
  let flow := flow.setRole name fun _ => deployed
  match outcome with
  | .raised => (.raised, flow)
  | .failed => (.ok, flow.trigger ⟨action, name, []⟩)
  | .nodes vms => (.ok, flow.trigger ⟨action, name, vms⟩)

def recoverDeployRole (name : String) (role : Role) (flow : Flow) : Outcome × Flow :=
  if flow.service.canRecoverDeploy role then redeployRole api .deploy name role flow else (.ok, flow)

def recoverDeploy : Outcome × Flow := eachRole (recoverDeployRole api) flow.service.names flow

def reshutdownRole (action : WaitKind) (failure : Outcome) (name : String) (role : Role) (flow : Flow) :
    Outcome × Flow :=
  let (undeployed, cloud) := role.recoverUndeploy api name flow.cloud
  let flow := { flow.noteShutdown action true name role with cloud }
  match undeployed with
  | none => (failure, flow)
  | some vms => (.ok, flow.trigger ⟨action, name, vms⟩)

def recoverUndeployRole (name : String) (role : Role) (flow : Flow) : Outcome × Flow :=
  if flow.service.canRecoverUndeploy name role then reshutdownRole api .undeploy .error name role flow
  else (.ok, flow)

def recoverUndeploy : Outcome × Flow := eachRole (recoverUndeployRole api) flow.service.names flow

/-- One turn of `recover_scale`: without a direction, or with an error for the nodes, the wait fails
and calls nobody back. -/
def recoverScaleRole (name : String) (role : Role) (flow : Flow) : Outcome × Flow :=
  if role.canRecoverScale then
    match role.kind, role.scaleWay with
    | .vm, some .up => redeployRole api .scaleup name role flow
    | .vm, some .down => reshutdownRole api .scaledown .ok name role flow
    | _, _ => (.ok, flow)
  else (.ok, flow)

def recoverScale : Outcome × Flow := eachRole (recoverScaleRole api) flow.service.names flow

def settle (success error : ServiceState) : Outcome × Flow → Flow × Ending
  | (.ok, flow) => (flow.setState success, .updated)
  | (.error, flow) => (flow.setState error, .updated)
  | (.raised, flow) => (flow, .dropped)

/-- What an action writes back whatever the roles have answered -/
def written : Outcome × Flow → Flow × Ending
  | (.raised, flow) => (flow, .dropped)
  | (_, flow) => (flow, .updated)

end Flow

end OpenNebula.OneFlow
