import Mathlib.Data.List.Basic

namespace OpenNebula.OneFlow

/-! # Roles of a service (`Role`, `VMRole`, `VRRole`)

The calls to the API are answered by the cloud, whose answers are part of each event; the VMs
that are instantiated for the service are numbered in the order of their creation.
-/

inductive RoleState where
  | pending | deploying | running | undeploying | warning | done | failedUndeploying | failedDeploying
  | scaling | failedScaling | cooldown | hold
deriving DecidableEq

inductive RoleKind where
  | vm
  /-- A virtual router -/
  | vr
deriving DecidableEq

inductive ScaleWay where
  | up | down
deriving DecidableEq

structure Role where
  kind : RoleKind := .vm
  parents : List String := []
  onHold : Bool := false
  cardinality : Int
  minVms : Option Int := none
  maxVms : Option Int := none
  terminateHard : Bool := false
  state : RoleState := .pending
  nodes : List Nat := []
  scaleWay : Option ScaleWay := none
  /-- The VMs of the virtual router, once it has been instantiated -/
  vrouter : Option (List Nat) := none

/-- What the watchdog sees of a VM -/
inductive Observation where
  | warning | done | running | other
deriving DecidableEq

/-- The answers of the calls that are made during one event, `true` for success -/
structure Api where
  template : String → Bool := fun _ => true
  instantiate : String → Nat → Bool := fun _ _ => true
  nodeInfo : Nat → Bool := fun _ => true
  vrouter : String → Bool := fun _ => true
  /-- The virtual router of a role is read and deleted. -/
  deleteVrouter : String → Bool := fun _ => true
  release : Nat → Bool := fun _ => true
  terminate : Nat → Bool := fun _ => true
  terminateHard : Nat → Bool := fun _ => true
  delete : Nat → Bool := fun _ => true
  /-- `recover(2)`, the retry of the last operation -/
  recover : Nat → Bool := fun _ => true
  /-- The VM can be read before its deployment is tried again. -/
  info : Nat → Bool := fun _ => true
  failure : Nat → Bool := fun _ => false
  running : Nat → Bool := fun _ => false
  observed : Nat → Observation := fun _ => .other
  fillTemplate : Bool := true
  deployNetworks : Bool := true

structure Cloud where
  /-- How many VMs have been instantiated for the service; the next one has this number. -/
  instantiated : Nat := 0
  terminated : List Nat := []
  /-- VMs that were reported DONE -/
  gone : List Nat := []
deriving DecidableEq

inductive Deployed where
  /-- An error that nobody rescues -/
  | raised
  | failed
  | nodes (vms : List Nat)

namespace Role

variable (api : Api) (name : String)

/-- The loop of `VMRole#deploy`: a VM whose information cannot be read is not listed. -/
def instantiateNodes : Nat → Role → Cloud → Deployed × Role × Cloud
  | 0, role, cloud => (.nodes [], role, cloud)
  | count + 1, role, cloud =>
    let vm := cloud.instantiated
    if api.instantiate name vm then
      let listed := if api.nodeInfo vm then { role with nodes := role.nodes ++ [vm] } else role
      match instantiateNodes count listed { cloud with instantiated := vm + 1 } with
      | (.nodes vms, role, cloud) => (.nodes (vm :: vms), role, cloud)
      | other => other
    else (.failed, role, cloud)

def instantiateVrouter (count : Nat) (role : Role) (cloud : Cloud) : Deployed × Role × Cloud :=
  if api.vrouter name then
    let vms := List.range' cloud.instantiated count
    (.nodes vms, { role with nodes := role.nodes ++ vms.filter fun vm => api.nodeInfo vm, vrouter := some vms },
      { cloud with instantiated := cloud.instantiated + count })
  else (.failed, role, cloud)

section

variable (role : Role)

/-- `VMRole#deploy`, `VRRole#deploy`: when the template cannot be read, the message takes its place
and the first VM raises an error. -/
def deploy (cloud : Cloud) : Deployed × Role × Cloud :=
  let count := role.cardinality - role.nodes.length
  if count = 0 then (.nodes [], role, cloud)
  else
    match role.kind with
    | .vm =>
      if 0 < count ∧ !api.template name then (.raised, role, cloud)
      else instantiateNodes api name count.toNat role cloud
    | .vr => instantiateVrouter api name count.toNat role cloud

def firstNodes (nodes : List Nat) (count : Int) : List Nat :=
  if 0 < count then nodes.take count.toNat else nodes.take (nodes.length + count).toNat

def shutdownCount : Int :=
  if role.nodes.length ≠ role.cardinality then role.nodes.length - role.cardinality else role.nodes.length

inductive Shutdown where
  | failed
  /-- A VM in a failure state has been recovered instead. -/
  | recovered
  | terminated
deriving DecidableEq

def shutdownNode (recover hard : Bool) (vm : Nat) : Shutdown :=
  if recover && api.failure vm && api.recover vm then .recovered
  else if !(recover && api.failure vm) && (if hard then api.terminateHard vm else api.terminate vm) then
    .terminated
  else if !hard && api.terminateHard vm then .terminated
  else if api.delete vm then .terminated
  else .failed

def shutdownNodes (recover : Bool) (role : Role) (cloud : Cloud) : Option (List Nat) × Cloud :=
  let count := role.shutdownCount
  let targets := firstNodes role.nodes count
  let undeployed := targets.filter fun vm => shutdownNode api recover role.terminateHard vm ≠ .failed
  let terminated := targets.filter fun vm => shutdownNode api recover role.terminateHard vm = .terminated
  let cloud := { cloud with terminated := terminated ++ cloud.terminated }
  if (undeployed.length : Int) = count ∨ count < 0 then (some undeployed, cloud) else (none, cloud)

def shutdownVrouter (cloud : Cloud) : Option (List Nat) × Cloud :=
  match role.vrouter with
  | none => (some [], cloud)
  | some vms =>
    if api.deleteVrouter name then (some vms, { cloud with terminated := vms ++ cloud.terminated })
    else (none, cloud)

def shutdown (recover : Bool) (role : Role) (cloud : Cloud) : Option (List Nat) × Cloud :=
  match role.kind with
  | .vm => shutdownNodes api recover role cloud
  | .vr => shutdownVrouter api name role cloud

def release (role : Role) : List Nat × Bool :=
  (role.nodes.filter fun vm => api.release vm, role.nodes.all fun vm => api.release vm)

def recoverDeploy (report : Bool) (role : Role) (cloud : Cloud) : Deployed × Role × Cloud :=
  let resumed := role.nodes.filter fun vm =>
    api.info vm && !(api.running vm && !report) && (!api.failure vm || api.recover vm)
  match deploy api name role cloud with
  | (.nodes vms, role, cloud) => (.nodes (resumed ++ vms), role, cloud)
  | other => other

def recoverUndeploy (cloud : Cloud) : Option (List Nat) × Cloud :=
  match role.kind, shutdown api name true role cloud with
  | .vr, (none, cloud) => (some [], cloud)
  | _, outcome => outcome

def update (cardinality : Int) (force : Bool) : Option Role :=
  match role.kind with
  | .vm =>
    if !force && (cardinality < role.minVms.getD 0 || role.maxVms.any fun most => most < cardinality) then none
    else some { role with cardinality }
  | .vr => none

end

end Role

end OpenNebula.OneFlow
