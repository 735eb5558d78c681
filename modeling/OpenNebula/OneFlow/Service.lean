import OpenNebula.OneFlow.Role
import OpenNebula.Library.Map

namespace OpenNebula.OneFlow

open Library

/-! # Services and deployment strategies (`Service`, `Strategy`, `Straight`) -/

inductive ServiceState where
  | pending | deploying | running | undeploying | warning | done | failedUndeploying | failedDeploying
  | scaling | failedScaling | cooldown | deployingNets | undeployingNets | failedDeployingNets
  | failedUndeployingNets | hold
deriving DecidableEq

structure Service where
  state : ServiceState := .pending
  straight : Bool
  onHold : Bool := false
  automaticDeletion : Bool := false
  reportReady : Bool := false
  roles : Map String Role

def RoleState.shutDown (state : RoleState) : Bool := state ∈ [.undeploying, .done, .failedUndeploying]

def Role.canRecoverScale (role : Role) : Bool := role.state ∈ [.failedScaling, .scaling]

namespace ServiceState

variable (state : ServiceState)

def transient : Bool :=
  state ∈ [.deploying, .undeploying, .scaling, .cooldown, .deployingNets, .undeployingNets]

def failed : Bool :=
  state ∈ [.failedDeploying, .failedUndeploying, .failedScaling, .failedDeployingNets, .failedUndeployingNets]

def canUndeploy : Bool :=
  !((state.transient && state ≠ .undeploying) || state = .done || state.failed)

def canRecoverDeploy : Bool := state ∈ [.failedDeploying, .deploying, .pending]

def canRecoverUndeploy : Bool := state ∈ [.failedUndeploying, .undeploying, .failedUndeployingNets]

def canRecoverScale : Bool := state ∈ [.failedScaling, .scaling]

def canRecoverDeployNets : Bool := state ∈ [.deployingNets, .failedDeployingNets]

def canRecoverUndeployNets : Bool := state ∈ [.undeployingNets, .failedUndeployingNets]

end ServiceState

namespace Service

variable (service : Service)

def names : List String := service.roles.keys

def select (wanted : Role → Bool) : List String :=
  (service.roles.entries.filter fun row => wanted row.2).map Sigma.fst

def allRoles (state : RoleState) : Bool := service.roles.entries.all fun row => row.2.state = state

def allRolesRunning : Bool := service.allRoles .running

def allRolesDone : Bool := service.allRoles .done

def allRolesHold : Bool := service.allRoles .hold

def roleIn (state : RoleState) (name : String) : Bool :=
  (service.roles.lookup name).any fun role => role.state = state

def parentsIn (state : RoleState) (role : Role) : Bool := role.parents.all (service.roleIn state)

def anyParentOnHold (role : Role) : Bool :=
  role.parents.any fun parent => (service.roles.lookup parent).any Role.onHold

def checkRole (role : Role) : Bool :=
  service.automaticDeletion && role.nodes.isEmpty && service.roles.entries.all fun row => row.2.nodes.isEmpty

def rolesDeploy : List String :=
  service.select fun role =>
    if service.straight then role.state = .pending && service.parentsIn .running role
    else role.state = .pending || role.state = .scaling

def busyParents : List String :=
  service.roles.entries.flatMap fun row => if row.2.state = .done then [] else row.2.parents

def rolesShutdown : List String :=
  let running := service.select fun role => !role.state.shutDown
  if service.straight then running.filter fun name => name ∉ service.busyParents else running

def rolesHold : List String :=
  service.select fun role =>
    role.state = .pending && (!service.straight || service.parentsIn .hold role)

def rolesRelease : List String :=
  service.select fun role =>
    role.state = .hold && (!service.straight || service.parentsIn .running role)

def canRecoverDeploy (role : Role) : Bool :=
  if role.state = .pending then
    role.parents.all fun parent => (service.roles.lookup parent).all fun other => other.state = .running
  else role.state ∈ [.failedDeploying, .deploying]

def canRecoverUndeploy (name : String) (role : Role) : Bool :=
  role.state ∈ [.failedUndeploying, .undeploying] ||
    service.roles.entries.all fun row =>
      row.1 = name || !(name ∈ row.2.parents && row.2.state ≠ .done)

end Service

end OpenNebula.OneFlow
