import OpenNebula.Schedm.RankPools

namespace OpenNebula.Schedm.Rank

open Library

/-! # VM groups

The placement of a group is written into the requirements of its VMs.  The sets of numbers are
ascending lists.
-/

inductive VMGroupPolicy where
  | none | affined | antiAffined
deriving DecidableEq

/-- The comparisons of `affinity_requirements` -/
def currentVmsTerms (op op2 : String) (oids : List Oid) : String :=
  oids.foldl (fun text oid =>
    (if text = "" then "" else text ++ op2) ++
      ("(CURRENT_VMS " ++ op ++ " " ++ toString oid.val ++ ")")) ""

def affinityRequirements (vmid : Option Oid) (policy : VMGroupPolicy) (vms : List Oid) : String :=
  let others := vms.filter fun oid => vmid ≠ some oid
  match policy with
  | .affined => currentVmsTerms "=" " | " others
  | .antiAffined => currentVmsTerms "!=" " & " others
  | .none => ""

def hostRequirements (hosts : List Oid) (op1 op2 : String) : String :=
  hosts.foldl (fun text hid =>
    (if text = "" then "" else text ++ " " ++ op2 ++ " ") ++
      ("(ID" ++ op1 ++ toString hid.val ++ ")")) ""

structure VMGroupRole where
  id : Nat
  name : String
  policy : VMGroupPolicy
  vms : List Oid
  hostAffined : List Oid := []
  hostAntiAffined : List Oid := []
  ascending : vms.Pairwise (· < ·)

def maxRoles : Nat := 32

abbrev VMGroupRule := BitVec 32

namespace VMGroupRule

def ofIds (ids : List Nat) : VMGroupRule :=
  ids.foldl (fun rule rid => if rid < maxRoles then rule ||| BitVec.twoPow 32 rid else rule) 0

def insert (rule : VMGroupRule) : List VMGroupRule → List VMGroupRule
  | [] => [rule]
  | other :: rest =>
    if rule < other then rule :: other :: rest
    else if rule = other then other :: rest
    else other :: insert rule rest

/-- One pass over other rules: those that share a role are merged. -/
def sweep (rule : VMGroupRule) : List VMGroupRule → VMGroupRule × List VMGroupRule
  | [] => (rule, [])
  | other :: rest =>
    if rule &&& other = 0 then
      let (merged, kept) := sweep rule rest
      (merged, other :: kept)
    else sweep (rule ||| other) rest

def reduceFrom (front : List VMGroupRule) (current merged : VMGroupRule) (back : List VMGroupRule)
    (reduced : List VMGroupRule) : List VMGroupRule :=
  let (merged', front') := sweep merged front
  let (merged'', back') := sweep merged' back
  if front'.length + back'.length < front.length + back.length then
    reduceFrom front' current merged'' back' reduced
  else
    match back with
    | [] => insert merged reduced
    | next :: rest => reduceFrom (front ++ [current]) next next rest (insert merged reduced)
termination_by (front.length + back.length, back.length)
decreasing_by
  · exact Prod.Lex.left _ _ ‹_›
  · have same : (front ++ [current]).length + rest.length = front.length + (next :: rest).length := by
      simp only [List.length_append, List.length_cons, List.length_nil]
      omega
    rw [same]
    exact Prod.Lex.right _ (Nat.lt_succ_self _)

def reduce : List VMGroupRule → List VMGroupRule
  | [] => []
  | first :: rest => reduceFrom [] first first rest []

def roles (rule : VMGroupRule) : List Nat := (List.range maxRoles).filter rule.getLsbD

end VMGroupRule

structure VMGroupXML where
  roles : List VMGroupRole
  /-- The names in each rule -/
  affined : List (List String) := []
  antiAffined : List (List String) := []
  idsNodup : (roles.map VMGroupRole.id).Nodup
  namesNodup : (roles.map VMGroupRole.name).Nodup
  named : ∀ names ∈ affined ++ antiAffined, ∀ name ∈ names, name ∈ roles.map VMGroupRole.name

namespace VMGroupXML

variable (group : VMGroupXML)

def role (id : Nat) : Option VMGroupRole := group.roles.find? (·.id = id)

def namesToIds (names : List String) : List Nat :=
  (names.mapM fun name => (group.roles.find? (·.name = name)).map VMGroupRole.id).getD []

def ruleSet (rules : List (List String)) : List VMGroupRule :=
  rules.foldl (fun set names => VMGroupRule.insert (.ofIds (group.namesToIds names)) set) []

def vms : List Oid := group.roles.flatMap VMGroupRole.vms

def addRequirements (text : String) (oids : List Oid) (pool : Map Oid VirtualMachineXML) :
    Map Oid VirtualMachineXML :=
  oids.foldl (fun pool oid => pool.update oid (·.addRequirements text)) pool

def insertOid (oid : Oid) : List Oid → List Oid
  | [] => [oid]
  | other :: rest =>
    if oid < other then oid :: other :: rest
    else if oid = other then other :: rest
    else other :: insertOid oid rest

def oidSet (oids : List Oid) : List Oid := oids.foldl (fun set oid => insertOid oid set) []

def affinedHosts (rolesPool : Map Oid VirtualMachineXML) (oids : List Oid) : List Oid :=
  oidSet (oids.filterMap fun oid =>
    (rolesPool.lookup oid).bind fun vm => if vm.isActive then vm.hid else none)

def followLeader (leader oid : Oid) (pool : Map Oid VirtualMachineXML) : Map Oid VirtualMachineXML :=
  match pool.lookup oid with
  | none => pool
  | some tmp =>
    (pool.update leader fun vm =>
      ((vm.addCapacity tmp).addRequirements tmp.requirements).addAffined oid).update oid fun tmp =>
        tmp.resetCapacity.addRequirements ("CURRENT_VMS = " ++ toString leader.val)

section

variable (pool : Map Oid VirtualMachineXML)

def leaderOf (oids : List Oid) : Option (Oid × List Oid) :=
  match oids.dropWhile fun oid => (pool.lookup oid).isNone with
  | [] => none
  | leader :: rest => some (leader, rest)

def scheculeAffinedSet (rolesPool : Map Oid VirtualMachineXML) (oids : List Oid)
    (pool : Map Oid VirtualMachineXML) : Map Oid VirtualMachineXML :=
  if oids.length ≤ 1 then pool
  else if affinedHosts rolesPool oids = [] then
    match leaderOf pool oids with
    | none => pool
    | some (leader, rest) => rest.foldl (fun pool oid => followLeader leader oid pool) pool
  else addRequirements (hostRequirements (affinedHosts rolesPool oids) "=" "|") oids pool

def affinedSets : List (List Oid) :=
  (group.roles.filter fun role => role.policy = .affined ∧ 1 < role.vms.length).map VMGroupRole.vms ++
    (VMGroupRule.reduce (group.ruleSet group.affined)).map fun rule =>
      oidSet (rule.roles.flatMap fun id => ((group.role id).map VMGroupRole.vms).getD [])

def setAffinityRequirements (rolesPool pool : Map Oid VirtualMachineXML) : Map Oid VirtualMachineXML :=
  group.affinedSets.foldl (fun pool oids => scheculeAffinedSet rolesPool oids pool) pool

def roleRequirements (rule : VMGroupRule) (id : Nat) : String :=
  (rule.roles.filter fun other => other ≠ id).foldl (fun text other =>
    match group.role other with
    | none => text
    | some role =>
      let reqs := affinityRequirements none .antiAffined role.vms
      if reqs = "" then text else if text = "" then reqs else text ++ " & " ++ reqs) ""

def setAntiaffinityRequirements : Map Oid VirtualMachineXML :=
  let intra := (group.roles.filter fun role => role.policy = .antiAffined ∧ 1 < role.vms.length).foldl
    (fun pool role => role.vms.foldl (fun pool oid =>
      pool.update oid (·.addRequirements (affinityRequirements (some oid) role.policy role.vms))) pool)
    pool
  (group.ruleSet group.antiAffined).foldl (fun pool rule =>
    rule.roles.foldl (fun pool id =>
      match group.role id with
      | none => pool
      | some role => addRequirements (group.roleRequirements rule id) role.vms pool) pool) intra

def setHostRequirements : Map Oid VirtualMachineXML :=
  group.roles.foldl (fun pool role =>
    role.vms.foldl (fun pool oid => pool.update oid fun vm =>
      (vm.addRequirements (hostRequirements role.hostAffined "=" "|")).addRequirements
        (hostRequirements role.hostAntiAffined "!=" "&")) pool) pool

end

def setRequirements (rolesPool pool : Map Oid VirtualMachineXML) : Map Oid VirtualMachineXML :=
  group.setHostRequirements
    (group.setAntiaffinityRequirements (group.setAffinityRequirements rolesPool pool))

end VMGroupXML

structure VMGroupPoolXML where
  groups : List VMGroupXML
  apart : groups.Pairwise fun group other => ∀ vm ∈ group.vms, vm ∉ other.vms

def doVmGroups (vmgpool : VMGroupPoolXML) (rolesPool pool : Map Oid VirtualMachineXML) : Map Oid VirtualMachineXML :=
  vmgpool.groups.foldl (fun pool group => group.setRequirements rolesPool pool) pool

variable {β : Type} {measure : VirtualMachineXML → β}

/-- The changes of a VM that a group makes leave this unchanged. -/
structure Untouched (measure : VirtualMachineXML → β) : Prop where
  requirements : ∀ vm text, measure (vm.addRequirements text) = measure vm
  capacity : ∀ vm other, measure (vm.addCapacity other) = measure vm
  reset : ∀ vm, measure vm.resetCapacity = measure vm
  affined : ∀ vm oid, measure (vm.addAffined oid) = measure vm

def Agree (measure : VirtualMachineXML → β) (pool after : Map Oid VirtualMachineXML) : Prop :=
  ∀ oid, (after.lookup oid).map measure = (pool.lookup oid).map measure

theorem agree_update {pool after : Map Oid VirtualMachineXML} (agree : Agree measure pool after)
    {change : VirtualMachineXML → VirtualMachineXML} (same : ∀ vm, measure (change vm) = measure vm)
    (oid : Oid) : Agree measure pool (after.update oid change) := by
  intro other
  rw [Map.lookup_update, Option.map_map, ← agree other]
  congr 1
  funext vm
  simp only [Function.comp_apply]
  split
  · exact same vm
  · rfl

theorem agree_foldl {ι : Type} {pool after : Map Oid VirtualMachineXML} {items : List ι}
    {step : Map Oid VirtualMachineXML → ι → Map Oid VirtualMachineXML} (agree : Agree measure pool after)
    (keeps : ∀ after item, Agree measure pool after → Agree measure pool (step after item)) :
    Agree measure pool (items.foldl step after) :=
  List.foldlRecOn items step agree fun after agree item _ => keeps after item agree

namespace VMGroupXML

variable (group : VMGroupXML) {pool after rolesPool : Map Oid VirtualMachineXML}

section

variable (untouched : Untouched measure)
include untouched

theorem agree_addRequirements (agree : Agree measure pool after)
    (text : String) (oids : List Oid) : Agree measure pool (addRequirements text oids after) :=
  agree_foldl agree fun _ oid agree => agree_update agree (untouched.requirements · text) oid

theorem agree_followLeader (agree : Agree measure pool after)
    (leader oid : Oid) : Agree measure pool (followLeader leader oid after) := by
  rw [followLeader]
  cases after.lookup oid with
  | none => exact agree
  | some tmp =>
    refine agree_update (agree_update agree (fun vm => ?_) leader) (fun vm => ?_) oid
    · rw [untouched.affined, untouched.requirements, untouched.capacity]
    · rw [untouched.requirements, untouched.reset]

theorem agree_scheculeAffinedSet (agree : Agree measure pool after)
    (oids : List Oid) : Agree measure pool (scheculeAffinedSet rolesPool oids after) := by
  rw [scheculeAffinedSet]
  split
  · exact agree
  · split
    · cases leaderOf after oids with
      | none => exact agree
      | some found =>
        exact agree_foldl agree fun _ oid agree => agree_followLeader untouched agree found.1 oid
    · exact agree_addRequirements untouched agree _ oids

theorem agree_setRequirements (agree : Agree measure pool after) :
    Agree measure pool (group.setRequirements rolesPool after) := by
  refine agree_foldl ?_ fun _ role agree => agree_foldl agree fun _ oid agree =>
    agree_update agree (fun vm => by rw [untouched.requirements, untouched.requirements]) oid
  refine agree_foldl ?_ fun _ rule agree => agree_foldl agree fun after id agree => ?_
  · refine agree_foldl ?_ fun _ role agree => agree_foldl agree fun _ oid agree =>
      agree_update agree (untouched.requirements · _) oid
    exact agree_foldl agree fun _ oids agree => agree_scheculeAffinedSet untouched agree oids
  · cases group.role id with
    | none => exact agree
    | some role => exact agree_addRequirements untouched agree _ role.vms

end

end VMGroupXML

theorem agree_doVmGroups (untouched : Untouched measure) (vmgpool : VMGroupPoolXML)
    (rolesPool pool : Map Oid VirtualMachineXML) : Agree measure pool (doVmGroups vmgpool rolesPool pool) :=
  agree_foldl (fun _ => rfl) fun _ group agree => group.agree_setRequirements untouched agree

end OpenNebula.Schedm.Rank
