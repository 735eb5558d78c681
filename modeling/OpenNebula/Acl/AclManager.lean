import Mathlib.Data.List.Sort
import OpenNebula.Acl.AclRule
import OpenNebula.Library.Map
import OpenNebula.Library.Transition

namespace OpenNebula.Acl

open Library

/-! # The rule tables (`AclManager`)

The rules are kept in two maps, one by user and one by identifier, and in a table of the
database.  A request is authorised by looking for a rule, and the objects that a user may
see are found by looking at all of his rules.
-/

/-- Which statements of a call succeed -/
structure Answers where
  /-- The last identifier is read; -1 is taken when it is not. -/
  reads : Bool := true
  inserts : Bool := true
  /-- A key that is taken is no error, as on a leader whose `LogDB` has logged the statement by then. -/
  duplicates : Bool := false
  saves : Bool := true
  /-- The rule with this identifier is deleted. -/
  drops : Int → Bool := fun _ => true

structure AclManager where
  zoneId : BitVec 32 := 0
  isFederationSlave : Bool := false
  /-- The rules of the multimap in the order of their insertion; the keys are their users. -/
  aclRules : List AclRule := []
  aclRulesOids : Map Int AclRule := ∅
  rows : Map Int AclRule := ∅
  /-- The row of the table in `pool_control`, -1 when there is none -/
  lastOid : Int := -1

/-- The part of `PoolObjectAuth` that is read; the permissions are those of the owner, of his
group and of the others. -/
structure Permissions where
  use : Bool
  manage : Bool
  admin : Bool

structure PoolObjectAuth where
  objType : ObjectType
  oid : BitVec 32
  uid : BitVec 32
  gid : BitVec 32
  cids : List (BitVec 32)
  owner : Permissions
  group : Permissions
  other : Permissions
  disableAllAcl : Bool
  disableClusterAcl : Bool
  disableGroupAcl : Bool
  locked : Int

/-- An `int` in a compound -/
def wide (id : BitVec 32) : BitVec 64 := id.signExtend 64

namespace AclManager

variable (manager : AclManager)

structure ResourceRequest where
  oid : BitVec 64
  gid : BitVec 64
  cids : List (BitVec 64)
  all : BitVec 64
  oidMask : BitVec 64
  gidMask : BitVec 64
  cidMask : BitVec 64

def resourceRequest (perms : PoolObjectAuth) : ResourceRequest where
  oid := if 0 ≤ perms.oid.toInt then perms.objType.bits ||| individualId ||| wide perms.oid else noneId
  gid :=
    if 0 ≤ perms.gid.toInt ∧ !perms.disableGroupAcl then
      perms.objType.bits ||| groupId ||| wide perms.gid
    else noneId
  cids :=
    if perms.disableClusterAcl then []
    else perms.cids.map fun cid => perms.objType.bits ||| clusterId ||| wide cid
  all := if perms.disableAllAcl then noneId else perms.objType.bits ||| allId
  oidMask := perms.objType.bits ||| individualId ||| 0x00000000FFFFFFFF
  gidMask := perms.objType.bits ||| groupId ||| 0x00000000FFFFFFFF
  cidMask := perms.objType.bits ||| clusterId ||| 0x00000000FFFFFFFF

def matchRule (request : ResourceRequest) (rightsReq : BitVec 64) (rule : AclRule) : Bool :=
  (rule.zone &&& allId = allId ||
      rule.zone &&& (individualId ||| 0x00000000FFFFFFFF) = individualId ||| wide manager.zoneId) &&
    rule.rights &&& rightsReq = rightsReq &&
    (rule.resource &&& request.all = request.all || rule.resource &&& request.gidMask = request.gid ||
      rule.resource &&& request.oidMask = request.oid ||
      request.cids.any fun cid => rule.resource &&& request.cidMask = cid)

def matchRules (userReq : BitVec 64) (request : ResourceRequest) (rightsReq : BitVec 64)
    (rules : List AclRule) : Bool :=
  (rules.filter fun rule => rule.user = userReq).any (manager.matchRule request rightsReq)

def permissionRights (perms : Permissions) : BitVec 64 :=
  (if perms.use then Operation.bits .use else 0) ||| (if perms.manage then Operation.bits .manage else 0) |||
    (if perms.admin then Operation.bits .admin else 0)

def permissionRules (perms : PoolObjectAuth) : List AclRule :=
  let resource := perms.objType.bits ||| individualId ||| wide perms.oid
  let zone := individualId ||| wide manager.zoneId
  [⟨0, individualId ||| wide perms.uid, resource, permissionRights perms.owner, zone⟩,
    ⟨0, groupId ||| wide perms.gid, resource, permissionRights perms.group, zone⟩,
    ⟨0, allId, resource, permissionRights perms.other, zone⟩]

section

variable (uid : BitVec 32)

section

variable (userGroups : List (BitVec 32))

def userReqs : List (BitVec 64) :=
  allId :: (individualId ||| wide uid) :: userGroups.map fun group => groupId ||| wide group

def plainRights (op : Operation) : BitVec 64 :=
  if op.bits &&& 0x10 ≠ 0 then op.bits &&& 0x0F else op.bits

def authorize (perms : PoolObjectAuth) (op : Operation) : Bool :=
  if op.bits &&& 0x10 = 0 ∧ 0 < perms.locked ∧ perms.locked ≤ op.bits.toInt then false
  else
    (userReqs uid userGroups).any fun userReq =>
      manager.matchRules userReq (resourceRequest perms) (plainRights op)
          (manager.permissionRules perms) ||
        manager.matchRules userReq (resourceRequest perms) (plainRights op) manager.aclRules

def authorizeByRules (perms : PoolObjectAuth)
    (op : Operation) : Bool :=
  (userReqs uid userGroups).any fun userReq =>
    manager.matchRules userReq (resourceRequest perms) (plainRights op) manager.aclRules

/-- What `reverse_search` returns -/
structure Listing where
  all : Bool := false
  oids : List Int := []
  gids : List Int := []
  cids : List Int := []
deriving DecidableEq

structure Disabled where
  all : Bool
  cluster : Bool
  group : Bool

def searchRules (objType : ObjectType) (rightsReq : BitVec 64) (disabled : Disabled) :
    List AclRule → Listing → Listing
  | [], listing => listing
  | rule :: rest, listing =>
    let allReq := objType.bits ||| allId
    let gidReq := objType.bits ||| groupId
    let cidReq := objType.bits ||| clusterId
    let oidReq := objType.bits ||| individualId
    if rule.rights &&& rightsReq = rightsReq ∧
        (rule.zone = individualId ||| wide manager.zoneId ∨ rule.zone = allId) then
      if !disabled.all ∧ rule.resource &&& allReq = allReq then { listing with all := true }
      else if !disabled.group ∧ rule.resource &&& gidReq = gidReq then
        searchRules objType rightsReq disabled rest
          { listing with gids := listing.gids ++ [rule.resourceId] }
      else if !disabled.cluster ∧ rule.resource &&& cidReq = cidReq then
        searchRules objType rightsReq disabled rest
          { listing with cids := listing.cids ++ [rule.resourceId] }
      else if rule.resource &&& oidReq = oidReq then
        searchRules objType rightsReq disabled rest
          { listing with oids := listing.oids ++ [rule.resourceId] }
      else searchRules objType rightsReq disabled rest listing
    else searchRules objType rightsReq disabled rest listing

def searchUsers (objType : ObjectType) (rightsReq : BitVec 64) (disabled : Disabled) :
    List (BitVec 64) → Listing → Listing
  | [], listing => listing
  | userReq :: rest, listing =>
    let listing := manager.searchRules objType rightsReq disabled
      (manager.aclRules.filter fun rule => rule.user = userReq) listing
    searchUsers objType rightsReq disabled rest
      (if listing.all then { all := true } else listing)

def reverseSearch (objType : ObjectType)
    (op : Operation) (disabled : Disabled) : Listing :=
  manager.searchUsers objType op.bits disabled (userReqs uid userGroups) {}

end

end

def intMax : Int := 2147483647

section

variable (answers : Answers)

/-- The identifier of a new rule -/
def nextOid : Int :=
  let lastOid := if answers.reads then manager.lastOid else -1
  (if lastOid = intMax then -1 else lastOid) + 1

/-- The value that is returned: the identifier, or a negative number, and the message -/
def addRule (user resource rights zone : BitVec 64) : AclManager × Except (Int × String) Int :=
  if manager.isFederationSlave then (manager, .error (-1, ""))
  else
    let rule : AclRule := ⟨manager.nextOid answers, user, resource, rights, zone⟩
    if (manager.aclRules.filter fun other => other.user = user).any fun other => other.sameAs rule then
      (manager, .error (-1, "Rule " ++ rule.buildStr ++ " already exists"))
    else
      match rule.malformed with
      | some message =>
        (manager, .error (-2, "Rule " ++ rule.buildStr ++ " is malformed: " ++ message))
      | none =>
        -- The identifier is the primary key of the table.
        if !answers.inserts ∨ (!answers.duplicates ∧ rule.oid ∈ manager.rows) then
          (manager, .error (-3, "Error inserting rule in DB"))
        else
          ({ manager with
              rows := manager.rows.insertNew rule.oid rule
              aclRules := manager.aclRules ++ [rule]
              aclRulesOids := manager.aclRulesOids.insertNew rule.oid rule
              lastOid := if answers.saves then rule.oid else manager.lastOid },
            .ok rule.oid)

def delRule (oid : Int) : AclManager × Except String Unit :=
  if manager.isFederationSlave then (manager, .error "")
  else
    match manager.aclRulesOids.lookup oid with
    | none => (manager, .error s!"Rule {oid} does not exist")
    | some rule =>
      match manager.aclRules.find? fun other => other.user = rule.user && rule.sameAs other with
      | none => (manager, .error "")
      | some found =>
        if !answers.drops oid then (manager, .error "SQL DB error")
        else
          ({ manager with
              rows := manager.rows.erase oid
              aclRules := manager.aclRules.erase found
              aclRulesOids := manager.aclRulesOids.erase oid },
            .ok ())

def delRuleOf (user resource rights zone : BitVec 64) : AclManager × Except String Unit :=
  let rule : AclRule := ⟨-1, user, resource, rights, zone⟩
  match manager.aclRules.find? fun other => other.user = user && other.sameAs rule with
  | none => (manager, .error "Rule does not exist")
  | some found =>
    if found.oid ≠ -1 then manager.delRule answers found.oid
    else (manager, .error "Rule does not exist")

def delRules (answers : Answers) : List Int → AclManager → AclManager
  | [], manager => manager
  | oid :: rest, manager => delRules answers rest (manager.delRule answers oid).1

def ordered : List AclRule :=
  manager.aclRules.insertionSort fun left right => left.user.toInt ≤ right.user.toInt

def delUserMatchingRules (userReq : BitVec 64) : AclManager :=
  delRules answers
    ((manager.aclRules.filter fun rule => rule.user = userReq).map AclRule.oid) manager

def delResourceMatchingRules (resourceReq resourceMask : BitVec 64) : AclManager :=
  delRules answers
    ((manager.ordered.filter fun rule => rule.resource &&& resourceMask = resourceReq).map AclRule.oid) manager

def delZoneMatchingRules (zoneReq : BitVec 64) : AclManager :=
  delRules answers ((manager.ordered.filter fun rule => rule.zone = zoneReq).map AclRule.oid) manager

def delUidRules (uid : BitVec 32) : AclManager :=
  manager.delUserMatchingRules answers (individualId ||| wide uid)

def delGidRules (gid : BitVec 32) : AclManager :=
  (manager.delUserMatchingRules answers (groupId ||| wide gid)).delResourceMatchingRules answers
    (groupId ||| wide gid) (groupId ||| 0x00000000FFFFFFFF)

def delCidRules (cid : BitVec 32) : AclManager :=
  manager.delResourceMatchingRules answers (clusterId ||| wide cid) (clusterId ||| 0x00000000FFFFFFFF)

def delZidRules (zid : BitVec 32) : AclManager :=
  manager.delZoneMatchingRules answers (individualId ||| wide zid)

def delResourceRules (oid : BitVec 32) (objType : ObjectType) : AclManager :=
  manager.delResourceMatchingRules answers (objType.bits ||| individualId ||| wide oid)
    0xFFFFFFFFFFFFFFFF

end

/-- `select_cb` -/
def load (manager : AclManager) (rule : AclRule) : AclManager :=
  { manager with
    aclRules := manager.aclRules ++ [rule]
    aclRulesOids := manager.aclRulesOids.insertNew rule.oid rule }

/-- The tables are cleared, and then the rows are read: all of them, or the first ones when
the statement fails. -/
def select (failsAfter : Option Nat) : AclManager :=
  let rules := (manager.rows.entries.map Sigma.snd).reverse
  (failsAfter.elim rules fun count => rules.take count).foldl load
    { manager with aclRules := [], aclRulesOids := ∅ }

inductive Event where
  | addRule (answers : Answers) (user resource rights zone : BitVec 64)
  | delRule (answers : Answers) (oid : Int)
  | delRuleOf (answers : Answers) (user resource rights zone : BitVec 64)
  | delUidRules (answers : Answers) (uid : BitVec 32)
  | delGidRules (answers : Answers) (gid : BitVec 32)
  | delCidRules (answers : Answers) (cid : BitVec 32)
  | delZidRules (answers : Answers) (zid : BitVec 32)
  | delResourceRules (answers : Answers) (oid : BitVec 32) (objType : ObjectType)
  | select (failsAfter : Option Nat)

def step (manager : AclManager) : Event → AclManager
  | .addRule answers user resource rights zone =>
    (manager.addRule answers user resource rights zone).1
  | .delRule answers oid => (manager.delRule answers oid).1
  | .delRuleOf answers user resource rights zone =>
    (manager.delRuleOf answers user resource rights zone).1
  | .delUidRules answers uid => manager.delUidRules answers uid
  | .delGidRules answers gid => manager.delGidRules answers gid
  | .delCidRules answers cid => manager.delCidRules answers cid
  | .delZidRules answers zid => manager.delZidRules answers zid
  | .delResourceRules answers oid objType => manager.delResourceRules answers oid objType
  | .select failsAfter => manager.select failsAfter

/-- The daemon starts with an empty database, in any zone. -/
def system : System AclManager Event where
  initial manager := ∃ zoneId isFederationSlave, manager = { zoneId, isFederationSlave }
  step manager event := some (manager.step event)

end AclManager

end OpenNebula.Acl
