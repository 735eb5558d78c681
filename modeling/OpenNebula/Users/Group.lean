import Mathlib.Data.Finset.Sort
import OpenNebula.Acl.AclManager

namespace OpenNebula.Users

open Acl Library

/-! # Groups, their members and their administrators (`Group`)

A user object lists its groups, and a group object lists its users and which of them
administer it.  An administrator gets four rules, which are added and deleted together with
the role.
-/

/-- The identifiers of the objects of a pool: the values of an `int` that are not negative -/
abbrev Oid := Fin (2 ^ 31)

namespace Oid

theorem bound_pos : 0 < 2 ^ 31 := by decide

def ofNat (number : Nat) : Oid := ⟨number % 2 ^ 31, Nat.mod_lt number bound_pos⟩

/-- The `int` -/
def bits (oid : Oid) : BitVec 32 := BitVec.ofNat 32 oid.val

end Oid

structure User where
  gid : Oid
  groups : Finset Oid
deriving DecidableEq

namespace User

variable (user : User)

def setGroup (gid : Oid) : User := { user with gid }

def addGroup (gid : Oid) : Except Int User :=
  if gid ∈ user.groups then .error (-1) else .ok { user with groups := insert gid user.groups }

def delGroup (gid : Oid) : Except Int User :=
  if gid = user.gid then .error (-2)
  else if gid ∈ user.groups then .ok { user with groups := user.groups.erase gid }
  else .error (-1)

def after (result : Except Int User) : User :=
  match result with
  | .ok changed => changed
  | .error _ => user

end User

structure Group where
  users : Finset Oid := ∅
  admins : Finset Oid := ∅

/-- `#<uid> USER/@<gid> USE+MANAGE+ADMIN+CREATE *` -/
def userRule (userId oid : Oid) : AclRule where
  oid := -1
  user := individualId ||| wide userId.bits
  resource := ObjectType.bits .user ||| groupId ||| wide oid.bits
  rights := Operation.bits .use ||| Operation.bits .manage ||| Operation.bits .admin |||
    Operation.bits .create
  zone := allId

/-- `#<uid> VM+NET+IMAGE+TEMPLATE+DOCUMENT+SECGROUP+VROUTER+VMGROUP+BACKUPJOB/@<gid> USE+MANAGE *` -/
def objectRule (userId oid : Oid) : AclRule where
  oid := -1
  user := individualId ||| wide userId.bits
  resource :=
    ObjectType.union [.vm, .net, .image, .template, .document, .secgroup, .vrouter, .vmgroup,
      .backupjob] ||| groupId ||| wide oid.bits
  rights := Operation.bits .use ||| Operation.bits .manage
  zone := allId

/-- `#<uid> VROUTER/* CREATE *` -/
def routerRule (userId : Oid) : AclRule where
  oid := -1
  user := individualId ||| wide userId.bits
  resource := allId ||| ObjectType.bits .vrouter
  rights := Operation.bits .create
  zone := allId

def groupRule (userId oid : Oid) : AclRule where
  oid := -1
  user := individualId ||| wide userId.bits
  resource := ObjectType.bits .group ||| individualId ||| wide oid.bits
  rights := Operation.bits .manage
  zone := allId

def adminRules (userId oid : Oid) : List AclRule :=
  [userRule userId oid, objectRule userId oid, routerRule userId, groupRule userId oid]

/-- A call of `add_rule` all of whose statements succeed; its error only goes to the log. -/
def addRule (acl : AclManager) (rule : AclRule) : AclManager :=
  (acl.addRule {} rule.user rule.resource rule.rights rule.zone).1

/-- A call of `del_rule` all of whose statements succeed; its error only goes to the log. -/
def delRule (acl : AclManager) (rule : AclRule) : AclManager :=
  (acl.delRuleOf {} rule.user rule.resource rule.rights rule.zone).1

def addAdminRules (acl : AclManager) (userId oid : Oid) : AclManager :=
  (adminRules userId oid).foldl addRule acl

def delAdminRules (acl : AclManager) (userId oid : Oid) : AclManager :=
  (adminRules userId oid).foldl delRule acl

namespace Group

variable (group : Group) (acl : AclManager) (oid userId : Oid)

def addUser : Group := { group with users := insert userId group.users }

def addAdmin : Except String (Group × AclManager) :=
  if userId ∉ group.users then
    .error s!"User {userId.val} is not part of Group {oid.val}."
  else if userId ∈ group.admins then
    .error s!"User {userId.val} is already an administrator of Group {oid.val}."
  else .ok ({ group with admins := insert userId group.admins }, addAdminRules acl userId oid)

def delAdmin : Except String (Group × AclManager) :=
  if userId ∈ group.admins then
    .ok ({ group with admins := group.admins.erase userId }, delAdminRules acl userId oid)
  else .error s!"User {userId.val} is not an administrator of Group {oid.val}."

def after (result : Except String (Group × AclManager)) : Group × AclManager :=
  match result with
  | .ok changed => changed
  | .error _ => (group, acl)

def delUser : Group × AclManager :=
  let (left, rules) := if userId ∈ group.admins then group.after acl (group.delAdmin acl oid userId) else (group, acl)
  ({ left with users := left.users.erase userId }, rules)

end Group

structure Directory where
  users : Map Oid User := ∅
  groups : Map Oid Group := ∅
  acl : AclManager := {}

/-- What is done between the get and the update of one object -/
inductive Operation where
  | addUser (gid uid : Oid)
  | delUser (gid uid : Oid)
  | addAdmin (gid uid : Oid)
  | delAdmin (gid uid : Oid)
  /-- The user gives the group back, which does not exist any more. -/
  | leaveGroup (uid gid : Oid)
  | delUidRules (uid : Oid)
deriving DecidableEq

namespace Directory

variable (directory : Directory)

def editGroup (gid : Oid) (change : Group → AclManager → Group × AclManager) : Directory :=
  match directory.groups.lookup gid with
  | none => directory
  | some group =>
    let (changed, acl) := change group directory.acl
    { directory with groups := Map.update gid (fun _ => changed) directory.groups, acl }

def apply : Operation → Directory
  | .addUser gid uid => directory.editGroup gid fun group acl => (group.addUser uid, acl)
  | .delUser gid uid => directory.editGroup gid fun group acl => group.delUser acl gid uid
  | .addAdmin gid uid =>
    directory.editGroup gid fun group acl => group.after acl (group.addAdmin acl gid uid)
  | .delAdmin gid uid =>
    directory.editGroup gid fun group acl => group.after acl (group.delAdmin acl gid uid)
  | .leaveGroup uid gid =>
    { directory with
      users := Map.update uid (fun user => user.after (user.delGroup gid)) directory.users }
  | .delUidRules uid => { directory with acl := directory.acl.delUidRules {} uid.bits }

def withGroup (directory : Directory) (gid : Oid) (changed : Group) (acl : AclManager) : Directory :=
  { directory with groups := Map.update gid (fun _ => changed) directory.groups, acl }

variable {directory} {gid : Oid} {group changed : Group} {acl : AclManager}

theorem editGroup_eq (found : directory.groups.lookup gid = some group)
    (change : Group → AclManager → Group × AclManager) : directory.editGroup gid change =
      directory.withGroup gid (change group directory.acl).1 (change group directory.acl).2 := by
  rw [editGroup, found]
  rfl

theorem lookup_withGroup (found : directory.groups.lookup gid = some group) (other : Oid) :
    (directory.withGroup gid changed acl).groups.lookup other =
      if other = gid then some changed else directory.groups.lookup other := by
  rw [withGroup, Map.lookup_update]
  split
  · rename_i same
    rw [same, found]
    rfl
  · exact congrFun Option.map_id _

theorem editGroup_missing (absent : directory.groups.lookup gid = none)
    (change : Group → AclManager → Group × AclManager) : directory.editGroup gid change = directory := by
  rw [editGroup, absent]

end Directory

end OpenNebula.Users
