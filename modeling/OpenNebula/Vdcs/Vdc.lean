import Mathlib.Data.List.Sort
import OpenNebula.Library.Streams
import OpenNebula.Users.Group

namespace OpenNebula.Vdcs

open Acl Library
open Users hiding Operation

/-! # Virtual data centers (`Vdc`)

A VDC is a set of groups and four sets of resources.  Each group gets rules on each of the
resources; they are added to the store, and deleted from it, when a VDC changes.
-/

/-- The type of a `ResourceSet`, in the order in which a VDC goes through its sets -/
inductive Kind where
  | clusters
  | hosts
  | datastores
  | vnets
deriving DecidableEq

namespace Kind

def all : List Kind := [.clusters, .hosts, .datastores, .vnets]

def type : Kind → ObjectType
  | .clusters => .cluster
  | .hosts => .host
  | .datastores => .datastore
  | .vnets => .net

def vdcStr : Kind → String
  | .clusters => "CLUSTER"
  | .hosts => "HOST"
  | .datastores => "DATASTORE"
  | .vnets => "VNET"

end Kind

def strToOperation (str : String) : Acl.Operation :=
  if str = "USE" then .use
  else if str = "MANAGE" then .manage
  else if str = "ADMIN" then .admin
  else if str = "CREATE" then .create
  else .none

abbrev Configuration := String → String

def addOperation (op : BitVec 64) (str : String) : BitVec 64 :=
  if str ≠ "" ∧ str ≠ "-" ∧ strToOperation str ≠ .none then op ||| (strToOperation str).bits else op

def defaultRights (text : String) : BitVec 64 :=
  ((pieces '+' text).filter (· ≠ "")).foldl addOperation Acl.Operation.none.bits

def insertDefaultRules (config : Configuration) (nameAttr : String) (type : ObjectType) :
    List (ObjectType × BitVec 64) :=
  let op := defaultRights (config nameAttr)
  if op ≠ Acl.Operation.none.bits then [(type, op)] else []

def Kind.rules (config : Configuration) : Kind → List (ObjectType × BitVec 64)
  | .clusters =>
    insertDefaultRules config "DEFAULT_VDC_CLUSTER_HOST_ACL" .host ++
      insertDefaultRules config "DEFAULT_VDC_CLUSTER_NET_ACL" .net ++
      insertDefaultRules config "DEFAULT_VDC_CLUSTER_DATASTORE_ACL" .datastore
  | kind => insertDefaultRules config ("DEFAULT_VDC_" ++ kind.vdcStr ++ "_ACL") kind.type

def allResources : BitVec 32 := -10

/-- A resource of a zone; identifiers in other zones are not checked. -/
abbrev Resource := Oid × BitVec 32

instance : LawfulBEq Resource := inferInstance

/-- The order of a `set<pair<int, int>>` -/
def Resource.before (left right : Resource) : Prop :=
  left.1 < right.1 ∨ left.1 = right.1 ∧ left.2.toInt ≤ right.2.toInt

instance : DecidableRel Resource.before := fun _ _ => inferInstanceAs (Decidable (_ ∨ _))

namespace ResourceSet

variable (config : Configuration) (kind : Kind) (gid : Oid) (resource : Resource) (acl : AclManager)

def maskPrefix (id : BitVec 32) : BitVec 64 :=
  if id = allResources then allId
  else if kind = .clusters then clusterId ||| wide id
  else individualId ||| wide id

def rulesOf : List AclRule :=
  (kind.rules config).map fun rule =>
    { oid := -1
      user := groupId ||| wide gid.bits
      resource := maskPrefix kind resource.2 ||| rule.1.bits
      rights := rule.2
      zone := individualId ||| wide resource.1.bits }

def addRule : AclManager := (rulesOf config kind gid resource).foldl Users.addRule acl

def delRule : AclManager := (rulesOf config kind gid resource).foldl Users.delRule acl

section

variable (resources : List Resource)

def addGroupRules : AclManager :=
  resources.foldl (fun acl resource => addRule config kind gid resource acl) acl

def delGroupRules : AclManager :=
  resources.foldl (fun acl resource => delRule config kind gid resource acl) acl

def del (groups : List Oid) (resources : List Resource) : Except String (List Resource × AclManager) :=
  if resource ∈ resources then
    .ok (resources.filter (· ≠ resource), groups.foldl (fun acl gid => delRule config kind gid resource acl) acl)
  else
    .error s!"{kind.type.toStr} {resource.2.toInt} from Zone {resource.1.val} is not assigned to the VDC "

/-- The set and the rules after a call of `del` whose error is not looked at -/
def delNext (groups : List Oid) (left : List Resource × AclManager) (resource : Resource) :
    List Resource × AclManager :=
  match del config kind resource left.2 groups left.1 with
  | .ok changed => changed
  | .error _ => left

def replaced : List Resource :=
  resources.filter fun other => other.1 = resource.1 && other.2 ≠ allResources

end

def add (groups : List Oid) (resources : List Resource) : Except String (List Resource × AclManager) :=
  if resource ∈ resources then
    .error s!"{kind.type.toStr} {resource.2.toInt} from Zone {resource.1.val} is already assigned to the VDC"
  else
    let acl := groups.foldl (fun acl gid => addRule config kind gid resource acl) acl
    let resources := resources.orderedInsert Resource.before resource
    if resource.2 = allResources then
      .ok ((replaced resource resources).foldl (delNext config kind groups) (resources, acl))
    else .ok (resources, acl)

end ResourceSet

structure Vdc where
  groups : List Oid := []
  resources : Kind → List Resource := fun _ => []

namespace Vdc

variable (vdc : Vdc) (config : Configuration) (oid : Nat) (gid : Oid) (acl : AclManager)

def addGroup : Except String (Vdc × AclManager) :=
  if gid ∈ vdc.groups then
    .error s!"Group {gid.val} is already assigned to the VDC {oid}"
  else
    .ok ({ vdc with groups := vdc.groups.orderedInsert (· ≤ ·) gid },
      Kind.all.foldl (fun acl kind => ResourceSet.addGroupRules config kind gid acl (vdc.resources kind)) acl)

def delGroupRules : AclManager :=
  Kind.all.foldl (fun acl kind => ResourceSet.delGroupRules config kind gid acl (vdc.resources kind)) acl

def delGroup : Except String (Vdc × AclManager) :=
  if gid ∈ vdc.groups then
    .ok ({ vdc with groups := vdc.groups.filter (· ≠ gid) }, vdc.delGroupRules config gid acl)
  else .error s!"Group {gid.val} is not assigned to the VDC {oid}"

def drop : AclManager := vdc.groups.foldl (fun acl gid => vdc.delGroupRules config gid acl) acl

def withResources (kind : Kind) (changed : List Resource × AclManager) : Vdc × AclManager :=
  ({ vdc with resources := Function.update vdc.resources kind changed.1 }, changed.2)

def add (kind : Kind) (resource : Resource) : Except String (Vdc × AclManager) :=
  (ResourceSet.add config kind resource acl vdc.groups (vdc.resources kind)).map (vdc.withResources kind)

def del (kind : Kind) (resource : Resource) : Except String (Vdc × AclManager) :=
  (ResourceSet.del config kind resource acl vdc.groups (vdc.resources kind)).map (vdc.withResources kind)

end Vdc

structure VdcPool where
  vdcs : Map Nat Vdc := ∅
  acl : AclManager := {}

inductive Event where
  /-- The pool gives an identifier that is not in use. -/
  | allocate (oid : Nat)
  | drop (oid : Nat)
  | addGroup (oid : Nat) (gid : Oid)
  | delGroup (oid : Nat) (gid : Oid)
  | add (oid : Nat) (kind : Kind) (resource : Resource)
  | del (oid : Nat) (kind : Kind) (resource : Resource)

namespace VdcPool

variable (config : Configuration) (pool : VdcPool)

def edit (oid : Nat) (action : Vdc → AclManager → Except String (Vdc × AclManager)) : VdcPool :=
  match pool.vdcs.lookup oid with
  | none => pool
  | some vdc =>
    match action vdc pool.acl with
    | .ok (changed, acl) => { vdcs := pool.vdcs.insert oid changed, acl }
    | .error _ => pool

def drop (oid : Nat) : VdcPool :=
  match pool.vdcs.lookup oid with
  | none => pool
  | some vdc =>
    if oid < 100 then pool else { vdcs := pool.vdcs.erase oid, acl := vdc.drop config pool.acl }

def apply : Event → VdcPool
  | .allocate oid => { pool with vdcs := pool.vdcs.insert oid {} }
  | .drop oid => pool.drop config oid
  | .addGroup oid gid => pool.edit oid fun vdc acl => vdc.addGroup config oid gid acl
  | .delGroup oid gid => pool.edit oid fun vdc acl => vdc.delGroup config oid gid acl
  | .add oid kind resource => pool.edit oid fun vdc acl => vdc.add config acl kind resource
  | .del oid kind resource => pool.edit oid fun vdc acl => vdc.del config acl kind resource

end VdcPool

end OpenNebula.Vdcs
