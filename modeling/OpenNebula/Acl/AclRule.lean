import Mathlib.Data.Nat.Notation

namespace OpenNebula.Acl

/-! # Access control rules (`AclRule`)

A rule is a user, a resource, rights and a zone.  Each of them is a compound of 64 bits:
the identifier in the lower half, and bits for the kind of identifier, and for the types
of the resource, above.
-/

inductive ObjectType where
  | none
  | vm
  | host
  | net
  | image
  | user
  | template
  | group
  | acl
  | datastore
  | cluster
  | document
  | zone
  | secgroup
  | vdc
  | vrouter
  | marketplace
  | marketplaceapp
  | vmgroup
  | vntemplate
  | hook
  | backupjob
  | scheduledaction
deriving DecidableEq

namespace ObjectType

def bits : ObjectType → BitVec 64
  | .none => 0
  | .vm => 0x0000001000000000
  | .host => 0x0000002000000000
  | .net => 0x0000004000000000
  | .image => 0x0000008000000000
  | .user => 0x0000010000000000
  | .template => 0x0000020000000000
  | .group => 0x0000040000000000
  | .acl => 0x0000080000000000
  | .datastore => 0x0000100000000000
  | .cluster => 0x0000200000000000
  | .document => 0x0000400000000000
  | .zone => 0x0000800000000000
  | .secgroup => 0x0001000000000000
  | .vdc => 0x0002000000000000
  | .vrouter => 0x0004000000000000
  | .marketplace => 0x0008000000000000
  | .marketplaceapp => 0x0010000000000000
  | .vmgroup => 0x0020000000000000
  | .vntemplate => 0x0040000000000000
  | .hook => 0x0080000000000000
  | .backupjob => 0x0100000000000000
  | .scheduledaction => 0x0200000000000000

def toStr : ObjectType → String
  | .none => ""
  | .vm => "VM"
  | .host => "HOST"
  | .net => "NET"
  | .image => "IMAGE"
  | .user => "USER"
  | .template => "TEMPLATE"
  | .group => "GROUP"
  | .acl => "ACL"
  | .datastore => "DATASTORE"
  | .cluster => "CLUSTER"
  | .document => "DOCUMENT"
  | .zone => "ZONE"
  | .secgroup => "SECGROUP"
  | .vdc => "VDC"
  | .vrouter => "VROUTER"
  | .marketplace => "MARKETPLACE"
  | .marketplaceapp => "MARKETPLACEAPP"
  | .vmgroup => "VMGROUP"
  | .vntemplate => "VNTEMPLATE"
  | .hook => "HOOK"
  | .backupjob => "BACKUPJOB"
  | .scheduledaction => "SCHEDULEDACTION"

def union (types : List ObjectType) : BitVec 64 := types.foldl (fun bits type => bits ||| type.bits) 0

end ObjectType

inductive Operation where
  | none
  | use
  | useNoLck
  | manage
  | manageNoLck
  | admin
  | adminNoLck
  | create
  | createNoLck
deriving DecidableEq

namespace Operation

def bits : Operation → BitVec 64
  | .none => 0x0
  | .use => 0x1
  | .useNoLck => 0x11
  | .manage => 0x2
  | .manageNoLck => 0x12
  | .admin => 0x4
  | .adminNoLck => 0x14
  | .create => 0x8
  | .createNoLck => 0x18

def toStr : Operation → String
  | .none => ""
  | .use | .useNoLck => "USE"
  | .manage | .manageNoLck => "MANAGE"
  | .admin | .adminNoLck => "ADMIN"
  | .create | .createNoLck => "CREATE"

end Operation

def individualId : BitVec 64 := 0x0000000100000000
def groupId : BitVec 64 := 0x0000000200000000
def allId : BitVec 64 := 0x0000000400000000
def clusterId : BitVec 64 := 0x0000000800000000

def noneId : BitVec 64 := 0x1000000000000000

structure AclRule where
  oid : Int
  user : BitVec 64
  resource : BitVec 64
  rights : BitVec 64
  zone : BitVec 64
deriving DecidableEq

namespace AclRule

variable (rule : AclRule)

def sameAs (other : AclRule) : Bool :=
  rule.user = other.user && rule.resource = other.resource && rule.rights = other.rights &&
    rule.zone = other.zone

def idOf (compound : BitVec 64) : BitVec 32 := compound.setWidth 32

def userId : Int := (idOf rule.user).toInt

def resourceId : Int := (idOf rule.resource).toInt

def zoneId : Int := (idOf rule.zone).toInt

def resourceType : BitVec 64 := rule.resource &&& 0xFFFFFFFF00000000 &&& 0xFFFFFFF000000000

def has (compound bits : BitVec 64) : Bool := compound &&& bits ≠ 0

def invalidClusterObjects : BitVec 64 :=
  ObjectType.union [.vm, .image, .user, .template, .group, .acl, .cluster, .document, .zone,
    .secgroup, .vdc, .vrouter, .marketplace, .marketplaceapp, .vmgroup, .vntemplate]

def invalidGroupObjects : BitVec 64 := ObjectType.union [.host, .group, .cluster, .zone, .vdc]

def federatedObjects : BitVec 64 := ObjectType.union [.user, .group, .zone, .acl, .vdc]

def poolObjects : List ObjectType :=
  [.vm, .host, .net, .image, .user, .template, .group, .datastore, .cluster, .document, .zone,
    .secgroup, .vdc, .vrouter, .marketplace, .marketplaceapp, .vmgroup, .vntemplate, .backupjob]

def authOperations : List Operation := [.use, .manage, .admin, .create]

def buildStr : String :=
  let user :=
    if has rule.user groupId then s!"@{rule.userId}"
    else if has rule.user individualId then s!"#{rule.userId}"
    else if has rule.user allId then "*"
    else "??"
  let types := (poolObjects.filter fun type => has rule.resource type.bits).map ObjectType.toStr
  let resource :=
    if has rule.resource groupId then s!"@{rule.resourceId}"
    else if has rule.resource individualId then s!"#{rule.resourceId}"
    else if has rule.resource clusterId then s!"%{rule.resourceId}"
    else if has rule.resource allId then "*"
    else "??"
  let rights := (authOperations.filter fun operation => has rule.rights operation.bits).map Operation.toStr
  let zone :=
    if has rule.zone individualId then s!"#{rule.zoneId}"
    else if has rule.zone allId then "*"
    else "??"
  user ++ " " ++ "+".intercalate types ++ "/" ++ resource ++ " " ++ "+".intercalate rights ++ " " ++
    zone

/-- A check of `malformed`: whether it fails, and what is then added to the message -/
structure Check where
  failed : Bool
  message : String
  separator : String

def userChecks : List Check :=
  [⟨has rule.user individualId && has rule.user groupId,
      "[user] INDIVIDUAL (#) and GROUP (@) bits are exclusive", "; "⟩,
    ⟨has rule.user individualId && has rule.user allId, "[user] INDIVIDUAL (#) and ALL (*) bits are exclusive", "; "⟩,
    ⟨has rule.user groupId && has rule.user allId, "[user] GROUP (@) and ALL (*) bits are exclusive", "; "⟩,
    ⟨!has rule.user 0x700000000, "[user] is missing one of the INDIVIDUAL, GROUP or ALL bits", "; "⟩,
    ⟨rule.userId < 0, "[user] ID cannot be negative", "; "⟩,
    ⟨has rule.user allId && rule.userId ≠ 0, "when using the ALL bit, [user] ID must be 0", "; "⟩]

def notAlone (bit : BitVec 64) : Bool :=
  has rule.resource bit && rule.resource &&& 0xF00000000 ≠ bit

def resourceChecks : List Check :=
  [⟨rule.notAlone individualId || rule.notAlone groupId || rule.notAlone clusterId || rule.notAlone allId,
      "[resource] INDIVIDUAL (#), GROUP (@), CLUSTER (%) and ALL (*) bits are exclusive", "; "⟩,
    ⟨has rule.resource clusterId && has rule.resourceType invalidClusterObjects,
      "[resource] CLUSTER(%) selector can be applied only to DATASTORE, HOST and NET types", "; "⟩,
    ⟨has rule.resource groupId && has rule.resourceType invalidGroupObjects,
      "[resource] GROUP(@) selector cannot be applied to HOST, GROUP, CLUSTER, ZONE or VDC types",
      "; "⟩,
    ⟨!has rule.resource 0xF00000000, "[resource] is missing one of the INDIVIDUAL, GROUP, CLUSTER or ALL bits", "; "⟩,
    ⟨rule.resourceId < 0, "[resource] ID cannot be negative", "; "⟩,
    ⟨has rule.resource allId && rule.resourceId ≠ 0, "when using the ALL bit, [resource] ID must be 0", "; "⟩,
    ⟨!has rule.resource 0xFFFFFFF000000000, "[resource] type is missing", "; "⟩,
    ⟨has rule.resource 0xFE80000000000000, "wrong [resource] type", "; "⟩]

def rightsChecks : List Check :=
  [⟨rule.rights = 0, "wrong [rights], it cannot be 0", "; "⟩,
    ⟨0xF < rule.rights.toInt, "wrong [rights], it cannot be bigger than 0xF", "; "⟩]

def zoneChecks : List Check :=
  [⟨has rule.zone groupId, "[zone] GROUP (@) bit is not supported", ""⟩,
    ⟨has rule.zone individualId && has rule.zone allId, "[zone] INDIVIDUAL (#) and ALL (*) bits are exclusive", "; "⟩,
    ⟨!has rule.zone 0x700000000, "[zone] is missing one of the INDIVIDUAL or ALL bits", "; "⟩,
    ⟨rule.zoneId < 0, "[zone] ID cannot be negative", "; "⟩,
    ⟨has rule.zone allId && rule.zoneId ≠ 0, "when using the ALL bit, [zone] ID must be 0", "; "⟩,
    ⟨has rule.zone allId && has rule.resource individualId &&
        rule.resourceType &&& federatedObjects ≠ rule.resourceType,
      "[resource] INDIVIDUAL(#) selector cannot be applied to ALL zones, except for USER, GROUP " ++
        "and ZONE types", "; "⟩]

def checks : List Check :=
  rule.userChecks ++ rule.resourceChecks ++ rule.rightsChecks ++ rule.zoneChecks

def report (message : Option String) (check : Check) : Option String :=
  if check.failed then
    some (message.elim check.message fun text => text ++ check.separator ++ check.message)
  else message

def malformed : Option String := rule.checks.foldl report none

theorem report_some (checks : List Check) (text : String) : (checks.foldl report (some text)).isSome := by
  induction checks generalizing text with
  | nil => rfl
  | cons check rest ih =>
    simp only [List.foldl_cons, report]
    split <;> exact ih _

theorem malformed_eq_none_iff : rule.malformed = none ↔ ∀ check ∈ rule.checks, check.failed = false := by
  have all : ∀ checks : List Check, checks.foldl report none = none ↔
      ∀ check ∈ checks, check.failed = false := by
    intro checks
    induction checks with
    | nil => simp
    | cons check rest ih =>
      rw [List.foldl_cons, List.forall_mem_cons, report]
      split
      · rename_i failed
        have isSome := report_some rest check.message
        simp only [failed, Option.elim_none, Bool.true_eq_false, false_and, iff_false]
        exact fun isNone => by simp [isNone] at isSome
      · rename_i passed
        rw [ih]
        simp [passed]
  exact all rule.checks

end AclRule

end OpenNebula.Acl
