import Mathlib.Data.Finset.Sort
import OpenNebula.Common.ObjectXml
import OpenNebula.Common.TemplateXml

namespace OpenNebula.Users

open Common Library

/-! # Users as they are stored (`User::to_xml`, `User::from_xml`)

The pool reads a user from the database each time that it is asked for one, and writes it with
every update.  The texts that clients choose are written as they are, apart from the password
and the name of the driver.
-/

structure LoginToken where
  token : String
  expirationTime : Int
  /-- -1 for a token that stands for all the groups of the user -/
  egid : Int

structure UserRecord where
  oid : Int
  gid : Int
  gname : String := ""
  name : String
  password : String
  authDriver : String := "core"
  enabled : Bool := true
  groups : Finset Int
  loginTokens : Map String LoginToken := ∅
  template : Template := {}

def LoginToken.toXml (login : LoginToken) : String :=
  xmlElement "LOGIN_TOKEN"
    (xmlElement "TOKEN" login.token ++ xmlElement "EXPIRATION_TIME" (toString login.expirationTime) ++
      xmlElement "EGID" (toString login.egid))

theorem insertionSort_congr {first second : List Int} (same : first.Perm second) :
    first.insertionSort (· ≤ ·) = second.insertionSort (· ≤ ·) := by
  have perm := ((List.perm_insertionSort (· ≤ ·) first).trans same).trans
    (List.perm_insertionSort (· ≤ ·) second).symm
  exact perm.eq_of_pairwise' (List.pairwise_insertionSort _ first) (List.pairwise_insertionSort _ second)

namespace UserRecord

variable (user : UserRecord)

def groupIds : List Int := Quot.liftOn user.groups.val (List.insertionSort (· ≤ ·)) fun _ _ => insertionSort_congr

@[simp]
theorem mem_groupIds {id : Int} : id ∈ user.groupIds ↔ id ∈ user.groups := by
  unfold groupIds
  rw [← Finset.mem_val]
  induction user.groups.val using Quot.inductionOn with
  | h ids => exact List.mem_insertionSort _

@[simp]
theorem toFinset_groupIds : user.groupIds.toFinset = user.groups := by
  ext id
  simp

def tokens : List LoginToken :=
  (user.loginTokens.entries.insertionSort fun first second => first.1 ≤ second.1).map Sigma.snd

def toXml : String :=
  xmlElement "USER"
    (xmlElement "ID" (toString user.oid) ++ xmlElement "GID" (toString user.gid) ++
      xmlElement "GROUPS" (String.join (user.groupIds.map fun id => xmlElement "ID" (toString id))) ++
      xmlElement "GNAME" user.gname ++ xmlElement "NAME" user.name ++
      xmlElement "PASSWORD" (escapeXml user.password) ++
      xmlElement "AUTH_DRIVER" (escapeXml user.authDriver) ++
      xmlElement "ENABLED" (toString (if user.enabled then 1 else 0 : Int)) ++
      String.join (user.tokens.map LoginToken.toXml) ++ user.template.toXml "TEMPLATE")

end UserRecord

def vmOperations : List String :=
  ["migrate", "delete", "recover", "retry", "deploy", "resched", "undeploy", "hold", "release", "stop",
    "suspend", "resume", "reboot", "poweroff", "disk-attach", "nic-attach", "disk-snapshot", "terminate",
    "disk-resize", "snapshot", "updateconf", "rename", "resize", "update", "disk-saveas", "backup",
    "sched-action", "sg-attach", "pci-attach", "restore", "exec"]

def setAuthOps (template : Template) : Bool :=
  ["VM_ADMIN_OPERATIONS", "VM_MANAGE_OPERATIONS", "VM_USE_OPERATIONS"].all fun name =>
    ((pieces ',' ((template.get name).getD "")).filter fun op => !op.isEmpty).all fun op =>
      (trim op).toLower ∈ vmOperations

def LoginToken.fromXmlNode (node : Xml.Node) : LoginToken where
  token := (ObjectXml.xpath node ["LOGIN_TOKEN", "TOKEN"] "").1
  expirationTime := (ObjectXml.xpathTime node ["LOGIN_TOKEN", "EXPIRATION_TIME"] 0).1
  egid := (ObjectXml.xpathInt node ["LOGIN_TOKEN", "EGID"] (-1)).1

def readTokens (nodes : List Xml.Node) : Map String LoginToken :=
  nodes.foldl
    (fun tokens node =>
      let login := LoginToken.fromXmlNode node
      Map.insertNew login.token login tokens)
    ∅

/-- `ObjectCollection::from_xml_node`: `none` for an identifier that is no number -/
def readIds : List String → Option (Finset Int)
  | [] => some ∅
  | text :: rest => do
      let id ← extracted .int text
      return insert id (← readIds rest)

namespace UserRecord

def ofDocument (root : Xml.Node) : Option UserRecord :=
  let (oid, hasOid) := ObjectXml.xpathInt root ["USER", "ID"] (-1)
  let (gid, hasGid) := ObjectXml.xpathInt root ["USER", "GID"] (-1)
  let (gname, hasGname) := ObjectXml.xpath root ["USER", "GNAME"] "not_found"
  let (name, hasName) := ObjectXml.xpath root ["USER", "NAME"] "not_found"
  let (password, hasPassword) := ObjectXml.xpath root ["USER", "PASSWORD"] "not_found"
  let (authDriver, hasDriver) := ObjectXml.xpath root ["USER", "AUTH_DRIVER"] "core"
  let (enabled, hasEnabled) := ObjectXml.xpathInt root ["USER", "ENABLED"] 0
  let loginTokens := readTokens (ObjectXml.getNodes root ["USER", "LOGIN_TOKEN"])
  match ObjectXml.getNodes root ["USER", "TEMPLATE"], ObjectXml.getNodes root ["USER", "GROUPS"] with
  | template :: _, collection :: _ =>
    -- Templates of users replace attributes.
    let template := Template.rebuildAttributes true template
    match readIds (ObjectXml.xpaths collection ["GROUPS", "ID"]) with
    | none => none
    | some groups =>
      if hasOid && hasGid && hasGname && hasName && hasPassword && hasDriver && hasEnabled &&
          setAuthOps template then
        some { oid, gid, gname, name, password, authDriver, enabled := enabled ≠ 0, groups, loginTokens,
               template }
      else none
  | _, _ => none

def fromXml (parse : String → Option Xml.Node) (text : String) : Option UserRecord :=
  (parse text).bind ofDocument

end UserRecord

namespace UserRecord

/-- The groups, password, flag, template, tokens and the other fields are the same. -/
structure Same (first second : UserRecord) : Prop where
  oid : first.oid = second.oid
  gid : first.gid = second.gid
  gname : first.gname = second.gname
  name : first.name = second.name
  password : first.password = second.password
  authDriver : first.authDriver = second.authDriver
  enabled : first.enabled = second.enabled
  groups : first.groups = second.groups
  loginTokens : ∀ token, first.loginTokens.lookup token = second.loginTokens.lookup token
  template : first.template.Same second.template

/-- Numbers have the values of their types, tokens are kept under their texts, and the template
is one that the operations of users let pass. -/
structure Stored (user : UserRecord) : Prop where
  oid : -2 ^ 31 ≤ user.oid ∧ user.oid < 2 ^ 31
  gid : -2 ^ 31 ≤ user.gid ∧ user.gid < 2 ^ 31
  groups : ∀ id ∈ user.groups, -2 ^ 31 ≤ id ∧ id < 2 ^ 31
  tokens : ∀ token login, user.loginTokens.lookup token = some login →
    login.token = token ∧ (-2 ^ 63 ≤ login.expirationTime ∧ login.expirationTime < 2 ^ 63) ∧
      -2 ^ 31 ≤ login.egid ∧ login.egid < 2 ^ 31
  template : user.template.Storable "TEMPLATE" true
  operations : setAuthOps user.template = true

end UserRecord

/-- A text that stands for itself between two tags -/
structure PlainText (text : String) : Prop where
  legal : text.toList.all Xml.isChar = true
  unmarked : '<' ∉ text.toList ∧ '&' ∉ text.toList ∧ '\r' ∉ text.toList
  closed : ¬Xml.cdataEnd <:+: text.toList

structure PlainSection (text : String) : Prop where
  legal : text.toList.all Xml.isChar = true
  lines : '\r' ∉ text.toList
  closed : ¬Xml.cdataEnd <:+: text.toList

structure UserRecord.Plain (user : UserRecord) : Prop where
  gname : PlainText user.gname
  name : PlainText user.name
  password : PlainSection user.password
  authDriver : PlainSection user.authDriver
  tokens : ∀ token ∈ user.loginTokens, PlainText token
  template : user.template.Closed ∧ user.template.Plain

end OpenNebula.Users
