import OpenNebula.Common.VectorAttribute
import OpenNebula.Library.Transition

namespace OpenNebula.Network

open Common
open Library

/-! # Virtual networks and their VLAN identifiers (`VirtualNetwork`, `VirtualNetworkPool`)

A network without a `VLAN_ID` may ask for one.  Drivers of the 802.1Q type get a free
bit of a bitmap when the network is created, and give it back when it is deleted;
the VXLAN driver computes the identifier from that of the network.
-/

structure VlanConf where
  start : Nat
  reserved : Finset Nat
  vxlanStart : Nat
  bridgeType : String → Option String

/-- Which statements of a request succeed -/
structure Database where
  inserts : Bool := true
  /-- The network that was inserted is read. -/
  gets : Bool := true
  selects : Bool := true
  saves : Bool := true
  updates : Bool := true
  /-- The network is deleted. -/
  drops : Bool := true

inductive Driver where
  | none
  | dummy
  | vlan
  | fw
  | ovswitch
  | vxlan
  | ovswitchVxlan
  | bridge

def strToDriver (text : String) : Driver :=
  match text with
  | "dummy" => .dummy
  | "802.1Q" => .vlan
  | "fw" => .fw
  | "ovswitch" => .ovswitch
  | "vxlan" => .vxlan
  | "ovswitch_vxlan" => .ovswitchVxlan
  | "bridge" => .bridge
  | _ => .none

def Driver.is8021Q : Driver → Bool
  | .vlan | .ovswitch | .ovswitchVxlan => true
  | .none | .dummy | .fw | .vxlan | .bridge => false

abbrev Template := VectorAttribute

structure VirtualNetwork where
  vnMad : String
  phydev : String
  bridge : String
  bridgeType : String
  vlanId : String
  vlanIdAutomatic : Bool
  outerVlanId : String
  outerVlanIdAutomatic : Bool
  template : Template

namespace VirtualNetwork

def isYes (template : Template) (name : String) : Bool := (template.vectorValue name).toUpper = "YES"

/-- The identifier, whether it is automatic, and the template afterwards -/
def parseVlanId (idName autoName : String) (template : Template) : String × Bool × Template :=
  let id := template.vectorValue idName
  if id ≠ "" then (id, false, (template.replace idName id).remove autoName)
  else ("", isYes template autoName, template.remove autoName)

/-- The attributes that a driver cannot do without -/
def parsePhydevVlans (vnMad phydev bridge : String) (autoId : Bool) (vlanId : String)
    (autoOuter : Bool) (outerId : String) : Option String :=
  match strToDriver vnMad with
  | .dummy => if bridge = "" then some ("BRIDGE is mandatory for driver " ++ vnMad) else none
  | .vxlan | .vlan =>
    if phydev = "" then some ("PHYDEV is mandatory for driver " ++ vnMad)
    else if !autoId ∧ vlanId = "" then
      some ("VLAN_ID (or AUTOMATIC_VLAN_ID) is mandatory for driver " ++ vnMad)
    else none
  | .ovswitchVxlan =>
    if !autoOuter ∧ outerId = "" then
      some ("OUTER_VLAN_ID (or AUTOMATIC) is mandatory for driver " ++ vnMad)
    else none
  | .bridge | .ovswitch | .fw | .none => none

def insert (conf : VlanConf) (oid : Nat) (template : Template) : Option VirtualNetwork :=
  let vnMad := template.vectorValue "VN_MAD"
  let phydev := template.vectorValue "PHYDEV"
  let bridge := template.vectorValue "BRIDGE"
  if vnMad = "" then none
  else
    let template := (template.replace "VN_MAD" vnMad).replace "PHYDEV" phydev
    let template := template.remove "BRIDGE"
    let (vlanId, vlanIdAutomatic, template) := parseVlanId "VLAN_ID" "AUTOMATIC_VLAN_ID" template
    let (outerVlanId, outerVlanIdAutomatic, template) :=
      parseVlanId "OUTER_VLAN_ID" "AUTOMATIC_OUTER_VLAN_ID" template
    match parsePhydevVlans vnMad phydev bridge vlanIdAutomatic vlanId outerVlanIdAutomatic
        outerVlanId with
    | some _ => none
    | none =>
      match conf.bridgeType vnMad with
      | none => none
      | some bridgeType =>
        let bridge :=
          if bridge ≠ "" ∨ bridgeType = "none" then bridge
          else if vlanId ≠ "" then "onebr." ++ vlanId
          else "onebr" ++ toString oid
        let template := (template.replace "BRIDGE_TYPE" bridgeType).replace "BRIDGE" bridge
        some ⟨vnMad, phydev, bridge, bridgeType, vlanId, vlanIdAutomatic, outerVlanId, outerVlanIdAutomatic, template⟩

def updateVlanId (idName : String) (automatic : Bool) (id : String) (template : Template) : String × Template :=
  if automatic then (id, template.remove idName)
  else (template.vectorValue idName, template.replace idName (template.vectorValue idName))

/-- Neither the flags nor the identifiers that were assigned change with the driver. -/
def postUpdateTemplate (conf : VlanConf) (vn : VirtualNetwork) (template : Template) : Option VirtualNetwork :=
  let vnMad := template.vectorValue "VN_MAD"
  let phydev := template.vectorValue "PHYDEV"
  let template := (template.replace "VN_MAD" vnMad).replace "PHYDEV" phydev
  let template := (template.remove "AUTOMATIC_VLAN_ID").remove "AUTOMATIC_OUTER_VLAN_ID"
  let (vlanId, template) := updateVlanId "VLAN_ID" vn.vlanIdAutomatic vn.vlanId template
  let (outerVlanId, template) := updateVlanId "OUTER_VLAN_ID" vn.outerVlanIdAutomatic vn.outerVlanId template
  let bridge := if template.vectorValue "BRIDGE" ≠ "" then template.vectorValue "BRIDGE" else vn.bridge
  match conf.bridgeType vnMad with
  | none => none
  | some bridgeType =>
    some { vn with
      vnMad, phydev, bridge, bridgeType, vlanId, outerVlanId
      template := (template.replace "BRIDGE" bridge).replace "BRIDGE_TYPE" bridgeType }

end VirtualNetwork

namespace BitMap

/-- The hint when it is free, else the first free bit from `START` on -/
def get (conf : VlanConf) (bits : Finset Nat) (hint : Nat) : Option Nat :=
  if hint ≠ 0 ∧ hint ∉ bits ∧ hint ∉ conf.reserved then some hint
  else
    (List.range' conf.start (4096 - conf.start)).find? fun bit => bit ∉ bits ∧ bit ∉ conf.reserved

end BitMap

structure VirtualNetworkPool where
  networks : Map Nat VirtualNetwork := ∅
  bitmap : Finset Nat := ∅

/-- How a function ends -/
inductive Outcome (α : Type) where
  /-- A division by zero or an exception -/
  | aborted
  | failed
  | returned (value : α)

namespace VirtualNetworkPool

variable (conf : VlanConf) (db : Database) (pool : VirtualNetworkPool)

def hintVlan (start vnid : Nat) : Option Nat :=
  if start % 2 ^ 32 = 4095 then none
  else some ((start + vnid % ((4095 + (2 ^ 32 - start % 2 ^ 32)) % 2 ^ 32)) % 2 ^ 32)

/-- The value that is returned, the bitmap and the identifier.  It is not checked that the
bitmap was written. -/
def set8021QId (bits : Finset Nat) (vnid : Nat) (vlanVar : String) (autoVar : Bool) :
    Outcome (Nat × Finset Nat × String) :=
  if vlanVar ≠ "" ∨ !autoVar then .returned (0, bits, vlanVar)
  else if !db.selects then .failed
  else
    match hintVlan conf.start vnid with
    | none => .aborted
    | some hint =>
      if 4096 ≤ hint then .aborted
      else
        match BitMap.get conf bits hint with
        | none => .failed
        | some vlanId =>
          .returned (vlanId, if db.saves then insert vlanId bits else bits, toString vlanId)

/-- The value that is returned and the identifier -/
def setVxlanId (vnid : Nat) (vlanVar : String) (autoVar : Bool) : Nat × String :=
  if vlanVar ≠ "" ∨ !autoVar then (0, vlanVar)
  else
    let vlanId := (conf.vxlanStart + vnid) % 2 ^ 32
    (vlanId, toString vlanId)

def update (oid : Nat) (vn : VirtualNetwork) : VirtualNetworkPool :=
  if db.updates then { pool with networks := pool.networks.insert oid vn } else pool

def setVlanId (oid : Nat) (vn : VirtualNetwork) : Outcome VirtualNetworkPool :=
  match strToDriver vn.vnMad with
  | .ovswitchVxlan =>
    match set8021QId conf db pool.bitmap oid vn.vlanId vn.vlanIdAutomatic with
    | .aborted => .aborted
    | .failed => .failed
    | .returned (rc, bitmap, vlanId) =>
      let (rcx, outerVlanId) := setVxlanId conf oid vn.outerVlanId vn.outerVlanIdAutomatic
      let pool := { pool with bitmap }
      .returned <|
        if rc ≠ 0 ∨ rcx ≠ 0 then pool.update db oid { vn with vlanId, outerVlanId } else pool
  | .vxlan =>
    let (rcx, vlanId) := setVxlanId conf oid vn.vlanId vn.vlanIdAutomatic
    .returned <| if rcx ≠ 0 then pool.update db oid { vn with vlanId } else pool
  | .vlan | .ovswitch =>
    match set8021QId conf db pool.bitmap oid vn.vlanId vn.vlanIdAutomatic with
    | .aborted => .aborted
    | .failed => .failed
    | .returned (rc, bitmap, vlanId) =>
      let pool := { pool with bitmap }
      .returned <| if rc ≠ 0 then pool.update db oid { vn with vlanId } else pool
  | .none | .dummy | .bridge | .fw => .returned pool

/-- The driver that the network has now decides whether its bit is cleared. -/
def releaseVlanId (vn : VirtualNetwork) : VirtualNetworkPool :=
  if vn.vlanIdAutomatic ∧ vn.vlanId ≠ "" ∧ (strToDriver vn.vnMad).is8021Q ∧ db.selects ∧
      db.saves then
    let vlanId := ((Stream.mk vn.vlanId.toList false).readUnsigned 10 0).1
    { pool with bitmap := pool.bitmap.erase vlanId }
  else pool

def drop (oid : Nat) (vn : VirtualNetwork) : VirtualNetworkPool :=
  let pool := pool.releaseVlanId db vn
  if db.drops then { pool with networks := pool.networks.erase oid } else pool

def allocate (oid : Nat) (template : Template) : VirtualNetworkPool :=
  match VirtualNetwork.insert conf oid template with
  | none => pool
  | some vn =>
    if !db.inserts ∨ oid ∈ pool.networks then pool
    else
      let pool := { pool with networks := pool.networks.insert oid vn }
      if !db.gets then pool
      else
        match pool.setVlanId conf db oid vn with
        | .aborted => pool
        | .failed => pool.drop db oid vn
        | .returned pool => pool

def updateTemplate (oid : Nat) (append : Bool) (template : Template) : VirtualNetworkPool :=
  match pool.networks.lookup oid with
  | none => pool
  | some vn =>
    let template := if append then vn.template.merge template else template
    match vn.postUpdateTemplate conf template with
    | none => pool
    | some vn => pool.update db oid vn

inductive Event where
  | allocate (db : Database) (oid : Nat) (template : Template)
  | updateTemplate (db : Database) (oid : Nat) (append : Bool) (template : Template)
  | drop (db : Database) (oid : Nat)

def step (pool : VirtualNetworkPool) : Event → Option VirtualNetworkPool
  | .allocate db oid template => some (pool.allocate conf db oid template)
  | .updateTemplate db oid append template => some (pool.updateTemplate conf db oid append template)
  | .drop db oid => (pool.networks.lookup oid).map fun vn => pool.drop db oid vn

/-- At first there are no networks; the bitmap is empty. -/
def system : System VirtualNetworkPool Event where
  initial pool := pool = {}
  step := step conf

end VirtualNetworkPool

end OpenNebula.Network
