import OpenNebula.Library.Transition
import OpenNebula.Network.AddressRange

namespace OpenNebula.Network

open Common
open Library
open AddressRange (Address)

/-! # Address range pools (`AddressRangePool`)

A virtual network has a pool of ranges.  An operation names one range, tries the
ranges one after the other until one succeeds, or visits all of them; a reservation
takes addresses of one network and makes a range of another one from them.
-/

structure AddressRangePool where
  arPool : Map Nat AddressRange := ∅
  nextAr : Nat := 0
  usedAddr : Nat := 0

namespace AddressRangePool

variable {α : Type} (env : Environment) (pool : AddressRangePool)

/-- The ranges in the order in which the map is walked -/
def ids : List Nat := pool.arPool.keys.insertionSort (· ≤ ·)

def store (id : Nat) (ar : AddressRange) : AddressRangePool :=
  { pool with arPool := pool.arPool.insert id ar }

def countUsed (count : Nat) : AddressRangePool :=
  { pool with usedAddr := (pool.usedAddr + count) % 2 ^ 32 }

def countFreed (count : Nat) : AddressRangePool :=
  { pool with usedAddr := (pool.usedAddr + (2 ^ 32 - count % 2 ^ 32)) % 2 ^ 32 }

def onRange (operation : AddressRange → AddressRange × Option α) (id : Nat) : AddressRangePool × Option α :=
  match pool.arPool.lookup id with
  | none => (pool, none)
  | some ar =>
    let (ar, result) := operation ar
    (pool.store id ar, result)

def firstRange (operation : AddressRange → AddressRange × Option α) :
    List Nat → AddressRangePool → AddressRangePool × Option α
  | [], pool => (pool, none)
  | id :: rest, pool =>
    match pool.onRange operation id with
    | (pool, some result) => (pool, some result)
    | (pool, none) => firstRange operation rest pool

/-- All the ranges are visited; every success changes the counter. -/
def everyRange (operation : AddressRange → AddressRange × Option α)
    (count : AddressRangePool → α → AddressRangePool) : List Nat → AddressRangePool → AddressRangePool
  | [], pool => pool
  | id :: rest, pool =>
    match pool.onRange operation id with
    | (pool, some result) => everyRange operation count rest (count pool result)
    | (pool, none) => everyRange operation count rest pool

def counted (used : Nat) (outcome : AddressRangePool × Option α) : AddressRangePool × Option α :=
  match outcome with
  | (pool, some result) => (pool.countUsed used, some result)
  | (pool, none) => (pool, none)

def newRange (ipamMad : String) (id : Nat) : AddressRange :=
  if ipamMad = "" ∨ ipamMad = "internal" then { id, manager := .internal 0 }
  else { id, manager := .ipam }

def fromVattr (attr : VectorAttribute) : AddressRangePool :=
  match (newRange (attr.vectorValue "IPAM_MAD") pool.nextAr).fromVattr env attr with
  | (_, some _) => pool
  | (ar, none) =>
    { pool with
      nextAr := (pool.nextAr + 1) % 2 ^ 32
      arPool := pool.arPool.insertNew ar.id { ar with attr := env.encrypt ar.attr } }

def allocateAr : AddressRangePool × AddressRange :=
  ({ pool with nextAr := (pool.nextAr + 1) % 2 ^ 32 }, newRange "internal" pool.nextAr)

def addAr (ar : AddressRange) : AddressRangePool :=
  { pool with
    arPool :=
      if ar.id ∈ pool.arPool then pool.arPool
      else pool.arPool.insert ar.id { ar with attr := env.encrypt ar.attr } }

def updateAr (ars : List VectorAttribute) (keepRestricted : Bool) : AddressRangePool :=
  match ars with
  | [] => pool
  | attr :: _ =>
    match attr.unsignedValue "AR_ID" with
    | none => pool
    | some id =>
      (pool.onRange (fun ar => ((ar.updateAttributes env attr keepRestricted).1, some ())) id).1

def rmAr (id : Nat) (force : Bool) : AddressRangePool :=
  match pool.arPool.lookup id with
  | none => pool
  | some ar =>
    if !force ∧ ar.getUsedAddr > 0 then pool
    else if ar.isIpam ∧ !force ∧ !env.unregisterAddressRange id then pool
    else { pool with arPool := pool.arPool.erase id }

/-- Stops at the first range that the driver does not give up. -/
def rmArs : List Nat → AddressRangePool → AddressRangePool
  | [], pool => pool
  | id :: rest, pool =>
    match pool.arPool.lookup id with
    | none => rmArs rest pool
    | some ar =>
      if ar.isIpam ∧ !env.unregisterAddressRange id then pool
      else rmArs rest { pool with arPool := pool.arPool.erase id }

def allocateAddr (ot : ObjectType) (obid : Int) (inherit : List String) (nic : VectorAttribute) :
    AddressRangePool × Option VectorAttribute :=
  counted 1 (firstRange (fun ar => ar.allocateAddr env ot obid inherit nic) pool.ids pool)

def allocateBy (address : Address) (ot : ObjectType) (obid : Int) (inherit : List String)
    (nic : VectorAttribute) : AddressRangePool × Option VectorAttribute :=
  counted 1 (firstRange (fun ar => ar.allocateBy env address ot obid inherit nic) pool.ids pool)

def holdBy (id : Option Nat) (address : Address) : AddressRangePool :=
  match id with
  | some id => (counted 1 (pool.onRange (fun ar => ar.holdBy env address) id)).1
  | none => everyRange (fun ar => ar.holdBy env address) (fun pool _ => pool.countUsed 1) pool.ids pool

def freeAddr (id : Option Nat) (address : Address) (ot : ObjectType) (obid : Int) : AddressRangePool :=
  everyRange (fun ar => ar.freeAddr env address ot obid) (fun pool _ => pool.countFreed 1)
    (id.elim pool.ids fun id => [id]) pool

def freeAddrByOwner (ot : ObjectType) (obid : Int) : AddressRangePool :=
  everyRange (fun ar => ((ar.freeAddrByOwner env ot obid).1, some (ar.freeAddrByOwner env ot obid).2))
    countFreed pool.ids pool

def freeAddrByRange (id : Nat) (ot : ObjectType) (obid : Int) (mac : String) (rsize : Nat) : AddressRangePool :=
  everyRange
    (fun ar => ((ar.freeAddrByRange env ot obid mac rsize).1, some (ar.freeAddrByRange env ot obid mac rsize).2))
    countFreed [id] pool

def reserveOf (vid : Int) (rsize : Nat) (rar ar : AddressRange) : AddressRange × Option AddressRange :=
  if rsize ≤ ar.getFreeAddr then ar.reserveAddr env vid rsize rar else (ar, none)

def reserveAddr (id : Option Nat) (vid : Int) (rsize : Nat) (rar : AddressRange) :
    AddressRangePool × Option AddressRange :=
  counted rsize (firstRange (reserveOf env vid rsize rar) (id.elim pool.ids fun id => [id]) pool)

def reserveAddrBy (id : Nat) (address : Address) (vid : Int) (rsize : Nat) (rar : AddressRange) :
    AddressRangePool × Option AddressRange :=
  counted rsize (pool.onRange (fun ar => ar.reserveAddrBy env address vid rsize rar) id)

end AddressRangePool

/-! # Virtual networks -/

abbrev Networks := Map Nat AddressRangePool

inductive Choice where
  | any (id : Option Nat)
  | starting (id : Nat) (address : Address)

def AddressRangePool.reserve (env : Environment) (pool : AddressRangePool) (choice : Choice)
    (vid : Int) (rsize : Nat) (rar : AddressRange) : AddressRangePool × Option AddressRange :=
  match choice with
  | .any id => pool.reserveAddr env id vid rsize rar
  | .starting id address => pool.reserveAddrBy env id address vid rsize rar

def Networks.reserve (env : Environment) (networks : Networks) (pid rid : Nat) (choice : Choice)
    (rsize : Nat) : Networks :=
  match networks.lookup rid with
  | none => networks
  | some rvn =>
    let (rvn, rar) := rvn.allocateAr
    let networks := networks.insert rid rvn
    match networks.lookup pid with
    | none => networks
    | some pvn =>
      match pvn.reserve env choice rid rsize rar with
      | (pvn, none) => networks.insert pid pvn
      | (pvn, some rar) =>
        let networks := networks.insert pid pvn
        match networks.lookup rid with
        | none => networks
        | some rvn => networks.insert rid (rvn.addAr env rar)

inductive NetworkEvent where
  | create (vid : Nat)
  | addAr (env : Environment) (vid : Nat) (attr : VectorAttribute)
  | updateAr (env : Environment) (vid : Nat) (ars : List VectorAttribute) (keepRestricted : Bool)
  | rmAr (env : Environment) (vid id : Nat) (force : Bool)
  | rmArs (env : Environment) (vid : Nat)
  | allocateAddr (env : Environment) (vid : Nat) (ot : ObjectType) (obid : Int)
      (inherit : List String) (nic : VectorAttribute)
  | allocateBy (env : Environment) (vid : Nat) (address : Address) (ot : ObjectType) (obid : Int)
      (inherit : List String) (nic : VectorAttribute)
  | hold (env : Environment) (vid : Nat) (id : Option Nat) (address : Address)
  | freeAddr (env : Environment) (vid : Nat) (id : Option Nat) (address : Address) (ot : ObjectType)
      (obid : Int)
  | freeAddrByOwner (env : Environment) (vid : Nat) (ot : ObjectType) (obid : Int)
  | freeAddrByRange (env : Environment) (vid id : Nat) (ot : ObjectType) (obid : Int)
      (mac : String) (rsize : Fin (2 ^ 32))
  | reserve (env : Environment) (pid rid : Nat) (choice : Choice) (rsize : Fin (2 ^ 32))

def Networks.onPool (networks : Networks) (vid : Nat)
    (operation : AddressRangePool → AddressRangePool) : Option Networks :=
  (networks.lookup vid).map fun pool => networks.insert vid (operation pool)

def Networks.step (networks : Networks) : NetworkEvent → Option Networks
  | .create vid => if vid ∈ networks then none else some (networks.insert vid {})
  | .addAr env vid attr => networks.onPool vid fun pool => pool.fromVattr env attr
  | .updateAr env vid ars keepRestricted =>
    networks.onPool vid fun pool => pool.updateAr env ars keepRestricted
  | .rmAr env vid id force => networks.onPool vid fun pool => pool.rmAr env id force
  | .rmArs env vid => networks.onPool vid fun pool => AddressRangePool.rmArs env pool.ids pool
  | .allocateAddr env vid ot obid inherit nic =>
    networks.onPool vid fun pool => (pool.allocateAddr env ot obid inherit nic).1
  | .allocateBy env vid address ot obid inherit nic =>
    networks.onPool vid fun pool => (pool.allocateBy env address ot obid inherit nic).1
  | .hold env vid id address => networks.onPool vid fun pool => pool.holdBy env id address
  | .freeAddr env vid id address ot obid =>
    networks.onPool vid fun pool => pool.freeAddr env id address ot obid
  | .freeAddrByOwner env vid ot obid =>
    networks.onPool vid fun pool => pool.freeAddrByOwner env ot obid
  | .freeAddrByRange env vid id ot obid mac rsize =>
    networks.onPool vid fun pool => pool.freeAddrByRange env id ot obid mac rsize
  | .reserve env pid rid choice rsize => some (networks.reserve env pid rid choice rsize)

def Networks.system : System Networks NetworkEvent where
  initial networks := networks = ∅
  step := Networks.step

end OpenNebula.Network
