import Mathlib.Data.List.Sort
import OpenNebula.Network.Addresses

namespace OpenNebula.Network

open Common
open Library

/-! # Address ranges (`AddressRange`, `AddressRangeInternal`, `AddressRangeIPAM`) -/

/-- What a call takes from the rest of the system: the configuration, the C library,
the random numbers, the content of variables that are not set, and the answers of the
IPAM driver. -/
structure Environment where
  macPrefix : Nat
  random : Nat
  unset : Nat
  inetPton : String → Option Ip6
  inetNtop : Ip6 → String
  restricted : Option (List String)
  inheritedAttrs : List String
  encrypt : VectorAttribute → VectorAttribute
  registerAddressRange : VectorAttribute → Option VectorAttribute
  unregisterAddressRange : Nat → Bool
  /-- Whether the driver takes a block of addresses of a range -/
  allocateAddress : Nat → Nat → Nat → Bool
  getAddress : Nat → Nat → Option String
  freeAddress : Nat → Nat → Bool

inductive AddressType where
  | none
  | ether
  | ip4
  | ip6
  | ip6Static
  | ip46
  | ip46Static
deriving DecidableEq

namespace AddressType

def bits : AddressType → Nat
  | .none => 0x0
  | .ether => 0x1
  | .ip4 => 0x3
  | .ip6 => 0x5
  | .ip6Static => 0x9
  | .ip46 => 0x7
  | .ip46Static => 0xB

end AddressType

def strToType (text : String) : AddressType :=
  match text.toUpper with
  | "ETHER" => .ether
  | "IP4" => .ip4
  | "IP6" => .ip6
  | "IP4_6" => .ip46
  | "IP4_6_STATIC" => .ip46Static
  | "IP6_STATIC" => .ip6Static
  | _ => .none

/-- The class of the range: `AddressRangeInternal`, with the index where its next
lookup starts, or `AddressRangeIPAM` -/
inductive Manager where
  | internal (next : Nat)
  | ipam

structure AddressRange where
  id : Nat
  manager : Manager
  type : AddressType := .none
  size : Nat := 0
  ip : Nat := 0
  mac : Mac := ⟨0, 0⟩
  global6 : Prefix6 := ⟨0, 0⟩
  ula6 : Prefix6 := ⟨0, 0⟩
  ip6 : Ip6 := ⟨0, 0, 0, 0⟩
  portStart : Nat := 0
  portSize : Nat := 0
  attr : VectorAttribute := ∅
  /-- The owner of each address in use, by index -/
  allocated : Map Nat Nat := ∅

inductive ObjectType where
  | vm
  | net
  | vrouter

def ObjectType.bits : ObjectType → Nat
  | .vm => 0x0000001000000000
  | .net => 0x0000004000000000
  | .vrouter => 0x0004000000000000

def packOwner (ot : ObjectType) (obid : Int) : Nat := ot.bits ||| (obid % 2 ^ 32).toNat

namespace AddressRange

variable (env : Environment) (ar : AddressRange)

def isIpv4 : Bool := ar.type.bits &&& 0x2 ≠ 0

def isIpv6 : Bool := ar.type.bits &&& 0x4 ≠ 0

def isIpv6Static : Bool := ar.type.bits &&& 0x8 ≠ 0

def isIpam : Bool :=
  ar.attr.vectorValue "IPAM_MAD" ≠ "" && ar.attr.vectorValue "IPAM_MAD" ≠ "internal"

def getUsedAddr : Nat := ar.allocated.entries.length

def getFreeAddr : Nat := (ar.size + 2 ^ 64 - ar.getUsedAddr) % 2 ^ 64

section

variable (ot : ObjectType)

def getIds : Finset Nat :=
  ((ar.allocated.entries.filter fun lease => lease.2 &&& ot.bits ≠ 0).map fun lease => lease.2 % 2 ^ 32).toFinset

def prefixToI (text : String) (held : Prefix6) : Prefix6 × Bool :=
  if text = "" then (⟨0, 0⟩, true)
  else
    match env.inetPton text with
    | none => (held, false)
    | some words => (⟨words.word2, words.word3⟩, true)

def ip6ToI (text : String) : Option Ip6 := if text = "" then none else env.inetPton text

section

variable (index : Nat)

def newMac : Mac := { ar.mac with low := (ar.mac.low + index) % 2 ^ 32 }

def setMac (nic : VectorAttribute) : VectorAttribute :=
  nic.replace "MAC" (macToS (ar.newMac index))

def setIp (nic : VectorAttribute) : VectorAttribute :=
  nic.replace "IP" (ipToS ((ar.ip + index) % 2 ^ 32))

def setIp6 (nic : VectorAttribute) : VectorAttribute :=
  let text network := env.inetNtop (eui64 network (ar.newMac index))
  let nic := nic.replace "IP6_LINK" (text ⟨0, 0xfe800000⟩)
  let nic := if ar.ula6 ≠ ⟨0, 0⟩ then nic.replace "IP6_ULA" (text ar.ula6) else nic
  if ar.global6 ≠ ⟨0, 0⟩ then nic.replace "IP6_GLOBAL" (text ar.global6) else nic

def setIp6Static (nic : VectorAttribute) : VectorAttribute :=
  nic.replace "IP6" (env.inetNtop { ar.ip6 with word0 := (ar.ip6.word0 + index) % 2 ^ 32 })

def setPortRanges (nic : VectorAttribute) : VectorAttribute :=
  if ar.portSize = 0 ∨ ar.portStart = 0 then nic
  else
    let first := (ar.portStart + index * ar.portSize + 1) % 2 ^ 32
    let last := (first + ar.portSize + 2 ^ 32 - 1) % 2 ^ 32
    (nic.replace "EXTERNAL_PORT_RANGE" s!"{first}:{last}").replace "INTERNAL_PORT_RANGE"
      s!"1-{ar.portSize}/{first}"

end

def copyValue (name : String) (nic : VectorAttribute) : VectorAttribute :=
  if ar.attr.vectorValue name = "" then nic else nic.replace name (ar.attr.vectorValue name)

def setVnet (inherit : List String) (nic : VectorAttribute) : VectorAttribute :=
  let nic := nic.replace "AR_ID" (toString ar.id)
  let nic := ["VN_MAD", "BRIDGE", "PHYDEV", "VLAN_ID"].foldl (fun nic name => ar.copyValue name nic) nic
  inherit.foldl
    (fun nic name => if nic.vectorValue name = "" then ar.copyValue name nic else nic) nic

/-- A function that may fail with a message; what it changed before stays. -/
def andThen (first : AddressRange × Option String)
    (second : AddressRange → AddressRange × Option String) : AddressRange × Option String :=
  match first with
  | (ar, some message) => (ar, some message)
  | (ar, none) => second ar

def initIpv4 : AddressRange × Option String :=
  if !ar.isIpv4 then ({ ar with attr := ar.attr.remove "IP" }, none)
  else
    let text := ar.attr.vectorValue "IP"
    let (ip, good) := ipToI text ar.ip
    if text = "" then (ar, some "Wrong or empty IP attribute")
    else ({ ar with ip }, if good then none else some "Wrong or empty IP attribute")

def initIpv6 : AddressRange × Option String :=
  if !ar.isIpv6 then
    ({ ar with attr := (ar.attr.remove "GLOBAL_PREFIX").remove "ULA_PREFIX" }, none)
  else
    let (global6, goodGlobal) := prefixToI env (ar.attr.vectorValue "GLOBAL_PREFIX") ar.global6
    if !goodGlobal then (ar, some "Wrong format for IP6 global address prefix")
    else
      let (ula6, goodUla) := prefixToI env (ar.attr.vectorValue "ULA_PREFIX") ar.ula6
      if !goodUla then
        ({ ar with global6 }, some "Wrong format for IP6 unique local address prefix")
      else ({ ar with global6, ula6 }, none)

/-- The addresses from the first one to the last one of the subnet.  A prefix of more
than 128 bits shifts by a negative number, which the machine takes modulo 64. -/
def staticSize (ip6 : Ip6) (length : Int) : Nat :=
  let size := if length ≤ 64 then 2 ^ 64 - 1 else 2 ^ ((128 - length) % 64).toNat
  let mask := if length ≤ 64 then size else size - 1
  size - ((ip6.word1 * 2 ^ 32 + ip6.word0) &&& mask)

def initIpv6Static : AddressRange × Option String :=
  if !ar.isIpv6Static then ({ ar with attr := ar.attr.remove "IP6" }, none)
  else
    match ip6ToI env (ar.attr.vectorValue "IP6") with
    | none => (ar, some "Wrong or empty IP6 attribute")
    | some ip6 =>
      let ar := { ar with ip6 }
      let (length, good) := ar.attr.intValue "PREFIX_LENGTH" env.unset
      if !good then (ar, some "Wrong or empty PREFIX_LENGTH")
      else if ar.attr.vectorValue "SIZE" = "" then
        ({ ar with attr := ar.attr.replace "SIZE" (toString (staticSize ip6 length)) }, none)
      else (ar, none)

def initMac : AddressRange × Option String :=
  let text := ar.attr.vectorValue "MAC"
  if text = "" then
    let ar := { ar with mac := ⟨if ar.isIpv4 then ar.ip else env.random % 2 ^ 32, env.macPrefix⟩ }
    ({ ar with attr := ar.setMac 0 ar.attr }, none)
  else
    let (mac, good) := macToI text ar.mac env.unset
    ({ ar with mac }, if good then none else some "Wrong format for MAC attribute")

def initSize : AddressRange × Option String :=
  match ar.attr.unsignedLongValue "SIZE" with
  | none => (ar, some "Wrong SIZE for address range")
  | some size =>
    let attr := ar.attr.replace "AR_ID" (toString ar.id)
    let attr := ["ALLOCATED", "USED_LEASES", "LEASES", "PARENT_NETWORK_AR_ID",
      "PARENT_NETWORK"].foldl VectorAttribute.remove attr
    ({ ar with
        size
        attr
        portStart := (ar.attr.unsignedValue "PORT_START").getD 0
        portSize := (ar.attr.unsignedValue "PORT_SIZE").getD 0 }, none)

section

variable (attr : VectorAttribute)

def fromAttr : AddressRange × Option String :=
  let ar := { ar with attr, type := strToType (attr.vectorValue "TYPE") }
  if ar.type = .none then (ar, some "Unknown or missing address range TYPE.")
  else
    andThen ar.initIpv4 fun ar => andThen (ar.initIpv6 env) fun ar =>
      andThen (ar.initIpv6Static env) fun ar => andThen (ar.initMac env) initSize

def fromVattr : AddressRange × Option String :=
  match ar.manager with
  | .internal _ => ar.fromAttr env attr
  | .ipam =>
    match env.registerAddressRange attr with
    | none => (ar, some "")
    | some registered => ar.fromAttr env registered

def afterAR : List Char → Option (List Char)
  | 'A' :: 'R' :: '/' :: rest => some rest
  | _ :: rest => afterAR rest
  | [] => none

def removeRestricted : VectorAttribute :=
  (env.restricted.getD []).foldl
    (fun attr name => (afterAR name.toList).elim attr fun rest => attr.remove (String.ofList rest))
    attr

def removeAllExceptRestricted : VectorAttribute :=
  attr.filter fun name _ => s!"AR/{name}" ∈ env.restricted.getD []

end

def keepValue (name : String) (vup : VectorAttribute) : VectorAttribute :=
  vup.replace name (ar.attr.vectorValue name)

def isReservation : Bool := (ar.attr.intValue "PARENT_NETWORK_AR_ID" 0).2

/-- The attributes that an update cannot change, and those of the range itself -/
def keepAttributes (keepRestricted : Bool) (vup : VectorAttribute) : VectorAttribute :=
  let vup := if keepRestricted && env.restricted.isSome then removeRestricted env vup else vup
  let vup := ar.keepValue "MAC" (ar.keepValue "TYPE" vup)
  let vup := if ar.attr.vectorValue "IPAM_MAD" = "" then vup else ar.keepValue "IPAM_MAD" vup
  let vup := if ar.isIpv4 then ar.keepValue "IP" vup else vup.remove "IP"
  let vup := if ar.isIpv6Static then ar.keepValue "IP6" vup else vup.remove "IP6"
  let vup := ar.keepValue "ALLOCATED" (ar.keepValue "AR_ID" vup)
  let vup := ["USED_LEASES", "LEASES", "PARENT_NETWORK_AR_ID"].foldl VectorAttribute.remove vup
  let vup := if ar.isReservation then ar.keepValue "PARENT_NETWORK_AR_ID" vup else vup
  let vup := ["MAC_END", "IP_END", "IP6_END", "IP6_ULA", "IP6_ULA_END", "IP6_GLOBAL",
    "IP6_GLOBAL_END"].foldl VectorAttribute.remove vup
  let vup :=
    if keepRestricted && env.restricted.isSome then
      vup.merge (removeAllExceptRestricted env ar.attr)
    else vup
  if !ar.isIpv6Static then vup.remove "PREFIX_LENGTH"
  else if (vup.intValue "PREFIX_LENGTH" 0).2 then vup
  else ar.keepValue "PREFIX_LENGTH" vup

/-- `upper_bound` of the last index, taken to 32 bits, is the end of the map; so is
`lower_bound(0)` for an empty range. -/
def holdsLeases (size : Nat) : Bool :=
  if size = 0 then ar.allocated.entries.isEmpty
  else ar.allocated.entries.all fun lease => lease.1 ≤ (size - 1) % 2 ^ 32

section

variable (vup : VectorAttribute)

def newSize : Except String Nat :=
  if vup.vectorValue "SIZE" = "" then .ok ar.size
  else
    match vup.unsignedLongValue "SIZE" with
    | none => .error "Unable to read the SIZE attribute, it must be number >= 0"
    | some size =>
      if ar.isReservation ∧ size ≠ ar.size then
        .error "The SIZE of a reservation cannot be changed."
      else if ar.holdsLeases size then .ok size
      else
        .error <| "New SIZE cannot be applied. There are used leases that would fall " ++
          "outside the range."

def updateAttr : VectorAttribute :=
  let changed := vup.entries.foldl
    (fun update row =>
      if row.1 ∈ env.inheritedAttrs ∧ ar.attr.lookup row.1 ≠ some row.2 then
        update.replace row.1 (ar.attr.vectorValue row.1)
      else update)
    ∅
  ar.attr.entries.foldl
    (fun update row =>
      if row.1 ∈ env.inheritedAttrs ∧ row.1 ∉ vup then update.replace row.1 row.2 else update)
    changed

/-- The last part: all that is left is to store the new values. -/
def storeUpdate (size : Nat) (vup : VectorAttribute) : AddressRange × Except String (Finset Nat × VectorAttribute) :=
  let vup := vup.replace "SIZE" (toString size)
  let portStart := vup.unsignedValue "PORT_START"
  let vup := if portStart.isSome then vup else vup.remove "PORT_START"
  let portSize := vup.unsignedValue "PORT_SIZE"
  let vup := if portSize.isSome then vup else vup.remove "PORT_SIZE"
  ({ ar with size, portStart := portStart.getD 0, portSize := portSize.getD 0, attr := vup },
    .ok (ar.getIds .vm, ar.updateAttr env vup))

def updatePrefixes : AddressRange × Except String VectorAttribute :=
  if !ar.isIpv6 then (ar, .ok ((vup.remove "GLOBAL_PREFIX").remove "ULA_PREFIX"))
  else
    let (global6, goodGlobal) := prefixToI env (vup.vectorValue "GLOBAL_PREFIX") ar.global6
    if !goodGlobal then (ar, .error "Wrong format for IP6 global address prefix")
    else
      let (ula6, goodUla) := prefixToI env (vup.vectorValue "ULA_PREFIX") ar.ula6
      if !goodUla then
        ({ ar with global6 }, .error "Wrong format for IP6 unique local address prefix")
      else
        ({ ar with global6, ula6 },
          .ok ((vup.replace "GLOBAL_PREFIX" (vup.vectorValue "GLOBAL_PREFIX")).replace "ULA_PREFIX"
            (vup.vectorValue "ULA_PREFIX")))

def updateAttributes (keepRestricted : Bool) :
    AddressRange × Except String (Finset Nat × VectorAttribute) :=
  match ar.updatePrefixes env (ar.keepAttributes env keepRestricted vup) with
  | (ar, .error message) => (ar, .error message)
  | (ar, .ok vup) =>
    match ar.newSize vup with
    | .error message => (ar, .error message)
    | .ok size => ar.storeUpdate env size vup

end

def leases : List (Σ _ : Nat, Nat) :=
  ar.allocated.entries.insertionSort fun left right => left.1 ≤ right.1

def allocatedToAttr : AddressRange :=
  { ar with
    attr := ar.attr.replace "ALLOCATED"
      (String.join (ar.leases.map fun lease => s!" {lease.1} {lease.2}")) }

section

variable (obid : Int)

/-- A lease is not taken from its owner: `insert` keeps what it finds. -/
def setAllocatedAddr (index : Nat) : AddressRange :=
  allocatedToAttr { ar with allocated := ar.allocated.insertNew index (packOwner ot obid) }

def setAllocatedBlock (block : List Nat) : AddressRange :=
  block.foldl (fun ar index => ar.setAllocatedAddr ot obid index) ar

def freeAllocatedAddr (index : Nat) : AddressRange × Bool :=
  if ar.allocated.lookup index = some (packOwner ot obid) then
    (allocatedToAttr { ar with allocated := ar.allocated.erase index }, true)
  else (ar, false)

def leaseAttributes (index : Nat) (inherit : List String) (nic : VectorAttribute) : VectorAttribute :=
  let nic := ar.setPortRanges index (ar.setMac index nic)
  let nic := if ar.isIpv4 then ar.setIp index nic else nic
  let nic := if ar.isIpv6 then ar.setIp6 env index nic else nic
  let nic := if ar.isIpv6Static then ar.setIp6Static env index nic else nic
  ar.setVnet inherit nic

def allocateByIndex (index : Nat) (ot : ObjectType) (obid : Int) (inherit : List String)
    (nic : VectorAttribute) : AddressRange × VectorAttribute :=
  (ar.setAllocatedAddr ot obid index, ar.leaseAttributes env index inherit nic)

/-- The loop of `get_single_addr`: the index that was found and the next lookup -/
def singleLoop (allocated : Map Nat Nat) (arSize : Nat) : Nat → Nat → Option Nat × Nat
  | 0, next => (none, next)
  | count + 1, next =>
    if next ∈ allocated then singleLoop allocated arSize count ((next + 1) % 2 ^ 32 % arSize)
    else (some next, next)

def arSize : Nat := ar.size % 2 ^ 32

/-- The inner loop of `get_range_addr`: where it ends, and whether all were free -/
def freeRun (allocated : Map Nat Nat) (arSize : Nat) : Nat → Nat → Nat × Bool
  | 0, index => (index, true)
  | rsize + 1, index =>
    if index ∈ allocated ∨ arSize ≤ index then (index, false)
    else freeRun allocated arSize rsize (index + 1)

/-- The outer loop, `none` when it has not ended after so many turns; the index has 32 bits. -/
def rangeLoop (allocated : Map Nat Nat) (arSize rsize : Nat) : Nat → Nat → Option (Option Nat)
  | 0, _ => none
  | turns + 1, index =>
    if arSize ≤ index then some none
    else if index ∈ allocated then rangeLoop allocated arSize rsize turns ((index + 1) % 2 ^ 32)
    else match freeRun allocated arSize rsize index with
      | (last, true) => some (some (last - rsize))
      | (last, false) => rangeLoop allocated arSize rsize turns ((last + 1) % 2 ^ 32)

/-- A search that does not end gives no address either. -/
def getRangeAddr (rsize : Nat) : Option Nat :=
  (rangeLoop ar.allocated ar.arSize rsize (ar.arSize + 1) 0).join

def indexBlock (first rsize : Nat) : List Nat :=
  List.range' first ((first + rsize) % 2 ^ 32 - first)

def wrappedBlock (first rsize : Nat) : List Nat :=
  (List.range rsize).map fun offset => (first + offset) % 2 ^ 32

def isValidIndex (difference : Nat) (checkFree : Bool) : Option Nat :=
  let index := difference % 2 ^ 32
  if (checkFree ∧ index ∈ ar.allocated) ∨ ar.size ≤ index then none else some index

def isValidMac (text : String) (checkFree : Bool) : Option Nat :=
  match macToI text ⟨env.unset, env.unset⟩ env.unset with
  | (_, false) => none
  | (mac, true) =>
    if mac.high ≠ ar.mac.high ∨ mac.low < ar.mac.low then none
    else ar.isValidIndex (mac.low - ar.mac.low) checkFree

def isValidIp (text : String) (checkFree : Bool) : Option Nat :=
  if !ar.isIpv4 then none
  else
    match ipToI text env.unset with
    | (_, false) => none
    | (ip, true) => if ip < ar.ip then none else ar.isValidIndex (ip - ar.ip) checkFree

def isValidIp6 (text : String) (checkFree : Bool) : Option Nat :=
  if !ar.isIpv6Static then none
  else
    match ip6ToI env text with
    | none => none
    | some ip6 =>
      if ip6.word3 ≠ ar.ip6.word3 ∨ ip6.word2 ≠ ar.ip6.word2 ∨ ip6.word1 ≠ ar.ip6.word1 ∨
          ip6.word0 < ar.ip6.word0 then none
      else ar.isValidIndex (ip6.word0 - ar.ip6.word0) checkFree

def getAddr (rsize : Nat) : AddressRange × Option Nat :=
  match ar.manager with
  | .internal next =>
    if rsize = 1 then
      let (found, next) := singleLoop ar.allocated ar.arSize ar.arSize next
      ({ ar with manager := .internal next }, found)
    else (ar, ar.getRangeAddr rsize)
  | .ipam =>
    match (env.getAddress ar.id rsize).bind fun ip => ar.isValidIp env ip false with
    | none => (ar, none)
    | some index =>
      if (wrappedBlock index rsize).any fun i => i ∈ ar.allocated ∨ ar.arSize ≤ i then (ar, none)
      else (ar, some index)

def takeAddr (index rsize : Nat) : Bool :=
  match ar.manager with
  | .internal _ => true
  | .ipam => env.allocateAddress ar.id index rsize

def giveAddr (index : Nat) : Bool :=
  match ar.manager with
  | .internal _ => true
  | .ipam => env.freeAddress ar.id index

def allocateAddr (inherit : List String) (nic : VectorAttribute) :
    AddressRange × Option VectorAttribute :=
  if ar.size ≤ ar.getUsedAddr then (ar, none)
  else
    match ar.getAddr env 1 with
    | (ar, none) => (ar, none)
    | (ar, some index) =>
      let (ar, nic) := ar.allocateByIndex env index ot obid inherit nic
      (ar, some nic)

inductive Address where
  | mac (text : String)
  | ip (text : String)
  | ip6 (text : String)

def isValid (address : Address) (checkFree : Bool) : Option Nat :=
  match address with
  | .mac text => ar.isValidMac env text checkFree
  | .ip text => ar.isValidIp env text checkFree
  | .ip6 text => ar.isValidIp6 env text checkFree

def allocateBy (address : Address) (ot : ObjectType) (obid : Int) (inherit : List String)
    (nic : VectorAttribute) : AddressRange × Option VectorAttribute :=
  match ar.isValid env address true with
  | none => (ar, none)
  | some index =>
    if ar.takeAddr env index 1 then
      let (ar, nic) := ar.allocateByIndex env index ot obid inherit nic
      (ar, some nic)
    else (ar, none)

def holdBy (address : Address) : AddressRange × Option Unit :=
  match ar.isValid env address true with
  | none => (ar, none)
  | some index =>
    if ar.takeAddr env index 1 then (ar.setAllocatedAddr .vm (-1) index, some ()) else (ar, none)

/-- The index of an address to be freed.  A MAC that cannot be read leaves the words
as they are in memory, and its higher word is not compared. -/
def freeIndex (address : Address) : Option Nat :=
  let below start word := if start > word ∨ ar.size ≤ word - start then none else some (word - start)
  match address with
  | .mac text => below ar.mac.low (macToI text ⟨env.unset, env.unset⟩ env.unset).1.low
  | .ip text =>
    if !ar.isIpv4 then none
    else
      match ipToI text env.unset with
      | (_, false) => none
      | (ip, true) => below ar.ip ip
  | .ip6 text =>
    if !ar.isIpv6Static then none
    else
      match ip6ToI env text with
      | none => none
      | some ip6 =>
        if ip6.word3 ≠ ar.ip6.word3 ∨ ip6.word2 ≠ ar.ip6.word2 ∨ ip6.word1 ≠ ar.ip6.word1 then
          none
        else below ar.ip6.word0 ip6.word0

def freeAddr (address : Address) (ot : ObjectType) (obid : Int) : AddressRange × Option Unit :=
  match ar.freeIndex env address with
  | none => (ar, none)
  | some index =>
    if ar.giveAddr env index then
      let (ar, freed) := ar.freeAllocatedAddr ot obid index
      (ar, if freed then some () else none)
    else (ar, none)

/-- Whether a walk erases a lease of the owner -/
def releases (owner : Nat) (index held : Nat) : Bool := held = owner && ar.giveAddr env index

def freeAddrByOwner : AddressRange × Nat :=
  let kept := ar.allocated.filter fun index held => !ar.releases env (packOwner ot obid) index held
  (allocatedToAttr { ar with allocated := kept }, ar.getUsedAddr - kept.entries.length)

/-- The walk starts at the lease of the MAC and takes `rsize` leases, whatever their
indices are; it stops at the end of the map, where the iterator is no longer defined. -/
def freeAddrByRange (mac : String) (rsize : Nat) : AddressRange × Nat :=
  match ar.freeIndex env (.mac mac) with
  | none => (ar, 0)
  | some first =>
    if first ∈ ar.allocated then
      let walked := ((ar.leases.filter fun lease => first ≤ lease.1).take rsize).map Sigma.fst
      let kept := ar.allocated.filter fun index held =>
        !(decide (index ∈ walked) && ar.releases env (packOwner ot obid) index held)
      (allocatedToAttr { ar with allocated := kept }, ar.getUsedAddr - kept.entries.length)
    else (ar, 0)

end

end

def reservedRange (first rsize : Nat) (rar : AddressRange) : AddressRange :=
  let attr := ar.setPortRanges first (ar.setMac first ar.attr)
  let attr := if ar.isIpv4 then ar.setIp first attr else attr
  let attr := if ar.isIpv6Static then ar.setIp6Static env first attr else attr
  let attr := (attr.replace "SIZE" (toString rsize)).remove "IPAM_MAD"
  let rar := (rar.fromVattr env attr).1
  { rar with attr := rar.attr.replace "PARENT_NETWORK_AR_ID" (toString ar.id) }

def reserveAddr (vid : Int) (rsize : Nat) (rar : AddressRange) : AddressRange × Option AddressRange :=
  if rsize > ar.getFreeAddr then (ar, none)
  else
    match ar.getAddr env rsize with
    | (ar, none) => (ar, none)
    | (ar, some first) =>
      let ar := ar.setAllocatedBlock .net vid (wrappedBlock first rsize)
      (ar, some (ar.reservedRange env first rsize rar))

def reserveAddrByIndex (vid : Int) (rsize sindex : Nat) (rar : AddressRange) : AddressRange × Option AddressRange :=
  if (indexBlock sindex rsize).any fun index => index ∈ ar.allocated then (ar, none)
  else if !ar.takeAddr env sindex rsize then (ar, none)
  else
    let ar := ar.setAllocatedBlock .net vid (indexBlock sindex rsize)
    (ar, some (ar.reservedRange env sindex rsize rar))

def reserveAddrBy (address : Address) (vid : Int) (rsize : Nat) (rar : AddressRange) :
    AddressRange × Option AddressRange :=
  match ar.isValid env address false with
  | none => (ar, none)
  | some sindex => ar.reserveAddrByIndex env vid rsize sindex rar

end AddressRange

end OpenNebula.Network
