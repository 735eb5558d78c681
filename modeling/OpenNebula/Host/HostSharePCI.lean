import Mathlib.Data.List.Sort
import OpenNebula.Common.VectorAttribute

namespace OpenNebula.Host

open Common
open Library

/-! # PCI devices of a host (`HostSharePCI`) -/

/-- What `get_pci_value` returns (0, -1 or 1) and leaves in the variable. -/
inductive PciValue where
  | missing
  | malformed (found : Nat)
  | valid (value : Nat)

namespace PciValue

def isValid : PciValue → Bool
  | .valid _ => true
  | .missing | .malformed _ => false

def agrees (value : PciValue) (id : Nat) : Bool :=
  match value with
  | .missing => true
  | .malformed wanted | .valid wanted => id = wanted

def held (value : PciValue) (initial : Nat) : Nat :=
  match value with
  | .missing => initial
  | .malformed found | .valid found => found

end PciValue

/-- A text of blanks does not set the variable, which holds `initial`. -/
def getPciValue (name : String) (device : VectorAttribute) (initial : Nat) : PciValue :=
  let text := device.vectorValue name
  if text = "" then .missing
  else
    let reading := readNumber 16 .unsigned text
    let found := (reading.value.map Int.toNat).getD initial
    if reading.good then .valid found else .malformed found

structure PCIDevice where
  vendorId : Nat
  deviceId : Nat
  classId : Nat
  vmid : Int
  address : String
  attrs : VectorAttribute

/-- The constructor.  A `VMID` that cannot be read is replaced by -1; the variable
keeps what was read. -/
def PCIDevice.ofAttrs (attrs : VectorAttribute) : PCIDevice :=
  let (vmid, good) := attrs.intValue "VMID" (-1)
  let stored := if good then attrs else attrs.replace "VMID" "-1"
  { vendorId := (getPciValue "VENDOR" attrs 0).held 0
    deviceId := (getPciValue "DEVICE" attrs 0).held 0
    classId := (getPciValue "CLASS" attrs 0).held 0
    vmid
    address := stored.vectorValue "ADDRESS"
    attrs := stored }

def PCIDevice.shortAddress (pci : PCIDevice) : String := pci.attrs.vectorValue "SHORT_ADDRESS"

abbrev PciDevices := Map String PCIDevice

section

variable (devices : PciDevices)

def PciDevices.inOrder : List (Σ _ : String, PCIDevice) :=
  devices.entries.insertionSort fun left right => left.1 ≤ right.1

section

variable (device : VectorAttribute)

def byAddress : Bool :=
  device.vectorValue "SHORT_ADDRESS" ≠ "" && !(getPciValue "VENDOR" device 0).isValid &&
    !(getPciValue "DEVICE" device 0).isValid && !(getPciValue "CLASS" device 0).isValid

def namesDevice : Bool :=
  (getPciValue "VENDOR" device 0).isValid || (getPciValue "DEVICE" device 0).isValid ||
    (getPciValue "CLASS" device 0).isValid

def matchesName (pci : PCIDevice) : Bool :=
  (getPciValue "CLASS" device 0).agrees pci.classId &&
    (getPciValue "VENDOR" device 0).agrees pci.vendorId &&
    (getPciValue "DEVICE" device 0).agrees pci.deviceId

def testByAddr (shortAddr : String) : Bool :=
  match devices.inOrder.find? fun pci => pci.2.shortAddress = shortAddr with
  | none => false
  | some pci => pci.2.vmid = -1

def testByName (assigned : Finset String) :
    Option (Finset String) :=
  if namesDevice device = false then none
  else
    match devices.inOrder.find? fun pci => matchesName device pci.2 && pci.2.vmid = -1 &&
      pci.2.shortAddress ∉ assigned with
    | none => none
    | some pci => some (insert pci.2.shortAddress assigned)

end

def testAddresses (devices : PciDevices) : List VectorAttribute → Finset String → Option (Finset String)
  | [], assigned => some assigned
  | device :: devs, assigned =>
    if byAddress device then
      if testByAddr devices (device.vectorValue "SHORT_ADDRESS") then
        testAddresses devices devs (insert (device.vectorValue "SHORT_ADDRESS") assigned) else none
    else testAddresses devices devs assigned

def testNames (devices : PciDevices) : List VectorAttribute → Finset String → Bool
  | [], _ => true
  | device :: devs, assigned =>
    if byAddress device then testNames devices devs assigned
    else match testByName devices device assigned with
      | none => false
      | some assigned => testNames devices devs assigned

def test (devs : List VectorAttribute) : Bool :=
  match testAddresses devices devs ∅ with
  | none => false
  | some assigned => testNames devices devs assigned

end

/-- The ports in use for each NUMA node. -/
abbrev Palloc := Map Nat (Finset Nat)

def word (number : Int) : Nat := (number % 2 ^ 32).toNat

def freePort (ports : Finset Nat) (endPort portInc busInc : Nat) : Nat → Nat → Nat → Option (Nat × Nat)
  | 0, _, _ => none
  | turns + 1, port, busAddr =>
    if endPort ≤ port then none
    else if port ∈ ports then
      freePort ports endPort portInc busInc turns (word (port + portInc)) (word (busAddr + busInc))
    else some (port, busAddr)

/-- `0x` is written for numbers other than 0 and counts for the width. -/
def showBase (number : Nat) : String :=
  if number = 0 then padded 4 "0" else "0x" ++ padded 2 (hexText number)

def totalNodes (nodes : List VectorAttribute) : Nat :=
  nodes.countP fun node => 0 < (node.intValue "TOTAL_CPUS" 0).1 && 0 < (node.intValue "MEMORY" 0).1

section

variable (device : VectorAttribute)

def numaAddress (palloc : Palloc) (numaNode : Int) (total : Nat) :
    VectorAttribute × Palloc × Bool :=
  let dedicated := device.vectorValue "ROOT" = "dedicated"
  let pallocIdx := if dedicated then 2 ^ 32 - 1 else word numaNode
  let ports := (palloc.lookup pallocIdx).getD ∅
  let firstPort := if dedicated then word (3 + total * 9 + 1) else word (3 + numaNode * 9 + 1)
  let found :=
    if dedicated then freePort ports (word (firstPort + 24)) 2 8 12 firstPort (0xA0 + 1)
    else freePort ports (word (firstPort + 8)) 1 1 8 firstPort (word (0x20 + 0x10 * numaNode + 1))
  match found with
  | none => (device, palloc.insert pallocIdx ports, false)
  | some (index, busAddr) =>
    if index = 0 then (device, palloc.insert pallocIdx ports, false)
    else
      ((device.replace "VM_BUS_INDEX" (toString index)).replace "VM_ADDRESS" (padded 2 (hexText busAddr) ++ ":00.0"),
        palloc.insert pallocIdx (insert index ports), true)

def flatAddress (busIndex : Bool) (slot : Nat) : VectorAttribute × Bool :=
  let device := ((device.remove "VM_BUS_INDEX").replace "VM_DOMAIN" "0x0000").replace
    "VM_FUNCTION" "0"
  let reading := readNumber 16 .unsigned (device.vectorValue "VM_BUS")
  if reading.good = false then (device, false)
  else
    let (ibus, slot) := if busIndex then (word (slot + 1), 0) else ((reading.value.getD 0).toNat, word (slot + 1))
    (((device.replace "VM_SLOT" (showBase slot)).replace "VM_BUS" (showBase ibus)).replace
      "VM_ADDRESS" (padded 2 (hexText ibus) ++ ":" ++ padded 2 (hexText slot) ++ ".0"), true)

def setPciAddress (palloc : Palloc) (busIndex : Bool)
    (nodes : List VectorAttribute) : VectorAttribute × Palloc × Bool :=
  match device.unsignedValue "PCI_ID" with
  | none => (device, palloc, true)
  | some slot =>
    let (numaNode, isNode) := device.intValue "NUMA_NODE" (-1)
    if nodes ≠ [] ∧ isNode = true ∧ numaNode ≠ -1 then
      numaAddress device palloc numaNode (totalNodes nodes)
    else
      let (device, placed) := flatAddress device busIndex slot
      (device, palloc, placed)

/-- The fields of `HostShareCapacity` that the PCI share uses.  The identifier of a
virtual machine is an `int` and not negative. -/
structure PciCapacity where
  vmid : Fin (2 ^ 31)
  pci : List VectorAttribute
  vgpuProfile : String
  isQ35 : Bool
  nodes : List VectorAttribute

def copiedAttributes : List String :=
  ["DOMAIN", "BUS", "SLOT", "FUNCTION", "ADDRESS", "SHORT_ADDRESS", "VENDOR", "DEVICE", "CLASS"]

def checkedAttributes : List String := ["NUMA_NODE", "UUID", "MDEV_MODE"]

def pciAttribute (pci : PCIDevice) (setPrev : Bool) (vprofile : String) :
    VectorAttribute :=
  let device :=
    if setPrev then
      if device.vectorValue "ADDRESS" ≠ "" then
        device.replace "PREV_ADDRESS" (device.vectorValue "ADDRESS") else device
    else device.remove "PREV_ADDRESS"
  let device := copiedAttributes.foldl
    (fun device name => device.replace name (pci.attrs.vectorValue name)) device
  let device := checkedAttributes.foldl
    (fun device name =>
      if pci.attrs.vectorValue name ≠ "" then device.replace name (pci.attrs.vectorValue name)
      else device) device
  -- NVIDIA Corporation and 3D controller
  if vprofile ≠ "" ∧ (getPciValue "VENDOR" pci.attrs 0).held 0 = 0x10de ∧
      (getPciValue "CLASS" pci.attrs 0).held 0 = 0x0302 ∧ device.vectorValue "PROFILE" = "" then
    device.replace "PROFILE" vprofile
  else device

end

/-- Why a request was given a device, or not. -/
inductive AddOutcome where
  | added | noDevice | noAddress
deriving DecidableEq

structure PciState where
  devices : PciDevices
  palloc : Palloc

/-- Marks the device with the virtual machine.  When there is no guest address only
the attribute is set back. -/
def takeDevice (state : PciState) (key : String) (pci : PCIDevice) (device : VectorAttribute)
    (sr : PciCapacity) : PciState × VectorAttribute × AddOutcome :=
  let pci := { pci with
    vmid := (sr.vmid.val : Int), attrs := pci.attrs.replace "VMID" (toString sr.vmid.val) }
  let device := pciAttribute device pci true sr.vgpuProfile
  match setPciAddress device state.palloc sr.isQ35 sr.nodes with
  | (device, palloc, true) => (⟨state.devices.insert key pci, palloc⟩, device, .added)
  | (device, palloc, false) =>
    let pci := { pci with attrs := pci.attrs.replace "VMID" "-1" }
    (⟨state.devices.insert key pci, palloc⟩, device, .noAddress)

def addByAddr (state : PciState) (device : VectorAttribute) (sr : PciCapacity) :
    PciState × VectorAttribute × AddOutcome :=
  match state.devices.inOrder.find? fun pci =>
      pci.2.shortAddress = device.vectorValue "SHORT_ADDRESS" with
  | none => (state, device, .noDevice)
  | some ⟨key, pci⟩ =>
    if pci.vmid ≠ -1 then (state, device, .noDevice) else takeDevice state key pci device sr

def addByName (state : PciState) (device : VectorAttribute) (sr : PciCapacity) :
    PciState × VectorAttribute × AddOutcome :=
  if namesDevice device = false then (state, device, .noDevice)
  else
    match state.devices.inOrder.find? fun pci => matchesName device pci.2 && pci.2.vmid = -1 with
    | none => (state, device, .noDevice)
    | some ⟨key, pci⟩ => takeDevice state key pci device sr

def addLoop (sr : PciCapacity) (mode : Bool) : PciState → List (Bool × VectorAttribute) →
      PciState × List (Bool × VectorAttribute) × AddOutcome
  | state, [] => (state, [], .added)
  | state, (isAddress, device) :: devs =>
    if isAddress = mode then
      match (if mode then addByAddr state device sr else addByName state device sr) with
      | (state, device, .added) =>
        let (state, devs, outcome) := addLoop sr mode state devs
        (state, (isAddress, device) :: devs, outcome)
      | (state, device, failure) => (state, (isAddress, device) :: devs, failure)
    else
      let (state, devs, outcome) := addLoop sr mode state devs
      (state, (isAddress, device) :: devs, outcome)

section

variable (devices : PciDevices)

/-- Returns the requests with what was written into them.  Devices that were added
before a failure stay. -/
def add (sr : PciCapacity) : PciDevices × List VectorAttribute × AddOutcome :=
  let devs := sr.pci.map fun device => (byAddress device, device)
  match addLoop sr true ⟨devices, ∅⟩ devs with
  | (state, devs, .added) =>
    let (state, devs, outcome) := addLoop sr false state devs
    (state.devices, devs.map Prod.snd, outcome)
  | (state, devs, failure) => (state.devices, devs.map Prod.snd, failure)

def freeDevice (key : String) (pci : PCIDevice) : PciDevices :=
  devices.insert key { pci with vmid := -1, attrs := pci.attrs.replace "VMID" "-1" }

def ownDevice (address : String) (vmid : Fin (2 ^ 31)) : Option PCIDevice :=
  (devices.lookup address).filter fun pci => pci.vmid = vmid.val

def delDevice (device : VectorAttribute) (vmid : Fin (2 ^ 31)) :
    PciDevices × VectorAttribute :=
  match ownDevice devices (device.vectorValue "PREV_ADDRESS") vmid with
  | some pci =>
    (freeDevice devices (device.vectorValue "PREV_ADDRESS") pci, device.remove "PREV_ADDRESS")
  | none =>
    match ownDevice devices (device.vectorValue "ADDRESS") vmid with
    | some pci => (freeDevice devices (device.vectorValue "ADDRESS") pci, device.remove "ADDRESS")
    | none => (devices, device)

end

def del (vmid : Fin (2 ^ 31)) : PciDevices → List VectorAttribute → PciDevices × List VectorAttribute
  | devices, [] => (devices, [])
  | devices, device :: devs =>
    let (devices, device) := delDevice devices device vmid
    let (devices, devs) := del vmid devices devs
    (devices, device :: devs)

structure HostSharePCI where
  devices : PciDevices
  nulls : List String

/-- `pci_devices[address]` makes an entry for an address that is not there.  The
variable `address` keeps its value for a request without `PREV_ADDRESS`. -/
def revert : HostSharePCI → String → List VectorAttribute → HostSharePCI × List VectorAttribute
  | host, _, [] => (host, [])
  | host, address, device :: devs =>
    let address := (device.lookup "PREV_ADDRESS").getD address
    let (host, device) :=
      if address = "" then (host, device)
      else
        match host.devices.lookup address with
        | some pci => (host, pciAttribute device pci false "")
        | none => ({ host with nulls := address :: host.nulls }, device)
    let (host, devs) := revert host address devs
    (host, device :: devs)

structure HostShareConf where
  pciFilter : String
  pciShortAddress : String

/-- The three fields of a filter; `*` where nothing is given. -/
def parseFilter (text : String) : List String :=
  let tokens := (pieces ':' text).take 3
  (tokens.map fun token => if token = "" then "*" else trim token) ++
    List.replicate (3 - tokens.length) "*"

def isFilterMatch (filters : List (List String)) (pci : VectorAttribute) : Bool :=
  filters.isEmpty || filters.any fun filter =>
    (filter.zip ["VENDOR", "DEVICE", "CLASS"]).all fun field =>
      field.1 = "*" || field.1 = pci.vectorValue field.2

def isAddressMatch (saddr : List String) (pci : VectorAttribute) : Bool :=
  saddr.isEmpty || pci.vectorValue "SHORT_ADDRESS" ∈ saddr

def monitorDevice (hconf : HostShareConf) (devices : PciDevices) (pci : VectorAttribute) : PciDevices :=
  let filters := (pieces ',' hconf.pciFilter).map parseFilter
  let shortAddress := ((pieces ',' hconf.pciShortAddress).map firstWord).filter (· ≠ "")
  let address := pci.vectorValue "ADDRESS"
  if address = "" ∨ isFilterMatch filters pci = false ∨ isAddressMatch shortAddress pci = false then
    devices
  else
    match devices.lookup address with
    | some stored =>
      if pci.vectorValue "PROFILES" ≠ stored.attrs.vectorValue "PROFILES" then
        devices.insert address
          { stored with attrs := stored.attrs.replace "PROFILES" (pci.vectorValue "PROFILES") }
      else devices
    | none => devices.insert address (.ofAttrs pci)

/-- A device of the table is met by the monitoring data. -/
def isMonitored (hconf : HostShareConf) (pciAtt : List VectorAttribute) (address : String) : Bool :=
  let filters := (pieces ',' hconf.pciFilter).map parseFilter
  let shortAddress := ((pieces ',' hconf.pciShortAddress).map firstWord).filter (· ≠ "")
  pciAtt.any fun pci => pci.vectorValue "ADDRESS" = address && address ≠ "" &&
    isFilterMatch filters pci && isAddressMatch shortAddress pci

/-- Devices that were there before, are missing now and belong to no virtual
machine are removed. -/
def setMonitorization (devices : PciDevices) (pciAtt : List VectorAttribute) (hconf : HostShareConf) : PciDevices :=
  Map.filter
    (fun address pci => address ∉ devices || isMonitored hconf pciAtt address || pci.vmid ≠ -1)
    (pciAtt.foldl (monitorDevice hconf) devices)

def init (attributes : List VectorAttribute) : PciDevices :=
  attributes.foldl
    (fun devices attrs => Map.insertNew (PCIDevice.ofAttrs attrs).address (.ofAttrs attrs) devices) ∅

end OpenNebula.Host
