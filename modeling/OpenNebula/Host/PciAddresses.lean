import Mathlib.Tactic.Ring
import OpenNebula.Host.PciAgreement

namespace OpenNebula.Host

open Common
open Library

/-! # Guest addresses of the PCI devices of a virtual machine

A bus of a NUMA node and the dedicated buses hand out their ports one after the other.
So the address of a device follows from its bus and from its place there, the number of
devices that got a port of that bus before it.  Places of one bus never have the same
address; those of different buses can.
-/

/-- A dedicated bus, the bus of a NUMA node, or the address that follows from `PCI_ID`. -/
inductive GuestBus where
  | dedicated
  | shared (node : Int)
  | flat (bus slot : Nat)
deriving DecidableEq

def rootBus (device : VectorAttribute) (numaNode : Int) : GuestBus :=
  if device.vectorValue "ROOT" = "dedicated" then .dedicated else .shared numaNode

/-- Where `set_pci_address` puts the device; it passes by a device without `PCI_ID`. -/
def guestBus (busIndex : Bool) (nodes : List VectorAttribute) (device : VectorAttribute) : Option GuestBus :=
  match device.unsignedValue "PCI_ID" with
  | none => none
  | some slot =>
    let (numaNode, isNode) := device.intValue "NUMA_NODE" (-1)
    if nodes ≠ [] ∧ isNode = true ∧ numaNode ≠ -1 then
      some (rootBus device numaNode)
    else if busIndex then some (.flat (word (slot + 1)) 0)
    else
      let ibus := (readNumber 16 .unsigned (device.vectorValue "VM_BUS")).value.getD 0
      some (.flat ibus.toNat (word (slot + 1)))

namespace GuestBus

def key : GuestBus → Option Nat
  | .dedicated => some (2 ^ 32 - 1)
  | .shared node => some (word node)
  | .flat .. => none

def capacity : GuestBus → Nat
  | .dedicated => 12
  | .shared _ => 8
  | .flat .. => 0

def port (total : Nat) : GuestBus → Nat → Nat
  | .dedicated, place => word (3 + total * 9 + 1 + 2 * place)
  | .shared node, place => word (3 + node * 9 + 1 + place)
  | .flat .., _ => 0

def address : GuestBus → Nat → Nat × Nat
  | .dedicated, place => (word (0xA1 + 8 * place), 0)
  | .shared node, place => (word (0x20 + 0x10 * node + 1 + place), 0)
  | .flat bus slot, _ => (bus, slot)

/-- The node is an `int` other than -1. -/
def Possible : GuestBus → Prop
  | .shared node => -2 ^ 31 ≤ node ∧ node < 2 ^ 31 ∧ node ≠ -1
  | .dedicated | .flat .. => True

def onDedicated (node : Int) (place dedicated : Nat) : Bool :=
  word (16 * (node - 8) + place) = word (8 * dedicated)

/-- Two places have the same address, or the same port on buses of the same type. -/
def meets : GuestBus × Nat → GuestBus × Nat → Bool
  | (.dedicated, _), (.dedicated, _) => false
  | (.dedicated, first), (.shared node, second) => onDedicated node second first
  | (.shared node, first), (.dedicated, second) => onDedicated node first second
  | (.shared node, first), (.shared other, second) =>
    node ≠ other ∧ (word (16 * node + first) = word (16 * other + second) ∨
      word (9 * node + first) = word (9 * other + second))
  | (.flat bus slot, _), (.flat other otherSlot, _) => bus = other ∧ slot = otherSlot
  | (.flat bus slot, _), (other, place) | (other, place), (.flat bus slot, _) =>
    (bus, slot) = other.address place

end GuestBus

/-- Each device with the number of devices that came before it on its bus -/
def places : List GuestBus → List GuestBus → List (GuestBus × Nat)
  | _, [] => []
  | earlier, bus :: buses => (bus, earlier.count bus) :: places (bus :: earlier) buses

theorem word_add (first second : Int) : word (word first + second) = word (first + second) := by
  simp only [word]
  omega

theorem word_of_lt {number : Nat} (small : number < 2 ^ 32) : word number = number := by
  simp only [word]
  omega

theorem word_lt (number : Int) : word number < 2 ^ 32 := by
  simp only [word]
  omega

theorem freePort_found {ports : Finset Nat} {endPort portInc busInc turns port busAddr index bus : Nat}
    (isPort : port < 2 ^ 32) (isBus : busAddr < 2 ^ 32)
    (found : freePort ports endPort portInc busInc turns port busAddr = some (index, bus)) :
    ∃ place < turns, index = word (port + portInc * place) ∧ bus = word (busAddr + busInc * place) ∧
      index ∉ ports ∧ ∀ earlier < place, word (port + portInc * earlier) ∈ ports := by
  induction turns generalizing port busAddr with
  | zero => cases found
  | succ turns ih =>
    rw [freePort] at found
    split at found
    · cases found
    · split at found
      · rename_i inUse
        obtain ⟨place, inside, isIndex, isAddress, free, before⟩ := ih (word_lt _) (word_lt _) found
        have shift (inc start : Nat) (turn : Nat) :
            word ((word (start + inc) : Nat) + inc * turn) = word (start + inc * (turn + 1 : Nat)) := by
          rw [word_add]
          push_cast
          ring_nf
        refine ⟨place + 1, by omega, ?_, ?_, free, fun earlier isEarlier => ?_⟩
        · rw [isIndex, shift]
        · rw [isAddress, shift]
        · cases earlier with
          | zero =>
            have start : word (port + portInc * (0 : Nat)) = port := by
              simpa using word_of_lt isPort
            rw [start]
            exact inUse
          | succ earlier =>
            rw [← shift]
            exact before earlier (by omega)
      · rename_i free
        obtain ⟨rfl, rfl⟩ := Prod.mk.inj (Option.some.inj found)
        refine ⟨0, by omega, ?_, ?_, free, fun earlier isEarlier => by omega⟩
        · simpa using (word_of_lt isPort).symm
        · simpa using (word_of_lt isBus).symm

def slotAddress (bus slot : Nat) : String :=
  padded 2 (hexText bus) ++ ":" ++ padded 2 (hexText slot) ++ ".0"

theorem readDigits_hexText (number : Nat) :
    readDigits 16 (padded 2 (hexText number)).toList none = (some number, []) := by
  rw [padded_hexText]
  exact readDigits_padded (by decide) (by decide) 2 number

variable {first second total : Nat} {device : VectorAttribute} {bus : GuestBus}

theorem padded_hexText_inj (same : (padded 2 (hexText first)).toList = (padded 2 (hexText second)).toList) :
    first = second := by
  have reads := readDigits_hexText first
  rw [same, readDigits_hexText] at reads
  exact (Option.some.inj (Prod.mk.inj reads).1).symm

theorem colon_notMem (number : Nat) : ':' ∉ (padded 2 (hexText number)).toList :=
  fun inside => digitValue_of_read (readDigits_hexText number) ':' inside rfl

theorem slotAddress_toList (bus slot : Nat) : (slotAddress bus slot).toList =
    (padded 2 (hexText bus)).toList ++ ':' :: ((padded 2 (hexText slot)).toList ++ ['.', '0']) := by
  have colon : ":".toList = [':'] := by decide
  have ending : ".0".toList = ['.', '0'] := by decide
  simp only [slotAddress, String.toList_append, List.append_assoc, colon, ending, List.cons_append, List.nil_append]

theorem slotAddress_inj {bus slot other otherSlot : Nat} :
    slotAddress bus slot = slotAddress other otherSlot ↔ bus = other ∧ slot = otherSlot := by
  constructor
  · intro same
    have cut := congrArg String.toList same
    have afterColon : ':' ∉ (padded 2 (hexText slot)).toList ++ ['.', '0'] := by
      simp [colon_notMem slot]
    rw [slotAddress_toList, slotAddress_toList, List.append_cons_inj_of_notMem (colon_notMem bus) afterColon] at cut
    obtain ⟨sameBus, -, sameSlot⟩ := cut
    exact ⟨padded_hexText_inj sameBus, padded_hexText_inj (List.append_cancel_right sameSlot)⟩
  · rintro ⟨rfl, rfl⟩
    rfl

structure Sits (total : Nat) (site : GuestBus × Nat) (device : VectorAttribute) : Prop where
  address : device.vectorValue "VM_ADDRESS" =
    slotAddress (site.1.address site.2).1 (site.1.address site.2).2
  index : device.vectorValue "VM_BUS_INDEX" =
    if site.1.key.isSome then toString (site.1.port total site.2) else ""
  root : site.1.key.isSome → (device.vectorValue "ROOT" = "dedicated" ↔ site.1 = .dedicated)
  inside : site.1.key.isSome → site.2 < site.1.capacity
  possible : site.1.Possible

def Filled (total : Nat) (palloc : Palloc) (earlier : List GuestBus) : Prop :=
  ∀ bus idx, bus.Possible → bus.key = some idx →
    (palloc.lookup idx).getD ∅ = (Finset.range (earlier.count bus)).image (bus.port total)

theorem numaAddress_placed {placed : VectorAttribute} {palloc after : Palloc} {numaNode : Int} {idx : Nat}
    (isKey : (rootBus device numaNode).key = some idx)
    (given : numaAddress device palloc numaNode total = (placed, after, true)) :
    ∃ place < (rootBus device numaNode).capacity,
      (rootBus device numaNode).port total place ∉ (palloc.lookup idx).getD ∅ ∧
      (∀ earlier < place, (rootBus device numaNode).port total earlier ∈ (palloc.lookup idx).getD ∅) ∧
      after = palloc.insert idx (insert ((rootBus device numaNode).port total place) ((palloc.lookup idx).getD ∅)) ∧
      placed = (device.replace "VM_BUS_INDEX"
        (toString ((rootBus device numaNode).port total place))).replace "VM_ADDRESS"
        (slotAddress ((rootBus device numaNode).address place).1 ((rootBus device numaNode).address place).2) := by
  have ending (bus : Nat) : padded 2 (hexText bus) ++ ":00.0" = slotAddress bus 0 := by
    rw [slotAddress, show ":00.0" = ":" ++ (padded 2 (hexText 0) ++ ".0") by decide,
      ← String.append_assoc, ← String.append_assoc]
  by_cases dedicated : device.vectorValue "ROOT" = "dedicated"
  · simp only [rootBus, if_pos dedicated, GuestBus.key, Option.some.injEq] at isKey ⊢
    subst isKey
    simp only [numaAddress, if_pos dedicated] at given
    split at given
    · simp at given
    · rename_i index busAddr found
      split at given
      · simp at given
      · obtain ⟨place, inside, isIndex, isBus, free, before⟩ :=
          freePort_found (word_lt _) (by decide) found
        have port (place : Nat) : word ((word (3 + total * 9 + 1) : Nat) + (2 : Nat) * place) =
            GuestBus.dedicated.port total place := by
          rw [word_add]
          rfl
        rw [port] at isIndex
        subst isIndex
        simp only [port] at before
        rw [if_pos dedicated] at free before
        simp only [Prod.mk.injEq, and_true] at given
        obtain ⟨rfl, rfl⟩ := given
        refine ⟨place, inside, free, before, by rw [if_pos dedicated], ?_⟩
        rw [ending, isBus]
        rfl
  · simp only [rootBus, if_neg dedicated, GuestBus.key, Option.some.injEq] at isKey ⊢
    subst isKey
    simp only [numaAddress, if_neg dedicated] at given
    split at given
    · simp at given
    · rename_i index busAddr found
      split at given
      · simp at given
      · obtain ⟨place, inside, isIndex, isBus, free, before⟩ :=
          freePort_found (word_lt _) (word_lt _) found
        have port (place : Nat) : word ((word (3 + numaNode * 9 + 1) : Nat) + (1 : Nat) * place) =
            (GuestBus.shared numaNode).port total place := by
          rw [word_add, Nat.cast_one, one_mul]
          rfl
        rw [port] at isIndex
        subst isIndex
        simp only [port] at before
        rw [if_neg dedicated] at free before
        simp only [Prod.mk.injEq, and_true] at given
        obtain ⟨rfl, rfl⟩ := given
        refine ⟨place, inside, free, before, by rw [if_neg dedicated], ?_⟩
        rw [ending, isBus, word_add, Nat.cast_one, one_mul]
        rfl

theorem guestBus_possible {busIndex : Bool} {nodes : List VectorAttribute}
    (isBus : guestBus busIndex nodes device = some bus) : bus.Possible := by
  have range : -2 ^ 31 ≤ (device.intValue "NUMA_NODE" (-1)).1 ∧
      (device.intValue "NUMA_NODE" (-1)).1 < 2 ^ 31 := by
    simp only [VectorAttribute.intValue]
    split
    · decide
    · simp only [readNumber]
      split
      · decide
      · split
        · decide
        · exact store_int_range _ _
  simp only [guestBus] at isBus
  split at isBus
  · cases isBus
  · split at isBus
    · rename_i bound
      obtain rfl := Option.some.inj isBus
      rw [rootBus]
      split
      · trivial
      · exact ⟨range.1, range.2, bound.2.2⟩
    · split at isBus <;> obtain rfl := Option.some.inj isBus <;> trivial

theorem port_inj (isRoot : bus.key.isSome) (isFirst : first < 2 ^ 30) (isSecond : second < 2 ^ 30)
    (same : bus.port total first = bus.port total second) : first = second := by
  cases bus with
  | dedicated | shared node =>
    simp only [GuestBus.port, word] at same
    omega
  | flat bus slot => cases isRoot

theorem key_inj {other : GuestBus} (possible : bus.Possible) (otherPossible : other.Possible) {idx : Nat}
    (isKey : bus.key = some idx) (isOther : other.key = some idx) : bus = other := by
  cases bus with
  | flat => cases isKey
  | dedicated =>
    cases other with
    | flat => cases isOther
    | dedicated => rfl
    | shared node =>
      simp only [GuestBus.key, GuestBus.Possible, Option.some.injEq, word] at *
      omega
  | shared node =>
    cases other with
    | flat => cases isOther
    | dedicated =>
      simp only [GuestBus.key, GuestBus.Possible, Option.some.injEq, word] at *
      omega
    | shared otherNode =>
      simp only [GuestBus.key, GuestBus.Possible, Option.some.injEq, word, GuestBus.shared.injEq] at *
      omega

theorem Filled.take {total : Nat} {palloc : Palloc} {earlier : List GuestBus}
    (filled : Filled total palloc earlier) {bus : GuestBus} (possible : bus.Possible) {idx : Nat}
    (isKey : bus.key = some idx) {place : Nat} (inside : place < bus.capacity)
    (free : bus.port total place ∉ (palloc.lookup idx).getD ∅)
    (before : ∀ earlier < place, bus.port total earlier ∈ (palloc.lookup idx).getD ∅) : place = earlier.count bus ∧
      Filled total (palloc.insert idx (insert (bus.port total place) ((palloc.lookup idx).getD ∅)))
        (bus :: earlier) := by
  have ports := filled bus idx possible isKey
  rw [ports] at free before ⊢
  have isRoot : bus.key.isSome := by rw [isKey]; rfl
  have small : bus.capacity ≤ 12 := by cases bus <;> simp [GuestBus.capacity]
  have isCount : place = earlier.count bus := by
    rcases Nat.lt_trichotomy place (earlier.count bus) with less | same | more
    · exact absurd (Finset.mem_image_of_mem _ (Finset.mem_range.2 less)) free
    · exact same
    · obtain ⟨other, isOther, samePort⟩ := Finset.mem_image.1 (before _ more)
      have isOther := Finset.mem_range.1 isOther
      have same := port_inj isRoot (by omega) (by omega) samePort
      omega
  refine ⟨isCount, fun other otherIdx otherPossible isOther => ?_⟩
  rw [Map.lookup_insert_eq]
  by_cases same : otherIdx = idx
  · subst same
    obtain rfl := key_inj otherPossible possible isOther isKey
    rw [if_pos rfl, Option.getD_some, List.count_cons_self, Finset.range_add_one, Finset.image_insert, isCount]
  · have different : bus ≠ other := fun sameBus => same (by
      rw [← sameBus, isKey] at isOther
      exact (Option.some.inj isOther).symm)
    rw [if_neg same, List.count_cons_of_ne different, filled other otherIdx otherPossible isOther]

/-- `set_pci_address` gave it an address, or would have. -/
def hasId (device : VectorAttribute) : Bool := (device.unsignedValue "PCI_ID").isSome

theorem hasId_congr {other : VectorAttribute}
    (same : device.vectorValue "PCI_ID" = other.vectorValue "PCI_ID") : hasId device = hasId other := by
  simp only [hasId, VectorAttribute.unsignedValue, VectorAttribute.naturalValue, same]

section

variable {busIndex : Bool} {nodes : List VectorAttribute} {device placed : VectorAttribute}
  {palloc after : Palloc}

theorem setPciAddress_none (noBus : guestBus busIndex nodes device = none)
    (given : setPciAddress device palloc busIndex nodes = (placed, after, true)) :
    hasId placed = false ∧ after = palloc := by
  simp only [guestBus] at noBus
  split at noBus
  · rename_i noId
    rw [setPciAddress, noId] at given
    obtain ⟨rfl, rfl, -⟩ := given
    exact ⟨by rw [hasId, noId]; rfl, rfl⟩
  · split at noBus
    · cases noBus
    · split at noBus <;> cases noBus

theorem setPciAddress_some {earlier : List GuestBus} (filled : Filled (totalNodes nodes) palloc earlier)
    {bus : GuestBus} (isBus : guestBus busIndex nodes device = some bus)
    (given : setPciAddress device palloc busIndex nodes = (placed, after, true)) :
    hasId placed = true ∧ Sits (totalNodes nodes) (bus, earlier.count bus) placed ∧
      Filled (totalNodes nodes) after (bus :: earlier) := by
  have possible := guestBus_possible isBus
  have named : hasId device = true := by
    simp only [guestBus] at isBus
    split at isBus
    · cases isBus
    · rename_i slot isSlot
      rw [hasId, isSlot]
      rfl
  simp only [guestBus] at isBus
  split at isBus
  · cases isBus
  rename_i slot isSlot
  rw [setPciAddress, isSlot] at given
  simp only at given
  split at isBus
  · rename_i bound
    rw [if_pos bound] at given
    obtain rfl := Option.some.inj isBus
    obtain ⟨idx, isKey⟩ : ∃ idx, (rootBus device (device.intValue "NUMA_NODE" (-1)).1).key = some idx := by
      rw [rootBus]
      split
      · exact ⟨_, rfl⟩
      · exact ⟨_, rfl⟩
    obtain ⟨place, inside, free, before, isAfter, isPlaced⟩ := numaAddress_placed isKey given
    obtain ⟨isCount, filledAfter⟩ := filled.take possible isKey inside free before
    have isRoot : (rootBus device (device.intValue "NUMA_NODE" (-1)).1).key.isSome := by
      rw [isKey]
      rfl
    subst isCount isAfter isPlaced
    refine ⟨?_, ⟨?_, ?_, fun _ => ?_, fun _ => inside, possible⟩, filledAfter⟩
    · rw [← named]
      exact hasId_congr (by simp)
    · simp
    · simp [isRoot]
    · rw [rootBus]
      split <;> simp [*]
  · rename_i free
    rw [if_neg free] at given
    have notRoot : bus.key = none := by
      split at isBus <;> obtain rfl := Option.some.inj isBus <;> rfl
    have filledAfter : Filled (totalNodes nodes) palloc (bus :: earlier) := by
      intro other idx otherPossible isOther
      have different : bus ≠ other := fun same => by
        rw [← same, notRoot] at isOther
        cases isOther
      rw [List.count_cons_of_ne different]
      exact filled other idx otherPossible isOther
    simp only [flatAddress] at given
    split at given
    · simp at given
    · simp only [Prod.mk.injEq, and_true] at given
      obtain ⟨rfl, rfl⟩ := given
      refine ⟨?_, ⟨?_, ?_, fun isRoot => ?_, fun isRoot => ?_, possible⟩, filledAfter⟩
      · rw [← named]
        exact hasId_congr (by simp)
      · cases busIndex <;> obtain rfl := Option.some.inj isBus <;> simp [slotAddress, GuestBus.address]
      · simp [notRoot]
      · rw [notRoot] at isRoot
        cases isRoot
      · rw [notRoot] at isRoot
        cases isRoot

end

/-- Other addresses, and other ports on buses of the same type -/
def AddressesDiffer (left right : VectorAttribute) : Prop :=
  left.vectorValue "VM_ADDRESS" ≠ right.vectorValue "VM_ADDRESS" ∧
    (left.vectorValue "VM_BUS_INDEX" ≠ "" →
      (left.vectorValue "ROOT" = "dedicated" ↔ right.vectorValue "ROOT" = "dedicated") →
      left.vectorValue "VM_BUS_INDEX" ≠ right.vectorValue "VM_BUS_INDEX")

instance (left right : VectorAttribute) : Decidable (AddressesDiffer left right) :=
  inferInstanceAs (Decidable (_ ∧ (_ → _ → _)))

theorem AddressesDiffer.symm {left right : VectorAttribute} (differ : AddressesDiffer left right) :
    AddressesDiffer right left := by
  refine ⟨differ.1.symm, fun given sameType same => ?_⟩
  rw [same] at given
  exact differ.2 given sameType.symm same.symm

theorem toString_ne_empty (number : Nat) : toString number ≠ "" := by
  intro empty
  obtain ⟨digit, rest, -, isText⟩ := toDigits_cons number
  have chars : (toString number).toList = digit.digitChar :: rest := Nat.toList_repr.trans isText
  rw [empty] at chars
  cases chars

theorem toString_inj (same : toString first = toString second) : first = second := by
  have chars := congrArg String.toList same
  rw [show (toString first).toList = Nat.toDigits 10 first from Nat.toList_repr,
    show (toString second).toList = Nat.toDigits 10 second from Nat.toList_repr] at chars
  have reads := readDigits_toDigits first
  rw [chars, readDigits_toDigits] at reads
  exact (Option.some.inj (Prod.mk.inj reads).1).symm

theorem Sits.differ_iff {left right : VectorAttribute} {first second : GuestBus × Nat}
    (isLeft : Sits total first left) (isRight : Sits total second right) : AddressesDiffer left right ↔
      first.1.address first.2 ≠ second.1.address second.2 ∧ (first.1.key.isSome → second.1.key.isSome →
          (first.1 = .dedicated ↔ second.1 = .dedicated) →
          first.1.port total first.2 ≠ second.1.port total second.2) := by
  rw [AddressesDiffer, isLeft.address, isRight.address, isLeft.index, isRight.index, Ne,
    slotAddress_inj, ← Prod.ext_iff]
  refine and_congr_right fun _ => ?_
  by_cases firstRoot : first.1.key.isSome
  · by_cases secondRoot : second.1.key.isSome
    · rw [if_pos firstRoot, if_pos secondRoot, isLeft.root firstRoot, isRight.root secondRoot]
      constructor
      · exact fun differ _ _ sameType samePort =>
          differ (toString_ne_empty _) sameType (congrArg toString samePort)
      · exact fun differ _ sameType same => differ firstRoot secondRoot sameType (toString_inj same)
    · rw [if_pos firstRoot, if_neg secondRoot]
      exact ⟨fun _ _ isRoot => absurd isRoot secondRoot, fun _ given _ => given⟩
  · rw [if_neg firstRoot]
    exact ⟨fun _ isRoot => absurd isRoot firstRoot, fun _ given => absurd rfl given⟩

theorem word_shift (shift first second : Int) :
    word (shift + first) = word (shift + second) ↔ word first = word second := by
  simp only [word]
  omega

theorem address_shared_dedicated (node : Int) (place otherPlace : Nat) :
    (GuestBus.shared node).address place = GuestBus.dedicated.address otherPlace ↔
      GuestBus.onDedicated node place otherPlace = true := by
  rw [GuestBus.onDedicated, decide_eq_true_eq, ← word_shift 0xA1, GuestBus.address, GuestBus.address,
    Prod.mk.injEq, and_iff_left rfl,
    show 0x20 + 0x10 * node + 1 + (place : Int) = 0xA1 + (16 * (node - 8) + place) by ring]

theorem address_shared (node other : Int) (place otherPlace : Nat) :
    (GuestBus.shared node).address place = (GuestBus.shared other).address otherPlace ↔
      word (16 * node + place) = word (16 * other + otherPlace) := by
  rw [← word_shift 0x21, GuestBus.address, GuestBus.address, Prod.mk.injEq, and_iff_left rfl,
    show 0x20 + 0x10 * node + 1 + (place : Int) = 0x21 + (16 * node + place) by ring,
    show 0x20 + 0x10 * other + 1 + (otherPlace : Int) = 0x21 + (16 * other + otherPlace) by ring]

theorem port_shared (total : Nat) (node other : Int) (place otherPlace : Nat) :
    (GuestBus.shared node).port total place = (GuestBus.shared other).port total otherPlace ↔
      word (9 * node + place) = word (9 * other + otherPlace) := by
  rw [← word_shift 4, GuestBus.port, GuestBus.port,
    show 3 + node * 9 + 1 + (place : Int) = 4 + (9 * node + place) by ring,
    show 3 + other * 9 + 1 + (otherPlace : Int) = 4 + (9 * other + otherPlace) by ring]

theorem address_inj (isRoot : bus.key.isSome) (isFirst : first < bus.capacity)
    (isSecond : second < bus.capacity) (same : bus.address first = bus.address second) : first = second := by
  cases bus with
  | dedicated | shared node =>
    simp only [GuestBus.address, GuestBus.capacity, Prod.mk.injEq, and_true, word] at *
    omega
  | flat bus slot => cases isRoot

theorem meets_eq_false_iff {first second : GuestBus × Nat}
    (firstInside : first.1.key.isSome → first.2 < first.1.capacity)
    (secondInside : second.1.key.isSome → second.2 < second.1.capacity)
    (apart : first.1.key.isSome → first.1 = second.1 → first.2 ≠ second.2) : GuestBus.meets first second = false ↔
      first.1.address first.2 ≠ second.1.address second.2 ∧ (first.1.key.isSome → second.1.key.isSome →
          (first.1 = .dedicated ↔ second.1 = .dedicated) →
          first.1.port total first.2 ≠ second.1.port total second.2) := by
  obtain ⟨bus, place⟩ := first
  obtain ⟨other, otherPlace⟩ := second
  have sameBus (isRoot : bus.key.isSome) (same : bus = other) :
      bus.address place ≠ other.address otherPlace ∧
        (bus.key.isSome → other.key.isSome → (bus = .dedicated ↔ other = .dedicated) →
          bus.port total place ≠ other.port total otherPlace) := by
    have different := apart isRoot same
    subst same
    have small : bus.capacity ≤ 12 := by cases bus <;> simp [GuestBus.capacity]
    have isFirst : place < bus.capacity := firstInside isRoot
    have isSecond : otherPlace < bus.capacity := secondInside isRoot
    exact ⟨fun same => different (address_inj isRoot isFirst isSecond same),
      fun _ _ _ same => different (port_inj isRoot (by omega) (by omega) same)⟩
  cases bus with
  | dedicated =>
    cases other with
    | dedicated => exact iff_of_true rfl (sameBus rfl rfl)
    | shared node =>
      rw [GuestBus.meets, ← Bool.not_eq_true, ← address_shared_dedicated]
      exact ⟨fun different => ⟨fun same => different same.symm, fun _ _ sameType =>
        absurd (sameType.1 rfl) (by simp)⟩, fun apart same => apart.1 same.symm⟩
    | flat bus slot =>
      refine decide_eq_false_iff_not.trans ?_
      exact ⟨fun different => ⟨fun same => different same.symm, fun _ isRoot => by cases isRoot⟩,
        fun apart same => apart.1 same.symm⟩
  | shared node =>
    cases other with
    | dedicated =>
      rw [GuestBus.meets, ← Bool.not_eq_true, ← address_shared_dedicated]
      exact ⟨fun different => ⟨different, fun _ _ sameType =>
        absurd (sameType.2 rfl) (by simp)⟩, fun apart => apart.1⟩
    | shared otherNode =>
      refine decide_eq_false_iff_not.trans ?_
      rw [← address_shared, ← port_shared total]
      by_cases same : node = otherNode
      · exact iff_of_true (fun both => both.1 same) (sameBus rfl (by rw [same]))
      · simp [same, GuestBus.key]
    | flat bus slot =>
      refine decide_eq_false_iff_not.trans ?_
      exact ⟨fun different => ⟨fun same => different same.symm, fun _ isRoot => by cases isRoot⟩,
        fun apart same => apart.1 same.symm⟩
  | flat bus slot =>
    cases other with
    | dedicated | shared node =>
      refine decide_eq_false_iff_not.trans ?_
      exact ⟨fun different => ⟨different, fun isRoot => by cases isRoot⟩, And.left⟩
    | flat other otherSlot =>
      simp [GuestBus.meets, GuestBus.address, GuestBus.key]

theorem count_le_of_places {earlier buses : List GuestBus} {site : GuestBus × Nat}
    (inside : site ∈ places earlier buses) : earlier.count site.1 ≤ site.2 := by
  induction buses generalizing earlier with
  | nil => cases inside
  | cons bus buses ih =>
    rcases List.mem_cons.1 inside with rfl | later
    · exact le_rfl
    · exact (List.count_le_count_cons ..).trans (ih later)

theorem places_apart (earlier buses : List GuestBus) :
    (places earlier buses).Pairwise fun first second => first.1 = second.1 → first.2 ≠ second.2 := by
  induction buses generalizing earlier with
  | nil => exact .nil
  | cons bus buses ih =>
    refine List.pairwise_cons.2 ⟨fun site later same => ?_, ih (bus :: earlier)⟩
    have more := count_le_of_places later
    rw [← same, List.count_cons_self] at more
    exact Nat.ne_of_lt more

inductive Addressed (busIndex : Bool) (nodes : List VectorAttribute) :
    Palloc → List VectorAttribute → List VectorAttribute → Palloc → Prop where
  | nil {palloc : Palloc} : Addressed busIndex nodes palloc [] [] palloc
  | cons {palloc next last : Palloc} {device placed : VectorAttribute}
      {devs out : List VectorAttribute}
      (given : setPciAddress device palloc busIndex nodes = (placed, next, true))
      (rest : Addressed busIndex nodes next devs out last) :
      Addressed busIndex nodes palloc (device :: devs) (placed :: out) last

section

variable {busIndex : Bool} {nodes : List VectorAttribute} {devs out : List VectorAttribute}
  {palloc last : Palloc}

theorem Addressed.append {middle : Palloc} {others otherOut : List VectorAttribute}
    (first : Addressed busIndex nodes palloc devs out middle)
    (second : Addressed busIndex nodes middle others otherOut last) :
    Addressed busIndex nodes palloc (devs ++ others) (out ++ otherOut) last := by
  induction first with
  | nil => exact second
  | cons given _ ih => exact .cons given (ih second)

theorem Addressed.sits (addressed : Addressed busIndex nodes palloc devs out last)
    {earlier : List GuestBus} (filled : Filled (totalNodes nodes) palloc earlier) :
    List.Forall₂ (Sits (totalNodes nodes))
      (places earlier (devs.filterMap (guestBus busIndex nodes))) (out.filter hasId) := by
  induction addressed generalizing earlier with
  | nil => exact .nil
  | @cons palloc next last device placed devs out given rest ih =>
    cases isBus : guestBus busIndex nodes device with
    | none =>
      obtain ⟨noId, rfl⟩ := setPciAddress_none isBus given
      rw [List.filterMap_cons_none isBus, List.filter_cons_of_neg (by simp [noId])]
      exact ih filled
    | some bus =>
      obtain ⟨named, sits, filledAfter⟩ := setPciAddress_some filled isBus given
      rw [List.filterMap_cons_some isBus, List.filter_cons_of_pos named]
      exact .cons sits (ih filledAfter)

theorem filled_nil (total : Nat) : Filled total ∅ [] := by
  intro bus idx _ _
  rfl

end

theorem forall_of_forall₂ {α β : Type} {related : α → β → Prop} {left : α → Prop} {right : β → Prop}
    {xs : List α} {ys : List β} (all : List.Forall₂ related xs ys)
    (same : ∀ x ∈ xs, ∀ y, related x y → (right y ↔ left x)) : (∀ y ∈ ys, right y) ↔ ∀ x ∈ xs, left x := by
  induction all with
  | nil => simp
  | @cons x y xs ys isRelated _ ih =>
    rw [List.forall_mem_cons, List.forall_mem_cons, same x (by simp) y isRelated,
      ih fun x later => same x (List.mem_cons_of_mem _ later)]

theorem pairwise_differ_iff {total : Nat} {sites : List (GuestBus × Nat)} {out : List VectorAttribute}
    (sits : List.Forall₂ (Sits total) sites out)
    (apart : sites.Pairwise fun first second => first.1 = second.1 → first.2 ≠ second.2) :
    out.Pairwise AddressesDiffer ↔ sites.Pairwise fun first second => GuestBus.meets first second = false := by
  induction sits with
  | nil => exact iff_of_true .nil .nil
  | @cons site device sites out isSite rest ih =>
    obtain ⟨headApart, tailApart⟩ := List.pairwise_cons.1 apart
    have headDiffers : (∀ next ∈ out, AddressesDiffer device next) ↔
        ∀ other ∈ sites, GuestBus.meets site other = false :=
      forall_of_forall₂ rest fun other later next isOther => (isSite.differ_iff isOther).trans
        (meets_eq_false_iff isSite.inside isOther.inside fun _ => headApart other later).symm
    rw [List.pairwise_cons, List.pairwise_cons, ih tailApart, headDiffers]

/-- The devices of one loop of `add`, as `pci_attribute` leaves them -/
def granted (sr : PciCapacity) (mode : Bool) : PciDevices → List VectorAttribute → List VectorAttribute × PciDevices
  | devices, [] => ([], devices)
  | devices, device :: devs =>
    match firstSuitable mode devices device with
    | none => ([], devices)
    | some found =>
      let (devs, last) := granted sr mode (devices.insert found.1 (found.2.marked sr)) devs
      (pciAttribute device (found.2.marked sr) true sr.vgpuProfile :: devs, last)

def ofMode (mode : Bool) (devs : List (Bool × VectorAttribute)) : List VectorAttribute :=
  (devs.filter fun request => request.1 = mode).map Prod.snd

/-- Those of both loops, in the order in which they are given addresses -/
def grants (devices : PciDevices) (sr : PciCapacity) : List VectorAttribute :=
  let (first, devices) := granted sr true devices (ofMode true (flagged sr.pci))
  first ++ (granted sr false devices (ofMode false (flagged sr.pci))).1

theorem ofMode_cons (mode isAddress : Bool) (device : VectorAttribute) (devs : List (Bool × VectorAttribute)) :
    ofMode mode ((isAddress, device) :: devs) =
      if isAddress = mode then device :: ofMode mode devs else ofMode mode devs := by
  by_cases same : isAddress = mode <;> simp [ofMode, same]

theorem takeDevice_placed {sr : PciCapacity} {state after : PciState} {key : String} {pci : PCIDevice}
    {placed : VectorAttribute} (given : takeDevice state key pci device sr = (after, placed, .added)) :
    after.devices = state.devices.insert key (pci.marked sr) ∧
      setPciAddress (pciAttribute device (pci.marked sr) true sr.vgpuProfile) state.palloc sr.isQ35
        sr.nodes = (placed, after.palloc, true) := by
  refine ⟨(takeDevice_added given).1, ?_⟩
  simp only [takeDevice] at given
  split at given
  · rename_i isPlaced
    cases given
    exact isPlaced
  · cases given

theorem addLoop_addressed {sr : PciCapacity} {mode : Bool} {state : PciState}
    {devs : List (Bool × VectorAttribute)} (added : (addLoop sr mode state devs).2.2 = .added) :
    Addressed sr.isQ35 sr.nodes state.palloc (granted sr mode state.devices (ofMode mode devs)).1
        (ofMode mode (addLoop sr mode state devs).2.1) (addLoop sr mode state devs).1.palloc ∧
      (addLoop sr mode state devs).1.devices = (granted sr mode state.devices (ofMode mode devs)).2 ∧
      ofMode (!mode) (addLoop sr mode state devs).2.1 = ofMode (!mode) devs := by
  induction devs generalizing state with
  | nil => exact ⟨.nil, rfl, rfl⟩
  | cons request devs ih =>
    obtain ⟨isAddress, device⟩ := request
    by_cases same : isAddress = mode
    · subst same
      cases isChoice : firstSuitable isAddress state.devices device with
      | none =>
        rw [addLoop_cons_none isChoice] at added
        cases added
      | some found =>
        rw [addLoop_cons_some isChoice] at added ⊢
        rcases isTaken : takeDevice state found.1 found.2 device sr with ⟨next, placed, outcome⟩
        rw [isTaken] at added
        cases outcome with
        | added =>
          obtain ⟨isNext, isPlaced⟩ := takeDevice_placed isTaken
          obtain ⟨addressed, isLast, others⟩ := ih added
          simp only [ofMode_cons, if_true, granted, isChoice, ← isNext]
          refine ⟨.cons isPlaced addressed, isLast, ?_⟩
          simpa using others
        | noDevice | noAddress => cases added
    · rw [addLoop_cons_skip same] at added ⊢
      obtain ⟨addressed, isLast, others⟩ := ih added
      simp only [ofMode_cons, if_neg same, if_pos (Bool.eq_not_of_ne same), others]
      exact ⟨addressed, isLast, trivial⟩

theorem ofMode_perm (devs : List (Bool × VectorAttribute)) :
    (ofMode true devs ++ ofMode false devs).Perm (devs.map Prod.snd) := by
  have split := (List.filter_append_perm (fun request => request.1) devs).map Prod.snd
  rw [List.map_append] at split
  simpa [ofMode] using split

theorem add_addressed {devices : PciDevices} {sr : PciCapacity} (added : (add devices sr).2.2 = .added) :
    ∃ out last, Addressed sr.isQ35 sr.nodes ∅ (grants devices sr) out last ∧ out.Perm (add devices sr).2.1 := by
  have first := @addLoop_addressed sr true ⟨devices, ∅⟩ (flagged sr.pci)
  rw [add, show sr.pci.map (fun device => (byAddress device, device)) = flagged sr.pci from rfl] at *
  rcases ran : addLoop sr true ⟨devices, ∅⟩ (flagged sr.pci) with ⟨state, middle, outcome⟩
  rw [ran] at added first
  cases outcome with
  | noDevice | noAddress => cases added
  | added =>
    obtain ⟨addresses, isState, names⟩ := first rfl
    obtain ⟨nameAddresses, -, kept⟩ := @addLoop_addressed sr false state middle added
    simp only [Bool.not_true, Bool.not_false] at isState names kept
    rw [isState, names] at nameAddresses
    refine ⟨ofMode true middle ++ ofMode false (addLoop sr false state middle).2.1,
      (addLoop sr false state middle).1.palloc, addresses.append nameAddresses, ?_⟩
    rw [← kept]
    exact ofMode_perm _

/-- All the devices that have an address -/
def AllApart (devs : List VectorAttribute) : Prop := (devs.filter hasId).Pairwise AddressesDiffer

instance (devs : List VectorAttribute) : Decidable (AllApart devs) :=
  inferInstanceAs (Decidable (List.Pairwise _ _))

/-- The addresses are different exactly when no two of the places meet. -/
theorem guest_addresses_apart_iff (devices : PciDevices) (sr : PciCapacity) (added : (add devices sr).2.2 = .added) :
    AllApart (add devices sr).2.1 ↔ (places [] ((grants devices sr).filterMap (guestBus sr.isQ35 sr.nodes))).Pairwise
        fun first second => GuestBus.meets first second = false := by
  obtain ⟨out, last, addressed, perm⟩ := add_addressed added
  rw [AllApart, ← (perm.filter hasId).pairwise_iff fun {_ _} differ => differ.symm]
  exact pairwise_differ_iff (addressed.sits (filled_nil _)) (places_apart _ _)

def nodeCards (node : String) : PciDevices :=
  init [attributes [("ADDRESS", "0000:01:00:0"), ("SHORT_ADDRESS", "01:00.0"), ("CLASS", "0200"),
      ("NUMA_NODE", node)],
    attributes [("ADDRESS", "0000:02:00:0"), ("SHORT_ADDRESS", "02:00.0"), ("CLASS", "0200"), ("NUMA_NODE", "0")]]

def bothCards : PciCapacity :=
  { requesting [
      attributes [("PCI_ID", "0"), ("SHORT_ADDRESS", "01:00.0"), ("VM_BUS", "0x01")],
      attributes [("PCI_ID", "1"), ("SHORT_ADDRESS", "02:00.0"), ("VM_BUS", "0x01"), ("ROOT", "dedicated")]] with
    nodes := [attributes [("TOTAL_CPUS", "4"), ("MEMORY", "1024")]] }

theorem guest_addresses_apart_second_node : AllApart (add (nodeCards "1") bothCards).2.1 := by
  have added : (add (nodeCards "1") bothCards).2.2 = .added := by decide +kernel
  exact (guest_addresses_apart_iff (nodeCards "1") bothCards added).mpr (by decide +kernel)

/-- A device of the ninth node and the first dedicated one have the address `a1:00.0`. -/
theorem guest_addresses_ninth_node : ¬ ∀ (devices : PciDevices) (sr : PciCapacity), (add devices sr).2.2 = .added →
      AllApart (add devices sr).2.1 := by
  intro claim
  have apart := claim (nodeCards "8") bothCards (by decide +kernel)
  have meet : ¬ AllApart (add (nodeCards "8") bothCards).2.1 := by decide +kernel
  exact meet apart

end OpenNebula.Host
