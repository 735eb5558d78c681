import Mathlib.Data.String.Basic
import OpenNebula.Host.HostSharePCI

namespace OpenNebula.Host

open Common
open Library

/-! # `test` and `add` of PCI devices

Both walk the table in the order of the addresses and take the first device that
suits a request.  `test` keeps the short addresses that it gave away, `add` marks
the devices.  A device that `test` may still give away is free for `add`, so `add`
finds one for every request by name; a request by address is tested against the
table alone.
-/

theorem find_inOrder {devices : PciDevices} {suits : (Σ _ : String, PCIDevice) → Bool}
    {found : Σ _ : String, PCIDevice} (isFound : devices.inOrder.find? suits = some found) :
    devices.lookup found.1 = some found.2 ∧ suits found = true ∧
      ∀ key pci, devices.lookup key = some pci → suits ⟨key, pci⟩ = true → found.1 ≤ key := by
  obtain ⟨suitable, front, back, isSplit, before⟩ := List.find?_eq_some_iff_append.1 isFound
  have sorted := List.pairwise_insertionSort
    (fun left right : (Σ _ : String, PCIDevice) => left.1 ≤ right.1) devices.entries
  rw [show devices.entries.insertionSort _ = front ++ found :: back from isSplit] at sorted
  have members (row : Σ _ : String, PCIDevice) :
      row ∈ front ++ found :: back ↔ row ∈ devices.entries := by
    rw [← isSplit]
    exact List.mem_insertionSort _
  refine ⟨Map.mem_entries_iff.1 ((members found).1 (by simp)), suitable, fun key pci stored isSuited => ?_⟩
  rcases List.mem_append.1 ((members _).2 (Map.mem_entries_iff.2 stored)) with inside | inside
  · have rejected := before _ inside
    rw [isSuited] at rejected
    cases rejected
  · rcases List.mem_cons.1 inside with same | later
    · rw [← same]
    · exact (List.pairwise_cons.1 (List.pairwise_append.1 sorted).2.1).1 _ later

theorem find_inOrder_isSome {devices : PciDevices} {suits : (Σ _ : String, PCIDevice) → Bool}
    {key : String} {pci : PCIDevice} (stored : devices.lookup key = some pci)
    (isSuited : suits ⟨key, pci⟩ = true) : ∃ found, devices.inOrder.find? suits = some found := by
  cases isFound : devices.inOrder.find? suits with
  | some found => exact ⟨found, rfl⟩
  | none =>
    have inside : (⟨key, pci⟩ : Σ _ : String, PCIDevice) ∈ devices.inOrder :=
      (List.mem_insertionSort _).2 (Map.mem_entries_iff.2 stored)
    exact absurd isSuited (List.find?_eq_none.1 isFound _ inside)

section

variable (device : VectorAttribute)

theorem pciAttribute_address (pci : PCIDevice) (setPrev : Bool) (vprofile : String) :
    (pciAttribute device pci setPrev vprofile).vectorValue "ADDRESS" = pci.attrs.vectorValue "ADDRESS" := by
  have copied (device : VectorAttribute) : (copiedAttributes.foldl
      (fun device name => device.replace name (pci.attrs.vectorValue name)) device).vectorValue
        "ADDRESS" = pci.attrs.vectorValue "ADDRESS" := by
    simp [copiedAttributes]
  have kept (device : VectorAttribute) : (checkedAttributes.foldl (fun device name =>
        if pci.attrs.vectorValue name ≠ "" then device.replace name (pci.attrs.vectorValue name)
        else device) device).vectorValue "ADDRESS" = device.vectorValue "ADDRESS" := by
    simp only [checkedAttributes, List.foldl]
    split <;> split <;> split <;> simp
  have profile (device : VectorAttribute) (applies : Prop) [Decidable applies] :
      (if applies then device.replace "PROFILE" vprofile else device).vectorValue "ADDRESS" =
        device.vectorValue "ADDRESS" := by
    split <;> simp
  rw [pciAttribute, profile, kept, copied]

theorem numaAddress_address (palloc : Palloc) (numaNode : Int) (total : Nat) :
    (numaAddress device palloc numaNode total).1.vectorValue "ADDRESS" = device.vectorValue "ADDRESS" := by
  simp only [numaAddress]
  split
  · rfl
  · split <;> simp

theorem flatAddress_address (busIndex : Bool) (slot : Nat) :
    (flatAddress device busIndex slot).1.vectorValue "ADDRESS" = device.vectorValue "ADDRESS" := by
  simp only [flatAddress]
  split
  · simp
  · simp

theorem setPciAddress_address (palloc : Palloc) (busIndex : Bool)
    (nodes : List VectorAttribute) : (setPciAddress device palloc busIndex nodes).1.vectorValue "ADDRESS" =
      device.vectorValue "ADDRESS" := by
  simp only [setPciAddress]
  split
  · rfl
  · split
    · exact numaAddress_address ..
    · exact flatAddress_address ..

end

/-- The device once it belongs to the virtual machine. -/
def PCIDevice.marked (sr : PciCapacity) (pci : PCIDevice) : PCIDevice :=
  { pci with vmid := (sr.vmid.val : Int), attrs := pci.attrs.replace "VMID" (toString sr.vmid.val) }

structure Marked (base : PciDevices) (sr : PciCapacity) (taken : List String)
    (devices : PciDevices) : Prop where
  rows : ∀ key, devices.lookup key =
    if key ∈ taken then (base.lookup key).map (PCIDevice.marked sr) else base.lookup key
  free : ∀ key ∈ taken, ∃ pci, base.lookup key = some pci ∧ pci.vmid = -1
  nodup : taken.Nodup

/-- The device that a request gets: a free one that suits it, and for a request by
address the first one with that address. -/
structure Chosen (base : PciDevices) (mode : Bool) (device : VectorAttribute) (key : String)
    (pci : PCIDevice) : Prop where
  stored : base.lookup key = some pci
  free : pci.vmid = -1
  suits : if mode then pci.shortAddress = device.vectorValue "SHORT_ADDRESS"
    else namesDevice device = true ∧ matchesName device pci = true
  first : mode = true → ∀ other otherPci, base.lookup other = some otherPci →
    otherPci.shortAddress = device.vectorValue "SHORT_ADDRESS" → key ≤ other

variable {base : PciDevices} {sr : PciCapacity} {taken : List String} {state : PciState}
  {mode : Bool} {device : VectorAttribute}

theorem marked_vmid (sr : PciCapacity) (pci : PCIDevice) : (pci.marked sr).vmid ≠ -1 := by
  simp only [PCIDevice.marked]
  omega

theorem marked_shortAddress (sr : PciCapacity) (pci : PCIDevice) :
    (pci.marked sr).shortAddress = pci.shortAddress := by
  simp [PCIDevice.marked, PCIDevice.shortAddress]

section

variable (marked : Marked base sr taken state.devices)
include marked

theorem Marked.unmarked {key : String}
    {pci : PCIDevice} (stored : state.devices.lookup key = some pci) (free : pci.vmid = -1) :
    key ∉ taken ∧ base.lookup key = some pci := by
  rw [marked.rows] at stored
  split at stored
  · obtain ⟨before, -, rfl⟩ := Option.map_eq_some_iff.1 stored
    exact absurd free (marked_vmid sr before)
  · rename_i absent
    exact ⟨absent, stored⟩

theorem Marked.shortAddress {key : String}
    {pci : PCIDevice} (stored : base.lookup key = some pci) :
    ∃ now, state.devices.lookup key = some now ∧ now.shortAddress = pci.shortAddress := by
  rw [marked.rows, stored]
  split
  · exact ⟨_, rfl, marked_shortAddress sr pci⟩
  · exact ⟨_, rfl, rfl⟩

theorem Marked.take {key : String} {pci : PCIDevice}
    (stored : state.devices.lookup key = some pci) (free : pci.vmid = -1) :
    Marked base sr (key :: taken) (state.devices.insert key (pci.marked sr)) := by
  obtain ⟨absent, inBase⟩ := marked.unmarked stored free
  refine ⟨fun other => ?_, fun other isTaken => ?_, List.nodup_cons.2 ⟨absent, marked.nodup⟩⟩
  · rw [Map.lookup_insert_eq, marked.rows]
    by_cases same : other = key
    · subst same
      simp [inBase]
    · simp [same]
  · rcases List.mem_cons.1 isTaken with rfl | earlier
    · exact ⟨pci, inBase, free⟩
    · exact marked.free other earlier

end

def firstSuitable (mode : Bool) (devices : PciDevices) (device : VectorAttribute) :
    Option (Σ _ : String, PCIDevice) :=
  if mode then
    (devices.inOrder.find? fun pci =>
      pci.2.shortAddress = device.vectorValue "SHORT_ADDRESS").filter fun pci => pci.2.vmid = -1
  else if namesDevice device = false then none
  else devices.inOrder.find? fun pci => matchesName device pci.2 && pci.2.vmid = -1

theorem serve_eq (mode : Bool) (state : PciState) (device : VectorAttribute) (sr : PciCapacity) :
    (if mode then addByAddr state device sr else addByName state device sr) =
      match firstSuitable mode state.devices device with
      | none => (state, device, .noDevice)
      | some found => takeDevice state found.1 found.2 device sr := by
  cases mode with
  | true =>
    simp only [if_true, addByAddr, firstSuitable]
    split
    · rename_i absent
      rw [absent]
      rfl
    · rename_i key pci found
      rw [found]
      by_cases free : pci.vmid = -1 <;> simp [free, Option.filter]
  | false =>
    simp only [Bool.false_eq_true, if_false, addByName, firstSuitable]
    split
    · rfl
    · split <;> rename_i found <;> simp only [found]

theorem Marked.chosen (marked : Marked base sr taken state.devices) {found : Σ _ : String, PCIDevice}
    (isChoice : firstSuitable mode state.devices device = some found) :
    Chosen base mode device found.1 found.2 ∧ state.devices.lookup found.1 = some found.2 := by
  cases mode with
  | true =>
    simp only [firstSuitable, if_true, Option.filter_eq_some_iff, decide_eq_true_eq] at isChoice
    obtain ⟨isFound, isFree⟩ := isChoice
    obtain ⟨stored, suits, smallest⟩ := find_inOrder isFound
    rw [decide_eq_true_eq] at suits
    refine ⟨⟨(marked.unmarked stored isFree).2, isFree, by rw [if_pos rfl]; exact suits,
      fun _ other otherPci isOther sameShort => ?_⟩, stored⟩
    obtain ⟨now, isNow, short⟩ := marked.shortAddress isOther
    exact smallest other now isNow (decide_eq_true (short.trans sameShort))
  | false =>
    simp only [firstSuitable, Bool.false_eq_true, if_false] at isChoice
    split at isChoice
    · contradiction
    · rename_i named
      obtain ⟨stored, suits, -⟩ := find_inOrder isChoice
      rw [Bool.and_eq_true] at suits
      have isFree : found.2.vmid = -1 := of_decide_eq_true suits.2
      exact ⟨⟨(marked.unmarked stored isFree).2, isFree,
        ⟨by simpa using named, suits.1⟩, fun isAddress => (by cases isAddress)⟩, stored⟩

theorem takeDevice_added {key : String} {pci : PCIDevice} {after : PciState} {written : VectorAttribute}
    (served : takeDevice state key pci device sr = (after, written, .added)) :
    after.devices = state.devices.insert key (pci.marked sr) ∧
      written.vectorValue "ADDRESS" = pci.attrs.vectorValue "ADDRESS" := by
  have address := setPciAddress_address (pciAttribute device (pci.marked sr) true sr.vgpuProfile)
    state.palloc sr.isQ35 sr.nodes
  rw [pciAttribute_address] at address
  simp only [takeDevice] at served
  split at served
  · rename_i placed isPlaced
    obtain ⟨rfl, isWritten⟩ := Prod.mk.inj served
    obtain ⟨rfl, -⟩ := Prod.mk.inj isWritten
    refine ⟨rfl, ?_⟩
    rw [PCIDevice.marked] at address
    rw [isPlaced] at address
    simpa using address
  · cases served

theorem takeDevice_found {key : String} {pci : PCIDevice} {after : PciState}
    {written : VectorAttribute} {outcome : AddOutcome}
    (served : takeDevice state key pci device sr = (after, written, outcome)) : outcome ≠ .noDevice := by
  simp only [takeDevice] at served
  split at served <;> cases served <;> exact fun same => by cases same

/-- A loop of `add` that found a device for each of its requests: the devices by
their keys, and the requests as they are written. -/
inductive Placed (base : PciDevices) (mode : Bool) :
    List (Bool × VectorAttribute) → List (Bool × VectorAttribute) → List String → Prop where
  | nil : Placed base mode [] [] []
  | skip {device : VectorAttribute} {devs written : List (Bool × VectorAttribute)}
      {keys : List String} (rest : Placed base mode devs written keys) :
      Placed base mode ((!mode, device) :: devs) ((!mode, device) :: written) keys
  | take {device request : VectorAttribute} {devs written : List (Bool × VectorAttribute)}
      {keys : List String} {key : String} {pci : PCIDevice} (chosen : Chosen base mode device key pci)
      (address : request.vectorValue "ADDRESS" = pci.attrs.vectorValue "ADDRESS")
      (rest : Placed base mode devs written keys) :
      Placed base mode ((mode, device) :: devs) ((mode, request) :: written) (key :: keys)

theorem addLoop_cons_skip {isAddress : Bool} {devs : List (Bool × VectorAttribute)} (other : isAddress ≠ mode) :
    addLoop sr mode state ((isAddress, device) :: devs) =
      ((addLoop sr mode state devs).1, (isAddress, device) :: (addLoop sr mode state devs).2.1,
        (addLoop sr mode state devs).2.2) := by
  rw [addLoop, if_neg other]

theorem addLoop_cons_none {devs : List (Bool × VectorAttribute)}
    (isChoice : firstSuitable mode state.devices device = none) :
    addLoop sr mode state ((mode, device) :: devs) = (state, (mode, device) :: devs, .noDevice) := by
  rw [addLoop, if_pos rfl, serve_eq, isChoice]

theorem addLoop_cons_some {devs : List (Bool × VectorAttribute)} {found : Σ _ : String, PCIDevice}
    (isChoice : firstSuitable mode state.devices device = some found) :
    addLoop sr mode state ((mode, device) :: devs) = match takeDevice state found.1 found.2 device sr with
      | (state, device, .added) =>
        ((addLoop sr mode state devs).1, (mode, device) :: (addLoop sr mode state devs).2.1,
          (addLoop sr mode state devs).2.2)
      | (state, device, failure) => (state, (mode, device) :: devs, failure) := by
  rcases isTaken : takeDevice state found.1 found.2 device sr with ⟨after, request, outcome⟩
  cases outcome <;> simp [addLoop, serve_eq, isChoice, isTaken]

/-- Without a failure every request of the loop has a device, and the devices are
different ones. -/
theorem addLoop_placed {devs : List (Bool × VectorAttribute)}
    (marked : Marked base sr taken state.devices) {after : PciState} {written : List (Bool × VectorAttribute)}
    (ran : addLoop sr mode state devs = (after, written, .added)) :
    ∃ keys, Placed base mode devs written keys ∧ Marked base sr (keys.reverse ++ taken) after.devices := by
  induction devs generalizing state taken after written with
  | nil =>
    cases ran
    exact ⟨[], .nil, marked⟩
  | cons request devs ih =>
    obtain ⟨isAddress, device⟩ := request
    by_cases same : isAddress = mode
    · subst same
      cases isChoice : firstSuitable isAddress state.devices device with
      | none =>
        rw [addLoop_cons_none isChoice] at ran
        cases ran
      | some found =>
        rw [addLoop_cons_some isChoice] at ran
        obtain ⟨chosen, stored⟩ := marked.chosen isChoice
        split at ran
        · rename_i next request served
          obtain ⟨isNext, address⟩ := takeDevice_added served
          have marked := marked.take stored chosen.free
          rw [← isNext] at marked
          cases rest : addLoop sr isAddress next devs with
          | mk last tail =>
            obtain ⟨tail, outcome⟩ := tail
            rw [rest] at ran
            obtain ⟨rfl, isWritten⟩ := Prod.mk.inj ran
            obtain ⟨rfl, rfl⟩ := Prod.mk.inj isWritten
            obtain ⟨keys, placed, markedAfter⟩ := ih marked rest
            refine ⟨found.1 :: keys, .take chosen address placed, ?_⟩
            rw [List.reverse_cons, List.append_assoc]
            exact markedAfter
        · rename_i next request failure notAdded served
          obtain ⟨-, isWritten⟩ := Prod.mk.inj ran
          obtain ⟨-, rfl⟩ := Prod.mk.inj isWritten
          exact absurd rfl notAdded
    · rw [addLoop_cons_skip same] at ran
      obtain ⟨isAfter, isWritten⟩ := Prod.mk.inj ran
      obtain ⟨rfl, isOutcome⟩ := Prod.mk.inj isWritten
      have rest : addLoop sr mode state devs = (after, (addLoop sr mode state devs).2.1, .added) := by
        rw [← isAfter, ← isOutcome]
      obtain ⟨keys, placed, markedAfter⟩ := ih marked rest
      obtain rfl : isAddress = !mode := Bool.eq_not_of_ne same
      exact ⟨keys, .skip placed, markedAfter⟩

/-- The requests, each with the way it selects its device. -/
def flagged (devs : List VectorAttribute) : List (Bool × VectorAttribute) :=
  devs.map fun device => (byAddress device, device)

def requested (devs : List VectorAttribute) : List String :=
  (devs.filter byAddress).map fun device => device.vectorValue "SHORT_ADDRESS"

/-- A device that `add` has marked is one that `test` gave away. -/
def Covered (base : PciDevices) (taken : List String) (assigned : Finset String) : Prop :=
  ∀ key ∈ taken, ∀ pci, base.lookup key = some pci → pci.shortAddress ∈ assigned

theorem testByAddr_found {short : String} (tested : testByAddr base short = true) :
    ∃ key pci, base.lookup key = some pci ∧ pci.vmid = -1 ∧ pci.shortAddress = short ∧
      ∀ other otherPci, base.lookup other = some otherPci → otherPci.shortAddress = short → key ≤ other := by
  rw [testByAddr] at tested
  split at tested
  · contradiction
  · rename_i found isFound
    obtain ⟨stored, suits, smallest⟩ := find_inOrder isFound
    exact ⟨found.1, found.2, stored, of_decide_eq_true tested, of_decide_eq_true suits,
      fun other otherPci isOther sameShort =>
        smallest other otherPci isOther (decide_eq_true sameShort)⟩

theorem Marked.byAddr (marked : Marked base sr taken state.devices) {assigned : Finset String}
    (covered : Covered base taken assigned) (tested : testByAddr base (device.vectorValue "SHORT_ADDRESS") = true)
    (fresh : device.vectorValue "SHORT_ADDRESS" ∉ assigned) :
    ∃ found, firstSuitable true state.devices device = some found := by
  obtain ⟨key, pci, stored, free, short, smallest⟩ := testByAddr_found tested
  have unmarked : key ∉ taken := fun isTaken => fresh (short ▸ covered key isTaken pci stored)
  have isStored : state.devices.lookup key = some pci := by
    rw [marked.rows, if_neg unmarked]
    exact stored
  obtain ⟨found, isFound⟩ := @find_inOrder_isSome _
    (fun pci => decide (pci.2.shortAddress = device.vectorValue "SHORT_ADDRESS")) _ _ isStored
    (decide_eq_true short)
  obtain ⟨foundStored, foundSuits, foundFirst⟩ := find_inOrder isFound
  have atMost : found.1 ≤ key := foundFirst key pci isStored (decide_eq_true short)
  have atLeast : key ≤ found.1 := by
    rw [marked.rows] at foundStored
    have suits : found.2.shortAddress = device.vectorValue "SHORT_ADDRESS" := of_decide_eq_true foundSuits
    split at foundStored
    · obtain ⟨before, isBefore, isMarked⟩ := Option.map_eq_some_iff.1 foundStored
      rw [← isMarked, marked_shortAddress] at suits
      exact smallest found.1 before isBefore suits
    · exact smallest found.1 found.2 foundStored suits
  have same : found.1 = key := le_antisymm atMost atLeast
  rw [same, isStored] at foundStored
  refine ⟨found, ?_⟩
  simp only [firstSuitable, if_true, Option.filter_eq_some_iff, decide_eq_true_eq]
  exact ⟨isFound, Option.some.inj foundStored ▸ free⟩

theorem addLoop_addresses {devs : List VectorAttribute} {assigned after : Finset String}
    (marked : Marked base sr taken state.devices) (covered : Covered base taken assigned)
    (tested : testAddresses base devs assigned = some after) (nodup : (requested devs).Nodup)
    (fresh : ∀ short ∈ requested devs, short ∉ assigned) : (addLoop sr true state (flagged devs)).2.2 ≠ .noDevice ∧
      ((addLoop sr true state (flagged devs)).2.2 = .added → ∃ takenAfter,
        Marked base sr takenAfter (addLoop sr true state (flagged devs)).1.devices ∧
          Covered base takenAfter after) := by
  induction devs generalizing state taken assigned with
  | nil =>
    cases tested
    exact ⟨fun same => (by cases same), fun _ => ⟨taken, marked, covered⟩⟩
  | cons device devs ih =>
    rw [testAddresses] at tested
    by_cases isAddress : byAddress device = true
    · rw [if_pos isAddress] at tested
      split at tested
      · rename_i isTested
        have isRequested : requested (device :: devs) =
            device.vectorValue "SHORT_ADDRESS" :: requested devs := by
          simp [requested, isAddress]
        rw [isRequested] at nodup fresh
        obtain ⟨notAgain, nodup⟩ := List.nodup_cons.1 nodup
        obtain ⟨found, isChoice⟩ := marked.byAddr covered isTested (fresh _ (List.mem_cons_self ..))
        obtain ⟨chosen, stored⟩ := marked.chosen isChoice
        have isFlagged : flagged (device :: devs) = (true, device) :: flagged devs := by
          simp [flagged, isAddress]
        rw [isFlagged, addLoop_cons_some isChoice]
        split
        · rename_i next request served
          obtain ⟨isNext, -⟩ := takeDevice_added served
          have markedNext := marked.take stored chosen.free
          rw [← isNext] at markedNext
          refine ih markedNext (fun key isTaken pci isStored => ?_) tested nodup
            (fun short isShort isAssigned => ?_)
          · rcases List.mem_cons.1 isTaken with rfl | earlier
            · rw [chosen.stored] at isStored
              rw [← Option.some.inj isStored, show found.2.shortAddress = _ from chosen.suits]
              exact Finset.mem_insert_self _ _
            · exact Finset.mem_insert_of_mem (covered key earlier pci isStored)
          · rcases Finset.mem_insert.1 isAssigned with rfl | earlier
            · exact notAgain isShort
            · exact fresh short (List.mem_cons_of_mem _ isShort) earlier
        · rename_i next request failure notAdded served
          exact ⟨takeDevice_found served, fun isAdded => absurd isAdded notAdded⟩
      · contradiction
    · rw [if_neg isAddress] at tested
      rw [Bool.not_eq_true] at isAddress
      have isRequested : requested (device :: devs) = requested devs := by
        simp [requested, isAddress]
      have isFlagged : flagged (device :: devs) = (false, device) :: flagged devs := by
        simp [flagged, isAddress]
      rw [isRequested] at nodup fresh
      rw [isFlagged, addLoop_cons_skip (by decide)]
      exact ih marked covered tested nodup fresh

def testFlagged (devices : PciDevices) : List (Bool × VectorAttribute) → Finset String → Bool
  | [], _ => true
  | (true, _) :: devs, assigned => testFlagged devices devs assigned
  | (false, device) :: devs, assigned =>
    match testByName devices device assigned with
    | none => false
    | some assigned => testFlagged devices devs assigned

theorem testNames_flagged (devices : PciDevices) (devs : List VectorAttribute) (assigned : Finset String) :
    testNames devices devs assigned = testFlagged devices (flagged devs) assigned := by
  induction devs generalizing assigned with
  | nil => rfl
  | cons device devs ih =>
    rw [testNames]
    cases isAddress : byAddress device with
    | true =>
      rw [show flagged (device :: devs) = (true, device) :: flagged devs by
        simp [flagged, isAddress]]
      exact ih assigned
    | false =>
      rw [show flagged (device :: devs) = (false, device) :: flagged devs by
        simp [flagged, isAddress]]
      rw [if_neg (by decide), testFlagged]
      cases testByName devices device assigned with
      | none => rfl
      | some assigned => exact ih assigned

theorem Placed.testFlagged {devs written : List (Bool × VectorAttribute)} {keys : List String}
    (placed : Placed base true devs written keys) (assigned : Finset String) :
    OpenNebula.Host.testFlagged base written assigned = OpenNebula.Host.testFlagged base devs assigned := by
  induction placed generalizing assigned with
  | nil => rfl
  | skip rest ih =>
    simp only [Bool.not_true, OpenNebula.Host.testFlagged, ih]
  | take chosen address rest ih => exact ih assigned

theorem addLoop_names {devs : List (Bool × VectorAttribute)} {assigned : Finset String}
    (marked : Marked base sr taken state.devices) (left : ∀ key pci, base.lookup key = some pci → pci.vmid = -1 →
      pci.shortAddress ∉ assigned → key ∉ taken) (tested : testFlagged base devs assigned = true) :
    (addLoop sr false state devs).2.2 ≠ .noDevice := by
  induction devs generalizing state taken assigned with
  | nil => exact fun same => by cases same
  | cons request devs ih =>
    obtain ⟨isAddress, device⟩ := request
    cases isAddress with
    | true =>
      rw [addLoop_cons_skip (by decide)]
      exact ih marked left tested
    | false =>
      simp only [testFlagged, testByName] at tested
      by_cases named : namesDevice device = false
      · simp [named] at tested
      rw [if_neg named] at tested
      cases isTest : base.inOrder.find? fun pci => matchesName device pci.2 &&
          pci.2.vmid = -1 && pci.2.shortAddress ∉ assigned with
      | none =>
        simp only [isTest] at tested
        cases tested
      | some offered =>
        simp only [isTest] at tested
        obtain ⟨stored, suits, smallest⟩ := find_inOrder isTest
        simp only [Bool.and_eq_true, decide_eq_true_eq] at suits smallest
        obtain ⟨⟨isMatch, free⟩, unassigned⟩ := suits
        have inState : state.devices.lookup offered.1 = some offered.2 := by
          rw [marked.rows, if_neg (left offered.1 offered.2 stored free unassigned)]
          exact stored
        obtain ⟨found, isFound⟩ := @find_inOrder_isSome _
          (fun pci => matchesName device pci.2 && pci.2.vmid = -1) _ _ inState
          (by simp [isMatch, free])
        have isChoice : firstSuitable false state.devices device = some found := by
          simp only [firstSuitable, Bool.false_eq_true, if_false, if_neg named]
          exact isFound
        obtain ⟨chosen, foundStored⟩ := marked.chosen isChoice
        obtain ⟨-, -, foundFirst⟩ := find_inOrder isFound
        rw [addLoop_cons_some isChoice]
        split
        · rename_i next request served
          obtain ⟨isNext, -⟩ := takeDevice_added served
          have markedNext := marked.take foundStored chosen.free
          rw [← isNext] at markedNext
          refine ih markedNext (fun key pci isStored isFree isLeft isTaken => ?_) tested
          rw [Finset.mem_insert, not_or] at isLeft
          rcases List.mem_cons.1 isTaken with rfl | earlier
          · -- the device that `add` took is one that `test` could have given away
            rw [chosen.stored] at isStored
            obtain rfl := Option.some.inj isStored
            have atMost : found.1 ≤ offered.1 := foundFirst offered.1 offered.2 inState (by simp [isMatch, free])
            have atLeast : offered.1 ≤ found.1 :=
              smallest found.1 found.2 chosen.stored ⟨⟨chosen.suits.2, isFree⟩, isLeft.2⟩
            have same : offered.1 = found.1 := le_antisymm atLeast atMost
            rw [same, chosen.stored] at stored
            exact isLeft.1 (by rw [Option.some.inj stored])
          · exact left key pci isStored isFree isLeft.2 earlier
        · rename_i next request failure notAdded served
          exact takeDevice_found served

/-- Both loops of `add`: each request with its device. -/
inductive Served (base : PciDevices) :
    List (Bool × VectorAttribute) → List (Bool × VectorAttribute) → List String → Prop where
  | nil : Served base [] [] []
  | cons {mode : Bool} {device request : VectorAttribute}
      {devs written : List (Bool × VectorAttribute)} {keys : List String} {key : String}
      {pci : PCIDevice} (chosen : Chosen base mode device key pci)
      (address : request.vectorValue "ADDRESS" = pci.attrs.vectorValue "ADDRESS")
      (rest : Served base devs written keys) :
      Served base ((mode, device) :: devs) ((mode, request) :: written) (key :: keys)

theorem Placed.merge {devs middle written : List (Bool × VectorAttribute)}
    {keys others : List String} (first : Placed base true devs middle keys)
    (second : Placed base false middle written others) :
    ∃ picks, picks.Perm (keys ++ others) ∧ Served base devs written picks := by
  induction first generalizing written others with
  | nil =>
    cases second
    exact ⟨[], List.Perm.refl _, .nil⟩
  | skip rest ih =>
    cases second with
    | take chosen address restSecond =>
      obtain ⟨picks, perm, served⟩ := ih restSecond
      exact ⟨_ :: picks, (perm.cons _).trans List.perm_middle.symm, .cons chosen address served⟩
  | take chosen address rest ih =>
    cases second with
    | skip restSecond =>
      obtain ⟨picks, perm, served⟩ := ih restSecond
      exact ⟨_ :: picks, perm.cons _, .cons chosen address served⟩

theorem Served.length {devs written : List (Bool × VectorAttribute)} {picks : List String}
    (served : Served base devs written picks) : picks.length = devs.length := by
  induction served with
  | nil => rfl
  | cons _ _ _ ih => simp [ih]

theorem Served.at {devs written : List (Bool × VectorAttribute)} {picks : List String}
    (served : Served base devs written picks) {position : Nat} {device : VectorAttribute}
    {key : String} (isDevice : devs[position]? = some (mode, device)) (isKey : picks[position]? = some key) :
    ∃ pci request, Chosen base mode device key pci ∧ written[position]? = some (mode, request) ∧
      request.vectorValue "ADDRESS" = pci.attrs.vectorValue "ADDRESS" := by
  induction served generalizing position with
  | nil => cases isKey
  | cons chosen address rest ih =>
    cases position with
    | zero =>
      cases isDevice
      cases isKey
      exact ⟨_, _, chosen, rfl, address⟩
    | succ position => exact ih isDevice isKey

theorem Placed.key {devs written : List (Bool × VectorAttribute)} {keys : List String}
    (placed : Placed base mode devs written keys) (inside : (mode, device) ∈ devs) :
    ∃ key ∈ keys, ∃ pci, Chosen base mode device key pci := by
  induction placed with
  | nil => cases inside
  | skip rest ih =>
    rcases List.mem_cons.1 inside with same | later
    · exact absurd (Prod.mk.inj same).1 (by simp)
    · exact ih later
  | take chosen address rest ih =>
    rcases List.mem_cons.1 inside with same | later
    · obtain ⟨-, rfl⟩ := Prod.mk.inj same
      exact ⟨_, List.mem_cons_self .., _, chosen⟩
    · obtain ⟨key, isKey, isChosen⟩ := ih later
      exact ⟨key, List.mem_cons_of_mem _ isKey, isChosen⟩

theorem Placed.nodup {devs written : List (Bool × VectorAttribute)} {keys : List String}
    (placed : Placed base true devs written keys) (nodup : keys.Nodup) :
    ((devs.filter Prod.fst).map fun request => request.2.vectorValue "SHORT_ADDRESS").Nodup := by
  induction placed with
  | nil => exact List.nodup_nil
  | skip rest ih => simpa using ih nodup
  | @take device request devs written keys key pci chosen address rest ih =>
    obtain ⟨notAgain, nodup⟩ := List.nodup_cons.1 nodup
    rw [List.filter_cons_of_pos rfl, List.map_cons]
    refine List.nodup_cons.2 ⟨fun inside => ?_, ih nodup⟩
    obtain ⟨⟨isAddress, other⟩, isOther, sameShort⟩ := List.mem_map.1 inside
    obtain ⟨inDevs, isTrue⟩ := List.mem_filter.1 isOther
    obtain rfl : isAddress = true := isTrue
    obtain ⟨otherKey, isKey, otherPci, otherChosen⟩ := rest.key inDevs
    have below : key ≤ otherKey := chosen.first rfl _ _ otherChosen.stored (otherChosen.suits.trans sameShort)
    have above : otherKey ≤ key := otherChosen.first rfl _ _ chosen.stored (chosen.suits.trans sameShort.symm)
    exact notAgain (le_antisymm below above ▸ isKey)

theorem requested_flagged (devs : List VectorAttribute) : requested devs = ((flagged devs).filter Prod.fst).map
      fun request => request.2.vectorValue "SHORT_ADDRESS" := by
  rw [requested, flagged, List.filter_map, List.map_map]
  rfl

def Suits (device : VectorAttribute) (pci : PCIDevice) : Prop :=
  if byAddress device then pci.shortAddress = device.vectorValue "SHORT_ADDRESS"
  else namesDevice device = true ∧ matchesName device pci = true

/-- `add` finds a device for every request: one that suits it and was free, a
different one for each, and marks it. -/
def Agreement (devices : PciDevices) (sr : PciCapacity) : Prop :=
  (add devices sr).2.2 = .added ∧
    ∃ picks : List String, picks.Nodup ∧ picks.length = sr.pci.length ∧
      ∀ (position : Nat) (device : VectorAttribute) (key : String),
        sr.pci[position]? = some device → picks[position]? = some key →
        ∃ (pci : PCIDevice) (request : VectorAttribute),
          devices.lookup key = some pci ∧ pci.vmid = -1 ∧ Suits device pci ∧
          (add devices sr).1.lookup key = some (pci.marked sr) ∧
          (add devices sr).2.1[position]? = some request ∧
          request.vectorValue "ADDRESS" = pci.attrs.vectorValue "ADDRESS"

theorem marked_nil (devices : PciDevices) (sr : PciCapacity) : Marked devices sr [] devices :=
  ⟨fun key => (by simp), fun key inside => (by cases inside), List.nodup_nil⟩

theorem add_served {devices : PciDevices} {sr : PciCapacity} (added : (add devices sr).2.2 = .added) :
    ∃ picks keys written, Served devices (flagged sr.pci) written picks ∧ picks.Nodup ∧
      Marked devices sr keys (add devices sr).1 ∧ (∀ key ∈ picks, key ∈ keys) ∧
      (add devices sr).2.1 = written.map Prod.snd ∧ (requested sr.pci).Nodup := by
  rw [add] at added ⊢
  rw [show sr.pci.map (fun device => (byAddress device, device)) = flagged sr.pci from rfl] at *
  cases first : addLoop sr true ⟨devices, ∅⟩ (flagged sr.pci) with
  | mk state rest =>
    obtain ⟨middle, outcome⟩ := rest
    rw [first] at added
    cases outcome with
    | added =>
      obtain ⟨keys, placed, marked⟩ := addLoop_placed (marked_nil devices sr) first
      cases second : addLoop sr false state middle with
      | mk last tail =>
        obtain ⟨written, outcome⟩ := tail
        simp only [second] at added ⊢
        subst added
        obtain ⟨others, placedNames, markedNames⟩ := addLoop_placed marked second
        obtain ⟨picks, perm, served⟩ := placed.merge placedNames
        have nodup := markedNames.nodup
        rw [List.append_nil] at nodup
        have picked : picks.Perm (others.reverse ++ keys.reverse) :=
          perm.trans (List.perm_append_comm.trans ((List.reverse_perm _).symm.append (List.reverse_perm _).symm))
        refine ⟨picks, _, written, served, picked.symm.nodup nodup, markedNames,
          fun key isKey => by simpa using picked.subset isKey, rfl, ?_⟩
        rw [requested_flagged]
        exact placed.nodup (List.nodup_reverse.1 (List.nodup_append.1 nodup).2.1)
    | noDevice | noAddress => cases added

/-- For requests that pass `test`, and guest addresses that can be had, `add` agrees
exactly when no two requests name the same address. -/
theorem pci_agreement (devices : PciDevices) (sr : PciCapacity)
    (tested : test devices sr.pci = true) (addressed : (add devices sr).2.2 ≠ .noAddress) :
    Agreement devices sr ↔ (requested sr.pci).Nodup := by
  constructor
  · rintro ⟨added, -⟩
    obtain ⟨-, -, -, -, -, -, -, -, nodup⟩ := add_served added
    exact nodup
  · intro nodup
    have added : (add devices sr).2.2 = .added := by
      have found : (add devices sr).2.2 ≠ .noDevice := by
        rw [test] at tested
        split at tested
        · contradiction
        rename_i assigned isAssigned
        have covered : Covered devices [] ∅ := fun key inside => by cases inside
        have start : Marked devices sr [] (PciState.mk devices ∅).devices := marked_nil devices sr
        obtain ⟨found, markedAfter⟩ := addLoop_addresses start covered isAssigned nodup
          fun short _ inside => by cases inside
        rw [add]
        rw [show sr.pci.map (fun device => (byAddress device, device)) = flagged sr.pci from rfl]
        cases first : addLoop sr true ⟨devices, ∅⟩ (flagged sr.pci) with
        | mk state rest =>
          obtain ⟨middle, outcome⟩ := rest
          rw [first] at found markedAfter
          cases outcome with
          | added =>
            obtain ⟨keys, placed, -⟩ := addLoop_placed (marked_nil devices sr) first
            obtain ⟨taken, marked, covered⟩ := markedAfter rfl
            rw [testNames_flagged, ← placed.testFlagged] at tested
            exact addLoop_names marked
              (fun key pci stored _ unassigned isTaken =>
                unassigned (covered key isTaken pci stored)) tested
          | noDevice => exact absurd rfl found
          | noAddress => exact fun same => by cases same
      cases isOutcome : (add devices sr).2.2 with
      | added => rfl
      | noDevice => exact absurd isOutcome found
      | noAddress => exact absurd isOutcome addressed
    obtain ⟨picks, keys, written, served, distinct, marked, inside, isWritten, -⟩ := add_served added
    have length : picks.length = sr.pci.length := by rw [served.length, flagged, List.length_map]
    refine ⟨added, picks, distinct, length, fun position device key isDevice isKey => ?_⟩
    have isFlagged : (flagged sr.pci)[position]? = some (byAddress device, device) := by
      rw [flagged, List.getElem?_map, isDevice, Option.map_some]
    obtain ⟨pci, request, chosen, isRequest, address⟩ := served.at isFlagged isKey
    refine ⟨pci, request, chosen.stored, chosen.free, chosen.suits, ?_, ?_, address⟩
    · rw [marked.rows, if_pos (inside key (List.mem_of_getElem? isKey)), chosen.stored]
      rfl
    · rw [isWritten, List.getElem?_map, isRequest]
      rfl

def attributes (values : List (String × String)) : VectorAttribute :=
  values.foldl (fun attr value => attr.replace value.1 value.2) ∅

/-- A network card and a graphics card. -/
def twoDevices : PciDevices :=
  init [attributes [("ADDRESS", "0000:01:00:0"), ("SHORT_ADDRESS", "01:00.0"), ("VENDOR", "8086"),
      ("DEVICE", "10ca"), ("CLASS", "0200")],
    attributes [("ADDRESS", "0000:02:00:0"), ("SHORT_ADDRESS", "02:00.0"), ("VENDOR", "10de"),
      ("DEVICE", "1eb8"), ("CLASS", "0302")]]

def requesting (pci : List VectorAttribute) : PciCapacity :=
  { vmid := 7, pci, vgpuProfile := "", isQ35 := false, nodes := [] }

/-- One card by its class, the other one by its address. -/
theorem pci_agreement_two_devices : ∃ sr : PciCapacity, sr.pci.length = 2 ∧ test twoDevices sr.pci = true ∧
      (Agreement twoDevices sr ↔ (requested sr.pci).Nodup) ∧ (requested sr.pci).Nodup := by
  let sr := requesting [attributes [("CLASS", "0302")], attributes [("SHORT_ADDRESS", "01:00.0")]]
  have tested : test twoDevices sr.pci = true := by decide
  have addressed : (add twoDevices sr).2.2 ≠ .noAddress := by decide
  exact ⟨sr, rfl, tested, pci_agreement twoDevices sr tested addressed, by decide⟩

/-- Two requests for the same address pass the test. -/
theorem pci_agreement_same_address : ¬ ∀ (devices : PciDevices) (sr : PciCapacity), test devices sr.pci = true →
      (add devices sr).2.2 ≠ .noAddress → Agreement devices sr := by
  intro claim
  let sr := requesting
    [attributes [("SHORT_ADDRESS", "01:00.0")], attributes [("SHORT_ADDRESS", "01:00.0")]]
  have failed : (add twoDevices sr).2.2 = .noDevice := by decide
  obtain ⟨added, -⟩ := claim twoDevices sr (by decide) (by rw [failed]; decide)
  rw [failed] at added
  cases added

end OpenNebula.Host
