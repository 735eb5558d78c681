import OpenNebula.Host.PciAgreement
import OpenNebula.Library.Transition

namespace OpenNebula.Host

open Common
open Library

/-! # Owners of PCI devices

The owner of a device is kept twice: `vmid` in memory and `VMID` in the attribute
that is stored.  Every operation writes both, save where `add` finds no guest
address, and where the attribute of a new device holds a text that is no number.
-/

def Owned (pci : PCIDevice) : Prop := pci.attrs.intValue "VMID" (-1) = (pci.vmid, true)

def AllOwned (devices : PciDevices) : Prop :=
  ∀ key pci, devices.lookup key = some pci → Owned pci

def ReadableVmid (attrs : VectorAttribute) : Prop :=
  (attrs.intValue "VMID" (-1)).2 = true ∨ (attrs.intValue "VMID" (-1)).1 = -1

instance (attrs : VectorAttribute) : Decidable (ReadableVmid attrs) :=
  inferInstanceAs (Decidable (_ ∨ _))

inductive PciEvent where
  | add (sr : PciCapacity)
  | del (sr : PciCapacity)
  | revert (devs : List VectorAttribute)
  | setMonitorization (pciAtt : List VectorAttribute) (hconf : HostShareConf)

/-- Nothing follows once the map holds a null pointer: it is dereferenced when the
map is walked. -/
def HostSharePCI.step (host : HostSharePCI) : PciEvent → Option HostSharePCI
  | .revert devs => some (OpenNebula.Host.revert host "" devs).1
  | .add sr =>
    if host.nulls = [] then some { host with devices := (OpenNebula.Host.add host.devices sr).1 }
    else none
  | .del sr =>
    if host.nulls = [] then
      some { host with devices := (OpenNebula.Host.del sr.vmid host.devices sr.pci).1 }
    else none
  | .setMonitorization pciAtt hconf =>
    if host.nulls = [] then
      some { host with devices := OpenNebula.Host.setMonitorization host.devices pciAtt hconf }
    else none

/-- Guest addresses are found, previous devices are known, and the owners that the
monitor reports for new devices can be read. -/
def PciEvent.Recorded (host : HostSharePCI) : PciEvent → Prop
  | .add sr => (OpenNebula.Host.add host.devices sr).2.2 ≠ .noAddress
  | .del _ => True
  | .revert devs => ∀ device ∈ devs, ∀ address ∈ device.lookup "PREV_ADDRESS",
      address = "" ∨ address ∈ host.devices
  | .setMonitorization pciAtt _ => ∀ pci ∈ pciAtt,
      pci.vectorValue "ADDRESS" ∈ host.devices ∨ ReadableVmid pci

instance (host : HostSharePCI) : (event : PciEvent) → Decidable (event.Recorded host)
  | .add sr => inferInstanceAs (Decidable ((add host.devices sr).2.2 ≠ .noAddress))
  | .del _ => isTrue trivial
  | .revert devs => inferInstanceAs (Decidable (∀ device ∈ devs,
      ∀ address ∈ device.lookup "PREV_ADDRESS", address = "" ∨ address ∈ host.devices))
  | .setMonitorization pciAtt _ => inferInstanceAs (Decidable (∀ pci ∈ pciAtt,
      pci.vectorValue "ADDRESS" ∈ host.devices ∨ ReadableVmid pci))

theorem intValue_replace_vmid (attrs : VectorAttribute) (vmid : Fin (2 ^ 31)) :
    (attrs.replace "VMID" (toString vmid.val)).intValue "VMID" (-1) = ((vmid.val : Int), true) := by
  have text : (attrs.replace "VMID" (toString vmid.val)).vectorValue "VMID" = toString vmid.val := by
    simp
  have read := readNumber_natural vmid.isLt
  have notEmpty : toString vmid.val ≠ "" := by
    intro empty
    rw [empty, show readNumber 10 .int "" = ⟨none, false⟩ by decide] at read
    cases read
  simp only [VectorAttribute.intValue, text, if_neg notEmpty, read, Option.getD_some]

theorem intValue_replace_free (attrs : VectorAttribute) :
    (attrs.replace "VMID" "-1").intValue "VMID" (-1) = (-1, true) := by
  have text : (attrs.replace "VMID" "-1").vectorValue "VMID" = "-1" := by simp
  simp only [VectorAttribute.intValue, text, if_neg (by decide : ¬("-1" = "")), readNumber_minusOne, Option.getD_some]

theorem owned_marked (sr : PciCapacity) (pci : PCIDevice) : Owned (pci.marked sr) :=
  intValue_replace_vmid pci.attrs sr.vmid

variable {pci : PCIDevice} {devices : PciDevices} {key : String}

theorem Owned.reload (owned : Owned pci) : (PCIDevice.ofAttrs pci.attrs).vmid = pci.vmid ∧
      (PCIDevice.ofAttrs pci.attrs).attrs = pci.attrs := by
  rw [Owned] at owned
  simp only [PCIDevice.ofAttrs, owned, if_true]
  exact ⟨trivial, trivial⟩

theorem owned_ofAttrs {attrs : VectorAttribute} (readable : ReadableVmid attrs) : Owned (.ofAttrs attrs) := by
  simp only [Owned, PCIDevice.ofAttrs]
  cases good : (attrs.intValue "VMID" (-1)).2 with
  | true =>
    rw [if_pos rfl]
    exact Prod.ext rfl good
  | false =>
    rw [if_neg (by decide), intValue_replace_free]
    rcases readable with isGood | isFree
    · rw [good] at isGood
      cases isGood
    · rw [isFree]

section

variable (before after : PciDevices)

def Keeps : Prop :=
  ∀ key pci, before.lookup key = some pci → pci.vmid ≠ -1 →
    ∃ now, after.lookup key = some now ∧ now.vmid = pci.vmid

def Frees : Prop :=
  ∀ key pci, before.lookup key = some pci → pci.vmid ≠ -1 →
    ∃ now, after.lookup key = some now ∧ (now.vmid = pci.vmid ∨ now.vmid = -1)

theorem Keeps.trans {first second third : PciDevices} (left : Keeps first second)
    (right : Keeps second third) : Keeps first third := by
  intro key pci stored isOwned
  obtain ⟨middle, isMiddle, same⟩ := left key pci stored isOwned
  obtain ⟨last, isLast, sameLast⟩ := right key middle isMiddle (same ▸ isOwned)
  exact ⟨last, isLast, sameLast.trans same⟩

theorem Keeps.frees {before after : PciDevices} (keeps : Keeps before after) : Frees before after := by
  intro key pci stored isOwned
  obtain ⟨now, isNow, same⟩ := keeps key pci stored isOwned
  exact ⟨now, isNow, .inl same⟩

theorem AllOwned.insert (owned : AllOwned devices) (isOwned : Owned pci) : AllOwned (devices.insert key pci) := by
  intro other found stored
  rw [Map.lookup_insert_eq] at stored
  split at stored
  · exact Option.some.inj stored ▸ isOwned
  · exact owned other found stored

theorem keeps_insert (isFree : ∀ found, devices.lookup key = some found → found.vmid ≠ -1 → pci.vmid = found.vmid) :
    Keeps devices (devices.insert key pci) := by
  intro other found stored isOwned
  rw [Map.lookup_insert_eq]
  split
  · rename_i same
    exact ⟨pci, rfl, isFree found (same ▸ stored) isOwned⟩
  · exact ⟨found, stored, rfl⟩

theorem takeDevice_devices {state after : PciState} {device written : VectorAttribute} {sr : PciCapacity}
    {outcome : AddOutcome} (served : takeDevice state key pci device sr = (after, written, outcome))
    (addressed : outcome ≠ .noAddress) : after.devices = state.devices.insert key (pci.marked sr) := by
  simp only [takeDevice] at served
  split at served
  · cases served
    rfl
  · cases served
    exact absurd rfl addressed

theorem addLoop_owned {sr : PciCapacity} {mode : Bool} {state : PciState} {devs : List (Bool × VectorAttribute)}
    (addressed : (addLoop sr mode state devs).2.2 ≠ .noAddress) :
    (AllOwned state.devices → AllOwned (addLoop sr mode state devs).1.devices) ∧
      Keeps state.devices (addLoop sr mode state devs).1.devices := by
  have unchanged (devices : PciDevices) :
      (AllOwned devices → AllOwned devices) ∧ Keeps devices devices :=
    ⟨id, fun key pci stored _ => ⟨pci, stored, rfl⟩⟩
  induction devs generalizing state with
  | nil => exact unchanged _
  | cons request devs ih =>
    obtain ⟨isAddress, device⟩ := request
    by_cases same : isAddress = mode
    · subst same
      cases isChoice : firstSuitable isAddress state.devices device with
      | none =>
        rw [addLoop_cons_none isChoice]
        exact unchanged _
      | some found =>
        obtain ⟨chosen, stored⟩ := (marked_nil state.devices sr).chosen isChoice
        have taken : (AllOwned state.devices → AllOwned (state.devices.insert found.1 (found.2.marked sr))) ∧
            Keeps state.devices (state.devices.insert found.1 (found.2.marked sr)) := by
          refine ⟨fun owned => owned.insert (owned_marked sr _), keeps_insert ?_⟩
          intro other isOther isOwned
          rw [chosen.stored] at isOther
          exact absurd (Option.some.inj isOther ▸ chosen.free) isOwned
        rw [addLoop_cons_some isChoice] at addressed ⊢
        split at addressed
        · rename_i next request served
          have isNext := takeDevice_devices served (by decide)
          obtain ⟨owned, keeps⟩ := ih addressed
          rw [isNext] at owned keeps
          exact ⟨fun all => owned (taken.1 all), taken.2.trans keeps⟩
        · rename_i next request failure notAdded served
          have isNext := takeDevice_devices served addressed
          cases failure with
          | added => exact absurd rfl notAdded
          | noDevice => exact absurd rfl (takeDevice_found served)
          | noAddress => exact absurd rfl addressed
    · rw [addLoop_cons_skip same] at addressed ⊢
      exact ih addressed

theorem add_owned {devices : PciDevices} {sr : PciCapacity} (addressed : (add devices sr).2.2 ≠ .noAddress) :
    (AllOwned devices → AllOwned (add devices sr).1) ∧ Keeps devices (add devices sr).1 := by
  rw [add] at addressed ⊢
  cases first : addLoop sr true ⟨devices, ∅⟩ (sr.pci.map fun device => (byAddress device, device)) with
  | mk state rest =>
    obtain ⟨middle, outcome⟩ := rest
    have firstOwned := @addLoop_owned sr true ⟨devices, ∅⟩
      (sr.pci.map fun device => (byAddress device, device))
    rw [first] at addressed firstOwned
    cases outcome with
    | added =>
      obtain ⟨owned, keeps⟩ := firstOwned fun same => by cases same
      obtain ⟨ownedNames, keepsNames⟩ := addLoop_owned addressed
      exact ⟨fun all => ownedNames (owned all), keeps.trans keepsNames⟩
    | noDevice => exact firstOwned fun same => by cases same
    | noAddress => exact absurd rfl addressed

theorem freeDevice_owned (owned : AllOwned devices) (key : String) (pci : PCIDevice) :
    AllOwned (freeDevice devices key pci) :=
  owned.insert (intValue_replace_free pci.attrs)

def Releases : Prop :=
  ∀ key pci, before.lookup key = some pci →
    ∃ now, after.lookup key = some now ∧ (now.vmid = pci.vmid ∨ now.vmid = -1)

end

theorem freeDevice_releases (devices : PciDevices) (key : String) (pci : PCIDevice) :
    Releases devices (freeDevice devices key pci) := by
  intro other found stored
  rw [freeDevice, Map.lookup_insert_eq]
  split
  · exact ⟨_, rfl, .inr rfl⟩
  · exact ⟨found, stored, .inl rfl⟩

theorem delDevice_owned (devices : PciDevices) (device : VectorAttribute) (vmid : Fin (2 ^ 31)) :
    (AllOwned devices → AllOwned (delDevice devices device vmid).1) ∧
      Releases devices (delDevice devices device vmid).1 := by
  rw [delDevice]
  split
  · exact ⟨fun owned => freeDevice_owned owned _ _, freeDevice_releases _ _ _⟩
  · split
    · exact ⟨fun owned => freeDevice_owned owned _ _, freeDevice_releases _ _ _⟩
    · exact ⟨id, fun key pci stored => ⟨pci, stored, .inl rfl⟩⟩

theorem del_owned (vmid : Fin (2 ^ 31)) (devices : PciDevices) (devs : List VectorAttribute) :
    (AllOwned devices → AllOwned (del vmid devices devs).1) ∧ Releases devices (del vmid devices devs).1 := by
  induction devs generalizing devices with
  | nil => exact ⟨id, fun key pci stored => ⟨pci, stored, .inl rfl⟩⟩
  | cons device devs ih =>
    obtain ⟨owned, releases⟩ := delDevice_owned devices device vmid
    obtain ⟨ownedRest, releasesRest⟩ := ih (delDevice devices device vmid).1
    refine ⟨fun all => ownedRest (owned all), fun key pci stored => ?_⟩
    obtain ⟨middle, isMiddle, sameOrFree⟩ := releases key pci stored
    obtain ⟨last, isLast, lastSame | lastFree⟩ := releasesRest key middle isMiddle
    · exact ⟨last, isLast, by rw [lastSame]; exact sameOrFree⟩
    · exact ⟨last, isLast, .inr lastFree⟩

theorem monitorDevice_owned {start : PciDevices} (hconf : HostShareConf) (pci : VectorAttribute)
    (known : ∀ key ∈ start, key ∈ devices) (readable : pci.vectorValue "ADDRESS" ∈ start ∨ ReadableVmid pci) :
    (AllOwned devices → AllOwned (monitorDevice hconf devices pci)) ∧
      Keeps devices (monitorDevice hconf devices pci) ∧ ∀ key ∈ start, key ∈ monitorDevice hconf devices pci := by
  simp only [monitorDevice]
  split
  · exact ⟨id, fun key pci stored _ => ⟨pci, stored, rfl⟩, known⟩
  split
  · rename_i stored isStored
    split
    · refine ⟨fun owned => owned.insert ?_, keeps_insert ?_,
        fun key inside => (AList.mem_insert _).2 (.inr (known key inside))⟩
      · have isOwned := owned _ stored isStored
        simpa [Owned, VectorAttribute.intValue] using isOwned
      · intro found isFound _
        rw [isStored] at isFound
        rw [← Option.some.inj isFound]
    · exact ⟨id, fun key pci stored _ => ⟨pci, stored, rfl⟩, known⟩
  · rename_i absent
    have isNew : pci.vectorValue "ADDRESS" ∉ devices := AList.lookup_eq_none.1 absent
    refine ⟨fun owned => owned.insert (owned_ofAttrs ?_), keeps_insert ?_,
      fun key inside => (AList.mem_insert _).2 (.inr (known key inside))⟩
    · exact readable.resolve_left fun inside => isNew (known _ inside)
    · intro found isFound _
      rw [absent] at isFound
      cases isFound

theorem setMonitorization_owned {pciAtt : List VectorAttribute} (hconf : HostShareConf)
    (readable : ∀ pci ∈ pciAtt, pci.vectorValue "ADDRESS" ∈ devices ∨ ReadableVmid pci) :
    (AllOwned devices → AllOwned (setMonitorization devices pciAtt hconf)) ∧
      Keeps devices (setMonitorization devices pciAtt hconf) := by
  have folded (start current : PciDevices) (known : ∀ key ∈ start, key ∈ current)
      (isReadable : ∀ pci ∈ pciAtt, pci.vectorValue "ADDRESS" ∈ start ∨ ReadableVmid pci) :
      (AllOwned current → AllOwned (pciAtt.foldl (monitorDevice hconf) current)) ∧
        Keeps current (pciAtt.foldl (monitorDevice hconf) current) := by
    clear readable
    induction pciAtt generalizing current with
    | nil => exact ⟨id, fun key pci stored _ => ⟨pci, stored, rfl⟩⟩
    | cons pci pciAtt ih =>
      obtain ⟨owned, keeps, knownNext⟩ := monitorDevice_owned hconf pci known (isReadable pci (List.mem_cons_self ..))
      obtain ⟨ownedRest, keepsRest⟩ := ih (monitorDevice hconf current pci) knownNext
        fun other inside => isReadable other (List.mem_cons_of_mem _ inside)
      exact ⟨fun all => ownedRest (owned all), keeps.trans keepsRest⟩
  obtain ⟨owned, keeps⟩ := folded devices devices (fun key inside => inside) readable
  refine ⟨fun all key pci stored => ?_, fun key pci stored isOwned => ?_⟩
  · rw [setMonitorization, Map.lookup_filter, Option.filter_eq_some_iff] at stored
    exact owned all key pci stored.1
  · obtain ⟨now, isNow, same⟩ := keeps key pci stored isOwned
    refine ⟨now, ?_, same⟩
    rw [setMonitorization, Map.lookup_filter, isNow, Option.filter_some_pos]
    simp [same, isOwned]

theorem revert_devices (host : HostSharePCI) (address : String) (devs : List VectorAttribute) :
    (revert host address devs).1.devices = host.devices := by
  induction devs generalizing host address with
  | nil => rfl
  | cons device devs ih =>
    simp only [revert, ih]
    split
    · rfl
    · split <;> rfl

theorem revert_nulls {host : HostSharePCI} {address : String} {devs : List VectorAttribute}
    (isKnown : address = "" ∨ address ∈ host.devices)
    (known : ∀ device ∈ devs, ∀ address ∈ device.lookup "PREV_ADDRESS", address = "" ∨ address ∈ host.devices) :
    (revert host address devs).1.nulls = host.nulls := by
  induction devs generalizing address with
  | nil => rfl
  | cons device devs ih =>
    have isNext : (device.lookup "PREV_ADDRESS").getD address = "" ∨
        (device.lookup "PREV_ADDRESS").getD address ∈ host.devices := by
      cases found : device.lookup "PREV_ADDRESS" with
      | none => exact isKnown
      | some previous => exact known device (List.mem_cons_self ..) previous found
    have rest := ih isNext fun other inside => known other (List.mem_cons_of_mem _ inside)
    simp only [revert]
    split
    · exact rest
    · rename_i notEmpty
      split
      · exact rest
      · rename_i absent
        exact absurd (isNext.resolve_left notEmpty) (AList.lookup_eq_none.1 absent)

def HostSharePCI.system : System HostSharePCI PciEvent where
  initial host := ∃ attributes, (∀ attrs ∈ attributes, ReadableVmid attrs) ∧
    host = { devices := init attributes, nulls := [] }
  step := HostSharePCI.step

theorem init_owned {attributes : List VectorAttribute}
    (readable : ∀ attrs ∈ attributes, ReadableVmid attrs) : AllOwned (init attributes) := by
  have folded (devices : PciDevices) (owned : AllOwned devices) :
      AllOwned (attributes.foldl (fun devices attrs =>
        Map.insertNew (PCIDevice.ofAttrs attrs).address (.ofAttrs attrs) devices) devices) := by
    induction attributes generalizing devices with
    | nil => exact owned
    | cons attrs attributes ih =>
      refine ih (fun other inside => readable other (List.mem_cons_of_mem _ inside)) _ ?_
      by_cases inside : (PCIDevice.ofAttrs attrs).address ∈ devices
      · simpa only [Map.insertNew, if_pos inside] using owned
      · have isOwned : Owned (.ofAttrs attrs) :=
          owned_ofAttrs (readable attrs (List.mem_cons_self ..))
        simpa only [Map.insertNew, if_neg inside] using owned.insert isOwned
  exact folded ∅ fun key pci stored => by cases stored

theorem step_owned {host next : HostSharePCI} {event : PciEvent} (recorded : event.Recorded host)
    (stepped : host.step event = some next) :
    (AllOwned host.devices → AllOwned next.devices) ∧ Frees host.devices next.devices ∧
      next.nulls = host.nulls := by
  cases event with
  | add sr =>
    simp only [HostSharePCI.step, Option.ite_none_right_eq_some] at stepped
    obtain ⟨-, isNext⟩ := stepped
    obtain rfl := Option.some.inj isNext
    obtain ⟨owned, keeps⟩ := add_owned recorded
    exact ⟨owned, keeps.frees, rfl⟩
  | del sr =>
    simp only [HostSharePCI.step, Option.ite_none_right_eq_some] at stepped
    obtain ⟨-, isNext⟩ := stepped
    obtain rfl := Option.some.inj isNext
    obtain ⟨owned, releases⟩ := del_owned sr.vmid host.devices sr.pci
    exact ⟨owned, fun key pci stored _ => releases key pci stored, rfl⟩
  | revert devs =>
    obtain rfl := Option.some.inj stepped
    rw [revert_devices]
    exact ⟨id, fun key pci stored _ => ⟨pci, stored, .inl rfl⟩, revert_nulls (.inl rfl) recorded⟩
  | setMonitorization pciAtt hconf =>
    simp only [HostSharePCI.step, Option.ite_none_right_eq_some] at stepped
    obtain ⟨-, isNext⟩ := stepped
    obtain rfl := Option.some.inj isNext
    obtain ⟨owned, keeps⟩ := setMonitorization_owned hconf recorded
    exact ⟨owned, keeps.frees, rfl⟩

/-- The identifier is recorded as the owner of the device, in memory or in the
attribute. -/
def Records (pci : PCIDevice) (vmid : Int) : Prop :=
  pci.vmid = vmid ∨ (pci.attrs.intValue "VMID" (-1)).1 = vmid

/-- The two records of the owner are the same, also when the attributes are stored
and read again, and name one virtual machine; a device changes hands only when it
was freed. -/
structure Consistent (ok : HostSharePCI → PciEvent → Prop) (host : HostSharePCI) : Prop where
  owned : AllOwned host.devices
  reloaded : ∀ key pci, host.devices.lookup key = some pci →
    (PCIDevice.ofAttrs pci.attrs).vmid = pci.vmid
  single : ∀ key pci, host.devices.lookup key = some pci → ∀ left right, Records pci left →
    Records pci right → left = right
  kept : ∀ event next, ok host event → host.step event = some next →
    Frees host.devices next.devices
  whole : host.nulls = []

theorem pci_ownership (host : HostSharePCI)
    (reached : HostSharePCI.system.Reachable (fun host event => event.Recorded host) host) :
    Consistent (fun host event => event.Recorded host) host := by
  have held := @System.Reachable.invariant _ _ _ _
    (fun host : HostSharePCI => AllOwned host.devices ∧ host.nulls = []) _ reached ?_ ?_
  · obtain ⟨owned, whole⟩ := held
    refine ⟨owned, fun key pci stored => (owned key pci stored).reload.1,
      fun key pci stored left right isLeft isRight => ?_,
      fun event next recorded stepped => (step_owned recorded stepped).2.1, whole⟩
    have isOwned := owned key pci stored
    rw [Owned] at isOwned
    rw [Records, isOwned, or_self] at isLeft isRight
    exact isLeft.symm.trans isRight
  · rintro start ⟨attributes, readable, rfl⟩
    exact ⟨init_owned readable, rfl⟩
  · rintro before event next ⟨owned, whole⟩ recorded stepped
    obtain ⟨ownedNext, -, same⟩ := step_owned recorded stepped
    exact ⟨ownedNext owned, same.trans whole⟩

def cards (number : Nat) : List VectorAttribute :=
  (["01:00:0", "02:00:0", "03:00:0", "04:00:0", "05:00:0", "06:00:0", "07:00:0", "08:00:0",
    "09:00:0"].take number).map fun address =>
      attributes [("ADDRESS", address), ("CLASS", "0200"), ("NUMA_NODE", "0")]

def cardRequest (number : Nat) : PciCapacity :=
  { requesting (List.replicate number (attributes [("CLASS", "0200"), ("PCI_ID", "0")])) with
    isQ35 := true, nodes := [attributes [("TOTAL_CPUS", "1"), ("MEMORY", "1024")]] }

def cardHost (number : Nat) : HostSharePCI := { devices := init (cards number), nulls := [] }

theorem cardHost_initial (number : Nat) : HostSharePCI.system.initial (cardHost number) := by
  refine ⟨cards number, fun attrs inside => ?_, rfl⟩
  obtain ⟨address, -, rfl⟩ := List.mem_map.1 inside
  right
  simp [attributes, VectorAttribute.intValue]
  rfl

/-- Two cards are added, and stay when the monitor misses one of them. -/
theorem pci_ownership_two_cards : ∃ host, HostSharePCI.system.Reachable (fun host event => event.Recorded host) host ∧
      host.devices.inOrder.map (fun pci => pci.2.vmid) = [7, 7, -1] ∧
      Consistent (fun host event => event.Recorded host) host := by
  have ran : ((HostSharePCI.system.exec (fun host event => event.Recorded host) (cardHost 2)
      [.add (cardRequest 2), .setMonitorization ((cards 3).drop 1) ⟨"", ""⟩]).map
          fun host => host.devices.inOrder.map fun pci => pci.2.vmid) = some [7, 7, -1] := by
    decide +kernel
  obtain ⟨host, ran, owners⟩ := Option.map_eq_some_iff.mp ran
  have reached : HostSharePCI.system.Reachable (fun host event => event.Recorded host) host :=
    System.reachable_of_exec (cardHost_initial 2) ran
  exact ⟨host, reached, owners, pci_ownership host reached⟩

/-- There are eight root ports for a NUMA node: the ninth card keeps its owner in
memory only. -/
theorem pci_ownership_no_port : ¬ ∀ host, HostSharePCI.system.Reachable System.anyStep host →
      Consistent System.anyStep host := by
  intro claim
  have ran : ((HostSharePCI.system.exec System.anyStep (cardHost 9) [.add (cardRequest 9)]).map
      fun host => (host.devices.lookup "09:00:0").map
        fun pci => (pci.vmid, pci.attrs.intValue "VMID" (-1))) = some (some (7, (-1, true))) := by
    decide +kernel
  obtain ⟨host, ran, isDevice⟩ := Option.map_eq_some_iff.mp ran
  obtain ⟨pci, stored, isOwner⟩ := Option.map_eq_some_iff.mp isDevice
  obtain ⟨isVmid, isAttribute⟩ := Prod.mk.inj isOwner
  have consistent := claim host (System.reachable_of_exec (cardHost_initial 9) ran)
  have owned := consistent.owned _ pci stored
  rw [Owned, isVmid, isAttribute] at owned
  exact absurd owned (by decide)

end OpenNebula.Host
