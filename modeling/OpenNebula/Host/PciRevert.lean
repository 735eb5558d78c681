import OpenNebula.Host.HostSharePCI

namespace OpenNebula.Host

open Common
open Library

/-! # What `revert` rewrites

After a migration that failed, the entries of a virtual machine get the attributes of their
previous devices back.  The variable with the previous address is declared outside of the loop,
so an entry without one takes the address of an entry before it.
-/

variable {devices : PciDevices} {device : VectorAttribute} {devs : List VectorAttribute}

section

variable (devices : PciDevices)

section

variable (device : VectorAttribute)

/-- The device that the entry itself names as its previous one -/
def prevDevice : Option PCIDevice :=
  if device.vectorValue "PREV_ADDRESS" = "" then none
  else devices.lookup (device.vectorValue "PREV_ADDRESS")

def reverted : VectorAttribute :=
  (prevDevice devices device).elim device fun pci => pciAttribute device pci false ""

def SameAttributes (left right : VectorAttribute) : Prop := ∀ name, left.lookup name = right.lookup name

theorem SameAttributes.refl : SameAttributes device device := fun _ => rfl

/-- The entry already has what it would be given for the device. -/
def Carries (pci : PCIDevice) (device : VectorAttribute) : Prop :=
  (∀ name ∈ copiedAttributes, device.lookup name = some (pci.attrs.vectorValue name)) ∧
    ∀ name ∈ checkedAttributes, pci.attrs.vectorValue name ≠ "" →
      device.lookup name = some (pci.attrs.vectorValue name)

theorem lookup_foldl_replace (names : List String) (value : String → String) (given : String → Bool)
    (device : VectorAttribute) (name : String) :
    (names.foldl (fun device name => if given name then device.replace name (value name) else device)
        device).lookup name = if name ∈ names ∧ given name = true then some (value name) else device.lookup name := by
  induction names generalizing device with
  | nil => simp
  | cons first rest ih =>
    rw [List.foldl_cons, ih]
    by_cases later : name ∈ rest ∧ given name = true
    · rw [if_pos later, if_pos ⟨List.mem_cons_of_mem _ later.1, later.2⟩]
    · rw [if_neg later]
      by_cases isGiven : given first = true
      · rw [if_pos isGiven, VectorAttribute.replace, Map.lookup_insert_eq]
        by_cases same : name = first
        · subst same
          rw [if_pos rfl, if_pos ⟨List.mem_cons_self, isGiven⟩]
        · rw [if_neg same, if_neg]
          rintro ⟨member, given⟩
          exact later ⟨(List.mem_cons.1 member).resolve_left same, given⟩
      · rw [if_neg isGiven, if_neg]
        rintro ⟨member, given⟩
        rcases List.mem_cons.1 member with rfl | inRest
        · exact isGiven given
        · exact later ⟨inRest, given⟩

theorem lookup_pciAttribute (pci : PCIDevice) (name : String) :
    (pciAttribute device pci false "").lookup name =
      if name ∈ checkedAttributes ∧ pci.attrs.vectorValue name ≠ "" then some (pci.attrs.vectorValue name)
      else if name ∈ copiedAttributes then some (pci.attrs.vectorValue name)
      else if name = "PREV_ADDRESS" then none
      else device.lookup name := by
  have checked := lookup_foldl_replace checkedAttributes pci.attrs.vectorValue
    fun name => pci.attrs.vectorValue name ≠ ""
  have copied := lookup_foldl_replace copiedAttributes pci.attrs.vectorValue fun _ => true
  simp only [decide_eq_true_eq, and_true, if_true] at checked copied
  simp only [pciAttribute, ne_eq, not_true_eq_false, false_and, if_false, Bool.false_eq_true]
  rw [checked, copied, VectorAttribute.remove, Map.lookup_erase_eq]

end

theorem pciAttribute_same_iff {pci : PCIDevice} (noPrevious : device.lookup "PREV_ADDRESS" = none) :
    SameAttributes (pciAttribute device pci false "") device ↔ Carries pci device := by
  constructor
  · intro same
    refine ⟨fun name copied => ?_, fun name checked given => ?_⟩
    · rw [← same name, lookup_pciAttribute, if_pos copied, ite_self]
    · rw [← same name, lookup_pciAttribute, if_pos ⟨checked, given⟩]
  · rintro ⟨copied, checked⟩ name
    rw [lookup_pciAttribute]
    split
    · rename_i given
      exact (checked name given.1 given.2).symm
    · split
      · rename_i isCopied
        exact (copied name isCopied).symm
      · split
        · rename_i isPrevious
          rw [isPrevious, noPrevious]
        · rfl

section

variable (address : String)

/-- The text in the variable after an entry -/
def heldAddress (device : VectorAttribute) : String :=
  (device.lookup "PREV_ADDRESS").getD address

def Frames (devs : List VectorAttribute) : Prop :=
  (revert ⟨devices, []⟩ address devs).1 = ⟨devices, []⟩ ∧
    List.Forall₂ SameAttributes (revert ⟨devices, []⟩ address devs).2 (devs.map (reverted devices))

/-- An entry is left to itself: the address that it names is that of a device, and when it names
none, so did the entries before it, or it has what the last of them was given. -/
def Apart (device : VectorAttribute) : Prop :=
  match device.lookup "PREV_ADDRESS" with
  | some own => own = "" ∨ own ∈ devices
  | none => address = "" ∨ ∃ pci, devices.lookup address = some pci ∧ Carries pci device

def revertEntry (device : VectorAttribute) : Option VectorAttribute :=
  if heldAddress address device = "" then some device
  else (devices.lookup (heldAddress address device)).map fun pci => pciAttribute device pci false ""

theorem revert_cons (host : HostSharePCI) (address : String) (device : VectorAttribute)
    (devs : List VectorAttribute) : revert host address (device :: devs) =
      match revertEntry host.devices address device with
      | some after => (revert host (heldAddress address device) devs).map id (after :: ·)
      | none =>
        (revert { host with nulls := heldAddress address device :: host.nulls }
          (heldAddress address device) devs).map id (device :: ·) := by
  by_cases empty : heldAddress address device = ""
  · have isEmpty : (device.lookup "PREV_ADDRESS").getD address = "" := empty
    simp only [revert, revertEntry, empty, isEmpty, if_true]
    rfl
  · have notEmpty : ¬(device.lookup "PREV_ADDRESS").getD address = "" := empty
    rw [revert, revertEntry, if_neg empty]
    simp only [if_neg notEmpty]
    cases found : host.devices.lookup (heldAddress address device) with
    | none =>
      have isFound : host.devices.lookup ((device.lookup "PREV_ADDRESS").getD address) = none := found
      simp only [isFound, Option.map_none]
      rfl
    | some pci =>
      have isFound : host.devices.lookup ((device.lookup "PREV_ADDRESS").getD address) = some pci := found
      simp only [isFound, Option.map_some]
      rfl

theorem revert_nulls_le (host : HostSharePCI) (address : String) (devs : List VectorAttribute) :
    host.nulls.length ≤ (revert host address devs).1.nulls.length := by
  induction devs generalizing host address with
  | nil => exact le_refl _
  | cons device rest ih =>
    rw [revert_cons]
    split
    · exact ih host _
    · exact (Nat.le_succ _).trans (ih { host with nulls := _ :: host.nulls } _)

theorem frames_cons_iff (device : VectorAttribute)
    (devs : List VectorAttribute) : Frames devices address (device :: devs) ↔
      (∃ after, revertEntry devices address device = some after ∧ SameAttributes after (reverted devices device)) ∧
      Frames devices (heldAddress address device) devs := by
  rw [Frames, revert_cons]
  cases entry : revertEntry devices address device with
  | some after =>
    simp only [Prod.map_fst, id_eq, Prod.map_snd, List.map_cons, List.forall₂_cons, Option.some.injEq,
      exists_eq_left']
    exact and_left_comm
  | none =>
    have longer := revert_nulls_le ⟨devices, [heldAddress address device]⟩ (heldAddress address device) devs
    simp only [reduceCtorEq, false_and, exists_false, iff_false]
    rintro ⟨same, -⟩
    rw [Prod.map_fst, id_eq] at same
    rw [same] at longer
    exact absurd longer (by simp)

theorem revertEntry_iff (device : VectorAttribute) :
    (∃ after, revertEntry devices address device = some after ∧
        SameAttributes after (reverted devices device)) ↔ Apart devices address device := by
  rw [revertEntry, Apart, heldAddress, reverted, prevDevice, VectorAttribute.vectorValue]
  cases named : device.lookup "PREV_ADDRESS" with
  | some own =>
    simp only [Option.getD_some]
    by_cases empty : own = ""
    · simp [empty, SameAttributes.refl]
    · cases found : devices.lookup own with
      | some pci =>
        have isDevice : own ∈ devices := AList.lookup_isSome.1 (by simp [found])
        simp [empty, isDevice, SameAttributes.refl]
      | none =>
        have notDevice : own ∉ devices := AList.lookup_eq_none.1 found
        simp [empty, notDevice]
  | none =>
    simp only [Option.getD_none, if_true, Option.elim_none]
    by_cases empty : address = ""
    · simp [empty, SameAttributes.refl]
    · cases found : devices.lookup address with
      | some pci => simp [empty, pciAttribute_same_iff named]
      | none => simp [empty]

/-- The loop keeps the table, and rewrites the entries that name a device of it and no others,
when and only when every entry is left to itself. -/
theorem revert_frame_from (devs : List VectorAttribute) :
    Frames devices address devs ↔ ∀ before device after, devs = before ++ device :: after →
        Apart devices (before.foldl heldAddress address) device := by
  induction devs generalizing address with
  | nil => simp [Frames, revert]
  | cons first rest ih =>
    rw [frames_cons_iff, revertEntry_iff, ih]
    constructor
    · rintro ⟨isApart, others⟩ before device after split
      cases before with
      | nil =>
        obtain ⟨rfl, rfl⟩ := List.cons.inj split
        exact isApart
      | cons head before =>
        obtain ⟨rfl, isRest⟩ := List.cons.inj split
        exact others before device after isRest
    · intro all
      exact ⟨all [] first rest rfl, fun before device after split =>
        all (first :: before) device after (congrArg (first :: ·) split)⟩

end

end

theorem revert_frame (devices : PciDevices) (devs : List VectorAttribute) :
    ((revert ⟨devices, []⟩ "" devs).1 = ⟨devices, []⟩ ∧
        List.Forall₂ SameAttributes (revert ⟨devices, []⟩ "" devs).2 (devs.map (reverted devices))) ↔
      ∀ before device after, devs = before ++ device :: after → Apart devices (before.foldl heldAddress "") device :=
  revert_frame_from devices "" devs

/-- A host with one device, and the entries of a virtual machine that had it and got another one
afterwards -/
def oneDevice : PciDevices :=
  AList.insert "0000:00:01:0" ⟨0, 0, 0, -1, "0000:00:01:0", AList.insert "ADDRESS" "0000:00:01:0" ∅⟩ ∅

def migratedEntries : List VectorAttribute :=
  [AList.insert "PREV_ADDRESS" "0000:00:01:0" (AList.insert "ADDRESS" "0000:00:02:0" ∅),
    AList.insert "ADDRESS" "0000:00:03:0" ∅]

/-- The entry that was attached later gets the address of the device of the other one. -/
theorem revert_frame_leak : ¬∀ (devices : PciDevices) (devs : List VectorAttribute),
      (revert ⟨devices, []⟩ "" devs).1 = ⟨devices, []⟩ ∧
        List.Forall₂ SameAttributes (revert ⟨devices, []⟩ "" devs).2 (devs.map (reverted devices)) := by
  intro always
  obtain ⟨-, same⟩ := always oneDevice migratedEntries
  have second := (List.forall₂_iff_get.mp same).2 1 (by decide) (by decide) "ADDRESS"
  revert second
  decide

end OpenNebula.Host
