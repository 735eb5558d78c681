import OpenNebula.Network.AddressRangePool

namespace OpenNebula.Network

open Common
open Library
open AddressRange (Address)

/-! # Leases lie in their range

Addresses enter the map of a range one by one or in blocks.  Those that are found by
a search lie in the range, provided the search starts there: an update can leave
`next` behind the end.  A block that starts at a given address lies in the range only
if it is short enough, which nothing checks.
-/

def AddressRange.InRange (ar : AddressRange) : Prop := ∀ index ∈ ar.allocated, index < ar.size

def AddressRangePool.InRange (pool : AddressRangePool) : Prop :=
  ∀ id ar, pool.arPool.lookup id = some ar → ar.InRange

def Networks.InRange (networks : Networks) : Prop :=
  ∀ vid pool, networks.lookup vid = some pool → pool.InRange

def AddressRange.LooksInside (ar : AddressRange) : Prop :=
  match ar.manager with
  | .internal next => next < ar.size ∨ ar.arSize = 0
  | .ipam => True

/-- A block from the address on that is free and that the manager gives away ends in the
range, or its end does not fit 32 bits and it is empty. -/
def AddressRange.ReservesInside (env : Environment) (ar : AddressRange) (address : Address) (rsize : Nat) : Prop :=
  ∀ sindex ∈ ar.isValid env address false, ar.takeAddr env sindex rsize = true →
    (∀ index ∈ AddressRange.indexBlock sindex rsize, index ∉ ar.allocated) →
    sindex + rsize ≤ ar.size ∨ 2 ^ 32 ≤ sindex + rsize

/-- The walk over the ranges only comes to such ones. -/
def AddressRangePool.Visits {α : Type} (good : AddressRange → Prop)
    (operation : AddressRange → AddressRange × Option α) : List Nat → AddressRangePool → Prop
  | [], _ => True
  | id :: rest, pool =>
    (∀ ar ∈ pool.arPool.lookup id, good ar) ∧
      ((pool.onRange operation id).2.isNone → Visits good operation rest (pool.onRange operation id).1)

def AddressRangePool.Reserves (env : Environment) (pool : AddressRangePool) (choice : Choice)
    (vid : Int) (rsize : Nat) (rar : AddressRange) : Prop :=
  match choice with
  | .any id =>
    rsize = 1 → AddressRangePool.Visits (fun ar => ar.getFreeAddr < 1 ∨ ar.LooksInside)
      (AddressRangePool.reserveOf env vid rsize rar) (id.elim pool.ids fun id => [id]) pool
  | .starting id address => ∀ ar ∈ pool.arPool.lookup id, ar.ReservesInside env address rsize

/-- Searches start in the range and blocks end there. -/
def NetworkEvent.Inside (networks : Networks) : NetworkEvent → Prop
  | .allocateAddr env vid ot obid inherit nic => ∀ pool ∈ networks.lookup vid,
      AddressRangePool.Visits (fun ar => ar.size ≤ ar.getUsedAddr ∨ ar.LooksInside)
        (fun ar => ar.allocateAddr env ot obid inherit nic) pool.ids pool
  | .reserve env pid rid choice rsize => ∀ rvn ∈ networks.lookup rid,
      ∀ pvn ∈ (networks.insert rid rvn.allocateAr.1).lookup pid, pvn.Reserves env choice rid rsize rvn.allocateAr.2
  | _ => True

instance (ar : AddressRange) : Decidable ar.LooksInside := by
  unfold AddressRange.LooksInside
  cases ar.manager <;> infer_instance

instance (env : Environment) (ar : AddressRange) (address : Address) (rsize : Nat) :
    Decidable (ar.ReservesInside env address rsize) :=
  inferInstanceAs (Decidable (∀ sindex ∈ ar.isValid env address false, _))

instance AddressRangePool.decidableVisits {α : Type} (good : AddressRange → Prop)
    [DecidablePred good] (operation : AddressRange → AddressRange × Option α) :
    (ids : List Nat) → (pool : AddressRangePool) → Decidable (Visits good operation ids pool)
  | [], _ => isTrue trivial
  | id :: rest, pool =>
    let _ := decidableVisits good operation rest (pool.onRange operation id).1
    inferInstanceAs (Decidable (_ ∧ (_ → _)))

instance (env : Environment) (pool : AddressRangePool) (vid : Int) (rsize : Nat)
    (rar : AddressRange) : (choice : Choice) → Decidable (pool.Reserves env choice vid rsize rar)
  | .any _ => inferInstanceAs (Decidable (_ → AddressRangePool.Visits _ _ _ _))
  | .starting id _ => inferInstanceAs (Decidable (∀ ar ∈ pool.arPool.lookup id, _))

instance (networks : Networks) : (event : NetworkEvent) → Decidable (event.Inside networks)
  | .allocateAddr _ vid .. => inferInstanceAs (Decidable (∀ pool ∈ networks.lookup vid, _))
  | .reserve _ _ rid .. => inferInstanceAs (Decidable (∀ rvn ∈ networks.lookup rid, _))
  | .create _ | .addAr .. | .updateAr .. | .rmAr .. | .rmArs .. | .allocateBy .. | .hold ..
  | .freeAddr .. | .freeAddrByOwner .. | .freeAddrByRange .. => isTrue trivial

namespace AddressRange

variable {env : Environment} {ar : AddressRange} {allocated : Map Nat Nat}

theorem singleLoop_found {arSize count next index : Nat} (positive : 0 < arSize)
    (found : (singleLoop allocated arSize count next).1 = some index) : index = next ∨ index < arSize := by
  induction count generalizing next with
  | zero => simp [singleLoop] at found
  | succ count ih =>
    simp only [singleLoop] at found
    split at found
    · rcases ih found with same | inside
      · exact .inr (same ▸ Nat.mod_lt _ positive)
      · exact .inr inside
    · exact .inl (Option.some.inj found).symm

theorem freeRun_found {arSize rsize index last : Nat} (inside : index ≤ arSize)
    (found : freeRun allocated arSize rsize index = (last, true)) : last = index + rsize ∧ last ≤ arSize := by
  induction rsize generalizing index with
  | zero =>
    simp only [freeRun, Prod.mk.injEq, and_true] at found
    exact ⟨found.symm, found ▸ inside⟩
  | succ rsize ih =>
    simp only [freeRun] at found
    split at found
    · simp at found
    · rename_i isFree
      obtain ⟨same, fits⟩ := ih (by omega) found
      exact ⟨by omega, fits⟩

theorem rangeLoop_found {arSize rsize turns start index : Nat}
    (found : rangeLoop allocated arSize rsize turns start = some (some index)) : index + rsize ≤ arSize := by
  induction turns generalizing start with
  | zero => simp [rangeLoop] at found
  | succ turns ih =>
    simp only [rangeLoop] at found
    split at found
    · cases found
    · split at found
      · exact ih found
      · split at found
        · rename_i inside _ last ran
          obtain ⟨same, fits⟩ := freeRun_found (by omega) ran
          have isIndex : last - rsize = index := Option.some.inj (Option.some.inj found)
          omega
        · exact ih found

theorem arSize_le (ar : AddressRange) : ar.arSize ≤ ar.size := Nat.mod_le _ _

theorem mem_wrappedBlock {first rsize index : Nat} :
    index ∈ wrappedBlock first rsize ↔ ∃ offset < rsize, (first + offset) % 2 ^ 32 = index := by
  simp [wrappedBlock]

theorem isValidIndex_found {difference index : Nat} {checkFree : Bool}
    (found : ar.isValidIndex difference checkFree = some index) : index < ar.size ∧ index < 2 ^ 32 := by
  simp only [isValidIndex] at found
  split at found
  · cases found
  · rename_i checked
    have same : difference % 2 ^ 32 = index := Option.some.inj found
    omega

theorem isValid_found (address : Address) {index : Nat} {checkFree : Bool}
    (found : ar.isValid env address checkFree = some index) : index < ar.size ∧ index < 2 ^ 32 := by
  cases address with
  | mac text =>
    simp only [isValid, isValidMac] at found
    split at found
    · cases found
    · split at found
      · cases found
      · exact isValidIndex_found found
  | ip text =>
    simp only [isValid, isValidIp] at found
    split at found
    · cases found
    · split at found
      · cases found
      · split at found
        · cases found
        · exact isValidIndex_found found
  | ip6 text =>
    simp only [isValid, isValidIp6] at found
    split at found
    · cases found
    · split at found
      · cases found
      · split at found
        · cases found
        · exact isValidIndex_found found

theorem wrappedBlock_inside {first rsize size index : Nat} (fits : first + rsize ≤ size)
    (member : index ∈ wrappedBlock first rsize) : index < size := by
  obtain ⟨offset, small, isOffset⟩ := mem_wrappedBlock.1 member
  have smaller : index ≤ first + offset := isOffset ▸ Nat.mod_le _ _
  omega

theorem getAddr_found {rsize index : Nat} (looks : rsize = 1 → ar.LooksInside)
    (found : (ar.getAddr env rsize).2 = some index) :
    (0 < rsize → index < ar.size) ∧ ∀ i ∈ wrappedBlock index rsize, i < ar.size := by
  have bounded := arSize_le ar
  simp only [getAddr] at found
  split at found
  · rename_i next isManager
    have fits : index + rsize ≤ ar.size := by
      split at found
      · rename_i one
        have starts := looks one
        simp only [LooksInside, isManager] at starts
        have positive : 0 < ar.arSize := by
          refine Nat.pos_of_ne_zero fun empty => ?_
          simp [empty, singleLoop] at found
        have inside := singleLoop_found positive found
        omega
      · exact Nat.le_trans (rangeLoop_found (Option.join_eq_some_iff.1 found)) bounded
    exact ⟨by omega, fun i => wrappedBlock_inside fits⟩
  · split at found
    · cases found
    · rename_i first answered
      split at found
      · cases found
      · rename_i checked
        obtain rfl : first = index := Option.some.inj found
        obtain ⟨ip, -, isValid⟩ := Option.bind_eq_some_iff.1 answered
        have inside := (isValid_found (.ip ip) isValid).1
        refine ⟨fun _ => inside, fun i member => ?_⟩
        by_contra outside
        rw [List.any_eq_true] at checked
        exact checked ⟨i, member, by simp only [decide_eq_true_eq]; omega⟩

theorem getAddr_keeps (env : Environment) (ar : AddressRange) (rsize : Nat) :
    (ar.getAddr env rsize).1.allocated = ar.allocated ∧ (ar.getAddr env rsize).1.size = ar.size := by
  simp only [getAddr]
  split
  · split <;> exact ⟨rfl, rfl⟩
  · split
    · exact ⟨rfl, rfl⟩
    · split <;> exact ⟨rfl, rfl⟩

theorem lt_of_mem_indexBlock {sindex rsize index size : Nat} (small : sindex < 2 ^ 32)
    (short : rsize < 2 ^ 32) (fits : sindex + rsize ≤ size ∨ 2 ^ 32 ≤ sindex + rsize)
    (member : index ∈ indexBlock sindex rsize) : index < size := by
  rw [indexBlock, List.mem_range'_1] at member
  omega

theorem InRange.of_subset {before after : AddressRange} (inside : before.InRange)
    (fewer : ∀ index ∈ after.allocated, index ∈ before.allocated) (same : after.size = before.size) : after.InRange :=
  fun index member => same ▸ inside index (fewer index member)

theorem InRange.setAllocatedAddr (inside : ar.InRange) {index : Nat} (fits : index < ar.size)
    (ot : ObjectType) (obid : Int) : (ar.setAllocatedAddr ot obid index).InRange := by
  intro other member
  rcases Map.mem_insertNew.1 member with same | old
  · exact same ▸ fits
  · exact inside other old

theorem InRange.setAllocatedBlock (ot : ObjectType) (obid : Int) {block : List Nat}
    (inside : ar.InRange) (fits : ∀ index ∈ block, index < ar.size) :
    (ar.setAllocatedBlock ot obid block).InRange := by
  induction block generalizing ar with
  | nil => exact inside
  | cons index rest ih =>
    exact ih (inside.setAllocatedAddr (fits index List.mem_cons_self) ot obid)
      fun other member => fits other (List.mem_cons_of_mem _ member)

section

variable (inside : ar.InRange)
include inside

theorem InRange.getAddr (env : Environment) (rsize : Nat) : (ar.getAddr env rsize).1.InRange := by
  obtain ⟨sameLeases, sameSize⟩ := getAddr_keeps env ar rsize
  exact inside.of_subset (fun index member => sameLeases ▸ member) sameSize

theorem InRange.allocateAddr (ot : ObjectType) (obid : Int) (inherit : List String) (nic : VectorAttribute)
    (looks : ar.size ≤ ar.getUsedAddr ∨ ar.LooksInside) : (ar.allocateAddr env ot obid inherit nic).1.InRange := by
  simp only [AddressRange.allocateAddr]
  split
  · exact inside
  · rename_i hasFree
    have kept := inside.getAddr env 1
    have sameSize := (getAddr_keeps env ar 1).2
    have found := @getAddr_found env ar 1
    split
    · rename_i isResult
      rw [isResult] at kept
      exact kept
    · rename_i isResult
      rw [isResult] at kept sameSize found
      have fits := found (fun _ => looks.resolve_left hasFree) rfl
      exact kept.setAllocatedAddr (sameSize ▸ fits.1 (by decide)) ot obid

theorem InRange.allocateBy (address : Address) (ot : ObjectType) (obid : Int)
    (inherit : List String) (nic : VectorAttribute) : (ar.allocateBy env address ot obid inherit nic).1.InRange := by
  simp only [AddressRange.allocateBy]
  split
  · exact inside
  · rename_i index found
    split
    · exact inside.setAllocatedAddr (isValid_found address found).1 ot obid
    · exact inside

theorem InRange.holdBy (address : Address) : (ar.holdBy env address).1.InRange := by
  simp only [AddressRange.holdBy]
  split
  · exact inside
  · rename_i index found
    split
    · exact inside.setAllocatedAddr (isValid_found address found).1 .vm (-1)
    · exact inside

theorem InRange.freeAddr (address : Address) (ot : ObjectType) (obid : Int) :
    (ar.freeAddr env address ot obid).1.InRange := by
  simp only [AddressRange.freeAddr]
  split
  · exact inside
  · rename_i index found
    split
    · simp only [freeAllocatedAddr]
      split
      · exact inside.of_subset (fun other member => (AList.mem_erase.1 member).2) rfl
      · exact inside
    · exact inside

theorem InRange.filter (keep : Nat → Nat → Bool) :
    (allocatedToAttr { ar with allocated := ar.allocated.filter keep }).InRange := by
  refine inside.of_subset (fun index member => ?_) rfl
  rw [← AList.lookup_isSome] at member ⊢
  exact Option.isSome_of_isSome_filter _ _ (Map.lookup_filter keep ar.allocated index ▸ member)

theorem InRange.freeAddrByRange (ot : ObjectType) (obid : Int) (mac : String)
    (rsize : Nat) : (ar.freeAddrByRange env ot obid mac rsize).1.InRange := by
  simp only [AddressRange.freeAddrByRange]
  split
  · exact inside
  · split
    · exact inside.filter _
    · exact inside

theorem InRange.reserveAddr (vid : Int) (rsize : Nat) (rar : AddressRange)
    (looks : rsize = 1 → ar.getFreeAddr < 1 ∨ ar.LooksInside) : (ar.reserveAddr env vid rsize rar).1.InRange := by
  simp only [AddressRange.reserveAddr]
  split
  · exact inside
  · rename_i hasFree
    have kept := inside.getAddr env rsize
    have sameSize := (getAddr_keeps env ar rsize).2
    have found := @getAddr_found env ar rsize
    split
    · rename_i isResult
      rw [isResult] at kept
      exact kept
    · rename_i isResult
      rw [isResult] at kept sameSize found
      have fits := (found (fun one => (looks one).resolve_left (by omega)) rfl).2
      exact kept.setAllocatedBlock .net vid (fun index member => sameSize ▸ fits index member)

theorem InRange.reserveAddrBy (address : Address) (vid : Int) {rsize : Nat}
    (rar : AddressRange) (short : rsize < 2 ^ 32) (fits : ar.ReservesInside env address rsize) :
    (ar.reserveAddrBy env address vid rsize rar).1.InRange := by
  simp only [AddressRange.reserveAddrBy]
  split
  · exact inside
  · rename_i sindex found
    have small := (isValid_found address found).2
    simp only [reserveAddrByIndex]
    split
    · exact inside
    · rename_i isFree
      split
      · exact inside
      · rename_i taken
        have ends := fits sindex found (by simpa using taken) fun index member inUse =>
          isFree (List.any_eq_true.2 ⟨index, member, decide_eq_true inUse⟩)
        exact inside.setAllocatedBlock .net vid fun index => lt_of_mem_indexBlock small short ends

end

theorem holdsLeases_inside {size : Nat} (holds : ar.holdsLeases size = true) :
    ∀ index ∈ ar.allocated, index < size := by
  intro index member
  obtain ⟨owner, isOwner⟩ := Option.isSome_iff_exists.1 (AList.lookup_isSome.2 member)
  have listed := Map.mem_entries_iff.2 isOwner
  simp only [holdsLeases] at holds
  split at holds
  · rw [List.isEmpty_iff.1 holds] at listed
    exact absurd listed List.not_mem_nil
  · have below : index ≤ (size - 1) % 2 ^ 32 := of_decide_eq_true (List.all_eq_true.1 holds _ listed)
    have small := Nat.mod_le (size - 1) (2 ^ 32)
    omega

theorem newSize_inside (inside : ar.InRange) {vup : VectorAttribute} {size : Nat}
    (accepted : ar.newSize vup = .ok size) : ∀ index ∈ ar.allocated, index < size := by
  simp only [newSize] at accepted
  split at accepted
  · exact Except.ok.inj accepted ▸ inside
  · split at accepted
    · cases accepted
    · split at accepted
      · cases accepted
      · split at accepted
        · rename_i holds
          exact Except.ok.inj accepted ▸ holdsLeases_inside holds
        · cases accepted

/-- The leases and the manager are the same. -/
def Kept (before after : AddressRange) : Prop :=
  after.allocated = before.allocated ∧ after.manager = before.manager

theorem updatePrefixes_keeps (env : Environment) (ar : AddressRange) (vup : VectorAttribute) :
    Kept ar (ar.updatePrefixes env vup).1 ∧ (ar.updatePrefixes env vup).1.size = ar.size := by
  simp only [updatePrefixes]
  split
  · exact ⟨⟨rfl, rfl⟩, rfl⟩
  · split
    · exact ⟨⟨rfl, rfl⟩, rfl⟩
    · split <;> exact ⟨⟨rfl, rfl⟩, rfl⟩

theorem InRange.updateAttributes (inside : ar.InRange) (vup : VectorAttribute)
    (keepRestricted : Bool) : (ar.updateAttributes env vup keepRestricted).1.InRange := by
  have stillInside : ∀ vup, (ar.updatePrefixes env vup).1.InRange := by
    intro vup
    obtain ⟨⟨sameLeases, -⟩, sameSize⟩ := updatePrefixes_keeps env ar vup
    exact inside.of_subset (fun index member => sameLeases ▸ member) sameSize
  have atPrefixes := stillInside (ar.keepAttributes env keepRestricted vup)
  simp only [AddressRange.updateAttributes]
  split
  · rename_i isResult
    rw [isResult] at atPrefixes
    exact atPrefixes
  · rename_i isResult
    rw [isResult] at atPrefixes
    split
    · exact atPrefixes
    · rename_i size accepted
      exact newSize_inside atPrefixes accepted

theorem andThen_keeps {first : AddressRange × Option String}
    {second : AddressRange → AddressRange × Option String} (kept : Kept ar first.1)
    (keeps : ∀ middle : AddressRange, Kept middle (second middle).1) : Kept ar (andThen first second).1 := by
  obtain ⟨middle, outcome⟩ := first
  cases outcome with
  | none => exact ⟨(keeps middle).1.trans kept.1, (keeps middle).2.trans kept.2⟩
  | some message => exact kept

theorem fromAttr_keeps (env : Environment) (ar : AddressRange) (attr : VectorAttribute) :
    Kept ar (ar.fromAttr env attr).1 := by
  have ipv4 : ∀ ar : AddressRange, Kept ar ar.initIpv4.1 := by
    intro ar
    simp only [initIpv4]
    split
    · exact ⟨rfl, rfl⟩
    · split <;> exact ⟨rfl, rfl⟩
  have ipv6 : ∀ ar : AddressRange, Kept ar (ar.initIpv6 env).1 := by
    intro ar
    simp only [initIpv6]
    split
    · exact ⟨rfl, rfl⟩
    · split
      · exact ⟨rfl, rfl⟩
      · split <;> exact ⟨rfl, rfl⟩
  have ipv6Static : ∀ ar : AddressRange, Kept ar (ar.initIpv6Static env).1 := by
    intro ar
    simp only [initIpv6Static]
    split
    · exact ⟨rfl, rfl⟩
    · split
      · exact ⟨rfl, rfl⟩
      · split
        · exact ⟨rfl, rfl⟩
        · split <;> exact ⟨rfl, rfl⟩
  have mac : ∀ ar : AddressRange, Kept ar (ar.initMac env).1 := by
    intro ar
    simp only [initMac]
    split <;> exact ⟨rfl, rfl⟩
  have size : ∀ ar : AddressRange, Kept ar ar.initSize.1 := by
    intro ar
    simp only [initSize]
    split <;> exact ⟨rfl, rfl⟩
  simp only [fromAttr]
  split
  · exact ⟨rfl, rfl⟩
  · refine andThen_keeps (ipv4 _) fun ar => andThen_keeps (ipv6 ar) fun ar => ?_
    exact andThen_keeps (ipv6Static ar) fun ar => andThen_keeps (mac ar) size

theorem fromVattr_keeps (env : Environment) (ar : AddressRange) (attr : VectorAttribute) :
    Kept ar (ar.fromVattr env attr).1 := by
  simp only [fromVattr]
  split
  · exact fromAttr_keeps env ar attr
  · split
    · exact ⟨rfl, rfl⟩
    · exact fromAttr_keeps env ar _

theorem InRange.of_unused (unused : ar.allocated = ∅) : ar.InRange := by
  intro index member
  rw [unused] at member
  exact absurd member (AList.notMem_empty index)

end AddressRange

theorem AddressRange.reservedRange_keeps (env : Environment) (ar : AddressRange)
    (first rsize : Nat) (rar : AddressRange) : Kept rar (ar.reservedRange env first rsize rar) :=
  AddressRange.fromVattr_keeps env rar _

namespace AddressRangePool

variable {α : Type} {pool : AddressRangePool} {operation : AddressRange → AddressRange × Option α}

theorem InRange.store (inside : pool.InRange) {id : Nat} {ar : AddressRange}
    (isInside : ar.InRange) : (pool.store id ar).InRange := by
  intro other found stored
  simp only [AddressRangePool.store, Map.lookup_insert_eq] at stored
  split at stored
  · exact Option.some.inj stored ▸ isInside
  · exact inside other found stored

theorem InRange.onRange (inside : pool.InRange) {id : Nat}
    (kept : ∀ ar, pool.arPool.lookup id = some ar → ar.InRange → (operation ar).1.InRange) :
    (pool.onRange operation id).1.InRange := by
  simp only [AddressRangePool.onRange]
  split
  · exact inside
  · rename_i ar found
    exact inside.store (kept ar found (inside id ar found))

theorem InRange.firstRange {good : AddressRange → Prop}
    (kept : ∀ ar, good ar → ar.InRange → (operation ar).1.InRange) {ids : List Nat}
    (inside : pool.InRange) (visits : Visits good operation ids pool) :
    (firstRange operation ids pool).1.InRange := by
  induction ids generalizing pool with
  | nil => exact inside
  | cons id rest ih =>
    obtain ⟨isGood, further⟩ := visits
    have next : (pool.onRange operation id).1.InRange := inside.onRange fun ar found => kept ar (isGood ar found)
    simp only [AddressRangePool.firstRange]
    split
    · rename_i isResult
      rw [isResult] at next
      exact next
    · rename_i isResult
      rw [isResult] at next further
      exact ih next (further rfl)

theorem visits_all {ids : List Nat} : Visits (fun _ => True) operation ids pool := by
  induction ids generalizing pool with
  | nil => trivial
  | cons id rest ih => exact ⟨fun _ _ => trivial, fun _ => ih⟩

theorem InRange.everyRange {count : AddressRangePool → α → AddressRangePool} {ids : List Nat}
    (inside : pool.InRange) (kept : ∀ ar : AddressRange, ar.InRange → (operation ar).1.InRange)
    (counts : ∀ pool result, (count pool result).arPool = pool.arPool) : (everyRange operation count ids pool).InRange := by
  induction ids generalizing pool with
  | nil => exact inside
  | cons id rest ih =>
    have next : (pool.onRange operation id).1.InRange := inside.onRange fun ar _ => kept ar
    simp only [AddressRangePool.everyRange]
    split
    · rename_i middle result isResult
      rw [isResult] at next
      exact ih fun other ar found => next other ar (counts middle result ▸ found)
    · rename_i isResult
      rw [isResult] at next
      exact ih next

theorem countFreed_arPool (pool : AddressRangePool) (count : Nat) :
    (pool.countFreed count).arPool = pool.arPool := rfl

theorem InRange.counted {used : Nat} {outcome : AddressRangePool × Option α}
    (inside : outcome.1.InRange) : (counted used outcome).1.InRange := by
  obtain ⟨pool, result⟩ := outcome
  cases result with
  | none | some result => exact inside

theorem InRange.erase (inside : pool.InRange) (id : Nat) : InRange { pool with arPool := pool.arPool.erase id } := by
  intro other ar stored
  rw [Map.lookup_erase_eq] at stored
  split at stored
  · cases stored
  · exact inside other ar stored

theorem InRange.rmAr (inside : pool.InRange) (env : Environment) (id : Nat) (force : Bool) :
    (pool.rmAr env id force).InRange := by
  simp only [AddressRangePool.rmAr]
  split
  · exact inside
  · split
    · exact inside
    · split
      · exact inside
      · exact inside.erase id

theorem InRange.rmArs (env : Environment) {ids : List Nat} (inside : pool.InRange) :
    (rmArs env ids pool).InRange := by
  induction ids generalizing pool with
  | nil => exact inside
  | cons id rest ih =>
    simp only [AddressRangePool.rmArs]
    split
    · exact ih inside
    · split
      · exact inside
      · exact ih (inside.erase id)

theorem newRange_allocated (ipamMad : String) (id : Nat) : (newRange ipamMad id).allocated = ∅ := by
  simp only [newRange]
  split <;> rfl

section

variable (inside : pool.InRange)
include inside

section

variable (env : Environment)
include env

theorem InRange.fromVattr (attr : VectorAttribute) : (pool.fromVattr env attr).InRange := by
  have kept := (AddressRange.fromVattr_keeps env (newRange (attr.vectorValue "IPAM_MAD") pool.nextAr) attr).1
  rw [newRange_allocated] at kept
  simp only [AddressRangePool.fromVattr]
  split
  · exact inside
  · rename_i ar isResult
    rw [isResult] at kept
    intro other found stored
    by_cases same : other = ar.id
    · subst same
      rw [Map.lookup_insertNew_self] at stored
      cases taken : pool.arPool.lookup ar.id with
      | none =>
        rw [taken] at stored
        exact .of_unused (Option.some.inj stored ▸ kept)
      | some held =>
        rw [taken] at stored
        exact Option.some.inj stored ▸ inside ar.id held taken
    · rw [Map.lookup_insertNew_ne same] at stored
      exact inside other found stored

theorem InRange.addAr {ar : AddressRange}
    (unused : ar.allocated = ∅) : (pool.addAr env ar).InRange := by
  intro other found stored
  simp only [AddressRangePool.addAr] at stored
  split at stored
  · exact inside other found stored
  · rw [Map.lookup_insert_eq] at stored
    split at stored
    · exact .of_unused (Option.some.inj stored ▸ unused)
    · exact inside other found stored

theorem InRange.updateAr (ars : List VectorAttribute)
    (keepRestricted : Bool) : (pool.updateAr env ars keepRestricted).InRange := by
  simp only [AddressRangePool.updateAr]
  split
  · exact inside
  · split
    · exact inside
    · exact inside.onRange fun ar _ isInside => isInside.updateAttributes _ _

theorem InRange.holdBy (id : Option Nat)
    (address : Address) : (pool.holdBy env id address).InRange := by
  cases id with
  | some id => exact .counted (inside.onRange fun ar _ isInside => isInside.holdBy address)
  | none =>
    rw [AddressRangePool.holdBy]
    exact inside.everyRange (fun ar isInside => isInside.holdBy address) fun _ _ => rfl

theorem InRange.freeAddr (id : Option Nat) (address : Address) (ot : ObjectType) (obid : Int) :
    (pool.freeAddr env id address ot obid).InRange := by
  rw [AddressRangePool.freeAddr]
  exact inside.everyRange (fun ar isInside => isInside.freeAddr address ot obid)
    fun pool _ => pool.countFreed_arPool 1

theorem InRange.freeAddrByOwner (ot : ObjectType)
    (obid : Int) : (pool.freeAddrByOwner env ot obid).InRange := by
  rw [AddressRangePool.freeAddrByOwner]
  exact inside.everyRange (fun ar isInside => isInside.filter _) countFreed_arPool

theorem InRange.freeAddrByRange (id : Nat)
    (ot : ObjectType) (obid : Int) (mac : String) (rsize : Nat) :
    (pool.freeAddrByRange env id ot obid mac rsize).InRange := by
  rw [AddressRangePool.freeAddrByRange]
  exact inside.everyRange (fun ar isInside => isInside.freeAddrByRange ot obid mac rsize)
    countFreed_arPool

end

end

theorem onRange_result {id : Nat} {result : α} (returned : (pool.onRange operation id).2 = some result) :
    ∃ ar, (operation ar).2 = some result := by
  simp only [onRange] at returned
  split at returned
  · cases returned
  · rename_i ar _
    exact ⟨ar, returned⟩

theorem firstRange_result {ids : List Nat} {result : α} (returned : (firstRange operation ids pool).2 = some result) :
    ∃ ar, (operation ar).2 = some result := by
  induction ids generalizing pool with
  | nil => cases returned
  | cons id rest ih =>
    simp only [firstRange] at returned
    split at returned
    · rename_i isResult
      exact onRange_result ((congrArg Prod.snd isResult).trans returned)
    · exact ih returned

theorem counted_result {used : Nat} {outcome : AddressRangePool × Option α} :
    (counted used outcome).2 = outcome.2 := by
  obtain ⟨pool, result⟩ := outcome
  cases result <;> rfl

variable {env : Environment} {choice : Choice} {vid : Int} {rsize : Nat} {rar : AddressRange}

theorem reserve_keeps {made : AddressRange}
    (returned : (pool.reserve env choice vid rsize rar).2 = some made) : rar.Kept made := by
  cases choice with
  | any id =>
    rw [reserve, reserveAddr, counted_result] at returned
    obtain ⟨ar, isResult⟩ := firstRange_result returned
    simp only [reserveOf, AddressRange.reserveAddr] at isResult
    split at isResult
    · split at isResult
      · cases isResult
      · split at isResult
        · cases isResult
        · exact Option.some.inj isResult ▸ AddressRange.reservedRange_keeps _ _ _ _ _
    · cases isResult
  | starting id address =>
    rw [reserve, reserveAddrBy, counted_result] at returned
    obtain ⟨ar, isResult⟩ := onRange_result returned
    simp only [AddressRange.reserveAddrBy, AddressRange.reserveAddrByIndex] at isResult
    split at isResult
    · cases isResult
    · split at isResult
      · cases isResult
      · split at isResult
        · cases isResult
        · exact Option.some.inj isResult ▸ AddressRange.reservedRange_keeps _ _ _ _ _

theorem InRange.reserve (inside : pool.InRange) (short : rsize < 2 ^ 32)
    (reserves : pool.Reserves env choice vid rsize rar) : (pool.reserve env choice vid rsize rar).1.InRange := by
  cases choice with
  | any id =>
    refine .counted ?_
    by_cases one : rsize = 1
    · refine .firstRange (fun ar looks isInside => ?_) inside (reserves one)
      simp only [reserveOf]
      split
      · exact isInside.reserveAddr vid rsize rar fun _ => looks
      · exact isInside
    · refine .firstRange (fun ar _ isInside => ?_) inside visits_all
      simp only [reserveOf]
      split
      · exact isInside.reserveAddr vid rsize rar fun same => absurd same one
      · exact isInside
  | starting id address =>
    exact .counted <| inside.onRange fun ar found isInside =>
      isInside.reserveAddrBy address vid rar short (reserves ar found)

end AddressRangePool

namespace Networks

variable {networks : Networks}

section

variable (inside : networks.InRange)
include inside

theorem InRange.insert {vid : Nat} {pool : AddressRangePool}
    (isInside : pool.InRange) : InRange (networks.insert vid pool) := by
  intro other found stored
  rw [Map.lookup_insert_eq] at stored
  split at stored
  · exact Option.some.inj stored ▸ isInside
  · exact inside other found stored

theorem InRange.onPool {vid : Nat}
    {operation : AddressRangePool → AddressRangePool} {after : Networks}
    (kept : ∀ pool, networks.lookup vid = some pool → pool.InRange → (operation pool).InRange)
    (stepped : networks.onPool vid operation = some after) : after.InRange := by
  obtain ⟨pool, found, rfl⟩ := Option.map_eq_some_iff.1 stepped
  exact inside.insert (kept pool found (inside vid pool found))

theorem InRange.reserve {env : Environment} {pid rid : Nat}
    {choice : Choice} {rsize : Fin (2 ^ 32)}
    (fits : (NetworkEvent.reserve env pid rid choice rsize).Inside networks) :
    (networks.reserve env pid rid choice rsize).InRange := by
  simp only [Networks.reserve]
  split
  · exact inside
  · rename_i rvn isRvn
    have announced : InRange (networks.insert rid rvn.allocateAr.1) :=
      inside.insert (inside rid rvn isRvn : rvn.allocateAr.1.InRange)
    split
    · exact announced
    · rename_i pvn isPvn
      have kept := (announced pid pvn isPvn).reserve rsize.isLt (fits rvn isRvn pvn isPvn)
      have made := @AddressRangePool.reserve_keeps pvn env choice rid rsize rvn.allocateAr.2
      split
      · rename_i isResult
        rw [isResult] at kept
        exact announced.insert kept
      · rename_i after rar isResult
        rw [isResult] at kept made
        have stored : InRange ((networks.insert rid rvn.allocateAr.1).insert pid after) := announced.insert kept
        split
        · exact stored
        · rename_i target isTarget
          have unused := (made rfl).1.trans (AddressRangePool.newRange_allocated _ _)
          exact stored.insert ((stored rid target isTarget).addAr env unused)

theorem step_inRange {event : NetworkEvent} {after : Networks}
    (fits : event.Inside networks) (stepped : networks.step event = some after) : after.InRange := by
  cases event with
  | create vid =>
    simp only [step] at stepped
    split at stepped
    · cases stepped
    · refine Option.some.inj stepped ▸ inside.insert fun id ar found => ?_
      exact absurd found (by simp)
  | addAr env vid attr =>
    exact inside.onPool (fun pool _ isInside => isInside.fromVattr env attr) stepped
  | updateAr env vid ars keepRestricted =>
    exact inside.onPool (fun pool _ isInside => isInside.updateAr env ars keepRestricted) stepped
  | rmAr env vid id force =>
    exact inside.onPool (fun pool _ isInside => isInside.rmAr env id force) stepped
  | rmArs env vid => exact inside.onPool (fun pool _ isInside => isInside.rmArs env) stepped
  | allocateAddr env vid ot obid inherit nic =>
    refine inside.onPool (fun pool found isInside => .counted ?_) stepped
    exact .firstRange (fun ar looks inRange => inRange.allocateAddr ot obid inherit nic looks)
      isInside (fits pool found)
  | allocateBy env vid address ot obid inherit nic =>
    refine inside.onPool (fun pool found isInside => .counted ?_) stepped
    exact .firstRange (fun ar _ inRange => inRange.allocateBy address ot obid inherit nic)
      isInside AddressRangePool.visits_all
  | hold env vid id address =>
    exact inside.onPool (fun pool _ isInside => isInside.holdBy env id address) stepped
  | freeAddr env vid id address ot obid =>
    exact inside.onPool (fun pool _ isInside => isInside.freeAddr env id address ot obid) stepped
  | freeAddrByOwner env vid ot obid =>
    exact inside.onPool (fun pool _ isInside => isInside.freeAddrByOwner env ot obid) stepped
  | freeAddrByRange env vid id ot obid mac rsize =>
    exact inside.onPool
      (fun pool _ isInside => isInside.freeAddrByRange env id ot obid mac rsize) stepped
  | reserve env pid rid choice rsize => exact Option.some.inj stepped ▸ inside.reserve fits

end

/-- In a run where searches start in the range and blocks end there, every index in use is
smaller than the size of its range. -/
theorem lease_range (reached : system.Reachable (fun networks event => event.Inside networks) networks) :
    ∀ vid pool, networks.lookup vid = some pool → ∀ id ar, pool.arPool.lookup id = some ar →
      ∀ index ∈ ar.allocated, index < ar.size := by
  refine @System.Reachable.invariant _ _ _ _ (fun networks => networks.InRange) _ reached ?_ ?_
  · rintro start rfl vid pool found
    exact absurd found (by simp)
  · intro before event after inside fits stepped
    exact step_inRange inside fits stepped

/-- A system without an IPAM driver and without restricted attributes -/
def plainEnvironment : Environment where
  macPrefix := 0x0200
  random := 0
  unset := 0
  inetPton _ := none
  inetNtop _ := ""
  restricted := none
  inheritedAttrs := []
  encrypt := id
  registerAddressRange := some
  unregisterAddressRange _ := true
  allocateAddress _ _ _ := true
  getAddress _ _ := none
  freeAddress _ _ := true

/-- `AR = [ TYPE = "IP4", IP = "10.0.0.1", SIZE = "2" ]` -/
def twoAddresses : VectorAttribute :=
  (((∅ : VectorAttribute).replace "TYPE" "IP4").replace "IP" "10.0.0.1").replace "SIZE" "2"

/-- A virtual machine takes the first address and a reservation the second one. -/
theorem lease_range_both_taken : ∃ networks pool ar,
      system.Reachable (fun networks event => event.Inside networks) networks ∧
        networks.lookup 0 = some pool ∧ pool.arPool.lookup 0 = some ar ∧
        ar.allocated.keys = [1, 0] ∧ ar.size = 2 ∧ ∀ index ∈ ar.allocated, index < ar.size := by
  have ran : ((system.exec (fun networks event => event.Inside networks) ∅
      [.create 0, .addAr plainEnvironment 0 twoAddresses, .create 1, .allocateAddr plainEnvironment 0 .vm 7 [] ∅,
        .reserve plainEnvironment 0 1 (.starting 0 (.ip "10.0.0.2")) 1]).map fun networks =>
        (networks.lookup 0).map fun pool => (pool.arPool.lookup 0).map fun ar =>
          (ar.size, ar.allocated.keys)) = some (some (some (2, [1, 0]))) := by
    decide +kernel
  obtain ⟨networks, isRun, isPool⟩ := Option.map_eq_some_iff.mp ran
  obtain ⟨pool, found, isRange⟩ := Option.map_eq_some_iff.mp isPool
  obtain ⟨ar, stored, isLeases⟩ := Option.map_eq_some_iff.mp isRange
  obtain ⟨isSize, isKeys⟩ := Prod.mk.inj isLeases
  have reached := System.reachable_of_exec rfl isRun
  exact ⟨networks, pool, ar, reached, found, stored, isKeys, isSize, lease_range reached 0 pool found 0 ar stored⟩

/-- A reservation of four addresses from the second one on takes two that the range
does not have. -/
theorem lease_range_long_block : ¬∀ networks, system.Reachable System.anyStep networks →
      ∀ vid pool, networks.lookup vid = some pool → ∀ id ar, pool.arPool.lookup id = some ar →
        ∀ index ∈ ar.allocated, index < ar.size := by
  intro always
  have ran : ((system.exec System.anyStep ∅ [.create 0, .addAr plainEnvironment 0 twoAddresses, .create 1,
        .reserve plainEnvironment 0 1 (.starting 0 (.ip "10.0.0.2")) 4]).map fun networks =>
        (networks.lookup 0).map fun pool => (pool.arPool.lookup 0).map fun ar =>
          (ar.size, decide (4 ∈ ar.allocated))) = some (some (some (2, true))) := by
    decide +kernel
  obtain ⟨networks, isRun, isPool⟩ := Option.map_eq_some_iff.mp ran
  obtain ⟨pool, found, isRange⟩ := Option.map_eq_some_iff.mp isPool
  obtain ⟨ar, stored, isLeases⟩ := Option.map_eq_some_iff.mp isRange
  obtain ⟨isSize, isTaken⟩ := Prod.mk.inj isLeases
  have inside := always networks (System.reachable_of_exec rfl isRun) 0 pool found 0 ar stored 4
    (of_decide_eq_true isTaken)
  omega

end Networks

end OpenNebula.Network
