import OpenNebula.Library.Sequence
import OpenNebula.Network.LeaseRange

namespace OpenNebula.Network

open Common
open Library

/-! # Freeing a range of addresses (`free_addr_by_range`)

The loop takes as many leases as addresses are to be freed.  Where addresses of the range are not
in use it goes on with leases behind the range, and past the end of the map, which is not defined;
where the first address is not in use it frees nothing.
-/

namespace AddressRange

variable (env : Environment) (ar : AddressRange)

/-- The leases that are erased, with the iterator at the first of some leases; none when it is moved
behind the end. -/
def walkRange (releases : Nat → Nat → Bool) : Nat → List (Σ _ : Nat, Nat) → Option (List (Σ _ : Nat, Nat))
  | 0, _ => some []
  | _ + 1, [] => none
  | count + 1, lease :: rest =>
    (walkRange releases count rest).map fun freed =>
      if releases lease.1 lease.2 then lease :: freed else freed

/-- The leases from the iterator of `allocated.find(index)` on -/
def leasesFrom (first : Nat) : List (Σ _ : Nat, Nat) := ar.leases.filter fun lease => first ≤ lease.1

section

variable (ot : ObjectType)

def freeRange (obid : Int) (mac : String) (rsize : Nat) : Option (AddressRange × Nat) :=
  match ar.freeIndex env (.mac mac) with
  | none => some (ar, 0)
  | some first =>
    if first ∈ ar.allocated then
      (walkRange (ar.releases env (packOwner ot obid)) rsize (ar.leasesFrom first)).map fun freed =>
        (allocatedToAttr { ar with
          allocated := ar.allocated.filter fun index held => !decide (⟨index, held⟩ ∈ freed) },
          freed.length)
    else some (ar, 0)

def inBlock (mac : String) (rsize index : Nat) : Bool :=
  (ar.isValidMac env mac false).any fun start => start ≤ index && index < start + rsize

def asked (obid : Int) (mac : String) (rsize : Nat) (lease : Σ _ : Nat, Nat) : Bool :=
  lease.2 = packOwner ot obid && ar.inBlock env mac rsize lease.1

/-- The leases of the owner in the block are removed and counted, the others stay. -/
def FreesBlock (obid : Int) (mac : String) (rsize : Nat) : Prop :=
  ∃ after, ar.freeRange env ot obid mac rsize =
      some (after, (ar.leases.filter (ar.asked env ot obid mac rsize)).length) ∧
    ∀ index, after.allocated.lookup index = (ar.allocated.lookup index).filter fun held =>
      !ar.asked env ot obid mac rsize ⟨index, held⟩

/-- The first address is in use, as many leases follow as addresses are to be freed, and of those of
the owner among them the manager gives back the ones in the block and no others; or it is not in use
and the owner has nothing in the block. -/
def Dense (obid : Int) (mac : String) (rsize : Nat) : Prop :=
  ∀ first ∈ ar.freeIndex env (.mac mac),
    if first ∈ ar.allocated then
      rsize ≤ (ar.leasesFrom first).length ∧
        ∀ lease ∈ (ar.leasesFrom first).take rsize, lease.2 = packOwner ot obid →
          ar.giveAddr env lease.1 = ar.inBlock env mac rsize lease.1
    else ∀ lease ∈ ar.leases, ar.asked env ot obid mac rsize lease = false

end

theorem readLowBytes_lt {count : Nat} {stream : Stream} {tmp low : Nat} (small : low < 2 ^ 32) :
    readLowBytes count stream tmp low < 2 ^ 32 := by
  induction count generalizing stream tmp low with
  | zero => exact small
  | succ count ih => exact ih (Nat.mod_lt _ (by decide))

variable {env ar}

theorem freeIndex_of_isValidMac {mac : String} {start : Nat}
    (isStart : ar.isValidMac env mac false = some start) : ar.freeIndex env (.mac mac) = some start := by
  simp only [isValidMac] at isStart
  split at isStart
  · cases isStart
  · rename_i address isRead
    split at isStart
    · cases isStart
    · rename_i checked
      simp only [isValidIndex, Bool.false_eq_true, false_and, false_or] at isStart
      split at isStart
      · cases isStart
      · have word : address.low < 2 ^ 32 := by
          simp only [macToI] at isRead
          split at isRead
          · cases isRead
          · rw [← (Prod.mk.inj isRead).1]
            exact readLowBytes_lt (by decide)
        have isIndex := Option.some.inj isStart
        simp only [freeIndex, isRead]
        rw [if_neg (by omega)]
        congr 1
        omega

theorem mem_leases {lease : Σ _ : Nat, Nat} : lease ∈ ar.leases ↔ ar.allocated.lookup lease.1 = some lease.2 :=
  (List.mem_insertionSort _).trans Map.mem_entries_iff

theorem leases_ascending (ar : AddressRange) : Ascending Sigma.fst ar.leases := by
  have sorted := List.pairwise_insertionSort (fun left right : Σ _ : Nat, Nat => left.1 ≤ right.1)
    ar.allocated.entries
  have nodup : ar.leases.NodupKeys := (List.perm_nodupKeys (List.perm_insertionSort _ _)).2 ar.allocated.nodupKeys
  refine (sorted.and (List.nodupKeys_iff_pairwise.1 nodup)).imp fun {left right} both => ?_
  exact lt_of_le_of_ne both.1 both.2

theorem walkRange_eq (releases : Nat → Nat → Bool) (count : Nat) (leases : List (Σ _ : Nat, Nat)) :
    walkRange releases count leases = if count ≤ leases.length then
        some ((leases.take count).filter fun lease => releases lease.1 lease.2) else none := by
  induction count generalizing leases with
  | zero => simp [walkRange]
  | succ count ih =>
    cases leases with
    | nil => simp [walkRange]
    | cons lease rest =>
      simp only [walkRange, ih, List.length_cons, Nat.add_le_add_iff_right, List.take_succ_cons, List.filter_cons]
      by_cases enough : count ≤ rest.length
      · simp only [if_pos enough, Option.map_some]
      · simp only [if_neg enough, Option.map_none]

variable {ot : ObjectType} {obid : Int} {mac : String} {rsize first : Nat}

theorem mem_walk_of_inBlock (found : ar.freeIndex env (.mac mac) = some first)
    {lease : Σ _ : Nat, Nat} (isLease : lease ∈ ar.leases) (inside : ar.inBlock env mac rsize lease.1 = true) :
    lease ∈ (ar.leasesFrom first).take rsize := by
  rw [inBlock, Option.any_eq_true] at inside
  obtain ⟨start, isStart, inside⟩ := inside
  rw [Bool.and_eq_true, decide_eq_true_iff, decide_eq_true_iff] at inside
  obtain rfl : start = first := Option.some.inj ((freeIndex_of_isValidMac isStart).symm.trans found)
  refine Ascending.mem_take ((leases_ascending ar).sublist List.filter_sublist) (fun other isOther => ?_)
    (List.mem_filter.2 ⟨isLease, decide_eq_true inside.1⟩) inside.2
  exact of_decide_eq_true (List.mem_filter.1 isOther).2

theorem lookup_filter_congr {keep wanted : (Σ _ : Nat, Nat) → Bool} :
    (∀ index, (ar.allocated.lookup index).filter (fun held => !keep ⟨index, held⟩) =
        (ar.allocated.lookup index).filter fun held => !wanted ⟨index, held⟩) ↔
      ∀ lease ∈ ar.leases, keep lease = wanted lease := by
  constructor
  · intro same lease isLease
    have isHeld := mem_leases.1 isLease
    have both := same lease.1
    rw [isHeld, Option.filter_some, Option.filter_some] at both
    cases isKept : keep lease <;> cases isWanted : wanted lease
    · rfl
    · simp [isKept, isWanted] at both
    · simp [isKept, isWanted] at both
    · rfl
  · intro same index
    cases isHeld : ar.allocated.lookup index with
    | none => rfl
    | some held =>
      have both := same ⟨index, held⟩ (mem_leases.2 isHeld)
      simp only [Option.filter_some, both]

theorem freesBlock_unchanged (unchanged : ar.freeRange env ot obid mac rsize = some (ar, 0)) :
    ar.FreesBlock env ot obid mac rsize ↔ ∀ lease ∈ ar.leases, ar.asked env ot obid mac rsize lease = false := by
  rw [FreesBlock, unchanged]
  constructor
  · rintro ⟨after, same, -⟩ lease isLease
    have none := List.length_eq_zero_iff.1 (Prod.mk.inj (Option.some.inj same)).2.symm
    exact Bool.not_eq_true _ ▸ List.filter_eq_nil_iff.1 none lease isLease
  · intro never
    have none : ar.leases.filter (ar.asked env ot obid mac rsize) = [] :=
      List.filter_eq_nil_iff.2 fun lease isLease => by rw [never lease isLease]; exact Bool.false_ne_true
    refine ⟨ar, by rw [none]; rfl, fun index => ?_⟩
    have same := @lookup_filter_congr ar (fun _ => false) (ar.asked env ot obid mac rsize)
    rw [← same.2 (fun lease isLease => (never lease isLease).symm) index]
    cases ar.allocated.lookup index <;> rfl

def walked (env : Environment) (ar : AddressRange) (ot : ObjectType) (obid : Int) (rsize first : Nat) :
    List (Σ _ : Nat, Nat) :=
  ((ar.leasesFrom first).take rsize).filter fun lease => ar.releases env (packOwner ot obid) lease.1 lease.2

theorem mem_walked {lease : Σ _ : Nat, Nat} :
    lease ∈ walked env ar ot obid rsize first ↔ lease ∈ (ar.leasesFrom first).take rsize ∧
      lease.2 = packOwner ot obid ∧ ar.giveAddr env lease.1 = true := by
  rw [walked, List.mem_filter, releases, Bool.and_eq_true, decide_eq_true_iff]

theorem freeRange_walked (found : ar.freeIndex env (.mac mac) = some first) (inUse : first ∈ ar.allocated) :
    ar.freeRange env ot obid mac rsize = if rsize ≤ (ar.leasesFrom first).length then
        some (allocatedToAttr { ar with
          allocated := ar.allocated.filter fun index held =>
            !decide (⟨index, held⟩ ∈ walked env ar ot obid rsize first) },
          (walked env ar ot obid rsize first).length)
      else none := by
  simp only [freeRange, found, if_pos inUse, walkRange_eq]
  split <;> rfl

theorem walked_eq_asked (found : ar.freeIndex env (.mac mac) = some first) : (∀ lease ∈ ar.leases,
        decide (lease ∈ walked env ar ot obid rsize first) = ar.asked env ot obid mac rsize lease) ↔
      ∀ lease ∈ (ar.leasesFrom first).take rsize, lease.2 = packOwner ot obid →
        ar.giveAddr env lease.1 = ar.inBlock env mac rsize lease.1 := by
  constructor
  · intro same lease inWalk isOwner
    have isLease := List.mem_of_mem_filter (List.mem_of_mem_take inWalk)
    have both := same lease isLease
    rw [asked, isOwner, decide_eq_true rfl, Bool.true_and] at both
    rw [← both, Bool.eq_iff_iff, decide_eq_true_iff]
    exact ⟨fun gives => mem_walked.2 ⟨inWalk, isOwner, gives⟩, fun isWalked => (mem_walked.1 isWalked).2.2⟩
  · intro same lease isLease
    rw [Bool.eq_iff_iff, decide_eq_true_iff, mem_walked, asked, Bool.and_eq_true, decide_eq_true_iff]
    constructor
    · rintro ⟨inWalk, isOwner, gives⟩
      exact ⟨isOwner, same lease inWalk isOwner ▸ gives⟩
    · rintro ⟨isOwner, inside⟩
      have inWalk := mem_walk_of_inBlock found isLease inside
      exact ⟨inWalk, isOwner, (same lease inWalk isOwner).trans inside⟩

theorem walked_subset {lease : Σ _ : Nat, Nat} (isWalked : lease ∈ walked env ar ot obid rsize first) :
    lease ∈ ar.leases :=
  List.mem_of_mem_filter (List.mem_of_mem_take (mem_walked.1 isWalked).1)

theorem walked_length (same : ∀ lease ∈ ar.leases,
      decide (lease ∈ walked env ar ot obid rsize first) = ar.asked env ot obid mac rsize lease) :
    (walked env ar ot obid rsize first).length = (ar.leases.filter (ar.asked env ot obid mac rsize)).length := by
  have nodup := (leases_ascending ar).nodup
  have nodupWalked : (walked env ar ot obid rsize first).Nodup := ((nodup.filter _).take).filter _
  refine ((List.perm_ext_iff_of_nodup nodupWalked (nodup.filter _)).2 fun lease => ?_).length_eq
  rw [List.mem_filter]
  constructor
  · intro isWalked
    have isLease := walked_subset isWalked
    exact ⟨isLease, same lease isLease ▸ decide_eq_true isWalked⟩
  · rintro ⟨isLease, isAsked⟩
    exact of_decide_eq_true ((same lease isLease).trans isAsked)

theorem mem_take_iff {lease : Σ _ : Nat, Nat} (isLease : lease ∈ ar.leases) :
    lease.1 ∈ ((ar.leasesFrom first).take rsize).map Sigma.fst ↔ lease ∈ (ar.leasesFrom first).take rsize := by
  refine ⟨fun sameIndex => ?_, List.mem_map_of_mem⟩
  obtain ⟨other, isOther, same⟩ := List.mem_map.1 sameIndex
  have held := mem_leases.1 (List.mem_of_mem_filter (List.mem_of_mem_take isOther))
  rw [same, mem_leases.1 isLease] at held
  rwa [show lease = other from Sigma.ext same.symm (heq_of_eq (Option.some.inj held))]

theorem walked_entries : (ar.allocated.entries.filter fun lease =>
    decide (lease ∈ walked env ar ot obid rsize first)).length = (walked env ar ot obid rsize first).length := by
  have nodup := (List.nodupKeys_iff_pairwise.1 ar.allocated.nodupKeys).imp (ne_of_apply_ne Sigma.fst)
  have nodupWalked : (walked env ar ot obid rsize first).Nodup :=
    (((leases_ascending ar).nodup.filter _).take).filter _
  refine ((List.perm_ext_iff_of_nodup (List.Nodup.filter _ nodup) nodupWalked).2 fun lease => ?_).length_eq
  rw [List.mem_filter, decide_eq_true_iff, Map.mem_entries_iff, ← mem_leases]
  exact and_iff_right_of_imp walked_subset

/-- Where the iterator stays in the map the loop does what the operation of the networks does. -/
theorem freeAddrByRange_of_freeRange {after : AddressRange} {count : Nat}
    (freed : ar.freeRange env ot obid mac rsize = some (after, count)) :
    ar.freeAddrByRange env ot obid mac rsize = (after, count) := by
  cases found : ar.freeIndex env (.mac mac) with
  | none =>
    simp only [freeRange, found, Option.some.injEq] at freed
    simp only [freeAddrByRange, found, freed]
  | some first =>
    by_cases inUse : first ∈ ar.allocated
    · rw [freeRange_walked found inUse] at freed
      split at freed
      · have kept : (ar.allocated.filter fun index held =>
            !(decide (index ∈ ((ar.leasesFrom first).take rsize).map Sigma.fst) &&
              ar.releases env (packOwner ot obid) index held)) =
            ar.allocated.filter fun index held => !decide (⟨index, held⟩ ∈ walked env ar ot obid rsize first) := by
          refine AList.ext (List.filter_congr fun lease isEntry => congrArg not ?_)
          have isLease := mem_leases.2 (Map.mem_entries_iff.1 isEntry)
          rw [Bool.eq_iff_iff, Bool.and_eq_true, decide_eq_true_iff, decide_eq_true_iff, mem_take_iff isLease]
          rw [walked, List.mem_filter]
        have split := List.length_eq_length_filter_add (l := ar.allocated.entries)
          fun lease => decide (lease ∈ walked env ar ot obid rsize first)
        rw [walked_entries] at split
        obtain ⟨rfl, rfl⟩ := Prod.mk.inj (Option.some.inj freed)
        simp only [freeAddrByRange, found, if_pos inUse]
        change (allocatedToAttr { ar with allocated := ar.allocated.filter _ }, _ - _) = _
        refine Prod.ext (congrArg (fun allocated => allocatedToAttr { ar with allocated }) kept) ?_
        exact (congrArg (fun allocated : Map Nat Nat => ar.getUsedAddr - allocated.entries.length) kept).trans
          (Nat.sub_eq_of_eq_add split)
      · cases freed
    · simp only [freeRange, found, if_neg inUse, Option.some.injEq] at freed
      simp only [freeAddrByRange, found, if_neg inUse, freed]

/-- A range of addresses is freed exactly when its leases are dense. -/
theorem freeRange_exact : ar.FreesBlock env ot obid mac rsize ↔ ar.Dense env ot obid mac rsize := by
  cases found : ar.freeIndex env (.mac mac) with
  | none =>
    have unchanged : ar.freeRange env ot obid mac rsize = some (ar, 0) := by
      simp only [freeRange, found]
    rw [freesBlock_unchanged unchanged, Dense, found]
    refine iff_of_true (fun lease _ => ?_) (fun _ none => by cases none)
    cases isStart : ar.isValidMac env mac false with
    | none => simp [asked, inBlock, isStart]
    | some start =>
      rw [freeIndex_of_isValidMac isStart] at found
      cases found
  | some first =>
    simp only [Dense, found, Option.mem_some_iff, forall_eq']
    by_cases inUse : first ∈ ar.allocated
    · rw [if_pos inUse, ← walked_eq_asked found]
      by_cases enough : rsize ≤ (ar.leasesFrom first).length
      · simp only [FreesBlock, freeRange_walked found inUse, enough, if_true, true_and]
        constructor
        · rintro ⟨after, isAfter, left⟩
          obtain ⟨rfl, -⟩ := Prod.mk.inj (Option.some.inj isAfter)
          refine lookup_filter_congr.mp fun index => ?_
          rw [← left index]
          exact (Map.lookup_filter (fun index held =>
            !decide (⟨index, held⟩ ∈ walked env ar ot obid rsize first)) ar.allocated index).symm
        · intro same
          refine ⟨_, congrArg some (congrArg (Prod.mk _) (walked_length same)), fun index => ?_⟩
          rw [← lookup_filter_congr.mpr same index]
          exact Map.lookup_filter _ ar.allocated index
      · simp [FreesBlock, freeRange_walked found inUse, enough]
    · rw [if_neg inUse]
      refine freesBlock_unchanged ?_
      simp only [freeRange, found, if_neg inUse]

/-- Four addresses, of which a reservation has the first one and the last one -/
def sparseRange : AddressRange :=
  { id := 0, manager := .internal 0, type := .ip4, size := 4, ip := 0x0A000001, mac := ⟨0x0A000001, 0x0200⟩,
    allocated := AList.insert 0 (packOwner .net 1) (AList.insert 3 (packOwner .net 1) ∅) }

/-- Two addresses are to be freed from the first one on, and the last one is freed too. -/
theorem freeRange_sparse :
    ¬∀ (env : Environment) (ar : AddressRange) (ot : ObjectType) (obid : Int) (mac : String) (rsize : Nat),
      ar.FreesBlock env ot obid mac rsize := by
  intro always
  obtain ⟨after, same, -⟩ := always Networks.plainEnvironment sparseRange .net 1 "02:00:0a:00:00:01" 2
  have freed : (sparseRange.freeRange Networks.plainEnvironment .net 1 "02:00:0a:00:00:01" 2).map Prod.snd =
      some 2 := by
    decide +kernel
  have wanted : (sparseRange.leases.filter
      (sparseRange.asked Networks.plainEnvironment .net 1 "02:00:0a:00:00:01" 2)).length = 1 := by
    decide +kernel
  rw [same, wanted] at freed
  cases freed

end AddressRange

end OpenNebula.Network
