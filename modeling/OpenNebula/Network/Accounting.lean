import OpenNebula.Network.LeaseRange

namespace OpenNebula.Network

open Common
open Library
open AddressRange (Address)

/-! # The counter of the addresses in use

A pool keeps the number of its leases in `used_addr`, which every operation changes
on its own.  Removing a range by force, or all the ranges of a network, leaves the
leases of these ranges in the counter; a block whose end does not fit 32 bits is
counted though nothing is reserved.  Reading the pool from the database counts anew.
-/

namespace AddressRange

/-- The loop of `attr_to_allocated`: pairs of an index and an owner, up to the end of the
text.  The text was written by `allocated_to_attr`, so the owners are not negative. -/
def readLeases : Nat → Stream → Map Nat Nat → Option (Map Nat Nat)
  | 0, _, _ => none
  | turns + 1, stream, allocated =>
    let (addrIndex, stream) := stream.readUnsigned 10 0
    let (objectPack, stream) := stream.readLong 10 0
    if stream.failed then none
    else
      let allocated := allocated.insertNew addrIndex objectPack.toNat
      if stream.rest = [] then some allocated else readLeases turns stream allocated

def attrToAllocated (size : Nat) (text : String) : Option (Map Nat Nat) :=
  if text = "" then some ∅
  else
    match readLeases text.length ⟨text.toList, false⟩ ∅ with
    | none => none
    | some allocated => if allocated.entries.length > size then none else some allocated

def accepted {α : Type} (conversion : α × Bool) : Option α :=
  if conversion.2 then some conversion.1 else none

def ipFromDb (ar : AddressRange) (attr : VectorAttribute) : Option Nat :=
  if ar.isIpv4 then accepted (ipToI (attr.vectorValue "IP") ar.ip) else some ar.ip

def ip6FromDb (env : Environment) (ar : AddressRange) (attr : VectorAttribute) : Option Ip6 :=
  if ar.isIpv6Static then ip6ToI env (attr.vectorValue "IP6") else some ar.ip6

def fromVattrDb (env : Environment) (ar : AddressRange) (attr : VectorAttribute) : Option AddressRange := do
  let ar := { ar with attr, type := strToType (attr.vectorValue "TYPE") }
  let id ← attr.unsignedValue "AR_ID"
  let size ← attr.unsignedLongValue "SIZE"
  let mac ← accepted (macToI (attr.vectorValue "MAC") ar.mac env.unset)
  let ip ← ar.ipFromDb attr
  let ip6 ← ar.ip6FromDb env attr
  let global6 ← accepted (prefixToI env (attr.vectorValue "GLOBAL_PREFIX") ar.global6)
  let ula6 ← accepted (prefixToI env (attr.vectorValue "ULA_PREFIX") ar.ula6)
  let allocated ← attrToAllocated size (attr.vectorValue "ALLOCATED")
  if ar.type = .none then none
  else
    some { ar with
      id, size, mac, ip, ip6, global6, ula6, allocated
      portStart := (attr.unsignedValue "PORT_START").getD 0
      portSize := (attr.unsignedValue "PORT_SIZE").getD 0 }

theorem fromVattrDb_keeps {env : Environment} {ar loaded : AddressRange} {attr : VectorAttribute}
    (isLoaded : fromVattrDb env ar attr = some loaded) :
    attr.unsignedValue "AR_ID" = some loaded.id ∧ loaded.manager = ar.manager := by
  simp only [fromVattrDb, Option.bind_eq_bind, Option.bind_eq_some_iff] at isLoaded
  obtain ⟨id, isId, size, -, mac, -, ip, -, ip6, -, global6, -, ula6, -, allocated, -, rest⟩ := isLoaded
  split at rest
  · cases rest
  · rw [isId, ← Option.some.inj rest]
    exact ⟨rfl, rfl⟩

end AddressRange

namespace AddressRangePool

def arTemplate (pool : AddressRangePool) : List VectorAttribute :=
  pool.arPool.entries.map fun row => row.2.attr

/-- One turn of the loop of `from_xml_node`: a range is counted though its identifier may
be taken. -/
def loadRange (env : Environment) (pool : AddressRangePool) (attr : VectorAttribute) : Option AddressRangePool :=
  (AddressRange.fromVattrDb env (newRange (attr.vectorValue "IPAM_MAD") 0) attr).map fun ar =>
    countUsed
      { pool with
        arPool := pool.arPool.insertNew ar.id ar
        nextAr := if pool.nextAr ≤ ar.id then (ar.id + 1) % 2 ^ 32 else pool.nextAr }
      ar.getUsedAddr

def loadRanges (env : Environment) : List VectorAttribute → AddressRangePool → Option AddressRangePool
  | [], pool => some pool
  | attr :: rest, pool =>
    match loadRange env pool attr with
    | none => none
    | some pool => loadRanges env rest pool

/-- `from_xml_node` of a new object, on what the pool has stored -/
def reload (env : Environment) (pool : AddressRangePool) : Option AddressRangePool :=
  loadRanges env pool.arTemplate {}

def leaseCount (pool : AddressRangePool) : Nat := pool.arPool.total AddressRange.getUsedAddr

/-- The counter, an `unsigned int`, is the number of leases. -/
def Balanced (pool : AddressRangePool) : Prop := pool.usedAddr = pool.leaseCount % 2 ^ 32

end AddressRangePool

inductive PoolEvent where
  | operation (event : NetworkEvent)
  | reload (env : Environment) (vid : Nat)

namespace Networks

def poolStep (networks : Networks) : PoolEvent → Option Networks
  | .operation event => networks.step event
  | .reload env vid =>
    (networks.lookup vid).bind fun pool => (pool.reload env).map fun pool => networks.insert vid pool

def poolSystem : System Networks PoolEvent where
  initial networks := networks = ∅
  step := poolStep

end Networks

/-- A block from the address on that is free and that the manager gives away has an end of
32 bits. -/
def AddressRange.EndsInWord (env : Environment) (ar : AddressRange) (address : Address) (rsize : Nat) : Prop :=
  ∀ sindex ∈ ar.isValid env address false, ar.takeAddr env sindex rsize = true →
    (∀ index ∈ AddressRange.indexBlock sindex rsize, index ∉ ar.allocated) →
    sindex + rsize < 2 ^ 32

def AddressRangePool.givesUp (env : Environment) (pool : AddressRangePool) (id : Nat) : Bool :=
  (pool.arPool.lookup id).all fun ar => !(ar.isIpam && !env.unregisterAddressRange id)

def AddressRangePool.removed (env : Environment) (pool : AddressRangePool) : List Nat :=
  pool.ids.takeWhile (pool.givesUp env)

/-- A range that is removed has no leases, a block that is reserved from an address on has
an end of 32 bits, and the ranges read from the database have different identifiers. -/
def PoolEvent.Counts (networks : Networks) : PoolEvent → Prop
  | .operation (.rmAr _ vid id force) => ∀ pool ∈ networks.lookup vid,
      ∀ ar ∈ pool.arPool.lookup id, force = true → ar.getUsedAddr = 0
  | .operation (.rmArs env vid) => ∀ pool ∈ networks.lookup vid, ∀ id ∈ pool.removed env,
      ∀ ar ∈ pool.arPool.lookup id, ar.getUsedAddr = 0
  | .operation (.reserve env pid _ (.starting id address) rsize) => ∀ pool ∈ networks.lookup pid,
      ∀ ar ∈ pool.arPool.lookup id, ar.EndsInWord env address rsize
  | .reload _ vid => ∀ pool ∈ networks.lookup vid,
      (pool.arTemplate.map fun attr => attr.unsignedValue "AR_ID").Nodup
  | _ => True

instance (env : Environment) (ar : AddressRange) (address : Address) (rsize : Nat) :
    Decidable (ar.EndsInWord env address rsize) :=
  inferInstanceAs (Decidable (∀ sindex ∈ ar.isValid env address false, _))

instance (networks : Networks) : (event : PoolEvent) → Decidable (event.Counts networks)
  | .operation (.rmAr _ vid ..) => inferInstanceAs (Decidable (∀ pool ∈ networks.lookup vid, _))
  | .operation (.rmArs _ vid) => inferInstanceAs (Decidable (∀ pool ∈ networks.lookup vid, _))
  | .operation (.reserve _ pid _ (.starting ..) _) =>
    inferInstanceAs (Decidable (∀ pool ∈ networks.lookup pid, _))
  | .reload _ vid => inferInstanceAs (Decidable (∀ pool ∈ networks.lookup vid, _))
  | .operation (.reserve _ _ _ (.any _) _) | .operation (.create _) | .operation (.addAr ..)
  | .operation (.updateAr ..) | .operation (.allocateAddr ..) | .operation (.allocateBy ..)
  | .operation (.hold ..) | .operation (.freeAddr ..) | .operation (.freeAddrByOwner ..)
  | .operation (.freeAddrByRange ..) => isTrue trivial

namespace AddressRange

variable {env : Environment} {ar : AddressRange} {allocated : Map Nat Nat}

variable {index rsize arSize : Nat}

theorem setAllocatedAddr_used (ot : ObjectType) (obid : Int) (isFree : index ∉ ar.allocated) :
    (ar.setAllocatedAddr ot obid index).getUsedAddr = ar.getUsedAddr + 1 :=
  Map.length_insertNew isFree

theorem setAllocatedBlock_used (ot : ObjectType) (obid : Int) {block : List Nat}
    (apart : block.Nodup) (isFree : ∀ index ∈ block, index ∉ ar.allocated) :
    (ar.setAllocatedBlock ot obid block).getUsedAddr = ar.getUsedAddr + block.length := by
  induction block generalizing ar with
  | nil => rfl
  | cons index rest ih =>
    obtain ⟨notLater, restApart⟩ := List.nodup_cons.1 apart
    have stillFree : ∀ other ∈ rest, other ∉ (ar.setAllocatedAddr ot obid index).allocated := by
      intro other later taken
      rcases Map.mem_insertNew.1 taken with same | old
      · exact notLater (same ▸ later)
      · exact isFree other (List.mem_cons_of_mem _ later) old
    have counted := ih restApart stillFree
    rw [setAllocatedAddr_used ot obid (isFree index List.mem_cons_self)] at counted
    rw [List.length_cons]
    exact counted.trans (by omega)

theorem wrappedBlock_nodup {first : Nat} (short : rsize < 2 ^ 32) : (wrappedBlock first rsize).Nodup := by
  refine List.Nodup.map_on (fun left leftIn right rightIn same => ?_) List.nodup_range
  rw [List.mem_range] at leftIn rightIn
  omega

theorem singleLoop_free {count next : Nat} (found : (singleLoop allocated arSize count next).1 = some index) :
    index ∉ allocated := by
  induction count generalizing next with
  | zero => simp [singleLoop] at found
  | succ count ih =>
    simp only [singleLoop] at found
    split at found
    · exact ih found
    · rename_i isFree
      exact Option.some.inj found ▸ isFree

theorem freeRun_free {start last : Nat} (found : freeRun allocated arSize rsize start = (last, true))
    (fromStart : start ≤ index) (before : index < start + rsize) : index ∉ allocated ∧ index < arSize := by
  induction rsize generalizing start with
  | zero => omega
  | succ rsize ih =>
    simp only [freeRun] at found
    split at found
    · simp at found
    · rename_i isFree
      by_cases here : index = start
      · subst here
        exact ⟨fun taken => isFree (.inl taken), by omega⟩
      · exact ih found (by omega) (by omega)

theorem rangeLoop_free {turns start first : Nat}
    (found : rangeLoop allocated arSize rsize turns start = some (some first)) :
    ∀ index, first ≤ index → index < first + rsize → index ∉ allocated ∧ index < arSize := by
  induction turns generalizing start with
  | zero => simp [rangeLoop] at found
  | succ turns ih =>
    simp only [rangeLoop] at found
    split at found
    · cases found
    · split at found
      · exact ih found
      · split at found
        · rename_i inside _ last ran
          have ended := (freeRun_found (by omega) ran).1
          have isFirst : last - rsize = first := Option.some.inj (Option.some.inj found)
          intro index fromFirst before
          exact freeRun_free ran (by omega) (by omega)
        · exact ih found

/-- The next lookup starts at an `unsigned int`. -/
def NextFits (ar : AddressRange) : Prop := ∀ next, ar.manager = .internal next → next < 2 ^ 32

theorem singleLoop_word {arSize count next : Nat} (small : next < 2 ^ 32) :
    (singleLoop allocated arSize count next).2 < 2 ^ 32 := by
  induction count generalizing next with
  | zero => exact small
  | succ count ih =>
    simp only [singleLoop]
    split
    · exact ih (Nat.lt_of_le_of_lt (Nat.mod_le _ _) (Nat.mod_lt _ (by decide)))
    · exact small

theorem singleLoop_next {count next : Nat} (found : (singleLoop allocated arSize count next).1 = some index) :
    (singleLoop allocated arSize count next).2 = index := by
  induction count generalizing next with
  | zero => simp [singleLoop] at found
  | succ count ih =>
    simp only [singleLoop] at found ⊢
    split at found
    · rename_i taken
      rw [if_pos taken]
      exact ih found
    · rename_i isFree
      rw [if_neg isFree]
      exact Option.some.inj found

theorem getAddr_free {rsize first : Nat} (fits : ar.NextFits) (found : (ar.getAddr env rsize).2 = some first) :
    (∀ index ∈ wrappedBlock first rsize, index ∉ ar.allocated) ∧ first < 2 ^ 32 := by
  simp only [getAddr] at found
  split at found
  · rename_i next isManager
    split at found
    · have small := @singleLoop_word ar.allocated ar.arSize ar.arSize next (fits next isManager)
      rw [singleLoop_next found] at small
      refine ⟨fun index member => ?_, small⟩
      obtain ⟨offset, isOffset, same⟩ := mem_wrappedBlock.1 member
      have isFirst : index = first := by omega
      exact isFirst ▸ singleLoop_free found
    · have searched := Option.join_eq_some_iff.1 found
      have ends := rangeLoop_found searched
      have words : ar.arSize < 2 ^ 32 := Nat.mod_lt _ (by decide)
      refine ⟨fun index member => ?_, by omega⟩
      obtain ⟨offset, isOffset, same⟩ := mem_wrappedBlock.1 member
      exact (rangeLoop_free searched index (by omega) (by omega)).1
  · split at found
    · cases found
    · rename_i index answered
      split at found
      · cases found
      · rename_i checked
        obtain rfl : index = first := Option.some.inj found
        obtain ⟨ip, -, isValid⟩ := Option.bind_eq_some_iff.1 answered
        refine ⟨fun i member taken => ?_, (isValid_found (.ip ip) isValid).2⟩
        exact checked (List.any_eq_true.2 ⟨i, member, decide_eq_true (.inl taken)⟩)

/-- The leases change by as much, and the next lookup starts at a word. -/
structure Books (before after : AddressRange) (change : Int) : Prop where
  used : (after.getUsedAddr : Int) = before.getUsedAddr + change
  nextFits : before.NextFits → after.NextFits

theorem Books.refl (ar : AddressRange) : Books ar ar 0 := ⟨by omega, fun fits => fits⟩

theorem Books.kept {before after : AddressRange} (kept : Kept before after) : Books before after 0 := by
  refine ⟨?_, fun fits => ?_⟩
  · rw [getUsedAddr, kept.1]
    exact (Int.add_zero _).symm
  · rw [NextFits, kept.2]
    exact fits

theorem Books.trans {first middle last : AddressRange} {change later : Int}
    (before : Books first middle change) (after : Books middle last later) : Books first last (change + later) := by
  refine ⟨?_, fun fits => after.nextFits (before.nextFits fits)⟩
  rw [after.used, before.used, Int.add_assoc]

theorem getAddr_books (env : Environment) (ar : AddressRange) (rsize : Nat) :
    Books ar (ar.getAddr env rsize).1 0 := by
  refine ⟨?_, fun fits => ?_⟩
  · rw [getUsedAddr, (getAddr_keeps env ar rsize).1]
    exact (Int.add_zero _).symm
  · simp only [getAddr]
    split
    · rename_i next isManager
      split
      · intro other same
        rw [← Manager.internal.inj same]
        exact singleLoop_word (fits next isManager)
      · exact fits
    · split
      · exact fits
      · split <;> exact fits

theorem setAllocatedBlock_manager (ot : ObjectType) (obid : Int) (block : List Nat) :
    (ar.setAllocatedBlock ot obid block).manager = ar.manager := by
  induction block generalizing ar with
  | nil => rfl
  | cons index rest ih => exact ih

def onSuccess {α : Type} (change : Int) (result : Option α) : Int := result.elim 0 fun _ => change

theorem setAllocatedAddr_books (ot : ObjectType) (obid : Int) (isFree : index ∉ ar.allocated) :
    Books ar (ar.setAllocatedAddr ot obid index) 1 := by
  refine ⟨?_, fun fits => fits⟩
  rw [setAllocatedAddr_used ot obid isFree, Nat.cast_add, Nat.cast_one]

theorem allocateAddr_books (fits : ar.NextFits) (ot : ObjectType) (obid : Int)
    (inherit : List String) (nic : VectorAttribute) : Books ar (ar.allocateAddr env ot obid inherit nic).1
      (onSuccess 1 (ar.allocateAddr env ot obid inherit nic).2) := by
  simp only [allocateAddr]
  split
  · exact .refl ar
  · have kept := getAddr_books env ar 1
    have sameLeases := (getAddr_keeps env ar 1).1
    have found := @getAddr_free env ar 1
    split
    · rename_i isResult
      rw [isResult] at kept
      exact kept
    · rename_i middle index isResult
      rw [isResult] at kept sameLeases found
      obtain ⟨isFree, small⟩ := found fits rfl
      have notTaken : index ∉ middle.allocated :=
        sameLeases ▸ isFree index (mem_wrappedBlock.2 ⟨0, by decide, by omega⟩)
      exact kept.trans (setAllocatedAddr_books ot obid notTaken)

theorem isValid_free (address : Address) (found : ar.isValid env address true = some index) :
    index ∉ ar.allocated := by
  have checked : ∀ difference, ar.isValidIndex difference true = some index →
      index ∉ ar.allocated := by
    intro difference isIndex taken
    simp only [isValidIndex] at isIndex
    split at isIndex
    · cases isIndex
    · rename_i passed
      exact passed (.inl ⟨trivial, Option.some.inj isIndex ▸ taken⟩)
  cases address with
  | mac text =>
    simp only [isValid, isValidMac] at found
    split at found
    · cases found
    · split at found
      · cases found
      · exact checked _ found
  | ip text =>
    simp only [isValid, isValidIp] at found
    split at found
    · cases found
    · split at found
      · cases found
      · split at found
        · cases found
        · exact checked _ found
  | ip6 text =>
    simp only [isValid, isValidIp6] at found
    split at found
    · cases found
    · split at found
      · cases found
      · split at found
        · cases found
        · exact checked _ found

theorem allocateBy_books (address : Address) (ot : ObjectType) (obid : Int)
    (inherit : List String) (nic : VectorAttribute) : Books ar (ar.allocateBy env address ot obid inherit nic).1
      (onSuccess 1 (ar.allocateBy env address ot obid inherit nic).2) := by
  simp only [allocateBy]
  split
  · exact .refl ar
  · rename_i index found
    split
    · exact setAllocatedAddr_books ot obid (isValid_free address found)
    · exact .refl ar

theorem holdBy_books (address : Address) :
    Books ar (ar.holdBy env address).1 (onSuccess 1 (ar.holdBy env address).2) := by
  simp only [holdBy]
  split
  · exact .refl ar
  · rename_i index found
    split
    · exact setAllocatedAddr_books .vm (-1) (isValid_free address found)
    · exact .refl ar

theorem freeAddr_books (address : Address) (ot : ObjectType) (obid : Int) :
    Books ar (ar.freeAddr env address ot obid).1 (onSuccess (-1) (ar.freeAddr env address ot obid).2) := by
  simp only [freeAddr]
  split
  · exact .refl ar
  · split
    · simp only [freeAllocatedAddr]
      split
      · rename_i isHeld
        refine ⟨?_, fun fits => fits⟩
        have fewer := Map.length_erase isHeld
        change ((ar.allocated.erase _).entries.length : Int) = ar.allocated.entries.length + -1
        omega
      · exact .refl ar
    · exact .refl ar

theorem filter_books (keep : Nat → Nat → Bool) :
    Books ar (allocatedToAttr { ar with allocated := ar.allocated.filter keep })
      (-((ar.getUsedAddr - (ar.allocated.filter keep).entries.length : Nat) : Int)) := by
  refine ⟨?_, fun fits => fits⟩
  have fewer : (ar.allocated.filter keep).entries.length ≤ ar.getUsedAddr := List.length_filter_le _ _
  change ((ar.allocated.filter keep).entries.length : Int) = _
  omega

theorem freeAddrByRange_books (ot : ObjectType) (obid : Int) (mac : String) (rsize : Nat) :
    Books ar (ar.freeAddrByRange env ot obid mac rsize).1
      (-((ar.freeAddrByRange env ot obid mac rsize).2 : Int)) := by
  simp only [freeAddrByRange]
  split
  · exact .refl ar
  · split
    · exact filter_books _
    · exact .refl ar

theorem setAllocatedBlock_books (ot : ObjectType) (obid : Int) {block : List Nat}
    (apart : block.Nodup) (isFree : ∀ index ∈ block, index ∉ ar.allocated) :
    Books ar (ar.setAllocatedBlock ot obid block) block.length := by
  refine ⟨?_, fun fits => ?_⟩
  · rw [setAllocatedBlock_used ot obid apart isFree, Nat.cast_add]
  · rw [NextFits, setAllocatedBlock_manager]
    exact fits

theorem reserveAddr_books (fits : ar.NextFits) (vid : Int) {rsize : Nat} (rar : AddressRange)
    (short : rsize < 2 ^ 32) : Books ar (ar.reserveAddr env vid rsize rar).1
      (onSuccess rsize (ar.reserveAddr env vid rsize rar).2) := by
  simp only [reserveAddr]
  split
  · exact .refl ar
  · have kept := getAddr_books env ar rsize
    have sameLeases := (getAddr_keeps env ar rsize).1
    have found := @getAddr_free env ar rsize
    split
    · rename_i isResult
      rw [isResult] at kept
      exact kept
    · rename_i middle first isResult
      rw [isResult] at kept sameLeases found
      have taken := @setAllocatedBlock_books middle .net vid (wrappedBlock first rsize)
        (wrappedBlock_nodup short) fun index member => sameLeases ▸ (found fits rfl).1 index member
      have booked := kept.trans taken
      rw [wrappedBlock, List.length_map, List.length_range, Int.zero_add] at booked
      exact booked

theorem indexBlock_length {sindex : Nat} (ends : sindex + rsize < 2 ^ 32) :
    (indexBlock sindex rsize).length = rsize := by
  rw [indexBlock, List.length_range', Nat.mod_eq_of_lt ends]
  omega

theorem indexBlock_nodup {sindex : Nat} : (indexBlock sindex rsize).Nodup :=
  List.nodup_range'

theorem reserveAddrBy_books (address : Address) (vid : Int) (rar : AddressRange)
    (ends : ar.EndsInWord env address rsize) : Books ar (ar.reserveAddrBy env address vid rsize rar).1
      (onSuccess rsize (ar.reserveAddrBy env address vid rsize rar).2) := by
  simp only [reserveAddrBy]
  split
  · exact .refl ar
  · rename_i sindex found
    simp only [reserveAddrByIndex]
    split
    · exact .refl ar
    · rename_i isFree
      split
      · exact .refl ar
      · rename_i taken
        have allFree : ∀ index ∈ indexBlock sindex rsize, index ∉ ar.allocated :=
          fun index member inUse =>
            isFree (List.any_eq_true.2 ⟨index, member, decide_eq_true inUse⟩)
        have word := ends sindex found (by simpa using taken) allFree
        have booked := setAllocatedBlock_books .net vid indexBlock_nodup allFree
        rw [indexBlock_length word] at booked
        exact booked

end AddressRange

namespace AddressRangePool

variable {α : Type} {pool : AddressRangePool}
  {operation : AddressRange → AddressRange × Option α} {change : Option α → Int} {due : Int}

/-- The counter, once what is due is added to it, is the number of leases. -/
structure Accounted (pool : AddressRangePool) (due : Int) : Prop where
  word : pool.usedAddr < 2 ^ 32
  balance : (pool.leaseCount : Int) % 2 ^ 32 = (pool.usedAddr + due) % 2 ^ 32
  nextFits : ∀ id ar, pool.arPool.lookup id = some ar → ar.NextFits

theorem Accounted.balanced (accounted : pool.Accounted 0) : pool.Balanced := by
  have word := accounted.word
  have balance := accounted.balance
  rw [Balanced]
  omega

variable {id : Nat} {ar : AddressRange} {env : Environment} {after : AddressRangePool}

theorem Accounted.store (accounted : pool.Accounted due) {after : AddressRange} {booked : Int}
    (found : pool.arPool.lookup id = some ar) (books : ar.Books after booked) :
    (pool.store id after).Accounted (due + booked) := by
  refine ⟨accounted.word, ?_, fun other stored isStored => ?_⟩
  · have before : ar.getUsedAddr + _ = pool.leaseCount := Map.total_erase found
    have after : (pool.store id after).leaseCount = after.getUsedAddr + _ := Map.total_insert after
    have balance := accounted.balance
    have used := books.used
    change _ = (pool.usedAddr + (due + booked)) % 2 ^ 32
    omega
  · simp only [AddressRangePool.store, Map.lookup_insert_eq] at isStored
    split at isStored
    · exact Option.some.inj isStored ▸ books.nextFits (accounted.nextFits id ar found)
    · exact accounted.nextFits other stored isStored

theorem Accounted.onRange (accounted : pool.Accounted due) {id : Nat} (failed : change none = 0)
    (books : ∀ ar, pool.arPool.lookup id = some ar → ar.NextFits →
      ar.Books (operation ar).1 (change (operation ar).2)) :
    (pool.onRange operation id).1.Accounted (due + change (pool.onRange operation id).2) := by
  simp only [AddressRangePool.onRange]
  split
  · rw [failed, Int.add_zero]
    exact accounted
  · rename_i ar found
    exact accounted.store found (books ar found (accounted.nextFits id ar found))

theorem Accounted.firstRange (accounted : pool.Accounted 0) (failed : change none = 0)
    (books : ∀ ar : AddressRange, ar.NextFits → ar.Books (operation ar).1 (change (operation ar).2))
    (ids : List Nat) : (firstRange operation ids pool).1.Accounted (change (firstRange operation ids pool).2) := by
  induction ids generalizing pool with
  | nil => exact failed ▸ accounted
  | cons id rest ih =>
    have next : (pool.onRange operation id).1.Accounted (0 + _) := accounted.onRange failed fun ar _ => books ar
    rw [Int.zero_add] at next
    simp only [AddressRangePool.firstRange]
    split
    · rename_i isResult
      rw [isResult] at next
      exact next
    · rename_i isResult
      rw [isResult, failed] at next
      exact ih next

theorem Accounted.everyRange {count : AddressRangePool → α → AddressRangePool}
    (accounted : pool.Accounted 0) (failed : change none = 0)
    (books : ∀ ar : AddressRange, ar.NextFits → ar.Books (operation ar).1 (change (operation ar).2))
    (counts : ∀ {pool : AddressRangePool} {result}, pool.Accounted (change (some result)) →
      (count pool result).Accounted 0) (ids : List Nat) : (everyRange operation count ids pool).Accounted 0 := by
  induction ids generalizing pool with
  | nil => exact accounted
  | cons id rest ih =>
    have next : (pool.onRange operation id).1.Accounted (0 + _) := accounted.onRange failed fun ar _ => books ar
    rw [Int.zero_add] at next
    simp only [AddressRangePool.everyRange]
    split
    · rename_i isResult
      rw [isResult] at next
      exact ih (counts next)
    · rename_i isResult
      rw [isResult, failed] at next
      exact ih next

theorem Accounted.countUsed {count : Nat} (accounted : pool.Accounted count) :
    (pool.countUsed count).Accounted 0 := by
  refine ⟨Nat.mod_lt _ (by decide), ?_, accounted.nextFits⟩
  have balance := accounted.balance
  change (pool.leaseCount : Int) % 2 ^ 32 = (((pool.usedAddr + count) % 2 ^ 32 : Nat) + 0) % 2 ^ 32
  omega

theorem Accounted.countFreed {count : Nat} (accounted : pool.Accounted (-count)) :
    (pool.countFreed count).Accounted 0 := by
  refine ⟨Nat.mod_lt _ (by decide), ?_, accounted.nextFits⟩
  have balance := accounted.balance
  change (pool.leaseCount : Int) % 2 ^ 32 =
    (((pool.usedAddr + (2 ^ 32 - count % 2 ^ 32)) % 2 ^ 32 : Nat) + 0) % 2 ^ 32
  omega

theorem Accounted.counted {used : Nat} {outcome : AddressRangePool × Option α}
    (accounted : outcome.1.Accounted (AddressRange.onSuccess used outcome.2)) :
    (counted used outcome).1.Accounted 0 := by
  obtain ⟨pool, result⟩ := outcome
  cases result with
  | none => exact accounted
  | some result => exact accounted.countUsed

theorem Accounted.erase (accounted : pool.Accounted 0) (found : pool.arPool.lookup id = some ar)
    (unused : ar.getUsedAddr = 0) : Accounted { pool with arPool := pool.arPool.erase id } 0 := by
  refine ⟨accounted.word, ?_, fun other stored isStored => ?_⟩
  · have sameCount : ar.getUsedAddr + leaseCount { pool with arPool := pool.arPool.erase id } =
        pool.leaseCount := Map.total_erase found
    rw [unused, Nat.zero_add] at sameCount
    rw [sameCount]
    exact accounted.balance
  · rw [Map.lookup_erase_eq] at isStored
    split at isStored
    · cases isStored
    · exact accounted.nextFits other stored isStored

theorem Accounted.insertNew (accounted : pool.Accounted due) {ar : AddressRange} {id : Nat}
    (absent : id ∉ pool.arPool) (fits : ar.NextFits) :
    Accounted { pool with arPool := pool.arPool.insert id ar } (due + ar.getUsedAddr) := by
  refine ⟨accounted.word, ?_, fun other stored isStored => ?_⟩
  · have more : leaseCount { pool with arPool := pool.arPool.insert id ar } =
        ar.getUsedAddr + pool.leaseCount := Map.total_insert_new absent
    have balance := accounted.balance
    change _ = (pool.usedAddr + (due + ar.getUsedAddr)) % 2 ^ 32
    omega
  · rw [Map.lookup_insert_eq] at isStored
    split at isStored
    · exact Option.some.inj isStored ▸ fits
    · exact accounted.nextFits other stored isStored

theorem newRange_nextFits (ipamMad : String) (id : Nat) : (newRange ipamMad id).NextFits := by
  intro next isManager
  simp only [newRange] at isManager
  split at isManager
  · rw [← Manager.internal.inj isManager]
    decide
  · cases isManager

theorem Accounted.addAr (accounted : pool.Accounted 0) (env : Environment) {ar : AddressRange}
    {ipamMad : String} {id : Nat} (made : (newRange ipamMad id).Kept ar) : (pool.addAr env ar).Accounted 0 := by
  simp only [AddressRangePool.addAr]
  split
  · exact accounted
  · rename_i absent
    have books := AddressRange.Books.kept made
    have unused : ar.getUsedAddr = 0 := by
      rw [AddressRange.getUsedAddr, made.1, newRange_allocated]
      rfl
    have stored := @Accounted.insertNew pool 0 accounted { ar with attr := env.encrypt ar.attr }
      ar.id absent (books.nextFits (newRange_nextFits ipamMad id))
    change Accounted _ (0 + (ar.getUsedAddr : Int)) at stored
    rw [unused] at stored
    exact stored

theorem Accounted.allocateAr (accounted : pool.Accounted 0) : pool.allocateAr.1.Accounted 0 :=
  ⟨accounted.word, accounted.balance, accounted.nextFits⟩

theorem fromVattr_eq_addAr {attr : VectorAttribute}
    (made : (newRange (attr.vectorValue "IPAM_MAD") pool.nextAr).fromVattr env attr = (ar, none)) :
    pool.fromVattr env attr = pool.allocateAr.1.addAr env ar := by
  simp only [fromVattr, made]
  rfl

theorem Accounted.fromVattr (accounted : pool.Accounted 0) (env : Environment)
    (attr : VectorAttribute) : (pool.fromVattr env attr).Accounted 0 := by
  have kept := AddressRange.fromVattr_keeps env
    (newRange (attr.vectorValue "IPAM_MAD") pool.nextAr) attr
  cases made : (newRange (attr.vectorValue "IPAM_MAD") pool.nextAr).fromVattr env attr with
  | mk ar outcome =>
    rw [made] at kept
    cases outcome with
    | some message =>
      simp only [AddressRangePool.fromVattr, made]
      exact accounted
    | none =>
      rw [fromVattr_eq_addAr made]
      exact accounted.allocateAr.addAr env kept

theorem Accounted.rmAr (accounted : pool.Accounted 0) {force : Bool}
    (unused : ∀ ar ∈ pool.arPool.lookup id, force = true → ar.getUsedAddr = 0) :
    (pool.rmAr env id force).Accounted 0 := by
  simp only [AddressRangePool.rmAr]
  split
  · exact accounted
  · rename_i ar found
    split
    · exact accounted
    · rename_i checked
      split
      · exact accounted
      · refine accounted.erase found ?_
        cases force with
        | true => exact unused ar found rfl
        | false =>
          exact Nat.eq_zero_of_not_pos fun used => checked ⟨rfl, used⟩

theorem ids_nodup (pool : AddressRangePool) : pool.ids.Nodup :=
  (List.perm_insertionSort _ _).nodup_iff.2 pool.arPool.keys_nodup

theorem Accounted.rmArs {start : AddressRangePool} {ids : List Nat} (accounted : pool.Accounted 0)
    (apart : ids.Nodup) (same : ∀ id ∈ ids, pool.arPool.lookup id = start.arPool.lookup id)
    (unused : ∀ id ∈ ids.takeWhile (start.givesUp env), ∀ ar ∈ start.arPool.lookup id, ar.getUsedAddr = 0) :
    (rmArs env ids pool).Accounted 0 := by
  induction ids generalizing pool with
  | nil => exact accounted
  | cons id rest ih =>
    obtain ⟨notLater, restApart⟩ := List.nodup_cons.1 apart
    have sameHere := same id List.mem_cons_self
    have sameLater : ∀ other ∈ rest, pool.arPool.lookup other = start.arPool.lookup other :=
      fun other later => same other (List.mem_cons_of_mem _ later)
    have further : start.givesUp env id = true → id ∈ (id :: rest).takeWhile (start.givesUp env) ∧
        ∀ other ∈ rest.takeWhile (start.givesUp env), ∀ ar ∈ start.arPool.lookup other,
          ar.getUsedAddr = 0 := by
      intro gives
      rw [List.takeWhile_cons_of_pos gives] at unused ⊢
      exact ⟨List.mem_cons_self, fun other later => unused other (List.mem_cons_of_mem _ later)⟩
    simp only [AddressRangePool.rmArs]
    split
    · rename_i absent
      have gives : start.givesUp env id = true := by rw [givesUp, ← sameHere, absent]; rfl
      exact ih accounted restApart sameLater (further gives).2
    · rename_i ar found
      split
      · exact accounted
      · rename_i notKept
        have gives : start.givesUp env id = true := by
          rw [givesUp, ← sameHere, found]
          cases isDriven : ar.isIpam with
          | false => simp [isDriven]
          | true => simpa [isDriven] using notKept
        have isUnused := unused id (further gives).1 ar (sameHere ▸ found)
        refine ih (accounted.erase found isUnused) restApart (fun other later => ?_)
          (further gives).2
        have other_ne : other ≠ id := fun isId => notLater (isId ▸ later)
        rw [AList.lookup_erase_ne other_ne]
        exact sameLater other later

theorem updateAttributes_keeps (env : Environment) (ar : AddressRange) (vup : VectorAttribute)
    (keepRestricted : Bool) : ar.Kept (ar.updateAttributes env vup keepRestricted).1 := by
  have kept := (AddressRange.updatePrefixes_keeps env ar (ar.keepAttributes env keepRestricted vup)).1
  simp only [AddressRange.updateAttributes]
  split
  · rename_i isResult
    rw [isResult] at kept
    exact kept
  · rename_i isResult
    rw [isResult] at kept
    split <;> exact kept

theorem Accounted.updateAr (accounted : pool.Accounted 0) (env : Environment)
    (ars : List VectorAttribute) (keepRestricted : Bool) : (pool.updateAr env ars keepRestricted).Accounted 0 := by
  simp only [AddressRangePool.updateAr]
  split
  · exact accounted
  · split
    · exact accounted
    · exact @Accounted.onRange Unit pool _ (fun _ => 0) 0 accounted _ rfl fun ar _ _ =>
        .kept (updateAttributes_keeps env ar _ keepRestricted)

theorem Accounted.loadRange (accounted : pool.Accounted 0) {attr : VectorAttribute}
    (absent : ∀ id ∈ pool.arPool, attr.unsignedValue "AR_ID" ≠ some id)
    (loaded : loadRange env pool attr = some after) : after.Accounted 0 ∧
      ∀ id ∈ after.arPool, attr.unsignedValue "AR_ID" = some id ∨ id ∈ pool.arPool := by
  obtain ⟨ar, isLoaded, rfl⟩ := Option.map_eq_some_iff.1 loaded
  obtain ⟨isId, sameManager⟩ := AddressRange.fromVattrDb_keeps isLoaded
  have isNew : ar.id ∉ pool.arPool := fun taken => absent ar.id taken isId
  have fits : ar.NextFits := by
    rw [AddressRange.NextFits, sameManager]
    exact newRange_nextFits _ _
  refine ⟨?_, fun id member => ?_⟩
  · have stored := accounted.insertNew isNew fits
    rw [Int.zero_add] at stored
    refine Accounted.countUsed ⟨stored.word, ?_, ?_⟩
    · simp only [Map.insertNew, if_neg isNew]
      exact stored.balance
    · simp only [Map.insertNew, if_neg isNew]
      exact stored.nextFits
  · rcases Map.mem_insertNew.1 member with same | old
    · exact .inl (same ▸ isId)
    · exact .inr old

theorem Accounted.loadRanges {attrs : List VectorAttribute} (accounted : pool.Accounted 0)
    (apart : (attrs.map fun attr => attr.unsignedValue "AR_ID").Nodup)
    (absent : ∀ attr ∈ attrs, ∀ id ∈ pool.arPool, attr.unsignedValue "AR_ID" ≠ some id)
    (loaded : loadRanges env attrs pool = some after) : after.Accounted 0 := by
  induction attrs generalizing pool with
  | nil => exact Option.some.inj loaded ▸ accounted
  | cons attr rest ih =>
    obtain ⟨notLater, restApart⟩ := List.nodup_cons.1 apart
    simp only [AddressRangePool.loadRanges] at loaded
    split at loaded
    · cases loaded
    · rename_i middle isMiddle
      obtain ⟨next, onlyNew⟩ := accounted.loadRange (absent attr List.mem_cons_self) isMiddle
      refine ih next restApart (fun other later id member isId => ?_) loaded
      rcases onlyNew id member with here | old
      · exact notLater (List.mem_map.2 ⟨other, later, isId.trans here.symm⟩)
      · exact absent other (List.mem_cons_of_mem _ later) id old isId

theorem accounted_empty : Accounted {} 0 :=
  ⟨by decide, rfl, fun id ar found => absurd found (by simp)⟩

theorem Accounted.reload (apart : (pool.arTemplate.map fun attr => attr.unsignedValue "AR_ID").Nodup)
    (loaded : pool.reload env = some after) : after.Accounted 0 :=
  accounted_empty.loadRanges apart (fun _ _ id member => absurd member (AList.notMem_empty id)) loaded

section

variable (accounted : pool.Accounted 0)
include accounted

theorem Accounted.allocateAddr (env : Environment)
    (ot : ObjectType) (obid : Int) (inherit : List String) (nic : VectorAttribute) :
    (pool.allocateAddr env ot obid inherit nic).1.Accounted 0 := by
  refine .counted ?_
  exact accounted.firstRange rfl
    (fun _ fits => AddressRange.allocateAddr_books fits ot obid inherit nic) pool.ids

theorem Accounted.allocateBy (env : Environment) (address : Address)
    (ot : ObjectType) (obid : Int) (inherit : List String) (nic : VectorAttribute) :
    (pool.allocateBy env address ot obid inherit nic).1.Accounted 0 := by
  refine .counted ?_
  exact accounted.firstRange rfl
    (fun _ _ => AddressRange.allocateBy_books address ot obid inherit nic) pool.ids

theorem Accounted.holdBy (env : Environment) (id : Option Nat)
    (address : Address) : (pool.holdBy env id address).Accounted 0 := by
  cases id with
  | some id =>
    refine .counted ?_
    have held := @Accounted.onRange Unit pool (fun ar => ar.holdBy env address)
      (AddressRange.onSuccess 1) 0 accounted id rfl fun _ _ _ =>
        AddressRange.holdBy_books address
    rw [Int.zero_add] at held
    exact held
  | none =>
    exact accounted.everyRange rfl (fun _ _ => AddressRange.holdBy_books address)
      (fun held => held.countUsed) pool.ids

theorem Accounted.freeAddr (env : Environment) (id : Option Nat) (address : Address) (ot : ObjectType) (obid : Int) :
    (pool.freeAddr env id address ot obid).Accounted 0 :=
  accounted.everyRange rfl (fun _ _ => AddressRange.freeAddr_books address ot obid)
    (fun freed => freed.countFreed) _

def freedCount (result : Option Nat) : Int := result.elim 0 fun count => -count

theorem Accounted.freeAddrByOwner (env : Environment)
    (ot : ObjectType) (obid : Int) : (pool.freeAddrByOwner env ot obid).Accounted 0 :=
  @Accounted.everyRange Nat pool _ freedCount _ accounted rfl
    (fun _ _ => AddressRange.filter_books _) (fun freed => freed.countFreed) pool.ids

theorem Accounted.freeAddrByRange (env : Environment) (id : Nat)
    (ot : ObjectType) (obid : Int) (mac : String) (rsize : Nat) :
    (pool.freeAddrByRange env id ot obid mac rsize).Accounted 0 :=
  @Accounted.everyRange Nat pool _ freedCount _ accounted rfl
    (fun _ _ => AddressRange.freeAddrByRange_books ot obid mac rsize)
    (fun freed => freed.countFreed) [id]

theorem Accounted.reserve {env : Environment} {choice : Choice}
    (vid : Int) {rsize : Nat} (rar : AddressRange) (short : rsize < 2 ^ 32)
    (ends : ∀ id address, choice = .starting id address →
      ∀ ar ∈ pool.arPool.lookup id, ar.EndsInWord env address rsize) :
    (pool.reserve env choice vid rsize rar).1.Accounted 0 := by
  cases choice with
  | any id =>
    refine .counted (accounted.firstRange rfl (fun ar fits => ?_) _)
    simp only [reserveOf]
    split
    · exact AddressRange.reserveAddr_books fits vid rar short
    · exact .refl ar
  | starting id address =>
    refine .counted ?_
    have reserved := @Accounted.onRange AddressRange pool
      (fun ar => ar.reserveAddrBy env address vid rsize rar) (AddressRange.onSuccess rsize) 0
      accounted id rfl fun ar found _ =>
        AddressRange.reserveAddrBy_books address vid rar (ends id address rfl ar found)
    rw [Int.zero_add] at reserved
    exact reserved

end

end AddressRangePool

namespace Networks

variable {networks : Networks}

def Accounted (networks : Networks) : Prop :=
  ∀ vid pool, networks.lookup vid = some pool → pool.Accounted 0

theorem Accounted.insert (accounted : networks.Accounted) {vid : Nat} {pool : AddressRangePool}
    (isAccounted : pool.Accounted 0) : Accounted (networks.insert vid pool) := by
  intro other found stored
  rw [Map.lookup_insert_eq] at stored
  split at stored
  · exact Option.some.inj stored ▸ isAccounted
  · exact accounted other found stored

theorem Accounted.onPool (accounted : networks.Accounted) {vid : Nat}
    {operation : AddressRangePool → AddressRangePool} {after : Networks}
    (kept : ∀ pool, networks.lookup vid = some pool → pool.Accounted 0 → (operation pool).Accounted 0)
    (stepped : networks.onPool vid operation = some after) : after.Accounted := by
  obtain ⟨pool, found, rfl⟩ := Option.map_eq_some_iff.1 stepped
  exact accounted.insert (kept pool found (accounted vid pool found))

theorem Accounted.reserve (accounted : networks.Accounted) {env : Environment} {pid rid : Nat}
    {choice : Choice} {rsize : Fin (2 ^ 32)}
    (counts : (PoolEvent.operation (.reserve env pid rid choice rsize)).Counts networks) :
    (networks.reserve env pid rid choice rsize).Accounted := by
  simp only [Networks.reserve]
  split
  · exact accounted
  · rename_i rvn isRvn
    have announced : Accounted (networks.insert rid rvn.allocateAr.1) :=
      accounted.insert (accounted rid rvn isRvn).allocateAr
    split
    · exact announced
    · rename_i pvn isPvn
      -- A new identifier is all that the target of the reservation gets at first.
      have sameRanges : ∃ pool ∈ networks.lookup pid, pool.arPool = pvn.arPool := by
        rw [Map.lookup_insert_eq] at isPvn
        split at isPvn
        · rename_i isRid
          exact ⟨rvn, isRid ▸ isRvn, Option.some.inj isPvn ▸ rfl⟩
        · exact ⟨pvn, isPvn, rfl⟩
      have ends : ∀ id address, choice = .starting id address →
          ∀ ar ∈ pvn.arPool.lookup id, ar.EndsInWord env address rsize := by
        rintro id address rfl ar found
        obtain ⟨pool, isPool, same⟩ := sameRanges
        exact counts pool isPool ar (same ▸ found)
      have kept := (announced pid pvn isPvn).reserve rid rvn.allocateAr.2 rsize.isLt ends
      have made := @AddressRangePool.reserve_keeps pvn env choice rid rsize rvn.allocateAr.2
      split
      · rename_i isResult
        rw [isResult] at kept
        exact announced.insert kept
      · rename_i after rar isResult
        rw [isResult] at kept made
        have stored : Accounted ((networks.insert rid rvn.allocateAr.1).insert pid after) := announced.insert kept
        split
        · exact stored
        · rename_i target isTarget
          exact stored.insert ((stored rid target isTarget).addAr env (made rfl))

theorem step_accounted {event : PoolEvent} {after : Networks} (accounted : networks.Accounted)
    (counts : event.Counts networks) (stepped : networks.poolStep event = some after) : after.Accounted := by
  cases event with
  | reload env vid =>
    obtain ⟨pool, found, isStored⟩ := Option.bind_eq_some_iff.1 stepped
    obtain ⟨loaded, isLoaded, rfl⟩ := Option.map_eq_some_iff.1 isStored
    exact accounted.insert (.reload (counts pool found) isLoaded)
  | operation event =>
    cases event with
    | create vid =>
      simp only [poolStep, step] at stepped
      split at stepped
      · cases stepped
      · exact Option.some.inj stepped ▸ accounted.insert AddressRangePool.accounted_empty
    | addAr env vid attr =>
      exact accounted.onPool (fun _ _ isAccounted => isAccounted.fromVattr env attr) stepped
    | updateAr env vid ars keepRestricted =>
      exact accounted.onPool
        (fun _ _ isAccounted => isAccounted.updateAr env ars keepRestricted) stepped
    | rmAr env vid id force =>
      exact accounted.onPool
        (fun pool found isAccounted => isAccounted.rmAr (counts pool found)) stepped
    | rmArs env vid =>
      exact accounted.onPool
        (fun pool found isAccounted =>
          isAccounted.rmArs pool.ids_nodup (fun _ _ => rfl) (counts pool found)) stepped
    | allocateAddr env vid ot obid inherit nic =>
      exact accounted.onPool
        (fun _ _ isAccounted => isAccounted.allocateAddr env ot obid inherit nic) stepped
    | allocateBy env vid address ot obid inherit nic =>
      exact accounted.onPool
        (fun _ _ isAccounted => isAccounted.allocateBy env address ot obid inherit nic) stepped
    | hold env vid id address =>
      exact accounted.onPool (fun _ _ isAccounted => isAccounted.holdBy env id address) stepped
    | freeAddr env vid id address ot obid =>
      exact accounted.onPool
        (fun _ _ isAccounted => isAccounted.freeAddr env id address ot obid) stepped
    | freeAddrByOwner env vid ot obid =>
      exact accounted.onPool
        (fun _ _ isAccounted => isAccounted.freeAddrByOwner env ot obid) stepped
    | freeAddrByRange env vid id ot obid mac rsize =>
      exact accounted.onPool
        (fun _ _ isAccounted => isAccounted.freeAddrByRange env id ot obid mac rsize) stepped
    | reserve env pid rid choice rsize =>
      exact Option.some.inj stepped ▸ accounted.reserve counts

/-- In a run where the ranges that are removed have no leases, the blocks that are reserved
have an end of 32 bits and the ranges that are read have different identifiers, the counter
is the number of leases, as long as this number fits the counter. -/
theorem pool_accounting (reached : poolSystem.Reachable (fun networks event => event.Counts networks) networks) :
    ∀ vid pool, networks.lookup vid = some pool → pool.usedAddr = pool.leaseCount % 2 ^ 32 ∧
        (pool.leaseCount < 2 ^ 32 → pool.usedAddr = pool.leaseCount) := by
  have accounted : networks.Accounted := by
    refine @System.Reachable.invariant _ _ _ _ (fun networks => networks.Accounted) _ reached ?_ ?_
    · rintro start rfl vid pool found
      exact absurd found (by simp)
    · intro before event after isAccounted counts stepped
      exact step_accounted isAccounted counts stepped
  intro vid pool found
  have balanced := (accounted vid pool found).balanced
  exact ⟨balanced, fun fits => balanced.trans (Nat.mod_eq_of_lt fits)⟩

def counterOf (networks : Networks) (vid : Nat) : Option (Nat × Nat) :=
  (networks.lookup vid).map fun pool => (pool.usedAddr, pool.leaseCount)

/-- A lease and a reservation; one of them is freed, another range is removed, and the
network is read again. -/
theorem pool_accounting_run : ∃ networks pool,
      poolSystem.Reachable (fun networks event => event.Counts networks) networks ∧
        networks.lookup 0 = some pool ∧ pool.leaseCount = 1 ∧ pool.usedAddr = pool.leaseCount := by
  have ran : ((poolSystem.exec (fun networks event => event.Counts networks) ∅
      [.operation (.create 0), .operation (.addAr plainEnvironment 0 twoAddresses),
        .operation (.addAr plainEnvironment 0 twoAddresses), .operation (.create 1),
        .operation (.allocateAddr plainEnvironment 0 .vm 7 [] ∅),
        .operation (.reserve plainEnvironment 0 1 (.starting 0 (.ip "10.0.0.2")) 1),
        .operation (.freeAddrByOwner plainEnvironment 0 .vm 7),
        .operation (.rmAr plainEnvironment 0 1 true),
        .reload plainEnvironment 0]).map fun networks => counterOf networks 0) =
      some (some (1, 1)) := by
    decide +kernel
  obtain ⟨networks, isRun, isCounter⟩ := Option.map_eq_some_iff.mp ran
  obtain ⟨pool, found, isCount⟩ := Option.map_eq_some_iff.mp isCounter
  obtain ⟨-, isOne⟩ := Prod.mk.inj isCount
  have reached := System.reachable_of_exec rfl isRun
  have exact := (pool_accounting reached 0 pool found).2 (isOne ▸ by decide)
  exact ⟨networks, pool, reached, found, isOne, exact⟩

/-- A range with a lease is removed by force, and the lease stays in the counter. -/
theorem pool_accounting_forced : ¬∀ networks, poolSystem.Reachable System.anyStep networks →
      ∀ vid pool, networks.lookup vid = some pool → pool.usedAddr = pool.leaseCount := by
  intro always
  have ran : ((poolSystem.exec System.anyStep ∅
      [.operation (.create 0), .operation (.addAr plainEnvironment 0 twoAddresses),
        .operation (.allocateAddr plainEnvironment 0 .vm 7 [] ∅),
        .operation (.rmAr plainEnvironment 0 0 true)]).map fun networks => counterOf networks 0) =
      some (some (1, 0)) := by
    decide +kernel
  obtain ⟨networks, isRun, isCounter⟩ := Option.map_eq_some_iff.mp ran
  obtain ⟨pool, found, isCount⟩ := Option.map_eq_some_iff.mp isCounter
  obtain ⟨isOne, isZero⟩ := Prod.mk.inj isCount
  have same := always networks (System.reachable_of_exec rfl isRun) 0 pool found
  omega

end Networks

end OpenNebula.Network
