import Mathlib.Data.List.Iterate
import OpenNebula.Network.Accounting

namespace OpenNebula.Network

open Common
open Library

/-! # From an index to an address and back

A lease is an index; a network interface gets the start of the range plus the index,
with 32 bits.  Freeing an address subtracts the start again, and refuses an address
below the start: what was beyond the last word of 32 bits is not found.
-/

theorem macToS_ne_empty (mac : Mac) : macToS mac ≠ "" := by
  intro same
  have chars := congrArg String.toList same
  rw [macToS, String.toList_intercalate] at chars
  simp at chars

theorem ipToS_ne_empty (ip : Nat) : ipToS ip ≠ "" := by
  intro same
  have chars := congrArg String.toList same
  rw [ipToS, String.toList_intercalate] at chars
  simp at chars

namespace AddressRange

variable {env later : Environment} {ar after : AddressRange}

def nextInLine (env : Environment) (ar : AddressRange) : Option Nat :=
  match ar.manager with
  | .internal next =>
    (List.iterate (fun index => (index + 1) % 2 ^ 32 % ar.arSize) next ar.arSize).find?
      fun index => index ∉ ar.allocated
  | .ipam =>
    ((env.getAddress ar.id 1).bind fun ip => ar.isValidIp env ip false).filter
      fun index => index ∉ ar.allocated ∧ index < ar.arSize

theorem singleLoop_eq_find (allocated : Map Nat Nat) (arSize count next : Nat) :
    (singleLoop allocated arSize count next).1 =
      (List.iterate (fun index => (index + 1) % 2 ^ 32 % arSize) next count).find?
        fun index => index ∉ allocated := by
  induction count generalizing next with
  | zero => rfl
  | succ count ih =>
    simp only [singleLoop, List.iterate]
    split
    · rename_i taken
      rw [List.find?_cons_of_neg (by simp [taken])]
      exact ih _
    · rename_i isFree
      rw [List.find?_cons_of_pos (by simp [isFree])]

theorem getAddr_eq_nextInLine (env : Environment) (ar : AddressRange) : (ar.getAddr env 1).2 = ar.nextInLine env := by
  cases isManager : ar.manager with
  | internal next =>
    simp only [getAddr, nextInLine, isManager, if_true]
    exact singleLoop_eq_find _ _ _ _
  | ipam =>
    simp only [getAddr, nextInLine, isManager]
    cases answered : (env.getAddress ar.id 1).bind fun ip => ar.isValidIp env ip false with
    | none => rfl
    | some index =>
      obtain ⟨ip, -, isValid⟩ := Option.bind_eq_some_iff.1 answered
      have word := (isValid_found (.ip ip) isValid).2
      have one : wrappedBlock index 1 = [index] := by
        rw [wrappedBlock, List.range_one, List.map_singleton, Nat.add_zero, Nat.mod_eq_of_lt word]
      simp only [one, List.any_cons, List.any_nil, Bool.or_false, decide_eq_true_eq]
      by_cases unusable : index ∈ ar.allocated ∨ ar.arSize ≤ index
      · have refused : ¬(index ∉ ar.allocated ∧ index < ar.arSize) := by
          rintro ⟨isFree, inside⟩
          exact unusable.elim isFree (Nat.not_le.2 inside)
        rw [if_pos unusable, Option.filter_some_neg (by simpa using refused)]
      · obtain ⟨isFree, inside⟩ := not_or.1 unusable
        have accepted : index ∉ ar.allocated ∧ index < ar.arSize := ⟨isFree, Nat.not_le.1 inside⟩
        rw [if_neg unusable, Option.filter_some_pos (by simpa using accepted)]

variable {name : String} {index : Nat}

theorem setPortRanges_value (index : Nat) (nic : VectorAttribute) (notExternal : name ≠ "EXTERNAL_PORT_RANGE")
    (notInternal : name ≠ "INTERNAL_PORT_RANGE") :
    (ar.setPortRanges index nic).vectorValue name = nic.vectorValue name := by
  simp only [setPortRanges]
  split
  · rfl
  · rw [VectorAttribute.vectorValue_replace, if_neg notInternal,
      VectorAttribute.vectorValue_replace, if_neg notExternal]

theorem copyValue_value {name other : String} (nic : VectorAttribute) (apart : other ≠ name) :
    (ar.copyValue name nic).vectorValue other = nic.vectorValue other := by
  simp only [copyValue]
  split
  · rfl
  · rw [VectorAttribute.vectorValue_replace, if_neg apart]

theorem inherit_value {name : String} (inherit : List String) (nic : VectorAttribute)
    (isSet : nic.vectorValue name ≠ "") :
    (inherit.foldl (fun nic name => if nic.vectorValue name = "" then ar.copyValue name nic else nic)
      nic).vectorValue name = nic.vectorValue name := by
  induction inherit generalizing nic with
  | nil => rfl
  | cons first rest ih =>
    rw [List.foldl_cons]
    split
    · rename_i isEmpty
      have apart : name ≠ first := fun same => isSet (same ▸ isEmpty)
      have kept := @copyValue_value ar first name nic apart
      rw [ih _ (kept ▸ isSet), kept]
    · exact ih nic isSet

theorem setVnet_value (inherit : List String) (nic : VectorAttribute) (isSet : nic.vectorValue name ≠ "")
    (apart : name ∉ ["AR_ID", "VN_MAD", "BRIDGE", "PHYDEV", "VLAN_ID"]) :
    (ar.setVnet inherit nic).vectorValue name = nic.vectorValue name := by
  simp only [List.mem_cons, List.not_mem_nil, or_false, not_or] at apart
  obtain ⟨notArId, notVnMad, notBridge, notPhydev, notVlanId⟩ := apart
  have kept : (["VN_MAD", "BRIDGE", "PHYDEV", "VLAN_ID"].foldl (fun nic name => ar.copyValue name nic)
      (nic.replace "AR_ID" (toString ar.id))).vectorValue name = nic.vectorValue name := by
    simp only [List.foldl]
    rw [copyValue_value _ notVlanId, copyValue_value _ notPhydev, copyValue_value _ notBridge,
      copyValue_value _ notVnMad, VectorAttribute.vectorValue_replace, if_neg notArId]
  rw [setVnet, inherit_value inherit _ (kept.symm ▸ isSet), kept]

section

variable (env : Environment)

theorem setIp6_value (index : Nat) (nic : VectorAttribute)
    (apart : name ∉ ["IP6_LINK", "IP6_ULA", "IP6_GLOBAL"]) :
    (ar.setIp6 env index nic).vectorValue name = nic.vectorValue name := by
  simp only [List.mem_cons, List.not_mem_nil, or_false, not_or] at apart
  obtain ⟨notLink, notUla, notGlobal⟩ := apart
  simp only [setIp6]
  split <;> split <;> simp [notLink, notUla, notGlobal]

def ip6Attributes (ar : AddressRange) (index : Nat) (inherit : List String)
    (nic : VectorAttribute) : VectorAttribute :=
  let nic := if ar.isIpv6 then ar.setIp6 env index nic else nic
  let nic := if ar.isIpv6Static then ar.setIp6Static env index nic else nic
  ar.setVnet inherit nic

theorem ip6Attributes_value (index : Nat) (inherit : List String) (nic : VectorAttribute)
    (isSet : nic.vectorValue name ≠ "") (isName : name = "MAC" ∨ name = "IP") :
    (ar.ip6Attributes env index inherit nic).vectorValue name = nic.vectorValue name := by
  have afterIp6 : (if ar.isIpv6 then ar.setIp6 env index nic else nic).vectorValue name =
      nic.vectorValue name := by
    split
    · refine setIp6_value env index nic ?_
      rcases isName with rfl | rfl <;> decide
    · rfl
  have afterStatic : (if ar.isIpv6Static then
      ar.setIp6Static env index (if ar.isIpv6 then ar.setIp6 env index nic else nic)
      else if ar.isIpv6 then ar.setIp6 env index nic else nic).vectorValue name =
      nic.vectorValue name := by
    split
    · rw [setIp6Static, VectorAttribute.vectorValue_replace, if_neg, afterIp6]
      rcases isName with rfl | rfl <;> decide
    · exact afterIp6
  rw [ip6Attributes, setVnet_value, afterStatic]
  · exact afterStatic.symm ▸ isSet
  · rcases isName with rfl | rfl <;> decide

theorem leaseAttributes_mac (ar : AddressRange) (index : Nat)
    (inherit : List String) (nic : VectorAttribute) :
    (ar.leaseAttributes env index inherit nic).vectorValue "MAC" = macToS (ar.newMac index) := by
  have ports : (ar.setPortRanges index (ar.setMac index nic)).vectorValue "MAC" =
      macToS (ar.newMac index) := by
    rw [setPortRanges_value _ _ (by decide) (by decide), setMac, VectorAttribute.vectorValue_replace, if_pos rfl]
  have afterIp : (if ar.isIpv4 then ar.setIp index (ar.setPortRanges index (ar.setMac index nic))
      else ar.setPortRanges index (ar.setMac index nic)).vectorValue "MAC" =
      macToS (ar.newMac index) := by
    split
    · rw [setIp, VectorAttribute.vectorValue_replace, if_neg (by decide), ports]
    · exact ports
  exact (ip6Attributes_value env index inherit _ (afterIp.symm ▸ macToS_ne_empty _) (.inl rfl)).trans
    afterIp

theorem leaseAttributes_ip (isIpv4 : ar.isIpv4 = true) (env : Environment) (index : Nat)
    (inherit : List String) (nic : VectorAttribute) : (ar.leaseAttributes env index inherit nic).vectorValue "IP" =
      ipToS ((ar.ip + index) % 2 ^ 32) := by
  have afterIp : (if ar.isIpv4 then ar.setIp index (ar.setPortRanges index (ar.setMac index nic))
      else ar.setPortRanges index (ar.setMac index nic)).vectorValue "IP" =
      ipToS ((ar.ip + index) % 2 ^ 32) := by
    rw [if_pos isIpv4, setIp, VectorAttribute.vectorValue_replace, if_pos rfl]
  exact (ip6Attributes_value env index inherit _ (afterIp.symm ▸ ipToS_ne_empty _) (.inr rfl)).trans
    afterIp

def Restores (later : Environment) (before after : AddressRange) (obid : Int) (address : Address) : Prop :=
  (after.freeAddr later address .vm obid).2 = some () ∧
    (after.freeAddr later address .vm obid).1.allocated = before.allocated

theorem freeIndex_word {start size : Nat} :
    (if start > (start + index) % 2 ^ 32 ∨ size ≤ (start + index) % 2 ^ 32 - start then none
      else some ((start + index) % 2 ^ 32 - start)) = some index ↔ index < size ∧ start + index < 2 ^ 32 := by
  constructor
  · intro found
    split at found
    · cases found
    · have same := Option.some.inj found
      omega
  · rintro ⟨inside, word⟩
    rw [Nat.mod_eq_of_lt word, if_neg (by omega)]
    simp

theorem restores_iff {obid : Int} {address : Address} (isFree : index ∉ ar.allocated)
    (given : after.allocated = ar.allocated.insert index (packOwner .vm obid)) :
    Restores later ar after obid address ↔
      after.freeIndex later address = some index ∧ after.giveAddr later index = true := by
  simp only [Restores, freeAddr]
  constructor
  · rintro ⟨succeeded, restored⟩
    split at succeeded
    · cases succeeded
    · rename_i freed found
      simp only [found] at restored
      by_cases gives : after.giveAddr later freed = true
      · simp only [gives, if_true, freeAllocatedAddr] at succeeded restored
        by_cases held : after.allocated.lookup freed = some (packOwner .vm obid)
        · rw [if_pos held] at restored
          have same : freed = index := by
            by_contra apart
            have stays : index ∈ after.allocated.erase freed :=
              AList.mem_erase.2 ⟨fun isFreed => apart isFreed.symm, given ▸ (AList.mem_insert _).2 (.inl rfl)⟩
            have leases : after.allocated.erase freed = ar.allocated := restored
            exact isFree (leases ▸ stays)
          exact ⟨same ▸ found, same ▸ gives⟩
        · simp [if_neg held] at succeeded
      · simp [gives] at succeeded
  · rintro ⟨found, gives⟩
    have held : after.allocated.lookup index = some (packOwner .vm obid) := by
      rw [given, AList.lookup_insert]
    simp only [found, gives, if_true, freeAllocatedAddr, if_pos held, true_and]
    change after.allocated.erase index = ar.allocated
    rw [given, Map.erase_insert_new isFree]

theorem getAddr_moves (ar : AddressRange) (rsize : Nat) :
    ∃ manager, (ar.getAddr env rsize).1 = { ar with manager } ∧
      ∀ later : Environment, ({ ar with manager } : AddressRange).giveAddr later = ar.giveAddr later := by
  cases isManager : ar.manager with
  | internal next =>
    simp only [getAddr, isManager]
    split
    · refine ⟨_, rfl, fun later => ?_⟩
      funext index
      simp only [giveAddr, isManager]
    · exact ⟨ar.manager, rfl, fun later => rfl⟩
  | ipam =>
    have same : (ar.getAddr env rsize).1 = ar := by
      simp only [getAddr, isManager]
      split
      · rfl
      · split <;> rfl
    exact ⟨ar.manager, same, fun later => rfl⟩

end

theorem nextInLine_free (found : index ∈ ar.nextInLine env) : index ∉ ar.allocated := by
  simp only [nextInLine, Option.mem_def] at found
  split at found
  · exact by simpa using List.find?_some found
  · exact (of_decide_eq_true (Option.filter_eq_some_iff.1 found).2).1

theorem allocateAddr_given {ot : ObjectType} {obid : Int} {inherit : List String} {nic leased : VectorAttribute}
    (given : ar.allocateAddr env ot obid inherit nic = (after, some leased)) : ∃ index ∈ ar.nextInLine env,
      after.allocated = ar.allocated.insert index (packOwner ot obid) ∧
      leased.vectorValue "MAC" = macToS (ar.newMac index) ∧
      (ar.isIpv4 = true → leased.vectorValue "IP" = ipToS ((ar.ip + index) % 2 ^ 32)) ∧
      ∀ later : Environment, after.freeIndex later = ar.freeIndex later ∧
        after.giveAddr later = ar.giveAddr later := by
  obtain ⟨manager, moved, gives⟩ := getAddr_moves env ar 1
  have isNext := getAddr_eq_nextInLine env ar
  simp only [allocateAddr] at given
  split at given
  · cases given
  · split at given
    · cases given
    · rename_i middle index isResult
      rw [isResult] at moved isNext
      obtain rfl : middle = { ar with manager } := moved
      obtain ⟨rfl, isLeased⟩ := Prod.mk.inj given
      obtain rfl := Option.some.inj isLeased
      have isFree : index ∉ ar.allocated := nextInLine_free isNext.symm
      refine ⟨index, isNext.symm, ?_, ?_, fun isIpv4 => ?_, fun later => ⟨rfl, gives later⟩⟩
      · exact if_neg isFree
      · exact leaseAttributes_mac env _ index inherit nic
      · exact @leaseAttributes_ip { ar with manager } isIpv4 env index inherit nic

/-- Freeing the MAC or the IPv4 address of a new lease undoes the allocation if and only if
the index that was next in line lies in the range, the address is not beyond the last word
and the driver frees it. -/
theorem lease_round_trip {obid : Int} {inherit : List String} {nic leased : VectorAttribute}
    (given : ar.allocateAddr env .vm obid inherit nic = (after, some leased)) :
    ∃ index ∈ ar.nextInLine env, index ∉ ar.allocated ∧
      after.allocated = ar.allocated.insert index (packOwner .vm obid) ∧ ∀ later : Environment,
        (Restores later ar after obid (.mac (leased.vectorValue "MAC")) ↔
          index < ar.size ∧ ar.mac.low + index < 2 ^ 32 ∧ ar.giveAddr later index = true) ∧ (ar.isIpv4 = true →
          (Restores later ar after obid (.ip (leased.vectorValue "IP")) ↔
            index < ar.size ∧ ar.ip + index < 2 ^ 32 ∧ ar.giveAddr later index = true)) := by
  obtain ⟨index, isNext, inserted, isMac, isIp, same⟩ := allocateAddr_given given
  have isFree := nextInLine_free isNext
  refine ⟨index, isNext, isFree, inserted, fun later => ⟨?_, fun isIpv4 => ?_⟩⟩
  · rw [restores_iff isFree inserted, (same later).1, (same later).2, isMac, ← and_assoc]
    refine and_congr_left fun _ => ?_
    have word : (ar.newMac index).low < 2 ^ 32 := Nat.mod_lt _ (by decide)
    simp only [freeIndex, macToI_macToS word]
    exact freeIndex_word
  · rw [restores_iff isFree inserted, (same later).1, (same later).2, isIp isIpv4, ← and_assoc]
    refine and_congr_left fun _ => ?_
    have word : (ar.ip + index) % 2 ^ 32 < 2 ^ 32 := Nat.mod_lt _ (by decide)
    simp only [freeIndex, isIpv4, Bool.not_true, Bool.false_eq_true, if_false, ipToI_ipToS word]
    exact freeIndex_word

end AddressRange

namespace Networks

open AddressRange (Restores)

def freshRange : AddressRange :=
  (AddressRange.fromVattr plainEnvironment { id := 0, manager := .internal 0 } twoAddresses).1

/-- The first address is freed by its MAC and by its IP. -/
theorem lease_round_trip_first : ∃ after leased,
      freshRange.allocateAddr plainEnvironment .vm 7 [] ∅ = (after, some leased) ∧
        leased.vectorValue "IP" = "10.0.0.1" ∧
        Restores plainEnvironment freshRange after 7 (.mac (leased.vectorValue "MAC")) ∧
        Restores plainEnvironment freshRange after 7 (.ip (leased.vectorValue "IP")) := by
  have given : (freshRange.allocateAddr plainEnvironment .vm 7 [] ∅).2.map
      (fun leased => leased.vectorValue "IP") = some "10.0.0.1" := by
    decide +kernel
  obtain ⟨leased, isLeased, isIp⟩ := Option.map_eq_some_iff.mp given
  have outcome : freshRange.allocateAddr plainEnvironment .vm 7 [] ∅ = (_, some leased) := Prod.ext rfl isLeased
  obtain ⟨index, isNext, -, -, exactly⟩ := AddressRange.lease_round_trip outcome
  have isFirst : freshRange.nextInLine plainEnvironment = some 0 := by decide +kernel
  obtain rfl : 0 = index := Option.some.inj (isFirst.symm.trans isNext)
  obtain ⟨byMac, byIp⟩ := exactly plainEnvironment
  exact ⟨_, leased, outcome, isIp, byMac.mpr (by decide +kernel), (byIp (by decide +kernel)).mpr (by decide +kernel)⟩

/-- `AR = [ TYPE = "ETHER", MAC = "02:00:ff:ff:ff:ff", SIZE = "2" ]` -/
def lastWord : VectorAttribute :=
  (((∅ : VectorAttribute).replace "TYPE" "ETHER").replace "MAC" "02:00:ff:ff:ff:ff").replace "SIZE"
    "2"

/-- The second address of a range that starts at the last word gets a MAC below the start,
which is not freed. -/
theorem lease_round_trip_last_word : ¬∀ networks, system.Reachable System.anyStep networks →
      ∀ vid pool, networks.lookup vid = some pool → ∀ id ar, pool.arPool.lookup id = some ar →
        ∀ obid inherit nic after leased,
          ar.allocateAddr plainEnvironment .vm obid inherit nic = (after, some leased) →
            Restores plainEnvironment ar after obid (.mac (leased.vectorValue "MAC")) := by
  intro always
  have ran : ((system.exec System.anyStep ∅ [.create 0, .addAr plainEnvironment 0 lastWord,
        .allocateAddr plainEnvironment 0 .vm 7 [] ∅]).map fun networks =>
        (networks.lookup 0).map fun pool => (pool.arPool.lookup 0).map fun ar =>
          ((ar.allocateAddr plainEnvironment .vm 8 [] ∅).2.map fun leased => leased.vectorValue "MAC",
            ((ar.allocateAddr plainEnvironment .vm 8 [] ∅).1.freeAddr plainEnvironment
              (.mac "02:00:00:00:00:00") .vm 8).2)) =
      some (some (some (some "02:00:00:00:00:00", none))) := by
    decide +kernel
  obtain ⟨networks, isRun, isPool⟩ := Option.map_eq_some_iff.mp ran
  obtain ⟨pool, found, isRange⟩ := Option.map_eq_some_iff.mp isPool
  obtain ⟨ar, stored, isOutcome⟩ := Option.map_eq_some_iff.mp isRange
  obtain ⟨isMac, notFreed⟩ := Prod.mk.inj isOutcome
  obtain ⟨leased, isLeased, isText⟩ := Option.map_eq_some_iff.mp isMac
  have restored := always networks (System.reachable_of_exec rfl isRun) 0 pool found 0 ar stored 8 []
    ∅ _ leased (Prod.ext rfl isLeased)
  rw [isText] at restored
  exact absurd (notFreed.symm.trans restored.1) (by simp)

end Networks

end OpenNebula.Network
