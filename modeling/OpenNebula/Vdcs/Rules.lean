import OpenNebula.Users.AdminRules
import OpenNebula.Vdcs.Vdc

namespace OpenNebula.Vdcs

open Acl Library
open Users hiding Operation

/-! # The rules of a group on a resource

They are well formed for every resource that exists, and name the group and the resource.
-/

def ruleTypes : List ObjectType := [.host, .net, .datastore]

theorem addOperation_small {op : BitVec 64} (small : op.toNat < 2 ^ 4) (str : String) :
    (addOperation op str).toNat < 2 ^ 4 := by
  unfold addOperation
  split
  · rw [BitVec.toNat_or]
    refine Nat.or_lt_two_pow small ?_
    unfold strToOperation
    split_ifs <;> decide
  · exact small

theorem defaultRights_small (text : String) : (defaultRights text).toNat < 2 ^ 4 := by
  unfold defaultRights
  generalize (pieces '+' text).filter (· ≠ "") = parts
  have start : (Acl.Operation.none.bits).toNat < 2 ^ 4 := by decide
  revert start
  generalize Acl.Operation.none.bits = op
  induction parts generalizing op with
  | nil => exact id
  | cons part rest ih => exact fun small => ih _ (addOperation_small small part)

theorem mem_insertDefaultRules {config : Configuration} {nameAttr : String} {objType : ObjectType}
    {rule : ObjectType × BitVec 64} (member : rule ∈ insertDefaultRules config nameAttr objType) :
    rule.1 = objType ∧ rule.2 ≠ 0 ∧ rule.2.toInt ≤ 0xF := by
  simp only [insertDefaultRules] at member
  split at member
  · rename_i someRights
    rw [List.mem_singleton.1 member]
    have small := defaultRights_small (config nameAttr)
    refine ⟨rfl, someRights, ?_⟩
    dsimp only
    rw [BitVec.toInt_eq_toNat_of_lt (by omega)]
    omega
  · cases member

theorem mem_rules {config : Configuration} {kind : Kind} {rule : ObjectType × BitVec 64}
    (member : rule ∈ kind.rules config) : rule.1 ∈ ruleTypes ∧ rule.2 ≠ 0 ∧ rule.2.toInt ≤ 0xF := by
  have ofType {nameAttr : String} {objType : ObjectType} (known : objType ∈ ruleTypes)
      (inside : rule ∈ insertDefaultRules config nameAttr objType) :
      rule.1 ∈ ruleTypes ∧ rule.2 ≠ 0 ∧ rule.2.toInt ≤ 0xF := by
    obtain ⟨isType, rights⟩ := mem_insertDefaultRules inside
    exact ⟨isType ▸ known, rights⟩
  cases kind with
  | clusters =>
    rw [Kind.rules] at member
    rcases List.mem_append.1 member with first | third
    · rcases List.mem_append.1 first with first | second
      · exact ofType (by decide) first
      · exact ofType (by decide) second
    · exact ofType (by decide) third
  | hosts =>
    rw [Kind.rules.eq_2 config .hosts (by decide)] at member
    exact ofType (by decide) member
  | datastores =>
    rw [Kind.rules.eq_2 config .datastores (by decide)] at member
    exact ofType (by decide) member
  | vnets =>
    rw [Kind.rules.eq_2 config .vnets (by decide)] at member
    exact ofType (by decide) member

/-- Other negative numbers are not refused in zones other than the local one. -/
def Resource.Valid (resource : Resource) : Prop := resource.2 = allResources ∨ 0 ≤ resource.2.toInt

instance (resource : Resource) : Decidable resource.Valid := inferInstanceAs (Decidable (_ ∨ _))

theorem exists_oid {id : BitVec 32} (natural : 0 ≤ id.toInt) : ∃ oid : Oid, oid.bits = id := by
  have positive : 2 * id.toNat < 2 ^ 32 := by
    rw [← BitVec.msb_eq_false_iff_two_mul_lt, BitVec.msb_eq_toInt]
    exact decide_eq_false (Int.not_lt.2 natural)
  refine ⟨⟨id.toNat, by omega⟩, ?_⟩
  apply BitVec.eq_of_toNat_eq
  rw [Oid.bits, BitVec.toNat_ofNat]
  exact Nat.mod_eq_of_lt (by omega)

def Kind.selector (kind : Kind) : BitVec 64 := if kind = .clusters then clusterId else individualId

namespace ResourceSet

variable {config : Configuration} {kind : Kind} {gid : Oid} {resource : Resource} {rule : AclRule}

theorem maskPrefix_all (kind : Kind) : maskPrefix kind allResources = allId := if_pos rfl

theorem maskPrefix_oid (kind : Kind) (oid : Oid) : maskPrefix kind oid.bits = kind.selector ||| wide oid.bits := by
  have single : oid.bits ≠ allResources := by
    intro same
    have value := congrArg BitVec.toInt same
    rw [Oid.bits_toInt] at value
    have negative : allResources.toInt = -10 := by decide
    omega
  unfold maskPrefix Kind.selector
  rw [if_neg single]
  split <;> rfl

theorem resource_compound (selector type : BitVec 64) (oid : Oid) :
    selector ||| wide oid.bits ||| type = selector ||| type ||| wide oid.bits := by
  rw [BitVec.or_assoc, BitVec.or_comm (wide oid.bits), ← BitVec.or_assoc]

theorem selector_wellFormed : ∀ objType ∈ ruleTypes, ∀ selector ∈ [allId, clusterId, individualId],
    (selector ||| objType.bits).setWidth 32 = 0#32 ∧
      (⟨-1, groupId, selector ||| objType.bits, 1, individualId⟩ : AclRule).malformed = none := by
  intro objType known selector isSelector
  simp only [ruleTypes, List.mem_cons, List.not_mem_nil, or_false] at known isSelector
  rcases known with rfl | rfl | rfl <;> rcases isSelector with rfl | rfl | rfl <;> decide

theorem selector_notAll : ∀ objType ∈ ruleTypes, ∀ selector ∈ [clusterId, individualId],
    AclRule.has (selector ||| objType.bits) allId = false := by
  intro objType known selector isSelector
  simp only [ruleTypes, List.mem_cons, List.not_mem_nil, or_false] at known isSelector
  rcases known with rfl | rfl | rfl <;> rcases isSelector with rfl | rfl <;> decide

theorem selector_cases (kind : Kind) : kind.selector ∈ [clusterId, individualId] := by
  cases kind <;> decide

theorem rulesOf_wellFormed (valid : resource.Valid) (member : rule ∈ rulesOf config kind gid resource) :
    rule.malformed = none := by
  obtain ⟨⟨objType, rights⟩, isRule, rfl⟩ := List.mem_map.1 member
  obtain ⟨known, someRights, few⟩ := mem_rules isRule
  refine user_wellFormed (by decide) (by decide) (zone_wellFormed (by decide) (by decide) ?_)
  dsimp only
  rcases valid with isAll | natural
  · rw [isAll, maskPrefix_all]
    exact rights_wellFormed someRights few (selector_wellFormed objType known allId (List.mem_cons_self ..)).2
  · obtain ⟨oid, isOid⟩ := exists_oid natural
    rw [← isOid, maskPrefix_oid, resource_compound]
    have isSelector := selector_cases kind
    obtain ⟨isHigh, wellFormed⟩ := selector_wellFormed objType known kind.selector (List.mem_cons_of_mem _ isSelector)
    exact resource_wellFormed isHigh (selector_notAll objType known _ isSelector)
      (rights_wellFormed someRights few wellFormed)

theorem rulesOf_malformed (notValid : ¬resource.Valid) (member : rule ∈ rulesOf config kind gid resource) :
    rule.malformed ≠ none := by
  obtain ⟨notAll, negative⟩ := not_or.1 notValid
  obtain ⟨pair, -, rfl⟩ := List.mem_map.1 member
  intro wellFormed
  have passed := (AclRule.malformed_eq_none_iff _).1 wellFormed
    ⟨AclRule.has (maskPrefix kind resource.2 ||| pair.1.bits) 0xFE80000000000000, "wrong [resource] type", "; "⟩
    (by simp [AclRule.checks, AclRule.resourceChecks])
  have sign : (wide resource.2).getLsbD 63 = true := by
    rw [wide, BitVec.getLsbD_signExtend, BitVec.msb_eq_toInt]
    exact decide_eq_true (Int.not_le.1 negative)
  have bit : (maskPrefix kind resource.2).getLsbD 63 = true := by
    unfold maskPrefix
    rw [if_neg notAll]
    split <;> rw [BitVec.getLsbD_or, sign, Bool.or_true]
  have masked := of_decide_eq_false passed
  have same := congrArg (fun compound => compound.getLsbD 63) (not_not.1 masked)
  rw [BitVec.getLsbD_and, BitVec.getLsbD_or, bit] at same
  cases same

theorem oid_of_mem (member : rule ∈ rulesOf config kind gid resource) : rule.oid = -1 := by
  obtain ⟨pair, -, rfl⟩ := List.mem_map.1 member
  rfl

theorem eq_of_sameAs {other : AclRule} (noOid : rule.oid = -1) (otherOid : other.oid = -1)
    (same : rule.sameAs other = true) : rule = other := by
  obtain ⟨oid, user, res, rights, zone⟩ := rule
  obtain ⟨otherId, otherUser, otherRes, otherRights, otherZone⟩ := other
  obtain ⟨rfl, rfl, rfl, rfl⟩ := AclRule.sameAs_iff.1 same
  cases noOid
  cases otherOid
  rfl

theorem all_of_mem (valid : resource.Valid) (member : rule ∈ rulesOf config kind gid resource) :
    AclRule.has rule.resource allId = decide (resource.2 = allResources) := by
  obtain ⟨⟨objType, rights⟩, isRule, rfl⟩ := List.mem_map.1 member
  obtain ⟨known, -⟩ := mem_rules isRule
  dsimp only
  by_cases isAll : resource.2 = allResources
  · rw [isAll, maskPrefix_all, decide_eq_true rfl]
    clear isRule member
    simp only [ruleTypes, List.mem_cons, List.not_mem_nil, or_false] at known
    rcases known with rfl | rfl | rfl <;> decide
  · obtain ⟨oid, isOid⟩ := exists_oid (valid.resolve_left isAll)
    rw [decide_eq_false isAll, ← isOid, maskPrefix_oid, resource_compound, has_compound oid (by decide)]
    exact selector_notAll objType known _ (selector_cases kind)

theorem id_of_mem (natural : 0 ≤ resource.2.toInt) (member : rule ∈ rulesOf config kind gid resource) :
    AclRule.idOf rule.resource = resource.2 := by
  obtain ⟨⟨objType, rights⟩, isRule, rfl⟩ := List.mem_map.1 member
  obtain ⟨known, -⟩ := mem_rules isRule
  obtain ⟨oid, isOid⟩ := exists_oid natural
  have isHigh := (selector_wellFormed objType known kind.selector (List.mem_cons_of_mem _ (selector_cases kind))).1
  dsimp only
  rw [← isOid, maskPrefix_oid, resource_compound, Oid.compound_idOf oid isHigh]

theorem rulesOf_injective {otherKind : Kind} {otherGid : Oid} {other : Resource} (valid : resource.Valid)
    (otherValid : other.Valid) (member : rule ∈ rulesOf config kind gid resource)
    (otherMember : rule ∈ rulesOf config otherKind otherGid other) : gid = otherGid ∧ resource = other := by
  have sameAll : decide (resource.2 = allResources) = decide (other.2 = allResources) :=
    (all_of_mem valid member).symm.trans (all_of_mem otherValid otherMember)
  have sameId : resource.2 = other.2 := by
    by_cases isAll : resource.2 = allResources
    · rw [decide_eq_true isAll] at sameAll
      rw [isAll, of_decide_eq_true sameAll.symm]
    · rw [decide_eq_false isAll] at sameAll
      have otherNatural := otherValid.resolve_left (of_decide_eq_false sameAll.symm)
      rw [← id_of_mem (valid.resolve_left isAll) member, id_of_mem otherNatural otherMember]
  obtain ⟨pair, -, rfl⟩ := List.mem_map.1 member
  obtain ⟨otherPair, -, same⟩ := List.mem_map.1 otherMember
  have sameGid : otherGid = gid :=
    (Oid.compound_injective (by decide) : Function.Injective _) (congrArg AclRule.user same)
  have sameZone : other.1 = resource.1 :=
    (Oid.compound_injective (by decide) : Function.Injective _) (congrArg AclRule.zone same)
  exact ⟨sameGid.symm, Prod.ext sameZone.symm sameId⟩

end ResourceSet

end OpenNebula.Vdcs
