import Mathlib.Algebra.Order.Ring.Nat
import Mathlib.Tactic.Common
import OpenNebula.Acl.AclRule

namespace OpenNebula.Acl

/-! # Rules that are not malformed

A compound names one identifier of one kind, or all.  The checks of `malformed` leave some bits of
a user and of a zone aside, and the sign of the rights; for rules without these it accepts the well
formed ones to which the selector of the resource can be applied.
-/

def Selects (bound : Nat) (kinds : List (BitVec 64)) (compound : BitVec 64) : Prop :=
  (∃ kind ∈ kinds, ∃ id < bound, compound = kind + BitVec.ofNat 64 id) ∨ compound = allId

def objectTypes : BitVec 64 :=
  ObjectType.union [.vm, .host, .net, .image, .user, .template, .group, .acl, .datastore, .cluster,
    .document, .zone, .secgroup, .vdc, .vrouter, .marketplace, .marketplaceapp, .vmgroup, .vntemplate,
    .backupjob]

/-- `USE`, `MANAGE`, `ADMIN` and `CREATE` -/
def allRights : BitVec 64 := AclRule.authOperations.foldl (fun bits operation => bits ||| operation.bits) 0

namespace AclRule

variable (rule : AclRule)

structure WellFormed (bound : Nat) : Prop where
  user : Selects bound [individualId, groupId] rule.user
  resource : ∃ types selector, types ≠ 0 ∧ types &&& objectTypes = types ∧
    Selects bound [individualId, groupId, clusterId] selector ∧ rule.resource = types + selector
  rights : rule.rights ≠ 0 ∧ rule.rights &&& allRights = rule.rights
  zone : Selects bound [individualId] rule.zone

/-- The selector of the resource suits its types, and the zone. -/
structure Applies : Prop where
  cluster : has rule.resource clusterId = true → has rule.resourceType invalidClusterObjects = false
  group : has rule.resource groupId = true → has rule.resourceType invalidGroupObjects = false
  federated : has rule.zone allId = true → has rule.resource individualId = true →
    rule.resourceType &&& federatedObjects = rule.resourceType

def Plain : Prop := rule.user < clusterId ∧ rule.zone < clusterId ∧ 0 ≤ rule.rights.toInt

end AclRule

namespace AclRule

section

variable (compound : BitVec 64)

theorem has_twoPow {position : Nat} (inside : position < 64) :
    has compound (BitVec.twoPow 64 position) = true ↔ compound.toNat / 2 ^ position % 2 = 1 := by
  have bit : compound.getLsbD position = true ↔ compound.toNat / 2 ^ position % 2 = 1 := by
    rw [BitVec.getLsbD, Nat.testBit_eq_decide_div_mod_eq, decide_eq_true_iff]
  have notZero : BitVec.twoPow 64 position ≠ 0#64 := by
    rw [ne_eq, ← BitVec.toNat_inj, BitVec.toNat_twoPow_of_lt inside]
    exact Nat.ne_of_gt (Nat.two_pow_pos position)
  rw [← bit, has, BitVec.and_twoPow, decide_eq_true_iff]
  split
  · rename_i isSet
    exact iff_of_true notZero isSet
  · rename_i notSet
    exact iff_of_false (not_not_intro rfl) notSet

theorem has_individual : has compound individualId = true ↔ compound.toNat / 2 ^ 32 % 2 = 1 :=
  has_twoPow compound (by decide : 32 < 64)

theorem has_group : has compound groupId = true ↔ compound.toNat / 2 ^ 33 % 2 = 1 :=
  has_twoPow compound (by decide : 33 < 64)

theorem has_all : has compound allId = true ↔ compound.toNat / 2 ^ 34 % 2 = 1 :=
  has_twoPow compound (by decide : 34 < 64)

theorem has_cluster : has compound clusterId = true ↔ compound.toNat / 2 ^ 35 % 2 = 1 :=
  has_twoPow compound (by decide : 35 < 64)

theorem has_or (compound first second : BitVec 64) :
    has compound (first ||| second) = true ↔ has compound first = true ∨ has compound second = true := by
  rw [has, has, has, decide_eq_true_iff, decide_eq_true_iff, decide_eq_true_iff, BitVec.and_or_distrib_left]
  exact BitVec.or_eq_zero_iff.not.trans not_and_or

theorem has_kind : has compound 0x700000000 = true ↔
      has compound individualId = true ∨ has compound groupId = true ∨ has compound allId = true := by
  rw [show (0x700000000 : BitVec 64) = individualId ||| (groupId ||| allId) from rfl, has_or, has_or]

theorem has_selector :
    has compound 0xF00000000 = true ↔ has compound individualId = true ∨ has compound groupId = true ∨
      has compound allId = true ∨ has compound clusterId = true := by
  rw [show (0xF00000000 : BitVec 64) = individualId ||| (groupId ||| (allId ||| clusterId)) from rfl,
    has_or, has_or, has_or]

theorem idOf_toInt : (idOf compound).toInt =
      if compound.toNat % 2 ^ 32 < 2 ^ 31 then ((compound.toNat % 2 ^ 32 : Nat) : Int)
      else ((compound.toNat % 2 ^ 32 : Nat) : Int) - 2 ^ 32 := by
  rw [BitVec.toInt_eq_toNat_cond, idOf, BitVec.toNat_setWidth]
  split <;> split <;> omega

theorem kind_iff {bound position : Nat} (small : bound ≤ 2 ^ 32) (inside : position < 36) (compound : BitVec 64) :
    (∃ id < bound, compound = BitVec.twoPow 64 position + BitVec.ofNat 64 id) ↔
      2 ^ position ≤ compound.toNat ∧ compound.toNat < 2 ^ position + bound := by
  have power : 2 ^ position < 2 ^ 36 := Nat.pow_lt_pow_right (by decide) inside
  have value : ∀ id < bound,
      (BitVec.twoPow 64 position + BitVec.ofNat 64 id).toNat = 2 ^ position + id := by
    intro id isId
    rw [BitVec.toNat_add, BitVec.toNat_twoPow_of_lt (by omega), BitVec.toNat_ofNat,
      Nat.mod_eq_of_lt (by omega : id < 2 ^ 64)]
    exact Nat.mod_eq_of_lt (by omega)
  constructor
  · rintro ⟨id, isId, rfl⟩
    rw [value id isId]
    omega
  · rintro ⟨above, below⟩
    refine ⟨compound.toNat - 2 ^ position, by omega, BitVec.eq_of_toNat_eq ?_⟩
    rw [value _ (by omega)]
    omega

theorem eq_allId : compound = allId ↔ compound.toNat = 2 ^ 34 :=
  ⟨fun same => same ▸ rfl, fun same => BitVec.eq_of_toNat_eq same⟩

end

variable {rule : AclRule}

theorem selects_user_iff (compound : BitVec 64) : Selects (2 ^ 31) [individualId, groupId] compound ↔
      (2 ^ 32 ≤ compound.toNat ∧ compound.toNat < 2 ^ 32 + 2 ^ 31) ∨
        (2 ^ 33 ≤ compound.toNat ∧ compound.toNat < 2 ^ 33 + 2 ^ 31) ∨ compound.toNat = 2 ^ 34 := by
  have individual := @kind_iff (2 ^ 31) 32 (by decide) (by decide) compound
  have group := @kind_iff (2 ^ 31) 33 (by decide) (by decide) compound
  simp only [Selects, eq_allId, List.mem_cons, List.not_mem_nil, or_false, exists_eq_or_imp, exists_eq_left]
  rw [← or_assoc, ← individual, ← group]
  rfl

theorem selects_zone_iff (compound : BitVec 64) : Selects (2 ^ 31) [individualId] compound ↔
      (2 ^ 32 ≤ compound.toNat ∧ compound.toNat < 2 ^ 32 + 2 ^ 31) ∨ compound.toNat = 2 ^ 34 := by
  have individual := @kind_iff (2 ^ 31) 32 (by decide) (by decide) compound
  simp only [Selects, eq_allId, List.mem_cons, List.not_mem_nil, or_false, exists_eq_left]
  rw [← individual]
  rfl

theorem lt_clusterId (compound : BitVec 64) : compound < clusterId ↔ compound.toNat < 2 ^ 35 := BitVec.lt_def

theorem userChecks_iff : ((∀ check ∈ rule.userChecks, check.failed = false) ∧ rule.user < clusterId) ↔
      Selects (2 ^ 31) [individualId, groupId] rule.user := by
  rw [selects_user_iff, lt_clusterId]
  simp only [userChecks, List.forall_mem_cons, List.not_mem_nil, false_imp_iff, implies_true, and_true,
    ← Bool.not_eq_true, Bool.and_eq_true, Bool.not_eq_true', decide_eq_true_iff, has_kind, has_individual,
    has_group, has_all, userId, idOf_toInt]
  generalize rule.user.toNat = compound
  split <;> omega

theorem zoneChecks_iff : ((∀ check ∈ rule.zoneChecks, check.failed = false) ∧ rule.zone < clusterId) ↔
      Selects (2 ^ 31) [individualId] rule.zone ∧
        (has rule.zone allId = true → has rule.resource individualId = true →
          rule.resourceType &&& federatedObjects = rule.resourceType) := by
  rw [selects_zone_iff, lt_clusterId]
  simp only [zoneChecks, List.forall_mem_cons, List.not_mem_nil, false_imp_iff, implies_true, and_true,
    ← Bool.not_eq_true, Bool.and_eq_true, Bool.not_eq_true', decide_eq_true_iff, has_kind, has_individual,
    has_group, has_all, zoneId, idOf_toInt, ne_eq]
  generalize rule.zone.toNat = compound
  generalize rule.resource.toNat / 2 ^ 32 % 2 = bit
  by_cases suits : rule.resourceType &&& federatedObjects = rule.resourceType
  · simp only [suits, not_true_eq_false, and_false, not_false_eq_true, and_true, implies_true]
    split <;> omega
  · simp only [suits, not_false_eq_true, and_true, imp_false]
    split <;> omega

theorem rightsChecks_iff : ((∀ check ∈ rule.rightsChecks, check.failed = false) ∧ 0 ≤ rule.rights.toInt) ↔
      rule.rights ≠ 0 ∧ rule.rights &&& allRights = rule.rights := by
  have subset : rule.rights &&& allRights = rule.rights ↔ rule.rights.toNat < 16 := by
    rw [← BitVec.toNat_inj, BitVec.toNat_and, show allRights.toNat = 2 ^ 4 - 1 from rfl,
      Nat.and_two_pow_sub_one_eq_mod]
    omega
  have isZero : rule.rights = 0 ↔ rule.rights.toNat = 0 := BitVec.toNat_inj.symm
  rw [subset, ne_eq, isZero]
  simp only [rightsChecks, List.forall_mem_cons, List.not_mem_nil, false_imp_iff, implies_true, and_true,
    ← Bool.not_eq_true, decide_eq_true_iff, BitVec.toInt_eq_toNat_cond, isZero]
  have := rule.rights.isLt
  split <;> omega

theorem lowBits_toNat (compound : BitVec 64) : (compound &&& 0xFFFFFFFFF).toNat = compound.toNat % 2 ^ 36 := by
  rw [BitVec.toNat_and, show (0xFFFFFFFFF : BitVec 64).toNat = 2 ^ 36 - 1 from rfl, Nat.and_two_pow_sub_one_eq_mod]

theorem selectorBits_toNat (compound : BitVec 64) :
    (compound &&& 0xF00000000).toNat = compound.toNat / 2 ^ 32 % 16 * 2 ^ 32 := by
  have low : (compound &&& 0xF00000000).toNat % 2 ^ 32 = 0 := by
    rw [BitVec.toNat_and, Nat.and_mod_two_pow]
    exact Nat.and_zero _
  have high : (compound &&& 0xF00000000).toNat / 2 ^ 32 = compound.toNat / 2 ^ 32 % 2 ^ 4 := by
    rw [BitVec.toNat_and, Nat.and_div_two_pow,
      show (0xF00000000 : BitVec 64).toNat / 2 ^ 32 = 2 ^ 4 - 1 from rfl, Nat.and_two_pow_sub_one_eq_mod]
  omega

theorem resourceBits : (0xFFFFFFF000000000 : BitVec 64) = objectTypes ||| 0xFE80000000000000 ∧
      objectTypes &&& 0xFFFFFFF000000000 = objectTypes ∧ objectTypes &&& 0xFE80000000000000 = 0 ∧
      objectTypes &&& 0xFFFFFFFFF = 0 ∧ (0xFFFFFFFFF : BitVec 64) &&& 0xFE80000000000000 = 0 ∧
      (0xFFFFFFFFF : BitVec 64) &&& 0xFFFFFFF000000000 = 0 ∧
      BitVec.allOnes 64 = 0xFFFFFFF000000000 ||| 0xFFFFFFFFF := by
  decide

theorem and_eq_zero_of_subset {bits mask other : BitVec 64} (subset : bits &&& mask = bits)
    (apart : mask &&& other = 0) : bits &&& other = 0 := by
  rw [← subset, BitVec.and_assoc, apart]
  exact BitVec.and_zero

theorem resource_iff {kinds : List (BitVec 64)} {resource : BitVec 64}
    (small : ∀ selector, Selects (2 ^ 31) kinds selector → selector.toNat < 2 ^ 36) :
    (∃ types selector, types ≠ 0 ∧ types &&& objectTypes = types ∧ Selects (2 ^ 31) kinds selector ∧
        resource = types + selector) ↔ resource &&& 0xFFFFFFF000000000 ≠ 0 ∧ resource &&& 0xFE80000000000000 = 0 ∧
        Selects (2 ^ 31) kinds (resource &&& 0xFFFFFFFFF) := by
  obtain ⟨typeMask, inMask, notWrong, notLow, lowNotWrong, lowNotMask, whole⟩ := resourceBits
  constructor
  · rintro ⟨types, selector, notZero, areTypes, selects, rfl⟩
    have isLow : selector &&& 0xFFFFFFFFF = selector := by
      rw [← BitVec.toNat_inj, lowBits_toNat]
      exact Nat.mod_eq_of_lt (small selector selects)
    have noSelector := and_eq_zero_of_subset areTypes notLow
    have apart : types &&& selector = 0 := by
      rw [← isLow, BitVec.and_comm selector, ← BitVec.and_assoc, noSelector]
      exact BitVec.zero_and
    have masked : types &&& 0xFFFFFFF000000000 = types := by
      rw [← areTypes, BitVec.and_assoc, inMask]
    rw [BitVec.add_eq_or_of_and_eq_zero _ _ apart]
    simp only [BitVec.and_or_distrib_right, masked, isLow, noSelector,
      and_eq_zero_of_subset isLow lowNotMask, and_eq_zero_of_subset areTypes notWrong,
      and_eq_zero_of_subset isLow lowNotWrong]
    exact ⟨by rwa [show types ||| 0 = types from BitVec.or_zero], BitVec.or_zero, by
      rwa [show (0 : BitVec 64) ||| selector = selector from BitVec.zero_or]⟩
  · rintro ⟨notZero, noOther, selects⟩
    refine ⟨_, _, notZero, ?_, selects, ?_⟩
    · have areTypes : resource &&& 0xFFFFFFF000000000 = resource &&& objectTypes := by
        rw [typeMask, BitVec.and_or_distrib_left, noOther]
        exact BitVec.or_zero
      rw [areTypes, BitVec.and_assoc, BitVec.and_self]
    · have inLow : resource &&& 0xFFFFFFFFF &&& 0xFFFFFFFFF = resource &&& 0xFFFFFFFFF := by
        rw [BitVec.and_assoc, BitVec.and_self]
      have inTypes : resource &&& 0xFFFFFFF000000000 &&& 0xFFFFFFF000000000 =
          resource &&& 0xFFFFFFF000000000 := by
        rw [BitVec.and_assoc, BitVec.and_self]
      have apart : resource &&& 0xFFFFFFF000000000 &&& (resource &&& 0xFFFFFFFFF) = 0 :=
        and_eq_zero_of_subset inTypes
          ((BitVec.and_comm ..).trans (and_eq_zero_of_subset inLow lowNotMask))
      rw [BitVec.add_eq_or_of_and_eq_zero _ _ apart, ← BitVec.and_or_distrib_left, ← whole]
      exact BitVec.and_allOnes.symm

theorem selects_resource_iff (compound : BitVec 64) : Selects (2 ^ 31) [individualId, groupId, clusterId] compound ↔
      (2 ^ 32 ≤ compound.toNat ∧ compound.toNat < 2 ^ 32 + 2 ^ 31) ∨
        (2 ^ 33 ≤ compound.toNat ∧ compound.toNat < 2 ^ 33 + 2 ^ 31) ∨
        (2 ^ 35 ≤ compound.toNat ∧ compound.toNat < 2 ^ 35 + 2 ^ 31) ∨ compound.toNat = 2 ^ 34 := by
  have individual := @kind_iff (2 ^ 31) 32 (by decide) (by decide) compound
  have group := @kind_iff (2 ^ 31) 33 (by decide) (by decide) compound
  have cluster := @kind_iff (2 ^ 31) 35 (by decide) (by decide) compound
  simp only [Selects, eq_allId, List.mem_cons, List.not_mem_nil, or_false, exists_eq_or_imp, exists_eq_left]
  rw [← or_assoc, ← or_assoc, ← individual, ← group, ← cluster, or_assoc (a := _)]
  rfl

theorem notAlone_iff {bit : BitVec 64} : rule.notAlone bit = true ↔
      has rule.resource bit = true ∧ rule.resource.toNat / 2 ^ 32 % 16 * 2 ^ 32 ≠ bit.toNat := by
  rw [notAlone, Bool.and_eq_true, decide_eq_true_iff, ← selectorBits_toNat, ne_eq, ne_eq, BitVec.toNat_inj]

theorem selectorChecks_iff : ((rule.notAlone individualId || rule.notAlone groupId || rule.notAlone clusterId ||
          rule.notAlone allId) = false ∧ has rule.resource 0xF00000000 = true ∧ ¬rule.resourceId < 0 ∧
        ¬(has rule.resource allId = true ∧ rule.resourceId ≠ 0)) ↔
      Selects (2 ^ 31) [individualId, groupId, clusterId] (rule.resource &&& 0xFFFFFFFFF) := by
  rw [selects_resource_iff, lowBits_toNat]
  simp only [← Bool.not_eq_true, Bool.or_eq_true, notAlone_iff, has_selector, has_individual, has_group,
    has_cluster, has_all, resourceId, idOf_toInt, show individualId.toNat = 2 ^ 32 from rfl,
    show groupId.toNat = 2 ^ 33 from rfl, show clusterId.toNat = 2 ^ 35 from rfl,
    show allId.toNat = 2 ^ 34 from rfl]
  generalize rule.resource.toNat = compound
  split <;> omega

theorem resourceChecks_iff : (∀ check ∈ rule.resourceChecks, check.failed = false) ↔
      (∃ types selector, types ≠ 0 ∧ types &&& objectTypes = types ∧
        Selects (2 ^ 31) [individualId, groupId, clusterId] selector ∧ rule.resource = types + selector) ∧
      (has rule.resource clusterId = true → has rule.resourceType invalidClusterObjects = false) ∧
      (has rule.resource groupId = true → has rule.resourceType invalidGroupObjects = false) := by
  have small : ∀ selector, Selects (2 ^ 31) [individualId, groupId, clusterId] selector →
      selector.toNat < 2 ^ 36 := by
    intro selector selects
    rw [selects_resource_iff] at selects
    omega
  have hasTypes : has rule.resource 0xFFFFFFF000000000 = true ↔ rule.resource &&& 0xFFFFFFF000000000 ≠ 0 :=
    decide_eq_true_iff
  have hasOther : has rule.resource 0xFE80000000000000 = false ↔
      rule.resource &&& 0xFE80000000000000 = 0 := decide_eq_false_iff_not.trans not_not
  rw [resource_iff small, ← selectorChecks_iff, ← hasTypes, ← hasOther]
  simp only [resourceChecks, List.forall_mem_cons, List.not_mem_nil, false_imp_iff, implies_true, and_true,
    Bool.and_eq_false_imp, Bool.not_eq_false', decide_eq_false_iff_not, not_and]
  constructor
  · rintro ⟨alone, cluster, group, isKind, notNegative, allZero, isTyped, noOther⟩
    exact ⟨⟨isTyped, noOther, alone, isKind, notNegative, allZero⟩, cluster, group⟩
  · rintro ⟨⟨isTyped, noOther, alone, isKind, notNegative, allZero⟩, cluster, group⟩
    exact ⟨alone, cluster, group, isKind, notNegative, allZero, isTyped, noOther⟩

/-- Of the rules without the bits that are left aside, those that are not malformed are the well formed
ones with a selector that suits their types. -/
theorem malformed_none_iff : (rule.malformed = none ∧ rule.Plain) ↔ rule.WellFormed (2 ^ 31) ∧ rule.Applies := by
  have parts : (∀ check ∈ rule.checks, check.failed = false) ↔
      (∀ check ∈ rule.userChecks, check.failed = false) ∧
        (∀ check ∈ rule.resourceChecks, check.failed = false) ∧
        (∀ check ∈ rule.rightsChecks, check.failed = false) ∧
        ∀ check ∈ rule.zoneChecks, check.failed = false := by
    simp only [checks, List.forall_mem_append, and_assoc]
  have user := @userChecks_iff rule
  have resource := @resourceChecks_iff rule
  have rights := @rightsChecks_iff rule
  have zone := @zoneChecks_iff rule
  rw [malformed_eq_none_iff, parts]
  constructor
  · rintro ⟨⟨users, resources, someRights, zones⟩, plainUser, plainZone, notNegative⟩
    obtain ⟨isResource, cluster, group⟩ := resource.mp resources
    obtain ⟨isZone, federated⟩ := zone.mp ⟨zones, plainZone⟩
    exact ⟨⟨user.mp ⟨users, plainUser⟩, isResource, rights.mp ⟨someRights, notNegative⟩, isZone⟩,
      ⟨cluster, group, federated⟩⟩
  · rintro ⟨wellFormed, applies⟩
    obtain ⟨users, plainUser⟩ := user.mpr wellFormed.user
    obtain ⟨someRights, notNegative⟩ := rights.mpr wellFormed.rights
    obtain ⟨zones, plainZone⟩ := zone.mpr ⟨wellFormed.zone, applies.federated⟩
    exact ⟨⟨users, resource.mpr ⟨wellFormed.resource, applies.cluster, applies.group⟩, someRights, zones⟩,
      plainUser, plainZone, notNegative⟩

def machinesOfCluster : AclRule :=
  ⟨0, allId, ObjectType.vm.bits + (clusterId + BitVec.ofNat 64 100), Operation.use.bits,
    individualId + BitVec.ofNat 64 0⟩

/-- A well formed rule is rejected, whether identifiers have 31 bits or 32. -/
theorem malformed_machinesOfCluster : (¬∀ rule : AclRule, rule.malformed = none ↔ rule.WellFormed (2 ^ 31)) ∧
      ¬∀ rule : AclRule, rule.malformed = none ↔ rule.WellFormed (2 ^ 32) := by
  have rejected : machinesOfCluster.malformed ≠ none := by
    rw [ne_eq, malformed_eq_none_iff]
    decide
  have wellFormed {bound : Nat} (enough : 100 < bound) : machinesOfCluster.WellFormed bound := {
    user := .inr rfl
    resource := ⟨ObjectType.vm.bits, clusterId + BitVec.ofNat 64 100, by decide, by decide,
      .inl ⟨clusterId, by simp, 100, enough, rfl⟩, rfl⟩
    rights := by decide
    zone := .inl ⟨individualId, by simp, 0, by omega, rfl⟩ }
  exact ⟨fun always => rejected ((always machinesOfCluster).mpr (wellFormed (by decide))),
    fun always => rejected ((always machinesOfCluster).mpr (wellFormed (by decide)))⟩

end AclRule

end OpenNebula.Acl
