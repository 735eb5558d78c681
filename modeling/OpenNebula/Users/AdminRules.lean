import OpenNebula.Acl.Store
import OpenNebula.Users.Group

namespace OpenNebula.Users

open Acl Library

/-! # The rules of an administrator in the store

The four rules are well formed for all identifiers, and two of them have the same values
only when they are the same rule of the same user and, but for the third, of the same group.
-/

section

variable {acl : AclManager} {rule other : AclRule}

theorem sameAs_trans {third : AclRule} (first : rule.sameAs other = true)
    (second : other.sameAs third = true) : rule.sameAs third = true := by
  rw [AclRule.sameAs_iff] at first second ⊢
  obtain ⟨user, resource, rights, zone⟩ := first
  rwa [user, resource, rights, zone]

def Held (acl : AclManager) (rule : AclRule) : Prop :=
  ∃ found ∈ acl.aclRules, found.sameAs rule = true

/-- The store of a zone that writes to it, which has no negative identifiers -/
structure Ready (acl : AclManager) : Prop where
  stored : acl.Stored
  natural : ∀ found ∈ acl.aclRules, 0 ≤ found.oid
  counter : -1 ≤ acl.lastOid
  master : acl.isFederationSlave = false

def refused (acl : AclManager) (rule : AclRule) : Bool :=
  match (acl.addRule {} rule.user rule.resource rule.rights rule.zone).2 with
  | .error (code, _) => code = -3
  | .ok _ => false

theorem ready_of_reachable (reached : AclManager.system.Reachable (fun acl event => event.Reads acl) acl)
    (master : acl.isFederationSlave = false) : Ready acl := by
  have stored := AclManager.reachable_stored reached
  have numbered := AclManager.reachable_numbered reached
  refine ⟨stored, fun found listed => numbered.natural found.oid ?_, numbered.counter, master⟩
  exact AList.lookup_isSome.1 (Option.isSome_of_mem ((stored.byUser found).1 listed))

theorem held_of_sameAs (held : Held acl rule) (same : rule.sameAs other = true) : Held acl other := by
  obtain ⟨found, listed, isRule⟩ := held
  exact ⟨found, listed, sameAs_trans isRule same⟩

theorem addRule_cases (ready : Ready acl) (wellFormed : rule.malformed = none) (accepted : refused acl rule = false) :
    (addRule acl rule = acl ∧ Held acl rule) ∨
      addRule acl rule = acl.insert ⟨acl.nextOid {}, rule.user, rule.resource, rule.rights, rule.zone⟩
        (acl.nextOid {}) := by
  have passes : (⟨acl.nextOid {}, rule.user, rule.resource, rule.rights, rule.zone⟩ :
      AclRule).malformed = none := wellFormed
  simp only [refused, addRule, AclManager.addRule, ready.master, Bool.false_eq_true, if_false, passes]
    at accepted ⊢
  split
  · rename_i known
    obtain ⟨found, listed, isSame⟩ := List.any_eq_true.1 known
    exact .inl ⟨rfl, found, (List.mem_filter.1 listed).1, isSame⟩
  · rename_i unknown
    rw [if_neg unknown] at accepted
    split
    · rename_i taken
      rw [if_pos taken] at accepted
      exact absurd accepted (by simp)
    · right
      simp only [if_true, AclManager.insert, ready.master]

theorem addRule_spec (ready : Ready acl) (wellFormed : rule.malformed = none) (accepted : refused acl rule = false) :
    Ready (addRule acl rule) ∧
      ∀ other, Held (addRule acl rule) other ↔ Held acl other ∨ rule.sameAs other = true := by
  have kept : (addRule acl rule).Stored := ready.stored.addRule {} _ _ _ _ nofun
  rcases addRule_cases ready wellFormed accepted with ⟨same, held⟩ | inserted
  · rw [same]
    exact ⟨ready, fun other => ⟨.inl, Or.rec id (held_of_sameAs held)⟩⟩
  · rw [inserted] at kept ⊢
    have natural := @AclManager.nextOid_natural acl {} ready.counter
    have member : ∀ found, found ∈ acl.aclRules ++
        [(⟨acl.nextOid {}, rule.user, rule.resource, rule.rights, rule.zone⟩ : AclRule)] ↔
          found ∈ acl.aclRules ∨
            found = ⟨acl.nextOid {}, rule.user, rule.resource, rule.rights, rule.zone⟩ := by
      intro found
      rw [List.mem_append, List.mem_singleton]
    refine ⟨⟨kept, fun found listed => ?_, ?_, ready.master⟩, fun other => ⟨?_, ?_⟩⟩
    · rcases (member found).1 listed with old | rfl
      · exact ready.natural found old
      · exact natural
    · change -1 ≤ acl.nextOid {}
      omega
    · rintro ⟨found, listed, same⟩
      rcases (member found).1 listed with old | rfl
      · exact .inl ⟨found, old, same⟩
      · exact .inr same
    · rintro (⟨found, listed, same⟩ | same)
      · exact ⟨found, (member found).2 (.inl listed), same⟩
      · exact ⟨_, (member _).2 (.inr rfl), same⟩

theorem delRule_spec (ready : Ready acl) : Ready (delRule acl rule) ∧
      ∀ other, Held (delRule acl rule) other ↔ Held acl other ∧ rule.sameAs other = false := by
  have kept := ready.stored.delRuleOf {} rule.user rule.resource rule.rights rule.zone
  revert kept
  simp only [delRule, AclManager.delRuleOf]
  split
  · rename_i none
    refine fun _ => ⟨ready, fun other => ⟨fun held => ⟨held, ?_⟩, And.left⟩⟩
    obtain ⟨found, listed, same⟩ := held
    refine Bool.eq_false_iff.2 fun isRule => ?_
    have isSame : found.sameAs rule = true := sameAs_trans same (AclRule.sameAs_symm isRule)
    have absent := List.find?_eq_none.1 none found listed
    rw [Bool.and_eq_true, decide_eq_true_eq] at absent
    exact absent ⟨(AclRule.sameAs_iff.1 isSame).1, isSame⟩
  · rename_i found isFound
    have listed := List.mem_of_find?_eq_some isFound
    have isSame : found.sameAs rule = true := by
      have matched := List.find?_some isFound
      rw [Bool.and_eq_true] at matched
      exact matched.2
    have natural := ready.natural found listed
    have isRow := (ready.stored.byUser found).1 listed
    have again : acl.aclRules.find? (fun other => other.user = found.user && found.sameAs other) =
        some found := by
      cases search : acl.aclRules.find? fun other => other.user = found.user && found.sameAs other with
      | none =>
        have absent := List.find?_eq_none.1 search found listed
        simp [AclRule.sameAs_refl] at absent
      | some other =>
        have matched := List.find?_some search
        rw [Bool.and_eq_true] at matched
        rw [ready.stored.apart found listed other (List.mem_of_find?_eq_some search) matched.2]
    rw [if_pos (by omega), AclManager.delRule, ready.master, if_neg Bool.false_ne_true, ready.stored.byOid, isRow]
    dsimp only
    rw [again]
    dsimp only
    rw [if_neg (by decide)]
    refine fun kept => ⟨⟨kept, ?_, ready.counter, rfl⟩, fun other => ?_⟩
    · intro other otherListed
      exact ready.natural other (List.mem_of_mem_erase otherListed)
    · constructor
      · rintro ⟨held, heldListed, same⟩
        obtain ⟨apart, heldIn⟩ := (ready.stored.once.mem_erase_iff).1 heldListed
        refine ⟨⟨held, heldIn, same⟩, Bool.eq_false_iff.2 fun isRule => apart ?_⟩
        exact ready.stored.apart held heldIn found listed
          (sameAs_trans same (sameAs_trans (AclRule.sameAs_symm isRule) (AclRule.sameAs_symm isSame)))
      · rintro ⟨⟨held, heldIn, same⟩, notRule⟩
        refine ⟨held, (ready.stored.once.mem_erase_iff).2 ⟨?_, heldIn⟩, same⟩
        rintro rfl
        rw [sameAs_trans (AclRule.sameAs_symm isSame) same] at notRule
        cases notRule

end

namespace Oid

variable (oid : Oid)

theorem wide_toNat : (wide oid.bits).toNat = oid.val := by
  have natural : oid.bits.msb = false := by
    rw [BitVec.msb_eq_false_iff_two_mul_lt, Oid.bits, BitVec.toNat_ofNat]
    omega
  rw [wide, BitVec.signExtend_eq_setWidth_of_msb_false natural, Oid.bits, BitVec.toNat_setWidth, BitVec.toNat_ofNat]
  omega

theorem wide_masked : wide oid.bits &&& 0x00000000FFFFFFFF = wide oid.bits := by
  apply BitVec.eq_of_toNat_eq
  rw [BitVec.toNat_and, wide_toNat]
  change oid.val &&& 2 ^ 32 - 1 = oid.val
  rw [Nat.and_two_pow_sub_one_eq_mod]
  omega

theorem bits_toInt : oid.bits.toInt = oid.val := by
  have small : 2 * (BitVec.ofNat 32 oid.val).toNat < 2 ^ 32 := by
    rw [BitVec.toNat_ofNat]
    omega
  rw [Oid.bits, BitVec.toInt_eq_toNat_of_lt small, BitVec.toNat_ofNat]
  omega

variable {high : BitVec 64}

theorem compound_and {mask : BitVec 64} (isHigh : 0x00000000FFFFFFFF &&& mask = 0#64) :
    (high ||| wide oid.bits) &&& mask = high &&& mask := by
  have hidden : wide oid.bits &&& mask = 0#64 := by
    rw [← wide_masked, BitVec.and_assoc, isHigh, BitVec.and_zero]
  rw [BitVec.and_or_distrib_right, hidden, BitVec.or_zero]

theorem compound_idOf (isHigh : high.setWidth 32 = 0#32) : AclRule.idOf (high ||| wide oid.bits) = oid.bits := by
  have low : (wide oid.bits).setWidth 32 = oid.bits := by
    apply BitVec.eq_of_toNat_eq
    rw [BitVec.toNat_setWidth, wide_toNat, Oid.bits, BitVec.toNat_ofNat]
  rw [AclRule.idOf, BitVec.setWidth_or, isHigh, low, BitVec.zero_or]

theorem bits_injective : Function.Injective Oid.bits := by
  intro left right same
  have sameInt := congrArg BitVec.toInt same
  rw [bits_toInt, bits_toInt] at sameInt
  exact Fin.ext (Int.ofNat.inj sameInt)

theorem compound_injective (isHigh : high.setWidth 32 = 0#32) :
    Function.Injective fun oid : Oid => high ||| wide oid.bits := by
  intro left right same
  have sameId := congrArg AclRule.idOf same
  dsimp only at sameId
  rw [compound_idOf left isHigh, compound_idOf right isHigh] at sameId
  exact bits_injective sameId

end Oid

section

variable {high resource user rights zone : BitVec 64} {userId oid : Oid}

theorem has_compound {high mask : BitVec 64} (oid : Oid) (isHigh : 0x00000000FFFFFFFF &&& mask = 0#64) :
    AclRule.has (high ||| wide oid.bits) mask = AclRule.has high mask := by
  rw [AclRule.has, AclRule.has, Oid.compound_and oid isHigh]

theorem user_wellFormed (isHigh : high.setWidth 32 = 0#32) (notAll : AclRule.has high allId = false)
    (selects : (⟨-1, high, resource, rights, zone⟩ : AclRule).malformed = none) :
    (⟨-1, high ||| wide userId.bits, resource, rights, zone⟩ : AclRule).malformed = none := by
  rw [AclRule.malformed_eq_none_iff] at selects ⊢
  have low : AclRule.idOf (high ||| wide userId.bits) = userId.bits := Oid.compound_idOf userId isHigh
  have notNegative : decide ((userId.val : Int) < 0) = false := decide_eq_false (by omega)
  simp only [AclRule.checks, AclRule.userChecks, AclRule.userId, List.cons_append, List.nil_append,
    List.forall_mem_cons] at selects ⊢
  simp (disch := decide) only [has_compound, low, Oid.bits_toInt]
  obtain ⟨groupBit, allBit, bothBits, someBit, -, -, others⟩ := selects
  refine ⟨groupBit, allBit, bothBits, someBit, notNegative, ?_, others⟩
  rw [notAll, Bool.false_and]

theorem resource_wellFormed (isHigh : high.setWidth 32 = 0#32) (notAll : AclRule.has high allId = false)
    (selects : (⟨-1, user, high, rights, zone⟩ : AclRule).malformed = none) :
    (⟨-1, user, high ||| wide oid.bits, rights, zone⟩ : AclRule).malformed = none := by
  rw [AclRule.malformed_eq_none_iff] at selects ⊢
  have low : AclRule.idOf (high ||| wide oid.bits) = oid.bits := Oid.compound_idOf oid isHigh
  have notNegative : decide ((oid.val : Int) < 0) = false := decide_eq_false (by omega)
  simp only [AclRule.checks, AclRule.resourceChecks, AclRule.zoneChecks, AclRule.resourceId,
    AclRule.resourceType, AclRule.notAlone, List.forall_mem_append, List.forall_mem_cons] at selects ⊢
  simp (disch := decide) only [has_compound, Oid.compound_and, low, Oid.bits_toInt] at selects ⊢
  obtain ⟨⟨⟨userChecks, alone, clusterTypes, groupTypes, selector, -, -, typed, known, -⟩, rightsChecks⟩,
    zoneChecks⟩ := selects
  refine ⟨⟨⟨userChecks, alone, clusterTypes, groupTypes, selector, notNegative, ?_, typed, known, ?_⟩,
    rightsChecks⟩, zoneChecks⟩
  · rw [notAll, Bool.false_and]
  · exact fun check none => absurd none List.not_mem_nil

theorem zone_wellFormed (isHigh : high.setWidth 32 = 0#32) (notAll : AclRule.has high allId = false)
    (selects : (⟨-1, user, resource, rights, high⟩ : AclRule).malformed = none) :
    (⟨-1, user, resource, rights, high ||| wide oid.bits⟩ : AclRule).malformed = none := by
  rw [AclRule.malformed_eq_none_iff] at selects ⊢
  have low : AclRule.idOf (high ||| wide oid.bits) = oid.bits := Oid.compound_idOf oid isHigh
  have notNegative : decide ((oid.val : Int) < 0) = false := decide_eq_false (by omega)
  simp only [AclRule.checks, AclRule.zoneChecks, AclRule.zoneId, List.forall_mem_append,
    List.forall_mem_cons] at selects ⊢
  simp (disch := decide) only [has_compound, low, Oid.bits_toInt]
  obtain ⟨others, groupBit, bothBits, someBit, -, -, localOnly, -⟩ := selects
  refine ⟨others, groupBit, bothBits, someBit, notNegative, ?_, localOnly, ?_⟩
  · rw [notAll, Bool.false_and]
  · exact fun check none => absurd none List.not_mem_nil

theorem rights_wellFormed (someRights : rights ≠ 0) (few : rights.toInt ≤ 0xF)
    (selects : (⟨-1, user, resource, 1, zone⟩ : AclRule).malformed = none) :
    (⟨-1, user, resource, rights, zone⟩ : AclRule).malformed = none := by
  rw [AclRule.malformed_eq_none_iff] at selects ⊢
  simp only [AclRule.checks, AclRule.rightsChecks, List.forall_mem_append, List.forall_mem_cons] at selects ⊢
  obtain ⟨⟨others, -, -, nothing⟩, zoneChecks⟩ := selects
  exact ⟨⟨others, decide_eq_false someRights, decide_eq_false (Int.not_lt.2 few), nothing⟩, zoneChecks⟩

theorem adminRules_wellFormed {rule : AclRule} (member : rule ∈ adminRules userId oid) : rule.malformed = none := by
  simp only [adminRules, List.mem_cons, List.not_mem_nil, or_false] at member
  rcases member with rfl | rfl | rfl | rfl
  · exact user_wellFormed (by decide) (by decide) (resource_wellFormed (by decide) (by decide) (by decide))
  · exact user_wellFormed (by decide) (by decide) (resource_wellFormed (by decide) (by decide) (by decide))
  · exact user_wellFormed (by decide) (by decide) (by decide)
  · exact user_wellFormed (by decide) (by decide) (resource_wellFormed (by decide) (by decide) (by decide))

theorem user_eq_iff : individualId ||| wide userId.bits = individualId ||| wide oid.bits ↔ userId = oid :=
  (Oid.compound_injective (by decide)).eq_iff

def Granted (userId oid : Oid) (rule : AclRule) : Prop :=
  ∃ granted ∈ adminRules userId oid, granted.sameAs rule = true

variable {otherUser otherGroup : Oid}

theorem adminRules_rights : ((adminRules userId oid).map AclRule.rights).Nodup := by
  change [0xF#64, 0x3#64, 0x8#64, 0x2#64].Nodup
  decide

theorem granted_iff {kind : AclRule} (member : kind ∈ adminRules userId oid) (rule : AclRule)
    (sameRights : kind.rights = rule.rights) : Granted userId oid rule ↔ kind.sameAs rule = true := by
  constructor
  · rintro ⟨granted, isGranted, same⟩
    have rights : granted.rights = kind.rights := (AclRule.sameAs_iff.1 same).2.2.1.trans sameRights.symm
    rwa [← List.inj_on_of_nodup_map adminRules_rights isGranted member rights]
  · exact fun same => ⟨kind, member, same⟩

theorem compound_sameAs (isHigh : high.setWidth 32 = 0#32) :
    (⟨-1, individualId ||| wide userId.bits, high ||| wide oid.bits, rights, allId⟩ : AclRule).sameAs
        ⟨-1, individualId ||| wide otherUser.bits, high ||| wide otherGroup.bits, rights, allId⟩ = true ↔
      userId = otherUser ∧ oid = otherGroup := by
  have sameGroup : high ||| wide oid.bits = high ||| wide otherGroup.bits ↔ oid = otherGroup :=
    (Oid.compound_injective isHigh).eq_iff
  simp only [AclRule.sameAs_iff, user_eq_iff, sameGroup, and_true]

theorem granted_userRule : Granted userId oid (userRule otherUser otherGroup) ↔
    userId = otherUser ∧ oid = otherGroup := by
  have member : userRule userId oid ∈ adminRules userId oid := by simp [adminRules]
  exact (granted_iff member (userRule otherUser otherGroup) rfl).trans (compound_sameAs (by decide))

theorem granted_objectRule : Granted userId oid (objectRule otherUser otherGroup) ↔
    userId = otherUser ∧ oid = otherGroup := by
  have member : objectRule userId oid ∈ adminRules userId oid := by simp [adminRules]
  exact (granted_iff member (objectRule otherUser otherGroup) rfl).trans (compound_sameAs (by decide))

theorem granted_groupRule : Granted userId oid (groupRule otherUser otherGroup) ↔
    userId = otherUser ∧ oid = otherGroup := by
  have member : groupRule userId oid ∈ adminRules userId oid := by simp [adminRules]
  exact (granted_iff member (groupRule otherUser otherGroup) rfl).trans (compound_sameAs (by decide))

theorem granted_routerRule : Granted userId oid (routerRule otherUser) ↔ userId = otherUser := by
  have member : routerRule userId ∈ adminRules userId oid := by simp [adminRules]
  rw [granted_iff member (routerRule otherUser) rfl, AclRule.sameAs_iff]
  exact ⟨fun same => user_eq_iff.1 same.1, fun same => ⟨user_eq_iff.2 same, rfl, rfl, rfl⟩⟩

end

section

variable {acl : AclManager} {userId oid : Oid}

def Accepted : List AclRule → AclManager → Prop
  | [], _ => True
  | rule :: rest, acl => refused acl rule = false ∧ Accepted rest (addRule acl rule)

instance : (rules : List AclRule) → (acl : AclManager) → Decidable (Accepted rules acl)
  | [], _ => isTrue trivial
  | rule :: rest, acl =>
    have := instDecidableAccepted rest (addRule acl rule)
    inferInstanceAs (Decidable (_ ∧ _))

theorem addRules_spec {rules : List AclRule} (ready : Ready acl)
    (wellFormed : ∀ rule ∈ rules, rule.malformed = none) (accepted : Accepted rules acl) :
    Ready (rules.foldl addRule acl) ∧ ∀ other, Held (rules.foldl addRule acl) other ↔
      Held acl other ∨ ∃ rule ∈ rules, rule.sameAs other = true := by
  induction rules generalizing acl with
  | nil => exact ⟨ready, fun other => by simp⟩
  | cons rule rest ih =>
    obtain ⟨first, others⟩ := accepted
    obtain ⟨wellFormedRule, wellFormedRest⟩ := List.forall_mem_cons.1 wellFormed
    obtain ⟨middle, held⟩ := addRule_spec ready wellFormedRule first
    obtain ⟨after, heldAfter⟩ := ih middle wellFormedRest others
    refine ⟨after, fun other => (heldAfter other).trans ?_⟩
    rw [held, List.exists_mem_cons_iff, or_assoc]

theorem delRules_spec {rules : List AclRule} (ready : Ready acl) :
    Ready (rules.foldl delRule acl) ∧ ∀ other, Held (rules.foldl delRule acl) other ↔
      Held acl other ∧ ∀ rule ∈ rules, rule.sameAs other = false := by
  induction rules generalizing acl with
  | nil => exact ⟨ready, fun other => by simp⟩
  | cons rule rest ih =>
    obtain ⟨middle, held⟩ := @delRule_spec acl rule ready
    obtain ⟨after, heldAfter⟩ := ih middle
    refine ⟨after, fun other => (heldAfter other).trans ?_⟩
    rw [held, List.forall_mem_cons, and_assoc]

theorem addAdminRules_spec (ready : Ready acl) (accepted : Accepted (adminRules userId oid) acl) :
    Ready (addAdminRules acl userId oid) ∧
      ∀ other, Held (addAdminRules acl userId oid) other ↔ Held acl other ∨ Granted userId oid other :=
  addRules_spec ready (fun _ member => adminRules_wellFormed member) accepted

theorem delAdminRules_spec (ready : Ready acl) : Ready (delAdminRules acl userId oid) ∧
      ∀ other, Held (delAdminRules acl userId oid) other ↔ Held acl other ∧ ¬Granted userId oid other := by
  obtain ⟨after, held⟩ := @delRules_spec acl (adminRules userId oid) ready
  refine ⟨after, fun other => (held other).trans ?_⟩
  simp only [Granted, not_exists, not_and, Bool.not_eq_true]

end

end OpenNebula.Users
