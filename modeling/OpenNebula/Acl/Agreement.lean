import OpenNebula.Acl.Store

namespace OpenNebula.Acl

open Library

/-! # Authorisation and listing agree

`authorize` compares masked compounds with the masks of the object, `reverse_search`
collects the identifiers of the rules.  For rules that are not malformed both look for the
same resources; they differ in the zones with further bits, which `malformed` lets pass,
and in the operations that ignore locks.
-/

/-- The lower half is free for an identifier, and so is the sign. -/
def Selector (bits : BitVec 64) : Prop :=
  (∀ index < 32, bits.getLsbD index = false) ∧ bits.getLsbD 63 = false

instance (bits : BitVec 64) : Decidable (Selector bits) := inferInstanceAs (Decidable (_ ∧ _))

variable {id : BitVec 32} {index : Nat} {resource : BitVec 64}

theorem wide_low (low : index < 32) : (wide id).getLsbD index = id.getLsbD index := by
  have inside : index < 64 := by omega
  rw [wide, BitVec.getLsbD_signExtend]
  simp only [low, inside, if_true, decide_true, Bool.true_and]

theorem wide_high (high : 32 ≤ index) (inside : index < 64) : (wide id).getLsbD index = id.msb := by
  rw [wide, BitVec.getLsbD_signExtend]
  simp only [Nat.not_lt.2 high, inside, if_false, decide_true, Bool.true_and]

def idMask : BitVec 64 := 0x00000000FFFFFFFF

theorem idMask_low : ∀ index < 32, idMask.getLsbD index = true := by decide

theorem idMask_high : ∀ index < 64, 32 ≤ index → idMask.getLsbD index = false := by decide

theorem idOf_bit {compound : BitVec 64} (low : index < 32) :
    (AclRule.idOf compound).getLsbD index = compound.getLsbD index := by
  rw [AclRule.idOf, BitVec.getLsbD_setWidth]
  simp only [low, decide_true, Bool.true_and]

theorem msb_eq_false (natural : 0 ≤ id.toInt) : id.msb = false := by
  rw [BitVec.msb_eq_toInt]
  exact decide_eq_false (Int.not_lt.2 natural)

/-- A masked compound is that of an identifier if and only if it has the bits of the selector
and the identifier. -/
theorem masked_eq_iff {selector : BitVec 64} (isSelector : Selector selector)
    (natural : 0 ≤ (AclRule.idOf resource).toInt) : resource &&& (selector ||| idMask) = selector ||| wide id ↔
      resource &&& selector = selector ∧ (AclRule.idOf resource).toInt = id.toInt := by
  constructor
  · intro same
    have bits : ∀ index, (resource.getLsbD index && (selector.getLsbD index || idMask.getLsbD index)) =
        (selector.getLsbD index || (wide id).getLsbD index) := by
      intro index
      simpa only [BitVec.getLsbD_and, BitVec.getLsbD_or] using
        congrArg (fun compound => compound.getLsbD index) same
    -- The sign of the identifier would be the highest bit of the compound.
    have positive : id.msb = false := by
      have sign := bits 63
      rw [isSelector.2, wide_high (by decide) (by decide), idMask_high 63 (by decide) (by decide)] at sign
      simpa using sign.symm
    refine ⟨BitVec.eq_of_getLsbD_eq fun index inside => ?_,
      BitVec.toInt_inj.2 (BitVec.eq_of_getLsbD_eq fun index low => ?_)⟩
    · rw [BitVec.getLsbD_and]
      by_cases low : index < 32
      · rw [isSelector.1 index low, Bool.and_false]
      · have bit := bits index
        rw [wide_high (by omega) inside, idMask_high index inside (by omega), positive] at bit
        simpa only [Bool.or_false] using bit
    · have bit := bits index
      rw [isSelector.1 index low, wide_low low, idMask_low index low] at bit
      rw [idOf_bit low]
      simpa only [Bool.or_true, Bool.and_true, Bool.false_or] using bit
  · rintro ⟨selected, sameId⟩
    have isId : AclRule.idOf resource = id := BitVec.toInt_inj.1 sameId
    have positive : id.msb = false := msb_eq_false (isId ▸ natural)
    refine BitVec.eq_of_getLsbD_eq fun index inside => ?_
    simp only [BitVec.getLsbD_and, BitVec.getLsbD_or]
    by_cases low : index < 32
    · rw [isSelector.1 index low, idMask_low index low, wide_low low, ← isId, idOf_bit low]
      simp only [Bool.or_true, Bool.and_true, Bool.false_or]
    · have bit := congrArg (fun compound => compound.getLsbD index) selected
      rw [idMask_high index inside (by omega), wide_high (by omega) inside, positive]
      simpa only [BitVec.getLsbD_and, Bool.or_false] using bit

theorem selected_right {left right : BitVec 64} (selected : resource &&& (left ||| right) = left ||| right) :
    resource &&& right = right := by
  refine BitVec.eq_of_getLsbD_eq fun index _ => ?_
  have bit := congrArg (fun compound => compound.getLsbD index) selected
  simp only [BitVec.getLsbD_and, BitVec.getLsbD_or] at bit ⊢
  revert bit
  cases resource.getLsbD index <;> cases left.getLsbD index <;> cases right.getLsbD index <;> decide

theorem masked_ne {mask wanted : BitVec 64} (index : Nat) (free : mask.getLsbD index = false)
    (set : wanted.getLsbD index = true) : resource &&& mask ≠ wanted := by
  intro same
  have bit := congrArg (fun compound => compound.getLsbD index) same
  simp [free, set] at bit

namespace AclRule

variable {rule : AclRule}

def Kind (bits : BitVec 64) : Prop :=
  bits = individualId ∨ bits = groupId ∨ bits = clusterId ∨ bits = allId

def Selects (rule : AclRule) (objType : ObjectType) (kind : BitVec 64) : Prop :=
  rule.resource &&& (objType.bits ||| kind) = objType.bits ||| kind

variable {kind : BitVec 64}

theorem selector_of_kind (objType : ObjectType) (isKind : Kind kind) : Selector (objType.bits ||| kind) := by
  obtain rfl | rfl | rfl | rfl := isKind <;> cases objType <;> decide

theorem free_of_kind (objType : ObjectType) (isKind : Kind kind) :
    (objType.bits ||| kind ||| idMask).getLsbD 60 = false := by
  obtain rfl | rfl | rfl | rfl := isKind <;> cases objType <;> decide

section

variable (wellFormed : rule.malformed = none)
include wellFormed

theorem resource_natural : 0 ≤ rule.resourceId := by
  have passed := (malformed_eq_none_iff rule).1 wellFormed
    ⟨rule.resourceId < 0, "[resource] ID cannot be negative", "; "⟩ (by simp [checks, resourceChecks])
  simpa using passed

theorem zone_natural : 0 ≤ rule.zoneId := by
  have passed := (malformed_eq_none_iff rule).1 wellFormed
    ⟨rule.zoneId < 0, "[zone] ID cannot be negative", "; "⟩ (by simp [checks, zoneChecks])
  simpa using passed

theorem alone_of_selects {objType : ObjectType} (isKind : Kind kind) (selects : rule.Selects objType kind) :
    rule.resource &&& 0xF00000000 = kind := by
  have passed := (malformed_eq_none_iff rule).1 wellFormed
    ⟨rule.notAlone individualId || rule.notAlone groupId || rule.notAlone clusterId || rule.notAlone allId,
      "[resource] INDIVIDUAL (#), GROUP (@), CLUSTER (%) and ALL (*) bits are exclusive", "; "⟩
    (by simp [checks, resourceChecks])
  simp only [Bool.or_eq_false_iff] at passed
  obtain ⟨⟨⟨aloneIndividual, aloneGroup⟩, aloneCluster⟩, aloneAll⟩ := passed
  have alone : rule.notAlone kind = false := by
    obtain rfl | rfl | rfl | rfl := isKind <;> assumption
  have present : has rule.resource kind = true := by
    rw [has, selected_right selects]
    obtain rfl | rfl | rfl | rfl := isKind <;> decide
  rw [notAlone, present, Bool.true_and] at alone
  simpa using alone

theorem selects_unique {objType : ObjectType} {other : BitVec 64}
    (isKind : Kind kind) (isOther : Kind other) (selects : rule.Selects objType kind)
    (selectsOther : rule.Selects objType other) : kind = other :=
  (alone_of_selects wellFormed isKind selects).symm.trans
    (alone_of_selects wellFormed isOther selectsOther)

theorem none_unmatched : rule.resource &&& noneId ≠ noneId := by
  have passed := (malformed_eq_none_iff rule).1 wellFormed
    ⟨has rule.resource 0xFE80000000000000, "wrong [resource] type", "; "⟩
    (by simp [checks, resourceChecks])
  intro matched
  have clear : rule.resource &&& 0xFE80000000000000 = 0 := by simpa [has] using passed
  have bit := congrArg (fun compound => compound.getLsbD 60) clear
  have set := congrArg (fun compound => compound.getLsbD 60) matched
  rw [BitVec.getLsbD_and] at bit set
  have inChecked : (0xFE80000000000000 : BitVec 64).getLsbD 60 = true := by decide
  have inNone : noneId.getLsbD 60 = true := by decide
  rw [inChecked, Bool.and_true] at bit
  rw [inNone, Bool.and_true, bit] at set
  exact absurd set (by decide)

theorem selects_id_iff (objType : ObjectType) (isKind : Kind kind) (id : BitVec 32) :
    rule.resource &&& (objType.bits ||| kind ||| idMask) = objType.bits ||| kind ||| wide id ↔
      rule.Selects objType kind ∧ rule.resourceId = id.toInt :=
  masked_eq_iff (selector_of_kind objType isKind) (resource_natural wellFormed)

end

theorem masked_ne_none (objType : ObjectType) {kind : BitVec 64} (isKind : Kind kind) :
    rule.resource &&& (objType.bits ||| kind ||| idMask) ≠ noneId :=
  masked_ne 60 (free_of_kind objType isKind) (by decide)

def Concerns (rule : AclRule) (perms : PoolObjectAuth) : Prop :=
  (perms.disableAllAcl = false ∧ rule.Selects perms.objType allId) ∨
    (perms.disableGroupAcl = false ∧ rule.Selects perms.objType groupId ∧ rule.resourceId = perms.gid.toInt) ∨
    (perms.disableClusterAcl = false ∧ rule.Selects perms.objType clusterId ∧
      ∃ cid ∈ perms.cids, rule.resourceId = cid.toInt) ∨
    (rule.Selects perms.objType individualId ∧ rule.resourceId = perms.oid.toInt)

instance (rule : AclRule) (objType : ObjectType) (kind : BitVec 64) : Decidable (rule.Selects objType kind) :=
  inferInstanceAs (Decidable (_ = _))

instance (rule : AclRule) (perms : PoolObjectAuth) : Decidable (rule.Concerns perms) :=
  -- The clusters of the object are looked at, not all the integers.
  have : Decidable (∃ cid ∈ perms.cids, rule.resourceId = cid.toInt) := List.decidableBEx _ _
  inferInstanceAs (Decidable (_ ∨ _))

end AclRule

namespace AclManager

variable {manager : AclManager} {rule : AclRule} {perms : PoolObjectAuth} {op : Operation}

open AclRule (Kind Selects)

/-- The rule gives the rights in the zone, as `authorize` takes it. -/
def Grants (manager : AclManager) (op : Operation) (rule : AclRule) : Prop :=
  rule.rights &&& plainRights op = plainRights op ∧
    (rule.zone &&& allId = allId ∨ rule.zone &&& (individualId ||| idMask) = individualId ||| wide manager.zoneId)

/-- The rule gives the rights in the zone, as `reverse_search` takes it. -/
def Lists (manager : AclManager) (op : Operation) (rule : AclRule) : Prop :=
  rule.rights &&& op.bits = op.bits ∧
    (rule.zone = individualId ||| wide manager.zoneId ∨ rule.zone = allId)

def Listing.Has (listing : Listing) (perms : PoolObjectAuth) : Prop :=
  listing.all = true ∨ perms.oid.toInt ∈ listing.oids ∨ perms.gid.toInt ∈ listing.gids ∨
    ∃ cid ∈ perms.cids, cid.toInt ∈ listing.cids

instance (op : Operation) (rule : AclRule) : Decidable (manager.Grants op rule) :=
  inferInstanceAs (Decidable (_ ∧ _))

instance (op : Operation) (rule : AclRule) : Decidable (manager.Lists op rule) :=
  inferInstanceAs (Decidable (_ ∧ _))

instance (listing : Listing) (perms : PoolObjectAuth) : Decidable (listing.Has perms) :=
  have : Decidable (∃ cid ∈ perms.cids, cid.toInt ∈ listing.cids) := List.decidableBEx _ _
  inferInstanceAs (Decidable (_ ∨ _))

def disabledOf (perms : PoolObjectAuth) : Disabled :=
  ⟨perms.disableAllAcl, perms.disableClusterAcl, perms.disableGroupAcl⟩

theorem individual_kind : Kind individualId := .inl rfl

theorem group_kind : Kind groupId := .inr (.inl rfl)

theorem cluster_kind : Kind clusterId := .inr (.inr (.inl rfl))

theorem request_iff (wellFormed : rule.malformed = none) :
    (rule.resource &&& (resourceRequest perms).all = (resourceRequest perms).all ∨
        rule.resource &&& (resourceRequest perms).gidMask = (resourceRequest perms).gid ∨
        rule.resource &&& (resourceRequest perms).oidMask = (resourceRequest perms).oid ∨
        ∃ cid ∈ (resourceRequest perms).cids, rule.resource &&& (resourceRequest perms).cidMask = cid) ↔
      rule.Concerns perms := by
  have natural := AclRule.resource_natural wellFormed
  have isAll : rule.resource &&& (resourceRequest perms).all = (resourceRequest perms).all ↔
      perms.disableAllAcl = false ∧ rule.Selects perms.objType allId := by
    cases disabled : perms.disableAllAcl with
    | true => simpa [resourceRequest, disabled] using AclRule.none_unmatched wellFormed
    | false => simp [resourceRequest, disabled, AclRule.Selects]
  have isGroup : rule.resource &&& (resourceRequest perms).gidMask = (resourceRequest perms).gid ↔
      perms.disableGroupAcl = false ∧ rule.Selects perms.objType groupId ∧
        rule.resourceId = perms.gid.toInt := by
    have matched := AclRule.selects_id_iff wellFormed perms.objType group_kind perms.gid
    have unmatched := @AclRule.masked_ne_none rule perms.objType _ group_kind
    by_cases asked : 0 ≤ perms.gid.toInt ∧ !perms.disableGroupAcl
    · have enabled : perms.disableGroupAcl = false := by simpa using asked.2
      simp only [resourceRequest, if_pos asked]
      rw [and_iff_right enabled]
      exact matched
    · simp only [resourceRequest, if_neg asked]
      refine iff_of_false unmatched ?_
      rintro ⟨enabled, _, sameId⟩
      exact asked ⟨sameId ▸ natural, by simpa using enabled⟩
  have isObject : rule.resource &&& (resourceRequest perms).oidMask = (resourceRequest perms).oid ↔
      rule.Selects perms.objType individualId ∧ rule.resourceId = perms.oid.toInt := by
    have matched := AclRule.selects_id_iff wellFormed perms.objType individual_kind perms.oid
    have unmatched := @AclRule.masked_ne_none rule perms.objType _ individual_kind
    by_cases asked : 0 ≤ perms.oid.toInt
    · simp only [resourceRequest, if_pos asked]
      exact matched
    · simp only [resourceRequest, if_neg asked]
      refine iff_of_false unmatched ?_
      rintro ⟨_, sameId⟩
      exact asked (sameId ▸ natural)
  have isCluster : (∃ cid ∈ (resourceRequest perms).cids, rule.resource &&& (resourceRequest perms).cidMask = cid) ↔
      perms.disableClusterAcl = false ∧ rule.Selects perms.objType clusterId ∧
        ∃ cid ∈ perms.cids, rule.resourceId = cid.toInt := by
    have matched := AclRule.selects_id_iff wellFormed perms.objType cluster_kind
    cases disabled : perms.disableClusterAcl with
    | true => simp [resourceRequest, disabled]
    | false =>
      simp only [resourceRequest, disabled, List.mem_map, Bool.false_eq_true, if_false, true_and]
      constructor
      · rintro ⟨_, ⟨cid, member, rfl⟩, same⟩
        obtain ⟨selects, sameId⟩ := (matched cid).1 same
        exact ⟨selects, cid, member, sameId⟩
      · rintro ⟨selects, cid, member, sameId⟩
        exact ⟨_, ⟨cid, member, rfl⟩, (matched cid).2 ⟨selects, sameId⟩⟩
  rw [isAll, isGroup, isObject, isCluster, AclRule.Concerns]
  constructor
  · rintro (all | group | object | cluster)
    · exact .inl all
    · exact .inr (.inl group)
    · exact .inr (.inr (.inr object))
    · exact .inr (.inr (.inl cluster))
  · rintro (all | group | cluster | object)
    · exact .inl all
    · exact .inr (.inl group)
    · exact .inr (.inr (.inr cluster))
    · exact .inr (.inr (.inl object))

theorem matchRule_iff (wellFormed : rule.malformed = none) :
    manager.matchRule (resourceRequest perms) (plainRights op) rule = true ↔
      manager.Grants op rule ∧ rule.Concerns perms := by
  rw [← request_iff wellFormed]
  simp only [matchRule, Grants, idMask, Bool.and_eq_true, Bool.or_eq_true, decide_eq_true_eq, List.any_eq_true]
  tauto

theorem Listing.has_group {listing : Listing} {id : Int} :
    Listing.Has { listing with gids := listing.gids ++ [id] } perms ↔
      listing.Has perms ∨ id = perms.gid.toInt := by
  simp only [Listing.Has, List.mem_append, List.mem_singleton, @eq_comm _ id, or_assoc, or_comm, or_left_comm]

theorem Listing.has_object {listing : Listing} {id : Int} :
    Listing.Has { listing with oids := listing.oids ++ [id] } perms ↔
      listing.Has perms ∨ id = perms.oid.toInt := by
  simp only [Listing.Has, List.mem_append, List.mem_singleton, @eq_comm _ id, or_assoc, or_comm, or_left_comm]

theorem Listing.has_cluster {listing : Listing} {id : Int} :
    Listing.Has { listing with cids := listing.cids ++ [id] } perms ↔
      listing.Has perms ∨ ∃ cid ∈ perms.cids, id = cid.toInt := by
  simp only [Listing.Has, List.mem_append, List.mem_singleton, and_or_left, exists_or, @eq_comm _ id, or_assoc]

theorem searchRules_has {rules : List AclRule} (wellFormed : ∀ rule ∈ rules, rule.malformed = none)
    (listing : Listing) : (manager.searchRules perms.objType op.bits (disabledOf perms) rules listing).Has perms ↔
      listing.Has perms ∨ ∃ rule ∈ rules, manager.Lists op rule ∧ rule.Concerns perms := by
  induction rules generalizing listing with
  | nil => simp [searchRules]
  | cons rule rest ih =>
    have formed := wellFormed rule List.mem_cons_self
    have ih := ih fun other member => wellFormed other (List.mem_cons_of_mem _ member)
    have exclusive : ∀ {kind other : BitVec 64}, Kind kind → Kind other → kind ≠ other →
        rule.Selects perms.objType kind → ¬rule.Selects perms.objType other :=
      fun isKind isOther apart selects selectsOther =>
        apart (AclRule.selects_unique formed isKind isOther selects selectsOther)
    have step : ∀ next : Listing,
        (next.Has perms ↔ listing.Has perms ∨ manager.Lists op rule ∧ rule.Concerns perms) →
        ((manager.searchRules perms.objType op.bits (disabledOf perms) rest next).Has perms ↔ listing.Has perms ∨
            ∃ found ∈ rule :: rest, manager.Lists op found ∧ found.Concerns perms) := by
      intro next added
      rw [ih next, added, List.exists_mem_cons_iff, or_assoc]
    rw [searchRules]
    split
    · rename_i lists
      split
      · rename_i isAll
        refine iff_of_true (.inl rfl) (.inr ⟨rule, List.mem_cons_self, lists, .inl ⟨?_, isAll.2⟩⟩)
        simpa [disabledOf] using isAll.1
      · rename_i notAll
        have offAll : ¬(perms.disableAllAcl = false ∧ rule.Selects perms.objType allId) :=
          fun isAll => notAll ⟨by simp [disabledOf, isAll.1], isAll.2⟩
        split
        · rename_i isGroup
          refine step _ (Listing.has_group.trans (or_congr_right ?_))
          have enabled : perms.disableGroupAcl = false := by simpa [disabledOf] using isGroup.1
          have offCluster := exclusive group_kind cluster_kind (by decide) isGroup.2
          have offObject := exclusive group_kind individual_kind (by decide) isGroup.2
          have selects : rule.Selects perms.objType groupId := isGroup.2
          have listed : manager.Lists op rule := lists
          simp only [AclRule.Concerns, offAll, enabled, selects, offCluster, offObject, listed, true_and,
            false_and, and_false, false_or, or_false]
        · rename_i notGroup
          have offGroup : ¬(perms.disableGroupAcl = false ∧ rule.Selects perms.objType groupId ∧
              rule.resourceId = perms.gid.toInt) :=
            fun isGroup => notGroup ⟨by simp [disabledOf, isGroup.1], isGroup.2.1⟩
          split
          · rename_i isCluster
            refine step _ (Listing.has_cluster.trans (or_congr_right ?_))
            have enabled : perms.disableClusterAcl = false := by simpa [disabledOf] using isCluster.1
            have offObject := exclusive cluster_kind individual_kind (by decide) isCluster.2
            have selects : rule.Selects perms.objType clusterId := isCluster.2
            have listed : manager.Lists op rule := lists
            simp only [AclRule.Concerns, offAll, offGroup, enabled, selects, offObject, listed, true_and,
              false_and, false_or, or_false]
          · rename_i notCluster
            have offCluster : ¬(perms.disableClusterAcl = false ∧
                rule.Selects perms.objType clusterId ∧ ∃ cid ∈ perms.cids, rule.resourceId = cid.toInt) :=
              fun isCluster => notCluster ⟨by simp [disabledOf, isCluster.1], isCluster.2.1⟩
            split
            · rename_i isObject
              refine step _ (Listing.has_object.trans (or_congr_right ?_))
              have selects : rule.Selects perms.objType individualId := isObject
              have listed : manager.Lists op rule := lists
              simp only [AclRule.Concerns, offAll, offGroup, offCluster, selects, listed, true_and, false_or]
            · rename_i notObject
              refine step _ ((or_iff_left ?_).symm)
              rintro ⟨-, all | group | cluster | object⟩
              · exact offAll all
              · exact offGroup group
              · exact offCluster cluster
              · exact notObject object.1
    · rename_i unlisted
      exact step _ ((or_iff_left fun found => unlisted found.1).symm)

theorem mem_filter_user {userReqs : List (BitVec 64)} {holds : AclRule → Prop} :
    (∃ userReq ∈ userReqs, ∃ rule ∈ manager.aclRules.filter (fun rule => rule.user = userReq), holds rule) ↔
      ∃ rule ∈ manager.aclRules, rule.user ∈ userReqs ∧ holds rule := by
  constructor
  · rintro ⟨userReq, asked, rule, member, isHeld⟩
    obtain ⟨listed, isUser⟩ := List.mem_filter.1 member
    obtain rfl : rule.user = userReq := by simpa using isUser
    exact ⟨rule, listed, asked, isHeld⟩
  · rintro ⟨rule, listed, asked, isHeld⟩
    exact ⟨rule.user, asked, rule, List.mem_filter.2 ⟨listed, by simp⟩, isHeld⟩

/-- The rules in the tables passed the checks. -/
structure Formed (manager : AclManager) : Prop where
  rules : ∀ rule ∈ manager.aclRules, rule.malformed = none
  rows : ∀ oid rule, manager.rows.lookup oid = some rule → rule.malformed = none

theorem Formed.authorizeByRules_iff (formed : manager.Formed) (uid : BitVec 32) (userGroups : List (BitVec 32)) :
    manager.authorizeByRules uid userGroups perms op = true ↔
      ∃ rule ∈ manager.aclRules, rule.user ∈ userReqs uid userGroups ∧ manager.Grants op rule ∧
        rule.Concerns perms := by
  rw [← mem_filter_user]
  simp only [authorizeByRules, matchRules, List.any_eq_true]
  refine exists_congr fun userReq => and_congr_right fun _ => exists_congr fun rule =>
    and_congr_right fun member => ?_
  exact matchRule_iff (formed.rules rule (List.mem_of_mem_filter member))

theorem searchUsers_has (formed : manager.Formed) (userReqs : List (BitVec 64)) (listing : Listing) :
    (manager.searchUsers perms.objType op.bits (disabledOf perms) userReqs listing).Has perms ↔ listing.Has perms ∨
        ∃ userReq ∈ userReqs, ∃ rule ∈ manager.aclRules.filter (fun rule => rule.user = userReq),
          manager.Lists op rule ∧ rule.Concerns perms := by
  induction userReqs generalizing listing with
  | nil => simp [searchUsers]
  | cons userReq rest ih =>
    have searched := @searchRules_has manager perms op
      (manager.aclRules.filter fun rule => rule.user = userReq)
      (fun rule member => formed.rules rule (List.mem_of_mem_filter member)) listing
    -- The lists are cleared only when they do not matter any more.
    have cleared : ∀ next : Listing,
        Listing.Has (if next.all then { all := true } else next) perms ↔ next.Has perms := by
      intro next
      cases isAll : next.all with
      | true => exact iff_of_true (.inl rfl) (.inl isAll)
      | false => simp
    rw [searchUsers, ih, cleared, searched, List.exists_mem_cons_iff, or_assoc]

theorem Formed.reverseSearch_iff (formed : manager.Formed) (uid : BitVec 32) (userGroups : List (BitVec 32)) :
    (manager.reverseSearch uid userGroups perms.objType op (disabledOf perms)).Has perms ↔
      ∃ rule ∈ manager.aclRules, rule.user ∈ userReqs uid userGroups ∧ manager.Lists op rule ∧
        rule.Concerns perms := by
  rw [reverseSearch, searchUsers_has formed, mem_filter_user]
  refine or_iff_right ?_
  rintro (all | object | group | ⟨cid, _, cluster⟩)
  · exact absurd all (by decide)
  · exact absurd object List.not_mem_nil
  · exact absurd group List.not_mem_nil
  · exact absurd cluster List.not_mem_nil

theorem Formed.delRule (formed : manager.Formed) (answers : Answers) (oid : Int) :
    (manager.delRule answers oid).1.Formed := by
  simp only [AclManager.delRule]
  split
  · exact formed
  · split
    · exact formed
    · split
      · exact formed
      · split
        · exact formed
        · refine ⟨fun rule member => formed.rules rule (List.mem_of_mem_erase member), fun other rule found => ?_⟩
          rw [Map.lookup_erase_eq] at found
          split at found
          · cases found
          · exact formed.rows other rule found

theorem Formed.delRules (answers : Answers) {oids : List Int} (formed : manager.Formed) :
    (delRules answers oids manager).Formed := by
  induction oids generalizing manager with
  | nil => exact formed
  | cons oid rest ih => exact ih (formed.delRule answers oid)

theorem Formed.addRule (formed : manager.Formed) (answers : Answers) (user resource rights zone : BitVec 64) :
    (manager.addRule answers user resource rights zone).1.Formed := by
  obtain same | ⟨rule, lastOid, added, wellFormed, -, -⟩ := addRule_cases manager answers user resource rights zone
  · rw [same]
    exact formed
  · rw [added]
    refine ⟨fun other member => ?_, fun oid other found => ?_⟩
    · rcases List.mem_append.1 member with known | new
      · exact formed.rules other known
      · rw [List.mem_singleton.1 new]
        exact wellFormed
    · change (Map.insertNew rule.oid rule manager.rows).lookup oid = some other at found
      unfold Map.insertNew at found
      split at found
      · exact formed.rows oid other found
      · rw [Map.lookup_insert_eq] at found
        split at found
        · exact Option.some.inj found ▸ wellFormed
        · exact formed.rows oid other found

theorem Formed.select (formed : manager.Formed) (failsAfter : Option Nat) : (manager.select failsAfter).Formed := by
  have read : ∀ rule ∈ failsAfter.elim manager.rowRules fun count => manager.rowRules.take count,
      rule.malformed = none := by
    intro rule member
    have isRow : rule ∈ manager.rowRules := by
      cases failsAfter with
      | none => exact member
      | some count => exact List.mem_of_mem_take member
    obtain ⟨⟨oid, row⟩, isEntry, rfl⟩ := List.mem_map.1 (List.mem_reverse.1 isRow)
    exact formed.rows oid row (Map.mem_entries_iff.1 isEntry)
  obtain ⟨sameRows, isRules⟩ := load_keeps
    (failsAfter.elim manager.rowRules fun count => manager.rowRules.take count)
    { manager with aclRules := [], aclRulesOids := ∅ }
  refine ⟨fun rule member => read rule ?_, fun oid rule found => formed.rows oid rule ?_⟩
  · rw [List.nil_append] at isRules
    exact isRules ▸ member
  · exact sameRows ▸ found

theorem step_formed {event : Event} (formed : manager.Formed) : (manager.step event).Formed := by
  cases event with
  | addRule answers user resource rights zone => exact formed.addRule answers user resource rights zone
  | delRule answers oid => exact formed.delRule answers oid
  | delRuleOf answers user resource rights zone =>
    simp only [step, delRuleOf]
    split
    · exact formed
    · split
      · exact formed.delRule answers _
      · exact formed
  | delUidRules answers uid => exact formed.delRules answers
  | delGidRules answers gid => exact (formed.delRules answers).delRules answers
  | delCidRules answers cid | delZidRules answers zid | delResourceRules answers oid objType =>
    exact formed.delRules answers
  | select failsAfter => exact formed.select failsAfter

theorem reachable_formed (reached : system.Reachable System.anyStep manager) : manager.Formed := by
  refine reached.invariant ?_ ?_
  · rintro _ ⟨zoneId, isFederationSlave, rfl⟩
    exact ⟨by simp, fun _ _ found => absurd found (by simp)⟩
  · intro before event after formed _ stepped
    obtain rfl := Option.some.inj stepped
    exact step_formed formed

/-- In every run the masks take exactly the rules that grant the operation and concern the object. -/
theorem authorizeByRules_exact (reached : system.Reachable System.anyStep manager) (uid : BitVec 32)
    (userGroups : List (BitVec 32)) (perms : PoolObjectAuth) (op : Operation) :
    manager.authorizeByRules uid userGroups perms op = true ↔ ∃ rule ∈ manager.aclRules,
      rule.user ∈ userReqs uid userGroups ∧ manager.Grants op rule ∧ rule.Concerns perms :=
  (reachable_formed reached).authorizeByRules_iff uid userGroups

theorem Lists.grants (lists : manager.Lists op rule) (wellFormed : rule.malformed = none) :
    manager.Grants op rule := by
  obtain ⟨rights, zone⟩ := lists
  refine ⟨?_, ?_⟩
  · have plain : op.bits = op.bits ||| plainRights op := by cases op <;> decide
    rw [plain] at rights
    exact selected_right rights
  · rcases zone with isZone | isAll
    · have natural : 0 ≤ (AclRule.idOf rule.zone).toInt := AclRule.zone_natural wellFormed
      refine .inr ((masked_eq_iff (by decide) natural).2 ⟨?_, ?_⟩)
      · rw [isZone]
        refine BitVec.eq_of_getLsbD_eq fun index _ => ?_
        simp only [BitVec.getLsbD_and, BitVec.getLsbD_or]
        cases individualId.getLsbD index <;> simp
      · refine BitVec.toInt_inj.2 (BitVec.eq_of_getLsbD_eq fun index low => ?_)
        have free : individualId.getLsbD index = false := (show Selector individualId by decide).1 index low
        rw [idOf_bit low, isZone, BitVec.getLsbD_or, free, wide_low low, Bool.false_or]
    · exact .inl (by rw [isAll]; decide)

/-- The rule is taken by `authorize` and not by `reverse_search`: its zone has further bits, or
the operation ignores locks. -/
def Overlooked (manager : AclManager) (op : Operation) (rule : AclRule) : Prop :=
  manager.Grants op rule ∧
    ((rule.zone ≠ individualId ||| wide manager.zoneId ∧ rule.zone ≠ allId) ∨ rule.rights &&& op.bits ≠ op.bits)

instance (op : Operation) (rule : AclRule) : Decidable (manager.Overlooked op rule) :=
  inferInstanceAs (Decidable (_ ∧ _))

/-- In every state of every run, `authorize` and `reverse_search` agree on a user, an operation
and an object if and only if for every rule of the user that concerns the object and is
overlooked there is one that is listed. -/
theorem acl_agreement (reached : system.Reachable System.anyStep manager) (uid : BitVec 32)
    (userGroups : List (BitVec 32)) (perms : PoolObjectAuth) (op : Operation) :
    (manager.authorizeByRules uid userGroups perms op = true ↔
        (manager.reverseSearch uid userGroups perms.objType op (disabledOf perms)).Has perms) ↔
      ∀ rule ∈ manager.aclRules, rule.user ∈ userReqs uid userGroups → rule.Concerns perms →
        manager.Overlooked op rule →
        ∃ other ∈ manager.aclRules, other.user ∈ userReqs uid userGroups ∧ other.Concerns perms ∧
          manager.Lists op other := by
  have formed := reachable_formed reached
  rw [formed.authorizeByRules_iff, formed.reverseSearch_iff]
  constructor
  · intro agree rule listed isUser concerns overlooked
    obtain ⟨other, otherListed, otherUser, lists, otherConcerns⟩ :=
      agree.mp ⟨rule, listed, isUser, overlooked.1, concerns⟩
    exact ⟨other, otherListed, otherUser, otherConcerns, lists⟩
  · intro covered
    constructor
    · rintro ⟨rule, listed, isUser, grants, concerns⟩
      by_cases lists : manager.Lists op rule
      · exact ⟨rule, listed, isUser, lists, concerns⟩
      · have overlooked : manager.Overlooked op rule := by
          refine ⟨grants, ?_⟩
          rw [Lists, and_comm] at lists
          rcases not_and_or.mp lists with otherZone | otherRights
          · exact .inl (not_or.mp otherZone)
          · exact .inr otherRights
        obtain ⟨other, otherListed, otherUser, otherConcerns, otherLists⟩ :=
          covered rule listed isUser concerns overlooked
        exact ⟨other, otherListed, otherUser, otherLists, otherConcerns⟩
    · rintro ⟨rule, listed, isUser, lists, concerns⟩
      exact ⟨rule, listed, isUser, lists.grants (formed.rules rule listed), concerns⟩

def machine (oid : BitVec 32) : PoolObjectAuth where
  objType := .vm
  oid := oid
  uid := 2
  gid := 1
  cids := []
  owner := ⟨true, true, false⟩
  group := ⟨false, false, false⟩
  other := ⟨false, false, false⟩
  disableAllAcl := false
  disableClusterAcl := false
  disableGroupAcl := false
  locked := 0

/-- User 2 may use machine 7 by a rule of his own, and it is listed. -/
theorem acl_agreement_rules : ∃ manager : AclManager, system.Reachable System.anyStep manager ∧
      manager.authorizeByRules 2 [1] (machine 7) .use = true ∧
      (manager.reverseSearch 2 [1] (machine 7).objType .use (disabledOf (machine 7))).Has (machine 7) := by
  have ran : (system.exec System.anyStep {} [createRule {}, useRule {}]).map (fun manager =>
      (manager.authorizeByRules 2 [1] (machine 7) .use,
        decide (∀ rule ∈ manager.aclRules, rule.user ∈ userReqs 2 [1] → rule.Concerns (machine 7) →
          manager.Overlooked .use rule →
          ∃ other ∈ manager.aclRules, other.user ∈ userReqs 2 [1] ∧ other.Concerns (machine 7) ∧
            manager.Lists .use other))) = some (true, true) := by
    decide
  obtain ⟨manager, isRun, answered⟩ := Option.map_eq_some_iff.mp ran
  obtain ⟨granted, isCovered⟩ := Prod.mk.inj answered
  have reached := System.reachable_of_exec initial_empty isRun
  have agree := (acl_agreement reached 2 [1] (machine 7) .use).mpr (of_decide_eq_true isCovered)
  exact ⟨manager, reached, granted, agree.mp granted⟩

theorem authorizeByRules_exact_rule : ∃ manager : AclManager, system.Reachable System.anyStep manager ∧
    ∃ rule ∈ manager.aclRules, rule.user ∈ userReqs 2 [1] ∧ manager.Grants .use rule ∧ rule.Concerns (machine 7) := by
  have ran : (system.exec System.anyStep {} [useRule {}]).map
      (fun manager => manager.authorizeByRules 2 [1] (machine 7) .use) = some true := by
    decide
  obtain ⟨manager, isRun, granted⟩ := Option.map_eq_some_iff.mp ran
  have reached := System.reachable_of_exec initial_empty isRun
  exact ⟨manager, reached, (authorizeByRules_exact reached 2 [1] (machine 7) .use).mp granted⟩

/-- `* VM/* USE *`, with one more bit in the zone -/
def clusterZoneRule : Event :=
  .addRule {} allId (allId ||| ObjectType.bits .vm) (Operation.bits .use) (allId ||| clusterId)

/-- The rule is added; all the machines may be used by it, and none of them is listed. -/
theorem acl_agreement_cluster_zone : ¬∀ manager : AclManager, system.Reachable System.anyStep manager →
      ∀ (uid : BitVec 32) (userGroups : List (BitVec 32)) (perms : PoolObjectAuth) (op : Operation),
        manager.authorizeByRules uid userGroups perms op = true ↔
          (manager.reverseSearch uid userGroups perms.objType op (disabledOf perms)).Has perms := by
  intro always
  have ran : (system.exec System.anyStep {} [clusterZoneRule]).map (fun manager =>
      (manager.authorizeByRules 3 [1] (machine 5) .use,
        manager.reverseSearch 3 [1] (machine 5).objType .use (disabledOf (machine 5)))) =
      some (true, {}) := by
    decide
  obtain ⟨manager, isRun, answered⟩ := Option.map_eq_some_iff.mp ran
  obtain ⟨granted, unlisted⟩ := Prod.mk.inj answered
  have reached := System.reachable_of_exec initial_empty isRun
  have listed := (always manager reached 3 [1] (machine 5) .use).mp granted
  rw [unlisted] at listed
  exact absurd listed (by decide)

end AclManager

end OpenNebula.Acl
