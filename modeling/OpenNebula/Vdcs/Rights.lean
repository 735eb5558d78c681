import OpenNebula.Vdcs.Rules

namespace OpenNebula.Vdcs

open Acl Library
open Users hiding Operation

/-! # The rights that the VDCs give

A rule does not name the VDC that asked for it, and no count is kept of the VDCs that ask for the
same rule.  The rules in the store are those that some VDC gives as long as nothing is removed that
something else gives too.
-/

structure Grant where
  oid : Nat
  kind : Kind
  gid : Oid
  resource : Resource
deriving DecidableEq

def Grant.rules (config : Configuration) (grant : Grant) : List AclRule :=
  ResourceSet.rulesOf config grant.kind grant.gid grant.resource

namespace Vdc

variable (vdc : Vdc) (oid : Nat)

def groupGrants (gid : Oid) : List Grant :=
  Kind.all.flatMap fun kind => (vdc.resources kind).map fun resource => ⟨oid, kind, gid, resource⟩

def grants : List Grant := vdc.groups.flatMap (vdc.groupGrants oid)

def resourceGrants (kind : Kind) (resource : Resource) : List Grant :=
  vdc.groups.map fun gid => ⟨oid, kind, gid, resource⟩

end Vdc

namespace VdcPool

variable (pool : VdcPool)

def grants : List Grant := pool.vdcs.entries.flatMap fun entry => entry.2.grants entry.1

def removes : Event → Grant → Bool
  | .allocate _ | .addGroup .. => fun _ => false
  | .drop oid => fun grant => grant.oid = oid && 100 ≤ oid
  | .delGroup oid gid => fun grant => grant.oid = oid && grant.gid = gid
  | .add oid kind resource => fun grant =>
    grant.oid = oid && grant.kind = kind && grant.resource.1 = resource.1 &&
      resource.2 = allResources && grant.resource.2 ≠ allResources &&
      (pool.vdcs.lookup oid).all fun vdc => resource ∉ vdc.resources kind
  | .del oid kind resource => fun grant =>
    grant.oid = oid && grant.kind = kind && grant.resource = resource

def adds : Event → List Grant
  | .allocate _ | .drop _ | .delGroup .. | .del .. => []
  | .addGroup oid gid =>
    match pool.vdcs.lookup oid with
    | none => []
    | some vdc => if vdc.groups.contains gid then [] else vdc.groupGrants oid gid
  | .add oid kind resource =>
    match pool.vdcs.lookup oid with
    | none => []
    | some vdc => if resource ∈ vdc.resources kind then [] else vdc.resourceGrants oid kind resource

/-- The database accepts the rules that are added. -/
def Writes (config : Configuration) (pool : VdcPool) (event : Event) : Prop :=
  Accepted ((pool.adds event).flatMap (Grant.rules config)) pool.acl

instance (config : Configuration) (pool : VdcPool) (event : Event) : Decidable (pool.Writes config event) :=
  inferInstanceAs (Decidable (Accepted _ _))

/-- A new resource has the identifier of an object or the one of all of them, and nothing that stays
gives a rule of what is removed. -/
def Spares (config : Configuration) (pool : VdcPool) (event : Event) : Prop :=
  (∀ grant ∈ pool.adds event, grant.resource.Valid) ∧
    ∀ grant ∈ pool.grants, pool.removes event grant = true → ∀ rule ∈ grant.rules config,
      ∀ other ∈ pool.grants, pool.removes event other = false → rule ∉ other.rules config

instance (config : Configuration) (pool : VdcPool) (event : Event) : Decidable (pool.Spares config event) :=
  inferInstanceAs (Decidable (_ ∧ _))

/-- A rule of a group on a resource is in the store if and only if a VDC has both of them, the
resource in a set that gives this rule. -/
def Follows (config : Configuration) (pool : VdcPool) : Prop :=
  ∀ kind gid resource, ∀ rule ∈ ResourceSet.rulesOf config kind gid resource,
    Held pool.acl rule ↔ ∃ oid vdc, pool.vdcs.lookup oid = some vdc ∧ gid ∈ vdc.groups ∧
      ∃ set, resource ∈ vdc.resources set ∧ rule ∈ ResourceSet.rulesOf config set gid resource

def system (config : Configuration) : System VdcPool Event where
  initial pool :=
    pool.vdcs = ∅ ∧
      (∃ acl, AclManager.system.Reachable (fun acl event => event.Reads acl) acl ∧
        pool.acl = acl ∧ acl.isFederationSlave = false) ∧
      ∀ kind gid resource, ∀ rule ∈ ResourceSet.rulesOf config kind gid resource, ¬Held pool.acl rule
  step pool event :=
    match event with
    | .allocate oid => if oid ∈ pool.vdcs then none else some (pool.apply config event)
    | .drop _ | .addGroup .. | .delGroup .. | .add .. | .del .. => some (pool.apply config event)

variable {config : Configuration} {pool : VdcPool} {grant : Grant} {oid : Nat} {vdc changed : Vdc}

theorem mem_groupGrants {gid : Oid} : grant ∈ vdc.groupGrants oid gid ↔
    grant.oid = oid ∧ grant.gid = gid ∧ grant.resource ∈ vdc.resources grant.kind := by
  unfold Vdc.groupGrants
  simp only [List.mem_flatMap, List.mem_map]
  constructor
  · rintro ⟨kind, -, resource, member, rfl⟩
    exact ⟨rfl, rfl, member⟩
  · rintro ⟨rfl, rfl, member⟩
    refine ⟨grant.kind, ?_, grant.resource, member, rfl⟩
    cases grant.kind <;> simp [Kind.all]

theorem mem_resourceGrants {kind : Kind} {resource : Resource} : grant ∈ vdc.resourceGrants oid kind resource ↔
      grant.oid = oid ∧ grant.kind = kind ∧ grant.resource = resource ∧ grant.gid ∈ vdc.groups := by
  unfold Vdc.resourceGrants
  rw [List.mem_map]
  constructor
  · rintro ⟨gid, member, rfl⟩
    exact ⟨rfl, rfl, rfl, member⟩
  · rintro ⟨rfl, rfl, rfl, member⟩
    exact ⟨grant.gid, member, rfl⟩

theorem mem_vdcGrants : grant ∈ vdc.grants oid ↔
    grant.oid = oid ∧ grant.gid ∈ vdc.groups ∧ grant.resource ∈ vdc.resources grant.kind := by
  unfold Vdc.grants
  simp only [List.mem_flatMap, mem_groupGrants]
  constructor
  · rintro ⟨gid, member, rfl, rfl, inside⟩
    exact ⟨rfl, member, inside⟩
  · rintro ⟨rfl, member, inside⟩
    exact ⟨grant.gid, member, rfl, rfl, inside⟩

theorem mem_grants : grant ∈ pool.grants ↔ ∃ vdc, pool.vdcs.lookup grant.oid = some vdc ∧
    grant.gid ∈ vdc.groups ∧ grant.resource ∈ vdc.resources grant.kind := by
  unfold grants
  simp only [List.mem_flatMap, mem_vdcGrants]
  constructor
  · rintro ⟨entry, stored, isOid, inside⟩
    exact ⟨entry.2, isOid ▸ Map.mem_entries_iff.1 stored, inside⟩
  · rintro ⟨vdc, found, inside⟩
    exact ⟨⟨grant.oid, vdc⟩, Map.mem_entries_iff.2 found, rfl, inside⟩

theorem mem_grants_of_lookup (found : pool.vdcs.lookup grant.oid = some vdc) :
    grant ∈ pool.grants ↔ grant.gid ∈ vdc.groups ∧ grant.resource ∈ vdc.resources grant.kind := by
  rw [mem_grants, found]
  exact ⟨fun ⟨_, same, inside⟩ => Option.some.inj same ▸ inside, fun inside => ⟨vdc, rfl, inside⟩⟩

theorem mem_grants_insert (acl : AclManager) :
    grant ∈ ({ vdcs := pool.vdcs.insert oid changed, acl } : VdcPool).grants ↔
      if grant.oid = oid then grant.gid ∈ changed.groups ∧ grant.resource ∈ changed.resources grant.kind
      else grant ∈ pool.grants := by
  rw [mem_grants]
  dsimp only
  rw [Map.lookup_insert_eq]
  split
  · exact ⟨fun ⟨_, same, inside⟩ => Option.some.inj same ▸ inside, fun inside => ⟨changed, rfl, inside⟩⟩
  · exact mem_grants.symm

theorem mem_grants_erase (acl : AclManager) : grant ∈ ({ vdcs := pool.vdcs.erase oid, acl } : VdcPool).grants ↔
      grant ∈ pool.grants ∧ grant.oid ≠ oid := by
  rw [mem_grants, mem_grants]
  dsimp only
  rw [Map.lookup_erase_eq]
  split
  · rename_i same
    refine iff_of_false ?_ fun inside => inside.2 same
    rintro ⟨vdc, found, -⟩
    cases found
  · rename_i apart
    exact ⟨fun inside => ⟨inside, apart⟩, And.left⟩

structure Effect (config : Configuration) (pool after : VdcPool) (event : Event) : Prop where
  grants : ∀ grant, grant ∈ after.grants ↔
    grant ∈ pool.grants ∧ pool.removes event grant = false ∨ grant ∈ pool.adds event
  acl : ∃ dels : List AclRule,
    after.acl = dels.foldl Users.delRule
      (((pool.adds event).flatMap (Grant.rules config)).foldl Users.addRule pool.acl) ∧
    ∀ rule, rule ∈ dels ↔
      ∃ grant ∈ pool.grants, pool.removes event grant = true ∧ rule ∈ grant.rules config

variable {event : Event}

theorem effect_refused (nothing : pool.adds event = [])
    (keeps : ∀ grant ∈ pool.grants, pool.removes event grant = false) : Effect config pool pool event where
  grants grant := by
    rw [nothing]
    constructor
    · exact fun inside => .inl ⟨inside, keeps grant inside⟩
    · rintro (⟨inside, -⟩ | none)
      · exact inside
      · cases none
  acl := by
    refine ⟨[], ?_, fun rule => iff_of_false List.not_mem_nil ?_⟩
    · rw [nothing]
      rfl
    · rintro ⟨grant, inside, gone, -⟩
      rw [keeps grant inside] at gone
      cases gone

theorem effect_missing (absent : pool.vdcs.lookup oid = none) (nothing : pool.adds event = [])
    (about : ∀ grant, pool.removes event grant = true → grant.oid = oid) : Effect config pool pool event := by
  refine effect_refused nothing fun grant inside => Bool.eq_false_iff.2 fun gone => ?_
  obtain ⟨vdc, isVdc, -⟩ := mem_grants.1 inside
  rw [about grant gone, absent] at isVdc
  cases isVdc

theorem addGroupRules_eq (vdc : Vdc) (oid : Nat) (gid : Oid) (acl : AclManager) :
    Kind.all.foldl (fun acl kind => ResourceSet.addGroupRules config kind gid acl (vdc.resources kind)) acl =
      ((vdc.groupGrants oid gid).flatMap (Grant.rules config)).foldl Users.addRule acl := by
  simp only [Vdc.groupGrants, List.foldl_flatMap, List.foldl_map]
  rfl

theorem delGroupRules_eq (vdc : Vdc) (oid : Nat) (gid : Oid) (acl : AclManager) : vdc.delGroupRules config gid acl =
      ((vdc.groupGrants oid gid).flatMap (Grant.rules config)).foldl Users.delRule acl := by
  simp only [Vdc.groupGrants, List.foldl_flatMap, List.foldl_map]
  rfl

theorem drop_eq (vdc : Vdc) (oid : Nat) (acl : AclManager) :
    vdc.drop config acl = ((vdc.grants oid).flatMap (Grant.rules config)).foldl Users.delRule acl := by
  simp only [Vdc.drop, Vdc.grants, List.foldl_flatMap, delGroupRules_eq _ oid]

theorem effect_addGroup (config : Configuration) (pool : VdcPool) (oid : Nat) (gid : Oid) :
    Effect config pool (pool.apply config (.addGroup oid gid)) (.addGroup oid gid) := by
  simp only [apply, edit]
  cases found : pool.vdcs.lookup oid with
  | none => exact effect_refused (by simp only [adds, found]) fun _ _ => rfl
  | some vdc =>
    by_cases known : gid ∈ vdc.groups
    · simp only [Vdc.addGroup, if_pos known]
      exact effect_refused (by simp [adds, found, known]) fun _ _ => rfl
    · have added : pool.adds (.addGroup oid gid) = vdc.groupGrants oid gid := by
        simp [adds, found, known]
      simp only [Vdc.addGroup, if_neg known]
      refine ⟨fun grant => ?_, [], ?_, fun rule => iff_of_false List.not_mem_nil ?_⟩
      · rw [mem_grants_insert, added, mem_groupGrants]
        simp only [removes, and_true, List.mem_orderedInsert]
        split
        · rename_i isOid
          rw [mem_grants_of_lookup (isOid ▸ found)]
          tauto
        · rename_i apart
          simp only [apart, false_and, or_false]
      · rw [added]
        exact addGroupRules_eq vdc oid gid pool.acl
      · rintro ⟨grant, -, gone, -⟩
        cases gone

theorem effect_delGroup (config : Configuration) (pool : VdcPool) (oid : Nat) (gid : Oid) :
    Effect config pool (pool.apply config (.delGroup oid gid)) (.delGroup oid gid) := by
  simp only [apply, edit]
  cases found : pool.vdcs.lookup oid with
  | none =>
    refine effect_missing found rfl fun grant gone => ?_
    simp only [removes, Bool.and_eq_true, decide_eq_true_eq] at gone
    exact gone.1
  | some vdc =>
    by_cases known : gid ∈ vdc.groups
    · simp only [Vdc.delGroup, if_pos known]
      refine ⟨fun grant => ?_, _, delGroupRules_eq vdc oid gid pool.acl, fun rule => ?_⟩
      · rw [mem_grants_insert]
        simp only [removes, adds, List.not_mem_nil, or_false, List.mem_filter, Bool.and_eq_false_iff,
          decide_eq_false_iff_not, ne_eq, decide_not, Bool.not_eq_true']
        split
        · rename_i isOid
          rw [mem_grants_of_lookup (isOid ▸ found)]
          tauto
        · rename_i apart
          simp only [apart, not_false_eq_true, true_or, and_true]
      · simp only [List.mem_flatMap, mem_groupGrants, removes, Bool.and_eq_true, decide_eq_true_eq]
        constructor
        · rintro ⟨grant, ⟨isOid, isGid, inside⟩, isRule⟩
          refine ⟨grant, (mem_grants_of_lookup (isOid ▸ found)).2 ⟨isGid ▸ known, inside⟩, ⟨isOid, isGid⟩, isRule⟩
        · rintro ⟨grant, inside, ⟨isOid, isGid⟩, isRule⟩
          exact ⟨grant, ⟨isOid, isGid, ((mem_grants_of_lookup (isOid ▸ found)).1 inside).2⟩, isRule⟩
    · simp only [Vdc.delGroup, if_neg known]
      refine effect_refused rfl fun grant inside => ?_
      refine Bool.eq_false_iff.2 fun gone => ?_
      simp only [removes, Bool.and_eq_true, decide_eq_true_eq] at gone
      rw [mem_grants_of_lookup (gone.1 ▸ found), gone.2] at inside
      exact known inside.1

theorem effect_drop (config : Configuration) (pool : VdcPool) (oid : Nat) :
    Effect config pool (pool.apply config (.drop oid)) (.drop oid) := by
  simp only [apply, drop]
  cases found : pool.vdcs.lookup oid with
  | none =>
    refine effect_missing found rfl fun grant gone => ?_
    simp only [removes, Bool.and_eq_true, decide_eq_true_eq] at gone
    exact gone.1
  | some vdc =>
    by_cases system : oid < 100
    · simp only [if_pos system]
      refine effect_refused rfl fun grant inside => ?_
      simp only [removes, Bool.and_eq_false_iff, decide_eq_false_iff_not]
      exact .inr (Nat.not_le.2 system)
    · have regular : 100 ≤ oid := Nat.not_lt.1 system
      simp only [if_neg system]
      refine ⟨fun grant => ?_, _, drop_eq vdc oid pool.acl, fun rule => ?_⟩
      · rw [mem_grants_erase]
        simp only [removes, adds, regular, decide_true, Bool.and_true, decide_eq_false_iff_not, ne_eq,
          List.not_mem_nil, or_false]
      · simp only [List.mem_flatMap, mem_vdcGrants, removes, regular, decide_true, Bool.and_true, decide_eq_true_eq]
        constructor
        · rintro ⟨grant, ⟨isOid, inside⟩, isRule⟩
          exact ⟨grant, (mem_grants_of_lookup (isOid ▸ found)).2 inside, isOid, isRule⟩
        · rintro ⟨grant, inside, isOid, isRule⟩
          exact ⟨grant, ⟨isOid, (mem_grants_of_lookup (isOid ▸ found)).1 inside⟩, isRule⟩

theorem delRules_eq (vdc : Vdc) (oid : Nat) (kind : Kind) (resource : Resource) (acl : AclManager) :
    vdc.groups.foldl (fun acl gid => ResourceSet.delRule config kind gid resource acl) acl =
      ((vdc.resourceGrants oid kind resource).flatMap (Grant.rules config)).foldl Users.delRule acl := by
  simp only [Vdc.resourceGrants, List.foldl_flatMap, List.foldl_map]
  rfl

theorem addRules_eq (vdc : Vdc) (oid : Nat) (kind : Kind) (resource : Resource) (acl : AclManager) :
    vdc.groups.foldl (fun acl gid => ResourceSet.addRule config kind gid resource acl) acl =
      ((vdc.resourceGrants oid kind resource).flatMap (Grant.rules config)).foldl Users.addRule acl := by
  simp only [Vdc.resourceGrants, List.foldl_flatMap, List.foldl_map]
  rfl

theorem mem_withResources {kind other : Kind} {resource : Resource} {left : List Resource × AclManager} :
    resource ∈ (vdc.withResources kind left).1.resources other ↔
      if other = kind then resource ∈ left.1 else resource ∈ vdc.resources other := by
  unfold Vdc.withResources
  dsimp only
  rw [Function.update_apply]
  split <;> rfl

theorem effect_del (config : Configuration) (pool : VdcPool) (oid : Nat) (kind : Kind) (resource : Resource) :
    Effect config pool (pool.apply config (.del oid kind resource)) (.del oid kind resource) := by
  simp only [apply, edit]
  cases found : pool.vdcs.lookup oid with
  | none =>
    refine effect_missing found rfl fun grant gone => ?_
    simp only [removes, Bool.and_eq_true, decide_eq_true_eq] at gone
    exact gone.1.1
  | some vdc =>
    by_cases known : resource ∈ vdc.resources kind
    · simp only [Vdc.del, ResourceSet.del, if_pos known, Except.map]
      refine ⟨fun grant => ?_, _, delRules_eq vdc oid kind resource pool.acl, fun rule => ?_⟩
      · rw [mem_grants_insert, mem_withResources]
        simp only [removes, adds, List.not_mem_nil, or_false, List.mem_filter, Bool.and_eq_false_iff,
          decide_eq_false_iff_not, ne_eq, decide_not, Bool.not_eq_true']
        split
        · rename_i isOid
          rw [mem_grants_of_lookup (isOid ▸ found)]
          split
          · rename_i isKind
            rw [isKind]
            change grant.gid ∈ vdc.groups ∧ _ ↔ _
            tauto
          · rename_i otherKind
            change grant.gid ∈ vdc.groups ∧ _ ↔ _
            tauto
        · rename_i apart
          simp only [apart, not_false_eq_true, true_or, and_true]
      · simp only [List.mem_flatMap, mem_resourceGrants, removes, Bool.and_eq_true, decide_eq_true_eq]
        constructor
        · rintro ⟨grant, ⟨isOid, isKind, isResource, member⟩, isRule⟩
          exact ⟨grant, (mem_grants_of_lookup (isOid ▸ found)).2 ⟨member, isKind ▸ isResource ▸ known⟩,
            ⟨⟨isOid, isKind⟩, isResource⟩, isRule⟩
        · rintro ⟨grant, inside, ⟨⟨isOid, isKind⟩, isResource⟩, isRule⟩
          exact ⟨grant, ⟨isOid, isKind, isResource, ((mem_grants_of_lookup (isOid ▸ found)).1 inside).1⟩, isRule⟩
    · simp only [Vdc.del, ResourceSet.del, if_neg known, Except.map]
      refine effect_refused rfl fun grant inside => ?_
      refine Bool.eq_false_iff.2 fun gone => ?_
      simp only [removes, Bool.and_eq_true, decide_eq_true_eq] at gone
      rw [mem_grants_of_lookup (gone.1.1 ▸ found), gone.1.2, gone.2] at inside
      exact known inside.2

theorem delNext_foldl (config : Configuration) (kind : Kind) (groups : List Oid) (gone : List Resource)
    (resources : List Resource) (acl : AclManager) : ∃ dels : List AclRule,
      gone.foldl (ResourceSet.delNext config kind groups) (resources, acl) =
        (resources.filter (· ∉ gone), dels.foldl Users.delRule acl) ∧
      ∀ rule, rule ∈ dels ↔ ∃ resource ∈ gone, resource ∈ resources ∧ ∃ gid ∈ groups,
        rule ∈ ResourceSet.rulesOf config kind gid resource := by
  induction gone generalizing resources acl with
  | nil => exact ⟨[], by simp, fun rule => by simp⟩
  | cons resource rest ih =>
    rw [List.foldl_cons]
    by_cases known : resource ∈ resources
    · have next : ResourceSet.delNext config kind groups (resources, acl) resource =
          (resources.filter (· ≠ resource), (groups.flatMap fun gid =>
            ResourceSet.rulesOf config kind gid resource).foldl Users.delRule acl) := by
        simp only [ResourceSet.delNext, ResourceSet.del, if_pos known, List.foldl_flatMap]
        rfl
      obtain ⟨dels, deleted, isDeleted⟩ := ih (resources.filter (· ≠ resource))
        ((groups.flatMap fun gid => ResourceSet.rulesOf config kind gid resource).foldl Users.delRule acl)
      rw [next, deleted]
      refine ⟨(groups.flatMap fun gid => ResourceSet.rulesOf config kind gid resource) ++ dels, ?_, fun rule => ?_⟩
      · rw [List.foldl_append, List.filter_filter]
        refine Prod.ext (List.filter_congr fun other _ => ?_) rfl
        simp only [List.mem_cons, not_or, ne_eq, Bool.decide_and, Bool.and_comm]
      · rw [List.mem_append, isDeleted, List.mem_flatMap]
        simp only [List.mem_filter, ne_eq, decide_not, Bool.not_eq_true', decide_eq_false_iff_not, List.mem_cons]
        constructor
        · rintro (isRule | ⟨other, inside, ⟨stays, -⟩, isRule⟩)
          · exact ⟨resource, .inl rfl, known, isRule⟩
          · exact ⟨other, .inr inside, stays, isRule⟩
        · rintro ⟨other, rfl | inside, stays, isRule⟩
          · exact .inl isRule
          · by_cases same : other = resource
            · exact .inl (same ▸ isRule)
            · exact .inr ⟨other, inside, ⟨stays, same⟩, isRule⟩
    · have next : ResourceSet.delNext config kind groups (resources, acl) resource = (resources, acl) := by
        simp only [ResourceSet.delNext, ResourceSet.del, if_neg known]
      obtain ⟨dels, deleted, isDeleted⟩ := ih resources acl
      rw [next, deleted]
      refine ⟨dels, Prod.ext (List.filter_congr fun other inside => ?_) rfl, fun rule => ?_⟩
      · have apart : other ≠ resource := fun same => known (same ▸ inside)
        simp only [List.mem_cons, apart, false_or]
      · rw [isDeleted]
        constructor
        · rintro ⟨other, inside, isRule⟩
          exact ⟨other, List.mem_cons_of_mem _ inside, isRule⟩
        · rintro ⟨other, inside, stays, isRule⟩
          rcases List.mem_cons.1 inside with rfl | inside
          · exact absurd stays known
          · exact ⟨other, inside, stays, isRule⟩

section

variable {kind : Kind} {resource : Resource} (found : pool.vdcs.lookup oid = some vdc)
  (new : resource ∉ vdc.resources kind)

include found new

theorem adds_new : pool.adds (.add oid kind resource) = vdc.resourceGrants oid kind resource := by
  simp only [adds, found, if_neg new]

theorem removes_new (grant : Grant) : pool.removes (.add oid kind resource) grant = true ↔
    (grant.oid = oid ∧ grant.kind = kind ∧ grant.resource.1 = resource.1 ∧
      grant.resource.2 ≠ allResources) ∧ resource.2 = allResources := by
  simp only [removes, found, Option.all_some, new, not_false_eq_true, decide_true, Bool.and_true,
    Bool.and_eq_true, decide_eq_true_eq]
  tauto

theorem effect_addSingle (single : resource.2 ≠ allResources) :
    Effect config pool (pool.apply config (.add oid kind resource)) (.add oid kind resource) := by
  simp only [apply, edit, found, Vdc.add, ResourceSet.add, if_neg new, if_neg single, Except.map]
  refine ⟨fun grant => ?_, [], ?_, fun rule => iff_of_false List.not_mem_nil ?_⟩
  · rw [mem_grants_insert, mem_withResources, adds_new found new, mem_resourceGrants,
      ← Bool.not_eq_true (pool.removes _ grant), removes_new found new]
    simp only [single, and_false, not_false_eq_true, and_true, List.mem_orderedInsert]
    split
    · rename_i isOid
      rw [mem_grants_of_lookup (isOid ▸ found)]
      change grant.gid ∈ vdc.groups ∧ _ ↔ _
      split
      · rename_i isKind
        rw [isKind]
        tauto
      · rename_i otherKind
        tauto
    · rename_i apart
      simp only [apart, false_and, or_false]
  · rw [adds_new found new]
    exact addRules_eq vdc oid kind resource pool.acl
  · rintro ⟨grant, -, gone, -⟩
    exact single ((removes_new found new grant).1 gone).2

theorem effect_addAll (isAll : resource.2 = allResources) :
    Effect config pool (pool.apply config (.add oid kind resource)) (.add oid kind resource) := by
  obtain ⟨dels, deleted, isDeleted⟩ := delNext_foldl config kind vdc.groups
    (ResourceSet.replaced resource ((vdc.resources kind).orderedInsert Resource.before resource))
    ((vdc.resources kind).orderedInsert Resource.before resource)
    (vdc.groups.foldl (fun acl gid => ResourceSet.addRule config kind gid resource acl) pool.acl)
  simp only [apply, edit, found, Vdc.add, ResourceSet.add, if_neg new, if_pos isAll]
  rw [deleted]
  dsimp only [Except.map]
  have replaced (other : Resource) :
      other ∈ ResourceSet.replaced resource ((vdc.resources kind).orderedInsert Resource.before resource) ↔
        other ∈ vdc.resources kind ∧ other.1 = resource.1 ∧ other.2 ≠ allResources := by
    simp only [ResourceSet.replaced, List.mem_filter, List.mem_orderedInsert, Bool.and_eq_true, decide_eq_true_eq]
    constructor
    · rintro ⟨rfl | inside, sameZone, single⟩
      · exact absurd isAll single
      · exact ⟨inside, sameZone, single⟩
    · exact fun ⟨inside, rest⟩ => ⟨.inr inside, rest⟩
  refine ⟨fun grant => ?_, dels, ?_, fun rule => ?_⟩
  · rw [mem_grants_insert, mem_withResources, adds_new found new, mem_resourceGrants,
      ← Bool.not_eq_true (pool.removes _ grant), removes_new found new]
    split
    · rename_i isOid
      rw [mem_grants_of_lookup (isOid ▸ found)]
      change grant.gid ∈ vdc.groups ∧ _ ↔ _
      split
      · rename_i isKind
        simp only [List.mem_filter, List.mem_orderedInsert, replaced, decide_eq_true_eq, isKind, isOid,
          isAll, true_and, and_true]
        constructor
        · rintro ⟨member, isResource | inside, stays⟩
          · exact .inr ⟨isResource, member⟩
          · exact .inl ⟨⟨member, inside⟩, fun gone => stays ⟨inside, gone⟩⟩
        · rintro (⟨⟨member, inside⟩, stays⟩ | ⟨isResource, member⟩)
          · exact ⟨member, .inr inside, fun gone => stays gone.2⟩
          · exact ⟨member, .inl isResource, fun gone => gone.2.2 (isResource ▸ isAll)⟩
      · rename_i otherKind
        simp only [otherKind, false_and, and_false, or_false, not_false_eq_true, and_true]
    · rename_i apart
      simp only [apart, false_and, or_false, not_false_eq_true, and_true]
  · rw [adds_new found new, ← addRules_eq]
    rfl
  · rw [isDeleted]
    simp only [replaced, removes_new found new]
    constructor
    · rintro ⟨other, ⟨inside, sameZone, single⟩, -, gid, member, isRule⟩
      refine ⟨⟨oid, kind, gid, other⟩, ?_, ⟨⟨rfl, rfl, sameZone, single⟩, isAll⟩, isRule⟩
      exact (mem_grants_of_lookup found).2 ⟨member, inside⟩
    · rintro ⟨grant, inside, ⟨⟨isOid, isKind, sameZone, single⟩, -⟩, isRule⟩
      obtain ⟨member, stored⟩ := (mem_grants_of_lookup (isOid ▸ found)).1 inside
      rw [isKind] at stored
      exact ⟨grant.resource, ⟨stored, sameZone, single⟩, (List.mem_orderedInsert _).2 (.inr stored),
        grant.gid, member, isKind ▸ isRule⟩

end

theorem effect_add (config : Configuration) (pool : VdcPool) (oid : Nat) (kind : Kind) (resource : Resource) :
    Effect config pool (pool.apply config (.add oid kind resource)) (.add oid kind resource) := by
  cases found : pool.vdcs.lookup oid with
  | none =>
    simp only [apply, edit, found]
    refine effect_missing found (by simp only [adds, found]) fun grant gone => ?_
    simp only [removes, Bool.and_eq_true, decide_eq_true_eq] at gone
    exact gone.1.1.1.1.1
  | some vdc =>
    by_cases known : resource ∈ vdc.resources kind
    · simp only [apply, edit, found, Vdc.add, ResourceSet.add, if_pos known, Except.map]
      refine effect_refused (by simp [adds, found, known]) fun grant inside => ?_
      simp only [removes, found, Option.all_some, known, not_true_eq_false, decide_false, Bool.and_false]
    · by_cases isAll : resource.2 = allResources
      · exact effect_addAll found known isAll
      · exact effect_addSingle found known isAll

theorem effect_allocate (config : Configuration) (free : oid ∉ pool.vdcs) :
    Effect config pool (pool.apply config (.allocate oid)) (.allocate oid) where
  grants grant := by
    have absent : pool.vdcs.lookup oid = none := AList.lookup_eq_none.2 free
    simp only [apply, removes, adds, and_true, List.not_mem_nil, or_false]
    rw [mem_grants_insert]
    split
    · rename_i isOid
      refine iff_of_false (fun inside => List.not_mem_nil inside.1) fun inside => ?_
      obtain ⟨vdc, isVdc, -⟩ := mem_grants.1 inside
      rw [isOid, absent] at isVdc
      cases isVdc
    · rfl
  acl := by
    refine ⟨[], rfl, fun rule => iff_of_false List.not_mem_nil ?_⟩
    rintro ⟨grant, -, gone, -⟩
    cases gone

/-- The store is ready, every resource of a VDC is valid, and the rules are those that are given. -/
structure Sound (config : Configuration) (pool : VdcPool) : Prop where
  ready : Ready pool.acl
  valid : ∀ grant ∈ pool.grants, grant.resource.Valid
  given : ∀ kind gid resource, ∀ rule ∈ ResourceSet.rulesOf config kind gid resource,
    Held pool.acl rule ↔ ∃ grant ∈ pool.grants, rule ∈ grant.rules config

theorem sameAs_rules {rule : AclRule} (noOid : rule.oid = -1) :
    (∃ given ∈ grant.rules config, given.sameAs rule = true) ↔ rule ∈ grant.rules config :=
  ⟨fun ⟨_, isGiven, same⟩ => ResourceSet.eq_of_sameAs (ResourceSet.oid_of_mem isGiven) noOid same ▸ isGiven,
    fun member => ⟨rule, member, AclRule.sameAs_refl rule⟩⟩

theorem adds_apart {rule : AclRule} {new old : Grant} (isNew : new ∈ pool.adds event)
    (isOld : pool.removes event old = true) (newValid : new.resource.Valid) (oldValid : old.resource.Valid)
    (given : rule ∈ new.rules config) : rule ∉ old.rules config := by
  intro also
  obtain ⟨-, sameResource⟩ := ResourceSet.rulesOf_injective newValid oldValid given also
  cases event with
  | allocate oid | drop oid | delGroup oid gid | del oid kind resource => cases isNew
  | addGroup oid gid => cases isOld
  | add oid kind resource =>
    cases found : pool.vdcs.lookup oid with
    | none =>
      simp only [adds, found] at isNew
      cases isNew
    | some vdc =>
      by_cases known : resource ∈ vdc.resources kind
      · simp [adds, found, known] at isNew
      · rw [adds_new found known, mem_resourceGrants] at isNew
        obtain ⟨⟨-, -, -, single⟩, isAll⟩ := (removes_new found known old).1 isOld
        rw [← sameResource, isNew.2.2.1] at single
        exact single isAll

theorem sound_step {after : VdcPool} (sound : pool.Sound config) (writes : pool.Writes config event)
    (spares : pool.Spares config event) (effect : Effect config pool after event) : after.Sound config := by
  obtain ⟨newValid, apart⟩ := spares
  obtain ⟨dels, isAcl, isDeleted⟩ := effect.acl
  have wellFormed : ∀ rule ∈ (pool.adds event).flatMap (Grant.rules config), rule.malformed = none := by
    intro rule member
    obtain ⟨grant, isNew, isRule⟩ := List.mem_flatMap.1 member
    exact ResourceSet.rulesOf_wellFormed (newValid grant isNew) isRule
  obtain ⟨middle, heldMiddle⟩ := addRules_spec sound.ready wellFormed writes
  obtain ⟨ready, held⟩ := @delRules_spec _ dels middle
  rw [← isAcl] at ready held
  refine ⟨ready, fun grant inside => ?_, fun kind gid resource rule isRule => ?_⟩
  · rcases (effect.grants grant).1 inside with ⟨old, -⟩ | new
    · exact sound.valid grant old
    · exact newValid grant new
  have noOid := ResourceSet.oid_of_mem isRule
  have isAdded : (∃ given ∈ (pool.adds event).flatMap (Grant.rules config), given.sameAs rule = true) ↔
      ∃ grant ∈ pool.adds event, rule ∈ grant.rules config := by
    constructor
    · rintro ⟨given, member, same⟩
      obtain ⟨grant, isNew, isGiven⟩ := List.mem_flatMap.1 member
      exact ⟨grant, isNew, (sameAs_rules noOid).1 ⟨given, isGiven, same⟩⟩
    · rintro ⟨grant, isNew, isGiven⟩
      exact ⟨rule, List.mem_flatMap.2 ⟨grant, isNew, isGiven⟩, AclRule.sameAs_refl rule⟩
  have isKept : (∀ deleted ∈ dels, deleted.sameAs rule = false) ↔ rule ∉ dels := by
    constructor
    · intro differs member
      have same := differs rule member
      rw [AclRule.sameAs_refl rule] at same
      cases same
    · intro stays deleted member
      refine Bool.eq_false_iff.2 fun same => stays ?_
      obtain ⟨grant, -, -, isGiven⟩ := (isDeleted deleted).1 member
      exact ResourceSet.eq_of_sameAs (ResourceSet.oid_of_mem isGiven) noOid same ▸ member
  rw [held, heldMiddle, isAdded, isKept, isDeleted, sound.given kind gid resource rule isRule]
  constructor
  · rintro ⟨⟨grant, inside, isGiven⟩ | ⟨grant, isNew, isGiven⟩, stays⟩
    · refine ⟨grant, (effect.grants grant).2 (.inl ⟨inside, ?_⟩), isGiven⟩
      exact Bool.eq_false_iff.2 fun gone => stays ⟨grant, inside, gone, isGiven⟩
    · exact ⟨grant, (effect.grants grant).2 (.inr isNew), isGiven⟩
  · rintro ⟨grant, inside, isGiven⟩
    rcases (effect.grants grant).1 inside with ⟨old, stays⟩ | new
    · refine ⟨.inl ⟨grant, old, isGiven⟩, ?_⟩
      rintro ⟨other, isOther, gone, also⟩
      exact apart other isOther gone rule also grant old stays isGiven
    · refine ⟨.inr ⟨grant, new, isGiven⟩, ?_⟩
      rintro ⟨other, isOther, gone, also⟩
      exact adds_apart new gone (newValid grant new) (sound.valid other isOther) isGiven also

theorem sound_initial (initial : (system config).initial pool) : pool.Sound config := by
  obtain ⟨empty, ⟨acl, reached, isAcl, master⟩, noRules⟩ := initial
  have nothing (grant : Grant) : grant ∉ pool.grants := by
    intro inside
    obtain ⟨vdc, found, -⟩ := mem_grants.1 inside
    rw [empty] at found
    cases found
  refine ⟨isAcl ▸ ready_of_reachable reached master, fun grant inside => absurd inside (nothing grant), ?_⟩
  intro kind gid resource rule isRule
  refine iff_of_false (noRules kind gid resource rule isRule) ?_
  rintro ⟨grant, inside, -⟩
  exact nothing grant inside

theorem sound_next {after : VdcPool} (sound : pool.Sound config) (writes : pool.Writes config event)
    (spares : pool.Spares config event) (stepped : (system config).step pool event = some after) :
    after.Sound config := by
  refine sound_step sound writes spares ?_
  cases event with
  | allocate oid =>
    simp only [system] at stepped
    split at stepped
    · cases stepped
    · rename_i free
      obtain rfl := Option.some.inj stepped
      exact effect_allocate config free
  | drop oid =>
    obtain rfl := Option.some.inj stepped
    exact effect_drop config pool oid
  | addGroup oid gid =>
    obtain rfl := Option.some.inj stepped
    exact effect_addGroup config pool oid gid
  | delGroup oid gid =>
    obtain rfl := Option.some.inj stepped
    exact effect_delGroup config pool oid gid
  | add oid kind resource =>
    obtain rfl := Option.some.inj stepped
    exact effect_add config pool oid kind resource
  | del oid kind resource =>
    obtain rfl := Option.some.inj stepped
    exact effect_del config pool oid kind resource

theorem Sound.follows (sound : pool.Sound config) : pool.Follows config := by
  intro kind gid resource rule isRule
  rw [sound.given kind gid resource rule isRule]
  constructor
  · rintro ⟨grant, inside, isGiven⟩
    have grantValid := sound.valid grant inside
    have valid : resource.Valid := by
      by_contra notValid
      exact ResourceSet.rulesOf_malformed notValid isRule (ResourceSet.rulesOf_wellFormed grantValid isGiven)
    obtain ⟨sameGid, sameResource⟩ := ResourceSet.rulesOf_injective valid grantValid isRule isGiven
    obtain ⟨vdc, found, member, stored⟩ := mem_grants.1 inside
    exact ⟨grant.oid, vdc, found, sameGid ▸ member, grant.kind, sameResource ▸ stored,
      sameGid ▸ sameResource ▸ isGiven⟩
  · rintro ⟨oid, vdc, found, member, set, stored, isGiven⟩
    exact ⟨⟨oid, set, gid, resource⟩, (mem_grants_of_lookup found).2 ⟨member, stored⟩, isGiven⟩

/-- As long as nothing is removed that something else gives too, the rules in the store are those
that the VDCs give. -/
theorem rights_follow
    (reached : (system config).Reachable (fun pool event => pool.Writes config event ∧ pool.Spares config event)
      pool) : pool.Follows config := by
  refine Sound.follows (reached.invariant ?_ ?_)
  · exact fun start initial => sound_initial initial
  · exact fun before event after sound ok stepped => sound_next sound ok.1 ok.2 stepped

def allUse : Configuration := fun _ => "USE"

def clusterRule (gid zone cid : Nat) : AclRule where
  oid := -1
  user := groupId ||| wide (Oid.ofNat gid).bits
  resource := clusterId ||| wide (Oid.ofNat cid).bits ||| ObjectType.bits .host
  rights := Acl.Operation.bits .use
  zone := individualId ||| wide (Oid.ofNat zone).bits

def clusterOf (zone cid : Nat) : Resource := (Oid.ofNat zone, (Oid.ofNat cid).bits)

theorem initial_empty : (system config).initial {} :=
  ⟨rfl, ⟨{}, ⟨{}, AclManager.initial_empty, Relation.ReflTransGen.refl⟩, rfl, rfl⟩, by
    rintro kind gid resource rule - ⟨found, listed, -⟩
    exact List.not_mem_nil listed⟩

def shared : List Event :=
  [.allocate 100, .allocate 101, .addGroup 100 (Oid.ofNat 1), .add 100 .clusters (clusterOf 0 5),
    .addGroup 101 (Oid.ofNat 1), .add 101 .clusters (clusterOf 0 5)]

/-- A host enters and leaves one of the VDCs. -/
theorem rights_follow_run : ∃ pool : VdcPool,
    (system allUse).Reachable (fun pool event => pool.Writes allUse event ∧ pool.Spares allUse event) pool ∧
      (pool.acl.aclRules.any fun found => found.sameAs (clusterRule 1 0 5)) = true ∧ pool.Follows allUse := by
  have ran : ((system allUse).exec (fun pool event => pool.Writes allUse event ∧ pool.Spares allUse event) {}
      (shared ++ [.add 100 .hosts (clusterOf 0 7), .del 100 .hosts (clusterOf 0 7)])).map
      (fun pool => pool.acl.aclRules.any fun found => found.sameAs (clusterRule 1 0 5)) = some true := by
    decide
  obtain ⟨pool, isRun, held⟩ := Option.map_eq_some_iff.mp ran
  have reached := System.reachable_of_exec initial_empty isRun
  exact ⟨pool, reached, held, rights_follow reached⟩

theorem clusterRule_mem (gid zone cid : Nat) : clusterRule gid zone cid ∈
    ResourceSet.rulesOf allUse .clusters (Oid.ofNat gid) (clusterOf zone cid) := by
  have rules : Kind.rules allUse .clusters = [(.host, 1#64), (.net, 1#64), (.datastore, 1#64)] := by decide
  unfold ResourceSet.rulesOf clusterOf
  rw [rules, List.map_cons, ResourceSet.maskPrefix_oid]
  exact List.mem_cons_self ..

/-- The cluster leaves one of two VDCs, and the other one has it without the rule. -/
theorem rights_lost : ¬∀ (config : Configuration) (pool : VdcPool),
    (system config).Reachable (Writes config) pool → pool.Follows config := by
  intro always
  have ran : ((system allUse).exec (Writes allUse) {} (shared ++ [.del 100 .clusters (clusterOf 0 5)])).map
      (fun pool => (pool.acl.aclRules.any fun found => found.sameAs (clusterRule 1 0 5),
        pool.grants)) = some (false, [⟨101, .clusters, Oid.ofNat 1, clusterOf 0 5⟩]) := by
    decide
  obtain ⟨pool, isRun, left⟩ := Option.map_eq_some_iff.mp ran
  obtain ⟨notHeld, isGrant⟩ := Prod.mk.inj left
  have follows := always allUse pool (System.reachable_of_exec initial_empty isRun)
  have member := clusterRule_mem 1 0 5
  obtain ⟨vdc, found, inside, stored⟩ :=
    mem_grants.mp (show ⟨101, .clusters, Oid.ofNat 1, clusterOf 0 5⟩ ∈ pool.grants by
      rw [isGrant]
      exact List.mem_cons_self ..)
  obtain ⟨rule, listed, same⟩ := (follows .clusters (Oid.ofNat 1) (clusterOf 0 5) _ member).mpr
    ⟨101, vdc, found, inside, .clusters, stored, member⟩
  exact absurd same (List.any_eq_false.mp notHeld rule listed)

end VdcPool

end OpenNebula.Vdcs
