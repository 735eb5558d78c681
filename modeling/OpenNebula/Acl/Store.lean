import OpenNebula.Acl.AclManager

namespace OpenNebula.Acl

open Library

/-! # The maps and the table hold the same rules

Every rule enters and leaves the two maps and the table in one call, or none of them when
the statement fails.  Reading the rules again clears the maps first: they lose the rows
that a failed statement does not deliver.
-/

namespace AclRule

variable {rule other : AclRule}

theorem sameAs_iff : rule.sameAs other = true ↔ rule.user = other.user ∧
    rule.resource = other.resource ∧ rule.rights = other.rights ∧ rule.zone = other.zone := by
  simp [sameAs, and_assoc]

theorem sameAs_refl (rule : AclRule) : rule.sameAs rule = true := sameAs_iff.2 ⟨rfl, rfl, rfl, rfl⟩

theorem sameAs_symm (same : rule.sameAs other = true) : other.sameAs rule = true := by
  obtain ⟨sameUser, sameResource, sameRights, sameZone⟩ := sameAs_iff.1 same
  exact sameAs_iff.2 ⟨sameUser.symm, sameResource.symm, sameRights.symm, sameZone.symm⟩

end AclRule

namespace AclManager

variable {manager : AclManager} {answers : Answers} {rule : AclRule}

/-- The two maps and the table hold the same rules, which differ in their identifiers and in
their values. -/
structure Stored (manager : AclManager) : Prop where
  rowOid : ∀ oid rule, manager.rows.lookup oid = some rule → rule.oid = oid
  byOid : ∀ oid, manager.aclRulesOids.lookup oid = manager.rows.lookup oid
  byUser : ∀ rule, rule ∈ manager.aclRules ↔ manager.rows.lookup rule.oid = some rule
  once : manager.aclRules.Nodup
  apart : ∀ rule ∈ manager.aclRules, ∀ other ∈ manager.aclRules, rule.sameAs other = true →
    rule = other

/-- A reload gets all the rows, and an identifier that is taken is not taken for a new one. -/
def Event.Reads (manager : AclManager) : Event → Prop
  | .select failsAfter => ∀ count ∈ failsAfter, manager.rows.entries.length ≤ count
  | .addRule answers .. => answers.duplicates = true → manager.nextOid answers ∉ manager.rows
  | _ => True

instance (manager : AclManager) : (event : Event) → Decidable (event.Reads manager)
  | .select failsAfter => inferInstanceAs (Decidable (∀ count ∈ failsAfter, _))
  | .addRule answers .. => inferInstanceAs (Decidable (answers.duplicates = true → _ ∉ manager.rows))
  | .delRule .. | .delRuleOf .. | .delUidRules .. | .delGidRules .. | .delCidRules ..
  | .delZidRules .. | .delResourceRules .. => isTrue trivial

def insert (manager : AclManager) (rule : AclRule) (lastOid : Int) : AclManager :=
  { manager with
    rows := manager.rows.insertNew rule.oid rule
    aclRules := manager.aclRules ++ [rule]
    aclRulesOids := manager.aclRulesOids.insertNew rule.oid rule
    lastOid }

theorem addRule_cases (manager : AclManager) (answers : Answers) (user resource rights zone : BitVec 64) :
    (manager.addRule answers user resource rights zone).1 = manager ∨
      ∃ rule lastOid, (manager.addRule answers user resource rights zone).1 =
          manager.insert rule lastOid ∧ rule.malformed = none ∧ rule.oid = manager.nextOid answers ∧
        (rule.oid ∈ manager.rows → answers.duplicates = true) ∧ ∀ other ∈ manager.aclRules, other.sameAs rule = false := by
  simp only [addRule]
  split
  · exact .inl rfl
  · split
    · exact .inl rfl
    · rename_i notFound
      split
      · exact .inl rfl
      · rename_i wellFormed
        split
        · exact .inl rfl
        · rename_i accepted
          refine .inr ⟨_, _, rfl, wellFormed, rfl, fun taken => ?_, ?_⟩
          · by_contra refused
            exact accepted (.inr ⟨by simpa using refused, taken⟩)
          intro other listed
          refine Bool.eq_false_iff.2 fun same => notFound ?_
          refine List.any_eq_true.2 ⟨other, List.mem_filter.2 ⟨listed, ?_⟩, same⟩
          exact decide_eq_true (AclRule.sameAs_iff.1 same).1

theorem Stored.insert (stored : manager.Stored) (newOid : rule.oid ∉ manager.rows)
    (newValues : ∀ other ∈ manager.aclRules, other.sameAs rule = false) (lastOid : Int) :
    (manager.insert rule lastOid).Stored := by
  have absent : manager.rows.lookup rule.oid = none := AList.lookup_eq_none.2 newOid
  have notListed : rule ∉ manager.aclRules := by
    intro listed
    rw [stored.byUser, absent] at listed
    cases listed
  have added : Map.insertNew rule.oid rule manager.rows = manager.rows.insert rule.oid rule := if_neg newOid
  rw [AclManager.insert, added]
  refine ⟨fun oid other found => ?_, fun oid => ?_, fun other => ?_, ?_, ?_⟩
  · rw [Map.lookup_insert_eq] at found
    split at found
    · rename_i same
      exact Option.some.inj found ▸ same.symm
    · exact stored.rowOid oid other found
  · by_cases same : oid = rule.oid
    · subst same
      rw [Map.lookup_insertNew_self, AList.lookup_insert, stored.byOid, absent]
      rfl
    · rw [Map.lookup_insertNew_ne same, AList.lookup_insert_ne same, stored.byOid]
  · rw [List.mem_append, List.mem_singleton, Map.lookup_insert_eq]
    split
    · rename_i same
      constructor
      · rintro (listed | isRule)
        · rw [stored.byUser, same, absent] at listed
          cases listed
        · rw [isRule]
      · intro found
        exact .inr (Option.some.inj found).symm
    · rename_i apart
      rw [stored.byUser]
      exact ⟨fun either => either.resolve_right fun isRule => apart (isRule ▸ rfl), .inl⟩
  · exact List.nodup_append.2 ⟨stored.once, List.nodup_singleton _, by
      rintro other listed _ isRule rfl
      exact notListed (List.mem_singleton.1 isRule ▸ listed)⟩
  · intro left leftIn right rightIn same
    rw [List.mem_append, List.mem_singleton] at leftIn rightIn
    rcases leftIn with leftIn | rfl
    · rcases rightIn with rightIn | rfl
      · exact stored.apart left leftIn right rightIn same
      · rw [newValues left leftIn] at same
        cases same
    · rcases rightIn with rightIn | rfl
      · have back := AclRule.sameAs_symm same
        rw [newValues right rightIn] at back
        cases back
      · rfl

theorem Stored.addRule (stored : manager.Stored) (answers : Answers) (user resource rights zone : BitVec 64)
    (isNew : answers.duplicates = true → manager.nextOid answers ∉ manager.rows) :
    (manager.addRule answers user resource rights zone).1.Stored := by
  rcases manager.addRule_cases answers user resource rights zone with same |
    ⟨rule, lastOid, added, -, isOid, taken, newValues⟩
  · rw [same]
    exact stored
  · rw [added]
    exact stored.insert (fun isRow => isNew (taken isRow) (isOid ▸ isRow)) newValues lastOid

theorem Stored.erase (stored : manager.Stored) (listed : rule ∈ manager.aclRules) : Stored { manager with
      rows := manager.rows.erase rule.oid
      aclRules := manager.aclRules.erase rule
      aclRulesOids := manager.aclRulesOids.erase rule.oid } := by
  have isRow := (stored.byUser rule).1 listed
  refine ⟨fun oid other found => ?_, fun oid => ?_, fun other => ?_, stored.once.erase rule, ?_⟩
  · rw [Map.lookup_erase_eq] at found
    split at found
    · cases found
    · exact stored.rowOid oid other found
  · rw [Map.lookup_erase_eq, Map.lookup_erase_eq, stored.byOid]
  · rw [stored.once.mem_erase_iff, Map.lookup_erase_eq, stored.byUser]
    constructor
    · rintro ⟨apart, found⟩
      have otherOid : other.oid ≠ rule.oid := by
        intro same
        rw [same, isRow] at found
        exact apart (Option.some.inj found).symm
      rw [if_neg otherOid]
      exact found
    · intro found
      split at found
      · cases found
      · rename_i otherOid
        exact ⟨fun same => otherOid (same ▸ rfl), found⟩
  · intro left leftIn right rightIn same
    exact stored.apart left (List.mem_of_mem_erase leftIn) right (List.mem_of_mem_erase rightIn) same

theorem Stored.delRule (stored : manager.Stored) (answers : Answers) (oid : Int) :
    (manager.delRule answers oid).1.Stored := by
  simp only [AclManager.delRule]
  split
  · exact stored
  · split
    · exact stored
    · rename_i rule isRule
      have isRow : manager.rows.lookup oid = some rule := stored.byOid oid ▸ isRule
      have isOid := stored.rowOid oid rule isRow
      have listed : rule ∈ manager.aclRules := (stored.byUser rule).2 (isOid ▸ isRow)
      split
      · exact stored
      · rename_i found isFound
        split
        · exact stored
        · have same : rule = found := by
            have matched := List.find?_some isFound
            rw [Bool.and_eq_true] at matched
            exact stored.apart rule listed found (List.mem_of_find?_eq_some isFound) matched.2
          rw [← same, ← isOid]
          exact stored.erase listed

theorem Stored.delRules (answers : Answers) {oids : List Int} (stored : manager.Stored) :
    (delRules answers oids manager).Stored := by
  induction oids generalizing manager with
  | nil => exact stored
  | cons oid rest ih => exact ih (stored.delRule answers oid)

theorem Stored.delRuleOf (stored : manager.Stored) (answers : Answers) (user resource rights zone : BitVec 64) :
    (manager.delRuleOf answers user resource rights zone).1.Stored := by
  simp only [AclManager.delRuleOf]
  split
  · exact stored
  · split
    · exact stored.delRule answers _
    · exact stored

theorem load_keeps (rules : List AclRule) (loaded : AclManager) : (rules.foldl load loaded).rows = loaded.rows ∧
      (rules.foldl load loaded).aclRules = loaded.aclRules ++ rules := by
  induction rules generalizing loaded with
  | nil => exact ⟨rfl, (List.append_nil _).symm⟩
  | cons rule rest ih =>
    obtain ⟨sameRows, isRules⟩ := ih (loaded.load rule)
    exact ⟨sameRows, isRules.trans (List.append_assoc ..)⟩

theorem load_oids {rules : List AclRule} {loaded : AclManager} (apart : (rules.map AclRule.oid).Nodup)
    (newOids : ∀ rule ∈ rules, rule.oid ∉ loaded.aclRulesOids) (oid : Int) :
    (rules.foldl load loaded).aclRulesOids.lookup oid =
      (loaded.aclRulesOids.lookup oid).or (rules.find? fun rule => rule.oid = oid) := by
  induction rules generalizing loaded with
  | nil => simp
  | cons rule rest ih =>
    obtain ⟨notLater, restApart⟩ := List.nodup_cons.1 apart
    have isNew := newOids rule List.mem_cons_self
    have laterNew : ∀ other ∈ rest, other.oid ∉ (loaded.load rule).aclRulesOids := by
      intro other later taken
      rcases Map.mem_insertNew.1 taken with same | old
      · exact notLater (same ▸ List.mem_map.2 ⟨other, later, rfl⟩)
      · exact newOids other (List.mem_cons_of_mem _ later) old
    rw [List.foldl_cons, ih restApart laterNew, AclManager.load]
    by_cases here : rule.oid = oid
    · subst here
      rw [Map.lookup_insertNew_self, AList.lookup_eq_none.2 isNew, List.find?_cons_of_pos (by simp)]
      rfl
    · rw [Map.lookup_insertNew_ne (fun same => here same.symm), List.find?_cons_of_neg (by simpa using here)]

def rowRules (manager : AclManager) : List AclRule := (manager.rows.entries.map Sigma.snd).reverse

theorem Stored.mem_rowRules (stored : manager.Stored) :
    rule ∈ manager.rowRules ↔ manager.rows.lookup rule.oid = some rule := by
  rw [rowRules, List.mem_reverse, List.mem_map]
  constructor
  · rintro ⟨⟨oid, found⟩, member, rfl⟩
    have isRow := Map.mem_entries_iff.1 member
    rw [stored.rowOid oid found isRow]
    exact isRow
  · intro isRow
    exact ⟨⟨rule.oid, rule⟩, Map.mem_entries_iff.2 isRow, rfl⟩

theorem Stored.rowRules_nodup (stored : manager.Stored) : (manager.rowRules.map AclRule.oid).Nodup := by
  have keys : (manager.rows.entries.map Sigma.snd).map AclRule.oid = manager.rows.keys := by
    rw [List.map_map]
    refine List.map_congr_left fun row member => ?_
    exact stored.rowOid row.1 row.2 (Map.mem_entries_iff.1 member)
  rw [rowRules, List.map_reverse, List.nodup_reverse, keys]
  exact manager.rows.keys_nodup

theorem Stored.select (stored : manager.Stored) {failsAfter : Option Nat}
    (reads : ∀ count ∈ failsAfter, manager.rows.entries.length ≤ count) : (manager.select failsAfter).Stored := by
  have allRead : (failsAfter.elim manager.rowRules fun count => manager.rowRules.take count) =
      manager.rowRules := by
    cases failsAfter with
    | none => rfl
    | some count =>
      refine List.take_of_length_le ?_
      rw [rowRules, List.length_reverse, List.length_map]
      exact reads count rfl
  have selected : manager.select failsAfter = manager.rowRules.foldl AclManager.load
      { manager with aclRules := [], aclRulesOids := ∅ } :=
    congrArg (fun rules : List AclRule => rules.foldl AclManager.load _) allRead
  have unique := stored.rowRules_nodup
  obtain ⟨sameRows, isRules⟩ := load_keeps manager.rowRules
    { manager with aclRules := [], aclRulesOids := ∅ }
  rw [List.nil_append] at isRules
  have isOids := @load_oids manager.rowRules { manager with aclRules := [], aclRulesOids := ∅ } unique
    fun rule _ => AList.notMem_empty rule.oid
  rw [selected]
  have listed : ∀ rule, rule ∈ manager.rowRules ↔ rule ∈ manager.aclRules := fun rule =>
    stored.mem_rowRules.trans (stored.byUser rule).symm
  refine ⟨?_, fun oid => ?_, fun rule => ?_, ?_, ?_⟩
  · rw [sameRows]
    exact stored.rowOid
  · rw [isOids, sameRows]
    refine Option.ext fun rule => ?_
    change manager.rowRules.find? _ = some rule ↔ manager.rows.lookup oid = some rule
    constructor
    · intro found
      have isOid : rule.oid = oid := by simpa using List.find?_some found
      exact isOid ▸ stored.mem_rowRules.1 (List.mem_of_find?_eq_some found)
    · intro isRow
      have isOid := stored.rowOid oid rule isRow
      have member := stored.mem_rowRules.2 (isOid ▸ isRow)
      cases found : manager.rowRules.find? fun rule => rule.oid = oid with
      | none =>
        have absent := List.find?_eq_none.1 found rule member
        simp [isOid] at absent
      | some other =>
        have otherOid : other.oid = oid := by simpa using List.find?_some found
        have same := List.inj_on_of_nodup_map unique (List.mem_of_find?_eq_some found) member
          (otherOid.trans isOid.symm)
        rw [same]
  · rw [isRules, sameRows]
    exact stored.mem_rowRules
  · rw [isRules]
    exact List.Nodup.of_map _ unique
  · rw [isRules]
    intro rule ruleIn other otherIn same
    exact stored.apart rule ((listed rule).1 ruleIn) other ((listed other).1 otherIn) same

theorem step_stored {event : Event} (stored : manager.Stored) (reads : event.Reads manager) :
    (manager.step event).Stored := by
  cases event with
  | addRule answers user resource rights zone => exact stored.addRule answers user resource rights zone reads
  | delRule answers oid => exact stored.delRule answers oid
  | delRuleOf answers user resource rights zone =>
    exact stored.delRuleOf answers user resource rights zone
  | delUidRules answers uid => exact stored.delRules answers
  | delGidRules answers gid => exact (stored.delRules answers).delRules answers
  | delCidRules answers cid | delZidRules answers zid | delResourceRules answers oid objType =>
    exact stored.delRules answers
  | select failsAfter => exact stored.select reads

theorem reachable_stored (reached : system.Reachable (fun manager event => event.Reads manager) manager) :
    manager.Stored := by
  refine @System.Reachable.invariant _ _ _ _ (fun manager => manager.Stored) _ reached ?_ ?_
  · rintro start ⟨zoneId, isFederationSlave, rfl⟩
    exact ⟨fun _ _ found => absurd found (by simp), fun _ => rfl, by simp, List.nodup_nil, by simp⟩
  · intro before event after isStored reads stepped
    obtain rfl := Option.some.inj stepped
    exact step_stored isStored reads

/-- The identifiers are not negative. -/
structure Numbered (manager : AclManager) : Prop where
  counter : -1 ≤ manager.lastOid
  natural : ∀ oid ∈ manager.rows, 0 ≤ oid

theorem nextOid_natural (counter : -1 ≤ manager.lastOid) : 0 ≤ manager.nextOid answers := by
  simp only [AclManager.nextOid]
  split <;> split <;> omega

theorem Numbered.addRule (numbered : manager.Numbered) (answers : Answers) (user resource rights zone : BitVec 64) :
    (manager.addRule answers user resource rights zone).1.Numbered := by
  have next := @nextOid_natural manager answers numbered.counter
  simp only [AclManager.addRule]
  split
  · exact numbered
  · split
    · exact numbered
    · split
      · exact numbered
      · split
        · exact numbered
        · refine ⟨?_, fun oid member => ?_⟩
          · have counter := numbered.counter
            dsimp only
            split <;> omega
          · rcases Map.mem_insertNew.1 member with same | old
            · exact same ▸ next
            · exact numbered.natural oid old

theorem Numbered.delRule (numbered : manager.Numbered) (answers : Answers) (oid : Int) :
    (manager.delRule answers oid).1.Numbered := by
  simp only [AclManager.delRule]
  split
  · exact numbered
  · split
    · exact numbered
    · split
      · exact numbered
      · split
        · exact numbered
        · exact ⟨numbered.counter, fun other member => numbered.natural other (AList.mem_erase.1 member).2⟩

theorem Numbered.delRules (answers : Answers) {oids : List Int} (numbered : manager.Numbered) :
    (delRules answers oids manager).Numbered := by
  induction oids generalizing manager with
  | nil => exact numbered
  | cons oid rest ih => exact ih (numbered.delRule answers oid)

theorem Numbered.delRuleOf (numbered : manager.Numbered) (answers : Answers) (user resource rights zone : BitVec 64) :
    (manager.delRuleOf answers user resource rights zone).1.Numbered := by
  simp only [AclManager.delRuleOf]
  split
  · exact numbered
  · split
    · exact numbered.delRule answers _
    · exact numbered

theorem select_keeps (failsAfter : Option Nat) : (manager.select failsAfter).lastOid = manager.lastOid ∧
      (manager.select failsAfter).rows = manager.rows := by
  have kept : ∀ (rules : List AclRule) (loaded : AclManager),
      (rules.foldl load loaded).lastOid = loaded.lastOid := by
    intro rules
    induction rules with
    | nil => exact fun _ => rfl
    | cons rule rest ih => exact fun loaded => ih (loaded.load rule)
  exact ⟨kept _ _, (load_keeps _ _).1⟩

theorem reachable_numbered {ok : AclManager → Event → Prop} (reached : system.Reachable ok manager) :
    manager.Numbered := by
  refine @System.Reachable.invariant _ _ _ _ (fun manager => manager.Numbered) _ reached ?_ ?_
  · rintro start ⟨zoneId, isFederationSlave, rfl⟩
    exact ⟨le_refl (-1), fun oid member => absurd member (AList.notMem_empty oid)⟩
  · intro before event after numbered _ stepped
    obtain rfl := Option.some.inj stepped
    cases event with
    | addRule answers user resource rights zone => exact numbered.addRule answers user resource rights zone
    | delRule answers oid => exact numbered.delRule answers oid
    | delRuleOf answers user resource rights zone =>
      exact numbered.delRuleOf answers user resource rights zone
    | delUidRules answers uid => exact numbered.delRules answers
    | delGidRules answers gid => exact (numbered.delRules answers).delRules answers
    | delCidRules answers cid | delZidRules answers zid | delResourceRules answers oid objType =>
      exact numbered.delRules answers
    | select failsAfter =>
      obtain ⟨sameCounter, sameRows⟩ := @select_keeps before failsAfter
      refine ⟨?_, ?_⟩
      · exact sameCounter ▸ numbered.counter
      · exact sameRows ▸ numbered.natural

theorem initial_empty : system.initial {} := ⟨0, false, rfl⟩

def createRule (answers : Answers) : Event :=
  .addRule answers (groupId ||| 1) (allId ||| ObjectType.bits .vm) (Operation.bits .create) allId

/-- `#2 VM/#7 USE #0` -/
def useRule (answers : Answers) : Event :=
  .addRule answers (individualId ||| 2) (individualId ||| ObjectType.bits .vm ||| 7)
    (Operation.bits .use) individualId

end AclManager

end OpenNebula.Acl
