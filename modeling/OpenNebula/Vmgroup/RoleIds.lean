import OpenNebula.Schedm.GroupRequirements

namespace OpenNebula.Vmgroup

open Common Library
open Schedm.Rank (VMGroupPolicy VMGroupRule maxRoles)

/-! # Numbers of the roles of a VM group -/

structure VMGroupRole where
  va : VectorAttribute

namespace VMGroupRole

variable (role : VMGroupRole)

def id : Int := (role.va.intValue "ID" 0).1

def name : String := role.va.vectorValue "NAME"

/-- The set is that of the attribute. -/
def vms : List Int := splitUnique .int ',' (role.va.vectorValue "VMS")

def policy : VMGroupPolicy :=
  let text := (role.va.vectorValue "POLICY").toUpper
  if text = "AFFINED" then .affined else if text = "ANTI_AFFINED" then .antiAffined else .none

def update (vrole : VectorAttribute) : VMGroupRole := ⟨role.va.merge (vrole.remove "VMS")⟩

end VMGroupRole

structure VMGroup where
  byId : Map Int VMGroupRole := ∅
  byName : Map String Int := ∅
  nextRole : Int := 0
  affined : List String := []
  antiAffined : List String := []

namespace VMGroup

variable (group : VMGroup)

def get (name : String) : Option VMGroupRole := (group.byName.lookup name).bind group.byId.lookup

def insertRole (id : Int) (role : VMGroupRole) : VMGroup :=
  { group with byId := group.byId.insert id role, byName := group.byName.insert role.name id }

def addRoleOf (vrole : VectorAttribute) : VMGroup × Bool :=
  let name := vrole.vectorValue "NAME"
  if name = "" ∨ group.nextRole ∈ group.byId ∨ name ∈ group.byName then (group, false)
  else
    let role : VMGroupRole := ⟨(vrole.replace "ID" (toString group.nextRole)).remove "VMS"⟩
    ({ group.insertRole group.nextRole role with nextRole := group.nextRole + 1 }, true)

def namesToIds (rnames : String) : Option (List Int) :=
  let names := (split ',' rnames).map trim
  if names.all fun name => (group.get name).isSome then some (names.filterMap fun name => (group.get name).map VMGroupRole.id)
  else none

/-- The numbers are not negative; without any role when a name is not defined. -/
def ruleOf (rnames : String) : VMGroupRule := .ofIds (((group.namesToIds rnames).getD []).map Int.toNat)

def getRules : List String → List VMGroupRule → Option (List VMGroupRule)
  | [], rules => some rules
  | names :: rest, rules => if group.ruleOf names ∈ rules then none else getRules rest (group.ruleOf names :: rules)

def checkRuleConsistency : Bool :=
  match group.getRules group.affined [], group.getRules group.antiAffined [] with
  | some affined, some anti =>
    (affined.all fun rule => rule.roles.all fun i => (group.byId.lookup (i : Int)).all fun role =>
      decide (role.policy ≠ .antiAffined)) &&
      decide (affined.foldl (· ||| ·) 0 &&& anti.foldl (· ||| ·) 0 = 0)
  | _, _ => false

def checkConsistency : Bool :=
  ((group.affined ++ group.antiAffined).all fun names => (group.namesToIds names).isSome) && group.checkRuleConsistency

def addRole (vrole : VectorAttribute) : VMGroup × Bool :=
  let (group, added) := group.addRoleOf vrole
  (group, added && group.checkConsistency)

def delRole (id : Int) : VMGroup × Bool :=
  match group.byId.lookup id with
  | none => (group, false)
  | some role =>
    if role.vms ≠ [] then (group, false)
    else
      let group := { group with byId := group.byId.erase id, byName := group.byName.erase role.name }
      (group, group.checkConsistency)

def updateRole (id : Int) (vrole : VectorAttribute) : VMGroup × Bool :=
  match group.byId.lookup id with
  | none => (group, false)
  | some role =>
    let newName := vrole.vectorValue "NAME"
    if role.vms ≠ [] then (group, false)
    else if newName = "" ∨ newName = role.name then
      let group := { group with byId := group.byId.insert id (role.update vrole) }
      (group, group.checkConsistency)
    else if newName ∈ group.byName then (group, false)
    else
      -- `rename_role`
      let renamed : VMGroupRole := ⟨role.va.replace "NAME" newName⟩
      let group := { group with
        byId := group.byId.insert id (renamed.update vrole)
        byName := (group.byName.erase role.name).insert newName id }
      (group, group.checkConsistency)

def readRoles : List VMGroupRole → VMGroup → Option VMGroup
  | [], group => some group
  | role :: rest, group =>
    let (rid, isNumber) := role.va.intValue "ID" 0
    if role.name = "" ∨ isNumber = false ∨ rid ∈ group.byId ∨ role.name ∈ group.byName then none
    else readRoles rest { group.insertRole rid role with nextRole := max group.nextRole (rid + 1) }

/-- What has been stored is read. -/
def reload : Option VMGroup :=
  readRoles (group.byId.entries.map Sigma.snd) { affined := group.affined, antiAffined := group.antiAffined }

def addRoles : List VectorAttribute → VMGroup → Option VMGroup
  | [], group => some group
  | vrole :: rest, group => if (group.addRoleOf vrole).2 then addRoles rest (group.addRoleOf vrole).1 else none

def insert (roles : List (Option VectorAttribute)) (affined antiAffined : List String) : Option VMGroup :=
  if maxRoles < roles.length then none
  else (addRoles (roles.filterMap (·)) { affined, antiAffined }).filter checkConsistency

/-- What `check_rule_consistency` relies on. -/
structure Representable : Prop where
  small : ∀ key role, group.byId.lookup key = some role → 0 ≤ role.id ∧ role.id < maxRoles
  contained : ∀ rnames ids, group.namesToIds rnames = some ids → ∀ id ∈ ids, (group.ruleOf rnames).getLsbD id.toNat
  exclusive : group.checkRuleConsistency →
    ∀ rnames ∈ group.affined, ∀ ids, group.namesToIds rnames = some ids →
      ∀ key role, group.byId.lookup key = some role → role.id ∈ ids →
        role.policy ≠ .antiAffined ∧
          ∀ others ∈ group.antiAffined, ∀ apart, group.namesToIds others = some apart → role.id ∉ apart

end VMGroup

/-- A group in memory, and as it was stored. -/
structure VMGroupObject where
  memory : VMGroup
  stored : VMGroup

inductive Event where
  | addRole (vrole : VectorAttribute)
  | delRole (id : Int)
  | updateRole (id : Int) (vrole : VectorAttribute)
  | reload

namespace VMGroupObject

variable (object : VMGroupObject)

def change (result : VMGroup × Bool) : VMGroupObject := ⟨result.1, if result.2 then result.1 else object.stored⟩

def apply : Event → Option VMGroupObject
  | .addRole vrole => some (object.change (object.memory.addRole vrole))
  | .delRole id => some (object.change (object.memory.delRole id))
  | .updateRole id vrole => some (object.change (object.memory.updateRole id vrole))
  | .reload => object.stored.reload.map ({ object with memory := · })

def run : List Event → VMGroupObject → Option VMGroupObject
  | [], object => some object
  | event :: rest, object => (object.apply event).bind (run rest)

/-- A role is added while there are numbers left, and its number and name are not overwritten. -/
def Meets : Event → Prop
  | .addRole _ => object.memory.nextRole < maxRoles
  | .updateRole id vrole => (∀ number ∈ vrole.lookup "ID", number = toString id) ∧ vrole.lookup "NAME" ≠ some ""
  | _ => True

def AllMeet : List Event → VMGroupObject → Prop
  | [], _ => True
  | event :: rest, object => object.Meets event ∧ ∀ next ∈ object.apply event, AllMeet rest next

end VMGroupObject

section Invariant

variable {group next : VMGroup} {role : VMGroupRole} {key : Int} {rnames : String} {ids : List Int}

/-- Each role has the number of its key. -/
structure VMGroup.Sound (group : VMGroup) : Prop where
  numbered : ∀ key role, group.byId.lookup key = some role →
    role.va.vectorValue "ID" = toString key ∧ 0 ≤ key ∧ key < maxRoles
  natural : 0 ≤ group.nextRole

namespace VMGroup

theorem intValue_number (isNumber : role.va.vectorValue "ID" = toString key) (natural : 0 ≤ key) (small : key < maxRoles) :
    role.va.intValue "ID" 0 = (key, true) := by
  obtain ⟨number, rfl⟩ := Int.eq_ofNat_of_zero_le natural
  have read : readNumber 10 .int (toString number) = ⟨some number, true⟩ := readNumber_natural (by
    change (number : Int) < (32 : ℕ) at small
    omega)
  have filled : toString number ≠ "" := by
    intro empty
    rw [empty, show readNumber 10 .int "" = ⟨none, false⟩ by decide] at read
    cases read
  have isText : role.va.vectorValue "ID" = toString number := isNumber
  simp only [VectorAttribute.intValue, isText, filled, if_false, read, Option.getD_some]

theorem Sound.id (sound : group.Sound) (found : group.byId.lookup key = some role) :
    role.id = key ∧ 0 ≤ key ∧ key < maxRoles := by
  obtain ⟨isNumber, natural, small⟩ := sound.numbered key role found
  exact ⟨congrArg Prod.fst (intValue_number isNumber natural small), natural, small⟩

theorem mem_namesToIds (known : group.namesToIds rnames = some ids) {id : Int} (member : id ∈ ids) :
    ∃ key role, group.byId.lookup key = some role ∧ role.id = id := by
  rw [namesToIds] at known
  split at known
  · obtain rfl := Option.some.inj known
    obtain ⟨name, -, isId⟩ := List.mem_filterMap.1 member
    obtain ⟨role, isRole, isId⟩ := Option.map_eq_some_iff.1 isId
    obtain ⟨key, -, found⟩ := Option.bind_eq_some_iff.1 isRole
    exact ⟨key, role, found, isId⟩
  · contradiction

theorem getRules_mem {texts : List String} {start rules : List VMGroupRule} (isRules : group.getRules texts start = some rules) :
    (∀ rule ∈ start, rule ∈ rules) ∧ ∀ text ∈ texts, group.ruleOf text ∈ rules := by
  induction texts generalizing start with
  | nil => exact ⟨fun rule member => Option.some.inj isRules ▸ member, fun text none => by simp at none⟩
  | cons names rest induction =>
    rw [getRules] at isRules
    split at isRules
    · contradiction
    · obtain ⟨kept, added⟩ := induction isRules
      exact ⟨fun rule member => kept rule (List.mem_cons_of_mem _ member),
        List.forall_mem_cons.2 ⟨kept _ List.mem_cons_self, added⟩⟩

theorem getLsbD_foldl_or (rules : List VMGroupRule) (start : VMGroupRule) (i : ℕ) :
    (rules.foldl (· ||| ·) start).getLsbD i = (start.getLsbD i || rules.any (·.getLsbD i)) := by
  induction rules generalizing start with
  | nil => simp
  | cons rule rest induction => rw [List.foldl_cons, induction, BitVec.getLsbD_or, List.any_cons, Bool.or_assoc]

section

variable (sound : group.Sound)
include sound

theorem Sound.representable : group.Representable := by
  have contained (rnames : String) (ids : List Int) (known : group.namesToIds rnames = some ids) (id : Int)
      (member : id ∈ ids) : (group.ruleOf rnames).getLsbD id.toNat := by
    obtain ⟨key, role, found, rfl⟩ := mem_namesToIds known member
    obtain ⟨isKey, natural, small⟩ := sound.id found
    rw [ruleOf, known, VMGroupRule.getLsbD_ofIds, decide_eq_true_eq]
    exact ⟨by omega, List.mem_map_of_mem member⟩
  refine ⟨fun key role found => ?_, contained, fun accepted rnames isAffined ids known key role found member => ?_⟩
  · obtain ⟨isKey, bounds⟩ := sound.id found
    exact isKey.symm ▸ bounds
  · obtain ⟨isKey, natural, small⟩ := sound.id found
    have inside := contained rnames ids known role.id member
    unfold checkRuleConsistency at accepted
    split at accepted
    · rename_i affined anti isRules isAnti
      rw [Bool.and_eq_true, List.all_eq_true, decide_eq_true_eq] at accepted
      have isRule := (getRules_mem isRules).2 rnames isAffined
      refine ⟨fun isAntiAffined => ?_, fun others isOther apart knownApart shared => ?_⟩
      · have bit : role.id.toNat ∈ (group.ruleOf rnames).roles :=
          List.mem_filter.2 ⟨List.mem_range.2 (by omega), inside⟩
        have checked := List.all_eq_true.1 (accepted.1 _ isRule) _ bit
        rw [Int.toNat_of_nonneg (by omega), isKey, found] at checked
        simp [isAntiAffined] at checked
      · have isOtherRule := (getRules_mem isAnti).2 others isOther
        have both := congrArg (BitVec.getLsbD · role.id.toNat) accepted.2
        simp only [BitVec.getLsbD_and, getLsbD_foldl_or, BitVec.ofNat_eq_ofNat, BitVec.getLsbD_zero, Bool.false_or,
          Bool.and_eq_false_iff, List.any_eq_false] at both
        rcases both with none | none
        · exact none _ isRule inside
        · exact none _ isOtherRule (contained others apart knownApart role.id shared)
    · contradiction

/-! Each operation keeps the numbers. -/

theorem Sound.insert (natural : 0 ≤ key) (small : key < maxRoles)
    (isNumber : role.va.vectorValue "ID" = toString key) (isById : next.byId = group.byId.insert key role)
    (nextRole : 0 ≤ next.nextRole) : next.Sound := by
  refine ⟨fun other held found => ?_, nextRole⟩
  rw [isById, Map.lookup_insert_eq] at found
  split at found
  · rename_i same
    obtain rfl := Option.some.inj found
    exact same ▸ ⟨isNumber, natural, small⟩
  · exact sound.numbered other held found

theorem Sound.addRoleOf (vrole : VectorAttribute) (room : group.nextRole < maxRoles) :
    (group.addRoleOf vrole).1.Sound ∧ (group.addRoleOf vrole).1.nextRole ≤ group.nextRole + 1 := by
  unfold VMGroup.addRoleOf
  simp only
  split
  · exact ⟨sound, by simp only; omega⟩
  · have natural := sound.natural
    exact ⟨sound.insert natural room (by simp) rfl (by simp only; omega), le_rfl⟩

theorem Sound.addRoles {vroles : List VectorAttribute}
    (room : group.nextRole + vroles.length ≤ maxRoles) (added : addRoles vroles group = some next) : next.Sound := by
  induction vroles generalizing group with
  | nil => exact Option.some.inj added ▸ sound
  | cons vrole rest induction =>
    rw [VMGroup.addRoles] at added
    rw [List.length_cons] at room
    split at added
    · obtain ⟨sound, below⟩ := sound.addRoleOf vrole (by omega)
      exact induction sound (by push_cast at room; omega) added
    · contradiction

theorem Sound.delRole (id : Int) : (group.delRole id).1.Sound := by
  unfold VMGroup.delRole
  split
  · exact sound
  · split
    · exact sound
    · refine ⟨fun key role found => ?_, sound.natural⟩
      rw [Map.lookup_erase_eq] at found
      split at found
      · contradiction
      · exact sound.numbered key role found

end

theorem update_number {vrole : VectorAttribute} {number : String} (same : ∀ value ∈ vrole.lookup "ID", value = number)
    (isNumber : role.va.vectorValue "ID" = number) : (role.update vrole).va.vectorValue "ID" = number := by
  refine VectorAttribute.merge_value (fun row member isId => ?_) isNumber
  have found := Map.mem_entries_iff.1 member
  rw [VectorAttribute.remove, Map.lookup_erase_eq, isId] at found
  exact same row.2 (by simpa using found)

theorem Sound.updateRole (sound : group.Sound) {id : Int} {vrole : VectorAttribute}
    (same : ∀ number ∈ vrole.lookup "ID", number = toString id) : (group.updateRole id vrole).1.Sound := by
  unfold VMGroup.updateRole
  split
  · exact sound
  · rename_i role found
    obtain ⟨isNumber, natural, small⟩ := sound.numbered id role found
    simp only
    split
    · exact sound
    · split
      · exact sound.insert natural small (update_number same isNumber) rfl sound.natural
      · split
        · exact sound
        · exact sound.insert natural small (update_number same (by simpa using isNumber)) rfl sound.natural

theorem Sound.readRoles {roles : List VMGroupRole} (sound : group.Sound)
    (numbered : ∀ role ∈ roles, ∃ key : Int, role.va.vectorValue "ID" = toString key ∧ 0 ≤ key ∧ key < maxRoles)
    (read : readRoles roles group = some next) : next.Sound := by
  induction roles generalizing group with
  | nil => exact Option.some.inj read ▸ sound
  | cons role rest induction =>
    obtain ⟨⟨key, isNumber, natural, small⟩, others⟩ := List.forall_mem_cons.1 numbered
    simp only [VMGroup.readRoles, intValue_number isNumber natural small] at read
    split at read
    · contradiction
    · exact induction (sound.insert natural small isNumber rfl (le_max_of_le_left sound.natural)) others read

theorem Sound.reload (sound : group.Sound) (read : group.reload = some next) : next.Sound := by
  refine Sound.readRoles ⟨fun key role found => by simp at found, le_rfl⟩ (fun role member => ?_) read
  obtain ⟨⟨key, held⟩, isRow, rfl⟩ := List.mem_map.1 member
  exact ⟨key, sound.numbered key held (Map.mem_entries_iff.1 isRow)⟩

end VMGroup

namespace VMGroupObject

theorem sound_change {object : VMGroupObject} {result : VMGroup × Bool} (stored : object.stored.Sound)
    (sound : result.1.Sound) : (object.change result).memory.Sound ∧ (object.change result).stored.Sound := by
  refine ⟨sound, ?_⟩
  unfold change
  simp only
  split
  · exact sound
  · exact stored

theorem sound_apply {object next : VMGroupObject} {event : Event} (sound : object.memory.Sound ∧ object.stored.Sound)
    (meets : object.Meets event) (applied : object.apply event = some next) : next.memory.Sound ∧ next.stored.Sound := by
  cases event with
  | addRole vrole =>
    obtain rfl := Option.some.inj applied
    exact sound_change sound.2 (sound.1.addRoleOf vrole meets).1
  | delRole id =>
    obtain rfl := Option.some.inj applied
    exact sound_change sound.2 (sound.1.delRole id)
  | updateRole id vrole =>
    obtain rfl := Option.some.inj applied
    exact sound_change sound.2 (sound.1.updateRole meets.1)
  | reload =>
    obtain ⟨memory, read, rfl⟩ := Option.map_eq_some_iff.1 applied
    exact ⟨sound.2.reload read, sound.2⟩

theorem sound_run {object reached : VMGroupObject} {events : List Event}
    (sound : object.memory.Sound ∧ object.stored.Sound) (meets : AllMeet events object)
    (ran : run events object = some reached) : reached.memory.Sound ∧ reached.stored.Sound := by
  induction events generalizing object with
  | nil => exact Option.some.inj ran ▸ sound
  | cons event rest induction =>
    obtain ⟨next, applied, ran⟩ := Option.bind_eq_some_iff.1 ran
    exact induction (sound_apply sound meets.1 applied) (meets.2 next applied) ran

end VMGroupObject

end Invariant

namespace VMGroupObject

/-- In the runs that leave the numbers alone and do not exhaust them. -/
theorem roles_representable (roles : List (Option VectorAttribute)) (affined antiAffined : List String) (group : VMGroup)
    (inserted : VMGroup.insert roles affined antiAffined = some group) (events : List Event)
    (meets : AllMeet events ⟨group, group⟩) (reached : VMGroupObject) (ran : run events ⟨group, group⟩ = some reached) :
    reached.memory.Representable ∧ reached.stored.Representable := by
  have sound : group.Sound := by
    rw [VMGroup.insert] at inserted
    split at inserted
    · contradiction
    · rename_i few
      obtain ⟨added, -⟩ := Option.filter_eq_some_iff.mp inserted
      refine VMGroup.Sound.addRoles ⟨fun key role found => by simp at found, le_rfl⟩ ?_ added
      have fewer := List.length_filterMap_le (fun vrole : Option VectorAttribute => vrole) roles
      change (0 : Int) + _ ≤ _
      omega
  obtain ⟨memory, stored⟩ := sound_run ⟨sound, sound⟩ meets ran
  exact ⟨memory.representable, stored.representable⟩

instance (object : VMGroupObject) : (event : Event) → Decidable (object.Meets event)
  | .addRole _ => inferInstanceAs (Decidable (_ < _))
  | .updateRole .. => inferInstanceAs (Decidable (_ ∧ _))
  | .delRole _ | .reload => isTrue trivial

instance decidableAllMeet : (events : List Event) → (object : VMGroupObject) → Decidable (AllMeet events object)
  | [], _ => isTrue trivial
  | event :: rest, object =>
    have := decidableAllMeet rest
    inferInstanceAs (Decidable (object.Meets event ∧ ∀ next ∈ object.apply event, AllMeet rest next))

def roleNamed (name : String) : VectorAttribute := VectorAttribute.replace ∅ "NAME" name

def twoRoles : VMGroup := (VMGroup.insert [some (roleNamed "a"), none, some (roleNamed "b")] ["a,b"] []).getD {}

def changes : List Event :=
  [.addRole (roleNamed "c"), .reload, .updateRole 1 (VectorAttribute.replace ∅ "POLICY" "affined"), .delRole 2, .reload]

theorem roles_representable_changes :
    ∃ reached ∈ run changes ⟨twoRoles, twoRoles⟩, reached.memory.Representable ∧ reached.stored.Representable := by
  have accepted : (VMGroup.insert [some (roleNamed "a"), none, some (roleNamed "b")] ["a,b"] []).isSome := by decide +kernel
  have isTwo : VMGroup.insert [some (roleNamed "a"), none, some (roleNamed "b")] ["a,b"] [] = some twoRoles := by
    obtain ⟨group, inserted⟩ := Option.isSome_iff_exists.mp accepted
    rw [twoRoles, inserted, Option.getD_some]
  obtain ⟨reached, ran⟩ := Option.isSome_iff_exists.mp
    (show (run changes ⟨twoRoles, twoRoles⟩).isSome by decide +kernel)
  exact ⟨reached, ran, roles_representable _ _ _ twoRoles isTwo changes (by decide +kernel) reached ran⟩

/-- An update gives a role a number that no rule holds, and the policy that its rule forbids; and
33 roles are added one by one. -/
theorem roles_out_of_range :
    (let changed := twoRoles.updateRole 1 ((VectorAttribute.replace ∅ "ID" "40").replace "POLICY" "anti_affined")
     changed.2 = true ∧ (changed.1.byId.lookup 1).map VMGroupRole.id = some 40 ∧
      (changed.1.ruleOf "a,b").getLsbD 40 = false) ∧
      ((run ((List.range 33).map fun number => .addRole (roleNamed (toString number))) ⟨{}, {}⟩).bind fun reached =>
        (reached.stored.get "32").map VMGroupRole.id) = some 32 := by
  decide +kernel

end VMGroupObject

end OpenNebula.Vmgroup
