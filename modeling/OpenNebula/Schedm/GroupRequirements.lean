import OpenNebula.Library.Folds
import OpenNebula.Schedm.RequirementTexts
import OpenNebula.Schedm.VMGroups

namespace OpenNebula.Schedm.Rank

open Library Parsers

/-! # Requirements of the groups

What the texts of a group say, and which of them the VMs have in the end.
-/

def Added (text : String) : Prop := text = "" ∨ ∃ value, Evaluates text value

theorem Added.narrows {added : String} (isAdded : Added added) (text : String) :
    Narrows text (addRequirements text added) := by
  rcases isAdded with rfl | ⟨value, evaluates⟩
  · rw [addRequirements, if_pos rfl]
    exact .refl text
  · exact (evaluates.added text).1

theorem added_joinTerms {sep : String} {combine : Bool → Bool → Bool}
    (isSep : sep = " & " ∧ combine = and ∨ sep = " | " ∧ combine = or)
    (terms : List (String × (Object → Bool))) (evaluates : ∀ term ∈ terms, Evaluates term.1 term.2) :
    Added (joinTerms sep (terms.map fun term => "(" ++ term.1 ++ ")")) := by
  cases terms with
  | nil => exact .inl rfl
  | cons first rest => exact .inr ⟨_, evaluates_joinTerms isSep first rest evaluates⟩

def currentVmsTerm (op : String) (oid : Oid) : String := "CURRENT_VMS " ++ op ++ " " ++ toString oid.val

theorem currentVmsTerms_eq (op op2 : String) (oids : List Oid) : currentVmsTerms op op2 oids =
      joinTerms op2 (oids.map fun oid => "(" ++ currentVmsTerm op oid ++ ")") := by
  have same : ∀ oid : Oid, "(CURRENT_VMS " ++ op ++ " " ++ toString oid.val ++ ")" =
      "(" ++ currentVmsTerm op oid ++ ")" :=
    fun oid => String.toList_injective (by simp [currentVmsTerm])
  rw [currentVmsTerms, joinTerms, List.foldl_map]
  simp only [same]

theorem hostRequirements_eq {op1 op2 sep : String} (isSep : " " ++ op2 ++ " " = sep) (hosts : List Oid) :
    hostRequirements hosts op1 op2 =
      joinTerms sep (hosts.map fun hid => "(" ++ ("ID" ++ op1 ++ toString hid.val) ++ ")") := by
  subst isSep
  rw [hostRequirements, joinTerms, List.foldl_map]
  congr 1
  funext text hid
  refine String.toList_injective ?_
  split <;> simp

theorem within_joinTerms (sep : String) {term : String} {terms : List String} (member : term ∈ terms) :
    term.toList <:+: (joinTerms sep terms).toList := by
  induction terms using List.reverseRecOn with
  | nil => cases member
  | append_singleton terms last ih =>
    rw [joinTerms_snoc, String.toList_append]
    rcases List.mem_append.1 member with before | isLast
    · refine (ih before).trans ?_
      split
      · rename_i none
        rw [none]
        exact List.nil_infix
      · rw [String.toList_append, List.append_assoc]
        exact List.infix_append' [] _ _
    · rw [List.mem_singleton.1 isLast]
      exact (List.suffix_append _ _).isInfix

theorem foldl_and_true {values : List Bool} {start : Bool}
    (holds : values.foldl and start = true) : start = true ∧ ∀ value ∈ values, value = true := by
  induction values generalizing start with
  | nil => exact ⟨holds, by simp⟩
  | cons value rest ih =>
    obtain ⟨both, later⟩ := ih holds
    simp only [Bool.and_eq_true] at both
    exact ⟨both.1, List.forall_mem_cons.2 ⟨both.2, later⟩⟩

theorem evaluates_term {op : String} {relation : Relation}
    (isOp : op = "=" ∧ relation = .eq ∨ op = "!=" ∧ relation = .ne) (oid : Oid) :
    Evaluates (currentVmsTerm op oid) fun object => object "CURRENT_VMS" relation (.integer oid.val) :=
  evaluates_currentVms isOp oid.isLt

theorem evaluates_antiaffinity (first : Oid) (rest : List Oid) :
    Evaluates (currentVmsTerms "!=" " & " (first :: rest)) fun object =>
      (rest.map fun oid => object "CURRENT_VMS" .ne (.integer oid.val)).foldl and
        (object "CURRENT_VMS" .ne (.integer first.val)) := by
  have evaluates := evaluates_joinTerms (.inl ⟨rfl, rfl⟩)
    (currentVmsTerm "!=" first, fun object => object "CURRENT_VMS" .ne (.integer first.val))
    (rest.map fun oid =>
      (currentVmsTerm "!=" oid, fun object => object "CURRENT_VMS" .ne (.integer oid.val))) (by
        intro term member
        rcases List.mem_cons.1 member with rfl | member
        · exact evaluates_term (.inr ⟨rfl, rfl⟩) first
        · obtain ⟨oid, -, rfl⟩ := List.mem_map.1 member
          exact evaluates_term (.inr ⟨rfl, rfl⟩) oid)
  rw [currentVmsTerms_eq]
  simpa only [List.map_cons, List.map_map, Function.comp_def, List.foldl_map] using evaluates

theorem added_antiaffinity (oids : List Oid) : Added (currentVmsTerms "!=" " & " oids) := by
  cases oids with
  | nil => exact .inl rfl
  | cons first rest => exact .inr ⟨_, evaluates_antiaffinity first rest⟩

theorem narrows_antiaffinity {oids : List Oid} {oid : Oid} (member : oid ∈ oids) :
    Narrows (currentVmsTerm "!=" oid) (currentVmsTerms "!=" " & " oids) := by
  constructor
  · intro object holds
    obtain ⟨first, rest, rfl⟩ := List.exists_cons_of_ne_nil (List.ne_nil_of_mem member)
    rw [(evaluates_antiaffinity first rest).isValue, Option.some.injEq] at holds
    obtain ⟨isFirst, every⟩ := foldl_and_true holds
    rw [(evaluates_term (.inr ⟨rfl, rfl⟩) oid).isValue]
    rcases List.mem_cons.1 member with rfl | member
    · rw [isFirst]
    · rw [every _ (List.mem_map.2 ⟨oid, member, rfl⟩)]
  · have inside : ("(" ++ currentVmsTerm "!=" oid ++ ")") ∈
        oids.map fun oid => "(" ++ currentVmsTerm "!=" oid ++ ")" := List.mem_map.2 ⟨oid, member, rfl⟩
    rw [currentVmsTerms_eq]
    refine List.IsInfix.trans ?_ (within_joinTerms _ inside)
    rw [String.toList_append, String.toList_append]
    exact List.infix_append _ _ _

theorem added_hostRequirements {op1 op2 : String}
    (isOp : op1 = "=" ∧ op2 = "|" ∨ op1 = "!=" ∧ op2 = "&") (hosts : List Oid) :
    Added (hostRequirements hosts op1 op2) := by
  rcases isOp with ⟨rfl, rfl⟩ | ⟨rfl, rfl⟩
  · have isAdded := added_joinTerms (.inr ⟨rfl, rfl⟩)
      (hosts.map fun hid => ("ID" ++ "=" ++ toString hid.val,
        fun object : Object => object "ID" .eq (.integer hid.val))) (by
          intro term member
          obtain ⟨hid, -, rfl⟩ := List.mem_map.1 member
          exact evaluates_host (.inl ⟨rfl, rfl⟩) hid.isLt)
    rw [List.map_map] at isAdded
    rw [hostRequirements_eq (show " " ++ "|" ++ " " = " | " from rfl)]
    exact isAdded
  · have isAdded := added_joinTerms (.inl ⟨rfl, rfl⟩)
      (hosts.map fun hid => ("ID" ++ "!=" ++ toString hid.val,
        fun object : Object => object "ID" .ne (.integer hid.val))) (by
          intro term member
          obtain ⟨hid, -, rfl⟩ := List.mem_map.1 member
          exact evaluates_host (.inr ⟨rfl, rfl⟩) hid.isLt)
    rw [List.map_map] at isAdded
    rw [hostRequirements_eq (show " " ++ "&" ++ " " = " & " from rfl)]
    exact isAdded

variable {pool rolesPool : Map Oid VirtualMachineXML} {oid : Oid} {text : String}

def Demanded (oid : Oid) (text : String) (pool : Map Oid VirtualMachineXML) : Prop :=
  ∀ vm, pool.lookup oid = some vm → Narrows text vm.requirements

theorem Demanded.update (demanded : Demanded oid text pool) (id : Oid)
    {change : VirtualMachineXML → VirtualMachineXML}
    (narrows : ∀ vm, id = oid → Narrows vm.requirements (change vm).requirements) :
    Demanded oid text (pool.update id change) := by
  intro vm isVm
  rw [Map.lookup_update] at isVm
  obtain ⟨before, isBefore, rfl⟩ := Option.map_eq_some_iff.1 isVm
  split
  · rename_i same
    exact (demanded before isBefore).trans (narrows before same.symm)
  · exact demanded before isBefore

theorem demanded_added {added : String} {value : Object → Bool} (evaluates : Evaluates added value)
    (narrows : Narrows text added) (oid : Oid) : Demanded oid text (pool.update oid (·.addRequirements added)) := by
  intro vm isVm
  rw [Map.lookup_update] at isVm
  obtain ⟨before, -, rfl⟩ := Option.map_eq_some_iff.1 isVm
  rw [if_pos rfl]
  exact narrows.trans (evaluates.added before.requirements).2

namespace VMGroupXML

variable {group : VMGroupXML}

theorem demanded_addRequirements (demanded : Demanded oid text pool) {added : String}
    (isAdded : Added added) (oids : List Oid) : Demanded oid text (addRequirements added oids pool) :=
  foldl_keeps (fun _ id demanded => demanded.update id fun vm _ => isAdded.narrows vm.requirements) demanded

theorem addRequirements_demands {added : String} {value : Object → Bool}
    (evaluates : Evaluates added value) (narrows : Narrows text added) {oids : List Oid}
    (member : oid ∈ oids) : Demanded oid text (addRequirements added oids pool) :=
  foldl_reaches member (fun _ => demanded_added evaluates narrows oid)
    (fun _ id demanded => demanded.update id fun vm _ => Added.narrows (.inr ⟨_, evaluates⟩) vm.requirements)
    pool

theorem demanded_setHostRequirements (demanded : Demanded oid text pool) :
    Demanded oid text (group.setHostRequirements pool) := by
  refine foldl_keeps (fun pool role demanded => ?_) demanded
  refine foldl_keeps (fun pool id demanded => demanded.update id fun vm _ => ?_) demanded
  exact (Added.narrows (added_hostRequirements (.inl ⟨rfl, rfl⟩) _) vm.requirements).trans
    (Added.narrows (added_hostRequirements (.inr ⟨rfl, rfl⟩) _) _)

theorem affinityRequirements_none (vms : List Oid) :
    affinityRequirements none .antiAffined vms = currentVmsTerms "!=" " & " vms := by
  simp [affinityRequirements]

theorem joinTerms_ne (sep : String) {terms : List String} (nonempty : ∀ term ∈ terms, term ≠ "")
    (some : terms ≠ []) : joinTerms sep terms ≠ "" := by
  obtain ⟨first, rest, rfl⟩ := List.exists_cons_of_ne_nil some
  intro empty
  have inside := within_joinTerms sep (List.mem_cons_self : first ∈ first :: rest)
  rw [empty] at inside
  exact nonempty first (by simp) (String.toList_injective (List.eq_nil_of_infix_nil inside))

theorem joinTerms_append (sep : String) (front : List String) {back : List String} (nonempty : ∀ term ∈ back, term ≠ "") :
    joinTerms sep (front ++ back) = if joinTerms sep back = "" then joinTerms sep front
      else if joinTerms sep front = "" then joinTerms sep back
      else joinTerms sep front ++ sep ++ joinTerms sep back := by
  induction back using List.reverseRecOn with
  | nil => simp [joinTerms]
  | append_singleton back last ih =>
    have before := ih fun term member => nonempty term (by simp [member])
    rw [if_neg (joinTerms_ne sep nonempty (by simp)), ← List.append_assoc, joinTerms_snoc, joinTerms_snoc, before]
    by_cases none : back = []
    · subst none
      have empty : joinTerms sep [] = "" := rfl
      rw [empty, if_pos rfl, if_pos rfl]
      split <;> simp
    · have someBack := joinTerms_ne sep (fun term member => nonempty term (by simp [member])) none
      rw [if_neg someBack, if_neg someBack]
      split
      · rfl
      · rw [if_neg, String.append_assoc, String.append_assoc, String.append_assoc,
          String.append_assoc, String.append_assoc]
        intro same
        have chars := congrArg String.toList same
        simp only [String.toList_append, String.toList_empty, List.append_eq_nil_iff] at chars
        exact someBack (String.toList_injective (by simpa using chars.2))

def otherVms (group : VMGroupXML) (rule : VMGroupRule) (id : Nat) : List Oid :=
  (rule.roles.filter fun other => other ≠ id).flatMap fun other =>
    ((group.role other).map VMGroupRole.vms).getD []

theorem currentVmsTerms_append (front back : List Oid) : currentVmsTerms "!=" " & " (front ++ back) =
      if currentVmsTerms "!=" " & " back = "" then currentVmsTerms "!=" " & " front
      else if currentVmsTerms "!=" " & " front = "" then currentVmsTerms "!=" " & " back
      else currentVmsTerms "!=" " & " front ++ " & " ++ currentVmsTerms "!=" " & " back := by
  have terms : ∀ oid : Oid, "(" ++ currentVmsTerm "!=" oid ++ ")" ≠ "" := by
    intro oid same
    have chars := congrArg String.toList same
    simp at chars
  have split := joinTerms_append " & " (front.map fun oid => "(" ++ currentVmsTerm "!=" oid ++ ")")
    (show ∀ term ∈ back.map fun oid => "(" ++ currentVmsTerm "!=" oid ++ ")", term ≠ "" by
      intro term member
      obtain ⟨oid, -, rfl⟩ := List.mem_map.1 member
      exact terms oid)
  rw [← List.map_append] at split
  simp only [currentVmsTerms_eq]
  exact split

theorem roleRequirements_eq (group : VMGroupXML) (rule : VMGroupRule) (id : Nat) :
    group.roleRequirements rule id = currentVmsTerms "!=" " & " (group.otherVms rule id) := by
  rw [roleRequirements, otherVms]
  induction rule.roles.filter (fun other => other ≠ id) using List.reverseRecOn with
  | nil => rfl
  | append_singleton others other ih =>
    rw [List.foldl_append, ih, List.flatMap_append, List.flatMap_singleton, currentVmsTerms_append]
    simp only [List.foldl_cons, List.foldl_nil]
    cases group.role other with
    | none => rfl
    | some role => simp only [affinityRequirements_none, Option.map_some, Option.getD_some]

end VMGroupXML

namespace VMGroupRule

theorem getLsbD_ofIds (ids : List Nat) (id : Nat) : (ofIds ids).getLsbD id = decide (id < maxRoles ∧ id ∈ ids) := by
  have folded : ∀ start : VMGroupRule,
      (ids.foldl (fun rule rid => if rid < maxRoles then rule ||| BitVec.twoPow 32 rid else rule)
        start).getLsbD id = (start.getLsbD id || decide (id < maxRoles ∧ id ∈ ids)) := by
    induction ids with
    | nil => simp
    | cons rid rest ih =>
      intro start
      rw [List.foldl_cons, ih]
      by_cases small : rid < maxRoles
      · rw [if_pos small, BitVec.getLsbD_or, BitVec.getLsbD_twoPow, Bool.or_assoc]
        congr 1
        simp only [maxRoles] at small ⊢
        by_cases same : rid = id
        · subst same
          simp [small]
        · by_cases low : id < 32 <;> simp [same, Ne.symm same, low]
      · rw [if_neg small]
        congr 1
        by_cases same : id = rid
        · subst same
          simp [small]
        · simp [same]
  simpa [ofIds] using folded 0

theorem mem_roles {ids : List Nat} {id : Nat} : id ∈ (ofIds ids).roles ↔ id < maxRoles ∧ id ∈ ids := by
  simp only [roles, List.mem_filter, List.mem_range, getLsbD_ofIds, decide_eq_true_eq]
  exact ⟨fun both => both.2, fun both => ⟨both.1, both⟩⟩

theorem mem_insert {rule other : VMGroupRule} {rules : List VMGroupRule} :
    other ∈ insert rule rules ↔ other = rule ∨ other ∈ rules := by
  induction rules with
  | nil => simp [insert]
  | cons first rest ih =>
    rw [insert]
    split
    · simp
    · split
      · rename_i same
        subst same
        simp
      · rw [List.mem_cons, ih, List.mem_cons]
        constructor <;> (rintro (rfl | rfl | inside) <;> simp_all)

end VMGroupRule

namespace VMGroupXML

variable {group : VMGroupXML}

theorem mem_ruleSet (group : VMGroupXML) {rules : List (List String)} {names : List String} (member : names ∈ rules) :
    VMGroupRule.ofIds (group.namesToIds names) ∈ group.ruleSet rules :=
  foldl_reaches (P := fun set => VMGroupRule.ofIds (group.namesToIds names) ∈ set) member
    (fun _ => VMGroupRule.mem_insert.2 (.inl rfl))
    (fun _ _ inside => VMGroupRule.mem_insert.2 (.inr inside)) []

variable {role : VMGroupRole} {counts : Nat → Prop} {a b : Oid} {oids : List Oid}

theorem role_of_mem (member : role ∈ group.roles) : group.role role.id = some role :=
  find?_of_nodup_map group.idsNodup member

theorem mem_namesToIds {names : List String} (known : ∀ name ∈ names, name ∈ group.roles.map VMGroupRole.name)
    (member : role ∈ group.roles) (isNamed : role.name ∈ names) : role.id ∈ group.namesToIds names := by
  have found : ∀ other ∈ group.roles,
      (group.roles.find? fun candidate => candidate.name = other.name) = some other :=
    fun other inside => find?_of_nodup_map group.namesNodup inside
  have translated : ∀ names : List String, (∀ name ∈ names, name ∈ group.roles.map VMGroupRole.name) →
      ∃ ids, (names.mapM fun name =>
        (group.roles.find? fun candidate => candidate.name = name).map VMGroupRole.id) = some ids ∧
        (role.name ∈ names → role.id ∈ ids) := by
    intro names
    induction names with
    | nil => exact fun _ => ⟨[], rfl, fun inside => absurd inside List.not_mem_nil⟩
    | cons name rest ih =>
      intro known
      obtain ⟨ids, isIds, later⟩ := ih fun name inside => known name (List.mem_cons_of_mem _ inside)
      obtain ⟨other, inside, rfl⟩ := List.mem_map.1 (known name List.mem_cons_self)
      refine ⟨other.id :: ids, ?_, fun isNamed => ?_⟩
      · rw [List.mapM_cons, isIds, found other inside]
        rfl
      · rcases List.mem_cons.1 isNamed with same | before
        · have sameRole : role = other := by
            have one := found role member
            rw [same, found other inside] at one
            exact (Option.some.inj one).symm
          exact sameRole ▸ List.mem_cons_self
        · exact List.mem_cons_of_mem _ (later before)
  obtain ⟨ids, isIds, inside⟩ := translated names known
  rw [namesToIds, isIds]
  exact inside isNamed

theorem added_vmRole (isAnti : role.policy = .antiAffined) (oid : Oid) :
    Added (affinityRequirements (some oid) role.policy role.vms) := by
  rw [isAnti]
  exact added_antiaffinity _

theorem added_roleRequirements (rule : VMGroupRule) (id : Nat) : Added (group.roleRequirements rule id) := by
  rw [roleRequirements_eq]
  exact added_antiaffinity _

theorem demanded_intra (demanded : Demanded oid text pool) (roles : List VMGroupRole)
    (areAnti : ∀ role ∈ roles, role.policy = .antiAffined) :
    Demanded oid text (roles.foldl (fun pool role => role.vms.foldl (fun pool oid =>
      pool.update oid (·.addRequirements (affinityRequirements (some oid) role.policy role.vms))) pool) pool) :=
  List.foldlRecOn roles _ demanded fun _ demanded role member =>
    foldl_keeps (fun _ id demanded => demanded.update id fun vm _ =>
      (added_vmRole (areAnti role member) id).narrows vm.requirements) demanded

theorem demanded_inter (demanded : Demanded oid text pool) (rules : List VMGroupRule) :
    Demanded oid text (rules.foldl (fun pool rule => rule.roles.foldl (fun pool id =>
      match group.role id with
      | none => pool
      | some role => addRequirements (group.roleRequirements rule id) role.vms pool) pool) pool) := by
  refine foldl_keeps (fun pool rule demanded => foldl_keeps (fun pool id demanded => ?_) demanded) demanded
  cases group.role id with
  | none => exact demanded
  | some role => exact demanded_addRequirements demanded (added_roleRequirements rule id) role.vms

theorem demanded_setAntiaffinity (demanded : Demanded oid text pool) :
    Demanded oid text (group.setAntiaffinityRequirements pool) := by
  refine demanded_inter (demanded_intra demanded _ fun role member => ?_) _
  have inside := (List.mem_filter.1 member).2
  simp only [decide_eq_true_eq] at inside
  exact inside.1

/-- Two VMs that an anti-affined role of the group keeps apart, or two roles of an anti-affined
rule whose numbers count -/
inductive Apart (group : VMGroupXML) (counts : Nat → Prop) (a b : Oid) : Prop where
  | role (role : VMGroupRole) (member : role ∈ group.roles) (isAnti : role.policy = .antiAffined)
      (left : a ∈ role.vms) (right : b ∈ role.vms) (differ : a ≠ b)
  | rule (names : List String) (isRule : names ∈ group.antiAffined) (first second : VMGroupRole)
      (isFirst : first ∈ group.roles) (isSecond : second ∈ group.roles)
      (firstNamed : first.name ∈ names) (secondNamed : second.name ∈ names)
      (rolesDiffer : first.id ≠ second.id) (firstCounts : counts first.id)
      (secondCounts : counts second.id) (left : a ∈ first.vms) (right : b ∈ second.vms)
      (differ : a ≠ b)

theorem Apart.symm (isApart : group.Apart counts a b) : group.Apart counts b a := by
  cases isApart with
  | role role member isAnti left right differ => exact .role role member isAnti right left differ.symm
  | rule names isRule first second isFirst isSecond firstNamed secondNamed rolesDiffer firstCounts
      secondCounts left right differ =>
      exact .rule names isRule second first isSecond isFirst secondNamed firstNamed rolesDiffer.symm
        secondCounts firstCounts right left differ.symm

theorem Apart.differ (isApart : group.Apart counts a b) : a ≠ b := by
  cases isApart with
  | role role member isAnti left right differ => exact differ
  | rule names isRule first second isFirst isSecond firstNamed secondNamed rolesDiffer firstCounts
      secondCounts left right differ => exact differ

theorem Apart.below (isApart : group.Apart counts a b)
    (small : ∀ i j, i ≠ j → counts i → counts j → i < maxRoles ∧ j < maxRoles) : group.Apart (· < maxRoles) a b := by
  cases isApart with
  | role role member isAnti left right differ => exact .role role member isAnti left right differ
  | rule names isRule first second isFirst isSecond firstNamed secondNamed rolesDiffer firstCounts
      secondCounts left right differ =>
      obtain ⟨firstSmall, secondSmall⟩ := small _ _ rolesDiffer firstCounts secondCounts
      exact .rule names isRule first second isFirst isSecond firstNamed secondNamed rolesDiffer
        firstSmall secondSmall left right differ

theorem setAntiaffinity_demands (isApart : group.Apart (· < maxRoles) a b) :
    Demanded a (currentVmsTerm "!=" b) (group.setAntiaffinityRequirements pool) := by
  cases isApart with
  | role role member isAnti left right differ =>
    refine demanded_inter ?_ _
    have several : 1 < role.vms.length := by
      cases isVms : role.vms with
      | nil =>
        rw [isVms] at left
        cases left
      | cons first rest =>
        cases rest with
        | nil =>
          rw [isVms, List.mem_singleton] at left right
          exact absurd (left.trans right.symm) differ
        | cons second rest => simp
    have inside : role ∈ group.roles.filter fun role => role.policy = .antiAffined ∧ 1 < role.vms.length :=
      List.mem_filter.2 ⟨member, by simp [isAnti, several]⟩
    obtain ⟨front, back, isSplit⟩ := List.append_of_mem inside
    have backAnti : ∀ other ∈ back, other.policy = .antiAffined := by
      intro other later
      have kept : other ∈ group.roles.filter fun role => role.policy = .antiAffined ∧ 1 < role.vms.length :=
        isSplit ▸ List.mem_append_right _ (List.mem_cons_of_mem _ later)
      have both := (List.mem_filter.1 kept).2
      simp only [decide_eq_true_eq] at both
      exact both.1
    rw [isSplit, List.foldl_append, List.foldl_cons]
    refine demanded_intra ?_ back backAnti
    have others : b ∈ role.vms.filter fun oid => some a ≠ some oid :=
      List.mem_filter.2 ⟨right, by simpa using differ⟩
    have narrows : Narrows (currentVmsTerm "!=" b)
        (affinityRequirements (some a) role.policy role.vms) := by
      rw [isAnti]
      exact narrows_antiaffinity others
    obtain ⟨value, evaluates⟩ : ∃ value,
        Evaluates (affinityRequirements (some a) role.policy role.vms) value := by
      rw [isAnti]
      rcases added_antiaffinity (role.vms.filter fun oid => some a ≠ some oid) with none | found
      · obtain ⟨first, rest, isList⟩ := List.exists_cons_of_ne_nil (List.ne_nil_of_mem others)
        rw [isList] at none
        exact absurd none (evaluates_antiaffinity first rest).nonempty
      · exact found
    exact foldl_reaches left (fun _ => demanded_added evaluates narrows a)
      (fun _ id demanded => demanded.update id fun vm _ =>
        (added_vmRole isAnti id).narrows vm.requirements) _
  | rule names isRule first second isFirst isSecond firstNamed secondNamed rolesDiffer firstSmall
      secondSmall left right differ =>
      have known := group.named names (List.mem_append_right _ isRule)
      have firstIn := VMGroupRule.mem_roles.2 ⟨firstSmall, mem_namesToIds known isFirst firstNamed⟩
      have secondIn := VMGroupRule.mem_roles.2 ⟨secondSmall, mem_namesToIds known isSecond secondNamed⟩
      have others : b ∈ group.otherVms (VMGroupRule.ofIds (group.namesToIds names)) first.id := by
        refine List.mem_flatMap.2 ⟨second.id, List.mem_filter.2 ⟨secondIn, by simpa using rolesDiffer.symm⟩, ?_⟩
        rw [role_of_mem isSecond]
        exact right
      have narrows : Narrows (currentVmsTerm "!=" b)
          (group.roleRequirements (VMGroupRule.ofIds (group.namesToIds names)) first.id) := by
        rw [roleRequirements_eq]
        exact narrows_antiaffinity others
      obtain ⟨value, evaluates⟩ : ∃ value,
          Evaluates (group.roleRequirements (VMGroupRule.ofIds (group.namesToIds names)) first.id) value := by
        rw [roleRequirements_eq]
        obtain ⟨head, rest, isList⟩ := List.exists_cons_of_ne_nil (List.ne_nil_of_mem others)
        rw [isList]
        exact ⟨_, evaluates_antiaffinity head rest⟩
      obtain ⟨front, back, isSplit⟩ := List.append_of_mem (mem_ruleSet group isRule)
      rw [setAntiaffinityRequirements, isSplit, List.foldl_append, List.foldl_cons]
      refine demanded_inter ?_ back
      refine foldl_reaches firstIn (fun _ => ?_) (fun pool id demanded => ?_) _
      · rw [role_of_mem isFirst]
        exact addRequirements_demands evaluates narrows left
      · cases group.role id with
        | none => exact demanded
        | some role => exact demanded_addRequirements demanded (added_roleRequirements _ id) role.vms

theorem mem_insertOid {oid other : Oid} : other ∈ insertOid oid oids ↔ other = oid ∨ other ∈ oids := by
  induction oids with
  | nil => simp [insertOid]
  | cons first rest ih =>
    rw [insertOid]
    split
    · simp
    · split
      · rename_i same
        subst same
        simp
      · rw [List.mem_cons, ih, List.mem_cons]
        constructor <;> (rintro (rfl | rfl | inside) <;> simp_all)

theorem mem_oidSet {oid : Oid} : oid ∈ oidSet oids ↔ oid ∈ oids := by
  have folded : ∀ set : List Oid,
      oid ∈ oids.foldl (fun set oid => insertOid oid set) set ↔ oid ∈ set ∨ oid ∈ oids := by
    induction oids with
    | nil => simp
    | cons first rest ih =>
      intro set
      rw [List.foldl_cons, ih, mem_insertOid, List.mem_cons, or_assoc]
      exact or_left_comm
  simpa [oidSet] using folded []

theorem vms_of_role (member : role ∈ group.roles) (inside : oid ∈ role.vms) :
    oid ∈ group.vms := List.mem_flatMap.2 ⟨role, member, inside⟩

theorem role_mem {id : Nat} (found : group.role id = some role) :
    role ∈ group.roles := List.mem_of_find?_eq_some found

theorem affinedSets_subset (member : oids ∈ group.affinedSets) (inside : oid ∈ oids) : oid ∈ group.vms := by
  rcases List.mem_append.1 member with isRole | isRule
  · obtain ⟨role, kept, rfl⟩ := List.mem_map.1 isRole
    exact vms_of_role (List.mem_filter.1 kept).1 inside
  · obtain ⟨rule, -, rfl⟩ := List.mem_map.1 isRule
    obtain ⟨id, -, inRole⟩ := List.mem_flatMap.1 (mem_oidSet.1 inside)
    cases found : group.role id with
    | none =>
      rw [found] at inRole
      cases inRole
    | some role =>
      rw [found] at inRole
      exact vms_of_role (role_mem found) inRole

theorem lookup_foldl {ι : Type} {items : List ι} {step : Map Oid VirtualMachineXML → ι → Map Oid VirtualMachineXML}
    (keeps : ∀ pool, ∀ item ∈ items, (step pool item).lookup oid = pool.lookup oid)
    (pool : Map Oid VirtualMachineXML) : (items.foldl step pool).lookup oid = pool.lookup oid :=
  List.foldlRecOn items step (motive := fun after => after.lookup oid = pool.lookup oid) rfl
    fun after same item member => (keeps after item member).trans same

theorem lookup_addRequirements (added : String) (absent : oid ∉ oids) :
    (addRequirements added oids pool).lookup oid = pool.lookup oid :=
  lookup_foldl (fun _ _ member => Map.lookup_update_ne (by rintro rfl; exact absent member) _ _) pool

theorem leaderOf_split {rest : List Oid} {leader : Oid} (found : leaderOf pool oids = some (leader, rest)) :
    ∃ front, oids = front ++ leader :: rest ∧ (∀ id ∈ front, pool.lookup id = none) ∧
      (pool.lookup leader).isSome := by
  have whole := List.takeWhile_append_dropWhile (p := fun oid => (pool.lookup oid).isNone) (l := oids)
  rw [leaderOf] at found
  cases isList : oids.dropWhile fun oid => (pool.lookup oid).isNone with
  | nil =>
    rw [isList] at found
    cases found
  | cons first others =>
    rw [isList] at found whole
    cases found
    refine ⟨_, whole.symm, fun id member => ?_, ?_⟩
    · simpa using List.mem_takeWhile_imp member
    · have stops := List.head?_dropWhile_not (fun oid => (pool.lookup oid).isNone) oids
      rw [isList] at stops
      exact Option.isNone_eq_false_iff.1 stops

theorem lookup_followLeader {leader id : Oid} (notLeader : oid ≠ leader) (notFollower : oid ≠ id) :
    (followLeader leader id pool).lookup oid = pool.lookup oid := by
  rw [followLeader]
  cases pool.lookup id with
  | none => rfl
  | some tmp => exact (Map.lookup_update_ne notFollower _ _).trans (Map.lookup_update_ne notLeader _ _)

theorem lookup_scheculeAffinedSet (absent : oid ∉ oids) :
    (scheculeAffinedSet rolesPool oids pool).lookup oid = pool.lookup oid := by
  rw [scheculeAffinedSet]
  split
  · rfl
  · split
    · cases found : leaderOf pool oids with
      | none => rfl
      | some both =>
        obtain ⟨front, rfl, -⟩ := leaderOf_split found
        refine lookup_foldl (fun after id member => lookup_followLeader ?_ ?_) pool
        · rintro rfl
          exact absent (by simp)
        · rintro rfl
          exact absent (by simp [member])
    · exact lookup_addRequirements _ absent

theorem lookup_setRequirements (absent : oid ∉ group.vms) :
    (group.setRequirements rolesPool pool).lookup oid = pool.lookup oid := by
  have outside : ∀ role ∈ group.roles, ∀ id ∈ role.vms, oid ≠ id :=
    fun role member id inside same => absent (same ▸ vms_of_role member inside)
  have affinity : (group.setAffinityRequirements rolesPool pool).lookup oid = pool.lookup oid :=
    lookup_foldl (fun _ oids member => lookup_scheculeAffinedSet fun inside =>
      absent (affinedSets_subset member inside)) pool
  refine Eq.trans (lookup_foldl (fun pool role member => lookup_foldl (fun _ id inside =>
    Map.lookup_update_ne (outside role member id inside) _ _) pool) _) (Eq.trans ?_ affinity)
  refine Eq.trans (lookup_foldl (fun pool rule _ => lookup_foldl (fun pool id _ => ?_) pool) _)
    (lookup_foldl (fun pool role member => lookup_foldl (fun _ id inside =>
      Map.lookup_update_ne (outside role (List.mem_filter.1 member).1 id inside) _ _) pool) _)
  cases found : group.role id with
  | none => rfl
  | some role => exact lookup_addRequirements _ fun inside => absent (vms_of_role (role_mem found) inside)

end VMGroupXML

theorem doVmGroups_demands {vmgpool : VMGroupPoolXML} {group : VMGroupXML}
    (member : group ∈ vmgpool.groups) (inside : oid ∈ group.vms) (demands : ∀ after, Agree (fun _ => ()) pool after →
      Demanded oid text (group.setRequirements rolesPool after)) :
    Demanded oid text (doVmGroups vmgpool rolesPool pool) := by
  obtain ⟨front, back, isSplit⟩ := List.append_of_mem member
  have outside : ∀ other ∈ back, oid ∉ other.vms := by
    have apart := vmgpool.apart
    rw [isSplit, List.pairwise_append] at apart
    exact fun other later => (List.pairwise_cons.1 apart.2.1).1 other later oid inside
  have same : (doVmGroups vmgpool rolesPool pool).lookup oid =
      (group.setRequirements rolesPool
        (front.foldl (fun pool group => group.setRequirements rolesPool pool) pool)).lookup oid := by
    rw [doVmGroups, isSplit, List.foldl_append, List.foldl_cons]
    exact VMGroupXML.lookup_foldl (fun _ other later => VMGroupXML.lookup_setRequirements (outside other later)) _
  have untouched : Untouched (fun _ : VirtualMachineXML => ()) :=
    ⟨fun _ _ => rfl, fun _ _ => rfl, fun _ => rfl, fun _ _ => rfl⟩
  have agree : Agree (fun _ => ()) pool
      (front.foldl (fun pool group => group.setRequirements rolesPool pool) pool) :=
    agree_foldl (fun _ => rfl) fun _ group agree => group.agree_setRequirements untouched agree
  intro vm isVm
  rw [same] at isVm
  exact demands _ agree vm isVm

theorem doVmGroups_apart {vmgpool : VMGroupPoolXML} {group : VMGroupXML} {a b : Oid}
    (member : group ∈ vmgpool.groups) (isApart : group.Apart (· < maxRoles) a b) :
    Demanded a (currentVmsTerm "!=" b) (doVmGroups vmgpool rolesPool pool) := by
  have inside : a ∈ group.vms := by
    cases isApart with
    | role role member isAnti left right differ => exact VMGroupXML.vms_of_role member left
    | rule names isRule first second isFirst isSecond firstNamed secondNamed rolesDiffer firstCounts
        secondCounts left right differ => exact VMGroupXML.vms_of_role isFirst left
  exact doVmGroups_demands member inside fun after _ =>
    VMGroupXML.demanded_setHostRequirements (VMGroupXML.setAntiaffinity_demands isApart)

end OpenNebula.Schedm.Rank
