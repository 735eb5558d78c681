import OpenNebula.Common.Template

namespace OpenNebula.Common

open Library

/-! # Restricted attributes

The values of the restricted sub-attributes are compared without the vectors that they belong
to and without their order, so that vectors can be moved, and added when they have none.
-/

namespace Template

variable {base user tmpl after : Template} {name other value : String} {subs : List String}
  {append : Bool}

theorem singles_append (name : String) (front back : List (String × Attribute)) :
    (Template.mk (front ++ back)).singles name =
      (Template.mk front).singles name ++ (Template.mk back).singles name := by
  simp only [singles, List.filterMap_append]

theorem vectors_append (name : String) (front back : List (String × Attribute)) :
    (Template.mk (front ++ back)).vectors name =
      (Template.mk front).vectors name ++ (Template.mk back).vectors name := by
  simp only [vectors, List.filterMap_append]

@[simp] theorem singles_set_single : (tmpl.set (other, .single value)).singles name =
      tmpl.singles name ++ if other = name then [value] else [] := by
  rw [set, singles_append]
  by_cases same : other = name <;> simp [singles, same]

@[simp] theorem vectors_set_single : (tmpl.set (other, .single value)).vectors name = tmpl.vectors name := by
  rw [set, vectors_append]
  simp [vectors]

def names (tmpl : Template) : List String := tmpl.attributes.map Prod.fst

theorem singles_of_not_mem (absent : name ∉ tmpl.names) : tmpl.singles name = [] := by
  rw [singles, List.filterMap_eq_nil_iff]
  intro row member
  have apart : row.1 ≠ name := fun same => absent (same ▸ List.mem_map_of_mem member)
  obtain ⟨other, attr⟩ := row
  cases attr with
  | single value => exact if_neg apart
  | vector value => rfl

theorem vectors_of_not_mem (absent : name ∉ tmpl.names) : tmpl.vectors name = [] := by
  rw [vectors, List.filterMap_eq_nil_iff]
  intro row member
  have apart : row.1 ≠ name := fun same => absent (same ▸ List.mem_map_of_mem member)
  obtain ⟨other, attr⟩ := row
  cases attr with
  | single value => rfl
  | vector value => exact if_neg apart

theorem not_mem_names (noSingle : tmpl.singles name = []) (noVector : tmpl.vectors name = []) :
    name ∉ tmpl.names := by
  intro member
  obtain ⟨⟨other, attr⟩, isRow, same⟩ := List.mem_map.1 member
  cases attr with
  | single value =>
    have absent := List.filterMap_eq_nil_iff.1 noSingle _ isRow
    simp only [ite_eq_right_iff, reduceCtorEq, imp_false] at absent
    exact absent same
  | vector value =>
    have absent := List.filterMap_eq_nil_iff.1 noVector _ isRow
    simp only [ite_eq_right_iff, reduceCtorEq, imp_false] at absent
    exact absent same

theorem foldl_erase (rows : List (String × Attribute)) :
    (rows.foldl (fun erased row => erased.erase row.1) tmpl).attributes =
      tmpl.attributes.filter fun row => row.1 ∉ rows.map Prod.fst := by
  induction rows generalizing tmpl with
  | nil => simp
  | cons first rest ih =>
    rw [List.foldl_cons, ih, erase, List.filter_filter]
    refine List.filter_congr fun row _ => ?_
    by_cases same : row.1 = first.1 <;> simp [same]

theorem foldl_set (rows : List (String × Attribute)) :
    (rows.foldl (fun merged row => if isEmptyVector row.2 then merged else merged.set row)
      tmpl).attributes = tmpl.attributes ++ rows.filter fun row => !isEmptyVector row.2 := by
  induction rows generalizing tmpl with
  | nil => simp
  | cons first rest ih =>
    rw [List.foldl_cons, ih]
    cases isEmpty : isEmptyVector first.2 <;> simp [isEmpty, set]

theorem merge_attributes (base other : Template) : (base.merge other).attributes =
      (base.attributes.filter fun row => row.1 ∉ other.names) ++
        other.attributes.filter fun row => !isEmptyVector row.2 := by
  rw [merge, foldl_set, foldl_erase]
  rfl
section

variable (rows : List (String × Attribute))
include rows

theorem singles_filter_names (keep : String → Bool) : (Template.mk (rows.filter fun row => keep row.1)).singles name =
      if keep name then (Template.mk rows).singles name else [] := by
  simp only [singles, List.filterMap_filter]
  by_cases kept : keep name
  · rw [if_pos kept]
    refine List.filterMap_congr fun row _ => ?_
    obtain ⟨other, attr⟩ := row
    cases attr with
    | single value => by_cases same : other = name <;> simp [same, kept]
    | vector value => simp
  · rw [if_neg kept, List.filterMap_eq_nil_iff]
    intro row _
    obtain ⟨other, attr⟩ := row
    cases attr with
    | single value => by_cases same : other = name <;> simp [same, kept]
    | vector value => simp

theorem vectors_filter_names (keep : String → Bool) : (Template.mk (rows.filter fun row => keep row.1)).vectors name =
      if keep name then (Template.mk rows).vectors name else [] := by
  simp only [vectors, List.filterMap_filter]
  by_cases kept : keep name
  · rw [if_pos kept]
    refine List.filterMap_congr fun row _ => ?_
    obtain ⟨other, attr⟩ := row
    cases attr with
    | single value => simp
    | vector value => by_cases same : other = name <;> simp [same, kept]
  · rw [if_neg kept, List.filterMap_eq_nil_iff]
    intro row _
    obtain ⟨other, attr⟩ := row
    cases attr with
    | single value => simp
    | vector value => by_cases same : other = name <;> simp [same, kept]

theorem singles_filter_vectors : (Template.mk (rows.filter fun row => !isEmptyVector row.2)).singles name =
      (Template.mk rows).singles name := by
  simp only [singles, List.filterMap_filter]
  refine List.filterMap_congr fun row _ => ?_
  obtain ⟨other, attr⟩ := row
  cases attr with
  | single value => simp [isEmptyVector]
  | vector value => simp

theorem vectors_filter_vectors : (Template.mk (rows.filter fun row => !isEmptyVector row.2)).vectors name =
      ((Template.mk rows).vectors name).filter fun attr => !attr.entries.isEmpty := by
  simp only [vectors, List.filterMap_filter, List.filter_filterMap]
  refine List.filterMap_congr fun row _ => ?_
  obtain ⟨other, attr⟩ := row
  cases attr with
  | single value => simp
  | vector value =>
    by_cases same : other = name <;> simp [same, isEmptyVector, Option.filter]

end

theorem singles_merge (other : Template) : (base.merge other).singles name =
      if name ∈ other.names then other.singles name else base.singles name := by
  have rows := merge_attributes base other
  have split := singles_append name
    (base.attributes.filter fun row => row.1 ∉ other.names)
    (other.attributes.filter fun row => !isEmptyVector row.2)
  rw [← rows] at split
  refine split.trans ?_
  rw [singles_filter_names base.attributes fun key => key ∉ other.names, singles_filter_vectors]
  by_cases given : name ∈ other.names
  · simp [given]
  · simp [given, singles_of_not_mem given]

theorem vectors_merge (other : Template) : (base.merge other).vectors name =
      if name ∈ other.names then (other.vectors name).filter fun attr => !attr.entries.isEmpty
      else base.vectors name := by
  have rows := merge_attributes base other
  have split := vectors_append name
    (base.attributes.filter fun row => row.1 ∉ other.names)
    (other.attributes.filter fun row => !isEmptyVector row.2)
  rw [← rows] at split
  refine split.trans ?_
  rw [vectors_filter_names base.attributes fun key => key ∉ other.names, vectors_filter_vectors]
  by_cases given : name ∈ other.names
  · simp [given]
  · simp [given, vectors_of_not_mem given]

theorem get_eq_none : tmpl.get name = none ↔ tmpl.singles name = [] := List.head?_eq_none_iff

theorem restrictedPairs_congr (same : after.vectors name = tmpl.vectors name) :
    after.restrictedPairs name subs = tmpl.restrictedPairs name subs := by
  simp only [restrictedPairs, same]

theorem restrictedValues_congr (same : after.vectors name = tmpl.vectors name) :
    after.restrictedValues name subs = tmpl.restrictedValues name subs := by
  simp only [restrictedValues, restrictedPairs, same]

structure Checked (base : Template) (append : Bool) (rows : List (Σ _ : String, List String))
    (tmpl after : Template) : Prop where
  vectors : ∀ name, after.vectors name = tmpl.vectors name
  kept : ∀ name, ⟨name, []⟩ ∉ rows → after.singles name = tmpl.singles name
  given : ∀ name, tmpl.singles name ≠ [] → after.singles name = tmpl.singles name
  added : ∀ name, ⟨name, []⟩ ∈ rows → tmpl.singles name = [] →
    after.singles name = (base.get name).toList
  same : ∀ name, ⟨name, []⟩ ∈ rows → ∀ value, tmpl.get name = some value →
    value = (base.get name).getD ""
  compared : ∀ name subs, ⟨name, subs⟩ ∈ rows → subs ≠ [] →
    ((tmpl.restrictedValues name subs).2 || !append && (base.restrictedValues name subs).2) = true →
    (tmpl.restrictedValues name subs).1 = (base.restrictedValues name subs).1

theorem checkAttribute_checked {key : String} (passed : tmpl.checkAttribute base append key subs = .ok after) :
    Checked base append [⟨key, subs⟩] tmpl after := by
  rw [checkAttribute] at passed
  split at passed
  · rename_i isVector
    have notSimple : ∀ name, (⟨name, []⟩ : Σ _ : String, List String) ∉ [⟨key, subs⟩] := by
      intro name member
      cases List.mem_singleton.1 member
      exact isVector rfl
    dsimp only at passed
    split at passed
    · contradiction
    · rename_i agreed
      cases passed
      refine ⟨fun _ => rfl, fun _ _ => rfl, fun _ _ => rfl, fun name member => absurd member (notSimple name),
        fun name member => absurd member (notSimple name), fun name others member _ given => ?_⟩
      cases List.mem_singleton.1 member
      by_contra differ
      exact agreed ⟨differ, given⟩
  · rename_i isSimple
    obtain rfl : subs = [] := Decidable.not_not.1 isSimple
    have noVector : ∀ name others, (⟨name, others⟩ : Σ _ : String, List String) ∈ [⟨key, []⟩] →
        others = [] := by
      intro name others member
      cases List.mem_singleton.1 member
      rfl
    have isKey : ∀ name, (⟨name, []⟩ : Σ _ : String, List String) ∈ [⟨key, []⟩] → name = key := by
      intro name member
      cases List.mem_singleton.1 member
      rfl
    cases isGiven : tmpl.get key with
    | some value =>
      simp only [isGiven] at passed
      split at passed
      · contradiction
      · rename_i agreed
        cases passed
        refine ⟨fun _ => rfl, fun _ _ => rfl, fun _ _ => rfl, fun name member none => ?_,
          fun name member other isValue => ?_,
          fun name others member isSubs => absurd (noVector name others member) isSubs⟩
        · rw [isKey name member, ← get_eq_none, isGiven] at none
          contradiction
        · rw [isKey name member] at isValue ⊢
          cases Option.some.inj (isGiven.symm.trans isValue)
          exact (Decidable.not_not.1 agreed).symm
    | none =>
      have empty := get_eq_none.1 isGiven
      have notGiven : ∀ name, (⟨name, []⟩ : Σ _ : String, List String) ∈ [⟨key, []⟩] →
          ∀ value, tmpl.get name = some value → value = (base.get name).getD "" := by
        intro name member value isValue
        rw [isKey name member, isGiven] at isValue
        contradiction
      cases isHeld : base.get key with
      | some value =>
        simp only [isGiven, isHeld] at passed
        cases passed
        refine ⟨fun name => vectors_set_single, fun name absent => ?_, fun name isNamed => ?_,
          fun name member none => ?_, notGiven,
          fun name others member isSubs => absurd (noVector name others member) isSubs⟩
        · have differ : key ≠ name := by
            intro same
            exact absent (by rw [same]; exact List.mem_singleton_self _)
          rw [singles_set_single, if_neg differ, List.append_nil]
        · have differ : key ≠ name := by
            intro same
            exact isNamed (same ▸ empty)
          rw [singles_set_single, if_neg differ, List.append_nil]
        · obtain rfl := isKey name member
          rw [singles_set_single, if_pos rfl, none, isHeld]
          rfl
      | none =>
        simp only [isGiven, isHeld] at passed
        cases passed
        refine ⟨fun _ => rfl, fun _ _ => rfl, fun _ _ => rfl, fun name member none => ?_,
          notGiven, fun name others member isSubs => absurd (noVector name others member) isSubs⟩
        rw [isKey name member, isHeld]
        exact empty

theorem Checked.cons {row : Σ _ : String, List String} {rows : List (Σ _ : String, List String)}
    {middle : Template} (first : Checked base append [row] tmpl middle)
    (rest : Checked base append rows middle after) : Checked base append (row :: rows) tmpl after := by
  refine ⟨fun name => (rest.vectors name).trans (first.vectors name), fun name absent => ?_,
    fun name isGiven => ?_, fun name member none => ?_, fun name member value isValue => ?_,
    fun name subs member isSubs => ?_⟩
  · rw [List.mem_cons, not_or] at absent
    rw [rest.kept name absent.2, first.kept name fun isRow => absent.1 (List.mem_singleton.1 isRow)]
  · have same := first.given name isGiven
    rw [rest.given name (by rw [same]; exact isGiven), same]
  · by_cases later : ⟨name, []⟩ ∈ rows
    · by_cases isRow : ⟨name, []⟩ ∈ [row]
      · have values := first.added name isRow none
        by_cases empty : middle.singles name = []
        · exact rest.added name later empty
        · rw [rest.given name empty, values]
      · exact rest.added name later (by rw [first.kept name isRow, none])
    · have isRow := (List.mem_cons.1 member).resolve_right later
      rw [rest.kept name later, first.added name (List.mem_singleton.2 isRow) none]
  · rcases List.mem_cons.1 member with isRow | later
    · exact first.same name (List.mem_singleton.2 isRow) value isValue
    · refine rest.same name later value ?_
      rw [get, first.given name]
      · exact isValue
      · intro none
        rw [get_eq_none.2 none] at isValue
        contradiction
  · rcases List.mem_cons.1 member with isRow | later
    · exact first.compared name subs (List.mem_singleton.2 isRow) isSubs
    · have compared := rest.compared name subs later isSubs
      rw [restrictedValues_congr (first.vectors name)] at compared
      exact compared

theorem checkRestricted_checked {rows : List (Σ _ : String, List String)}
    (passed : checkRestricted base append rows tmpl = .ok after) : Checked base append rows tmpl after := by
  induction rows generalizing tmpl with
  | nil =>
    cases passed
    exact ⟨fun _ => rfl, fun _ _ => rfl, fun _ _ => rfl, by simp, by simp, by simp⟩
  | cons row rest ih =>
    rw [checkRestricted] at passed
    cases isMiddle : tmpl.checkAttribute base append row.1 row.2 with
    | error name =>
      rw [isMiddle] at passed
      contradiction
    | ok middle =>
      rw [isMiddle] at passed
      exact (checkAttribute_checked isMiddle).cons (ih passed)

/-- No two of the pairs with different names give the same text. -/
def Unambiguous (pairs : List (String × String)) : Prop :=
  ∀ left ∈ pairs, ∀ right ∈ pairs, left.1 ++ left.2 = right.1 ++ right.2 → left.1 = right.1

theorem perm_of_sorted_eq {left right : List String}
    (same : left.insertionSort (· ≤ ·) = right.insertionSort (· ≤ ·)) : left.Perm right :=
  (List.perm_insertionSort _ left).symm.trans (same ▸ List.perm_insertionSort _ right)

theorem perm_of_map {α β : Type} [DecidableEq α] {text : α → β} {left right : List α}
    (injective : ∀ first ∈ left, ∀ second ∈ right, text first = text second → first = second)
    (texts : (left.map text).Perm (right.map text)) : left.Perm right := by
  induction left generalizing right with
  | nil =>
    have empty : right = [] := by simpa using texts
    rw [empty]
  | cons first rest ih =>
    have member : text first ∈ right.map text := texts.mem_iff.1 (by simp)
    obtain ⟨second, isSecond, same⟩ := List.mem_map.1 member
    obtain rfl : first = second := injective first List.mem_cons_self second isSecond same.symm
    have split := List.perm_cons_erase isSecond
    have tail : (rest.map text).Perm ((right.erase first).map text) := (texts.trans (split.map text)).cons_inv
    have perm := ih (fun left isLeft other isOther => injective left (List.mem_cons_of_mem _ isLeft)
      other (List.mem_of_mem_erase isOther)) tail
    exact (perm.cons first).trans split.symm

theorem perm_of_texts {left right : List (String × String)} (unambiguous : Unambiguous (left ++ right))
    (texts : (left.map fun pair => pair.1 ++ pair.2).Perm (right.map fun pair => pair.1 ++ pair.2)) :
    left.Perm right := by
  refine perm_of_map (fun first isFirst second isSecond same => ?_) texts
  have sameName := unambiguous first (List.mem_append_left _ isFirst) second
    (List.mem_append_right _ isSecond) same
  rw [sameName] at same
  exact Prod.ext sameName ((String.append_right_inj second.1).1 same)

def updateTemplate (append : Bool) (base user : Template) (restricted : Restricted) : Except String Template :=
  if append then base.appendTemplate user restricted else base.replaceTemplate user restricted

variable {restricted : Restricted}

theorem updateTemplate_cases (updated : updateTemplate append base user restricted = .ok after) :
    ∃ passed, Checked base append restricted.entries user passed ∧
      after = if append then base.merge passed else passed := by
  rw [updateTemplate] at updated
  cases append with
  | true =>
    simp only [if_true, appendTemplate] at updated ⊢
    split at updated
    · rename_i passed isPassed
      cases updated
      exact ⟨_, checkRestricted_checked isPassed, rfl⟩
    · contradiction
  | false =>
    simp only [Bool.false_eq_true, if_false, replaceTemplate] at updated ⊢
    split at updated
    · rename_i passed isPassed
      cases updated
      exact ⟨_, checkRestricted_checked isPassed, rfl⟩
    · contradiction

theorem singles_after (isSimple : restricted.lookup name = some [])
    (updated : updateTemplate append base user restricted = .ok after) : after.singles name =
      if user.singles name = [] then (base.get name).toList else user.singles name := by
  obtain ⟨passed, checked, rfl⟩ := updateTemplate_cases updated
  have isRow := Map.mem_entries_iff.2 isSimple
  have values : passed.singles name =
      if user.singles name = [] then (base.get name).toList else user.singles name := by
    split
    · rename_i none
      exact checked.added name isRow none
    · rename_i given
      exact checked.given name given
  cases append with
  | false => exact values
  | true =>
    rw [if_pos rfl, singles_merge]
    split
    · exact values
    · rename_i absent
      have none := singles_of_not_mem absent
      rw [← values, none]
      rw [none] at values
      split at values
      · rw [eq_comm, Option.toList_eq_nil_iff, get_eq_none] at values
        exact values
      · rename_i given
        exact absurd values.symm given

theorem get_after (isSimple : restricted.lookup name = some [])
    (updated : updateTemplate append base user restricted = .ok after) :
    (after.get name).getD "" = (base.get name).getD "" := by
  have values := singles_after isSimple updated
  obtain ⟨passed, checked, -⟩ := updateTemplate_cases updated
  have isRow := Map.mem_entries_iff.2 isSimple
  rw [get, values]
  split
  · cases base.get name <;> rfl
  · rename_i given
    obtain ⟨value, rest, isList⟩ := List.exists_cons_of_ne_nil given
    have same := checked.same name isRow value (by rw [get, isList]; rfl)
    rw [isList]
    exact same

theorem restrictedPairs_filter (attrs : List VectorAttribute) :
    ((attrs.filter fun attr => !attr.entries.isEmpty).flatMap fun attr =>
      subs.filterMap fun sub => (attr.lookup sub).map fun value => (sub, value)) = attrs.flatMap fun attr =>
      subs.filterMap fun sub => (attr.lookup sub).map fun value => (sub, value) := by
  induction attrs with
  | nil => rfl
  | cons attr rest ih =>
    by_cases empty : attr.entries = []
    · have noValue : ∀ sub, attr.lookup sub = none := by
        intro sub
        simp [AList.lookup, empty]
      rw [List.filter_cons_of_neg (by simp [empty]), ih, List.flatMap_cons]
      simp [noValue]
    · rw [List.filter_cons_of_pos (by simpa using empty), List.flatMap_cons, List.flatMap_cons, ih]

theorem pairs_after (isVector : restricted.lookup name = some subs) (isSubs : subs ≠ [])
    (sameKind : append = true → user.singles name ≠ [] → user.vectors name ≠ [])
    (unambiguous : Unambiguous (user.restrictedPairs name subs ++ base.restrictedPairs name subs))
    (updated : updateTemplate append base user restricted = .ok after) :
    (after.restrictedPairs name subs).Perm (base.restrictedPairs name subs) := by
  obtain ⟨passed, checked, rfl⟩ := updateTemplate_cases updated
  have isRow := Map.mem_entries_iff.2 isVector
  have agreed : ((user.restrictedValues name subs).2 || !append && (base.restrictedValues name subs).2) = true →
      (user.restrictedPairs name subs).Perm (base.restrictedPairs name subs) := by
    intro compared
    have sorted := checked.compared name subs isRow isSubs compared
    exact perm_of_texts unambiguous (perm_of_sorted_eq sorted)
  have simpleApart : ⟨name, []⟩ ∉ restricted.entries := by
    intro isSimple
    have found := Map.mem_entries_iff.1 isSimple
    rw [isVector] at found
    exact isSubs (Option.some.inj found)
  cases append with
  | false =>
    have same : passed.restrictedPairs name subs = user.restrictedPairs name subs :=
      restrictedPairs_congr (checked.vectors name)
    rw [if_neg (by decide), same]
    by_cases none : user.vectors name = [] ∧ base.vectors name = []
    · simp [restrictedPairs, none]
    · refine agreed ?_
      simp only [restrictedValues, Bool.not_false, Bool.true_and, Bool.or_eq_true,
        Bool.not_eq_true', List.isEmpty_eq_false_iff]
      by_contra neither
      exact none (by simpa using neither)
  | true =>
    rw [if_pos rfl]
    by_cases given : name ∈ passed.names
    · have vectors : user.vectors name ≠ [] := by
        intro none
        refine given |> not_mem_names ?_ ((checked.vectors name).trans none)
        rw [checked.kept name simpleApart]
        by_contra isSingle
        exact sameKind rfl isSingle none
      have same : (base.merge passed).restrictedPairs name subs = user.restrictedPairs name subs := by
        rw [restrictedPairs, vectors_merge, if_pos given, restrictedPairs_filter, checked.vectors name]
        rfl
      rw [same]
      refine agreed ?_
      simp [restrictedValues, vectors]
    · have same : (base.merge passed).restrictedPairs name subs = base.restrictedPairs name subs := by
        rw [restrictedPairs, vectors_merge, if_neg given]
        rfl
      rw [same]

/-- An update that succeeds keeps the value of each restricted simple attribute, and all its
values when they are not given twice and none is given empty; and it keeps the values of the
restricted sub-attributes, in any order and of any vectors, when the texts that are compared
tell them apart and an append does not give a simple attribute in the place of the vectors. -/
theorem restricted_kept (updated : updateTemplate append base user restricted = .ok after) :
    (∀ name, restricted.lookup name = some [] → (after.get name).getD "" = (base.get name).getD "" ∧
        ((base.singles name).length ≤ 1 → (user.singles name).length ≤ 1 →
          (base.singles name = [] → user.singles name ≠ [""]) → after.singles name = base.singles name)) ∧
    (∀ name subs, restricted.lookup name = some subs → subs ≠ [] →
      (append = true → user.singles name ≠ [] → user.vectors name ≠ []) →
      Unambiguous (user.restrictedPairs name subs ++ base.restrictedPairs name subs) →
      (after.restrictedPairs name subs).Perm (base.restrictedPairs name subs)) := by
  refine ⟨fun name isSimple => ⟨get_after isSimple updated, fun once givenOnce notEmpty => ?_⟩,
    fun name subs isVector isSubs sameKind unambiguous =>
      pairs_after isVector isSubs sameKind unambiguous updated⟩
  have values := singles_after isSimple updated
  have same := get_after isSimple updated
  rw [get, get, values] at same
  rw [values]
  split
  · rw [get]
    cases isBase : base.singles name with
    | nil => rfl
    | cons value rest =>
      rw [isBase] at once
      have none : rest = [] := by simpa using once
      rw [none]
      rfl
  · rename_i given
    rw [if_neg given] at same
    cases isUser : user.singles name with
    | nil => exact absurd isUser given
    | cons value rest =>
      rw [isUser] at givenOnce same
      have none : rest = [] := by simpa using givenOnce
      cases isBase : base.singles name with
      | nil =>
        rw [isBase] at same
        have empty : value = "" := by simpa using same
        exact absurd (by rw [isUser, none, empty]) (notEmpty isBase)
      | cons held others =>
        rw [isBase] at once same
        have noOthers : others = [] := by simpa using once
        have sameValue : value = held := by simpa using same
        rw [none, noOthers, sameValue]

instance decidableUnambiguous (pairs : List (String × String)) : Decidable (Unambiguous pairs) :=
  inferInstanceAs (Decidable (∀ left ∈ pairs, ∀ right ∈ pairs, _ → _))

def restrictedMacs : Restricted := ((∅ : Restricted).insert "NIC" ["MAC"]).insert "PRICE" []

def nic (name value : String) : String × Attribute :=
  ("NIC", .vector ((∅ : VectorAttribute).replace name value))

def twoNics : Template := ⟨[nic "MAC" "1", nic "MAC" "2", ("PRICE", .single "10")]⟩

/-- Two interfaces that change places, and another one -/
def threeNics : Template := ⟨[nic "MAC" "2", nic "MAC" "1", nic "NETWORK" "private"]⟩

theorem restricted_kept_nics : ∃ after, updateTemplate false twoNics threeNics restrictedMacs = .ok after ∧
      after.singles "PRICE" = ["10"] ∧
      (after.restrictedPairs "NIC" ["MAC"]).Perm (twoNics.restrictedPairs "NIC" ["MAC"]) := by
  have ran : (updateTemplate false twoNics threeNics restrictedMacs).toOption.isSome = true := by
    decide
  cases updated : updateTemplate false twoNics threeNics restrictedMacs with
  | error name =>
    rw [updated] at ran
    contradiction
  | ok after =>
    obtain ⟨simple, vector⟩ := restricted_kept updated
    refine ⟨after, rfl, ?_, ?_⟩
    · exact (simple "PRICE" (by decide)).2 (by decide) (by decide)
        (by decide)
    · exact vector "NIC" ["MAC"] (by decide) (by simp) (by decide)
        (by decide)

theorem restricted_moved :
    ¬∀ append base user restricted after, updateTemplate append base user restricted = .ok after →
      (∀ name, restricted.lookup name = some [] → after.singles name = base.singles name) ∧
      (∀ name subs sub, restricted.lookup name = some subs → sub ∈ subs →
        (after.vectors name).map (fun attr => attr.lookup sub) =
          (base.vectors name).map fun attr => attr.lookup sub) := by
  intro always
  have ran : (updateTemplate false twoNics threeNics restrictedMacs).toOption.map
      (fun after => (after.vectors "NIC").map fun attr => attr.lookup "MAC") =
        some [some "2", some "1", none] := by
    decide
  cases updated : updateTemplate false twoNics threeNics restrictedMacs with
  | error name =>
    rw [updated] at ran
    contradiction
  | ok after =>
    rw [updated] at ran
    have kept := (always false twoNics threeNics restrictedMacs after updated).2 "NIC" ["MAC"] "MAC"
      (by decide) (by simp)
    have moved : (after.vectors "NIC").map (fun attr => attr.lookup "MAC") =
        [some "2", some "1", none] := Option.some.inj ran
    rw [moved] at kept
    exact absurd kept (by decide)

end Template

end OpenNebula.Common
