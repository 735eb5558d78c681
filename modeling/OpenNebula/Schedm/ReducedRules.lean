import Mathlib.Logic.Relation
import OpenNebula.Schedm.GroupRequirements

namespace OpenNebula.Schedm.Rank.VMGroupRule

/-! # Merged rules

The rules that are left by `reduce` are the connected components of the roles.
-/

variable {rule other merged current whole : VMGroupRule} {rules others front back reduced : List VMGroupRule}

/-- A chain of rules, each of which shares a role with the next one. -/
def Linked (rules : List VMGroupRule) : Nat → Nat → Prop :=
  Relation.TransGen fun a b => ∃ rule ∈ rules, rule.getLsbD a ∧ rule.getLsbD b

def Within (rule whole : VMGroupRule) : Prop := ∀ role, rule.getLsbD role → whole.getLsbD role

/-- Its roles are linked, and it is empty only when a rule is. -/
structure Component (rules : List VMGroupRule) (whole : VMGroupRule) : Prop where
  linked : ∀ a b, whole.getLsbD a → whole.getLsbD b → Linked rules a b
  filled : whole = 0 → 0 ∈ rules

theorem and_eq_zero_iff : rule &&& other = 0 ↔ ∀ role, rule.getLsbD role → ¬ other.getLsbD role := by
  constructor
  · intro apart role inside also
    have bit := congrArg (fun both => both.getLsbD role) apart
    simp [inside, also] at bit
  · intro apart
    refine BitVec.eq_of_getLsbD_eq fun role _ => ?_
    have bit := apart role
    cases inside : rule.getLsbD role <;> simp_all

theorem apart_or (first : whole &&& rule = 0) (second : whole &&& other = 0) : whole &&& (rule ||| other) = 0 := by
  rw [and_eq_zero_iff] at *
  intro role inside
  simp [first role inside, second role inside]

theorem component_of_mem (member : rule ∈ rules) : Component rules rule :=
  ⟨fun _ _ inside also => .single ⟨rule, member, inside, also⟩, fun empty => empty ▸ member⟩

theorem Component.join (component : Component rules merged) (member : other ∈ rules) (shared : merged &&& other ≠ 0) :
    Component rules (merged ||| other) := by
  obtain ⟨role, inside, also⟩ : ∃ role, merged.getLsbD role ∧ other.getLsbD role := by
    by_contra apart
    exact shared (and_eq_zero_iff.2 fun role inside also => apart ⟨role, inside, also⟩)
  constructor
  · intro a b hasA hasB
    have toRole (c : Nat) (has : (merged ||| other).getLsbD c) : Linked rules c role ∧ Linked rules role c := by
      rw [BitVec.getLsbD_or, Bool.or_eq_true] at has
      rcases has with left | right
      · exact ⟨component.linked c role left inside, component.linked role c inside left⟩
      · exact ⟨.single ⟨other, member, right, also⟩, .single ⟨other, member, also, right⟩⟩
    exact (toRole a hasA).1.trans (toRole b hasB).2
  · intro empty
    have bit := congrArg (fun rule => rule.getLsbD role) empty
    simp [inside] at bit

/-! ## One pass -/

theorem sweep_keeps {P : VMGroupRule → Prop} (start : P rule)
    (joins : ∀ merged, P merged → ∀ other ∈ others, merged &&& other ≠ 0 → P (merged ||| other)) :
    P (sweep rule others).1 := by
  induction others generalizing rule with
  | nil => exact start
  | cons other others induction =>
    have later (merged : VMGroupRule) (held : P merged) (next : VMGroupRule) (member : next ∈ others) :=
      joins merged held next (List.mem_cons_of_mem _ member)
    rw [sweep]
    split
    · exact induction start later
    · rename_i shared
      exact induction (joins rule start other List.mem_cons_self shared) later

theorem within_sweep : Within rule (sweep rule others).1 :=
  sweep_keeps (P := Within rule) (fun _ => id) fun merged held other _ _ role inside => by
    simp [held role inside]

theorem sweep_covers : ∀ next ∈ others, next ∈ (sweep rule others).2 ∨ Within next (sweep rule others).1 := by
  induction others generalizing rule with
  | nil => simp
  | cons other others induction =>
    rw [sweep]
    split
    · refine List.forall_mem_cons.2 ⟨.inl List.mem_cons_self, fun next member => ?_⟩
      exact (induction next member).imp_left (List.mem_cons_of_mem _)
    · refine List.forall_mem_cons.2 ⟨.inr fun role inside => ?_, fun next member => induction next member⟩
      exact within_sweep role (by simp [inside])

theorem sweep_sublist : (sweep rule others).2.Sublist others := by
  induction others generalizing rule with
  | nil => exact .slnil
  | cons other others induction =>
    rw [sweep]
    split
    · exact induction.cons_cons other
    · exact induction.cons other

theorem sweep_idle (apart : ∀ other ∈ others, rule &&& other = 0) : sweep rule others = (rule, others) := by
  induction others with
  | nil => rfl
  | cons other others induction =>
    obtain ⟨first, later⟩ := List.forall_mem_cons.1 apart
    rw [sweep, if_pos first, induction later]

theorem sweep_full (full : (sweep rule others).2.length = others.length) : ∀ other ∈ others, rule &&& other = 0 := by
  induction others with
  | nil => simp
  | cons other others induction =>
    rw [sweep] at full
    split at full
    · rename_i first
      exact List.forall_mem_cons.2 ⟨first, induction (Nat.succ.inj full)⟩
    · have fewer : (sweep (rule ||| other) others).2.length ≤ others.length := sweep_sublist.length_le
      rw [full, List.length_cons] at fewer
      omega

/-! ## The loop -/

structure Reduction (rules front : List VMGroupRule) (current merged : VMGroupRule) (back reduced : List VMGroupRule) :
    Prop where
  covered : ∀ rule ∈ rules, (∃ whole ∈ merged :: reduced, Within rule whole) ∨ rule ∈ back
  front : ∀ rule ∈ front, ∃ whole ∈ reduced, Within rule whole
  apart : ∀ whole ∈ reduced, ∀ rule ∈ merged :: back, whole &&& rule = 0
  distinct : ∀ whole ∈ reduced, ∀ other ∈ reduced, whole ≠ other → whole &&& other = 0
  back : ∀ rule ∈ back, rule ∈ rules
  components : ∀ whole ∈ merged :: reduced, Component rules whole
  current : Within current merged

structure Reduced (rules result : List VMGroupRule) : Prop where
  covered : ∀ rule ∈ rules, ∃ whole ∈ result, Within rule whole
  distinct : ∀ whole ∈ result, ∀ other ∈ result, whole ≠ other → whole &&& other = 0
  components : ∀ whole ∈ result, Component rules whole

section Steps

variable (reduction : Reduction rules front current merged back reduced)

include reduction

/-- What was passed by lies within what was already left, which the rule does not meet. -/
theorem Reduction.front_apart : ∀ rule ∈ front, merged &&& rule = 0 := by
  intro rule member
  obtain ⟨whole, left, within⟩ := reduction.front rule member
  have apart := reduction.apart whole left merged List.mem_cons_self
  rw [and_eq_zero_iff] at apart ⊢
  exact fun role inside also => apart role (within role also) inside

theorem Reduction.merge : Reduction rules front current (sweep merged back).1 (sweep merged back).2 reduced := by
  have within : Within merged (sweep merged back).1 := within_sweep
  refine ⟨fun rule member => ?_, reduction.front, fun whole left => ?_, reduction.distinct, ?_, ?_, ?_⟩
  · rcases reduction.covered rule member with ⟨whole, left, inside⟩ | waiting
    · rcases List.mem_cons.1 left with rfl | left
      · exact .inl ⟨_, List.mem_cons_self, fun role has => within role (inside role has)⟩
      · exact .inl ⟨whole, List.mem_cons_of_mem _ left, inside⟩
    · have covers : rule ∈ (sweep merged back).2 ∨ Within rule (sweep merged back).1 := sweep_covers rule waiting
      rcases covers with kept | inside
      · exact .inr kept
      · exact .inl ⟨_, List.mem_cons_self, inside⟩
  · obtain ⟨first, later⟩ := List.forall_mem_cons.1 (reduction.apart whole left)
    refine List.forall_mem_cons.2 ⟨?_, fun rule kept => later rule (sweep_sublist.subset kept)⟩
    exact sweep_keeps (P := fun merged => whole &&& merged = 0) first fun _ held other member _ =>
      apart_or held (later other member)
  · exact fun rule kept => reduction.back rule (sweep_sublist.subset kept)
  · obtain ⟨first, later⟩ := List.forall_mem_cons.1 reduction.components
    refine List.forall_mem_cons.2 ⟨sweep_keeps first fun _ held other member shared => ?_, later⟩
    exact held.join (reduction.back other member) shared
  · exact fun role has => within role (reduction.current role has)

theorem Reduction.left (full : ∀ other ∈ back, merged &&& other = 0) :
    (∀ whole ∈ insert merged reduced, ∀ rule ∈ back, whole &&& rule = 0) ∧
      (∀ whole ∈ insert merged reduced, ∀ other ∈ insert merged reduced, whole ≠ other → whole &&& other = 0) ∧
      (∀ whole ∈ insert merged reduced, Component rules whole) := by
  simp only [mem_insert, ← List.mem_cons]
  have meets (whole : VMGroupRule) (left : whole ∈ reduced) := reduction.apart whole left
  refine ⟨List.forall_mem_cons.2 ⟨full, fun whole left rule member => meets whole left rule (by simp [member])⟩,
    ?_, reduction.components⟩
  simp only [List.forall_mem_cons]
  refine ⟨⟨fun same => absurd rfl same, fun other left _ => ?_⟩, fun whole left => ⟨fun _ => ?_, ?_⟩⟩
  · rw [BitVec.and_comm]
    exact meets other left merged List.mem_cons_self
  · exact meets whole left merged List.mem_cons_self
  · exact reduction.distinct whole left

end Steps

theorem reduced_reduceFrom (reduction : Reduction rules front current merged back reduced) :
    Reduced rules (reduceFrom front current merged back reduced) := by
  fun_induction reduceFrom front current merged back reduced with
  | case1 front current merged back reduced first kept passed second left swept fewer induction =>
    rw [sweep_idle reduction.front_apart, Prod.mk.injEq] at passed
    obtain ⟨rfl, rfl⟩ := passed
    simp only [sweep_idle reduction.front_apart, swept, if_pos fewer]
    have merged := reduction.merge
    rw [swept] at merged
    exact induction merged
  | case2 front current merged reduced first kept passed second left swept full =>
    rw [sweep_idle reduction.front_apart, Prod.mk.injEq] at passed
    obtain ⟨rfl, rfl⟩ := passed
    simp only [sweep_idle reduction.front_apart, swept, if_neg full]
    obtain ⟨-, distinct, components⟩ := reduction.left (by simp)
    refine ⟨fun rule member => ?_, distinct, components⟩
    obtain ⟨whole, inside, within⟩ := (reduction.covered rule member).resolve_right List.not_mem_nil
    exact ⟨whole, mem_insert.2 (List.mem_cons.1 inside), within⟩
  | case3 front current merged reduced first kept passed second left next rest swept full induction =>
    rw [sweep_idle reduction.front_apart, Prod.mk.injEq] at passed
    obtain ⟨rfl, rfl⟩ := passed
    simp only [sweep_idle reduction.front_apart, swept, if_neg full]
    have all : left.length = (next :: rest).length := by
      have fewer : (sweep merged (next :: rest)).2.length ≤ _ := sweep_sublist.length_le
      rw [swept] at fewer
      change left.length ≤ (next :: rest).length at fewer
      omega
    obtain ⟨apart, distinct, components⟩ := reduction.left (sweep_full (by rw [swept]; exact all))
    refine induction ⟨fun rule member => ?_, fun rule member => ?_, apart, distinct,
      fun rule member => reduction.back rule (by simp [member]), ?_, fun _ => id⟩
    · rcases reduction.covered rule member with ⟨whole, inside, within⟩ | waiting
      · exact .inl ⟨whole, List.mem_cons_of_mem _ (mem_insert.2 (List.mem_cons.1 inside)), within⟩
      · rcases List.mem_cons.1 waiting with rfl | later
        · exact .inl ⟨_, List.mem_cons_self, fun _ => id⟩
        · exact .inr later
    · rcases List.mem_append.1 member with passed | last
      · obtain ⟨whole, inside, within⟩ := reduction.front rule passed
        exact ⟨whole, mem_insert.2 (.inr inside), within⟩
      · obtain rfl := List.mem_singleton.1 last
        exact ⟨merged, mem_insert.2 (.inl rfl), reduction.current⟩
    · exact List.forall_mem_cons.2 ⟨component_of_mem (reduction.back next List.mem_cons_self), components⟩

theorem reduced_reduce (rules : List VMGroupRule) : Reduced rules (reduce rules) := by
  cases rules with
  | nil => exact ⟨by simp, by simp [reduce], by simp [reduce]⟩
  | cons first rest =>
    refine reduced_reduceFrom ⟨fun rule member => ?_, by simp, by simp, by simp,
      fun rule member => List.mem_cons_of_mem _ member, ?_, fun _ => id⟩
    · rcases List.mem_cons.1 member with rfl | later
      · exact .inl ⟨rule, List.mem_cons_self, fun _ => id⟩
      · exact .inr later
    · exact List.forall_mem_cons.2 ⟨component_of_mem List.mem_cons_self, by simp⟩

theorem Reduced.same {result : List VMGroupRule} (reduced : Reduced rules result) {role : Nat}
    (left : whole ∈ result) (also : other ∈ result) (inside : whole.getLsbD role) (shared : other.getLsbD role) :
    whole = other := by
  by_contra differ
  exact and_eq_zero_iff.1 (reduced.distinct whole left other also differ) role inside shared

/-- What is left are the connected components: they have no role in common, two roles are in one of
them exactly where a chain of rules links them, and each rule is a part of one of them. -/
theorem reduce_components (rules : List VMGroupRule) :
    (∀ whole ∈ reduce rules, ∀ other ∈ reduce rules, whole ≠ other → whole &&& other = 0) ∧
      (0 ∈ reduce rules → 0 ∈ rules) ∧
      (∀ a b, (∃ whole ∈ reduce rules, whole.getLsbD a ∧ whole.getLsbD b) ↔ Linked rules a b) ∧
      ∀ rule ∈ rules, rule ≠ 0 → ∃! whole, whole ∈ reduce rules ∧ Within rule whole := by
  have reduced := reduced_reduce rules
  refine ⟨reduced.distinct, fun empty => (reduced.components 0 empty).filled rfl, fun a b => ⟨?_, fun linked => ?_⟩, ?_⟩
  · rintro ⟨whole, left, inside, also⟩
    exact (reduced.components whole left).linked a b inside also
  · induction linked with
    | single step =>
      obtain ⟨rule, member, inside, also⟩ := step
      obtain ⟨whole, left, within⟩ := reduced.covered rule member
      exact ⟨whole, left, within _ inside, within _ also⟩
    | tail _ step induction =>
      obtain ⟨whole, left, first, last⟩ := induction
      obtain ⟨rule, member, inside, also⟩ := step
      obtain ⟨other, kept, within⟩ := reduced.covered rule member
      obtain rfl := reduced.same left kept last (within _ inside)
      exact ⟨whole, left, first, within _ also⟩
  · intro rule member filled
    obtain ⟨whole, left, within⟩ := reduced.covered rule member
    obtain ⟨role, inside⟩ : ∃ role, rule.getLsbD role := by
      by_contra empty
      refine filled (BitVec.eq_of_getLsbD_eq fun role _ => ?_)
      simpa using not_exists.mp empty role
    refine ⟨whole, ⟨left, within⟩, fun other found => ?_⟩
    exact reduced.same found.1 left (found.2 role inside) (within role inside)

end OpenNebula.Schedm.Rank.VMGroupRule
