import Mathlib.Algebra.BigOperators.Group.Finset.Basic
import Mathlib.Algebra.BigOperators.Ring.Finset
import Mathlib.Algebra.Order.BigOperators.Group.Finset
import Mathlib.Algebra.Order.Field.Rat
import Mathlib.Data.Rat.Cast.Order

namespace OpenNebula.Library

/-! # Sums of 0/1 variables

What the linear constraints of an integer program say about its binary variables.
-/

variable {α : Type*} {set : Finset α} {chosen : α → Bool}

def bit (value : Bool) : ℚ := if value then 1 else 0

@[simp] theorem bit_true : bit true = 1 := rfl

@[simp] theorem bit_false : bit false = 0 := rfl

theorem bit_nonneg (value : Bool) : 0 ≤ bit value := by
  cases value <;> simp

theorem bit_le_bit {first second : Bool} : bit first ≤ bit second ↔ (first = true → second = true) := by
  cases first <;> cases second <;> simp

theorem sum_bit (set : Finset α) (chosen : α → Bool) :
    ∑ i ∈ set, bit (chosen i) = ((set.filter fun i => chosen i = true).card : ℚ) := by
  simp only [bit, Finset.sum_boole]

theorem sum_bit_nonneg (set : Finset α) (chosen : α → Bool) : 0 ≤ ∑ i ∈ set, bit (chosen i) :=
  Finset.sum_nonneg fun i _ => bit_nonneg (chosen i)

theorem sum_bit_eq_one : ∑ i ∈ set, bit (chosen i) = 1 ↔
    ∃ i ∈ set, chosen i = true ∧ ∀ j ∈ set, chosen j = true → j = i := by
  rw [sum_bit, Nat.cast_eq_one, Finset.card_eq_one]
  constructor
  · rintro ⟨i, isSingle⟩
    have isIn : i ∈ set.filter fun i => chosen i = true := isSingle ▸ Finset.mem_singleton_self i
    obtain ⟨iIn, isChosen⟩ := Finset.mem_filter.1 isIn
    refine ⟨i, iIn, isChosen, fun j jIn otherChosen => Finset.mem_singleton.1 ?_⟩
    rw [← isSingle]
    exact Finset.mem_filter.2 ⟨jIn, otherChosen⟩
  · rintro ⟨i, iIn, isChosen, unique⟩
    refine ⟨i, Finset.eq_singleton_iff_unique_mem.2 ⟨Finset.mem_filter.2 ⟨iIn, isChosen⟩, fun j member => ?_⟩⟩
    exact unique j (Finset.mem_filter.1 member).1 (Finset.mem_filter.1 member).2

theorem bit_le_sum_bit {value : Bool} :
    bit value ≤ ∑ i ∈ set, bit (chosen i) ↔ (value = true → ∃ i ∈ set, chosen i = true) := by
  cases value with
  | false => simp [sum_bit_nonneg]
  | true =>
    rw [bit_true, sum_bit, Nat.one_le_cast, Nat.one_le_iff_ne_zero, ← Nat.pos_iff_ne_zero, Finset.card_pos]
    simp [Finset.Nonempty]

end OpenNebula.Library
