import Mathlib.Algebra.Order.Group.Int
import Mathlib.Algebra.Group.Pi.Basic

namespace OpenNebula.Library

/-! # Budgets

Counters hold what is left of something.  A step takes at least what it charges, and a counter
that it takes from does not fall below zero.
-/

universe u

variable {κ : Type u} {before middle after first second charge : κ → Int}

structure Spends (before after charge : κ → Int) : Prop where
  charged : ∀ counter, charge counter ≤ before counter - after counter
  covered : ∀ counter, after counter = before counter ∨ 0 ≤ after counter

namespace Spends

theorem nothing : Spends before before fun _ => 0 :=
  ⟨fun counter => by omega, fun _ => .inl rfl⟩

theorem trans (left : Spends before middle first) (right : Spends middle after second) :
    Spends before after (first + second) := by
  constructor
  · intro counter
    have taken := left.charged counter
    have taken' := right.charged counter
    simp only [Pi.add_apply]
    omega
  · intro counter
    rcases right.covered counter with same | covered
    · rw [same]
      exact left.covered counter
    · exact .inr covered

theorem mono (spends : Spends before after second) (less : ∀ counter, first counter ≤ second counter) :
    Spends before after first :=
  ⟨fun counter => (less counter).trans (spends.charged counter), spends.covered⟩

theorem within (spends : Spends before after charge) (counter : κ) : charge counter ≤ max (before counter) 0 := by
  have charged := spends.charged counter
  rcases spends.covered counter with same | covered <;> omega

end Spends

end OpenNebula.Library
