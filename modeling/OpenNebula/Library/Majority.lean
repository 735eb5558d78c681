import Mathlib.Data.Finset.Card

namespace OpenNebula.Library

/-! # Majorities of a finite set -/

variable {S : Type} [DecidableEq S]

structure Majority (members quorum : Finset S) : Prop where
  subset : quorum ⊆ members
  half : members.card < 2 * quorum.card

theorem Majority.intersect {members left right : Finset S}
    (majorityLeft : Majority members left) (majorityRight : Majority members right) :
    ∃ shared, shared ∈ left ∧ shared ∈ right := by
  by_contra apart
  have disjoint : Disjoint left right := by
    rw [Finset.disjoint_left]
    intro member inLeft inRight
    exact apart ⟨member, inLeft, inRight⟩
  have together := Finset.card_le_card
    (Finset.union_subset majorityLeft.subset majorityRight.subset)
  rw [Finset.card_union_of_disjoint disjoint] at together
  have halfLeft := majorityLeft.half
  have halfRight := majorityRight.half
  omega

theorem Majority.insert_half {members others : Finset S} {self : S}
    (selfMember : self ∈ members) (subset : others ⊆ members) (apart : self ∉ others)
    (half : members.card / 2 ≤ others.card) : Majority members (insert self others) where
  subset := Finset.insert_subset selfMember subset
  half := by
    rw [Finset.card_insert_of_notMem apart]
    omega

end OpenNebula.Library
