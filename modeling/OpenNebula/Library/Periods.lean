import Mathlib.Data.Set.Basic
import Mathlib.Order.Monotone.Basic

namespace OpenNebula.Library

/-! # Periods of days

Weeks, months or years cut the days into periods of several lengths that follow one another.
A set of positions in a period is listed; counting to the next listed day can go past the end
of a short period.
-/

structure Periods where
  start : Int → Int
  index : Int → Int
  start_lt : ∀ period, start period < start (period + 1)
  start_le : ∀ day, start (index day) ≤ day
  lt_start : ∀ day, day < start (index day + 1)

namespace Periods

variable (periods : Periods)

def position (day : Int) : Int := day - periods.start (periods.index day)

def length (period : Int) : Int := periods.start (period + 1) - periods.start period

/-- The first listed day after `day` -/
structure IsNext (listed : Set Int) (day next : Int) : Prop where
  later : day < next
  isListed : periods.position next ∈ listed
  first : ∀ between, day < between → between < next → periods.position between ∉ listed

variable {periods} {listed : Set Int} {day next least : Int}

theorem index_eq (period : Int) (notBefore : periods.start period ≤ day)
    (before : day < periods.start (period + 1)) : periods.index day = period := by
  have increasing := strictMono_int_of_lt_succ periods.start_lt
  have low : period < periods.index day + 1 := increasing.lt_iff_lt.1 (notBefore.trans_lt (periods.lt_start day))
  have high : periods.index day < period + 1 := increasing.lt_iff_lt.1 ((periods.start_le day).trans_lt before)
  omega

theorem position_eq (period : Int) (notBefore : periods.start period ≤ day)
    (before : day < periods.start (period + 1)) : periods.position day = day - periods.start period := by
  rw [position, index_eq period notBefore before]

theorem position_start_add (period : Int) (natural : 0 ≤ next)
    (within : next < periods.length period) : periods.position (periods.start period + next) = next := by
  unfold length at within
  rw [position_eq period (by omega) (by omega)]
  omega

/-- With a listed position after today's, the count stays in this period or lands on the first
listed position of the next one. -/
theorem isNext_within (isListed : next ∈ listed) (after : periods.position day < next)
    (first : ∀ other ∈ listed, periods.position day < other → next ≤ other)
    (isLeast : least ∈ listed) (below : ∀ other ∈ listed, least ≤ other) (natural : 0 ≤ least)
    (short : ∀ period, next < periods.length period + periods.length (period + 1)) :
    periods.IsNext listed day (periods.start (periods.index day) + next) ↔
      next < periods.length (periods.index day) ∨
        next - periods.length (periods.index day) = least := by
  have today := periods.start_le day
  have ends := periods.lt_start day
  have twice := short (periods.index day)
  have carries : periods.start (periods.index day) + next =
      periods.start (periods.index day + 1) + (next - periods.length (periods.index day)) := by
    unfold length
    omega
  constructor
  · rintro ⟨-, lands, none⟩
    by_cases within : next < periods.length (periods.index day)
    · exact .inl within
    · right
      rw [carries, position_start_add _ (by omega) (by omega)] at lands
      have low := below _ lands
      by_contra later
      refine none (periods.start (periods.index day + 1) + least) (by omega) (by omega) ?_
      rw [position_start_add _ natural (by omega)]
      exact isLeast
  · intro reaches
    unfold position at after
    refine ⟨by omega, ?_, fun between past early found => ?_⟩
    · rcases reaches with within | wraps
      · rw [position_start_add _ (by omega) within]
        exact isListed
      · rw [carries, wraps, position_start_add _ natural (by omega)]
        exact isLeast
    · by_cases same : between < periods.start (periods.index day + 1)
      · rw [position_eq (periods.index day) (by omega) same] at found
        have late := first _ found (by unfold position; omega)
        omega
      · unfold length at twice carries reaches
        rw [position_eq (periods.index day + 1) (by omega) (by omega)] at found
        have low := below _ found
        omega

/-- With no listed position after today's, the first one must be in the next period. -/
theorem isNext_after (none : ∀ other ∈ listed, other ≤ periods.position day)
    (isLeast : least ∈ listed) (below : ∀ other ∈ listed, least ≤ other) (natural : 0 ≤ least)
    (short : ∀ period, least < periods.length period + periods.length (period + 1)) :
    periods.IsNext listed day (periods.start (periods.index day + 1) + least) ↔
      least < periods.length (periods.index day + 1) := by
  have today := periods.start_le day
  have ends := periods.lt_start day
  have twice := short (periods.index day + 1)
  have grows := periods.start_lt (periods.index day + 1)
  constructor
  · rintro ⟨-, lands, -⟩
    by_contra beyond
    unfold length at twice beyond
    rw [position_eq (periods.index day + 1 + 1) (by omega) (by omega)] at lands
    have low := below _ lands
    omega
  · intro within
    refine ⟨by omega, ?_, fun between past early found => ?_⟩
    · rw [position_start_add _ natural within]
      exact isLeast
    · unfold position at none
      unfold length at within
      by_cases same : between < periods.start (periods.index day + 1)
      · rw [position_eq (periods.index day) (by omega) same] at found
        have late := none _ found
        omega
      · rw [position_eq (periods.index day + 1) (by omega) (by omega)] at found
        have low := below _ found
        omega

end Periods

end OpenNebula.Library
