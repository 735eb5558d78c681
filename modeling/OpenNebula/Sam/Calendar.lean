import OpenNebula.Library.Periods
import OpenNebula.Sam.Recurrence

namespace OpenNebula.Sam

open Library

/-! # The calendar of repeated actions

`localtime_r` at a fixed offset, on the Gregorian calendar.  The count of `next_action` goes
wrong where the day it aims at is not in its month or year.
-/

def leapDay (year : Int) : Int :=
  if year % 4 = 0 ∧ (year % 100 ≠ 0 ∨ year % 400 = 0) then 1 else 0

/-- The days from 1 January 1970 to the first day of the year -/
def yearStart (year : Int) : Int :=
  365 * (year - 1970) + ((year - 1) / 4 - (year - 1) / 100 + (year - 1) / 400 - 477)

def yearOf (day : Int) : Int :=
  let guess := 400 * day / 146097 + 1970
  if day < yearStart guess then guess - 1
  else if yearStart (guess + 1) ≤ day then guess + 1
  else guess

/-- The days of the year before a month -/
def monthStart (leap month : Int) : Int :=
  (367 * month + 5) / 12 - (if month ≤ 1 then 0 else 2 - leap)

def monthOf (leap yearDay : Int) : Int :=
  (12 * (yearDay + (if yearDay < 59 + leap then 0 else 2 - leap)) + 6) / 367

/-- The date of a day, counted from 1 January 1970 -/
def calendar (day : Int) : CalendarTime :=
  let year := yearOf day
  let yearDay := day - yearStart year
  let month := monthOf (leapDay year) yearDay
  { monthDay := yearDay - monthStart (leapDay year) month + 1, month, year := year - 1900,
    weekDay := (day + 4) % 7, yearDay }

def localDay (offset time : Int) : Int := (time + offset) / (24 * 3600)

def localtime (offset time : Int) : CalendarTime := calendar (localDay offset time)

example : (calendar 0, calendar 19782, calendar 11016) =
    (⟨1, 0, 70, 4, 0⟩, ⟨29, 1, 124, 4, 59⟩, ⟨29, 1, 100, 2, 59⟩) := by
  decide

theorem leapDay_cases (year : Int) : leapDay year = 0 ∨ leapDay year = 1 := by
  unfold leapDay
  split
  · exact .inr rfl
  · exact .inl rfl

theorem yearStart_succ (year : Int) : yearStart (year + 1) = yearStart year + 365 + leapDay year := by
  unfold yearStart leapDay
  split <;> omega

theorem yearOf_spec (day : Int) : yearStart (yearOf day) ≤ day ∧ day < yearStart (yearOf day + 1) := by
  simp only [yearOf]
  split
  · rename_i early
    rw [Int.sub_add_cancel]
    refine ⟨?_, early⟩
    unfold yearStart
    omega
  · split
    · rename_i late
      refine ⟨late, ?_⟩
      unfold yearStart
      omega
    · rename_i early late
      exact ⟨not_lt.1 early, not_le.1 late⟩

theorem monthOf_spec {leap : Int} (yearDay : Int) (isLeap : leap = 0 ∨ leap = 1) (notBefore : 0 ≤ yearDay)
    (before : yearDay < 365 + leap) : (0 ≤ monthOf leap yearDay ∧ monthOf leap yearDay ≤ 11) ∧
      monthStart leap (monthOf leap yearDay) ≤ yearDay ∧ yearDay < monthStart leap (monthOf leap yearDay + 1) := by
  obtain ⟨month, isMonth⟩ : ∃ month, month = monthOf leap yearDay := ⟨_, rfl⟩
  rw [← isMonth]
  unfold monthOf at isMonth
  unfold monthStart
  split at isMonth
  · rw [if_pos (by omega)]
    split <;> omega
  · rw [if_neg (by omega), if_neg (by omega)]
    omega

theorem monthOf_date (day : Int) : (0 ≤ (calendar day).month ∧ (calendar day).month ≤ 11) ∧
      yearStart (yearOf day) + monthStart (leapDay (yearOf day)) (calendar day).month ≤ day ∧
        day < yearStart (yearOf day) + monthStart (leapDay (yearOf day)) ((calendar day).month + 1) := by
  obtain ⟨notBefore, before⟩ := yearOf_spec day
  rw [yearStart_succ] at before
  obtain ⟨isMonth, first, last⟩ := monthOf_spec (day - yearStart (yearOf day))
    (leapDay_cases (yearOf day)) (by omega) (by omega)
  refine ⟨isMonth, ?_, ?_⟩
  · simp only [calendar]
    omega
  · simp only [calendar]
    omega

def weeks : Periods where
  start week := 7 * week - 4
  index day := (day + 4) / 7
  start_lt _ := by omega
  start_le _ := by omega
  lt_start _ := by omega

def years : Periods where
  start := yearStart
  index := yearOf
  start_lt year := by
    have isLeap := leapDay_cases year
    rw [yearStart_succ]
    omega
  start_le day := (yearOf_spec day).1
  lt_start day := (yearOf_spec day).2

/-- The first day of a month, counted from the first month of year 0 -/
def firstOfMonth (month : Int) : Int :=
  yearStart (month / 12) + monthStart (leapDay (month / 12)) (month % 12)

theorem firstOfMonth_eq (year month : Int) (notBefore : 0 ≤ month) (before : month ≤ 12) :
    firstOfMonth (12 * year + month) = yearStart year + monthStart (leapDay year) month := by
  unfold firstOfMonth
  rcases before.lt_or_eq with within | last
  · rw [show (12 * year + month) / 12 = year by omega, show (12 * year + month) % 12 = month by omega]
  · rw [show (12 * year + month) / 12 = year + 1 by omega,
      show (12 * year + month) % 12 = 0 by omega, yearStart_succ, last]
    have isLeap := leapDay_cases year
    unfold monthStart
    rw [if_pos (by omega), if_neg (by omega)]
    omega

def daysOfMonth (leap month : Int) : Int := monthStart leap (month + 1) - monthStart leap month

theorem firstOfMonth_succ (month : Int) : firstOfMonth (month + 1) =
    firstOfMonth month + daysOfMonth (leapDay (month / 12)) (month % 12) := by
  have here := firstOfMonth_eq (month / 12) (month % 12) (by omega) (by omega)
  have next := firstOfMonth_eq (month / 12) (month % 12 + 1) (by omega) (by omega)
  rw [show 12 * (month / 12) + month % 12 = month by omega] at here
  rw [show 12 * (month / 12) + (month % 12 + 1) = month + 1 by omega] at next
  rw [here, next, daysOfMonth]
  omega

theorem daysOfMonth_ge {leap : Int} (month : Int) (isLeap : leap = 0 ∨ leap = 1) (notBefore : 0 ≤ month) :
    28 ≤ daysOfMonth leap month := by
  unfold daysOfMonth monthStart
  split <;> split <;> omega

def months : Periods where
  start := firstOfMonth
  index day := 12 * yearOf day + (calendar day).month
  start_lt month := by
    have days := daysOfMonth_ge (month % 12) (leapDay_cases (month / 12)) (by omega)
    rw [firstOfMonth_succ]
    omega
  start_le day := by
    obtain ⟨⟨natural, twelve⟩, first, -⟩ := monthOf_date day
    rw [firstOfMonth_eq _ _ natural (by omega)]
    omega
  lt_start day := by
    obtain ⟨⟨natural, twelve⟩, -, last⟩ := monthOf_date day
    rw [Int.add_assoc, firstOfMonth_eq _ _ (by omega) (by omega)]
    omega

/-- The number in `DAYS` of the first day of a period -/
def Repeat.firstDay : Repeat → Int
  | .monthly => 1
  | _ => 0

def Repeat.periods : Repeat → Periods
  | .weekly => weeks
  | .monthly => months
  | _ => years

def Repeat.ByDays (repeats : Repeat) : Prop :=
  repeats = .weekly ∨ repeats = .monthly ∨ repeats = .yearly

namespace ScheduledAction

variable (action : ScheduledAction)

def Listed (date : CalendarTime) : Prop :=
  match action.repeats with
  | .weekly => date.weekDay ∈ action.daysSet
  | .monthly => date.monthDay ∈ action.daysSet
  | .yearly => date.yearDay ∈ action.daysSet
  | .none | .hourly => False

/-- `later` is the same time on the next day listed. -/
structure FollowsCalendar (offset later : Int) : Prop where
  timeOfDay : (later + offset) % (24 * 3600) = (action.time + offset) % (24 * 3600)
  forward : localDay offset action.time < localDay offset later
  isListed : action.Listed (localtime offset later)
  noneSkipped : ∀ day, localDay offset action.time < day → day < localDay offset later →
    ¬ action.Listed (calendar day)

/-- The next day listed is in its week, month or year, or the count goes on to the first one
listed; after the last one listed, the first one is in the next month or year. -/
def CountsToListed (day : Int) : Prop :=
  let periods := action.repeats.periods
  let today := action.currentDay (calendar day)
  let here := periods.length (periods.index day)
  let next := periods.length (periods.index day + 1)
  match action.daysSet.min?, (action.daysSet.filter fun other => today < other).min? with
  | some least, some coming => coming - action.repeats.firstDay < here ∨ coming - here = least
  | some least, none => least - action.repeats.firstDay < next
  | none, _ => False

instance (day : Int) : Decidable (action.CountsToListed day) := by
  unfold CountsToListed
  dsimp only
  split <;> infer_instance

variable {action : ScheduledAction} {offset now : Int}

theorem currentDay_calendar (byDays : action.repeats.ByDays) (day : Int) : action.currentDay (calendar day) =
      action.repeats.periods.position day + action.repeats.firstDay := by
  rcases byDays with isRepeat | isRepeat | isRepeat
  · simp only [currentDay, isRepeat, Repeat.periods, Repeat.firstDay, Periods.position, weeks, calendar]
    omega
  · obtain ⟨⟨natural, twelve⟩, -⟩ := monthOf_date day
    simp only [currentDay, isRepeat, Repeat.periods, Repeat.firstDay, Periods.position, months]
    rw [firstOfMonth_eq _ _ natural (by omega)]
    simp only [calendar]
    omega
  · simp only [currentDay, isRepeat, Repeat.periods, Repeat.firstDay, Periods.position, years, calendar, Int.add_zero]

theorem listed_iff (byDays : action.repeats.ByDays) (date : CalendarTime) :
    action.Listed date ↔ action.currentDay date ∈ action.daysSet := by
  rcases byDays with isRepeat | isRepeat | isRepeat <;> simp only [Listed, currentDay, isRepeat]

theorem daysInPeriod_month (isRepeat : action.repeats = .monthly) (year month : Int)
    (notBefore : 0 ≤ month) (before : month ≤ 11) :
    action.daysInPeriod month (year - 1900) = daysOfMonth (leapDay year) month := by
  have isMonth : month = 0 ∨ month = 1 ∨ month = 2 ∨ month = 3 ∨ month = 4 ∨ month = 5 ∨
      month = 6 ∨ month = 7 ∨ month = 8 ∨ month = 9 ∨ month = 10 ∨ month = 11 := by omega
  simp only [daysInPeriod, isRepeat, Int.sub_add_cancel, leapDay, daysOfMonth, monthStart]
  by_cases isLeap : year % 4 = 0 ∧ (year % 100 ≠ 0 ∨ year % 400 = 0)
  · simp only [isLeap, true_and, if_true]
    rcases isMonth with rfl | rfl | rfl | rfl | rfl | rfl | rfl | rfl | rfl | rfl | rfl | rfl <;> rfl
  · simp only [isLeap, false_and, if_false]
    rcases isMonth with rfl | rfl | rfl | rfl | rfl | rfl | rfl | rfl | rfl | rfl | rfl | rfl <;> rfl

theorem daysInPeriod_calendar (byDays : action.repeats.ByDays) (day : Int) :
    action.daysInPeriod (calendar day).month (calendar day).year =
      action.repeats.periods.length (action.repeats.periods.index day) := by
  rcases byDays with isRepeat | isRepeat | isRepeat
  · simp only [daysInPeriod, isRepeat, Repeat.periods, Periods.length, weeks]
    omega
  · obtain ⟨⟨natural, twelve⟩, -⟩ := monthOf_date day
    simp only [isRepeat, Repeat.periods, Periods.length, months, firstOfMonth_succ]
    rw [show (12 * yearOf day + (calendar day).month) / 12 = yearOf day by omega,
      show (12 * yearOf day + (calendar day).month) % 12 = (calendar day).month by omega,
      ← daysInPeriod_month isRepeat _ _ natural twelve]
    simp only [calendar]
    omega
  · simp only [daysInPeriod, isRepeat, Repeat.periods, Periods.length, years, yearStart_succ,
      calendar, Int.sub_add_cancel, leapDay]
    omega

/-- Every day that `DAYS` can list is before the end of the next period. -/
theorem listed_short (byDays : action.repeats.ByDays) {day : Int} (allowed : Repeat.Allows action.repeats day) :
    0 ≤ day - action.repeats.firstDay ∧ ∀ period, day - action.repeats.firstDay <
      action.repeats.periods.length period + action.repeats.periods.length (period + 1) := by
  rcases byDays with isRepeat | isRepeat | isRepeat
  · simp only [isRepeat, Repeat.Allows] at allowed
    simp only [isRepeat, Repeat.firstDay, Repeat.periods, Periods.length, weeks]
    exact ⟨by omega, fun _ => by omega⟩
  · simp only [isRepeat, Repeat.Allows] at allowed
    simp only [isRepeat, Repeat.firstDay, Repeat.periods, Periods.length, months, firstOfMonth_succ]
    refine ⟨by omega, fun period => ?_⟩
    have here := daysOfMonth_ge (period % 12) (leapDay_cases (period / 12)) (by omega)
    have next := daysOfMonth_ge ((period + 1) % 12) (leapDay_cases ((period + 1) / 12)) (by omega)
    omega
  · simp only [isRepeat, Repeat.Allows] at allowed
    simp only [isRepeat, Repeat.firstDay, Repeat.periods, Periods.length, years, yearStart_succ]
    refine ⟨by omega, fun period => ?_⟩
    have here := leapDay_cases period
    have next := leapDay_cases (period + 1)
    omega

theorem follows_iff_isNext (byDays : action.repeats.ByDays) {days : Int}
    (reached : localDay offset (action.time + days * 24 * 3600) = localDay offset action.time + days) :
    action.FollowsCalendar offset (action.time + days * 24 * 3600) ↔ action.repeats.periods.IsNext
        { position | position + action.repeats.firstDay ∈ action.daysSet }
        (localDay offset action.time) (localDay offset action.time + days) := by
  have isListed : ∀ day, action.Listed (calendar day) ↔ action.repeats.periods.position day ∈
      { position | position + action.repeats.firstDay ∈ action.daysSet } := by
    intro day
    rw [listed_iff byDays, currentDay_calendar byDays]
    rfl
  constructor
  · rintro ⟨-, forward, lands, noneSkipped⟩
    rw [reached] at forward noneSkipped
    rw [localtime, reached, isListed] at lands
    exact ⟨forward, lands, fun day past early found =>
      noneSkipped day past early ((isListed day).2 found)⟩
  · rintro ⟨forward, lands, noneSkipped⟩
    refine ⟨by omega, by rwa [reached], ?_, fun day past early found => ?_⟩
    · rw [localtime, reached, isListed]
      exact lands
    · rw [reached] at early
      exact noneSkipped day past early ((isListed day).1 found)

theorem nextAction_byDays {least greatest : Int} (fuel : Nat) (localtime : Int → CalendarTime)
    (byDays : action.repeats.ByDays) (isLeast : action.daysSet.min? = some least)
    (isGreatest : action.daysSet.max? = some greatest) (goesOn : action.hasEnded now = false) :
    ∃ later, action.nextAction localtime fuel now = some (later, later.time) ∧
      later.time = action.time + action.delta (localtime now) least greatest * 24 * 3600 := by
  refine ⟨{ action.counted now with
    time := action.time + action.delta (localtime now) least greatest * 24 * 3600, warning := 0 },
    ?_, rfl⟩
  unfold nextAction
  rcases byDays with isRepeat | isRepeat | isRepeat <;>
    simp [isRepeat, isLeast, isGreatest, goesOn]

theorem countsToListed_weekly (isRepeat : action.repeats = .weekly)
    (valid : action.daysInRange = .ok ()) (day : Int) : action.CountsToListed day := by
  have wellFormed := (daysInRange_iff (by rw [isRepeat]; decide)).1 valid
  have inWeek : ∀ listed ∈ action.daysSet, listed ≤ 6 := by
    intro listed isListed
    have allowed := wellFormed.allowed listed isListed
    rw [isRepeat] at allowed
    exact allowed.2
  simp only [CountsToListed, isRepeat, Repeat.periods, Repeat.firstDay, Periods.length, weeks]
  cases isLeast : action.daysSet.min? with
  | none =>
    refine absurd (List.min?_eq_none_iff.1 isLeast) (wellFormed.nonempty ?_)
    rw [isRepeat]
    decide
  | some least =>
    have first := inWeek least (List.min?_eq_some_iff.1 isLeast).1
    cases isComing : (action.daysSet.filter fun other =>
        action.currentDay (calendar day) < other).min? with
    | none =>
      dsimp only
      omega
    | some coming =>
      have early := inWeek coming (List.mem_of_mem_filter (List.min?_eq_some_iff.1 isComing).1)
      dsimp only
      omega

theorem listed_bounds (byDays : action.repeats.ByDays) (valid : action.daysInRange = .ok ()) :
    ∃ least greatest, action.daysSet.min? = some least ∧ action.daysSet.max? = some greatest := by
  have repeated : action.repeats ≠ .none := by
    rcases byDays with isRepeat | isRepeat | isRepeat <;> rw [isRepeat] <;> decide
  have wellFormed := (daysInRange_iff repeated).mp valid
  obtain ⟨least, isLeast⟩ : ∃ least, action.daysSet.min? = some least :=
    Option.ne_none_iff_exists'.mp fun empty =>
      wellFormed.nonempty repeated (List.min?_eq_none_iff.mp empty)
  obtain ⟨greatest, isGreatest⟩ : ∃ greatest, action.daysSet.max? = some greatest :=
    Option.ne_none_iff_exists'.mp fun empty =>
      wellFormed.nonempty repeated (List.max?_eq_none_iff.mp empty)
  exact ⟨least, greatest, isLeast, isGreatest⟩

/-- The number of days that is added leads to the next day listed exactly when the count does. -/
theorem delta_follows_iff {least greatest : Int} (byDays : action.repeats.ByDays)
    (valid : action.daysInRange = .ok ()) (isLeast : action.daysSet.min? = some least)
    (isGreatest : action.daysSet.max? = some greatest) (onTheDay : localDay offset now = localDay offset action.time) :
    action.FollowsCalendar offset
        (action.time + action.delta (localtime offset now) least greatest * 24 * 3600) ↔
      action.CountsToListed (localDay offset action.time) := by
  have repeated : action.repeats ≠ .none := by
    rcases byDays with isRepeat | isRepeat | isRepeat <;> rw [isRepeat] <;> decide
  have wellFormed := (daysInRange_iff repeated).mp valid
  rw [follows_iff_isNext byDays (by unfold localDay; omega), localtime, onTheDay]
  generalize localDay offset action.time = today
  obtain ⟨isMember, below⟩ := List.min?_eq_some_iff.mp isLeast
  obtain ⟨isLast, above⟩ := List.max?_eq_some_iff.mp isGreatest
  obtain ⟨natural, short⟩ := listed_short byDays (wellFormed.allowed least isMember)
  have isDay := currentDay_calendar byDays today
  have isLength := daysInPeriod_calendar byDays today
  have isPosition : action.repeats.periods.position today =
    today - action.repeats.periods.start (action.repeats.periods.index today) := rfl
  have isListed : ∀ listed ∈ action.daysSet, listed - action.repeats.firstDay ∈
      { position | position + action.repeats.firstDay ∈ action.daysSet } := by
    intro listed isMember
    change listed - action.repeats.firstDay + action.repeats.firstDay ∈ action.daysSet
    rw [Int.sub_add_cancel]
    exact isMember
  have lowest : ∀ other ∈ { position | position + action.repeats.firstDay ∈ action.daysSet },
      least - action.repeats.firstDay ≤ other := by
    intro other isOther
    have low := below _ isOther
    omega
  simp only [CountsToListed, delta, isLeast, isLength]
  cases coming : (action.daysSet.filter fun other =>
      action.currentDay (calendar today) < other).min? with
  | some next =>
    obtain ⟨isNext, soonest⟩ := List.min?_eq_some_iff.mp coming
    simp only [List.mem_filter, decide_eq_true_eq, and_imp] at isNext soonest
    have last := above next isNext.1
    have first := below next isNext.1
    have isDelta : (if action.currentDay (calendar today) < least then
        least - action.currentDay (calendar today)
      else if greatest ≤ action.currentDay (calendar today) then
        action.repeats.periods.length (action.repeats.periods.index today) -
          action.currentDay (calendar today) + least
      else next - action.currentDay (calendar today)) =
        next - action.currentDay (calendar today) := by
      split
      · rename_i early
        have isSoonest := soonest least isMember early
        omega
      · rw [if_neg (by omega)]
    obtain ⟨-, nextShort⟩ := listed_short byDays (wellFormed.allowed next isNext.1)
    rw [Option.getD_some, isDelta, show today + (next - action.currentDay (calendar today)) =
      action.repeats.periods.start (action.repeats.periods.index today) +
        (next - action.repeats.firstDay) by omega]
    rw [Periods.isNext_within (isListed next isNext.1) (by omega) ?_ (isListed least isMember) lowest
      natural nextShort]
    · refine or_congr_right ?_
      omega
    · intro other isOther after
      have late := soonest _ isOther (by omega)
      omega
  | none =>
    have none : ∀ other ∈ action.daysSet, other ≤ action.currentDay (calendar today) := by
      simpa only [List.min?_eq_none_iff, List.filter_eq_nil_iff, decide_eq_true_eq, not_lt]
        using coming
    have early := none least isMember
    rw [if_neg (not_lt.mpr early), if_pos (none greatest isLast),
      show today + (action.repeats.periods.length (action.repeats.periods.index today) -
          action.currentDay (calendar today) + least) =
        action.repeats.periods.start (action.repeats.periods.index today + 1) +
          (least - action.repeats.firstDay) by unfold Periods.length; omega]
    refine Periods.isNext_after (fun other isOther => ?_) (isListed least isMember) lowest natural short
    have past := none _ isOther
    omega

/-- An action executed on the day it was scheduled for goes to the next day listed exactly when
the count does. -/
theorem nextAction_follows_iff (fuel : Nat) (byDays : action.repeats.ByDays)
    (valid : action.daysInRange = .ok ()) (goesOn : action.hasEnded now = false)
    (onTheDay : localDay offset now = localDay offset action.time) :
    ∃ later, action.nextAction (localtime offset) fuel now = some (later, later.time) ∧
      (action.FollowsCalendar offset later.time ↔ action.CountsToListed (localDay offset action.time)) := by
  obtain ⟨least, greatest, isLeast, isGreatest⟩ := listed_bounds byDays valid
  obtain ⟨later, executed, isTime⟩ :=
    nextAction_byDays fuel (localtime offset) byDays isLeast isGreatest goesOn
  exact ⟨later, executed, isTime ▸ delta_follows_iff byDays valid isLeast isGreatest onTheDay⟩

/-- A weekly action goes to the next day listed, whatever days are listed. -/
theorem nextAction_follows_weekly (fuel : Nat) (isRepeat : action.repeats = .weekly)
    (valid : action.daysInRange = .ok ()) (goesOn : action.hasEnded now = false)
    (onTheDay : localDay offset now = localDay offset action.time) :
    ∃ later, action.nextAction (localtime offset) fuel now = some (later, later.time) ∧
      action.FollowsCalendar offset later.time := by
  obtain ⟨least, greatest, isLeast, isGreatest⟩ := listed_bounds (.inl isRepeat) valid
  obtain ⟨later, executed, isTime⟩ :=
    nextAction_byDays fuel (localtime offset) (.inl isRepeat) isLeast isGreatest goesOn
  exact ⟨later, executed, isTime ▸ (delta_follows_iff (.inl isRepeat) valid isLeast isGreatest onTheDay).mpr
    (countsToListed_weekly isRepeat valid _)⟩

/-- From a Friday to the Tuesday of the next week -/
theorem nextAction_follows_weekly_friday :
    let action : ScheduledAction := { type := .vm, repeats := .weekly, days := "2,5", time := 1741953600 }
    ∃ later, action.nextAction (localtime 3600) 0 1741953660 = some (later, later.time) ∧
      action.FollowsCalendar 3600 later.time :=
  nextAction_follows_weekly 0 rfl (by decide) rfl (by decide)

def tenthOrThirtieth : ScheduledAction :=
  { type := .vm, repeats := .monthly, days := "10,30", time := 1741608000 }

theorem nextAction_follows_march : ∃ later,
    tenthOrThirtieth.nextAction (localtime 3600) 0 1741608060 = some (later, later.time) ∧
      tenthOrThirtieth.FollowsCalendar 3600 later.time := by
  obtain ⟨later, executed, follows⟩ := @nextAction_follows_iff tenthOrThirtieth 3600 1741608060 0
    (.inr (.inl rfl)) (by decide) rfl (by decide)
  exact ⟨later, executed, follows.mpr (by decide +kernel)⟩

def lastDay : ScheduledAction := { type := .vm, repeats := .monthly, days := "31", time := 1738324800 }

/-- From 31 January an action on the last day goes to 3 March. -/
theorem nextAction_misses_listed : ¬ ∀ (action : ScheduledAction) (offset now : Int) (fuel : Nat),
    action.repeats.ByDays → action.daysInRange = .ok () → action.hasEnded now = false →
    localDay offset now = localDay offset action.time →
    ∃ later, action.nextAction (localtime offset) fuel now = some (later, later.time) ∧
      action.FollowsCalendar offset later.time := by
  intro follows
  obtain ⟨later, executed, -, -, isListed, -⟩ :=
    follows lastDay 0 1738324860 0 (.inr (.inl rfl)) (by decide) rfl (by decide)
  have computed : (lastDay.nextAction (localtime 0) 0 1738324860).map (·.2) = some 1741003200 := by
    decide +kernel
  rw [executed] at computed
  have isTime : later.time = 1741003200 := Option.some.inj computed
  rw [isTime, listed_iff (.inr (.inl rfl))] at isListed
  exact absurd isListed (by decide +kernel)

end ScheduledAction

end OpenNebula.Sam
