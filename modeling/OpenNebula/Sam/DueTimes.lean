import OpenNebula.Sam.Recurrence

namespace OpenNebula.Sam

/-! # When a repeated action is due again

The next time is counted from the old one.  By hours it may be the time of the execution
itself, which stands for an execution that has been completed, and by days it may still be in
the past when the action was executed late.
-/

namespace ScheduledAction

variable {action later : ScheduledAction} {localtime : Int → CalendarTime} {fuel : Nat}
  {now value : Int}

/-- The execution is not late by a multiple of the hours, or not so late that the time moved to
the next day in `DAYS` has passed. -/
def OnTime (localtime : Int → CalendarTime) (action : ScheduledAction) (now : Int) : Prop :=
  let today := localtime now
  let day := action.currentDay today
  if action.repeats = .hourly then ∀ hours ∈ action.daysSet, ¬hours * 3600 ∣ now - action.time
  else
    ∀ next ∈ action.daysSet,
      (day < next → now - action.time < (next - day) * 86400) ∧
        ((∀ other ∈ action.daysSet, other ≤ day) → now - action.time <
            (action.daysInPeriod today.month today.year + next - day) * 86400)

def Awaits (action : ScheduledAction) : Prop := ¬(0 < action.done ∧ action.time ≤ action.done)

theorem isDue_iff : action.isDue now = true ↔ action.hasEnded now = false ∧ action.Awaits ∧ action.time < now := by
  simp only [isDue, Awaits, Bool.and_eq_true, Bool.not_eq_true', decide_eq_true_eq,
    Bool.and_eq_false_iff, decide_eq_false_iff_not, and_assoc]
  tauto

theorem nextAction_moved (wellFormed : action.WellFormed) (repeated : action.repeats ≠ .none)
    (live : action.hasEnded now = false) (stepped : action.nextAction localtime fuel now = some (later, value)) :
    ∃ least greatest, action.daysSet.min? = some least ∧ action.daysSet.max? = some greatest ∧
      later.endType = action.endType ∧ later.done = now ∧ later.endValue =
        (if action.endType = .times then action.endValue - 1 else action.endValue) ∧
      if action.repeats = .hourly then
        catchUp (least * 3600) now fuel action.time = some later.time else
        later.time = action.time + action.delta (localtime now) least greatest * 24 * 3600 := by
  obtain ⟨day, rest, isSet⟩ := List.exists_cons_of_ne_nil (wellFormed.nonempty repeated)
  obtain ⟨least, isLeast⟩ : ∃ least, action.daysSet.min? = some least := by
    rw [isSet, List.min?_cons]
    exact ⟨_, rfl⟩
  obtain ⟨greatest, isGreatest⟩ : ∃ greatest, action.daysSet.max? = some greatest := by
    rw [isSet, List.max?_cons]
    exact ⟨_, rfl⟩
  refine ⟨least, greatest, isLeast, isGreatest, ?_⟩
  simp only [nextAction, if_neg repeated, isLeast, isGreatest, live, Bool.false_eq_true, if_false] at stepped
  split at stepped
  · rename_i hourly
    obtain ⟨time, isTime, same⟩ := Option.map_eq_some_iff.1 stepped
    cases same
    rw [if_pos hourly]
    exact ⟨rfl, rfl, rfl, isTime⟩
  · rename_i byDays
    cases stepped
    rw [if_neg byDays]
    exact ⟨rfl, rfl, rfl, rfl⟩

variable {time : Int}

theorem catchUp_spec {step reached : Int} (past : time < now) (caught : catchUp step now fuel time = some reached) :
    now ≤ reached ∧ reached < now + step ∧ step ∣ reached - time := by
  induction fuel generalizing time with
  | zero => contradiction
  | succ fuel ih =>
    rw [catchUp] at caught
    split at caught
    · rename_i still
      obtain ⟨notBefore, notBeyond, divides⟩ := ih still caught
      refine ⟨notBefore, notBeyond, ?_⟩
      have split : reached - time = reached - (time + step) + step := by ring
      rw [split]
      exact Int.dvd_add divides (Int.dvd_refl step)
    · rename_i stops
      cases caught
      exact ⟨by omega, by omega, ⟨1, by ring⟩⟩

theorem catchUp_after {step reached : Int} (past : time < now) (caught : catchUp step now fuel time = some reached) :
    now < reached ↔ ¬step ∣ now - time := by
  obtain ⟨notBefore, notBeyond, divides⟩ := catchUp_spec past caught
  constructor
  · intro after late
    have apart : step ∣ reached - now := by
      have split : reached - now = reached - time - (now - time) := by ring
      rw [split]
      exact Int.dvd_sub divides late
    have far := Int.le_of_dvd (by omega) apart
    omega
  · intro early
    by_contra same
    have equal : reached = now := by omega
    rw [equal] at divides
    exact early divides

theorem delta_after {least greatest : Int} {today : CalendarTime} {late : Int}
    (isLeast : action.daysSet.min? = some least) (isGreatest : action.daysSet.max? = some greatest) :
    late < action.delta today least greatest * 86400 ↔ ∀ next ∈ action.daysSet,
        (action.currentDay today < next → late < (next - action.currentDay today) * 86400) ∧
          ((∀ other ∈ action.daysSet, other ≤ action.currentDay today) →
            late < (action.daysInPeriod today.month today.year + next - action.currentDay today) * 86400) := by
  obtain ⟨leastMember, below⟩ := List.min?_eq_some_iff.1 isLeast
  obtain ⟨greatestMember, above⟩ := List.max?_eq_some_iff.1 isGreatest
  simp only [delta]
  generalize action.currentDay today = day
  generalize action.daysInPeriod today.month today.year = period
  split
  · rename_i before
    constructor
    · intro early next member
      have atLeast := below next member
      refine ⟨fun _ => by omega, fun all => ?_⟩
      have past := all least leastMember
      omega
    · intro all
      exact (all least leastMember).1 before
  · rename_i notBefore
    split
    · rename_i after
      constructor
      · intro early next member
        have atLeast := below next member
        have atMost := above next member
        exact ⟨fun _ => by omega, fun _ => by omega⟩
      · intro all
        have wraps := (all least leastMember).2 fun other member => (above other member).trans after
        omega
    · rename_i within
      have inside : greatest ∈ action.daysSet.filter fun other => day < other :=
        List.mem_filter.2 ⟨greatestMember, by simpa using within⟩
      cases isNext : (action.daysSet.filter fun other => day < other).min? with
      | none =>
        rw [List.min?_eq_none_iff.1 isNext] at inside
        cases inside
      | some found =>
        obtain ⟨foundMember, first⟩ := List.min?_eq_some_iff.1 isNext
        have isFound := List.mem_filter.1 foundMember
        have isAfter : day < found := by simpa using isFound.2
        rw [Option.getD_some]
        constructor
        · intro early next member
          refine ⟨fun ahead => ?_, fun all => ?_⟩
          · have notEarlier := first next (List.mem_filter.2 ⟨member, by simpa using ahead⟩)
            omega
          · have past := all greatest greatestMember
            omega
        · intro all
          exact (all found isFound.1).1 isAfter

theorem onTime_iff (wellFormed : action.WellFormed) (repeated : action.repeats ≠ .none)
    (due : action.isDue now = true) (stepped : action.nextAction localtime fuel now = some (later, value)) :
    action.OnTime localtime now ↔ now < later.time := by
  obtain ⟨live, -, past⟩ := isDue_iff.1 due
  obtain ⟨least, greatest, isLeast, isGreatest, -, -, -, isTime⟩ :=
    nextAction_moved wellFormed repeated live stepped
  have member := List.min?_mem isLeast
  simp only [OnTime]
  split
  · rename_i hourly
    rw [if_pos hourly] at isTime
    rw [catchUp_after past isTime]
    obtain ⟨hours, all⟩ := wellFormed.single hourly
    constructor
    · intro onTime
      exact onTime least member
    · intro onTime other isOther
      rw [all other isOther, ← all least member]
      exact onTime
  · rename_i byDays
    rw [if_neg byDays] at isTime
    rw [← delta_after isLeast isGreatest, isTime]
    constructor <;> intro early <;> omega

theorem isDue_of_later (notPast : later.done < later.time) (after : later.time < time)
    (live : later.hasEnded time = false) : later.isDue time = true :=
  isDue_iff.2 ⟨live, fun completed => absurd completed.2 (by omega), after⟩

inductive Executions (localtime : Int → CalendarTime) (action : ScheduledAction) :
    Nat → ScheduledAction → Prop where
  | start : Executions localtime action 0 action
  | execute {count : Nat} {before later : ScheduledAction} {fuel : Nat} {now value : Int}
      (sofar : Executions localtime action count before) (due : before.isDue now = true)
      (onTime : before.OnTime localtime now)
      (stepped : before.nextAction localtime fuel now = some (later, value)) :
      Executions localtime action (count + 1) later

/-- What is left of `END_VALUE` after the executions -/
structure Remaining (action : ScheduledAction) (count : Nat) (later : ScheduledAction) : Prop where
  wellFormed : later.WellFormed
  repeated : later.repeats ≠ .none
  times : later.endType = .times
  left : later.endValue + count = action.endValue
  enough : 0 ≤ later.endValue
  awaits : later.Awaits

theorem Executions.remaining {count : Nat} (wellFormed : action.WellFormed)
    (repeated : action.repeats ≠ .none) (times : action.endType = .times)
    (enough : 0 ≤ action.endValue) (awaits : action.Awaits)
    (executions : Executions localtime action count later) : action.Remaining count later := by
  induction executions with
  | start => exact ⟨wellFormed, repeated, times, by simp, enough, awaits⟩
  | execute sofar due onTime stepped ih =>
    obtain ⟨live, -, past⟩ := isDue_iff.1 due
    obtain ⟨-, -, -, -, sameEnd, isDone, isLeft, -⟩ :=
      nextAction_moved ih.wellFormed ih.repeated live stepped
    obtain ⟨sameRepeat, sameDays⟩ := nextAction_frame stepped
    have after := (onTime_iff ih.wellFormed ih.repeated due stepped).1 onTime
    simp only [hasEnded, ih.times, decide_eq_false_iff_not, not_le] at live
    rw [if_pos ih.times] at isLeft
    have left := ih.left
    refine ⟨ih.wellFormed.congr sameRepeat sameDays, by rw [sameRepeat]; exact ih.repeated,
      sameEnd.trans ih.times, ?_, by omega, fun completed => ?_⟩
    · push_cast
      omega
    · have completed := completed.2
      omega

/-- The next time is later than the execution, and the action is due after it, exactly when the
execution is on time; and with executions on time `END_VALUE` is the number of times that the
action is due. -/
theorem recurring_action_due_again (wellFormed : action.WellFormed) (repeated : action.repeats ≠ .none) :
    (∀ fuel now later value, action.isDue now = true → action.nextAction localtime fuel now = some (later, value) →
      (action.OnTime localtime now ↔ now < later.time ∧
          ∀ time, later.time < time → later.hasEnded time = false → later.isDue time = true)) ∧
    (∀ times : Nat, action.endType = .times → action.endValue = times → action.Awaits →
      ∀ count later, Executions localtime action count later →
        count ≤ times ∧ (count = times → ∀ time, later.isDue time = false) ∧
          (count < times → ∀ time, later.time < time → later.isDue time = true ∧
            ∃ fuel, (later.nextAction localtime fuel time).isSome)) := by
  constructor
  · intro fuel now later value due stepped
    rw [onTime_iff wellFormed repeated due stepped]
    obtain ⟨-, -, -, -, -, isDone, -⟩ :=
      nextAction_moved wellFormed repeated (isDue_iff.mp due).1 stepped
    constructor
    · intro after
      exact ⟨after, fun time isLater => isDue_of_later (by omega) isLater⟩
    · intro again
      exact again.1
  · intro times isTimes isValue awaits count later executions
    have remaining := executions.remaining wellFormed repeated isTimes (by omega) awaits
    have left := remaining.left
    have enough := remaining.enough
    refine ⟨by omega, fun all time => ?_, fun more time isLater => ⟨?_, ?_⟩⟩
    · have ended : later.hasEnded time = true := by
        simp only [hasEnded, remaining.times, decide_eq_true_eq]
        omega
      simp [isDue, ended]
    · refine isDue_iff.mpr ⟨?_, remaining.awaits, isLater⟩
      simp only [hasEnded, remaining.times, decide_eq_false_iff_not]
      omega
    · exact nextAction_isSome remaining.wellFormed localtime time

def twiceOnSunday : ScheduledAction :=
  { type := .vm, action := "reboot", time := 1000, repeats := .weekly, days := "0",
    endType := .times, endValue := 2 }

theorem twiceOnSunday_wellFormed : twiceOnSunday.WellFormed :=
  (daysInRange_iff (by decide)).1 (by decide)

theorem recurring_action_due_again_sunday : ∃ first second,
    Executions thursday twiceOnSunday 1 first ∧ Executions thursday twiceOnSunday 2 second ∧
      (2000 < first.time ∧ ∀ time, first.time < time → first.isDue time = true) ∧
      ∀ time, second.isDue time = false := by
  have repeated : twiceOnSunday.repeats ≠ .none := by decide
  have due : twiceOnSunday.isDue 2000 = true := by decide
  have ran : ((twiceOnSunday.nextAction thursday 0 2000).bind fun first =>
      (first.1.nextAction thursday 0 300000).map fun second => (first.1.time, second.1.time)) = some (260200, 519400) := by
    decide
  obtain ⟨⟨first, value⟩, stepped, ran⟩ := Option.bind_eq_some_iff.mp ran
  obtain ⟨⟨second, value'⟩, stepped', same⟩ := Option.map_eq_some_iff.mp ran
  simp only [Prod.mk.injEq] at same
  obtain ⟨isTime, isTime'⟩ := same
  obtain ⟨step, times⟩ := @recurring_action_due_again _ thursday twiceOnSunday_wellFormed repeated
  have times := times 2 rfl rfl fun completed => absurd completed.1 (by decide)
  have onTime : twiceOnSunday.OnTime thursday 2000 := by
    refine (onTime_iff twiceOnSunday_wellFormed repeated due stepped).mpr ?_
    omega
  have executions : Executions thursday twiceOnSunday 1 first := .execute .start due onTime stepped
  have again := (times 1 first executions).2.2 (by decide)
  have remaining := executions.remaining twiceOnSunday_wellFormed repeated rfl (by decide)
    fun completed => absurd completed.1 (by decide)
  have dueAgain : first.isDue 300000 = true := (again 300000 (by omega)).1
  have onTime' : first.OnTime thursday 300000 := by
    refine (onTime_iff remaining.wellFormed remaining.repeated dueAgain stepped').mpr ?_
    omega
  have executions' : Executions thursday twiceOnSunday 2 second := .execute executions dueAgain onTime' stepped'
  exact ⟨first, second, executions, executions', ⟨((step 0 2000 first _ due stepped).mp onTime).1,
    fun time after => (again time after).1⟩, (times 2 second executions').2.1 rfl⟩

/-- An action of every hour that is executed an hour late has its next time at once, and is
never due again. -/
theorem recurring_action_dies : ∃ action later : ScheduledAction, action.WellFormed ∧ action.repeats ≠ .none ∧
      action.hasEnded 4600 = false ∧ action.isDue 4600 = true ∧
      action.nextAction thursday 1 4600 = some (later, 4600) ∧
      ¬4600 < later.time ∧ ∀ time, later.isDue time = false := by
  let hourly : ScheduledAction := { type := .vm, action := "reboot", time := 1000, repeats := .hourly, days := "1" }
  have ran : (hourly.nextAction thursday 1 4600).map (fun next => (next.1.time, next.1.done, next.2)) =
      some (4600, 4600, 4600) := by
    decide
  obtain ⟨⟨later, value⟩, stepped, same⟩ := Option.map_eq_some_iff.mp ran
  simp only [Prod.mk.injEq] at same
  obtain ⟨isTime, isDone, rfl⟩ := same
  have wellFormed : hourly.WellFormed := (daysInRange_iff (by decide)).mp (by decide)
  refine ⟨hourly, later, wellFormed, by decide, by decide, by decide, stepped, by omega, ?_⟩
  intro time
  simp [isDue, isTime, isDone]

end ScheduledAction

end OpenNebula.Sam
