import Mathlib.Tactic.Ring
import OpenNebula.Sam.ScheduledAction

namespace OpenNebula.Sam

open Common
open Library

/-! # Repeated actions

Creations and updates keep `DAYS` in the range of `REPEAT`, unless an update changes the one
and leaves the other out.  An action by hours whose step is not positive never comes to its
next time.
-/

namespace ScheduledAction

variable {action later : ScheduledAction} {attr : VectorAttribute} {origin : Int}

def Repeat.Allows : Repeat → Int → Prop
  | .none, _ => True
  | .weekly, day => 0 ≤ day ∧ day ≤ 6
  | .monthly, day => 1 ≤ day ∧ day ≤ 31
  | .yearly, day => 0 ≤ day ∧ day ≤ 365
  | .hourly, hours => 1 ≤ hours ∧ hours ≤ 167

/-- `DAYS` is in the range of `REPEAT`: a single number of hours, or days of the period. -/
structure WellFormed (action : ScheduledAction) : Prop where
  nonempty : action.repeats ≠ .none → action.daysSet ≠ []
  allowed : ∀ day ∈ action.daysSet, Repeat.Allows action.repeats day
  single : action.repeats = .hourly → ∃ hours, ∀ other ∈ action.daysSet, other = hours

theorem dedup_length_one {list : List Int} {element : Int} (member : element ∈ list) :
    list.dedup.length = 1 ↔ ∀ other ∈ list, other = element := by
  have kept : element ∈ list.dedup := List.mem_dedup.2 member
  constructor
  · intro single other isOther
    obtain ⟨only, isOnly⟩ := List.length_eq_one_iff.1 single
    rw [isOnly] at kept
    have found : other ∈ list.dedup := List.mem_dedup.2 isOther
    rw [isOnly] at found
    exact (List.mem_singleton.1 found).trans (List.mem_singleton.1 kept).symm
  · intro all
    have copies : list.dedup = List.replicate list.dedup.length element :=
      List.eq_replicate_of_mem fun other isOther => all other (List.mem_dedup.1 isOther)
    have once := list.nodup_dedup
    rw [copies, List.nodup_replicate] at once
    have nonempty := List.length_pos_of_mem kept
    omega

theorem bounds_allow {repeats : Repeat} {first last day : Int} {error : String}
    (isBounds : Repeat.bounds repeats = some (first, last, error)) :
    Repeat.Allows repeats day ↔ first ≤ day ∧ day < last := by
  cases repeats with
  | none => contradiction
  | _ =>
    cases isBounds
    simp only [Repeat.Allows]
    omega

theorem daysInRange_iff (repeated : action.repeats ≠ .none) : action.daysInRange = .ok () ↔ action.WellFormed := by
  obtain ⟨⟨first, last, error⟩, isBounds⟩ : ∃ bounds, Repeat.bounds action.repeats = some bounds := by
    cases isRepeat : action.repeats with
    | none => contradiction
    | _ => exact ⟨_, rfl⟩
  simp only [daysInRange, isBounds]
  cases isLeast : action.daysSet.min? with
  | none =>
    have empty := List.min?_eq_none_iff.1 isLeast
    refine ⟨(fun accepted => nomatch accepted), fun wellFormed => ?_⟩
    exact absurd empty (wellFormed.nonempty repeated)
  | some least =>
    obtain ⟨member, below⟩ := List.min?_eq_some_iff.1 isLeast
    cases isGreatest : action.daysSet.max? with
    | none =>
      rw [List.max?_eq_none_iff.1 isGreatest] at member
      cases member
    | some greatest =>
      obtain ⟨isMember, above⟩ := List.max?_eq_some_iff.1 isGreatest
      have allowed : (∀ day ∈ action.daysSet, Repeat.Allows action.repeats day) ↔
          first ≤ least ∧ greatest < last := by
        simp only [bounds_allow isBounds]
        constructor
        · intro all
          exact ⟨(all least member).1, (all greatest isMember).2⟩
        · intro within day isDay
          exact ⟨within.1.trans (below day isDay), (above day isDay).trans_lt within.2⟩
      dsimp only
      split
      · rename_i refused
        refine ⟨(fun accepted => nomatch accepted), fun wellFormed => ?_⟩
        have within := allowed.1 wellFormed.allowed
        rcases refused with low | high | ⟨hourly, many⟩
        · omega
        · omega
        · obtain ⟨hours, all⟩ := wellFormed.single hourly
          refine absurd ((dedup_length_one member).2 fun other isOther => ?_) many
          exact (all other isOther).trans (all least member).symm
      · rename_i inRange
        simp only [not_or, not_and, not_not, not_lt, not_le] at inRange
        obtain ⟨low, high, single⟩ := inRange
        refine ⟨fun _ => ⟨fun _ => List.ne_nil_of_mem member, allowed.2 ⟨low, high⟩, ?_⟩, fun _ => rfl⟩
        intro hourly
        exact ⟨least, (dedup_length_one member).1 (single hourly)⟩

def newRepeat (action : ScheduledAction) (attr : VectorAttribute) : Repeat :=
  match attr.intValue "REPEAT" 0 with
  | (_, false) => action.repeats
  | (value, true) => (Repeat.ofInt value).getD action.repeats

def KeepsDays (action : ScheduledAction) (attr : VectorAttribute) : Prop :=
  attr.lookup "DAYS" = none → action.newRepeat attr ≠ .none →
    ({ action with repeats := action.newRepeat attr } : ScheduledAction).daysInRange = .ok ()

theorem parseAction_frame (parsed : action.parseAction attr = .ok later) :
    later.repeats = action.repeats ∧ later.days = action.days := by
  have named : ∀ chosen : ScheduledAction,
      chosen.repeats = action.repeats ∧ chosen.days = action.days →
      (if chosen.action = "" then throw "No ACTION in template for Scheduled Action."
        else pure chosen : Except String ScheduledAction) = .ok later →
      later.repeats = action.repeats ∧ later.days = action.days := by
    intro chosen same accepted
    split at accepted
    · contradiction
    · cases accepted
      exact same
  simp only [parseAction] at parsed
  split at parsed
  · exact named { action with action := "backup" } ⟨rfl, rfl⟩ parsed
  · split at parsed
    · exact named action ⟨rfl, rfl⟩ parsed
    · split at parsed
      · exact named { action with action := attr.vectorValue "ACTION" } ⟨rfl, rfl⟩ parsed
      · contradiction
  · contradiction

theorem parseTime_frame (parsed : action.parseTime attr origin = .ok later) :
    later.repeats = action.repeats ∧ later.days = action.days := by
  simp only [parseTime] at parsed
  generalize (if attr.vectorValue "TIME" = "" then action.time
    else action.timeOf (attr.vectorValue "TIME") origin) = time at parsed
  split at parsed
  · contradiction
  · cases parsed
    exact ⟨rfl, rfl⟩

theorem parseWarning_frame (parsed : action.parseWarning attr origin = .ok later) :
    later.repeats = action.repeats ∧ later.days = action.days := by
  simp only [parseWarning] at parsed
  generalize (if attr.vectorValue "WARNING" = "" then action.warning
    else action.timeOf (attr.vectorValue "WARNING") origin) = warning at parsed
  split at parsed
  · contradiction
  · cases parsed
    exact ⟨rfl, rfl⟩

theorem parseRepeat_eq (parsed : action.parseRepeat attr = .ok later) :
    later = { action with repeats := action.newRepeat attr } := by
  simp only [parseRepeat] at parsed
  simp only [newRepeat]
  cases given : attr.intValue "REPEAT" 0 with
  | mk value found =>
    simp only [given] at parsed
    cases found with
    | false =>
      cases parsed
      rfl
    | true =>
      cases isRepeat : Repeat.ofInt value with
      | none =>
        simp only [isRepeat] at parsed
        contradiction
      | some repeats =>
        simp only [isRepeat] at parsed
        cases parsed
        simp only [isRepeat, Option.getD_some]

theorem parseDays_cases (parsed : action.parseDays attr = .ok later) : later.repeats = action.repeats ∧
      ((action.repeats = .none ∧ later.days = "") ∨ (action.repeats ≠ .none ∧ ∃ days, attr.lookup "DAYS" = some days ∧
          later.daysInRange = .ok ()) ∨ (action.repeats ≠ .none ∧ attr.lookup "DAYS" = none ∧ later = action)) := by
  simp only [parseDays] at parsed
  split at parsed
  · rename_i once
    cases parsed
    exact ⟨rfl, .inl ⟨once, rfl⟩⟩
  · rename_i repeated
    cases given : attr.lookup "DAYS" with
    | some days =>
      rw [given] at parsed
      cases inRange : ({ action with days } : ScheduledAction).daysInRange with
      | error reason =>
        simp only [inRange] at parsed
        contradiction
      | ok _ =>
        simp only [inRange] at parsed
        cases parsed
        exact ⟨rfl, .inr (.inl ⟨repeated, days, rfl, inRange⟩)⟩
    | none =>
      rw [given] at parsed
      dsimp only at parsed
      split at parsed
      · contradiction
      · cases parsed
        exact ⟨rfl, .inr (.inr ⟨repeated, rfl, rfl⟩)⟩

theorem parseEndType_frame (parsed : action.parseEndType attr = .ok later) :
    later.repeats = action.repeats ∧ later.days = action.days := by
  simp only [parseEndType] at parsed
  split at parsed
  · cases parsed
    exact ⟨rfl, rfl⟩
  · split at parsed
    · contradiction
    · cases parsed
      exact ⟨rfl, rfl⟩

theorem parseEndValue_frame (parsed : action.parseEndValue attr = .ok later) :
    later.repeats = action.repeats ∧ later.days = action.days := by
  simp only [parseEndValue] at parsed
  split at parsed
  · cases parsed
    exact ⟨rfl, rfl⟩
  · split at parsed
    · rename_i endValue _
      cases inRange : ({ action with endValue } : ScheduledAction).endsInRange with
      | error reason =>
        simp only [inRange] at parsed
        contradiction
      | ok _ =>
        simp only [inRange] at parsed
        cases parsed
        exact ⟨rfl, rfl⟩
    · cases parsed
      exact ⟨rfl, rfl⟩

theorem bind_ok {α β : Type} {first : Except String α} {next : α → Except String β} {result : β}
    (done : first >>= next = .ok result) : ∃ middle, first = .ok middle ∧ next middle = .ok result := by
  cases first with
  | error reason => contradiction
  | ok middle => exact ⟨middle, rfl, done⟩

theorem WellFormed.congr (wellFormed : action.WellFormed) (sameRepeat : later.repeats = action.repeats)
    (sameDays : later.days = action.days) : later.WellFormed := by
  have sameSet : later.daysSet = action.daysSet := by simp only [daysSet, sameDays]
  refine ⟨?_, ?_, ?_⟩
  · rw [sameRepeat, sameSet]
    exact wellFormed.nonempty
  · rw [sameRepeat, sameSet]
    exact wellFormed.allowed
  · rw [sameRepeat, sameSet]
    exact wellFormed.single

theorem wellFormed_of_once (once : action.repeats = .none) : action.WellFormed := by
  refine ⟨fun repeated => absurd once repeated, fun day _ => ?_, fun hourly => ?_⟩
  · rw [once]
    exact trivial
  · rw [once] at hourly
    contradiction

theorem parse_cases (parsed : action.parse attr origin = .ok later) : later.repeats = action.newRepeat attr ∧
      ((action.newRepeat attr = .none ∧ later.days = "") ∨
        (∃ days, attr.lookup "DAYS" = some days ∧ later.WellFormed) ∨
        (attr.lookup "DAYS" = none ∧ later.days = action.days)) := by
  obtain ⟨named, isNamed, parsed⟩ := bind_ok parsed
  obtain ⟨timed, isTimed, parsed⟩ := bind_ok parsed
  obtain ⟨warned, isWarned, parsed⟩ := bind_ok parsed
  obtain ⟨repeated, isRepeated, parsed⟩ := bind_ok parsed
  obtain ⟨checked, isChecked, parsed⟩ := bind_ok parsed
  obtain ⟨ending, isEnding, parsed⟩ := bind_ok parsed
  obtain ⟨valued, isValued, parsed⟩ := bind_ok parsed
  cases parsed
  have isNew : repeated.repeats = action.newRepeat attr := by
    rw [parseRepeat_eq isRepeated]
    simp only [newRepeat, (parseWarning_frame isWarned).1, (parseTime_frame isTimed).1, (parseAction_frame isNamed).1]
  have sameDays : repeated.days = action.days := by
    rw [parseRepeat_eq isRepeated]
    simp only [(parseWarning_frame isWarned).2, (parseTime_frame isTimed).2, (parseAction_frame isNamed).2]
  have keptRepeat : valued.repeats = checked.repeats :=
    (parseEndValue_frame isValued).1.trans (parseEndType_frame isEnding).1
  have keptDays : valued.days = checked.days := (parseEndValue_frame isValued).2.trans (parseEndType_frame isEnding).2
  obtain ⟨sameRepeat, ⟨once, cleared⟩ | ⟨isRepeat, days, given, inRange⟩ | ⟨-, missing, same⟩⟩ :=
    parseDays_cases isChecked
  · exact ⟨keptRepeat.trans (sameRepeat.trans isNew), .inl ⟨isNew.symm.trans once, keptDays.trans cleared⟩⟩
  · have wellFormed := (daysInRange_iff (by rw [sameRepeat]; exact isRepeat)).1 inRange
    exact ⟨keptRepeat.trans (sameRepeat.trans isNew), .inr (.inl ⟨days, given, wellFormed.congr keptRepeat keptDays⟩)⟩
  · refine ⟨keptRepeat.trans (sameRepeat.trans isNew), .inr (.inr ⟨missing, ?_⟩)⟩
    rw [same] at keptDays
    exact keptDays.trans sameDays

theorem wellFormed_parse (parsed : action.parse attr origin = .ok later) :
    later.WellFormed ↔ action.KeepsDays attr := by
  obtain ⟨isNew, ⟨once, -⟩ | ⟨days, given, wellFormed⟩ | ⟨missing, sameDays⟩⟩ := parse_cases parsed
  · refine ⟨fun _ _ repeated => absurd once repeated, fun _ => wellFormed_of_once ?_⟩
    exact isNew.trans once
  · refine ⟨fun _ missing => ?_, fun _ => wellFormed⟩
    rw [given] at missing
    contradiction
  · constructor
    · intro wellFormed _ repeated
      exact (daysInRange_iff repeated).2 (wellFormed.congr isNew.symm sameDays.symm)
    · intro keeps
      by_cases once : action.newRepeat attr = .none
      · exact wellFormed_of_once (isNew.trans once)
      · exact ((daysInRange_iff once).1 (keeps missing once)).congr isNew sameDays

theorem catchUp_isSome {step : Int} (now : Int) (positive : 0 < step) (time : Int) :
    ∃ fuel, (catchUp step now fuel time).isSome := by
  have enough : ∀ (fuel : Nat) time, now - time ≤ fuel → (catchUp step now (fuel + 1) time).isSome := by
    intro fuel
    induction fuel with
    | zero =>
      intro time near
      rw [catchUp, if_neg (by omega)]
      rfl
    | succ fuel ih =>
      intro time near
      rw [catchUp]
      split
      · exact ih (time + step) (by omega)
      · rfl
  exact ⟨(now - time).toNat + 1, enough (now - time).toNat time (by omega)⟩

theorem catchUp_stuck {step now time : Int} (still : step ≤ 0) (past : time < now) (fuel : Nat) :
    catchUp step now fuel time = none := by
  induction fuel generalizing time with
  | zero => rfl
  | succ fuel ih =>
    rw [catchUp, if_pos (by omega)]
    exact ih (by omega)

theorem nextAction_isSome (wellFormed : action.WellFormed) (localtime : Int → CalendarTime)
    (now : Int) : ∃ fuel, (action.nextAction localtime fuel now).isSome := by
  by_cases hourly : action.repeats = .hourly
  · cases isLeast : action.daysSet.min? with
    | none => exact ⟨0, by simp [nextAction, isLeast, hourly]⟩
    | some least =>
      have allowed := wellFormed.allowed least (List.min?_mem isLeast)
      rw [hourly] at allowed
      have positive : 0 < least * 3600 := by
        simp only [Repeat.Allows] at allowed
        omega
      obtain ⟨fuel, ends⟩ := catchUp_isSome now positive action.time
      refine ⟨fuel, ?_⟩
      simp only [nextAction]
      split
      · rfl
      · split
        · rename_i first _ isFirst _
          cases Option.some.inj (isLeast.symm.trans isFirst)
          split
          · rfl
          · rw [Option.isSome_map]
            exact ends
        · rfl
  · refine ⟨0, ?_⟩
    simp only [nextAction]
    split
    · rfl
    · split
      · split
        · rfl
        · rfl
      · rfl

variable {localtime : Int → CalendarTime}

theorem nextAction_frame {fuel : Nat} {now value : Int}
    (stepped : action.nextAction localtime fuel now = some (later, value)) :
    later.repeats = action.repeats ∧ later.days = action.days := by
  simp only [nextAction] at stepped
  split at stepped
  · cases stepped
    exact ⟨rfl, rfl⟩
  · split at stepped
    · split at stepped
      · cases stepped
        exact ⟨rfl, rfl⟩
      · split at stepped
        · obtain ⟨time, -, same⟩ := Option.map_eq_some_iff.1 stepped
          cases same
          exact ⟨rfl, rfl⟩
        · cases stepped
          exact ⟨rfl, rfl⟩
    · cases stepped
      exact ⟨rfl, rfl⟩

inductive Event where
  /-- A creation or an update; the action that a failed call has changed is not stored. -/
  | parse (attr : VectorAttribute) (origin : Int)
  | next (fuel : Nat) (now : Int)

def step (localtime : Int → CalendarTime) (action : ScheduledAction) : Event → Option ScheduledAction
  | .parse attr origin => (action.parse attr origin).toOption
  | .next fuel now => (action.nextAction localtime fuel now).map Prod.fst

def lifeCycle (localtime : Int → CalendarTime) : System ScheduledAction Event where
  initial := fun action => ∃ type, action = { type }
  step := step localtime

def KeepsRange (action : ScheduledAction) : Event → Prop
  | .parse attr _ => action.KeepsDays attr
  | .next _ _ => True

theorem reachable_wellFormed (reached : (lifeCycle localtime).Reachable KeepsRange action) : action.WellFormed := by
  refine reached.invariant ?_ ?_
  · intro start isInitial
    obtain ⟨type, rfl⟩ := isInitial
    exact wellFormed_of_once rfl
  · intro before event after wellFormed keeps stepped
    cases event with
    | parse attr origin =>
      cases parsed : before.parse attr origin with
      | error reason =>
        simp only [lifeCycle, step, parsed] at stepped
        contradiction
      | ok stored =>
        simp only [lifeCycle, step, parsed] at stepped
        cases stepped
        exact (wellFormed_parse parsed).2 keeps
    | next fuel now =>
      obtain ⟨⟨later, value⟩, isNext, rfl⟩ := Option.map_eq_some_iff.1 stepped
      obtain ⟨sameRepeat, sameDays⟩ := nextAction_frame isNext
      exact wellFormed.congr sameRepeat sameDays

/-- While every update that leaves `DAYS` out keeps them in range, the days stay in the range of
`REPEAT` and `next_action` comes to an end at every time. -/
theorem next_action_terminates (reached : (lifeCycle localtime).Reachable KeepsRange action) :
    action.WellFormed ∧ ∀ now, ∃ fuel, (action.nextAction localtime fuel now).isSome :=
  ⟨reachable_wellFormed reached, nextAction_isSome (reachable_wellFormed reached) localtime⟩

instance (action : ScheduledAction) (event : Event) : Decidable (action.KeepsRange event) := by
  unfold KeepsRange KeepsDays
  split <;> infer_instance

def thursday : Int → CalendarTime := fun _ => ⟨1, 0, 70, 4, 0⟩

/-- Every Sunday -/
def weeklyAttr : VectorAttribute :=
  ((((∅ : VectorAttribute).replace "ACTION" "reboot").replace "TIME" "1000").replace "REPEAT" "0").replace "DAYS" "0"

/-- Every so many hours -/
def hourlyAttr : VectorAttribute := (∅ : VectorAttribute).replace "REPEAT" "3"

/-- Every Sunday, then changed to the first day of every year without new days -/
theorem next_action_terminates_weekly : ∃ action : ScheduledAction, (lifeCycle thursday).Reachable KeepsRange action ∧
      action.days = "0" ∧ action.repeats = .yearly ∧ action.time = 31537000 ∧ action.WellFormed ∧
      ∀ now, ∃ fuel, (action.nextAction thursday fuel now).isSome := by
  have ran : ((lifeCycle thursday).exec KeepsRange { type := .vm }
      [.parse weeklyAttr 0, .parse ((∅ : VectorAttribute).replace "REPEAT" "2") 0, .next 1 2000]).map
        (fun action => (action.days, action.repeats, action.time)) = some ("0", .yearly, 31537000) := by
    decide
  obtain ⟨action, isRun, isAction⟩ := Option.map_eq_some_iff.mp ran
  simp only [Prod.mk.injEq] at isAction
  have created : (lifeCycle thursday).initial { type := .vm } := ⟨.vm, rfl⟩
  have reached := System.reachable_of_exec created isRun
  exact ⟨action, reached, isAction.1, isAction.2.1, isAction.2.2, next_action_terminates reached⟩

/-- An action of every Sunday that is changed to every 0 hours -/
theorem next_action_diverges : ∃ action : ScheduledAction, (lifeCycle thursday).Reachable System.anyStep action ∧
        ¬action.WellFormed ∧ ∀ now, 1000 < now → ∀ fuel, action.nextAction thursday fuel now = none := by
  have ran : ((lifeCycle thursday).exec System.anyStep { type := .vm } [.parse weeklyAttr 0, .parse hourlyAttr 0]).map
        (fun action => (action.days, action.repeats, action.time, action.endType)) =
        some ("0", .hourly, 1000, .none) := by
    decide
  obtain ⟨action, isRun, isAction⟩ := Option.map_eq_some_iff.mp ran
  simp only [Prod.mk.injEq] at isAction
  obtain ⟨isDays, isHourly, isTime, isEnd⟩ := isAction
  have isSet : action.daysSet = [0] := by
    rw [daysSet, isDays]
    decide
  have created : (lifeCycle thursday).initial { type := .vm } := ⟨.vm, rfl⟩
  refine ⟨action, System.reachable_of_exec created isRun, ?_, ?_⟩
  · intro wellFormed
    have allowed := wellFormed.allowed 0 (by simp [isSet])
    rw [isHourly] at allowed
    exact absurd allowed.1 (by decide)
  · intro now past fuel
    simp [nextAction, isHourly, isSet, hasEnded, isEnd, catchUp_stuck, isTime, past]

end ScheduledAction

end OpenNebula.Sam
