import Mathlib.Data.List.MinMax
import OpenNebula.Common.VectorAttribute
import OpenNebula.Library.Transition

namespace OpenNebula.Sam

open Common
open Library

/-! # Scheduled actions (`ScheduledAction`)

Times are seconds since the epoch.  The calendar of a time zone, `localtime_r`, is a
parameter.
-/

/-- The objects that can have scheduled actions, and the others -/
inductive ObjectType where
  | vm | backupJob | other
deriving DecidableEq

inductive Repeat where
  | none | weekly | monthly | yearly | hourly
deriving DecidableEq

def Repeat.ofInt (value : Int) : Option Repeat :=
  [(-1, Repeat.none), (0, .weekly), (1, .monthly), (2, .yearly), (3, .hourly)].lookup value

inductive EndOn where
  | none | never | times | date
deriving DecidableEq

def EndOn.ofInt (value : Int) : Option EndOn :=
  [(-1, EndOn.none), (0, .never), (1, .times), (2, .date)].lookup value

/-- The fields of `struct tm` that are read -/
structure CalendarTime where
  monthDay : Int
  month : Int
  year : Int
  weekDay : Int
  yearDay : Int
deriving DecidableEq

structure ScheduledAction where
  type : ObjectType
  action : String := ""
  args : String := ""
  time : Int := -1
  repeats : Repeat := .none
  days : String := ""
  endType : EndOn := .none
  endValue : Int := -1
  done : Int := -1
  warning : Int := 0

namespace ScheduledAction

variable (action : ScheduledAction)

def vmActions : List String :=
  ["terminate", "terminate-hard", "undeploy", "undeploy-hard", "hold", "release", "stop",
    "suspend", "resume", "reboot", "reboot-hard", "poweroff", "poweroff-hard",
    "snapshot-create", "snapshot-revert", "snapshot-delete", "disk-snapshot-create",
    "disk-snapshot-revert", "disk-snapshot-delete", "backup"]

section

variable (attr : VectorAttribute)

def parseAction : Except String ScheduledAction := do
  let parsed ← match action.type with
    | .backupJob => pure { action with action := "backup" }
    | .vm =>
      let name := attr.vectorValue "ACTION"
      if name = "" then pure action
      else if name ∈ vmActions then pure { action with action := name }
      else throw (name ++ " is not supported.")
    | .other => throw "Not supported object type"
  if parsed.action = "" then throw "No ACTION in template for Scheduled Action."
  else pure parsed

def timeOf (text : String) (origin : Int) : Int :=
  if action.type = .backupJob ∧ text.toList.head? = some '+' then -1
  else
    let relative := text.toList.head? = some '+'
    let digits := if relative then text.toList.tail else text.toList
    let reading := Stream.readLong ⟨digits, false⟩ 10 0
    if reading.2.failed || !reading.2.rest.isEmpty then -1
    else reading.1 + (if relative then origin else 0)

def parseTime (origin : Int) : Except String ScheduledAction :=
  let text := attr.vectorValue "TIME"
  let time := if text = "" then action.time else action.timeOf text origin
  if time = -1 then throw ("Unable to parse the time value or value is empty: " ++ text)
  else pure { action with time }

def parseWarning (origin : Int) : Except String ScheduledAction :=
  let text := (attr.lookup "WARNING").getD (attr.vectorValue "TIME")
  let warning :=
    if attr.vectorValue "WARNING" = "" then action.warning
    else action.timeOf (attr.vectorValue "WARNING") origin
  if warning = -1 then throw ("Unable to parse the warning value: " ++ text)
  else pure { action with warning }

def daysSet : List Int := splitUnique .int ',' action.days

/-- The days from the first to the last one allowed, with the error -/
def Repeat.bounds : Repeat → Option (Int × Int × String)
  | .none => Option.none
  | .weekly => some (0, 7, "Days in a week have to be in [0,6] range")
  | .monthly => some (1, 32, "Days in a month have to be in [1,31] range")
  | .yearly => some (0, 366, "Days in a year have to be in [0,365] range")
  | .hourly => some (1, 168, "Hours have to be in [0,168] range")

def daysInRange : Except String Unit :=
  match Repeat.bounds action.repeats with
  | Option.none => pure ()
  | some (first, last, error) =>
    match action.daysSet.min?, action.daysSet.max? with
    | some least, some greatest =>
      if least < first ∨ last ≤ greatest ∨
          (action.repeats = .hourly ∧ action.daysSet.dedup.length ≠ 1) then throw error
      else pure ()
    | _, _ => throw "Scheduled Action repeat set, but DAYS are empty"

def parseRepeat : Except String ScheduledAction :=
  match attr.intValue "REPEAT" 0 with
  | (_, false) => pure action
  | (value, true) =>
    match Repeat.ofInt value with
    | Option.none => throw ("Wrong REPEAT value: " ++ toString value)
    | some repeats => pure { action with repeats }

def parseDays : Except String ScheduledAction :=
  if action.repeats = .none then pure { action with days := "" }
  else
    match attr.lookup "DAYS" with
    | some days => do
        let parsed := { action with days }
        parsed.daysInRange
        pure parsed
    | Option.none =>
      if action.days = "" then throw "Repeat set, but DAYS are empty" else pure action

/-- `ends_in_range`.  `mktime` takes back what `localtime_r` made of the date, and -1 stands
for an error. -/
def endsInRange : Except String Unit :=
  if action.endType = .times ∧ action.endValue < 0 then
    throw "Error parsing END_VALUE, times has to be greater or equal to 0"
  else if action.endType = .date ∧ action.endValue = -1 then
    throw "Error parsing END_VALUE, wrong format for date."
  else pure ()

def parseEndType : Except String ScheduledAction :=
  match attr.intValue "END_TYPE" 0 with
  | (_, false) => pure action
  | (value, true) =>
    match EndOn.ofInt value with
    | Option.none => throw ("Wrong END_TYPE value: " ++ toString value)
    | some endType => pure { action with endType }

def parseEndValue : Except String ScheduledAction :=
  if action.endType = .none ∨ action.endType = .never then pure { action with endValue := -1 }
  else
    match attr.timeValue "END_VALUE" action.endValue with
    | (endValue, true) => do
        let parsed := { action with endValue }
        parsed.endsInRange
        pure parsed
    -- an END_VALUE that is missing sets the error and does not fail
    | (endValue, false) => pure { action with endValue }

def parseArgs : ScheduledAction :=
  { action with args := (attr.lookup "ARGS").getD action.args }

def parse (origin : Int) : Except String ScheduledAction := do
  let action ← action.parseAction attr
  let action ← action.parseTime attr origin
  let action ← action.parseWarning attr origin
  let action ← action.parseRepeat attr
  let action ← action.parseDays attr
  let action ← action.parseEndType attr
  let action ← action.parseEndValue attr
  pure (action.parseArgs attr)

end

def hasEnded (now : Int) : Bool :=
  match action.endType with
  | .none | .never => false
  | .times => action.endValue ≤ 0
  | .date => action.endValue < now

def isDue (now : Int) : Bool :=
  !action.hasEnded now && !(0 < action.done && action.time ≤ action.done) && action.time < now

def daysInPeriod (month year : Int) : Int :=
  let leap := (year + 1900) % 4 = 0 ∧ ((year + 1900) % 100 ≠ 0 ∨ (year + 1900) % 400 = 0)
  match action.repeats with
  | .weekly => 7
  | .monthly =>
    (([(0, 31), (1, 28), (2, 31), (3, 30), (4, 31), (5, 30), (6, 31), (7, 31), (8, 30),
      (9, 31), (10, 30), (11, 31)].lookup month).getD 0) + (if leap ∧ month = 1 then 1 else 0)
  | .yearly => 365 + (if leap then 1 else 0)
  | .hourly | .none => 0

def catchUp (step now : Int) : Nat → Int → Option Int
  | 0, _ => Option.none
  | fuel + 1, time =>
    if time + step < now then catchUp step now fuel (time + step) else some (time + step)

def currentDay (today : CalendarTime) : Int :=
  match action.repeats with
  | .weekly => today.weekDay
  | .monthly => today.monthDay
  | .yearly => today.yearDay
  | .hourly | .none => 0

def delta (today : CalendarTime) (least greatest : Int) : Int :=
  let day := action.currentDay today
  if day < least then least - day
  else if greatest ≤ day then action.daysInPeriod today.month today.year - day + least
  else ((action.daysSet.filter fun other => day < other).min?).getD greatest - day

def counted (now : Int) : ScheduledAction :=
  { action with
    done := now
    endValue := if action.endType = .times then action.endValue - 1 else action.endValue }

def nextAction (localtime : Int → CalendarTime) (fuel : Nat) (now : Int) : Option (ScheduledAction × Int) :=
  if action.repeats = .none then some ({ action with done := now }, -1)
  else
    match action.daysSet.min?, action.daysSet.max? with
    | some least, some greatest =>
      if action.hasEnded now then some ({ action with done := now }, -1)
      else if action.repeats = .hourly then
        (catchUp (least * 3600) now fuel action.time).map fun time =>
          ({ action.counted now with time }, time)
      else
        let time := action.time + action.delta (localtime now) least greatest * 24 * 3600
        some ({ action.counted now with time, warning := 0 }, time)
    | _, _ => some ({ action with done := now }, -1)

end ScheduledAction

end OpenNebula.Sam
