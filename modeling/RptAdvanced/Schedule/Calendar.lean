import Mathlib.Tactic.Common

/-!
# Civil time and triggers (`rust/core/src/schedule.rs`)

Calendar arithmetic belongs to a shared library that the program reaches through a table of
functions. `ScheduleProvider` is that table: which minute a trigger is due in, and where a window
starts and ends, are its answers, and nothing is assumed about them. A window is a handle of the
provider; two windows are equal when the provider's `window_equal` says so.
-/

namespace RptAdvanced.Schedule

/-- Sunday-zero local weekdays. -/
inductive Weekday
  | sunday
  | monday
  | tuesday
  | wednesday
  | thursday
  | friday
  | saturday
  deriving DecidableEq, Repr

/-- One validated local civil minute. -/
structure CivilTime where
  year : Nat
  month : Nat
  day : Nat
  weekday : Weekday
  hour : Nat
  minute : Nat
  deriving DecidableEq, Repr

/-- A zero-time local civil trigger. -/
inductive ScheduledEvent
  | daily (hour minute : Nat)
  | weekly (weekday : Weekday) (hour minute : Nat)
  | once (year month day hour minute : Nat)
  deriving DecidableEq, Repr

/-- A bounded same-date window owned by the provider. -/
structure ScheduledWindow where
  handle : Nat
  deriving DecidableEq, Repr

/-- `EventTrigger`: released triggers and optional weekdays. -/
structure EventTrigger where
  events : List ScheduledEvent
  days : Option ScheduledWindow
  deriving DecidableEq, Repr

/-- The clock-aligned triggers of `every <step> minutes` or `every <step> hours` in
`EventTrigger::parse`; steps restart at each hour or day. -/
def steppedEvents (minutes : Bool) (step : Nat) : Option (List ScheduledEvent) :=
  if step = 0 ∨ (if minutes then 60 else 24) < step then none
  else if minutes then
    some ((List.range 24).flatMap fun hour =>
      ((List.range 60).filter (· % step = 0)).map fun minute => .daily hour minute)
  else some (((List.range 24).filter (· % step = 0)).map fun hour => .daily hour 0)

/-- The functions of the shared schedule library that the runtime calls. Milliseconds are since or
until a boundary; the other number of a boundary is its date identity. -/
class ScheduleProvider where
  eventOccurrence : ScheduledEvent → CivilTime → Option Nat
  windowMatches : ScheduledWindow → CivilTime → Bool
  windowOverlaps : ScheduledWindow → ScheduledWindow → Bool
  windowElapsedAfterEnd : ScheduledWindow → CivilTime → Nat → Option Nat
  windowNextStart : ScheduledWindow → CivilTime → Nat → Option (Nat × Nat)
  windowNextEnd : ScheduledWindow → CivilTime → Nat → Option (Nat × Nat)

open ScheduleProvider

variable [ScheduleProvider]

/-- `EventTrigger::occurrence`: the civil-minute identity when any of the triggers is due. -/
def EventTrigger.occurrence (trigger : EventTrigger) (civil : CivilTime) : Option Nat :=
  if trigger.days.any fun days => !windowMatches days civil then none
  else trigger.events.findSome? fun event => eventOccurrence event civil

end RptAdvanced.Schedule
