import Mathlib.Algebra.Order.Field.Rat
import RptAdvanced.Site.Settings

/-!
# The site policies of one station

Model of the five state machines of `core/src/site`: `measurement.rs` (calibrated sensors), the
debounced inputs of `controller.rs`, `output.rs` (pulses), `alarm.rs` (trip, clear and latch) and
`fan.rs` (cooling demand). They are pure; the controller owns one state for each configured name.

Analog values are of a type `F` with the operations of `f64` the policies use, and no laws about
them: nothing that is proved depends on rounding. `decay` stands for the weight
`exp(-elapsed / constant)` of a smoothed reading. Two values are compared by equality, so that the
two zeros of `f64` are one.
-/

namespace RptAdvanced.Site

/-- The operations of `f64` the site policies use. -/
class Analog (F : Type) where
  isFinite : F → Bool
  lt : F → F → Bool
  le : F → F → Bool
  max : F → F → F
  add : F → F → F
  sub : F → F → F
  mul : F → F → F
  div : F → F → F
  zero : F
  one : F
  /-- The weight of a reading `elapsed` milliseconds old. -/
  decay : (elapsed constant : Nat) → F

/-- Exact values, with a linear weight: an instance to run the policies on. -/
instance : Analog ℚ where
  isFinite _ := true
  lt a b := a < b
  le a b := a ≤ b
  max := Max.max
  add := (· + ·)
  sub := (· - ·)
  mul := (· * ·)
  div := (· / ·)
  zero := 0
  one := 1
  decay elapsed constant := Max.max 0 (1 - elapsed / constant)

inductive SiteError where
  | unknownName
  | unavailable
  | notSafe
  | invalidValue
deriving DecidableEq, Repr

variable {F : Type} [DecidableEq F] [Analog F]

open Analog

/-! ## Sensors -/

def Calibration.apply (calibration : Calibration F) (value : F) : Option F :=
  let result := match calibration with
    | .none => value
    | .twoPoint inputLow valueLow inputHigh valueHigh =>
      add valueLow
        (mul (div (sub value inputLow) (sub inputHigh inputLow)) (sub valueHigh valueLow))
  if isFinite result then some result else Option.none

structure TimedValue (F : Type) where
  value : F
  observedAtMs : Nat

/-- `SensorState`, with its snapshot. -/
structure SensorState (F : Type) where
  settings : SensorSettings F
  current : Observation F
  smoothed : Option F
  minimum : Option (TimedValue F)
  maximum : Option (TimedValue F)

namespace SensorState

def new (settings : SensorSettings F) : SensorState F :=
  { settings, current := .missing, smoothed := none, minimum := none, maximum := none }

def reconfigure (s : SensorState F) (settings : SensorSettings F) : SensorState F :=
  if s.settings.enabled ≠ settings.enabled ∨ s.settings.endpoint ≠ settings.endpoint ∨
      s.settings.calibration ≠ settings.calibration then
    new settings
  else { s with settings }

def resetExtrema (s : SensorState F) : SensorState F :=
  { s with minimum := none, maximum := none }

/-- The value a valid reading contributes, with its time. -/
def accepted (s : SensorState F) (reading : Observation F) (now : Nat) : Option (F × Nat) :=
  match (reading.value.filter isFinite).bind s.settings.calibration.apply, reading.observedAtMs with
  | some value, some time =>
    if time ≤ now ∧ s.current.observedAtMs.all (· ≤ time) then some (value, time) else none
  | _, _ => none

/-- The filtered value after a new reading. -/
def smooth (s : SensorState F) (value : F) (time : Nat) : F :=
  match s.smoothed, s.current.observedAtMs with
  | some previous, some last =>
    if 0 < s.settings.smoothingMs then
      let weight := decay (time - last) s.settings.smoothingMs
      add (mul weight previous) (mul (sub one weight) value)
    else value
  | _, _ => value

def observe (s : SensorState F) (reading : Observation F) (now : Nat) : SensorState F :=
  if reading.quality ≠ .valid then
    { s with current := { s.current with quality := reading.quality } }
  else
    match s.accepted reading now with
    | none => { s with current := { s.current with quality := .fault } }
    | some (value, time) =>
      if s.current.observedAtMs = some time then s
      else
        let observed : TimedValue F := { value, observedAtMs := time }
        { s with
          smoothed := some (s.smooth value time)
          minimum := if s.minimum.all fun m => lt value m.value then some observed else s.minimum
          maximum := if s.maximum.all fun m => lt m.value value then some observed else s.maximum
          current := { value := some value, observedAtMs := some time, quality := .valid } }

/-- The health `SensorState::snapshot` reports: a reading ages. -/
def quality (s : SensorState F) (now : Nat) : ReadingQuality :=
  if s.current.quality = .valid ∧
      s.current.observedAtMs.any fun time => s.settings.staleAfterMs ≤ now - time then
    .stale
  else s.current.quality

end SensorState

/-! ## Inputs -/

structure InputState where
  value : Observation Bool
  lastSample : Option Nat
  pendingSince : Option Nat
deriving DecidableEq

namespace InputState

def new : InputState := { value := .missing, lastSample := none, pendingSince := none }

/-- The sample of a valid reading, with its time. -/
def accepted (s : InputState) (reading : Observation Bool) (now : Nat) : Option (Bool × Nat) :=
  match reading.value, reading.observedAtMs with
  | some value, some time =>
    if time ≤ now ∧ s.lastSample.all (· ≤ time) then some (value, time) else none
  | _, _ => none

/-- `InputState::observe`: the state after a reading, and the debounced edge. -/
def observe (s : InputState) (reading : Observation Bool) (settings : InputSettings F) (now : Nat) :
    InputState × Option Bool :=
  if reading.quality ≠ .valid then
    ({ s with value := { s.value with quality := reading.quality }, pendingSince := none }, none)
  else
    match s.accepted reading now with
    | none => ({ s with value := { s.value with quality := .fault }, pendingSince := none }, none)
    | some (value, time) =>
      if s.lastSample = some time then (s, none)
      else
        let s : InputState :=
          { s with lastSample := some time, value := { s.value with quality := .valid } }
        if s.value.value = none ∨ s.value.value = some value then
          ({ s with value := reading, pendingSince := none }, none)
        else
          -- the pending value is the opposite of the debounced one
          let since := s.pendingSince.getD time
          if time - since < settings.debounceMs then ({ s with pendingSince := some since }, none)
          else ({ s with pendingSince := none, value := reading }, some value)

end InputState

/-! ## Outputs -/

/-- `OutputState`, with its snapshot. -/
structure OutputState where
  settings : OutputSettings
  requestedOn : Bool
  fault : Bool
  pulseDeadlineMs : Option Nat
  priorOn : Bool
deriving DecidableEq

namespace OutputState

def new (settings : OutputSettings) : OutputState :=
  { settings, requestedOn := settings.startupOn, fault := true
    pulseDeadlineMs := none, priorOn := false }

def reconfigure (s : OutputState) (settings : OutputSettings) : OutputState :=
  if s.settings.endpoint ≠ settings.endpoint ∨ s.settings.activeHigh ≠ settings.activeHigh then
    new settings
  else { s with settings }

def command (s : OutputState) (request : OutputRequest) (now : Nat) :
    Except SiteError OutputState :=
  if !s.settings.enabled || s.fault then .error .unavailable
  else
    match request with
    | .pulse => .ok
      { s with
        priorOn := if s.pulseDeadlineMs = none then s.requestedOn else s.priorOn
        requestedOn := true
        pulseDeadlineMs := some (min (now + s.settings.pulseMs) (2 ^ 64 - 1)) }
    | .on => .ok { s with pulseDeadlineMs := none, requestedOn := true }
    | .off => .ok { s with pulseDeadlineMs := none, requestedOn := false }

def advance (s : OutputState) (now : Nat) (available : Bool) : OutputState :=
  let fault := !available || !s.settings.enabled
  if fault then { s with fault := true, requestedOn := s.settings.safeOn, pulseDeadlineMs := none }
  else if s.pulseDeadlineMs.any (· ≤ now) then
    { s with fault := false, requestedOn := s.priorOn, pulseDeadlineMs := none }
  else { s with fault := false }

end OutputState

/-! ## Alarms -/

inductive AlarmValue (F : Type) where
  | number (value : F)
  | digital (value : Bool)

inductive AlarmEvent where
  | trip
  | clear
  | repeated
deriving DecidableEq, Repr

/-- `AlarmState`, with its snapshot. -/
structure AlarmState (F : Type) where
  settings : AlarmSettings F
  active : Bool
  acknowledged : Bool
  unsafeCondition : Option Bool
  resetReady : Bool
  pendingSince : Option Nat
  repeatAt : Option Nat

namespace AlarmState

def new (settings : AlarmSettings F) : AlarmState F :=
  { settings, active := false, acknowledged := false, unsafeCondition := none
    resetReady := false, pendingSince := none, repeatAt := none }

/-- `AlarmState::condition`: unsafe, healthy or unknown. -/
def condition (s : AlarmState F) (reading : Observation (AlarmValue F)) : Option Bool :=
  let value := if reading.quality = .valid then reading.value else none
  match s.settings.condition, value with
  | .unavailable, _ => some value.isNone
  | .above, some (.number value) =>
    if isFinite value then
      if s.active then s.settings.clearValue.map fun clear => lt clear value
      else s.settings.tripValue.map fun trip => le trip value
    else none
  | .below, some (.number value) =>
    if isFinite value then
      if s.active then s.settings.clearValue.map fun clear => lt value clear
      else s.settings.tripValue.map fun trip => le value trip
    else none
  | .active, some (.digital value) => some value
  | .inactive, some (.digital value) => some !value
  | _, _ => none

def clear (s : AlarmState F) : AlarmState F :=
  { s with active := false, acknowledged := false, pendingSince := none, repeatAt := none
           resetReady := false }

/-- The transition part of `AlarmState::advance`, on the evaluated condition. -/
def transition (s : AlarmState F) (now : Nat) : AlarmState F × List AlarmEvent :=
  match s.unsafeCondition with
  | none => ({ s with pendingSince := none }, [])
  | some unsafeNow =>
    if unsafeNow = s.active then ({ s with pendingSince := none }, [])
    else
      -- a pending transition is always the opposite of the active state
      let since := s.pendingSince.getD now
      let s : AlarmState F := { s with pendingSince := some since }
      let delay := if unsafeNow then s.settings.tripDelayMs else s.settings.clearDelayMs
      if now - since < delay then (s, [])
      else if unsafeNow then
        ({ s with
           active := true, acknowledged := false, pendingSince := none
           repeatAt :=
             if 0 < s.settings.repeatIntervalMs then
               some (min (now + s.settings.repeatIntervalMs) (2 ^ 64 - 1))
             else none }, [.trip])
      else if s.settings.latched then ({ s with resetReady := true }, [])
      else (s.clear, [.clear])

/-- The notification part of `AlarmState::advance`. -/
def remind (s : AlarmState F) (now : Nat) : AlarmState F × List AlarmEvent :=
  if s.active && !s.acknowledged && s.repeatAt.any (· ≤ now) then
    ({ s with repeatAt := some (min (now + s.settings.repeatIntervalMs) (2 ^ 64 - 1)) },
      [.repeated])
  else (s, [])

def advance (s : AlarmState F) (now : Nat) (reading : Observation (AlarmValue F)) :
    AlarmState F × List AlarmEvent :=
  if !s.settings.enabled then (s, [])
  else
    let s : AlarmState F := { s with unsafeCondition := s.condition reading, resetReady := false }
    let (s, events) := s.transition now
    let (s, reminders) := s.remind now
    (s, events ++ reminders)

def acknowledge (s : AlarmState F) : AlarmState F := { s with acknowledged := true }

def reset (s : AlarmState F) : Except SiteError (AlarmState F × Option AlarmEvent) :=
  if !s.active then .ok (s, none)
  else if !s.resetReady then .error .notSafe
  else .ok (s.clear, some .clear)

end AlarmState

/-! ## Fans -/

structure FanSnapshot (F : Type) where
  duty : F
  fault : Bool
  runOnUntilMs : Option Nat

structure FanState (F : Type) where
  settings : FanSettings F
  keyed : Bool
  runOnUntil : Option Nat
  temperatureOn : Bool
  manual : Option F
  startedAt : Option Nat

namespace FanState

def new (settings : FanSettings F) : FanState F :=
  { settings, keyed := false, runOnUntil := none, temperatureOn := false
    manual := none, startedAt := none }

def setManual (s : FanState F) (duty : Option F) : Except SiteError (FanState F) :=
  if duty.any fun value => !isFinite value || !(le zero value && le value one) then
    .error .invalidValue
  else .ok { s with manual := duty }

/-- The duty of a temperature on a curve: interpolated on the first segment that ends above it, the
last point's beyond the curve. -/
def curveDuty (temperature : F) : List (F × F) → F
  | [] => zero
  | [last] => last.2
  | first :: second :: rest =>
    if lt temperature second.1 then
      let weight := div (sub temperature first.1) (sub second.1 first.1)
      let weight := if lt weight zero then zero else if lt one weight then one else weight
      add first.2 (mul weight (sub second.2 first.2))
    else curveDuty temperature (second :: rest)

/-- `FanState::temperature_demand`: the state after it, the demand, and whether its source failed.
Validation gives a switched fan both thresholds. -/
def temperatureDemand (s : FanState F) (temperature : Option F) : FanState F × F × Bool :=
  if s.settings.mode = .ptt then (s, zero, false)
  else
    match temperature.filter isFinite with
    | none => (s, one, true)
    | some temperature =>
      if s.settings.temperatureCurve ≠ [] then
        (s, curveDuty temperature s.settings.temperatureCurve, false)
      else
        let on :=
          if s.settings.onTemperature.any fun bound => le bound temperature then true
          else if s.settings.offTemperature.any fun bound => le temperature bound then false
          else s.temperatureOn
        ({ s with temperatureOn := on }, if on then one else zero, false)

def advance (s : FanState F) (now : Nat) (ptt : String → Bool) (temperature rpm : Option F)
    (output : FanOutput) : FanState F × FanSnapshot F :=
  if !s.settings.enabled then (s, { duty := zero, fault := false, runOnUntilMs := none })
  else
    let keyed := s.settings.mode ≠ .temperature && s.settings.pttNodes.any ptt
    let runOn := if s.keyed && !keyed then some (min (now + s.settings.runOnMs) (2 ^ 64 - 1))
      else s.runOnUntil
    let runOn := if runOn.any (· ≤ now) then none else runOn
    let s : FanState F := { s with keyed, runOnUntil := runOn }
    let pttDemand : F := if keyed || runOn.isSome then one else zero
    let (s, thermal, thermalFault) := s.temperatureDemand temperature
    let duty := Analog.max (Analog.max pttDemand thermal) (s.manual.getD zero)
    let startedAt := if lt zero duty then some (s.startedAt.getD now) else none
    let s : FanState F := { s with startedAt }
    let tachFault := s.settings.rpmSensor ≠ "" &&
      startedAt.any (fun start => s.settings.spinupMs ≤ now - start) &&
      !rpm.any fun value => isFinite value && s.settings.minimumRpm.any fun bound => le bound value
    (s, { duty
          fault := thermalFault || !output.available ||
            (!output.pwm && s.settings.temperatureCurve ≠ []) || tachFault
          runOnUntilMs := s.runOnUntil })

end FanState

end RptAdvanced.Site
