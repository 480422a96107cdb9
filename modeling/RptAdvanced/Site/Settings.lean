import Mathlib.Data.List.Nodup

/-!
# Resolved site settings

The named instances of a node's site configuration after resolution (`config/site.rs`,
`config/site_policy.rs`), and the health of an observed value (`site/mod.rs`). Analog values are of
a type `F`, an abstraction of `f64`: the resolution admits finite thresholds only, so the comparison
of two policies is equality.

Left out are the fields that only reports and the telephone keypad read: a sensor's label, unit,
precision and selector. `Valid` collects what resolution enforces and the controller relies on:
names are distinct within a family, an enabled fan claims an existing output, and no two enabled
fans claim the same one.
-/

namespace RptAdvanced.Site

open List

/-- `SiteBackend`: the selected hardware owner. -/
inductive SiteBackend where
  | cm119
  | parallel
  | gpiod
  | hwmon
  | iio
deriving DecidableEq, Repr

/-- `SiteEndpoint`: a stable configured endpoint. -/
structure SiteEndpoint where
  backend : SiteBackend
  device : String
  channel : String
deriving DecidableEq, Repr

/-- `ReadingQuality`: the health of one observed value. -/
inductive ReadingQuality where
  | valid
  | stale
  | unavailable
  | fault
deriving DecidableEq, Repr

/-- `Observation`: absent values and times are never invented. -/
structure Observation (α : Type) where
  value : Option α
  observedAtMs : Option Nat
  quality : ReadingQuality
deriving DecidableEq, Repr

/-- The observation of a source that was never read. -/
def Observation.missing {α : Type} : Observation α :=
  { value := none, observedAtMs := none, quality := .unavailable }

/-- `FanOutput`: what an output's owner can do. -/
structure FanOutput where
  available : Bool
  pwm : Bool
deriving DecidableEq, Repr

/-- `OutputRequest`: an authorised logical output command. -/
inductive OutputRequest where
  | on
  | off
  | pulse
deriving DecidableEq, Repr

/-- `SiteAction`: the bounded action syntax. -/
inductive SiteAction (F : Type) where
  | callMacro (name : String)
  | output (name : String) (request : OutputRequest)
  | fan (name : String) (duty : Option F)
  | inhibit (enabled : Bool)
deriving DecidableEq

/-- `Calibration`: the conversion of a source's units. -/
inductive Calibration (F : Type) where
  | none
  | twoPoint (inputLow valueLow inputHigh valueHigh : F)
deriving DecidableEq

structure SensorSettings (F : Type) where
  name : String
  enabled : Bool
  endpoint : Option SiteEndpoint
  pollIntervalMs : Nat
  staleAfterMs : Nat
  smoothingMs : Nat
  calibration : Calibration F
deriving DecidableEq

structure InputSettings (F : Type) where
  name : String
  enabled : Bool
  endpoint : Option SiteEndpoint
  activeHigh : Bool
  debounceMs : Nat
  dtmfId : Option String
  onActive : List (SiteAction F)
  onInactive : List (SiteAction F)
deriving DecidableEq

structure OutputSettings where
  name : String
  enabled : Bool
  endpoint : Option SiteEndpoint
  activeHigh : Bool
  startupOn : Bool
  safeOn : Bool
  pulseMs : Nat
deriving DecidableEq

inductive AlarmCondition where
  | above
  | below
  | active
  | inactive
  | unavailable
deriving DecidableEq, Repr

structure AlarmSettings (F : Type) where
  name : String
  enabled : Bool
  source : String
  condition : AlarmCondition
  tripValue : Option F
  clearValue : Option F
  smoothed : Bool
  tripDelayMs : Nat
  clearDelayMs : Nat
  latched : Bool
  repeatIntervalMs : Nat
  onTrip : List (SiteAction F)
  onClear : List (SiteAction F)
  tripMessage : String
  clearMessage : String
  repeatMessage : String
deriving DecidableEq

inductive FanMode where
  | ptt
  | temperature
  | combined
deriving DecidableEq, Repr

structure FanSettings (F : Type) where
  name : String
  enabled : Bool
  output : String
  mode : FanMode
  pttNodes : List String
  runOnMs : Nat
  temperatureSensor : String
  onTemperature : Option F
  offTemperature : Option F
  temperatureCurve : List (F × F)
  rpmSensor : String
  minimumRpm : Option F
  spinupMs : Nat
deriving DecidableEq

/-- `ResolvedSiteSettings`: the named instances in configuration order. -/
structure ResolvedSiteSettings (F : Type) where
  sensors : List (SensorSettings F)
  inputs : List (InputSettings F)
  outputs : List OutputSettings
  alarms : List (AlarmSettings F)
  fans : List (FanSettings F)
deriving DecidableEq

namespace ResolvedSiteSettings

variable {F : Type}

/-- The configuration without instances. -/
def empty : ResolvedSiteSettings F :=
  { sensors := [], inputs := [], outputs := [], alarms := [], fans := [] }

/-- An enabled fan claims the output. -/
def fanOwned (settings : ResolvedSiteSettings F) (name : String) : Bool :=
  settings.fans.any fun fan => fan.enabled && fan.output = name

/-- What `resolve_definitions` and `policy::resolve` enforce and the controller relies on. -/
structure Valid (settings : ResolvedSiteSettings F) : Prop where
  sensors : (settings.sensors.map (·.name)).Nodup
  inputs : (settings.inputs.map (·.name)).Nodup
  outputs : (settings.outputs.map (·.name)).Nodup
  alarms : (settings.alarms.map (·.name)).Nodup
  fans : (settings.fans.map (·.name)).Nodup
  /-- An enabled fan names a configured output. -/
  claimed : ∀ fan ∈ settings.fans, fan.enabled = true →
    ∃ output ∈ settings.outputs, output.name = fan.output
  /-- One enabled fan may claim an output. -/
  exclusive : ((settings.fans.filter (·.enabled)).map (·.output)).Nodup

instance (settings : ResolvedSiteSettings F) : Decidable settings.Valid :=
  decidable_of_iff
    ((settings.sensors.map (·.name)).Nodup ∧ (settings.inputs.map (·.name)).Nodup ∧
      (settings.outputs.map (·.name)).Nodup ∧ (settings.alarms.map (·.name)).Nodup ∧
      (settings.fans.map (·.name)).Nodup ∧
      (∀ fan ∈ settings.fans, fan.enabled = true →
        ∃ output ∈ settings.outputs, output.name = fan.output) ∧
      ((settings.fans.filter (·.enabled)).map (·.output)).Nodup)
    ⟨fun ⟨h₁, h₂, h₃, h₄, h₅, h₆, h₇⟩ => ⟨h₁, h₂, h₃, h₄, h₅, h₆, h₇⟩,
      fun ⟨h₁, h₂, h₃, h₄, h₅, h₆, h₇⟩ => ⟨h₁, h₂, h₃, h₄, h₅, h₆, h₇⟩⟩

/-- The output an enabled fan is bound to. -/
def fanOutput (settings : ResolvedSiteSettings F) (name : String) : Option String :=
  (settings.fans.find? fun fan => fan.name = name && fan.enabled).map (·.output)

section Valid

variable {settings : ResolvedSiteSettings F} {fan fan' : FanSettings F}

theorem fanOwned_of_mem (hfan : fan ∈ settings.fans) (henabled : fan.enabled = true) :
    settings.fanOwned fan.output = true :=
  any_eq_true.mpr ⟨fan, hfan, by rw [henabled, decide_eq_true rfl]; rfl⟩

variable (h : settings.Valid)
include h

theorem Valid.alarm_eq {alarm alarm' : AlarmSettings F}
    (halarm : alarm ∈ settings.alarms) (halarm' : alarm' ∈ settings.alarms)
    (hname : alarm.name = alarm'.name) : alarm = alarm' :=
  inj_on_of_nodup_map h.alarms halarm halarm' hname

section

variable (hfan : fan ∈ settings.fans)
include hfan

theorem Valid.fan_eq
    (hfan' : fan' ∈ settings.fans) (hname : fan.name = fan'.name) : fan = fan' :=
  inj_on_of_nodup_map h.fans hfan hfan' hname

theorem Valid.fanOutput_eq
    (henabled : fan.enabled = true) : settings.fanOutput fan.name = some fan.output := by
  unfold fanOutput
  cases hfind : settings.fans.find? fun other => other.name = fan.name && other.enabled with
  | none =>
    have hnone := find?_eq_none.mp hfind fan hfan
    rw [henabled, decide_eq_true rfl] at hnone
    exact absurd rfl hnone
  | some other =>
    have hsome := find?_some hfind
    rw [Bool.and_eq_true, decide_eq_true_eq] at hsome
    rw [h.fan_eq (mem_of_find?_eq_some hfind) hfan hsome.1]
    rfl

end

/-- The output a name is looked up to. -/
theorem Valid.find?_output {output : OutputSettings} (hout : output ∈ settings.outputs) :
    (settings.outputs.find? fun policy => policy.name = output.name) = some output := by
  cases hfind : settings.outputs.find? fun policy => policy.name = output.name with
  | none =>
    have hnone := find?_eq_none.mp hfind output hout
    exact absurd (decide_eq_true rfl) hnone
  | some other =>
    have hname : other.name = output.name := by simpa using find?_some hfind
    rw [inj_on_of_nodup_map h.outputs (mem_of_find?_eq_some hfind) hout hname]

end Valid

end ResolvedSiteSettings

end RptAdvanced.Site
