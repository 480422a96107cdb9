import Mathlib.Data.Finset.Basic
import RptAdvanced.Site.Policy

/-!
# The site controller

Model of `core/src/site/controller.rs`: the shared policy of one station. `advance` feeds one
snapshot of observations through sensors, outputs, inputs, alarms and fans; `command` applies an
operator's request; `reconfigure` replaces the settings and keeps the state of what did not change.

The states are maps from names (`Named`); every configured name has a state, so that the lookups the
source unwraps never fail. A call returns a `Turn`: the controller after it, the effects it emitted,
in order, and the actions it performed with their source. The list of performed actions is not in
the source; it records the loop of `SiteController::actions` and the manual inhibit.

An inhibitor is kept under the text of its source. `ActionSource.text_injective` shows that the
texts tell the sources apart, so that the set of texts is a set of sources here.
-/

namespace RptAdvanced.Site

open List

abbrev Named (α : Type) := String → Option α

/-- The map with one name set. -/
def Named.insert {α : Type} (m : Named α) (name : String) (value : α) : Named α :=
  fun other => if other = name then some value else m other

variable {α : Type}

theorem Named.insert_self (m : Named α) (name : String) (value : α) :
    m.insert name value name = some value :=
  if_pos rfl

theorem Named.insert_ne (m : Named α) {name other : String} (h : other ≠ name)
    (value : α) : m.insert name value other = m other :=
  if_neg h

theorem Named.isSome_insert {m : Named α} {other : String} (h : (m other).isSome)
    (name : String) (value : α) : (m.insert name value other).isSome := by
  unfold insert
  split
  · rfl
  · exact h

/-- The map of a list of settings, built as `collect` does. -/
def Named.ofList {σ α : Type} (nameOf : σ → String) (build : σ → α) (settings : List σ) : Named α :=
  fun name => (settings.find? fun s => nameOf s = name).map build

/-- The source of an action: an operator, an input's edge or an alarm's event. -/
inductive ActionSource where
  | manual
  | input (name : String)
  | alarm (name : String)
deriving DecidableEq, Repr

/-- The text the source is known by. -/
def ActionSource.text : ActionSource → String
  | .manual => "manual"
  | .input name => "input:" ++ name
  | .alarm name => "alarm:" ++ name

/-- The first letter of the text tells the kinds of source apart. -/
theorem ActionSource.text_head (source : ActionSource) :
    source.text.toList.head? = match source with
      | .manual => some 'm'
      | .input _ => some 'i'
      | .alarm _ => some 'a' := by
  cases source with
  | manual => decide
  | input name | alarm name =>
    unfold ActionSource.text
    rw [String.toList_append]
    rfl

/-- Different sources have different texts. -/
theorem ActionSource.text_injective : Function.Injective ActionSource.text := by
  intro a b h
  have hhead := a.text_head
  rw [h, b.text_head] at hhead
  have hlist : a.text.toList = b.text.toList := congrArg String.toList h
  cases a with
  | manual =>
    cases b with
    | manual => rfl
    | input _ => simp at hhead
    | alarm _ => simp at hhead
  | input name =>
    cases b with
    | manual => simp at hhead
    | alarm _ => simp at hhead
    | input other =>
      simp only [ActionSource.text, String.toList_append, append_right_inj] at hlist
      rw [String.toList_injective hlist]
  | alarm name =>
    cases b with
    | manual => simp at hhead
    | input _ => simp at hhead
    | alarm other =>
      simp only [ActionSource.text, String.toList_append, append_right_inj] at hlist
      rw [String.toList_injective hlist]

structure SiteObservations (F : Type) where
  sensors : Named (Observation F)
  inputs : Named (Observation Bool)
  outputs : Named FanOutput

inductive SiteCommand (F : Type) where
  | output (name : String) (request : OutputRequest)
  | alarmAcknowledge (name : String)
  | alarmReset (name : String)
  | resetExtrema (name : String)
  | fan (name : String) (duty : Option F)
  | inhibit (enabled : Bool)

inductive SiteEffect (F : Type) where
  | output (name : String) (on : Bool)
  | fan (name : String) (duty : F)
  | transmitInhibit (enabled : Bool)
  | callMacro (name : String)
  | message (name : String)
  | fault (target : String) (error : SiteError)
deriving DecidableEq

structure SiteController (F : Type) where
  settings : ResolvedSiteSettings F
  sensors : Named (SensorState F)
  inputs : Named InputState
  outputs : Named OutputState
  alarms : Named (AlarmState F)
  fans : Named (FanState F)
  fanStatus : Named (FanSnapshot F)
  publishedOutputs : Named Bool
  inhibitors : Finset ActionSource
  availability : Named FanOutput
  ptt : String → Bool

/-- The actions an alarm's event calls for. -/
def AlarmSettings.actionsOn (policy : AlarmSettings F) : AlarmEvent → List (SiteAction F)
  | .trip => policy.onTrip
  | .clear => policy.onClear
  | .repeated => []

/-- The message an alarm's event calls for. -/
def AlarmSettings.messageOn (policy : AlarmSettings F) : AlarmEvent → String
  | .trip => policy.tripMessage
  | .clear => policy.clearMessage
  | .repeated => policy.repeatMessage

structure Turn (F : Type) where
  site : SiteController F
  effects : List (SiteEffect F)
  performed : List (ActionSource × SiteAction F)

variable {F : Type} [DecidableEq F] [Analog F]

/-- The call that has done nothing yet. -/
def Turn.start (site : SiteController F) : Turn F :=
  { site, effects := [], performed := [] }

def Turn.emit (t : Turn F) (effect : SiteEffect F) : Turn F :=
  { t with effects := t.effects ++ [effect] }

namespace SiteController

def new (settings : ResolvedSiteSettings F) : SiteController F :=
  { settings
    sensors := .ofList (·.name) .new settings.sensors
    inputs := .ofList (·.name) (fun _ => .new) settings.inputs
    outputs := .ofList (·.name) .new settings.outputs
    alarms := .ofList (·.name) .new settings.alarms
    fans := .ofList (·.name) .new settings.fans
    fanStatus := fun _ => none
    publishedOutputs := fun _ => none
    inhibitors := ∅
    availability := fun _ => none
    ptt := fun _ => false }

def transmitInhibited (site : SiteController F) : Bool := site.inhibitors ≠ ∅

def sensorValue (site : SiteController F) (name : String) (now : Nat) : Option F :=
  (site.sensors name).bind fun s => if s.quality now = .valid then s.current.value else none

/-- The reading an alarm is evaluated on: its sensor's, or its input's. -/
def alarmReading (site : SiteController F) (policy : AlarmSettings F) (now : Nat) :
    Observation (AlarmValue F) :=
  match site.sensors policy.source with
  | some s =>
    { value := (if policy.smoothed then s.smoothed else s.current.value).map .number
      observedAtMs := s.current.observedAtMs
      quality := s.quality now }
  | none =>
    match site.inputs policy.source with
    | some s =>
      { value := s.value.value.map .digital
        observedAtMs := s.value.observedAtMs
        quality := s.value.quality }
    | none => .missing

end SiteController

namespace Turn

def publishOutput (t : Turn F) (name : String) : Turn F :=
  match t.site.outputs name with
  | none => t
  | some s =>
    let t' : Turn F :=
      { t with
        site :=
          { t.site with publishedOutputs := t.site.publishedOutputs.insert name s.requestedOn } }
    if t.site.publishedOutputs name = some s.requestedOn then t'
    else t'.emit (.output name s.requestedOn)

def inhibit (t : Turn F) (source : ActionSource) (enabled : Bool) : Turn F :=
  let inhibitors :=
    if enabled then insert source t.site.inhibitors else t.site.inhibitors.erase source
  let t' : Turn F := { t with site := { t.site with inhibitors } }
  if t.site.transmitInhibited = t'.site.transmitInhibited then t'
  else t'.emit (.transmitInhibit t'.site.transmitInhibited)

def output (t : Turn F) (name : String) (request : OutputRequest) (now : Nat) :
    Except SiteError (Turn F) :=
  if t.site.settings.fanOwned name then .error .notSafe
  else
    match t.site.outputs name with
    | none => .error .unknownName
    | some s =>
      match s.command request now with
      | .error error => .error error
      | .ok s => .ok
        ({ t with site := { t.site with outputs := t.site.outputs.insert name s } }.publishOutput
          name)

/-- One fan of `SiteController::fan_effects`. -/
def fanEffect (now : Nat) (t : Turn F) (policy : FanSettings F) : Turn F :=
  if !policy.enabled then t
  else
    match t.site.fans policy.name with
    | none => t
    | some s =>
      let (s, snapshot) := s.advance now t.site.ptt
        (t.site.sensorValue policy.temperatureSensor now) (t.site.sensorValue policy.rpmSensor now)
        ((t.site.availability policy.output).getD { available := false, pwm := false })
      let t' : Turn F :=
        { t with
          site :=
            { t.site with
              fans := t.site.fans.insert policy.name s
              fanStatus := t.site.fanStatus.insert policy.name snapshot } }
      if (t.site.fanStatus policy.name).any fun prior => prior.duty = snapshot.duty then t'
      else t'.emit (.fan policy.name snapshot.duty)

def fanEffects (t : Turn F) (now : Nat) : Turn F :=
  t.site.settings.fans.foldl (fanEffect now) t

def fan (t : Turn F) (name : String) (duty : Option F) (now : Nat) : Except SiteError (Turn F) :=
  if !t.site.settings.fans.any fun fan => fan.name = name && fan.enabled then .error .unavailable
  else
    match t.site.fans name with
    | none => .error .unavailable
    | some s =>
      match s.setManual duty with
      | .error error => .error error
      | .ok s =>
        .ok ({ t with site := { t.site with fans := t.site.fans.insert name s } }.fanEffects
          now)

/-- One action of `SiteController::actions`; a failed one is reported, and later ones still run. -/
def action (source : ActionSource) (now : Nat) (t : Turn F) (a : SiteAction F) : Turn F :=
  let t : Turn F := { t with performed := t.performed ++ [(source, a)] }
  let result : Except SiteError (Turn F) := match a with
    | .callMacro name => .ok (t.emit (.callMacro name))
    | .inhibit enabled => .ok (t.inhibit source enabled)
    | .output name request => t.output name request now
    | .fan name duty => t.fan name duty now
  match result with
  | .ok t' => t'
  | .error error => t.emit (.fault source.text error)

def actions (t : Turn F) (source : ActionSource) (list : List (SiteAction F))
    (now : Nat) : Turn F :=
  list.foldl (action source now) t

def alarmEvent (policy : AlarmSettings F) (now : Nat) (t : Turn F) (event : AlarmEvent) : Turn F :=
  let t := t.actions (.alarm policy.name) (policy.actionsOn event) now
  if policy.messageOn event = "" then t else t.emit (.message (policy.messageOn event))

/-- One input of `SiteController::advance`. -/
def inputTurn (now : Nat) (observations : SiteObservations F) (t : Turn F)
    (policy : InputSettings F) : Turn F :=
  if !policy.enabled then t
  else
    match t.site.inputs policy.name with
    | none => t
    | some s =>
      let (s, edge) := s.observe ((observations.inputs policy.name).getD .missing) policy now
      let t : Turn F :=
        { t with site := { t.site with inputs := t.site.inputs.insert policy.name s } }
      match edge with
      | none => t
      | some active =>
        t.actions (.input policy.name) (if active then policy.onActive else policy.onInactive) now

/-- One alarm of `SiteController::advance`. -/
def alarmTurn (now : Nat) (t : Turn F) (policy : AlarmSettings F) : Turn F :=
  match t.site.alarms policy.name with
  | none => t
  | some s =>
    let (s, events) := s.advance now (t.site.alarmReading policy now)
    let t : Turn F :=
      { t with site := { t.site with alarms := t.site.alarms.insert policy.name s } }
    events.foldl (alarmEvent policy now) t

end Turn

namespace SiteController

/-- The readings of `SiteController::advance`: sensors are observed, outputs advance where their
owner reported or is known, and the owners' reports replace the known ones. -/
def observe (site : SiteController F) (now : Nat) (observations : SiteObservations F)
    (ptt : String → Bool) : SiteController F :=
  { site with
    ptt
    sensors := fun name =>
      match site.settings.sensors.find? fun policy => policy.name = name with
      | none => site.sensors name
      | some policy =>
        if policy.enabled then
          match observations.sensors name with
          | none => site.sensors name
          | some reading => (site.sensors name).map fun s => s.observe reading now
        else site.sensors name
    outputs := fun name =>
      match site.settings.outputs.find? fun policy => policy.name = name with
      | none => site.outputs name
      | some policy =>
        -- an owner that was known and is now missing is a fault, not a new start
        if (observations.outputs name).isSome || (site.availability name).isSome ||
            !policy.enabled then
          (site.outputs name).map fun s =>
            s.advance now ((observations.outputs name).any fun o => o.available)
        else site.outputs name
    availability := observations.outputs }

/-- One output of the publication in `SiteController::advance`. -/
def publishTurn (t : Turn F) (policy : OutputSettings) : Turn F :=
  if policy.enabled && !t.site.settings.fanOwned policy.name then t.publishOutput policy.name else t

def advance (site : SiteController F) (now : Nat) (observations : SiteObservations F)
    (ptt : String → Bool) : Turn F :=
  let t := Turn.start (site.observe now observations ptt)
  let t := site.settings.outputs.foldl publishTurn t
  let t := site.settings.inputs.foldl (Turn.inputTurn now observations) t
  let t := site.settings.alarms.foldl (Turn.alarmTurn now) t
  t.fanEffects now

def command (site : SiteController F) (command : SiteCommand F) (now : Nat) :
    Except SiteError (Turn F) :=
  let t := Turn.start site
  match command with
  | .output name request => t.output name request now
  | .alarmAcknowledge name =>
    match site.alarms name with
    | none => .error .unknownName
    | some s => .ok { t with site := { site with alarms := site.alarms.insert name s.acknowledge } }
  | .alarmReset name =>
    match site.alarms name with
    | none => .error .unknownName
    | some s =>
      match s.reset with
      | .error error => .error error
      | .ok (s, event) =>
        let t : Turn F := { t with site := { site with alarms := site.alarms.insert name s } }
        match event, site.settings.alarms.find? fun policy => policy.name = name with
        | some event, some policy => .ok (Turn.alarmEvent policy now t event)
        | _, _ => .ok t
  | .resetExtrema name =>
    match site.sensors name with
    | none => .error .unknownName
    | some s => .ok
      { t with site := { site with sensors := site.sensors.insert name s.resetExtrema } }
  | .fan name duty => t.fan name duty now
  | .inhibit enabled => .ok
    ({ t with performed := [(.manual, .inhibit enabled)] }.inhibit .manual enabled)

/-- `reconfigure`: the output keeps its owner, polarity and enablement. -/
def retainsOutput (site : SiteController F) (settings : ResolvedSiteSettings F) (name : String) :
    Bool :=
  match site.settings.outputs.find? fun old => old.name = name,
      settings.outputs.find? fun policy => policy.name = name with
  | some old, some policy =>
    old.enabled = policy.enabled && old.endpoint = policy.endpoint &&
      old.activeHigh = policy.activeHigh
  | _, _ => false

/-- `reconfigure`: the source's policy is unchanged. -/
def retainsSource (site : SiteController F) (settings : ResolvedSiteSettings F) :
    ActionSource → Bool
  | .manual => true
  | .input name => settings.inputs.any fun policy =>
      policy.name = name && site.settings.inputs.contains policy
  | .alarm name => settings.alarms.any fun policy =>
      policy.name = name && site.settings.alarms.contains policy

/-- `reconfigure`: the fan's policy and its output are unchanged. -/
def retainsFan (site : SiteController F) (settings : ResolvedSiteSettings F)
    (name : String) : Bool :=
  settings.fans.any fun policy =>
    policy.name = name && site.settings.fans.contains policy &&
      site.retainsOutput settings policy.output

def reconfigure (site : SiteController F) (settings : ResolvedSiteSettings F) : SiteController F :=
  let next := new settings
  { next with
    sensors := fun name =>
      match settings.sensors.find? fun policy => policy.name = name, site.sensors name with
      | some policy, some s => some (s.reconfigure policy)
      | _, _ => next.sensors name
    outputs := fun name =>
      match site.settings.outputs.find? fun old => old.name = name,
          settings.outputs.find? fun policy => policy.name = name with
      | some old, some policy =>
        if old.enabled = policy.enabled then (site.outputs name).map fun s => s.reconfigure policy
        else next.outputs name
      | _, _ => next.outputs name
    inputs := fun name =>
      if site.retainsSource settings (.input name) then site.inputs name else next.inputs name
    alarms := fun name =>
      if site.retainsSource settings (.alarm name) then site.alarms name else next.alarms name
    fans := fun name =>
      if site.retainsFan settings name then site.fans name else next.fans name
    fanStatus := fun name => if site.retainsFan settings name then site.fanStatus name else none
    publishedOutputs := fun name =>
      if site.retainsOutput settings name then site.publishedOutputs name else none
    availability := fun name =>
      if site.retainsOutput settings name then site.availability name else none
    inhibitors := site.inhibitors.filter fun source => site.retainsSource settings source
    ptt := site.ptt }

end SiteController

end RptAdvanced.Site
