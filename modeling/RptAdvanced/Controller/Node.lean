import RptAdvanced.Controller.Planners
import RptAdvanced.Policy.Duplex
import RptAdvanced.Policy.Identifier

/-!
# The node controller's state and its bookkeeping (`rust/core/src/controller/mod.rs`, `timeout.rs`)

`NodeController` is the single audio owner of one node. Times are 48-kHz samples since construction.
This file has the aggregate, its constructor, the watchdog's policy, and what `step` calls:
media lookup, identifier selection and the completion of a playback attempt.

The parrot capture and its live enable/disable handshake run beside the sample path and touch the
slot only through `TelemetryPlanner.disableParrot`; they are left out of the state. `World` carries
what control changes between samples.
-/

namespace RptAdvanced.Controller

open Audio Lib Policy

/-! ## The watchdog policy -/

/-- Where the traffic watchdog is. -/
inductive Phase
  | normal
  | expired
  | waiting
  | cleared
  deriving DecidableEq, Repr

/-- `TimeoutPolicy`: the start of the watched interval and the phase. -/
structure TimeoutPolicy where
  key : Nat
  phase : Phase
  deriving DecidableEq, Repr

namespace TimeoutPolicy

/-- `TimeoutPolicy::default`. -/
def idle : TimeoutPolicy := ⟨0, .normal⟩

/-- `allows_playback`: the watchdog will not suppress this sample. -/
def allowsPlayback (p : TimeoutPolicy) (wasKeyed : Bool) (now timeout : Nat) : Bool :=
  !wasKeyed || timeout == 0 || decide (now - p.key < timeout)

def blocked (p : TimeoutPolicy) : Bool := p.phase != .normal

/-- `unkey`: every source unkey restarts the interval. -/
def unkey (p : TimeoutPolicy) (now : Nat) : TimeoutPolicy := { p with key := now }

/-- `apply`: the transmit decision, and the policy after it. -/
def apply (p : TimeoutPolicy) (requested wasKeyed : Bool) (now timeout : Nat) :
    Bool × TimeoutPolicy :=
  if requested && !wasKeyed then (requested, { p with key := now })
  else if requested && timeout != 0 && decide (timeout ≤ now - p.key) then
    (false, { p with phase := .expired })
  else (requested, p)

variable (p : TimeoutPolicy) (requested wasKeyed : Bool) (now timeout : Nat)

/-- A refused request is the only way `apply` blocks. -/
theorem apply_blocked
    (hp : p.blocked = false) (h : (p.apply requested wasKeyed now timeout).2.blocked = true) :
    requested = true ∧ wasKeyed = true ∧ timeout ≠ 0 ∧ timeout ≤ now - p.key ∧
      (p.apply requested wasKeyed now timeout) = (false, { p with phase := .expired }) := by
  unfold apply at h ⊢
  split at h
  · cases hp.symm.trans h
  rename_i h1
  split at h
  · rename_i h2
    rw [if_neg h1, if_pos h2]
    simp only [Bool.and_eq_true, bne_iff_ne, ne_eq, decide_eq_true_eq] at h2
    obtain ⟨⟨hr, ht⟩, hle⟩ := h2
    refine ⟨hr, ?_, ht, hle, rfl⟩
    subst hr
    simpa using h1
  · cases hp.symm.trans h

/-- While the watchdog stays normal it grants exactly what was requested. -/
theorem apply_grants (h : (p.apply requested wasKeyed now timeout).2.blocked = false) :
    (p.apply requested wasKeyed now timeout).1 = requested := by
  unfold apply at h ⊢
  split
  · rfl
  rename_i h1
  rw [if_neg h1] at h
  split
  · rename_i h2
    rw [if_pos h2] at h
    exact absurd h (by simp [blocked])
  · rfl

/-- **The bound of one decision**: traffic granted at `now` is less than the timeout after `key`. -/
theorem apply_bound (ht : timeout ≠ 0) (h : (p.apply requested wasKeyed now timeout).1 = true) :
    now - (p.apply requested wasKeyed now timeout).2.key < timeout := by
  unfold apply at h ⊢
  split
  · dsimp only
    omega
  rename_i h1
  rw [if_neg h1] at h
  split
  · rename_i h2
    rw [if_pos h2] at h
    cases h
  rename_i h2
  rw [if_neg h2] at h
  dsimp only at h ⊢
  subst h
  simp only [Bool.true_and, Bool.and_eq_true, bne_iff_ne, ne_eq, decide_eq_true_eq] at h2
  omega

/-- A grant starts a new interval exactly at a key-up. -/
theorem apply_key (h : (p.apply requested wasKeyed now timeout).1 = true) :
    (p.apply requested wasKeyed now timeout).2.key = if wasKeyed then p.key else now := by
  unfold apply at h ⊢
  cases wasKeyed <;> cases requested <;> simp at h ⊢
  split <;> rfl

end TimeoutPolicy

/-! ## The aggregate -/

/-- An identifier's prepared audio and its policy. -/
structure Identifier (S : Type) where
  media : PreparedMedia S
  intervalMs : Nat
  priority : Int
  firstKeyOnly : Bool
  regardlessOfActivity : Bool
  politeMaximumWaitMs : Option Nat

def Identifier.rule {S : Type} (id : Identifier S) : IdentifierRule :=
  ⟨samples id.intervalMs, id.priority, id.firstKeyOnly, id.regardlessOfActivity⟩

/-- `ControllerSettings`, less the Morse parameters, which only the constructor checks. -/
structure ControllerSettings where
  fullDuplex : Bool
  hangMs : Nat
  ctcssEncodeOnInput : Bool
  ctcssHangMs : Nat
  transmitTimeoutMs : Nat
  kerchunkMaxMs : Nat
  courtesyDelayMs : Nat
  telemetryDuckDb : Int
  deriving DecidableEq, Repr

/-- Receive activity published to control. -/
structure ActivitySnapshot where
  lastSample : Nat
  active : Bool
  currentSample : Nat
  deriving DecidableEq, Repr

/-- The single audio owner of one node. -/
structure NodeController (S F : Type) where
  settings : ControllerSettings
  remoteNonFm : Bool
  remoteUnqualifiedOpen : Bool
  nonlocalSourceActivity : Bool
  duplex : DuplexPolicy
  identifiers : IdentifierPolicy
  ids : List (Identifier S)
  rules : List IdentifierRule
  satisfied : List Nat
  firstDue : List Nat
  telemetry : TelemetryPlanner S F
  courtesy : CourtesyPlanner S
  announcements : List (AnnouncementState S)
  tails : TailPlanner S
  timeout : TimeoutPolicy
  timeoutMedia : Option (PreparedMedia S × PreparedMedia S)
  activity : ActivitySnapshot
  now : Nat
  receiver : Bool
  linked : Bool
  receiverKey : Nat
  receiverUnkey : Nat
  lastActivity : Nat
  keyIdle : Nat
  keyed : Bool
  trafficKeyed : Bool
  exemptRelease : Bool
  lastAudio : Nat
  releaseHang : Nat
  ctcssHangUntil : Nat
  ctcssEnabled : Bool
  releasePending : Bool
  suppressRelease : Bool
  world : World

namespace NodeController

variable {S F : Type}

def repeatsLocal (c : NodeController S F) : Bool := c.settings.fullDuplex && !c.remoteNonFm

def transmitsDuringReceive (c : NodeController S F) : Bool := c.settings.fullDuplex || c.remoteNonFm

/-- The watchdog interval in samples. -/
def timeoutSamples (c : NodeController S F) : Nat := samples c.settings.transmitTimeoutMs

/-- The range checks of `new`. `morse` is the answer of the Morse renderer to the status
parameters. -/
def accepts (settings : ControllerSettings) (ids : List (Identifier S))
    (announcements : List (PreparedMedia S × Nat)) (courtesy : CourtesySettings S)
    (morse : Bool) : Bool :=
  decide (-60 ≤ settings.telemetryDuckDb) && decide (settings.telemetryDuckDb ≤ 0) &&
    decide (settings.ctcssHangMs ≤ settings.hangMs) &&
    [settings.hangMs, settings.ctcssHangMs, settings.transmitTimeoutMs, settings.kerchunkMaxMs,
      settings.courtesyDelayMs].all (fun d => decide (d ≤ u64Max / 48)) &&
    ids.all (fun id => decide (id.intervalMs ≤ u64Max / 48) &&
      id.politeMaximumWaitMs.all (fun d => decide (d ≤ u64Max / 48))) &&
    announcements.all (fun a => decide (a.2 ≤ u64Max / 48)) &&
    courtesy.peers.all (fun p => !p.1.isEmpty && decide (p.1.utf8ByteSize < 64) &&
      !p.1.contains (Char.ofNat 0)) &&
    morse

/-- The controller `new` builds from settings it accepts, with control's atomics as given. -/
def initial [One F] (settings : ControllerSettings) (ids : List (Identifier S))
    (announcements : List (PreparedMedia S × Nat)) (courtesy : CourtesySettings S)
    (duckGain : F) (world : World) : NodeController S F :=
  { settings
    remoteNonFm := false
    remoteUnqualifiedOpen := false
    nonlocalSourceActivity := false
    duplex := DuplexPolicy.idle
    identifiers := IdentifierPolicy.new (ids.map Identifier.rule)
    ids
    rules := ids.map Identifier.rule
    satisfied := ids.map fun _ => 0
    firstDue := ids.map fun _ => 0
    telemetry := TelemetryPlanner.new duckGain
    courtesy := CourtesyPlanner.new courtesy
    announcements := announcements.map fun a => ⟨a.1, a.2, 0, 0, false⟩
    tails := TailPlanner.empty
    timeout := TimeoutPolicy.idle
    timeoutMedia := none
    activity := ⟨0, false, 0⟩
    now := 0
    receiver := false
    linked := false
    receiverKey := 0
    receiverUnkey := 0
    lastActivity := 0
    keyIdle := 0
    keyed := false
    trafficKeyed := false
    exemptRelease := false
    lastAudio := 0
    releaseHang := 0
    ctcssHangUntil := 0
    ctcssEnabled := !settings.ctcssEncodeOnInput
    releasePending := false
    suppressRelease := false
    world }

def new [One F] (settings : ControllerSettings) (ids : List (Identifier S))
    (announcements : List (PreparedMedia S × Nat)) (courtesy : CourtesySettings S)
    (morse : Bool) (duckGain : F) (world : World) : Option (NodeController S F) :=
  if accepts settings ids announcements courtesy morse then
    some (initial settings ids announcements courtesy duckGain world)
  else none

/-- `set_tails`, on control before publication. -/
def setTails (c : NodeController S F) (tails : List (PreparedMedia S × Nat × Nat)) :
    Option (NodeController S F) :=
  (TailPlanner.new tails).map fun planner => { c with tails := planner }

/-- `set_timeout_media`: the notices of expiry and of recovery. -/
def setTimeoutMedia (c : NodeController S F) (media : PreparedMedia S × PreparedMedia S) :
    NodeController S F :=
  { c with timeoutMedia := some media }

/-! ## Media -/

/-- `media`: the envelope a source plays from. -/
def media (c : NodeController S F) : Option Source → Option (PreparedMedia S)
  | none => none
  | some .status => c.telemetry.status
  | some .parrot => c.telemetry.parrot
  | some (.courtesy i) => c.courtesy.media[i]?
  | some (.identifier i) => (c.ids[i]?).map Identifier.media
  | some (.announcement i) => (c.announcements[i]?).map AnnouncementState.media
  | some (.tail i) => (c.tails.items[i]?).map TailState.media

/-- Replace the playback of the envelope a source plays from. -/
def mapPlayback (c : NodeController S F) (source : Option Source) (f : Playback S → Playback S) :
    NodeController S F :=
  let g := fun m : PreparedMedia S => m.withPlayback (f m.playback)
  match source with
  | none => c
  | some .status => { c with telemetry := { c.telemetry with status := c.telemetry.status.map g } }
  | some .parrot => { c with telemetry := { c.telemetry with parrot := c.telemetry.parrot.map g } }
  | some (.courtesy i) =>
    { c with courtesy := { c.courtesy with media := c.courtesy.media.modify i g } }
  | some (.identifier i) => { c with ids := c.ids.modify i fun x => { x with media := g x.media } }
  | some (.announcement i) =>
    { c with announcements := c.announcements.modify i fun x => { x with media := g x.media } }
  | some (.tail i) =>
    { c with
      tails := { c.tails with
        items := c.tails.items.modify i fun x => { x with media := g x.media } } }

/-- Who owns the slot. -/
def setActive (c : NodeController S F) (source : Option Source) : NodeController S F :=
  { c with telemetry := { c.telemetry with active := source } }

/-! ## Identifiers -/

/-- `id_ready`: an identifier may start, or its polite wait is over. -/
def idReady (c : NodeController S F) (selected : Nat) (busy : Bool) : Bool :=
  match c.ids[selected]? with
  | none => false
  | some id =>
    match id.politeMaximumWaitMs.filter fun _ => busy with
    | none => true
    | some maximum =>
      let due :=
        if id.firstKeyOnly then c.firstDue.getD selected c.now
        else satAdd (c.satisfied.getD selected c.now) (samples id.intervalMs)
      decide (samples maximum ≤ c.now - due)

/-- The polite wait of an identifier is over. -/
def idExpired (c : NodeController S F) (index : Nat) : Bool :=
  (match c.ids[index]? with
    | none => false
    | some id => id.politeMaximumWaitMs.isSome) && c.idReady index true

/-- The priority a due polite initial imposes on deadlines below it. -/
def minimumPriority (c : NodeController S F) (selected : Option Nat) : Option Int :=
  match selected.bind (c.ids[·]?) with
  | none => none
  | some id => if id.firstKeyOnly && id.politeMaximumWaitMs.isSome then some id.priority else none

/-- An expired identifier that no polite initial of higher priority covers. -/
def deadlineEligible (c : NodeController S F) (minimum : Option Int) (index : Nat) : Bool :=
  c.idExpired index &&
    match minimum, c.ids[index]? with
    | some p, some id => decide (p ≤ id.priority)
    | _, _ => true

def selectIdentifier (c : NodeController S F) (receiving busy afterHang : Bool) : Option Nat :=
  let selected := c.identifiers.select c.rules c.now receiving c.transmitsDuringReceive
  (selected.filter fun index => c.idExpired index || (afterHang && c.idReady index busy)).or
    (c.identifiers.selectWhere c.rules c.now receiving c.transmitsDuringReceive
      (c.deadlineEligible (c.minimumPriority selected)))

/-- `satisfy_identifier`: this identifier and every lower priority. -/
def satisfyIdentifier (c : NodeController S F) (index : Nat) : NodeController S F :=
  let priority := (c.ids[index]?).map Identifier.priority
  { c with
    identifiers := c.identifiers.complete c.rules index c.now
    satisfied := c.satisfied.mapIdx fun i s =>
      match c.ids[i]?, priority with
      | some id, some p => if i == index || decide (id.priority < p) then c.now else s
      | _, _ => s }

/-! ## Completion of an attempt -/

variable [PcmStreamReader S F]

/-- A status played from a recipe also satisfies the identifier of that recipe. -/
def satisfyRecipe (c : NodeController S F) (recipe : Nat) : NodeController S F :=
  match c.ids.findIdx? fun id => id.media.recipe == some recipe with
  | none => c
  | some index => (c.mapPlayback (some (.identifier index)) Playback.cancel).satisfyIdentifier index

/-- A status played from a recipe also completes the tail of that recipe. -/
def completeRecipeTail (c : NodeController S F) (recipe : Nat) : NodeController S F :=
  match c.tails.items.findIdx? fun t => t.media.recipe == some recipe with
  | none => c
  | some index =>
    let c := c.mapPlayback (some (.tail index)) Playback.cancel
    { c with tails := c.tails.complete index c.now true }

/-- `complete_playback`: finish one attempt; a cancellation never advances a cooldown. -/
def completePlayback (c : NodeController S F) (source : Option Source)
    (outcome : PlaybackOutcome) : NodeController S F :=
  match source with
  | none | some (.courtesy _) => c
  | some (.identifier index) =>
    if outcome = .succeeded then c.satisfyIdentifier index
    else { c with identifiers := c.identifiers.defer c.rules index c.now }
  | some (.announcement index) =>
    { c with
      announcements := c.announcements.modify index fun a =>
        if outcome = .succeeded then { a with satisfied := c.now }
        else { a with retryAfter := satAdd c.now (samples a.intervalMs) } }
  | some .status =>
    let c :=
      match outcome, c.telemetry.status.bind PreparedMedia.recipe with
      | .succeeded, some recipe => (c.satisfyRecipe recipe).completeRecipeTail recipe
      | _, _ => c
    { c with telemetry := c.telemetry.finishStatus }
  | some .parrot => { c with telemetry := c.telemetry.finishParrot }
  | some (.tail index) =>
    { c with tails := c.tails.complete index c.now (decide (outcome = .succeeded)) }

end NodeController

end RptAdvanced.Controller
