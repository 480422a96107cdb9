import RptAdvanced.Audio.Playback
import RptAdvanced.Lib.Saturating

/-!
# Prepared media and the telemetry slot (`rust/core/src/controller/telemetry.rs`)

`PreparedMedia` is the source's tuple struct with its nine fields named. What the audio owner shares
with control through `Arc`s is a `World`: an occurrence, a cancellation flag and a peer endpoint are
handles into it, so that both sides refer to one cell. The two rings to and from control are lists,
and a push into a full ring is lost, as in the source (`let _ = ring.push(media)`).

`TelemetryPlanner` holds the one playback slot (`active`), the status and parrot envelopes and the
duck gain. `site_inhibit` and `cancel_message` live in the `World`.

Results:
* `pollStatus_status`: after a poll the status slot holds no finished or superseded envelope.
* `pollStatus_active`: a poll never changes which source plays, except to release a status.
-/

namespace RptAdvanced.Controller

open Audio Lib

/-- `samples`: milliseconds at 48 kHz. -/
def samples (ms : Nat) : Nat := satMul ms 48

/-- Outputs of one configured message. -/
inductive PlaybackDestination
  | local
  | localAndLinks
  deriving DecidableEq, Repr

/-- Traffic and routing policy of a message attempt. -/
structure PlaybackPolicy where
  repeatDuringPlayback : Bool
  destination : PlaybackDestination
  deriving DecidableEq, Repr

/-- Action when a message cannot start within its polite wait. -/
inductive PoliteExpiry
  | skip
  | morse
  deriving DecidableEq, Repr

/-- Action when expired Morse is eligible but another message owns playback. -/
inductive PoliteBusy
  | skip
  | wait
  deriving DecidableEq, Repr

structure PoliteDelivery where
  maximumWaitMs : Nat
  expiry : PoliteExpiry
  busy : PoliteBusy
  deriving DecidableEq, Repr

/-- `MessageOccurrence`: pending (0), audible (1) or cancelled (2). -/
inductive MessageOccurrence
  | pending
  | audible
  | cancelled
  deriving DecidableEq, Repr

/-- `cancel_pending`: only a pending occurrence is cancelled. -/
def MessageOccurrence.cancelPending : MessageOccurrence → MessageOccurrence
  | .pending => .cancelled
  | o => o

/-- A connection's response endpoint. -/
structure PeerReply where
  active : Bool
  ended : Bool
  deriving DecidableEq, Repr

/-- The atomics the audio owner shares with control. -/
structure World where
  siteInhibit : Bool
  cancelMessage : Bool
  occurrence : Nat → MessageOccurrence
  cancelled : Nat → Bool
  peer : Nat → PeerReply

/-- `begin`: claim the first audible sample; `false` when the occurrence is not pending. -/
def World.begin (w : World) (occurrence : Nat) : Bool × World :=
  if w.occurrence occurrence = .pending then
    (true, { w with occurrence := Function.update w.occurrence occurrence .audible })
  else (false, w)

/-- Output routing of prepared playback. -/
inductive MediaKind
  | status
  | parrot
  deriving DecidableEq, Repr

/-- The start deadline of a status, and whether its Morse substitute was selected at expiry. -/
structure Delivery where
  deadline : Nat
  policy : PoliteDelivery
  selected : Bool
  deriving DecidableEq, Repr

/-- Media prepared by control. -/
structure PreparedMedia (S : Type) where
  playback : Playback S
  available : Bool
  kind : MediaKind
  reply : Option Nat
  cancelWhen : Option Nat
  delivery : Option Delivery
  occurrence : Option Nat
  policy : Option PlaybackPolicy
  recipe : Option Nat

namespace PreparedMedia

variable {S F : Type}

def newStream (stream : S) : PreparedMedia S :=
  ⟨Playback.newStream stream, true, .status, none, none, none, none, none, none⟩

/-- Apply an operation to the playback. -/
def withPlayback (m : PreparedMedia S) (p : Playback S) : PreparedMedia S :=
  { m with playback := p }

/-- `force_morse`: the expiry selected the Morse substitute. -/
def forceMorse (m : PreparedMedia S) : Bool :=
  match m.delivery with
  | none => false
  | some d => d.selected

/-- An addressed command reply: an endpoint and no message policy. -/
def isPeerReply (m : PreparedMedia S) : Bool := m.reply.isSome && m.policy.isNone

/-- An envelope control gets back unplayed: finished, superseded, or its endpoint ended. -/
def obsolete (w : World) (m : PreparedMedia S) : Bool :=
  m.playback.isFinished ||
    (match m.occurrence with | none => false | some o => w.occurrence o == .cancelled) ||
    (match m.reply with | none => false | some p => (w.peer p).ended) ||
    (match m.cancelWhen with | none => false | some f => w.cancelled f)

variable [PcmStreamReader S F]

/-- The deadline still admits an immediate start. -/
def startsInTime (d : Delivery) (now : Nat) (allowed busy primaryReady : Bool) : Bool :=
  decide (now < d.deadline) ||
    (d.policy.maximumWaitMs == 0 && now == d.deadline && allowed && !busy && primaryReady)

/-- `expire`: select the expiry action once the start deadline has passed. -/
def expire (m : PreparedMedia S) (now : Nat) (allowed busy primaryReady : Bool) : PreparedMedia S :=
  match m.delivery with
  | none => m
  | some d =>
    if m.playback.hasOutput || m.playback.isFinished || d.selected ||
      startsInTime d now allowed busy primaryReady then m
    else if d.policy.expiry == .skip || !allowed || (busy && d.policy.busy == .skip) then
      m.withPlayback m.playback.cancel
    else { m with delivery := some { d with selected := true } }

end PreparedMedia

/-- The owner of the playback slot. -/
inductive Source
  | status
  | parrot
  | courtesy (index : Nat)
  | identifier (index : Nat)
  | announcement (index : Nat)
  | tail (index : Nat)
  deriving DecidableEq, Repr

/-- A push into a bounded ring; a full ring loses the item. -/
def pushRing {α : Type} (capacity : Nat) (ring : List α) (x : α) : List α :=
  if ring.length < capacity then ring ++ [x] else ring

/-- The telemetry slot, its envelopes and the duck gain. -/
structure TelemetryPlanner (S F : Type) where
  active : Option Source
  status : Option (PreparedMedia S)
  heldStatus : Bool
  pending : List (PreparedMedia S)
  completed : List (PreparedMedia S)
  parrotPending : List (PreparedMedia S)
  parrotCompleted : List (PreparedMedia S)
  parrot : Option (PreparedMedia S)
  gain : F
  duckGain : F

namespace TelemetryPlanner

variable {S F : Type}

/-- `new`, with the duck gain computed from its decibel setting. -/
def new [One F] (duckGain : F) : TelemetryPlanner S F :=
  ⟨none, none, false, [], [], [], [], none, 1, duckGain⟩

def statusPending (t : TelemetryPlanner S F) : Bool := t.status.isSome || !t.pending.isEmpty

def statusMorse (t : TelemetryPlanner S F) : Bool :=
  match t.status with
  | none => false
  | some m => m.forceMorse

/-- `peer_status`: the endpoint of the status envelope. -/
def peerStatus (t : TelemetryPlanner S F) : Option Nat := t.status.bind PreparedMedia.reply

/-- The slot plays an addressed command reply. -/
def playsPeerReply (t : TelemetryPlanner S F) : Bool :=
  t.active == some .status &&
    match t.status with
    | none => false
    | some m => m.isPeerReply

/-- `parrot_pending`. -/
def parrotPendingAny (t : TelemetryPlanner S F) : Bool :=
  t.parrot.isSome || !t.parrotPending.isEmpty

/-- `finish_status`: return the status envelope to control. -/
def finishStatus (t : TelemetryPlanner S F) : TelemetryPlanner S F :=
  match t.status with
  | none => { t with heldStatus := false }
  | some m => { t with heldStatus := false, status := none, completed := pushRing 4 t.completed m }

def finishParrot (t : TelemetryPlanner S F) : TelemetryPlanner S F :=
  match t.parrot with
  | none => t
  | some m => { t with parrot := none, parrotCompleted := pushRing 1 t.parrotCompleted m }

def discardPendingParrot (t : TelemetryPlanner S F) : TelemetryPlanner S F :=
  match t.parrotPending with
  | [] => t
  | m :: rest =>
    { t with parrotPending := rest, parrotCompleted := pushRing 1 t.parrotCompleted m }

def disableParrot (t : TelemetryPlanner S F) : TelemetryPlanner S F :=
  let t := t.discardPendingParrot
  if t.active = some .parrot then { t with active := none }.finishParrot else t

variable [PcmStreamReader S F]

def startParrot (t : TelemetryPlanner S F) : TelemetryPlanner S F :=
  match t.parrotPending with
  | [] => { t with parrot := none }
  | m :: rest =>
    { t with
      parrotPending := rest, parrot := some (m.withPlayback (m.playback.restart false)) }

/-- Retire one obsolete status: cancel it, release the slot it played from, return it. -/
def retireStatus (t : TelemetryPlanner S F) (m : PreparedMedia S) : TelemetryPlanner S F :=
  { t with
    active := if t.active = some .status then none else t.active
    heldStatus := false
    status := none
    completed := pushRing 4 t.completed (m.withPlayback m.playback.cancel) }

/-- The loop of `poll_status` once the status slot is empty. -/
def pollPending (w : World) : TelemetryPlanner S F → List (PreparedMedia S) → TelemetryPlanner S F
  | t, [] => { t with status := none, pending := [] }
  | t, m :: rest =>
    if m.obsolete w then pollPending w (t.retireStatus m) rest
    else { t with status := some m, pending := rest }

/-- `poll_status`: skip ended endpoints and superseded notices. -/
def pollStatus (w : World) (t : TelemetryPlanner S F) : TelemetryPlanner S F :=
  match t.status with
  | none => pollPending w t t.pending
  | some m => if m.obsolete w then pollPending w (t.retireStatus m) t.pending else t

def startStatus (w : World) (t : TelemetryPlanner S F) : TelemetryPlanner S F :=
  let t := t.pollStatus w
  { t with active := t.status.map fun _ => Source.status, heldStatus := false }

/-- The pass of `expire_status` over the queued envelopes, in order. -/
def expirePending (now : Nat) (allowed primaryReady : Bool) :
    Bool → List (PreparedMedia S) → List (PreparedMedia S)
  | _, [] => []
  | blocked, m :: rest =>
    let m := m.expire now allowed blocked primaryReady
    m :: expirePending now allowed primaryReady (blocked || !m.playback.isFinished) rest

def expireStatus (t : TelemetryPlanner S F) (now : Nat) (allowed occupied primaryReady : Bool) :
    TelemetryPlanner S F :=
  let occupied := occupied || (t.active.isSome && t.active != some .status)
  let status := t.status.map fun m => m.expire now allowed occupied primaryReady
  let blocked := occupied ||
    match status with
    | none => false
    | some m => !m.playback.isFinished
  { t with
    status
    pending := expirePending now allowed primaryReady blocked t.pending }

/-- `gain_step`: one sample toward the duck or the full gain. -/
def gainStep [Pcm F] (t : TelemetryPlanner S F) (receive : Bool) : TelemetryPlanner S F :=
  let target := if receive then t.duckGain else 1
  { t with
    gain :=
      if Pcm.lt target t.gain then
        (if Pcm.lt (t.gain - Pcm.duckRamp) target then target else t.gain - Pcm.duckRamp)
      else
        (if Pcm.lt target (t.gain + Pcm.riseRamp) then target else t.gain + Pcm.riseRamp) }

/-! ## Polling -/

variable (w : World) (t : TelemetryPlanner S F) {m : PreparedMedia S}

/-- Every envelope a poll leaves in the status slot is current. -/
theorem pollPending_status (q : List (PreparedMedia S))
    (h : (pollPending w t q).status = some m) : m.obsolete w = false := by
  induction q generalizing t with
  | nil => simp [pollPending] at h
  | cons x rest ih =>
    unfold pollPending at h
    split at h
    · exact ih _ h
    rename_i hx
    cases h
    simpa using hx

theorem pollStatus_status (h : (t.pollStatus w).status = some m) : m.obsolete w = false := by
  unfold pollStatus at h
  split at h
  · exact pollPending_status w t _ h
  rename_i x hx
  split at h
  · exact pollPending_status w _ _ h
  rename_i ho
  rw [hx] at h
  cases h
  simpa using ho

theorem pollPending_active (q : List (PreparedMedia S)) : (pollPending w t q).active = t.active ∨
      ((pollPending w t q).active = none ∧ t.active = some .status) := by
  induction q generalizing t with
  | nil => exact .inl rfl
  | cons x rest ih =>
    unfold pollPending
    split
    · rcases ih (t.retireStatus x) with h | ⟨h, h'⟩
      · rw [h]
        by_cases ha : t.active = some .status
        · exact .inr ⟨if_pos ha, ha⟩
        · exact .inl (if_neg ha)
      · unfold retireStatus at h'
        split at h'
        · cases h'
        · exact .inr ⟨h, h'⟩
    · exact .inl rfl

/-- A poll keeps the slot, or releases the status that played from it. -/
theorem pollStatus_active : (t.pollStatus w).active = t.active ∨
      ((t.pollStatus w).active = none ∧ t.active = some .status) := by
  unfold pollStatus
  split
  · exact pollPending_active w t _
  rename_i m _
  split
  · rcases pollPending_active w (t.retireStatus m) t.pending with h | ⟨h, h'⟩
    · rw [h]
      by_cases ha : t.active = some .status
      · exact .inr ⟨if_pos ha, ha⟩
      · exact .inl (if_neg ha)
    · unfold retireStatus at h'
      split at h'
      · cases h'
      · exact .inr ⟨h, h'⟩
  · exact .inl rfl

end TelemetryPlanner

end RptAdvanced.Controller
