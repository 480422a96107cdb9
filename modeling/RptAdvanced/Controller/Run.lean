import RptAdvanced.Controller.Step
import RptAdvanced.Lib.Run

/-!
# Runs of a controller

The audio owner calls `process_audio` and `process_event`, the link mixer its edge and flag setters,
and control changes the shared cells and the rings between them. `Action` lists what can happen to
a controller after publication, `act` what it does. A sample block is taken apart into ticks, one
for each sample, as the loop of `process_audio_outputs` does.

`Built` are the controllers control publishes.
-/

namespace RptAdvanced.Controller

open Audio Lib Policy

/-- What can happen to a published controller. -/
inductive Action (S F : Type)
  /-- One `step`; a step with a sample also advances the clock. -/
  | tick (i : StepInput F)
  /-- `ActivitySnapshot::set_active`. -/
  | setActivity (active : Bool)
  /-- `ActivitySnapshot::advance_clock`. -/
  | advanceClock
  | linkKeyed (direct : String)
  | linkUnkeyed (direct selected : String) (kerchunk : Bool)
  | setRemoteNonFm (enabled : Bool)
  | setRemoteUnqualifiedOpen (enabled : Bool)
  | setNonlocalSourceActivity (active : Bool)
  | disableParrot
  | setSiteInhibit (inhibited : Bool)
  | cancelMessage
  /-- `MessageOccurrence::cancel_pending`. -/
  | cancelPending (occurrence : Nat)
  /-- The flag given to `cancel_when`. -/
  | cancelEnvelope (flag : Nat)
  | peerActive (peer : Nat) (active : Bool)
  | peerEnd (peer : Nat)
  | queuePreparedStatus (media : PreparedMedia S)
  | queuePreparedParrot (media : PreparedMedia S)
  | reclaim

namespace TelemetryPlanner

variable {S F : Type}

/-- `outstanding`: statuses queued and not yet reclaimed. -/
def outstanding (t : TelemetryPlanner S F) : Nat :=
  t.pending.length + t.status.toList.length + t.completed.length

def queuePreparedStatus (t : TelemetryPlanner S F) (m : PreparedMedia S) : TelemetryPlanner S F :=
  if t.outstanding < 4 then { t with pending := t.pending ++ [m] } else t

/-- `parrot_busy`: a recording is queued, playing or waiting for control. -/
def parrotBusy (t : TelemetryPlanner S F) : Bool :=
  !t.parrotPending.isEmpty || t.parrot.isSome || !t.parrotCompleted.isEmpty

/-- `queue_prepared_parrot`, while the parrot is enabled. -/
def queuePreparedParrot (t : TelemetryPlanner S F) (m : PreparedMedia S) : TelemetryPlanner S F :=
  if m.kind == .parrot && !t.parrotBusy then { t with parrotPending := [m] } else t

/-- `reclaim`: control drains both rings of finished media. -/
def reclaim (t : TelemetryPlanner S F) : TelemetryPlanner S F :=
  { t with completed := [], parrotCompleted := [] }

end TelemetryPlanner

namespace World

/-- `cancel_pending` on one occurrence. -/
def cancelPending (w : World) (o : Nat) : World :=
  { w with occurrence := Function.update w.occurrence o (w.occurrence o).cancelPending }

/-- A peer's endpoint changes. -/
def setPeer (w : World) (p : Nat) (r : PeerReply) : World :=
  { w with peer := Function.update w.peer p r }

end World

namespace NodeController

variable {S F : Type} [PcmStreamReader S F] [Pcm F]

/-- One iteration of `process_audio_outputs`, or the `step` of `process_event_with_activity`. -/
def tick (c : NodeController S F) (i : StepInput F) : NodeController S F × StepOutput F :=
  let r := c.step i
  ({ r.1 with now := if i.input.isSome then satAdd r.1.now 1 else r.1.now }, r.2)

/-- `set_active`. -/
def setActivity (c : NodeController S F) (active : Bool) : NodeController S F :=
  { c with activity := { c.activity with active } }

def advanceClock (c : NodeController S F) : NodeController S F :=
  { c with activity := { c.activity with currentSample := c.now } }

/-- `process_event_with_activity`. -/
def processEvent (c : NodeController S F) (receiving linked sourceActivity : Bool) :
    NodeController S F :=
  ((c.setActivity sourceActivity).tick ⟨receiving, linked, sourceActivity, none, 0, none⟩).1

/-- What an action does. -/
def act (c : NodeController S F) : Action S F → NodeController S F
  | .tick i => (c.tick i).1
  | .setActivity active => c.setActivity active
  | .advanceClock => c.advanceClock
  | .linkKeyed direct => c.linkKeyed direct
  | .linkUnkeyed direct selected kerchunk => c.linkUnkeyed direct selected kerchunk
  | .setRemoteNonFm enabled => { c with remoteNonFm := enabled }
  | .setRemoteUnqualifiedOpen enabled => { c with remoteUnqualifiedOpen := enabled }
  | .setNonlocalSourceActivity active => { c with nonlocalSourceActivity := active }
  | .disableParrot => { c with telemetry := c.telemetry.disableParrot }
  | .setSiteInhibit inhibited => { c with world := { c.world with siteInhibit := inhibited } }
  | .cancelMessage => { c with world := { c.world with cancelMessage := true } }
  | .cancelPending o => { c with world := c.world.cancelPending o }
  | .cancelEnvelope f =>
    { c with world := { c.world with cancelled := Function.update c.world.cancelled f true } }
  | .peerActive p active => { c with world := c.world.setPeer p { c.world.peer p with active } }
  | .peerEnd p => { c with world := c.world.setPeer p { c.world.peer p with ended := true } }
  | .queuePreparedStatus m => { c with telemetry := c.telemetry.queuePreparedStatus m }
  | .queuePreparedParrot m => { c with telemetry := c.telemetry.queuePreparedParrot m }
  | .reclaim => { c with telemetry := c.telemetry.reclaim }

/-- The transition relation of a published controller. -/
def Acts (c : NodeController S F) (a : Action S F) (d : NodeController S F) : Prop := d = c.act a

/-- The controllers control publishes: built by `new`, with tails and fresh notices installed. -/
inductive Built [One F] : NodeController S F → Prop
  | new {settings : ControllerSettings} {ids : List (Identifier S)}
      {announcements : List (PreparedMedia S × Nat)} {courtesy : CourtesySettings S}
      {morse : Bool} {duckGain : F} {world : World} {c : NodeController S F}
      (h : NodeController.new settings ids announcements courtesy morse duckGain world = some c) :
      Built c
  | setTails {c d : NodeController S F} {tails : List (PreparedMedia S × Nat × Nat)}
      (h : Built c) (ht : c.setTails tails = some d) : Built d
  | setTimeoutMedia {c : NodeController S F} {media : PreparedMedia S × PreparedMedia S}
      (h : Built c) : Built (c.setTimeoutMedia media)

omit [PcmStreamReader S F] [Pcm F] in
/-- A published controller is a new one but for its tails and notices. -/
theorem Built.eq_initial [One F] {c : NodeController S F} (h : Built c) :
    ∃ settings ids announcements courtesy duckGain world tails timeoutMedia, c =
      { initial settings ids announcements courtesy duckGain world with tails, timeoutMedia } := by
  induction h with
  | new h =>
    obtain ⟨-, ⟨⟩⟩ := Option.ite_none_right_eq_some.mp h
    exact ⟨_, _, _, _, _, _, _, _, rfl⟩
  | setTails _ ht ih =>
    obtain ⟨planner, -, rfl⟩ := Option.map_eq_some_iff.mp ht
    obtain ⟨_, _, _, _, _, _, _, _, rfl⟩ := ih
    exact ⟨_, _, _, _, _, _, _, _, rfl⟩
  | setTimeoutMedia _ ih =>
    obtain ⟨_, _, _, _, _, _, _, _, rfl⟩ := ih
    exact ⟨_, _, _, _, _, _, _, _, rfl⟩

end NodeController

end RptAdvanced.Controller
