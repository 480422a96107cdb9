import RptAdvanced.Controller.Run

/-!
# A controller and its control owner (`controller/telemetry.rs`, `mod.rs`, `parrot.rs`)

`Desk` is a published `NodeController` with the `ControllerControl` that feeds it. They run on two
threads and share rings and flags.

The audio side runs callbacks: `observe_parrot`, `process_audio` and `process_event` are the lists
of their operations (`Callback.ops`), and `AudioStage` says where inside an operation the callback
is. `sync_parrot_lifecycle` is cut at its ring accesses, `apply_parrot_disable` after its load, and
`step` into the parts of `TickStage`, in the order of the source. Control may act between any two
parts. A part that accesses a ring more than once (a poll, a discard) is one move: what control does
meanwhile commutes with all but one of these accesses. `tick_parts` says that the parts, run without
interruption, are a tick.

Control's calls are moves. `set_parrot_enabled` is two, since the audio side can see its request
before its flag (`flagDue`). `reclaim` returns an iterator: `reclaimNext` is one item of it. A
capture is a handle into `captures`, because its two rings are shared.

`admitted`, `returned`, `parrotAdmitted`, `parrotReturned`, `parrotOff` and `leaked` record what
happened and decide nothing.
-/

namespace RptAdvanced.Controller

open Audio Lib Policy

/-! ## The parrot's capture -/

def maxParrotSamples : Nat := 30 * 48000

/-- A bounded capture with its two rings. Free and recycled buffers are empty, so they are
counted. -/
structure ParrotCapture (F : Type) where
  active : Bool
  recording : Bool
  current : Option (List F)
  free : Nat
  completed : List (List F)
  recycled : Nat

namespace ParrotCapture

variable {F : Type}

def new : ParrotCapture F := ⟨false, false, none, 2, [], 0⟩

/-- Take back the recycled buffers. -/
def drain (p : ParrotCapture F) : ParrotCapture F :=
  { p with free := p.free + p.recycled, recycled := 0 }

/-- The rising edge opens a free buffer. -/
def openBuffer (p : ParrotCapture F) (active : Bool) : ParrotCapture F :=
  if active && !p.active then
    if p.free = 0 then { p with current := none, recording := false }
    else { p with free := p.free - 1, current := some [], recording := true }
  else p

/-- Record up to the bound; `none` when a recording has no buffer. -/
def record [Pcm F] (p : ParrotCapture F) (active : Bool) (samples : List F) :
    Option (ParrotCapture F) :=
  if active && p.recording then
    p.current.map fun current =>
      { p with
        current := some (current ++
          (samples.take (maxParrotSamples - current.length)).map Pcm.clamp) }
  else some p

/-- The falling edge hands the burst over; an empty or undeliverable one frees its buffer. -/
def closeBuffer (p : ParrotCapture F) (active : Bool) : Option (ParrotCapture F) :=
  if !active && p.active && p.recording then
    p.current.map fun buffer =>
      let p := { p with current := none, recording := false }
      if buffer.isEmpty || 2 ≤ p.completed.length then { p with free := p.free + 1 }
      else { p with completed := p.completed ++ [buffer] }
  else some p

/-- `observe`; `none` when one of its `expect`s fails. -/
def observe [Pcm F] (p : ParrotCapture F) (active : Bool) (samples : List F) :
    Option (ParrotCapture F) :=
  ((p.drain.openBuffer active).record active samples).bind fun p =>
    (p.closeBuffer active).map fun p => { p with active }

/-- `recycle`: storage comes back unless the ring is full. -/
def recycle (p : ParrotCapture F) : ParrotCapture F :=
  if p.recycled < 2 then { p with recycled := p.recycled + 1 } else p

end ParrotCapture

inductive ParrotRequest
  | enable (capture : Nat)
  | disable
  deriving DecidableEq

inductive ParrotAck
  | enabled
  | disabled (capture : Nat)
  deriving DecidableEq

/-! ## The parts of a tick -/

namespace NodeController

variable {S F : Type} [PcmStreamReader S F]

/-- `observe` after its poll. -/
def observePolled (c : NodeController S F) (i : StepInput F) : NodeController S F × Observed :=
  let statusIdle := c.statusIdle i
  let c := c.holdStatus statusIdle
  let idle := c.now - c.lastActivity
  let c := ((((c.noteReceive i idle).noteKey i).noteUnkey i).noteSuppressed i).observeTails i
  let c := { c with receiver := i.receiving, linked := i.linked }
  (c.noteParrot i, { statusIdle, idle })

/-- `expire_status` with this tick's gate. -/
def expirePass (c : NodeController S F) (o : Observed) (g : Gate) : NodeController S F :=
  { c with
    telemetry := c.telemetry.expireStatus c.now g.mayTransmit g.courtesyReady
      (o.statusIdle && g.settled) }

/-- The release bookkeeping before a start. -/
def settleRelease (c : NodeController S F) (i : StepInput F) : NodeController S F × Release :=
  let rel := (c.clearRelease i).releaseState i
  ((c.clearRelease i).admitRelease i rel, rel)

/-- The tick after the slot's sample. -/
def finishRendered [Pcm F] (c : NodeController S F) (i : StepInput F) (a : Admission)
    (r : Rendered F) : NodeController S F × StepOutput F :=
  let c := c.noteRendered r
  let d := c.demand i a r
  let decided := c.keyTraffic i a r d
  if decided.timeout.blocked then
    decided.beginTimeout.timeoutSample i.activity a.inhibited i.input i.program
  else decided.finishTick i a r d

/-- A sample advances the clock. -/
def clocked (c : NodeController S F) (i : StepInput F) : NodeController S F :=
  { c with now := if i.input.isSome then satAdd c.now 1 else c.now }

end NodeController

/-- Which part of a tick comes next, with the locals of `step` it reads. -/
inductive TickStage (F : Type)
  | cancel (i : StepInput F)
  | poll (i : StepInput F)
  | hold (i : StepInput F)
  | gate (i : StepInput F) (o : Observed)
  | repoll (i : StepInput F) (o : Observed) (g : Gate)
  | release (i : StepInput F) (o : Observed) (g : Gate)
  | start (i : StepInput F) (o : Observed) (g : Gate) (rel : Release) (q : Readiness)
      (activeBefore : Option Source)
  | plan (i : StepInput F) (o : Observed) (g : Gate) (rel : Release) (q : Readiness)
      (activeStream peerStatus : Bool)
  | render (i : StepInput F) (o : Observed) (g : Gate) (a : Admission)
  | finish (i : StepInput F) (a : Admission) (r : Rendered F)

namespace NodeController

variable {S F : Type} [PcmStreamReader S F] [Pcm F]

/-- One part of a tick, and the next one. -/
def tickPart (c : NodeController S F) : TickStage F → NodeController S F × Option (TickStage F)
  | .cancel i => (c.takeCancel, some (.poll i))
  | .poll i => (c.pollStatus, some (.hold i))
  | .hold i => ((c.observePolled i).1, some (.gate i (c.observePolled i).2))
  | .gate i o =>
    if c.timeout.blocked then
      ((c.timeoutSample i.activity c.world.siteInhibit i.input i.program).1.clocked i, none)
    else (c.expirePass o (c.gate i), some (.repoll i o (c.gate i)))
  | .repoll i o g => (c.pollStatus, some (.release i o g))
  | .release i o g =>
    let r := c.settleRelease i
    (r.1, some (.start i o g r.2 (r.1.readiness i o g) c.telemetry.active))
  | .start i o g rel q activeBefore =>
    let started := c.startTelemetry g q
    (started, some (.plan i o g rel q (streaming (started.media activeBefore))
      started.telemetry.playsPeerReply))
  | .plan i o g rel q activeStream peerStatus =>
    let armed := c.armIdentifier i o.idle g rel q activeStream
    (armed.1.startSlot i g rel q armed.2,
      some (.render i o g
        { inhibited := g.inhibited
          mayTransmit := g.mayTransmit
          ordinary := rel.ordinary
          pendingStatus := q.pendingStatus
          peerReady := q.peerReady
          statusReady := q.statusReady
          peerStatus
          activeStream }))
  | .render i _ _ a => ((c.renderSlot i a).1, some (.finish i a (c.renderSlot i a).2))
  | .finish i a r => ((c.finishRendered i a r).1.clocked i, none)

/-- The parts of a tick from a stage on, if at most `n` of them are left. -/
def tickFrom : Nat → NodeController S F → TickStage F → Option (NodeController S F)
  | 0, _, _ => none
  | n + 1, c, stage =>
    match c.tickPart stage with
    | (c, none) => some c
    | (c, some next) => tickFrom n c next

/-- **The parts of a tick, run without interruption, are a tick.** -/
theorem tick_parts (c : NodeController S F) (i : StepInput F) :
    tickFrom 10 c (.cancel i) = some (c.tick i).1 := by
  have hobserve : c.takeCancel.pollStatus.observePolled i = c.observe i := rfl
  simp only [tickFrom, tickPart, hobserve]
  unfold tick step
  by_cases hblocked : (c.observe i).1.timeout.blocked = true
  · -- the parts end behind the gate
    simp only [hblocked, if_true]
    rfl
  · simp only [hblocked]
    rfl

end NodeController

/-! ## The audio side's callbacks -/

/-- The operations callbacks are made of. -/
inductive AudioOp (F : Type)
  /-- `sync_parrot_lifecycle`. -/
  | sync
  /-- `apply_parrot_disable`. -/
  | applyDisable
  /-- `ParrotCapture::observe` of the installed capture. -/
  | observe (active : Bool) (samples : List F)
  | setActivity (active : Bool)
  | tick (i : StepInput F)
  | advanceClock

inductive Callback (F : Type)
  | observeParrot (active : Bool) (samples : List F)
  /-- `process_audio_outputs`; `mismatch` when the caller's outputs have the wrong length. -/
  | processAudio (receiving linked sourceActivity mismatch : Bool)
      (block : List (F × F × Option (ProgramInput F)))
  /-- `process_event_with_activity`. -/
  | processEvent (receiving linked sourceActivity : Bool)

namespace Callback

variable {F : Type} [Zero F]

/-- `process_event_with_activity`. -/
def eventOps (receiving linked sourceActivity : Bool) : List (AudioOp F) :=
  [.sync, .applyDisable, .setActivity sourceActivity,
    .tick ⟨receiving, linked, sourceActivity, none, 0, none⟩]

/-- The operations of a callback, in order. -/
def ops : Callback F → List (AudioOp F)
  | .observeParrot active samples => [.sync, .observe active samples]
  | .processAudio receiving linked sourceActivity mismatch block =>
    [.sync, .applyDisable] ++
      if block.isEmpty || mismatch then eventOps receiving linked sourceActivity
      else .setActivity sourceActivity ::
        block.map (fun x => .tick ⟨receiving, linked, sourceActivity, some x.1, x.2.1, x.2.2⟩) ++
        [.advanceClock]
  | .processEvent receiving linked sourceActivity => eventOps receiving linked sourceActivity

end Callback

/-- Where inside an operation the callback is. -/
inductive AudioStage (F : Type)
  | ready
  /-- `sync_parrot_lifecycle` before its pop. -/
  | taking
  /-- `sync_parrot_lifecycle` with an acknowledgement to push. -/
  | acking (ack : ParrotAck)
  /-- `apply_parrot_disable` after it has read the flag as clear. -/
  | disabling
  | ticking (stage : TickStage F)

/-- Control's half, and the flag store it still owes. -/
structure ControllerControl where
  outstanding : Nat
  parrot : Option Nat
  parrotEnabled : Bool
  pendingParrotControl : Option Nat
  parrotLifecyclePending : Bool
  flagDue : Option Bool
  deriving DecidableEq

/-- The `expect`s of the audio side. -/
inductive DeskFault
  /-- `disable requests follow an acknowledged enable`. -/
  | disable
  /-- `recording owns a buffer`. -/
  | recording
  deriving DecidableEq

structure Desk (S F : Type) where
  node : NodeController S F
  capture : Option Nat
  pendingAck : Option ParrotAck
  stage : AudioStage F
  todo : List (AudioOp F)
  requests : Option ParrotRequest
  acknowledgements : Option ParrotAck
  parrotBusy : Bool
  parrotFlag : Bool
  captures : Nat → ParrotCapture F
  /-- How many captures were allocated. -/
  allocated : Nat
  control : ControllerControl
  /-- What control's last call returned. -/
  answer : Bool
  fault : Option DeskFault
  admitted : List (PreparedMedia S)
  returned : List (PreparedMedia S)
  parrotAdmitted : List (PreparedMedia S)
  parrotReturned : List (PreparedMedia S)
  /-- A callback has observed the parrot disabled, and control has not enabled it since. -/
  parrotOff : Bool
  /-- A parrot sample was rendered meanwhile. -/
  leaked : Bool

/-- The moves of the two sides. -/
inductive DeskMove (S F : Type)
  | callback (callback : Callback F)
  /-- The next part of the callback. -/
  | audio
  /-- A setter of the link mixer, between callbacks. -/
  | mixer (a : Action S F)
  /-- A change of the shared cells. -/
  | shared (a : Action S F)
  | queuePreparedStatus (media : PreparedMedia S)
  | queuePreparedParrot (media : PreparedMedia S)
  | setParrotEnabled (enabled : Bool)
  /-- The flag store that ends `set_parrot_enabled`. -/
  | storeFlag
  | reclaim
  /-- The next item of `reclaim`'s iterator. -/
  | reclaimNext
  | takeParrotCapture
  | recycleParrotCapture

namespace Action

variable {S F : Type}

/-- The link mixer's calls. -/
def isMixer : Action S F → Bool
  | .linkKeyed _ | .linkUnkeyed _ _ _ | .setRemoteNonFm _ | .setRemoteUnqualifiedOpen _
  | .setNonlocalSourceActivity _ => true
  | _ => false

/-- Stores to the shared cells. -/
def isShared : Action S F → Bool
  | .setSiteInhibit _ | .cancelMessage | .cancelPending _ | .cancelEnvelope _ | .peerActive _ _
  | .peerEnd _ => true
  | _ => false

end Action

namespace Desk

variable {S F : Type}

/-- A controller as `new` publishes it, with the configured parrot switch. -/
def new (c : NodeController S F) (parrotEnabled : Bool) : Desk S F where
  node := c
  capture := if parrotEnabled then some 0 else none
  pendingAck := none
  stage := .ready
  todo := []
  requests := none
  acknowledgements := none
  parrotBusy := false
  parrotFlag := parrotEnabled
  captures := fun _ => .new
  allocated := if parrotEnabled then 1 else 0
  control := ⟨0, if parrotEnabled then some 0 else none, parrotEnabled, none, false, none⟩
  answer := true
  fault := none
  admitted := []
  returned := []
  parrotAdmitted := []
  parrotReturned := []
  parrotOff := false
  leaked := false

def mapTelemetry (d : Desk S F) (f : TelemetryPlanner S F → TelemetryPlanner S F) : Desk S F :=
  { d with node := { d.node with telemetry := f d.node.telemetry } }

/-! ## Control -/

def reclaimParrotLifecycle (d : Desk S F) : Desk S F :=
  match d.acknowledgements with
  | none => d
  | some .enabled =>
    { d with
      acknowledgements := none
      control := { d.control with
        parrot := d.control.pendingParrotControl
        pendingParrotControl := none
        parrotLifecyclePending := false } }
  | some (.disabled _) =>
    { d with
      acknowledgements := none
      control := { d.control with parrot := none, parrotLifecyclePending := false } }

/-- The request of `set_parrot_enabled`. -/
def requestParrot (d : Desk S F) (enabled : Bool) : Desk S F :=
  let control := { d.control with
    parrotEnabled := enabled, parrotLifecyclePending := true, flagDue := some enabled }
  if enabled then
    { d with
      requests := some (.enable d.allocated)
      captures := Function.update d.captures d.allocated .new
      allocated := d.allocated + 1
      control := { control with pendingParrotControl := some d.allocated }
      answer := true }
  else { d with requests := some .disable, control, answer := true }

/-- `set_parrot_enabled` up to its flag store. -/
def setParrotEnabled (d : Desk S F) (enabled : Bool) : Desk S F :=
  let d := d.reclaimParrotLifecycle
  if enabled = d.control.parrotEnabled then { d with answer := true }
  else if d.control.parrotLifecyclePending || d.requests.isSome then { d with answer := false }
  else d.requestParrot enabled

/-- The flag store of `set_parrot_enabled`. -/
def storeFlag (d : Desk S F) (enabled : Bool) : Desk S F :=
  { d with
    parrotFlag := enabled
    control := { d.control with flagDue := none }
    parrotOff := d.parrotOff && !enabled }

def queuePreparedStatus (d : Desk S F) (m : PreparedMedia S) : Desk S F :=
  if d.control.outstanding = 4 then { d with answer := false }
  else if d.node.telemetry.pending.length < 4 then
    { d.mapTelemetry (fun t => { t with pending := t.pending ++ [m] }) with
      control := { d.control with outstanding := d.control.outstanding + 1 }
      admitted := d.admitted ++ [m]
      answer := true }
  else { d with answer := false }

def queuePreparedParrot (d : Desk S F) (m : PreparedMedia S) : Desk S F :=
  if !d.control.parrotEnabled || m.kind != .parrot || d.parrotBusy then { d with answer := false }
  else if d.node.telemetry.parrotPending.length < 1 then
    { d.mapTelemetry (fun t => { t with parrotPending := t.parrotPending ++ [m] }) with
      parrotBusy := true
      parrotAdmitted := d.parrotAdmitted ++ [m]
      answer := true }
  else { d with parrotBusy := false, answer := false }

/-- One item of `reclaim`'s iterator: finished statuses first. -/
def reclaimNext (d : Desk S F) : Desk S F :=
  match d.node.telemetry.completed with
  | m :: rest =>
    { d.mapTelemetry (fun t => { t with completed := rest }) with
      control := { d.control with outstanding := d.control.outstanding - 1 }
      returned := d.returned ++ [m] }
  | [] =>
    match d.node.telemetry.parrotCompleted with
    | m :: rest =>
      { d.mapTelemetry (fun t => { t with parrotCompleted := rest }) with
        parrotBusy := false
        parrotReturned := d.parrotReturned ++ [m] }
    | [] => d

/-- Change the capture control has the ends of. -/
def mapCapture (d : Desk S F) (f : ParrotCapture F → ParrotCapture F) : Desk S F :=
  match d.control.parrot with
  | none => d
  | some h => { d with captures := Function.update d.captures h (f (d.captures h)) }

/-! ## Audio -/

variable [PcmStreamReader S F] [Pcm F]

/-- The next operation of a callback; `d` has the rest. -/
def perform (d : Desk S F) : AudioOp F → Desk S F
  | .sync =>
    match d.pendingAck with
    | none => { d with stage := .taking }
    | some ack =>
      if d.acknowledgements.isNone then
        { d with pendingAck := none, acknowledgements := some ack, stage := .taking }
      else d
  | .applyDisable =>
    if d.parrotFlag then d else { d with stage := .disabling, parrotOff := true }
  | .observe active samples =>
    match d.capture with
    | none => d
    | some h =>
      match (d.captures h).observe active samples with
      | none => { d with fault := some .recording }
      | some capture => { d with captures := Function.update d.captures h capture }
  | .setActivity active => { d with node := d.node.setActivity active }
  | .tick i => { d with stage := .ticking (.cancel i) }
  | .advanceClock => { d with node := d.node.advanceClock }

/-- The pop of `sync_parrot_lifecycle`. -/
def takeParrotRequest (d : Desk S F) : Desk S F :=
  match d.requests with
  | none => { d with stage := .ready }
  | some (.enable h) =>
    { d with requests := none, capture := some h, stage := .acking .enabled }
  | some .disable =>
    match d.capture with
    | none => { d with fault := some .disable }
    | some h =>
      { d.mapTelemetry TelemetryPlanner.disableParrot with
        requests := none
        capture := none
        stage := .acking (.disabled h)
        parrotOff := true }

/-- The last push of `sync_parrot_lifecycle`; a full ring keeps the acknowledgement for later. -/
def pushAck (d : Desk S F) (ack : ParrotAck) : Desk S F :=
  if d.acknowledgements.isNone then { d with acknowledgements := some ack, stage := .ready }
  else { d with pendingAck := some ack, stage := .ready }

/-- A part renders a sample of the parrot. -/
def rendersParrot (c : NodeController S F) : TickStage F → Bool
  | .render i _ _ a => (c.renderSlot i a).2.source == some .parrot && (c.renderSlot i a).2.made != 0
  | _ => false

def tickPart (d : Desk S F) (stage : TickStage F) : Desk S F :=
  let r := d.node.tickPart stage
  { d with
    node := r.1
    stage := match r.2 with
      | none => .ready
      | some stage => .ticking stage
    leaked := d.leaked || (d.parrotOff && rendersParrot d.node stage) }

/-- The next part of the callback. -/
def audioStep (d : Desk S F) : Option (Desk S F) :=
  match d.stage, d.todo with
  | .ready, [] => none
  | .ready, op :: todo => some ({ d with todo }.perform op)
  | .taking, _ => some d.takeParrotRequest
  | .acking ack, _ => some (d.pushAck ack)
  | .disabling, _ => some { d.mapTelemetry TelemetryPlanner.disableParrot with stage := .ready }
  | .ticking stage, _ => some (d.tickPart stage)

def idle (d : Desk S F) : Bool :=
  match d.stage with
  | .ready => d.todo.isEmpty
  | _ => false

/-- One move; `none` when it is not enabled. Control does one call at a time. -/
def step (d : Desk S F) (a : DeskMove S F) : Option (Desk S F) :=
  let called : Desk S F → Option (Desk S F) := fun d' =>
    if d.control.flagDue.isNone then some d' else none
  if d.fault.isSome then none
  else match a with
    | .callback callback => if d.idle then some { d with todo := callback.ops } else none
    | .audio => d.audioStep
    | .mixer a => if d.idle && a.isMixer then some { d with node := d.node.act a } else none
    | .shared a => if a.isShared then some { d with node := d.node.act a } else none
    | .queuePreparedStatus m => called (d.queuePreparedStatus m)
    | .queuePreparedParrot m => called (d.queuePreparedParrot m)
    | .setParrotEnabled enabled => called (d.setParrotEnabled enabled)
    | .storeFlag => d.control.flagDue.map d.storeFlag
    | .reclaim => called d.reclaimParrotLifecycle
    | .reclaimNext => called d.reclaimNext
    | .takeParrotCapture => called (d.mapCapture fun p => { p with completed := p.completed.tail })
    | .recycleParrotCapture => called (d.mapCapture ParrotCapture.recycle)

def Step (d : Desk S F) (a : DeskMove S F) (d' : Desk S F) : Prop := d.step a = some d'

/-- The desks a controller is published with. -/
def Initial (d : Desk S F) : Prop :=
  ∃ c parrotEnabled, NodeController.Built c ∧ d = new c parrotEnabled

end Desk

end RptAdvanced.Controller
