import RptAdvanced.Controller.Node

/-!
# One tick of the controller (`NodeController::step`, `begin_timeout`, `timeout_sample`)

`step` runs once for every native sample (`input = some x`) and once for a sample-free receive edge
(`input = none`). The source's one function is cut, in its own order, into

* `observe`: a requested cancellation, the status poll, the hold of an opening status, the receive
  edges, tails and parrot admission;
* `chooseMedia`: expiry, what is ready, and who gets the playback slot;
* `renderSlot`: one sample of the slot's playback, and the end of its attempt;
* `keyTraffic`: the duplex and watchdog decision on traffic PTT;
* `settleKeying` and `mix`: final PTT, release bookkeeping and the output sample;
* `timeoutSample`: the path of a blocked watchdog, entered after `observe` or after `keyTraffic`.

The locals the later parts of the source read are the records `Observed`, `Gate`, `Release`,
`Readiness`, `Admission`, `Rendered` and `Demand`.
-/

namespace RptAdvanced.Controller

open Audio Lib Policy

/-- What a caller that collects parrot and reply media supplies for one sample. -/
structure ProgramInput (F : Type) where
  parrotActive : Bool
  reply : Bool
  regeneration : Option F
  localMedia : Option F

/-- Per-sample addressed media. -/
structure PeerReplySample (F : Type) where
  target : Nat
  sample : F
  suppressRepeat : Bool
  broadcast : Option F

/-- `PeerReplySample::default`. -/
def PeerReplySample.silent [Zero F] : PeerReplySample F := ⟨0, 0, false, none⟩

/-- What one sample leaves in the caller's parrot and reply outputs. -/
structure ProgramOutput (F : Type) where
  parrot : F
  parrotActive : Bool
  reply : Option (PeerReplySample F)

/-- The arguments of one `step`. -/
structure StepInput (F : Type) where
  receiving : Bool
  linked : Bool
  sourceActivity : Bool
  input : Option F
  linkSample : F
  program : Option (ProgramInput F)

namespace StepInput

variable {F : Type}

def receive (i : StepInput F) : Bool := i.receiving || i.linked

/-- Any local, linked or other source activity. -/
def activity (i : StepInput F) : Bool := i.receive || i.sourceActivity

/-- Independent local speech of this sample. -/
def localMedia (i : StepInput F) : Option F := i.program.bind ProgramInput.localMedia

/-- Regenerated signaling of this sample. -/
def regeneration (i : StepInput F) : Option F := i.program.bind ProgramInput.regeneration

end StepInput

/-- The sample for the transmitter and the caller's other outputs. -/
structure StepOutput (F : Type) where
  rf : F
  program : Option (ProgramOutput F)

/-- Locals of `observe` that later parts read. -/
structure Observed where
  statusIdle : Bool
  idle : Nat

/-- What the open gate allows this tick. -/
structure Gate where
  inhibited : Bool
  mayTransmit : Bool
  courtesyReady : Bool
  settled : Bool

/-- The state of release announcements. -/
structure Release where
  announcementDue : Option Nat
  ordinary : Bool
  releaseExpired : Bool

/-- Which envelopes could start this tick. -/
structure Readiness where
  pendingStatus : Bool
  peerReady : Bool
  statusReady : Bool
  parrotReady : Bool

/-- Locals of `chooseMedia` that later parts read. -/
structure Admission where
  inhibited : Bool
  mayTransmit : Bool
  ordinary : Bool
  pendingStatus : Bool
  peerReady : Bool
  statusReady : Bool
  peerStatus : Bool
  activeStream : Bool

/-- Locals of `renderSlot` that later parts read. -/
structure Rendered (F : Type) where
  source : Option Source
  policy : Option PlaybackPolicy
  exempt : Bool
  replyTarget : Option (Nat × Bool)
  sample : F
  made : Nat
  waitingForMedia : Bool
  continuingMedia : Bool

/-- Locals of `keyTraffic` that later parts read. -/
structure Demand where
  other : Bool
  transmit : Bool
  hang : Nat

namespace Rendered

variable {F : Type}

/-- Telemetry of this sample for the local transmitter. -/
def telemetryAudio (r : Rendered F) (a : Admission) : Bool := r.made != 0 && !a.peerStatus

/-- Exempt message audio of this sample. -/
def messageAudio (r : Rendered F) (a : Admission) : Bool :=
  r.exempt && (r.telemetryAudio a || (r.continuingMedia && !a.peerStatus))

/-- A configured message that mutes repeated traffic while it plays. -/
def suppressRepeat (r : Rendered F) : Bool :=
  (match r.policy with | none => false | some p => !p.repeatDuringPlayback) &&
    (r.made != 0 || r.continuingMedia)

end Rendered

/-- The phase after the notice of a phase finished. -/
def Phase.afterNotice : Phase → Phase
  | .expired => .waiting
  | .cleared => .normal
  | p => p

namespace NodeController

variable {S F : Type}

/-! ## Unkeys -/

/-- `receive_unkeyed`: every unkey restarts the watchdog; a kerchunk keeps no hang. -/
def receiveUnkeyed (c : NodeController S F) (kerchunk : Bool) : NodeController S F :=
  let c := { c with timeout := c.timeout.unkey c.now, suppressRelease := kerchunk }
  if kerchunk then { c with duplex := DuplexPolicy.idle, releaseHang := 0 } else c

/-- The due time of a courtesy scheduled now. -/
def courtesyDue (c : NodeController S F) : Nat := satAdd c.now (samples c.settings.courtesyDelayMs)

def linkUnkeyed (c : NodeController S F) (direct selected : String) (kerchunk : Bool) :
    NodeController S F :=
  let c := c.receiveUnkeyed kerchunk
  if !kerchunk && !direct.isEmpty then
    { c with courtesy := c.courtesy.schedule direct selected c.courtesyDue }
  else c

def linkKeyed (c : NodeController S F) (direct : String) : NodeController S F :=
  if direct.isEmpty then c else { c with courtesy := c.courtesy.cancel direct }

variable [PcmStreamReader S F]

/-! ## `observe` -/

/-- A requested cancellation ends the slot's attempt, or the held status. -/
def takeCancel (c : NodeController S F) : NodeController S F :=
  if c.world.cancelMessage then
    let source := c.telemetry.active.or (if c.telemetry.heldStatus then some .status else none)
    let c := { c with world := { c.world with cancelMessage := false } }.setActive none
    match c.media source with
    | none => c
    | some _ => (c.mapPlayback source Playback.cancel).completePlayback source .cancelled
  else c

def pollStatus (c : NodeController S F) : NodeController S F :=
  { c with telemetry := c.telemetry.pollStatus c.world }

/-- The status envelope's endpoint is not keyed. -/
def peerQuiet (c : NodeController S F) : Bool :=
  match c.telemetry.peerStatus with
  | none => true
  | some p => !(c.world.peer p).active

/-- `status_idle`: no source may be talking over a status. -/
def statusIdle (c : NodeController S F) (i : StepInput F) : Bool :=
  !i.linked && !c.nonlocalSourceActivity &&
    ((c.remoteNonFm && c.remoteUnqualifiedOpen) || (!i.receive && !i.sourceActivity)) &&
    i.localMedia.isNone && c.peerQuiet

/-- An admitted status that activity interrupts before its first sample gives up the slot. -/
def holdStatus (c : NodeController S F) (statusIdle : Bool) : NodeController S F :=
  match c.telemetry.status with
  | none => c
  | some m =>
    if !statusIdle && (!c.timeout.blocked && c.telemetry.active == some .status) &&
      !m.playback.hasOutput && !m.forceMorse then
      { c with
        telemetry := { c.telemetry with
          status := some (m.withPlayback ((m.playback.restart false).defer false))
          active := none
          heldStatus := true } }
    else c

/-- Receive activity: CTCSS hang, idle time, and the identifiers' activity. -/
def noteReceive (c : NodeController S F) (i : StepInput F) (idle : Nat) : NodeController S F :=
  if i.receive then
    let c := { c with
      ctcssHangUntil := satAdd (satAdd c.now 1) (samples c.settings.ctcssHangMs) }
    let c := if !c.receiver && !c.linked then { c with keyIdle := idle, suppressRelease := false }
      else c
    { c with
      lastActivity := c.now
      activity := { c.activity with lastSample := satAdd c.now 1 }
      identifiers := c.identifiers.activity }
  else c

/-- The local receiver's rising edge. -/
def noteKey (c : NodeController S F) (i : StepInput F) : NodeController S F :=
  if i.receiving && !c.receiver then
    { c with receiverKey := c.now, courtesy := c.courtesy.cancel "" }
  else c

/-- The local receiver's falling edge. -/
def noteUnkey (c : NodeController S F) (i : StepInput F) : NodeController S F :=
  if !i.receiving && c.receiver then
    let kerchunk := c.settings.kerchunkMaxMs != 0 &&
      decide (c.now - c.receiverKey ≤ samples c.settings.kerchunkMaxMs)
    let c := { c with receiverUnkey := c.now }.receiveUnkeyed kerchunk
    if kerchunk then c else { c with courtesy := c.courtesy.schedule "" "" c.courtesyDue }
  else c

/-- The last suppressed release drops its courtesy and release announcements. -/
def noteSuppressed (c : NodeController S F) (i : StepInput F) : NodeController S F :=
  if c.suppressRelease && !i.receive && (c.receiver || c.linked) then
    { c with
      courtesy := c.courtesy.pop.2
      announcements := c.announcements.map fun a =>
        if a.intervalMs = 0 then { a with releasePending := false } else a }
  else c

/-- Traffic as the tails see it, and a tail it withdrew from the slot. -/
def observeTails (c : NodeController S F) (i : StepInput F) : NodeController S F :=
  let c := { c with
    tails := c.tails.observe i.activity c.now (samples c.settings.hangMs) c.suppressRelease
      (!c.timeout.blocked) }
  match c.telemetry.active with
  | some (.tail index) =>
    if (match c.tails.items[index]? with | none => false | some t => !t.started) &&
      !c.tails.pending then c.setActive none else c
  | _ => c

/-- New activity discards a waiting parrot. -/
def noteParrot (c : NodeController S F) (i : StepInput F) : NodeController S F :=
  if i.sourceActivity && c.telemetry.parrotPendingAny then
    { c with telemetry := c.telemetry.discardPendingParrot }
  else c

/-- The part of `step` before the watchdog's gate. -/
def observe (c : NodeController S F) (i : StepInput F) : NodeController S F × Observed :=
  let c := c.takeCancel.pollStatus
  let statusIdle := c.statusIdle i
  let c := c.holdStatus statusIdle
  let idle := c.now - c.lastActivity
  let c := ((((c.noteReceive i idle).noteKey i).noteUnkey i).noteSuppressed i).observeTails i
  let c := { c with receiver := i.receiving, linked := i.linked }
  (c.noteParrot i, { statusIdle, idle })

/-! ## The blocked watchdog -/

/-- The notice the phase plays. -/
def noticeOf (phase : Phase) (media : PreparedMedia S × PreparedMedia S) :
    Option (PreparedMedia S) :=
  match phase with
  | .expired => some media.1
  | .cleared => some media.2
  | .normal | .waiting => none

/-- Put back the notice the phase plays. -/
def setNotice (phase : Phase) (media : PreparedMedia S × PreparedMedia S) (p : Playback S) :
    PreparedMedia S × PreparedMedia S :=
  match phase with
  | .expired => (media.1.withPlayback p, media.2)
  | .cleared => (media.1, media.2.withPlayback p)
  | .normal | .waiting => media

/-- Read the notice, unless the station is inhibited or there is no sample to fill. -/
def readNotice [Zero F] (notice : PreparedMedia S) (inhibited : Bool) (input : Option F) :
    Nat × List F × Playback S :=
  if !inhibited && input.isSome then notice.playback.render false [0] else (0, [0], notice.playback)

/-- Store the notice's playback; its end moves the watchdog on and restarts its interval. -/
def settleNotice (c : NodeController S F) (media : PreparedMedia S × PreparedMedia S)
    (p : Playback S) : NodeController S F :=
  let timeout : TimeoutPolicy :=
    if p.isFinished then ⟨c.now, c.timeout.phase.afterNotice⟩ else c.timeout
  { c with timeoutMedia := some (setNotice c.timeout.phase media p), timeout }

/-- One sample of the phase's notice: the controller after it, what it made, whether it goes on,
and its output. A controller without notices passes at once. -/
def playNotice [Zero F] (c : NodeController S F) (activity inhibited : Bool) (input : Option F) :
    NodeController S F × Nat × Bool × List F :=
  if c.timeout.phase = .expired ∨ c.timeout.phase = .cleared then
    match c.timeoutMedia with
    | none =>
      ({ c with timeout := ⟨c.now, if activity then .waiting else .normal⟩ }, 0, false, [0])
    | some media =>
      match noticeOf c.timeout.phase media with
      | none => (c, 0, false, [0])
      | some notice =>
        let r := readNotice notice inhibited input
        (c.settleNotice media r.2.2, r.1, r.2.2.hasOutput && !r.2.2.isFinished, r.2.1)
  else (c, 0, false, [0])

/-- A blocked tick drops the pending courtesy; with every input idle a wait is cleared. -/
def clearIdle (c : NodeController S F) (activity : Bool) : NodeController S F :=
  let timeout : TimeoutPolicy :=
    if c.timeout.phase = .waiting ∧ activity = false then { c.timeout with phase := .cleared }
    else c.timeout
  { c with courtesy := c.courtesy.pop.2, timeout }

/-- PTT of a blocked tick: the notice and its short release, never traffic. -/
def keyNotice (c : NodeController S F) (inhibited : Bool) (made : Nat) (continuing : Bool) :
    NodeController S F :=
  let lastAudio := if made ≠ 0 then c.now else c.lastAudio
  let releaseHang := if made ≠ 0 then 2400 else c.releaseHang
  let exemptRelease := if made ≠ 0 then true else c.exemptRelease
  let keyed := !inhibited && (made != 0 || continuing ||
    (exemptRelease && decide (c.now - lastAudio < releaseHang)))
  { c with
    lastAudio, releaseHang, keyed
    trafficKeyed := false
    ctcssEnabled := !c.settings.ctcssEncodeOnInput
    exemptRelease := if keyed then exemptRelease else false
    tails := if keyed then c.tails else c.tails.unkeyed c.now }

/-- `timeout_sample`: notices only, until every input has been idle and recovery is announced. -/
def timeoutSample [Pcm F] (c : NodeController S F) (activity inhibited : Bool) (input : Option F)
    (program : Option (ProgramInput F)) : NodeController S F × StepOutput F :=
  let r := (c.clearIdle activity).playNotice activity inhibited input
  (r.1.keyNotice inhibited r.2.1 r.2.2.1,
    { rf := Pcm.clamp (r.2.2.2.headD 0)
      program := program.map fun p =>
        { parrot := 0
          parrotActive := p.parrotActive
          reply := if p.reply then some PeerReplySample.silent else none } })

/-- `begin_timeout`: release the slot's producer without retiring its item. -/
def beginTimeout (c : NodeController S F) : NodeController S F :=
  let c := c.mapPlayback c.telemetry.active fun p => (p.restart false).defer false
  { c with
    tails := { c.tails with
      items := c.tails.items.map fun t =>
        if t.suspended then t.mapPlayback fun p => (p.restart false).defer false else t }
    timeoutMedia := c.timeoutMedia.map fun media =>
      (media.1.withPlayback (media.1.playback.restart false),
        media.2.withPlayback (media.2.playback.restart false))
    duplex := DuplexPolicy.idle
    trafficKeyed := false
    exemptRelease := false
    releasePending := false
    releaseHang := 0 }

/-! ## `chooseMedia` -/

/-- The endpoint of the status envelope is ready for its reply. -/
def peerReady (c : NodeController S F) : Bool :=
  match c.telemetry.peerStatus with
  | none => false
  | some p => !(c.world.peer p).active

/-- A courtesy, a status or a parrot takes the free slot. -/
def startReady (c : NodeController S F) (courtesyReady statusReady parrotReady : Bool) :
    NodeController S F :=
  if courtesyReady then
    match c.courtesy.pop with
    | (none, courtesy) => { c with courtesy }.setActive none
    | (some index, courtesy) =>
      let c := { c with courtesy }
      match c.courtesy.media[index]? with
      | none => c.setActive none
      | some _ =>
        (c.mapPlayback (some (.courtesy index)) (·.restart false)).setActive
          (some (.courtesy index))
  else if statusReady then { c with telemetry := c.telemetry.startStatus c.world }
  else if parrotReady then
    let c := { c with telemetry := c.telemetry.startParrot }
    c.setActive (c.telemetry.parrot.map fun _ => Source.parrot)
  else c

/-- A ready identifier preempts the slot's tail. -/
def preemptTail (c : NodeController S F) : NodeController S F :=
  match c.telemetry.active with
  | some (.tail index) =>
    match c.tails.items[index]? with
    | none => c.setActive none
    | some item =>
      let item :=
        if item.started then { item.mapPlayback Playback.rewind with suspended := true }
        else item.mapPlayback Playback.cancel
      { c with tails := { c.tails with items := c.tails.items.set index item } }.setActive none
  | _ => c

/-- An identifier, a tail or a release announcement takes the free slot. -/
def startPlanned (c : NodeController S F) (receive pendingStatus : Bool) (selected : Option Nat)
    (announcementDue : Option Nat) : NodeController S F :=
  match selected with
  | some index =>
    match c.ids[index]? with
    | none => c.setActive none
    | some _ =>
      (c.mapPlayback (some (.identifier index)) (·.restart receive)).setActive
        (some (.identifier index))
  | none =>
    match c.tails.ready c.now with
    | some index =>
      { c with
        tails := { c.tails with
          items := c.tails.items.modify index fun item =>
            { (if item.suspended then item else item.mapPlayback (·.restart false)) with
              suspended := false } } }.setActive (some (.tail index))
    | none =>
      if c.releasePending && !pendingStatus && c.courtesy.pending.isNone then
        match announcementDue with
        | none => c.setActive none
        | some index =>
          match c.announcements[index]? with
          | none => c.setActive none
          | some _ =>
            let c := { c with
              announcements := c.announcements.modify index fun a =>
                { a with releasePending := false } }
            (c.mapPlayback (some (.announcement index)) (·.restart false)).setActive
              (some (.announcement index))
      else c

/-- What the watchdog's open gate and the receivers allow. -/
def gate (c : NodeController S F) (i : StepInput F) : Gate :=
  { inhibited := c.world.siteInhibit
    mayTransmit := !c.world.siteInhibit && (c.transmitsDuringReceive || !i.receiving)
    courtesyReady := !i.receive && c.courtesy.ready c.now
    settled := decide (12000 ≤ c.now - c.receiverUnkey) }

/-- Expire waiting statuses and poll the envelope again. -/
def expireStatuses (c : NodeController S F) (o : Observed) (g : Gate) : NodeController S F :=
  { c with
    telemetry := c.telemetry.expireStatus c.now g.mayTransmit g.courtesyReady
      (o.statusIdle && g.settled) }.pollStatus

/-- Ordinary receive or telemetry holds the transmitter. -/
def ordinary (c : NodeController S F) (i : StepInput F) : Bool :=
  i.receive || (!c.telemetry.playsPeerReply &&
    match c.telemetry.active with
    | some .status | some (.courtesy _) | some (.identifier _) => true
    | _ => false)

/-- The announcement that is due, and whether the release hang has expired. -/
def releaseState (c : NodeController S F) (i : StepInput F) : Release :=
  { announcementDue := c.announcements.findIdx? (·.due c.now)
    ordinary := c.ordinary i
    releaseExpired := c.keyed && !c.ordinary i && c.telemetry.active.isNone &&
      decide (c.releaseHang ≤ c.now - c.lastAudio) }

/-- Receive, status and courtesy cancel a pending release announcement. -/
def clearRelease (c : NodeController S F) (i : StepInput F) : NodeController S F :=
  if i.receive || (!c.telemetry.playsPeerReply &&
      match c.telemetry.active with
      | some .status | some (.courtesy _) => true
      | _ => false)
  then { c with releasePending := false } else c

/-- An expired release hang, or an idle transmitter for a periodic one, admits it. -/
def admitRelease (c : NodeController S F) (i : StepInput F) (rel : Release) : NodeController S F :=
  let periodic := match rel.announcementDue.bind (c.announcements[·]?) with
    | none => false
    | some a => a.intervalMs != 0
  if rel.announcementDue.isSome && (rel.releaseExpired || (!c.keyed && !i.receive && periodic))
  then { c with releasePending := true } else c

/-- Which envelopes could start. -/
def readiness (c : NodeController S F) (i : StepInput F) (o : Observed) (g : Gate) : Readiness :=
  let pendingStatus := c.telemetry.statusPending && c.telemetry.peerStatus.isNone
  { pendingStatus
    peerReady := c.peerReady
    statusReady := c.telemetry.statusMorse ||
      (o.statusIdle && (c.peerReady || (g.settled && pendingStatus)))
    parrotReady := !i.sourceActivity && c.telemetry.parrotPendingAny }

/-- A ready courtesy, status or parrot takes a free slot. -/
def startTelemetry (c : NodeController S F) (g : Gate) (q : Readiness) : NodeController S F :=
  if (g.mayTransmit || q.peerReady) && c.telemetry.active.isNone then
    c.startReady g.courtesyReady q.statusReady q.parrotReady
  else c

/-- The envelope has a stream to read. -/
def streaming (m : Option (PreparedMedia S)) : Bool :=
  match m with
  | none => false
  | some m => m.playback.isStreaming

/-- `select_identifier` with this tick's `busy` and `after_hang`. -/
def chooseIdentifier (c : NodeController S F) (i : StepInput F) (rel : Release) (q : Readiness) :
    Option Nat :=
  c.selectIdentifier i.receiving
    (i.receive || i.sourceActivity || q.pendingStatus || q.parrotReady ||
      c.courtesy.pending.isSome || c.telemetry.active.isSome || c.tails.pending ||
      c.tails.hanging c.now)
    (rel.announcementDue.isNone || !c.keyed || rel.releaseExpired || c.releasePending)

/-- What would key an idle transmitter. -/
def keyDemand (c : NodeController S F) (i : StepInput F) (rel : Release) (q : Readiness)
    (activeStream : Bool) (selected : Option Nat) : Bool :=
  i.localMedia.isSome || i.regeneration.isSome || i.linked || (c.repeatsLocal && i.receiving) ||
    (c.telemetry.active.isSome && !c.telemetry.playsPeerReply && !activeStream) ||
    c.courtesy.pending.isSome || q.parrotReady ||
    (i.input.isSome && selected.isSome &&
      !streaming ((selected.bind (c.ids[·]?)).map Identifier.media)) ||
    (c.releasePending && rel.announcementDue.isSome)

/-- The transmitter's rising edge arms a first-key identifier. -/
def armFirstKey (c : NodeController S F) (idle : Nat) : NodeController S F :=
  let first := c.identifiers.firstKey c.rules (max c.keyIdle idle) c.now
  { c with
    identifiers := first.2
    firstDue := match first.1 with
      | none => c.firstDue
      | some index => c.firstDue.set index c.now
    keyIdle := 0 }

/-- The identifier to start, after a rising edge armed one. -/
def armIdentifier (c : NodeController S F) (i : StepInput F) (idle : Nat) (g : Gate)
    (rel : Release) (q : Readiness) (activeStream : Bool) : NodeController S F × Option Nat :=
  let selected := c.chooseIdentifier i rel q
  if g.mayTransmit && c.keyDemand i rel q activeStream selected && !c.keyed then
    (c.armFirstKey idle, (c.armFirstKey idle).chooseIdentifier i rel q)
  else (c, selected)

/-- A selected identifier preempts a tail; then an identifier, tail or announcement takes a free
slot. -/
def startSlot (c : NodeController S F) (i : StepInput F) (g : Gate) (rel : Release)
    (q : Readiness) (selected : Option Nat) : NodeController S F :=
  let c := if g.mayTransmit && selected.isSome && i.input.isSome then c.preemptTail else c
  if i.input.isSome && g.mayTransmit && c.telemetry.active.isNone then
    c.startPlanned i.receive q.pendingStatus selected rel.announcementDue
  else c

/-- `chooseMedia` up to the start of a ready courtesy, status or parrot; and whether the slot's
stream was being read before. -/
def admitTelemetry (c : NodeController S F) (i : StepInput F) (o : Observed) :
    NodeController S F × Release × Readiness × Bool :=
  let g := c.gate i
  let before := c.expireStatuses o g
  let rel := (before.clearRelease i).releaseState i
  let released := (before.clearRelease i).admitRelease i rel
  let q := released.readiness i o g
  let started := released.startTelemetry g q
  (started, rel, q, streaming (started.media before.telemetry.active))

/-- `chooseMedia` up to the choice of an identifier. -/
def admitIdentifier (c : NodeController S F) (i : StepInput F) (o : Observed) :
    NodeController S F × Option Nat :=
  let t := c.admitTelemetry i o
  t.1.armIdentifier i o.idle (c.gate i) t.2.1 t.2.2.1 t.2.2.2

/-- The part of `step` from the watchdog's gate to the choice of what plays. -/
def chooseMedia (c : NodeController S F) (i : StepInput F) (o : Observed) :
    NodeController S F × Admission :=
  let g := c.gate i
  let (started, rel, q, activeStream) := c.admitTelemetry i o
  let armed := c.admitIdentifier i o
  (armed.1.startSlot i g rel q armed.2,
    { inhibited := g.inhibited
      mayTransmit := g.mayTransmit
      ordinary := rel.ordinary
      pendingStatus := q.pendingStatus
      peerReady := q.peerReady
      statusReady := q.statusReady
      peerStatus := started.telemetry.playsPeerReply
      activeStream })

/-! ## `renderSlot` -/

/-- Activity that interrupts the slot's playback with its Morse substitute. -/
def interrupts (i : StepInput F) (source : Option Source) (forceMorse peerStatus : Bool) : Bool :=
  forceMorse ||
    ((i.activity || (i.localMedia.isSome && !peerStatus)) &&
      match source with
      | some (.identifier _) | some (.announcement _) | some (.tail _) | some .status => true
      | _ => false) ||
    (i.sourceActivity && source == some .parrot)

/-- Read the slot's playback, or hold it while it may not play. -/
def readSlot [Zero F] (m : PreparedMedia S) (allowed interrupt : Bool) :
    Nat × List F × Playback S :=
  if allowed then m.playback.render interrupt [0] else (0, [0], m.playback.defer interrupt)

/-- The first sample of a scheduled occurrence claims it, or is withdrawn. -/
def claimOutput [Zero F] (w : World) (occurrence : Option Nat) (first : Bool)
    (r : Nat × List F × Playback S) : World × Nat × F × Playback S :=
  match occurrence with
  | none => (w, r.1, r.2.1.headD 0, r.2.2)
  | some o =>
    if first && r.1 != 0 then
      if (w.begin o).1 then ((w.begin o).2, r.1, r.2.1.headD 0, r.2.2)
      else ((w.begin o).2, 0, 0, r.2.2.cancel)
    else (w, r.1, r.2.1.headD 0, r.2.2)

/-- One sample of an envelope: the shared cells, the samples made, the sample, its playback. -/
def playSlot [Zero F] (w : World) (m : PreparedMedia S) (allowed interrupt : Bool) :
    World × Nat × F × Playback S :=
  claimOutput w m.occurrence (!m.playback.hasOutput) (readSlot m allowed interrupt)

/-- The CTCSS decision of this sample. -/
def ctcssFor (c : NodeController S F) (i : StepInput F) (a : Admission) (source : Option Source) :
    Bool :=
  if !c.settings.ctcssEncodeOnInput then true
  else
    match source with
    | some .status => !a.peerStatus
    | some _ => false
    | none => a.pendingStatus || i.receive || decide (c.now < c.ctcssHangUntil)

/-- The slot's attempt ends when its playback does. -/
def endAttempt (c : NodeController S F) (source : Option Source) (p : Playback S) :
    NodeController S F :=
  if p.isFinished then (c.setActive none).completePlayback source p.outcome else c

/-- The slot's sources whose message is exempt from the watchdog's interval. -/
def exemptSource (source : Option Source) (policy : Option PlaybackPolicy) : Bool :=
  (match source with | some (.tail _) => true | _ => false) ||
    (source == some .status && policy.isSome)

/-- Whether this tick may read the slot: an addressed reply goes to its peer, anything else to the
transmitter. -/
def slotAllowed (c : NodeController S F) (i : StepInput F) (a : Admission) (exempt : Bool) : Bool :=
  (if a.peerStatus then a.peerReady
    else a.mayTransmit &&
      (exempt || c.timeout.allowsPlayback c.trafficKeyed c.now c.timeoutSamples)) &&
    i.input.isSome

/-- One sample of the slot, and the end of its attempt. -/
def renderSlot [Zero F] (c : NodeController S F) (i : StepInput F) (a : Admission) :
    NodeController S F × Rendered F :=
  let source := c.telemetry.active
  let policy := (c.media source).bind PreparedMedia.policy
  let exempt := exemptSource source policy
  let replyTarget := if a.peerStatus then
      c.telemetry.peerStatus.map fun p => (p, (c.world.peer p).active)
    else none
  let c := { c with ctcssEnabled := c.ctcssFor i a source }
  let forceMorse := source == some .status && c.telemetry.statusMorse
  match c.media source with
  | none =>
    (c, { source, policy, exempt, replyTarget, sample := 0, made := 0, waitingForMedia := false,
          continuingMedia := false })
  | some m =>
    let r := playSlot c.world m (c.slotAllowed i a exempt)
      (interrupts i source forceMorse a.peerStatus)
    let p := r.2.2.2
    let c := ({ c with world := r.1 }.mapPlayback source fun _ => p).endAttempt source p
    (c, { source, policy, exempt, replyTarget, sample := r.2.2.1, made := r.2.1,
          waitingForMedia := p.waitingForStream,
          continuingMedia := p.hasOutput && !p.isFinished })

/-! ## Keying and mixing -/

/-- A sample of the slot's tail starts it. -/
def noteStarted (c : NodeController S F) (r : Rendered F) : NodeController S F :=
  match c.telemetry.active with
  | some (.tail index) =>
    { c with
      tails := { c.tails with
        items := c.tails.items.modify index fun t =>
          { t with started := t.started || r.made != 0 } } }
  | _ => c

/-- The start of the slot's tail, and whether any announcement still waits. -/
def noteRendered (c : NodeController S F) (r : Rendered F) : NodeController S F :=
  let c := c.noteStarted r
  let announcing := match c.telemetry.active with
    | some (.announcement _) => true
    | _ => false
  if !c.announcements.any (·.due c.now) && !announcing then { c with releasePending := false }
  else c

/-- What asks for the transmitter. -/
def demand (c : NodeController S F) (i : StepInput F) (a : Admission) (r : Rendered F) : Demand :=
  let shortTail := match r.source with
    | some (.identifier _) | some (.announcement _) | some (.tail _) => true
    | _ => false
  let other := i.linked || (c.repeatsLocal && i.receiving) || c.courtesy.pending.isSome ||
    (a.statusReady && !a.peerStatus && !r.exempt)
  let transmit := i.localMedia.isSome || i.regeneration.isSome || other ||
    (r.telemetryAudio a && !r.exempt) ||
    (r.continuingMedia && !a.peerStatus && !r.exempt) ||
    (c.telemetry.active.isSome && !a.peerStatus && !r.exempt && !r.waitingForMedia &&
      !a.activeStream)
  { other, transmit,
    hang := if shortTail && !other then 2400 else samples c.settings.hangMs }

/-- The transmit request the duplex policy and the tails make. -/
def request (c : NodeController S F) (i : StepInput F) (a : Admission) (r : Rendered F)
    (d : Demand) : Bool × DuplexPolicy :=
  let duplex := c.duplex.update c.transmitsDuringReceive (i.receiving && !c.remoteNonFm) d.transmit
    c.now d.hang
  let requested := duplex.keyed || (a.mayTransmit && c.trafficKeyed && c.tails.hanging c.now)
  let requested := requested &&
    !(!d.transmit && c.telemetry.active.isNone && c.tails.waitingForUnkey c.now &&
      decide (min c.releaseHang 2400 ≤ c.now - c.lastAudio))
  let requested := requested ||
    (a.mayTransmit && c.trafficKeyed && (c.tails.ready c.now).isSome && !r.exempt)
  (requested, duplex)

/-- The watchdog's decision on traffic PTT. -/
def keyTraffic (c : NodeController S F) (i : StepInput F) (a : Admission) (r : Rendered F)
    (d : Demand) : NodeController S F :=
  let q := c.request i a r d
  let t := c.timeout.apply (q.1 && !a.inhibited) c.trafficKeyed c.now c.timeoutSamples
  { c with duplex := q.2, trafficKeyed := t.1, timeout := t.2 }

/-- The slot's audio keeps release announcements pending: its own never do. -/
def announces (a : Admission) (r : Rendered F) : Bool :=
  match r.source with
  | some (.announcement _) | some (.tail _) => false
  | _ => r.telemetryAudio a

/-- Final PTT and the release bookkeeping, with traffic decided: traffic starts a hang, an exempt
message a short release of its own. -/
def settleKeying (c : NodeController S F) (a : Admission) (r : Rendered F) (d : Demand) :
    NodeController S F :=
  let message := r.messageAudio a
  let traffic := d.transmit && a.mayTransmit
  let sent := message && a.mayTransmit
  let lastAudio := if traffic || sent then c.now else c.lastAudio
  let releaseHang := if sent then 2400 else if traffic then d.hang else c.releaseHang
  let exemptRelease :=
    if sent then !c.trafficKeyed || !d.other else if traffic then false else c.exemptRelease
  let keyed := c.trafficKeyed ||
    (a.mayTransmit && (message || (exemptRelease && decide (c.now - lastAudio < releaseHang))))
  { c with
    lastAudio, releaseHang, keyed
    duplex := if c.trafficKeyed then c.duplex else DuplexPolicy.idle
    exemptRelease := if keyed then exemptRelease else false
    tails := if keyed then c.tails else c.tails.unkeyed c.now
    announcements :=
      if keyed && !c.suppressRelease && (a.ordinary || announces a r) then
        c.announcements.map fun x =>
          if x.intervalMs = 0 then { x with releasePending := true } else x
      else c.announcements }

/-- The telemetry gain of this sample; only a sample moves it. -/
def stepGain [Pcm F] (c : NodeController S F) (i : StepInput F) : NodeController S F :=
  if i.input.isSome then { c with telemetry := c.telemetry.gainStep i.receive } else c

/-- Local telemetry of this sample, ducked. -/
def telemetryOut [Pcm F] (c : NodeController S F) (a : Admission) (r : Rendered F) : F :=
  if a.peerStatus then 0 else r.sample * c.telemetry.gain

/-- The transmitter's sample. -/
def rfOut [Pcm F] (c : NodeController S F) (i : StepInput F) (a : Admission) (r : Rendered F) : F :=
  let mute := r.suppressRepeat
  let localIn := if c.repeatsLocal && i.receiving && c.trafficKeyed && !mute then i.input.getD 0
    else 0
  let link := if a.mayTransmit && i.linked && !mute then i.linkSample else 0
  match i.regeneration with
  | some sample => if a.mayTransmit then sample else 0
  | none =>
    if a.inhibited then 0
    else
      let text := if a.mayTransmit && c.trafficKeyed && !mute then i.localMedia.getD 0 else 0
      Pcm.clamp (localIn + link + c.telemetryOut a r + text)

/-- The caller's parrot and reply outputs. -/
def programOut [Pcm F] (c : NodeController S F) (a : Admission) (r : Rendered F)
    (p : ProgramInput F) : ProgramOutput F :=
  let parrot := r.source == some .parrot && r.made != 0
  let broadcast := r.made != 0 &&
    match r.policy with
    | none => false
    | some policy => policy.destination == .localAndLinks
  let addressed : Option Nat := match r.replyTarget with
    | some (target, false) => if r.made ≠ 0 then some target else none
    | _ => none
  { parrot := if parrot then c.telemetryOut a r else 0
    parrotActive := p.parrotActive || parrot
    reply := if p.reply then
        some
          { target := addressed.getD 0
            sample := if addressed.isSome then r.sample else 0
            suppressRepeat := r.suppressRepeat
            broadcast := if broadcast then some (r.sample * c.telemetry.gain) else none }
      else none }

/-- The end of an unblocked tick: final PTT, gain and outputs. -/
def finishTick [Pcm F] (c : NodeController S F) (i : StepInput F) (a : Admission) (r : Rendered F)
    (d : Demand) : NodeController S F × StepOutput F :=
  let c := (c.settleKeying a r d).stepGain i
  (c, { rf := c.rfOut i a r, program := i.program.map (c.programOut a r) })

/-! ## `step` -/

/-- The slot's part of a tick: who plays, and one sample of it. -/
def slotTick [Zero F] (c : NodeController S F) (i : StepInput F) (o : Observed) :
    NodeController S F × Rendered F :=
  let admitted := c.chooseMedia i o
  let rendered := admitted.1.renderSlot i admitted.2
  (rendered.1.noteRendered rendered.2, rendered.2)

/-- What asks for the transmitter this tick. -/
def demandTick [Zero F] (c : NodeController S F) (i : StepInput F) (o : Observed) : Demand :=
  (c.slotTick i o).1.demand i (c.chooseMedia i o).2 (c.slotTick i o).2

/-- The tick up to the watchdog's decision. -/
def decideTick [Zero F] (c : NodeController S F) (i : StepInput F) (o : Observed) :
    NodeController S F :=
  (c.slotTick i o).1.keyTraffic i (c.chooseMedia i o).2 (c.slotTick i o).2 (c.demandTick i o)

/-- The part of `step` behind an open watchdog gate. -/
def trafficTick [Pcm F] (c : NodeController S F) (i : StepInput F) (o : Observed) :
    NodeController S F × StepOutput F :=
  let a := (c.chooseMedia i o).2
  let decided := c.decideTick i o
  if decided.timeout.blocked then
    decided.beginTimeout.timeoutSample i.activity a.inhibited i.input i.program
  else decided.finishTick i a (c.slotTick i o).2 (c.demandTick i o)

def step [Pcm F] (c : NodeController S F) (i : StepInput F) : NodeController S F × StepOutput F :=
  let observed := c.observe i
  if observed.1.timeout.blocked then
    observed.1.timeoutSample i.activity observed.1.world.siteInhibit i.input i.program
  else observed.1.trafficTick i observed.2

end NodeController

end RptAdvanced.Controller
