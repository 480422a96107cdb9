import RptAdvanced.Audio.LinkQueue
import RptAdvanced.Controller.Run
import RptAdvanced.Lib.Planes
import RptAdvanced.Link.Hub

/-!
# Composition of peer audio (`rust/core/src/link/audio.rs`, `peer.rs`)

`LinkAudio::process` runs once for each native block. It reads every peer, lets idle inputs switch
the priority groups, gives the sum of the selected peers to the controller, and composes one program
block for the dispatcher: a plane with everything that peers may hear, and for each peer a plane
with its own contribution, which `LinkDispatcher` subtracts again.

The source's one function is cut, in its own order, into

* `AudioPeer.read`: one peer's block and whether it is active;
* `selectGroups`: the callback slot of every group;
* `notePeer`: key and unkey edges, and the sum for the transmitter;
* `render`: the controller's samples, which come back as `Program`;
* `Destination.route`: what a peer is to hear of the block;
* `ProgramBlock.fill`: the planes.

`PeerReads` are the answers that a peer's endpoint and its signals give in one callback. Control and
the channel owners run on other threads, so an answer is free in every callback, and control may act
on the controller before each of its ticks (`AudioCallback.control`). The activity edge is written
by audio alone and is a field of the peer.

`Program` keeps what a callback has mixed. `ProgramBlock.scratch` is what the dispatcher writes for
one destination.
-/

namespace RptAdvanced.Link

open Audio Controller Lib List

/-! ## Receive qualification -/

/-- Consumer-owned receive qualification. -/
structure ReceiveState where
  rate : Nat
  epoch : Nat
  ageNativeSamples : Nat
  primed : Bool
  draining : Bool
  deriving DecidableEq, Repr

namespace ReceiveState

def new (sourceRate : Nat) : Except AdmissionError ReceiveState :=
  if sourceRate = 0 || decide (48000 < sourceRate) then .error .invalid
  else .ok ⟨sourceRate, 0, 0, false, false⟩

/-- `should_render`: a primed peer drains until its end. -/
def shouldRender (epoch available : Nat) (ended : Bool) (nativeFrames : Nat) (s : ReceiveState) :
    Bool × ReceiveState :=
  let newPcm := epoch != s.epoch
  let capacity := max (s.rate * 300 / 1000) 512
  let target := min (s.rate * 260 / 1000) (capacity - satMul nativeFrames s.rate / 48000)
  let primed := s.primed || (epoch != 0 && decide (target ≤ available))
  let draining := s.draining || (primed && (newPcm || decide (0 < available)))
  (!ended && draining,
    { s with
      epoch, primed, draining
      ageNativeSamples := if newPcm then 0 else s.ageNativeSamples })

/-- `rendered`: 60 ms of concealment after the last real sample. -/
def rendered (realSamples : Option Nat) (nativeFrames : Nat) (s : ReceiveState) :
    Bool × ReceiveState :=
  let age := if realSamples.any (0 < ·) then 0 else satAdd s.ageNativeSamples nativeFrames
  let draining := realSamples.isSome && decide (age < 48000 * 60 / 1000)
  (draining, { s with ageNativeSamples := age, draining })

end ReceiveState

/-! ## Peers -/

/-- What a peer's endpoint and signals answer in one callback. -/
structure PeerReads (F : Type) where
  pcmEpoch : Nat
  available : Nat
  ended : Bool
  finitePlayout : Option Bool
  /-- The result of `render`: real samples, or a failure. -/
  real : Option Nat
  /-- The samples that `render` leaves in the output. -/
  pcm : Nat → F
  /-- `finite_playout` after rendering. -/
  finiteLater : Option Bool
  radioKeyed : Bool
  selectedSource : Option String
  /-- `ended` when the block is routed. -/
  endedLater : Bool
  replyIdentity : Nat
  telemetryAllowed : Bool

/-- `set_active`: an odd edge is an active one. -/
def setActiveEdge (active : Bool) (edge : Nat) : Nat :=
  if (edge % 2 == 1) = active then edge else (edge + 1) % 2 ^ 64

structure AudioPeer (F : Type) where
  direct : String
  mode : Mode
  receive : ReceiveState
  /-- The length of its prepared buffer. -/
  room : Nat
  /-- The samples of the present block. -/
  audio : List F
  active : Bool
  duration : Nat
  kerchunkSamples : Nat
  group : Option (SelectionId × Nat)
  groupIndex : Option Nat
  reportedActive : Bool
  /-- The activity edge in its signals. -/
  edge : Nat

namespace AudioPeer

variable {F : Type}

def new (direct : String) (mode : Mode) (sourceRate maximum kerchunkMs : Nat) :
    Except AdmissionError (AudioPeer F) :=
  if !decimalIdentity direct || maximum = 0 then .error .invalid
  else (ReceiveState.new sourceRate).map fun receive =>
    { direct, mode, receive
      room := maximum
      audio := []
      active := false
      duration := 0
      kerchunkSamples := kerchunkMs * 48
      group := none
      groupIndex := none
      reportedActive := false
      edge := 0 }

def withGroup (selection : SelectionId) (slot : Nat) (peer : AudioPeer F) : AudioPeer F :=
  { peer with group := some (selection, slot) }

/-- Whether the endpoint plays in this block: a finite source until its tail has drained, any other
one by its receive qualification. -/
def plays (count : Nat) (reads : PeerReads F) (peer : AudioPeer F) : Bool × ReceiveState :=
  match reads.finitePlayout with
  | some pending =>
    (!reads.ended && pending &&
        reads.real.any (fun real => real != 0 || reads.finiteLater == some true),
      (peer.receive.rendered none count).2)
  | none =>
    let s := peer.receive.shouldRender reads.pcmEpoch reads.available reads.ended count
    if s.1 then s.2.rendered reads.real count else s

/-- Read one block. Terminal peers are not active. -/
def read [Zero F] (count : Nat) (reads : PeerReads F) (peer : AudioPeer F) : AudioPeer F :=
  let r := peer.plays count reads
  let active := !reads.ended && (r.1 || reads.radioKeyed)
  { peer with
    receive := r.2
    audio := (range count).map fun frame => if r.1 then reads.pcm frame else 0
    active
    edge := setActiveEdge active peer.edge }

/-- The peer is in no group, or its group has selected it. -/
def selected (slots : List Nat) (peer : AudioPeer F) : Bool :=
  match peer.groupIndex with
  | none => true
  | some index => peer.group.any fun member => slots[index]? == some member.2

/-- The peer after its edge is reported: the length of its transmission, and the edge. -/
def noted (count : Nat) (slots : List Nat) (peer : AudioPeer F) : AudioPeer F :=
  let active := peer.active && peer.selected slots
  { peer with
    duration :=
      if active then satAdd (if peer.reportedActive then peer.duration else 0) count
      else peer.duration
    reportedActive := active }

/-- The peer's audio goes to other peers. -/
def sends (slots : List Nat) (peer : AudioPeer F) : Bool :=
  peer.active && peer.mode.forwards && peer.selected slots

end AudioPeer

/-! ## The program of one callback -/

/-- Position of a block in the native stream. -/
structure SourcePosition where
  generation : Nat
  sample : Nat
  stream : Nat
  bornNs : Option (Fin (2 ^ 64))
  deriving DecidableEq, Repr

/-- One call of `process`, with what it reads from other owners. -/
structure AudioCallback (S F : Type) where
  receiving : Bool
  /-- The local receive samples. -/
  audio : List F
  source : SourcePosition
  /-- The answers of each peer. -/
  reads : Nat → PeerReads F
  /-- What control does to the controller before each of its ticks. -/
  control : Nat → List (Action S F)
  /-- The parrot is found disabled. -/
  parrotDisabled : Bool
  /-- The samples of the regeneration consumer. -/
  regeneration : Nat → Option F
  /-- Local incoming speech, when it plays. -/
  text : Option (Nat → F)

/-- What a callback has mixed. -/
structure Program (F : Type) where
  receiving : Bool
  input : List F
  peers : List (AudioPeer F)
  slots : List Nat
  parrotActive : Bool
  parrot : List F
  replies : List (PeerReplySample F)

namespace Program

variable {F : Type}

def frames (p : Program F) : Nat := p.input.length

/-- How many peers are sources for others. -/
def forwardingSources (p : Program F) : Nat := (p.peers.filter (·.sends p.slots)).length

end Program

/-- Routing of a block to one peer. -/
structure Destination where
  enabled : Bool
  broadcast : Bool
  telemetry : Bool
  eligible : Bool
  target : Nat
  span : AudioSpan
  activityEdge : Nat
  deriving DecidableEq, Repr

namespace Destination

/-- `Destination::default`. -/
def silent : Destination := ⟨false, false, false, false, 0, ⟨0, 0, 0, 0, none⟩, 0⟩

variable {F : Type}

/-- The route to one peer. A rising edge of eligibility opens a burst. -/
def route (p : Program F) (source : SourcePosition) (peer : AudioPeer F) (reads : PeerReads F)
    (d : Destination) : Destination :=
  let ended := reads.endedLater
  let ownSource := if peer.sends p.slots then 1 else 0
  let target := if ended then 0 else reads.replyIdentity
  let enabled := !ended &&
    (p.parrotActive ||
      ((peer.mode.transmits || peer.group.isSome) && peer.selected p.slots &&
        (p.receiving || decide (ownSource < p.forwardingSources))))
  let broadcast := !ended && peer.mode.transmits && peer.selected p.slots
  let telemetry := reads.telemetryAllowed
  let eligible := target != 0 &&
    (enabled || (telemetry && broadcast && p.replies.any (·.broadcast.isSome)) ||
      (telemetry && p.replies.any (·.target == target)))
  { enabled, broadcast, telemetry, eligible, target
    activityEdge := peer.edge
    span :=
      { generation := source.generation
        burst := if eligible && !d.eligible then (d.span.burst + 1) % 2 ^ 64 else d.span.burst
        sourceStart := source.sample
        stream := source.stream
        bornNs := source.bornNs } }

end Destination

/-- A block on its way from the radio side to the peers. `audio` holds the composite plane and,
behind it, one plane for each destination. -/
structure ProgramBlock (F : Type) where
  audio : List F
  frames : Nat
  routing : List Destination
  replies : List (PeerReplySample F)

namespace Program

variable {F : Type} [Pcm F]

/-- Add samples to a plane, except where a message suppresses the repeat. -/
def accumulate (p : Program F) (plane samples : List F) : List F :=
  zipWith (fun a (x : PeerReplySample F × F) => if x.1.suppressRepeat then a else a + x.2)
    plane (p.replies.zip samples)

/-- The plane that all destinations share. -/
def composite (p : Program F) : List F :=
  let plane := replicate p.frames 0
  let plane := if p.receiving then p.accumulate plane p.input else plane
  let plane := p.peers.foldl
    (fun plane peer => if peer.sends p.slots then p.accumulate plane peer.audio else plane) plane
  zipWith (· + ·) plane p.parrot

/-- A destination's own contribution to it. -/
def own (p : Program F) (peer : AudioPeer F) : List F :=
  if peer.sends p.slots then
    zipWith (fun (r : PeerReplySample F) x => if r.suppressRepeat then 0 else x) p.replies
      peer.audio
  else replicate p.frames 0

end Program

namespace ProgramBlock

variable {F : Type} [Pcm F]

def new (maximum peers : Nat) : ProgramBlock F :=
  ⟨replicate (maximum * (peers + 1)) 0, 0, replicate peers Destination.silent,
    replicate maximum PeerReplySample.silent⟩

/-- Fill a recycled block; what lies behind the frames stays. -/
def fill (maximum : Nat) (routing : List Destination) (p : Program F) (b : ProgramBlock F) :
    ProgramBlock F where
  frames := p.frames
  routing
  replies := patch 0 p.replies b.replies
  audio := layPlanes maximum maximum (p.peers.map p.own) (patch 0 p.composite b.audio)

/-- The sample that the dispatcher writes for destination `index`. -/
def sample (maximum index : Nat) (d : Destination) (b : ProgramBlock F) (frame : Nat) : F :=
  let reply := b.replies.getD frame PeerReplySample.silent
  let x := if d.enabled then
      b.audio.getD frame 0 - b.audio.getD ((index + 1) * maximum + frame) 0
    else 0
  let x := if d.telemetry && d.broadcast then x + reply.broadcast.getD 0 else x
  if d.telemetry && reply.target == d.target then x + reply.sample else x

/-- The dispatcher's scratch buffer for destination `index`. -/
def scratch (maximum index : Nat) (d : Destination) (b : ProgramBlock F) : List F :=
  (range b.frames).map (b.sample maximum index d)

end ProgramBlock

/-! ## `LinkAudio` -/

/-- The prepared peer set of a generation. -/
structure LinkAudio (F : Type) where
  maximum : Nat
  peers : List (AudioPeer F)
  groups : List SelectionId
  routing : List Destination
  /-- One past the index of the peer keyed last. -/
  lastKeyed : Nat
  dropped : Nat
  peerSourceActive : Bool

/-- The tick inputs of a block, each behind what control does before it. -/
def ticksWith {S F : Type} [PcmStreamReader S F] [Pcm F] (c : NodeController S F) :
    List (List (Action S F) × StepInput F) → NodeController S F × List (StepOutput F)
  | [] => (c, [])
  | (actions, i) :: rest =>
    let r := (actions.foldl NodeController.act c).tick i
    let s := ticksWith r.1 rest
    (s.1, r.2 :: s.2)

namespace LinkAudio

variable {S F : Type} [Pcm F]

/-- Give a peer the index of its group, a new one when its cell is not among the groups. -/
def indexGroup (r : List SelectionId × List (AudioPeer F)) (peer : AudioPeer F) :
    List SelectionId × List (AudioPeer F) :=
  match peer.group with
  | none => (r.1, r.2 ++ [peer])
  | some (selection, _) =>
    match r.1.idxOf? selection with
    | some index => (r.1, r.2 ++ [{ peer with groupIndex := some index }])
    | none => (r.1 ++ [selection], r.2 ++ [{ peer with groupIndex := some r.1.length }])

/-- The groups of the peers, each once, and each peer with the index of its own. -/
def indexGroups (peers : List (AudioPeer F)) : List SelectionId × List (AudioPeer F) :=
  peers.foldl indexGroup ([], [])

/-- `new`; the two blocks of the pool are in the rings of the caller. -/
def new (peers : List (AudioPeer F)) (maximum : Nat) : Except AdmissionError (LinkAudio F) :=
  if maximum = 0 || peers.any (fun peer => decide (peer.room < maximum)) ||
      decide (2 ^ 64 ≤ maximum * (peers.length + 1)) then .error .invalid
  else .ok
    { maximum
      peers := (indexGroups peers).2
      groups := (indexGroups peers).1
      routing := replicate peers.length Destination.silent
      lastKeyed := 0
      dropped := 0
      peerSourceActive := false }

/-- Every peer reads its block. -/
def readPeers (count : Nat) (reads : Nat → PeerReads F) (peers : List (AudioPeer F)) :
    List (AudioPeer F) :=
  peers.mapIdx fun index peer => peer.read count (reads index)

/-- The callback slots of the groups, and the cells after it. -/
def selectGroups (inputsIdle : Bool) (cells : SelectionId → GroupSelection) :
    List SelectionId → List Nat × (SelectionId → GroupSelection)
  | [] => ([], cells)
  | group :: groups =>
    let r := (cells group).callbackSlot inputsIdle
    let s := selectGroups inputsIdle (Function.update cells group r.2) groups
    (r.1 :: s.1, s.2)

/-- What the loop over the peers' edges changes. -/
structure Noting (S F : Type) where
  controller : NodeController S F
  mix : List F
  lastKeyed : Nat
  peers : List (AudioPeer F)

/-- Report one peer's edge and add its audio to the transmitter's sum. -/
def notePeer (count : Nat) (slots : List Nat) (reads : Nat → PeerReads F) (n : Noting S F)
    (peer : AudioPeer F) : Noting S F :=
  let index := n.peers.length
  let active := peer.active && peer.selected slots
  let keyed := active && !peer.reportedActive
  let unkeyed := !active && peer.reportedActive
  { controller :=
      if keyed then n.controller.linkKeyed peer.direct
      else if unkeyed then
        n.controller.linkUnkeyed peer.direct ((reads index).selectedSource.getD peer.direct)
          (peer.kerchunkSamples != 0 && decide (peer.duration ≤ peer.kerchunkSamples))
      else n.controller
    mix := if active then zipWith (· + ·) n.mix peer.audio else n.mix
    lastKeyed := if keyed then index + 1 else n.lastKeyed
    peers := n.peers ++ [peer.noted count slots] }

/-- The loop over the peers' edges. -/
def notePeers (count : Nat) (slots : List Nat) (reads : Nat → PeerReads F)
    (controller : NodeController S F) (lastKeyed : Nat) (peers : List (AudioPeer F)) : Noting S F :=
  peers.foldl (notePeer count slots reads) ⟨controller, replicate count 0, lastKeyed, []⟩

/-- The parrot's tap: every receiver, clamped. -/
def parrotMix (receiving : Bool) (input : List F) (peers : List (AudioPeer F)) : List F :=
  (peers.foldl (fun plane peer => if peer.active then zipWith (· + ·) plane peer.audio else plane)
    (if receiving then input else replicate input.length 0)).map Pcm.clamp

variable [PcmStreamReader S F]

/-- `process_audio_with_parrot`, with control between its ticks. An empty block is an event. -/
def render (cb : AudioCallback S F) (linked sourceActivity : Bool) (mix : List F)
    (c : NodeController S F) : NodeController S F × List (StepOutput F) :=
  let c := if cb.parrotDisabled then { c with telemetry := c.telemetry.disableParrot } else c
  if cb.audio.isEmpty then
    (((cb.control 0).foldl NodeController.act c).processEvent cb.receiving linked sourceActivity,
      [])
  else
    let r := ticksWith (c.setActivity sourceActivity) <|
      (range cb.audio.length).map fun frame =>
        (cb.control frame,
          { receiving := cb.receiving
            linked
            sourceActivity
            input := cb.audio[frame]?
            linkSample := mix.getD frame 0
            program := some
              { parrotActive := false
                reply := true
                regeneration := cb.regeneration frame
                localMedia := cb.text.map (· frame) } })
    (r.1.advanceClock, r.2)

/-- The parrot sample of a tick. -/
def parrotSample (o : StepOutput F) : F := (o.program.map ProgramOutput.parrot).getD 0

/-- The tick rendered a parrot sample. -/
def parrotRendered (o : StepOutput F) : Bool := o.program.any ProgramOutput.parrotActive

/-- The addressed media of a tick. -/
def replySample (o : StepOutput F) : PeerReplySample F :=
  (o.program.bind ProgramOutput.reply).getD PeerReplySample.silent

/-- What a callback leaves behind before its block is published. -/
structure Mixed (S F : Type) where
  audio : LinkAudio F
  controller : NodeController S F
  cells : SelectionId → GroupSelection
  program : Program F
  /-- The transmitter's samples, and whether it is keyed. -/
  rf : List F
  keyed : Bool
  /-- What `observe_parrot` is given. -/
  tap : Bool × List F

/-- `process` up to its block, for a block that is not too long. -/
def mixed (cb : AudioCallback S F) (cells : SelectionId → GroupSelection) (c : NodeController S F)
    (a : LinkAudio F) : Mixed S F :=
  let count := cb.audio.length
  let read := readPeers count cb.reads a.peers
  let anyActive := read.any AudioPeer.active
  let groups := selectGroups (!cb.receiving && !anyActive) cells a.groups
  let noted := notePeers count groups.1 cb.reads c a.lastKeyed read
  let linked := read.any fun peer => peer.active && peer.selected groups.1
  let activity := cb.receiving || anyActive
  let nonlocal := anyActive || cb.text.isSome
  let rendered := render cb linked activity noted.mix
    { noted.controller with nonlocalSourceActivity := nonlocal }
  let program : Program F :=
    { receiving := cb.receiving
      input := cb.audio
      peers := noted.peers
      slots := groups.1
      parrotActive := rendered.2.any parrotRendered
      parrot := rendered.2.map parrotSample
      replies := rendered.2.map replySample }
  { audio := { a with
      peers := noted.peers
      lastKeyed := noted.lastKeyed
      peerSourceActive := nonlocal }
    controller := rendered.1
    cells := groups.2
    program
    rf := rendered.2.map StepOutput.rf
    keyed := rendered.1.keyed
    tap := (activity, parrotMix cb.receiving cb.audio read) }

/-- The routes of a block, one for each peer. -/
def routes (cb : AudioCallback S F) (p : Program F) (routing : List Destination) :
    List Destination :=
  (p.peers.zip routing).mapIdx fun index x => x.2.route p cb.source x.1 (cb.reads index)

end LinkAudio

end RptAdvanced.Link
