import RptAdvanced.Controller.Telemetry
import RptAdvanced.Lib.Update

/-!
# Preparation handoff of composed telemetry (`rust/core/src/controller/message.rs`)

A `MessageReader` on the audio side asks control for a stream through a one-slot request ring, gets
it through a one-slot ready ring and gives it back through a one-slot retired ring. A ring of
capacity one is an `Option`.

The two sides run on different threads. A call of the reader is the list of its atomic accesses
(`ReaderCall.ops`), `take_request` is a `TakePhase` that says which access comes next, and
`Handoff.step` performs one access. `complete` and `register` access one ring or none and are one
step each. A stream between its ring slots is in the reader's `hand`, so that a `retire` is pending
whenever a hand is full.

`serial` and `attempt` of a `PreparedStream`, and the lists `issued`, `dropped`, `abandoned` and
`rendered`, record what happened and decide nothing, except that the length of `issued` is the
shared sequence number. The reader's place inside a `PreparedMedia` is left out: its calls come in
any order.
-/

namespace RptAdvanced.Controller

open Audio Lib

/-- Identity of a preparation attempt. -/
structure MessageAttemptId where
  generation : Nat
  sequence : Nat
  deriving DecidableEq, Repr

/-- The request published by recurring playback. -/
structure MessageRequest where
  attempt : MessageAttemptId
  contentIndex : Nat
  deriving DecidableEq, Repr

/-- A boxed stream that control prepared. -/
structure PreparedStream (S : Type) where
  /-- Which box this is. -/
  serial : Nat
  /-- The attempt control prepared it for. -/
  attempt : MessageAttemptId
  stream : S

/-- A finished preparation; no result is a failed one. -/
structure Ready (S : Type) where
  attempt : MessageAttemptId
  result : Option (PreparedStream S)

/-- The audio side's facade of one recipe. -/
structure MessageReader (S : Type) where
  generation : Nat
  contentIndex : Nat
  desired : Option MessageAttemptId
  outstanding : Bool
  failed : Bool
  stream : Option (PreparedStream S)

/-- The atomic accesses a reader's calls are made of, each with the local work around it. -/
inductive ReaderOp (F : Type)
  /-- Forget the attempt and take its stream for retirement. -/
  | cancel
  /-- First half of `poll`. -/
  | popReady
  /-- Second half of `poll`. -/
  | pushRequest
  /-- `fetch_update` of the shared sequence. -/
  | nextAttempt
  | render (output : List F)
  | selectMorse
  | rewind
  | deferred
  /-- The `alive` store of `drop`. -/
  | markDead

inductive ReaderCall (F : Type)
  | start
  | render (output : List F)
  | selectMorseFallback
  | rewind
  | deferBeforeOutput
  | cancel
  | drop

namespace ReaderCall

variable {F : Type}

def poll : List (ReaderOp F) := [.popReady, .pushRequest]

/-- `cancel`. -/
def cancelOps : List (ReaderOp F) := .cancel :: poll

/-- The accesses of a call, in order. -/
def ops : ReaderCall F → List (ReaderOp F)
  | .start => cancelOps ++ .nextAttempt :: poll
  | .render output => poll ++ [.render output]
  | .selectMorseFallback => poll ++ [.selectMorse]
  | .rewind => [.rewind]
  | .deferBeforeOutput => cancelOps ++ [.deferred]
  | .cancel => cancelOps
  | .drop => cancelOps ++ [.markDead]

end ReaderCall

/-- What a reader's call returned last. -/
inductive ReaderAnswer (F : Type)
  | nothing
  | pcm (read : PcmRead) (output : List F)
  | morse (switch : MorseSwitch)
  | deferred (fresh : Bool)

/-- One port: its rings, its reader and the rest of the reader's call. -/
structure MessagePort (S F : Type) where
  alive : Bool
  requests : Option MessageRequest
  ready : Option (Ready S)
  retired : Option (PreparedStream S)
  reader : MessageReader S
  /-- The stream the reader is about to retire. -/
  hand : Option (PreparedStream S)
  todo : List (ReaderOp F)
  answer : ReaderAnswer F
  /-- The dropped reader has let go of its ring ends. -/
  gone : Bool

/-- Control's end of a port. -/
structure ControlPort where
  port : Nat
  waiting : Option MessageAttemptId
  deriving DecidableEq

structure MessagePreparation where
  generation : Nat
  ports : List ControlPort
  next : Nat

/-- Where a `take_request` is: nowhere, at the `alive` load of a port, at a pop of a port's retired
ring, or with a number of request rings left to try. -/
inductive TakePhase
  | idle
  | retaining (index : Nat)
  | draining (index : Nat)
  | scanning (left : Nat)
  deriving DecidableEq

/-- The assertions: the three of the source, and the indexing of `ports`. -/
inductive HandoffFault
  | retire
  | request
  | ready
  | index
  deriving DecidableEq, Repr

/-- A stream that was read: by which port, for which attempt of its reader. -/
structure HandoffRendering where
  port : Nat
  desired : Option MessageAttemptId
  serial : Nat
  attempt : MessageAttemptId
  deriving DecidableEq

/-- The two sides. MessagePort `i` is in use when `i < count`. -/
structure Handoff (S F : Type) where
  port : Nat → MessagePort S F
  count : Nat
  control : MessagePreparation
  phase : TakePhase
  answer : Option MessageRequest
  /-- The port that took each number of the shared sequence. -/
  issued : List Nat
  /-- How many streams were prepared. -/
  prepared : Nat
  /-- The streams control destroyed. -/
  dropped : List Nat
  /-- The streams a dropped reader's ring ends destroyed. -/
  abandoned : List Nat
  rendered : List HandoffRendering
  fault : Option HandoffFault

/-- The steps of the two sides. -/
inductive HandoffMove (S F : Type)
  | register (contentIndex : Nat)
  | takeRequest
  /-- The next access of `take_request`. -/
  | control
  | complete (attempt : MessageAttemptId) (result : Option (PreparedMedia S))
  | call (port : Nat) (call : ReaderCall F)
  /-- The next access of a reader's call. -/
  | reader (port : Nat)
  /-- The reader's ring ends are dropped, after its `drop`. -/
  | release (port : Nat)

namespace MessagePort

variable {S F : Type}

/-- A port as `register` makes it. -/
def fresh (generation contentIndex : Nat) : MessagePort S F :=
  ⟨true, none, none, none, ⟨generation, contentIndex, none, false, false, none⟩, none, [], .nothing,
    false⟩

/-- The streams in the port's two stream rings. -/
def ringSerials (p : MessagePort S F) : List Nat :=
  ((p.ready.bind (·.result)).toList ++ p.retired.toList).map (·.serial)

/-- The streams the reader has. -/
def readerSerials (p : MessagePort S F) : List Nat :=
  (p.reader.stream.toList ++ p.hand.toList).map (·.serial)

/-- The port without the contents of its rings. -/
def emptied (p : MessagePort S F) : MessagePort S F :=
  { p with requests := none, ready := none, retired := none }

variable [PcmStreamReader S F]

/-- What `poll` does with a finished preparation. -/
def receive (p : MessagePort S F) (ready : Ready S) : MessagePort S F :=
  let reader := { p.reader with outstanding := false }
  match ready.result with
  | some s =>
    if reader.desired = some ready.attempt then
      let stream := some { s with stream := PcmStreamReader.start s.stream }
      { p with reader := { reader with stream } }
    else { p with reader, hand := some s }
  | none =>
    if reader.desired = some ready.attempt then { p with reader := { reader with failed := true } }
    else { p with reader }

/-- `select_morse_fallback` after its `poll`. -/
def selectMorse (p : MessagePort S F) : MessagePort S F :=
  if p.reader.failed then { p with answer := .morse .unavailable }
  else match p.reader.stream with
    | none => { p with answer := .morse .pending }
    | some s =>
      let r := PcmStreamReader.selectMorseFallback s.stream
      { p with
        reader := { p.reader with stream := some { s with stream := r.2 } }
        answer := .morse r.1 }

def rewind (p : MessagePort S F) : MessagePort S F :=
  { p with reader := { p.reader with
    stream := p.reader.stream.map fun s => { s with stream := PcmStreamReader.rewind s.stream } } }

end MessagePort

namespace Handoff

variable {S F : Type}

def new (generation : Nat) : Handoff S F :=
  ⟨fun _ => .fresh generation 0, 0, ⟨generation, [], 0⟩, .idle, none, [], 0, [], [], [], none⟩

def setPort (m : Handoff S F) (i : Nat) (p : MessagePort S F) : Handoff S F :=
  { m with port := Function.update m.port i p }

/-- The ports control still has. -/
def listed (m : Handoff S F) : List Nat := m.control.ports.map (·.port)

variable [PcmStreamReader S F]

/-- `render` after its `poll`. -/
def render (m : Handoff S F) (i : Nat) (p : MessagePort S F) (output : List F) : Handoff S F :=
  if p.reader.failed then m.setPort i { p with answer := .pcm .failed output }
  else match p.reader.stream with
    | none => m.setPort i { p with answer := .pcm .pending output }
    | some s =>
      let r := PcmStreamReader.render s.stream output
      { m with rendered := ⟨i, p.reader.desired, s.serial, s.attempt⟩ :: m.rendered }.setPort i
        { p with
          reader := { p.reader with stream := some { s with stream := r.2.2 } }
          answer := .pcm r.1 r.2.1 }

/-- The second half of `poll`. -/
def pushRequest (m : Handoff S F) (i : Nat) (p : MessagePort S F) : Handoff S F :=
  match p.reader.desired with
  | none => m.setPort i p
  | some attempt =>
    if p.reader.failed || p.reader.outstanding || p.reader.stream.isSome then m.setPort i p
    else match p.requests with
      | some _ => { m with fault := some .request }
      | none => m.setPort i { p with
          requests := some ⟨attempt, p.reader.contentIndex⟩
          reader := { p.reader with outstanding := true } }

/-- The attempt of a `start`. -/
def nextAttempt (m : Handoff S F) (i : Nat) (p : MessagePort S F) : Handoff S F :=
  let sequence := m.issued.length
  if sequence < u64Max then
    { m with issued := m.issued ++ [i] }.setPort i { p with
      reader := { p.reader with failed := false, desired := some ⟨p.reader.generation, sequence⟩ } }
  else m.setPort i { p with reader := { p.reader with failed := true, desired := none } }

/-- One access of a reader's call; `p` is the reader's port with the rest of the call. -/
def perform (m : Handoff S F) (i : Nat) (p : MessagePort S F) : ReaderOp F → Handoff S F
  | .cancel => m.setPort i { p with
      hand := p.reader.stream, reader := { p.reader with desired := none, stream := none } }
  | .popReady =>
    match p.ready with
    | none => m.setPort i p
    | some ready => m.setPort i ({ p with ready := none }.receive ready)
  | .pushRequest => m.pushRequest i p
  | .nextAttempt => m.nextAttempt i p
  | .render output => m.render i p output
  | .selectMorse => m.setPort i p.selectMorse
  | .rewind => m.setPort i p.rewind
  | .deferred => m.setPort i { p with answer := .deferred true }
  | .markDead => m.setPort i { p with alive := false }

/-- `retire` of the stream in hand. -/
def retire (m : Handoff S F) (i : Nat) (p : MessagePort S F) (s : PreparedStream S) : Handoff S F :=
  match p.retired with
  | some _ => { m with fault := some .retire }
  | none => m.setPort i { p with
      hand := none, retired := some { s with stream := PcmStreamReader.cancel s.stream } }

/-- The next access of the reader of port `i`. -/
def readerStep (m : Handoff S F) (i : Nat) : Option (Handoff S F) :=
  match (m.port i).hand, (m.port i).todo with
  | some s, _ => some (m.retire i (m.port i) s)
  | none, [] => none
  | none, op :: todo => some (m.perform i { m.port i with todo } op)

/-- Control drops its end of a port; the rings go with it when the reader's ends are gone. -/
def dropPort (m : Handoff S F) (index : Nat) (c : ControlPort) : Handoff S F :=
  let m := { m with control := { m.control with ports := m.control.ports.eraseIdx index } }
  if (m.port c.port).gone then
    { m with dropped := (m.port c.port).ringSerials ++ m.dropped }.setPort c.port
      (m.port c.port).emptied
  else m

/-- The `alive` load of one port, and after the last one the turn of `next`. -/
def retain (m : Handoff S F) (index : Nat) : Handoff S F :=
  match m.control.ports[index]? with
  | some c =>
    if (m.port c.port).alive then { m with phase := .retaining (index + 1) } else m.dropPort index c
  | none =>
    let next := if m.control.next ≥ m.control.ports.length then 0 else m.control.next
    { m with control := { m.control with next }, phase := .draining 0 }

/-- One pop of a retired ring. -/
def drain (m : Handoff S F) (index : Nat) : Handoff S F :=
  match m.control.ports[index]? with
  | some c =>
    match (m.port c.port).retired with
    | some s => { m with dropped := s.serial :: m.dropped }.setPort c.port
        { m.port c.port with retired := none }
    | none => { m with phase := .draining (index + 1) }
  | none => { m with phase := .scanning m.control.ports.length }

/-- One pop of a request ring. -/
def scan (m : Handoff S F) (left : Nat) : Handoff S F :=
  let index := m.control.next
  let control := { m.control with next := (index + 1) % m.control.ports.length }
  match control.ports[index]? with
  | none => { m with fault := some .index }
  | some c =>
    match (m.port c.port).requests with
    | none => { m with control, phase := .scanning left }
    | some request =>
      { m with
        control := { control with
          ports := control.ports.set index { c with waiting := some request.attempt } }
        phase := .idle
        answer := some request }.setPort c.port { m.port c.port with requests := none }

/-- The next access of `take_request`. -/
def controlStep (m : Handoff S F) : Option (Handoff S F) :=
  match m.phase with
  | .idle => none
  | .retaining index => some (m.retain index)
  | .draining index => some (m.drain index)
  | .scanning 0 => some { m with phase := .idle, answer := none }
  | .scanning (left + 1) => some (m.scan left)

def register (m : Handoff S F) (contentIndex : Nat) : Handoff S F :=
  { m with
    count := m.count + 1
    control := { m.control with
      ports := m.control.ports ++ [ControlPort.mk m.count none] } }.setPort m.count
        (.fresh m.control.generation contentIndex)

/-- `complete`: the media of an attempt no port waits for goes back to the caller. -/
def complete (m : Handoff S F) (attempt : MessageAttemptId) (result : Option (PreparedMedia S)) :
    Handoff S F :=
  match updateFirst (·.waiting == some attempt)
      (fun c : ControlPort => (c.port, { c with waiting := none })) m.control.ports with
  | (none, _) => m
  | (some i, ports) =>
    let stream := result.bind fun media => media.playback.takeStream.1
    match (m.port i).ready with
    | some _ => { m with fault := some .ready }
    | none =>
      { m with
        control := { m.control with ports }
        prepared := m.prepared + stream.toList.length }.setPort i
          { m.port i with
            ready := some (Ready.mk attempt (stream.map (PreparedStream.mk m.prepared attempt))) }

/-- The ring ends of a dropped reader go; the rings go with them when control's ends are gone. -/
def release (m : Handoff S F) (i : Nat) : Handoff S F :=
  let p := { m.port i with gone := true }
  if i ∈ m.listed then m.setPort i p
  else { m with abandoned := p.ringSerials ++ m.abandoned }.setPort i p.emptied

/-- One step; `none` when it is not enabled. Control does one thing at a time, and so does each
reader. Nothing runs on after a failed assertion. -/
def step (m : Handoff S F) (a : HandoffMove S F) : Option (Handoff S F) :=
  if m.fault.isSome then none
  else match a with
    | .register contentIndex => if m.phase = .idle then some (m.register contentIndex) else none
    | .takeRequest => if m.phase = .idle then some { m with phase := .retaining 0 } else none
    | .control => m.controlStep
    | .complete attempt result => if m.phase = .idle then some (m.complete attempt result) else none
    | .call i call =>
      if i < m.count ∧ (m.port i).alive ∧ (m.port i).hand.isNone ∧ (m.port i).todo.isEmpty then
        some (m.setPort i { m.port i with todo := call.ops })
      else none
    | .reader i => if i < m.count then m.readerStep i else none
    | .release i =>
      if i < m.count ∧ (m.port i).alive = false ∧ (m.port i).gone = false then some (m.release i)
      else none

end Handoff

end RptAdvanced.Controller
