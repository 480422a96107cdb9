import RptAdvanced.Lib.Ring
import RptAdvanced.Site.Policy

/-!
# The owner of one physical device

Model of `product/src/site/endpoint.rs` and `product/src/site/worker.rs`: the endpoints of one
external device, the station control's side of its owner (`DeviceWorker`) and the owner's thread
(`acquire`), which share two rings for each endpoint list, a one-place ring of replacement lists and
a fence of four atomics.

Both sides are written as positions between their operations on the shared state: `Stance` for the
call station control is in, `Position` for the loop of the owner. One step is one ring or atomic
operation with the local work that follows it; opening an endpoint and reading or writing it are
steps of their own. What only control writes (`request`, read back by its own calls) is read in the
step that uses it. A device may answer anything (`DeviceAnswer`), the permits of requests may change
at any time, and a parked thread may wake without cause.

A pair of rings is known by its number in `lanes`. Kept beside the source's state: a ticket for
every accepted request, a context for every opened endpoint, the list control last committed, and
the `log` of what happened, latest first. A call that returns leaves its answer in `answer`.
Dropping the whole worker (`Drop`), where the thread is joined unconditionally, is left out.
-/

namespace RptAdvanced.Site

open Lib Analog

/-! ## Endpoints -/

/-- `Direction`: the role of an endpoint, with its startup and safe level. -/
inductive Direction where
  | input (activeHigh : Bool)
  | output (activeHigh startupOn safeOn : Bool)
deriving DecidableEq, Repr

namespace Direction

def isOutput : Direction → Bool
  | .input _ => false
  | .output .. => true

def activeHigh : Direction → Bool
  | .input high => high
  | .output high _ _ => high

/-- `Direction::levels`: startup and safe. -/
def levels : Direction → Bool × Bool
  | .input _ => (false, false)
  | .output _ startup safe => (startup, safe)

/-- `Direction::same_io`: startup and safe levels are policy. -/
def sameIo (a b : Direction) : Bool :=
  a.isOutput == b.isOutput && a.activeHigh == b.activeHigh

end Direction

inductive Sample (F : Type) where
  | number (value : F)
  | digital (active : Bool)
deriving DecidableEq, Repr

/-- One entry of an owner's endpoint list. -/
abbrev DeviceBinding := SiteEndpoint × Direction

def sameBinding (first second : DeviceBinding) : Bool :=
  decide (first.1 = second.1) && first.2.sameIo second.2

def sameDevice (settings : List DeviceBinding) (identity : SiteEndpoint) : Bool :=
  settings.all fun binding =>
    decide (binding.1.backend = identity.backend) && decide (binding.1.device = identity.device)

/-- What the device and the clock answer to one step of the owner. `status` and `metadata` are the
codes of a write and of a change of the safe level, for each context. -/
structure DeviceAnswer (F : Type) where
  nowMs : Nat
  wakes : Bool
  opened : Except ReadingQuality Unit
  sample : Except ReadingQuality (Sample F)
  status : Nat → Except ReadingQuality Unit
  metadata : Nat → Except ReadingQuality Unit

/-- `Endpoint`: an opened context. -/
structure Endpoint where
  context : Nat
  backend : SiteBackend
  direction : Direction
deriving DecidableEq, Repr

namespace Endpoint

variable {F : Type}

def openAt (binding : DeviceBinding) (context : Nat) (device : DeviceAnswer F) :
    Except ReadingQuality Endpoint :=
  let opened := device.opened.map fun _ =>
    { context, backend := binding.1.backend, direction := binding.2 }
  match binding.1.backend with
  | .gpiod | .hwmon => opened
  | .iio => if binding.2.isOutput then .error .unavailable else opened
  | .cm119 | .parallel => .error .unavailable

def read (e : Endpoint) (device : DeviceAnswer F) : Except ReadingQuality (Sample F) :=
  if e.direction.isOutput then .error .unavailable else device.sample

variable [DecidableEq F] [Analog F]

def write (e : Endpoint) (demand : F) (device : DeviceAnswer F) : Except ReadingQuality Unit :=
  if e.backend = .iio ∨ e.direction.isOutput = false then .error .unavailable
  else if (isFinite demand && le zero demand && le demand one) = false then .error .fault
  else if e.backend = .gpiod ∧ demand ≠ zero ∧ demand ≠ one then .error .unavailable
  else device.status e.context

def pwm (e : Endpoint) : Bool := e.direction.isOutput && decide (e.backend = .hwmon)

def safe (e : Endpoint) (device : DeviceAnswer F) : Except ReadingQuality Unit :=
  if e.direction.isOutput then
    e.write (if e.direction.levels.2 then one else zero) device
  else .ok ()

/-- `Endpoint::reconfigure`: the endpoint after it, and whether it failed. -/
def reconfigure (e : Endpoint) (direction : Direction) (device : DeviceAnswer F) :
    Endpoint × Bool :=
  if e.direction.sameIo direction = false then (e, true)
  else
    let code := if e.backend ≠ .iio ∧ e.direction.levels.2 ≠ direction.levels.2 then
        device.metadata e.context
      else .ok ()
    if code.isOk then ({ e with direction }, false) else (e, true)

end Endpoint

namespace DeviceWorker

/-! ## The shared state -/

/-- A word of the fence: a sequence number over three bits of kind. -/
abbrev Word := BitVec 64

def RUN : Word := 0
def PAUSE : Word := 1
def SAFE : Word := 2
def CLOSE : Word := 3
def PREPARE : Word := 4
def INSTALL : Word := 5
def KIND : Word := 7

/-- `request & KIND`. -/
def kind (w : Word) : Word := w &&& KIND

/-- The word `DeviceWorker::signal` stores after `previous`. -/
def nextWord (previous kind : Word) : Word := ((previous + (KIND + 1)) &&& ~~~KIND) ||| kind

structure Request (F W : Type) where
  ticket : Nat
  index : Nat
  demand : Option F
  work : W

inductive Outcome (F : Type) where
  | reading (sample : Sample F)
  | submitted (pwm : Bool)

structure Reply (F W : Type) where
  ticket : Nat
  index : Nat
  work : W
  completedAtMs : Nat
  outcome : Except ReadingQuality (Outcome F)

/-- The two rings of one endpoint list. -/
structure Lanes (F W : Type) where
  requests : RingBuffer (Request F W)
  replies : RingBuffer (Reply F W)

def Lanes.new {F W : Type} (n : Nat) : Lanes F W := ⟨.new n, .new n⟩

structure Handoff where
  settings : List DeviceBinding
  lane : Nat

/-- `Staged`, with the list it was prepared for. -/
structure Staged where
  settings : List DeviceBinding
  lane : Nat
  pending : List Bool

inductive Event where
  /-- A request is accepted for an endpoint of the list control holds. -/
  | accepted (ticket index : Nat) (settings : List DeviceBinding)
  /-- The owner performs it against its own list. -/
  | performed (ticket index : Nat) (settings : List DeviceBinding)
  | replied (ticket : Nat)
  | received (ticket index : Nat)
  | opened (context : Nat)
  | read (context : Nat)
  | written (context : Nat)
  /-- A write of the safe level, and whether it succeeded. -/
  | safed (context : Nat) (ok : Bool)
  /-- A binding change drops an endpoint. -/
  | dropped (context : Nat) (output : Bool)
  /-- Control finds its fence acknowledged. -/
  | observed (ok : Bool)
  | resumed
deriving DecidableEq

/-! ## The two sides -/

/-- The calls of station control. -/
inductive Call (F W : Type) where
  | submit (index : Nat) (demand : Option F) (work : W)
  | poll
  | pause (safe : Bool)
  | barrier
  | stage (settings : List DeviceBinding)
  | commit
  | resume
  | finish

/-- What a call returns. -/
inductive Answer (F W : Type) where
  | unit
  | flag (value : Bool)
  | reply (value : Option (Reply F W))
  | barrier (value : Option (Except ReadingQuality Unit))

/-- Where station control is in its call. -/
inductive Stance (F W : Type) where
  | idle
  | entered (call : Call F W)
  /-- `barrier` has found the acknowledgement; the quality comes next. -/
  | acknowledged (call : Call F W)
  /-- `submit` is about to push. -/
  | pushing (index : Nat) (demand : Option F) (work : W)
  /-- `stage` is about to push its handoff. -/
  | handing (settings : List DeviceBinding)
  /-- `commit` is about to set the install flag. -/
  | exchanging
  /-- `signal` is about to store a request. -/
  | signalling (kind : Word)
  /-- `wake` comes next; a finishing call then joins the thread. -/
  | waking (finishing : Bool) (answer : Answer F W)
  | joining
  | panicked

structure Control (F W : Type) where
  settings : List DeviceBinding
  lane : Nat
  pending : List Bool
  identity : SiteEndpoint
  staged : Option Staged
  thread : Bool
  stance : Stance F W
  answer : Answer F W

/-- Where the owner is in its loop, with the request word it has loaded. -/
inductive Position (F W : Type) where
  | top
  | loaded (word : Word)
  | draining (word : Word)
  | answering (word : Word) (request : Request F W) (outcome : Except ReadingQuality (Outcome F))
  | replying (word : Word) (request : Request F W) (outcome : Except ReadingQuality (Outcome F))
  | fencing (word : Word)
  | changing (word : Word) (failed : Bool)
  | judged (word : Word) (failed : Bool)
  | acking (word : Word)
  | settled (word : Word)
  | performing (word : Word) (request : Request F W)
  | opening (word : Word) (request : Request F W)
  | revalidating (word : Word) (request : Request F W)
  | transacting (word : Word) (request : Request F W)
  | parked
  | exited
  | panicked

/-- The local state of `acquire`. -/
structure Owner (F W : Type) where
  settings : List DeviceBinding
  endpoints : List (Option Endpoint)
  lane : Nat
  seen : Word
  prepared : Option Handoff
  installFailed : Bool
  position : Position F W

/-- Both sides and what they share. -/
structure Desk (F W : Type) where
  request : Word
  acknowledged : Word
  quality : Bool
  install : Bool
  handoffs : RingBuffer Handoff
  lanes : Nat → Lanes F W
  token : Bool
  permits : W → Bool
  control : Control F W
  owner : Owner F W
  issued : Nat
  tickets : Nat
  contexts : Nat
  log : List Event

namespace Desk

variable {F W : Type}

def start (settings : List DeviceBinding) (permits : W → Bool) : Option (Desk F W) :=
  match settings with
  | [] => none
  | first :: _ =>
    if sameDevice settings first.1 then
      some
        { request := RUN, acknowledged := RUN, quality := false, install := false,
          handoffs := .new 1, lanes := fun _ => .new settings.length, token := false,
          permits := permits,
          control :=
            { settings, lane := 0, pending := List.replicate settings.length false,
              identity := first.1, staged := none, thread := true, stance := .idle,
              answer := .unit },
          owner :=
            { settings, endpoints := List.replicate settings.length none, lane := 0,
              seen := RUN, prepared := none, installFailed := false, position := .top },
          issued := 1, tickets := 0, contexts := 0, log := [] }
    else none

/-- Add events, the first of them the latest. -/
def record (d : Desk F W) (events : List Event) : Desk F W := { d with log := events ++ d.log }

/-- Control goes on at a stance. -/
def stand (d : Desk F W) (stance : Stance F W) : Desk F W :=
  { d with control := { d.control with stance } }

def return_ (d : Desk F W) (answer : Answer F W) : Desk F W :=
  { d with control := { d.control with stance := .idle, answer } }

/-- The owner goes on at a position. -/
def goto (d : Desk F W) (position : Position F W) : Desk F W :=
  { d with owner := { d.owner with position } }

/-- A ring of requests after a push or a pop. -/
def setRequests (d : Desk F W) (lane : Nat) (requests : RingBuffer (Request F W)) : Desk F W :=
  { d with
    lanes := Function.update d.lanes lane { requests, replies := (d.lanes lane).replies } }

/-- A ring of replies after a push or a pop. -/
def setReplies (d : Desk F W) (lane : Nat) (replies : RingBuffer (Reply F W)) : Desk F W :=
  { d with
    lanes := Function.update d.lanes lane { requests := (d.lanes lane).requests, replies } }

/-- `DeviceWorker::signal`, up to its wake-up. -/
def signal (d : Desk F W) (kind : Word) (answer : Answer F W) : Desk F W :=
  { d with request := nextWord d.request kind }.stand (.waking (decide (kind = CLOSE)) answer)

/-! ## Station control -/

/-- What a call returns when its barrier is not there. -/
def refusal : Call F W → Answer F W
  | .barrier => .barrier none
  | _ => .flag false

/-- The part of a call before its barrier: the kind of request it requires. -/
def requires (d : Desk F W) : Call F W → Bool
  | .commit => decide (kind d.request = PREPARE)
  | .finish => decide (kind d.request = SAFE)
  | _ => true

/-- The rest of a call, once `barrier` has returned its quality. -/
def conclude (d : Desk F W) (call : Call F W) (ok : Bool) : Desk F W :=
  match call with
  | .stage settings =>
    if d.control.thread = false ∨ d.control.pending.any id ∨
        sameDevice settings d.control.identity = false then d.return_ (.flag false)
    else d.stand (.handing settings)
  | .commit => if ok then d.stand .exchanging else d.return_ (.flag false)
  | .resume =>
    if ok = false ∨ d.control.thread = false ∨ d.control.staged.isSome then
      d.return_ (.flag false)
    else d.stand (.signalling RUN)
  | .finish => if ok then d.stand (.signalling CLOSE) else d.return_ (.flag false)
  | _ => d.return_ (.barrier (some (if ok then .ok () else .error .fault)))

/-- `DeviceWorker::submit`, up to its push. -/
def submit (d : Desk F W) (index : Nat) (demand : Option F) (work : W) : Desk F W :=
  if d.control.thread = false ∨ kind d.request ≠ RUN ∨ d.control.pending[index]? ≠ some false ∨
      d.permits work = false then d.return_ (.flag false)
  else d.stand (.pushing index demand work)

/-- The push of `submit`. -/
def push (d : Desk F W) (index : Nat) (demand : Option F) (work : W) : Desk F W :=
  match (d.lanes d.control.lane).requests.push { ticket := d.tickets, index, demand, work } with
  | none => d.stand .panicked
  | some requests =>
    { d.setRequests d.control.lane requests with
      tickets := d.tickets + 1
      control := { d.control with
        pending := d.control.pending.set index true
        stance := .waking false (.flag true) }
      log := .accepted d.tickets index d.control.settings :: d.log }

def poll (d : Desk F W) : Desk F W :=
  match (d.lanes d.control.lane).replies.pop with
  | none => d.return_ (.reply none)
  | some (reply, replies) =>
    if reply.index < d.control.pending.length then
      { d.setReplies d.control.lane replies with
        control := { d.control with
          pending := d.control.pending.set reply.index false
          stance := .idle
          answer := .reply (some reply) }
        log := .received reply.ticket reply.index :: d.log }
    else d.stand .panicked

/-- The push of `stage`, on rings of its own. -/
def hand (d : Desk F W) (settings : List DeviceBinding) : Desk F W :=
  match d.handoffs.push { settings, lane := d.issued } with
  | none => d.stand .panicked
  | some handoffs =>
    { d with
      handoffs
      lanes := Function.update d.lanes d.issued (.new settings.length)
      issued := d.issued + 1
      control := { d.control with
        staged := some { settings, lane := d.issued,
                         pending := List.replicate settings.length false }
        stance := .signalling PREPARE } }

/-- The exchange of queues in `commit`. -/
def exchange (d : Desk F W) : Desk F W :=
  match d.control.staged with
  | none => d.stand .panicked
  | some staged =>
    { d with
      install := true
      control := { d.control with
        settings := staged.settings
        lane := staged.lane
        pending := staged.pending
        staged := none
        stance := .signalling INSTALL } }

/-- The thread is joined once it has ended. -/
def join (d : Desk F W) : Desk F W :=
  if d.control.thread = false then d.return_ (.flag true)
  else
    match d.owner.position with
    | .exited => { d with control := { d.control with thread := false } }.return_ (.flag true)
    | .panicked => { d with control := { d.control with thread := false } }.return_ (.flag false)
    | _ => d

/-- The next operation of station control. -/
def act (d : Desk F W) : Desk F W :=
  match d.control.stance with
  | .idle | .panicked => d
  | .entered (.submit index demand work) => d.submit index demand work
  | .entered .poll => d.poll
  | .entered (.pause safe) =>
    { d with control := { d.control with staged := none } }.signal (if safe then SAFE else PAUSE)
      .unit
  | .entered call =>
    if d.requires call = false ∨ kind d.request = RUN ∨ d.acknowledged ≠ d.request then
      d.return_ (refusal call)
    else d.stand (.acknowledged call)
  | .acknowledged call => (d.record [.observed (!d.quality)]).conclude call (!d.quality)
  | .pushing index demand work => d.push index demand work
  | .handing settings => d.hand settings
  | .exchanging => d.exchange
  | .signalling kind =>
    (if kind = RUN then d.record [.resumed] else d).signal kind (.flag true)
  | .waking finishing answer =>
    let woken := { d with token := d.token || d.control.thread }
    if finishing then woken.stand .joining else woken.return_ answer
  | .joining => d.join

/-! ## The owner -/

/-- The contexts of a new list: each binding takes the context of the first old one it continues.
Returns the new contexts, those left over, and whether a change of the safe level failed. -/
def retain (settings : List DeviceBinding) (device : DeviceAnswer F) :
    List (Option Endpoint) → List DeviceBinding →
      List (Option Endpoint) × List (Option Endpoint) × Bool
  | endpoints, [] => ([], endpoints, false)
  | endpoints, binding :: rest =>
    match settings.findIdx? fun old => sameBinding old binding with
    | none =>
      let r := retain settings device endpoints rest
      (none :: r.1, r.2)
    | some index =>
      match (endpoints[index]?).join with
      | none =>
        let r := retain settings device (endpoints.set index none) rest
        (none :: r.1, r.2)
      | some endpoint =>
        let changed := endpoint.reconfigure binding.2 device
        let r := retain settings device (endpoints.set index none) rest
        (some changed.1 :: r.1, r.2.1, changed.2 || r.2.2)

/-- The contexts that are dropped. -/
def dropped (endpoints : List (Option Endpoint)) : List Event :=
  ((endpoints.filterMap id).map fun e => .dropped e.context e.direction.isOutput).reverse

/-- The installation of a committed list. -/
def installed (d : Desk F W) (next : Handoff) (device : DeviceAnswer F) : Desk F W :=
  let r := retain d.owner.settings device d.owner.endpoints next.settings
  { d with
    install := false
    owner := { d.owner with
      settings := next.settings
      endpoints := r.1
      lane := next.lane
      prepared := none
      installFailed := d.owner.installFailed || r.2.2 }
    log := dropped r.2.1 ++ d.log }

/-- The comparison of the loaded request with the last one. -/
def compare (d : Desk F W) (word : Word) : Desk F W :=
  if word = d.owner.seen then d.goto (.settled word)
  else if kind word = RUN then
    { d with owner := { d.owner with seen := word, position := .settled word } }
  else d.goto (.draining word)

/-- The swap of the install flag. -/
def swap (d : Desk F W) (word : Word) (device : DeviceAnswer F) : Desk F W :=
  if d.install then
    match d.owner.prepared with
    | none => d.goto .panicked
    | some next => (d.installed next device).compare word
  else d.compare word

/-- Pop a request from the owner's ring. -/
def take (d : Desk F W) (found : Request F W → Position F W) (missing : Position F W) : Desk F W :=
  match (d.lanes d.owner.lane).requests.pop with
  | none => d.goto missing
  | some (request, requests) => (d.setRequests d.owner.lane requests).goto (found request)

/-- The push of `respond`. -/
def reply (d : Desk F W) (word : Word) (request : Request F W)
    (outcome : Except ReadingQuality (Outcome F)) (device : DeviceAnswer F) : Desk F W :=
  let reply : Reply F W :=
    { ticket := request.ticket, index := request.index, work := request.work,
      completedAtMs := min device.nowMs (2 ^ 64 - 1), outcome }
  match (d.lanes d.owner.lane).replies.push reply with
  | none => d.goto .panicked
  | some replies =>
    ((d.setReplies d.owner.lane replies).record [.replied request.ticket]).goto
      (if kind word = RUN then .top else .draining word)

variable [DecidableEq F] [Analog F]

/-- Write the safe level of each of some endpoints: the events, and whether one failed. -/
def secure (device : DeviceAnswer F) (endpoints : List Endpoint) : List Event × Bool :=
  let outputs := endpoints.filter fun e => e.direction.isOutput
  ((outputs.map fun e => .safed e.context (e.safe device).isOk).reverse,
    outputs.any fun e => !(e.safe device).isOk)

/-- The endpoints that a list continues no binding of. -/
def retired (owner : Owner F W) (next : List DeviceBinding) : List Endpoint :=
  ((owner.settings.zip owner.endpoints).filter fun entry =>
    !next.any fun binding => sameBinding entry.1 binding).filterMap Prod.snd

/-- The safe writes that a fence asks of all endpoints. -/
def fence (d : Desk F W) (word : Word) (device : DeviceAnswer F) : Desk F W :=
  let alreadySafe := decide (kind d.owner.seen = SAFE) && !d.quality
  if kind word = SAFE ∨ (kind word = CLOSE ∧ alreadySafe = false) then
    let r := secure device (d.owner.endpoints.filterMap id)
    (d.record r.1).goto (.changing word (d.owner.installFailed || r.2))
  else d.goto (.changing word d.owner.installFailed)

/-- The pop of a replacement list: prepared by its own fence, discarded by any other. -/
def change (d : Desk F W) (word : Word) (failed : Bool) (device : DeviceAnswer F) : Desk F W :=
  if kind word = PREPARE then
    match d.handoffs.pop with
    | none => d.goto .panicked
    | some (next, handoffs) =>
      let r := secure device (retired d.owner next.settings)
      { d with
        handoffs
        owner := { d.owner with prepared := some next, position := .judged word (failed || r.2) }
        log := r.1 ++ d.log }
  else
    { d with
      handoffs := (d.handoffs.pop.map Prod.snd).getD d.handoffs
      owner := { d.owner with prepared := none, position := .judged word failed } }

/-- `perform`, from the first permit on: the endpoint is opened if it is not. -/
def access (d : Desk F W) (word : Word) (request : Request F W) (device : DeviceAnswer F) :
    Desk F W :=
  let d := d.record [.performed request.ticket request.index d.owner.settings]
  match d.owner.endpoints[request.index]?, d.owner.settings[request.index]? with
  | some (some _), _ => d.goto (.revalidating word request)
  | some none, some binding =>
    match Endpoint.openAt binding d.contexts device with
    | .error quality => d.goto (.answering word request (.error quality))
    | .ok endpoint =>
      { d with
        contexts := d.contexts + 1
        owner := { d.owner with
          endpoints := d.owner.endpoints.set request.index (some endpoint)
          position := .revalidating word request }
        log := .opened endpoint.context :: d.log }
  | _, _ => d.goto .panicked

/-- The physical read or write of `perform`. -/
def transact (d : Desk F W) (word : Word) (request : Request F W) (device : DeviceAnswer F) :
    Desk F W :=
  match d.owner.endpoints[request.index]? with
  | some (some endpoint) =>
    match request.demand with
    | none =>
      (d.record [.read endpoint.context]).goto
        (.answering word request ((endpoint.read device).map Outcome.reading))
    | some demand =>
      (d.record [.written endpoint.context]).goto
        (.answering word request
          ((endpoint.write demand device).map fun _ => Outcome.submitted endpoint.pwm))
  | _ => d.goto .panicked

/-- The next operation of the owner. -/
def work (d : Desk F W) (device : DeviceAnswer F) : Desk F W :=
  match d.owner.position with
  | .top => d.goto (.loaded d.request)
  | .loaded word => d.swap word device
  | .draining word =>
    d.take (fun request => .answering word request (.error .unavailable)) (.fencing word)
  | .answering word request outcome =>
    d.goto (.replying word request
      (if d.permits request.work then outcome else .error .unavailable))
  | .replying word request outcome => d.reply word request outcome device
  | .fencing word => d.fence word device
  | .changing word failed => d.change word failed device
  | .judged word failed => { d with quality := failed }.goto (.acking word)
  | .acking word =>
    { d with
      acknowledged := word
      owner := { d.owner with seen := word, position := .settled word } }
  | .settled word =>
    if kind word = CLOSE then d.goto .exited
    else if kind word = RUN then d.take (fun request => .performing word request) .parked
    else d.goto .parked
  | .performing word request =>
    if d.permits request.work then d.goto (.opening word request)
    else d.goto (.answering word request (.error .unavailable))
  | .opening word request => d.access word request device
  | .revalidating word request =>
    if d.permits request.work then d.goto (.transacting word request)
    else d.goto (.answering word request (.error .unavailable))
  | .transacting word request => d.transact word request device
  | .parked => if d.token || device.wakes then { d with token := false }.goto .top else d
  | .exited | .panicked => d

inductive Move (F W : Type) where
  /-- Station control makes a call. -/
  | call (call : Call F W)
  /-- It performs the next operation of the call. -/
  | control
  /-- The owner performs its next operation. -/
  | owner (device : DeviceAnswer F)
  /-- Generations come and go. -/
  | permits (permits : W → Bool)

/-- The state after a step. A call waits for the one before it to return. -/
def step (d : Desk F W) : Move F W → Desk F W
  | .call call =>
    match d.control.stance with
    | .idle => d.stand (.entered call)
    | _ => d
  | .control => d.act
  | .owner device => d.work device
  | .permits permits => { d with permits }

end Desk

end DeviceWorker

end RptAdvanced.Site
