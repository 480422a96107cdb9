import RptAdvanced.Controller.Telemetry
import RptAdvanced.Schedule.Calendar

/-!
# Civil-event reservations (`rust/core/src/runtime/scheduler.rs`)

An event captures an occurrence when its trigger is due (`ready`), reserves it for the dispatcher
(`pending`) and settles it (`completed`). An occurrence is named by the trigger's civil-minute
identity, its key. The `Arc<MessageOccurrence>` of a media event's occurrence is shared with the
audio owner: it is a handle into the table `occurrences` of such cells.

The scheduler of a reload candidate copies the progress of the events whose specification is
unchanged (`EventScheduler.new`).
-/

namespace RptAdvanced.Runtime

open Controller (MessageOccurrence)
open Schedule

/-- A resolved event identity. -/
structure EventSpec where
  localNode : String
  name : String
  trigger : EventTrigger
  media : Bool
  deriving DecidableEq, Repr

/-- Scheduler preparation or rendering failure. -/
inductive SchedulerError
  | invalid
  | render
  deriving DecidableEq, Repr

/-- Actions of a serialized link command that change the node's links
(`LinkAction` of `rust/core/src/command.rs`). -/
inductive LinkAction
  | monitor
  | localMonitor
  | transceive
  | permanentMonitor
  | permanentLocalMonitor
  | permanentTransceive
  | disconnect
  | disconnectPermanent
  | disconnectAll
  | disconnectPermanentAll
  | disconnectNonPermanentAll
  | reconnectAll
  | reconnectPermanentAll
  deriving DecidableEq, Repr

/-- A typed linking operation and its destination. -/
structure Command where
  action : LinkAction
  node : String
  deriving DecidableEq, Repr

/-- Message and operation payload of a reservation. -/
structure DispatchContent where
  message : Option String
  operation : Option Command
  deriving DecidableEq, Repr

/-- One captured occurrence; `media` is the handle of its `MessageOccurrence`. -/
structure Occurrence where
  key : Nat
  civil : CivilTime
  dueMs : Int
  media : Option Nat
  deriving DecidableEq, Repr

/-- The progress of one event. -/
structure EventState where
  spec : EventSpec
  completed : Option Nat := none
  ready : Option Occurrence := none
  pending : Option Occurrence := none
  messageQueued : Bool := false
  messageRequired : Bool := false
  admitted : Option Nat := none
  deriving DecidableEq, Repr

structure ScheduledDispatch where
  generation : Nat
  index : Nat
  occurrence : Occurrence
  spec : EventSpec
  content : DispatchContent
  deriving DecidableEq, Repr

/-- Control-owned event scheduler in configuration order. -/
structure EventScheduler where
  generation : Nat
  events : List EventState
  lastTick : Option Int
  deriving DecidableEq, Repr

/-- The specifications of the scheduled events. -/
def EventScheduler.specs (s : EventScheduler) : List EventSpec := s.events.map (·.spec)

/-- `cancel_pending` of the occurrence behind a handle. -/
def cancelOccurrence (occurrences : List MessageOccurrence) (handle : Option Nat) :
    List MessageOccurrence :=
  match handle with
  | some h => occurrences.modify h MessageOccurrence.cancelPending
  | none => occurrences

namespace EventState

/-- The candidate's state of an event that was `old`: an admitted message counts as completed, an
unadmitted reservation is ready again. -/
def inherit (old : EventState) : EventState where
  spec := old.spec
  completed :=
    if old.messageQueued then (old.pending.map (·.key)).or old.completed else old.completed
  ready := old.ready.or (if old.messageQueued then none else old.pending)
  admitted := old.admitted

/-- The occurrence the dispatcher works on next. -/
def current (event : EventState) : Option Occurrence := event.pending.or event.ready

/-- `newest`: the greatest key the event has seen. -/
def newest (event : EventState) : Option Nat :=
  (event.completed.toList ++ (event.pending.map (·.key)).toList
    ++ (event.ready.map (·.key)).toList).max?

/-- Whether a due key is a new occurrence. Action events recall only the last completed key. -/
def isNew (event : EventState) (key : Nat) : Bool :=
  if event.spec.media then event.newest.all fun seen => decide (seen < key)
  else decide (event.completed ≠ some key)

/-- Obsolete media of the event is cancelled unless it is already audible. A media event's
occurrences all have a handle. -/
def cancelMedia (event : EventState) (occurrences : List MessageOccurrence) :
    List MessageOccurrence :=
  let occurrences := cancelOccurrence occurrences (event.pending.bind (·.media))
  let occurrences := cancelOccurrence occurrences (event.ready.bind (·.media))
  cancelOccurrence occurrences event.admitted

variable [ScheduleProvider]

/-- One round of the capture loop of `next`. -/
def capture (civil : CivilTime) (scheduledMs : Int) (event : EventState)
    (occurrences : List MessageOccurrence) : EventState × List MessageOccurrence :=
  if !event.spec.media && (event.pending.isSome || event.ready.isSome) then (event, occurrences)
  else
    match event.spec.trigger.occurrence civil with
    | none => (event, occurrences)
    | some key =>
      if !event.isNew key then (event, occurrences)
      else if event.spec.media then
        let occurrences := event.cancelMedia occurrences
        ({ event with ready := some ⟨key, civil, scheduledMs, some occurrences.length⟩ },
          occurrences ++ [.pending])
      else ({ event with ready := some ⟨key, civil, scheduledMs, none⟩ }, occurrences)

end EventState

namespace EventScheduler

/-- The identity checks of `new`: every label is given and used once for its node. -/
def specsValid : List EventSpec → Bool
  | [] => true
  | spec :: specs =>
    !spec.localNode.isEmpty && !spec.name.isEmpty
      && specs.all (fun other => !(other.localNode == spec.localNode && other.name == spec.name))
      && specsValid specs

/-- The previous state of an unchanged event. -/
def prior (previous : Option EventScheduler) (spec : EventSpec) : Option EventState :=
  previous.bind fun old => old.events.find? (·.spec = spec)

/-- `new`: all event state of a candidate; unchanged events retain their progress. -/
def new (generation : Nat) (specs : List EventSpec) (previous : Option EventScheduler) :
    Except SchedulerError EventScheduler :=
  if generation = 0 || previous.any (fun old => decide (generation ≤ old.generation))
      || !specsValid specs then
    .error .invalid
  else
    .ok {
      generation
      events := specs.map fun spec =>
        match prior previous spec with
        | some old => old.inherit
        | none => { spec }
      lastTick := previous.bind (·.lastTick) }

variable [ScheduleProvider]

/-- The capture loop of `next` over all events. -/
def captureAll (civil : CivilTime) (scheduledMs : Int) :
    List EventState → List MessageOccurrence → List EventState × List MessageOccurrence
  | [], occurrences => ([], occurrences)
  | event :: events, occurrences =>
    let (event, occurrences) := event.capture civil scheduledMs occurrences
    let (events, occurrences) := captureAll civil scheduledMs events occurrences
    (event :: events, occurrences)

/-- A tick whose wall clock is not behind the last one captures the due events. -/
def tick (capturedTime scheduledMs : Int) (civil : CivilTime) (s : EventScheduler)
    (occurrences : List MessageOccurrence) : EventScheduler × List MessageOccurrence :=
  if s.lastTick.all fun last => decide (last ≤ capturedTime) then
    let (events, occurrences) := captureAll civil scheduledMs s.events occurrences
    ({ s with events, lastTick := some capturedTime }, occurrences)
  else (s, occurrences)

/-- `min_by_key` over the current occurrences: the oldest, in configuration order. -/
def select : List EventState → Nat → Option (Nat × EventState × Occurrence)
  | [], _ => none
  | event :: events, index =>
    match event.current, select events (index + 1) with
    | none, later => later
    | some occurrence, none => some (index, event, occurrence)
    | some occurrence, some later =>
      if later.2.2.key < occurrence.key then some later else some (index, event, occurrence)

end EventScheduler

namespace EventState

/-- The event's occurrence could not be rendered: it counts as completed. -/
def dropUnrendered (occurrence : Occurrence) (event : EventState) : EventState :=
  { event with
    pending := none
    ready := if event.ready.any (·.key = occurrence.key) then none else event.ready
    messageQueued := false
    completed := some occurrence.key }

/-- The event's occurrence is reserved for a dispatch. -/
def reserve (occurrence : Occurrence) (content : DispatchContent) (event : EventState) :
    EventState :=
  let event := if event.pending.isNone then
      { event with pending := some occurrence, ready := none, messageQueued := false }
    else event
  { event with messageRequired := content.message.isSome }

/-- The event's message was admitted. -/
def queued (dispatch : ScheduledDispatch) (event : EventState) : EventState :=
  { event with messageQueued := true, admitted := dispatch.occurrence.media }

/-- The reserved occurrence is settled. -/
def settle (dispatch : ScheduledDispatch) (event : EventState) : EventState :=
  { event with
    completed := some dispatch.occurrence.key, pending := none, messageQueued := false }

end EventState

namespace EventScheduler

variable [ScheduleProvider]

/-- `next`: capture due events, then reserve the oldest occurrence. -/
def next (capturedTime scheduledMs : Int) (civil : CivilTime)
    (render : EventSpec → CivilTime → Except SchedulerError DispatchContent)
    (s : EventScheduler) (occurrences : List MessageOccurrence) :
    Except SchedulerError (Option ScheduledDispatch) × EventScheduler × List MessageOccurrence :=
  let (s, occurrences) := s.tick capturedTime scheduledMs civil occurrences
  match select s.events 0 with
  | none => (.ok none, s, occurrences)
  | some (index, event, occurrence) =>
    match render event.spec occurrence.civil with
    | .error e =>
      (.error e, { s with events := s.events.set index (event.dropUnrendered occurrence) },
        occurrences)
    | .ok content =>
      (.ok (some ⟨s.generation, index, occurrence, event.spec, content⟩),
        { s with events := s.events.set index (event.reserve occurrence content) }, occurrences)

omit [ScheduleProvider]

/-- `pending`: the event a dispatch still reserves. -/
def pending (dispatch : ScheduledDispatch) (s : EventScheduler) : Option EventState :=
  if dispatch.generation ≠ s.generation then none
  else (s.events[dispatch.index]?).filter fun event =>
    decide (event.spec = dispatch.spec)
      && event.pending.any fun pending => decide (pending.key = dispatch.occurrence.key)

def current (dispatch : ScheduledDispatch) (s : EventScheduler) : Bool :=
  (s.pending dispatch).isSome

def isMessageQueued (dispatch : ScheduledDispatch) (s : EventScheduler) : Bool :=
  (s.pending dispatch).any (·.messageQueued)

/-- `message_queued`: record a successful admission. -/
def messageQueued (dispatch : ScheduledDispatch) (s : EventScheduler) : Bool × EventScheduler :=
  match s.pending dispatch with
  | none => (false, s)
  | some event => (true, { s with events := s.events.set dispatch.index (event.queued dispatch) })

/-- `complete`: settle a reservation whose message, if any, was admitted. -/
def complete (dispatch : ScheduledDispatch) (s : EventScheduler) : Bool × EventScheduler :=
  match s.pending dispatch with
  | none => (false, s)
  | some event =>
    if event.messageRequired && !event.messageQueued then (false, s)
    else (true, { s with events := s.events.set dispatch.index (event.settle dispatch) })

end EventScheduler

end RptAdvanced.Runtime
