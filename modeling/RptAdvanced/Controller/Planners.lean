import RptAdvanced.Controller.Telemetry

/-!
# Courtesy, announcement and tail planners

* `CourtesyPlanner` (`courtesy.rs`): one waiting courtesy, the last unkey's. A source is identified
  by its bytes padded with zeros to 64, as the source's fixed key array does; a name of 64 bytes or
  more has no identity.
* `AnnouncementState` (`announcement.rs`).
* `TailPlanner` (`tail.rs`): release messages, armed by the falling edge of traffic.

Indexing a list the source indexes with `[i]` is by `[i]?` here: the indices come from the planner
itself.
-/

namespace RptAdvanced.Controller

open Audio Lib

variable {S F : Type}

/-! ## Courtesy -/

/-- A waiting courtesy: whose unkey, which media, and when it is due. -/
structure PendingCourtesy where
  source : List UInt8
  media : Nat
  due : Nat
  deriving DecidableEq, Repr

/-- Control-prepared courtesy media and the waiting one. -/
structure CourtesyPlanner (S : Type) where
  media : List (PreparedMedia S)
  peers : List (String × Nat)
  receiver : Option Nat
  link : Option Nat
  pending : Option PendingCourtesy

/-- Local-receiver, generic-link and per-peer courtesy media, as configured. -/
structure CourtesySettings (S : Type) where
  receiver : Option (PreparedMedia S)
  link : Option (PreparedMedia S)
  peers : List (String × PreparedMedia S)

namespace CourtesyPlanner

/-- `new`: only available media is kept, and named by its position. -/
def new (settings : CourtesySettings S) : CourtesyPlanner S :=
  let receiver := settings.receiver.filter PreparedMedia.available
  let link := settings.link.filter PreparedMedia.available
  let peers := settings.peers.filter fun p => p.2.available
  let first := receiver.toList.length + link.toList.length
  { media := receiver.toList ++ link.toList ++ peers.map Prod.snd
    peers := peers.zipIdx.map fun p => (p.1.1, first + p.2)
    receiver := receiver.map fun _ => 0
    link := link.map fun _ => receiver.toList.length
    pending := none }

/-- `identity`: the name's bytes, zero-padded to 64. -/
def identity (source : String) : Option (List UInt8) :=
  if 64 ≤ source.utf8ByteSize then none
  else some (source.toUTF8.toList ++ List.replicate (64 - source.utf8ByteSize) 0)

/-- `cancel`: a source that keys again withdraws its own waiting courtesy. -/
def cancel (p : CourtesyPlanner S) (source : String) : CourtesyPlanner S :=
  match identity source with
  | none => p
  | some key =>
    match p.pending with
    | none => p
    | some item => if item.source = key then { p with pending := none } else p

/-- The media index of a peer name. -/
def peerMedia (p : CourtesyPlanner S) (name : String) : Option Nat :=
  (p.peers.find? fun e => e.1 == name).map Prod.snd

/-- `schedule`: the latest unkey replaces any waiting courtesy, also one it has no media for. -/
def schedule (p : CourtesyPlanner S) (source selected : String) (due : Nat) : CourtesyPlanner S :=
  match identity source with
  | none => p
  | some key =>
    let chosen :=
      if source.isEmpty then p.receiver
      else ((p.peerMedia selected).or (p.peerMedia source)).or p.link
    { p with pending := chosen.map fun media => ⟨key, media, due⟩ }

def ready (p : CourtesyPlanner S) (now : Nat) : Bool :=
  match p.pending with
  | none => false
  | some item => decide (item.due ≤ now)

/-- `pop`: the waiting courtesy's media, and the planner without it. -/
def pop (p : CourtesyPlanner S) : Option Nat × CourtesyPlanner S :=
  (p.pending.map PendingCourtesy.media, { p with pending := none })

end CourtesyPlanner

/-! ## Announcements -/

/-- A prepared announcement and its progress. -/
structure AnnouncementState (S : Type) where
  media : PreparedMedia S
  intervalMs : Nat
  satisfied : Nat
  retryAfter : Nat
  releasePending : Bool

/-- `due`: a release announcement waits for a release, a periodic one for its interval. -/
def AnnouncementState.due (a : AnnouncementState S) (now : Nat) : Bool :=
  if a.intervalMs = 0 then a.releasePending
  else decide (a.retryAfter ≤ now) && decide (samples a.intervalMs ≤ now - a.satisfied)

/-! ## Tails -/

/-- One configured release message and its progress. -/
structure TailState (S : Type) where
  media : PreparedMedia S
  intervalMs : Nat
  delayMs : Nat
  pending : Bool
  started : Bool
  suspended : Bool
  deadline : Option Nat
  completed : Option Nat

/-- `TailPlanner::new` for one tail. -/
def TailState.new (media : PreparedMedia S) (intervalMs delayMs : Nat) : TailState S :=
  ⟨media, intervalMs, delayMs, false, false, false, none, none⟩

/-- Apply an operation to the tail's playback. -/
def TailState.mapPlayback (t : TailState S) (f : Playback S → Playback S) : TailState S :=
  { t with media := t.media.withPlayback (f t.media.playback) }

/-- The ordered release messages. -/
structure TailPlanner (S : Type) where
  items : List (TailState S)
  traffic : Bool
  hangUntil : Option Nat

namespace TailPlanner

/-- `TailPlanner::default`. -/
def empty : TailPlanner S := ⟨[], false, none⟩

/-- `new`: the tails, when every time fits the sample clock. -/
def new (tails : List (PreparedMedia S × Nat × Nat)) : Option (TailPlanner S) :=
  if tails.any fun t => decide (u64Max / 48 < t.2.1) || decide (u64Max / 48 < t.2.2) then none
  else some ⟨tails.map fun t => TailState.new t.1 t.2.1 t.2.2, false, none⟩

def hanging (p : TailPlanner S) (now : Nat) : Bool :=
  match p.hangUntil with
  | none => false
  | some deadline => decide (now < deadline)

def pending (p : TailPlanner S) : Bool := p.items.any TailState.pending

/-- `ready`: the first pending tail, when it may start or resume. -/
def ready (p : TailPlanner S) (now : Nat) : Option Nat :=
  match p.items.findIdx? TailState.pending with
  | none => none
  | some index =>
    match p.items[index]? with
    | none => none
    | some item =>
      if item.suspended ||
        (!p.traffic && !p.hanging now &&
          (item.delayMs == 0 ||
            match item.deadline with
            | none => false
            | some deadline => decide (deadline ≤ now)))
      then some index else none

/-- `waiting_for_unkey`: the first pending tail starts its delay at the controller's unkey. -/
def waitingForUnkey (p : TailPlanner S) (now : Nat) : Bool :=
  !p.traffic && !p.hanging now &&
    match p.items.find? TailState.pending with
    | none => false
    | some item => !item.started && item.delayMs != 0 && item.deadline.isNone

def unkeyed (p : TailPlanner S) (now : Nat) : TailPlanner S :=
  if p.waitingForUnkey now then
    match p.items.findIdx? TailState.pending with
    | none => p
    | some index =>
      { p with
        items := p.items.modify index fun item =>
          { item with deadline := some (satAdd now (samples item.delayMs)) } }
  else p

/-- `complete`: end the attempt; only success starts the interval. -/
def complete (p : TailPlanner S) (index now : Nat) (succeeded : Bool) : TailPlanner S :=
  { p with
    items := p.items.modify index fun item =>
      { item with
        completed := if succeeded then some now else item.completed
        pending := false, started := false, suspended := false, deadline := none } }

variable [PcmStreamReader S F]

/-- Traffic on one tail: it withdraws one that has not started, and latches Morse on one that an
identifier suspended. -/
def interrupt (playbackAllowed : Bool) (item : TailState S) : TailState S :=
  if item.pending && !item.started then
    { item.mapPlayback Playback.cancel with pending := false, deadline := none }
  else if item.suspended && playbackAllowed then
    item.mapPlayback fun p => (p.render true []).2.2
  else item

/-- The release of traffic on one tail: it becomes pending when its interval allows. -/
def arm (now : Nat) (suppressed : Bool) (item : TailState S) : TailState S :=
  if !suppressed && !item.pending &&
    (match item.completed with
      | none => true
      | some last => decide (samples item.intervalMs ≤ now - last))
  then { item with pending := true, deadline := none } else item

def observe (p : TailPlanner S) (active : Bool) (now hang : Nat)
    (suppressed playbackAllowed : Bool) : TailPlanner S :=
  if active then
    { items := p.items.map (interrupt playbackAllowed), hangUntil := none, traffic := active }
  else if p.traffic then
    { items := p.items.map (arm now suppressed)
      hangUntil := if suppressed then none else some (satAdd now hang)
      traffic := active }
  else { p with traffic := active }

end TailPlanner

end RptAdvanced.Controller
