import RptAdvanced.Link.Records
import RptAdvanced.Runtime.Links

/-!
# A node's links as a system (`rust/core/src/runtime/links.rs`, `rust/core/src/link/hub.rs`)

`NodeLinkControl` over the hub itself: the operations that `Runtime.Links` leaves to it, and a
`LinkDesk` that adds the dials in flight. A dial is an owned token. It is handed out by
`next_scheduled`, `command` or `take_retry`, and comes back once, at any time, by
`finish_connect_at`, `cancel_connect` or `finish_retry`. Operations are `LinkMove`s in any order;
whether a permit is current, a dial was answered, and all clocks are the caller's.

A peer's text is given parsed. Key and digit messages are answered without touching the links, and
what is answered is left out.
-/

namespace RptAdvanced.Runtime

open Lib Link Schedule LinkManager

instance : PeerHub LinkManager where
  new
  ownsPermanent
  reaches
  attachMember
  retainTopologyBlockedGroup name mode member :=
    retainTopologyBlockedGroup name mode (member.map (·.label)) member
  retainRetryMember
  resumePermanentRetry
  disconnect
  disconnectPermanent
  disconnectAll
  disconnectPermanentAll
  disconnectTemporary
  resumeRetries
  resumePermanentRetries
  invalidateGeneration
  reclaim
  close

/-- Retry work. `work` is the generation whose permit it holds. -/
structure RetryWork where
  attempt : RetryAttempt
  work : Nat
  deriving DecidableEq, Repr

/-- Consequence of a peer's text message. -/
inductive TextEffect
  | routed
  | detach (peers : List String)
  | none
  deriving DecidableEq, Repr

def validDigit (digit : Char) : Bool := "0123456789ABCD*#".toList.contains digit

/-- Link control over the hub. -/
abbrev LinkControl := NodeLinkControl LinkManager

namespace LinkControl

/-- `authorize`: admission of a directory-verified inbound peer. -/
def authorize (remote : String) (verified : Bool) (c : LinkControl) : Except AdmissionError Unit :=
  if !c.admitting then .error .stale
  else
    match PeerIdentity.canonicalOperator remote with
    | none => .error .identity
    | some remote =>
      c.manager.authorizeIncomingMember remote verified c.policy (c.groupMember remote)

/-- `accept`: recheck and publish an incoming peer. -/
def accept (remote : String) (verified : Bool) (c : LinkControl) :
    Except AdmissionError Unit × LinkControl :=
  match PeerIdentity.canonicalOperator remote with
  | none => (.error .identity, c)
  | some remote =>
    match authorize remote verified c with
    | .error e => (.error e, c)
    | .ok () =>
      let (result, manager) :=
        c.manager.admitIncomingMember remote verified c.policy (c.groupMember remote)
      (result, { c with manager })

/-- `take_retry`: reserve one due recovery dial. -/
def takeRetry (nowMs work : Nat) (current : Bool) (c : LinkControl) :
    Option RetryWork × LinkControl :=
  if !c.admitting || !current then (none, c)
  else
    let (attempt, manager) := c.manager.takeRetry nowMs
    (attempt.map fun attempt => ⟨attempt, work⟩, { c with manager })

/-- `finish_retry`: publish only a still-current retry. -/
def finishRetry (retry : RetryWork) (answered current : Bool) (nowMs : Nat) (c : LinkControl) :
    Except AdmissionError Bool × LinkControl :=
  let (result, manager) : Except AdmissionError Bool × LinkManager :=
    if !c.admitting || !current then (.error .stale, c.manager)
    else if !c.policy retry.attempt.name true then (.error .denied, c.manager)
    else if answered then
      let (published, manager) := c.manager.publishRetry retry.attempt
      (published.map fun _ => true, manager)
    else (.ok false, c.manager)
  (result, { c with
    manager := manager.finishRetry retry.attempt (decide (result.toOption = some true)) nowMs })

/-- `ended`: suppress a failed reader. -/
def ended (remote : String) (c : LinkControl) : LinkControl :=
  { c with manager := c.manager.endPeer remote }

/-- `peer_text`. `replyEnded` is whether the connection it came from has ended. -/
def peerText (remote : String) (message : Option Protocol) (replyEnded : Bool) (c : LinkControl) :
    Except AdmissionError TextEffect × LinkControl :=
  if !c.admitting || replyEnded then (.error .stale, c)
  else if !c.manager.peers.any (fun peer => peer.name == remote && !peer.ended) then
    (.error .invalid, c)
  else
    match message with
    | none => (.error .invalid, c)
    | some (.remoteDigit _ _ _ digit) =>
      -- the check before this one has found the peer live
      if validDigit digit && c.policy remote true then (.ok .routed, c) else (.error .denied, c)
    | some (.topology routes) =>
      match c.manager.updateTopology remote (some (.topology routes)) with
      | (.error e, manager) => (.error e, { c with manager })
      | (.ok false, manager) => (.ok .none, { c with manager })
      | (.ok true, manager) =>
        (.ok (.detach [remote]), ended remote { c with manager := manager.rejectLoop remote })
    | some .disconnect => (.ok (.detach [remote]), ended remote c)
    | some (.query _) | some (.key ..) => (.ok .routed, c)
    | some .newKey | some .newKey1 | some .iaxKey => (.ok .none, c)

/-- Whether a live peer holds the selection cell. -/
def held (id : SelectionId) (c : LinkControl) : Bool :=
  c.manager.peers.any fun peer => !peer.ended && peer.groupMember.any (·.selection == id)

/-- The selections after an audio callback on every cell that a live peer holds. -/
def calledBack (inputsIdle : Bool) (c : LinkControl) (id : SelectionId) : GroupSelection :=
  if held id c then ((c.manager.selections id).callbackSlot inputsIdle).2
  else c.manager.selections id

def callback (inputsIdle : Bool) (c : LinkControl) : LinkControl :=
  { c with manager := { c.manager with selections := calledBack inputsIdle c } }

end LinkControl

/-- What a schedule is built from. -/
structure LinkConfiguration where
  generation : Nat
  routes : List RouteSpec
  windows : List ReplacementSpec
  previous : Option LinkScheduler

/-- One operation on a node's links. -/
inductive LinkMove
  | tick (tick : LinkTick)
  | nextScheduled (work : Nat) (current : Bool)
  | command (operation : Command) (work : Nat) (current : Bool) (nowMs : Nat)
  | accept (remote : String) (verified : Bool)
  | finishConnect (dial : ConnectAttempt) (answered current : Bool) (nowMs : Nat)
      (clock : Option (CivilTime × Nat)) (activity : String → Option Nat)
  | cancelConnect (dial : ConnectAttempt)
  | takeRetry (nowMs work : Nat) (current : Bool)
  | finishRetry (retry : RetryWork) (answered current : Bool) (nowMs : Nat)
  | peerText (remote : String) (message : Option Protocol) (replyEnded : Bool)
  | ended (remote : String)
  | reclaimed (remote : String) (nowMs : Nat)
  | withdrawRemoved (candidate : LinkScheduler)
  | reconfigure (policy : AccessPolicy) (candidate : Option LinkConfiguration)
  | close
  | callback (inputsIdle : Bool)

/-- A node's links with the dials in flight. -/
structure LinkDesk where
  control : LinkControl
  dials : List ConnectAttempt := []
  retries : List RetryWork := []

/-- The dial that an effect hands out. -/
def LinkEffect.dials : LinkEffect → List ConnectAttempt
  | .connect attempt => [attempt]
  | _ => []

namespace LinkDesk

variable [ScheduleProvider]

/-- The scheduler of a candidate, if it is valid; without one the node has no schedule. -/
def schedule : Option LinkConfiguration → Option (Option LinkScheduler)
  | none => some none
  | some k => (LinkScheduler.new k.generation k.routes k.windows k.previous).toOption.map some

/-- A newly composed node. -/
def Initial (d : LinkDesk) : Prop :=
  ∃ localNode policy candidate s control, schedule candidate = some s
    ∧ NodeLinkControl.new localNode policy s = .ok control ∧ d = { control }

/-- One operation. Dials come back once. -/
def step (d : LinkDesk) : LinkMove → Option LinkDesk
  | .tick tick => some { d with control := (d.control.tickWithWarnings tick).2 }
  | .nextScheduled work current =>
    let (effect, control) := d.control.nextScheduled work current
    some { d with control, dials := effect.elim [] LinkEffect.dials ++ d.dials }
  | .command operation work current nowMs =>
    let (result, control) := d.control.command operation work current nowMs
    some { d with control, dials := result.toOption.elim [] LinkEffect.dials ++ d.dials }
  | .accept remote verified =>
    some { d with control := (LinkControl.accept remote verified d.control).2 }
  | .finishConnect dial answered current nowMs clock activity =>
    if dial ∈ d.dials then
      some { d with
        control := (d.control.finishConnectAt dial answered current nowMs clock activity).2
        dials := d.dials.erase dial }
    else none
  | .cancelConnect dial =>
    if dial ∈ d.dials then
      some { d with control := d.control.cancelConnect dial, dials := d.dials.erase dial }
    else none
  | .takeRetry nowMs work current =>
    let (retry, control) := LinkControl.takeRetry nowMs work current d.control
    some { d with control, retries := retry.toList ++ d.retries }
  | .finishRetry retry answered current nowMs =>
    if retry ∈ d.retries then
      some { d with
        control := (LinkControl.finishRetry retry answered current nowMs d.control).2
        retries := d.retries.erase retry }
    else none
  | .peerText remote message replyEnded =>
    some { d with control := (LinkControl.peerText remote message replyEnded d.control).2 }
  | .ended remote => some { d with control := LinkControl.ended remote d.control }
  | .reclaimed remote nowMs => some { d with control := d.control.reclaimed remote nowMs }
  | .withdrawRemoved candidate =>
    some { d with control := (d.control.withdrawRemoved candidate).2 }
  | .reconfigure policy candidate =>
    (schedule candidate).map fun s => { d with control := d.control.reconfigure policy s }
  | .close => some { d with control := d.control.close.2 }
  | .callback inputsIdle => some { d with control := LinkControl.callback inputsIdle d.control }

def Step (d : LinkDesk) (move : LinkMove) (d' : LinkDesk) : Prop := d.step move = some d'

end LinkDesk

end RptAdvanced.Runtime
