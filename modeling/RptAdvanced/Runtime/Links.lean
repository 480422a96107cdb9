import RptAdvanced.Link.Hub
import RptAdvanced.Runtime.LinkSchedule

/-!
# A node's link control (`rust/core/src/runtime/links.rs`)

`NodeLinkControl` joins the configured routes of a node with its hub of attached peers. The hub
(`LinkManager`) is known here by its operations only (`PeerHub`), with no assumption about what
they answer.

The routes of one label are a priority group. A configuration gives each group a selection cell; a
group whose members stay the same keeps the cell it had. `epoch` counts configurations, to name new
cells.

Of the link commands those are modelled that change links; commands that only report, and the
collectors of radio and peer digits, touch neither the routes nor the hub.
-/

namespace RptAdvanced.Runtime

open Lib Link Schedule

/-- Operations of the hub (`LinkManager` of `rust/core/src/link/hub.rs`) that link control uses. -/
class PeerHub (H : Type) where
  new : String → Except AdmissionError H
  ownsPermanent : H → String → Bool
  reaches : H → String → Bool → Bool
  attachMember : String → Mode → Bool → Option GroupMember → H → Except AdmissionError Unit × H
  retainTopologyBlockedGroup : String → Mode → Option GroupMember → H → H
  retainRetryMember : String → Mode → Nat → Option GroupMember → H → Except AdmissionError Unit × H
  resumePermanentRetry : String → Mode → Nat → H → Bool × H
  disconnect : String → H → Bool × H
  disconnectPermanent : String → H → Bool × H
  disconnectAll : H → List String × H
  disconnectPermanentAll : H → List String × H
  disconnectTemporary : H → List String × H
  resumeRetries : Nat → H → H
  resumePermanentRetries : Nat → H → H
  invalidateGeneration : H → H
  reclaim : String → Nat → H → H
  close : H → List String × H

/-- Owned dial request. `work` is the generation whose permit it holds. -/
structure ConnectAttempt where
  remote : String
  mode : Mode
  permanent : Bool
  group : Option GroupMember
  work : Nat
  scheduled : Option LinkReservation
  deriving DecidableEq, Repr

/-- Adapter-facing consequence of a link command. -/
inductive LinkEffect
  | connect (attempt : ConnectAttempt)
  | detach (peers : List String)
  | none
  deriving DecidableEq, Repr

/-- A priority group of the configured routes: its members by priority, and its selection cell. -/
structure ConfiguredGroup where
  label : String
  name : String
  members : List (Nat × String)
  selection : SelectionId
  deriving DecidableEq, Repr

/-- Long-lived link policy of a node. -/
structure NodeLinkControl (H : Type) where
  localNode : String
  manager : H
  policy : AccessPolicy
  schedule : Option LinkScheduler
  groups : List ConfiguredGroup
  epoch : Nat
  admitting : Bool

/-- A route joins the group of its label. -/
def joinGroup (epoch : Nat) (groups : List ConfiguredGroup) (route : RouteSpec) :
    List ConfiguredGroup :=
  match route.groupLabel with
  | none => groups
  | some label =>
    let member := (route.groupPriority.getD u64Max, route.remote)
    if groups.any (·.label == label) then
      modifyFirst (·.label == label)
        (fun group => { group with members := group.members ++ [member] }) groups
    else groups ++ [⟨label, route.groupName.getD label, [member], ⟨epoch, label⟩⟩]

/-- A group with its members by priority; unchanged members keep their selection cell. -/
def inheritGroup (previous : List ConfiguredGroup) (group : ConfiguredGroup) : ConfiguredGroup :=
  let members := group.members.insertionSort fun a b => a.1 ≤ b.1
  match previous.find? fun old => old.label == group.label && old.members == members with
  | some old => { group with members, selection := old.selection }
  | none => { group with members }

def configuredGroups (epoch : Nat) (schedule : Option LinkScheduler)
    (previous : List ConfiguredGroup) : List ConfiguredGroup :=
  (((schedule.map (·.routeSpecs)).getD []).foldl (joinGroup epoch) []).map (inheritGroup previous)

/-- The mode a connecting action asks for. -/
def LinkAction.mode : LinkAction → Mode
  | .monitor | .permanentMonitor => .monitor
  | .localMonitor | .permanentLocalMonitor => .localMonitor
  | _ => .transceive

/-- Whether a connecting action keeps retry intent. -/
def LinkAction.permanent : LinkAction → Bool
  | .permanentMonitor | .permanentLocalMonitor | .permanentTransceive => true
  | _ => false

/-- Whether an action names a peer. -/
def LinkAction.addressed : LinkAction → Bool
  | .disconnectAll | .disconnectPermanentAll | .disconnectNonPermanentAll => false
  | .reconnectAll | .reconnectPermanentAll => false
  | _ => true

namespace NodeLinkControl

open PeerHub

variable {H : Type} [PeerHub H]

def new (localNode : String) (policy : AccessPolicy) (schedule : Option LinkScheduler) :
    Except AdmissionError (NodeLinkControl H) := do
  return {
    localNode
    manager := ← PeerHub.new localNode
    policy
    schedule
    groups := configuredGroups 0 schedule []
    epoch := 0
    admitting := true }

/-- `reconfigure`: adopt candidate policy and invalidate old dials. -/
def reconfigure (policy : AccessPolicy) (schedule : Option LinkScheduler)
    (c : NodeLinkControl H) : NodeLinkControl H :=
  { c with
    manager := invalidateGeneration c.manager
    policy
    schedule
    groups := configuredGroups (c.epoch + 1) schedule c.groups
    epoch := c.epoch + 1 }

/-- Disconnect permanent peers one after the other. -/
def disconnectPermanents (peers : List String) (manager : H) : H :=
  peers.foldl (fun manager peer => (disconnectPermanent peer manager).2) manager

/-- `withdraw_removed`: disconnect the issued routes a candidate no longer has. -/
def withdrawRemoved (candidate : LinkScheduler) (c : NodeLinkControl H) :
    List String × NodeLinkControl H :=
  let removed := ((c.schedule.map fun old => old.removedRoutes candidate).getD []).map (·.remote)
  (removed, { c with manager := disconnectPermanents removed c.manager })

/-- `group_member`: the peer's currently wanted group. -/
def groupMember (remote : String) (c : NodeLinkControl H) : Option GroupMember := do
  let schedule ← c.schedule
  let route ← schedule.routes.find? fun route =>
    route.desired && !route.paused && route.spec.remote == remote && route.spec.groupLabel.isSome
  let label ← route.spec.groupLabel
  let group ← c.groups.find? (·.label == label)
  let priority ← route.spec.groupPriority
  return ⟨label, satAdd priority 1, group.selection, satAdd_pos priority⟩

/-- The connecting actions of `command`. -/
def connectCommand (action : LinkAction) (remote : String) (work nowMs : Nat)
    (c : NodeLinkControl H) : Except AdmissionError LinkEffect × NodeLinkControl H :=
  if !c.policy remote true then (.error .denied, c)
  else if remote == c.localNode then (.error .loop, c)
  else
    let (resumed, manager) :=
      if action.permanent && !reaches c.manager remote false then
        resumePermanentRetry remote action.mode nowMs c.manager
      else (false, c.manager)
    let c := { c with manager }
    if resumed then (.ok .none, c)
    else if reaches c.manager remote true then (.error .loop, c)
    else (.ok (.connect ⟨remote, action.mode, action.permanent, none, work, none⟩), c)

/-- The schedule's part of a reconnect action: resume, and withdraw obsolete intent. -/
def resumeSchedule (c : NodeLinkControl H) : List String × NodeLinkControl H :=
  match c.schedule with
  | none => ([], c)
  | some schedule =>
    let (removed, schedule) := (schedule.resume c.localNode).withdrawUndesired
    (removed, { c with
      schedule := some schedule, manager := disconnectPermanents removed c.manager })

/-- `command`, for the actions that change links. `current` is `work.is_current()`. -/
def command (operation : Command) (work : Nat) (current : Bool) (nowMs : Nat)
    (c : NodeLinkControl H) : Except AdmissionError LinkEffect × NodeLinkControl H :=
  if !c.admitting || !current then (.error .stale, c)
  else
    match if operation.action.addressed then PeerIdentity.canonicalOperator operation.node
      else some operation.node with
    | none => (.error .identity, c)
    | some remote =>
      match operation.action with
      | .disconnect =>
        let (removed, manager) := disconnect remote c.manager
        (.ok (.detach (if removed then [remote] else [])), { c with manager })
      | .disconnectPermanent =>
        let (removed, manager) := disconnectPermanent remote c.manager
        (.ok (.detach (if removed then [remote] else [])), { c with manager })
      | .disconnectAll =>
        let (removed, manager) := PeerHub.disconnectAll c.manager
        (.ok (.detach removed),
          { c with manager, schedule := c.schedule.map (·.pause c.localNode) })
      | .disconnectPermanentAll =>
        let (removed, manager) := PeerHub.disconnectPermanentAll c.manager
        (.ok (.detach removed),
          { c with manager, schedule := c.schedule.map (·.pause c.localNode) })
      | .disconnectNonPermanentAll =>
        let (removed, manager) := disconnectTemporary c.manager
        (.ok (.detach removed), { c with manager })
      | .reconnectAll =>
        let (removed, c) := c.resumeSchedule
        (.ok (if removed.isEmpty then .none else .detach removed),
          { c with manager := resumeRetries nowMs c.manager })
      | .reconnectPermanentAll =>
        let (removed, c) := c.resumeSchedule
        (.ok (if removed.isEmpty then .none else .detach removed),
          { c with manager := resumePermanentRetries nowMs c.manager })
      | action => c.connectCommand action remote work nowMs

/-- `cancel_connect`: release the schedule reservation of an abandoned dial. -/
def cancelConnect (attempt : ConnectAttempt) (c : NodeLinkControl H) : NodeLinkControl H :=
  match attempt.scheduled with
  | none => c
  | some reservation =>
    { c with schedule := c.schedule.map fun schedule => (schedule.complete reservation false).2 }

/-- The publication of a dial that is still wanted: the result, whether only topology blocks it,
and the hub. -/
def publishConnect (attempt : ConnectAttempt) (answered : Bool) (nowMs : Nat)
    (manager : H) : Except AdmissionError Bool × Bool × H :=
  if answered then
    match attachMember attempt.remote attempt.mode attempt.permanent attempt.group manager with
    | (.ok (), manager) => (.ok true, false, manager)
    | (.error .loop, manager) =>
      if attempt.permanent then
        (.error .loop, true,
          retainTopologyBlockedGroup attempt.remote attempt.mode attempt.group manager)
      else (.error .loop, false, manager)
    | (.error e, manager) => (.error e, false, manager)
  else if attempt.permanent then
    let (kept, manager) :=
      retainRetryMember attempt.remote attempt.mode nowMs attempt.group manager
    (kept.map fun _ => false, false, manager)
  else (.ok false, false, manager)

variable [ScheduleProvider]

def tickWithWarnings (tick : LinkTick) (c : NodeLinkControl H) :
    Option ScheduleWarning × NodeLinkControl H :=
  match c.schedule with
  | none => (none, c)
  | some schedule =>
    let (warning, schedule) :=
      schedule.tickWithWarnings tick fun route => ownsPermanent c.manager route.remote
    (warning, { c with schedule := some schedule })

/-- `tick`: a tick without room for warnings. -/
def tick (civil : CivilTime) (second nowMs : Nat) (activity : String → Option Nat)
    (c : NodeLinkControl H) : NodeLinkControl H :=
  (c.tickWithWarnings ⟨civil, second, nowMs, activity, fun _ => false, false⟩).2

/-- A scheduled dial is revalidated against a fresh calendar; `false` rejects it. -/
def recheckCalendar (attempt : ConnectAttempt) (nowMs : Nat) (clock : Option (CivilTime × Nat))
    (activity : String → Option Nat) (c : NodeLinkControl H) : Bool × NodeLinkControl H :=
  if attempt.scheduled.isSome && c.schedule.any (·.requiresCivilTime) then
    match clock.filter fun (_, second) => decide (second < 60) with
    | some (civil, second) => (true, c.tick civil second nowMs activity)
    | none => (false, c)
  else (true, c)

/-- `finish_connect_at`: revalidate a slow dial and publish it. -/
def finishConnectAt (attempt : ConnectAttempt) (answered current : Bool) (nowMs : Nat)
    (clock : Option (CivilTime × Nat)) (activity : String → Option Nat)
    (c : NodeLinkControl H) : Except AdmissionError Bool × NodeLinkControl H :=
  let (calendarValid, c) := c.recheckCalendar attempt nowMs clock activity
  let scheduledCurrent := attempt.scheduled.all fun reservation =>
    c.schedule.any (·.current reservation)
  let (result, blocked, manager) :=
    if !c.admitting || !current || !scheduledCurrent || !calendarValid then
      (.error .stale, false, c.manager)
    else if !c.policy attempt.remote true then (.error .denied, false, c.manager)
    else publishConnect attempt answered nowMs c.manager
  let accepted := blocked || (result.toBool && (answered || attempt.permanent))
  let c := { c with manager }
  match attempt.scheduled with
  | none => (result, c)
  | some reservation =>
    (result, { c with
      schedule := c.schedule.map fun schedule => (schedule.complete reservation accepted).2 })

omit [ScheduleProvider]

/-- `next_scheduled`: reserve a configured attachment, or carry out a withdrawal. -/
def nextScheduled (work : Nat) (current : Bool) (c : NodeLinkControl H) :
    Option LinkEffect × NodeLinkControl H :=
  if !c.admitting || !current then (none, c)
  else
    match c.schedule with
    | none => (none, c)
    | some schedule =>
      match schedule.nextOperation with
      | (none, schedule) => (none, { c with schedule := some schedule })
      | (some reservation, schedule) =>
        let remote := reservation.spec.remote
        if reservation.action = .detach then
          (some (.detach [remote]), { c with
            manager := (disconnectPermanent remote c.manager).2
            schedule := some (schedule.complete reservation true).2 })
        else
          let c := { c with schedule := some schedule }
          let group := reservation.spec.groupLabel.bind fun _ => c.groupMember remote
          (some (.connect ⟨remote, .transceive, true, group, work, some reservation⟩), c)

def reclaimed (remote : String) (nowMs : Nat) (c : NodeLinkControl H) : NodeLinkControl H :=
  { c with manager := PeerHub.reclaim remote nowMs c.manager }

/-- `close`: gate old dials; the peers to stop are returned. -/
def close (c : NodeLinkControl H) : List String × NodeLinkControl H :=
  let (peers, manager) := PeerHub.close c.manager
  (peers, { c with manager, admitting := false })

end NodeLinkControl

end RptAdvanced.Runtime
