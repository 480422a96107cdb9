import Mathlib.Data.List.Sort
import Mathlib.Logic.Function.Basic
import RptAdvanced.Lib.Saturating
import RptAdvanced.Lib.Update
import RptAdvanced.Link.Identity
import RptAdvanced.Link.Protocol

/-!
# The link hub (`rust/core/src/link/hub.rs`)

`LinkManager` owns a node's attached peers and its reconnect intent. A peer that was attached
permanently leaves a retry behind when it ends; an operator's disconnect-all turns every peer into
a paused one. A due retry is dialled outside the control owner under a token (`RetryAttempt`): the
retry keeps the token's serial number, and publishing the answered peer asks for it again.

`GroupSelection` (`rust/core/src/link/audio.rs`) is shared by the members of a priority group: the
hub publishes the slot that should be heard (`desired`), and the audio callback adopts it when no
input is active (`active`). The shared cells are the map `selections` of the manager here; a cell's
name is the configuration that made it and its group's label.

Counters that wrap are taken modulo `2 ^ 64`.
-/

namespace RptAdvanced.Link

open Lib

/-- Why the link hub rejects a peer. -/
inductive AdmissionError
  | identity
  | loop
  | denied
  | invalid
  | stale
  | unsupportedRoute
  deriving DecidableEq, Repr

/-- Audio forwarding mode of a link. -/
inductive Mode
  | monitor
  | localMonitor
  | transceive
  deriving DecidableEq, Repr

/-- `transmits`: the peer receives program audio. -/
def Mode.transmits : Mode → Bool
  | .transceive => true
  | .monitor | .localMonitor => false

/-- `forwards`: the peer's audio reaches other peers. -/
def Mode.forwards : Mode → Bool
  | .localMonitor => false
  | .monitor | .transceive => true

/-- `AccessPolicy::allows`: whether a peer, verified or not, may link. -/
abbrev AccessPolicy := String → Bool → Bool

/-! ## Priority groups -/

/-- Control/audio handoff of one priority group. Slots are counted from one; zero is none. -/
structure GroupSelection where
  desired : Nat := 0
  active : Nat := 0
  revision : Nat := 0
  deriving DecidableEq, Repr

namespace GroupSelection

def publishDesired (slot : Option Nat) (g : GroupSelection) : GroupSelection :=
  { g with desired := slot.getD 0 }

/-- `callback_slot`: an idle callback adopts the published slot. -/
def callbackSlot (inputsIdle : Bool) (g : GroupSelection) : Nat × GroupSelection :=
  if inputsIdle then
    (g.desired, { g with
      active := g.desired
      revision := if g.active ≠ g.desired then (g.revision + 1) % 2 ^ 64 else g.revision })
  else (g.active, g)

end GroupSelection

/-- Which shared selection cell: the configuration that made it, and its group. -/
structure SelectionId where
  epoch : Nat
  label : String
  deriving DecidableEq, Repr

/-- A configured group identity, a one-based callback slot and the shared selection. -/
structure GroupMember where
  label : String
  slot : Nat
  selection : SelectionId
  slot_pos : 0 < slot
  deriving DecidableEq, Repr

/-! ## Records -/

/-- A published peer. An ended one reserves its name until its reader is reclaimed. -/
structure Attached where
  name : String
  mode : Mode
  permanent : Bool
  ended : Bool
  routes : List Route
  group : Option String
  groupMember : Option GroupMember
  deriving DecidableEq, Repr

/-- The advertised paths that block a retry. -/
structure TopologyEvidence where
  paths : List (String × Char)
  deriving DecidableEq, Repr

/-- Retained connection intent. -/
structure Retry where
  name : String
  mode : Mode
  automatic : Bool
  paused : Bool
  due : Nat
  delay : Nat
  attempt : Option Nat
  blockedTopology : Option TopologyEvidence
  group : Option String
  groupMember : Option GroupMember
  deriving DecidableEq, Repr

/-- Owned token of one dial outside the control owner. -/
structure RetryAttempt where
  name : String
  mode : Mode
  serial : Nat
  generation : Nat
  deriving DecidableEq, Repr

/-- The retry that keeps the intent of a peer. -/
def Attached.retained (peer : Attached) (automatic paused : Bool) (due : Nat) : Retry where
  name := peer.name
  mode := peer.mode
  automatic
  paused
  due
  delay := 0
  attempt := none
  blockedTopology := none
  group := peer.group
  groupMember := peer.groupMember

/-- Whether a retry carries the token of `attempt`. -/
def Retry.carries (attempt : RetryAttempt) (retry : Retry) : Bool :=
  retry.name == attempt.name && retry.attempt == some attempt.serial

/-- The delay after a failed dial: 1, 2, 4, ... 300 seconds. -/
def nextDelay (delay : Nat) : Nat := min (max (satMul delay 2) 1000) 300000

/-- A failed dial postpones an unpaused retry. -/
def Retry.postpone (nowMs : Nat) (retry : Retry) : Retry :=
  let retry := { retry with attempt := none }
  if retry.paused then retry
  else
    { retry with delay := nextDelay retry.delay, due := satAdd nowMs (nextDelay retry.delay) }

/-- A retry that is dialled at once. -/
def Retry.resumed (nowMs : Nat) (retry : Retry) : Retry :=
  { retry with paused := false, delay := 0, due := nowMs, blockedTopology := none }

/-- Link control aggregate of a node. -/
structure LinkManager where
  localNode : String
  peers : List Attached := []
  retries : List Retry := []
  revision : Nat := 1
  generation : Nat := 1
  serial : Nat := 0
  selections : SelectionId → GroupSelection := fun _ => {}

/-- `char::is_whitespace`, for the characters `White_Space` names. -/
def isWhitespace (c : Char) : Bool :=
  let n := c.toNat
  decide (9 ≤ n ∧ n ≤ 13) || [0x20, 0x85, 0xa0, 0x1680].contains n
    || decide (0x2000 ≤ n ∧ n ≤ 0x200a) || [0x2028, 0x2029, 0x202f, 0x205f, 0x3000].contains n

/-- `NodeId::new` accepts the text. -/
def nodeIdValid (value : String) : Bool :=
  !value.isEmpty && decide (value.utf8ByteSize ≤ 63)
    && value.toList.all fun c => !(isWhitespace c || c == '[' || c == ']')

namespace LinkManager

def new (localNode : String) : Except AdmissionError LinkManager :=
  if !nodeIdValid localNode || localNode.toList.contains (Char.ofNat 0) then .error .identity
  else .ok { localNode }

/-! ## Admission -/

/-- Whether a live peer advertises a path to `name`. -/
def advertises (name : String) (peer : Attached) : Bool :=
  !peer.ended && peer.routes.any (·.node == name)

def reaches (m : LinkManager) (name : String) (includePaused : Bool) : Bool :=
  m.peers.any (fun peer => peer.name == name || advertises name peer)
    || m.retries.any fun retry => retry.name == name && (includePaused || !retry.paused)

/-- `check_group`: members of a group are not rejected for advertised paths. -/
def checkGroup (m : LinkManager) (name : String) (retries : Bool) (group : Option String) :
    Except AdmissionError Unit :=
  if !decimalIdentity name then .error .identity
  else if name == m.localNode
      || m.peers.any (fun peer => peer.name == name || (group.isNone && advertises name peer))
      || (retries && m.retries.any (·.name == name)) then .error .loop
  else .ok ()

/-- The slot of the highest-priority live member of a group. -/
def desiredSlot (peers : List Attached) (label : String) : Option Nat :=
  (((peers.filter (!·.ended)).filterMap (·.groupMember)).filter (·.label == label)).map
    (·.slot) |>.min?

/-- The first member of each group among the records. -/
def firstMembers (members : List GroupMember) : List GroupMember :=
  members.foldl (fun groups member =>
    if groups.any (·.label == member.label) then groups else groups ++ [member]) []

/-- The members of groups among the records, peers first. -/
def members (m : LinkManager) : List GroupMember :=
  m.peers.filterMap (·.groupMember) ++ m.retries.filterMap (·.groupMember)

/-- Publish the slot of a member's group through the member's selection. -/
def publishSlot (peers : List Attached) (selections : SelectionId → GroupSelection)
    (member : GroupMember) : SelectionId → GroupSelection :=
  Function.update selections member.selection
    ((selections member.selection).publishDesired (desiredSlot peers member.label))

/-- `refresh_group_selections`: publish each group's slot, through the first member's selection. -/
def refreshGroupSelections (m : LinkManager) : LinkManager :=
  { m with selections := (firstMembers m.members).foldl (publishSlot m.peers) m.selections }

/-- What readers of the status see has changed. -/
def revised (m : LinkManager) : LinkManager := { m with revision := (m.revision + 1) % 2 ^ 64 }

section Refresh

variable (m : LinkManager)

@[simp] theorem refreshGroupSelections_peers : m.refreshGroupSelections.peers = m.peers := rfl
@[simp] theorem refreshGroupSelections_retries : m.refreshGroupSelections.retries = m.retries := rfl
@[simp] theorem revised_retries : m.revised.retries = m.retries := rfl

end Refresh

def publish (name : String) (mode : Mode) (permanent : Bool) (group : Option String)
    (groupMember : Option GroupMember) (m : LinkManager) : LinkManager :=
  refreshGroupSelections { m.revised with
    peers := m.peers ++ [⟨name, mode, permanent, false, [], group, groupMember⟩] }

def attachGroup (name : String) (mode : Mode) (permanent : Bool) (group : Option String)
    (m : LinkManager) : Except AdmissionError Unit × LinkManager :=
  match m.checkGroup name true group with
  | .error e => (.error e, m)
  | .ok () => (.ok (), m.publish name mode permanent group none)

def attach (name : String) (mode : Mode) (permanent : Bool) (m : LinkManager) :
    Except AdmissionError Unit × LinkManager :=
  m.attachGroup name mode permanent none

/-- `attach_member`: attach a configured priority member. -/
def attachMember (name : String) (mode : Mode) (permanent : Bool) (member : Option GroupMember)
    (m : LinkManager) : Except AdmissionError Unit × LinkManager :=
  match m.checkGroup name true (member.map (·.label)) with
  | .error e => (.error e, m)
  | .ok () => (.ok (), m.publish name mode permanent (member.map (·.label)) member)

def authorizeIncomingMember (m : LinkManager) (name : String) (verified : Bool)
    (policy : AccessPolicy) (member : Option GroupMember) : Except AdmissionError Unit :=
  if !policy name verified then .error .denied
  else m.checkGroup name true (member.map (·.label))

def admitIncoming (name : String) (verified : Bool) (policy : AccessPolicy) (m : LinkManager) :
    Except AdmissionError Unit × LinkManager :=
  if !policy name verified then (.error .denied, m)
  else
    match m.checkGroup name true none with
    | .error e => (.error e, m)
    | .ok () => m.attach name .transceive false

def admitIncomingMember (name : String) (verified : Bool) (policy : AccessPolicy)
    (member : Option GroupMember) (m : LinkManager) : Except AdmissionError Unit × LinkManager :=
  if !policy name verified then (.error .denied, m)
  else m.attachMember name .transceive false member

/-! ## Advertised topology -/

/-- Order of `sort_unstable` on advertised paths. -/
def pathLe (a b : String × Char) : Prop := a.1 < b.1 ∨ (a.1 = b.1 ∧ a.2 ≤ b.2)

instance : DecidableRel pathLe := fun _ _ => inferInstanceAs (Decidable (_ ∨ _))

/-- `topology_evidence`: for a member of a group, the direct peer of that name; otherwise the paths
that live peers advertise. -/
def topologyEvidence (m : LinkManager) (name : String) (group : Option String) : TopologyEvidence :=
  match group with
  | some _ => ⟨(m.peers.filter (·.name == name)).map fun peer => (peer.name, 'D')⟩
  | none =>
    let paths := (m.peers.filter (!·.ended)).flatMap fun peer =>
      (peer.routes.filter (·.node == name)).map fun route => (peer.name, route.mode)
    ⟨(paths.insertionSort pathLe).destutter (· ≠ ·)⟩

/-- Whether the evidence that blocks a retry has changed. -/
def released (m : LinkManager) (retry : Retry) : Bool :=
  retry.blockedTopology.any fun evidence =>
    decide (evidence ≠ m.topologyEvidence retry.name retry.group)

def releaseChangedTopologyBlocks (m : LinkManager) : LinkManager :=
  { m with retries := m.retries.map fun retry =>
    if m.released retry then
      { retry with blockedTopology := none, attempt := none, delay := 0, due := 0 }
    else retry }

/-- A peer advertises other paths. -/
def adopt (name : String) (routes : List Route) (m : LinkManager) : LinkManager :=
  { m.revised with
    peers := modifyFirst (·.name == name) (fun peer => { peer with routes }) m.peers }

/-- `update_topology`, of a parsed message: whether it proves another path to a direct peer. -/
def updateTopology (name : String) (message : Option Protocol) (m : LinkManager) :
    Except AdmissionError Bool × LinkManager :=
  match message with
  | some (.topology routes) =>
    match m.peers.find? (·.name == name) with
    | none => (.error .invalid, m)
    | some source =>
      let looped := source.group.isNone && m.peers.any fun peer =>
        peer.name != name && !peer.ended && routes.any (·.node == peer.name)
      if source.routes = routes then (.ok looped, m)
      else (.ok looped, releaseChangedTopologyBlocks (m.adopt name routes))
  | _ => (.error .invalid, m)

/-! ## Ends and retained intent -/

/-- `end`: suppress an ended peer. -/
def endPeer (name : String) (m : LinkManager) : LinkManager :=
  if m.peers.any (·.name == name) then
    refreshGroupSelections { m.revised with
      peers := modifyFirst (·.name == name) (fun peer => { peer with ended := true }) m.peers }
  else m

/-- `reject_loop`: end a peer without scheduling its recovery. -/
def rejectLoop (name : String) (m : LinkManager) : LinkManager :=
  endPeer name { m with
    peers := modifyFirst (·.name == name) (fun peer => { peer with permanent := false }) m.peers }

/-- `reclaim`: remove an ended peer; a permanent one leaves a retry. -/
def reclaim (name : String) (nowMs : Nat) (m : LinkManager) : LinkManager :=
  match m.peers.find? fun peer => peer.name == name && peer.ended with
  | none => m
  | some peer => refreshGroupSelections { m.revised with
      peers := m.peers.eraseP fun peer => peer.name == name && peer.ended
      retries := if peer.permanent then m.retries ++ [peer.retained true false nowMs]
        else m.retries }

def automaticRetry (name : String) (mode : Mode) (due : Nat)
    (blockedTopology : Option TopologyEvidence) (group : Option String)
    (groupMember : Option GroupMember) : Retry :=
  ⟨name, mode, true, false, due, 0, none, blockedTopology, group, groupMember⟩

def retainRetryGroup (name : String) (mode : Mode) (nowMs : Nat) (group : Option String)
    (m : LinkManager) : Except AdmissionError Unit × LinkManager :=
  match m.checkGroup name true group with
  | .error e => (.error e, m)
  | .ok () =>
    (.ok (), { m with retries := m.retries ++ [automaticRetry name mode nowMs none group none] })

def retainRetryMember (name : String) (mode : Mode) (nowMs : Nat) (member : Option GroupMember)
    (m : LinkManager) : Except AdmissionError Unit × LinkManager :=
  match m.checkGroup name true (member.map (·.label)) with
  | .error e => (.error e, m)
  | .ok () =>
    (.ok (), refreshGroupSelections { m with
      retries := m.retries ++ [automaticRetry name mode nowMs none (member.map (·.label)) member] })

/-- `retain_topology_blocked_group`: an existing retry of that name is blocked in its place. -/
def retainTopologyBlockedGroup (name : String) (mode : Mode) (group : Option String)
    (groupMember : Option GroupMember) (m : LinkManager) : LinkManager :=
  let evidence := m.topologyEvidence name group
  if m.retries.any (·.name == name) then
    { m with retries := modifyFirst (·.name == name) (fun retry =>
      { retry with
        mode
        automatic := true
        paused := false
        attempt := none
        blockedTopology := some evidence
        group
        groupMember }) m.retries }
  else
    refreshGroupSelections { m with
      retries := m.retries ++ [automaticRetry name mode 0 (some evidence) group groupMember] }

/-! ## Dial tokens -/

/-- Whether a retry may be dialled at `nowMs`. -/
def dialable (nowMs : Nat) (retry : Retry) : Bool :=
  !retry.paused && retry.blockedTopology.isNone && retry.attempt.isNone &&
    decide (retry.due ≤ nowMs)

/-- `take_retry`: acquire one due dial token. -/
def takeRetry (nowMs : Nat) (m : LinkManager) : Option RetryAttempt × LinkManager :=
  match m.retries.find? (dialable nowMs) with
  | none => (none, m)
  | some retry =>
    let serial := (m.serial + 1) % 2 ^ 64
    (some ⟨retry.name, retry.mode, serial, m.generation⟩, { m with
      serial
      retries := modifyFirst (dialable nowMs) (fun retry => { retry with attempt := some serial })
        m.retries })

/-- `publish_retry`: the final gate before an answered peer is published. -/
def publishRetry (attempt : RetryAttempt) (m : LinkManager) :
    Except AdmissionError Unit × LinkManager :=
  if attempt.generation ≠ m.generation then (.error .stale, m)
  else
    match m.retries.find? fun retry => retry.carries attempt && !retry.paused with
    | none => (.error .stale, m)
    | some retry =>
      match m.checkGroup attempt.name false retry.group with
      | .error e => (.error e, { m with
          retries := modifyFirst (fun retry => retry.carries attempt && !retry.paused)
            (fun retry => { retry with
              blockedTopology := some (m.topologyEvidence attempt.name retry.group) }) m.retries })
      | .ok () =>
        (.ok (), m.publish attempt.name attempt.mode retry.automatic retry.group retry.groupMember)

/-- `finish_retry`: release a dial token. -/
def finishRetry (attempt : RetryAttempt) (success : Bool) (nowMs : Nat) (m : LinkManager) :
    LinkManager :=
  match m.retries.find? (·.carries attempt) with
  | none => m
  | some retry =>
    if retry.blockedTopology.isSome then
      { m with
        retries := modifyFirst (·.carries attempt) (fun retry => { retry with attempt := none })
          m.retries }
    else if success || decide (attempt.generation ≠ m.generation)
        || m.peers.any (·.name == attempt.name) || !retry.automatic then
      { m with retries := m.retries.eraseP (·.carries attempt) }
    else { m with retries := modifyFirst (·.carries attempt) (Retry.postpone nowMs) m.retries }

def cancelRetry (name : String) (m : LinkManager) : LinkManager :=
  { m with retries := m.retries.filter (·.name != name) }

def pauseRetries (m : LinkManager) : LinkManager :=
  { m with retries := m.retries.map fun retry => { retry with paused := true } }

def resumeRetries (nowMs : Nat) (m : LinkManager) : LinkManager :=
  { m with retries := m.retries.map (Retry.resumed nowMs) }

/-- The retry that `resume_permanent_retry` resumes. -/
def resumable (name : String) (retry : Retry) : Bool :=
  retry.name == name && retry.automatic && retry.paused

/-- `resume_permanent_retry`: resume one paused permanent retry. -/
def resumePermanentRetry (name : String) (mode : Mode) (nowMs : Nat) (m : LinkManager) :
    Bool × LinkManager :=
  if m.retries.any (resumable name) then
    (true, { m with retries := modifyFirst (resumable name) (fun retry =>
      { retry.resumed nowMs with mode, attempt := none }) m.retries })
  else (false, m)

def resumePermanentRetries (nowMs : Nat) (m : LinkManager) : LinkManager :=
  { m with retries := m.retries.map fun retry =>
    if retry.automatic then retry.resumed nowMs else retry }

def invalidateGeneration (m : LinkManager) : LinkManager :=
  { m with
    generation := (m.generation + 1) % 2 ^ 64
    retries := m.retries.map fun retry =>
      { retry with attempt := none, due := 0, delay := 0, blockedTopology := none } }

/-! ## Disconnects -/

/-- `owns_permanent`: exact permanent ownership, including paused recovery intent. -/
def ownsPermanent (m : LinkManager) (name : String) : Bool :=
  m.peers.any (fun peer => peer.name == name && peer.permanent && !peer.ended)
    || m.retries.any fun retry => retry.name == name && retry.automatic

def disconnectMode (name : String) (permanent : Bool) (m : LinkManager) : Bool × LinkManager :=
  let peers := m.peers.filter fun peer => peer.name != name || peer.permanent != permanent
  if m.peers.length ≠ peers.length then (true, refreshGroupSelections { m.revised with peers })
  else (false, { m with peers })

/-- `disconnect`: unpublish one temporary peer. -/
def disconnect (name : String) (m : LinkManager) : Bool × LinkManager :=
  m.disconnectMode name false

/-- `disconnect_permanent`: cancel recovery and unpublish one permanent peer. -/
def disconnectPermanent (name : String) (m : LinkManager) : Bool × LinkManager :=
  let retries := m.retries.filter fun retry => retry.name != name || !retry.automatic
  let changedRetry := decide (m.retries.length ≠ retries.length)
  let (changedPeer, m) := disconnectMode name true { m with retries }
  (changedPeer || changedRetry, if changedRetry then m.refreshGroupSelections else m)

def disconnectTemporary (m : LinkManager) : List String × LinkManager :=
  ((m.peers.filter (!·.permanent)).map (·.name),
    refreshGroupSelections { m.revised with peers := m.peers.filter (·.permanent) })

/-- `disconnect_permanent_all`: unpublish permanent links and pause their intent. -/
def disconnectPermanentAll (m : LinkManager) : List String × LinkManager :=
  let held := m.peers.filter (·.permanent)
  (held.map (·.name), refreshGroupSelections { m.revised with
    peers := m.peers.filter (!·.permanent)
    retries := (m.retries.map fun retry =>
      if retry.automatic then { retry with paused := true, attempt := none } else retry)
        ++ held.map (·.retained true true 0) })

/-- `disconnect_all`: unpublish every link and pause its intent. -/
def disconnectAll (m : LinkManager) : List String × LinkManager :=
  (m.peers.map (·.name), refreshGroupSelections { m.pauseRetries.revised with
    peers := []
    retries := m.pauseRetries.retries
      ++ m.peers.map fun peer => peer.retained peer.permanent true 0 })

def close (m : LinkManager) : List String × LinkManager :=
  (m.peers.map (·.name),
    refreshGroupSelections { m.invalidateGeneration.revised with peers := [], retries := [] })

end LinkManager

end RptAdvanced.Link
