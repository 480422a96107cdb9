import Mathlib.Algebra.Group.Nat.Defs
import RptAdvanced.Lib.Resumption
import RptAdvanced.Runtime.Generation

/-!
# The node host and its hazard slots (`rust/core/src/runtime/node_host.rs`)

A host publishes one generation to a receive and a transmit audio owner through an atomic pointer.
Each owner protects the generation it uses by its own hazard slot; the control owner retires and
frees generations. Pointers are addresses into the host's heap, and a freed address may be given
out again.

* The audio owners are step machines (`OwnerPhase`, `Host.own`): every step is one atomic load or
  store of `Shared::acquire`, of `acquire_pair` or of a guard's drop, or one access through a guard.
* The control owner's functions are programs of atomic actions (`Control`), so that the owners act
  between any two of their loads and stores. Reading and writing the control-private `Store` is an
  action too.

The orderings of the source are all sequentially consistent where two threads communicate through
`active` and `hazards`; the weaker ones guard values that only the control owner decides on.
-/

namespace RptAdvanced.Runtime

open Function

open Lib (Resumption)

/-- The address of a boxed generation. The null pointer is `none` of `Option Addr`. -/
abbrev Addr := Nat

/-- The index of an owner's hazard and adoption slot: 0 receives, 1 transmits. -/
inductive Slot
  | receive
  | transmit
  deriving DecidableEq, Repr

/-- Where an audio owner is in `acquire`, `acquire_pair` or a guard's drop. `retries` is how often
the bounded loop of `acquire` may still start over. -/
inductive OwnerPhase
  /-- No call is running and no guard is live. -/
  | idle
  /-- About to load `active`. -/
  | loading (retries : Nat)
  /-- Loaded `candidate`; about to store it in the hazard slot. -/
  | publishing (retries : Nat) (candidate : Option Addr)
  /-- The hazard is stored; about to load `active` again. -/
  | validating (retries : Nat) (candidate : Option Addr)
  /-- The candidate is no longer current; about to clear the hazard slot. -/
  | withdrawing (retries : Nat)
  /-- Validated; about to record the adopted id. -/
  | adopting (pointer : Addr)
  /-- `acquire_pair` only: about to store the transmit hazard. -/
  | pairing (pointer : Addr)
  /-- `acquire_pair` only: about to record the transmit owner's adopted id. -/
  | pairAdopting (pointer : Addr)
  /-- The guard is live. -/
  | holding (pointer : Addr)
  /-- A paired guard is dropping: about to clear the transmit hazard. -/
  | releasing
  /-- The transmit owner is borrowed by a running `acquire_pair` or its guard. -/
  | lent
  deriving DecidableEq, Repr

/-- What the host's history records: a guard was returned to an owner, or a reload transaction
closed, restored or replaced the device the callbacks belong to. -/
inductive HostEvent
  | granted (slot : Slot) (pointer : Addr)
  | paired (pointer : Addr)
  | deviceClosed
  | deviceRestored
  | committed
  deriving DecidableEq, Repr

/-- Publication/adoption/reclamation state. -/
inductive LifecycleState
  | running
  | adoptionPending
  | retirementPending
  | stopping
  | stopped
  deriving DecidableEq, Repr

/-- Control-plane snapshot of a host. -/
structure LifecycleStatus where
  active : Option Nat
  retiring : Option Nat
  state : LifecycleState
  ageMs : Nat
  receiveAdopted : Nat
  transmitAdopted : Nat
  protectedOwners : Nat
  outstandingWork : Nat
  quiescenceTimeouts : Nat
  deriving DecidableEq, Repr

/-- `Shared` and `Store` of a host, its heap, and its two audio owners. `hints` are the addresses
the allocator will answer with while they are free; `history` is a record the program does not
read. -/
structure Host (R T : Type) where
  active : Option Addr
  hazards : Slot → Option Addr
  adopted : Slot → Nat
  heap : Addr → Option (RuntimeGeneration R T)
  storeActive : Option Addr
  storeRetired : Option Addr
  changedMs : Nat
  stopping : Bool
  reportedTimeout : Option (Option Nat × LifecycleState)
  timeouts : Nat
  registered : Bool
  phase : Slot → OwnerPhase
  hints : List Addr
  history : List HostEvent

namespace Host

variable {R T : Type}

/-- `NodeHost::new`: one prepared generation, published, and no owner registered. -/
def new (generation : RuntimeGeneration R T) (pointer : Addr) (hints : List Addr) : Host R T where
  active := some pointer
  hazards := fun _ => none
  adopted := fun _ => 0
  heap := update (fun _ => none) pointer (some generation)
  storeActive := some pointer
  storeRetired := none
  changedMs := 0
  stopping := false
  reportedTimeout := none
  timeouts := 0
  registered := false
  phase := fun _ => .idle
  hints
  history := []

/-- The owner of `slot` goes on to `phase`. -/
def setPhase (slot : Slot) (phase : OwnerPhase) (h : Host R T) : Host R T :=
  { h with phase := update h.phase slot phase }

/-- A store to a hazard slot. -/
def setHazard (slot : Slot) (pointer : Option Addr) (h : Host R T) : Host R T :=
  { h with hazards := update h.hazards slot pointer }

/-- A store to an adoption slot. -/
def setAdopted (slot : Slot) (id : Nat) (h : Host R T) : Host R T :=
  { h with adopted := update h.adopted slot id }

/-- A write to the generation at `pointer`, if it is allocated. -/
def modify (pointer : Addr) (f : RuntimeGeneration R T → RuntimeGeneration R T) (h : Host R T) :
    Host R T :=
  { h with heap := update h.heap pointer ((h.heap pointer).map f) }

def note (event : HostEvent) (h : Host R T) : Host R T :=
  { h with history := h.history ++ [event] }

/-- `(*pointer).id`. -/
def idAt (pointer : Addr) (h : Host R T) : Nat := ((h.heap pointer).map (·.id)).getD 0

end Host

/-- What the audio owners do, one atomic step at a time. A step that is not enabled does nothing. -/
inductive OwnerStep (R T : Type)
  /-- Call `acquire`. -/
  | acquire (slot : Slot)
  /-- Call `acquire_pair`: it borrows the transmit owner. -/
  | acquirePair
  /-- The next atomic load or store of the running call. -/
  | advance (slot : Slot)
  /-- Drop the live guard: clear its hazard slot (of a pair, the receive slot first). -/
  | drop (slot : Slot)
  /-- Write the receive state through a live guard. -/
  | writeReceive (state : R)
  /-- Write the transmit state through a live guard. -/
  | writeTransmit (state : T)
  /-- A worker drops one permit of the generation at `pointer`. -/
  | releaseWork (pointer : Addr)

namespace Host

variable {R T : Type}

/-- The live guard through which the state of `slot` is accessed. -/
def guardOf (slot : Slot) (h : Host R T) : Option Addr :=
  match slot, h.phase slot, h.phase .receive with
  | _, .holding p, _ => some p
  | .transmit, .lent, .holding p => some p
  | _, _, _ => none

/-- `acquire` has returned `None`: a borrowed transmit owner is free again. -/
def giveUp (slot : Slot) (h : Host R T) : Host R T :=
  let h := h.setPhase slot .idle
  if slot = .receive ∧ h.phase .transmit = .lent then h.setPhase .transmit .idle else h

/-- `acquire(slot)` returns the validated pointer: to its caller, or to `acquire_pair`. -/
def acquired (slot : Slot) (p : Addr) (h : Host R T) : Host R T :=
  if slot = .receive ∧ h.phase .transmit = .lent then h.setPhase slot (.pairing p)
  else (h.setPhase slot (.holding p)).note (.granted slot p)

/-- `candidate_is_current` decides whether the published hazard counts. -/
def validate (slot : Slot) (retries : Nat) (candidate : Option Addr) (h : Host R T) : Host R T :=
  match candidate with
  | some p =>
    if h.active = some p then h.setPhase slot (.adopting p)
    else h.setPhase slot (.withdrawing retries)
  | none => h.setPhase slot (.withdrawing retries)

/-- A rejected candidate's hazard is cleared; the loop starts over while it may. -/
def withdraw (slot : Slot) (retries : Nat) (h : Host R T) : Host R T :=
  match retries with
  | 0 => (h.setHazard slot none).giveUp slot
  | n + 1 => (h.setHazard slot none).setPhase slot (.loading n)

/-- The atomic load or store of a call that is in `phase`. -/
def resume (slot : Slot) (h : Host R T) : OwnerPhase → Host R T
  | .loading n => h.setPhase slot (.publishing n h.active)
  | .publishing n candidate => (h.setHazard slot candidate).setPhase slot (.validating n candidate)
  | .validating n candidate => h.validate slot n candidate
  | .withdrawing n => h.withdraw slot n
  | .adopting p => (h.setAdopted slot (h.idAt p)).acquired slot p
  | .pairing p => (h.setHazard .transmit (some p)).setPhase slot (.pairAdopting p)
  | .pairAdopting p =>
    ((h.setAdopted .transmit (h.idAt p)).setPhase slot (.holding p)).note (.paired p)
  | .releasing => ((h.setHazard .transmit none).setPhase slot .idle).setPhase .transmit .idle
  | .idle | .holding _ | .lent => h

def dropGuard (slot : Slot) (h : Host R T) : Host R T :=
  match h.phase slot with
  | .holding _ =>
    let h := h.setHazard slot none
    if slot = .receive ∧ h.phase .transmit = .lent then h.setPhase slot .releasing
    else h.setPhase slot .idle
  | _ => h

/-- One step of an audio owner or of a worker that holds a permit. -/
def own (step : OwnerStep R T) (h : Host R T) : Host R T :=
  match step with
  | .acquire slot =>
    if h.registered ∧ h.phase slot = .idle then h.setPhase slot (.loading 1) else h
  | .acquirePair =>
    if h.registered ∧ h.phase .receive = .idle ∧ h.phase .transmit = .idle then
      (h.setPhase .receive (.loading 1)).setPhase .transmit .lent
    else h
  | .advance slot => h.resume slot (h.phase slot)
  | .drop slot => h.dropGuard slot
  | .writeReceive state =>
    match h.guardOf .receive with
    | some p => h.modify p fun g => { g with receive := state }
    | none => h
  | .writeTransmit state =>
    match h.guardOf .transmit with
    | some p => h.modify p fun g => { g with transmit := state }
    | none => h
  | .releaseWork p => h.modify p fun g => { g with outstanding := g.outstanding - 1 }

end Host

/-! ## The control owner -/

/-- A function of the control owner: atomic actions with the audio owners acting in between. -/
abbrev Control (R T : Type) := Resumption (Host R T)

/-- The two boxes of `Store`. -/
inductive Keep
  | active
  | retired
  deriving DecidableEq, Repr

/-- A box of the store as a control function looks at it. -/
structure Boxed where
  pointer : Addr
  id : Nat
  settings : GenerationSettings
  deriving DecidableEq, Repr

namespace Host

variable {R T : Type}

/-- The address a box of the store holds. -/
def kept : Keep → Host R T → Option Addr
  | .active, h => h.storeActive
  | .retired, h => h.storeRetired

/-- The generation a box of the store holds. -/
def keptGeneration (keep : Keep) (h : Host R T) : Option (RuntimeGeneration R T) :=
  (h.kept keep).bind h.heap

/-- A box of the store: its address and the fields of its generation that never change. -/
def boxed (keep : Keep) (h : Host R T) : Option Boxed :=
  (h.kept keep).bind fun p => (h.heap p).map fun g => ⟨p, g.id, g.settings⟩

/-- The published generation's id, absent once the host is stopping. -/
def activeId (h : Host R T) : Option Nat :=
  if h.stopping then none else (h.keptGeneration .active).map (·.id)

/-- The retained previous generation's id; a stopping host's active one counts. -/
def retiringId (h : Host R T) : Option Nat :=
  ((h.keptGeneration .retired).map (·.id)).or
    (if h.stopping then (h.keptGeneration .active).map (·.id) else none)

/-- `work.outstanding` of a box of the store. -/
def outstandingIn (keep : Keep) (h : Host R T) : Nat :=
  ((h.keptGeneration keep).map (·.outstanding)).getD 0

/-- The least free of three addresses. -/
def leastFree (h : Host R T) : Addr :=
  if (h.heap 0).isNone then 0 else if (h.heap 1).isNone then 1 else 2

/-- An address the allocator may answer with: its own choice where that is free. Of three addresses
one is free, since the store holds at most two. -/
def freeAddress (h : Host R T) : Addr :=
  match h.hints.head? with
  | some p => if (h.heap p).isNone then p else h.leastFree
  | none => h.leastFree

/-- `work.admitted.store(false)` for a box of the store. -/
def clearAdmitted (keep : Keep) (h : Host R T) : Host R T :=
  match h.kept keep with
  | some p => h.modify p fun g => { g with admitted := false }
  | none => h

/-- Dropping a box: its address is free again. -/
def free (pointer : Option Addr) (h : Host R T) : Host R T :=
  match pointer with
  | some p => { h with heap := update h.heap p none }
  | none => h

/-- `*generation = None` for a box of the store. -/
def discard (keep : Keep) (h : Host R T) : Host R T :=
  match keep with
  | .active => { h.free h.storeActive with storeActive := none }
  | .retired => { h.free h.storeRetired with storeRetired := none }

/-- `store.retired = store.active.replace(Box::new(generation))`. Assigning `retired` drops what it
held. -/
def retire (generation : RuntimeGeneration R T) (h : Host R T) : Host R T :=
  let pointer := h.freeAddress
  let freed := h.free h.storeRetired
  { freed with
    heap := update freed.heap pointer (some generation)
    storeActive := some pointer
    storeRetired := h.storeActive
    hints := h.hints.tail }

end Host

namespace Control

variable {R T D : Type}

/-- Read what only the control owner writes. -/
def readStore {α : Type} (f : Host R T → α) : Control R T α := .load f

/-- `shared.active.store(pointer)`. -/
def publishPointer (pointer : Option Addr) : Control R T Unit :=
  .store fun h => { h with active := pointer }

/-- `hazards[slot].load()`. -/
def loadHazard (slot : Slot) : Control R T (Option Addr) := .load (·.hazards slot)

/-- `adopted[slot].load()`. -/
def loadAdopted (slot : Slot) : Control R T Nat := .load (·.adopted slot)

/-- `generation.detached.store(true)`. -/
def storeDetached (pointer : Addr) : Control R T Unit :=
  .store fun h => h.modify pointer fun g => { g with detached := true }

/-- `generation.work.admitted.store(false)` for a box of the store. -/
def clearAdmitted (keep : Keep) : Control R T Unit := .store (Host.clearAdmitted keep)

/-- `generation.work.outstanding.load()`. -/
def loadOutstanding (pointer : Addr) : Control R T Nat :=
  .load fun h => ((h.heap pointer).map (·.outstanding)).getD 0

/-- `hazards.iter().any(|slot| !slot.load().is_null())`. -/
def anyHazard : Control R T Bool := do
  if (← loadHazard .receive).isSome then return true
  return (← loadHazard .transmit).isSome

/-- `store.active.as_ref()`. -/
def activeBox : Control R T (Option Boxed) := readStore (Host.boxed .active)

def gateCallbacks : Control R T Unit := publishPointer none

def restoreCallbacks : Control R T Unit := do
  if ← readStore (·.stopping) then return ()
  match ← readStore (·.storeActive) with
  | some p => publishPointer (some p)
  | none => return ()

/-- `stop`: gate callback entry and invalidate work. -/
def stop (nowMs : Nat) : Control R T Unit := do
  .store fun h => { h with stopping := true }
  publishPointer none
  clearAdmitted .active
  clearAdmitted .retired
  .store fun h => { h with changedMs := nowMs }

/-- The publication at the end of `publish_prepared`: retire the active generation, then publish
the candidate. -/
def replaceActive (generation : RuntimeGeneration R T) (nowMs : Nat) : Control R T Unit := do
  clearAdmitted .active
  let pointer ← Resumption.atomic fun h => (h.freeAddress, h.retire generation)
  publishPointer (some pointer)
  .store fun h => { h with changedMs := nowMs }

def publishPrepared (generation : RuntimeGeneration R T) (nowMs : Nat) :
    Control R T (Except LifecycleError Unit) := do
  if ← readStore (·.stopping) then return .error .stopped
  if (← readStore (·.storeRetired)).isSome then return .error .retirementPending
  if (← activeBox).any fun old =>
      decide (generation.id ≤ old.id ∨ generation.settings.node ≠ old.settings.node) then
    return .error .invalidGeneration
  replaceActive generation nowMs
  return .ok ()

/-- `publish`: a prepared generation of the same device. -/
def publish (generation : RuntimeGeneration R T) (nowMs : Nat) :
    Control R T (Except LifecycleError Unit) := do
  if (← activeBox).any fun old =>
      decide (old.settings.device ≠ generation.settings.device) then
    return .error .handoffRequired
  publishPrepared generation nowMs

/-- The closure of `publish_transferring` applied to the old and the new receive and transmit
state: what it leaves in the old generation, and the new generation. -/
def transferStates (pointer : Addr) (generation : RuntimeGeneration R T)
    (transfer : R → T → R → T → (R × T) × (R × T)) : Control R T (RuntimeGeneration R T) :=
  .atomic fun h =>
    match h.heap pointer with
    | some old =>
      let ((oldReceive, oldTransmit), (receive, transmit)) :=
        transfer old.receive old.transmit generation.receive generation.transmit
      ({ generation with receive, transmit },
        h.modify pointer fun g => { g with receive := oldReceive, transmit := oldTransmit })
    | none => (generation, h)

def publishTransferring (generation : RuntimeGeneration R T) (nowMs : Nat)
    (transfer : R → T → R → T → (R × T) × (R × T)) : Control R T (Except LifecycleError Unit) := do
  if ← readStore (·.stopping) then return .error .stopped
  if (← readStore (·.storeRetired)).isSome then return .error .retirementPending
  match ← activeBox with
  | none => return .error .stopped
  | some old =>
    if generation.id ≤ old.id ∨ generation.settings ≠ old.settings then
      return .error .invalidGeneration
    publishPointer none
    if ← anyHazard then
      publishPointer (some old.pointer)
      return .error .callbacksActive
    let generation ← transferStates old.pointer generation transfer
    publishPrepared generation nowMs

/-- `handoff`: replace a hardware lease after complete callback quiescence. -/
def handoff [DeviceHandoff D] (generation : RuntimeGeneration R T) (device : D) (nowMs : Nat) :
    Control R T (Except LifecycleError Unit × D) := do
  if ← readStore (·.stopping) then return (.error .stopped, device)
  if (← readStore (·.storeRetired)).isSome then return (.error .retirementPending, device)
  match ← activeBox with
  | none => return (.error .stopped, device)
  | some old =>
    if generation.id ≤ old.id ∨ generation.settings.node ≠ old.settings.node then
      return (.error .invalidGeneration, device)
    let (quiet, device) := DeviceHandoff.quiesce device
    if !quiet then return (.error .callbacksActive, device)
    publishPointer none
    if ← busy old.pointer then
      publishPointer (some old.pointer)
      return (.error .callbacksActive, device)
    let (opened, device) :=
      DeviceHandoff.openDevice generation.settings (DeviceHandoff.close device)
    if opened then
      storeDetached old.pointer
      return (← publishPrepared generation nowMs, device)
    let (restored, device) := DeviceHandoff.openDevice old.settings device
    if restored then
      publishPointer (some old.pointer)
      return (.error .handoffRestored, device)
    storeDetached old.pointer
    stop nowMs
    return (.error .handoffFailed, device)
where
  /-- A callback is protected or work is outstanding. -/
  busy (p : Addr) : Control R T Bool := do
    if ← anyHazard then return true
    return (← loadOutstanding p) ≠ 0

/-- `work`: reserve a permit of the active generation, named by its id. -/
def work : Control R T (Option Nat) := do
  if ← readStore (·.stopping) then return none
  match ← activeBox with
  | none => return none
  | some old =>
    .store fun h => h.modify old.pointer fun g => { g with outstanding := g.outstanding + 1 }
    return some old.id

/-- `mark_detached` for one box of the store. -/
def markDetachedBox (keep : Keep) (id : Nat) : Control R T Bool := do
  match ← readStore fun h => h.boxed keep with
  | none => return false
  | some box =>
    if box.id ≠ id then return false
    if ← Resumption.load fun h => (h.heap box.pointer).any (·.admitted) then return false
    storeDetached box.pointer
    return true

def markDetached (id : Nat) : Control R T (Except LifecycleError Unit) := do
  if ← markDetachedBox .active id then return .ok ()
  if ← markDetachedBox .retired id then return .ok ()
  return .error .unknownGeneration

/-- The adoption condition of `reclaim`. -/
def adopted : Control R T Bool := do
  if ← readStore (·.stopping) then return true
  match ← activeBox with
  | none => return true
  | some active =>
    if (← loadAdopted .receive) ≠ active.id then return false
    return (← loadAdopted .transmit) = active.id

/-- `ready` of `reclaim`: detached, without work, and in no hazard slot. -/
def reclaimable (p : Addr) : Control R T Bool := do
  if !(← Resumption.load fun h => (h.heap p).any (·.detached)) then return false
  if (← loadOutstanding p) ≠ 0 then return false
  if (← loadHazard .receive) = some p then return false
  return (← loadHazard .transmit) ≠ some p

/-- One round of the loop of `reclaim`. -/
def reclaimBox (keep : Keep) : Control R T Bool := do
  match ← readStore (·.kept keep) with
  | none => return false
  | some p =>
    if ← reclaimable p then
      .store fun h => h.discard keep
      return true
    return false

def reclaim : Control R T Bool := do
  if !(← adopted) then return false
  let retired ← reclaimBox .retired
  let active ← reclaimBox .active
  return retired || active

/-- `status`: a snapshot of the lifecycle. -/
def status (nowMs : Nat) : Control R T LifecycleStatus := do
  let receiveAdopted ← loadAdopted .receive
  let transmitAdopted ← loadAdopted .transmit
  let stopping ← readStore (·.stopping)
  let active ← readStore Host.activeId
  let retiring ← readStore Host.retiringId
  let empty ← readStore fun h => h.storeActive.isNone && h.storeRetired.isNone
  let changedMs ← readStore (·.changedMs)
  let receive ← loadHazard .receive
  let transmit ← loadHazard .transmit
  let activeWork ← Resumption.load fun h => h.outstandingIn .active
  let retiredWork ← Resumption.load fun h => h.outstandingIn .retired
  let timeouts ← readStore (·.timeouts)
  let state :=
    if stopping then if empty then .stopped else .stopping
    else if retiring.isSome then
      if active = some receiveAdopted ∧ active = some transmitAdopted then .retirementPending
      else .adoptionPending
    else .running
  return {
    active, retiring, state
    ageMs := nowMs - changedMs
    receiveAdopted, transmitAdopted
    protectedOwners := receive.isSome.toNat + transmit.isSome.toNat
    outstandingWork := activeWork + retiredWork
    quiescenceTimeouts := timeouts }

/-- `report_timeout`: record a timeout once for each pending stage. -/
def reportTimeout (nowMs timeoutMs : Nat) : Control R T Bool := do
  let status ← status nowMs
  let key := (status.retiring, status.state)
  if status.state = .running ∨ status.state = .stopped ∨ status.ageMs < timeoutMs
      ∨ (← readStore (·.reportedTimeout)) = some key then
    return false
  .store fun h => { h with
    reportedTimeout := some key
    timeouts := min (h.timeouts + 1) (2 ^ 64 - 1) }
  return true

end Control

end RptAdvanced.Runtime
