import RptAdvanced.Link.Identity
import RptAdvanced.Runtime.Scheduler

/-!
# Configured routes (`rust/core/src/runtime/link_schedule.rs`)

A node's configured routes are wanted permanently or while a replacement window requests them.
`LinkScheduler` keeps for each route whether it is issued to the hub, wanted (`desired`), paused by
an operator, and reserved by a dial in flight (`pending`). A window refers to its routes by index;
`new` checks the indices.

Results:
* `tickWithWarnings_routes`: a tick changes a route only in what is wanted, and withdraws `issued`
  exactly where the hub no longer owns the route.
* `Edits`: what each operation does to a route.
-/

namespace RptAdvanced.Runtime

open Lib List Link Schedule Option
open ScheduleProvider

/-- One exact directed route owned by configuration. -/
structure RouteSpec where
  localNode : String
  remote : String
  permanent : Bool
  groupLabel : Option String
  groupName : Option String
  groupPriority : Option Nat
  deriving DecidableEq, Repr

/-- One same-node replacement window. -/
structure ReplacementSpec where
  routes : List Nat
  replaced : List Nat
  window : ScheduledWindow
  endInactivityMs : Nat
  warningBeforeStartMs : List Nat
  warningBeforeEndMs : List Nat
  warningMessageId : Option String
  deriving DecidableEq, Repr

structure ScheduleWarning where
  messageId : String
  connecting : Bool
  target : String
  targetIsNode : Bool
  remainingMs : Nat
  deadlineMs : Nat
  deriving DecidableEq, Repr

/-- Physical configured-route transition. -/
inductive LinkTransition
  | attach
  | detach
  deriving DecidableEq, Repr

/-- A configured route and its progress. -/
structure Route where
  spec : RouteSpec
  issued : Bool
  desired : Bool
  paused : Bool
  pending : Option Nat
  deriving DecidableEq, Repr

/-- Stable calendar occurrence of a window's end. -/
inductive EndOccurrence
  | scheduled (identity : Nat)
  | elapsed (year month day : Nat)
  deriving DecidableEq, Repr

def EndOccurrence.elapsedOn (civil : CivilTime) : EndOccurrence :=
  .elapsed civil.year civil.month civil.day

/-- A replacement window and its progress. -/
structure Window where
  spec : ReplacementSpec
  lastActivity : Option Nat := none
  initialized : Bool := false
  wasActive : Bool := false
  waiting : Bool := false
  initialDeadline : Option Nat := none
  startOccurrence : Option Nat := none
  startWarned : List Nat := []
  endWarningIdentity : Option (EndOccurrence × Option Nat) := none
  endWarned : List Nat := []
  deriving DecidableEq, Repr

/-- Copied admission token of one route operation. -/
structure LinkReservation where
  generation : Nat
  index : Nat
  nonce : Nat
  spec : RouteSpec
  action : LinkTransition
  deriving DecidableEq, Repr

/-- Serialized configured-route intent. -/
structure LinkScheduler where
  generation : Nat
  nonce : Nat
  routes : List Route
  windows : List Window
  deriving DecidableEq, Repr

def sameRouteIdentity (left right : RouteSpec) : Bool :=
  left.localNode == right.localNode && left.remote == right.remote
    && left.permanent == right.permanent && left.groupLabel == right.groupLabel

/-! ## Construction -/

/-- The windows that request route `index`. -/
def windowsOf (index : Nat) (windows : List ReplacementSpec) : List ScheduledWindow :=
  (windows.filter (·.routes.contains index)).map (·.window)

/-- Whether two routes to one peer can be wanted at the same time. -/
def routesClash [ScheduleProvider] (windows : List ReplacementSpec) (index : Nat)
    (route : RouteSpec) (otherIndex : Nat) (other : RouteSpec) : Bool :=
  route.localNode == other.localNode && route.remote == other.remote
    && (route.permanent || other.permanent || route.groupLabel == other.groupLabel
      || (windowsOf index windows).isEmpty || (windowsOf otherIndex windows).isEmpty
      || (windowsOf index windows).any fun window =>
        (windowsOf otherIndex windows).any fun other => windowOverlaps window other)

def duplicateRoutesOverlap [ScheduleProvider] (routes : List RouteSpec)
    (windows : List ReplacementSpec) : Bool :=
  routes.zipIdx.any fun (route, index) =>
    (routes.take index).zipIdx.any fun (other, otherIndex) =>
      routesClash windows index route otherIndex other

/-- A replacement group's routes are the group's members in order of priority. -/
def groupValid (routes : List RouteSpec) (first : RouteSpec) (members : List Nat) : Bool :=
  first.groupLabel.isSome && members.zipIdx.all fun (index, priority) =>
    (routes[index]?).any fun route =>
      !route.permanent && route.localNode == first.localNode
        && route.groupLabel == first.groupLabel && route.groupName == first.groupName
        && route.groupPriority == some priority

/-- The checks of `new` on one window. -/
def windowValid (routes : List RouteSpec) (window : ReplacementSpec) : Bool :=
  window.routes.all (fun route => !window.replaced.contains route)
    && decide window.routes.Nodup && decide window.replaced.Nodup
    && ((window.routes.head?).bind (routes[·]?)).any (fun first =>
      !first.permanent
        && window.replaced.all (fun index => (routes[index]?).any fun replaced =>
          replaced.permanent && first.localNode == replaced.localNode)
        && (decide (window.routes.length ≤ 1) || groupValid routes first window.routes))
    && ((window.replaced.head?).bind (routes[·]?)).any (fun first =>
      window.replaced.all fun index =>
        (routes[index]?).any fun replaced => replaced.groupLabel == first.groupLabel)

/-- The specifications of the routes a window refers to. -/
def routesAt (routes : List RouteSpec) (indices : List Nat) : List (Option RouteSpec) :=
  indices.map (routes[·]?)

/-- Whether a window is unchanged from the previous scheduler's. -/
def sameWindow (oldRoutes routes : List RouteSpec) (old spec : ReplacementSpec) : Bool :=
  old.window == spec.window && old.endInactivityMs == spec.endInactivityMs
    && old.warningBeforeStartMs == spec.warningBeforeStartMs
    && old.warningBeforeEndMs == spec.warningBeforeEndMs
    && old.warningMessageId == spec.warningMessageId
    && routesAt oldRoutes old.routes == routesAt routes spec.routes
    && routesAt oldRoutes old.replaced == routesAt routes spec.replaced

/-- The local node of a window's first route. -/
def windowLocal (routes : List RouteSpec) (spec : ReplacementSpec) : Option String :=
  ((spec.routes.head?).bind (routes[·]?)).map (·.localNode)

namespace LinkScheduler

def routeSpecs (s : LinkScheduler) : List RouteSpec := s.routes.map (·.spec)

/-- The candidate's state of one window: an unchanged window keeps its progress, and a changed one
the receive activity of its node. -/
def inheritWindow (previous : Option LinkScheduler) (routes : List RouteSpec)
    (spec : ReplacementSpec) : Window :=
  let old := previous.bind fun previous =>
    previous.windows.find? fun window => sameWindow previous.routeSpecs routes window.spec spec
  let activity := previous.bind fun previous =>
    ((previous.windows.filter fun window =>
      windowLocal previous.routeSpecs window.spec == windowLocal routes spec).filterMap
        (·.lastActivity)).max?
  match old with
  | some old => { old with spec, lastActivity := activity }
  | none => { spec, lastActivity := activity }

/-- The previous scheduler's route of the same identity. -/
def priorRoute (previous : Option LinkScheduler) (spec : RouteSpec) : Option Route :=
  previous.bind fun old => old.routes.find? fun route => sameRouteIdentity route.spec spec

/-- The candidate's state of one route. -/
def inheritRoute (previous : Option LinkScheduler) (spec : RouteSpec) : Route where
  spec
  issued := (priorRoute previous spec).any (·.issued)
  desired := spec.permanent
  paused := (priorRoute previous spec).any (·.paused)
  pending := none

/-- The remotes of all routes in their canonical spelling. -/
def canonicalRoutes (routes : List RouteSpec) : Option (List RouteSpec) :=
  routes.mapM fun route =>
    (PeerIdentity.canonicalOperator route.remote).map fun remote => { route with remote }

/-- `new`: validate all references, then construct the candidate state. -/
def new [ScheduleProvider] (generation : Nat) (routes : List RouteSpec)
    (windows : List ReplacementSpec) (previous : Option LinkScheduler) :
    Except SchedulerError LinkScheduler :=
  match canonicalRoutes routes with
  | none => .error .invalid
  | some routes =>
    if generation = 0 || previous.any (fun old => decide (generation ≤ old.generation))
        || duplicateRoutesOverlap routes windows
        || routes.any (fun route => route.localNode.isEmpty || route.localNode == route.remote)
        || !windows.all (windowValid routes) then
      .error .invalid
    else
      .ok {
        generation
        nonce := 0
        routes := routes.map (inheritRoute previous)
        windows := windows.map (inheritWindow previous routes) }

end LinkScheduler

/-! ## Ticks -/

/-- Milliseconds since local midnight. -/
def sinceMidnightMs (civil : CivilTime) (second : Nat) : Nat :=
  (civil.hour * 3600 + civil.minute * 60 + second) * 1000

namespace Window

/-- Newer receive activity restarts the inactivity time. -/
def hear (observed : Option Nat) (w : Window) : Window :=
  if observed.any fun o => w.lastActivity.all fun last => decide (last < o) then
    { w with lastActivity := observed, initialDeadline := none }
  else w

/-- Whether a window's grace period is over. -/
def quiet (nowMs : Nat) (w : Window) : Bool :=
  match w.initialDeadline with
  | some deadline => decide (deadline ≤ nowMs)
  | none => w.spec.endInactivityMs == 0 || w.lastActivity.isNone
      || w.lastActivity.any fun last =>
        decide (last ≤ nowMs) && decide (w.spec.endInactivityMs ≤ nowMs - last)

/-- The end of the grace period. -/
def rest (nowMs : Nat) (w : Window) : Window :=
  if w.waiting && w.quiet nowMs then { w with waiting := false, initialDeadline := none } else w

section Provider

variable [ScheduleProvider]

/-- The first tick may find the window's end already past. -/
def firstTick (civil : CivilTime) (second nowMs : Nat) (active : Bool) (w : Window) : Window :=
  if w.initialized then w
  else
    let w := { w with initialized := true }
    if !active && w.spec.endInactivityMs != 0 then
      match windowElapsedAfterEnd w.spec.window civil second with
      | none => w
      | some elapsed =>
        if w.lastActivity.isSome then { w with waiting := true }
        else if elapsed < w.spec.endInactivityMs then
          { w with
            waiting := true
            initialDeadline := some (satAdd nowMs (w.spec.endInactivityMs - elapsed)) }
        else w
    else w

/-- The window is entered, or left: leaving it keeps the consumed warnings of its end. -/
def cross (civil : CivilTime) (second : Nat) (active : Bool) (w : Window) : Window :=
  if active then { w with wasActive := true, waiting := false, initialDeadline := none }
  else if w.wasActive then
    { w with
      wasActive := false
      waiting := true
      endWarningIdentity :=
        if (windowElapsedAfterEnd w.spec.window civil second).isSome then
          w.endWarningIdentity.map fun (_, last) => (.elapsedOn civil, last)
        else w.endWarningIdentity }
  else w

/-- The warning about a boundary of the window of `route`. -/
def warning (messageId : String) (route : RouteSpec) (connecting : Bool)
    (remainingMs deadlineMs : Nat) : ScheduleWarning where
  messageId
  connecting
  target := route.groupName.getD route.remote
  targetIsNode := route.groupName.isNone
  remainingMs
  deadlineMs

/-- The end a warning is about: a past end that extends a grace period or lies on the same day, or
the next one. -/
def warnedEnd (civil : CivilTime) (second nowMs : Nat) (w : Window) :
    Option (EndOccurrence × Nat) :=
  match (windowElapsedAfterEnd w.spec.window civil second).filter fun elapsed =>
      w.waiting || decide (elapsed ≤ sinceMidnightMs civil second) with
  | some elapsed =>
    some (if w.waiting then (w.endWarningIdentity.map (·.1)).getD (.elapsedOn civil)
      else .elapsedOn civil, nowMs - elapsed)
  | none =>
    (windowNextEnd w.spec.window civil second).map fun (identity, remaining) =>
      (.scheduled identity, satAdd nowMs remaining)

/-- When the schedule is expected to disconnect, for a window that ends at `endMs`. -/
def deadline (endMs : Nat) (w : Window) : Nat :=
  match w.initialDeadline with
  | some initial => initial
  | none =>
    if w.spec.endInactivityMs = 0 then endMs
    else
      match w.lastActivity with
      | some last => max endMs (satAdd last w.spec.endInactivityMs)
      | none => satAdd endMs w.spec.endInactivityMs

/-- A new occurrence of the end, or a new inactivity period, may be warned of again. -/
def renewEnd (identity : EndOccurrence) (endMs : Nat) (w : Window) : Window :=
  let newOccurrence :=
    w.endWarningIdentity.all fun (occurrence, _) => decide (occurrence ≠ identity)
  let resetInactivity := w.endWarningIdentity.any (fun (_, last) => decide (last ≠ w.lastActivity))
    && w.spec.endInactivityMs != 0
    && w.lastActivity.any fun last => decide (endMs < satAdd last w.spec.endInactivityMs)
  { w with
    endWarned := if newOccurrence || resetInactivity then [] else w.endWarned
    endWarningIdentity := some (identity, w.lastActivity) }

/-- The part of `next_warning` about the window's end. -/
def endWarning (messageId : String) (route : RouteSpec) (civil : CivilTime) (second nowMs : Nat)
    (active : Bool) (w : Window) : Option ScheduleWarning × Window :=
  if w.spec.warningBeforeEndMs.isEmpty then (none, w)
  else
    match w.warnedEnd civil second nowMs with
    | none => (none, w)
    | some (identity, endMs) =>
      let deadlineMs := w.deadline endMs
      let w := w.renewEnd identity endMs
      let remainingMs := deadlineMs - nowMs
      if remainingMs = 0 then (none, w)
      else
        match w.spec.warningBeforeEndMs.find? fun lead =>
            decide (remainingMs ≤ lead) && !w.endWarned.contains lead with
        | none => (none, w)
        | some lead =>
          let w := { w with endWarned := w.endWarned ++ [lead] }
          (if active then none else some (warning messageId route false remainingMs deadlineMs), w)

/-- A new occurrence of the start may be warned of again. -/
def renewStart (occurrence : Nat) (w : Window) : Window :=
  if w.startOccurrence = some occurrence then w
  else { w with startOccurrence := some occurrence, startWarned := [] }

/-- `next_warning`: at most one idle-only warning, about the start first. -/
def nextWarning (route : RouteSpec) (civil : CivilTime) (second nowMs : Nat)
    (active capacity : Bool) (w : Window) : Option ScheduleWarning × Window :=
  match w.spec.warningMessageId with
  | none => (none, w)
  | some messageId =>
    if !capacity then (none, w)
    else if w.spec.warningBeforeStartMs.isEmpty then
      w.endWarning messageId route civil second nowMs active
    else
      match windowNextStart w.spec.window civil second with
      | none => (none, w)
      | some (occurrence, remainingMs) =>
        let w := w.renewStart occurrence
        match w.spec.warningBeforeStartMs.find? fun lead =>
            decide (remainingMs ≤ lead) && !w.startWarned.contains lead with
        | some lead =>
          let w := { w with startWarned := w.startWarned ++ [lead] }
          (if active then none
            else some (warning messageId route true remainingMs (satAdd nowMs remainingMs)), w)
        | none => w.endWarning messageId route civil second nowMs active

section

variable (w : Window)

omit [ScheduleProvider] in
@[simp] theorem hear_spec (observed : Option Nat) : (w.hear observed).spec = w.spec := by
  unfold hear
  split <;> rfl

omit [ScheduleProvider] in
@[simp] theorem rest_spec (nowMs : Nat) : (w.rest nowMs).spec = w.spec := by
  unfold rest
  split <;> rfl

section

variable (civil : CivilTime)

@[simp] theorem firstTick_spec (second nowMs : Nat) (active : Bool)
    : (w.firstTick civil second nowMs active).spec = w.spec := by
  unfold firstTick
  split
  · rfl
  dsimp only
  repeat' split
  all_goals rfl

@[simp] theorem cross_spec (second : Nat) (active : Bool) :
    (w.cross civil second active).spec = w.spec := by
  unfold cross
  split
  · rfl
  · split <;> rfl

/-- A window without its warnings. -/
def plain (w : Window) : Window :=
  { w with startOccurrence := none, startWarned := [], endWarningIdentity := none, endWarned := [] }

theorem endWarning_plain (messageId : String) (route : RouteSpec)
    (second nowMs : Nat) (active : Bool) :
    (w.endWarning messageId route civil second nowMs active).2.plain = w.plain := by
  unfold endWarning
  split
  · rfl
  split
  · rfl
  dsimp only
  split
  · rfl
  · split <;> rfl

theorem nextWarning_plain (route : RouteSpec) (second nowMs : Nat)
    (active capacity : Bool) :
    (w.nextWarning route civil second nowMs active capacity).2.plain = w.plain := by
  have hstart : ∀ occurrence, (w.renewStart occurrence).plain = w.plain := by
    intro occurrence
    unfold renewStart
    split <;> rfl
  unfold nextWarning
  split
  · rfl
  split
  · rfl
  split
  · exact endWarning_plain ..
  split
  · rfl
  dsimp only
  split
  · exact hstart _
  · exact (endWarning_plain ..).trans (hstart _)

end

end

end Provider

end Window

/-- What the caller of a tick captured: civil time, receive activity and warning capacity. -/
structure LinkTick where
  civil : CivilTime
  second : Nat
  nowMs : Nat
  activity : String → Option Nat
  sourceActive : String → Bool
  capacity : Bool

namespace Window

variable [ScheduleProvider] (tick : LinkTick)

/-- A tick for a window of `node`, but for its warnings. -/
def turn (node : Option String) (w : Window) : Window :=
  ((w.hear (node.bind tick.activity)).firstTick tick.civil tick.second tick.nowMs
    (windowMatches w.spec.window tick.civil) |>.cross tick.civil tick.second
      (windowMatches w.spec.window tick.civil)).rest tick.nowMs

/-- The window is active or deferred. -/
def inForce (w : Window) : Bool := windowMatches w.spec.window tick.civil || w.waiting

end Window

namespace LinkScheduler

/-- Set what is wanted of the routes at `indices`. -/
def setDesired (desired : Bool) (indices : List Nat) (routes : List Route) : List Route :=
  indices.foldl (fun routes index => routes.modify index fun r => { r with desired }) routes

/-- The start of a tick for one route. -/
def refreshRoute (owns : RouteSpec → Bool) (route : Route) : Route :=
  { route with desired := route.spec.permanent, issued := route.issued && owns route.spec }

variable [ScheduleProvider]

/-- One round of the window loop of a tick. -/
def tickWindow (tick : LinkTick) (w : Window) (routes : List Route)
    (due : Option ScheduleWarning) : Window × List Route × Option ScheduleWarning :=
  let owner := ((w.spec.routes.head?).bind (routes[·]?)).map (·.spec)
  let active := windowMatches w.spec.window tick.civil
  let w := w.hear (owner.bind fun route => tick.activity route.localNode)
  let w := w.firstTick tick.civil tick.second tick.nowMs active
  let w := (w.cross tick.civil tick.second active).rest tick.nowMs
  let routes := if active || w.waiting then
      setDesired false w.spec.replaced (setDesired true w.spec.routes routes)
    else routes
  match due, owner with
  | none, some route =>
    let (due, w) := w.nextWarning route tick.civil tick.second tick.nowMs
      (tick.sourceActive route.localNode) tick.capacity
    (w, routes, due)
  | _, _ => (w, routes, due)

/-- The window loop of a tick. -/
def tickWindows (tick : LinkTick) : List Window → List Route → Option ScheduleWarning →
      List Window × List Route × Option ScheduleWarning
  | [], routes, due => ([], routes, due)
  | w :: windows, routes, due =>
    let (w, routes, due) := tickWindow tick w routes due
    let (windows, routes, due) := tickWindows tick windows routes due
    (w :: windows, routes, due)

/-- `tick_with_warnings`: evaluate one captured instant. -/
def tickWithWarnings (tick : LinkTick) (owns : RouteSpec → Bool) (s : LinkScheduler) :
    Option ScheduleWarning × LinkScheduler :=
  let (windows, routes, due) := tickWindows tick s.windows (s.routes.map (refreshRoute owns)) none
  (due, { s with windows, routes })

omit [ScheduleProvider] in
theorem setDesired_getElem? (desired : Bool) (indices : List Nat) (routes : List Route) (i : Nat) :
    (setDesired desired indices routes)[i]?
      = routes[i]?.map fun r => if i ∈ indices then { r with desired } else r := by
  induction indices generalizing routes with
  | nil => simp [setDesired]
  | cons index indices ih =>
    rw [setDesired, foldl_cons, ← setDesired, ih, getElem?_modify]
    cases routes[i]? with
    | none => rfl
    | some route =>
      by_cases h : index = i
      · simp [h]
      · simp [h, Ne.symm h]

/-- What a window that is open or in its grace period does to the routes. -/
def request (routes : List Route) (spec : ReplacementSpec) : List Route :=
  setDesired false spec.replaced (setDesired true spec.routes routes)

/-- Whether route `i` is wanted once the windows `specs` have made their requests. -/
def wanted (specs : List ReplacementSpec) (i : Nat) (desired : Bool) : Bool :=
  specs.foldl (fun desired spec =>
    if i ∈ spec.replaced then false else if i ∈ spec.routes then true else desired) desired

section

omit [ScheduleProvider]

theorem requests_getElem? (specs : List ReplacementSpec) (routes : List Route) (i : Nat) :
    (specs.foldl request routes)[i]?
      = routes[i]?.map fun r => { r with desired := wanted specs i r.desired } := by
  induction specs generalizing routes with
  | nil => simp [wanted]
  | cons spec specs ih =>
    rw [foldl_cons, ih, request, setDesired_getElem?, setDesired_getElem?, Option.map_map,
      Option.map_map]
    congr 1
    funext r
    simp only [Function.comp, wanted, foldl_cons]
    split <;> split <;> rfl

theorem request_specs (routes : List Route) (spec : ReplacementSpec) :
    (request routes spec).map (·.spec) = routes.map (·.spec) := by
  refine ext_getElem? fun i => ?_
  rw [getElem?_map, getElem?_map]
  exact (congrArg (Option.map _) (requests_getElem? [spec] routes i)).trans (Option.map_map ..)

variable {specs : List ReplacementSpec} {i : Nat} {desired : Bool}

/-- A route that no window requests is wanted as before, unless one of them replaces it. -/
theorem wanted_replaced (hrequested : ∀ spec ∈ specs, i ∉ spec.routes) :
    wanted specs i desired = true ↔ desired = true ∧ ∀ spec ∈ specs, i ∉ spec.replaced := by
  induction specs generalizing desired with
  | nil => simp [wanted]
  | cons spec specs ih =>
    obtain ⟨hspec, hspecs⟩ := forall_mem_cons.mp hrequested
    rw [wanted, foldl_cons, ← wanted, ih hspecs, if_neg hspec, forall_mem_cons]
    by_cases hi : i ∈ spec.replaced <;> simp [hi]

/-- A route that no window replaces is wanted as before, or because one of them requests it. -/
theorem wanted_requested (hreplaced : ∀ spec ∈ specs, i ∉ spec.replaced) :
    wanted specs i desired = true ↔ desired = true ∨ ∃ spec ∈ specs, i ∈ spec.routes := by
  induction specs generalizing desired with
  | nil => simp [wanted]
  | cons spec specs ih =>
    obtain ⟨hspec, hspecs⟩ := forall_mem_cons.mp hreplaced
    rw [wanted, foldl_cons, ← wanted, ih hspecs, if_neg hspec]
    by_cases hi : i ∈ spec.routes <;> simp [hi]

end

variable (tick : LinkTick) (token : LinkReservation) (localNode : String) (accepted : Bool)
  (owns : RouteSpec → Bool) (s : LinkScheduler)

/-- One round of the window loop: a window in force makes its requests. -/
theorem tickWindow_eq (w : Window) (routes : List Route) (due : Option ScheduleWarning) :
    (tickWindow tick w routes due).1.plain
        = (w.turn tick (windowLocal (routes.map (·.spec)) w.spec)).plain
      ∧ (tickWindow tick w routes due).2.1
        = if (tickWindow tick w routes due).1.inForce tick then request routes w.spec
          else routes := by
  have howner : (((w.spec.routes.head?).bind (routes[·]?)).map (·.spec)).bind
      (fun route => tick.activity route.localNode)
        = (windowLocal (routes.map (·.spec)) w.spec).bind tick.activity := by
    unfold windowLocal
    cases w.spec.routes.head? with
    | none => rfl
    | some index => simp [bind_map, Function.comp_def]
  generalize hnode : windowLocal (routes.map (·.spec)) w.spec = node at howner
  have hspec : (w.turn tick node).spec = w.spec := by simp [Window.turn]
  obtain ⟨v, warned, hout, hv⟩ : ∃ v warned, tickWindow tick w routes due
      = (v, if windowMatches w.spec.window tick.civil || (w.turn tick node).waiting then
          request routes (w.turn tick node).spec else routes, warned)
        ∧ v.plain = (w.turn tick node).plain := by
    unfold tickWindow
    simp only [howner]
    split
    · exact ⟨_, _, rfl, Window.nextWarning_plain ..⟩
    · exact ⟨_, _, rfl, rfl⟩
  rw [hout, hspec]
  refine ⟨hv, ?_⟩
  change _ = if v.plain.inForce tick = true then _ else _
  rw [hv, Window.inForce, show (w.turn tick node).plain.spec = w.spec from hspec]
  rfl

/-- The window loop: each window takes its turn, and those that are then in force make their
requests, in their order. -/
theorem tickWindows_eq (windows : List Window) (routes : List Route)
    (due : Option ScheduleWarning) :
    (tickWindows tick windows routes due).1.map (·.plain)
        = windows.map (fun w => (w.turn tick (windowLocal (routes.map (·.spec)) w.spec)).plain)
    ∧ (tickWindows tick windows routes due).2.1
      = (((tickWindows tick windows routes due).1.filter (·.inForce tick)).map (·.spec)).foldl
        request routes := by
  induction windows generalizing routes due with
  | nil => exact ⟨rfl, rfl⟩
  | cons w windows ih =>
    obtain ⟨hcore, hroutes⟩ := tickWindow_eq tick w routes due
    obtain ⟨hturns, hrequests⟩ :=
      ih (tickWindow tick w routes due).2.1 (tickWindow tick w routes due).2.2
    have hspecs : (tickWindow tick w routes due).2.1.map (·.spec) = routes.map (·.spec) := by
      rw [hroutes]
      split
      · exact request_specs routes w.spec
      · rfl
    have hspec : (tickWindow tick w routes due).1.spec = w.spec :=
      (congrArg Window.spec hcore).trans (by simp [Window.plain, Window.turn])
    rw [hspecs] at hturns
    refine ⟨congrArg₂ List.cons hcore hturns, hrequests.trans ?_⟩
    simp only [tickWindows, filter_cons]
    split
    · rename_i hforce
      rw [map_cons, foldl_cons, hspec, hroutes, if_pos hforce]
    · rename_i hforce
      rw [hroutes, if_neg hforce]

/-- What a tick in which the windows `specs` make their requests does to route `i`. -/
def tickRoute (owns : RouteSpec → Bool) (specs : List ReplacementSpec) (i : Nat) (r : Route) :
    Route :=
  { r with issued := r.issued && owns r.spec, desired := wanted specs i r.spec.permanent }

/-- What the windows that are in force ask for. -/
def inForce (s : LinkScheduler) : List ReplacementSpec :=
  (s.windows.filter (·.inForce tick)).map (·.spec)

/-- **A tick withdraws `issued` exactly where the hub no longer owns the route**, sets what is
wanted of each route from its kind and the requests of the windows, and changes nothing else. -/
theorem tickWithWarnings_routes (i : Nat) : (s.tickWithWarnings tick owns).2.routes[i]?
      = s.routes[i]?.map (tickRoute owns ((s.tickWithWarnings tick owns).2.inForce tick) i) := by
  have hroutes := (tickWindows_eq tick s.windows (s.routes.map (refreshRoute owns)) none).2
  refine (congrArg (·[i]?) hroutes).trans ?_
  rw [requests_getElem?, getElem?_map, Option.map_map]
  rfl

theorem tickWithWarnings_turns : (s.tickWithWarnings tick owns).2.windows.map (·.plain)
      = s.windows.map fun w => (w.turn tick (windowLocal s.routeSpecs w.spec)).plain := by
  have hturns := (tickWindows_eq tick s.windows (s.routes.map (refreshRoute owns)) none).1
  rwa [List.map_map] at hturns

/-- What the windows ask for that are in force once they have taken their turn at a tick. -/
def forced (s : LinkScheduler) : List ReplacementSpec :=
  (s.windows.filter fun w =>
    (w.turn tick (windowLocal s.routeSpecs w.spec)).inForce tick).map (·.spec)

theorem inForce_tick : (s.tickWithWarnings tick owns).2.inForce tick = s.forced tick := by
  have hturns := congrArg (fun l => (l.filter (·.inForce tick)).map (·.spec))
    (tickWithWarnings_turns tick owns s)
  simp only [List.filter_map, List.map_map] at hturns
  refine Eq.trans hturns (map_congr_left fun w _ => ?_)
  simp [Window.plain, Window.turn]

theorem tickWithWarnings_windows :
    (s.tickWithWarnings tick owns).2.windows.map (·.spec) = s.windows.map (·.spec) := by
  have hspecs := congrArg (List.map Window.spec) (tickWithWarnings_turns tick owns s)
  simpa [Function.comp_def, Window.plain, Window.turn] using hspecs

omit [ScheduleProvider]

/-! ## Reservations and operator holds -/

def requiresCivilTime (s : LinkScheduler) : Bool := !s.windows.isEmpty

/-- `removed_routes`: issued old routes absent in a candidate. -/
def removedRoutes (s candidate : LinkScheduler) : List RouteSpec :=
  (s.routes.filter fun old =>
    old.issued && !candidate.routes.any fun new => sameRouteIdentity new.spec old.spec).map (·.spec)

/-- A withdrawal must settle before any new attachment. -/
def withdrawalPending (s : LinkScheduler) : Bool :=
  s.routes.any fun route => !route.paused && route.issued && !route.desired

/-- Whether an operation is due for a route. -/
def operable (withdrawing : Bool) (route : Route) : Bool :=
  !route.paused && route.pending.isNone
    && if withdrawing then route.issued && !route.desired else !route.issued && route.desired

/-- `next_operation`: reserve withdrawals first. -/
def nextOperation (s : LinkScheduler) : Option LinkReservation × LinkScheduler :=
  match s.routes.findIdx? (operable s.withdrawalPending) with
  | none => (none, s)
  | some index =>
    if u64Max ≤ s.nonce then (none, s)
    else
      match s.routes[index]? with
      | none => (none, s)
      | some route =>
        let nonce := s.nonce + 1
        (some ⟨s.generation, index, nonce, route.spec,
            if s.withdrawalPending then .detach else .attach⟩,
          { s with nonce, routes := s.routes.set index { route with pending := some nonce } })

def reserved (reservation : LinkReservation) (s : LinkScheduler) : Bool :=
  decide (reservation.generation = s.generation)
    && (s.routes[reservation.index]?).any fun route =>
      decide (route.pending = some reservation.nonce ∧ route.spec = reservation.spec)

/-- `current`: recheck before publishing an attachment. -/
def current (reservation : LinkReservation) (s : LinkScheduler) : Bool :=
  s.reserved reservation && (s.routes[reservation.index]?).any fun route =>
    route.desired == decide (reservation.action = .attach)

/-- `complete`: settle exactly one reservation. -/
def complete (reservation : LinkReservation) (accepted : Bool) (s : LinkScheduler) :
    Bool × LinkScheduler :=
  if !s.reserved reservation then (false, s)
  else
    let current := s.current reservation
    (current, { s with routes := s.routes.modify reservation.index fun route =>
      { route with
        pending := none
        issued := if current && accepted then decide (reservation.action = .attach)
          else route.issued } })

/-- `pause`: an operator disconnect-all holds the configured routes of a node. -/
def pause (localNode : String) (s : LinkScheduler) : LinkScheduler :=
  { s with routes := s.routes.map fun route =>
    if route.spec.localNode == localNode then { route with paused := true, pending := none }
    else route }

def resume (localNode : String) (s : LinkScheduler) : LinkScheduler :=
  { s with routes := s.routes.map fun route =>
    if route.spec.localNode == localNode then { route with paused := false } else route }

/-- `withdraw_undesired`: withdraw obsolete retained intent; the remotes are returned. -/
def withdrawUndesired (s : LinkScheduler) : List String × LinkScheduler :=
  let obsolete (route : Route) : Bool := !route.desired && route.issued
  ((s.routes.filter obsolete).map (·.spec.remote),
    { s with routes := s.routes.map fun route =>
      if obsolete route then { route with issued := false, pending := none } else route })

/-- What settling `token` does to its own route. -/
def settleRoute (token : LinkReservation) (taken : Bool) (route : Route) : Route :=
  { route with
    pending := none
    issued := if taken then decide (token.action = .attach) else route.issued }

theorem nextOperation_none {s s' : LinkScheduler} (h : s.nextOperation = (none, s')) : s' = s := by
  unfold nextOperation at h
  repeat' split at h
  all_goals cases h
  all_goals rfl

/-- A reservation is numbered afresh and made on a route that an operation is due for: a withdrawal
as long as one is due, otherwise an attachment. -/
theorem nextOperation_some {s s' : LinkScheduler} {token : LinkReservation}
    (h : s.nextOperation = (some token, s')) :
    ∃ route, s.routes[token.index]? = some route ∧ operable s.withdrawalPending route = true
      ∧ token = ⟨s.generation, token.index, s.nonce + 1, route.spec,
        if s.withdrawalPending then .detach else .attach⟩
      ∧ s' = { s with
        nonce := s.nonce + 1
        routes := s.routes.set token.index { route with pending := some (s.nonce + 1) } } := by
  unfold nextOperation at h
  split at h
  · cases h
  rename_i index hindex
  split at h
  · cases h
  split at h
  · cases h
  rename_i route hroute
  obtain ⟨hlt, hoperable, -⟩ := findIdx?_eq_some_iff_getElem.mp hindex
  rw [getElem?_eq_getElem hlt] at hroute
  cases hroute
  cases h
  exact ⟨_, getElem?_eq_getElem hlt, hoperable, rfl, rfl⟩

theorem reserved_iff {s : LinkScheduler} {token : LinkReservation} :
    s.reserved token = true ↔ token.generation = s.generation
      ∧ ∃ route, s.routes[token.index]? = some route ∧ route.pending = some token.nonce
        ∧ route.spec = token.spec := by
  unfold reserved
  rw [Bool.and_eq_true, decide_eq_true_iff, Option.any_eq_true]
  simp only [decide_eq_true_eq]

theorem current_iff {s : LinkScheduler} {token : LinkReservation} :
    s.current token = true ↔ s.reserved token = true ∧ ∃ route, s.routes[token.index]? = some route
        ∧ route.desired = decide (token.action = .attach) := by
  unfold current
  rw [Bool.and_eq_true, Option.any_eq_true]
  simp only [beq_iff_eq]

theorem complete_getElem? (i : Nat) :
    (s.complete token accepted).2.routes[i]? = s.routes[i]?.map fun route =>
      if s.reserved token = true ∧ token.index = i then
        settleRoute token (s.current token && accepted) route
      else route := by
  unfold complete
  cases s.reserved token with
  | false => simp
  | true =>
    simp only [Bool.not_true, Bool.false_eq_true, if_false, true_and]
    rw [getElem?_modify]
    cases s.routes[i]? with
    | none => rfl
    | some route => by_cases h : token.index = i <;> simp [h, settleRoute]

theorem withdrawalPending_iff {s : LinkScheduler} :
    s.withdrawalPending = true ↔ ∃ (i : Nat) (route : Route), s.routes[i]? = some route
      ∧ route.paused = false ∧ route.issued = true ∧ route.desired = false := by
  unfold withdrawalPending
  rw [List.any_eq_true]
  constructor
  · rintro ⟨route, hmem, h⟩
    obtain ⟨i, hi⟩ := mem_iff_getElem?.mp hmem
    simp only [Bool.and_eq_true, Bool.not_eq_true'] at h
    exact ⟨i, route, hi, h.1.1, h.1.2, h.2⟩
  · rintro ⟨i, route, hi, hp, his, hd⟩
    exact ⟨route, mem_of_getElem? hi, by simp [hp, his, hd]⟩

/-! ## What an operation does to the routes -/

/-- The specifications of the windows. -/
def windowSpecs (s : LinkScheduler) : List ReplacementSpec := s.windows.map (·.spec)

/-- The routes of `s'` are those of `s` edited by `f`; generation and specifications stay. -/
structure Edits (f : Nat → Route → Route) (s s' : LinkScheduler) : Prop where
  generation : s'.generation = s.generation
  windows : s'.windowSpecs = s.windowSpecs
  routes : ∀ i : Nat, s'.routes[i]? = s.routes[i]?.map (f i)

variable {f : Nat → Route → Route} {s s' : LinkScheduler}

theorem Edits.old (h : Edits f s s') {i : Nat} {r' : Route} (hr : s'.routes[i]? = some r') :
    ∃ r, s.routes[i]? = some r ∧ r' = f i r := by
  rw [h.routes, map_eq_some_iff] at hr
  obtain ⟨r, hr, rfl⟩ := hr
  exact ⟨r, hr, rfl⟩

theorem Edits.specs (h : Edits f s s') (hspec : ∀ i r, (f i r).spec = r.spec) :
    s'.routeSpecs = s.routeSpecs := by
  refine ext_getElem? fun i => ?_
  unfold routeSpecs
  rw [getElem?_map, getElem?_map, h.routes, Option.map_map]
  congr 1
  exact funext fun r => hspec i r

variable (s)

theorem inForce_subset [ScheduleProvider] :
    (s.tickWithWarnings tick owns).2.inForce tick ⊆ s.windowSpecs := by
  rw [windowSpecs, ← tickWithWarnings_windows tick owns s]
  exact (filter_sublist.map _).subset

theorem edits_tick [ScheduleProvider] :
    Edits (tickRoute owns ((s.tickWithWarnings tick owns).2.inForce tick)) s
      (s.tickWithWarnings tick owns).2 :=
  ⟨rfl, tickWithWarnings_windows tick owns s, tickWithWarnings_routes tick owns s⟩

/-- The reservation of route `index`. -/
def reserveRoute (index nonce i : Nat) (route : Route) : Route :=
  if index = i then { route with pending := some nonce } else route

theorem edits_next {s} {token : LinkReservation} (h : s.nextOperation = (some token, s')) :
    Edits (reserveRoute token.index (s.nonce + 1)) s s' := by
  obtain ⟨route, hroute, -, -, rfl⟩ := nextOperation_some h
  refine ⟨rfl, rfl, fun i => ?_⟩
  rw [getElem?_set']
  by_cases hi : token.index = i
  · subst hi
    simp [hroute, reserveRoute]
  · have hsame : reserveRoute token.index (s.nonce + 1) i = id :=
      funext fun _ => if_neg hi
    rw [if_neg hi, hsame, Option.map_id, id]

/-- Completing `token` edits its own route, if it is still reserved. -/
def completeRoute (token : LinkReservation) (accepted : Bool) (s : LinkScheduler) (i : Nat)
    (route : Route) : Route :=
  if s.reserved token = true ∧ token.index = i then
    settleRoute token (s.current token && accepted) route
  else route

theorem edits_complete :
    Edits (completeRoute token accepted s) s (s.complete token accepted).2 := by
  refine ⟨?_, ?_, complete_getElem? token accepted s⟩ <;> unfold complete <;> split <;> rfl

/-- An operator's hold on the routes of a node. -/
def pauseRoute (localNode : String) (route : Route) : Route :=
  if route.spec.localNode == localNode then { route with paused := true, pending := none }
  else route

/-- The end of an operator's hold. -/
def resumeRoute (localNode : String) (route : Route) : Route :=
  if route.spec.localNode == localNode then { route with paused := false } else route

/-- The withdrawal of obsolete intent. -/
def withdrawRoute (route : Route) : Route :=
  if !route.desired && route.issued then { route with issued := false, pending := none } else route

theorem edits_pause : Edits (fun _ => pauseRoute localNode) s (s.pause localNode) :=
  ⟨rfl, rfl, fun _ => getElem?_map⟩

theorem edits_resume : Edits (fun _ => resumeRoute localNode) s (s.resume localNode) :=
  ⟨rfl, rfl, fun _ => getElem?_map⟩

theorem edits_withdrawUndesired : Edits (fun _ => withdrawRoute) s s.withdrawUndesired.2 :=
  ⟨rfl, rfl, fun _ => getElem?_map⟩

@[simp] theorem reserveRoute_frame (index nonce i : Nat) (r : Route) :
    (reserveRoute index nonce i r).spec = r.spec ∧ (reserveRoute index nonce i r).issued = r.issued
      ∧ (reserveRoute index nonce i r).desired = r.desired
      ∧ (reserveRoute index nonce i r).paused = r.paused := by
  unfold reserveRoute
  split <;> simp

@[simp] theorem completeRoute_frame
    (i : Nat) (r : Route) : (completeRoute token accepted s i r).spec = r.spec
      ∧ (completeRoute token accepted s i r).desired = r.desired
      ∧ (completeRoute token accepted s i r).paused = r.paused := by
  unfold completeRoute
  split <;> exact ⟨rfl, rfl, rfl⟩

@[simp] theorem pauseRoute_frame (r : Route) :
    (pauseRoute localNode r).spec = r.spec ∧ (pauseRoute localNode r).issued = r.issued
      ∧ (pauseRoute localNode r).desired = r.desired
      ∧ (pauseRoute localNode r).paused = (r.spec.localNode == localNode || r.paused) := by
  unfold pauseRoute
  split <;> simp_all

@[simp] theorem resumeRoute_frame (r : Route) :
    (resumeRoute localNode r).spec = r.spec ∧ (resumeRoute localNode r).issued = r.issued
      ∧ (resumeRoute localNode r).desired = r.desired
      ∧ (resumeRoute localNode r).pending = r.pending
      ∧ (resumeRoute localNode r).paused = (!(r.spec.localNode == localNode) && r.paused) := by
  unfold resumeRoute
  split <;> simp_all

@[simp] theorem withdrawRoute_frame (r : Route) : (withdrawRoute r).spec = r.spec
    ∧ (withdrawRoute r).desired = r.desired ∧ (withdrawRoute r).paused = r.paused := by
  unfold withdrawRoute
  split <;> simp

end LinkScheduler

end RptAdvanced.Runtime
