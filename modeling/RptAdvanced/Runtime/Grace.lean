import RptAdvanced.Runtime.Replacement

/-!
# Windows in force and their grace period (`rust/core/src/runtime/link_schedule.rs`)

A replacement window is in force while it is active, and afterwards, deferred, until its node has
been quiet. `Deferred` says for how long, from the ticks alone: it knows nothing of what the
scheduler keeps between them.

Results:
* `ticks_waiting`: outside its active time a window is deferred as `Deferred` says.
* `windows_union`: what is wanted after a tick, and which windows are deferred, in every run.
-/

namespace RptAdvanced.Runtime

open Lib Schedule List Option Bool
open ScheduleProvider

/-- The grace period of a window is over: the cold-start deadline has passed or, without one, the
node has been quiet for the inactivity time. -/
def Over (spec : ReplacementSpec) (cold activity : Option Nat) (nowMs : Nat) : Prop :=
  match cold with
  | some deadline => deadline ≤ nowMs
  | none => spec.endInactivityMs = 0 ∨ ∀ last ∈ activity, last + spec.endInactivityMs ≤ nowMs

/-- No tick finds the grace period over. Receive activity of `node` ends a cold start. -/
def Deferred (spec : ReplacementSpec) (node : Option String) :
    Option Nat → Option Nat → List LinkTick → Prop
  | _, _, [] => True
  | cold, last, tick :: ticks =>
    let activity := Option.merge max last (node.bind tick.activity)
    let cold := if activity = last then cold else none
    ¬ Over spec cold activity tick.nowMs ∧ Deferred spec node cold activity ticks

variable [ScheduleProvider]

namespace Window

/-- The grace period that a tick outside the window finds, with its cold-start deadline: that of an
end just passed, one that goes on, or one whose end was passed before the first tick. -/
def grace (tick : LinkTick) (node : Option String) (w : Window) : Option (Option Nat) :=
  if w.wasActive then some none
  else if w.waiting then some w.initialDeadline
  else if w.initialized || w.spec.endInactivityMs == 0 then none
  else (windowElapsedAfterEnd w.spec.window tick.civil tick.second).bind fun elapsed =>
    if (Option.merge max w.lastActivity (node.bind tick.activity)).isSome then some none
    else if elapsed < w.spec.endInactivityMs then
      some (some (satAdd tick.nowMs (w.spec.endInactivityMs - elapsed)))
    else none

/-- A window that was active or deferred has had its first tick. -/
structure Begun (w : Window) : Prop where
  initialized : w.wasActive = true ∨ w.waiting = true → w.initialized = true
  warm : w.wasActive = true ∨ w.initialized = false → w.initialDeadline = none

/-- `v` is `w` after a tick outside the window. -/
structure Outside (tick : LinkTick) (node : Option String) (w v : Window) : Prop where
  wasActive : v.wasActive = false
  initialized : v.initialized = true
  lastActivity : v.lastActivity = Option.merge max w.lastActivity (node.bind tick.activity)
  waiting : v.waiting = true ↔ ∃ cold, w.grace tick node = some cold
    ∧ ¬ Over w.spec
      (if v.lastActivity = w.lastActivity then cold else none) v.lastActivity tick.nowMs
  deadline : v.waiting = true → ∀ cold, w.grace tick node = some cold →
    v.initialDeadline = if v.lastActivity = w.lastActivity then cold else none

variable {w : Window} {tick : LinkTick} {node : Option String}

section

omit [ScheduleProvider]

theorem hear_eq (observed : Option Nat) (w : Window) : w.hear observed = { w with
      lastActivity := Option.merge max w.lastActivity observed
      initialDeadline := if Option.merge max w.lastActivity observed = w.lastActivity then
        w.initialDeadline else none } := by
  obtain ⟨spec, last, _, _, _, deadline, _, _, _, _⟩ := w
  cases last <;> cases observed <;> simp [hear, Option.merge]
  rename_i last observed
  by_cases h : last < observed
  · simp [h, Nat.max_eq_right h.le]
  · simp [h, Nat.max_eq_left (Nat.le_of_not_lt h)]

theorem quiet_iff {nowMs : Nat} :
    w.quiet nowMs = true ↔ Over w.spec w.initialDeadline w.lastActivity nowMs := by
  unfold quiet Over
  cases w.initialDeadline with
  | some deadline => simp
  | none =>
    cases w.lastActivity with
    | none => simp
    | some last =>
      simp
      omega

end

/-- A tick outside the window, up to the end of the grace period. -/
theorem cross_grace (tick : LinkTick) (node : Option String) (h : w.Begun) :
    let activity := Option.merge max w.lastActivity (node.bind tick.activity)
    let v := ((w.hear (node.bind tick.activity)).firstTick tick.civil tick.second tick.nowMs
      false).cross tick.civil tick.second false
    v.wasActive = false ∧ v.initialized = true ∧ v.lastActivity = activity
      ∧ v.waiting = (w.grace tick node).isSome
      ∧ ∀ cold, w.grace tick node = some cold →
        v.initialDeadline = if activity = w.lastActivity then cold else none := by
  have hwarm := h.warm
  have hbegun := h.initialized
  simp only [hear_eq]
  by_cases hactive : w.wasActive = true
  · simp [firstTick, cross, grace, hactive, hbegun, hwarm]
  by_cases hwaiting : w.waiting = true
  · simp [firstTick, cross, grace, hactive, hwaiting, hbegun]
  by_cases hinit : w.initialized = true
  · simp [firstTick, cross, grace, hactive, hwaiting, hinit]
  rw [not_eq_true] at hactive hwaiting hinit
  rw [hwarm (.inr hinit)]
  simp only [firstTick, cross, grace, hactive, hwaiting, hinit]
  have hnone : Option.merge max w.lastActivity (node.bind tick.activity) = none →
      w.lastActivity = none := by
    cases w.lastActivity <;> cases node.bind tick.activity <;> simp
  generalize Option.merge max w.lastActivity (node.bind tick.activity) = activity at hnone
  cases windowElapsedAfterEnd w.spec.window tick.civil tick.second with
  | none => by_cases hzero : w.spec.endInactivityMs = 0 <;> simp [hzero]
  | some elapsed =>
    by_cases hzero : w.spec.endInactivityMs = 0
    · simp [hzero]
    cases activity with
    | none => by_cases hlt : elapsed < w.spec.endInactivityMs <;> simp [hzero, hlt, hnone]
    | some last => simp [hzero]

theorem turn_outside (node : Option String) (h : w.Begun)
    (hout : windowMatches w.spec.window tick.civil = false) :
    w.Outside tick node (w.turn tick node) := by
  obtain ⟨hactive, hinit, hlast, hwaiting, hdeadline⟩ := cross_grace tick node h
  unfold turn
  rw [hout]
  generalize hv : ((w.hear _).firstTick _ _ _ false).cross _ _ false = v at *
  have hspec : v.spec = w.spec := by rw [← hv]; simp
  rw [← hlast] at hdeadline
  have hover : ∀ cold, w.grace tick node = some cold → (v.quiet tick.nowMs = true ↔
      Over w.spec (if v.lastActivity = w.lastActivity then cold else none) v.lastActivity
        tick.nowMs) := by
    intro cold hcold
    rw [quiet_iff, hspec, hdeadline cold hcold]
  unfold rest
  split
  · rename_i hend
    rw [and_eq_true] at hend
    refine ⟨hactive, hinit, hlast, ⟨nofun, fun ⟨cold, hcold, hnot⟩ => ?_⟩, nofun⟩
    exact absurd ((hover cold hcold).mp hend.2) hnot
  · rename_i hend
    refine ⟨hactive, hinit, hlast, ⟨fun hw => ?_, fun ⟨cold, hcold, _⟩ => ?_⟩, fun _ => hdeadline⟩
    · obtain ⟨cold, hcold⟩ := isSome_iff_exists.mp (hwaiting ▸ hw)
      exact ⟨cold, hcold, fun h => hend (by rw [hw, (hover cold hcold).mpr h]; rfl)⟩
    · rw [hwaiting, hcold]
      rfl

theorem firstTick_initialized (civil : CivilTime) (second nowMs : Nat) (active : Bool)
    (w : Window) : (w.firstTick civil second nowMs active).initialized = true := by
  unfold firstTick
  split
  · assumption
  dsimp only
  repeat' split
  all_goals rfl

theorem turn_begun (tick : LinkTick) (node : Option String) (h : w.Begun) :
    (w.turn tick node).Begun ∧
      (w.turn tick node).wasActive = windowMatches w.spec.window tick.civil := by
  cases hmatch : windowMatches w.spec.window tick.civil with
  | true =>
    unfold turn
    rw [hmatch]
    refine ⟨⟨fun _ => ?_, fun _ => ?_⟩, ?_⟩ <;> simp [cross, rest, firstTick_initialized]
  | false =>
    have hout := turn_outside node h hmatch
    exact ⟨⟨fun _ => hout.initialized, by simp [hout.wasActive, hout.initialized]⟩, hout.wasActive⟩

end Window

namespace LinkScheduler

open Window

variable {s : LinkScheduler} {j : Nat} {w w' : Window}

/-- What a tick does to the window at `j`. -/
theorem tick_window (tick : LinkTick) (owns : RouteSpec → Bool) (hw : s.windows[j]? = some w)
    (h : w.Begun) : ∃ v, (s.tickWithWarnings tick owns).2.windows[j]? = some v ∧ v.spec = w.spec
      ∧ v.Begun ∧ v.wasActive = windowMatches w.spec.window tick.civil
      ∧ (windowMatches w.spec.window tick.civil = false →
        w.Outside tick (windowLocal s.routeSpecs w.spec) v) := by
  have hturns := congrArg (·[j]?) (tickWithWarnings_turns tick owns s)
  simp only [getElem?_map, hw, map_some, Option.map_eq_some_iff] at hturns
  obtain ⟨v, hv, hplain⟩ := hturns
  obtain ⟨hbegun, hactive⟩ := turn_begun tick (windowLocal s.routeSpecs w.spec) h
  have hspec : v.plain.spec = w.spec := by rw [hplain]; simp [plain, turn]
  have hbegun' : v.plain.Begun := by rw [hplain]; exact ⟨hbegun.1, hbegun.2⟩
  refine ⟨v, hv, hspec, ⟨hbegun'.1, hbegun'.2⟩, ?_, fun hout => ?_⟩
  · exact (congrArg Window.wasActive hplain).trans hactive
  · have ho := turn_outside (windowLocal s.routeSpecs w.spec) h hout
    have ho' : w.Outside tick (windowLocal s.routeSpecs w.spec) v.plain := by
      rw [hplain]
      exact ⟨ho.1, ho.2, ho.3, ho.4, ho.5⟩
    exact ⟨ho'.1, ho'.2, ho'.3, ho'.4, ho'.5⟩

def ticks (s : LinkScheduler) (l : List (LinkTick × (RouteSpec → Bool))) : LinkScheduler :=
  l.foldl (fun s t => (s.tickWithWarnings t.1 t.2).2) s

variable {t : LinkTick × (RouteSpec → Bool)} {l : List (LinkTick × (RouteSpec → Bool))}

/-- **Outside its active time a window is deferred as long as no tick finds its grace period
over.** -/
theorem ticks_waiting (hw : s.windows[j]? = some w) (h : w.Begun)
    (hout : ∀ u ∈ t :: l, windowMatches w.spec.window u.1.civil = false)
    (hw' : (s.ticks (t :: l)).windows[j]? = some w') :
    w'.waiting = true ↔ ∃ cold, w.grace t.1 (windowLocal s.routeSpecs w.spec) = some cold
      ∧ Deferred w.spec (windowLocal s.routeSpecs w.spec) cold w.lastActivity
        ((t :: l).map (·.1)) := by
  induction l generalizing s w t with
  | nil =>
    obtain ⟨v, hv, -, -, -, ho⟩ := tick_window t.1 t.2 hw h
    cases hv.symm.trans hw'
    have ho := ho (hout t mem_cons_self)
    simp [Deferred, ho.waiting, ho.lastActivity]
  | cons u l ih =>
    obtain ⟨hmatch, hout⟩ := forall_mem_cons.mp hout
    obtain ⟨v, hv, hspec, hbegun, -, ho⟩ := tick_window t.1 t.2 hw h
    have ho := ho hmatch
    have hnode : (s.tickWithWarnings t.1 t.2).2.routeSpecs = s.routeSpecs :=
      (edits_tick t.1 t.2 s).specs fun _ _ => rfl
    -- the next tick finds the grace period that this one left
    have hgrace : v.grace u.1 (windowLocal s.routeSpecs w.spec)
        = if v.waiting then some v.initialDeadline else none := by
      simp [grace, ho.wasActive, ho.initialized]
    rw [ih hv hbegun (by rwa [hspec]) hw', hspec, hnode, hgrace, map_cons, map_cons]
    constructor
    · rintro ⟨_, hleft, hlater⟩
      obtain ⟨hwaiting, ⟨⟩⟩ := ite_none_right_eq_some.mp hleft
      obtain ⟨cold, hcold, hnot⟩ := ho.waiting.mp hwaiting
      rw [ho.deadline hwaiting cold hcold] at hlater
      refine ⟨cold, hcold, ?_⟩
      rw [Deferred, ← ho.lastActivity]
      exact ⟨hnot, hlater⟩
    · rintro ⟨cold, hcold, hdeferred⟩
      rw [Deferred, ← ho.lastActivity] at hdeferred
      have hwaiting := ho.waiting.mpr ⟨cold, hcold, hdeferred.1⟩
      refine ⟨_, if_pos hwaiting, ?_⟩
      rw [ho.deadline hwaiting cold hcold]
      exact hdeferred.2

/-! ## Runs -/

/-- The schedulers of a run of ticks and reloads. -/
inductive Running : LinkScheduler → Prop
  | start {generation : Nat} {routes : List RouteSpec} {windows : List ReplacementSpec}
      {s : LinkScheduler} (h : new generation routes windows none = .ok s) : Running s
  | reload {generation : Nat} {routes : List RouteSpec} {windows : List ReplacementSpec}
      {s s' : LinkScheduler} (hs : Running s)
      (h : new generation routes windows (some s) = .ok s') : Running s'
  | tick {s : LinkScheduler} (hs : Running s) (tick : LinkTick) (owns : RouteSpec → Bool) :
      Running (s.tickWithWarnings tick owns).2

theorem new_begun {generation : Nat} {routes : List RouteSpec} {windows : List ReplacementSpec}
    {previous : Option LinkScheduler} (hprevious : ∀ p ∈ previous, ∀ w ∈ p.windows, w.Begun)
    (h : new generation routes windows previous = .ok s) : ∀ w ∈ s.windows, w.Begun := by
  unfold new at h
  split at h
  · cases h
  split at h
  · cases h
  cases h
  intro w hw
  obtain ⟨spec, -, rfl⟩ := mem_map.mp hw
  unfold inheritWindow
  dsimp only
  split
  · rename_i old hold
    obtain ⟨p, hp, hfind⟩ := bind_eq_some_iff.mp hold
    have hbegun := hprevious p hp old (mem_of_find?_eq_some hfind)
    exact ⟨hbegun.1, hbegun.2⟩
  · exact ⟨by simp, fun _ => rfl⟩

theorem Running.sane (h : Running s) :
    Wellformed s.routeSpecs s.windowSpecs ∧ ∀ w ∈ s.windows, w.Begun := by
  induction h with
  | start h => exact ⟨(new_valid h).1, new_begun (by simp) h⟩
  | reload _ h ih => exact ⟨(new_valid h).1, new_begun (by simpa using ih.2) h⟩
  | @tick s _ tick owns ih =>
    refine ⟨?_, fun v hv => ?_⟩
    · rw [(edits_tick tick owns s).specs fun _ _ => rfl, (edits_tick tick owns s).windows]
      exact ih.1
    · obtain ⟨j, hj⟩ := mem_iff_getElem?.mp hv
      cases hw : s.windows[j]? with
      | none =>
        have hturns := congrArg (·[j]?) (tickWithWarnings_turns tick owns s)
        simp [hw, hj] at hturns
      | some w =>
        obtain ⟨v', hv', -, hbegun, -⟩ := tick_window tick owns hw (ih.2 w (mem_of_getElem? hw))
        cases hj.symm.trans hv'
        exact hbegun

/-- **Windows form a union with a grace period.** In every run of ticks and reloads: after a tick a
route is wanted exactly when a window that is active or deferred requests it, or it is permanent and
no such window replaces it; and after ticks outside its active time a window is deferred exactly
when the first of them found a grace period and none found it over. -/
theorem windows_union (h : Running s) :
    (∀ (tick : LinkTick) (owns : RouteSpec → Bool) (i : Nat) (r : Route),
      (s.tickWithWarnings tick owns).2.routes[i]? = some r → (r.desired = true ↔
        (∃ spec ∈ (s.tickWithWarnings tick owns).2.inForce tick, i ∈ spec.routes) ∨
          r.spec.permanent = true ∧
            ∀ spec ∈ (s.tickWithWarnings tick owns).2.inForce tick, i ∉ spec.replaced)) ∧
    ∀ (j : Nat) (w : Window), s.windows[j]? = some w →
      (∀ tick owns, ∃ v, (s.tickWithWarnings tick owns).2.windows[j]? = some v ∧
        v.wasActive = windowMatches w.spec.window tick.civil) ∧
      ∀ (t : LinkTick × (RouteSpec → Bool)) (l : List (LinkTick × (RouteSpec → Bool)))
        (w' : Window), (∀ u ∈ t :: l, windowMatches w.spec.window u.1.civil = false) →
        (s.ticks (t :: l)).windows[j]? = some w' → (w'.waiting = true ↔
          ∃ cold, w.grace t.1 (windowLocal s.routeSpecs w.spec) = some cold ∧
            Deferred w.spec (windowLocal s.routeSpecs w.spec) cold w.lastActivity
              ((t :: l).map (·.1))) := by
  obtain ⟨hwellformed, hbegun⟩ := h.sane
  refine ⟨fun tick owns i r hr => tick_desired hwellformed tick owns hr, fun j w hw => ⟨?_, ?_⟩⟩
  · intro tick owns
    obtain ⟨v, hv, -, -, hactive, -⟩ := tick_window tick owns hw (hbegun w (mem_of_getElem? hw))
    exact ⟨v, hv, hactive⟩
  · intro t l w' hout hw'
    exact ticks_waiting hw (hbegun w (mem_of_getElem? hw)) hout hw'

open RouteDesk

omit [ScheduleProvider]

theorem windows_union_evening :
    ∃ (_ : ScheduleProvider) (s : LinkScheduler), Running s ∧ s.windowSpecs = [netWindow] ∧
      ∀ (j : Nat) (w : Window), s.windows[j]? = some w → ∀ tick owns, ∃ v,
        (s.tickWithWarnings tick owns).2.windows[j]? = some v ∧
          v.wasActive = windowMatches w.spec.window tick.civil := by
  obtain ⟨d, hd, hspecs⟩ := (Option.any_eq_true ..).mp (show netDesk.any
    (fun d => d.scheduler.windowSpecs == [netWindow]) = true by decide +kernel)
  obtain ⟨s, hs, rfl⟩ := Option.map_eq_some_iff.mp hd
  have hrunning : @Running evening s := @Running.start evening _ _ _ _ (ok_of_toOption hs)
  exact ⟨evening, s, hrunning, eq_of_beq hspecs,
    fun j w hw => ((@windows_union evening s hrunning).2 j w hw).1⟩

end LinkScheduler

end RptAdvanced.Runtime
