import RptAdvanced.Lib.Run
import RptAdvanced.Runtime.LinkSchedule

/-!
# Replacement windows (`rust/core/src/runtime/link_schedule.rs`)

While a replacement window is open its routes take the place of the routes it replaces. A scheduler
is run here by ticks, reservations and their completion, in any order and with any reservation ever
issued, and by operators (`RouteMove`). As long as the hub owns what is issued, a route is issued
and withdrawn by completions and by `withdraw_undesired` only.

`complete` asks whether the route itself is still wanted. It does not ask again whether a withdrawal
is due, which `next_operation` did when the attachment was reserved. An attachment that is dialled
while a window opens and closes may therefore be accepted before the window's routes are withdrawn
(`late_attachment`).

Results:
* `stale_completion`: in every run, completing a reservation of another generation, or one that is
  settled or was invalidated by a pause, changes no route.
* `replacement_exclusion`: in a run in which no attachment is reserved when a withdrawal becomes
  due, no attachment is accepted while a withdrawal is due, and no window has a replaced and a
  replacement route issued.
-/

namespace RptAdvanced.Runtime

open Lib List Schedule Option
open ScheduleProvider

/-- A scheduler with the reservations it has issued and those that are void: settled, or invalidated
by a pause. -/
structure RouteDesk where
  scheduler : LinkScheduler
  tokens : List LinkReservation := []
  void : List LinkReservation := []

/-- One operation on a scheduler. -/
inductive RouteMove
  | tick (tick : LinkTick) (owns : RouteSpec → Bool)
  | next
  | complete (token : LinkReservation) (accepted : Bool)
  | pause (localNode : String)
  | resume (localNode : String)
  | withdrawUndesired

/-! ## What validation says about the windows -/

/-- Replacement routes are temporary, replaced routes permanent, and both belong to one node. -/
structure Wellformed (routes : List RouteSpec) (windows : List ReplacementSpec) : Prop where
  requested : ∀ w ∈ windows, ∀ q ∈ w.routes, ∃ r, routes[q]? = some r ∧ r.permanent = false
  replaced : ∀ w ∈ windows, ∀ p ∈ w.replaced, ∃ r, routes[p]? = some r ∧ r.permanent = true
  sameNode : ∀ w ∈ windows, ∀ p ∈ w.replaced, ∀ q ∈ w.routes,
    (routes[p]?).map (·.localNode) = (routes[q]?).map (·.localNode)

/-- Windows that request a common route replace the same routes. -/
def Agree (windows : List ReplacementSpec) : Prop :=
  ∀ w ∈ windows, ∀ w' ∈ windows, ∀ q ∈ w.routes, q ∈ w'.routes → w.replaced ⊆ w'.replaced

variable {routes : List RouteSpec}

theorem groupValid_member {first : RouteSpec} {members : List Nat}
    (h : groupValid routes first members = true) {q : Nat} (hq : q ∈ members) :
    ∃ r, routes[q]? = some r ∧ r.permanent = false ∧ r.localNode = first.localNode := by
  unfold groupValid at h
  rw [Bool.and_eq_true, List.all_eq_true] at h
  obtain ⟨priority, hpriority⟩ := mem_iff_getElem?.mp hq
  have hmem : (q, priority) ∈ members.zipIdx :=
    mem_zipIdx_iff_getElem?.mpr hpriority
  obtain ⟨r, hr, hfacts⟩ := (Option.any_eq_true _ _).mp (h.2 _ hmem)
  simp only [Bool.and_eq_true, Bool.not_eq_true', beq_iff_eq] at hfacts
  exact ⟨r, hr, hfacts.1.1.1.1, hfacts.1.1.1.2⟩

/-- What `new` checks of one window: its first route, the routes it requests and those it
replaces. -/
theorem windowValid_routes {w : ReplacementSpec} (h : windowValid routes w = true) :
    ∃ first : RouteSpec, (∀ q ∈ w.routes, ∃ r, routes[q]? = some r ∧ r.permanent = false
        ∧ r.localNode = first.localNode)
      ∧ ∀ p ∈ w.replaced, ∃ r, routes[p]? = some r ∧ r.permanent = true
        ∧ first.localNode = r.localNode := by
  unfold windowValid at h
  simp only [Bool.and_eq_true] at h
  obtain ⟨first, hfirst, hfacts⟩ := (Option.any_eq_true _ _).mp h.1.2
  obtain ⟨head, hhead, hroute⟩ := bind_eq_some_iff.mp hfirst
  simp only [Bool.and_eq_true, Bool.not_eq_true', Bool.or_eq_true, decide_eq_true_eq] at hfacts
  obtain ⟨⟨hpermanent, hreplaced⟩, hgroup⟩ := hfacts
  refine ⟨first, fun q hq => ?_, fun p hp => ?_⟩
  · rcases hgroup with hone | hgroup
    · -- the window requests its first route only
      cases hroutes : w.routes with
      | nil => rw [hroutes] at hq; cases hq
      | cons a rest =>
        rw [hroutes] at hq hhead hone
        cases hhead
        have hrest : rest = [] := eq_nil_of_length_eq_zero (by simpa using hone)
        rw [hrest, mem_singleton] at hq
        exact ⟨first, hq ▸ hroute, hpermanent, rfl⟩
    · exact groupValid_member hgroup hq
  · obtain ⟨r, hr, hfacts⟩ := (Option.any_eq_true _ _).mp (List.all_eq_true.mp hreplaced p hp)
    rw [Bool.and_eq_true, beq_iff_eq] at hfacts
    exact ⟨r, hr, hfacts⟩

theorem windowsValid_wellformed {windows : List ReplacementSpec}
    (h : windows.all (windowValid routes) = true) : Wellformed routes windows where
  requested w hw q hq := by
    obtain ⟨_, hroutes, -⟩ := windowValid_routes (List.all_eq_true.mp h w hw)
    obtain ⟨r, hr, hp, -⟩ := hroutes q hq
    exact ⟨r, hr, hp⟩
  replaced w hw p hp := by
    obtain ⟨_, -, hreplaced⟩ := windowValid_routes (List.all_eq_true.mp h w hw)
    obtain ⟨r, hr, hperm, -⟩ := hreplaced p hp
    exact ⟨r, hr, hperm⟩
  sameNode w hw p hp q hq := by
    obtain ⟨first, hroutes, hreplaced⟩ := windowValid_routes (List.all_eq_true.mp h w hw)
    obtain ⟨r, hr, -, hlocal⟩ := hroutes q hq
    obtain ⟨r', hr', -, hlocal'⟩ := hreplaced p hp
    rw [hr, hr', map_some, map_some, hlocal, hlocal']

namespace LinkScheduler

variable [ScheduleProvider] {s : LinkScheduler}

/-- A scheduler made by `new` is validated, has no reservation, and wants its permanent routes. -/
theorem new_valid {generation : Nat} {routes : List RouteSpec} {windows : List ReplacementSpec}
    {previous : Option LinkScheduler} (h : new generation routes windows previous = .ok s) :
    Wellformed s.routeSpecs s.windowSpecs ∧ (∀ r ∈ s.routes, r.pending = none)
      ∧ ∀ r ∈ s.routes, r.desired = r.spec.permanent := by
  unfold new at h
  split at h
  · cases h
  rename_i canonical _
  split at h
  · cases h
  rename_i hvalid
  cases h
  simp only [Bool.or_eq_true, not_or, Bool.not_eq_true', Bool.not_eq_false] at hvalid
  have hroutes : (canonical.map (inheritRoute previous)).map (·.spec) = canonical := by
    rw [List.map_map]
    exact map_id'' (fun _ => rfl) _
  have hwindows : (windows.map (inheritWindow previous canonical)).map (·.spec) = windows := by
    rw [List.map_map]
    exact map_id'' (fun w => by simp only [Function.comp_apply, inheritWindow]; split <;> rfl) _
  refine ⟨?_, fun r hr => ?_, fun r hr => ?_⟩
  · unfold routeSpecs windowSpecs
    rw [hroutes, hwindows]
    exact windowsValid_wellformed hvalid.2
  · obtain ⟨spec, -, rfl⟩ := mem_map.mp hr
    rfl
  · obtain ⟨spec, -, rfl⟩ := mem_map.mp hr
    rfl

section

variable {s : LinkScheduler} {i : Nat} {r : Route} {w : ReplacementSpec}

omit [ScheduleProvider]

theorem routeSpecs_of (hr : s.routes[i]? = some r) : s.routeSpecs[i]? = some r.spec := by
  rw [routeSpecs, getElem?_map, hr, map_some]

variable (h : Wellformed s.routeSpecs s.windowSpecs) (hw : w ∈ s.windowSpecs)
include h hw

theorem temporary_of_mem (hi : i ∈ w.routes) (hr : s.routes[i]? = some r) :
    r.spec.permanent = false := by
  obtain ⟨_, hs, htemporary⟩ := h.requested w hw i hi
  cases (routeSpecs_of hr).symm.trans hs
  exact htemporary

theorem permanent_of_mem (hi : i ∈ w.replaced) (hr : s.routes[i]? = some r) :
    r.spec.permanent = true := by
  obtain ⟨_, hs, hperm⟩ := h.replaced w hw i hi
  cases (routeSpecs_of hr).symm.trans hs
  exact hperm

end

/-- **After a tick a route is wanted exactly when a window in force requests it, or it is permanent
and none replaces it**, in whatever order the windows stand. -/
theorem tick_desired (h : Wellformed s.routeSpecs s.windowSpecs)
    (tick : LinkTick) (owns : RouteSpec → Bool) {i : Nat} {r : Route}
    (hr : (s.tickWithWarnings tick owns).2.routes[i]? = some r) : r.desired = true ↔
      (∃ spec ∈ (s.tickWithWarnings tick owns).2.inForce tick, i ∈ spec.routes)
        ∨ r.spec.permanent = true
          ∧ ∀ spec ∈ (s.tickWithWarnings tick owns).2.inForce tick, i ∉ spec.replaced := by
  have hspecs := inForce_subset tick owns s
  obtain ⟨r₀, hr₀, rfl⟩ := (edits_tick tick owns s).old hr
  change wanted _ i r₀.spec.permanent = true ↔ _ ∨ r₀.spec.permanent = true ∧ _
  cases hkind : r₀.spec.permanent with
  | true =>
    have hrequested : ∀ spec ∈ (s.tickWithWarnings tick owns).2.inForce tick, i ∉ spec.routes := by
      intro spec hmem hi
      cases hkind.symm.trans (temporary_of_mem h (hspecs hmem) hi hr₀)
    rw [wanted_replaced hrequested]
    exact ⟨.inr, fun hor => hor.resolve_left fun ⟨spec, hmem, hi⟩ => hrequested spec hmem hi⟩
  | false =>
    have hreplaced : ∀ spec ∈ (s.tickWithWarnings tick owns).2.inForce tick, i ∉ spec.replaced := by
      intro spec hmem hi
      cases hkind.symm.trans (permanent_of_mem h (hspecs hmem) hi hr₀)
    rw [wanted_requested hreplaced]
    simp

/-- A tick wants route `i`: a window that is then in force requests it, or it is permanent and none
replaces it. -/
def Wants (tick : LinkTick) (s : LinkScheduler) (i : Nat) (r : Route) : Prop :=
  (∃ spec ∈ s.forced tick, i ∈ spec.routes)
    ∨ r.spec.permanent = true ∧ ∀ spec ∈ s.forced tick, i ∉ spec.replaced

instance (tick : LinkTick) (i : Nat) (r : Route) : Decidable (s.Wants tick i r) :=
  inferInstanceAs (Decidable (_ ∨ _))

theorem tickRoute_desired (h : Wellformed s.routeSpecs s.windowSpecs) (tick : LinkTick)
    (owns : RouteSpec → Bool) {i : Nat} {r : Route} (hr : s.routes[i]? = some r) :
    (tickRoute owns ((s.tickWithWarnings tick owns).2.inForce tick) i r).desired = true
      ↔ s.Wants tick i r := by
  have hafter := (edits_tick tick owns s).routes i
  rw [hr, map_some] at hafter
  have hdesired := tick_desired h tick owns hafter
  rwa [inForce_tick] at hdesired ⊢

end LinkScheduler

/-! ## Runs of a scheduler -/

namespace RouteDesk

open LinkScheduler

def Initial [ScheduleProvider] (d : RouteDesk) : Prop :=
  (∃ generation routes windows previous,
    LinkScheduler.new generation routes windows previous = .ok d.scheduler)
    ∧ d.tokens = [] ∧ d.void = []

/-- One operation. The hub owns every issued route at a tick, and completed reservations are ones
that this scheduler or another generation issued. -/
def step [ScheduleProvider] (d : RouteDesk) : RouteMove → Option RouteDesk
  | .tick tick owns =>
    if d.scheduler.routes.all fun r => !r.issued || owns r.spec then
      some { d with scheduler := (d.scheduler.tickWithWarnings tick owns).2 }
    else none
  | .next =>
    match d.scheduler.nextOperation with
    | (none, scheduler) => some { d with scheduler }
    | (some token, scheduler) => some { d with scheduler, tokens := token :: d.tokens }
  | .complete token accepted =>
    if token ∈ d.tokens ∨ token.generation ≠ d.scheduler.generation then
      some { d with
        scheduler := (d.scheduler.complete token accepted).2
        void := token :: d.void }
    else none
  | .pause localNode => some { d with
      scheduler := d.scheduler.pause localNode
      void := d.tokens.filter (·.spec.localNode == localNode) ++ d.void }
  | .resume localNode => some { d with scheduler := d.scheduler.resume localNode }
  | .withdrawUndesired => some { d with scheduler := d.scheduler.withdrawUndesired.2 }

def Step [ScheduleProvider] (d : RouteDesk) (move : RouteMove) (d' : RouteDesk) : Prop :=
  d.step move = some d'

inductive Moved [ScheduleProvider] (d : RouteDesk) : RouteMove → RouteDesk → Prop
  | tick {tick : LinkTick} {owns : RouteSpec → Bool}
      (howns : ∀ r ∈ d.scheduler.routes, r.issued = true → owns r.spec = true) :
      Moved d (.tick tick owns) { d with scheduler := (d.scheduler.tickWithWarnings tick owns).2 }
  | idle : Moved d .next d
  | next {token : LinkReservation} {scheduler : LinkScheduler}
      (h : d.scheduler.nextOperation = (some token, scheduler)) :
      Moved d .next { d with scheduler, tokens := token :: d.tokens }
  | complete {token : LinkReservation} {accepted : Bool}
      (h : token ∈ d.tokens ∨ token.generation ≠ d.scheduler.generation) :
      Moved d (.complete token accepted)
        { d with scheduler := (d.scheduler.complete token accepted).2, void := token :: d.void }
  | pause {localNode : String} : Moved d (.pause localNode)
      { d with
        scheduler := d.scheduler.pause localNode
        void := d.tokens.filter (·.spec.localNode == localNode) ++ d.void }
  | resume {localNode : String} :
      Moved d (.resume localNode) { d with scheduler := d.scheduler.resume localNode }
  | withdrawUndesired :
      Moved d .withdrawUndesired { d with scheduler := d.scheduler.withdrawUndesired.2 }

variable [ScheduleProvider] {d d' : RouteDesk} {move : RouteMove}

theorem Step.moved (h : d.Step move d') : d.Moved move d' := by
  cases move with
  | tick tick owns =>
    obtain ⟨hall, he⟩ := ite_none_right_eq_some.mp h
    cases he
    refine .tick fun r hr hissued => ?_
    have := List.all_eq_true.mp hall r hr
    rwa [hissued] at this
  | next =>
    change (match d.scheduler.nextOperation with
      | (none, scheduler) => some { d with scheduler }
      | (some token, scheduler) => some { d with scheduler, tokens := token :: d.tokens }) = _ at h
    split at h
    · rename_i scheduler hnext
      cases h
      rw [nextOperation_none hnext]
      exact .idle
    · rename_i hnext
      cases h
      exact .next hnext
  | complete token accepted =>
    obtain ⟨htoken, he⟩ := ite_none_right_eq_some.mp h
    cases he
    exact .complete htoken
  | pause localNode =>
    cases h
    exact .pause
  | resume localNode =>
    cases h
    exact .resume
  | withdrawUndesired =>
    cases h
    exact .withdrawUndesired

/-! ## Reservations are numbered -/

/-- A reservation that cannot be settled any more. -/
def Dead (s : LinkScheduler) (token : LinkReservation) : Prop :=
  token.generation = s.generation →
    token.nonce ≤ s.nonce ∧ ∀ r, s.routes[token.index]? = some r → r.pending ≠ some token.nonce

/-- Reservations are numbered in order, each is of the route it names, and void ones are dead. -/
structure Numbered (d : RouteDesk) : Prop where
  pending : ∀ (i : Nat) (r : Route), d.scheduler.routes[i]? = some r →
    ∀ n, r.pending = some n → n ≤ d.scheduler.nonce
  tokens : ∀ t ∈ d.tokens, t.nonce ≤ d.scheduler.nonce
    ∧ ∃ r, d.scheduler.routes[t.index]? = some r ∧ r.spec = t.spec
  void : ∀ t ∈ d.void, Dead d.scheduler t

variable {token : LinkReservation} {i : Nat} {r' : Route} {w : ReplacementSpec} {s : LinkScheduler}

omit [ScheduleProvider] in
theorem Dead.not_reserved (h : Dead s token) : s.reserved token = false := by
  rw [Bool.eq_false_iff, Ne, reserved_iff]
  rintro ⟨hgeneration, r, hr, hpending, -⟩
  exact (h hgeneration).2 r hr hpending

section

omit [ScheduleProvider]

theorem complete_nonce (token : LinkReservation) (accepted : Bool) (s : LinkScheduler) :
    (s.complete token accepted).2.nonce = s.nonce := by
  unfold complete
  split <;> rfl

theorem Numbered.completed {d : RouteDesk} (hd : d.Numbered)
    (htoken : token ∈ d.tokens ∨ token.generation ≠ d.scheduler.generation) (accepted : Bool) :
    Dead (d.scheduler.complete token accepted).2 token := by
  have h := edits_complete token accepted d.scheduler
  intro hgeneration
  have hmem : token ∈ d.tokens :=
    htoken.resolve_right fun hne => hne (hgeneration.trans h.generation)
  obtain ⟨hnonce, r₀, hr₀, hspec⟩ := hd.tokens token hmem
  refine ⟨by rw [complete_nonce]; exact hnonce, fun r' hr' hn => ?_⟩
  obtain ⟨r, hr, rfl⟩ := h.old hr'
  unfold completeRoute at hn
  split at hn
  · cases hn
  rename_i hreserved
  rw [hr₀] at hr
  cases hr
  exact hreserved ⟨reserved_iff.mpr ⟨hgeneration.trans h.generation, r₀, hr₀, hn, hspec⟩, rfl⟩

theorem Numbered.paused {d : RouteDesk} (hd : d.Numbered)
    {localNode : String} (htoken : token ∈ d.tokens) (hlocal : token.spec.localNode = localNode) :
    Dead (d.scheduler.pause localNode) token := by
  intro _
  obtain ⟨hnonce, r₀, hr₀, hspec⟩ := hd.tokens token htoken
  refine ⟨hnonce, fun r' hr' hn => ?_⟩
  obtain ⟨r, hr, rfl⟩ := (edits_pause localNode d.scheduler).old hr'
  rw [hr₀] at hr
  cases hr
  rw [pauseRoute, hspec, hlocal, if_pos (beq_self_eq_true _)] at hn
  cases hn

end

/-- Every step edits the routes; it keeps the specifications, and holds or releases a node's routes
alike. -/
theorem Moved.edits (h : d.Moved move d') :
    ∃ f, Edits f d.scheduler d'.scheduler ∧ (∀ i r, (f i r).spec = r.spec)
      ∧ ∃ g : String → Bool → Bool, ∀ i r, (f i r).paused = g r.spec.localNode r.paused := by
  cases h with
  | tick => exact ⟨_, edits_tick .., fun _ _ => rfl, fun _ paused => paused, fun _ _ => rfl⟩
  | idle =>
    refine ⟨fun _ r => r, ⟨rfl, rfl, fun i => ?_⟩, fun _ _ => rfl, fun _ paused => paused,
      fun _ _ => rfl⟩
    exact map_id'.symm
  | next h => exact ⟨_, edits_next h, by simp, fun _ paused => paused, by simp⟩
  | complete => exact ⟨_, edits_complete .., by simp, fun _ paused => paused, by simp⟩
  | @pause localNode =>
    exact ⟨_, edits_pause .., by simp, fun name paused => name == localNode || paused, by simp⟩
  | @resume localNode =>
    exact ⟨_, edits_resume .., by simp, fun name paused => !(name == localNode) && paused, by simp⟩
  | withdrawUndesired =>
    exact ⟨_, edits_withdrawUndesired _, by simp, fun _ paused => paused, by simp⟩

/-- What a step makes of route `i`. Only a tick decides anew what is wanted. -/
inductive Turned (d d' : RouteDesk) (move : RouteMove) (i : Nat) (r : Route) : Route → Prop
  | kept {r' : Route} (hpending : r'.pending = r.pending) (hissued : r'.issued = r.issued)
      (hpaused : r'.paused = r.paused)
      (hdesired : r'.desired = r.desired ∨ ∃ tick owns, move = .tick tick owns) :
      Turned d d' move i r r'
  | reserved (hmove : move = .next) (hnonce : d.scheduler.nonce < d'.scheduler.nonce)
      (h : operable d.scheduler.withdrawalPending r = true) :
      Turned d d' move i r { r with pending := some d'.scheduler.nonce }
  | settled {issued : Bool} (h : issued = true → r.issued = true ∨ ∃ t ∈ d.tokens, t.index = i
        ∧ t.action = .attach ∧ d.scheduler.reserved t = true ∧ d.scheduler.current t = true) :
      Turned d d' move i r { r with pending := none, issued }
  | paused : Turned d d' move i r { r with paused := true, pending := none }
  | resumed (hmove : move = .resume r.spec.localNode) :
      Turned d d' move i r { r with paused := false }

theorem Moved.turned (h : d.Moved move d') (hr' : d'.scheduler.routes[i]? = some r') :
    ∃ r, d.scheduler.routes[i]? = some r ∧ Turned d d' move i r r' := by
  cases h with
  | @tick tick owns howns =>
    obtain ⟨r, hr, rfl⟩ := (edits_tick ..).old hr'
    refine ⟨r, hr, .kept rfl ?_ rfl (.inr ⟨tick, owns, rfl⟩)⟩
    have hown := howns r (mem_of_getElem? hr)
    change (r.issued && owns r.spec) = r.issued
    cases hissued : r.issued with
    | false => rfl
    | true => exact hown hissued
  | idle => exact ⟨r', hr', .kept rfl rfl rfl (.inl rfl)⟩
  | @next token scheduler h =>
    obtain ⟨route, hroute, hoperable, -, hs⟩ := nextOperation_some h
    obtain ⟨r, hr, rfl⟩ := (edits_next h).old hr'
    refine ⟨r, hr, ?_⟩
    have hnonce : scheduler.nonce = d.scheduler.nonce + 1 := by rw [hs]
    unfold reserveRoute
    split
    · rename_i hi
      rw [← hi, hroute] at hr
      cases hr
      rw [← hnonce]
      exact .reserved rfl (hnonce ▸ Nat.lt_succ_self _) hoperable
    · exact .kept rfl rfl rfl (.inl rfl)
  | @complete token accepted htoken =>
    obtain ⟨r, hr, rfl⟩ := (edits_complete ..).old hr'
    refine ⟨r, hr, ?_⟩
    unfold completeRoute
    split
    · rename_i hreserved
      refine .settled fun hissued => ?_
      split at hissued
      · rename_i htaken
        have hgeneration := (reserved_iff.mp hreserved.1).1
        exact .inr ⟨token, htoken.resolve_right fun hne => hne hgeneration, hreserved.2,
          of_decide_eq_true hissued, hreserved.1, (Bool.and_eq_true_iff.mp htaken).1⟩
      · exact .inl hissued
    · exact .kept rfl rfl rfl (.inl rfl)
  | pause =>
    obtain ⟨r, hr, rfl⟩ := (edits_pause ..).old hr'
    refine ⟨r, hr, ?_⟩
    unfold pauseRoute
    split
    · exact .paused
    · exact .kept rfl rfl rfl (.inl rfl)
  | resume =>
    obtain ⟨r, hr, rfl⟩ := (edits_resume ..).old hr'
    refine ⟨r, hr, ?_⟩
    unfold resumeRoute
    split
    · rename_i hnode
      exact .resumed (congrArg RouteMove.resume (beq_iff_eq.mp hnode).symm)
    · exact .kept rfl rfl rfl (.inl rfl)
  | withdrawUndesired =>
    obtain ⟨r, hr, rfl⟩ := (edits_withdrawUndesired _).old hr'
    refine ⟨r, hr, ?_⟩
    dsimp only [withdrawRoute]
    split
    · exact .settled (by simp)
    · exact .kept rfl rfl rfl (.inl rfl)

section

omit [ScheduleProvider]

variable {i : Nat} {r r' : Route}

/-- A reservation is an old one, or the one a step made. -/
theorem Turned.pending (h : Turned d d' move i r r') {n : Nat} (hn : r'.pending = some n) :
    r'.issued = r.issued ∧ (r.pending = some n ∨ move = .next ∧ n = d'.scheduler.nonce
      ∧ d.scheduler.nonce < n ∧ operable d.scheduler.withdrawalPending r = true) := by
  cases h with
  | kept hpending hissued => exact ⟨hissued, .inl (hpending ▸ hn)⟩
  | reserved hmove hlt hoperable =>
    cases hn
    exact ⟨rfl, .inr ⟨hmove, rfl, hlt, hoperable⟩⟩
  | settled | paused => cases hn
  | resumed => exact ⟨rfl, .inl hn⟩

theorem Turned.desired (h : Turned d d' move i r r')
    (hmove : ¬∃ tick owns, move = .tick tick owns) :
    r'.desired = r.desired := by
  cases h with
  | kept _ _ _ hdesired => exact hdesired.resolve_right hmove
  | reserved | settled | paused | resumed => rfl

end

section

variable (h : d.Moved move d')
include h

theorem Moved.specs : d'.scheduler.routeSpecs = d.scheduler.routeSpecs
      ∧ d'.scheduler.windowSpecs = d.scheduler.windowSpecs := by
  obtain ⟨f, hf, hspec, -⟩ := h.edits
  exact ⟨hf.specs hspec, hf.windows⟩

theorem Moved.nonce : d.scheduler.nonce ≤ d'.scheduler.nonce := by
  cases h with
  | next h =>
    obtain ⟨_, -, -, -, hs⟩ := nextOperation_some h
    rw [hs]
    exact Nat.le_succ _
  | complete => exact (complete_nonce ..).ge
  | tick | idle | pause | resume | withdrawUndesired => exact le_rfl

theorem Moved.dead (hdead : Dead d.scheduler token) : Dead d'.scheduler token := by
  obtain ⟨f, hf, -⟩ := h.edits
  intro hgeneration
  obtain ⟨hnonce, hpending⟩ := hdead (hgeneration.trans hf.generation)
  refine ⟨hnonce.trans h.nonce, fun r' hr' hn => ?_⟩
  obtain ⟨r, hr, hturn⟩ := h.turned hr'
  rcases (hturn.pending hn).2 with hold | ⟨-, -, hlt, -⟩
  · exact hpending r hr hold
  · omega

/-- A token made by a step has its number and its route. -/
theorem Moved.tokens {t : LinkReservation} (ht : t ∈ d'.tokens) :
    t ∈ d.tokens ∨ t.nonce = d'.scheduler.nonce
      ∧ ∃ r, d'.scheduler.routes[t.index]? = some r ∧ r.spec = t.spec := by
  cases h with
  | @next token scheduler h =>
    rcases mem_cons.mp ht with rfl | ht
    · obtain ⟨route, hroute, -, htoken, hs⟩ := nextOperation_some h
      refine .inr ⟨by rw [htoken, hs], _, by rw [(edits_next h).routes, hroute]; rfl, ?_⟩
      rw [(reserveRoute_frame ..).1, htoken]
    · exact .inl ht
  | tick | idle | complete | pause | resume | withdrawUndesired => exact .inl ht

theorem Moved.numbered (hd : d.Numbered) : d'.Numbered where
  pending i r' hr' n hn := by
    obtain ⟨r, hr, hturn⟩ := h.turned hr'
    rcases (hturn.pending hn).2 with hold | ⟨-, rfl, -⟩
    · exact (hd.pending i r hr n hold).trans h.nonce
    · exact le_rfl
  tokens t ht := by
    rcases h.tokens ht with hold | ⟨hnonce, hroute⟩
    · obtain ⟨hle, r, hr, hspec⟩ := hd.tokens t hold
      obtain ⟨f, hf, hkept, -⟩ := h.edits
      exact ⟨hle.trans h.nonce, f t.index r, by rw [hf.routes, hr]; rfl, (hkept _ r).trans hspec⟩
    · exact ⟨hnonce.le, hroute⟩
  void t ht := by
    have hold := fun ht => h.dead (hd.void t ht)
    cases h with
    | complete htoken =>
      rcases mem_cons.mp ht with rfl | ht
      · exact hd.completed htoken _
      · exact hold ht
    | pause =>
      rcases mem_append.mp ht with ht | ht
      · obtain ⟨hmem, hlocal⟩ := mem_filter.mp ht
        exact hd.paused hmem (beq_iff_eq.mp hlocal)
      · exact hold ht
    | tick | idle | next | resume | withdrawUndesired => exact hold ht

end

theorem Initial.numbered (h : d.Initial) : d.Numbered := by
  obtain ⟨⟨_, _, _, _, hnew⟩, htokens, hvoid⟩ := h
  obtain ⟨-, hpending, -⟩ := new_valid hnew
  refine ⟨fun i r hr n hn => ?_, fun t ht => ?_, fun t ht => ?_⟩
  · rw [hpending r (mem_of_getElem? hr)] at hn
    cases hn
  · rw [htokens] at ht
    cases ht
  · rw [hvoid] at ht
    cases ht

omit [ScheduleProvider] in
theorem Numbered.stale (hd : d.Numbered) (accepted : Bool)
    (htoken : token.generation ≠ d.scheduler.generation ∨ token ∈ d.void) :
    (d.scheduler.complete token accepted).2 = d.scheduler := by
  have hreserved : d.scheduler.reserved token = false := by
    rcases htoken with hgeneration | hvoid
    · rw [Bool.eq_false_iff, Ne, reserved_iff]
      exact fun hlive => hgeneration hlive.1
    · exact (hd.void token hvoid).not_reserved
  unfold complete
  rw [hreserved]
  rfl

/-- **A completion of a reservation of another generation, or of a void one, changes nothing**, in
every run. -/
theorem stale_completion (h : Reachable Initial Step d) (accepted : Bool)
    (htoken : token.generation ≠ d.scheduler.generation ∨ token ∈ d.void) :
    (d.scheduler.complete token accepted).2 = d.scheduler := by
  have hnumbered : d.Numbered := h.invariant (P := Numbered) (fun _ hi => hi.numbered)
    fun _ _ _ hp hs => hs.moved.numbered hp
  exact hnumbered.stale accepted htoken

/-! ## Replaced and replacement routes -/

/-- Whether route `i` is issued. -/
def isIssued (i : Nat) (d : RouteDesk) : Bool := (d.scheduler.routes[i]?).any (·.issued)

/-- No window has one of its replaced and one of its replacement routes issued. -/
def Exclusive (d : RouteDesk) : Prop :=
  ∀ w ∈ d.scheduler.windowSpecs, ∀ p ∈ w.replaced, ∀ q ∈ w.routes,
    ¬ (d.isIssued p = true ∧ d.isIssued q = true)

/-- The routes of one node are held together. -/
def HeldTogether (d : RouteDesk) : Prop :=
  ∀ (i j : Nat) (r r' : Route), d.scheduler.routes[i]? = some r →
    d.scheduler.routes[j]? = some r' → r.spec.localNode = r'.spec.localNode → r.paused = r'.paused

/-- A start that respects the windows, which agree on what they replace. It is that of every
scheduler built without a previous one. -/
def Apart (d : RouteDesk) : Prop := Agree d.scheduler.windowSpecs ∧ d.Exclusive ∧ d.HeldTogether

/-- Whether an attachment is reserved. -/
def attaching (s : LinkScheduler) : Bool := s.routes.any fun r => r.pending.isSome && !r.issued

/-- No attachment is reserved when a tick, or the end of a hold, finds an issued route that is not
wanted, unless a withdrawal was due before. -/
def Unhurried (d : RouteDesk) : RouteMove → Prop
  | .tick tick _ => attaching d.scheduler = true →
      (∃ p ∈ d.scheduler.routes.zipIdx, p.1.issued = true ∧ p.1.paused = false
        ∧ ¬ d.scheduler.Wants tick p.2 p.1) → d.scheduler.withdrawalPending = true
  | .resume localNode => attaching d.scheduler = true →
      (∃ r ∈ d.scheduler.routes, r.issued = true ∧ r.spec.localNode = localNode
        ∧ r.desired = false) → d.scheduler.withdrawalPending = true
  | _ => True

/-- What holds between the operations of a run without hurry. -/
structure Orderly (d : RouteDesk) : Prop where
  numbered : d.Numbered
  wellformed : Wellformed d.scheduler.routeSpecs d.scheduler.windowSpecs
  agree : Agree d.scheduler.windowSpecs
  together : d.HeldTogether
  held : ∀ (i : Nat) (r : Route), d.scheduler.routes[i]? = some r → r.paused = true →
    r.pending = none
  wanted : ∀ w ∈ d.scheduler.windowSpecs, ∀ p ∈ w.replaced, ∀ q ∈ w.routes, ∀ r r',
    d.scheduler.routes[p]? = some r → d.scheduler.routes[q]? = some r' →
      ¬ (r.desired = true ∧ r'.desired = true)
  kind : ∀ t ∈ d.tokens, d.scheduler.reserved t = true →
    ∀ r, d.scheduler.routes[t.index]? = some r →
    r.issued = decide (t.action ≠ .attach)
  due : d.scheduler.withdrawalPending = true → ∀ (i : Nat) (r : Route),
    d.scheduler.routes[i]? = some r → r.pending.isSome = true → r.issued = true
  exclusive : d.Exclusive

theorem Moved.together (h : d.Moved move d') (hd : d.HeldTogether) : d'.HeldTogether := by
  obtain ⟨f, hf, hspec, g, hg⟩ := h.edits
  intro i j r r' hr hr' hlocal
  obtain ⟨r₀, hr₀, rfl⟩ := hf.old hr
  obtain ⟨r₁, hr₁, rfl⟩ := hf.old hr'
  rw [hspec, hspec] at hlocal
  rw [hg, hg, hlocal, hd i j r₀ r₁ hr₀ hr₁ hlocal]

theorem Moved.held (h : d.Moved move d') (hd : d.Orderly)
    (hr' : d'.scheduler.routes[i]? = some r') (hpaused : r'.paused = true) : r'.pending = none := by
  obtain ⟨r, hr, hturn⟩ := h.turned hr'
  cases hturn with
  | kept hpending _ hsame => exact hpending.trans (hd.held i r hr (hsame ▸ hpaused))
  | reserved _ _ hoperable =>
    -- a held route is not reserved
    simp [operable, show r.paused = true from hpaused] at hoperable
  | settled | paused => rfl
  | resumed => cases hpaused

/-- After a tick no window wants both a replaced and a replacement route: a replacement route is
wanted because some open window requests it, and that window replaces the same routes. -/
theorem tick_wanted (hd : d.Orderly) (tick : LinkTick) (owns : RouteSpec → Bool)
    (hw : w ∈ d.scheduler.windowSpecs) {p q : Nat} (hp : p ∈ w.replaced)
    (hq : q ∈ w.routes) {r r' : Route}
    (hr : (d.scheduler.tickWithWarnings tick owns).2.routes[p]? = some r)
    (hr' : (d.scheduler.tickWithWarnings tick owns).2.routes[q]? = some r') :
    ¬ (r.desired = true ∧ r'.desired = true) := by
  rintro ⟨hpdesired, hqdesired⟩
  obtain ⟨r₀, hr₀, rfl⟩ := (edits_tick tick owns d.scheduler).old hr
  obtain ⟨r₁, hr₁, rfl⟩ := (edits_tick tick owns d.scheduler).old hr'
  -- the replacement route is temporary, so an open window requests it
  have htemporary : r₁.spec.permanent = false := temporary_of_mem hd.wellformed hw hq hr₁
  obtain ⟨v, hv, hqv⟩ := ((tick_desired hd.wellformed tick owns hr').mp hqdesired).resolve_right
    fun h => by cases htemporary.symm.trans h.1
  have hv' := inForce_subset tick owns d.scheduler hv
  -- no window requests the replaced route, so no open one replaces it
  obtain ⟨-, hunreplaced⟩ := ((tick_desired hd.wellformed tick owns hr).mp hpdesired).resolve_left
    fun ⟨v, hv, hpv⟩ => by
      have hv' := inForce_subset tick owns d.scheduler hv
      cases (temporary_of_mem hd.wellformed hv' hpv hr₀).symm.trans
        (permanent_of_mem hd.wellformed hw hp hr₀)
  exact hunreplaced v hv (hd.agree w hw v hv' q hq hqv hp)

theorem Moved.wanted (h : d.Moved move d') (hd : d.Orderly)
    (hw : w ∈ d'.scheduler.windowSpecs) {p q : Nat} (hp : p ∈ w.replaced) (hq : q ∈ w.routes)
    {r r' : Route} (hr : d'.scheduler.routes[p]? = some r)
    (hr' : d'.scheduler.routes[q]? = some r') : ¬ (r.desired = true ∧ r'.desired = true) := by
  rw [h.specs.2] at hw
  by_cases hmove : ∃ tick owns, move = .tick tick owns
  · obtain ⟨tick, owns, rfl⟩ := hmove
    cases h with
    | tick => exact tick_wanted hd _ _ hw hp hq hr hr'
  · obtain ⟨r₀, hr₀, hturn⟩ := h.turned hr
    obtain ⟨r₁, hr₁, hturn'⟩ := h.turned hr'
    rw [hturn.desired hmove, hturn'.desired hmove]
    exact hd.wanted w hw p hp q hq r₀ r₁ hr₀ hr₁

omit [ScheduleProvider] in
/-- The kind of a reservation that `next_operation` makes. -/
theorem next_kind {s s' : LinkScheduler}
    (h : s.nextOperation = (some token, s')) (hr' : s'.routes[token.index]? = some r') :
    r'.issued = decide (token.action ≠ .attach) := by
  obtain ⟨route, hroute, hoperable, htoken, -⟩ := nextOperation_some h
  obtain ⟨r, hr, rfl⟩ := (edits_next h).old hr'
  rw [hroute] at hr
  cases hr
  rw [(reserveRoute_frame ..).2.1, htoken]
  unfold operable at hoperable
  cases hw : s.withdrawalPending with
  | false =>
    rw [hw] at hoperable
    simp only [Bool.false_eq_true, if_false, Bool.and_eq_true, Bool.not_eq_true'] at hoperable
    exact hoperable.2.1
  | true =>
    rw [hw] at hoperable
    simp only [if_true, Bool.and_eq_true] at hoperable
    exact hoperable.2.1

theorem Moved.kind (h : d.Moved move d') (hd : d.Orderly) :
    ∀ t ∈ d'.tokens, d'.scheduler.reserved t = true → ∀ r, d'.scheduler.routes[t.index]? = some r →
      r.issued = decide (t.action ≠ .attach) := by
  intro t ht hreserved r' hr'
  by_cases hold : t ∈ d.tokens
  · obtain ⟨f, hf, hkept, -⟩ := h.edits
    obtain ⟨hgeneration, r₁, hr₁, hpending, hs⟩ := reserved_iff.mp hreserved
    cases hr'.symm.trans hr₁
    obtain ⟨r, hr, hturn⟩ := h.turned hr'
    obtain ⟨hissued, hwas | ⟨-, -, hlt, -⟩⟩ := hturn.pending hpending
    · obtain ⟨_, hr₀, rfl⟩ := hf.old hr'
      cases hr.symm.trans hr₀
      rw [hissued]
      exact hd.kind t hold (reserved_iff.mpr
        ⟨hgeneration.trans hf.generation, r, hr, hwas, (hkept _ r).symm.trans hs⟩) r hr
    · exact absurd (hd.numbered.tokens t hold).1 (Nat.not_le.mpr hlt)
  · cases h with
    | next h =>
      rcases mem_cons.mp ht with rfl | ht
      · exact next_kind h hr'
      · exact absurd ht hold
    | tick | idle | complete | pause | resume | withdrawUndesired => exact absurd ht hold

variable {t : LinkReservation}

omit [ScheduleProvider] in
/-- No attachment is accepted while a withdrawal is due: as long as one is due, only withdrawals are
reserved. -/
theorem Orderly.settled (hd : d.Orderly) (ht : t ∈ d.tokens)
    (hattach : t.action = .attach) (hreserved : d.scheduler.reserved t = true) :
    d.scheduler.withdrawalPending = false := by
  rw [Bool.eq_false_iff]
  intro hdue
  obtain ⟨-, r, hr, hpending, -⟩ := reserved_iff.mp hreserved
  have hissued := hd.due hdue t.index r hr (by rw [hpending]; rfl)
  rw [hd.kind t ht hreserved r hr, hattach] at hissued
  simp at hissued

/-- A withdrawal becomes due only in a state without a reserved attachment, and not by a
reservation. -/
theorem Moved.withdrawalPending (h : d.Moved move d') (hok : d.Unhurried move)
    (horderly : d.Orderly)
    (hdue : d'.scheduler.withdrawalPending = true) :
    d.scheduler.withdrawalPending = true ∨ attaching d.scheduler = false ∧ move ≠ .next := by
  obtain ⟨i, r', hr', hp, his, hd⟩ := withdrawalPending_iff.mp hdue
  obtain ⟨r, hr, hturn⟩ := h.turned hr'
  have hsame : r.paused = false → r.issued = true → r.desired = false →
      d.scheduler.withdrawalPending = true :=
    fun hp his hd => withdrawalPending_iff.mpr ⟨i, r, hr, hp, his, hd⟩
  have hhurry : (attaching d.scheduler = true → d.scheduler.withdrawalPending = true) →
    move ≠ .next →
      d.scheduler.withdrawalPending = true ∨ attaching d.scheduler = false ∧ move ≠ .next := by
    intro hattach hmove
    cases hattaching : attaching d.scheduler with
    | false => exact .inr ⟨rfl, hmove⟩
    | true => exact .inl (hattach hattaching)
  cases hturn with
  | kept _ hissued hpaused hdesired =>
    rcases hdesired with hdesired | ⟨tick, owns, rfl⟩
    · exact .inl (hsame (hpaused ▸ hp) (hissued ▸ his) (hdesired ▸ hd))
    · cases h with
      | tick =>
        -- the route is issued already, and the tick does not want it
        obtain ⟨_, hr₀, rfl⟩ := (edits_tick tick owns d.scheduler).old hr'
        cases hr.symm.trans hr₀
        have hunwanted : ¬ d.scheduler.Wants tick i r := fun hwants =>
          absurd ((tickRoute_desired horderly.wellformed tick owns hr).mpr hwants) (by simp [hd])
        refine hhurry
          (fun hattach => hok hattach ⟨(r, i), mem_zipIdx_iff_getElem?.mpr hr, ?_⟩) nofun
        exact ⟨hissued ▸ his, hpaused ▸ hp, hunwanted⟩
  | reserved => exact .inl (hsame hp his hd)
  | settled hset =>
    rcases hset his with hold | ⟨t, -, rfl, hattached, -, hcurrent⟩
    · exact .inl (hsame hp hold hd)
    -- an accepted attachment is of a route that is wanted
    obtain ⟨-, r₁, hr₁, hdesired⟩ := current_iff.mp hcurrent
    cases hr.symm.trans hr₁
    rw [hattached, show r.desired = false from hd] at hdesired
    simp at hdesired
  | paused => cases hp
  | resumed hmove =>
    subst hmove
    exact hhurry (fun hattach => hok hattach ⟨r, mem_of_getElem? hr, his, rfl, hd⟩) nofun

theorem Moved.due (h : d.Moved move d') (hok : d.Unhurried move) (hd : d.Orderly)
    (hdue : d'.scheduler.withdrawalPending = true) :
    ∀ (i : Nat) (r : Route), d'.scheduler.routes[i]? = some r → r.pending.isSome = true →
      r.issued = true := by
  intro i r' hr' hpending
  obtain ⟨n, hn⟩ := isSome_iff_exists.mp hpending
  obtain ⟨r, hr, hturn⟩ := h.turned hr'
  obtain ⟨hissued, hold⟩ := hturn.pending hn
  rw [hissued]
  rcases h.withdrawalPending hok hd hdue with hbefore | ⟨hnone, hmove⟩
  · rcases hold with hold | ⟨-, -, -, hoperable⟩
    · exact hd.due hbefore i r hr (by rw [hold]; rfl)
    -- a withdrawal is due, so the reservation is of an issued route
    unfold operable at hoperable
    rw [hbefore] at hoperable
    simp only [if_true, Bool.and_eq_true] at hoperable
    exact hoperable.2.1
  · have hold := hold.resolve_right fun hnew => hmove hnew.1
    have hattach := any_eq_false.mp hnone r (mem_of_getElem? hr)
    simpa [hold] using hattach

omit [ScheduleProvider] in
theorem isIssued_iff :
    d.isIssued i = true ↔ ∃ r, d.scheduler.routes[i]? = some r ∧ r.issued = true := by
  unfold isIssued
  rw [Option.any_eq_true]

/-- A step issues a route by accepting a reserved attachment of it, and in no other way. -/
theorem Moved.issued (h : d.Moved move d') (hi : d'.isIssued i = true) :
    d.isIssued i = true ∨ ∃ t ∈ d.tokens, t.index = i ∧ t.action = .attach
      ∧ d.scheduler.reserved t = true ∧ d.scheduler.current t = true := by
  obtain ⟨r', hr', hissued⟩ := isIssued_iff.mp hi
  obtain ⟨r, hr, hturn⟩ := h.turned hr'
  have hold : r.issued = true → d.isIssued i = true := fun his => isIssued_iff.mpr ⟨r, hr, his⟩
  cases hturn with
  | kept _ hsame => exact .inl (hold (hsame ▸ hissued))
  | reserved | paused | resumed => exact .inl (hold hissued)
  | settled hset => exact (hset hissued).imp_left hold

omit [ScheduleProvider] in
/-- When an attachment of route `i` is accepted, a route of the same node that is not wanted with
it is not issued: it would be due for withdrawal. -/
theorem Orderly.rival (hd : d.Orderly) (ht : t ∈ d.tokens)
    (hattach : t.action = .attach) (hcurrent : d.scheduler.current t = true) {j : Nat}
    (hlocal : (d.scheduler.routeSpecs[t.index]?).map (·.localNode)
      = (d.scheduler.routeSpecs[j]?).map (·.localNode))
    (hrival : ∀ r r', d.scheduler.routes[t.index]? = some r → d.scheduler.routes[j]? = some r' →
      ¬ (r.desired = true ∧ r'.desired = true)) : d.isIssued j = false := by
  obtain ⟨hreserved, r, hr, hdesired⟩ := current_iff.mp hcurrent
  obtain ⟨-, r₁, hr₁, hpending, -⟩ := reserved_iff.mp hreserved
  rw [hr] at hr₁
  cases hr₁
  rw [hattach] at hdesired
  rw [Bool.eq_false_iff]
  intro hissued
  obtain ⟨r', hr', hissued⟩ := isIssued_iff.mp hissued
  have hundesired : r'.desired = false := by
    rw [Bool.eq_false_iff]
    exact fun h => hrival r r' hr hr' ⟨by simpa using hdesired, h⟩
  have hunpaused : r.paused = false := by
    rw [Bool.eq_false_iff]
    intro hpaused
    rw [hd.held t.index r hr hpaused] at hpending
    cases hpending
  have hsame : r.spec.localNode = r'.spec.localNode := by
    simpa [routeSpecs, getElem?_map, hr, hr'] using hlocal
  have hdue : d.scheduler.withdrawalPending = true := withdrawalPending_iff.mpr
    ⟨j, r', hr', (hd.together _ _ r r' hr hr' hsame) ▸ hunpaused, hissued, hundesired⟩
  rw [hd.settled ht hattach hreserved] at hdue
  cases hdue

omit [ScheduleProvider] in
theorem current_attach (h : s.current t = true) (hattach : t.action = .attach) :
    ∃ r, s.routes[t.index]? = some r ∧ r.desired = true := by
  obtain ⟨-, r, hr, hdesired⟩ := current_iff.mp h
  rw [hattach] at hdesired
  exact ⟨r, hr, by simpa using hdesired⟩

theorem Moved.exclusive (h : d.Moved move d') (hd : d.Orderly) : d'.Exclusive := by
  intro w hw p hp q hq ⟨hpi, hqi⟩
  rw [h.specs.2] at hw
  have hlocal := hd.wellformed.sameNode w hw p hp q hq
  have hwanted := hd.wanted w hw p hp q hq
  rcases h.issued hpi with hpold | ⟨t, ht, rfl, hattach, -, hcurrent⟩ <;>
    rcases h.issued hqi with hqold | ⟨t', ht', rfl, hattach', -, hcurrent'⟩
  · exact hd.exclusive w hw p hp q hq ⟨hpold, hqold⟩
  · have hrival := hd.rival ht' hattach' hcurrent' hlocal.symm fun r r' hr hr' h =>
      hwanted r' r hr' hr ⟨h.2, h.1⟩
    rw [hpold] at hrival
    cases hrival
  · have hrival := hd.rival ht hattach hcurrent hlocal hwanted
    rw [hqold] at hrival
    cases hrival
  · -- both would be wanted
    obtain ⟨r, hr, hdesired⟩ := current_attach hcurrent hattach
    obtain ⟨r', hr', hdesired'⟩ := current_attach hcurrent' hattach'
    exact hwanted r r' hr hr' ⟨hdesired, hdesired'⟩

theorem Moved.orderly (h : d.Moved move d') (hok : d.Unhurried move) (hd : d.Orderly) :
    d'.Orderly where
  numbered := h.numbered hd.numbered
  wellformed := by
    rw [h.specs.1, h.specs.2]
    exact hd.wellformed
  agree := by
    rw [h.specs.2]
    exact hd.agree
  together := h.together hd.together
  held _ _ := h.held hd
  wanted _ hw _ hp _ hq _ _ := h.wanted hd hw hp hq
  kind := h.kind hd
  due := h.due hok hd
  exclusive := h.exclusive hd

theorem Initial.orderly (h : d.Initial) (hapart : d.Apart) : d.Orderly := by
  obtain ⟨⟨_, _, _, _, hnew⟩, htokens, hvoid⟩ := id h
  obtain ⟨hwellformed, hpending, hdesired⟩ := new_valid hnew
  refine ⟨h.numbered, hwellformed, hapart.1, hapart.2.2, fun i r hr _ => ?_, ?_, fun t ht => ?_,
    fun _ i r hr hp => ?_, hapart.2.1⟩
  · exact hpending r (mem_of_getElem? hr)
  · -- at the start the permanent routes are wanted
    intro w hw p _ q hq r r' hr hr' hboth
    rw [hdesired r' (mem_of_getElem? hr'), temporary_of_mem hwellformed hw hq hr'] at hboth
    cases hboth.2
  · rw [htokens] at ht
    cases ht
  · rw [hpending r (mem_of_getElem? hr)] at hp
    cases hp

/-- **Replacement exclusion.** In a run from a start that respects the windows, in which no
attachment is reserved when a withdrawal becomes due: no window ever has one of its replaced and one
of its replacement routes issued; no attachment is accepted while an issued route that is not held
is unwanted; and completing a reservation of another generation, one that is settled, or one that a
pause invalidated leaves every route as it is. -/
theorem replacement_exclusion
    (h : Reachable (fun d => Initial d ∧ Apart d) (Guarded Step Unhurried) d) :
    (∀ w ∈ d.scheduler.windowSpecs, ∀ p ∈ w.replaced, ∀ q ∈ w.routes,
        ¬ (d.isIssued p = true ∧ d.isIssued q = true))
      ∧ (∀ t ∈ d.tokens, t.action = .attach → d.scheduler.current t = true →
        d.scheduler.withdrawalPending = false)
      ∧ ∀ t accepted, t.generation ≠ d.scheduler.generation ∨ t ∈ d.void →
        (d.scheduler.complete t accepted).2.routes = d.scheduler.routes := by
  have horderly : d.Orderly := h.invariant (P := Orderly) (fun _ hi => hi.1.orderly hi.2)
    fun _ _ _ hp hs => hs.2.moved.orderly hs.1 hp
  refine ⟨horderly.exclusive, fun t ht hattach hcurrent => ?_, fun t accepted ht => ?_⟩
  · exact horderly.settled ht hattach (current_iff.mp hcurrent).1
  · rw [horderly.numbered.stale accepted ht]

instance (d : RouteDesk) (move : RouteMove) : Decidable (d.Unhurried move) := by
  cases move <;> unfold Unhurried <;> infer_instance

omit [ScheduleProvider]

/-- A window from 20:00 to 21:00. -/
@[reducible] def evening : ScheduleProvider where
  eventOccurrence _ _ := none
  windowMatches _ civil := civil.hour == 20
  windowOverlaps _ _ := true
  windowElapsedAfterEnd _ _ _ := none
  windowNextStart _ _ _ := none
  windowNextEnd _ _ _ := none

/-- A permanent route, and a route that replaces it in the evening. -/
def netRoutes : List RouteSpec :=
  [⟨"1000", "2000", true, some "net", none, some 0⟩,
    ⟨"1000", "3000", false, some "schedule:net", none, some 0⟩]

def netWindow : ReplacementSpec := ⟨[1], [0], ⟨0⟩, 0, [], [], none⟩

/-- A tick at a full hour, when the hub owns what is issued. -/
def atHour (hour : Nat) : RouteMove :=
  .tick ⟨⟨2026, 1, 1, .thursday, hour, 0⟩, 0, 0, fun _ => none, fun _ => false, false⟩ fun _ => true

/-- The reservation of route `index` under `nonce`. -/
def netToken (index nonce : Nat) (action : LinkTransition) : LinkReservation :=
  ⟨1, index, nonce, netRoutes.getD index ⟨"", "", false, none, none, none⟩, action⟩

/-- The scheduler of these routes, newly built. -/
def netDesk : Option RouteDesk :=
  (@LinkScheduler.new evening 1 netRoutes [netWindow] none).toOption.map fun s => { scheduler := s }

theorem netDesk_initial {d : RouteDesk} (h : netDesk = some d) : @Initial evening d := by
  obtain ⟨s, hs, rfl⟩ := map_eq_some_iff.mp h
  exact ⟨⟨1, netRoutes, [netWindow], none, ok_of_toOption hs⟩, rfl, rfl⟩

/-- The permanent route is dialled while the window opens, its replacement is attached, and the
window closes. -/
def lateMoves : List RouteMove :=
  [atHour 12, .next, atHour 20, .next, .complete (netToken 1 2 .attach) true, atHour 21]

/-- The dial of the permanent route is then accepted, before its replacement is withdrawn: the route
was not issued before, the window is closed, and both routes are issued. -/
theorem late_attachment : ∃ (_ : ScheduleProvider) (d d' : RouteDesk) (t : LinkReservation),
      Reachable Initial Step d ∧ t ∈ d.tokens ∧ t.action = .attach ∧ d.Step (.complete t true) d'
        ∧ d.scheduler.current t = true ∧ d.scheduler.withdrawalPending = true
        ∧ d.scheduler.windowSpecs = [netWindow]
        ∧ (d.scheduler.windows.map fun w => (w.wasActive, w.waiting)) = [(false, false)]
        ∧ d.isIssued 0 = false ∧ d'.isIssued 0 = true ∧ d'.isIssued 1 = true := by
  obtain ⟨d, hreach, htoken, hcurrent, hdue, hspecs, hclosed, hissued, hlast⟩ :=
    exists_reachable _ (@step evening) lateMoves netDesk (fun _ => netDesk_initial) (fun d =>
      netToken 0 1 .attach ∈ d.tokens ∧ d.scheduler.current (netToken 0 1 .attach) = true
      ∧ d.scheduler.withdrawalPending = true ∧ d.scheduler.windowSpecs = [netWindow]
      ∧ (d.scheduler.windows.map fun w => (w.wasActive, w.waiting)) = [(false, false)]
      ∧ d.isIssued 0 = false
      ∧ ((@step evening d (.complete (netToken 0 1 .attach) true)).map fun d' =>
        (d'.isIssued 0, d'.isIssued 1)) = some (true, true)) (by decide +kernel)
  obtain ⟨d', hd', hissued'⟩ := map_eq_some_iff.mp hlast
  rw [Prod.mk.injEq] at hissued'
  exact ⟨evening, d, d', netToken 0 1 .attach, hreach, htoken, rfl, hd', hcurrent, hdue, hspecs,
    hclosed, hissued, hissued'⟩

/-- The permanent route is attached, withdrawn when the window opens, and then replaced. -/
def orderlyMoves : List RouteMove :=
  [atHour 12, .next, .complete (netToken 0 1 .attach) true, atHour 20, .next,
    .complete (netToken 0 2 .detach) true, .next, .complete (netToken 1 3 .attach) true]

theorem netDesk_apart {d : RouteDesk} (h : netDesk = some d) : d.Apart := by
  have hfacts : netDesk.map (fun d => (d.scheduler.windowSpecs,
      d.scheduler.routes.map fun r => (r.issued, r.paused)))
      = some ([netWindow], [(false, false), (false, false)]) := by decide +kernel
  rw [h] at hfacts
  simp only [map_some, Option.some.injEq, Prod.mk.injEq] at hfacts
  obtain ⟨hwindows, hroutes⟩ := hfacts
  have hroute : ∀ {i : Nat} {r : Route}, d.scheduler.routes[i]? = some r →
      r.issued = false ∧ r.paused = false := by
    intro i r hr
    have hmem := mem_map_of_mem (f := fun r : Route => (r.issued, r.paused)) (mem_of_getElem? hr)
    rw [hroutes] at hmem
    simpa using hmem
  refine ⟨?_, fun w _ p _ q _ hboth => ?_, fun i j r r' hr hr' _ => ?_⟩
  · rw [hwindows]
    intro w hw w' hw' q _ _
    rw [mem_singleton.mp hw, mem_singleton.mp hw']
    exact List.Subset.refl _
  · obtain ⟨r, hr, hissued⟩ := isIssued_iff.mp hboth.1
    rw [(hroute hr).1] at hissued
    cases hissued
  · rw [(hroute hr).2, (hroute hr').2]

theorem replacement_exclusion_evening : ∃ (_ : ScheduleProvider) (d : RouteDesk),
      Reachable (fun d => Initial d ∧ Apart d) (Guarded Step Unhurried) d
        ∧ d.scheduler.windowSpecs = [netWindow] ∧ d.isIssued 1 = true
        ∧ ¬ (d.isIssued 0 = true ∧ d.isIssued 1 = true)
        ∧ (d.scheduler.complete (netToken 0 1 .attach) true).2.routes = d.scheduler.routes := by
  obtain ⟨d, hreach, hspecs, hissued, hvoid⟩ := exists_reachable_guarded _ (@step evening)
    (@Unhurried evening) orderlyMoves netDesk
    (fun _ h => And.intro (netDesk_initial h) (netDesk_apart h))
    (fun d => d.scheduler.windowSpecs = [netWindow] ∧ d.isIssued 1 = true
      ∧ netToken 0 1 .attach ∈ d.void) (by decide +kernel)
  obtain ⟨hexclusive, -, hstale⟩ := @replacement_exclusion evening d hreach
  refine ⟨evening, d, hreach, hspecs, hissued, ?_, hstale _ true (.inr hvoid)⟩
  exact hexclusive netWindow (by rw [hspecs]; exact mem_singleton_self _) 0
    (mem_singleton_self _) 1 (mem_singleton_self _)

end RouteDesk

end RptAdvanced.Runtime
