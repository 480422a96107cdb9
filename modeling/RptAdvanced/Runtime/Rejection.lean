import RptAdvanced.Runtime.Roster

/-!
# A rejected loop (`rust/core/src/runtime/links.rs`, `rust/core/src/link/hub.rs`)

`peer_text` rejects a peer whose topology proves another path: `reject_loop` ends the peer and
clears its permanence, so that `reclaim` leaves no retry. The hub has then forgotten the peer. The
schedule is not told: at the next tick the hub no longer owns the route, `issued` is withdrawn, and
a route that is still wanted is dialled again into the same loop.

A rejected peer is left alone as long as the windows in force at each tick do not want a route to it
(`Unwanted`, read off the state before the tick). `Shuns` says that the hub has nothing to dial for
the peer, `Spared` that the schedule has not.

Results:
* `step_disciplined`: a dial is reserved only for a route that is neither issued nor on hold.
* `rejected_not_redialled`: while `Unwanted` holds of every step, a rejected peer is not dialled
  until the node is reconfigured or an operator reconnects it.
* `rejected_redialled`: one tick after a rejection, the route is reserved again.
-/

namespace RptAdvanced.Link

open Lib List Option Bool

namespace LinkManager

variable {m m' : LinkManager} {name : String}

/-- The hub has nothing to dial for `name`: no peer of that name is permanent, and no retry of that
name is due. -/
structure Shuns (name : String) (m : LinkManager) : Prop where
  peers : ∀ p ∈ m.peers, p.name = name → p.permanent = false
  retries : ∀ r ∈ m.retries, r.name = name → r.paused = true

variable (h : m.Shuns name)
include h

theorem Shuns.descends (hdescends : m.Descends false m') : m'.Shuns name := by
  refine ⟨fun p' hp' hname => ?_, fun r' hr' hname => ?_⟩
  · obtain ⟨p, hp, hbecomes⟩ := hdescends.peers p' hp'
    have htemporary := h.peers p hp (hbecomes.name.symm.trans hname)
    refine eq_false_iff.mpr fun hpermanent => ?_
    rw [hbecomes.permanent hpermanent] at htemporary
    cases htemporary
  · rcases hdescends.retries r' hr' with ⟨r, hr, hremains⟩ | ⟨p, hp, hretires⟩
    · exact hremains.paused rfl (h.retries r hr (hremains.name.symm.trans hname))
    have htemporary := h.peers p hp (hretires.name.symm.trans hname)
    refine not_eq_false _ ▸ fun hdue => ?_
    rw [hretires.permanent hdue] at htemporary
    cases htemporary

theorem Shuns.perform (move : HubMove) (hquiet : move.quiet = true)
    (hresumes : move.resumes = false) : (m.perform move).Shuns name := by
  refine h.descends (perform_descends hquiet (fun hresumes' => ?_) m)
  rw [hresumes] at hresumes'
  cases hresumes'

variable {other : String} {attempt : RetryAttempt}

theorem Shuns.resumeOther (hother : other ≠ name) (mode : Mode)
    (nowMs : Nat) : (m.perform (.resumePermanentRetry other mode nowMs)).Shuns name := by
  unfold LinkManager.perform resumePermanentRetry
  dsimp only
  split
  · refine ⟨h.peers, fun r hr hname => ?_⟩
    rcases mem_modifyFirst hr with hr | ⟨r₀, hfind, rfl⟩
    · exact h.retries r hr hname
    have hr₀ := find?_some hfind
    unfold resumable at hr₀
    rw [and_eq_true, and_eq_true, beq_iff_eq] at hr₀
    exact absurd (hr₀.1.1.symm.trans hname) hother
  · exact h

theorem Shuns.publish (mode : Mode) {permanent : Bool}
    (group : Option String) (member : Option GroupMember)
    (hpermanent : other = name → permanent = false) :
    (m.publish other mode permanent group member).Shuns name := by
  refine ⟨fun p hp hname => ?_, h.retries⟩
  rcases mem_append.mp hp with hp | hp
  · exact h.peers p hp hname
  · rw [mem_singleton.mp hp] at hname ⊢
    exact hpermanent hname

theorem Shuns.retain {r : Retry} (hpeers : m'.peers = m.peers)
    (hretries : m'.retries = m.retries ++ [r]) (hr : r.name ≠ name) : m'.Shuns name := by
  refine ⟨hpeers ▸ h.peers, fun r' hr' hname => ?_⟩
  rw [hretries] at hr'
  rcases mem_append.mp hr' with hr' | hr'
  · exact h.retries r' hr' hname
  · rw [mem_singleton.mp hr'] at hname
    exact absurd hname hr

theorem Shuns.retainTopologyBlockedGroup
    (hother : other ≠ name) (mode : Mode) (group : Option String) (member : Option GroupMember) :
    (m.retainTopologyBlockedGroup other mode group member).Shuns name := by
  unfold LinkManager.retainTopologyBlockedGroup
  split
  · refine ⟨h.peers, fun r hr hname => ?_⟩
    rcases mem_modifyFirst hr with hr | ⟨r₀, hfind, rfl⟩
    · exact h.retries r hr hname
    · have hr₀ := find?_some hfind
      exact absurd ((beq_iff_eq.mp hr₀).symm.trans hname) hother
  · exact h.retain rfl rfl hother

/-- A gate that refuses a retry keeps its name and whether it is paused. -/
theorem publishRetry_error_shuns {e : AdmissionError}
    (hpublish : m.publishRetry attempt = (.error e, m')) : m'.Shuns name := by
  unfold publishRetry at hpublish
  split at hpublish
  · cases hpublish
    exact h
  split at hpublish
  · cases hpublish
    exact h
  split at hpublish
  · cases hpublish
    refine ⟨h.peers, fun r hr hname => ?_⟩
    rcases mem_modifyFirst hr with hr | ⟨r₀, hfind, rfl⟩
    · exact h.retries r hr hname
    · exact h.retries r₀ (mem_of_find?_eq_some hfind) hname
  · cases hpublish

/-- No dial is issued for a name that the hub shuns. -/
theorem Shuns.takeRetry {nowMs : Nat}
    (htake : (m.takeRetry nowMs).1 = some attempt) : attempt.name ≠ name := by
  unfold LinkManager.takeRetry at htake
  split at htake
  · cases htake
  rename_i r hfind
  cases htake
  intro hname
  have hpaused := h.retries r (mem_of_find?_eq_some hfind) hname
  have hdialable := find?_some hfind
  simp [dialable, hpaused] at hdialable

end LinkManager

end RptAdvanced.Link

namespace RptAdvanced.Runtime

open Lib List Link Link.LinkManager Schedule LinkControl Option Bool

/-! ## Reservations -/

/-- Nothing is reserved for a route that is issued or on hold. -/
def Route.Disciplined (r : Route) : Prop := r.issued = true ∨ r.paused = true → r.pending = none

/-- A route that is not attached: issued already, not wanted, or on hold. -/
def Route.AtRest (r : Route) : Prop := r.issued = true ∨ r.desired = false ∨ r.paused = true

namespace LinkScheduler

variable {f : Nat → Route → Route} {s s' : LinkScheduler} {token : LinkReservation}

theorem Edits.forall_routes (h : Edits f s s') {P : Route → Prop}
    (hf : ∀ i r, s.routes[i]? = some r → P r → P (f i r)) (hs : ∀ r ∈ s.routes, P r) :
    ∀ r ∈ s'.routes, P r := by
  intro r' hr'
  obtain ⟨i, hi⟩ := mem_iff_getElem?.mp hr'
  obtain ⟨r, hr, rfl⟩ := h.old hi
  exact hf i r hr (hs r (mem_of_getElem? hr))

theorem Edits.wellformed (h : Edits f s s') (hspec : ∀ i r, (f i r).spec = r.spec)
    (hs : Wellformed s.routeSpecs s.windowSpecs) : Wellformed s'.routeSpecs s'.windowSpecs := by
  rwa [h.specs hspec, h.windows]

variable (h : s.nextOperation = (some token, s')) (hs : ∀ r ∈ s.routes, r.Disciplined)

include h in
/-- The action of a reservation is that of the schedule's phase. -/
theorem nextOperation_action : token.action = .attach ↔ s.withdrawalPending = false := by
  obtain ⟨route, -, -, htoken, -⟩ := nextOperation_some h
  rw [htoken]
  cases s.withdrawalPending <;> simp

include h in
/-- An attachment is reserved only for a route that is not at rest. -/
theorem nextOperation_wanted (haction : token.action = .attach) :
    ∃ r ∈ s.routes, r.spec = token.spec ∧ ¬r.AtRest := by
  obtain ⟨route, hroute, hoperable, htoken, -⟩ := nextOperation_some h
  rw [(nextOperation_action h).mp haction] at hoperable
  refine ⟨route, mem_of_getElem? hroute, (congrArg LinkReservation.spec htoken).symm, ?_⟩
  simp only [operable, and_eq_true, not_eq_true', false_eq_true, if_false] at hoperable
  simp [Route.AtRest, hoperable]

include hs

theorem tick_disciplined [ScheduleProvider] (tick : LinkTick) (owns : RouteSpec → Bool) :
    ∀ r ∈ (s.tickWithWarnings tick owns).2.routes, r.Disciplined := by
  refine (edits_tick tick owns s).forall_routes (fun i r _ hr h => hr ?_) hs
  rcases h with hissued | hpaused
  · exact .inl (and_eq_true_iff.mp hissued).1
  · exact .inr hpaused

theorem complete_disciplined (token : LinkReservation) (accepted : Bool) :
    ∀ r ∈ (s.complete token accepted).2.routes, r.Disciplined := by
  refine (edits_complete token accepted s).forall_routes (fun i r _ hr => ?_) hs
  unfold completeRoute
  split
  · exact fun _ => rfl
  · exact hr

include h in
theorem dialled_disciplined (haction : token.action = .attach) :
    ∀ r ∈ s'.routes, r.Disciplined := by
  obtain ⟨route, hroute, hoperable, -, -⟩ := nextOperation_some h
  rw [(nextOperation_action h).mp haction] at hoperable
  refine (edits_next h).forall_routes (fun i r hr hdisciplined => ?_) hs
  unfold reserveRoute
  split
  · rename_i hi
    rw [← hi, hroute] at hr
    cases hr
    simp only [operable, and_eq_true, not_eq_true', false_eq_true, if_false] at hoperable
    rintro (hissued | hpaused)
    · rw [hoperable.2.1] at hissued
      cases hissued
    · rw [hoperable.1.1] at hpaused
      cases hpaused
  · exact hdisciplined

include h in
/-- The reservation of a withdrawal is settled at once. -/
theorem detached_disciplined : ∀ r ∈ (s'.complete token true).2.routes, r.Disciplined := by
  obtain ⟨route, hroute, -, htoken, -⟩ := nextOperation_some h
  have hedits := edits_next h
  have hroute' : s'.routes[token.index]?
      = some (reserveRoute token.index (s.nonce + 1) token.index route) := by
    rw [hedits.routes, hroute, map_some]
  have hreserved : s'.reserved token = true := by
    refine reserved_iff.mpr ⟨?_, _, hroute', ?_, ?_⟩
    · rw [htoken]
      exact hedits.generation.symm
    · have hnonce : token.nonce = s.nonce + 1 := congrArg LinkReservation.nonce htoken
      rw [hnonce, reserveRoute, if_pos rfl]
    · rw [(reserveRoute_frame ..).1]
      exact (congrArg LinkReservation.spec htoken).symm
  intro r'' hr''
  obtain ⟨i, hi⟩ := mem_iff_getElem?.mp hr''
  obtain ⟨r', hr', rfl⟩ := (edits_complete token true s').old hi
  obtain ⟨r, hr, rfl⟩ := hedits.old hr'
  unfold completeRoute
  by_cases hindex : token.index = i
  · rw [if_pos ⟨hreserved, hindex⟩]
    exact fun _ => rfl
  · rw [if_neg fun h => hindex h.2, reserveRoute, if_neg hindex]
    exact hs r (mem_of_getElem? hr)

theorem pause_disciplined (localNode : String) :
    ∀ r ∈ (s.pause localNode).routes, r.Disciplined := by
  refine (edits_pause localNode s).forall_routes (fun i r _ hr => ?_) hs
  unfold pauseRoute
  split
  · exact fun _ => rfl
  · exact hr

theorem resume_disciplined (localNode : String) :
    ∀ r ∈ (s.resume localNode).withdrawUndesired.2.routes, r.Disciplined := by
  have hresumed : ∀ r ∈ (s.resume localNode).routes, r.Disciplined := by
    refine (edits_resume localNode s).forall_routes (fun i r _ hr => ?_) hs
    unfold resumeRoute
    split
    · rintro (hissued | hpaused)
      · exact hr (.inl hissued)
      · cases hpaused
    · exact hr
  refine (edits_withdrawUndesired _).forall_routes (fun i r _ hr => ?_) hresumed
  unfold withdrawRoute
  split
  · exact fun _ => rfl
  · exact hr

/-- An attachment that is still current is of a route that is not at rest. -/
theorem current_wanted (h : s.current token = true) (haction : token.action = .attach) :
    ∃ r ∈ s.routes, r.spec = token.spec ∧ ¬r.AtRest := by
  obtain ⟨hreserved, route, hroute, hdesired⟩ := current_iff.mp h
  obtain ⟨-, route', hroute', hpending, hspec⟩ := reserved_iff.mp hreserved
  rw [hroute] at hroute'
  cases hroute'
  have hmem := mem_of_getElem? hroute
  refine ⟨route, hmem, hspec, fun hrest => ?_⟩
  rcases hrest with hissued | hundesired | hpaused
  · rw [hs route hmem (.inl hissued)] at hpending
    cases hpending
  · rw [haction, hundesired] at hdesired
    simp at hdesired
  · rw [hs route hmem (.inr hpaused)] at hpending
    cases hpending

end LinkScheduler

namespace LinkControl

variable {name : String} {result : Except AdmissionError Bool} {m m' : LinkManager}

/-- A returned dial to a peer that is left alone is not published. -/
theorem Outcome.shuns {dial : ConnectAttempt} {answered blocked : Bool} {nowMs : Nat}
    (h : Outcome dial answered nowMs m result blocked m') (hm : m.Shuns name)
    (hother : blocked = true ∨ result.toBool = true → dial.remote ≠ name) : m'.Shuns name := by
  cases h with
  | refused | dropped => exact hm
  | attached => exact hm.publish _ _ _ fun hname => absurd hname (hother (.inr rfl))
  | blocked => exact hm.retainTopologyBlockedGroup (hother (.inl rfl)) _ _ _
  | retained => exact hm.retain rfl rfl (hother (.inr rfl))

theorem RetryOutcome.shuns {retry : RetryWork} {nowMs : Nat}
    (h : RetryOutcome retry nowMs m result m') (hm : m.Shuns name) : m'.Shuns name := by
  cases h with
  | unpublished => exact hm.perform (.finishRetry retry.attempt false nowMs) rfl rfl
  | rejected e m₁ hpublish =>
    exact (LinkManager.publishRetry_error_shuns hm hpublish).perform
      (.finishRetry retry.attempt false nowMs) rfl rfl
  | published m₁ hpublish =>
    obtain ⟨r, hr, hcarries, hunpaused, -, rfl⟩ := publishRetry_ok hpublish
    refine LinkManager.Shuns.perform ?_ (.finishRetry retry.attempt true nowMs) rfl rfl
    refine hm.publish _ _ _ fun hname => ?_
    have hpaused := hm.retries r hr ((carries_eq.mp hcarries).1.trans hname)
    rw [hunpaused] at hpaused
    cases hpaused

end LinkControl

/-- Every route of the schedule to `name` is at rest. -/
def LinkControl.Spared (name : String) (c : LinkControl) : Prop :=
  ∀ s ∈ c.schedule, ∀ r ∈ s.routes, r.spec.remote = name → r.AtRest

namespace LinkDesk

/-- Windows are validated, reservations are disciplined, and a scheduled dial in flight attaches its
own route. -/
structure Disciplined (d : LinkDesk) : Prop where
  windows : ∀ s ∈ d.control.schedule, Wellformed s.routeSpecs s.windowSpecs
  routes : ∀ s ∈ d.control.schedule, ∀ r ∈ s.routes, r.Disciplined
  dials : ∀ dial ∈ d.dials, ∀ token, dial.scheduled = some token →
    token.action = .attach ∧ token.spec.remote = dial.remote

variable [ScheduleProvider] {d d' : LinkDesk} {move : LinkMove} {name : String}

theorem schedule_disciplined {candidate : Option LinkConfiguration} {s : Option LinkScheduler}
    (h : schedule candidate = some s) : ∀ s' ∈ s,
      Wellformed s'.routeSpecs s'.windowSpecs ∧ ∀ r ∈ s'.routes, r.Disciplined := by
  intro s' hs'
  cases candidate with
  | none =>
    cases h
    cases hs'
  | some k =>
    obtain ⟨s₀, hnew, rfl⟩ := map_eq_some_iff.mp h
    cases hs'
    obtain ⟨hwellformed, hpending, -⟩ := LinkScheduler.new_valid (ok_of_toOption hnew)
    exact ⟨hwellformed, fun r hr _ => hpending r hr⟩

variable {c : LinkControl} {token : LinkReservation}

/-- What every tick keeps, a fresh calendar keeps. -/
theorem recheckCalendar_keeps {P : LinkScheduler → Prop} (dial : ConnectAttempt) (nowMs : Nat)
    (clock : Option (CivilTime × Nat)) (activity : String → Option Nat)
    (htick : ∀ s tick owns, P s → P (s.tickWithWarnings tick owns).2) (h : ∀ s ∈ c.schedule, P s) :
    ∀ s ∈ (c.recheckCalendar dial nowMs clock activity).2.schedule, P s := by
  rw [recheckCalendar_eq]
  cases freshTick dial nowMs clock activity c with
  | none => exact h
  | some tick =>
    rw [Option.elim_some, tickWithWarnings_eq]
    exact Option.forall_mem_map.mpr fun s hs => htick s tick _ (h s hs)

theorem tick_wellformed (s : LinkScheduler) (tick : LinkTick) (owns : RouteSpec → Bool) :
    Wellformed s.routeSpecs s.windowSpecs → Wellformed
      (s.tickWithWarnings tick owns).2.routeSpecs (s.tickWithWarnings tick owns).2.windowSpecs :=
  (LinkScheduler.edits_tick tick owns s).wellformed fun _ _ => rfl

omit [ScheduleProvider] in
theorem complete_wellformed (s : LinkScheduler) (token : LinkReservation) (accepted : Bool) :
    Wellformed s.routeSpecs s.windowSpecs → Wellformed
      (s.complete token accepted).2.routeSpecs (s.complete token accepted).2.windowSpecs :=
  (LinkScheduler.edits_complete token accepted s).wellformed (by simp)

/-- No move changes the configured routes and windows, but for a reconfiguration, which validates
them. -/
theorem Steered.wellformed {schedule' : Option LinkScheduler} (h : Steered d move schedule')
    (hd : ∀ s ∈ d.control.schedule, Wellformed s.routeSpecs s.windowSpecs) :
    ∀ s ∈ schedule', Wellformed s.routeSpecs s.windowSpecs := by
  cases h with
  | kept => exact hd
  | ticked tick =>
    rw [tickWithWarnings_eq]
    exact Option.forall_mem_map.mpr fun s hs => tick_wellformed s tick _ (hd s hs)
  | detached _ _ s s' token hs hnext =>
    rintro _ ⟨⟩
    exact complete_wellformed s' token true
      ((LinkScheduler.edits_next hnext).wellformed (by simp) (hd s hs))
  | dialled _ _ s s' token hs hnext =>
    rintro _ ⟨⟩
    exact (LinkScheduler.edits_next hnext).wellformed (by simp) (hd s hs)
  | paused =>
    exact Option.forall_mem_map.mpr fun s hs =>
      (LinkScheduler.edits_pause _ s).wellformed (by simp) (hd s hs)
  | resumed =>
    exact Option.forall_mem_map.mpr fun s hs =>
      (LinkScheduler.edits_withdrawUndesired _).wellformed (by simp)
        ((LinkScheduler.edits_resume _ s).wellformed (by simp) (hd s hs))
  | cancelled dial token =>
    exact Option.forall_mem_map.mpr fun s hs => complete_wellformed s token false (hd s hs)
  | finished dial _ _ nowMs clock activity accepted =>
    have hfresh := recheckCalendar_keeps dial nowMs clock activity tick_wellformed hd
    cases dial.scheduled with
    | none => exact hfresh
    | some token =>
      exact Option.forall_mem_map.mpr fun s hs => complete_wellformed s token accepted (hfresh s hs)
  | reconfigured _ _ _ hs => exact fun s hmem => (schedule_disciplined hs s hmem).1

/-- **Every move keeps the discipline of reservations.** -/
theorem step_disciplined (h : d.Step move d') (hd : d.Disciplined) : d'.Disciplined := by
  refine ⟨(step_stepped h).schedule.wellformed hd.windows, ?_, fun dial hdial token htoken => ?_⟩
  · have hsteered := (step_stepped h).schedule
    generalize d'.control.schedule = schedule' at hsteered ⊢
    cases hsteered with
    | kept => exact hd.routes
    | ticked tick =>
      rw [tickWithWarnings_eq]
      exact Option.forall_mem_map.mpr fun s hs =>
        LinkScheduler.tick_disciplined (hd.routes s hs) tick _
    | detached _ _ s s' token hs hnext =>
      rintro _ ⟨⟩
      exact LinkScheduler.detached_disciplined hnext (hd.routes s hs)
    | dialled _ _ s s' token hs hnext haction =>
      rintro _ ⟨⟩
      exact LinkScheduler.dialled_disciplined hnext (hd.routes s hs) haction
    | paused =>
      exact Option.forall_mem_map.mpr fun s hs =>
        LinkScheduler.pause_disciplined (hd.routes s hs) _
    | resumed =>
      exact Option.forall_mem_map.mpr fun s hs =>
        LinkScheduler.resume_disciplined (hd.routes s hs) _
    | cancelled dial token =>
      exact Option.forall_mem_map.mpr fun s hs =>
        LinkScheduler.complete_disciplined (hd.routes s hs) token false
    | finished dial _ _ nowMs clock activity accepted =>
      have hrechecked := recheckCalendar_keeps dial nowMs clock activity
        (fun _ tick owns hs => LinkScheduler.tick_disciplined hs tick owns) hd.routes
      cases dial.scheduled with
      | none => exact hrechecked
      | some token =>
        exact Option.forall_mem_map.mpr fun s hs =>
          LinkScheduler.complete_disciplined (hrechecked s hs) token accepted
    | reconfigured _ _ _ hs => exact fun s hmem => (schedule_disciplined hs s hmem).2
  · rcases (step_stepped h).dials dial hdial with hold | hunscheduled | hnew
    · exact hd.dials dial hold token htoken
    · rw [hunscheduled] at htoken
      cases htoken
    obtain ⟨s, s', token', -, -, haction, hscheduled, hremote, -⟩ := hnew
    rw [hscheduled] at htoken
    cases htoken
    exact ⟨haction, hremote.symm⟩

theorem Initial.disciplined (h : d.Initial) : d.Disciplined := by
  obtain ⟨localNode, policy, candidate, s, control, hs, hnew, rfl⟩ := h
  rw [new_eq hnew]
  have hvalid := schedule_disciplined hs
  exact ⟨fun s hmem => (hvalid s hmem).1, fun s hmem => (hvalid s hmem).2, forall_mem_nil _⟩

/-! ## The names of the peers -/

theorem step_peerNames (h : d.Step move d') (hd : (d.control.manager.peers.map (·.name)).Nodup) :
    (d'.control.manager.peers.map (·.name)).Nodup := by
  have hpublish :
    ∀ (n : String) (mode : Mode) (permanent retries : Bool) (group group' : Option String)
      (member : Option GroupMember), d.control.manager.checkGroup n retries group' = .ok () →
      ((d.control.manager.publish n mode permanent group member).peers.map (·.name)).Nodup := by
    intro n mode permanent retries group group' member hcheck
    obtain ⟨-, -, hpeer, -⟩ := checkGroup_ok hcheck
    unfold publish
    rw [refreshGroupSelections_peers, map_append, nodup_append]
    refine ⟨hd, nodup_singleton _, fun a ha b hb => ?_⟩
    rw [mem_singleton.mp hb]
    rintro rfl
    exact hpeer ha
  have hhub := (step_stepped h).hub
  generalize d'.control.manager = m' at hhub ⊢
  cases hhub with
  | quiet h =>
    refine h.invariant (I := fun m => (m.peers.map (·.name)).Nodup) ?_ hd
    exact fun m op hop _ hm => hm.sublist (perform_peerNames op hop m)
  | accepted _ _ _ hcheck => exact hpublish _ _ _ _ _ _ _ hcheck
  | connected _ _ _ _ _ _ _ _ _ _ hout =>
    cases hout with
    | attached _ hcheck => exact hpublish _ _ _ _ _ _ _ hcheck
    | blocked =>
      unfold retainTopologyBlockedGroup
      split <;> exact hd
    | refused | dropped | retained => exact hd
  | retried _ _ _ _ _ _ hout =>
    cases hout with
    | unpublished => rwa [finishRetry_peers]
    | rejected e m₁ hpublish' => rwa [finishRetry_peers, (publishRetry_error hpublish').1]
    | published m₁ hpublish' =>
      obtain ⟨r, -, -, -, hcheck, rfl⟩ := publishRetry_ok hpublish'
      rw [finishRetry_peers]
      exact hpublish _ _ _ _ _ _ _ hcheck
  | called => exact hd

/-! ## After a rejection -/

/-- The node is not reconfigured, and no operator reconnects `name`, not by a dial that was begun
earlier either. -/
def Undisturbed (name : String) : LinkMove → Prop
  | .reconfigure .. => False
  | .command operation .. => operation.action.reconnects = false
      ∧ (operation.action.connects = true →
        PeerIdentity.canonicalOperator operation.node ≠ some name)
  | .finishConnect dial .. => dial.remote = name → dial.scheduled ≠ none
  | _ => True

/-- The tick that a move makes, if any. -/
def tickOf (d : LinkDesk) : LinkMove → Option LinkTick
  | .tick tick => some tick
  | .finishConnect dial _ _ nowMs clock activity => freshTick dial nowMs clock activity d.control
  | _ => none

/-- Where the move makes a tick, the windows then in force do not want a route to `name`, unless it
is on hold, or issued and still owned by the hub. -/
def Unwanted (name : String) (d : LinkDesk) (move : LinkMove) : Prop :=
  ∀ tick ∈ d.tickOf move, ∀ s ∈ d.control.schedule, ∀ p ∈ s.routes.zipIdx, p.1.spec.remote = name →
    p.1.paused = true ∨ p.1.issued = true ∧ d.control.manager.ownsPermanent name = true
      ∨ ¬ s.Wants tick p.2 p.1

theorem tick_spared {tick : LinkTick} (hd : d.Disciplined) (hspare : d.Unwanted name move)
    (htick : d.tickOf move = some tick) :
    LinkControl.Spared name (d.control.tickWithWarnings tick).2 := by
  rw [tickWithWarnings_eq]
  refine Option.forall_mem_map.mpr fun s hs r' hr' hname => ?_
  obtain ⟨i, hi⟩ := mem_iff_getElem?.mp hr'
  obtain ⟨r, hr, rfl⟩ := (LinkScheduler.edits_tick tick _ s).old hi
  rcases hspare tick htick s hs (r, i) (mem_zipIdx_iff_getElem?.mpr hr) hname with
    hpaused | ⟨hissued, howned⟩ | hunwanted
  · exact .inr (.inr hpaused)
  · refine .inl (and_eq_true_iff.mpr ⟨hissued, ?_⟩)
    rw [← howned]
    exact congrArg _ hname
  · refine .inr (.inl (eq_false_iff.mpr fun hdesired => hunwanted ?_))
    exact (LinkScheduler.tickRoute_desired (hd.windows s hs) tick _ hr).mp hdesired

theorem recheckCalendar_spared {dial : ConnectAttempt} {answered current : Bool} {nowMs : Nat}
    {clock : Option (CivilTime × Nat)} {activity : String → Option Nat} (hd : d.Disciplined)
    (hunwanted : d.Unwanted name (.finishConnect dial answered current nowMs clock activity))
    (hspared : LinkControl.Spared name d.control) :
    LinkControl.Spared name (d.control.recheckCalendar dial nowMs clock activity).2 := by
  rw [recheckCalendar_eq]
  cases htick : freshTick dial nowMs clock activity d.control with
  | none => exact hspared
  | some tick => exact tick_spared hd hunwanted htick

omit [ScheduleProvider] in
theorem complete_spared {schedule' : Option LinkScheduler}
    {accepted : Bool} (h : ∀ s ∈ schedule', ∀ r ∈ s.routes, r.spec.remote = name → r.AtRest) :
    ∀ s ∈ schedule'.map fun s => (s.complete token accepted).2,
      ∀ r ∈ s.routes, r.spec.remote = name → r.AtRest := by
  intro s' hs'
  obtain ⟨s, hs, rfl⟩ := map_eq_some_iff.mp hs'
  refine (LinkScheduler.edits_complete token accepted s).forall_routes
    (P := fun r => r.spec.remote = name → r.AtRest) (fun i r hr hrest hname => ?_) (h s hs)
  rw [(LinkScheduler.completeRoute_frame ..).1] at hname
  unfold LinkScheduler.completeRoute
  split
  · rename_i hindex
    unfold LinkScheduler.settleRoute
    by_cases htaken : (s.current token && accepted) = true
    · -- a withdrawal is current only for a route that is not wanted
      obtain ⟨-, route, hroute, hdesired⟩ :=
        LinkScheduler.current_iff.mp (and_eq_true_iff.mp htaken).1
      rw [hindex.2, hr] at hroute
      cases hroute
      rw [if_pos htaken]
      cases haction : token.action with
      | attach => exact .inl rfl
      | detach =>
        rw [haction] at hdesired
        exact .inr (.inl hdesired)
    · rw [if_neg htaken]
      exact hrest hname
  · exact hrest hname

omit [ScheduleProvider] in
theorem next_spared {s s' : LinkScheduler} (hnext : s.nextOperation = (some token, s'))
    (h : ∀ r ∈ s.routes, r.spec.remote = name → r.AtRest) :
    ∀ r ∈ s'.routes, r.spec.remote = name → r.AtRest := by
  refine (LinkScheduler.edits_next hnext).forall_routes
    (P := fun r => r.spec.remote = name → r.AtRest) (fun i r _ hrest => ?_) h
  simpa [Route.AtRest] using hrest

theorem step_spared (h : d.Step move d') (hdisciplined : d.Disciplined)
    (hundisturbed : Undisturbed name move)
    (hunwanted : d.Unwanted name move) (hd : LinkControl.Spared name d.control) :
    LinkControl.Spared name d'.control := by
  have hsteered := (step_stepped h).schedule
  unfold LinkControl.Spared
  generalize d'.control.schedule = schedule' at hsteered ⊢
  cases hsteered with
  | kept => exact hd
  | ticked tick => exact tick_spared hdisciplined hunwanted rfl
  | detached _ _ s s' token hs hnext =>
    have hnext' : ∀ s₁ ∈ some s', ∀ r ∈ s₁.routes, r.spec.remote = name → r.AtRest := by
      rintro _ ⟨⟩
      exact next_spared hnext (hd s hs)
    exact complete_spared hnext'
  | dialled _ _ s s' token hs hnext =>
    rintro _ ⟨⟩
    exact next_spared hnext (hd s hs)
  | paused =>
    intro s' hs'
    obtain ⟨s, hs, rfl⟩ := map_eq_some_iff.mp hs'
    refine (LinkScheduler.edits_pause _ s).forall_routes
      (P := fun r => r.spec.remote = name → r.AtRest) (fun i r _ hrest hname => ?_) (hd s hs)
    rw [(LinkScheduler.pauseRoute_frame ..).1] at hname
    rcases hrest hname with hissued | hundesired | hpaused
    · exact .inl (by simpa using hissued)
    · exact .inr (.inl (by simpa using hundesired))
    · exact .inr (.inr (by simp [hpaused]))
  | resumed _ _ _ _ haction =>
    rw [hundisturbed.1] at haction
    cases haction
  | cancelled dial token => exact complete_spared hd
  | finished dial _ _ nowMs clock activity accepted =>
    have hfresh := recheckCalendar_spared hdisciplined hunwanted hd
    cases dial.scheduled with
    | none => exact hfresh
    | some token => exact complete_spared hfresh
  | reconfigured => exact hundisturbed.elim

omit [ScheduleProvider] in
theorem command_shuns {operation : Command} (work : Nat) (current : Bool) (nowMs : Nat)
    (hundisturbed : Undisturbed name (.command operation work current nowMs))
    (hc : c.manager.Shuns name) :
    (c.command operation work current nowMs).2.manager.Shuns name := by
  have h := command_outcome c operation work current nowMs
  generalize c.command operation work current nowMs = out at h ⊢
  obtain ⟨result, c'⟩ := out
  cases h with
  | refused | dialled => exact hc
  | resumed remote hremote haction =>
    refine hc.resumeOther (fun hname => ?_) _ _
    exact hundisturbed.2 haction (hname ▸ hremote)
  | disconnected _ _ op hop =>
    have hquiet : op.quiet = true ∧ op.resumes = false := by
      rcases hop with rfl | rfl | rfl <;> exact ⟨rfl, rfl⟩
    exact hc.perform op hquiet.1 hquiet.2
  | held _ op hop =>
    have hquiet : op.quiet = true ∧ op.resumes = false := by
      rcases hop with rfl | rfl <;> exact ⟨rfl, rfl⟩
    exact hc.perform op hquiet.1 hquiet.2
  | reconnected _ _ _ haction =>
    rw [hundisturbed.1] at haction
    cases haction

theorem step_shuns (h : d.Step move d') (hd : d.Disciplined) (hundisturbed : Undisturbed name move)
    (hunwanted : d.Unwanted name move) (hspared : LinkControl.Spared name d.control)
    (hshuns : d.control.manager.Shuns name) :
    d'.control.manager.Shuns name := by
  cases hresumes : move.resumes with
  | true =>
    cases move with
    | command operation work current nowMs =>
      cases h
      exact command_shuns work current nowMs hundisturbed hshuns
    | _ => cases hresumes
  | false =>
    have hhub := (step_stepped h).hub
    generalize d'.control.manager = m' at hhub ⊢
    cases hhub with
    | quiet h =>
      refine h.invariant (I := fun m => m.Shuns name) (fun m op hop hop' hm => ?_) hshuns
      rw [hresumes] at hop'
      exact hm.perform op hop (eq_false_iff.mpr fun hop => false_ne_true (hop' hop))
    | accepted => exact hshuns.publish _ _ _ fun _ => rfl
    | connected dial _ _ nowMs clock activity hdial _ _ _ hout hadmissible =>
      refine hout.shuns hshuns fun hpublish hname => ?_
      obtain ⟨token, htoken⟩ := ne_none_iff_exists'.mp (hundisturbed hname)
      obtain ⟨s, hs, hcurrent⟩ :=
        (Option.any_eq_true ..).mp ((hadmissible hpublish).reserved token htoken)
      obtain ⟨haction, hremote⟩ := hd.dials dial hdial token htoken
      have hdisciplined := recheckCalendar_keeps dial nowMs clock activity
        (fun _ tick owns hs => LinkScheduler.tick_disciplined hs tick owns) hd.routes s hs
      obtain ⟨r, hr, hspec, hawake⟩ := LinkScheduler.current_wanted hdisciplined hcurrent haction
      exact hawake
        (recheckCalendar_spared hd hunwanted hspared s hs r hr (by rw [hspec, hremote, hname]))
    | retried _ _ _ _ _ _ hout => exact hout.shuns hshuns
    | called => exact ⟨hshuns.peers, hshuns.retries⟩

omit [ScheduleProvider] in
/-- A rejection leaves the hub with nothing to dial, if no retry was due beside the peer. -/
theorem rejected_shuns {routes : List Link.Route} {replyEnded : Bool}
    (hdetach : (peerText name (some (.topology routes)) replyEnded c).1
      = .ok (.detach [name])) (hnames : (c.manager.peers.map (·.name)).Nodup)
    (hretries : ∀ r ∈ c.manager.retries, r.name = name → r.paused = true) :
    (peerText name (some (.topology routes)) replyEnded c).2.manager.Shuns name := by
  unfold peerText at hdetach ⊢
  split at hdetach
  · cases hdetach
  split at hdetach
  · cases hdetach
  rename_i hadmitting hlive
  rw [if_neg hadmitting, if_neg hlive]
  dsimp only at hdetach ⊢
  cases hupdate : c.manager.updateTopology name (some (.topology routes)) with
  | mk result m =>
    have hm : m = c.manager.perform (.updateTopology name (some (.topology routes))) :=
      (congrArg Prod.snd hupdate).symm
    rw [hupdate] at hdetach
    cases result with
    | error e => cases hdetach
    | ok looped =>
      cases looped with
      | false => cases hdetach
      | true =>
        have hdistinct : (m.peers.map (·.name)).Nodup :=
          hm ▸ hnames.sublist (perform_peerNames _ rfl c.manager)
        refine LinkManager.Shuns.perform ?_ (.endPeer name) rfl rfl
        refine ⟨rejectLoop_temporary hdistinct, fun r' hr' hname => ?_⟩
        have hsame : (m.rejectLoop name).retries = m.retries := by
          unfold rejectLoop endPeer
          split <;> rfl
        rw [hsame, hm] at hr'
        obtain ⟨r, hr, hremains⟩ := (updateTopology_trimmed name c.manager _).retries.mem hr'
        exact hremains.paused rfl (hretries r hr (hremains.name.symm.trans hname))

/-- What holds of a peer that is left alone. -/
structure LeftAlone (name : String) (d : LinkDesk) : Prop where
  disciplined : d.Disciplined
  shuns : d.control.manager.Shuns name
  spared : LinkControl.Spared name d.control

/-- **A rejected peer is not dialled again, as long as no tick wants a route to it.** Its routes are
at rest when it is rejected, and no retry of it is due. -/
theorem rejected_not_redialled {d₁ d₂ : LinkDesk} {moves : List LinkMove}
    {routes : List Link.Route} {replyEnded : Bool} (h : Reachable Initial Step d)
    (hreject : d.Step (.peerText name (some (.topology routes)) replyEnded) d₁)
    (hdetach : (LinkControl.peerText name (some (.topology routes)) replyEnded d.control).1
      = .ok (.detach [name])) (hspared : LinkControl.Spared name d.control)
    (hretries : ∀ r ∈ d.control.manager.retries, r.name = name → r.paused = true)
    (hrun : Run (Guarded Step fun d move => Undisturbed name move ∧ d.Unwanted name move)
      d₁ moves d₂) :
    (∀ work current dial, (d₂.control.nextScheduled work current).1 = some (.connect dial) →
      dial.remote ≠ name) ∧ ∀ nowMs work current retry,
        (LinkControl.takeRetry nowMs work current d₂.control).1 = some retry →
          retry.attempt.name ≠ name := by
  have hnames : (d.control.manager.peers.map (·.name)).Nodup := by
    refine h.invariant (P := fun d => (d.control.manager.peers.map (·.name)).Nodup)
      (fun d hd => ?_) fun _ _ _ hd hstep => step_peerNames hstep hd
    obtain ⟨localNode, policy, candidate, s, control, -, hnew, rfl⟩ := hd
    rw [LinkControl.new_eq hnew]
    exact nodup_nil
  have hdisciplined : d.Disciplined :=
    h.invariant (P := Disciplined) (fun _ => Initial.disciplined)
      fun _ _ _ hd hstep => step_disciplined hstep hd
  have hstart : LeftAlone name d₁ := by
    refine ⟨step_disciplined hreject hdisciplined, ?_,
      step_spared hreject hdisciplined trivial nofun hspared⟩
    cases hreject
    exact rejected_shuns hdetach hnames hretries
  obtain ⟨-, hshuns, hend⟩ := hrun.invariant (P := LeftAlone name) (fun d move d' hd hstep =>
    ⟨step_disciplined hstep.2 hd.disciplined,
      step_shuns hstep.2 hd.disciplined hstep.1.1 hstep.1.2 hd.spared hd.shuns,
      step_spared hstep.2 hd.disciplined hstep.1.1 hstep.1.2 hd.spared⟩) hstart
  refine ⟨fun work current dial hdial hname => ?_, fun nowMs work current retry hretry => ?_⟩
  · have hout := LinkControl.nextScheduled_outcome d₂.control work current
    generalize d₂.control.nextScheduled work current = out at hout hdial
    obtain ⟨effect, c'⟩ := out
    cases hout with
    | idle => cases hdial
    | detach => cases hdial
    | dial s s' token hs hnext haction =>
      cases hdial
      obtain ⟨r, hr, hspec, hawake⟩ := LinkScheduler.nextOperation_wanted hnext haction
      refine hawake (hend s hs r hr ?_)
      rw [hspec]
      exact hname
  · unfold LinkControl.takeRetry at hretry
    split at hretry
    · cases hretry
    · obtain ⟨attempt, hattempt, rfl⟩ := map_eq_some_iff.mp hretry
      exact hshuns.takeRetry hattempt

instance (r : Route) : Decidable r.AtRest := inferInstanceAs (Decidable (_ ∨ _))

instance (c : LinkControl) : Decidable (LinkControl.Spared name c) :=
  inferInstanceAs (Decidable (∀ s ∈ c.schedule, ∀ r ∈ s.routes, _ → _))

instance : DecidablePred (Undisturbed name) := fun move => by
  apply move.casesOn (motive := fun m => Decidable (Undisturbed name m)) <;> intros <;>
    dsimp only [Undisturbed] <;> infer_instance

instance (d : LinkDesk) : DecidablePred (d.Unwanted name) := fun move =>
  inferInstanceAs (Decidable (∀ tick ∈ d.tickOf move, ∀ s ∈ d.control.schedule,
    ∀ p ∈ s.routes.zipIdx, _ → _))

omit [ScheduleProvider]

/-- A node with configured routes that admits everyone. -/
def routedDesk (routes : List RouteSpec) (windows : List ReplacementSpec) : Option LinkDesk :=
  (@schedule RouteDesk.evening (some ⟨1, routes, windows, none⟩)).bind fun s =>
    (NodeLinkControl.new "1000" (fun _ _ => true) s).toOption.map fun control => { control }

theorem routedDesk_initial {routes : List RouteSpec} {windows : List ReplacementSpec} {d : LinkDesk}
    (h : routedDesk routes windows = some d) : @Initial RouteDesk.evening d := by
  obtain ⟨s, hs, hdesk⟩ := bind_eq_some_iff.mp h
  obtain ⟨control, hcontrol, rfl⟩ := map_eq_some_iff.mp hdesk
  exact ⟨"1000", fun _ _ => true, _, s, control, hs, ok_of_toOption hcontrol, rfl⟩

/-- A permanent route outside any group, and one that replaces it in the evening. -/
def plainRoutes : List RouteSpec :=
  [⟨"1000", "2000", true, none, none, none⟩, ⟨"1000", "4000", false, none, none, none⟩]

/-- The dial of the permanent route. -/
def plainDial : ConnectAttempt :=
  ⟨"2000", .transceive, true, none, 1,
    some ⟨1, 0, 1, ⟨"1000", "2000", true, none, none, none⟩, .attach⟩⟩

def hourTick (hour : Nat) : LinkMove :=
  .tick ⟨⟨2026, 1, 1, .thursday, hour, 0⟩, 0, 0, fun _ => none, fun _ => false, false⟩

/-- Node 2000 is attached for its route, and node 3000 calls in. -/
def attachedMoves : List LinkMove :=
  [.nextScheduled 1 true,
    .finishConnect plainDial true true 0 (some (⟨2026, 1, 1, .thursday, 12, 0⟩, 0)) fun _ => none,
    .accept "3000" true]

/-- Node 2000 advertises a path to node 3000. -/
def loopText : LinkMove := .peerText "2000" (some (.topology [⟨'T', "3000"⟩])) false

/-- What is known of the desk just before the rejection. -/
structure LoopReady (d : LinkDesk) : Prop where
  spared : LinkControl.Spared "2000" d.control
  peers : (d.control.manager.peers.map fun p => (p.name, p.permanent, p.group))
    = [("2000", true, none), ("3000", false, none)]
  retries : d.control.manager.retries = []
  detach : (LinkControl.peerText "2000" (some (.topology [⟨'T', "3000"⟩])) false d.control).1
    = .ok (.detach ["2000"])

/-- A run to the rejection of node 2000, and the moves `after` it. -/
theorem attached_rejected (windows : List ReplacementSpec) (after : LinkDesk → Option LinkDesk)
    (p : LinkDesk → Bool) (h : ((routedDesk plainRoutes windows).bind fun d =>
      attachedMoves.foldlM (@step RouteDesk.evening) d).any (fun d =>
        (decide (LinkControl.Spared "2000" d.control)
          && (d.control.manager.peers.map fun p => (p.name, p.permanent, p.group))
            == [("2000", true, none), ("3000", false, none)])
        && (d.control.manager.retries.isEmpty && (peerText "2000"
          (some (.topology [⟨'T', "3000"⟩])) false d.control).1.toOption == some (.detach ["2000"]))
        && ((@step RouteDesk.evening d loopText).bind after).any p) = true) :
    ∃ d d₁ d₂, Reachable (@Initial RouteDesk.evening) (@Step RouteDesk.evening) d ∧ LoopReady d
      ∧ @Step RouteDesk.evening d loopText d₁ ∧ after d₁ = some d₂ ∧ p d₂ = true := by
  obtain ⟨d, hd, hfacts⟩ := (Option.any_eq_true _ _).mp h
  obtain ⟨d₀, hd₀, hrun⟩ := bind_eq_some_iff.mp hd
  simp only [and_eq_true, decide_eq_true_eq, beq_iff_eq, List.isEmpty_iff] at hfacts
  obtain ⟨⟨⟨hspared, hpeers⟩, hretries, hdetach⟩, hafter⟩ := hfacts
  obtain ⟨d₂, hd₂, hp⟩ := (Option.any_eq_true _ _).mp hafter
  obtain ⟨d₁, hd₁, hafter⟩ := bind_eq_some_iff.mp hd₂
  exact ⟨d, d₁, d₂, (Reachable.init (routedDesk_initial hd₀)).run (Run.foldlM hrun),
    ⟨hspared, hpeers, hretries, ok_of_toOption hdetach⟩, hd₁, hafter, hp⟩

/-- The peer of the permanent route is rejected and reclaimed; one tick later, with the same
topology, its route is reserved and dialled again. -/
theorem rejected_redialled : ∃ (_ : ScheduleProvider) (d d₁ d₂ : LinkDesk) (dial : ConnectAttempt),
      Reachable Initial Step d ∧ LinkControl.Spared "2000" d.control
      ∧ (d.control.manager.peers.map fun p => (p.name, p.permanent, p.group))
        = [("2000", true, none), ("3000", false, none)]
      ∧ d.control.manager.retries = [] ∧ d.Step loopText d₁
      ∧ (LinkControl.peerText "2000" (some (.topology [⟨'T', "3000"⟩])) false d.control).1
        = .ok (.detach ["2000"])
      ∧ Run (Guarded Step fun _ move => Undisturbed "2000" move) d₁
        [.reclaimed "2000" 0, hourTick 12] d₂
      ∧ (d₂.control.nextScheduled 1 true).1 = some (.connect dial) ∧ dial.remote = "2000" := by
  obtain ⟨d, d₁, d₂, hreach, hready, hd₁, hd₂, hlast⟩ := attached_rejected []
    (fun d₁ => ([.reclaimed "2000" 0, hourTick 12] : List LinkMove).foldlM (fun d move =>
      if Undisturbed "2000" move then @step RouteDesk.evening d move else none) d₁)
    (fun d₂ => (d₂.control.nextScheduled 1 true).1.any fun effect =>
      effect.dials.map (·.remote) == ["2000"]) (by decide +kernel)
  obtain ⟨effect, heffect, hdials⟩ := (Option.any_eq_true _ _).mp hlast
  cases effect with
  | connect dial =>
    refine ⟨RouteDesk.evening, d, d₁, d₂, dial, hreach, hready.spared, hready.peers,
      hready.retries, hd₁, hready.detach, Run.foldlM_guarded hd₂, heffect, ?_⟩
    exact (List.cons.inj (eq_of_beq hdials)).1
  | detach | none => cases hdials

/-- In the evening the route of the rejected peer is replaced. -/
theorem rejected_not_redialled_evening :
    ∃ (_ : ScheduleProvider) (d d₁ d₂ : LinkDesk), Reachable Initial Step d
      ∧ (d.control.manager.peers.map fun p => (p.name, p.permanent, p.group))
        = [("2000", true, none), ("3000", false, none)]
      ∧ d.Step loopText d₁
      ∧ Run (Guarded Step fun d move => Undisturbed "2000" move ∧ d.Unwanted "2000" move) d₁
        [.reclaimed "2000" 0, hourTick 20] d₂
      ∧ ∀ work current dial, (d₂.control.nextScheduled work current).1 = some (.connect dial) →
        dial.remote ≠ "2000" := by
  obtain ⟨d, d₁, d₂, hreach, hready, hd₁, hd₂, -⟩ := attached_rejected [RouteDesk.netWindow]
    (fun d₁ => ([.reclaimed "2000" 0, hourTick 20] : List LinkMove).foldlM (fun d move =>
      if Undisturbed "2000" move ∧ @Unwanted RouteDesk.evening "2000" d move then
        @step RouteDesk.evening d move else none) d₁)
    (fun _ => true) (by decide +kernel)
  have hretries : ∀ r ∈ d.control.manager.retries, r.name = "2000" → r.paused = true := by
    rw [hready.retries]
    exact forall_mem_nil _
  have hafter := Run.foldlM_guarded hd₂
  exact ⟨RouteDesk.evening, d, d₁, d₂, hreach, hready.peers, hd₁, hafter,
    (@rejected_not_redialled RouteDesk.evening _ _ _ _ _ _ _ hreach hd₁ hready.detach hready.spared
      hretries hafter).1⟩

end LinkDesk

end RptAdvanced.Runtime
