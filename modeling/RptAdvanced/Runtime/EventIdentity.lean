import RptAdvanced.Runtime.Occurrences

/-!
# Event identity across a reload (`EventScheduler::new`)

Identity is documented as the owning node, the section label and the trigger. The candidate looks an
event up by its whole specification, which also says whether the event plays media: an event that
gains or loses its message is a new one, and what it had completed is due again.

`Keeps e e'` says that `e'` has the fired state of `e`: the key that counts as completed, and every
captured occurrence whose message was not admitted.

Results:
* `specsValid_reachable`: an event's node and label name it.
* `reload_keeps_iff`: a reload keeps the fired state of an event exactly when it still plays media,
  or does not again, or has nothing to keep; and no reservation of it was superseded.
* `added_message_refires`: a message added after the event has fired makes it fire again.
-/

namespace RptAdvanced.Runtime

open Lib Schedule List Option EventScheduler

/-! ## Fired state -/

namespace EventSpec

/-- The documented identity: the owning node, the section label and the trigger. -/
def identity (spec : EventSpec) : String × String × EventTrigger :=
  (spec.localNode, spec.name, spec.trigger)

/-- The label of an event on its node. -/
def label (spec : EventSpec) : String × String := (spec.localNode, spec.name)

theorem label_of_identity {a b : EventSpec} (h : a.identity = b.identity) : a.label = b.label := by
  obtain ⟨hnode, hrest⟩ := Prod.mk.inj h
  exact Prod.ext hnode (Prod.mk.inj hrest).1

/-- What the specification carries beyond the identity. -/
theorem eq_iff_identity {a b : EventSpec} :
    a = b ↔ a.identity = b.identity ∧ a.media = b.media := by
  constructor
  · rintro rfl
    exact ⟨rfl, rfl⟩
  · rintro ⟨hidentity, hmedia⟩
    obtain ⟨hnode, hrest⟩ := Prod.mk.inj hidentity
    obtain ⟨hname, htrigger⟩ := Prod.mk.inj hrest
    cases b
    cases hnode
    cases hname
    cases htrigger
    cases hmedia
    rfl

end EventSpec

namespace EventState

/-- The key that counts as completed: an admitted reservation's, or else the completed one. -/
def settledKey (e : EventState) : Option Nat :=
  if e.messageQueued then (e.pending.map (·.key)).or e.completed else e.completed

/-- The occurrence is captured and its message was not admitted. -/
def Unadmitted (e : EventState) (o : Occurrence) : Prop :=
  o ∈ e.ready ∨ o ∈ e.pending ∧ e.messageQueued = false

/-- There is no fired state. -/
def Unfired (e : EventState) : Prop := e.settledKey = none ∧ ∀ o, ¬e.Unadmitted o

/-- A newer occurrence was captured beside a reservation that is not admitted. -/
def Superseded (e : EventState) : Prop :=
  ∃ p r, e.pending = some p ∧ e.ready = some r ∧ e.messageQueued = false ∧ p ≠ r

/-- **The fired state of `e` is that of `e'`**: the completed key, which is not eligible, and the
occurrences that were not admitted. -/
structure Keeps (e e' : EventState) : Prop where
  settled : e'.settledKey = e.settledKey
  ineligible : ∀ key, e.settledKey = some key → e'.isNew key = false
  unadmitted : ∀ o, e'.Unadmitted o ↔ e.Unadmitted o

variable {e : EventState}

/-- A completed key is not eligible. -/
theorem isNew_completed {key : Nat} (h : e.completed = some key) : e.isNew key = false := by
  unfold isNew
  split
  · refine Bool.eq_false_iff.mpr fun hall => ?_
    have hlt := (newest_lt_iff.mp hall).1 key h
    exact Nat.lt_irrefl key hlt
  · rw [h]
    exact decide_eq_false fun hne => hne rfl

theorem unadmitted_inherit {o : Occurrence} :
    e.inherit.Unadmitted o ↔ o ∈ e.ready.or (if e.messageQueued then none else e.pending) := by
  constructor
  · rintro (hready | ⟨hpending, -⟩)
    · exact hready
    · cases hpending
  · exact .inl

/-- The candidate's state of an unchanged event keeps all but a superseded reservation. -/
theorem keeps_inherit_iff : e.Keeps e.inherit ↔ ¬e.Superseded := by
  constructor
  · rintro hkeeps ⟨p, r, hp, hr, hqueued, hne⟩
    have hlost := (hkeeps.unadmitted p).mpr (.inr ⟨hp, hqueued⟩)
    rw [unadmitted_inherit, hr, some_or] at hlost
    cases hlost
    exact hne rfl
  · intro hsuperseded
    refine ⟨rfl, fun key hkey => isNew_completed hkey, fun o => ?_⟩
    rw [unadmitted_inherit]
    unfold Unadmitted
    cases hr : e.ready with
    | none =>
      cases hq : e.messageQueued <;> simp
    | some r =>
      refine ⟨.inl, ?_⟩
      rintro (hready | ⟨hpending, hqueued⟩)
      · exact hready
      · by_contra hne
        refine hsuperseded ⟨o, r, hpending, hr, hqueued, fun heq => hne ?_⟩
        rw [heq]
        rfl

/-- A new event keeps nothing. -/
theorem keeps_fresh_iff (spec : EventSpec) : e.Keeps { spec } ↔ e.Unfired := by
  constructor
  · intro hkeeps
    refine ⟨hkeeps.settled.symm, fun o ho => ?_⟩
    rcases (hkeeps.unadmitted o).mpr ho with hready | ⟨hpending, -⟩
    · cases hready
    · cases hpending
  · rintro ⟨hsettled, hunadmitted⟩
    refine ⟨hsettled.symm, fun key hkey => ?_, fun o => ⟨?_, fun ho => absurd ho (hunadmitted o)⟩⟩
    · rw [hsettled] at hkey
      cases hkey
    · rintro (hready | ⟨hpending, -⟩)
      · cases hready
      · cases hpending

theorem Unfired.not_superseded (h : e.Unfired) : ¬e.Superseded := by
  rintro ⟨p, r, -, hr, -⟩
  exact h.2 r (.inl hr)

end EventState

/-! ## Labels -/

namespace EventScheduler

/-- Replacing an event by one of its specification keeps the specifications. -/
theorem specs_set {events : List EventState} {index : Nat} {e e' : EventState}
    (he : events[index]? = some e) (hspec : e'.spec = e.spec) :
    (events.set index e').map (·.spec) = events.map (·.spec) := by
  rw [map_set, hspec]
  refine ext_getElem? fun i => ?_
  rw [getElem?_set]
  split
  · rename_i hindex
    subst hindex
    rw [length_map, getElem?_map, he, map_some]
    rw [if_pos (List.getElem?_eq_some_iff.mp he).1]
  · rfl

end EventScheduler

namespace EventDesk

variable [ScheduleProvider] {d d' : EventDesk} {move : EventMove}

/-- Only a reload changes the specifications. -/
theorem step_specs (h : d.Step move d') : d'.scheduler.specs = d.scheduler.specs
      ∨ specsValid d'.scheduler.specs = true := by
  cases move with
  | next capturedTime scheduledMs civil render =>
    refine .inl ?_
    cases h
    obtain ⟨events, hevents, hnext⟩ := next_events (s := d.scheduler) capturedTime
      scheduledMs civil render d.occurrences
    have hcaptured : events.map (·.spec) = d.scheduler.specs := by
      rcases hevents with rfl | rfl
      · rfl
      · exact captureAll_specs civil scheduledMs _ _
    change ((d.scheduler.next capturedTime scheduledMs civil render d.occurrences).2.1.events).map
      (·.spec) = _
    rcases hnext with hsame | ⟨index, e, e', occurrence, he, -, he', hset⟩
    · rw [hsame, hcaptured]
    have hspec : e'.spec = e.spec := by
      rcases he' with rfl | ⟨content, rfl⟩
      · rfl
      · unfold EventState.reserve
        split <;> rfl
    rw [hset, specs_set he hspec, hcaptured]
  | messageQueued dispatch =>
    refine .inl ?_
    cases h
    unfold EventScheduler.specs messageQueued
    cases hpending : d.scheduler.pending dispatch with
    | none => rfl
    | some e =>
      exact specs_set (pending_some hpending).1 rfl
  | complete dispatch =>
    refine .inl ?_
    cases h
    rcases complete_cases d.scheduler dispatch with hnone | ⟨e, hpending, hsome⟩
    · rw [hnone]
    · rw [hsome]
      exact specs_set (pending_some hpending).1 rfl
  | reload generation specs =>
    refine .inr ?_
    unfold Step step at h
    dsimp only at h
    cases hnew : new generation specs (some d.scheduler) with
    | error err =>
      rw [hnew] at h
      cases h
    | ok scheduler =>
      rw [hnew] at h
      cases h
      exact new_valid hnew
  | sound occurrences =>
    cases h
    exact .inl rfl

/-- **An event's node and label name it**, in every state of every run. -/
theorem specsValid_reachable (h : Reachable Initial Step d) :
    specsValid d.scheduler.specs = true := by
  refine h.invariant (P := fun d => specsValid d.scheduler.specs = true) ?_ ?_
  · rintro d ⟨generation, specs, s, hnew, rfl⟩
    exact new_valid hnew
  · intro d move d' hvalid hstep
    rcases step_specs hstep with hsame | hnew
    · rwa [hsame]
    · exact hnew

/-- **What a reload keeps.** An event of the candidate with the documented identity of a present one
has its fired state exactly when it plays media as before, or there is no fired state, and no
reservation of the event was superseded. -/
theorem reload_keeps_iff (h : Reachable Initial Step d) {generation : Nat} {specs : List EventSpec}
    {s : EventScheduler} (hnew : new generation specs (some d.scheduler) = .ok s)
    {e e' : EventState} (he : e ∈ d.scheduler.events) (he' : e' ∈ s.events)
    (hidentity : e'.spec.identity = e.spec.identity) :
    e.Keeps e' ↔ (e'.spec.media = e.spec.media ∨ e.Unfired) ∧ ¬e.Superseded := by
  have hvalid := specsValid_reachable h
  have hlabels := specsValid_labels hvalid
  unfold EventScheduler.specs at hlabels
  rw [List.map_map] at hlabels
  rcases EventScheduler.new_mem hnew he' with ⟨old, hold, e₁, he₁, -, rfl⟩ | ⟨hnone, hfresh⟩
  · -- the candidate's event is inherited, and its label says from which
    cases hold
    have hsame : e₁ = e := inj_on_of_nodup_map hlabels he₁ he
      (EventSpec.label_of_identity hidentity)
    subst hsame
    rw [EventState.keeps_inherit_iff]
    exact ⟨fun hsuperseded => ⟨.inl rfl, hsuperseded⟩, And.right⟩
  · -- the candidate's event is new: the present one differs in its media
    have hmedia : e'.spec.media ≠ e.spec.media := by
      intro hmedia
      have hspec := EventSpec.eq_iff_identity.mpr ⟨hidentity, hmedia⟩
      refine hnone d.scheduler rfl ?_
      rw [hspec]
      exact mem_map_of_mem he
    rw [hfresh, EventState.keeps_fresh_iff]
    refine ⟨fun hunfired => ⟨.inr hunfired, hunfired.not_superseded⟩, ?_⟩
    rintro ⟨hsame | hunfired, -⟩
    · exact absurd hsame hmedia
    · exact hunfired

omit [ScheduleProvider]

/-- The action event of 01:00, which has fired. -/
def firedEvent : EventState :=
  { spec := halfHourly false, completed := some (dispatchOf 1 1 0 none).occurrence.key }

/-- A run in which it fires, and the candidate of a reload that gives it a message or not. -/
theorem fired_reload (media : Bool) :
    ∃ (d : EventDesk) (s : EventScheduler), Reachable Initial (@Step civilMinutes) d
      ∧ new 2 [halfHourly media] (some d.scheduler) = .ok s ∧ d.scheduler.events = [firedEvent]
      ∧ s.events = [if media then { spec := halfHourly true } else firedEvent] := by
  obtain ⟨d, hreach, hpresent, hnext⟩ := exists_reachable _ (@step civilMinutes)
    [tickAt 0 1 0, .complete (dispatchOf 1 1 0 none)] (halfHourlyDesk false)
    (fun _ => halfHourlyDesk_initial) (fun d => d.scheduler.events = [firedEvent] ∧ ∀ media,
      (new 2 [halfHourly media] (some d.scheduler)).toOption.map (·.events)
        = some [if media then { spec := halfHourly true } else firedEvent]) (by decide +kernel)
  obtain ⟨s, hs, hinherited⟩ := map_eq_some_iff.mp (hnext media)
  exact ⟨d, s, hreach, ok_of_toOption hs, hpresent, hinherited⟩

/-- **A message added to an event makes it fire again**: the completed minute of 01:00 is eligible
in the candidate. -/
theorem added_message_refires :
    ∃ (_ : ScheduleProvider) (d : EventDesk) (s : EventScheduler) (e e' : EventState),
      Reachable Initial Step d ∧ new 2 [halfHourly true] (some d.scheduler) = .ok s
        ∧ e ∈ d.scheduler.events ∧ e' ∈ s.events ∧ e'.spec.identity = e.spec.identity
        ∧ e.completed = some (dispatchOf 1 1 0 none).occurrence.key
        ∧ e'.isNew (dispatchOf 1 1 0 none).occurrence.key = true ∧ ¬e.Keeps e' := by
  obtain ⟨d, s, hreach, hnew, hpresent, hcandidate⟩ := fired_reload true
  refine ⟨civilMinutes, d, s, firedEvent, { spec := halfHourly true }, hreach, hnew, ?_, ?_, rfl,
    rfl, by decide +kernel, fun hkeeps => ?_⟩
  · rw [hpresent]
    exact mem_singleton_self _
  · rw [hcandidate]
    exact mem_singleton_self _
  · cases hkeeps.settled

/-- A reload that leaves the event alone, or changes its macro, keeps its completed minute. -/
theorem reload_keeps_fired :
    ∃ (_ : ScheduleProvider) (d : EventDesk) (s : EventScheduler), Reachable Initial Step d
      ∧ new 2 [halfHourly false] (some d.scheduler) = .ok s
      ∧ d.scheduler.events = [firedEvent] ∧ s.events = [firedEvent]
      ∧ firedEvent.Keeps firedEvent := by
  obtain ⟨d, s, hreach, hnew, hpresent, hcandidate⟩ := fired_reload false
  refine ⟨civilMinutes, d, s, hreach, hnew, hpresent, hcandidate, ?_⟩
  refine (@reload_keeps_iff civilMinutes d hreach _ _ s hnew firedEvent firedEvent ?_ ?_ rfl).mpr
    ⟨.inl rfl, fun ⟨_, _, hp, _⟩ => by cases hp⟩
  · rw [hpresent]
    exact mem_singleton_self _
  · rw [hcandidate]
    exact mem_singleton_self _

end EventDesk

end RptAdvanced.Runtime
