import Mathlib.Data.List.Nodup
import RptAdvanced.Lib.Run
import RptAdvanced.Runtime.Scheduler

/-!
# Occurrences of scheduled events (`rust/core/src/runtime/scheduler.rs`)

An `EventDesk` runs a scheduler with two logs: the occurrences that `complete` settled and those
whose message was admitted, each as an event and a key. A reload that drops an event, or changes its
identity, drops its entries.

The scheduler recalls one completed key of an event. For a media event a due key counts as new if it
is greater than every key the event has seen; for an action event it only has to differ from the
last completed one. Civil minutes repeat when daylight saving ends, so an action event with several
triggers in the repeated hour fires again for each of them.

Results:
* `step_sound`: both logs stay below the event's progress.
* `fires_once`: no occurrence is completed or admitted twice, and a reload loses none, as long as
  due keys of action events do not go back and no reload meets a superseded reservation.
* `repeated_hour_fires_twice`, `superseded_reservation_lost`: what happens otherwise.
-/

namespace RptAdvanced.Runtime

open Lib List Schedule Option EventScheduler
open Controller (MessageOccurrence)

/-! ## Runs of a scheduler -/

/-- An occurrence of an event. -/
abbrev Fired := EventSpec × Nat

/-- A scheduler with the occurrences that were completed and admitted. -/
structure EventDesk where
  scheduler : EventScheduler
  occurrences : List MessageOccurrence := []
  completions : List Fired := []
  admissions : List Fired := []

/-- One call. A dispatch is any that was returned, however old, and more generally any value. -/
inductive EventMove
  | next (capturedTime scheduledMs : Int) (civil : CivilTime)
      (render : EventSpec → CivilTime → Except SchedulerError DispatchContent)
  | messageQueued (dispatch : ScheduledDispatch)
  | complete (dispatch : ScheduledDispatch)
  | reload (generation : Nat) (specs : List EventSpec)
  /-- The audio owner starts or drops a message. -/
  | sound (occurrences : List MessageOccurrence)

namespace EventDesk

variable [ScheduleProvider]

/-- A newly prepared scheduler. -/
def Initial (d : EventDesk) : Prop :=
  ∃ generation specs s, new generation specs none = .ok s ∧ d = { scheduler := s }

/-- One call. `queue_event` admits a message only if it is not queued yet. -/
def step (d : EventDesk) : EventMove → Option EventDesk
  | .next capturedTime scheduledMs civil render =>
    let (_, scheduler, occurrences) :=
      d.scheduler.next capturedTime scheduledMs civil render d.occurrences
    some { d with scheduler, occurrences }
  | .messageQueued dispatch =>
    some { d with
      scheduler := (d.scheduler.messageQueued dispatch).2
      admissions :=
        if d.scheduler.current dispatch && !d.scheduler.isMessageQueued dispatch then
          (dispatch.spec, dispatch.occurrence.key) :: d.admissions
        else d.admissions }
  | .complete dispatch =>
    some { d with
      scheduler := (d.scheduler.complete dispatch).2
      completions :=
        if (d.scheduler.complete dispatch).1 then
          (dispatch.spec, dispatch.occurrence.key) :: d.completions
        else d.completions }
  | .reload generation specs =>
    match new generation specs (some d.scheduler) with
    | .error _ => none
    | .ok scheduler => some { d with
        scheduler
        completions := d.completions.filter (·.1 ∈ specs)
        admissions := d.admissions.filter (·.1 ∈ specs) }
  | .sound occurrences => some { d with occurrences }

def Step (d : EventDesk) (move : EventMove) (d' : EventDesk) : Prop := d.step move = some d'

/-- The due key of an action event is not below the key it completed last, and no reload meets a
reservation that is not admitted beside a newer occurrence. -/
def Forward (d : EventDesk) : EventMove → Prop
  | .next _ _ civil _ => ∀ e ∈ d.scheduler.events, e.spec.media = false →
      ∀ key ∈ e.spec.trigger.occurrence civil, ∀ last ∈ e.completed, last ≤ key
  | .reload .. => ∀ e ∈ d.scheduler.events, e.messageQueued = false → e.pending.isSome = true →
      e.ready = none
  | _ => True

end EventDesk

/-! ## An event's progress bounds its logs -/

namespace EventState

/-- The event's progress: reservations are newer than what is completed, and what was completed or
admitted is not newer. -/
structure Bounded (completions admissions : List Fired) (e : EventState) : Prop where
  pending : ∀ p ∈ e.pending, ∀ last ∈ e.completed, last < p.key
  ready : ∀ r ∈ e.ready, ∀ last ∈ e.completed, last < r.key
  superseded : ∀ r ∈ e.ready, ∀ p ∈ e.pending, p.key < r.key
  queued : e.messageQueued = true → e.pending.isSome = true
  completions : ∀ key, (e.spec, key) ∈ completions → ∃ last ∈ e.completed, key ≤ last
  admissions : ∀ key, (e.spec, key) ∈ admissions →
    (∃ last ∈ e.completed, key ≤ last) ∨ e.messageQueued = true ∧ ∃ p ∈ e.pending, p.key = key

variable {completions admissions : List Fired} {e : EventState}

theorem Bounded.congr {completions' admissions' : List Fired} (h : e.Bounded completions admissions)
    (hcompletions : ∀ key, (e.spec, key) ∈ completions' → (e.spec, key) ∈ completions)
    (hadmissions : ∀ key, (e.spec, key) ∈ admissions' → (e.spec, key) ∈ admissions) :
    e.Bounded completions' admissions' :=
  { h with
    completions := fun key hkey => h.completions key (hcompletions key hkey)
    admissions := fun key hkey => h.admissions key (hadmissions key hkey) }

variable {key : Nat} {civil : CivilTime} {occurrence : Occurrence}

/-- A key is newer than all the event has seen. -/
theorem newest_lt_iff : (e.newest.all fun seen => decide (seen < key)) = true
    ↔ (∀ last ∈ e.completed, last < key) ∧ (∀ p ∈ e.pending, p.key < key)
      ∧ ∀ r ∈ e.ready, r.key < key := by
  have hseen : (e.newest.all fun seen => decide (seen < key)) = true
      ↔ ∀ seen ∈ e.completed.toList ++ (e.pending.map (·.key)).toList
        ++ (e.ready.map (·.key)).toList, seen < key := by
    unfold newest
    generalize e.completed.toList ++ (e.pending.map (·.key)).toList
      ++ (e.ready.map (·.key)).toList = keys
    cases hmax : keys.max? with
    | none => simp [max?_eq_none_iff.mp hmax]
    | some greatest =>
      rw [all_some, decide_eq_true_iff]
      constructor
      · intro hlt seen hmem
        exact lt_of_le_of_lt ((max?_le_iff hmax).mp (le_refl _) seen hmem) hlt
      · intro hlt
        exact hlt greatest (max?_mem hmax)
  rw [hseen]
  simp only [forall_mem_append, mem_toList, mem_def, map_eq_some_iff,
    forall_exists_index, and_imp, forall_apply_eq_imp_iff₂, and_assoc]

@[simp] theorem capture_spec [ScheduleProvider] (civil : CivilTime) (scheduledMs : Int)
    (occurrences : List MessageOccurrence) :
    (e.capture civil scheduledMs occurrences).1.spec = e.spec := by
  unfold capture
  repeat' split
  all_goals rfl

/-- The state after a capture: the same, or the due key is new and ready. -/
theorem capture_cases [ScheduleProvider] (civil : CivilTime) (scheduledMs : Int)
    (occurrences : List MessageOccurrence) : (e.capture civil scheduledMs occurrences).1 = e
      ∨ ∃ key media, e.spec.trigger.occurrence civil = some key ∧ e.isNew key = true
        ∧ (e.spec.media = false → e.pending = none ∧ e.ready = none)
        ∧ (e.capture civil scheduledMs occurrences).1
          = { e with ready := some ⟨key, civil, scheduledMs, media⟩ } := by
  unfold capture
  split
  · exact .inl rfl
  rename_i hfree
  split
  · exact .inl rfl
  rename_i key hkey
  have hidle : e.spec.media = false → e.pending = none ∧ e.ready = none := by
    intro hmedia
    simpa [hmedia] using hfree
  cases hnew : e.isNew key with
  | false => exact .inl rfl
  | true =>
    refine .inr ?_
    by_cases hmedia : e.spec.media = true
    · exact ⟨key, _, hkey, hnew, hidle, by rw [if_neg (by simp), if_pos hmedia]⟩
    · exact ⟨key, _, hkey, hnew, hidle, by rw [if_neg (by simp), if_neg hmedia]⟩

section

variable (h : e.Bounded completions admissions)
include h

theorem Bounded.capture [ScheduleProvider]
    (hforward : e.spec.media = false → ∀ key ∈ e.spec.trigger.occurrence civil,
      ∀ last ∈ e.completed, last ≤ key) (scheduledMs : Int) (occurrences : List MessageOccurrence) :
    (e.capture civil scheduledMs occurrences).1.Bounded completions admissions := by
  rcases e.capture_cases civil scheduledMs occurrences with
    hsame | ⟨key, media, hkey, hnew, hidle, he⟩
  · rwa [hsame]
  rw [he]
  have hgreater : (∀ last ∈ e.completed, last < key) ∧ ∀ p ∈ e.pending, p.key < key := by
    unfold isNew at hnew
    cases hmedia : e.spec.media with
    | true =>
      rw [hmedia, if_pos rfl] at hnew
      exact ⟨(newest_lt_iff.mp hnew).1, (newest_lt_iff.mp hnew).2.1⟩
    | false =>
      rw [hmedia, if_neg Bool.false_ne_true, decide_eq_true_iff] at hnew
      refine ⟨fun last hlast => ?_, fun p hp => ?_⟩
      · refine lt_of_le_of_ne (hforward hmedia key hkey last hlast) ?_
        rintro rfl
        exact hnew hlast
      · rw [(hidle hmedia).1] at hp
        cases hp
  refine { h with ready := ?_, superseded := ?_ }
  · rintro r ⟨⟩
    exact hgreater.1
  · rintro r ⟨⟩
    exact hgreater.2

section

variable (hcurrent : e.current = some occurrence)
include hcurrent

theorem Bounded.reserve (content : DispatchContent) :
    (e.reserve occurrence content).Bounded completions admissions := by
  by_cases hfree : e.pending.isNone = true
  · have hpending : e.pending = none := isNone_iff_eq_none.mp hfree
    have hready : e.ready = some occurrence := by
      rwa [current, hpending, none_or] at hcurrent
    have hunqueued : e.messageQueued = false := by
      refine Bool.eq_false_iff.mpr fun hqueued => ?_
      have hsome := h.queued hqueued
      rw [hpending] at hsome
      cases hsome
    simp only [EventState.reserve, if_pos hfree]
    refine ⟨?_, nofun, nofun, nofun, h.completions, fun key hkey => ?_⟩
    · rintro p ⟨⟩
      exact h.ready occurrence hready
    · rcases h.admissions key hkey with hold | ⟨hqueued, -⟩
      · exact .inl hold
      · rw [hunqueued] at hqueued
        cases hqueued
  · simp only [EventState.reserve, if_neg hfree]
    exact { h with }

/-- The event's current occurrence is newer than what is completed. -/
theorem Bounded.current_lt : ∀ last ∈ e.completed, last < occurrence.key := by
  rcases or_eq_some_iff.mp hcurrent with hpending | ⟨-, hready⟩
  · exact h.pending occurrence hpending
  · exact h.ready occurrence hready

/-- An occurrence is completed: earlier ones stay below it. -/
theorem Bounded.below : (∀ key, (e.spec, key) ∈ completions → key ≤ occurrence.key)
      ∧ ∀ key, (e.spec, key) ∈ admissions → key ≤ occurrence.key := by
  have hlt := h.current_lt hcurrent
  refine ⟨fun key hkey => ?_, fun key hkey => ?_⟩
  · obtain ⟨last, hlast, hle⟩ := h.completions key hkey
    exact hle.trans (hlt last hlast).le
  · rcases h.admissions key hkey with ⟨last, hlast, hle⟩ | ⟨-, p, hp, rfl⟩
    · exact hle.trans (hlt last hlast).le
    rw [current, mem_def.mp hp, some_or] at hcurrent
    cases hcurrent
    exact le_refl _

theorem Bounded.dropUnrendered : (e.dropUnrendered occurrence).Bounded completions admissions := by
  obtain ⟨hcompletions, hadmissions⟩ := h.below hcurrent
  refine ⟨nofun, ?_, nofun, nofun, fun key hkey => ⟨_, rfl, hcompletions key hkey⟩,
    fun key hkey => .inl ⟨_, rfl, hadmissions key hkey⟩⟩
  rintro r hr last ⟨⟩
  unfold EventState.dropUnrendered at hr
  split at hr
  · cases hr
  rename_i hother
  rcases or_eq_some_iff.mp hcurrent with hpending | ⟨-, hready⟩
  · exact h.superseded r hr occurrence hpending
  · exact absurd (by simp [hready]) hother

end

variable {dispatch : ScheduledDispatch}

theorem Bounded.queuedMessage
    {p : Occurrence} (hpending : e.pending = some p) (hkey : p.key = dispatch.occurrence.key)
    {admissions' : List Fired} (hadmissions : ∀ key, (e.spec, key) ∈ admissions' →
      (e.spec, key) ∈ admissions ∨ key = dispatch.occurrence.key) :
    (e.queued dispatch).Bounded completions admissions' := by
  refine ⟨h.pending, h.ready, h.superseded, fun _ => by simp [EventState.queued, hpending],
    h.completions, fun key hmem => ?_⟩
  rcases hadmissions key hmem with hold | rfl
  · rcases h.admissions key hold with hbelow | ⟨-, p', hp', hkey'⟩
    · exact .inl hbelow
    · exact .inr ⟨rfl, p', hp', hkey'⟩
  · exact .inr ⟨rfl, p, hpending, hkey⟩

theorem Bounded.settle
    {p : Occurrence} (hpending : e.pending = some p) (hkey : p.key = dispatch.occurrence.key)
    {completions' : List Fired} (hcompletions : ∀ key, (e.spec, key) ∈ completions' →
      (e.spec, key) ∈ completions ∨ key = dispatch.occurrence.key) :
    (e.settle dispatch).Bounded completions' admissions := by
  have hcurrent : e.current = some p := by rw [current, hpending, some_or]
  obtain ⟨hbelow, hadmissions⟩ := h.below hcurrent
  rw [hkey] at hbelow hadmissions
  refine ⟨nofun, ?_, nofun, nofun, fun key hmem => ⟨_, rfl, ?_⟩,
    fun key hmem => .inl ⟨_, rfl, hadmissions key hmem⟩⟩
  · rintro r hr last ⟨⟩
    rw [← hkey]
    exact h.superseded r hr p hpending
  · rcases hcompletions key hmem with hold | rfl
    · exact hbelow key hold
    · exact le_refl _

/-- A reload keeps the progress. -/
theorem Bounded.inherit : e.inherit.Bounded completions admissions := by
  cases hqueued : e.messageQueued with
  | false =>
    refine ⟨nofun, ?_, nofun, nofun, ?_, ?_⟩
    · intro r hr
      simp only [EventState.inherit, hqueued, Bool.false_eq_true, if_false] at hr ⊢
      rcases or_eq_some_iff.mp hr with hready | ⟨-, hpending⟩
      · exact h.ready r hready
      · exact h.pending r hpending
    · simpa only [EventState.inherit, hqueued, Bool.false_eq_true, if_false] using h.completions
    · intro key hkey
      rcases h.admissions key hkey with hold | ⟨hqueued', -⟩
      · refine .inl ?_
        simpa only [EventState.inherit, hqueued, Bool.false_eq_true, if_false] using hold
      · rw [hqueued] at hqueued'
        cases hqueued'
  | true =>
    obtain ⟨p, hpending⟩ := isSome_iff_exists.mp (h.queued hqueued)
    have hcurrent : e.current = some p := by rw [current, hpending, some_or]
    have hcompleted : e.inherit.completed = some p.key := by
      simp [EventState.inherit, hqueued, hpending]
    obtain ⟨hbelow, hadmissions⟩ := h.below hcurrent
    refine ⟨nofun, ?_, nofun, nofun, fun key hkey => ⟨p.key, hcompleted, hbelow key hkey⟩,
      fun key hkey => .inl ⟨p.key, hcompleted, hadmissions key hkey⟩⟩
    intro r hr last hlast
    rw [hcompleted] at hlast
    cases hlast
    simp only [EventState.inherit, hqueued, if_true, or_none] at hr
    exact h.superseded r hr p hpending

end

/-- Whether a tick at `civil` captures `key`. -/
def Takes (civil : CivilTime) (key : Nat) [ScheduleProvider] (e : EventState) : Prop :=
  e.spec.trigger.occurrence civil = some key ∧ e.isNew key = true
    ∧ (e.spec.media = false → e.pending = none ∧ e.ready = none)

theorem Takes.capture [ScheduleProvider] (h : e.Takes civil key)
    (scheduledMs : Int) (occurrences : List MessageOccurrence) :
    (e.capture civil scheduledMs occurrences).1.ready.map (·.key) = some key := by
  obtain ⟨hkey, hnew, hidle⟩ := h
  have hfree : ¬((!e.spec.media && (e.pending.isSome || e.ready.isSome)) = true) := by
    cases hmedia : e.spec.media with
    | true => simp
    | false => simp [hidle hmedia]
  unfold EventState.capture
  rw [if_neg hfree, hkey]
  dsimp only
  rw [hnew, if_neg (by simp)]
  split <;> rfl

/-- What a tick captures, it captures after a reload too. -/
theorem Takes.inherit [ScheduleProvider] (h : e.Takes civil key) : e.inherit.Takes civil key := by
  obtain ⟨hkey, hnew, hidle⟩ := h
  refine ⟨hkey, ?_, fun hmedia => ⟨rfl, ?_⟩⟩
  · have hspec : e.inherit.spec = e.spec := rfl
    unfold isNew at hnew ⊢
    rw [hspec]
    cases hmedia : e.spec.media with
    | true =>
      rw [hmedia, if_pos rfl] at hnew
      obtain ⟨hcompleted, hpending, hready⟩ := newest_lt_iff.mp hnew
      rw [if_pos rfl, newest_lt_iff]
      refine ⟨fun last hlast => ?_, nofun, fun r hr => ?_⟩
      · simp only [EventState.inherit] at hlast
        split at hlast
        · rcases or_eq_some_iff.mp hlast with hlast | ⟨-, hlast⟩
          · obtain ⟨p, hp, rfl⟩ := map_eq_some_iff.mp hlast
            exact hpending p hp
          · exact hcompleted last hlast
        · exact hcompleted last hlast
      · rcases or_eq_some_iff.mp hr with hr | ⟨-, hr⟩
        · exact hready r hr
        split at hr
        · cases hr
        · exact hpending r hr
    | false =>
      rw [hmedia, if_neg Bool.false_ne_true] at hnew
      simpa [EventState.inherit, (hidle hmedia).1] using hnew
  · simp [EventState.inherit, hidle hmedia]

end EventState

namespace EventScheduler

variable {s s' : EventScheduler}

variable {specs : List EventSpec} {generation : Nat} {previous : Option EventScheduler}

/-- Every label is used once. -/
theorem specsValid_labels (h : specsValid specs = true) :
    (specs.map fun spec => (spec.localNode, spec.name)).Nodup := by
  induction specs with
  | nil => exact nodup_nil
  | cons spec specs ih =>
    simp only [specsValid, Bool.and_eq_true, List.all_eq_true, Bool.not_eq_true'] at h
    refine nodup_cons.mpr ⟨fun hmem => ?_, ih h.2⟩
    obtain ⟨other, hother, hlabel⟩ := mem_map.mp hmem
    have hdistinct := h.1.2 other hother
    obtain ⟨hnode, hname⟩ := Prod.mk.inj hlabel
    simp [hnode, hname] at hdistinct

theorem new_ok (h : new generation specs previous = .ok s) :
    specsValid specs = true ∧ s.events = specs.map fun spec =>
      match prior previous spec with
      | some old => old.inherit
      | none => { spec } := by
  unfold new at h
  split at h
  · cases h
  rename_i hvalid
  simp only [Bool.or_eq_true, not_or, Bool.not_eq_true', Bool.not_eq_false] at hvalid
  cases h
  exact ⟨hvalid.2, rfl⟩

/-- The candidate's event is inherited or new. -/
theorem new_mem
    (h : new generation specs previous = .ok s) {e' : EventState} (he' : e' ∈ s.events) :
    (∃ old ∈ previous, ∃ e ∈ old.events, e.spec ∈ specs ∧ e' = e.inherit)
      ∨ (∀ old ∈ previous, e'.spec ∉ old.specs) ∧ e' = { spec := e'.spec } := by
  rw [(new_ok h).2] at he'
  obtain ⟨spec, hspec, rfl⟩ := mem_map.mp he'
  cases hprior : prior previous spec with
  | some e =>
    obtain ⟨old, hold, hfind⟩ := bind_eq_some_iff.mp hprior
    have hsame := find?_some hfind
    rw [decide_eq_true_iff] at hsame
    exact .inl ⟨old, hold, e, mem_of_find?_eq_some hfind, hsame ▸ hspec, rfl⟩
  | none =>
    refine .inr ⟨fun old hold hmem => ?_, rfl⟩
    obtain ⟨e, he, hsame⟩ := mem_map.mp hmem
    rw [prior, mem_def.mp hold, bind_some] at hprior
    exact find?_eq_none.mp hprior e he (decide_eq_true hsame)

/-- Among distinct events, an event is the prior one of its own specification. -/
theorem prior_of_mem (hspecs : s.specs.Nodup) {e : EventState} (he : e ∈ s.events) :
    prior (some s) e.spec = some e := by
  unfold prior
  rw [bind_some]
  cases hfind : s.events.find? (·.spec = e.spec) with
  | none => exact absurd (decide_eq_true rfl) (find?_eq_none.mp hfind e he)
  | some e₁ =>
    have hsame := find?_some hfind
    rw [decide_eq_true_iff] at hsame
    rw [inj_on_of_nodup_map hspecs (mem_of_find?_eq_some hfind) he hsame]

section

variable (h : new generation specs previous = .ok s)
include h

theorem new_specs : s.specs = specs := by
  have hspec : ∀ spec ∈ specs, (match prior previous spec with
      | some old => old.inherit
      | none => { spec }).spec = spec := by
    intro spec _
    cases hprior : prior previous spec with
    | none => rfl
    | some e =>
      obtain ⟨old, -, hfind⟩ := bind_eq_some_iff.mp hprior
      have hsame := find?_some hfind
      exact of_decide_eq_true hsame
  unfold EventScheduler.specs
  rw [(new_ok h).2, List.map_map]
  exact (map_congr_left hspec).trans (map_id' specs)

theorem new_valid : specsValid s.specs = true :=
  new_specs h ▸ (new_ok h).1

theorem new_nodup : s.specs.Nodup :=
  (specsValid_labels (new_valid h)).of_map _

end

/-- The event that a dispatch still reserves. -/
theorem pending_some {dispatch : ScheduledDispatch} {e : EventState}
    (h : s.pending dispatch = some e) : s.events[dispatch.index]? = some e ∧ e.spec = dispatch.spec
      ∧ ∃ p, e.pending = some p ∧ p.key = dispatch.occurrence.key := by
  unfold pending at h
  split at h
  · cases h
  obtain ⟨hevent, hmatch⟩ := filter_eq_some_iff.mp h
  rw [Bool.and_eq_true, decide_eq_true_iff, Option.any_eq_true] at hmatch
  obtain ⟨p, hp, hkey⟩ := hmatch.2
  exact ⟨hevent, hmatch.1, p, hp, of_decide_eq_true hkey⟩

theorem complete_cases (s : EventScheduler) (dispatch : ScheduledDispatch) :
    s.complete dispatch = (false, s) ∨ ∃ e, s.pending dispatch = some e ∧ s.complete dispatch
        = (true, { s with events := s.events.set dispatch.index (e.settle dispatch) }) := by
  unfold complete
  cases s.pending dispatch with
  | none => exact .inl rfl
  | some e =>
    dsimp only
    split
    · exact .inl rfl
    · exact .inr ⟨e, rfl, rfl⟩

section Capture

variable [ScheduleProvider] {events : List EventState}

theorem captureAll_mem {civil : CivilTime} {scheduledMs : Int}
    {occurrences : List MessageOccurrence} {e' : EventState}
    (h : e' ∈ (captureAll civil scheduledMs events occurrences).1) :
    ∃ e ∈ events, ∃ occurrences', e' = (e.capture civil scheduledMs occurrences').1 := by
  induction events generalizing occurrences with
  | nil => cases h
  | cons e events ih =>
    rcases mem_cons.mp h with rfl | h
    · exact ⟨e, mem_cons_self, occurrences, rfl⟩
    · obtain ⟨e₀, he₀, hcapture⟩ := ih h
      exact ⟨e₀, mem_cons_of_mem _ he₀, hcapture⟩

theorem captureAll_specs (civil : CivilTime) (scheduledMs : Int) (events : List EventState)
    (occurrences : List MessageOccurrence) :
    (captureAll civil scheduledMs events occurrences).1.map (·.spec) = events.map (·.spec) := by
  induction events generalizing occurrences with
  | nil => rfl
  | cons e events ih =>
    rw [captureAll, map_cons, map_cons, ih, EventState.capture_spec]

omit [ScheduleProvider] in
/-- What is selected is the current occurrence of its event. -/
theorem select_some {start index : Nat} {e : EventState}
    {occurrence : Occurrence} (h : select events start = some (index, e, occurrence)) :
    start ≤ index ∧ events[index - start]? = some e ∧ e.current = some occurrence := by
  induction events generalizing start with
  | nil => cases h
  | cons a events ih =>
    have hlater : select events (start + 1) = some (index, e, occurrence) →
        start ≤ index ∧ (a :: events)[index - start]? = some e ∧ e.current = some occurrence := by
      intro hselect
      obtain ⟨hle, hevent, hcurrent⟩ := ih hselect
      have hindex : index - start = index - (start + 1) + 1 := by omega
      exact ⟨by omega, by rw [hindex]; exact hevent, hcurrent⟩
    unfold select at h
    cases hcurrent : a.current with
    | none =>
      rw [hcurrent] at h
      exact hlater h
    | some o =>
      have hfirst : some (start, a, o) = some (index, e, occurrence) →
          start ≤ index ∧ (a :: events)[index - start]? = some e ∧ e.current = some occurrence := by
        intro hsome
        cases hsome
        exact ⟨le_refl _, by rw [Nat.sub_self]; rfl, hcurrent⟩
      rw [hcurrent] at h
      cases hselect : select events (start + 1) with
      | none =>
        rw [hselect] at h
        exact hfirst h
      | some later =>
        rw [hselect] at h
        dsimp only at h
        split at h
        · exact hlater (hselect.trans h)
        · exact hfirst h

/-- What `next` does to the events: they are captured, and the selected one is dropped or
reserved. -/
theorem next_events (capturedTime scheduledMs : Int) (civil : CivilTime)
    (render : EventSpec → CivilTime → Except SchedulerError DispatchContent)
    (occurrences : List MessageOccurrence) : ∃ events, (events = s.events
        ∨ events = (captureAll civil scheduledMs s.events occurrences).1)
      ∧ ((s.next capturedTime scheduledMs civil render occurrences).2.1.events = events
        ∨ ∃ (index : Nat) (e e' : EventState) (occurrence : Occurrence), events[index]? = some e
          ∧ e.current = some occurrence
          ∧ (e' = e.dropUnrendered occurrence ∨ ∃ content, e' = e.reserve occurrence content)
          ∧ (s.next capturedTime scheduledMs civil render occurrences).2.1.events
            = events.set index e') := by
  refine ⟨(s.tick capturedTime scheduledMs civil occurrences).1.events, ?_, ?_⟩
  · unfold tick
    split
    · exact .inr rfl
    · exact .inl rfl
  · unfold next
    generalize s.tick capturedTime scheduledMs civil occurrences = ticked
    obtain ⟨s₁, occurrences₁⟩ := ticked
    dsimp only
    cases hselect : select s₁.events 0 with
    | none => exact .inl rfl
    | some selected =>
      obtain ⟨index, e, occurrence⟩ := selected
      obtain ⟨-, hevent, hcurrent⟩ := select_some hselect
      dsimp only
      cases render e.spec occurrence.civil with
      | error err => exact .inr ⟨index, e, _, occurrence, hevent, hcurrent, .inl rfl, rfl⟩
      | ok content =>
        exact .inr ⟨index, e, _, occurrence, hevent, hcurrent, .inr ⟨content, rfl⟩, rfl⟩

end Capture

end EventScheduler

namespace EventDesk

variable [ScheduleProvider] {d d' : EventDesk} {move : EventMove}

/-- Events are distinct, each event's progress bounds its entries, and no entry is repeated. -/
structure Sound (d : EventDesk) : Prop where
  specs : d.scheduler.specs.Nodup
  events : ∀ e ∈ d.scheduler.events, e.Bounded d.completions d.admissions
  known : ∀ f ∈ d.completions ++ d.admissions, f.1 ∈ d.scheduler.specs
  completions : d.completions.Nodup
  admissions : d.admissions.Nodup

section

variable (h : d.Sound)
include h

omit [ScheduleProvider] in
theorem Sound.of_events (hevents : d'.scheduler.events = d.scheduler.events)
    (hcompletions : d'.completions = d.completions) (hadmissions : d'.admissions = d.admissions) :
    d'.Sound := by
  obtain ⟨⟨generation, events, lastTick⟩, occurrences, completions, admissions⟩ := d'
  cases hevents
  cases hcompletions
  cases hadmissions
  exact { h with }

omit [ScheduleProvider] in
/-- One event changes, and the logs only in its own entries. -/
theorem Sound.update {completions admissions : List Fired} {index : Nat}
    {e e' : EventState} (he : d.scheduler.events[index]? = some e) (hspec : e'.spec = e.spec)
    (hbounded : e'.Bounded completions admissions)
    (hcompletions : ∀ f ∈ completions, f ∈ d.completions ∨ f.1 = e.spec)
    (hadmissions : ∀ f ∈ admissions, f ∈ d.admissions ∨ f.1 = e.spec)
    (hnodup : completions.Nodup ∧ admissions.Nodup) : Sound { d with
      scheduler := { d.scheduler with events := d.scheduler.events.set index e' }
      completions, admissions } := by
  have hspecs : (d.scheduler.events.set index e').map (·.spec) = d.scheduler.specs := by
    refine ext_getElem? fun j => ?_
    unfold EventScheduler.specs
    rw [getElem?_map, getElem?_map, getElem?_set']
    by_cases hindex : index = j
    · subst hindex
      simp [he, hspec]
    · rw [if_neg hindex]
  have hmem : e.spec ∈ d.scheduler.specs := mem_map_of_mem (mem_of_getElem? he)
  refine ⟨(congrArg List.Nodup hspecs).mpr h.specs, fun e₁ he₁ => ?_, fun f hf => ?_, hnodup.1,
    hnodup.2⟩
  · obtain ⟨j, hj⟩ := mem_iff_getElem?.mp he₁
    rw [getElem?_set'] at hj
    by_cases hindex : index = j
    · subst hindex
      rw [if_pos rfl, he] at hj
      cases hj
      exact hbounded
    · rw [if_neg hindex] at hj
      have hother : e₁.spec ≠ e.spec := by
        intro hsame
        have hlt : index < d.scheduler.specs.length := by
          rw [EventScheduler.specs, length_map]
          exact (List.getElem?_eq_some_iff.mp he).1
        refine hindex ((getElem?_inj hlt h.specs).mp ?_)
        unfold EventScheduler.specs
        rw [getElem?_map, getElem?_map, he, hj, map_some, map_some, hsame]
      refine (h.events e₁ (mem_of_getElem? hj)).congr (fun key hkey => ?_) fun key hkey => ?_
      · exact (hcompletions _ hkey).resolve_right hother
      · exact (hadmissions _ hkey).resolve_right hother
  · refine (congrArg (f.1 ∈ ·) hspecs).mpr ?_
    rcases mem_append.mp hf with hf | hf
    · rcases hcompletions f hf with hold | hsame
      · exact h.known f (mem_append_left _ hold)
      · exact hsame ▸ hmem
    · rcases hadmissions f hf with hold | hsame
      · exact h.known f (mem_append_right _ hold)
      · exact hsame ▸ hmem

theorem next_sound {capturedTime scheduledMs : Int} {civil : CivilTime}
    {render : EventSpec → CivilTime → Except SchedulerError DispatchContent}
    (hforward : d.Forward (.next capturedTime scheduledMs civil render))
    (occurrences : List MessageOccurrence) : Sound { d with
      scheduler := (d.scheduler.next capturedTime scheduledMs civil render d.occurrences).2.1
      occurrences } := by
  obtain ⟨events, hevents, hnext⟩ := d.scheduler.next_events capturedTime scheduledMs civil render
    d.occurrences
  have hcaptured : Sound { d with scheduler := { d.scheduler with events }, occurrences } := by
    rcases hevents with rfl | rfl
    · exact { h with }
    have hspecs := captureAll_specs civil scheduledMs d.scheduler.events d.occurrences
    refine ⟨(congrArg List.Nodup hspecs).mpr h.specs, fun e' he' => ?_, fun f hf => ?_,
      h.completions, h.admissions⟩
    · obtain ⟨e, he, occurrences', rfl⟩ := captureAll_mem he'
      exact (h.events e he).capture (hforward e he) scheduledMs occurrences'
    · exact (congrArg (f.1 ∈ ·) hspecs).mpr (h.known f hf)
  rcases hnext with hsame | ⟨index, e, e', occurrence, he, hcurrent, hchange, hset⟩
  · exact hcaptured.of_events hsame rfl rfl
  have hbounded := hcaptured.events e (mem_of_getElem? he)
  have hspec : e'.spec = e.spec := by
    rcases hchange with rfl | ⟨content, rfl⟩
    · rfl
    · unfold EventState.reserve
      split <;> rfl
  have hbounded' : e'.Bounded d.completions d.admissions := by
    rcases hchange with rfl | ⟨content, rfl⟩
    · exact hbounded.dropUnrendered hcurrent
    · exact hbounded.reserve hcurrent content
  exact (hcaptured.update he hspec hbounded' (fun f hf => .inl hf) (fun f hf => .inl hf)
    ⟨h.completions, h.admissions⟩).of_events hset rfl rfl

section

omit [ScheduleProvider]

theorem messageQueued_sound (dispatch : ScheduledDispatch) : Sound { d with
      scheduler := (d.scheduler.messageQueued dispatch).2
      admissions :=
        if d.scheduler.current dispatch && !d.scheduler.isMessageQueued dispatch then
          (dispatch.spec, dispatch.occurrence.key) :: d.admissions
        else d.admissions } := by
  unfold messageQueued current isMessageQueued
  cases hpending : d.scheduler.pending dispatch with
  | none => exact h
  | some e =>
    obtain ⟨he, hspec, p, hp, hkey⟩ := pending_some hpending
    have hbounded := h.events e (mem_of_getElem? he)
    have hnew : ∀ f ∈ (if (some e).isSome && !(some e).any (·.messageQueued) then
        (dispatch.spec, dispatch.occurrence.key) :: d.admissions else d.admissions),
        f ∈ d.admissions ∨ f = (e.spec, dispatch.occurrence.key) := by
      intro f hf
      split at hf
      · rw [← hspec] at hf
        exact (mem_cons.mp hf).symm
      · exact .inl hf
    refine h.update he rfl (hbounded.queuedMessage hp hkey fun key hmem => ?_)
      (fun f hf => .inl hf) (fun f hf => (hnew f hf).imp_right (congrArg Prod.fst))
      ⟨h.completions, ?_⟩
    · exact (hnew _ hmem).imp_right fun hf => (Prod.mk.inj hf).2
    · split
      · rename_i hunqueued
        refine nodup_cons.mpr ⟨fun hmem => ?_, h.admissions⟩
        rw [← hspec, ← hkey] at hmem
        -- an admitted key is completed, or its reservation is queued
        rcases hbounded.admissions _ hmem with ⟨last, hlast, hle⟩ | ⟨hqueued, -⟩
        · exact absurd (hbounded.pending p hp last hlast) (not_lt.mpr hle)
        · simp [hqueued] at hunqueued
      · exact h.admissions

theorem complete_sound (dispatch : ScheduledDispatch) : Sound { d with
      scheduler := (d.scheduler.complete dispatch).2
      completions :=
        if (d.scheduler.complete dispatch).1 then
          (dispatch.spec, dispatch.occurrence.key) :: d.completions
        else d.completions } := by
  rcases d.scheduler.complete_cases dispatch with hstale | ⟨e, hpending, hsettled⟩
  · simp only [hstale, Bool.false_eq_true, if_false]
    exact h
  obtain ⟨he, hspec, p, hp, hkey⟩ := pending_some hpending
  have hbounded := h.events e (mem_of_getElem? he)
  simp only [hsettled]
  refine h.update he rfl (hbounded.settle hp hkey fun key hmem => ?_) (fun f hf => ?_)
    (fun f hf => .inl hf) ⟨?_, h.admissions⟩
  · rcases mem_cons.mp hmem with hf | hmem
    · exact .inr (Prod.mk.inj hf).2
    · exact .inl hmem
  · rcases mem_cons.mp hf with rfl | hf
    · exact .inr hspec.symm
    · exact .inl hf
  · refine nodup_cons.mpr ⟨fun hmem => ?_, h.completions⟩
    rw [← hspec, ← hkey] at hmem
    obtain ⟨last, hlast, hle⟩ := hbounded.completions _ hmem
    exact absurd (hbounded.pending p hp last hlast) (not_lt.mpr hle)

theorem reload_sound {generation : Nat} {specs : List EventSpec} {scheduler : EventScheduler}
    (hnew : new generation specs (some d.scheduler) = .ok scheduler) : Sound { d with
      scheduler
      completions := d.completions.filter (·.1 ∈ specs)
      admissions := d.admissions.filter (·.1 ∈ specs) } := by
  have hspecs := new_specs hnew
  refine ⟨new_nodup hnew, fun e' he' => ?_, fun f hf => ?_,
    h.completions.filter _, h.admissions.filter _⟩
  · rcases new_mem hnew he' with ⟨_, ⟨⟩, e, he, -, rfl⟩ | ⟨hunknown, hfresh⟩
    · exact (h.events e he).inherit.congr (fun key hkey => (mem_filter.mp hkey).1)
        fun key hkey => (mem_filter.mp hkey).1
    have hunlogged : ∀ key, (e'.spec, key) ∉ d.completions ++ d.admissions :=
      fun key hkey => hunknown d.scheduler rfl (h.known _ hkey)
    rw [hfresh]
    refine ⟨nofun, nofun, nofun, nofun, fun key hkey => ?_, fun key hkey => ?_⟩
    · exact absurd (mem_append_left _ (mem_filter.mp hkey).1) (hunlogged key)
    · exact absurd (mem_append_right _ (mem_filter.mp hkey).1) (hunlogged key)
  · have hkept : f.1 ∈ specs := by
      rcases mem_append.mp hf with hf | hf
      all_goals exact of_decide_eq_true (mem_filter.mp hf).2
    exact hspecs ▸ hkept

end

end

/-- **Every call keeps the logs below the progress of their events.** -/
theorem step_sound (h : d.Step move d') (hforward : d.Forward move) (hd : d.Sound) : d'.Sound := by
  unfold Step step at h
  cases move with
  | next capturedTime scheduledMs civil render =>
    cases h
    exact next_sound hd hforward _
  | messageQueued dispatch =>
    cases h
    exact messageQueued_sound hd dispatch
  | complete dispatch =>
    cases h
    exact complete_sound hd dispatch
  | reload generation specs =>
    dsimp only at h
    cases hnew : new generation specs (some d.scheduler) with
    | error e =>
      rw [hnew] at h
      cases h
    | ok scheduler =>
      rw [hnew] at h
      cases h
      exact reload_sound hd hnew
  | sound occurrences =>
    cases h
    exact { hd with }

omit [ScheduleProvider] in
theorem Initial.sound (h : d.Initial) : d.Sound := by
  obtain ⟨generation, specs, s, hnew, rfl⟩ := h
  refine ⟨?_, fun e he => ?_, forall_mem_nil _, nodup_nil, nodup_nil⟩
  · exact new_nodup hnew
  · rcases new_mem hnew he with ⟨_, ⟨⟩, -⟩ | ⟨-, hfresh⟩
    rw [hfresh]
    exact ⟨nofun, nofun, nofun, nofun, nofun, nofun⟩

/-- What of an event a reload keeps: each captured occurrence is ready again unless its message was
admitted, which counts as completed; and a tick captures what it would have captured. -/
structure Survives (e e' : EventState) : Prop where
  spec : e'.spec = e.spec
  captured : ∀ o, o ∈ e.ready ∨ o ∈ e.pending ∧ e.messageQueued = false → e'.ready = some o
  admitted : ∀ p ∈ e.pending, e.messageQueued = true → e'.completed = some p.key
  due : ∀ civil key scheduledMs occurrences, e.Takes civil key →
    (e'.capture civil scheduledMs occurrences).1.ready.map (·.key) = some key

theorem survives_inherit {e : EventState}
    (hforward : e.messageQueued = false → e.pending.isSome = true → e.ready = none) :
    Survives e e.inherit := by
  refine ⟨rfl, fun o ho => ?_, fun p hp hqueued => ?_,
    fun civil key scheduledMs occurrences htakes =>
    htakes.inherit.capture scheduledMs occurrences⟩
  · rcases ho with hready | ⟨hpending, hunqueued⟩
    · rw [EventState.inherit, hready, some_or]
    rw [mem_def] at hpending
    have hready := hforward hunqueued (by rw [hpending]; rfl)
    simp [EventState.inherit, hready, hunqueued, hpending]
  · rw [mem_def] at hp
    simp [EventState.inherit, hqueued, hp]

/-- **No occurrence is completed or admitted twice, and a reload that keeps an event loses none of
its occurrences**, as long as due keys of action events do not go back and no reload meets a
superseded reservation. -/
theorem fires_once (h : Reachable Initial (Guarded Step Forward) d) :
    d.completions.Nodup ∧ d.admissions.Nodup
      ∧ ∀ generation specs d', Guarded Step Forward d (.reload generation specs) d' →
        ∀ e ∈ d.scheduler.events, e.spec ∈ specs → ∃ e' ∈ d'.scheduler.events, Survives e e' := by
  have hsound : d.Sound :=
    h.invariant (P := Sound) (fun _ => Initial.sound) fun _ _ _ hd hstep =>
      step_sound hstep.2 hstep.1 hd
  refine ⟨hsound.completions, hsound.admissions, fun generation specs d' hreload e he hspec => ?_⟩
  obtain ⟨hforward, hstep⟩ := hreload
  unfold Step step at hstep
  dsimp only at hstep
  cases hnew : new generation specs (some d.scheduler) with
  | error err =>
    rw [hnew] at hstep
    cases hstep
  | ok scheduler =>
    rw [hnew] at hstep
    cases hstep
    refine ⟨e.inherit, ?_, survives_inherit (hforward e he)⟩
    have hprior : prior (some d.scheduler) e.spec = some e :=
      prior_of_mem hsound.specs he
    rw [(EventScheduler.new_ok hnew).2]
    refine mem_map.mpr ⟨e.spec, hspec, ?_⟩
    rw [hprior]

instance (d : EventDesk) : DecidablePred d.Forward := fun move => by
  cases move <;> unfold Forward <;> infer_instance

omit [ScheduleProvider]

/-! ## A repeated hour -/

/-- A calendar whose keys are civil minutes. -/
@[reducible] def civilMinutes : ScheduleProvider where
  eventOccurrence event civil :=
    match event with
    | .daily hour minute =>
      if civil.hour = hour ∧ civil.minute = minute then
        some (((civil.year * 12 + civil.month) * 31 + civil.day) * 1440 + hour * 60 + minute)
      else none
    | _ => none
  windowMatches _ _ := true
  windowOverlaps _ _ := false
  windowElapsedAfterEnd _ _ _ := none
  windowNextStart _ _ _ := none
  windowNextEnd _ _ _ := none

/-- An event every thirty minutes. -/
def halfHourly (media : Bool) : EventSpec :=
  ⟨"1000", "net", ⟨(steppedEvents true 30).getD [], none⟩, media⟩

/-- A minute of the night in which clocks go back. -/
def fallBack (hour minute : Nat) : CivilTime := ⟨2026, 10, 25, .sunday, hour, minute⟩

/-- The event links the node to another one. -/
def linkContent : DispatchContent := ⟨none, some ⟨.transceive, "2000"⟩⟩

/-- A tick at a wall-clock second with its civil minute. -/
def tickAt (second : Int) (hour minute : Nat) : EventMove :=
  .next second 0 (fallBack hour minute) fun _ _ => .ok linkContent

/-- The dispatch of a civil minute. -/
def dispatchOf (generation hour minute : Nat) (media : Option Nat) : ScheduledDispatch where
  generation
  index := 0
  occurrence :=
    ⟨((2026 * 12 + 10) * 31 + 25) * 1440 + hour * 60 + minute, fallBack hour minute, 0, media⟩
  spec := halfHourly media.isSome
  content := linkContent

/-- The desk of one event, newly prepared. -/
def halfHourlyDesk (media : Bool) : Option EventDesk :=
  (new 1 [halfHourly media] none).toOption.map fun s => { scheduler := s }

theorem halfHourlyDesk_initial {media : Bool} {d : EventDesk} (h : halfHourlyDesk media = some d) :
    d.Initial := by
  obtain ⟨s, hs, rfl⟩ := map_eq_some_iff.mp h
  exact ⟨1, [halfHourly media], s, ok_of_toOption hs, rfl⟩

/-- 01:00 and 01:30, and 01:00 again an hour after the first. -/
def repeatedHour : List EventMove :=
  [tickAt 0 1 0, .complete (dispatchOf 1 1 0 none), tickAt 1800 1 30,
    .complete (dispatchOf 1 1 30 none), tickAt 3600 1 0, .complete (dispatchOf 1 1 0 none)]

/-- The action event completes the civil minute 01:00 twice. -/
theorem repeated_hour_fires_twice :
    ∃ (_ : ScheduleProvider) (d : EventDesk), Reachable Initial Step d
      ∧ d.completions = [(halfHourly false, (dispatchOf 1 1 0 none).occurrence.key),
        (halfHourly false, (dispatchOf 1 1 30 none).occurrence.key),
        (halfHourly false, (dispatchOf 1 1 0 none).occurrence.key)]
      ∧ ¬d.completions.Nodup := by
  exact ⟨civilMinutes, exists_reachable _ (@step civilMinutes) repeatedHour (halfHourlyDesk false)
    (fun _ => halfHourlyDesk_initial) _ (by decide +kernel)⟩

/-- The media event of 01:00 is reserved and its message is not admitted when 01:30 is captured. A
reload then keeps 01:30 only: 01:00 is neither ready nor completed. -/
theorem superseded_reservation_lost :
    ∃ (_ : ScheduleProvider) (d d' : EventDesk), Reachable Initial Step d
      ∧ d.Step (.reload 2 [halfHourly true]) d'
      ∧ (d.scheduler.events.map fun e => (e.pending.map (·.key), e.messageQueued))
        = [(some (dispatchOf 1 1 0 (some 0)).occurrence.key, false)]
      ∧ (d'.scheduler.events.map fun e => (e.pending.map (·.key), e.ready.map (·.key), e.completed))
        = [(none, some (dispatchOf 1 1 30 (some 1)).occurrence.key, none)] := by
  obtain ⟨d, hreach, hpending, hlast⟩ := exists_reachable _ (@step civilMinutes)
    [tickAt 0 1 0, tickAt 1800 1 30] (halfHourlyDesk true)
      (fun _ => halfHourlyDesk_initial) (fun d =>
      (d.scheduler.events.map fun e => (e.pending.map (·.key), e.messageQueued))
        = [(some (dispatchOf 1 1 0 (some 0)).occurrence.key, false)]
      ∧ ((@step civilMinutes d (.reload 2 [halfHourly true])).map fun d' =>
        d'.scheduler.events.map fun e => (e.pending.map (·.key), e.ready.map (·.key), e.completed))
        = some [(none, some (dispatchOf 1 1 30 (some 1)).occurrence.key, none)]) (by decide +kernel)
  obtain ⟨d', hd', hready⟩ := map_eq_some_iff.mp hlast
  exact ⟨civilMinutes, d, d', hreach, hd', hpending, hready⟩

/-- Two half hours before a reload and one after it. -/
def steadyNight : List EventMove :=
  [tickAt 0 1 0, .complete (dispatchOf 1 1 0 none), tickAt 1800 1 30,
    .complete (dispatchOf 1 1 30 none), .reload 2 [halfHourly false], tickAt 3600 2 0,
    .complete (dispatchOf 2 2 0 none), .complete (dispatchOf 2 2 0 none)]

theorem fires_once_steady :
    ∃ (_ : ScheduleProvider) (d : EventDesk), Reachable Initial (Guarded Step Forward) d
      ∧ d.completions.length = 3 ∧ d.completions.Nodup := by
  obtain ⟨d, hreach, hlength⟩ := exists_reachable_guarded _ (@step civilMinutes)
    (@Forward civilMinutes) steadyNight (halfHourlyDesk false) (fun _ => halfHourlyDesk_initial)
    (fun d => d.completions.length = 3) (by decide +kernel)
  exact ⟨civilMinutes, d, hreach, hlength, (@fires_once civilMinutes d hreach).1⟩

end EventDesk

end RptAdvanced.Runtime
