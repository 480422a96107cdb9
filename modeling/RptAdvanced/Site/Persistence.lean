import RptAdvanced.Lib.Span
import RptAdvanced.Site.Policy

/-!
# Conditions that persist

Two site policies wait before they act. A debounced input (`InputState::observe` in `controller.rs`)
reports an edge once the samples have had the new value for `debounce_ms`; an alarm (`alarm.rs`)
trips or clears once its condition has been unsafe or healthy for the configured delay. Each keeps
one time, `pending_since`, for both directions: it is that of the opposite of the present level.
A pulse of an output (`output.rs`) keeps the demand that its deadline restores.

`exists_span` turns that time into a statement about the history: a step started it, and all steps
since kept it.
-/

namespace RptAdvanced.Site

open Lib List Option

variable {F : Type}

/-! ## Debounced inputs -/

/-- A reading of an input and the current time. -/
abbrev InputReading := Observation Bool × Nat

/-- What a reading is to an input. -/
inductive Arrival where
  /-- Invalid, without a value or a time, older than the last sample, or dated ahead. -/
  | refused
  /-- The last sample again. -/
  | repeated
  /-- A sample newer than the last one. -/
  | sample (value : Bool) (time : Nat)

namespace InputState

/-- What a reading is. -/
def arrival (s : InputState) (o : InputReading) : Arrival :=
  if o.1.quality ≠ .valid then .refused
  else
    match s.accepted o.1 o.2 with
    | none => .refused
    | some (value, time) => if s.lastSample = some time then .repeated else .sample value time

/-- The sample of a reading that is accepted. -/
def sampled (s : InputState) (o : InputReading) : List (Bool × Nat) :=
  match s.arrival o with
  | .sample value time => [(value, time)]
  | _ => []

/-- The pending value and the time of its first sample. -/
def timer (s : InputState) : Option (Bool × Nat) :=
  s.value.value.bind fun value => s.pendingSince.map fun since => (!value, since)

section

variable (settings : InputSettings F)

/-- The state after a reading. -/
def next (s : InputState) (o : InputReading) : InputState := (s.observe o.1 settings o.2).1

/-- The edge a reading makes. -/
def edge (s : InputState) (o : InputReading) : Option Bool := (s.observe o.1 settings o.2).2

/-- The state after a history. -/
def after (history : List InputReading) : InputState := history.foldl (next settings) new

/-- Readings that show `value` for the debounce time up to `time`. -/
structure Steady (value : Bool) (time : Nat) (s : InputState) (span : List InputReading) :
    Prop where
  unbroken : Along (next settings) (fun s o => s.arrival o ≠ .refused) s span
  same : ∀ x ∈ emitted (next settings) sampled s span, x.1 = value
  increasing : (emitted (next settings) sampled s span).Pairwise fun x y => x.2 < y.2
  long : ∃ first, (emitted (next settings) sampled s span).head? = some first
    ∧ settings.debounceMs ≤ time - first.2

/-- What a reading does. -/
inductive Observed (s : InputState) (o : InputReading) : InputState → Option Bool → Prop
  | refused {quality : ReadingQuality} (h : s.arrival o = .refused) : Observed s o
      { s with value := { s.value with quality }, pendingSince := none } none
  | repeated (h : s.arrival o = .repeated) : Observed s o s none
  | same {value : Bool} {time : Nat} (h : s.arrival o = .sample value time)
      (hvalue : o.1.value = some value) (hs : s.value.value = none ∨ s.value.value = some value) :
      Observed s o { value := o.1, lastSample := some time, pendingSince := none } none
  | waiting {value : Bool} {time : Nat} (h : s.arrival o = .sample value time)
      (hs : s.value.value = some !value) : Observed s o
      { value := { s.value with quality := .valid }, lastSample := some time
        pendingSince := some (s.pendingSince.getD time) } none
  | edge {value : Bool} {time : Nat} (h : s.arrival o = .sample value time)
      (hvalue : o.1.value = some value) (hs : s.value.value = some !value)
      (hlong : settings.debounceMs ≤ time - s.pendingSince.getD time) : Observed s o
      { value := o.1, lastSample := some time, pendingSince := none } (some value)

end

variable {settings : InputSettings F} {s s' : InputState} {o : InputReading} {e : Option Bool}

theorem observed (settings : InputSettings F) (s : InputState) (o : InputReading) :
    Observed settings s o (s.next settings o) (s.edge settings o) := by
  unfold next edge observe
  by_cases hq : o.1.quality ≠ .valid
  · rw [if_pos hq]
    exact .refused (if_pos hq)
  rw [if_neg hq]
  cases haccepted : s.accepted o.1 o.2 with
  | none => exact .refused (by rw [arrival, if_neg hq, haccepted])
  | some x =>
    obtain ⟨value, time⟩ := x
    have hvalue : o.1.value = some value := by
      unfold accepted at haccepted
      split at haccepted
      · rename_i v t hv ht
        cases (ite_none_right_eq_some.mp haccepted).2
        exact hv
      · cases haccepted
    dsimp only
    split
    · rename_i hlast
      exact .repeated (by rw [arrival, if_neg hq, haccepted]; exact if_pos hlast)
    rename_i hlast
    have harrived : s.arrival o = .sample value time := by
      rw [arrival, if_neg hq, haccepted]
      exact if_neg hlast
    split
    · rename_i hsame
      exact .same harrived hvalue hsame
    rename_i hother
    have hs : s.value.value = some !value := by
      cases hvalid : s.value.value with
      | none => exact absurd (.inl hvalid) hother
      | some b =>
        rw [hvalid] at hother
        cases b <;> cases value <;> simp at hother ⊢
    split
    · exact .waiting harrived hs
    · rename_i hlong
      exact .edge harrived hvalue hs (not_lt.mp hlong)

/-- A sample is newer than the last one. -/
theorem last_lt_sample {value : Bool} {time last : Nat} (h : s.arrival o = .sample value time)
    (hlast : s.lastSample = some last) : last < time := by
  unfold arrival accepted at h
  rw [hlast] at h
  split at h
  · cases h
  split at h
  · cases h
  rename_i hx
  split at hx
  · obtain ⟨⟨-, hle⟩, hx⟩ := ite_none_right_eq_some.mp hx
    cases hx
    split at h
    · cases h
    rename_i hne
    cases h
    exact lt_of_le_of_ne (of_decide_eq_true hle) fun he => hne (congrArg some he)
  · cases hx

/-- A reading that keeps a wait for `value` going. -/
def Keeps (value : Bool) (s : InputState) (o : InputReading) : Prop :=
  s.arrival o = .repeated ∨ ∃ time, s.arrival o = .sample value time

/-- A wait is started by a sample and kept by repetitions and samples of the same value. -/
theorem Observed.timer (h : Observed settings s o s' e) {t : Bool × Nat} (ht : s'.timer = some t) :
    s.arrival o = .sample t.1 t.2 ∨ s.timer = some t ∧ Keeps t.1 s o := by
  cases h with
  | refused | same | edge => simp [InputState.timer] at ht
  | repeated harrived => exact .inr ⟨ht, .inl harrived⟩
  | waiting harrived hs =>
    cases hp : s.pendingSince <;> simp [InputState.timer, hs, hp] at ht <;> subst ht
    · exact .inl harrived
    · exact .inr ⟨by simp [InputState.timer, hs, hp], .inr ⟨_, harrived⟩⟩

/-- The times of the accepted samples increase. -/
theorem sampled_increasing (s : InputState) (os : List InputReading) :
    (∀ x ∈ emitted (next settings) sampled s os, ∀ last, s.lastSample = some last → last < x.2)
      ∧ (emitted (next settings) sampled s os).Pairwise fun x y => x.2 < y.2 := by
  induction os generalizing s with
  | nil => exact ⟨nofun, .nil⟩
  | cons o os ih =>
    have hobserve := observed settings s o
    rw [emitted, sampled]
    generalize s.next settings o = s', s.edge settings o = e at hobserve
    cases hobserve with
    | refused harrived | repeated harrived =>
      rw [harrived]
      exact ih _
    | same harrived | waiting harrived | edge harrived =>
      obtain ⟨hlast, hpair⟩ := ih _
      rw [harrived]
      refine ⟨fun x hx last hl => ?_, pairwise_cons.mpr ⟨fun x hx => hlast x hx _ rfl, hpair⟩⟩
      rcases mem_cons.mp hx with rfl | hx
      · exact last_lt_sample harrived hl
      · exact (last_lt_sample harrived hl).trans (hlast x hx _ rfl)

/-- The samples of readings that keep a wait have its value. -/
theorem sampled_same {value : Bool} {os : List InputReading}
    (h : Along (next settings) (Keeps value) s os) :
    ∀ x ∈ emitted (next settings) sampled s os, x.1 = value := by
  induction os generalizing s with
  | nil => exact nofun
  | cons o os ih =>
    intro x hx
    rw [emitted, sampled] at hx
    rcases h.1 with harrived | ⟨time, harrived⟩ <;> rw [harrived] at hx
    · exact ih h.2 x hx
    · rcases mem_cons.mp hx with rfl | hx
      · rfl
      · exact ih h.2 x hx

variable {history : List InputReading}

/-- An edge ends a steady span. -/
theorem Observed.steady {value : Bool}
    (h : Observed settings (after settings history) o s' (some value)) :
    ∃ before span time, history ++ [o] = before ++ span
      ∧ (after settings history).arrival o = .sample value time
      ∧ Steady settings value time (after settings before) span := by
  cases h with
  | @edge _ time harrived _ hs hlong =>
    have hwait : (after settings history).arrival o
          = .sample value ((after settings history).pendingSince.getD time)
        ∨ (after settings history).timer
          = some (value, (after settings history).pendingSince.getD time)
          ∧ Keeps value (after settings history) o := by
      cases hp : (after settings history).pendingSince with
      | none => exact .inl harrived
      | some since => exact .inr ⟨by simp [InputState.timer, hs, hp], .inr ⟨time, harrived⟩⟩
    obtain ⟨before, b, span, hsplit, hstarts, hspan⟩ :=
      exists_span (I := fun _ => True) (fun _ _ => id)
        (fun s o t _ => (observed settings s o).timer)
        (s := new) (t := (value, (after settings history).pendingSince.getD time)) trivial rfl hwait
    have hkeeps : Along (next settings) (Keeps value) (after settings before) (b :: span) :=
      ⟨.inr ⟨_, hstarts⟩, hspan⟩
    refine ⟨before, b :: span, time, hsplit, harrived, ?_, sampled_same hkeeps,
      (sampled_increasing _ _).2, (value, _), ?_, hlong⟩
    · refine hkeeps.mono fun s o hs => ?_
      rcases hs with hs | ⟨_, hs⟩ <;> rw [hs] <;> nofun
    · rw [emitted, sampled, show (after settings before).arrival b = _ from hstarts]
      rfl

theorem Observed.again (h : Observed settings s o s' e) (harrived : s.arrival o = .repeated) :
    s' = s ∧ e = none := by
  cases h with
  | repeated => exact ⟨rfl, rfl⟩
  | refused h | same h | waiting h | edge h => cases harrived.symm.trans h

/-- The value changes with the first sample and with edges only. -/
theorem Observed.value (h : Observed settings s o s' e) :
    s'.value.value = s.value.value ∨ ∃ value, s'.value.value = some value
      ∧ (e = some value ∨ s.value.value = none ∧ ∃ time, s.arrival o = .sample value time) := by
  cases h with
  | refused | repeated | waiting => exact .inl rfl
  | same harrived hvalue hs =>
    rcases hs with hs | hs
    · exact .inr ⟨_, hvalue, .inr ⟨hs, _, harrived⟩⟩
    · exact .inl (hvalue.trans hs.symm)
  | edge _ hvalue => exact .inr ⟨_, hvalue, .inl rfl⟩

theorem after_concat (history : List InputReading) (o : InputReading) :
    after settings (history ++ [o]) = (after settings history).next settings o :=
  foldl_concat ..

/-- Without a value no sample has been accepted. -/
theorem sampled_nil (h : (after settings history).value.value = none) :
    emitted (next settings) sampled new history = [] := by
  induction history using List.reverseRecOn with
  | nil => rfl
  | append_singleton history o ih =>
    have hobserve := observed settings (after settings history) o
    rw [after_concat] at h
    rw [emitted_concat]
    change emitted (next settings) sampled new history ++ (after settings history).sampled o = []
    rw [sampled]
    generalize (after settings history).next settings o = s',
      (after settings history).edge settings o = e at h hobserve
    cases hobserve with
    | refused harrived | repeated harrived => rw [ih h, harrived, nil_append]
    | same _ hvalue | edge _ hvalue => cases hvalue.symm.trans h
    | waiting _ hs => cases hs.symm.trans h

/-- Edges are to another value than the present one, and set it. -/
theorem edge_alternates (s : InputState) (os : List InputReading) :
    (emitted (next settings) (fun s o => (s.edge settings o).toList) s os).IsChain (· ≠ ·) := by
  refine (isChain_emitted (I := fun _ => True) (·.value.value) (fun v b => v ≠ some b) some
    (fun _ _ _ _ => trivial) (fun s o _ _ => ?_) trivial).2.imp fun a b h he => h (congrArg some he)
  have hobserve := observed settings s o
  generalize s.next settings o = s', s.edge settings o = e at hobserve
  cases hobserve with
  | refused | repeated | waiting => exact .silent fun _ => id
  | same _ hvalue hs =>
    refine .silent fun b hb hs' => hb ?_
    rcases hs with hs | hs
    · cases hs.symm.trans hs'
    · exact (hvalue.trans hs.symm).trans hs'
  | @edge value _ _ hvalue hs =>
    exact .output (by rw [hs]; cases value <;> nofun) (.silent fun c hc => hvalue ▸ hc)

/-- **Debouncing.** After any history: an edge ends a span of readings, none refused, whose accepted
samples all have its value, at increasing times, and last for the debounce time; the last sample
again changes nothing and makes no edge; the value changes with an edge or with the first accepted
sample only; and the edges alternate. -/
theorem input_debounced (settings : InputSettings F) (history : List InputReading)
    (o : InputReading) : (∀ value, (after settings history).edge settings o = some value →
        ∃ before span time, history ++ [o] = before ++ span
          ∧ (after settings history).arrival o = .sample value time
          ∧ Steady settings value time (after settings before) span)
      ∧ ((after settings history).arrival o = .repeated →
        after settings (history ++ [o]) = after settings history
          ∧ (after settings history).edge settings o = none)
      ∧ ((after settings (history ++ [o])).value.value ≠ (after settings history).value.value →
        ∃ value, (after settings (history ++ [o])).value.value = some value
          ∧ ((after settings history).edge settings o = some value
            ∨ emitted (next settings) sampled new history = []
              ∧ ∃ time, (after settings history).arrival o = .sample value time))
      ∧ (emitted (next settings) (fun s o => (s.edge settings o).toList) new history).IsChain
        (· ≠ ·) := by
  have hobserve := observed settings (after settings history) o
  rw [← after_concat] at hobserve
  refine ⟨fun value h => (h ▸ hobserve).steady, hobserve.again, fun h => ?_,
    edge_alternates new history⟩
  obtain ⟨value, hv, he | ⟨hnone, hsample⟩⟩ := hobserve.value.resolve_left h
  · exact ⟨value, hv, .inl he⟩
  · exact ⟨value, hv, .inr ⟨sampled_nil hnone, hsample⟩⟩

end InputState

/-! ## Alarms -/

/-- A call on an alarm. -/
inductive AlarmCall (F : Type) where
  | advance (now : Nat) (reading : Observation (AlarmValue F))
  | acknowledge
  | reset

namespace AlarmState

variable [Analog F]

/-- A reading that says nothing of the alarm's condition: not valid, without a value of its kind,
not finite, or without a value to compare it with. An unavailable reading is no such reading. -/
def Unknown (s : AlarmState F) (reading : Observation (AlarmValue F)) : Prop :=
  match s.settings.condition with
  | .unavailable => False
  | .above | .below => ∀ value, reading.quality = .valid → reading.value = some (.number value) →
      Analog.isFinite value = true →
        (if s.active then s.settings.clearValue else s.settings.tripValue) = none
  | .active | .inactive =>
    ∀ value, reading.quality = .valid → reading.value ≠ some (.digital value)

theorem condition_none {s : AlarmState F} {reading : Observation (AlarmValue F)} :
    s.condition reading = none ↔ s.Unknown reading := by
  unfold condition Unknown
  obtain ⟨value, time, quality⟩ := reading
  by_cases hvalid : quality = .valid
  · cases s.settings.condition <;> rcases value with _ | value | value <;> simp [hvalid]
    all_goals cases s.active <;> simp
  · cases s.settings.condition <;> simp [hvalid]

/-- A call, with the events it reports. -/
def call (s : AlarmState F) : AlarmCall F → AlarmState F × List AlarmEvent
  | .advance now reading => s.advance now reading
  | .acknowledge => (s.acknowledge, [])
  | .reset =>
    match s.reset with
    | .ok (s', event) => (s', event.toList)
    | .error _ => (s, [])

def next (s : AlarmState F) (c : AlarmCall F) : AlarmState F := (s.call c).1

/-- The trips and clears of a call. -/
def turns (s : AlarmState F) (c : AlarmCall F) : List AlarmEvent :=
  (s.call c).2.filter (· ≠ .repeated)

/-- The time of the last advance, after a call. -/
def AlarmCall.time (last : Nat) : AlarmCall F → Nat
  | .advance now _ => now
  | _ => last

/-- The trips and reminders of a call, with its time. -/
def notices (s : AlarmState F) (c : AlarmCall F) : List (AlarmEvent × Nat) :=
  ((s.call c).2.filter (· ≠ .clear)).map (·, AlarmCall.time 0 c)

/-- The state after a history. -/
def after (settings : AlarmSettings F) (history : List (AlarmCall F)) : AlarmState F :=
  history.foldl next (.new settings)

/-- The time of the last advance. -/
def clock (history : List (AlarmCall F)) : Nat := history.foldl AlarmCall.time 0

/-- An alarm with its condition evaluated. -/
def evaluate (s : AlarmState F) (reading : Observation (AlarmValue F)) : AlarmState F :=
  { s with unsafeCondition := s.condition reading, resetReady := false }

/-- What a transition does. -/
inductive Transits (s : AlarmState F) (now : Nat) : AlarmState F → List AlarmEvent → Prop
  | idle (h : s.unsafeCondition ≠ some !s.active) :
      Transits s now { s with pendingSince := none } []
  | waiting (h : s.unsafeCondition = some !s.active) :
      Transits s now { s with pendingSince := some (s.pendingSince.getD now) } []
  | ready (h : s.unsafeCondition = some !s.active) (hactive : s.active = true)
      (hlong : s.settings.clearDelayMs ≤ now - s.pendingSince.getD now) : Transits s now
      { s with pendingSince := some (s.pendingSince.getD now), resetReady := true } []
  | tripped (h : s.unsafeCondition = some !s.active) (hactive : s.active = false)
      (hlong : s.settings.tripDelayMs ≤ now - s.pendingSince.getD now) : Transits s now
      { s with
        active := true, acknowledged := false, pendingSince := none
        repeatAt := if 0 < s.settings.repeatIntervalMs then
          some (min (now + s.settings.repeatIntervalMs) (2 ^ 64 - 1)) else none } [.trip]
  | cleared (h : s.unsafeCondition = some !s.active) (hactive : s.active = true)
      (hlatched : s.settings.latched = false)
      (hlong : s.settings.clearDelayMs ≤ now - s.pendingSince.getD now) :
      Transits s now s.clear [.clear]

/-- What a call on an enabled alarm does. -/
inductive Called (s : AlarmState F) : AlarmCall F → AlarmState F → List AlarmEvent → Prop
  | evaluated {now : Nat} {reading : Observation (AlarmValue F)} {s' : AlarmState F}
      {events : List AlarmEvent} (h : Transits (s.evaluate reading) now s' events) :
      Called s (.advance now reading) s' events
  | reminded {now due : Nat} {reading : Observation (AlarmValue F)} {s' : AlarmState F}
      {events : List AlarmEvent} (h : Transits (s.evaluate reading) now s' events)
      (hactive : s'.active = true) (hacknowledge : s'.acknowledged = false)
      (hdue : s'.repeatAt = some due) (hle : due ≤ now) : Called s (.advance now reading)
      { s' with repeatAt := some (min (now + s'.settings.repeatIntervalMs) (2 ^ 64 - 1)) }
      (events ++ [.repeated])
  | acknowledged : Called s .acknowledge s.acknowledge []
  | reset (hactive : s.active = true) (hready : s.resetReady = true) :
      Called s .reset s.clear [.clear]
  | refused : Called s .reset s []

variable {s s' : AlarmState F} {c : AlarmCall F} {events : List AlarmEvent} {now : Nat}
  {reading : Observation (AlarmValue F)}

omit [Analog F] in
theorem transits (s : AlarmState F) (now : Nat) :
    Transits s now (s.transition now).1 (s.transition now).2 := by
  unfold transition
  split
  · rename_i hcondition
    exact .idle (by rw [hcondition]; nofun)
  rename_i unsafeNow hcondition
  split
  · rename_i hsame
    exact .idle (by rw [hcondition, hsame]; cases s.active <;> nofun)
  rename_i hsame
  have hactive : s.active = !unsafeNow := by
    cases unsafeNow <;> cases hactive : s.active <;> simp [hactive] at hsame ⊢
  have hopposite : s.unsafeCondition = some !s.active := by rw [hcondition, hactive, Bool.not_not]
  cases unsafeNow with
  | true =>
    simp only [if_true]
    split
    · exact .waiting hopposite
    · rename_i hlong
      exact .tripped hopposite hactive (not_lt.mp hlong)
  | false =>
    simp only [Bool.false_eq_true, if_false]
    split
    · exact .waiting hopposite
    rename_i hlong
    split
    · exact .ready hopposite hactive (not_lt.mp hlong)
    · rename_i hlatch
      exact .cleared hopposite hactive ((Bool.not_eq_true _).mp hlatch) (not_lt.mp hlong)

theorem called (henabled : s.settings.enabled = true) (c : AlarmCall F) :
    Called s c (s.next c) (s.call c).2 := by
  unfold next
  cases c with
  | acknowledge => exact .acknowledged
  | reset =>
    unfold call AlarmState.reset
    cases hactive : s.active with
    | false => exact .refused
    | true =>
      cases hready : s.resetReady with
      | false => exact .refused
      | true => exact .reset hactive hready
  | advance now reading =>
    have h := transits (s.evaluate reading) now
    change Called s _ (s.advance now reading).1 (s.advance now reading).2
    unfold AlarmState.advance
    rw [henabled, if_neg (by decide)]
    change Called s _ (((s.evaluate reading).transition now).1.remind now).1
      (((s.evaluate reading).transition now).2 ++
        (((s.evaluate reading).transition now).1.remind now).2)
    generalize ((s.evaluate reading).transition now) = moved at h
    unfold remind
    split
    · rename_i hdue
      simp only [Bool.and_eq_true, Bool.not_eq_true'] at hdue
      obtain ⟨due, hdue', hle⟩ := (Option.any_eq_true ..).mp hdue.2
      exact .reminded h hdue.1.1 hdue.1.2 hdue' (of_decide_eq_true hle)
    · rw [List.append_nil]
      exact .evaluated h

/-- The pending condition and the time of its first advance. -/
def timer (s : AlarmState F) : Option (Bool × Nat) :=
  s.pendingSince.map fun since => (!s.active, since)

/-- An advance, if the call is one, finds the condition. -/
def Finds (value : Bool) (s : AlarmState F) (c : AlarmCall F) : Prop :=
  ∀ now reading, c = .advance now reading → s.condition reading = some value

/-- Every advance of a span that ends with the calls has found the condition; the span is as long as
the delay. -/
def Persisted (settings : AlarmSettings F) (value : Bool) (delay : Nat)
    (calls : List (AlarmCall F)) : Prop :=
  ∃ before start reading span, calls = before ++ .advance start reading :: span
    ∧ delay ≤ clock calls - start
    ∧ Along next (Finds value) (after settings before) (.advance start reading :: span)

omit [Analog F] in
theorem Transits.timer (h : Transits s now s' events) {t : Bool × Nat} (ht : s'.timer = some t) :
    s.unsafeCondition = some t.1 ∧ (t.2 = now ∨ s.timer = some t) := by
  cases h with
  | idle | tripped | cleared => cases ht
  | waiting hopposite | ready hopposite =>
    cases ht
    refine ⟨hopposite, ?_⟩
    cases hp : s.pendingSince with
    | none => exact .inl rfl
    | some since => exact .inr (by rw [AlarmState.timer, hp]; rfl)

section

variable (h : Called s c s' events)
include h

/-- A wait is started by an advance that finds its condition and kept by others that do. -/
theorem Called.timer {t : Bool × Nat} (ht : s'.timer = some t) :
    (∃ reading, c = .advance t.2 reading ∧ s.condition reading = some t.1)
      ∨ s.timer = some t ∧ Finds t.1 s c := by
  cases h with
  | evaluated h | reminded h =>
    obtain ⟨hcondition, rfl | hold⟩ := h.timer ht
    · exact .inl ⟨_, rfl, hcondition⟩
    · refine .inr ⟨hold, ?_⟩
      rintro _ _ ⟨⟩
      exact hcondition
  | acknowledged | refused => exact .inr ⟨ht, nofun⟩
  | reset => cases ht

theorem Called.settings : s'.settings = s.settings := by
  cases h with
  | evaluated h | reminded h => cases h <;> rfl
  | acknowledged | refused | reset => rfl

theorem Called.ready (hready : s'.resetReady = true) {last : Nat}
    (hlast : s.resetReady = true → ∃ since, s.timer = some (false, since)
      ∧ s.settings.clearDelayMs ≤ last - since) :
    ∃ since, s'.timer = some (false, since)
      ∧ s.settings.clearDelayMs ≤ AlarmCall.time last c - since := by
  cases h with
  | evaluated h | reminded h =>
    cases h with
    | ready _ hactive hlong => exact ⟨_, congrArg (fun v => some (!v, _)) hactive, hlong⟩
    | idle | waiting | tripped | cleared => cases hready
  | acknowledged | refused => exact hlast hready
  | reset => cases hready

/-- A trip or a clear is of an advance that finds its condition when the wait is over, or of a reset
of an alarm that is ready. -/
theorem Called.turn {event : AlarmEvent} (he : event ∈ events)
    (hne : event ≠ .repeated) : (c = .reset ∧ event = .clear ∧ s.resetReady = true)
      ∨ ∃ now reading, c = .advance now reading ∧
        s.condition reading = some (decide (event = .trip))
        ∧ s.active = !decide (event = .trip)
        ∧ (if event = .trip then s.settings.tripDelayMs else s.settings.clearDelayMs)
          ≤ now - s.pendingSince.getD now
        ∧ (event = .clear → s.settings.latched = false) := by
  cases h with
  | evaluated h | reminded h =>
    cases h with
    | idle | waiting | ready => simp_all
    | tripped hopposite hactive hlong =>
      have hevent : event = .trip := by simp_all
      subst hevent
      exact .inr ⟨_, _, rfl, hopposite.trans (by rw [hactive]; rfl), hactive, hlong, nofun⟩
    | cleared hopposite hactive hlatch hlong =>
      have hevent : event = .clear := by simp_all
      subst hevent
      exact .inr
        ⟨_, _, rfl, hopposite.trans (by rw [hactive]; rfl), hactive, hlong, fun _ => hlatch⟩
  | acknowledged | refused => cases he
  | reset _ hready => exact .inl ⟨rfl, mem_singleton.mp he, hready⟩

end

section

variable {settings : AlarmSettings F} (henabled : settings.enabled = true)

include henabled

theorem next_settings (s : AlarmState F) (c : AlarmCall F) (hs : s.settings = settings) :
    (s.next c).settings = settings :=
  (called (hs ▸ henabled) c).settings.trans hs

theorem after_settings (history : List (AlarmCall F)) :
    (after settings history).settings = settings :=
  List.foldlRecOn (motive := fun s => s.settings = settings) history next rfl
    fun s hs c _ => next_settings henabled s c hs

theorem after_called (history : List (AlarmCall F)) (c : AlarmCall F) :
    Called (after settings history) c (after settings (history ++ [c]))
      ((after settings history).call c).2 := by
  have hnext : after settings (history ++ [c]) = (after settings history).next c :=
    foldl_concat ..
  rw [hnext]
  exact called (by rw [after_settings henabled, henabled]) c

variable {history : List (AlarmCall F)}

/-- What a timer says about the history. -/
theorem persisted {value : Bool} (since : Nat) {delay : Nat}
    (h : (∃ reading, c = .advance since reading
        ∧ (after settings history).condition reading = some value)
      ∨ (after settings history).timer = some (value, since) ∧
        Finds value (after settings history) c)
    (hlong : delay ≤ clock (history ++ [c]) - since) :
    Persisted settings value delay (history ++ [c]) := by
  obtain ⟨before, b, span, hsplit, ⟨reading, rfl, hcondition⟩, hspan⟩ :=
    exists_span (I := fun s => s.settings = settings) (next_settings henabled)
      (fun s c t hs => (called (hs ▸ henabled) c).timer) (s := .new settings) (t := (value, since))
      rfl rfl h
  refine ⟨before, since, reading, span, hsplit, hlong, ?_, hspan⟩
  rintro _ _ ⟨⟩
  exact hcondition

/-- An alarm is ready to be reset while its wait is over. -/
theorem ready_long (h : (after settings history).resetReady = true) :
    ∃ since, (after settings history).timer = some (false, since)
      ∧ settings.clearDelayMs ≤ clock history - since := by
  induction history using List.reverseRecOn with
  | nil => cases h
  | append_singleton history c ih =>
    have hcall := after_called henabled history c
    rw [clock, foldl_concat]
    have hsettled := after_settings henabled history
    have hready := hcall.ready h fun hr => by rw [hsettled]; exact ih hr
    rwa [hsettled] at hready

/-- An advance that turns an alarm ends a span. -/
theorem persisted_advance {value : Bool} {delay : Nat}
    (hcondition : (after settings history).condition reading = some value)
    (hactive : (after settings history).active = !value)
    (hlong : delay ≤ now - (after settings history).pendingSince.getD now) :
    Persisted settings value delay (history ++ [.advance now reading]) := by
  refine persisted henabled ((after settings history).pendingSince.getD now) ?_ ?_
  · cases hp : (after settings history).pendingSince with
    | none => exact .inl ⟨reading, rfl, hcondition⟩
    | some since =>
      refine .inr ⟨by simp [timer, hactive, hp], ?_⟩
      rintro _ _ ⟨⟩
      exact hcondition
  · rw [clock, foldl_concat]
    exact hlong

/-- Trips and clears alternate, from a trip on. -/
theorem turns_alternate (calls : List (AlarmCall F)) :
    (emitted next turns (.new settings) calls).head? ≠ some .clear
      ∧ (emitted next turns (.new settings) calls).IsChain (· ≠ ·) := by
  have hchain := isChain_emitted (f := next) (g := turns) (l := calls) (·.active)
    (fun v e => v ≠ decide (e = .trip)) (fun e => decide (e = .trip))
    (I := fun s => s.settings = settings) (fun s c _ => next_settings henabled s c)
      (fun s c _ hs => ?_)
    (s := .new settings) rfl
  · exact ⟨fun h => hchain.1 _ h rfl, hchain.2.imp fun a b h he => h (he ▸ rfl)⟩
  · have hcall := called (hs ▸ henabled) c
    unfold turns
    generalize s.next c = s', (s.call c).2 = events at hcall
    cases hcall with
    | evaluated h | reminded h =>
      cases h with
      | idle | waiting | ready => exact .silent fun _ => id
      | tripped _ hactive | cleared _ hactive =>
        exact .output (by simpa [evaluate] using hactive) (.silent fun _ => id)
    | acknowledged | refused => exact .silent fun _ => id
    | reset hactive => exact .output (by simpa using hactive) (.silent fun _ => id)

/-- The first notice is no reminder, and a reminder comes at least the interval after the notice
before it, unless the clock has run out. -/
theorem notices_spaced (calls : List (AlarmCall F)) :
    (∀ x, (emitted next notices (.new settings) calls).head? = some x → x.1 ≠ .repeated)
      ∧ (emitted next notices (.new settings) calls).IsChain fun x y => y.1 = .repeated →
        x.2 + settings.repeatIntervalMs ≤ y.2 ∨ 2 ^ 64 - 1 ≤ y.2 := by
  have hchain := isChain_emitted (f := next) (g := notices) (l := calls) (·.repeatAt)
    (fun due x => x.1 = .repeated → ∃ t, due = some t ∧ t ≤ x.2)
    (fun x => some (min (x.2 + settings.repeatIntervalMs) (2 ^ 64 - 1)))
    (I := fun s => s.settings = settings)
    (fun s c _ => next_settings henabled s c) (fun s c _ hs => ?_) (s := .new settings) rfl
  · refine ⟨fun x hx hrep => ?_, hchain.2.imp fun x y h hrep => ?_⟩
    · obtain ⟨_, ⟨⟩, -⟩ := hchain.1 x hx hrep
    · obtain ⟨_, ⟨⟩, hle⟩ := h hrep
      exact min_le_iff.mp hle
  · have hcall := called (hs ▸ henabled) c
    unfold notices
    generalize s.next c = s', (s.call c).2 = events at hcall
    subst hs
    -- a deadline that is set is the interval after its notice
    have hset : ∀ {now : Nat} (x : AlarmEvent × Nat), (x.1 = .repeated → ∃ t,
          (if 0 < s.settings.repeatIntervalMs then
            some (min (now + s.settings.repeatIntervalMs) (2 ^ 64 - 1)) else none) = some t
          ∧ t ≤ x.2) → x.1 = .repeated →
        ∃ t, some (min (now + s.settings.repeatIntervalMs) (2 ^ 64 - 1)) = some t ∧ t ≤ x.2 := by
      intro now x hx hrep
      obtain ⟨t, ht, hle⟩ := hx hrep
      exact ⟨t, (ite_none_right_eq_some.mp ht).2, hle⟩
    cases hcall with
    | evaluated h =>
      cases h with
      | idle | waiting | ready => exact .silent fun _ => id
      | tripped => exact .output nofun (.silent hset)
      | cleared => exact .silent fun _ hx hrep => by obtain ⟨_, ⟨⟩, -⟩ := hx hrep
    | reminded h hactive hacknowledge hdue hle =>
      cases h with
      | idle | waiting | ready => exact .output (fun _ => ⟨_, hdue, hle⟩) (.silent fun _ => id)
      | tripped =>
        refine .output nofun (.output (hset _ fun _ => ⟨_, hdue, hle⟩) (.silent fun _ => id))
      | cleared => cases hactive
    | acknowledged | refused => exact .silent fun _ => id
    | reset => exact .silent fun _ hx hrep => by obtain ⟨_, ⟨⟩, -⟩ := hx hrep

/-- **The life of an alarm.** For an enabled alarm, after any calls: trips and clears alternate from
a trip on; a trip ends a span of advances that all found the condition unsafe, as long as the trip
delay, and a clear one of healthy conditions as long as the clear delay; an unknown reading reports
neither and ends every wait; a latched alarm clears only by a reset that the last advance made
ready; and reminders come while the alarm is active and not acknowledged, after a trip, the repeat
interval or more after the trip or reminder before, or at the largest 64-bit time. -/
theorem alarm_life (history : List (AlarmCall F)) (c : AlarmCall F) :
    ((emitted next turns (.new settings) history).head? ≠ some .clear
        ∧ (emitted next turns (.new settings) history).IsChain (· ≠ ·))
      ∧ (.trip ∈ ((after settings history).call c).2 →
        Persisted settings true settings.tripDelayMs (history ++ [c]))
      ∧ (.clear ∈ ((after settings history).call c).2 →
        Persisted settings false settings.clearDelayMs (history ++ [c]))
      ∧ (∀ now reading, c = .advance now reading → (after settings history).Unknown reading →
        (after settings history).turns c = [] ∧
          (after settings (history ++ [c])).pendingSince = none)
      ∧ (settings.latched = true → .clear ∈ ((after settings history).call c).2 →
        c = .reset ∧ (after settings history).resetReady = true)
      ∧ (.repeated ∈ ((after settings history).call c).2 →
        (after settings (history ++ [c])).active = true
          ∧ (after settings (history ++ [c])).acknowledged = false)
      ∧ (∀ x, (emitted next notices (.new settings) (history ++ [c])).head? = some x →
        x.1 ≠ .repeated)
      ∧ (emitted next notices (.new settings) (history ++ [c])).IsChain fun x y =>
        y.1 = .repeated → x.2 + settings.repeatIntervalMs ≤ y.2 ∨ 2 ^ 64 - 1 ≤ y.2 := by
  have hcall := after_called henabled history c
  have hsettled := after_settings henabled history
  refine ⟨turns_alternate henabled history, fun h => ?_, fun h => ?_,
    fun now reading hc hunknown => ?_,
    fun hlatch h => ?_, fun h => ?_, notices_spaced henabled _⟩
  · obtain ⟨-, ⟨⟩, -⟩ | ⟨now, reading, rfl, hcondition, hactive, hlong, -⟩ := hcall.turn h nofun
    rw [hsettled] at hlong
    exact persisted_advance henabled hcondition hactive hlong
  · obtain ⟨rfl, -, hready⟩ | ⟨now, reading, rfl, hcondition, hactive, hlong, -⟩ :=
      hcall.turn h nofun
    · obtain ⟨since, htimer, hlong⟩ := ready_long henabled hready
      refine persisted henabled since (.inr ⟨htimer, nofun⟩) ?_
      rwa [clock, foldl_concat]
    · rw [hsettled] at hlong
      exact persisted_advance henabled hcondition hactive hlong
  · subst hc
    have hnone := condition_none.mpr hunknown
    unfold turns
    generalize after settings (history ++ [_]) = s', ((after settings history).call _).2 = events
      at hcall
    cases hcall with
    | evaluated h | reminded h =>
      cases h with
      | idle => exact ⟨rfl, rfl⟩
      | waiting h | ready h | tripped h | cleared h => cases hnone.symm.trans h
  · obtain ⟨rfl, -, hready⟩ | ⟨_, _, -, -, -, -, hunlogged⟩ := hcall.turn h nofun
    · exact ⟨rfl, hready⟩
    · rw [hsettled, hlatch] at hunlogged
      cases hunlogged rfl
  · generalize after settings (history ++ [c]) = s', ((after settings history).call c).2 = events
      at hcall h
    cases hcall with
    | evaluated h' => cases h' <;> simp at h
    | reminded _ hactive hacknowledge => exact ⟨hactive, hacknowledge⟩
    | acknowledged | refused => cases h
    | reset => simp at h

end

/-- An alarm on a missing reading, with a reminder every second. -/
def siren : AlarmSettings ℚ :=
  { name := "siren", enabled := true, source := "mast", condition := .unavailable
    tripValue := none, clearValue := none, smoothed := false, tripDelayMs := 0, clearDelayMs := 0
    latched := true, repeatIntervalMs := 1000, onTrip := [], onClear := []
    tripMessage := "", clearMessage := "", repeatMessage := "" }

/-- At the end of time the deadline saturates, and every advance reminds. -/
theorem reminders_saturate : siren.enabled = true ∧ emitted next notices (.new siren)
      [.advance (2 ^ 64 - 1) .missing, .advance (2 ^ 64 - 1) .missing]
    = [(.trip, 2 ^ 64 - 1), (.repeated, 2 ^ 64 - 1), (.repeated, 2 ^ 64 - 1)] := by
  decide +kernel

/-- The reminder a second after the trip. -/
theorem alarm_life_siren :
    .repeated ∈ ((after siren [.advance 0 .missing]).call (.advance 1000 .missing)).2
      ∧ (after siren [.advance 0 .missing, .advance 1000 .missing]).active = true := by
  have hrep :
      .repeated ∈ ((after siren [.advance 0 .missing]).call (.advance 1000 .missing)).2 := by
    decide +kernel
  exact ⟨hrep, ((alarm_life (rfl : siren.enabled = true) [.advance 0 .missing]
    (.advance 1000 .missing)).2.2.2.2.2.1 hrep).1⟩

end AlarmState

/-! ## Pulses of an output -/

/-- A call on an output. -/
inductive OutputCall where
  | command (request : OutputRequest) (now : Nat)
  | advance (now : Nat) (available : Bool)
  | reconfigure (settings : OutputSettings)

namespace OutputState

def call (s : OutputState) : OutputCall → OutputState
  | .command request now => (s.command request now).toOption.getD s
  | .advance now available => s.advance now available
  | .reconfigure settings => s.reconfigure settings

/-- The call is a pulse at `t`, and it is accepted. -/
def Pulsed (t : Nat) (s : OutputState) (c : OutputCall) : Prop :=
  c = .command .pulse t ∧ (s.command .pulse t).isOk = true

/-- A call of the history is a pulse whose time and state meet `Q`, and all later ones meet `P`. -/
def Since (settings : OutputSettings) (history : List OutputCall)
    (P : OutputState → OutputCall → Prop) (Q : Nat → OutputState → Prop) : Prop :=
  ∃ before c span t, history = before ++ c :: span ∧ Pulsed t (before.foldl call (new settings)) c ∧
    Along call P (call (before.foldl call (new settings)) c) span ∧
    Q t (before.foldl call (new settings))

/-- The call is no advance that finds the output available. -/
def Unfound (s : OutputState) (c : OutputCall) : Prop :=
  ∀ now, c = .advance now true → s.settings.enabled = false

/-- The demand that the end of a running pulse restores. -/
def prior (s : OutputState) : Option Bool := s.pulseDeadlineMs.map fun _ => s.priorOn

variable {s : OutputState} {c : OutputCall} {deadline : Nat}

/-- An accepted command ends the pulse, or is one. -/
theorem command_ok_cases {request : OutputRequest} {now : Nat} {u : OutputState}
    (h : s.command request now = .ok u) :
    request ≠ .pulse ∧ u.pulseDeadlineMs = none ∨
    request = .pulse ∧ u.pulseDeadlineMs = some (min (now + s.settings.pulseMs) (2 ^ 64 - 1)) ∧
      u.priorOn = if s.pulseDeadlineMs = none then s.requestedOn else s.priorOn := by
  unfold command at h
  split at h
  · cases h
  · cases request <;> cases h
    · exact .inl ⟨by simp, rfl⟩
    · exact .inl ⟨by simp, rfl⟩
    · exact .inr ⟨rfl, rfl, rfl⟩

/-- An advance faults the output, ends a pulse by its deadline, or keeps the demand. -/
theorem advance_cases (s : OutputState) (now : Nat) (available : Bool) :
    (available && s.settings.enabled) = false ∧ s.advance now available =
      { s with fault := true, requestedOn := s.settings.safeOn, pulseDeadlineMs := none } ∨
    (available && s.settings.enabled) = true ∧
      (s.advance now available =
        { s with fault := false, requestedOn := s.priorOn, pulseDeadlineMs := none } ∧
        (∃ deadline, s.pulseDeadlineMs = some deadline ∧ deadline ≤ now) ∨
      s.advance now available = { s with fault := false }) := by
  unfold advance
  dsimp only
  rw [← Bool.not_and]
  cases available && s.settings.enabled with
  | false => exact .inl ⟨rfl, rfl⟩
  | true =>
    refine .inr ⟨rfl, ?_⟩
    rw [if_neg (by simp)]
    split
    · rename_i hdue
      obtain ⟨deadline, hset, hle⟩ := (Option.any_eq_true ..).mp hdue
      exact .inl ⟨rfl, deadline, hset, of_decide_eq_true hle⟩
    · exact .inr rfl

theorem reconfigure_cases (s : OutputState) (settings : OutputSettings) :
    s.reconfigure settings = new settings ∨ s.reconfigure settings = { s with settings } := by
  unfold reconfigure
  split
  · exact .inl rfl
  · exact .inr rfl

/-- The deadline is that of the last pulse, and the prior demand that before the first. -/
theorem call_deadline (h : (s.call c).pulseDeadlineMs = some deadline) :
    (∃ t, Pulsed t s c ∧ deadline = min (t + s.settings.pulseMs) (2 ^ 64 - 1) ∧
      (s.call c).priorOn = if s.pulseDeadlineMs = none then s.requestedOn else s.priorOn) ∨
    s.pulseDeadlineMs = some deadline ∧ (s.call c).priorOn = s.priorOn ∧ ∀ t, ¬Pulsed t s c := by
  cases c with
  | command request now =>
    cases hcommand : s.command request now with
    | error e =>
      have hsame : s.call (.command request now) = s := by
        simp only [call, hcommand]
        rfl
      rw [hsame] at h ⊢
      refine .inr ⟨h, rfl, fun t ht => ?_⟩
      obtain ⟨hpulse, hok⟩ := ht
      cases hpulse
      rw [hcommand] at hok
      cases hok
    | ok u =>
      have hsame : s.call (.command request now) = u := by
        simp only [call, hcommand]
        rfl
      rw [hsame] at h ⊢
      rcases command_ok_cases hcommand with ⟨-, hnone⟩ | ⟨rfl, hset, hprior⟩
      · rw [hnone] at h
        cases h
      · exact .inl ⟨now, ⟨rfl, by rw [hcommand]; rfl⟩, Option.some.inj (h.symm.trans hset), hprior⟩
  | advance now available =>
    change (s.advance now available).pulseDeadlineMs = _ at h
    change _ ∨ _ ∧ (s.advance now available).priorOn = _ ∧ _
    rcases s.advance_cases now available with ⟨-, heq⟩ | ⟨-, ⟨heq, -⟩ | heq⟩ <;> rw [heq] at h ⊢
    · cases h
    · cases h
    · exact .inr ⟨h, rfl, fun t ht => by cases ht.1⟩
  | reconfigure settings =>
    change (s.reconfigure settings).pulseDeadlineMs = _ at h
    change _ ∨ _ ∧ (s.reconfigure settings).priorOn = _ ∧ _
    rcases s.reconfigure_cases settings with heq | heq <;> rw [heq] at h ⊢
    · cases h
    · exact .inr ⟨h, rfl, fun t ht => by cases ht.1⟩

/-- A demand to restore is that before this pulse, or one that was to restore already. -/
theorem call_prior {p : Bool} (h : (s.call c).prior = some p) :
    (∃ t, Pulsed t s c ∧ s.pulseDeadlineMs = none ∧ s.requestedOn = p) ∨
      s.prior = some p ∧ s.pulseDeadlineMs ≠ none := by
  obtain ⟨deadline, hd, rfl⟩ := map_eq_some_iff.mp h
  rcases call_deadline hd with ⟨t, ht, -, hprior⟩ | ⟨hkept, hprior, -⟩ <;> rw [hprior]
  · by_cases hnone : s.pulseDeadlineMs = none
    · exact .inl ⟨t, ht, hnone, (if_pos hnone).symm⟩
    · obtain ⟨d, hset⟩ := Option.ne_none_iff_exists'.mp hnone
      rw [if_neg hnone]
      exact .inr ⟨by rw [prior, hset]; rfl, hnone⟩
  · exact .inr ⟨by rw [prior, hkept]; rfl, by simp [hkept]⟩

/-- A deadline is that of this pulse, or one that was set already. -/
theorem call_pulse (h : (s.call c).pulseDeadlineMs = some deadline) :
    (∃ t, Pulsed t s c ∧ min (t + s.settings.pulseMs) (2 ^ 64 - 1) = deadline) ∨
      s.pulseDeadlineMs = some deadline ∧ s.pulseDeadlineMs ≠ none ∧ ∀ t, ¬Pulsed t s c := by
  rcases call_deadline h with ⟨t, ht, hset, -⟩ | ⟨hkept, -, hno⟩
  · exact .inl ⟨t, ht, hset.symm⟩
  · exact .inr ⟨hkept, by simp [hkept], hno⟩

variable {now : Nat} {available : Bool}

/-- An advance that ends a pulse without a fault does so by the deadline. -/
theorem advance_ended (hset : s.pulseDeadlineMs = some deadline)
    (hok : (s.advance now available).fault = false)
    (hend : (s.advance now available).pulseDeadlineMs = none) :
    deadline ≤ now ∧ (s.advance now available).requestedOn = s.priorOn := by
  rcases s.advance_cases now available with ⟨-, heq⟩ | ⟨-, ⟨heq, d, hd, hle⟩ | heq⟩ <;>
    rw [heq] at hok hend ⊢
  · cases hok
  · exact ⟨Option.some.inj (hset.symm.trans hd) ▸ hle, rfl⟩
  · rw [hset] at hend
    cases hend

theorem advance_kept (hnone : s.pulseDeadlineMs = none)
    (hok : (s.advance now available).fault = false) :
    (s.advance now available).requestedOn = s.requestedOn := by
  rcases s.advance_cases now available with ⟨-, heq⟩ | ⟨-, ⟨-, d, hset, -⟩ | heq⟩
  · rw [heq] at hok
    cases hok
  · rw [hnone] at hset
    cases hset
  · rw [heq]

theorem advance_faulted (hf : (s.advance now available).fault = true) :
    (s.advance now available).pulseDeadlineMs = none ∧
      (s.advance now available).requestedOn = (s.advance now available).settings.safeOn := by
  rcases s.advance_cases now available with ⟨-, heq⟩ | ⟨-, ⟨heq, -⟩ | heq⟩ <;> rw [heq] at hf ⊢
  · exact ⟨rfl, rfl⟩
  · cases hf
  · cases hf

/-- A faulted output rejects every command until an advance finds it available. -/
theorem unavailable_of_unfound {calls : List OutputCall} (hf : s.fault = true)
    (hc : Along call Unfound s calls) (request : OutputRequest) (t : Nat) :
    (calls.foldl call s).command request t = .error .unavailable := by
  induction calls generalizing s with
  | nil => simp [command, hf]
  | cons c calls ih =>
    refine ih ?_ hc.2
    cases c with
    | command request now => simp [call, command, hf, Except.toOption]
    | advance now available =>
      change (s.advance now available).fault = true
      rcases s.advance_cases now available with ⟨-, heq⟩ | ⟨hfound, -⟩
      · rw [heq]
      · obtain ⟨rfl, henabled⟩ := Bool.and_eq_true_iff.mp hfound
        rw [hc.1 now rfl] at henabled
        cases henabled
    | reconfigure settings =>
      change (s.reconfigure settings).fault = true
      rcases s.reconfigure_cases settings with heq | heq <;> rw [heq]
      · rfl
      · exact hf

/-- **A pulse restores the demand before it.** After any calls, an advance that ends a pulse by its
deadline restores the demand before the first pulse since which a deadline is set, and comes no
earlier than the deadline of the last one. A command to switch ends the pulse, and without one the
demand stays. A fault ends it with the safe demand, and every command is rejected until an advance
finds the output available. -/
theorem output_pulses (settings : OutputSettings) (calls : List OutputCall) (now : Nat)
    (available : Bool) :
    let s := calls.foldl call (new settings)
    let s' := s.advance now available
    let history := calls ++ [.advance now available]
    (s.pulseDeadlineMs ≠ none → s'.fault = false → s'.pulseDeadlineMs = none →
      Since settings history (fun s _ => s.pulseDeadlineMs ≠ none)
        (fun _ u => u.pulseDeadlineMs = none ∧ s'.requestedOn = u.requestedOn) ∧
      Since settings history (fun s c => s.pulseDeadlineMs ≠ none ∧ ∀ t, ¬Pulsed t s c)
        fun t u => min (t + u.settings.pulseMs) (2 ^ 64 - 1) ≤ now) ∧
    (∀ request t u, request ≠ .pulse → s.command request t = .ok u → u.pulseDeadlineMs = none) ∧
    (s.pulseDeadlineMs = none → s'.fault = false → s'.requestedOn = s.requestedOn) ∧
    (s'.fault = true → s'.pulseDeadlineMs = none ∧ s'.requestedOn = s'.settings.safeOn ∧
      ∀ later, Along call Unfound s' later → ∀ request t,
        (later.foldl call s').command request t = .error .unavailable) := by
  intro s s' history
  refine ⟨fun hset hok hend => ?_, fun request t u hne hcmd => ?_, advance_kept, fun hf => ?_⟩
  · obtain ⟨deadline, hd⟩ := Option.ne_none_iff_exists'.mp hset
    obtain ⟨hle, hrestored⟩ := advance_ended hd hok hend
    constructor
    · obtain ⟨before, c, span, hsplit, ⟨t, ht, hnone, hprior⟩, hspan⟩ := exists_span
        (I := fun _ => True) (a := OutputCall.advance now available) (fun _ _ => id)
        (fun _ _ _ _ => call_prior) trivial rfl
        (.inr ⟨congrArg (Option.map fun _ => s.priorOn) hd, hset⟩)
      exact ⟨before, c, span, t, hsplit, ht, hspan, hnone, hrestored.trans hprior.symm⟩
    · obtain ⟨before, c, span, hsplit, ⟨t, ht, rfl⟩, hspan⟩ := exists_span
        (I := fun _ => True) (a := OutputCall.advance now available) (fun _ _ => id)
        (fun _ _ _ _ => call_pulse) trivial rfl (.inr ⟨hd, hset, fun t ht => nomatch ht.1⟩)
      exact ⟨before, c, span, t, hsplit, ht, hspan, hle⟩
  · exact (command_ok_cases hcmd).elim And.right fun h => absurd h.1 hne
  · obtain ⟨hnone, hsafe⟩ := advance_faulted hf
    exact ⟨hnone, hsafe, fun later hlate => unavailable_of_unfound hf hlate⟩

/-- At the end of time the deadline saturates. -/
theorem pulse_saturates :
    let output : OutputSettings := ⟨"lamp", true, none, true, false, false, 100⟩
    let s := [.advance 0 true, .command .pulse (2 ^ 64 - 2)].foldl call (new output)
    s.pulseDeadlineMs ≠ none ∧ (s.advance (2 ^ 64 - 1) true).pulseDeadlineMs = none ∧
      (s.advance (2 ^ 64 - 1) true).fault = false := by
  decide

end OutputState

end RptAdvanced.Site
