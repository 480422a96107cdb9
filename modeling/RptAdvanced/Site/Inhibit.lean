import RptAdvanced.Lib.Run
import RptAdvanced.Site.Controller
import RptAdvanced.Site.Persistence

/-!
# Protective inhibits

A source of actions (an operator, an input or an alarm) holds the transmitter inhibited from an
`inhibit` action that asserts until one of its own that releases. `SiteDesk` runs a controller
through its calls, with the gate that replays the emitted `transmitInhibit` effects.

Two relations say what the parts of a call do. `Turn.Quiet`: neither inhibitors nor alarms change.
`Turn.Moves`: an inhibit is given up only by a releasing action of its source, among the actions the
part performed, and the emitted effects replay the aggregate. `actions_mem` says who holds an
inhibit after a list of actions: its source by the last inhibit action of the list, every other
source as before. The alarms' own invariant is `Protected`.

Result: `inhibit_latched`.
-/

namespace RptAdvanced.Site

open Lib List Option Bool SiteController Turn

variable {F : Type}

/-! ## The desk -/

/-- The calls of a controller. -/
inductive SiteMove (F : Type) where
  | advance (now : Nat) (observations : SiteObservations F) (ptt : String → Bool)
  | command (command : SiteCommand F) (now : Nat)
  | reconfigure (settings : ResolvedSiteSettings F)

/-- What a call does: a rejected command does nothing. -/
def SiteController.turn [DecidableEq F] [Analog F] (site : SiteController F) : SiteMove F → Turn F
  | .advance now observations ptt => site.advance now observations ptt
  | .command command now =>
    match site.command command now with
    | .ok t => t
    | .error _ => .start site
  | .reconfigure settings => .start (site.reconfigure settings)

/-- The gate after a list of effects. -/
def replay (gate : Bool) (effects : List (SiteEffect F)) : Bool :=
  effects.foldl
    (fun gate effect => match effect with
      | .transmitInhibit enabled => enabled
      | _ => gate)
    gate

/-- A controller, and the gate that follows its effects. -/
structure SiteDesk (F : Type) where
  site : SiteController F
  gate : Bool

namespace SiteDesk

/-- One call. The caller of `reconfigure` republishes the aggregate. -/
def next [DecidableEq F] [Analog F] (d : SiteDesk F) (move : SiteMove F) : SiteDesk F :=
  let t := d.site.turn move
  { site := t.site
    gate := match move with
      | .reconfigure _ => t.site.transmitInhibited
      | _ => replay d.gate t.effects }

/-- A new controller on resolved settings. -/
def Initial [DecidableEq F] [Analog F] (d : SiteDesk F) : Prop :=
  ∃ settings : ResolvedSiteSettings F, settings.Valid ∧ d.site = .new settings ∧ d.gate = false

/-- A call; a controller is reconfigured with resolved settings. -/
def Step [DecidableEq F] [Analog F] (d : SiteDesk F) (move : SiteMove F) (d' : SiteDesk F) : Prop :=
  (∀ settings, move = .reconfigure settings → settings.Valid) ∧ d' = d.next move

end SiteDesk

/-! ## What parts of a call may do -/

/-- Neither inhibitors nor alarms change, and no gate effect is emitted. -/
structure Turn.Quiet (t t' : Turn F) : Prop where
  settings : t'.site.settings = t.site.settings
  readings : t'.site.sensors = t.site.sensors ∧ t'.site.inputs = t.site.inputs
  alarms : t'.site.alarms = t.site.alarms
  inhibitors : t'.site.inhibitors = t.site.inhibitors
  performed : t'.performed = t.performed
  effects : ∃ emitted, t'.effects = t.effects ++ emitted ∧ ∀ gate, replay gate emitted = gate

namespace Turn

variable {t t' t'' : Turn F} {source : ActionSource} {site : SiteController F}

theorem Quiet.refl (t : Turn F) : Quiet t t :=
  ⟨rfl, ⟨rfl, rfl⟩, rfl, rfl, rfl, [], (append_nil _).symm, fun _ => rfl⟩

theorem replay_append (gate : Bool) (first second : List (SiteEffect F)) :
    replay gate (first ++ second) = replay (replay gate first) second :=
  foldl_append

theorem Quiet.trans (h : Quiet t t') (k : Quiet t' t'') : Quiet t t'' := by
  obtain ⟨first, hfirst, hquiet⟩ := h.effects
  obtain ⟨second, hsecond, hquiet'⟩ := k.effects
  refine ⟨k.settings.trans h.settings,
    ⟨k.readings.1.trans h.readings.1, k.readings.2.trans h.readings.2⟩,
    k.alarms.trans h.alarms, k.inhibitors.trans h.inhibitors, k.performed.trans h.performed,
    first ++ second, ?_, fun gate => ?_⟩
  · rw [hsecond, hfirst, append_assoc]
  · rw [replay_append, hquiet, hquiet']

/-- One effect that is not about the gate. -/
theorem emit_quiet (t : Turn F) {effect : SiteEffect F}
    (h : ∀ enabled, effect ≠ .transmitInhibit enabled) : Quiet t (t.emit effect) := by
  refine ⟨rfl, ⟨rfl, rfl⟩, rfl, rfl, rfl, [effect], rfl, fun gate => ?_⟩
  cases effect with
  | transmitInhibit enabled => exact absurd rfl (h enabled)
  | _ => rfl

/-- A change of the site that leaves settings, readings, alarms and inhibitors. -/
theorem site_quiet (t : Turn F) (hsettings : site.settings = t.site.settings)
    (hread : site.sensors = t.site.sensors ∧ site.inputs = t.site.inputs)
    (halarms : site.alarms = t.site.alarms) (hinhibitors : site.inhibitors = t.site.inhibitors) :
    Quiet t { t with site } :=
  ⟨hsettings, hread, halarms, hinhibitors, rfl, [], (append_nil _).symm, fun _ => rfl⟩

/-- An inhibit action's value. -/
def inhibitOf : SiteAction F → Option Bool
  | .inhibit enabled => some enabled
  | _ => none

/-- The last inhibit action of a list. -/
def lastInhibit (list : List (SiteAction F)) : Option Bool :=
  (list.filterMap inhibitOf).getLast?

/-- The source holds its inhibit, after one more action. -/
def holds (held : Bool) (a : SiteAction F) : Bool := (inhibitOf a).getD held

/-- After a list of actions the last inhibit action decides. -/
theorem foldl_holds (held : Bool) (list : List (SiteAction F)) :
    list.foldl holds held = (lastInhibit list).getD held := by
  induction list generalizing held with
  | nil => rfl
  | cons a list ih =>
    rw [foldl_cons, ih]
    unfold lastInhibit holds
    cases ha : inhibitOf a with
    | none =>
      rw [filterMap_cons_none ha]
      rfl
    | some enabled =>
      rw [filterMap_cons_some ha, getLast?_cons]
      rfl

/-- Settings, readings, alarms and the inhibits of other sources are as they were. -/
structure Aside (source : ActionSource) (t t' : Turn F) : Prop where
  settings : t'.site.settings = t.site.settings
  readings : t'.site.sensors = t.site.sensors ∧ t'.site.inputs = t.site.inputs
  alarms : t'.site.alarms = t.site.alarms
  others : ∀ other, other ≠ source → (other ∈ t'.site.inhibitors ↔ other ∈ t.site.inhibitors)

theorem Aside.refl (source : ActionSource) (t : Turn F) : Aside source t t :=
  ⟨rfl, ⟨rfl, rfl⟩, rfl, fun _ _ => Iff.rfl⟩

theorem Aside.trans (h : Aside source t t') (k : Aside source t' t'') :
    Aside source t t'' :=
  ⟨k.settings.trans h.settings, ⟨k.readings.1.trans h.readings.1, k.readings.2.trans h.readings.2⟩,
    k.alarms.trans h.alarms, fun other hne => (k.others other hne).trans (h.others other hne)⟩

/-- What one action does to the inhibitors, the alarms and the log. -/
structure Acted (source : ActionSource) (a : SiteAction F) (t t' : Turn F) : Prop
    extends Aside source t t' where
  performed : t'.performed = t.performed ++ [(source, a)]
  held : decide (source ∈ t'.site.inhibitors) = holds (decide (source ∈ t.site.inhibitors)) a
  gate : ∃ emitted, t'.effects = t.effects ++ emitted ∧
    replay t.site.transmitInhibited emitted = t'.site.transmitInhibited

theorem transmitInhibited_congr (h : t'.site.inhibitors = t.site.inhibitors) :
    t'.site.transmitInhibited = t.site.transmitInhibited := by
  unfold transmitInhibited
  rw [h]

/-- A quiet part after the log entry of an action that is not an inhibit. -/
theorem Quiet.acted {a : SiteAction F} (hnone : inhibitOf a = none)
    (h : Quiet { t with performed := t.performed ++ [(source, a)] } t') : Acted source a t t' := by
  obtain ⟨emitted, heffects, hreplay⟩ := h.effects
  refine ⟨⟨h.settings, h.readings, h.alarms, fun other _ => by rw [h.inhibitors]⟩, h.performed, ?_,
    emitted, heffects, ?_⟩
  · unfold holds
    rw [hnone, h.inhibitors]
    rfl
  · rw [hreplay, transmitInhibited_congr h.inhibitors]

variable {orders : ActionSource → SiteAction F → Prop}

/-- The part performed only actions that meet `orders`; an inhibit was given up only by a releasing
action of its source; the emitted effects replay the aggregate. -/
structure Moves (orders : ActionSource → SiteAction F → Prop) (t t' : Turn F) : Prop where
  settings : t'.site.settings = t.site.settings
  performed : ∃ done, t'.performed = t.performed ++ done ∧ (∀ e ∈ done, orders e.1 e.2) ∧
    ∀ source ∈ t.site.inhibitors, source ∉ t'.site.inhibitors → (source, .inhibit false) ∈ done
  gate : ∃ emitted, t'.effects = t.effects ++ emitted ∧
    replay t.site.transmitInhibited emitted = t'.site.transmitInhibited

theorem Quiet.moves (h : Quiet t t') : Moves orders t t' := by
  obtain ⟨emitted, heffects, hreplay⟩ := h.effects
  refine ⟨h.settings, ⟨[], ?_, fun _ hmem => (not_mem_nil hmem).elim, fun source hin hout => ?_⟩,
    emitted, heffects, ?_⟩
  · rw [h.performed, append_nil]
  · rw [h.inhibitors] at hout
    exact absurd hin hout
  · rw [hreplay, transmitInhibited_congr h.inhibitors]

/-- A change of the site that leaves settings and inhibitors. -/
theorem moves_of_site (t : Turn F)
    (hsettings : site.settings = t.site.settings)
    (hinhibitors : site.inhibitors = t.site.inhibitors) :
    Moves orders t { t with site } := by
  refine ⟨hsettings, ⟨[], (append_nil _).symm, fun _ h => (not_mem_nil h).elim,
    fun source hin hout => ?_⟩, [], (append_nil _).symm, ?_⟩
  · rw [hinhibitors] at hout
    exact absurd hin hout
  · exact (transmitInhibited_congr hinhibitors).symm

theorem Moves.refl (t : Turn F) : Moves orders t t := (Quiet.refl t).moves

theorem Moves.trans (h : Moves orders t t') (k : Moves orders t' t'') : Moves orders t t'' := by
  obtain ⟨done, hdone, horders, hreleased⟩ := h.performed
  obtain ⟨done', hdone', horders', hreleased'⟩ := k.performed
  obtain ⟨emitted, heffects, hreplay⟩ := h.gate
  obtain ⟨emitted', heffects', hreplay'⟩ := k.gate
  refine ⟨k.settings.trans h.settings,
    ⟨done ++ done', ?_, fun e hmem => ?_, fun source hin hout => ?_⟩,
    emitted ++ emitted', ?_, ?_⟩
  · rw [hdone', hdone, append_assoc]
  · exact (mem_append.mp hmem).elim (horders e) (horders' e)
  · by_cases hmiddle : source ∈ t'.site.inhibitors
    · exact mem_append_right _ (hreleased' source hmiddle hout)
    · exact mem_append_left _ (hreleased source hin hmiddle)
  · rw [heffects', heffects, append_assoc]
  · rw [replay_append, hreplay, hreplay']

/-- What every turn of a loop keeps. -/
theorem foldl_of_mem {α : Type} {f : Turn F → α → Turn F} {P : Turn F → Prop} {l : List α}
    (hf : ∀ t, ∀ a ∈ l, P t → P (f t a)) (ht : P t) : P (l.foldl f t) := by
  induction l generalizing t with
  | nil => exact ht
  | cons a l ih =>
    exact ih (fun t b hb => hf t b (mem_cons_of_mem _ hb)) (hf t a mem_cons_self ht)

theorem Acted.moves {a : SiteAction F} (h : Acted source a t t')
    (ha : orders source a) : Moves orders t t' := by
  refine ⟨h.settings, ⟨[(source, a)], h.performed, fun e hmem => ?_, fun other hin hout => ?_⟩,
    h.gate⟩
  · rw [mem_singleton.mp hmem]
    exact ha
  · by_cases heq : other = source
    · subst heq
      have hheld := h.held
      rw [decide_eq_false hout, decide_eq_true hin] at hheld
      -- only a releasing action takes the inhibit
      cases a with
      | inhibit enabled =>
        change false = enabled at hheld
        rw [← hheld]
        exact mem_singleton_self _
      | _ => cases hheld
    · exact absurd ((h.others other heq).mpr hin) hout

/-! ## Parts that leave inhibits alone -/

variable {now : Nat}

theorem publishOutput_quiet (t : Turn F) (name : String) : Quiet t (t.publishOutput name) := by
  unfold publishOutput
  cases t.site.outputs name with
  | none => exact .refl t
  | some s =>
    dsimp only
    split
    · exact site_quiet t rfl ⟨rfl, rfl⟩ rfl rfl
    refine Quiet.trans ?_ (emit_quiet _ fun _ h => ?_)
    · exact site_quiet t rfl ⟨rfl, rfl⟩ rfl rfl
    · cases h

theorem output_quiet {name : String} {request : OutputRequest}
    (h : t.output name request now = .ok t') : Quiet t t' := by
  unfold output at h
  split at h
  · cases h
  split at h
  · cases h
  split at h
  · cases h
  cases h
  refine Quiet.trans ?_ (publishOutput_quiet _ name)
  exact site_quiet t rfl ⟨rfl, rfl⟩ rfl rfl

/-- A loop of quiet turns is quiet. -/
theorem foldl_quiet {α : Type} {f : Turn F → α → Turn F} (hf : ∀ t a, Quiet t (f t a))
    (l : List α) (t : Turn F) : Quiet t (l.foldl f t) :=
  foldl_of_mem (fun t' a _ ht => ht.trans (hf t' a)) (.refl t)

/-! ## Actions -/

theorem inhibit_acted (t : Turn F) (source : ActionSource) (enabled : Bool) :
    Acted source (.inhibit enabled) t
      (inhibit { t with performed := t.performed ++ [(source, SiteAction.inhibit enabled)] } source
        enabled) := by
  have hmem : ∀ other, other ∈ (if enabled then insert source t.site.inhibitors
      else t.site.inhibitors.erase source) ↔
        if other = source then enabled = true else other ∈ t.site.inhibitors := by
    intro other
    cases enabled with
    | true | false =>
      by_cases heq : other = source <;> simp [heq]
  unfold inhibit
  dsimp only
  generalize (if enabled then insert source t.site.inhibitors
    else t.site.inhibitors.erase source) = inhibitors at hmem ⊢
  have hothers : ∀ other, other ≠ source → (other ∈ inhibitors ↔ other ∈ t.site.inhibitors) := by
    intro other hne
    rw [hmem, if_neg hne]
  have hheld : decide (source ∈ inhibitors) = enabled := by
    rw [Bool.eq_iff_iff, decide_eq_true_iff, hmem, if_pos rfl]
  split
  · rename_i hsame
    exact ⟨⟨rfl, ⟨rfl, rfl⟩, rfl, hothers⟩, rfl, hheld, [], (append_nil _).symm, hsame⟩
  · exact ⟨⟨rfl, ⟨rfl, rfl⟩, rfl, hothers⟩, rfl, hheld, _, rfl, rfl⟩

end Turn

/-! ## Alarms -/

/-- What an alarm's evaluation reports: nothing but a reminder while its state stays, a trip when it
becomes active, a clear when it recovers. -/
theorem AlarmState.advance_spec [Analog F] (s : AlarmState F) (now : Nat)
    (reading : Observation (AlarmValue F)) : ((s.advance now reading).1.active = s.active ∧
        ∀ event ∈ (s.advance now reading).2, event = .repeated) ∨
      ((s.advance now reading).1.active = true ∧ ∃ rest, (s.advance now reading).2 = .trip :: rest ∧
        ∀ event ∈ rest, event = .repeated) ∨
      ((s.advance now reading).1.active = false ∧ (s.advance now reading).2 = [.clear]) := by
  cases henabled : s.settings.enabled with
  | false =>
    unfold AlarmState.advance
    rw [henabled]
    exact .inl ⟨rfl, nofun⟩
  | true =>
    have hcall :
      s.Called (.advance now reading) (s.advance now reading).1 (s.advance now reading).2 :=
      s.called henabled _
    generalize (s.advance now reading).1 = s', (s.advance now reading).2 = events at hcall ⊢
    cases hcall with
    | evaluated h =>
      cases h with
      | idle | waiting | ready => exact .inl ⟨rfl, nofun⟩
      | tripped => exact .inr (.inl ⟨rfl, [], rfl, nofun⟩)
      | cleared => exact .inr (.inr ⟨rfl, rfl⟩)
    | reminded h hactive =>
      cases h with
      | idle | waiting | ready => exact .inl ⟨rfl, fun _ he => mem_singleton.mp he⟩
      | tripped => exact .inr (.inl ⟨rfl, _, rfl, fun _ he => mem_singleton.mp he⟩)
      | cleared => cases hactive

/-- An unknown reading leaves an alarm as it is, but for its timers, and reports nothing but a
reminder. -/
theorem AlarmState.advance_unknown [Analog F] {s : AlarmState F} (now : Nat)
    {reading : Observation (AlarmValue F)} (h : s.Unknown reading) :
    (s.advance now reading).1.settings = s.settings ∧ (s.advance now reading).1.active = s.active ∧
      ∀ event ∈ (s.advance now reading).2, event = .repeated := by
  unfold AlarmState.advance AlarmState.transition AlarmState.remind
  rw [AlarmState.condition_none.mpr h]
  split
  · exact ⟨rfl, rfl, nofun⟩
  dsimp only
  split
  · exact ⟨rfl, rfl, fun _ hevent => mem_singleton.mp hevent⟩
  · exact ⟨rfl, rfl, nofun⟩

/-- An alarm that asserts last when it trips is active only while its inhibit is held. -/
def Protected (site : SiteController F) : Prop :=
  ∀ policy ∈ site.settings.alarms, lastInhibit policy.onTrip = some true →
    ∀ s, site.alarms policy.name = some s → s.active = true → .alarm policy.name ∈ site.inhibitors

theorem AlarmState.reset_inactive {s s' : AlarmState F} {event : Option AlarmEvent}
    (h : s.reset = .ok (s', event)) : s'.active = false := by
  unfold AlarmState.reset at h
  split at h
  · rename_i hinactive
    cases h
    simpa using hinactive
  · split at h
    · cases h
    · cases h
      rfl

namespace Turn

variable {t t' : Turn F}

theorem Quiet.protected (h : Quiet t t') (hp : Protected t.site) : Protected t'.site := by
  unfold Protected
  rw [h.settings, h.alarms, h.inhibitors]
  exact hp

/-- Actions of a source that is no alarm leave the alarms' inhibits. -/
theorem Aside.protected {source : ActionSource} (h : Aside source t t')
    (hsource : ∀ name, source ≠ .alarm name) (hp : Protected t.site) : Protected t'.site := by
  intro policy hpolicy htrip s hs haction
  rw [h.settings] at hpolicy
  rw [h.alarms] at hs
  rw [h.others _ fun heq => hsource policy.name heq.symm]
  exact hp policy hpolicy htrip s hs haction

/-- An alarm gets a new state and performs actions: it is to hold its inhibit where that state is
active. -/
theorem Aside.insert_protected {name : String} {s : AlarmState F} (h : Aside (.alarm name)
      { t with site := { t.site with alarms := t.site.alarms.insert name s } } t')
    (hself : ∀ policy ∈ t.site.settings.alarms, policy.name = name →
      lastInhibit policy.onTrip = some true → s.active = true → .alarm name ∈ t'.site.inhibitors)
    (hp : Protected t.site) : Protected t'.site := by
  intro other hother htrip u hu haction
  rw [h.settings] at hother
  rw [h.alarms] at hu
  dsimp only at hu
  by_cases hname : other.name = name
  · rw [hname, Named.insert_self] at hu
    cases hu
    rw [hname]
    exact hself other hother hname htrip haction
  · rw [Named.insert_ne _ hname] at hu
    rw [h.others _ fun heq => hname (ActionSource.alarm.inj heq)]
    exact hp other hother htrip u hu haction

end Turn

theorem SiteController.publishTurn_quiet (t : Turn F) (policy : OutputSettings) :
    Turn.Quiet t (publishTurn t policy) := by
  unfold publishTurn
  split
  · exact publishOutput_quiet t _
  · exact .refl t

section Parts

variable [DecidableEq F] [Analog F]

namespace Turn

variable {t t' : Turn F} {now : Nat}

theorem fanEffect_quiet (t : Turn F) (policy : FanSettings F) :
    Quiet t (fanEffect now t policy) := by
  unfold fanEffect
  split
  · exact .refl t
  cases t.site.fans policy.name with
  | none => exact .refl t
  | some s =>
    dsimp only
    split
    · exact site_quiet t rfl ⟨rfl, rfl⟩ rfl rfl
    refine Quiet.trans ?_ (emit_quiet _ fun _ h => ?_)
    · exact site_quiet t rfl ⟨rfl, rfl⟩ rfl rfl
    · cases h

theorem fanEffects_quiet (t : Turn F) (now : Nat) : Quiet t (t.fanEffects now) :=
  foldl_quiet fanEffect_quiet _ t

theorem fan_quiet {name : String} {duty : Option F} (h : t.fan name duty now = .ok t') :
    Quiet t t' := by
  unfold fan at h
  split at h
  · cases h
  split at h
  · cases h
  split at h
  · cases h
  cases h
  refine Quiet.trans ?_ (fanEffects_quiet _ now)
  exact site_quiet t rfl ⟨rfl, rfl⟩ rfl rfl

/-- **What one action does.** -/
theorem action_acted (source : ActionSource) (now : Nat) (t : Turn F) (a : SiteAction F) :
    Acted source a t (action source now t a) := by
  have hfault : ∀ error, Quiet { t with performed := t.performed ++ [(source, a)] }
      ({ t with performed := t.performed ++ [(source, a)] }.emit (.fault source.text error)) :=
    fun error => emit_quiet _ nofun
  unfold action
  cases a with
  | callMacro name => exact Quiet.acted rfl (emit_quiet _ fun _ h => by cases h)
  | inhibit enabled => exact inhibit_acted t source enabled
  | output name request =>
    dsimp only
    split
    · rename_i t' hok
      exact Quiet.acted rfl (output_quiet hok)
    · exact Quiet.acted rfl (hfault _)
  | fan name duty =>
    dsimp only
    split
    · rename_i t' hok
      exact Quiet.acted rfl (fan_quiet hok)
    · exact Quiet.acted rfl (hfault _)

theorem actions_aside (t : Turn F) (source : ActionSource) (list : List (SiteAction F))
    (now : Nat) : Aside source t (t.actions source list now) :=
  foldl_of_mem (fun t' a _ ht => ht.trans (action_acted source now t' a).toAside) (.refl source t)

/-- The last inhibit action of a list decides whether its source holds an inhibit. -/
theorem actions_mem (t : Turn F) (source : ActionSource) (list : List (SiteAction F)) (now : Nat) :
    decide (source ∈ (t.actions source list now).site.inhibitors) =
      (lastInhibit list).getD (decide (source ∈ t.site.inhibitors)) := by
  rw [← foldl_holds]
  unfold actions
  induction list generalizing t with
  | nil => rfl
  | cons a list ih =>
    rw [foldl_cons, foldl_cons, ih, (action_acted source now t a).held]

/-! ## What a call does to the inhibits -/

variable {orders : ActionSource → SiteAction F → Prop}

/-- A property that the parts of a call keep, when their actions meet `orders`. -/
structure Kept (orders : ActionSource → SiteAction F → Prop) (now : Nat) (P : Turn F → Prop) :
    Prop where
  action : ∀ {t source a}, orders source a → P t → P (action source now t a)
  message : ∀ {t text}, P t → P (t.emit (.message text))
  output : ∀ {t t' name request}, t.output name request now = .ok t' → P t → P t'
  fan : ∀ {t t' name duty}, t.fan name duty now = .ok t' → P t → P t'
  site :
    ∀ {t} sensors inputs alarms, P t → P { t with site := { t.site with sensors, inputs, alarms } }

omit [DecidableEq F] [Analog F] in
theorem orders_actionsOn {policy : AlarmSettings F}
    (horderly : ∀ a, a ∈ policy.onTrip ∨ a ∈ policy.onClear → orders (.alarm policy.name) a)
    (event : AlarmEvent) : ∀ a ∈ policy.actionsOn event, orders (.alarm policy.name) a := by
  intro a ha
  cases event with
  | trip => exact horderly a (.inl ha)
  | clear => exact horderly a (.inr ha)
  | repeated => exact (not_mem_nil ha).elim

namespace Kept

variable {P : Turn F → Prop} (h : Kept orders now P) {policy : AlarmSettings F}

include h

theorem actions {source : ActionSource} {list : List (SiteAction F)}
    (hlist : ∀ a ∈ list, orders source a) (ht : P t) : P (t.actions source list now) :=
  foldl_of_mem (fun _ a ha => h.action (hlist a ha)) ht

theorem alarmEvent {event : AlarmEvent}
    (horderly : ∀ a ∈ policy.actionsOn event, orders (.alarm policy.name) a) (ht : P t) :
    P (alarmEvent policy now t event) := by
  unfold Turn.alarmEvent
  split
  · exact h.actions horderly ht
  · exact h.message (h.actions horderly ht)

theorem inputTurn (observations : SiteObservations F) {policy : InputSettings F}
    (horderly : ∀ a, a ∈ policy.onActive ∨ a ∈ policy.onInactive → orders (.input policy.name) a)
    (ht : P t) : P (inputTurn now observations t policy) := by
  unfold Turn.inputTurn
  split
  · exact ht
  cases t.site.inputs policy.name with
  | none => exact ht
  | some s =>
    have hset := fun inputs => h.site t.site.sensors inputs t.site.alarms ht
    dsimp only
    split
    · exact hset _
    refine h.actions (fun a ha => horderly a ?_) (hset _)
    split at ha
    · exact .inl ha
    · exact .inr ha

theorem alarmTurn
    (horderly : ∀ a, a ∈ policy.onTrip ∨ a ∈ policy.onClear → orders (.alarm policy.name) a)
    (ht : P t) : P (alarmTurn now t policy) := by
  unfold Turn.alarmTurn
  cases t.site.alarms policy.name with
  | none => exact ht
  | some s =>
    exact foldl_of_mem (fun _ event _ => h.alarmEvent (orders_actionsOn horderly event))
      (h.site t.site.sensors t.site.inputs _ ht)

end Kept

theorem moves_kept (t₀ : Turn F) : Kept orders now (Moves orders t₀) where
  action ho ht := ht.trans ((action_acted ..).moves ho)
  message ht := ht.trans (emit_quiet _ fun _ h => by cases h).moves
  output hok ht := ht.trans (output_quiet hok).moves
  fan hok ht := ht.trans (fan_quiet hok).moves
  site _ _ _ ht := ht.trans (moves_of_site _ rfl rfl)

/-! ## The alarms' inhibits -/

variable (policy : AlarmSettings F)

theorem alarmEvent_aside (now : Nat) (t : Turn F) (event : AlarmEvent) :
    Aside (.alarm policy.name) t (alarmEvent policy now t event) := by
  have has := actions_aside t (.alarm policy.name) (policy.actionsOn event) now
  unfold alarmEvent
  split <;> exact ⟨has.settings, has.readings, has.alarms, has.others⟩

theorem alarmEvent_inhibitors (t : Turn F) (event : AlarmEvent) :
    (alarmEvent policy now t event).site.inhibitors =
      (t.actions (.alarm policy.name) (policy.actionsOn event) now).site.inhibitors := by
  unfold alarmEvent
  split <;> rfl

/-- Reminders perform no action. -/
theorem reminders_inhibitors {events : List AlarmEvent}
    (hevents : ∀ event ∈ events, event = .repeated) (t : Turn F) :
    (events.foldl (alarmEvent policy now) t).site.inhibitors = t.site.inhibitors := by
  induction events generalizing t with
  | nil => rfl
  | cons event events ih =>
    rw [foldl_cons, ih (fun e he => hevents e (mem_cons_of_mem _ he)),
      hevents event mem_cons_self, alarmEvent_inhibitors]
    rfl

theorem events_aside (events : List AlarmEvent) (t : Turn F) :
    Aside (.alarm policy.name) t (events.foldl (alarmEvent policy now) t) :=
  foldl_of_mem (fun t' event _ ht => ht.trans (alarmEvent_aside policy now t' event)) (.refl _ t)

/-- **One alarm of an advance keeps the alarms protected.** -/
theorem alarmTurn_protected (hvalid : t.site.settings.Valid) (hp : Protected t.site)
    {policy : AlarmSettings F} (hpolicy : policy ∈ t.site.settings.alarms) :
    Protected (alarmTurn now t policy).site := by
  unfold alarmTurn
  cases hs : t.site.alarms policy.name with
  | none => exact hp
  | some s =>
    dsimp only
    generalize hadvance : s.advance now (t.site.alarmReading policy now) = advanced
    obtain ⟨s', events⟩ := advanced
    have hspec := s.advance_spec now (t.site.alarmReading policy now)
    rw [hadvance] at hspec
    refine (events_aside policy events _).insert_protected
      (fun other hother hname htrip hactive => ?_) hp
    have heq : other = policy := hvalid.alarm_eq hother hpolicy hname
    subst heq
    -- a trip asserts, and anything else leaves an active alarm's inhibit
    rcases hspec with ⟨hsame, hevents⟩ | ⟨-, rest, rfl, hevents⟩ | ⟨hinactive, -⟩
    · rw [reminders_inhibitors other hevents]
      exact hp other hother htrip s hs (hsame ▸ hactive)
    · rw [foldl_cons, reminders_inhibitors other hevents, alarmEvent_inhibitors]
      have hmem := actions_mem { t with site := { t.site with
        alarms := t.site.alarms.insert other.name s' } } (.alarm other.name) other.onTrip now
      rw [htrip] at hmem
      exact of_decide_eq_true hmem
    · rw [hactive] at hinactive
      cases hinactive

theorem inputTurn_protected (hp : Protected t.site) (observations : SiteObservations F)
    (policy : InputSettings F) : Protected (inputTurn now observations t policy).site := by
  unfold inputTurn
  split
  · exact hp
  cases t.site.inputs policy.name with
  | none => exact hp
  | some s =>
    dsimp only
    split
    · exact hp
    · exact (actions_aside ..).protected nofun hp

theorem inputTurn_others (t : Turn F) (observations : SiteObservations F)
    (policy : InputSettings F) :
    (inputTurn now observations t policy).site.alarms = t.site.alarms ∧
      ∀ other, other ≠ .input policy.name →
        (other ∈ (inputTurn now observations t policy).site.inhibitors ↔
          other ∈ t.site.inhibitors) := by
  unfold inputTurn
  split
  · exact ⟨rfl, fun _ _ => Iff.rfl⟩
  cases t.site.inputs policy.name with
  | none => exact ⟨rfl, fun _ _ => Iff.rfl⟩
  | some s =>
    dsimp only
    split
    · exact ⟨rfl, fun _ _ => Iff.rfl⟩
    · exact ⟨(actions_aside ..).alarms, (actions_aside ..).others⟩

/-- A reading that is not valid, or has no value, makes no edge. -/
theorem inputTurn_unknown (t : Turn F) {observations : SiteObservations F}
    {policy : InputSettings F}
    (h : ((observations.inputs policy.name).getD .missing).quality = .valid →
      ((observations.inputs policy.name).getD .missing).value = none) :
    (inputTurn now observations t policy).site.inhibitors = t.site.inhibitors := by
  unfold inputTurn
  split
  · rfl
  cases t.site.inputs policy.name with
  | none => rfl
  | some s =>
    have hedge :
        (s.observe ((observations.inputs policy.name).getD .missing) policy now).2 = none := by
      unfold InputState.observe
      split
      · rfl
      · rename_i hvalid
        rw [InputState.accepted, h (not_not.mp hvalid)]
    dsimp only
    rw [hedge]

theorem alarmTurn_others (t : Turn F) (policy : AlarmSettings F) {other : ActionSource}
    (hne : other ≠ .alarm policy.name) :
    other ∈ (alarmTurn now t policy).site.inhibitors ↔ other ∈ t.site.inhibitors := by
  unfold alarmTurn
  cases t.site.alarms policy.name with
  | none => exact Iff.rfl
  | some s => exact (events_aside policy _ _).others other hne

/-- An alarm loop so far, in which the alarm `name` is left as it was and holds its inhibit. -/
structure Unmoved (name : String) (t₀ t : Turn F) : Prop where
  readings : t.site.sensors = t₀.site.sensors ∧ t.site.inputs = t₀.site.inputs
  alarm : (t.site.alarms name).map (fun s => (s.settings, s.active)) =
    (t₀.site.alarms name).map fun s => (s.settings, s.active)
  held : .alarm name ∈ t.site.inhibitors

theorem alarmTurn_unmoved {name : String} {t₀ : Turn F} {policy : AlarmSettings F}
    (hunknown : policy.name = name → ∀ s ∈ t₀.site.alarms name,
      s.Unknown (t₀.site.alarmReading policy now)) (h : Unmoved name t₀ t) :
    Unmoved name t₀ (alarmTurn now t policy) := by
  unfold alarmTurn
  cases hs : t.site.alarms policy.name with
  | none => exact h
  | some s =>
    dsimp only
    generalize hadvance : s.advance now (t.site.alarmReading policy now) = advanced
    obtain ⟨s', events⟩ := advanced
    have haside := @events_aside F _ _ now policy events
      { t with site := { t.site with alarms := t.site.alarms.insert policy.name s' } }
    have halarms (other : String) : _ = t.site.alarms.insert policy.name s' other :=
      congrFun haside.alarms other
    have hreadings := And.intro (haside.readings.1.trans h.readings.1)
      (haside.readings.2.trans h.readings.2)
    by_cases hname : policy.name = name
    · subst hname
      have hsame := h.alarm
      rw [hs, map_some, eq_comm, map_eq_some_iff] at hsame
      obtain ⟨s₀, hs₀, hpair⟩ := hsame
      obtain ⟨hsettings, hactive⟩ := Prod.mk.inj hpair
      -- the reading the loop began with says nothing of the alarm's condition either
      have hreading : s.Unknown (t.site.alarmReading policy now) := by
        have hstart := hunknown rfl s₀ hs₀
        unfold alarmReading at hstart ⊢
        unfold AlarmState.Unknown at hstart ⊢
        rwa [h.readings.1, h.readings.2, ← hsettings, ← hactive]
      obtain ⟨hsettings', hactive', hevents⟩ := AlarmState.advance_unknown now hreading
      rw [hadvance] at hsettings' hactive' hevents
      refine ⟨hreadings, ?_, ?_⟩
      · rw [halarms, Named.insert_self, hs₀, map_some, map_some, hsettings', hactive', hpair]
      · rw [reminders_inhibitors policy hevents]
        exact h.held
    · refine ⟨hreadings, ?_, ?_⟩
      · rw [halarms, Named.insert_ne _ (Ne.symm hname)]
        exact h.alarm
      · exact (haside.others _ fun heq => hname (ActionSource.alarm.inj heq).symm).mpr h.held

end Turn

/-! ## The calls -/

/-- Whose actions a call may perform: an operator's inhibit command, an input's on its edges, an
alarm's on its events. -/
def Ordered (settings : ResolvedSiteSettings F) (move : SiteMove F) :
    ActionSource → SiteAction F → Prop
  | .manual, a => ∃ enabled now, move = .command (.inhibit enabled) now ∧ a = .inhibit enabled
  | .input name, a => (∃ now observations ptt, move = .advance now observations ptt) ∧
    ∃ policy ∈ settings.inputs, policy.name = name ∧ (a ∈ policy.onActive ∨ a ∈ policy.onInactive)
  | .alarm name, a =>
    ((∃ now observations ptt, move = .advance now observations ptt) ∨
      ∃ now, move = .command (.alarmReset name) now) ∧
    ∃ policy ∈ settings.alarms, policy.name = name ∧ (a ∈ policy.onTrip ∨ a ∈ policy.onClear)

namespace SiteController

variable {site : SiteController F} {now : Nat} {command : SiteCommand F} {t : Turn F}

omit [DecidableEq F] in
/-- The part of an advance before inputs and alarms. -/
theorem published_quiet (site : SiteController F) (now : Nat) (observations : SiteObservations F)
    (ptt : String → Bool) : Turn.Quiet (.start (site.observe now observations ptt))
      (site.settings.outputs.foldl publishTurn (.start (site.observe now observations ptt))) :=
  foldl_quiet publishTurn_quiet _ _

theorem advance_kept {observations : SiteObservations F} {ptt : String → Bool} {P Q : Turn F → Prop}
    (h : Turn.Kept (Ordered site.settings (.advance now observations ptt)) now P)
    (hfans : ∀ t, P t → Q (t.fanEffects now))
    (ht : P
      (site.settings.outputs.foldl publishTurn (.start (site.observe now observations ptt)))) :
    Q (site.advance now observations ptt) := by
  refine hfans _ (foldl_of_mem (fun _ policy hpolicy => h.alarmTurn fun a ha => ?_)
    (foldl_of_mem (fun _ policy hpolicy => h.inputTurn observations fun a ha => ?_) ht))
  · exact ⟨.inl ⟨now, observations, ptt, rfl⟩, policy, hpolicy, rfl, ha⟩
  · exact ⟨⟨now, observations, ptt, rfl⟩, policy, hpolicy, rfl, ha⟩

theorem advance_moves (site : SiteController F) (now : Nat) (observations : SiteObservations F)
    (ptt : String → Bool) : Turn.Moves (Ordered site.settings (.advance now observations ptt))
      (.start (site.observe now observations ptt)) (site.advance now observations ptt) :=
  advance_kept (moves_kept _) (fun _ ht => ht.trans (fanEffects_quiet _ now).moves)
    (published_quiet site now observations ptt).moves

/-- An advance up to its alarms. -/
def sensed (site : SiteController F) (now : Nat) (observations : SiteObservations F)
    (ptt : String → Bool) : Turn F :=
  site.settings.inputs.foldl (Turn.inputTurn now observations)
    (site.settings.outputs.foldl publishTurn (.start (site.observe now observations ptt)))

/-- The readings of an advance tell the source nothing: the input's has no valid value, or the one
the alarm is evaluated on says nothing of its condition. An operator takes no readings. -/
def Unknown (site : SiteController F) (now : Nat) (observations : SiteObservations F)
    (ptt : String → Bool) : ActionSource → Prop
  | .manual => True
  | .input name => ((observations.inputs name).getD .missing).quality = .valid →
      ((observations.inputs name).getD .missing).value = none
  | .alarm name => ∀ policy ∈ site.settings.alarms, policy.name = name → ∀ s ∈ site.alarms name,
      s.Unknown ((site.sensed now observations ptt).site.alarmReading policy now)

/-- **An advance whose readings tell a source nothing keeps its inhibit.** -/
theorem advance_unknown {observations : SiteObservations F} {ptt : String → Bool}
    {source : ActionSource} (h : site.Unknown now observations ptt source)
    (hin : source ∈ site.inhibitors) :
    source ∈ (site.advance now observations ptt).site.inhibitors := by
  have hstart : ∀ other, other ∈ site.inhibitors → other ∈ (site.settings.outputs.foldl publishTurn
      (.start (site.observe now observations ptt))).site.inhibitors := fun other hother =>
    (published_quiet site now observations ptt).inhibitors ▸ hother
  change source ∈ ((site.settings.alarms.foldl (Turn.alarmTurn now)
    (site.sensed now observations ptt)).fanEffects now).site.inhibitors
  rw [(fanEffects_quiet _ now).inhibitors]
  cases source with
  | manual =>
    have hsensed : .manual ∈ (site.sensed now observations ptt).site.inhibitors :=
      foldl_of_mem (P := fun t => .manual ∈ t.site.inhibitors) (fun t policy _ =>
        ((inputTurn_others t observations policy).2 _ fun h => by cases h).mpr) (hstart _ hin)
    exact foldl_of_mem (P := fun t => .manual ∈ t.site.inhibitors)
      (fun t policy _ => (alarmTurn_others t policy fun h => by cases h).mpr) hsensed
  | input name =>
    have hsensed : .input name ∈ (site.sensed now observations ptt).site.inhibitors := by
      refine foldl_of_mem (P := fun t => .input name ∈ t.site.inhibitors)
        (fun t policy _ ht => ?_) (hstart _ hin)
      by_cases hname : policy.name = name
      · subst hname
        rwa [inputTurn_unknown t h]
      · exact ((inputTurn_others t observations policy).2 _
          fun heq => hname (ActionSource.input.inj heq).symm).mpr ht
    exact foldl_of_mem (P := fun t => .input name ∈ t.site.inhibitors)
      (fun t policy _ => (alarmTurn_others t policy fun h => by cases h).mpr) hsensed
  | alarm name =>
    have hsensed : .alarm name ∈ (site.sensed now observations ptt).site.inhibitors ∧
        (site.sensed now observations ptt).site.alarms = site.alarms := by
      refine foldl_of_mem (P := fun t => .alarm name ∈ t.site.inhibitors ∧
        t.site.alarms = site.alarms) (fun t policy _ ht => ?_) ⟨hstart _ hin, ?_⟩
      · obtain ⟨halarms, hothers⟩ := inputTurn_others t observations policy
        exact ⟨(hothers _ fun h => by cases h).mpr ht.1, halarms.trans ht.2⟩
      · exact (published_quiet site now observations ptt).alarms
    refine (foldl_of_mem (P := Unmoved name (site.sensed now observations ptt))
      (fun t policy hpolicy => alarmTurn_unmoved fun hname s hs => ?_)
      ⟨⟨rfl, rfl⟩, rfl, hsensed.1⟩).held
    exact h policy hpolicy hname s (hsensed.2 ▸ hs)

theorem advance_protected (hvalid : site.settings.Valid) (hp : Protected site)
    (observations : SiteObservations F) (ptt : String → Bool) :
    Protected (site.advance now observations ptt).site := by
  have hpublished := published_quiet site now observations ptt
  let P (t : Turn F) : Prop := t.site.settings = site.settings ∧ Protected t.site
  refine (fanEffects_quiet _ now).protected (foldl_of_mem (P := P) (fun t policy hpolicy ht => ?_)
    (foldl_of_mem (P := P) (fun t policy _ ht => ?_)
      ⟨hpublished.settings, hpublished.protected hp⟩)).2
  · have hmoves : Turn.Moves (fun _ _ => True) t (Turn.alarmTurn now t policy) :=
      (moves_kept t).alarmTurn (fun _ _ => trivial) (.refl t)
    exact ⟨hmoves.settings.trans ht.1, alarmTurn_protected (ht.1 ▸ hvalid) ht.2 (ht.1 ▸ hpolicy)⟩
  · have hmoves : Turn.Moves (fun _ _ => True) t (Turn.inputTurn now observations t policy) :=
      (moves_kept t).inputTurn observations (fun _ _ => trivial) (.refl t)
    exact ⟨hmoves.settings.trans ht.1, inputTurn_protected ht.2 observations policy⟩

theorem command_kept {P : Turn F → Prop}
    (h : Turn.Kept (Ordered site.settings (.command command now)) now P) (ht : P (.start site))
    (hok : site.command command now = .ok t) : P t := by
  unfold SiteController.command at hok
  cases command with
  | output name request => exact h.output hok ht
  | fan name duty => exact h.fan hok ht
  | inhibit enabled =>
    cases hok
    exact h.action (a := .inhibit enabled) ⟨enabled, now, rfl, rfl⟩ ht
  | alarmAcknowledge name =>
    dsimp only at hok
    split at hok
    · cases hok
    · cases hok
      exact h.site site.sensors site.inputs _ ht
  | resetExtrema name =>
    dsimp only at hok
    split at hok
    · cases hok
    · cases hok
      exact h.site _ site.inputs site.alarms ht
  | alarmReset name =>
    dsimp only at hok
    split at hok
    · cases hok
    split at hok
    · cases hok
    have hset := fun alarms => h.site site.sensors site.inputs alarms ht
    split at hok
    · rename_i policy hfind _
      cases hok
      have hpolicy : policy.name = name := by simpa using find?_some hfind
      refine h.alarmEvent (orders_actionsOn (fun a ha => ?_) _) (hset _)
      exact ⟨.inr ⟨now, by rw [hpolicy]⟩, policy, mem_of_find?_eq_some hfind, rfl, ha⟩
    · cases hok
      exact hset _

theorem command_protected (hp : Protected site)
    (h : site.command command now = .ok t) : Protected t.site := by
  unfold SiteController.command at h
  cases command with
  | output name request => exact (output_quiet h).protected hp
  | fan name duty => exact (fan_quiet h).protected hp
  | inhibit enabled =>
    cases h
    exact (inhibit_acted (.start site) .manual enabled).toAside.protected nofun hp
  | alarmAcknowledge name =>
    dsimp only at h
    split at h
    · cases h
    rename_i s hs
    cases h
    exact (Turn.Aside.refl _ _).insert_protected (t := .start site)
      (fun policy hpolicy hname htrip hactive =>
        hname ▸ hp policy hpolicy htrip s (hname ▸ hs) hactive) hp
  | resetExtrema name =>
    dsimp only at h
    split at h
    · cases h
    · cases h
      exact hp
  | alarmReset name =>
    dsimp only at h
    split at h
    · cases h
    split at h
    · cases h
    rename_i s' event hreset
    -- the alarm that was reset is not active
    have hinactive : ¬s'.active = true := by simp [AlarmState.reset_inactive hreset]
    split at h
    · rename_i policy hfind
      cases h
      obtain rfl : policy.name = name := by simpa using find?_some hfind
      exact (alarmEvent_aside policy now _ _).insert_protected (t := .start site)
        (fun _ _ _ _ hactive => absurd hactive hinactive) hp
    · cases h
      exact (Turn.Aside.refl _ _).insert_protected (t := .start site)
        (fun _ _ _ _ hactive => absurd hactive hinactive) hp

omit [Analog F] in
theorem reconfigure_protected (hp : Protected site) {settings : ResolvedSiteSettings F}
    (hvalid : settings.Valid) : Protected (site.reconfigure settings) := by
  intro policy hpolicy htrip s hs hactive
  change policy ∈ settings.alarms at hpolicy
  change (if site.retainsSource settings (.alarm policy.name) then site.alarms policy.name
    else (new settings).alarms policy.name) = some s at hs
  change .alarm policy.name ∈ site.inhibitors.filter fun source =>
    site.retainsSource settings source
  cases hretained : site.retainsSource settings (.alarm policy.name) with
  | true =>
    rw [hretained, if_pos rfl] at hs
    -- the retained policy of the name is this one
    obtain ⟨kept, hkept, hboth⟩ := any_eq_true.mp hretained
    rw [and_eq_true, decide_eq_true_eq] at hboth
    have heq : kept = policy := hvalid.alarm_eq hkept hpolicy hboth.1
    rw [heq, contains_iff_mem] at hboth
    exact Finset.mem_filter.mpr ⟨hp policy hboth.2 htrip s hs hactive, hretained⟩
  | false =>
    rw [hretained, if_neg (by decide)] at hs
    obtain ⟨other, -, hnew⟩ := map_eq_some_iff.mp hs
    rw [← hnew] at hactive
    cases hactive

end SiteController

namespace SiteDesk

variable {d d' : SiteDesk F} {move : SiteMove F}

/-- The settings are resolved, the gate is the aggregate, and the alarms are protected. -/
structure Sound (d : SiteDesk F) : Prop where
  valid : d.site.settings.Valid
  gate : d.gate = d.site.transmitInhibited
  alarms : Protected d.site

theorem Initial.sound (h : Initial d) : d.Sound := by
  obtain ⟨settings, hvalid, hsite, hgate⟩ := h
  refine ⟨?_, ?_, ?_⟩
  · rw [hsite]
    exact hvalid
  · rw [hsite, hgate]
    rfl
  · rw [hsite]
    intro policy _ _ s hs hactive
    obtain ⟨other, -, hnew⟩ := map_eq_some_iff.mp hs
    rw [← hnew] at hactive
    cases hactive

section

variable (hmove : ∀ settings, move ≠ .reconfigure settings)
include hmove

/-- What a call other than a reconfiguration does to the inhibits. -/
theorem turn_moves (site : SiteController F) :
    ∃ t, t.site.settings = site.settings ∧ t.site.inhibitors = site.inhibitors ∧ t.effects = [] ∧
      t.performed = [] ∧ Turn.Moves (Ordered site.settings move) t (site.turn move) := by
  cases move with
  | advance now observations ptt =>
    exact ⟨.start (site.observe now observations ptt), rfl, rfl, rfl, rfl,
      site.advance_moves now observations ptt⟩
  | command command now =>
    refine ⟨.start site, rfl, rfl, rfl, rfl, ?_⟩
    unfold turn
    dsimp only
    split
    · rename_i t hok
      exact command_kept (moves_kept _) (.refl _) hok
    · exact .refl _
  | reconfigure settings => exact absurd rfl (hmove settings)

theorem turn_settings (site : SiteController F) :
    (site.turn move).site.settings = site.settings := by
  obtain ⟨t, hsettings, -, -, -, hmoves⟩ := turn_moves hmove site
  exact hmoves.settings.trans hsettings

theorem turn_valid (h : d.Sound) : (d.site.turn move).site.settings.Valid := by
  rw [turn_settings hmove d.site]
  exact h.valid

theorem next_gate (h : d.Sound) :
    replay d.gate (d.site.turn move).effects = (d.site.turn move).site.transmitInhibited := by
  obtain ⟨t, -, hinhibitors, heffects, -, hmoves⟩ := turn_moves hmove d.site
  obtain ⟨emitted, hemitted, hreplay⟩ := hmoves.gate
  have hstart : t.site.transmitInhibited = d.site.transmitInhibited := by
    unfold transmitInhibited
    rw [hinhibitors]
  rw [hemitted, heffects, nil_append, h.gate, ← hstart, hreplay]

end

/-- **Every call keeps the gate and the alarms' inhibits.** -/
theorem step_sound (h : d.Sound) (hstep : Step d move d') : d'.Sound := by
  obtain ⟨hresolved, rfl⟩ := hstep
  cases move with
  | advance now observations ptt =>
    exact ⟨turn_valid nofun h, next_gate nofun h, advance_protected h.valid h.alarms _ _⟩
  | command command now =>
    refine ⟨turn_valid nofun h, next_gate nofun h, ?_⟩
    · change Protected (d.site.turn _).site
      unfold turn
      dsimp only
      split
      · rename_i t hok
        exact command_protected h.alarms hok
      · exact h.alarms
  | reconfigure settings =>
    exact ⟨hresolved settings rfl, rfl, reconfigure_protected h.alarms (hresolved settings rfl)⟩

/-- How an inhibit came to be released: by an `inhibit` action of its own source that releases,
which its policy orders in this call, or by a reconfiguration that removed or changed the policy. -/
def ReleasedBy (d : SiteDesk F) (move : SiteMove F) (source : ActionSource) : Prop :=
  ((source, .inhibit false) ∈ (d.site.turn move).performed ∧
      Ordered d.site.settings move source (.inhibit false)) ∨
    ∃ settings, move = .reconfigure settings ∧ source ≠ .manual ∧
      d.site.retainsSource settings source = false

theorem released_by (hstep : Step d move d') {source : ActionSource}
    (hin : source ∈ d.site.inhibitors) (hout : source ∉ d'.site.inhibitors) :
    d.ReleasedBy move source := by
  obtain ⟨-, rfl⟩ := hstep
  by_cases hmove : ∃ settings, move = .reconfigure settings
  · obtain ⟨settings, rfl⟩ := hmove
    have hretained : d.site.retainsSource settings source = false := by
      rw [← not_eq_true]
      exact fun htrue => hout (Finset.mem_filter.mpr ⟨hin, htrue⟩)
    refine .inr ⟨settings, rfl, fun hmanual => ?_, hretained⟩
    rw [hmanual] at hretained
    cases hretained
  · obtain ⟨t, -, hinhibitors, -, hperformed, hmoves⟩ :=
      turn_moves (fun settings heq => hmove ⟨settings, heq⟩) d.site
    obtain ⟨done, hdone, horders, hreleased⟩ := hmoves.performed
    have hmem := hreleased source (hinhibitors ▸ hin) hout
    refine .inl ⟨?_, horders _ hmem⟩
    rw [hdone, hperformed, nil_append]
    exact hmem

/-- **An inhibit is a latch of its source.** In every run of a controller on resolved settings: an
inhibit is released only by a releasing action of the source that holds it, or by a reconfiguration
that removes or changes the source's policy; an advance whose readings tell the source nothing keeps
it; the emitted effects, replayed since the last
reconfiguration, give the aggregate; and while an alarm is active whose last inhibit action on a
trip asserts, the site is inhibited. -/
theorem inhibit_latched (h : Reachable Initial Step d) :
    (∀ move d', Step d move d' → ∀ source ∈ d.site.inhibitors, source ∉ d'.site.inhibitors →
      d.ReleasedBy move source) ∧
    (∀ now observations ptt, ∀ source ∈ d.site.inhibitors,
      d.site.Unknown now observations ptt source →
        source ∈ (d.next (.advance now observations ptt)).site.inhibitors) ∧
    d.gate = d.site.transmitInhibited ∧ (∀ policy ∈ d.site.settings.alarms, policy.enabled = true →
      lastInhibit policy.onTrip = some true → lastInhibit policy.onClear = some false →
      ∀ s, d.site.alarms policy.name = some s → s.active = true →
        d.site.transmitInhibited = true) := by
  have hsound : d.Sound := h.invariant (P := Sound) (fun _ => Initial.sound)
    fun _ _ _ hd hstep => step_sound hd hstep
  refine ⟨fun move d' hstep source hin hout => released_by hstep hin hout,
    fun now observations ptt source hin hunknown => advance_unknown hunknown hin, hsound.gate, ?_⟩
  intro policy hpolicy _ htrip _ s hs hactive
  have hmem := hsound.alarms policy hpolicy htrip s hs hactive
  exact decide_eq_true (Finset.ne_empty_of_mem hmem)

end SiteDesk

end Parts

namespace SiteDesk

/-- An alarm that inhibits from its trip to its clear. -/
def lostAlarm : AlarmSettings ℚ :=
  { name := "lost", enabled := true, source := "mast", condition := .unavailable
    tripValue := none, clearValue := none, smoothed := false, tripDelayMs := 0, clearDelayMs := 0
    latched := true, repeatIntervalMs := 0, onTrip := [.callMacro "warn", .inhibit true]
    onClear := [.inhibit false], tripMessage := "", clearMessage := "", repeatMessage := "" }

/-- The settings with that alarm only. -/
def lostSettings : ResolvedSiteSettings ℚ :=
  { ResolvedSiteSettings.empty with alarms := [lostAlarm] }

/-- The first advance finds no reading. -/
def lostDesk : SiteDesk ℚ :=
  next { site := .new lostSettings, gate := false }
    (.advance 0 { sensors := fun _ => none, inputs := fun _ => none, outputs := fun _ => none }
      fun _ => false)

/-- The alarm trips, and the site is inhibited. -/
theorem inhibit_latched_lost : ∃ d : SiteDesk ℚ, Reachable Initial Step d ∧
      (∃ s, d.site.alarms "lost" = some s ∧ s.active = true) ∧ d.site.transmitInhibited = true := by
  have hreach : Reachable Initial Step lostDesk := by
    refine .step (.init ⟨lostSettings, by decide, rfl, rfl⟩) ⟨fun settings h => ?_, rfl⟩
    cases h
  have hactive : (lostDesk.site.alarms "lost").map (·.active) = some true := by decide +kernel
  have hsettings : lostDesk.site.settings = lostSettings := by decide +kernel
  obtain ⟨s, hs, htrue⟩ := map_eq_some_iff.mp hactive
  refine ⟨lostDesk, hreach, ⟨s, hs, htrue⟩, ?_⟩
  exact (inhibit_latched hreach).2.2.2 lostAlarm (by rw [hsettings]; exact mem_singleton_self _)
    rfl (by decide) (by decide) s hs htrue

end SiteDesk

end RptAdvanced.Site
