import RptAdvanced.Site.Inhibit

/-!
# What the outputs are asked for

The controller emits an effect only when a demand changes against what it remembers: the value it
last published for an output, the duty it last reported for a fan. The owner of the hardware holds
the delivered demand. `DemandDesk` puts the two side by side: a demand starts at the configured
startup level, and again after a reload that changes the output's endpoint, polarity or enablement;
otherwise it is kept, and overwritten by every `output` and `fan` effect.

`Agrees` relates the three copies of the state: where the controller remembers a value, the
delivered demand is that value. Every part of a call keeps it; an advance also makes the memory of
every output current. One reload breaks it. The published value of an output is remembered while an
enabled fan owns the output and overwrites its demand; when a later reload takes the fan away, the
controller compares the output's state with the old value and may emit nothing
(`released_output_diverges`).

Result: `demand_converges`, for runs without such a reload (`Orderly`).
-/

namespace RptAdvanced.Site

open Lib List SiteController Option Named ResolvedSiteSettings

variable {F : Type} [Analog F]

/-! ## The desk -/

/-- The demand of a logical state. -/
def level (on : Bool) : F := if on then Analog.one else Analog.zero

def overwrite (demand : String → F) (name : String) (value : F) : String → F :=
  fun other => if other = name then value else demand other

omit [Analog F] in
theorem overwrite_ne {demand : String → F} {name other : String} (h : other ≠ name) (value : F) :
    overwrite demand name value other = demand other :=
  if_neg h

omit [Analog F] in
/-- A demand that is already there. -/
theorem overwrite_eq_self {demand : String → F} {name : String} {value : F}
    (h : demand name = value) : overwrite demand name value = demand := by
  funext other
  unfold overwrite
  split
  · rename_i heq
    rw [heq, h]
  · rfl

def deliver (settings : ResolvedSiteSettings F) (demand : String → F) : SiteEffect F → String → F
  | .output name on => overwrite demand name (level on)
  | .fan name duty =>
    match settings.fanOutput name with
    | some output => overwrite demand output duty
    | none => demand
  | _ => demand

/-- The demand of an output that was never driven. -/
def startup (settings : ResolvedSiteSettings F) (name : String) : F :=
  match settings.outputs.find? fun policy => policy.name = name with
  | some policy => level policy.startupOn
  | none => Analog.zero

/-- What an output is bound to: its enablement, endpoint and polarity. -/
def ResolvedSiteSettings.binding (settings : ResolvedSiteSettings F) (name : String) :
    Option (Bool × Option SiteEndpoint × Bool) :=
  (settings.outputs.find? fun policy => policy.name = name).map fun policy =>
    (policy.enabled, policy.endpoint, policy.activeHigh)

/-- A controller, and the delivered demands of its outputs. -/
structure DemandDesk (F : Type) where
  site : SiteController F
  demand : String → F

/-- The demands of an output binding that a reload does not change are kept. -/
def rebind (old new : ResolvedSiteSettings F) (demand : String → F) (name : String) : F :=
  if (new.binding name).isSome ∧ old.binding name = new.binding name then demand name
  else startup new name

namespace DemandDesk

/-- One call, with its effects delivered. -/
def next [DecidableEq F] (d : DemandDesk F) (move : SiteMove F) : DemandDesk F :=
  let t := d.site.turn move
  { site := t.site
    demand := match move with
      | .reconfigure settings => rebind d.site.settings settings d.demand
      | _ => t.effects.foldl (deliver d.site.settings) d.demand }

/-- A new controller on resolved settings. -/
def Initial (d : DemandDesk F) : Prop :=
  ∃ settings : ResolvedSiteSettings F, settings.Valid ∧ d.site = .new settings ∧
    d.demand = startup settings

/-- A call; a controller is reconfigured with resolved settings. -/
def Step [DecidableEq F] (d : DemandDesk F) (move : SiteMove F) (d' : DemandDesk F) : Prop :=
  (∀ settings, move = .reconfigure settings → settings.Valid) ∧ d' = d.next move

/-- The outputs are asked for what the policies request. -/
structure Converged (d : DemandDesk F) : Prop where
  outputs : ∀ policy ∈ d.site.settings.outputs, policy.enabled = true →
    d.site.settings.fanOwned policy.name = false →
    ∃ s, d.site.outputs policy.name = some s ∧ d.demand policy.name = level s.requestedOn
  fans : ∀ fan ∈ d.site.settings.fans, fan.enabled = true →
    ∃ s, d.site.fanStatus fan.name = some s ∧ d.demand fan.output = s.duty

/-- No reload takes an output from an enabled fan while the controller remembers the value it
published before the fan took it, the output's binding being unchanged. -/
def Orderly (d : DemandDesk F) (move : SiteMove F) : Prop :=
  ∀ settings, move = .reconfigure settings → ∀ policy ∈ settings.outputs, policy.enabled = true →
    settings.fanOwned policy.name = false → d.site.settings.fanOwned policy.name = true →
    d.site.retainsOutput settings policy.name = true → d.site.publishedOutputs policy.name = none

end DemandDesk

/-! ## The three copies agree -/

/-- An accepted command is for an enabled output. -/
theorem OutputState.command_spec {s s' : OutputState} {request : OutputRequest} {now : Nat}
    (h : s.command request now = .ok s') :
    s.settings.enabled = true ∧ s'.settings = s.settings := by
  unfold OutputState.command at h
  split at h
  · cases h
  rename_i hready
  simp only [Bool.or_eq_true, Bool.not_eq_true', not_or, Bool.not_eq_false] at hready
  cases request with
  | pulse | on | off =>
    cases h
    exact ⟨hready.1, rfl⟩

theorem OutputState.reconfigure_settings (s : OutputState) (settings : OutputSettings) :
    (s.reconfigure settings).settings = settings := by
  unfold OutputState.reconfigure
  split <;> rfl

theorem OutputState.advance_settings (s : OutputState) (now : Nat) (available : Bool) :
    (s.advance now available).settings = s.settings := by
  unfold OutputState.advance
  dsimp only
  split
  · rfl
  · split <;> rfl

/-- The demands once the effects of a call so far are delivered. -/
def Turn.demand (start : String → F) (t : Turn F) : String → F :=
  t.effects.foldl (deliver t.site.settings) start

/-- Where the controller remembers a demand it is the delivered one. The memory is current for the
outputs whose publication is not `due`. -/
structure Agrees (start : String → F) (due : String → Prop) (t : Turn F) : Prop where
  valid : t.site.settings.Valid
  configured : ∀ name s, t.site.outputs name = some s →
    s.settings ∈ t.site.settings.outputs ∧ s.settings.name = name
  complete : ∀ policy ∈ t.site.settings.outputs, (t.site.outputs policy.name).isSome
  cooled : ∀ fan ∈ t.site.settings.fans, (t.site.fans fan.name).isSome
  published : ∀ policy ∈ t.site.settings.outputs, policy.enabled = true →
    t.site.settings.fanOwned policy.name = false →
    ∀ on, t.site.publishedOutputs policy.name = some on → t.demand start policy.name = level on
  fresh : ∀ policy ∈ t.site.settings.outputs, policy.enabled = true →
    t.site.settings.fanOwned policy.name = false → ¬due policy.name →
    ∀ s, t.site.outputs policy.name = some s →
      t.site.publishedOutputs policy.name = some s.requestedOn
  fans : ∀ fan ∈ t.site.settings.fans, fan.enabled = true →
    ∀ s, t.site.fanStatus fan.name = some s → t.demand start fan.output = s.duty

namespace Turn

theorem demand_emit (start : String → F) (t : Turn F) (effect : SiteEffect F) :
    (t.emit effect).demand start = deliver t.site.settings (t.demand start) effect := by
  unfold demand emit
  rw [foldl_append]
  rfl

variable [DecidableEq F] {now : Nat}

/-- The status of a fan is kept or renewed. -/
theorem fanEffect_status (t : Turn F) (policy : FanSettings F) {name : String}
    (h : (t.site.fanStatus name).isSome) :
    ((fanEffect now t policy).site.fanStatus name).isSome := by
  unfold fanEffect
  split
  · exact h
  cases t.site.fans policy.name with
  | none => exact h
  | some s =>
    dsimp only
    split <;> exact isSome_insert h ..

theorem fanEffect_status_self (t : Turn F) {policy : FanSettings F}
    (henabled : policy.enabled = true) (hfan : (t.site.fans policy.name).isSome) :
    ((fanEffect now t policy).site.fanStatus policy.name).isSome := by
  obtain ⟨s, hs⟩ := isSome_iff_exists.mp hfan
  unfold fanEffect
  rw [henabled, hs, if_neg (by decide)]
  dsimp only
  split <;> exact isSome_iff_exists.mpr ⟨_, insert_self ..⟩

end Turn

namespace Agrees

variable {start : String → F} {due : String → Prop} {t t' : Turn F} {now : Nat}

variable (h : Agrees start due t)
include h

/-- A part that touches neither demands nor the memory of them. -/
theorem congr (hsettings : t'.site.settings = t.site.settings)
    (houtputs : t'.site.outputs = t.site.outputs)
    (hcooled : ∀ name, (t.site.fans name).isSome → (t'.site.fans name).isSome)
    (hpublished : t'.site.publishedOutputs = t.site.publishedOutputs)
    (hstatus : t'.site.fanStatus = t.site.fanStatus) (hdemand : t'.demand start = t.demand start) :
    Agrees start due t' where
  valid := hsettings ▸ h.valid
  configured := by
    rw [houtputs, hsettings]
    exact h.configured
  complete := by
    rw [houtputs, hsettings]
    exact h.complete
  cooled := by
    rw [hsettings]
    exact fun fan hfan => hcooled fan.name (h.cooled fan hfan)
  published := by
    rw [hsettings, hpublished, hdemand]
    exact h.published
  fresh := by
    rw [hsettings, hpublished, houtputs]
    exact h.fresh
  fans := by
    rw [hsettings, hstatus, hdemand]
    exact h.fans

/-- An effect that is not a demand. -/
theorem emit {effect : SiteEffect F}
    (heffect : ∀ demand : String → F, deliver t.site.settings demand effect = demand) :
    Agrees start due (t.emit effect) := by
  refine h.congr rfl rfl (fun _ hs => hs) rfl rfl ?_
  rw [Turn.demand_emit, heffect]

/-- **Publishing an output that no fan owns.** Its demand and the memory of it become current. -/
theorem publishOutput {policy : OutputSettings}
    (hpolicy : policy ∈ t.site.settings.outputs) (henabled : policy.enabled = true)
    (howned : t.site.settings.fanOwned policy.name = false) :
    Agrees start (fun name => due name ∧ name ≠ policy.name) (t.publishOutput policy.name) := by
  obtain ⟨s, hs⟩ := isSome_iff_exists.mp (h.complete policy hpolicy)
  -- the demand afterwards: that of the published output is current, the others are as before
  have hdemand : (t.publishOutput policy.name).demand start =
      overwrite (t.demand start) policy.name (level s.requestedOn) := by
    unfold Turn.publishOutput
    rw [hs]
    dsimp only
    split
    · rename_i hsame
      exact (overwrite_eq_self (h.published policy hpolicy henabled howned _ hsame)).symm
    · rw [Turn.demand_emit]
      rfl
  have hsite : (t.publishOutput policy.name).site =
      { t.site with
        publishedOutputs := t.site.publishedOutputs.insert policy.name s.requestedOn } := by
    unfold Turn.publishOutput
    rw [hs]
    dsimp only
    split <;> rfl
  constructor <;> rw [hsite] <;> try rw [hdemand]
  · exact h.valid
  · exact h.configured
  · exact h.complete
  · exact h.cooled
  · intro other hother henabled' howned' on hon
    dsimp only at hon
    by_cases hname : other.name = policy.name
    · rw [hname, insert_self] at hon
      cases hon
      exact if_pos hname
    · rw [insert_ne _ hname] at hon
      rw [overwrite_ne hname]
      exact h.published other hother henabled' howned' on hon
  · intro other hother henabled' howned' hdue u hu
    by_cases hname : other.name = policy.name
    · rw [hname, hs] at hu
      cases hu
      exact if_pos hname
    · refine (insert_ne _ hname _).trans ?_
      exact h.fresh other hother henabled' howned' (fun hd => hdue ⟨hd, hname⟩) u hu
  · intro fan hfan henabled' u hu
    have hne : fan.output ≠ policy.name := by
      intro heq
      rw [← heq, fanOwned_of_mem hfan henabled'] at howned
      cases howned
    rw [overwrite_ne hne]
    exact h.fans fan hfan henabled' u hu

/-- What is due need only be bounded at the outputs the controller publishes. -/
theorem due_mono {due' : String → Prop}
    (hdue : ∀ policy ∈ t.site.settings.outputs, policy.enabled = true →
      t.site.settings.fanOwned policy.name = false → due policy.name → due' policy.name) :
    Agrees start due' t :=
  { h with
    fresh := fun policy hpolicy henabled howned hfresh =>
      h.fresh policy hpolicy henabled howned fun hd =>
        hfresh (hdue policy hpolicy henabled howned hd) }

/-- The publication of an advance leaves nothing due. -/
theorem publishTurns {list : List OutputSettings}
    (hlist : ∀ policy ∈ list, policy ∈ t.site.settings.outputs) : Agrees start
      (fun name => due name ∧ ∀ policy ∈ list, policy.enabled = true →
        t.site.settings.fanOwned policy.name = false → name ≠ policy.name)
      (list.foldl publishTurn t) := by
  induction list generalizing t due with
  | nil => exact h.due_mono fun _ _ _ _ hd => ⟨hd, fun _ hmem => (not_mem_nil hmem).elim⟩
  | cons first rest ih =>
    rw [foldl_cons]
    have hsettings := (publishTurn_quiet t first).settings
    by_cases hturn : (first.enabled && !t.site.settings.fanOwned first.name) = true
    · have hfirst : Agrees start (fun name => due name ∧ name ≠ first.name)
          (publishTurn t first) := by
        unfold publishTurn
        rw [if_pos hturn]
        rw [Bool.and_eq_true, Bool.not_eq_true'] at hturn
        exact h.publishOutput (hlist first mem_cons_self) hturn.1 hturn.2
      have hrest := ih hfirst fun policy hpolicy =>
        hsettings ▸ hlist policy (mem_cons_of_mem _ hpolicy)
      refine hrest.due_mono fun policy _ _ _ hd => ⟨hd.1.1, fun other hother henabled howned => ?_⟩
      rcases mem_cons.mp hother with rfl | hmem
      · exact hd.1.2
      · exact hd.2 other hmem henabled (hsettings ▸ howned)
    · have hskip : publishTurn t first = t := if_neg hturn
      rw [hskip]
      refine (ih h fun policy hpolicy => hlist policy (mem_cons_of_mem _ hpolicy)).due_mono
        fun policy _ _ _ hd => ⟨hd.1, fun other hother henabled howned => ?_⟩
      rcases mem_cons.mp hother with rfl | hmem
      · rw [henabled, howned] at hturn
        exact absurd rfl hturn
      · exact hd.2 other hmem henabled howned

theorem output {name : String} {request : OutputRequest}
    (hok : t.output name request now = .ok t') : Agrees start due t' := by
  unfold Turn.output at hok
  split at hok
  · cases hok
  rename_i howned
  rw [Bool.not_eq_true] at howned
  split at hok
  · cases hok
  rename_i s hs
  split at hok
  · cases hok
  rename_i s' hcommand
  cases hok
  obtain ⟨henabled, hsettings⟩ := OutputState.command_spec hcommand
  obtain ⟨hmem, hname⟩ := h.configured name s hs
  -- with the new state only this output's publication is due
  have hset : Agrees start (fun other => due other ∨ other = name)
      { t with site := { t.site with outputs := t.site.outputs.insert name s' } } := by
    refine { h with
      configured := fun other u hu => ?_
      complete := fun policy hpolicy => ?_
      fresh := fun policy hpolicy henabled' howned' hdue u hu => ?_ }
    · dsimp only at hu
      by_cases heq : other = name
      · rw [heq, insert_self] at hu
        cases hu
        rw [hsettings, heq]
        exact ⟨hmem, hname⟩
      · rw [insert_ne _ heq] at hu
        exact h.configured other u hu
    · exact isSome_insert (h.complete policy hpolicy) ..
    · dsimp only at hu
      rw [insert_ne _ fun heq => hdue (.inr heq)] at hu
      exact h.fresh policy hpolicy henabled' howned' (fun hd => hdue (.inl hd)) u hu
  have hpublished := hset.publishOutput hmem henabled (hname.symm ▸ howned)
  rw [hname] at hpublished
  refine hpublished.due_mono fun policy _ _ _ hd => ?_
  exact hd.1.resolve_right hd.2

theorem inhibit (source : ActionSource) (enabled : Bool) :
    Agrees start due (t.inhibit source enabled) := by
  have hset : ∀ inhibitors, Agrees start due { t with site := { t.site with inhibitors } } :=
    fun inhibitors => h.congr rfl rfl (fun _ hs => hs) rfl rfl rfl
  unfold Turn.inhibit
  dsimp only
  generalize (if enabled then insert source t.site.inhibitors
    else t.site.inhibitors.erase source) = inhibitors
  split
  · exact hset _
  · exact (hset _).emit fun _ => rfl

/-- The delivered demands are the start of the next call. -/
theorem restart : Agrees (t.demand start) (fun _ => True) (.start t.site) :=
  { h with fresh := fun _ _ _ _ hdue => absurd trivial hdue }

variable [DecidableEq F]

/-- **One fan's report.** -/
theorem fanEffect {policy : FanSettings F}
    (hpolicy : policy ∈ t.site.settings.fans) : Agrees start due (Turn.fanEffect now t policy) := by
  unfold Turn.fanEffect
  split
  · exact h
  rename_i henabled
  rw [Bool.not_eq_true, Bool.not_eq_false'] at henabled
  obtain ⟨s, hs⟩ := isSome_iff_exists.mp (h.cooled policy hpolicy)
  rw [hs]
  dsimp only
  generalize s.advance now t.site.ptt (t.site.sensorValue policy.temperatureSensor now)
    (t.site.sensorValue policy.rpmSensor now)
    ((t.site.availability policy.output).getD { available := false, pwm := false }) = advanced
  obtain ⟨s', snapshot⟩ := advanced
  -- whichever branch is taken, the bound output is asked for the reported duty
  have hkey : ∀ t' : Turn F, t'.site =
        { t.site with
          fans := t.site.fans.insert policy.name s'
          fanStatus := t.site.fanStatus.insert policy.name snapshot } →
      t'.demand start = overwrite (t.demand start) policy.output snapshot.duty →
      Agrees start due t' := by
    intro t' hsite hdemand
    constructor <;> rw [hsite] <;> try rw [hdemand]
    · exact h.valid
    · exact h.configured
    · exact h.complete
    · exact fun fan hfan => isSome_insert (h.cooled fan hfan) ..
    · intro other hother henabled' howned on hon
      have hne : other.name ≠ policy.output := by
        intro heq
        rw [heq, fanOwned_of_mem hpolicy henabled] at howned
        cases howned
      rw [overwrite_ne hne]
      exact h.published other hother henabled' howned on hon
    · exact h.fresh
    · intro fan hfan henabled' u hu
      dsimp only at hu
      by_cases hname : fan.name = policy.name
      · have heq : fan = policy := h.valid.fan_eq hfan hpolicy hname
        rw [hname, insert_self] at hu
        cases hu
        rw [heq]
        exact if_pos rfl
      · have hne : fan.output ≠ policy.output := by
          intro heq
          exact hname (congrArg (·.name) (inj_on_of_nodup_map h.valid.exclusive
            (mem_filter.mpr ⟨hfan, henabled'⟩) (mem_filter.mpr ⟨hpolicy, henabled⟩) heq))
        rw [insert_ne _ hname] at hu
        rw [overwrite_ne hne]
        exact h.fans fan hfan henabled' u hu
  split
  · rename_i hsame
    refine hkey _ rfl ?_
    -- the duty did not change, so that the demand is the one already delivered
    obtain ⟨prior, hprior, hduty⟩ : ∃ prior, t.site.fanStatus policy.name = some prior ∧
        prior.duty = snapshot.duty := by
      cases hprior : t.site.fanStatus policy.name with
      | none =>
        rw [hprior] at hsame
        cases hsame
      | some prior =>
        rw [hprior] at hsame
        exact ⟨prior, rfl, of_decide_eq_true hsame⟩
    have hdelivered := h.fans policy hpolicy henabled prior hprior
    exact (overwrite_eq_self (hdelivered.trans hduty)).symm
  · refine hkey _ rfl ?_
    rw [Turn.demand_emit]
    change (match t.site.settings.fanOutput policy.name with
      | some output => overwrite (t.demand start) output snapshot.duty
      | none => t.demand start) = _
    rw [h.valid.fanOutput_eq hpolicy henabled]

/-- Every enabled fan has reported once the fans have been advanced. -/
theorem fanEffects_list {list : List (FanSettings F)}
    (hlist : ∀ policy ∈ list, policy ∈ t.site.settings.fans) :
    Agrees start due (list.foldl (Turn.fanEffect now) t) ∧ ∀ fan : FanSettings F,
      fan.enabled = true → fan ∈ list ∨ (t.site.fanStatus fan.name).isSome →
      ((list.foldl (Turn.fanEffect now) t).site.fanStatus fan.name).isSome := by
  induction list generalizing t with
  | nil => exact ⟨h, fun fan _ hfan => hfan.resolve_left not_mem_nil⟩
  | cons policy list ih =>
    have hfirst := hlist policy mem_cons_self
    obtain ⟨hagrees, hrep⟩ := @ih (Turn.fanEffect now t policy) (h.fanEffect hfirst)
      fun other hother => by
        rw [(Turn.fanEffect_quiet t policy).settings]
        exact hlist other (mem_cons_of_mem _ hother)
    refine ⟨hagrees, fun fan henabled hfan => hrep fan henabled ?_⟩
    rcases hfan with hmem | hsome
    · rcases mem_cons.mp hmem with rfl | hrest
      · exact .inr (Turn.fanEffect_status_self t henabled (h.cooled fan hfirst))
      · exact .inl hrest
    · exact .inr (Turn.fanEffect_status t policy hsome)

theorem fanEffects : Agrees start due (t.fanEffects now) :=
  (h.fanEffects_list fun _ hpolicy => hpolicy).1

theorem fan {name : String} {duty : Option F}
    (hok : t.fan name duty now = .ok t') : Agrees start due t' := by
  unfold Turn.fan at hok
  split at hok
  · cases hok
  split at hok
  · cases hok
  split at hok
  · cases hok
  cases hok
  apply Agrees.fanEffects
  refine h.congr rfl rfl (fun _ hsome => ?_) rfl rfl rfl
  exact isSome_insert hsome ..

theorem action (source : ActionSource) (a : SiteAction F) :
    Agrees start due (Turn.action source now t a) := by
  have hlog : Agrees start due { t with performed := t.performed ++ [(source, a)] } :=
    h.congr rfl rfl (fun _ hs => hs) rfl rfl rfl
  unfold Turn.action
  cases a with
  | callMacro name => exact hlog.emit fun _ => rfl
  | inhibit enabled => exact hlog.inhibit source enabled
  | output name request =>
    dsimp only
    split
    · rename_i t' hok
      exact hlog.output hok
    · exact hlog.emit fun _ => rfl
  | fan name duty =>
    dsimp only
    split
    · rename_i t' hok
      exact hlog.fan hok
    · exact hlog.emit fun _ => rfl

omit h in
theorem kept (start : String → F) (due : String → Prop) (now : Nat)
    {orders : ActionSource → SiteAction F → Prop} : Turn.Kept orders now (Agrees start due) where
  action _ ht := ht.action ..
  message ht := ht.emit fun _ => rfl
  output hok ht := ht.output hok
  fan hok ht := ht.fan hok
  site _ _ _ ht := ht.congr rfl rfl (fun _ hs => hs) rfl rfl rfl

end Agrees

/-! ## The calls -/

namespace DemandDesk

variable [DecidableEq F] {d d' : DemandDesk F} {move : SiteMove F}

/-- The controller's memory and the delivered demands agree between calls. -/
def Sound (d : DemandDesk F) : Prop :=
  Agrees d.demand (fun _ => True) (.start d.site)

omit [DecidableEq F] in
theorem observe_agrees (h : d.Sound) (now : Nat) (observations : SiteObservations F)
    (ptt : String → Bool) :
    Agrees d.demand (fun _ => True) (.start (d.site.observe now observations ptt)) := by
  -- an output's state advances, its settings stay
  have houtputs : ∀ name, (d.site.observe now observations ptt).outputs name = d.site.outputs name ∨
      ∃ available, (d.site.observe now observations ptt).outputs name =
        (d.site.outputs name).map fun s => s.advance now available := by
    intro name
    unfold observe
    dsimp only
    split
    · exact .inl rfl
    split
    · exact .inr ⟨_, rfl⟩
    · exact .inl rfl
  refine { h with
    configured := fun name s hs => ?_
    complete := fun policy hpolicy => ?_
    fresh := fun _ _ _ _ hdue => absurd trivial hdue }
  · change (d.site.observe now observations ptt).outputs name = some s at hs
    rcases houtputs name with hsame | ⟨available, hadvanced⟩
    · exact h.configured name s (hsame ▸ hs)
    rw [hadvanced] at hs
    obtain ⟨u, hu, rfl⟩ := map_eq_some_iff.mp hs
    rw [OutputState.advance_settings]
    exact h.configured name u hu
  · change ((d.site.observe now observations ptt).outputs policy.name).isSome
    rcases houtputs policy.name with hsame | ⟨available, hadvanced⟩
    · exact hsame ▸ h.complete policy hpolicy
    · rw [hadvanced, isSome_map]
      exact h.complete policy hpolicy

/-- **An advance leaves nothing due, and every enabled fan has reported.** -/
theorem advance_agrees (h : d.Sound) (now : Nat) (observations : SiteObservations F)
    (ptt : String → Bool) : Agrees d.demand (fun _ => False) (d.site.advance now observations ptt) ∧
      ∀ fan ∈ d.site.settings.fans, fan.enabled = true →
        ((d.site.advance now observations ptt).site.fanStatus fan.name).isSome := by
  have hobserved := observe_agrees h now observations ptt
  have hpublished : Agrees d.demand (fun _ => False) (d.site.settings.outputs.foldl publishTurn
      (.start (d.site.observe now observations ptt))) := by
    have hquiet := published_quiet d.site now observations ptt
    have hlist : ∀ policy ∈ d.site.settings.outputs,
        policy ∈ (Turn.start (d.site.observe now observations ptt)).site.settings.outputs :=
      fun _ hpolicy => hpolicy
    refine (hobserved.publishTurns hlist).due_mono fun policy hpolicy henabled howned hd => ?_
    rw [hquiet.settings] at hpolicy howned
    exact hd.2 policy hpolicy henabled howned rfl
  have hsettings : (d.site.advance now observations ptt).site.settings = d.site.settings :=
    (d.site.advance_moves now observations ptt).settings
  rw [← hsettings]
  refine advance_kept (Q := fun t => Agrees d.demand (fun _ => False) t ∧ ∀ fan ∈
    t.site.settings.fans, fan.enabled = true → (t.site.fanStatus fan.name).isSome)
    (Agrees.kept ..) (fun t ht => ⟨ht.fanEffects, fun fan hfan henabled => ?_⟩) hpublished
  rw [(Turn.fanEffects_quiet t now).settings] at hfan
  exact (ht.fanEffects_list fun _ hpolicy => hpolicy).2 fan henabled (.inl hfan)

/-! ### Reloads -/

omit [Analog F] [DecidableEq F] in
/-- The controller keeps an output under the same condition as its owner keeps the demand. -/
theorem retainsOutput_iff (site : SiteController F) (settings : ResolvedSiteSettings F)
    (name : String) : site.retainsOutput settings name = true ↔
      (settings.binding name).isSome ∧ site.settings.binding name = settings.binding name := by
  unfold retainsOutput binding
  cases site.settings.outputs.find? fun old => old.name = name with
  | none =>
    cases settings.outputs.find? fun policy => policy.name = name with
    | none => simp
    | some policy => simp
  | some old =>
    cases settings.outputs.find? fun policy => policy.name = name with
    | none => simp
    | some policy => simp [and_assoc]

variable {settings : ResolvedSiteSettings F} {site : SiteController F} {policy : OutputSettings}

omit [DecidableEq F] in
theorem retained_demand {name : String} (hretained : d.site.retainsOutput settings name = true) :
    rebind d.site.settings settings d.demand name = d.demand name :=
  if_pos ((retainsOutput_iff d.site settings name).mp hretained)

omit [Analog F] [DecidableEq F] in
/-- The policy of a retained output before the reload. -/
theorem exists_old_output (hvalid : settings.Valid) (hpolicy : policy ∈ settings.outputs)
    (hretained : site.retainsOutput settings policy.name = true) :
    ∃ old ∈ site.settings.outputs, old.name = policy.name ∧ old.enabled = policy.enabled := by
  unfold retainsOutput at hretained
  rw [hvalid.find?_output hpolicy] at hretained
  split at hretained
  · rename_i old _ hfind heq
    cases heq
    simp only [Bool.and_eq_true, decide_eq_true_eq] at hretained
    exact ⟨old, mem_of_find?_eq_some hfind, by simpa using find?_some hfind, hretained.1.1⟩
  · cases hretained

section New

omit [Analog F] [DecidableEq F]

/-- A new output's state is built from the policy of its name. -/
theorem new_configured {name : String} {s : OutputState}
    (hs : (new settings).outputs name = some s) :
    s.settings ∈ settings.outputs ∧ s.settings.name = name := by
  obtain ⟨policy, hfind, rfl⟩ := map_eq_some_iff.mp hs
  have hname : policy.name = name := by simpa using find?_some hfind
  exact ⟨mem_of_find?_eq_some hfind, hname⟩

theorem new_output (hvalid : settings.Valid) {policy : OutputSettings}
    (hpolicy : policy ∈ settings.outputs) :
    (new settings).outputs policy.name = some (.new policy) := by
  change (settings.outputs.find? fun other => other.name = policy.name).map OutputState.new = _
  rw [hvalid.find?_output hpolicy]
  rfl

theorem new_fan {fan : FanSettings F} (hfan : fan ∈ settings.fans) :
    ((new settings).fans fan.name).isSome := by
  change ((settings.fans.find? fun other => other.name = fan.name).map FanState.new).isSome
  rw [isSome_map, find?_isSome]
  exact ⟨fan, hfan, decide_eq_true rfl⟩

end New

omit [Analog F] in
theorem reconfigure_configured {name : String}
    {s : OutputState} (hs : (d.site.reconfigure settings).outputs name = some s) :
    s.settings ∈ settings.outputs ∧ s.settings.name = name := by
  unfold reconfigure at hs
  dsimp only at hs
  split at hs
  · rename_i old policy _ hfind
    split at hs
    · obtain ⟨u, -, rfl⟩ := map_eq_some_iff.mp hs
      rw [OutputState.reconfigure_settings]
      exact ⟨mem_of_find?_eq_some hfind, by simpa using find?_some hfind⟩
    · exact new_configured hs
  · exact new_configured hs

theorem reconfigure_complete (h : d.Sound)
    (hvalid : settings.Valid) (hpolicy : policy ∈ settings.outputs) :
    ((d.site.reconfigure settings).outputs policy.name).isSome := by
  have hnew : ((new settings).outputs policy.name).isSome := by
    rw [new_output hvalid hpolicy]
    rfl
  unfold reconfigure
  dsimp only
  split
  · rename_i old other hold _
    split
    · have hname : old.name = policy.name := by simpa using find?_some hold
      rw [isSome_map]
      exact hname ▸ h.complete old (mem_of_find?_eq_some hold)
    · exact hnew
  · exact hnew

omit [Analog F] in
/-- A fan that is retained was the same before, and its output too. -/
theorem exists_old_fan (hvalid : settings.Valid) {fan : FanSettings F} (hfan : fan ∈ settings.fans)
    (hretained : site.retainsFan settings fan.name = true) :
    fan ∈ site.settings.fans ∧ site.retainsOutput settings fan.output = true := by
  obtain ⟨kept, hkept, hboth⟩ := any_eq_true.mp hretained
  simp only [Bool.and_eq_true, decide_eq_true_eq, contains_iff_mem] at hboth
  obtain ⟨⟨hname, hold⟩, houtput⟩ := hboth
  rw [hvalid.fan_eq hkept hfan hname] at hold houtput
  exact ⟨hold, houtput⟩

/-- **An orderly reload keeps the agreement.** -/
theorem reconfigure_agrees (h : d.Sound)
    (hvalid : settings.Valid) (horderly : d.Orderly (.reconfigure settings)) :
    Agrees (rebind d.site.settings settings d.demand) (fun _ => True)
      (.start (d.site.reconfigure settings)) := by
  refine ⟨hvalid, fun name s hs => reconfigure_configured hs,
    fun policy hpolicy => reconfigure_complete h hvalid hpolicy, fun fan hfan => ?_,
    fun policy hpolicy henabled howned on hon => ?_, fun _ _ _ _ hdue => absurd trivial hdue,
    fun fan hfan henabled s hs => ?_⟩
  · change (if d.site.retainsFan settings fan.name then d.site.fans fan.name
      else (new settings).fans fan.name).isSome
    split
    · rename_i hretained
      exact h.cooled fan (exists_old_fan hvalid hfan hretained).1
    · exact new_fan hfan
  · change (if d.site.retainsOutput settings policy.name then d.site.publishedOutputs policy.name
      else none) = some on at hon
    obtain ⟨hretained, hon⟩ := ite_none_right_eq_some.mp hon
    change rebind d.site.settings settings d.demand policy.name = level on
    rw [retained_demand hretained]
    obtain ⟨old, hold, hname, hsame⟩ := exists_old_output hvalid hpolicy hretained
    cases hfan : d.site.settings.fanOwned policy.name with
    | true =>
      -- a reload that releases the output from its fan forgets nothing
      rw [horderly settings rfl policy hpolicy henabled howned hfan hretained] at hon
      cases hon
    | false =>
      have hdemand := h.published old hold (hsame.trans henabled)
      rw [hname] at hdemand
      exact hdemand hfan on hon
  · change (if d.site.retainsFan settings fan.name then d.site.fanStatus fan.name
      else none) = some s at hs
    obtain ⟨hretained, hs⟩ := ite_none_right_eq_some.mp hs
    obtain ⟨hold, houtput⟩ := exists_old_fan hvalid hfan hretained
    change rebind d.site.settings settings d.demand fan.output = s.duty
    rw [retained_demand houtput]
    exact h.fans fan hold henabled s hs

/-! ### Runs -/

omit [DecidableEq F] in
theorem Initial.sound (h : Initial d) : d.Sound := by
  obtain ⟨settings, hvalid, hsite, hdemand⟩ := h
  unfold Sound
  rw [hsite, hdemand]
  refine ⟨hvalid, fun name s hs => ?_, fun policy hpolicy => ?_, fun fan hfan => ?_,
    fun _ _ _ _ on hon => ?_, fun _ _ _ _ hdue => absurd trivial hdue, fun _ _ _ s hs => ?_⟩
  · exact new_configured hs
  · exact isSome_iff_exists.mpr ⟨_, new_output hvalid hpolicy⟩
  · exact new_fan hfan
  · cases hon
  · cases hs

/-- The demands after a call are those its effects leave. -/
theorem next_demand (d : DemandDesk F) (move : SiteMove F)
    (hmove : ∀ settings, move ≠ .reconfigure settings) :
    (d.next move).demand = (d.site.turn move).demand d.demand := by
  unfold Turn.demand
  rw [SiteDesk.turn_settings hmove d.site]
  cases move with
  | reconfigure settings => exact absurd rfl (hmove settings)
  | advance now observations ptt => rfl
  | command command now => rfl

theorem turn_sound {due : String → Prop} (h : Agrees d.demand due (d.site.turn move))
    (hmove : ∀ settings, move ≠ .reconfigure settings) : (d.next move).Sound := by
  unfold Sound
  rw [d.next_demand move hmove]
  exact h.restart

theorem step_sound (h : d.Sound) (hstep : Step d move d') (horderly : d.Orderly move) :
    d'.Sound := by
  obtain ⟨hresolved, rfl⟩ := hstep
  cases move with
  | advance now observations ptt =>
    exact turn_sound (advance_agrees h now observations ptt).1 nofun
  | command command now =>
    have hagrees : Agrees d.demand (fun _ => True) (d.site.turn (.command command now)) := by
      unfold turn
      dsimp only
      split
      · rename_i t hok
        exact command_kept (Agrees.kept ..) h hok
      · exact h
    exact turn_sound hagrees nofun
  | reconfigure settings => exact reconfigure_agrees h (hresolved settings rfl) horderly

/-- **After every advance the delivered demands are what the policies request**, in every run whose
reloads are orderly: the demand of an enabled output that no enabled fan owns is its requested
state, and the demand of an enabled fan's output is the fan's last reported duty. -/
theorem demand_converges (h : Reachable Initial (Guarded Step Orderly) d) (now : Nat)
    (observations : SiteObservations F) (ptt : String → Bool) :
    (d.next (.advance now observations ptt)).Converged := by
  have hsound : d.Sound := h.invariant (P := Sound) (fun _ => Initial.sound)
    fun _ _ _ hd hstep => step_sound hd hstep.2 hstep.1
  obtain ⟨hagrees, hstatus⟩ := advance_agrees hsound now observations ptt
  have hsettings : (d.next (.advance now observations ptt)).site.settings = d.site.settings :=
    (d.site.advance_moves now observations ptt).settings
  have hdemand := d.next_demand (.advance now observations ptt) nofun
  refine ⟨fun policy hpolicy henabled howned => ?_, fun fan hfan henabled => ?_⟩
  · obtain ⟨s, hs⟩ := isSome_iff_exists.mp (hagrees.complete policy hpolicy)
    refine ⟨s, hs, ?_⟩
    rw [hdemand]
    exact hagrees.published policy hpolicy henabled howned _
      (hagrees.fresh policy hpolicy henabled howned id s hs)
  · obtain ⟨s, hs⟩ := isSome_iff_exists.mp (hstatus fan (hsettings ▸ hfan) henabled)
    refine ⟨s, hs, ?_⟩
    rw [hdemand]
    exact hagrees.fans fan hfan henabled s hs

/-! ### A fan lets go of an output -/

/-- One blower on a general-purpose line, off from the start. -/
def blower : OutputSettings :=
  { name := "blower", enabled := true
    endpoint := some { backend := .gpiod, device := "gpiochip0", channel := "4" }
    activeHigh := true, startupOn := false, safeOn := false, pulseMs := 500 }

/-- The blower, commanded directly. -/
def plainSettings : ResolvedSiteSettings ℚ :=
  { empty with
    outputs := [blower]
    sensors := [{ name := "cabinet", enabled := true, endpoint := none, pollIntervalMs := 1000
                  staleAfterMs := 5000, smoothingMs := 0, calibration := .none }] }

/-- The blower, owned by a fan that cools by the cabinet's temperature. -/
def fannedSettings : ResolvedSiteSettings ℚ :=
  { plainSettings with
    fans := [{ name := "cooling", enabled := true, output := "blower", mode := .temperature
               pttNodes := [], runOnMs := 120000, temperatureSensor := "cabinet"
               onTemperature := some 40, offTemperature := some 30, temperatureCurve := []
               rpmSensor := "", minimumRpm := none, spinupMs := 1000 }] }

/-- The blower is there, and the cabinet's temperature is unknown: full cooling. -/
def blowerOnly : SiteObservations ℚ :=
  { sensors := fun _ => none, inputs := fun _ => none
    outputs := fun name =>
      if name = "blower" then some { available := true, pwm := false } else none }

/-- An advance with these observations. -/
def advanceAt (now : Nat) : SiteMove ℚ := .advance now blowerOnly fun _ => false

/-- The desk of new settings. -/
def newDesk (settings : ResolvedSiteSettings ℚ) : DemandDesk ℚ :=
  { site := .new settings, demand := startup settings }

/-- The blower is published as off; a fan takes it over and runs it; then the fan is removed. -/
def releasedDesk : DemandDesk ℚ :=
  ((((newDesk plainSettings).next (advanceAt 0)).next (.reconfigure fannedSettings)).next
    (advanceAt 10)).next (.reconfigure plainSettings)

/-- The controller remembers the blower as off and emits nothing, while its demand is still the
fan's. -/
theorem released_output_diverges : ∃ d : DemandDesk ℚ, Reachable Initial Step d ∧
      ¬(d.next (.advance 20 blowerOnly fun _ => false)).Converged := by
  have hadvance :
    ∀ (d : DemandDesk ℚ) (now : Nat), Step d (advanceAt now) (d.next (advanceAt now)) :=
    fun d now => ⟨fun settings h => (by cases h), rfl⟩
  have hreload : ∀ (d : DemandDesk ℚ) settings, settings.Valid →
      Step d (.reconfigure settings) (d.next (.reconfigure settings)) :=
    fun d settings h => ⟨fun other heq => (SiteMove.reconfigure.inj heq) ▸ h, rfl⟩
  refine ⟨releasedDesk, ?_, fun hconverged => ?_⟩
  · exact (((Reachable.init ⟨_, by decide, rfl, rfl⟩).step (hadvance _ 0)).step
      (hreload _ fannedSettings (by decide))).step (hadvance _ 10) |>.step
        (hreload _ plainSettings (by decide))
  · have hstate : ((releasedDesk.next (advanceAt 20)).site.outputs "blower").map (·.requestedOn) =
        some false := by decide +kernel
    have hdemand : (releasedDesk.next (advanceAt 20)).demand "blower" = 1 := by decide +kernel
    obtain ⟨s, hs, hlevel⟩ := hconverged.outputs blower
      (by change blower ∈ (releasedDesk.next (advanceAt 20)).site.settings.outputs
          exact mem_singleton_self _)
      rfl (by
        change (releasedDesk.next (advanceAt 20)).site.settings.fanOwned "blower" = false
        decide)
    change (releasedDesk.next (advanceAt 20)).site.outputs "blower" = some s at hs
    change (releasedDesk.next (advanceAt 20)).demand "blower" = level s.requestedOn at hlevel
    rw [hs] at hstate
    have hoff : s.requestedOn = false := Option.some.inj hstate
    rw [hdemand, hoff] at hlevel
    cases hlevel

/-- A fan that held the blower from the start lets go of it: the next advance turns it off. -/
theorem demand_converges_released :
    ∃ d : DemandDesk ℚ, Reachable Initial (Guarded Step Orderly) d ∧ d.demand "blower" = 1 ∧
      (d.next (.advance 20 blowerOnly fun _ => false)).Converged := by
  have hadvance : ∀ (d : DemandDesk ℚ) (now : Nat),
      Guarded Step Orderly d (advanceAt now) (d.next (advanceAt now)) :=
    fun d now => ⟨fun settings h => (by cases h), fun settings h => (by cases h), rfl⟩
  have hreload : Guarded Step Orderly ((newDesk fannedSettings).next (advanceAt 0))
      (.reconfigure plainSettings)
      (((newDesk fannedSettings).next (advanceAt 0)).next (.reconfigure plainSettings)) := by
    refine ⟨fun settings heq policy hpolicy _ _ _ _ => ?_, fun settings heq => ?_, rfl⟩
    · cases heq
      rw [mem_singleton.mp hpolicy]
      decide +kernel
    · cases heq
      decide
  have hreach : Reachable Initial (Guarded Step Orderly)
      (((newDesk fannedSettings).next (advanceAt 0)).next (.reconfigure plainSettings)) :=
    ((Reachable.init ⟨fannedSettings, by decide, rfl, rfl⟩).step (hadvance _ 0)).step hreload
  refine ⟨_, hreach, by decide +kernel, demand_converges hreach 20 blowerOnly fun _ => false⟩

end DemandDesk

end RptAdvanced.Site
