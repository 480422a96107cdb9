import RptAdvanced.Controller.Keying
import RptAdvanced.Controller.Run

/-!
# The traffic watchdog over whole runs (`timeout.rs`)

`Recovery` says once what a blocked tick can do to the watchdog and its notices (`tick_recovery`).
A tick is blocked, expires the watchdog or leaves it open: `step_blocked`, `step_expires`,
`step_open`. From these:

* `key_le_latest`: while traffic is keyed, the watchdog's interval started no later than the latest
  key-up or unkey, in every reachable state;
* `recovery_idle`: a blocked run only leaves `expired` and `waiting` through a tick with no activity
  at all, and with notices installed reaches `normal` only by the end of the recovery notice;
* `watchdog_bound_and_recovery`: the protection a station relies on, for every run.
-/

namespace RptAdvanced.Controller

open Audio Lib Policy Option NodeController TimeoutPolicy

/-- The expiry notice and the recovery notice of a controller, if installed. -/
abbrev Notices (S : Type) := Option (PreparedMedia S × PreparedMedia S)

/-- What a blocked tick at `now` does to the watchdog and its notices. -/
inductive Recovery {S : Type} (activity : Bool) (now : Nat) :
    TimeoutPolicy → Notices S → TimeoutPolicy → Notices S → Prop
  /-- Activity keeps the wait. -/
  | wait {p : TimeoutPolicy} {n : Notices S} (hp : p.phase = .waiting) (ha : activity = true) :
      Recovery activity now p n p n
  /-- A controller without notices passes at once, when idle. -/
  | bare {p : TimeoutPolicy} (hp : p.phase ≠ .normal) (ha : p.phase = .waiting → activity = false) :
      Recovery activity now p none ⟨now, if activity then .waiting else .normal⟩ none
  /-- One sample of the expiry notice. -/
  | expiry {p : TimeoutPolicy} {m : PreparedMedia S × PreparedMedia S} (q : Playback S)
      (hp : p.phase = .expired) :
      Recovery activity now p (some m) (if q.isFinished then ⟨now, .waiting⟩ else p)
        (some (m.1.withPlayback q, m.2))
  /-- One sample of the recovery notice, which an idle tick starts. -/
  | recovery {p : TimeoutPolicy} {m : PreparedMedia S × PreparedMedia S} (q : Playback S)
      (hp : p.phase = .cleared ∨ (p.phase = .waiting ∧ activity = false)) :
      Recovery activity now p (some m) (if q.isFinished then ⟨now, .normal⟩ else ⟨p.key, .cleared⟩)
        (some (m.1, m.2.withPlayback q))

variable {activity : Bool} {now : Nat} {p t : TimeoutPolicy} {S : Type}

/-- An idle wait is cleared before its tick reads a notice. -/
theorem Recovery.of_cleared {n n' : Notices S} (h : Recovery activity now ⟨p.key, .cleared⟩ n t n')
    (hp : p.phase = .waiting) (ha : activity = false) : Recovery activity now p n t n' := by
  generalize hc : (⟨p.key, .cleared⟩ : TimeoutPolicy) = c at h
  cases h with
  | wait hw _ => subst hc; simp at hw
  | bare _ _ => exact .bare (by simp [hp]) fun _ => ha
  | expiry _ he => subst hc; simp at he
  | recovery q _ =>
    subst hc
    exact .recovery q (.inr ⟨hp, ha⟩)

/-- The recovery notice, if installed, has not been played out. -/
def NoticeDue {S : Type} (n : Notices S) : Prop := ∀ m, n = some m → m.2.playback.isFinished = false

/-- The recovery notice, if installed, has been played out. -/
def NoticeDone {S : Type} (n : Notices S) : Prop := ∀ m, n = some m → m.2.playback.isFinished = true

/-- Blocked, and not yet idle: the recovery notice is still due. -/
def Awaits {S : Type} (p : TimeoutPolicy) (n : Notices S) : Prop :=
  (p.phase = .expired ∨ p.phase = .waiting) ∧ NoticeDue n

/-- After the idle tick: the recovery notice plays, or has been played out. -/
def Clears {S : Type} (p : TimeoutPolicy) (n : Notices S) : Prop :=
  (p.phase = .cleared ∧ n.isSome = true) ∨ (p.phase = .normal ∧ NoticeDone n)

/-- One sample of the recovery notice. -/
theorem Clears.recovery {now key : Nat} (m : PreparedMedia S × PreparedMedia S)
    (q : Playback S) : Clears (if q.isFinished then ⟨now, .normal⟩ else ⟨key, .cleared⟩)
      (some (m.1, m.2.withPlayback q)) := by
  cases hq : q.isFinished with
  | true =>
    refine .inr ⟨rfl, fun m' hm' => ?_⟩
    cases hm'
    exact hq
  | false => exact .inl ⟨rfl, rfl⟩

/-- A blocked tick of a controller that awaits an idle tick: it goes on, or this tick is idle. -/
theorem Recovery.awaits
    {n n' : Notices S} (h : Recovery activity now p n t n') (hp : Awaits p n) : Awaits t n' ∨
      (activity = false ∧ (n.isSome = true → p.phase = .waiting) ∧ Clears t n') := by
  cases h with
  | wait hw _ => exact .inl ⟨.inr hw, hp.2⟩
  | bare _ _ =>
    cases activity with
    | true => exact .inl ⟨.inr rfl, hp.2⟩
    | false => exact .inr ⟨rfl, by simp, .inr ⟨rfl, by simp [NoticeDone]⟩⟩
  | @expiry m q he =>
    refine .inl ⟨?_, ?_⟩
    · split
      · exact .inr rfl
      · exact .inl he
    · intro m' hm'
      cases hm'
      exact hp.2 m rfl
  | @recovery m q hr =>
    rcases hr with hr | ⟨hw, ha⟩
    · rcases hp.1 with hp | hp <;> simp [hp] at hr
    · exact .inr ⟨ha, fun _ => hw, .recovery m q⟩

/-- A cleared tick plays on, or ends with its notice. -/
theorem Recovery.clears
    {n n' : Notices S} (h : Recovery activity now p n t n') (hp : p.phase = .cleared)
    (hn : n.isSome = true) : Clears t n' := by
  cases h with
  | wait hw _ => simp [hp] at hw
  | bare _ _ => simp at hn
  | expiry _ he => simp [hp] at he
  | @recovery m q _ => exact .recovery m q

/-- Notices stay installed, and are not installed by a tick. -/
theorem Recovery.isSome
    {n n' : Notices S} (h : Recovery activity now p n t n') : n'.isSome = n.isSome := by
  cases h <;> rfl

namespace NodeController

variable {S F : Type}

/-! ## One tick -/

variable [PcmStreamReader S F] [Pcm F] (c : NodeController S F)

/-- The notice of an unchanged phase. -/
theorem playNotice_recovery (activity inhibited : Bool)
    (input : Option F) (hb : c.timeout.phase ≠ .normal)
    (hidle : c.timeout.phase = .waiting → activity = true) :
    Recovery activity c.now c.timeout c.timeoutMedia
      (c.playNotice activity inhibited input).1.timeout
      (c.playNotice activity inhibited input).1.timeoutMedia := by
  rcases playNotice_cases c activity inhibited input with
    ⟨hexpired, hclears, h⟩ | ⟨hp, hm, h⟩ | ⟨media, notice, hp, hm, hn, h⟩
  · have hwait : c.timeout.phase = .waiting := by
      cases hphase : c.timeout.phase <;> simp_all
    rw [h]
    exact .wait hwait (hidle hwait)
  · rw [h, hm]
    exact .bare hb fun hw => by rcases hp with hp | hp <;> simp [hw] at hp
  · rw [h, hm]
    unfold settleNotice
    rcases hp with hp | hp
    · rw [hp]
      exact .expiry _ hp
    · have hkeep : c.timeout = ⟨c.timeout.key, .cleared⟩ := by rw [← hp]
      rw [hkeep]
      exact .recovery _ (.inl rfl)

/-- **A blocked tick moves the watchdog by `Recovery`.** -/
theorem timeoutSample_recovery (activity inhibited : Bool)
    (input : Option F) (program : Option (ProgramInput F)) (hb : c.timeout.blocked = true) :
    Recovery activity c.now c.timeout c.timeoutMedia
      (c.timeoutSample activity inhibited input program).1.timeout
      (c.timeoutSample activity inhibited input program).1.timeoutMedia := by
  have hnormal : c.timeout.phase ≠ .normal := by simpa [blocked] using hb
  have hplay := playNotice_recovery (c.clearIdle activity) activity inhibited input
  by_cases hidle : c.timeout.phase = .waiting ∧ activity = false
  · -- an idle wait is cleared first, and its notice read in the same tick
    have hclear : (c.clearIdle activity).timeout = ⟨c.timeout.key, .cleared⟩ := if_pos hidle
    rw [hclear] at hplay
    exact (hplay (by simp) (by simp)).of_cleared hidle.1 hidle.2
  · have hsame : (c.clearIdle activity).timeout = c.timeout := if_neg hidle
    rw [hsame] at hplay
    exact hplay hnormal fun hw => by
      by_contra ha
      exact hidle ⟨hw, by simpa using ha⟩

/-- The controller a tick decides traffic with. -/
def decided (c : NodeController S F) (i : StepInput F) : NodeController S F :=
  (c.observe i).1.decideTick i (c.observe i).2

/-- The watchdog expires in this tick. -/
def expires (c : NodeController S F) (i : StepInput F) : Bool :=
  !c.timeout.blocked && (c.decided i).timeout.blocked

/-- Both notices, rewound to play from their beginning. -/
def restartNotices (n : Notices S) : Notices S :=
  n.map fun m => (m.1.withPlayback (m.1.playback.restart false),
    m.2.withPlayback (m.2.playback.restart false))

omit [Pcm F] in
theorem beginTimeout_core : c.beginTimeout.timeout = c.timeout ∧ c.beginTimeout.now = c.now ∧
      c.beginTimeout.timeoutMedia = restartNotices c.timeoutMedia := by
  have h := mapPlayback_core c c.telemetry.active fun p => (p.restart false).defer false
  refine ⟨h.timeout, h.now, ?_⟩
  unfold beginTimeout
  dsimp only
  rw [h.timeoutMedia]
  rfl

section Tick

variable (i : StepInput F)

theorem step_blocked (hb : c.timeout.blocked = true) :
    c.step i = (c.observe i).1.timeoutSample i.activity (c.observe i).1.world.siteInhibit i.input
      i.program := by
  unfold step
  rw [if_pos ((observe_observes c i).blocked.trans hb)]

theorem step_expires (he : c.expires i = true) :
    c.step i = (c.decided i).beginTimeout.timeoutSample i.activity
      (c.observe i).1.world.siteInhibit i.input i.program := by
  unfold expires at he
  rw [Bool.and_eq_true, Bool.not_eq_true'] at he
  have hopen := (observe_observes c i).blocked.trans he.1
  unfold step
  rw [if_neg (by simp [hopen])]
  unfold trafficTick
  exact if_pos he.2

theorem step_open (hb : c.timeout.blocked = false) (he : c.expires i = false) :
    c.step i = (c.decided i).finishTick i ((c.observe i).1.chooseMedia i (c.observe i).2).2
        ((c.observe i).1.slotTick i (c.observe i).2).2
        ((c.observe i).1.demandTick i (c.observe i).2) := by
  have hopen := (observe_observes c i).blocked.trans hb
  have hdecided : (c.decided i).timeout.blocked = false := by
    simpa [expires, hb] using he
  unfold step
  rw [if_neg (by simp [hopen])]
  unfold trafficTick
  rw [if_neg (by rw [Bool.not_eq_true]; exact hdecided)]
  rfl

/-- A blocked or expiring tick goes through `timeout_sample`, with the notices as they then are. -/
theorem step_timeoutSample (h : c.timeout.blocked = true ∨ c.expires i = true) :
    ∃ d : NodeController S F, c.step i = d.timeoutSample i.activity
        (c.observe i).1.world.siteInhibit i.input i.program ∧ d.now = c.now ∧
      d.timeout.blocked = true ∧ ((c.timeout.blocked = true ∧ d.timeout.phase = c.timeout.phase ∧
          d.timeoutMedia = c.timeoutMedia) ∨
        (c.timeout.blocked = false ∧ d.timeout.phase = .expired ∧
          d.timeoutMedia = restartNotices c.timeoutMedia)) := by
  have hobserve := observe_observes c i
  cases hb : c.timeout.blocked with
  | true =>
    refine ⟨_, step_blocked c i hb, hobserve.now, hobserve.blocked.trans hb, .inl ⟨rfl, ?_, ?_⟩⟩
    · rw [hobserve.timeout]
      split <;> rfl
    · exact hobserve.timeoutMedia
  | false =>
    have he : c.expires i = true := by simpa [hb] using h
    have hcore := slotTick_core (c.observe i).1 i (c.observe i).2
    have hblocked : (c.decided i).timeout.blocked = true := by
      unfold expires at he
      rw [Bool.and_eq_true] at he
      exact he.2
    have hopen : ((c.observe i).1.slotTick i (c.observe i).2).1.timeout.blocked = false := by
      rw [hcore.timeout, hobserve.blocked, hb]
    obtain ⟨_, _, _, _, heq⟩ := apply_blocked _ _ _ _ _ hopen hblocked
    obtain ⟨ht, hn, hm⟩ := beginTimeout_core (c.decided i)
    refine ⟨_, step_expires c i he, hn.trans (hcore.now.trans hobserve.now), by rw [ht, hblocked],
      Or.inr ⟨rfl, ?_, ?_⟩⟩
    · rw [ht]
      exact congrArg (fun r => r.2.phase) heq
    · rw [hm]
      exact congrArg restartNotices (hcore.timeoutMedia.trans hobserve.timeoutMedia)

/-- The decision of a tick that leaves traffic keyed: an interval started by this key-up, by this
unkey, or before, and not yet over. -/
theorem step_keyed (h : (c.step i).1.trafficKeyed = true) : (c.step i).1.timeout.key =
        (if c.trafficKeyed then if c.receiver && !i.receiving then c.now else c.timeout.key
          else c.now) ∧
      (0 < c.timeoutSamples → c.now - (c.step i).1.timeout.key < c.timeoutSamples) := by
  have hnot : ¬(c.timeout.blocked = true ∨ c.expires i = true) := fun hb => by
    obtain ⟨d, hstep, _⟩ := step_timeoutSample c i hb
    rw [hstep, timeoutSample_trafficKeyed] at h
    cases h
  rw [not_or, Bool.not_eq_true, Bool.not_eq_true] at hnot
  have hobserve := observe_observes c i
  have hcore := slotTick_core (c.observe i).1 i (c.observe i).2
  have hopen := step_open c i hnot.1 hnot.2
  have htimeout : (c.step i).1.timeout = (c.decided i).timeout := by
    rw [hopen, finishTick_timeout]
  rw [hopen, finishTick_trafficKeyed] at h
  have hkey : (c.decided i).timeout.key = _ := apply_key _ _ _ _ _ h
  have hbound : _ ≠ 0 → ((c.observe i).1.slotTick i (c.observe i).2).1.now -
      (c.decided i).timeout.key < _ := fun ht => apply_bound _ _ _ _ _ ht h
  rw [hcore.trafficKeyed, hcore.timeout, hcore.now, hobserve.trafficKeyed, hobserve.timeout,
    hobserve.now]
    at hkey
  have hsamples : ((c.observe i).1.slotTick i (c.observe i).2).1.timeoutSamples =
      c.timeoutSamples := by
    rw [hcore.timeoutSamples]
    unfold timeoutSamples
    rw [hobserve.settings]
  refine ⟨?_, fun hT => ?_⟩
  · rw [htimeout, hkey, Bool.and_comm c.receiver]
    split
    · split <;> rfl
    · rfl
  · have := hbound (by rw [hsamples]; omega)
    rwa [hsamples, hcore.now, hobserve.now, ← htimeout] at this

/-- The notices a blocked or expiring tick reads from. -/
def noticesRead : Notices S :=
  if c.timeout.blocked then c.timeoutMedia else restartNotices c.timeoutMedia

/-- **While blocked a station sends notices and nothing else**: no traffic, no parrot, no addressed
reply and no broadcast. -/
theorem step_suppressed (h : c.timeout.blocked = true ∨ c.expires i = true) :
    (c.step i).1.trafficKeyed = false ∧ FromNotice (c.noticesRead) (c.step i).2.rf ∧
      (c.step i).2.program = i.program.map fun p =>
        { parrot := 0
          parrotActive := p.parrotActive
          reply := if p.reply then some PeerReplySample.silent else none } := by
  obtain ⟨d, hstep, _, _, hd⟩ := step_timeoutSample c i h
  have hmedia : d.timeoutMedia = c.noticesRead := by
    unfold noticesRead
    rcases hd with ⟨hb, _, hm⟩ | ⟨hb, _, hm⟩ <;> rw [hb, hm] <;> rfl
  rw [hstep, ← hmedia]
  exact ⟨timeoutSample_trafficKeyed _ _ _ _ _, timeoutSample_fromNotice _ _ _ _ _, rfl⟩

end Tick

/-! ## Recovery over a run -/

/-- The transitions of a blocked controller. -/
def BlockedActs : NodeController S F → Action S F → NodeController S F → Prop :=
  Guarded Acts fun c _ => c.timeout.blocked = true

/-- A local or direct-link unkey. -/
def unkeys (c : NodeController S F) : Action S F → Bool
  | .tick i => c.receiver && !i.receiving
  | .linkUnkeyed _ _ _ => true
  | _ => false

/-- Between ticks only an unkey touches the watchdog, and it only restarts the interval. -/
theorem act_transmitter (a : Action S F) (ha : ∀ i, a ≠ .tick i) :
    (c.act a).timeout = (if c.unkeys a then c.timeout.unkey c.now else c.timeout) ∧
      (c.act a).timeoutMedia = c.timeoutMedia ∧ (c.act a).trafficKeyed = c.trafficKeyed := by
  cases a with
  | tick i => exact absurd rfl (ha i)
  | linkKeyed direct =>
    change (c.linkKeyed direct).timeout = _ ∧ (c.linkKeyed direct).timeoutMedia = _ ∧
      (c.linkKeyed direct).trafficKeyed = _
    unfold linkKeyed
    split <;> exact ⟨rfl, rfl, rfl⟩
  | linkUnkeyed direct selected kerchunk =>
    change (c.linkUnkeyed direct selected kerchunk).timeout = _ ∧
      (c.linkUnkeyed direct selected kerchunk).timeoutMedia = _ ∧
      (c.linkUnkeyed direct selected kerchunk).trafficKeyed = _
    unfold linkUnkeyed receiveUnkeyed
    split <;> split <;> exact ⟨rfl, rfl, rfl⟩
  | _ => exact ⟨rfl, rfl, rfl⟩

theorem act_phase (a : Action S F) (ha : ∀ i, a ≠ .tick i) :
    (c.act a).timeout.phase = c.timeout.phase := by
  rw [(act_transmitter c a ha).1]
  split <;> rfl

/-- A blocked tick, seen from outside. -/
theorem tick_recovery (i : StepInput F) (hb : c.timeout.blocked = true) :
    ∃ p, p.phase = c.timeout.phase ∧
      Recovery i.activity c.now p c.timeoutMedia (c.tick i).1.timeout
        (c.tick i).1.timeoutMedia := by
  obtain ⟨d, hstep, hnow, hblocked, hd⟩ := step_timeoutSample c i (.inl hb)
  obtain ⟨_, hphase, hmedia⟩ : _ ∧ d.timeout.phase = c.timeout.phase ∧ _ := by
    rcases hd with h | ⟨h, _⟩
    · exact h
    · cases h.symm.trans hb
  refine ⟨d.timeout, hphase, ?_⟩
  have hrecovery := timeoutSample_recovery d i.activity (c.observe i).1.world.siteInhibit i.input
    i.program hblocked
  rwa [← hstep, hnow, hmedia] at hrecovery

/-- One blocked action while the controller awaits an idle tick. -/
theorem act_awaits (a : Action S F) (hb : c.timeout.blocked = true)
    (hc : Awaits c.timeout c.timeoutMedia) : Awaits (c.act a).timeout (c.act a).timeoutMedia ∨
      ∃ j, a = .tick j ∧ j.activity = false ∧
        (c.timeoutMedia.isSome = true → c.timeout.phase = .waiting) ∧
        Clears (c.act a).timeout (c.act a).timeoutMedia := by
  by_cases ha : ∃ i, a = .tick i
  · obtain ⟨i, rfl⟩ := ha
    obtain ⟨p, hp, hrecovery⟩ := tick_recovery c i hb
    rcases hrecovery.awaits ⟨hp ▸ hc.1, hc.2⟩ with h | ⟨hidle, hw, h⟩
    · exact .inl h
    · exact .inr ⟨i, rfl, hidle, fun hm => hp ▸ hw hm, h⟩
  · have hne : ∀ i, a ≠ .tick i := fun i h => ha ⟨i, h⟩
    refine .inl ⟨?_, ?_⟩
    · rw [act_phase c a hne]
      exact hc.1
    · rw [(act_transmitter c a hne).2.1]
      exact hc.2

/-- One blocked action once the idle tick has been seen. -/
theorem act_clears (a : Action S F) (hb : c.timeout.blocked = true)
    (hc : Clears c.timeout c.timeoutMedia) : Clears (c.act a).timeout (c.act a).timeoutMedia := by
  rcases hc with ⟨hphase, hm⟩ | ⟨hphase, _⟩
  · by_cases ha : ∃ i, a = .tick i
    · obtain ⟨i, rfl⟩ := ha
      obtain ⟨p, hp, hrecovery⟩ := tick_recovery c i hb
      exact hrecovery.clears (hp.trans hphase) hm
    · have hne : ∀ i, a ≠ .tick i := fun i h => ha ⟨i, h⟩
      exact .inl ⟨(act_phase c a hne).trans hphase, by rw [(act_transmitter c a hne).2.1, hm]⟩
  · simp [blocked, hphase] at hb

variable {as : List (Action S F)}

/-- **A blocked run leaves the expiry and the wait only through an idle tick**, at which the
recovery notice is still due. -/
theorem recovery_idle {c d : NodeController S F}
    (h : Run BlockedActs c as d) (hc : Awaits c.timeout c.timeoutMedia) :
    Awaits d.timeout d.timeoutMedia ∨
      ∃ pre j post, ∃ e : NodeController S F, as = pre ++ .tick j :: post ∧ j.activity = false ∧
        Run BlockedActs c pre e ∧ NoticeDue e.timeoutMedia ∧
        (e.timeoutMedia.isSome = true → e.timeout.phase = .waiting) ∧
        Clears d.timeout d.timeoutMedia := by
  induction h with
  | nil => exact .inl hc
  | @cons c c1 d a as hstep hrun ih =>
    have hfirst := hstep
    obtain ⟨hb, rfl⟩ := hstep
    rcases act_awaits c a hb hc with hwait | ⟨j, rfl, hidle, hw, hclear⟩
    · rcases ih hwait with h | ⟨pre, j, post, e, rfl, hidle, hpre, hdue, hw, hd⟩
      · exact .inl h
      · exact .inr ⟨a :: pre, j, post, e, rfl, hidle, .cons hfirst hpre, hdue, hw, hd⟩
    · refine .inr ⟨[], j, as, c, rfl, hidle, .nil c, hc.2, hw, ?_⟩
      exact hrun.invariant (P := fun c => Clears c.timeout c.timeoutMedia)
        (fun c a d hc h => h.2 ▸ act_clears c a h.1 hc) hclear

/-- The expiring tick itself: it ends awaiting an idle tick, unless it was idle and the controller
has no notices. -/
theorem tick_expires (i : StepInput F) (he : c.expires i = true) :
    (c.tick i).1.timeoutMedia.isSome = c.timeoutMedia.isSome ∧
      (Awaits (c.tick i).1.timeout (c.tick i).1.timeoutMedia ∨
        (i.activity = false ∧ c.timeoutMedia = none ∧ (c.tick i).1.timeout.blocked = false)) := by
  obtain ⟨d, hstep, hnow, hblocked, hd⟩ := step_timeoutSample c i (.inr he)
  obtain ⟨hphase, hmedia⟩ : d.timeout.phase = .expired ∧
      d.timeoutMedia = restartNotices c.timeoutMedia := by
    rcases hd with ⟨hb, _⟩ | ⟨_, h⟩
    · simp [expires, hb] at he
    · exact h
  have hrecovery := timeoutSample_recovery d i.activity (c.observe i).1.world.siteInhibit i.input
    i.program hblocked
  rw [← hstep, hmedia] at hrecovery
  have hsome : (c.tick i).1.timeoutMedia.isSome = c.timeoutMedia.isSome :=
    hrecovery.isSome.trans isSome_map
  have hdue : NoticeDue (restartNotices c.timeoutMedia) := by
    intro m hm
    obtain ⟨m0, _, rfl⟩ := map_eq_some_iff.mp hm
    rfl
  refine ⟨hsome, ?_⟩
  rcases hrecovery.awaits ⟨.inl hphase, hdue⟩ with h | ⟨hidle, hw, hclear⟩
  · exact .inl h
  -- with notices the phase would have to be `waiting` already
  have hnone : c.timeoutMedia.isSome = false := by
    rw [Bool.eq_false_iff]
    intro hm
    have := hw (isSome_map.trans hm)
    simp [hphase] at this
  refine .inr ⟨hidle, by simpa using hnone, ?_⟩
  rcases hclear with ⟨_, hm⟩ | ⟨hn, _⟩
  · exact absurd (hsome.symm.trans hm) (by simp [hnone])
  change ((c.step i).1.timeout.phase != .normal) = false
  rw [hn]
  rfl

/-- Traffic stays unkeyed and the notices installed along a blocked run. -/
theorem blocked_run_silent {c d : NodeController S F}
    (h : Run BlockedActs c as d) (hc : c.trafficKeyed = false) :
    d.trafficKeyed = false ∧ d.timeoutMedia.isSome = c.timeoutMedia.isSome := by
  refine h.invariant (P := fun e => e.trafficKeyed = false ∧
    e.timeoutMedia.isSome = c.timeoutMedia.isSome) ?_ ⟨hc, rfl⟩
  rintro e a _ ⟨hkeyed, hsome⟩ ⟨hb, rfl⟩
  by_cases ha : ∃ i, a = .tick i
  · obtain ⟨i, rfl⟩ := ha
    obtain ⟨p, _, hrecovery⟩ := tick_recovery e i hb
    exact ⟨(step_suppressed e i (.inl hb)).1, hrecovery.isSome.trans hsome⟩
  · have hne : ∀ i, a ≠ .tick i := fun i h => ha ⟨i, h⟩
    obtain ⟨_, hmedia, htraffic⟩ := act_transmitter e a hne
    exact ⟨htraffic.trans hkeyed, by rw [hmedia, hsome]⟩

/-- **Recovery needs an idle tick.** From the tick in which the watchdog expires to the return to
normal some tick has no activity; with notices installed, the recovery notice is still due at that
tick and played out at the return. -/
theorem expiry_recovery {c d : NodeController S F} {i : StepInput F}
    (he : c.expires i = true) (h : Run BlockedActs (c.tick i).1 as d)
    (hd : d.timeout.blocked = false) :
    ∃ pre j post, ∃ e : NodeController S F, .tick i :: as = pre ++ .tick j :: post ∧
      j.activity = false ∧ Run Acts c pre e ∧
      (∀ m, c.timeoutMedia = some m → e.timeout.phase = .waiting ∧
        (∃ n, e.timeoutMedia = some n ∧ n.2.playback.isFinished = false) ∧
        ∃ n, d.timeoutMedia = some n ∧ n.2.playback.isFinished = true) := by
  obtain ⟨hsome, hstart⟩ := tick_expires c i he
  have hkeyed : (c.tick i).1.trafficKeyed = false := (step_suppressed c i (.inr he)).1
  rcases hstart with hawait | ⟨hidle, hnone, hopen⟩
  · rcases recovery_idle h hawait with hd' | ⟨pre, j, post, e, rfl, hidle, hpre, hdue, hw, hclear⟩
    · rcases hd'.1 with hp | hp <;> simp [blocked, hp] at hd
    refine ⟨.tick i :: pre, j, post, e, rfl, hidle,
      .cons rfl (hpre.mono fun _ _ _ h => h.2), fun m hm => ?_⟩
    have hinstalled : (c.tick i).1.timeoutMedia.isSome = true := by rw [hsome, hm]; rfl
    have he' := (blocked_run_silent hpre hkeyed).2.trans hinstalled
    have hd' := (blocked_run_silent h hkeyed).2.trans hinstalled
    obtain ⟨n, hn⟩ := isSome_iff_exists.mp he'
    obtain ⟨n', hn'⟩ := isSome_iff_exists.mp hd'
    refine ⟨hw he', ⟨n, hn, hdue n hn⟩, n', hn', ?_⟩
    rcases hclear with ⟨hp, _⟩ | ⟨_, hdone⟩
    · simp [blocked, hp] at hd
    · exact hdone n' hn'
  · exact ⟨[], i, as, c, rfl, hidle, .nil c, fun m hm => by simp [hnone] at hm⟩

/-! ## The bound -/

/-- Traffic PTT rises in this tick. -/
def keysUp (c : NodeController S F) (i : StepInput F) : Bool :=
  !c.trafficKeyed && (c.tick i).1.trafficKeyed

/-- An installed notice ends in this tick: the watchdog moves on to the wait, or to normal. -/
def noticeEnds (c : NodeController S F) (i : StepInput F) : Bool :=
  c.timeoutMedia.isSome && (c.tick i).1.timeout.phase != c.timeout.phase &&
    ((c.tick i).1.timeout.phase == .waiting || (c.tick i).1.timeout.phase == .normal)

end NodeController

/-- A controller with the times the watchdog's bound is measured from. -/
structure Marked (S F : Type) where
  node : NodeController S F
  keyUp : Nat
  unkey : Nat
  noticeEnd : Nat

namespace Marked

variable {S F : Type} [PcmStreamReader S F] [Pcm F]

/-- The latest key-up, unkey or end of a notice. -/
def latest (s : Marked S F) : Nat := max (max s.keyUp s.unkey) s.noticeEnd

/-- An action, with its marks. -/
def act (s : Marked S F) (a : Action S F) : Marked S F where
  node := s.node.act a
  keyUp := match a with
    | .tick i => if s.node.keysUp i then s.node.now else s.keyUp
    | _ => s.keyUp
  unkey := if s.node.unkeys a then s.node.now else s.unkey
  noticeEnd := match a with
    | .tick i => if s.node.noticeEnds i then s.node.now else s.noticeEnd
    | _ => s.noticeEnd

/-- The transition relation of a marked controller. -/
def Acts (s : Marked S F) (a : Action S F) (t : Marked S F) : Prop := t = s.act a

/-- A published controller, with no marks yet. -/
def Built (s : Marked S F) : Prop := NodeController.Built s.node ∧ s.latest = 0

/-- While traffic is keyed, the watched interval started no later than a mark. -/
def KeyMarked (s : Marked S F) : Prop :=
  s.node.trafficKeyed = true → s.node.timeout.key ≤ max s.keyUp s.unkey

/-- A tick that leaves traffic keyed keeps its interval marked. -/
theorem tick_keyMarked (s : Marked S F) (i : StepInput F) (hinv : s.KeyMarked) :
    (s.act (.tick i)).KeyMarked := by
  intro h
  have hkeyed : (s.node.tick i).1.trafficKeyed = true := h
  change (s.node.step i).1.timeout.key ≤ _
  rw [(step_keyed s.node i h).1]
  cases hwas : s.node.trafficKeyed with
  | false => simp [act, keysUp, hwas, hkeyed]
  | true =>
    have hle := hinv hwas
    cases hedge : s.node.receiver && !i.receiving with
    | true => simp [act, unkeys, hedge]
    | false => simpa [act, unkeys, keysUp, hedge, hwas] using hle

/-- Every action keeps the interval marked. -/
theorem act_keyMarked (s : Marked S F) (a : Action S F) (hinv : s.KeyMarked) :
    (s.act a).KeyMarked := by
  by_cases ha : ∃ i, a = .tick i
  · obtain ⟨i, rfl⟩ := ha
    exact tick_keyMarked s i hinv
  obtain ⟨ht, _, hkeyed⟩ := act_transmitter s.node a fun i h => ha ⟨i, h⟩
  intro h
  have hle := hinv (hkeyed.symm.trans h)
  have hup : (s.act a).keyUp = s.keyUp := by
    cases a <;> first | rfl | exact absurd ⟨_, rfl⟩ ha
  change (s.node.act a).timeout.key ≤ max (s.act a).keyUp
    (if s.node.unkeys a then s.node.now else s.unkey)
  rw [ht, hup]
  cases hu : s.node.unkeys a with
  | true => simp [TimeoutPolicy.unkey]
  | false => simpa using hle

/-- **The watched interval is marked in every reachable state.** -/
theorem key_le_latest {s : Marked S F} (h : Reachable Built Acts s) : s.KeyMarked := by
  refine h.invariant (fun s hs hk => ?_) fun s a t hs ht => ht ▸ act_keyMarked s a hs
  obtain ⟨_, _, _, _, _, _, _, _, heq⟩ := hs.1.eq_initial
  rw [heq] at hk
  cases hk

/-- **The watchdog protects the transmitter**, in every run of a controller with a timeout.

* Traffic PTT is never asserted the timeout or more after the latest of its key-up, an unkey and the
  end of a notice.
* While expired, and in the tick that expires, only notice audio is sent: traffic stays unkeyed, and
  no parrot, reply or broadcast sample leaves.
* From the expiry to the return to normal some tick is idle; with notices installed, the recovery
  notice is still due at that tick and is played out before the return. -/
theorem watchdog_bound_and_recovery {s : Marked S F} (h : Reachable Built Acts s)
    (hT : 0 < s.node.timeoutSamples) : (∀ i, (s.node.tick i).1.trafficKeyed = true →
      s.node.now - (s.act (.tick i)).latest < s.node.timeoutSamples) ∧
    (∀ i, s.node.timeout.blocked = true ∨ s.node.expires i = true →
      (s.node.tick i).1.trafficKeyed = false ∧
      NodeController.FromNotice s.node.noticesRead (s.node.tick i).2.rf ∧
      (s.node.tick i).2.program = i.program.map fun p =>
        { parrot := 0
          parrotActive := p.parrotActive
          reply := if p.reply then some PeerReplySample.silent else none }) ∧
    (∀ i as d, s.node.expires i = true → Run NodeController.BlockedActs (s.node.tick i).1 as d →
      d.timeout.blocked = false →
      d.trafficKeyed = false ∧
      ∃ pre j post, ∃ e : NodeController S F, .tick i :: as = pre ++ .tick j :: post ∧
        j.activity = false ∧ Run NodeController.Acts s.node pre e ∧
        (∀ m, s.node.timeoutMedia = some m → e.timeout.phase = .waiting ∧
          (∃ n, e.timeoutMedia = some n ∧ n.2.playback.isFinished = false) ∧
          ∃ n, d.timeoutMedia = some n ∧ n.2.playback.isFinished = true)) := by
  refine ⟨fun i hi => ?_, fun i hi => step_suppressed s.node i hi,
    fun i as d he hrun hd => ⟨?_, expiry_recovery he hrun hd⟩⟩
  · have hle : (s.node.step i).1.timeout.key ≤ _ := act_keyMarked s (.tick i) (key_le_latest h) hi
    have hbound := (step_keyed s.node i hi).2 hT
    unfold latest
    omega
  · exact (blocked_run_silent hrun (step_suppressed s.node i (Or.inr he)).1).1

/-- A full-duplex bench node with notices, before its first tick. -/
def bench : Marked (TestPcmStream ℚ) ℚ :=
  ⟨(benchNode true false).setTimeoutMedia (benchNotice, benchNotice), 0, 0, 0⟩

theorem bench_built : bench.Built :=
  ⟨.setTimeoutMedia (.new (show new _ _ _ _ true _ _ = some _ from if_pos (by decide))), rfl⟩

/-- After 48 samples of one long transmission the watchdog of one millisecond expires, and the tick
sends the first sample of the expiry notice. -/
theorem watchdog_bound_and_recovery_expiring :
    let s := (List.replicate 48 (.tick benchInput)).foldl act bench
    s.node.trafficKeyed = true ∧ s.node.expires benchInput = true ∧
      (s.node.tick benchInput).2.rf = 1 / 4 ∧
      (s.node.tick benchInput).1.trafficKeyed = false := by
  intro s
  have hreach : Reachable Built Acts s := (Reachable.init bench_built).run (Run.foldl act bench _)
  have he : s.node.expires benchInput = true := by decide +kernel
  exact ⟨by decide +kernel, he, by decide +kernel,
    ((watchdog_bound_and_recovery hreach (by decide +kernel)).2.1 _ (.inr he)).1⟩

end Marked

end RptAdvanced.Controller
