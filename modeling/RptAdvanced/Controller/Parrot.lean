import RptAdvanced.Controller.Envelopes

/-!
# The parrot's live switch (`set_parrot_enabled`, `sync_parrot_lifecycle`, `apply_parrot_disable`)

Control switches the parrot on and off while callbacks run. A request ring, an acknowledgement ring
and a flag tell the audio side, each at its own time; a busy flag bounds the recordings.

`Lifecycle` is the switch without the captures and the media, `Lifecycle.Move` one access to a ring
or a flag. Every move of the desk is a few of these (`step_switches`), and `Lifecycle.Sound` holds
in every run of them: at most one request or acknowledgement is under way, a capture is installed
exactly when the last request that audio took enabled it, and a callback that has seen the parrot
disabled leaves control no way to queue a recording before it has stored the flag again.

Result: `parrot_protocol`.
-/

namespace RptAdvanced.Controller

open Audio Lib Policy List Option ParrotCapture

open PreparedMedia (Evolves)

variable {S F : Type}

/-! ## The switch -/

/-- The state of the switch. -/
structure Lifecycle where
  /-- Control's switch. -/
  enabled : Bool
  /-- The flag store control owes. -/
  due : Option Bool
  flag : Bool
  /-- Control waits for an acknowledgement. -/
  awaiting : Bool
  request : Option Bool
  /-- Audio has an acknowledgement to push. -/
  acking : Bool
  ack : Bool
  /-- Audio keeps an acknowledgement that did not fit. -/
  stalled : Bool
  /-- A capture is installed. -/
  installed : Bool
  /-- A callback has seen the parrot disabled, and it was not enabled since. -/
  off : Bool
  /-- A disable request found no capture. -/
  failed : Bool

namespace Lifecycle

variable {l l' : Lifecycle}

/-- One access to a ring or the flag. -/
inductive Move (l : Lifecycle) : Lifecycle → Prop
  | request (e : Bool) (change : e ≠ l.enabled) (free : l.awaiting = false)
      (stored : l.due = none) :
      Move l { l with enabled := e, due := some e, awaiting := true, request := some e }
  | store (e : Bool) (due : l.due = some e) :
      Move l { l with flag := e, due := none, off := l.off && !e }
  | reclaim (ack : l.ack = true) (stored : l.due = none) :
      Move l { l with ack := false, awaiting := false }
  | retry (stalled : l.stalled = true) : Move l { l with stalled := false, ack := true }
  | enable (request : l.request = some true) :
      Move l { l with request := none, installed := true, acking := true }
  | disable (request : l.request = some false) (installed : l.installed = true) :
      Move l { l with request := none, installed := false, acking := true, off := true }
  | fail (request : l.request = some false) (missing : l.installed = false) :
      Move l { l with failed := true }
  | push (acking : l.acking = true) (room : l.ack = false) :
      Move l { l with acking := false, ack := true }
  | stall (acking : l.acking = true) (full : l.ack = true) :
      Move l { l with acking := false, stalled := true }
  | observe (flag : l.flag = false) : Move l { l with off := true }

/-- What holds of the switch in every run. -/
structure Sound (l : Lifecycle) : Prop where
  stalled : l.stalled = false
  failed : l.failed = false
  /-- One request is under way while control waits. -/
  one : l.request.isSome.toNat + l.acking.toNat + l.ack.toNat = l.awaiting.toNat
  /-- The request is for control's switch. -/
  request : ∀ e, l.request = some e → e = l.enabled
  /-- The capture follows the switch once the request is taken. -/
  installed : l.installed = (l.enabled ^^ l.request.isSome)
  /-- The flag is the switch once it is stored. -/
  flag : l.due = none → l.flag = l.enabled
  due : ∀ e, l.due = some e → e = l.enabled
  /-- While the parrot is off, control cannot queue a recording. -/
  off : l.off = true → l.enabled = true → l.due = some true

/-- While a request waits, nothing of an earlier one is left. -/
theorem Sound.requested (hl : l.Sound) {e : Bool} (h : l.request = some e) :
    l.acking = false ∧ l.ack = false ∧ l.awaiting = true := by
  have hone := hl.one
  rw [h] at hone
  cases ha : l.acking <;> cases hk : l.ack <;> cases hw : l.awaiting <;> simp [ha, hk, hw] at hone
  exact ⟨rfl, rfl, rfl⟩

/-- While audio has an acknowledgement to push, its ring is free. -/
theorem Sound.acknowledges (hl : l.Sound) (h : l.acking = true) : l.ack = false := by
  have hone := hl.one
  rw [h] at hone
  cases hk : l.ack with
  | false => rfl
  | true => cases hr : l.request <;> cases hw : l.awaiting <;> simp [hk, hr, hw] at hone

/-- Every access keeps the switch sound. -/
theorem Move.sound (h : Move l l') (hl : l.Sound) : l'.Sound := by
  have hrequested := @Sound.requested l hl
  have hacknowledges := hl.acknowledges
  obtain ⟨hstalled, hfailed, hone, hrequest, hinstalled, hflag, hdue, hoff⟩ := hl
  cases h with
  | request e change free stored =>
    rw [free] at hone
    have hnone : l.request = none := by
      cases hr : l.request with
      | none => rfl
      | some _ => simp [hr] at hone
    refine ⟨hstalled, hfailed, ?_, ?_, ?_, nofun, ?_, ?_⟩
    · simp_all
    · simp
    · cases e <;> simp_all
    · simp
    · simp
  | store e due =>
    have he := hdue e due
    refine ⟨hstalled, hfailed, hone, hrequest, hinstalled, fun _ => he, nofun, ?_⟩
    cases e <;> simp_all
  | reclaim ack stored =>
    refine ⟨hstalled, hfailed, ?_, hrequest, hinstalled, hflag, hdue, hoff⟩
    rw [ack] at hone
    cases hw : l.awaiting <;> simp_all
  | retry stalled => rw [hstalled] at stalled; cases stalled
  | enable request =>
    obtain ⟨hacking, hacknowledged, hawaiting⟩ := hrequested request
    refine ⟨hstalled, hfailed, ?_, nofun, ?_, hflag, hdue, hoff⟩
    · rw [hacknowledged, hawaiting]
      rfl
    · simpa using hrequest true request
  | disable request installed =>
    have he := hrequest false request
    obtain ⟨hacking, hacknowledged, hawaiting⟩ := hrequested request
    refine ⟨hstalled, hfailed, ?_, nofun, ?_, hflag, hdue, ?_⟩
    · rw [hacknowledged, hawaiting]
      rfl
    · simpa using he
    · simp [← he]
  | fail request missing =>
    have he := hrequest false request
    rw [missing, request, ← he] at hinstalled
    cases hinstalled
  | push acking room =>
    refine ⟨hstalled, hfailed, ?_, hrequest, hinstalled, hflag, hdue, hoff⟩
    rw [acking, room] at hone
    simpa using hone
  | stall acking full =>
    rw [hacknowledges acking] at full
    cases full
  | observe flag =>
    refine ⟨hstalled, hfailed, hone, hrequest, hinstalled, hflag, hdue, fun _ he => ?_⟩
    cases hd : l.due with
    | none => simp_all
    | some e => rw [hdue e hd, he]

theorem sound_moves (h : Relation.ReflTransGen Move l l') (hl : l.Sound) : l'.Sound := by
  induction h with
  | refl => exact hl
  | tail _ hm ih => exact hm.sound ih

end Lifecycle

/-! ## The switch of a desk -/

/-- What a request asks for. -/
def ParrotRequest.enables : ParrotRequest → Bool
  | .enable _ => true
  | .disable => false

/-- The callback has an acknowledgement to push. -/
def AudioStage.isAcking : AudioStage F → Bool
  | .acking _ => true
  | _ => false

/-- A recording has a buffer. -/
def ParrotCapture.Sound (p : ParrotCapture F) : Prop := p.recording = true → p.current.isSome = true

namespace ParrotCapture

variable [Pcm F] {p : ParrotCapture F}

omit [Pcm F] in
theorem new_sound : (new : ParrotCapture F).Sound := by
  intro h
  cases h

omit [Pcm F] in
theorem openBuffer_sound (h : p.Sound) (active : Bool) : (p.openBuffer active).Sound := by
  unfold openBuffer
  split
  · split
    · exact nofun
    · exact fun _ => rfl
  · exact h

theorem record_sound (h : p.Sound) (active : Bool) (samples : List F) :
    ∃ q, p.record active samples = some q ∧ q.Sound := by
  unfold record
  split
  · rename_i hactive
    simp only [Bool.and_eq_true] at hactive
    obtain ⟨current, hcurrent⟩ := isSome_iff_exists.mp (h hactive.2)
    rw [hcurrent]
    exact ⟨_, rfl, fun _ => rfl⟩
  · exact ⟨p, rfl, h⟩

omit [Pcm F] in
theorem closeBuffer_sound (h : p.Sound) (active : Bool) :
    ∃ q, p.closeBuffer active = some q ∧ q.Sound := by
  unfold closeBuffer
  split
  · rename_i hactive
    simp only [Bool.and_eq_true] at hactive
    obtain ⟨buffer, hbuffer⟩ := isSome_iff_exists.mp (h hactive.2)
    rw [hbuffer]
    refine ⟨_, rfl, ?_⟩
    dsimp only
    split <;> exact nofun
  · exact ⟨p, rfl, h⟩

/-- **A recording always has its buffer.** -/
theorem observe_sound (h : p.Sound) (active : Bool) (samples : List F) :
    ∃ q, p.observe active samples = some q ∧ q.Sound := by
  have hdrain : p.drain.Sound := h
  obtain ⟨q, hq, hsound⟩ := record_sound (openBuffer_sound hdrain active) active samples
  obtain ⟨r, hr, hclosed⟩ := closeBuffer_sound hsound active
  refine ⟨{ r with active }, ?_, hclosed⟩
  unfold observe
  rw [hq]
  change (q.closeBuffer active).map _ = _
  rw [hr]
  rfl

omit [Pcm F] in
theorem sound_update {captures : Nat → ParrotCapture F} (hs : ∀ h, (captures h).Sound)
    (hp : p.Sound) {h : Nat} (k : Nat) : (Function.update captures h p k).Sound := by
  by_cases hk : k = h
  · rwa [hk, Function.update_self]
  · rw [Function.update_of_ne hk]
    exact hs k

end ParrotCapture

theorem TelemetryPlanner.disableParrot_quiet {t : TelemetryPlanner S F} (hslot : t.ParrotSlot)
    (hcapacity : t.parrotRings.items.length ≤ 1) :
    t.disableParrot.parrotPending = [] ∧ t.disableParrot.parrot = none := by
  have hrest : t.parrotPending.tail = [] := by
    simp only [Circulation.items, parrotRings, length_append] at hcapacity
    rw [← length_eq_zero_iff, length_tail]
    omega
  have hdiscard : t.discardPendingParrot.parrotPending = [] ∧
    t.discardPendingParrot.parrot = t.parrot
      ∧ t.discardPendingParrot.active = t.active := by
    unfold discardPendingParrot
    split
    · rename_i hpending
      exact ⟨hpending, rfl, rfl⟩
    · rename_i m rest hpending
      rw [hpending] at hrest
      exact ⟨hrest, rfl, rfl⟩
  obtain ⟨hpending, hparrot, hactive⟩ := hdiscard
  unfold disableParrot
  dsimp only
  split
  · unfold finishParrot
    split
    · rename_i hnone
      exact ⟨hpending, hnone⟩
    · exact ⟨hpending, rfl⟩
  · rename_i hother
    refine ⟨hpending, ?_⟩
    unfold ParrotSlot at hslot
    rw [hactive, ← hslot] at hother
    simpa [hparrot] using hother

namespace Desk

variable {d d' : Desk S F}

/-- The switch of a desk. -/
def lifecycle (d : Desk S F) : Lifecycle where
  enabled := d.control.parrotEnabled
  due := d.control.flagDue
  flag := d.parrotFlag
  awaiting := d.control.parrotLifecyclePending
  request := d.requests.map ParrotRequest.enables
  acking := d.stage.isAcking
  ack := d.acknowledgements.isSome
  stalled := d.pendingAck.isSome
  installed := d.capture.isSome
  off := d.parrotOff
  failed := d.fault == some .disable

/-- No recording waits or plays. -/
def Quiet (d : Desk S F) : Prop :=
  d.node.telemetry.parrotPending = [] ∧ d.node.telemetry.parrot = none

/-- A move that keeps the records and the place in the callback. -/
structure Turns (d d' : Desk S F) : Prop where
  moves : Relation.ReflTransGen Lifecycle.Move d.lifecycle d'.lifecycle
  off : d'.parrotOff = true → d.parrotOff = true
  stage : d.stage = .disabling → d'.stage = .disabling
  leaked : d'.leaked = d.leaked
  captures : (∀ h, (d.captures h).Sound) → ∀ h, (d'.captures h).Sound
  fault : d'.fault = some .recording → d.fault = some .recording

theorem Turns.same (hl : d'.lifecycle = d.lifecycle)
    (hstage : d.stage = .disabling → d'.stage = .disabling) (hleaked : d'.leaked = d.leaked)
    (hcaptures : d'.captures = d.captures) (hfault : d'.fault = d.fault) : Turns d d' where
  moves := hl ▸ .refl
  off h := (congrArg Lifecycle.off hl).symm.trans h
  stage := hstage
  leaked := hleaked
  captures := hcaptures ▸ id
  fault h := hfault.symm.trans h

theorem Turns.trans {d'' : Desk S F} (h : Turns d d') (k : Turns d' d'') : Turns d d'' where
  moves := h.moves.trans k.moves
  off := h.off ∘ k.off
  stage := k.stage ∘ h.stage
  leaked := k.leaked.trans h.leaked
  captures := k.captures ∘ h.captures
  fault := h.fault ∘ k.fault

/-! ### Control -/

theorem queuePreparedStatus_turns (m : PreparedMedia S) : Turns d (d.queuePreparedStatus m) := by
  unfold queuePreparedStatus
  split
  · exact .same rfl id rfl rfl rfl
  · split <;> exact .same rfl id rfl rfl rfl

theorem queuePreparedParrot_turns (m : PreparedMedia S) : Turns d (d.queuePreparedParrot m) := by
  unfold queuePreparedParrot
  split
  · exact .same rfl id rfl rfl rfl
  · split <;> exact .same rfl id rfl rfl rfl

theorem reclaimNext_turns : Turns d d.reclaimNext := by
  unfold reclaimNext
  split
  · exact .same rfl id rfl rfl rfl
  · split <;> exact .same rfl id rfl rfl rfl

theorem mapCapture_turns (f : ParrotCapture F → ParrotCapture F)
    (hf : ∀ p : ParrotCapture F, p.Sound → (f p).Sound) : Turns d (d.mapCapture f) := by
  unfold mapCapture
  split
  · exact .same rfl id rfl rfl rfl
  rename_i h _
  refine ⟨.refl, id, id, rfl, fun hs => ?_, id⟩
  exact sound_update hs (hf _ (hs h))

section

variable (hstored : d.control.flagDue = none)
include hstored

theorem reclaimParrotLifecycle_turns : Turns d d.reclaimParrotLifecycle := by
  unfold reclaimParrotLifecycle
  split
  · exact .same rfl id rfl rfl rfl
  all_goals
    rename_i hacknowledged
    have hring : d.lifecycle.ack = true := congrArg Option.isSome hacknowledged
    exact ⟨.single (.reclaim hring hstored), id, id, rfl, id, id⟩

/-- Control's request. -/
theorem requestParrot_turns {enabled : Bool} (hchange : enabled ≠ d.control.parrotEnabled)
    (hfree : d.control.parrotLifecyclePending = false) : Turns d (d.requestParrot enabled) := by
  have hmove := Lifecycle.Move.request (l := d.lifecycle) enabled hchange hfree hstored
  unfold requestParrot
  cases enabled with
  | true =>
    refine ⟨.single hmove, id, id, rfl, fun hs => ?_, id⟩
    exact sound_update hs new_sound
  | false => exact ⟨.single hmove, id, id, rfl, id, id⟩

theorem setParrotEnabled_turns (enabled : Bool) : Turns d (d.setParrotEnabled enabled) := by
  have hreclaim := reclaimParrotLifecycle_turns hstored
  have hkept : d.reclaimParrotLifecycle.control.flagDue = none := by
    unfold reclaimParrotLifecycle
    split <;> exact hstored
  unfold setParrotEnabled
  dsimp only
  generalize d.reclaimParrotLifecycle = e at hreclaim hkept ⊢
  split
  · exact hreclaim.trans (.same rfl id rfl rfl rfl)
  rename_i hchange
  split
  · exact hreclaim.trans (.same rfl id rfl rfl rfl)
  rename_i hfree
  simp only [Bool.or_eq_true, not_or, Bool.not_eq_true] at hfree
  exact hreclaim.trans (requestParrot_turns hkept hchange hfree.1)

end

theorem storeFlag_turns {enabled : Bool} (hdue : d.control.flagDue = some enabled) :
    Turns d (d.storeFlag enabled) :=
  ⟨.single (.store (l := d.lifecycle) enabled hdue),
    fun h => (Bool.and_eq_true_iff.mp h).1, id, rfl, id, id⟩

variable [PcmStreamReader S F]

/-- What holds of the parrot in every reachable state. -/
structure Orderly (d : Desk S F) : Prop where
  conserved : d.Conserved
  sound : d.lifecycle.Sound
  /-- A callback that has read the flag as clear still has to end the playback. -/
  quiet : d.parrotOff = true → d.stage = .disabling ∨ d.Quiet
  leaked : d.leaked = false
  captures : ∀ h, (d.captures h).Sound
  fault : d.fault = none

variable [Pcm F]

/-- What a move may do to the parrot. -/
structure Switches (d d' : Desk S F) : Prop where
  moves : Relation.ReflTransGen Lifecycle.Move d.lifecycle d'.lifecycle
  off : d'.parrotOff = true → d'.stage = .disabling
    ∨ d'.node.telemetry = d.node.telemetry.disableParrot
    ∨ d.parrotOff = true ∧ d.stage ≠ .disabling
  leaked : d'.leaked = true → d.leaked = true
    ∨ d.parrotOff = true ∧ ∃ stage, d.stage = .ticking stage ∧ rendersParrot d.node stage = true
  captures : (∀ h, (d.captures h).Sound) → (∀ h, (d'.captures h).Sound) ∧ d'.fault ≠ some .recording

theorem Turns.switches (h : Turns d d') (hfault : d.fault = none) : Switches d d' where
  moves := h.moves
  off hoff := by
    by_cases hd : d.stage = .disabling
    · exact .inl (h.stage hd)
    · exact .inr (.inr ⟨h.off hoff, hd⟩)
  leaked hleaked := .inl (h.leaked ▸ hleaked)
  captures hs := ⟨h.captures hs, fun hf => by cases hfault.symm.trans (h.fault hf)⟩

/-! ### Audio -/

section Parts

variable (hfault : d.fault = none)
include hfault

theorem perform_switches (hstage : d.stage = .ready) (op : AudioOp F) :
    Switches d (d.perform op) := by
  have hnone : d.fault ≠ some .recording := by simp [hfault]
  have hleaves : ∀ stage : AudioStage F, d.stage = .disabling → stage = .disabling := by
    simp [hstage]
  cases op with
  | sync =>
    unfold perform
    dsimp only
    split
    · refine Turns.switches (.same ?_ (hleaves _) rfl rfl rfl) hfault
      unfold lifecycle
      rw [hstage]
      rfl
    · rename_i ack hacknowledged
      split
      · have hstalled : d.lifecycle.stalled = true := congrArg Option.isSome hacknowledged
        have hlife : lifecycle { d with
            pendingAck := none, acknowledgements := some ack, stage := .taking }
            = { d.lifecycle with stalled := false, ack := true } := by
          unfold lifecycle
          rw [hstage]
          rfl
        exact Turns.switches ⟨.single (hlife ▸ .retry hstalled), id, hleaves _, rfl, id, id⟩
          hfault
      · exact Turns.switches (.same rfl id rfl rfl rfl) hfault
  | applyDisable =>
    unfold perform
    dsimp only
    split
    · exact Turns.switches (.same rfl id rfl rfl rfl) hfault
    rename_i hflag
    have hlife : lifecycle { d with stage := .disabling, parrotOff := true }
        = { d.lifecycle with off := true } := by
      unfold lifecycle
      rw [hstage]
      rfl
    exact ⟨.single (hlife ▸ .observe (Bool.eq_false_iff.mpr hflag)), fun _ => .inl rfl, .inl,
      fun hs => ⟨hs, hnone⟩⟩
  | observe active samples =>
    unfold perform
    dsimp only
    split
    · exact Turns.switches (.same rfl id rfl rfl rfl) hfault
    rename_i h _
    split
    · rename_i hobserve
      refine ⟨?_, ?_, .inl, fun hs => ?_⟩
      · have hlife : lifecycle { d with fault := some .recording } = d.lifecycle := by
          unfold lifecycle
          rw [hfault]
          rfl
        exact hlife ▸ .refl
      · exact fun hoff => .inr (.inr ⟨hoff, by rw [hstage]; exact nofun⟩)
      · obtain ⟨q, hq, -⟩ := observe_sound (hs h) active samples
        rw [hobserve] at hq
        cases hq
    · rename_i capture hobserve
      refine Turns.switches ⟨.refl, id, id, rfl, fun hs => ?_, id⟩ hfault
      obtain ⟨q, hq, hsound⟩ := observe_sound (hs h) active samples
      rw [hobserve] at hq
      cases hq
      exact sound_update hs hsound
  | setActivity active
  | advanceClock => exact Turns.switches (.same rfl id rfl rfl rfl) hfault
  | tick i =>
    refine Turns.switches (.same ?_ (hleaves _) rfl rfl rfl) hfault
    unfold perform lifecycle
    rw [hstage]
    rfl

theorem takeParrotRequest_switches (hstage : d.stage = .taking) :
    Switches d d.takeParrotRequest := by
  have hnone : d.fault ≠ some .recording := by simp [hfault]
  have hleaves : ∀ stage : AudioStage F, d.stage = .disabling → stage = .disabling := by
    simp [hstage]
  unfold takeParrotRequest
  split
  · refine Turns.switches (.same ?_ (hleaves _) rfl rfl rfl) hfault
    unfold lifecycle
    rw [hstage]
    rfl
  · rename_i h hrequest
    have hrequested : d.lifecycle.request = some true := congrArg (Option.map _) hrequest
    exact Turns.switches ⟨.single (.enable hrequested), id, hleaves _, rfl, id, id⟩ hfault
  · rename_i hrequest
    have hrequested : d.lifecycle.request = some false := congrArg (Option.map _) hrequest
    split
    · rename_i hcapture
      have hmissing : d.lifecycle.installed = false := congrArg Option.isSome hcapture
      exact Turns.switches ⟨.single (.fail hrequested hmissing), id, id, rfl, id, nofun⟩ hfault
    · rename_i h hcapture
      have hinstalled : d.lifecycle.installed = true := congrArg Option.isSome hcapture
      exact ⟨.single (.disable hrequested hinstalled), fun _ => .inr (.inl rfl), .inl,
        fun hs => ⟨hs, hnone⟩⟩

theorem pushAck_switches {ack : ParrotAck} (hstage : d.stage = .acking ack) :
    Switches d (d.pushAck ack) := by
  have hleaves : ∀ stage : AudioStage F, d.stage = .disabling → stage = .disabling := by
    simp [hstage]
  have hacking : d.lifecycle.acking = true := congrArg AudioStage.isAcking hstage
  unfold pushAck
  split
  · rename_i hroom
    have hfree : d.lifecycle.ack = false := by
      unfold lifecycle
      simpa using hroom
    exact Turns.switches ⟨.single (.push hacking hfree), id, hleaves _, rfl, id, id⟩ hfault
  · rename_i hroom
    have hfull : d.lifecycle.ack = true := by
      unfold lifecycle
      simpa [isSome_iff_ne_none] using hroom
    exact Turns.switches ⟨.single (.stall hacking hfull), id, hleaves _, rfl, id, id⟩ hfault

theorem disabling_switches (hstage : d.stage = .disabling) :
    Switches d { d.mapTelemetry TelemetryPlanner.disableParrot with stage := .ready } := by
  refine ⟨?_, fun _ => .inr (.inl rfl), .inl, fun hs => ⟨hs, by simp [mapTelemetry, hfault]⟩⟩
  have hlife : lifecycle { d.mapTelemetry TelemetryPlanner.disableParrot with stage := .ready }
      = d.lifecycle := by
    unfold lifecycle
    rw [hstage]
    rfl
  exact hlife ▸ .refl

theorem tickPart_switches {stage : TickStage F} (hstage : d.stage = .ticking stage) :
    Switches d (d.tickPart stage) := by
  refine ⟨?_, fun hoff => ?_, fun hleaked => ?_, fun hs => ⟨hs, by simp [tickPart, hfault]⟩⟩
  · have hlife : (d.tickPart stage).lifecycle = d.lifecycle := by
      unfold tickPart lifecycle
      dsimp only
      rw [hstage]
      cases (d.node.tickPart stage).2 <;> rfl
    exact hlife ▸ .refl
  · exact .inr (.inr ⟨hoff, by rw [hstage]; exact nofun⟩)
  · change (d.leaked || (d.parrotOff && rendersParrot d.node stage)) = true at hleaked
    simp only [Bool.or_eq_true, Bool.and_eq_true] at hleaked
    exact hleaked.imp_right fun h => ⟨h.1, stage, hstage, h.2⟩

/-- What a part of a callback may do to the parrot. -/
theorem audioStep_switches (h : d.audioStep = some d') : Switches d d' := by
  unfold audioStep at h
  split at h
  · cases h
  · rename_i op todo hstage _
    cases h
    exact { perform_switches (d := { d with todo }) hfault hstage op with }
  · rename_i hstage
    cases h
    exact takeParrotRequest_switches hfault hstage
  · rename_i hstage
    cases h
    exact pushAck_switches hfault hstage
  · rename_i hstage
    cases h
    exact disabling_switches hfault hstage
  · rename_i hstage
    cases h
    exact tickPart_switches hfault hstage

end Parts

/-! ## The protocol -/

omit [Pcm F] in
/-- While the parrot is off, no recording comes. -/
theorem Trades.quiet (h : Trades d d') (hinv : d.Orderly) (hoff : d.parrotOff = true)
    (hquiet : d.Quiet) : d'.Quiet := by
  cases h with
  | handle h =>
    have hparrot := (h.telemetry.parrot hinv.conserved.slot).2
    exact Circulation.works_settled (hinv.conserved.parrot.works hparrot) hquiet.1 hquiet.2
  | status m room node | reclaimStatus m rest finished node | reclaimParrot m rest finished node =>
    unfold Quiet
    rwa [node]
  | parrot m enabled stored idle node =>
    have hdue : d.control.flagDue = some true := hinv.sound.off hoff enabled
    rw [stored] at hdue
    cases hdue

/-- A sample of the parrot comes from its slot. -/
theorem rendersParrot_active {c : NodeController S F} {stage : TickStage F}
    (h : rendersParrot c stage = true) : c.telemetry.active = some .parrot := by
  cases stage with
  | render i o g a =>
    have hsource : (c.renderSlot i a).2.source = c.telemetry.active := by
      unfold NodeController.renderSlot
      dsimp only
      split <;> rfl
    unfold rendersParrot at h
    simp only [Bool.and_eq_true, beq_iff_eq] at h
    exact hsource.symm.trans h.1
  | _ => cases h

/-- Every move keeps what holds of the parrot. -/
theorem Switches.orderly (h : Switches d d') (ht : Trades d d') (hready : d'.Ready)
    (hinv : d.Orderly) : d'.Orderly := by
  have hsound := Lifecycle.sound_moves h.moves hinv.sound
  have hcaptures := h.captures hinv.captures
  refine ⟨(ht.moved hinv.conserved).conserved hready hinv.conserved, hsound, fun hoff => ?_, ?_,
    hcaptures.1, ?_⟩
  · rcases h.off hoff with hstage | hdisabled | ⟨hbefore, hstage⟩
    · exact .inl hstage
    · right
      unfold Quiet
      rw [hdisabled]
      have hcount : d.node.telemetry.parrotRings.items.length ≤ 1 :=
        hinv.conserved.parrot.count.trans_le hinv.conserved.parrot.bound
      exact TelemetryPlanner.disableParrot_quiet hinv.conserved.slot hcount
    · exact .inr (ht.quiet hinv hbefore ((hinv.quiet hbefore).resolve_left hstage))
  · cases hleaked : d'.leaked with
    | false => rfl
    | true =>
      rcases h.leaked hleaked with hbefore | ⟨hoff, stage, hstage, hrenders⟩
      · rw [hinv.leaked] at hbefore
        cases hbefore
      have hquiet := (hinv.quiet hoff).resolve_left (by rw [hstage]; exact nofun)
      have hslot := hinv.conserved.slot.mpr (rendersParrot_active hrenders)
      rw [hquiet.2] at hslot
      cases hslot
  · cases hfault : d'.fault with
    | none => rfl
    | some f =>
      cases f with
      | disable =>
        have hfailed := hsound.failed
        unfold lifecycle at hfailed
        rw [hfault] at hfailed
        cases hfailed
      | recording => exact absurd hfault hcaptures.2

/-- What a move may do to the parrot, in every state that is in order. -/
theorem step_switches {a : DeskMove S F} (h : Step d a d') (hfault : d.fault = none) :
    Switches d d' := by
  unfold Step step at h
  dsimp only at h
  split at h
  · cases h
  cases a with
  | callback callback | mixer a | shared a =>
    obtain ⟨-, ⟨⟩⟩ := ite_none_right_eq_some.mp h
    exact Turns.switches (.same rfl id rfl rfl rfl) hfault
  | audio => exact audioStep_switches hfault h
  | queuePreparedStatus m =>
    exact of_call (fun _ => (queuePreparedStatus_turns m).switches hfault) h
  | queuePreparedParrot m =>
    exact of_call (fun _ => (queuePreparedParrot_turns m).switches hfault) h
  | setParrotEnabled enabled =>
    exact of_call (fun hs => (setParrotEnabled_turns hs enabled).switches hfault) h
  | storeFlag =>
    obtain ⟨enabled, hdue, rfl⟩ := map_eq_some_iff.mp h
    exact (storeFlag_turns hdue).switches hfault
  | reclaim => exact of_call (fun hs => (reclaimParrotLifecycle_turns hs).switches hfault) h
  | reclaimNext => exact of_call (fun _ => reclaimNext_turns.switches hfault) h
  | takeParrotCapture =>
    refine of_call (fun _ => (mapCapture_turns _ fun p hp => ?_).switches hfault) h
    exact hp
  | recycleParrotCapture =>
    refine of_call (fun _ => (mapCapture_turns _ fun p hp => ?_).switches hfault) h
    unfold recycle
    split <;> exact hp

theorem step_orderly {a : DeskMove S F} (h : Step d a d') (hinv : d.Orderly) : d'.Orderly :=
  (step_switches h hinv.fault).orderly (step_trades hinv.conserved.ready h)
    (step_ready hinv.conserved.ready h) hinv

theorem initial_orderly (h : d.Initial) : d.Orderly := by
  have hconserved := initial_conserved h
  obtain ⟨c, parrotEnabled, hbuilt, rfl⟩ := h
  refine ⟨hconserved, ?_, nofun, rfl, fun _ => new_sound, rfl⟩
  refine ⟨rfl, rfl, rfl, nofun, ?_, fun _ => rfl, nofun, nofun⟩
  cases parrotEnabled <;> rfl

/-- **The parrot's slot and its live switch**, however control's calls interleave with callbacks.

A recording is in the slot exactly while the parrot plays. At most one is queued, playing or waiting
for control, and every move that takes it into the slot finds the slot free, and every move that
puts it into the completed ring finds room. No `expect` of the audio side fails, so a disable
request finds its capture. The acknowledgement ring has room for every acknowledgement. From the
moment a callback has seen the parrot disabled until control enables it again, no sample of the
parrot is rendered, and once that callback has ended the playback no recording waits or plays. -/
theorem parrot_protocol (h : Reachable Initial Step d) :
    (d.node.telemetry.parrot.isSome = true ↔ d.node.telemetry.active = some .parrot)
      ∧ d.node.telemetry.parrotPending.length + d.node.telemetry.parrot.toList.length
        + d.node.telemetry.parrotCompleted.length ≤ 1
      ∧ (∀ a d', d.Step a d' → d.parrotLedger.Moves Evolves 1 d'.parrotLedger) ∧ d.fault = none
      ∧ d.pendingAck = none ∧ (∀ ack, d.stage = .acking ack → d.acknowledgements = none)
      ∧ d.leaked = false ∧ (d.parrotOff = true → d.stage = .disabling
        ∨ d.node.telemetry.parrotPending = [] ∧ d.node.telemetry.parrot = none) := by
  have hinv : d.Orderly := h.invariant (P := Orderly) (fun _ => initial_orderly)
    fun _ _ _ hinv hs => step_orderly hs hinv
  have hcount : (d.node.telemetry.parrotCompleted ++ d.node.telemetry.parrot.toList
      ++ d.node.telemetry.parrotPending).length ≤ 1 :=
    hinv.conserved.parrot.count.trans_le hinv.conserved.parrot.bound
  refine ⟨hinv.conserved.slot, ?_, ?_, hinv.fault, ?_, fun ack hstage => ?_,
    hinv.leaked, hinv.quiet⟩
  · simp only [length_append] at hcount
    omega
  · exact fun a d' hs => ((step_trades hinv.conserved.ready hs).moved hinv.conserved).parrot
  · exact not_isSome_iff_eq_none.mp (Bool.eq_false_iff.mp hinv.sound.stalled)
  · have hacking : d.lifecycle.acking = true := congrArg AudioStage.isAcking hstage
    exact not_isSome_iff_eq_none.mp (Bool.eq_false_iff.mp (hinv.sound.acknowledges hacking))

/-- A recording of nine samples. -/
def benchRecording : PreparedMedia (TestPcmStream ℚ) :=
  { PreparedMedia.newStream ⟨List.replicate 9 (1 / 4), [], 0, false⟩ with kind := .parrot }

/-- A recording plays for one sample, then control disables the parrot and takes it back. -/
def parrotMoves : List (DeskMove (TestPcmStream ℚ) ℚ) :=
  .queuePreparedParrot benchRecording :: quietCallback :: List.replicate 16 .audio
    ++ .setParrotEnabled false :: .storeFlag :: quietCallback :: List.replicate 18 .audio
    ++ [.reclaim, .reclaimNext]

/-- The recording is back and its capture is gone. -/
theorem parrot_protocol_bench : ∃ d : Desk (TestPcmStream ℚ) ℚ, Reachable Initial Step d
      ∧ d.parrotReturned.length = 1 ∧ d.capture = none ∧ d.parrotOff = true ∧ d.stage = .ready
      ∧ d.fault = none ∧ d.leaked = false ∧ d.node.telemetry.active ≠ some .parrot := by
  obtain ⟨d, hreach, hreturned, hcapture, hoff, hidle⟩ := exists_reachable Initial step parrotMoves
    (some (bench true)) (by rintro _ ⟨⟩; exact bench_initial true) (fun d =>
      d.parrotReturned.length = 1 ∧ d.capture = none ∧ d.parrotOff = true ∧ d.idle = true)
    (by decide +kernel)
  have hstage : d.stage = .ready := by
    unfold idle at hidle
    split at hidle
    · assumption
    · cases hidle
  obtain ⟨hslot, -, -, hfault, -, -, hleaked, hquiet⟩ := parrot_protocol hreach
  have hnone := ((hquiet hoff).resolve_left (by rw [hstage]; exact nofun)).2
  refine ⟨d, hreach, hreturned, hcapture, hoff, hstage, hfault, hleaked, fun hactive => ?_⟩
  have hsome := hslot.mpr hactive
  rw [hnone] at hsome
  cases hsome

end Desk

end RptAdvanced.Controller
