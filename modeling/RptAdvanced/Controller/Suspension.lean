import RptAdvanced.Controller.Items
import RptAdvanced.Controller.Watchdog

/-!
# What becomes of the item the watchdog suspends

`begin_timeout` releases the producer of the slot's item and restarts its playback, so that the item
can play again after recovery (`doc/architecture/decisions/0008`: "Other local playback is suspended
and restarted after recovery"). While blocked nothing touches the item (`blocked_run_holds`). After
recovery a quiet tick reads it (`quiet_tick_holds`), and along a quiet run it is played from its
beginning until its own stream ends it (`suspension_resumes`).

Two things an item may carry are not restarted with its playback. A scheduled occurrence that has
begun cannot begin again, and a start deadline is measured against the time of the restart:
`suspended_item_cancelled` is a run for each in which the restarted item is cancelled.
`suspension_resumes` therefore asks for an occurrence that has not begun and a deadline that has not
passed.
-/

namespace RptAdvanced.Controller

open Audio Lib Policy List Option Bool Function TelemetryPlanner

namespace NodeController

variable {S F : Type} [PcmStreamReader S F] [Pcm F] {src : Source} {m : PreparedMedia S}

/-! ## Blocked -/

/-- A blocked tick's notice keeps the item. -/
theorem timeoutSample_keeps (c : NodeController S F) (activity inhibited : Bool)
    (input : Option F) (program : Option (ProgramInput F)) :
    KeepsItem src c (c.timeoutSample activity inhibited input program).1 := by
  have hclear : KeepsItem src c (c.clearIdle activity) :=
    KeepsItem.of_parts rfl rfl rfl rfl rfl rfl
  have hplay : KeepsItem src (c.clearIdle activity)
      ((c.clearIdle activity).playNotice activity inhibited input).1 := by
    rcases playNotice_cases (c.clearIdle activity) activity inhibited input with
      ⟨_, _, h⟩ | ⟨_, _, h⟩ | ⟨_, _, _, _, _, h⟩
    · rw [h]
      exact .refl _
    · rw [h]
      exact .of_parts rfl rfl rfl rfl rfl rfl
    · rw [h]
      exact .of_parts rfl rfl rfl rfl rfl rfl
  exact (hclear.trans hplay).trans (.of_release rfl rfl rfl rfl (keyNotice _ _ _ _).keyed rfl rfl)

variable {c d : NodeController S F}

/-- The clock of a tick keeps the item. -/
theorem tick_keeps (i : StepInput F)
    (h : KeepsItem src c (d.step i).1) : KeepsItem src c (d.tick i).1 :=
  h.trans (.of_parts rfl rfl rfl rfl rfl rfl)

variable {c : NodeController S F} {as : List (Action S F)}

/-- **A blocked tick keeps the slot's item**, whatever it receives. -/
theorem blocked_tick_keeps (i : StepInput F) (h : Holds src m c)
    (hb : c.timeout.blocked = true) : KeepsItem src c (c.tick i).1 := by
  refine tick_keeps i ?_
  rw [step_blocked c i hb]
  exact (observe_keeps i h (.inl hb)).trans (timeoutSample_keeps _ _ _ _ _)

/-- The item has an occurrence still to claim, or is past its first sample. -/
def Claimable (w : World) (m : PreparedMedia S) : Prop :=
  ∀ o, m.occurrence = some o → m.playback.hasOutput = true ∨ w.occurrence o = .pending

/-- The action is no explicit cancellation or disabling of the slot's item, and does not end its
peer. -/
def Spares (src : Source) (c : NodeController S F) (a : Action S F) : Prop :=
  ∀ m, c.media (some src) = some m →
    match a with
    | .cancelMessage => False
    | .disableParrot => src ≠ .parrot
    | .cancelPending o => m.occurrence ≠ some o
    | .cancelEnvelope f => m.cancelWhen ≠ some f
    | .peerEnd p => m.reply ≠ some p
    | _ => True

omit [PcmStreamReader S F] [Pcm F] in
theorem Holds.setWorld {w : World} (h : Holds src m c)
    (hw : Spared w m) : Holds src m { c with world := w } :=
  { h with spared := hw }

/-- The rings and links between ticks keep the item and the shared cells. -/
theorem act_keeps {a : Action S F} (h : c.telemetry.active = some src) (ha : match a with
      | .tick _ | .setSiteInhibit _ | .cancelMessage | .cancelPending _ | .cancelEnvelope _
      | .peerActive _ _ | .peerEnd _ => False
      | .disableParrot => src ≠ .parrot
      | _ => True) :
    KeepsItem src c (c.act a) := by
  have hparts : ∀ {t : TelemetryPlanner S F}, t.active = c.telemetry.active →
      t.status = c.telemetry.status → t.parrot = c.telemetry.parrot →
      KeepsItem src c { c with telemetry := t } := by
    intro t hactive hstatus hparrot
    refine ⟨hactive, ?_, fun _ _ => rfl, rfl⟩
    cases src with
    | status => exact hstatus
    | parrot => exact hparrot
    | _ => rfl
  cases a with
  | linkKeyed direct =>
    change KeepsItem src c (c.linkKeyed direct)
    exact .ite (.refl c) (.of_parts rfl (courtesy_cancel_media _ _) rfl rfl rfl rfl)
  | linkUnkeyed direct selected kerchunk =>
    change KeepsItem src c (c.linkUnkeyed direct selected kerchunk)
    exact (receiveUnkeyed_keeps c kerchunk).trans (.ite
      (.of_parts rfl (courtesy_schedule_media _ _ _ _) rfl rfl rfl rfl)
      (.refl _))
  | disableParrot =>
    have hdiscard : c.telemetry.discardPendingParrot.active = some src := by
      unfold discardPendingParrot
      split <;> exact h
    have hsame : c.telemetry.disableParrot = c.telemetry.discardPendingParrot := by
      unfold disableParrot
      dsimp only
      rw [hdiscard, if_neg (by simpa using ha)]
    change KeepsItem src c { c with telemetry := c.telemetry.disableParrot }
    rw [hsame]
    unfold discardPendingParrot
    split <;> exact hparts rfl rfl rfl
  | queuePreparedStatus media =>
    change KeepsItem src c { c with telemetry := c.telemetry.queuePreparedStatus media }
    unfold queuePreparedStatus
    split <;> exact hparts rfl rfl rfl
  | queuePreparedParrot media =>
    change KeepsItem src c { c with telemetry := c.telemetry.queuePreparedParrot media }
    unfold queuePreparedParrot
    split <;> exact hparts rfl rfl rfl
  | reclaim => exact hparts rfl rfl rfl
  | setActivity | advanceClock | setRemoteNonFm | setRemoteUnqualifiedOpen
  | setNonlocalSourceActivity => exact .of_parts rfl rfl rfl rfl rfl rfl
  | _ => exact ha.elim

/-- **Between ticks the item stays**, unless it is cancelled. -/
theorem act_holds {a : Action S F} (h : Holds src m c)
    (hclaim : Claimable c.world m) (ha : ∀ i, a ≠ .tick i) (hspare : Spares src c a) :
    Holds src m (c.act a) ∧ Claimable (c.act a).world m := by
  have hspare := hspare m h.media
  have hkept : KeepsItem src c (c.act a) → Holds src m (c.act a) ∧ Claimable (c.act a).world m :=
    fun hkeep => ⟨h.keep hkeep, hkeep.world ▸ hclaim⟩
  obtain ⟨hmsg, hoccupied, hpeer, henv⟩ := h.spared
  cases a with
  | tick i => exact absurd rfl (ha i)
  | cancelMessage => exact absurd hspare id
  | setSiteInhibit inhibited => exact ⟨h.setWorld ⟨hmsg, hoccupied, hpeer, henv⟩, hclaim⟩
  | cancelPending o =>
    have hother : ∀ o', m.occurrence = some o' →
        (c.world.cancelPending o).occurrence o' = c.world.occurrence o' := by
      intro o' ho'
      refine update_of_ne (fun heq => hspare ?_) _ _
      rw [ho', heq]
    refine ⟨h.setWorld ⟨hmsg, fun o' ho' => ?_, hpeer, henv⟩, fun o' ho' => ?_⟩
    · rw [hother o' ho']
      exact hoccupied o' ho'
    · exact (hclaim o' ho').imp id fun hp => (hother o' ho').trans hp
  | cancelEnvelope f =>
    refine ⟨h.setWorld ⟨hmsg, hoccupied, hpeer, fun f' hf' => ?_⟩, hclaim⟩
    refine (update_of_ne (fun heq => hspare ?_) _ _).trans (henv f' hf')
    rw [hf', heq]
  | peerActive p active =>
    refine ⟨h.setWorld ⟨hmsg, hoccupied, fun p' hp' => ?_, henv⟩, hclaim⟩
    change (update c.world.peer p _ p').ended = false
    by_cases heq : p' = p
    · rw [heq, update_self]
      exact hpeer p (heq ▸ hp')
    · rw [update_of_ne heq]
      exact hpeer p' hp'
  | peerEnd p =>
    refine ⟨h.setWorld ⟨hmsg, hoccupied, fun p' hp' => ?_, henv⟩, hclaim⟩
    change (update c.world.peer p _ p').ended = false
    rw [update_of_ne fun heq : p' = p => hspare (heq ▸ hp')]
    exact hpeer p' hp'
  | disableParrot => exact hkept (act_keeps h.active hspare)
  | _ => exact hkept (act_keeps h.active trivial)

/-- **While blocked nothing touches the slot's item**, unless it is cancelled. -/
theorem blocked_run_holds (hrun : Run (Guarded BlockedActs (Spares src)) c as d) (h : Holds src m c)
    (hclaim : Claimable c.world m) : Holds src m d ∧ Claimable d.world m := by
  refine hrun.invariant (P := fun e => Holds src m e ∧ Claimable e.world m) ?_ ⟨h, hclaim⟩
  rintro c a _ ⟨h, hclaim⟩ ⟨hspare, hb, rfl⟩
  by_cases ha : ∃ i, a = .tick i
  · obtain ⟨i, rfl⟩ := ha
    have hkeep : KeepsItem src c (c.act (.tick i)) := blocked_tick_keeps i h hb
    exact ⟨h.keep hkeep, hkeep.world ▸ hclaim⟩
  · exact act_holds h hclaim (fun i hi => ha ⟨i, hi⟩) hspare

/-! ## Expiry -/

/-- `begin_timeout` on the slot's playback. -/
def suspendPlayback (p : Playback S) : Playback S := (p.restart false).defer false

omit [Pcm F] in
theorem suspendPlayback_fresh (p : Playback S) : (suspendPlayback p).Fresh :=
  (Playback.restart_fresh p).defer

omit [Pcm F] in
/-- **`begin_timeout` leaves the item in the slot, with a fresh attempt.** -/
theorem beginTimeout_holds (h : Holds src m c) :
    ∃ p : Playback S, p.Fresh ∧ Holds src (m.withPlayback p) c.beginTimeout := by
  have hmap := mapPlayback_media c src suspendPlayback
  rw [h.media, map_some] at hmap
  obtain ⟨hactive, hworld⟩ := mapPlayback_active c src suspendPlayback
  have hspared : ∀ p : Playback S, Spared c.beginTimeout.world (m.withPlayback p) := by
    intro p
    have hw : c.beginTimeout.world = c.world := by
      unfold beginTimeout
      rwa [h.active]
    rw [hw]
    exact ⟨h.spared.message, h.spared.occurrence, h.spared.peer, h.spared.envelope⟩
  have hslot : c.beginTimeout.telemetry.active = some src := by
    unfold beginTimeout
    rw [h.active]
    exact hactive.trans h.active
  by_cases htail : ∃ k, src = .tail k
  · -- a tail that is also marked suspended is restarted once more
    obtain ⟨k, rfl⟩ := htail
    set d := c.mapPlayback (some (.tail k)) suspendPlayback with hd
    obtain ⟨t, ht, htm⟩ : ∃ t, d.tails.items[k]? = some t ∧
        t.media = m.withPlayback (suspendPlayback m.playback) :=
      map_eq_some_iff.mp hmap
    have hitem : c.beginTimeout.tails.items[k]? =
        some (if t.suspended then t.mapPlayback suspendPlayback else t) := by
      unfold beginTimeout
      rw [h.active]
      change (d.tails.items.map _)[k]? = _
      rw [getElem?_map, ht]
      rfl
    have hstarted : t.started = true := by
      have := (mapPlayback_tailStarted c (.tail k) suspendPlayback k).trans (h.started k rfl)
      unfold tailStarted at this
      rwa [← hd, ht] at this
    obtain ⟨p, t', hfresh, ht', htm'⟩ : ∃ (p : Playback S) (t' : TailState S), p.Fresh ∧
        (if t.suspended then t.mapPlayback suspendPlayback else t) = t' ∧
        t'.media = m.withPlayback p ∧ t'.started = true := by
      split
      · refine ⟨_, _, suspendPlayback_fresh t.media.playback, rfl, ?_, hstarted⟩
        change t.media.withPlayback _ = _
        rw [htm]
        rfl
      · exact ⟨_, t, suspendPlayback_fresh m.playback, rfl, htm, hstarted⟩
    rw [ht'] at hitem
    refine ⟨p, hfresh, hslot, ?_, fun j hj => ?_, hspared p, hfresh.live⟩
    · change (c.beginTimeout.tails.items[k]?).map TailState.media = _
      rw [hitem]
      exact congrArg some htm'.1
    · obtain rfl : k = j := by simpa using hj
      unfold tailStarted
      rw [hitem]
      exact htm'.2
  · refine ⟨_, suspendPlayback_fresh m.playback, hslot, ?_,
      fun k hk => absurd ⟨k, hk⟩ htail, hspared _, (suspendPlayback_fresh _).live⟩
    rw [← hmap]
    unfold beginTimeout
    rw [h.active]
    cases src with
    | tail k => exact absurd ⟨k, rfl⟩ htail
    | _ => rfl

variable {i : StepInput F}

/-- The tick in which the watchdog expires: the item is in the slot, with a fresh attempt. -/
theorem expires_holds (he : c.expires i = true) (h : Holds src m (c.decided i))
    (hpending : ∀ o, m.occurrence = some o → (c.decided i).world.occurrence o = .pending) :
    ∃ p : Playback S, p.Fresh ∧ Holds src (m.withPlayback p) (c.tick i).1 ∧
      Claimable (c.tick i).1.world (m.withPlayback p) := by
  obtain ⟨p, hfresh, hheld⟩ := beginTimeout_holds h
  have hworld : (c.decided i).beginTimeout.world = (c.decided i).world := by
    unfold beginTimeout
    rw [h.active]
    exact (mapPlayback_active _ src _).2
  have hkeep : KeepsItem src (c.decided i).beginTimeout (c.tick i).1 := by
    refine tick_keeps i ?_
    rw [step_expires c i he]
    exact timeoutSample_keeps _ _ _ _ _
  refine ⟨p, hfresh, hheld.keep hkeep, fun o ho => .inr ?_⟩
  rw [hkeep.world, hworld]
  exact hpending o ho

/-! ## The read -/

theorem readSlot_hasOutput (m : PreparedMedia S) (allowed interrupt : Bool) :
    (readSlot m allowed interrupt : Nat × List F × Playback S).2.2.hasOutput =
      (m.playback.hasOutput ||
        (readSlot m allowed interrupt : Nat × List F × Playback S).1 != 0) := by
  unfold readSlot
  cases allowed with
  | true => exact Playback.render_hasOutput _ _ _
  | false =>
    simp only [Bool.false_eq_true, if_false]
    rw [Playback.defer_hasOutput]
    simp

/-- An occurrence that is pending at the first sample is claimed, and the read goes through. -/
theorem playSlot_claims {w : World} (hclaim : Claimable w m) (allowed interrupt : Bool) :
    let r : Nat × List F × Playback S := readSlot m allowed interrupt
    (playSlot w m allowed interrupt).2 = (r.1, r.2.1.headD 0, r.2.2) ∧
      ((playSlot w m allowed interrupt).1 = w ∨
        ∃ o, m.occurrence = some o ∧ r.1 ≠ 0 ∧ (playSlot w m allowed interrupt).1 =
          { w with occurrence := update w.occurrence o .audible }) := by
  unfold playSlot claimOutput
  cases ho : m.occurrence with
  | none => exact ⟨rfl, .inl rfl⟩
  | some o =>
    dsimp only
    split
    · rename_i hfirst
      rw [and_eq_true, not_eq_true', bne_iff_ne] at hfirst
      have hpending : w.occurrence o = .pending :=
        (hclaim o ho).resolve_left (by simp [hfirst.1])
      have hbegin : w.begin o =
          (true, { w with occurrence := update w.occurrence o .audible }) := by
        unfold World.begin
        rw [if_pos hpending]
      rw [hbegin]
      exact ⟨rfl, .inr ⟨o, rfl, hfirst.2, rfl⟩⟩
    · exact ⟨rfl, .inl rfl⟩

/-- After the claim the item is still nobody's to cancel, and its claim is done or still open. -/
theorem claim_spared {w w' : World} {allowed interrupt : Bool} (hclaim : Claimable w m)
    (hspared : Spared w m) (hw : w' = w ∨ ∃ o, m.occurrence = some o ∧
      (readSlot m allowed interrupt : Nat × List F × Playback S).1 ≠ 0 ∧
        w' = { w with occurrence := update w.occurrence o .audible }) :
    Spared w' (m.withPlayback (readSlot m allowed interrupt : Nat × List F × Playback S).2.2) ∧
      Claimable w'
        (m.withPlayback (readSlot m allowed interrupt : Nat × List F × Playback S).2.2) := by
  have hout := readSlot_hasOutput (F := F) m allowed interrupt
  rcases hw with rfl | ⟨o, ho, hmade, rfl⟩
  · refine ⟨{ hspared with }, ?_⟩
    intro o ho
    refine (hclaim o ho).imp (fun h => ?_) id
    exact hout.trans (by rw [h, Bool.true_or])
  · refine ⟨⟨hspared.message, fun o' ho' => ?_, hspared.peer, hspared.envelope⟩, ?_⟩
    · obtain rfl : o = o' := Option.some.inj (ho.symm.trans ho')
      simp
    · intro o' _
      refine .inl (hout.trans ?_)
      simp [hmade]

/-- The station and the watchdog let this tick read the item: an addressed reply goes to its peer, a
local item to the transmitter. -/
def mayRead (c : NodeController S F) (i : StepInput F) (src : Source) (m : PreparedMedia S) :
    Bool :=
  let d := (c.observe i).1
  (src == .status && m.isPeerReply || (!c.world.siteInhibit &&
    (exemptSource (some src) m.policy ||
      d.timeout.allowsPlayback d.trafficKeyed d.now d.timeoutSamples))) &&
    i.input.isSome

/-- What this tick reads of the item. -/
def itemRead (c : NodeController S F) (i : StepInput F) (src : Source) (m : PreparedMedia S) :
    Nat × List F × Playback S :=
  readSlot m (c.mayRead i src m) (src == .status && m.forceMorse)

/-- No traffic in this tick: no local, linked or other source, no speech and no regenerated
signaling, and the item's own peer is not keyed. -/
structure QuietTick (src : Source) (c : NodeController S F) (i : StepInput F) : Prop where
  activity : i.activity = false
  localMedia : i.localMedia = none
  regeneration : i.regeneration = none
  nonlocal : c.nonlocalSourceActivity = false
  peer : ∀ m p, c.media (some src) = some m → m.reply = some p → (c.world.peer p).active = false

/-- The item of this tick has not missed a start deadline, and no identifier is due in place of a
tail. -/
structure Resumable (src : Source) (c : NodeController S F) (i : StepInput F) : Prop where
  inTime : src = .status → ∀ m, c.media (some src) = some m → InTime c.now m
  tail : ∀ k, src = .tail k → ((c.observe i).1.admitIdentifier i (c.observe i).2).2 = none

omit [PcmStreamReader S F] [Pcm F] in
theorem QuietTick.flags (h : QuietTick src c i) :
    i.receiving = false ∧ i.linked = false ∧ i.sourceActivity = false ∧ i.receive = false := by
  have := h.activity
  unfold StepInput.activity StepInput.receive at this
  simp only [or_eq_false_iff] at this
  exact ⟨this.1.1, this.1.2, this.2, by simp [StepInput.receive, this.1]⟩

section

variable (h : Holds src m c)
include h

omit [Pcm F] in
/-- A quiet tick observes without touching the item. -/
theorem quiet_observe_keeps
    (hq : QuietTick src c i) : KeepsItem src c (c.observe i).1 := by
  refine observe_keeps i h (.inr ⟨hq.activity, fun hs => ?_⟩)
  subst hs
  obtain ⟨_, hlinked, hsource, hreceive⟩ := hq.flags
  have hpoll := pollStatus_keeps h.active h.media h.spared h.live
  have hpeer : c.pollStatus.peerQuiet = true := by
    unfold peerQuiet
    rw [(h.keep hpoll).peerStatus]
    split
    · rfl
    rename_i p hp
    rw [hpoll.world, hq.peer m p h.media hp]
    rfl
  have hnonlocal : c.pollStatus.nonlocalSourceActivity = false := hq.nonlocal
  unfold statusIdle
  simp [hlinked, hsource, hreceive, hq.localMedia, hpeer, hnonlocal]

/-- **The slot's part of a quiet tick**: the item is read once, and is left in the slot unless that
read ended it. -/
theorem renderSlot_holds {a : Admission} (hclaim : Claimable c.world m)
    {allowed forced : Bool}
    (hallowed : c.slotAllowed i a (exemptSource (some src) m.policy) = allowed)
    (hforced : interrupts i (some src) (some src == some .status && c.telemetry.statusMorse)
      a.peerStatus = forced) : let r : Nat × List F × Playback S := readSlot m allowed forced
    ((c.renderSlot i a).2.source = some src ∧ (c.renderSlot i a).2.made = r.1 ∧
        (c.renderSlot i a).2.sample = r.2.1.headD 0 ∧
        (c.renderSlot i a).2.replyTarget = (if a.peerStatus then
          c.telemetry.peerStatus.map fun p => (p, (c.world.peer p).active) else none)) ∧
      (r.2.2.isFinished = false → Holds src (m.withPlayback r.2.2) (c.renderSlot i a).1 ∧
        Claimable (c.renderSlot i a).1.world (m.withPlayback r.2.2)) := by
  intro r
  set d : NodeController S F := { c with ctcssEnabled := c.ctcssFor i a (some src) } with hd
  have hmedia : d.media (some src) = some m := h.media
  have hslot : c.renderSlot i a =
      let p := playSlot c.world m allowed forced
      ((({ d with world := p.1 }.mapPlayback (some src) fun _ => p.2.2.2).endAttempt (some src)
          p.2.2.2),
        { source := some src, policy := m.policy, exempt := exemptSource (some src) m.policy
          replyTarget := if a.peerStatus then
              c.telemetry.peerStatus.map fun p => (p, (c.world.peer p).active)
            else none
          sample := p.2.2.1, made := p.2.1, waitingForMedia := p.2.2.2.waitingForStream
          continuingMedia := p.2.2.2.hasOutput && !p.2.2.2.isFinished }) := by
    unfold renderSlot
    dsimp only
    rw [h.active, h.media, bind_some, ← hd, hmedia]
    rw [← hallowed, ← hforced]
    rfl
  obtain ⟨hread, hworld⟩ := playSlot_claims (F := F) hclaim allowed forced
  rw [hslot]
  dsimp only
  rw [hread]
  refine ⟨⟨rfl, rfl, rfl, rfl⟩, fun hlive => ?_⟩
  set w := (playSlot (F := F) c.world m allowed forced).1
  obtain ⟨hspared, hclaimed⟩ : Spared w (m.withPlayback r.2.2) ∧
      Claimable w (m.withPlayback r.2.2) := claim_spared hclaim h.spared hworld
  unfold endAttempt
  rw [if_neg (by rw [not_eq_true]; exact hlive)]
  obtain ⟨hactive, hsame⟩ := mapPlayback_active { d with world := w } src fun _ => r.2.2
  rw [hsame]
  refine ⟨⟨hactive.trans h.active, ?_, fun k hk => ?_, by rw [hsame]; exact hspared, hlive⟩,
    hclaimed⟩
  · rw [mapPlayback_media]
    exact congrArg (Option.map _) hmedia
  · exact (mapPlayback_tailStarted _ src _ k).trans (h.started k hk)

omit [PcmStreamReader S F] [Pcm F] in
/-- A quiet tick interrupts nothing; only an expired delivery plays its Morse substitute. -/
theorem quiet_interrupts (hq : QuietTick src d i) (peerStatus : Bool) :
    interrupts i (some src) (some src == some .status && c.telemetry.statusMorse) peerStatus =
      (src == .status && m.forceMorse) := by
  obtain ⟨_, _, hsource, _⟩ := hq.flags
  have hmorse : (some src == some Source.status && c.telemetry.statusMorse) =
      (src == .status && m.forceMorse) := by
    by_cases hs : src = .status
    · subst hs
      unfold statusMorse
      rw [show c.telemetry.status = some m from h.media]
      rfl
    · have hne : (src == Source.status) = false := beq_false_of_ne hs
      have hne' : (some src == some Source.status) = false := hne
      rw [hne, hne', Bool.false_and, Bool.false_and]
  unfold interrupts
  rw [hmorse, hq.activity, hq.localMedia, hsource]
  simp

omit [PcmStreamReader S F] [Pcm F] in
/-- The slot after its read: a tail that has started stays started. -/
theorem noteRendered_holds (r : Rendered F) :
    KeepsItem src c (c.noteRendered r) := by
  have hstart : KeepsItem src c (c.noteStarted r) := by
    unfold noteStarted
    rw [h.active]
    cases src with
    | tail k =>
      have hst := h.started k rfl
      refine ⟨rfl, ?_, fun j hj => ?_, rfl⟩
      · change ((c.tails.items.modify k _)[k]?).map TailState.media =
          (c.tails.items[k]?).map TailState.media
        simp [comp_def]
      · obtain rfl : k = j := by simpa using hj
        unfold tailStarted at hst ⊢
        rw [getElem?_modify_eq]
        cases hitem : c.tails.items[k]? with
        | none => rfl
        | some t =>
          rw [hitem] at hst
          simp [hst]
    | _ => exact .refl c
  exact hstart.trans (.ite (.of_parts rfl rfl rfl rfl rfl rfl) (.refl _))

end

/-- **What the tick reads of the item is emitted**: an addressed reply to its peer, anything else to
the transmitter, at the gain of this tick. -/
def Emits (src : Source) (m : PreparedMedia S) (c : NodeController S F) (i : StepInput F) : Prop :=
  if src == .status && m.isPeerReply then
    (c.tick i).2.rf = 0 ∧ ∀ p, i.program = some p → p.reply = true →
      ∃ reply, (c.tick i).2.program.bind ProgramOutput.reply = some reply ∧
        reply.sample = (if (c.itemRead i src m).1 ≠ 0 then (c.itemRead i src m).2.1.headD 0 else 0)
          ∧
        ((c.itemRead i src m).1 ≠ 0 → m.reply = some reply.target)
  else
    (c.tick i).2.rf = Pcm.clamp ((c.itemRead i src m).2.1.headD 0 * (c.tick i).1.telemetry.gain)

omit [PcmStreamReader S F] in
/-- The transmitter's sample of a quiet tick is the slot's. -/
theorem QuietTick.rfOut {c k : NodeController S F} (hq : QuietTick src c i)
    {a : Admission} {r : Rendered F} (hin : a.inhibited = true → k.telemetryOut a r = 0) :
    k.rfOut i a r = Pcm.clamp (k.telemetryOut a r) := by
  obtain ⟨hreceiving, hlinked, _, _⟩ := hq.flags
  unfold NodeController.rfOut
  simp only [hreceiving, hlinked, hq.regeneration, hq.localMedia, Bool.and_false, Bool.false_and,
    Bool.false_eq_true, if_false, Option.getD_none, ite_self, Pcm.zero_add, Pcm.add_zero]
  split
  · rename_i hinhibited
    rw [hin hinhibited, Pcm.clamp_zero]
  · rfl

section Quiet

variable {c : NodeController S F} {i : StepInput F} (h : Holds src m c)
  (hclaim : Claimable c.world m) (hq : QuietTick src c i) (hr : Resumable src c i)

include h hr

omit [Pcm F] in
theorem quiet_inTime : src = .status → InTime (c.observe i).1.now m := by
  intro hs
  rw [(observe_observes c i).now]
  exact hr.inTime hs m h.media

include hq

omit [Pcm F] in
/-- The slot at the read of a quiet tick holds the item. -/
theorem quiet_choose_keeps : KeepsItem src c ((c.observe i).1.chooseMedia i (c.observe i).2).1 :=
  (quiet_observe_keeps h hq).trans (chooseMedia_keeps i _ (h.keep (quiet_observe_keeps h hq))
    (quiet_inTime h hr) hr.tail)

omit [Pcm F] in
theorem quiet_peerStatus : ((c.observe i).1.chooseMedia i (c.observe i).2).2.peerStatus =
    (src == .status && m.isPeerReply) :=
  chooseMedia_peerStatus i _ (h.keep (quiet_observe_keeps h hq)) (quiet_inTime h hr)

omit [Pcm F] in
/-- A quiet tick reads the item whenever `mayRead` says so. -/
theorem quiet_allowed : ((c.observe i).1.chooseMedia i (c.observe i).2).1.slotAllowed i
        ((c.observe i).1.chooseMedia i (c.observe i).2).2 (exemptSource (some src) m.policy) =
      c.mayRead i src m := by
  have hkeep := quiet_observe_keeps h hq
  have hcore := chooseMedia_core (c.observe i).1 i (c.observe i).2
  have hobserve := observe_observes c i
  unfold slotAllowed mayRead
  rw [quiet_peerStatus h hq hr, hcore.timeout, hcore.trafficKeyed, hcore.now,
    hcore.timeoutSamples, chooseMedia_mayTransmit, hobserve.siteInhibit, hq.flags.1]
  congr 1
  cases hp : (src == Source.status && m.isPeerReply) with
  | false => simp
  | true =>
    rw [and_eq_true, beq_iff_eq] at hp
    obtain ⟨rfl, hreply⟩ := hp
    unfold PreparedMedia.isPeerReply at hreply
    rw [and_eq_true] at hreply
    obtain ⟨p, hp⟩ := isSome_iff_exists.mp hreply.1
    rw [chooseMedia_peerReady i _ (h.keep hkeep) (quiet_inTime h hr rfl) hp, hkeep.world,
      hq.peer m p h.media hp]
    rfl

include hclaim

/-- **A quiet tick reads the slot's item once.** -/
theorem quiet_slotTick : let r := c.itemRead i src m
    let s := (c.observe i).1.slotTick i (c.observe i).2
    (s.2.source = some src ∧ s.2.made = r.1 ∧ s.2.sample = r.2.1.headD 0 ∧
        s.2.replyTarget = if src == .status && m.isPeerReply then
          m.reply.map fun p => (p, false) else none) ∧
      (r.2.2.isFinished = false → Holds src (m.withPlayback r.2.2) s.1 ∧
        Claimable s.1.world (m.withPlayback r.2.2)) := by
  have hkeep := quiet_choose_keeps h hq hr
  have hheld := h.keep hkeep
  obtain ⟨⟨hsource, hmade, hsample, hreply⟩, hlive⟩ := renderSlot_holds (F := F) hheld
    (hkeep.world ▸ hclaim) (quiet_allowed h hq hr) (quiet_interrupts hheld hq _)
  refine ⟨⟨hsource, hmade, hsample, hreply.trans ?_⟩, fun hr => ?_⟩
  · rw [quiet_peerStatus h hq hr]
    cases hp : (src == Source.status && m.isPeerReply) with
    | false => rfl
    | true =>
      rw [and_eq_true, beq_iff_eq] at hp
      obtain ⟨rfl, _⟩ := hp
      rw [if_pos rfl, if_pos rfl, hheld.peerStatus]
      cases hp : m.reply with
      | none => rfl
      | some p =>
        rw [map_some, map_some, hkeep.world, hq.peer m p h.media hp]
  · obtain ⟨hheld', hclaim'⟩ := hlive hr
    have hnote := noteRendered_holds hheld'
      ((c.observe i).1.chooseMedia i (c.observe i).2 |>.1.renderSlot i
        ((c.observe i).1.chooseMedia i (c.observe i).2).2).2
    exact ⟨hheld'.keep hnote, hnote.world ▸ hclaim'⟩

/-- A quiet tick behind an open gate emits what it read. -/
theorem quiet_emits (hb : c.timeout.blocked = false) (he : c.expires i = false) :
    Emits src m c i := by
  obtain ⟨⟨_, hmade, hsample, hreply⟩, _⟩ := quiet_slotTick h hclaim hq hr
  have hpeer := quiet_peerStatus h hq hr
  have hinhibited :
    ((c.observe i).1.chooseMedia i (c.observe i).2).2.inhibited = c.world.siteInhibit :=
    (observe_observes c i).siteInhibit
  have hopen := step_open c i hb he
  unfold Emits
  split
  · rename_i hp
    rw [hp] at hpeer hreply
    obtain ⟨target, htarget⟩ : ∃ target, m.reply = some target := by
      rw [and_eq_true] at hp
      exact isSome_iff_exists.mp (and_eq_true _ _ ▸ hp.2).1
    rw [if_pos rfl, htarget, map_some] at hreply
    have hout : ∀ k : NodeController S F, k.telemetryOut
        ((c.observe i).1.chooseMedia i (c.observe i).2).2
        ((c.observe i).1.slotTick i (c.observe i).2).2 = 0 := by
      intro k
      unfold telemetryOut
      rw [hpeer, if_pos rfl]
    change (c.step i).2.rf = 0 ∧ ∀ p, i.program = some p → p.reply = true →
      ∃ reply, (c.step i).2.program.bind ProgramOutput.reply = some reply ∧ _
    rw [hopen]
    refine ⟨?_, fun p hprogram hwants => ?_⟩
    · refine (hq.rfOut fun _ => hout _).trans ?_
      rw [hout, Pcm.clamp_zero]
    · unfold finishTick programOut
      simp only [hprogram, map_some, bind_some, hwants, if_true, hmade, hsample,
        hreply]
      refine ⟨_, rfl, ?_, fun hne => ?_⟩
      · by_cases h0 : (c.itemRead i src m).1 = 0 <;> simp [h0]
      · simp [hne, htarget]
  · rename_i hp
    rw [not_eq_true] at hp
    rw [hp] at hpeer
    have hout : ∀ k : NodeController S F, k.telemetryOut
        ((c.observe i).1.chooseMedia i (c.observe i).2).2
        ((c.observe i).1.slotTick i (c.observe i).2).2 =
          (c.itemRead i src m).2.1.headD 0 * k.telemetry.gain := by
      intro k
      unfold telemetryOut
      rw [hpeer, if_neg (by simp), hsample]
    change (c.step i).2.rf = Pcm.clamp (_ * (c.step i).1.telemetry.gain)
    rw [hopen]
    refine (hq.rfOut ?_).trans (congrArg Pcm.clamp (hout _))
    intro hin
    rw [hout]
    have hheld : c.mayRead i src m = false := by
      unfold mayRead
      rw [hp, ← hinhibited, hin]
      simp
    unfold itemRead readSlot
    rw [hheld, if_neg (by simp)]
    exact Pcm.zero_mul _

end Quiet

/-- A quiet tick leaves the item in the slot, unless its read ended it. -/
theorem quiet_tick_holds (h : Holds src m c)
    (hclaim : Claimable c.world m) (hq : QuietTick src c i) (hr : Resumable src c i)
    (hb : c.timeout.blocked = false) (he : c.expires i = false)
    (hlive : (c.itemRead i src m).2.2.isFinished = false) :
    Holds src (m.withPlayback (c.itemRead i src m).2.2) (c.tick i).1 ∧
      Claimable (c.tick i).1.world (m.withPlayback (c.itemRead i src m).2.2) := by
  obtain ⟨hheld, hclaimed⟩ := (quiet_slotTick h hclaim hq hr).2 hlive
  have hkeep : KeepsItem src ((c.observe i).1.slotTick i (c.observe i).2).1 (c.tick i).1 := by
    refine tick_keeps i ?_
    rw [step_open c i hb he]
    refine .trans (?_ : KeepsItem src _ (c.decided i))
      ((settleKeying_keeps ..).trans (stepGain_keeps _ i))
    exact .of_parts rfl rfl rfl rfl rfl rfl
  exact ⟨hheld.keep hkeep, hkeep.world ▸ hclaimed⟩

/-! ## The continuation -/

/-- A continuation of the recovered controller without cancellation and without new traffic, in
which the watchdog does not expire again and the item is resumable. -/
def Continues (src : Source) (c : NodeController S F) (a : Action S F) : Prop :=
  Spares src c a ∧ ∀ i, a = .tick i →
    c.timeout.blocked = false ∧ c.expires i = false ∧ QuietTick src c i ∧ Resumable src c i

/-- Along the actions the item stays in the slot and every tick emits the next read of it, until a
read of its own stream ends it. -/
def PlaysOn (src : Source) : PreparedMedia S → NodeController S F → List (Action S F) → Prop
  | m, c, [] => Holds src m c
  | m, c, .tick i :: as =>
    Holds src m c ∧ Emits src m c i ∧
      ((c.itemRead i src m).2.2.isFinished = false →
        PlaysOn src (m.withPlayback (c.itemRead i src m).2.2) (c.tick i).1 as)
  | m, c, a :: as => Holds src m c ∧ PlaysOn src m (c.act a) as

/-- **A quiet run plays the slot's item out.** -/
theorem continues_plays (hrun : Run (Guarded Acts (Continues src)) c as d) (h : Holds src m c)
    (hclaim : Claimable c.world m) : PlaysOn src m c as := by
  induction hrun generalizing m with
  | nil => exact h
  | @cons c _ d a as hstep _ ih =>
    obtain ⟨⟨hspare, htick⟩, rfl⟩ := hstep
    by_cases ha : ∃ i, a = .tick i
    · obtain ⟨i, rfl⟩ := ha
      obtain ⟨hb, he, hq, hr⟩ := htick i rfl
      refine ⟨h, quiet_emits h hclaim hq hr hb he, fun hlive => ?_⟩
      obtain ⟨hheld, hclaimed⟩ := quiet_tick_holds h hclaim hq hr hb he hlive
      exact ih hheld hclaimed
    · have hne : ∀ i, a ≠ .tick i := fun i hi => ha ⟨i, hi⟩
      obtain ⟨hheld, hclaimed⟩ := act_holds h hclaim hne hspare
      have hplays := ih hheld hclaimed
      cases a with
      | tick i => exact absurd rfl (hne i)
      | _ => exact ⟨h, hplays⟩

/-- A sample with nothing on any input. -/
def quietInput : StepInput ℚ := ⟨false, false, false, some 0, 0, none⟩

/-- A status of sixty samples, with a Morse substitute as long. -/
def benchStatus : PreparedMedia (TestPcmStream ℚ) :=
  PreparedMedia.newStream ⟨List.replicate 60 (1 / 4), List.replicate 60 (1 / 8), 0, false⟩

/-- The status past its polite wait: its Morse substitute plays at once. -/
def lateStatus : PreparedMedia (TestPcmStream ℚ) :=
  { benchStatus with delivery := some ⟨0, ⟨1, .morse, .wait⟩, false⟩ }

/-- A node after a status was queued and started, and `n` samples more. -/
def benchPlaying (node : NodeController (TestPcmStream ℚ) ℚ) (m : PreparedMedia (TestPcmStream ℚ))
    (busy : StepInput ℚ) (n : Nat) : NodeController (TestPcmStream ℚ) ℚ :=
  (.queuePreparedStatus m :: .tick quietInput :: List.replicate n (.tick busy)).foldl act node

/-- **A suspension is not terminal** for an item whose occurrence has not begun: through any blocked
run without cancellation it stays in the slot with a fresh attempt, and at the return to normal
every continuation without cancellation or new traffic, in which its start deadline has not passed,
plays it from its beginning until its own stream ends it. -/
theorem suspension_resumes {c d : NodeController S F} {i : StepInput F}
    {as : List (Action S F)} (he : c.expires i = true) (h : Holds src m (c.decided i))
    (hpending : ∀ o, m.occurrence = some o → (c.decided i).world.occurrence o = .pending)
    (hrun : Run (Guarded BlockedActs (Spares src)) (c.tick i).1 as d) :
    d.trafficKeyed = false ∧ ∃ p : Playback S, p.Fresh ∧ Holds src (m.withPlayback p) d ∧
      ∀ bs e, Run (Guarded Acts (Continues src)) d bs e → PlaysOn src (m.withPlayback p) d bs := by
  obtain ⟨p, hfresh, hheld, hclaim⟩ := expires_holds he h hpending
  obtain ⟨hheld', hclaim'⟩ := blocked_run_holds hrun hheld hclaim
  have hkeyed := blocked_run_silent (hrun.mono fun _ _ _ h => h.2) (step_suppressed c i (.inr he)).1
  exact ⟨hkeyed.1, p, hfresh, hheld',
    fun bs e hcontinues => continues_plays hcontinues hheld' hclaim'⟩

/-- A late status, restarted on a node without notices: its Morse substitute plays again from its
beginning. -/
theorem suspension_resumes_late :
    let c := benchPlaying (benchNode true false) lateStatus quietInput 47
    c.expires quietInput = true ∧ ((c.tick quietInput).1.tick quietInput).2.rf = 1 / 8 ∧
      ∃ m p, Playback.Fresh p ∧ PlaysOn .status (.withPlayback m p)
        (c.tick quietInput).1 [.tick quietInput] := by
  intro c
  have he : c.expires quietInput = true := by decide +kernel
  obtain ⟨m, hm⟩ : ∃ m, (c.decided quietInput).telemetry.status = some m :=
    isSome_iff_exists.mp (by decide +kernel)
  have hfields : (c.decided quietInput).telemetry.status.map (fun m =>
      (m.occurrence, m.reply, m.cancelWhen, m.playback.isFinished)) =
        some (none, none, none, false) := by decide +kernel
  rw [hm, map_some, Option.some.injEq, Prod.mk.injEq, Prod.mk.injEq, Prod.mk.injEq] at hfields
  obtain ⟨hoccupied, hreply, henv, hlive⟩ := hfields
  have hheld : Holds .status m (c.decided quietInput) :=
    ⟨by decide +kernel, hm, fun k hk => by simp at hk,
      ⟨by decide +kernel, by simp [hoccupied], by simp [hreply], by simp [henv]⟩, hlive⟩
  obtain ⟨_, p, hfresh, hheld', hplays⟩ :=
    suspension_resumes he hheld (by simp [hoccupied]) (.nil _)
  have hselected : (c.tick quietInput).1.telemetry.status.map (fun m =>
      (m.delivery.map Delivery.selected, m.reply)) = some (some true, none) := by decide +kernel
  refine ⟨he, by decide +kernel, m, p, hfresh, hplays _ _ (.cons ⟨⟨fun _ _ => trivial, ?_⟩, rfl⟩
    (.nil _))⟩
  intro i hi
  obtain rfl : quietInput = i := by simpa using hi
  refine ⟨by decide +kernel, by decide +kernel,
    ⟨rfl, rfl, rfl, by decide +kernel, fun m' q hm' hq => ?_⟩, ⟨fun _ m' hm' d hd => ?_, ?_⟩⟩
  · have hstatus : (c.tick quietInput).1.telemetry.status = some m' := hm'
    simp [hstatus, hq] at hselected
  · have hstatus : (c.tick quietInput).1.telemetry.status = some m' := hm'
    simp [hstatus, hd] at hselected
    exact .inr (.inl hselected.1)
  · intro k hk
    simp at hk

/-! ## What is not restarted -/

/-- The late status of a scheduled occurrence. -/
def scheduledStatus : PreparedMedia (TestPcmStream ℚ) := { lateStatus with occurrence := some 0 }

/-- A reply to a peer that must start within thirty samples. -/
def datedReply : PreparedMedia (TestPcmStream ℚ) :=
  { benchStatus with delivery := some ⟨30, ⟨1, .skip, .wait⟩, false⟩, reply := some 0 }

/-- The bench node with notices once the watchdog has expired and both notices have been played. -/
def benchRecovered (m : PreparedMedia (TestPcmStream ℚ)) (busy : StepInput ℚ) (n : Nat) :
    NodeController (TestPcmStream ℚ) ℚ :=
  (.tick busy :: List.replicate 5 (.tick quietInput)).foldl act
    (benchPlaying Marked.bench.node m busy n)

/-- **A restarted item is cancelled** when its occurrence had begun before the watchdog expired, or
when its start deadline passed while it was suspended. Both items are playing when the watchdog
expires; after a quiet recovery they are in the slot and their streams have a sample, and the first
quiet tick retires them as cancelled. -/
theorem suspended_item_cancelled : Built Marked.bench.node ∧
    ∀ run ∈ [(scheduledStatus, quietInput, 47), (datedReply, benchInput, 48)],
      let c := benchPlaying Marked.bench.node run.1 run.2.1 run.2.2
      let d := benchRecovered run.1 run.2.1 run.2.2
      c.expires run.2.1 = true ∧ (c.decided run.2.1).telemetry.active = some .status ∧
        d.timeout.phase = .normal ∧ d.telemetry.active = some .status ∧
        d.telemetry.status.map (fun m => (d.itemRead quietInput .status m).1) = some 1 ∧
        (d.tick quietInput).1.telemetry.active = none ∧
        (d.tick quietInput).1.telemetry.completed.map (·.playback.outcome) = [.cancelled] ∧
        (d.tick quietInput).2.rf = 0 :=
  ⟨Marked.bench_built.1, by decide +kernel⟩

end NodeController

end RptAdvanced.Controller
