import RptAdvanced.Controller.Envelopes

/-!
# The start deadline of a status (`expire`, `expire_status`, `poll_status`, `step`)

A status may carry a deadline for its first sample. The expiry pass of a tick looks at the slot and
at the whole pending ring: past its deadline a status without output is cancelled or has its Morse
substitute selected. `Passed` is what the pass leaves; the parts of the tick up to the sample keep
it (`tickPart_checked`), because a poll only takes statuses the pass has seen.

The ring has a second end. Control may push a status after the pass and before the poll of the same
tick: the tick then starts a status that no pass has seen. `Prompt` excludes such a push, and
`late_status_plays` is a run with one.

Result: `polite_deadline`.
-/

namespace RptAdvanced.Controller

open Audio Lib List Policy Option Bool TelemetryPlanner PreparedMedia
open PreparedMedia (Matures Consistent)

variable {S F : Type}

/-- The one start at the deadline: no wait is allowed, the deadline is now, transmission is allowed,
no courtesy waits, and the primary is ready. -/
structure Exempt (now : Nat) (o : Observed) (g : Gate) (dl : Delivery) : Prop where
  wait : dl.policy.maximumWaitMs = 0
  now : now = dl.deadline
  allowed : g.mayTransmit = true
  courtesy : g.courtesyReady = false
  idle : o.statusIdle = true
  settled : g.settled = true

/-- What the expiry pass of a tick leaves of a status. -/
def Passed (now : Nat) (o : Observed) (g : Gate) (m : PreparedMedia S) : Prop :=
  ∀ dl, m.delivery = some dl → m.playback.hasOutput = true ∨ m.playback.isFinished = true
    ∨ dl.selected = true ∨ now < dl.deadline ∨ Exempt now o g dl

namespace TelemetryPlanner

/-- The statuses that may still play, oldest first. -/
def queue (t : TelemetryPlanner S F) : List (PreparedMedia S) := t.status.toList ++ t.pending

variable [PcmStreamReader S F]

/-- The pass over one status. -/
theorem expire_passed (m : PreparedMedia S) (now : Nat) (o : Observed) (g : Gate) {busy : Bool}
    (hbusy : g.courtesyReady = true → busy = true) :
    Passed now o g (m.expire now g.mayTransmit busy (o.statusIdle && g.settled)) := by
  unfold expire
  split
  · rename_i hnone
    intro dl hdeadline
    rw [hnone] at hdeadline
    cases hdeadline
  · rename_i d hd
    split
    · rename_i hkept
      intro dl hdeadline
      obtain rfl : d = dl := Option.some.inj (hd.symm.trans hdeadline)
      simp only [or_eq_true] at hkept
      rcases hkept with ((hout | hfinish) | hselected) | htime
      · exact .inl hout
      · exact .inr (.inl hfinish)
      · exact .inr (.inr (.inl hselected))
      unfold startsInTime at htime
      simp only [or_eq_true, decide_eq_true_eq, and_eq_true, beq_iff_eq, not_eq_true'] at htime
      rcases htime with hbefore | ⟨⟨⟨⟨hwait, hnow⟩, hallowed⟩, hfree⟩, hidle, hsettled⟩
      · exact .inr (.inr (.inr (.inl hbefore)))
      refine .inr (.inr (.inr (.inr ⟨hwait, hnow, hallowed, ?_, hidle, hsettled⟩)))
      cases hcourtesy : g.courtesyReady with
      | false => rfl
      | true =>
        rw [hbusy hcourtesy] at hfree
        cases hfree
    · split
      · exact fun dl _ => .inr (.inl rfl)
      intro dl hdeadline
      cases hdeadline
      exact .inr (.inr (.inl rfl))

variable (t : TelemetryPlanner S F) (now : Nat) (o : Observed)

/-- **The expiry pass sees every status that may still play.** -/
theorem expireStatus_passed (g : Gate) :
    ∀ m ∈ (t.expireStatus now g.mayTransmit g.courtesyReady (o.statusIdle && g.settled)).queue,
      Passed now o g m := by
  intro m hm
  have heach := t.expireStatus_each (r := fun _ => Passed now o g) fun m _ _ hbusy =>
    expire_passed m now o g hbusy
  obtain ⟨x, -, hx⟩ := forall₂_mem (rel_append heach.1 heach.2) hm
  exact hx

theorem pollPending_queue (w : World) (t : TelemetryPlanner S F) (q : List (PreparedMedia S)) :
    (pollPending w t q).queue <:+ q := by
  induction q generalizing t with
  | nil => exact suffix_refl _
  | cons m rest ih =>
    unfold pollPending
    split
    · exact (ih _).trans (suffix_cons m rest)
    · exact suffix_refl _

omit [PcmStreamReader S F] in
/-- A finished status goes to a completed ring with room. -/
theorem finishStatus_completed {t : TelemetryPlanner S F} {m : PreparedMedia S}
    (hm : t.status = some m) (hroom : t.completed.length < 4) : m ∈ t.finishStatus.completed := by
  unfold finishStatus pushRing
  rw [hm]
  dsimp only
  rw [if_pos hroom]
  exact mem_append_right _ (mem_singleton_self m)

/-- A poll drops the oldest statuses of the queue and takes none from elsewhere. -/
theorem pollStatus_queue (w : World) (t : TelemetryPlanner S F) :
    (t.pollStatus w).queue <:+ t.queue := by
  unfold pollStatus
  split
  · rename_i hnone
    refine (pollPending_queue w t t.pending).trans ?_
    unfold queue
    rw [hnone]
    exact suffix_refl _
  · rename_i m hm
    split
    · refine (pollPending_queue w (t.retireStatus m) t.pending).trans ?_
      exact suffix_append _ _
    · exact suffix_refl _

/-- The pass cancels what its deadline skips. -/
theorem expire_skips (m : PreparedMedia S) (now : Nat) (o : Observed) (g : Gate) {busy : Bool}
    (hbusy : g.courtesyReady = true → busy = true) (hm : m.Consistent) {dl : Delivery}
    (hdeadline : m.delivery = some dl) (hskip : dl.policy.expiry = .skip) (hdue : dl.deadline ≤ now)
    (hout : m.playback.hasOutput = false) (hnot : ¬ Exempt now o g dl) :
    (m.expire now g.mayTransmit busy (o.statusIdle && g.settled)).Unplayed := by
  have hpassed := expire_passed m now o g hbusy
  unfold expire at hpassed ⊢
  rw [hdeadline] at hpassed ⊢
  dsimp only at hpassed ⊢
  split
  · rename_i hkept
    rw [if_pos hkept] at hpassed
    rcases hpassed dl hdeadline with h | h | h | h | h
    · rw [hout] at h
      cases h
    · exact ⟨h, hout⟩
    · rw [hm.selected dl hdeadline h] at hskip
      cases hskip
    · omega
    · exact absurd h hnot
  · rw [if_pos (by simp [hskip])]
    exact ⟨rfl, hout⟩

/-- What the pass does to a status that its deadline skips. -/
def Skips (now : Nat) (o : Observed) (g : Gate) (m m' : PreparedMedia S) : Prop :=
  ∀ dl, m.delivery = some dl → dl.policy.expiry = .skip → dl.deadline ≤ now →
    m.playback.hasOutput = false → ¬ Exempt now o g dl → m'.Unplayed

/-- The pass cancels every status that its deadline skips. -/
theorem expireStatus_skips (g : Gate)
    (hq : ∀ m ∈ t.queue, m.Consistent) : List.Forall₂ (Skips now o g) t.queue
      (t.expireStatus now g.mayTransmit g.courtesyReady (o.statusIdle && g.settled)).queue := by
  have heach := t.expireStatus_each (r := Skips now o g) fun m hm _ hbusy dl =>
    expire_skips m now o g hbusy (hq m hm)
  exact rel_append heach.1 heach.2

end TelemetryPlanner

namespace NodeController

variable {c : NodeController S F}

/-- The statuses the rest of the tick may start have been passed. -/
def Checked (c : NodeController S F) : TickStage F → Prop
  | .repoll _ o g | .release _ o g | .start _ o g _ _ _ =>
    ∀ m ∈ c.telemetry.queue, Passed c.now o g m
  | .plan _ o g _ _ _ _ | .render _ o g _ => ∀ m, c.telemetry.status = some m → Passed c.now o g m
  | _ => True

variable [PcmStreamReader S F] [Pcm F]

variable {m : PreparedMedia S}

omit [Pcm F] in
/-- A status that starts was in the queue. -/
theorem startTelemetry_queue (g : Gate) (q : Readiness)
    (h : (c.startTelemetry g q).telemetry.status = some m) : m ∈ c.telemetry.queue := by
  have hslot : c.telemetry.status = some m → m ∈ c.telemetry.queue := fun hm =>
    mem_append_left _ (mem_toList.mpr hm)
  unfold startTelemetry at h
  split at h
  · unfold startReady at h
    split at h
    · split at h
      · exact hslot h
      · dsimp only at h
        split at h <;> exact hslot h
    · split at h
      · refine (c.telemetry.pollStatus_queue c.world).subset ?_
        exact mem_append_left _ (mem_toList.mpr h)
      split at h
      · refine hslot (.trans ?_ h)
        unfold startParrot
        split <;> rfl
      · exact hslot h
  · exact hslot h

/-- Each part keeps the statuses passed. -/
theorem tickPart_checked {stage stage' : TickStage F} (h : c.Checked stage)
    (hnext : (c.tickPart stage).2 = some stage') : (c.tickPart stage).1.Checked stage' := by
  cases stage with
  | cancel i | poll i | hold i | render i o g a =>
    cases hnext
    trivial
  | gate i o =>
    unfold tickPart at hnext ⊢
    dsimp only at hnext ⊢
    split at hnext
    · cases hnext
    rename_i hopen
    cases hnext
    rw [if_neg hopen]
    exact c.telemetry.expireStatus_passed c.now o (c.gate i)
  | repoll i o g =>
    cases hnext
    exact fun m hm => h m ((c.telemetry.pollStatus_queue c.world).subset hm)
  | release i o g =>
    cases hnext
    have hcore : SameCore c (c.settleRelease i).1 :=
      (clearRelease_core c i).trans (admitRelease_core _ i _)
    change ∀ m ∈ (c.settleRelease i).1.telemetry.queue, Passed (c.settleRelease i).1.now o g m
    rwa [settleRelease_telemetry, hcore.now]
  | start i o g rel q activeBefore =>
    cases hnext
    change ∀ m, (c.startTelemetry g q).telemetry.status = some m →
      Passed (c.startTelemetry g q).now o g m
    rw [(startTelemetry_core c g q).now]
    exact fun m hm => h m (startTelemetry_queue g q hm)
  | plan i o g rel q activeStream peerStatus =>
    cases hnext
    have harm := armIdentifier_core c i o.idle g rel q activeStream
    have hslot := startSlot_core (c.armIdentifier i o.idle g rel q activeStream).1 i g rel q
      (c.armIdentifier i o.idle g rel q activeStream).2
    intro m hm
    have hstatus := (startSlot_reslots _ i g rel q _).status.symm.trans hm
    rw [armIdentifier_telemetry] at hstatus
    have hpassed := h m hstatus
    rwa [← harm.now, ← hslot.now] at hpassed
  | finish i a r => cases hnext

omit [Pcm F] in
/-- A forced sample is the Morse substitute's. -/
theorem playSlot_forces [Zero F] (w : World) (hm : m.Consistent)
    (allowed : Bool) (hmade : (playSlot (F := F) w m allowed true).2.1 ≠ 0) :
    (playSlot (F := F) w m allowed true).2.2.2.morse = some .selected := by
  have hread : (readSlot (F := F) m allowed true).1 ≠ 0 →
      (readSlot (F := F) m allowed true).2.2.morse = some .selected := by
    unfold readSlot
    split
    · exact Playback.render_interrupted hm.playback 0
    · exact fun h => absurd rfl h
  rcases playSlot_cases (F := F) w m allowed true with h | h <;> rw [h] at hmade ⊢
  · exact hread hmade
  · exact absurd rfl hmade

omit [Pcm F] in
/-- The envelope after a forced sample: in the slot, or finished and on its way to control. -/
theorem renderSlot_forces [Zero F] {i : StepInput F} {a : Admission}
    (hactive : c.telemetry.active = some .status) (hm : c.telemetry.status = some m)
    (hforce : m.forceMorse = true) (hc : m.Consistent) (hroom : c.telemetry.completed.length < 4)
    (hmade : (c.renderSlot i a).2.made ≠ 0) : ∃ p : Playback S, p.morse = some .selected
      ∧ ((c.renderSlot i a).1.telemetry.status = some (m.withPlayback p)
        ∨ m.withPlayback p ∈ (c.renderSlot i a).1.telemetry.completed) := by
  have hinterrupt : interrupts i (some .status) (some Source.status == some .status
      && c.telemetry.statusMorse) a.peerStatus = true := by
    unfold interrupts statusMorse
    rw [hm]
    simp [hforce]
  have hmedia : ({ c with ctcssEnabled := c.ctcssFor i a (some .status) } :
      NodeController S F).media (some .status) = some m := hm
  unfold renderSlot at hmade ⊢
  dsimp only at hmade ⊢
  rw [hactive, hmedia] at hmade ⊢
  dsimp only at hmade ⊢
  rw [hinterrupt] at hmade ⊢
  generalize slotAllowed _ _ _ _ = allowed at hmade ⊢
  refine ⟨_, playSlot_forces c.world hc allowed hmade, ?_⟩
  generalize playSlot (F := F) c.world m allowed true = r
  unfold endAttempt
  split
  · right
    rw [completeStatus_telemetry]
    refine finishStatus_completed (congrArg (Option.map _) hm) ?_
    exact hroom
  · left
    exact congrArg (Option.map _) hm

end NodeController

/-- The tick is between its expiry pass and its start. -/
def AudioStage.isStarting : AudioStage F → Bool
  | .ticking (.repoll _ _ _) | .ticking (.release _ _ _) | .ticking (.start _ _ _ _ _ _) => true
  | _ => false

/-- A sample of the slot's status, with what its tick has seen. -/
structure SlotSample (S F : Type) where
  observed : Observed
  gate : Gate
  media : PreparedMedia S
  made : Nat
  sample : F

namespace Desk

variable [PcmStreamReader S F] {d d' : Desk S F}

/-- Control queues statuses as it builds them, and none between a tick's expiry pass and its
start. -/
def Prompt (d : Desk S F) (a : DeskMove S F) : Prop :=
  ∀ m, a = .queuePreparedStatus m → m.Consistent ∧ d.stage.isStarting = false

/-- The statuses of a run, oldest first: returned, completed, in the slot and pending. -/
def statuses (d : Desk S F) : List (PreparedMedia S) := d.ledger.returned ++ d.ledger.rings.items

/-- What holds in every prompt run. -/
structure Timely (d : Desk S F) : Prop where
  conserved : d.Conserved
  checked : d.InTick NodeController.Checked
  admitted : ∀ m ∈ d.admitted, m.Consistent

variable [Pcm F]

variable {a : DeskMove S F}

theorem step_checked (hprompt : d.Prompt a)
    (hd : d.InTick NodeController.Checked) (h : Step d a d') :
    d'.InTick NodeController.Checked := by
  rcases step_aside h with haudio | haside
  · exact audioStep_inTick (fun _ _ => trivial) NodeController.tickPart_checked hd haudio
  intro stage hs
  have hstage := haside.stage.symm.trans hs
  have hchecked := hd stage hstage
  -- outside the window a pending status is not looked at
  have hqueue : d.stage.isStarting = true → d'.node.telemetry.queue = d.node.telemetry.queue := by
    intro hstarting
    unfold queue
    rw [haside.status]
    rcases haside.pending with hpending | ⟨m, ha, -⟩
    · rw [hpending]
    · rw [(hprompt m ha).2] at hstarting
      cases hstarting
  rw [hstage] at hqueue
  cases stage with
  | repoll | release | start =>
    unfold NodeController.Checked at hchecked ⊢
    rwa [hqueue rfl, haside.now]
  | plan | render =>
    unfold NodeController.Checked at hchecked ⊢
    rwa [haside.status, haside.now]
  | _ => trivial

theorem step_admitted (hprompt : d.Prompt a) (hinv : d.Conserved)
    (hd : ∀ m ∈ d.admitted, m.Consistent) (h : Step d a d') : ∀ m ∈ d'.admitted, m.Consistent := by
  cases ((step_trades hinv.ready h).moved hinv).status with
  | works rings outstanding admitted returned
  | reclaims m rest finished rings outstanding admitted returned =>
    change d'.admitted = d.admitted at admitted
    rwa [admitted]
  | admits m rings room outstanding admitted returned =>
    change d'.admitted = d.admitted ++ [m] at admitted
    have hpending : d'.node.telemetry.pending = d.node.telemetry.pending ++ [m] :=
      congrArg Circulation.pending rings
    have hmove : a = .queuePreparedStatus m := by
      rcases step_aside h with haudio | haside
      · have hbooks := (audioStep_handled hinv.ready haudio).books
        simp only [books, Prod.mk.injEq] at hbooks
        rw [hbooks.2.1] at admitted
        simp at admitted
      · rcases haside.pending with hsame | ⟨m', ha, hnew⟩
        · rw [hsame] at hpending
          simp at hpending
        · rw [hnew, append_cancel_left_eq] at hpending
          cases hpending
          exact ha
    intro m' hm'
    rw [admitted] at hm'
    rcases mem_append.mp hm' with hold | hnew
    · exact hd m' hold
    · rw [mem_singleton.mp hnew]
      exact (hprompt m hmove).1

theorem reachable_timely (h : Reachable Initial (Guarded Step Prompt) d) : d.Timely := by
  refine h.invariant (P := Timely) (fun d hd => ?_) fun d a d' hd hs => ?_
  · have hconserved := initial_conserved hd
    obtain ⟨c, parrotEnabled, -, rfl⟩ := hd
    refine ⟨hconserved, .of_other rfl, ?_⟩
    intro m hm
    cases hm
  · obtain ⟨hprompt, hstep⟩ := hs
    have hready := hd.conserved.ready
    exact ⟨((step_trades hready hstep).moved hd.conserved).conserved (step_ready hready hstep)
      hd.conserved, step_checked hprompt hd.checked hstep,
      step_admitted hprompt hd.conserved hd.admitted hstep⟩

omit [Pcm F] in
/-- Every status of the run is as control builds them, or a later state of one. -/
theorem Timely.consistent (hsteady : SteadyReaders S) (h : d.Timely) :
    ∀ m ∈ d.statuses, m.Consistent := by
  intro m hm
  obtain ⟨m₀, hm₀, hmatures⟩ := forall₂_mem h.conserved.status.record hm
  exact hmatures.consistent hsteady (h.admitted m₀ hm₀)

/-- A part of a tick is the next part. -/
theorem audio_ticking {stage : TickStage F} (hstage : d.stage = .ticking stage)
    (h : d.Step .audio d') : d' = d.tickPart stage := by
  unfold Step step at h
  dsimp only at h
  split at h
  · cases h
  unfold audioStep at h
  rw [hstage] at h
  exact (Option.some.inj h).symm

/-- The sample of the status in the slot, when that is what the next part renders. -/
def nextSample (d : Desk S F) : Option (SlotSample S F) :=
  match d.stage, d.node.telemetry.active, d.node.telemetry.status with
  | .ticking (.render i o g a), some .status, some m =>
    some ⟨o, g, m, (d.node.renderSlot i a).2.made, (d.node.renderSlot i a).2.sample⟩
  | _, _, _ => none

/-- What the start deadlines promise of a state and its moves. -/
structure Polite (d : Desk S F) : Prop where
  /-- The first sample of an attempt at or past its deadline is the Morse substitute's, by a policy
  that asks for it, with the one exception. -/
  first : ∀ {x dl d'}, d.nextSample = some x → x.made ≠ 0 → x.media.delivery = some dl →
    x.media.playback.hasOutput = false → dl.deadline ≤ d.node.now → d.Step .audio d' →
    Exempt d.node.now x.observed x.gate dl ∨ dl.policy.expiry = .morse ∧ dl.selected = true
      ∧ ∃ p : Playback S, p.morse = some .selected
        ∧ (d'.node.telemetry.status = some (x.media.withPlayback p)
          ∨ x.media.withPlayback p ∈ d'.node.telemetry.completed)
  /-- The expiry pass ends every status that its deadline skips before its first sample. -/
  skipped : ∀ {i o d'}, d.stage = .ticking (.gate i o) → d.node.timeout.blocked = false →
    d.Step .audio d' → List.Forall₂ (TelemetryPlanner.Skips d.node.now o (d.node.gate i))
      d.node.telemetry.queue d'.node.telemetry.queue
  /-- No such status is left in the slot after the poll that follows. -/
  polled : ∀ {i o g m}, d.stage = .ticking (.release i o g) → d.node.telemetry.status = some m →
    m.playback.isFinished = false
  /-- Through every move, up to its return, a status that ended before its first sample has none
  later, and a Morse selection stays. -/
  kept : ∀ {a d'}, d.Step a d' → ∃ added, List.Forall₂ Matures (d.statuses ++ added) d'.statuses

/-- **Start deadlines are kept** in every prompt run. -/
theorem polite_deadline (hsteady : SteadyReaders S)
    (h : Reachable Initial (Guarded Step Prompt) d) : d.Polite := by
  have hinv := reachable_timely h
  have hconsistent := hinv.consistent hsteady
  have hqueue : ∀ m ∈ d.node.telemetry.queue, m.Consistent := by
    intro m hm
    refine hconsistent m (mem_append_right _ ?_)
    unfold ledger Circulation.items rings
    rw [append_assoc]
    exact mem_append_right _ hm
  refine ⟨?_, ?_, ?_, ?_⟩
  · intro x dl d' hx hmade hdelivery hout hdue hstep
    unfold nextSample at hx
    split at hx
    case h_2 => cases hx
    rename_i i o g a m hstage hactive hstatus
    cases hx
    have hpassed := hinv.checked _ hstage m hstatus dl hdelivery
    have hmem : m ∈ d.node.telemetry.queue :=
      mem_append_left _ (mem_toList.mpr hstatus)
    rcases hpassed with hp | hp | hp | hp | hp
    · rw [hout] at hp
      cases hp
    · rw [hinv.conserved.ready _ hstage m hstatus] at hp
      cases hp
    · have hforce : m.forceMorse = true := by
        unfold forceMorse
        rwa [hdelivery]
      have hroom : d.node.telemetry.completed.length < 4 := by
        have hcount : (d.node.telemetry.completed ++ d.node.telemetry.status.toList
            ++ d.node.telemetry.pending).length = d.control.outstanding :=
          hinv.conserved.status.count
        have hbound : d.control.outstanding ≤ 4 := hinv.conserved.status.bound
        rw [hstatus] at hcount
        simp only [length_append, toList_some, length_singleton] at hcount
        omega
      rw [audio_ticking hstage hstep]
      exact .inr ⟨(hqueue m hmem).selected dl hdelivery hp, hp,
        NodeController.renderSlot_forces hactive hstatus hforce (hqueue m hmem) hroom hmade⟩
    · omega
    · exact .inl hp
  · intro i o d' hstage hopen hstep
    rw [audio_ticking hstage hstep]
    have hpass : (d.node.tickPart (.gate i o)).1 = d.node.expirePass o (d.node.gate i) := by
      unfold NodeController.tickPart
      dsimp only
      rw [if_neg (by rw [hopen]; decide)]
    have hnode : (d.tickPart (.gate i o)).node = d.node.expirePass o (d.node.gate i) := hpass
    rw [hnode]
    exact d.node.telemetry.expireStatus_skips _ _ _ hqueue
  · intro i o g m hstage hstatus
    exact hinv.conserved.ready _ hstage m hstatus
  · intro a d' hstep
    have hmoved := ((step_trades hinv.conserved.ready hstep).moved hinv.conserved).status
    obtain ⟨added, -, -, hitems⟩ := hmoved.items .refl fun _ _ _ => .trans
    exact ⟨added, hitems⟩

theorem shortStatus_consistent : shortStatus.Consistent := by
  refine ⟨Playback.Fresh.consistent ⟨rfl, rfl, rfl, rfl⟩, fun dl hdeadline hselected => ?_⟩
  cases hdeadline
  cases hselected

/-- A callback up to the first sample of its tick. -/
def politeMoves : List (DeskMove (TestPcmStream ℚ) ℚ) := quietCallback :: List.replicate 14 .audio

/-- The first sample of a status past its deadline is one of its Morse substitute. -/
theorem polite_deadline_bench :
    ∃ (d d' : Desk (TestPcmStream ℚ) ℚ) (x : SlotSample (TestPcmStream ℚ) ℚ),
      Reachable Initial (Guarded Step Prompt) d ∧ d.Step .audio d' ∧ d.nextSample = some x
      ∧ x.sample = 1 / 8 ∧ ∃ p : Playback (TestPcmStream ℚ), p.morse = some .selected
        ∧ (d'.node.telemetry.status = some (x.media.withPlayback p)
          ∨ x.media.withPlayback p ∈ d'.node.telemetry.completed) := by
  obtain ⟨e, he⟩ : ∃ e, (bench false).step (.queuePreparedStatus shortStatus) = some e :=
    isSome_iff_exists.mp (by decide +kernel)
  have hfacts : (((bench false).step (.queuePreparedStatus shortStatus)).bind fun e =>
      (politeMoves.foldlM step e).bind fun d => (d.step .audio).bind fun _ =>
        d.nextSample.map fun x =>
          (x.made, x.media.playback.hasOutput, x.media.delivery, d.node.now, x.sample))
      = some (1, false, some ⟨0, ⟨1, .morse, .wait⟩, true⟩, 0, 1 / 8) := by decide +kernel
  rw [he, bind_some] at hfacts
  obtain ⟨d, hd, hfacts⟩ := bind_eq_some_iff.mp hfacts
  obtain ⟨d', hd', hfacts⟩ := bind_eq_some_iff.mp hfacts
  obtain ⟨x, hx, hview⟩ := map_eq_some_iff.mp hfacts
  simp only [Prod.mk.injEq] at hview
  obtain ⟨hmade, hout, hdelivery, hnow, hsample⟩ := hview
  have hqueued : Reachable Initial (Guarded Step Prompt) e := by
    refine .step (.init (bench_initial false)) ⟨fun m hm => ?_, he⟩
    cases hm
    exact ⟨shortStatus_consistent, rfl⟩
  have hreach : Reachable Initial (Guarded Step Prompt) d :=
    hqueued.run ((Run.foldlM hd).guarded fun a ha s m hm => by
      rw [hm] at ha
      simp [politeMoves, quietCallback] at ha)
  refine ⟨d, d', x, hreach, hd', hx, hsample, ?_⟩
  have hfirst := (polite_deadline TestPcmStream.steadyReaders hreach).first hx
    (by rw [hmade]; decide) hdelivery hout (by rw [hnow]) hd'
  rcases hfirst with hexempt | hmorse
  · cases hexempt.wait
  · exact hmorse.2.2

/-- A message without wait, skipped when it is late, addressed to a peer that is not talking. -/
def lateMessage : PreparedMedia (TestPcmStream ℚ) :=
  { newStream ⟨[1 / 4, 1 / 4], [], 0, false⟩ with
    reply := some 0, policy := some ⟨true, .local⟩, delivery := some ⟨0, ⟨0, .skip, .wait⟩, false⟩ }

/-- Control queues the message after the expiry pass of the second sample of a block. -/
def lateMoves : List (DeskMove (TestPcmStream ℚ) ℚ) :=
  .callback (.processAudio false false false false [(0, 0, none), (0, 0, none)]) ::
    List.replicate 21 .audio ++ .queuePreparedStatus lateMessage :: List.replicate 4 .audio

/-- **A late message can play.** A message that its deadline skips and that control queues between
the expiry pass and the poll of one tick starts its primary past its deadline. -/
theorem late_status_plays :
    ∃ d : Desk (TestPcmStream ℚ) ℚ, ∃ x, Reachable Initial Step d ∧ d.nextSample = some x
      ∧ x.made ≠ 0 ∧ x.media.playback.hasOutput = false
      ∧ x.media.delivery = some ⟨0, ⟨0, .skip, .wait⟩, false⟩ ∧ 0 < d.node.now
      ∧ x.sample = 1 / 4 := by
  obtain ⟨d, hreach, hfacts⟩ := exists_reachable Initial step lateMoves (some (bench false))
    (by rintro _ ⟨⟩; exact bench_initial false) (fun d => d.nextSample.any (fun x =>
      decide (x.made ≠ 0 ∧ x.media.playback.hasOutput = false
        ∧ x.media.delivery = some ⟨0, ⟨0, .skip, .wait⟩, false⟩ ∧ 0 < d.node.now
        ∧ x.sample = 1 / 4)) = true) (by decide +kernel)
  obtain ⟨x, hx, hview⟩ := (any_eq_true _ _).mp hfacts
  exact ⟨d, x, hreach, hx, of_decide_eq_true hview⟩

end Desk

end RptAdvanced.Controller
