import RptAdvanced.Controller.Desk
import RptAdvanced.Controller.Keying
import RptAdvanced.Lib.Circulation

/-!
# Envelopes between control and the telemetry slot

Status envelopes circulate through the pending ring, the status slot and the completed ring; parrot
envelopes through rings of their own (`TelemetryPlanner.rings`, `parrotRings`). `Evolves` is what
happens to an envelope on the way: its playback moves on, and an expired delivery selects Morse.

`TelemetryPlanner.Handles t t'` says what any part of a tick does to the telemetry: it takes
statuses into the slot and puts them into the completed ring, with room, it does the same with the
parrot, and the parrot's slot is taken exactly while the parrot plays. There is one lemma for each
part.

Result: `status_conservation`.
-/

namespace RptAdvanced.Controller

open Audio Lib Policy List Option TelemetryPlanner NodeController

variable {S F : Type}

/-- A later state of the same envelope. -/
structure PreparedMedia.Evolves (m m' : PreparedMedia S) : Prop where
  available : m'.available = m.available
  kind : m'.kind = m.kind
  reply : m'.reply = m.reply
  cancelWhen : m'.cancelWhen = m.cancelWhen
  occurrence : m'.occurrence = m.occurrence
  policy : m'.policy = m.policy
  recipe : m'.recipe = m.recipe
  terms : m'.delivery.map (fun d => (d.deadline, d.policy))
    = m.delivery.map fun d => (d.deadline, d.policy)
  latched : m.forceMorse = true → m'.forceMorse = true

namespace PreparedMedia

variable {m m' m'' : PreparedMedia S}

theorem Evolves.refl (m : PreparedMedia S) : m.Evolves m :=
  ⟨rfl, rfl, rfl, rfl, rfl, rfl, rfl, rfl, id⟩

theorem Evolves.trans (h : m.Evolves m') (k : m'.Evolves m'') : m.Evolves m'' where
  available := k.available.trans h.available
  kind := k.kind.trans h.kind
  reply := k.reply.trans h.reply
  cancelWhen := k.cancelWhen.trans h.cancelWhen
  occurrence := k.occurrence.trans h.occurrence
  policy := k.policy.trans h.policy
  recipe := k.recipe.trans h.recipe
  terms := k.terms.trans h.terms
  latched hm := k.latched (h.latched hm)

theorem withPlayback_evolves (m : PreparedMedia S) (p : Playback S) :
    m.Evolves (m.withPlayback p) := ⟨rfl, rfl, rfl, rfl, rfl, rfl, rfl, rfl, id⟩

/-- The attempt ended before its first sample. -/
def Unplayed (m : PreparedMedia S) : Prop := m.playback.Unplayed

variable [PcmStreamReader S F]

/-- What every envelope keeps that control builds: its playback is consistent, and only an expiry
to Morse selects Morse. -/
structure Consistent (m : PreparedMedia S) : Prop where
  playback : m.playback.Consistent
  selected : ∀ d, m.delivery = some d → d.selected = true → d.policy.expiry = .morse

/-- A later state of the same status: once it ended unplayed, it stays so. -/
structure Matures (m m' : PreparedMedia S) : Prop where
  evolves : m.Evolves m'
  unplayed : m.Unplayed → m'.Unplayed
  consistent : SteadyReaders S → m.Consistent → m'.Consistent

theorem Matures.refl (m : PreparedMedia S) : m.Matures m := ⟨.refl m, id, fun _ => id⟩

theorem Matures.trans (h : m.Matures m') (k : m'.Matures m'') : m.Matures m'' where
  evolves := h.evolves.trans k.evolves
  unplayed hm := k.unplayed (h.unplayed hm)
  consistent hs hm := k.consistent hs (h.consistent hs hm)

section

variable (m : PreparedMedia S)

theorem withPlayback_matures {p : Playback S} (hu : m.playback.Unplayed → p.Unplayed)
    (hc : SteadyReaders S → m.playback.Consistent → p.Consistent) : m.Matures (m.withPlayback p) :=
  ⟨m.withPlayback_evolves p, hu, fun hs hm => ⟨hc hs hm.playback, hm.selected⟩⟩

theorem cancel_matures : m.Matures (m.withPlayback m.playback.cancel) :=
  withPlayback_matures m .cancel fun _ _ => .of_finished rfl

/-- A live status gives up its attempt. -/
theorem suspend_matures (h : m.playback.isFinished = false) :
    m.Matures (m.withPlayback ((m.playback.restart false).defer false)) := by
  refine withPlayback_matures m (fun hu => ?_) fun _ _ => ?_
  · rw [hu.1] at h
    cases h
  · exact (m.playback.restart_fresh).defer.consistent

theorem expire_matures (now : Nat) (allowed busy primaryReady : Bool) :
    m.Matures (m.expire now allowed busy primaryReady) := by
  unfold expire
  split
  · exact .refl m
  rename_i d hd
  split
  · exact .refl m
  split
  · exact cancel_matures m
  rename_i hmorse
  refine ⟨⟨rfl, rfl, rfl, rfl, rfl, rfl, rfl, ?_, fun _ => rfl⟩, id, fun _ hm => ?_⟩
  · rw [hd]
    rfl
  · refine ⟨hm.playback, fun d' hd' _ => ?_⟩
    cases hd'
    cases he : d.policy.expiry with
    | morse => rfl
    | skip => simp [he] at hmorse

end

/-- One sample of a status. -/
theorem playSlot_matures [Zero F] (w : World) (m : PreparedMedia S) (allowed interrupt : Bool) :
    m.Matures (m.withPlayback (playSlot (F := F) w m allowed interrupt).2.2.2) := by
  have hread : (m.playback.Unplayed → (readSlot (F := F) m allowed interrupt).2.2.Unplayed)
      ∧ (SteadyReaders S → m.playback.Consistent → (readSlot (F := F) m allowed
        interrupt).2.2.Consistent) := by
    unfold readSlot
    split
    · refine ⟨fun hu => ?_, fun _ hc => ?_⟩
      · rwa [hu.render]
      · exact Playback.started_render_consistent hc _ _ (.inr (.inr (by simp)))
    · exact ⟨fun hu => hu.defer interrupt, fun hs hc => hc.defer hs interrupt⟩
  rcases playSlot_cases (F := F) w m allowed interrupt with h | h <;> rw [h]
  · exact withPlayback_matures m hread.1 hread.2
  · exact withPlayback_matures m (fun hu => (hread.1 hu).cancel) fun _ _ => .of_finished rfl

end PreparedMedia

open PreparedMedia (Evolves Matures)

/-! ## Parts of a tick that leave the telemetry -/

namespace NodeController

variable (c : NodeController S F) (i : StepInput F)

theorem armIdentifier_telemetry (idle : Nat) (g : Gate)
    (rel : Release) (q : Readiness) (activeStream : Bool) :
    (c.armIdentifier i idle g rel q activeStream).1.telemetry = c.telemetry := by
  unfold armIdentifier
  dsimp only
  split <;> rfl

theorem settleRelease_telemetry : (c.settleRelease i).1.telemetry = c.telemetry := by
  simp only [settleRelease, admitRelease, clearRelease, apply_ite telemetry, ite_self]

theorem noteRendered_telemetry (r : Rendered F) : (c.noteRendered r).telemetry = c.telemetry := by
  simp only [noteRendered, apply_ite telemetry, ite_self]
  unfold noteStarted
  split <;> rfl

end NodeController

/-! ## The telemetry -/

variable [PcmStreamReader S F]

namespace TelemetryPlanner

variable {t t' t'' : TelemetryPlanner S F} {f : PreparedMedia S → PreparedMedia S}

/-- The statuses in circulation. -/
def rings (t : TelemetryPlanner S F) : Circulation (PreparedMedia S) :=
  ⟨t.pending, t.status, t.completed⟩

/-- The parrot in circulation. -/
def parrotRings (t : TelemetryPlanner S F) : Circulation (PreparedMedia S) :=
  ⟨t.parrotPending, t.parrot, t.parrotCompleted⟩

/-- The parrot's slot is taken exactly while the parrot plays. -/
def ParrotSlot (t : TelemetryPlanner S F) : Prop := t.parrot.isSome = true ↔ t.active = some .parrot

omit [PcmStreamReader S F] in
/-- A free playback slot has no parrot. -/
theorem ParrotSlot.free (hslot : t.ParrotSlot) (h : t.active = none) : t.parrot = none := by
  cases hp : t.parrot with
  | none => rfl
  | some m =>
    have hactive := hslot.mp (by simp [hp])
    rw [h] at hactive
    cases hactive

/-- What a part of a tick does to the telemetry. -/
structure Handles (t t' : TelemetryPlanner S F) : Prop where
  status : Circulation.Tends Matures 4 t.rings t'.rings
  parrot : t.ParrotSlot → t'.ParrotSlot ∧ Circulation.Tends Evolves 1 t.parrotRings t'.parrotRings

theorem Handles.refl (t : TelemetryPlanner S F) : Handles t t :=
  ⟨.refl _, fun h => ⟨h, .refl _⟩⟩

theorem Handles.of_eq (h : t' = t) : Handles t t' := h ▸ .refl t

theorem Handles.trans (h : Handles t t') (k : Handles t' t'') : Handles t t'' := by
  refine ⟨h.status.trans k.status, fun hslot => ?_⟩
  obtain ⟨hslot', htends⟩ := h.parrot hslot
  obtain ⟨hslot'', htends'⟩ := k.parrot hslot'
  exact ⟨hslot'', htends.trans htends'⟩

/-- The slot's owner changes, but not from or to the parrot. -/
inductive Reslots (t : TelemetryPlanner S F) : TelemetryPlanner S F → Prop
  | intro (source : Option Source) (h : source = some .parrot ↔ t.active = some .parrot) :
      Reslots t { t with active := source }

omit [PcmStreamReader S F] in
theorem Reslots.refl (t : TelemetryPlanner S F) : Reslots t t := .intro t.active .rfl

omit [PcmStreamReader S F] in
theorem Reslots.trans (h : Reslots t t') (k : Reslots t' t'') : Reslots t t'' := by
  obtain ⟨source, h⟩ := h
  obtain ⟨source', k⟩ := k
  exact .intro source' (k.trans h)

omit [PcmStreamReader S F] in
theorem Reslots.status (h : Reslots t t') : t'.status = t.status := by
  cases h
  rfl

theorem Reslots.handles (h : Reslots t t') : Handles t t' := by
  obtain ⟨source, h⟩ := h
  exact ⟨.refl _, fun hslot => ⟨hslot.trans h.symm, .refl _⟩⟩

omit [PcmStreamReader S F] in
/-- A source other than the parrot gets a slot that is not the parrot's. -/
theorem reslots_other (h : t.active ≠ some .parrot) {source : Option Source}
    (hs : source ≠ some .parrot) : Reslots t { t with active := source } :=
  .intro source ⟨fun he => absurd he hs, fun he => absurd he h⟩

/-- The status envelope changes in place. -/
theorem handles_status (t : TelemetryPlanner S F)
    (hf : ∀ m, t.status = some m → Matures m (f m)) (held : Bool) :
    Handles t { t with status := t.status.map f, heldStatus := held } := by
  refine ⟨?_, fun hslot => ⟨hslot, .refl _⟩⟩
  refine .change _ (List.forall₂_same.mpr fun m _ => .refl m) ?_
  cases hm : t.status with
  | none => exact .nil
  | some m => exact .cons (hf m hm) .nil

/-- The parrot changes in place. -/
theorem handles_parrot (hf : ∀ m, Evolves m (f m))
    (t : TelemetryPlanner S F) : Handles t { t with parrot := t.parrot.map f } := by
  refine ⟨.refl _, fun hslot => ⟨?_, ?_⟩⟩
  · unfold ParrotSlot at hslot ⊢
    rwa [isSome_map]
  · refine .change _ (List.forall₂_same.mpr fun m _ => .refl m) ?_
    cases t.parrot with
    | none => exact .nil
    | some m => exact .cons (hf m) .nil

section

variable (t : TelemetryPlanner S F)

theorem finishStatus_handles : Handles t t.finishStatus := by
  unfold finishStatus
  split
  · exact ⟨.refl _, fun hslot => ⟨hslot, .refl _⟩⟩
  rename_i m hm
  refine ⟨?_, fun hslot => ⟨hslot, .refl _⟩⟩
  unfold rings pushRing
  rw [hm]
  exact .put m _ _

omit [PcmStreamReader S F] in
theorem finishStatus_status : t.finishStatus.status = none := by
  unfold finishStatus
  split
  · assumption
  · rfl

/-- `finish_parrot` of a source that gives up the slot. -/
theorem finishParrot_handles : Handles t { t with active := none }.finishParrot := by
  unfold finishParrot
  split
  · rename_i hm
    refine ⟨.refl _, fun hslot => ⟨?_, .refl _⟩⟩
    unfold ParrotSlot
    rw [hm]
    simp
  · rename_i m hm
    refine ⟨.refl _, fun _ => ⟨?_, ?_⟩⟩
    · unfold ParrotSlot
      simp
    · unfold parrotRings pushRing
      rw [hm]
      exact .put m _ _

/-- `discard_pending_parrot`: with one envelope in circulation its slot is free. -/
theorem discardPendingParrot_handles : Handles t t.discardPendingParrot := by
  unfold discardPendingParrot
  split
  · exact .refl t
  rename_i m rest hpending
  refine ⟨.refl _, fun hslot => ⟨hslot, fun hcapacity => ?_⟩⟩
  unfold parrotRings at hcapacity ⊢
  rw [hpending] at hcapacity ⊢
  cases hparrot : t.parrot with
  | none =>
    rw [hparrot] at hcapacity
    exact (Circulation.Tends.take m rest t.parrotCompleted).trans (.put m rest _) hcapacity
  | some x =>
    rw [hparrot] at hcapacity
    simp only [Circulation.items, toList_some, length_append, length_cons, length_nil] at hcapacity
    omega

theorem disableParrot_handles : Handles t t.disableParrot := by
  have hdiscard := discardPendingParrot_handles t
  unfold disableParrot
  dsimp only
  split
  · exact hdiscard.trans (finishParrot_handles _)
  · exact hdiscard

/-- `start_parrot` into a free slot. -/
theorem startParrot_handles (h : t.active = none) : Handles t { t.startParrot with
      active := t.startParrot.parrot.map fun _ => Source.parrot } := by
  unfold startParrot
  split
  · refine ⟨.refl _, fun hslot => ?_⟩
    have hnone := hslot.free h
    refine ⟨by unfold ParrotSlot; simp, ?_⟩
    unfold parrotRings
    rw [hnone]
    exact .refl _
  · rename_i m rest hpending
    refine ⟨.refl _, fun hslot => ?_⟩
    have hnone := hslot.free h
    refine ⟨by unfold ParrotSlot; simp, ?_⟩
    unfold parrotRings
    rw [hnone, hpending]
    refine (Circulation.Tends.take m rest _).trans (.change _ ?_ ?_)
    · exact List.forall₂_same.mpr fun m _ => .refl m
    · exact .cons (m.withPlayback_evolves _) .nil

/-- Retiring the slot's obsolete status. -/
theorem retireStatus_handles {m : PreparedMedia S}
    (h : t.status = some m) : Handles t (t.retireStatus m) := by
  refine ⟨?_, fun hslot => ⟨hslot.trans ?_, .refl _⟩⟩
  · unfold rings retireStatus pushRing
    rw [h]
    refine .trans (.change _ ?_ ?_) (.put (m.withPlayback m.playback.cancel) _ _)
    · exact List.forall₂_same.mpr fun m _ => .refl m
    · exact .cons m.cancel_matures .nil
  · unfold retireStatus
    split
    · rename_i hs
      rw [hs]
      simp
    · rfl

end

/-- The loop of `poll_status`: each obsolete head passes through the slot. -/
theorem pollPending_handles (w : World) (t : TelemetryPlanner S F) (q : List (PreparedMedia S))
    (hstatus : t.status = none) : Handles { t with pending := q } (pollPending w t q) := by
  induction q generalizing t with
  | nil =>
    refine .of_eq ?_
    unfold pollPending
    rw [← hstatus]
  | cons m rest ih =>
    have htake : Handles { t with pending := m :: rest }
        { t with status := some m, pending := rest } := by
      refine ⟨?_, fun hslot => ⟨hslot, .refl _⟩⟩
      rw [hstatus]
      exact .take m rest _
    unfold pollPending
    split
    · have hretire := retireStatus_handles { t with status := some m, pending := rest } rfl
      exact (htake.trans hretire).trans (ih (t.retireStatus m) rfl)
    · exact htake

theorem pollStatus_handles (w : World) (t : TelemetryPlanner S F) : Handles t (t.pollStatus w) := by
  unfold pollStatus
  split
  · rename_i hstatus
    exact pollPending_handles w t t.pending hstatus
  rename_i m hm
  split
  · exact (retireStatus_handles t hm).trans (pollPending_handles w (t.retireStatus m) t.pending rfl)
  · exact .refl t

section Expiry

variable {r : PreparedMedia S → PreparedMedia S → Prop} {now : Nat}
  {allowed occupied primaryReady : Bool}

theorem expirePending_each (q : List (PreparedMedia S))
    (hr : ∀ m ∈ q, ∀ busy, (occupied = true → busy = true) →
      r m (m.expire now allowed busy primaryReady))
    {blocked : Bool} (hblocked : occupied = true → blocked = true) :
    List.Forall₂ r q (expirePending now allowed primaryReady blocked q) := by
  induction q generalizing blocked with
  | nil => exact .nil
  | cons m rest ih =>
    refine .cons (hr m mem_cons_self blocked hblocked) (ih ?_ ?_)
    · exact fun m hm => hr m (mem_cons_of_mem _ hm)
    · exact fun h => by rw [hblocked h]; rfl

/-- `expire_status` looks at the slot and at each pending status. -/
theorem expireStatus_each (t : TelemetryPlanner S F)
    (hr : ∀ m ∈ t.status.toList ++ t.pending, ∀ busy, (occupied = true → busy = true) →
      r m (m.expire now allowed busy primaryReady)) : List.Forall₂ r t.status.toList
        (t.expireStatus now allowed occupied primaryReady).status.toList ∧
      List.Forall₂ r t.pending (t.expireStatus now allowed occupied primaryReady).pending := by
  have hbusy :
    occupied = true → (occupied || (t.active.isSome && t.active != some .status)) = true :=
    fun h => by simp [h]
  refine ⟨?_, expirePending_each _ (fun m hm => hr m (mem_append_right _ hm)) fun h => ?_⟩
  · unfold expireStatus
    cases hs : t.status with
    | none => exact .nil
    | some m => exact .cons (hr m (by simp [hs]) _ hbusy) .nil
  · rw [hbusy h]
    rfl

end Expiry

theorem expireStatus_handles (t : TelemetryPlanner S F) (now : Nat)
    (allowed occupied primaryReady : Bool) :
    Handles t (t.expireStatus now allowed occupied primaryReady) := by
  obtain ⟨hstatus, hpending⟩ := @expireStatus_each S F _ Matures now allowed occupied primaryReady t
    fun m _ busy _ => m.expire_matures now allowed busy primaryReady
  exact ⟨.change _ hpending hstatus, fun hslot => ⟨hslot, .refl _⟩⟩

/-- `start_status`, into a slot the parrot does not play from. -/
theorem startStatus_handles (w : World) (t : TelemetryPlanner S F) (h : t.active = none) :
    Handles t (t.startStatus w) := by
  have hactive : (t.pollStatus w).active = none := by
    rcases pollStatus_active w t with hs | hs
    · exact hs.trans h
    · exact hs.1
  refine (pollStatus_handles w t).trans ⟨.refl _, fun hslot => ⟨hslot.trans ?_, .refl _⟩⟩
  unfold startStatus
  rw [hactive]
  cases (t.pollStatus w).status <;> simp

/-- The status in the slot, if there is one, is not finished. -/
def Live (t : TelemetryPlanner S F) : Prop := ∀ m, t.status = some m → m.playback.isFinished = false

/-- A poll leaves no finished status in the slot. -/
theorem pollStatus_live (w : World) (t : TelemetryPlanner S F) : (t.pollStatus w).Live := by
  intro m hm
  have hcurrent := pollStatus_status w t hm
  unfold PreparedMedia.obsolete at hcurrent
  simp only [Bool.or_eq_false_iff] at hcurrent
  exact hcurrent.1.1.1

end TelemetryPlanner

open TelemetryPlanner (Handles Reslots reslots_other)

/-! ## The parts of a tick -/

namespace NodeController

section Parts

variable (c : NodeController S F) (i : StepInput F) {source : Option Source}

/-- The slot's playback changes, as a status's may. -/
theorem mapPlayback_handles (source : Option Source)
    (f : Playback S → Playback S) (hf : source = some .status → ∀ m, c.telemetry.status = some m →
      Matures m (m.withPlayback (f m.playback))) :
    Handles c.telemetry (c.mapPlayback source f).telemetry := by
  cases source with
  | none => exact .refl _
  | some source =>
    cases source with
    | status =>
      exact handles_status _ (hf rfl) c.telemetry.heldStatus
    | parrot => exact handles_parrot (fun m => m.withPlayback_evolves _) _
    | _ => exact .refl _

theorem noteParrot_handles : Handles c.telemetry (c.noteParrot i).telemetry := by
  unfold noteParrot
  split
  · exact c.telemetry.discardPendingParrot_handles
  · exact .refl _

theorem satisfyRecipe_telemetry (recipe : Nat) :
    (c.satisfyRecipe recipe).telemetry = c.telemetry := by
  unfold satisfyRecipe
  split <;> rfl

theorem completeRecipeTail_telemetry (recipe : Nat) :
    (c.completeRecipeTail recipe).telemetry = c.telemetry := by
  unfold completeRecipeTail
  split <;> rfl

/-- The status part of `complete_playback`. -/
theorem completeStatus_telemetry (outcome : PlaybackOutcome) :
    (c.completePlayback (some .status) outcome).telemetry = c.telemetry.finishStatus := by
  unfold completePlayback
  dsimp only
  split
  · rw [completeRecipeTail_telemetry, satisfyRecipe_telemetry]
  · rfl

/-- The end of an attempt that gives up the slot. -/
theorem completePlayback_handles
    (h : c.telemetry.active = some .parrot → source = some .parrot) (outcome : PlaybackOutcome) :
    Handles c.telemetry ((c.setActive none).completePlayback source outcome).telemetry := by
  by_cases hparrot : source = some .parrot
  · subst hparrot
    exact c.telemetry.finishParrot_handles
  have hactive : Reslots c.telemetry (c.setActive none).telemetry :=
    reslots_other (fun ha => hparrot (h ha)) nofun
  refine hactive.handles.trans ?_
  cases source with
  | none => exact .refl _
  | some source =>
    cases source with
    | status =>
      rw [completeStatus_telemetry]
      exact finishStatus_handles _
    | parrot => exact absurd rfl hparrot
    | courtesy index => exact .refl _
    | identifier index =>
      unfold completePlayback
      dsimp only
      split <;> exact .refl _
    | announcement | tail => exact .refl _

/-- A requested cancellation. -/
theorem takeCancel_handles : Handles c.telemetry c.takeCancel.telemetry := by
  unfold takeCancel
  split
  · dsimp only
    generalize hsource :
      c.telemetry.active.or (if c.telemetry.heldStatus then some .status else none)
      = source
    have howner : c.telemetry.active = some .parrot → source = some .parrot := fun ha => by
      rw [← hsource, ha]
      rfl
    split
    · rename_i hmedia
      -- without an envelope the slot was not the parrot's
      refine ⟨.refl _, fun hslot => ⟨?_, .refl _⟩⟩
      unfold TelemetryPlanner.ParrotSlot at hslot ⊢
      by_cases ha : c.telemetry.active = some .parrot
      · rw [howner ha] at hmedia
        change c.telemetry.parrot = none at hmedia
        change c.telemetry.parrot.isSome = true ↔ none = some Source.parrot
        rw [hmedia]
        simp
      · change c.telemetry.parrot.isSome = true ↔ none = some Source.parrot
        rw [hslot]
        simp [ha]
    · have hmap := mapPlayback_handles c source Playback.cancel fun _ m _ => m.cancel_matures
      have hactive :
          (c.mapPlayback source Playback.cancel).telemetry.active = c.telemetry.active := by
        unfold mapPlayback
        split <;> rfl
      have hend := completePlayback_handles (c.mapPlayback source Playback.cancel)
        (fun ha => howner (hactive ▸ ha)) .cancelled
      refine (hmap.trans hend).trans (.of_eq ?_)
      cases source with
      | none => rfl
      | some source => cases source <;> rfl
  · exact .refl _

theorem pollStatus_handles :
    Handles c.telemetry c.pollStatus.telemetry := c.telemetry.pollStatus_handles c.world

/-- The hold of an opening status. -/
theorem holdStatus_handles {c : NodeController S F} (hlive : c.telemetry.Live) (statusIdle : Bool) :
    Handles c.telemetry (c.holdStatus statusIdle).telemetry := by
  unfold holdStatus
  split
  · exact .refl _
  rename_i m hm
  split
  · rename_i hhold
    have hactive : c.telemetry.active = some .status := by
      simp only [Bool.and_eq_true, beq_iff_eq] at hhold
      exact hhold.1.1.2.2
    have hchange := handles_status c.telemetry
      (f := fun m : PreparedMedia S => m.withPlayback ((m.playback.restart false).defer false))
      (fun m hm => m.suspend_matures (hlive m hm)) true
    rw [hm] at hchange
    exact hchange.trans (Reslots.handles (reslots_other (by simp [hactive]) nofun))
  · exact .refl _

/-- A tail that traffic withdraws. -/
theorem observeTails_handles : Handles c.telemetry (c.observeTails i).telemetry := by
  unfold observeTails
  dsimp only
  split
  · rename_i index hactive
    split
    · exact Reslots.handles (reslots_other (by simp [hactive]) nofun)
    · exact .refl _
  · exact .refl _

theorem observePolled_handles {c : NodeController S F} (hlive : c.telemetry.Live)
    (i : StepInput F) :
    Handles c.telemetry (c.observePolled i).1.telemetry := by
  unfold observePolled
  dsimp only
  generalize hd : c.holdStatus (c.statusIdle i) = d
  have hhold : Handles c.telemetry d.telemetry := hd ▸ holdStatus_handles hlive _
  generalize he :
    (((d.noteReceive i (d.now - d.lastActivity)).noteKey i).noteUnkey i).noteSuppressed i
    = e
  have hnotes : e.telemetry = d.telemetry := by
    simp only [← he, noteSuppressed, noteUnkey, receiveUnkeyed, noteKey, noteReceive,
      apply_ite telemetry, ite_self]
  refine (hhold.trans (.of_eq hnotes)).trans ((observeTails_handles e i).trans ?_)
  exact noteParrot_handles { e.observeTails i with receiver := i.receiving, linked := i.linked } i

/-- A courtesy, a status or a parrot starts in the free slot. -/
theorem startTelemetry_handles (g : Gate) (q : Readiness) :
    Handles c.telemetry (c.startTelemetry g q).telemetry := by
  unfold startTelemetry
  split
  · rename_i hfree
    have hactive : c.telemetry.active = none := by
      simp only [Bool.and_eq_true, isNone_iff_eq_none] at hfree
      exact hfree.2
    have hfree : c.telemetry.active ≠ some .parrot := by simp [hactive]
    unfold startReady
    split
    · split
      · exact Reslots.handles (reslots_other hfree nofun)
      dsimp only
      split
      · exact Reslots.handles (reslots_other hfree nofun)
      · exact Reslots.handles (reslots_other hfree nofun)
    · split
      · exact c.telemetry.startStatus_handles c.world hactive
      split
      · exact c.telemetry.startParrot_handles hactive
      · exact .refl _
  · exact .refl _

theorem preemptTail_reslots : Reslots c.telemetry c.preemptTail.telemetry := by
  unfold preemptTail
  split
  · rename_i index hactive
    have hnone : Reslots c.telemetry { c.telemetry with active := none } :=
      reslots_other (by simp [hactive]) nofun
    split <;> exact hnone
  · exact .refl _

theorem startPlanned_reslots (receive pendingStatus : Bool)
    (selected announcementDue : Option Nat) (h : c.telemetry.active = none) : Reslots c.telemetry
      (c.startPlanned receive pendingStatus selected announcementDue).telemetry := by
  have hfree : c.telemetry.active ≠ some .parrot := by simp [h]
  unfold startPlanned
  split
  · split <;> exact reslots_other hfree nofun
  split
  · exact reslots_other hfree nofun
  split
  · split
    · exact reslots_other hfree nofun
    · split <;> exact reslots_other hfree nofun
  · exact .refl _

theorem startSlot_reslots (g : Gate) (rel : Release) (q : Readiness) (selected : Option Nat) :
    Reslots c.telemetry (c.startSlot i g rel q selected).telemetry := by
  unfold startSlot
  dsimp only
  generalize hd : (if (g.mayTransmit && selected.isSome && i.input.isSome) = true then c.preemptTail
    else c) = d
  have hpreempt : Reslots c.telemetry d.telemetry := by
    rw [← hd]
    split
    · exact preemptTail_reslots c
    · exact .refl _
  refine hpreempt.trans ?_
  split
  · rename_i hfree
    simp only [Bool.and_eq_true, isNone_iff_eq_none] at hfree
    exact startPlanned_reslots _ _ _ _ _ hfree.2
  · exact .refl _

/-- One sample of the slot, and the end of its attempt. -/
theorem renderSlot_handles [Zero F] (c : NodeController S F) (i : StepInput F) (a : Admission) :
    Handles c.telemetry (c.renderSlot i a).1.telemetry := by
  unfold renderSlot
  dsimp only
  split
  · exact .refl _
  rename_i m hm
  generalize hr : playSlot (F := F) c.world m _ _ = r
  generalize hd : ({ c with ctcssEnabled := _, world := r.1 } : NodeController S F) = d
  have htelemetry : d.telemetry = c.telemetry := by rw [← hd]
  have hmap := mapPlayback_handles d c.telemetry.active (fun _ => r.2.2.2) fun hsource m' hm' => by
    have heq : m' = m := by
      rw [hsource] at hm
      rw [htelemetry] at hm'
      exact Option.some.inj (hm'.symm.trans hm)
    rw [heq, ← hr]
    exact m.playSlot_matures _ _ _
  have hactive : (d.mapPlayback c.telemetry.active fun _ => r.2.2.2).telemetry.active
      = c.telemetry.active := by
    rw [← hd]
    unfold mapPlayback
    split <;> rfl
  rw [htelemetry] at hmap
  refine hmap.trans ?_
  unfold endAttempt
  split
  · exact completePlayback_handles _ (fun ha => hactive.symm.trans ha) _
  · exact .refl _

theorem startTelemetry_live {c : NodeController S F} (hlive : c.telemetry.Live) (g : Gate)
    (q : Readiness) : (c.startTelemetry g q).telemetry.Live := by
  unfold startTelemetry
  split
  · unfold startReady
    split
    · split
      · exact hlive
      · dsimp only
        split <;> exact hlive
    · split
      · exact c.telemetry.pollStatus_live c.world
      split
      · unfold startParrot
        split <;> exact hlive
      · exact hlive
  · exact hlive

theorem completePlayback_status (h : source ≠ some .status) (outcome : PlaybackOutcome) :
    (c.completePlayback source outcome).telemetry.status = c.telemetry.status := by
  unfold completePlayback
  cases source with
  | none => rfl
  | some source =>
    cases source with
    | status => exact absurd rfl h
    | parrot =>
      dsimp only
      unfold finishParrot
      split <;> rfl
    | courtesy index => rfl
    | identifier index =>
      dsimp only
      split <;> rfl
    | announcement | tail => rfl

/-- The sample of the slot leaves no finished status in it. -/
theorem renderSlot_live [Zero F] {c : NodeController S F} (hlive : c.telemetry.Live)
    (i : StepInput F) (a : Admission) : (c.renderSlot i a).1.telemetry.Live := by
  unfold renderSlot
  dsimp only
  split
  · exact hlive
  rename_i m hm
  generalize hr : playSlot (F := F) c.world m _ _ = r
  generalize hd : ({ c with ctcssEnabled := _, world := r.1 } : NodeController S F) = d
  have htelemetry : d.telemetry = c.telemetry := by rw [← hd]
  by_cases hsource : c.telemetry.active = some .status
  · rw [hsource]
    unfold endAttempt
    split
    · intro m' hm'
      rw [completeStatus_telemetry, finishStatus_status] at hm'
      cases hm'
    · rename_i hfinish
      intro m' hm'
      obtain ⟨x, -, rfl⟩ := map_eq_some_iff.mp hm'
      exact Bool.eq_false_iff.mpr hfinish
  · have hkept : (d.mapPlayback c.telemetry.active fun _ => r.2.2.2).telemetry.status
        = c.telemetry.status := by
      rw [← htelemetry]
      unfold mapPlayback
      split <;> first | rfl | simp_all
    unfold endAttempt
    split
    · intro m' hm'
      rw [completePlayback_status _ hsource] at hm'
      exact hlive m' (hkept.symm.trans hm')
    · intro m' hm'
      exact hlive m' (hkept.symm.trans hm')

end Parts

variable [Pcm F] {c : NodeController S F}

theorem timeoutSample_telemetry (c : NodeController S F) (activity inhibited : Bool)
    (input : Option F) (program : Option (ProgramInput F)) :
    (c.timeoutSample activity inhibited input program).1.telemetry = c.telemetry := by
  unfold timeoutSample keyNotice
  unfold playNotice
  split
  · split
    · rfl
    · split <;> rfl
  · rfl

/-- The end of a tick: a watchdog that expires restarts the slot's playback. -/
theorem finishRendered_handles (hlive : c.telemetry.Live) (i : StepInput F) (a : Admission)
    (r : Rendered F) : Handles c.telemetry (c.finishRendered i a r).1.telemetry := by
  unfold finishRendered
  dsimp only
  generalize hd : (c.noteRendered r).keyTraffic i a r ((c.noteRendered r).demand i a r) = d
  have htelemetry : d.telemetry = c.telemetry := by
    rw [← hd]
    exact noteRendered_telemetry c r
  rw [← htelemetry]
  split
  · rw [timeoutSample_telemetry]
    refine mapPlayback_handles d _ _ fun _ m hm => m.suspend_matures (hlive m ?_)
    rwa [← htelemetry]
  · unfold finishTick stepGain
    split
    · exact ⟨.refl _, fun hslot => ⟨hslot, .refl _⟩⟩
    · exact .refl _

/-- The parts after a poll find no finished status in the slot. -/
def Ready (c : NodeController S F) : TickStage F → Prop
  | .cancel _ | .poll _ | .gate _ _ | .repoll _ _ _ => True
  | _ => c.telemetry.Live

/-- **What any part of a tick does to the telemetry.** -/
theorem tickPart_handles {stage : TickStage F} (hready : c.Ready stage) :
    Handles c.telemetry (c.tickPart stage).1.telemetry := by
  cases stage with
  | cancel i => exact takeCancel_handles c
  | poll i | repoll i o g => exact pollStatus_handles c
  | hold i => exact observePolled_handles hready i
  | gate i o =>
    unfold tickPart
    dsimp only
    split
    · exact .of_eq (timeoutSample_telemetry c i.activity c.world.siteInhibit i.input i.program)
    · exact c.telemetry.expireStatus_handles _ _ _ _
  | release i o g => exact .of_eq (settleRelease_telemetry c i)
  | start i o g rel q activeBefore => exact startTelemetry_handles c g q
  | plan i o g rel q activeStream peerStatus =>
    have harm := armIdentifier_telemetry c i o.idle g rel q activeStream
    exact .trans (.of_eq harm) (startSlot_reslots _ i g rel q _).handles
  | render i o g a => exact renderSlot_handles c i a
  | finish i a r => exact finishRendered_handles hready i a r

/-- What the next part needs holds after each part. -/
theorem tickPart_ready {stage stage' : TickStage F} (hready : c.Ready stage)
    (h : (c.tickPart stage).2 = some stage') : (c.tickPart stage).1.Ready stage' := by
  cases stage with
  | cancel i =>
    cases h
    trivial
  | poll i | repoll i o g =>
    cases h
    exact c.telemetry.pollStatus_live c.world
  | hold i =>
    cases h
    trivial
  | gate i o =>
    unfold tickPart at h ⊢
    dsimp only at h ⊢
    split at h
    · cases h
    · cases h
      trivial
  | release i o g =>
    cases h
    change (c.settleRelease i).1.telemetry.Live
    rwa [settleRelease_telemetry]
  | start i o g rel q activeBefore =>
    cases h
    exact startTelemetry_live hready g q
  | plan i o g rel q activeStream peerStatus =>
    cases h
    intro m hm
    refine hready m ?_
    rw [← armIdentifier_telemetry c i o.idle g rel q activeStream]
    exact (startSlot_reslots _ i g rel q _).status.symm.trans hm
  | render i o g a =>
    cases h
    exact renderSlot_live hready i a
  | finish i a r => cases h

end NodeController

/-! ## The ledgers -/

/-- The callback is inside a tick. -/
def AudioStage.isTicking : AudioStage F → Bool
  | .ticking _ => true
  | _ => false

namespace Desk

variable {d d' : Desk S F}

/-- Control's books: the status count and records, the parrot's busy flag and records. -/
def books (d : Desk S F) : Nat × List (PreparedMedia S) × List (PreparedMedia S)
    × Bool × List (PreparedMedia S) × List (PreparedMedia S) :=
  (d.control.outstanding, d.admitted, d.returned, d.parrotBusy, d.parrotAdmitted, d.parrotReturned)

/-- The statuses, with control's count and records. -/
def ledger (d : Desk S F) : Ledger (PreparedMedia S) :=
  ⟨d.node.telemetry.rings, d.control.outstanding, d.admitted, d.returned⟩

/-- The parrot, with control's records. The busy flag counts to one. -/
def parrotLedger (d : Desk S F) : Ledger (PreparedMedia S) :=
  ⟨d.node.telemetry.parrotRings, d.parrotBusy.toNat, d.parrotAdmitted, d.parrotReturned⟩

/-- The telemetry is handled, and control's books stay as they are. -/
structure Handled (d d' : Desk S F) : Prop where
  books : d'.books = d.books
  telemetry : Handles d.node.telemetry d'.node.telemetry

/-- What a move does to the envelopes: control admits or takes back one, or the telemetry is
handled. -/
inductive Trades (d d' : Desk S F) : Prop
  | handle (h : Handled d d')
  | status (m : PreparedMedia S) (room : d.control.outstanding ≠ 4)
      (node : d'.node.telemetry
        = { d.node.telemetry with pending := d.node.telemetry.pending ++ [m] })
      (books : d'.books = (d.control.outstanding + 1, d.admitted ++ [m], d.books.2.2))
  | parrot (m : PreparedMedia S) (enabled : d.control.parrotEnabled = true)
      (stored : d.control.flagDue = none) (idle : d.parrotBusy = false)
      (node : d'.node.telemetry
        = { d.node.telemetry with parrotPending := d.node.telemetry.parrotPending ++ [m] })
      (books : d'.books = (d.control.outstanding, d.admitted, d.returned, true,
        d.parrotAdmitted ++ [m], d.parrotReturned))
  | reclaimStatus (m : PreparedMedia S) (rest : List (PreparedMedia S))
      (finished : d.node.telemetry.completed = m :: rest)
      (node : d'.node.telemetry = { d.node.telemetry with completed := rest })
      (books : d'.books = (d.control.outstanding - 1, d.admitted, d.returned ++ [m], d.books.2.2.2))
  | reclaimParrot (m : PreparedMedia S) (rest : List (PreparedMedia S))
      (finished : d.node.telemetry.parrotCompleted = m :: rest)
      (node : d'.node.telemetry = { d.node.telemetry with parrotCompleted := rest })
      (books : d'.books = (d.control.outstanding, d.admitted, d.returned, false,
        d.parrotAdmitted, d.parrotReturned ++ [m]))

theorem Handled.of_eq (hb : d'.books = d.books) (hn : d'.node.telemetry = d.node.telemetry) :
    Handled d d' := ⟨hb, .of_eq hn⟩

/-- Inside a tick, the controller meets a condition on the next part. -/
def InTick (p : NodeController S F → TickStage F → Prop) (d : Desk S F) : Prop :=
  ∀ stage, d.stage = .ticking stage → p d.node stage

/-- The next part of the tick finds what it needs. -/
def Ready (d : Desk S F) : Prop := d.InTick NodeController.Ready

/-! ### Control -/

/-- What the moves of control and the mixer leave: the callback, the clock and the slot's status.
Only an admission changes the pending ring. -/
structure Aside (d : Desk S F) (a : DeskMove S F) (d' : Desk S F) : Prop where
  stage : d'.stage = d.stage
  now : d'.node.now = d.node.now
  status : d'.node.telemetry.status = d.node.telemetry.status
  pending : d'.node.telemetry.pending = d.node.telemetry.pending
    ∨ ∃ m, a = .queuePreparedStatus m ∧ d'.node.telemetry.pending = d.node.telemetry.pending ++ [m]

/-- A move that leaves the callback, the controller and control's books. -/
structure Still (d d' : Desk S F) : Prop where
  stage : d'.stage = d.stage
  node : d'.node = d.node
  books : d'.books = d.books

variable {a : DeskMove S F}

theorem outside_same (hstage : d'.stage = d.stage) (hnode : d'.node = d.node)
    (hbooks : d'.books = d.books) : Aside d a d' ∧ Trades d d' :=
  ⟨⟨hstage, by rw [hnode], by rw [hnode], .inl (by rw [hnode])⟩,
    .handle (.of_eq hbooks (by rw [hnode]))⟩

theorem Still.outside (h : Still d d') : Aside d a d' ∧ Trades d d' :=
  outside_same h.stage h.node h.books

section

variable (d : Desk S F) (m : PreparedMedia S)

theorem queuePreparedStatus_outside : Aside d (.queuePreparedStatus m) (d.queuePreparedStatus m) ∧
    Trades d (d.queuePreparedStatus m) := by
  unfold queuePreparedStatus
  split
  · exact outside_same rfl rfl rfl
  rename_i hroom
  split
  · exact ⟨⟨rfl, rfl, rfl, .inr ⟨m, rfl, rfl⟩⟩, .status m hroom rfl rfl⟩
  · exact outside_same rfl rfl rfl

theorem queuePreparedParrot_outside (hstored : d.control.flagDue = none) :
    Aside d (.queuePreparedParrot m) (d.queuePreparedParrot m) ∧
      Trades d (d.queuePreparedParrot m) := by
  unfold queuePreparedParrot
  split
  · exact outside_same rfl rfl rfl
  rename_i hadmit
  simp only [Bool.or_eq_true, Bool.not_eq_true', not_or, Bool.not_eq_false, Bool.not_eq_true]
    at hadmit
  obtain ⟨⟨henabled, -⟩, hidle⟩ := hadmit
  split
  · exact ⟨⟨rfl, rfl, rfl, .inl rfl⟩, .parrot m henabled hstored hidle rfl rfl⟩
  refine outside_same rfl rfl ?_
  unfold books
  rw [hidle]

theorem reclaimNext_outside : Aside d .reclaimNext d.reclaimNext ∧ Trades d d.reclaimNext := by
  unfold reclaimNext
  split
  · rename_i m rest hfinished
    exact ⟨⟨rfl, rfl, rfl, .inl rfl⟩, .reclaimStatus m rest hfinished rfl rfl⟩
  split
  · rename_i m rest hfinished
    exact ⟨⟨rfl, rfl, rfl, .inl rfl⟩, .reclaimParrot m rest hfinished rfl rfl⟩
  · exact outside_same rfl rfl rfl

omit [PcmStreamReader S F] in
theorem reclaimParrotLifecycle_still : Still d d.reclaimParrotLifecycle := by
  unfold reclaimParrotLifecycle
  split <;> exact ⟨rfl, rfl, rfl⟩

omit [PcmStreamReader S F] in
theorem setParrotEnabled_still (enabled : Bool) : Still d (d.setParrotEnabled enabled) := by
  have h := reclaimParrotLifecycle_still d
  unfold setParrotEnabled requestParrot
  dsimp only
  split
  · exact { h with }
  split
  · exact { h with }
  · split <;> exact { h with }

/-! ### Audio -/

theorem takeParrotRequest_handled : Handled d d.takeParrotRequest := by
  unfold takeParrotRequest
  split
  · exact .of_eq rfl rfl
  · exact .of_eq rfl rfl
  split
  · exact .of_eq rfl rfl
  · exact ⟨rfl, d.node.telemetry.disableParrot_handles⟩

theorem pushAck_handled (ack : ParrotAck) : Handled d (d.pushAck ack) := by
  unfold pushAck
  split <;> exact .of_eq rfl rfl

end

section Audio

variable [Pcm F] {a : DeskMove S F}

theorem perform_handled (d : Desk S F) (op : AudioOp F) : Handled d (d.perform op) := by
  cases op with
  | sync | observe active samples =>
    unfold perform
    dsimp only
    split
    · exact .of_eq rfl rfl
    · split <;> exact .of_eq rfl rfl
  | applyDisable =>
    unfold perform
    dsimp only
    split <;> exact .of_eq rfl rfl
  | setActivity | tick | advanceClock => exact .of_eq rfl rfl

/-- The mixer's calls and the shared cells leave the telemetry and the clock. -/
theorem act_aside (c : NodeController S F) {a : Action S F} (h : (a.isMixer || a.isShared) = true) :
    (c.act a).telemetry = c.telemetry ∧ (c.act a).now = c.now := by
  cases a with
  | linkUnkeyed direct selected kerchunk =>
    change (c.linkUnkeyed direct selected kerchunk).telemetry = c.telemetry
      ∧ (c.linkUnkeyed direct selected kerchunk).now = c.now
    unfold linkUnkeyed receiveUnkeyed
    split <;> split <;> exact ⟨rfl, rfl⟩
  | linkKeyed direct =>
    change (c.linkKeyed direct).telemetry = c.telemetry ∧ (c.linkKeyed direct).now = c.now
    unfold linkKeyed
    split <;> exact ⟨rfl, rfl⟩
  | _ => first | exact ⟨rfl, rfl⟩ | cases h

/-- The parts of a callback leave control's books alone. -/
theorem audioStep_handled (hready : d.Ready) (h : d.audioStep = some d') : Handled d d' := by
  unfold audioStep at h
  split at h
  · cases h
  · rename_i op todo _ _
    cases h
    have hperform := perform_handled { d with todo } op
    exact ⟨hperform.books, hperform.telemetry⟩
  · cases h
    exact takeParrotRequest_handled d
  · cases h
    exact pushAck_handled d _
  · cases h
    exact ⟨rfl, d.node.telemetry.disableParrot_handles⟩
  · rename_i stage hstage
    cases h
    exact ⟨rfl, tickPart_handles (hready _ hstage)⟩

theorem act_outside {a : Action S F} (h : (a.isMixer || a.isShared) = true)
    {move : DeskMove S F} : Aside d move { d with node := d.node.act a } ∧
      Trades d { d with node := d.node.act a } := by
  obtain ⟨ht, hnow⟩ := act_aside d.node h
  exact ⟨⟨rfl, hnow, congrArg status ht, .inl (congrArg pending ht)⟩, .handle (.of_eq rfl ht)⟩

omit [PcmStreamReader S F] [Pcm F] in
/-- What a control call does once no flag is left to store. -/
@[elab_as_elim]
theorem of_call {P : Desk S F → Prop} {e : Desk S F} (he : d.control.flagDue = none → P e)
    (h : (if d.control.flagDue.isNone then some e else none) = some d') : P d' := by
  obtain ⟨hstored, ⟨⟩⟩ := ite_none_right_eq_some.mp h
  exact he (isNone_iff_eq_none.mp hstored)

/-- A move is a part of the callback, or leaves it aside and trades. -/
theorem step_outside (h : Step d a d') : d.audioStep = some d' ∨ Aside d a d' ∧ Trades d d' := by
  unfold Step step at h
  dsimp only at h
  split at h
  · cases h
  cases a with
  | callback callback =>
    obtain ⟨-, ⟨⟩⟩ := ite_none_right_eq_some.mp h
    exact .inr (outside_same rfl rfl rfl)
  | audio => exact .inl h
  | mixer a =>
    obtain ⟨hmixer, ⟨⟩⟩ := ite_none_right_eq_some.mp h
    simp only [Bool.and_eq_true] at hmixer
    exact .inr (act_outside (by rw [hmixer.2]; rfl))
  | shared a =>
    obtain ⟨hshared, ⟨⟩⟩ := ite_none_right_eq_some.mp h
    exact .inr (act_outside (by rw [hshared, Bool.or_true]))
  | queuePreparedStatus m => exact .inr (of_call (fun _ => queuePreparedStatus_outside d m) h)
  | queuePreparedParrot m => exact .inr (of_call (queuePreparedParrot_outside d m) h)
  | setParrotEnabled enabled =>
    exact .inr (of_call (fun _ => (setParrotEnabled_still d enabled).outside) h)
  | storeFlag =>
    obtain ⟨enabled, -, rfl⟩ := map_eq_some_iff.mp h
    exact .inr (outside_same rfl rfl rfl)
  | reclaim => exact .inr (of_call (fun _ => (reclaimParrotLifecycle_still d).outside) h)
  | reclaimNext => exact .inr (of_call (fun _ => reclaimNext_outside d) h)
  | takeParrotCapture | recycleParrotCapture =>
    refine .inr (of_call (fun _ => Still.outside ?_) h)
    unfold mapCapture
    split <;> exact ⟨rfl, rfl, rfl⟩

/-- **What any move does to the envelopes.** -/
theorem step_trades (hready : d.Ready) (h : Step d a d') : Trades d d' := by
  rcases step_outside h with haudio | ⟨-, htrades⟩
  · exact .handle (audioStep_handled hready haudio)
  · exact htrades

theorem step_aside (h : Step d a d') : d.audioStep = some d' ∨ Aside d a d' :=
  (step_outside h).imp_right And.left

/-! ## Conservation -/

omit [PcmStreamReader S F] in
/-- A callback enters a tick at its first part. -/
theorem perform_stage (hstage : d.stage = .ready) (op : AudioOp F) {stage : TickStage F}
    (h : (d.perform op).stage = .ticking stage) : ∃ i, stage = .cancel i := by
  have hready : ¬ d.stage = .ticking stage := by
    rw [hstage]
    exact nofun
  cases op with
  | sync =>
    unfold perform at h
    dsimp only at h
    split at h
    · cases h
    split at h
    · cases h
    · exact absurd h hready
  | applyDisable =>
    unfold perform at h
    dsimp only at h
    split at h
    · exact absurd h hready
    · cases h
  | observe active samples =>
    unfold perform at h
    dsimp only at h
    split at h
    · exact absurd h hready
    · split at h <;> exact absurd h hready
  | setActivity active => exact absurd h hready
  | tick i =>
    cases h
    exact ⟨i, rfl⟩
  | advanceClock => exact absurd h hready

section InTick

variable {p : NodeController S F → TickStage F → Prop}

omit [PcmStreamReader S F] [Pcm F] in
/-- Outside a tick there is nothing to meet. -/
theorem InTick.of_other (h : d'.stage.isTicking = false) : d'.InTick p := by
  intro stage hstage
  rw [hstage] at h
  cases h

/-- A condition that holds at the first part of every tick and is kept by each part holds through
the parts of a callback. -/
theorem audioStep_inTick (hfirst : ∀ c i, p c (.cancel i))
    (hpart : ∀ {c : NodeController S F} {stage stage' : TickStage F}, p c stage →
      (c.tickPart stage).2 = some stage' → p (c.tickPart stage).1 stage')
    (hp : d.InTick p) (h : d.audioStep = some d') : d'.InTick p := by
  unfold audioStep at h
  split at h
  · cases h
  · rename_i op todo hstage _
    cases h
    intro stage hs
    obtain ⟨i, rfl⟩ := perform_stage (d := { d with todo }) hstage op hs
    exact hfirst _ i
  · rename_i hstage
    cases h
    unfold takeParrotRequest
    split
    · exact .of_other rfl
    · exact .of_other rfl
    split
    · exact .of_other (by rw [hstage]; rfl)
    · exact .of_other rfl
  · cases h
    unfold pushAck
    split <;> exact .of_other rfl
  · cases h
    exact .of_other rfl
  · rename_i stage hstage
    cases h
    intro stage' hs
    refine hpart (hp _ hstage) ?_
    unfold tickPart at hs
    dsimp only at hs
    cases hnext : (d.node.tickPart stage).2 with
    | none =>
      rw [hnext] at hs
      cases hs
    | some next =>
      rw [hnext] at hs
      cases hs
      rfl

end InTick

omit [PcmStreamReader S F] [Pcm F] in
theorem Ready.of_same (h : d.Ready) (hstage : d'.stage = d.stage)
    (hstatus : d'.node.telemetry.status = d.node.telemetry.status) : d'.Ready := by
  intro stage hs
  have hready := h stage (hstage.symm.trans hs)
  cases stage with
  | cancel | poll | gate | repoll => trivial
  | _ => exact fun m hm => hready m (hstatus.symm.trans hm)

theorem step_ready (hready : d.Ready) (h : Step d a d') : d'.Ready := by
  rcases step_aside h with haudio | haside
  · exact audioStep_inTick (fun _ _ => trivial) tickPart_ready hready haudio
  · exact hready.of_same haside.stage haside.status

/-- What holds of the envelopes in every reachable state. -/
structure Conserved (d : Desk S F) : Prop where
  ready : d.Ready
  status : d.ledger.Balanced Matures 4
  parrot : d.parrotLedger.Balanced Evolves 1
  slot : d.node.telemetry.ParrotSlot

/-- What a move does to both ledgers. -/
structure Moved (d d' : Desk S F) : Prop where
  status : d.ledger.Moves Matures 4 d'.ledger
  parrot : d.parrotLedger.Moves Evolves 1 d'.parrotLedger
  slot : d'.node.telemetry.ParrotSlot

omit [Pcm F] in
theorem Moved.conserved (h : Moved d d') (hready : d'.Ready) (hinv : d.Conserved) :
    d'.Conserved where
  ready := hready
  status := hinv.status.moves .refl (fun _ _ _ => .trans) h.status
  parrot := hinv.parrot.moves .refl (fun _ _ _ => .trans) h.parrot
  slot := h.slot

omit [PcmStreamReader S F] [Pcm F] in
theorem ledgers_of_books {n : Nat} {admitted returned padmitted preturned : List (PreparedMedia S)}
    {busy : Bool} (h : d.books = (n, admitted, returned, busy, padmitted, preturned)) :
    d.ledger = ⟨d.node.telemetry.rings, n, admitted, returned⟩ ∧
      d.parrotLedger = ⟨d.node.telemetry.parrotRings, busy.toNat, padmitted, preturned⟩ := by
  cases h
  exact ⟨rfl, rfl⟩

omit [Pcm F] in
theorem Handled.moved (h : Handled d d') (hinv : d.Conserved) : Moved d d' := by
  obtain ⟨hslot, hparrot⟩ := h.telemetry.parrot hinv.slot
  obtain ⟨hstatusLedger, hparrotLedger⟩ := ledgers_of_books h.books
  refine ⟨?_, ?_, hslot⟩
  · rw [hstatusLedger]
    exact .works (hinv.status.works h.telemetry.status) rfl rfl rfl
  · rw [hparrotLedger]
    exact .works (hinv.parrot.works hparrot) rfl rfl rfl

omit [Pcm F] in
theorem Trades.moved (h : Trades d d') (hinv : d.Conserved) : Moved d d' := by
  cases h with
  | handle h => exact h.moved hinv
  | status m room node books =>
    obtain ⟨hstatusLedger, hparrotLedger⟩ := ledgers_of_books books
    refine ⟨?_, ?_, by rw [node]; exact hinv.slot⟩
    · rw [hstatusLedger]
      exact .admits m (congrArg rings node) (Nat.lt_of_le_of_ne hinv.status.bound room) rfl rfl rfl
    · rw [hparrotLedger, node]
      exact .works .refl rfl rfl rfl
  | parrot m enabled stored idle node books =>
    obtain ⟨hstatusLedger, hparrotLedger⟩ := ledgers_of_books books
    have hroom : d.parrotLedger.outstanding = 0 := congrArg Bool.toNat idle
    refine ⟨?_, ?_, by rw [node]; exact hinv.slot⟩
    · rw [hstatusLedger, node]
      exact .works .refl rfl rfl rfl
    · rw [hparrotLedger]
      exact .admits m (congrArg parrotRings node) (by omega) (by rw [hroom]; rfl) rfl rfl
  | reclaimStatus m rest finished node books =>
    obtain ⟨hstatusLedger, hparrotLedger⟩ := ledgers_of_books books
    refine ⟨?_, ?_, by rw [node]; exact hinv.slot⟩
    · rw [hstatusLedger]
      exact .reclaims m rest finished (congrArg rings node)
        (Nat.sub_add_cancel (hinv.status.positive finished)) rfl rfl
    · rw [hparrotLedger, node]
      exact .works .refl rfl rfl rfl
  | reclaimParrot m rest finished node books =>
    obtain ⟨hstatusLedger, hparrotLedger⟩ := ledgers_of_books books
    have hpositive : 0 < d.parrotLedger.outstanding := hinv.parrot.positive finished
    have hbound : d.parrotLedger.outstanding ≤ 1 := hinv.parrot.bound
    refine ⟨?_, ?_, by rw [node]; exact hinv.slot⟩
    · rw [hstatusLedger, node]
      exact .works .refl rfl rfl rfl
    · rw [hparrotLedger]
      exact .reclaims m rest finished (congrArg parrotRings node)
        (by dsimp only [Bool.toNat_false]; omega) rfl rfl

theorem initial_conserved (h : d.Initial) : d.Conserved := by
  obtain ⟨c, parrotEnabled, hbuilt, rfl⟩ := h
  obtain ⟨_, _, _, _, duckGain, _, _, _, heq⟩ := hbuilt.eq_initial
  have htelemetry : c.telemetry = .new duckGain := by rw [heq]; rfl
  refine ⟨.of_other rfl, ?_, ?_, ?_⟩
  · change Ledger.Balanced Matures 4 ⟨c.telemetry.rings, 0, [], []⟩
    rw [htelemetry]
    exact ⟨rfl, Nat.zero_le _, .nil⟩
  · change Ledger.Balanced Evolves 1 ⟨c.telemetry.parrotRings, 0, [], []⟩
    rw [htelemetry]
    exact ⟨rfl, Nat.zero_le _, .nil⟩
  · change c.telemetry.ParrotSlot
    rw [htelemetry]
    exact ⟨nofun, nofun⟩

theorem reachable_conserved (h : Reachable Initial Step d) : d.Conserved :=
  h.invariant (P := Conserved) (fun _ => initial_conserved) fun _ _ _ hinv hs =>
    ((step_trades hinv.ready hs).moved hinv).conserved (step_ready hinv.ready hs) hinv

/-- **Statuses are conserved**, however control's calls interleave with the parts of the ticks.

Control's count is the number of statuses in the pending ring, the slot and the completed ring, at
most four. The statuses admitted are, in this order, those returned, those in the completed ring,
the one in the slot and those pending, each once. Every move takes the oldest pending status into
the free slot, puts the slot's status into a completed ring with room, admits one or takes the
oldest finished one back, and then the count is not zero. -/
theorem status_conservation (h : Reachable Initial Step d) :
    d.node.telemetry.pending.length + d.node.telemetry.status.toList.length
        + d.node.telemetry.completed.length = d.control.outstanding
      ∧ d.control.outstanding ≤ 4
      ∧ List.Forall₂ Matures d.admitted (d.returned ++ d.node.telemetry.completed
          ++ d.node.telemetry.status.toList ++ d.node.telemetry.pending)
      ∧ ∀ a d', d.Step a d' → d.ledger.Moves Matures 4 d'.ledger := by
  have hinv := reachable_conserved h
  have hcount : (d.node.telemetry.completed ++ d.node.telemetry.status.toList
      ++ d.node.telemetry.pending).length = d.control.outstanding := hinv.status.count
  have hrecord : List.Forall₂ Matures d.admitted (d.returned ++ (d.node.telemetry.completed
      ++ d.node.telemetry.status.toList ++ d.node.telemetry.pending)) := hinv.status.record
  refine ⟨?_, hinv.status.bound, ?_, fun a d' hs => ((step_trades hinv.ready hs).moved hinv).status⟩
  · simp only [length_append] at hcount
    omega
  · simpa only [append_assoc] using hrecord

end Audio

/-- The bench node with its control owner. -/
def bench (parrotEnabled : Bool) : Desk (TestPcmStream ℚ) ℚ :=
  new (benchNode true false) parrotEnabled

theorem bench_initial (parrotEnabled : Bool) : (bench parrotEnabled).Initial :=
  ⟨_, parrotEnabled, .new (show NodeController.new _ _ _ _ true _ _ = some _ from
    if_pos (by decide)), rfl⟩

/-- A status of one sample whose polite wait is over. -/
def shortStatus : PreparedMedia (TestPcmStream ℚ) :=
  { PreparedMedia.newStream ⟨[1 / 4], [1 / 8], 0, false⟩ with
    delivery := some ⟨0, ⟨1, .morse, .wait⟩, false⟩ }

/-- A callback with one quiet sample. -/
def quietCallback : DeskMove (TestPcmStream ℚ) ℚ :=
  .callback (.processAudio false false false false [(0, 0, none)])

/-- Control queues two statuses, a callback plays the first one, and control takes it back. -/
def statusMoves : List (DeskMove (TestPcmStream ℚ) ℚ) :=
  .queuePreparedStatus shortStatus :: .queuePreparedStatus shortStatus :: quietCallback ::
    List.replicate 17 .audio ++ [.reclaimNext]

/-- One status is back and one is pending. -/
theorem status_conservation_bench : ∃ d : Desk (TestPcmStream ℚ) ℚ, Reachable Initial Step d
      ∧ d.admitted.length = 2 ∧ d.returned.length = 1
      ∧ d.node.telemetry.pending.length + d.node.telemetry.status.toList.length
        + d.node.telemetry.completed.length = 1 := by
  obtain ⟨d, hreach, hadmitted, hreturned, houtstanding⟩ :=
    exists_reachable Initial step statusMoves
    (some (bench false)) (by rintro _ ⟨⟩; exact bench_initial false) (fun d =>
      d.admitted.length = 2 ∧ d.returned.length = 1 ∧ d.control.outstanding = 1) (by decide +kernel)
  exact ⟨d, hreach, hadmitted, hreturned, (status_conservation hreach).1.trans houtstanding⟩

end Desk

end RptAdvanced.Controller
