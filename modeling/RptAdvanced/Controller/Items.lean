import RptAdvanced.Controller.Frame

/-!
# What each part of a tick leaves of the slot's item

`KeepsItem src c d`: the playback slot is held by the same source in `d` as in `c`, and the envelope
`src` plays from (and, for a tail, that it has started) is the same. A blocked tick keeps the item
whatever it receives; a quiet tick behind an open gate keeps it up to the read (`observe_keeps`,
`chooseMedia_keeps`).

`Spared w m` is what no explicit cancellation means for the item: its occurrence has not been
cancelled, its endpoint has not ended, its envelope has not been withdrawn, and no cancellation of
the slot is requested.
-/

namespace RptAdvanced.Controller

open Audio Lib Policy List Option Bool TelemetryPlanner TailPlanner

/-- Nobody has cancelled the item. -/
structure Spared {S : Type} (w : World) (m : PreparedMedia S) : Prop where
  message : w.cancelMessage = false
  occurrence : ∀ o, m.occurrence = some o → w.occurrence o ≠ .cancelled
  peer : ∀ p, m.reply = some p → (w.peer p).ended = false
  envelope : ∀ f, m.cancelWhen = some f → w.cancelled f = false

/-- An item nobody cancelled leaves the poll only when its playback has ended. -/
theorem Spared.obsolete {S : Type} {w : World} {m : PreparedMedia S} (h : Spared w m) :
    m.obsolete w = m.playback.isFinished := by
  unfold PreparedMedia.obsolete
  have ho := h.occurrence
  have hp := h.peer
  have hf := h.envelope
  rcases m with ⟨playback, available, kind, _ | p, _ | f, delivery, _ | o, policy, recipe⟩ <;>
    simp_all

namespace NodeController

variable {S F : Type}

/-- Tail `k` has put out a sample of its attempt. -/
def tailStarted (c : NodeController S F) (k : Nat) : Bool :=
  match c.tails.items[k]? with
  | none => false
  | some t => t.started

/-- `d` has the slot and the item `src` plays from as `c` has them. -/
structure KeepsItem (src : Source) (c d : NodeController S F) : Prop where
  active : d.telemetry.active = c.telemetry.active
  media : d.media (some src) = c.media (some src)
  started : ∀ k, src = .tail k → d.tailStarted k = c.tailStarted k
  world : d.world = c.world

namespace KeepsItem

variable {src : Source} {c d e : NodeController S F}

theorem refl (c : NodeController S F) : KeepsItem src c c := ⟨rfl, rfl, fun _ _ => rfl, rfl⟩

theorem trans (h : KeepsItem src c d) (k : KeepsItem src d e) :
    KeepsItem src c e :=
  ⟨k.active.trans h.active, k.media.trans h.media,
    fun i hi => (k.started i hi).trans (h.started i hi), k.world.trans h.world⟩

theorem ite {p : Prop} [Decidable p] (h : KeepsItem src c d)
    (k : KeepsItem src c e) : KeepsItem src c (if p then d else e) := by
  split <;> assumption

/-- The parts of the state an item is read from, each as it was. -/
theorem of_parts {c d : NodeController S F} (ht : d.telemetry = c.telemetry)
    (hc : d.courtesy.media = c.courtesy.media) (hi : d.ids = c.ids)
    (ha : d.announcements.map AnnouncementState.media = c.announcements.map AnnouncementState.media)
    (hm : d.tails.items = c.tails.items) (hw : d.world = c.world) : KeepsItem src c d := by
  refine ⟨by rw [ht], ?_, fun k _ => by unfold tailStarted; rw [hm], hw⟩
  unfold NodeController.media
  cases src with
  | status => simp only [ht]
  | parrot => simp only [ht]
  | courtesy k => simp only [hc]
  | identifier k => simp only [hi]
  | announcement k =>
    have := congrArg (·[k]?) ha
    simpa only [getElem?_map] using this
  | tail k => simp only [hm]

end KeepsItem

/-! ## Observation -/

theorem courtesy_cancel_media (p : CourtesyPlanner S) (source : String) :
    (p.cancel source).media = p.media := by
  unfold CourtesyPlanner.cancel
  split
  · rfl
  split
  · rfl
  · split <;> rfl

theorem courtesy_schedule_media (p : CourtesyPlanner S) (source selected : String) (due : Nat) :
    (p.schedule source selected due).media = p.media := by
  unfold CourtesyPlanner.schedule
  split <;> rfl

variable {src : Source} (c : NodeController S F) (i : StepInput F)

theorem noteReceive_keeps (idle : Nat) : KeepsItem src c (c.noteReceive i idle) := by
  refine .ite ?_ (.refl c)
  dsimp only
  split <;> exact .of_parts rfl rfl rfl rfl rfl rfl

theorem noteKey_keeps : KeepsItem src c (c.noteKey i) := by
  exact .ite (.of_parts rfl (courtesy_cancel_media _ _) rfl rfl rfl rfl) (.refl c)

theorem receiveUnkeyed_keeps (kerchunk : Bool) : KeepsItem src c (c.receiveUnkeyed kerchunk) := by
  exact .ite (.of_parts rfl rfl rfl rfl rfl rfl) (.of_parts rfl rfl rfl rfl rfl rfl)

theorem noteUnkey_keeps : KeepsItem src c (c.noteUnkey i) := by
  refine .ite ?_ (.refl c)
  have hedge : KeepsItem src c { c with receiverUnkey := c.now } :=
    KeepsItem.of_parts rfl rfl rfl rfl rfl rfl
  have hunkey := hedge.trans (receiveUnkeyed_keeps { c with receiverUnkey := c.now }
    (c.settings.kerchunkMaxMs != 0 &&
      decide (c.now - c.receiverKey ≤ samples c.settings.kerchunkMaxMs)))
  exact .ite hunkey (hunkey.trans (.of_parts rfl (courtesy_schedule_media _ _ _ _) rfl rfl rfl rfl))

theorem noteSuppressed_keeps : KeepsItem src c (c.noteSuppressed i) := by
  refine .ite (.of_parts rfl rfl rfl ?_ rfl rfl) (.refl c)
  rw [List.map_map]
  refine List.map_congr_left fun a _ => ?_
  simp only [Function.comp]
  split <;> rfl

theorem noteParrot_keeps : KeepsItem src c (c.noteParrot i) := by
  unfold noteParrot discardPendingParrot
  refine .ite ?_ (.refl c)
  split
  · exact .refl c
  · exact ⟨rfl, by cases src <;> rfl, fun _ _ => rfl, rfl⟩

theorem arm_media (now : Nat) (suppressed : Bool) (t : TailState S) :
    (arm now suppressed t).media = t.media ∧ (arm now suppressed t).started = t.started := by
  unfold arm
  split <;> split <;> exact ⟨rfl, rfl⟩

theorem clearRelease_keeps : KeepsItem src c (c.clearRelease i) := by
  exact .ite (.of_parts rfl rfl rfl rfl rfl rfl) (.refl c)

theorem admitRelease_keeps (rel : Release) : KeepsItem src c (c.admitRelease i rel) := by
  exact .ite (.of_parts rfl rfl rfl rfl rfl rfl) (.refl c)

theorem mapPlayback_media (src : Source) (f : Playback S → Playback S) :
    (c.mapPlayback (some src) f).media (some src) =
      (c.media (some src)).map fun m => m.withPlayback (f m.playback) := by
  unfold mapPlayback NodeController.media
  cases src with
  | status => rfl
  | parrot => rfl
  | courtesy k => simp
  | identifier k | announcement k | tail k => simp [Option.map_map, Function.comp_def]

theorem mapPlayback_tailStarted (src : Source) (f : Playback S → Playback S) (k : Nat) :
    (c.mapPlayback (some src) f).tailStarted k = c.tailStarted k := by
  unfold mapPlayback tailStarted
  cases src with
  | tail j =>
    simp only [getElem?_modify]
    cases c.tails.items[k]? with
    | none => rfl
    | some t => by_cases h : j = k <;> simp [h]
  | _ => rfl

theorem mapPlayback_active (src : Source) (f : Playback S → Playback S) :
    (c.mapPlayback (some src) f).telemetry.active = c.telemetry.active ∧
      (c.mapPlayback (some src) f).world = c.world := by
  cases src <;> exact ⟨rfl, rfl⟩

/-- A tail whose delay starts at this unkey is otherwise as it was. -/
theorem unkeyed_keeps (now : Nat) : KeepsItem src c { c with tails := c.tails.unkeyed now } := by
  have hitem : ∀ k : Nat, ((c.tails.unkeyed now).items[k]?).map (fun t => (t.media, t.started)) =
      (c.tails.items[k]?).map fun t => (t.media, t.started) := by
    intro k
    unfold unkeyed
    split
    · split
      · rfl
      rename_i j _
      simp only [getElem?_modify]
      cases c.tails.items[k]? with
      | none => rfl
      | some t => by_cases h : j = k <;> simp [h]
    · rfl
  refine ⟨rfl, ?_, fun k _ => ?_, rfl⟩
  · cases src with
    | tail k =>
      have := congrArg (Option.map Prod.fst) (hitem k)
      simpa [NodeController.media, Option.map_map, Function.comp_def] using this
    | _ => rfl
  · have := hitem k
    unfold tailStarted
    revert this
    cases (c.tails.unkeyed now).items[k]? <;> cases c.tails.items[k]? <;> simp

/-- The end of a tick: the slot's side as it was, and the tails' unkey when PTT is off. -/
theorem KeepsItem.of_release {c d : NodeController S F} (ht : d.telemetry = c.telemetry)
    (hc : d.courtesy.media = c.courtesy.media) (hi : d.ids = c.ids)
    (ha : d.announcements.map AnnouncementState.media = c.announcements.map AnnouncementState.media)
    (keyed : Bool) (hm : d.tails = if keyed then c.tails else c.tails.unkeyed c.now)
    (hw : d.world = c.world) : KeepsItem src c d := by
  have hparts : KeepsItem src c { d with tails := c.tails } :=
    KeepsItem.of_parts ht hc hi ha rfl hw
  cases keyed with
  | true =>
    have : d = { d with tails := c.tails } := by
      rw [show c.tails = d.tails from hm.symm]
    rwa [this]
  | false =>
    have hrelease := hparts.trans (unkeyed_keeps { d with tails := c.tails } c.now)
    have : d = { d with tails := c.tails.unkeyed c.now } := by
      rw [show c.tails.unkeyed c.now = d.tails from hm.symm]
    rwa [this]

theorem settleKeying_keeps (a : Admission) (r : Rendered F)
    (d : Demand) : KeepsItem src c (c.settleKeying a r d) := by
  refine .of_release rfl rfl rfl ?_ (c.settleKeying a r d).keyed rfl rfl
  have hmark : ∀ b : Bool, (if b then c.announcements.map fun x =>
      if x.intervalMs = 0 then { x with releasePending := true } else x
      else c.announcements).map AnnouncementState.media =
        c.announcements.map AnnouncementState.media := by
    intro b
    cases b with
    | false => rfl
    | true =>
      rw [if_pos rfl, List.map_map]
      refine List.map_congr_left fun x _ => ?_
      simp only [Function.comp]
      split <;> rfl
  exact hmark _

theorem stepGain_keeps [Pcm F] : KeepsItem src c (c.stepGain i) := by
  refine .ite ⟨rfl, ?_, fun _ _ => rfl, rfl⟩ (.refl c)
  cases src <;> rfl

variable [PcmStreamReader S F]

variable {c : NodeController S F}



theorem pollPending_parrot (w : World) (t : TelemetryPlanner S F) (q : List (PreparedMedia S)) :
    (pollPending w t q).parrot = t.parrot := by
  induction q generalizing t with
  | nil => rfl
  | cons m rest ih =>
    unfold pollPending
    split
    · exact ih _
    · rfl

variable {m : PreparedMedia S}

/-- A poll keeps an item that nobody cancelled and that has not ended. -/
theorem pollStatus_keeps (hactive : c.telemetry.active = some src)
    (hmedia : c.media (some src) = some m)
    (hspared : Spared c.world m) (hlive : m.playback.isFinished = false) :
    KeepsItem src c c.pollStatus := by
  by_cases hs : src = .status
  · subst hs
    have hstatus : c.telemetry.status = some m := hmedia
    have hsame : c.telemetry.pollStatus c.world = c.telemetry := by
      unfold TelemetryPlanner.pollStatus
      rw [hstatus]
      dsimp only
      rw [if_neg (by rw [hspared.obsolete, hlive]; simp)]
    unfold NodeController.pollStatus
    rw [hsame]
    exact .refl c
  · have hkeep : (c.telemetry.pollStatus c.world).active = c.telemetry.active := by
      rcases pollStatus_active c.world c.telemetry with h | ⟨_, h⟩
      · exact h
      · exact absurd (Option.some.inj (hactive.symm.trans h)) hs
    have hparrot : (c.telemetry.pollStatus c.world).parrot = c.telemetry.parrot := by
      unfold TelemetryPlanner.pollStatus
      split
      · exact pollPending_parrot _ _ _
      split
      · exact pollPending_parrot _ _ _
      · rfl
    refine ⟨hkeep, ?_, fun _ _ => rfl, rfl⟩
    cases src with
    | status => exact absurd rfl hs
    | parrot => exact hparrot
    | _ => rfl

/-- Observation keeps a started tail, unless traffic meets it where it may play. -/
theorem tails_observe_started (p : TailPlanner S) {active allowed : Bool} (now hang : Nat)
    (suppressed : Bool) (hquiet : active = false ∨ allowed = false) {k : Nat} {t : TailState S}
    (ht : p.items[k]? = some t) (hs : t.started = true) :
    ∃ t', (p.observe active now hang suppressed allowed).items[k]? = some t' ∧
      t'.media = t.media ∧ t'.started = true := by
  unfold TailPlanner.observe
  split
  · rename_i ha
    have hallowed : allowed = false := by simpa [ha] using hquiet
    subst hallowed
    refine ⟨t, ?_, rfl, hs⟩
    simp [ht, interrupt, hs]
  · split
    · obtain ⟨hm, hst⟩ := arm_media now suppressed t
      exact ⟨_, by simp only [getElem?_map, ht, map_some], hm, hst.trans hs⟩
    · exact ⟨t, ht, rfl, hs⟩

variable (o : Observed)

/-- Tails and their traffic keep the slot's item: a tail must have started. -/
theorem observeTails_keeps
    (hactive : c.telemetry.active = some src) (hmedia : c.media (some src) = some m)
    (hquiet : i.activity = false ∨ c.timeout.blocked = true)
    (hstarted : ∀ k, src = .tail k → c.tailStarted k = true) :
    KeepsItem src c (c.observeTails i) := by
  have hallowed : i.activity = false ∨ (!c.timeout.blocked) = false := by simpa using hquiet
  set p := c.tails.observe i.activity c.now (samples c.settings.hangMs) c.suppressRelease
    (!c.timeout.blocked) with hp
  by_cases htail : ∃ k, src = .tail k
  · obtain ⟨k, rfl⟩ := htail
    have hs := hstarted k rfl
    obtain ⟨t, ht⟩ : ∃ t, c.tails.items[k]? = some t := by
      unfold tailStarted at hs
      cases h : c.tails.items[k]? with
      | none => rw [h] at hs; exact absurd hs (by simp)
      | some t => exact ⟨t, rfl⟩
    have hst : t.started = true := by
      unfold tailStarted at hs
      rwa [ht] at hs
    obtain ⟨t', ht', hm, hst'⟩ := tails_observe_started c.tails c.now (samples c.settings.hangMs)
      c.suppressRelease hallowed ht hst
    have hobserve : c.observeTails i = { c with tails := p } := by
      unfold observeTails
      simp only [hactive]
      rw [if_neg]
      rw [ht']
      simp [hst']
    rw [hobserve]
    refine ⟨rfl, ?_, fun k' hk => ?_, rfl⟩
    · change (p.items[k]?).map TailState.media = (c.tails.items[k]?).map TailState.media
      rw [ht', ht, map_some, map_some, hm]
    · obtain rfl : k = k' := by simpa using hk
      unfold tailStarted
      rw [ht', ht]
      exact hst'.trans hst.symm
  · have hobserve : c.observeTails i = { c with tails := p } := by
      unfold observeTails
      simp only [hactive]
      split
      · rename_i k hk
        exact absurd ⟨k, Option.some.inj hk⟩ htail
      · rfl
    rw [hobserve]
    refine ⟨rfl, ?_, fun k hk => absurd ⟨k, hk⟩ htail, rfl⟩
    cases src with
    | tail k => exact absurd ⟨k, rfl⟩ htail
    | _ => rfl

/-- The slot's item, held by a source that nobody cancelled. -/
structure Holds (src : Source) (m : PreparedMedia S) (c : NodeController S F) : Prop where
  active : c.telemetry.active = some src
  media : c.media (some src) = some m
  started : ∀ k, src = .tail k → c.tailStarted k = true
  spared : Spared c.world m
  live : m.playback.isFinished = false

omit [PcmStreamReader S F] in
theorem Holds.keep {c d : NodeController S F} (h : Holds src m c)
    (k : KeepsItem src c d) : Holds src m d where
  active := k.active.trans h.active
  media := k.media.trans h.media
  started i hi := (k.started i hi).trans (h.started i hi)
  spared := k.world ▸ h.spared
  live := h.live

/-- **Observation keeps the slot's item**, when the gate is blocked or the tick is quiet. -/
theorem observe_keeps (h : Holds src m c) (hquiet : c.timeout.blocked = true ∨
      (i.activity = false ∧ (src = .status → c.pollStatus.statusIdle i = true))) :
    KeepsItem src c (c.observe i).1 := by
  unfold observe
  dsimp only
  rw [takeCancel, if_neg (by simp [h.spared.message])]
  have hpoll := pollStatus_keeps h.active h.media h.spared h.live
  have hhold : c.pollStatus.holdStatus (c.pollStatus.statusIdle i) = c.pollStatus := by
    unfold holdStatus
    split
    · rfl
    rcases hquiet with hb | ⟨_, hidle⟩
    · simp [show c.pollStatus.timeout.blocked = true from hb]
    by_cases hs : src = .status
    · simp [hidle hs]
    · simp [hpoll.active, h.active, hs]
  rw [hhold]
  set received := c.pollStatus.noteReceive i (c.pollStatus.now - c.pollStatus.lastActivity)
    with hreceived
  set edges := ((received.noteKey i).noteUnkey i).noteSuppressed i with hedges
  have hkeep : KeepsItem src c edges :=
    (((hpoll.trans (noteReceive_keeps _ i _)).trans (noteKey_keeps _ i)).trans
      (noteUnkey_keeps _ i)).trans (noteSuppressed_keeps _ i)
  have hblocked : edges.timeout.blocked = c.timeout.blocked := by
    have hcore :=
      ((pollStatus_core c).trans (noteReceive_core _ i _)).trans (noteKey_core received i)
    have hobserve := Observes.of_core hcore (noteUnkey_observes _ i) (noteSuppressed_core _ i)
    exact hobserve.blocked
  have hheld := h.keep hkeep
  have htails : KeepsItem src edges (edges.observeTails i) := by
    refine observeTails_keeps i hheld.active hheld.media ?_ hheld.started
    rw [hblocked]
    exact hquiet.symm.imp And.left id
  have hflags : KeepsItem src (edges.observeTails i)
      { edges.observeTails i with receiver := i.receiving, linked := i.linked } :=
    KeepsItem.of_parts rfl rfl rfl rfl rfl rfl
  exact ((hkeep.trans htails).trans hflags).trans (noteParrot_keeps _ i)

/-! ## Choice -/

/-- The start deadline of the item, if it has one that still matters, has not passed. -/
def InTime (now : Nat) (m : PreparedMedia S) : Prop :=
  ∀ d, m.delivery = some d → m.playback.hasOutput = true ∨ d.selected = true ∨ now < d.deadline

theorem expire_inTime {now : Nat} (h : InTime now m)
    (allowed busy primaryReady : Bool) : m.expire now allowed busy primaryReady = m := by
  unfold PreparedMedia.expire
  split
  · rfl
  rename_i d hd
  rcases h d hd with h | h | h
  · simp [h]
  · simp [h]
  · simp [PreparedMedia.startsInTime, h]

/-- Expiry keeps an item that is in time. -/
theorem expireStatuses_keeps
    (g : Gate) (h : Holds src m c) (htime : src = .status → InTime c.now m) :
    KeepsItem src c (c.expireStatuses o g) := by
  set e : NodeController S F := { c with
    telemetry := c.telemetry.expireStatus c.now g.mayTransmit g.courtesyReady
      (o.statusIdle && g.settled) } with he
  have hexpire : KeepsItem src c e := by
    refine ⟨rfl, ?_, fun _ _ => rfl, rfl⟩
    cases src with
    | status =>
      have hstatus : c.telemetry.status = some m := h.media
      change c.telemetry.status.map _ = c.telemetry.status
      rw [hstatus, map_some, expire_inTime (htime rfl)]
    | _ => rfl
  have hheld := h.keep hexpire
  exact hexpire.trans (pollStatus_keeps hheld.active hheld.media hheld.spared hheld.live)

/-- A free slot is what starts something: an occupied one only yields a tail to an identifier. -/
theorem startSlot_held (g : Gate) (rel : Release)
    (q : Readiness) (selected : Option Nat) (h : c.telemetry.active = some src)
    (htail : ∀ k, src = .tail k → selected = none) : c.startSlot i g rel q selected = c := by
  have hpre : (if (g.mayTransmit && selected.isSome && i.input.isSome) = true then c.preemptTail
      else c) = c := by
    split
    · rename_i hselect
      unfold preemptTail
      rw [h]
      split
      · rename_i k hk
        simp [htail k (Option.some.inj hk)] at hselect
      · rfl
    · rfl
  unfold startSlot
  rw [hpre]
  simp [h]

/-- Up to the start of telemetry nothing takes an occupied slot. -/
theorem admitTelemetry_keeps (h : Holds src m c) (htime : src = .status → InTime c.now m) :
    KeepsItem src c (((c.expireStatuses o (c.gate i)).clearRelease i).admitRelease i
        (((c.expireStatuses o (c.gate i)).clearRelease i).releaseState i)) ∧
      (c.admitTelemetry i o).1 = ((c.expireStatuses o (c.gate i)).clearRelease i).admitRelease i
        (((c.expireStatuses o (c.gate i)).clearRelease i).releaseState i) := by
  have hreleased := ((expireStatuses_keeps o (c.gate i) h htime).trans
    (clearRelease_keeps _ i)).trans (admitRelease_keeps _ i
      (((c.expireStatuses o (c.gate i)).clearRelease i).releaseState i))
  exact ⟨hreleased, if_neg (by simp [(h.keep hreleased).active])⟩

/-- **The choice of what plays keeps the slot's item.** -/
theorem chooseMedia_keeps (h : Holds src m c) (htime : src = .status → InTime c.now m)
    (htail : ∀ k, src = .tail k → (c.admitIdentifier i o).2 = none) :
    KeepsItem src c (c.chooseMedia i o).1 := by
  obtain ⟨hreleased, hstarted⟩ := admitTelemetry_keeps i o h htime
  have harmed : KeepsItem src c (c.admitIdentifier i o).1 := by
    unfold admitIdentifier
    dsimp only
    rw [hstarted]
    unfold armIdentifier
    dsimp only
    split
    · exact hreleased.trans (.of_parts rfl rfl rfl rfl rfl rfl)
    · exact hreleased
  unfold chooseMedia
  dsimp only
  rwa [startSlot_held i _ _ _ _ (h.keep harmed).active htail]

omit [PcmStreamReader S F] in
theorem Holds.playsPeerReply (h : Holds src m c) :
    c.telemetry.playsPeerReply = (src == .status && m.isPeerReply) := by
  unfold TelemetryPlanner.playsPeerReply
  rw [h.active]
  by_cases hs : src = .status
  · subst hs
    rw [show c.telemetry.status = some m from h.media]
    rfl
  · have hne : (src == Source.status) = false := beq_false_of_ne hs
    have hne' : (some src == some Source.status) = false := hne
    rw [hne, hne', Bool.false_and, Bool.false_and]

omit [PcmStreamReader S F] in
theorem Holds.peerStatus (h : Holds .status m c) : c.telemetry.peerStatus = m.reply := by
  unfold TelemetryPlanner.peerStatus
  rw [show c.telemetry.status = some m from h.media, bind_some]

omit [PcmStreamReader S F] in
theorem Holds.peerReady (h : Holds .status m c)
    {p : Nat} (hp : m.reply = some p) : c.peerReady = !(c.world.peer p).active := by
  unfold NodeController.peerReady
  rw [h.peerStatus, hp]

/-- The admission of a tick that finds the slot held. -/
theorem chooseMedia_peerStatus (h : Holds src m c) (htime : src = .status → InTime c.now m) :
    (c.chooseMedia i o).2.peerStatus = (src == .status && m.isPeerReply) := by
  obtain ⟨hreleased, hstarted⟩ := admitTelemetry_keeps i o h htime
  change (c.admitTelemetry i o).1.telemetry.playsPeerReply = _
  rw [hstarted]
  exact (h.keep hreleased).playsPeerReply

/-- An addressed reply is ready while its peer is not keyed. -/
theorem chooseMedia_peerReady (h : Holds .status m c) (htime : InTime c.now m) {p : Nat}
    (hp : m.reply = some p) : (c.chooseMedia i o).2.peerReady = !(c.world.peer p).active := by
  obtain ⟨hreleased, _⟩ := admitTelemetry_keeps i o h fun _ => htime
  rw [← hreleased.world]
  exact (h.keep hreleased).peerReady hp

end NodeController

end RptAdvanced.Controller
