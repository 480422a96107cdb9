import RptAdvanced.Controller.Step
import RptAdvanced.Policy.IdentifierRuns

/-!
# What each part of a tick leaves alone

`SameCore c d`: the transmitter side of the controller (settings, watchdog, notices, clock, traffic,
the receiver, the inhibit flag) is the same in `d` as in `c`, and the `Book` of the identifiers and
their times has only entries more. Choosing and playing media never touches it: `chooseMedia_core`,
`renderSlot_core` and `noteRendered_core` hold of every tick.
Observation touches it only on the local receiver's falling edge: `observe_observes`.
-/

namespace RptAdvanced.Controller

open Audio Lib Policy IdentifierPolicy

namespace NodeController

variable {S F : Type}

/-- The identifier rules, those of the identifiers themselves, and the times kept of them and of the
last audio. -/
structure Book where
  rules : List IdentifierRule
  own : List IdentifierRule
  identifiers : IdentifierPolicy
  satisfied : List Nat
  firstDue : List Nat
  lastAudio : Nat

def book (c : NodeController S F) : Book :=
  ⟨c.rules, c.ids.map Identifier.rule, c.identifiers, c.satisfied, c.firstDue, c.duplex.lastAudio⟩

/-- What the controller enters with a call of the policy: the times of a completion, and the due
time of an armed rule. -/
def Book.note (b : Book) : IdentifierCall → Book
  | .complete k now =>
    { b with
      identifiers := b.identifiers.complete b.rules k now
      satisfied := match b.own[k]? with
        | none => b.satisfied
        | some chosen => b.satisfied.mapIdx fun i s =>
          if decide (i < b.own.length) && covers b.own k chosen i then now else s }
  | .firstKey idle now =>
    { b with
      identifiers := (b.identifiers.firstKey b.rules idle now).2
      firstDue := match (b.identifiers.firstKey b.rules idle now).1 with
        | none => b.firstDue
        | some k => b.firstDue.set k now }
  | c => { b with identifiers := b.identifiers.call b.rules c }

/-- An entry of a part of a step at `now`. -/
inductive Entry (now : Nat) (b : Book) : Book → Prop
  | note (c : IdentifierCall) (h : ∀ t ∈ c.time?, t = now) : Entry now b (b.note c)
  | audio (time : Nat) (h : time ≤ max b.lastAudio now) : Entry now b { b with lastAudio := time }

/-- The book after any entries at `now`. -/
abbrev Entries (now : Nat) : Book → Book → Prop := Relation.ReflTransGen (Entry now)

/-- `d` has the transmitter side of `c`, and its book after some entries. -/
structure SameCore (c d : NodeController S F) : Prop where
  settings : d.settings = c.settings
  remoteNonFm : d.remoteNonFm = c.remoteNonFm
  timeout : d.timeout = c.timeout
  timeoutMedia : d.timeoutMedia = c.timeoutMedia
  now : d.now = c.now
  trafficKeyed : d.trafficKeyed = c.trafficKeyed
  receiver : d.receiver = c.receiver
  siteInhibit : d.world.siteInhibit = c.world.siteInhibit
  book : Entries c.now c.book d.book

namespace SameCore

theorem refl (c : NodeController S F) : SameCore c c :=
  ⟨rfl, rfl, rfl, rfl, rfl, rfl, rfl, rfl, .refl⟩

variable {c d e : NodeController S F}

theorem trans (h : SameCore c d) (k : SameCore d e) : SameCore c e where
  settings := k.settings.trans h.settings
  remoteNonFm := k.remoteNonFm.trans h.remoteNonFm
  timeout := k.timeout.trans h.timeout
  timeoutMedia := k.timeoutMedia.trans h.timeoutMedia
  now := k.now.trans h.now
  trafficKeyed := k.trafficKeyed.trans h.trafficKeyed
  receiver := k.receiver.trans h.receiver
  siteInhibit := k.siteInhibit.trans h.siteInhibit
  book := h.book.trans (h.now ▸ k.book)

variable {c d : NodeController S F}

theorem transmitsDuringReceive (h : SameCore c d) :
    d.transmitsDuringReceive = c.transmitsDuringReceive := by
  unfold NodeController.transmitsDuringReceive
  rw [h.settings, h.remoteNonFm]

theorem repeatsLocal (h : SameCore c d) : d.repeatsLocal = c.repeatsLocal := by
  unfold NodeController.repeatsLocal
  rw [h.settings, h.remoteNonFm]

theorem timeoutSamples (h : SameCore c d) : d.timeoutSamples = c.timeoutSamples := by
  unfold NodeController.timeoutSamples
  rw [h.settings]

theorem ite {p : Prop} [Decidable p] (h : SameCore c d)
    (k : SameCore c e) : SameCore c (if p then d else e) := by
  split
  · exact h
  · exact k

end SameCore

/-! ## Media and the slot -/

variable (c : NodeController S F) (i : StepInput F)

variable (source : Option Source)

theorem setActive_core : SameCore c (c.setActive source) := by
  constructor <;> rfl

theorem mapPlayback_core (f : Playback S → Playback S) : SameCore c (c.mapPlayback source f) := by
  cases source with
  | none => exact SameCore.refl c
  | some source =>
    cases source with
    | identifier index =>
      have hown : (c.mapPlayback (some (.identifier index)) f).ids.map Identifier.rule =
          c.ids.map Identifier.rule := by
        ext1 j
        by_cases hj : index = j <;> cases hid : c.ids[j]? <;>
          simp [mapPlayback, hj, hid, Identifier.rule]
      refine ⟨rfl, rfl, rfl, rfl, rfl, rfl, rfl, rfl, ?_⟩
      unfold book
      rw [hown]
      rfl
    | _ => constructor <;> rfl

theorem satisfyIdentifier_core (index : Nat) : SameCore c (c.satisfyIdentifier index) := by
  refine ⟨rfl, rfl, rfl, rfl, rfl, rfl, rfl, rfl, ?_⟩
  have hbook : (c.satisfyIdentifier index).book = c.book.note (.complete index c.now) := by
    unfold satisfyIdentifier book Book.note
    congr 1
    cases hk : c.ids[index]? with
    | none => exact List.ext_getElem? fun i => by simp [hk]
    | some chosen =>
      simp only [List.getElem?_map, hk, Option.map_some]
      refine congrArg (List.mapIdx · _) (funext₂ fun i s => ?_)
      rcases lt_or_ge i c.ids.length with hi | hi <;>
        grind [covers, Identifier.rule]
  exact hbook ▸ .single (.note _ (by simp [IdentifierCall.time?]))

theorem noteReceive_core (idle : Nat) : SameCore c (c.noteReceive i idle) := by
  refine .ite ?_ (.refl c)
  dsimp only
  split <;> constructor <;> first | rfl | exact .single (.note .activity nofun)

theorem noteKey_core : SameCore c (c.noteKey i) := by
  exact .ite (by constructor <;> rfl) (.refl c)

theorem noteSuppressed_core : SameCore c (c.noteSuppressed i) := by
  exact .ite (by constructor <;> rfl) (.refl c)

theorem noteParrot_core : SameCore c (c.noteParrot i) := by
  exact .ite (by constructor <;> rfl) (.refl c)

theorem armIdentifier_core (idle : Nat) (g : Gate)
    (rel : Release) (q : Readiness) (activeStream : Bool) :
    SameCore c (c.armIdentifier i idle g rel q activeStream).1 := by
  unfold armIdentifier
  dsimp only
  split
  · constructor <;> first | rfl | exact .single (.note (.firstKey _ _) (by rintro _ ⟨⟩; rfl))
  · exact .refl c

theorem clearRelease_core : SameCore c (c.clearRelease i) := by
  exact .ite (by constructor <;> rfl) (.refl c)

theorem admitRelease_core (rel : Release) : SameCore c (c.admitRelease i rel) := by
  exact .ite (by constructor <;> rfl) (.refl c)

theorem noteRendered_core (r : Rendered F) : SameCore c (c.noteRendered r) := by
  have hstarted : SameCore c (c.noteStarted r) := by
    unfold noteStarted
    split <;> constructor <;> rfl
  exact hstarted.trans (.ite (by constructor <;> rfl) (.refl _))

variable [PcmStreamReader S F]

theorem satisfyRecipe_core (recipe : Nat) : SameCore c (c.satisfyRecipe recipe) := by
  unfold satisfyRecipe
  split
  · exact .refl c
  · exact (mapPlayback_core c _ _).trans (satisfyIdentifier_core _ _)

theorem completeRecipeTail_core (recipe : Nat) : SameCore c (c.completeRecipeTail recipe) := by
  unfold completeRecipeTail
  split
  · exact .refl c
  rename_i index _
  refine (mapPlayback_core c (some (.tail index)) Playback.cancel).trans ?_
  constructor <;> rfl

theorem completePlayback_core
    (outcome : PlaybackOutcome) : SameCore c (c.completePlayback source outcome) := by
  unfold completePlayback
  split
  · exact .refl c
  · exact .refl c
  · refine .ite (satisfyIdentifier_core c _) ?_
    constructor <;> first | rfl | exact .single (.note (.defer _ _) (by rintro _ ⟨⟩; rfl))
  · constructor <;> rfl
  · -- the recipe's identifier and tail, then the envelope itself
    dsimp only
    split
    · rename_i recipe _
      refine ((satisfyRecipe_core c recipe).trans (completeRecipeTail_core _ recipe)).trans ?_
      constructor <;> rfl
    · constructor <;> rfl
  · constructor <;> rfl
  · constructor <;> rfl

/-! ## Observation -/

theorem takeCancel_core : SameCore c c.takeCancel := by
  refine .ite ?_ (.refl c)
  have hflag : SameCore c
      ({ c with world := { c.world with cancelMessage := false } }.setActive none) := by
    constructor <;> rfl
  dsimp only
  split
  · exact hflag
  · exact (hflag.trans (mapPlayback_core _ _ _)).trans (completePlayback_core _ _ _)

theorem pollStatus_core : SameCore c c.pollStatus := by
  constructor <;> rfl

theorem holdStatus_core (idle : Bool) : SameCore c (c.holdStatus idle) := by
  unfold holdStatus
  split
  · exact .refl c
  · exact .ite (by constructor <;> rfl) (.refl c)

theorem observeTails_core : SameCore c (c.observeTails i) := by
  unfold observeTails
  dsimp only
  split
  · refine .ite ?_ ?_ <;> constructor <;> rfl
  · constructor <;> rfl

/-- What observation does to the transmitter side: the local receiver's falling edge restarts the
watchdog interval, and nothing else happens to it. -/
def Observes (c : NodeController S F) (i : StepInput F) (d : NodeController S F) : Prop :=
  SameCore { c with
    timeout := if !i.receiving && c.receiver then c.timeout.unkey c.now else c.timeout
    receiver := d.receiver } d

omit [PcmStreamReader S F] in
theorem Observes.blocked {c d : NodeController S F} {i : StepInput F} (h : Observes c i d) :
    d.timeout.blocked = c.timeout.blocked := by
  unfold TimeoutPolicy.blocked
  rw [h.timeout]
  split <;> rfl

omit [PcmStreamReader S F] in
theorem Observes.of_core {b c d e : NodeController S F} {i : StepInput F} (h : SameCore b c)
    (k : Observes c i d) (l : SameCore d e) : Observes b i e where
  settings := l.settings.trans (k.settings.trans h.settings)
  remoteNonFm := l.remoteNonFm.trans (k.remoteNonFm.trans h.remoteNonFm)
  timeout := by rw [l.timeout, k.timeout, h.timeout, h.receiver, h.now]
  timeoutMedia := l.timeoutMedia.trans (k.timeoutMedia.trans h.timeoutMedia)
  now := l.now.trans (k.now.trans h.now)
  trafficKeyed := l.trafficKeyed.trans (k.trafficKeyed.trans h.trafficKeyed)
  receiver := rfl
  siteInhibit := l.siteInhibit.trans (k.siteInhibit.trans h.siteInhibit)
  book := h.book.trans ((h.now ▸ k.book).trans (h.now ▸ k.now ▸ l.book))

omit [PcmStreamReader S F] in
theorem noteUnkey_observes : Observes c i (c.noteUnkey i) := by
  unfold noteUnkey receiveUnkeyed
  by_cases h : (!i.receiving && c.receiver) = true
  · simp only [if_pos h]
    split <;> constructor <;> first | rfl | exact .single (.audio 0 (Nat.zero_le _)) | simp [h]
  · simp only [if_neg h]
    constructor <;> first | rfl | simp [h]

/-- **Observation** touches the transmitter side only on the local falling edge. -/
theorem observe_observes : Observes c i (c.observe i).1 := by
  unfold observe
  set held := c.takeCancel.pollStatus.holdStatus (c.takeCancel.pollStatus.statusIdle i) with hheld
  have hbefore : SameCore c ((held.noteReceive i (held.now - held.lastActivity)).noteKey i) :=
    ((((takeCancel_core c).trans (pollStatus_core _)).trans (holdStatus_core _ _)).trans
      (noteReceive_core _ i _)).trans (noteKey_core _ i)
  have hafter := (noteSuppressed_core
      (((held.noteReceive i (held.now - held.lastActivity)).noteKey i).noteUnkey i) i).trans
    (observeTails_core _ i)
  have hedge := Observes.of_core hbefore (noteUnkey_observes _ i) hafter
  have hflags : Observes c i { ((((held.noteReceive i (held.now - held.lastActivity)).noteKey
      i).noteUnkey i).noteSuppressed i).observeTails i with
        receiver := i.receiving, linked := i.linked } := { hedge with receiver := rfl }
  exact .of_core (.refl c) hflags (noteParrot_core _ i)

/-! ## Choosing what plays -/

theorem startReady_core (courtesy status parrot : Bool) :
    SameCore c (c.startReady courtesy status parrot) := by
  unfold startReady
  split
  · split
    · constructor <;> rfl
    · dsimp only
      split <;> constructor <;> rfl
  · split
    · constructor <;> rfl
    split
    · constructor <;> rfl
    · exact .refl c

theorem preemptTail_core : SameCore c c.preemptTail := by
  unfold preemptTail
  split
  · split
    · exact setActive_core c _
    · constructor <;> rfl
  · exact .refl c

theorem startPlanned_core (receive pendingStatus : Bool) (selected announcementDue : Option Nat) :
    SameCore c (c.startPlanned receive pendingStatus selected announcementDue) := by
  unfold startPlanned
  split
  · split
    · exact setActive_core c _
    · exact (mapPlayback_core c _ _).trans (setActive_core _ _)
  split
  · constructor <;> rfl
  refine .ite ?_ (.refl c)
  split
  · exact setActive_core c _
  split
  · exact setActive_core c _
  · constructor <;> rfl

theorem startSlot_core (g : Gate) (rel : Release)
    (q : Readiness) (selected : Option Nat) : SameCore c (c.startSlot i g rel q selected) := by
  have hpre : SameCore c
      (if g.mayTransmit && selected.isSome && i.input.isSome then c.preemptTail else c) :=
    SameCore.ite (preemptTail_core c) (.refl c)
  exact .ite (hpre.trans (startPlanned_core _ _ _ _ _)) hpre

theorem startTelemetry_core (g : Gate) (q : Readiness) : SameCore c (c.startTelemetry g q) := by
  exact .ite (startReady_core c _ _ _) (.refl c)

theorem expireStatuses_core (o : Observed) (g : Gate) : SameCore c (c.expireStatuses o g) := by
  constructor <;> rfl

theorem admitTelemetry_core (o : Observed) : SameCore c (c.admitTelemetry i o).1 := by
  exact (((expireStatuses_core c o _).trans (clearRelease_core _ i)).trans
    (admitRelease_core _ i _)).trans (startTelemetry_core _ _ _)

theorem admitIdentifier_core (o : Observed) : SameCore c (c.admitIdentifier i o).1 :=
  (admitTelemetry_core c i o).trans (armIdentifier_core _ i _ _ _ _ _)

/-- **Admission leaves the transmitter side alone.** -/
theorem chooseMedia_core (o : Observed) : SameCore c (c.chooseMedia i o).1 :=
  (admitIdentifier_core c i o).trans (startSlot_core _ i _ _ _ _)

/-! ## Playing it -/

/-- A sample is the one that is read, or is withdrawn with its occurrence. -/
theorem playSlot_cases [Zero F] (w : World) (m : PreparedMedia S) (allowed interrupt : Bool) :
    let r : Nat × List F × Playback S := readSlot m allowed interrupt
    (playSlot w m allowed interrupt).2 = (r.1, r.2.1.headD 0, r.2.2)
      ∨ (playSlot w m allowed interrupt).2 = (0, 0, r.2.2.cancel) := by
  unfold playSlot claimOutput
  split
  · exact .inl rfl
  split
  · split
    · exact .inl rfl
    · exact .inr rfl
  · exact .inl rfl

theorem playSlot_siteInhibit [Zero F] (w : World) (m : PreparedMedia S) (allowed interrupt : Bool) :
    (playSlot w m allowed interrupt).1.siteInhibit = w.siteInhibit := by
  unfold playSlot claimOutput
  split
  · rfl
  split
  · unfold World.begin
    split <;> split <;> rfl
  · rfl

theorem endAttempt_core (p : Playback S) : SameCore c (c.endAttempt source p) := by
  exact .ite ((setActive_core c none).trans (completePlayback_core _ _ _)) (.refl c)

/-- **Playing the slot leaves the transmitter side alone.** -/
theorem renderSlot_core [Zero F] (c : NodeController S F) (i : StepInput F) (a : Admission) :
    SameCore c (c.renderSlot i a).1 := by
  unfold renderSlot
  dsimp only
  split
  · constructor <;> rfl
  refine .trans ?_ (endAttempt_core _ _ _)
  refine .trans ?_ (mapPlayback_core _ _ _)
  constructor <;> first | rfl | exact playSlot_siteInhibit _ _ _ _

/-- The controller a tick decides traffic with. -/
theorem slotTick_core [Zero F] (c : NodeController S F) (i : StepInput F) (o : Observed) :
    SameCore c (c.slotTick i o).1 :=
  ((chooseMedia_core c i o).trans (renderSlot_core _ i _)).trans (noteRendered_core _ _)

end NodeController

end RptAdvanced.Controller
