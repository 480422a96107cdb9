import RptAdvanced.Runtime.NodeHost

/-!
# What the hazard slots guarantee

The invariant of the host protocol, kept by every atomic step of the audio owners:

* `Sound`: an owner that has validated a pointer (`Guards`) keeps it in its hazard slot, and the
  generation there is allocated.
* `Stored`: what is allocated is what the two boxes of the store hold, so at most one generation is
  retained beside the active one.

`Rival h h'` is all the control owner learns about the owners' steps from `h` to `h'`: they write no
shared pointer, no box of the store and no flag of a generation, and an owner that guards `p` in
`h'` guarded it in `h` or `p` is the published pointer. That last fact is the hazard-pointer
argument: once `p` is unpublished and the slot was seen without `p`, no owner can guard `p` again.

Results:
* `own_rival`: every step of an owner is one of `Rival`.
* `Rival.unguarded`: a pointer that is not published and not guarded stays so.
-/

namespace RptAdvanced.Runtime

open List

variable {R T : Type}

/-- The pointer an owner in this phase has validated and not yet dropped. -/
def OwnerPhase.guarded : OwnerPhase → Option Addr
  | .adopting p | .pairing p | .pairAdopting p | .holding p => some p
  | _ => none

namespace Host

variable {h h' : Host R T}

/-- The generation at `p` is allocated. -/
def Alive (h : Host R T) (p : Addr) : Prop := (h.heap p).isSome

/-- The owner of `slot` has validated `p` and not yet dropped it. -/
def Guards (h : Host R T) (slot : Slot) (p : Addr) : Prop := (h.phase slot).guarded = some p

/-- The slot publishes `p`, which is allocated, and its id is the adopted one. -/
structure Protects (h : Host R T) (slot : Slot) (p : Addr) : Prop where
  hazard : h.hazards slot = some p
  alive : h.Alive p
  adopted : h.adopted slot = h.idAt p

/-- What holds of the owner of `slot` in a phase. -/
def PhaseOk (h : Host R T) (slot : Slot) : OwnerPhase → Prop
  | .validating _ candidate => h.hazards slot = candidate
  | .adopting p => h.hazards slot = some p ∧ h.Alive p
  | .pairing p => slot = .receive ∧ h.phase .transmit = .lent ∧ h.Protects slot p
  | .pairAdopting p =>
    slot = .receive ∧ h.phase .transmit = .lent ∧ h.Protects slot p ∧ h.hazards .transmit = some p
  | .holding p =>
    h.Protects slot p ∧ (slot = .receive → h.phase .transmit = .lent → h.Protects .transmit p)
  | .releasing => slot = .receive ∧ h.phase .transmit = .lent
  | .lent => slot = .transmit ∧ h.phase .receive ≠ .idle
  | .idle | .loading _ | .publishing _ _ | .withdrawing _ => True

/-- The owners are where their phases say, and the published pointer is allocated. -/
structure Sound (h : Host R T) : Prop where
  owners : ∀ slot, h.PhaseOk slot (h.phase slot)
  active : ∀ p, h.active = some p → h.Alive p
  unregistered : h.registered = false → ∀ slot, h.phase slot = .idle

/-- The heap is what the two boxes of the store hold. -/
structure Stored (h : Host R T) : Prop where
  owned : ∀ p, h.Alive p ↔ h.storeActive = some p ∨ h.storeRetired = some p
  distinct : ∀ p, h.storeActive = some p → h.storeRetired ≠ some p

/-- Both hold in every state of the protocol. -/
structure Valid (h : Host R T) : Prop where
  sound : h.Sound
  stored : h.Stored

variable {slot : Slot} {p : Addr}

theorem Sound.guards (hs : h.Sound)
    (hg : h.Guards slot p) : h.hazards slot = some p ∧ h.Alive p := by
  have hok := hs.owners slot
  unfold Guards at hg
  cases hp : h.phase slot with
  | adopting q =>
    rw [hp] at hg hok
    cases hg
    exact hok
  | pairing q =>
    rw [hp] at hg hok
    cases hg
    exact ⟨hok.2.2.hazard, hok.2.2.alive⟩
  | pairAdopting q =>
    rw [hp] at hg hok
    cases hg
    exact ⟨hok.2.2.1.hazard, hok.2.2.1.alive⟩
  | holding q =>
    rw [hp] at hg hok
    cases hg
    exact ⟨hok.1.hazard, hok.1.alive⟩
  | _ => rw [hp] at hg; cases hg

/-- An empty hazard slot guards nothing. -/
theorem Sound.not_guards (hs : h.Sound) (hz : h.hazards slot ≠ some p) : ¬ h.Guards slot p :=
  fun hg => hz (hs.guards hg).1

theorem Protects.congr (hp : h.Protects slot p)
    (hz : h'.hazards slot = h.hazards slot) (had : h'.adopted slot = h.adopted slot)
    (hh : h'.heap = h.heap) : h'.Protects slot p :=
  ⟨hz.trans hp.hazard, by simpa [Alive, hh] using hp.alive, by
    simpa [idAt, hh] using had.trans hp.adopted⟩

variable {phase : OwnerPhase}

/-- An owner's part of the invariant survives a step of the other one that leaves its slots alone,
if neither borrows the other. -/
theorem PhaseOk.frame (hok : h.PhaseOk slot phase) (hz : h'.hazards slot = h.hazards slot)
    (had : h'.adopted slot = h.adopted slot) (hh : h'.heap = h.heap)
    (hreceive : slot = .receive → h.phase .transmit ≠ .lent ∧ h'.phase .transmit ≠ .lent)
    (hlent : phase ≠ .lent) : h'.PhaseOk slot phase := by
  cases phase with
  | validating n c => exact hz.trans hok
  | adopting p => exact ⟨hz.trans hok.1, by simpa [Alive, hh] using hok.2⟩
  | pairing | pairAdopting => exact absurd hok.2.1 (hreceive hok.1).1
  | holding p => exact ⟨hok.1.congr hz had hh, fun hr hl => absurd hl (hreceive hr).2⟩
  | releasing => exact absurd hok.2 (hreceive hok.1).1
  | lent => exact absurd rfl hlent
  | idle | loading | publishing | withdrawing => trivial

/-- An owner in a call is registered. -/
theorem Sound.registered (hs : h.Sound) (slot : Slot) (hp : h.phase slot ≠ .idle) :
    h.registered = true := by
  by_contra hr
  exact hp (hs.unregistered (by simpa using hr) slot)

/-- Only the transmit owner is borrowed. -/
theorem Sound.lent (hs : h.Sound) (hl : h.phase slot = .lent) : slot = .transmit := by
  have hok := hs.owners slot
  rw [hl] at hok
  exact hok.1

theorem Protects.heap_frame (hp : h.Protects slot p)
    (hz : h'.hazards = h.hazards) (had : h'.adopted = h.adopted)
    (hheap : h'.Alive p ∧ h'.idAt p = h.idAt p) : h'.Protects slot p :=
  ⟨by rw [hz]; exact hp.hazard, hheap.1, by rw [had, hheap.2]; exact hp.adopted⟩

/-- An owner's part of the invariant survives a step that writes no slot and keeps the guarded
generation. -/
theorem PhaseOk.heap_frame
    (hok : h.PhaseOk slot phase) (hphase : h'.phase = h.phase) (hz : h'.hazards = h.hazards)
    (had : h'.adopted = h.adopted)
    (hheap : ∀ p, phase.guarded = some p → h'.Alive p ∧ h'.idAt p = h.idAt p) :
    h'.PhaseOk slot phase := by
  cases phase with
  | validating n c => exact (congrFun hz slot).trans hok
  | adopting p => exact ⟨(congrFun hz slot).trans hok.1, (hheap p rfl).1⟩
  | pairing p =>
    exact ⟨hok.1, (congrFun hphase _).trans hok.2.1, hok.2.2.heap_frame hz had (hheap p rfl)⟩
  | pairAdopting p =>
    exact ⟨hok.1, (congrFun hphase _).trans hok.2.1, hok.2.2.1.heap_frame hz had (hheap p rfl),
      (congrFun hz _).trans hok.2.2.2⟩
  | holding p =>
    refine ⟨hok.1.heap_frame hz had (hheap p rfl), fun hr hl => ?_⟩
    rw [hphase] at hl
    exact (hok.2 hr hl).heap_frame hz had (hheap p rfl)
  | releasing => exact ⟨hok.1, (congrFun hphase _).trans hok.2⟩
  | lent => exact ⟨hok.1, by rw [hphase]; exact hok.2⟩
  | idle | loading | publishing | withdrawing => trivial

/-- A step that writes no slot of a registered owner keeps the invariant if it keeps the guarded
generations and publishes an allocated one. -/
theorem Sound.heap_step (hs : h.Sound) (hphase : h'.phase = h.phase)
    (hz : h'.hazards = h.hazards) (had : h.registered = true → h'.adopted = h.adopted)
    (hregistered : h'.registered = h.registered)
    (hheap : ∀ slot p, h.Guards slot p → h'.Alive p ∧ h'.idAt p = h.idAt p)
    (hactive : ∀ p, h'.active = some p → h'.Alive p) : h'.Sound := by
  refine ⟨fun slot => ?_, hactive, fun h0 => ?_⟩
  · rw [hphase]
    cases hr : h.registered with
    | false => rw [hs.unregistered hr slot]; trivial
    | true => exact (hs.owners slot).heap_frame hphase hz (had hr) (hheap slot)
  · rw [hphase]
    exact hs.unregistered (hregistered ▸ h0)

theorem alive_modify (h : Host R T) (p : Addr)
    (f : RuntimeGeneration R T → RuntimeGeneration R T) (q : Addr) :
    (h.modify p f).Alive q ↔ h.Alive q := by
  by_cases hq : q = p
  · subst hq; simp [Alive, modify]
  · simp [Alive, modify, hq]

/-- A write to a generation that keeps its id. -/
theorem Sound.modify (hs : h.Sound) (p : Addr)
    {f : RuntimeGeneration R T → RuntimeGeneration R T} (hf : ∀ g, (f g).id = g.id) :
    (h.modify p f).Sound := by
  have hid : ∀ q, (h.modify p f).idAt q = h.idAt q := by
    intro q
    by_cases hq : q = p
    · subst hq; simp [idAt, Host.modify, Function.comp_def, hf]
    · simp [idAt, Host.modify, hq]
  exact hs.heap_step rfl rfl (fun _ => rfl) rfl
    (fun slot q hg => ⟨(alive_modify h p f q).mpr (hs.guards hg).2, hid q⟩)
    fun q hq => (alive_modify h p f q).mpr (hs.active q hq)

end Host

/-- What of a generation only the control owner changes. -/
structure Retained where
  id : Nat
  settings : GenerationSettings
  admitted : Bool
  detached : Bool
  deriving DecidableEq, Repr

/-- The control owner's part of a generation. -/
def RuntimeGeneration.retained (g : RuntimeGeneration R T) : Retained :=
  ⟨g.id, g.settings, g.admitted, g.detached⟩

/-- A guard was returned to an audio owner. -/
def HostEvent.isGrant : HostEvent → Bool
  | .granted _ _ | .paired _ => true
  | _ => false

/-- A history grew by granted guards only. -/
def Grants (l l' : List HostEvent) : Prop :=
  ∃ grants, (∀ e ∈ grants, e.isGrant = true) ∧ l' = l ++ grants

theorem Grants.refl (l : List HostEvent) : Grants l l := ⟨[], nofun, (append_nil l).symm⟩

theorem Grants.trans {l₁ l₂ l₃ : List HostEvent} (h : Grants l₁ l₂) (k : Grants l₂ l₃) :
    Grants l₁ l₃ := by
  obtain ⟨g, hg, rfl⟩ := h
  obtain ⟨g', hg', rfl⟩ := k
  exact ⟨g ++ g', fun e he => (mem_append.mp he).elim (hg e) (hg' e), append_assoc ..⟩

/-- What the control owner knows of the owners' steps between `h` and `h'`. -/
structure Rival (h h' : Host R T) : Prop where
  active : h'.active = h.active
  storeActive : h'.storeActive = h.storeActive
  storeRetired : h'.storeRetired = h.storeRetired
  stopping : h'.stopping = h.stopping
  registered : h'.registered = h.registered
  heap : ∀ p, (h'.heap p).map (·.retained) = (h.heap p).map (·.retained)
  sound : h.Sound → h'.Sound
  guards : ∀ slot p, h'.Guards slot p → h.Guards slot p ∨ h.active = some p
  quiet : h.active = none → (∀ slot p, ¬ h.Guards slot p) → h'.history = h.history
  history : Grants h.history h'.history

namespace Rival

theorem refl (h : Host R T) : Rival h h :=
  ⟨rfl, rfl, rfl, rfl, rfl, fun _ => rfl, id, fun _ _ hg => .inl hg, fun _ _ => rfl, .refl _⟩

theorem trans {h₁ h₂ h₃ : Host R T} (h : Rival h₁ h₂) (k : Rival h₂ h₃) : Rival h₁ h₃ where
  active := k.active.trans h.active
  storeActive := k.storeActive.trans h.storeActive
  storeRetired := k.storeRetired.trans h.storeRetired
  stopping := k.stopping.trans h.stopping
  registered := k.registered.trans h.registered
  heap p := (k.heap p).trans (h.heap p)
  sound hs := k.sound (h.sound hs)
  guards slot p hg := by
    rcases k.guards slot p hg with hg | ha
    · exact h.guards slot p hg
    · exact .inr (h.active ▸ ha)
  quiet ha hg := by
    have hg' : ∀ slot p, ¬ h₂.Guards slot p := by
      intro slot p hg₂
      rcases h.guards slot p hg₂ with hg₁ | ha₁
      · exact hg slot p hg₁
      · rw [ha] at ha₁; cases ha₁
    exact (k.quiet (h.active.trans ha) hg').trans (h.quiet ha hg)
  history := h.history.trans k.history

/-- **A pointer that is neither published nor guarded stays unguarded**: an owner guards only what
it finds published after its hazard is stored. -/
theorem unguarded {h h' : Host R T} (hr : Rival h h') {slot : Slot} {p : Addr}
    (ha : h.active ≠ some p) (hg : ¬ h.Guards slot p) : ¬ h'.Guards slot p := by
  intro hg'
  rcases hr.guards slot p hg' with hold | hactive
  · exact hg hold
  · exact ha hactive

end Rival

/-- What the owners may do between two actions of the control owner. -/
def rivals : Lib.Interference (Host R T) := ⟨Rival, Rival.refl, Rival.trans⟩

namespace Host

variable {h h' : Host R T}

/-- What an owner writes beside its phase: its slots and the history. -/
structure SlotFrame (h k : Host R T) : Prop where
  active : k.active = h.active
  heap : k.heap = h.heap
  registered : k.registered = h.registered
  storeActive : k.storeActive = h.storeActive
  storeRetired : k.storeRetired = h.storeRetired
  stopping : k.stopping = h.stopping
  phase : k.phase = h.phase

theorem SlotFrame.slots (h : Host R T) hazards adopted history :
    SlotFrame h { h with hazards, adopted, history } := ⟨rfl, rfl, rfl, rfl, rfl, rfl, rfl⟩

/-- The owner of `slot` may go to `phase` after the writes to `k`: it leaves the slots of an owner
that it does not borrow alone, and does not return while it borrows one. -/
structure Fits (h k : Host R T) (slot : Slot) (phase : OwnerPhase) : Prop where
  registered : h.registered = true
  lent : h.phase slot ≠ .lent ∧ phase ≠ .lent
  slots : ∀ other, other ≠ slot → h.phase other ≠ .lent →
    k.hazards other = h.hazards other ∧ k.adopted other = h.adopted other
  busy : ∀ other, other ≠ slot → h.phase other = .lent → phase ≠ .idle
  ok : (k.setPhase slot phase).PhaseOk slot phase

/-- What a step of the owner of `slot` does that writes no generation. -/
inductive Takes (h : Host R T) (slot : Slot) : Host R T → Prop
  | stay : Takes h slot h
  | on {k : Host R T} {phase : OwnerPhase} (hk : SlotFrame h k) (hfits : Fits h k slot phase)
      (hguards : ∀ p, phase.guarded = some p → h.Guards slot p ∨ h.active = some p)
      (hlog : k.history = h.history ∨ (∃ p, h.Guards slot p) ∧ ∃ e, e.isGrant = true
        ∧ k.history = h.history ++ [e]) : Takes h slot (k.setPhase slot phase)
  /-- A pair is begun or given up. -/
  | pair {k : Host R T} {a b : OwnerPhase} (hk : SlotFrame h k) (hlog : k.history = h.history)
      (hregistered : h.registered = true) (hfree : ∀ slot p, h.phase slot ≠ .holding p)
      (hab : a = .idle ∧ b = .idle ∨ a = .loading 1 ∧ b = .lent) :
      Takes h slot ((k.setPhase .receive a).setPhase .transmit b)

section

variable {k : Host R T} {slot : Slot} {phase : OwnerPhase}

theorem Takes.heap (ht : h.Takes slot h') : h'.heap = h.heap := by
  cases ht with
  | stay => rfl
  | on hk | pair hk => exact hk.heap

theorem acquire_takes (h : Host R T) (slot : Slot) : h.Takes slot (h.own (.acquire slot)) := by
  simp only [own]
  split
  · rename_i hidle
    exact .on (.slots ..) ⟨hidle.1, by simp [hidle.2],
      fun _ _ _ => ⟨rfl, rfl⟩, fun _ _ _ => nofun, trivial⟩ nofun (.inl rfl)
  · exact .stay

theorem acquirePair_takes (h : Host R T) : h.Takes .receive (h.own .acquirePair) := by
  simp only [own]
  split
  · rename_i hidle
    exact .pair (.slots ..) rfl hidle.1 (by rintro ⟨⟩ <;> simp [hidle.2]) (.inr ⟨rfl, rfl⟩)
  · exact .stay

variable (hs : h.Sound)
include hs

theorem Fits.sound (hf : Fits h k slot phase) (hk : SlotFrame h k) :
    (k.setPhase slot phase).Sound := by
  refine ⟨fun other => ?_, fun p hp => ?_, fun h0 => ?_⟩
  · by_cases ho : other = slot
    · subst ho
      simpa [setPhase] using hf.ok
    have hphase : (k.setPhase slot phase).phase other = h.phase other := by
      simp [setPhase, ho, hk.phase]
    rw [hphase]
    by_cases hl : h.phase other = .lent
    · have hreceive : slot = .receive := by
        cases slot with
        | receive => rfl
        | transmit => exact absurd (hs.lent hl) ho
      subst hreceive
      rw [hl]
      exact ⟨hs.lent hl, by simpa [setPhase] using hf.busy other ho hl⟩
    · refine (hs.owners other).frame (hf.slots other ho hl).1 (hf.slots other ho hl).2 hk.heap
        (fun hreceive => ?_) hl
      have htransmit : slot = .transmit := by
        cases slot with
        | receive => exact absurd hreceive ho
        | transmit => rfl
      subst htransmit
      exact ⟨hf.lent.1, by simpa [setPhase] using hf.lent.2⟩
  · simpa [setPhase, Alive, hk.heap] using hs.active p (hk.active ▸ hp)
  · rw [show (k.setPhase slot phase).registered = true from hk.registered.trans hf.registered] at h0
    cases h0

/-- **What the control owner may assume of a step of an owner.** -/
theorem Takes.rival (ht : h.Takes slot h') : Rival h h' := by
  cases ht with
  | stay => exact .refl h
  | @on k phase hk hf hguar hlog =>
    refine ⟨hk.active, hk.storeActive, hk.storeRetired, hk.stopping, hk.registered,
      fun p => by simp [setPhase, hk.heap], fun _ => hf.sound hs hk, fun other p hg => ?_,
      fun _ hno => ?_, ?_⟩
    · by_cases ho : other = slot
      · subst ho
        exact hguar p (by simpa [Guards, setPhase] using hg)
      · exact .inl (by simpa [Guards, setPhase, ho, hk.phase] using hg)
    · rcases hlog with hsame | ⟨⟨p, hg⟩, -⟩
      · exact hsame
      · exact absurd hg (hno slot p)
    · rcases hlog with hsame | ⟨-, e, he, hadd⟩
      · exact hsame ▸ .refl _
      · exact ⟨[e], by simpa using he, hadd⟩
  | pair hk hlog hregistered hfree hab =>
    refine ⟨hk.active, hk.storeActive, hk.storeRetired, hk.stopping, hk.registered,
      fun p => by simp [setPhase, hk.heap], fun _ =>
        ⟨fun other => ?_, fun p hp => ?_, fun h0 => ?_⟩,
      fun other p hg => ?_, fun _ _ => hlog, hlog ▸ .refl _⟩
    · rcases hab with ⟨rfl, rfl⟩ | ⟨rfl, rfl⟩ <;> cases other <;> simp [setPhase, PhaseOk]
    · simpa [setPhase, Alive, hk.heap] using hs.active p (hk.active ▸ hp)
    · cases (hk.registered.trans hregistered).symm.trans h0
    · rcases hab with ⟨rfl, rfl⟩ | ⟨rfl, rfl⟩ <;> cases other <;>
        simp [Guards, setPhase, OwnerPhase.guarded] at hg

/-- A step within a call. -/
theorem Takes.within (hcall : h.phase slot ≠ .idle ∧ h.phase slot ≠ .lent) (hk : SlotFrame h k)
    (hslots : ∀ other, other ≠ slot → h.phase other ≠ .lent →
      k.hazards other = h.hazards other ∧ k.adopted other = h.adopted other)
    (hphase : phase ≠ .idle ∧ phase ≠ .lent) (hok : (k.setPhase slot phase).PhaseOk slot phase)
    (hguar : ∀ p, phase.guarded = some p → h.Guards slot p ∨ h.active = some p)
    (hlog : k.history = h.history ∨ (∃ p, h.Guards slot p) ∧ ∃ e, e.isGrant = true
      ∧ k.history = h.history ++ [e]) : h.Takes slot (k.setPhase slot phase) :=
  .on hk ⟨hs.registered slot hcall.1, ⟨hcall.2, hphase.2⟩, hslots, fun _ _ _ => hphase.1, hok⟩
    hguar hlog

theorem resume_takes (slot : Slot) : h.Takes slot (h.resume slot (h.phase slot)) := by
  have hok := hs.owners slot
  have hguar : ∀ {p q : Addr}, (h.phase slot).guarded = some p → some p = some q →
      h.Guards slot q ∨ h.active = some q := fun hp hq => .inl (hp.trans hq)
  have hhazards : ∀ {c : Option Addr} (other : Slot), other ≠ slot → h.phase other ≠ .lent →
      (h.setHazard slot c).hazards other = h.hazards other ∧ h.adopted other = h.adopted other :=
    fun other hne _ => ⟨by simp [setHazard, hne], rfl⟩
  have hadopted : ∀ {id : Nat} (other : Slot), other ≠ slot → h.phase other ≠ .lent →
      h.hazards other = h.hazards other ∧ (h.setAdopted slot id).adopted other = h.adopted other :=
    fun other hne _ => ⟨rfl, by simp [setAdopted, hne]⟩
  cases hp : h.phase slot with
  | idle | holding | lent => exact .stay
  | loading n =>
    exact .within hs (by simp [hp]) (.slots ..) (fun _ _ _ => ⟨rfl, rfl⟩)
      ⟨nofun, nofun⟩ trivial nofun (.inl rfl)
  | publishing n c =>
    exact .within hs (by simp [hp]) (.slots ..) hhazards ⟨nofun, nofun⟩
      (by simp [PhaseOk, setPhase, setHazard]) nofun (.inl rfl)
  | validating n c =>
    rw [hp] at hok
    have hback : h.Takes slot (h.setPhase slot (.withdrawing n)) :=
      .within hs (by simp [hp]) (.slots ..) (fun _ _ _ => ⟨rfl, rfl⟩)
        ⟨nofun, nofun⟩ trivial nofun (.inl rfl)
    simp only [resume, validate]
    split
    · split
      · rename_i ha
        refine .within hs (by simp [hp]) (.slots ..)
          (fun _ _ _ => ⟨rfl, rfl⟩) ⟨nofun, nofun⟩ ⟨hok, hs.active _ ha⟩ ?_ (.inl rfl)
        rintro _ ⟨⟩
        exact .inr ha
      · exact hback
    · exact hback
  | withdrawing n =>
    cases n with
    | zero =>
      simp only [resume, withdraw, giveUp]
      split
      · rename_i hl
        obtain ⟨rfl, hl⟩ := hl
        have hl' : h.phase .transmit = .lent := by simpa [setPhase, setHazard] using hl
        exact .pair (.slots ..) rfl (hs.registered .receive (by simp [hp]))
          (by rintro ⟨⟩ <;> simp [hp, hl']) (.inl ⟨rfl, rfl⟩)
      · rename_i hl
        refine .on (.slots ..) ⟨hs.registered slot (by simp [hp]),
          by simp [hp], hhazards, fun other ho hl' => absurd ?_ hl, trivial⟩ nofun (.inl rfl)
        cases hs.lent hl'
        cases slot with
        | receive => exact ⟨rfl, by simpa [setPhase, setHazard] using hl'⟩
        | transmit => exact absurd rfl ho
    | succ n =>
      exact .within hs (by simp [hp]) (.slots ..) hhazards ⟨nofun, nofun⟩ trivial nofun (.inl rfl)
  | adopting p =>
    rw [hp] at hok hguar
    have hprotects : (h.setAdopted slot (h.idAt p)).Protects slot p :=
      ⟨hok.1, hok.2, by simp [setAdopted, idAt]⟩
    simp only [resume, acquired]
    split
    · rename_i hl
      obtain ⟨rfl, hl⟩ := hl
      exact .within hs (by simp [hp]) (.slots ..) hadopted ⟨nofun, nofun⟩
        ⟨rfl, by simpa [setPhase] using hl, hprotects.congr rfl rfl rfl⟩
          (fun _ => hguar rfl) (.inl rfl)
    · rename_i hl
      refine .within (k := (h.setAdopted slot (h.idAt p)).note (.granted slot p)) hs (by simp [hp])
        (.slots ..) hadopted ⟨nofun, nofun⟩
        ⟨hprotects.congr rfl rfl rfl, fun hreceive hl' => absurd ⟨hreceive, ?_⟩ hl⟩
          (fun _ => hguar rfl)
        (.inr ⟨⟨p, by rw [Guards, hp]; rfl⟩, _, rfl, rfl⟩)
      subst hreceive
      simpa [setPhase, note] using hl'
  | pairing p =>
    rw [hp] at hok hguar
    obtain ⟨rfl, hl, hprotects⟩ := hok
    refine .within (k := h.setHazard .transmit (some p)) hs (by simp [hp])
      (.slots ..) ?_ ⟨nofun, nofun⟩ ⟨rfl, hl, hprotects.congr rfl rfl rfl,
        by simp [setPhase, setHazard]⟩ (fun _ => hguar rfl) (.inl rfl)
    rintro ⟨⟩ ho hl'
    · exact absurd rfl ho
    · exact absurd hl hl'
  | pairAdopting p =>
    rw [hp] at hok hguar
    obtain ⟨rfl, hl, hprotects, hz⟩ := hok
    refine .within (k := (h.setAdopted .transmit (h.idAt p)).note (.paired p)) hs (by simp [hp])
      (.slots ..) ?_ ⟨nofun, nofun⟩ ⟨hprotects.congr rfl rfl rfl, fun _ _ =>
        ⟨hz, hprotects.alive, by simp [setPhase, note, setAdopted, idAt]⟩⟩ (fun _ => hguar rfl)
      (.inr ⟨⟨p, by rw [Guards, hp]; rfl⟩, _, rfl, rfl⟩)
    rintro ⟨⟩ ho hl'
    · exact absurd rfl ho
    · exact absurd hl hl'
  | releasing =>
    rw [hp] at hok
    obtain ⟨rfl, hl⟩ := hok
    exact .pair (k := h.setHazard .transmit none) (.slots ..) rfl
      (hs.registered .receive (by simp [hp])) (by rintro ⟨⟩ <;> simp [hp, hl]) (.inl ⟨rfl, rfl⟩)

theorem dropGuard_takes (slot : Slot) : h.Takes slot (h.dropGuard slot) := by
  have hhazards : ∀ other, other ≠ slot → h.phase other ≠ .lent →
      (h.setHazard slot none).hazards other = h.hazards other ∧ h.adopted other = h.adopted other :=
    fun other hne _ => ⟨by simp [setHazard, hne], rfl⟩
  unfold dropGuard
  cases hp : h.phase slot with
  | holding p =>
    dsimp only
    split
    · rename_i hl
      exact .within hs (by simp [hp]) (.slots ..) hhazards ⟨nofun, nofun⟩
        ⟨hl.1, by simpa [setPhase, hl.1] using hl.2⟩ nofun (.inl rfl)
    rename_i hl
    refine .on (.slots ..) ⟨hs.registered slot (by simp [hp]),
      by simp [hp], hhazards, fun other ho hl' => absurd ?_ hl, trivial⟩ nofun (.inl rfl)
    cases hs.lent hl'
    cases slot with
    | receive => exact ⟨rfl, hl'⟩
    | transmit => exact absurd rfl ho
  | _ => exact .stay

end

/-- A write to a generation that keeps the control owner's part of it. -/
theorem modify_rival (h : Host R T) (p : Addr)
    {f : RuntimeGeneration R T → RuntimeGeneration R T} (hf : ∀ g, (f g).retained = g.retained) :
    Rival h (h.modify p f) := by
  refine ⟨rfl, rfl, rfl, rfl, rfl, fun q => ?_, fun hs => hs.modify p fun g => ?_,
    fun _ _ hg => .inl hg, fun _ _ => rfl, .refl _⟩
  · by_cases hq : q = p
    · subst hq; simp [modify, Function.comp_def, hf]
    · simp [modify, hq]
  · exact congrArg Retained.id (hf g)

/-- **What the control owner may assume of any step of the audio owners.** -/
theorem own_rival (hs : h.Sound) (step : OwnerStep R T) : Rival h (h.own step) := by
  cases step with
  | acquire slot => exact (acquire_takes h slot).rival hs
  | acquirePair => exact (acquirePair_takes h).rival hs
  | advance slot => exact (resume_takes hs slot).rival hs
  | drop slot => exact (dropGuard_takes hs slot).rival hs
  | writeReceive state | writeTransmit state =>
    simp only [own]
    split
    · exact modify_rival h _ fun _ => rfl
    · exact .refl h
  | releaseWork p => exact modify_rival h _ fun _ => rfl

end Host

end RptAdvanced.Runtime
