import RptAdvanced.Runtime.Hazard

/-!
# The control functions of a host under interference

`HostView` is what the control owner decides about a host: the retained part of its two boxes, and
whether callbacks are gated or the host is stopping. The audio owners cannot change it, and each
control function acts on it as the function of the same name on `HostView` says, whatever the
owners do in between.

`Respects h h'` is what every action of a control function guarantees: it touches no slot, and it
neither frees a guarded generation nor writes its receive or transmit state. `Withholds` adds that
the action does not open the gate.
-/

namespace RptAdvanced.Runtime

open Lib (Resumption)
open Lib.Resumption (Secure)

variable {R T : Type} {h h' : Host R T}

/-- What the control owner decides about a host. -/
structure HostView where
  active : Option Retained
  retired : Option Retained
  stopping : Bool
  gated : Bool
  registered : Bool
  deriving DecidableEq, Repr

namespace HostView

/-- A box of the store. -/
def box (keep : Keep) (v : HostView) : Option Retained :=
  match keep with
  | .active => v.active
  | .retired => v.retired

/-- Change what a box holds. -/
def setBox (keep : Keep) (content : Option Retained) (v : HostView) : HostView :=
  match keep with
  | .active => { v with active := content }
  | .retired => { v with retired := content }

end HostView

namespace Host

/-- The control owner's part of what a box of the store holds. -/
def box (keep : Keep) (h : Host R T) : Option Retained :=
  (h.keptGeneration keep).map (·.retained)

/-- The host as the control owner decides it. -/
def view (h : Host R T) : HostView :=
  ⟨h.box .active, h.box .retired, h.stopping, h.active.isNone, h.registered⟩

/-- What holds of the published pointer between two operations of the control owner. -/
structure Paused (h : Host R T) : Prop extends Valid h where
  published : ∀ p, h.active = some p → h.storeActive = some p
  stopped : h.stopping = true → h.active = none

/-- Until it is stopped a host has an active generation that admits work and is attached. -/
structure Ready (h : Host R T) : Prop extends Paused h where
  admitting : h.stopping = false →
    ∃ g, h.box .active = some g ∧ g.admitted = true ∧ g.detached = false

/-- What an action of the control owner guarantees. -/
structure Respects (h h' : Host R T) : Prop where
  phase : h'.phase = h.phase
  hazards : h'.hazards = h.hazards
  adopted : h.registered = true → h'.adopted = h.adopted
  registered : h'.registered = h.registered
  history : h'.history = h.history
  valid : h'.Valid
  guarded : ∀ slot p, h.Guards slot p → ∃ g g', h.heap p = some g ∧ h'.heap p = some g'
    ∧ g'.id = g.id ∧ g'.settings = g.settings ∧ g'.receive = g.receive ∧ g'.transmit = g.transmit

/-- An action that does not open the gate. -/
structure Withholds (h h' : Host R T) : Prop extends Respects h h' where
  gate : h'.active = h.active ∨ h'.active = none

end Host

theorem Rival.kept (hr : Rival h h') (keep : Keep) : h'.kept keep = h.kept keep := by
  cases keep
  · exact hr.storeActive
  · exact hr.storeRetired

theorem Rival.box (hr : Rival h h') (keep : Keep) : h'.box keep = h.box keep := by
  unfold Host.box Host.keptGeneration
  rw [hr.kept]
  cases h.kept keep with
  | none => rfl
  | some p => exact hr.heap p

/-- **The audio owners cannot change the control owner's view of a host.** -/
theorem Rival.view (hr : Rival h h') : h'.view = h.view := by
  simp only [Host.view, hr.box, hr.stopping, hr.active, hr.registered]

namespace Rival

open Host

variable {h h' : Host R T}

variable (hr : Rival h h')
include hr

theorem alive (p : Addr) : h'.Alive p ↔ h.Alive p := by
  have := congrArg Option.isSome (hr.heap p)
  simp only [Option.isSome_map] at this
  simp [Alive, this]

theorem valid (hv : h.Valid) : h'.Valid where
  sound := hr.sound hv.sound
  stored :=
    { owned := fun p => by
        rw [hr.alive, hr.storeActive, hr.storeRetired]
        exact hv.stored.owned p
      distinct := fun p => by
        rw [hr.storeActive, hr.storeRetired]
        exact hv.stored.distinct p }

theorem paused (hp : h.Paused) : h'.Paused where
  toValid := hr.valid hp.toValid
  published p := by rw [hr.active, hr.storeActive]; exact hp.published p
  stopped := by rw [hr.stopping, hr.active]; exact hp.stopped

theorem unpublished {p : Addr} (hp : h.active ≠ some p) : h'.active ≠ some p := by
  rw [hr.active]
  exact hp

theorem ready (hready : h.Ready) : h'.Ready where
  toPaused := hr.paused hready.toPaused
  admitting := by rw [hr.stopping, hr.box]; exact hready.admitting

/-- What only the control owner writes in a generation. -/
theorem heap_any {p : Addr} {g : RuntimeGeneration R T} (hp : h.heap p = some g)
    (flag : Retained → Bool) : (h'.heap p).any (fun g => flag g.retained) = flag g.retained := by
  have hretired := congrArg (Option.any flag) (hr.heap p)
  simpa [hp, Option.any_map, Function.comp_def] using hretired

end Rival

namespace Host

variable {h : Host R T}

/-- An action that leaves the guarded generations as they are. -/
theorem Respects.of_heap (hv : h.Valid) (hphase : h'.phase = h.phase) (hz : h'.hazards = h.hazards)
    (had : h'.adopted = h.adopted) (hregistered : h'.registered = h.registered)
    (hhistory : h'.history = h.history) (hactive : ∀ p, h'.active = some p → h'.Alive p)
    (hst : h'.Stored) (hheap : ∀ slot p, h.Guards slot p → h'.heap p = h.heap p) :
    Respects h h' := by
  refine ⟨hphase, hz, fun _ => had, hregistered, hhistory,
    ⟨hv.sound.heap_step hphase hz (fun _ => had) hregistered
    (fun slot p hg => ?_) hactive, hst⟩, fun slot p hg => ?_⟩ <;> have hp := (hv.sound.guards hg).2
  · exact ⟨by simpa [Alive, hheap slot p hg] using hp, by simp [idAt, hheap slot p hg]⟩
  · obtain ⟨g, hg'⟩ := Option.isSome_iff_exists.mp hp
    exact ⟨g, g, hg', (hheap slot p hg).trans hg', rfl, rfl, rfl, rfl⟩

theorem Respects.refl (hv : h.Valid) : Respects h h :=
  .of_heap hv rfl rfl rfl rfl rfl hv.sound.active hv.stored fun _ _ _ => rfl

theorem Withholds.refl (hv : h.Valid) : Withholds h h := ⟨.refl hv, .inl rfl⟩

theorem Valid.respects (hv : h.Valid) (t : Host R T) (hr : Rival h t) : Respects t t :=
  .refl (hr.valid hv)

theorem Valid.withholds (hv : h.Valid) (t : Host R T) (hr : Rival h t) : Withholds t t :=
  .refl (hr.valid hv)

@[simp] theorem view_box (keep : Keep) : h.view.box keep = h.box keep := by
  cases keep <;> rfl

/-! ### Reading the store, loads -/

variable {guar : Host R T → Host R T → Prop}

/-- A load of any kind: the program goes on from a state the owners may have reached. -/
theorem secure_load {α β : Type} {post : β → Host R T → Prop}
    (hrefl : ∀ t, Rival h t → guar t t) {f : Host R T → α} {k : α → Control R T β}
    (hk : ∀ t, Rival h t → Secure rivals guar post (k (f t)) t) :
    Secure rivals guar post (Resumption.load f >>= k) h :=
  fun t hr => ⟨hrefl t hr, hk t hr⟩

/-- A read of what the owners do not write: its value is the one at the start. -/
theorem secure_readStore {α β : Type}
    {post : β → Host R T → Prop} (hrefl : ∀ t, Rival h t → guar t t) {f : Host R T → α}
    {k : α → Control R T β} (hf : ∀ t, Rival h t → f t = f h)
    (hk : Secure rivals guar post (k (f h)) h) :
    Secure rivals guar post (Control.readStore f >>= k) h :=
  secure_load hrefl fun t hr => by rw [hf t hr]; exact hk.interfere hr

/-- A store: the program goes on from the state after it. -/
theorem secure_store {β : Type} {post : β → Host R T → Prop}
    {f : Host R T → Host R T} {k : Unit → Control R T β}
    (hk : ∀ t, Rival h t → guar t (f t) ∧ Secure rivals guar post (k ()) (f t)) :
    Secure rivals guar post (Resumption.store f >>= k) h :=
  fun t hr => hk t hr

/-! ### The actions of the control owner -/

/-- Closing the gate. -/
theorem gate_withholds (hv : h.Valid) : Withholds h { h with active := none } where
  toRespects := .of_heap hv rfl rfl rfl rfl rfl nofun ⟨hv.stored.owned, hv.stored.distinct⟩
    fun _ _ _ => rfl
  gate := .inr rfl

variable {p : Addr} {f : RuntimeGeneration R T → RuntimeGeneration R T}

/-- Publishing an allocated generation. -/
theorem publish_respects (hv : h.Valid) (hp : h.Alive p) : Respects h { h with active := some p } :=
  .of_heap hv rfl rfl rfl rfl rfl (by rintro q ⟨⟩; exact hp)
    ⟨hv.stored.owned, hv.stored.distinct⟩ fun _ _ _ => rfl

/-- A write to flags of a generation. -/
theorem modify_withholds (hv : h.Valid) (p : Addr) (hf : ∀ g, (f g).id = g.id
      ∧ (f g).settings = g.settings ∧ (f g).receive = g.receive ∧ (f g).transmit = g.transmit) :
    Withholds h (h.modify p f) where
  phase := rfl
  hazards := rfl
  adopted _ := rfl
  registered := rfl
  history := rfl
  gate := .inl rfl
  valid :=
    { sound := hv.sound.modify p fun g => (hf g).1
      stored :=
        { owned := fun q => (alive_modify h p f q).trans (hv.stored.owned q)
          distinct := hv.stored.distinct } }
  guarded slot q hg := by
    obtain ⟨g, hgeneration⟩ := Option.isSome_iff_exists.mp (hv.sound.guards hg).2
    by_cases hq : q = p
    · subst hq
      exact ⟨g, f g, hgeneration, by simp [modify, hgeneration], hf g⟩
    · exact ⟨g, g, hgeneration, by simpa [modify, hq] using hgeneration, rfl, rfl, rfl, rfl⟩

theorem Stored.alive (hs : h.Stored) {keep : Keep} (hp : h.kept keep = some p) : h.Alive p := by
  cases keep
  · exact (hs.owned p).mpr (.inl hp)
  · exact (hs.owned p).mpr (.inr hp)

/-- The two boxes hold different addresses. -/
theorem Stored.kept_ne (hs : h.Stored) {keep keep' : Keep} (hne : keep' ≠ keep)
    (hp : h.kept keep = some p) : h.kept keep' ≠ some p := by
  intro hp'
  cases keep <;> cases keep' <;> simp_all [kept]
  · exact hs.distinct p hp hp'
  · exact hs.distinct p hp' hp

variable {keep : Keep}

/-- A write to flags of what a box holds is one to the box in the view. -/
theorem view_modify (hv : h.Valid) (hp : h.kept keep = some p) {f' : Retained → Retained}
    (hf : ∀ g, (f g).retained = f' g.retained) :
    (h.modify p f).view = h.view.setBox keep ((h.view.box keep).map f') := by
  have hbox : ∀ keep', (h.modify p f).box keep'
      = if keep' = keep then (h.box keep).map f' else h.box keep' := by
    intro keep'
    have hkept : (h.modify p f).kept keep' = h.kept keep' := by cases keep' <;> rfl
    unfold box keptGeneration
    rw [hkept]
    split
    · rename_i heq
      subst heq
      simp [hp, modify, Function.comp_def, hf]
    rename_i hne
    have hp' := hv.stored.kept_ne hne hp
    cases hk : h.kept keep' with
    | none => rfl
    | some q =>
      have hapart : q ≠ p := by rintro rfl; exact hp' hk
      simp [modify, hapart]
  change HostView.mk ((h.modify p f).box .active) ((h.modify p f).box .retired) h.stopping
    h.active.isNone h.registered = _
  rw [hbox, hbox]
  cases keep <;> simp [view, HostView.setBox, HostView.box]

section

variable (hretired : h.storeRetired = none) (generation : RuntimeGeneration R T)
include hretired

/-- An address the allocator answers with is free. -/
theorem freeAddress_free (hs : h.Stored) : h.heap h.freeAddress = none := by
  have hleast : h.heap h.leastFree = none := by
    unfold leastFree
    split
    · rename_i h0; simpa using h0
    split
    · rename_i h1; simpa using h1
    rename_i h0 h1
    have ha0 : h.storeActive = some 0 := by
      simpa [hretired] using (hs.owned 0).mp (by simpa [Alive, Option.isSome_iff_ne_none] using h0)
    have ha1 : h.storeActive = some 1 := by
      simpa [hretired] using (hs.owned 1).mp (by simpa [Alive, Option.isSome_iff_ne_none] using h1)
    rw [ha0] at ha1
    cases ha1
  unfold freeAddress
  split
  · split
    · rename_i hp; simpa using hp
    · exact hleast
  · exact hleast

theorem ne_freeAddress (hs : h.Stored) {q : Addr} (hq : h.Alive q) : q ≠ h.freeAddress := by
  rintro rfl
  simp [Alive, freeAddress_free hretired hs] at hq

theorem retire_eq : h.retire generation = { h with
        heap := Function.update h.heap h.freeAddress (some generation)
        storeActive := some h.freeAddress, storeRetired := h.storeActive
        hints := h.hints.tail } := by
  simp [retire, free, hretired]

/-- Boxing a new active generation beside an empty retired box. -/
theorem retire_respects (hv : h.Valid) : Respects h (h.retire generation) := by
  have hne : ∀ {q}, h.Alive q → q ≠ h.freeAddress := fun hq => ne_freeAddress hretired hv.stored hq
  rw [retire_eq hretired]
  have hheap : ∀ {q}, h.Alive q →
      Function.update h.heap h.freeAddress (some generation) q = h.heap q := fun hq =>
    Function.update_of_ne (hne hq) ..
  refine .of_heap hv rfl rfl rfl rfl rfl (fun q hq => ?_) ⟨fun q => ?_, fun q hq hactive => ?_⟩
    fun slot q hg => hheap (hv.sound.guards hg).2
  · have hq := hv.sound.active q hq
    simpa [Alive, hheap hq] using hq
  · by_cases hq : q = h.freeAddress
    · subst hq
      simp [Alive]
    have hq' : ¬ h.freeAddress = q := fun h => hq h.symm
    have howned := hv.stored.owned q
    simp only [hretired, reduceCtorEq, or_false] at howned
    simpa [Alive, hq, hq'] using howned
  · exact hne ((hv.stored.owned q).mpr (.inl hactive)) (Option.some.inj hq).symm

theorem view_retire (hv : h.Valid) : (h.retire generation).view
      = { h.view with active := some generation.retained, retired := h.view.active } := by
  rw [retire_eq hretired]
  cases hs : h.storeActive with
  | none => simp [view, box, keptGeneration, kept, hs]
  | some q =>
    have hne := ne_freeAddress hretired hv.stored ((hv.stored.owned q).mpr (.inl hs))
    simp [view, box, keptGeneration, kept, hs, hne]

end

section

variable (hp : h.kept keep = some p)
include hp

theorem discard_frame :
    (h.discard keep).active = h.active ∧ (h.discard keep).stopping = h.stopping
      ∧ (h.discard keep).registered = h.registered
      ∧ (h.discard keep).heap = Function.update h.heap p none
      ∧ (h.discard keep).phase = h.phase ∧ (h.discard keep).hazards = h.hazards
      ∧ (h.discard keep).adopted = h.adopted ∧ (h.discard keep).history = h.history := by
  cases keep <;> simp_all [discard, free, kept]

/-- Freeing a box that is unpublished and unguarded. -/
theorem discard_withholds (hv : h.Valid)
    (hactive : h.active ≠ some p) (hguards : ∀ slot, ¬ h.Guards slot p) :
    Withholds h (h.discard keep) := by
  obtain ⟨hactive', -, hregistered, hheap, hphase, hz, had, hhistory⟩ := discard_frame hp
  have hsame : ∀ {q}, q ≠ p → (h.discard keep).heap q = h.heap q := fun hq => by
    rw [hheap, Function.update_of_ne hq]
  refine ⟨.of_heap hv hphase hz had hregistered hhistory (fun q hq => ?_) ⟨fun q => ?_, fun q => ?_⟩
    fun slot q hg => hsame (by rintro rfl; exact hguards slot hg), .inl hactive'⟩
  · rw [hactive'] at hq
    have hne : q ≠ p := by rintro rfl; exact hactive hq
    unfold Alive
    rw [hsame hne]
    exact hv.sound.active q hq
  · by_cases hq : q = p
    · have hdistinct := hv.stored.distinct q
      cases keep <;> simp_all [Alive, discard, free, kept]
    unfold Alive
    have howned := hv.stored.owned q
    unfold Alive at howned
    have hq' : ¬ p = q := fun h => hq h.symm
    cases keep <;> simp_all [discard, free, kept]
  · cases keep <;> simp_all [discard, free, kept]

theorem view_discard (hv : h.Valid) :
    (h.discard keep).view = h.view.setBox keep none := by
  obtain ⟨hactive, hstopping, hregistered, hheap, -⟩ := discard_frame hp
  have hother : ∀ keep', keep' ≠ keep → (h.discard keep).box keep' = h.box keep' := by
    intro keep' hne
    have hp' := hv.stored.kept_ne hne hp
    have hkept : (h.discard keep).kept keep' = h.kept keep' := by
      cases keep <;> cases keep' <;> simp_all [discard, free, kept]
    unfold box keptGeneration
    rw [hkept, hheap]
    cases hk : h.kept keep' with
    | none => rfl
    | some q =>
      have hapart : q ≠ p := by rintro rfl; exact hp' hk
      simp [hapart]
  have hself : (h.discard keep).box keep = none := by
    cases keep <;> simp [box, keptGeneration, kept, discard]
  cases keep with
  | active =>
    simp only [view, hself, hother .retired (by decide), hactive, hstopping, hregistered,
      HostView.setBox]
  | retired =>
    simp only [view, hself, hother .active (by decide), hactive, hstopping, hregistered,
      HostView.setBox]

end

/-- Writing the private flags of the store. -/
theorem flags_withholds (hv : h.Valid) (stopping : Bool) (changedMs : Nat)
    (reported : Option (Option Nat × LifecycleState)) (timeouts : Nat) : Withholds h { h with
      stopping := stopping, changedMs, reportedTimeout := reported
      timeouts := timeouts } where
  toRespects := .of_heap hv rfl rfl rfl rfl rfl hv.sound.active
    ⟨hv.stored.owned, hv.stored.distinct⟩ fun _ _ _ => rfl
  gate := .inl rfl

/-! ### The control functions -/

/-- The end of a program: a condition that the owners keep. -/
theorem secure_pure {α : Type} {post : α → Host R T → Prop}
    {a : α} (hpost : ∀ t, Rival h t → post a t) : Secure rivals guar post (pure a) h :=
  hpost

/-- A last store. -/
theorem secure_store_last {post : Unit → Host R T → Prop} {f : Host R T → Host R T}
    (hk : ∀ t, Rival h t → guar t (f t) ∧ ∀ u, Rival (f t) u → post () u) :
    Secure rivals guar post (Resumption.store f) h :=
  fun t hr => hk t hr

/-- The retired box is empty exactly when the view says so. -/
theorem Stored.kept_isSome (hs : h.Stored) (keep : Keep) :
    (h.kept keep).isSome = (h.box keep).isSome := by
  unfold box keptGeneration
  cases hk : h.kept keep with
  | none => rfl
  | some p => simpa [Alive] using hs.alive hk

end Host

namespace HostView

/-- Work of a generation is no longer admitted. -/
def unadmit (g : Retained) : Retained := { g with admitted := false }

/-- A generation's external users are gone. -/
def detach (g : Retained) : Retained := { g with detached := true }

/-- Why `publish_prepared` refuses a generation. -/
def rejection (generation : Retained) (v : HostView) : Option LifecycleError :=
  if v.stopping then some .stopped
  else if v.retired.isSome then some .retirementPending
  else if v.active.any fun old =>
      decide (generation.id ≤ old.id ∨ generation.settings.node ≠ old.settings.node) then
    some .invalidGeneration
  else none

/-- Without a stop or a pending retirement only the active generation decides. -/
theorem rejection_active (generation : Retained) {v : HostView} (hs : v.stopping = false)
    (hretired : v.retired.isSome = false) : v.rejection generation = if v.active.any fun old =>
        decide (generation.id ≤ old.id ∨ generation.settings.node ≠ old.settings.node) then
      some .invalidGeneration else none := by
  simp only [rejection, hs, hretired, if_neg Bool.false_ne_true]

/-- Detaching the active generation does not make it any more replaceable. -/
theorem rejection_detached (generation : Retained) (v : HostView) :
    (v.setBox .active ((v.box .active).map detach)).rejection generation
      = v.rejection generation := by
  unfold rejection setBox box
  cases v.active <;> rfl

def stop (v : HostView) : HostView :=
  { v with
    stopping := true, gated := true
    active := v.active.map unadmit, retired := v.retired.map unadmit }

/-- `gate_callbacks`. -/
def gate (v : HostView) : HostView := { v with gated := true }

/-- `restore_callbacks`. -/
def restore (v : HostView) : HostView := if v.stopping then v else { v with gated := false }

/-- Why `publish_transferring` refuses a generation before it closes the gate. -/
def transferRejection (generation : Retained) (v : HostView) : Option LifecycleError :=
  if v.stopping then some .stopped
  else if v.retired.isSome then some .retirementPending
  else match v.active with
    | none => some .stopped
    | some old =>
      if generation.id ≤ old.id ∨ generation.settings ≠ old.settings then some .invalidGeneration
      else none

/-- What `publish_transferring` accepts, `publish_prepared` accepts too. -/
theorem rejection_of_transfer {generation : Retained} {v : HostView}
    (h : v.transferRejection generation = none) : v.rejection generation = none := by
  unfold transferRejection at h
  cases ha : v.active <;> grind [rejection]

/-- Whether `mark_detached` finds its generation in a box. -/
def detachable (id : Nat) (keep : Keep) (v : HostView) : Bool :=
  (v.box keep).any fun g => g.id == id && !g.admitted

def markDetached (id : Nat) (v : HostView) : Except LifecycleError Unit × HostView :=
  if v.detachable id .active then (.ok (), v.setBox .active (v.active.map detach))
  else if v.detachable id .retired then (.ok (), v.setBox .retired (v.retired.map detach))
  else (.error .unknownGeneration, v)

/-- A reclamation drops some of the detached boxes. -/
def Reclaims (v v' : HostView) : Prop :=
  ∃ dropActive dropRetired : Bool,
    (dropActive = true → v.active.any (·.detached) = true)
      ∧ (dropRetired = true → v.retired.any (·.detached) = true)
      ∧ v' = { v with
        active := if dropActive then none else v.active
        retired := if dropRetired then none else v.retired }

/-- The view after a publication. -/
def published (generation : Retained) (v : HostView) : HostView :=
  { v with active := some generation, retired := v.active.map unadmit, gated := false }

end HostView

namespace Host

variable {h : Host R T}

/-- `publish_prepared` refuses exactly as the view says, and otherwise publishes. -/
def PublishPost (h : Host R T) (generation : RuntimeGeneration R T)
    (result : Except LifecycleError Unit) (h' : Host R T) : Prop :=
  match h.view.rejection generation.retained with
  | some error => result = .error error ∧ Rival h h'
  | none => result = .ok () ∧ h'.Ready ∧ h'.view = h.view.published generation.retained

variable {t : Host R T}

theorem PublishPost.accepted {generation : RuntimeGeneration R T}
    {result : Except LifecycleError Unit} (hpost : PublishPost h generation result t)
    (haccept : h.view.rejection generation.retained = none) :
    result = .ok () ∧ t.Ready ∧ t.view = h.view.published generation.retained := by
  unfold PublishPost at hpost
  rw [haccept] at hpost
  exact hpost

/-- The owners do not change what a control function reads of a box. -/
theorem boxed_stable (hr : Rival h t) (keep : Keep) : t.boxed keep = h.boxed keep := by
  unfold boxed
  rw [hr.kept]
  cases h.kept keep with
  | none => rfl
  | some p =>
    have hheap := hr.heap p
    cases ht : t.heap p <;> cases hh : h.heap p <;> simp_all [RuntimeGeneration.retained]

theorem boxed_any (keep : Keep) (f : Nat → GenerationSettings → Bool) :
    (h.boxed keep).any (fun b => f b.id b.settings)
      = (h.box keep).any fun g => f g.id g.settings := by
  unfold boxed box keptGeneration
  cases h.kept keep with
  | none => rfl
  | some p => cases hp : h.heap p <;> simp [hp, RuntimeGeneration.retained]

theorem boxed_none {keep : Keep} (hold : h.boxed keep = none) : h.box keep = none := by
  simpa [boxed, box, keptGeneration] using hold

/-- No longer admitting work for a box. -/
theorem clearAdmitted_step (hv : h.Valid) (keep : Keep) : Withholds h (h.clearAdmitted keep)
      ∧ (h.clearAdmitted keep).view
        = h.view.setBox keep ((h.view.box keep).map HostView.unadmit) := by
  unfold clearAdmitted
  cases hk : h.kept keep with
  | none =>
    refine ⟨.refl hv, ?_⟩
    cases keep <;> simp_all [view, HostView.setBox, HostView.box, box, keptGeneration]
  | some p =>
    exact ⟨modify_withholds hv p fun _ => ⟨rfl, rfl, rfl, rfl⟩, view_modify hv hk fun _ => rfl⟩

theorem clearAdmitted_store (keep : Keep) :
    (h.clearAdmitted keep).active = h.active ∧ (h.clearAdmitted keep).storeActive = h.storeActive
      ∧ (h.clearAdmitted keep).storeRetired = h.storeRetired := by
  unfold clearAdmitted
  split <;> exact ⟨rfl, rfl, rfl⟩

variable {p : Addr}

/-- Behind a closed gate nothing is published. -/
theorem Paused.of_gated (hv : h.Valid) (hactive : h.active = none) : h.Paused where
  toValid := hv
  published := by rw [hactive]; nofun
  stopped _ := hactive

/-- A published generation that admits work makes the host ready. -/
theorem Ready.of_published (hv : h.Valid) (hactive : h.active = some p)
    (hstore : h.storeActive = some p) (hs : h.stopping = false) {g : Retained}
    (hbox : h.box .active = some g) (hg : g.admitted = true ∧ g.detached = false) : h.Ready where
  toValid := hv
  published q hq := by rw [hactive] at hq; rw [hstore, hq]
  stopped hs' := by rw [hs] at hs'; cases hs'
  admitting _ := ⟨g, hbox, hg⟩

variable {generation : RuntimeGeneration R T}
  (hfresh : generation.admitted = true ∧ generation.detached = false)

include hfresh in
/-- A new host publishes its generation to owners that do not exist yet. -/
theorem new_ready (pointer : Addr)
    (hints : List Addr) : (Host.new generation pointer hints).Ready := by
  have hvalid : (Host.new generation pointer hints).Valid := by
    refine ⟨⟨fun slot => trivial, ?_, fun _ _ => rfl⟩, ⟨fun p => ?_, nofun⟩⟩
    · rintro p ⟨⟩
      simp [Alive, Host.new]
    · by_cases hp : p = pointer
      · subst hp; simp [Alive, Host.new]
      · have hp' : ¬ pointer = p := fun h => hp h.symm
        simp [Alive, Host.new, hp, hp']
  exact .of_published hvalid rfl rfl rfl (g := generation.retained)
    (by simp [box, keptGeneration, kept, Host.new]) hfresh

theorem Ready.register (hready : h.Ready) (hregistered : h.registered = false) :
    Ready { h with registered := true } where
  sound := ⟨fun slot => by
    rw [hready.sound.unregistered hregistered slot]
    trivial, hready.sound.active, nofun⟩
  stored := ⟨hready.stored.owned, hready.stored.distinct⟩
  published := hready.published
  stopped := hready.stopped
  admitting := hready.admitting

include hfresh in
theorem replaceActive_secure (hv : h.Valid) (hs : h.stopping = false)
    (hretired : h.storeRetired = none) (nowMs : Nat) :
    Secure rivals Respects (fun _ h' => h'.Ready ∧ h'.view = h.view.published generation.retained)
      (Control.replaceActive generation nowMs) h := by
  refine secure_store fun h₁ hr₁ => ?_
  obtain ⟨hclear, hview₂⟩ := clearAdmitted_step (hr₁.valid hv) .active
  refine ⟨hclear.toRespects, ?_⟩
  obtain ⟨-, -, hstore₂⟩ := clearAdmitted_store (h := h₁) .active
  -- the retired box stays empty until the swap
  intro h₃ hr₃
  have hv₃ := hr₃.valid hclear.valid
  have hretired₃ : h₃.storeRetired = none :=
    (hr₃.storeRetired.trans hstore₂).trans (hr₁.storeRetired.trans hretired)
  have hrespects := retire_respects hretired₃ generation hv₃
  refine ⟨hrespects, ?_⟩
  have hview₄ := view_retire hretired₃ generation hv₃
  have hstore₄ : (h₃.retire generation).storeActive = some h₃.freeAddress := by
    simp [retire]
  intro h₅ hr₅
  have hv₅ := hr₅.valid hrespects.valid
  have hstore₅ : h₅.storeActive = some h₃.freeAddress := hr₅.storeActive.trans hstore₄
  have hpublish := publish_respects hv₅ ((hv₅.stored.owned _).mpr (.inl hstore₅))
  refine ⟨hpublish, ?_⟩
  intro h₇ hr₇
  have hflags := flags_withholds (hr₇.valid hpublish.valid) h₇.stopping nowMs h₇.reportedTimeout
    h₇.timeouts
  refine ⟨hflags.toRespects, fun h₉ hr₉ => ?_⟩
  have hview₉ : h₉.view = h.view.published generation.retained := by
    have hview₇ : h₇.view = { h₅.view with gated := false } := hr₇.view
    rw [hr₉.view]
    change h₇.view = _
    rw [hview₇, hr₅.view, hview₄, hr₃.view, hview₂, hr₁.view]
    rfl
  refine ⟨.of_published (hr₉.valid hflags.valid) (hr₉.active.trans hr₇.active)
    (hr₉.storeActive.trans (hr₇.storeActive.trans hstore₅)) ?_ (g := generation.retained) ?_ hfresh,
    hview₉⟩
  · exact (congrArg HostView.stopping hview₉).trans hs
  · exact congrArg HostView.active hview₉

include hfresh in
theorem publishPrepared_secure (hp : h.Paused) (nowMs : Nat) :
    Secure rivals Respects (PublishPost h generation)
      (Control.publishPrepared generation nowMs) h := by
  have hrefl := hp.toValid.respects
  refine secure_readStore hrefl (fun t hr => hr.stopping) ?_
  cases hs : h.stopping with
  | true =>
    refine secure_pure fun t hr => ?_
    simp [PublishPost, HostView.rejection, view, hs, hr]
  | false =>
    refine secure_readStore hrefl (fun t hr => hr.storeRetired) ?_
    have hkept : h.storeRetired.isSome = h.view.retired.isSome :=
      hp.stored.kept_isSome .retired
    by_cases hretired : h.storeRetired.isSome = true
    · rw [if_pos hretired]
      refine secure_pure fun t hr => ?_
      rw [hkept] at hretired
      simp [PublishPost, HostView.rejection, show h.view.stopping = false from hs, hretired, hr]
    · rw [if_neg hretired]
      have hnone : h.storeRetired = none := by simpa using hretired
      have hretired' : h.view.retired.isSome = false := by rw [← hkept, hnone]; rfl
      refine secure_readStore hrefl (fun t hr => boxed_stable hr .active) ?_
      have hany := boxed_any (h := h) .active fun id settings =>
        decide (generation.id ≤ id ∨ generation.settings.node ≠ settings.node)
      rw [hany]
      by_cases hinvalid : (h.box .active).any (fun g =>
          decide (generation.id ≤ g.id ∨ generation.settings.node ≠ g.settings.node)) = true
      · rw [if_pos hinvalid]
        refine secure_pure fun t hr => ?_
        have hreject :=
          (HostView.rejection_active generation.retained hs hretired').trans (if_pos hinvalid)
        simp [PublishPost, hreject, hr]
      · rw [if_neg hinvalid]
        have haccept :=
          (HostView.rejection_active generation.retained hs hretired').trans (if_neg hinvalid)
        refine Secure.seq (replaceActive_secure hfresh hp.toValid hs hnone nowMs) fun _ t ht =>
          secure_pure fun u hu => ?_
        simp only [PublishPost, haccept]
        exact ⟨trivial, hu.ready ht.1, hu.view.trans ht.2⟩

theorem stop_secure (hv : h.Valid) (nowMs : Nat) :
    Secure rivals Withholds (fun _ h' => h'.Ready ∧ h'.view = h.view.stop)
      (Control.stop nowMs) h := by
  refine secure_store fun h₁ hr₁ => ?_
  have hstop := flags_withholds (hr₁.valid hv) true h₁.changedMs h₁.reportedTimeout h₁.timeouts
  refine ⟨hstop, secure_store fun h₃ hr₃ => ?_⟩
  have hgate := gate_withholds (hr₃.valid hstop.valid)
  refine ⟨hgate, secure_store fun h₅ hr₅ => ?_⟩
  obtain ⟨hactive, hview₆⟩ := clearAdmitted_step (hr₅.valid hgate.valid) .active
  obtain ⟨hactive₆, -, -⟩ := clearAdmitted_store (h := h₅) .active
  refine ⟨hactive, secure_store fun h₇ hr₇ => ?_⟩
  obtain ⟨hretired, hview₈⟩ := clearAdmitted_step (hr₇.valid hactive.valid) .retired
  obtain ⟨hactive₈, -, -⟩ := clearAdmitted_store (h := h₇) .retired
  refine ⟨hretired, secure_store_last fun h₉ hr₉ => ?_⟩
  have hflags := flags_withholds (hr₉.valid hretired.valid) h₉.stopping nowMs h₉.reportedTimeout
    h₉.timeouts
  refine ⟨hflags, fun h' hr' => ?_⟩
  have hnone : h'.active = none := by
    rw [hr'.active]
    rw [hr₉.active, hactive₈, hr₇.active, hactive₆, hr₅.active]
  have hview : h'.view = h.view.stop := by
    have hview₅ : h₅.view = { h₃.view with gated := true } := hr₅.view
    have hview₃ : h₃.view = { h₁.view with stopping := true } := hr₃.view
    rw [hr'.view]
    change h₉.view = _
    rw [hr₉.view, hview₈, hr₇.view, hview₆, hview₅, hview₃, hr₁.view]
    rfl
  have hstopping : h'.stopping = true := congrArg HostView.stopping hview
  exact ⟨⟨.of_gated (hr'.valid hflags.valid) hnone, by rw [hstopping]; nofun⟩, hview⟩

/-- A closed gate leaves a host ready. -/
theorem Ready.gated (hready : h.Ready) : Ready { h with active := none } where
  toPaused := .of_gated (gate_withholds hready.toValid).valid rfl
  admitting := hready.admitting

theorem gateCallbacks_secure (hready : h.Ready) :
    Secure rivals Withholds (fun _ h' => h'.Ready ∧ h'.view = h.view.gate)
      Control.gateCallbacks h := by
  refine secure_store_last fun h₁ hr₁ => ?_
  have hready₁ := hr₁.ready hready
  refine ⟨gate_withholds hready₁.toValid,
    fun h' hr' => ⟨hr'.ready hready₁.gated, hr'.view.trans ?_⟩⟩
  · change { h₁.view with gated := true } = _
    rw [hr₁.view]
    rfl

/-- Republishing the active generation of a host that is not stopping. -/
theorem republish (hready : h.Ready) (hs : h.stopping = false) (hp : h.storeActive = some p) :
    Respects h { h with active := some p } ∧ Ready { h with active := some p }
      ∧ view { h with active := some p } = { h.view with gated := false } := by
  have hpublish := publish_respects hready.toValid ((hready.stored.owned p).mpr (.inl hp))
  obtain ⟨g, hbox, hg⟩ := hready.admitting hs
  exact ⟨hpublish, .of_published hpublish.valid rfl hp hs hbox hg, rfl⟩

theorem restoreCallbacks_secure (hready : h.Ready) :
    Secure rivals Respects (fun _ h' => h'.Ready ∧ h'.view = h.view.restore)
      Control.restoreCallbacks h := by
  have hrefl := hready.toValid.respects
  refine secure_readStore hrefl (fun t hr => hr.stopping) ?_
  cases hs : h.stopping with
  | true =>
    refine secure_pure fun t hr => ⟨hr.ready hready, hr.view.trans ?_⟩
    simp [HostView.restore, view, hs]
  | false =>
    refine secure_readStore hrefl (fun t hr => hr.storeActive) ?_
    obtain ⟨g, hbox, -⟩ := hready.admitting hs
    cases hp : h.storeActive with
    | none => simp [box, keptGeneration, kept, hp] at hbox
    | some p =>
      refine secure_store_last fun t hr => ?_
      obtain ⟨hrespects, hready', hview⟩ := republish (hr.ready hready) (hr.stopping.trans hs)
        (hr.storeActive.trans hp)
      refine ⟨hrespects, fun u hu => ⟨hu.ready hready', hu.view.trans (hview.trans ?_)⟩⟩
      rw [hr.view]
      simp [HostView.restore, view, hs]

/-- **The hazard scan behind a closed gate**: an owner whose slot was seen empty guards nothing and
cannot guard anything again. -/
theorem anyHazard_secure (hv : h.Valid) (hgate : h.active = none) : Secure rivals Withholds
      (fun found t => Rival h t ∧ (found = false → ∀ slot p, ¬ t.Guards slot p))
      Control.anyHazard h := by
  have hrefl := hv.withholds
  refine secure_load hrefl fun t hr => ?_
  by_cases hreceive : (t.hazards .receive).isSome = true
  · rw [if_pos hreceive]
    exact secure_pure fun u hu => ⟨hr.trans hu, nofun⟩
  rw [if_neg hreceive]
  have hfree : ∀ p, ¬ t.Guards .receive p := fun p =>
    (hr.sound hv.sound).not_guards fun hz => hreceive (by rw [hz]; rfl)
  refine secure_load (hr.valid hv).withholds fun u hu => ?_
  refine secure_pure fun w hw => ⟨(hr.trans hu).trans hw, fun hz slot p => ?_⟩
  have htransmit : u.hazards .transmit = none := by simpa using hz
  have hunpublished : h.active ≠ some p := by rw [hgate]; nofun
  cases slot with
  | receive => exact (hu.trans hw).unguarded (hr.unpublished hunpublished) (hfree p)
  | transmit =>
    refine hw.unguarded ((hr.trans hu).unpublished hunpublished) ?_
    exact (hu.sound (hr.sound hv.sound)).not_guards (by rw [htransmit]; nofun)

/-- What `publish_transferring` leaves behind. A protected callback rejects it with the gate open
again. -/
def TransferPost (h : Host R T) (generation : RuntimeGeneration R T)
    (result : Except LifecycleError Unit) (h' : Host R T) : Prop :=
  match h.view.transferRejection generation.retained with
  | some error => result = .error error ∧ Rival h h'
  | none => h'.Ready ∧
    (result = .error .callbacksActive ∧ h'.view = { h.view with gated := false }
      ∨ result = .ok () ∧ h'.view = h.view.published generation.retained)

/-- Moving the states of a generation that no owner guards. -/
theorem transferStates_secure (hv : h.Valid) (hgate : h.active = none)
    (hfree : ∀ slot p, ¬ h.Guards slot p) (p : Addr) (generation : RuntimeGeneration R T)
    (transfer : R → T → R → T → (R × T) × (R × T)) : Secure rivals Respects
      (fun g t => t.Valid ∧ t.active = none ∧ t.view = h.view ∧ g.retained = generation.retained)
      (Control.transferStates p generation transfer) h := by
  intro t hr
  have hv' := hr.valid hv
  have hfree' : ∀ slot p, ¬ t.Guards slot p := fun slot p =>
    hr.unguarded (by rw [hgate]; nofun) (hfree slot p)
  have hgate' : t.active = none := hr.active.trans hgate
  cases hp : t.heap p with
  | none =>
    simp only [hp]
    refine ⟨.refl hv', fun u hu => ⟨hu.valid hv', hu.active.trans hgate', ?_, rfl⟩⟩
    exact hu.view.trans hr.view
  | some old =>
    simp only [hp]
    generalize htransfer : transfer old.receive old.transmit generation.receive
      generation.transmit = moved
    obtain ⟨⟨oldReceive, oldTransmit⟩, receive, transmit⟩ := moved
    have hmodify := modify_rival t p (f := fun g : RuntimeGeneration R T =>
      { g with receive := oldReceive, transmit := oldTransmit }) fun _ => rfl
    refine ⟨?_, fun u hu => ⟨hu.valid (hmodify.valid hv'),
      hu.active.trans hgate', (hu.view.trans hmodify.view).trans hr.view, rfl⟩⟩
    exact ⟨rfl, rfl, fun _ => rfl, rfl, rfl, hmodify.valid hv',
      fun slot q hg => absurd hg (hfree' slot q)⟩

variable {keep : Keep}

/-- What a control function reads of a box is what the box holds. -/
theorem boxed_eq {old : Boxed} (hold : h.boxed keep = some old) :
    h.kept keep = some old.pointer ∧ ∃ g, h.heap old.pointer = some g
      ∧ h.box keep = some g.retained ∧ g.id = old.id ∧ g.settings = old.settings := by
  unfold boxed at hold
  cases hk : h.kept keep with
  | none => simp [hk] at hold
  | some p =>
    cases hg : h.heap p with
    | none => simp [hk, hg] at hold
    | some g =>
      have hold' : (⟨p, g.id, g.settings⟩ : Boxed) = old := by simpa [hk, hg] using hold
      subst hold'
      exact ⟨rfl, g, hg, by simp [box, keptGeneration, hk, hg], rfl, rfl⟩

include hfresh in
/-- **`publish_transferring` moves no state under a live guard.** It ends as `TransferPost` says. -/
theorem publishTransferring_secure (hready : h.Ready) (nowMs : Nat)
    (transfer : R → T → R → T → (R × T) × (R × T)) :
    Secure rivals Respects (TransferPost h generation)
      (Control.publishTransferring generation nowMs transfer) h := by
  have hrefl := hready.toValid.respects
  refine secure_readStore hrefl (fun t hr => hr.stopping) ?_
  cases hs : h.stopping with
  | true =>
    refine secure_pure fun t hr => ?_
    simp [TransferPost, HostView.transferRejection, view, hs, hr]
  | false =>
  refine secure_readStore hrefl (fun t hr => hr.storeRetired) ?_
  have hkept : h.storeRetired.isSome = h.view.retired.isSome := hready.stored.kept_isSome .retired
  have hs' : h.view.stopping = false := hs
  by_cases hretired : h.storeRetired.isSome = true
  · rw [if_pos hretired]
    refine secure_pure fun t hr => ?_
    rw [hkept] at hretired
    simp [TransferPost, HostView.transferRejection, hs', hretired, hr]
  rw [if_neg hretired]
  have hretired' : h.view.retired.isSome = false := by rw [← hkept]; simpa using hretired
  refine secure_readStore hrefl (fun t hr => boxed_stable hr .active) ?_
  cases hold : h.boxed .active with
  | none =>
    -- a host that is not stopping has an active generation
    obtain ⟨g, hbox, -⟩ := hready.admitting hs
    rw [boxed_none hold] at hbox
    cases hbox
  | some old =>
  obtain ⟨hstore, g, -, hview, hid, hsettings⟩ := boxed_eq hold
  have hview : h.view.active = some g.retained := hview
  have hreject : h.view.transferRejection generation.retained
      = if generation.id ≤ old.id ∨ generation.settings ≠ old.settings then
          some .invalidGeneration else none := by
    rw [← hid, ← hsettings]
    unfold HostView.transferRejection
    rw [hs', hretired', hview]
    rfl
  simp only
  by_cases hinvalid : generation.id ≤ old.id ∨ generation.settings ≠ old.settings
  · rw [if_pos hinvalid]
    refine secure_pure fun t hr => ?_
    rw [if_pos hinvalid] at hreject
    simp [TransferPost, hreject, hr]
  rw [if_neg hinvalid] at hreject ⊢
  unfold TransferPost
  rw [hreject]
  refine secure_store fun h₁ hr₁ => ?_
  have hready₁ := hr₁.ready hready
  have hgate := gate_withholds hready₁.toValid
  refine ⟨hgate.toRespects, Secure.bind ((anyHazard_secure hgate.valid rfl).mono
    (fun _ _ h => h.toRespects) fun found h₃ h₃post => ?_)⟩
  obtain ⟨hr₃, hscan⟩ := h₃post
  have hview₃ : h₃.view = { h.view with gated := true } := by
    rw [hr₃.view, ← hr₁.view]
    rfl
  cases found with
  | true =>
    -- a callback is protected: the old generation is published again
    have hready₃ : h₃.Ready := hr₃.ready hready₁.gated
    refine secure_store fun h₄ hr₄ => ?_
    obtain ⟨hrespects, hready₅, hview₅⟩ := republish (hr₄.ready hready₃)
      ((congrArg HostView.stopping (hr₄.view.trans hview₃)).trans hs)
      ((hr₄.storeActive.trans hr₃.storeActive).trans (hr₁.storeActive.trans hstore))
    refine ⟨hrespects, secure_pure fun h' hr' => ⟨hr'.ready hready₅, .inl ⟨rfl, ?_⟩⟩⟩
    rw [hr'.view, hview₅, hr₄.view, hview₃]
  | false =>
    refine Secure.seq (transferStates_secure (hr₃.valid hgate.valid) hr₃.active
      (hscan rfl) old.pointer generation transfer) fun g' h₅ h₅post => ?_
    obtain ⟨hv₅, hactive₅, hview₅, hg'⟩ := h₅post
    have hfresh' : g'.admitted = true ∧ g'.detached = false :=
      ⟨(congrArg Retained.admitted hg').trans hfresh.1,
        (congrArg Retained.detached hg').trans hfresh.2⟩
    refine (publishPrepared_secure hfresh' (.of_gated hv₅ hactive₅) nowMs).mono (fun _ _ h => h)
      fun r h' hpost => ?_
    have haccept : h₅.view.rejection g'.retained = none := by
      rw [hg', hview₅, hview₃]
      exact HostView.rejection_of_transfer (v := { h.view with gated := true }) hreject
    obtain ⟨hr, hready', hview'⟩ := hpost.accepted haccept
    exact ⟨hready', .inr ⟨hr, by rw [hview', hview₅, hview₃, hg']; rfl⟩⟩

include hfresh in
theorem publish_secure (hready : h.Ready) (nowMs : Nat) :
    Secure rivals Respects (fun _ h' => h'.Ready) (Control.publish generation nowMs) h := by
  have hrefl := hready.toValid.respects
  refine secure_readStore hrefl (fun t hr => boxed_stable hr .active) ?_
  split
  · exact secure_pure fun t hr => hr.ready hready
  refine (publishPrepared_secure hfresh hready.toPaused nowMs).mono (fun _ _ h => h)
    fun r h' hpost => ?_
  unfold PublishPost at hpost
  split at hpost
  · exact hpost.2.ready hready
  · exact hpost.2.1

/-- Detaching what a box holds. -/
theorem detach_step (hv : h.Valid) (keep : Keep) (hp : h.kept keep = some p) :
    Withholds h (h.modify p fun g => { g with detached := true })
      ∧ (h.modify p fun g => { g with detached := true }).view
        = h.view.setBox keep ((h.view.box keep).map HostView.detach) :=
  ⟨modify_withholds hv p fun _ => ⟨rfl, rfl, rfl, rfl⟩, view_modify hv hp fun _ => rfl⟩

theorem busy_secure (hv : h.Valid) (hgate : h.active = none) (p : Addr) :
    Secure rivals Respects (fun _ t => Rival h t) (Control.handoff.busy p) h := by
  refine .bind ((anyHazard_secure hv hgate).mono (fun _ _ h => h.toRespects)
    fun found t ht => ?_)
  split
  · exact secure_pure fun u hu => ht.1.trans hu
  · refine secure_load (ht.1.valid hv).respects fun u hu => ?_
    exact secure_pure fun w hw => (ht.1.trans hu).trans hw

section

variable (hready : h.Ready)
include hready

include hfresh in
theorem handoff_secure {D : Type} [DeviceHandoff D] (device : D) (nowMs : Nat) :
    Secure rivals Respects (fun _ h' => h'.Ready) (Control.handoff generation device nowMs) h := by
  have hrefl := hready.toValid.respects
  refine secure_readStore hrefl (fun t hr => hr.stopping) ?_
  cases hs : h.stopping with
  | true => exact secure_pure fun t hr => hr.ready hready
  | false =>
  refine secure_readStore hrefl (fun t hr => hr.storeRetired) ?_
  by_cases hretired : h.storeRetired.isSome = true
  · rw [if_pos hretired]
    exact secure_pure fun t hr => hr.ready hready
  rw [if_neg hretired]
  refine secure_readStore hrefl (fun t hr => boxed_stable hr .active) ?_
  cases hold : h.boxed .active with
  | none => exact secure_pure fun t hr => hr.ready hready
  | some old =>
  obtain ⟨hstore, g, -, hview, hid, hsettings⟩ := boxed_eq hold
  have hview : h.view.active = some g.retained := hview
  simp only
  by_cases hinvalid : generation.id ≤ old.id ∨ generation.settings.node ≠ old.settings.node
  · rw [if_pos hinvalid]
    exact secure_pure fun t hr => hr.ready hready
  rw [if_neg hinvalid]
  split
  · exact secure_pure fun t hr => hr.ready hready
  refine secure_store fun h₁ hr₁ => ?_
  have hready₁ := hr₁.ready hready
  have hgate := gate_withholds hready₁.toValid
  refine ⟨hgate.toRespects, .seq (busy_secure hgate.valid rfl old.pointer) fun found h₃ hr₃ => ?_⟩
  have hready₃ := hr₃.ready hready₁.gated
  have hs₃ : h₃.stopping = false := hr₃.stopping.trans (hr₁.stopping.trans hs)
  have hstore₃ : h₃.storeActive = some old.pointer :=
    hr₃.storeActive.trans (hr₁.storeActive.trans hstore)
  have hrestore : ∀ (result : Except LifecycleError Unit × D),
      Secure rivals Respects (fun _ h' => h'.Ready)
        (Control.publishPointer (some old.pointer) >>= fun _ => pure result) h₃ := by
    refine fun result => secure_store fun h₄ hr₄ => ?_
    obtain ⟨hrespects, hready₅, -⟩ := republish (hr₄.ready hready₃) (hr₄.stopping.trans hs₃)
      (hr₄.storeActive.trans hstore₃)
    exact ⟨hrespects, secure_pure fun h' hr' => hr'.ready hready₅⟩
  split
  · exact hrestore _
  split
  · -- the new device opened: the old generation is detached and retired
    refine secure_store fun h₄ hr₄ => ?_
    have hv₄ := hr₄.valid hready₃.toValid
    obtain ⟨hdetach, hview₅⟩ := detach_step hv₄ .active (hr₄.storeActive.trans hstore₃)
    have hpaused := Paused.of_gated hdetach.valid (hr₄.active.trans hr₃.active)
    refine ⟨hdetach.toRespects, .seq (publishPrepared_secure hfresh hpaused nowMs) fun r h' hpost =>
      secure_pure fun u hu => hu.ready ?_⟩
    have hview₄ : h₄.view = { h.view with gated := true } := by
      rw [hr₄.view, hr₃.view, ← hr₁.view]
      rfl
    have hretired' : h.view.retired.isSome = false :=
      (hready.stored.kept_isSome .retired).symm.trans (Bool.eq_false_iff.mpr hretired)
    have haccept : (h₄.modify old.pointer fun g => { g with detached := true }).view.rejection
        generation.retained = none := by
      rw [hview₅, hview₄]
      refine (HostView.rejection_detached _ { h.view with gated := true }).trans
        ((HostView.rejection_active _ hs hretired').trans (if_neg ?_))
      rw [hview]
      exact fun hrejected => hinvalid (hid ▸ hsettings ▸ of_decide_eq_true hrejected)
    exact (hpost.accepted haccept).2.1
  split
  · exact hrestore _
  -- neither device opened
  refine secure_store fun h₄ hr₄ => ?_
  have hv₄ := hr₄.valid hready₃.toValid
  obtain ⟨hdetach, -⟩ := detach_step hv₄ .active (hr₄.storeActive.trans hstore₃)
  refine ⟨hdetach.toRespects, .bind ((stop_secure hdetach.valid nowMs).mono
    (fun _ _ h => h.toRespects) fun _ h' hpost => secure_pure fun u hu => hu.ready hpost.1)⟩

theorem work_secure :
    Secure rivals Withholds (fun _ h' => h'.Ready ∧ h'.view = h.view) Control.work h := by
  have hrefl := hready.toValid.withholds
  refine secure_readStore hrefl (fun t hr => hr.stopping) ?_
  split
  · exact secure_pure fun t hr => ⟨hr.ready hready, hr.view⟩
  refine secure_readStore hrefl (fun t hr => boxed_stable hr .active) ?_
  split
  · exact secure_pure fun t hr => ⟨hr.ready hready, hr.view⟩
  rename_i old _
  refine secure_store fun t hr => ?_
  have hrival := modify_rival t old.pointer
    (f := fun g : RuntimeGeneration R T => { g with outstanding := g.outstanding + 1 })
    fun _ => rfl
  refine ⟨modify_withholds (hr.valid hready.toValid) _ fun _ => ⟨rfl, rfl, rfl, rfl⟩,
    secure_pure fun u hu => ?_⟩
  have hall := (hr.trans hrival).trans hu
  exact ⟨hall.ready hready, hall.view⟩

/-- `mark_detached` for one box: the flag is set exactly if the view says so. -/
theorem markDetachedBox_secure (keep : Keep) (id : Nat) :
    Secure rivals Withholds (fun found h' => h'.Ready ∧ found = h.view.detachable id keep
        ∧ h'.view = if found then h.view.setBox keep ((h.view.box keep).map HostView.detach)
          else h.view)
      (Control.markDetachedBox keep id) h := by
  refine secure_readStore hready.toValid.withholds (fun t hr => boxed_stable hr keep) ?_
  cases hold : h.boxed keep with
  | none =>
    refine secure_pure fun t hr => ⟨hr.ready hready, ?_, hr.view⟩
    simp [HostView.detachable, boxed_none hold]
  | some old =>
  obtain ⟨hkept, g, hheap, hg, hid, -⟩ := boxed_eq hold
  simp only
  by_cases hother : old.id ≠ id
  · rw [if_pos hother]
    refine secure_pure fun t hr => ⟨hr.ready hready, ?_, hr.view⟩
    simp [HostView.detachable, hg, RuntimeGeneration.retained, hid, hother]
  rw [if_neg hother]
  have hsame : g.id = id := hid.trans (not_not.mp hother)
  refine secure_load hready.toValid.withholds fun t hr => ?_
  rw [show (t.heap old.pointer).any (·.admitted) = g.admitted from hr.heap_any hheap (·.admitted)]
  cases hadmitted : g.admitted with
  | true =>
    refine secure_pure fun u hu => ⟨(hr.trans hu).ready hready, ?_, (hr.trans hu).view⟩
    simp [HostView.detachable, hg, RuntimeGeneration.retained, hadmitted]
  | false =>
    refine secure_store fun u hu => ?_
    have hru := hr.trans hu
    have hready' := hru.ready hready
    obtain ⟨hdetach, hview⟩ := detach_step hready'.toValid keep ((hru.kept keep).trans hkept)
    refine ⟨hdetach, secure_pure fun w hw => ⟨hw.ready ?_, ?_, ?_⟩⟩
    · refine
        { toValid := hdetach.valid
          published := hready'.published
          stopped := hready'.stopped
          admitting := fun hs => ?_ }
      obtain ⟨a, ha, haccepts⟩ := hready'.admitting hs
      cases keep with
      | active =>
        -- an active generation that admits no work belongs to a stopping host
        rw [hru.box, hg] at ha
        rw [← Option.some.inj ha, RuntimeGeneration.retained] at haccepts
        rw [hadmitted] at haccepts
        cases haccepts.1
      | retired => exact ⟨a, (congrArg HostView.active hview).trans ha, haccepts⟩
    · simp [HostView.detachable, hg, RuntimeGeneration.retained, hadmitted, hsame]
    · rw [hw.view, hview, hru.view, if_pos rfl]

theorem markDetached_secure (id : Nat) : Secure rivals Withholds
      (fun result h' => h'.Ready ∧ (result, h'.view) = h.view.markDetached id)
      (Control.markDetached id) h := by
  refine Secure.seq (markDetachedBox_secure hready .active id) fun found t ht => ?_
  obtain ⟨hready₁, hfound, hview₁⟩ := ht
  cases found with
  | true =>
    refine secure_pure fun u hu => ⟨hu.ready hready₁, ?_⟩
    rw [hu.view, hview₁]
    simp [HostView.markDetached, ← hfound, HostView.box]
  | false =>
    rw [if_neg Bool.false_ne_true] at hview₁
    refine Secure.seq (markDetachedBox_secure hready₁ .retired id) fun found' u hu => ?_
    obtain ⟨hready₂, hfound', hview₂⟩ := hu
    rw [hview₁] at hfound' hview₂
    cases found' with
    | true =>
      refine secure_pure fun w hw => ⟨hw.ready hready₂, ?_⟩
      rw [hw.view, hview₂]
      simp [HostView.markDetached, ← hfound, ← hfound', HostView.box]
    | false =>
      refine secure_pure fun w hw => ⟨hw.ready hready₂, ?_⟩
      rw [hw.view, hview₂]
      simp [HostView.markDetached, ← hfound, ← hfound']

/-- A detached box is not the published one: it is retired, or its host is stopping. -/
theorem Ready.detached_unpublished
    (hkept : h.kept keep = some p) {g : Retained} (hg : h.box keep = some g)
    (hdetached : g.detached = true) : h.active ≠ some p := by
  intro hactive
  have hstore := hready.published p hactive
  cases keep with
  | active =>
    cases hs : h.stopping with
    | true => rw [hready.stopped hs] at hactive; cases hactive
    | false =>
      obtain ⟨a, ha, -, hattached⟩ := hready.admitting hs
      rw [hg] at ha
      rw [← Option.some.inj ha, hdetached] at hattached
      cases hattached
  | retired => exact hready.stored.distinct p hstore hkept

/-- **What `reclaim` finds ready to free is guarded by nobody.** -/
theorem reclaimable_secure (hkept : h.kept keep = some p) :
    Secure rivals Withholds (fun ready t => Rival h t ∧ (ready = true →
        (h.box keep).any (·.detached) = true ∧ h.active ≠ some p ∧ ∀ slot, ¬ t.Guards slot p))
      (Control.reclaimable p) h := by
  have hv := hready.toValid
  obtain ⟨g, hheap⟩ := Option.isSome_iff_exists.mp (hv.stored.alive hkept)
  have hbox : h.box keep = some g.retained := by simp [box, keptGeneration, hkept, hheap]
  refine secure_load hv.withholds fun t hr => ?_
  rw [show (t.heap p).any (·.detached) = g.detached from hr.heap_any hheap (·.detached)]
  cases hdetached : g.detached with
  | false => exact secure_pure fun u hu => ⟨hr.trans hu, by simp⟩
  | true =>
  have hactive := hready.detached_unpublished hkept hbox hdetached
  refine secure_load (hr.valid hv).withholds fun u hu => ?_
  split
  · exact secure_pure fun w hw => ⟨(hr.trans hu).trans hw, by simp⟩
  have hru := hr.trans hu
  refine secure_load (hru.valid hv).withholds fun w hw => ?_
  have hrw := hru.trans hw
  split
  · exact secure_pure fun x hx => ⟨hrw.trans hx, by simp⟩
  rename_i hreceive
  have hfree : ¬ w.Guards .receive p := (hrw.sound hv.sound).not_guards hreceive
  refine secure_load (hrw.valid hv).withholds fun x hx => ?_
  have hrx := hrw.trans hx
  refine secure_pure fun y hy => ⟨hrx.trans hy, fun htransmit => ?_⟩
  refine ⟨by simp [hbox, RuntimeGeneration.retained, hdetached], hactive, fun slot => ?_⟩
  cases slot with
  | receive => exact (hx.trans hy).unguarded (hrw.unpublished hactive) hfree
  | transmit =>
    exact hy.unguarded (hrx.unpublished hactive)
      ((hrx.sound hv.sound).not_guards (by simpa using htransmit))

theorem reclaimBox_secure (keep : Keep) :
    Secure rivals Withholds (fun _ h' => h'.Ready ∧ (h'.view = h.view
        ∨ (h.view.box keep).any (·.detached) = true ∧ h'.view = h.view.setBox keep none))
      (Control.reclaimBox keep) h := by
  refine secure_readStore hready.toValid.withholds (fun t hr => hr.kept keep) ?_
  cases hkept : h.kept keep with
  | none => exact secure_pure fun t hr => ⟨hr.ready hready, .inl hr.view⟩
  | some p =>
  refine .seq (reclaimable_secure hready hkept) fun ready t ht => ?_
  obtain ⟨hr, hsafe⟩ := ht
  cases ready with
  | false => exact secure_pure fun u hu =>
      ⟨(hr.trans hu).ready hready, .inl (hr.trans hu).view⟩
  | true =>
  obtain ⟨hdetached, hactive, hguards⟩ := hsafe rfl
  refine secure_store fun u hu => ?_
  have hru := hr.trans hu
  have hready' := hru.ready hready
  have hkept' : u.kept keep = some p := (hru.kept keep).trans hkept
  have hactive' : u.active ≠ some p := hru.unpublished hactive
  have hguards' : ∀ slot, ¬ u.Guards slot p := fun slot =>
    hu.unguarded (hr.unpublished hactive) (hguards slot)
  have hdiscard := discard_withholds hkept' hready'.toValid hactive' hguards'
  have hview := view_discard hkept' hready'.toValid
  refine ⟨hdiscard, secure_pure fun w hw => ⟨hw.ready ?_, .inr ⟨by simpa using hdetached, ?_⟩⟩⟩
  · have hframe := discard_frame hkept'
    refine
      { toValid := hdiscard.valid
        published := fun q hq => ?_
        stopped := fun hs => hframe.1.trans (hready'.stopped (hframe.2.1 ▸ hs))
        admitting := fun hs => ?_ }
    · rw [hframe.1] at hq
      have hstore := hready'.published q hq
      cases keep with
      | active => exact absurd (Option.some.inj (hstore.symm.trans hkept')) (by
          rintro rfl; exact hactive' hq)
      | retired => simpa [discard, free, show u.storeRetired = some p from hkept'] using hstore
    · obtain ⟨a, ha, haccepts⟩ := hready'.admitting (hframe.2.1 ▸ hs)
      cases keep with
      | active =>
        rw [hru.box] at ha
        rw [ha] at hdetached
        rw [show a.detached = true from hdetached] at haccepts
        cases haccepts.2
      | retired => exact ⟨a, (congrArg HostView.active hview).trans ha, haccepts⟩
  · rw [hw.view, hview, hru.view]

end

/-- Loads whose values only decide how the program goes on. -/
theorem adopted_secure (hv : h.Valid) :
    Secure rivals Withholds (fun _ t => Rival h t) Control.adopted h := by
  have hrefl := hv.withholds
  refine secure_readStore hrefl (fun t hr => hr.stopping) ?_
  split
  · exact secure_pure fun t hr => hr
  refine secure_readStore hrefl (fun t hr => boxed_stable hr .active) ?_
  split
  · exact secure_pure fun t hr => hr
  refine secure_load hrefl fun t hr => ?_
  split
  · exact secure_pure fun u hu => hr.trans hu
  refine secure_load (hr.valid hv).withholds fun u hu => ?_
  exact secure_pure fun w hw => (hr.trans hu).trans hw

/-- **`reclaim` drops only detached boxes that nobody guards.** -/
theorem reclaim_secure (hready : h.Ready) :
    Secure rivals Withholds (fun _ h' => h'.Ready ∧ h.view.Reclaims h'.view) Control.reclaim h := by
  have hsame : h.view.Reclaims h.view := ⟨false, false, by simp, by simp, rfl⟩
  refine .seq (adopted_secure hready.toValid) fun adopted t hr => ?_
  cases adopted with
  | false => exact secure_pure fun u hu =>
      ⟨(hr.trans hu).ready hready, by rw [(hr.trans hu).view]; exact hsame⟩
  | true =>
  refine .seq (reclaimBox_secure (hr.ready hready) .retired) fun _ u hu => ?_
  obtain ⟨hready₁, hview₁⟩ := hu
  refine .seq (reclaimBox_secure hready₁ .active) fun _ w hw => ?_
  obtain ⟨hready₂, hview₂⟩ := hw
  refine secure_pure fun x hx => ⟨hx.ready hready₂, ?_⟩
  rw [hx.view]
  rw [hr.view] at hview₁
  rcases hview₁ with hview₁ | ⟨hretired, hview₁⟩ <;> rw [hview₁] at hview₂ <;>
    rcases hview₂ with hview₂ | ⟨hactive, hview₂⟩ <;> rw [hview₂]
  · exact hsame
  · exact ⟨true, false, fun _ => hactive, by simp, rfl⟩
  · exact ⟨false, true, by simp, fun _ => hretired, rfl⟩
  · exact ⟨true, true, fun _ => hactive, fun _ => hretired, rfl⟩

/-- What `status` reports of the store, and what an unprotected report means behind a closed
gate. -/
structure StatusPost (h : Host R T) (status : LifecycleStatus) (t : Host R T) : Prop where
  rival : Rival h t
  active : status.active = h.activeId
  retiring : status.retiring = h.retiringId
  stopped : status.state = .stopped ↔ h.stopping = true ∧ h.storeActive = none
    ∧ h.storeRetired = none
  unprotected : status.protectedOwners = 0 → h.active = none → ∀ slot p, ¬ t.Guards slot p

theorem keptGeneration_id (keep : Keep) :
    (h.keptGeneration keep).map (·.id) = (h.box keep).map (·.id) := by
  simp [box, Function.comp_def, RuntimeGeneration.retained]

/-- The owners do not change the ids `status` reports. -/
theorem activeId_stable (hr : Rival h t) : t.activeId = h.activeId := by
  unfold activeId
  rw [hr.stopping, keptGeneration_id, keptGeneration_id, hr.box]

theorem retiringId_stable (hr : Rival h t) : t.retiringId = h.retiringId := by
  unfold retiringId
  simp only [hr.stopping, keptGeneration_id, hr.box]

theorem status_secure (hv : h.Valid) (nowMs : Nat) :
    Secure rivals Withholds (StatusPost h) (Control.status nowMs) h := by
  -- every state on the way is one the owners lead to from `h`
  have hload : ∀ {α : Type} {f : Host R T → α} {k : α → Control R T LifecycleStatus}
      {t : Host R T}, Rival h t →
      (∀ u, Rival h u → Rival t u → Secure rivals Withholds (StatusPost h) (k (f u)) u) →
      Secure rivals Withholds (StatusPost h) (.load f >>= k) t :=
    fun hr hk => secure_load (fun u hu => .refl ((hr.trans hu).valid hv))
      fun u hu => hk u (hr.trans hu) hu
  refine hload (.refl h) fun t₁ h₁ _ => hload h₁ fun t₂ h₂ _ => hload h₂ fun t₃ h₃ _ => ?_
  refine hload h₃ fun t₄ h₄ _ => hload h₄ fun t₅ h₅ _ => hload h₅ fun t₆ h₆ _ => ?_
  refine hload h₆ fun t₇ h₇ _ => hload h₇ fun t₈ h₈ _ => hload h₈ fun t₉ h₉ hstep₉ => ?_
  refine hload h₉ fun t₁₀ h₁₀ hstep₁₀ => hload h₁₀ fun t₁₁ h₁₁ hstep₁₁ => ?_
  refine hload h₁₁ fun t₁₂ h₁₂ hstep₁₂ => secure_pure fun u hu => ?_
  refine ⟨h₁₂.trans hu, activeId_stable h₄, retiringId_stable h₅, ?_, ?_⟩
  · have hempty : (t₆.storeActive.isNone && t₆.storeRetired.isNone) = true
        ↔ h.storeActive = none ∧ h.storeRetired = none := by
      rw [h₆.storeActive, h₆.storeRetired]
      simp
    have hstopping : t₃.stopping = h.stopping := h₃.stopping
    simp only [hstopping]
    split
    · split <;> simp_all
    rename_i hs
    refine iff_of_false ?_ fun hc => hs hc.1
    split
    · split <;> nofun
    · nofun
  · intro hprotected hgate slot p
    obtain ⟨hreceive, htransmit⟩ : t₈.hazards .receive = none ∧ t₉.hazards .transmit = none := by
      simpa using hprotected
    have hlast := hstep₁₀.trans (hstep₁₁.trans (hstep₁₂.trans hu))
    have hunpublished : h.active ≠ some p := by rw [hgate]; nofun
    cases slot with
    | receive =>
      exact (hstep₉.trans hlast).unguarded (h₈.unpublished hunpublished)
        ((h₈.sound hv.sound).not_guards (by rw [hreceive]; nofun))
    | transmit =>
      exact hlast.unguarded (h₉.unpublished hunpublished)
        ((h₉.sound hv.sound).not_guards (by rw [htransmit]; nofun))

theorem reportTimeout_secure (hready : h.Ready) (nowMs timeoutMs : Nat) :
    Secure rivals Withholds (fun _ h' => h'.Ready ∧ h'.view = h.view)
      (Control.reportTimeout nowMs timeoutMs) h := by
  refine .seq (status_secure hready.toValid nowMs) fun status t ht => ?_
  have hready₁ := ht.rival.ready hready
  refine secure_load (fun u hu => .refl (hu.valid hready₁.toValid)) fun u hu => ?_
  have hru := ht.rival.trans hu
  split
  · exact secure_pure fun w hw => ⟨(hru.trans hw).ready hready, (hru.trans hw).view⟩
  refine secure_store fun w hw => ?_
  have hready₂ := (hru.trans hw).ready hready
  have hflags := flags_withholds hready₂.toValid w.stopping w.changedMs
    (some (status.retiring, status.state)) (min (w.timeouts + 1) (2 ^ 64 - 1))
  refine ⟨hflags, secure_pure fun x hx => ⟨hx.ready ?_, ?_⟩⟩
  · exact { toValid := hflags.valid
            published := hready₂.published
            stopped := hready₂.stopped
            admitting := hready₂.admitting }
  · exact hx.view.trans (hru.trans hw).view

end Host

end RptAdvanced.Runtime
