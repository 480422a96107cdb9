import RptAdvanced.Lib.Run
import RptAdvanced.Runtime.HostControl

/-!
# Hazard-slot reclamation is safe

The host, its two registered audio owners and its control owner as one machine, at the granularity
of single atomic loads and stores. A move is one step of an owner, the next action of the running
control function, or the start of another one. Addresses are reused as soon as they are free.

Results:
* `Inv`: the host is valid and what is left of the running control function is secure under the
  owners' interference. `step_inv` and `reachable_inv` follow from the rules for secure programs.
* **`guarded_generation_kept`**: while a guard is live its generation is neither freed nor has its
  states moved; the halves of a paired guard denote one generation; the heap is what the two boxes
  of the store hold.
-/

namespace RptAdvanced.Runtime

open Host

open Lib (Resumption Run Reachable)
open Lib.Resumption (Secure)

/-- A generation as `prepare` makes it. -/
def Prepared (R T : Type) : Type :=
  { g : RuntimeGeneration R T // g.admitted = true ∧ g.detached = false }

/-- The operations of the control owner. -/
inductive ControlOp (R T D : Type)
  | publish (generation : Prepared R T) (nowMs : Nat)
  | publishTransferring (generation : Prepared R T) (nowMs : Nat)
      (transfer : R → T → R → T → (R × T) × (R × T))
  | handoff (generation : Prepared R T) (device : D) (nowMs : Nat)
  | markDetached (id : Nat)
  | stop (nowMs : Nat)
  | reclaim
  | gateCallbacks
  | restoreCallbacks
  | work
  | status (nowMs : Nat)
  | reportTimeout (nowMs timeoutMs : Nat)

/-- The machine: a host and what is left of the control function that is running. -/
structure Machine (R T : Type) where
  host : Host R T
  control : Control R T Unit

/-- What the machine does next. -/
inductive Move (R T D : Type)
  | own (step : OwnerStep R T)
  | start (op : ControlOp R T D)
  | control

variable {R T D : Type} [DeviceHandoff D]

/-- An operation as a program whose result nobody reads. -/
def ControlOp.program : ControlOp R T D → Control R T Unit
  | .publish generation nowMs => do let _ ← Control.publish generation.1 nowMs
  | .publishTransferring generation nowMs transfer => do
    let _ ← Control.publishTransferring generation.1 nowMs transfer
  | .handoff generation device nowMs => do let _ ← Control.handoff generation.1 device nowMs
  | .markDetached id => do let _ ← Control.markDetached id
  | .stop nowMs => Control.stop nowMs
  | .reclaim => do let _ ← Control.reclaim
  | .gateCallbacks => Control.gateCallbacks
  | .restoreCallbacks => Control.restoreCallbacks
  | .work => do let _ ← Control.work
  | .status nowMs => do let _ ← Control.status nowMs
  | .reportTimeout nowMs timeoutMs => do let _ ← Control.reportTimeout nowMs timeoutMs

namespace Machine

/-- A host with registered owners, and no control function running. -/
def Initial (m : Machine R T) : Prop :=
  ∃ (generation : Prepared R T) (pointer : Addr) (hints : List Addr),
    m = ⟨{ new generation.1 pointer hints with registered := true }, .done ()⟩

/-- One move of the machine, if it is enabled. -/
def move (m : Machine R T) : Move R T D → Option (Machine R T)
  | .own step => some { m with host := m.host.own step }
  | .start op =>
    match m.control with
    | .done _ => some { m with control := op.program }
    | .act _ _ => none
  | .control =>
    match m.control with
    | .done _ => none
    | .act update next => some ⟨update m.host, next m.host⟩

def Step (m : Machine R T) (a : Move R T D) (m' : Machine R T) : Prop := m.move a = some m'

variable {m m' : Machine R T}

theorem step_cases {a : Move R T D} (h : Step m a m') :
    (∃ step, a = .own step ∧ m' = { m with host := m.host.own step })
      ∨ (∃ op, a = .start op ∧ m.control = .done () ∧ m' = { m with control := op.program })
      ∨ ∃ update next, a = .control ∧ m.control = .act update next
        ∧ m' = ⟨update m.host, next m.host⟩ := by
  unfold Step move at h
  cases a with
  | own step => exact .inl ⟨step, rfl, (Option.some.inj h).symm⟩
  | start op =>
    simp only at h
    split at h
    · rename_i hc
      exact .inr (.inl ⟨op, rfl, hc, (Option.some.inj h).symm⟩)
    · cases h
  | control =>
    simp only at h
    split at h
    · cases h
    · rename_i update next hc
      exact .inr (.inr ⟨update, next, rfl, hc, (Option.some.inj h).symm⟩)

/-- The invariant of the machine. -/
structure Inv (m : Machine R T) : Prop where
  valid : m.host.Valid
  secure : Secure rivals Host.Respects (fun _ h => h.Ready) m.control m.host

theorem initial_inv {m : Machine R T} (h : Initial m) : Inv m := by
  obtain ⟨⟨generation, hfresh⟩, pointer, hints, rfl⟩ := h
  have hready := (new_ready hfresh pointer hints).register rfl
  exact ⟨hready.toValid, secure_pure fun t hr => hr.ready hready⟩

/-- Every operation is secure from a ready host and leaves it ready. -/
theorem program_secure {h : Host R T} (hready : h.Ready) (op : ControlOp R T D) :
    Secure rivals Host.Respects (fun _ h => h.Ready) op.program h := by
  have hdone : ∀ {t : Host R T}, t.Ready →
      Secure rivals Host.Respects (fun _ h => h.Ready) (pure () : Control R T Unit) t :=
    fun ht => secure_pure fun u hu => hu.ready ht
  cases op with
  | publish generation nowMs =>
    exact Secure.seq (publish_secure generation.2 hready nowMs) fun _ _ ht => hdone ht
  | publishTransferring generation nowMs transfer =>
    refine Secure.seq (publishTransferring_secure generation.2 hready nowMs transfer)
      fun _ t ht => hdone ?_
    unfold Host.TransferPost at ht
    split at ht
    · exact ht.2.ready hready
    · exact ht.1
  | handoff generation device nowMs =>
    exact Secure.seq (handoff_secure generation.2 hready device nowMs) fun _ _ ht => hdone ht
  | markDetached id =>
    exact Secure.bind ((markDetached_secure hready id).mono (fun _ _ h => h.toRespects)
      fun _ _ ht => hdone ht.1)
  | stop nowMs =>
    exact (stop_secure hready.toValid nowMs).mono (fun _ _ h => h.toRespects)
      fun _ _ ht => ht.1
  | reclaim =>
    exact Secure.bind ((reclaim_secure hready).mono (fun _ _ h => h.toRespects)
      fun _ _ ht => hdone ht.1)
  | gateCallbacks =>
    exact (gateCallbacks_secure hready).mono (fun _ _ h => h.toRespects) fun _ _ ht => ht.1
  | restoreCallbacks =>
    exact (restoreCallbacks_secure hready).mono (fun _ _ h => h) fun _ _ ht => ht.1
  | work =>
    exact Secure.bind ((work_secure hready).mono (fun _ _ h => h.toRespects)
      fun _ _ ht => hdone ht.1)
  | status nowMs =>
    exact Secure.bind ((status_secure hready.toValid nowMs).mono (fun _ _ h => h.toRespects)
      fun _ _ ht => hdone (ht.rival.ready hready))
  | reportTimeout nowMs timeoutMs =>
    exact Secure.bind ((reportTimeout_secure hready nowMs timeoutMs).mono
      (fun _ _ h => h.toRespects) fun _ _ ht => hdone ht.1)

theorem step_inv {a : Move R T D} (hm : Inv m) (h : Step m a m') : Inv m' := by
  obtain ⟨step, -, rfl⟩ | ⟨op, -, hc, rfl⟩ | ⟨update, next, -, hc, rfl⟩ := step_cases h
  · have hr := own_rival hm.valid.sound step
    exact ⟨hr.valid hm.valid, hm.secure.interfere hr⟩
  · have hsecure := hm.secure
    rw [hc] at hsecure
    exact ⟨hm.valid, program_secure hsecure.result op⟩
  · have hsecure := hm.secure
    rw [hc] at hsecure
    exact ⟨hsecure.step.1.valid, hsecure.step.2⟩

theorem reachable_inv {m : Machine R T} (h : Reachable Initial (Step (D := D)) m) : Inv m :=
  Reachable.invariant (P := Inv) (fun _ hi => initial_inv hi) (fun _ _ _ hi hs => step_inv hi hs) h

end Machine

/-! ## The guarded generation -/

namespace Host

variable {p : Addr} {h : Host R T}

theorem guardOf_receive : h.guardOf .receive = some p ↔ h.phase .receive = .holding p := by
  unfold guardOf
  cases h.phase .receive <;> simp

theorem guardOf_transmit : h.guardOf .transmit = some p ↔ h.phase .transmit = .holding p
      ∨ h.phase .transmit = .lent ∧ h.phase .receive = .holding p := by
  unfold guardOf
  cases h.phase .transmit <;> cases h.phase .receive <;> simp

/-- A live guard was validated by the owner of its slot, or by the receive owner for a pair. -/
theorem guardOf_guards {slot : Slot} (hlive : h.guardOf slot = some p) :
    ∃ slot, h.Guards slot p := by
  cases slot with
  | receive => exact ⟨.receive, by simp [Guards, guardOf_receive.mp hlive, OwnerPhase.guarded]⟩
  | transmit =>
    rcases guardOf_transmit.mp hlive with hp | ⟨-, hp⟩
    · exact ⟨.transmit, by simp [Guards, hp, OwnerPhase.guarded]⟩
    · exact ⟨.receive, by simp [Guards, hp, OwnerPhase.guarded]⟩

/-- A generation two hosts have in common: the same identity, and the same states unless a guard's
owner wrote them. -/
structure SameGeneration (h h' : Host R T) (p : Addr) (mayReceive mayTransmit : Prop) : Prop where
  same : ∃ g g', h.heap p = some g ∧ h'.heap p = some g' ∧ g'.id = g.id
    ∧ g'.settings = g.settings ∧ (¬ mayReceive → g'.receive = g.receive)
    ∧ (¬ mayTransmit → g'.transmit = g.transmit)

theorem SameGeneration.trans {h₁ h₂ h₃ : Host R T} {a b c d : Prop}
    (h : SameGeneration h₁ h₂ p a b) (k : SameGeneration h₂ h₃ p c d) :
    SameGeneration h₁ h₃ p (a ∨ c) (b ∨ d) := by
  obtain ⟨g₁, g₂, hg₁, hg₂, hid, hset, hreceive, htransmit⟩ := h.same
  obtain ⟨g₂', g₃, hg₂', hg₃, hid', hset', hrec', htra'⟩ := k.same
  rw [hg₂] at hg₂'
  cases hg₂'
  exact ⟨g₁, g₃, hg₁, hg₃, hid'.trans hid, hset'.trans hset,
    fun hn => (hrec' fun hc => hn (.inr hc)).trans (hreceive fun ha => hn (.inl ha)),
    fun hn => (htra' fun hd => hn (.inr hd)).trans (htransmit fun hb => hn (.inl hb))⟩

theorem SameGeneration.of_heap {h h' : Host R T} (hheap : h'.heap = h.heap)
    (hp : h.Alive p) (a b : Prop) : SameGeneration h h' p a b := by
  obtain ⟨g, hg⟩ := Option.isSome_iff_exists.mp hp
  exact ⟨g, g, hg, by rw [hheap, hg], rfl, rfl, fun _ => rfl, fun _ => rfl⟩

theorem SameGeneration.of_modify {p q : Addr}
    {f : RuntimeGeneration R T → RuntimeGeneration R T} (hp : h.Alive p) {a b : Prop}
    (hid : ∀ g, (f g).id = g.id) (hset : ∀ g, (f g).settings = g.settings)
    (hreceive : ¬ a → ∀ g, (f g).receive = g.receive)
    (htransmit : ¬ b → ∀ g, (f g).transmit = g.transmit) :
    SameGeneration h (h.modify q f) p a b := by
  obtain ⟨g, hg⟩ := Option.isSome_iff_exists.mp hp
  by_cases hpq : p = q
  · subst hpq
    exact ⟨g, f g, hg, by simp [modify, hg], hid g, hset g, fun ha => hreceive ha g,
      fun hb => htransmit hb g⟩
  · exact ⟨g, g, hg, by simpa [modify, hpq] using hg, rfl, rfl, fun _ => rfl, fun _ => rfl⟩

/-- An owner writes the states of a generation only through a guard. -/
theorem own_same (hs : h.Sound) (step : OwnerStep R T) (hp : h.Alive p) :
    SameGeneration h (h.own step) p (∃ r, step = .writeReceive r)
      (∃ t, step = .writeTransmit t) := by
  cases step with
  | acquire slot => exact .of_heap (acquire_takes h slot).heap hp _ _
  | acquirePair => exact .of_heap (acquirePair_takes h).heap hp _ _
  | advance slot => exact .of_heap (resume_takes hs slot).heap hp _ _
  | drop slot => exact .of_heap (dropGuard_takes hs slot).heap hp _ _
  | writeReceive state =>
    simp only [own]
    split
    · exact .of_modify hp (fun _ => rfl) (fun _ => rfl) (fun hn => absurd ⟨state, rfl⟩ hn)
        fun _ _ => rfl
    · exact .of_heap rfl hp _ _
  | writeTransmit state =>
    simp only [own]
    split
    · exact .of_modify hp (fun _ => rfl) (fun _ => rfl) (fun _ _ => rfl)
        fun hn => absurd ⟨state, rfl⟩ hn
    · exact .of_heap rfl hp _ _
  | releaseWork q =>
    exact .of_modify hp (fun _ => rfl) (fun _ => rfl) (fun _ _ => rfl) fun _ _ => rfl

/-- A step of an owner that does not hold a guard ends none. -/
theorem Takes.guardOf {h' : Host R T} {slot slot' : Slot} (ht : h.Takes slot' h')
    (hheld : ∀ p, h.phase slot' = .holding p → h' = h) (hlive : h.guardOf slot = some p) :
    h'.guardOf slot = some p := by
  by_cases hh : ∃ p, h.phase slot' = .holding p
  · obtain ⟨p, hp⟩ := hh
    rwa [hheld p hp]
  cases ht with
  | stay => exact hlive
  | on hk hf =>
    cases slot with
    | receive =>
      have hp := guardOf_receive.mp hlive
      have hne : Slot.receive ≠ slot' := by rintro rfl; exact hh ⟨p, hp⟩
      exact guardOf_receive.mpr (by simpa [setPhase, hne, hk.phase] using hp)
    | transmit =>
      rcases guardOf_transmit.mp hlive with hp | ⟨hl, hp⟩
      · have hne : Slot.transmit ≠ slot' := by rintro rfl; exact hh ⟨p, hp⟩
        exact guardOf_transmit.mpr (.inl (by simpa [setPhase, hne, hk.phase] using hp))
      · cases slot' with
        | receive => exact absurd ⟨p, hp⟩ hh
        | transmit => exact absurd hl hf.lent.1
  | pair _ _ _ hfree =>
    cases slot with
    | receive => exact absurd (guardOf_receive.mp hlive) (hfree _ _)
    | transmit =>
      rcases guardOf_transmit.mp hlive with hp | ⟨-, hp⟩ <;> exact absurd hp (hfree _ _)

/-- An owner's step ends a live guard only by dropping it. -/
theorem own_guardOf (hs : h.Sound) (step : OwnerStep R T) {slot : Slot}
    (hlive : h.guardOf slot = some p) (hdrop : ∀ slot, step ≠ .drop slot) :
    (h.own step).guardOf slot = some p := by
  have hsame : ∀ {h' : Host R T}, h'.phase = h.phase → h'.guardOf slot = some p := by
    intro h' hphase
    unfold guardOf
    rw [hphase]
    exact hlive
  cases step with
  | acquire slot' => exact (acquire_takes h slot').guardOf (fun p hp => by simp [own, hp]) hlive
  | acquirePair => exact (acquirePair_takes h).guardOf (fun p hp => by simp [own, hp]) hlive
  | advance slot' =>
    exact (resume_takes hs slot').guardOf (fun p hp => by rw [hp]; rfl) hlive
  | drop slot' => exact absurd rfl (hdrop slot')
  | writeReceive state | writeTransmit state =>
    simp only [own]
    split
    · exact hsame rfl
    · exact hlive
  | releaseWork q => exact hsame rfl

end Host

/-- A move that may write the receive state: an owner's write through a guard. -/
def Move.WritesReceive (a : Move R T D) : Prop := ∃ r, a = .own (.writeReceive r)

/-- A move that may write the transmit state. -/
def Move.WritesTransmit (a : Move R T D) : Prop := ∃ t, a = .own (.writeTransmit t)

namespace Machine

variable {p : Addr} {m m' : Machine R T} {slot : Slot}

/-- **One move keeps the generation under a live guard**: the control owner neither frees it nor
writes its states. -/
theorem step_same {a : Move R T D} (hm : Inv m) (h : Step m a m')
    (hlive : m.host.guardOf slot = some p) :
    Host.SameGeneration m.host m'.host p a.WritesReceive a.WritesTransmit := by
  obtain ⟨slot', hguards⟩ := guardOf_guards hlive
  have halive := (hm.valid.sound.guards hguards).2
  obtain ⟨step, rfl, rfl⟩ | ⟨op, rfl, hc, rfl⟩ | ⟨update, next, rfl, hc, rfl⟩ := step_cases h
  · obtain ⟨g, g', hg, hg', hid, hset, hreceive, htransmit⟩ :=
      (own_same hm.valid.sound step halive).same
    refine ⟨g, g', hg, hg', hid, hset, fun hn => hreceive ?_, fun hn => htransmit ?_⟩
    · rintro ⟨r, rfl⟩; exact hn ⟨r, rfl⟩
    · rintro ⟨t, rfl⟩; exact hn ⟨t, rfl⟩
  · exact .of_heap rfl halive _ _
  · have hsecure := hm.secure
    rw [hc] at hsecure
    obtain ⟨g, g', hg, hg', hid, hset, hreceive, htransmit⟩ :=
      hsecure.step.1.guarded slot' p hguards
    exact ⟨g, g', hg, hg', hid, hset, fun _ => hreceive, fun _ => htransmit⟩

/-- A live guard ends only by its owner's drop. -/
theorem step_guardOf {a : Move R T D} (hm : Inv m) (h : Step m a m')
    (hlive : m.host.guardOf slot = some p) :
    m'.host.guardOf slot = some p ∨ ∃ slot, a = .own (.drop slot) := by
  obtain ⟨step, rfl, rfl⟩ | ⟨op, rfl, hc, rfl⟩ | ⟨update, next, rfl, hc, rfl⟩ := step_cases h
  · by_cases hdrop : ∃ slot, step = .drop slot
    · obtain ⟨slot, rfl⟩ := hdrop
      exact .inr ⟨slot, rfl⟩
    · exact .inl (own_guardOf hm.valid.sound step hlive fun slot hs => hdrop ⟨slot, hs⟩)
  · exact .inl hlive
  · have hsecure := hm.secure
    rw [hc] at hsecure
    have hphase := hsecure.step.1.phase
    left
    unfold guardOf at hlive ⊢
    rw [hphase]
    exact hlive

/-- A move during which the guard on `p` stays live. -/
def Holding (slot : Slot) (p : Addr) (m : Machine R T) (a : Move R T D) (m' : Machine R T) : Prop :=
  Step m a m' ∧ m'.host.guardOf slot = some p

/-- The generation under a guard is the same one for as long as the guard is live. -/
theorem run_same {moves : List (Move R T D)}
    (hrun : Run (Holding slot p) m moves m') (hm : Inv m) (hlive : m.host.guardOf slot = some p) :
    Host.SameGeneration m.host m'.host p (∃ a ∈ moves, a.WritesReceive)
      (∃ a ∈ moves, a.WritesTransmit) := by
  induction hrun with
  | nil m =>
    obtain ⟨slot', hguards⟩ := guardOf_guards hlive
    exact .of_heap rfl (hm.valid.sound.guards hguards).2 _ _
  | cons hstep hrun ih =>
    have hhead := step_same hm hstep.1 hlive
    obtain ⟨g, g', hg, hg', hid, hset, hreceive, htransmit⟩ :=
      (hhead.trans (ih (step_inv hm hstep.1) hstep.2)).same
    refine ⟨g, g', hg, hg', hid, hset, fun hn => hreceive ?_, fun hn => htransmit ?_⟩
    · rintro (ha | ⟨a, ha, hw⟩)
      · exact hn ⟨_, List.mem_cons_self, ha⟩
      · exact hn ⟨a, List.mem_cons_of_mem _ ha, hw⟩
    · rintro (ha | ⟨a, ha, hw⟩)
      · exact hn ⟨_, List.mem_cons_self, ha⟩
      · exact hn ⟨a, List.mem_cons_of_mem _ ha, hw⟩

/-- Both halves of a paired guard denote one generation. -/
theorem pair_same {m : Machine R T} (hm : Inv m)
    (hpair : m.host.phase .receive = .holding p) (hlent : m.host.phase .transmit = .lent) :
    m.host.guardOf .receive = some p ∧ m.host.guardOf .transmit = some p
      ∧ m.host.hazards .receive = some p ∧ m.host.hazards .transmit = some p
      ∧ ∃ g, m.host.heap p = some g ∧ m.host.adopted .receive = g.id
        ∧ m.host.adopted .transmit = g.id := by
  have hok := hm.valid.sound.owners .receive
  rw [hpair] at hok
  obtain ⟨hreceive, htransmit⟩ := hok
  have htransmit := htransmit rfl hlent
  obtain ⟨g, hg⟩ := Option.isSome_iff_exists.mp hreceive.alive
  have hid : m.host.idAt p = g.id := by simp [idAt, hg]
  exact ⟨guardOf_receive.mpr hpair, guardOf_transmit.mpr (.inr ⟨hlent, hpair⟩),
    hreceive.hazard, htransmit.hazard, g, hg, hreceive.adopted.trans hid,
    htransmit.adopted.trans hid⟩

/-- **Hazard-slot reclamation is safe.** In every state the interleavings of the two audio owners
and the control owner reach: a live guard ends only by its drop, and until then its generation is
neither freed nor replaced at its address and its states are written only through guards; both
halves of a paired guard denote one generation; and what is allocated is the active and at most one
retired generation. -/
theorem guarded_generation_kept {m : Machine R T} (hm : Reachable Initial (Step (D := D)) m) :
    (∀ slot p, m.host.guardOf slot = some p →
      (∀ (a : Move R T D) m', Step m a m' →
        m'.host.guardOf slot = some p ∨ ∃ slot, a = .own (.drop slot))
      ∧ ∀ (moves : List (Move R T D)) m', Run (Holding slot p) m moves m' →
        Host.SameGeneration m.host m'.host p (∃ a ∈ moves, a.WritesReceive)
          (∃ a ∈ moves, a.WritesTransmit))
    ∧ (∀ p, m.host.phase .receive = .holding p → m.host.phase .transmit = .lent →
      m.host.guardOf .receive = some p ∧ m.host.guardOf .transmit = some p
        ∧ m.host.hazards .receive = some p ∧ m.host.hazards .transmit = some p
        ∧ ∃ g, m.host.heap p = some g ∧ m.host.adopted .receive = g.id
          ∧ m.host.adopted .transmit = g.id)
    ∧ ∀ p, (m.host.heap p).isSome ↔ m.host.storeActive = some p ∨ m.host.storeRetired = some p := by
  have hinv := reachable_inv hm
  refine ⟨fun slot p hlive => ⟨fun a m' hs => step_guardOf hinv hs hlive, fun moves m' hrun => ?_⟩,
    fun p hpair hlent => pair_same hinv hpair hlent, hinv.valid.stored.owned⟩
  exact run_same hrun hinv hlive

/-- A prepared generation of a bench node. -/
def benchGeneration (id : Nat) : Prepared Nat Nat :=
  ⟨⟨id, ⟨"node", "radio", 960, 960, 0, 0⟩, 0, 0, true, 0, false⟩, rfl, rfl⟩

/-- The bench host before anything happens. -/
def benchMachine : Machine Nat Nat :=
  ⟨{ new (benchGeneration 1).1 0 [] with registered := true }, .done ()⟩

/-- The receive owner acquires a pair. Meanwhile a second generation is published, the host stops,
the first generation is detached, and a reclamation runs to its end. -/
def benchMoves : List (Move Nat Nat TestDevice) :=
  .own .acquirePair :: List.replicate 6 (.own (.advance .receive))
    ++ .start (.publish (benchGeneration 2) 5) :: List.replicate 8 .control
    ++ .start (.stop 6) :: List.replicate 5 .control
    ++ .start (.markDetached 1) :: List.replicate 4 .control
    ++ .start .reclaim :: List.replicate 7 .control

def benchEnd : Machine Nat Nat := (benchMoves.foldlM move benchMachine).getD benchMachine

/-- A detached and retired generation survives a finished reclamation under a paired guard. -/
theorem guarded_generation_kept_paired :
    benchEnd.host.storeRetired = some 0 ∧ (benchEnd.host.heap 0).any (·.detached) = true
      ∧ benchEnd.host.phase .receive = .holding 0 ∧ benchEnd.host.phase .transmit = .lent
      ∧ ∃ g, benchEnd.host.heap 0 = some g ∧ benchEnd.host.adopted .receive = g.id
        ∧ benchEnd.host.adopted .transmit = g.id := by
  have hrun : benchMoves.foldlM move benchMachine = some benchEnd := by
    cases h : benchMoves.foldlM move benchMachine with
    | none =>
      have hsome : (benchMoves.foldlM move benchMachine).isSome = true := by decide +kernel
      rw [h] at hsome
      cases hsome
    | some m => simp [benchEnd, h]
  have hreach : Reachable Initial (Step (D := TestDevice)) benchEnd :=
    (Reachable.init ⟨benchGeneration 1, 0, [], rfl⟩).run (Run.foldlM hrun)
  have hpair : benchEnd.host.phase .receive = .holding 0
      ∧ benchEnd.host.phase .transmit = .lent := by decide +kernel
  exact ⟨by decide +kernel, by decide +kernel, hpair.1, hpair.2,
    ((guarded_generation_kept hreach).2.1 0 hpair.1 hpair.2).2.2.2.2⟩

end Machine

end RptAdvanced.Runtime
