import RptAdvanced.Controller.Frame

/-!
# When a tick keys the transmitter, and what it then sends

One tick of `step` either takes the blocked path (`timeoutSample`) or decides traffic
(`keyTraffic`, then `finishTick`). The lemmas below say once what each of the two can do to PTT and
to the RF sample.

Results:
* `site_inhibit_dominates`: an inhibited tick ends with PTT released and a zero sample.
* `no_rf_without_ptt`: a nonzero sample is only sent keyed.
* `half_duplex_exclusion`: a half-duplex FM node receiving on its own receiver sends nothing but a
  watchdog notice, and never its receive audio.
-/

namespace RptAdvanced.Controller

open Audio Lib Policy

namespace NodeController

variable {S F : Type} (c : NodeController S F) (i : StepInput F)

/-! ## Traffic PTT and final PTT -/

section Traffic

variable (a : Admission) (r : Rendered F) (d : Demand)

/-- A demand the receiver does not exclude is requested, whatever the tails wait for. -/
theorem request_of_transmit (hd : d.transmit = true)
    (hm : c.transmitsDuringReceive = true ∨ i.receiving = false) :
    (c.request i a r d).1 = true := by
  have hkey : (c.duplex.update c.transmitsDuringReceive (i.receiving && !c.remoteNonFm) d.transmit
      c.now d.hang).keyed = true := by
    rw [hd]
    unfold DuplexPolicy.update
    rcases hm with h | h <;> simp [h]
  rw [hd] at hkey
  unfold request
  simp [hkey, hd]

/-- A half-duplex receiver excludes every request. -/
theorem request_half_receiving (hduplex : c.transmitsDuringReceive = false)
    (hreceiving : i.receiving = true) (hmay : a.mayTransmit = false) :
    (c.request i a r d).1 = false := by
  have hnonFm : c.remoteNonFm = false := by
    exact (Bool.or_eq_false_iff.mp hduplex).2
  have hkey : (c.duplex.update c.transmitsDuringReceive (i.receiving && !c.remoteNonFm) d.transmit
      c.now d.hang).keyed = false := by
    rw [hduplex, hreceiving, hnonFm]
    rfl
  unfold request
  simp [hkey, hmay]

/-- A request that is refused anyway never blocks the watchdog. -/
theorem keyTraffic_idle (h : ((c.request i a r d).1 && !a.inhibited) = false) :
    (c.keyTraffic i a r d).trafficKeyed = false ∧ (c.keyTraffic i a r d).timeout = c.timeout := by
  unfold keyTraffic TimeoutPolicy.apply
  simp [h]

/-- A station that may not transmit keys final PTT only for granted traffic. -/
theorem settleKeying_held (hmay : a.mayTransmit = false) :
    (c.settleKeying a r d).keyed = c.trafficKeyed := by
  unfold settleKeying
  simp [hmay]

theorem settleKeying_traffic (h : c.trafficKeyed = true) : (c.settleKeying a r d).keyed = true := by
  unfold settleKeying
  simp [h]

end Traffic

section Output

variable [Pcm F] (a : Admission) (r : Rendered F)

/-- An inhibited station sends silence. -/
theorem rfOut_inhibited (hmay : a.mayTransmit = false) (hin : a.inhibited = true) :
    c.rfOut i a r = 0 := by
  unfold rfOut
  simp only [hmay, hin, if_true, Bool.false_eq_true, if_false]
  split <;> rfl

/-- A station that may not transmit and does not repeat its receiver sends silence when its slot
is silent. -/
theorem rfOut_held (hmay : a.mayTransmit = false) (hrep : c.repeatsLocal = false)
    (htelemetry : c.telemetryOut a r = 0) : c.rfOut i a r = 0 := by
  unfold rfOut
  simp only [hmay, hrep, htelemetry, Bool.false_and, Bool.false_eq_true, if_false, Pcm.zero_add,
    Pcm.clamp_zero]
  split <;> simp

/-- The sources of a nonzero sample: regeneration, granted traffic, a link, or telemetry. -/
theorem rfOut_source (h : c.rfOut i a r ≠ 0) :
    (i.regeneration.isSome = true ∧ a.mayTransmit = true) ∨ c.trafficKeyed = true ∨
      (a.mayTransmit = true ∧ i.linked = true) ∨ c.telemetryOut a r ≠ 0 := by
  by_contra hno
  simp only [not_or, not_and, Bool.not_eq_true, ne_eq, not_not] at hno
  obtain ⟨hregenerated, htraffic, hlink, htelemetry⟩ := hno
  apply h
  have hlink' : (a.mayTransmit && i.linked && !r.suppressRepeat) = false := by
    cases hm : a.mayTransmit with
    | false => rfl
    | true => simp [hlink hm]
  unfold rfOut
  simp only [htraffic, hlink', htelemetry, Bool.and_false, Bool.false_and,
    Bool.false_eq_true, if_false,
    Pcm.zero_add, Pcm.clamp_zero, ite_self]
  cases hr : i.regeneration with
  | none => rfl
  | some x =>
    have := hregenerated (by simp [hr])
    simp [this]

end Output

theorem stepGain_frame [Pcm F] :
    (c.stepGain i).keyed = c.keyed ∧ (c.stepGain i).trafficKeyed = c.trafficKeyed ∧
      (c.stepGain i).repeatsLocal = c.repeatsLocal := by
  unfold stepGain
  split <;> exact ⟨rfl, rfl, rfl⟩

theorem finishTick_keyed [Pcm F] (a : Admission) (r : Rendered F) (d : Demand) :
    (c.finishTick i a r d).1.keyed = (c.settleKeying a r d).keyed :=
  (stepGain_frame _ i).1

theorem finishTick_trafficKeyed [Pcm F] (a : Admission)
    (r : Rendered F) (d : Demand) : (c.finishTick i a r d).1.trafficKeyed = c.trafficKeyed :=
  (stepGain_frame _ i).2.1

theorem finishTick_timeout [Pcm F] (a : Admission)
    (r : Rendered F) (d : Demand) : (c.finishTick i a r d).1.timeout = c.timeout := by
  unfold finishTick stepGain
  split <;> rfl

variable [PcmStreamReader S F]

/-! ## The blocked path -/

/-- **The blocked path, by cases**: no notice is due, none is installed, or one is read. -/
theorem playNotice_cases [Zero F] (activity inhibited : Bool)
    (input : Option F) : (c.timeout.phase ≠ .expired ∧ c.timeout.phase ≠ .cleared ∧
      c.playNotice activity inhibited input = (c, 0, false, [0])) ∨
    ((c.timeout.phase = .expired ∨ c.timeout.phase = .cleared) ∧ c.timeoutMedia = none ∧
      c.playNotice activity inhibited input =
        ({ c with timeout := ⟨c.now, if activity then .waiting else .normal⟩ }, 0, false, [0])) ∨
    ∃ media notice, (c.timeout.phase = .expired ∨ c.timeout.phase = .cleared) ∧
      c.timeoutMedia = some media ∧ noticeOf c.timeout.phase media = some notice ∧
      c.playNotice activity inhibited input =
        (c.settleNotice media (readNotice notice inhibited input).2.2,
          (readNotice notice inhibited input).1,
          (readNotice notice inhibited input).2.2.hasOutput &&
            !(readNotice notice inhibited input).2.2.isFinished,
          (readNotice notice inhibited input).2.1) := by
  unfold playNotice
  by_cases hp : c.timeout.phase = .expired ∨ c.timeout.phase = .cleared
  · right
    rw [if_pos hp]
    cases hm : c.timeoutMedia with
    | none => exact .inl ⟨hp, rfl, rfl⟩
    | some media =>
      right
      have hn : ∃ notice, noticeOf c.timeout.phase media = some notice := by
        rcases hp with h | h <;> rw [h] <;> exact ⟨_, rfl⟩
      obtain ⟨notice, hn⟩ := hn
      refine ⟨media, notice, hp, rfl, hn, ?_⟩
      simp only [hn]
  · left
    rw [if_neg hp]
    rw [not_or] at hp
    exact ⟨hp.1, hp.2, rfl⟩

/-- A sample the blocked path sends: silence, or one read of an installed notice. -/
def FromNotice [Pcm F] (media : Option (PreparedMedia S × PreparedMedia S)) (x : F) : Prop :=
  x = 0 ∨ ∃ m, media = some m ∧
    (x = Pcm.clamp ((m.1.playback.render false [0]).2.1.headD 0) ∨
      x = Pcm.clamp ((m.2.playback.render false [0]).2.1.headD 0))

/-- An inhibited notice makes nothing. -/
theorem playNotice_inhibited [Zero F] (activity : Bool)
    (input : Option F) : (c.playNotice activity true input).2.1 = 0 ∧
      (c.playNotice activity true input).2.2.2 = [0] := by
  rcases playNotice_cases c activity true input with ⟨_, _, h⟩ | ⟨_, _, h⟩ | ⟨m, n, _, _, _, h⟩
  · rw [h]; exact ⟨rfl, rfl⟩
  · rw [h]; exact ⟨rfl, rfl⟩
  · rw [h]; exact ⟨rfl, rfl⟩

/-- The blocked path's sample is silence or one read of an installed notice. -/
theorem playNotice_sample [Pcm F] (activity inhibited : Bool)
    (input : Option F) : FromNotice c.timeoutMedia
      (Pcm.clamp ((c.playNotice activity inhibited input).2.2.2.headD 0)) := by
  have hzero : FromNotice c.timeoutMedia (Pcm.clamp (([0] : List F).headD 0)) :=
    Or.inl Pcm.clamp_zero
  rcases playNotice_cases c activity inhibited input with
    ⟨_, _, h⟩ | ⟨_, _, h⟩ | ⟨media, notice, _, hm, hn, h⟩
  · rw [h]; exact hzero
  · rw [h]; exact hzero
  rw [h]
  unfold readNotice
  split
  · refine .inr ⟨media, hm, ?_⟩
    unfold noticeOf at hn
    split at hn <;> cases hn
    · exact .inl rfl
    · exact .inr rfl
  · exact hzero

/-- A notice that makes nothing is silent, for silent readers. -/
theorem playNotice_silent [Zero F] (hs : SilentReaders S)
    (activity inhibited : Bool) (input : Option F)
    (h : (c.playNotice activity inhibited input).2.1 = 0) :
    (c.playNotice activity inhibited input).2.2.2 = [0] := by
  rcases playNotice_cases c activity inhibited input with
    ⟨_, _, h'⟩ | ⟨_, _, h'⟩ | ⟨media, notice, _, _, _, h'⟩
  · rw [h']
  · rw [h']
  rw [h'] at h ⊢
  unfold readNotice at h ⊢
  split
  · rename_i hr
    rw [if_pos hr] at h
    exact Playback.render_silent hs _ _ _ h
  · rfl

section Blocked

variable [Pcm F] (activity inhibited : Bool) (input : Option F)
  (program : Option (ProgramInput F))

theorem timeoutSample_trafficKeyed :
    (c.timeoutSample activity inhibited input program).1.trafficKeyed = false := rfl

/-- **A blocked tick sends a notice or nothing.** -/
theorem timeoutSample_fromNotice :
    FromNotice c.timeoutMedia (c.timeoutSample activity inhibited input program).2.rf :=
  playNotice_sample (c.clearIdle activity) activity inhibited input

/-- An inhibited blocked tick is silent and unkeyed. -/
theorem timeoutSample_inhibited : (c.timeoutSample activity true input program).1.keyed = false ∧
      (c.timeoutSample activity true input program).2.rf = 0 := by
  refine ⟨by simp [timeoutSample, keyNotice], ?_⟩
  unfold timeoutSample
  dsimp only
  rw [(playNotice_inhibited (c.clearIdle activity) activity input).2]
  exact Pcm.clamp_zero

/-- A blocked tick that sends audio is keyed, for silent readers. -/
theorem timeoutSample_keyed (hs : SilentReaders S)
    (h : (c.timeoutSample activity inhibited input program).2.rf ≠ 0) :
    (c.timeoutSample activity inhibited input program).1.keyed = true := by
  have hmade : ((c.clearIdle activity).playNotice activity inhibited input).2.1 ≠ 0 := by
    intro h0
    apply h
    unfold timeoutSample
    dsimp only
    rw [playNotice_silent _ hs activity inhibited input h0]
    exact Pcm.clamp_zero
  cases inhibited with
  | false => simp [timeoutSample, keyNotice, hmade]
  | true => exact absurd (playNotice_inhibited _ activity input).1 hmade

end Blocked

/-! ## The slot's sample -/

/-- A slot that makes nothing is silent, for silent readers. -/
theorem playSlot_silent [Zero F] (hs : SilentReaders S) (w : World) (m : PreparedMedia S)
    (allowed interrupt : Bool) (h : (playSlot w m allowed interrupt).2.1 = 0) :
    (playSlot w m allowed interrupt).2.2.1 = 0 := by
  rcases playSlot_cases (F := F) w m allowed interrupt with hs' | hs' <;> rw [hs'] at h ⊢
  unfold readSlot at h ⊢
  split
  · rename_i hall
    rw [if_pos hall] at h
    rw [Playback.render_silent hs _ _ _ h]
    rfl
  · rfl

section Slot

variable [Zero F] (a : Admission)

/-- A rendered slot that makes nothing is silent, for silent readers. -/
theorem renderSlot_silent (hs : SilentReaders S) (h : (c.renderSlot i a).2.made = 0) :
    (c.renderSlot i a).2.sample = 0 := by
  unfold renderSlot at h ⊢
  dsimp only at h ⊢
  split
  · rfl
  rename_i m hm
  rw [hm] at h
  exact playSlot_silent hs _ _ _ _ h

/-- **Local telemetry is held while the station may not transmit.** -/
theorem renderSlot_held (hpeer : a.peerStatus = false) (hmay : a.mayTransmit = false) :
    (c.renderSlot i a).2.made = 0 ∧ (c.renderSlot i a).2.sample = 0 := by
  unfold renderSlot
  dsimp only
  split
  · exact ⟨rfl, rfl⟩
  · simp only [slotAllowed, hpeer, hmay, Bool.false_and, playSlot, claimOutput, readSlot]
    split <;> simp

end Slot

/-! ## A bench node

The fixed node on which the theorems below are run. -/

/-- Control's atomics with nothing requested. -/
def quietWorld (siteInhibit : Bool) : World :=
  ⟨siteInhibit, false, fun _ => .pending, fun _ => false, fun _ => ⟨false, false⟩⟩

/-- A node with a watchdog of one millisecond and no media of its own. -/
def benchNode (fullDuplex siteInhibit : Bool) : NodeController (TestPcmStream ℚ) ℚ :=
  initial ⟨fullDuplex, 0, false, 0, 1, 0, 0, 0⟩ [] [] ⟨none, none, []⟩ 1 (quietWorld siteInhibit)

/-- Its local receiver is open, with a sample of one half. -/
def benchInput : StepInput ℚ := ⟨true, false, true, some (1 / 2), 0, none⟩

/-- A notice of three samples. -/
def benchNotice : PreparedMedia (TestPcmStream ℚ) :=
  PreparedMedia.newStream ⟨[1 / 4, 1 / 4, 1 / 4], [], 0, false⟩

/-- The bench node with its watchdog expired and notices installed. -/
def benchBlocked : NodeController (TestPcmStream ℚ) ℚ :=
  { (benchNode false false).setTimeoutMedia (benchNotice, benchNotice) with
    timeout := ⟨0, .expired⟩ }

/-! ## The tick -/

section Tick

variable [Pcm F] (c : NodeController S F) (i : StepInput F)

variable (o : Observed)

omit [Pcm F] in
/-- What a tick's open gate allows. -/
theorem chooseMedia_mayTransmit : (c.chooseMedia i o).2.mayTransmit =
    (!c.world.siteInhibit && (c.transmitsDuringReceive || !i.receiving)) := rfl

/-- The tick behind the gate, inhibited. -/
theorem trafficTick_inhibited (hin : c.world.siteInhibit = true) :
    (c.trafficTick i o).1.keyed = false ∧ (c.trafficTick i o).1.trafficKeyed = false ∧
      (c.trafficTick i o).2.rf = 0 := by
  have hmay : (c.chooseMedia i o).2.mayTransmit = false := by
    rw [chooseMedia_mayTransmit, hin]
    rfl
  have hinhibited : (c.chooseMedia i o).2.inhibited = true := hin
  unfold trafficTick
  dsimp only
  split
  · rw [hinhibited]
    exact ⟨(timeoutSample_inhibited _ _ _ _).1, rfl, (timeoutSample_inhibited _ _ _ _).2⟩
  have hidle : (c.decideTick i o).trafficKeyed = false :=
    (keyTraffic_idle _ i _ _ _ (by simp [hinhibited])).1
  refine ⟨?_, ?_, rfOut_inhibited _ i _ _ hmay hinhibited⟩
  · rw [finishTick_keyed, settleKeying_held _ _ _ _ hmay, hidle]
  · rw [finishTick_trafficKeyed, hidle]

/-- **Site inhibit dominates every RF source**: a tick that observes the flag ends unkeyed and
sends silence, whatever it receives, plays or has pending. -/
theorem site_inhibit_dominates (hin : c.world.siteInhibit = true) :
    (c.step i).1.keyed = false ∧ (c.step i).1.trafficKeyed = false ∧ (c.step i).2.rf = 0 := by
  have hobserve : (c.observe i).1.world.siteInhibit = true :=
    (observe_observes c i).siteInhibit.trans hin
  unfold step
  dsimp only
  split
  · rw [hobserve]
    exact ⟨(timeoutSample_inhibited _ _ _ _).1, rfl, (timeoutSample_inhibited _ _ _ _).2⟩
  · exact trafficTick_inhibited _ i _ hobserve

/-- A full-duplex node that would repeat its receiver, inhibited. -/
theorem site_inhibit_dominates_repeat : (benchNode true true).world.siteInhibit = true ∧
      ((benchNode true true).step benchInput).1.keyed = false ∧
      ((benchNode true true).step benchInput).1.trafficKeyed = false ∧
      ((benchNode true true).step benchInput).2.rf = 0 :=
  ⟨rfl, site_inhibit_dominates (benchNode true true) benchInput rfl⟩

/-- A demand the station may serve keys traffic, behind an open gate. -/
theorem decideTick_traffic (hb : (c.decideTick i o).timeout.blocked = false)
    (hmay : (c.chooseMedia i o).2.mayTransmit = true) (hd : (c.demandTick i o).transmit = true) :
    (c.decideTick i o).trafficKeyed = true := by
  rw [chooseMedia_mayTransmit, Bool.and_eq_true, Bool.or_eq_true, Bool.not_eq_true',
    Bool.not_eq_true'] at hmay
  have hrequest : ((c.slotTick i o).1.request i (c.chooseMedia i o).2 (c.slotTick i o).2
      (c.demandTick i o)).1 = true := by
    refine request_of_transmit _ i _ _ _ hd ?_
    rw [(slotTick_core c i o).transmitsDuringReceive]
    exact hmay.2
  refine (TimeoutPolicy.apply_grants _ _ _ _ _ hb).trans ?_
  rw [hrequest, show (c.chooseMedia i o).2.inhibited = false from hmay.1]
  rfl

/-- Telemetry heard on the transmitter was made this tick, by a station that may transmit. -/
theorem slotTick_telemetry (hs : SilentReaders S) (o : Observed) {k : NodeController S F}
    (h : k.telemetryOut (c.chooseMedia i o).2 (c.slotTick i o).2 ≠ 0) :
    (c.chooseMedia i o).2.mayTransmit = true ∧
      (c.slotTick i o).2.telemetryAudio (c.chooseMedia i o).2 = true := by
  unfold telemetryOut at h
  have hpeer : (c.chooseMedia i o).2.peerStatus = false := by
    by_contra hp
    simp [Bool.not_eq_false] at hp
    simp [hp] at h
  rw [hpeer, if_neg (by simp)] at h
  have hsample : (c.slotTick i o).2.sample ≠ 0 := fun h0 => h (by rw [h0, Pcm.zero_mul])
  have hmade : (c.slotTick i o).2.made ≠ 0 := fun h0 =>
    hsample (renderSlot_silent _ i _ hs h0)
  refine ⟨?_, ?_⟩
  · by_contra hmay
    rw [Bool.not_eq_true] at hmay
    exact hmade (renderSlot_held _ i _ hpeer hmay).1
  · unfold Rendered.telemetryAudio
    simp [hmade, hpeer]

/-- The tick behind the gate sends audio only keyed. -/
theorem trafficTick_keyed (hs : SilentReaders S) (o : Observed)
    (h : (c.trafficTick i o).2.rf ≠ 0) : (c.trafficTick i o).1.keyed = true := by
  unfold trafficTick at h ⊢
  dsimp only at h ⊢
  split
  · rename_i hb
    rw [if_pos hb] at h
    exact timeoutSample_keyed _ _ _ _ _ hs h
  rename_i hb
  rw [if_neg hb] at h
  rw [Bool.not_eq_true] at hb
  have htransmit : (c.chooseMedia i o).2.mayTransmit = true → (c.demandTick i o).transmit = true →
      ((c.decideTick i o).finishTick i (c.chooseMedia i o).2 (c.slotTick i o).2
        (c.demandTick i o)).1.keyed = true := fun hmay hd => by
    rw [finishTick_keyed]
    exact settleKeying_traffic _ _ _ _ (decideTick_traffic c i o hb hmay hd)
  rcases rfOut_source _ i _ _ h with ⟨hregenerated, hmay⟩ | htraffic | ⟨hmay, hlink⟩ | htelemetry
  · exact htransmit hmay (by simp [demandTick, demand, hregenerated])
  · rw [finishTick_keyed]
    rw [(stepGain_frame ..).2.1] at htraffic
    exact settleKeying_traffic _ _ _ _ htraffic
  · exact htransmit hmay (by simp [demandTick, demand, hlink])
  -- telemetry: an exempt message keys by itself, anything else demands the transmitter
  obtain ⟨hmay, haudio⟩ := slotTick_telemetry c i hs o htelemetry
  cases hex : (c.slotTick i o).2.exempt with
  | true =>
    rw [finishTick_keyed]
    simp [settleKeying, hmay, Rendered.messageAudio, hex, haudio]
  | false => exact htransmit hmay (by simp [demandTick, demand, haudio, hex])

/-- **No RF audio without PTT**: a nonzero sample is only sent with PTT asserted at the end of the
same tick, for readers that leave the output alone when they report nothing. -/
theorem no_rf_without_ptt (hs : SilentReaders S) (h : (c.step i).2.rf ≠ 0) :
    (c.step i).1.keyed = true := by
  unfold step at h ⊢
  dsimp only at h ⊢
  split
  · rename_i hb
    rw [if_pos hb] at h
    exact timeoutSample_keyed _ _ _ _ _ hs h
  · rename_i hb
    rw [if_neg hb] at h
    exact trafficTick_keyed _ i hs _ h

/-- A full-duplex node repeats its receiver, keyed. -/
theorem no_rf_without_ptt_repeat : ((benchNode true false).step benchInput).2.rf ≠ 0 ∧
      ((benchNode true false).step benchInput).1.keyed = true :=
  ⟨by decide +kernel, no_rf_without_ptt (benchNode true false) benchInput
    TestPcmStream.silentReaders (by decide +kernel)⟩

/-! ## Half duplex -/

/-- The tick behind the gate of a half-duplex receiver. -/
theorem trafficTick_half (hduplex : c.transmitsDuringReceive = false)
    (hb : c.timeout.blocked = false) (hreceiving : i.receiving = true) :
    (c.trafficTick i o).1.keyed = false ∧ (c.trafficTick i o).1.trafficKeyed = false ∧
      (c.trafficTick i o).2.rf = 0 := by
  have hmay : (c.chooseMedia i o).2.mayTransmit = false := by
    rw [chooseMedia_mayTransmit, hduplex, hreceiving]
    simp
  have hcore := slotTick_core c i o
  have hrequest : ((c.slotTick i o).1.request i (c.chooseMedia i o).2 (c.slotTick i o).2
      (c.demandTick i o)).1 = false :=
    request_half_receiving _ i _ _ _ (hcore.transmitsDuringReceive.trans hduplex) hreceiving hmay
  obtain ⟨hidle, htimeout⟩ := keyTraffic_idle _ i (c.chooseMedia i o).2 (c.slotTick i o).2
    (c.demandTick i o) (by rw [hrequest]; rfl)
  have hopen : (c.decideTick i o).timeout.blocked = false := by
    unfold decideTick
    rw [htimeout, hcore.timeout, hb]
  unfold trafficTick
  rw [if_neg (by simp [hopen])]
  refine ⟨?_, ?_, ?_⟩
  · rwa [finishTick_keyed, settleKeying_held _ _ _ _ hmay]
  · rwa [finishTick_trafficKeyed]
  · have hrep : (c.decideTick i o).repeatsLocal = false := by
      refine (hcore.repeatsLocal).trans ?_
      unfold repeatsLocal
      rw [(Bool.or_eq_false_iff.mp hduplex).1]
      rfl
    refine rfOut_held _ i _ _ hmay ((stepGain_frame _ i).2.2.trans hrep) ?_
    unfold telemetryOut
    split
    · rfl
    rename_i hpeer
    rw [Bool.not_eq_true] at hpeer
    rw [show (c.slotTick i o).2.sample = 0 from (renderSlot_held _ i _ hpeer hmay).2, Pcm.zero_mul]

omit [PcmStreamReader S F] in
/-- A sample that is not repeated does not reach the outputs of the end of a tick. -/
theorem finishTick_input (x y : F) (a : Admission) (r : Rendered F) (d : Demand)
    (hrep : c.repeatsLocal = false) :
    c.finishTick { i with input := some x } a r d =
      c.finishTick { i with input := some y } a r d := by
  have hrep' : ((c.settleKeying a r d).stepGain { i with input := some y }).repeatsLocal = false :=
    (stepGain_frame _ _).2.2.trans hrep
  have hstate : (c.settleKeying a r d).stepGain { i with input := some x } =
      (c.settleKeying a r d).stepGain { i with input := some y } := rfl
  unfold finishTick rfOut
  dsimp only
  rw [hstate, hrep']
  simp only [Bool.false_and, Bool.false_eq_true, if_false]
  rfl

/-- A blocked tick only asks whether there is a sample to fill. -/
theorem timeoutSample_input (activity inhibited : Bool) (program : Option (ProgramInput F))
    (x y : F) : c.timeoutSample activity inhibited (some x) program =
      c.timeoutSample activity inhibited (some y) program := rfl

theorem trafficTick_input (x y : F) (hrep : c.repeatsLocal = false) :
    c.trafficTick { i with input := some x } o = c.trafficTick { i with input := some y } o := by
  have hchoice :
    c.chooseMedia { i with input := some x } o = c.chooseMedia { i with input := some y } o := rfl
  have hslot : c.slotTick { i with input := some x } o = c.slotTick { i with input := some y } o :=
    rfl
  have hdecide : c.decideTick { i with input := some x } o =
    c.decideTick { i with input := some y } o := rfl
  have hdemand : c.demandTick { i with input := some x } o =
    c.demandTick { i with input := some y } o := rfl
  have hrep' : (c.decideTick { i with input := some y } o).repeatsLocal = false :=
    (slotTick_core c _ o).repeatsLocal.trans hrep
  unfold trafficTick
  dsimp only
  rw [hchoice, hslot, hdecide, hdemand, finishTick_input _ i x y _ _ _ hrep',
    timeoutSample_input _ _ _ _ x y]
  rfl

/-- **A controller that does not repeat its receiver never looks at the receive sample.** -/
theorem step_input (x y : F) (hrep : c.repeatsLocal = false) :
    c.step { i with input := some x } = c.step { i with input := some y } := by
  have hobserve := observe_observes c { i with input := some y }
  have hrep' : (c.observe { i with input := some y }).1.repeatsLocal = false := by
    unfold repeatsLocal at hrep ⊢
    rw [hobserve.settings, hobserve.remoteNonFm, hrep]
  have hstate : c.observe { i with input := some x } = c.observe { i with input := some y } := rfl
  unfold step
  dsimp only
  rw [hstate, trafficTick_input _ i _ x y hrep', timeoutSample_input _ _ _ _ x y]
  rfl

/-- **Half-duplex exclusion.** On an FM node that is not full duplex, a tick whose watchdog is open
at its start and whose local receiver is active ends unkeyed and silent; no tick's outcome depends
on the receive sample; and what is sent while receiving is a watchdog notice. -/
theorem half_duplex_exclusion (hfull : c.settings.fullDuplex = false)
    (hnonFm : c.remoteNonFm = false) : (c.timeout.blocked = false → i.receiving = true →
      (c.step i).1.keyed = false ∧ (c.step i).1.trafficKeyed = false ∧ (c.step i).2.rf = 0) ∧
    (∀ x y, c.step { i with input := some x } = c.step { i with input := some y }) ∧
    (i.receiving = true → (c.step i).1.keyed = true ∨ (c.step i).2.rf ≠ 0 →
      c.timeout.blocked = true ∧ (c.step i).1.trafficKeyed = false ∧
        FromNotice c.timeoutMedia (c.step i).2.rf) := by
  have hobserve := observe_observes c i
  have hduplex : (c.observe i).1.transmitsDuringReceive = false := by
    unfold transmitsDuringReceive
    rw [hobserve.settings, hobserve.remoteNonFm, hfull, hnonFm]
    rfl
  have hopen : c.timeout.blocked = false → i.receiving = true →
      (c.step i).1.keyed = false ∧ (c.step i).1.trafficKeyed = false ∧ (c.step i).2.rf = 0 := by
    intro hb hreceiving
    have hb' := hobserve.blocked.trans hb
    unfold step
    rw [if_neg (by simp [hb'])]
    exact trafficTick_half _ i _ hduplex hb' hreceiving
  refine ⟨hopen, fun x y => step_input c i x y (by simp [repeatsLocal, hfull]), ?_⟩
  intro hreceiving hsent
  have hb : c.timeout.blocked = true := by
    by_contra hb
    rw [Bool.not_eq_true] at hb
    obtain ⟨hkeyed, _, hrf⟩ := hopen hb hreceiving
    rcases hsent with h | h
    · cases hkeyed.symm.trans h
    · exact h hrf
  have hb' := hobserve.blocked.trans hb
  refine ⟨hb, ?_, ?_⟩
  · unfold step
    rw [if_pos hb']
    rfl
  · unfold step
    rw [if_pos hb', ← hobserve.timeoutMedia]
    exact timeoutSample_fromNotice _ _ _ _ _

/-- A half-duplex node is silent while it receives, and sends its notice when it is blocked. -/
theorem half_duplex_exclusion_receiving :
    (((benchNode false false).step benchInput).1.keyed = false ∧
      ((benchNode false false).step benchInput).1.trafficKeyed = false ∧
      ((benchNode false false).step benchInput).2.rf = 0) ∧
    (benchBlocked.step benchInput).2.rf ≠ 0 ∧
      FromNotice benchBlocked.timeoutMedia (benchBlocked.step benchInput).2.rf := by
  have hsent : (benchBlocked.step benchInput).2.rf ≠ 0 := by decide +kernel
  exact ⟨(half_duplex_exclusion (benchNode false false) benchInput rfl rfl).1 rfl rfl, hsent,
    ((half_duplex_exclusion benchBlocked benchInput rfl rfl).2.2 rfl (.inr hsent)).2.2⟩

end Tick

end NodeController

end RptAdvanced.Controller
