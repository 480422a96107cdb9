import RptAdvanced.Audio.Stream

/-!
# Playback of one scheduled item (`rust/core/src/audio/playback.rs`)

`Playback` consumes one stream. `render` starts the stream on the first read of an attempt, latches
a Morse replacement while receiving, and reads; it is split here into `ensureStarted`, `latchMorse`,
`selectMorse` and `read`, in the source's order.

Results:
* `render_silent`: a one-sample read that makes nothing leaves the sample as it was, for readers
  that do so themselves.
* `render_hasOutput`, `defer_hasOutput`: the output of an attempt starts with its first sample.
* `Fresh.defer`: a restarted attempt stays fresh while it is held.
* `Unplayed.render`, `Unplayed.defer`: an attempt that ended before its first sample has none later.
* `render_interrupted`: the first sample of an interrupted attempt is the Morse replacement's.
-/

namespace RptAdvanced.Audio

open Bool PcmStreamReader

/-- The result of one playback attempt. -/
inductive PlaybackOutcome
  | active
  | succeeded
  | failed
  | cancelled
  deriving DecidableEq, Repr

/-- One scheduled item, read from its producer's ring. -/
structure Playback (S : Type) where
  stream : Option S
  streamStarted : Bool
  morse : Option MorseSwitch
  waitingForStream : Bool
  outputStarted : Bool
  outcome : PlaybackOutcome

namespace Playback

variable {S F : Type}

def newStream (stream : S) : Playback S where
  stream := some stream
  streamStarted := false
  morse := none
  waitingForStream := false
  outputStarted := false
  outcome := .active

/-- `is_finished`: this pass reached its end. -/
def isFinished (p : Playback S) : Bool := p.outcome != .active

/-- `has_output`: this attempt has emitted samples. -/
def hasOutput (p : Playback S) : Bool := p.outputStarted

/-- `take_stream`: control takes the stream out of an unplayed item. -/
def takeStream (p : Playback S) : Option S × Playback S :=
  (p.stream, { p with outcome := .cancelled, streamStarted := false, stream := none })

def isStreaming (p : Playback S) : Bool := !p.isFinished && p.stream.isSome

variable [PcmStreamReader S F]

/-- `finish`: cancel the stream and record the outcome. -/
def finish (p : Playback S) (outcome : PlaybackOutcome) : Playback S :=
  { p with stream := p.stream.map cancel, waitingForStream := false, outcome }

def cancel (p : Playback S) : Playback S := p.finish .cancelled

/-- Start the stream on the first read of an attempt. -/
def ensureStarted (p : Playback S) (receiving : Bool) (out : List F) : Playback S :=
  if !p.streamStarted && (receiving || !out.isEmpty) then
    { p with stream := p.stream.map start, streamStarted := true }
  else p

/-- Receiving selects the Morse replacement once. -/
def latchMorse (p : Playback S) (receiving : Bool) : Playback S :=
  if receiving && p.morse.isNone then { p with morse := some .pending } else p

/-- Ask the stream for its Morse replacement while one is pending; `true` when reading goes on. -/
def selectMorse (p : Playback S) : Bool × Playback S :=
  if p.morse = some .pending then
    let r := match p.stream with
      | none => (MorseSwitch.unavailable, none)
      | some s => ((selectMorseFallback s).1,
          some (selectMorseFallback s).2)
    let q := { p with stream := r.2, morse := some r.1 }
    match r.1 with
    | .selected => (true, q)
    | .pending => (false, { q with waitingForStream := true })
    | .unavailable => (false, q.finish .cancelled)
  else (true, p)

/-- Read what the stream has into a non-empty output. -/
def read (p : Playback S) (out : List F) : Nat × List F × Playback S :=
  let r := match p.stream with
    | none => (PcmRead.finished, out, none)
    | some s => ((render s out).1, (render s out).2.1,
        some (render s out).2.2)
  let q := { p with stream := r.2.2 }
  match r.1 with
  | .samples n =>
    (min n out.length, r.2.1,
      { q with outputStarted := q.outputStarted || n != 0, waitingForStream := false })
  | .finalSamples n =>
    (min n out.length, r.2.1,
      { q with outputStarted := q.outputStarted || n != 0 }.finish .succeeded)
  | .pending => (0, r.2.1, { q with waitingForStream := true })
  | .finished => (0, r.2.1, q.finish .succeeded)
  | .failed => (0, r.2.1, q.finish .failed)

/-- `render`: the number of samples made, the output, and the playback after it. -/
def render (p : Playback S) (receiving : Bool) (out : List F) : Nat × List F × Playback S :=
  if p.isFinished then (0, out, p)
  else
    let r := ((p.ensureStarted receiving out).latchMorse receiving).selectMorse
    if !r.1 then (0, out, r.2)
    else if out.isEmpty then (0, out, r.2)
    else r.2.read out

/-- `restart`: a fresh attempt of the same item. -/
def restart (p : Playback S) (receiving : Bool) : Playback S :=
  let q : Playback S :=
    { p with
      outcome := .active, waitingForStream := false, outputStarted := false, morse := none,
      streamStarted := false }
  if receiving then (q.render true []).2.2 else q

/-- `rewind`: restart an admitted item with the same values and Morse latch. -/
def rewind (p : Playback S) : Playback S :=
  { p with
    stream := p.stream.map PcmStreamReader.rewind, streamStarted := true,
    waitingForStream := true, outcome := .active,
    morse := if p.morse.isSome then some .pending else p.morse }

/-- `defer`: hold an item that may not be read now. -/
def defer (p : Playback S) (receiving : Bool) : Playback S :=
  match p.outputStarted, p.stream with
  | false, some s =>
    let r := deferBeforeOutput s
    let q := { p with stream := some r.2 }
    if r.1 then
      { q with
        streamStarted := false, waitingForStream := true,
        morse := if receiving || p.morse.isSome then some .pending else none }
    else (q.render receiving []).2.2
  | _, _ => (p.render receiving []).2.2

/-! ## What a read makes -/

/-- The stream's answer to a read: the samples it reports and the buffer as it leaves it. -/
theorem read_silent (hs : SilentReaders S) (p : Playback S) (x : F)
    (h : (p.read [x]).1 = 0) : (p.read [x]).2.1 = [x] := by
  unfold read at h ⊢
  cases hstream : p.stream with
  | none => rfl
  | some s =>
    rw [hstream] at h
    dsimp only at h ⊢
    have hx := hs s [x]
    cases hr : (PcmStreamReader.render s [x]).1 with
    | samples n | finalSamples n =>
      rw [hr] at h hx
      exact hx (by simpa [PcmRead.count] using h)
    | pending | finished | failed => rw [hr] at hx; exact hx rfl

/-- **A one-sample read that makes nothing leaves the sample.** -/
theorem render_silent (hs : SilentReaders S) (p : Playback S) (receiving : Bool) (x : F)
    (h : (p.render receiving [x]).1 = 0) : (p.render receiving [x]).2.1 = [x] := by
  unfold render at h ⊢
  split
  · rfl
  rename_i hfinish
  rw [if_neg hfinish] at h
  dsimp only at h ⊢
  split
  · rfl
  rename_i hselect
  rw [if_neg hselect] at h
  exact read_silent hs _ x h

section

variable (p : Playback S) (receiving : Bool)

/-- A read that makes a sample is the start of this attempt's output, or goes on with it. -/
theorem read_hasOutput (x : F) :
    (p.read [x]).2.2.hasOutput = (p.hasOutput || (p.read [x]).1 != 0) := by
  unfold read hasOutput
  cases hstream : p.stream with
  | none => simp [finish]
  | some s =>
    dsimp only
    cases (PcmStreamReader.render s [x]).1 with
    | samples n => cases n <;> simp
    | finalSamples n => cases n <;> simp [finish]
    | pending => simp
    | finished => simp [finish]
    | failed => simp [finish]

theorem selectMorse_hasOutput : p.selectMorse.2.hasOutput = p.hasOutput := by
  unfold selectMorse hasOutput
  split
  · dsimp only
    split <;> rfl
  · rfl

theorem start_hasOutput (out : List F) :
    ((p.ensureStarted receiving out).latchMorse receiving).hasOutput = p.hasOutput := by
  unfold latchMorse ensureStarted hasOutput
  split <;> split <;> rfl

/-- The output of an attempt starts with the first sample a read makes. -/
theorem render_hasOutput (x : F) : (p.render receiving [x]).2.2.hasOutput =
      (p.hasOutput || (p.render receiving [x]).1 != 0) := by
  unfold render
  split
  · simp
  dsimp only
  split
  · simp [selectMorse_hasOutput, start_hasOutput]
  · rw [if_neg (by simp), read_hasOutput, selectMorse_hasOutput, start_hasOutput]

theorem render_nil_hasOutput : (p.render receiving ([] : List F)).2.2.hasOutput = p.hasOutput := by
  unfold render
  split
  · rfl
  dsimp only
  split
  · rw [selectMorse_hasOutput, start_hasOutput]
  · rw [if_pos (by simp), selectMorse_hasOutput, start_hasOutput]

/-- Holding an item makes no output. -/
theorem defer_hasOutput : (p.defer receiving).hasOutput = p.hasOutput := by
  unfold defer
  split
  · dsimp only
    split
    · rfl
    · rw [render_nil_hasOutput]
      rfl
  · rw [render_nil_hasOutput]

end

/-! ## A fresh attempt -/

/-- An attempt of which nothing has been read: its next read starts the stream anew. -/
structure Fresh (p : Playback S) : Prop where
  outcome : p.outcome = .active
  output : p.outputStarted = false
  started : p.streamStarted = false
  morse : p.morse = none

variable {p : Playback S}

omit [PcmStreamReader S F] in
theorem Fresh.live (h : p.Fresh) : p.isFinished = false := by
  unfold isFinished
  rw [h.outcome]
  rfl

theorem restart_fresh (p : Playback S) : (p.restart false).Fresh := ⟨rfl, rfl, rfl, rfl⟩

/-- Holding a fresh attempt leaves it fresh. -/
theorem Fresh.defer (h : p.Fresh) : (p.defer false).Fresh := by
  have hrender : ∀ q : Playback S, q.Fresh → (q.render false ([] : List F)).2.2.Fresh := by
    intro q hq
    have hsame : (q.render false ([] : List F)).2.2 = q := by
      unfold Playback.render ensureStarted latchMorse selectMorse
      simp [hq.live, hq.morse]
    rwa [hsame]
  unfold Playback.defer
  split
  · dsimp only
    split
    · exact ⟨h.outcome, h.output, rfl, by simp [h.morse]⟩
    · exact hrender _ { h with }
  · exact hrender p h

/-! ## An unplayed end -/

/-- The attempt ended before its first sample. -/
def Unplayed (p : Playback S) : Prop := p.isFinished = true ∧ p.hasOutput = false

theorem Unplayed.cancel (h : p.Unplayed) : p.cancel.Unplayed := ⟨rfl, h.2⟩

omit [PcmStreamReader S F] in
theorem Unplayed.render [PcmStreamReader S F] (h : p.Unplayed) (receiving : Bool)
    (out : List F) : (p.render receiving out).2.2 = p := by
  unfold Playback.render
  rw [if_pos h.1]

theorem Unplayed.defer (h : p.Unplayed) (receiving : Bool) : (p.defer receiving).Unplayed := by
  unfold Playback.defer
  split
  · rename_i s hoff hs
    dsimp only
    have hstream : Unplayed { p with stream := some (deferBeforeOutput s).2 } := h
    split
    · exact h
    · rwa [hstream.render]
  · rwa [h.render]

/-! ## The Morse replacement -/

/-- What a live attempt keeps: no unavailable replacement, and before its stream is started it has
no output, no selected replacement, and one is pending only for a stream that was deferred. -/
structure Consistent (p : Playback S) : Prop where
  available : p.isFinished = false → p.morse ≠ some .unavailable
  output : p.isFinished = false → p.streamStarted = false → p.outputStarted = false
  selected : p.isFinished = false → p.streamStarted = false → p.morse ≠ some .selected
  deferred : p.isFinished = false → p.streamStarted = false → p.morse = some .pending →
    ∀ s, p.stream = some s → (deferBeforeOutput s).1 = true

theorem Consistent.of_finished (h : p.isFinished = true) : p.Consistent := by
  constructor <;> intro hlive <;> rw [h] at hlive <;> cases hlive

theorem Consistent.of_started (h : p.streamStarted = true)
    (hm : p.morse ≠ some .unavailable) : p.Consistent := by
  refine ⟨fun _ => hm, ?_, ?_, ?_⟩ <;> intro _ hs <;> rw [h] at hs <;> cases hs

theorem Fresh.consistent (h : p.Fresh) : p.Consistent := by
  refine ⟨?_, fun _ _ => h.output, ?_, ?_⟩ <;> intro _ <;> rw [h.morse] <;> exact nofun

theorem finish_finished (p : Playback S) {outcome : PlaybackOutcome} (h : outcome ≠ .active) :
    (p.finish outcome).isFinished = true := by
  unfold isFinished finish
  simpa using h

theorem read_consistent (hs : p.streamStarted = true)
    (hm : p.morse ≠ some .unavailable) (out : List F) : (p.read out).2.2.Consistent := by
  unfold read
  dsimp only
  split
  · exact .of_started hs hm
  · exact .of_finished (finish_finished _ (by decide))
  · exact .of_started hs hm
  · exact .of_finished (finish_finished _ (by decide))
  · exact .of_finished (finish_finished _ (by decide))

/-- Asking a started stream for its replacement. -/
theorem selectMorse_consistent (hs : p.streamStarted = true) (hm : p.morse ≠ some .unavailable) :
    p.selectMorse.2.Consistent ∧ (p.selectMorse.1 = true → p.selectMorse.2.streamStarted = true
      ∧ p.selectMorse.2.morse ≠ some .unavailable) := by
  unfold selectMorse
  split
  · dsimp only
    split
    · rename_i hselected
      exact ⟨.of_started hs (by simp [hselected]), fun _ => ⟨hs, by simp [hselected]⟩⟩
    · rename_i hpending
      exact ⟨.of_started hs (by simp [hpending]), nofun⟩
    · exact ⟨.of_finished (finish_finished _ (by decide)), nofun⟩
  · exact ⟨.of_started hs hm, fun _ => ⟨hs, hm⟩⟩

/-- A read that starts the stream, or finds it started. -/
theorem started_render_consistent (h : p.Consistent) (receiving : Bool)
    (out : List F) (hread : p.streamStarted = true ∨ receiving = true ∨ out ≠ []) :
    (p.render receiving out).2.2.Consistent := by
  unfold render
  split
  · exact h
  rename_i hlive
  rw [not_eq_true] at hlive
  dsimp only
  have hstarted : ((p.ensureStarted receiving out).latchMorse receiving).streamStarted = true := by
    unfold latchMorse ensureStarted
    rcases hread with hs | hr | ho
    · split <;> split <;> simp [hs]
    · split <;> split <;> simp_all
    · split <;> split <;> simp_all
  have hmorse : ((p.ensureStarted receiving out).latchMorse receiving).morse
      ≠ some .unavailable := by
    have hkept : (p.ensureStarted receiving out).morse = p.morse := by
      unfold ensureStarted
      split <;> rfl
    unfold latchMorse
    split
    · simp
    · rw [hkept]
      exact h.available hlive
  obtain ⟨hselect, hgo⟩ := selectMorse_consistent hstarted hmorse
  split
  · exact hselect
  rename_i hr
  rw [not_eq_true', not_eq_false] at hr
  split
  · exact hselect
  · exact read_consistent (hgo hr).1 (hgo hr).2 out

/-- Holding an attempt without a reason to start it. -/
theorem held_render_consistent (h : p.Consistent)
    (hread : p.morse ≠ some .pending ∨ p.stream = none) :
    (p.render false ([] : List F)).2.2.Consistent := by
  unfold render
  split
  · exact h
  have hkept : (p.ensureStarted false ([] : List F)).latchMorse false = p := by
    unfold latchMorse ensureStarted
    simp
  rw [hkept]
  unfold selectMorse
  split
  · rename_i hpending
    rw [hread.resolve_left (not_not_intro hpending)]
    exact .of_finished (finish_finished _ (by decide))
  · exact h

theorem Consistent.defer (hsteady : SteadyReaders S) (h : p.Consistent)
    (receiving : Bool) : (p.defer receiving).Consistent := by
  -- a hold that keeps the attempt: it starts the stream, finds it started, or asks nothing of it
  have hhold : ∀ q : Playback S, q.Consistent →
      (q.isFinished = false → q.streamStarted = false → q.morse ≠ some .pending ∨ q.stream = none) →
      (q.render receiving ([] : List F)).2.2.Consistent := by
    intro q hq hask
    cases hlive : q.isFinished with
    | true =>
      unfold Playback.render
      rwa [if_pos hlive]
    | false =>
      cases hs : q.streamStarted with
      | true => exact started_render_consistent hq _ _ (.inl hs)
      | false =>
        cases receiving with
        | true => exact started_render_consistent hq _ _ (.inr (.inl rfl))
        | false => exact held_render_consistent hq (hask hlive hs)
  unfold Playback.defer
  split
  · rename_i s hout hstream
    dsimp only
    split
    · rename_i hdeferred
      refine ⟨?_, fun _ _ => hout, ?_, ?_⟩
      · split <;> simp
      · split <;> simp
      · intro _ _ _ t ht
        cases ht
        exact hsteady s hdeferred
    · rename_i hkeeps
      have hnot : p.isFinished = false → p.streamStarted = false → p.morse ≠ some .pending :=
        fun hlive hs hpending => hkeeps (h.deferred hlive hs hpending s hstream)
      refine hhold _ ⟨h.available, h.output, h.selected, ?_⟩ fun hlive hs => .inl (hnot hlive hs)
      intro hlive hs hpending
      exact absurd hpending (hnot hlive hs)
  · rename_i hother
    refine hhold p h fun hlive hs => .inr ?_
    cases hstream : p.stream with
    | none => rfl
    | some s => exact absurd hstream (hother s (h.output hlive hs))

/-- **The first sample of an interrupted attempt is the replacement's.** -/
theorem render_interrupted (h : p.Consistent) (x : F)
    (hmade : (p.render true [x]).1 ≠ 0) : (p.render true [x]).2.2.morse = some .selected := by
  unfold render at hmade ⊢
  split
  · rename_i hfinish
    rw [if_pos hfinish] at hmade
    exact absurd rfl hmade
  rename_i hlive
  rw [if_neg hlive] at hmade
  rw [not_eq_true] at hlive
  dsimp only at hmade ⊢
  have hread : ∀ q : Playback S, (q.read [x]).2.2.morse = q.morse := by
    intro q
    unfold read finish
    dsimp only
    split <;> rfl
  have hgo : ((p.ensureStarted true [x]).latchMorse true).selectMorse.1 = true →
      ((p.ensureStarted true [x]).latchMorse true).selectMorse.2.morse = some .selected := by
    have hkept : (p.ensureStarted true [x]).morse = p.morse := by
      unfold ensureStarted
      split <;> rfl
    have hlatched : ((p.ensureStarted true [x]).latchMorse true).morse = some .pending
        ∨ ((p.ensureStarted true [x]).latchMorse true).morse = some .selected := by
      unfold latchMorse
      cases hm : p.morse with
      | none => simp [hkept, hm]
      | some m =>
        have havailable := h.available hlive
        cases m <;> simp_all
    unfold selectMorse
    split
    · dsimp only
      split
      · rename_i hselected
        exact fun _ => congrArg some hselected
      · exact nofun
      · exact nofun
    · rename_i hnot
      exact fun _ => hlatched.resolve_left hnot
  split
  · rename_i hr
    rw [if_pos hr] at hmade
    exact absurd rfl hmade
  · rename_i hr
    rw [if_neg (by simp), hread]
    exact hgo (by simpa using hr)

end Playback

end RptAdvanced.Audio
