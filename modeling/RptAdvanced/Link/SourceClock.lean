import RptAdvanced.Lib.Run

/-!
# The source clock (`rust/product/src/link/source_clock.rs`)

The transmit callback draws sample positions from one counter, and dates a block if its stream is
mapped. The media owner maps a stream from the progress that the callback has published. Control
starts another stream while no callback runs. All three share atomics only: `step` makes one atomic
operation of one of them, and every interleaving is a run.

`log` decides nothing. `Truthful` is said of it alone: blocks of one stream do not overlap, a stamp
has the serial of its block's stream, and its birth time goes back to an observation of a block of
that stream.

Results:
* `step_inv`: an old observation never finds its stream mapped again.
* `stamps_observed`: the log is truthful as long as neither counter wraps.
* `positions_repeat`: after 2^64 samples a stream hands out its first positions again.
-/

namespace RptAdvanced.Link

open Lib List Option

/-- `MAXIMUM_FRAMES`: the longest block of a callback. -/
def maximumFrames : Nat := 4096

def sampleNs (sample : Nat) : Int := sample * 1000000000 / 48000

structure Stamp where
  sample : Nat
  stream : Nat
  bornNs : Option Nat
  deriving DecidableEq, Repr

structure SourceClock where
  next : Nat := 0
  stream : Nat := 0
  publishedStream : Nat := 0
  publishedStart : Nat := 0
  observedStream : Nat := 0
  observedStart : Nat := 0
  offset : Int := 0
  mappedStream : Nat := 0

/-- The next operation of `advance`. -/
inductive AdvanceStage
  | idle
  | drawing (stream count : Nat)
  | mapping (stream sample : Nat)
  | dating (stream sample : Nat)
  | starting (stamp : Stamp)
  | publishing (stamp : Stamp)
  deriving DecidableEq

/-- The next operation of `observe_at`. -/
inductive ObserveStage
  | idle
  | checking (nowNs stream : Nat)
  | reading (nowNs stream : Nat)
  | comparing (nowNs stream sample : Nat)
  | repeating (nowNs stream sample : Nat)
  | capturing (nowNs stream sample : Nat)
  | mapping (stream sample : Nat)
  | starting (stream sample : Nat)
  | closing (stream : Nat)
  deriving DecidableEq

/-- What has happened to the clock. -/
inductive ClockEvent
  | restarted
  /-- A callback has drawn so many positions. -/
  | handed (sample count : Nat)
  /-- The media owner has stored the offset of a time to a position. -/
  | captured (nowNs sample : Nat)
  /-- `advance` returns. -/
  | stamped (stamp : Stamp)
  deriving DecidableEq

/-- The clock, its two callers and what has happened, latest first. -/
structure ClockDesk extends SourceClock where
  callback : AdvanceStage := .idle
  owner : ObserveStage := .idle
  log : List ClockEvent := []

inductive ClockMove
  | restart
  /-- A callback of so many samples loads its stream. -/
  | advance (count : Nat)
  | callback
  /-- The media owner loads the stream, at a time read before. -/
  | observe (nowNs : Nat)
  | owner

namespace ClockDesk

/-- `u64::try_from` of a birth time. -/
def born (time : Int) : Option Nat := if 0 ≤ time ∧ time < 2 ^ 64 then some time.toNat else none

/-- An operation of `advance`. -/
def advance (d : ClockDesk) : AdvanceStage → Option ClockDesk
  | .idle => none
  | .drawing stream count => some { d with
      next := (d.next + count) % 2 ^ 64
      callback := if stream = 0 then .starting ⟨d.next, stream, none⟩ else .mapping stream d.next
      log := .handed d.next count :: d.log }
  | .mapping stream sample => some { d with
      callback := if d.mappedStream = stream then .dating stream sample
        else .starting ⟨sample, stream, none⟩ }
  | .dating stream sample => some { d with
      callback := .starting ⟨sample, stream, born (sampleNs sample + d.offset)⟩ }
  | .starting stamp => some { d with
      publishedStart := stamp.sample
      callback := .publishing stamp }
  | .publishing stamp => some { d with
      publishedStream := stamp.stream
      callback := .idle
      log := .stamped stamp :: d.log }

/-- `i64::try_from` of the offset: an observation without one ends. -/
def capture (nowNs stream sample : Nat) : ObserveStage :=
  if -2 ^ 63 ≤ (nowNs : Int) - sampleNs sample ∧ (nowNs : Int) - sampleNs sample < 2 ^ 63 then
    .capturing nowNs stream sample
  else .idle

/-- An operation of `observe_at`. -/
def observe (d : ClockDesk) : ObserveStage → Option ClockDesk
  | .idle => none
  | .checking nowNs stream => some { d with
      owner := if d.publishedStream = stream then .reading nowNs stream else .idle }
  | .reading nowNs stream => some { d with owner := .comparing nowNs stream d.publishedStart }
  | .comparing nowNs stream sample => some { d with
      owner := if d.observedStream = stream then .repeating nowNs stream sample
        else capture nowNs stream sample }
  | .repeating nowNs stream sample => some { d with
      owner := if d.observedStart = sample then .idle else capture nowNs stream sample }
  | .capturing nowNs stream sample => some { d with
      offset := nowNs - sampleNs sample
      owner := .mapping stream sample
      log := .captured nowNs sample :: d.log }
  | .mapping stream sample => some { d with
      mappedStream := stream
      owner := .starting stream sample }
  | .starting stream sample => some { d with
      observedStart := sample
      owner := .closing stream }
  | .closing stream => some { d with
      observedStream := stream
      owner := .idle }

/-- One atomic operation. `restart` is called with callbacks quiescent. -/
def step (d : ClockDesk) : ClockMove → Option ClockDesk
  | .restart =>
    if d.callback = .idle then
      some { d with stream := (d.stream + 1) % 2 ^ 64, log := .restarted :: d.log }
    else none
  | .advance count =>
    if d.callback = .idle ∧ count ≤ maximumFrames then
      some { d with callback := .drawing d.stream count }
    else none
  | .callback => d.advance d.callback
  | .observe nowNs =>
    if d.owner = .idle ∧ nowNs < 2 ^ 64 then
      some { d with owner := if d.stream = 0 then .idle else .checking nowNs d.stream }
    else none
  | .owner => d.observe d.owner

def Step (d : ClockDesk) (move : ClockMove) (d' : ClockDesk) : Prop := d.step move = some d'

/-- `SourceClock::new`. -/
def Initial (d : ClockDesk) : Prop := d = {}

/-! ## What is said of the log -/

/-- The events since the last restart. -/
def current : List ClockEvent → List ClockEvent
  | [] | .restarted :: _ => []
  | e :: log => e :: current log

/-- The serial of the present stream: a restart starts the next. -/
def serial : List ClockEvent → Nat
  | [] => 0
  | .restarted :: log => serial log + 1
  | _ :: log => serial log

/-- The position starts a block of the present stream. -/
def Handed (log : List ClockEvent) (sample : Nat) : Prop :=
  ∃ count, .handed sample count ∈ current log

/-- The offset was captured by an observation of a block of the present stream. -/
def Observed (log : List ClockEvent) (offset : Int) : Prop :=
  ∃ nowNs sample : Nat, .captured nowNs sample ∈ current log ∧ Handed log sample ∧
    offset = nowNs - sampleNs sample

/-- A stamp of a block of the present stream, with a birth time that goes back to it. -/
def Sound (log : List ClockEvent) (stamp : Stamp) : Prop :=
  Handed log stamp.sample ∧ ∀ bornNs, stamp.bornNs = some bornNs →
    ∃ offset, Observed log offset ∧ (bornNs : Int) = sampleNs stamp.sample + offset

/-- Every stamp names the stream of its block and is one of it, and no two blocks of a stream
overlap. -/
def Truthful : List ClockEvent → Prop
  | [] => True
  | .stamped stamp :: log => (stamp.stream = serial log ∧ Sound log stamp) ∧ Truthful log
  | .handed sample count :: log =>
    (∀ s n, .handed s n ∈ current log → s + n ≤ sample ∨ sample + count ≤ s) ∧ Truthful log
  | .restarted :: log | .captured .. :: log => Truthful log

/-- No counter wraps. -/
def unwrapped (d : ClockDesk) : ClockMove → Bool
  | .restart => d.stream + 1 < 2 ^ 64
  | .callback =>
    match d.callback with
    | .drawing _ count => d.next + count < 2 ^ 64
    | _ => true
  | _ => true

section Monotone

variable {log log' : List ClockEvent} (h : current log ⊆ current log')
include h

theorem Handed.mono {sample : Nat} (hs : Handed log sample) : Handed log' sample := by
  obtain ⟨count, hmem⟩ := hs
  exact ⟨count, h hmem⟩

theorem Observed.mono {offset : Int} (ho : Observed log offset) : Observed log' offset := by
  obtain ⟨nowNs, sample, hmem, hhanded, hoffset⟩ := ho
  exact ⟨nowNs, sample, h hmem, hhanded.mono h, hoffset⟩

theorem Sound.mono {stamp : Stamp} (hs : Sound log stamp) : Sound log' stamp := by
  refine ⟨hs.1.mono h, fun bornNs hborn => ?_⟩
  obtain ⟨offset, hobserved, he⟩ := hs.2 bornNs hborn
  exact ⟨offset, hobserved.mono h, he⟩

end Monotone

/-! ## The invariant -/

/-- What `advance` knows: no restart comes between its operations. -/
def CallbackOk (d : ClockDesk) : AdvanceStage → Prop
  | .idle => True
  | .drawing stream _ => stream = d.stream
  | .mapping stream sample => stream = d.stream ∧ stream ≠ 0 ∧ Handed d.log sample
  | .dating stream sample =>
    (stream = d.stream ∧ stream ≠ 0 ∧ Handed d.log sample) ∧ d.mappedStream = d.stream
  | .starting stamp => stamp.stream = d.stream ∧ Sound d.log stamp
  | .publishing stamp =>
    (stamp.stream = d.stream ∧ Sound d.log stamp) ∧ d.publishedStart = stamp.sample

/-- An observation of an old stream has not been followed by one of the present stream. -/
structure Late (d : ClockDesk) (stream : Nat) : Prop where
  pos : stream ≠ 0
  le : stream ≤ d.stream
  mapped : stream = d.stream ∨ d.mappedStream < d.stream

theorem Late.current {d : ClockDesk} {stream : Nat} (h : d.Late stream)
    (he : d.mappedStream = d.stream) : stream = d.stream :=
  h.mapped.resolve_right fun hlt => Nat.ne_of_lt hlt he

/-- What `observe_at` knows, if its stream is still the present one. -/
def OwnerOk (d : ClockDesk) : ObserveStage → Prop
  | .idle | .starting .. | .closing _ => True
  | .checking _ stream => d.Late stream
  | .reading _ stream => d.Late stream ∧ (stream = d.stream → d.publishedStream = d.stream)
  | .comparing _ stream sample | .repeating _ stream sample | .capturing _ stream sample =>
    d.Late stream ∧ (stream = d.stream → Handed d.log sample)
  | .mapping stream _ => d.Late stream ∧ (stream = d.stream → Observed d.log d.offset)

structure Inv (d : ClockDesk) : Prop where
  serial : d.stream = serial d.log
  drawn : ∀ s n, .handed s n ∈ current d.log → s + n ≤ d.next
  published_le : d.publishedStream ≤ d.stream
  mapped_le : d.mappedStream ≤ d.stream
  published : d.stream ≠ 0 → d.publishedStream = d.stream → Handed d.log d.publishedStart
  mapped : d.stream ≠ 0 → d.mappedStream = d.stream → Observed d.log d.offset
  callback : d.CallbackOk d.callback
  owner : d.OwnerOk d.owner
  truthful : Truthful d.log

variable {d d' : ClockDesk} {o : ObserveStage} {nowNs stream sample : Nat}

theorem Initial.inv (h : d.Initial) : d.Inv := by
  cases h
  exact ⟨rfl, nofun, Nat.le_refl 0, Nat.le_refl 0, fun h => absurd rfl h, fun h => absurd rfl h,
    trivial, trivial, trivial⟩

/-- The media owner's knowledge outlives the operations of a callback. -/
theorem OwnerOk.keep (h : d.OwnerOk o) (hstream : d'.stream = d.stream)
    (hmapped : d'.mappedStream = d.mappedStream) (hoffset : d'.offset = d.offset)
    (hpublished : d.publishedStream = d.stream → d'.publishedStream = d'.stream)
    (hlog : current d.log ⊆ current d'.log) : d'.OwnerOk o := by
  have hlate : ∀ {stream}, d.Late stream → d'.Late stream := fun h =>
    ⟨h.pos, hstream ▸ h.le, by rw [hstream, hmapped]; exact h.mapped⟩
  cases o with
  | idle | starting | closing => trivial
  | checking => exact hlate h
  | reading => exact ⟨hlate h.1, fun he => hpublished (h.2 (he.trans hstream))⟩
  | comparing | repeating | capturing =>
    exact ⟨hlate h.1, fun he => (h.2 (he.trans hstream)).mono hlog⟩
  | mapping => exact ⟨hlate h.1, fun he => hoffset ▸ (h.2 (he.trans hstream)).mono hlog⟩

/-- A callback's knowledge outlives the operations of the media owner. -/
theorem CallbackOk.keep {c : AdvanceStage} (h : d.CallbackOk c) (hstream : d'.stream = d.stream)
    (hmapped : d.mappedStream = d.stream → d'.mappedStream = d'.stream)
    (hstart : d'.publishedStart = d.publishedStart)
    (hlog : current d.log ⊆ current d'.log) : d'.CallbackOk c := by
  cases c with
  | idle => trivial
  | drawing => exact h.trans hstream.symm
  | mapping => exact ⟨h.1.trans hstream.symm, h.2.1, h.2.2.mono hlog⟩
  | dating => exact ⟨⟨h.1.1.trans hstream.symm, h.1.2.1, h.1.2.2.mono hlog⟩, hmapped h.2⟩
  | starting => exact ⟨h.1.trans hstream.symm, h.2.mono hlog⟩
  | publishing => exact ⟨⟨h.1.1.trans hstream.symm, h.1.2.mono hlog⟩, hstart.trans h.2⟩

/-- A birth time is dated from the offset. -/
theorem sound_dated {sample stream : Nat} (hhanded : Handed d.log sample)
    (hobserved : Observed d.log d.offset) :
    Sound d.log ⟨sample, stream, born (sampleNs sample + d.offset)⟩ := by
  refine ⟨hhanded, fun bornNs hborn => ⟨d.offset, hobserved, ?_⟩⟩
  obtain ⟨hrange, he⟩ := ite_none_right_eq_some.mp hborn
  rw [← Option.some.inj he]
  exact Int.toNat_of_nonneg hrange.1

/-- Another stage of the callback, and of the media owner. -/
theorem Inv.call (h : d.Inv) {c : AdvanceStage} (hc : d.CallbackOk c) :
    Inv { d with callback := c } :=
  { h with
    callback := hc.keep rfl id rfl (List.Subset.refl _)
    owner := h.owner.keep rfl rfl rfl id (List.Subset.refl _) }

theorem Inv.own (h : d.Inv) (ho : d.OwnerOk o) : Inv { d with owner := o } :=
  { h with
    callback := h.callback.keep rfl id rfl (List.Subset.refl _)
    owner := ho.keep rfl rfl rfl id (List.Subset.refl _) }

theorem advance_inv (h : d.Inv) (hok : d.unwrapped .callback = true)
    (hstep : d.advance d.callback = some d') : d'.Inv := by
  have hcallback := h.callback
  unfold unwrapped at hok
  generalize d.callback = c at hstep hcallback hok
  cases c with
  | idle => cases hstep
  | drawing stream count =>
    cases hstep
    have hnext : (d.next + count) % 2 ^ 64 = d.next + count :=
      Nat.mod_eq_of_lt (of_decide_eq_true hok)
    have hsub : current d.log ⊆ .handed d.next count :: current d.log := subset_cons_self ..
    have hhanded : Handed (.handed d.next count :: d.log) d.next := ⟨count, mem_cons_self⟩
    refine { h with
      drawn := fun s n hmem => ?_
      published := fun h0 he => (h.published h0 he).mono hsub
      mapped := fun h0 he => (h.mapped h0 he).mono hsub
      callback := ?_
      owner := h.owner.keep rfl rfl rfl id hsub
      truthful := ⟨fun s n hmem => .inl (h.drawn s n hmem), h.truthful⟩ }
    · dsimp only
      rw [hnext]
      rcases mem_cons.mp hmem with he | hmem
      · cases he
        exact Nat.le_refl _
      · exact Nat.le_trans (h.drawn s n hmem) (Nat.le_add_right ..)
    · dsimp only
      split
      · exact ⟨hcallback, hhanded, nofun⟩
      · rename_i h0
        exact ⟨hcallback, h0, hhanded⟩
  | mapping stream sample =>
    cases hstep
    refine h.call ?_
    split
    · rename_i hmapped
      exact ⟨hcallback, hmapped.trans hcallback.1⟩
    · exact ⟨hcallback.1, hcallback.2.2, nofun⟩
  | dating stream sample =>
    cases hstep
    obtain ⟨⟨rfl, h0, hhanded⟩, hmapped⟩ := hcallback
    exact h.call ⟨rfl, sound_dated hhanded (h.mapped h0 hmapped)⟩
  | starting stamp =>
    cases hstep
    exact { h with
      published := fun _ _ => hcallback.2.1
      callback := ⟨hcallback, rfl⟩
      owner := h.owner.keep rfl rfl rfl id (List.Subset.refl _) }
  | publishing stamp =>
    cases hstep
    obtain ⟨⟨hstream, hsound⟩, hstart⟩ := hcallback
    have hsub : current d.log ⊆ .stamped stamp :: current d.log := subset_cons_self ..
    exact { h with
      drawn := fun s n hmem => h.drawn s n ((mem_cons.mp hmem).resolve_left nofun)
      published_le := Nat.le_of_eq hstream
      published := fun _ _ => hstart ▸ hsound.1.mono hsub
      mapped := fun h0 he => (h.mapped h0 he).mono hsub
      callback := trivial
      owner := h.owner.keep rfl rfl rfl (fun _ => hstream) hsub
      truthful := ⟨⟨hstream.trans h.serial, hsound⟩, h.truthful⟩ }

/-- An offset is captured for the position that was read. -/
theorem OwnerOk.capture
    (h : d.OwnerOk (.capturing nowNs stream sample)) : d.OwnerOk (capture nowNs stream sample) := by
  unfold ClockDesk.capture
  split
  · exact h
  · trivial

theorem Inv.captured (h : d.Inv) {offset : Int} (hlate : d.Late stream)
    (hhanded : stream = d.stream → Handed d.log sample)
    (hoffset : offset = nowNs - sampleNs sample) :
    Inv { d with
      offset
      owner := .mapping stream sample
      log := .captured nowNs sample :: d.log } := by
  have hsub : current d.log ⊆ .captured nowNs sample :: current d.log := subset_cons_self ..
  have hobserved : stream = d.stream → Observed (.captured nowNs sample :: d.log) offset :=
    fun he => ⟨nowNs, sample, mem_cons_self, (hhanded he).mono hsub, hoffset⟩
  exact { h with
    drawn := fun s n hmem => h.drawn s n ((mem_cons.mp hmem).resolve_left nofun)
    published := fun h0 he => (h.published h0 he).mono hsub
    mapped := fun _ he => hobserved (hlate.current he)
    callback := h.callback.keep rfl id rfl hsub
    owner := ⟨⟨hlate.pos, hlate.le, hlate.mapped⟩, hobserved⟩ }

theorem observe_inv (h : d.Inv) (hstep : d.observe d.owner = some d') : d'.Inv := by
  have howner := h.owner
  generalize d.owner = o at hstep howner
  cases o with
  | idle => cases hstep
  | checking nowNs stream =>
    cases hstep
    refine h.own ?_
    split
    · rename_i hpublished
      exact ⟨howner, fun he => hpublished.trans he⟩
    · trivial
  | reading nowNs stream =>
    cases hstep
    exact h.own ⟨howner.1, fun he => h.published (he ▸ howner.1.pos) (howner.2 he)⟩
  | comparing nowNs stream sample =>
    cases hstep
    refine h.own ?_
    split
    · exact howner
    · exact .capture howner
  | repeating nowNs stream sample =>
    cases hstep
    refine h.own ?_
    split
    · trivial
    · exact .capture howner
  | capturing nowNs stream sample =>
    cases hstep
    exact h.captured howner.1 howner.2 rfl
  | mapping stream sample =>
    cases hstep
    obtain ⟨hlate, hobserved⟩ := howner
    exact { h with
      mapped_le := hlate.le
      mapped := fun _ => hobserved
      callback := h.callback.keep rfl hlate.current rfl (List.Subset.refl _)
      owner := trivial }
  | starting stream sample | closing stream =>
    cases hstep
    exact { h with callback := h.callback.keep rfl id rfl (List.Subset.refl _), owner := trivial }

/-- What is known of the present stream is not known of the next. -/
theorem OwnerOk.restart (h : d.OwnerOk o) (hstream : d'.stream = d.stream + 1)
    (hmapped : d'.mappedStream < d'.stream) : d'.OwnerOk o := by
  have hlate : ∀ {stream}, d.Late stream → d'.Late stream ∧ stream ≠ d'.stream := fun hl =>
    have hlt := hstream ▸ Nat.lt_succ_of_le hl.le
    ⟨⟨hl.pos, Nat.le_of_lt hlt, .inr hmapped⟩, Nat.ne_of_lt hlt⟩
  cases o with
  | idle | starting | closing => trivial
  | checking => exact (hlate h).1
  | reading | comparing | repeating | capturing | mapping =>
    exact ⟨(hlate h.1).1, fun he => absurd he (hlate h.1).2⟩

/-- A restart leaves every stored serial behind. -/
theorem restart_inv (h : d.Inv) (hok : d.stream + 1 < 2 ^ 64) (hidle : d.callback = .idle) :
    Inv { d with stream := (d.stream + 1) % 2 ^ 64, log := .restarted :: d.log } := by
  rw [Nat.mod_eq_of_lt hok]
  have hpublished := Nat.lt_succ_of_le h.published_le
  have hmapped := Nat.lt_succ_of_le h.mapped_le
  exact ⟨congrArg (· + 1) h.serial, nofun, Nat.le_of_lt hpublished, Nat.le_of_lt hmapped,
    fun _ he => absurd he (Nat.ne_of_lt hpublished), fun _ he => absurd he (Nat.ne_of_lt hmapped),
    hidle ▸ trivial, h.owner.restart rfl hmapped, h.truthful⟩

theorem step_inv {move : ClockMove} (h : d.Inv) (hok : d.unwrapped move = true)
    (hstep : d.Step move d') : d'.Inv := by
  cases move with
  | restart =>
    obtain ⟨hidle, he⟩ := ite_none_right_eq_some.mp hstep
    cases he
    exact restart_inv h (of_decide_eq_true hok) hidle
  | advance count =>
    obtain ⟨-, he⟩ := ite_none_right_eq_some.mp hstep
    cases he
    exact h.call rfl
  | callback => exact advance_inv h hok hstep
  | observe nowNs =>
    obtain ⟨-, he⟩ := ite_none_right_eq_some.mp hstep
    cases he
    refine h.own ?_
    split
    · trivial
    · rename_i h0
      exact ⟨h0, Nat.le_refl _, .inl rfl⟩
  | owner => exact observe_inv h hstep

/-- **As long as no counter wraps**, a stamp names the stream of its block and is dated from an
observation of a block of that stream, made since it was started, and no two blocks of a stream
share a position. -/
theorem stamps_observed
    (h : Reachable Initial (Guarded Step fun d move => d.unwrapped move = true) d) :
    Truthful d.log :=
  (h.invariant (P := Inv) (fun _ => Initial.inv) fun _ _ _ hd hstep =>
    step_inv hd hstep.1 hstep.2).truthful

/-- A stream is started, observed after its first block, and its second block is dated. -/
def observedBlock : List ClockMove :=
  [.restart, .advance 960, .callback, .callback, .callback, .callback, .observe 1000000000, .owner,
    .owner, .owner, .owner, .owner, .advance 480, .callback, .callback, .callback, .callback,
    .callback]

theorem stamps_observed_block :
    ∃ d, Reachable Initial (Guarded Step fun d move => d.unwrapped move = true) d ∧
      d.log.head? = some (.stamped ⟨960, 1, some 1020000000⟩) ∧ Truthful d.log := by
  obtain ⟨d, hreach, hlog⟩ := exists_reachable_guarded Initial step
    (fun d move => d.unwrapped move = true) observedBlock (some {}) (by rintro _ ⟨⟩; rfl)
    (fun d => d.log.head? = some (.stamped ⟨960, 1, some 1020000000⟩)) (by decide +kernel)
  exact ⟨d, hreach, hlog, stamps_observed hreach⟩

/-! ## A counter that comes around -/

/-- A callback of a stream that is not mapped. -/
def block : List ClockMove := [.advance 4096, .callback, .callback, .callback, .callback]

/-- A stream that is not mapped, between two callbacks. -/
def Unmapped (d : ClockDesk) : Prop := d.callback = .idle ∧ d.stream = 1 ∧ d.mappedStream = 0

theorem block_run (h : d.Unmapped) : ∃ d' stamp, Run Step d block d' ∧ d'.Unmapped ∧
    d'.next = (d.next + 4096) % 2 ^ 64 ∧
      d'.log = .stamped stamp :: .handed d.next 4096 :: d.log := by
  obtain ⟨⟨next, stream, _, _, _, _, _, mappedStream⟩, callback, owner, log⟩ := d
  obtain ⟨rfl, rfl, rfl⟩ := h
  exact ⟨_, _, .foldlM rfl, ⟨rfl, rfl, rfl⟩, rfl, rfl⟩

theorem blocks_run (n : Nat) : ∃ d, Reachable Initial Step d ∧ d.Unmapped ∧
    d.next = 4096 * (n + 1) % 2 ^ 64 ∧ .handed 0 4096 ∈ current d.log := by
  induction n with
  | zero =>
    obtain ⟨d, stamp, hrun, hunmapped, hnext, hlog⟩ :=
      block_run (d := { stream := 1, log := [.restarted] }) ⟨rfl, rfl, rfl⟩
    have hstart : Reachable Initial Step {} := .init rfl
    have hrestart : Step {} .restart { stream := 1, log := [.restarted] } := rfl
    refine ⟨d, (hstart.step hrestart).run hrun, hunmapped, hnext, ?_⟩
    rw [hlog]
    exact mem_cons_of_mem _ mem_cons_self
  | succ n ih =>
    obtain ⟨d, hreach, hunmapped, hnext, hmem⟩ := ih
    obtain ⟨d', stamp, hrun, hunmapped', hnext', hlog⟩ := block_run hunmapped
    refine ⟨d', hreach.run hrun, hunmapped', ?_, ?_⟩
    · omega
    · rw [hlog]
      exact mem_cons_of_mem _ (mem_cons_of_mem _ hmem)

/-- **After 2^64 samples** of one stream its first positions are handed out again. -/
theorem positions_repeat : ∃ d stamp log, Reachable Initial Step d ∧
    d.log = .stamped stamp :: .handed 0 4096 :: log ∧ .handed 0 4096 ∈ current log ∧
    ¬ Truthful d.log := by
  obtain ⟨d, hreach, hunmapped, hnext, hmem⟩ := blocks_run (2 ^ 52 - 1)
  obtain ⟨d', stamp, hrun, -, -, hlog⟩ := block_run hunmapped
  rw [hnext] at hlog
  refine ⟨d', stamp, d.log, hreach.run hrun, hlog, hmem, fun htruthful => ?_⟩
  rw [hlog] at htruthful
  rcases htruthful.2.1 0 4096 hmem with h | h <;> simp at h

end ClockDesk

end RptAdvanced.Link
