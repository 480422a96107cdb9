import RptAdvanced.Lib.Ring
import RptAdvanced.Lib.Run

/-!
# The outbound PCM queue of a peer (`rust/core/src/audio/link_queue.rs`)

`LinkAudioQueue` carries samples in one ring and, for each admitted block, a span with its origin in
another. The writer publishes samples before their span; the reader takes a span, reads the samples
behind it in pieces of any size, and moves the origin of what is left forward.

A `QueueDesk` runs both endpoints at once. Every ring operation is a step of its own, so a call of
one endpoint interleaves with calls of the other at every ring operation. A ring is seen late at
most: the room that the writer sees, and whether the reader sees a span, are free in each step.
Ghost lists keep what was admitted and what was read.

Samples are of any type with a zero.

Results:
* `positionNs_sub`, `Block.advance_spanAt`: birth times of pieces add up, whatever the pieces.
* `step_lawful`: both rings, the unread rest of a block and the logs stay consistent.
* `queue_spans`: the law of the queue. `birth_time_wraps`: a single read of 585 years breaks it.
-/

namespace RptAdvanced.Audio

open Lib List RingBuffer Option

/-- Origin of a contiguous span of samples. -/
structure AudioSpan where
  generation : Nat
  burst : Nat
  sourceStart : Nat
  stream : Nat
  bornNs : Option (Fin (2 ^ 64))
  deriving DecidableEq, Repr

/-- A span and its number of samples. -/
structure ReadSpan where
  span : AudioSpan
  frames : Nat
  deriving DecidableEq, Repr

/-- `checked_add` of `u64`. -/
def checkedAdd (a : Fin (2 ^ 64)) (b : Nat) : Option (Fin (2 ^ 64)) :=
  if h : a.val + b < 2 ^ 64 then some ⟨a.val + b, h⟩ else none

/-- A source position at 48 kHz in nanoseconds. -/
def positionNs (sample : Nat) : Nat := sample * 1000000000 / 48000

/-- The time from the first sample of a span to the one `count` samples later. -/
def AudioSpan.elapsed (count : Nat) (span : AudioSpan) : Nat :=
  positionNs ((span.sourceStart + count) % 2 ^ 64) - positionNs span.sourceStart

/-- The origin of what `read_span` leaves of a span; the elapsed time is cast to `u64`. -/
def AudioSpan.advance (count : Nat) (span : AudioSpan) : AudioSpan :=
  { span with
    sourceStart := (span.sourceStart + count) % 2 ^ 64
    bornNs := span.bornNs.bind fun time => checkedAdd time (span.elapsed count % 2 ^ 64) }

/-- The queue with the consumer's current span and the statistics. -/
structure LinkAudioQueue (α : Type) where
  samples : RingBuffer α
  spans : RingBuffer ReadSpan
  pending : Option ReadSpan := none
  dropped : Nat := 0
  shortfall : Nat := 0

/-- The failed `expect`s. -/
inductive QueuePanic
  | reservedSpan
  | publishedPcm
  deriving DecidableEq, Repr

/-- Where the writer is in `write`. -/
inductive Writing (α : Type)
  | idle
  /-- A descriptor is free. -/
  | reserved (span : AudioSpan) (audio : List α)
  /-- The leading `written` samples are pushed. -/
  | pushed (span : AudioSpan) (audio : List α) (written : Nat)

/-- Where the reader is: in `read_span` of `wanted` samples, or in the loop of `read` with `wanted`
samples missing and `output` filled. `first` counts the spans read before the call. -/
inductive Reading (α : Type)
  | idle
  | span (wanted : Nat)
  | fill (wanted first : Nat) (output : List α)

/-- The admitted part of a written block. -/
structure Block (α : Type) where
  span : AudioSpan
  audio : List α

/-- A result of `read_span` with its samples. -/
structure Delivery (α : Type) where
  read : ReadSpan
  data : List α

/-- The output of a finished `read`: the spans `first`, ..., `last - 1` and silence. -/
structure Output (α : Type) where
  first : Nat
  last : Nat
  silence : Nat
  samples : List α

/-- A queue and its endpoints. `offered` and `rejected` count samples. -/
structure QueueDesk (α : Type) where
  queue : LinkAudioQueue α
  writing : Writing α := .idle
  reading : Reading α := .idle
  offered : Nat := 0
  rejected : Nat := 0
  admitted : List (Block α) := []
  delivered : List (Delivery α) := []
  outputs : List (Output α) := []

/-- One ring operation, or the start of a call. -/
inductive QueueMove (α : Type)
  /-- `write` looks for a free descriptor and sees `room` of them. -/
  | write (span : AudioSpan) (audio : List α) (room : Nat)
  /-- It pushes the samples that fit into the `room` it sees. -/
  | push (room : Nat)
  /-- It pushes the span. -/
  | publish
  | readSpan (wanted : Nat)
  | read (wanted : Nat)
  /-- `peek_span` without a current span; `sees` is whether it sees a published one. -/
  | acquire (sees : Bool)
  /-- The reader copies from its current span. -/
  | copy

variable {α : Type} [Zero α]

namespace QueueDesk

def Initial (d : QueueDesk α) : Prop :=
  ∃ capacity spanCapacity, 0 < capacity ∧ 0 < spanCapacity
    ∧ d = { queue := { samples := .new capacity, spans := .new spanCapacity } }

/-- The end of a `write` that admitted `written` samples. -/
def finishWrite (length written : Nat) (d : QueueDesk α) : QueueDesk α :=
  { d with
    writing := .idle
    queue := { d.queue with dropped := (d.queue.dropped + (length - written)) % 2 ^ 64 }
    rejected := d.rejected + (length - written) }

/-- The end of a `read` that misses `wanted` samples: silence. -/
def finishRead (wanted first : Nat) (output : List α) (d : QueueDesk α) : QueueDesk α :=
  { d with
    reading := .idle
    queue := { d.queue with shortfall := (d.queue.shortfall + wanted) % 2 ^ 64 }
    outputs := d.outputs
      ++ [⟨first, d.delivered.length, wanted, output ++ List.replicate wanted 0⟩] }

/-- The span ring is empty, as far as the reader sees. -/
def acquired (sees : Bool) (d : QueueDesk α) : Option (ReadSpan × RingBuffer ReadSpan) :=
  if sees then d.queue.spans.pop else none

/-- What `read_span` does after it has read `data`. -/
def resumeReading (data : List α) (d : QueueDesk α) : QueueDesk α :=
  match d.reading with
  | .idle | .span _ => { d with reading := .idle }
  | .fill wanted first output =>
    if wanted - data.length = 0 then d.finishRead 0 first (output ++ data)
    else { d with reading := .fill (wanted - data.length) first (output ++ data) }

/-- The samples a reader is after. -/
def wanted (d : QueueDesk α) : Nat :=
  match d.reading with
  | .idle => 0
  | .span wanted => wanted
  | .fill wanted _ _ => wanted

/-- What is left of a span of which `count` samples were read. -/
def leave (count : Nat) (pending : ReadSpan) : Option ReadSpan :=
  if pending.frames - count = 0 then none
  else some ⟨pending.span.advance count, pending.frames - count⟩

/-- One step; `none` when it is not enabled. -/
def step (d : QueueDesk α) : QueueMove α → Option (Except QueuePanic (QueueDesk α))
  | .write span audio room =>
    match d.writing with
    | .idle =>
      let d := { d with offered := d.offered + audio.length }
      if min room d.queue.spans.slots = 0 then some (.ok (d.finishWrite audio.length 0))
      else some (.ok { d with writing := .reserved span audio })
    | _ => none
  | .push room =>
    match d.writing with
    | .reserved span audio =>
      let (written, samples) := d.queue.samples.pushPartial room audio
      if written.length = 0 then some (.ok (d.finishWrite audio.length 0))
      else some (.ok { d with
        queue := { d.queue with samples }
        writing := .pushed span audio written.length
        admitted := d.admitted ++ [⟨span, written⟩] })
    | _ => none
  | .publish =>
    match d.writing with
    | .pushed span audio written =>
      match d.queue.spans.push ⟨span, written⟩ with
      | none => some (.error .reservedSpan)
      | some spans =>
        some (.ok (finishWrite audio.length written { d with queue := { d.queue with spans } }))
    | _ => none
  | .readSpan wanted =>
    match d.reading with
    | .idle => some (.ok (if wanted = 0 then d else { d with reading := .span wanted }))
    | _ => none
  | .read wanted =>
    match d.reading with
    | .idle =>
      some (.ok (if wanted = 0 then d.finishRead 0 d.delivered.length []
        else { d with reading := .fill wanted d.delivered.length [] }))
    | _ => none
  | .acquire sees =>
    match d.queue.pending with
    | some _ => none
    | none =>
      match d.acquired sees with
      | some (span, spans) =>
        some (.ok { d with queue := { d.queue with spans, pending := some span } })
      | none =>
        match d.reading with
        | .idle | .span _ => some (.ok { d with reading := .idle })
        | .fill wanted first output => some (.ok (d.finishRead wanted first output))
  | .copy =>
    match d.queue.pending with
    | none => none
    | some pending =>
      if d.wanted = 0 then none
      else
        let count := min pending.frames d.wanted
        match d.queue.samples.popEntire count with
        | none => some (.error .publishedPcm)
        | some (data, samples) =>
          some (.ok (resumeReading data { d with
            queue := { d.queue with samples, pending := leave count pending }
            delivered := d.delivered ++ [⟨⟨pending.span, count⟩, data⟩] }))

def Step (d : QueueDesk α) (move : QueueMove α) (d' : QueueDesk α) : Prop :=
  d.step move = some (.ok d')

end QueueDesk

/-! ## Pieces of a block -/

theorem positionNs_mono {a b : Nat} (h : a ≤ b) : positionNs a ≤ positionNs b :=
  Nat.div_le_div_right (Nat.mul_le_mul_right _ h)

/-- The times from piece to piece add up. -/
theorem positionNs_sub {a b c : Nat} (hab : a ≤ b) (hbc : b ≤ c) :
    positionNs c - positionNs a = (positionNs b - positionNs a) +
      (positionNs c - positionNs b) := by
  have h₁ := positionNs_mono hab
  have h₂ := positionNs_mono hbc
  omega

/-- Successive checked additions are one checked addition of the sum. -/
theorem bind_checkedAdd (time : Option (Fin (2 ^ 64))) {a b c : Nat} (h : c = a + b) :
    ((time.bind fun t => checkedAdd t a).bind fun t => checkedAdd t b)
      = time.bind fun t => checkedAdd t c := by
  subst h
  cases time with
  | none => rfl
  | some t =>
    unfold checkedAdd
    rw [bind_some, bind_some]
    by_cases hfits : t.val + a < 2 ^ 64
    · rw [dif_pos hfits, bind_some]
      simp only [Nat.add_assoc]
    · rw [dif_neg hfits, bind_none, dif_neg (by omega)]

namespace Block

variable {α : Type}

/-- The origin of the samples of a block after its first `k`. -/
def spanAt (k : Nat) (b : Block α) : AudioSpan :=
  { b.span with
    sourceStart := b.span.sourceStart + k
    bornNs := b.span.bornNs.bind fun time =>
      checkedAdd time (positionNs (b.span.sourceStart + k) - positionNs b.span.sourceStart) }

theorem spanAt_zero (b : Block α) : b.spanAt 0 = b.span := by
  have hborn : (b.span.bornNs.bind fun time => checkedAdd time
      (positionNs (b.span.sourceStart + 0) - positionNs b.span.sourceStart)) = b.span.bornNs := by
    cases b.span.bornNs with
    | none => rfl
    | some time =>
      simp [checkedAdd]
  unfold spanAt
  rw [hborn]
  rfl

/-- **What is left of a block has the origin that the block gives it**, unless the elapsed time does
not fit. -/
theorem advance_spanAt {b : Block α} {k count : Nat}
    (hwrap : b.span.sourceStart + (k + count) < 2 ^ 64)
    (helapsed : (b.spanAt k).elapsed count < 2 ^ 64) :
    (b.spanAt k).advance count = b.spanAt (k + count) := by
  have hposition :
      (b.span.sourceStart + k + count) % 2 ^ 64 = b.span.sourceStart + (k + count) := by
    rw [Nat.add_assoc]
    exact Nat.mod_eq_of_lt hwrap
  have hsum := positionNs_sub (a := b.span.sourceStart) (b := b.span.sourceStart + k)
    (c := b.span.sourceStart + (k + count)) (by omega) (by omega)
  have hborn : ((b.spanAt k).bornNs.bind fun time =>
      checkedAdd time ((b.spanAt k).elapsed count % 2 ^ 64)) = (b.spanAt (k + count)).bornNs := by
    have hpiece : (b.spanAt k).elapsed count % 2 ^ 64
        = positionNs (b.span.sourceStart + (k + count)) - positionNs (b.span.sourceStart + k) := by
      rw [Nat.mod_eq_of_lt helapsed, ← hposition]
      rfl
    rw [hpiece]
    exact bind_checkedAdd b.span.bornNs hsum
  unfold AudioSpan.advance
  rw [hborn]
  unfold spanAt
  rw [hposition]

end Block

/-! ## The rings against what was admitted -/

variable {α : Type} [Zero α]

/-- The samples of some blocks. -/
def audioOf (blocks : List (Block α)) : List α := blocks.flatMap (·.audio)

/-- The samples of some deliveries. -/
def dataOf (deliveries : List (Delivery α)) : List α := deliveries.flatMap (·.data)

/-- A block being read, after its first samples. -/
structure Current (α : Type) where
  block : Block α
  offset : Nat
  unread : offset < block.audio.length

/-- The descriptor of a block. -/
def Block.header (b : Block α) : ReadSpan := ⟨b.span, b.audio.length⟩

namespace Current

variable {α : Type}

/-- The descriptor of what is left. -/
def rest (c : Current α) : ReadSpan := ⟨c.block.spanAt c.offset, c.block.audio.length - c.offset⟩

/-- What was read of a block that may be open. -/
def taken : Option (Current α) → List α
  | none => []
  | some c => c.block.audio.take c.offset

/-- What is left of it. -/
def left : Option (Current α) → List α
  | none => []
  | some c => c.block.audio.drop c.offset

/-- The block itself. -/
def blocks : Option (Current α) → List (Block α)
  | none => []
  | some c => [c.block]

end Current

/-- A delivery after `before` samples is a piece of one admitted block, with the origin that the
block gives it. -/
def Inside (admitted : List (Block α)) (before : Nat) (r : Delivery α) : Prop :=
  ∃ earlier b later k, admitted = earlier ++ b :: later ∧ before = (audioOf earlier).length + k
    ∧ 0 < r.read.frames ∧ k + r.read.frames ≤ b.audio.length
    ∧ r.data = (b.audio.drop k).take r.read.frames ∧ r.read.span = b.spanAt k

omit [Zero α] in
theorem Inside.append {admitted : List (Block α)} {before : Nat} {r : Delivery α}
    (h : Inside admitted before r) (more : List (Block α)) :
    Inside (admitted ++ more) before r := by
  obtain ⟨earlier, b, later, k, hadmitted, hrest⟩ := h
  refine ⟨earlier, b, later ++ more, k, ?_, hrest⟩
  rw [hadmitted, append_assoc, cons_append]

namespace QueueDesk

/-- The block that is pushed and not published yet. -/
def Late (writing : Writing α) (late : List (Block α)) : Prop :=
  match writing with
  | .pushed span audio written =>
    ∃ l, late = [⟨span, l⟩] ∧ l.length = written ∧ written ≤ audio.length
  | _ => late = []

/-- The blocks of a desk: those read, the one being read, those published, and the late one. -/
structure Layout (d : QueueDesk α) (done : List (Block α)) (current : Option (Current α))
    (queued late : List (Block α)) : Prop where
  admitted : d.admitted = done ++ Current.blocks current ++ queued ++ late
  data : dataOf d.delivered = audioOf done ++ Current.taken current
  samples : d.queue.samples.items = Current.left current ++ audioOf queued ++ audioOf late
  spans : d.queue.spans.items = queued.map Block.header
  pending : d.queue.pending = current.map Current.rest
  late : Late d.writing late
  reserved : (∀ span audio, d.writing ≠ .reserved span audio)
    ∧ (∀ span audio written, d.writing ≠ .pushed span audio written)
    ∨ d.queue.spans.items.length < d.queue.spans.capacity

/-- What holds of every block, and of every delivery. -/
structure Lawful (d : QueueDesk α) : Prop where
  layout : ∃ done current queued late, d.Layout done current queued late
  nonempty : ∀ b ∈ d.admitted, 0 < b.audio.length
  unwrapped : ∀ b ∈ d.admitted, b.span.sourceStart + b.audio.length ≤ 2 ^ 64
  writing : ∀ span audio, d.writing = .reserved span audio →
    span.sourceStart + audio.length ≤ 2 ^ 64
  inside : ∀ (i : Nat) (r : Delivery α), d.delivered[i]? = some r →
    Inside d.admitted (dataOf (d.delivered.take i)).length r

/-- Source positions do not wrap. -/
def Unwrapped : QueueMove α → Prop
  | .write span audio _ => span.sourceStart + audio.length ≤ 2 ^ 64
  | _ => True

/-- A single read moves less than 2^64 ns ahead. -/
def Prompt (d : QueueDesk α) : QueueMove α → Prop
  | .copy => ∀ p ∈ d.queue.pending, p.span.elapsed (min p.frames d.wanted) < 2 ^ 64
  | _ => True

variable {d d' : QueueDesk α}

section Laws

omit [Zero α]

/-- What the laws are about is unchanged. -/
theorem Lawful.congr (h : d.Lawful)
    (hqueue : d'.queue.samples = d.queue.samples ∧ d'.queue.spans = d.queue.spans
      ∧ d'.queue.pending = d.queue.pending)
    (hwriting : d'.writing = d.writing) (hadmitted : d'.admitted = d.admitted)
    (hdelivered : d'.delivered = d.delivered) : d'.Lawful := by
  obtain ⟨done, current, queued, late, hl⟩ := h.layout
  obtain ⟨hsamples, hspans, hpending⟩ := hqueue
  refine ⟨⟨done, current, queued, late, ?_⟩, ?_, ?_, ?_, ?_⟩
  · refine ⟨hadmitted ▸ hl.admitted, hdelivered ▸ hl.data, hsamples ▸ hl.samples,
      hspans ▸ hl.spans, hpending ▸ hl.pending, hwriting ▸ hl.late, ?_⟩
    rw [hwriting, hspans]
    exact hl.reserved
  · rw [hadmitted]
    exact h.nonempty
  · rw [hadmitted]
    exact h.unwrapped
  · rw [hwriting]
    exact h.writing
  · rw [hadmitted, hdelivered]
    exact h.inside

theorem Late.nil {writing : Writing α} {late : List (Block α)} (h : Late writing late)
    (hphase : ∀ span audio written, writing ≠ .pushed span audio written) : late = [] := by
  unfold Late at h
  cases writing with
  | pushed span audio written => exact absurd rfl (hphase span audio written)
  | idle => exact h
  | reserved => exact h

section

variable (h : d.Lawful)
include h

/-- The writer goes on to another phase while no block is late. -/
theorem Lawful.phase (writing : Writing α)
    (hold : ∀ span audio written, d.writing ≠ .pushed span audio written)
    (hnew : ∀ span audio written, writing ≠ .pushed span audio written)
    (hreserved : ∀ span audio, writing = .reserved span audio →
      span.sourceStart + audio.length ≤ 2 ^ 64
        ∧ d.queue.spans.items.length < d.queue.spans.capacity) : Lawful { d with writing } := by
  obtain ⟨done, current, queued, late, hl⟩ := h.layout
  have hlate : late = [] := hl.late.nil hold
  refine ⟨⟨done, current, queued, late, hl.admitted, hl.data, hl.samples, hl.spans, hl.pending,
    ?_, ?_⟩, h.nonempty, h.unwrapped, fun span audio hphase => (hreserved span audio hphase).1,
    h.inside⟩
  · rw [hlate]
    cases writing with
    | pushed span audio written => exact absurd rfl (hnew span audio written)
    | idle => rfl
    | reserved => rfl
  · cases writing with
    | pushed span audio written => exact absurd rfl (hnew span audio written)
    | idle => exact .inl ⟨nofun, nofun⟩
    | reserved span audio => exact .inr (hreserved span audio rfl).2

theorem Lawful.finishWrite
    (hold : ∀ span audio written, d.writing ≠ .pushed span audio written) (length written : Nat) :
    (d.finishWrite length written).Lawful :=
  (h.phase .idle hold nofun nofun).congr ⟨rfl, rfl, rfl⟩ rfl rfl rfl

/-- The samples of a block are pushed before its span. -/
theorem Lawful.push {span : AudioSpan} {audio : List α} {room : Nat}
    (hphase : d.writing = .reserved span audio)
    (hwritten : (d.queue.samples.pushPartial room audio).1.length ≠ 0) : Lawful { d with
      queue := { d.queue with samples := (d.queue.samples.pushPartial room audio).2 }
      writing := .pushed span audio (d.queue.samples.pushPartial room audio).1.length
      admitted := d.admitted ++ [⟨span, (d.queue.samples.pushPartial room audio).1⟩] } := by
  obtain ⟨done, current, queued, late, hl⟩ := h.layout
  have hlate : late = [] := hl.late.nil (by simp [hphase])
  have hle : (d.queue.samples.pushPartial room audio).1.length ≤ audio.length :=
    length_take_le' ..
  have hitems : (d.queue.samples.pushPartial room audio).2.items =
    _ ++ (d.queue.samples.pushPartial room audio).1 := rfl
  generalize d.queue.samples.pushPartial room audio = pushed at hwritten hle hitems ⊢
  subst hlate
  refine ⟨⟨done, current, queued, [⟨span, pushed.1⟩], ?_, hl.data, ?_, hl.spans, hl.pending,
    ⟨pushed.1, rfl, rfl, hle⟩, .inr ?_⟩, ?_, ?_, nofun, fun i r hr => (h.inside i r hr).append _⟩
  · rw [hl.admitted, append_nil]
  · rw [hitems, hl.samples]
    simp [audioOf]
  · rcases hl.reserved with hidle | hroom
    · exact absurd hphase (hidle.1 span audio)
    · exact hroom
  · refine forall_mem_append.mpr ⟨h.nonempty, forall_mem_singleton.mpr ?_⟩
    exact Nat.pos_of_ne_zero hwritten
  · refine forall_mem_append.mpr ⟨h.unwrapped, forall_mem_singleton.mpr ?_⟩
    exact Nat.le_trans (Nat.add_le_add_left hle _) (h.writing span audio hphase)

variable {spans : RingBuffer ReadSpan}

/-- The late block's span is pushed. -/
theorem Lawful.publish {span : AudioSpan} {audio : List α} {written : Nat}
    (hphase : d.writing = .pushed span audio written)
    (hpush : d.queue.spans.push ⟨span, written⟩ = some spans) :
    Lawful { d with queue := { d.queue with spans }, writing := .idle } := by
  obtain ⟨done, current, queued, late, hl⟩ := h.layout
  obtain ⟨l, rfl, hlength, -⟩ : ∃ l, late = [⟨span, l⟩] ∧ l.length = written
      ∧ written ≤ audio.length := by
    have hlate := hl.late
    rwa [hphase] at hlate
  refine ⟨⟨done, current, queued ++ [⟨span, l⟩], [], ?_, hl.data, ?_, ?_, hl.pending, rfl,
    .inl ⟨nofun, nofun⟩⟩, h.nonempty, h.unwrapped, nofun, h.inside⟩
  · rw [hl.admitted]
    simp
  · rw [hl.samples]
    simp [audioOf]
  · rw [(push_items hpush).1, hl.spans, map_append, map_singleton, Block.header,
      hlength]

/-- The oldest published block becomes the current one. -/
theorem Lawful.acquire (hpending : d.queue.pending = none) {span : ReadSpan}
    (hpop : d.queue.spans.pop = some (span, spans)) :
    Lawful { d with queue := { d.queue with spans, pending := some span } } := by
  obtain ⟨done, current, queued, late, hl⟩ := h.layout
  obtain ⟨hitems, hcapacity⟩ := pop_items hpop
  have hcurrent : current = none := by
    have hcurrent := hl.pending
    rw [hpending] at hcurrent
    exact map_eq_none_iff.mp hcurrent.symm
  subst hcurrent
  obtain ⟨b, rest, rfl, hheader, hrest⟩ : ∃ b rest, queued = b :: rest ∧ b.header = span
      ∧ rest.map Block.header = spans.items :=
    map_eq_cons_iff.mp (hl.spans.symm.trans hitems)
  have hmem : b ∈ d.admitted := by
    rw [hl.admitted]
    simp
  refine ⟨⟨done, some ⟨b, 0, h.nonempty b hmem⟩, rest, late, ?_, ?_, ?_, hrest.symm, ?_, hl.late,
    ?_⟩, h.nonempty, h.unwrapped, h.writing, h.inside⟩
  · rw [hl.admitted]
    simp [Current.blocks]
  · rw [hl.data]
    simp [Current.taken]
  · rw [hl.samples]
    simp [Current.left, audioOf]
  · rw [← hheader, map_some, Current.rest, Block.spanAt_zero]
    rfl
  · refine hl.reserved.imp_right fun hroom => ?_
    rw [hitems, length_cons] at hroom
    dsimp only
    omega

end

/-- The samples behind the current span are there. -/
theorem Layout.popEntire {done queued late : List (Block α)} {c : Current α}
    (hl : d.Layout done (some c) queued late) (count : Nat) (hcount : count ≤ c.rest.frames) :
    ∃ samples, d.queue.samples.popEntire count =
      some ((c.block.audio.drop c.offset).take count, samples)
      ∧ samples.items = c.block.audio.drop (c.offset + count) ++ audioOf queued ++
        audioOf late := by
  have hleft : count ≤ (c.block.audio.drop c.offset).length := by
    rwa [length_drop]
  have hlength : count ≤ d.queue.samples.items.length := by
    rw [hl.samples, append_assoc, length_append]
    exact Nat.le_add_right_of_le hleft
  obtain ⟨data, samples, hpop⟩ : ∃ l r, d.queue.samples.popEntire count = some (l, r) :=
    ⟨_, _, if_pos hlength⟩
  obtain ⟨rfl, hitems, -⟩ := popEntire_items hpop
  refine ⟨samples, ?_, ?_⟩
  · rw [hpop, hl.samples, Current.left, append_assoc, take_append_of_le_length hleft]
  · rw [hitems, hl.samples, Current.left, append_assoc, drop_append_of_le_length hleft,
      drop_drop, append_assoc]

theorem insides_concat {admitted : List (Block α)} {delivered : List (Delivery α)}
    {last : Delivery α} (h : ∀ (i : Nat) (r : Delivery α), delivered[i]? = some r →
      Inside admitted (dataOf (delivered.take i)).length r)
    (hlast : Inside admitted (dataOf delivered).length last) :
    ∀ (i : Nat) (r : Delivery α), (delivered ++ [last])[i]? = some r →
      Inside admitted (dataOf ((delivered ++ [last]).take i)).length r := by
  intro i r hr
  by_cases hi : i < delivered.length
  · rw [getElem?_append_left hi] at hr
    rw [take_append_of_le_length (Nat.le_of_lt hi)]
    exact h i r hr
  · rw [getElem?_append_right (by omega), getElem?_singleton] at hr
    obtain ⟨hzero, hr⟩ := ite_none_right_eq_some.mp hr
    have hi' : i = delivered.length := by omega
    cases hr
    rwa [hi', take_append_of_le_length (Nat.le_refl _), take_length]

/-- A piece of the current block is read. -/
theorem Lawful.copy (h : d.Lawful) {pending : ReadSpan} (hpending : d.queue.pending = some pending)
    {wanted : Nat} (hwanted : wanted ≠ 0)
    (hprompt : pending.span.elapsed (min pending.frames wanted) < 2 ^ 64) :
    ∃ data samples, d.queue.samples.popEntire (min pending.frames wanted) = some (data, samples)
      ∧ Lawful { d with
        queue := { d.queue with samples, pending := leave (min pending.frames wanted) pending }
        delivered := d.delivered ++ [⟨⟨pending.span, min pending.frames wanted⟩, data⟩] } := by
  obtain ⟨done, current, queued, late, hl⟩ := h.layout
  obtain ⟨c, rfl, rfl⟩ : ∃ c, current = some c ∧ c.rest = pending :=
    map_eq_some_iff.mp (hl.pending.symm.trans hpending)
  have hunread := c.unread
  have hframes : c.rest.frames = c.block.audio.length - c.offset := rfl
  generalize hcount : min c.rest.frames wanted = count at hprompt ⊢
  obtain ⟨samples, hpop, hitems⟩ := hl.popEntire count (by omega)
  have hmem : c.block ∈ d.admitted := by
    rw [hl.admitted]
    simp [Current.blocks]
  have hwrap := h.unwrapped c.block hmem
  have hdata : dataOf d.delivered ++ (c.block.audio.drop c.offset).take count
      = audioOf done ++ c.block.audio.take (c.offset + count) := by
    rw [hl.data, append_assoc, Current.taken, take_add]
  have hinside : Inside d.admitted (dataOf d.delivered).length
      ⟨⟨c.rest.span, count⟩, (c.block.audio.drop c.offset).take count⟩ := by
    refine ⟨done, c.block, queued ++ late, c.offset, ?_, ?_, by dsimp only; omega,
      by dsimp only; omega, rfl, rfl⟩
    · rw [hl.admitted]
      simp [Current.blocks]
    · rw [hl.data, length_append, Current.taken, length_take_of_le (Nat.le_of_lt hunread)]
  have hinside' := insides_concat h.inside hinside
  refine ⟨_, samples, hpop, ?_⟩
  by_cases hend : c.rest.frames - count = 0
  · -- the block is finished
    have hoffset : c.offset + count = c.block.audio.length := by omega
    refine ⟨⟨done ++ [c.block], none, queued, late, ?_, ?_, ?_, hl.spans, ?_, hl.late, hl.reserved⟩,
      h.nonempty, h.unwrapped, h.writing, hinside'⟩
    · rw [hl.admitted]
      simp [Current.blocks]
    · rw [hoffset, take_length] at hdata
      simpa [dataOf, audioOf, Current.taken] using hdata
    · rw [hitems, hoffset, drop_length]
      simp [Current.left]
    · exact if_pos hend
  · have hnext : c.offset + count < c.block.audio.length := by omega
    refine ⟨⟨done, some ⟨c.block, c.offset + count, hnext⟩, queued, late, hl.admitted, ?_, hitems,
      hl.spans, ?_, hl.late, hl.reserved⟩, h.nonempty, h.unwrapped, h.writing, hinside'⟩
    · simpa [dataOf, audioOf, Current.taken] using hdata
    · have hspan : c.rest.span.advance count = c.block.spanAt (c.offset + count) :=
        Block.advance_spanAt (by omega) hprompt
      have hrest : c.rest.frames - count = c.block.audio.length - (c.offset + count) := by omega
      have hleave :
          leave count c.rest = some (Current.rest ⟨c.block, c.offset + count, hnext⟩) := by
        rw [leave, if_neg hend, hspan, hrest]
        rfl
      exact hleave

end Laws

/-! ## Steps -/

inductive Took (d : QueueDesk α) : QueueMove α → QueueDesk α → Prop
  | rejected (span : AudioSpan) (audio : List α) (room : Nat) (hphase : d.writing = .idle) :
      Took d (.write span audio room)
        (finishWrite audio.length 0 { d with offered := d.offered + audio.length })
  | reserved (span : AudioSpan) (audio : List α) (room : Nat) (hphase : d.writing = .idle)
      (hfree : d.queue.spans.items.length < d.queue.spans.capacity) :
      Took d (.write span audio room)
        { d with offered := d.offered + audio.length, writing := .reserved span audio }
  | full (span : AudioSpan) (audio : List α) (room : Nat)
      (hphase : d.writing = .reserved span audio) :
      Took d (.push room) (d.finishWrite audio.length 0)
  | pushed (span : AudioSpan) (audio : List α) (room : Nat)
      (hphase : d.writing = .reserved span audio)
      (hwritten : (d.queue.samples.pushPartial room audio).1.length ≠ 0) :
      Took d (.push room) { d with
        queue := { d.queue with samples := (d.queue.samples.pushPartial room audio).2 }
        writing := .pushed span audio (d.queue.samples.pushPartial room audio).1.length
        admitted := d.admitted ++ [⟨span, (d.queue.samples.pushPartial room audio).1⟩] }
  | published (span : AudioSpan) (audio : List α) (written : Nat) (spans : RingBuffer ReadSpan)
      (hphase : d.writing = .pushed span audio written)
      (hpush : d.queue.spans.push ⟨span, written⟩ = some spans) :
      Took d .publish (finishWrite audio.length written { d with queue := { d.queue with spans } })
  | askedNothing (hidle : d.reading = .idle) : Took d (.readSpan 0) d
  | asked (wanted : Nat) (hidle : d.reading = .idle) (hwanted : wanted ≠ 0) :
      Took d (.readSpan wanted) { d with reading := .span wanted }
  | readNothing (hidle : d.reading = .idle) :
      Took d (.read 0) (d.finishRead 0 d.delivered.length [])
  | read (wanted : Nat) (hidle : d.reading = .idle) (hwanted : wanted ≠ 0) :
      Took d (.read wanted) { d with reading := .fill wanted d.delivered.length [] }
  | acquired (sees : Bool) (span : ReadSpan) (spans : RingBuffer ReadSpan)
      (hpending : d.queue.pending = none) (hpop : d.queue.spans.pop = some (span, spans)) :
      Took d (.acquire sees) { d with queue := { d.queue with spans, pending := some span } }
  | missed (sees : Bool) (hreading : ∀ wanted first output, d.reading ≠ .fill wanted first output) :
      Took d (.acquire sees) { d with reading := .idle }
  | silent (sees : Bool) (wanted first : Nat) (output : List α)
      (hreading : d.reading = .fill wanted first output) :
      Took d (.acquire sees) (d.finishRead wanted first output)
  | copied (pending : ReadSpan) (data : List α) (samples : RingBuffer α)
      (hpending : d.queue.pending = some pending) (hwanted : d.wanted ≠ 0)
      (hpop : d.queue.samples.popEntire (min pending.frames d.wanted) = some (data, samples)) :
      Took d .copy (resumeReading data { d with
        queue := { d.queue with samples, pending := leave (min pending.frames d.wanted) pending }
        delivered := d.delivered ++ [⟨⟨pending.span, min pending.frames d.wanted⟩, data⟩] })

variable {move : QueueMove α}

theorem step_took (h : d.Step move d') : Took d move d' := by
  unfold Step step at h
  cases move with
  | write span audio room =>
    dsimp only at h
    split at h
    · rename_i hphase
      split at h
      · cases h
        exact .rejected span audio room hphase
      rename_i hroom
      cases h
      refine .reserved span audio room hphase ?_
      unfold slots at hroom
      omega
    · cases h
  | push room =>
    dsimp only at h
    split at h
    · rename_i span audio hphase
      split at h
      · cases h
        exact .full span audio room hphase
      · rename_i hwritten
        cases h
        exact .pushed span audio room hphase hwritten
    · cases h
  | publish =>
    dsimp only at h
    split at h
    · rename_i span audio written hphase
      split at h
      · cases h
      rename_i spans hpush
      cases h
      exact .published span audio written spans hphase hpush
    · cases h
  | readSpan wanted =>
    dsimp only at h
    split at h
    · rename_i hidle
      cases h
      by_cases hwanted : wanted = 0
      · subst hwanted
        exact .askedNothing hidle
      · rw [if_neg hwanted]
        exact .asked wanted hidle hwanted
    · cases h
  | read wanted =>
    dsimp only at h
    split at h
    · rename_i hidle
      cases h
      by_cases hwanted : wanted = 0
      · subst hwanted
        exact .readNothing hidle
      · rw [if_neg hwanted]
        exact .read wanted hidle hwanted
    · cases h
  | acquire sees =>
    dsimp only at h
    split at h
    · cases h
    rename_i hpending
    split at h
    · rename_i span spans hacquired
      cases h
      obtain ⟨-, hpop⟩ := ite_none_right_eq_some.mp hacquired
      exact .acquired sees span spans hpending hpop
    · split at h
      · cases h
        exact .missed sees (by simp_all)
      · cases h
        exact .missed sees (by simp_all)
      · rename_i hreading
        cases h
        exact .silent sees _ _ _ hreading
  | copy =>
    dsimp only at h
    split at h
    · cases h
    rename_i pending hpending
    split at h
    · cases h
    rename_i hwanted
    split at h
    · cases h
    rename_i data samples hpop
    cases h
    exact .copied pending data samples hpending hwanted hpop

theorem resumeReading_lawful {data : List α} (h : d.Lawful) : (d.resumeReading data).Lawful := by
  unfold resumeReading
  split
  · exact h.congr ⟨rfl, rfl, rfl⟩ rfl rfl rfl
  · exact h.congr ⟨rfl, rfl, rfl⟩ rfl rfl rfl
  · split <;> exact h.congr ⟨rfl, rfl, rfl⟩ rfl rfl rfl

/-- **Every step keeps the rings consistent with what was admitted and read.** -/
theorem step_lawful (h : d.Step move d') (hunwrapped : Unwrapped move)
    (hprompt : d.Prompt move) (hd : d.Lawful) : d'.Lawful := by
  cases step_took h with
  | rejected span audio room hphase =>
    have hoffered : Lawful { d with offered := d.offered + audio.length } :=
      hd.congr ⟨rfl, rfl, rfl⟩ rfl rfl rfl
    refine hoffered.finishWrite ?_ _ _
    rw [hphase]
    nofun
  | reserved span audio room hphase hfree =>
    have hreserved := hd.phase (.reserved span audio) (by simp [hphase]) nofun
      (fun _ _ heq => by
        cases heq
        exact ⟨hunwrapped, hfree⟩)
    exact hreserved.congr ⟨rfl, rfl, rfl⟩ rfl rfl rfl
  | full span audio room hphase => exact hd.finishWrite (by simp [hphase]) _ _
  | pushed span audio room hphase hwritten => exact hd.push hphase hwritten
  | published span audio written spans hphase hpush =>
    exact (hd.publish hphase hpush).congr ⟨rfl, rfl, rfl⟩ rfl rfl rfl
  | acquired sees span spans hpending hpop => exact hd.acquire hpending hpop
  | copied pending data samples hpending hwanted hpop =>
    obtain ⟨data', samples', hpop', hlawful⟩ := hd.copy hpending hwanted (hprompt pending hpending)
    rw [hpop] at hpop'
    cases hpop'
    exact resumeReading_lawful hlawful
  | askedNothing => exact hd
  | asked | readNothing | read | missed | silent => exact hd.congr ⟨rfl, rfl, rfl⟩ rfl rfl rfl

/-- **No `expect` fails.** -/
theorem step_safe (hd : d.Lawful) (move : QueueMove α) (e : QueuePanic) :
    d.step move ≠ some (.error e) := by
  intro h
  obtain ⟨done, current, queued, late, hl⟩ := hd.layout
  unfold step at h
  cases move with
  | publish =>
    cases hphase : d.writing with
    | pushed span audio written =>
      have hroom : d.queue.spans.items.length < d.queue.spans.capacity := by
        rcases hl.reserved with hidle | hroom
        · exact absurd hphase (hidle.2 span audio written)
        · exact hroom
      obtain ⟨spans, hpush⟩ := push_isSome ⟨span, written⟩ hroom
      rw [hphase] at h
      dsimp only at h
      rw [hpush] at h
      cases h
    | idle | reserved =>
      rw [hphase] at h
      cases h
  | copy =>
    cases hpending : d.queue.pending with
    | none =>
      rw [hpending] at h
      cases h
    | some pending =>
      obtain ⟨c, rfl, rfl⟩ : ∃ c, current = some c ∧ c.rest = pending :=
        map_eq_some_iff.mp (hl.pending.symm.trans hpending)
      obtain ⟨samples, hpop, -⟩ := hl.popEntire _ (Nat.min_le_left c.rest.frames d.wanted)
      rw [hpending] at h
      dsimp only at h
      rw [hpop] at h
      split at h <;> cases h
  | write span audio room | push room | readSpan | read | acquire =>
    dsimp only at h
    repeat' split at h
    all_goals cases h

/-! ## Accounting -/

/-- The samples of the write in progress that are neither admitted nor rejected yet. -/
def undecided (d : QueueDesk α) : Nat :=
  match d.writing with
  | .idle => 0
  | .reserved _ audio => audio.length
  | .pushed _ audio written => audio.length - written

/-- Admitted and rejected samples are those offered. -/
structure Balanced (d : QueueDesk α) : Prop where
  count : (audioOf d.admitted).length + d.rejected + d.undecided = d.offered
  dropped : d.queue.dropped = d.rejected % 2 ^ 64

theorem step_balanced (h : d.Step move d') (hd : d.Balanced) : d'.Balanced := by
  obtain ⟨hcount, hdropped⟩ := hd
  have hdrop : ∀ n, (d.queue.dropped + n) % 2 ^ 64 = (d.rejected + n) % 2 ^ 64 := by
    intro n
    rw [hdropped, Nat.mod_add_mod]
  unfold undecided at hcount
  cases step_took h with
  | rejected span audio room hphase | full span audio room hphase
  | published span audio written spans hphase =>
    rw [hphase] at hcount
    dsimp only at hcount
    refine ⟨?_, hdrop _⟩
    simp only [undecided, finishWrite]
    omega
  | reserved span audio room hphase =>
    rw [hphase] at hcount
    dsimp only at hcount
    refine ⟨?_, hdropped⟩
    simp only [undecided]
    omega
  | pushed span audio room hphase =>
    rw [hphase] at hcount
    have hle : (d.queue.samples.pushPartial room audio).1.length ≤ audio.length :=
      length_take_le' ..
    refine ⟨?_, hdropped⟩
    simp only [undecided, audioOf, flatMap_append, flatMap_singleton, length_append] at hcount ⊢
    omega
  | copied pending data samples =>
    have hreading : ∀ e : QueueDesk α, e.Balanced → (e.resumeReading data).Balanced := by
      intro e he
      unfold resumeReading
      split
      · exact ⟨he.count, he.dropped⟩
      · exact ⟨he.count, he.dropped⟩
      · split <;> exact ⟨he.count, he.dropped⟩
    exact hreading _ ⟨hcount, hdropped⟩
  | askedNothing | asked | readNothing | read | acquired | missed | silent =>
    exact ⟨hcount, hdropped⟩

/-! ## The output of `read` -/

/-- An output is the spans it was read from, one after the other, and then silence. -/
def Faithful (delivered : List (Delivery α)) (o : Output α) : Prop :=
  o.first ≤ o.last ∧ o.last ≤ delivered.length
    ∧ o.samples = dataOf ((delivered.take o.last).drop o.first) ++ List.replicate o.silence 0

/-- Every output of `read` is faithful, the one in progress included. -/
structure Filled (d : QueueDesk α) : Prop where
  reading : ∀ wanted first output, d.reading = .fill wanted first output →
    first ≤ d.delivered.length ∧ output = dataOf (d.delivered.drop first)
  outputs : ∀ o ∈ d.outputs, Faithful d.delivered o

theorem finishRead_filled (houtputs : ∀ o ∈ d.outputs, Faithful d.delivered o) {first : Nat}
    {output : List α} (hfirst : first ≤ d.delivered.length)
    (houtput : output = dataOf (d.delivered.drop first)) (wanted : Nat) :
    (d.finishRead wanted first output).Filled := by
  refine ⟨nofun, forall_mem_append.mpr ⟨houtputs, forall_mem_singleton.mpr ?_⟩⟩
  refine ⟨hfirst, Nat.le_refl _, ?_⟩
  unfold QueueDesk.finishRead
  rw [take_length, houtput]

theorem Faithful.concat {delivered : List (Delivery α)} {o : Output α} (h : Faithful delivered o)
    (r : Delivery α) : Faithful (delivered ++ [r]) o := by
  obtain ⟨hfirst, hlast, hsamples⟩ := h
  refine ⟨hfirst, ?_, ?_⟩
  · rw [length_append]
    exact Nat.le_add_right_of_le hlast
  · rwa [take_append_of_le_length hlast]

/-- More is delivered. -/
theorem Filled.deliver (h : d.Filled) (queue : LinkAudioQueue α) (r : Delivery α) :
    (resumeReading r.data { d with queue, delivered := d.delivered ++ [r] }).Filled := by
  have houtputs : ∀ o ∈ d.outputs, Faithful (d.delivered ++ [r]) o :=
    fun o ho => (h.outputs o ho).concat r
  unfold resumeReading
  cases hreading : d.reading with
  | idle | span => exact ⟨nofun, houtputs⟩
  | fill wanted first output =>
    obtain ⟨hold, rfl⟩ := h.reading wanted first output hreading
    have hfirst : first ≤ (d.delivered ++ [r]).length := by
      rw [length_append]
      exact Nat.le_add_right_of_le hold
    have houtput : dataOf (d.delivered.drop first) ++ r.data
        = dataOf ((d.delivered ++ [r]).drop first) := by
      rw [drop_append_of_le_length hold]
      simp [dataOf]
    dsimp only
    split
    · exact finishRead_filled (d := { d with
        reading := .fill wanted first _, queue, delivered := d.delivered ++ [r] })
        houtputs hfirst houtput 0
    · refine ⟨fun _ _ _ heq => ?_, houtputs⟩
      cases heq
      exact ⟨hfirst, houtput⟩

theorem step_filled (h : d.Step move d') (hd : d.Filled) : d'.Filled := by
  cases step_took h with
  | copied pending data samples => exact hd.deliver _ ⟨_, data⟩
  | silent sees wanted first output hreading =>
    obtain ⟨hfirst, houtput⟩ := hd.reading wanted first output hreading
    exact finishRead_filled hd.outputs hfirst houtput wanted
  | readNothing =>
    refine finishRead_filled hd.outputs (Nat.le_refl _) ?_ 0
    rw [drop_length]
    rfl
  | read wanted =>
    refine ⟨fun _ _ _ heq => ?_, hd.outputs⟩
    cases heq
    refine ⟨Nat.le_refl _, ?_⟩
    rw [drop_length]
    rfl
  | asked | missed => exact ⟨nofun, hd.outputs⟩
  | askedNothing => exact hd
  | rejected | reserved | full | pushed | published | acquired => exact ⟨hd.reading, hd.outputs⟩

/-! ## The law of the queue -/

omit [Zero α] in
theorem Initial.lawful (h : d.Initial) : d.Lawful := by
  obtain ⟨capacity, spanCapacity, -, -, rfl⟩ := h
  exact ⟨⟨[], none, [], [], rfl, rfl, rfl, rfl, rfl, rfl, .inl ⟨nofun, nofun⟩⟩,
    forall_mem_nil _, forall_mem_nil _, nofun, fun i r hr => by simp at hr⟩

/-- **The samples admitted are those read and those in the ring, in order; every read lies inside
one block and has the origin that the block gives it; admitted and dropped samples are those
offered; and no `expect` fails**, as long as source positions do not wrap and no single read moves
2^64 ns ahead. -/
theorem queue_spans
    (h : Reachable Initial (Guarded Step fun d move => Unwrapped move ∧ d.Prompt move) d) :
    audioOf d.admitted = dataOf d.delivered ++ d.queue.samples.items
      ∧ (∀ (i : Nat) (r : Delivery α), d.delivered[i]? = some r →
        Inside d.admitted (dataOf (d.delivered.take i)).length r)
      ∧ (∀ o ∈ d.outputs, Faithful d.delivered o)
      ∧ (d.writing = .idle → (audioOf d.admitted).length + d.rejected = d.offered
        ∧ d.queue.dropped = d.rejected % 2 ^ 64)
      ∧ ∀ move e, d.step move ≠ some (.error e) := by
  have hlawful : d.Lawful :=
    h.invariant (P := Lawful) (fun _ => Initial.lawful)
      fun _ _ _ hd hstep => step_lawful hstep.2 hstep.1.1 hstep.1.2 hd
  have hbalanced : d.Balanced := by
    refine h.invariant (P := Balanced) ?_ fun _ _ _ hd hstep => step_balanced hstep.2 hd
    rintro _ ⟨capacity, spanCapacity, -, -, rfl⟩
    exact ⟨rfl, rfl⟩
  have hfilled : d.Filled := by
    refine h.invariant (P := Filled) ?_ fun _ _ _ hd hstep => step_filled hstep.2 hd
    rintro _ ⟨capacity, spanCapacity, -, -, rfl⟩
    exact ⟨nofun, forall_mem_nil _⟩
  obtain ⟨done, current, queued, late, hl⟩ := hlawful.layout
  refine ⟨?_, hlawful.inside, hfilled.outputs, fun hidle => ⟨?_, hbalanced.dropped⟩,
    step_safe hlawful⟩
  · rw [hl.admitted, hl.data, hl.samples]
    cases current with
    | none => simp [audioOf, Current.blocks, Current.taken, Current.left]
    | some c =>
      have hsplit := take_append_drop c.offset c.block.audio
      simp only [audioOf, Current.blocks, Current.taken, Current.left, flatMap_append,
        flatMap_singleton, append_assoc]
      rw [← append_assoc (c.block.audio.take c.offset), hsplit]
  · have hcount := hbalanced.count
    rwa [undecided, hidle] at hcount

/-- A block is written, and read in two pieces: all but its last sample, and the last one. -/
def twoReads (span : AudioSpan) (l : List α) : List (QueueMove α) :=
  [.write span l 1, .push l.length, .publish, .readSpan (l.length - 1), .acquire true, .copy,
    .readSpan 1, .copy]

/-- A queue that has room for the block. -/
def roomyDesk (α : Type) (capacity : Nat) : QueueDesk α :=
  { queue := { samples := .new capacity, spans := .new 1 } }

instance : DecidablePred (@Unwrapped α) := fun move => by
  cases move <;> unfold Unwrapped <;> infer_instance

theorem twoReads_run (span : AudioSpan) {l : List α} (hl : 2 ≤ l.length)
    (hfits : span.sourceStart + l.length ≤ 2 ^ 64) :
    ∃ d, (twoReads span l).foldlM (fun d move =>
        if Unwrapped move then (d.step move).bind Except.toOption else none)
          (roomyDesk α l.length) = some d
      ∧ d.admitted = [⟨span, l⟩]
      ∧ d.delivered = [⟨⟨span, l.length - 1⟩, l.take (l.length - 1)⟩,
        ⟨⟨span.advance (l.length - 1), 1⟩, l.drop (l.length - 1)⟩] := by
  have hne : l ≠ [] := by
    rintro rfl
    cases hl
  have hpos : l.length - 1 ≠ 0 := by omega
  have hone : l.length - (l.length - 1) = 1 := by omega
  have htake : (l.drop (l.length - 1)).take 1 = l.drop (l.length - 1) :=
    take_of_length_le (by rw [length_drop]; omega)
  simp only [Nat.reducePow] at hfits
  simp [twoReads, Unwrapped, hfits, step, roomyDesk, new, slots, pushPartial, Except.toOption,
    RingBuffer.push, finishWrite, acquired, pop, wanted, leave, resumeReading, popEntire, hne, hpos,
    hone, htake]

/-- The origin of a block at time zero. -/
def zeroSpan : AudioSpan := ⟨1, 1, 0, 1, some 0⟩

/-- After a read of 885443715538059 samples (585 years), the birth time of the next sample is that
of 2^64 ns earlier; the block's own law makes it absent. -/
theorem birth_time_wraps : ∃ (d : QueueDesk Int) (b : Block Int) (r : Delivery Int),
      Reachable Initial (Guarded Step fun _ move => Unwrapped move) d
      ∧ d.admitted = [b] ∧ d.delivered[1]? = some r
      ∧ (dataOf (d.delivered.take 1)).length = 885443715538059
      ∧ b.span = zeroSpan ∧ r.read.span.sourceStart = 885443715538059
      ∧ r.read.span.bornNs = some 10884 ∧ (b.spanAt 885443715538059).bornNs = none := by
  obtain ⟨l, hl⟩ : ∃ l : List Int, l.length = 885443715538060 :=
    ⟨List.replicate 885443715538060 0, length_replicate⟩
  obtain ⟨d, hrun, hadmitted, hdelivered⟩ := twoReads_run zeroSpan (l := l) (by omega)
    (by rw [hl]; decide)
  have hreach : Reachable Initial (Guarded Step fun _ move => Unwrapped move) d :=
    (Reachable.init ⟨l.length, 1, by omega, by omega, rfl⟩).run (Run.foldlM_ok hrun)
  refine ⟨d, ⟨zeroSpan, l⟩, _, hreach, hadmitted, by rw [hdelivered]; rfl, ?_, rfl, ?_, ?_, ?_⟩
  · rw [hdelivered]
    simp [dataOf, hl]
  · dsimp only
    rw [hl]
    decide
  · dsimp only
    rw [hl]
    decide
  · have hnone : (Block.spanAt 885443715538059 (⟨zeroSpan, []⟩ : Block Int)).bornNs = none := by
      decide
    exact hnone

instance (d : QueueDesk α) : DecidablePred d.Prompt := fun move => by
  cases move <;> unfold Prompt <;> infer_instance

/-- A block of three samples, read in two pieces. -/
theorem queue_spans_twoReads : ∃ d : QueueDesk Int,
      Reachable Initial (Guarded Step fun d move => Unwrapped move ∧ d.Prompt move) d
      ∧ d.delivered.map (·.data) = [[1, 2], [3]]
      ∧ audioOf d.admitted = dataOf d.delivered ++ d.queue.samples.items := by
  have hrun : ((twoReads zeroSpan [1, 2, 3]).foldlM (fun d move =>
      if Unwrapped move ∧ d.Prompt move then (d.step move).bind Except.toOption else none)
        (roomyDesk Int 3)).map (fun d => d.delivered.map (·.data)) = some [[1, 2], [3]] := by
    decide +kernel
  obtain ⟨d, hd, hdata⟩ := map_eq_some_iff.mp hrun
  have hreach : Reachable Initial
      (Guarded Step fun (d : QueueDesk Int) move => Unwrapped move ∧ d.Prompt move) d :=
    (Reachable.init ⟨3, 1, by decide, by decide, rfl⟩).run (Run.foldlM_ok hd)
  exact ⟨d, hreach, hdata, (queue_spans hreach).1⟩

end QueueDesk

end RptAdvanced.Audio
