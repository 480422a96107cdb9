import RptAdvanced.Lib.Ring
import RptAdvanced.Lib.Run

/-!
# The digit queue between radio and control (`rust/core/src/runtime/dtmf.rs`)

The receive owner pushes decoded events into a ring of 256 places and counts an event that does not
fit. The control owner compares the counter with the value it has reported: a difference makes
`next` drop the queued prefix and return `Lost`, so that a partial command is given up.

The ring and the counter are two objects. A publication that fails is a push and an increment, a
call of `next` is a load, a slot count and pops, and a call of `discard` ends with a load. `step`
makes one access at a time.

An event carries the number of its publication, which nothing reads. `log` records, newest first,
the drops, the returned events and the returned losses.

Results:
* `step_sound`: the reported drops are older than what is queued, the others newer than what was
  returned since the last loss.
* `no_gap`: behind a dropped event none is returned before a loss, and no command spans a dropped
  event, as long as no increment comes between the load and the pop of a `next` that finds the ring
  empty, every `discard` finds the counter as reported, and the counter does not wrap.
* `uncounted_drop_spanned`, `discard_hides_drop`: what happens otherwise.
-/

namespace RptAdvanced.Runtime

open Lib List Option Nat RingBuffer

inductive DigitEvent
  | digit (digit : Char) (nowMs : Nat)
  /-- Receive falling edge. -/
  | unkey (nowMs : Nat)
  /-- A loss invalidates the partial command. -/
  | lost
  deriving DecidableEq, Repr

/-- What is still to be done when a queued prefix has been dropped. -/
inductive Drain
  /-- `next` reports the loaded counter. -/
  | lost (dropped : Nat)
  /-- `next` of another generation. -/
  | retired (dropped : Nat)
  | discard
  deriving DecidableEq, Repr

/-- Where the control owner is. -/
inductive DigitStage
  | idle
  /-- `next` has loaded the counter. -/
  | loaded (dropped currentGeneration : Nat)
  /-- So many pops of the observed prefix are left. -/
  | draining (left : Nat) (drain : Drain)
  deriving DecidableEq, Repr

inductive DigitEntry
  | dropped (number : Nat)
  | returned (number : Nat) (event : DigitEvent)
  | lost
  deriving DecidableEq, Repr

/-- `DtmfPublisher` and `DtmfDispatcher` of one generation. -/
structure DigitDesk where
  ring : RingBuffer (Nat × DigitEvent)
  drops : Nat
  /-- The number of publications. -/
  published : Nat
  /-- An event whose push has failed and that is not counted yet. -/
  failing : Option Nat
  reported : Nat
  generation : Nat
  stage : DigitStage
  log : List DigitEntry

/-- One access to the ring or the counter. -/
inductive DigitMove
  /-- The push of `publish`. -/
  | publish (event : DigitEvent)
  /-- The increment of a failed one. -/
  | count
  /-- `next`, its load. -/
  | next (currentGeneration : Nat)
  /-- `discard`, its slot count. -/
  | discard
  /-- The control owner's following access. -/
  | advance
  deriving DecidableEq, Repr

namespace DigitDesk

def new (generation : Nat) : DigitDesk where
  ring := .new 256
  drops := 0
  published := 0
  failing := none
  reported := 0
  generation
  stage := .idle
  log := []

/-- The push of `publish`. -/
def publish (event : DigitEvent) (d : DigitDesk) : Option DigitDesk :=
  match d.failing with
  | some _ => none
  | none =>
    match d.ring.push (d.published, event) with
    | some ring => some { d with ring, published := d.published + 1 }
    | none => some { d with
        failing := some d.published
        published := d.published + 1
        log := .dropped d.published :: d.log }

/-- `fetch_add`. -/
def count (d : DigitDesk) : Option DigitDesk :=
  d.failing.map fun _ => { d with failing := none, drops := (d.drops + 1) % 2 ^ 64 }

/-- `next` behind its load: an unreported drop, or a queue of another generation, drops the queued
prefix; otherwise one event is taken. -/
def afterLoad (dropped currentGeneration : Nat) (d : DigitDesk) : DigitDesk :=
  if d.generation ≠ currentGeneration then
    { d with stage := .draining d.ring.items.length (.retired dropped) }
  else if dropped ≠ d.reported then
    { d with stage := .draining d.ring.items.length (.lost dropped) }
  else
    match d.ring.pop with
    | none => { d with stage := .idle }
    | some (x, ring) => { d with ring, stage := .idle, log := .returned x.1 x.2 :: d.log }

/-- The end of a call that has dropped its prefix. -/
def drained (d : DigitDesk) : Drain → DigitDesk
  | .lost dropped => { d with reported := dropped, stage := .idle, log := .lost :: d.log }
  | .retired dropped => { d with reported := dropped, stage := .idle }
  | .discard => { d with reported := d.drops, stage := .idle }

/-- The control owner's following access. -/
def advance (d : DigitDesk) : Option DigitDesk :=
  match d.stage with
  | .idle => none
  | .loaded dropped currentGeneration => some (d.afterLoad dropped currentGeneration)
  | .draining 0 drain => some (d.drained drain)
  | .draining (left + 1) drain => some
    { d with
      ring := (d.ring.pop.map Prod.snd).getD d.ring
      stage := .draining left drain }

/-- One access. Each owner makes one call at a time. -/
def step (d : DigitDesk) : DigitMove → Option DigitDesk
  | .publish event => d.publish event
  | .count => d.count
  | .next currentGeneration =>
    if d.stage = .idle then some { d with stage := .loaded d.drops currentGeneration } else none
  | .discard =>
    if d.stage = .idle then some { d with stage := .draining d.ring.items.length .discard }
    else none
  | .advance => d.advance

def Step (d : DigitDesk) (move : DigitMove) (d' : DigitDesk) : Prop := d.step move = some d'

def Initial (d : DigitDesk) : Prop := ∃ generation, d = new generation

/-- `next` is called for the present generation. No increment comes behind the load of a `next` that
will find the ring empty, no `discard` finds a counter that is not reported, and the counter does
not wrap. -/
def Orderly (d : DigitDesk) : DigitMove → Prop
  | .next currentGeneration => currentGeneration = d.generation
  | .count => d.drops + 1 < 2 ^ 64 ∧ (d.stage = .loaded d.reported d.generation → d.ring.items ≠ [])
  | .advance => d.stage = .draining 0 .discard → d.drops = d.reported
  | _ => True

end DigitDesk

/-! ## Reading the log -/

namespace DigitEntry

/-- The dropped events, newest first. -/
def missing : List DigitEntry → List Nat
  | [] => []
  | .dropped x :: log => x :: missing log
  | _ :: log => missing log

/-- The events dropped since the last loss was returned. -/
def unreported : List DigitEntry → List Nat
  | [] => []
  | .dropped x :: log => x :: unreported log
  | .returned _ _ :: log => unreported log
  | .lost :: _ => []

/-- The events returned since the last loss: a partial command is made of these. -/
def command : List DigitEntry → List Nat
  | [] => []
  | .dropped _ :: log => command log
  | .returned y _ :: log => y :: command log
  | .lost :: _ => []

/-- Every returned event is older than the drops no loss was returned for. -/
def Explained : List DigitEntry → Prop
  | [] => True
  | .returned y _ :: log => (∀ x ∈ unreported log, y < x) ∧ Explained log
  | .dropped _ :: log | .lost :: log => Explained log

/-- A drop without a later loss is unreported. -/
theorem mem_unreported {l₂ l₃ : List DigitEntry} {x : Nat} (h : DigitEntry.lost ∉ l₂) :
    x ∈ unreported (l₂ ++ .dropped x :: l₃) := by
  induction l₂ with
  | nil => exact mem_cons_self
  | cons e l₂ ih =>
    have hrest := ih fun hmem => h (mem_cons_of_mem e hmem)
    cases e with
    | dropped y => exact mem_cons_of_mem y hrest
    | returned y event => exact hrest
    | lost => exact absurd mem_cons_self h

/-- Between a drop and the return of a younger event there is a loss. -/
theorem Explained.lost_between {l₁ l₂ l₃ : List DigitEntry} {x y : Nat} {event : DigitEvent}
    (h : Explained (l₁ ++ .returned y event :: (l₂ ++ .dropped x :: l₃))) (hxy : x < y) :
    DigitEntry.lost ∈ l₂ := by
  induction l₁ with
  | nil =>
    by_contra hnone
    have hyx := h.1 x (mem_unreported hnone)
    exact Nat.lt_asymm hxy hyx
  | cons e l₁ ih =>
    cases e with
    | returned z other => exact ih h.2
    | dropped | lost => exact ih h

end DigitEntry

namespace DigitDesk

open DigitEntry (missing unreported command Explained)

/-! ## What every access keeps -/

/-- The drops that are not reported. -/
def unacked (reported : Nat) (log : List DigitEntry) : List Nat :=
  (missing log).take ((missing log).length - reported)

/-- The first so many drops. -/
def acked (reported : Nat) (log : List DigitEntry) : List Nat :=
  (missing log).drop ((missing log).length - reported)

/-- What a `next` will take is older than every drop that is not reported. -/
def Led (d : DigitDesk) : Prop :=
  unacked d.reported d.log = []
    ∨ (∃ front rest, d.ring.items = front :: rest ∧ ∀ x ∈ unacked d.reported d.log, front.1 < x)
    ∨ d.failing.isSome = true ∧ ∀ x ∈ unacked d.reported d.log, ∀ item ∈ d.ring.items, item.1 < x

/-- What holds inside a call. -/
def Placed (d : DigitDesk) : Prop :=
  match d.stage with
  | .idle => True
  | .loaded dropped currentGeneration => d.reported ≤ dropped ∧ dropped ≤ d.drops
      ∧ currentGeneration = d.generation ∧ (dropped = d.reported → d.Led)
  | .draining left (.lost dropped) => left ≤ d.ring.items.length ∧ dropped ≤ d.drops
      ∧ ∀ x ∈ acked dropped d.log, ∀ item ∈ d.ring.items.drop left, x < item.1
  | .draining _ (.retired _) => False
  | .draining left .discard => left ≤ d.ring.items.length

/-- The reported drops are older than what is queued and what was returned since the last loss; the
others are newer than what was returned. -/
structure Sound (d : DigitDesk) : Prop where
  capacity : d.ring.capacity = 256
  counted : d.drops + d.failing.toList.length = (missing d.log).length
  reported : d.reported ≤ d.drops
  fresh_items : ∀ item ∈ d.ring.items, item.1 < d.published
  fresh_drops : ∀ x ∈ missing d.log, x < d.published
  fresh_command : ∀ y ∈ command d.log, y < d.published
  failing : ∀ x, d.failing = some x →
    (missing d.log).head? = some x ∧ ∀ item ∈ d.ring.items, item.1 < x
  items : ∀ x ∈ acked d.reported d.log, ∀ item ∈ d.ring.items, x < item.1
  older : ∀ x ∈ acked d.reported d.log, ∀ y ∈ command d.log, x < y
  newer : ∀ x ∈ unacked d.reported d.log, ∀ y ∈ command d.log, y < x
  unreported : ∀ x ∈ unreported d.log, x ∈ unacked d.reported d.log
  explained : Explained d.log
  placed : d.Placed

variable {log : List DigitEntry}

theorem unacked_dropped {reported n : Nat} (h : reported ≤ (missing log).length) :
    unacked reported (.dropped n :: log) = n :: unacked reported log := by
  change take ((missing log).length + 1 - reported) (n :: missing log) = _
  rw [succ_sub h, take_succ_cons]
  rfl

theorem acked_dropped {reported n : Nat} (h : reported ≤ (missing log).length) :
    acked reported (.dropped n :: log) = acked reported log := by
  change drop ((missing log).length + 1 - reported) (n :: missing log) = _
  rw [succ_sub h, drop_succ_cons]
  rfl

theorem mem_acked_or_unacked (reported : Nat) {x : Nat}
    (h : x ∈ missing log) : x ∈ acked reported log ∨ x ∈ unacked reported log := by
  unfold acked unacked
  rwa [or_comm, ← mem_append, take_append_drop]

variable {d d' : DigitDesk} {move : DigitMove}

theorem Sound.reported_le (h : d.Sound) : d.reported ≤ (missing d.log).length := by
  have hcounted := h.counted
  have hreported := h.reported
  omega

theorem Initial.sound (h : d.Initial) : d.Sound := by
  obtain ⟨generation, rfl⟩ := h
  exact ⟨rfl, rfl, Nat.le_refl 0, nofun, nofun, nofun, nofun, nofun, nofun, nofun, nofun, trivial,
    trivial⟩

/-- The publisher's accesses leave a call where it is. -/
theorem Placed.keep (h : d.Placed) (hstage : d'.stage = d.stage)
    (hreported : d'.reported = d.reported) (hgeneration : d'.generation = d.generation)
    (hdrops : d.drops ≤ d'.drops) (hlength : d.ring.items.length ≤ d'.ring.items.length)
    (hled : d.stage = .loaded d.reported d.generation → d.Led → d'.Led)
    (hnewer : ∀ left dropped, left ≤ d.ring.items.length → dropped ≤ d.drops →
      (∀ x ∈ acked dropped d.log, ∀ item ∈ d.ring.items.drop left, x < item.1) →
      ∀ x ∈ acked dropped d'.log, ∀ item ∈ d'.ring.items.drop left, x < item.1) : d'.Placed := by
  unfold Placed at h ⊢
  rw [hstage, hreported, hgeneration]
  cases hd : d.stage with
  | idle => trivial
  | loaded dropped currentGeneration =>
    rw [hd] at h
    obtain ⟨hlow, hhigh, rfl, hcall⟩ := h
    exact ⟨hlow, Nat.le_trans hhigh hdrops, rfl, fun hsame => hled (hsame ▸ hd) (hcall hsame)⟩
  | draining left drain =>
    rw [hd] at h
    cases drain with
    | lost dropped =>
      obtain ⟨hleft, hdropped, h⟩ := h
      exact ⟨Nat.le_trans hleft hlength, Nat.le_trans hdropped hdrops,
        hnewer left dropped hleft hdropped h⟩
    | retired => exact h
    | discard => exact Nat.le_trans h hlength

section

variable (h : d.Sound)
include h

variable {ring : RingBuffer (Nat × DigitEvent)} {x : Nat × DigitEvent} {event : DigitEvent}

/-- A queued event is newer than every drop. -/
theorem pushed_sound
    (hfree : d.failing = none) (hpush : d.ring.push (d.published, event) = some ring) :
    Sound { d with ring, published := d.published + 1 } := by
  obtain ⟨hitems, hcapacity⟩ := push_items hpush
  have hnew : ∀ item ∈ ring.items, item ∈ d.ring.items ∨ item = (d.published, event) := by
    intro item hitem
    rw [hitems] at hitem
    simpa using hitem
  refine { h with
    capacity := hcapacity.trans h.capacity
    fresh_items := fun item hitem => ?_
    fresh_drops := fun x hx => lt_succ_of_lt (h.fresh_drops x hx)
    fresh_command := fun y hy => lt_succ_of_lt (h.fresh_command y hy)
    failing := fun x hx => ?_
    items := fun x hx item hitem => ?_
    placed := h.placed.keep rfl rfl rfl (Nat.le_refl _) ?_ (fun _ hled => ?_)
      fun left dropped hleft _ hnewer x hx item hitem => ?_ }
  · rcases hnew item hitem with hold | rfl
    · exact lt_succ_of_lt (h.fresh_items item hold)
    · exact lt_succ_self _
  · rw [hfree] at hx
    cases hx
  · rcases hnew item hitem with hold | rfl
    · exact h.items x hx item hold
    · exact h.fresh_drops x (mem_of_mem_drop hx)
  · rw [hitems, length_append]
    exact Nat.le_add_right ..
  · rcases hled with hnone | ⟨front, rest, hfront, hlt⟩ | ⟨hfailing, -⟩
    · exact .inl hnone
    · refine .inr (.inl ⟨front, rest ++ [(d.published, event)], ?_, hlt⟩)
      rw [hitems, hfront]
      rfl
    · rw [hfree] at hfailing
      cases hfailing
  · rw [hitems, drop_append_of_le_length hleft] at hitem
    rcases mem_append.mp hitem with hold | hlast
    · exact hnewer x hx item hold
    · rw [mem_singleton.mp hlast]
      exact h.fresh_drops x (mem_of_mem_drop hx)

/-- A drop is newer than everything; the full ring has an older event to take. -/
theorem dropped_sound (hfree : d.failing = none) (hfull : d.ring.items.length = d.ring.capacity) :
    Sound { d with
      failing := some d.published
      published := d.published + 1
      log := .dropped d.published :: d.log } := by
  have hle := h.reported_le
  have hunacked := unacked_dropped (n := d.published) hle
  have hacked := acked_dropped (n := d.published) hle
  have hcounted := h.counted
  rw [hfree] at hcounted
  refine { h with
    counted := ?_
    fresh_items := fun item hitem => lt_succ_of_lt (h.fresh_items item hitem)
    fresh_drops := fun x hx => ?_
    fresh_command := fun y hy => lt_succ_of_lt (h.fresh_command y hy)
    failing := fun x hx => ?_
    items := hacked ▸ h.items
    older := hacked ▸ h.older
    newer := fun x hx y hy => ?_
    unreported := fun x hx => ?_
    placed :=
      h.placed.keep rfl rfl rfl (Nat.le_refl _) (Nat.le_refl _) (fun _ hled => .inr (.inl ?_))
      fun left dropped _ hdropped hnewer => by rwa [acked_dropped (by omega)] }
  · change d.drops + 1 = (missing d.log).length + 1
    rw [← hcounted]
    rfl
  · rcases mem_cons.mp hx with rfl | hx
    · exact lt_succ_self _
    · exact lt_succ_of_lt (h.fresh_drops x hx)
  · cases hx
    exact ⟨rfl, h.fresh_items⟩
  · rw [hunacked] at hx
    rcases mem_cons.mp hx with rfl | hx
    · exact h.fresh_command y hy
    · exact h.newer x hx y hy
  · rw [hunacked]
    rcases mem_cons.mp hx with rfl | hx
    · exact mem_cons_self
    · exact mem_cons_of_mem _ (h.unreported x hx)
  · obtain ⟨front, rest, hfront⟩ : ∃ front rest, d.ring.items = front :: rest := by
      refine exists_cons_of_length_pos ?_
      rw [hfull, h.capacity]
      decide
    have hfrontlt : front.1 < d.published := h.fresh_items front (by
      rw [hfront]
      exact mem_cons_self)
    refine ⟨front, rest, hfront, fun x hx => ?_⟩
    rw [hunacked] at hx
    rcases mem_cons.mp hx with rfl | hx
    · exact hfrontlt
    rcases hled with hnone | ⟨front', rest', hfront', hlt⟩ | ⟨hfailing, -⟩
    · rw [hnone] at hx
      cases hx
    · rw [hfront] at hfront'
      cases hfront'
      exact hlt x hx
    · rw [hfree] at hfailing
      cases hfailing

theorem publish_sound (hstep : d.publish event = some d') : d'.Sound := by
  unfold publish at hstep
  split at hstep
  · cases hstep
  rename_i hfree
  split at hstep
  · rename_i ring hpush
    cases hstep
    exact pushed_sound h hfree hpush
  rename_i hpush
  cases hstep
  refine dropped_sound h hfree (Nat.le_antisymm d.ring.bounded (Nat.le_of_not_lt fun hlt => ?_))
  obtain ⟨ring, hring⟩ := push_isSome (d.published, event) hlt
  rw [hpush] at hring
  cases hring

/-- The increment makes no difference to what `next` will take, as long as there is something. -/
theorem count_sound (horderly : d.Orderly .count) (hstep : d.count = some d') : d'.Sound := by
  obtain ⟨hbound, htake⟩ := horderly
  obtain ⟨n, hfailing, rfl⟩ := map_eq_some_iff.mp hstep
  have hcounted := h.counted
  rw [hfailing, toList_some, length_singleton] at hcounted
  have hexact : (d.drops + 1) % 2 ^ 64 = d.drops + 1 := mod_eq_of_lt hbound
  rw [hexact]
  refine { h with
    counted := hcounted
    reported := le_succ_of_le h.reported
    failing := nofun
    placed := h.placed.keep rfl rfl rfl (Nat.le_succ _) (Nat.le_refl _) (fun hstage hled => ?_)
      fun _ _ _ _ => id }
  rcases hled with hnone | hfront | ⟨-, hall⟩
  · exact .inl hnone
  · exact .inr (.inl hfront)
  obtain ⟨front, rest, hfront⟩ := exists_cons_of_ne_nil (htake hstage)
  refine .inr (.inl ⟨front, rest, hfront, fun x hx => hall x hx front ?_⟩)
  rw [hfront]
  exact mem_cons_self

/-- At its load, a `next` that will take an event leaves at most the failing one unreported. -/
theorem load_sound {currentGeneration : Nat} (horderly : d.Orderly (.next currentGeneration)) :
    Sound { d with stage := .loaded d.drops currentGeneration } := by
  refine { h with placed := ⟨h.reported, Nat.le_refl _, horderly, fun hsame => ?_⟩ }
  change d.drops = d.reported at hsame
  have hcounted := h.counted
  have hlength : (missing d.log).length - d.reported = d.failing.toList.length := by omega
  cases hfailing : d.failing with
  | none =>
    refine .inl ?_
    change take ((missing d.log).length - d.reported) _ = _
    rw [hlength, hfailing]
    rfl
  | some n =>
    refine .inr (.inr ⟨rfl, fun x hx item hitem => ?_⟩)
    obtain ⟨hhead, hitems⟩ := h.failing n hfailing
    have hmem : x ∈ take 1 (missing d.log) := by
      have hunacked : x ∈ take ((missing d.log).length - d.reported) (missing d.log) := hx
      rwa [hlength, hfailing] at hunacked
    rw [take_one, hhead, toList_some, mem_singleton] at hmem
    rw [hmem]
    exact hitems item hitem

/-- The front of the ring goes. -/
theorem popped_sound
    {stage : DigitStage} (hpop : d.ring.pop = some (x, ring))
    (hplaced : Placed { d with ring, stage }) :
    Sound { d with ring, stage } := by
  obtain ⟨hitems, hcapacity⟩ := pop_items hpop
  have hrest : ∀ item ∈ ring.items, item ∈ d.ring.items := by
    intro item hitem
    rw [hitems]
    exact mem_cons_of_mem x hitem
  exact { h with
    capacity := hcapacity.trans h.capacity
    fresh_items := fun item hitem => h.fresh_items item (hrest item hitem)
    failing := fun n hn =>
      ⟨(h.failing n hn).1, fun item hitem => (h.failing n hn).2 item (hrest item hitem)⟩
    items := fun n hn item hitem => h.items n hn item (hrest item hitem)
    placed := hplaced }

/-- What is taken is older than the unreported drops and newer than the reported ones. -/
theorem returned_sound (hled : d.Led) (hpop : d.ring.pop = some (x, ring)) :
    Sound { d with ring, stage := .idle, log := .returned x.1 x.2 :: d.log } := by
  have hitems := (pop_items hpop).1
  have hfront : x ∈ d.ring.items := by
    rw [hitems]
    exact mem_cons_self
  have holder : ∀ y ∈ unacked d.reported d.log, x.1 < y := by
    intro y hy
    rcases hled with hnone | ⟨front, rest, hitems', hlt⟩ | ⟨-, hall⟩
    · rw [hnone] at hy
      cases hy
    · rw [hitems] at hitems'
      cases hitems'
      exact hlt y hy
    · exact hall y hy x hfront
  refine { popped_sound h hpop (show Placed { d with ring, stage := .idle } from trivial) with
    fresh_command := fun y hy => ?_
    older := fun n hn y hy => ?_
    newer := fun n hn y hy => ?_
    explained := ⟨fun n hn => holder n (h.unreported n hn), h.explained⟩
    placed := trivial }
  · rcases mem_cons.mp hy with rfl | hy
    · exact h.fresh_items x hfront
    · exact h.fresh_command y hy
  · rcases mem_cons.mp hy with rfl | hy
    · exact h.items n hn x hfront
    · exact h.older n hn y hy
  · rcases mem_cons.mp hy with rfl | hy
    · exact holder n hn
    · exact h.newer n hn y hy

theorem afterLoad_sound {dropped currentGeneration : Nat}
    (hstage : d.stage = .loaded dropped currentGeneration) :
    (d.afterLoad dropped currentGeneration).Sound := by
  have hplaced := h.placed
  unfold Placed at hplaced
  rw [hstage] at hplaced
  obtain ⟨hlow, hhigh, hgeneration, hled⟩ := hplaced
  unfold afterLoad
  rw [if_neg fun hne => hne hgeneration.symm]
  by_cases hsame : dropped = d.reported
  · rw [if_neg fun hne => hne hsame]
    cases hpop : d.ring.pop with
    | none => exact { h with placed := trivial }
    | some popped => exact returned_sound h (hled hsame) hpop
  · rw [if_pos hsame]
    refine { h with placed := ⟨Nat.le_refl _, hhigh, fun x hx item hitem => ?_⟩ }
    rw [drop_length] at hitem
    cases hitem

/-- A pop of the observed prefix. -/
theorem drain_sound {left : Nat} {drain : Drain} (hstage : d.stage = .draining (left + 1) drain) :
    Sound { d with
      ring := (d.ring.pop.map Prod.snd).getD d.ring
      stage := .draining left drain } := by
  have hplaced := h.placed
  unfold Placed at hplaced
  rw [hstage] at hplaced
  have hlength : left + 1 ≤ d.ring.items.length := by
    cases drain with
    | lost dropped => exact hplaced.1
    | retired dropped => exact hplaced.elim
    | discard => exact hplaced
  cases hpop : d.ring.pop with
  | none =>
    rw [pop_none hpop] at hlength
    cases hlength
  | some popped =>
    have hitems := (pop_items hpop).1
    rw [hitems, length_cons] at hlength
    refine popped_sound h hpop ?_
    cases drain with
    | lost dropped =>
      obtain ⟨-, hdropped, hnewer⟩ := hplaced
      rw [hitems] at hnewer
      exact ⟨le_of_succ_le_succ hlength, hdropped, hnewer⟩
    | retired dropped => exact hplaced
    | discard => exact le_of_succ_le_succ hlength

/-- A returned loss reports the drops that the call has loaded. -/
theorem drained_sound {drain : Drain} (horderly : d.Orderly .advance)
    (hstage : d.stage = .draining 0 drain) : (d.drained drain).Sound := by
  have hplaced := h.placed
  unfold Placed at hplaced
  rw [hstage] at hplaced
  cases drain with
  | lost dropped =>
    obtain ⟨-, hdropped, hnewer⟩ := hplaced
    exact { h with
      reported := hdropped
      fresh_command := nofun
      items := hnewer
      older := fun _ _ => nofun
      newer := fun _ _ => nofun
      unreported := nofun
      placed := trivial }
  | retired dropped => exact hplaced.elim
  | discard =>
    have hsame : d.drained .discard = { d with stage := .idle } := by
      unfold drained
      rw [horderly hstage]
    rw [hsame]
    exact { h with placed := trivial }

/-- **What every access keeps.** -/
theorem step_sound (horderly : d.Orderly move) (hstep : d.Step move d') : d'.Sound := by
  cases move with
  | publish event => exact publish_sound h hstep
  | count => exact count_sound h horderly hstep
  | next currentGeneration =>
    obtain ⟨-, hnext⟩ := ite_none_right_eq_some.mp hstep
    cases hnext
    exact load_sound h horderly
  | discard =>
    obtain ⟨-, hdiscard⟩ := ite_none_right_eq_some.mp hstep
    cases hdiscard
    exact { h with placed := Nat.le_refl _ }
  | advance =>
    change d.advance = some d' at hstep
    unfold advance at hstep
    split at hstep
    · cases hstep
    · rename_i hstage
      cases hstep
      exact afterLoad_sound h hstage
    · rename_i hstage
      cases hstep
      exact drained_sound h horderly hstage
    · rename_i hstage
      cases hstep
      exact drain_sound h hstage

end

/-- **No gap.** In a run of orderly accesses, no event that was published behind a dropped one is
returned before a loss was, and no partial command spans a dropped event. -/
theorem no_gap (h : Reachable Initial (Guarded Step Orderly) d) : (∀ l₁ l₂ l₃ x y event,
        d.log = l₁ ++ .returned y event :: (l₂ ++ .dropped x :: l₃) → x < y → DigitEntry.lost ∈ l₂)
      ∧ ∀ y₁ ∈ command d.log, ∀ y₂ ∈ command d.log, ∀ x ∈ missing d.log, ¬(y₁ < x ∧ x < y₂) := by
  have hsound : d.Sound := h.invariant (P := Sound) (fun _ => Initial.sound)
    fun _ _ _ hd hstep => step_sound hd hstep.1 hstep.2
  refine ⟨fun l₁ l₂ l₃ x y event hlog hxy => ?_, ?_⟩
  · have hexplained := hsound.explained
    rw [hlog] at hexplained
    exact hexplained.lost_between hxy
  · rintro y₁ hy₁ y₂ hy₂ x hx ⟨hleft, hright⟩
    rcases mem_acked_or_unacked d.reported hx with hacked | hunacked
    · exact Nat.lt_asymm hleft (hsound.older x hacked y₁ hy₁)
    · exact Nat.lt_asymm hright (hsound.newer x hunacked y₂ hy₂)

/-! ## Drops that are not reported -/

instance (d : DigitDesk) : DecidablePred d.Orderly := fun move => by
  cases move <;> unfold Orderly <;> infer_instance

def five : DigitMove := .publish (.digit '5' 0)

/-- The queue behind the first `n` digits. -/
def filled (n : Nat) (h : n ≤ 256) : DigitDesk :=
  { new 1 with
    ring := ⟨256, (range n).map fun k => (k, .digit '5' 0), by simpa using h⟩
    published := n }

theorem filled_run {n : Nat} (h : n ≤ 256) :
    Run (Guarded Step Orderly) (new 1) (replicate n five) (filled n h) := by
  induction n with
  | zero => exact .nil _
  | succ n ih =>
    rw [replicate_succ']
    refine (ih (le_of_succ_le h)).snoc ⟨trivial, ?_⟩
    have hroom : ((range n).map fun k => (k, DigitEvent.digit '5' 0)).length < 256 := by
      rwa [length_map, length_range]
    unfold Step step five publish filled push
    dsimp only [new]
    rw [dif_pos hroom]
    simp [range_succ]

theorem filled_reachable_step : Reachable Initial Step (filled 256 (by decide)) :=
  (Reachable.init ⟨1, rfl⟩).run ((filled_run (by decide)).mono fun _ _ _ h => h.2)

/-- The push of the 257th digit fails. Before it is counted, `next` takes all queued digits and is
called again; then the drop is counted and another digit published. -/
def uncountedDrop : List DigitMove :=
  [five] ++ (replicate 256 [.next 1, .advance]).flatten ++ [.next 1, .count, five, .advance]

/-- The first 256 digits, returned in their order. -/
def firstReturned : List DigitEntry :=
  (range 256).reverse.map fun n => .returned n (.digit '5' 0)

/-- **A digit behind a dropped one is returned without a loss.** The command holds the digits on
both sides of the dropped one. -/
theorem uncounted_drop_spanned : ∃ d, Reachable Initial Step d
      ∧ d.log = .returned 257 (.digit '5' 0) :: (firstReturned ++ [.dropped 256])
      ∧ DigitEntry.lost ∉ firstReturned
      ∧ 255 ∈ command d.log ∧ 256 ∈ missing d.log ∧ 257 ∈ command d.log := by
  have hrun : (uncountedDrop.foldlM step (filled 256 (by decide))).map DigitDesk.log
      = some (.returned 257 (.digit '5' 0) :: (firstReturned ++ [.dropped 256])) := by
    decide +kernel
  obtain ⟨d, hd, hlog⟩ := map_eq_some_iff.mp hrun
  refine ⟨d, filled_reachable_step.run (.foldlM hd), hlog, by decide +kernel, ?_⟩
  rw [hlog]
  decide +kernel

/-- The 257th digit is dropped and counted, a `discard` drops the others, and another digit is
published. -/
def hiddenDrop : List DigitMove :=
  [five, .count, .discard] ++ replicate 257 .advance ++ [five, .next 1, .advance]

/-- A `discard` makes the counter reported: `next` returns no loss. -/
theorem discard_hides_drop : ∃ d, Reachable Initial Step d
      ∧ d.log = [.returned 257 (.digit '5' 0), .dropped 256] := by
  have hrun : (hiddenDrop.foldlM step (filled 256 (by decide))).map DigitDesk.log
      = some [.returned 257 (.digit '5' 0), .dropped 256] := by
    decide +kernel
  obtain ⟨d, hd, hlog⟩ := map_eq_some_iff.mp hrun
  exact ⟨d, filled_reachable_step.run (.foldlM hd), hlog⟩

/-- The 257th digit is dropped and counted; `next` reports the loss, and then returns the digit
published behind it. -/
def reportedDrop : List DigitMove :=
  [five, .count, .next 1] ++ replicate 258 .advance ++ [five, .next 1, .advance]

theorem no_gap_reported : ∃ d, Reachable Initial (Guarded Step Orderly) d
      ∧ d.log = [.returned 257 (.digit '5' 0), .lost, .dropped 256]
      ∧ ∀ l₂ l₃, d.log = .returned 257 (.digit '5' 0) :: (l₂ ++ .dropped 256 :: l₃) →
        DigitEntry.lost ∈ l₂ := by
  have hrun : (reportedDrop.foldlM (fun (d : DigitDesk) move =>
      if d.Orderly move then d.step move else none) (filled 256 (by decide))).map DigitDesk.log
      = some [.returned 257 (.digit '5' 0), .lost, .dropped 256] := by
    decide +kernel
  obtain ⟨d, hd, hlog⟩ := map_eq_some_iff.mp hrun
  have hreach : Reachable Initial (Guarded Step Orderly) d :=
    ((Reachable.init ⟨1, rfl⟩).run (filled_run (by decide))).run (.foldlM_guarded hd)
  exact ⟨d, hreach, hlog, fun l₂ l₃ hsplit =>
    (no_gap hreach).1 [] l₂ l₃ 256 257 _ hsplit (by decide)⟩

end DigitDesk

end RptAdvanced.Runtime
