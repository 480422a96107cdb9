import RptAdvanced.Link.Mixer
import Mathlib.Data.List.MinMax

/-!
# The pool of program blocks (`LinkDispatcher`, `LinkAudio::process`)

Two program blocks travel in a circle. The audio owner pops a free one from the recycle ring, fills
it and pushes it into the publish ring; the dispatcher pops it, visits one destination after the
other, and pushes it back into the recycle ring. Both owners ignore the result of their push.

`Pool` holds the rings and what each owner has in its hand. A call of `dispatch_batch` is cut at its
ring accesses and after each destination (`DispatchStage`), so the two owners interleave at every
access, and a budget may end anywhere inside a block. An `AudioDesk` is a pool with the audio
owner's state and its controller.

`published`, `visits` and `offers` record what happened and decide nothing.

Results:
* `Pool.Sound`, `step_sound`: two blocks, room for every push, and every visit in its order.
* `program_blocks`: what this means for a generation. `empty_block_neither`: an empty block is
  neither published nor counted.
-/

namespace RptAdvanced.Link

open Audio Controller Lib Option LinkAudio
open List hiding maximum

/-! ## The pool -/

/-- Where a running `dispatch_batch` is. -/
inductive DispatchStage
  /-- At the condition of its loop. -/
  | head
  /-- With a block, before its next destination. -/
  | visiting
  /-- After the last destination of a block. -/
  | returning
  /-- Behind the loop. -/
  | closing
  deriving DecidableEq, Repr

/-- A running `dispatch_batch`. -/
structure DispatchCall where
  maximum : Nat
  destinations : Nat
  completedBlocks : Nat
  stage : DispatchStage
  deriving DecidableEq, Repr

/-- Work completed by one fan-out pass. -/
structure DispatchProgress where
  destinations : Nat
  completedBlocks : Nat
  pending : Bool
  deriving DecidableEq, Repr

/-- The dispatcher; `outbound` counts its peer queues and `scratch` is the length of its buffer. -/
structure LinkDispatcher (F : Type) where
  outbound : Nat
  scratch : Nat
  current : Option (ProgramBlock F)
  nextDestination : Nat
  activityEdges : List Nat
  call : Option DispatchCall

/-- A block written to the queue of one destination. -/
structure Offer (F : Type) where
  destination : Nat
  span : AudioSpan
  samples : List F

/-- The rings and the hands of the two owners. -/
structure Pool (F : Type) where
  publish : RingBuffer (ProgramBlock F)
  recycle : RingBuffer (ProgramBlock F)
  /-- The block the audio owner has filled, with what it mixed for it. -/
  hand : Option (Program F × ProgramBlock F)
  dispatcher : LinkDispatcher F
  /-- The result of the last `dispatch_batch`. -/
  progress : Option DispatchProgress
  published : List (Program F × ProgramBlock F)
  visits : List (ProgramBlock F × Nat)
  offers : List (Offer F)
  /-- The destinations reported to `on_written`. -/
  notified : List Nat

/-- What a visit to destination `index` writes to its queue. -/
def ProgramBlock.offer {F : Type} [Pcm F] (scratch : Nat) (b : ProgramBlock F) (index : Nat) :
    Option (Offer F) :=
  let d := b.routing.getD index Destination.silent
  if d.eligible then some ⟨index, d.span, b.scratch scratch index d⟩ else none

namespace Pool

variable {F : Type}

/-- The destinations from `next` on. -/
def remaining (outbound next : Nat) (b : ProgramBlock F) : List (ProgramBlock F × Nat) :=
  (range' next (outbound - next)).map (b, ·)

/-- All destinations of a block. -/
def destinations (outbound : Nat) (b : ProgramBlock F) : List (ProgramBlock F × Nat) :=
  (range outbound).map (b, ·)

theorem remaining_next {outbound next : Nat} (h : next < outbound) (b : ProgramBlock F) :
    remaining outbound next b = (b, next) :: remaining outbound (next + 1) b := by
  have hlength : outbound - next = outbound - (next + 1) + 1 := by omega
  unfold remaining
  rw [hlength, range'_succ, map_cons]

variable [Pcm F]

/-- The rings of a new generation: two free blocks. -/
def new (maximum peers : Nat) : Pool F where
  publish := .new 2
  recycle := ⟨2, [.new maximum peers, .new maximum peers], Nat.le_refl 2⟩
  hand := none
  dispatcher := ⟨peers, maximum, none, 0, replicate peers 0, none⟩
  progress := none
  published := []
  visits := []
  offers := []
  notified := []

/-- Pop a free block and fill it; `none` when there is none. -/
def take (maximum : Nat) (routing : List Destination) (p : Program F) (pool : Pool F) :
    Option (Pool F) :=
  pool.recycle.pop.map fun r =>
    { pool with recycle := r.2, hand := some (p, r.1.fill maximum routing p) }

/-- Publish the filled block. A block that does not fit would be lost. -/
def push (pool : Pool F) : Option (Pool F) :=
  pool.hand.map fun x =>
    match pool.publish.push x.2 with
    | none => { pool with hand := none }
    | some publish =>
      { pool with publish, hand := none, published := pool.published ++ [x] }

/-- Start `dispatch_batch`. -/
def dispatchBatch (maximum : Nat) (pool : Pool F) : Option (Pool F) :=
  match pool.dispatcher.call with
  | some _ => none
  | none => some
    { pool with dispatcher := { pool.dispatcher with call := some ⟨maximum, 0, 0, .head⟩ } }

/-- The condition of the loop, and a new block when there is no current one. -/
def fetch (call : DispatchCall) (pool : Pool F) : Pool F :=
  let d := pool.dispatcher
  if call.destinations < call.maximum then
    match d.current with
    | some _ => { pool with dispatcher := { d with call := some { call with stage := .visiting } } }
    | none =>
      match pool.publish.pop with
      | none =>
        { pool with
          dispatcher := { d with
            nextDestination := 0, call := some { call with stage := .closing } } }
      | some (b, publish) =>
        { pool with
          publish
          dispatcher := { d with
            current := some b, nextDestination := 0
            call := some { call with stage := .visiting } } }
  else { pool with dispatcher := { d with call := some { call with stage := .closing } } }

/-- Visit the next destination of the current block; its queue leaves `rejected` samples. -/
def visit (rejected : Nat) (call : DispatchCall) (b : ProgramBlock F) (pool : Pool F) : Pool F :=
  let d := pool.dispatcher
  let index := d.nextDestination
  let route := b.routing.getD index Destination.silent
  let notify := d.activityEdges.getD index 0 != route.activityEdge ||
    (route.eligible && decide (rejected < b.frames))
  { pool with
    dispatcher := { d with
      activityEdges := d.activityEdges.set index route.activityEdge
      nextDestination := index + 1
      call := some { call with
        destinations := call.destinations + 1
        stage := if index + 1 = d.outbound then .returning else .head } }
    visits := pool.visits ++ [(b, index)]
    offers := pool.offers ++ (b.offer d.scratch index).toList
    notified := if notify then pool.notified ++ [index] else pool.notified }

/-- Give the finished block back. A block that does not fit would be lost. -/
def giveBack (call : DispatchCall) (b : ProgramBlock F) (pool : Pool F) : Pool F :=
  { pool with
    recycle := (pool.recycle.push b).getD pool.recycle
    dispatcher := { pool.dispatcher with
      current := none
      call := some { call with completedBlocks := call.completedBlocks + 1, stage := .head } } }

/-- The end of `dispatch_batch`. -/
def close (call : DispatchCall) (pool : Pool F) : Pool F :=
  { pool with
    dispatcher := { pool.dispatcher with call := none }
    progress := some ⟨call.destinations, call.completedBlocks,
      pool.dispatcher.current.isSome || !pool.publish.items.isEmpty⟩ }

/-- The next part of `dispatch_batch`. -/
def dispatchNext (rejected : Nat) (pool : Pool F) : Option (Pool F) :=
  pool.dispatcher.call.bind fun call =>
    match call.stage with
    | .head => some (pool.fetch call)
    | .visiting => pool.dispatcher.current.map fun b => pool.visit rejected call b
    | .returning => pool.dispatcher.current.map fun b => pool.giveBack call b
    | .closing => some (pool.close call)

/-! ## What the owners keep -/

/-- The visits still to come, in their order. -/
def outstanding (pool : Pool F) : List (ProgramBlock F × Nat) :=
  pool.dispatcher.current.toList.flatMap
      (remaining pool.dispatcher.outbound pool.dispatcher.nextDestination) ++
    pool.publish.items.flatMap (destinations pool.dispatcher.outbound)

/-- How many program blocks there are. -/
def blocks (pool : Pool F) : Nat :=
  pool.publish.items.length + pool.recycle.items.length +
    pool.dispatcher.current.toList.length + pool.hand.toList.length

/-- Where the dispatcher may be. -/
def Placed (d : LinkDispatcher F) : Prop :=
  match d.call.map DispatchCall.stage with
  | some .visiting => d.current.isSome = true ∧ d.nextDestination < d.outbound
  | some .returning => d.current.isSome = true ∧ d.nextDestination = d.outbound
  | _ => d.current.isSome = true → d.nextDestination < d.outbound

/-- What every step keeps. Without peers nothing is ever published. -/
structure Sound (pool : Pool F) : Prop where
  two : pool.blocks = 2
  publish : pool.publish.capacity = 2
  recycle : pool.recycle.capacity = 2
  placed : Placed pool.dispatcher
  peers : pool.dispatcher.outbound = 0 → pool.hand = none ∧ pool.publish.items = []
  order : pool.visits ++ pool.outstanding =
    pool.published.flatMap fun x => destinations pool.dispatcher.outbound x.2
  offers : pool.offers = pool.visits.filterMap fun x => x.1.offer pool.dispatcher.scratch x.2

variable {pool pool' : Pool F} {routing : List Destination}

theorem new_sound (maximum peers : Nat) : (new maximum peers : Pool F).Sound where
  two := rfl
  publish := rfl
  recycle := rfl
  placed := nofun
  peers _ := ⟨rfl, rfl⟩
  order := rfl
  offers := rfl

/-- A filled block finds room in the publish ring. -/
theorem Sound.push_room (h : pool.Sound) {x : Program F × ProgramBlock F}
    (hx : pool.hand = some x) : ∃ publish, pool.publish.push x.2 = some publish := by
  refine RingBuffer.push_isSome _ ?_
  have htwo := h.two
  unfold blocks at htwo
  rw [hx, toList_some, length_singleton] at htwo
  rw [h.publish]
  omega

variable {b : ProgramBlock F} {maximum rejected : Nat} {call : DispatchCall}

/-- A finished block finds room in the recycle ring. -/
theorem Sound.recycle_room (h : pool.Sound)
    (hb : pool.dispatcher.current = some b) : ∃ recycle, pool.recycle.push b = some recycle := by
  refine RingBuffer.push_isSome _ ?_
  have htwo := h.two
  unfold blocks at htwo
  rw [hb, toList_some, length_singleton] at htwo
  rw [h.recycle]
  omega

theorem take_sound {p : Program F} (hpeers : pool.dispatcher.outbound ≠ 0)
    (hhand : pool.hand = none)
    (ht : pool.take maximum routing p = some pool') (h : pool.Sound) : pool'.Sound := by
  obtain ⟨⟨b, recycle⟩, hpop, rfl⟩ := map_eq_some_iff.mp ht
  obtain ⟨hitems, hcapacity⟩ := RingBuffer.pop_items hpop
  refine { h with
    two := ?_
    recycle := hcapacity.trans h.recycle
    peers := fun h0 => absurd h0 hpeers }
  have htwo := h.two
  unfold blocks at htwo ⊢
  rw [hhand, hitems, length_cons, toList_none, length_nil] at htwo
  dsimp only
  rw [toList_some, length_singleton]
  omega

theorem push_sound (hp : pool.push = some pool') (h : pool.Sound) : pool'.Sound := by
  obtain ⟨x, hx, rfl⟩ := map_eq_some_iff.mp hp
  obtain ⟨publish, hpush⟩ := h.push_room hx
  obtain ⟨hitems, hcapacity⟩ := RingBuffer.push_items hpush
  rw [hpush]
  refine { h with
    two := ?_
    publish := hcapacity.trans h.publish
    peers := fun h0 => ?_
    order := ?_ }
  · have htwo := h.two
    unfold blocks at htwo ⊢
    rw [hx, toList_some, length_singleton] at htwo
    dsimp only
    rw [hitems, length_append, length_singleton, toList_none, length_nil]
    omega
  · have hnone := (h.peers h0).1
    rw [hx] at hnone
    cases hnone
  · have horder := h.order
    unfold outstanding at horder ⊢
    rw [hitems, flatMap_append, flatMap_append, ← horder]
    simp only [flatMap_cons, flatMap_nil, append_nil, append_assoc]

theorem dispatchBatch_sound (hd : pool.dispatchBatch maximum = some pool')
    (h : pool.Sound) : pool'.Sound := by
  unfold dispatchBatch at hd
  split at hd
  · cases hd
  rename_i hcall
  cases hd
  refine { h with placed := ?_ }
  have hplaced := h.placed
  unfold Placed at hplaced ⊢
  rwa [hcall] at hplaced

section

variable (hcall : pool.dispatcher.call = some call)
include hcall

theorem fetch_sound (hstage : call.stage = .head) (h : pool.Sound) : (pool.fetch call).Sound := by
  have hhead := h.placed
  unfold Placed at hhead
  rw [hcall, map_some, hstage] at hhead
  unfold fetch
  dsimp only
  split
  · split
    · rename_i b hcurrent
      exact { h with placed := ⟨by simp [hcurrent], hhead (by simp [hcurrent])⟩ }
    rename_i hcurrent
    split
    · refine { h with placed := fun hsome => ?_, order := ?_ }
      · rw [hcurrent] at hsome
        cases hsome
      · have horder := h.order
        unfold outstanding at horder ⊢
        rw [hcurrent] at horder ⊢
        exact horder
    · rename_i b publish hpop
      obtain ⟨hitems, hcapacity⟩ := RingBuffer.pop_items hpop
      have hpeers : pool.dispatcher.outbound ≠ 0 := fun h0 => by
        have hempty := (h.peers h0).2
        rw [hitems] at hempty
        cases hempty
      refine { h with
        two := ?_
        publish := hcapacity.trans h.publish
        placed := ⟨rfl, Nat.pos_of_ne_zero hpeers⟩
        peers := fun h0 => absurd h0 hpeers
        order := ?_ }
      · have htwo := h.two
        unfold blocks at htwo ⊢
        rw [hcurrent, hitems, length_cons, toList_none, length_nil] at htwo
        dsimp only
        rw [toList_some, length_singleton]
        omega
      · have horder := h.order
        unfold outstanding at horder ⊢
        rw [hcurrent, hitems] at horder
        rw [← horder, toList_some, toList_none]
        simp only [flatMap_cons, flatMap_nil, append_nil, nil_append, remaining, destinations,
          Nat.sub_zero, range_eq_range']
  · exact { h with placed := hhead }

theorem visit_sound (hstage : call.stage = .visiting)
    (hcurrent : pool.dispatcher.current = some b) (h : pool.Sound) :
    (pool.visit rejected call b).Sound := by
  have hnext : pool.dispatcher.nextDestination < pool.dispatcher.outbound := by
    have hplaced := h.placed
    unfold Placed at hplaced
    rw [hcall, map_some, hstage] at hplaced
    exact hplaced.2
  refine { h with placed := ?_, order := ?_, offers := ?_ }
  · unfold Placed visit
    dsimp only [map_some]
    by_cases hlast : pool.dispatcher.nextDestination + 1 = pool.dispatcher.outbound
    · rw [if_pos hlast]
      exact ⟨by simp [hcurrent], hlast⟩
    · rw [if_neg hlast]
      omega
  · have horder := h.order
    unfold outstanding at horder ⊢
    unfold visit
    rw [hcurrent] at horder ⊢
    rw [← horder]
    simp only [toList_some, flatMap_cons, flatMap_nil, append_nil,
      remaining_next hnext, append_assoc, cons_append, nil_append]
  · unfold visit
    rw [h.offers, filterMap_append]
    congr 1

theorem giveBack_sound (hstage : call.stage = .returning)
    (hcurrent : pool.dispatcher.current = some b) (h : pool.Sound) :
    (pool.giveBack call b).Sound := by
  have hlast : pool.dispatcher.nextDestination = pool.dispatcher.outbound := by
    have hplaced := h.placed
    unfold Placed at hplaced
    rw [hcall, map_some, hstage] at hplaced
    exact hplaced.2
  obtain ⟨recycle, hpush⟩ := h.recycle_room hcurrent
  obtain ⟨hitems, hcapacity⟩ := RingBuffer.push_items hpush
  unfold giveBack
  rw [hpush]
  refine { h with two := ?_, recycle := hcapacity.trans h.recycle, placed := nofun, order := ?_ }
  · have htwo := h.two
    unfold blocks at htwo ⊢
    rw [hcurrent, toList_some, length_singleton] at htwo
    dsimp only [getD_some]
    rw [hitems, length_append, length_singleton, toList_none, length_nil]
    omega
  · have horder := h.order
    unfold outstanding at horder ⊢
    rw [hcurrent, hlast] at horder
    rw [← horder]
    simp only [toList_some, toList_none, flatMap_cons, flatMap_nil,
      append_nil, nil_append, remaining, Nat.sub_self]
    rfl

theorem close_sound (hstage : call.stage = .closing) (h : pool.Sound) :
    (pool.close call).Sound := by
  refine { h with placed := ?_ }
  have hplaced := h.placed
  unfold Placed at hplaced ⊢
  rwa [hcall, map_some, hstage] at hplaced

end

theorem dispatchNext_sound (hd : pool.dispatchNext rejected = some pool')
    (h : pool.Sound) : pool'.Sound := by
  obtain ⟨call, hcall, hnext⟩ := bind_eq_some_iff.mp hd
  split at hnext
  · rename_i hstage
    cases hnext
    exact fetch_sound hcall hstage h
  · rename_i hstage
    obtain ⟨b, hb, rfl⟩ := map_eq_some_iff.mp hnext
    exact visit_sound hcall hstage hb h
  · rename_i hstage
    obtain ⟨b, hb, rfl⟩ := map_eq_some_iff.mp hnext
    exact giveBack_sound hcall hstage hb h
  · rename_i hstage
    cases hnext
    exact close_sound hcall hstage h

/-- What the dispatcher leaves: the audio owner's block, the publications and the sizes. -/
structure Keeps (pool pool' : Pool F) : Prop where
  hand : pool'.hand = pool.hand
  published : pool'.published = pool.published
  outbound : pool'.dispatcher.outbound = pool.dispatcher.outbound
  scratch : pool'.dispatcher.scratch = pool.dispatcher.scratch

theorem dispatchNext_keeps (hd : pool.dispatchNext rejected = some pool') : Keeps pool pool' := by
  obtain ⟨call, -, hnext⟩ := bind_eq_some_iff.mp hd
  split at hnext
  · cases hnext
    unfold fetch
    dsimp only
    split
    · split
      · exact ⟨rfl, rfl, rfl, rfl⟩
      · split <;> exact ⟨rfl, rfl, rfl, rfl⟩
    · exact ⟨rfl, rfl, rfl, rfl⟩
  · obtain ⟨b, -, rfl⟩ := map_eq_some_iff.mp hnext
    exact ⟨rfl, rfl, rfl, rfl⟩
  · obtain ⟨b, -, rfl⟩ := map_eq_some_iff.mp hnext
    exact ⟨rfl, rfl, rfl, rfl⟩
  · cases hnext
    exact ⟨rfl, rfl, rfl, rfl⟩

omit [Pcm F] in
theorem dispatchBatch_keeps (hd : pool.dispatchBatch maximum = some pool') : Keeps pool pool' := by
  unfold dispatchBatch at hd
  split at hd
  · cases hd
  · cases hd
    exact ⟨rfl, rfl, rfl, rfl⟩

/-- A push moves the block into the record of publications. -/
theorem push_frame (hp : pool.push = some pool') (h : pool.Sound) :
    ∃ x, pool.hand = some x ∧ pool'.hand = none ∧ pool'.published = pool.published ++ [x] ∧
      pool'.dispatcher = pool.dispatcher := by
  obtain ⟨x, hx, rfl⟩ := map_eq_some_iff.mp hp
  obtain ⟨publish, hpush⟩ := h.push_room hx
  rw [hpush]
  exact ⟨x, hx, rfl, rfl, rfl⟩

theorem take_frame {p : Program F} (ht : pool.take maximum routing p = some pool') :
    (∃ b, b ∈ pool.recycle.items ∧ pool'.hand = some (p, b.fill maximum routing p)) ∧
      pool'.published = pool.published ∧ pool'.dispatcher = pool.dispatcher := by
  obtain ⟨⟨b, recycle⟩, hpop, rfl⟩ := map_eq_some_iff.mp ht
  refine ⟨⟨b, ?_, rfl⟩, rfl, rfl⟩
  rw [(RingBuffer.pop_items hpop).1]
  exact mem_cons_self

/-- What destination `index` was offered, and what it will be offered of the blocks in flight. -/
theorem Sound.offered (h : pool.Sound) {index : Nat} (hindex : index < pool.dispatcher.outbound) :
    pool.offers.filter (·.destination = index) ++ (pool.outstanding.filter (·.2 = index)).filterMap
          (fun x => x.1.offer pool.dispatcher.scratch x.2)
      = pool.published.filterMap fun x => x.2.offer pool.dispatcher.scratch index := by
  have hall : ∀ l : List (Program F × ProgramBlock F),
      ((l.flatMap fun x => destinations pool.dispatcher.outbound x.2).filter
          (·.2 = index)).filterMap (fun x => x.1.offer pool.dispatcher.scratch x.2)
        = l.filterMap fun x => x.2.offer pool.dispatcher.scratch index := by
    intro l
    induction l with
    | nil => rfl
    | cons x l ih =>
      have hone : (destinations pool.dispatcher.outbound x.2).filter (·.2 = index)
          = [(x.2, index)] := by
        have hrange : (range pool.dispatcher.outbound).filter (· = index) = [index] := by
          rw [filter_eq, count_eq_one_of_mem nodup_range (mem_range.mpr hindex)]
          rfl
        unfold destinations
        rw [List.filter_map]
        exact congrArg (List.map (x.2, ·)) hrange
      rw [flatMap_cons, filter_append, filterMap_append, ih, hone]
      cases hoffer : x.2.offer pool.dispatcher.scratch index with
      | none => simp [hoffer]
      | some o => simp [hoffer]
  have hoffers : pool.offers.filter (·.destination = index)
      = (pool.visits.filter (·.2 = index)).filterMap
          fun x => x.1.offer pool.dispatcher.scratch x.2 := by
    rw [h.offers, filter_filterMap, filterMap_filter]
    congr 1
    funext x
    unfold ProgramBlock.offer
    dsimp only
    split
    · simp [filter_some]
    · simp
  rw [hoffers, ← filterMap_append, ← filter_append, h.order, hall]

end Pool

/-! ## The generation -/

/-- The link audio of a generation, with its controller and the cells of its groups. -/
structure AudioDesk (S F : Type) where
  audio : LinkAudio F
  controller : NodeController S F
  cells : SelectionId → GroupSelection
  pool : Pool F
  /-- What the last `process` returned and left in its buffer. -/
  answer : Option (Except AdmissionError Bool)
  rf : List F
  /-- What `observe_parrot` was given. -/
  tap : Bool × List F

/-- The moves of the audio owner, the dispatcher and control. -/
inductive AudioMove (S F : Type)
  /-- `process`, up to the fill of its block. -/
  | process (cb : AudioCallback S F)
  /-- Its push. -/
  | publish
  | dispatchBatch (maximum : Nat)
  /-- The next part of `dispatch_batch`; a queue that is written leaves `rejected` samples. -/
  | dispatchNext (rejected : Nat)
  /-- Control, between the callbacks of the controller. -/
  | control (a : Action S F)
  /-- `publish_desired`. -/
  | publishDesired (selection : SelectionId) (slot : Option Nat)

/-- A peer as it is prepared for a generation. Its signals may be older. -/
def AudioPeer.Prepared {F : Type} (peer : AudioPeer F) : Prop :=
  ∃ direct mode sourceRate maximum kerchunkMs fresh edge,
    AudioPeer.new direct mode sourceRate maximum kerchunkMs = .ok fresh ∧
      (peer = { fresh with edge } ∨
        ∃ selection slot, 0 < slot ∧ peer = { fresh with edge }.withGroup selection slot)

namespace AudioDesk

variable {S F : Type} [Pcm F] [PcmStreamReader S F]

/-- A new generation. -/
def start (audio : LinkAudio F) (controller : NodeController S F)
    (cells : SelectionId → GroupSelection) : AudioDesk S F where
  audio
  controller
  cells
  pool := .new audio.maximum audio.peers.length
  answer := none
  rf := []
  tap := (false, [])

/-- The states a generation starts from. -/
def Initial (d : AudioDesk S F) : Prop :=
  ∃ peers maximum audio controller cells, (∀ peer ∈ peers, AudioPeer.Prepared peer) ∧
    new peers maximum = .ok audio ∧ NodeController.Built controller ∧
      d = start audio controller cells

/-- What the callback mixes. -/
def program (cb : AudioCallback S F) (d : AudioDesk S F) : Program F :=
  (d.audio.mixed cb d.cells d.controller).program

/-- Its routes. -/
def routing (cb : AudioCallback S F) (d : AudioDesk S F) : List Destination :=
  routes cb (d.program cb) d.audio.routing

/-- `process` up to the routes. -/
def mix (cb : AudioCallback S F) (d : AudioDesk S F) : AudioDesk S F :=
  let m := d.audio.mixed cb d.cells d.controller
  { d with
    audio := m.audio
    controller := m.controller
    cells := m.cells
    answer := some (.ok m.keyed)
    rf := m.rf
    tap := m.tap }

/-- `process` up to its push. -/
def process (cb : AudioCallback S F) (d : AudioDesk S F) : Option (AudioDesk S F) :=
  if d.pool.hand.isSome then none
  else if d.audio.maximum < cb.audio.length then some { d with answer := some (.error .invalid) }
  else if cb.audio.isEmpty || d.audio.peers.isEmpty then some (d.mix cb)
  else
    let audio := { (d.mix cb).audio with routing := d.routing cb }
    match d.pool.take d.audio.maximum (d.routing cb) (d.program cb) with
    | none => some { d.mix cb with
        audio := { audio with dropped := (audio.dropped + 1) % 2 ^ 64 } }
    | some pool => some { d.mix cb with audio, pool }

def step (d : AudioDesk S F) : AudioMove S F → Option (AudioDesk S F)
  | .process cb => d.process cb
  | .publish => d.pool.push.map fun pool => { d with pool }
  | .dispatchBatch maximum => (d.pool.dispatchBatch maximum).map fun pool => { d with pool }
  | .dispatchNext rejected => (d.pool.dispatchNext rejected).map fun pool => { d with pool }
  | .control a => some { d with controller := d.controller.act a }
  | .publishDesired selection slot => some { d with
      cells := Function.update d.cells selection ((d.cells selection).publishDesired slot) }

def Step (d : AudioDesk S F) (a : AudioMove S F) (d' : AudioDesk S F) : Prop := d.step a = some d'

/-- What a call of `process` does. -/
inductive Processes (d : AudioDesk S F) (cb : AudioCallback S F) : AudioDesk S F → Prop
  | refused (long : d.audio.maximum < cb.audio.length) :
      Processes d cb { d with answer := some (.error .invalid) }
  | silent (fits : cb.audio.length ≤ d.audio.maximum)
      (idle : cb.audio = [] ∨ d.audio.peers = []) : Processes d cb (d.mix cb)
  | dropped (fits : cb.audio.length ≤ d.audio.maximum) (frames : cb.audio ≠ [])
      (peers : d.audio.peers ≠ []) (full : d.pool.recycle.items = []) :
      Processes d cb { d.mix cb with
        audio := { (d.mix cb).audio with
          routing := d.routing cb
          dropped := ((d.mix cb).audio.dropped + 1) % 2 ^ 64 } }
  | filled (fits : cb.audio.length ≤ d.audio.maximum) (frames : cb.audio ≠ [])
      (peers : d.audio.peers ≠ []) {pool : Pool F}
      (take : d.pool.take d.audio.maximum (d.routing cb) (d.program cb) = some pool) :
      Processes d cb { d.mix cb with
        audio := { (d.mix cb).audio with routing := d.routing cb }
        pool }

variable {d d' : AudioDesk S F} {cb : AudioCallback S F}

theorem process_processes (h : d.process cb = some d') :
    d.pool.hand = none ∧ Processes d cb d' := by
  unfold process at h
  split at h
  · cases h
  rename_i hhand
  refine ⟨by simpa using hhand, ?_⟩
  split at h
  · rename_i hlong
    cases h
    exact .refused hlong
  rename_i hfits
  split at h
  · rename_i hidle
    cases h
    exact .silent (Nat.le_of_not_lt hfits) (by simpa using hidle)
  rename_i hbusy
  obtain ⟨hframes, hpeers⟩ : cb.audio ≠ [] ∧ d.audio.peers ≠ [] := by simpa using hbusy
  split at h
  · rename_i hnone
    cases h
    refine .dropped (Nat.le_of_not_lt hfits) hframes hpeers (RingBuffer.pop_none ?_)
    exact map_eq_none_iff.mp hnone
  · rename_i pool hsome
    cases h
    exact .filled (Nat.le_of_not_lt hfits) hframes hpeers hsome

omit [PcmStreamReader S F] in
theorem notePeers_peers (count : Nat) (slots : List Nat) (reads : Nat → PeerReads F)
    (c : NodeController S F) (lastKeyed : Nat) (peers : List (AudioPeer F)) :
    (notePeers count slots reads c lastKeyed peers).peers
      = peers.map (AudioPeer.noted count slots) := by
  have hfold : ∀ n : LinkAudio.Noting S F,
      (peers.foldl (notePeer count slots reads) n).peers
        = n.peers ++ peers.map (AudioPeer.noted count slots) := by
    induction peers with
    | nil => intro n; rw [foldl_nil, map_nil, append_nil]
    | cons peer peers ih =>
      intro n
      rw [foldl_cons, ih, map_cons]
      unfold notePeer
      dsimp only
      rw [append_assoc, singleton_append]
  exact hfold _

theorem mix_peers (cb : AudioCallback S F) (d : AudioDesk S F) :
    (d.mix cb).audio.peers.length = d.audio.peers.length := by
  unfold mix mixed
  dsimp only
  rw [notePeers_peers, length_map, readPeers, length_mapIdx]

/-- The parts of a generation fit together. -/
structure Fitted (d : AudioDesk S F) : Prop where
  outbound : d.pool.dispatcher.outbound = d.audio.peers.length
  scratch : d.pool.dispatcher.scratch = d.audio.maximum
  routing : d.audio.routing.length = d.audio.peers.length
  hand : ∀ x, d.pool.hand = some x → x.2.routing.length = d.audio.peers.length
  published : ∀ x ∈ d.pool.published, x.2.routing.length = d.audio.peers.length

theorem Fitted.mix (h : d.Fitted) (cb : AudioCallback S F) : (d.mix cb).Fitted := by
  have hpeers := (mix_peers cb d).symm
  refine ⟨h.outbound.trans hpeers, h.scratch, h.routing.trans hpeers, ?_, ?_⟩
  · exact fun x hx => (h.hand x hx).trans hpeers
  · exact fun x hx => (h.published x hx).trans hpeers

omit [PcmStreamReader S F] [Pcm F] in
theorem Fitted.keeps (h : d.Fitted) {pool : Pool F} (hk : d.pool.Keeps pool) :
    { d with pool }.Fitted := by
  refine ⟨hk.outbound.trans h.outbound, hk.scratch.trans h.scratch, h.routing, ?_, ?_⟩
  · exact fun x hx => h.hand x (hk.hand ▸ hx)
  · exact fun x hx => h.published x (hk.published ▸ hx)

theorem routing_length (h : d.Fitted) (cb : AudioCallback S F) :
    (d.routing cb).length = d.audio.peers.length := by
  unfold routing routes
  rw [length_mapIdx, length_zip, show (d.program cb).peers.length = _ from mix_peers .., h.routing,
    Nat.min_self]

omit [PcmStreamReader S F] [Pcm F] in
theorem indexGroups_length (peers : List (AudioPeer F)) :
    (indexGroups peers).2.length = peers.length := by
  have hfold : ∀ (l : List (AudioPeer F)) (r : List SelectionId × List (AudioPeer F)),
      (l.foldl indexGroup r).2.length = r.2.length + l.length := by
    intro l
    induction l with
    | nil => intro r; rfl
    | cons peer l ih =>
      intro r
      have hone : (indexGroup r peer).2.length = r.2.length + 1 := by
        unfold indexGroup
        split
        · rw [length_append, length_singleton]
        · split <;> rw [length_append, length_singleton]
      rw [foldl_cons, ih, hone, length_cons]
      omega
  exact (hfold peers _).trans (Nat.zero_add _)

omit [PcmStreamReader S F] in
theorem initial_fitted (h : d.Initial) : d.pool.Sound ∧ d.Fitted := by
  obtain ⟨peers, maximum, audio, controller, cells, -, hnew, -, rfl⟩ := h
  unfold new at hnew
  split at hnew
  · cases hnew
  cases hnew
  refine ⟨Pool.new_sound _ _, rfl, rfl, ?_, nofun, nofun⟩
  change (replicate peers.length Destination.silent).length = _
  rw [length_replicate]
  exact (indexGroups_length peers).symm

theorem processes_fitted (h : Processes d cb d') (hhand : d.pool.hand = none) (hs : d.pool.Sound)
    (hf : d.Fitted) : d'.pool.Sound ∧ d'.Fitted := by
  have hroutes := (routing_length hf cb).trans (mix_peers cb d).symm
  cases h with
  | refused long => exact ⟨hs, { hf with }⟩
  | silent fits idle => exact ⟨hs, hf.mix cb⟩
  | dropped fits frames peers full => exact ⟨hs, { hf.mix cb with routing := hroutes }⟩
  | filled fits frames peers take =>
    have houtbound : d.pool.dispatcher.outbound ≠ 0 := by
      rw [hf.outbound]
      exact fun h0 => peers (length_eq_zero_iff.mp h0)
    obtain ⟨⟨b, -, hb⟩, hpublished, hdispatcher⟩ := Pool.take_frame take
    refine ⟨Pool.take_sound houtbound hhand take hs, ?_, ?_, hroutes, ?_, ?_⟩
    · exact hdispatcher ▸ (hf.mix cb).outbound
    · exact hdispatcher ▸ hf.scratch
    · intro x hx
      cases hb.symm.trans hx
      exact hroutes
    · exact hpublished ▸ (hf.mix cb).published

/-- **What every move keeps.** -/
theorem step_fitted {a : AudioMove S F} (h : Step d a d') (hs : d.pool.Sound) (hf : d.Fitted) :
    d'.pool.Sound ∧ d'.Fitted := by
  cases a with
  | process cb =>
    obtain ⟨hhand, hprocess⟩ := process_processes h
    exact processes_fitted hprocess hhand hs hf
  | publish =>
    obtain ⟨pool, hpush, rfl⟩ := map_eq_some_iff.mp h
    obtain ⟨x, hx, hnone, hpublished, hdispatcher⟩ := Pool.push_frame hpush hs
    refine ⟨Pool.push_sound hpush hs, ?_, ?_, hf.routing, ?_, ?_⟩
    · exact (congrArg _ hdispatcher).trans hf.outbound
    · exact (congrArg _ hdispatcher).trans hf.scratch
    · intro y hy
      cases hnone.symm.trans hy
    · intro y hy
      rw [hpublished] at hy
      rcases mem_append.mp hy with hy | hy
      · exact hf.published y hy
      · rw [mem_singleton.mp hy]
        exact hf.hand x hx
  | dispatchBatch maximum =>
    obtain ⟨pool, hbatch, rfl⟩ := map_eq_some_iff.mp h
    exact ⟨Pool.dispatchBatch_sound hbatch hs, hf.keeps (Pool.dispatchBatch_keeps hbatch)⟩
  | dispatchNext rejected =>
    obtain ⟨pool, hnext, rfl⟩ := map_eq_some_iff.mp h
    exact ⟨Pool.dispatchNext_sound hnext hs, hf.keeps (Pool.dispatchNext_keeps hnext)⟩
  | control a | publishDesired selection slot =>
    cases h
    exact ⟨hs, { hf with }⟩

theorem reachable_fitted (h : Reachable Initial Step d) : d.pool.Sound ∧ d.Fitted :=
  h.invariant (P := fun d => d.pool.Sound ∧ d.Fitted) (fun _ => initial_fitted)
    fun _ _ _ hinv hstep => step_fitted hstep hinv.1 hinv.2

/-- `process` counts a block that finds no free one. -/
def Counted (d d' : AudioDesk S F) : Prop :=
  d'.pool.hand = none ∧ d'.audio.dropped = (d.audio.dropped + 1) % 2 ^ 64

/-- `process` fills a block, which its push will publish. -/
def Filled (d d' : AudioDesk S F) : Prop :=
  d'.pool.hand.isSome = true ∧ d'.audio.dropped = d.audio.dropped

/-- `process` does neither. -/
def Passed (d d' : AudioDesk S F) : Prop :=
  d'.pool.hand = none ∧ d'.audio.dropped = d.audio.dropped

/-- **Two program blocks circulate.** In every state of every interleaving there are exactly two
blocks, and either owner's push finds room. The visits made and the visits to come are, in this
order, all destinations of all published blocks, so the queue of each destination is offered each
block that is routed to it once, with the block's own route. A call of `process` with a nonempty
block that fits, on a generation with peers, fills a block or counts one; any other call does
neither. -/
theorem program_blocks (h : Reachable Initial Step d) : d.pool.blocks = 2
      ∧ (∀ x, d.pool.hand = some x → ∃ publish, d.pool.publish.push x.2 = some publish)
      ∧ (∀ b, d.pool.dispatcher.current = some b → ∃ recycle, d.pool.recycle.push b = some recycle)
      ∧ (∀ x ∈ d.pool.published, x.2.routing.length = d.audio.peers.length)
      ∧ d.pool.visits ++ d.pool.outstanding
          = d.pool.published.flatMap (fun x => Pool.destinations d.audio.peers.length x.2)
      ∧ (∀ index < d.audio.peers.length, d.pool.offers.filter (·.destination = index) ++
              (d.pool.outstanding.filter (·.2 = index)).filterMap
                (fun x => x.1.offer d.audio.maximum x.2)
            = d.pool.published.filterMap fun x => x.2.offer d.audio.maximum index)
      ∧ ∀ cb d', Step d (.process cb) d' →
          if cb.audio ≠ [] ∧ cb.audio.length ≤ d.audio.maximum ∧ d.audio.peers ≠ [] then
            Filled d d' ∨ Counted d d'
          else Passed d d' := by
  obtain ⟨hs, hf⟩ := reachable_fitted h
  refine ⟨hs.two, fun x hx => hs.push_room hx, fun b hb => hs.recycle_room hb, hf.published,
    ?_, ?_, ?_⟩
  · rw [← hf.outbound]
    exact hs.order
  · intro index hindex
    rw [← hf.outbound] at hindex
    rw [← hf.scratch]
    exact hs.offered hindex
  · intro cb d' hstep
    obtain ⟨hhand, hprocess⟩ := process_processes hstep
    cases hprocess with
    | refused long =>
      rw [if_neg (by rintro ⟨-, hfits, -⟩; omega)]
      exact ⟨hhand, rfl⟩
    | silent fits idle =>
      rw [if_neg (by rintro ⟨hframes, -, hpeers⟩; exact idle.elim hframes hpeers)]
      exact ⟨hhand, rfl⟩
    | dropped fits frames peers full =>
      rw [if_pos ⟨frames, fits, peers⟩]
      exact .inr ⟨hhand, rfl⟩
    | filled fits frames peers take =>
      rw [if_pos ⟨frames, fits, peers⟩]
      obtain ⟨⟨b, -, hb⟩, -, -⟩ := Pool.take_frame take
      refine .inl ⟨?_, rfl⟩
      rw [hb]
      rfl

/-! ## A generation with two peers -/

end AudioDesk

/-- A prepared peer for blocks of at most four frames. -/
def plainPeer (direct : String) (mode : Mode) : AudioPeer ℚ where
  direct
  mode
  receive := ⟨8000, 0, 0, false, false⟩
  room := 4
  audio := []
  active := false
  duration := 0
  kerchunkSamples := 0
  group := none
  groupIndex := none
  reportedActive := false
  edge := 0

theorem plainPeer_prepared {direct : String} (h : decimalIdentity direct = true) (mode : Mode) :
    (plainPeer direct mode).Prepared := by
  refine ⟨direct, mode, 8000, 4, 0, plainPeer direct mode, 0, ?_, .inl rfl⟩
  unfold AudioPeer.new
  rw [h]
  rfl

/-- A finite source that plays at a constant level. -/
def steadyReads (target : Nat) (level : ℚ) : PeerReads ℚ where
  pcmEpoch := 0
  available := 0
  ended := false
  finitePlayout := some true
  real := some 1
  pcm := fun _ => level
  finiteLater := some true
  radioKeyed := false
  selectedSource := none
  endedLater := false
  replyIdentity := target
  telemetryAllowed := true

namespace AudioDesk

/-- Full duplex, with a watchdog of one millisecond. -/
def plainSettings : ControllerSettings := ⟨true, 0, false, 0, 1, 0, 0, 0⟩

/-- Nothing is inhibited or cancelled. -/
def plainWorld : World :=
  ⟨false, false, fun _ => .pending, fun _ => false, fun _ => ⟨false, false⟩⟩

/-- A controller without media. -/
def plainNode (S : Type) : NodeController S ℚ :=
  .initial plainSettings [] [] ⟨none, none, []⟩ 1 plainWorld

theorem plainNode_built (S : Type) : (plainNode S).Built := by
  have hnew : NodeController.new plainSettings [] [] ⟨none, none, []⟩ true (1 : ℚ) plainWorld
      = some (plainNode S) := if_pos rfl
  exact .new hnew

/-- The generation of the peers, for blocks of at most four frames. -/
def plainDesk (S : Type) (peers : List (AudioPeer ℚ)) : AudioDesk S ℚ :=
  start
    { maximum := 4
      peers := (indexGroups peers).2
      groups := (indexGroups peers).1
      routing := replicate peers.length Destination.silent
      lastKeyed := 0
      dropped := 0
      peerSourceActive := false }
    (plainNode S) fun _ => {}

theorem plainDesk_initial (S : Type) {peers : List (AudioPeer ℚ)}
    (hp : ∀ peer ∈ peers, peer.Prepared) (hroom : ∀ peer ∈ peers, 4 ≤ peer.room)
    (hfew : peers.length < 100) : (plainDesk S peers).Initial := by
  refine ⟨peers, 4, _, plainNode S, _, hp, ?_, plainNode_built S, rfl⟩
  unfold new
  rw [if_neg]
  simp only [Bool.or_eq_true, decide_eq_true_eq, List.any_eq_true, not_or]
  refine ⟨⟨by decide, ?_⟩, by omega⟩
  rintro ⟨peer, hpeer, hshort⟩
  have := hroom peer hpeer
  omega

/-- A block of one frame with the local receiver closed, and two peers that talk. -/
def talkingBlock (S : Type) (audio : List ℚ) : AudioCallback S ℚ where
  receiving := false
  audio
  source := ⟨1, 0, 1, none⟩
  reads := fun index => steadyReads (index + 1) (1 / 4)
  control := fun _ => []
  parrotDisabled := false
  regeneration := fun _ => none
  text := none

def twoPeers : List (AudioPeer ℚ) := [plainPeer "2000" .transceive, plainPeer "2001" .transceive]

theorem twoPeers_initial (S : Type) : (plainDesk S twoPeers).Initial := by
  refine plainDesk_initial S ?_ ?_ (by decide)
  · intro peer hpeer
    rcases mem_cons.mp hpeer with rfl | hpeer
    · exact plainPeer_prepared (by decide) _
    · cases mem_singleton.mp hpeer
      exact plainPeer_prepared (by decide) _
  · intro peer hpeer
    rcases mem_cons.mp hpeer with rfl | hpeer
    · exact Nat.le_refl 4
    · cases mem_singleton.mp hpeer
      exact Nat.le_refl 4

/-- **An empty block is neither published nor counted**, although there are peers. -/
theorem empty_block_neither :
    ∃ (d d' : AudioDesk (TestPcmStream ℚ) ℚ) (cb : AudioCallback (TestPcmStream ℚ) ℚ),
      Reachable Initial Step d ∧ d.audio.peers.length = 2 ∧ Step d (.process cb) d'
        ∧ ¬ Filled d d' ∧ ¬ Counted d d' := by
  refine ⟨plainDesk _ twoPeers, (plainDesk _ twoPeers).mix (talkingBlock _ []),
    talkingBlock _ [], .init (twoPeers_initial _), rfl, rfl, ?_, ?_⟩
  · rintro ⟨hhand, -⟩
    cases hhand
  · rintro ⟨-, hcount⟩
    change 0 = (0 + 1) % 2 ^ 64 at hcount
    omega

/-- A block is published and its first destination visited; a second block is in the audio owner's
hand. -/
def twoBlockMoves : List (AudioMove (TestPcmStream ℚ) ℚ) :=
  [.process (talkingBlock _ [0]), .publish, .dispatchBatch 1, .dispatchNext 0, .dispatchNext 0,
    .process (talkingBlock _ [0, 0])]

theorem program_blocks_halfway : ∃ d : AudioDesk (TestPcmStream ℚ) ℚ, Reachable Initial Step d
      ∧ d.pool.visits.length = 1 ∧ d.pool.hand.isSome = true ∧ d.pool.blocks = 2
      ∧ d.pool.visits ++ d.pool.outstanding
          = d.pool.published.flatMap (fun x => Pool.destinations d.audio.peers.length x.2) := by
  obtain ⟨d, hreach, hvisits, hhand⟩ := exists_reachable Initial step twoBlockMoves
    (some (plainDesk (TestPcmStream ℚ) twoPeers)) (by rintro _ ⟨⟩; exact twoPeers_initial _)
    (fun d => d.pool.visits.length = 1 ∧ d.pool.hand.isSome = true) (by decide +kernel)
  obtain ⟨htwo, -, -, -, horder, -, -⟩ := program_blocks hreach
  exact ⟨d, hreach, hvisits, hhand, htwo, horder⟩

end AudioDesk

end RptAdvanced.Link
