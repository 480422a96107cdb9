import RptAdvanced.Lib.GateWord
import RptAdvanced.Lib.Run
import Mathlib.Tactic.SplitIfs
import Mathlib.Data.List.Range

/-!
# The standalone control executor (`rust/control-standalone-adapter/src/lib.rs`)

Submitters reserve a place, push their task and unpark the worker; the worker runs what it pops, one
task after the other, and parks on an empty queue. `stop_and_drain` closes admission, waits until
nothing is pending and joins the worker. `step` makes one atomic access of one of them.

A caller keeps nothing but its place in the code, so that of the submitters and drainers at a place
only the number is kept. A call of `stop_and_drain` from a task of this executor returns before it
touches anything; `Drop` is left out. Tasks are numbered as they enter the queue; `ran` and
`released` record, in order, the calls that returned.

Results:
* `step_inv`: every access keeps the invariant.
* `executor_drains`: the order of tasks, the bound, draining, joining and waking.
-/

namespace RptAdvanced.Control

open Lib List

/-- `STOPPED`: the flag of the state word. The bits below, `PENDING`, count. -/
def STOPPED : Nat := 2 ^ 63

/-- `state & STOPPED != 0`. -/
abbrev isStopped (word : Nat) : Bool := GateWord.raised STOPPED word

/-- `state & PENDING`. -/
abbrev pending (word : Nat) : Nat := GateWord.count STOPPED word

/-- `fetch_sub(1)`. -/
abbrev fetchSub (word : Nat) : Nat := GateWord.leave STOPPED word

/-- `fetch_or(STOPPED)`. -/
abbrev fetchStop (word : Nat) : Nat := GateWord.raise STOPPED word

inductive Worker
  | popping
  | running (task : Nat)
  | releasing (task : Nat)
  | settling
  | checking
  | parking
  | exited
  deriving DecidableEq, Repr

namespace Worker

def hand : Worker → List Nat
  | running task | releasing task => [task]
  | _ => []

/-- The task that has run. -/
def done : Worker → List Nat
  | releasing task => [task]
  | _ => []

/-- Its part of the pending count. -/
def busy : Worker → Nat
  | running _ | releasing _ | settling => 1
  | _ => 0

end Worker

/-- The callers of `stop_and_drain`, by their next access. -/
structure Drainers where
  unpark : Nat
  poll : Nat
  /-- The first load of `joined`. -/
  joined : Nat
  /-- The exchange of `joining`. -/
  joining : Nat
  /-- The swap of the handle. -/
  swap : Nat
  /-- The join, with the handle. -/
  join : Nat
  /-- The store of `joined`. -/
  store : Nat
  /-- The loop on `joined`. -/
  wait : Nat
  deriving DecidableEq, Repr

/-- Those that have found nothing pending. -/
def Drainers.past (d : Drainers) : Nat := d.joined + d.joining + d.swap + d.join + d.store + d.wait

structure Executor where
  capacity : Nat
  state : Nat
  queue : List Nat
  /-- The worker's unpark token. -/
  token : Bool
  worker : Worker
  /-- Submitters that push next. -/
  reserved : Nat
  /-- Submitters that unpark next. -/
  waking : Nat
  drainers : Drainers
  handle : Bool
  joining : Bool
  joined : Bool
  accepted : Nat
  ran : List Nat
  released : List Nat
  /-- A push failed, or a missing handle was used. -/
  fault : Bool
  joins : Nat
  /-- A drain has returned. -/
  drained : Bool
  deriving DecidableEq, Repr

inductive Move
  | reserve | push | unpark
  | worker
  /-- `park` returns without a token. -/
  | spurious
  | stop | drainUnpark | poll | loadJoined | claim | swap | join | storeJoined | wait
  deriving DecidableEq, Repr

namespace Executor

/-- `open`. -/
def new (capacity : Nat) : Executor where
  capacity
  state := 0
  queue := []
  token := false
  worker := .popping
  reserved := 0
  waking := 0
  drainers := ⟨0, 0, 0, 0, 0, 0, 0, 0⟩
  handle := true
  joining := false
  joined := false
  accepted := 0
  ran := []
  released := []
  fault := false
  joins := 0
  drained := false

def work (s : Executor) : Option Executor :=
  match s.worker with
  | .popping =>
    match s.queue with
    | [] => some { s with worker := .checking }
    | task :: queue => some { s with queue, worker := .running task }
  | .running task => some { s with ran := s.ran ++ [task], worker := .releasing task }
  | .releasing task => some { s with released := s.released ++ [task], worker := .settling }
  | .settling => some { s with state := fetchSub s.state, worker := .popping }
  | .checking =>
    some { s with worker :=
      if isStopped s.state && pending s.state == 0 then .exited else .parking }
  | .parking => if s.token then some { s with token := false, worker := .popping } else none
  | .exited => none

/-- One access; `none` where nobody makes it. -/
def step (s : Executor) : Move → Option Executor
  | .reserve =>
    if isStopped s.state || decide (s.capacity ≤ pending s.state) then some s
    else some { s with state := s.state + 1, reserved := s.reserved + 1 }
  | .push =>
    if s.reserved = 0 then none
    else if s.queue.length < s.capacity then
      some { s with
        reserved := s.reserved - 1, waking := s.waking + 1, queue := s.queue ++ [s.accepted]
        accepted := s.accepted + 1 }
    else some { s with reserved := s.reserved - 1, state := fetchSub s.state, fault := true }
  | .unpark => if s.waking = 0 then none else some { s with waking := s.waking - 1, token := true }
  | .worker => s.work
  | .spurious => if s.worker = .parking then some { s with worker := .popping } else none
  | .stop =>
    some { s with
      state := fetchStop s.state, drainers := { s.drainers with unpark := s.drainers.unpark + 1 } }
  | .drainUnpark =>
    if s.drainers.unpark = 0 then none
    else some { s with
      token := true
      drainers := { s.drainers with
        unpark := s.drainers.unpark - 1, poll := s.drainers.poll + 1 } }
  | .poll =>
    if s.drainers.poll = 0 then none
    else if pending s.state = 0 then
      some { s with drainers := { s.drainers with
        poll := s.drainers.poll - 1, joined := s.drainers.joined + 1 } }
    else some s
  | .loadJoined =>
    if s.drainers.joined = 0 then none
    else if s.joined then
      some { s with
        drained := true, drainers := { s.drainers with joined := s.drainers.joined - 1 } }
    else some { s with drainers := { s.drainers with
      joined := s.drainers.joined - 1, joining := s.drainers.joining + 1 } }
  | .claim =>
    if s.drainers.joining = 0 then none
    else if s.joining then
      some { s with drainers := { s.drainers with
        joining := s.drainers.joining - 1, wait := s.drainers.wait + 1 } }
    else some { s with
      joining := true
      drainers := { s.drainers with
        joining := s.drainers.joining - 1, swap := s.drainers.swap + 1 } }
  | .swap =>
    if s.drainers.swap = 0 then none
    else some { s with
      handle := false, fault := s.fault || !s.handle
      drainers := { s.drainers with swap := s.drainers.swap - 1, join := s.drainers.join + 1 } }
  | .join =>
    if s.drainers.join = 0 ∨ s.worker ≠ .exited then none
    else some { s with
      joins := s.joins + 1
      drainers := { s.drainers with join := s.drainers.join - 1, store := s.drainers.store + 1 } }
  | .storeJoined =>
    if s.drainers.store = 0 then none
    else some { s with
      joined := true, drained := true
      drainers := { s.drainers with store := s.drainers.store - 1 } }
  | .wait =>
    if s.drainers.wait = 0 then none
    else if s.joined then
      some { s with drained := true, drainers := { s.drainers with wait := s.drainers.wait - 1 } }
    else some s

/-- An executor as it is opened: `valid_capacity` bounds the queue. -/
def Initial (s : Executor) : Prop := ∃ capacity, 0 < capacity ∧ capacity ≤ 65536 ∧ s = new capacity

def Step (s : Executor) (move : Move) (t : Executor) : Prop := s.step move = some t

/-! ## The state word -/

variable {word : Nat}

theorem fetchSub_spec (hword : word < 2 * STOPPED) (h : 0 < pending word) :
    pending (fetchSub word) = pending word - 1 ∧
      (isStopped word = true → isStopped (fetchSub word) = true) ∧ fetchSub word < 2 * STOPPED :=
  GateWord.leave_spec hword h

theorem fetchStop_spec (hword : word < 2 * STOPPED) :
    pending (fetchStop word) = pending word ∧ isStopped (fetchStop word) = true ∧
      fetchStop word < 2 * STOPPED :=
  GateWord.raise_spec hword

/-- A place is reserved below the flag. -/
theorem reserve_spec {capacity : Nat} (hword : word < 2 * STOPPED)
    (hroom : pending word < capacity) (hcapacity : capacity ≤ 65536) :
    pending (word + 1) = pending word + 1 ∧ word + 1 < 2 * STOPPED := by
  have hfits : pending word + 1 < STOPPED :=
    Nat.lt_of_le_of_lt (Nat.succ_le_of_lt (Nat.lt_of_lt_of_le hroom hcapacity)) (by decide)
  have hspec := GateWord.enter_spec hword hfits
  rw [GateWord.enter_eq hword hfits] at hspec
  exact ⟨hspec.1, hspec.2.2⟩

/-! ## The invariant -/

/-- What holds between two accesses. -/
structure Inv (s : Executor) : Prop where
  capacity : s.capacity ≤ 65536
  word : s.state < 2 * STOPPED
  count : pending s.state = s.reserved + s.queue.length + s.worker.busy
  room : pending s.state ≤ s.capacity
  order : List.range s.accepted = s.released ++ s.worker.hand ++ s.queue
  ran : s.ran = s.released ++ s.worker.done
  fault : s.fault = false
  /-- Behind an empty pop, a queued task has its wake-up. -/
  wake : s.worker = .checking ∨ s.worker = .parking → s.queue ≠ [] → s.token = true ∨ 0 < s.waking
  stopped : 0 < s.drainers.unpark + s.drainers.poll + s.drainers.past ∨ s.joined = true ∨
    s.drained = true ∨ s.worker = .exited → isStopped s.state = true
  empty : 0 < s.drainers.past ∨ s.joined = true ∨ s.drained = true ∨ s.worker = .exited →
    pending s.state = 0
  /-- One drainer has claimed the join, and it still has the handle to take. -/
  claims : s.drainers.swap + s.drainers.join + s.drainers.store + (if s.joined then 1 else 0) =
    if s.joining then 1 else 0
  handle : s.handle = true ↔ s.joining = false ∨ 0 < s.drainers.swap
  joins : s.joins = s.drainers.store + if s.joined then 1 else 0
  exited : 0 < s.joins → s.worker = .exited
  drained : s.drained = true → s.joined = true

theorem initial_inv {s : Executor} (h : s.Initial) : s.Inv := by
  obtain ⟨capacity, -, hcapacity, rfl⟩ := h
  constructor <;> simp [new, GateWord.count, STOPPED, Worker.busy, Worker.hand, Worker.done,
    Drainers.past, hcapacity]

variable {s t : Executor}

/-- The worker's part of an access: it leaves the callers alone. -/
theorem Inv.worked (h : s.Inv) (hlive : s.worker ≠ .exited) {state : Nat}
    {queue ran released : List Nat} {token : Bool} {worker : Worker} (hword : state < 2 * STOPPED)
    (hle : pending state ≤ pending s.state)
    (hflag : isStopped s.state = true → isStopped state = true)
    (hcount : pending state = s.reserved + queue.length + worker.busy)
    (horder : range s.accepted = released ++ worker.hand ++ queue)
    (hran : ran = released ++ worker.done)
    (hwake : worker = .checking ∨ worker = .parking → queue ≠ [] → token = true ∨ 0 < s.waking)
    (hexit : worker = .exited → isStopped state = true ∧ pending state = 0) :
    Inv { s with state, queue, token, worker, ran, released } where
  capacity := h.capacity
  word := hword
  count := hcount
  room := hle.trans h.room
  order := horder
  ran := hran
  fault := h.fault
  wake := hwake
  stopped := by
    rintro (hd | hj | hd | hw)
    · exact hflag (h.stopped (.inl hd))
    · exact hflag (h.stopped (.inr (.inl hj)))
    · exact hflag (h.stopped (.inr (.inr (.inl hd))))
    · exact (hexit hw).1
  empty := by
    rintro (hd | hj | hd | hw)
    · exact Nat.eq_zero_of_le_zero (hle.trans (h.empty (.inl hd)).le)
    · exact Nat.eq_zero_of_le_zero (hle.trans (h.empty (.inr (.inl hj))).le)
    · exact Nat.eq_zero_of_le_zero (hle.trans (h.empty (.inr (.inr (.inl hd)))).le)
    · exact (hexit hw).2
  claims := h.claims
  handle := h.handle
  joins := h.joins
  exited := fun hj => (hlive (h.exited hj)).elim
  drained := h.drained

theorem work_inv (h : s.Inv) (hstep : s.work = some t) : t.Inv := by
  have hcount := h.count
  have hran := h.ran
  have horderly := h.order
  unfold work at hstep
  have hlive : s.worker ≠ .exited := fun he => by rw [he] at hstep; cases hstep
  cases hworker : s.worker <;> rw [hworker] at hstep hcount hran horderly
  case popping =>
    cases hqueue : s.queue with
    | nil =>
      rw [hqueue] at hstep hcount horderly
      cases hstep
      exact h.worked hlive h.word le_rfl id hcount horderly hran (fun _ hne => (hne rfl).elim) nofun
    | cons task queue =>
      rw [hqueue] at hstep hcount horderly
      cases hstep
      refine h.worked hlive h.word le_rfl id ?_ ?_ hran (by simp) nofun
      · simpa [Worker.busy, Nat.add_assoc] using hcount
      · simpa [Worker.hand] using horderly
  case running task =>
    cases hstep
    refine h.worked hlive h.word le_rfl id hcount horderly ?_ (by simp) nofun
    rw [hran]
    simp [Worker.done]
  case releasing task =>
    cases hstep
    refine h.worked hlive h.word le_rfl id hcount ?_ ?_ (by simp) nofun
    · simpa [Worker.hand] using horderly
    · simpa [Worker.done] using hran
  case settling =>
    cases hstep
    have hpos : 0 < pending s.state := by
      rw [hcount]
      exact Nat.succ_pos _
    obtain ⟨hpending, hflag, hword⟩ := fetchSub_spec h.word hpos
    refine h.worked hlive hword (by omega) hflag ?_ horderly hran (by simp) nofun
    simp only [Worker.busy] at hcount ⊢
    omega
  case checking =>
    cases hstep
    by_cases hend : (isStopped s.state && pending s.state == 0) = true
    · rw [if_pos hend]
      exact h.worked hlive h.word le_rfl id hcount horderly hran
        (by simp) fun _ => by simpa using hend
    · rw [if_neg hend]
      exact h.worked hlive h.word le_rfl id hcount horderly hran
        (fun _ => h.wake (.inl hworker)) nofun
  case parking =>
    obtain ⟨-, hstep⟩ := Option.ite_none_right_eq_some.mp hstep
    cases hstep
    exact h.worked hlive h.word le_rfl id hcount horderly hran (by simp) nofun
  case exited => cases hstep

/-- **Every access keeps the invariant.** -/
theorem step_inv (h : s.Inv) {move : Move} (hstep : s.step move = some t) : t.Inv := by
  have hclaims := h.claims
  have hjoins := h.joins
  -- what a drainer knows of the word once it has stopped the executor, and once nothing is pending
  have hstopped : ∀ {P : Prop}, 0 < s.drainers.unpark + s.drainers.poll + s.drainers.past → P →
      isStopped s.state = true := fun hd _ => h.stopped (.inl hd)
  have hempty : ∀ {P : Prop}, 0 < s.drainers.past → P → pending s.state = 0 :=
    fun hd _ => h.empty (.inl hd)
  simp only [Drainers.past] at hstopped hempty
  cases move <;> simp only [step] at hstep
  case worker => exact work_inv h hstep
  case reserve =>
    split_ifs at hstep with hfull
    · exact Option.some.inj hstep ▸ h
    cases hstep
    simp only [Bool.or_eq_true, decide_eq_true_eq, not_or, Nat.not_le] at hfull
    obtain ⟨hpending, hword⟩ := reserve_spec h.word hfull.2 h.capacity
    have hcount := h.count
    exact { h with
      word := hword
      count := by dsimp only; omega
      room := by dsimp only; omega
      stopped := fun hs => (hfull.1 (h.stopped hs)).elim
      empty := fun hs => (hfull.1 (h.stopped (hs.imp_left (Nat.lt_add_left _)))).elim }
  case push =>
    have hcount := h.count
    have hroom := h.room
    split_ifs at hstep with hnone hlt
    · cases hstep
      exact { h with
        count := by simp only [length_append, length_singleton]; omega
        order := by rw [range_succ, h.order, append_assoc]
        wake := fun _ _ => .inr (Nat.succ_pos _) }
    · omega
  case unpark =>
    split_ifs at hstep
    cases hstep
    exact { h with wake := fun _ _ => .inl rfl }
  case spurious =>
    split_ifs at hstep with hworker
    cases hstep
    have hcount := h.count
    have horderly := h.order
    have hran := h.ran
    rw [hworker] at hcount horderly hran
    exact h.worked (by simp [hworker]) h.word le_rfl id hcount horderly hran (by simp) nofun
  case stop =>
    cases hstep
    obtain ⟨hpending, hflag, hword⟩ := fetchStop_spec h.word
    exact { h with
      word := hword
      count := hpending.trans h.count
      room := hpending.le.trans h.room
      stopped := fun _ => hflag
      empty := fun hs => hpending.trans (h.empty hs) }
  case drainUnpark =>
    split_ifs at hstep
    cases hstep
    exact { h with
      wake := fun _ _ => .inl rfl
      stopped := hstopped (by omega) }
  case poll =>
    split_ifs at hstep with _ hzero
    · cases hstep
      exact { h with
        stopped := hstopped (by omega)
        empty := fun _ => hzero }
    · exact Option.some.inj hstep ▸ h
  case loadJoined =>
    split_ifs at hstep with _ hjoined <;> cases hstep
    · exact { h with
        stopped := hstopped (by omega), empty := hempty (by omega)
        drained := fun _ => hjoined }
    · exact { h with
        stopped := hstopped (by omega), empty := hempty (by omega) }
  case claim =>
    split_ifs at hstep with _ hjoining <;> cases hstep
    · exact { h with
        stopped := hstopped (by omega), empty := hempty (by omega) }
    · rw [if_neg hjoining] at hclaims
      exact { h with
        stopped := hstopped (by omega), empty := hempty (by omega)
        claims := by dsimp only; rw [if_pos rfl]; omega
        handle := by simpa using h.handle.mpr (.inl ((Bool.not_eq_true _).mp hjoining)) }
  case swap =>
    split_ifs at hstep with hnone
    cases hstep
    have hhandle : s.handle = true := h.handle.mpr (.inr (Nat.pos_of_ne_zero hnone))
    have hjoining : s.joining = true := by
      by_contra hnot
      rw [if_neg hnot] at hclaims
      omega
    rw [if_pos hjoining] at hclaims
    exact { h with
      fault := by simp [h.fault, hhandle]
      stopped := hstopped (by omega), empty := hempty (by omega)
      claims := by dsimp only; rw [if_pos hjoining]; omega
      handle := by simp [hjoining]; omega }
  case join =>
    split_ifs at hstep with hnone
    cases hstep
    rw [not_or, not_not] at hnone
    exact { h with
      stopped := hstopped (by omega), empty := hempty (by omega)
      claims := by dsimp only; omega
      joins := by dsimp only; omega
      exited := fun _ => hnone.2 }
  case storeJoined =>
    split_ifs at hstep with hnone
    cases hstep
    have hle : (if s.joining then 1 else 0) ≤ 1 := by split_ifs <;> omega
    exact { h with
      stopped := hstopped (by omega), empty := hempty (by omega)
      claims := by dsimp only; rw [if_pos rfl]; omega
      joins := by dsimp only; rw [if_pos rfl]; omega
      drained := fun _ => rfl }
  case wait =>
    split_ifs at hstep with _ hjoined
    · cases hstep
      exact { h with
        stopped := hstopped (by omega), empty := hempty (by omega)
        drained := fun _ => hjoined }
    · exact Option.some.inj hstep ▸ h

theorem reachable_inv (h : Reachable Initial Step s) : s.Inv :=
  Reachable.invariant (P := Inv) (fun _ => initial_inv) (fun _ _ _ hs hstep => step_inv hs hstep) h

theorem work_accepted (hstep : s.work = some t) :
    t.accepted = s.accepted ∧ t.drained = s.drained := by
  unfold work at hstep
  cases hworker : s.worker <;> rw [hworker] at hstep <;> dsimp only at hstep
  case popping => split at hstep <;> cases hstep <;> exact ⟨rfl, rfl⟩
  case running | releasing | settling | checking =>
    cases hstep
    exact ⟨rfl, rfl⟩
  case parking =>
    split at hstep <;> cases hstep
    exact ⟨rfl, rfl⟩
  case exited => cases hstep

/-- Only a push accepts, and a drain that has returned stays so. -/
theorem step_accepted {move : Move} (hmove : move ≠ .push) (hstep : s.step move = some t) :
    t.accepted = s.accepted ∧ (s.drained = true → t.drained = true) := by
  cases move <;> dsimp only [step] at hstep
  case push => exact absurd rfl hmove
  case worker =>
    obtain ⟨haccepted, hdrained⟩ := work_accepted hstep
    exact ⟨haccepted, hdrained.trans⟩
  case unpark | spurious | drainUnpark | swap | join =>
    split at hstep <;> cases hstep
    exact ⟨rfl, id⟩
  case stop =>
    cases hstep
    exact ⟨rfl, id⟩
  case reserve => split at hstep <;> cases hstep <;> exact ⟨rfl, id⟩
  case poll | claim =>
    split_ifs at hstep <;> cases hstep <;> exact ⟨rfl, id⟩
  case storeJoined =>
    split at hstep <;> cases hstep
    exact ⟨rfl, fun _ => rfl⟩
  case loadJoined | wait =>
    split_ifs at hstep <;> cases hstep
    · exact ⟨rfl, fun _ => rfl⟩
    · exact ⟨rfl, id⟩

/-- After a drain nothing is accepted. -/
theorem run_accepted {moves : List Move} (h : s.Inv) (hdrained : s.drained = true)
    (hrun : Run Step s moves t) : t.accepted = s.accepted := by
  have hkept := hrun.invariant
    (P := fun t => t.Inv ∧ t.drained = true ∧ t.accepted = s.accepted) ?_ ⟨h, hdrained, rfl⟩
  · exact hkept.2.2
  rintro u move v ⟨hu, hd, haccepted⟩ hstep
  have hmove : move ≠ .push := by
    rintro rfl
    have hcount := hu.count
    rw [hu.empty (.inr (.inr (.inl hd)))] at hcount
    simp only [Step, step] at hstep
    split_ifs at hstep <;> omega
  obtain ⟨hsame, hstays⟩ := step_accepted hmove hstep
  exact ⟨step_inv hu hstep, hstays hd, hsame.trans haccepted⟩

/-- **In every run of submitters, drainers and the worker, access by access: accepted tasks run in
order and one at a time, each is released once and after it ran, a push into a reserved place never
fails and no more tasks than the capacity are pending; when a drain has returned, every accepted
task is released, none is accepted later and the worker was joined, once; and no queued task waits
for a worker without a wake-up.** -/
theorem executor_drains (h : Reachable Initial Step s) :
    (s.ran <+: List.range s.accepted ∧ s.released <+: s.ran ∧
      s.ran.length ≤ s.released.length + 1) ∧
    s.fault = false ∧ pending s.state ≤ s.capacity ∧
    (s.drained = true → s.released = List.range s.accepted ∧ s.joins = 1 ∧
      ∀ moves t, Run Step s moves t → t.accepted = s.accepted) ∧
    s.joins ≤ 1 ∧
    ¬(s.queue ≠ [] ∧ s.reserved = 0 ∧ s.waking = 0 ∧ s.worker = .parking ∧ s.token = false) := by
  have hinv := reachable_inv h
  have hclaims := hinv.claims
  have hjoins := hinv.joins
  have hone : (if s.joining then 1 else 0) ≤ 1 := by split_ifs <;> omega
  refine ⟨⟨?_, ?_, ?_⟩, hinv.fault, hinv.room, fun hdrained => ⟨?_, ?_, ?_⟩, by omega, ?_⟩
  · rw [hinv.ran, hinv.order, append_assoc]
    refine prefix_append_right_inj _ |>.mpr ?_
    cases s.worker <;> simp [Worker.done, Worker.hand]
  · rw [hinv.ran]
    exact prefix_append _ _
  · rw [hinv.ran, length_append]
    cases s.worker <;> simp [Worker.done]
  · have hcount := hinv.count
    rw [hinv.empty (.inr (.inr (.inl hdrained)))] at hcount
    have hqueue : s.queue = [] := eq_nil_of_length_eq_zero (by omega)
    have hhand : s.worker.hand = [] := by
      revert hcount
      cases s.worker <;> simp [Worker.busy, Worker.hand]
    rw [hinv.order, hqueue, hhand, append_nil, append_nil]
  · rw [if_pos (hinv.drained hdrained)] at hclaims hjoins
    omega
  · exact fun moves t hrun => run_accepted hinv hdrained hrun
  · rintro ⟨hqueue, -, hwaking, hworker, htoken⟩
    rcases hinv.wake (.inr hworker) hqueue with htrue | hpos
    · exact Bool.false_ne_true (htoken.symm.trans htrue)
    · omega

/-- A task is submitted and run while two drains wait for it. -/
def drainRun : List Move :=
  [.reserve, .stop, .stop, .worker, .worker, .push, .unpark, .drainUnpark, .drainUnpark] ++
    List.replicate 7 .worker ++
    [.poll, .poll, .loadJoined, .loadJoined, .claim, .claim, .swap, .join, .storeJoined, .wait]

/-- Both drains return behind the one join. -/
theorem executor_drains_twice : ∃ s, Reachable Initial Step s ∧ s.drained = true ∧
    s.accepted = 1 ∧ s.released = [0] ∧ s.joins = 1 ∧ s.drainers.past = 0 := by
  obtain ⟨s, hreach, hdrained, haccepted, hpast⟩ :=
    exists_reachable Initial step drainRun (some (new 1))
    (by rintro _ ⟨⟩; exact ⟨1, by decide, by decide, rfl⟩)
    (fun s => s.drained = true ∧ s.accepted = 1 ∧ s.drainers.past = 0) (by decide)
  obtain ⟨-, -, -, hdone, -⟩ := executor_drains hreach
  obtain ⟨hreleased, hjoins, -⟩ := hdone hdrained
  rw [haccepted] at hreleased
  exact ⟨s, hreach, hdrained, haccepted, hreleased, hjoins, hpast⟩

end Executor

end RptAdvanced.Control
