import RptAdvanced.Lib.GateWord
import RptAdvanced.Lib.Run

/-!
# Wake-ups of a peer's provider (`PeerWake`, `rust/product/src/link/dispatcher.rs`)

A notifier counts itself into the gate, calls the provider's target if it came before the close, and
counts itself out. The gate is a flag over a count (`GateWord`). `step` makes one atomic access; of
the notifiers at a place of `notify` only the number is kept.

Results:
* `step_counted`, `run_closed`: the gate counts the notifiers inside, and once closed it lets no one
  to the target again.
* `wake_quiesces`: what `is_quiescent` says of the target, and when it says so.
-/

namespace RptAdvanced.Link

open Lib

/-- `CLOSED`: the flag of the gate. -/
def CLOSED : Nat := 2 ^ 63

/-- `WakeState`, with the notifiers inside `notify`. -/
structure PeerWake where
  gate : Nat
  /-- The cell `target` is set. -/
  target : Bool
  /-- Admitted before the close: they get the target next. -/
  looking : Nat
  /-- In a call of the target. -/
  calling : Nat
  /-- They leave the count next. -/
  leaving : Nat
  deriving DecidableEq, Repr

/-- An access that changes something. -/
inductive WakeMove
  | attach | enter | look | finish | leave | close
  deriving DecidableEq, Repr

namespace PeerWake

def close (w : PeerWake) : PeerWake := { w with gate := GateWord.raise CLOSED w.gate }

/-- `gate & CLOSED != 0`. -/
def closed (w : PeerWake) : Bool := GateWord.raised CLOSED w.gate

def isQuiescent (w : PeerWake) : Bool := w.gate == CLOSED

/-- The notifiers inside `notify`. -/
def inside (w : PeerWake) : Nat := w.looking + w.calling + w.leaving

/-- One access; `none` where nobody makes it. A second `attach` fails its assertion. -/
def step (w : PeerWake) : WakeMove → Option PeerWake
  | .attach => if w.target then none else some { w with target := true }
  | .enter =>
    let gate := GateWord.enter CLOSED w.gate
    if w.closed then some { w with gate, leaving := w.leaving + 1 }
    else some { w with gate, looking := w.looking + 1 }
  | .look =>
    if w.looking = 0 then none
    else if w.target then some { w with looking := w.looking - 1, calling := w.calling + 1 }
    else some { w with looking := w.looking - 1, leaving := w.leaving + 1 }
  | .finish =>
    if w.calling = 0 then none
    else some { w with calling := w.calling - 1, leaving := w.leaving + 1 }
  | .leave =>
    if w.leaving = 0 then none
    else some { w with gate := GateWord.leave CLOSED w.gate, leaving := w.leaving - 1 }
  | .close => some w.close

/-- The default state. -/
def Initial (w : PeerWake) : Prop := w = ⟨0, false, 0, 0, 0⟩

/-- `step`, with fewer than 2^63 notifiers at a time. -/
def Step : PeerWake → WakeMove → PeerWake → Prop :=
  Guarded (fun w a u => w.step a = some u) fun w a => a = .enter → w.inside + 1 < 2 ^ 63

/-- The gate counts the notifiers inside. -/
structure Counted (w : PeerWake) : Prop where
  word : w.gate < 2 * CLOSED
  count : GateWord.count CLOSED w.gate = w.inside

variable {w u : PeerWake} {a : WakeMove}

theorem isQuiescent_iff (h : w.Counted) :
    w.isQuiescent = true ↔ w.closed = true ∧ w.inside = 0 := by
  rw [← h.count]
  exact beq_iff_eq.trans (GateWord.eq_flag_iff h.word)

/-- **Every access keeps the count.** The flag stays, and behind it nobody gets to the target. -/
theorem step_counted (h : w.Counted) (hs : Step w a u) :
    u.Counted ∧ (w.closed = true → u.closed = true ∧
      (w.looking = 0 ∧ w.calling = 0 → u.looking = 0 ∧ u.calling = 0)) := by
  obtain ⟨hroom, hs⟩ := hs
  obtain ⟨hword, hcount⟩ := h
  cases a <;> simp only [step, Option.ite_none_left_eq_some, Option.some.injEq] at hs
  case attach =>
    obtain ⟨-, rfl⟩ := hs
    exact ⟨⟨hword, hcount⟩, fun hclosed => ⟨hclosed, id⟩⟩
  case enter =>
    obtain ⟨hcounted, hflag, hlt⟩ := GateWord.enter_spec hword (hcount ▸ hroom rfl)
    rw [hcount] at hcounted
    split at hs <;> obtain rfl := Option.some.inj hs
    · exact ⟨⟨hlt, hcounted⟩, fun hclosed => ⟨hflag hclosed, id⟩⟩
    · exact ⟨⟨hlt, hcounted.trans (by simp only [inside]; omega)⟩,
        fun hclosed => absurd hclosed ‹_›⟩
  case look =>
    obtain ⟨hpos, hs⟩ := hs
    split at hs <;> obtain rfl := Option.some.inj hs
    all_goals exact ⟨⟨hword, hcount.trans (by simp only [inside]; omega)⟩,
      fun hclosed => ⟨hclosed, fun hpass => absurd hpass.1 hpos⟩⟩
  case finish =>
    obtain ⟨hpos, rfl⟩ := hs
    exact ⟨⟨hword, hcount.trans (by simp only [inside]; omega)⟩,
      fun hclosed => ⟨hclosed, fun hpass => absurd hpass.2 hpos⟩⟩
  case leave =>
    obtain ⟨hpos, rfl⟩ := hs
    obtain ⟨hcounted, hflag, hlt⟩ :=
      GateWord.leave_spec hword (by rw [hcount]; simp only [inside]; omega)
    exact ⟨⟨hlt, hcounted.trans (by rw [hcount]; simp only [inside]; omega)⟩,
      fun hclosed => ⟨hflag hclosed, id⟩⟩
  case close =>
    subst hs
    obtain ⟨hcounted, hflag, hlt⟩ := GateWord.raise_spec hword
    exact ⟨⟨hlt, hcounted.trans hcount⟩, fun _ => ⟨hflag, id⟩⟩

/-- What every run behind the flag keeps. -/
theorem run_closed {as : List WakeMove} (h : w.Counted) (hclosed : w.closed = true)
    (hrun : Run Step w as u) : u.Counted ∧ u.closed = true ∧
      (w.looking = 0 ∧ w.calling = 0 → u.looking = 0 ∧ u.calling = 0) := by
  refine hrun.invariant (P := fun u => u.Counted ∧ u.closed = true ∧
    (w.looking = 0 ∧ w.calling = 0 → u.looking = 0 ∧ u.calling = 0)) ?_ ⟨h, hclosed, id⟩
  rintro v a u ⟨hv, hflag, hpass⟩ hs
  obtain ⟨hu, hkept⟩ := step_counted hv hs
  exact ⟨hu, (hkept hflag).1, fun hw => (hkept hflag).2 (hpass hw)⟩

theorem counted_of_reachable (h : Reachable Initial Step w) : w.Counted :=
  h.invariant (P := Counted) (by rintro _ rfl; exact ⟨by decide, rfl⟩) fun _ _ _ hw hs =>
    (step_counted hw hs).1

/-- **Wake-ups quiesce before the detach.** From a state in which `is_quiescent` returns true on, no
notifier is in a call of the target or on the way to one. From a close on, `is_quiescent` returns
true as soon as no notifier is inside. -/
theorem wake_quiesces (h : Reachable Initial Step w) :
    (w.isQuiescent = true → ∀ as u, Run Step w as u → u.looking = 0 ∧ u.calling = 0) ∧
      ∀ as u, Run Step w.close as u → u.inside = 0 → u.isQuiescent = true := by
  have hcount := counted_of_reachable h
  constructor
  · intro hq as u hrun
    obtain ⟨hclosed, hnone⟩ := (isQuiescent_iff hcount).mp hq
    exact (run_closed hcount hclosed hrun).2.2 (by simp only [inside] at hnone; omega)
  · intro as u hrun hnone
    obtain ⟨hcounted, -⟩ := step_counted (a := .close) hcount ⟨nofun, rfl⟩
    obtain ⟨hu, hclosed, -⟩ := run_closed hcounted (GateWord.raise_spec hcount.word).2.1 hrun
    exact (isQuiescent_iff hu).mpr ⟨hclosed, hnone⟩

/-- A notifier inside the target outlives the close, and the gate is quiescent when it has left. -/
theorem wake_quiesces_late : isQuiescent ⟨2 ^ 63 + 1, true, 0, 1, 0⟩ = false ∧
    isQuiescent ⟨2 ^ 63, true, 0, 0, 0⟩ = true := by
  have hrun : Run Step ⟨0, false, 0, 0, 0⟩ [.attach, .enter, .look] ⟨1, true, 0, 1, 0⟩ :=
    Run.foldlM_guarded (by decide)
  have hreach : Reachable Initial Step ⟨1, true, 0, 1, 0⟩ := .run (.init rfl) hrun
  have hend : Run Step (close ⟨1, true, 0, 1, 0⟩) [.finish, .leave] ⟨2 ^ 63, true, 0, 0, 0⟩ :=
    Run.foldlM_guarded (by decide)
  exact ⟨by decide, (wake_quiesces hreach).2 _ _ hend rfl⟩

end PeerWake

end RptAdvanced.Link
