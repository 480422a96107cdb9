import Mathlib.Algebra.Order.Ring.Int
import Mathlib.Logic.Relation

/-!
# Runs of a labelled transition relation

A system is a relation `step : σ → α → σ → Prop` on states, labelled by actions. `Run step s as t`
is a run from `s` to `t` along the labels `as`; `Reachable init step s` is a run from an initial
state, its labels forgotten. `Guarded step ok` keeps the steps whose label meets `ok` in the state
before the step: a run of it is a run all of whose steps meet the condition.

Rules:
* `Run.invariant` / `Reachable.invariant`: what holds at the start and is kept by every step holds
  at the end.
* `Run.append`, `Run.snoc`: runs compose.
* `Run.mono`: a relation that allows more has more runs. `Run.guarded`: a run of labels that meet
  the condition in every state.
* `Run.foldl`, `Run.foldlM`, `Run.foldlM_guarded`, `Run.foldlM_ok`: the run of a transition
  function along given labels.
* `exists_reachable`, `exists_reachable_guarded`: a run found by evaluation, and what its last state
  shows.
* `foldlM_ok_invariant`, `bind_eq_ok_iff`: loops and sequences of computations that may fail.
-/

namespace RptAdvanced.Lib

open List Option

variable {σ α : Type*} {ε : Type*} {P : σ → Prop} {f : σ → α → Option σ}

/-- The labels `as` lead from the first state to the second. -/
inductive Run (step : σ → α → σ → Prop) : σ → List α → σ → Prop
  | nil (s : σ) : Run step s [] s
  | cons {s t u : σ} {a : α} {as : List α} (h : step s a t) (r : Run step t as u) :
      Run step s (a :: as) u

/-- The states of the runs from an initial state. -/
inductive Reachable (init : σ → Prop) (step : σ → α → σ → Prop) : σ → Prop
  | init {s : σ} (h : init s) : Reachable init step s
  | step {s t : σ} {a : α} (r : Reachable init step s) (h : step s a t) : Reachable init step t

/-- The steps whose label meets `ok` in the state before them. -/
def Guarded (step : σ → α → σ → Prop) (ok : σ → α → Prop) : σ → α → σ → Prop :=
  fun s a t => ok s a ∧ step s a t

variable {step : σ → α → σ → Prop} {init : σ → Prop} {as : List α} {s t : σ} {ok : σ → α → Prop}

theorem Run.append {s t u : σ} {as bs : List α} (h : Run step s as t) (k : Run step t bs u) :
    Run step s (as ++ bs) u := by
  induction h with
  | nil => exact k
  | cons h _ ih => exact .cons h (ih k)

theorem Run.snoc {s t u : σ} {a : α} (h : Run step s as t) (k : step t a u) :
    Run step s (as ++ [a]) u :=
  h.append (.cons k (.nil u))

theorem Run.mono {step' : σ → α → σ → Prop} (hsub : ∀ s a t, step s a t → step' s a t)
    (h : Run step s as t) : Run step' s as t := by
  induction h with
  | nil s => exact .nil s
  | cons h _ ih => exact .cons (hsub _ _ _ h) ih

theorem Run.foldl (f : σ → α → σ) (s : σ) (as : List α) :
    Run (fun s a t => t = f s a) s as (as.foldl f s) := by
  induction as generalizing s with
  | nil => exact .nil s
  | cons a as ih => exact .cons rfl (ih (f s a))

/-- The run of a partial transition function along labels that are all enabled. -/
theorem Run.foldlM (h : as.foldlM f s = some t) : Run (fun s a t => f s a = some t) s as t := by
  induction as generalizing s with
  | nil =>
    cases h
    exact .nil _
  | cons a as ih =>
    obtain ⟨u, hu, ht⟩ := bind_eq_some_iff.mp h
    exact .cons hu (ih ht)

/-- The run of a partial transition function along labels that meet the condition in turn. -/
theorem Run.foldlM_guarded [∀ s a, Decidable (ok s a)]
    (h : as.foldlM (fun s a => if ok s a then f s a else none) s = some t) :
    Run (Guarded (fun s a t => f s a = some t) ok) s as t := by
  refine (Run.foldlM h).mono fun s a t hstep => ?_
  exact ite_none_right_eq_some.mp hstep

theorem ok_of_toOption {result : Except ε σ} {s : σ} (h : result.toOption = some s) :
    result = .ok s := by
  cases result with
  | error e => cases h
  | ok t =>
    cases h
    rfl

/-- The same for a transition function that may also fail, along labels that do not. -/
theorem Run.foldlM_ok {f : σ → α → Option (Except ε σ)} [∀ s a, Decidable (ok s a)]
    (h : as.foldlM (fun s a => if ok s a then (f s a).bind Except.toOption else none) s = some t) :
    Run (Guarded (fun s a t => f s a = some (.ok t)) ok) s as t := by
  refine (Run.foldlM_guarded h).mono fun s a t hstep => ⟨hstep.1, ?_⟩
  obtain ⟨result, hresult, hok⟩ := bind_eq_some_iff.mp hstep.2
  rw [hresult, ok_of_toOption hok]

/-- A computation in two parts succeeds when both do. -/
theorem bind_eq_ok_iff {γ δ : Type*} {x : Except ε γ} {f : γ → Except ε δ} {b : δ} :
    x.bind f = .ok b ↔ ∃ a, x = .ok a ∧ f a = .ok b := by
  constructor
  · intro h
    cases x with
    | error e => cases h
    | ok a => exact ⟨a, rfl, h⟩
  · rintro ⟨a, rfl, h⟩
    exact h

/-- What every turn of a loop that may fail keeps holds at its end. -/
theorem foldlM_ok_invariant {f : σ → α → Except ε σ}
    (hstep : ∀ s, ∀ a ∈ as, ∀ t, P s → f s a = .ok t → P t)
    (h : as.foldlM f s = .ok t) (hs : P s) : P t := by
  induction as generalizing s with
  | nil =>
    cases h
    exact hs
  | cons a as ih =>
    rw [foldlM_cons] at h
    cases hu : f s a with
    | error e =>
      rw [hu] at h
      cases h
    | ok u =>
      rw [hu] at h
      exact ih (fun s a ha => hstep s a (mem_cons_of_mem _ ha)) h (hstep s a mem_cons_self u hs hu)

/-- A run whose labels all meet the condition, whatever the state. -/
theorem Run.guarded (h : Run step s as t)
    (hok : ∀ a ∈ as, ∀ s, ok s a) : Run (Guarded step ok) s as t := by
  induction h with
  | nil s => exact .nil s
  | cons h _ ih =>
    exact .cons ⟨hok _ mem_cons_self _, h⟩ (ih fun a ha => hok a (mem_cons_of_mem _ ha))

/-- What every step keeps holds at the end of a run that starts with it. -/
theorem Run.invariant (hstep : ∀ s a t, P s → step s a t → P t)
    (h : Run step s as t) (hs : P s) : P t := by
  induction h with
  | nil => exact hs
  | cons h _ ih => exact ih (hstep _ _ _ hs h)

theorem Reachable.run (hs : Reachable init step s)
    (h : Run step s as t) : Reachable init step t := by
  induction h with
  | nil => exact hs
  | cons h _ ih => exact ih (.step hs h)

/-- A run found by evaluation: its labels are all enabled from the start, and its end meets `p`. -/
theorem exists_reachable (init : σ → Prop) (f : σ → α → Option σ) (as : List α) (start : Option σ)
    (hinit : ∀ s, start = some s → init s) (p : σ → Prop) [DecidablePred p]
    (h : (start.bind fun s => as.foldlM f s).any (fun t => decide (p t)) = true) :
    ∃ t, Reachable init (fun s a t => f s a = some t) t ∧ p t := by
  obtain ⟨t, ht, hp⟩ := (any_eq_true _ _).mp h
  obtain ⟨s, hs, hrun⟩ := bind_eq_some_iff.mp ht
  exact ⟨t, (Reachable.init (hinit s hs)).run (Run.foldlM hrun), of_decide_eq_true hp⟩

/-- The same along labels that meet the condition in turn. -/
theorem exists_reachable_guarded (init : σ → Prop) (f : σ → α → Option σ) (ok : σ → α → Prop)
    [∀ s a, Decidable (ok s a)] (as : List α) (start : Option σ)
    (hinit : ∀ s, start = some s → init s) (p : σ → Prop) [DecidablePred p]
    (h : (start.bind fun s => as.foldlM (fun s a => if ok s a then f s a else none) s).any
      (fun t => decide (p t)) = true) :
    ∃ t, Reachable init (Guarded (fun s a t => f s a = some t) ok) t ∧ p t := by
  obtain ⟨t, ht, hp⟩ := (any_eq_true _ _).mp h
  obtain ⟨s, hs, hrun⟩ := bind_eq_some_iff.mp ht
  exact ⟨t, (Reachable.init (hinit s hs)).run (Run.foldlM_guarded hrun), of_decide_eq_true hp⟩

/-- What holds initially and is kept by every step holds of every reachable state. -/
theorem Reachable.invariant (hinit : ∀ s, init s → P s)
    (hstep : ∀ s a t, P s → step s a t → P t) {s : σ} (h : Reachable init step s) : P s := by
  induction h with
  | init h => exact hinit _ h
  | step _ h ih => exact hstep _ _ _ ih h

end RptAdvanced.Lib
