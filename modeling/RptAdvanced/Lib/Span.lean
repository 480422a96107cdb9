import Mathlib.Data.List.Chain

/-!
# What a timer says about a run

A policy that waits for a condition to persist keeps the time at which the condition began and
forgets it when the condition fails. `f : σ → α → σ` is the transition function of such a policy.

* `Along f P s as`: every step from `s` along `as` meets `P` in the state it is taken in.
* `emitted f g s as`: what the steps from `s` along `as` put out.
* `exists_span`: a timer that runs was started by a step of the run, and every later step kept it.
* `isChain_emitted`: outputs that change a level, each to a value the level before admits.
-/

namespace RptAdvanced.Lib

open List

variable {σ α β γ τ : Type*} {f : σ → α → σ} {g : σ → α → List β} {as : List α} {s : σ}

/-- Every step from `s` along the labels meets `P` in the state it is taken in. -/
def Along (f : σ → α → σ) (P : σ → α → Prop) : σ → List α → Prop
  | _, [] => True
  | s, a :: as => P s a ∧ Along f P (f s a) as

/-- What the steps from `s` along the labels put out. -/
def emitted (f : σ → α → σ) (g : σ → α → List β) : σ → List α → List β
  | _, [] => []
  | s, a :: as => g s a ++ emitted f g (f s a) as

theorem Along.concat {P : σ → α → Prop} {a : α} (h : Along f P s as)
    (ha : P (as.foldl f s) a) : Along f P s (as ++ [a]) := by
  induction as generalizing s with
  | nil => exact ⟨ha, trivial⟩
  | cons b as ih => exact ⟨h.1, ih h.2 ha⟩

theorem Along.mono {P Q : σ → α → Prop} (hsub : ∀ s a, P s a → Q s a)
    (h : Along f P s as) : Along f Q s as := by
  induction as generalizing s with
  | nil => trivial
  | cons a as ih => exact ⟨hsub s a h.1, ih h.2⟩

theorem emitted_concat (s : σ) (as : List α) (a : α) :
    emitted f g s (as ++ [a]) = emitted f g s as ++ g (as.foldl f s) a := by
  induction as generalizing s with
  | nil => exact append_nil _
  | cons b as ih =>
    change g s b ++ emitted f g (f s b) (as ++ [a]) = _
    rw [ih, ← append_assoc]
    rfl

/-- **A timer shows a span.** If the last step starts a timer or keeps one that runs, then a step
started it, and every step since kept it. -/
theorem exists_span {timer : σ → Option τ} {Starts Keeps : τ → σ → α → Prop} {I : σ → Prop}
    (hI : ∀ s a, I s → I (f s a)) (hstep : ∀ s a t, I s → timer (f s a) = some t →
      Starts t s a ∨ timer s = some t ∧ Keeps t s a)
    (hs : I s) (hnone : timer s = none) {a : α} {t : τ}
    (h : Starts t (as.foldl f s) a ∨ timer (as.foldl f s) = some t ∧ Keeps t (as.foldl f s) a) :
    ∃ before b span, as ++ [a] = before ++ b :: span ∧ Starts t (before.foldl f s) b
      ∧ Along f (Keeps t) (f (before.foldl f s) b) span := by
  induction as using List.reverseRecOn generalizing a with
  | nil =>
    rcases h with h | ⟨h, -⟩
    · exact ⟨[], a, [], rfl, h, trivial⟩
    · rw [foldl_nil, hnone] at h
      cases h
  | append_singleton as c ih =>
    rcases h with h | ⟨hold, hkeep⟩
    · exact ⟨as ++ [c], a, [], rfl, h, trivial⟩
    rw [foldl_concat] at hold hkeep
    have hlast : I (as.foldl f s) := List.foldlRecOn as f hs fun s hs a _ => hI s a hs
    obtain ⟨before, b, span, hsplit, hstarts, hspan⟩ := ih (hstep _ _ _ hlast hold)
    rw [← foldl_concat f, hsplit, foldl_append] at hkeep
    exact ⟨before, b, span ++ [a], by rw [hsplit, append_assoc]; rfl, hstarts, hspan.concat hkeep⟩

/-- Outputs on the way from one level to another: each is admitted by the level before it and sets
the level; at the end no more is admitted than by the last level set. -/
inductive Admitted (R : γ → β → Prop) (value : β → γ) : γ → List β → γ → Prop
  | silent {v v' : γ} (h : ∀ b, R v' b → R v b) : Admitted R value v [] v'
  | output {v v' : γ} {b : β} {l : List β} (hb : R v b) (h : Admitted R value (value b) l v') :
      Admitted R value v (b :: l) v'

theorem Admitted.isChain_append {R : γ → β → Prop} {value : β → γ} {v v' : γ} {l l' : List β}
    (h : Admitted R value v l v') (hhead : ∀ b, l'.head? = some b → R v' b)
    (hchain : l'.IsChain fun a b => R (value a) b) :
    (∀ b, (l ++ l').head? = some b → R v b) ∧ (l ++ l').IsChain fun a b => R (value a) b := by
  induction h with
  | silent hsub => exact ⟨fun b hb => hsub b (hhead b hb), hchain⟩
  | output hb _ ih =>
    obtain ⟨hnext, hrest⟩ := ih hhead
    refine ⟨fun c hc => ?_, isChain_cons.mpr ⟨hnext, hrest⟩⟩
    cases hc
    exact hb

theorem isChain_emitted (level : σ → γ) (R : γ → β → Prop) (value : β → γ) {I : σ → Prop}
    {l : List α} (hkeep : ∀ s, ∀ a ∈ l, I s → I (f s a))
    (hstep : ∀ s, ∀ a ∈ l, I s → Admitted R value (level s) (g s a) (level (f s a))) (hs : I s) :
    (∀ b, (emitted f g s l).head? = some b → R (level s) b)
      ∧ (emitted f g s l).IsChain fun a b => R (value a) b := by
  induction l generalizing s with
  | nil => exact ⟨nofun, .nil⟩
  | cons a l ih =>
    obtain ⟨hhead, hchain⟩ := ih (fun s b hb => hkeep s b (.tail a hb))
      (fun s b hb => hstep s b (.tail a hb)) (hkeep s a (.head l) hs)
    exact (hstep s a (.head l) hs).isChain_append hhead hchain

end RptAdvanced.Lib
