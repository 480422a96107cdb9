import Mathlib.Tactic.Common

/-!
# Programs of atomic actions under interference

`Resumption σ α` is a program of one thread on a state `σ` it shares with others: it has finished
with a value, or it performs one atomic action and goes on with what the action saw. Other threads
act between any two actions.

`Interference σ` is what the others may do between two actions, as a preorder on the states.
`Secure I guar post prog s`: started in `s`, under interference `I`, every action of `prog` relates
the states around it by `guar`, and when `prog` finishes with `a` every state it can be in meets
`post a`.

Rules:
* `Secure.bind`, `Secure.mono`: sequencing, consequence.
* `Secure.interfere`, `Secure.step`: the two ways a started program moves on.
-/

namespace RptAdvanced.Lib

/-- A program of atomic actions: `act update next` changes the state by `update` and goes on with
`next` of the state the action saw. -/
inductive Resumption (σ : Type*) (α : Type*)
  | done (a : α)
  | act (update : σ → σ) (next : σ → Resumption σ α)

namespace Resumption

variable {σ α β : Type*}

protected def bind : Resumption σ α → (α → Resumption σ β) → Resumption σ β
  | .done a, k => k a
  | .act f n, k => .act f fun s => (n s).bind k

instance {σ : Type u} : Monad (Resumption.{u, v} σ) where
  pure := .done
  bind := Resumption.bind

/-- One atomic action with a result. -/
def atomic {σ : Type u} {β : Type v} (f : σ → β × σ) : Resumption.{u, v} σ β :=
  .act (fun s => (f s).2) fun s => .done (f s).1

def load {σ : Type u} {β : Type v} (f : σ → β) : Resumption.{u, v} σ β := atomic fun s => (f s, s)

def store {σ : Type u} (f : σ → σ) : Resumption.{u, 0} σ Unit := atomic fun s => ((), f s)

end Resumption

/-- What the other threads may do between two actions: nothing, or any sequence of their steps. -/
structure Interference (σ : Type*) where
  rel : σ → σ → Prop
  refl : ∀ s, rel s s
  trans : ∀ {s t u}, rel s t → rel t u → rel s u

namespace Resumption

variable {σ α β : Type*} {I : Interference σ} {guar : σ → σ → Prop} {post : α → σ → Prop}

/-- Under interference `I` every action of the program meets `guar` and its end meets `post`. -/
def Secure (I : Interference σ) (guar : σ → σ → Prop) (post : α → σ → Prop) :
    Resumption σ α → σ → Prop
  | .done a, s => ∀ t, I.rel s t → post a t
  | .act f n, s => ∀ t, I.rel s t → guar t (f t) ∧ Secure I guar post (n t) (f t)

variable {prog : Resumption σ α}

/-- Interference before the next action keeps the rest of the program secure. -/
theorem Secure.interfere {s t : σ} (h : Secure I guar post prog s)
    (hst : I.rel s t) : Secure I guar post prog t := by
  cases prog with
  | done a | act f n => exact fun u htu => h u (I.trans hst htu)

/-- The next action meets the guarantee and leaves the rest secure. -/
theorem Secure.step {f : σ → σ} {n : σ → Resumption σ α} {s : σ}
    (h : Secure I guar post (.act f n) s) : guar s (f s) ∧ Secure I guar post (n s) (f s) :=
  h s (I.refl s)

theorem Secure.result {a : α} {s : σ} (h : Secure I guar post (.done a) s) : post a s :=
  h s (I.refl s)

theorem Secure.bind' {k : α → Resumption σ β} {post : β → σ → Prop}
    {s : σ} (h : Secure I guar (fun a => Secure I guar post (k a)) prog s) :
    Secure I guar post (prog.bind k) s := by
  induction prog generalizing s with
  | done a => exact h s (I.refl s)
  | act f n ih => exact fun t hst => ⟨(h t hst).1, ih t (h t hst).2⟩

/-- Sequencing: the rest of the program is secure wherever the first part can end. -/
theorem Secure.bind {σ : Type u} {α β : Type v} {I : Interference σ} {guar : σ → σ → Prop}
    {prog : Resumption.{u, v} σ α} {k : α → Resumption.{u, v} σ β} {post : β → σ → Prop} {s : σ}
    (h : Secure I guar (fun a => Secure I guar post (k a)) prog s) :
    Secure I guar post (prog >>= k) s :=
  Secure.bind' h

theorem Secure.mono {guar' : σ → σ → Prop} {post' : α → σ → Prop} {s : σ}
    (h : Secure I guar post prog s) (hguar : ∀ s t, guar s t → guar' s t)
    (hpost : ∀ a s, post a s → post' a s) : Secure I guar' post' prog s := by
  induction prog generalizing s with
  | done a => exact fun t hst => hpost a t (h t hst)
  | act f n ih => exact fun t hst => ⟨hguar _ _ (h t hst).1, ih t (h t hst).2⟩

/-- Sequencing by the condition in between. -/
theorem Secure.seq {σ : Type u} {α β : Type v} {I : Interference σ} {guar : σ → σ → Prop}
    {prog : Resumption.{u, v} σ α} {k : α → Resumption.{u, v} σ β} {mid : α → σ → Prop}
    {post : β → σ → Prop} {s : σ} (h : Secure I guar mid prog s)
    (hk : ∀ a t, mid a t → Secure I guar post (k a) t) : Secure I guar post (prog >>= k) s :=
  .bind (h.mono (fun _ _ hguar => hguar) hk)

end Resumption

end RptAdvanced.Lib
