import Mathlib.Data.List.Forall2
import Mathlib.Data.Option.Basic
import Mathlib.Logic.Relation
import RptAdvanced.Lib.Update

/-!
# Items in circulation between an owner and a worker

An owner admits items into a queue. A worker takes them one at a time into its slot, changes them in
place and puts them into a second queue, from which the owner takes them back. Both queues have the
same capacity, and the owner's count of the items it has not got back bounds what is in them.

`Works r capacity` is one move of the worker, where `r` is what a change in place may do to an item
and a put needs room. `Tends` is any number of them, given that no more items circulate than fit.
`Ledger.Moves` is what either side does. `Ledger.Balanced` is what they keep together: the count is
right and within the capacity, and the items admitted are, in this order, those returned and those
in circulation.

Rules:
* `Works.items`: a move of the worker changes items in place at most.
* `Tends.trans`, `Tends.refl`, `Tends.change`, `Tends.take`, `Tends.put`: the moves of the worker.
* `Moves.items`, `Balanced.moves`: what both sides do keeps every item and the balance.
* `works_settled`: with nothing queued and a free slot, nothing comes.
-/

namespace RptAdvanced.Lib

open List

variable {α : Type*} {r : α → α → Prop} {capacity : Nat}

/-- Where the items are. -/
structure Circulation (α : Type*) where
  pending : List α
  slot : Option α
  completed : List α

namespace Circulation

variable {c c' c'' : Circulation α}

def items (c : Circulation α) : List α := c.completed ++ c.slot.toList ++ c.pending

/-- One move of the worker. -/
inductive Works (r : α → α → Prop) (capacity : Nat) : Circulation α → Circulation α → Prop
  /-- The oldest queued item moves into the free slot. -/
  | take (a : α) (p d : List α) : Works r capacity ⟨a :: p, none, d⟩ ⟨p, some a, d⟩
  /-- The slot's item moves into the second queue, which has room. -/
  | put (a : α) (p d : List α) (h : d.length < capacity) :
      Works r capacity ⟨p, some a, d⟩ ⟨p, none, d ++ [a]⟩
  /-- Items change in place. -/
  | change {p p' : List α} {s s' : Option α} (d : List α) (hp : Forall₂ r p p')
      (hs : Forall₂ r s.toList s'.toList) : Works r capacity ⟨p, s, d⟩ ⟨p', s', d⟩

/-- **The worker loses, repeats and reorders nothing.** -/
theorem Works.items (hrefl : ∀ a, r a a) (h : Works r capacity c c') :
    Forall₂ r c.items c'.items := by
  have hsame : ∀ l : List α, Forall₂ r l l := fun l => forall₂_same.mpr fun a _ => hrefl a
  cases h with
  | take a p d =>
    have heq : items ⟨p, some a, d⟩ = items ⟨a :: p, none, d⟩ := by simp [Circulation.items]
    exact heq ▸ hsame _
  | put a p d h =>
    have heq : items ⟨p, none, d ++ [a]⟩ = items ⟨p, some a, d⟩ := by simp [Circulation.items]
    exact heq ▸ hsame _
  | change d hp hs => exact rel_append (rel_append (hsame d) hs) hp

theorem Works.length (h : Works r capacity c c') : c'.items.length = c.items.length := by
  cases h with
  | take a p d => simp [Circulation.items]
  | put a p d h => simp [Circulation.items]
  | change d hp hs =>
    have hp := hp.length_eq
    have hs := hs.length_eq
    simp only [Circulation.items, length_append]
    omega

/-- The worker's moves, when no more items circulate than fit. -/
def Tends (r : α → α → Prop) (capacity : Nat) (c c' : Circulation α) : Prop :=
  c.items.length ≤ capacity → Relation.ReflTransGen (Works r capacity) c c'

section

variable (h : Relation.ReflTransGen (Works r capacity) c c')
include h

theorem works_length :
    c'.items.length = c.items.length := by
  induction h with
  | refl => rfl
  | tail _ hw ih => exact hw.length.trans ih

theorem works_items (hrefl : ∀ a, r a a) (htrans : ∀ a b c, r a b → r b c → r a c)
    : Forall₂ r c.items c'.items := by
  induction h with
  | refl => exact forall₂_same.mpr fun a _ => hrefl a
  | tail _ hw ih => exact forall₂_trans htrans ih (hw.items hrefl)

/-- With nothing queued and a free slot, nothing comes. -/
theorem works_settled (hp : c.pending = [])
    (hs : c.slot = none) : c'.pending = [] ∧ c'.slot = none := by
  induction h with
  | refl => exact ⟨hp, hs⟩
  | tail _ hw ih =>
    cases hw with
    | take => cases ih.1
    | put => cases ih.2
    | @change p p' s s' d hp' hs' =>
      obtain ⟨rfl, rfl⟩ := ih
      cases hp'
      cases s' with
      | none => exact ⟨rfl, rfl⟩
      | some a => cases hs'

end

theorem Tends.refl (c : Circulation α) : Tends r capacity c c := fun _ => .refl

theorem Tends.trans (h : Tends r capacity c c') (k : Tends r capacity c' c'') :
    Tends r capacity c c'' := fun hcapacity => by
  have hfirst := h hcapacity
  exact hfirst.trans (k (by rw [works_length hfirst]; exact hcapacity))

theorem Tends.take (a : α) (p d : List α) : Tends r capacity ⟨a :: p, none, d⟩ ⟨p, some a, d⟩ :=
  fun _ => .single (.take a p d)

theorem Tends.change {p p' : List α} {s s' : Option α} (d : List α) (hp : Forall₂ r p p')
    (hs : Forall₂ r s.toList s'.toList) : Tends r capacity ⟨p, s, d⟩ ⟨p', s', d⟩ :=
  fun _ => .single (.change d hp hs)

/-- The slot's own item leaves room for it in the second queue. -/
theorem Tends.put (a : α) (p d : List α) :
    Tends r capacity ⟨p, some a, d⟩ ⟨p, none, if d.length < capacity then d ++ [a] else d⟩ := by
  intro hcapacity
  have hroom : d.length < capacity := by
    simp only [items, length_append, Option.toList_some, length_singleton] at hcapacity
    omega
  rw [if_pos hroom]
  exact .single (.put a p d hroom)

end Circulation

/-- A circulation with the owner's count and the record of what was admitted and returned. -/
structure Ledger (α : Type*) where
  rings : Circulation α
  outstanding : Nat
  admitted : List α
  returned : List α

namespace Ledger

variable {l l' : Ledger α} {c : Circulation α}

/-- The owner's count is right and within the capacity, and what was admitted is, in order, what was
returned and what circulates. -/
structure Balanced (r : α → α → Prop) (capacity : Nat) (l : Ledger α) : Prop where
  count : l.rings.items.length = l.outstanding
  bound : l.outstanding ≤ capacity
  record : Forall₂ r l.admitted (l.returned ++ l.rings.items)

/-- What happens to the items: the worker moves, or the owner admits one or takes one back. -/
inductive Moves (r : α → α → Prop) (capacity : Nat) (l l' : Ledger α) : Prop
  | works (rings : Relation.ReflTransGen (Circulation.Works r capacity) l.rings l'.rings)
      (outstanding : l'.outstanding = l.outstanding) (admitted : l'.admitted = l.admitted)
      (returned : l'.returned = l.returned)
  /-- A new item, at the end of the first queue. -/
  | admits (a : α) (rings : l'.rings = { l.rings with pending := l.rings.pending ++ [a] })
      (room : l.outstanding < capacity) (outstanding : l'.outstanding = l.outstanding + 1)
      (admitted : l'.admitted = l.admitted ++ [a]) (returned : l'.returned = l.returned)
  /-- The oldest finished item. -/
  | reclaims (a : α) (d : List α) (finished : l.rings.completed = a :: d)
      (rings : l'.rings = { l.rings with completed := d })
      (outstanding : l'.outstanding + 1 = l.outstanding) (admitted : l'.admitted = l.admitted)
      (returned : l'.returned = l.returned ++ [a])

/-- While an item is finished, the owner's count is not zero. -/
theorem Balanced.positive (h : l.Balanced r capacity) {a : α} {d : List α}
    (hd : l.rings.completed = a :: d) : 0 < l.outstanding := by
  rw [← h.count]
  simp [Circulation.items, hd]

/-- What the worker may do, it does with room. -/
theorem Balanced.works (h : l.Balanced r capacity) (ht : Circulation.Tends r capacity l.rings c) :
    Relation.ReflTransGen (Circulation.Works r capacity) l.rings c :=
  ht (by rw [h.count]; exact h.bound)

/-- Every item stays where it was in the order, and a new one comes last, admitted and counted. -/
theorem Moves.items (hrefl : ∀ a, r a a) (htrans : ∀ a b c, r a b → r b c → r a c)
    (h : l.Moves r capacity l') : ∃ added, l'.admitted = l.admitted ++ added ∧
      l'.outstanding + l'.returned.length = l.outstanding + l.returned.length + added.length ∧
      Forall₂ r (l.returned ++ l.rings.items ++ added) (l'.returned ++ l'.rings.items) := by
  have hsame : ∀ l : List α, Forall₂ r l l := fun l => forall₂_same.mpr fun a _ => hrefl a
  cases h with
  | works rings outstanding admitted returned =>
    refine ⟨[], by simpa using admitted, by rw [outstanding, returned]; rfl, ?_⟩
    rw [returned, append_nil]
    exact rel_append (hsame _) (Circulation.works_items rings hrefl htrans)
  | admits a rings room outstanding admitted returned =>
    have hitems : l'.rings.items = l.rings.items ++ [a] := by
      rw [rings]
      simp [Circulation.items]
    refine ⟨[a], admitted, by rw [outstanding, returned, length_singleton]; omega, ?_⟩
    rw [returned, hitems, append_assoc]
    exact hsame _
  | reclaims a d finished rings outstanding admitted returned =>
    have hitems : l.rings.items = a :: l'.rings.items := by
      rw [rings]
      simp [Circulation.items, finished]
    refine ⟨[], by simpa using admitted, by rw [← outstanding, returned, length_append]; grind, ?_⟩
    rw [returned, hitems, append_nil, append_assoc]
    exact hsame _

/-- **The balance is kept.** -/
theorem Balanced.moves (hrefl : ∀ a, r a a) (htrans : ∀ a b c, r a b → r b c → r a c)
    (h : l.Balanced r capacity) (hm : l.Moves r capacity l') : l'.Balanced r capacity := by
  obtain ⟨added, hadmitted, hout, hitems⟩ := hm.items hrefl htrans
  have hlen := hitems.length_eq
  have hcount := h.count
  have hbound := h.bound
  simp only [length_append] at hlen
  refine ⟨by omega, by cases hm <;> omega, ?_⟩
  rw [hadmitted]
  exact forall₂_trans htrans (rel_append h.record (forall₂_same.mpr fun a _ => hrefl a)) hitems

end Ledger

end RptAdvanced.Lib
