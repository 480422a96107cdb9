import Mathlib.Tactic.Common

/-!
# A bounded ring with one producer and one consumer

A `RingBuffer` holds at most `capacity` items, oldest first. An endpoint may see the other end late:
the producer may find less room than there is, and the consumer fewer items. So the partial push
takes the room its producer has seen.

Rules: `push_items`, `push_isSome`, `pop_items`, `popEntire_items`.
-/

namespace RptAdvanced.Lib

open List

/-- The items between a producer and a consumer. -/
structure RingBuffer (α : Type*) where
  capacity : Nat
  items : List α
  bounded : items.length ≤ capacity

namespace RingBuffer

variable {α : Type*}

def new (capacity : Nat) : RingBuffer α := ⟨capacity, [], Nat.zero_le _⟩

def slots (r : RingBuffer α) : Nat := r.capacity - r.items.length

/-- Push one item; `none` when the ring is full. -/
def push (a : α) (r : RingBuffer α) : Option (RingBuffer α) :=
  if h : r.items.length < r.capacity then
    some ⟨r.capacity, r.items ++ [a], by rw [length_append]; exact h⟩
  else none

/-- Push the leading items that fit into the `room` the producer sees. -/
def pushPartial (room : Nat) (l : List α) (r : RingBuffer α) : List α × RingBuffer α :=
  let written := l.take (min room r.slots)
  (written, ⟨r.capacity, r.items ++ written, by
    have hbounded := r.bounded
    rw [length_append, length_take, slots]
    omega⟩)

def pop (r : RingBuffer α) : Option (α × RingBuffer α) :=
  match h : r.items with
  | [] => none
  | a :: rest => some (a, ⟨r.capacity, rest, by
      have hbounded := r.bounded
      rw [h, length_cons] at hbounded
      omega⟩)

/-- Pop exactly `n` items; `none` when there are fewer. -/
def popEntire (n : Nat) (r : RingBuffer α) : Option (List α × RingBuffer α) :=
  if n ≤ r.items.length then
    some (r.items.take n, ⟨r.capacity, r.items.drop n, by
      have hbounded := r.bounded
      rw [length_drop]
      omega⟩)
  else none

variable {r r' : RingBuffer α}

theorem push_items {a : α} (h : r.push a = some r') :
    r'.items = r.items ++ [a] ∧ r'.capacity = r.capacity := by
  unfold push at h
  split at h
  · cases h
    exact ⟨rfl, rfl⟩
  · cases h

theorem push_isSome (a : α) (h : r.items.length < r.capacity) : ∃ r', r.push a = some r' :=
  ⟨_, dif_pos h⟩

theorem pop_items {a : α} (h : r.pop = some (a, r')) :
    r.items = a :: r'.items ∧ r'.capacity = r.capacity := by
  unfold pop at h
  split at h
  · cases h
  rename_i hitems
  cases h
  exact ⟨hitems, rfl⟩

theorem pop_none (h : r.pop = none) : r.items = [] := by
  unfold pop at h
  split at h
  · assumption
  · cases h

theorem popEntire_items {n : Nat} {l : List α} (h : r.popEntire n = some (l, r')) :
    l = r.items.take n ∧ r'.items = r.items.drop n ∧ r'.capacity = r.capacity := by
  unfold popEntire at h
  split at h
  · cases h
    exact ⟨rfl, rfl, rfl⟩
  · cases h

end RingBuffer

end RptAdvanced.Lib
