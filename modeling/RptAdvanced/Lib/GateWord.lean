import Mathlib.Tactic.Common

/-!
# A flag over a count in one word

A word whose top bit says that a gate is closed and whose lower bits count those inside. `flag` is
the weight of the top bit, so that a word is below `2 * flag`; arithmetic wraps there.

* `enter_spec`, `leave_spec`: counting up and down keeps the flag, unless the count overflows.
* `raise_spec`: raising the flag keeps the count.
-/

namespace RptAdvanced.Lib.GateWord

def raised (flag word : Nat) : Bool := decide (flag ≤ word)

def count (flag word : Nat) : Nat := word % flag

/-- `fetch_add(1)`. -/
def enter (flag word : Nat) : Nat := (word + 1) % (2 * flag)

/-- `fetch_sub(1)`. -/
def leave (flag word : Nat) : Nat := (word + 2 * flag - 1) % (2 * flag)

/-- `fetch_or(flag)`. -/
def raise (flag word : Nat) : Nat := if raised flag word then word else word + flag

variable {flag word : Nat}

theorem raised_iff : raised flag word = true ↔ flag ≤ word := decide_eq_true_iff

theorem count_of_lt (h : word < flag) : count flag word = word := Nat.mod_eq_of_lt h

theorem count_of_le (h : flag ≤ word) (hword : word < 2 * flag) :
    count flag word = word - flag := by
  unfold count
  rw [Nat.mod_eq_sub_mod h, Nat.mod_eq_of_lt (by omega)]

/-- The word is its flag and its count. -/
theorem count_cases (hword : word < 2 * flag) :
    word < flag ∧ count flag word = word ∨ flag ≤ word ∧ count flag word = word - flag := by
  rcases Nat.lt_or_ge word flag with h | h
  · exact .inl ⟨h, count_of_lt h⟩
  · exact .inr ⟨h, count_of_le h hword⟩

/-- The flag alone: raised, with nobody inside. -/
theorem eq_flag_iff (hword : word < 2 * flag) :
    word = flag ↔ raised flag word = true ∧ count flag word = 0 := by
  rw [raised_iff]
  rcases count_cases hword with ⟨_, hcount⟩ | ⟨_, hcount⟩ <;> omega

theorem enter_eq (hword : word < 2 * flag) (hroom : count flag word + 1 < flag) :
    enter flag word = word + 1 := by
  refine Nat.mod_eq_of_lt ?_
  rcases count_cases hword with ⟨_, hcount⟩ | ⟨_, hcount⟩ <;> omega

theorem leave_eq (hword : word < 2 * flag) (hinside : 0 < count flag word) :
    leave flag word = word - 1 := by
  have hpos : 0 < word := by
    rcases count_cases hword with ⟨_, hcount⟩ | ⟨_, hcount⟩ <;> omega
  unfold leave
  rw [show word + 2 * flag - 1 = word - 1 + 2 * flag by omega, Nat.add_mod_right,
    Nat.mod_eq_of_lt (by omega)]

theorem enter_spec (hword : word < 2 * flag) (hroom : count flag word + 1 < flag) :
    count flag (enter flag word) = count flag word + 1 ∧
      (raised flag word = true → raised flag (enter flag word) = true) ∧
      enter flag word < 2 * flag := by
  rw [enter_eq hword hroom]
  simp only [raised_iff]
  rcases count_cases hword with ⟨_, hcount⟩ | ⟨_, hcount⟩
  · rw [count_of_lt (by omega : word + 1 < flag)]
    omega
  · rw [count_of_le (by omega : flag ≤ word + 1) (by omega)]
    omega

theorem leave_spec (hword : word < 2 * flag) (hinside : 0 < count flag word) :
    count flag (leave flag word) = count flag word - 1 ∧
      (raised flag word = true → raised flag (leave flag word) = true) ∧
      leave flag word < 2 * flag := by
  rw [leave_eq hword hinside]
  simp only [raised_iff]
  rcases count_cases hword with ⟨_, hcount⟩ | ⟨_, hcount⟩
  · rw [count_of_lt (by omega : word - 1 < flag)]
    omega
  · rw [count_of_le (by omega : flag ≤ word - 1) (by omega)]
    omega

theorem raise_spec (hword : word < 2 * flag) :
    count flag (raise flag word) = count flag word ∧ raised flag (raise flag word) = true ∧
      raise flag word < 2 * flag := by
  unfold raise
  by_cases hflag : raised flag word = true
  · rw [if_pos hflag]
    exact ⟨rfl, hflag, hword⟩
  · rw [if_neg hflag]
    rw [raised_iff, Nat.not_le] at hflag
    refine ⟨Nat.add_mod_right .., raised_iff.mpr (by omega), by omega⟩

end RptAdvanced.Lib.GateWord
