import Mathlib.Algebra.Group.Nat.Defs
import Mathlib.Order.Basic
import Mathlib.Tactic.Common

/-!
# Saturating 64-bit arithmetic on `Nat`

An unsigned 64-bit counter is a `Nat`; `satAdd` and `satMul` stop at the largest representable
value. Saturating subtraction is `Nat` subtraction.
-/

namespace RptAdvanced.Lib

/-- The largest unsigned 64-bit value. -/
def u64Max : Nat := 2 ^ 64 - 1

/-- Addition that stops at `u64Max`. -/
def satAdd (a b : Nat) : Nat := min (a + b) u64Max

/-- Multiplication that stops at `u64Max`. -/
def satMul (a b : Nat) : Nat := min (a * b) u64Max

theorem satAdd_le (a b : Nat) : satAdd a b ≤ a + b := Nat.min_le_left _ _

theorem satAdd_pos (a : Nat) : 0 < satAdd a 1 := by
  unfold satAdd u64Max
  omega

end RptAdvanced.Lib
