import Mathlib.Tactic.Common

/-!
# A flat buffer of planes

`patch` overwrites a segment of a list. `layPlanes` writes lists behind one another at a fixed
pitch, as a flat buffer of equally long planes is written.
-/

namespace RptAdvanced.Lib

variable {α : Type*}

/-- Overwrite the segment of `l` that starts at `offset` with `xs`. -/
def patch (offset : Nat) (xs l : List α) : List α :=
  l.take offset ++ (xs ++ l.drop (offset + xs.length))

/-- Write each list `pitch` places behind the one before it, the first one at `offset`. -/
def layPlanes (pitch : Nat) : Nat → List (List α) → List α → List α
  | _, [], l => l
  | offset, plane :: planes, l => layPlanes pitch (offset + pitch) planes (patch offset plane l)

end RptAdvanced.Lib
