import Mathlib.Tactic.Common

/-!
# Transmitter keying policy (`rust/core/src/policy/duplex.rs`)

`DuplexPolicy.update` keys on transmit activity, holds for the hang of the last activity, and, in
half duplex, drops while the receiver is active. `now - lastAudio` never underflows: the last audio
time is an earlier `now`.
-/

namespace RptAdvanced.Policy

/-- Stateful transmitter hang-time policy. -/
structure DuplexPolicy where
  keyed : Bool
  lastAudio : Nat
  releaseHang : Nat
  deriving DecidableEq, Repr

namespace DuplexPolicy

/-- `DuplexPolicy::default`. -/
def idle : DuplexPolicy := ⟨false, 0, 0⟩

/-- `update`: the policy after one observation; its `keyed` is the value the source returns. -/
def update (p : DuplexPolicy) (fullDuplex receiverActive transmitActive : Bool) (now hang : Nat) :
    DuplexPolicy :=
  if !fullDuplex && receiverActive then { p with keyed := false }
  else if transmitActive || (fullDuplex && receiverActive) then
    { keyed := true, lastAudio := now, releaseHang := hang }
  else if p.keyed && decide (p.releaseHang ≤ now - p.lastAudio) then { p with keyed := false }
  else p

end DuplexPolicy

end RptAdvanced.Policy
