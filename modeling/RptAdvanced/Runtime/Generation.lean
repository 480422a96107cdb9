import Mathlib.Tactic.Common

/-!
# Prepared generations and device leases (`rust/core/src/runtime/generation.rs`, `node_host.rs`)

A generation owns a node's receive and transmit state for the callbacks that adopt it. The atomics
of its `WorkState` (`admitted`, `outstanding`) and its `detached` flag are fields of the record;
who may change them when is `Runtime.NodeHost`. `R` and `T` are the states of the two audio owners.

A device adapter answers the control owner's calls as it likes: its type `D` is a parameter, and a
call returns the answer and the adapter after it.
-/

namespace RptAdvanced.Runtime

/-- Setup-time identity and callback bounds at the fixed native rate. -/
structure GenerationSettings where
  node : String
  device : String
  receiveMaximum : Nat
  transmitMaximum : Nat
  squelchDelayMs : Nat
  statusSnapshotIntervalMs : Nat
  deriving DecidableEq, Repr

/-- A candidate or lifecycle operation that cannot safely proceed. -/
inductive LifecycleError
  | invalidGeneration
  | retirementPending
  | stopped
  | unknownGeneration
  | callbacksActive
  | handoffRequired
  | handoffRestored
  | handoffFailed
  deriving DecidableEq, Repr

/-- A coherent generation with the private states of its two owners. -/
structure RuntimeGeneration (R T : Type) where
  id : Nat
  settings : GenerationSettings
  receive : R
  transmit : T
  admitted : Bool
  outstanding : Nat
  detached : Bool
  deriving Repr

/-- The operations of `DeviceHandoff` that a handoff calls. -/
class DeviceHandoff (D : Type) where
  /-- Poll transmitter idle and callback detachment. -/
  quiesce : D → Bool × D
  /-- Close the old lease after quiescence. -/
  close : D → D
  /-- `open`: begin opening with RF-safe output. -/
  openDevice : GenerationSettings → D → Bool × D

/-- A device that answers from scripts, and as an ordinary synchronous adapter once a script is
used up. -/
structure TestDevice where
  quiesces : List Bool := []
  opens : List Bool := []

instance : DeviceHandoff TestDevice where
  quiesce d := (d.quiesces.headD true, { d with quiesces := d.quiesces.tail })
  close d := d
  openDevice _ d := (d.opens.headD true, { d with opens := d.opens.tail })

end RptAdvanced.Runtime
