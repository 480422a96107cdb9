import Mathlib.Tactic.Common

/-!
# Peer text messages (`rust/core/src/link/protocol.rs`)

The messages of the ASL text protocol, as `Protocol::parse` returns them.
-/

namespace RptAdvanced.Link

/-- One linked-node advertisement entry. -/
structure Route where
  mode : Char
  node : String
  deriving DecidableEq, Repr

/-- A complete recognized control text message. -/
inductive Protocol
  | topology (routes : List Route)
  | newKey
  | newKey1
  | query (requester : String)
  | key (destination source : String) (keyed : Bool) (ageSeconds : Nat)
  | remoteDigit (destination source : String) (sequence : Int) (digit : Char)
  | iaxKey
  | disconnect
  deriving DecidableEq, Repr

end RptAdvanced.Link
