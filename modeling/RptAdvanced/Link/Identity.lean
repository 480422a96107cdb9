import Mathlib.Algebra.Group.Nat.Defs
import Mathlib.Tactic.Common

/-!
# Peer identities (`rust/core/src/link/identity.rs`)

An operator dials a peer by an alias. Aliases of at least seven characters that start with `3`
belong to EchoLink and stand for a real node number; every other alias is an AllStarLink node as it
is spelled.
-/

namespace RptAdvanced.Link

/-- Protocol namespace of a peer's real node number. -/
inductive ProtocolId
  | allStarLink
  | echoLink
  deriving DecidableEq, Repr

structure PeerIdentity where
  protocol : ProtocolId
  node : String
  deriving DecidableEq, Repr

/-- `is_ascii_alphanumeric`, `_` or `-`. -/
def identityChar (c : Char) : Bool := c.isAlphanum || c == '_' || c == '-'

/-- `identity`: a nonempty bounded name. -/
def identity (name : String) : Bool :=
  !name.isEmpty && decide (name.utf8ByteSize < 64) && name.toList.all identityChar

def decimalIdentity (name : String) : Bool := identity name && name.toList.all Char.isDigit

/-- The number a string of digits spells. -/
def decimalValue (digits : List Char) : Nat :=
  digits.foldl (fun n c => 10 * n + (c.toNat - '0'.toNat)) 0

/-- `positive_id`: a nonzero 32-bit number. -/
def positiveId (digits : String) : Option Nat :=
  if digits.toList.all Char.isDigit then
    let id := decimalValue digits.toList
    if id = 0 || decide (2 ^ 32 ≤ id) then none else some id
  else none

/-- `EchoAlias::parse`: `3` and six to ten digits of a real number. -/
def EchoAlias.parse (digits : String) : Option Nat :=
  match digits.toList with
  | '3' :: real =>
    if 6 ≤ real.length ∧ real.length ≤ 10 then positiveId (String.ofList real) else none
  | _ => none

namespace PeerIdentity

/-- `parse`: a real protocol identity. -/
def parse (protocol : ProtocolId) (node : String) : Option PeerIdentity :=
  if decimalIdentity node then
    match protocol with
    | .allStarLink => some ⟨protocol, node⟩
    | .echoLink => (positiveId node).map fun id => ⟨protocol, toString id⟩
  else none

/-- `from_operator`: the EchoLink dial range is resolved first. -/
def fromOperator (operator : String) : Option PeerIdentity :=
  if operator.toList.head? = some '3' ∧ 7 ≤ operator.utf8ByteSize then
    (EchoAlias.parse operator).bind fun id => parse .echoLink (toString id)
  else parse .allStarLink operator

/-- `operator_alias`: the canonical dial spelling. -/
def operatorAlias (peer : PeerIdentity) : String :=
  match peer.protocol with
  | .allStarLink => peer.node
  | .echoLink => "3" ++ String.ofList (List.replicate (6 - peer.node.length) '0') ++ peer.node

/-- `canonical_operator`: the key of control and configuration for a peer. -/
def canonicalOperator (operator : String) : Option String :=
  (fromOperator operator).map operatorAlias

end PeerIdentity

end RptAdvanced.Link
