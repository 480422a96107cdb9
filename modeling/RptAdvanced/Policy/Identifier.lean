import RptAdvanced.Lib.Saturating

/-!
# Periodic and first-key identifier selection (`rust/core/src/policy/identifier.rs`)

The rule list is immutable; `IdentifierPolicy` keeps one state per rule and the round-robin position
of the first-key rules. `selectWhere` scans the rules in order and keeps the first of the highest
priority among those due, eligible and past their retry time. `complete` satisfies the selected rule
and every rule of lower priority.
-/

namespace RptAdvanced.Policy

open Lib

structure IdentifierState where
  satisfied : Nat
  retryAfter : Nat
  activity : Bool
  firstKeyPending : Bool
  deriving DecidableEq, Repr

/-- `IdentifierState::default`. -/
def IdentifierState.fresh : IdentifierState := ⟨0, 0, false, false⟩

/-- One resolved identifier rule. -/
structure IdentifierRule where
  interval : Nat
  priority : Int
  firstKeyOnly : Bool
  regardlessOfActivity : Bool
  deriving DecidableEq, Repr

/-- Per-node identifier state. -/
structure IdentifierPolicy where
  states : List IdentifierState
  nextFirstKey : Nat
  firstKeyCompleted : Bool
  firstKeyCompletedAt : Nat
  deriving DecidableEq, Repr

namespace IdentifierPolicy

/-- `new`: one fresh state for each rule. -/
def new (rules : List IdentifierRule) : IdentifierPolicy where
  states := rules.map fun _ => IdentifierState.fresh
  nextFirstKey := 0
  firstKeyCompleted := false
  firstKeyCompletedAt := 0

/-- `activity`: conversation activity qualifies every rule. -/
def activity (p : IdentifierPolicy) : IdentifierPolicy :=
  { p with
    firstKeyCompleted := false
    states := p.states.map fun s => { s with activity := true } }

/-- The rules in round-robin order from `next`. -/
def rotation (next count : Nat) : List Nat :=
  (List.range count).filter (fun i => decide (next ≤ i)) ++
    (List.range next).filter (fun i => decide (i < count))

/-- A first-key rule that the idle time and the last first-key completion allow. -/
def firstKeyEligible (p : IdentifierPolicy) (rules : List IdentifierRule) (idle now index : Nat) :
    Bool :=
  match rules[index]? with
  | none => false
  | some rule =>
    rule.firstKeyOnly && decide (rule.interval ≤ idle) &&
      decide (rule.interval ≤ now - p.firstKeyCompletedAt)

/-- `first_key`: arm one idle-eligible initial rule in round-robin order. -/
def firstKey (p : IdentifierPolicy) (rules : List IdentifierRule) (idle now : Nat) :
    Option Nat × IdentifierPolicy :=
  if p.firstKeyCompleted || p.states.any IdentifierState.firstKeyPending then (none, p)
  else
    match (rotation p.nextFirstKey rules.length).find? (p.firstKeyEligible rules idle now) with
    | none => (none, p)
    | some selected =>
      (some selected,
        { p with
          states := p.states.modify selected fun s => { s with firstKeyPending := true }
          nextFirstKey := (selected + 1) % rules.length })

/-- A rule is due. -/
def due (rule : IdentifierRule) (state : IdentifierState) (now : Nat) : Bool :=
  if rule.firstKeyOnly then state.firstKeyPending
  else decide (rule.interval ≤ now - state.satisfied) &&
    (rule.regardlessOfActivity || state.activity)

/-- One round of `select_where`'s scan: keep `selected` unless this rule outranks it. -/
def selectRound (rules : List IdentifierRule) (now : Nat) (eligible : Nat → Bool)
    (selected : Option Nat) (entry : (IdentifierRule × IdentifierState) × Nat) : Option Nat :=
  let outranks := match selected.bind (rules[·]?) with
    | none => true
    | some current => decide (current.priority < entry.1.1.priority)
  if due entry.1.1 entry.1.2 now && eligible entry.2 && decide (entry.1.2.retryAfter ≤ now) &&
    outranks then some entry.2 else selected

def selectWhere (p : IdentifierPolicy) (rules : List IdentifierRule) (now : Nat)
    (receiverActive fullDuplex : Bool) (eligible : Nat → Bool) : Option Nat :=
  if receiverActive && !fullDuplex then none
  else ((rules.zip p.states).zipIdx).foldl (selectRound rules now eligible) none

def select (p : IdentifierPolicy) (rules : List IdentifierRule) (now : Nat)
    (receiverActive fullDuplex : Bool) : Option Nat :=
  p.selectWhere rules now receiverActive fullDuplex fun _ => true

/-- `defer`: an unsuccessful attempt waits for its interval. -/
def defer (p : IdentifierPolicy) (rules : List IdentifierRule) (selected now : Nat) :
    IdentifierPolicy :=
  match rules[selected]? with
  | none => p
  | some rule =>
    { p with
      states := p.states.modify selected fun s =>
        { s with retryAfter := satAdd now rule.interval } }

/-- The rules a completion of `selected` satisfies: itself and every lower priority. -/
def covers (rules : List IdentifierRule) (selected : Nat) (chosen : IdentifierRule) (index : Nat) :
    Bool :=
  index == selected ||
    match rules[index]? with
    | none => false
    | some rule => decide (rule.priority < chosen.priority)

/-- `complete`: satisfy the selected rule and every rule of lower priority. -/
def complete (p : IdentifierPolicy) (rules : List IdentifierRule) (selected now : Nat) :
    IdentifierPolicy :=
  match rules[selected]? with
  | none => p
  | some chosen =>
    let covered := p.states.zipIdx.filter fun e =>
      decide (e.2 < rules.length) && covers rules selected chosen e.2
    let consumed := covered.any fun e => e.1.firstKeyPending || chosen.firstKeyOnly
    { p with
      firstKeyCompleted := p.firstKeyCompleted || consumed
      firstKeyCompletedAt := if consumed then now else p.firstKeyCompletedAt
      states := p.states.mapIdx fun index s =>
        if decide (index < rules.length) && covers rules selected chosen index then
          { IdentifierState.fresh with satisfied := now }
        else s }

end IdentifierPolicy

end RptAdvanced.Policy
