import RptAdvanced.Lib.Saturating
import RptAdvanced.Lib.Update

/-!
# Recognition and collection of keypad commands (`rust/core/src/command.rs`)

A command map gives digit strings to actions. `parse` reads a complete command: first the actions
without an argument, by their whole digits, then the others, by the digits they start with. A
collector gathers the symbols after an asterisk until the command is complete, `#` arrives or three
seconds pass. The payload of a remote base is parsed elsewhere (`RemoteFamily`), by a parser about
which nothing is assumed.

Strings of digits are lists of characters; everything a collector keeps is ASCII.

Result: `map_unambiguous`, the order of a map's entries does not matter.
-/

namespace RptAdvanced.Dtmf

open Lib

/-- Operations of the keypad command table. -/
inductive LinkAction
  | disconnect | monitor | transceive | command | status | disconnectAll | disconnectPermanentAll
  | lastKeyed | localMonitor | disconnectPermanent | permanentMonitor | permanentTransceive
  | fullStatus | reconnectAll | reconnectPermanentAll | permanentLocalMonitor
  | disconnectNonPermanentAll | time | adminUnlock | adminLock | parrotEnable | parrotDisable
  | padTest | message | siteStatus | cancelMessage | echoTelemetry | remoteBase
deriving DecidableEq, Repr

/-- `takes_node`: the action has an argument. -/
def LinkAction.takesNode : LinkAction → Bool
  | .status | .disconnectAll | .disconnectPermanentAll | .lastKeyed | .fullStatus | .reconnectAll
  | .reconnectPermanentAll | .disconnectNonPermanentAll | .time | .parrotEnable | .parrotDisable
  | .padTest | .cancelMessage | .remoteBase => false
  | _ => true

/-- The actions whose digits may not start another mapping's, nor the other way round. -/
def LinkAction.exclusive : LinkAction → Bool
  | .message | .siteStatus | .remoteBase => true
  | _ => false

/-- Digits, without the asterisk, and the operation they select. -/
structure CommandMapping where
  digits : List Char
  action : LinkAction
deriving DecidableEq, Repr

/-- A parsed command; `node` is its decimal argument. -/
structure Command where
  action : LinkAction
  node : List Char
deriving DecidableEq, Repr

inductive CommandMapError
  | invalidPrefix
  | ambiguousPrefix
deriving DecidableEq, Repr

def mappable (c : Char) : Bool := c.isDigit || decide (c ∈ "ABCD".toList)

/-- Two mappings that cannot be told apart. -/
def CommandMapping.clashes (left right : CommandMapping) : Bool :=
  !left.digits.isEmpty && !right.digits.isEmpty &&
    (right.digits.isPrefixOf left.digits || left.digits.isPrefixOf right.digits) &&
    (left.digits == right.digits ||
      (if right.digits.length < left.digits.length then left else right).action.takesNode ||
      left.action.exclusive || right.action.exclusive)

/-- The pairwise part of `validate`. -/
def ambiguous : List CommandMapping → Bool
  | [] => false
  | left :: rest => rest.any left.clashes || ambiguous rest

def validate (mappings : List CommandMapping) : Except CommandMapError Unit :=
  if mappings.any fun m => decide (63 < m.digits.length) || !m.digits.all mappable then
    .error .invalidPrefix
  else if ambiguous mappings then .error .ambiguousPrefix
  else .ok ()

structure DtmfCommandMap where
  mappings : List CommandMapping
  valid : validate mappings = .ok ()
deriving DecidableEq

/-- The digits behind a given start. -/
def after (start digits : List Char) : Option (List Char) :=
  if start.isPrefixOf digits then some (digits.drop start.length) else none

/-- The payloads of a remote base (`remote_base_command.rs`): their parser, and which of them change
the radio. -/
class RemoteFamily (R : Type) where
  parseRemoteCommand : List Char → Option R
  administrative : R → Bool

/-- A mapping with an argument reads a command. -/
def CommandMapping.read (m : CommandMapping) (digits : List Char) : Option Command := do
  let node ← after m.digits digits
  if m.digits.isEmpty || !m.action.takesNode || node.isEmpty || !node.all Char.isDigit then none
  else return ⟨m.action, node⟩

/-- `DtmfCommandMap::parse`, of the mappings it holds. -/
def parse (mappings : List CommandMapping) (digits : List Char) : Option Command :=
  match mappings.find? fun m =>
    !m.digits.isEmpty && m.action != .remoteBase && !m.action.takesNode && m.digits == digits with
  | some m => some ⟨m.action, []⟩
  | none => mappings.findSome? (·.read digits)

/-- `may_extend`: more digits may make another command without an argument. -/
def mayExtend (mappings : List CommandMapping) (digits : List Char) : Bool :=
  mappings.any fun m =>
    !m.action.takesNode && decide (digits.length < m.digits.length) && digits.isPrefixOf m.digits

structure CommandCollector where
  mappings : List CommandMapping
  digits : List Char
  lastMs : Nat
  active : Bool
deriving DecidableEq, Repr

namespace DtmfCommandMap

def new (mappings : List CommandMapping) : Except CommandMapError DtmfCommandMap :=
  match h : validate mappings with
  | .error e => .error e
  | .ok () => .ok ⟨mappings, h⟩

/-- `parse_remote`: the payload of the configured remote-base family. -/
def parseRemote {R : Type} [RemoteFamily R] (map : DtmfCommandMap) (digits : List Char) :
    Option R := do
  let m ← map.mappings.find? fun m => m.action == .remoteBase && !m.digits.isEmpty
  RemoteFamily.parseRemoteCommand (← after m.digits digits)

def collector (map : DtmfCommandMap) : CommandCollector := ⟨map.mappings, [], 0, false⟩

end DtmfCommandMap

namespace CommandCollector

/-- `remote_family`: the digits start the remote-base family. -/
def remoteFamily (c : CommandCollector) : Bool :=
  c.mappings.any fun m =>
    m.action == .remoteBase && !m.digits.isEmpty && m.digits.isPrefixOf c.digits

/-- `remote_candidate`: the destination gathered so far for forwarded commands. -/
def remoteCandidate (c : CommandCollector) : Option (List Char) :=
  if c.active then
    c.mappings.findSome? fun m => do
      let node ← after m.digits c.digits
      if m.action != .command || m.digits.isEmpty || node.isEmpty ||
          !node.all Char.isDigit then none
      else return node
  else none

/-- The end of a collection, with its text. -/
def finish (c : CommandCollector) : Option (List Char) × CommandCollector :=
  (if c.digits.isEmpty then none else some c.digits, { c with active := false })

/-- `feed`: one symbol, or NUL as the timeout tick. -/
def feed (digit : Char) (nowMs : Nat) (c : CommandCollector) :
    Option (List Char) × CommandCollector :=
  if digit = '*' ∧ ¬(c.active = true ∧ c.remoteFamily = true) then
    (none, { c with digits := [], active := true, lastMs := nowMs })
  else if c.active = false then (none, c)
  else if digit = '#' then c.finish
  else if digit = '\x00' then
    -- the source subtracts in 64 bits and wraps
    if 3000 ≤ (2 ^ 64 + nowMs - c.lastMs) % 2 ^ 64 then c.finish else (none, c)
  else if !(mappable digit || digit == '*') || c.digits.length == 127 then
    (none, { c with active := false })
  else
    let c := { c with digits := c.digits ++ [digit], lastMs := nowMs }
    if (parse c.mappings c.digits).any fun command =>
      command.node.isEmpty && !mayExtend c.mappings c.digits then c.finish
    else (none, c)

theorem feed_mappings (c : CommandCollector) (digit : Char) (nowMs : Nat) :
    (c.feed digit nowMs).2.mappings = c.mappings := by
  unfold feed finish
  dsimp only
  repeat' split
  all_goals rfl

end CommandCollector

/-! ## The map as a code -/

/-- Two mappings that both read `digits`, or take them from each other. -/
def CommandMapping.Rivals (digits : List Char) (a b : CommandMapping) : Prop :=
  (a.digits ≠ [] ∧ a.digits <+: digits) ∧ (b.digits ≠ [] ∧ b.digits <+: digits) ∧
    (a.digits = b.digits ∨ (a.action.takesNode = true ∧ b.action.takesNode = true) ∨
      a.action.exclusive = true ∨ b.action.exclusive = true)

theorem CommandMapping.Rivals.symm {digits : List Char} {a b : CommandMapping}
    (h : a.Rivals digits b) : b.Rivals digits a :=
  ⟨h.2.1, h.1, h.2.2.imp Eq.symm (Or.imp And.symm Or.symm)⟩

theorem CommandMapping.Rivals.clashes {digits : List Char} {a b : CommandMapping}
    (h : a.Rivals digits b) : a.clashes b = true := by
  obtain ⟨⟨ha, hpa⟩, ⟨hb, hpb⟩, hsame⟩ := h
  have hnested := List.prefix_or_prefix_of_prefix hpb hpa
  simp only [CommandMapping.clashes, Bool.and_eq_true, Bool.or_eq_true, Bool.not_eq_true',
    List.isEmpty_eq_false_iff, List.isPrefixOf_iff_prefix, beq_iff_eq, or_assoc]
  refine ⟨⟨⟨ha, hb⟩, hnested⟩, hsame.imp_right (Or.imp_left fun htakes => ?_)⟩
  split
  · exact htakes.1
  · exact htakes.2

theorem after_prefix {start digits rest : List Char} (h : after start digits = some rest) :
    start <+: digits := by
  obtain ⟨hstart, -⟩ := Option.ite_none_right_eq_some.mp h
  exact List.isPrefixOf_iff_prefix.mp hstart

/-- A mapping that reads a command starts it and takes an argument. -/
theorem CommandMapping.read_starts {m : CommandMapping} {digits : List Char} {c : Command}
    (h : m.read digits = some c) :
    (m.digits ≠ [] ∧ m.digits <+: digits) ∧ m.action.takesNode = true := by
  obtain ⟨node, hnode, h⟩ := Option.bind_eq_some_iff.mp h
  obtain ⟨hguard, -⟩ := Option.ite_none_left_eq_some.mp h
  simp only [Bool.or_eq_true, not_or, List.isEmpty_iff, Bool.not_eq_true', Bool.not_eq_false]
    at hguard
  exact ⟨⟨hguard.1.1.1, after_prefix hnode⟩, hguard.1.1.2⟩

theorem ambiguous_eq_false {mappings : List CommandMapping} (h : ambiguous mappings = false) :
    mappings.Pairwise fun a b => a.clashes b = false := by
  induction mappings with
  | nil => exact .nil
  | cons a rest ih =>
    simp only [ambiguous, Bool.or_eq_false_iff, List.any_eq_false, Bool.not_eq_true] at h
    exact .cons h.1 (ih h.2)

namespace DtmfCommandMap

theorem rivals_free (map : DtmfCommandMap) (digits : List Char) :
    map.mappings.Pairwise fun a b => ¬a.Rivals digits b := by
  have hvalid := map.valid
  unfold validate at hvalid
  split_ifs at hvalid with _ hambiguous
  refine (ambiguous_eq_false (Bool.not_eq_true _ ▸ hambiguous)).imp fun hab hrival => ?_
  rw [hrival.clashes] at hab
  cases hab

/-- A mapping that reads a command starts it, and is not the remote base's. -/
theorem parse_reads {mappings : List CommandMapping} {digits : List Char}
    (h : parse mappings digits ≠ none) :
    ∃ m ∈ mappings, (m.digits ≠ [] ∧ m.digits <+: digits) ∧ m.action ≠ .remoteBase := by
  unfold parse at h
  split at h
  · rename_i m hm
    have hexact := List.find?_some hm
    simp only [Bool.and_eq_true, Bool.not_eq_true', List.isEmpty_eq_false_iff, bne_iff_ne,
      beq_iff_eq] at hexact
    obtain ⟨⟨⟨hne, haction⟩, -⟩, rfl⟩ := hexact
    exact ⟨m, List.mem_of_find?_eq_some hm, ⟨hne, List.prefix_rfl⟩, haction⟩
  · obtain ⟨c, hc⟩ := Option.ne_none_iff_exists'.mp h
    obtain ⟨m, hm, hread⟩ := List.exists_of_findSome?_eq_some hc
    obtain ⟨hstart, htakes⟩ := CommandMapping.read_starts hread
    refine ⟨m, hm, hstart, fun hremote => ?_⟩
    rw [hremote] at htakes
    cases htakes

/-- **A command means the same in every order of the map's entries, and is never both an operation
and a payload of the remote base.** -/
theorem map_unambiguous {R : Type} [RemoteFamily R] (map map' : DtmfCommandMap)
    (h : map.mappings.Perm map'.mappings) (digits : List Char) :
    parse map.mappings digits = parse map'.mappings digits ∧
      (parse map.mappings digits = none ∨ map.parseRemote (R := R) digits = none) := by
  have hfree := map.rivals_free digits
  constructor
  · unfold parse
    rw [List.find?_eq_findSome?_guard, List.find?_eq_findSome?_guard,
      findSome?_perm h (hfree.imp ?exact), findSome?_perm h (hfree.imp ?read)]
    case exact =>
      intro a b hab
      by_contra! hboth
      simp only [ne_eq, Option.guard_eq_none_iff, Bool.not_eq_false, Bool.and_eq_true,
        Bool.not_eq_true', List.isEmpty_eq_false_iff, beq_iff_eq] at hboth
      obtain ⟨⟨⟨⟨ha, -⟩, -⟩, rfl⟩, ⟨⟨hb, -⟩, -⟩, hsame⟩ := hboth
      exact hab ⟨⟨ha, List.prefix_rfl⟩, ⟨hb, hsame ▸ List.prefix_rfl⟩, .inl hsame.symm⟩
    case read =>
      intro a b hab
      by_contra! hboth
      obtain ⟨c, hc⟩ := Option.ne_none_iff_exists'.mp hboth.1
      obtain ⟨c', hc'⟩ := Option.ne_none_iff_exists'.mp hboth.2
      obtain ⟨ha, htakes⟩ := CommandMapping.read_starts hc
      obtain ⟨hb, htakes'⟩ := CommandMapping.read_starts hc'
      exact hab ⟨ha, hb, .inr (.inl ⟨htakes, htakes'⟩)⟩
  · by_contra! hboth
    obtain ⟨m, hm, hstart, hne⟩ := parse_reads hboth.1
    obtain ⟨c, hc⟩ := Option.ne_none_iff_exists'.mp hboth.2
    obtain ⟨r, hr, hpayload⟩ := Option.bind_eq_some_iff.mp hc
    obtain ⟨rest, hrest, -⟩ := Option.bind_eq_some_iff.mp hpayload
    have hremote := List.find?_some hr
    rw [Bool.and_eq_true, beq_iff_eq, Bool.not_eq_true', List.isEmpty_eq_false_iff] at hremote
    have hsymm : Std.Symm fun a b : CommandMapping => ¬a.Rivals digits b :=
      ⟨fun a b hab hba => hab hba.symm⟩
    refine hfree.forall hm (List.mem_of_find?_eq_some hr) (fun heq => hne (heq ▸ hremote.1)) ?_
    -- the digits of the remote base may start no other mapping's
    exact ⟨hstart, ⟨hremote.2, after_prefix hrest⟩, .inr (.inr (.inr (hremote.1 ▸ rfl)))⟩

/-- Two entries, in either order. -/
theorem map_unambiguous_swapped :
    ∃ map map' : DtmfCommandMap, map.mappings ≠ map'.mappings ∧
      parse map.mappings "712".toList = parse map'.mappings "712".toList ∧
      parse map.mappings "712".toList = some ⟨.status, []⟩ := by
  let _ : RemoteFamily Unit := ⟨fun _ => some (), fun _ => false⟩
  refine ⟨⟨[⟨"7".toList, .monitor⟩, ⟨"712".toList, .status⟩], by decide⟩,
    ⟨[⟨"712".toList, .status⟩, ⟨"7".toList, .monitor⟩], by decide⟩, by decide, ?_, by decide⟩
  exact (map_unambiguous (R := Unit) _ _ (.swap ..) _).1

end DtmfCommandMap

end RptAdvanced.Dtmf
