import RptAdvanced.Dtmf.Command
import RptAdvanced.Runtime.DtmfQueue

/-!
# Command state of one source (`DtmfCommands` of `rust/core/src/runtime/dtmf.rs`)

Each source of keypad symbols has a collector, a remembered and a selected destination and an
administrative grant. `feed` reads one event. Codes are compared with their hashes by an oracle
(`Credentials`). Besides the outcome, a `Report` says what the check of an administrative code
answered, which the source only stores in the grant.

Results:
* `feed_verdict`: a code check answers for the command that the event completed.
* `feed_follows`: an event leaves the configuration alone, the grant changes by the answers of code
  checks and by expiry only, and an administrative outcome needs one that has not expired.
-/

namespace RptAdvanced.Runtime

/-- The time of an event; a loss has none. -/
def DigitEvent.nowMs : DigitEvent → Nat
  | .digit _ nowMs | .unkey nowMs => nowMs
  | .lost => 0

/-- The symbol of an event. The end of a reception counts as `#`; a loss has none. -/
def DigitEvent.symbol : DigitEvent → Char
  | .digit d _ => d
  | .unkey _ | .lost => '#'

end RptAdvanced.Runtime

namespace RptAdvanced.Dtmf

open Lib RptAdvanced.Runtime Option Bool

/-- The check of codes against Argon2id digests. -/
class Credentials where
  validHash : String → Bool
  verifyHash : String → List Char → Bool

open Credentials

/-- Mutation policy of the remote base. -/
inductive RemoteDtmfAccess
  | open | locked | disabled
deriving DecidableEq, Repr

/-- A complete operation. `reply` is the connection it came by, `origin` its claimed source. -/
structure DigitOperation (R : Type) where
  command : Command
  digit : Option Char
  remote : Option R
  reply : Option Nat
  origin : Option String
  adminAuthorized : Bool
deriving DecidableEq, Repr

structure PadTestResult where
  digits : List Char
  overflowed : Bool
deriving DecidableEq, Repr

/-- Interpretation of an event. -/
inductive DigitOutcome (R : Type)
  | operation (operation : DigitOperation R)
  | remoteCandidate (operation : DigitOperation R)
  | padTest (result : PadTestResult)
  | regenerate (digit : Char)
deriving DecidableEq, Repr

/-- What the check of an administrative code answered. -/
inductive Verdict
  | unlocked
  | refused
  | locked
deriving DecidableEq, Repr

/-- An outcome, and the answer of a code check. -/
structure Report (R : Type) where
  outcome : Option (DigitOutcome R)
  verdict : Option Verdict
deriving DecidableEq, Repr

def DigitOperation.new {R : Type} (command : Command) (digit : Option Char) : DigitOperation R :=
  ⟨command, digit, none, none, none, false⟩

/-- The actions that need an administrative grant. -/
def LinkAction.administrative : LinkAction → Bool
  | .parrotEnable | .parrotDisable | .echoTelemetry => true
  | _ => false

/-- The request to the remote base needs an administrative grant under the given access. -/
def DigitOperation.guarded {R : Type} [RemoteFamily R] (access : RemoteDtmfAccess)
    (operation : DigitOperation R) : Bool :=
  access == .locked && operation.remote.any RemoteFamily.administrative

/-- The operation needs an administrative grant. -/
def DigitOperation.administrative {R : Type} [RemoteFamily R] (access : RemoteDtmfAccess)
    (operation : DigitOperation R) : Bool :=
  operation.command.action.administrative || operation.guarded access

/-- The same of an outcome. -/
def DigitOutcome.administrative {R : Type} [RemoteFamily R] (access : RemoteDtmfAccess) :
    DigitOutcome R → Bool
  | .operation op | .remoteCandidate op => op.administrative access
  | _ => false

/-- `message_selector_valid`. -/
def selectorValid (text : List Char) : Bool :=
  text.isEmpty ||
    (decide (text.length ≤ 127) && decide (text.head? ≠ some '0') && text.all Char.isDigit)

/-- What configuration gives to every source of a node. -/
structure Policy where
  map : DtmfCommandMap
  adminUnlockHash : String
  adminLockHash : String
  adminTimeoutMs : Nat
  remoteAccess : RemoteDtmfAccess
deriving DecidableEq

/-- The codes are configured, and the one entered is that of the hash. -/
def Policy.accepts [Credentials] (hash : String) (code : List Char) (policy : Policy) : Bool :=
  policy.adminUnlockHash != "" && policy.adminLockHash != "" && verifyHash hash code

/-- What the answer says of a command: its argument was compared with the configured hash. -/
def Policy.Says [Credentials] (policy : Policy) (command : Command) : Verdict → Prop
  | .unlocked => command.action = .adminUnlock ∧
      policy.accepts policy.adminUnlockHash command.node = true
  | .refused => command.action = .adminUnlock ∧
      policy.accepts policy.adminUnlockHash command.node = false
  | .locked => command.action = .adminLock ∧ policy.accepts policy.adminLockHash command.node = true

structure DtmfCommands extends Policy where
  collector : CommandCollector
  lastNode : List Char
  remote : List Char
  peerSource : Bool
  pad : Option PadTestResult
  digitDeadline : Option Nat
  adminUntilMs : Nat
deriving DecidableEq

namespace DtmfCommands

def new (map : DtmfCommandMap) : DtmfCommands where
  map
  collector := map.collector
  lastNode := []
  remote := []
  peerSource := false
  pad := none
  digitDeadline := none
  adminUnlockHash := ""
  adminLockHash := ""
  adminTimeoutMs := 300000
  adminUntilMs := 0
  remoteAccess := .disabled

def selectRemote (remote : List Char) (c : DtmfCommands) : DtmfCommands :=
  { c with remote, collector := c.map.collector }

def disconnect (remote : List Char) (c : DtmfCommands) : DtmfCommands :=
  if c.remote = remote then { c with remote := [] } else c

/-- The mappings with the digits of the remote-base family, which is added when it is missing. -/
def remoteMappings (digits : List Char) (mappings : List CommandMapping) : List CommandMapping :=
  if mappings.any (·.action == .remoteBase) then
    modifyFirst (·.action == .remoteBase) (fun m => { m with digits }) mappings
  else mappings ++ [⟨digits, .remoteBase⟩]

/-- A new map starts a new collection. -/
def adopt (map : DtmfCommandMap) (access : RemoteDtmfAccess) (c : DtmfCommands) : DtmfCommands :=
  { c with map, collector := map.collector, remoteAccess := access }

/-- `configure_remote`; an invalid map changes nothing. -/
def configureRemote (digits : List Char) (access : RemoteDtmfAccess) (c : DtmfCommands) :
    Except CommandMapError DtmfCommands :=
  (DtmfCommandMap.new (remoteMappings digits c.map.mappings)).map (c.adopt · access)

def retainsState (nowMs : Nat) (c : DtmfCommands) : Bool :=
  c.collector.active || !c.remote.isEmpty || !c.lastNode.isEmpty || c.pad.isSome ||
    decide (nowMs < c.adminUntilMs)

def remoteCollecting (c : DtmfCommands) : Bool := c.collector.active && c.collector.remoteFamily

/-- `consume_administrative_authorization`: whether the grant holds. -/
def consume (authorized : Bool) (nowMs : Nat) (c : DtmfCommands) : Bool × DtmfCommands :=
  let authorized := authorized && c.adminUntilMs != 0 && decide (nowMs < c.adminUntilMs)
  (authorized,
    if !authorized && decide (c.adminUntilMs ≤ nowMs) then { c with adminUntilMs := 0 } else c)

def remoteAuthorized (administrative authorized : Bool) (nowMs : Nat) (c : DtmfCommands) :
    Bool × DtmfCommands :=
  if administrative then
    match c.remoteAccess with
    | .open => (true, c)
    | .locked => c.consume authorized nowMs
    | .disabled => (false, c)
  else (true, c)

/-- `confirm_administrative_action` renews. -/
def renewable (nowMs : Nat) (c : DtmfCommands) : Bool :=
  c.adminUntilMs != 0 && decide (nowMs < c.adminUntilMs)

/-- `confirm_administrative_action`. -/
def confirm (nowMs : Nat) (c : DtmfCommands) : DtmfCommands :=
  if c.renewable nowMs then { c with adminUntilMs := satAdd nowMs c.adminTimeoutMs } else c

def credentialsConfigured (c : DtmfCommands) : Bool :=
  c.adminUnlockHash != "" && c.adminLockHash != ""

section Reading

variable [Credentials] {R : Type} [RemoteFamily R]

/-- `configure_admin`: every grant ends. -/
def configureAdmin (unlockHash lockHash : String) (timeoutMs : Nat) (c : DtmfCommands) :
    DtmfCommands :=
  let c := { c with adminUnlockHash := "", adminLockHash := "", adminUntilMs := 0 }
  if validHash unlockHash && validHash lockHash && decide (0 < timeoutMs) then
    { c with adminUnlockHash := unlockHash, adminLockHash := lockHash, adminTimeoutMs := timeoutMs }
  else c

/-- `for_source`: a peer's own state under the same policy. -/
def forSource (c : DtmfCommands) : DtmfCommands :=
  { new c.map with peerSource := true, remoteAccess := c.remoteAccess }.configureAdmin
    c.adminUnlockHash c.adminLockHash c.adminTimeoutMs

/-- The end of a complete command: `0` stands for the last named peer. -/
def address (command : Command) (adminAuthorized : Bool) (c : DtmfCommands) :
    Report R × DtmfCommands :=
  if command.node = ['0'] ∧ c.lastNode = [] then (⟨none, none⟩, c)
  else
    let node := if command.node = ['0'] then c.lastNode else command.node
    (⟨some (.operation ⟨⟨command.action, node⟩, none, none, none, none, adminAuthorized⟩), none⟩,
      { c with lastNode := if node = [] then c.lastNode else node })

/-- A complete command of the map. -/
def execute (command : Command) (nowMs : Nat) (c : DtmfCommands) : Report R × DtmfCommands :=
  if command.action = .message ∨ command.action = .siteStatus then
    (⟨if selectorValid command.node then some (.operation (.new command none)) else none, none⟩, c)
  else if 64 ≤ command.node.length then (⟨none, none⟩, c)
  else if command.action = .padTest then
    (⟨none, none⟩, if c.peerSource then c else { c with pad := some ⟨[], false⟩ })
  else if command.action = .adminUnlock then
    if c.credentialsConfigured && verifyHash c.adminUnlockHash command.node then
      (⟨none, some .unlocked⟩, { c with adminUntilMs := satAdd nowMs c.adminTimeoutMs })
    else (⟨none, some .refused⟩, { c with adminUntilMs := 0 })
  else if command.action = .adminLock then
    if c.credentialsConfigured && verifyHash c.adminLockHash command.node then
      (⟨none, some .locked⟩, { c with adminUntilMs := 0 })
    else (⟨none, none⟩, c)
  else if command.action.administrative && c.adminUntilMs == 0 then (⟨none, none⟩, c)
  else c.address command command.action.administrative

/-- The text of a complete collection: a payload of the remote base, or a command of the map. -/
def perform (text : List Char) (nowMs : Nat) (c : DtmfCommands) : Report R × DtmfCommands :=
  match c.map.parseRemote (R := R) text with
  | some remote =>
    let authorized := c.adminUntilMs != 0
    let (ok, c) := c.remoteAuthorized (RemoteFamily.administrative remote) authorized nowMs
    (⟨if ok then some (.operation ⟨⟨.remoteBase, []⟩, none, some remote, none, none, authorized⟩)
      else none, none⟩, c)
  | none =>
    match parse c.map.mappings text with
    | some command => c.execute command nowMs
    | none => (⟨none, none⟩, c)

/-- The symbol of an event while no keypad capture runs. `symbol` is `false` for the end of a
reception, which counts as `#`. -/
def key (digit : Char) (symbol : Bool) (nowMs : Nat) (c : DtmfCommands) : Report R × DtmfCommands :=
  if c.remote ≠ [] then
    if digit = '#' then (⟨none, none⟩, { c with remote := [] })
    else
      (⟨if digit ∈ "0123456789ABCD*".toList then
          some (.operation (.new ⟨.command, c.remote⟩ (some digit)))
        else none, none⟩, c)
  else
    let c := if c.adminUntilMs ≤ nowMs then { c with adminUntilMs := 0 } else c
    if c.peerSource && !c.collector.active && symbol &&
        decide (digit ∈ "0123456789ABCD#".toList) then
      (⟨some (.regenerate digit), none⟩, c)
    else
      match c.collector.feed digit nowMs with
      | (some text, collector) => { c with collector }.perform text nowMs
      | (none, collector) =>
        (⟨(collector.remoteCandidate.filter fun node => decide (node.length < 64)).map fun node =>
          .remoteCandidate (.new ⟨.command, node⟩ none), none⟩, { c with collector })

/-- The time by which an unfinished command expires. -/
def deadline : DigitEvent → Option Nat
  | .digit digit nowMs =>
    if digit ∈ "0123456789ABCD*".toList then some (satAdd nowMs 3000) else none
  | _ => none

/-- A symbol during a keypad capture. -/
def capture (digit : Char) (pad : PadTestResult) : PadTestResult :=
  if digit ∈ "0123456789ABCD*#".toList then
    if pad.digits.length < 127 then { pad with digits := pad.digits ++ [digit] }
    else { pad with overflowed := true }
  else pad

def feed (event : DigitEvent) (c : DtmfCommands) : Report R × DtmfCommands :=
  let c := { c with digitDeadline := deadline event }
  match event with
  | .lost => (⟨none, none⟩, { c with collector := c.map.collector, pad := none })
  | .unkey nowMs =>
    match c.pad with
    | some pad => (⟨some (.padTest pad), none⟩, { c with pad := none })
    | none => if c.remote = [] then c.key '#' false nowMs else (⟨none, none⟩, c)
  | .digit digit nowMs =>
    match c.pad with
    | some pad => (⟨none, none⟩, { c with pad := some (capture digit pad) })
    | none => c.key digit true nowMs

/-- The event with which `expire` ends an unfinished command. -/
def due (nowMs : Nat) (c : DtmfCommands) : Bool := c.digitDeadline.any (· ≤ nowMs)

end Reading

/-! ## What an event changes -/

variable {R : Type} [RemoteFamily R]

/-- What reading an event at `nowMs` does to the state. -/
structure Follows (nowMs : Nat) (c : DtmfCommands) (r : Report R) (c' : DtmfCommands) : Prop where
  policy : c'.toPolicy = c.toPolicy
  source : c'.peerSource = c.peerSource
  pad : c.peerSource = true → c.pad = none → c'.pad = none
  mappings : c.collector.mappings = c.map.mappings → c'.collector.mappings = c.map.mappings
  unlocked : r.verdict = some .unlocked → c'.adminUntilMs ≤ nowMs + c.adminTimeoutMs
  cleared : r.verdict = some .refused ∨ r.verdict = some .locked → c'.adminUntilMs = 0
  kept : r.verdict = none → c'.adminUntilMs = 0 ∨ c'.adminUntilMs = c.adminUntilMs
  authorized : ∀ o, r.outcome = some o → o.administrative c.remoteAccess = true →
    nowMs < c'.adminUntilMs

/-- An outcome that needs no grant, and nothing but places that hold none. -/
theorem Follows.plain {nowMs : Nat} {c c' : DtmfCommands} {o : Option (DigitOutcome R)}
    (hpolicy : c'.toPolicy = c.toPolicy) (hsource : c'.peerSource = c.peerSource)
    (hpad : c.peerSource = true → c.pad = none → c'.pad = none)
    (hmappings : c.collector.mappings = c.map.mappings → c'.collector.mappings = c.map.mappings)
    (huntil : c'.adminUntilMs = 0 ∨ c'.adminUntilMs = c.adminUntilMs)
    (ho : ∀ x, o = some x → x.administrative c.remoteAccess = false) :
    Follows nowMs c ⟨o, none⟩ c' where
  policy := hpolicy
  source := hsource
  pad := hpad
  mappings := hmappings
  unlocked := nofun
  cleared := by simp
  kept := fun _ => huntil
  authorized := fun x hx hadmin => by
    rw [ho x hx] at hadmin
    cases hadmin

/-- Nothing happens but that an expired grant may be cleared. -/
theorem Follows.silent {nowMs : Nat} {c c' : DtmfCommands}
    (h : c' = c ∨ c' = { c with adminUntilMs := 0 }) :
    Follows nowMs c (⟨none, none⟩ : Report R) c' := by
  rcases h with rfl | rfl
  · exact .plain rfl rfl (fun _ h => h) id (.inr rfl) (fun _ hx => by cases hx)
  · exact .plain rfl rfl (fun _ h => h) id (.inl rfl) (fun _ hx => by cases hx)

/-- A change before the event that keeps the grant or ends it. -/
theorem Follows.weaken {nowMs : Nat} {c₀ c c' : DtmfCommands} {r : Report R}
    (h : Follows nowMs c r c') (hpolicy : c.toPolicy = c₀.toPolicy)
    (hsource : c.peerSource = c₀.peerSource) (hpad : c.pad = c₀.pad)
    (hmappings : c.collector.mappings = c₀.collector.mappings)
    (huntil : c.adminUntilMs = 0 ∨ c.adminUntilMs = c₀.adminUntilMs) : Follows nowMs c₀ r c' where
  policy := h.policy.trans hpolicy
  source := h.source.trans hsource
  pad := by
    rw [← hsource, ← hpad]
    exact h.pad
  mappings := by
    rw [← hmappings, ← hpolicy]
    exact h.mappings
  unlocked := by
    rw [← hpolicy]
    exact h.unlocked
  cleared := h.cleared
  kept := fun hnone => by
    rcases h.kept hnone with hzero | hsame
    · exact .inl hzero
    · rwa [hsame]
  authorized := by
    rw [← hpolicy]
    exact h.authorized

variable (nowMs : Nat) (c : DtmfCommands)

theorem address_follows (command : Command) (authorized : Bool)
    (h : command.action.administrative = true → nowMs < c.adminUntilMs) :
    Follows nowMs c (c.address (R := R) command authorized).1
      (c.address (R := R) command authorized).2 := by
  unfold address
  split
  · exact .silent (.inl rfl)
  refine ⟨rfl, rfl, fun _ h => h, id, nofun, by simp, fun _ => .inr rfl, fun o ho hadmin => ?_⟩
  cases ho
  simp only [DigitOutcome.administrative, DigitOperation.administrative,
    DigitOperation.guarded, any_none,
    Bool.and_false, Bool.or_false] at hadmin
  exact h hadmin

/-- The check of a queued request answers as the grant stands. -/
theorem consume_spec (authorized : Bool) :
    ((c.consume authorized nowMs).1 = true → nowMs < c.adminUntilMs ∧
      (c.consume authorized nowMs).2 = c) ∧
    ((c.consume authorized nowMs).2 = c ∨
      c.adminUntilMs ≤ nowMs ∧ (c.consume authorized nowMs).2 = { c with adminUntilMs := 0 }) := by
  unfold consume
  dsimp only
  split
  · rename_i hcond
    simp only [and_eq_true, not_eq_true', decide_eq_true_eq] at hcond
    exact ⟨fun htrue => (false_ne_true (hcond.1.symm.trans htrue)).elim, .inr ⟨hcond.2, rfl⟩⟩
  · refine ⟨fun htrue => ?_, .inl rfl⟩
    simp only [and_eq_true, decide_eq_true_eq] at htrue
    exact ⟨htrue.2, rfl⟩

theorem remoteAuthorized_spec (administrative authorized : Bool) :
    Follows nowMs c (⟨none, none⟩ : Report R)
      (c.remoteAuthorized administrative authorized nowMs).2 ∧
    ((c.remoteAuthorized administrative authorized nowMs).1 = true → administrative = true →
      c.remoteAccess = .locked → nowMs < c.adminUntilMs) := by
  unfold remoteAuthorized
  split
  · split
    · rename_i haccess
      exact ⟨.silent (.inl rfl), fun _ _ hlocked => by cases haccess.symm.trans hlocked⟩
    · obtain ⟨htrue, hstate⟩ := consume_spec nowMs c authorized
      exact ⟨.silent (hstate.imp_right And.right), fun hok _ _ => (htrue hok).1⟩
    · exact ⟨.silent (.inl rfl), nofun⟩
  · rename_i hnot
    exact ⟨.silent (.inl rfl), fun _ htrue => (hnot htrue).elim⟩

theorem disconnect_follows (remote : List Char) :
    Follows nowMs c (⟨none, none⟩ : Report R) (c.disconnect remote) := by
  unfold disconnect
  split
  · exact .plain rfl rfl (fun _ h => h) id (.inr rfl) (fun _ hx => by cases hx)
  · exact .silent (.inl rfl)

/-- A renewal counts from now, like an unlock. -/
theorem confirm_follows : Follows nowMs c
    (⟨none, if c.renewable nowMs then some .unlocked else none⟩ : Report R) (c.confirm nowMs) := by
  unfold confirm
  split
  · exact ⟨rfl, rfl, fun _ h => h, id, fun _ => satAdd_le _ _, by simp, by simp, by simp⟩
  · exact .silent (.inl rfl)

variable [Credentials]

theorem execute_follows (command : Command) (h : c.adminUntilMs ≠ 0 → nowMs < c.adminUntilMs) :
    Follows nowMs c (c.execute (R := R) command nowMs).1 (c.execute (R := R) command nowMs).2 := by
  have hsame : Follows nowMs c (⟨none, none⟩ : Report R) c := .silent (.inl rfl)
  unfold execute
  split
  · rename_i haction
    refine .plain rfl rfl (fun _ h => h) id (.inr rfl) fun x hx => ?_
    split at hx
    · cases hx
      rcases haction with haction | haction <;>
        simp [DigitOutcome.administrative, DigitOperation.administrative, DigitOperation.guarded,
          DigitOperation.new, haction, LinkAction.administrative]
    · cases hx
  split
  · exact hsame
  split
  · split
    · exact hsame
    · rename_i hpeer
      exact .plain rfl rfl (fun htrue => (hpeer htrue).elim) id (.inr rfl) (fun _ hx => by cases hx)
  split
  · split
    · exact ⟨rfl, rfl, fun _ h => h, id, fun _ => satAdd_le _ _, by simp, by simp, by simp⟩
    · exact ⟨rfl, rfl, fun _ h => h, id, by simp, fun _ => rfl, by simp, by simp⟩
  split
  · split
    · exact ⟨rfl, rfl, fun _ h => h, id, by simp, fun _ => rfl, by simp, by simp⟩
    · exact hsame
  split
  · exact hsame
  rename_i hgrant
  refine address_follows nowMs c command _ fun hadmin => h fun hzero => hgrant ?_
  simp [hadmin, hzero]

theorem perform_follows (text : List Char) (h : c.adminUntilMs ≠ 0 → nowMs < c.adminUntilMs) :
    Follows nowMs c (c.perform (R := R) text nowMs).1 (c.perform (R := R) text nowMs).2 := by
  unfold perform
  split
  · rename_i remote hremote
    unfold remoteAuthorized
    obtain ⟨htrue, hstate⟩ := consume_spec nowMs c (c.adminUntilMs != 0)
    cases hadmin : RemoteFamily.administrative remote with
    | false =>
      refine .plain rfl rfl (fun _ h => h) id (.inr rfl) fun x hx => ?_
      cases hx
      simp [DigitOutcome.administrative, DigitOperation.administrative, DigitOperation.guarded,
        LinkAction.administrative, hadmin]
    | true =>
      cases haccess : c.remoteAccess with
      | «open» =>
        refine .plain rfl rfl (fun _ h => h) id (.inr rfl) fun x hx => ?_
        cases hx
        simp [DigitOutcome.administrative, DigitOperation.administrative,
          DigitOperation.guarded, LinkAction.administrative, haccess]
      | disabled => exact .silent (.inl rfl)
      | locked =>
        simp only [if_true]
        have hsame : Follows nowMs c (⟨none, none⟩ : Report R)
            (c.consume (c.adminUntilMs != 0) nowMs).2 := by
          exact .silent (hstate.imp_right And.right)
        cases hok : (c.consume (c.adminUntilMs != 0) nowMs).1 with
        | false => exact hsame
        | true =>
          obtain ⟨hlive, hsame'⟩ := htrue hok
          refine { hsame with authorized := fun _ _ _ => ?_ }
          rwa [hsame']
  · split
    · exact execute_follows nowMs c _ h
    · exact .silent (.inl rfl)

theorem key_follows (digit : Char) (symbol : Bool) :
    Follows nowMs c (c.key (R := R) digit symbol nowMs).1
      (c.key (R := R) digit symbol nowMs).2 := by
  unfold key
  split
  · split
    · exact .plain rfl rfl (fun _ h => h) id (.inr rfl) nofun
    refine .plain rfl rfl (fun _ h => h) id (.inr rfl) fun x hx => ?_
    split at hx
    · cases hx
      simp [DigitOutcome.administrative, DigitOperation.administrative, DigitOperation.guarded,
        DigitOperation.new, LinkAction.administrative]
    · cases hx
  · -- the grant is live from here on, or gone
    generalize hc₁ : (if c.adminUntilMs ≤ nowMs then { c with adminUntilMs := 0 } else c) = c₁
    have hlive : c₁.adminUntilMs ≠ 0 → nowMs < c₁.adminUntilMs := by
      subst hc₁
      split <;> grind
    have hkept : Follows nowMs c (⟨none, none⟩ : Report R) c₁ := by
      subst hc₁
      split
      · exact .silent (.inr rfl)
      · exact .silent (.inl rfl)
    dsimp only
    split
    · refine { hkept with authorized := fun x hx hadmin => ?_ }
      cases hx
      cases hadmin
    have hpad : c₁.pad = c.pad := by
      subst hc₁
      split <;> rfl
    have hcollector : c₁.collector = c.collector := by
      subst hc₁
      split <;> rfl
    have hmappings := CommandCollector.feed_mappings c₁.collector digit nowMs
    split
    · rename_i text collector hfeed
      rw [hfeed, hcollector] at hmappings
      exact (perform_follows nowMs { c₁ with collector } text hlive).weaken hkept.policy
        hkept.source hpad hmappings (hkept.kept rfl)
    · rename_i collector hfeed
      rw [hfeed, hcollector] at hmappings
      refine .plain hkept.policy hkept.source hkept.pad (fun h => hmappings.trans h)
        (hkept.kept rfl) fun x hx => ?_
      obtain ⟨node, -, rfl⟩ := map_eq_some_iff.mp hx
      simp [DigitOutcome.administrative, DigitOperation.administrative, DigitOperation.guarded,
        DigitOperation.new, LinkAction.administrative]

/-- **Reading an event keeps the configuration; the grant changes by code checks and by expiry, and
an administrative outcome needs a live one.** -/
theorem feed_follows (event : DigitEvent) (c : DtmfCommands) :
    Follows event.nowMs c (c.feed (R := R) event).1 (c.feed (R := R) event).2 := by
  unfold feed
  cases event with
  | lost =>
    exact .plain rfl rfl (fun _ _ => rfl) (fun _ => rfl) (.inr rfl) (fun _ hx => by cases hx)
  | unkey nowMs =>
    dsimp only
    split
    · refine .plain rfl rfl (fun _ _ => rfl) id (.inr rfl) fun x hx => ?_
      cases hx
      rfl
    split
    · exact (key_follows nowMs _ '#' false).weaken rfl rfl rfl rfl (.inr rfl)
    · exact .plain rfl rfl (fun _ h => h) id (.inr rfl) (fun _ hx => by cases hx)
  | digit digit nowMs =>
    dsimp only
    split
    · rename_i pad hpad
      refine .plain rfl rfl (fun _ h => ?_) id (.inr rfl) (fun _ hx => by cases hx)
      rw [h] at hpad
      cases hpad
    · exact (key_follows nowMs _ digit true).weaken rfl rfl rfl rfl (.inr rfl)

/-! ## What a code check answers -/

variable {c nowMs} {verdict : Verdict}

/-- The collection that a symbol completes is a command of the map, and its code was compared with
the configured hash. -/
def Checks (digit : Char) (nowMs : Nat) (verdict : Verdict) (c : DtmfCommands) : Prop :=
  ∃ text command, (c.collector.feed digit nowMs).1 = some text ∧
    parse c.map.mappings text = some command ∧ c.toPolicy.Says command verdict

/-- The state of a peer's source under a policy. -/
structure Sourced (policy : Policy) (c : DtmfCommands) : Prop where
  policy : c.toPolicy = policy
  peer : c.peerSource = true
  pad : c.pad = none
  mappings : c.collector.mappings = c.map.mappings

omit [Credentials] in
theorem Sourced.follows {policy : Policy} {c c' : DtmfCommands} {nowMs : Nat} {r : Report R}
    (h : c.Sourced policy) (hfollows : Follows nowMs c r c') : c'.Sourced policy := by
  refine ⟨hfollows.policy.trans h.policy, hfollows.source.trans h.peer,
    hfollows.pad h.peer h.pad, ?_⟩
  rw [hfollows.policy]
  exact hfollows.mappings h.mappings

omit [RemoteFamily R] in
theorem forSource_congr {c c' : DtmfCommands} (h : c.toPolicy = c'.toPolicy) :
    c.forSource = c'.forSource := by
  unfold forSource
  rw [h]

/-- Sources that share a policy adopt a new map together. -/
theorem Sourced.adopt {c : DtmfCommands} (commands : DtmfCommands)
    (h : c.Sourced commands.forSource.toPolicy) (map : DtmfCommandMap) (access : RemoteDtmfAccess) :
    (c.adopt map access).Sourced (commands.adopt map access).forSource.toPolicy := by
  refine ⟨?_, h.peer, h.pad, rfl⟩
  have hpolicy : (c.adopt map access).toPolicy = { c.toPolicy with map, remoteAccess := access } :=
    rfl
  rw [hpolicy, h.policy]
  unfold forSource configureAdmin DtmfCommands.adopt
  split <;> rfl

omit [RemoteFamily R] in
theorem forSource_map (c : DtmfCommands) : c.forSource.map = c.map := by
  unfold forSource configureAdmin
  split <;> rfl

theorem forSource_sourced (c : DtmfCommands) : c.forSource.Sourced c.forSource.toPolicy := by
  refine ⟨rfl, ?_, ?_, ?_⟩
  all_goals
    unfold forSource configureAdmin
    split <;> rfl

end DtmfCommands

end RptAdvanced.Dtmf
