import RptAdvanced.Dtmf.Commands
import RptAdvanced.Lib.Table
import RptAdvanced.Link.Hub

/-!
# Command sources of a node (`NodeLinkControl` of `rust/core/src/runtime/links.rs`)

A node reads keypad symbols from its receiver and from peers. The receiver has one command state for
good; a peer's source, which is the name it claims and the connection it came by, gets one with its
first asterisk and loses it when nothing is left in it. Outcomes wait in a queue of the host and
come back as operations: `command` rechecks the grant of an administrative one, and the runtime
renews it when the command has been applied (`rust/core/src/runtime/aggregate.rs`).

What the hub, the access policy and the radio answer is part of a move (`Answers`). A connection
ends for good. `step` makes one call; `log` records, newest first, what it produced and what bears
on grants, and `clock` is the time of the last call.
-/

namespace RptAdvanced.Dtmf

open Lib RptAdvanced.Runtime Link Option DtmfCommands

/-- The receiver, or a claimed name on a connection. -/
abbrev Source := Option (String × Nat)

inductive Entry (R : Type)
  | produced (source : Source) (outcome : DigitOutcome R)
  /-- An administrative outcome or effect. -/
  | administered (source : Source) (nowMs : Nat)
  | unlocked (source : Source) (nowMs timeoutMs : Nat)
  /-- An unlock whose code does not verify. -/
  | refused (source : Source)
  | locked (source : Source)
  | renewed (source : Source) (nowMs timeoutMs : Nat)
  | reconfigured
  | ended (remote : String)
  | endedReply (reply : Nat)
deriving DecidableEq, Repr

/-- `LinkEffect`, where it concerns sources. -/
inductive LinkEffect (R : Type)
  | forwardDigits
  | selectedRemote
  | parrotEnabled (enabled : Bool)
  | echoTelemetry (mode : Char)
  | remoteBase (operation : DigitOperation R)
  | other

/-- What a command is answered elsewhere. -/
structure Answers where
  /-- The generation of the work is current. -/
  current : Bool
  /-- The access policy allows the peer, which is not this node. -/
  allowed : Bool
  /-- The hub has peers to forward to. -/
  delivered : Bool
  /-- The directory knows the peer. -/
  verified : Bool
  /-- The peers a disconnecting or reconnecting action takes off. -/
  removed : List String
  /-- The runtime could apply the setting. -/
  applied : Bool
deriving DecidableEq, Repr

/-- The command sources of a node. -/
structure SourceDesk (R : Type) where
  commands : DtmfCommands
  /-- `peer_commands`, which never holds a source twice. -/
  peers : Table (String × Nat) DtmfCommands
  /-- The connections that have ended. -/
  ended : List Nat
  admitting : Bool
  clock : Nat
  log : List (Entry R)

inductive Move (R : Type)
  | digit (event : DigitEvent)
  | peerDigit (origin : String) (digit : Char) (nowMs reply : Nat) (allowed : Bool)
  | peerRemoteUnkey (nowMs reply : Nat)
  | expirePeerDigits (nowMs : Nat)
  | command (operation : DigitOperation R) (answers : Answers) (nowMs : Nat)
  /-- The recheck before a request reaches the radio. -/
  | remoteAuthorized (operation : DigitOperation R) (nowMs : Nat)
  | completeRemoteCommand (operation : DigitOperation R) (nowMs : Nat)
  /-- Withdrawals by schedule. -/
  | withdraw (remotes : List String)
  | ended (remote : String)
  /-- The transport ends a connection. -/
  | endReply (reply : Nat)
  | reconfigure (map : DtmfCommandMap)
  | configureAdmin (unlockHash lockHash : String) (timeoutMs : Nat)
  | configureRemote (digits : List Char) (access : RemoteDtmfAccess)
  | close
deriving DecidableEq

def Move.nowMs? {R : Type} : Move R → Option Nat
  | .digit (.digit _ nowMs) | .digit (.unkey nowMs) | .peerDigit _ _ nowMs _ _
  | .peerRemoteUnkey nowMs _ | .expirePeerDigits nowMs | .command _ _ nowMs
  | .remoteAuthorized _ nowMs | .completeRemoteCommand _ nowMs => some nowMs
  | _ => none

/-- The actions that take peers off the hub. -/
def LinkAction.removes : LinkAction → Bool
  | .disconnect | .disconnectPermanent | .disconnectAll | .disconnectPermanentAll
  | .disconnectNonPermanentAll | .reconnectAll | .reconnectPermanentAll => true
  | _ => false

def validDigit (digit : Char) : Bool := decide (digit ∈ "0123456789ABCD*#".toList)

/-- `source_outcome`. -/
def DigitOutcome.attach {R : Type} : Source → DigitOutcome R → DigitOutcome R
  | some (origin, reply), .operation op =>
    .operation { op with reply := some reply, origin := some origin }
  | some (origin, reply), .remoteCandidate op =>
    .remoteCandidate { op with reply := some reply, origin := some origin }
  | _, o => o

/-- The source whose state an operation is checked against. -/
def DigitOperation.source {R : Type} (operation : DigitOperation R) : Option Source :=
  match operation.reply with
  | none => some none
  | some reply => operation.origin.map fun origin => some (origin, reply)

variable {R : Type} [RemoteFamily R]

/-- The entries of a report, newest first. -/
def Report.entries (access : RemoteDtmfAccess) (timeoutMs : Nat) (source : Source) (nowMs : Nat)
    (r : Report R) : List (Entry R) :=
  (match r.outcome with
    | none => []
    | some o =>
      (if o.administrative access then [.administered source nowMs] else []) ++
        [.produced source (o.attach source)]) ++
  r.verdict.toList.map fun
    | .unlocked => .unlocked source nowMs timeoutMs
    | .refused => .refused source
    | .locked => .locked source

/-- The effect needs an administrative grant. -/
def LinkEffect.administrative (access : RemoteDtmfAccess) : LinkEffect R → Bool
  | .parrotEnabled _ | .echoTelemetry _ => true
  | .remoteBase op => op.administrative access
  | _ => false

/-- The runtime applies the effect at once. -/
def LinkEffect.setting : LinkEffect R → Bool
  | .parrotEnabled _ | .echoTelemetry _ => true
  | _ => false

namespace SourceDesk

def collector (d : SourceDesk R) : Source → Option DtmfCommands
  | none => some d.commands
  | some key => d.peers.get? key

/-- The state of a source changed. -/
def update (source : Source) (f : DtmfCommands → DtmfCommands) (d : SourceDesk R) : SourceDesk R :=
  match source with
  | none => { d with commands := f d.commands }
  | some key => { d with peers := d.peers.map fun k c => if k = key then f c else c }

def record (entries : List (Entry R)) (d : SourceDesk R) : SourceDesk R :=
  { d with log := entries ++ d.log }

/-- `retain_peer_commands`. -/
def retain (nowMs : Nat) (d : SourceDesk R) : SourceDesk R :=
  { d with peers := d.peers.filter fun key c =>
      decide (key.2 ∉ d.ended) && c.retainsState nowMs }

def remoteAuthorized (operation : DigitOperation R) (nowMs : Nat) (d : SourceDesk R) :
    Bool × SourceDesk R :=
  if !d.admitting || operation.reply.any (· ∈ d.ended) then (false, d)
  else
    match operation.remote, operation.source with
    | some request, some source =>
      match d.collector source with
      | some c =>
        let check := fun c : DtmfCommands =>
          c.remoteAuthorized (RemoteFamily.administrative request) operation.adminAuthorized nowMs
        ((check c).1, d.update source fun c => (check c).2)
      | none => (false, d)
    | _, _ => (false, d)

/-- `confirm_administrative_command`, `confirm_peer_administrative_command`. -/
def confirm (operation : DigitOperation R) (nowMs : Nat) (d : SourceDesk R) : SourceDesk R :=
  match operation.source with
  | none => d
  | some source =>
    match d.collector source with
    | none => d
    | some c =>
      (d.update source (·.confirm nowMs)).record
        (if c.renewable nowMs then [.renewed source nowMs c.adminTimeoutMs] else [])

/-- The administrative settings of `command`. -/
def setting (operation : DigitOperation R) (nowMs : Nat) (d : SourceDesk R) :
    Except AdmissionError (LinkEffect R) × SourceDesk R :=
  match operation.source.bind fun source => (d.collector source).map fun c => (source, c) with
  | none => (.error .denied, d)
  | some (source, c) =>
    let check := fun c : DtmfCommands => c.consume operation.adminAuthorized nowMs
    let d := d.update source fun c => (check c).2
    if (check c).1 = false then (.error .denied, d)
    else if operation.command.action = .echoTelemetry then
      match operation.command.node with
      | [mode] => if mode ∈ "0123".toList then (.ok (.echoTelemetry mode), d)
        else (.error .invalid, d)
      | _ => (.error .invalid, d)
    else (.ok (.parrotEnabled (operation.command.action == .parrotEnable)), d)

/-- The selection of a peer to forward digits to, and the forwarded digits, of `command`. -/
def forward (operation : DigitOperation R) (answers : Answers) (d : SourceDesk R) :
    Except AdmissionError (LinkEffect R) × SourceDesk R :=
  match PeerIdentity.canonicalOperator (String.ofList operation.command.node) with
  | none => (.error .identity, d)
  | some remote =>
    if (PeerIdentity.fromOperator remote).any (·.protocol == .echoLink) then
      (.error .unsupportedRoute, d)
    else if !answers.allowed || (operation.digit.isNone && !answers.verified) then
      (.error .denied, d)
    else if !answers.delivered then (.error .denied, d)
    else
      match operation.digit with
      | some digit =>
        if validDigit digit then (.ok .forwardDigits, d) else (.error .invalid, d)
      | none =>
        (.ok .selectedRemote,
          match operation.source with
          | none => d
          | some source => d.update source (·.selectRemote remote.toList))

/-- The receiver's selection ends with its peer. -/
def withdraw (remotes : List String) (d : SourceDesk R) : SourceDesk R :=
  { d with commands := remotes.foldl (fun c remote => c.disconnect remote.toList) d.commands }

/-- `NodeLinkControl::command`. Effects that touch no source are `other`. -/
def linkCommand (operation : DigitOperation R) (answers : Answers) (nowMs : Nat)
    (d : SourceDesk R) : Except AdmissionError (LinkEffect R) × SourceDesk R :=
  let action := operation.command.action
  if !d.admitting || !answers.current || operation.reply.any (· ∈ d.ended) then (.error .stale, d)
  else if action = .remoteBase then
    if operation.remote.isNone then (.error .invalid, d)
    else
      let (ok, d) := d.remoteAuthorized operation nowMs
      if ok then (.ok (.remoteBase operation), d) else (.error .denied, d)
  else if action = .command then d.forward operation answers
  else if action.administrative then d.setting operation nowMs
  else if action = .adminUnlock ∨ action = .adminLock ∨ action = .padTest then (.error .denied, d)
  else if action.removes then (.ok .other, d.withdraw answers.removed)
  else (.ok .other, d)

/-- `Runtime::command`: a setting that could be applied renews the grant. -/
def command (operation : DigitOperation R) (answers : Answers) (nowMs : Nat) (d : SourceDesk R) :
    SourceDesk R :=
  match d.linkCommand operation answers nowMs with
  | (.error _, next) => next
  | (.ok effect, next) =>
    let next := next.record (if effect.administrative d.commands.remoteAccess then
      operation.source.toList.map (.administered · nowMs) else [])
    if effect.setting && answers.applied then next.confirm operation nowMs else next

variable [Credentials]

/-- The selected sources are fed an event, one after the other. -/
def visit (p : String × Nat → DtmfCommands → Bool) (event : DigitEvent) (d : SourceDesk R) :
    SourceDesk R :=
  { d with
    peers := d.peers.map fun key c => if p key c then (c.feed (R := R) event).2 else c
    log := ((d.peers.entries.filter fun e => p e.1 e.2).flatMap fun e =>
      (e.2.feed (R := R) event).1.entries d.commands.remoteAccess e.2.adminTimeoutMs (some e.1)
        event.nowMs) ++ d.log }

/-- `digit`: an event of the receiver. -/
def digit (event : DigitEvent) (d : SourceDesk R) : SourceDesk R :=
  { d with
    commands := (d.commands.feed (R := R) event).2
    log := (d.commands.feed (R := R) event).1.entries d.commands.remoteAccess
      d.commands.adminTimeoutMs none event.nowMs ++ d.log }

/-- The number of sources of a connection. -/
def collectors (reply : Nat) (d : SourceDesk R) : Nat := d.peers.entries.countP (·.1.2 = reply)

def sourceDigit (source : String × Nat) (digit : Char) (nowMs : Nat) (d : SourceDesk R) :
    SourceDesk R :=
  let d := d.retain nowMs
  let feed := visit (R := R) (fun key _ => decide (key = source)) (.digit digit nowMs)
  if (d.peers.get? source).isSome then feed d
  else if digit ≠ '*' then d.record [.produced (some source) (.regenerate digit)]
  else if 128 ≤ d.collectors source.2 then d
  else feed { d with peers := d.peers.alter source fun _ => d.commands.forSource }

/-- `peer_digit`, and an addressed digit of `peer_text`. -/
def peerDigit (source : String × Nat) (digit : Char) (nowMs : Nat) (allowed : Bool)
    (d : SourceDesk R) : SourceDesk R :=
  if source.2 ∈ d.ended ∨ (validDigit digit && allowed) = false then d
  else d.sourceDigit source digit nowMs

def peerRemoteUnkey (nowMs reply : Nat) (d : SourceDesk R) : SourceDesk R :=
  if reply ∈ d.ended then d
  else d.visit (fun key c => decide (key.2 = reply) && c.remoteCollecting) (.unkey nowMs)

def expirePeerDigits (nowMs : Nat) (d : SourceDesk R) : SourceDesk R :=
  ({ d with peers := d.peers.filter fun key _ => decide (key.2 ∉ d.ended) }.visit
    (fun _ c => c.due nowMs) (.digit '\x00' nowMs)).retain nowMs

/-- The desk after a call, apart from the clock. -/
def act (d : SourceDesk R) : Move R → SourceDesk R
  | .digit event => d.digit event
  | .peerDigit origin digit nowMs reply allowed => d.peerDigit (origin, reply) digit nowMs allowed
  | .peerRemoteUnkey nowMs reply => d.peerRemoteUnkey nowMs reply
  | .expirePeerDigits nowMs => d.expirePeerDigits nowMs
  | .command operation answers nowMs => d.command operation answers nowMs
  | .remoteAuthorized operation nowMs =>
    let (ok, next) := d.remoteAuthorized operation nowMs
    next.record (if ok && operation.guarded d.commands.remoteAccess then
      operation.source.toList.map (.administered · nowMs) else [])
  | .completeRemoteCommand operation nowMs =>
    if operation.remote.any RemoteFamily.administrative then d.confirm operation nowMs else d
  | .withdraw remotes => d.withdraw remotes
  | .ended remote =>
    { d with
      commands := d.commands.disconnect remote.toList
      peers := (d.peers.filter fun key _ => decide (key.1 ≠ remote)).map fun _ c =>
        c.disconnect remote.toList
      log := .ended remote :: d.log }
  | .endReply reply => { d with ended := reply :: d.ended, log := .endedReply reply :: d.log }
  | .reconfigure map =>
    { d with commands := .new map, peers := .empty, log := .reconfigured :: d.log }
  | .configureAdmin unlockHash lockHash timeoutMs =>
    { d with
      commands := d.commands.configureAdmin unlockHash lockHash timeoutMs
      peers := .empty
      log := .reconfigured :: d.log }
  | .configureRemote digits access =>
    match d.commands.configureRemote digits access with
    | .error _ => d
    | .ok commands =>
      -- peers have the receiver's map, so that none refuses what it has accepted
      { d with
        commands
        peers := d.peers.map fun _ c => ((c.configureRemote digits access).toOption).getD c }
  | .close => { d with admitting := false }

def new (map : DtmfCommandMap) : SourceDesk R := ⟨.new map, .empty, [], true, 0, []⟩

def step (d : SourceDesk R) (move : Move R) : SourceDesk R :=
  { d.act move with clock := move.nowMs?.getD d.clock }

/-- Every source of a peer is under the policy of the node. -/
def Uniform (d : SourceDesk R) : Prop :=
  ∀ key c, d.peers.get? key = some c → c.Sourced d.commands.forSource.toPolicy

/-- A node as it is composed. -/
def Initial (d : SourceDesk R) : Prop := ∃ map, d = new map

def Step (d : SourceDesk R) (move : Move R) (d' : SourceDesk R) : Prop := d' = d.step move

/-! ## Lookups -/

section Lookups

omit [RemoteFamily R] [Credentials]

variable (d : SourceDesk R)

theorem update_log (source : Source) (f : DtmfCommands → DtmfCommands) :
    (d.update source f).log = d.log := by
  cases source <;> rfl

theorem update_ended (source : Source) (f : DtmfCommands → DtmfCommands) :
    (d.update source f).ended = d.ended := by
  cases source <;> rfl

theorem collector_update (source other : Source) (f : DtmfCommands → DtmfCommands) :
    (d.update source f).collector other =
      if other = source then (d.collector source).map f else d.collector other := by
  cases source with
  | none => cases other <;> rfl
  | some key =>
    cases other with
    | none => rfl
    | some k =>
      change (d.peers.map _).get? k = _
      by_cases hkey : k = key
      · simp [hkey, collector]
      · simp [hkey, collector]

end Lookups

/-! ## One policy -/

variable {d : SourceDesk R}

variable (h : d.Uniform)
include h

omit [RemoteFamily R] in
theorem Uniform.filter (p : String × Nat → DtmfCommands → Bool) :
    Uniform { d with peers := d.peers.filter p } := by
  intro key c hc
  rw [Table.get?_filter, filter_eq_some_iff] at hc
  exact h key c hc.1

theorem Uniform.update (source : Source) {f : DtmfCommands → DtmfCommands}
    (hf : ∀ c, ∃ nowMs, ∃ r : Report R, DtmfCommands.Follows nowMs c r (f c)) :
    (d.update source f).Uniform := by
  cases source with
  | none =>
    obtain ⟨nowMs, r, hfollows⟩ := hf d.commands
    intro key c hc
    rw [show (d.update none f).commands.forSource = d.commands.forSource from
      forSource_congr hfollows.policy]
    exact h key c hc
  | some source =>
    intro key c hc
    change (d.peers.map _).get? key = some c at hc
    rw [Table.get?_map, map_eq_some_iff] at hc
    obtain ⟨c₀, hc₀, rfl⟩ := hc
    split
    · obtain ⟨nowMs, r, hfollows⟩ := hf c₀
      exact (h key c₀ hc₀).follows hfollows
    · exact h key c₀ hc₀

theorem Uniform.visit (p : String × Nat → DtmfCommands → Bool)
    (event : DigitEvent) : (d.visit p event).Uniform := by
  intro key c hc
  change (d.peers.map _).get? key = some c at hc
  rw [Table.get?_map, map_eq_some_iff] at hc
  obtain ⟨c₀, hc₀, rfl⟩ := hc
  split
  · exact (h key c₀ hc₀).follows (feed_follows event c₀)
  · exact h key c₀ hc₀

omit [RemoteFamily R] in
theorem Uniform.add (source : String × Nat) :
    Uniform { d with peers := d.peers.alter source fun _ => d.commands.forSource } := by
  intro key c hc
  by_cases hkey : key = source
  · subst hkey
    rw [Table.get?_alter_self] at hc
    cases hc
    exact forSource_sourced d.commands
  · rw [Table.get?_alter_ne _ _ hkey] at hc
    exact h key c hc

omit [RemoteFamily R] in
theorem Uniform.configureRemote {digits : List Char} {access : RemoteDtmfAccess}
    {commands : DtmfCommands} (hok : d.commands.configureRemote digits access = .ok commands) :
    ∃ map, commands = d.commands.adopt map access ∧ ∀ key c, d.peers.get? key = some c →
      (c.configureRemote digits access).toOption.getD c = c.adopt map access := by
  unfold DtmfCommands.configureRemote at hok
  cases hmap : DtmfCommandMap.new (DtmfCommands.remoteMappings digits d.commands.map.mappings) with
  | error e =>
    rw [hmap] at hok
    cases hok
  | ok map =>
    rw [hmap] at hok
    refine ⟨map, (Except.ok.inj hok).symm, fun key c hc => ?_⟩
    have hsame : c.map = d.commands.map := by
      rw [(h key c hc).policy, forSource_map]
    unfold DtmfCommands.configureRemote
    rw [hsame, hmap]
    rfl

omit [RemoteFamily R] in
theorem Uniform.access {source : Source} {c : DtmfCommands}
    (hc : d.collector source = some c) : c.remoteAccess = d.commands.remoteAccess := by
  cases source with
  | none =>
    cases hc
    rfl
  | some key =>
    rw [(h key c hc).policy]
    unfold forSource configureAdmin
    dsimp only
    split <;> rfl

end SourceDesk

end RptAdvanced.Dtmf
