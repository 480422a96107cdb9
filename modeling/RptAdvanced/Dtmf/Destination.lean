import RptAdvanced.Dtmf.Grant

/-!
# The remembered destination of a source (`DtmfCommands::feed` of `rust/core/src/runtime/dtmf.rs`)

A link command with the argument `0` means the destination named last. A `Dialogue` is a source and
the complete commands it was given; `Faithful` says what one more command should do. The source also
rewrites and remembers the argument of the EchoLink telemetry command (`telemetry_mode_rewritten`).
-/

namespace RptAdvanced.Dtmf

open Lib DtmfCommands List Option

/-- The action's argument is a link destination. -/
def LinkAction.links : LinkAction → Bool
  | .disconnect | .monitor | .transceive | .command | .localMonitor | .disconnectPermanent
  | .permanentMonitor | .permanentTransceive | .permanentLocalMonitor => true
  | _ => false

/-- A source, and the complete commands it was given, latest first. -/
structure Dialogue where
  commands : DtmfCommands
  past : List Command

/-- The text of a complete command, under the policy and the grant of its time. -/
structure Told where
  text : List Char
  nowMs : Nat
  policy : Policy
  grant : Nat

/-- The destination named by the latest link command that named one. -/
def remembered : List Command → List Char
  | [] => []
  | c :: older =>
    if c.action.links = true ∧ c.node ≠ ['0'] ∧ c.node.length < 64 then c.node else remembered older

theorem LinkAction.takesNode_cases {action : LinkAction} (hlinks : action.links = false)
    (h : action.takesNode = true) : action = .message ∨ action = .siteStatus
      ∨ action = .adminUnlock ∨ action = .adminLock ∨ action = .echoTelemetry := by
  cases action <;> simp [LinkAction.links, LinkAction.takesNode] at hlinks h ⊢

theorem parse_takesNode {mappings : List CommandMapping} {text : List Char} {c : Command}
    (h : parse mappings text = some c) : c.action.takesNode = !c.node.isEmpty := by
  unfold parse at h
  split at h
  · rename_i m hm
    cases h
    have := find?_some hm
    simp_all
  · obtain ⟨m, -, hm⟩ := exists_of_findSome?_eq_some h
    obtain ⟨node, -, hnode⟩ := bind_eq_some_iff.mp hm
    obtain ⟨hread, hnode⟩ := ite_none_left_eq_some.mp hnode
    cases hnode
    simp_all

namespace Dialogue

section Rules

variable [Credentials] (R : Type) [RemoteFamily R]

/-- The command of the map that the text spells. -/
def spelled (e : Told) : Option Command :=
  if (e.policy.map.parseRemote (R := R) e.text).isSome then none
  else parse e.policy.map.mappings e.text

/-- The source under the policy and the grant of the time. -/
def source (d : Dialogue) (e : Told) : DtmfCommands :=
  { d.commands with toPolicy := e.policy, adminUntilMs := e.grant }

/-- What the source makes of a complete command. -/
def answer (d : Dialogue) (e : Told) : Report R × DtmfCommands :=
  (d.source e).perform e.text e.nowMs

/-- The source reads a complete command. -/
def step (d : Dialogue) (e : Told) : Dialogue := ⟨(d.answer R e).2, (spelled R e).toList ++ d.past⟩

/-- A source that was given no command yet. -/
def Initial (d : Dialogue) : Prop := d.commands.lastNode = [] ∧ d.past = []

/-- What a command should do: an argument that is no destination is kept as it was entered and not
remembered, a selector is announced if it is one, a code is checked as it was entered and decides
the grant, a telemetry mode is selected under a grant, and the destination `0` is the one
remembered. A code of 64 digits or more is no code. -/
structure Faithful (d : Dialogue) (e : Told) (c : Command) : Prop where
  memory : c.action.links = false → (d.answer R e).2.lastNode = d.commands.lastNode
  argument : c.action.links = false → ∀ op, (d.answer R e).1.outcome = some (.operation op) →
    op.command = c
  selector : c.action = .message ∨ c.action = .siteStatus → (d.answer R e).1.outcome =
    if selectorValid c.node then some (.operation (.new c none)) else none
  unlock : c.action = .adminUnlock → (d.answer R e).2.adminUntilMs =
    if 64 ≤ c.node.length then e.grant
    else if e.policy.accepts e.policy.adminUnlockHash c.node then
      satAdd e.nowMs e.policy.adminTimeoutMs
    else 0
  lock : c.action = .adminLock → (d.answer R e).2.adminUntilMs =
    if c.node.length < 64 ∧ e.policy.accepts e.policy.adminLockHash c.node = true then 0
    else e.grant
  mode : c.action = .echoTelemetry → e.grant ≠ 0 → c.node ∈ [['0'], ['1'], ['2'], ['3']] →
    ∃ op, (d.answer R e).1.outcome = some (.operation op) ∧ op.command = c
  zero : c.action.links = true → c.node = ['0'] → (d.answer R e).1.outcome =
    if remembered d.past = [] then none
    else some (.operation (.new ⟨c.action, remembered d.past⟩ none))

/-- The text is not a telemetry command under a grant. -/
def Plain (_ : Dialogue) (e : Told) : Prop :=
  ∀ c, spelled R e = some c → c.action = .echoTelemetry → e.grant = 0

variable {R} {d : Dialogue} {e : Told} {c : Command}

section Execute

variable {s : DtmfCommands} {nowMs : Nat}

omit [RemoteFamily R]

theorem execute_links (h : c.action.links = true) : c.action.takesNode = true ∧
    s.execute (R := R) c nowMs =
      if 64 ≤ c.node.length then (⟨none, none⟩, s) else s.address c false := by
  obtain ⟨action, node⟩ := c
  cases action <;> first | exact ⟨rfl, rfl⟩ | cases h

theorem execute_unlock (h : c.action = .adminUnlock) :
    (s.execute (R := R) c nowMs).2.adminUntilMs = if 64 ≤ c.node.length then s.adminUntilMs
      else if s.credentialsConfigured && Credentials.verifyHash s.adminUnlockHash c.node then
        satAdd nowMs s.adminTimeoutMs
      else 0 := by
  simp only [execute, h, reduceCtorEq, or_false, if_false, if_true]
  split
  · rfl
  · split <;> rfl

theorem execute_lock (h : c.action = .adminLock) : (s.execute (R := R) c nowMs).2.adminUntilMs =
    if c.node.length < 64 ∧ (s.credentialsConfigured
      && Credentials.verifyHash s.adminLockHash c.node) = true then 0 else s.adminUntilMs := by
  simp only [execute, h, reduceCtorEq, or_false, if_false, if_true]
  by_cases hlong : 64 ≤ c.node.length
  · rw [if_pos hlong, if_neg fun hshort => absurd hshort.1 (Nat.not_lt.mpr hlong)]
  · rw [if_neg hlong]
    simp only [Nat.lt_of_not_le hlong, true_and]
    split <;> rfl

omit [Credentials]

/-- A destination that is named is remembered. -/
theorem address_lastNode (hne : c.node ≠ []) : (s.address (R := R) c false).2.lastNode =
    if c.node = ['0'] then s.lastNode else c.node := by
  unfold address
  by_cases hzero : c.node = ['0'] <;> by_cases hlast : s.lastNode = [] <;>
    simp [hzero, hlast, hne]

theorem address_zero (hzero : c.node = ['0']) : (s.address (R := R) c false).1.outcome =
    if s.lastNode = [] then none else some (.operation (.new ⟨c.action, s.lastNode⟩ none)) := by
  unfold address
  by_cases hlast : s.lastNode = [] <;> simp [hzero, hlast, DigitOperation.new]

variable [Credentials]

/-- A command that names no destination leaves the remembered one and is executed as it was
entered, if at all. -/
theorem execute_other (hlinks : c.action.links = false)
    (hnode : c.action.takesNode = !c.node.isEmpty)
    (hmode : c.action = .echoTelemetry → s.adminUntilMs = 0) :
    (s.execute (R := R) c nowMs).2.lastNode = s.lastNode ∧
      ∀ op, (s.execute (R := R) c nowMs).1.outcome = some (.operation op) → op.command = c := by
  unfold execute
  split
  · refine ⟨rfl, fun op hop => ?_⟩
    obtain ⟨-, ⟨⟩⟩ := ite_none_right_eq_some.mp hop
    rfl
  split
  · exact ⟨rfl, fun _ hop => by cases hop⟩
  split
  · exact ⟨by dsimp only; split <;> rfl, fun _ hop => by cases hop⟩
  split
  · generalize (s.credentialsConfigured && _) = accepted
    cases accepted <;> exact ⟨rfl, fun _ hop => by cases hop⟩
  split
  · generalize (s.credentialsConfigured && _) = accepted
    cases accepted <;> exact ⟨rfl, fun _ hop => by cases hop⟩
  split
  · exact ⟨rfl, fun _ hop => by cases hop⟩
  · -- what is left takes no argument
    rename_i hselector _ _ hunlock hlock hgrant
    have hempty : c.node = [] := by
      by_contra hne
      rcases LinkAction.takesNode_cases hlinks (by simp [hnode, hne]) with
        h | h | h | h | h
      · exact hselector (.inl h)
      · exact hselector (.inr h)
      · exact hunlock h
      · exact hlock h
      · exact hgrant (by simp [h, hmode h, LinkAction.administrative])
    unfold address
    simp only [hempty, reduceCtorEq, false_and, if_false, if_true]
    refine ⟨trivial, fun op hop => ?_⟩
    cases hop
    rw [← hempty]

end Execute

/-- What the source makes of a command of the map. -/
theorem answer_execute (hc : spelled R e = some c) :
    c.action.takesNode = (!c.node.isEmpty) ∧ d.answer R e = (d.source e).execute c e.nowMs := by
  obtain ⟨hremote, hparse⟩ := ite_none_left_eq_some.mp hc
  refine ⟨parse_takesNode hparse, ?_⟩
  unfold answer perform
  rw [show (d.source e).map = e.policy.map from rfl, not_isSome_iff_eq_none.mp hremote, hparse]

/-- Without a granted telemetry command only a link command is remembered. -/
theorem answer_lastNode (hplain : d.Plain R e) (hc : spelled R e = some c) :
    (d.answer R e).2.lastNode
    = if c.action.links = true ∧ c.node ≠ ['0'] ∧ c.node.length < 64 then c.node
      else d.commands.lastNode := by
  obtain ⟨hnode, hexecute⟩ := answer_execute (d := d) hc
  rw [hexecute]
  cases hlinks : c.action.links with
  | true =>
    obtain ⟨htakes, hlink⟩ := execute_links hlinks
    have hne : c.node ≠ [] := by simpa [htakes] using hnode
    rw [hlink]
    split
    · rename_i hlong
      exact (if_neg fun h => absurd h.2.2 (Nat.not_lt.mpr hlong)).symm
    · rename_i hshort
      rw [address_lastNode hne]
      by_cases hzero : c.node = ['0'] <;> simp [hzero, Nat.lt_of_not_le hshort, source]
  | false =>
    rw [(execute_other hlinks hnode (hplain c hc)).1, if_neg fun h => by cases h.1]
    rfl

theorem answer_other (h : spelled R e = none) :
    (d.answer R e).2.lastNode = d.commands.lastNode := by
  unfold answer perform
  split
  · -- a payload of the remote base at most ends the grant
    change (remoteAuthorized _ _ _ (d.source e)).2.lastNode = _
    unfold remoteAuthorized consume
    split
    · split
      · rfl
      · dsimp only
        split <;> rfl
      · rfl
    · rfl
  · rename_i hnone
    have hparse : parse e.policy.map.mappings e.text = none := by
      simpa [spelled, show e.policy.map.parseRemote e.text = none from hnone] using h
    rw [show parse (d.source e).map.mappings e.text = none from hparse]
    rfl

theorem step_remembers (hplain : d.Plain R e) (h : d.commands.lastNode = remembered d.past) :
    (d.step R e).commands.lastNode = remembered (d.step R e).past := by
  cases hc : spelled R e with
  | none => simpa [step, hc] using (answer_other hc).trans h
  | some c =>
    simp only [step, hc, answer_lastNode hplain hc, toList_some, singleton_append, remembered, ← h]

/-- **Arguments and the remembered destination.** After any commands without a telemetry command
under a grant, a further one of them does what it should. -/
theorem arguments_faithful
    (h : Reachable Initial (Guarded (fun d e d' => d' = step R d e) (Plain R)) d)
    (hc : spelled R e = some c) (hplain : d.Plain R e) : d.Faithful R e c := by
  have hlast : d.commands.lastNode = remembered d.past := by
    refine Reachable.invariant (P := fun d => d.commands.lastNode = remembered d.past)
      (fun d hd => ?_) (fun d e d' hd hstep => ?_) h
    · rw [hd.1, hd.2]
      rfl
    · rw [hstep.2]
      exact step_remembers hstep.1 hd
  obtain ⟨hnode, hexecute⟩ := answer_execute (d := d) hc
  have hkeeps (hlinks : c.action.links = false) := by
    have hother := @execute_other R c (d.source e) e.nowMs _ hlinks hnode (hplain c hc)
    rwa [← hexecute] at hother
  refine ⟨fun hlinks => (hkeeps hlinks).1, fun hlinks => (hkeeps hlinks).2, fun haction => ?_,
    fun haction => ?_, fun haction => ?_,
    fun haction hgrant => absurd (hplain c hc haction) hgrant, fun hlinks hzero => ?_⟩
  · rw [hexecute, execute, if_pos haction]
  · rw [hexecute]
    exact execute_unlock haction
  · rw [hexecute]
    exact execute_lock haction
  · rw [hexecute, (execute_links hlinks).2, hzero, if_neg (by decide), address_zero hzero, ← hlast]
    rfl

end Rules

/-! ## Runs -/

attribute [local instance] SourceDesk.plainCodes SourceDesk.noRemote

/-- `3` connects, `5` sets the telemetry mode. -/
def modeMap : DtmfCommandMap := ⟨[⟨['3'], .transceive⟩, ⟨['5'], .echoTelemetry⟩], by decide⟩

def told (text : String) (grant : Nat) : Told := ⟨text.toList, 0, (new modeMap).toPolicy, grant⟩

/-- What becomes of the last of several commands. -/
def outcome (before : List Told) (e : Told) : Option (DigitOutcome Unit) :=
  ((before.foldl (step Unit) ⟨new modeMap, []⟩).answer Unit e).1.outcome

/-- The second connection is to the node of the first. -/
theorem arguments_faithful_again : outcome [told "32000" 0] (told "30" 0)
      = some (.operation (.new ⟨.transceive, "2000".toList⟩ none)) := by
  have hreach : Reachable Initial (Guarded (fun d e d' => d' = step Unit d e) (Plain Unit))
      (step Unit ⟨new modeMap, []⟩ (told "32000" 0)) :=
    .step (.init ⟨rfl, rfl⟩) ⟨fun _ _ _ => rfl, rfl⟩
  exact ((arguments_faithful hreach (e := told "30" 0) (c := ⟨.transceive, ['0']⟩)
    (by decide +kernel) fun _ _ _ => rfl).zero rfl rfl).trans (by decide +kernel)

/-- **The telemetry mode is taken for a destination.** Mode 0 under a grant is not executed, or
after a connection to node 2000 as mode 2000; and after mode 1 a connection to `0` is to node 1. -/
theorem telemetry_mode_rewritten : outcome [] (told "50" 9) = none ∧
    outcome [told "32000" 0] (told "50" 9) = some (.operation
      ⟨⟨.echoTelemetry, "2000".toList⟩, none, none, none, none, true⟩) ∧
    outcome [told "32000" 0, told "51" 9] (told "30" 0)
      = some (.operation (.new ⟨.transceive, ['1']⟩ none)) := by
  decide +kernel

end Dialogue

end RptAdvanced.Dtmf
