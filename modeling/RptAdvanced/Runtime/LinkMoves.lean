import RptAdvanced.Runtime.LinkDesk

/-!
# What a move does to a node's links (`rust/core/src/runtime/links.rs`)

For each operation of link control, what it can do, once and for all invariants: an inductive
predicate with a constructor for each way it can end, or an equation.

Results:
* `command_outcome`, `nextScheduled_outcome`: commands and the schedule's work.
* `finishConnectAt_eq`, `finishRetry_eq`: what becomes of a returned dial.
* `step_stepped`: what a move does to the hub, the schedule and the dials. All moves but an accepted
  call and a returned dial are sequences of operations of the hub that make no record.
-/

namespace RptAdvanced.Runtime

open Lib List Link Schedule NodeLinkControl Option LinkControl

theorem LinkControl.new_eq {localNode : String} {policy : AccessPolicy} {s : Option LinkScheduler}
    {control : LinkControl} (h : new localNode policy s = .ok control) : control = {
      localNode
      manager := { localNode }
      policy
      schedule := s
      groups := configuredGroups 0 s []
      epoch := 0
      admitting := true } := by
  have hnew : (PeerHub.new localNode : Except AdmissionError LinkManager)
      = LinkManager.new localNode := rfl
  unfold new at h
  rw [hnew, LinkManager.new] at h
  split at h
  · cases h
  · cases h
    rfl

/-- The actions that connect a peer. -/
def LinkAction.connects : LinkAction → Bool
  | .monitor | .localMonitor | .transceive => true
  | .permanentMonitor | .permanentLocalMonitor | .permanentTransceive => true
  | _ => false

/-- The actions that resume all paused links. -/
def LinkAction.reconnects : LinkAction → Bool
  | .reconnectAll | .reconnectPermanentAll => true
  | _ => false

/-! ## The operations of the hub that a move makes -/

/-- Whether a move may resume paused retries. -/
def LinkMove.resumes : LinkMove → Bool
  | .command .. => true
  | _ => false

/-- The hub after some operations that make no record and, unless `resuming`, resume no retry. -/
def LinkControl.Quiets (resuming : Bool) (m m' : LinkManager) : Prop :=
  ∃ ops : List HubMove, (∀ op ∈ ops, op.quiet = true ∧ (op.resumes = true → resuming = true))
    ∧ m' = ops.foldl LinkManager.perform m

namespace LinkControl

variable (c : LinkControl)

section

variable {m m' : LinkManager} {resuming : Bool}

theorem Quiets.none (h : m' = m) : Quiets resuming m m' := ⟨[], forall_mem_nil _, h⟩

theorem Quiets.one (op : HubMove) (hop : op.quiet = true) (hresumes : op.resumes = false)
    (h : m' = m.perform op) : Quiets resuming m m' := by
  refine ⟨[op], forall_mem_singleton.mpr ⟨hop, fun hop' => ?_⟩, h⟩
  rw [hresumes] at hop'
  cases hop'

theorem Quiets.resume (op : HubMove) (hop : op.quiet = true) (h : m' = m.perform op) :
    Quiets true m m' :=
  ⟨[op], forall_mem_singleton.mpr ⟨hop, fun _ => rfl⟩, h⟩

/-- What all these operations keep. -/
theorem Quiets.invariant {I : LinkManager → Prop}
    (hI : ∀ m op, HubMove.quiet op = true → (op.resumes = true → resuming = true) → I m →
      I (m.perform op)) (h : Quiets resuming m m') (hm : I m) : I m' := by
  obtain ⟨ops, hops, rfl⟩ := h
  induction ops generalizing m with
  | nil => exact hm
  | cons op ops ih =>
    obtain ⟨hop, hrest⟩ := forall_mem_cons.mp hops
    exact ih (hI m op hop.1 hop.2 hm) hrest

/-- Withdrawals, and operations after them. -/
theorem Quiets.withdraw (removed : List String) (ops : List HubMove)
    (hops : ∀ op ∈ ops, op.quiet = true ∧ (op.resumes = true → resuming = true))
    (h : m' = ops.foldl LinkManager.perform (disconnectPermanents removed m)) :
    Quiets resuming m m' := by
  refine ⟨removed.map .disconnectPermanent ++ ops, ?_, ?_⟩
  · refine forall_mem_append.mpr ⟨fun op hop => ?_, hops⟩
    obtain ⟨name, -, rfl⟩ := mem_map.mp hop
    exact ⟨rfl, nofun⟩
  · rw [h, foldl_append, foldl_map]
    rfl

end

/-- How `next_scheduled` can end: nothing is due, a withdrawal is carried out, or an attachment is
reserved and dialled. -/
inductive NextOutcome (work : Nat) (c : LinkControl) : Option LinkEffect → LinkControl → Prop
  | idle : NextOutcome work c none c
  | detach (s s' : LinkScheduler) (token : LinkReservation) (hs : c.schedule = some s)
      (hnext : s.nextOperation = (some token, s')) (haction : token.action = .detach) :
      NextOutcome work c (some (.detach [token.spec.remote])) { c with
        manager := (c.manager.disconnectPermanent token.spec.remote).2
        schedule := some (s'.complete token true).2 }
  | dial (s s' : LinkScheduler) (token : LinkReservation) (hs : c.schedule = some s)
      (hnext : s.nextOperation = (some token, s')) (haction : token.action = .attach) :
      NextOutcome work c (some (.connect ⟨token.spec.remote, .transceive, true,
        token.spec.groupLabel.bind fun _ =>
          ({ c with schedule := some s' } : LinkControl).groupMember token.spec.remote,
        work, some token⟩)) { c with schedule := some s' }

theorem nextScheduled_outcome (work : Nat) (current : Bool) :
    NextOutcome work c (c.nextScheduled work current).1 (c.nextScheduled work current).2 := by
  unfold NodeLinkControl.nextScheduled
  split
  · exact .idle
  cases hs : c.schedule with
  | none => exact .idle
  | some s =>
    dsimp only
    cases hnext : s.nextOperation with
    | mk token s' =>
      cases token with
      | none =>
        have hsame : ({ c with schedule := some s' } : LinkControl) = c := by
          rw [LinkScheduler.nextOperation_none hnext, ← hs]
        dsimp only
        rw [hsame]
        exact .idle
      | some token =>
        dsimp only
        split
        · rename_i haction
          exact .detach s s' token hs hnext haction
        rename_i haction
        refine .dial s s' token hs hnext ?_
        cases h : token.action with
        | attach => rfl
        | detach => exact absurd h haction

inductive CommandOutcome (operation : Command) (work nowMs : Nat) (c : LinkControl) :
    Except AdmissionError LinkEffect → LinkControl → Prop
  | refused (e : AdmissionError) : CommandOutcome operation work nowMs c (.error e) c
  | dialled (remote : String)
      (hremote : PeerIdentity.canonicalOperator operation.node = some remote)
      (haction : operation.action.connects = true) (hforeign : remote ≠ c.localNode)
      (hfree : c.manager.reaches remote true = false) :
      CommandOutcome operation work nowMs c (.ok (.connect ⟨remote, operation.action.mode,
        operation.action.permanent, none, work, none⟩)) c
  /-- A permanent link that is paused is resumed instead. -/
  | resumed (remote : String)
      (hremote : PeerIdentity.canonicalOperator operation.node = some remote)
      (haction : operation.action.connects = true)
      (hpermanent : operation.action.permanent = true) :
      CommandOutcome operation work nowMs c (.ok .none) { c with
        manager := c.manager.perform (.resumePermanentRetry remote operation.action.mode nowMs) }
  | disconnected (remote : String) (peers : List String) (op : HubMove)
      (hop : op = .disconnect remote ∨ op = .disconnectPermanent remote
        ∨ op = .disconnectTemporary) :
      CommandOutcome operation work nowMs c (.ok (.detach peers)) { c with
        manager := c.manager.perform op }
  | held (peers : List String) (op : HubMove)
      (hop : op = .disconnectAll ∨ op = .disconnectPermanentAll) :
      CommandOutcome operation work nowMs c (.ok (.detach peers)) { c with
        manager := c.manager.perform op
        schedule := c.schedule.map (·.pause c.localNode) }
  | reconnected (effect : LinkEffect) (op : HubMove) (heffect : effect.dials = [])
      (haction : operation.action.reconnects = true)
      (hop : op = .resumeRetries nowMs ∨ op = .resumePermanentRetries nowMs) :
      CommandOutcome operation work nowMs c (.ok effect) { c.resumeSchedule.2 with
        manager := c.resumeSchedule.2.manager.perform op }

theorem connectCommand_outcome {operation : Command} {remote : String} (work nowMs : Nat)
    (hremote : PeerIdentity.canonicalOperator operation.node = some remote)
    (haction : operation.action.connects = true) :
    CommandOutcome operation work nowMs c (c.connectCommand operation.action remote work nowMs).1
      (c.connectCommand operation.action remote work nowMs).2 := by
  unfold connectCommand
  split
  · exact .refused .denied
  split
  · exact .refused .loop
  rename_i hlocal
  have hforeign : remote ≠ c.localNode := fun h => hlocal (beq_iff_eq.mpr h)
  have hdial {p : Except AdmissionError LinkEffect × LinkControl}
      (hp : p = if c.manager.reaches remote true then (.error .loop, c)
        else (.ok (.connect ⟨remote, operation.action.mode, operation.action.permanent, none,
          work, none⟩), c)) : CommandOutcome operation work nowMs c p.1 p.2 := by
    subst hp
    split
    · exact .refused .loop
    · exact .dialled remote hremote haction hforeign (Bool.eq_false_of_not_eq_true ‹_›)
  by_cases hresume : (operation.action.permanent && !PeerHub.reaches c.manager remote false) = true
  · have hpermanent : operation.action.permanent = true := (Bool.and_eq_true_iff.mp hresume).1
    rw [if_pos hresume]
    by_cases hpaused : c.manager.retries.any (LinkManager.resumable remote) = true
    · have hresumed : PeerHub.resumePermanentRetry remote operation.action.mode nowMs c.manager
          = (true,
              c.manager.perform (.resumePermanentRetry remote operation.action.mode nowMs)) := by
        change LinkManager.resumePermanentRetry .. = (_, (LinkManager.resumePermanentRetry ..).2)
        simp only [LinkManager.resumePermanentRetry, if_pos hpaused]
      rw [hresumed]
      exact .resumed remote hremote haction hpermanent
    · have hresumed : PeerHub.resumePermanentRetry remote operation.action.mode nowMs c.manager
          = (false, c.manager) := if_neg hpaused
      rw [hresumed]
      exact hdial rfl
  · rw [if_neg hresume]
    exact hdial rfl

/-- Reconnecting resumes the schedule and withdraws what is obsolete. -/
theorem resumeSchedule_eq : ∃ removed : List String, c.resumeSchedule.1 = removed
      ∧ c.resumeSchedule.2 = { c with
        schedule := c.schedule.map fun s => (s.resume c.localNode).withdrawUndesired.2
        manager := disconnectPermanents removed c.manager }
      ∧ ∀ s, c.schedule = some s → removed = (s.resume c.localNode).withdrawUndesired.1 := by
  obtain ⟨localNode, manager, policy, schedule, groups, epoch, admitting⟩ := c
  cases schedule with
  | none => exact ⟨[], rfl, rfl, nofun⟩
  | some s =>
    refine ⟨_, rfl, rfl, fun s' hs' => ?_⟩
    cases hs'
    rfl

theorem command_outcome (operation : Command) (work : Nat) (current : Bool) (nowMs : Nat) :
    CommandOutcome operation work nowMs c (c.command operation work current nowMs).1
      (c.command operation work current nowMs).2 := by
  have heffect : ∀ removed : List String,
      (if removed.isEmpty then LinkEffect.none else .detach removed).dials = [] := by
    intro removed
    split <;> rfl
  unfold NodeLinkControl.command
  split
  · exact .refused .stale
  obtain ⟨action, node⟩ := operation
  cases hremote : (if action.addressed then PeerIdentity.canonicalOperator node else some node) with
  | none => exact .refused .identity
  | some remote =>
    cases action with
    | disconnect => exact .disconnected remote _ (.disconnect remote) (.inl rfl)
    | disconnectPermanent =>
      exact .disconnected remote _ (.disconnectPermanent remote) (.inr (.inl rfl))
    | disconnectAll => exact .held _ .disconnectAll (.inl rfl)
    | disconnectPermanentAll => exact .held _ .disconnectPermanentAll (.inr rfl)
    | disconnectNonPermanentAll =>
      exact .disconnected remote _ .disconnectTemporary (.inr (.inr rfl))
    | reconnectAll =>
      exact .reconnected _ (.resumeRetries nowMs) (heffect _) rfl (.inl rfl)
    | reconnectPermanentAll =>
      exact .reconnected _ (.resumePermanentRetries nowMs) (heffect _) rfl (.inr rfl)
    | _ => exact connectCommand_outcome c work nowMs hremote rfl

theorem peerText_quiets (remote : String) (message : Option Protocol) (replyEnded : Bool)
    : Quiets false c.manager (peerText remote message replyEnded c).2.manager := by
  unfold peerText
  split
  · exact .none rfl
  split
  · exact .none rfl
  split
  · exact .none rfl
  · split <;> exact .none rfl
  · rename_i routes
    have hupdate : (c.manager.updateTopology remote (some (.topology routes))).2
        = c.manager.perform (.updateTopology remote (some (.topology routes))) := rfl
    split
    · rename_i h
      exact .one _ rfl rfl ((congrArg Prod.snd h).symm.trans hupdate)
    · rename_i h
      exact .one _ rfl rfl ((congrArg Prod.snd h).symm.trans hupdate)
    rename_i manager h
    refine ⟨[.updateTopology remote (some (.topology routes)), .rejectLoop remote,
      .endPeer remote], by simp [HubMove.quiet, HubMove.resumes], ?_⟩
    have hmanager : manager = _ := (congrArg Prod.snd h).symm.trans hupdate
    rw [foldl_cons, ← hmanager]
    rfl
  · exact .one (.endPeer remote) rfl rfl rfl
  all_goals exact .none rfl

/-- An incoming peer is published without permanence, as a member of its wanted group, or not at
all. -/
theorem accept_outcome (remote : String) (verified : Bool) : (accept remote verified c).2 = c
      ∨ ∃ name, c.manager.checkGroup name true ((c.groupMember name).map (·.label)) = .ok ()
        ∧ (accept remote verified c).2 = { c with
          manager := c.manager.publish name .transceive false
            ((c.groupMember name).map (·.label)) (c.groupMember name) } := by
  unfold accept
  split
  · exact .inl rfl
  rename_i name _
  split
  · exact .inl rfl
  unfold LinkManager.admitIncomingMember LinkManager.attachMember
  by_cases hpolicy : (!c.policy name verified) = true
  · rw [if_pos hpolicy]
    exact .inl rfl
  rw [if_neg hpolicy]
  cases hcheck : c.manager.checkGroup name true ((c.groupMember name).map (·.label)) with
  | error e => exact .inl rfl
  | ok u => exact .inr ⟨name, hcheck, rfl⟩

/-! ## What becomes of a dial -/

/-- The result of a returned dial, whether only topology blocks it, and the hub after it. -/
inductive Outcome (dial : ConnectAttempt) (answered : Bool) (nowMs : Nat) (m : LinkManager) :
    Except AdmissionError Bool → Bool → LinkManager → Prop
  /-- Not published; the hub stays. -/
  | refused (e : AdmissionError) : Outcome dial answered nowMs m (.error e) false m
  | dropped (hanswered : answered = false) (hpermanent : dial.permanent = false) :
      Outcome dial answered nowMs m (.ok false) false m
  | attached (hanswered : answered = true)
      (hcheck : m.checkGroup dial.remote true (dial.group.map (·.label)) = .ok ()) :
      Outcome dial answered nowMs m (.ok true) false
        (m.publish dial.remote dial.mode dial.permanent (dial.group.map (·.label)) dial.group)
  /-- A loop blocks a permanent dial, and its intent is kept. -/
  | blocked (hanswered : answered = true) (hpermanent : dial.permanent = true)
      (hcheck : m.checkGroup dial.remote true (dial.group.map (·.label)) = .error .loop) :
      Outcome dial answered nowMs m (.error .loop) true
        (m.retainTopologyBlockedGroup dial.remote dial.mode (dial.group.map (·.label)) dial.group)
  /-- A permanent dial without an answer is retried. -/
  | retained (hanswered : answered = false) (hpermanent : dial.permanent = true)
      (hcheck : m.checkGroup dial.remote true (dial.group.map (·.label)) = .ok ()) :
      Outcome dial answered nowMs m (.ok false) false
        (LinkManager.refreshGroupSelections { m with
          retries := m.retries ++ [LinkManager.automaticRetry dial.remote dial.mode nowMs none
            (dial.group.map (·.label)) dial.group] })

variable (dial : ConnectAttempt)

theorem publishConnect_outcome (answered : Bool) (nowMs : Nat)
    (m : LinkManager) : Outcome dial answered nowMs m (publishConnect dial answered nowMs m).1
      (publishConnect dial answered nowMs m).2.1 (publishConnect dial answered nowMs m).2.2 := by
  have hattach : PeerHub.attachMember dial.remote dial.mode dial.permanent dial.group m
      = m.attachMember dial.remote dial.mode dial.permanent dial.group := rfl
  have hretain : PeerHub.retainRetryMember dial.remote dial.mode nowMs dial.group m
      = m.retainRetryMember dial.remote dial.mode nowMs dial.group := rfl
  unfold publishConnect
  rw [hattach, hretain]
  unfold LinkManager.attachMember LinkManager.retainRetryMember
  cases hanswered : answered with
  | true =>
    cases hcheck : m.checkGroup dial.remote true (dial.group.map (·.label)) with
    | ok u => exact .attached rfl hcheck
    | error e =>
      cases e with
      | loop =>
        cases hpermanent : dial.permanent with
        | true => exact .blocked rfl hpermanent hcheck
        | false => exact .refused .loop
      | _ => exact .refused _
  | false =>
    cases hpermanent : dial.permanent with
    | true =>
      cases hcheck : m.checkGroup dial.remote true (dial.group.map (·.label)) with
      | ok u => exact .retained rfl hpermanent hcheck
      | error e => exact .refused e
    | false => exact .dropped rfl hpermanent

/-- The reservation of a scheduled dial is settled. -/
def settleDial (dial : ConnectAttempt) (accepted : Bool) (c : LinkControl) : LinkControl :=
  match dial.scheduled with
  | none => c
  | some reservation =>
    { c with schedule := c.schedule.map fun schedule => (schedule.complete reservation accepted).2 }

@[simp] theorem settleDial_manager (accepted : Bool) :
    (settleDial dial accepted c).manager = c.manager := by
  unfold settleDial
  split <;> rfl

@[simp] theorem settleDial_localNode (accepted : Bool) :
    (settleDial dial accepted c).localNode = c.localNode := by
  unfold settleDial
  split <;> rfl

section Calendar

variable [ScheduleProvider] (dial : ConnectAttempt) (answered current : Bool) (nowMs : Nat)
  (clock : Option (CivilTime × Nat)) (activity : String → Option Nat) (c : LinkControl)

/-- A returned dial passes the last gate. `s` is the schedule after the fresh calendar. -/
structure Admissible (s : Option LinkScheduler) : Prop where
  admitting : c.admitting = true
  current : current = true
  policy : c.policy dial.remote true = true
  reserved : ∀ reservation, dial.scheduled = some reservation → s.any (·.current reservation) = true

/-- The tick of the fresh calendar: a scheduled dial that returns to a node with windows makes one,
if the time is valid. -/
def freshTick : Option LinkTick :=
  if dial.scheduled.isSome && c.schedule.any (·.requiresCivilTime) then
    (clock.filter fun (_, second) => decide (second < 60)).map fun (civil, second) =>
      ⟨civil, second, nowMs, activity, fun _ => false, false⟩
  else none

theorem recheckCalendar_eq : (c.recheckCalendar dial nowMs clock activity).2
      = (freshTick dial nowMs clock activity c).elim c fun tick => (c.tickWithWarnings tick).2 := by
  unfold recheckCalendar freshTick
  split
  · split <;> rename_i h <;> rw [h] <;> rfl
  · rfl

theorem tickWithWarnings_eq (tick : LinkTick) : (c.tickWithWarnings tick).2 = { c with
      schedule := c.schedule.map fun s =>
        (s.tickWithWarnings tick fun route => c.manager.ownsPermanent route.remote).2 } := by
  obtain ⟨localNode, manager, policy, schedule, groups, epoch, admitting⟩ := c
  cases schedule <;> rfl

/-- A fresh calendar changes nothing but the schedule. -/
theorem recheckCalendar_schedule : (c.recheckCalendar dial nowMs clock activity).2
      = { c with schedule := (c.recheckCalendar dial nowMs clock activity).2.schedule } := by
  rw [recheckCalendar_eq]
  cases freshTick dial nowMs clock activity c with
  | none => rfl
  | some tick => rw [Option.elim_some, tickWithWarnings_eq]

/-- **What `finish_connect_at` does**: the calendar is rechecked, the dial comes to an outcome, and
its reservation is settled. Only a dial that passes the last gate is published or kept. -/
theorem finishConnectAt_eq :
    ∃ (result : Except AdmissionError Bool) (blocked : Bool) (m : LinkManager),
      Outcome dial answered nowMs c.manager result blocked m
      ∧ (blocked = true ∨ result.toBool = true →
        Admissible dial current c (c.recheckCalendar dial nowMs clock activity).2.schedule)
      ∧ c.finishConnectAt dial answered current nowMs clock activity
        = (result, settleDial dial (blocked || (result.toBool && (answered || dial.permanent)))
          { c with
            schedule := (c.recheckCalendar dial nowMs clock activity).2.schedule
            manager := m }) := by
  have hschedule := recheckCalendar_schedule dial nowMs clock activity c
  generalize hrecheck : c.recheckCalendar dial nowMs clock activity = rechecked at hschedule
  obtain ⟨valid, c₁⟩ := rechecked
  dsimp only at hschedule
  generalize c₁.schedule = s at hschedule
  subst hschedule
  unfold finishConnectAt
  rw [hrecheck]
  dsimp only
  unfold settleDial
  by_cases hgate : (!c.admitting || !current
      || !(dial.scheduled.all fun reservation => s.any (·.current reservation)) || !valid) = true
  · simp only [if_pos hgate]
    refine ⟨_, false, _, .refused .stale, by simp [Except.toBool], ?_⟩
    cases dial.scheduled <;> rfl
  by_cases hpolicy : (!c.policy dial.remote true) = true
  · simp only [if_neg hgate, if_pos hpolicy]
    refine ⟨_, false, _, .refused .denied, by simp [Except.toBool], ?_⟩
    cases dial.scheduled <;> rfl
  simp only [if_neg hgate, if_neg hpolicy]
  simp only [Bool.or_eq_true, Bool.not_eq_true', not_or, Bool.not_eq_false] at hgate
  refine ⟨_, _, _, publishConnect_outcome dial answered nowMs c.manager, fun _ => ?_, ?_⟩
  · refine ⟨hgate.1.1.1, hgate.1.1.2, by simpa using hpolicy, fun reservation hreserved => ?_⟩
    have hall := hgate.1.2
    rwa [hreserved, all_some] at hall
  · cases dial.scheduled <;> rfl

end Calendar

/-- The result of a returned retry and the hub after it. -/
inductive RetryOutcome (retry : RetryWork) (nowMs : Nat) (m : LinkManager) :
    Except AdmissionError Bool → LinkManager → Prop
  | unpublished (result : Except AdmissionError Bool) (h : result ≠ .ok true) :
      RetryOutcome retry nowMs m result (m.finishRetry retry.attempt false nowMs)
  | rejected (e : AdmissionError) (m₁ : LinkManager)
      (h : m.publishRetry retry.attempt = (.error e, m₁)) :
      RetryOutcome retry nowMs m (.error e) (m₁.finishRetry retry.attempt false nowMs)
  | published (m₁ : LinkManager) (h : m.publishRetry retry.attempt = (.ok (), m₁)) :
      RetryOutcome retry nowMs m (.ok true) (m₁.finishRetry retry.attempt true nowMs)

theorem finishRetry_eq (retry : RetryWork) (answered current : Bool) (nowMs : Nat)
    : ∃ result m, RetryOutcome retry nowMs c.manager result m
      ∧ finishRetry retry answered current nowMs c = (result, { c with manager := m }) := by
  unfold finishRetry
  by_cases hstale : (!c.admitting || !current) = true
  · rw [if_pos hstale]
    exact ⟨_, _, .unpublished (.error .stale) nofun, rfl⟩
  rw [if_neg hstale]
  by_cases hdenied : (!c.policy retry.attempt.name true) = true
  · rw [if_pos hdenied]
    exact ⟨_, _, .unpublished (.error .denied) nofun, rfl⟩
  rw [if_neg hdenied]
  cases answered with
  | false => exact ⟨_, _, .unpublished (.ok false) nofun, rfl⟩
  | true =>
    cases h : c.manager.publishRetry retry.attempt with
    | mk published m₁ =>
      cases published with
      | error e => exact ⟨_, _, .rejected e m₁ h, rfl⟩
      | ok u => exact ⟨_, _, .published m₁ h, rfl⟩

end LinkControl

namespace LinkDesk

variable [ScheduleProvider] {d d' : LinkDesk} {move : LinkMove}

/-! ## The schedule after a move -/

/-- How a move can leave the schedule. -/
inductive Steered (d : LinkDesk) : LinkMove → Option LinkScheduler → Prop
  | kept (move : LinkMove) : Steered d move d.control.schedule
  | ticked (tick : LinkTick) : Steered d (.tick tick) (d.control.tickWithWarnings tick).2.schedule
  | detached (work : Nat) (current : Bool) (s s' : LinkScheduler) (token : LinkReservation)
      (hs : d.control.schedule = some s) (hnext : s.nextOperation = (some token, s'))
      (haction : token.action = .detach) :
      Steered d (.nextScheduled work current) (some (s'.complete token true).2)
  | dialled (work : Nat) (current : Bool) (s s' : LinkScheduler) (token : LinkReservation)
      (hs : d.control.schedule = some s) (hnext : s.nextOperation = (some token, s'))
      (haction : token.action = .attach) : Steered d (.nextScheduled work current) (some s')
  | paused (operation : Command) (work : Nat) (current : Bool) (nowMs : Nat) :
      Steered d (.command operation work current nowMs)
        (d.control.schedule.map (·.pause d.control.localNode))
  | resumed (operation : Command) (work : Nat) (current : Bool) (nowMs : Nat)
      (haction : operation.action.reconnects = true) :
      Steered d (.command operation work current nowMs)
        (d.control.schedule.map fun s => (s.resume d.control.localNode).withdrawUndesired.2)
  | cancelled (dial : ConnectAttempt) (token : LinkReservation) (hdial : dial ∈ d.dials)
      (htoken : dial.scheduled = some token) :
      Steered d (.cancelConnect dial) (d.control.schedule.map fun s => (s.complete token false).2)
  /-- A returned dial that is not scheduled leaves the schedule as the fresh calendar has it. -/
  | finished (dial : ConnectAttempt) (answered current : Bool) (nowMs : Nat)
      (clock : Option (CivilTime × Nat)) (activity : String → Option Nat) (accepted : Bool)
      (hdial : dial ∈ d.dials) :
      Steered d (.finishConnect dial answered current nowMs clock activity)
        (dial.scheduled.elim id (fun token => Option.map fun s => (s.complete token accepted).2)
          (d.control.recheckCalendar dial nowMs clock activity).2.schedule)
  | reconfigured (policy : AccessPolicy) (candidate : Option LinkConfiguration)
      (s : Option LinkScheduler) (hs : schedule candidate = some s) :
      Steered d (.reconfigure policy candidate) s

/-- How a move can leave the hub. -/
inductive Hubs (d : LinkDesk) : LinkMove → LinkManager → Prop
  /-- Nothing is recorded, and none but a command resumes a retry. -/
  | quiet {move : LinkMove} {m' : LinkManager}
      (h : LinkControl.Quiets move.resumes d.control.manager m') : Hubs d move m'
  | accepted (remote : String) (verified : Bool) (name : String)
      (hcheck : d.control.manager.checkGroup name true
        ((d.control.groupMember name).map (·.label)) = .ok ()) :
      Hubs d (.accept remote verified) (d.control.manager.publish name .transceive false
        ((d.control.groupMember name).map (·.label)) (d.control.groupMember name))
  | connected (dial : ConnectAttempt) (answered current : Bool) (nowMs : Nat)
      (clock : Option (CivilTime × Nat)) (activity : String → Option Nat)
      (hdial : dial ∈ d.dials) (result : Except AdmissionError Bool) (blocked : Bool)
      (m : LinkManager)
      (houtcome : LinkControl.Outcome dial answered nowMs d.control.manager result blocked m)
      (hadmissible : blocked = true ∨ result.toBool = true → LinkControl.Admissible dial current
        d.control (d.control.recheckCalendar dial nowMs clock activity).2.schedule) :
      Hubs d (.finishConnect dial answered current nowMs clock activity) m
  | retried (retry : RetryWork) (answered current : Bool) (nowMs : Nat)
      (result : Except AdmissionError Bool) (m : LinkManager)
      (houtcome : LinkControl.RetryOutcome retry nowMs d.control.manager result m) :
      Hubs d (.finishRetry retry answered current nowMs) m
  | called (inputsIdle : Bool) :
      Hubs d (.callback inputsIdle) (callback inputsIdle d.control).manager

structure Stepped (d : LinkDesk) (move : LinkMove) (d' : LinkDesk) : Prop where
  localNode : d'.control.localNode = d.control.localNode
  hub : Hubs d move d'.control.manager
  schedule : Steered d move d'.control.schedule
  /-- A dial in flight was in flight before, or an operator's command has just asked for it, or
  `next_scheduled` has just reserved it. -/
  dials : ∀ dial ∈ d'.dials, dial ∈ d.dials ∨ dial.scheduled = none
    ∨ ∃ s s' token, d.control.schedule = some s ∧ s.nextOperation = (some token, s')
      ∧ token.action = .attach ∧ dial.scheduled = some token ∧ dial.remote = token.spec.remote
      ∧ d'.control.schedule = some s'

theorem nextScheduled_stepped (work : Nat) (current : Bool)
    (h : d.Step (.nextScheduled work current) d') : d.Stepped (.nextScheduled work current) d' := by
  have hout := nextScheduled_outcome d.control work current
  unfold Step step at h
  dsimp only at h
  generalize d.control.nextScheduled work current = out at hout h
  obtain ⟨effect, c'⟩ := out
  cases h
  cases hout with
  | idle => exact ⟨rfl, .quiet (.none rfl), .kept _, fun _ => .inl⟩
  | detach s s' token hs hnext haction =>
    exact ⟨rfl, .quiet (.one (.disconnectPermanent _) rfl rfl rfl),
      .detached work current s s' token hs hnext haction, fun _ => .inl⟩
  | dial s s' token hs hnext haction =>
    refine ⟨rfl, .quiet (.none rfl), .dialled work current s s' token hs hnext haction,
      fun dial hdial => ?_⟩
    rcases mem_cons.mp hdial with rfl | hdial
    · exact .inr (.inr ⟨s, s', token, hs, hnext, haction, rfl, rfl, rfl⟩)
    · exact .inl hdial

theorem command_stepped (operation : Command) (work : Nat) (current : Bool) (nowMs : Nat)
    (h : d.Step (.command operation work current nowMs) d') :
    d.Stepped (.command operation work current nowMs) d' := by
  have hout := command_outcome d.control operation work current nowMs
  unfold Step step at h
  dsimp only at h
  generalize d.control.command operation work current nowMs = out at hout h
  obtain ⟨result, c'⟩ := out
  cases h
  cases hout with
  | refused => exact ⟨rfl, .quiet (.none rfl), .kept _, fun _ => .inl⟩
  | dialled =>
    refine ⟨rfl, .quiet (.none rfl), .kept _, fun dial hdial => ?_⟩
    rcases mem_cons.mp hdial with rfl | hdial
    · exact .inr (.inl rfl)
    · exact .inl hdial
  | resumed remote =>
    exact ⟨rfl, .quiet (.resume (.resumePermanentRetry remote operation.action.mode nowMs) rfl rfl),
      .kept _, fun _ => .inl⟩
  | disconnected _ _ op hop =>
    have hquiet : op.quiet = true := by rcases hop with rfl | rfl | rfl <;> rfl
    exact ⟨rfl, .quiet (.resume op hquiet rfl), .kept _, fun _ => .inl⟩
  | held _ op hop =>
    have hquiet : op.quiet = true := by rcases hop with rfl | rfl <;> rfl
    exact ⟨rfl, .quiet (.resume op hquiet rfl), .paused operation work current nowMs, fun _ => .inl⟩
  | reconnected effect op heffect haction hop =>
    have hquiet : op.quiet = true := by rcases hop with rfl | rfl <;> rfl
    obtain ⟨removed, -, hreserved, -⟩ := resumeSchedule_eq d.control
    rw [hreserved]
    refine ⟨rfl,
      .quiet (.withdraw removed [op] (forall_mem_singleton.mpr ⟨hquiet, fun _ => rfl⟩) rfl),
      .resumed operation work current nowMs haction, fun dial hdial => .inl ?_⟩
    change dial ∈ effect.dials ++ d.dials at hdial
    rwa [heffect] at hdial

/-- **What every move does.** -/
theorem step_stepped (h : d.Step move d') : d.Stepped move d' := by
  cases move with
  | nextScheduled work current => exact nextScheduled_stepped work current h
  | command operation work current nowMs =>
    exact command_stepped operation work current nowMs h
  | tick tick =>
    cases h
    refine ⟨?_, .quiet (.none ?_), .ticked tick, fun _ => .inl⟩ <;>
      rw [tickWithWarnings_eq]
  | accept remote verified =>
    cases h
    rcases accept_outcome d.control remote verified with he | ⟨name, hcheck, he⟩ <;> rw [he]
    · exact ⟨rfl, .quiet (.none rfl), .kept _, fun _ => .inl⟩
    · exact ⟨rfl, .accepted remote verified name hcheck, .kept _, fun _ => .inl⟩
  | finishConnect dial answered current nowMs clock activity =>
    obtain ⟨hdial, he⟩ := ite_none_right_eq_some.mp h
    obtain ⟨result, blocked, m, hout, hadmissible, hfinish⟩ := finishConnectAt_eq dial answered
      current nowMs clock activity d.control
    have hfinished := Steered.finished dial answered current nowMs clock activity
      (blocked || (result.toBool && (answered || dial.permanent))) hdial
    cases he
    rw [hfinish]
    refine ⟨settleDial_localNode .., ?_, ?_,
      fun _ h => .inl (mem_of_mem_erase h)⟩
    · rw [settleDial_manager]
      exact .connected dial answered current nowMs clock activity hdial result blocked m
        hout hadmissible
    unfold settleDial
    cases hscheduled : dial.scheduled with
    | none | some token => rwa [hscheduled] at hfinished
  | cancelConnect dial =>
    obtain ⟨hdial, he⟩ := ite_none_right_eq_some.mp h
    cases he
    refine ⟨settleDial_localNode .., .quiet (.none (settleDial_manager ..)),
      ?_, fun _ h => .inl (mem_of_mem_erase h)⟩
    unfold NodeLinkControl.cancelConnect
    cases hscheduled : dial.scheduled with
    | none => exact .kept _
    | some token => exact .cancelled dial token hdial hscheduled
  | takeRetry nowMs work current =>
    cases h
    have hsame : (takeRetry nowMs work current d.control).2.localNode = d.control.localNode
        ∧ (takeRetry nowMs work current d.control).2.schedule = d.control.schedule := by
      unfold takeRetry
      split <;> exact ⟨rfl, rfl⟩
    have hquiet :
        Quiets false d.control.manager (takeRetry nowMs work current d.control).2.manager := by
      unfold takeRetry
      split
      · exact .none rfl
      · exact .one (.takeRetry nowMs) rfl rfl rfl
    refine ⟨hsame.1, .quiet hquiet, ?_, fun _ => .inl⟩
    change Steered d _ (takeRetry nowMs work current d.control).2.schedule
    rw [hsame.2]
    exact .kept _
  | finishRetry retry answered current nowMs =>
    obtain ⟨-, he⟩ := ite_none_right_eq_some.mp h
    obtain ⟨result, m, hout, hfinish⟩ := finishRetry_eq d.control retry answered current nowMs
    cases he
    rw [hfinish]
    exact ⟨rfl, .retried retry answered current nowMs result m hout, .kept _, fun _ => .inl⟩
  | peerText remote message replyEnded =>
    cases h
    refine ⟨?_, .quiet (peerText_quiets d.control remote message replyEnded), ?_, fun _ => .inl⟩
    · unfold peerText
      repeat' split
      all_goals rfl
    · unfold peerText
      repeat' split
      all_goals exact .kept _
  | ended remote =>
    cases h
    exact ⟨rfl, .quiet (.one (.endPeer remote) rfl rfl rfl), .kept _, fun _ => .inl⟩
  | reclaimed remote nowMs =>
    cases h
    exact ⟨rfl, .quiet (.one (.reclaim remote nowMs) rfl rfl rfl), .kept _, fun _ => .inl⟩
  | withdrawRemoved candidate =>
    cases h
    exact ⟨rfl, .quiet (.withdraw _ [] (forall_mem_nil _) rfl), .kept _, fun _ => .inl⟩
  | reconfigure policy candidate =>
    obtain ⟨s, hs, rfl⟩ := map_eq_some_iff.mp h
    exact ⟨rfl, .quiet (.one .invalidateGeneration rfl rfl rfl),
      .reconfigured policy candidate s hs, fun _ => .inl⟩
  | close =>
    cases h
    exact ⟨rfl, .quiet (.one .close rfl rfl rfl), .kept _, fun _ => .inl⟩
  | callback =>
    cases h
    exact ⟨rfl, .called _, .kept _, fun _ => .inl⟩

end LinkDesk

end RptAdvanced.Runtime
