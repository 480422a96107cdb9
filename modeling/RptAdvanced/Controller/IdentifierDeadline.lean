import RptAdvanced.Controller.Keying
import RptAdvanced.Controller.Run

/-!
# The identifiers' deadlines and times

`select_identifier` chooses twice: the foremost due identifier, if it may start politely, and else
one whose polite wait is over. An overdue identifier that no polite first-key identifier of higher
priority holds back therefore leaves no room for an empty choice (`selectIdentifier_overdue`), and
the choice takes the slot of the same sample, from a tail if need be (`startSlot_identifier`).

The controller keeps times of its own beside the policy's. Every part of a step only makes entries
in its `Book`, and `Book.Sound.enter` says what an entry keeps.

* `timed_of_reachable`: in every run the rules are those of the identifiers, and the times agree.
* `identifier_deadline`: the deadline, at every audio step of every run.
* `identifier_times`: the times kept twice, the due time of an armed rule, and no time to come.
-/

namespace RptAdvanced.Controller

open Audio Lib Policy IdentifierPolicy Option

namespace NodeController

variable {S F : Type}

/-- Identifier `k` is due and past its retry time. -/
def Due (c : NodeController S F) (k : Nat) (id : Identifier S) : Prop :=
  c.ids[k]? = some id ∧ ∃ s, c.identifiers.states[k]? = some s ∧
    due id.rule s c.now = true ∧ s.retryAfter ≤ c.now

/-- When identifier `k` became due, as the controller records it. -/
def dueSince (c : NodeController S F) (k : Nat) (id : Identifier S) : Nat :=
  if id.firstKeyOnly then c.firstDue.getD k c.now
  else satAdd (c.satisfied.getD k c.now) (samples id.intervalMs)

/-- Identifier `k` has been due for its polite maximum wait. -/
def Overdue (c : NodeController S F) (k : Nat) (id : Identifier S) : Prop :=
  ∃ maximum, id.politeMaximumWaitMs = some maximum ∧ samples maximum ≤ c.now - c.dueSince k id

/-- Identifier `k` is the first of the due ones of highest priority. -/
def Foremost (c : NodeController S F) (k : Nat) (id : Identifier S) : Prop :=
  c.Due k id ∧ ∀ j other, c.Due j other →
    other.priority ≤ id.priority ∧ (j < k → other.priority < id.priority)

/-- The foremost due identifier is no polite first-key identifier of priority over `id`. -/
def Unhindered (c : NodeController S F) (id : Identifier S) : Prop :=
  ∀ k high, c.Foremost k high → high.firstKeyOnly = true →
    high.politeMaximumWaitMs.isSome = true → high.priority ≤ id.priority

/-- The slot is empty or holds a tail. -/
def Yields (c : NodeController S F) : Prop :=
  ∀ source ∈ c.telemetry.active, ∃ index, source = .tail index

/-- The rules are those of the identifiers. -/
def Ruled (c : NodeController S F) : Prop := c.rules = c.ids.map Identifier.rule

variable {c d e : NodeController S F} {k : Nat} {id : Identifier S}

/-- `d` is of the time of `c`, and its book has some entries more. -/
structure Enters (c d : NodeController S F) : Prop where
  now : d.now = c.now
  book : Entries c.now c.book d.book

theorem Enters.trans (h : Enters c d) (k : Enters d e) : Enters c e :=
  ⟨k.now.trans h.now, h.book.trans (h.now ▸ k.book)⟩

theorem SameCore.enters (h : SameCore c d) : Enters c d := ⟨h.now, h.book⟩

/-! ## The book -/

namespace Book

variable {b b' b₀ : Book} {now t k : Nat}

/-- The rules are those of the identifiers, the times kept of them the policy's, and no time is past
`now`. -/
structure Sound (now : Nat) (b : Book) : Prop where
  ruled : b.rules = b.own
  policy : IdentifierPolicy.Sound b.rules b.identifiers
  agree : b.satisfied = b.identifiers.states.map IdentifierState.satisfied
  past : ∀ s ∈ b.identifiers.states, s.satisfied ≤ now
  dues : b.firstDue.length = b.rules.length
  audio : b.lastAudio ≤ now

/-- Since `b₀` an armed rule kept its due time, or it is due since `now`. -/
def Dated (now : Nat) (b₀ b : Book) : Prop :=
  ∀ k, b.identifiers.Pending k → b₀.identifiers.Pending k ∧ b.firstDue[k]? = b₀.firstDue[k]? ∨
    b.firstDue[k]? = some now

theorem Sound.agree_note (h : b.Sound now) (c : IdentifierCall) :
    (b.note c).satisfied = (b.note c).identifiers.states.map IdentifierState.satisfied := by
  have hagree := h.agree
  refine List.ext_getElem? fun k => ?_
  cases c with
  | activity => simp [note, hagree, call, IdentifierPolicy.activity, Function.comp_def]
  | firstKey idle t =>
    rcases firstKey_cases b.identifiers b.rules idle t with hk | ⟨j, rule, hk, -⟩
    · simp [note, hk, hagree]
    · by_cases hj : j = k <;> simp [note, hk, hagree, hj, Function.comp_def]
  | select => exact congrArg (·[k]?) hagree
  | defer j t =>
    simp only [note, call, defer]
    split <;> by_cases hj : j = k <;> simp [hagree, hj, Function.comp_def]
  | complete j t =>
    simp only [note, complete, h.ruled]
    cases b.own[j]? with
    | none => exact congrArg (·[k]?) hagree
    | some chosen =>
      simp only [hagree, List.getElem?_map, List.getElem?_mapIdx, map_map]
      cases decide (k < b.own.length) && covers b.own j chosen k <;> rfl

/-- **An entry keeps the book sound**, and dates what it arms. -/
theorem Sound.enter (h : b.Sound now) (he : Entry now b b') : b'.Sound now ∧ Dated now b b' := by
  cases he with
  | audio time ht =>
    exact ⟨{ h with audio := ht.trans (max_le h.audio le_rfl) }, fun k hk => .inl ⟨hk, rfl⟩⟩
  | note c hc =>
    have hids : (b.note c).identifiers = b.identifiers.call b.rules c := by cases c <;> rfl
    have hstate {i s'} (hi : (b.note c).identifiers.states[i]? = some s') :=
      call_becomes h.policy.length (hids ▸ hi)
    refine ⟨⟨by cases c <;> exact h.ruled, by cases c <;> exact hids ▸ h.policy.call _,
      h.agree_note c, fun s' hs' => ?_, ?_, by cases c <;> exact h.audio⟩, ?_⟩
    · obtain ⟨i, hi⟩ := List.mem_iff_getElem?.mp hs'
      obtain ⟨s, hs, hb⟩ := hstate hi
      rcases hb.satisfied with he | he
      · exact he ▸ h.past s (List.mem_of_getElem? hs)
      · exact (hc _ he).le
    · cases c with
      | firstKey idle t =>
        refine .trans ?_ h.dues
        simp only [Book.note]
        split <;> simp
      | _ => exact h.dues
    · rintro k ⟨s', hs', hp⟩
      obtain ⟨s, hs, hb⟩ := hstate hs'
      have hold (hne) := (hb.pending hp).resolve_right hne
      cases c with
      | firstKey idle t =>
        obtain rfl := hc t rfl
        by_cases hk : (b.identifiers.firstKey b.rules idle t).1 = some k
        · right
          have hlt := h.dues ▸ h.policy.length ▸ (List.getElem?_eq_some_iff.mp hs).1
          simp [note, hk, hlt]
        · refine .inl ⟨⟨s, hs, hold ?_⟩, ?_⟩
          · rintro ⟨_, _, ⟨⟩, h⟩
            exact hk h
          · simp only [note]
            split
            · rfl
            · rename_i j hj
              exact List.getElem?_set_ne (by rintro rfl; exact hk hj)
      | _ => exact .inl ⟨⟨s, hs, hold nofun⟩, rfl⟩

theorem Sound.entries (h : b.Sound now) (he : Entries now b b') :
    b'.Sound now ∧ Dated now b b' := by
  induction he with
  | refl => exact ⟨h, fun k hk => .inl ⟨hk, rfl⟩⟩
  | tail _ he ih =>
    obtain ⟨hs, hd⟩ := ih.1.enter he
    refine ⟨hs, fun k hk => ?_⟩
    rcases hd k hk with ⟨hk, heq⟩ | hnow
    · exact heq ▸ ih.2 k hk
    · exact .inr hnow

end Book

/-! ## The choice -/

theorem Ruled.ready_iff (h : c.Ruled) {rule : IdentifierRule} :
    c.identifiers.Ready c.rules c.now k rule ↔ ∃ id, id.rule = rule ∧ c.Due k id := by
  unfold IdentifierPolicy.Ready Due
  rw [h, List.getElem?_map, map_eq_some_iff]
  constructor
  · rintro ⟨⟨id, hid, rfl⟩, hs⟩
    exact ⟨id, rfl, hid, hs⟩
  · rintro ⟨id, rfl, hid, hs⟩
    exact ⟨⟨id, hid, rfl⟩, hs⟩

theorem idExpired_of_overdue (hid : c.ids[k]? = some id) (h : c.Overdue k id) :
    c.idExpired k = true := by
  obtain ⟨maximum, hmax, hle⟩ := h
  simp only [idExpired, idReady, hid, hmax, Option.filter, if_true]
  exact decide_eq_true hle

/-- **An overdue identifier leaves no empty choice**, unless a polite first-key identifier of higher
priority is the foremost. -/
theorem selectIdentifier_overdue {receiving busy afterHang : Bool} (hc : c.Ruled)
    (hopen : (receiving && !c.transmitsDuringReceive) = false) (hdue : c.Due k id)
    (hover : c.Overdue k id) (hfirst : c.Unhindered id) :
    ∃ j, c.selectIdentifier receiving busy afterHang = some j ∧ (c.ids[j]?).isSome = true := by
  have hready := hc.ready_iff.mpr ⟨id, rfl, hdue⟩
  -- the first selection finds the foremost identifier, since one is due
  obtain ⟨j, hj, -⟩ := selectWhere_some hopen hready (fun _ => true) rfl
  rw [← select] at hj
  obtain ⟨high, hfore⟩ : ∃ high, c.Foremost j high := by
    obtain ⟨rule, hrule, hall⟩ := select_best hj
    obtain ⟨high, rfl, hhigh⟩ := hc.ready_iff.mp hrule
    exact ⟨high, hhigh, fun i other ho => hall i _ (hc.ready_iff.mpr ⟨other, rfl, ho⟩)⟩
  simp only [selectIdentifier, hj, filter_some]
  split
  · exact ⟨j, rfl, by rw [hfore.1.1]; rfl⟩
  -- if that one has to wait, the overdue identifier is eligible for the second
  have heligible : c.deadlineEligible (c.minimumPriority (some j)) k = true := by
    simp only [deadlineEligible, idExpired_of_overdue hdue.1 hover, minimumPriority,
      bind_some, hfore.1.1, hdue.1, Bool.true_and]
    split
    · rename_i hmin hsome
      cases hsome
      obtain ⟨hpolicy, ⟨⟩⟩ := ite_none_right_eq_some.mp hmin
      rw [Bool.and_eq_true] at hpolicy
      exact decide_eq_true (hfirst j high hfore hpolicy.1 hpolicy.2)
    · rfl
  obtain ⟨l, hl, hleligible⟩ := selectWhere_some hopen hready _ heligible
  refine ⟨l, hl, ?_⟩
  by_contra hnone
  simp [deadlineEligible, idExpired, not_isSome_iff_eq_none.mp hnone] at hleligible

/-! ## The slot -/

section

variable [PcmStreamReader S F] {i : StepInput F}

/-- A tail as a selected identifier leaves it. -/
def preempted (item : TailState S) : TailState S :=
  if item.started then { item.mapPlayback Playback.rewind with suspended := true }
  else item.mapPlayback Playback.cancel

/-- Preemption empties the slot that holds at most a tail. -/
theorem preemptTail_free (hslot : c.Yields) :
    c.preemptTail.telemetry.active = none ∧ c.preemptTail.ids = c.ids := by
  unfold preemptTail
  split
  · split <;> exact ⟨rfl, rfl⟩
  rename_i hother
  refine ⟨eq_none_iff_forall_ne_some.mpr fun source hsource => ?_, rfl⟩
  obtain ⟨index, rfl⟩ := hslot source hsource
  exact hother index hsource

theorem preemptTail_item {index : Nat} {item : TailState S}
    (hactive : c.telemetry.active = some (.tail index))
    (hitem : c.tails.items[index]? = some item) :
    c.preemptTail.tails.items[index]? = some (preempted item) := by
  obtain ⟨hlt, rfl⟩ := List.getElem?_eq_some_iff.mp hitem
  simp [preemptTail, hactive, setActive, preempted, hlt]

/-- **A selected identifier takes the slot** if it is empty or holds a tail. -/
theorem startSlot_identifier {g : Gate} {rel : Release} {q : Readiness} {selected : Option Nat}
    (hin : i.input.isSome = true) (hmay : g.mayTransmit = true) (hslot : c.Yields)
    (hselect : selected = some k) (hk : (c.ids[k]?).isSome = true) :
    (c.startSlot i g rel q selected).telemetry.active = some (.identifier k) ∧
      (c.startSlot i g rel q selected).tails = c.preemptTail.tails := by
  obtain ⟨id, hid⟩ := isSome_iff_exists.mp hk
  obtain ⟨hfree, hids⟩ := preemptTail_free hslot
  simp only [startSlot, hmay, hselect, hin, isSome_some, Bool.and_self, if_true, hfree,
    isNone_none, startPlanned, hids, hid]
  exact ⟨rfl, rfl⟩

variable (c i)

/-- The controller of a step once courtesy, status and parrot had their chance to start. -/
def offered : NodeController S F := ((c.observe i).1.admitTelemetry i (c.observe i).2).1

/-- The same once a rising edge armed a first-key identifier. -/
def armed : NodeController S F := ((c.observe i).1.admitIdentifier i (c.observe i).2).1

/-- The same once the slot's owner is chosen. -/
def chosen : NodeController S F := ((c.observe i).1.chooseMedia i (c.observe i).2).1

theorem admitIdentifier_choice (o : Observed) : (c.admitIdentifier i o).2 =
      (c.admitIdentifier i o).1.chooseIdentifier i (c.admitTelemetry i o).2.1
        (c.admitTelemetry i o).2.2.1 ∧
    (c.admitIdentifier i o).1.telemetry = (c.admitTelemetry i o).1.telemetry ∧
    (c.admitIdentifier i o).1.tails = (c.admitTelemetry i o).1.tails := by
  unfold admitIdentifier armIdentifier
  dsimp only
  split <;> exact ⟨rfl, rfl, rfl⟩

/-! ## Runs -/

variable [Pcm F]

omit [PcmStreamReader S F] [Pcm F] in
theorem keyTraffic_enters (a : Admission) (r : Rendered F) (d : Demand) :
    Enters c (c.keyTraffic i a r d) := by
  refine ⟨rfl, .single (.audio _ ?_)⟩
  change (c.duplex.update ..).lastAudio ≤ max c.duplex.lastAudio c.now
  unfold DuplexPolicy.update
  repeat' split
  all_goals simp

omit [PcmStreamReader S F] in
theorem finishTick_enters (a : Admission) (r : Rendered F) (d : Demand) :
    Enters c (c.finishTick i a r d).1 := by
  have hle : DuplexPolicy.lastAudio (if c.trafficKeyed then c.duplex else .idle) ≤
      max c.duplex.lastAudio c.now := by
    split
    · exact le_max_left ..
    · exact Nat.zero_le _
  unfold finishTick stepGain
  dsimp only
  split <;> exact ⟨rfl, .single (.audio _ hle)⟩

omit [Pcm F] in
theorem beginTimeout_enters : Enters c c.beginTimeout :=
  (mapPlayback_core c _ _).enters.trans ⟨rfl, .single (.audio 0 (Nat.zero_le _))⟩

theorem timeoutSample_enters (activity inhibited : Bool) (input : Option F)
    (program : Option (ProgramInput F)) :
    Enters c (c.timeoutSample activity inhibited input program).1 := by
  change Enters c (((c.clearIdle activity).playNotice activity inhibited input).1.keyNotice ..)
  unfold playNotice
  repeat' split
  all_goals exact ⟨rfl, .refl⟩

omit [Pcm F] in
theorem observe_enters : Enters c (c.observe i).1 :=
  ⟨(observe_observes c i).now, (observe_observes c i).book⟩

theorem step_enters : Enters c (c.step i).1 := by
  have hobserve := observe_enters c i
  unfold step
  dsimp only
  split
  · exact hobserve.trans (timeoutSample_enters ..)
  have hdecide : Enters c ((c.observe i).1.decideTick i (c.observe i).2) :=
    (hobserve.trans (slotTick_core ..).enters).trans (keyTraffic_enters ..)
  unfold trafficTick
  dsimp only
  split
  · exact hdecide.trans ((beginTimeout_enters _).trans (timeoutSample_enters ..))
  · exact hdecide.trans (finishTick_enters ..)

/-- The book is sound at the controller's time, which is one of the clock's. -/
def Timed (c : NodeController S F) : Prop := c.book.Sound c.now ∧ c.now ≤ u64Max

variable {c}

omit [PcmStreamReader S F] [Pcm F] in
theorem Timed.enters (hc : c.Timed) (h : Enters c d) :
    d.Timed ∧ Book.Dated c.now c.book d.book := by
  unfold Timed
  rw [h.now]
  exact ⟨⟨(hc.1.entries h.book).1, hc.2⟩, (hc.1.entries h.book).2⟩

/-- **An action keeps the times**, and dates what it arms. -/
theorem Timed.act (h : c.Timed) (a : Action S F) :
    (c.act a).Timed ∧ Book.Dated c.now c.book (c.act a).book := by
  cases a with
  | tick i =>
    obtain ⟨⟨hs, hmax⟩, hd⟩ := h.enters (step_enters c i)
    have hnow : (c.step i).1.now ≤ (c.act (.tick i)).now ∧ (c.act (.tick i)).now ≤ u64Max := by
      simp only [NodeController.act, tick]
      split
      · exact ⟨le_min (Nat.le_succ _) hmax, min_le_right ..⟩
      · exact ⟨le_rfl, hmax⟩
    exact ⟨⟨{ hs with
        past := fun s h => (hs.past s h).trans hnow.1
        audio := hs.audio.trans hnow.1 },
      hnow.2⟩, hd⟩
  | linkKeyed direct =>
    refine h.enters (d := c.linkKeyed direct) ?_
    unfold linkKeyed
    split <;> exact ⟨rfl, .refl⟩
  | linkUnkeyed direct selected kerchunk =>
    refine h.enters (d := c.linkUnkeyed direct selected kerchunk) ?_
    unfold linkUnkeyed receiveUnkeyed
    repeat' split
    all_goals exact ⟨rfl, by first | exact .refl | exact .single (.audio 0 (Nat.zero_le _))⟩
  | _ => exact h.enters ⟨rfl, .refl⟩

omit [PcmStreamReader S F] in
theorem Built.timed (h : Built c) : c.Timed := by
  obtain ⟨_, _, _, _, _, _, _, _, rfl⟩ := h.eq_initial
  refine ⟨⟨rfl, sound_after [] _, ?_, satisfied_le [] nofun, ?_, le_rfl⟩, Nat.zero_le _⟩
  · simp [book, initial, IdentifierPolicy.new, Function.comp_def, IdentifierState.fresh]
  · simp [book, initial]

theorem timed_of_reachable (h : Reachable Built Acts c) : c.Timed := by
  exact h.invariant (fun _ => Built.timed) fun d a e hd he => he ▸ (hd.act a).1

/-- **The identifiers' hard deadline.** At an audio step of a reachable controller that may
transmit, with a normal watchdog, let the slot be empty or hold a tail after courtesy, status and
parrot had their chance. If after any arming an identifier is due and overdue by its polite maximum
wait, and the foremost due identifier is no polite first-key identifier of strictly higher priority,
then an identifier owns the slot this step renders. A tail that held it is suspended if it had
started and cancelled if it had not. -/
theorem identifier_deadline (hc : Reachable Built Acts c) (hin : i.input.isSome = true)
    (hnormal : (c.observe i).1.timeout.blocked = false)
    (hmay : ((c.observe i).1.gate i).mayTransmit = true)
    (hslot : (c.offered i).Yields) (hdue : (c.armed i).Due k id)
    (hover : (c.armed i).Overdue k id) (hfirst : (c.armed i).Unhindered id) :
    (∃ j, (c.chosen i).telemetry.active = some (.identifier j) ∧
      c.step i = (c.observe i).1.trafficTick i (c.observe i).2 ∧
      ((c.observe i).1.slotTick i (c.observe i).2).2.source = some (.identifier j)) ∧
    ∀ index item, (c.offered i).telemetry.active = some (.tail index) →
      (c.offered i).tails.items[index]? = some item →
      (c.chosen i).tails.items[index]? = some (preempted item) := by
  have hcore : SameCore (c.observe i).1 (c.armed i) := admitIdentifier_core _ i _
  have hruled : (c.armed i).Ruled :=
    ((timed_of_reachable hc).enters ((observe_enters c i).trans hcore.enters)).1.1.ruled
  have hopen : (i.receiving && !(c.armed i).transmitsDuringReceive) = false := by
    have hgate := (Bool.and_eq_true_iff.mp hmay).2
    rw [hcore.transmitsDuringReceive]
    revert hgate
    cases i.receiving <;> simp
  obtain ⟨hselect, htelemetry, htails⟩ := admitIdentifier_choice (c.observe i).1 i (c.observe i).2
  obtain ⟨j, hj, hjd⟩ := selectIdentifier_overdue hruled hopen hdue hover hfirst
  obtain ⟨hactive, hrest⟩ := startSlot_identifier hin hmay
    (fun source hs => hslot source (htelemetry ▸ hs)) (hselect.trans hj) hjd
  refine ⟨⟨j, hactive, if_neg (by rw [hnormal]; simp), ?_⟩, fun index item hact hitem => ?_⟩
  · refine .trans ?_ hactive
    simp only [slotTick, renderSlot]
    split <;> rfl
  · have hitem' : (c.armed i).tails.items[index]? = some item := htails ▸ hitem
    exact (congrArg (·.items[index]?) hrest).trans (preemptTail_item (htelemetry ▸ hact) hitem')

/-- **The controller's times are the policy's.** In every reachable state the satisfied times are
the policy's and at most one rule is armed; an action that leaves a rule armed leaves its due time
as it was while the rule was armed, or sets it to the time of the action; and the times subtracted
when a step chooses an identifier and when it keys the transmitter are not in the future. -/
theorem identifier_times (hc : Reachable Built Acts c) :
    c.satisfied = c.identifiers.states.map IdentifierState.satisfied ∧
    (∀ j k, c.identifiers.Pending j → c.identifiers.Pending k → j = k) ∧
    (∀ a k, (c.act a).identifiers.Pending k →
      c.identifiers.Pending k ∧ (c.act a).firstDue[k]? = c.firstDue[k]? ∨
        (c.act a).firstDue[k]? = some c.now) ∧
    ∀ i, (∀ d ∈ [c.offered i, c.armed i], ∀ s ∈ d.identifiers.states, s.satisfied ≤ d.now) ∧
      ((c.observe i).1.slotTick i (c.observe i).2).1.duplex.lastAudio ≤
        ((c.observe i).1.slotTick i (c.observe i).2).1.now := by
  have ht := timed_of_reachable hc
  have hat {d} (i : StepInput F) (h : SameCore (c.observe i).1 d) : d.book.Sound d.now :=
    (ht.enters ((observe_enters c i).trans h.enters)).1.1
  refine ⟨ht.1.agree, ht.1.policy.single, fun a => (ht.act a).2, fun i => ⟨?_, ?_⟩⟩
  · simp only [List.forall_mem_cons, List.not_mem_nil, false_imp_iff, implies_true, and_true]
    exact ⟨(hat i (admitTelemetry_core ..)).past, (hat i (admitIdentifier_core ..)).past⟩
  · exact (hat i (slotTick_core ..)).audio

end

/-- An identifier that is always due and waits for no one. -/
def benchIdentifier : Identifier (TestPcmStream ℚ) := ⟨benchNotice, 0, 0, false, true, some 0⟩

/-- A full-duplex node with this identifier. -/
def benchIdentified : NodeController (TestPcmStream ℚ) ℚ :=
  initial ⟨true, 0, false, 0, 0, 0, 0, 0⟩ [benchIdentifier] [] ⟨none, none, []⟩ 1 (quietWorld false)

/-- It takes the slot of the first sample of a transmission. -/
theorem identifier_deadline_busy : benchInput.receiving = true ∧
    ∃ j, (benchIdentified.chosen benchInput).telemetry.active = some (.identifier j) := by
  have hreach : Reachable Built Acts benchIdentified :=
    .init (.new (show NodeController.new _ _ _ _ true _ _ = some _ from if_pos (by decide)))
  have hids : (benchIdentified.armed benchInput).ids = [benchIdentifier] := rfl
  obtain ⟨⟨j, hj, -⟩, -⟩ := identifier_deadline benchInput hreach rfl rfl rfl nofun
    (k := 0) ⟨rfl, _, rfl, rfl, le_rfl⟩ ⟨0, rfl, Nat.zero_le _⟩ fun j high hj hfirst => by
      have hmem := List.mem_of_getElem? hj.1.1
      rw [hids, List.mem_singleton] at hmem
      rw [hmem] at hfirst
      cases hfirst
  exact ⟨rfl, j, hj⟩

/-- The same node with a first-key identifier. -/
def benchFirst : NodeController (TestPcmStream ℚ) ℚ :=
  initial ⟨true, 0, false, 0, 0, 0, 0, 0⟩
    [⟨.newStream ⟨[1 / 4], [1 / 8], 0, false⟩, 0, 0, true, true, none⟩] [] ⟨none, none, []⟩ 1
    (quietWorld false)

/-- It after a quiet sample, and one at which the identifier is armed and plays out. -/
def benchPlayed : NodeController (TestPcmStream ℚ) ℚ :=
  (benchFirst.act (.tick { benchInput with receiving := false })).act (.tick benchInput)

theorem benchPlayed_reachable : Reachable Built Acts benchPlayed :=
  .step (.step (.init (.new (show NodeController.new _ _ _ _ true _ _ = some _ from
    if_pos (by decide)))) rfl) rfl

/-- **A due time outlives its rule.** -/
theorem firstDue_stale : Reachable Built Acts benchPlayed ∧ benchPlayed.firstDue = [1] ∧
    ∀ s ∈ benchPlayed.identifiers.states, s.firstKeyPending = false :=
  ⟨benchPlayed_reachable, by decide +kernel, by decide +kernel⟩

/-- The rule was satisfied at that time. -/
theorem identifier_times_played : benchPlayed.satisfied = [1] ∧
    benchPlayed.satisfied = benchPlayed.identifiers.states.map IdentifierState.satisfied :=
  ⟨by decide +kernel, (identifier_times benchPlayed_reachable).1⟩

end NodeController

end RptAdvanced.Controller
