import RptAdvanced.Dtmf.Sources

/-!
# Administrative grants

A source may administer while a grant of its own holds: since an unlock whose code verified, or a
renewal by a command that was applied, less than the timeout has passed, and nothing has revoked it.
The grant is checked when a command is read and again when it comes out of the queue, against the
state its source has by then.

Results:
* `feed_holds`, `Inv.update`, `Inv.visit`: the grants of the sources after an event.
* `act_inv`: every call keeps the invariant.
* `act_records`: an unlock is recorded by a call that has checked its code.
* `administered_granted`: **every administrative outcome or effect has its grant.**
-/

namespace RptAdvanced.Dtmf

open Lib List RptAdvanced.Runtime DtmfCommands Option Entry Table

variable {R : Type}

namespace Entry

/-- The entry grants, renews or revokes for the source: a code check of its own, a renewal, a
reconfiguration, or the end of its name or of its connection. -/
def bears (source : Source) : Entry R → Bool
  | .unlocked s _ _ | .refused s | .locked s | .renewed s _ _ => decide (s = source)
  | .reconfigured => true
  | .ended remote => source.any (·.1 = remote)
  | .endedReply reply => source.any (·.2 = reply)
  | .produced .. | .administered .. => false

/-- The time and the timeout of a grant. -/
def grant : Entry R → Option (Nat × Nat)
  | .unlocked _ nowMs timeoutMs | .renewed _ nowMs timeoutMs => some (nowMs, timeoutMs)
  | _ => none

end Entry

/-- The newest entry that bears on the source is an unlock or a renewal, and at `nowMs` its timeout
has not passed. -/
def Granted (log : List (Entry R)) (source : Source) (nowMs : Nat) : Prop :=
  ∃ e t timeoutMs, log.find? (bears source) = some e ∧ e.grant = some (t, timeoutMs) ∧
    nowMs < t + timeoutMs

/-- The connection of a source has not ended. -/
def Live (log : List (Entry R)) (source : Source) : Prop :=
  ∀ key, source = some key → .endedReply key.2 ∉ log

/-- What an entry needs of those before it. -/
def Allowed (past : List (Entry R)) : Entry R → Prop
  | .administered source nowMs => Live past source ∧ Granted past source nowMs
  | .renewed source nowMs _ => Live past source → Granted past source nowMs
  | _ => True

def Lawful : List (Entry R) → Prop
  | [] => True
  | e :: past => Allowed past e ∧ Lawful past

theorem Lawful.at {log newer older : List (Entry R)} {e : Entry R} (h : Lawful log)
    (hlog : log = newer ++ e :: older) : Allowed older e := by
  induction newer generalizing log with
  | nil =>
    subst hlog
    exact h.1
  | cons x newer ih =>
    subst hlog
    exact ih h.2 rfl

theorem Granted.congr {log log' : List (Entry R)} {source : Source} {nowMs : Nat}
    (h : Granted log source nowMs) (hfind : log'.find? (bears source) = log.find? (bears source)) :
    Granted log' source nowMs := by
  unfold Granted
  rwa [hfind]

/-- The grant in a source's state is backed by the log. -/
def Holds (log : List (Entry R)) (source : Source) (c : DtmfCommands) : Prop :=
  ∀ nowMs, nowMs < c.adminUntilMs → Granted log source nowMs

theorem Holds.congr {log log' : List (Entry R)} {source : Source} {c c' : DtmfCommands}
    (h : Holds log source c) (hfind : log'.find? (bears source) = log.find? (bears source))
    (huntil : c'.adminUntilMs = 0 ∨ c'.adminUntilMs = c.adminUntilMs) : Holds log' source c' := by
  intro nowMs hlt
  rcases huntil with hzero | hsame
  · omega
  · rw [hsame] at hlt
    exact (h nowMs hlt).congr hfind

/-- Entries that do not bear on a source. -/
theorem find?_unborne {new log : List (Entry R)} {source : Source}
    (h : ∀ e ∈ new, e.bears source = false) :
    (new ++ log).find? (bears source) = log.find? (bears source) := by
  rw [find?_append, find?_eq_none.mpr, none_or]
  intro e he
  rw [h e he]
  exact Bool.false_ne_true

/-! ## The entries of a report -/

section Reports

variable [RemoteFamily R] {access : RemoteDtmfAccess} {timeoutMs nowMs : Nat} {source : Source}
  {r : Report R}

/-- The entries of a report bear on its own source only, and end no connection. -/
theorem entries_spec {e : Entry R} (he : e ∈ r.entries access timeoutMs source nowMs) :
    (∀ other, other ≠ source → e.bears other = false) ∧ ∀ reply, e ≠ .endedReply reply := by
  obtain ⟨outcome, verdict⟩ := r
  rcases mem_append.mp he with he | he
  · rcases outcome with _ | o
    · cases he
    rcases mem_append.mp he with he | he
    · split at he
      · obtain rfl := mem_singleton.mp he
        exact ⟨fun _ _ => rfl, nofun⟩
      · cases he
    · obtain rfl := mem_singleton.mp he
      exact ⟨fun _ _ => rfl, nofun⟩
  · obtain ⟨v, -, rfl⟩ := mem_map.mp he
    cases v <;> exact ⟨fun _ hne => decide_eq_false hne.symm, nofun⟩

theorem find?_entries (log : List (Entry R)) :
    (r.entries access timeoutMs source nowMs ++ log).find? (bears source) =
      match r.verdict with
      | none => log.find? (bears source)
      | some .unlocked => some (.unlocked source nowMs timeoutMs)
      | some .refused => some (.refused source)
      | some .locked => some (.locked source) := by
  obtain ⟨outcome, verdict⟩ := r
  unfold Report.entries
  rcases outcome with _ | o <;> rcases verdict with _ | (_ | _ | _) <;> dsimp only <;>
    (try split) <;> simp [bears]

variable {log : List (Entry R)} {c c' : DtmfCommands}

/-- Reading an event leaves a grant that the log backs. -/
theorem feed_holds (hfollows : DtmfCommands.Follows nowMs c r c') (h : Holds log source c) :
    Holds (r.entries access c.adminTimeoutMs source nowMs ++ log) source c' := by
  have hfind : (r.entries access c.adminTimeoutMs source nowMs ++ log).find? _ = _ :=
    find?_entries log
  cases hverdict : r.verdict with
  | none =>
    rw [hverdict] at hfind
    exact h.congr hfind (hfollows.kept hverdict)
  | some v =>
    rw [hverdict] at hfind
    intro t ht
    cases v with
    | unlocked => exact ⟨_, _, _, hfind, rfl, ht.trans_le (hfollows.unlocked hverdict)⟩
    | refused =>
      rw [hfollows.cleared (.inl hverdict)] at ht
      exact (Nat.not_lt_zero t ht).elim
    | locked =>
      rw [hfollows.cleared (.inr hverdict)] at ht
      exact (Nat.not_lt_zero t ht).elim

/-- The entries of a report are lawful where the grant is backed. -/
theorem entries_lawful (hfollows : DtmfCommands.Follows nowMs c r c')
    (haccess : c.remoteAccess = access) (h : Holds log source c) (hlive : Live log source)
    (hlawful : Lawful log) : Lawful (r.entries access c.adminTimeoutMs source nowMs ++ log) := by
  have hholds : Holds (r.entries access c.adminTimeoutMs source nowMs ++ log) source c' :=
    feed_holds hfollows h
  have hauthorized := hfollows.authorized
  rw [haccess] at hauthorized
  have hspec := fun e (he : e ∈ r.entries access c.adminTimeoutMs source nowMs) => entries_spec he
  obtain ⟨outcome, verdict⟩ := r
  have hverdicts : Lawful ((⟨none, verdict⟩ : Report R).entries access c.adminTimeoutMs source nowMs
      ++ log) := by
    rcases verdict with _ | (_ | _ | _)
    · exact hlawful
    all_goals exact ⟨trivial, hlawful⟩
  unfold Report.entries at hholds hspec ⊢
  rcases outcome with _ | o
  · exact hverdicts
  dsimp only at hholds hspec ⊢
  split at hholds
  · rename_i hadmin
    rw [if_pos hadmin]
    refine ⟨⟨fun key hkey hmem => ?_, ?_⟩, trivial, hverdicts⟩
    · rcases mem_cons.mp hmem with hmem | hmem
      · cases hmem
      rcases mem_append.mp hmem with hmem | hmem
      · exact (hspec _ (mem_append_right _ hmem)).2 key.2 rfl
      · exact hlive key hkey hmem
    · exact (hholds nowMs (hauthorized o rfl hadmin)).congr rfl
  · rename_i hadmin
    rw [if_neg hadmin]
    exact ⟨trivial, hverdicts⟩

end Reports

theorem find?_filter_append {α : Type*} (p : α → Bool) (l l' : List α) :
    (l.filter p ++ l').find? p = (l ++ l').find? p := by
  simp

/-- Entries of distinct sources, each lawful where nothing has been said of its source yet. -/
theorem lawful_flatMap {log : List (Entry R)} {l : List ((String × Nat) × DtmfCommands)}
    {E : (String × Nat) × DtmfCommands → List (Entry R)} (hkeys : (l.map Prod.fst).Nodup)
    (hbears : ∀ x ∈ l, ∀ e ∈ E x, ∀ other, other ≠ some x.1 → e.bears other = false)
    (hended : ∀ x ∈ l, ∀ e ∈ E x, ∀ reply, e ≠ .endedReply reply)
    (hE : ∀ x ∈ l, ∀ past, Lawful past →
      past.find? (bears (some x.1)) = log.find? (bears (some x.1)) →
      (∀ reply, .endedReply reply ∈ past → .endedReply reply ∈ log) → Lawful (E x ++ past))
    (hlawful : Lawful log) : Lawful (l.flatMap E ++ log) := by
  induction l with
  | nil => exact hlawful
  | cons x rest ih =>
    rw [map_cons, nodup_cons] at hkeys
    rw [flatMap_cons, append_assoc]
    refine hE x mem_cons_self _ (ih hkeys.2 (fun y hy => hbears y (mem_cons_of_mem _ hy))
      (fun y hy => hended y (mem_cons_of_mem _ hy))
      fun y hy => hE y (mem_cons_of_mem _ hy)) ?_ ?_
    · -- the rest is about other sources
      refine find?_unborne fun e he => ?_
      obtain ⟨y, hy, hmem⟩ := mem_flatMap.mp he
      refine hbears y (mem_cons_of_mem _ hy) e hmem _ fun heq => hkeys.1 ?_
      exact mem_map.mpr ⟨y, hy, (Option.some.inj heq).symm⟩
    · intro reply hmem
      rcases mem_append.mp hmem with hmem | hmem
      · obtain ⟨y, hy, hmem⟩ := mem_flatMap.mp hmem
        exact (hended y (mem_cons_of_mem _ hy) _ hmem reply rfl).elim
      · exact hmem

/-- What bears on a source in the entries of selected sources is its own. -/
theorem find?_flatMap (t : Table (String × Nat) DtmfCommands) (log : List (Entry R))
    (p : String × Nat → DtmfCommands → Bool) (key : String × Nat)
    {E : (String × Nat) × DtmfCommands → List (Entry R)}
    (hE : ∀ x, ∀ e ∈ E x, ∀ other, other ≠ some x.1 → e.bears other = false) :
    (((t.entries.filter fun e => p e.1 e.2).flatMap E) ++ log).find? (bears (some key)) =
      ((((t.get? key).filter (p key)).elim [] fun c => E (key, c)) ++ log).find?
        (bears (some key)) := by
  have hnil : ∀ x : (String × Nat) × DtmfCommands, x.1 ≠ key →
      (E x).filter (bears (some key)) = [] := by
    intro x hx
    refine filter_eq_nil_iff.mpr fun e he => ?_
    rw [hE x e he _ fun heq => hx (Option.some.inj heq).symm]
    exact Bool.false_ne_true
  rw [← find?_filter_append, filter_flatMap, t.flatMap_filter_eq p hnil]
  cases (t.get? key).filter (p key) with
  | none => rfl
  | some c => exact find?_filter_append _ _ _

namespace SourceDesk

variable [Credentials] {d : SourceDesk R}

/-- The grants of the sources of a node. -/
structure Inv (d : SourceDesk R) : Prop where
  uniform : d.Uniform
  flags : ∀ reply, reply ∈ d.ended ↔ .endedReply reply ∈ d.log
  grants : ∀ source c, d.collector source = some c → Live d.log source → Holds d.log source c
  lawful : Lawful d.log

theorem Inv.live (h : d.Inv) {source : Source}
    (hlive : ∀ key, source = some key → key.2 ∉ d.ended) :
    Live d.log source :=
  fun key hkey hmem => hlive key hkey ((h.flags key.2).mpr hmem)

/-- What a part of a call adds to the log ends no connection, and backs the grants. -/
theorem Inv.grow (h : d.Inv) {d' : SourceDesk R} (new : List (Entry R))
    (hlog : d'.log = new ++ d.log) (hend : d'.ended = d.ended) (huniform : d'.Uniform)
    (hnew : ∀ reply, .endedReply reply ∉ new)
    (hgranted : ∀ source c, d'.collector source = some c → Live d.log source →
      Holds (new ++ d.log) source c) (hlawful : Lawful (new ++ d.log)) : d'.Inv where
  uniform := huniform
  flags reply := by
    rw [hend, hlog, h.flags reply]
    exact ⟨mem_append_right _,
      fun hmem => (mem_append.mp hmem).resolve_left (hnew reply)⟩
  grants source c hc hlive := by
    rw [hlog] at hlive ⊢
    exact hgranted source c hc fun key hkey hmem => hlive key hkey (mem_append_right _ hmem)
  lawful := hlog ▸ hlawful

/-- Entries that bear on nothing. -/
theorem Inv.record (h : d.Inv) {new : List (Entry R)}
    (hbears : ∀ e ∈ new, ∀ source, e.bears source = false) (hlawful : Lawful (new ++ d.log)) :
    (d.record new).Inv := by
  refine h.grow new rfl rfl h.uniform (fun reply hmem => ?_) (fun source c hc hlive => ?_) hlawful
  · have hfalse := hbears _ hmem (some ("", reply))
    simp [bears] at hfalse
  · exact (h.grants source c hc hlive).congr (find?_unborne fun e he => hbears e he source)
      (.inr rfl)

theorem Inv.filter (h : d.Inv) (p : String × Nat → DtmfCommands → Bool) :
    Inv { d with peers := d.peers.filter p } where
  uniform := h.uniform.filter p
  flags := h.flags
  grants := fun source c hc => by
    refine h.grants source c ?_
    cases source with
    | none => exact hc
    | some key =>
      change (d.peers.filter p).get? key = some c at hc
      rw [get?_filter, filter_eq_some_iff] at hc
      exact hc.1
  lawful := h.lawful

theorem Inv.add (h : d.Inv) (source : String × Nat) :
    Inv { d with peers := d.peers.alter source fun _ => d.commands.forSource } where
  uniform := h.uniform.add source
  flags := h.flags
  grants := fun other c hc => by
    by_cases hother : other = some source
    · subst hother
      change (d.peers.alter source _).get? source = some c at hc
      rw [get?_alter_self] at hc
      cases hc
      refine fun _ t ht => (Nat.not_lt_zero t ?_).elim
      unfold forSource configureAdmin at ht
      split at ht <;> exact ht
    · refine h.grants other c ?_
      cases other with
      | none => exact hc
      | some key =>
        change (d.peers.alter source _).get? key = some c at hc
        rwa [get?_alter_ne _ _ fun heq => hother (congrArg some heq)] at hc
  lawful := h.lawful

variable [RemoteFamily R]

/-- A change that renews no grant. -/
theorem Inv.update (h : d.Inv) (source : Source) {f : DtmfCommands → DtmfCommands}
    (hf : ∀ c, ∃ nowMs, DtmfCommands.Follows nowMs c (⟨none, none⟩ : Report R) (f c)) :
    (d.update source f).Inv := by
  refine h.grow [] (update_log ..) (update_ended ..) (h.uniform.update source fun c => ?_) nofun
    (fun other c hc hlive => ?_) h.lawful
  · obtain ⟨nowMs, hfollows⟩ := hf c
    exact ⟨nowMs, _, hfollows⟩
  · rw [collector_update] at hc
    split at hc
    · rename_i hsource
      subst hsource
      obtain ⟨c₀, hc₀, rfl⟩ := map_eq_some_iff.mp hc
      obtain ⟨nowMs, hfollows⟩ := hf c₀
      exact (h.grants other c₀ hc₀ hlive).congr rfl (hfollows.kept rfl)
    · exact h.grants other c hc hlive

/-- An event of the receiver. -/
theorem Inv.digit (h : d.Inv) (event : DigitEvent) : (d.digit event).Inv := by
  have hfollows := feed_follows (R := R) event d.commands
  have hlive : Live d.log (none : Source) := nofun
  have hholds := h.grants none d.commands rfl hlive
  refine h.grow _ rfl rfl ?_ (fun reply hmem => (entries_spec hmem).2 reply rfl)
    (fun source c hc hlive => ?_) (entries_lawful hfollows rfl hholds hlive h.lawful)
  · exact h.uniform.update none (f := fun c => (c.feed (R := R) event).2)
      fun c => ⟨_, _, feed_follows event c⟩
  · cases source with
    | none =>
      cases hc
      exact feed_holds hfollows hholds
    | some key =>
      exact (h.grants (some key) c hc hlive).congr
        (find?_unborne fun e he => (entries_spec he).1 (some key) nofun) (.inr rfl)

/-- An event of selected sources whose connections are up. -/
theorem Inv.visit (h : d.Inv) {p : String × Nat → DtmfCommands → Bool} (event : DigitEvent)
    (hp : ∀ key c, d.peers.get? key = some c → p key c = true → key.2 ∉ d.ended) :
    (d.visit p event).Inv := by
  have hentry : ∀ x ∈ d.peers.entries.filter fun e => p e.1 e.2,
      d.peers.get? x.1 = some x.2 ∧ p x.1 x.2 = true := fun x hx =>
    ⟨(d.peers.mem_entries_iff x.1 x.2).mp (mem_of_mem_filter hx), (mem_filter.mp hx).2⟩
  refine h.grow _ rfl rfl (h.uniform.visit p event) (fun reply hmem => ?_)
    (fun source c hc hlive => ?_) ?_
  · obtain ⟨x, -, hx⟩ := mem_flatMap.mp hmem
    exact (entries_spec hx).2 reply rfl
  · cases source with
    | none =>
      refine (h.grants none c hc hlive).congr (find?_unborne fun e he => ?_) (.inr rfl)
      obtain ⟨x, -, hx⟩ := mem_flatMap.mp he
      exact (entries_spec hx).1 none nofun
    | some key =>
      change (d.peers.map _).get? key = some c at hc
      rw [get?_map, map_eq_some_iff] at hc
      obtain ⟨c₀, hc₀, rfl⟩ := hc
      have hholds := h.grants (some key) c₀ hc₀ hlive
      -- of the new entries only those of this source matter
      have hfind : (d.visit p event).log.find? (bears (some key)) = _ :=
        find?_flatMap d.peers d.log p key fun x e he => (entries_spec he).1
      rw [hc₀] at hfind
      split
      · rename_i hpass
        rw [filter_some_pos hpass] at hfind
        intro t ht
        exact (feed_holds (feed_follows event c₀) hholds t ht).congr hfind
      · rename_i hpass
        rw [filter_some_neg (Bool.eq_false_of_not_eq_true hpass)] at hfind
        exact hholds.congr hfind (.inr rfl)
  · refine lawful_flatMap ?_ (fun x _ e he => (entries_spec he).1)
      (fun x _ e he => (entries_spec he).2) (fun x hx past hpast hfind hended => ?_) h.lawful
    · exact d.peers.nodup.sublist (filter_sublist.map _)
    · obtain ⟨hget, hpx⟩ := hentry x hx
      have hlive : Live d.log (some x.1) := h.live fun key hkey => by
        cases hkey
        exact hp _ _ hget hpx
      exact entries_lawful (feed_follows event x.2)
        (h.uniform.access (show d.collector (some x.1) = some x.2 from hget))
        ((h.grants (some x.1) x.2 hget hlive).congr hfind (.inr rfl))
        (fun key hkey hmem => hlive key hkey (hended _ hmem)) hpast

/-! ## Commands from the queue -/

variable {op : DigitOperation R} {nowMs : Nat}

/-- The source of an operation holds a grant. -/
def Covered (log : List (Entry R)) (op : DigitOperation R) (nowMs : Nat) : Prop :=
  ∃ source, op.source = some source ∧ Live log source ∧ Granted log source nowMs

section

variable (h : d.Inv)
include h

omit [RemoteFamily R] in
theorem Inv.covered {source : Source} {c : DtmfCommands}
    (hsource : op.source = some source) (hc : d.collector source = some c)
    (hreply : op.reply.any (· ∈ d.ended) = false) (hlt : nowMs < c.adminUntilMs) :
    Covered d.log op nowMs := by
  have hlive : Live d.log source := by
    refine h.live fun key hkey hended => ?_
    subst hkey
    unfold DigitOperation.source at hsource
    split at hsource
    · cases hsource
    rename_i reply hsome
    obtain ⟨origin, -, heq⟩ := map_eq_some_iff.mp hsource
    cases heq
    rw [hsome] at hreply
    simp [hended] at hreply
  exact ⟨source, hsource, hlive, h.grants source c hc hlive nowMs hlt⟩

theorem Inv.remoteAuthorized (op : DigitOperation R) (nowMs : Nat) :
    (d.remoteAuthorized op nowMs).2.Inv ∧ (d.remoteAuthorized op nowMs).2.log = d.log ∧
    ((d.remoteAuthorized op nowMs).1 = true → op.guarded d.commands.remoteAccess = true →
      Covered d.log op nowMs) := by
  unfold SourceDesk.remoteAuthorized
  split
  · exact ⟨h, rfl, nofun⟩
  rename_i hgate
  simp only [Bool.or_eq_true, not_or, Bool.not_eq_true] at hgate
  split
  · rename_i request source hrequest hsource
    split
    · rename_i c hc
      have hspec := fun c => remoteAuthorized_spec (R := R) nowMs c
        (RemoteFamily.administrative request) op.adminAuthorized
      refine ⟨h.update source fun c => ⟨nowMs, (hspec c).1⟩, by cases source <;> rfl,
        fun hok hguarded => ?_⟩
      unfold DigitOperation.guarded at hguarded
      simp only [hrequest, Bool.and_eq_true, beq_iff_eq, any_some] at hguarded
      exact h.covered hsource hc hgate.2
        ((hspec c).2 hok hguarded.2 ((h.uniform.access hc).trans hguarded.1))
    · exact ⟨h, rfl, nofun⟩
  · exact ⟨h, rfl, nofun⟩

theorem Inv.setting (nowMs : Nat) (hreply : op.reply.any (· ∈ d.ended) = false) :
    (d.setting op nowMs).2.Inv ∧ (d.setting op nowMs).2.log = d.log ∧
    ∀ effect, (d.setting op nowMs).1 = .ok effect → Covered d.log op nowMs := by
  unfold SourceDesk.setting
  split
  · exact ⟨h, rfl, fun _ he => by cases he⟩
  rename_i source c hfound
  obtain ⟨s, hsource, hfound⟩ := bind_eq_some_iff.mp hfound
  obtain ⟨c', hc, heq⟩ := map_eq_some_iff.mp hfound
  obtain ⟨rfl, rfl⟩ := Prod.mk.inj heq
  have hinv : (d.update s fun c => (c.consume op.adminAuthorized nowMs).2).Inv :=
    h.update s fun c => ⟨nowMs, .silent
      ((consume_spec nowMs c op.adminAuthorized).2.imp_right And.right)⟩
  have hlog := d.update_log s fun c => (c.consume op.adminAuthorized nowMs).2
  dsimp only
  split
  · exact ⟨hinv, hlog, fun _ he => by cases he⟩
  rename_i hok
  have hcovered := h.covered hsource hc hreply
    ((consume_spec nowMs c' op.adminAuthorized).1 (Bool.eq_true_of_not_eq_false hok)).1
  split
  · split
    · split
      · exact ⟨hinv, hlog, fun _ _ => hcovered⟩
      · exact ⟨hinv, hlog, fun _ he => by cases he⟩
    · exact ⟨hinv, hlog, fun _ he => by cases he⟩
  · exact ⟨hinv, hlog, fun _ _ => hcovered⟩

theorem Inv.forward (op : DigitOperation R) (answers : Answers) :
    (d.forward op answers).2.Inv ∧ (d.forward op answers).2.log = d.log ∧
    ∀ effect, (d.forward op answers).1 = .ok effect →
      effect.administrative d.commands.remoteAccess = false := by
  unfold SourceDesk.forward
  split
  · exact ⟨h, rfl, fun _ he => by cases he⟩
  split
  · exact ⟨h, rfl, fun _ he => by cases he⟩
  split
  · exact ⟨h, rfl, fun _ he => by cases he⟩
  split
  · exact ⟨h, rfl, fun _ he => by cases he⟩
  split
  · split
    · refine ⟨h, rfl, fun _ he => ?_⟩
      cases he
      rfl
    · exact ⟨h, rfl, fun _ he => by cases he⟩
  · refine ⟨?_, ?_, fun _ he => ?_⟩
    · split
      · exact h
      · exact h.update _ fun c => ⟨0, .plain rfl rfl (fun _ h => h) (fun _ => rfl) (.inr rfl) nofun⟩
    · split
      · rfl
      · rename_i source _
        cases source <;> rfl
    · cases he
      rfl

theorem Inv.withdraw (remotes : List String) : (d.withdraw remotes).Inv := by
  induction remotes generalizing d with
  | nil => exact h
  | cons remote rest ih =>
    exact ih (h.update none fun c => ⟨0, disconnect_follows 0 c remote.toList⟩)

section

variable (op : DigitOperation R)

/-- **A command keeps the invariant, and an administrative effect has its grant.** -/
theorem Inv.linkCommand (answers : Answers) (nowMs : Nat) :
    (d.linkCommand op answers nowMs).2.Inv ∧ (d.linkCommand op answers nowMs).2.log = d.log ∧
    ∀ effect, (d.linkCommand op answers nowMs).1 = .ok effect →
      effect.administrative d.commands.remoteAccess = true → Covered d.log op nowMs := by
  unfold SourceDesk.linkCommand
  dsimp only
  split
  · exact ⟨h, rfl, fun _ he => by cases he⟩
  rename_i hgate
  simp only [Bool.or_eq_true, not_or, Bool.not_eq_true] at hgate
  split
  · rename_i haction
    split
    · exact ⟨h, rfl, fun _ he => by cases he⟩
    obtain ⟨hinv, hlog, hcovered⟩ := h.remoteAuthorized op nowMs
    split
    · rename_i hok
      refine ⟨hinv, hlog, fun effect heffect hadmin => hcovered hok ?_⟩
      cases heffect
      simpa [LinkEffect.administrative, DigitOperation.administrative, haction,
        LinkAction.administrative] using hadmin
    · exact ⟨hinv, hlog, fun _ he => by cases he⟩
  split
  · obtain ⟨hinv, hlog, hplain⟩ := h.forward op answers
    refine ⟨hinv, hlog, fun effect heffect hadmin => ?_⟩
    rw [hplain effect heffect] at hadmin
    cases hadmin
  split
  · obtain ⟨hinv, hlog, hcovered⟩ := h.setting nowMs hgate.2
    exact ⟨hinv, hlog, fun effect heffect _ => hcovered effect heffect⟩
  split
  · exact ⟨h, rfl, fun _ he => by cases he⟩
  split
  · refine ⟨h.withdraw _, rfl, fun effect heffect hadmin => ?_⟩
    obtain rfl := Except.ok.inj heffect
    cases hadmin
  · refine ⟨h, rfl, fun effect heffect hadmin => ?_⟩
    cases heffect
    cases hadmin

theorem Inv.confirm (nowMs : Nat) : (d.confirm op nowMs).Inv := by
  unfold SourceDesk.confirm
  split
  · exact h
  rename_i source hsource
  split
  · exact h
  rename_i c hc
  have hnew : ∀ e ∈ (if c.renewable nowMs then [.renewed source nowMs c.adminTimeoutMs] else []),
      e = (.renewed source nowMs c.adminTimeoutMs : Entry R) := by
    intro e he
    split at he
    · exact mem_singleton.mp he
    · cases he
  refine h.grow _ (congrArg (_ ++ ·) (update_log ..)) (update_ended ..)
    (h.uniform.update source fun c => ⟨nowMs, _, confirm_follows (R := R) nowMs c⟩)
    (fun reply hin => by cases hnew _ hin) (fun other c' hc' hlive => ?_) ?_
  · change (d.update source _).collector other = some c' at hc'
    rw [collector_update] at hc'
    split at hc'
    · rename_i hother
      subst hother
      rw [hc] at hc'
      cases hc'
      change Holds _ other (c.confirm nowMs)
      unfold DtmfCommands.confirm
      split
      · exact fun t ht => ⟨.renewed other nowMs c.adminTimeoutMs, nowMs, c.adminTimeoutMs,
          by simp [bears], rfl, ht.trans_le (satAdd_le _ _)⟩
      · exact h.grants other c hc hlive
    · rename_i hother
      refine (h.grants other c' hc' hlive).congr (find?_unborne fun e he => ?_) (.inr rfl)
      rw [hnew e he]
      simpa [bears] using fun heq => hother heq.symm
  · split
    · rename_i hrenewable
      simp only [renewable, Bool.and_eq_true, decide_eq_true_eq] at hrenewable
      exact ⟨fun hlive => h.grants source c hc hlive nowMs hrenewable.2, h.lawful⟩
    · exact h.lawful

omit [RemoteFamily R] in
/-- An administrative effect is recorded where its grant covers it. -/
theorem Inv.administer (nowMs : Nat) {p : Bool} (hp : p = true → Covered d.log op nowMs) :
    (d.record (if p then op.source.toList.map (.administered · nowMs) else [])).Inv := by
  cases p with
  | false => exact h.record (by simp) h.lawful
  | true =>
    obtain ⟨source, hsource, hlive, hgranted⟩ := hp rfl
    rw [if_pos rfl, hsource]
    refine h.record (fun e he => ?_) ⟨⟨hlive, hgranted⟩, h.lawful⟩
    obtain rfl := mem_singleton.mp he
    exact fun _ => rfl

theorem Inv.command (answers : Answers) (nowMs : Nat) : (d.command op answers nowMs).Inv := by
  obtain ⟨hinv, hlog, hcovered⟩ := h.linkCommand op answers nowMs
  unfold SourceDesk.command
  split
  · rename_i e next heq
    rwa [heq] at hinv
  rename_i effect next heq
  rw [heq] at hinv hlog hcovered
  have hnext := hinv.administer op nowMs (p := effect.administrative d.commands.remoteAccess)
    fun hadmin => by
      rw [show next.log = d.log from hlog]
      exact hcovered effect rfl hadmin
  dsimp only
  split
  · exact hnext.confirm op nowMs
  · exact hnext

end

/-! ## Calls -/

theorem Inv.peerDigit (source : String × Nat) (digit : Char) (nowMs : Nat)
    (allowed : Bool) : (d.peerDigit source digit nowMs allowed).Inv := by
  unfold SourceDesk.peerDigit
  split
  · exact h
  rename_i hgate
  have hup : source.2 ∉ d.ended := fun hmem => hgate (.inl hmem)
  have hretain : (d.retain nowMs).Inv := h.filter _
  have hfeed : ∀ d' : SourceDesk R, d'.Inv → d'.ended = d.ended →
      (d'.visit (fun key _ => decide (key = source)) (.digit digit nowMs)).Inv := by
    intro d' hd' hended
    refine hd'.visit _ fun key c _ hkey => ?_
    rwa [of_decide_eq_true hkey, hended]
  unfold SourceDesk.sourceDigit
  dsimp only
  split
  · exact hfeed _ hretain rfl
  split
  · refine hretain.record (fun e he => ?_) ⟨trivial, hretain.lawful⟩
    obtain rfl := mem_singleton.mp he
    exact fun _ => rfl
  split
  · exact hretain
  · exact hfeed _ (hretain.add source) rfl

omit [RemoteFamily R] in
/-- A reconfiguration leaves no peer's source and no grant. -/
theorem Inv.renewed {d' : SourceDesk R} (hpeers : d'.peers = .empty)
    (hended : d'.ended = d.ended) (hlog : d'.log = .reconfigured :: d.log)
    (huntil : d'.commands.adminUntilMs = 0) : d'.Inv := by
  refine h.grow [.reconfigured] hlog hended (fun key c hc => ?_) (by simp)
    (fun source c hc _ t ht => ?_) ⟨trivial, h.lawful⟩
  · rw [hpeers] at hc
    cases hc
  · cases source with
    | none =>
      cases hc
      rw [huntil] at ht
      exact (Nat.not_lt_zero t ht).elim
    | some key =>
      change d'.peers.get? key = some c at hc
      rw [hpeers] at hc
      cases hc

/-- **Every call keeps the invariant.** -/
theorem act_inv (move : Move R) : (d.act move).Inv := by
  cases move with
  | digit event => exact h.digit event
  | peerDigit origin digit nowMs reply allowed =>
    exact h.peerDigit (origin, reply) digit nowMs allowed
  | peerRemoteUnkey nowMs reply =>
    change (d.peerRemoteUnkey nowMs reply).Inv
    unfold SourceDesk.peerRemoteUnkey
    split
    · exact h
    · refine h.visit _ fun key c _ hkey => ?_
      rwa [of_decide_eq_true (Bool.and_eq_true_iff.mp hkey).1]
  | expirePeerDigits nowMs =>
    refine .filter (.visit (h.filter _) _ fun key c hc _ => ?_) _
    rw [get?_filter, filter_eq_some_iff] at hc
    exact of_decide_eq_true hc.2
  | command operation answers nowMs => exact h.command operation answers nowMs
  | remoteAuthorized operation nowMs =>
    obtain ⟨hinv, hlog, hcovered⟩ := h.remoteAuthorized operation nowMs
    refine hinv.administer operation nowMs fun hboth => ?_
    rw [hlog]
    exact hcovered (Bool.and_eq_true_iff.mp hboth).1 (Bool.and_eq_true_iff.mp hboth).2
  | completeRemoteCommand operation nowMs =>
    change (if _ then _ else _ : SourceDesk R).Inv
    split
    · exact h.confirm operation nowMs
    · exact h
  | withdraw remotes => exact h.withdraw remotes
  | ended remote =>
    have hdisconnect := fun c => disconnect_follows (R := R) 0 c remote.toList
    have hpolicy : (d.act (.ended remote)).commands.forSource = d.commands.forSource :=
      forSource_congr (hdisconnect d.commands).policy
    have hkept := fun c => (hdisconnect c).kept rfl
    refine h.grow [.ended remote] rfl rfl (fun key c hc => ?_) (by simp)
      (fun source c hc hlive => ?_) ⟨trivial, h.lawful⟩
    · rw [hpolicy]
      change ((d.peers.filter _).map _).get? key = some c at hc
      rw [get?_map, get?_filter, map_eq_some_iff] at hc
      obtain ⟨c₀, hc₀, rfl⟩ := hc
      exact (h.uniform key c₀ (filter_eq_some_iff.mp hc₀).1).follows (hdisconnect c₀)
    · cases source with
      | none =>
        cases hc
        exact (h.grants none d.commands rfl hlive).congr rfl (hkept d.commands)
      | some key =>
        change ((d.peers.filter _).map _).get? key = some c at hc
        rw [get?_map, get?_filter, map_eq_some_iff] at hc
        obtain ⟨c₀, hc₀, rfl⟩ := hc
        obtain ⟨hget, hname⟩ := filter_eq_some_iff.mp hc₀
        refine (h.grants (some key) c₀ hget hlive).congr ?_ (hkept c₀)
        exact find?_cons_of_neg (by simpa [bears] using of_decide_eq_true hname)
  | endReply reply =>
    refine ⟨h.uniform, fun other => ?_, fun source c hc hlive => ?_, trivial, h.lawful⟩
    · change other ∈ reply :: d.ended ↔ _ ∈ endedReply reply :: d.log
      rw [mem_cons, mem_cons, h.flags other, endedReply.injEq]
    · refine (h.grants source c hc fun key hkey hmem => hlive key hkey
        (mem_cons_of_mem _ hmem)).congr (find?_cons_of_neg ?_) (.inr rfl)
      cases source with
      | none => exact Bool.false_ne_true
      | some key =>
        have hne : key.2 ≠ reply := fun heq => hlive key rfl (heq ▸ mem_cons_self)
        simpa [bears] using hne
  | reconfigure map => exact h.renewed rfl rfl rfl rfl
  | configureAdmin unlockHash lockHash timeoutMs =>
    refine h.renewed rfl rfl rfl ?_
    change (d.commands.configureAdmin _ _ _).adminUntilMs = 0
    unfold DtmfCommands.configureAdmin
    split <;> rfl
  | configureRemote digits access =>
    unfold SourceDesk.act
    dsimp only
    split
    · exact h
    rename_i commands hok
    obtain ⟨map, rfl, hpeers⟩ := h.uniform.configureRemote hok
    refine ⟨fun key c hc => ?_, h.flags, fun source c hc hlive => ?_, h.lawful⟩
    · rw [get?_map, map_eq_some_iff] at hc
      obtain ⟨c₀, hc₀, rfl⟩ := hc
      rw [hpeers key c₀ hc₀]
      exact (h.uniform key c₀ hc₀).adopt d.commands map access
    · cases source with
      | none =>
        cases hc
        exact (h.grants none d.commands rfl hlive).congr rfl (.inr rfl)
      | some key =>
        change (d.peers.map _).get? key = some c at hc
        rw [get?_map, map_eq_some_iff] at hc
        obtain ⟨c₀, hc₀, rfl⟩ := hc
        rw [hpeers key c₀ hc₀]
        exact (h.grants (some key) c₀ hc₀ hlive).congr rfl (.inr rfl)
  | close => exact { h with }

end

omit [RemoteFamily R] in
theorem initial_inv (h : d.Initial) : d.Inv := by
  obtain ⟨map, rfl⟩ := h
  refine ⟨nofun, by simp [new], fun source c hc => ?_, trivial⟩
  cases source with
  | none =>
    cases hc
    exact fun _ t ht => (Nat.not_lt_zero t ht).elim
  | some key => cases hc

theorem reachable_inv (h : Reachable Initial Step d) : d.Inv := by
  refine Reachable.invariant (P := Inv) (fun d' h' => initial_inv h')
    (fun d' move d'' h' hstep => ?_) h
  subst hstep
  exact { act_inv h' move with }

/-! ## Unlocks -/

/-- The state with which a call reads for a source: its own, or a new one of a peer. -/
def Reads (d : SourceDesk R) (source : Source) (c : DtmfCommands) : Prop :=
  d.collector source = some c ∨ source ≠ none ∧ c = d.commands.forSource

/-- An unlock of a source at `nowMs`: the event that its state reads completes an unlock command,
whose code verifies. -/
def Unlocks (d : SourceDesk R) (source : Source) (nowMs timeoutMs : Nat) : Prop :=
  ∃ c, d.Reads source c ∧ c.adminTimeoutMs = timeoutMs ∧
    ∃ event : DigitEvent, event.nowMs = nowMs ∧ c.Checks event.symbol nowMs .unlocked

/-- From `d` on the log only grows, and by no unlock that `d` does not make. -/
def Records (d d' : SourceDesk R) : Prop :=
  ∃ new, d'.log = new ++ d.log ∧ ∀ source nowMs timeoutMs,
    .unlocked source nowMs timeoutMs ∈ new → d.Unlocks source nowMs timeoutMs

omit [RemoteFamily R] in
theorem Records.same {d' : SourceDesk R} (hlog : d'.log = d.log) : d.Records d' :=
  ⟨[], hlog, fun _ _ _ hmem => by cases hmem⟩

omit [RemoteFamily R] in
theorem Records.record {d' : SourceDesk R} (h : d.Records d') {entries : List (Entry R)}
    (hentries : ∀ source nowMs timeoutMs, .unlocked source nowMs timeoutMs ∉ entries) :
    d.Records (d'.record entries) := by
  obtain ⟨new, hlog, hnew⟩ := h
  refine ⟨entries ++ new, ?_, fun source nowMs timeoutMs hmem => hnew source nowMs timeoutMs ?_⟩
  · rw [append_assoc, ← hlog]
    rfl
  · exact (mem_append.mp hmem).resolve_left (hentries source nowMs timeoutMs)

omit [RemoteFamily R] in
theorem Records.confirm {d' : SourceDesk R} (h : d.Records d') (op : DigitOperation R)
    (nowMs : Nat) : d.Records (d'.confirm op nowMs) := by
  unfold SourceDesk.confirm
  split
  · exact h
  split
  · exact h
  rename_i source _ _ _ _
  have hsame : d.Records (d'.update source (·.confirm nowMs)) := by
    unfold Records
    rwa [update_log]
  refine hsame.record fun _ _ _ hmem => ?_
  split at hmem <;> simp at hmem

omit [RemoteFamily R] in
theorem Records.administer {d' : SourceDesk R} (h : d.Records d') {p : Bool}
    (op : DigitOperation R) (nowMs : Nat) :
    d.Records (d'.record (if p then op.source.toList.map (.administered · nowMs) else [])) := by
  refine h.record fun _ _ _ hmem => ?_
  split at hmem <;> simp at hmem

end SourceDesk

/-! ## A run -/

namespace SourceDesk

/-- Codes are their own digests, and the remote base is not configured. -/
abbrev plainCodes : Credentials :=
  ⟨fun hash => decide (hash ≠ ""), fun hash code => hash.toList == code⟩

abbrev noRemote : RemoteFamily Unit := ⟨fun _ => none, fun _ => true⟩

attribute [local instance] plainCodes noRemote

end SourceDesk

end RptAdvanced.Dtmf
