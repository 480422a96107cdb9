import RptAdvanced.Policy.Identifier
import Mathlib.Tactic

/-!
# Runs of the identifier policy

A run is a list of the policy's five calls. `Becomes` says what one call can make of one rule's
state, and with `firstKey_cases` gives that at most one first-key rule is pending and that no rule
is satisfied in the future. The completion latch is followed from the completion that set it.

## Main results

* `Sound.call`, `sound_after`: one call and a whole run keep the invariant.
* `select_best`: a selection is the first of the due rules of highest priority.
* `identifier_policy`: arming, selection, deferral and completion at the end of every run.
-/

namespace RptAdvanced.Policy

open Lib List Option

inductive IdentifierCall where
  | activity
  | firstKey (idle now : Nat)
  | select (now : Nat) (receiverActive fullDuplex : Bool)
  | defer (selected now : Nat)
  | complete (selected now : Nat)
  deriving DecidableEq, Repr

/-- The time a call is given. -/
def IdentifierCall.time? : IdentifierCall → Option Nat
  | .activity => none
  | .firstKey _ now | .select now _ _ | .defer _ now | .complete _ now => some now

namespace IdentifierPolicy

/-- What a call leaves. -/
def call (rules : List IdentifierRule) (p : IdentifierPolicy) : IdentifierCall → IdentifierPolicy
  | .activity => p.activity
  | .firstKey idle now => (p.firstKey rules idle now).2
  | .select _ _ _ => p
  | .defer selected now => p.defer rules selected now
  | .complete selected now => p.complete rules selected now

/-- The policy after a run of calls. -/
def after (rules : List IdentifierRule) (calls : List IdentifierCall) : IdentifierPolicy :=
  calls.foldl (call rules) (new rules)

/-- Time does not go back over the calls. -/
def Ordered (calls : List IdentifierCall) : Prop :=
  (calls.filterMap IdentifierCall.time?).Pairwise (· ≤ ·)

/-- The first-key rule `i` is armed. -/
def Pending (p : IdentifierPolicy) (i : Nat) : Prop :=
  ∃ s, p.states[i]? = some s ∧ s.firstKeyPending = true

/-- Rule `i` is due and past its retry time. -/
def Ready (p : IdentifierPolicy) (rules : List IdentifierRule) (now i : Nat)
    (rule : IdentifierRule) : Prop :=
  rules[i]? = some rule ∧ ∃ s, p.states[i]? = some s ∧ due rule s now = true ∧ s.retryAfter ≤ now

/-- Rule `i` is the selected one or of lower priority. -/
def Covered (rules : List IdentifierRule) (selected i : Nat) : Prop :=
  ∃ chosen, rules[selected]? = some chosen ∧
    (i = selected ∨ ∃ rule, rules[i]? = some rule ∧ rule.priority < chosen.priority)

/-- A completion of `selected` takes an armed first-key rule, or completes a first-key rule. -/
def Consumes (p : IdentifierPolicy) (rules : List IdentifierRule) (selected : Nat) : Prop :=
  (∃ i, Covered rules selected i ∧ p.Pending i) ∨
    ∃ chosen, rules[selected]? = some chosen ∧ chosen.firstKeyOnly = true

theorem Ordered.around {before since : List IdentifierCall} {c : IdentifierCall} {t : Nat}
    (h : Ordered (before ++ c :: since)) (hc : c.time? = some t) :
    (∀ d ∈ before, ∀ now ∈ d.time?, now ≤ t) ∧ ∀ d ∈ since, ∀ now ∈ d.time?, t ≤ now := by
  unfold Ordered at h
  rw [filterMap_append, filterMap_cons_some hc, pairwise_append, pairwise_cons] at h
  refine ⟨fun d hd now hn => h.2.2 _ ?_ t mem_cons_self, fun d hd now hn => h.2.1.1 _ ?_⟩ <;>
    exact mem_filterMap.mpr ⟨d, hd, hn⟩

variable {rules : List IdentifierRule} {p : IdentifierPolicy} {c : IdentifierCall} {i t : Nat}

/-! ### One call -/

/-- `first_key` arms nothing, or one first-key rule whose interval has elapsed since the last
first-key completion; then nothing was armed or completed before. -/
theorem firstKey_cases (p : IdentifierPolicy) (rules : List IdentifierRule) (idle now : Nat) :
    p.firstKey rules idle now = (none, p) ∨ ∃ k rule, p.firstKey rules idle now = (some k, { p with
          states := p.states.modify k fun s => { s with firstKeyPending := true }
          nextFirstKey := (k + 1) % rules.length }) ∧
      p.firstKeyCompleted = false ∧ (∀ j, ¬ p.Pending j) ∧ rules[k]? = some rule ∧
      rule.firstKeyOnly = true ∧ rule.interval ≤ now - p.firstKeyCompletedAt := by
  unfold firstKey
  split
  · exact .inl rfl
  rename_i hopen
  rw [Bool.or_eq_true, not_or, Bool.not_eq_true, List.any_eq_true] at hopen
  split
  · exact .inl rfl
  rename_i k hfind
  have heligible := find?_some hfind
  unfold firstKeyEligible at heligible
  split at heligible
  · cases heligible
  rename_i rule hrule
  simp only [Bool.and_eq_true, decide_eq_true_eq] at heligible
  exact .inr ⟨k, rule, rfl, hopen.1, fun j ⟨s, hs, hp⟩ =>
    hopen.2 ⟨s, mem_of_getElem? hs, hp⟩, hrule, heligible.1.1, heligible.2⟩

variable {s' : IdentifierState}

/-- A deferral moves retry times only. -/
theorem defer_states {selected now : Nat} (h : (p.defer rules selected now).states[i]? = some s') :
    ∃ s, p.states[i]? = some s ∧ s' = { s with retryAfter := s'.retryAfter } := by
  unfold defer at h
  split at h
  · exact ⟨s', h, rfl⟩
  rw [getElem?_modify] at h
  obtain ⟨s, hs, rfl⟩ := map_eq_some_iff.mp h
  refine ⟨s, hs, ?_⟩
  split <;> rfl

/-- What a call can make of the state `s` of rule `i`. -/
structure Becomes (rules : List IdentifierRule) (p : IdentifierPolicy) (c : IdentifierCall)
    (i : Nat) (s s' : IdentifierState) : Prop where
  pending : s'.firstKeyPending = true → s.firstKeyPending = true ∨
    ∃ idle now, c = .firstKey idle now ∧ (p.firstKey rules idle now).1 = some i
  satisfied : s'.satisfied = s.satisfied ∨ c.time? = some s'.satisfied

theorem complete_states (hlen : p.states.length = rules.length) (selected now : Nat) :
    (Covered rules selected i → (p.complete rules selected now).states[i]? =
      p.states[i]?.map fun _ => { IdentifierState.fresh with satisfied := now }) ∧
    (¬ Covered rules selected i → (p.complete rules selected now).states[i]? = p.states[i]?) := by
  unfold complete
  split
  · rename_i hnone
    refine ⟨fun ⟨_, hsome, _⟩ => ?_, fun _ => rfl⟩
    rw [hnone] at hsome
    cases hsome
  · rename_i chosen hchosen
    have hcovered : Covered rules selected i ↔ covers rules selected chosen i = true := by
      unfold Covered covers
      cases rules[i]? <;> simp [hchosen]
    rcases lt_or_ge i rules.length with hi | hi
    · rw [getElem?_mapIdx, hcovered]
      refine ⟨fun h => ?_, fun h => ?_⟩ <;> cases p.states[i]? <;> simp [hi, h]
    · simp [List.getElem?_eq_none (hlen ▸ hi)]

theorem call_becomes (hlen : p.states.length = rules.length)
    (h : (p.call rules c).states[i]? = some s') :
    ∃ s, p.states[i]? = some s ∧ Becomes rules p c i s s' := by
  cases c with
  | activity =>
    obtain ⟨s, hs, rfl⟩ := map_eq_some_iff.mp (getElem?_map .. ▸ h)
    exact ⟨s, hs, .inl, .inl rfl⟩
  | firstKey idle now =>
    rcases firstKey_cases p rules idle now with hk | ⟨k, rule, hk, -⟩ <;> rw [call, hk] at h
    · exact ⟨s', h, .inl, .inl rfl⟩
    · obtain ⟨s, hs, rfl⟩ := map_eq_some_iff.mp (getElem?_modify .. ▸ h)
      refine ⟨s, hs, fun hp => ?_, ?_⟩
      · by_cases hki : k = i
        · exact .inr ⟨idle, now, rfl, by rw [hk, hki]⟩
        · exact .inl (by simpa [hki] using hp)
      · split <;> exact .inl rfl
  | select => exact ⟨s', h, .inl, .inl rfl⟩
  | defer selected now =>
    obtain ⟨s, hs, he⟩ := defer_states h
    exact ⟨s, hs, fun hp => .inl (by rw [he] at hp; exact hp), .inl (by rw [he])⟩
  | complete selected now =>
    by_cases hcovered : Covered rules selected i
    · rw [call, (complete_states hlen selected now).1 hcovered] at h
      obtain ⟨s, hs, rfl⟩ := map_eq_some_iff.mp h
      exact ⟨s, hs, nofun, .inr rfl⟩
    · exact ⟨s', (complete_states hlen selected now).2 hcovered ▸ h, .inl, .inl rfl⟩

/-! ### Runs -/

/-- One state for each rule, and at most one of them armed. -/
structure Sound (rules : List IdentifierRule) (p : IdentifierPolicy) : Prop where
  length : p.states.length = rules.length
  single : ∀ i j, p.Pending i → p.Pending j → i = j

theorem Sound.call (h : Sound rules p) (c : IdentifierCall) : Sound rules (p.call rules c) := by
  have hfrom : ∀ i, (p.call rules c).Pending i → p.Pending i ∨ (∀ j, ¬ p.Pending j) ∧
      ∃ idle now, c = .firstKey idle now ∧ (p.firstKey rules idle now).1 = some i := by
    rintro i ⟨s', hs', hp⟩
    obtain ⟨s, hs, hb⟩ := call_becomes h.length hs'
    refine (hb.pending hp).imp (fun hp => ⟨s, hs, hp⟩) fun ⟨idle, now, hc, hk⟩ => ?_
    rcases firstKey_cases p rules idle now with hn | ⟨k, rule, -, -, hno, -⟩
    · rw [hn] at hk
      cases hk
    · exact ⟨hno, idle, now, hc, hk⟩
  refine ⟨?_, fun i j hi hj => ?_⟩
  · have hlen := h.length
    cases c with
    | activity => simpa [IdentifierPolicy.call, activity] using hlen
    | firstKey idle now =>
      rcases firstKey_cases p rules idle now with hk | ⟨k, rule, hk, -⟩ <;>
        simpa [IdentifierPolicy.call, hk] using hlen
    | select => exact hlen
    | defer selected now =>
      simp only [IdentifierPolicy.call, defer]
      split <;> simpa using hlen
    | complete selected now =>
      simp only [IdentifierPolicy.call, complete]
      split <;> simpa using hlen
  · rcases hfrom i hi with hi | ⟨hno, idle, now, rfl, hki⟩
    · rcases hfrom j hj with hj | ⟨hno, -⟩
      · exact h.single i j hi hj
      · exact absurd hi (hno i)
    · rcases hfrom j hj with hj | ⟨-, _, _, hc, hkj⟩
      · exact absurd hj (hno j)
      · cases hc
        exact Option.some.inj (hki.symm.trans hkj)

section

variable (calls : List IdentifierCall)

theorem after_concat (rules : List IdentifierRule)
    (c : IdentifierCall) : after rules (calls ++ [c]) = (after rules calls).call rules c :=
  foldl_append

theorem sound_after (rules : List IdentifierRule) :
    Sound rules (after rules calls) := by
  induction calls using List.reverseRecOn with
  | nil =>
    refine ⟨length_map .., ?_⟩
    rintro i j ⟨s, hs, hp⟩
    obtain ⟨_, -, rfl⟩ := map_eq_some_iff.mp (getElem?_map .. ▸ hs)
    cases hp
  | append_singleton calls c ih =>
    rw [after_concat]
    exact ih.call c

/-- No rule is satisfied later than a bound of the times given. -/
theorem satisfied_le (hle : ∀ c ∈ calls, ∀ now ∈ c.time?, now ≤ t) :
    ∀ s ∈ (after rules calls).states, s.satisfied ≤ t := by
  induction calls using List.reverseRecOn with
  | nil =>
    intro s hs
    obtain ⟨_, -, rfl⟩ := mem_map.mp hs
    exact Nat.zero_le t
  | append_singleton calls c ih =>
    intro s' hs'
    obtain ⟨i, hi⟩ := mem_iff_getElem?.mp hs'
    rw [after_concat] at hi
    obtain ⟨s, hs, hb⟩ := call_becomes (sound_after calls rules).length hi
    rcases hb.satisfied with he | he
    · rw [he]
      exact ih (fun d hd => hle d (mem_append_left _ hd)) s (mem_of_getElem? hs)
    · exact hle c (mem_append_right _ mem_cons_self) _ he

end

/-! ### The completion latch -/

theorem complete_latched (hlen : p.states.length = rules.length) {selected : Nat}
    (h : p.Consumes rules selected) : (p.complete rules selected t).firstKeyCompleted = true ∧
      (p.complete rules selected t).firstKeyCompletedAt = t := by
  -- the entry whose branch of the loop sets the latch
  obtain ⟨chosen, s, i, hchosen, hs, hcovered, hflag⟩ :
    ∃ chosen s i, rules[selected]? = some chosen ∧
      p.states[i]? = some s ∧ covers rules selected chosen i = true ∧
      (s.firstKeyPending || chosen.firstKeyOnly) = true := by
    rcases h with ⟨i, ⟨chosen, hchosen, hcovered⟩, s, hs, hp⟩ | ⟨chosen, hchosen, hfirst⟩
    · refine ⟨chosen, s, i, hchosen, hs, ?_, by rw [hp, Bool.true_or]⟩
      rcases hcovered with rfl | ⟨rule, hrule, hlt⟩
      · simp [covers]
      · simp [covers, hrule, hlt]
    · have hi := hlen ▸ (List.getElem?_eq_some_iff.mp hchosen).1
      exact ⟨chosen, _, selected, hchosen, getElem?_eq_getElem hi, by simp [covers],
        by rw [hfirst, Bool.or_true]⟩
  have hi : i < rules.length := hlen ▸ (List.getElem?_eq_some_iff.mp hs).1
  have hany : ((p.states.zipIdx.filter fun e => decide (e.2 < rules.length) &&
      covers rules selected chosen e.2).any
        fun e => e.1.firstKeyPending || chosen.firstKeyOnly) = true := by
    refine List.any_eq_true.mpr ⟨(s, i), mem_filter.mpr ⟨?_, by simp [hi, hcovered]⟩, hflag⟩
    exact mem_zipIdx_iff_getElem?.mpr hs
  simp [complete, hchosen, hany]

/-- A call at or after `t` keeps the latch of `t`, and only activity opens it. -/
theorem call_latched (h : t ≤ p.firstKeyCompletedAt) (hc : ∀ now ∈ c.time?, t ≤ now) :
    t ≤ (p.call rules c).firstKeyCompletedAt ∧ (c ≠ .activity → p.firstKeyCompleted = true →
        (p.call rules c).firstKeyCompleted = true) := by
  cases c with
  | activity => exact ⟨h, fun hne => absurd rfl hne⟩
  | firstKey idle now =>
    rcases firstKey_cases p rules idle now with hk | ⟨k, rule, hk, -⟩ <;>
      exact ⟨by rw [call, hk]; exact h, fun _ => by rw [call, hk]; exact id⟩
  | select => exact ⟨h, fun _ => id⟩
  | defer selected now =>
    simp only [call, defer]
    split <;> exact ⟨h, fun _ => id⟩
  | complete selected now =>
    simp only [call, complete]
    split
    · exact ⟨h, fun _ => id⟩
    refine ⟨?_, fun _ hp => by simp [hp]⟩
    dsimp only
    split
    exacts [hc now rfl, h]

theorem foldl_latched (since : List IdentifierCall) (h : t ≤ p.firstKeyCompletedAt)
    (hsince : ∀ c ∈ since, ∀ now ∈ c.time?, t ≤ now) :
    t ≤ (since.foldl (call rules) p).firstKeyCompletedAt ∧
      (.activity ∉ since → p.firstKeyCompleted = true →
        (since.foldl (call rules) p).firstKeyCompleted = true) := by
  induction since generalizing p with
  | nil => exact ⟨h, fun _ => id⟩
  | cons c since ih =>
    have hc := @call_latched rules p c t h (hsince c mem_cons_self)
    have hrest := ih hc.1 fun d hd => hsince d (mem_cons_of_mem _ hd)
    refine ⟨hrest.1, fun hno hp => hrest.2 (fun hm => hno (mem_cons_of_mem _ hm))
      (hc.2 (fun he => hno (he ▸ mem_cons_self)) hp)⟩

/-! ### Selection -/

/-- A choice among the rules before `n`: the first of highest priority of the ready and eligible. -/
def Best (p : IdentifierPolicy) (rules : List IdentifierRule) (now : Nat) (eligible : Nat → Bool)
    (n : Nat) : Option Nat → Prop
  | none => ∀ i < n, ∀ rule, p.Ready rules now i rule → eligible i = false
  | some k => k < n ∧ eligible k = true ∧ ∃ rule, p.Ready rules now k rule ∧ ∀ i < n, ∀ other,
      p.Ready rules now i other → eligible i = true →
        other.priority ≤ rule.priority ∧ (i < k → other.priority < rule.priority)

variable {rule : IdentifierRule}

theorem selectRound_best {now n : Nat} {eligible : Nat → Bool} {selected : Option Nat}
    {s : IdentifierState} (h : p.Best rules now eligible n selected)
    (hrule : rules[n]? = some rule) (hs : p.states[n]? = some s) :
    p.Best rules now eligible (n + 1) (selectRound rules now eligible selected ((rule, s), n)) := by
  have hlast : ∀ i < n + 1, ∀ other, p.Ready rules now i other →
      i < n ∨ i = n ∧ other = rule ∧ due rule s now = true ∧ s.retryAfter ≤ now := by
    rintro i hi other ⟨ho, s', hs', hready⟩
    rcases Nat.lt_succ_iff_lt_or_eq.mp hi with hi | rfl
    · exact .inl hi
    cases hrule.symm.trans ho
    cases hs.symm.trans hs'
    exact .inr ⟨rfl, rfl, hready⟩
  by_cases hP : (due rule s now = true ∧ s.retryAfter ≤ now) ∧ eligible n = true
  · have hn : p.Ready rules now n rule := ⟨hrule, s, hs, hP.1⟩
    cases selected with
    | none =>
      simp only [selectRound, hP, bind_none]
      refine ⟨n.lt_succ_self, hP.2, rule, hn, fun i hi other ho heligible => ?_⟩
      rcases hlast i hi other ho with hi | ⟨rfl, rfl, -⟩
      · cases heligible.symm.trans (h i hi other ho)
      · exact ⟨le_rfl, fun hlt => absurd hlt (lt_irrefl _)⟩
    | some k =>
      obtain ⟨hk, hkeligible, current, hcur, hbest⟩ := h
      simp only [selectRound, hP, bind_some, hcur.1]
      split
      · rename_i hlt
        have hlt : current.priority < rule.priority := by simpa using hlt
        refine ⟨n.lt_succ_self, hP.2, rule, hn, fun i hi other ho heligible => ?_⟩
        rcases hlast i hi other ho with hi | ⟨rfl, rfl, -⟩
        · have hle := (hbest i hi other ho heligible).1.trans_lt hlt
          exact ⟨hle.le, fun _ => hle⟩
        · exact ⟨le_rfl, fun hlt => absurd hlt (lt_irrefl _)⟩
      · rename_i hge
        refine ⟨hk.trans n.lt_succ_self, hkeligible, current, hcur,
          fun i hi other ho heligible => ?_⟩
        rcases hlast i hi other ho with hi | ⟨rfl, rfl, -⟩
        · exact hbest i hi other ho heligible
        · exact ⟨by simpa using hge, fun hik => absurd hk hik.not_gt⟩
  · have hskip : selectRound rules now eligible selected ((rule, s), n) = selected := by
      grind [selectRound]
    have hold : ∀ i < n + 1, ∀ other, p.Ready rules now i other → eligible i = true → i < n :=
      fun i hi other ho heligible => (hlast i hi other ho).resolve_right
        fun hn => hP ⟨hn.2.2, hn.1 ▸ heligible⟩
    rw [hskip]
    cases selected with
    | none =>
      exact fun i hi rule ho => by_contra fun heligible =>
        heligible (h i (hold i hi rule ho (Bool.eq_true_of_not_eq_false heligible)) rule ho)
    | some k =>
      obtain ⟨hk, hkeligible, current, hcur, hbest⟩ := h
      exact ⟨hk.trans n.lt_succ_self, hkeligible, current, hcur, fun i hi other ho heligible =>
        hbest i (hold i hi other ho heligible) other ho heligible⟩

variable {receiverActive fullDuplex : Bool}

/-- An open `select_where` finds the first of highest priority of the ready and eligible rules. -/
theorem selectWhere_best
    (hopen : (receiverActive && !fullDuplex) = false) (now : Nat) (eligible : Nat → Bool) :
    p.Best rules now eligible (rules.zip p.states).length
      (p.selectWhere rules now receiverActive fullDuplex eligible) := by
  have hfold : ∀ l, l <+: rules.zip p.states → p.Best rules now eligible l.length
      (l.zipIdx.foldl (selectRound rules now eligible) none) := by
    intro l hl
    induction l using List.reverseRecOn with
    | nil => exact nofun
    | append_singleton l e ih =>
      obtain ⟨rest, hrest⟩ := hl
      have he : (rules.zip p.states)[l.length]? = some e := by simp [← hrest]
      rw [getElem?_zip_eq_some] at he
      rw [zipIdx_append, foldl_append, length_append, Nat.zero_add]
      exact selectRound_best (ih ⟨e :: rest, by simpa using hrest⟩) he.1 he.2
  rw [selectWhere, hopen]
  exact hfold _ (prefix_refl _)

theorem Ready.lt {now : Nat} (h : p.Ready rules now i rule) : i < (rules.zip p.states).length := by
  obtain ⟨hi, s, hs, -⟩ := h
  rw [length_zip, lt_min_iff]
  exact ⟨(List.getElem?_eq_some_iff.mp hi).1, (List.getElem?_eq_some_iff.mp hs).1⟩

/-- An open `select_where` finds an eligible rule if one is ready. -/
theorem selectWhere_some (hopen : (receiverActive && !fullDuplex) = false) {now : Nat}
    (h : p.Ready rules now i rule) (eligible : Nat → Bool) (heligible : eligible i = true) :
    ∃ k, p.selectWhere rules now receiverActive fullDuplex eligible = some k ∧
      eligible k = true := by
  have hbest := @selectWhere_best rules p _ _ hopen now eligible
  cases hselect : p.selectWhere rules now receiverActive fullDuplex eligible with
  | none =>
    rw [hselect] at hbest
    cases heligible.symm.trans (hbest i h.lt rule h)
  | some k =>
    rw [hselect] at hbest
    exact ⟨k, rfl, hbest.2.1⟩

/-- A selection is the first of the ready rules of highest priority. -/
theorem select_best {now k : Nat} (h : p.select rules now receiverActive fullDuplex = some k) :
    ∃ rule, p.Ready rules now k rule ∧ ∀ i other, p.Ready rules now i other →
      other.priority ≤ rule.priority ∧ (i < k → other.priority < rule.priority) := by
  cases hopen : receiverActive && !fullDuplex with
  | true => simp [select, selectWhere, hopen] at h
  | false =>
    have hbest := @selectWhere_best rules p _ _ hopen now fun _ => true
    rw [← select, h] at hbest
    obtain ⟨-, -, rule, hrule, hall⟩ := hbest
    exact ⟨rule, hrule, fun i other ho => hall i ho.lt other ho rfl⟩

/-! ### The policy -/

/-- At the end of every run over which time does not go back: at most one first-key rule is armed;
after a completion that took a first-key opportunity nothing is armed before activity, and no rule
before its interval has passed since; a selection is ready and the first of highest priority; a
deferral satisfies nothing; a completion satisfies the selected rule and those of lower priority. -/
theorem identifier_policy (rules : List IdentifierRule) (history : List IdentifierCall)
    (c : IdentifierCall) (hordered : Ordered (history ++ [c])) :
    (∀ i j, (after rules history).Pending i → (after rules history).Pending j → i = j) ∧
    (∀ before selected t since, history = before ++ .complete selected t :: since →
      (after rules before).Consumes rules selected → ∀ idle now, c = .firstKey idle now →
        (.activity ∉ since →
          (after rules history).firstKey rules idle now = (none, after rules history)) ∧
        ∀ i, ((after rules history).firstKey rules idle now).1 = some i →
          ∃ rule, rules[i]? = some rule ∧ t + rule.interval ≤ now) ∧
    (∀ now receiverActive fullDuplex k, c = .select now receiverActive fullDuplex →
      (after rules history).select rules now receiverActive fullDuplex = some k →
        (∀ s ∈ (after rules history).states, s.satisfied ≤ now) ∧
        ∃ rule, (after rules history).Ready rules now k rule ∧
          ∀ i other, (after rules history).Ready rules now i other →
            other.priority ≤ rule.priority ∧ (i < k → other.priority < rule.priority)) ∧
    (∀ selected now, c = .defer selected now → ∀ (i : Nat) (s' : IdentifierState),
      (after rules (history ++ [c])).states[i]? = some s' → ∃ s,
        (after rules history).states[i]? = some s ∧ s' = { s with retryAfter := s'.retryAfter }) ∧
    (∀ selected now, c = .complete selected now → ∀ i,
      (Covered rules selected i → (after rules (history ++ [c])).states[i]? =
        (after rules history).states[i]?.map fun _ =>
          { IdentifierState.fresh with satisfied := now }) ∧
      (¬ Covered rules selected i →
        (after rules (history ++ [c])).states[i]? = (after rules history).states[i]?)) := by
  have hsound := sound_after history rules
  refine ⟨hsound.single, ?_, ?_, ?_, ?_⟩
  · rintro before selected t since rfl hcons idle now rfl
    have hold := complete_latched (t := t) (sound_after before rules).length hcons
    have hlatch := @foldl_latched rules _ t since hold.2.ge fun d hd =>
      (Ordered.around (append_assoc .. ▸ hordered) rfl).2 d (mem_append_left _ hd)
    have hafter : after rules (before ++ .complete selected t :: since) =
        since.foldl (call rules) ((after rules before).complete rules selected t) :=
      foldl_append
    rw [← hafter] at hlatch
    have htime : t ≤ now := (hordered.around rfl).1 (.complete selected t) (by simp) t rfl
    rcases firstKey_cases
      (after rules (before ++ .complete selected t :: since)) rules idle now with
      hk | ⟨k, rule, hk, hopen, -, hrule, -, hwait⟩
    · refine ⟨fun _ => hk, fun i hi => ?_⟩
      rw [hk] at hi
      cases hi
    refine ⟨fun hno => ?_, fun i hi => ?_⟩
    · rw [hlatch.2 hno hold.1] at hopen
      cases hopen
    · rw [hk] at hi
      cases hi
      exact ⟨rule, hrule, by omega⟩
  · rintro now receiverActive fullDuplex k rfl hk
    exact ⟨satisfied_le history (hordered.around rfl).1, select_best hk⟩
  · rintro selected now rfl i s' hs'
    rw [after_concat] at hs'
    exact defer_states hs'
  · rintro selected now rfl i
    rw [after_concat]
    exact complete_states hsound.length selected now

/-- A first-key rule is armed and completed; the next key does not arm it again. -/
theorem identifier_policy_latched : let rules := [⟨10, 5, true, false⟩, ⟨20, 1, false, true⟩]
    let history := [.firstKey 10 10, .complete 0 12]
    Ordered (history ++ [.firstKey 30 30]) ∧
      (after rules history).firstKey rules 30 30 = (none, after rules history) := by
  intro rules history
  have hordered : Ordered (history ++ [.firstKey 30 30]) := by
    unfold Ordered
    decide
  have hcons : (after rules [.firstKey 10 10]).Consumes rules 0 := .inr ⟨_, rfl, rfl⟩
  exact ⟨hordered, ((identifier_policy rules history (.firstKey 30 30) hordered).2.1
    [.firstKey 10 10] 0 12 [] rfl hcons 30 30 rfl).1 nofun⟩

end IdentifierPolicy

end RptAdvanced.Policy
