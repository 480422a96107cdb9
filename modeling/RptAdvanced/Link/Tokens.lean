import RptAdvanced.Lib.Run
import RptAdvanced.Link.Moves

/-!
# Dial tokens of the hub (`rust/core/src/link/hub.rs`)

A dial is made outside the control owner and may end after its retry was cancelled, resumed or
replaced. A `Dialling` is a hub with the tokens it has issued and those that are stale: their name
was cancelled or permanently disconnected, their generation invalidated, their retry given another
state, or they were settled. Publishing and finishing are possible with every token ever issued, any
number of times.

An operation disposes of a token (`LinkManager.voids`) when the retry that carries it is the one the
operation acts on. Records of one name are possible, and the others keep their tokens.

Results:
* `perform_sheds`: no operation but `take_retry` gives a retry a token.
* `stale_tokens`: a stale token publishes nothing and changes nothing, at most one token can publish
  through a retry, and delays double from one second up to five minutes.
-/

namespace RptAdvanced.Link

open Lib List Option Bool Retry

/-! ## The tokens that retries carry -/

def Retry.token (r : Retry) : Option (String × Nat) := r.attempt.map fun serial => (r.name, serial)

theorem Retry.carries_iff {a : RetryAttempt} {r : Retry} :
    r.carries a = true ↔ r.token = some (a.name, a.serial) := by
  unfold carries token
  rw [and_eq_true, beq_iff_eq, beq_iff_eq, map_eq_some_iff]
  constructor
  · rintro ⟨hname, hattempt⟩
    exact ⟨a.serial, hattempt, by rw [hname]⟩
  · rintro ⟨serial, hattempt, he⟩
    rw [Prod.mk.injEq] at he
    exact ⟨he.1, he.2 ▸ hattempt⟩

theorem Retry.token_none {r : Retry} (h : r.attempt = none) : r.token = none := by
  rw [token, h, map_none]

namespace LinkManager

/-- The tokens of all retries. -/
def tokens (m : LinkManager) : List (String × Nat) := m.retries.filterMap token

variable {a : RetryAttempt}

theorem mem_tokens {m : LinkManager} :
    (a.name, a.serial) ∈ m.tokens ↔ ∃ r ∈ m.retries, r.carries a = true := by
  unfold tokens
  rw [mem_filterMap]
  exact exists_congr fun r => and_congr_right fun _ => carries_iff.symm

/-- What an operation does to the tokens: it gives out none. -/
structure Sheds (m m' : LinkManager) : Prop where
  serial : m'.serial = m.serial
  tokens : m'.tokens.Sublist m.tokens
  paced : (∀ r ∈ m.retries, r.Paced) → ∀ r ∈ m'.retries, r.Paced

theorem Sheds.refl (m : LinkManager) : m.Sheds m := ⟨rfl, .refl _, fun h => h⟩

variable {m m' : LinkManager} {move : HubMove}

section

variable (hserial : m'.serial = m.serial)
include hserial

theorem Sheds.of_retries (hretries : m'.retries = m.retries) : m.Sheds m' := by
  refine ⟨hserial, ?_, ?_⟩
  · unfold LinkManager.tokens
    rw [hretries]
  · rw [hretries]
    exact id

/-- New retries have neither a token nor a delay. -/
theorem Sheds.of_append {l new : List Retry}
    (hretries : m'.retries = l ++ new) (hl : (l.filterMap token).Sublist m.tokens)
    (hpaced : (∀ r ∈ m.retries, r.Paced) → ∀ r ∈ l, r.Paced)
    (hnew : ∀ r ∈ new, r.attempt = none ∧ r.delay = 0) : m.Sheds m' := by
  have hnone : new.filterMap token = [] :=
    filterMap_eq_nil_iff.mpr fun r hr => token_none (hnew r hr).1
  refine ⟨hserial, ?_, fun h r hr => ?_⟩
  · unfold LinkManager.tokens
    rwa [hretries, filterMap_append, hnone, append_nil]
  · rw [hretries] at hr
    rcases mem_append.mp hr with hr | hr
    · exact hpaced h r hr
    · exact .inl (hnew r hr).2

/-- One retry is changed in place. -/
theorem Sheds.of_modifyFirst {p : Retry → Bool} {f : Retry → Retry}
    (hretries : m'.retries = modifyFirst p f m.retries)
    (htoken : ∀ r, (f r).token = r.token ∨ (f r).token = none)
    (hdelay : ∀ r, (f r).delay = r.delay) : m.Sheds m' := by
  have htrims := trims_modifyFirst (p := p) (f := f) (r := fun r r' : Retry =>
    (r'.token = r.token ∨ r'.token = none) ∧ r'.delay = r.delay) (fun _ => ⟨.inl rfl, rfl⟩)
    (fun r _ => ⟨htoken r, hdelay r⟩) m.retries
  refine ⟨hserial, ?_, fun h r' hr' => ?_⟩
  · unfold LinkManager.tokens
    rw [hretries]
    exact htrims.filterMap_sublist fun _ _ h => h.1
  · obtain ⟨r, hr, -, hdelay⟩ := htrims.mem (hretries ▸ hr')
    rw [Retry.Paced, hdelay]
    exact h r hr

end

/-- An operation that makes no record gives out no token, unless it is `take_retry`. -/
theorem Edit.sheds (h : Edit move m m')
    (htake : ∀ nowMs, move ≠ .takeRetry nowMs) : m.Sheds m' := by
  cases h with
  | intro _ _ _ _ hretries hstay hnew hserial =>
    refine .of_append (hserial htake) hretries ?_ (fun h r' hr' => ?_) fun r hr => ?_
    · refine hstay.filterMap_sublist fun r r' h => ?_
      unfold token
      rw [h.name]
      rcases h.attempt with he | he | ⟨⟨nowMs, he⟩, -⟩
      · exact .inl (by rw [he])
      · exact .inr (by rw [he]; rfl)
      · exact absurd he (htake nowMs)
    · obtain ⟨r, hr, hreworks⟩ := hstay.mem hr'
      exact hreworks.paced (h r hr)
    · obtain ⟨p, -, paused, due, -, rfl⟩ := forall₂_mem hnew hr
      exact ⟨rfl, rfl⟩

variable (name : String) (mode : Mode) (nowMs : Nat) (permanent : Bool) (group : Option String)
  (member : Option GroupMember)

theorem attachMember_sheds (m : LinkManager) :
    m.Sheds (m.attachMember name mode permanent member).2 := by
  unfold attachMember
  split
  · exact .refl m
  · exact .of_retries rfl rfl

theorem attachGroup_sheds
    (m : LinkManager) : m.Sheds (m.attachGroup name mode permanent group).2 := by
  unfold attachGroup
  split
  · exact .refl m
  · exact .of_retries rfl rfl

theorem publishRetry_sheds (attempt : RetryAttempt) (m : LinkManager) :
    m.Sheds (m.publishRetry attempt).2 := by
  unfold publishRetry
  split
  · exact .refl m
  split
  · exact .refl m
  split
  · exact .of_modifyFirst rfl rfl (fun r => .inl rfl) fun _ => rfl
  · exact .of_retries rfl rfl

/-- **No operation but `take_retry` gives a retry a token.** -/
theorem perform_sheds (h : ∀ nowMs, move ≠ .takeRetry nowMs) (m : LinkManager) :
    m.Sheds (m.perform move) := by
  have hnew : ∀ {retry : Retry}, retry.attempt = none ∧ retry.delay = 0 →
      ∀ r ∈ [retry], r.attempt = none ∧ r.delay = 0 := fun h r hr => mem_singleton.mp hr ▸ h
  cases hquiet : move.quiet with
  | true => exact (perform_edit m hquiet).sheds h
  | false =>
  cases move with
  | attach | attachGroup => exact attachGroup_sheds ..
  | attachMember => exact attachMember_sheds ..
  | admitIncoming name verified policy =>
    dsimp only [perform, admitIncoming]
    split
    · exact .refl m
    split
    · exact .refl m
    · exact attachGroup_sheds ..
  | admitIncomingMember name verified policy member =>
    dsimp only [perform, admitIncomingMember]
    split
    · exact .refl m
    · exact attachMember_sheds ..
  | retainRetryGroup | retainRetryMember =>
    dsimp only [perform, retainRetryGroup, retainRetryMember]
    split
    · exact .refl m
    · exact .of_append rfl rfl (.refl _) id (hnew ⟨rfl, rfl⟩)
  | retainTopologyBlockedGroup =>
    dsimp only [perform, retainTopologyBlockedGroup]
    split
    · exact .of_modifyFirst rfl rfl (fun r => .inr rfl) fun _ => rfl
    · exact .of_append rfl rfl (.refl _) id (hnew ⟨rfl, rfl⟩)
  | publishRetry => exact publishRetry_sheds ..
  | _ => cases hquiet

/-! ## Tokens that an operation disposes of -/

/-- Whether a topology message releases the blocked retry that carries the token. -/
def releases (name : String) (message : Option Protocol) (a : RetryAttempt) (m : LinkManager) :
    Bool :=
  match message with
  | some (.topology routes) =>
    (m.peers.find? (·.name == name)).any (fun source => decide (source.routes ≠ routes))
      && m.retries.any fun r => r.carries a && (m.adopt name routes).released r
  | _ => false

/-- Whether an operation cancels or permanently disconnects the token's name, invalidates its
generation, supersedes it or settles it. -/
def voids (m : LinkManager) (a : RetryAttempt) : HubMove → Bool
  | .cancelRetry name => a.name == name
  | .disconnectPermanent name =>
    a.name == name && m.retries.any fun r => r.carries a && r.automatic
  | .disconnectPermanentAll => m.retries.any fun r => r.carries a && r.automatic
  | .invalidateGeneration | .close => true
  | .resumePermanentRetry name _ _ => (m.retries.find? (resumable name)).any (·.carries a)
  | .retainTopologyBlockedGroup name _ _ _ =>
    (m.retries.find? (·.name == name)).any (·.carries a)
  | .updateTopology name message => m.releases name message a
  | .finishRetry attempt _ _ => decide (a = attempt)
  | _ => false

/-- A token is carried by one retry. -/
theorem carrier_unique (h : m.tokens.Nodup) {r r' : Retry}
    (hr : r ∈ m.retries) (hr' : r' ∈ m.retries) (hc : r.carries a = true)
    (hc' : r'.carries a = true) : r = r' :=
  eq_of_filterMap_nodup h hr hr' (carries_iff.mp hc) (carries_iff.mp hc')

theorem finishRetry_settles (h : m.tokens.Nodup) (a : RetryAttempt) (success : Bool)
    (nowMs : Nat) : (a.name, a.serial) ∉ (m.finishRetry a success nowMs).tokens := by
  unfold finishRetry
  split
  · rename_i hnone
    rw [mem_tokens]
    rintro ⟨r, hr, hc⟩
    exact absurd hc (find?_eq_none.mp hnone r hr)
  · rename_i r hfind
    have htoken : r.token = some (a.name, a.serial) :=
      carries_iff.mp (find?_some hfind)
    split
    · exact not_mem_filterMap_modifyFirst hfind h htoken rfl
    split
    · exact not_mem_filterMap_eraseP hfind h htoken
    refine not_mem_filterMap_modifyFirst hfind h htoken (token_none ?_)
    unfold postpone
    dsimp only
    split <;> rfl

/-- An operation that disposes of a token leaves no retry with it. -/
theorem perform_voids (h : m.tokens.Nodup)
    (hvoid : m.voids a move = true) : (a.name, a.serial) ∉ (m.perform move).tokens := by
  cases move with
  | cancelRetry name =>
    rw [mem_tokens]
    rintro ⟨r, hr, hc⟩
    have hname : r.name = a.name := (and_eq_true_iff.mp hc).1 |> beq_iff_eq.mp
    have hne := (mem_filter.mp hr).2
    rw [hname, beq_iff_eq.mp (show (a.name == name) = true from hvoid)] at hne
    simp at hne
  | disconnectPermanent name =>
    rw [mem_tokens]
    rintro ⟨r, hr, hc⟩
    obtain ⟨hname, hany⟩ := and_eq_true_iff.mp (show _ = true from hvoid)
    obtain ⟨r₀, hr₀, hr₀'⟩ := any_eq_true.mp hany
    obtain ⟨hc₀, hautomatic⟩ := and_eq_true_iff.mp hr₀'
    change r ∈ (m.disconnectPermanent name).2.retries at hr
    rw [(disconnectPermanent_eq name m).2.1, mem_filter] at hr
    cases carrier_unique h hr.1 hr₀ hc hc₀
    have hcname : r.name = a.name := beq_iff_eq.mp (and_eq_true_iff.mp hc).1
    rw [hcname, beq_iff_eq.mp hname, hautomatic] at hr
    simp at hr
  | disconnectPermanentAll =>
    rw [mem_tokens]
    rintro ⟨r, hr, hc⟩
    obtain ⟨r₀, hr₀, hr₀'⟩ := any_eq_true.mp (show _ = true from hvoid)
    obtain ⟨hc₀, hautomatic⟩ := and_eq_true_iff.mp hr₀'
    rcases mem_append.mp hr with hr | hr
    · obtain ⟨r₁, hr₁, rfl⟩ := mem_map.mp hr
      split at hc
      · simp [carries] at hc
      rename_i hmanual
      cases carrier_unique h hr₁ hr₀ hc hc₀
      exact hmanual hautomatic
    · obtain ⟨peer, -, rfl⟩ := mem_map.mp hr
      simp [carries, Attached.retained] at hc
  | invalidateGeneration =>
    rw [mem_tokens]
    rintro ⟨r, hr, hc⟩
    obtain ⟨r₀, -, rfl⟩ := mem_map.mp hr
    simp [carries] at hc
  | close => exact not_mem_nil
  | resumePermanentRetry name mode nowMs =>
    obtain ⟨r, hfind, hc⟩ := (any_eq_true _ _).mp (show _ = true from hvoid)
    have hany : m.retries.any (resumable name) = true :=
      any_eq_true.mpr ⟨r, mem_of_find?_eq_some hfind, find?_some hfind⟩
    dsimp only [perform, resumePermanentRetry]
    rw [if_pos hany]
    exact not_mem_filterMap_modifyFirst hfind h (carries_iff.mp hc) rfl
  | retainTopologyBlockedGroup name mode group member =>
    obtain ⟨r, hfind, hc⟩ := (any_eq_true _ _).mp (show _ = true from hvoid)
    have hname := find?_some hfind
    have hany : m.retries.any (·.name == name) = true :=
      any_eq_true.mpr ⟨r, mem_of_find?_eq_some hfind, hname⟩
    dsimp only [perform, retainTopologyBlockedGroup]
    rw [if_pos hany]
    exact not_mem_filterMap_modifyFirst hfind h (carries_iff.mp hc) rfl
  | updateTopology name message =>
    change m.releases name message a = true at hvoid
    unfold releases at hvoid
    split at hvoid
    · obtain ⟨hsource, hany⟩ := and_eq_true_iff.mp hvoid
      obtain ⟨source, hfind, hroutes⟩ := (any_eq_true _ _).mp hsource
      obtain ⟨r₀, hr₀, hr₀'⟩ := any_eq_true.mp hany
      obtain ⟨hc₀, hreleased⟩ := and_eq_true_iff.mp hr₀'
      dsimp only [perform, updateTopology]
      rw [hfind]
      dsimp only
      rw [if_neg (of_decide_eq_true hroutes), mem_tokens]
      rintro ⟨r, hr, hc⟩
      obtain ⟨r₁, hr₁, rfl⟩ := mem_map.mp hr
      split at hc
      · simp [carries] at hc
      rename_i hkept
      cases carrier_unique h hr₁ hr₀ hc hc₀
      exact hkept hreleased
    · cases hvoid
  | finishRetry attempt success nowMs =>
    cases of_decide_eq_true (show decide (a = attempt) = true from hvoid)
    exact finishRetry_settles h a success nowMs
  | attach | attachGroup | attachMember | admitIncoming | admitIncomingMember | endPeer
  | rejectLoop | reclaim | retainRetryGroup | retainRetryMember | takeRetry | publishRetry
  | pauseRetries | resumeRetries | resumePermanentRetries | disconnect | disconnectTemporary
  | disconnectAll => cases hvoid

end LinkManager

/-! ## Runs of the hub -/

/-- A hub with the tokens it has issued, those that are stale, and the number of operations. -/
structure Dialling where
  manager : LinkManager
  issued : List RetryAttempt := []
  stale : List RetryAttempt := []
  operations : Nat := 0

namespace Dialling

open LinkManager

def Initial (d : Dialling) : Prop :=
  ∃ localNode manager, LinkManager.new localNode = .ok manager ∧ d = { manager }

/-- The token an operation issues. -/
def takes (m : LinkManager) : HubMove → List RetryAttempt
  | .takeRetry nowMs => (m.takeRetry nowMs).1.toList
  | _ => []

/-- Tokens that are published or finished have been issued. -/
def holds (d : Dialling) : HubMove → Bool
  | .publishRetry attempt => d.issued.contains attempt
  | .finishRetry attempt _ _ => d.issued.contains attempt
  | _ => true

def step (d : Dialling) (move : HubMove) : Option Dialling :=
  if d.holds move then
    some {
      manager := d.manager.perform move
      issued := takes d.manager move ++ d.issued
      stale := d.issued.filter (d.manager.voids · move) ++ d.stale
      operations := d.operations + 1 }
  else none

def Step (d : Dialling) (move : HubMove) (d' : Dialling) : Prop := d.step move = some d'

/-- Tokens are numbered in order and each is carried by one retry, a stale one by none. -/
structure Sound (d : Dialling) : Prop where
  counted : d.manager.serial ≤ d.operations
  serials : ∀ a ∈ d.issued, a.serial ≤ d.manager.serial
  distinct : ∀ a ∈ d.issued, ∀ b ∈ d.issued, a.serial = b.serial → a = b
  tokens : ∀ t ∈ d.manager.tokens, t.2 ≤ d.manager.serial
  nodup : d.manager.tokens.Nodup
  known : d.stale ⊆ d.issued
  stale : ∀ a ∈ d.stale, (a.name, a.serial) ∉ d.manager.tokens
  paced : ∀ r ∈ d.manager.retries, r.Paced

variable {d d' : Dialling}

theorem Initial.sound (h : d.Initial) : d.Sound := by
  obtain ⟨localNode, manager, hnew, rfl⟩ := h
  unfold LinkManager.new at hnew
  split at hnew
  · cases hnew
  cases hnew
  exact ⟨Nat.le_refl _, forall_mem_nil _, forall_mem_nil _, forall_mem_nil _,
    nodup_nil, List.Subset.refl _, forall_mem_nil _, forall_mem_nil _⟩

/-- A token is taken for a retry without one, under the next number. -/
theorem takeRetry_tokens (nowMs : Nat) (m : LinkManager) : m.takeRetry nowMs = (none, m)
      ∨ ∃ a, (m.takeRetry nowMs).1 = some a ∧ a.serial = (m.serial + 1) % 2 ^ 64
        ∧ (m.takeRetry nowMs).2.serial = a.serial
        ∧ (m.takeRetry nowMs).2.tokens.Perm ((a.name, a.serial) :: m.tokens)
        ∧ ((∀ r ∈ m.retries, r.Paced) → ∀ r ∈ (m.takeRetry nowMs).2.retries, r.Paced) := by
  unfold takeRetry
  split
  · exact .inl rfl
  rename_i retry hfind
  have hdialable := find?_some hfind
  have hnone : retry.attempt = none := by
    unfold dialable at hdialable
    simp only [and_eq_true, isNone_iff_eq_none] at hdialable
    exact hdialable.1.2
  refine .inr ⟨_, rfl, rfl, rfl, ?_, fun hpaced r hr => ?_⟩
  · exact filterMap_modifyFirst_perm hfind (token_none hnone) rfl
  · rcases mem_modifyFirst hr with hr | ⟨r₀, hr₀, rfl⟩
    · exact hpaced r hr
    · exact hpaced r₀ (mem_of_find?_eq_some hr₀)

theorem Sound.take (hd : d.Sound) {nowMs : Nat} (hops : d.operations + 1 < 2 ^ 64) (hd' : d' = {
      manager := (d.manager.takeRetry nowMs).2
      issued := (d.manager.takeRetry nowMs).1.toList ++ d.issued
      stale := d.stale
      operations := d.operations + 1 }) : d'.Sound := by
  have hcounted := hd.counted
  rcases takeRetry_tokens nowMs d.manager with hnone | ⟨a, ha, hserial, hnew, htokens, hpaced⟩
  · rw [hnone] at hd'
    subst hd'
    exact { hd with counted := Nat.le_succ_of_le hcounted }
  rw [ha] at hd'
  subst hd'
  have hfresh : (a.name, a.serial) ∉ d.manager.tokens := by
    intro hmem
    have := hd.tokens _ hmem
    omega
  refine ⟨?_, ?_, ?_, ?_, ?_, ?_, ?_, hpaced hd.paced⟩
  · dsimp only
    omega
  · intro b hb
    rcases mem_cons.mp hb with rfl | hb
    · exact hnew.ge
    have := hd.serials b hb
    dsimp only
    omega
  · have hold : ∀ b ∈ d.issued, b.serial ≠ a.serial := fun b hb => by
      have := hd.serials b hb
      omega
    intro b hb c hc he
    rcases mem_cons.mp hb with rfl | hb' <;> rcases mem_cons.mp hc with rfl | hc'
    · rfl
    · exact absurd he.symm (hold c hc')
    · exact absurd he (hold b hb')
    · exact hd.distinct b hb' c hc' he
  · intro t ht
    rcases mem_cons.mp (htokens.mem_iff.mp ht) with rfl | ht
    · exact hnew.ge
    have := hd.tokens t ht
    dsimp only
    omega
  · exact htokens.nodup_iff.mpr (nodup_cons.mpr ⟨hfresh, hd.nodup⟩)
  · exact fun b hb => mem_cons_of_mem _ (hd.known hb)
  · intro b hb ht
    rcases mem_cons.mp (htokens.mem_iff.mp ht) with he | ht
    · have := hd.serials b (hd.known hb)
      rw [(Prod.mk.inj he).2] at this
      omega
    · exact hd.stale b hb ht

theorem Sound.shed (hd : d.Sound) {move : HubMove} (h : ∀ nowMs, move ≠ .takeRetry nowMs)
    (hd' : d' = {
      manager := d.manager.perform move
      issued := d.issued
      stale := d.issued.filter (d.manager.voids · move) ++ d.stale
      operations := d.operations + 1 }) : d'.Sound := by
  obtain ⟨hserial, htokens, hpaced⟩ := perform_sheds h d.manager
  subst hd'
  refine ⟨?_, ?_, hd.distinct, ?_, htokens.nodup hd.nodup, ?_, ?_, hpaced hd.paced⟩
  · exact hserial.le.trans (Nat.le_succ_of_le hd.counted)
  · exact fun a ha => hserial ▸ hd.serials a ha
  · exact fun t ht => hserial ▸ hd.tokens t (htokens.subset ht)
  · exact append_subset.mpr ⟨filter_sublist.subset, hd.known⟩
  · intro a ha
    rcases mem_append.mp ha with ha | ha
    · exact perform_voids hd.nodup (mem_filter.mp ha).2
    · exact fun ht => hd.stale a ha (htokens.subset ht)

theorem Step.sound {move : HubMove} (h : d.Step move d') (hd : d.Sound)
    (hops : d'.operations < 2 ^ 64) : d'.Sound := by
  obtain ⟨-, he⟩ := ite_none_right_eq_some.mp h
  cases he
  by_cases htake : ∃ nowMs, move = .takeRetry nowMs
  · obtain ⟨nowMs, rfl⟩ := htake
    have hvoids : d.issued.filter (d.manager.voids · (.takeRetry nowMs)) = [] :=
      filter_eq_nil_iff.mpr fun _ _ => Bool.false_ne_true
    exact hd.take hops (by rw [hvoids]; rfl)
  · have hnot : ∀ nowMs, move ≠ .takeRetry nowMs := fun nowMs he => htake ⟨nowMs, he⟩
    have htakes : takes d.manager move = [] := by
      unfold takes
      split
      · exact absurd rfl (hnot _)
      · rfl
    exact hd.shed hnot (by rw [htakes, nil_append])

theorem reachable_sound (h : Reachable Initial Step d) (hops : d.operations < 2 ^ 64) :
    d.Sound := by
  induction h with
  | init h => exact h.sound
  | @step s t move _ hs ih =>
    refine Step.sound hs (ih ?_) hops
    obtain ⟨-, he⟩ := ite_none_right_eq_some.mp hs
    cases he
    exact Nat.lt_of_succ_lt hops

variable {a : RetryAttempt} {m : LinkManager}

theorem publishRetry_stale
    (h : (a.name, a.serial) ∉ m.tokens) : m.publishRetry a = (.error .stale, m) := by
  unfold publishRetry
  split
  · rfl
  split
  · rfl
  rename_i r hfind
  have hc := find?_some hfind
  exact absurd (mem_tokens.mpr ⟨r, mem_of_find?_eq_some hfind, (and_eq_true_iff.mp hc).1⟩) h

theorem finishRetry_stale (h : (a.name, a.serial) ∉ m.tokens) (success : Bool) (nowMs : Nat) :
    m.finishRetry a success nowMs = m := by
  unfold finishRetry
  split
  · rfl
  rename_i r hfind
  have hc := find?_some hfind
  exact absurd (mem_tokens.mpr ⟨r, mem_of_find?_eq_some hfind, hc⟩) h

theorem nextDelay_doubles {delay : Nat} (h : delay = 0 ∨ (1000 ≤ delay ∧ delay ≤ 300000)) :
    nextDelay delay = if delay = 0 then 1000 else min (2 * delay) 300000 := by
  unfold nextDelay satMul u64Max
  split <;> omega

/-- **A stale token neither publishes a peer nor changes anything.** Of the tokens ever issued, at
most one can publish through a retry; and delays are none or between one second and five minutes,
a failed dial doubling them up to that. -/
theorem stale_tokens (h : Reachable Initial Step d) (hops : d.operations < 2 ^ 64) :
    (∀ a ∈ d.stale, d.manager.publishRetry a = (.error .stale, d.manager)
        ∧ ∀ success nowMs, d.manager.finishRetry a success nowMs = d.manager)
      ∧ (∀ a ∈ d.issued, (d.manager.publishRetry a).1 = .ok () →
        ∃ r ∈ d.manager.retries, r.carries a = true ∧ ∀ b ∈ d.issued, r.carries b = true → b = a)
      ∧ (∀ r ∈ d.manager.retries, r.delay = 0 ∨ (1000 ≤ r.delay ∧ r.delay ≤ 300000))
      ∧ ∀ a r nowMs, d.manager.retries.find? (·.carries a) = some r → r.blockedTopology = none →
        r.automatic = true → r.paused = false → a.generation = d.manager.generation →
        d.manager.peers.any (·.name == a.name) = false →
          { r with
            attempt := none
            delay := if r.delay = 0 then 1000 else min (2 * r.delay) 300000
            due := satAdd nowMs (if r.delay = 0 then 1000 else min (2 * r.delay) 300000) }
            ∈ (d.manager.finishRetry a false nowMs).retries := by
  have hd := reachable_sound h hops
  refine ⟨fun a ha => ?_, fun a ha hok => ?_, hd.paced, ?_⟩
  · exact ⟨publishRetry_stale (hd.stale a ha), finishRetry_stale (hd.stale a ha)⟩
  · obtain ⟨r, hr, hc⟩ : ∃ r ∈ d.manager.retries, r.carries a = true := by
      by_contra hnone
      rw [publishRetry_stale (mt mem_tokens.mp hnone)] at hok
      cases hok
    refine ⟨r, hr, hc, fun b hb hcb => hd.distinct b hb a ha ?_⟩
    have he := (carries_iff.mp hcb).symm.trans (carries_iff.mp hc)
    exact (Prod.mk.inj (Option.some.inj he)).2
  · intro a r nowMs hfind hunblocked hautomatic hpaused hgeneration hpeers
    have hdelay := nextDelay_doubles (hd.paced r (mem_of_find?_eq_some hfind))
    have hpostponed : r.postpone nowMs = { r with
        attempt := none
        delay := if r.delay = 0 then 1000 else min (2 * r.delay) 300000
        due := satAdd nowMs (if r.delay = 0 then 1000 else min (2 * r.delay) 300000) } := by
      unfold postpone
      rw [← hdelay]
      simp [hpaused]
    rw [← hpostponed]
    have hkeep : (false || decide (a.generation ≠ d.manager.generation)
        || d.manager.peers.any (·.name == a.name) || !r.automatic) = false := by
      simp [hgeneration, hpeers, hautomatic]
    unfold finishRetry
    rw [hfind]
    dsimp only
    rw [hunblocked, Option.isSome_none, if_neg Bool.false_ne_true, hkeep, if_neg Bool.false_ne_true]
    exact mem_modifyFirst_of_find hfind

/-- A retry is taken up, and its name disconnected while the dial is in flight. -/
def cancelledDial : List HubMove :=
  [.retainRetryMember "2000" .transceive 0 none, .takeRetry 0, .disconnectPermanent "2000"]

theorem stale_tokens_cancelled : ∃ d, Reachable Initial Step d ∧ d.operations < 2 ^ 64
      ∧ ⟨"2000", .transceive, 1, 1⟩ ∈ d.stale
      ∧ d.manager.publishRetry ⟨"2000", .transceive, 1, 1⟩ = (.error .stale, d.manager) := by
  obtain ⟨d, hreach, hlt, hstale⟩ := exists_reachable Initial step cancelledDial
    (some { manager := { localNode := "1000" } })
    (by rintro _ ⟨⟩; exact ⟨"1000", _, if_neg (by decide +kernel), rfl⟩) (fun d =>
      d.operations < 2 ^ 64 ∧ ⟨"2000", .transceive, 1, 1⟩ ∈ d.stale) (by decide +kernel)
  exact ⟨d, hreach, hlt, hstale, ((stale_tokens hreach hlt).1 _ hstale).1⟩

end Dialling

end RptAdvanced.Link
