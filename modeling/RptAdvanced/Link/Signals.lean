import RptAdvanced.Lib.Run
import RptAdvanced.Link.Identity
import Mathlib

/-!
# The advisory source of a receive burst (`link/signals.rs`, `LinkAudio::process`)

The audio owner counts activity edges; a burst is an odd serial. The channel owner publishes a
source for the burst between two increments of a version, slot by slot. `LinkAudio` reads it back
when it reports the end of the burst, and so do the holders `ι` of the peer's control. `step` makes
one atomic access of one of them.

The report reads with the serial of that moment, which `set_active(false)` has just made even: no
source is published under it, and the direct peer is passed.

Results:
* `step_inv`: every access keeps the invariant while the counters do not wrap.
* `source_at_unkey`: what is read back was published whole for the burst asked for, and the report
  of a burst that is still active passes the published source.
* `source_lost_at_unkey`: the report of a burst that ended does not.
-/

namespace RptAdvanced.Link.Signals

open Lib List Option Function

/-- `wrapping_add(1)`, `fetch_add(1)`. -/
def increment (n : Nat) : Nat := (n + 1) % 2 ^ 64

/-- `as_bytes().get(index).copied().unwrap_or(0)`. -/
def sourceByte (source : String) (index : Nat) : UInt8 := source.toUTF8.data.toList.getD index 0

/-- The end of `selected_source`: the text up to the first zero. -/
def decode (storage : Nat → UInt8) : Option String :=
  let bytes := (range 64).map storage
  if 0 ∈ bytes then String.fromUTF8? ⟨(bytes.takeWhile (· != 0)).toArray⟩ else none

/-- The channel owner's place in `select_source`. -/
inductive Publisher
  | idle
  /-- The checks have passed. -/
  | opening (edge : Nat) (source : String)
  | storing (edge : Nat) (source : String) (slot : Nat)
  /-- The serial is stored. -/
  | sealing (edge : Nat) (source : String)
  /-- The activity is compared again. -/
  | closing (edge : Nat) (source : String)
  deriving DecidableEq, Repr

/-- A place in `selected_source(edge)`. -/
inductive Reader
  | idle
  | begun (edge : Nat)
  | versioned (edge version : Nat)
  | loading (edge version slot : Nat) (storage : Nat → UInt8)
  | done (edge : Nat) (result : Option String)

/-- The audio owner's place in `process`. -/
inductive Audio
  | between
  | activated (active : Bool)
  | reporting
  deriving DecidableEq, Repr

/-- The signals of a peer and those who use them; `none` is the audio owner's reader. -/
structure State (ι : Type) where
  edge : Nat
  sourceVersion : Nat
  sourceEdge : Nat
  source : Nat → UInt8
  publisher : Publisher
  audio : Audio
  reportedActive : Bool
  readers : Option ι → Reader
  /-- What was published, the latest first. -/
  published : List (Nat × String)
  /-- The latest call that passed its checks, once it has returned true. -/
  accepted : Option (Nat × String)
  /-- The source accepted for the burst as its report began, while no call has followed. -/
  expected : Option String

inductive Act (ι : Type)
  /-- `set_active`. -/
  | block (active : Bool)
  /-- The peer's group is or is not the selected one. -/
  | choose (selected : Bool)
  | snapshot (holder : ι)
  | read (reader : Option ι)
  | report
  | call (edge : Nat) (source : String)
  | publish

variable {ι : Type}

namespace State

def new : State ι where
  edge := 0
  sourceVersion := 0
  sourceEdge := 0
  source := fun _ => 0
  publisher := .idle
  audio := .between
  reportedActive := false
  readers := fun _ => .idle
  published := []
  accepted := none
  expected := none

/-- The serial of the burst that is or was last active. -/
def burst (st : State ι) : Nat := if st.edge % 2 = 1 then st.edge else st.edge - 1

/-- The source accepted for that burst, no call being in progress. -/
def selection (st : State ι) : Option String :=
  (st.accepted.filter (·.1 = st.burst)).map Prod.snd

/-- What is passed to `link_unkeyed`. -/
def passed (st : State ι) (direct : String) : Option String :=
  match st.audio, st.readers none with
  | .reporting, .done _ result => some (result.getD direct)
  | _, _ => none

/-- The latest publication; the empty signals are one of the serial 0. -/
def latest (st : State ι) : Nat × String := st.published.headD (0, "")

end State

/-- The next access of `selected_source`. -/
def Reader.load (st : State ι) : Reader → Option Reader
  | begun edge =>
    some (if st.sourceVersion % 2 = 1 then done edge none else versioned edge st.sourceVersion)
  | versioned edge version =>
    some (if st.sourceEdge ≠ edge then done edge none else loading edge version 0 fun _ => 0)
  | loading edge version slot storage =>
    if slot < 64 then
      some (loading edge version (slot + 1) (update storage slot (st.source slot)))
    else some (done edge (if st.sourceVersion ≠ version then none else decode storage))
  | _ => none

/-- The next access of `select_source`. -/
def publish (st : State ι) : Option (State ι) :=
  match st.publisher with
  | .idle => none
  | .opening edge source =>
    some { st with
      sourceVersion := increment st.sourceVersion
      publisher := .storing edge source 0 }
  | .storing edge source slot =>
    if slot < 64 then
      some { st with
        source := update st.source slot (sourceByte source slot)
        publisher := .storing edge source (slot + 1) }
    else some { st with sourceEdge := edge, publisher := .sealing edge source }
  | .sealing edge source =>
    some { st with
      sourceVersion := increment st.sourceVersion
      publisher := .closing edge source
      published := (edge, source) :: st.published }
  | .closing edge source =>
    some { st with
      publisher := .idle
      accepted := if st.edge = edge then some (edge, source) else none }

variable [DecidableEq ι]

def step (direct : String) (st : State ι) : Act ι → Option (State ι)
  | .block active =>
    if st.audio = .between then
      some { st with
        edge := if decide (st.edge % 2 = 1) = active then st.edge else increment st.edge
        audio := .activated active }
    else none
  | .choose selected =>
    match st.audio with
    | .activated active =>
      let st' := { st with reportedActive := active && selected }
      if !(active && selected) && st.reportedActive then
        some { st' with
          audio := .reporting
          readers := update st.readers none (.begun st.edge)
          expected := st.selection }
      else some { st' with audio := .between }
    | _ => none
  | .snapshot holder =>
    match st.readers (some holder) with
    | .idle | .done _ _ =>
      some { st with readers := update st.readers (some holder) (.begun st.burst) }
    | _ => none
  | .read reader =>
    ((st.readers reader).load st).map fun next =>
      { st with readers := update st.readers reader next }
  | .report =>
    (st.passed direct).map fun _ => { st with audio := .between, expected := none }
  | .call edge source =>
    if st.publisher ≠ .idle then none
    else if edge % 2 = 1 ∧ st.edge = edge ∧ identity source then
      some { st with
        publisher := .opening edge source
        accepted := none
        expected := none }
    else some st
  | .publish => publish st

/-- The counters do not wrap, a read asks for a burst that has begun, and the end of a burst is
reported while it is still active, or without a selected source. -/
def Sane (st : State ι) : Act ι → Prop
  | .block _ => st.edge + 1 < 2 ^ 64
  | .choose _ => st.reportedActive = true → st.edge ≠ 0 ∧ (st.edge % 2 = 0 → st.selection = none)
  | .snapshot _ => st.edge ≠ 0
  | .publish => st.sourceVersion + 1 < 2 ^ 64
  | _ => True

instance (st : State ι) (a : Act ι) : Decidable (Sane st a) := by
  cases a <;> unfold Sane <;> infer_instance

/-! ## What is read back -/

theorem sourceByte_ne_zero {source : String} (h : identity source = true) :
    ∀ b ∈ source.toUTF8.data.toList, b ≠ 0 := by
  rintro b hb rfl
  simp only [identity, Bool.and_eq_true, List.all_eq_true] at h
  rw [String.toUTF8, ← String.utf8Encode_toList, List.utf8Encode, data_toByteArray,
    List.toList_toArray, mem_flatMap] at hb
  obtain ⟨c, hc, hb⟩ := hb
  have hrange : 45 ≤ c.toNat ∧ c.toNat ≤ 122 := by
    have := h.2 c hc
    simp [identityChar, Char.isAlphanum, Char.isAlpha, Char.isUpper, Char.isLower,
      Char.isDigit, UInt32.le_iff_toNat_le] at this
    obtain (((h | h) | h) | rfl) | rfl := this
    case inr | inl.inr => decide
    all_goals omega
  rw [String.utf8EncodeChar_eq_singleton
    (Char.utf8Size_eq_one_iff.mpr (UInt32.le_iff_toNat_le.mpr (by simp; omega)))] at hb
  have h0 : 0 = c.toNat % 256 := congrArg UInt8.toNat (mem_singleton.mp hb)
  omega

theorem decode_source {source : String} {storage : Nat → UInt8} (h : identity source = true)
    (hs : ∀ j < 64, storage j = sourceByte source j) : decode storage = some source := by
  have hzero := sourceByte_ne_zero h
  obtain ⟨bytes, hb⟩ : ∃ bytes, bytes = source.toUTF8.data.toList := ⟨_, rfl⟩
  have hlen : bytes.length < 64 := by
    simp only [identity, Bool.and_eq_true, decide_eq_true_eq] at h
    exact hb ▸ h.1.2
  have hbytes : (range 64).map storage = bytes ++ replicate (64 - bytes.length) 0 := by
    refine ext_getElem (by simp; omega) fun j hj _ => ?_
    rw [getElem_map, getElem_range, hs j (by simpa using hj), sourceByte, ← hb]
    grind
  have htake : ((range 64).map storage).takeWhile (· != 0) = bytes := by
    rw [hbytes, takeWhile_append_of_pos (by simpa [hb] using hzero)]
    simp
  have hmem : 0 ∈ (range 64).map storage := by
    simp [hbytes]
    omega
  simp only [decode, hmem, htake, if_true, hb, String.fromUTF8?, Array.toArray_toList]
  exact dif_pos source.isValidUTF8

/-! ## The invariant -/

section Invariant

omit [DecidableEq ι]

/-- A read whose version is still current has seen the current signals. -/
def Reader.Fair (st : State ι) : Reader → Prop
  | idle | done _ none => True
  | begun edge => edge ≠ 0
  | versioned edge version => edge ≠ 0 ∧ version % 2 = 0 ∧ version ≤ st.sourceVersion
  | loading edge version slot storage =>
    edge ≠ 0 ∧ version % 2 = 0 ∧ version ≤ st.sourceVersion ∧ (version = st.sourceVersion →
      edge = st.sourceEdge ∧ ∀ j < slot, storage j = st.source j)
  | done edge (some source) => (edge, source) ∈ st.published

/-- The signals are those of the latest publication. -/
def Clean (st : State ι) : Prop :=
  st.sourceVersion % 2 = 0 ∧ st.sourceEdge = st.latest.1 ∧
    ∀ j < 64, st.source j = sourceByte st.latest.2 j

def Publisher.Sound (st : State ι) : Publisher → Prop
  | idle => Clean st
  | opening _ source => Clean st ∧ identity source = true
  | storing _ source slot => st.sourceVersion % 2 = 1 ∧ identity source = true ∧
    ∀ j < slot, st.source j = sourceByte source j
  | sealing edge source => st.sourceVersion % 2 = 1 ∧ identity source = true ∧
    st.sourceEdge = edge ∧ ∀ j < 64, st.source j = sourceByte source j
  | closing edge source => Clean st ∧ st.latest = (edge, source)

/-- The report's read is on its way to the expected source. -/
def Reader.Expects (st : State ι) (source : String) : Reader → Prop
  | idle => False
  | begun edge => st.latest = (edge, source)
  | versioned edge version => version = st.sourceVersion ∧ st.latest = (edge, source)
  | loading _ version _ _ => version = st.sourceVersion ∧ st.latest.2 = source
  | done _ result => result = some source

structure Inv (st : State ι) : Prop where
  publisher : st.publisher.Sound st
  readers : ∀ r, (st.readers r).Fair st
  published : ∀ p ∈ st.published, identity p.2 = true
  accepted : ∀ p, st.accepted = some p → st.publisher = .idle ∧ st.latest = p
  expected : ∀ source, st.expected = some source →
    st.publisher = .idle ∧ (st.readers none).Expects st source

variable {st st' : State ι}

theorem Inv.clean (h : Inv st) (heven : st.sourceVersion % 2 = 0) : Clean st := by
  have hp := h.publisher
  cases hs : st.publisher <;> rw [hs] at hp
  case idle => exact hp
  case opening | closing => exact hp.1
  all_goals
    have := hp.1
    omega

theorem State.latest_mem (h0 : st.latest.1 ≠ 0) : st.latest ∈ st.published := by
  revert h0
  unfold State.latest
  cases st.published <;> simp

/-- Reads survive a write: the version moves on, or is odd while the signals change. -/
theorem Reader.Fair.write {r : Reader} (h : r.Fair st) (hle : st.sourceVersion ≤ st'.sourceVersion)
    (hmoved : st'.sourceVersion % 2 = 1 ∨ st.sourceVersion < st'.sourceVersion)
    (hpublished : st.published ⊆ st'.published) : r.Fair st' := by
  cases r with
  | idle => trivial
  | begun => exact h
  | versioned => exact ⟨h.1, h.2.1, Nat.le_trans h.2.2 hle⟩
  | loading edge version slot storage =>
    obtain ⟨h0, heven, hv, -⟩ := h
    exact ⟨h0, heven, Nat.le_trans hv hle, by omega⟩
  | done edge result =>
    cases result with
    | none => trivial
    | some source => exact hpublished h

/-- The next access of a read; an undisturbed one comes to the published source. -/
theorem load_fair (h : Inv st) {r r' : Reader} (hr : r.Fair st) (hl : r.load st = some r') :
    r'.Fair st ∧ ∀ source, st.publisher = .idle → r.Expects st source → r'.Expects st source := by
  cases r with
  | idle | done => cases hl
  | begun edge =>
    cases hl
    split
    · refine ⟨trivial, fun source hidle _ => ?_⟩
      have hp := h.publisher
      rw [hidle] at hp
      have := hp.1
      omega
    · exact ⟨⟨hr, by omega, Nat.le_refl _⟩, fun source _ he => ⟨rfl, he⟩⟩
  | versioned edge version =>
    obtain ⟨h0, heven, hv⟩ := hr
    cases hl
    split
    · next hne =>
      refine ⟨trivial, fun source _ ⟨hcur, he⟩ => absurd ?_ hne⟩
      rw [(h.clean (hcur ▸ heven)).2.1, he]
    · next heq =>
      rw [not_not] at heq
      exact ⟨⟨h0, heven, hv, fun _ => ⟨heq.symm, by simp⟩⟩, fun source _ he => ⟨he.1, by rw [he.2]⟩⟩
  | loading edge version slot storage =>
    obtain ⟨h0, heven, hv, hread⟩ := hr
    simp only [Reader.load] at hl
    split_ifs at hl with hslot hversion <;> cases hl
    · refine ⟨⟨h0, heven, hv, fun he => ⟨(hread he).1, fun j hj => ?_⟩⟩, fun _ _ he => he⟩
      rcases Nat.lt_succ_iff_lt_or_eq.mp hj with hj | rfl
      · rw [update_of_ne (by omega), (hread he).2 j hj]
      · simp
    · exact ⟨trivial, fun _ _ he => absurd he.1.symm hversion⟩
    · rw [not_not] at hversion
      subst hversion
      obtain ⟨-, hclean, hsource⟩ := h.clean heven
      obtain ⟨hedge, hstorage⟩ := hread rfl
      have hmem := State.latest_mem (hclean ▸ hedge ▸ h0)
      rw [decode_source (h.published _ hmem) fun j hj =>
        (hstorage j (by omega)).trans (hsource j hj)]
      refine ⟨?_, fun source _ he => congrArg some he.2⟩
      rwa [Reader.Fair, hedge, hclean]

theorem publish_inv (h : Inv st) (hwrap : st.sourceVersion + 1 < 2 ^ 64)
    (hs : publish st = some st') : Inv st' := by
  have hincrement : increment st.sourceVersion = st.sourceVersion + 1 := Nat.mod_eq_of_lt hwrap
  have hp := h.publisher
  have hexpected := h.expected
  have haccepted := h.accepted
  unfold publish at hs
  cases hpublished : st.publisher <;> rw [hpublished] at hs hp hexpected haccepted
  case idle => cases hs
  case opening edge source =>
    cases hs
    have := hp.1.1
    exact { h with
      publisher := ⟨by simp only; omega, hp.2, by simp⟩
      readers := fun r => (h.readers r).write (by simp only; omega) (by simp only; omega) (by simp)
      accepted := fun p ha => nomatch (haccepted p ha).1
      expected := fun s he => nomatch (hexpected s he).1 }
  case storing edge source slot =>
    obtain ⟨hodd, hname, hstored⟩ := hp
    simp only at hs
    split at hs <;> cases hs
    · refine { h with
        publisher := ⟨hodd, hname, fun j hj => ?_⟩
        readers := fun r => (h.readers r).write (Nat.le_refl _) (.inl hodd) (by simp)
        accepted := fun p ha => nomatch (haccepted p ha).1
        expected := fun s he => nomatch (hexpected s he).1 }
      rcases Nat.lt_succ_iff_lt_or_eq.mp hj with hj | rfl
      · exact (update_of_ne (by omega) _ _).trans (hstored j hj)
      · exact update_self ..
    · exact { h with
        publisher := ⟨hodd, hname, rfl, fun j hj => hstored j (by omega)⟩
        readers := fun r => (h.readers r).write (Nat.le_refl _) (.inl hodd) (by simp)
        accepted := fun p ha => nomatch (haccepted p ha).1
        expected := fun s he => nomatch (hexpected s he).1 }
  case sealing edge source =>
    cases hs
    obtain ⟨hodd, hname, hedge, hstored⟩ := hp
    exact { h with
      publisher := ⟨⟨by simp only; omega, hedge, hstored⟩, rfl⟩
      readers := fun r => (h.readers r).write (by simp only; omega) (by simp only; omega) (by simp)
      published := by simpa [hname] using h.published
      accepted := fun p ha => nomatch (haccepted p ha).1
      expected := fun s he => nomatch (hexpected s he).1 }
  case closing edge source =>
    cases hs
    refine { h with
      publisher := hp.1
      accepted := fun p ha => ⟨rfl, ?_⟩
      expected := fun s he => nomatch (hexpected s he).1 }
    simp only [ite_none_right_eq_some, Option.some.injEq] at ha
    exact hp.2.trans ha.2

end Invariant

theorem Inv.readers_update {st : State ι} (h : Inv st) {reader : Option ι} {next : Reader}
    (hnext : next.Fair st) : ∀ r, (update st.readers reader next r).Fair st :=
  (forall_update_iff _ fun _ => Reader.Fair st).mpr ⟨hnext, fun r _ => h.readers r⟩

/-- Every access keeps the invariant. -/
theorem step_inv {direct : String} {st st' : State ι} {a : Act ι} (h : Inv st)
    (hsane : Sane st a) (hs : step direct st a = some st') : Inv st' := by
  cases a with
  | publish => exact publish_inv h hsane hs
  | block active =>
    simp only [step, ite_none_right_eq_some, Option.some.injEq] at hs
    obtain ⟨-, rfl⟩ := hs
    exact { h with }
  | choose selected =>
    simp only [step] at hs
    split at hs
    case h_2 => cases hs
    case h_1 active haudio =>
      split at hs <;> cases hs
      case isTrue hreport =>
        obtain ⟨h0, heven⟩ := hsane (Bool.and_eq_true_iff.mp hreport).2
        refine { h with readers := h.readers_update h0, expected := fun source he => ?_ }
        obtain ⟨p, hp, rfl⟩ := map_eq_some_iff.mp he
        obtain ⟨hp, hburst⟩ := filter_eq_some_iff.mp hp
        obtain ⟨hidle, hlatest⟩ := h.accepted p hp
        have hodd : st.edge % 2 = 1 := by
          by_contra hne
          cases (heven (by omega)).symm.trans he
        exact ⟨hidle, hlatest.trans (Prod.ext (by simpa [State.burst, hodd] using hburst) rfl)⟩
      case isFalse => exact { h with }
  | snapshot holder =>
    have hburst : st.burst ≠ 0 := by
      unfold State.burst
      simp only [Sane] at hsane
      split <;> omega
    simp only [step] at hs
    split at hs <;> cases hs
    all_goals exact { h with readers := h.readers_update hburst }
  | read reader =>
    obtain ⟨next, hload, rfl⟩ := map_eq_some_iff.mp hs
    obtain ⟨hfair, hexpects⟩ := load_fair h (h.readers reader) hload
    refine { h with readers := h.readers_update hfair, expected := fun source he => ?_ }
    obtain ⟨hidle, hr⟩ := h.expected source he
    refine ⟨hidle, ?_⟩
    cases reader with
    | none => exact hexpects source hidle hr
    | some r => exact hr
  | report =>
    obtain ⟨passed, -, rfl⟩ := map_eq_some_iff.mp hs
    exact { h with expected := nofun }
  | call edge source =>
    simp only [step] at hs
    split_ifs at hs with hidle hpass <;> cases hs
    · have hp := h.publisher
      rw [not_not.mp hidle] at hp
      exact { h with publisher := ⟨hp, hpass.2.2⟩, accepted := nofun, expected := nofun }
    · exact h

/-- **What is read back was published whole for the burst asked for, and the report of a burst
passes its selected source.** -/
theorem source_at_unkey {direct : String} {acts : List (Act ι)} {st : State ι}
    (h : Run (Guarded (fun st a st' => step direct st a = some st') Sane) .new acts st) :
    (∀ r edge source, st.readers r = .done edge (some source) → (edge, source) ∈ st.published) ∧
      ∀ passed source, st.passed direct = some passed → st.expected = some source →
        passed = source := by
  have hinv : Inv st := h.invariant (P := Inv) (fun _ _ _ hi hs => step_inv hi hs.1 hs.2)
    ⟨⟨rfl, rfl, fun _ _ => rfl⟩, fun _ => trivial, nofun, nofun, nofun⟩
  refine ⟨fun r edge source hr => ?_, fun passed source hp he => ?_⟩
  · have := hinv.readers r
    rwa [hr] at this
  · have hr := (hinv.expected source he).2
    unfold State.passed at hp
    split at hp
    · simp_all [Reader.Expects]
    · cases hp

/-- A burst of the peer 20 with the source 30, and what follows. -/
def burstThen (rest : List (Act Unit)) : List (Act Unit) :=
  [.block true, .choose true, .call 1 "30"] ++ replicate 68 .publish ++ rest

theorem source_at_unkey_deselected : ∃ st : State Unit,
    (burstThen ([.block true, .choose false] ++ replicate 67 (.read none))).foldlM
      (fun st a => if Sane st a then step "20" st a else none) .new = some st ∧
    st.passed "20" = some "30" := by
  obtain ⟨st, hst, hp⟩ : ∃ st : State Unit,
      (burstThen ([.block true, .choose false] ++ replicate 67 (.read none))).foldlM
        (fun st a => if Sane st a then step "20" st a else none) .new = some st ∧
      (st.expected == some "30" && (st.passed "20").isSome) = true :=
    (any_eq_true _ _).mp (by decide +kernel)
  obtain ⟨he, hp⟩ := Bool.and_eq_true_iff.mp hp
  obtain ⟨passed, hp⟩ := isSome_iff_exists.mp hp
  have := (source_at_unkey (.foldlM_guarded hst)).2 passed "30" hp (beq_iff_eq.mp he)
  exact ⟨st, hst, this ▸ hp⟩

/-- The burst ends: the report asks for the serial 2, and passes the direct peer. -/
theorem source_lost_at_unkey :
    ((burstThen [.block false, .choose true, .read none, .read none]).foldlM (step "20") .new).map
      (fun st => (st.expected, st.passed "20")) = some (some "30", some "20") := by
  decide +kernel

end RptAdvanced.Link.Signals
