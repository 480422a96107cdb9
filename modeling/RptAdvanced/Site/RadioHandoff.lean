import RptAdvanced.Site.RadioBank

/-!
# The safe handoff of radio banks

`RadioDesk` runs `RadioSite` through its calls in any order: the start, the stage, the commit and
the abort of a replacement, polls with whatever the owners answer, and demands for outputs. Beside
every bank it keeps a `Ledger` of what the owner's snapshots prove when they are truthful and nobody
else writes to the bank: the last snapshot, the accepted operations whose fate no snapshot has shown
yet, and the pins the site may hold. A pin is held from the moment an accepted operation asks for it
until a snapshot taken with no operation outstanding shows it unclaimed.

`Kept` ties a bank to its ledger; `Sound` adds what a replacement does to the banks. `step_sound`
shows that every move keeps both.

Result: `handoff_safe`.
-/

namespace RptAdvanced.Site

open Lib BankOutput Bank List Option Bool RadioSite BankReplacement BitVec

/-! ## The desk -/

/-- What the snapshots of a bank's owner prove. -/
structure Ledger where
  seen : Option BankSnapshot := none
  outstanding : List Pending := []
  held : BitVec 32 := 0#32
deriving DecidableEq

namespace Ledger

/-- A snapshot settles the operations whose fate it shows; when none is left, it also shows which
pins are really claimed. -/
def see (l : Ledger) (snapshot : BankSnapshot) : Ledger :=
  let rest := l.outstanding.filter fun p => !p.resolved snapshot
  { seen := some snapshot
    outstanding := rest
    held := if rest = [] then l.held &&& snapshot.claimedMask else l.held }

/-- The owner accepts an operation. -/
def accept (l : Ledger) (p : Pending) : Ledger :=
  { l with outstanding := l.outstanding ++ [p], held := l.held ||| p.mask }

/-- A poll in which the site issued `op`. -/
def poll (l : Ledger) (answer : Answer) (op : Option Operation) (now : Nat) : Ledger :=
  match answer.snapshot with
  | none => l
  | some snapshot =>
    match op with
    | none => l.see snapshot
    | some op =>
      if answer.accepts then (l.see snapshot).accept (op.record snapshot now)
      else l.see snapshot

end Ledger

/-- The site and the ledgers of all banks. -/
structure RadioDesk where
  site : RadioSite
  ledger : BankKey → Ledger

inductive RadioMove (F : Type) where
  | begin (settings : List (String × ResolvedSiteSettings F)) (replaced : List String)
  | poll (now : Nat) (answers : BankKey → Answer)
  | output (node name : String) (demand : ℚ)
  | stage
  | commit
  | abort

namespace RadioDesk

variable {F : Type}

/-- The ledger of a bank after a poll. -/
def pollLedger (d : RadioDesk) (now : Nat) (answers : BankKey → Answer) (key : BankKey) : Ledger :=
  match d.site.banks.get? key with
  | none => d.ledger key
  | some bank => (d.ledger key).poll (answers key) (bank.poll (answers key) now).2 now

/-- One call. A refused call changes nothing; a replacement is prepared from settings. -/
def step (d : RadioDesk) : RadioMove F → RadioDesk
  | .begin settings replaced =>
    match prepare settings with
    | .error _ => d
    | .ok next => { d with site := (d.site.begin next replaced).getD d.site }
  | .poll now answers =>
    { site := d.site.poll answers now, ledger := d.pollLedger now answers }
  | .output node name demand =>
    { d with site := (d.site.output node name demand).toOption.getD d.site }
  | .stage => { d with site := d.site.stage.getD d.site }
  | .commit => { d with site := d.site.commit.getD d.site }
  | .abort => { d with site := d.site.abort }

/-- A prepared site before its first poll. -/
def Initial (F : Type) (d : RadioDesk) : Prop :=
  (∃ settings : List (String × ResolvedSiteSettings F), prepare settings = .ok d.site) ∧
    ∀ key, d.ledger key = {}

def Step (F : Type) (d : RadioDesk) (move : RadioMove F) (d' : RadioDesk) : Prop :=
  d' = d.step move

end RadioDesk

/-! ## A bank and its ledger -/

/-- The owner serviced the pin at the level in its present generation. -/
structure BankSnapshot.ServicedAt (s : BankSnapshot) (i : Nat) (level : Bool) : Prop where
  submitted : s.submittedGeneration = s.generation
  serviced : s.servicedGeneration = s.generation
  requestedHigh : s.requestedHighMask.getLsbD i = level
  submittedHigh : s.submittedHighMask.getLsbD i = level
  servicedHigh : s.servicedHighMask.getLsbD i = level

/-- The snapshot shows the bank's own pins claimed, the fenced ones of them at their safe level. -/
structure Bank.Settles (bank : Bank) (s : BankSnapshot) : Prop where
  claimed : s.claimedMask = bank.targetMask
  safe : ∀ o ∈ bank.outputs, ∀ i, o.mask.getLsbD i = true → bank.fenced.getLsbD i = true →
    bank.targetMask.getLsbD i = true → s.ServicedAt i o.safeHigh

/-- A bank agrees with the ledger of its owner. -/
structure Kept (bank : Bank) (l : Ledger) : Prop where
  apart : Apart BankOutput.mask bank.outputs
  nonzero : ∀ o ∈ bank.outputs, o.mask ≠ 0#32
  /-- The operation that may be outstanding is the one the bank waits for. -/
  outstanding : l.outstanding = [] ∨ ∃ p, bank.pending = some p ∧ l.outstanding = [p]
  /-- No operation was accepted for an untouched bank. -/
  untouched : bank.touched = false → bank.pending = none ∧ l.held = 0#32
  bare : bank.outputs = [] → bank.pending = none
  held : Within l.held bank.mask
  settled : bank.settled = true → bank.pending = none ∧
    ∃ s, l.seen = some s ∧ bank.Settles s ∧ Within l.held s.claimedMask

section Bank

variable {bank bank' : Bank} {l : Ledger} {s : BankSnapshot} {now : Nat}

theorem Bank.Arrived.settles (hapart : Apart BankOutput.mask bank.outputs)
    (h : bank.Arrived s) : bank.Settles s := by
  rcases h with ⟨hmask, hclaimed⟩ | hserviced
  · refine ⟨by rw [hmask, hclaimed], fun o _ i _ _ htarget => ?_⟩
    rw [hmask, getLsbD_zero] at htarget
    cases htarget
  unfold serviced at hserviced
  simp only [and_eq_true, decide_eq_true_eq] at hserviced
  obtain ⟨⟨⟨⟨⟨hclaimed, hsubmitted⟩, hservicedGen⟩, hrequested⟩, hsub⟩, hserviced₂⟩ := hserviced
  refine ⟨hclaimed, fun o ho i hi hfenced htarget => ?_⟩
  -- the level asked of a fenced pin is the safe one
  have hlevel : (bank.high false).getLsbD i = o.safeHigh := by
    rw [high_bit hapart false ho hi, level_of_fenced hi hfenced]
  refine ⟨hsubmitted, hservicedGen, ?_, ?_, ?_⟩
  · rw [bit_of_and_eq hrequested htarget, hlevel]
  · rw [bit_of_and_eq hsub htarget, hlevel]
  · rw [bit_of_and_eq hserviced₂ htarget, hlevel]

section

variable (hwiring : bank'.outputs.map wiring = bank.outputs.map wiring)
include hwiring

/-- What a bank's wiring alone decides is kept by a change of everything else. -/
theorem nonzero_congr (hnonzero : ∀ o ∈ bank.outputs, o.mask ≠ 0#32) :
    ∀ o ∈ bank'.outputs, o.mask ≠ 0#32 := by
  intro o ho
  obtain ⟨o', ho', heq⟩ := exists_wiring hwiring ho
  have hmask : o'.mask = o.mask := congrArg (fun w => w.2.2.1) heq
  rw [← hmask]
  exact hnonzero o' ho'

theorem outputs_eq_nil (hnil : bank'.outputs = []) : bank.outputs = [] := by
  rw [hnil, map_nil] at hwiring
  exact map_eq_nil_iff.mp hwiring.symm

theorem Bank.Settles.congr (h : bank.Settles s) (hfenced : bank'.fenced = bank.fenced)
    (hreleasing : bank'.releasing = bank.releasing) : bank'.Settles s := by
  have htarget := targetMask_congr hwiring hfenced hreleasing
  refine ⟨htarget ▸ h.claimed, fun o ho i hi hfence hbit => ?_⟩
  obtain ⟨o', ho', heq⟩ := exists_wiring hwiring ho
  have hmask : o'.mask = o.mask := congrArg (·.2.2.1) heq
  have hsafe : o'.safeHigh = o.safeHigh := congrArg (fun w => w.2.2.2.2 == w.2.2.2.1) heq
  rw [← hsafe]
  exact h.safe o' ho' i (hmask ▸ hi) (hfenced ▸ hfence) (htarget ▸ hbit)

end

/-- What a bank owes its ledger depends on its wiring, its command and whether it was touched; when
it counts as settled, on its fence as well. -/
theorem Kept.congr (h : Kept bank l) (hwiring : bank'.outputs.map wiring = bank.outputs.map wiring)
    (hpending : bank'.pending = bank.pending) (htouched : bank'.touched = bank.touched)
    (hsettled : bank'.settled = true → bank.settled = true ∧ bank'.fenced = bank.fenced ∧
      bank'.releasing = bank.releasing) : Kept bank' l where
  apart := apart_congr hwiring h.apart
  nonzero := nonzero_congr hwiring h.nonzero
  outstanding := by
    rw [hpending]
    exact h.outstanding
  untouched := by
    rw [hpending, htouched]
    exact h.untouched
  bare := by
    rw [hpending]
    exact fun hnil => h.bare (outputs_eq_nil hwiring hnil)
  held := by
    rw [mask_congr hwiring]
    exact h.held
  settled := by
    intro htrue
    obtain ⟨hold, hfenced, hreleasing⟩ := hsettled htrue
    obtain ⟨hnone, s, hseen, hsettles, hheld⟩ := h.settled hold
    exact ⟨hpending.trans hnone, s, hseen, hsettles.congr hwiring hfenced hreleasing, hheld⟩

/-- A bank that is no longer settled owes nothing for its fence. -/
theorem Kept.unsettle (h : Kept bank l)
    (hwiring : bank'.outputs.map wiring = bank.outputs.map wiring)
    (hpending : bank'.pending = bank.pending) (htouched : bank'.touched = bank.touched)
    (hsettled : bank'.settled = false) : Kept bank' l := by
  refine h.congr hwiring hpending htouched fun htrue => ?_
  rw [hsettled] at htrue
  cases htrue

theorem Kept.outstanding_nil (h : Kept bank l) (hnone : bank.pending = none) :
    l.outstanding = [] := by
  rcases h.outstanding with hnil | ⟨p, hp, -⟩
  · exact hnil
  · rw [hnone] at hp
    cases hp

theorem Bank.fault_kept (h : Kept bank l) (quality : ReadingQuality) :
    Kept (bank.fault quality) l :=
  h.unsettle (wiring_of_intent (fault_intent quality)) rfl rfl rfl

theorem Ledger.see_outstanding (l : Ledger) (s : BankSnapshot) {p : Pending}
    (h : l.outstanding = [p]) :
    (l.see s).outstanding = [] ∨ (l.see s).outstanding = [p] ∧ p.resolved s = false := by
  unfold Ledger.see
  rw [h]
  cases hp : p.resolved s with
  | true =>
    left
    simp [hp]
  | false =>
    right
    simp [hp]

theorem Ledger.within_see_held (l : Ledger) (s : BankSnapshot) : Within (l.see s).held l.held := by
  unfold Ledger.see
  dsimp only
  split
  · exact within_and_left _ _
  · exact fun _ hi => hi

theorem Ledger.see_held_of_nil (l : Ledger) (s : BankSnapshot)
    (h : (l.see s).outstanding = []) : Within (l.see s).held s.claimedMask := by
  unfold Ledger.see at h ⊢
  dsimp only at h ⊢
  rw [if_pos h]
  exact within_and_right _ _

theorem Kept.observe (h : Kept bank l) (s : BankSnapshot) (now : Nat) :
    Kept (bank.observe s now) (l.see s) := by
  have hobserved := observe_spec bank s now
  generalize bank.observe s now = bank' at hobserved
  have hwiring := wiring_of_intent hobserved.intent
  -- the operation left over is still the one the bank waits for
  have houtstanding : (l.see s).outstanding = [] ∨
      ∃ p, bank'.pending = some p ∧ (l.see s).outstanding = [p] := by
    rcases h.outstanding with hnil | ⟨p, hp, hsingle⟩
    · exact .inl (by rw [Ledger.see, hnil]; rfl)
    rcases l.see_outstanding s hsingle with hnil | ⟨hkept, hopen⟩
    · exact .inl hnil
    rcases hobserved.pending with hsame | ⟨-, hresolved⟩
    · exact .inr ⟨p, hsame.trans hp, hkept⟩
    · rw [hresolved p hp] at hopen
      cases hopen
  refine ⟨apart_congr hwiring h.apart, nonzero_congr hwiring h.nonzero, houtstanding,
    fun htouched => ?_, fun hnil => ?_, ?_, fun hsettled => ?_⟩
  · rw [hobserved.touched] at htouched
    obtain ⟨hnone, hheld⟩ := h.untouched htouched
    refine ⟨?_, eq_zero_of_within ?_⟩
    · rcases hobserved.pending with hsame | ⟨hnone', -⟩
      · rw [hsame, hnone]
      · exact hnone'
    · rw [← hheld]
      exact l.within_see_held s
  · have hnone := h.bare (outputs_eq_nil hwiring hnil)
    rcases hobserved.pending with hsame | ⟨hnone', -⟩
    · rw [hsame, hnone]
    · exact hnone'
  · rw [mask_congr hwiring]
    exact (l.within_see_held s).trans h.held
  · obtain ⟨hnone, harrived⟩ := hobserved.settled hsettled
    have hnil : (l.see s).outstanding = [] := by
      rcases houtstanding with hnil | ⟨p, hp, -⟩
      · exact hnil
      · rw [hnone] at hp
        cases hp
    have hsettles : bank'.Settles s := by
      refine Bank.Arrived.settles (apart_congr hwiring h.apart) ?_
      unfold Bank.Arrived
      rw [targetMask_congr hwiring hobserved.fenced hobserved.releasing,
        high_congr hobserved.intent hobserved.fenced]
      exact harrived
    exact ⟨hnone, s, rfl, hsettles, l.see_held_of_nil s hnil⟩

/-- An accepted operation is the only one outstanding. -/
theorem Kept.accept (h : Kept bank l) {op : Operation} (hop : bank.operation s = some op)
    (error : Option ReadingQuality) :
    Kept { bank with touched := true, pending := some (op.record s now), error }
      (l.accept (op.record s now)) := by
  obtain ⟨houtputs, hpending, hsettled, -, hmask, -⟩ := operation_spec hop
  have hnil : l.outstanding = [] := h.outstanding_nil hpending
  refine ⟨h.apart, h.nonzero, .inr ⟨_, rfl, ?_⟩, fun hfalse => ?_, fun hbare => ?_, ?_,
    fun htrue => ?_⟩
  · unfold Ledger.accept
    rw [hnil, nil_append]
  · cases hfalse
  · exact absurd hbare houtputs
  · refine within_or h.held ?_
    change Within op.outputMask bank.mask
    rw [hmask]
    exact within_and_left _ _
  · rw [hsettled] at htrue
    cases htrue

theorem Bank.poll_kept (h : Kept bank l) (answer : Answer) (now : Nat) :
    Kept (bank.poll answer now).1 (l.poll answer (bank.poll answer now).2 now) := by
  unfold Bank.poll Ledger.poll
  cases hanswer : answer.snapshot with
  | none =>
    refine (fault_kept h .unavailable).unsettle rfl rfl rfl rfl
  | some s =>
    dsimp only
    have hkept := h.observe s now
    generalize bank.observe s now = bank' at hkept
    split
    · exact fault_kept hkept .unavailable
    cases hop : bank'.operation s with
    | none => exact hkept
    | some op =>
      dsimp only
      split
      · exact hkept.accept hop none
      · exact fault_kept hkept .fault

end Bank

/-! ## Replacements -/

/-- A replacement under way: its fences are up, and once it is staged the fenced pins are on their
way out. -/
structure Fenced (r : BankReplacement) (key : BankKey) (bank : Bank) : Prop where
  releasing : bank.releasing = (r.released && decide (bank.fenced ≠ 0#32))
  /-- The pins of a dropped output are fenced. -/
  covers : ∀ o ∈ bank.outputs, r.drops key o = true → Within o.mask bank.fenced

/-- The banks, their ledgers and the replacement agree. -/
structure RadioDesk.Sound (d : RadioDesk) : Prop where
  kept : ∀ key bank, d.site.banks.get? key = some bank → Kept bank (d.ledger key)
  absent : ∀ key, d.site.banks.get? key = none →
    (d.ledger key).outstanding = [] ∧ (d.ledger key).held = 0#32
  idle : d.site.replacement = none → ∀ key bank, d.site.banks.get? key = some bank →
    bank.fenced = 0#32 ∧ bank.releasing = false
  fresh : ∀ r, d.site.replacement = some r → AllFresh r.banks
  fenced : ∀ r, d.site.replacement = some r → ∀ key bank, d.site.banks.get? key = some bank →
    Fenced r key bank

theorem drops_congr (r : BankReplacement) (key : BankKey) {o o' : BankOutput}
    (h : o'.wiring = o.wiring) : r.drops key o' = r.drops key o := by
  have hnode : o'.node = o.node := congrArg (·.1) h
  have hname : o'.name = o.name := congrArg (·.2.1) h
  have hmask : o'.mask = o.mask := congrArg (·.2.2.1) h
  have hhigh : o'.activeHigh = o.activeHigh := congrArg (·.2.2.2.1) h
  unfold drops sameOutput
  rw [hnode, hname, hmask, hhigh]

theorem Fenced.congr {r : BankReplacement} {key : BankKey} {bank bank' : Bank}
    (h : Fenced r key bank) (hwiring : bank'.outputs.map wiring = bank.outputs.map wiring)
    (hfenced : bank'.fenced = bank.fenced) (hreleasing : bank'.releasing = bank.releasing) :
    Fenced r key bank' where
  releasing := by
    rw [hreleasing, hfenced]
    exact h.releasing
  covers := by
    intro o ho hdrops
    obtain ⟨o', ho', heq⟩ := exists_wiring hwiring ho
    have hmask : o'.mask = o.mask := congrArg (·.2.2.1) heq
    rw [hfenced, ← hmask]
    exact h.covers o' ho' (by rw [drops_congr r key heq]; exact hdrops)

/-- What a poll leaves of a bank, and the operation it makes. -/
structure Bank.Polled (bank bank' : Bank) (result : Option Operation) : Prop where
  intent : bank'.outputs.map intent = bank.outputs.map intent
  fenced : bank'.fenced = bank.fenced
  releasing : bank'.releasing = bank.releasing
  operation : ∀ op, result = some op →
    op.outputMask = bank.targetMask ∧ op.highMask = bank.high false &&& bank.targetMask

theorem Bank.polled (bank : Bank) (answer : Answer) (now : Nat) :
    Polled bank (bank.poll answer now).1 (bank.poll answer now).2 := by
  unfold Bank.poll
  cases answer.snapshot with
  | none => exact ⟨fault_intent _, rfl, rfl, nofun⟩
  | some s =>
    dsimp only
    have hobserved := observe_spec bank s now
    generalize bank.observe s now = bank' at hobserved
    split
    · exact ⟨(fault_intent _).trans hobserved.intent, hobserved.fenced, hobserved.releasing, nofun⟩
    cases hop : bank'.operation s with
    | none => exact ⟨hobserved.intent, hobserved.fenced, hobserved.releasing, nofun⟩
    | some op =>
      obtain ⟨-, -, -, -, hmask, hhigh⟩ := operation_spec hop
      have htarget : bank'.targetMask = bank.targetMask :=
        targetMask_congr (wiring_of_intent hobserved.intent) hobserved.fenced hobserved.releasing
      rw [high_congr hobserved.intent hobserved.fenced, htarget] at hhigh
      have hop' : ∀ op', some op = some op' → op'.outputMask = bank.targetMask
          ∧ op'.highMask = bank.high false &&& bank.targetMask := by
        rintro _ ⟨⟩
        exact ⟨hmask.trans htarget, hhigh⟩
      dsimp only
      split
      · exact ⟨hobserved.intent, hobserved.fenced, hobserved.releasing, hop'⟩
      · exact ⟨(fault_intent _).trans hobserved.intent, hobserved.fenced, hobserved.releasing, hop'⟩

namespace RadioDesk

variable {F : Type} {d : RadioDesk}

variable {key : BankKey} {f : BankKey → Bank → Bank} {t : Table BankKey Bank}

/-- A bank of a table whose values were changed. -/
theorem get?_map_some {bank' : Bank} (h : (t.map f).get? key = some bank') :
    ∃ bank, t.get? key = some bank ∧ bank' = f key bank := by
  rw [Table.get?_map] at h
  obtain ⟨bank, hget, heq⟩ := map_eq_some_iff.mp h
  exact ⟨bank, hget, heq.symm⟩

theorem get?_map_none (h : (t.map f).get? key = none) : t.get? key = none := by
  rw [Table.get?_map] at h
  exact map_eq_none_iff.mp h

theorem Initial.sound (h : Initial F d) : d.Sound := by
  obtain ⟨⟨settings, hprepare⟩, hledger⟩ := h
  obtain ⟨hfresh, hnone⟩ := prepare_fresh hprepare
  refine ⟨fun key bank hget => ?_, fun key _ => ?_, fun _ key bank hget => ?_, fun r hr => ?_,
    fun r hr => ?_⟩
  · have hbank := hfresh key bank hget
    rw [hledger key]
    refine ⟨hbank.apart, hbank.nonzero, .inl rfl, fun _ => ⟨hbank.pending, rfl⟩,
      fun _ => hbank.pending, within_zero _, fun hsettled => ?_⟩
    rw [hbank.settled] at hsettled
    cases hsettled
  · rw [hledger key]
    exact ⟨rfl, rfl⟩
  · exact ⟨(hfresh key bank hget).fenced, (hfresh key bank hget).releasing⟩
  · rw [hnone] at hr
    cases hr
  · rw [hnone] at hr
    cases hr

/-! ### The moves -/

theorem poll_sound (h : d.Sound) (now : Nat) (answers : BankKey → Answer) :
    (d.step (.poll now answers : RadioMove F)).Sound := by
  refine ⟨fun key bank' hget => ?_, fun key hget => ?_, fun hnone key bank' hget => ?_, h.fresh,
    fun r hr key bank' hget => ?_⟩
  · obtain ⟨bank, hold, rfl⟩ := get?_map_some hget
    change Kept _ (d.pollLedger now answers key)
    unfold pollLedger
    rw [hold]
    exact poll_kept (h.kept key bank hold) (answers key) now
  · have hold := get?_map_none hget
    change (d.pollLedger now answers key).outstanding = [] ∧
      (d.pollLedger now answers key).held = 0#32
    unfold pollLedger
    rw [hold]
    exact h.absent key hold
  · obtain ⟨bank, hold, rfl⟩ := get?_map_some hget
    have hpoll := bank.polled (answers key) now
    rw [hpoll.fenced, hpoll.releasing]
    exact h.idle hnone key bank hold
  · obtain ⟨bank, hold, rfl⟩ := get?_map_some hget
    have hpoll := bank.polled (answers key) now
    exact (h.fenced r hr key bank hold).congr (wiring_of_intent hpoll.intent) hpoll.fenced
      hpoll.releasing

theorem abort_sound (h : d.Sound) : (d.step (.abort : RadioMove F)).Sound := by
  refine ⟨fun key bank' hget => ?_, fun key hget => h.absent key (get?_map_none hget),
    fun _ key bank' hget => ?_, fun r hr => ?_, fun r hr => ?_⟩
  · obtain ⟨bank, hold, rfl⟩ := get?_map_some hget
    exact (h.kept key bank hold).unsettle rfl rfl rfl rfl
  · obtain ⟨bank, hold, rfl⟩ := get?_map_some hget
    exact ⟨rfl, rfl⟩
  · cases hr
  · cases hr

theorem begin_sound (h : d.Sound) (settings : List (String × ResolvedSiteSettings F))
    (replaced : List String) : (d.step (.begin settings replaced)).Sound := by
  unfold step
  dsimp only
  cases hprepare : prepare settings with
  | error quality => exact h
  | ok next =>
    unfold begin
    cases hr : d.site.replacement with
    | some r => exact h
    | none =>
      refine ⟨fun key bank' hget => ?_, fun key hget => h.absent key (get?_map_none hget),
        fun hnone => ?_, fun r hsome => ?_, fun r hsome key bank' hget => ?_⟩
      · obtain ⟨bank, hold, rfl⟩ := get?_map_some hget
        refine (h.kept key bank hold).congr rfl rfl rfl fun hsettled => ?_
        unfold fence at hsettled
        rw [and_eq_true, decide_eq_true_eq] at hsettled
        -- a fence that bites unsettles the bank
        refine ⟨hsettled.1, ?_, rfl⟩
        rw [(h.idle hr key bank hold).1]
        exact hsettled.2
      · cases hnone
      · cases hsome
        exact (prepare_fresh hprepare).1
      · cases hsome
        obtain ⟨bank, hold, rfl⟩ := get?_map_some hget
        refine ⟨(h.idle hr key bank hold).2, fun o ho hdrops => ?_⟩
        exact within_maskOf (mem_filter.mpr ⟨ho, hdrops⟩)

theorem stage_sound (h : d.Sound) : (d.step (.stage : RadioMove F)).Sound := by
  unfold step stage
  dsimp only
  split
  · rename_i r hbarrier hr
    split
    · exact h
    rename_i hreleasing
    rw [not_eq_true] at hreleasing
    refine ⟨fun key bank' hget => ?_, fun key hget => h.absent key (get?_map_none hget),
      fun hnone => ?_, fun r' hsome => ?_, fun r' hsome key bank' hget => ?_⟩
    · obtain ⟨bank, hold, rfl⟩ := get?_map_some hget
      have hkept := h.kept key bank hold
      by_cases hfenced : bank.fenced ≠ 0#32
      · rw [if_pos hfenced]
        exact hkept.unsettle rfl rfl rfl rfl
      · rw [if_neg hfenced]
        exact hkept
    · cases hnone
    · cases hsome
      exact h.fresh r hr
    · cases hsome
      obtain ⟨bank, hold, rfl⟩ := get?_map_some hget
      have hfence := h.fenced r hr key bank hold
      by_cases hfenced : bank.fenced ≠ 0#32
      · rw [if_pos hfenced]
        refine ⟨?_, hfence.covers⟩
        rw [decide_eq_true hfenced]
        rfl
      · rw [if_neg hfenced]
        refine ⟨?_, hfence.covers⟩
        rw [hfence.releasing, hreleasing, decide_eq_false hfenced]
        rfl
  · exact h

theorem wiring_modifyFirst (p : BankOutput → Bool) (demand : ℚ) (outputs : List BankOutput) :
    (modifyFirst p (fun o => { o with status := { o.status with requested := demand } })
      outputs).map wiring = outputs.map wiring := by
  induction outputs with
  | nil => rfl
  | cons o rest ih =>
    unfold modifyFirst
    split
    · rfl
    · rw [map_cons, map_cons, ih]

theorem output_sound (h : d.Sound) (node name : String) (demand : ℚ) :
    (d.step (.output node name demand : RadioMove F)).Sound := by
  unfold step output
  dsimp only
  split
  · exact h
  split
  · exact h
  refine ⟨fun key bank' hget => ?_, fun key hget => h.absent key (get?_map_none hget),
    fun hnone key bank' hget => ?_, h.fresh, fun r hr key bank' hget => ?_⟩
  all_goals
    obtain ⟨bank, hold, rfl⟩ := get?_map_some hget
    split
  · exact (h.kept key bank hold).congr (wiring_modifyFirst _ _ _) rfl rfl
      fun hsettled => ⟨hsettled, rfl, rfl⟩
  · exact h.kept key bank hold
  · exact h.idle hnone key bank hold
  · exact h.idle hnone key bank hold
  · exact (h.fenced r hr key bank hold).congr (wiring_modifyFirst _ _ _) rfl rfl
  · exact h.fenced r hr key bank hold

variable {r : BankReplacement}

theorem adopt_wiring (bank old : Bank) (replaced : Bool) :
    (bank.adopt old replaced).outputs.map wiring = bank.outputs.map wiring := by
  unfold adopt
  rw [List.map_map]
  refine List.map_congr_left fun o _ => ?_
  dsimp only [Function.comp_apply]
  split <;> rfl

/-- The outputs a replacement does not drop are in its bank. -/
theorem exists_candidate {o : BankOutput} (h : r.drops key o = false) :
    ∃ next, r.banks.get? key = some next ∧ ∃ candidate ∈ next.outputs, candidate.mask = o.mask := by
  unfold drops at h
  rw [or_eq_false_iff] at h
  cases hget : r.banks.get? key with
  | none =>
    rw [hget] at h
    cases h.2
  | some next =>
    rw [hget] at h
    have hany := h.2
    rw [not_eq_false'] at hany
    obtain ⟨candidate, hmem, hsame⟩ := any_eq_true.mp hany
    refine ⟨next, rfl, candidate, hmem, ?_⟩
    unfold sameOutput at hsame
    simp only [and_eq_true, decide_eq_true_eq] at hsame
    exact hsame.1.2.symm

section

variable (h : d.Sound) (hr : d.site.replacement = some r) (hreleased : r.released = true)
  (hbarrier : d.site.barrier = some (.ok ()))
include h hr hreleased hbarrier

/-- Behind a barrier that was reached after the fenced pins were released, none of them is held, and
no operation is pending for a fenced bank. -/
theorem Sound.cleared {bank : Bank} (hget : d.site.banks.get? key = some bank) :
    (∀ i, (d.ledger key).held.getLsbD i = true → bank.fenced.getLsbD i = false) ∧
      (bank.fenced ≠ 0#32 → bank.pending = none) := by
  have hkept := h.kept key bank hget
  by_cases hfenced : bank.fenced = 0#32
  · refine ⟨fun i _ => ?_, fun hne => absurd hfenced hne⟩
    rw [hfenced, getLsbD_zero]
  cases htouched : bank.touched with
  | false =>
    obtain ⟨hnone, hheld⟩ := hkept.untouched htouched
    refine ⟨fun i hi => ?_, fun _ => hnone⟩
    rw [hheld, getLsbD_zero] at hi
    cases hi
  | true =>
    obtain ⟨-, hsettled⟩ :=
      (d.site.barrier_ok_iff).mp hbarrier key bank hget hfenced htouched
    obtain ⟨hnone, s, -, hsettles, hheld⟩ := hkept.settled hsettled
    refine ⟨fun i hi => ?_, fun _ => hnone⟩
    -- what is held is claimed, and a fenced pin is no longer a target
    have hclaimed := hheld i hi
    have hreleasing : bank.releasing = true := by
      rw [(h.fenced r hr key bank hget).releasing, hreleased, decide_eq_true hfenced]
      rfl
    rw [hsettles.claimed] at hclaimed
    unfold targetMask at hclaimed
    rw [hreleasing, if_pos rfl, getLsbD_and, getLsbD_not] at hclaimed
    simp only [and_eq_true, not_eq_true'] at hclaimed
    exact hclaimed.2.2

/-- A bank all of whose outputs are dropped leaves nothing behind. -/
theorem Sound.gone {bank : Bank} (hget : d.site.banks.get? key = some bank)
    (hall : ∀ o ∈ bank.outputs, r.drops key o = true) :
    bank.pending = none ∧ (d.ledger key).outstanding = [] ∧ (d.ledger key).held = 0#32 := by
  have hkept := h.kept key bank hget
  have hcovers := (h.fenced r hr key bank hget).covers
  obtain ⟨hfree, hpending⟩ := h.cleared hr hreleased hbarrier hget
  have hnone : bank.pending = none := by
    cases houtputs : bank.outputs with
    | nil => exact hkept.bare houtputs
    | cons o rest =>
      have ho : o ∈ bank.outputs := houtputs ▸ mem_cons_self
      obtain ⟨i, hi⟩ := exists_bit_of_ne_zero (hkept.nonzero o ho)
      exact hpending (ne_zero_of_bit (hcovers o ho (hall o ho) i hi))
  refine ⟨hnone, hkept.outstanding_nil hnone, eq_zero_of_bits fun i hi => ?_⟩
  obtain ⟨o, ho, hbit⟩ := (mem_maskOf_iff _ _ i).mp (hkept.held i hi)
  have hfenced := hcovers o ho (hall o ho) i hbit
  rw [hfree i hi] at hfenced
  cases hfenced

/-- A bank that stays keeps its command, and its pins are in the new bank. -/
theorem Sound.adopt_kept {old next : Bank} (hold : d.site.banks.get? key = some old)
    (hnext : r.banks.get? key = some next) :
    Kept (next.adopt old (r.replaced.contains key.1)) (d.ledger key) := by
  have hfresh := h.fresh r hr key next hnext
  have hkept := h.kept key old hold
  have hwiring := adopt_wiring next old (r.replaced.contains key.1)
  have hcovers := (h.fenced r hr key old hold).covers
  obtain ⟨hfree, hpending⟩ := h.cleared hr hreleased hbarrier hold
  have hunsettled : (next.adopt old (r.replaced.contains key.1)).settled = true → False := by
    change next.settled = true → False
    rw [hfresh.settled]
    exact Bool.false_ne_true
  have hapart := apart_congr hwiring hfresh.apart
  have hnonzero := nonzero_congr hwiring hfresh.nonzero
  cases hreplaced : r.replaced.contains key.1 with
  | true =>
    have hall : ∀ o ∈ old.outputs, r.drops key o = true := by
      intro o _
      unfold drops
      rw [hreplaced, Bool.true_or]
    obtain ⟨-, hnil, hheld⟩ := h.gone hr hreleased hbarrier hold hall
    exact ⟨hapart, hnonzero, .inl hnil, fun _ => ⟨hfresh.pending, hheld⟩, fun _ => hfresh.pending,
      hheld ▸ within_zero _, fun hsettled => (hunsettled hsettled).elim⟩
  | false =>
    rw [hreplaced] at hapart hnonzero hunsettled hwiring
    refine ⟨hapart, hnonzero, hkept.outstanding, hkept.untouched, fun hbare => ?_, fun i hi => ?_,
      fun hsettled => (hunsettled hsettled).elim⟩
    · -- a bank that loses its last output was fenced, and its command is done
      have hnil := outputs_eq_nil hwiring hbare
      have hall : ∀ o ∈ old.outputs, r.drops key o = true := by
        intro o _
        unfold drops
        rw [hnext]
        dsimp only
        rw [hnil, List.any_nil, Bool.not_false, Bool.or_true]
      exact (h.gone hr hreleased hbarrier hold hall).1
    · rw [mask_congr hwiring]
      obtain ⟨o, ho, hbit⟩ := (mem_maskOf_iff _ _ i).mp (hkept.held i hi)
      cases hdrops : r.drops key o with
      | true =>
        have hfenced := hcovers o ho hdrops i hbit
        rw [hfree i hi] at hfenced
        cases hfenced
      | false =>
        obtain ⟨next', hnext', candidate, hmem, hmask⟩ := exists_candidate hdrops
        cases hnext.symm.trans hnext'
        exact within_maskOf hmem i (hmask ▸ hbit)

end

theorem commit_sound (h : d.Sound) : (d.step (.commit : RadioMove F)).Sound := by
  unfold step commit
  dsimp only
  split
  · rename_i r hbarrier hr
    split
    · rename_i hreleasing
      refine ⟨fun key bank' hget => ?_, fun key hget => ?_, fun _ key bank' hget => ?_,
        fun r' hsome => ?_, fun r' hsome => ?_⟩
      · obtain ⟨next, hnext, rfl⟩ := get?_map_some hget
        cases hold : d.site.banks.get? key with
        | some old => exact h.adopt_kept hr hreleasing hbarrier hold hnext
        | none =>
          have hfresh := h.fresh r hr key next hnext
          obtain ⟨hnil, hheld⟩ := h.absent key hold
          refine ⟨hfresh.apart, hfresh.nonzero, .inl hnil, fun _ => ⟨hfresh.pending, hheld⟩,
            fun _ => hfresh.pending, hheld ▸ within_zero _, fun hsettled => ?_⟩
          rw [hfresh.settled] at hsettled
          cases hsettled
      · have hnext := get?_map_none hget
        cases hold : d.site.banks.get? key with
        | none => exact h.absent key hold
        | some old =>
          -- the bank disappears, so that all its outputs were dropped
          refine (h.gone hr hreleasing hbarrier hold fun o _ => ?_).2
          unfold drops
          rw [hnext, Bool.or_true]
      · obtain ⟨next, hnext, rfl⟩ := get?_map_some hget
        have hfresh := h.fresh r hr key next hnext
        cases hold : d.site.banks.get? key with
        | some | none => exact ⟨hfresh.fenced, hfresh.releasing⟩
      · cases hsome
      · cases hsome
    · exact h
  · exact h

/-- **Every call keeps the banks, the ledgers and the replacement in agreement.** -/
theorem step_sound (h : d.Sound) (move : RadioMove F) : (d.step move).Sound := by
  cases move with
  | begin settings replaced => exact begin_sound h settings replaced
  | poll now answers => exact poll_sound h now answers
  | output node name demand => exact output_sound h node name demand
  | stage => exact stage_sound h
  | commit => exact commit_sound h
  | abort => exact abort_sound h

end RadioDesk

/-! ## The handoff -/

/-- The operation drives no fenced pin to a level that is not its output's safe one. -/
def Operation.DrivesSafe (op : Operation) (bank : Bank) : Prop :=
  ∀ o ∈ bank.outputs, ∀ i, o.mask.getLsbD i = true → bank.fenced.getLsbD i = true →
    op.outputMask.getLsbD i = true → op.highMask.getLsbD i = o.safeHigh

/-- The snapshot shows every fenced pin claimed and serviced at its safe level. -/
def BankSnapshot.ShowsSafe (s : BankSnapshot) (bank : Bank) : Prop :=
  ∀ o ∈ bank.outputs, ∀ i, o.mask.getLsbD i = true → bank.fenced.getLsbD i = true →
    s.claimedMask.getLsbD i = true ∧ s.ServicedAt i o.safeHigh

/-- The operation asks for all pins of the bank, each at the level of the live demand. -/
def Operation.RequestsLive (op : Operation) (bank : Bank) : Prop :=
  op.outputMask = bank.mask ∧
    ∀ o ∈ bank.outputs, ∀ i, o.mask.getLsbD i = true → op.highMask.getLsbD i = o.liveHigh

/-- The outputs of a bank with their live demands. -/
def RadioSite.intents (site : RadioSite) (key : BankKey) :
    Option (List ((String × String × BitVec 32 × Bool × Bool) × ℚ)) :=
  (site.banks.get? key).map fun bank => bank.outputs.map BankOutput.intent

/-- The call sets no demand and adopts no configuration. -/
def RadioMove.keepsDemand {F : Type} : RadioMove F → Bool
  | .output .. => false
  | .commit => false
  | _ => true

namespace RadioDesk

variable {F : Type} {d : RadioDesk}

variable {bank : Bank}

variable {answer : Answer} {op : Operation}

theorem operation_bit (hapart : Apart BankOutput.mask bank.outputs)
    {now : Nat} (hop : (bank.poll answer now).2 = some op) {o : BankOutput}
    (ho : o ∈ bank.outputs) {i : Nat} (hi : o.mask.getLsbD i = true)
    (htarget : op.outputMask.getLsbD i = true) : op.highMask.getLsbD i = bank.level false o := by
  obtain ⟨hmask, hhigh⟩ := (bank.polled answer now).operation op hop
  rw [hmask] at htarget
  rw [hhigh, getLsbD_and, htarget, Bool.and_true, high_bit hapart false ho hi]

variable {key : BankKey}

section

variable (h : d.Sound) (hget : d.site.banks.get? key = some bank)
include h hget

theorem Sound.drivesSafe {now : Nat} (hop : (bank.poll answer now).2 = some op) :
    op.DrivesSafe bank := by
  intro o ho i hi hfenced htarget
  rw [operation_bit (h.kept key bank hget).apart hop ho hi htarget, level_of_fenced hi hfenced]

theorem Sound.requestsLive (hnone : d.site.replacement = none) {now : Nat}
    (hop : (bank.poll answer now).2 = some op) : op.RequestsLive bank := by
  obtain ⟨hfenced, hreleasing⟩ := h.idle hnone key bank hget
  obtain ⟨hmask, -⟩ := (bank.polled answer now).operation op hop
  rw [targetMask_of_idle hreleasing] at hmask
  refine ⟨hmask, fun o ho i hi => ?_⟩
  rw [operation_bit (h.kept key bank hget).apart hop ho hi (hmask ▸ within_maskOf ho i hi),
    level_of_unfenced hfenced]

variable {r : BankReplacement}

/-- Behind the first barrier the fenced pins stand at their safe level. -/
theorem Sound.showsSafe (hr : d.site.replacement = some r)
    (hreleased : r.released = false) (hbarrier : d.site.barrier = some (.ok ()))
    (hfenced : bank.fenced ≠ 0#32) (htouched : bank.touched = true) :
    bank.pending = none ∧ (d.ledger key).outstanding = [] ∧
      ∃ s, (d.ledger key).seen = some s ∧ s.ShowsSafe bank := by
  have hkept := h.kept key bank hget
  obtain ⟨-, hsettled⟩ := d.site.barrier_ok_iff.mp hbarrier key bank hget hfenced htouched
  obtain ⟨hnone, s, hseen, hsettles, -⟩ := hkept.settled hsettled
  refine ⟨hnone, hkept.outstanding_nil hnone, s, hseen, fun o ho i hi hbit => ?_⟩
  have hreleasing : bank.releasing = false := by
    rw [(h.fenced r hr key bank hget).releasing, hreleased, Bool.false_and]
  have htarget : bank.targetMask.getLsbD i = true := by
    rw [targetMask_of_idle hreleasing]
    exact within_maskOf ho i hi
  exact ⟨hsettles.claimed ▸ htarget, hsettles.safe o ho i hi hbit htarget⟩

/-- Behind the second barrier no fenced pin is held, and none is claimed. -/
theorem Sound.released (hr : d.site.replacement = some r)
    (hreleased : r.released = true) (hbarrier : d.site.barrier = some (.ok ())) :
    (d.ledger key).held &&& bank.fenced = 0#32 ∧ (bank.fenced ≠ 0#32 → bank.touched = true →
        ∃ s, (d.ledger key).seen = some s ∧ s.claimedMask &&& bank.fenced = 0#32) := by
  refine ⟨eq_zero_of_bits fun i hi => ?_, fun hfenced htouched => ?_⟩
  · rw [getLsbD_and, and_eq_true] at hi
    rw [(h.cleared hr hreleased hbarrier hget).1 i hi.1] at hi
    cases hi.2
  · obtain ⟨-, hsettled⟩ := d.site.barrier_ok_iff.mp hbarrier key bank hget hfenced htouched
    obtain ⟨-, s, hseen, hsettles, -⟩ := (h.kept key bank hget).settled hsettled
    have hreleasing : bank.releasing = true := by
      rw [(h.fenced r hr key bank hget).releasing, hreleased, decide_eq_true hfenced]
      rfl
    refine ⟨s, hseen, ?_⟩
    rw [hsettles.claimed]
    unfold targetMask
    rw [hreleasing, if_pos rfl, BitVec.and_assoc, BitVec.not_and_self]
    exact BitVec.and_zero

end

theorem Sound.outstanding_le (h : d.Sound) (key : BankKey) :
    (d.ledger key).outstanding.length ≤ 1 := by
  cases hget : d.site.banks.get? key with
  | none =>
    rw [(h.absent key hget).1]
    exact Nat.zero_le 1
  | some bank =>
    rcases (h.kept key bank hget).outstanding with hnil | ⟨p, -, hsingle⟩
    · rw [hnil]
      exact Nat.zero_le 1
    · rw [hsingle]
      exact Nat.le_refl 1

theorem intents_map {t : Table BankKey Bank} {f : BankKey → Bank → Bank}
    (hf : ∀ key bank, (f key bank).outputs.map intent = bank.outputs.map intent) (key : BankKey) :
    ((t.map f).get? key).map (fun bank => bank.outputs.map intent) =
      (t.get? key).map fun bank => bank.outputs.map intent := by
  rw [Table.get?_map, Option.map_map]
  cases t.get? key with
  | none => rfl
  | some bank => exact congrArg some (hf key bank)

/-- Only demands and commits change what an output is asked for. -/
theorem step_intents (d : RadioDesk) {move : RadioMove F} (h : move.keepsDemand = true)
    (key : BankKey) : (d.step move).site.intents key = d.site.intents key := by
  cases move with
  | output | commit => cases h
  | poll now answers =>
    exact intents_map (fun key bank => (bank.polled (answers key) now).intent) key
  | abort =>
    refine intents_map (fun _ bank => ?_) key
    rfl
  | begin settings replaced =>
    unfold step
    dsimp only
    cases prepare settings with
    | error quality => rfl
    | ok next =>
      unfold begin
      cases d.site.replacement with
      | some r => rfl
      | none =>
        refine intents_map (fun _ bank => ?_) key
        rfl
  | stage =>
    unfold step stage
    dsimp only
    split
    · split
      · rfl
      · refine intents_map (fun _ bank => ?_) key
        split <;> rfl
    · rfl

/-- **Radio pins are handed over safely.** While a replacement is under way the pins of dropped
outputs are fenced, and no operation drives a fenced pin to another than its safe level. When the
barrier is reached before the release, the last snapshot of every touched bank shows its fenced pins
serviced at their safe level, with no operation pending; when it is reached after it, no fenced pin
is held any more. At most one operation of a bank is outstanding. Without a replacement every
operation asks for the live demand, which nothing but a demand or a commit changes; an abort ends
the replacement and keeps the demands, and the next operation of each bank asks for them again. -/
theorem handoff_safe (h : Reachable (Initial F) (Step F) d) :
    (∀ r, d.site.replacement = some r → ∀ key bank, d.site.banks.get? key = some bank →
      (∀ o ∈ bank.outputs, r.drops key o = true → Within o.mask bank.fenced) ∧
      (∀ answer now op, (bank.poll answer now).2 = some op → op.DrivesSafe bank) ∧
      (d.site.barrier = some (.ok ()) → r.released = false → bank.fenced ≠ 0#32 →
        bank.touched = true → bank.pending = none ∧ (d.ledger key).outstanding = [] ∧
          ∃ s, (d.ledger key).seen = some s ∧ s.ShowsSafe bank) ∧
      (d.site.barrier = some (.ok ()) → r.released = true →
        (d.ledger key).held &&& bank.fenced = 0#32 ∧ (bank.fenced ≠ 0#32 → bank.touched = true →
            ∃ s, (d.ledger key).seen = some s ∧ s.claimedMask &&& bank.fenced = 0#32))) ∧
    (∀ key, (d.ledger key).outstanding.length ≤ 1) ∧
    (d.site.replacement = none → ∀ key bank, d.site.banks.get? key = some bank →
      ∀ answer now op, (bank.poll answer now).2 = some op → op.RequestsLive bank) ∧
    (∀ move : RadioMove F, move.keepsDemand = true →
      ∀ key, (d.step move).site.intents key = d.site.intents key) ∧
    (d.step (.abort : RadioMove F)).site.replacement = none ∧
    ∀ key, (d.step (.abort : RadioMove F)).site.intents key = d.site.intents key ∧
      ∀ bank, (d.step (.abort : RadioMove F)).site.banks.get? key = some bank →
        ∀ answer now op, (bank.poll answer now).2 = some op → op.RequestsLive bank := by
  have hsound : d.Sound := by
    refine h.invariant (P := Sound) (fun _ => Initial.sound) fun e move e' he hstep => ?_
    rw [show e' = e.step move from hstep]
    exact step_sound he move
  refine ⟨fun r hr key bank hget => ⟨(hsound.fenced r hr key bank hget).covers, ?_, ?_, ?_⟩,
    hsound.outstanding_le, ?_, fun move hmove key => d.step_intents hmove key, rfl,
    fun key => ⟨d.step_intents rfl key, fun bank hget answer now op hop => ?_⟩⟩
  · exact fun answer now op hop => hsound.drivesSafe hget hop
  · exact fun hbarrier hreleased => hsound.showsSafe hget hr hreleased hbarrier
  · exact fun hbarrier hreleased => hsound.released hget hr hreleased hbarrier
  · exact fun hnone key bank hget answer now op hop => hsound.requestsLive hget hnone hop
  · exact (abort_sound hsound).requestsLive hget rfl hop

/-! ### A pin on its way out -/

/-- One enabled output on a radio's first pin, on from the start and off when safe. -/
def beaconSettings : List (String × ResolvedSiteSettings ℚ) :=
  [("100", { ResolvedSiteSettings.empty with
    outputs := [{ name := "beacon", enabled := true
                  endpoint := some { backend := .cm119, device := "100", channel := "1" }
                  activeHigh := true, startupOn := true, safeOn := false, pulseMs := 500 }] })]

/-- An owner of eight pins that services what it is asked at once. -/
def ownerSnapshot (generation : Nat) (claimed high : BitVec 32) : BankSnapshot :=
  { generation, inputMask := 0xff#32, outputMask := 0xff#32, reservedMask := 0#32
    claimedMask := claimed, inputHighMask := 0#32, inputQuality := 1, observedAtValid := 1
    observedAtMs := 10, snapshotAtMs := 10, requestedHighMask := high, submittedHighMask := high
    servicedHighMask := high, submittedGeneration := generation, servicedGeneration := generation
    rejectedCommands := 0 }

/-- A poll that every owner answers alike and accepts. -/
def pollAll (now : Nat) (s : BankSnapshot) : RadioMove ℚ :=
  .poll now fun _ => { snapshot := some s, accepts := true }

/-- The pin is claimed and on; then its binding is removed, and it is taken to its safe level. -/
def beaconMoves : List (RadioMove ℚ) :=
  [pollAll 0 (ownerSnapshot 1 0#32 0#32), pollAll 10 (ownerSnapshot 2 1#32 1#32), .begin [] [],
    pollAll 20 (ownerSnapshot 2 1#32 1#32), pollAll 30 (ownerSnapshot 2 1#32 0#32)]

/-- The desk of the prepared output. -/
def beaconDesk : RadioDesk :=
  { site := (prepare beaconSettings).toOption.getD .default, ledger := fun _ => {} }

/-- What is read off a desk about the pin's bank. -/
def beaconFacts (d : RadioDesk) : Option (BitVec 32 × Bool) × Option (Except ReadingQuality Unit) ×
    Option Bool :=
  ((d.site.banks.get? ("100", 0)).map fun bank => (bank.fenced, bank.touched), d.site.barrier,
    d.site.replacement.map (·.released))

theorem beaconDesk_initial : Initial ℚ beaconDesk := by
  refine ⟨⟨beaconSettings, ?_⟩, fun _ => rfl⟩
  have hok : (prepare beaconSettings).isOk = true := by decide +kernel
  unfold beaconDesk
  cases hprepare : prepare beaconSettings with
  | error quality =>
    rw [hprepare] at hok
    cases hok
  | ok site => rfl

/-- The barrier is reached before the release: the pin is off. -/
theorem handoff_safe_beacon :
    ∃ d bank s, Reachable (Initial ℚ) (Step ℚ) d ∧ d.site.barrier = some (.ok ()) ∧
      d.site.banks.get? ("100", 0) = some bank ∧ bank.fenced = 1#32 ∧
      (d.ledger ("100", 0)).seen = some s ∧ s.ShowsSafe bank := by
  have hfacts : beaconFacts (beaconMoves.foldl step beaconDesk) =
      (some (1#32, true), some (.ok ()), some false) := by decide +kernel
  have hreach : Reachable (Initial ℚ) (Step ℚ) (beaconMoves.foldl step beaconDesk) :=
    (Reachable.init beaconDesk_initial).run (Run.foldl step beaconDesk beaconMoves)
  generalize beaconMoves.foldl step beaconDesk = d at hfacts hreach
  obtain ⟨hbank, hbarrier, hreleased⟩ : _ ∧ _ ∧ _ :=
    ⟨congrArg (·.1) hfacts, congrArg (·.2.1) hfacts, congrArg (·.2.2) hfacts⟩
  obtain ⟨bank, hget, hpair⟩ := map_eq_some_iff.mp hbank
  obtain ⟨r, hr, hfalse⟩ := map_eq_some_iff.mp hreleased
  have hfenced : bank.fenced = 1#32 := congrArg Prod.fst hpair
  obtain ⟨-, -, s, hseen, hsafe⟩ := ((handoff_safe hreach).1 r hr _ bank hget).2.2.1 hbarrier hfalse
    (by rw [hfenced]; decide) (congrArg Prod.snd hpair)
  exact ⟨d, bank, s, hreach, hbarrier, hget, hfenced, hseen, hsafe⟩

end RadioDesk

end RptAdvanced.Site
