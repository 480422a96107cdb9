import Mathlib.Algebra.Order.Ring.Rat
import RptAdvanced.Lib.Mask
import RptAdvanced.Lib.Run
import RptAdvanced.Lib.Table
import RptAdvanced.Lib.Update
import RptAdvanced.Link.Identity
import RptAdvanced.Site.Settings

/-!
# Site outputs on a radio owner's banks

Model of `product/src/site/radio.rs` and `radio_bank.rs`: site pins that hang off a radio which some
node already owns. A `Bank` is one register of an owner. It is never written directly: a poll reads
the owner's published snapshot (`Bank.observe`) and queues at most one `Operation` with it, a `bind`
that claims pins or a `publish` of levels, which the owner performs later.

A reload hands pins over in two stages. `RadioSite.begin` fences the outputs whose binding
disappears or whose owner is replaced: from then on `Bank.high` asks for their safe level. Once the
owner shows them there (`barrier`), `stage` takes the fenced pins out of `Bank.targetMask`, and the
next operations release them; once nothing fenced is claimed, `commit` adopts the new bindings.
`abort` lifts the fences at any time.

Masks are 32-bit vectors. A demand is a rational: a request that is not 0 or 1 is refused, and so is
every one that is not finite. The ordered map of banks is a table, so the order of its keys is the
order of preparation; it decides only which of two errors `barrier` reports. The texts and sizes of
the host interface's records are left out.

Results: `prepare_fresh`, what preparation builds; `high_bit`, the output register pin by pin;
`observe_spec` and `operation_spec`, what a poll does to a bank; `barrier_ok_iff`.
-/

namespace RptAdvanced.Site

open Lib List Option

/-! ## Snapshots of an owner -/

/-- `UrpAstSiteSnapshot`: the owner's published state of one bank. -/
structure BankSnapshot where
  generation : Nat
  inputMask : BitVec 32
  outputMask : BitVec 32
  reservedMask : BitVec 32
  claimedMask : BitVec 32
  inputHighMask : BitVec 32
  inputQuality : Nat
  observedAtValid : Nat
  observedAtMs : Nat
  snapshotAtMs : Nat
  requestedHighMask : BitVec 32
  submittedHighMask : BitVec 32
  servicedHighMask : BitVec 32
  submittedGeneration : Nat
  servicedGeneration : Nat
  rejectedCommands : Nat
deriving DecidableEq

/-- `str::parse::<u32>`. -/
def lineNumber (line : String) : Option Nat :=
  let digits := match line.toList with
    | '+' :: rest => rest
    | rest => rest
  if digits ≠ [] ∧ digits.all Char.isDigit ∧ Link.decimalValue digits < 2 ^ 32 then
    some (Link.decimalValue digits)
  else none

/-- `pin`: the bank and the bit of a configured line. -/
def pin (backend : SiteBackend) (line : String) (output : Bool) :
    Except ReadingQuality (Nat × BitVec 32) :=
  match lineNumber line with
  | none => .error .unavailable
  | some n =>
    match backend, output with
    | .cm119, _ => if 1 ≤ n ∧ n ≤ 8 then .ok (0, 1#32 <<< (n - 1)) else .error .unavailable
    | .parallel, true => if 2 ≤ n ∧ n ≤ 9 then .ok (1, 1#32 <<< (n - 2)) else .error .unavailable
    | .parallel, false =>
      if n = 10 then .ok (1, 0x4000#32)
      else if n = 12 then .ok (1, 0x2000#32)
      else if n = 13 then .ok (1, 0x1000#32)
      else if n = 15 then .ok (1, 0x0800#32)
      else .error .unavailable
    | _, _ => .error .unavailable

theorem pin_ne_zero {backend : SiteBackend} {line : String} {output : Bool} {bank : Nat}
    {mask : BitVec 32} (h : pin backend line output = .ok (bank, mask)) : mask ≠ 0#32 := by
  unfold pin at h
  -- a single bit below the width is not lost by the shift
  have hshift : ∀ k, k < 8 → 1#32 <<< k ≠ 0#32 := by decide
  cases hn : lineNumber line with
  | none =>
    rw [hn] at h
    cases h
  | some n =>
    rw [hn] at h
    dsimp only at h
    split at h
    · split at h
      · cases h
        exact hshift _ (by omega)
      · cases h
    · split at h
      · cases h
        exact hshift _ (by omega)
      · cases h
    · split_ifs at h <;> cases h <;> decide
    · cases h

/-- `validate`: the pins are available and not reserved. -/
def validate (snapshot : BankSnapshot) (mask : BitVec 32) (output : Bool) : Bool :=
  let available := if output then snapshot.outputMask else snapshot.inputMask
  !(snapshot.generation = 0 || mask = 0#32 ||
    mask &&& (~~~available ||| snapshot.reservedMask) ≠ 0#32)

/-- `input`: the age of the actual reading moved onto station time, polarity applied once. -/
def input (snapshot : BankSnapshot) (mask : BitVec 32) (activeHigh : Bool) (now : Nat) :
    Observation Bool :=
  if !validate snapshot mask false || snapshot.observedAtValid ≠ 1 then .missing
  else if snapshot.snapshotAtMs < snapshot.observedAtMs then .missing
  else
    let age := snapshot.snapshotAtMs - snapshot.observedAtMs
    { value := some (decide (snapshot.inputHighMask &&& mask ≠ 0#32) == activeHigh)
      observedAtMs := some (now - age)
      quality :=
        if snapshot.inputQuality = 1 then if age < 5000 then .valid else .stale
        else if snapshot.inputQuality = 2 then .fault
        else .unavailable }

/-- `service_quality`: the owner's own service cycle is current. -/
def serviceQuality (snapshot : BankSnapshot) : Except ReadingQuality Unit :=
  if snapshot.observedAtValid ≠ 1 then .error .unavailable
  else if snapshot.snapshotAtMs < snapshot.observedAtMs then .error .unavailable
  else if snapshot.snapshotAtMs - snapshot.observedAtMs < 5000 then .ok ()
  else .error .stale

/-- `serviced`: exactly these pins are claimed, and they stand at these levels. -/
def serviced (snapshot : BankSnapshot) (mask high : BitVec 32) : Bool :=
  snapshot.claimedMask = mask && snapshot.submittedGeneration = snapshot.generation &&
    snapshot.servicedGeneration = snapshot.generation &&
    snapshot.requestedHighMask &&& mask = high &&
    snapshot.submittedHighMask &&& mask = high &&
    snapshot.servicedHighMask &&& mask = high

/-! ## Banks -/

structure OutputStatus where
  requested : ℚ
  submitted : Option (ℚ × Nat)
  quality : ReadingQuality
deriving DecidableEq

structure BankInput where
  node : String
  name : String
  mask : BitVec 32
  activeHigh : Bool
  reading : Observation Bool
deriving DecidableEq

structure BankOutput where
  node : String
  name : String
  mask : BitVec 32
  activeHigh : Bool
  safeOn : Bool
  status : OutputStatus
  observed : Bool
deriving DecidableEq

/-- `Pending`: one accepted command. -/
structure Pending where
  binding : Bool
  generation : Nat
  rejected : Nat
  mask : BitVec 32
  high : BitVec 32
  sinceMs : Nat
deriving DecidableEq

/-- The owner refused the command, or its bank changed hands under a command that did not ask so. -/
def Pending.refused (pending : Pending) (snapshot : BankSnapshot) : Bool :=
  snapshot.rejectedCommands ≠ pending.rejected ||
    (!pending.binding && snapshot.generation ≠ pending.generation)

/-- The owner performed the command. -/
def Pending.performed (pending : Pending) (snapshot : BankSnapshot) : Bool :=
  decide (snapshot.generation ≠ pending.generation) == pending.binding &&
    serviced snapshot pending.mask pending.high

/-- The snapshot shows what became of the command: the owner closed the bank, refused the command or
performed it. -/
def Pending.resolved (pending : Pending) (snapshot : BankSnapshot) : Bool :=
  snapshot.generation = 0 || pending.refused snapshot || pending.performed snapshot

/-- `Operation`: a queued change of ownership, or of levels. -/
inductive Operation where
  | bind (generation : Nat) (outputMask initialHighMask safeHighMask : BitVec 32)
  | publish (generation : Nat) (outputMask highMask : BitVec 32)
deriving DecidableEq

/-- The pins an operation is about. -/
def Operation.outputMask : Operation → BitVec 32
  | .bind _ mask _ _ => mask
  | .publish _ mask _ => mask

/-- The levels an operation asks for. -/
def Operation.highMask : Operation → BitVec 32
  | .bind _ _ high _ => high
  | .publish _ _ high => high

/-- The operation changes ownership. -/
def Operation.isBind : Operation → Bool
  | .bind .. => true
  | .publish .. => false

structure Bank where
  inputs : List BankInput := []
  outputs : List BankOutput := []
  generation : Nat := 0
  pending : Option Pending := none
  fenced : BitVec 32 := 0#32
  releasing : Bool := false
  settled : Bool := false
  touched : Bool := false
  error : Option ReadingQuality := none
deriving DecidableEq

/-- What is fixed of an output while it stays configured: all but its status. -/
def BankOutput.wiring (o : BankOutput) : String × String × BitVec 32 × Bool × Bool :=
  (o.node, o.name, o.mask, o.activeHigh, o.safeOn)

/-- The wiring and the live demand. -/
def BankOutput.intent (o : BankOutput) : (String × String × BitVec 32 × Bool × Bool) × ℚ :=
  (o.wiring, o.status.requested)

/-- The electrical level of the output's safe state. -/
def BankOutput.safeHigh (o : BankOutput) : Bool :=
  o.safeOn == o.activeHigh

/-- The electrical level of the output's live demand. -/
def BankOutput.liveHigh (o : BankOutput) : Bool :=
  decide (o.status.requested = 1) == o.activeHigh

def sameOutput (first second : BankOutput) : Bool :=
  first.node = second.node && first.name = second.name && first.mask = second.mask &&
    first.activeHigh = second.activeHigh

namespace Bank

def mask (bank : Bank) : BitVec 32 :=
  maskOf BankOutput.mask bank.outputs

/-- `Bank::target_mask`: while pins are released, all but the fenced ones. -/
def targetMask (bank : Bank) : BitVec 32 :=
  bank.mask &&& if bank.releasing then ~~~bank.fenced else BitVec.allOnes 32

/-- The level `Bank::high` asks of one output. -/
def level (bank : Bank) (safe : Bool) (o : BankOutput) : Bool :=
  if safe ∨ bank.fenced &&& o.mask ≠ 0#32 then o.safeHigh else o.liveHigh

def high (bank : Bank) (safe : Bool) : BitVec 32 :=
  maskOf (fun o => if bank.level safe o then o.mask else 0#32) bank.outputs

def fault (bank : Bank) (quality : ReadingQuality) : Bank :=
  { bank with
    error := some quality
    settled := false
    outputs := bank.outputs.map fun o =>
      { o with status := { o.status with quality }, observed := true } }

/-- The end of `Bank::observe`: is the bank where it is meant to be? -/
def settle (bank : Bank) (snapshot : BankSnapshot) : Bank :=
  let mask := bank.targetMask
  let settled := bank.pending.isNone &&
    ((mask = 0#32 && snapshot.claimedMask = 0#32) ||
      (bank.generation = snapshot.generation && serviced snapshot mask (bank.high false &&& mask)))
  if settled then
    { bank with
      settled := true
      error := none
      outputs := bank.outputs.map fun o =>
        if o.mask &&& mask ≠ 0#32 then { o with status := { o.status with quality := .valid } }
        else o }
  else { bank with settled := false }

/-- The acknowledgement of an accepted command: the levels it asked for are the submitted ones. -/
def acknowledge (bank : Bank) (pending : Pending) (generation now : Nat) : Bank :=
  { bank with
    generation
    pending := none
    outputs := bank.outputs.map fun o =>
      if o.mask &&& pending.mask ≠ 0#32 then
        { o with
          status :=
            { o.status with
              submitted := some
                (if decide (pending.high &&& o.mask ≠ 0#32) == o.activeHigh then 1 else 0, now)
              quality := .valid }
          observed := true }
      else o }

def observe (bank : Bank) (snapshot : BankSnapshot) (now : Nat) : Bank :=
  let bank : Bank :=
    { bank with
      settled := false
      inputs := bank.inputs.map fun value =>
        { value with reading := input snapshot value.mask value.activeHigh now } }
  if snapshot.generation = 0 then
    fault { bank with pending := none, generation := 0 } .unavailable
  else
    match if bank.touched then serviceQuality snapshot else .ok () with
    | .error quality => bank.fault quality
    | .ok () =>
      let bank : Bank := { bank with error := none }
      match bank.pending with
      | none => bank.settle snapshot
      | some pending =>
        if pending.refused snapshot then
          fault { bank with pending := none, generation := 0 } .fault
        else if pending.performed snapshot then
          (bank.acknowledge pending snapshot.generation now).settle snapshot
        else if 5000 ≤ now - pending.sinceMs then
          -- no write is queued behind an accepted but stalled one
          (bank.fault .stale).settle snapshot
        else bank.settle snapshot

def operation (bank : Bank) (snapshot : BankSnapshot) : Option Operation :=
  if bank.outputs = [] ∨ bank.pending.isSome ∨ bank.settled ∨ bank.error = some .stale ∨
      bank.error = some .unavailable ∨ (bank.fenced ≠ 0#32 ∧ !bank.touched) then
    none
  else
    let mask := bank.targetMask
    let high := bank.high false &&& mask
    if bank.generation ≠ snapshot.generation ∨ snapshot.claimedMask ≠ mask then
      some (.bind snapshot.generation mask high (bank.high true &&& mask))
    else some (.publish snapshot.generation mask high)

end Bank

/-- An owner's answers in one poll of a bank: its snapshot, when it gave one, and whether it accepts
an operation. -/
structure Answer where
  snapshot : Option BankSnapshot
  accepts : Bool
deriving DecidableEq

/-- The record `RadioSite::poll` keeps of an operation it issues. -/
def Operation.record (op : Operation) (snapshot : BankSnapshot) (now : Nat) : Pending :=
  { binding := op.isBind
    generation := snapshot.generation
    rejected := snapshot.rejectedCommands
    mask := op.outputMask
    high := op.highMask
    sinceMs := now }

/-- One turn of the loop of `RadioSite::poll`: the bank after it, and the operation it issued. -/
def Bank.poll (bank : Bank) (answer : Answer) (now : Nat) : Bank × Option Operation :=
  match answer.snapshot with
  | none =>
    let bank := bank.fault .unavailable
    ({ bank with
       inputs := bank.inputs.map fun value =>
         { value with reading := { value.reading with quality := .unavailable } } }, none)
  | some snapshot =>
    let bank := bank.observe snapshot now
    if snapshot.generation = 0 ∨ (bank.outputs ≠ [] ∧ !validate snapshot bank.mask true) then
      (bank.fault .unavailable, none)
    else
      match bank.operation snapshot with
      | none => (bank, none)
      | some op =>
        if answer.accepts then
          ({ bank with
             touched := true, pending := some (op.record snapshot now), error := none }, some op)
        else (bank.fault .fault, some op)

/-! ## The site -/

/-- The node that owns a radio, and the bank's number. -/
abbrev BankKey := String × Nat

structure BankReplacement where
  banks : Table BankKey Bank
  replaced : List String
  released : Bool

structure RadioSite where
  banks : Table BankKey Bank
  replacement : Option BankReplacement

/-- The replacement lets go of an output of the bank `key`. -/
def BankReplacement.drops (r : BankReplacement) (key : BankKey) (o : BankOutput) : Bool :=
  r.replaced.contains key.1 ||
    match r.banks.get? key with
    | none => true
    | some next => !next.outputs.any fun candidate => sameOutput o candidate

/-- The fence a replacement puts on a bank. -/
def BankReplacement.fence (r : BankReplacement) (key : BankKey) (bank : Bank) : Bank :=
  let fenced := maskOf BankOutput.mask (bank.outputs.filter fun o => r.drops key o)
  { bank with fenced, settled := bank.settled && fenced = 0#32 }

/-- `commit`: what a new bank keeps of the old one of its key. -/
def Bank.adopt (bank old : Bank) (replaced : Bool) : Bank :=
  { bank with
    outputs := bank.outputs.map fun o =>
      match old.outputs.find? fun previous => sameOutput o previous with
      | some previous => { o with status := previous.status, observed := previous.observed }
      | none => o
    pending := if replaced then bank.pending else old.pending
    touched := if replaced then bank.touched else old.touched
    generation := 0 }

/-- The loop of `RadioSite::barrier`. -/
def barrierLoop (ready : Bool) : List (BankKey × Bank) → Option (Except ReadingQuality Unit)
  | [] => if ready then some (.ok ()) else none
  | (_, bank) :: rest =>
    if bank.fenced ≠ 0#32 ∧ bank.touched then
      match bank.error with
      | some error => some (.error error)
      | none => barrierLoop (ready && bank.settled) rest
    else barrierLoop ready rest

namespace RadioSite

def default : RadioSite := { banks := .empty, replacement := none }

/-- `RadioSite::begin`: refused while a replacement is under way. -/
def begin (site next : RadioSite) (replaced : List String) : Option RadioSite :=
  match site.replacement with
  | some _ => none
  | none =>
    let r : BankReplacement := { banks := next.banks, replaced, released := false }
    some { banks := site.banks.map r.fence, replacement := some r }

def barrier (site : RadioSite) : Option (Except ReadingQuality Unit) :=
  barrierLoop true site.banks.entries

def stage (site : RadioSite) : Option RadioSite :=
  match site.barrier, site.replacement with
  | some (.ok ()), some r =>
    if r.released then none
    else some
      { banks := site.banks.map fun _ bank =>
          if bank.fenced ≠ 0#32 then { bank with releasing := true, settled := false } else bank
        replacement := some { r with released := true } }
  | _, _ => none

def commit (site : RadioSite) : Option RadioSite :=
  match site.barrier, site.replacement with
  | some (.ok ()), some r =>
    if r.released then
      some
        { banks := r.banks.map fun key bank =>
            match site.banks.get? key with
            | some old => bank.adopt old (r.replaced.contains key.1)
            | none => bank
          replacement := none }
    else none
  | _, _ => none

def abort (site : RadioSite) : RadioSite :=
  { banks := site.banks.map fun _ bank =>
      { bank with fenced := 0#32, releasing := false, settled := false }
    replacement := none }

/-- `RadioSite::poll`, with the owners' answers. -/
def poll (site : RadioSite) (answers : BankKey → Answer) (now : Nat) : RadioSite :=
  { site with banks := site.banks.map fun key bank => (bank.poll (answers key) now).1 }

/-- The output a demand is for. -/
def addressed (node name : String) (o : BankOutput) : Bool :=
  o.node = node && o.name = name

def output (site : RadioSite) (node name : String) (demand : ℚ) : Except ReadingQuality RadioSite :=
  if demand ≠ 0 ∧ demand ≠ 1 then .error .fault
  else
    match site.banks.entries.find? fun entry => entry.2.outputs.any (addressed node name) with
    | none => .error .unavailable
    | some entry => .ok
      { site with
        banks := site.banks.map fun key bank =>
          if key = entry.1 then
            { bank with
              outputs := modifyFirst (addressed node name)
                (fun o => { o with status := { o.status with requested := demand } })
                bank.outputs }
          else bank }

end RadioSite

/-! ## What a poll does to a bank -/

namespace Bank

variable {bank bank' : Bank} {snapshot : BankSnapshot} {now : Nat}

section

variable (h : bank'.outputs.map BankOutput.intent = bank.outputs.map BankOutput.intent)
include h

theorem wiring_of_intent
    :
    bank'.outputs.map BankOutput.wiring = bank.outputs.map BankOutput.wiring := by
  have hfirst := congrArg (List.map Prod.fst) h
  rw [List.map_map, List.map_map] at hfirst
  exact hfirst

theorem high_congr
    (hfenced : bank'.fenced = bank.fenced) (safe : Bool) : bank'.high safe = bank.high safe := by
  have hhigh : ∀ b : Bank, b.high safe = maskOf
      (fun t : (String × String × BitVec 32 × Bool × Bool) × ℚ =>
        if (if safe ∨ b.fenced &&& t.1.2.2.1 ≠ 0#32 then t.1.2.2.2.2 == t.1.2.2.2.1
            else decide (t.2 = 1) == t.1.2.2.2.1) then t.1.2.2.1 else 0#32)
      (b.outputs.map BankOutput.intent) :=
    fun b => by
      rw [maskOf_map]
      rfl
  rw [hhigh, hhigh, h, hfenced]

end

section

variable (h : bank'.outputs.map BankOutput.wiring = bank.outputs.map BankOutput.wiring)
include h

theorem mask_congr : bank'.mask = bank.mask := by
  have hmask : ∀ b : Bank, b.mask = maskOf (fun w => w.2.2.1) (b.outputs.map BankOutput.wiring) :=
    fun b => by
      rw [maskOf_map]
      rfl
  rw [hmask, hmask, h]

theorem apart_congr (hapart : Apart BankOutput.mask bank.outputs) :
    Apart BankOutput.mask bank'.outputs := by
  have hmap : ∀ l : List BankOutput,
      Apart BankOutput.mask l ↔ Apart (fun w => w.2.2.1) (l.map BankOutput.wiring) :=
    fun l => by
      unfold Apart
      rw [pairwise_map]
      rfl
  rw [hmap, h, ← hmap]
  exact hapart

theorem targetMask_congr (hfenced : bank'.fenced = bank.fenced)
    (hreleasing : bank'.releasing = bank.releasing) : bank'.targetMask = bank.targetMask := by
  unfold targetMask
  rw [mask_congr h, hfenced, hreleasing]

variable {o : BankOutput}

/-- The outputs of a bank whose wiring did not change. -/
theorem exists_wiring (ho : o ∈ bank'.outputs) : ∃ o' ∈ bank.outputs, o'.wiring = o.wiring := by
  have hmem := mem_map_of_mem (f := BankOutput.wiring) ho
  rw [h] at hmem
  exact mem_map.mp hmem

end

/-- The level asked of an output shows at each of its pins. -/
theorem high_bit (hapart : Apart BankOutput.mask bank.outputs) (safe : Bool)
    (ho : o ∈ bank.outputs) {i : Nat} (hi : o.mask.getLsbD i = true) :
    (bank.high safe).getLsbD i = bank.level safe o :=
  maskOf_choice hapart (bank.level safe) ho hi

/-- A fenced output is asked to be safe. -/
theorem level_of_fenced {i : Nat} (hi : o.mask.getLsbD i = true)
    (hfenced : bank.fenced.getLsbD i = true) : bank.level false o = o.safeHigh :=
  if_pos (.inr (and_ne_zero_of_bit hfenced hi))

theorem level_of_unfenced (hfenced : bank.fenced = 0#32) : bank.level false o = o.liveHigh := by
  refine if_neg ?_
  rintro (hsafe | hmeet)
  · cases hsafe
  · rw [hfenced, BitVec.zero_and] at hmeet
    exact hmeet rfl

theorem targetMask_of_idle (hreleasing : bank.releasing = false) : bank.targetMask = bank.mask := by
  unfold targetMask
  rw [hreleasing, if_neg (by decide), BitVec.and_allOnes]

theorem map_intent_of {f : BankOutput → BankOutput} (hf : ∀ o, (f o).intent = o.intent)
    (outputs : List BankOutput) :
    (outputs.map f).map BankOutput.intent = outputs.map BankOutput.intent := by
  rw [List.map_map]
  exact List.map_congr_left fun o _ => hf o

@[simp] theorem fault_intent (quality : ReadingQuality) :
    (bank.fault quality).outputs.map BankOutput.intent = bank.outputs.map BankOutput.intent := by
  refine map_intent_of (fun o => ?_) _
  rfl

@[simp] theorem settle_intent :
    (bank.settle snapshot).outputs.map BankOutput.intent = bank.outputs.map BankOutput.intent := by
  unfold settle
  dsimp only
  split
  · refine map_intent_of (fun o => ?_) _
    split <;> rfl
  · rfl

@[simp] theorem acknowledge_intent (pending : Pending) (generation : Nat) :
    (bank.acknowledge pending generation now).outputs.map BankOutput.intent =
      bank.outputs.map BankOutput.intent := by
  refine map_intent_of (fun o => ?_) _
  split <;> rfl

@[simp] theorem settle_frame : (bank.settle snapshot).fenced = bank.fenced ∧
    (bank.settle snapshot).releasing = bank.releasing ∧
    (bank.settle snapshot).touched = bank.touched ∧
    (bank.settle snapshot).pending = bank.pending := by
  unfold settle
  dsimp only
  split <;> exact ⟨rfl, rfl, rfl, rfl⟩

/-- The snapshot shows a bank where it is meant to be. -/
def Arrived (bank : Bank) (snapshot : BankSnapshot) : Prop :=
  (bank.targetMask = 0#32 ∧ snapshot.claimedMask = 0#32) ∨
    serviced snapshot bank.targetMask (bank.high false &&& bank.targetMask) = true

theorem settled_settle (h : (bank.settle snapshot).settled = true) :
    bank.pending = none ∧ bank.Arrived snapshot := by
  unfold settle at h
  dsimp only at h
  split at h
  · rename_i hsettled
    simp only [Bool.and_eq_true, Bool.or_eq_true, decide_eq_true_eq, isNone_iff_eq_none] at hsettled
    exact ⟨hsettled.1, hsettled.2.imp id And.right⟩
  · cases h

/-- What `Bank::observe` does, but for readings, generations and errors. -/
structure Observes (bank : Bank) (snapshot : BankSnapshot) (bank' : Bank) : Prop where
  intent : bank'.outputs.map BankOutput.intent = bank.outputs.map BankOutput.intent
  fenced : bank'.fenced = bank.fenced
  releasing : bank'.releasing = bank.releasing
  touched : bank'.touched = bank.touched
  /-- A command is forgotten only when the snapshot shows what became of it. -/
  pending : bank'.pending = bank.pending ∨
    bank'.pending = none ∧ ∀ p, bank.pending = some p → p.resolved snapshot = true
  settled : bank'.settled = true → bank'.pending = none ∧ bank.Arrived snapshot

theorem Observes.arrived (h : Observes bank snapshot bank') (harrived : bank'.Arrived snapshot) :
    bank.Arrived snapshot := by
  have htarget : bank'.targetMask = bank.targetMask :=
    targetMask_congr (wiring_of_intent h.intent) h.fenced h.releasing
  unfold Arrived at harrived
  rw [htarget, high_congr h.intent h.fenced] at harrived
  exact harrived

/-- A bank that is settled after a change of its readings, generation or errors only. -/
theorem Observes.settle {middle : Bank}
    (h : Observes bank snapshot { middle with settled := false }) :
    Observes bank snapshot (middle.settle snapshot) := by
  refine ⟨settle_intent.trans h.intent, by simpa using h.fenced, by simpa using h.releasing,
    by simpa using h.touched, by simpa using h.pending, fun hsettled => ?_⟩
  obtain ⟨hnone, harrived⟩ := settled_settle hsettled
  exact ⟨by simpa using hnone, h.arrived harrived⟩

/-- A bank that faults instead. -/
theorem Observes.fault {middle : Bank} {quality : ReadingQuality}
    (h : Observes bank snapshot { middle with settled := false }) :
    Observes bank snapshot (middle.fault quality) :=
  ⟨(fault_intent ..).trans h.intent, h.fenced, h.releasing, h.touched, h.pending, nofun⟩

/-- **What a snapshot does to a bank.** -/
theorem observe_spec (bank : Bank) (snapshot : BankSnapshot) (now : Nat) :
    Observes bank snapshot (bank.observe snapshot now) := by
  unfold observe
  dsimp only
  split
  · rename_i hclosed
    refine .fault ⟨rfl, rfl, rfl, rfl, .inr ⟨rfl, fun p _ => ?_⟩, nofun⟩
    unfold Pending.resolved
    rw [hclosed]
    rfl
  · split
    · exact .fault ⟨rfl, rfl, rfl, rfl, .inl rfl, nofun⟩
    split
    · exact .settle ⟨rfl, rfl, rfl, rfl, .inl rfl, nofun⟩
    rename_i p hsome
    split
    · rename_i hrefused
      refine .fault ⟨rfl, rfl, rfl, rfl, .inr ⟨rfl, fun q hq => ?_⟩, nofun⟩
      cases hsome.symm.trans hq
      unfold Pending.resolved
      rw [hrefused, Bool.or_true, Bool.true_or]
    · split
      · rename_i hperformed
        refine .settle ⟨acknowledge_intent .., rfl, rfl, rfl, .inr ⟨rfl, fun q hq => ?_⟩, nofun⟩
        · cases hsome.symm.trans hq
          unfold Pending.resolved
          rw [hperformed, Bool.or_true]
      · split
        · exact .settle ⟨fault_intent .., rfl, rfl, rfl, .inl rfl, nofun⟩
        · exact .settle ⟨rfl, rfl, rfl, rfl, .inl rfl, nofun⟩

/-- What an operation asks for, and when one is issued. -/
theorem operation_spec {op : Operation} (h : bank.operation snapshot = some op) :
    bank.outputs ≠ [] ∧ bank.pending = none ∧ bank.settled = false ∧
      (bank.fenced ≠ 0#32 → bank.touched = true) ∧
      op.outputMask = bank.targetMask ∧ op.highMask = bank.high false &&& bank.targetMask := by
  unfold operation at h
  split at h
  · cases h
  rename_i hready
  simp only [not_or, not_and, Bool.not_eq_true, isSome_eq_false_iff, isNone_iff_eq_none] at hready
  obtain ⟨houtputs, hpending, hsettled, -, -, htouched⟩ := hready
  refine ⟨houtputs, hpending, hsettled, fun hfenced => by simpa using htouched hfenced, ?_⟩
  dsimp only at h
  split at h
  · cases h
    exact ⟨rfl, rfl⟩
  · cases h
    exact ⟨rfl, rfl⟩

end Bank

/-! ## Preparation -/

/-- `radio`: the endpoint is on a radio's own hardware. -/
def SiteEndpoint.radio (endpoint : SiteEndpoint) : Bool :=
  endpoint.backend = .cm119 || endpoint.backend = .parallel

variable {F : Type}

/-- The input of an enabled instance on a radio. -/
def prepareInput (node : String) (banks : Table BankKey Bank) (settings : InputSettings F) :
    Except ReadingQuality (Table BankKey Bank) :=
  match settings.endpoint.filter SiteEndpoint.radio with
  | none => .ok banks
  | some endpoint => do
    let (number, mask) ← pin endpoint.backend endpoint.channel false
    let entry : BankInput :=
      { node, name := settings.name, mask, activeHigh := settings.activeHigh
        reading := .missing }
    return banks.alter (endpoint.device, number) fun old =>
      let bank := old.getD {}
      { bank with inputs := bank.inputs ++ [entry] }

/-- The output of an enabled instance on a radio; a pin is owned once. -/
def prepareOutput (node : String) (banks : Table BankKey Bank) (settings : OutputSettings) :
    Except ReadingQuality (Table BankKey Bank) :=
  match settings.endpoint.filter SiteEndpoint.radio with
  | none => .ok banks
  | some endpoint => do
    let (number, mask) ← pin endpoint.backend endpoint.channel true
    let key : BankKey := (endpoint.device, number)
    if ((banks.get? key).getD {}).mask &&& mask ≠ 0#32 then .error .fault
    else
      let entry : BankOutput :=
        { node, name := settings.name, mask, activeHigh := settings.activeHigh
          safeOn := settings.safeOn
          status :=
            { requested := if settings.startupOn then 1 else 0, submitted := none
              quality := .unavailable }
          observed := false }
      return banks.alter key fun old =>
        let bank := old.getD {}
        { bank with outputs := bank.outputs ++ [entry] }

/-- One node of `RadioSite::prepare`. -/
def prepareNode (banks : Table BankKey Bank) (node : String × ResolvedSiteSettings F) :
    Except ReadingQuality (Table BankKey Bank) := do
  let banks ← (node.2.inputs.filter (·.enabled)).foldlM (prepareInput node.1) banks
  (node.2.outputs.filter (·.enabled)).foldlM (prepareOutput node.1) banks

def RadioSite.prepare (settings : List (String × ResolvedSiteSettings F)) :
    Except ReadingQuality RadioSite :=
  (settings.foldlM prepareNode .empty).map fun banks => { banks, replacement := none }

/-- The bank of a fresh preparation: nothing was asked of its owner yet, and its pins are apart. -/
structure Bank.Fresh (bank : Bank) : Prop where
  apart : Apart BankOutput.mask bank.outputs
  nonzero : ∀ o ∈ bank.outputs, o.mask ≠ 0#32
  pending : bank.pending = none
  fenced : bank.fenced = 0#32
  releasing : bank.releasing = false
  settled : bank.settled = false
  touched : bank.touched = false

/-- Every bank of a table is fresh. -/
def AllFresh (banks : Table BankKey Bank) : Prop :=
  ∀ key bank, banks.get? key = some bank → bank.Fresh

theorem fresh_default : ({} : Bank).Fresh :=
  ⟨List.Pairwise.nil, fun _ h => (not_mem_nil h).elim, rfl, rfl, rfl, rfl, rfl⟩

variable {banks : Table BankKey Bank}

section

variable (h : AllFresh banks)
include h

theorem AllFresh.getD (key : BankKey) : ((banks.get? key).getD {}).Fresh := by
  cases hget : banks.get? key with
  | none => exact fresh_default
  | some bank => exact h key bank hget

theorem AllFresh.alter {key : BankKey}
    {f : Option Bank → Bank} (hf : (f (banks.get? key)).Fresh) : AllFresh (banks.alter key f) := by
  intro other bank hget
  by_cases heq : other = key
  · subst heq
    rw [Table.get?_alter_self] at hget
    cases hget
    exact hf
  · rw [Table.get?_alter_ne _ _ heq] at hget
    exact h other bank hget

variable {banks' : Table BankKey Bank}

theorem prepareInput_fresh {node : String} {settings : InputSettings F}
    (hstep : prepareInput node banks settings = .ok banks') : AllFresh banks' := by
  unfold prepareInput at hstep
  split at hstep
  · cases hstep
    exact h
  rename_i endpoint _
  obtain ⟨⟨number, mask⟩, -, hok⟩ := bind_eq_ok_iff.mp hstep
  cases hok
  obtain ⟨apart, nonzero, pending, fenced, releasing, settled, touched⟩ :=
    h.getD (endpoint.device, number)
  exact h.alter ⟨apart, nonzero, pending, fenced, releasing, settled, touched⟩

theorem prepareOutput_fresh {node : String} {settings : OutputSettings}
    (hstep : prepareOutput node banks settings = .ok banks') : AllFresh banks' := by
  unfold prepareOutput at hstep
  split at hstep
  · cases hstep
    exact h
  rename_i endpoint _
  obtain ⟨⟨number, mask⟩, hpin, hok⟩ := bind_eq_ok_iff.mp hstep
  dsimp only at hok
  split at hok
  · cases hok
  rename_i hfree
  cases hok
  obtain ⟨apart, nonzero, pending, fenced, releasing, settled, touched⟩ :=
    h.getD (endpoint.device, number)
  refine h.alter ⟨?_, ?_, pending, fenced, releasing, settled, touched⟩
  · -- a pin of the new output is none of the pins already owned
    refine pairwise_append.mpr ⟨apart, pairwise_singleton _ _, ?_⟩
    intro o ho o' ho'
    rw [mem_singleton.mp ho']
    refine eq_zero_of_bits fun i hi => ?_
    have hbits := (BitVec.getLsbD_and ▸ hi : (o.mask.getLsbD i && mask.getLsbD i) = true)
    rw [Bool.and_eq_true] at hbits
    exact hfree (and_ne_zero_of_bit (within_maskOf ho i hbits.1) hbits.2)
  · intro o ho
    rcases mem_append.mp ho with hold | hnew
    · exact nonzero o hold
    · rw [mem_singleton.mp hnew]
      exact pin_ne_zero hpin

theorem prepareNode_fresh {node : String × ResolvedSiteSettings F}
    (hstep : prepareNode banks node = .ok banks') : AllFresh banks' := by
  obtain ⟨middle, hinputs, houtputs⟩ := bind_eq_ok_iff.mp hstep
  have hmiddle : AllFresh middle :=
    foldlM_ok_invariant (fun _ _ _ _ hs hstep => prepareInput_fresh hs hstep) hinputs h
  exact foldlM_ok_invariant (fun _ _ _ _ hs hstep => prepareOutput_fresh hs hstep) houtputs hmiddle

end

/-- **Preparation builds banks whose pins are apart and that nothing was asked of yet.** -/
theorem RadioSite.prepare_fresh {settings : List (String × ResolvedSiteSettings F)}
    {site : RadioSite} (h : RadioSite.prepare settings = .ok site) :
    AllFresh site.banks ∧ site.replacement = none := by
  unfold RadioSite.prepare at h
  cases hbanks : settings.foldlM prepareNode (Table.empty : Table BankKey Bank) with
  | error quality =>
    rw [hbanks] at h
    cases h
  | ok banks =>
    rw [hbanks] at h
    cases h
    refine ⟨?_, rfl⟩
    exact foldlM_ok_invariant (fun _ _ _ _ hs hstep => prepareNode_fresh hs hstep) hbanks
      fun key bank hget => by cases hget

/-! ## Barriers -/

theorem barrierLoop_ok_iff (ready : Bool) (entries : List (BankKey × Bank)) :
    barrierLoop ready entries = some (.ok ()) ↔ ready = true ∧
      ∀ entry ∈ entries, entry.2.fenced ≠ 0#32 → entry.2.touched = true →
        entry.2.error = none ∧ entry.2.settled = true := by
  induction entries generalizing ready with
  | nil =>
    unfold barrierLoop
    cases ready <;> simp
  | cons entry rest ih =>
    obtain ⟨key, bank⟩ := entry
    unfold barrierLoop
    rw [forall_mem_cons]
    split
    · rename_i hcounts
      cases herror : bank.error with
      | some error =>
        simp [hcounts.1, hcounts.2]
      | none =>
        rw [ih, Bool.and_eq_true]
        tauto
    · rename_i hfree
      rw [ih]
      refine and_congr_right fun _ => (and_iff_right ?_).symm
      intro hfenced htouched
      exact absurd ⟨hfenced, htouched⟩ hfree

theorem RadioSite.barrier_ok_iff (site : RadioSite) :
    site.barrier = some (.ok ()) ↔ ∀ key bank, site.banks.get? key = some bank →
      bank.fenced ≠ 0#32 → bank.touched = true → bank.error = none ∧ bank.settled = true := by
  unfold RadioSite.barrier
  rw [barrierLoop_ok_iff]
  constructor
  · rintro ⟨-, h⟩ key bank hget
    exact h (key, bank) ((site.banks.mem_entries_iff key bank).mpr hget)
  · refine fun h => ⟨rfl, ?_⟩
    rintro ⟨key, bank⟩ hmem
    exact h key bank ((site.banks.mem_entries_iff key bank).mp hmem)

end RptAdvanced.Site
