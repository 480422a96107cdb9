import RptAdvanced.Lib.Run

/-!
# The local receive ring (`LocalHandoff` in `rust/product/src/worker.rs`)

The receive callback writes local audio into a ring and the transmit callback renders it. The
receive side owns the token: its low bit says that the receiver is keyed, the other bits count
falling edges. The transmit side resets the ring when the token's count is not the one it has
acknowledged, and acknowledges a count only behind a successful reset; the receive side drops audio
until it has. A rendered block counts as received only if the token is the same before and after it.

`step` makes one access to the token, the acknowledgement or the ring at a time. The ring itself is
a foreign library: `held` are the samples it has accepted since its last reset, and a rendered block
may hold any of them, in any order and any number of times. Samples that conceal a shortfall are
silence and are left out.

`burst` counts falling edges without wrapping, and each written sample carries the burst it was
written in. They and `log` decide nothing.

Results:
* `step_isolated`: the ring holds audio of the acknowledged burst alone.
* `bursts_isolated`: what is handed to the controller belongs to the burst of the token, and an
  acknowledgement stands behind a successful reset, as long as the count has not come around since
  the acknowledged burst.
* `wrapped_burst_replayed`: after 2^63 falling edges without a transmit callback it has.
-/

namespace RptAdvanced.Audio

open Lib List Bool

/-- Where the receive callback is. -/
inductive ReceiveStage (F : Type)
  | idle
  /-- The token is up to date and the receiver is keyed. -/
  | keyed (samples : List F)
  /-- The token's count is acknowledged. -/
  | checked (samples : List F)

/-- Where the transmit callback is; `token` is what it read first and `burst` the burst of then. -/
inductive TransmitStage (F : Type)
  | idle
  | loaded (token burst : Nat)
  /-- The token's count is not acknowledged. -/
  | resetting (token burst : Nat)
  /-- The reset was successful. -/
  | acking (token burst : Nat)
  | settled (token burst : Nat) (resetOk : Bool)
  /-- What was rendered, unless it failed or nothing was to be rendered. -/
  | rendered (token burst : Nat) (block : Option (List (Nat × F)))

/-- What the transmit callback did. -/
inductive HandoffEntry (F : Type)
  | reset (burst : Nat)
  | acked (burst : Nat)
  /-- Received audio for the controller, with the token and the bursts of its two reads. -/
  | handed (token before after : Nat) (block : List (Nat × F))
  deriving DecidableEq, Repr

/-- One receive and transmit ring pair. -/
structure HandoffDesk (F : Type) where
  token : Nat
  resetAck : Nat
  /-- The number of falling edges. -/
  burst : Nat
  /-- The burst of the last acknowledgement. -/
  acked : Nat
  held : List (Nat × F)
  receive : ReceiveStage F
  transmit : TransmitStage F
  log : List (HandoffEntry F)

/-- One access of a callback. -/
inductive HandoffMove (F : Type)
  /-- A receive callback, up to its qualification update. -/
  | receive (receiving : Bool) (samples : List F)
  /-- It returns before its write. -/
  | giveUp
  /-- It compares the count with the acknowledgement. -/
  | check
  /-- It writes; the ring accepts so many leading samples. -/
  | write (accepted : Nat)
  /-- A transmit callback, its first token read. -/
  | transmit
  | compare
  | reset (ok : Bool)
  | ack
  /-- It renders the samples at these places, when it may; a failure leaves nothing. -/
  | render (places : Option (List Nat))
  /-- It reads the token again and hands the block to the controller. -/
  | recheck (muted : Bool)

namespace HandoffDesk

variable {F : Type}

/-- The low bit of the token. -/
def keyed (token : Nat) : Bool := token % 2 == 1

/-- `token & !1`. -/
def epoch (token : Nat) : Nat := token - token % 2

def updateQualification (receiving : Bool) (d : HandoffDesk F) : HandoffDesk F :=
  if keyed d.token = receiving then d
  else if receiving then { d with token := d.token + 1 }
  else { d with token := (d.token + 1) % 2 ^ 64, burst := d.burst + 1 }

/-- One access. Each callback is serial. -/
def step (d : HandoffDesk F) : HandoffMove F → Option (HandoffDesk F)
  | .receive receiving samples =>
    match d.receive with
    | .idle => some { d.updateQualification receiving with
        receive := if receiving then .keyed samples else .idle }
    | _ => none
  | .giveUp =>
    match d.receive with
    | .keyed _ => some { d with receive := .idle }
    | _ => none
  | .check =>
    match d.receive with
    | .keyed samples => some { d with
        receive := if epoch d.token = d.resetAck then .checked samples else .idle }
    | _ => none
  | .write accepted =>
    match d.receive with
    | .checked samples => some { d with
        held := d.held ++ (samples.take accepted).map (d.burst, ·)
        receive := .idle }
    | _ => none
  | .transmit =>
    match d.transmit with
    | .idle => some { d with transmit := .loaded d.token d.burst }
    | _ => none
  | .compare =>
    match d.transmit with
    | .loaded token burst => some { d with
        transmit := if epoch token = d.resetAck then .settled token burst true
          else .resetting token burst }
    | _ => none
  | .reset ok =>
    match d.transmit with
    | .resetting token burst => some (if ok then { d with
          held := []
          transmit := .acking token burst
          log := .reset burst :: d.log }
        else { d with transmit := .settled token burst false })
    | _ => none
  | .ack =>
    match d.transmit with
    | .acking token burst => some { d with
        resetAck := epoch token
        acked := burst
        transmit := .settled token burst true
        log := .acked burst :: d.log }
    | _ => none
  | .render places =>
    match d.transmit with
    | .settled token burst resetOk => some { d with
        transmit := .rendered token burst
          (if keyed token && resetOk then places.map (·.filterMap (d.held[·]?)) else none) }
    | _ => none
  | .recheck muted =>
    match d.transmit with
    | .rendered token burst block => some { d with
        transmit := .idle
        log := match block with
          | some l =>
            if d.token = token then
              .handed token burst d.burst (if muted then [] else l) :: d.log
            else d.log
          | none => d.log }
    | _ => none

def Step (d : HandoffDesk F) (move : HandoffMove F) (d' : HandoffDesk F) : Prop :=
  d.step move = some d'

/-- A ring pair with what an earlier pair has left in its token and acknowledgement. -/
structure Initial (d : HandoffDesk F) : Prop where
  token : d.token / 2 = d.burst % 2 ^ 63
  resetAck : d.resetAck = 2 * (d.acked % 2 ^ 63)
  order : d.acked ≤ d.burst
  window : d.burst < d.acked + 2 ^ 63
  held : d.held = []
  receive : d.receive = .idle
  transmit : d.transmit = .idle
  log : d.log = []

/-- The count has not come around since the acknowledged burst. -/
def Unwrapped (d : HandoffDesk F) : HandoffMove F → Prop
  | .receive false _ => keyed d.token = true → d.burst + 1 < d.acked + 2 ^ 63
  | _ => True

/-! ## What every access keeps -/

/-- Handed audio is of the burst of its token, and an acknowledgement follows its reset. -/
def Ordered : List (HandoffEntry F) → Prop
  | [] => True
  | .reset _ :: log => Ordered log
  | .acked burst :: log => log.head? = some (.reset burst) ∧ Ordered log
  | .handed token before after block :: log =>
    (keyed token = true ∧ token / 2 = before % 2 ^ 63 ∧ after = before
      ∧ ∀ x ∈ block, x.1 = before) ∧ Ordered log

/-- The token is one of a burst that is not older than the acknowledged one. -/
structure Reads (token burst : Nat) (d : HandoffDesk F) : Prop where
  token : token / 2 = burst % 2 ^ 63
  acked : d.acked ≤ burst
  burst : burst ≤ d.burst

/-- What holds inside a transmit callback. -/
def Transmits (d : HandoffDesk F) : Prop :=
  match d.transmit with
  | .idle => True
  | .loaded token burst => Reads token burst d
  | .resetting token burst => Reads token burst d ∧ d.acked < burst
  | .acking token burst => Reads token burst d ∧ d.acked < burst ∧ d.held = []
      ∧ d.log.head? = some (.reset burst)
  | .settled token burst resetOk => Reads token burst d ∧ (resetOk = true → burst = d.acked)
  | .rendered token burst block => Reads token burst d
      ∧ ∀ l ∈ block, keyed token = true ∧ ∀ x ∈ l, x.1 = burst

/-- The ring holds audio of the acknowledged burst alone, and is written only in that burst. -/
structure Isolated (d : HandoffDesk F) : Prop where
  token : d.token / 2 = d.burst % 2 ^ 63
  resetAck : d.resetAck = 2 * (d.acked % 2 ^ 63)
  order : d.acked ≤ d.burst
  window : d.burst < d.acked + 2 ^ 63
  held : ∀ x ∈ d.held, x.1 = d.acked
  checked : ∀ samples, d.receive = .checked samples → d.burst = d.acked
  transmits : d.Transmits
  ordered : Ordered d.log

variable {d d' : HandoffDesk F} {move : HandoffMove F}

theorem Initial.isolated (h : d.Initial) : d.Isolated where
  token := h.token
  resetAck := h.resetAck
  order := h.order
  window := h.window
  held x hx := by
    rw [h.held] at hx
    cases hx
  checked samples hs := by
    rw [h.receive] at hs
    cases hs
  transmits := by
    unfold Transmits
    rw [h.transmit]
    trivial
  ordered := by
    rw [h.log]
    trivial

theorem epoch_eq (token : Nat) : epoch token = 2 * (token / 2) := by
  unfold epoch
  omega

/-- Within the window an acknowledged count is the acknowledged burst. -/
theorem acked_of_epoch (h : d.Isolated) {token burst : Nat} (hreads : Reads token burst d)
    (hepoch : epoch token = d.resetAck) : burst = d.acked := by
  have hwindow := h.window
  have hresetAck := h.resetAck
  obtain ⟨htoken, hacked, hburst⟩ := hreads
  rw [epoch_eq] at hepoch
  omega

/-- Falling edges do not disturb a transmit callback. -/
theorem Transmits.mono (h : d.Transmits) (hburst : d.burst ≤ d'.burst) (hacked : d'.acked = d.acked)
    (hheld : d'.held = d.held) (htransmit : d'.transmit = d.transmit) (hlog : d'.log = d.log) :
    d'.Transmits := by
  have hreads : ∀ {token burst}, Reads token burst d → Reads token burst d' := by
    intro token burst hr
    exact ⟨hr.token, hacked ▸ hr.acked, Nat.le_trans hr.burst hburst⟩
  unfold Transmits at h ⊢
  rw [htransmit]
  cases hstage : d.transmit with
  | idle => trivial
  | loaded token burst =>
    rw [hstage] at h
    exact hreads h
  | resetting token burst =>
    rw [hstage] at h
    exact ⟨hreads h.1, hacked ▸ h.2⟩
  | acking token burst =>
    rw [hstage] at h
    exact ⟨hreads h.1, hacked ▸ h.2.1, hheld.trans h.2.2.1, by rw [hlog]; exact h.2.2.2⟩
  | settled token burst resetOk =>
    rw [hstage] at h
    exact ⟨hreads h.1, fun hok => (h.2 hok).trans hacked.symm⟩
  | rendered token burst block =>
    rw [hstage] at h
    exact ⟨hreads h.1, h.2⟩

section

variable (h : d.Isolated)
include h

theorem updateQualification_isolated {receiving : Bool} {samples : List F}
    (hidle : d.receive = .idle) (hwindow : d.Unwrapped (.receive receiving samples)) :
    (d.updateQualification receiving).Isolated := by
  unfold updateQualification
  split
  · exact h
  rename_i hedge
  have htoken := h.token
  have hidle' : ∀ samples, d.receive = .checked samples → False := by
    intro samples hs
    rw [hidle] at hs
    cases hs
  split
  · rename_i hreceiving
    -- a rising edge: the count stays
    have heven : d.token % 2 = 0 := by
      rw [hreceiving] at hedge
      unfold keyed at hedge
      simp at hedge
      omega
    refine { h with
      token := ?_
      checked := fun s hs => (hidle' s hs).elim
      transmits := h.transmits.mono (Nat.le_refl _) rfl rfl rfl rfl }
    dsimp only
    omega
  · rename_i hfalling
    -- a falling edge: the next count, and the window is still open
    rw [not_eq_true] at hfalling
    subst hfalling
    have hkeyed : keyed d.token = true := by simpa using hedge
    have hroom : d.burst + 1 < d.acked + 2 ^ 63 := hwindow hkeyed
    have hodd : d.token % 2 = 1 := by simpa [keyed] using hkeyed
    refine { h with
      token := ?_
      order := Nat.le_succ_of_le h.order
      window := hroom
      checked := fun s hs => (hidle' s hs).elim
      transmits := h.transmits.mono (Nat.le_succ _) rfl rfl rfl rfl }
    dsimp only
    omega

/-! ## The accesses of the receive callback -/

/-- The receive callback goes on. -/
theorem receiving_isolated {stage : ReceiveStage F}
    (hchecked : ∀ samples, stage = .checked samples → d.burst = d.acked) :
    Isolated { d with receive := stage } :=
  { h with
    checked := hchecked
    transmits := h.transmits.mono (Nat.le_refl _) rfl rfl rfl rfl }

theorem receive_isolated {receiving : Bool} {samples : List F}
    (hwindow : d.Unwrapped (.receive receiving samples))
    (hstep : d.Step (.receive receiving samples) d') : d'.Isolated := by
  unfold Step step at hstep
  dsimp only at hstep
  split at hstep
  · rename_i hidle
    cases hstep
    refine receiving_isolated (updateQualification_isolated h hidle hwindow) fun l hl => ?_
    split at hl <;> cases hl
  · cases hstep

/-- The count is acknowledged: the burst is the acknowledged one. -/
theorem check_isolated (hstep : d.Step .check d') : d'.Isolated := by
  unfold Step step at hstep
  dsimp only at hstep
  split at hstep
  · cases hstep
    refine receiving_isolated h fun l hl => ?_
    split at hl
    · rename_i hacked
      exact acked_of_epoch h ⟨h.token, h.order, Nat.le_refl _⟩ hacked
    · cases hl
  · cases hstep

/-- No reset is under way when the receive callback writes. -/
theorem write_isolated {accepted : Nat} (hstep : d.Step (.write accepted) d') : d'.Isolated := by
  unfold Step step at hstep
  dsimp only at hstep
  split at hstep
  · rename_i samples hchecked
    cases hstep
    have hsame := h.checked samples hchecked
    refine { h with held := fun x hx => ?_, checked := nofun, transmits := ?_ }
    · rcases mem_append.mp hx with hold | hnew
      · exact h.held x hold
      · obtain ⟨sample, -, rfl⟩ := mem_map.mp hnew
        exact hsame
    · have htransmits := h.transmits
      unfold Transmits at htransmits ⊢
      cases hstage : d.transmit with
      | idle => trivial
      | loaded token burst =>
        rw [hstage] at htransmits
        exact { htransmits with }
      | resetting token burst | settled token burst resetOk | rendered token burst block =>
        rw [hstage] at htransmits
        exact ⟨{ htransmits.1 with }, htransmits.2⟩
      | acking token burst =>
        rw [hstage] at htransmits
        have hburst := htransmits.1.burst
        omega
  · cases hstep

/-! ## The accesses of the transmit callback -/

theorem compare_isolated (hstep : d.Step .compare d') : d'.Isolated := by
  unfold Step step at hstep
  dsimp only at hstep
  split at hstep
  · rename_i token burst hloaded
    cases hstep
    have hreads := h.transmits
    unfold Transmits at hreads
    rw [hloaded] at hreads
    have hreads' : Reads token burst d := hreads
    refine { h with transmits := ?_ }
    unfold Transmits
    by_cases hacked : epoch token = d.resetAck
    · rw [if_pos hacked]
      exact ⟨{ hreads' with }, fun _ => acked_of_epoch h hreads' hacked⟩
    · rw [if_neg hacked]
      refine ⟨{ hreads' with }, Nat.lt_of_le_of_ne hreads'.acked fun hsame => hacked ?_⟩
      rw [epoch_eq, h.resetAck, hreads'.token, hsame]
  · cases hstep

theorem reset_isolated {ok : Bool} (hstep : d.Step (.reset ok) d') : d'.Isolated := by
  unfold Step step at hstep
  dsimp only at hstep
  split at hstep
  · rename_i token burst hresetting
    have htransmits := h.transmits
    unfold Transmits at htransmits
    rw [hresetting] at htransmits
    obtain ⟨hreads, hlt⟩ := htransmits
    cases ok with
    | true =>
      cases hstep
      exact { h with held := by simp, transmits := ⟨{ hreads with }, hlt, rfl, rfl⟩ }
    | false =>
      cases hstep
      exact { h with transmits := ⟨{ hreads with }, by simp⟩ }
  · cases hstep

/-- The acknowledgement finds the ring empty, and the receive callback not about to write. -/
theorem ack_isolated (hstep : d.Step .ack d') : d'.Isolated := by
  unfold Step step at hstep
  dsimp only at hstep
  split at hstep
  · rename_i token burst hacking
    cases hstep
    have htransmits := h.transmits
    unfold Transmits at htransmits
    rw [hacking] at htransmits
    obtain ⟨hreads, hlt, hheld, hlast⟩ := htransmits
    have hwindow := h.window
    refine { h with
      resetAck := ?_
      order := hreads.burst
      window := by dsimp only; omega
      held := fun x hx => ?_
      checked := fun l hl => ?_
      transmits := ⟨⟨hreads.token, Nat.le_refl _, hreads.burst⟩, fun _ => rfl⟩
      ordered := ⟨hlast, h.ordered⟩ }
    · rw [epoch_eq, hreads.token]
    · rw [hheld] at hx
      cases hx
    · have hsame := h.checked l hl
      have hburst := hreads.burst
      omega
  · cases hstep

theorem render_isolated {places : Option (List Nat)}
    (hstep : d.Step (.render places) d') : d'.Isolated := by
  unfold Step step at hstep
  dsimp only at hstep
  split at hstep
  · rename_i token burst resetOk hsettled
    cases hstep
    have htransmits := h.transmits
    unfold Transmits at htransmits
    rw [hsettled] at htransmits
    obtain ⟨hreads, hacked⟩ := htransmits
    refine { h with transmits := ⟨{ hreads with }, fun l hl => ?_⟩ }
    split at hl
    · rename_i hready
      rw [and_eq_true] at hready
      obtain ⟨indices, -, rfl⟩ := Option.map_eq_some_iff.mp hl
      refine ⟨hready.1, fun x hx => ?_⟩
      obtain ⟨index, -, hindex⟩ := mem_filterMap.mp hx
      rw [h.held x (mem_of_getElem? hindex), hacked hready.2]
    · cases hl
  · cases hstep

/-- The same token is the same burst. -/
theorem recheck_isolated {muted : Bool} (hstep : d.Step (.recheck muted) d') : d'.Isolated := by
  unfold Step step at hstep
  dsimp only at hstep
  split at hstep
  · rename_i token burst block hrendered
    cases hstep
    have htransmits := h.transmits
    unfold Transmits at htransmits
    rw [hrendered] at htransmits
    obtain ⟨hreads, hblock⟩ := htransmits
    refine { h with transmits := trivial, ordered := ?_ }
    cases block with
    | none => exact h.ordered
    | some l =>
      obtain ⟨hkeyed, hl⟩ := hblock l rfl
      dsimp only
      by_cases hsame : d.token = token
      · rw [if_pos hsame]
        refine ⟨⟨hkeyed, hreads.token, ?_, fun x hx => ?_⟩, h.ordered⟩
        · have htoken := h.token
          have hwindow := h.window
          obtain ⟨htoken', hacked, hburst⟩ := hreads
          omega
        · cases muted with
          | true => cases hx
          | false => exact hl x hx
      · rw [if_neg hsame]
        exact h.ordered
  · cases hstep

/-- **What every access keeps.** -/
theorem step_isolated (hwindow : d.Unwrapped move) (hstep : d.Step move d') : d'.Isolated := by
  cases move with
  | receive receiving samples => exact receive_isolated h hwindow hstep
  | giveUp =>
    unfold Step step at hstep
    dsimp only at hstep
    split at hstep
    · cases hstep
      exact receiving_isolated h nofun
    · cases hstep
  | check => exact check_isolated h hstep
  | write accepted => exact write_isolated h hstep
  | transmit =>
    unfold Step step at hstep
    dsimp only at hstep
    split at hstep
    · cases hstep
      exact { h with transmits := ⟨h.token, h.order, Nat.le_refl _⟩ }
    · cases hstep
  | compare => exact compare_isolated h hstep
  | reset ok => exact reset_isolated h hstep
  | ack => exact ack_isolated h hstep
  | render places => exact render_isolated h hstep
  | recheck muted => exact recheck_isolated h hstep

end

theorem Ordered.handed {log : List (HandoffEntry F)} {token before after : Nat}
    {block : List (Nat × F)} (h : Ordered log) (hmem : .handed token before after block ∈ log) :
    keyed token = true ∧ token / 2 = before % 2 ^ 63 ∧ after = before
      ∧ ∀ x ∈ block, x.1 = before := by
  induction log with
  | nil => cases hmem
  | cons e log ih =>
    rcases mem_cons.mp hmem with rfl | hrest
    · exact h.1
    cases e with
    | reset burst => exact ih h hrest
    | acked | handed => exact ih h.2 hrest

theorem Ordered.acked {l₁ l₂ : List (HandoffEntry F)} {burst : Nat}
    (h : Ordered (l₁ ++ .acked burst :: l₂)) : l₂.head? = some (.reset burst) := by
  induction l₁ with
  | nil => exact h.1
  | cons e l₁ ih =>
    cases e with
    | reset burst => exact ih h
    | acked | handed => exact ih h.2

/-- **Bursts are isolated.** As long as the count has not come around since the acknowledged burst,
what is handed to the controller as received audio was written in the burst of the token, which is
the burst before and after rendering, and the acknowledgement of a burst follows a successful reset
of the ring for it. -/
theorem bursts_isolated (h : Reachable Initial (Guarded Step Unwrapped) d) :
    (∀ token before after block, .handed token before after block ∈ d.log →
        keyed token = true ∧ token / 2 = before % 2 ^ 63 ∧ after = before
          ∧ ∀ x ∈ block, x.1 = before)
      ∧ ∀ l₁ l₂ burst, d.log = l₁ ++ .acked burst :: l₂ → l₂.head? = some (.reset burst) := by
  have hisolated : d.Isolated := h.invariant (P := Isolated) (fun _ => Initial.isolated)
    fun _ _ _ hd hstep => step_isolated hd hstep.1 hstep.2
  refine ⟨fun token before after block => hisolated.ordered.handed, fun l₁ l₂ burst hlog => ?_⟩
  have hordered := hisolated.ordered
  rw [hlog] at hordered
  exact hordered.acked

/-! ## A count that comes around -/

/-- A new ring pair. -/
def fresh (F : Type) : HandoffDesk F := ⟨0, 0, 0, 0, [], .idle, .idle, []⟩

theorem fresh_initial : (fresh F).Initial where
  token := by
    change 0 / 2 = 0 % 2 ^ 63
    rw [Nat.zero_mod, Nat.zero_div]
  resetAck := rfl
  order := Nat.le_refl 0
  window := Nat.lt_add_of_pos_right (Nat.two_pow_pos 63)
  held := rfl
  receive := rfl
  transmit := rfl
  log := rfl

/-- A key and an unkey, with nothing written. -/
def kerchunk : List (HandoffMove F) := [.receive true [], .giveUp, .receive false []]

/-- The pair behind `n` falling edges. -/
def kerchunked (n : Nat) (d : HandoffDesk F) : HandoffDesk F :=
  { d with token := (d.token + 2 * n) % 2 ^ 64, burst := d.burst + n }

theorem kerchunk_run (hidle : d.receive = .idle) (heven : d.token % 2 = 0) :
    Run Step d kerchunk (kerchunked 1 d) := by
  have hkeyed : keyed d.token = false := by
    unfold keyed
    rw [heven]
    rfl
  have hkeyed' : keyed (d.token + 1) = true := by
    unfold keyed
    rw [Nat.add_mod, heven]
    rfl
  have hrise : d.updateQualification true = { d with token := d.token + 1 } := by
    unfold updateQualification
    rw [hkeyed]
    rfl
  have hfall : ∀ e : HandoffDesk F, keyed e.token = true →
      e.updateQualification false = { e with
        token := (e.token + 1) % 2 ^ 64, burst := e.burst + 1 } := by
    intro e he
    unfold updateQualification
    rw [he]
    rfl
  have hrisen : d.Step (.receive true [])
      { d with token := d.token + 1, receive := .keyed [] } := by
    unfold Step step
    dsimp only
    rw [hidle, hrise]
    rfl
  have hfallen : Step { d with token := d.token + 1 } (.receive false []) (kerchunked 1 d) := by
    unfold Step step
    dsimp only
    rw [hidle, hfall _ hkeyed']
    unfold kerchunked
    rw [hidle]
    rfl
  refine .cons hrisen (.cons (t := { d with token := d.token + 1 }) ?_ (.cons hfallen (.nil _)))
  unfold Step step
  rw [hidle]

/-- Any number of falling edges without a transmit callback. -/
theorem kerchunks_run (n : Nat) (hidle : d.receive = .idle) (heven : d.token % 2 = 0)
    (hlt : d.token < 2 ^ 64) : ∃ moves, Run Step d moves (kerchunked n d) := by
  induction n with
  | zero =>
    refine ⟨[], ?_⟩
    have hsame : kerchunked 0 d = d := by
      unfold kerchunked
      rw [Nat.mul_zero, Nat.add_zero, Nat.add_zero, Nat.mod_eq_of_lt hlt]
    rw [hsame]
    exact .nil d
  | succ n ih =>
    obtain ⟨moves, hrun⟩ := ih
    have heven' : (kerchunked n d).token % 2 = 0 := by
      unfold kerchunked
      dsimp only
      omega
    have hnext : kerchunked 1 (kerchunked n d) = kerchunked (n + 1) d := by
      unfold kerchunked
      dsimp only
      congr 1
      omega
    refine ⟨moves ++ kerchunk, hrun.append ?_⟩
    rw [← hnext]
    exact kerchunk_run hidle heven'

/-- **After 2^63 falling edges without a transmit callback**, the audio of the first burst is handed
to the controller as that of the present one: the first burst's acknowledgement counts for it. -/
theorem wrapped_burst_replayed : ∃ d : HandoffDesk Nat, Reachable Initial Step d
      ∧ d.log = [.handed 1 (2 ^ 63) (2 ^ 63) [(0, 7)]] := by
  have hfirst : ([.receive true [7], .check, .write 1, .receive false []] :
      List (HandoffMove Nat)).foldlM step (fresh Nat)
      = some ⟨2, 0, 1, 0, [(0, 7)], .idle, .idle, []⟩ := rfl
  have hlast : ([.receive true [], .transmit, .compare, .render (some [0]), .recheck false] :
      List (HandoffMove Nat)).foldlM step ⟨0, 0, 2 ^ 63, 0, [(0, 7)], .idle, .idle, []⟩
      = some ⟨1, 0, 2 ^ 63, 0, [(0, 7)], .keyed [], .idle,
        [.handed 1 (2 ^ 63) (2 ^ 63) [(0, 7)]]⟩ := rfl
  obtain ⟨moves, hmiddle⟩ := kerchunks_run (d := ⟨2, 0, 1, 0, [(0, 7)], .idle, .idle, []⟩)
    (2 ^ 63 - 1) rfl rfl (by decide)
  exact ⟨_, (((Reachable.init fresh_initial).run (Run.foldlM hfirst)).run hmiddle).run
    (Run.foldlM hlast), rfl⟩

instance (d : HandoffDesk F) : DecidablePred d.Unwrapped := fun move => by
  unfold Unwrapped
  split <;> infer_instance

/-- A burst, and another one whose audio is written behind the reset and handed over. -/
def secondBurst : List (HandoffMove Nat) :=
  [.receive true [7], .check, .write 1, .receive false [], .receive true [8], .transmit, .compare,
    .reset true, .ack, .check, .write 1, .render (some [0]), .recheck false]

theorem bursts_isolated_second : ∃ d : HandoffDesk Nat, Reachable Initial (Guarded Step Unwrapped) d
      ∧ d.log = [.handed 3 1 1 [(1, 8)], .acked 1, .reset 1]
      ∧ ∀ before after block, .handed 3 before after block ∈ d.log → ∀ x ∈ block, x.1 = before := by
  obtain ⟨d, hreach, hlog⟩ := exists_reachable_guarded Initial step Unwrapped secondBurst
    (some (fresh Nat)) (by rintro _ ⟨⟩; exact fresh_initial) (fun d =>
      d.log = [.handed 3 1 1 [(1, 8)], .acked 1, .reset 1]) (by decide +kernel)
  exact ⟨d, hreach, hlog, fun before after block hmem =>
    ((bursts_isolated hreach).1 3 before after block hmem).2.2.2⟩

end HandoffDesk

end RptAdvanced.Audio
