import Mathlib.Algebra.BigOperators.Group.Finset.Piecewise
import RptAdvanced.Controller.Message
import RptAdvanced.Lib.Run

/-!
# The preparation handshake

The three rings of a port form a credit protocol. The reader asks again only after it consumed an
answer, so a request, a waiting control port and a ready answer exclude one another (`Handoff.Inv`,
fields `ports` and `credit`), and the retired ring is empty while any of the last two, or the
reader, has the stream of the next retirement.

`take_request` first drains the retired rings and then pops a request. Between the two the reader
can retire a stream and ask again; then the request is popped while its port's retired ring is full,
and the next retirement has no room (`retire_assertion_fails`). `Handoff.Orderly` excludes exactly
that pop, and the removal of a port whose dropped reader still has its ring ends.

Results:
* `step_inv`: an orderly step keeps the invariant.
* `orderly_handshake`: along orderly steps no assertion fails, a stream is rendered only for its
  attempt, by the port that issued it, and every prepared stream is in exactly one place.
-/

namespace RptAdvanced.Controller

open Audio Lib List Option MessagePort

variable {S F : Type}

/-- Port `i` took the sequence number of the attempt. -/
def IssuedTo (issued : List Nat) (i : Nat) (a : MessageAttemptId) : Prop :=
  issued[a.sequence]? = some i

theorem IssuedTo.append {issued : List Nat} {i : Nat} {a : MessageAttemptId}
    (h : IssuedTo issued i a) (j : Nat) : IssuedTo (issued ++ [j]) i a := by
  unfold IssuedTo at h ⊢
  obtain ⟨hlt, -⟩ := List.getElem?_eq_some_iff.mp h
  rwa [getElem?_append_left hlt]

/-- What the rest of a call looks like after its first access. -/
theorem ReaderCall.rest {call : ReaderCall F} {op : ReaderOp F} {rest : List (ReaderOp F)}
    (h : op :: rest <:+ call.ops) : .cancel ∉ rest ∧ (op = .markDead → rest = [])
      ∧ (.nextAttempt ∈ rest ∨ .markDead ∈ rest →
        op = .cancel ∨ op = .popReady ∨ op = .pushRequest) := by
  cases call <;>
    simp only [ops, cancelOps, poll, cons_append, nil_append, suffix_cons_iff,
      cons.injEq, suffix_nil, reduceCtorEq, or_false] at h <;>
    aesop

namespace MessagePort

/-- The streams of a port. -/
def held (p : MessagePort S F) : List Nat := p.ringSerials ++ p.readerSerials

/-- The state of a port: what its rings and its reader say about one another. -/
structure Ok (issued : List Nat) (i : Nat) (p : MessagePort S F) : Prop where
  request : ∀ r, p.requests = some r →
    p.ready = none ∧ p.reader.outstanding = true ∧ IssuedTo issued i r.attempt
  ready : ∀ r, p.ready = some r → p.reader.outstanding = true ∧ p.retired = none
    ∧ IssuedTo issued i r.attempt ∧ ∀ s, r.result = some s → s.attempt = r.attempt
  stream : ∀ s, p.reader.stream = some s →
    p.reader.outstanding = false ∧ p.retired = none ∧ p.reader.desired = some s.attempt
  hand : ∀ s, p.hand = some s →
    p.reader.outstanding = false ∧ p.retired = none ∧ p.reader.stream = none
  desired : ∀ a, p.reader.desired = some a → IssuedTo issued i a
  dead : p.alive = false → p.reader.stream = none ∧ p.hand = none ∧ p.todo = []
  call : ∃ call : ReaderCall F, p.todo <:+ call.ops
  quiet : .nextAttempt ∈ p.todo ∨ .markDead ∈ p.todo → .cancel ∈ p.todo ∨ p.reader.desired = none

end MessagePort

/-- A waiting control port has the port's credit. -/
def ControlPort.Ok (issued : List Nat) (c : ControlPort) (p : MessagePort S F) : Prop :=
  ∀ a, c.waiting = some a → p.requests = none ∧ p.ready = none ∧ p.retired = none
    ∧ p.reader.outstanding = true ∧ IssuedTo issued c.port a

namespace Handoff

/-- How often a prepared stream is in a ready ring, with a reader, in a retired ring, or among those
control dropped. -/
def copies (m : Handoff S F) (n : Nat) : Nat :=
  ∑ i ∈ Finset.range m.count, (m.port i).held.count n + m.dropped.count n

/-- The invariant of orderly runs. -/
structure Inv (m : Handoff S F) : Prop where
  distinct : m.listed.Nodup
  inRange : ∀ i ∈ m.listed, i < m.count
  ports : ∀ i < m.count, (m.port i).Ok m.issued i
  credit : ∀ c ∈ m.control.ports, c.Ok m.issued (m.port c.port)
  removed : ∀ i < m.count, i ∉ m.listed → (m.port i).alive = false ∧ (m.port i).gone = true
    ∧ (m.port i).ready = none ∧ (m.port i).retired = none
  once : ∀ n, (n < m.prepared → m.copies n = 1) ∧ (m.prepared ≤ n → m.copies n = 0)
  abandoned : m.abandoned = []
  draining : ∀ index, m.phase = .draining index →
    m.control.ports = [] ∨ m.control.next < m.control.ports.length
  scanning : ∀ left, m.phase = .scanning (left + 1) → m.control.next < m.control.ports.length
  rendered : ∀ e ∈ m.rendered, e.desired = some e.attempt ∧ IssuedTo m.issued e.port e.attempt
  fault : m.fault = none

/-- The next access of `take_request` is outside the two windows: a request is popped while the
port's retired ring is empty, and a port is dropped after its reader's ring ends. -/
def OrderlyAt (m : Handoff S F) : TakePhase → Prop
  | .retaining index => ∀ c ∈ m.control.ports[index]?,
      (m.port c.port).alive = false → (m.port c.port).gone = true
  | .scanning (_ + 1) => ∀ c ∈ m.control.ports[m.control.next]?,
      (m.port c.port).requests.isSome → (m.port c.port).retired.isNone
  | .idle | .draining _ | .scanning 0 => True

/-- A step outside the two windows. -/
def Orderly (m : Handoff S F) : HandoffMove S F → Prop
  | .control => m.OrderlyAt m.phase
  | _ => True

instance (m : Handoff S F) (phase : TakePhase) : Decidable (m.OrderlyAt phase) := by
  unfold OrderlyAt
  split <;> infer_instance

instance (m : Handoff S F) (a : HandoffMove S F) : Decidable (m.Orderly a) := by
  cases a <;> unfold Orderly <;> infer_instance

end Handoff

/-! ## The reader's accesses -/

namespace MessagePort

variable {issued : List Nat} {i : Nat} {p p' p'' : MessagePort S F} {op : ReaderOp F}
  {rest : List (ReaderOp F)}

/-- One access of the reader keeps the port in order and loses no stream. -/
structure Moves (issued : List Nat) (i : Nat) (p p' : MessagePort S F) : Prop where
  ok : p'.Ok issued i
  credit : ∀ c : ControlPort, c.Ok issued p → c.Ok issued p'
  held : ∀ n, p'.held.count n = p.held.count n

theorem Moves.trans (h : Moves issued i p p') (k : Moves issued i p' p'') : Moves issued i p p'' :=
  ⟨k.ok, fun c hc => k.credit c (h.credit c hc), fun n => (k.held n).trans (h.held n)⟩

variable (h : p.Ok issued i)
include h

/-- An access that leaves the attempt alone. -/
theorem Ok.tail (htodo : p.todo = op :: rest) (hop : op ≠ .cancel) :
    Moves issued i p { p with todo := rest } := by
  refine ⟨{ h with dead := ?_, call := ?_, quiet := ?_ }, fun c hc => hc, fun _ => rfl⟩
  · intro hdead
    have := (h.dead hdead).2.2
    rw [htodo] at this
    cases this
  · obtain ⟨call, hcall⟩ := h.call
    exact ⟨call, (suffix_cons op rest).trans (htodo ▸ hcall)⟩
  · intro hin
    have hquiet := h.quiet (htodo ▸ hin.imp (mem_cons_of_mem _) (mem_cons_of_mem _))
    rw [htodo] at hquiet
    rcases hquiet with hcancel | hnone
    · exact .inl ((mem_cons.mp hcancel).resolve_left (Ne.symm hop))
    · exact .inr hnone

/-- `cancel` puts the stream into the reader's hand. -/
theorem Ok.cancel (htodo : p.todo = .cancel :: rest) (hhand : p.hand = none) :
    Moves issued i p { p with
      todo := rest, hand := p.reader.stream
      reader := { p.reader with desired := none, stream := none } } := by
  refine ⟨{ request := h.request, ready := h.ready, stream := nofun, hand := ?_, desired := nofun,
            dead := ?_, call := ?_, quiet := fun _ => .inr rfl }, fun c hc => hc, fun n => ?_⟩
  · intro s hs
    obtain ⟨hout, hretired, -⟩ := h.stream s hs
    exact ⟨hout, hretired, rfl⟩
  · intro hdead
    have := (h.dead hdead).2.2
    rw [htodo] at this
    cases this
  · obtain ⟨call, hcall⟩ := h.call
    exact ⟨call, (suffix_cons _ rest).trans (htodo ▸ hcall)⟩
  · simp [held, ringSerials, readerSerials, hhand]

variable {s : PreparedStream S}

/-- A read of the stream, whatever it made of it. -/
theorem Ok.play (hs : p.reader.stream = some s) (x : S)
    (answer : ReaderAnswer F) : Moves issued i p { p with
      reader := { p.reader with stream := some { s with stream := x } }, answer } := by
  obtain ⟨hout, hretired, hdesired⟩ := h.stream s hs
  refine ⟨{ h with stream := ?_, hand := ?_, dead := ?_ }, fun c hc => hc, fun n => ?_⟩
  · intro s' hs'
    cases hs'
    exact ⟨hout, hretired, hdesired⟩
  · intro s' hs'
    rw [(h.hand s' hs').2.2] at hs
    cases hs
  · intro hd
    rw [(h.dead hd).1] at hs
    cases hs
  · simp [held, ringSerials, readerSerials, hs]

/-- An answer alone changes nothing. -/
theorem Ok.answered (answer : ReaderAnswer F) :
    Moves issued i p { p with answer } := ⟨{ h with }, fun _ hc => hc, fun _ => rfl⟩

/-- A reader without credit in use may ask: its request ring is empty. -/
theorem Ok.request_none (hout : p.reader.outstanding = false) : p.requests = none := by
  cases hr : p.requests with
  | none => rfl
  | some r =>
    rw [(h.request r hr).2.1] at hout
    cases hout

/-- `poll` asks for the attempt's stream. -/
theorem Ok.ask (hhand : p.hand = none) {a : MessageAttemptId}
    (hdesired : p.reader.desired = some a) (hout : p.reader.outstanding = false)
    (hstream : p.reader.stream = none) : Moves issued i p { p with
      requests := some ⟨a, p.reader.contentIndex⟩
      reader := { p.reader with outstanding := true } } := by
  have hready : p.ready = none := by
    cases hr : p.ready with
    | none => rfl
    | some r =>
      rw [(h.ready r hr).1] at hout
      cases hout
  refine ⟨{ h with request := ?_, ready := of_none hready, stream := of_none hstream,
                   hand := of_none hhand }, fun c hc => ?_, fun _ => rfl⟩
  · intro r hr
    cases hr
    exact ⟨hready, rfl, h.desired a hdesired⟩
  · intro a' ha'
    rw [(hc a' ha').2.2.2.1] at hout
    cases hout

/-- `retire` finds room. -/
theorem Ok.retired (hhand : p.hand = some s) : p.retired = none ∧ ∀ x : S, Moves issued i p { p with
      hand := none, retired := some { s with stream := x } } := by
  obtain ⟨hout, hretired, hstream⟩ := h.hand s hhand
  refine ⟨hretired, fun x => ⟨{ h with ready := ?_, stream := of_none hstream, hand := nofun,
                                       dead := ?_ }, fun c hc => ?_, fun n => ?_⟩⟩
  · intro r hr
    rw [(h.ready r hr).1] at hout
    cases hout
  · intro hd
    rw [(h.dead hd).2.1] at hhand
    cases hhand
  · intro a ha
    rw [(hc a ha).2.2.2.1] at hout
    cases hout
  · simp [held, ringSerials, readerSerials, hhand, hretired, hstream]

/-- A reader that waits for an answer has no stream. -/
theorem Ok.stream_out (hout : p.reader.outstanding = true) : p.reader.stream = none := by
  cases hs : p.reader.stream with
  | none => rfl
  | some s =>
    rw [(h.stream s hs).1] at hout
    cases hout

/-- A quiet attempt has no stream. -/
theorem Ok.stream_none (hdesired : p.reader.desired = none) : p.reader.stream = none := by
  cases hs : p.reader.stream with
  | none => rfl
  | some s =>
    rw [(h.stream s hs).2.2] at hdesired
    cases hdesired

/-- Before a new attempt and before the end of `drop` the reader was cancelled. -/
theorem Ok.desired_none (htodo : p.todo = op :: rest)
    (hop : op = .nextAttempt ∨ op = .markDead) : p.reader.desired = none := by
  obtain ⟨call, hcall⟩ := h.call
  rw [htodo] at hcall
  have hquiet := h.quiet (by
    rw [htodo]
    rcases hop with rfl | rfl
    · exact .inl mem_cons_self
    · exact .inr mem_cons_self)
  rw [htodo] at hquiet
  refine hquiet.resolve_left fun hcancel => ?_
  rcases mem_cons.mp hcancel with hop' | hin
  · rcases hop with rfl | rfl <;> cases hop'
  · exact (ReaderCall.rest hcall).1 hin

theorem Ok.markDead (htodo : p.todo = .markDead :: rest)
    (hhand : p.hand = none) : Moves issued i p { p with todo := rest, alive := false } := by
  obtain ⟨call, hcall⟩ := h.call
  have hmoves := h.tail htodo nofun
  refine ⟨{ hmoves.ok with dead := fun _ => ⟨?_, hhand, ?_⟩ }, fun _ hc => hc, fun _ => rfl⟩
  · exact h.stream_none (h.desired_none htodo (.inr rfl))
  · exact (ReaderCall.rest (htodo ▸ hcall)).2.1 rfl

theorem Ok.issue (j : Nat) : p.Ok (issued ++ [j]) i :=
  { h with
    request := fun r hr => ⟨(h.request r hr).1, (h.request r hr).2.1, (h.request r hr).2.2.append j⟩
    ready := fun r hr => by
      obtain ⟨hout, hretired, hissued, htag⟩ := h.ready r hr
      exact ⟨hout, hretired, hissued.append j, htag⟩
    desired := fun a ha => (h.desired a ha).append j }

/-- `start` takes a number. -/
theorem Ok.attempt (htodo : p.todo = .nextAttempt :: rest) (failed : Bool)
    {desired : Option MessageAttemptId} (hdesired : ∀ a, desired = some a → IssuedTo issued i a) :
    Moves issued i p { p with
      todo := rest, reader := { p.reader with failed, desired } } := by
  have hnone := h.stream_none (h.desired_none htodo (.inl rfl))
  obtain ⟨call, hcall⟩ := h.call
  have hmoves := h.tail htodo nofun
  refine ⟨{ hmoves.ok with stream := of_none hnone, desired := hdesired, quiet := fun hin => ?_ },
    fun _ hc => hc, fun _ => rfl⟩
  rcases (ReaderCall.rest (htodo ▸ hcall)).2.2 hin with hop | hop | hop <;> cases hop

variable [PcmStreamReader S F]

/-- `poll` consumes an answer: the credit is back, and the stream is the attempt's or in hand. -/
theorem Ok.receive (halive : p.alive = true) (hhand : p.hand = none)
    {r : Ready S} (hready : p.ready = some r) :
    Moves issued i p ({ p with ready := none }.receive r) := by
  obtain ⟨hout, hretired, hissued, htag⟩ := h.ready r hready
  have hstream := h.stream_out hout
  have hrequest : ∀ r', p.requests ≠ some r' := fun r' hr' => by
    rw [(h.request r' hr').1] at hready
    cases hready
  -- no control port waits while the answer is in the ring
  have hcredit : ∀ (c : ControlPort) (q : MessagePort S F), c.Ok issued p → c.Ok issued q :=
    fun c q hc a ha => by
      rw [(hc a ha).2.1] at hready
      cases hready
  have hdead : ∀ {P : Prop}, p.alive = false → P := fun hd => by
    rw [halive] at hd
    cases hd
  unfold MessagePort.receive
  cases hresult : r.result with
  | some s =>
    dsimp only
    by_cases hdesired : p.reader.desired = some r.attempt
    · rw [if_pos hdesired]
      refine ⟨{ request := fun r' hr' => absurd hr' (hrequest r'), ready := nofun, stream := ?_,
                hand := of_none hhand, desired := h.desired, dead := hdead, call := h.call,
                quiet := h.quiet }, fun c hc => hcredit c _ hc, fun n => ?_⟩
      · intro s' hs'
        cases hs'
        exact ⟨rfl, hretired, hdesired.trans (congrArg some (htag s hresult).symm)⟩
      · simp [held, ringSerials, readerSerials, hhand, hready, hresult, hstream, hretired]
    · rw [if_neg hdesired]
      refine ⟨{ request := fun r' hr' => absurd hr' (hrequest r'), ready := nofun,
                stream := of_none hstream, hand := fun _ _ => ⟨rfl, hretired, hstream⟩,
                desired := h.desired, dead := hdead, call := h.call, quiet := h.quiet },
              fun c hc => hcredit c _ hc, fun n => ?_⟩
      simp [held, ringSerials, readerSerials, hhand, hready, hresult, hstream, hretired]
  | none =>
    dsimp only
    split <;>
    · refine ⟨{ request := fun r' hr' => absurd hr' (hrequest r'), ready := nofun,
                stream := of_none hstream, hand := of_none hhand, desired := h.desired,
                dead := hdead, call := h.call, quiet := h.quiet },
              fun c hc => hcredit c _ hc, fun n => ?_⟩
      simp [held, ringSerials, readerSerials, hhand, hready, hresult, hstream, hretired]

theorem Ok.selectMorse : Moves issued i p p.selectMorse := by
  unfold MessagePort.selectMorse
  split
  · exact h.answered _
  split
  · exact h.answered _
  · rename_i s hs
    exact h.play hs _ _

theorem Ok.rewind : Moves issued i p p.rewind := by
  unfold MessagePort.rewind
  cases hs : p.reader.stream with
  | some s => exact h.play hs _ p.answer
  | none =>
    refine ⟨{ h with stream := nofun, hand := ?_, dead := ?_ }, fun c hc => hc, fun n => ?_⟩
    · exact fun s' hs' => ⟨(h.hand s' hs').1, (h.hand s' hs').2.1, rfl⟩
    · exact fun hd => ⟨rfl, (h.dead hd).2⟩
    · simp [held, ringSerials, readerSerials, hs]

end MessagePort

/-! ## Steps -/

namespace Handoff

variable {m m' : Handoff S F} {i : Nat} {p : MessagePort S F}

theorem setPort_port (m : Handoff S F) (i j : Nat) (p : MessagePort S F) :
    (m.setPort i p).port j = if j = i then p else m.port j := by
  by_cases hj : j = i
  · rw [if_pos hj, hj]
    exact Function.update_self ..
  · rw [if_neg hj]
    exact Function.update_of_ne hj ..

/-- Changing one port changes the count by what that port holds. -/
theorem sum_setPort (hi : i < m.count) (n : Nat) :
    ∑ j ∈ Finset.range m.count, ((m.setPort i p).port j).held.count n + (m.port i).held.count n
      = ∑ j ∈ Finset.range m.count, (m.port j).held.count n + p.held.count n := by
  have hmem : i ∈ Finset.range m.count := Finset.mem_range.mpr hi
  rw [← Finset.sum_erase_add _ _ hmem, ← Finset.sum_erase_add (a := i) _ _ hmem,
    setPort_port, if_pos rfl]
  have hothers : ∑ j ∈ (Finset.range m.count).erase i, ((m.setPort i p).port j).held.count n
      = ∑ j ∈ (Finset.range m.count).erase i, (m.port j).held.count n :=
    Finset.sum_congr rfl fun j hj => by rw [setPort_port, if_neg (Finset.ne_of_mem_erase hj)]
  omega

section

variable (h : m.Inv)
include h

theorem Inv.lt_count {c : ControlPort} (hc : c ∈ m.control.ports) : c.port < m.count :=
  h.inRange _ (mem_map_of_mem hc)

variable {dropped : List Nat}

/-- A change of one port that control still has, and of control's own data about its ports. -/
theorem Inv.replace (hi : i ∈ m.listed) (hp : p.Ok m.issued i)
    {control : MessagePreparation} (hlisted : control.ports.map (·.port) = m.listed)
    (hcredit : ∀ c ∈ control.ports, c.Ok m.issued ((m.setPort i p).port c.port))
    {prepared : Nat} (honce : ∀ n,
      let copies := m.copies n + p.held.count n + dropped.count n
      let gone := (m.port i).held.count n + m.dropped.count n
      (n < prepared → copies = 1 + gone) ∧ (prepared ≤ n → copies = gone))
    {phase : TakePhase} {answer : Option MessageRequest}
    (hdraining : ∀ index, phase = .draining index →
      control.ports = [] ∨ control.next < control.ports.length)
    (hscanning : ∀ left, phase = .scanning (left + 1) → control.next < control.ports.length) :
    ({ m with control, phase, answer, prepared, dropped }.setPort i p).Inv where
  distinct := by
    rw [listed]
    exact hlisted ▸ h.distinct
  inRange := by
    rw [listed]
    exact hlisted ▸ h.inRange
  ports j hj := by
    rw [setPort_port]
    split
    · rename_i heq
      exact heq ▸ hp
    · exact h.ports j hj
  credit := hcredit
  removed j hj hout := by
    have hout : j ∉ m.listed := hlisted ▸ hout
    have hne : j ≠ i := fun heq => hout (heq ▸ hi)
    rw [setPort_port, if_neg hne]
    exact h.removed j hj hout
  once n := by
    have hsum := sum_setPort (m := m) (p := p) (h.inRange i hi) n
    obtain ⟨hone, hzero⟩ := honce n
    unfold copies at hone hzero ⊢
    refine ⟨fun hn => ?_, fun hn => ?_⟩
    · have := hone hn
      change ∑ j ∈ Finset.range m.count, ((m.setPort i p).port j).held.count n + dropped.count n = 1
      omega
    · have := hzero hn
      change ∑ j ∈ Finset.range m.count, ((m.setPort i p).port j).held.count n + dropped.count n = 0
      omega
  abandoned := h.abandoned
  draining := hdraining
  scanning := hscanning
  rendered := h.rendered
  fault := h.fault

/-- A change of one port that control still has, with what control dropped. -/
theorem Inv.setPort (hi : i ∈ m.listed) (hp : p.Ok m.issued i)
    (hc : ∀ c ∈ m.control.ports, c.port = i → c.Ok m.issued p)
    (hheld : ∀ n, p.held.count n + dropped.count n
      = (m.port i).held.count n + m.dropped.count n) : ({ m with dropped }.setPort i p).Inv := by
  refine h.replace hi hp rfl (fun c hcm => ?_) (fun n => ?_) h.draining h.scanning
  · rw [setPort_port]
    split
    · rename_i heq
      exact hc c hcm heq
    · exact h.credit c hcm
  · have honce := h.once n
    have hn := hheld n
    refine ⟨fun hlt => ?_, fun hle => ?_⟩
    · omega
    · omega

/-- One access of a live reader. -/
theorem Inv.moves (hi : i ∈ m.listed)
    (hp : MessagePort.Moves m.issued i (m.port i) p) : (m.setPort i p).Inv :=
  h.setPort hi hp.ok (fun c hc heq => hp.credit c (heq ▸ h.credit c hc))
    fun n => by rw [hp.held n]

theorem Inv.listed_of_alive (hi : i < m.count) (halive : (m.port i).alive = true) :
    i ∈ m.listed := by
  by_contra hout
  rw [(h.removed i hi hout).1] at halive
  cases halive

/-- The next number of the shared sequence goes to a port. -/
theorem Inv.issue (j : Nat) : { m with issued := m.issued ++ [j] }.Inv :=
  { h with
    ports := fun i hi => (h.ports i hi).issue j
    credit := fun c hc a ha => by
      obtain ⟨hrequested, hready, hretired, hout, hissued⟩ := h.credit c hc a ha
      exact ⟨hrequested, hready, hretired, hout, hissued.append j⟩
    rendered := fun e he => ⟨(h.rendered e he).1, (h.rendered e he).2.append j⟩ }

/-! ### Readers -/

theorem pushRequest_inv (hi : i ∈ m.listed)
    (hp : MessagePort.Moves m.issued i (m.port i) p) (hhand : p.hand = none) :
    (m.pushRequest i p).Inv := by
  unfold pushRequest
  split
  · exact h.moves hi hp
  rename_i a hdesired
  split
  · exact h.moves hi hp
  rename_i hidle
  simp only [Bool.or_eq_true, not_or, Bool.not_eq_true, isSome_eq_false_iff,
    isNone_iff_eq_none] at hidle
  obtain ⟨⟨-, hout⟩, hstream⟩ := hidle
  rw [hp.ok.request_none hout]
  exact h.moves hi (hp.trans (hp.ok.ask hhand hdesired hout hstream))

theorem nextAttempt_inv (hi : i ∈ m.listed) {rest : List (ReaderOp F)}
    (htodo : (m.port i).todo = .nextAttempt :: rest) :
    (m.nextAttempt i { m.port i with todo := rest }).Inv := by
  have hok := h.ports i (h.inRange i hi)
  unfold nextAttempt
  dsimp only
  split
  · have hissued : ∀ a, some (.mk (m.port i).reader.generation m.issued.length)
        = some a → IssuedTo (m.issued ++ [i]) i a := fun a ha => by
      cases ha
      exact getElem?_concat_length
    exact (h.issue i).moves hi ((hok.issue i).attempt htodo false hissued)
  · exact h.moves hi (hok.attempt htodo true nofun)

end

section Reader

variable [PcmStreamReader S F]

theorem render_inv (h : m.Inv) (hi : i ∈ m.listed)
    (hp : MessagePort.Moves m.issued i (m.port i) p) (output : List F) :
    (m.render i p output).Inv := by
  unfold render
  split
  · exact h.moves hi (hp.trans (hp.ok.answered _))
  split
  · exact h.moves hi (hp.trans (hp.ok.answered _))
  rename_i s hs
  have hdesired := (hp.ok.stream s hs).2.2
  have hlogged : { m with
      rendered := ⟨i, p.reader.desired, s.serial, s.attempt⟩ :: m.rendered }.Inv :=
    { h with
      rendered := fun e he => by
        rcases mem_cons.mp he with rfl | he
        · exact ⟨hdesired, hp.ok.desired _ hdesired⟩
        · exact h.rendered e he }
  exact hlogged.moves hi (hp.trans (hp.ok.play hs _ _))

/-- **Every access of a reader's call keeps the handshake in order.** -/
theorem readerStep_inv (h : m.Inv) (hi : i < m.count) (hstep : m.readerStep i = some m') :
    m'.Inv := by
  have hok := h.ports i hi
  have halive : (m.port i).alive = true := by
    by_contra hdead
    obtain ⟨-, hhand, htodo⟩ := hok.dead (by simpa using hdead)
    unfold readerStep at hstep
    rw [hhand, htodo] at hstep
    cases hstep
  have hlisted := h.listed_of_alive hi halive
  unfold readerStep at hstep
  split at hstep
  · rename_i s todo hhand
    cases hstep
    obtain ⟨hroom, hmoves⟩ := hok.retired hhand
    unfold retire
    rw [hroom]
    exact h.moves hlisted (hmoves _)
  · cases hstep
  · rename_i op rest hhand htodo
    cases hstep
    cases op with
    | cancel => exact h.moves hlisted (hok.cancel htodo hhand)
    | popReady =>
      have htail := hok.tail htodo nofun
      unfold perform
      dsimp only
      split
      · exact h.moves hlisted htail
      · rename_i r hready
        exact h.moves hlisted (htail.trans (htail.ok.receive halive hhand hready))
    | pushRequest => exact pushRequest_inv h hlisted (hok.tail htodo nofun) hhand
    | nextAttempt => exact nextAttempt_inv h hlisted htodo
    | render output => exact render_inv h hlisted (hok.tail htodo nofun) output
    | selectMorse =>
      have htail := hok.tail htodo nofun
      exact h.moves hlisted (htail.trans htail.ok.selectMorse)
    | rewind =>
      have htail := hok.tail htodo nofun
      exact h.moves hlisted (htail.trans htail.ok.rewind)
    | deferred =>
      have htail := hok.tail htodo nofun
      exact h.moves hlisted (htail.trans (htail.ok.answered _))
    | markDead => exact h.moves hlisted (hok.markDead htodo hhand)

end Reader

section

variable (h : m.Inv)
include h

theorem call_inv (hi : i < m.count) (halive : (m.port i).alive = true)
    (call : ReaderCall F) : (m.setPort i { m.port i with todo := call.ops }).Inv := by
  have hok := h.ports i hi
  refine h.moves (h.listed_of_alive hi halive) ⟨{ hok with dead := ?_, call := ?_, quiet := ?_ },
    fun _ hc => hc, fun _ => rfl⟩
  · intro hdead
    rw [halive] at hdead
    cases hdead
  · exact ⟨call, suffix_rfl⟩
  · cases call <;> simp_all [ReaderCall.ops, ReaderCall.cancelOps, ReaderCall.poll]

/-- The ring ends of a dropped reader go while control still has the port. -/
theorem release_inv (hi : i < m.count) (hgone : (m.port i).gone = false) : (m.release i).Inv := by
  have hlisted : i ∈ m.listed := by
    by_contra hout
    rw [(h.removed i hi hout).2.1] at hgone
    cases hgone
  unfold release
  rw [if_pos hlisted]
  exact h.moves hlisted ⟨{ h.ports i hi with }, fun _ hc => hc, fun _ => rfl⟩

/-! ### Control -/

variable {index : Nat}

/-- A dropped reader's port leaves the list once its rings are empty. -/
theorem Inv.forget {c : ControlPort}
    (hc : m.control.ports[index]? = some c) (hphase : m.phase = .retaining index)
    (hdead : (m.port c.port).alive = false ∧ (m.port c.port).gone = true
      ∧ (m.port c.port).ready = none ∧ (m.port c.port).retired = none) :
    { m with control := { m.control with ports := m.control.ports.eraseIdx index } }.Inv := by
  obtain ⟨l₁, l₂, hports, herase, -⟩ := split_at hc
  refine { h with distinct := ?_, inRange := ?_, credit := ?_, removed := ?_, draining := ?_,
                  scanning := ?_ }
  · exact h.distinct.sublist ((eraseIdx_sublist ..).map _)
  · exact fun j hj => h.inRange j ((eraseIdx_sublist ..).map _ |>.subset hj)
  · intro c' hc'
    exact h.credit c' (mem_of_mem_eraseIdx hc')
  · intro j hj hout
    by_cases heq : j = c.port
    · exact heq ▸ hdead
    refine h.removed j hj fun hin => hout ?_
    obtain ⟨c', hc', rfl⟩ := mem_map.mp hin
    refine mem_map.mpr ⟨c', ?_, rfl⟩
    rw [herase]
    rw [hports] at hc'
    rcases mem_append.mp hc' with hc' | hc'
    · exact mem_append_left _ hc'
    rcases mem_cons.mp hc' with rfl | hc'
    · exact absurd rfl heq
    · exact mem_append_right _ hc'
  · intro index' hp
    rw [hphase] at hp
    cases hp
  · intro left hp
    rw [hphase] at hp
    cases hp

theorem dropPort_inv {c : ControlPort}
    (hc : m.control.ports[index]? = some c) (hphase : m.phase = .retaining index)
    (hdead : (m.port c.port).alive = false) (hgone : (m.port c.port).gone = true) :
    (m.dropPort index c).Inv := by
  have hmem := mem_of_getElem? hc
  have hok := h.ports c.port (h.lt_count hmem)
  have hempty : ({ m with dropped := (m.port c.port).ringSerials ++ m.dropped }.setPort c.port
      (m.port c.port).emptied).Inv := by
    refine .setPort (p := (m.port c.port).emptied) h (mem_map_of_mem hmem) ?_ ?_ ?_
    · exact { hok with
        request := nofun, ready := nofun
        stream := fun s hs => ⟨(hok.stream s hs).1, rfl, (hok.stream s hs).2.2⟩
        hand := fun s hs => ⟨(hok.hand s hs).1, rfl, (hok.hand s hs).2.2⟩ }
    · intro c' hc' heq a ha
      have hcredit := h.credit c' hc' a ha
      rw [heq] at hcredit
      exact ⟨rfl, rfl, rfl, hcredit.2.2.2.1, heq ▸ hcredit.2.2.2.2⟩
    · intro n
      have hheld : (m.port c.port).emptied.held = (m.port c.port).readerSerials := rfl
      rw [hheld, held, count_append, count_append]
      omega
  unfold dropPort
  rw [if_pos hgone]
  refine hempty.forget hc hphase ?_
  rw [setPort_port, if_pos rfl]
  exact ⟨hdead, hgone, rfl, rfl⟩

theorem retain_inv (hphase : m.phase = .retaining index)
    (horder : ∀ c, m.control.ports[index]? = some c →
      (m.port c.port).alive = false → (m.port c.port).gone = true) : (m.retain index).Inv := by
  unfold retain
  split
  · rename_i c hc
    split
    · exact { h with draining := nofun, scanning := nofun }
    rename_i hdead
    have hdead : (m.port c.port).alive = false := by simpa using hdead
    exact dropPort_inv h hc hphase hdead (horder c hc hdead)
  · refine { h with draining := fun _ _ => ?_, scanning := nofun }
    dsimp only
    split
    · rcases eq_nil_or_concat m.control.ports with hnil | ⟨l, c, hl⟩
      · exact .inl hnil
      · exact .inr (by simp [hl])
    · exact .inr (by omega)

theorem drain_inv (hphase : m.phase = .draining index) : (m.drain index).Inv := by
  unfold drain
  split
  · rename_i c hc
    have hmem := mem_of_getElem? hc
    have hok := h.ports c.port (h.lt_count hmem)
    split
    · rename_i s hs
      refine h.setPort (mem_map_of_mem hmem) ?_ (fun c' hc' heq a ha => ?_) (fun n => ?_)
      · exact { hok with
          ready := fun r hr => by
            rw [(hok.ready r hr).2.1] at hs
            cases hs
          stream := fun t ht => ⟨(hok.stream t ht).1, rfl, (hok.stream t ht).2.2⟩
          hand := fun t ht => ⟨(hok.hand t ht).1, rfl, (hok.hand t ht).2.2⟩ }
      · have hretired := (h.credit c' hc' a ha).2.2.1
        rw [heq, hs] at hretired
        cases hretired
      · simp only [held, ringSerials, readerSerials, hs,
          toList_none, toList_some, append_nil, map_append,
          map_cons, map_nil, count_append, count_cons, count_nil]
        omega
    · exact { h with draining := fun _ _ => h.draining index hphase, scanning := nofun }
  · refine { h with draining := nofun, scanning := fun left hleft => ?_ }
    have hlength : m.control.ports.length = left + 1 := by
      injection hleft
    rcases h.draining index hphase with hnil | hlt
    · rw [hnil] at hlength
      cases hlength
    · exact hlt

theorem scan_inv {left : Nat} (hphase : m.phase = .scanning (left + 1))
    (horder : ∀ c, m.control.ports[m.control.next]? = some c →
      (m.port c.port).requests.isSome → (m.port c.port).retired.isNone) : (m.scan left).Inv := by
  have hnext := h.scanning left hphase
  have hc : m.control.ports[m.control.next]? = some m.control.ports[m.control.next] :=
    getElem?_eq_getElem hnext
  generalize m.control.ports[m.control.next] = c at hc
  have hmem := mem_of_getElem? hc
  have hok := h.ports c.port (h.lt_count hmem)
  unfold scan
  dsimp only
  rw [hc]
  dsimp only
  split
  · have hmod : (m.control.next + 1) % m.control.ports.length < m.control.ports.length :=
      Nat.mod_lt _ (Nat.zero_lt_of_lt hnext)
    exact { h with draining := nofun, scanning := fun _ _ => hmod }
  rename_i r hr
  obtain ⟨hready, hout, hissued⟩ := hok.request r hr
  have hretired : (m.port c.port).retired = none := by
    simpa using horder c hc (by simp [hr])
  obtain ⟨l₁, l₂, hports, -, hset⟩ := split_at hc
  refine h.replace (mem_map_of_mem hmem) ?_ ?_ (fun c' hc' => ?_) (fun n => ?_) nofun nofun
  · exact { hok with request := nofun }
  · change (m.control.ports.set _ _).map _ = m.control.ports.map _
    rw [hset, hports]
    simp
  · rw [hset] at hc'
    have hin : c' = { c with waiting := some r.attempt } ∨ c' ∈ m.control.ports := by
      rw [hports]
      simp only [mem_append, mem_cons] at hc' ⊢
      tauto
    rw [setPort_port]
    rcases hin with rfl | hin
    · rw [if_pos rfl]
      intro a ha
      cases ha
      exact ⟨rfl, hready, hretired, hout, hissued⟩
    · split
      · rename_i heq
        intro a ha
        have hcredit := h.credit c' hin a ha
        exact ⟨rfl, heq ▸ hcredit.2⟩
      · exact h.credit c' hin
  · have honce := h.once n
    change (n < m.prepared → _ + (m.port c.port).held.count n + _ = _) ∧
      (m.prepared ≤ n → _ + (m.port c.port).held.count n + _ = _)
    omega

/-- A finished preparation goes to the port that waits for it. -/
theorem complete_inv (hphase : m.phase = .idle) (attempt : MessageAttemptId)
    (result : Option (PreparedMedia S)) : (m.complete attempt result).Inv := by
  unfold complete
  split
  · exact h
  rename_i j ports hupdate
  obtain ⟨l₁, c, l₂, hports, hwaiting, rfl, hports'⟩ := updateFirst_split hupdate
  have hwaiting : c.waiting = some attempt := by simpa using hwaiting
  have hmem : c ∈ m.control.ports := hports ▸ mem_append_right _ mem_cons_self
  obtain ⟨hrequest, hready, hretired, hout, hissued⟩ := h.credit c hmem attempt hwaiting
  have hok := h.ports c.port (h.lt_count hmem)
  have hstream := hok.stream_out hout
  rw [hready]
  dsimp only
  generalize (result.bind fun media => media.playback.takeStream.1) = stream
  generalize hp : ({ m.port c.port with ready := some (Ready.mk attempt
    (stream.map (PreparedStream.mk m.prepared attempt))) } : MessagePort S F) = p
  have hpok : p.Ok m.issued c.port := by
    rw [← hp]
    exact { hok with
      request := of_none hrequest
      ready := fun r hr => by
        cases hr
        refine ⟨hout, hretired, hissued, fun s hs => ?_⟩
        obtain ⟨x, -, rfl⟩ := map_eq_some_iff.mp hs
        rfl }
  have hlisted : ports.map (·.port) = m.listed := by
    rw [hports', listed, hports]
    simp
  -- the other control ports are not at this port, and this one waits no longer
  have hcredit : ∀ c' ∈ ports, c'.Ok m.issued ((m.setPort c.port p).port c'.port) := by
    intro c' hc'
    rw [hports'] at hc'
    have hdistinct := h.distinct
    rw [listed, hports, map_append, map_cons] at hdistinct
    have hne := (nodup_middle.mp hdistinct)
    rw [nodup_cons, ← map_append] at hne
    simp only [mem_append, mem_cons] at hc'
    have hcases : c' = { c with waiting := none } ∨ c' ∈ l₁ ++ l₂ := by
      rw [mem_append]
      tauto
    rcases hcases with rfl | hc'
    · exact nofun
    have hother : c'.port ≠ c.port := fun heq =>
      hne.1 (heq ▸ mem_map_of_mem hc')
    rw [setPort_port, if_neg hother]
    refine h.credit c' ?_
    rw [hports]
    rw [mem_append] at hc' ⊢
    exact hc'.imp_right (mem_cons_of_mem _)
  refine h.replace (mem_map_of_mem hmem) hpok hlisted hcredit (fun n => ?_) ?_ ?_
  · have honce := h.once n
    have hheld : p.held.count n = (m.port c.port).held.count n
        + (stream.toList.map fun _ => m.prepared).count n := by
      rw [← hp]
      cases stream <;>
        simp [held, ringSerials, readerSerials, hready, hretired, hstream, count_cons, Nat.add_comm]
    rw [hheld]
    cases stream with
    | none =>
      change (n < m.prepared → _ + (_ + 0) + _ = _) ∧ (m.prepared ≤ n → _ + (_ + 0) + _ = _)
      omega
    | some x =>
      change (n < m.prepared + 1 → _ + (_ + [m.prepared].count n) + _ = _)
        ∧ (m.prepared + 1 ≤ n → _ + (_ + [m.prepared].count n) + _ = _)
      by_cases heq : n = m.prepared
      · have : [m.prepared].count n = 1 := by simp [heq]
        omega
      · have : [m.prepared].count n = 0 := by simp [Ne.symm heq]
        omega
  · rw [hphase]
    exact nofun
  · rw [hphase]
    exact nofun

end

theorem register_inv (h : m.Inv) (hphase : m.phase = .idle) (contentIndex : Nat) :
    (m.register contentIndex).Inv := by
  have hports : (m.register contentIndex).control.ports = m.control.ports ++ [⟨m.count, none⟩] :=
    rfl
  have hlisted : (m.register contentIndex).listed = m.listed ++ [m.count] := by
    rw [listed, hports, map_append]
    rfl
  have hold : ∀ j, j ≠ m.count → (m.register contentIndex).port j = m.port j := fun j hj => by
    unfold register
    rw [setPort_port, if_neg hj]
  have hnew : (m.register contentIndex).port m.count
      = .fresh m.control.generation contentIndex := by
    unfold register
    rw [setPort_port, if_pos rfl]
  refine
    { distinct := ?_, inRange := ?_, ports := ?_, credit := ?_, removed := ?_, once := ?_,
      abandoned := h.abandoned, draining := ?_, scanning := ?_, rendered := h.rendered,
      fault := h.fault }
  · rw [hlisted]
    refine nodup_append.mpr ⟨h.distinct, nodup_singleton _, fun a ha b hb => ?_⟩
    have := h.inRange a ha
    have := mem_singleton.mp hb
    omega
  · intro j hj
    rw [hlisted] at hj
    change j < m.count + 1
    rcases mem_append.mp hj with hj | hj
    · have := h.inRange j hj
      omega
    · have := mem_singleton.mp hj
      omega
  · intro j hj
    change j < m.count + 1 at hj
    by_cases heq : j = m.count
    · rw [heq, hnew]
      exact ⟨nofun, nofun, nofun, nofun, nofun, nofun, ⟨.rewind, nil_suffix⟩,
        by rintro (h | h) <;> cases h⟩
    · rw [hold j heq]
      exact h.ports j (by omega)
  · intro c hc
    rcases mem_append.mp hc with hc | hc
    · have hlt := h.lt_count hc
      rw [hold c.port (by omega)]
      exact h.credit c hc
    · rw [mem_singleton.mp hc]
      exact nofun
  · intro j hj hout
    rw [hlisted, mem_append, not_or, mem_singleton] at hout
    change j < m.count + 1 at hj
    rw [hold j hout.2]
    exact h.removed j (by omega) hout.1
  · intro n
    have hcopies : (m.register contentIndex).copies n = m.copies n := by
      change ∑ j ∈ Finset.range (m.count + 1), _ + _ = _
      rw [Finset.sum_range_succ, hnew]
      refine congrArg (· + m.dropped.count n) ?_
      refine (Nat.add_zero _).trans (Finset.sum_congr rfl fun j hj => ?_)
      have := Finset.mem_range.mp hj
      rw [hold j (by omega)]
    rw [hcopies]
    exact h.once n
  · intro index hp
    rw [show (m.register contentIndex).phase = m.phase from rfl, hphase] at hp
    cases hp
  · intro left hp
    rw [show (m.register contentIndex).phase = m.phase from rfl, hphase] at hp
    cases hp

variable [PcmStreamReader S F]

/-- The steps of the two sides. -/
def Step (m : Handoff S F) (a : HandoffMove S F) (m' : Handoff S F) : Prop := m.step a = some m'

/-- **An orderly step keeps the handshake in order.** -/
theorem step_inv (h : m.Inv) {a : HandoffMove S F} (horder : m.Orderly a) (hstep : Step m a m') :
    m'.Inv := by
  unfold Step step at hstep
  rw [if_neg (by rw [h.fault]; exact nofun)] at hstep
  cases a with
  | register contentIndex =>
    obtain ⟨hphase, ⟨⟩⟩ := ite_none_right_eq_some.mp hstep
    exact register_inv h hphase contentIndex
  | takeRequest =>
    obtain ⟨-, ⟨⟩⟩ := ite_none_right_eq_some.mp hstep
    exact { h with draining := nofun, scanning := nofun }
  | control =>
    dsimp only at hstep
    unfold controlStep at hstep
    change m.OrderlyAt m.phase at horder
    split at hstep
    · cases hstep
    · rename_i index hphase
      cases hstep
      rw [hphase] at horder
      exact retain_inv h hphase horder
    · rename_i index hphase
      cases hstep
      exact drain_inv h hphase
    · cases hstep
      exact { h with draining := nofun, scanning := nofun }
    · rename_i left hphase
      cases hstep
      rw [hphase] at horder
      exact scan_inv h hphase horder
  | complete attempt result =>
    obtain ⟨hphase, ⟨⟩⟩ := ite_none_right_eq_some.mp hstep
    exact complete_inv h hphase attempt result
  | call i call =>
    obtain ⟨hcall, ⟨⟩⟩ := ite_none_right_eq_some.mp hstep
    exact call_inv h hcall.1 hcall.2.1 call
  | reader i =>
    dsimp only at hstep
    split at hstep
    · rename_i hi
      exact readerStep_inv h hi hstep
    · cases hstep
  | release i =>
    obtain ⟨hdropped, ⟨⟩⟩ := ite_none_right_eq_some.mp hstep
    exact release_inv h hdropped.1 hdropped.2.2

/-- A control side before its first registration. -/
def Initial (m : Handoff S F) : Prop := ∃ generation, m = new generation

/-- **The preparation handshake.** In every state that orderly interleavings of the two sides' ring
operations reach: no assertion has failed; a stream was read only while its reader was at the
attempt the stream was prepared for, an attempt this port started; every prepared stream is in
exactly one place, a ready ring, a reader, a retired ring or among those control dropped, and none
was destroyed with a reader's ring ends. -/
theorem orderly_handshake {m : Handoff S F} (hm : Reachable Initial (Guarded Step Orderly) m) :
    m.fault = none
      ∧ (∀ e ∈ m.rendered, e.desired = some e.attempt ∧ IssuedTo m.issued e.port e.attempt)
      ∧ (∀ n < m.prepared, m.copies n = 1) ∧ m.abandoned = [] := by
  have hinv : m.Inv := by
    refine Reachable.invariant (P := Inv) ?_ ?_ hm
    · rintro _ ⟨generation, rfl⟩
      exact ⟨nodup_nil, nofun, nofun, nofun, nofun, fun _ => ⟨nofun, fun _ => rfl⟩, rfl, nofun,
        nofun, nofun, rfl⟩
    · intro m a m' h hstep
      exact step_inv h hstep.1 hstep.2
  exact ⟨hinv.fault, hinv.rendered, fun n => (hinv.once n).1, hinv.abandoned⟩

def benchMedia : PreparedMedia (TestPcmStream Nat) := .newStream ⟨[1, 2], [3], 0, false⟩

/-- A first attempt is asked for, prepared and read. -/
def benchFirst : List (HandoffMove (TestPcmStream Nat) Nat) :=
  [.register 0, .call 0 .start] ++ replicate 6 (.reader 0) ++ .takeRequest :: replicate 5 .control
    ++ [.complete ⟨7, 0⟩ (some benchMedia), .call 0 (.render [0])] ++ replicate 3 (.reader 0)

/-- A second attempt starts, is prepared and read. -/
def benchSecond : List (HandoffMove (TestPcmStream Nat) Nat) :=
  [.complete ⟨7, 1⟩ (some benchMedia), .call 0 (.render [0])] ++ replicate 3 (.reader 0)

/-- Each `take_request` runs while the reader is between two calls. -/
def orderlyMoves : List (HandoffMove (TestPcmStream Nat) Nat) :=
  benchFirst ++ .call 0 .start :: replicate 7 (.reader 0)
    ++ .takeRequest :: replicate 6 .control ++ benchSecond

/-- The second `start` runs between the drain and the pop of a `take_request`. -/
def racingMoves : List (HandoffMove (TestPcmStream Nat) Nat) :=
  benchFirst ++ .takeRequest :: replicate 4 .control
    ++ .call 0 .start :: replicate 7 (.reader 0) ++ .control :: benchSecond
    ++ .call 0 .cancel :: replicate 2 (.reader 0)

/-- Two streams were prepared and read, and the first one was dropped by control. -/
theorem orderly_handshake_bench :
    ∃ m : Handoff (TestPcmStream Nat) Nat, Reachable Initial (Guarded Step Orderly) m
      ∧ m.prepared = 2 ∧ m.dropped = [0] ∧ m.rendered.map (·.serial) = [1, 0]
      ∧ m.fault = none ∧ (∀ e ∈ m.rendered, e.desired = some e.attempt)
      ∧ (∀ n < m.prepared, m.copies n = 1) := by
  obtain ⟨m, hreach, hprepared, hdropped, hrendered⟩ :=
    exists_reachable_guarded Initial step Orderly
    orderlyMoves (some (new 7)) (by rintro _ ⟨⟩; exact ⟨7, rfl⟩) (fun m => m.prepared = 2
      ∧ m.dropped = [0] ∧ m.rendered.map (·.serial) = [1, 0]) (by decide +kernel)
  obtain ⟨hfault, hread, honce, -⟩ := orderly_handshake hreach
  exact ⟨m, hreach, hprepared, hdropped, hrendered, hfault, fun e he => (hread e he).1, honce⟩

/-- **The assertion of `retire` can fail.** A reader that retires its stream and asks again between
the drain and the pop of one `take_request` gets its next stream while its retired ring is full. -/
theorem retire_assertion_fails :
    ∃ m : Handoff (TestPcmStream Nat) Nat, Reachable Initial Step m ∧ m.fault = some .retire := by
  exact exists_reachable Initial step racingMoves (some (new 7)) (by rintro _ ⟨⟩; exact ⟨7, rfl⟩) _
    (by decide +kernel)

end Handoff

end RptAdvanced.Controller
