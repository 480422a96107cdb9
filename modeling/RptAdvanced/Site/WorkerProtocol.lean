import RptAdvanced.Lib.Fence
import RptAdvanced.Site.Worker

/-!
# The fence of a device owner

Station control fences its device owner by request words and hands replacement lists over behind
the fence. A pause may be posted at any time and may overwrite a request the owner has not seen;
everything else waits for an acknowledgement.

`Protocol d` says what holds between the words (`Fence.Sound`), the stance of control, the position
of the owner, and a replacement list on its way: staged with control, handed over in its ring,
prepared with the owner, and committed by the install flag. It has one lemma for each kind of move
of either side, which the moves of the model (`Desk.act`, `Desk.work`) are composed of.

Results: `Protocol.goto`, `.rest`, `.engage`, `.see`, `.change`, `.judge`, `.ack`, `.exit`,
`.installed` for the owner; `.stand`, `.return_`, `.post`, `.hand`, `.exchange`, `.join` for
control. `Protocol.handoffs_nil` and `Protocol.exchanging` are what the expectations of `stage` and
`commit` rest on.
-/

namespace RptAdvanced.Site.DeviceWorker

open Lib Option Bool

/-! ## Words -/

/-- Ordinary work is allowed. -/
def IsOpen (w : Word) : Prop := kind w = RUN

/-- Station control may post it at any time. -/
def Urgent (w : Word) : Prop := kind w = PAUSE ∨ kind w = SAFE

theorem kind_nextWord (previous : Word) {k : Word} (h : kind k = k) :
    kind (nextWord previous k) = k := by
  unfold kind nextWord at *
  rw [BitVec.and_or_distrib_right, h, BitVec.and_assoc]
  simp [KIND]

theorem not_urgent_of_isOpen (w : Word) (h : IsOpen w) : ¬ Urgent w := by
  unfold Urgent
  rw [h]
  decide

theorem not_urgent_prepare {w : Word} (h : kind w = PREPARE) : ¬ Urgent w := by
  unfold Urgent
  rw [h]
  decide

variable {F W : Type}

namespace Position

/-- The word the owner holds. -/
def held : Position F W → Option Word
  | .loaded word | .draining word | .answering word _ _ | .replying word _ _ | .fencing word
  | .changing word _ | .judged word _ | .acking word | .settled word | .performing word _
  | .opening word _ | .revalidating word _ | .transacting word _ => some word
  | .top | .parked | .exited | .panicked => none

/-- It acts on the word, for a fence or for a request. -/
def busy : Position F W → Bool
  | .top | .loaded _ | .settled _ | .parked | .exited | .panicked => false
  | _ => true

/-- It has taken the replacement list of its word. -/
def past : Position F W → Bool
  | .judged .. | .acking _ => true
  | _ => false

def ended : Position F W → Bool
  | .exited => true
  | _ => false

end Position

namespace Stance

/-- The call ends with the thread. -/
def finishing : Stance F W → Bool
  | .waking finishing _ => finishing
  | .joining => true
  | _ => false

end Stance

namespace Desk

def words (d : Desk F W) : Fence Word :=
  { request := d.request, acknowledged := d.acknowledged, seen := d.owner.seen,
    held := d.owner.position.held, busy := d.owner.position.busy }

/-- A fence word comes with its replacement list. -/
def Supplied (d : Desk F W) (word : Word) : Prop :=
  word ≠ d.owner.seen → kind word = PREPARE → d.handoffs.items ≠ []

/-- What a position of the owner says about its word. -/
def PositionOk (d : Desk F W) : Position F W → Prop
  | .loaded word => d.Supplied word
  | .settled word => word = d.owner.seen
  | .draining word | .fencing word | .changing word _ => kind word ≠ RUN ∧ d.Supplied word
  | .answering word _ _ | .replying word _ _ => d.Supplied word
  | .judged word _ | .acking word =>
    kind word ≠ RUN ∧ d.handoffs.items = [] ∧ (d.owner.prepared.isSome → kind word = PREPARE)
  | .performing word _ | .opening word _ | .revalidating word _ | .transacting word _ =>
    kind word = RUN
  | .panicked => False
  | .top | .parked | .exited => True

/-- The fence that control has posted is acknowledged. -/
def Acked (d : Desk F W) : Prop := d.words.Acked IsOpen

/-- What a stance of control says about the fence. -/
def StanceOk (d : Desk F W) : Stance F W → Prop
  | .idle | .entered _ => True
  | .waking finishing _ => finishing = true → kind d.request = CLOSE
  | .joining => kind d.request = CLOSE
  | .acknowledged call => d.Acked ∧ (call = .commit → kind d.request = PREPARE) ∧
      (call = .finish → kind d.request = SAFE)
  | .pushing .. => kind d.request = RUN ∧ d.control.thread = true
  | .handing _ => d.Acked ∧ d.control.thread = true
  | .exchanging => d.Acked ∧ kind d.request = PREPARE ∧ d.quality = false
  | .signalling k => d.Acked ∧
      (k = PREPARE ∧ d.control.staged.isSome ∧ d.handoffs.items ≠ [] ∧ d.control.thread = true ∨
        k = INSTALL ∧ kind d.request = PREPARE ∧ d.control.staged = none ∨
        k = RUN ∧ d.control.staged = none ∧ d.control.thread = true ∧ kind d.request ≠ PREPARE ∨
        k = CLOSE ∧ kind d.request = SAFE)
  | .panicked => False

/-- What holds between the fence, the replacement lists on their way and the two sides. -/
structure Protocol (d : Desk F W) : Prop where
  words : d.words.Sound IsOpen Urgent
  stance : d.StanceOk d.control.stance
  position : d.PositionOk d.owner.position
  staged : d.control.staged.isSome →
    kind d.request = PREPARE ∨ d.control.stance = .signalling PREPARE
  prepare : kind d.request = PREPARE →
    d.control.staged.isSome ∨ d.control.stance = .signalling INSTALL
  waiting : ∀ staged, d.control.staged = some staged →
    d.handoffs.items.head?.or d.owner.prepared =
      some { settings := staged.settings, lane := staged.lane }
  slot : d.handoffs.capacity = 1
  handoff : d.handoffs.items ≠ [] → d.control.stance = .signalling PREPARE ∨
    (d.acknowledged ≠ d.request ∧ kind d.request ≠ RUN)
  supplied : d.owner.position.past = false → d.Supplied d.request
  prepared : d.owner.prepared.isSome → d.words.Shut IsOpen ∧
    (kind d.owner.seen = PREPARE ∨ d.owner.position.past = true)
  install : d.install = true → d.owner.prepared.isSome ∧ d.control.staged = none ∧
    d.owner.position.busy = false ∧
    (d.control.stance = .signalling INSTALL ∨ d.acknowledged ≠ d.request)
  close : kind d.request = CLOSE → d.owner.position.ended = true ∨ d.control.stance.finishing = true
  closing : ∀ r, d.owner.position.held = some r → kind r = CLOSE → r = d.request
  ended : d.owner.position.ended = true → d.control.thread = false ∨
    d.control.stance.finishing = true
  thread : d.control.thread = false → d.owner.position.ended = true

variable {d : Desk F W}

theorem Acked.idle (h : d.Acked) (hd : d.Protocol) : d.owner.position.busy = false :=
  (hd.words.acked h).2.1

theorem Protocol.not_acked (hd : d.Protocol) (hbusy : d.owner.position.busy = true) :
    ¬ d.Acked := by
  intro h
  rw [h.idle hd] at hbusy
  cases hbusy

/-- While the owner acts, no committed list waits for it. -/
theorem Protocol.not_install (hd : d.Protocol) (hbusy : d.owner.position.busy = true) :
    d.install = false := by
  cases hinstall : d.install with
  | false => rfl
  | true =>
    rw [(hd.install hinstall).2.2.1] at hbusy
    cases hbusy

/-- While no fence is acknowledged control's stance depends on its request only. -/
theorem StanceOk.of_not_acked {d' : Desk F W} {s : Stance F W} (h : d.StanceOk s)
    (hnot : ¬ d.Acked) (hrequest : d'.request = d.request)
    (hcontrol : d'.control.thread = d.control.thread) : d'.StanceOk s := by
  cases s with
  | idle | entered => trivial
  | acknowledged call => exact absurd h.1 hnot
  | pushing index demand work => exact ⟨hrequest ▸ h.1, hcontrol.trans h.2⟩
  | handing | exchanging | signalling => exact absurd h.1 hnot
  | waking finishing answer => exact fun hf => hrequest ▸ h hf
  | joining => exact (congrArg kind hrequest).trans h
  | panicked => exact h

variable {p q : Position F W}

/-- At rest the owner's position depends on the words and on what waits for it. -/
theorem PositionOk.of_idle {d' : Desk F W} (h : d.PositionOk p)
    (hidle : p.busy = false) (hseen : d'.owner.seen = d.owner.seen)
    (hitems : d.handoffs.items ≠ [] → d'.handoffs.items ≠ []) : d'.PositionOk p := by
  cases p with
  | top | parked | exited => trivial
  | panicked => exact h
  | loaded word => exact fun hne hkind => hitems (h (hseen ▸ hne) hkind)
  | settled word => exact h.trans hseen.symm
  | _ => cases hidle

variable (h : d.Protocol)
include h

theorem Protocol.at_position (hp : d.owner.position = p) : d.PositionOk p := hp ▸ h.position

/-- The owner goes on with the same word. -/
theorem Protocol.goto (hq : d.owner.position = q) (hheld : p.held = q.held)
    (hbusy : p.busy = q.busy) (hpast : p.past = q.past) (hended : p.ended = q.ended)
    (hp : d.PositionOk p) : (d.goto p).Protocol := by
  subst hq
  have hwords : (d.goto p).words = d.words := by
    unfold Desk.words Desk.goto
    rw [hheld, hbusy]
  exact { h with
    words := hwords ▸ h.words
    stance := h.stance
    position := hp
    supplied := fun hnot => h.supplied (hpast ▸ hnot)
    prepared := fun hsome => by
      rw [hwords]
      exact (h.prepared hsome).imp_right (Or.imp_right fun hpast' => hpast.trans hpast')
    install := fun hinstall => by
      obtain ⟨h1, h2, h3, h4⟩ := h.install hinstall
      exact ⟨h1, h2, hbusy.trans h3, h4⟩
    close := fun hclose => (h.close hclose).imp_left hended.trans
    closing := fun r hr => h.closing r (hheld ▸ hr)
    ended := fun h' => h.ended (hended ▸ h')
    thread := fun hthread => hended.trans (h.thread hthread) }

/-- While the thread runs, control holds it, and closes it only to join it. -/
theorem Protocol.alive (hq : d.owner.position = q) (hended : q.ended = false) :
    d.control.thread ≠ false ∧ (kind d.request = CLOSE → d.control.stance.finishing = true) := by
  have hnot : d.owner.position.ended ≠ true := by
    rw [hq, hended]
    exact false_ne_true
  exact ⟨fun hthread => hnot (h.thread hthread), fun hclose => (h.close hclose).resolve_left hnot⟩

/-- The owner looks up the request, or lets its word go. -/
theorem Protocol.rest (hbusy : p.busy = false) (hended : p.ended = false) (hp : d.PositionOk p)
    (hheld : p.held = some d.request ∨ p.held = none) (hq : d.owner.position = q)
    (hfrom : q.past = false) (hended' : q.ended = false) : (d.goto p).Protocol := by
  obtain ⟨hthread, hclose⟩ := h.alive hq hended'
  subst hq
  exact { h with
    words := by
      unfold Desk.words Desk.goto
      obtain hheld | hheld := hheld
      · rw [hheld, hbusy]
        exact h.words.load
      · rw [hheld, hbusy]
        exact h.words.release
    position := hp
    supplied := fun _ => h.supplied hfrom
    prepared := fun hsome => by
      obtain ⟨hshut, hcause⟩ := h.prepared hsome
      refine ⟨⟨hshut.1, fun r hr => ?_⟩, .inl ?_⟩
      · obtain hheld | hheld := hheld
        · cases hheld.symm.trans hr
          exact hshut.1
        · cases hheld.symm.trans hr
      · exact hcause.resolve_right (by rw [hfrom]; exact false_ne_true)
    install := fun hinstall => by
      obtain ⟨h1, h2, -, h4⟩ := h.install hinstall
      exact ⟨h1, h2, hbusy, h4⟩
    close := fun hkind => .inr (hclose hkind)
    closing := fun r hr _ => by
      obtain hheld | hheld := hheld
      · cases hheld.symm.trans hr
        rfl
      · cases hheld.symm.trans hr
    ended := fun h' => absurd (hended.symm.trans h') false_ne_true
    thread := fun hnot => absurd hnot hthread }

variable {word : Word} {handoffs : RingBuffer Handoff}

/-- The owner starts to act on the word it holds. -/
theorem Protocol.engage (hheld : d.owner.position.held = some word) (hheld' : p.held = some word)
    (hbusy : p.busy = true) (hcause : kind word = RUN ↔ word = d.owner.seen)
    (hinstall : d.install = false) (hp : d.PositionOk p) (hended : p.ended = false)
    (hq : d.owner.position = q) (hfrom : q.past = false) (hended' : q.ended = false) :
    (d.goto p).Protocol := by
  obtain ⟨hthread, hclose⟩ := h.alive hq hended'
  subst hq
  exact { h with
    words := by
      unfold Desk.words Desk.goto
      rw [hheld', hbusy]
      exact h.words.engage hheld hcause
    position := hp
    supplied := fun _ => h.supplied hfrom
    prepared := fun hsome => by
      obtain ⟨hshut, hpre⟩ := h.prepared hsome
      refine ⟨⟨hshut.1, fun r hr => hshut.2 r (hheld.trans (hheld'.symm.trans hr))⟩, .inl ?_⟩
      exact hpre.resolve_right (by rw [hfrom]; exact false_ne_true)
    install := fun hnot => absurd (hinstall.symm.trans hnot) false_ne_true
    close := fun hkind => .inr (hclose hkind)
    closing := fun r hr => h.closing r (hheld.trans (hheld'.symm.trans hr))
    ended := fun h' => absurd (hended.symm.trans h') false_ne_true
    thread := fun hnot => absurd hnot hthread }

/-- The owner takes note of a request to run. -/
theorem Protocol.see (hp : d.owner.position = .loaded word) (hrun : kind word = RUN) :
    { d with owner := { d.owner with seen := word, position := .settled word } }.Protocol := by
  have hheld := congrArg Position.held hp
  have hnone : d.owner.prepared.isSome ≠ true := fun hsome =>
    (h.prepared hsome).1.2 word hheld hrun
  obtain ⟨hthread, hclose⟩ := h.alive hp rfl
  exact { h with
    words := h.words.see hheld hrun
    position := rfl
    -- a list is staged only behind a fence that the owner has seen
    supplied := fun _ _ hprepare => by
      obtain rfl | ⟨-, -, hclosed⟩ := h.words.paced (not_urgent_prepare hprepare) word hheld
      · cases hrun.symm.trans hprepare
      · exact absurd hrun hclosed
    prepared := fun hsome => absurd hsome hnone
    install := fun hinstall => absurd (h.install hinstall).1 hnone
    close := fun hkind => .inr (hclose hkind)
    closing := fun r hr => h.closing r (hheld.trans hr)
    ended := nofun
    thread := fun hnot => absurd hnot hthread }

/-- The owner takes the replacement list of its own fence, or discards what another left. -/
theorem Protocol.change {failed failed' : Bool} (hp : d.owner.position = .changing word failed)
    (hslot : handoffs.capacity = 1) (hempty : handoffs.items = []) {prepared : Option Handoff}
    (hprepared : prepared.isSome → kind word = PREPARE)
    (hnext : kind word = PREPARE → prepared = d.handoffs.items.head?.or d.owner.prepared) : { d with
      handoffs
      owner := { d.owner with prepared, position := .judged word failed' } }.Protocol := by
  have hheld := congrArg Position.held hp
  have hbusy := congrArg Position.busy hp
  have hclosed : kind word ≠ RUN := (h.at_position hp).1
  obtain ⟨hthread, hclose⟩ := h.alive hp rfl
  have hidle := h.not_install hbusy
  have hwords :
      Fence.Sound IsOpen Urgent ⟨d.request, d.acknowledged, d.owner.seen, some word, true⟩ := by
    have hsound := h.words
    unfold Desk.words at hsound
    rw [hp] at hsound
    exact hsound
  refine { h with
    words := ?_
    stance := ?_
    position := ⟨hclosed, hempty, hprepared⟩
    waiting := fun staged hsome => ?_
    slot := hslot
    handoff := fun hne => absurd hempty hne
    supplied := fun hnot => absurd hnot.symm false_ne_true
    prepared := fun hsome => ⟨?_, .inr rfl⟩
    install := fun hnot => absurd (hidle.symm.trans hnot) false_ne_true
    close := fun hkind => .inr (hclose hkind)
    closing := fun r hr => h.closing r (hheld.trans hr)
    ended := nofun
    thread := fun hnot => absurd hnot hthread }
  · exact hwords
  · exact h.stance.of_not_acked (h.not_acked hbusy) rfl rfl
  · -- what is staged was posted behind this fence, so the fence is its own
    have hkind : kind word = PREPARE := by
      obtain hkind | hs := h.staged (isSome_iff_exists.mpr ⟨staged, hsome⟩)
      · obtain hr | ⟨-, hidle, -⟩ := hwords.paced (not_urgent_prepare hkind) word rfl
        · exact hr ▸ hkind
        · cases hidle
      · have hok := h.stance
        rw [hs] at hok
        exact absurd hok.1 (h.not_acked hbusy)
    rw [hempty, hnext hkind]
    exact h.waiting staged hsome
  · exact hwords.shut_engage not_urgent_of_isOpen rfl hclosed rfl

/-- The owner reports the quality of its fence. -/
theorem Protocol.judge {failed : Bool} (hp : d.owner.position = .judged word failed) :
    ({ d with quality := failed }.goto (.acking word)).Protocol := by
  have hok := h.at_position hp
  have hgoto := h.goto (p := .acking word) hp rfl rfl rfl rfl hok
  exact { hgoto with
    stance := h.stance.of_not_acked (h.not_acked (by rw [hp]; rfl)) rfl rfl }

/-- The owner acknowledges its fence. -/
theorem Protocol.ack (hp : d.owner.position = .acking word) : { d with
      acknowledged := word
      owner := { d.owner with seen := word, position := .settled word } }.Protocol := by
  have hheld := congrArg Position.held hp
  have hbusy := congrArg Position.busy hp
  obtain ⟨hclosed, hempty, hprepared⟩ := h.at_position hp
  obtain ⟨hthread, hclose⟩ := h.alive hp rfl
  exact { h with
    words := Fence.Sound.ack (f := d.words) (show ¬ IsOpen word from hclosed)
    stance := h.stance.of_not_acked (h.not_acked hbusy) rfl rfl
    position := rfl
    handoff := fun hne => absurd hempty hne
    supplied := fun _ hne hprepare => by
      obtain rfl | ⟨-, hidle, -⟩ := h.words.paced (not_urgent_prepare hprepare) word hheld
      · exact absurd rfl hne
      · cases hidle.symm.trans hbusy
    prepared := fun hsome => by
      obtain ⟨hshut, -⟩ := h.prepared hsome
      exact ⟨⟨hshut.1, fun r hr => hshut.2 r (hheld.trans hr)⟩, .inl (hprepared hsome)⟩
    install := fun hinstall =>
      absurd ((h.install hinstall).2.2.1.symm.trans hbusy) false_ne_true
    close := fun hkind => .inr (hclose hkind)
    closing := fun r hr => h.closing r (hheld.trans hr)
    ended := nofun
    thread := fun hnot => absurd hnot hthread }

/-- The owner ends, when control waits for it. -/
theorem Protocol.exit (hp : d.owner.position = .settled word)
    (hkind : kind word = CLOSE) : (d.goto .exited).Protocol := by
  have hheld := congrArg Position.held hp
  obtain ⟨hthread, hclose⟩ := h.alive hp rfl
  exact { h with
    words := h.words.release
    position := trivial
    supplied := fun _ => h.supplied (by rw [hp]; rfl)
    prepared := fun hsome => by
      obtain ⟨hshut, hcause⟩ := h.prepared hsome
      refine ⟨⟨hshut.1, fun r hr => ?_⟩, .inl ?_⟩
      · cases hr
      · exact hcause.resolve_right (by rw [hp]; exact false_ne_true)
    install := fun hinstall => by
      obtain ⟨h1, h2, -, h4⟩ := h.install hinstall
      exact ⟨h1, h2, rfl, h4⟩
    close := fun _ => .inl rfl
    closing := nofun
    ended := fun _ => .inr (hclose (h.closing word hheld hkind ▸ hkind))
    thread := fun _ => rfl }

/-- A committed list is installed. -/
theorem Protocol.installed (hp : d.owner.position = .loaded word)
    (hinstall : d.install = true) {next : Handoff} {device : DeviceAnswer F} :
    (d.installed next device).Protocol :=
  { h with
    words := h.words
    stance := h.stance
    position := by
      have hok := h.position
      change PositionOk _ d.owner.position
      rw [hp] at hok ⊢
      exact hok
    waiting := fun staged hsome => by cases (h.install hinstall).2.1.symm.trans hsome
    prepared := nofun
    install := fun hnot => by cases hnot }

/-! ### Station control -/

/-- Control goes on in its call. -/
theorem Protocol.stand {s s' : Stance F W} (hok : d.StanceOk s') (hs : d.control.stance = s)
    (hsignalling : ∀ k, s ≠ .signalling k) (hfinishing : s'.finishing = s.finishing) :
    (d.stand s').Protocol := by
  subst hs
  exact { h with
    words := h.words
    stance := hok
    position := h.position
    staged := fun hsome => .inl ((h.staged hsome).resolve_right (hsignalling PREPARE))
    prepare := fun hkind => .inl ((h.prepare hkind).resolve_right (hsignalling INSTALL))
    handoff := fun hne => .inr ((h.handoff hne).resolve_left (hsignalling PREPARE))
    install := fun hinstall => by
      obtain ⟨h1, h2, h3, h4⟩ := h.install hinstall
      exact ⟨h1, h2, h3, .inr (h4.resolve_left (hsignalling INSTALL))⟩
    close := fun hkind => (h.close hkind).imp_right hfinishing.trans
    ended := fun hended => (h.ended hended).imp_right hfinishing.trans }

theorem Protocol.post {k : Word} (hk : kind k = k) {staged : Option Staged}
    (hfresh : d.words.Fresh (nextWord d.request k))
    (hpaced : Urgent (nextWord d.request k) ∨ d.Acked)
    (hfinishing : d.control.stance.finishing = false)
    (hstaged : staged.isSome ↔ k = PREPARE) (hitems : k = PREPARE → d.handoffs.items ≠ [])
    (hrun : k = RUN → d.handoffs.items = [] ∧ d.owner.prepared = none)
    (hkept : ∀ kept, staged = some kept → d.control.staged = some kept)
    (hinstall : d.install = true → staged = none) (answer : Answer F W) :
    ({ d with control := { d.control with staged } }.signal k answer).Protocol := by
  have hkind : kind (nextWord d.request k) = k := kind_nextWord d.request hk
  have hopen : d.handoffs.items ≠ [] ∨ d.owner.prepared ≠ none → k ≠ RUN := by
    rintro hor rfl
    exact hor.elim (fun hne => hne (hrun rfl).1) fun hne => hne (hrun rfl).2
  exact { h with
    words := h.words.post hfresh hpaced
    stance := fun hclose => hkind.trans (of_decide_eq_true hclose)
    position := h.position
    staged := fun hsome => .inl (hkind.trans (hstaged.mp hsome))
    prepare := fun hprepare => .inl (hstaged.mpr (hkind.symm.trans hprepare))
    waiting := fun kept hsome => h.waiting kept (hkept kept hsome)
    handoff := fun hne => .inr ⟨hfresh.1.symm, fun hrun' =>
      hopen (.inl hne) (hkind.symm.trans hrun')⟩
    supplied := fun _ _ hprepare => hitems (hkind.symm.trans hprepare)
    prepared := fun hsome => by
      obtain ⟨hshut, hcause⟩ := h.prepared hsome
      refine ⟨⟨fun hrun' => ?_, hshut.2⟩, hcause⟩
      exact hopen (.inr (isSome_iff_ne_none.mp hsome)) (hkind.symm.trans hrun')
    install := fun hset => by
      obtain ⟨h1, -, h3, -⟩ := h.install hset
      exact ⟨h1, hinstall hset, h3, .inr hfresh.1.symm⟩
    close := fun hclose => .inr (decide_eq_true (hkind.symm.trans hclose))
    closing := fun r hr hclose => by
      have hr' := h.closing r hr hclose
      obtain hended | hnot := h.close (hr' ▸ hclose)
      · cases hp : d.owner.position with
        | exited =>
          change d.owner.position.held = some r at hr
          rw [hp] at hr
          cases hr
        | _ =>
          rw [hp] at hended
          cases hended
      · cases hfinishing.symm.trans hnot
    ended := fun hended => .inl ((h.ended hended).resolve_right (by
      rw [hfinishing]
      exact false_ne_true)) }

/-- The ring of replacement lists is empty whenever its producer may push. -/
theorem Protocol.handoffs_nil (hacked : d.Acked)
    (hs : d.control.stance ≠ .signalling PREPARE) : d.handoffs.items = [] := by
  by_contra hne
  obtain hno | ⟨hnot, -⟩ := h.handoff hne
  · exact hs hno
  · exact hnot hacked.1

/-- `stage` hands its list over. -/
theorem Protocol.hand {settings : List DeviceBinding}
    (hs : d.control.stance = .handing settings) {staged : Staged} (hslot : handoffs.capacity = 1)
    (hitems : handoffs.items = [{ settings := staged.settings, lane := staged.lane }]) :
    { d with
      handoffs
      control := { d.control with
        staged := some staged, stance := .signalling PREPARE } }.Protocol := by
  have hok := h.stance
  rw [hs] at hok
  obtain ⟨hacked, hthread⟩ := hok
  have hne : handoffs.items ≠ [] := by
    rw [hitems]
    exact List.cons_ne_nil _ _
  exact { h with
    words := h.words
    stance := ⟨hacked, .inl ⟨rfl, rfl, hne, hthread⟩⟩
    position := h.position.of_idle (hacked.idle h) rfl fun _ => hne
    staged := fun _ => .inr rfl
    prepare := fun _ => .inl rfl
    waiting := fun kept hkept => by
      cases hkept
      rw [hitems]
      rfl
    slot := hslot
    handoff := fun _ => .inl rfl
    supplied := fun _ _ _ => hne
    install := fun hinstall => by
      obtain ⟨-, -, -, h4⟩ := h.install hinstall
      exact absurd hacked.1 (h4.resolve_left (by rw [hs]; nofun))
    close := fun hkind => .inl ((h.close hkind).resolve_right (by rw [hs]; nofun))
    ended := fun hended => .inl ((h.ended hended).resolve_right (by rw [hs]; nofun)) }

/-- What `commit` installs is what the owner has prepared. -/
theorem Protocol.exchanging (hs : d.control.stance = .exchanging) :
    ∃ staged, d.control.staged = some staged ∧
      d.owner.prepared = some { settings := staged.settings, lane := staged.lane } := by
  have hok := h.stance
  rw [hs] at hok
  obtain ⟨hacked, hkind, -⟩ := hok
  obtain ⟨staged, hstaged⟩ := isSome_iff_exists.mp
    ((h.prepare hkind).resolve_right (by rw [hs]; nofun))
  have hnext := h.waiting staged hstaged
  rw [h.handoffs_nil hacked (by rw [hs]; nofun)] at hnext
  exact ⟨staged, hstaged, hnext⟩

/-- `commit` exchanges the queues. -/
theorem Protocol.exchange (hs : d.control.stance = .exchanging)
    {control : Control F W} (hstaged : control.staged = none)
    (hthread : control.thread = d.control.thread) (hstance : control.stance = .signalling INSTALL) :
    { d with install := true, control }.Protocol := by
  have hok := h.stance
  rw [hs] at hok
  obtain ⟨hacked, hkind, -⟩ := hok
  obtain ⟨staged, -, hprepared⟩ := h.exchanging hs
  have hstance' : ∀ {P : Stance F W → Prop}, P (.signalling INSTALL) → P control.stance := by
    intro P hP
    rw [hstance]
    exact hP
  exact { h with
    words := h.words
    stance := hstance' (P := StanceOk _) ⟨hacked, .inr (.inl ⟨rfl, hkind, hstaged⟩)⟩
    position := h.position
    staged := fun hsome => by
      rw [hstaged] at hsome
      cases hsome
    prepare := fun _ => .inr hstance
    waiting := fun kept hkept => by cases hstaged.symm.trans hkept
    handoff := fun hne => absurd (h.handoffs_nil hacked (by rw [hs]; nofun)) hne
    install := fun _ => ⟨isSome_iff_exists.mpr ⟨_, hprepared⟩, hstaged, hacked.idle h, .inl hstance⟩
    close := fun hclose => absurd (hkind.symm.trans hclose) (by decide)
    ended := fun hended =>
      .inl (hthread.trans ((h.ended hended).resolve_right (by rw [hs]; nofun)))
    thread := fun hnot => h.thread (hthread.symm.trans hnot) }

/-- Control has joined the thread. -/
theorem Protocol.join (hs : d.control.stance = .joining)
    (hended : d.owner.position.ended = true) (answer : Answer F W) :
    ({ d with control := { d.control with thread := false } }.return_ answer).Protocol := by
  exact { h with
    words := h.words
    stance := trivial
    position := h.position
    staged := fun hsome => .inl ((h.staged hsome).resolve_right (by rw [hs]; nofun))
    prepare := fun hkind => .inl ((h.prepare hkind).resolve_right (by rw [hs]; nofun))
    handoff := fun hne => .inr ((h.handoff hne).resolve_left (by rw [hs]; nofun))
    install := fun hinstall => by
      obtain ⟨h1, h2, h3, h4⟩ := h.install hinstall
      exact ⟨h1, h2, h3, .inr (h4.resolve_left (by rw [hs]; nofun))⟩
    close := fun _ => .inl hended
    ended := fun _ => .inl rfl
    thread := fun _ => hended }

end Desk

end RptAdvanced.Site.DeviceWorker
