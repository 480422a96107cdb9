import RptAdvanced.Lib.Reservation
import RptAdvanced.Site.WorkerProtocol

/-!
# What a device owner and its control keep

Over the fence (`Protocol`), four more parts of the invariant of a device worker, each with what the
moves that change it need:

* `Carried`: every operation is in the request ring, in the owner's hand or in the reply ring of the
  list control holds, its place reserved by a pending flag;
* `Booked`: the log knows every operation by its ticket;
* `Handled`: every event of the log was allowed when it happened (`Lawful`), and what a prepared
  list leaves out was put to its safe level;
* `Woken`: a wake-up is on its way for whatever a parked owner has not seen.

`Inv` is all of it. `Inv.move` and `Inv.goto` are the owner's moves between two positions with the
same rings, `Inv.note` and `Inv.record` what is added to the log, `Inv.take` and `Inv.reply` the two
moves of an operation from ring to ring.
-/

namespace RptAdvanced.Site.DeviceWorker

open Lib List Event

/-! ## What the log may hold -/

/-- Control has found its fence acknowledged and has not resumed since. -/
def quiet : List Event → Bool
  | [] => false
  | .observed _ :: _ => true
  | .resumed :: _ => false
  | _ :: past => quiet past

namespace Event

/-- The event is an access to a context. -/
def touches (context : Nat) : Event → Bool
  | .opened c | .read c | .written c | .safed c _ => c == context
  | _ => false

/-- The ticket of an accepted request. -/
def accepted? : Event → Option Nat
  | .accepted ticket _ _ => some ticket
  | _ => none

def replied? : Event → Option Nat
  | .replied ticket => some ticket
  | _ => none

/-- A request for an endpoint is accepted. -/
def acceptedAt (index : Nat) : Event → Bool
  | .accepted _ i _ => i == index
  | _ => false

/-- A reply for an endpoint is received. -/
def receivedAt (index : Nat) : Event → Bool
  | .received _ i => i == index
  | _ => false

end Event

/-- What may happen after `past`: a ticket is accepted once, performed against the list it was
accepted for, and replied to once; no endpoint is opened, read or written behind an observed fence;
an output is dropped only when the last access to it was a successful write of its safe level. -/
def Allowed (past : List Event) : Event → Prop
  | .accepted ticket _ _ => ∀ index settings, .accepted ticket index settings ∉ past
  | .performed ticket index settings => .accepted ticket index settings ∈ past
  | .replied ticket =>
    (∃ index settings, .accepted ticket index settings ∈ past) ∧ .replied ticket ∉ past
  | .opened _ | .read _ | .written _ => quiet past = false
  | .dropped context output =>
    output = true → past.find? (touches context) = some (.safed context true)
  | .received .. | .safed .. | .observed _ | .resumed => True

/-- Every event of a log was allowed when it happened. -/
def Lawful : List Event → Prop
  | [] => True
  | e :: past => Allowed past e ∧ Lawful past

/-- No output is bound twice. -/
def Distinct (settings : List DeviceBinding) : Prop :=
  settings.Pairwise fun a b => a.2.isOutput = true → sameBinding a b = false

instance (settings : List DeviceBinding) : Decidable (Distinct settings) :=
  inferInstanceAs (Decidable (List.Pairwise _ _))

variable {F W : Type} {events log : List Event}

namespace Position

/-- The request the owner has in hand. -/
def hand : Position F W → List (Request F W)
  | .answering _ request _ | .replying _ request _ | .performing _ request | .opening _ request
  | .revalidating _ request | .transacting _ request => [request]
  | _ => []

theorem hand_of_idle {p : Position F W} (h : p.busy = false) : p.hand = [] := by
  cases p <;> first | rfl | cases h

end Position

namespace Event

/-- The event is about the device only. -/
def plain : Event → Bool
  | .performed .. | .opened _ | .read _ | .written _ | .safed .. | .dropped .. => true
  | _ => false

/-- The event carries no request and no reply. -/
def neutral : Event → Bool
  | .accepted .. | .replied _ | .received .. => false
  | _ => true

variable {e : Event}

theorem of_neutral (e : Event) (h : e.neutral = true) : e.accepted? = none ∧ e.replied? = none ∧
    ∀ index, e.acceptedAt index = false ∧ e.receivedAt index = false := by
  cases e <;> first | exact ⟨rfl, rfl, fun _ => ⟨rfl, rfl⟩⟩ | cases h

end Event

theorem quiet_append (h : ∀ e ∈ events, e.plain = true) : quiet (events ++ log) = quiet log := by
  induction events with
  | nil => rfl
  | cons e events ih =>
    have htail := ih fun e' he' => h e' (mem_cons_of_mem _ he')
    have hplain := h e mem_cons_self
    cases e <;> first | exact htail | cases hplain

/-- Neutral events carry no ticket and no reply. -/
theorem filterMap_neutral {β : Type} {f : Event → Option β}
    (h : ∀ e ∈ events, e.neutral = true) (hf : ∀ e : Event, e.neutral = true → f e = none) :
    (events ++ log).filterMap f = log.filterMap f := by
  rw [filterMap_append, filterMap_eq_nil_iff.mpr fun e he => hf e (h e he)]
  rfl

theorem countP_neutral {f : Event → Bool}
    (h : ∀ e ∈ events, e.neutral = true) (hf : ∀ e : Event, e.neutral = true → f e = false) :
    (events ++ log).countP f = log.countP f := by
  rw [countP_append, countP_eq_zero.mpr fun e he => by rw [hf e (h e he)]; simp, Nat.zero_add]

/-- A wake-up is on its way. -/
def Stance.wakes : Stance F W → Bool
  | .waking .. => true
  | _ => false

namespace Desk

/-- The ring of requests that control pushes to. -/
def requests (d : Desk F W) : RingBuffer (Request F W) := (d.lanes d.control.lane).requests

/-- The ring of replies that control polls. -/
def replies (d : Desk F W) : RingBuffer (Reply F W) := (d.lanes d.control.lane).replies

/-- The endpoints of all operations on their way. -/
def indices (d : Desk F W) : List Nat :=
  d.requests.items.map Request.index ++ d.owner.position.hand.map Request.index ++
    d.replies.items.map Reply.index

/-- What a stance of control says about its places. -/
def Poised (d : Desk F W) : Stance F W → Prop
  | .pushing index _ _ => d.control.pending[index]? = some false
  | .handing _ => d.indices = []
  | _ => True

/-- What a position of the owner says about its rings and endpoints. -/
def Placed (d : Desk F W) : Position F W → Prop
  | .revalidating _ request | .transacting _ request =>
    ∃ endpoint, d.owner.endpoints[request.index]? = some (some endpoint)
  | .fencing _ | .changing .. | .judged .. | .acking _ | .exited => d.requests.items = []
  | _ => True

/-- Where the operations are. -/
structure Carried (d : Desk F W) : Prop where
  lane : d.install = false → d.owner.lane = d.control.lane ∧ d.owner.settings = d.control.settings
  next : d.install = true →
    d.owner.prepared = some { settings := d.control.settings, lane := d.control.lane }
  capacity : d.requests.capacity = d.control.pending.length ∧
    d.replies.capacity = d.control.pending.length
  length : d.control.pending.length = d.control.settings.length
  endpoints : d.owner.endpoints.length = d.owner.settings.length
  reserves : Reserves d.control.pending d.indices
  staged : ∀ staged, d.control.staged = some staged →
    d.indices = [] ∧ staged.lane ≠ d.control.lane ∧ staged.lane < d.issued ∧
    d.lanes staged.lane = .new staged.settings.length ∧
    staged.pending = List.replicate staged.settings.length false
  issued : d.control.lane < d.issued
  stance : d.Poised d.control.stance
  position : d.Placed d.owner.position
  acked : d.Acked → d.requests.items = []

/-- The log knows every operation. -/
structure Booked (d : Desk F W) : Prop where
  tickets : (d.log.filterMap accepted?).Perm
    (d.requests.items.map Request.ticket ++ d.owner.position.hand.map Request.ticket ++
      d.log.filterMap replied?)
  nodup : (d.log.filterMap accepted?).Nodup
  fresh : ∀ ticket ∈ d.log.filterMap accepted?, ticket < d.tickets
  listed : ∀ request ∈ d.requests.items ++ d.owner.position.hand,
    .accepted request.ticket request.index d.control.settings ∈ d.log
  counts : ∀ index, d.log.countP (acceptedAt index) =
    d.log.countP (receivedAt index) + d.indices.count index

/-- Every opened output that a list continues no binding of was put to its safe level. -/
def Retired (d : Desk F W) (next : Handoff) : Prop :=
  ∀ (index : Nat) (endpoint : Endpoint) (binding : DeviceBinding),
    d.owner.endpoints[index]? = some (some endpoint) →
    d.owner.settings[index]? = some binding → endpoint.direction.isOutput = true →
    (next.settings.any fun b => sameBinding binding b) = false →
    d.log.find? (touches endpoint.context) = some (.safed endpoint.context true)

/-- What a position of the owner says about the list it has prepared. -/
def Cleared (d : Desk F W) (next : Handoff) : Position F W → Prop
  | .judged _ failed => failed = false → d.Retired next
  | .acking _ | .top | .loaded _ | .settled _ | .parked | .exited =>
    d.quality = false → d.Retired next
  | _ => True

/-- What was done to the device. -/
structure Handled (d : Desk F W) : Prop where
  lawful : Lawful d.log
  quiet : quiet d.log = true → d.words.Shut IsOpen
  sameIo : ∀ (index : Nat) (endpoint : Endpoint), d.owner.endpoints[index]? = some (some endpoint) →
    ∃ binding : DeviceBinding, d.owner.settings[index]? = some binding ∧
      endpoint.direction.sameIo binding.2 = true
  retired : ∀ next, d.owner.prepared = some next → d.Cleared next d.owner.position
  install : d.install = true → d.quality = false ∧ Distinct d.owner.settings

/-- A wake-up reaches the owner for everything that it has not seen. -/
structure Woken (d : Desk F W) : Prop where
  held : ∀ word, d.owner.position.held = some word →
    word = d.request ∨ d.token = true ∨ d.control.stance.wakes = true
  parked : d.owner.position = .parked → (d.owner.seen = d.request ∧ d.requests.items = []) ∨
    d.token = true ∨ d.control.stance.wakes = true

structure Inv (d : Desk F W) : Prop where
  protocol : d.Protocol
  carried : d.Carried
  booked : d.Booked
  handled : d.Handled
  woken : d.Woken

variable {d : Desk F W} {handoffs : RingBuffer Handoff} {prepared : Option Handoff}

/-! ## The owner on its way -/

variable {p q : Position F W} {d' : Desk F W} {events : List Event} {request : Request F W}

/-- The owner goes on, with the same rings, endpoints and request in hand. -/
theorem Inv.move (h : d.Inv) {acknowledged seen : Word} {quality : Bool} (hd' : d' = { d with
        acknowledged := acknowledged, quality, handoffs
        owner := { d.owner with seen, prepared, position := p } })
    (hprotocol : d'.Protocol) (hq : d.owner.position = q) (hhand : p.hand = q.hand)
    (hplaced : d.Placed p)
    (hinstall : d.install = true → prepared = d.owner.prepared ∧ quality = d.quality)
    (hacked : d'.Acked → d.requests.items = [])
    (hcleared : ∀ next, prepared = some next → d'.Cleared next p)
    (hheld : ∀ word, p.held = some word → q.held = some word ∨ word = d.request)
    (hparked : p = .parked → (seen = d.request ∧ d.requests.items = []) ∨
      d.token = true ∨ d.control.stance.wakes = true) : d'.Inv := by
  subst hd' hq
  have hindices : (d.goto p).indices = d.indices := by
    unfold indices
    rw [show (d.goto p).owner.position.hand = d.owner.position.hand from hhand]
    rfl
  refine ⟨hprotocol, ?_, ?_, ?_, ?_⟩
  · exact { h.carried with
      next := fun hset => (hinstall hset).1.trans (h.carried.next hset)
      reserves := hindices ▸ h.carried.reserves
      staged := fun staged hs => by
        obtain ⟨hnil, hrest⟩ := h.carried.staged staged hs
        exact ⟨hindices.trans hnil, hrest⟩
      stance := by
        have hstance := h.carried.stance
        cases hs : d.control.stance with
        | handing settings =>
          rw [hs] at hstance
          exact hindices.trans hstance
        | pushing index demand work =>
          rw [hs] at hstance
          exact hstance
        | _ => trivial
      position := hplaced
      acked := hacked }
  · have hhand' : (d.goto p).owner.position.hand = d.owner.position.hand := hhand
    refine { h.booked with tickets := ?_, listed := ?_, counts := fun index => ?_ }
    · exact hhand' ▸ h.booked.tickets
    · exact hhand' ▸ h.booked.listed
    · exact (h.booked.counts index).trans (by rw [← hindices]; rfl)
  · refine { h.handled with
      quiet := fun hquiet => ?_
      retired := hcleared
      install := fun hset => ?_ }
    · obtain ⟨hrequest, hold⟩ := h.handled.quiet hquiet
      refine ⟨hrequest, fun word hw => ?_⟩
      obtain hw | rfl := hheld word hw
      · exact hold word hw
      · exact hrequest
    · obtain ⟨hquality, hdistinct⟩ := h.handled.install hset
      exact ⟨(hinstall hset).2.trans hquality, hdistinct⟩
  · refine ⟨fun word hw => ?_, hparked⟩
    obtain hw | rfl := hheld word hw
    · exact h.woken.held word hw
    · exact .inl rfl

/-- The owner goes on at another position. -/
theorem Inv.goto (h : d.Inv) (hprotocol : (d.goto p).Protocol) (hq : d.owner.position = q)
    (hhand : p.hand = q.hand) (hplaced : d.Placed p)
    (hcleared : ∀ next, d.owner.prepared = some next → d.Cleared next p)
    (hheld : ∀ word, p.held = some word → q.held = some word ∨ word = d.request)
    (hparked : p = .parked → (d.owner.seen = d.request ∧ d.requests.items = []) ∨
      d.token = true ∨ d.control.stance.wakes = true) : (d.goto p).Inv :=
  h.move rfl hprotocol hq hhand hplaced (fun _ => ⟨rfl, rfl⟩) h.carried.acked hcleared hheld hparked

section

variable (heven : ∀ e ∈ events, ∀ context, e.touches context = false)
include heven

/-- Events that access no endpoint leave what was retired. -/
theorem Retired.append {next : Handoff} (h : d.Retired next)
    (howner : d'.owner.endpoints = d.owner.endpoints ∧ d'.owner.settings = d.owner.settings)
    (hlog : d'.log = events ++ d.log) : d'.Retired next := by
  intro index endpoint binding hendpoint hbinding houtput hunbound
  rw [howner.1] at hendpoint
  rw [howner.2] at hbinding
  have hnone : events.find? (touches endpoint.context) = none := by
    refine find?_eq_none.mpr fun e he => ?_
    rw [heven e he]
    exact Bool.false_ne_true
  rw [hlog, find?_append, hnone]
  exact h index endpoint binding hendpoint hbinding houtput hunbound

theorem Cleared.append {next : Handoff}
    (h : d.Cleared next p)
    (howner : d'.owner.endpoints = d.owner.endpoints ∧ d'.owner.settings = d.owner.settings)
    (hlog : d'.log = events ++ d.log) (hquality : d'.quality = d.quality) : d'.Cleared next p := by
  have hretired : ∀ hr : d.Retired next, d'.Retired next := fun hr => hr.append heven howner hlog
  cases p with
  | judged word failed => exact fun hf => hretired (h hf)
  | acking | top | loaded | settled | parked | exited =>
    exact fun hq => hretired (h (hquality.symm.trans hq))
  | _ => trivial

end

/-- Something is noted that is no request and no reply. -/
theorem Inv.note (h : d.Inv) (hneutral : ∀ e ∈ events, e.neutral = true)
    (hlawful : Lawful (events ++ d.log))
    (hquiet : quiet (events ++ d.log) = true → d.words.Shut IsOpen)
    (hcleared : ∀ next, d.owner.prepared = some next →
      (d.record events).Cleared next d.owner.position) : (d.record events).Inv := by
  refine ⟨{ h.protocol with }, { h.carried with }, ?_, ?_, { h.woken with }⟩
  · have haccepted : (d.record events).log.filterMap accepted? =
        d.log.filterMap accepted? := filterMap_neutral hneutral fun e he => (e.of_neutral he).1
    have hreplied : (d.record events).log.filterMap replied? =
        d.log.filterMap replied? := filterMap_neutral hneutral fun e he => (e.of_neutral he).2.1
    refine ⟨?_, ?_, ?_, fun request hr => mem_append_right _ (h.booked.listed request hr), ?_⟩
    · rw [haccepted, hreplied]
      exact h.booked.tickets
    · rw [haccepted]
      exact h.booked.nodup
    · rw [haccepted]
      exact h.booked.fresh
    · intro index
      have haccepted' :
        (events ++ d.log).countP (acceptedAt index) = d.log.countP (acceptedAt index) :=
        countP_neutral hneutral fun e he => ((e.of_neutral he).2.2 index).1
      have hreceived :
        (events ++ d.log).countP (receivedAt index) = d.log.countP (receivedAt index) :=
        countP_neutral hneutral fun e he => ((e.of_neutral he).2.2 index).2
      exact haccepted'.trans ((h.booked.counts index).trans (congrArg (· + _) hreceived.symm))
  · exact { h.handled with lawful := hlawful, quiet := hquiet, retired := hcleared }

/-- Something is done to the device. -/
theorem Inv.record (h : d.Inv) (hplain : ∀ e ∈ events, e.plain = true)
    (hlawful : Lawful (events ++ d.log)) (hcleared : ∀ next, d.owner.prepared = some next →
      (d.record events).Cleared next d.owner.position) : (d.record events).Inv :=
  h.note (fun e he => by cases e <;> first | rfl | cases hplain _ he) hlawful
    (fun hquiet => h.handled.quiet ((quiet_append hplain).symm.trans hquiet)) hcleared

/-- While an operation is on its way nothing is staged. -/
theorem Carried.unstaged (h : d.Carried) (hne : d.indices ≠ []) : d.control.staged = none ∧
      ∀ d' : Desk F W, d'.control = d.control → d'.Poised d.control.stance := by
  refine ⟨?_, fun d' hd' => ?_⟩
  · cases hstaged : d.control.staged with
    | none => rfl
    | some staged => exact absurd (h.staged staged hstaged).1 hne
  · have hstance := h.stance
    revert hstance
    cases d.control.stance with
    | handing => exact fun hnil => absurd hnil hne
    | pushing =>
      unfold Poised
      rw [hd']
      exact id
    | _ => exact id

/-- The owner takes a request into its hand. -/
theorem Inv.take (h : d.Inv) {requests : RingBuffer (Request F W)} (hinstall : d.install = false)
    (hpop : (d.lanes d.owner.lane).requests.pop = some (request, requests))
    (hhand : d.owner.position.hand = []) (hp : p.hand = [request])
    (hprotocol : (d.goto p).Protocol) (hplaced : ∀ d' : Desk F W, d'.Placed p)
    (hcleared : ∀ d' : Desk F W, ∀ next, d'.Cleared next p)
    (hheld : p.held = d.owner.position.held) (hparked : p ≠ .parked) (hacked : ¬ d.Acked) :
    ((d.setRequests d.owner.lane requests).goto p).Inv := by
  obtain ⟨hlane, hsettings⟩ := h.carried.lane hinstall
  rw [hlane] at hpop ⊢
  obtain ⟨hitems, hcapacity⟩ := RingBuffer.pop_items hpop
  have hitems' : d.requests.items = request :: requests.items := hitems
  generalize hd' : (d.setRequests d.control.lane requests).goto p = d'
  have hrequests : d'.requests = requests := by
    subst hd'
    simp [Desk.requests, setRequests, Desk.goto]
  have hreplies : d'.replies = d.replies := by
    subst hd'
    simp [Desk.replies, setRequests, Desk.goto]
  have hhand' : d'.owner.position.hand = [request] := by
    subst hd'
    exact hp
  have hindices : d.indices.Perm d'.indices := by
    unfold indices
    rw [hrequests, hreplies, hhand', hhand, hitems']
    simpa using perm_middle.symm
  have hne : d.indices ≠ [] := by
    unfold indices
    rw [hitems']
    simp
  obtain ⟨hunstaged, hpoised⟩ := h.carried.unstaged hne
  subst hd'
  refine ⟨{ hprotocol with }, ?_, ?_, ?_, ?_⟩
  · exact { h.carried with
      capacity := by
        rw [hrequests, hreplies]
        exact ⟨hcapacity.trans h.carried.capacity.1, h.carried.capacity.2⟩
      reserves := h.carried.reserves.perm hindices
      staged := fun staged hs => by cases hunstaged.symm.trans hs
      stance := hpoised _ rfl
      position := hplaced _
      acked := fun hack => absurd hack hacked }
  · refine ⟨?_, h.booked.nodup, h.booked.fresh, fun q hq => ?_, fun index => ?_⟩
    · rw [hrequests, hhand']
      refine h.booked.tickets.trans ?_
      change List.Perm _ (_ ++ d.log.filterMap replied?)
      rw [hitems', hhand]
      simpa using perm_middle.symm
    · rw [hrequests, hhand'] at hq
      refine h.booked.listed q ?_
      rw [hitems', hhand]
      simpa [or_comm] using hq
    · rw [← hindices.count_eq index]
      exact h.booked.counts index
  · exact { h.handled with
      quiet := fun hquiet => by
        obtain ⟨hrequest, hold⟩ := h.handled.quiet hquiet
        exact ⟨hrequest, fun word hw => hold word (hheld.symm.trans hw)⟩
      retired := fun next _ => hcleared _ next }
  · exact ⟨fun word hw => h.woken.held word (hheld.symm.trans hw),
      fun hpark => absurd hpark hparked⟩

variable {word : Word}

/-- Under a request to run, the owner has prepared nothing. -/
theorem Protocol.unprepared (h : d.Protocol)
    (hheld : d.owner.position.held = some word) (hrun : kind word = RUN) :
    d.owner.prepared = none := by
  cases hprepared : d.owner.prepared with
  | none => rfl
  | some next =>
    exact absurd hrun ((h.prepared (Option.isSome_iff_exists.mpr ⟨next, hprepared⟩)).1.2 word hheld)

theorem Protocol.not_install_of_run (h : d.Protocol)
    (hheld : d.owner.position.held = some word) (hrun : kind word = RUN) : d.install = false := by
  cases hinstall : d.install with
  | false => rfl
  | true =>
    have hsome := (h.install hinstall).1
    rw [h.unprepared hheld hrun] at hsome
    cases hsome

/-- `respond` has room for its reply. -/
theorem Inv.reply_push (h : d.Inv) (hhand : d.owner.position.hand = [request])
    (hinstall : d.install = false) (reply : Reply F W) :
    ∃ replies, (d.lanes d.owner.lane).replies.push reply = some replies ∧
      replies.items = d.replies.items ++ [reply] ∧ replies.capacity = d.replies.capacity := by
  obtain ⟨hlane, -⟩ := h.carried.lane hinstall
  have hle := h.carried.reserves.length_le
  unfold indices at hle
  rw [hhand] at hle
  simp only [length_append, length_map, length_cons, length_nil] at hle
  have hlt : d.replies.items.length < d.replies.capacity := by
    rw [h.carried.capacity.2]
    omega
  obtain ⟨replies, hpush⟩ := RingBuffer.push_isSome reply hlt
  rw [hlane]
  exact ⟨replies, hpush, RingBuffer.push_items hpush⟩

/-- The request in hand has not been replied to. -/
theorem Booked.unreplied (h : d.Booked)
    (hhand : d.owner.position.hand = [request]) : .replied request.ticket ∉ d.log := by
  intro hmem
  have hreplied : request.ticket ∈ d.log.filterMap replied? :=
    mem_filterMap.mpr ⟨_, hmem, rfl⟩
  have hnodup := h.tickets.nodup_iff.mp h.nodup
  rw [hhand] at hnodup
  refine (nodup_append.mp hnodup).2.2 _ ?_ _ hreplied rfl
  simp

section

variable (h : d.Inv)
include h

/-- `respond` pushes its reply. -/
theorem Inv.reply
    {outcome : Except ReadingQuality (Outcome F)} {device : DeviceAnswer F}
    (hp : d.owner.position = .replying word request outcome) :
    (d.reply word request outcome device).Inv := by
  have hheld := congrArg Position.held hp
  have hhand : d.owner.position.hand = [request] := by rw [hp]; rfl
  have hbusy := congrArg Position.busy hp
  have hinstall := h.protocol.not_install hbusy
  obtain ⟨hlane, -⟩ := h.carried.lane hinstall
  obtain ⟨replies, hpush, hitems, hcapacity⟩ := h.reply_push hhand hinstall
    { ticket := request.ticket, index := request.index, work := request.work,
      completedAtMs := min device.nowMs (2 ^ 64 - 1), outcome }
  have hok := h.protocol.at_position hp
  generalize hq : (if kind word = RUN then Position.top else .draining word : Position F W) = q
  have hprotocol : (d.goto q).Protocol := by
    subst hq
    split
    · exact h.protocol.rest rfl rfl trivial (.inr rfl) hp rfl rfl
    · rename_i hclosed
      exact h.protocol.goto hp rfl rfl rfl rfl ⟨hclosed, hok⟩
  have hqhand : q.hand = [] := by
    subst hq
    split <;> rfl
  have hqheld : ∀ w, q.held = some w → d.owner.position.held = some w := by
    subst hq
    intro w hw
    split at hw
    · cases hw
    · exact hheld.trans hw
  have hqparked : q ≠ .parked := by
    subst hq
    split <;> nofun
  have hqplaced : ∀ d' : Desk F W, d'.Placed q := by
    subst hq
    intro d'
    split <;> trivial
  have hqcleared : ∀ d' : Desk F W, ∀ next, d.owner.prepared = some next → d'.Cleared next q := by
    subst hq
    intro d' next hnext
    split
    · rename_i hrun
      cases (h.protocol.unprepared hheld hrun).symm.trans hnext
    · trivial
  have hresult : d.reply word request outcome device =
      ((d.setReplies d.control.lane replies).record [.replied request.ticket]).goto q := by
    unfold Desk.reply
    rw [hlane] at hpush ⊢
    simp only [hpush, hq]
  rw [hresult]
  generalize hd' :
    ((d.setReplies d.control.lane replies).record [.replied request.ticket]).goto q = d'
  have hrequests : d'.requests = d.requests := by
    subst hd'
    simp [Desk.requests, setReplies, Desk.record, Desk.goto]
  have hreplies : d'.replies = replies := by
    subst hd'
    simp [Desk.replies, setReplies, Desk.record, Desk.goto]
  have hhand' : d'.owner.position.hand = [] := by
    subst hd'
    exact hqhand
  have hindices : d.indices.Perm d'.indices := by
    unfold indices
    rw [hrequests, hreplies, hhand', hhand, hitems, map_append, map_nil, append_nil,
      append_assoc]
    exact List.Perm.append_left _ (perm_append_comm : ([request.index] ++ _).Perm _)
  have hne : d.indices ≠ [] := by
    unfold indices
    rw [hhand]
    simp
  obtain ⟨hunstaged, hpoised⟩ := h.carried.unstaged hne
  subst hd'
  refine ⟨{ hprotocol with }, ?_, ?_, ?_, ?_⟩
  · exact { h.carried with
      capacity := by
        rw [hrequests, hreplies]
        exact ⟨h.carried.capacity.1, hcapacity.trans h.carried.capacity.2⟩
      reserves := h.carried.reserves.perm hindices
      staged := fun staged hs => by cases hunstaged.symm.trans hs
      stance := hpoised _ rfl
      position := hqplaced _
      acked := fun hacked => absurd hacked (h.protocol.not_acked hbusy) }
  · refine ⟨?_, h.booked.nodup, h.booked.fresh, fun r hr => ?_, fun index => ?_⟩
    · rw [hrequests, hhand']
      refine h.booked.tickets.trans ?_
      rw [hhand]
      exact .of_eq (by simp [Desk.record, setReplies, Desk.goto, replied?])
    · rw [hrequests, hhand', append_nil] at hr
      exact mem_cons_of_mem _ (h.booked.listed r (mem_append_left _ hr))
    · rw [← hindices.count_eq index]
      exact h.booked.counts index
  · refine { h.handled with
      lawful := ⟨⟨⟨_, _, h.booked.listed request ?_⟩, h.booked.unreplied hhand⟩, h.handled.lawful⟩
      quiet := fun hquiet => ?_
      retired := hqcleared _ }
    · rw [hhand]
      exact mem_append_right _ (mem_singleton_self _)
    · obtain ⟨hrequest, hold⟩ := h.handled.quiet hquiet
      exact ⟨hrequest, fun w hw => hold w (hqheld w hw)⟩
  · exact ⟨fun w hw => h.woken.held w (hqheld w hw), fun hpark => absurd hpark hqparked⟩

/-- The owner has dealt with the replacement list of its fence. -/
theorem Inv.changed {failed failed' : Bool}
    (hp : d.owner.position = .changing word failed)
    (hslot : handoffs.capacity = 1) (hempty : handoffs.items = [])
    (hprepared : prepared.isSome → kind word = PREPARE)
    (hnext : kind word = PREPARE → prepared = d.handoffs.items.head?.or d.owner.prepared)
    (hcleared : ∀ next, prepared = some next → failed' = false → d.Retired next) : { d with
      handoffs
      owner := { d.owner with prepared, position := .judged word failed' } }.Inv := by
  have hinstall := h.protocol.not_install (by rw [hp]; rfl)
  have hplaced := h.carried.position
  rw [hp] at hplaced
  exact h.move rfl (h.protocol.change hp hslot hempty hprepared hnext) hp rfl hplaced
    (fun hnot => absurd (hinstall.symm.trans hnot) Bool.false_ne_true) h.carried.acked hcleared
    (fun _ => .inl) nofun

/-- The owner reports the quality of its fence. -/
theorem Inv.judge {failed : Bool} (hp : d.owner.position = .judged word failed) :
    ({ d with quality := failed }.goto (.acking word)).Inv := by
  have hinstall := h.protocol.not_install (by rw [hp]; rfl)
  have hplaced := h.carried.position
  have hretired := h.handled.retired
  rw [hp] at hplaced hretired
  exact h.move rfl (h.protocol.judge hp) hp rfl hplaced
    (fun hnot => absurd (hinstall.symm.trans hnot) Bool.false_ne_true) h.carried.acked hretired
    (fun _ => .inl) nofun

/-- The owner acknowledges its fence. -/
theorem Inv.ack (hp : d.owner.position = .acking word) : { d with
      acknowledged := word
      owner := { d.owner with seen := word, position := .settled word } }.Inv := by
  have hplaced := h.carried.position
  have hretired := h.handled.retired
  rw [hp] at hplaced hretired
  exact h.move rfl (h.protocol.ack hp) hp rfl trivial (fun _ => ⟨rfl, rfl⟩) (fun _ => hplaced)
    hretired (fun _ => .inl) nofun

/-- The owner takes note of a request to run. -/
theorem Inv.see (hp : d.owner.position = .loaded word) (hrun : kind word = RUN) :
    { d with owner := { d.owner with seen := word, position := .settled word } }.Inv := by
  have hretired := h.handled.retired
  rw [hp] at hretired
  exact h.move rfl (h.protocol.see hp hrun) hp rfl trivial (fun _ => ⟨rfl, rfl⟩) h.carried.acked
    hretired (fun _ => .inl) nofun

/-- The owner compares a request with the last one. -/
theorem Inv.compare (hp : d.owner.position = .loaded word)
    (hinstall : d.install = false) : (d.compare word).Inv := by
  have hheld := congrArg Position.held hp
  have hok := h.protocol.at_position hp
  have hretired := h.handled.retired
  rw [hp] at hretired
  unfold Desk.compare
  by_cases hseen : word = d.owner.seen
  · rw [if_pos hseen]
    exact h.goto (h.protocol.goto hp rfl rfl rfl rfl hseen) hp rfl trivial hretired (fun _ => .inl)
      nofun
  rw [if_neg hseen]
  by_cases hrun : kind word = RUN
  · rw [if_pos hrun]
    exact h.see hp hrun
  rw [if_neg hrun]
  exact h.goto (h.protocol.engage hheld rfl rfl
    ⟨fun hnot => absurd hnot hrun, fun hnot => absurd hnot hseen⟩ hinstall ⟨hrun, hok⟩ rfl hp rfl
    rfl) hp rfl trivial (fun _ _ => trivial) (fun _ => .inl) nofun

end

end Desk

end RptAdvanced.Site.DeviceWorker
