import RptAdvanced.Site.WorkerLedger

/-!
# Every operation of station control keeps the invariant of its device worker

The control calls, operation by operation. `Orderly` is what a step must meet: the request word it
posts is not one the owner still knows (a word returns after 2^61 requests), and a `commit` replaces
no list that binds an output twice.

Results: `Inv.push`, `Inv.poll`, `Inv.hand`, `Inv.exchange`, `Inv.post`, `Inv.conclude`,
**`act_inv`**.
-/

namespace RptAdvanced.Site.DeviceWorker

open Lib List Option RingBuffer

variable {F W : Type}

namespace Desk

variable {d : Desk F W}

/-! ## Every operation of control -/

variable {s s' : Stance F W} {d' : Desk F W} {index : Nat} {demand : Option F}

/-- No wake-up is owed by a call that has not posted anything. -/
theorem Woken.call (h : d.Woken) (hs : d.control.stance = s)
    (hwakes : s.wakes = false) (hrequest : d'.request = d.request) (howner : d'.owner = d.owner)
    (htoken : d'.token = d.token)
    (hempty : d.requests.items = [] → d'.requests.items = []) : d'.Woken := by
  have hnot : ¬ d.control.stance.wakes = true := by
    rw [hs, hwakes]
    exact Bool.false_ne_true
  constructor <;> rw [hrequest, howner, htoken]
  · exact fun word hw => (h.held word hw).imp_right fun hor => .inl (hor.resolve_right hnot)
  · exact fun hparked => (h.parked hparked).imp (fun hseen => ⟨hseen.1, hempty hseen.2⟩)
      fun hor => .inl (hor.resolve_right hnot)

/-- Control goes on in its call. -/
theorem Inv.stand (h : d.Inv) (hprotocol : (d.stand s').Protocol) (hpoised : d.Poised s')
    (hs : d.control.stance = s) (hwakes : s.wakes = false) : (d.stand s').Inv :=
  ⟨hprotocol, { h.carried with stance := hpoised }, { h.booked with }, { h.handled with },
    h.woken.call hs hwakes rfl rfl rfl id⟩

theorem Inv.return_ (h : d.Inv) (hs : d.control.stance = s) (hsignalling : ∀ k, s ≠ .signalling k)
    (hfinishing : s.finishing = false) (hwakes : s.wakes = false) (answer : Answer F W) :
    (d.return_ answer).Inv := by
  have hidle : (d.stand .idle).Inv :=
    h.stand (h.protocol.stand trivial hs hsignalling hfinishing.symm) trivial hs hwakes
  exact ⟨{ hidle.protocol with }, { hidle.carried with }, { hidle.booked with },
    { hidle.handled with }, { hidle.woken with }⟩

/-- `submit`, up to its push. -/
theorem Inv.submit (h : d.Inv) {work : W}
    (hs : d.control.stance = .entered (.submit index demand work)) :
    (d.submit index demand work).Inv := by
  unfold Desk.submit
  split
  · exact h.return_ hs nofun rfl rfl _
  rename_i hnot
  simp only [not_or, Bool.not_eq_false, ne_eq, not_not] at hnot
  obtain ⟨hthread, hrun, hpending, -⟩ := hnot
  exact h.stand (h.protocol.stand ⟨hrun, hthread⟩ hs nofun rfl) hpending hs rfl

/-- Under a request to run the owner has nothing that a fence would leave it. -/
theorem Inv.placed_of_run (h : d.Inv) (hrun : kind d.request = RUN)
    (hthread : d.control.thread = true)
    (hfinishing : d.control.stance.finishing = false)
    (howner : d'.owner = d.owner) : d'.Placed d.owner.position := by
  have hplaced := h.carried.position
  have hfence : ∀ {word}, d.owner.position.held = some word → d.owner.position.busy = true →
      kind word = RUN := by
    intro word hheld hbusy
    by_contra hclosed
    exact (h.protocol.words.shut_engage not_urgent_of_isOpen hheld hclosed hbusy).1 hrun
  have hok := h.protocol.position
  cases hp : d.owner.position with
  | fencing word | changing word failed | judged word failed | acking word =>
    rw [hp] at hok
    exact absurd (hfence (by rw [hp]; rfl) (by rw [hp]; rfl)) hok.1
  | exited =>
    obtain hnot | hnot := h.protocol.ended (by rw [hp]; rfl)
    · cases hnot.symm.trans hthread
    · cases hfinishing.symm.trans hnot
  | revalidating word request | transacting word request =>
    rw [hp] at hplaced
    change ∃ e, d'.owner.endpoints[request.index]? = _
    rw [howner]
    exact hplaced
  | _ => trivial

/-- Under a request to run nothing is staged. -/
theorem Protocol.unstaged (h : d.Protocol) (hrun : kind d.request = RUN)
    (hs : d.control.stance ≠ .signalling PREPARE) : d.control.staged = none := by
  cases hstaged : d.control.staged with
  | none => rfl
  | some staged =>
    obtain hkind | hno := h.staged (isSome_iff_exists.mpr ⟨staged, hstaged⟩)
    · cases hrun.symm.trans hkind
    · exact absurd hno hs

/-- `submit` has room for its request. -/
theorem Inv.push_room (h : d.Inv) (hpending : d.control.pending[index]? = some false)
    (request : Request F W) :
    ∃ requests, (d.lanes d.control.lane).requests.push request = some requests ∧
      requests.items = d.requests.items ++ [request] ∧ requests.capacity = d.requests.capacity := by
  have hlt := h.carried.reserves.length_lt hpending
  unfold indices at hlt
  simp only [length_append, length_map] at hlt
  have hroom : d.requests.items.length < d.requests.capacity := by
    rw [h.carried.capacity.1]
    omega
  obtain ⟨requests, hpush⟩ := push_isSome request hroom
  exact ⟨requests, hpush, push_items hpush⟩

/-- `submit` pushes its request. -/
theorem Inv.push (h : d.Inv) {work : W}
    (hs : d.control.stance = .pushing index demand work) : (d.push index demand work).Inv := by
  have hok := h.protocol.stance
  have hpending := h.carried.stance
  rw [hs] at hok hpending
  obtain ⟨hrun, hthread⟩ := hok
  obtain ⟨requests, hpush, hitems, hcapacity⟩ := h.push_room hpending
    { ticket := d.tickets, index, demand, work }
  have hunstaged := h.protocol.unstaged hrun (by rw [hs]; simp)
  have hprotocol : (d.stand (.waking false (.flag true))).Protocol :=
    h.protocol.stand (fun h => by cases h) hs nofun rfl
  have hplaced : ∀ {d' : Desk F W}, d'.owner = d.owner → d'.Placed d.owner.position :=
    h.placed_of_run hrun hthread (by rw [hs]; rfl)
  generalize hd' : d.push index demand work = d'
  unfold Desk.push at hd'
  rw [hpush] at hd'
  have hrequests : d'.requests = requests := by
    subst hd'
    simp [Desk.requests, setRequests]
  have hreplies : d'.replies = d.replies := by
    subst hd'
    simp [Desk.replies, setRequests]
  have hhand : d'.owner.position.hand = d.owner.position.hand := by
    subst hd'
    rfl
  have hindices : (index :: d.indices).Perm d'.indices := by
    unfold indices
    rw [hrequests, hreplies, hhand, hitems, map_append, append_assoc, append_assoc,
      append_assoc]
    exact perm_middle.symm
  have hfresh : d.tickets ∉ d.log.filterMap Event.accepted? := fun hmem =>
    absurd (h.booked.fresh _ hmem) (Nat.lt_irrefl _)
  subst hd'
  refine ⟨{ hprotocol with }, ?_, ?_, ?_, ⟨fun _ _ => .inr (.inr rfl), fun _ => .inr (.inr rfl)⟩⟩
  · exact { h.carried with
      capacity := by
        rw [hrequests, hreplies]
        have hlength : (d.control.pending.set index true).length = d.control.pending.length :=
          length_set ..
        exact ⟨(hcapacity.trans h.carried.capacity.1).trans hlength.symm,
          h.carried.capacity.2.trans hlength.symm⟩
      length := (length_set ..).trans h.carried.length
      reserves := (h.carried.reserves.reserve hpending).perm hindices
      staged := fun staged hstaged => by cases hunstaged.symm.trans hstaged
      stance := trivial
      position := hplaced rfl
      acked := fun hacked => absurd hrun hacked.2 }
  · refine ⟨?_, ?_, ?_, fun request hr => ?_, fun i => ?_⟩
    · rw [hrequests, hhand, hitems]
      refine (h.booked.tickets.cons d.tickets).trans ?_
      rw [map_append, append_assoc, append_assoc, append_assoc]
      exact perm_middle.symm
    · exact nodup_cons.mpr ⟨hfresh, h.booked.nodup⟩
    · intro ticket hticket
      obtain rfl | hticket := mem_cons.mp hticket
      · exact Nat.lt_succ_self _
      · exact Nat.lt_succ_of_lt (h.booked.fresh ticket hticket)
    · rw [hrequests, hhand, hitems, mem_append, mem_append, mem_singleton] at hr
      obtain (hr | rfl) | hr := hr
      · exact mem_cons_of_mem _ (h.booked.listed request (mem_append_left _ hr))
      · exact mem_cons_self
      · exact mem_cons_of_mem _ (h.booked.listed request (mem_append_right _ hr))
    · rw [← hindices.count_eq i, count_cons]
      have hcounts := h.booked.counts i
      rw [countP_cons]
      rw [hcounts, Nat.add_assoc]
      rfl
  · exact { h.handled with
      lawful := ⟨fun i settings hmem => hfresh (mem_filterMap.mpr ⟨_, hmem, rfl⟩), h.handled.lawful⟩
      retired := fun next hnext => (h.handled.retired next hnext).append
        (fun e he context => by
          cases mem_singleton.mp he
          rfl) ⟨rfl, rfl⟩
        (show _ = [.accepted d.tickets index d.control.settings] ++ d.log from rfl) rfl }

/-- What a position says about the rings depends on the requests and the owner only. -/
theorem Placed.congr {p : Position F W} (h : d.Placed p)
    (hrequests : d'.requests = d.requests) (howner : d'.owner.endpoints = d.owner.endpoints) :
    d'.Placed p := by
  cases p with
  | revalidating | transacting => exact h.imp fun e he => by rw [howner]; exact he
  | fencing | changing | judged | acking | exited =>
    exact (congrArg items hrequests).trans h
  | _ => trivial

/-- `poll` takes a reply and gives its place back. -/
theorem Inv.poll (h : d.Inv) (hs : d.control.stance = .entered .poll) : d.poll.Inv := by
  unfold Desk.poll
  cases hpop : (d.lanes d.control.lane).replies.pop with
  | none => exact h.return_ hs nofun rfl rfl _
  | some entry =>
    obtain ⟨reply, replies⟩ := entry
    obtain ⟨hitems, hcapacity⟩ := pop_items hpop
    change d.replies.items = reply :: replies.items at hitems
    have hperm : d.indices.Perm (reply.index :: (d.requests.items.map Request.index ++
        d.owner.position.hand.map Request.index ++ replies.items.map Reply.index)) := by
      unfold indices
      rw [hitems]
      exact perm_middle
    have hreserves := h.carried.reserves.perm hperm
    have hlt : reply.index < d.control.pending.length := hreserves.lt mem_cons_self
    obtain ⟨hunstaged, -⟩ := h.carried.unstaged fun hnil => by
      rw [hnil] at hperm
      exact absurd hperm.nil_eq.symm (cons_ne_nil _ _)
    have hidle : (d.stand .idle).Inv :=
      h.stand (h.protocol.stand trivial hs nofun rfl) trivial hs rfl
    simp only [if_pos hlt]
    generalize hd' : ({ d.setReplies d.control.lane replies with control := _, log := _ } :
      Desk F W) = d'
    have hrequests : d'.requests = d.requests := by
      subst hd'
      simp [Desk.requests, setReplies]
    have hreplies : d'.replies = replies := by
      subst hd'
      simp [Desk.replies, setReplies]
    have hindices : d'.indices = d.requests.items.map Request.index ++
        d.owner.position.hand.map Request.index ++ replies.items.map Reply.index := by
      unfold indices
      rw [hrequests, hreplies]
      subst hd'
      rfl
    have hplaced : d'.Placed d.owner.position := by
      refine h.carried.position.congr hrequests ?_
      subst hd'
      rfl
    subst hd'
    refine ⟨{ hidle.protocol with }, ?_, ?_, ?_, ?_⟩
    · exact { h.carried with
        capacity := by
          rw [hrequests, hreplies]
          have hlength : (d.control.pending.set reply.index false).length =
              d.control.pending.length := length_set ..
          exact ⟨h.carried.capacity.1.trans hlength.symm,
            (hcapacity.trans h.carried.capacity.2).trans hlength.symm⟩
        length := (length_set ..).trans h.carried.length
        reserves := by
          rw [hindices]
          exact hreserves.release
        staged := fun staged hstaged => by cases hunstaged.symm.trans hstaged
        stance := trivial
        position := hplaced
        acked := fun hacked => by
          rw [hrequests]
          exact h.carried.acked hacked }
    · refine ⟨?_, h.booked.nodup, h.booked.fresh, fun request hr => ?_, fun i => ?_⟩
      · rw [hrequests]
        exact h.booked.tickets
      · rw [hrequests] at hr
        exact mem_cons_of_mem _ (h.booked.listed request hr)
      · have hcounts := h.booked.counts i
        rw [hperm.count_eq i, count_cons, ← hindices] at hcounts
        change d.log.countP (Event.acceptedAt i) =
          List.countP _ (.received reply.ticket reply.index :: d.log) + _
        rw [hcounts, countP_cons]
        change _ + (_ + _) = _ + (if (reply.index == i) = true then 1 else 0) + _
        omega
    · exact { h.handled with
        lawful := ⟨trivial, h.handled.lawful⟩
        retired := fun next hnext => (h.handled.retired next hnext).append
          (fun e he context => by
            cases mem_singleton.mp he
            rfl) ⟨rfl, rfl⟩
          (show _ = [.received reply.ticket reply.index] ++ d.log from rfl) rfl }
    · refine ⟨hidle.woken.held, fun hparked => ?_⟩
      rw [hrequests]
      exact hidle.woken.parked hparked

/-- `stage` pushes its handoff. -/
theorem Inv.hand (h : d.Inv) {settings : List DeviceBinding}
    (hs : d.control.stance = .handing settings) : (d.hand settings).Inv := by
  have hok := h.protocol.stance
  have hidle := h.carried.stance
  rw [hs] at hok hidle
  have hnil := h.protocol.handoffs_nil hok.1 (by rw [hs]; nofun)
  have hslot := h.protocol.slot
  obtain ⟨handoffs, hpush⟩ := push_isSome (r := d.handoffs)
    ({ settings, lane := d.issued } : Handoff) (by rw [hnil, hslot]; exact Nat.one_pos)
  obtain ⟨hitems, hcapacity⟩ := push_items hpush
  have hlane : d.control.lane ≠ d.issued := Nat.ne_of_lt h.carried.issued
  generalize hd' : d.hand settings = d'
  unfold Desk.hand at hd'
  rw [hpush] at hd'
  generalize hstaged :
    (⟨settings, d.issued, List.replicate settings.length false⟩ : Staged) = staged
    at hd'
  have hhanded : handoffs.items = [{ settings := staged.settings, lane := staged.lane }] := by
    rw [hitems, hnil, ← hstaged]
    rfl
  have hprotocol := h.protocol.hand hs (hcapacity.trans hslot) hhanded
  have hlanes : d'.lanes d.control.lane = d.lanes d.control.lane := by
    subst hd'
    exact Function.update_of_ne hlane _ _
  have hrequests : d'.requests = d.requests := by
    subst hd'
    exact congrArg Lanes.requests hlanes
  have hreplies : d'.replies = d.replies := by
    subst hd'
    exact congrArg Lanes.replies hlanes
  have hindices : d'.indices = d.indices := by
    unfold indices
    rw [hrequests, hreplies]
    subst hd'
    rfl
  have hplaced : d'.Placed d.owner.position := by
    refine h.carried.position.congr hrequests ?_
    subst hd'
    rfl
  subst hd'
  refine ⟨{ hprotocol with }, ?_, ?_, { h.handled with },
    h.woken.call hs rfl rfl rfl rfl fun hnil => by rw [hrequests]; exact hnil⟩
  · exact { h.carried with
      capacity := by
        rw [hrequests, hreplies]
        exact h.carried.capacity
      reserves := by
        rw [hindices]
        exact h.carried.reserves
      staged := fun kept hkept => by
        cases hkept
        subst hstaged
        refine ⟨hindices.trans hidle, hlane.symm, Nat.lt_succ_self _, ?_, rfl⟩
        exact Function.update_self ..
      issued := Nat.lt_succ_of_lt h.carried.issued
      stance := trivial
      position := hplaced
      acked := fun hacked => by
        rw [hrequests]
        exact h.carried.acked hacked }
  · refine { h.booked with tickets := ?_, listed := ?_, counts := fun i => ?_ }
    · rw [hrequests]
      exact h.booked.tickets
    · rw [hrequests]
      exact h.booked.listed
    · rw [hindices]
      exact h.booked.counts i

/-- `commit` exchanges its queues for those of the prepared list. -/
theorem Inv.exchange (h : d.Inv) (hs : d.control.stance = .exchanging)
    (hdistinct : Distinct d.control.settings) : d.exchange.Inv := by
  have hok := h.protocol.stance
  rw [hs] at hok
  obtain ⟨hacked, -, hquality⟩ := hok
  obtain ⟨staged, hstaged, hprepared⟩ := h.protocol.exchanging hs
  obtain ⟨hnil, -, hissued, hlanes, hpending⟩ := h.carried.staged staged hstaged
  have hinstall : d.install = false := by
    cases hinstall : d.install with
    | false => rfl
    | true =>
      obtain hno | hno := (h.protocol.install hinstall).2.2.2
      · rw [hs] at hno
        cases hno
      · exact absurd hacked.1 hno
  have hhand : d.owner.position.hand = [] := Position.hand_of_idle (hacked.idle h.protocol)
  have hold : d.requests.items = [] := by
    unfold indices at hnil
    simp only [append_eq_nil_iff, map_eq_nil_iff] at hnil
    exact hnil.1.1
  unfold Desk.exchange
  rw [hstaged]
  simp only
  generalize hd' : ({ d with install := _, control := _ } : Desk F W) = d'
  have hrequests : d'.requests = .new staged.settings.length := by
    subst hd'
    exact congrArg Lanes.requests hlanes
  have hreplies : d'.replies = .new staged.settings.length := by
    subst hd'
    exact congrArg Lanes.replies hlanes
  have hindices : d'.indices = [] := by
    unfold indices
    rw [hrequests, hreplies]
    subst hd'
    rw [hhand]
    rfl
  have hlength : staged.pending.length = staged.settings.length := by
    rw [hpending, length_replicate]
  have hempty : d'.requests.items = [] := by
    rw [hrequests]
    rfl
  have hplaced : d'.Placed d.owner.position := by
    have hidle := hacked.idle h.protocol
    cases hp : d.owner.position with
    | exited => exact hempty
    | top | loaded | settled | parked | panicked => trivial
    | _ =>
      rw [hp] at hidle
      cases hidle
  subst hd'
  refine ⟨h.protocol.exchange hs rfl rfl rfl, ?_, ?_, ?_,
    h.woken.call hs rfl rfl rfl rfl fun _ => hempty⟩
  · exact { h.carried with
      lane := nofun
      next := fun _ => hprepared
      capacity := by
        rw [hrequests, hreplies]
        exact ⟨hlength.symm, hlength.symm⟩
      length := hlength
      reserves := by
        rw [hindices]
        rw [hpending]
        exact reserves_clear _
      staged := nofun
      issued := hissued
      stance := trivial
      position := hplaced
      acked := fun _ => hempty }
  · refine { h.booked with tickets := ?_, listed := fun request hr => ?_, counts := fun i => ?_ }
    · have htickets := h.booked.tickets
      rw [hold] at htickets
      rw [hempty]
      exact htickets
    · rw [hempty] at hr
      rw [hhand] at hr
      cases hr
    · rw [hindices]
      exact (h.booked.counts i).trans (by rw [hnil])
  · exact { h.handled with
      install := fun _ => ⟨hquality, (h.carried.lane hinstall).2 ▸ hdistinct⟩ }

theorem Inv.signal (h : d.Inv) {k : Word} {staged : Option Staged} {answer : Answer F W}
    (hk : kind k = k) (hfresh : d.words.Fresh (nextWord d.request k))
    (hkept : ∀ kept, staged = some kept → d.control.staged = some kept)
    (hquiet : quiet d.log = true → k ≠ RUN) (hprotocol :
      ({ d with control := { d.control with staged } }.signal k answer).Protocol) :
    ({ d with control := { d.control with staged } }.signal k answer).Inv := by
  refine ⟨hprotocol, ?_, { h.booked with }, ?_,
    ⟨fun _ _ => .inr (.inr rfl), fun _ => .inr (.inr rfl)⟩⟩
  · exact { h.carried with
      staged := fun kept hsome => h.carried.staged kept (hkept kept hsome)
      stance := trivial
      acked := fun hacked => absurd hacked.1.symm hfresh.1 }
  · refine { h.handled with quiet := fun hset => ?_ }
    refine ⟨fun hopen => ?_, (h.handled.quiet hset).2⟩
    exact hquiet hset ((kind_nextWord d.request hk).symm.trans hopen)

/-- `pause` may be called at any time. -/
theorem Inv.pause (h : d.Inv) {safe : Bool} (hs : d.control.stance = .entered (.pause safe))
    (hfresh : d.words.Fresh (nextWord d.request (if safe then SAFE else PAUSE))) :
    ({ d with control := { d.control with staged := none } }.signal (if safe then SAFE else PAUSE)
      .unit).Inv := by
  have hkind : kind (if safe then SAFE else PAUSE) = if safe then SAFE else PAUSE := by
    cases safe <;> decide
  have hurgent : Urgent (nextWord d.request (if safe then SAFE else PAUSE)) := by
    unfold Urgent
    rw [kind_nextWord d.request hkind]
    cases safe
    · exact .inl rfl
    · exact .inr rfl
  refine h.signal hkind hfresh nofun (fun _ => by cases safe <;> decide) ?_
  refine h.protocol.post hkind hfresh (.inl hurgent) (by rw [hs]; rfl)
    ⟨fun hno => (by cases hno), fun hno => ?_⟩ (fun hno => ?_) (fun hno => ?_)
    (fun _ hno => by cases hno) (fun _ => rfl) _
  · exact absurd hno (by cases safe <;> decide)
  · exact absurd hno (by cases safe <;> decide)
  · exact absurd hno (by cases safe <;> decide)

/-- Behind a fence that is no preparation the owner has prepared nothing. -/
theorem Protocol.unprepared_of_acked (h : d.Protocol) (hacked : d.Acked)
    (hkind : kind d.request ≠ PREPARE) : d.owner.prepared = none := by
  cases hprepared : d.owner.prepared with
  | none => rfl
  | some next =>
    obtain ⟨-, hcause⟩ := h.prepared (isSome_iff_exists.mpr ⟨next, hprepared⟩)
    obtain ⟨hseen, hidle, -⟩ := h.words.acked hacked
    obtain hprepare | hpast := hcause
    · exact absurd ((congrArg kind hseen).symm.trans hprepare) hkind
    · change d.owner.position.busy = false at hidle
      cases hp : d.owner.position with
      | judged word failed | acking word =>
        rw [hp] at hidle
        cases hidle
      | _ =>
        rw [hp] at hpast
        cases hpast

section

variable (h : d.Inv)
include h

/-- A request is posted behind an acknowledged fence, with what is staged as it is. -/
theorem Inv.post_acked {k : Word} (hk : kind k = k)
    (hfresh : d.words.Fresh (nextWord d.request k)) (hacked : d.Acked)
    (hfinishing : d.control.stance.finishing = false)
    (hstaged : d.control.staged.isSome ↔ k = PREPARE) (hitems : k = PREPARE → d.handoffs.items ≠ [])
    (hrun : k = RUN → quiet d.log = false ∧ d.handoffs.items = [] ∧ d.owner.prepared = none)
    (answer : Answer F W) : (d.signal k answer).Inv := by
  have hprotocol : ({ d with control := { d.control with staged := d.control.staged } }.signal k
      answer).Protocol :=
    h.protocol.post hk hfresh (.inr hacked) hfinishing hstaged hitems (fun hset => (hrun hset).2)
      (fun _ hkept => hkept) (fun hset => (h.protocol.install hset).2.1) answer
  have hinv : ({ d with control := { d.control with staged := d.control.staged } }.signal k
      answer).Inv := by
    refine h.signal hk hfresh (fun _ hkept => hkept) (fun hquiet hset => ?_) hprotocol
    cases (hrun hset).1.symm.trans hquiet
  exact hinv

/-- Control notes that it resumes. -/
theorem Inv.resumed : (d.record [.resumed]).Inv := by
  refine h.note (fun e he => ?_) ⟨trivial, h.handled.lawful⟩ nofun fun next hnext => ?_
  · cases mem_singleton.mp he
    rfl
  · refine (h.handled.retired next hnext).append (fun e he context => ?_) ⟨rfl, rfl⟩ rfl rfl
    cases mem_singleton.mp he
    rfl

/-- Control finds its fence acknowledged. -/
theorem Inv.observed (hacked : d.Acked) (ok : Bool) : (d.record [.observed ok]).Inv := by
  refine h.note (fun e he => ?_) ⟨trivial, h.handled.lawful⟩
    (fun _ => h.protocol.words.shut hacked) fun next hnext => ?_
  · cases mem_singleton.mp he
    rfl
  · refine (h.handled.retired next hnext).append (fun e he context => ?_) ⟨rfl, rfl⟩ rfl rfl
    cases mem_singleton.mp he
    rfl

/-- Every other request is posted behind an acknowledged fence. -/
theorem Inv.post {k : Word} (hs : d.control.stance = .signalling k)
    (hfresh : d.words.Fresh (nextWord d.request k)) :
    ((if k = RUN then d.record [.resumed] else d).signal k (.flag true)).Inv := by
  have hok := h.protocol.stance
  rw [hs] at hok
  obtain ⟨hacked, hcases⟩ := hok
  have hfinishing : d.control.stance.finishing = false := by
    rw [hs]
    rfl
  obtain ⟨rfl, hsome, hitems, -⟩ | ⟨rfl, -, hnone⟩ | ⟨rfl, hnone, -, hkind⟩ | ⟨rfl, hkind⟩ := hcases
  · exact h.post_acked (by decide) hfresh hacked hfinishing ⟨fun _ => rfl, fun _ => hsome⟩
      (fun _ => hitems) (fun hno => absurd hno (by decide)) _
  · exact h.post_acked (by decide) hfresh hacked hfinishing
      ⟨fun hno => (by rw [hnone] at hno; cases hno), fun hno => absurd hno (by decide)⟩
      (fun hno => absurd hno (by decide)) (fun hno => absurd hno (by decide)) _
  · refine h.resumed.post_acked (by decide) hfresh hacked hfinishing
      ⟨fun hno => ?_, fun hno => absurd hno (by decide)⟩ (fun hno => absurd hno (by decide))
      (fun _ => ⟨rfl, ?_, h.protocol.unprepared_of_acked hacked hkind⟩) _
    · change d.control.staged.isSome at hno
      rw [hnone] at hno
      cases hno
    · exact h.protocol.handoffs_nil hacked (by rw [hs]; exact fun hno => by cases hno)
  · refine h.post_acked (by decide) hfresh hacked hfinishing
      ⟨fun hno => ?_, fun hno => absurd hno (by decide)⟩ (fun hno => absurd hno (by decide))
      (fun hno => absurd hno (by decide)) _
    obtain hprepare | hno := h.protocol.staged hno
    · cases hkind.symm.trans hprepare
    · rw [hs] at hno
      cases Stance.signalling.inj hno

/-- `barrier` has returned, and the call goes on. -/
theorem Inv.conclude {call : Call F W} (hs : d.control.stance = .acknowledged call)
    (ok : Bool) (hquality : ok = !d.quality) : (d.conclude call ok).Inv := by
  have hok := h.protocol.stance
  rw [hs] at hok
  obtain ⟨hacked, hcommit, hfinish⟩ := hok
  have hreturn : ∀ answer, (d.return_ answer).Inv := h.return_ hs nofun rfl rfl
  unfold Desk.conclude
  cases call with
  | stage settings =>
    simp only
    split
    · exact hreturn _
    rename_i hnot
    simp only [not_or, Bool.not_eq_false, Bool.not_eq_true] at hnot
    exact h.stand (h.protocol.stand ⟨hacked, hnot.1⟩ hs nofun rfl)
      (h.carried.reserves.eq_nil hnot.2.1) hs rfl
  | commit =>
    simp only
    split
    · rename_i hset
      rw [hset] at hquality
      exact h.stand (h.protocol.stand ⟨hacked, hcommit rfl, by simpa using hquality.symm⟩ hs nofun
        rfl) trivial hs rfl
    · exact hreturn _
  | resume =>
    simp only
    split
    · exact hreturn _
    rename_i hnot
    simp only [not_or, Bool.not_eq_false, Bool.not_eq_true, isSome_eq_false_iff,
      isNone_iff_eq_none] at hnot
    have hkind : kind d.request ≠ PREPARE := fun hprepare => by
      obtain hsome | hno := h.protocol.prepare hprepare
      · rw [hnot.2.2] at hsome
        cases hsome
      · cases hs.symm.trans hno
    exact h.stand (h.protocol.stand ⟨hacked, .inr (.inr (.inl ⟨rfl, hnot.2.2, hnot.2.1, hkind⟩))⟩
      hs nofun rfl) trivial hs rfl
  | finish =>
    simp only
    split
    · exact h.stand (h.protocol.stand ⟨hacked, .inr (.inr (.inr ⟨rfl, hfinish rfl⟩))⟩ hs nofun rfl)
        trivial hs rfl
    · exact hreturn _
  | submit | poll | pause | barrier => exact hreturn _

/-- The wake-up reaches a thread that runs. -/
theorem Inv.wake (hprotocol : (d.stand s).Protocol) (hpoised : d.Poised s) :
    ({ d with token := d.token || d.control.thread }.stand s).Inv := by
  have htoken : d.owner.position.ended = false → (d.token || d.control.thread) = true := by
    intro hended
    rw [Bool.eq_true_of_not_eq_false (h.protocol.alive rfl hended).1, Bool.or_true]
  refine ⟨{ hprotocol with }, { h.carried with stance := hpoised }, { h.booked with },
    { h.handled with }, ?_⟩
  refine ⟨fun word hw => .inr (.inl (htoken ?_)), fun hparked => .inr (.inl (htoken ?_))⟩
  · change d.owner.position.held = some word at hw
    cases hp : d.owner.position with
    | exited =>
      rw [hp] at hw
      cases hw
    | _ => rfl
  · change d.owner.position = .parked at hparked
    rw [hparked]
    rfl

/-- The thread is joined once it has ended. -/
theorem Inv.join (hs : d.control.stance = .joining) : d.join.Inv := by
  have hleave : ∀ answer, d.owner.position.ended = true →
      ({ d with control := { d.control with thread := false } }.return_ answer).Inv := by
    intro answer hended
    have hexited : d.owner.position = .exited := by
      cases hp : d.owner.position with
      | exited => rfl
      | _ =>
        rw [hp] at hended
        cases hended
    refine ⟨h.protocol.join hs hended answer, { h.carried with stance := trivial },
      { h.booked with }, { h.handled with }, ?_⟩
    refine ⟨fun word hw => ?_, fun hparked => ?_⟩
    · change d.owner.position.held = some word at hw
      rw [hexited] at hw
      cases hw
    · cases hexited.symm.trans hparked
  unfold Desk.join
  split
  · rename_i hthread
    have hended := h.protocol.thread hthread
    have hinv := hleave (.flag true) hended
    rw [← hthread] at hinv
    exact hinv
  · cases hp : d.owner.position with
    | exited => exact hleave _ (by rw [hp]; rfl)
    | panicked =>
      exact (h.protocol.at_position hp).elim
    | _ => exact h

/-- What the next operation of control must meet: no request word is posted while the owner still
knows it, and no `commit` replaces a list that binds an output twice. -/
def Prudent (d : Desk F W) : Stance F W → Prop
  | .entered (.pause safe) => d.words.Fresh (nextWord d.request (if safe then SAFE else PAUSE))
  | .signalling k => d.words.Fresh (nextWord d.request k)
  | .exchanging => Distinct d.control.settings
  | _ => True

instance (d : Desk F W) (s) : Decidable (d.Prudent s) := by
  unfold Prudent
  split <;> infer_instance

/-- The condition of a step. -/
def Orderly (d : Desk F W) : Move F W → Prop
  | .control => d.Prudent d.control.stance
  | _ => True

instance (d : Desk F W) (move) : Decidable (d.Orderly move) := by
  cases move <;> unfold Orderly <;> infer_instance

/-- A call that waits for its barrier. -/
theorem Inv.enter {call : Call F W} (hs : d.control.stance = .entered call) :
    (if d.requires call = false ∨ kind d.request = RUN ∨ d.acknowledged ≠ d.request then
      d.return_ (refusal call) else d.stand (.acknowledged call)).Inv := by
  split
  · exact h.return_ hs nofun rfl rfl _
  rename_i hnot
  simp only [not_or, Bool.not_eq_false, ne_eq, not_not] at hnot
  obtain ⟨hrequires, hclosed, hacked⟩ := hnot
  refine h.stand (h.protocol.stand ⟨⟨hacked, hclosed⟩, ?_, ?_⟩ hs nofun rfl) trivial hs rfl
  · rintro rfl
    exact of_decide_eq_true hrequires
  · rintro rfl
    exact of_decide_eq_true hrequires

/-- **Every operation of control keeps the invariant.** -/
theorem act_inv (horderly : d.Orderly .control) : d.act.Inv := by
  unfold Desk.act
  change d.Prudent d.control.stance at horderly
  cases hs : d.control.stance with
  | idle | panicked => exact h
  | entered call =>
    rw [hs] at horderly
    cases call with
    | submit index demand work => exact h.submit hs
    | poll => exact h.poll hs
    | pause safe => exact h.pause hs horderly
    | barrier | stage | commit | resume | finish => exact h.enter hs
  | acknowledged call =>
    have hok := h.protocol.stance
    rw [hs] at hok
    exact (h.observed hok.1 _).conclude hs _ rfl
  | pushing index demand work => exact h.push hs
  | handing settings => exact h.hand hs
  | exchanging =>
    rw [hs] at horderly
    exact h.exchange hs horderly
  | signalling k =>
    rw [hs] at horderly
    exact h.post hs horderly
  | waking finishing answer =>
    have hok := h.protocol.stance
    rw [hs] at hok
    cases finishing with
    | true =>
      exact h.wake (h.protocol.stand (hok rfl) hs nofun rfl) trivial
    | false =>
      have hwake := h.wake (s := .idle) (h.protocol.stand trivial hs nofun rfl) trivial
      exact ⟨{ hwake.protocol with }, { hwake.carried with }, { hwake.booked with },
        { hwake.handled with }, { hwake.woken with }⟩
  | joining => exact h.join hs

end

end Desk

end RptAdvanced.Site.DeviceWorker
