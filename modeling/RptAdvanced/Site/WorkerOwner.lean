import RptAdvanced.Site.WorkerLedger

/-!
# Every step of a device owner keeps its invariant

The owner's loop, step by step: the comparison of its request word, the fence with its safe writes,
the replacement list that is prepared or discarded, the installation of a committed list, and the
performance of one request.

A committed list takes the opened endpoints over whose bindings it continues (`retain`). What it
leaves over is dropped; `left_unbound` says that an output left over has no binding in the new list,
provided the old list bound no output twice, and so was put to its safe level when the list was
prepared.

Results: `Inv.swap`, `Inv.change`, `Inv.settle`, `Inv.access`, **`work_inv`**.
-/

namespace RptAdvanced.Site.DeviceWorker

open Lib List Option Bool Endpoint

variable {F W : Type}

namespace Desk

variable {d : Desk F W}

/-! ## Endpoints through a binding change -/

theorem sameIo_iff {a b : Direction} :
    a.sameIo b = true ↔ a.isOutput = b.isOutput ∧ a.activeHigh = b.activeHigh := by
  simp [Direction.sameIo]

theorem sameBinding_iff {a b : DeviceBinding} :
    sameBinding a b = true ↔ a.1 = b.1 ∧ a.2.sameIo b.2 = true := by
  simp [sameBinding]

/-- Two bindings of one list that continue in the same binding of the next are the same. -/
theorem sameBinding_of_common {a b c : DeviceBinding} (ha : sameBinding a c = true)
    (hb : sameBinding b c = true) : sameBinding a b = true := by
  rw [sameBinding_iff, sameIo_iff] at *
  exact ⟨ha.1.trans hb.1.symm, ha.2.1.trans hb.2.1.symm, ha.2.2.trans hb.2.2.symm⟩

variable {settings : List DeviceBinding} {device : DeviceAnswer F}

theorem length_retain (endpoints : List (Option Endpoint)) (next : List DeviceBinding) :
    (retain settings device endpoints next).1.length = next.length := by
  induction next generalizing endpoints with
  | nil => rfl
  | cons binding rest ih =>
    unfold retain
    split
    · exact congrArg (· + 1) (ih _)
    · split <;> exact congrArg (· + 1) (ih _)

variable {endpoints : List (Option Endpoint)} {i : Nat} {e : Endpoint} {next : List DeviceBinding}
  {binding : DeviceBinding} {word : Word} {request : Request F W}

/-- A slot that is emptied holds nothing; the others hold what they held. -/
theorem of_getElem?_set_none {j : Nat}
    (h : (endpoints.set i none)[j]? = some (some e)) : i ≠ j ∧ endpoints[j]? = some (some e) := by
  rw [getElem?_set] at h
  by_cases hij : i = j
  · rw [if_pos hij] at h
    split at h <;> cases h
  · rw [if_neg hij] at h
    exact ⟨hij, h⟩

/-- What is left over was there before, and no binding of the next list continues it. -/
theorem retain_left (h : (retain settings device endpoints next).2.1[i]? = some (some e)) :
    endpoints[i]? = some (some e) ∧
      ∀ b ∈ next, (settings.findIdx? fun old => sameBinding old b) ≠ some i := by
  induction next generalizing endpoints with
  | nil => exact ⟨h, nofun⟩
  | cons binding rest ih =>
    unfold retain at h
    cases hfind : settings.findIdx? fun old => sameBinding old binding with
    | none =>
      rw [hfind] at h
      obtain ⟨hi, hrest⟩ := ih h
      refine ⟨hi, fun b hb => ?_⟩
      obtain rfl | hb := mem_cons.mp hb
      · rw [hfind]
        nofun
      · exact hrest b hb
    | some j =>
      have hleft :
          (retain settings device (endpoints.set j none) rest).2.1[i]? = some (some e) := by
        rw [hfind] at h
        simp only at h
        split at h <;> exact h
      obtain ⟨hi, hrest⟩ := ih hleft
      obtain ⟨hne, hi⟩ := of_getElem?_set_none hi
      refine ⟨hi, fun b hb => ?_⟩
      obtain rfl | hb := mem_cons.mp hb
      · rw [hfind]
        exact fun hj => hne (Option.some.inj hj)
      · exact hrest b hb

/-- What is retained comes from an old slot whose binding it continues. -/
theorem retain_kept {k : Nat} (h : (retain settings device endpoints next).1[k]? = some (some e)) :
    ∃ (i : Nat) (old : Endpoint) (binding : DeviceBinding), next[k]? = some binding ∧
      (settings.findIdx? fun b => sameBinding b binding) = some i ∧
      endpoints[i]? = some (some old) ∧ e = (old.reconfigure binding.2 device).1 := by
  induction next generalizing endpoints k with
  | nil => cases h
  | cons binding rest ih =>
    unfold retain at h
    cases hfind : settings.findIdx? fun old => sameBinding old binding with
    | none =>
      rw [hfind] at h
      cases k with
      | zero => cases h
      | succ k => exact ih h
    | some j =>
      rw [hfind] at h
      simp only at h
      cases k with
      | zero =>
        cases hold : (endpoints[j]?).join with
        | none =>
          rw [hold] at h
          cases h
        | some old =>
          rw [hold] at h
          refine ⟨j, old, binding, rfl, hfind, ?_, ?_⟩
          · exact join_eq_some_iff.mp hold
          · exact (Option.some.inj (Option.some.inj h)).symm
      | succ k =>
        have hkept :
            (retain settings device (endpoints.set j none) rest).1[k]? = some (some e) := by
          split at h <;> exact h
        obtain ⟨i, old, b, h1, h2, h3, h4⟩ := ih hkept
        exact ⟨i, old, b, h1, h2, (of_getElem?_set_none h3).2, h4⟩

theorem reconfigure_sameIo {direction : Direction} (h : e.direction.sameIo direction = true) :
    (e.reconfigure direction device).1.direction.sameIo direction = true := by
  unfold reconfigure
  rw [if_neg (by rw [h]; nofun)]
  generalize (if e.backend ≠ .iio ∧ e.direction.levels.2 ≠ direction.levels.2 then
    device.metadata e.context else .ok ()) = code
  cases code with
  | ok _ => exact sameIo_iff.mpr ⟨rfl, rfl⟩
  | error _ => exact h

/-- An opened output that a binding change leaves over has no binding in the next list, as long as
the old list bound no output twice. -/
theorem left_unbound (hdistinct : Distinct settings)
    (hleft : (retain settings device endpoints next).2.1[i]? = some (some e))
    (hbinding : settings[i]? = some binding) (houtput : binding.2.isOutput = true) :
    (next.any fun b => sameBinding binding b) = false := by
  obtain ⟨-, hnone⟩ := retain_left hleft
  rw [List.any_eq_false]
  intro b hb hsame
  obtain ⟨hlt, hget⟩ := List.getElem?_eq_some_iff.mp hbinding
  -- the first old binding that `b` continues is this one
  have hsome : (settings.any fun old => sameBinding old b) = true :=
    any_eq_true.mpr ⟨binding, mem_of_getElem? hbinding, hsame⟩
  obtain ⟨j, hj⟩ := isSome_iff_exists.mp (findIdx?_isSome.trans hsome)
  obtain ⟨hjlt, hjsame, hfirst⟩ := findIdx?_eq_some_iff_getElem.mp hj
  have hij : j ≠ i := fun hij => hnone b hb (hij ▸ hj)
  have hji : j < i := by
    refine Nat.lt_of_le_of_ne (Nat.le_of_not_lt fun hlt' => ?_) hij
    have hnot := hfirst i hlt'
    rw [hget] at hnot
    exact hnot hsame
  have hcommon := sameBinding_of_common hjsame hsame
  have houtput' : settings[j].2.isOutput = true :=
    (sameIo_iff.mp (sameBinding_iff.mp hcommon).2).1.trans houtput
  have hpair := pairwise_iff_getElem.mp hdistinct j i hjlt hlt hji houtput'
  rw [hget] at hpair
  exact absurd (hpair.symm.trans hcommon) false_ne_true

theorem lawful_append {events log : List Event}
    (h : ∀ e ∈ events, ∀ later : List Event, (∀ e' ∈ later, e' ∈ events) → Allowed (later ++ log) e)
    (hlog : Lawful log) : Lawful (events ++ log) := by
  induction events with
  | nil => exact hlog
  | cons e events ih =>
    refine ⟨h e mem_cons_self events fun e' he' => mem_cons_of_mem _ he', ih ?_⟩
    intro e' he' later hlater
    exact h e' (mem_cons_of_mem _ he') later fun x hx => mem_cons_of_mem _ (hlater x hx)

theorem mem_dropped {event : Event} (h : event ∈ dropped endpoints) :
    ∃ (i : Nat) (e : Endpoint), endpoints[i]? = some (some e) ∧
      event = .dropped e.context e.direction.isOutput := by
  unfold dropped at h
  rw [mem_reverse] at h
  obtain ⟨e, he, rfl⟩ := mem_map.mp h
  obtain ⟨slot, hslot, hid⟩ := mem_filterMap.mp he
  obtain ⟨i, hi⟩ := mem_iff_getElem?.mp hslot
  exact ⟨i, e, hi.trans (congrArg some hid), rfl⟩

/-- A committed list is installed: what it drops was retired before. -/
theorem Inv.installed (h : d.Inv) (hp : d.owner.position = .loaded word)
    (hinstall : d.install = true) {next : Handoff} (hnext : d.owner.prepared = some next) :
    (d.installed next device).Inv := by
  have hcontrol : next = { settings := d.control.settings, lane := d.control.lane } :=
    Option.some.inj (hnext.symm.trans (h.carried.next hinstall))
  obtain ⟨hquality, hdistinct⟩ := h.handled.install hinstall
  have hretired : d.Retired next := by
    have hcleared := h.handled.retired next hnext
    rw [hp] at hcleared
    exact hcleared hquality
  have hplain : ∀ e ∈ dropped (retain d.owner.settings device d.owner.endpoints next.settings).2.1,
      e.plain = true := by
    intro e he
    obtain ⟨_, _, _, rfl⟩ := mem_dropped he
    rfl
  have hlawful : Lawful
      (dropped (retain d.owner.settings device d.owner.endpoints next.settings).2.1 ++ d.log) := by
    refine lawful_append (fun event hevent later hlater => ?_) h.handled.lawful
    obtain ⟨i, e, hi, rfl⟩ := mem_dropped hevent
    intro houtput
    obtain ⟨binding, hbinding, hsame⟩ := h.handled.sameIo i e (retain_left hi).1
    have hnone : later.find? (Event.touches e.context) = none := by
      refine find?_eq_none.mpr fun event' hevent' => ?_
      obtain ⟨_, _, _, rfl⟩ := mem_dropped (hlater event' hevent')
      exact false_ne_true
    rw [find?_append, hnone]
    exact hretired i e binding (retain_left hi).1 hbinding houtput
      (left_unbound hdistinct hi hbinding ((sameIo_iff.mp hsame).1.symm.trans houtput))
  have hrecord : (d.record (dropped
      (retain d.owner.settings device d.owner.endpoints next.settings).2.1)).Inv := by
    refine h.record hplain hlawful fun next' hnext' => ?_
    refine (h.handled.retired next' hnext').append (fun e he context => ?_) ⟨rfl, rfl⟩ rfl rfl
    obtain ⟨_, _, _, rfl⟩ := mem_dropped he
    rfl
  refine ⟨h.protocol.installed hp hinstall, ?_, ?_, ?_, ?_⟩
  · exact { hrecord.carried with
      lane := fun _ => by
        rw [hcontrol]
        exact ⟨rfl, rfl⟩
      next := nofun
      endpoints := length_retain _ _
      position := by
        change Placed _ d.owner.position
        rw [hp]
        trivial }
  · exact { hrecord.booked with }
  · refine { hrecord.handled with
      sameIo := fun k e hk => ?_
      retired := nofun
      install := nofun }
    obtain ⟨i, old, binding, hbinding, hfind, hold, rfl⟩ := retain_kept hk
    obtain ⟨binding', hbinding', hsame⟩ := h.handled.sameIo i old hold
    obtain ⟨hlt, hcontinues, -⟩ := findIdx?_eq_some_iff_getElem.mp hfind
    refine ⟨binding, hbinding, reconfigure_sameIo ?_⟩
    have hget : d.owner.settings[i] = binding' := (List.getElem?_eq_some_iff.mp hbinding').2
    rw [hget] at hcontinues
    have hio := sameIo_iff.mp (sameBinding_iff.mp hcontinues).2
    have hio' := sameIo_iff.mp hsame
    exact sameIo_iff.mpr ⟨hio'.1.trans hio.1, hio'.2.trans hio.2⟩
  · exact { h.woken with }

/-- The owner swaps the install flag. -/
theorem Inv.swap (h : d.Inv) (hp : d.owner.position = .loaded word) : (d.swap word device).Inv := by
  unfold Desk.swap
  cases hinstall : d.install with
  | false =>
    exact h.compare hp hinstall
  | true =>
    obtain ⟨next, hnext⟩ := isSome_iff_exists.mp (h.protocol.install hinstall).1
    rw [hnext]
    exact (h.installed hp hinstall hnext).compare hp rfl

/-! ## Requests -/

/-- An ordinary access happens behind no observed fence. -/
theorem Inv.not_quiet (h : d.Inv) (hheld : d.owner.position.held = some word)
    (hrun : kind word = RUN) : quiet d.log = false := by
  cases hquiet : quiet d.log with
  | false => rfl
  | true => exact absurd hrun ((h.handled.quiet hquiet).2 word hheld)

/-- The request in hand is for an endpoint of the owner's list. -/
theorem Inv.index_lt (h : d.Inv)
    (hhand : d.owner.position.hand = [request]) (hinstall : d.install = false) :
    request.index < d.owner.settings.length := by
  have hmem : request.index ∈ d.indices := by
    unfold indices
    rw [hhand]
    simp
  have hlt := h.carried.reserves.lt hmem
  rw [h.carried.length] at hlt
  rwa [(h.carried.lane hinstall).2]

/-- The owner goes on with a request under the same request word. -/
theorem Inv.proceed (h : d.Inv) {p : Position F W}
    (hrun : kind word = RUN) (hheld : d.owner.position.held = some word)
    (hhand : d.owner.position.hand = [request]) (hp : p.held = some word)
    (hphand : p.hand = [request])
    (hok : d.PositionOk p) (hplaced : d.Placed p) : (d.goto p).Inv := by
  have hbusy : d.owner.position.busy = true ∧ d.owner.position.past = false ∧
      d.owner.position.ended = false := by
    cases hq : d.owner.position with
    | _ => first
      | exact ⟨rfl, rfl, rfl⟩
      | (rw [hq] at hhand; cases hhand)
  have hpbusy : p.busy = true ∧ p.past = false ∧ p.ended = false ∧ p ≠ .parked := by
    cases p with
    | _ => first
      | exact ⟨rfl, rfl, rfl, nofun⟩
      | cases hphand
  have hcleared : ∀ next, d.owner.prepared = some next → d.Cleared next p := fun next hnext => by
    cases (h.protocol.unprepared hheld hrun).symm.trans hnext
  exact h.goto (h.protocol.goto rfl (hp.trans hheld.symm) (hpbusy.1.trans hbusy.1.symm)
    (hpbusy.2.1.trans hbusy.2.1.symm) (hpbusy.2.2.1.trans hbusy.2.2.symm) hok) rfl
    (hphand.trans hhand.symm) hplaced hcleared (fun w hw => .inl (hheld.trans (hp.symm.trans hw)))
    fun hparked => absurd hparked hpbusy.2.2.2

/-- A request to run brings no list. -/
theorem supplied_of_run (hrun : kind word = RUN) : d.Supplied word :=
  fun _ hprepare => absurd (hrun.symm.trans hprepare) (by decide)

theorem eq_of_opened {opened : Except ReadingQuality Unit} {made : Endpoint}
    (h : (opened.map fun _ => made) = .ok e) : e = made := by
  cases opened with
  | error quality => cases h
  | ok _ => exact (Except.ok.inj h).symm

theorem openAt_direction {context : Nat} {endpoint : Endpoint}
    (h : openAt binding context device = .ok endpoint) : endpoint.direction = binding.2 := by
  unfold openAt at h
  split at h
  · exact congrArg direction (eq_of_opened h)
  · exact congrArg direction (eq_of_opened h)
  · split at h
    · cases h
    · exact congrArg direction (eq_of_opened h)
  · cases h
  · cases h

section

variable (h : d.Inv)
include h

/-- An endpoint is opened for a request. -/
theorem Inv.opened (hp : d.owner.position = .opening word request) {endpoint : Endpoint}
    (hbinding : d.owner.settings[request.index]? = some binding)
    (hdirection : endpoint.direction = binding.2) : { d with
      contexts := d.contexts + 1
      owner := { d.owner with
        endpoints := d.owner.endpoints.set request.index (some endpoint)
        position := .revalidating word request }
      log := .opened endpoint.context :: d.log }.Inv := by
  have hheld := congrArg Position.held hp
  have hrun : kind word = RUN := h.protocol.at_position hp
  have hlt : request.index < d.owner.endpoints.length := by
    rw [h.carried.endpoints]
    exact (List.getElem?_eq_some_iff.mp hbinding).1
  have hthere : (d.goto (.performing word request)).Inv :=
    h.proceed hrun hheld (by rw [hp]; rfl) rfl rfl hrun trivial
  refine ⟨?_, ?_, ?_, ?_, ?_⟩
  · have hprotocol : (d.goto (.revalidating word request)).Protocol :=
      h.protocol.goto hp rfl rfl rfl rfl hrun
    exact { hprotocol with }
  · exact { hthere.carried with
      endpoints := (length_set ..).trans h.carried.endpoints
      position := ⟨endpoint, getElem?_set_self hlt⟩ }
  · exact { hthere.booked with
      listed := fun r hr => mem_cons_of_mem _ (hthere.booked.listed r hr) }
  · refine { hthere.handled with
      lawful := ⟨h.not_quiet hheld hrun, h.handled.lawful⟩
      sameIo := fun index e he => ?_
      retired := fun next hnext => ?_ }
    · change (d.owner.endpoints.set request.index (some endpoint))[index]? = _ at he
      by_cases hindex : request.index = index
      · subst hindex
        rw [getElem?_set_self hlt] at he
        cases he
        exact ⟨binding, hbinding, sameIo_iff.mpr (by rw [hdirection]; exact ⟨rfl, rfl⟩)⟩
      · rw [getElem?_set_ne hindex] at he
        exact h.handled.sameIo index e he
    · cases (h.protocol.unprepared hheld hrun).symm.trans hnext
  · exact { hthere.woken with parked := nofun }

/-- `perform` reaches its endpoint. -/
theorem Inv.access
    (hp : d.owner.position = .opening word request) : (d.access word request device).Inv := by
  have hheld := congrArg Position.held hp
  have hhand := congrArg Position.hand hp
  have hrun : kind word = RUN := h.protocol.at_position hp
  have hinstall := h.protocol.not_install (by rw [hp]; rfl)
  have hlt := h.index_lt hhand hinstall
  have hrecord : (d.record [.performed request.ticket request.index d.owner.settings]).Inv := by
    refine h.record (fun e he => ?_) ⟨?_, h.handled.lawful⟩ fun next _ => ?_
    · cases mem_singleton.mp he
      rfl
    · rw [(h.carried.lane hinstall).2]
      refine h.booked.listed request (mem_append_right _ ?_)
      rw [hhand]
      exact mem_singleton_self _
    · rw [hp]
      trivial
  have hlt' : request.index < d.owner.endpoints.length := by rwa [h.carried.endpoints]
  have hbinding : d.owner.settings[request.index]? = some d.owner.settings[request.index] :=
    getElem?_eq_getElem hlt
  have hslot : d.owner.endpoints[request.index]? = some d.owner.endpoints[request.index] :=
    getElem?_eq_getElem hlt'
  unfold Desk.access
  dsimp only
  rw [show (d.record _).owner = d.owner from rfl, hbinding]
  cases hfound : d.owner.endpoints[request.index]? with
  | none => cases hslot.symm.trans hfound
  | some slot =>
    cases slot with
    | some endpoint =>
      exact hrecord.proceed hrun hheld hhand rfl rfl hrun ⟨endpoint, hfound⟩
    | none =>
      simp only
      cases hopened : openAt d.owner.settings[request.index]
          (d.record [.performed request.ticket request.index d.owner.settings]).contexts device with
      | error quality =>
        exact hrecord.proceed hrun hheld hhand rfl rfl (supplied_of_run hrun) trivial
      | ok endpoint => exact hrecord.opened hp hbinding (openAt_direction hopened)

/-! ## An iteration of the owner -/

/-- The owner pops a request when its ring has one. -/
theorem Inv.taken {found : Request F W → Position F W} {missing : Position F W}
    (hinstall : d.install = false) (hhand : d.owner.position.hand = []) (hacked : ¬ d.Acked)
    (hfound : ∀ request, (found request).hand = [request] ∧
      (found request).held = d.owner.position.held ∧ (d.goto (found request)).Protocol)
    (hplain : ∀ request, ∀ d' : Desk F W, d'.Placed (found request) ∧
      ∀ next, d'.Cleared next (found request))
    (hmissing : d.requests.items = [] → (d.goto missing).Inv) : (d.take found missing).Inv := by
  unfold Desk.take
  cases hpop : (d.lanes d.owner.lane).requests.pop with
  | none =>
    refine hmissing ?_
    have hnil := RingBuffer.pop_none hpop
    rw [(h.carried.lane hinstall).1] at hnil
    exact hnil
  | some entry =>
    obtain ⟨request, requests⟩ := entry
    obtain ⟨hhand', hheld, hprotocol⟩ := hfound request
    refine h.take hinstall hpop hhand hhand' hprotocol (fun d' => (hplain request d').1)
      (fun d' => (hplain request d').2) hheld (fun hparked => ?_) hacked
    rw [hparked] at hhand'
    cases hhand'

/-- The owner starts an iteration with the request word. -/
theorem Inv.load (hp : d.owner.position = .top) : (d.goto (.loaded d.request)).Inv := by
  have hretired := h.handled.retired
  rw [hp] at hretired
  exact h.goto (h.protocol.rest rfl rfl (h.protocol.supplied (by rw [hp]; rfl)) (.inl rfl) hp rfl
    rfl) hp rfl trivial hretired (fun w hw => .inr (Option.some.inj hw).symm) nofun

/-- The owner answers the requests that a fence finds in its ring. -/
theorem Inv.drain (hp : d.owner.position = .draining word) :
    (d.take (fun request => .answering word request (.error .unavailable))
      (.fencing word)).Inv := by
  have hbusy := congrArg Position.busy hp
  have hok := h.protocol.at_position hp
  refine h.taken (h.protocol.not_install hbusy) (by rw [hp]; rfl) (h.protocol.not_acked hbusy)
    (fun request => ⟨rfl, by rw [hp]; rfl, ?_⟩) (fun _ _ => ⟨trivial, fun _ => trivial⟩)
    fun hnil => ?_
  · exact h.protocol.goto hp rfl rfl rfl rfl hok.2
  · exact h.goto (h.protocol.goto hp rfl rfl rfl rfl hok) hp rfl hnil (fun _ _ => trivial)
      (fun _ => .inl) nofun

/-- Behind a word it has seen, the owner parks when it has nothing left to do. -/
theorem Inv.park (hp : d.owner.position = .settled word)
    (hnil : word = d.request → d.requests.items = []) : (d.goto .parked).Inv := by
  have hheld := congrArg Position.held hp
  have hok := h.protocol.at_position hp
  have hretired := h.handled.retired
  rw [hp] at hretired
  refine h.goto (h.protocol.rest rfl rfl trivial (.inr rfl) hp rfl rfl) hp rfl trivial hretired
    nofun fun _ => ?_
  obtain hword | hwoken := h.woken.held word hheld
  · exact .inl ⟨hok.symm.trans hword, hnil hword⟩
  · exact .inr hwoken

/-- The owner has dealt with its request word. -/
theorem Inv.settle (hp : d.owner.position = .settled word) :
    (if kind word = CLOSE then d.goto .exited
      else if kind word = RUN then d.take (fun request => .performing word request) .parked
      else d.goto .parked).Inv := by
  have hheld := congrArg Position.held hp
  have hok := h.protocol.at_position hp
  have hretired := h.handled.retired
  rw [hp] at hretired
  -- a fence that is dealt with is acknowledged, and has emptied the ring
  have hfence : kind word ≠ RUN → word = d.request → d.requests.items = [] := by
    intro hclosed hword
    have hseen : d.owner.seen = word := hok.symm
    refine h.carried.acked ⟨?_, fun hopen => hclosed (hword ▸ hopen)⟩
    exact (h.protocol.words.synced fun hopen => hclosed (hseen ▸ hopen)).trans (hseen.trans hword)
  by_cases hclose : kind word = CLOSE
  · rw [if_pos hclose]
    refine h.goto (h.protocol.exit hp hclose) hp rfl ?_ hretired nofun nofun
    exact hfence (by rw [hclose]; decide) (h.protocol.closing word hheld hclose)
  rw [if_neg hclose]
  by_cases hrun : kind word = RUN
  · rw [if_pos hrun]
    have hinstall := h.protocol.not_install_of_run hheld hrun
    have hacked : ¬ d.Acked := fun hacked =>
      hacked.2 ((h.protocol.words.acked hacked).2.2 word hheld ▸ hrun)
    refine h.taken hinstall (by rw [hp]; rfl) hacked (fun request => ⟨rfl, by rw [hp]; rfl, ?_⟩)
      (fun _ _ => ⟨trivial, fun _ => trivial⟩) fun hnil => h.park hp fun _ => hnil
    exact h.protocol.engage hheld rfl rfl ⟨fun _ => hok, fun _ => hrun⟩ hinstall hrun rfl hp rfl rfl
  · rw [if_neg hrun]
    exact h.park hp (hfence hrun)

/-- The owner checks the permit of a request. -/
theorem Inv.check {p : Position F W}
    (hrun : kind word = RUN) (hheld : d.owner.position.held = some word)
    (hhand : d.owner.position.hand = [request]) (hp : p.held = some word)
    (hphand : p.hand = [request]) (hok : d.PositionOk p) (hplaced : d.Placed p) :
    (if d.permits request.work then d.goto p
      else d.goto (.answering word request (.error .unavailable))).Inv := by
  split
  · exact h.proceed hrun hheld hhand hp hphand hok hplaced
  · exact h.proceed hrun hheld hhand rfl rfl (supplied_of_run hrun) trivial

/-- The owner, woken or not, looks again. -/
theorem Inv.unpark (hp : d.owner.position = .parked) :
    ({ d with token := false }.goto .top).Inv := by
  have hretired := h.handled.retired
  rw [hp] at hretired
  have hgoto : (d.goto .top).Inv :=
    h.goto
      (h.protocol.rest rfl rfl trivial (.inr rfl) hp rfl rfl) hp rfl trivial hretired nofun nofun
  exact ⟨{ hgoto.protocol with }, { hgoto.carried with }, { hgoto.booked with },
    { hgoto.handled with }, ⟨nofun, nofun⟩⟩

end

/-! ## Safe writes -/

theorem mem_retired {owner : Owner F W} (he : owner.endpoints[i]? = some (some e))
    (hbinding : owner.settings[i]? = some binding)
    (hunbound : (next.any fun b => sameBinding binding b) = false) : e ∈ retired owner next := by
  refine mem_filterMap.mpr ⟨(binding, some e), mem_filter.mpr ⟨?_, ?_⟩, rfl⟩
  · exact mem_iff_getElem?.mpr ⟨i, getElem?_zip_eq_some.mpr ⟨hbinding, he⟩⟩
  · simp only [hunbound, Bool.not_false]

section Writes

variable [DecidableEq F] [Analog F]

variable {endpoints : List Endpoint} {word : Word}

theorem mem_secure {event : Event} (h : event ∈ (secure device endpoints).1) :
    ∃ e ∈ endpoints, event = .safed e.context (e.safe device).isOk := by
  unfold secure at h
  rw [mem_reverse] at h
  obtain ⟨e, he, rfl⟩ := mem_map.mp h
  exact ⟨e, (mem_filter.mp he).1, rfl⟩

/-- When no safe write failed, the last access to each output was a safe write that succeeded. -/
theorem secure_find {log : List Event}
    (h : (secure device endpoints).2 = false) {e : Endpoint} (he : e ∈ endpoints)
    (houtput : e.direction.isOutput = true) :
    ((secure device endpoints).1 ++ log).find? (Event.touches e.context) =
      some (.safed e.context true) := by
  have hfilter : e ∈ endpoints.filter fun e => e.direction.isOutput :=
    mem_filter.mpr ⟨he, houtput⟩
  have hmem : Event.safed e.context (e.safe device).isOk ∈ (secure device endpoints).1 :=
    mem_reverse.mpr (mem_map.mpr ⟨e, hfilter, rfl⟩)
  cases hfind : (secure device endpoints).1.find? (Event.touches e.context) with
  | none =>
    have hnot := find?_eq_none.mp hfind _ hmem
    simp [Event.touches] at hnot
  | some event =>
    rw [find?_append, hfind]
    have htouch := find?_some hfind
    have hin := mem_reverse.mp (mem_of_find?_eq_some hfind)
    obtain ⟨e', he', rfl⟩ := mem_map.mp hin
    have hok := List.any_eq_false.mp h e' he'
    have hcontext : e'.context = e.context := by simpa [Event.touches] using htouch
    have hsucceeded : (e'.safe device).isOk = true := by simpa using hok
    rw [hcontext, hsucceeded]
    rfl

theorem Inv.secured (h : d.Inv)
    (hcleared : ∀ d' : Desk F W, ∀ next, d'.Cleared next d.owner.position) :
    (d.record (secure device endpoints).1).Inv := by
  refine h.record (fun e he => ?_) (lawful_append (fun e he later _ => ?_) h.handled.lawful)
    fun next _ => hcleared _ next
  · obtain ⟨_, _, rfl⟩ := mem_secure he
    rfl
  · obtain ⟨_, _, rfl⟩ := mem_secure he
    trivial

/-- The owner writes the safe levels its fence asks for. -/
theorem Inv.fence (h : d.Inv) (hp : d.owner.position = .fencing word) :
    (d.fence word device).Inv := by
  have hgoto : ∀ {d' : Desk F W} (_ : d'.Inv) (_ : d'.owner.position = .fencing word)
      (failed : Bool), (d'.goto (.changing word failed)).Inv := by
    intro d' h' hp' failed
    have hok := h'.protocol.at_position hp'
    have hplaced := h'.carried.position
    rw [hp'] at hplaced
    exact h'.goto (h'.protocol.goto hp' rfl rfl rfl rfl hok) hp' rfl hplaced (fun _ _ => trivial)
      (fun _ => .inl) nofun
  unfold Desk.fence
  simp only
  split
  · refine hgoto (h.secured fun d' next => ?_) hp _
    rw [hp]
    trivial
  · exact hgoto h hp _

/-- The owner takes the replacement list of its own fence, or discards what another left. -/
theorem Inv.change (h : d.Inv) {failed : Bool}
    (hp : d.owner.position = .changing word failed) : (d.change word failed device).Inv := by
  have hok := h.protocol.at_position hp
  have hslot := h.protocol.slot
  have hlast : ∀ {next : Handoff} {handoffs : RingBuffer Handoff},
      d.handoffs.pop = some (next, handoffs) →
      handoffs.capacity = 1 ∧ handoffs.items = [] ∧ d.handoffs.items.head? = some next := by
    intro next handoffs hpop
    obtain ⟨hitems, hcapacity⟩ := RingBuffer.pop_items hpop
    have hbounded := d.handoffs.bounded
    rw [hitems, hslot, length_cons] at hbounded
    refine ⟨hcapacity.trans hslot, eq_nil_of_length_eq_zero (by omega), ?_⟩
    rw [hitems]
    rfl
  unfold Desk.change
  by_cases hkind : kind word = PREPARE
  · rw [if_pos hkind]
    cases hpop : d.handoffs.pop with
    | none =>
      -- its own fence has brought it
      obtain ⟨r, hr, hcause⟩ :=
        h.protocol.words.working (by change Position.busy _ = true; rw [hp]; rfl)
      change d.owner.position.held = some r at hr
      rw [hp] at hr
      cases hr
      exact absurd (RingBuffer.pop_none hpop) (hok.2 (fun hseen => hok.1 (hcause.mpr hseen)) hkind)
    | some entry =>
      obtain ⟨next, handoffs⟩ := entry
      obtain ⟨hcapacity, hempty, hhead⟩ := hlast hpop
      have hsecured : (d.record (secure device (retired d.owner next.settings)).1).Inv :=
        h.secured fun d' next' => by
          rw [hp]
          trivial
      refine hsecured.changed hp hcapacity hempty (fun _ => hkind) (fun _ => ?_)
        fun next' hnext' => ?_
      · change _ = d.handoffs.items.head?.or d.owner.prepared
        rw [hhead]
        rfl
      · cases hnext'
        intro hfailed i e binding he hbinding houtput hunbound
        exact secure_find (or_eq_false_iff.mp hfailed).2 (mem_retired he hbinding hunbound)
          houtput
  · rw [if_neg hkind]
    refine h.changed hp ?_ ?_ nofun (fun hnot => absurd hnot hkind) nofun
    · cases hpop : d.handoffs.pop with
      | none => exact hslot
      | some entry => exact (hlast hpop).1
    · cases hpop : d.handoffs.pop with
      | none => exact RingBuffer.pop_none hpop
      | some entry => exact (hlast hpop).2.1

/-- The physical read or write of a request. -/
theorem Inv.transact (h : d.Inv) {request : Request F W}
    (hp : d.owner.position = .transacting word request) : (d.transact word request device).Inv := by
  have hheld := congrArg Position.held hp
  have hhand := congrArg Position.hand hp
  have hrun : kind word = RUN := h.protocol.at_position hp
  have hplaced := h.carried.position
  rw [hp] at hplaced
  obtain ⟨endpoint, hendpoint⟩ := hplaced
  have hrecord : ∀ e : Event, e.plain = true → Allowed d.log e → (d.record [e]).Inv := by
    intro e hplain hallowed
    refine h.record (fun e' he' => ?_) ⟨hallowed, h.handled.lawful⟩ fun next _ => ?_
    · cases mem_singleton.mp he'
      exact hplain
    · rw [hp]
      trivial
  unfold Desk.transact
  rw [hendpoint]
  cases request.demand with
  | none =>
    exact (hrecord (.read endpoint.context) rfl (h.not_quiet hheld hrun)).proceed hrun
      hheld hhand rfl
      rfl (supplied_of_run hrun) trivial
  | some demand =>
    exact (hrecord (.written endpoint.context) rfl (h.not_quiet hheld hrun)).proceed
      hrun hheld hhand
      rfl rfl (supplied_of_run hrun) trivial

/-- **Every step of the owner keeps the invariant.** -/
theorem work_inv (h : d.Inv) : (d.work device).Inv := by
  unfold Desk.work
  have hok := h.protocol.position
  have hplaced := h.carried.position
  cases hp : d.owner.position with
  | top => exact h.load hp
  | loaded word => exact h.swap hp
  | draining word => exact h.drain hp
  | answering word request outcome =>
    rw [hp] at hok
    exact h.goto (h.protocol.goto hp rfl rfl rfl rfl hok) hp rfl trivial (fun _ _ => trivial)
      (fun _ => .inl) nofun
  | replying word request outcome => exact h.reply hp
  | fencing word => exact h.fence hp
  | changing word failed => exact h.change hp
  | judged word failed => exact h.judge hp
  | acking word => exact h.ack hp
  | settled word => exact h.settle hp
  | performing word request =>
    rw [hp] at hok
    exact h.check hok (by rw [hp]; rfl) (by rw [hp]; rfl) rfl rfl hok trivial
  | opening word request => exact h.access hp
  | revalidating word request =>
    rw [hp] at hok hplaced
    exact h.check hok (by rw [hp]; rfl) (by rw [hp]; rfl) rfl rfl hok hplaced
  | transacting word request => exact h.transact hp
  | parked =>
    simp only
    split
    · exact h.unpark hp
    · exact h
  | exited => exact h
  | panicked => exact h

end Writes

end Desk

end RptAdvanced.Site.DeviceWorker
