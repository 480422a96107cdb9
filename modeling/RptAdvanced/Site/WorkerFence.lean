import RptAdvanced.Lib.Run
import RptAdvanced.Site.WorkerControl
import RptAdvanced.Site.WorkerOwner

/-!
# The guarantees of a device worker

Station control and the device owner, interleaved operation by operation, with any answers of the
device: `fence_protocol` is what holds in every state that orderly steps reach.

An owner that is left alone comes to rest (`exists_atRest`): `pace` bounds its steps, and at rest
every accepted request has its one reply (`AtRest.answered`).

A list that binds one output twice breaks the order of retirement. `acquire` gives each binding of a
committed list the context of the *first* old binding it continues, and prepares the retirement of
those old bindings only that no new one continues. When the first of two equal bindings was never
opened and the second was, the second is dropped without a safe write: `twin_output_dropped`.
-/

namespace RptAdvanced.Site.DeviceWorker

open Lib List Option Desk

variable {F W : Type}

namespace Desk

variable {d : Desk F W} {device : DeviceAnswer F}

/-- A worker that was just started. -/
def Initial (d : Desk F W) : Prop :=
  ∃ settings permits, start settings permits = some d

theorem initial_inv (h : d.Initial) : d.Inv := by
  obtain ⟨settings, permits, hstart⟩ := h
  unfold start at hstart
  split at hstart
  · cases hstart
  obtain ⟨-, ⟨⟩⟩ := ite_none_right_eq_some.mp hstart
  have hopen : IsOpen RUN := show kind RUN = RUN by decide
  refine ⟨?_, ?_, ?_, ?_, ⟨nofun, nofun⟩⟩
  · exact
      { words := ⟨fun hacked => absurd hopen hacked.2, nofun, nofun,
        fun hclosed => absurd hopen hclosed⟩
        stance := trivial
        position := trivial
        staged := nofun
        prepare := fun hkind => absurd (show kind RUN = PREPARE from hkind) (by decide)
        waiting := nofun
        slot := rfl
        handoff := fun hne => absurd rfl hne
        supplied := fun _ hne => absurd rfl hne
        prepared := nofun
        install := nofun
        close := fun hkind => absurd (show kind RUN = CLOSE from hkind) (by decide)
        closing := nofun
        ended := nofun
        thread := nofun }
  · exact
      { lane := fun _ => ⟨rfl, rfl⟩
        next := nofun
        capacity := ⟨(length_replicate ..).symm, (length_replicate ..).symm⟩
        length := length_replicate ..
        endpoints := length_replicate ..
        reserves := reserves_clear _
        staged := nofun
        issued := Nat.one_pos
        stance := trivial
        position := trivial
        acked := fun _ => rfl }
  · exact ⟨.refl _, nodup_nil, nofun, nofun, fun _ => rfl⟩
  · refine ⟨trivial, nofun, fun i e he => ?_, nofun, nofun⟩
    rw [getElem?_replicate] at he
    split at he <;> cases he

/-! ## Every accepted request is answered -/

/-- How far a position is from the end of an iteration. -/
def rank : Position F W → Nat
  | .performing .. => 14
  | .opening .. => 13
  | .revalidating .. => 12
  | .transacting .. => 11
  | .answering .. => 10
  | .replying .. => 9
  | .top => 8
  | .loaded _ => 7
  | .draining _ => 6
  | .fencing _ => 5
  | .changing .. => 4
  | .judged .. => 3
  | .acking _ => 2
  | .settled _ => 1
  | .parked | .exited | .panicked => 0

/-- A bound on the steps until the owner rests: an iteration takes fewer than twenty. -/
def pace (d : Desk F W) : Nat :=
  20 * (d.requests.items.length + d.token.toNat) + rank d.owner.position

/-- The owner waits for a wake-up, or has ended. -/
def AtRest (d : Desk F W) : Prop :=
  (d.owner.position = .parked ∧ d.token = false) ∨ d.owner.position = .exited

@[simp] theorem goto_position (d : Desk F W) (p : Position F W) :
    (d.goto p).owner.position = p := rfl

variable {d' : Desk F W} {word : Word} {request : Request F W}

/-- What a step of the owner leaves: control's side, and what has happened. -/
def Leaves (d d' : Desk F W) : Prop := d'.control = d.control ∧ d.log <:+ d'.log

/-- A step of the owner brings it nearer to its rest. -/
def Nears (d d' : Desk F W) : Prop := d.Leaves d' ∧ d'.pace < d.pace

section

variable {p : Position F W} (hp : d.owner.position = p)
include hp

/-- A step that leaves the rings of control and the token. -/
theorem nears_of {events : List Event} (hcontrol : d'.control = d.control)
    (hlog : d'.log = events ++ d.log) (hrequests : d'.requests = d.requests)
    (htoken : d'.token = d.token)
    (hlt : rank d'.owner.position < rank p) : d.Nears d' := by
  refine ⟨⟨hcontrol, hlog ▸ suffix_append events d.log⟩, ?_⟩
  unfold pace
  rw [hrequests, htoken, hp]
  omega

/-- A step in which nothing happens. -/
theorem nears_quiet (hcontrol : d'.control = d.control) (hlog : d'.log = d.log)
    (hrequests : d'.requests = d.requests) (htoken : d'.token = d.token)
    (hlt : rank d'.owner.position < rank p) : d.Nears d' :=
  nears_of hp hcontrol (show _ = [] ++ d.log from hlog) hrequests htoken hlt

/-- A step that takes a request out of its ring, if there is one. -/
theorem take_nears (h : d.Inv) {found : Request F W → Position F W} {missing : Position F W}
    (hinstalled : d.install = false) (hfound : ∀ request, rank (found request) < rank p + 20)
    (hmiss : rank missing < rank p) : d.Nears (d.take found missing) := by
  obtain ⟨hlane, -⟩ := h.carried.lane hinstalled
  unfold take
  rw [hlane]
  cases hpop : (d.lanes d.control.lane).requests.pop with
  | none => exact nears_quiet hp rfl rfl rfl rfl hmiss
  | some entry =>
    obtain ⟨request, requests⟩ := entry
    obtain ⟨hitems, -⟩ := RingBuffer.pop_items hpop
    change d.requests.items = request :: requests.items at hitems
    have hrequests : ((d.setRequests d.control.lane requests).goto (found request)).requests =
        requests := by
      simp [Desk.requests, setRequests, Desk.goto]
    have hrank := hfound request
    refine ⟨⟨rfl, suffix_rfl⟩, ?_⟩
    unfold pace
    rw [hrequests, hitems, length_cons, hp]
    change 20 * (_ + d.token.toNat) + rank (found request) < _
    omega

end

theorem swap_nears (h : d.Inv) (hp : d.owner.position = .loaded word) :
    d.Nears (d.swap word device) := by
  have hcompletes : ∀ {d' : Desk F W} {events : List Event}, d'.control = d.control →
      d'.log = events ++ d.log → d'.requests = d.requests → d'.token = d.token →
      d.Nears (d'.compare word) := by
    intro d' events hcontrol hlog hrequests htoken
    unfold compare
    split
    · exact nears_of hp hcontrol hlog hrequests htoken (by simp [rank])
    split <;> exact nears_of hp hcontrol hlog hrequests htoken (by simp [rank])
  unfold swap
  split
  · rename_i hinstalled
    obtain ⟨next, hnext⟩ := isSome_iff_exists.mp (h.protocol.install hinstalled).1
    rw [hnext]
    exact hcompletes rfl rfl rfl rfl
  · exact hcompletes rfl (show _ = [] ++ d.log from rfl) rfl rfl

theorem reply_nears (h : d.Inv) {outcome : Except ReadingQuality (Outcome F)}
    (hp : d.owner.position = .replying word request outcome) :
    d.Nears (d.reply word request outcome device) := by
  have hinstalled := h.protocol.not_install (by rw [hp]; rfl)
  obtain ⟨replies, hpush, -⟩ := h.reply_push (by rw [hp]; rfl) hinstalled
    { ticket := request.ticket, index := request.index, work := request.work,
      completedAtMs := min device.nowMs (2 ^ 64 - 1), outcome }
  unfold reply
  simp only [hpush]
  have hrequests : ∀ q, (((d.setReplies d.owner.lane replies).record
      [.replied request.ticket]).goto q).requests = d.requests := by
    rw [(h.carried.lane hinstalled).1]
    simp [Desk.requests, setReplies, record, Desk.goto]
  split <;> exact nears_of hp rfl rfl (hrequests _) rfl (by simp [rank])

theorem access_nears (hp : d.owner.position = .opening word request) :
    d.Nears (d.access word request device) := by
  unfold access
  simp only
  split
  · exact nears_of hp rfl rfl rfl rfl (by simp [rank])
  · split
    · exact nears_of hp rfl rfl rfl rfl (by simp [rank])
    rename_i endpoint _
    exact nears_of hp rfl (show _ = [.opened endpoint.context,
      .performed request.ticket request.index d.owner.settings] ++ d.log from rfl) rfl rfl
      (by simp [rank])
  · exact nears_of hp rfl rfl rfl rfl (by simp [rank])

theorem count_replied (log : List Event) (ticket : Nat) :
    log.count (.replied ticket) = (log.filterMap Event.replied?).count ticket := by
  induction log with
  | nil => rfl
  | cons e log ih =>
    cases e with
    | replied t =>
      change _ = List.count ticket (t :: log.filterMap Event.replied?)
      rw [count_cons, count_cons, ih]
      simp
    | _ =>
      rw [filterMap_cons_none rfl, count_cons, ih]
      simp

/-- At rest, with no call under way, every accepted request has its reply. -/
theorem AtRest.answered (hrest : d.AtRest) (h : d.Inv) (hwakes : d.control.stance.wakes = false)
    {ticket index : Nat} {settings : List DeviceBinding}
    (haccepted : .accepted ticket index settings ∈ d.log) : d.log.count (.replied ticket) = 1 := by
  have hnil : d.requests.items = [] ∧ d.owner.position.hand = [] := by
    obtain ⟨hp, htoken⟩ | hp := hrest
    · obtain ⟨-, hnil⟩ | hor := h.woken.parked hp
      · exact ⟨hnil, by rw [hp]; rfl⟩
      · rw [htoken, hwakes] at hor
        simp at hor
    · have hplaced := h.carried.position
      rw [hp] at hplaced
      exact ⟨hplaced, by rw [hp]; rfl⟩
  have htickets := h.booked.tickets
  rw [hnil.1, hnil.2] at htickets
  have hmem : ticket ∈ d.log.filterMap Event.accepted? := mem_filterMap.mpr ⟨_, haccepted, rfl⟩
  have hcount := htickets.count_eq ticket
  rw [count_eq_one_of_mem h.booked.nodup hmem] at hcount
  rw [count_replied]
  exact hcount.symm

/-! ## Runs -/

section Runs

variable [DecidableEq F] [Analog F]

def Step (d : Desk F W) (move : Move F W) (d' : Desk F W) : Prop := d' = d.step move

/-- **Every step keeps the invariant.** -/
theorem step_inv {move : Move F W} (h : d.Inv) (horderly : d.Orderly move) : (d.step move).Inv := by
  cases move with
  | call call =>
    unfold step
    simp only
    split
    · rename_i hs
      exact h.stand (h.protocol.stand trivial hs nofun rfl) trivial hs rfl
    · exact h
  | control => exact act_inv h horderly
  | owner device => exact work_inv h
  | permits permits =>
    exact ⟨{ h.protocol with }, { h.carried with }, { h.booked with }, { h.handled with },
      { h.woken with }⟩

/-- The owner left alone for some steps. -/
def alone (devices : Nat → DeviceAnswer F) (d : Desk F W) : Nat → Desk F W
  | 0 => d
  | n + 1 => (d.alone devices n).work (devices n)

/-- The owner comes nearer to its rest with every step. -/
theorem work_nears (h : d.Inv) (hrest : ¬ d.AtRest) : d.Nears (d.work device) := by
  unfold work
  have hinstalled : d.owner.position.busy = true → d.install = false := h.protocol.not_install
  cases hp : d.owner.position with
  | top | judged word failed | acking word | answering word request outcome =>
    exact nears_quiet hp rfl rfl rfl rfl (by simp [rank])
  | loaded word => exact swap_nears h hp
  | draining word =>
    exact take_nears hp h (hinstalled (by rw [hp]; rfl)) (by simp [rank]) (by simp [rank])
  | replying word request outcome => exact reply_nears h hp
  | fencing word =>
    simp only [fence]
    split
    · exact nears_of hp rfl rfl rfl rfl (by simp [rank])
    · exact nears_quiet hp rfl rfl rfl rfl (by simp [rank])
  | changing word failed =>
    simp only [change]
    split
    · split
      · exact nears_quiet hp rfl rfl rfl rfl (by simp [rank])
      · exact nears_of hp rfl rfl rfl rfl (by simp [rank])
    · exact nears_quiet hp rfl rfl rfl rfl (by simp [rank])
  | settled word =>
    simp only
    split
    · exact nears_quiet hp rfl rfl rfl rfl (by simp [rank])
    split
    · rename_i hrun
      exact take_nears hp h (h.protocol.not_install_of_run (by rw [hp]; rfl) hrun) (by simp [rank])
        (by simp [rank])
    · exact nears_quiet hp rfl rfl rfl rfl (by simp [rank])
  | performing word request | revalidating word request =>
    simp only
    split <;> exact nears_quiet hp rfl rfl rfl rfl (by simp [rank])
  | opening word request => exact access_nears hp
  | transacting word request =>
    simp only [transact]
    split
    · split <;> exact nears_of hp rfl rfl rfl rfl (by simp [rank])
    · exact nears_quiet hp rfl rfl rfl rfl (by simp [rank])
  | parked =>
    have htoken : d.token = true := by
      by_contra hno
      exact hrest (.inl ⟨hp, by simpa using hno⟩)
    simp only [htoken]
    refine ⟨⟨rfl, suffix_rfl⟩, ?_⟩
    unfold pace
    rw [hp, htoken]
    change 20 * (d.requests.items.length + 0) + 8 < 20 * (d.requests.items.length + 1) + 0
    omega
  | exited => exact absurd (.inr hp) hrest
  | panicked =>
    exact (h.protocol.at_position hp).elim

theorem alone_succ (devices : Nat → DeviceAnswer F) (d : Desk F W) (n : Nat) :
    d.alone devices (n + 1) = (d.work (devices 0)).alone (fun k => devices (k + 1)) n := by
  induction n with
  | zero => rfl
  | succ n ih => exact congrArg (fun d' => work d' (devices (n + 1))) ih

/-- The owner, left alone, comes to rest. -/
theorem exists_atRest (h : d.Inv) (devices : Nat → DeviceAnswer F) :
    ∃ n, (d.alone devices n).Inv ∧ (d.alone devices n).AtRest ∧ d.Leaves (d.alone devices n) := by
  -- every step before the rest brings the bound down
  induction hpace : d.pace using Nat.strongRecOn generalizing d devices with
  | _ pace ih =>
    by_cases hrest : d.AtRest
    · exact ⟨0, h, hrest, rfl, suffix_rfl⟩
    have hnear : d.Nears (d.work (devices 0)) := work_nears h hrest
    obtain ⟨⟨hcontrol', hlog'⟩, hlt⟩ := hnear
    obtain ⟨n, hinv, hrest', hcontrol, hlog⟩ :=
      ih _ (hpace ▸ hlt) (work_inv h) (fun k => devices (k + 1)) rfl
    refine ⟨n + 1, ?_⟩
    rw [alone_succ]
    exact ⟨hinv, hrest', hcontrol.trans hcontrol', hlog'.trans hlog⟩

/-! ## The guarantees -/

/-- **In every run of the control calls and the owner, interleaved operation by operation, whose
steps are orderly, no expectation of either side fails; every event was allowed when it happened;
at most one operation of an endpoint is outstanding; and an owner that is left alone answers every
accepted request, once.** -/
theorem fence_protocol (h : Reachable Initial (Guarded Step Orderly) d) :
    d.control.stance ≠ .panicked ∧ d.owner.position ≠ .panicked ∧ Lawful d.log ∧
    (∀ index, d.log.countP (Event.receivedAt index) ≤ d.log.countP (Event.acceptedAt index) ∧
      d.log.countP (Event.acceptedAt index) ≤ d.log.countP (Event.receivedAt index) + 1) ∧
    (d.control.stance.wakes = false → ∀ devices, ∃ n, ∀ ticket index settings,
      .accepted ticket index settings ∈ d.log →
        (d.alone devices n).log.count (.replied ticket) = 1) := by
  have hinv : d.Inv := by
    refine Reachable.invariant (P := Inv) (fun d' h' => initial_inv h')
      (fun d' move d'' h' hstep => ?_) h
    obtain ⟨horderly, rfl⟩ := hstep
    exact step_inv h' horderly
  refine ⟨fun hs => ?_, fun hp => ?_, hinv.handled.lawful, fun index => ?_,
    fun hwakes devices => ?_⟩
  · have hok := hinv.protocol.stance
    rw [hs] at hok
    exact hok
  · exact hinv.protocol.at_position hp
  · have hcounts := hinv.booked.counts index
    have hle := nodup_iff_count_le_one.mp hinv.carried.reserves.nodup index
    omega
  · obtain ⟨n, hn, hrest, hcontrol, hlog⟩ := exists_atRest hinv devices
    refine ⟨n, fun ticket index settings haccepted => ?_⟩
    exact hrest.answered hn (by rw [hcontrol]; exact hwakes) (hlog.subset haccepted)

end Runs

/-! ## Two runs -/

def relay : DeviceBinding := (⟨.gpiod, "bank", "3"⟩, .output true false false)

/-- A device on which everything succeeds. -/
def sound : DeviceAnswer ℚ :=
  { nowMs := 0, wakes := false, opened := .ok (), sample := .ok (.digital true),
    status := fun _ => .ok (), metadata := fun _ => .ok () }

/-- A call with its operations, and the owner until it rests. -/
def turn (call : Call ℚ Bool) (n : Nat) : List (Move ℚ Bool) :=
  .call call :: List.replicate n .control ++ List.replicate 20 (.owner sound)

/-- The endpoint `index` is written, and the owner gets a new list. -/
def rebinding (index : Nat) (next : List DeviceBinding) : List (Move ℚ Bool) :=
  turn (.submit index (some 1) true) 3 ++ turn .poll 1 ++ turn (.pause false) 2 ++
    turn (.stage next) 5 ++ turn .commit 5

/-- The relay is bound twice and written through its second binding, then bound once: it is dropped,
and no safe write was ever attempted. -/
theorem twin_output_dropped : ∃ d : Desk ℚ Bool, Reachable Initial Step d ∧
    .written 0 ∈ d.log ∧ .dropped 0 true ∈ d.log ∧ ∀ ok, .safed 0 ok ∉ d.log := by
  obtain ⟨d, hstart, hlog⟩ := map_eq_some_iff.mp (show
    ((start [relay, relay] id).map fun d => ((rebinding 1 [relay]).foldl step d).log) =
      some [.dropped 0 true, .observed true, .observed true, .received 0 1, .replied 0, .written 0,
        .opened 0, .performed 0 1 [relay, relay], .accepted 0 1 [relay, relay]] by
    decide +kernel)
  refine ⟨(rebinding 1 [relay]).foldl step d,
    (Reachable.init ⟨_, _, hstart⟩).run (Run.foldl step d (rebinding 1 [relay])), ?_⟩
  rw [hlog]
  exact ⟨by decide, by decide, fun ok => by cases ok <;> decide⟩

/-- The relay is bound once, written, and left out: its safe level is written before it is dropped,
and the request has its one reply. -/
theorem fence_protocol_rebinding : ∃ d : Desk ℚ Bool,
    Reachable Initial (Guarded Step Orderly) d ∧ .safed 0 true ∈ d.log ∧ .dropped 0 true ∈ d.log ∧
    d.control.stance.wakes = false ∧ Lawful d.log ∧
    ∀ devices, ∃ n, (d.alone devices n).log.count (.replied 0) = 1 := by
  obtain ⟨d, hd, hend⟩ := map_eq_some_iff.mp (show
    (((start [relay] id).bind fun d => (rebinding 0 []).foldlM
      (fun d move => if d.Orderly move then some (d.step move) else none) d).map
        fun d => (d.log, d.control.stance.wakes)) =
      some ([.dropped 0 true, .observed true, .safed 0 true, .observed true, .received 0 0,
        .replied 0, .written 0, .opened 0, .performed 0 0 [relay], .accepted 0 0 [relay]], false) by
    decide +kernel)
  obtain ⟨d₀, hstart, hrun⟩ := bind_eq_some_iff.mp hd
  obtain ⟨hlog, hwakes⟩ := Prod.mk.inj hend
  have hreach : Reachable Initial (Guarded Step Orderly) d :=
    (Reachable.init ⟨_, _, hstart⟩).run ((Run.foldlM_guarded hrun).mono
      fun s move t hstep => ⟨hstep.1, (Option.some.inj hstep.2).symm⟩)
  obtain ⟨-, -, hlawful, -, hanswers⟩ := fence_protocol hreach
  have haccepted : .accepted 0 0 [relay] ∈ d.log := by
    rw [hlog]
    decide
  refine ⟨d, hreach, by rw [hlog]; decide, by rw [hlog]; decide, hwakes, hlawful, fun devices => ?_⟩
  obtain ⟨n, hn⟩ := hanswers hwakes devices
  exact ⟨n, hn _ _ _ haccepted⟩

end Desk

end RptAdvanced.Site.DeviceWorker
