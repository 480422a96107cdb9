import Mathlib.Data.List.Perm.Subperm
import RptAdvanced.Link.Hub

/-!
# The operations of the hub (`rust/core/src/link/hub.rs`)

Every operation of the hub is a `HubMove`. The `quiet` ones make no record: they drop peers and
retries, change them in place, or turn a peer into the retry that keeps its intent. `Edit` says what
they may change; what is shown of their tokens, names and records follows from it.

Results:
* `perform_edit`: every quiet operation is an `Edit`.
* `perform_localNode`: no operation changes whose hub it is.
-/

namespace RptAdvanced.Link

open Lib List

inductive HubMove
  | attach (name : String) (mode : Mode) (permanent : Bool)
  | attachGroup (name : String) (mode : Mode) (permanent : Bool) (group : Option String)
  | attachMember (name : String) (mode : Mode) (permanent : Bool) (member : Option GroupMember)
  | admitIncoming (name : String) (verified : Bool) (policy : AccessPolicy)
  | admitIncomingMember (name : String) (verified : Bool) (policy : AccessPolicy)
      (member : Option GroupMember)
  | updateTopology (name : String) (message : Option Protocol)
  | endPeer (name : String)
  | rejectLoop (name : String)
  | reclaim (name : String) (nowMs : Nat)
  | retainRetryGroup (name : String) (mode : Mode) (nowMs : Nat) (group : Option String)
  | retainRetryMember (name : String) (mode : Mode) (nowMs : Nat) (member : Option GroupMember)
  | retainTopologyBlockedGroup (name : String) (mode : Mode) (group : Option String)
      (member : Option GroupMember)
  | takeRetry (nowMs : Nat)
  | publishRetry (attempt : RetryAttempt)
  | finishRetry (attempt : RetryAttempt) (success : Bool) (nowMs : Nat)
  | cancelRetry (name : String)
  | pauseRetries
  | resumeRetries (nowMs : Nat)
  | resumePermanentRetry (name : String) (mode : Mode) (nowMs : Nat)
  | resumePermanentRetries (nowMs : Nat)
  | invalidateGeneration
  | disconnect (name : String)
  | disconnectPermanent (name : String)
  | disconnectTemporary
  | disconnectPermanentAll
  | disconnectAll
  | close

namespace LinkManager

/-- The state after an operation. -/
def perform (m : LinkManager) : HubMove → LinkManager
  | .attach name mode permanent => (m.attach name mode permanent).2
  | .attachGroup name mode permanent group => (m.attachGroup name mode permanent group).2
  | .attachMember name mode permanent member => (m.attachMember name mode permanent member).2
  | .admitIncoming name verified policy => (m.admitIncoming name verified policy).2
  | .admitIncomingMember name verified policy member =>
    (m.admitIncomingMember name verified policy member).2
  | .updateTopology name message => (m.updateTopology name message).2
  | .endPeer name => m.endPeer name
  | .rejectLoop name => m.rejectLoop name
  | .reclaim name nowMs => m.reclaim name nowMs
  | .retainRetryGroup name mode nowMs group => (m.retainRetryGroup name mode nowMs group).2
  | .retainRetryMember name mode nowMs member => (m.retainRetryMember name mode nowMs member).2
  | .retainTopologyBlockedGroup name mode group member =>
    m.retainTopologyBlockedGroup name mode group member
  | .takeRetry nowMs => (m.takeRetry nowMs).2
  | .publishRetry attempt => (m.publishRetry attempt).2
  | .finishRetry attempt success nowMs => m.finishRetry attempt success nowMs
  | .cancelRetry name => m.cancelRetry name
  | .pauseRetries => m.pauseRetries
  | .resumeRetries nowMs => m.resumeRetries nowMs
  | .resumePermanentRetry name mode nowMs => (m.resumePermanentRetry name mode nowMs).2
  | .resumePermanentRetries nowMs => m.resumePermanentRetries nowMs
  | .invalidateGeneration => m.invalidateGeneration
  | .disconnect name => (m.disconnect name).2
  | .disconnectPermanent name => (m.disconnectPermanent name).2
  | .disconnectTemporary => m.disconnectTemporary.2
  | .disconnectPermanentAll => m.disconnectPermanentAll.2
  | .disconnectAll => m.disconnectAll.2
  | .close => m.close.2

end LinkManager

/-- Whether an operation makes no record. -/
def HubMove.quiet : HubMove → Bool
  | .updateTopology .. | .endPeer _ | .rejectLoop _ | .reclaim .. | .takeRetry _ => true
  | .finishRetry .. => true
  | .cancelRetry _ | .pauseRetries | .resumeRetries _ | .resumePermanentRetry .. => true
  | .resumePermanentRetries _ | .invalidateGeneration | .disconnect _ => true
  | .disconnectPermanent _ | .disconnectTemporary | .disconnectPermanentAll | .disconnectAll => true
  | .close => true
  | _ => false

/-- Whether an operation resumes paused retries. -/
def HubMove.resumes : HubMove → Bool
  | .resumeRetries _ | .resumePermanentRetry .. | .resumePermanentRetries _ => true
  | _ => false

/-- A delay is none, or between one second and five minutes. -/
def Retry.Paced (r : Retry) : Prop := r.delay = 0 ∨ (1000 ≤ r.delay ∧ r.delay ≤ 300000)

namespace LinkManager

/-- A peer before and after operations that make no record. -/
structure Becomes (p p' : Attached) : Prop where
  name : p'.name = p.name
  member : p'.groupMember = p.groupMember
  permanent : p'.permanent = true → p.permanent = true
  ended : p.ended = true → p'.ended = true

/-- A retry before and after such operations. -/
structure Remains (resuming : Bool) (r r' : Retry) : Prop where
  name : r'.name = r.name
  member : r'.groupMember = r.groupMember
  automatic : r'.automatic = r.automatic
  paused : resuming = false → r.paused = true → r'.paused = true

/-- The retry that a peer leaves. Only a permanent peer leaves one that is not paused. -/
structure Retires (p : Attached) (r : Retry) : Prop where
  name : r.name = p.name
  member : r.groupMember = p.groupMember
  automatic : r.automatic = p.permanent
  permanent : r.paused = false → p.permanent = true

theorem Becomes.refl (p : Attached) : Becomes p p := ⟨rfl, rfl, id, id⟩

theorem Remains.refl {resuming : Bool} (r : Retry) : Remains resuming r r :=
  ⟨rfl, rfl, rfl, fun _ => id⟩

/-- The retry that a peer leaves is a new one. -/
def Leaves (p : Attached) (r : Retry) : Prop :=
  ∃ paused due, (paused = false → p.permanent = true) ∧ r = p.retained p.permanent paused due

theorem Leaves.retires {p : Attached} {r : Retry} (h : Leaves p r) : Retires p r := by
  obtain ⟨paused, due, hpermanent, rfl⟩ := h
  exact ⟨rfl, rfl, rfl, hpermanent⟩

/-- A retry before and after one operation. Only `take_retry` gives it a token. -/
structure Reworks (move : HubMove) (r r' : Retry) : Prop extends Remains move.resumes r r' where
  attempt : r'.attempt = r.attempt ∨ r'.attempt = none ∨
    (∃ nowMs, move = .takeRetry nowMs) ∧ r'.blockedTopology = none
  blocked : r'.blockedTopology = none ∨ r'.blockedTopology = r.blockedTopology
  paced : r.Paced → r'.Paced

theorem Reworks.refl {move : HubMove} (r : Retry) : Reworks move r r :=
  ⟨.refl r, .inl rfl, .inr rfl, id⟩

/-- `m'` has some of the peers and retries of `m`, changed in place. -/
structure Trimmed (move : HubMove) (m m' : LinkManager) : Prop where
  peers : Trims Becomes m.peers m'.peers
  retries : Trims (Reworks move) m.retries m'.retries
  serial : (∀ nowMs, move ≠ .takeRetry nowMs) → m'.serial = m.serial

/-- `m'` is left of `m`: some peers are `kept`, others `left` the retry that keeps their intent, and
every other retry was one before. -/
inductive Edit (move : HubMove) (m m' : LinkManager) : Prop
  | intro (left : List Attached) {kept : List Attached} {stay new : List Retry}
      (hkept : kept.Sublist m.peers) (hleft : (kept ++ left).Subperm m.peers)
      (hpeers : List.Forall₂ Becomes kept m'.peers)
      (hretries : m'.retries = stay ++ new) (hstay : Trims (Reworks move) m.retries stay)
      (hnew : List.Forall₂ Leaves left new)
      (hserial : (∀ nowMs, move ≠ .takeRetry nowMs) → m'.serial = m.serial)

section Edits

variable {move : HubMove}

theorem Trimmed.edit {m m' : LinkManager} (h : Trimmed move m m') : Edit move m m' := by
  obtain ⟨kept, hforall, hkept⟩ := List.sublistForall₂_iff.mp h.peers
  exact .intro [] hkept (by simpa using hkept.subperm) hforall.flip
    (append_nil _).symm h.retries .nil h.serial

variable (name : String) (nowMs : Nat) (m : LinkManager)

theorem peers_refl : Trims Becomes m.peers m.peers := trims_of_sublist .refl (.refl _)

theorem retries_refl : Trims (Reworks move) m.retries m.retries := trims_of_sublist .refl (.refl _)

theorem Trimmed.refl : Trimmed move m m := ⟨peers_refl m, retries_refl m, fun _ => rfl⟩

theorem updateTopology_trimmed (message : Option Protocol) :
    Trimmed (.updateTopology name message) m (m.updateTopology name message).2 := by
  unfold updateTopology
  split
  · split
    · exact .refl m
    split
    · exact .refl m
    refine ⟨trims_modifyFirst .refl (fun _ _ => ⟨rfl, rfl, id, id⟩) _,
      trims_map (fun r => ?_) _, fun _ => rfl⟩
    split
    · exact ⟨⟨rfl, rfl, rfl, fun _ => id⟩, .inr (.inl rfl), .inl rfl, fun _ => .inl rfl⟩
    · exact .refl r
  · exact .refl m

theorem endPeer_trimmed : Trimmed move m (m.endPeer name) := by
  unfold endPeer
  split
  · exact ⟨trims_modifyFirst .refl (fun _ _ => ⟨rfl, rfl, id, fun _ => rfl⟩) _, retries_refl m,
      fun _ => rfl⟩
  · exact .refl m

theorem rejectLoop_trimmed : Trimmed move m (m.rejectLoop name) := by
  have hend := @endPeer_trimmed move name { m with
    peers := modifyFirst (·.name == name) (fun peer => { peer with permanent := false }) m.peers }
  refine ⟨.trans (trims_modifyFirst .refl (fun _ _ => ?_) _) (fun _ _ _ h k => ?_) hend.peers,
    hend.retries, hend.serial⟩
  · exact ⟨rfl, rfl, nofun, id⟩
  · exact ⟨k.name.trans h.name, k.member.trans h.member, h.permanent ∘ k.permanent,
      k.ended ∘ h.ended⟩

/-- A reclaimed permanent peer becomes a retry. -/
theorem reclaim_edit : Edit (.reclaim name nowMs) m (m.reclaim name nowMs) := by
  unfold reclaim
  split
  · exact (Trimmed.refl m).edit
  rename_i peer hfind
  cases hpermanent : peer.permanent with
  | false =>
    exact Trimmed.edit ⟨trims_of_sublist .refl eraseP_sublist, retries_refl m, fun _ => rfl⟩
  | true =>
    refine .intro [peer] eraseP_sublist ?_
      (List.forall₂_same.mpr fun p _ => .refl p) rfl (retries_refl m) (.cons ?_ .nil) fun _ => rfl
    · exact ((perm_append_singleton ..).trans (perm_eraseP hfind).symm).subperm
    · exact ⟨false, nowMs, fun _ => hpermanent, by rw [hpermanent]⟩

theorem takeRetry_trimmed : Trimmed (.takeRetry nowMs) m (m.takeRetry nowMs).2 := by
  unfold takeRetry
  split
  · exact .refl m
  refine ⟨peers_refl m, trims_modifyFirst .refl (fun r hr => ?_) _, fun h => absurd rfl (h nowMs)⟩
  simp only [dialable, Bool.and_eq_true, Option.isNone_iff_eq_none] at hr
  exact ⟨⟨rfl, rfl, rfl, fun _ => id⟩, .inr (.inr ⟨⟨nowMs, rfl⟩, hr.1.1.2⟩), .inr rfl, id⟩

theorem finishRetry_trimmed (attempt : RetryAttempt) (success : Bool) :
    Trimmed move m (m.finishRetry attempt success nowMs) := by
  unfold finishRetry
  split
  · exact .refl m
  split
  · exact ⟨peers_refl m, trims_modifyFirst .refl
      (fun _ _ => ⟨⟨rfl, rfl, rfl, fun _ => id⟩, .inr (.inl rfl), .inr rfl, id⟩) _, fun _ => rfl⟩
  split
  · exact ⟨peers_refl m, trims_of_sublist .refl eraseP_sublist, fun _ => rfl⟩
  refine ⟨peers_refl m, trims_modifyFirst .refl (fun r _ => ?_) _, fun _ => rfl⟩
  unfold Retry.postpone
  dsimp only
  split
  · exact ⟨⟨rfl, rfl, rfl, fun _ => id⟩, .inr (.inl rfl), .inr rfl, id⟩
  · exact ⟨⟨rfl, rfl, rfl, fun _ => id⟩, .inr (.inl rfl), .inr rfl,
      fun _ => .inr (by dsimp only; unfold nextDelay; omega)⟩

theorem disconnectMode_eq (permanent : Bool) : (m.disconnectMode name permanent).2.peers
        = m.peers.filter (fun peer => peer.name != name || peer.permanent != permanent)
      ∧ (m.disconnectMode name permanent).2.retries = m.retries
      ∧ (m.disconnectMode name permanent).2.serial = m.serial := by
  unfold disconnectMode
  dsimp only
  split <;> exact ⟨rfl, rfl, rfl⟩

theorem disconnectPermanent_eq : (m.disconnectPermanent name).2.peers
        = m.peers.filter (fun peer => peer.name != name || peer.permanent != true)
      ∧ (m.disconnectPermanent name).2.retries
        = m.retries.filter (fun retry => retry.name != name || !retry.automatic)
      ∧ (m.disconnectPermanent name).2.serial = m.serial := by
  unfold disconnectPermanent
  dsimp only
  split <;> exact disconnectMode_eq name _ true

/-- The permanent peers leave their retries. -/
theorem disconnectPermanentAll_edit :
    Edit .disconnectPermanentAll m m.disconnectPermanentAll.2 := by
  refine .intro (m.peers.filter (·.permanent)) filter_sublist ?_
    (List.forall₂_same.mpr fun p _ => .refl p) rfl (trims_map (fun r => ?_) _) ?_ fun _ => rfl
  · exact (perm_append_comm.trans (filter_append_perm ..)).subperm
  · split
    · exact ⟨⟨rfl, rfl, rfl, fun _ _ => rfl⟩, .inr (.inl rfl), .inr rfl, id⟩
    · exact .refl r
  · refine List.forall₂_map_right_iff.mpr (List.forall₂_same.mpr fun p hp => ?_)
    exact ⟨true, 0, nofun, by rw [(mem_filter.mp hp).2]⟩

/-- Every peer leaves a retry. -/
theorem disconnectAll_edit : Edit .disconnectAll m m.disconnectAll.2 := by
  refine .intro m.peers (nil_sublist _) (.refl _) .nil rfl
    (trims_map (fun r => ?_) _) ?_ fun _ => rfl
  · exact ⟨⟨rfl, rfl, rfl, fun _ _ => rfl⟩, .inl rfl, .inr rfl, id⟩
  · exact List.forall₂_map_right_iff.mpr (List.forall₂_same.mpr fun p _ => ⟨true, 0, nofun, rfl⟩)

/-- **An operation that makes no record is an `Edit`.** -/
theorem perform_edit (h : move.quiet = true) : Edit move m (m.perform move) := by
  cases move with
  | updateTopology name message => exact (updateTopology_trimmed name m message).edit
  | endPeer name => exact (endPeer_trimmed name m).edit
  | rejectLoop name => exact (rejectLoop_trimmed name m).edit
  | reclaim name nowMs => exact reclaim_edit name nowMs m
  | takeRetry nowMs => exact (takeRetry_trimmed nowMs m).edit
  | finishRetry attempt success nowMs => exact (finishRetry_trimmed nowMs m attempt success).edit
  | cancelRetry name =>
    exact Trimmed.edit ⟨peers_refl m, trims_of_sublist .refl filter_sublist, fun _ => rfl⟩
  | pauseRetries =>
    exact Trimmed.edit ⟨peers_refl m, trims_map (fun _ =>
      ⟨⟨rfl, rfl, rfl, fun _ _ => rfl⟩, .inl rfl, .inr rfl, id⟩) _, fun _ => rfl⟩
  | resumeRetries nowMs =>
    exact Trimmed.edit ⟨peers_refl m, trims_map (fun _ =>
      ⟨⟨rfl, rfl, rfl, nofun⟩, .inl rfl, .inl rfl, fun _ => .inl rfl⟩) _, fun _ => rfl⟩
  | resumePermanentRetry name mode nowMs =>
    unfold perform resumePermanentRetry
    dsimp only
    split
    · exact Trimmed.edit ⟨peers_refl m, trims_modifyFirst .refl (fun _ _ =>
        ⟨⟨rfl, rfl, rfl, nofun⟩, .inr (.inl rfl), .inl rfl, fun _ => .inl rfl⟩) _, fun _ => rfl⟩
    · exact (Trimmed.refl m).edit
  | resumePermanentRetries nowMs =>
    refine Trimmed.edit ⟨peers_refl m, trims_map (fun r => ?_) _, fun _ => rfl⟩
    split
    · exact ⟨⟨rfl, rfl, rfl, nofun⟩, .inl rfl, .inl rfl, fun _ => .inl rfl⟩
    · exact .refl r
  | invalidateGeneration =>
    exact Trimmed.edit ⟨peers_refl m, trims_map (fun _ =>
      ⟨⟨rfl, rfl, rfl, fun _ => id⟩, .inr (.inl rfl), .inl rfl, fun _ => .inl rfl⟩) _, fun _ => rfl⟩
  | disconnect name =>
    obtain ⟨hpeers, hretries, hserial⟩ := disconnectMode_eq name m false
    exact Trimmed.edit ⟨trims_of_sublist .refl (hpeers ▸ filter_sublist),
      trims_of_sublist .refl (hretries ▸ .refl _), fun _ => hserial⟩
  | disconnectPermanent name =>
    obtain ⟨hpeers, hretries, hserial⟩ := disconnectPermanent_eq name m
    exact Trimmed.edit ⟨trims_of_sublist .refl (hpeers ▸ filter_sublist),
      trims_of_sublist .refl (hretries ▸ filter_sublist), fun _ => hserial⟩
  | disconnectTemporary =>
    exact Trimmed.edit ⟨trims_of_sublist .refl filter_sublist, retries_refl m, fun _ => rfl⟩
  | disconnectPermanentAll => exact disconnectPermanentAll_edit m
  | disconnectAll => exact disconnectAll_edit m
  | close => exact Trimmed.edit ⟨.nil, .nil, fun _ => rfl⟩
  | _ => cases h

end Edits

theorem endPeer_localNode (name : String) (m : LinkManager) :
    (m.endPeer name).localNode = m.localNode := by
  unfold endPeer
  split <;> rfl

theorem perform_localNode (move : HubMove) (m : LinkManager) :
    (m.perform move).localNode = m.localNode := by
  cases move with
  | rejectLoop name => exact endPeer_localNode name _
  | endPeer name => exact endPeer_localNode name m
  | disconnectPermanent name =>
    have hmode : ∀ m : LinkManager, (m.disconnectMode name true).2.localNode = m.localNode := by
      intro m
      unfold disconnectMode
      dsimp only
      split <;> rfl
    unfold perform disconnectPermanent
    dsimp only
    split <;> exact hmode _
  | _ =>
    simp only [perform, attach, attachGroup, attachMember, admitIncoming, admitIncomingMember,
      updateTopology, reclaim, retainRetryGroup, retainRetryMember, retainTopologyBlockedGroup,
      takeRetry, publishRetry, finishRetry, resumePermanentRetry, disconnect, disconnectMode]
    repeat' split
    all_goals rfl

end LinkManager

end RptAdvanced.Link
