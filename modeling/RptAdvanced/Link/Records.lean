import RptAdvanced.Link.Tokens

/-!
# The records of the hub (`rust/core/src/link/hub.rs`)

A hub forgets and moves records far more often than it makes them. Abstractly it is a bag of
`Record`s: a name, whether its intent is permanent, and its place in a priority group, no matter
whether the record is a live peer, an ended one or a retry. What holds of the operations that make
no record is read off their `Edit`.

Results:
* `perform_fewer`: a quiet operation leaves a part of the bag; permanence may be given up.
* `perform_blocks`: it blocks no retry.
* `perform_descends`: each record after it is left of a record before it, and which of its fields
  the operation may change.
-/

namespace RptAdvanced.Link

open Lib List

/-- What peers and retries have in common. -/
structure Record where
  name : String
  permanent : Bool
  member : Option GroupMember
  deriving DecidableEq, Repr

def Attached.record (peer : Attached) : Record := ⟨peer.name, peer.permanent, peer.groupMember⟩

def Retry.record (retry : Retry) : Record := ⟨retry.name, retry.automatic, retry.groupMember⟩

/-- A retry that topology blocks is not being dialled. -/
def Retry.Idle (retry : Retry) : Prop := retry.blockedTopology.isSome = true → retry.attempt = none

namespace LinkManager

variable {m : LinkManager}

/-- All records, those of peers first. -/
def records (m : LinkManager) : List Record :=
  m.peers.map Attached.record ++ m.retries.map Retry.record

def names (m : LinkManager) : List String := m.peers.map (·.name) ++ m.retries.map (·.name)

/-! ## Parts of the bag -/

/-- `m'` has some of the records of `m`. Permanence may be given up. -/
structure Fewer (m m' : LinkManager) : Prop where
  localNode : m'.localNode = m.localNode
  names : m'.names.Subperm m.names
  records : ∀ r' ∈ m'.records, ∃ r ∈ m.records, r'.name = r.name ∧ r'.member = r.member
    ∧ (r'.permanent = true → r.permanent = true)

/-! ## Blocked retries -/

/-- A property of the topology block of a retry: it holds without a block, and giving up the token
keeps it. -/
structure BlockProperty (P : Retry → Prop) : Prop where
  unblocked : ∀ r : Retry, r.blockedTopology = none → P r
  keep : ∀ r r' : Retry, r'.blockedTopology = r.blockedTopology →
    (r'.attempt = r.attempt ∨ r'.attempt = none) → P r → P r'

section Block

variable {P : Retry → Prop} (hP : BlockProperty P)

include hP

/-- **An operation that makes no record blocks no retry.** -/
theorem perform_blocks (move : HubMove) (hquiet : move.quiet = true) (h : ∀ r ∈ m.retries, P r) :
    ∀ r ∈ (m.perform move).retries, P r := by
  obtain ⟨_, -, -, -, hretries, hstay, hnew, -⟩ := perform_edit m hquiet
  intro r' hr'
  rcases mem_append.mp (hretries ▸ hr') with hr' | hr'
  · obtain ⟨r, hr, hreworks⟩ := hstay.mem hr'
    rcases hreworks.blocked with hnone | hblocked
    · exact hP.unblocked r' hnone
    rcases hreworks.attempt with hattempt | hattempt | ⟨-, hnone⟩
    · exact hP.keep r r' hblocked (.inl hattempt) (h r hr)
    · exact hP.keep r r' hblocked (.inr hattempt) (h r hr)
    · exact hP.unblocked r' hnone
  · obtain ⟨p, -, paused, due, -, rfl⟩ := forall₂_mem hnew hr'
    exact hP.unblocked _ rfl

end Block

/-- No blocked retry is being dialled. -/
def Idle (m : LinkManager) : Prop := ∀ r ∈ m.retries, r.Idle

theorem idle_of_attempt {r : Retry} (h : r.attempt = none) : r.Idle := fun _ => h

theorem idle_blockProperty : BlockProperty Retry.Idle where
  unblocked r h hblocked := by
    rw [h] at hblocked
    cases hblocked
  keep r r' hblocked hattempt h hsome := by
    rcases hattempt with hattempt | hattempt
    · rw [hattempt]
      exact h (hblocked ▸ hsome)
    · exact hattempt

/-- An operation that makes no record keeps the blocked retries idle. -/
theorem perform_idle (move : HubMove) (h : move.quiet = true) (hm : m.Idle) :
    (m.perform move).Idle :=
  perform_blocks idle_blockProperty move h hm

/-! ## Where records come from -/

/-- Every record of `m'` is left of one of `m`. -/
structure Descends (resuming : Bool) (m m' : LinkManager) : Prop where
  peers : ∀ p' ∈ m'.peers, ∃ p ∈ m.peers, Becomes p p'
  retries : ∀ r' ∈ m'.retries,
    (∃ r ∈ m.retries, Remains resuming r r') ∨ ∃ p ∈ m.peers, Retires p r'

/-- **Every record after an operation that makes none is left of one before it.** -/
theorem perform_descends {resuming : Bool} {move : HubMove} (h : move.quiet = true)
    (hresumes : move.resumes = true → resuming = true) (m : LinkManager) :
    m.Descends resuming (m.perform move) := by
  obtain ⟨_, hkept, hleft, hpeers, hretries, hstay, hnew, -⟩ := perform_edit m h
  refine ⟨fun p' hp' => ?_, fun r' hr' => ?_⟩
  · obtain ⟨p, hp, hbecomes⟩ := forall₂_mem hpeers hp'
    exact ⟨p, hkept.subset hp, hbecomes⟩
  · rcases mem_append.mp (hretries ▸ hr') with hr' | hr'
    · obtain ⟨r, hr, hreworks⟩ := hstay.mem hr'
      refine .inl ⟨r, hr, { hreworks.toRemains with paused := fun hnot => hreworks.paused ?_ }⟩
      cases hmove : move.resumes with
      | false => rfl
      | true => cases hnot.symm.trans (hresumes hmove)
    · obtain ⟨p, hp, hleaves⟩ := forall₂_mem hnew hr'
      exact .inr ⟨p, hleft.subset (mem_append_right _ hp), hleaves.retires⟩

/-- **An operation that makes no record leaves some of the names.** -/
theorem perform_fewer (move : HubMove) (h : move.quiet = true) (m : LinkManager) :
    m.Fewer (m.perform move) := by
  have hdescends := @perform_descends true move h (fun _ => rfl) m
  obtain ⟨_, -, hleft, hpeers, hretries, hstay, hnew, -⟩ := perform_edit m h
  refine ⟨perform_localNode move m, ?_, fun r' hr' => ?_⟩
  · obtain ⟨l, hperm, hsub⟩ := hleft
    have hmoved : List.Subperm _ (m.peers.map (·.name)) := ⟨_, hperm.map (·.name), hsub.map _⟩
    rw [map_append] at hmoved
    unfold names
    rw [hretries, map_append, forall₂_map hpeers fun _ _ h => h.name,
      forall₂_map hnew fun _ _ h => h.retires.name]
    refine (List.Perm.subperm ?_).trans
      (hmoved.append (hstay.map_sublist fun _ _ h => h.name).subperm)
    rw [append_assoc]
    exact perm_append_comm.append_left _
  · rcases mem_append.mp hr' with hr' | hr' <;> obtain ⟨x, hx, rfl⟩ := mem_map.mp hr'
    · obtain ⟨p, hp, hbecomes⟩ := hdescends.peers x hx
      exact ⟨p.record, mem_append_left _ (mem_map_of_mem hp), hbecomes.name,
        hbecomes.member, hbecomes.permanent⟩
    · rcases hdescends.retries x hx with ⟨r, hr, hremains⟩ | ⟨p, hp, hretires⟩
      · exact ⟨r.record, mem_append_right _ (mem_map_of_mem hr), hremains.name,
          hremains.member, hremains.automatic.symm.trans⟩
      · exact ⟨p.record, mem_append_left _ (mem_map_of_mem hp), hretires.name,
          hretires.member, hretires.automatic.symm.trans⟩

/-! ## The names of the peers -/

/-- An operation that makes no record leaves the names of the peers, or some of them. -/
theorem perform_peerNames (move : HubMove) (h : move.quiet = true) (m : LinkManager) :
    ((m.perform move).peers.map (·.name)).Sublist (m.peers.map (·.name)) := by
  obtain ⟨_, hkept, -, hpeers, -⟩ := perform_edit m h
  rw [forall₂_map hpeers fun _ _ h => h.name]
  exact hkept.map _

/-- Among peers of distinct names, a rejected loop leaves no permanent peer of its name. -/
theorem rejectLoop_temporary {name : String} (hnames : (m.peers.map (·.name)).Nodup) :
    ∀ p ∈ (m.rejectLoop name).peers, p.name = name → p.permanent = false := by
  intro p' hp' hname
  obtain ⟨p, hp, hbecomes⟩ := (@endPeer_trimmed .close name _).peers.mem hp'
  rw [modifyFirst_eq_map hnames] at hp
  obtain ⟨p₀, -, rfl⟩ := mem_map.mp hp
  rw [hbecomes.name] at hname
  refine Bool.eq_false_iff.mpr fun hpermanent => ?_
  have hpermanent' := hbecomes.permanent hpermanent
  by_cases hsame : (p₀.name == name) = true
  · rw [if_pos hsame] at hpermanent'
    cases hpermanent'
  · rw [if_neg hsame] at hname
    exact hsame (beq_iff_eq.mpr hname)

theorem finishRetry_peers (attempt : RetryAttempt) (success : Bool) (nowMs : Nat)
    (m : LinkManager) : (m.finishRetry attempt success nowMs).peers = m.peers := by
  unfold finishRetry
  repeat' split
  all_goals rfl

end LinkManager

end RptAdvanced.Link
