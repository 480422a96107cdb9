import RptAdvanced.Runtime.Roster

/-!
# Release of topology-blocked retries (`rust/core/src/link/hub.rs`)

A dial that is rejected as a loop is kept as a blocked retry with a snapshot of the evidence against
it: the paths that live peers advertise to its name, or, for a member of a group, the peer of that
name. An advertisement that changes releases the retries whose evidence is no longer the snapshot.

The evidence does not record everything that rejects a dial. A retry or, outside a group, a peer of
the same name rejects it too, and then the snapshot is empty. It equals the evidence once that
record is gone, and advertisements that have nothing to do with the name never release the retry.

Results:
* `blocked_conflicts`: as long as dials are blocked on recorded evidence only, a retry that an
  advertisement leaves blocked is in conflict, and one that it releases has other evidence.
* `blocked_without_conflict`: a run after which a retry stays blocked without a conflict.
-/

namespace RptAdvanced.Link

open Lib List Option Bool

/-- A topology block has evidence. -/
def Retry.Grounded (retry : Retry) : Prop :=
  ∀ evidence, retry.blockedTopology = some evidence → evidence.paths ≠ []

namespace LinkManager

variable {m m' : LinkManager}

/-- Whether a retry of `name` is in conflict: a peer has that name or, outside a group, a live peer
advertises it. -/
def conflicts (m : LinkManager) (name : String) (group : Option String) : Bool :=
  m.peers.any (fun peer => peer.name == name) || (group.isNone && m.peers.any (advertises name))

theorem grounded_blockProperty : BlockProperty Retry.Grounded where
  unblocked r h evidence hevidence := by
    rw [h] at hevidence
    cases hevidence
  keep r r' hblocked _ h evidence hevidence := h evidence (hblocked ▸ hevidence)

/-- Evidence is a conflict. -/
theorem conflicts_of_evidence {name : String} {group : Option String}
    (h : (m.topologyEvidence name group).paths ≠ []) : m.conflicts name group = true := by
  unfold conflicts
  rw [or_eq_true]
  cases group with
  | some label =>
    refine .inl (any_eq_true.mpr ?_)
    obtain ⟨path, hpath⟩ := exists_mem_of_ne_nil _ h
    obtain ⟨peer, hpeer, -⟩ := mem_map.mp hpath
    exact ⟨peer, mem_filter.mp hpeer⟩
  | none =>
    refine .inr ?_
    by_contra hnone
    refine h ?_
    have hpaths : ((m.peers.filter (!·.ended)).flatMap fun peer =>
        (peer.routes.filter (·.node == name)).map fun route => (peer.name, route.mode)) = [] := by
      refine flatMap_eq_nil_iff.mpr fun peer hpeer => ?_
      obtain ⟨hmem, hlive⟩ := mem_filter.mp hpeer
      refine map_eq_nil_iff.mpr (filter_eq_nil_iff.mpr fun route hroute hnode => hnone ?_)
      refine any_eq_true.mpr ⟨peer, hmem, ?_⟩
      unfold advertises
      rw [hlive, Bool.true_and]
      exact any_eq_true.mpr ⟨route, hroute, hnode⟩
    unfold topologyEvidence
    rw [hpaths]
    rfl

theorem released_iff {r : Retry} :
    m.released r = true ↔ ∃ evidence, r.blockedTopology = some evidence
      ∧ evidence ≠ m.topologyEvidence r.name r.group := by
  unfold released
  rw [Option.any_eq_true]
  simp only [decide_eq_true_eq]

/-- A retry that stays blocked has the evidence of its snapshot. -/
theorem releaseChangedTopologyBlocks_kept {r : Retry}
    (hr : r ∈ m.releaseChangedTopologyBlocks.retries) (hblocked : r.blockedTopology.isSome = true) :
    r ∈ m.retries ∧ r.blockedTopology = some (m.topologyEvidence r.name r.group) := by
  obtain ⟨r₀, hr₀, he⟩ := mem_map.mp hr
  split at he
  · rw [← he] at hblocked
    cases hblocked
  rename_i hkept
  subst he
  refine ⟨hr₀, ?_⟩
  obtain ⟨evidence, hevidence⟩ := isSome_iff_exists.mp hblocked
  rw [hevidence]
  by_contra hne
  refine hkept (released_iff.mpr ⟨evidence, hevidence, fun heq => hne ?_⟩)
  rw [heq]

/-- A retry is released on other evidence only. -/
theorem releaseChangedTopologyBlocks_released {i : Nat} {r r' : Retry} {evidence : TopologyEvidence}
    (hr : m.retries[i]? = some r) (hr' : m.releaseChangedTopologyBlocks.retries[i]? = some r')
    (hblocked : r.blockedTopology = some evidence) (hreleased : r'.blockedTopology = none) :
    evidence ≠ m.topologyEvidence r.name r.group := by
  unfold releaseChangedTopologyBlocks at hr'
  rw [getElem?_map, hr, map_some, Option.some.injEq] at hr'
  split at hr'
  · rename_i hchanged
    obtain ⟨evidence', hevidence', hne⟩ := released_iff.mp hchanged
    rw [hblocked] at hevidence'
    cases hevidence'
    exact hne
  · rw [← hr', hblocked] at hreleased
    cases hreleased

end LinkManager

end RptAdvanced.Link

namespace RptAdvanced.Runtime

open Lib List Link Schedule Option Bool

namespace LinkControl

variable {c : LinkControl} {result : Except AdmissionError Bool}

/-- Every blocked retry has evidence. -/
def Grounded (c : LinkControl) : Prop := ∀ r ∈ c.manager.retries, r.Grounded

/-- A dial that the hub would reject as a loop is rejected on evidence that it records. -/
def Evident (c : LinkControl) (dial : ConnectAttempt) : Prop :=
  c.manager.checkGroup dial.remote true (dial.group.map (·.label)) = .error .loop →
    (c.manager.topologyEvidence dial.remote (dial.group.map (·.label))).paths ≠ []

/-- The same for the dial of a retry. -/
def RetryEvident (c : LinkControl) (attempt : RetryAttempt) : Prop :=
  ∀ r ∈ c.manager.retries, r.carries attempt = true →
    (c.manager.checkGroup attempt.name false r.group).toBool = false →
      (c.manager.topologyEvidence attempt.name r.group).paths ≠ []

theorem Outcome.grounded {dial : ConnectAttempt} {answered blocked : Bool} {nowMs : Nat}
    {m : LinkManager} (h : Outcome dial answered nowMs c.manager result blocked m) (hc : c.Grounded)
    (hevident : answered = true → dial.permanent = true → c.Evident dial) :
    ∀ r ∈ m.retries, r.Grounded := by
  cases h with
  | refused | dropped | attached => exact hc
  | retained =>
    refine forall_mem_append.mpr ⟨hc, fun r hr => ?_⟩
    rw [mem_singleton.mp hr]
    exact LinkManager.grounded_blockProperty.unblocked _ rfl
  | blocked hanswered hpermanent hcheck =>
    have hpaths := hevident hanswered hpermanent hcheck
    have hnew : ∀ r : Retry, r.blockedTopology
        = some (c.manager.topologyEvidence dial.remote (dial.group.map (·.label))) →
          r.Grounded := by
      intro r hr evidence hevidence
      rw [hr] at hevidence
      cases hevidence
      exact hpaths
    unfold LinkManager.retainTopologyBlockedGroup
    split
    · intro r hr
      rcases mem_modifyFirst hr with hr | ⟨_, _, rfl⟩
      · exact hc r hr
      · exact hnew _ rfl
    · refine forall_mem_append.mpr ⟨hc, fun r hr => ?_⟩
      rw [mem_singleton.mp hr]
      exact hnew _ rfl

/-- What a refusal of a retry's dial does to the retries. -/
theorem publishRetry_grounded {a : RetryAttempt} {e : AdmissionError} {m₁ : LinkManager}
    (h : c.manager.publishRetry a = (.error e, m₁)) (hc : c.Grounded)
    (hevident : c.RetryEvident a) :
    ∀ r ∈ m₁.retries, r.Grounded := by
  unfold LinkManager.publishRetry at h
  split at h
  · cases h
    exact hc
  split at h
  · cases h
    exact hc
  rename_i r hfind
  have hcarries := find?_some hfind
  rw [and_eq_true] at hcarries
  split at h
  · rename_i hcheck
    cases h
    intro r' hr'
    rcases mem_modifyFirst hr' with hr' | ⟨r₀, hfind', rfl⟩
    · exact hc r' hr'
    rw [hfind] at hfind'
    cases hfind'
    intro evidence hevidence
    cases hevidence
    refine hevident r (mem_of_find?_eq_some hfind) hcarries.1 ?_
    rw [hcheck]
    rfl
  · cases h

theorem RetryOutcome.grounded {retry : RetryWork} {nowMs : Nat} {m : LinkManager}
    (h : RetryOutcome retry nowMs c.manager result m) (hc : c.Grounded)
    (hevident : c.RetryEvident retry.attempt) : ∀ r ∈ m.retries, r.Grounded := by
  have hfinish := fun (m : LinkManager) (hm : ∀ r ∈ m.retries, r.Grounded) (success : Bool) =>
    LinkManager.perform_blocks LinkManager.grounded_blockProperty
      (.finishRetry retry.attempt success nowMs) rfl hm
  cases h with
  | unpublished => exact hfinish _ hc false
  | rejected e m₁ h => exact hfinish m₁ (publishRetry_grounded h hc hevident) false
  | published m₁ h =>
    obtain ⟨r, -, -, -, -, rfl⟩ := LinkManager.publishRetry_ok h
    exact hfinish (c.manager.publish retry.attempt.name retry.attempt.mode r.automatic r.group
      r.groupMember) hc true

end LinkControl

namespace LinkDesk

variable [ScheduleProvider] {d d' : LinkDesk} {move : LinkMove}

/-- Dials that return answered are blocked on recorded evidence only. -/
def Substantiated (d : LinkDesk) : LinkMove → Prop
  | .finishConnect dial answered _ _ _ _ =>
    answered = true → dial.permanent = true → d.control.Evident dial
  | .finishRetry retry _ _ _ => d.control.RetryEvident retry.attempt
  | _ => True

theorem Step.grounded (h : d.Step move d') (hok : d.Substantiated move)
    (hd : d.control.Grounded) : d'.control.Grounded := by
  have hhub := (step_stepped h).hub
  unfold LinkControl.Grounded
  generalize d'.control.manager = m' at hhub ⊢
  cases hhub with
  | quiet h =>
    refine h.invariant (I := fun m => ∀ r ∈ m.retries, r.Grounded) ?_ hd
    exact fun m op hop _ hm =>
      LinkManager.perform_blocks LinkManager.grounded_blockProperty op hop hm
  | accepted | called => exact hd
  | connected _ _ _ _ _ _ _ _ _ _ hout => exact hout.grounded hd hok
  | retried _ _ _ _ _ _ hout => exact hout.grounded hd hok

/-- **An advertisement that changes a peer's paths leaves blocked only retries in conflict, and
releases only retries whose evidence has changed**, as long as dials are blocked on recorded
evidence. -/
theorem blocked_conflicts (h : Reachable Initial (Guarded Step Substantiated) d) (name : String)
    (routes : List Link.Route) (peer : Attached)
    (hpeer : d.control.manager.peers.find? (·.name == name) = some peer)
    (hchanged : peer.routes ≠ routes) : let m := d.control.manager
    let m' := (m.updateTopology name (some (.topology routes))).2
    (∀ r ∈ m'.retries, r.blockedTopology.isSome = true → m'.conflicts r.name r.group = true)
      ∧ ∀ (i : Nat) (r r' : Retry) (evidence : TopologyEvidence), m.retries[i]? = some r →
        m'.retries[i]? = some r' → r.blockedTopology = some evidence → r'.blockedTopology = none →
          evidence ≠ m'.topologyEvidence r.name r.group := by
  intro m m'
  have hgrounded : d.control.Grounded := by
    refine h.invariant (P := fun d => d.control.Grounded) (fun d hd => ?_)
      fun _ _ _ hd hstep => hstep.2.grounded hstep.1 hd
    obtain ⟨localNode, policy, candidate, s, control, -, hnew, rfl⟩ := hd
    rw [LinkControl.new_eq hnew]
    exact forall_mem_nil _
  have hm' : m' = (m.adopt name routes).releaseChangedTopologyBlocks := by
    change (m.updateTopology ..).2 = _
    unfold LinkManager.updateTopology
    rw [hpeer]
    dsimp only
    rw [if_neg hchanged]
  rw [hm']
  refine ⟨fun r hr hblocked => ?_, fun i r r' evidence hr hr' hblocked hreleased => ?_⟩
  · obtain ⟨hmem, hevidence⟩ := LinkManager.releaseChangedTopologyBlocks_kept hr hblocked
    exact LinkManager.conflicts_of_evidence (m := m.adopt name routes)
      (hgrounded r hmem _ hevidence)
  · exact LinkManager.releaseChangedTopologyBlocks_released (m := m.adopt name routes) hr hr'
      hblocked hreleased

instance (c : LinkControl) (dial : ConnectAttempt) : Decidable (c.Evident dial) :=
  inferInstanceAs (Decidable (_ → _))

instance (c : LinkControl) (attempt : RetryAttempt) : Decidable (c.RetryEvident attempt) :=
  inferInstanceAs (Decidable (∀ r ∈ c.manager.retries, _ → _ → _))

instance (d : LinkDesk) : DecidablePred d.Substantiated := fun move => by
  apply move.casesOn (motive := fun m => Decidable (d.Substantiated m)) <;> intros <;>
    dsimp only [Substantiated] <;> infer_instance

omit [ScheduleProvider]

/-- Two dials of node 2000: the first finds no answer and is kept, and the kept retry makes the
second a loop. -/
def secondDial : List LinkMove :=
  [.command ⟨.permanentTransceive, "2000"⟩ 1 true 0,
    .command ⟨.permanentTransceive, "2000"⟩ 1 true 0,
    .finishConnect operatorDial false true 0 none fun _ => none, answeredDial, .accept "3000" true]

/-- An unrelated advertisement then leaves the retry of 2000 blocked, though no peer has that name
or advertises it. -/
theorem blocked_without_conflict :
    ∃ (_ : ScheduleProvider) (d : LinkDesk) (peer : Attached), Reachable Initial Step d
      ∧ d.control.manager.peers.find? (·.name == "3000") = some peer ∧ peer.ended = false
      ∧ peer.routes ≠ [⟨'T', "4000"⟩]
      ∧ ∃ r ∈ (d.control.manager.updateTopology "3000"
        (some (.topology [⟨'T', "4000"⟩]))).2.retries,
        r.blockedTopology.isSome = true
          ∧ (d.control.manager.updateTopology "3000" (some (.topology [⟨'T', "4000"⟩]))).2.conflicts
            r.name r.group = false := by
  obtain ⟨d, hreach, hpeer, hblocked⟩ := exists_reachable _ (@step RouteDesk.evening) secondDial
    bareDesk (fun _ => @bareDesk_initial RouteDesk.evening _) (fun d =>
      ((d.control.manager.peers.find? (·.name == "3000")).map fun p => (p.ended, p.routes))
        = some (false, [])
      ∧ ∃ r ∈ (d.control.manager.updateTopology "3000"
        (some (.topology [⟨'T', "4000"⟩]))).2.retries,
        r.blockedTopology.isSome = true ∧ (d.control.manager.updateTopology "3000"
          (some (.topology [⟨'T', "4000"⟩]))).2.conflicts r.name r.group = false)
    (by decide +kernel)
  obtain ⟨peer, hpeer, hfresh⟩ := map_eq_some_iff.mp hpeer
  rw [Prod.mk.injEq] at hfresh
  refine ⟨RouteDesk.evening, d, peer, hreach, hpeer, hfresh.1, ?_, hblocked⟩
  rw [hfresh.2]
  exact (cons_ne_nil _ _).symm

/-- Node 3000 advertises node 2000 before the dial of 2000 is answered. -/
def advertisedDial : List LinkMove :=
  [.command ⟨.permanentTransceive, "2000"⟩ 1 true 0, .accept "3000" true,
    .peerText "3000" (some (.topology [⟨'T', "2000"⟩])) false, answeredDial]

theorem blocked_conflicts_advertised : ∃ (_ : ScheduleProvider) (d : LinkDesk),
      Reachable Initial (Guarded Step Substantiated) d
      ∧ (d.control.manager.retries.map fun r => (r.name, r.blockedTopology))
        = [("2000", some ⟨[("3000", 'T')]⟩)]
      ∧ ∀ r ∈ (d.control.manager.updateTopology "3000"
          (some (.topology [⟨'T', "2000"⟩, ⟨'T', "4000"⟩]))).2.retries,
        r.blockedTopology.isSome = true → (d.control.manager.updateTopology "3000"
          (some (.topology [⟨'T', "2000"⟩, ⟨'T', "4000"⟩]))).2.conflicts r.name r.group = true := by
  obtain ⟨d, hreach, hpeer, hretries⟩ := exists_reachable_guarded _ (@step RouteDesk.evening)
    Substantiated advertisedDial bareDesk (fun _ => @bareDesk_initial RouteDesk.evening _) (fun d =>
      (d.control.manager.peers.find? (·.name == "3000")).map (·.routes) = some [⟨'T', "2000"⟩]
      ∧ (d.control.manager.retries.map fun r => (r.name, r.blockedTopology))
        = [("2000", some ⟨[("3000", 'T')]⟩)]) (by decide +kernel)
  obtain ⟨peer, hpeer, hroutes⟩ := map_eq_some_iff.mp hpeer
  have hchanged : peer.routes ≠ [⟨'T', "2000"⟩, ⟨'T', "4000"⟩] := by
    rw [hroutes]
    decide
  exact ⟨RouteDesk.evening, d, hreach, hretries,
    (@blocked_conflicts RouteDesk.evening d hreach "3000" _ peer hpeer hchanged).1⟩

end LinkDesk

end RptAdvanced.Runtime
