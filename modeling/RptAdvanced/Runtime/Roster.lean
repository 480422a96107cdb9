import RptAdvanced.Runtime.LinkMoves
import RptAdvanced.Runtime.Replacement

/-!
# One record for each identity (`rust/core/src/link/hub.rs`, `rust/core/src/runtime/links.rs`)

The hub looks records up by name, so a name must have one record: a peer or a retry, not both. Every
operation checks this but one. `retain_topology_blocked_group` keeps the intent of an answered dial
that was rejected as a loop, and a dial is also rejected when its remote is already a peer (it
called in during the dial): then the retry stands beside the peer. The next disconnect-all turns the
peer into a second retry.

Results:
* `hub_roster`: as long as no answered permanent dial returns while its remote is a peer, or dials
  the node itself, names are unique, decimal and foreign.
* `blocked_beside_peer`: a run in which a peer and a retry, and then two retries, share a name.
-/

namespace RptAdvanced.Link

open Lib List Option

namespace LinkManager

variable {m m' : LinkManager}

/-- Each name has one record, is a decimal identity and is not the node's own. -/
structure Roster (m : LinkManager) : Prop where
  names : m.names.Nodup
  foreign : ∀ name ∈ m.names, name ≠ m.localNode
  decimal : ∀ name ∈ m.names, decimalIdentity name = true

theorem Roster.trim (h : m.Roster) (hlocal : m'.localNode = m.localNode)
    (hnames : m'.names.Subperm m.names) : m'.Roster := by
  obtain ⟨l, hperm, hsub⟩ := hnames
  refine ⟨hperm.nodup_iff.mp (h.names.sublist hsub), fun name hname => ?_, fun name hname => ?_⟩
  · rw [hlocal]
    exact h.foreign name (hsub.subset (hperm.mem_iff.mpr hname))
  · exact h.decimal name (hsub.subset (hperm.mem_iff.mpr hname))

variable {name : String} {r : Retry} {group : Option String}

/-- A new name. -/
theorem Roster.enter (h : m.Roster) (hlocal : m'.localNode = m.localNode)
    (hnames : m'.names.Perm (name :: m.names)) (hnew : name ∉ m.names)
    (hforeign : name ≠ m.localNode) (hdecimal : decimalIdentity name = true) : m'.Roster := by
  refine ⟨hnames.nodup_iff.mpr (nodup_cons.mpr ⟨hnew, h.names⟩), fun n hn => ?_, fun n hn => ?_⟩
  · rw [hlocal]
    rcases mem_cons.mp (hnames.mem_iff.mp hn) with rfl | hn
    · exact hforeign
    · exact h.foreign n hn
  · rcases mem_cons.mp (hnames.mem_iff.mp hn) with rfl | hn
    · exact hdecimal
    · exact h.decimal n hn

theorem Roster.tokens (h : m.Roster) : m.tokens.Nodup := by
  have hretries : m.retries.Pairwise fun r r' => r.name ≠ r'.name :=
    pairwise_map.mp (nodup_append.mp h.names).2.1
  refine hretries.filterMap _ fun r r' hne t ht t' ht' he => hne ?_
  obtain ⟨serial, -, rfl⟩ := map_eq_some_iff.mp ht
  obtain ⟨serial', -, rfl⟩ := map_eq_some_iff.mp ht'
  exact (Prod.mk.inj he).1

/-! ## Admission -/

theorem checkGroup_ok {retries : Bool} (h : m.checkGroup name retries group = .ok ()) :
    decimalIdentity name = true ∧ name ≠ m.localNode ∧ name ∉ m.peers.map (·.name)
      ∧ (retries = true → name ∉ m.retries.map (·.name)) := by
  unfold checkGroup at h
  split at h
  · cases h
  split at h
  · cases h
  rename_i hdecimal hfree
  simp only [Bool.or_eq_true, Bool.and_eq_true, beq_iff_eq, List.any_eq_true, not_or,
    not_exists, not_and] at hfree
  refine ⟨by simpa using hdecimal, hfree.1.1, fun hmem => ?_, fun hretries hmem => ?_⟩
  · obtain ⟨p, hp, hname⟩ := mem_map.mp hmem
    exact (hfree.1.2 p hp).1 hname
  · obtain ⟨r, hr, hname⟩ := mem_map.mp hmem
    exact hfree.2 hretries r hr hname

theorem names_subperm (hpeers : m'.peers = m.peers)
    (hretries : m'.retries.map (·.name) = m.retries.map (·.name)) : m'.names.Subperm m.names := by
  unfold names
  rw [hpeers, hretries]

theorem names_publish (name : String) (mode : Mode) (permanent : Bool) (group : Option String)
    (member : Option GroupMember) (m : LinkManager) :
    (m.publish name mode permanent group member).names.Perm (name :: m.names) := by
  unfold names publish
  simp only [refreshGroupSelections_peers, refreshGroupSelections_retries, revised_retries,
    map_append, map_cons, map_nil, append_assoc]
  exact perm_middle

theorem names_retained (hpeers : m'.peers = m.peers)
    (hretries : m'.retries = m.retries ++ [r]) : m'.names.Perm (r.name :: m.names) := by
  unfold names
  rw [hpeers, hretries, map_append, ← append_assoc]
  exact perm_append_comm

/-- A blocked dial may keep its intent if its remote is no peer. -/
theorem retainTopologyBlockedGroup_roster (h : m.Roster) (mode : Mode)
    (group : Option String) (member : Option GroupMember) (hpeer : name ∉ m.peers.map (·.name))
    (hforeign : name ≠ m.localNode) (hdecimal : decimalIdentity name = true) :
    (m.retainTopologyBlockedGroup name mode group member).Roster := by
  unfold retainTopologyBlockedGroup
  split
  · refine h.trim rfl (names_subperm rfl (map_modifyFirst ?_ m.retries))
    exact fun _ => rfl
  rename_i hretry
  refine h.enter rfl (names_retained rfl rfl)
    (not_mem_append hpeer fun hmem => hretry ?_) hforeign hdecimal
  obtain ⟨r, hr, hname⟩ := mem_map.mp hmem
  exact List.any_eq_true.mpr ⟨r, hr, beq_iff_eq.mpr hname⟩

/-! ## A retry's dial returns -/

variable {a : RetryAttempt} {e : AdmissionError}

theorem finishRetry_mem {success : Bool} {nowMs : Nat}
    (h : r ∈ (m.finishRetry a success nowMs).retries) : r ∈ m.retries ∨ r.attempt = none := by
  unfold finishRetry at h
  split at h
  · exact .inl h
  split at h
  · rcases mem_modifyFirst h with h | ⟨_, _, rfl⟩
    · exact .inl h
    · exact .inr rfl
  split at h
  · exact .inl (mem_of_mem_eraseP h)
  rcases mem_modifyFirst h with h | ⟨_, _, rfl⟩
  · exact .inl h
  refine .inr ?_
  unfold Retry.postpone
  dsimp only
  split <;> rfl

theorem publishRetry_ok (h : m.publishRetry a = (.ok (), m')) :
    ∃ r ∈ m.retries, r.carries a = true ∧ r.paused = false
      ∧ m.checkGroup a.name false r.group = .ok ()
      ∧ m' = m.publish a.name a.mode r.automatic r.group r.groupMember := by
  unfold publishRetry at h
  split at h
  · cases h
  split at h
  · cases h
  rename_i r hfind
  have hr := find?_some hfind
  rw [Bool.and_eq_true, Bool.not_eq_true'] at hr
  split at h
  · cases h
  rename_i hcheck
  cases h
  exact ⟨r, mem_of_find?_eq_some hfind, hr.1, hr.2, hcheck, rfl⟩

theorem carries_eq : r.carries a = true ↔ r.name = a.name ∧ r.attempt = some a.serial := by
  unfold Retry.carries
  rw [Bool.and_eq_true, beq_iff_eq, beq_iff_eq]

/-- A published retry gives its name to the peer. -/
theorem finishRetry_published (hidle : m.Idle) (nowMs : Nat) (h : m.publishRetry a = (.ok (), m')) :
    (m'.finishRetry a true nowMs).names.Perm m.names := by
  obtain ⟨r, hr, hcarries, -, -, rfl⟩ := publishRetry_ok h
  unfold finishRetry
  split
  · rename_i hnone
    exact absurd hcarries (find?_eq_none.mp hnone r hr)
  rename_i r₀ hfind
  have hcarries₀ := find?_some hfind
  obtain ⟨hname, hattempt⟩ := carries_eq.mp hcarries₀
  have hblocked : ¬ r₀.blockedTopology.isSome = true := fun hblocked => by
    rw [hidle r₀ (mem_of_find?_eq_some hfind) hblocked] at hattempt
    cases hattempt
  rw [if_neg hblocked, Bool.true_or, Bool.true_or, Bool.true_or, if_pos rfl]
  have hretries := (perm_eraseP hfind).map (·.name)
  rw [map_cons, hname] at hretries
  unfold names publish
  simp only [refreshGroupSelections_peers, refreshGroupSelections_retries, revised_retries,
    map_append, map_cons, map_nil, append_assoc, singleton_append]
  exact hretries.symm.append_left _

/-- A refusal changes at most the retry that carries the token. -/
theorem publishRetry_error (h : m.publishRetry a = (.error e, m')) :
    m'.peers = m.peers ∧ m'.retries.map (·.name) = m.retries.map (·.name)
      ∧ ∀ r ∈ m'.retries, r ∈ m.retries ∨ r.carries a = true := by
  unfold publishRetry at h
  split at h
  · cases h
    exact ⟨rfl, rfl, fun _ => .inl⟩
  split at h
  · cases h
    exact ⟨rfl, rfl, fun _ => .inl⟩
  rename_i r hfind
  have hr := find?_some hfind
  rw [Bool.and_eq_true] at hr
  split at h
  · cases h
    refine ⟨rfl, map_modifyFirst ?_ m.retries, fun r' hr' => ?_⟩
    · exact fun _ => rfl
    · rcases mem_modifyFirst hr' with hr' | ⟨r₀, hfind', rfl⟩
      · exact .inl hr'
      rw [hfind] at hfind'
      cases hfind'
      exact .inr hr.1
  · cases h

/-- A refused retry keeps its name and gives up its token. -/
theorem finishRetry_refused (hroster : m.Roster) (hidle : m.Idle)
    (nowMs : Nat) (h : m.publishRetry a = (.error e, m')) :
    (m'.finishRetry a false nowMs).names.Subperm m.names ∧ (m'.finishRetry a false nowMs).Idle := by
  have hsheds := publishRetry_sheds a m
  rw [h] at hsheds
  have hsettled : (a.name, a.serial) ∉ (m'.finishRetry a false nowMs).tokens :=
    finishRetry_settles (hroster.tokens.sublist hsheds.tokens) a false nowMs
  obtain ⟨hpeers, hnames, hretries⟩ := publishRetry_error h
  refine ⟨?_, fun r hr => ?_⟩
  · exact (perform_fewer (.finishRetry a false nowMs) rfl m').names.trans
      (names_subperm hpeers hnames)
  · rcases finishRetry_mem hr with hr' | hattempt
    · rcases hretries r hr' with hr' | hcarries
      · exact hidle r hr'
      · exact absurd (mem_tokens.mpr ⟨r, hr, hcarries⟩) hsettled
    · exact idle_of_attempt hattempt

end LinkManager

end RptAdvanced.Link

namespace RptAdvanced.Runtime

open Lib List Link Schedule Option

namespace LinkControl

variable {c c' : LinkControl} {result : Except AdmissionError Bool}

/-- What the hub keeps between operations. -/
structure Tidy (c : LinkControl) : Prop where
  local_eq : c.manager.localNode = c.localNode
  roster : c.manager.Roster
  idle : c.manager.Idle

theorem Quiets.tidy {resuming : Bool} {m' : LinkManager} (h : Quiets resuming c.manager m')
    (hc : c.Tidy) : m'.localNode = c.localNode ∧ m'.Roster ∧ m'.Idle := by
  refine h.invariant (I := fun m => m.localNode = c.localNode ∧ m.Roster ∧ m.Idle) ?_
    ⟨hc.local_eq, hc.roster, hc.idle⟩
  rintro m op hop - ⟨hl, hroster, hidle⟩
  have hfewer := LinkManager.perform_fewer op hop m
  exact ⟨hfewer.localNode.trans hl, hroster.trim hfewer.localNode hfewer.names,
    LinkManager.perform_idle op hop hidle⟩

/-- A new peer has a name of its own. -/
theorem Tidy.publish (hc : c.Tidy) {name : String} {group : Option String}
    (hcheck : c.manager.checkGroup name true group = .ok ()) (mode : Mode) (permanent : Bool)
    (group' : Option String) (member : Option GroupMember) :
    (c.manager.publish name mode permanent group' member).Roster := by
  obtain ⟨hdecimal, hforeign, hpeer, hretry⟩ := LinkManager.checkGroup_ok hcheck
  exact hc.roster.enter rfl (LinkManager.names_publish ..)
    (not_mem_append hpeer (hretry rfl)) hforeign hdecimal

/-- Whether a dial can be published: its remote is neither a peer nor the node itself. -/
def vacant (c : LinkControl) (remote : String) : Bool :=
  !c.manager.peers.any (·.name == remote) && remote != c.localNode

theorem vacant_iff {remote : String} :
    c.vacant remote = true ↔ remote ∉ c.manager.peers.map (·.name) ∧ remote ≠ c.localNode := by
  unfold vacant
  rw [Bool.and_eq_true, Bool.not_eq_true', List.any_eq_false, bne_iff_ne]
  refine and_congr_left fun _ => ⟨fun h hmem => ?_, fun h p hp hname => ?_⟩
  · obtain ⟨p, hp, hname⟩ := mem_map.mp hmem
    exact h p hp (beq_iff_eq.mpr hname)
  · exact h (beq_iff_eq.mp hname ▸ mem_map_of_mem hp)

theorem Outcome.tidy {dial : ConnectAttempt} {answered blocked : Bool} {nowMs : Nat}
    {m : LinkManager} (h : Outcome dial answered nowMs c.manager result blocked m) (hc : c.Tidy)
    (hvacant : answered = true → dial.permanent = true → c.vacant dial.remote = true) :
    m.localNode = c.localNode ∧ m.Roster ∧ m.Idle := by
  cases h with
  | refused | dropped => exact ⟨hc.local_eq, hc.roster, hc.idle⟩
  | attached _ hcheck => exact ⟨hc.local_eq, hc.publish hcheck _ _ _ _, hc.idle⟩
  | retained _ _ hcheck =>
    obtain ⟨hdecimal, hforeign, hpeer, hretry⟩ := LinkManager.checkGroup_ok hcheck
    refine ⟨hc.local_eq, ?_, forall_mem_append.mpr ⟨hc.idle, fun r hr => ?_⟩⟩
    · exact hc.roster.enter rfl (LinkManager.names_retained rfl rfl)
        (not_mem_append hpeer (hretry rfl)) hforeign hdecimal
    · rw [mem_singleton.mp hr]
      exact LinkManager.idle_of_attempt rfl
  | blocked hanswered hpermanent hcheck =>
    obtain ⟨hpeer, hforeign⟩ := vacant_iff.mp (hvacant hanswered hpermanent)
    refine ⟨?_, ?_, ?_⟩
    · exact (LinkManager.perform_localNode (.retainTopologyBlockedGroup ..) _).trans hc.local_eq
    · exact LinkManager.retainTopologyBlockedGroup_roster hc.roster _ _ _ hpeer
        (hc.local_eq ▸ hforeign)
          (by unfold LinkManager.checkGroup at hcheck; split at hcheck <;> simp_all)
    · unfold LinkManager.retainTopologyBlockedGroup
      split
      · intro r hr
        rcases mem_modifyFirst hr with hr | ⟨_, _, rfl⟩
        · exact hc.idle r hr
        · exact LinkManager.idle_of_attempt rfl
      · refine forall_mem_append.mpr ⟨hc.idle, fun r hr => ?_⟩
        rw [mem_singleton.mp hr]
        exact LinkManager.idle_of_attempt rfl

theorem RetryOutcome.tidy {retry : RetryWork} {nowMs : Nat}
    {m : LinkManager} (h : RetryOutcome retry nowMs c.manager result m) (hc : c.Tidy) :
    m.localNode = c.localNode ∧ m.Roster ∧ m.Idle := by
  have hfinish := fun (success : Bool) (m : LinkManager) =>
    LinkManager.perform_localNode (.finishRetry retry.attempt success nowMs) m
  have hpublish := LinkManager.perform_localNode (.publishRetry retry.attempt) c.manager
  cases h with
  | unpublished =>
    have hfewer := LinkManager.perform_fewer (.finishRetry retry.attempt false nowMs) rfl c.manager
    exact ⟨hfewer.localNode.trans hc.local_eq, hc.roster.trim hfewer.localNode hfewer.names,
      LinkManager.perform_idle (.finishRetry retry.attempt false nowMs) rfl hc.idle⟩
  | rejected e m₁ h =>
    have hlocal : m₁.localNode = c.manager.localNode := by
      rw [← hpublish]
      exact congrArg (fun result => result.2.localNode) h.symm
    have hlocal' := (hfinish false m₁).trans hlocal
    obtain ⟨hnames, hidle⟩ := LinkManager.finishRetry_refused hc.roster hc.idle nowMs h
    exact ⟨hlocal'.trans hc.local_eq, hc.roster.trim hlocal' hnames, hidle⟩
  | published m₁ h =>
    have hnames := LinkManager.finishRetry_published hc.idle nowMs h
    obtain ⟨r, -, -, -, -, rfl⟩ := LinkManager.publishRetry_ok h
    have hlocal' := hfinish true (c.manager.publish retry.attempt.name retry.attempt.mode
      r.automatic r.group r.groupMember)
    refine ⟨hlocal'.trans hc.local_eq, hc.roster.trim hlocal' hnames.subperm, ?_⟩
    exact LinkManager.perform_idle (m := c.manager.publish ..)
      (.finishRetry retry.attempt true nowMs) rfl hc.idle

end LinkControl

namespace LinkDesk

variable [ScheduleProvider] {d d' : LinkDesk} {move : LinkMove}

/-- No answered permanent dial returns while its remote is a peer, or is the node itself. -/
def Unobstructed (d : LinkDesk) : LinkMove → Prop
  | .finishConnect dial answered _ _ _ _ =>
    answered = true → dial.permanent = true → d.control.vacant dial.remote = true
  | _ => True

theorem Step.tidy (h : d.Step move d') (hok : d.Unobstructed move) (hd : d.control.Tidy) :
    d'.control.Tidy := by
  have hhub := (step_stepped h).hub
  suffices hkeep : d'.control.manager.localNode = d.control.localNode
      ∧ d'.control.manager.Roster ∧ d'.control.manager.Idle from
    ⟨hkeep.1.trans (step_stepped h).localNode.symm, hkeep.2.1, hkeep.2.2⟩
  generalize d'.control.manager = m' at hhub ⊢
  cases hhub with
  | quiet h => exact h.tidy hd
  | accepted _ _ _ hcheck => exact ⟨hd.local_eq, hd.publish hcheck _ _ _ _, hd.idle⟩
  | connected _ _ _ _ _ _ _ _ _ _ hout => exact hout.tidy hd hok
  | retried _ _ _ _ _ _ hout => exact hout.tidy hd
  | called =>
    exact ⟨hd.local_eq, ⟨hd.roster.names, hd.roster.foreign, hd.roster.decimal⟩, hd.idle⟩

theorem Initial.tidy (h : d.Initial) : d.control.Tidy := by
  obtain ⟨localNode, policy, candidate, s, control, -, hnew, rfl⟩ := h
  rw [LinkControl.new_eq hnew]
  exact ⟨rfl, ⟨nodup_nil, forall_mem_nil _, forall_mem_nil _⟩, forall_mem_nil _⟩

/-- **Each identity has one record in the hub**, as long as answered permanent dials find their
remote vacant. -/
theorem hub_roster (h : Reachable Initial (Guarded Step Unobstructed) d) :
    (d.control.manager.peers.map (·.name)).Nodup ∧ (d.control.manager.retries.map (·.name)).Nodup
      ∧ (∀ p ∈ d.control.manager.peers, ∀ r ∈ d.control.manager.retries, p.name ≠ r.name)
      ∧ ∀ name ∈ d.control.manager.names,
        name ≠ d.control.localNode ∧ decimalIdentity name = true := by
  have htidy : d.control.Tidy :=
    h.invariant (P := fun d => d.control.Tidy) (fun _ => Initial.tidy)
      fun _ _ _ hd hstep => hstep.2.tidy hstep.1 hd
  obtain ⟨hpeers, hretries, hapart⟩ := nodup_append.mp htidy.roster.names
  refine ⟨hpeers, hretries, fun p hp r hr => ?_, fun name hname => ⟨?_, ?_⟩⟩
  · exact hapart p.name (mem_map_of_mem hp) r.name (mem_map_of_mem hr)
  · rw [← htidy.local_eq]
    exact htidy.roster.foreign name hname
  · exact htidy.roster.decimal name hname

instance (d : LinkDesk) : DecidablePred d.Unobstructed := fun move => by
  cases move <;> unfold Unobstructed <;> infer_instance

omit [ScheduleProvider]

/-- A node without a schedule that admits everyone. -/
def bareDesk : Option LinkDesk :=
  (NodeLinkControl.new "1000" (fun _ _ => true) none).toOption.map fun control => { control }

theorem bareDesk_initial [ScheduleProvider] {d : LinkDesk} (h : bareDesk = some d) : d.Initial := by
  obtain ⟨control, hcontrol, rfl⟩ := map_eq_some_iff.mp h
  exact ⟨"1000", fun _ _ => true, none, none, control, rfl, ok_of_toOption hcontrol, rfl⟩

/-- An operator's permanent dial of node 2000. -/
def operatorDial : ConnectAttempt := ⟨"2000", .transceive, true, none, 1, none⟩

def answeredDial : LinkMove := .finishConnect operatorDial true true 0 none fun _ => none

/-- The node dials 2000, which calls in before the dial is answered. -/
def crossedCalls : List LinkMove :=
  [.command ⟨.permanentTransceive, "2000"⟩ 1 true 0, .accept "2000" true, answeredDial]

theorem blocked_beside_peer : ∃ (_ : ScheduleProvider) (d d' : LinkDesk), Reachable Initial Step d
      ∧ d.control.manager.peers.map (·.name) = ["2000"]
      ∧ d.control.manager.retries.map (·.name) = ["2000"]
      ∧ d.Step (.command ⟨.disconnectAll, ""⟩ 1 true 0) d'
      ∧ d'.control.manager.retries.map (·.name) = ["2000", "2000"] := by
  obtain ⟨d, hreach, hpeers, hretries, hlast⟩ := exists_reachable _ (@step RouteDesk.evening)
    crossedCalls bareDesk (fun _ => @bareDesk_initial RouteDesk.evening _) (fun d =>
      d.control.manager.peers.map (·.name) = ["2000"]
      ∧ d.control.manager.retries.map (·.name) = ["2000"]
      ∧ ((@step RouteDesk.evening d (.command ⟨.disconnectAll, ""⟩ 1 true 0)).map fun d' =>
        d'.control.manager.retries.map (·.name)) = some ["2000", "2000"]) (by decide +kernel)
  obtain ⟨d', hd', hretries'⟩ := map_eq_some_iff.mp hlast
  exact ⟨RouteDesk.evening, d, d', hreach, hpeers, hretries, hd', hretries'⟩

/-- The dial is answered before its remote calls in. -/
theorem hub_roster_operator :
    ∃ (_ : ScheduleProvider) (d : LinkDesk), Reachable Initial (Guarded Step Unobstructed) d
      ∧ d.control.manager.names = ["2000", "3000"]
      ∧ (d.control.manager.peers.map (·.name)).Nodup := by
  obtain ⟨d, hreach, hnames⟩ := exists_reachable_guarded _ (@step RouteDesk.evening) Unobstructed
    [.command ⟨.permanentTransceive, "2000"⟩ 1 true 0, answeredDial, .accept "2000" true,
      .accept "3000" true] bareDesk (fun _ => @bareDesk_initial RouteDesk.evening _)
    (fun d => d.control.manager.names = ["2000", "3000"]) (by decide +kernel)
  exact ⟨RouteDesk.evening, d, hreach, hnames, (@hub_roster RouteDesk.evening d hreach).1⟩

end LinkDesk

end RptAdvanced.Runtime
