import RptAdvanced.Link.Identity

/-!
# Operator aliases (`rust/core/src/link/identity.rs`, `access.rs`)

The operator alias of a peer is the key of access lists, duplicate checks and retries. The alias of
an EchoLink number is `3` and the number padded to six digits; an AllStarLink node is its own alias.
`from_operator` gives the spellings of at least seven digits that start with `3` to EchoLink, while
`parse` accepts them as AllStarLink nodes too (`Reserved`). `alias_faithful_iff`: aliases identify
two peers exactly when neither is such a node.
-/

namespace RptAdvanced.Link

open List Option

@[simp] theorem decimalValue_eq (digits : List Char) :
    decimalValue digits = Nat.ofDigitChars 10 digits 0 :=
  Nat.ofDigitChars_eq_foldl.symm

/-- A digit is one byte. -/
theorem utf8ByteSize_of_digits {digits : List Char} (h : ∀ c ∈ digits, c.isDigit = true) :
    (String.ofList digits).utf8ByteSize = digits.length := by
  induction digits with
  | nil => rfl
  | cons c digits ih =>
    obtain ⟨hc, hdigits⟩ := forall_mem_cons.mp h
    have hsize : c.utf8Size = 1 := by
      rw [Char.utf8Size_eq_one_iff, UInt32.le_iff_toNat_le]
      exact Nat.le_trans (Char.isDigit_iff_toNat.mp hc).2 (by decide)
    rw [String.ofList_cons, String.utf8ByteSize_append, String.utf8ByteSize_singleton, hsize,
      ih hdigits, length_cons, Nat.add_comm]

theorem isDigit_padded {zeros id : Nat} :
    ∀ c ∈ List.replicate zeros '0' ++ Nat.toDigits 10 id, c.isDigit = true := by
  intro c hc
  rcases mem_append.mp hc with hc | hc
  · rw [eq_of_mem_replicate hc]
    rfl
  · exact Nat.isDigit_of_mem_toDigits (by decide) (by decide) hc

/-- Leading zeros do not change a number. -/
theorem positiveId_padded {id : Nat} (hpos : 0 < id) (hlt : id < 2 ^ 32) (zeros : Nat) :
    positiveId (String.ofList (List.replicate zeros '0' ++ Nat.toDigits 10 id)) = some id := by
  have hall := List.all_eq_true.mpr (@isDigit_padded zeros id)
  simpa [positiveId, hall, Nat.ofDigitChars_append, Nat.ofDigitChars_replicate_zero,
    Nat.ofDigitChars_ten_toDigits, Nat.ne_of_gt hpos] using hlt

theorem length_toDigits_of_lt {id : Nat} (hlt : id < 2 ^ 32) : (Nat.toDigits 10 id).length ≤ 10 :=
  (Nat.length_toDigits_le_iff (by decide) (by decide)).mpr (by omega)

namespace PeerIdentity

variable {p q : PeerIdentity} {node : String}

/-- An identity that `parse` returns. -/
def Valid (p : PeerIdentity) : Prop := ∃ protocol node, parse protocol node = some p

/-- An AllStarLink node whose spelling is in the dial range of EchoLink. -/
def Reserved (p : PeerIdentity) : Prop :=
  p.protocol = .allStarLink ∧ p.node.toList.head? = some '3' ∧ 7 ≤ p.node.utf8ByteSize

/-- The spelling of a node that `parse_list` keeps and that `AccessPolicy::allows` looks for. -/
def accessEntry (node : String) : String := (canonicalOperator node).getD node

theorem parse_echoLink {id : Nat} (hpos : 0 < id) (hlt : id < 2 ^ 32) :
    parse .echoLink (toString id) = some ⟨.echoLink, toString id⟩ := by
  have hdigits := @isDigit_padded 0 id
  have hsize := utf8ByteSize_of_digits hdigits
  have hlen := length_toDigits_of_lt hlt
  have hid := positiveId_padded hpos hlt 0
  rw [replicate_zero, nil_append] at hdigits hsize hid
  have hname : decimalIdentity (String.ofList (Nat.toDigits 10 id)) = true := by
    simp only [decimalIdentity, identity, hsize, String.toList_ofList, Bool.and_eq_true,
      List.all_eq_true]
    refine ⟨⟨⟨by simp, decide_eq_true (by omega)⟩, fun c hc => ?_⟩, hdigits⟩
    simp [identityChar, Char.isAlphanum, hdigits c hc]
  simp [parse, Nat.repr_eq_ofList_toDigits, hname, hid]

theorem parse_cases {protocol : ProtocolId} (h : parse protocol node = some p) :
    (protocol = .allStarLink ∧ p = ⟨.allStarLink, node⟩) ∨
      ∃ id, 0 < id ∧ id < 2 ^ 32 ∧ p = ⟨.echoLink, toString id⟩ ∧ protocol = .echoLink := by
  by_cases hname : decimalIdentity node
  · cases protocol with
    | allStarLink => exact .inl ⟨rfl, by simpa [parse, hname, eq_comm] using h⟩
    | echoLink =>
      obtain ⟨id, hid, rfl⟩ : ∃ id, positiveId node = some id ∧ ⟨.echoLink, toString id⟩ = p := by
        simpa [parse, hname] using h
      exact .inr ⟨id, by grind [positiveId], by grind [positiveId], rfl, rfl⟩
  · simp [parse, hname] at h

/-- An EchoLink peer is found under its alias. -/
theorem fromOperator_echoLink {id : Nat} (hpos : 0 < id) (hlt : id < 2 ^ 32) :
    fromOperator (operatorAlias ⟨.echoLink, toString id⟩) = some ⟨.echoLink, toString id⟩ := by
  have hlen := length_toDigits_of_lt hlt
  generalize hreal : List.replicate (6 - (Nat.toDigits 10 id).length) '0' ++
    Nat.toDigits 10 id = real
  have hid : positiveId (String.ofList real) = some id := hreal ▸ positiveId_padded hpos hlt _
  have hbounds : 6 ≤ real.length ∧ real.length ≤ 10 := by
    rw [← hreal, length_append, length_replicate]
    omega
  have halias : operatorAlias ⟨.echoLink, toString id⟩ = String.ofList ('3' :: real) := by
    rw [← hreal]
    simp [operatorAlias, Nat.repr_eq_ofList_toDigits, String.append_assoc]
  have hsize : 7 ≤ (String.ofList ('3' :: real)).utf8ByteSize := by
    rw [utf8ByteSize_of_digits (forall_mem_cons.mpr ⟨rfl, hreal ▸ isDigit_padded⟩)]
    exact Nat.succ_le_succ hbounds.1
  rw [halias, fromOperator, if_pos ⟨by simp, hsize⟩]
  simpa [EchoAlias.parse, hbounds, hid] using parse_echoLink hpos hlt

theorem fromOperator_eq_some {operator : String} (h : fromOperator operator = some p) :
    p.Valid ∧ ¬p.Reserved := by
  unfold fromOperator at h
  split at h
  · obtain ⟨id, -, h⟩ := bind_eq_some_iff.mp h
    obtain ⟨hne, -⟩ | ⟨id, -, -, rfl, -⟩ := parse_cases h
    · cases hne
    · exact ⟨⟨_, _, h⟩, fun hreserved => nomatch hreserved.1⟩
  · rename_i hrange
    obtain ⟨-, rfl⟩ | ⟨-, -, -, -, hne⟩ := parse_cases h
    · exact ⟨⟨_, _, h⟩, fun hreserved => hrange hreserved.2⟩
    · cases hne

/-- **A peer is found under its alias** unless it is an AllStarLink node of the reserved range. -/
theorem Valid.fromOperator_iff (h : p.Valid) :
    fromOperator p.operatorAlias = some p ↔ ¬p.Reserved := by
  refine ⟨fun hp => (fromOperator_eq_some hp).2, fun hreserved => ?_⟩
  obtain ⟨protocol, node, h⟩ := h
  obtain ⟨rfl, rfl⟩ | ⟨id, hpos, hlt, rfl, -⟩ := parse_cases h
  · exact (if_neg fun hrange => hreserved ⟨rfl, hrange⟩).trans h
  · exact fromOperator_echoLink hpos hlt

/-- A canonical spelling denotes what it was computed from. -/
theorem bind_canonicalOperator (operator : String) :
    (canonicalOperator operator).bind fromOperator = fromOperator operator := by
  cases h : fromOperator operator with
  | none => simp [canonicalOperator, h]
  | some r =>
    obtain ⟨hvalid, hreserved⟩ := fromOperator_eq_some h
    simp [canonicalOperator, h, hvalid.fromOperator_iff.mpr hreserved]

/-- **Operator aliases identify peers.** Two valid peers are found under their aliases, and no two
of them have one alias or one entry of an access list, exactly when neither is an AllStarLink node
in the dial range of EchoLink. A canonical spelling is its own canonical spelling, and two accepted
spellings have the same one exactly when they denote the same peer. -/
theorem alias_faithful_iff (hp : p.Valid) (hq : q.Valid) :
    ((fromOperator p.operatorAlias = some p ∧ fromOperator q.operatorAlias = some q ∧
      (p.operatorAlias = q.operatorAlias → p = q) ∧
      (accessEntry p.operatorAlias = accessEntry q.operatorAlias → p = q)) ↔
      ¬p.Reserved ∧ ¬q.Reserved) ∧
    (∀ operator key, canonicalOperator operator = some key → canonicalOperator key = some key) ∧
    ∀ a b, (fromOperator a).isSome → (fromOperator b).isSome →
      (canonicalOperator a = canonicalOperator b ↔ fromOperator a = fromOperator b) := by
  refine ⟨⟨fun h => ⟨hp.fromOperator_iff.mp h.1, hq.fromOperator_iff.mp h.2.1⟩, fun h => ?_⟩,
    fun operator key h => ?_, fun a b _ _ => ⟨fun h => ?_, congrArg _⟩⟩
  · have hpa := hp.fromOperator_iff.mpr h.1
    have hqa := hq.fromOperator_iff.mpr h.2
    have hinj : p.operatorAlias = q.operatorAlias → p = q := fun halias =>
      Option.some.inj (hpa.symm.trans (halias ▸ hqa))
    refine ⟨hpa, hqa, hinj, fun hentry => hinj ?_⟩
    simpa [accessEntry, canonicalOperator, hpa, hqa] using hentry
  · have hkey := bind_canonicalOperator operator
    rw [h, bind_some] at hkey
    rw [← h, canonicalOperator, hkey, canonicalOperator]
  · rw [← bind_canonicalOperator a, h, bind_canonicalOperator]

/-- AllStarLink node 42 and EchoLink node 42. -/
theorem alias_faithful_iff_same_number :
    operatorAlias ⟨.allStarLink, "42"⟩ = "42" ∧ operatorAlias ⟨.echoLink, "42"⟩ = "3000042" ∧
      fromOperator "42" = some ⟨.allStarLink, "42"⟩ ∧
      fromOperator "3000042" = some ⟨.echoLink, "42"⟩ := by
  have hfaithful := (@alias_faithful_iff ⟨.allStarLink, "42"⟩ ⟨.echoLink, "42"⟩
    ⟨.allStarLink, "42", by decide +kernel⟩ ⟨.echoLink, "42", by decide +kernel⟩).1.mpr
    ⟨fun h => absurd h.2.1 (by decide), fun h => nomatch h.1⟩
  exact ⟨by decide, by decide, hfaithful.1, hfaithful.2.1⟩

/-- **AllStarLink node 3000042 has the alias of EchoLink node 42**, and is found in an access list
under it. -/
theorem reserved_node_confused :
    ∃ p q, parse .allStarLink "3000042" = some p ∧ parse .echoLink "42" = some q ∧ p ≠ q ∧
      p.operatorAlias = q.operatorAlias ∧ fromOperator p.operatorAlias = some q ∧
      accessEntry p.operatorAlias = accessEntry q.operatorAlias :=
  ⟨⟨.allStarLink, "3000042"⟩, ⟨.echoLink, "42"⟩, by decide +kernel⟩

end PeerIdentity

end RptAdvanced.Link
