import Mathlib.Data.List.Forall2
import Mathlib.Data.List.Pairwise

/-!
# Updating one entry of a list

`updateFirst p f l` applies `f`, which also returns a result, to the first entry of `l` that meets
`p`; `modifyFirst p f l` is the same for an `f` without a result.

Rules:
* `updateFirst_split`, `split_at`, `find?_split`: the list around the entry that changes.
* `mem_modifyFirst`, `map_modifyFirst`: what is left of the entries when one of them changes.
* `trims_of_sublist`, `trims_modifyFirst`, `trims_map`: parts of a list whose entries may change,
  and what is read off them (`Trims.mem`, `Trims.map_sublist`, `Trims.filterMap_sublist`).
* `modifyFirst_eq_map`: among entries of distinct keys, the first of a key is the only one.
* `perm_eraseP`: the entry that is erased and the others.
* `eq_of_filterMap_nodup`, `not_mem_filterMap_modifyFirst`, `not_mem_filterMap_eraseP`,
  `filterMap_modifyFirst_perm`: entries that are told apart by what is read off them.
* `forall₂_trans`: a transitive relation of entries is one of lists.
* `forall₂_mem`, `forall₂_map`: from related lists to related entries.
* `findSome?_perm`: a search with at most one answer, in another order.
* `of_none`: nothing has to be shown of an entry that is not there.
-/

namespace RptAdvanced.Lib

open List

variable {α β : Type*}

theorem of_none {x : Option α} (h : x = none) {P : α → Prop} (a : α) (ha : x = some a) : P a := by
  rw [h] at ha
  cases ha

/-- Update the first entry that meets `p`. -/
def updateFirst (p : α → Bool) (f : α → β × α) : List α → Option β × List α
  | [] => (none, [])
  | a :: as =>
    if p a then (some (f a).1, (f a).2 :: as)
    else ((updateFirst p f as).1, a :: (updateFirst p f as).2)

/-- Change the first entry that meets `p`. -/
def modifyFirst (p : α → Bool) (f : α → α) : List α → List α
  | [] => []
  | a :: as => if p a then f a :: as else a :: modifyFirst p f as

variable {r : α → α → Prop} {p : α → Bool} {f : α → β × α}

/-- The entry an update applies to and what is around it. -/
theorem updateFirst_split {l l' : List α} {b : β} (h : updateFirst p f l = (some b, l')) :
    ∃ l₁ a l₂, l = l₁ ++ a :: l₂ ∧ p a = true ∧ b = (f a).1 ∧ l' = l₁ ++ (f a).2 :: l₂ := by
  induction l generalizing l' with
  | nil => cases h
  | cons a as ih =>
    unfold updateFirst at h
    split at h
    · rename_i hp
      cases h
      exact ⟨[], a, as, rfl, hp, rfl, rfl⟩
    · obtain ⟨hb, hl⟩ := Prod.mk.inj h
      obtain ⟨l₁, c, l₂, has, hc, hbc, hl'⟩ := ih (Prod.ext hb rfl)
      refine ⟨a :: l₁, c, l₂, by simp [has], hc, hbc, ?_⟩
      exact hl.symm.trans (congrArg (a :: ·) hl')

/-- An entry at an index and what is around it. -/
theorem split_at {l : List α} {i : Nat} {a : α} (h : l[i]? = some a) :
    ∃ l₁ l₂, l = l₁ ++ a :: l₂ ∧ l.eraseIdx i = l₁ ++ l₂ ∧ ∀ b, l.set i b = l₁ ++ b :: l₂ := by
  obtain ⟨hlt, rfl⟩ := List.getElem?_eq_some_iff.mp h
  refine ⟨l.take i, l.drop (i + 1), ?_, eraseIdx_eq_take_drop_succ l i, fun b => ?_⟩
  · rw [getElem_cons_drop, take_append_drop]
  · rw [set_eq_take_append_cons_drop, if_pos hlt]

section First

variable {f : α → α}

variable {l : List α}

theorem mem_modifyFirst {b : α} (h : b ∈ modifyFirst p f l) :
    b ∈ l ∨ ∃ a, l.find? p = some a ∧ b = f a := by
  induction l with
  | nil => exact .inl h
  | cons a as ih =>
    unfold modifyFirst at h
    rw [find?_cons]
    cases hp : p a with
    | true =>
      rw [hp, if_pos rfl] at h
      rcases mem_cons.mp h with rfl | h
      · exact .inr ⟨a, rfl, rfl⟩
      · exact .inl (mem_cons_of_mem _ h)
    | false =>
      rw [hp, if_neg Bool.false_ne_true] at h
      rcases mem_cons.mp h with rfl | h
      · exact .inl mem_cons_self
      · exact (ih h).imp_left (mem_cons_of_mem _)

/-- The first entry that meets `p` and what is around it. -/
theorem find?_split (f : α → α) {a : α} (h : l.find? p = some a) :
    ∃ l₁ l₂, l = l₁ ++ a :: l₂ ∧ modifyFirst p f l = l₁ ++ f a :: l₂ ∧ l.eraseP p = l₁ ++ l₂ := by
  induction l with
  | nil => cases h
  | cons c cs ih =>
    rw [find?_cons] at h
    unfold modifyFirst
    cases hp : p c with
    | true =>
      rw [hp] at h
      cases h
      exact ⟨[], cs, rfl, rfl, eraseP_cons_of_pos hp⟩
    | false =>
      rw [hp] at h
      obtain ⟨l₁, l₂, hl, hmodify, herase⟩ := ih h
      refine ⟨c :: l₁, l₂, by rw [hl]; rfl, by rw [hmodify]; rfl, ?_⟩
      rw [eraseP_cons_of_neg (by rw [hp]; exact Bool.false_ne_true), herase]
      rfl

theorem mem_modifyFirst_of_find {a : α} (h : l.find? p = some a) : f a ∈ modifyFirst p f l := by
  obtain ⟨l₁, l₂, -, hmodify, -⟩ := find?_split f h
  rw [hmodify]
  exact mem_append_right _ mem_cons_self

theorem map_modifyFirst {g : α → β} (hg : ∀ a, g (f a) = g a) (l : List α) :
    (modifyFirst p f l).map g = l.map g := by
  induction l with
  | nil => rfl
  | cons a as ih =>
    unfold modifyFirst
    split
    · rw [map_cons, map_cons, hg]
    · rw [map_cons, map_cons, ih]

theorem modifyFirst_eq_map [BEq β] [LawfulBEq β] {key : α → β} {k : β} (h : (l.map key).Nodup) :
    modifyFirst (fun a => key a == k) f l = l.map fun a => if key a == k then f a else a := by
  induction l with
  | nil => rfl
  | cons a as ih =>
    obtain ⟨hfresh, hrest⟩ := nodup_cons.mp h
    unfold modifyFirst
    rw [map_cons]
    cases hk : key a == k with
    | false => rw [if_neg Bool.false_ne_true, if_neg Bool.false_ne_true, ih hrest]
    | true =>
      have hothers : as.map (fun b => if key b == k then f b else b) = as.map id := by
        refine map_congr_left fun b hb => if_neg fun hb' => hfresh ?_
        rw [beq_iff_eq.mp hk, ← beq_iff_eq.mp hb']
        exact mem_map_of_mem hb
      rw [if_pos rfl, if_pos rfl, hothers, map_id]

variable {g : α → Option β}

/-- Entries are told apart by what is read off them. -/
theorem eq_of_filterMap_nodup {t : β} (h : (l.filterMap g).Nodup)
    {a b : α} (ha : a ∈ l) (hb : b ∈ l) (hga : g a = some t) (hgb : g b = some t) : a = b := by
  have : Std.Symm fun a b => ∀ x, g a = some x → ∀ y, g b = some y → x ≠ y :=
    ⟨fun a b hab x hx y hy => (hab y hy x hx).symm⟩
  by_contra hne
  exact (pairwise_filterMap.mp h).forall ha hb hne t hga t hgb rfl

section Read

variable {a : α} {t : β} (hfind : l.find? p = some a)
include hfind

/-- What was read off the entry that changes cannot be read off the others. -/
theorem not_mem_filterMap_modifyFirst (h : (l.filterMap g).Nodup) (hga : g a = some t)
    (hf : g (f a) = none) : t ∉ (modifyFirst p f l).filterMap g := by
  obtain ⟨l₁, l₂, rfl, hmodify, -⟩ := find?_split f hfind
  rw [filterMap_append, filterMap_cons_some hga, perm_middle.nodup_iff, nodup_cons] at h
  rw [hmodify, filterMap_append, filterMap_cons_none hf]
  exact h.1

theorem not_mem_filterMap_eraseP (h : (l.filterMap g).Nodup) (hga : g a = some t) :
    t ∉ (l.eraseP p).filterMap g := by
  obtain ⟨l₁, l₂, rfl, -, herase⟩ := find?_split id hfind
  rw [filterMap_append, filterMap_cons_some hga, perm_middle.nodup_iff, nodup_cons] at h
  rw [herase, filterMap_append]
  exact h.1

/-- The first entry that meets `p` and what is left without it. -/
theorem perm_eraseP : l.Perm (a :: l.eraseP p) := by
  obtain ⟨l₁, l₂, hl, -, herase⟩ := find?_split id hfind
  rw [herase, hl]
  exact perm_middle

/-- What is newly read off the entry that changes. -/
theorem filterMap_modifyFirst_perm (hga : g a = none) (hf : g (f a) = some t) :
    ((modifyFirst p f l).filterMap g).Perm (t :: l.filterMap g) := by
  obtain ⟨l₁, l₂, rfl, hmodify, -⟩ := find?_split f hfind
  rw [hmodify, filterMap_append, filterMap_append, filterMap_cons_some hf, filterMap_cons_none hga]
  exact perm_middle

end Read

end First

theorem forall₂_trans (htrans : ∀ a b c, r a b → r b c → r a c) {l₁ l₂ l₃ : List α}
    (h : Forall₂ r l₁ l₂) (k : Forall₂ r l₂ l₃) : Forall₂ r l₁ l₃ := by
  induction h generalizing l₃ with
  | nil => exact k
  | cons hab _ ih =>
    cases k with
    | cons hbc ks => exact .cons (htrans _ _ _ hab hbc) (ih ks)

section Related

variable {s : α → β → Prop} {l : List α} {l' : List β}

theorem forall₂_mem (h : Forall₂ s l l') {b : β} (hb : b ∈ l') : ∃ a ∈ l, s a b := by
  induction h with
  | nil => cases hb
  | cons hab _ ih =>
    rcases mem_cons.mp hb with rfl | hb
    · exact ⟨_, mem_cons_self, hab⟩
    · obtain ⟨a, ha, has⟩ := ih hb
      exact ⟨a, mem_cons_of_mem _ ha, has⟩

theorem forall₂_map {γ : Type*} {g : α → γ} {g' : β → γ} (h : Forall₂ s l l')
    (hg : ∀ a b, s a b → g' b = g a) : l'.map g' = l.map g := by
  rw [← forall₂_eq_eq_eq, forall₂_map_left_iff, forall₂_map_right_iff]
  exact (h.imp fun a b hab => hg a b hab).flip

end Related

/-- `l'` is a part of `l`, each entry changed as `r` says. -/
def Trims (r : α → α → Prop) (l l' : List α) : Prop := SublistForall₂ (flip r) l' l

section Trims

variable {l l' : List α} {f : α → α}

section

variable (hr : ∀ a, r a a)
include hr

theorem trims_of_sublist (h : l'.Sublist l) : Trims r l l' := by
  have : Std.Refl (flip r) := ⟨hr⟩
  exact h.sublistForall₂

theorem trims_modifyFirst (hf : ∀ a, p a = true → r a (f a)) (l : List α) :
    Trims r l (modifyFirst p f l) := by
  induction l with
  | nil => exact .nil
  | cons a as ih =>
    unfold modifyFirst
    split
    · rename_i hp
      exact .cons (hf a hp) (trims_of_sublist hr (.refl as))
    · exact .cons (hr a) ih

end

theorem trims_map (hf : ∀ a, r a (f a)) (l : List α) : Trims r l (l.map f) := by
  refine sublistForall₂_iff.mpr ⟨l, forall₂_map_left_iff.mpr (forall₂_same.mpr ?_), .refl l⟩
  exact fun a _ => hf a

variable (h : Trims r l l')
include h

theorem Trims.trans (htrans : ∀ a b c, r a b → r b c → r a c) {l'' : List α} (k : Trims r l' l'') :
    Trims r l l'' := by
  have : IsTrans α (flip r) := ⟨fun _ _ _ hba hcb => htrans _ _ _ hcb hba⟩
  exact IsTrans.trans (r := SublistForall₂ (flip r)) _ _ _ k h

theorem Trims.mem {b : α} (hb : b ∈ l') : ∃ a ∈ l, r a b := by
  obtain ⟨k, hforall, hsub⟩ := sublistForall₂_iff.mp h
  obtain ⟨a, ha, hab⟩ := forall₂_mem hforall.flip hb
  exact ⟨a, hsub.subset ha, hab⟩

theorem Trims.map_sublist {g : α → β} (hg : ∀ a b, r a b → g b = g a) :
    (l'.map g).Sublist (l.map g) := by
  obtain ⟨k, hforall, hsub⟩ := sublistForall₂_iff.mp h
  rw [forall₂_map hforall.flip hg]
  exact hsub.map g

/-- What is read off some entries, and off no more of them after a change. -/
theorem Trims.filterMap_sublist {g : α → Option β}
    (hg : ∀ a b, r a b → g b = g a ∨ g b = none) : (l'.filterMap g).Sublist (l.filterMap g) := by
  induction h with
  | nil => exact nil_sublist _
  | @cons b a _ _ hab _ ih =>
    rw [filterMap_cons, filterMap_cons]
    rcases hg a b hab with he | he <;> rw [he] <;> cases g a with
    | none => exact ih
    | some c => first | exact ih.cons_cons c | exact ih.cons c
  | cons_right _ ih => exact ih.trans ((sublist_cons_self ..).filterMap g)

end Trims

/-- A search that at most one entry answers does not depend on the order of the list. -/
theorem findSome?_perm {f : α → Option β} {l l' : List α} (h : l.Perm l')
    (hu : l.Pairwise fun a b => f a = none ∨ f b = none) : l.findSome? f = l'.findSome? f := by
  induction h with
  | nil => rfl
  | cons a _ ih => rw [findSome?_cons, findSome?_cons, ih (pairwise_cons.mp hu).2]
  | swap a b l =>
    obtain hb | ha := (pairwise_cons.mp hu).1 a mem_cons_self
    · simp [findSome?_cons, hb]
    · simp [findSome?_cons, ha]
  | trans h₁ _ ih₁ ih₂ =>
    exact (ih₁ hu).trans (ih₂ (h₁.pairwise hu Or.symm))

end RptAdvanced.Lib
