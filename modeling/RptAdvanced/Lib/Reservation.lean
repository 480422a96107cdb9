import Mathlib.Data.List.Nodup
import Mathlib.Data.List.Perm.Lattice
import Mathlib.Data.Finset.Card

/-!
# Flags that reserve a place each

A table of flags and a list of the places in use: `Reserves flags places` says that no place is in
use twice and that the places in use are those whose flag is set. So there are never more of them
than flags, and one fewer while a flag is clear.

Rules: `Reserves.perm`, `Reserves.reserve`, `Reserves.release`, `Reserves.lt`, `Reserves.length_le`,
`Reserves.length_lt`, `Reserves.eq_nil`, `reserves_clear`.
-/

namespace RptAdvanced.Lib

open List

/-- The places in use are those whose flag is set, each once. -/
structure Reserves (flags : List Bool) (places : List Nat) : Prop where
  nodup : places.Nodup
  mem_iff : ∀ i, i ∈ places ↔ flags[i]? = some true

namespace Reserves

variable {flags : List Bool} {places places' : List Nat} {i : Nat}

/-- A place in use is given back. -/
theorem release (h : Reserves flags (i :: places)) : Reserves (flags.set i false) places := by
  obtain ⟨hnot, hnodup⟩ := nodup_cons.mp h.nodup
  refine ⟨hnodup, fun j => ?_⟩
  rw [getElem?_set]
  by_cases hij : i = j
  · subst hij
    simp [hnot]
  · rw [if_neg hij, ← h.mem_iff j, mem_cons]
    simp [Ne.symm hij]

variable (h : Reserves flags places)
include h

theorem perm (hperm : places.Perm places') : Reserves flags places' :=
  ⟨hperm.nodup_iff.mp h.nodup, fun i => hperm.mem_iff.symm.trans (h.mem_iff i)⟩

theorem lt (hi : i ∈ places) : i < flags.length :=
  (List.getElem?_eq_some_iff.mp ((h.mem_iff i).mp hi)).1

/-- A place whose flag is clear is taken. -/
theorem reserve (hi : flags[i]? = some false) : Reserves (flags.set i true) (i :: places) := by
  have hlt : i < flags.length := (List.getElem?_eq_some_iff.mp hi).1
  have hnot : i ∉ places := fun hmem => by
    rw [(h.mem_iff i).mp hmem] at hi
    cases hi
  refine ⟨nodup_cons.mpr ⟨hnot, h.nodup⟩, fun j => ?_⟩
  rw [mem_cons, h.mem_iff j, getElem?_set]
  by_cases hij : i = j
  · subst hij
    simp [hlt]
  · simp [hij, Ne.symm hij]

theorem length_le : places.length ≤ flags.length := by
  have hsub : places.toFinset ⊆ Finset.range flags.length := by
    intro i hi
    exact Finset.mem_range.mpr (h.lt (mem_toFinset.mp hi))
  have hcard := Finset.card_le_card hsub
  rwa [toFinset_card_of_nodup h.nodup, Finset.card_range] at hcard

theorem length_lt (hi : flags[i]? = some false) : places.length < flags.length := by
  have hle := (h.reserve hi).length_le
  rwa [length_set, length_cons] at hle

/-- Where no flag is set, no place is in use. -/
theorem eq_nil (hclear : flags.any id = false) : places = [] := by
  refine eq_nil_iff_forall_not_mem.mpr fun i hi => ?_
  have hset := mem_of_getElem? ((h.mem_iff i).mp hi)
  rw [any_eq_false] at hclear
  exact hclear true hset rfl

end Reserves

/-- A table of clear flags. -/
theorem reserves_clear (n : Nat) : Reserves (List.replicate n false) [] := by
  refine ⟨nodup_nil, fun i => ?_⟩
  simp [getElem?_replicate]

end RptAdvanced.Lib
