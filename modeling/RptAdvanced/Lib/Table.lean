import Mathlib.Data.List.Nodup

/-!
# Finite tables

A `Table K V` is a list of entries with distinct keys, as an ordered map holds them. It is read by
`get?`; `map` changes every value, `alter` the value of one key, which it adds when it is missing,
and `filter` drops entries.

Rules:
* `get?_map`, `get?_alter_self`, `get?_alter_ne`, `get?_filter`: what the operations do to a lookup.
* `mem_entries_iff`: the entries are the lookups that succeed.
* `flatMap_filter_eq`: what a loop over the entries produces for one key.
-/

namespace RptAdvanced.Lib

open List Option Prod

/-- A finite map, as the list of its entries. -/
structure Table (K V : Type*) where
  entries : List (K × V)
  nodup : (entries.map fst).Nodup
deriving DecidableEq

namespace Table

variable {K V : Type*} [DecidableEq K]

/-- The table without entries. -/
def empty : Table K V := ⟨[], nodup_nil⟩

def get? (t : Table K V) (key : K) : Option V :=
  (t.entries.find? fun entry => entry.1 = key).map snd

/-- Every value changed, each with its key. -/
def map (t : Table K V) (f : K → V → V) : Table K V :=
  ⟨t.entries.map fun entry => (entry.1, f entry.1 entry.2), by
    rw [List.map_map]
    exact t.nodup⟩

/-- The entries that meet a condition. -/
def filter (t : Table K V) (p : K → V → Bool) : Table K V :=
  ⟨t.entries.filter fun entry => p entry.1 entry.2, t.nodup.sublist (filter_sublist.map _)⟩

/-- The entries after the value of one key changed. -/
def alterEntries (key : K) (f : Option V → V) : List (K × V) → List (K × V)
  | [] => [(key, f none)]
  | entry :: rest =>
    if entry.1 = key then (key, f (some entry.2)) :: rest
    else entry :: alterEntries key f rest

variable (t : Table K V) (key : K) (f : Option V → V)

theorem keys_alterEntries (entries : List (K × V)) :
    (alterEntries key f entries).map fst = entries.map fst ∨ key ∉ entries.map fst ∧
        (alterEntries key f entries).map fst = entries.map fst ++ [key] := by
  induction entries with
  | nil => exact .inr ⟨by simp, rfl⟩
  | cons entry rest ih =>
    unfold alterEntries
    by_cases heq : entry.1 = key
    · rw [if_pos heq]
      exact .inl (by rw [map_cons, map_cons, heq])
    rw [if_neg heq]
    rcases ih with hsame | ⟨hnew, hsnoc⟩
    · exact .inl (by rw [map_cons, map_cons, hsame])
    refine .inr ⟨?_, by rw [map_cons, map_cons, hsnoc]; rfl⟩
    rw [map_cons, mem_cons, not_or]
    exact ⟨fun h => heq h.symm, hnew⟩

/-- The value of one key changed, or added. -/
def alter (t : Table K V) (key : K) (f : Option V → V) : Table K V :=
  ⟨alterEntries key f t.entries, by
    rcases keys_alterEntries key f t.entries with hsame | ⟨hnew, hsnoc⟩
    · rw [hsame]
      exact t.nodup
    rw [hsnoc]
    refine nodup_append'.mpr ⟨t.nodup, nodup_singleton key, ?_⟩
    intro k hk hsingle
    rw [mem_singleton.mp hsingle] at hk
    exact hnew hk⟩

@[simp] theorem get?_map (f : K → V → V) (key : K) :
    (t.map f).get? key = (t.get? key).map (f key) := by
  obtain ⟨entries, nodup⟩ := t
  unfold get? map
  dsimp only
  clear nodup
  induction entries with
  | nil => rfl
  | cons entry rest ih =>
    rw [map_cons, find?_cons, find?_cons]
    by_cases heq : entry.1 = key
    · simp [heq]
    · simp only [heq, decide_false]
      exact ih

/-- How a change of one key's entry shows in a lookup. -/
theorem find?_alterEntries (entries : List (K × V)) (other : K) :
    ((alterEntries key f entries).find? fun entry => entry.1 = other).map snd =
      if other = key then
        some (f ((entries.find? fun entry => entry.1 = key).map snd))
      else (entries.find? fun entry => entry.1 = other).map snd := by
  induction entries with
  | nil =>
    unfold alterEntries
    by_cases heq : other = key
    · simp [heq]
    · have hne : key ≠ other := fun h => heq h.symm
      simp [heq, hne]
  | cons entry rest ih =>
    unfold alterEntries
    by_cases hkey : entry.1 = key
    · by_cases heq : other = key
      · simp [hkey, heq]
      · have hne : key ≠ other := fun h => heq h.symm
        simp [hkey, heq, hne]
    · rw [if_neg hkey, find?_cons, find?_cons, find?_cons]
      by_cases hother : entry.1 = other
      · have hne : other ≠ key := fun h => hkey (hother.trans h)
        simp [hother, hne]
      · simp only [hother, hkey, decide_false]
        exact ih

@[simp] theorem get?_alter_self : (t.alter key f).get? key = some (f (t.get? key)) := by
  unfold get? alter
  rw [find?_alterEntries, if_pos rfl]

theorem get?_alter_ne {key other : K} (hne : other ≠ key) :
    (t.alter key f).get? other = t.get? other := by
  unfold get? alter
  rw [find?_alterEntries, if_neg hne]

/-- A lookup finds exactly the entry of its key. -/
theorem mem_entries_iff (value : V) : (key, value) ∈ t.entries ↔ t.get? key = some value := by
  obtain ⟨entries, nodup⟩ := t
  unfold get?
  induction entries with
  | nil => simp
  | cons entry rest ih =>
    rw [map_cons, nodup_cons] at nodup
    rw [mem_cons, find?_cons]
    by_cases heq : entry.1 = key
    · -- a second entry of the key would repeat it
      have hlast : (key, value) ∉ rest := fun h =>
        nodup.1 (heq ▸ mem_map_of_mem (f := fst) h)
      obtain ⟨k, v⟩ := entry
      dsimp only at heq
      simp only [hlast, or_false, heq, decide_true, map_some, Option.some.injEq,
        Prod.mk.injEq, true_and]
      exact eq_comm
    · simp only [heq, decide_false]
      rw [← ih nodup.2]
      refine or_iff_right fun h => heq ?_
      rw [← h]

@[simp] theorem get?_filter (p : K → V → Bool) (key : K) :
    (t.filter p).get? key = (t.get? key).filter (p key) := by
  ext value
  rw [← mem_entries_iff, filter_eq_some_iff, ← mem_entries_iff]
  exact mem_filter

/-- A loop over the selected entries that produces something for one key only. -/
theorem flatMap_filter_eq {β : Type*} (p : K → V → Bool) {f : K × V → List β}
    {key : K} (hf : ∀ entry, entry.1 ≠ key → f entry = []) :
    (t.entries.filter fun entry => p entry.1 entry.2).flatMap f =
      ((t.get? key).filter (p key)).elim [] fun value => f (key, value) := by
  obtain ⟨entries, nodup⟩ := t
  unfold get?
  induction entries with
  | nil => rfl
  | cons entry rest ih =>
    rw [map_cons, nodup_cons] at nodup
    obtain ⟨k, v⟩ := entry
    by_cases hkey : k = key
    · -- the other entries have other keys
      subst hkey
      have hrest : (rest.filter fun entry => p entry.1 entry.2).flatMap f = [] := by
        refine flatMap_eq_nil_iff.mpr fun entry hentry => hf entry fun hk => nodup.1 ?_
        exact mem_map.mpr ⟨entry, mem_of_mem_filter hentry, hk⟩
      cases hp : p k v <;> simp [hp, hrest, filter_some]
    · have hnil : f (k, v) = [] := hf _ hkey
      rw [find?_cons_of_neg (by simpa using hkey), ← ih nodup.2]
      cases hp : p k v <;> simp [hp, hnil]

end Table

end RptAdvanced.Lib
