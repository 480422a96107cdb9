import Mathlib.Data.List.Pairwise
import Mathlib.Tactic.Common

/-!
# Bit masks and the entries that own their bits

A register holds one bit for every pin. `maskOf g l` joins the masks `g a` of the entries of a list,
as a loop that ors them together does; `Within m n` says that `n` has every bit of `m`. Entries are
`Apart` when no two of them own a common bit: then a mask chosen entry by entry can be read back at
any pin of an entry (`maskOf_choice`).
-/

namespace RptAdvanced.Lib

open List Bool BitVec

variable {w : Nat} {α β : Type*} {m : BitVec w} {i : Nat} {g : α → BitVec w}

/-- The union of the entries' masks. -/
def maskOf (g : α → BitVec w) (l : List α) : BitVec w :=
  l.foldl (fun mask a => mask ||| g a) 0#w

/-- Every bit of the first mask is one of the second. -/
def Within (m n : BitVec w) : Prop :=
  ∀ i, m.getLsbD i = true → n.getLsbD i = true

/-- No two entries own a common bit. -/
def Apart (g : α → BitVec w) (l : List α) : Prop :=
  l.Pairwise fun a b => g a &&& g b = 0#w

theorem getLsbD_foldl_or (g : α → BitVec w) (l : List α) (mask : BitVec w) (i : Nat) :
    (l.foldl (fun mask a => mask ||| g a) mask).getLsbD i =
      (mask.getLsbD i || l.any fun a => (g a).getLsbD i) := by
  induction l generalizing mask with
  | nil => simp
  | cons a l ih =>
    rw [List.foldl_cons, ih, getLsbD_or, List.any_cons, Bool.or_assoc]

@[simp] theorem getLsbD_maskOf (g : α → BitVec w) (l : List α) (i : Nat) :
    (maskOf g l).getLsbD i = l.any fun a => (g a).getLsbD i := by
  unfold maskOf
  rw [getLsbD_foldl_or, getLsbD_zero, Bool.false_or]

theorem mem_maskOf_iff (g : α → BitVec w) (l : List α) (i : Nat) :
    (maskOf g l).getLsbD i = true ↔ ∃ a ∈ l, (g a).getLsbD i = true := by
  rw [getLsbD_maskOf, any_eq_true]

theorem maskOf_map (g : β → BitVec w) (f : α → β) (l : List α) :
    maskOf g (l.map f) = maskOf (fun a => g (f a)) l := by
  unfold maskOf
  rw [foldl_map]

theorem within_maskOf {l : List α} {a : α} (ha : a ∈ l) : Within (g a) (maskOf g l) :=
  fun i hi => (mem_maskOf_iff g l i).mpr ⟨a, ha, hi⟩

theorem Within.trans {l m n : BitVec w} (h : Within l m) (k : Within m n) : Within l n :=
  fun i hi => k i (h i hi)

theorem within_zero (n : BitVec w) : Within 0#w n := by
  intro i hi
  rw [getLsbD_zero] at hi
  cases hi

theorem within_and_left (m n : BitVec w) : Within (m &&& n) m := by
  intro i hi
  rw [getLsbD_and, and_eq_true] at hi
  exact hi.1

theorem within_and_right (m n : BitVec w) : Within (m &&& n) n := by
  intro i hi
  rw [getLsbD_and, and_eq_true] at hi
  exact hi.2

theorem within_or {l m n : BitVec w} (h : Within l n) (k : Within m n) : Within (l ||| m) n := by
  intro i hi
  rw [getLsbD_or, or_eq_true] at hi
  exact hi.elim (h i) (k i)

/-- A mask without bits is zero. -/
theorem eq_zero_of_bits (h : ∀ i, m.getLsbD i ≠ true) : m = 0#w := by
  refine eq_of_getLsbD_eq fun i _ => ?_
  rw [getLsbD_zero, eq_false_iff]
  exact h i

theorem exists_bit_of_ne_zero (h : m ≠ 0#w) : ∃ i, m.getLsbD i = true := by
  by_contra hnone
  exact h (eq_zero_of_bits fun i hi => hnone ⟨i, hi⟩)

theorem ne_zero_of_bit (h : m.getLsbD i = true) : m ≠ 0#w := by
  rintro rfl
  rw [getLsbD_zero] at h
  cases h

theorem eq_zero_of_within (h : Within m 0#w) : m = 0#w :=
  eq_zero_of_bits fun i hi => by
    have hz := h i hi
    rw [getLsbD_zero] at hz
    cases hz

/-- Two masks that meet at a bit do not meet in nothing. -/
theorem and_ne_zero_of_bit {m n : BitVec w} (hm : m.getLsbD i = true)
    (hn : n.getLsbD i = true) : m &&& n ≠ 0#w :=
  ne_zero_of_bit (i := i) (by rw [getLsbD_and, hm, hn]; rfl)

theorem bit_of_and_eq {m n k : BitVec w} (h : m &&& k = n &&& k)
    (hi : k.getLsbD i = true) : m.getLsbD i = n.getLsbD i := by
  have hbit := congrArg (fun x => x.getLsbD i) h
  simpa only [getLsbD_and, hi, Bool.and_true] using hbit

/-- The choice made for an entry shows at each of its pins. -/
theorem maskOf_choice {l : List α} (hapart : Apart g l) (p : α → Bool) {a : α}
    (ha : a ∈ l) (hi : (g a).getLsbD i = true) :
    (maskOf (fun a => if p a then g a else 0#w) l).getLsbD i = p a := by
  rw [getLsbD_maskOf]
  -- an entry that owns the bit as well would not be apart from `a`
  have howner : ∀ b ∈ l, (g b).getLsbD i = true → p b = p a := by
    intro b hb hbit
    by_cases hab : a = b
    · rw [hab]
    have : Std.Symm fun a b => g a &&& g b = 0#w :=
      ⟨fun x y h => by rw [BitVec.and_comm]; exact h⟩
    have hdisjoint : g a &&& g b = 0#w := hapart.forall ha hb hab
    exact absurd hdisjoint (and_ne_zero_of_bit hi hbit)
  cases hp : p a with
  | true =>
    refine any_eq_true.mpr ⟨a, ha, ?_⟩
    rwa [if_pos hp]
  | false =>
    refine any_eq_false.mpr fun b hb => ?_
    by_cases hpb : p b = true
    · rw [if_pos hpb]
      intro hbit
      rw [howner b hb hbit, hp] at hpb
      cases hpb
    · rw [if_neg hpb]
      simp

end RptAdvanced.Lib
