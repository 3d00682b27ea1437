import Mathlib.Algebra.BigOperators.Group.List.Basic
import Mathlib.Algebra.Ring.Nat
import Mathlib.Order.Bounds.Basic
import Mathlib.Tactic.Common

/-!
# Sizes in pools

Items of a size, each of which belongs to at most one pool. The sizes of the items in some pools add up
when no pool is counted twice. `firstFromTop` is a search that counts down and takes the first number
that fits.
-/

namespace Jaull.Lib

universe u v
variable {α : Type u} {κ : Type v}

section Sums

/-- The sizes of the items whose pool is one of those. -/
def poolSum (place : α → Option κ) (size : α → ℕ) (p : κ → Bool) (l : List α) : ℕ :=
  ((l.filter fun a => (place a).any p).map size).sum

variable {place : α → Option κ} {size : α → ℕ} {p q : κ → Bool} {a : α} {l : List α}

@[simp] lemma poolSum_nil : poolSum place size p [] = 0 := rfl

/-- A pool's sum, element by element. -/
lemma poolSum_cons :
    poolSum place size p (a :: l) =
      (if (place a).any p then size a else 0) + poolSum place size p l := by
  rw [poolSum, List.filter_cons]
  split
  · rw [List.map_cons, List.sum_cons, poolSum]
  · rw [Nat.zero_add, poolSum]

lemma poolSum_append (l' : List α) :
    poolSum place size p (l ++ l') = poolSum place size p l + poolSum place size p l' := by
  rw [poolSum, List.filter_append, List.map_append, List.sum_append, poolSum, poolSum]

/-- An item behind the others adds its size to its own pools. -/
lemma poolSum_concat {k : κ} (at_k : place a = some k) :
    poolSum place size p (l ++ [a]) = poolSum place size p l + if p k then size a else 0 := by
  rw [poolSum_append, poolSum_cons, at_k, Option.any_some, poolSum_nil, Nat.add_zero]

/-- Different pools are counted apart. -/
lemma poolSum_add (apart : ∀ k, p k = true → q k = false) :
    poolSum place size p l + poolSum place size q l =
      poolSum place size (fun k => p k || q k) l := by
  induction l with
  | nil => rfl
  | cons a l ih =>
    rw [poolSum_cons, poolSum_cons, poolSum_cons, ← ih]
    cases located : place a with
    | none => simp only [Option.any_none, Bool.false_eq_true, if_false]; omega
    | some k =>
      rw [Option.any_some, Option.any_some, Option.any_some]
      cases one : p k with
      | true =>
        rw [apart k one, Bool.true_or, if_pos rfl, if_neg Bool.false_ne_true]
        omega
      | false =>
        rw [Bool.false_or, if_neg Bool.false_ne_true]
        omega

/-- All pools together hold all items that have one. -/
lemma poolSum_all (all : ∀ a ∈ l, (place a).any p = true) :
    poolSum place size p l = (l.map size).sum := by
  rw [poolSum, List.filter_eq_self.mpr all]

end Sums

section Slots

/-- What adding to one slot does to the sum of the slots from some place on. -/
lemma sum_drop_modify {slots : List ℕ} {k : ℕ} (there : k < slots.length) (d n : ℕ) :
    ((slots.modify k (· + n)).drop d).sum = (slots.drop d).sum + if d ≤ k then n else 0 := by
  induction slots generalizing k d with
  | nil => exact absurd there (Nat.not_lt_zero k)
  | cons first rest ih =>
    cases k with
    | zero =>
      cases d with
      | zero =>
        simp only [List.modify_zero_cons, List.drop_zero, List.sum_cons, Nat.le_refl, if_true]
        omega
      | succ d => simp [List.modify_zero_cons]
    | succ k =>
      have within : k < rest.length := Nat.lt_of_succ_lt_succ there
      cases d with
      | zero =>
        have whole := ih within 0
        rw [List.drop_zero, List.drop_zero, if_pos (Nat.zero_le k)] at whole
        simp only [List.modify_succ_cons, List.drop_zero, List.sum_cons, Nat.zero_le, if_true]
        omega
      | succ d =>
        rw [List.modify_succ_cons, List.drop_succ_cons, List.drop_succ_cons, ih within d]
        simp only [Nat.succ_le_succ_iff]

end Slots

section Search

/-- `for n in range(top, -1, -1)`, up to the first number that fits. -/
def firstFromTop (fits : ℕ → Bool) : ℕ → Option ℕ
  | 0 => if fits 0 then some 0 else none
  | n + 1 => if fits (n + 1) then some (n + 1) else firstFromTop fits n

variable {fits : ℕ → Bool} {top n : ℕ}

/-- The first fit from the top is the greatest one. -/
lemma isGreatest_of_firstFromTop (found : firstFromTop fits top = some n) :
    IsGreatest {n | n ≤ top ∧ fits n = true} n := by
  induction top with
  | zero =>
    rw [firstFromTop] at found
    split at found
    · cases found
      exact ⟨⟨Nat.le_refl 0, ‹_›⟩, fun m mem => mem.1⟩
    · cases found
  | succ top ih =>
    rw [firstFromTop] at found
    by_cases top_fits : fits (top + 1) = true
    · rw [if_pos top_fits] at found
      cases found
      exact ⟨⟨Nat.le_refl _, top_fits⟩, fun m mem => mem.1⟩
    · rw [if_neg top_fits] at found
      obtain ⟨⟨le, good⟩, greatest⟩ := ih found
      refine ⟨⟨Nat.le_succ_of_le le, good⟩, ?_⟩
      intro m mem
      cases Nat.lt_or_eq_of_le mem.1 with
      | inl lt => exact greatest ⟨Nat.le_of_lt_succ lt, mem.2⟩
      | inr eq => exact absurd (eq ▸ mem.2) top_fits

/-- The search finds nothing when no count fits. -/
lemma firstFromTop_eq_none : firstFromTop fits top = none ↔ ∀ n ≤ top, fits n = false := by
  induction top with
  | zero =>
    rw [firstFromTop]
    constructor
    · intro none n le
      rw [Nat.le_zero.mp le]
      cases good : fits 0 with
      | true =>
        rw [good, if_pos rfl] at none
        cases none
      | false => rfl
    · intro all
      rw [all 0 (Nat.le_refl 0), if_neg Bool.false_ne_true]
  | succ top ih =>
    rw [firstFromTop]
    cases good : fits (top + 1) with
    | true =>
      rw [if_pos rfl]
      constructor
      · intro eq
        cases eq
      · intro all
        rw [all (top + 1) (Nat.le_refl _)] at good
        cases good
    | false =>
      rw [if_neg Bool.false_ne_true, ih]
      constructor
      · intro all n le
        cases Nat.lt_or_eq_of_le le with
        | inl lt => exact all n (Nat.le_of_lt_succ lt)
        | inr eq => exact eq ▸ good
      · intro all n le
        exact all n (Nat.le_succ_of_le le)

end Search

end Jaull.Lib
