import Mathlib.Algebra.BigOperators.Ring.List
import Mathlib.Algebra.Order.Ring.Defs
import Mathlib.Algebra.Ring.Parity
import Mathlib.Tactic.Common

/-!
# The sign of a product

A product is positive when no factor is zero and an even number of factors is negative.
-/

namespace Jaull.Lib

universe u
variable {R : Type u} [CommRing R] [LinearOrder R] [IsStrictOrderedRing R]

/-- The sign of a product without a zero factor goes by the parity of its negative factors. -/
lemma prod_sign {factors : List R} (nonzero : 0 ∉ factors) :
    (0 < factors.prod ∧ Even (factors.countP (· < 0))) ∨
      (factors.prod < 0 ∧ ¬ Even (factors.countP (· < 0))) := by
  induction factors with
  | nil => exact .inl ⟨one_pos, ⟨0, rfl⟩⟩
  | cons a rest ih =>
    rw [List.mem_cons, not_or] at nonzero
    obtain ⟨ne, nonzero⟩ := nonzero
    rw [List.prod_cons]
    rcases lt_or_gt_of_ne ne with pos | neg
    · rw [List.countP_cons_of_neg (by simpa using le_of_lt pos)]
      rcases ih nonzero with ⟨sign, even⟩ | ⟨sign, odd⟩
      · exact .inl ⟨mul_pos pos sign, even⟩
      · exact .inr ⟨mul_neg_of_pos_of_neg pos sign, odd⟩
    · rw [List.countP_cons_of_pos (by simpa using neg), Nat.even_add_one]
      rcases ih nonzero with ⟨sign, even⟩ | ⟨sign, odd⟩
      · exact .inr ⟨mul_neg_of_neg_of_pos neg sign, not_not.mpr even⟩
      · exact .inl ⟨mul_pos_of_neg_of_neg neg sign, odd⟩

/-- When a product is positive. -/
lemma prod_pos_iff (factors : List R) :
    0 < factors.prod ↔ 0 ∉ factors ∧ Even (factors.countP (· < 0)) := by
  constructor
  · intro pos
    have nonzero : 0 ∉ factors := by
      intro mem
      rw [List.prod_eq_zero mem] at pos
      exact lt_irrefl _ pos
    rcases prod_sign nonzero with ⟨_, even⟩ | ⟨neg, _⟩
    · exact ⟨nonzero, even⟩
    · exact absurd pos (lt_asymm neg)
  · rintro ⟨nonzero, even⟩
    rcases prod_sign nonzero with ⟨pos, _⟩ | ⟨_, odd⟩
    · exact pos
    · exact absurd even odd

end Jaull.Lib
