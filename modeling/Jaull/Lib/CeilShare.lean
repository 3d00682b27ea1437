import Mathlib.Algebra.Order.Floor.Ring
import Mathlib.Data.Rat.Floor
import Mathlib.Tactic.Linarith
import Mathlib.Tactic.Positivity
import Mathlib.Tactic.FieldSimp
import Mathlib.Tactic.Ring
import Mathlib.Tactic.GCongr

/-!
# Proportional shares rounded up

A whole amount is split in two in proportion to `num / den`: one side receives the exact share
rounded up, the other side the remainder. The division is the exact rational one. The lemmas bound
the rounded share, order it, and relate it to the unrounded product.
-/

namespace Jaull.Lib

/-- The share `num / den` of `total`, rounded up. -/
def ceilShare (total num den : ℤ) : ℤ :=
  ⌈(total : ℚ) * ((num : ℚ) / (den : ℚ))⌉

section
variable {total num num' den : ℤ}

@[simp]
lemma ceilShare_zero : ceilShare 0 num den = 0 := by
  simp [ceilShare]

/-- A rounded share is at most `bound` exactly when the unrounded product is. -/
lemma ceilShare_le_iff {bound : ℤ} (pos : 0 < den) :
    ceilShare total num den ≤ bound ↔ total * num ≤ bound * den := by
  have posQ : (0 : ℚ) < den := by exact_mod_cast pos
  rw [ceilShare, Int.ceil_le, ← mul_div_assoc, div_le_iff₀ posQ]
  exact_mod_cast Iff.rfl

/-- Rounding up never loses: the share covers the unrounded product. -/
lemma mul_le_ceilShare_mul (pos : 0 < den) : total * num ≤ ceilShare total num den * den :=
  (ceilShare_le_iff pos).mp le_rfl

/-- Shares of nonnegative figures are nonnegative. -/
lemma ceilShare_nonneg (pos : 0 < den) (nonneg : 0 ≤ total) (num_nonneg : 0 ≤ num) :
    0 ≤ ceilShare total num den := by
  have posQ : (0 : ℚ) < den := by exact_mod_cast pos
  have totalQ : (0 : ℚ) ≤ total := by exact_mod_cast nonneg
  have numQ : (0 : ℚ) ≤ num := by exact_mod_cast num_nonneg
  exact Int.ceil_nonneg (by positivity)

/-- A share of at most the whole is at most the whole. -/
lemma ceilShare_le_total (pos : 0 < den) (nonneg : 0 ≤ total) (le : num ≤ den) :
    ceilShare total num den ≤ total := by
  rw [ceilShare_le_iff pos]
  exact mul_le_mul_of_nonneg_left le nonneg

/-- A larger fraction receives no smaller a share. -/
lemma ceilShare_mono (pos : 0 < den) (nonneg : 0 ≤ total) (le : num ≤ num') :
    ceilShare total num den ≤ ceilShare total num' den := by
  rw [ceilShare_le_iff pos]
  calc total * num ≤ total * num' := mul_le_mul_of_nonneg_left le nonneg
    _ ≤ ceilShare total num' den * den := mul_le_ceilShare_mul pos

/-- The integer idiom for rounding up computes the same share. -/
lemma ceilShare_eq_fdiv (pos : 0 < den) :
    ceilShare total num den = (total * num + den - 1).fdiv den := by
  rw [Int.fdiv_eq_ediv_of_nonneg _ pos.le]
  apply le_antisymm
  · rw [ceilShare_le_iff pos]
    have rem := Int.emod_add_mul_ediv (total * num + den - 1) den
    have lt := Int.emod_lt_of_pos (total * num + den - 1) pos
    have comm := mul_comm den ((total * num + den - 1) / den)
    omega
  · have covers := @mul_le_ceilShare_mul total num den pos
    rw [← Int.lt_add_one_iff, Int.ediv_lt_iff_lt_mul pos, add_mul]
    omega

/-- Floor division by a positive number is the greatest multiple below. -/
lemma le_fdiv_iff {n : ℤ} (pos : 0 < den) : n ≤ total.fdiv den ↔ n * den ≤ total := by
  rw [Int.fdiv_eq_ediv_of_nonneg _ pos.le, Int.le_ediv_iff_mul_le pos]

/-- Dividing `total` into `den` equal parts rounded up, `den` parts cover it. -/
lemma le_ceil_div_mul (pos : 0 < den) : total ≤ ⌈(total : ℚ) / (den : ℚ)⌉ * den := by
  have posQ : (0 : ℚ) < den := by exact_mod_cast pos
  have le : (total : ℚ) / den ≤ ⌈(total : ℚ) / (den : ℚ)⌉ := Int.le_ceil _
  rw [div_le_iff₀ posQ] at le
  exact_mod_cast le

/-- Each such part of a positive total is positive. -/
lemma ceil_div_pos (pos : 0 < den) (total_pos : 0 < total) :
    0 < ⌈(total : ℚ) / (den : ℚ)⌉ := by
  have posQ : (0 : ℚ) < den := by exact_mod_cast pos
  have totalQ : (0 : ℚ) < total := by exact_mod_cast total_pos
  exact Int.ceil_pos.mpr (by positivity)

end

end Jaull.Lib
