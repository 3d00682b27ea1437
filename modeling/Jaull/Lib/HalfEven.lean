import Jaull.Lib.PyObject
import Mathlib.Algebra.Order.Field.Power
import Mathlib.Data.Int.Log
import Mathlib.Tactic.FieldSimp
import Mathlib.Tactic.Linarith
import Mathlib.Tactic.Ring

/-!
# Where rounding changes

`roundHalfEven` as a staircase: it rises past `k` where its argument passes the point half-way between `k`
and `k + 1`, and on that point itself when `k` is odd. Two numbers are rounded alike when no half-way point
lies between them. Fractions with a small numerator and a power of two below are doubles, so that
`nearestDouble` leaves them alone.
-/

namespace Jaull.Lib
open Jaull.Text

/-- Whether a number is rounded to more than `k`. -/
def PastHalf (k : ℤ) (q : ℚ) : Prop :=
  k + 1 / 2 < q ∨ q = k + 1 / 2 ∧ k % 2 = 1

instance (k : ℤ) (q : ℚ) : Decidable (PastHalf k q) :=
  inferInstanceAs (Decidable (_ ∨ _))

/-- No half-way point lies between two numbers. -/
def SameStep (p q : ℚ) : Prop :=
  ∀ k : ℤ, PastHalf k p ↔ PastHalf k q

/-- Rounding leaves an integer alone. -/
lemma roundHalfEven_intCast (n : ℤ) : roundHalfEven n = n := by
  have below : ⌊(n : ℚ)⌋ = n := Int.floor_intCast n
  simp [roundHalfEven, below]

/-- The steps of rounding. -/
lemma lt_roundHalfEven_iff {k : ℤ} {q : ℚ} : k < roundHalfEven q ↔ PastHalf k q := by
  have floor_le : (⌊q⌋ : ℚ) ≤ q := Int.floor_le q
  have lt_floor : q < ⌊q⌋ + 1 := Int.lt_floor_add_one q
  -- what is compared with `k` is an integer, so the half below it does not matter
  have far : ∀ {n : ℤ}, n < k → (n : ℚ) + 1 ≤ k := fun lt => by exact_mod_cast lt
  have near : ∀ {n : ℤ}, k < n → (k : ℚ) + 1 ≤ n := fun lt => by exact_mod_cast lt
  have past : k < ⌊q⌋ → PastHalf k q := by
    intro lt
    have := near lt
    exact .inl (by linarith)
  have short : ⌊q⌋ < k → ¬PastHalf k q := by
    intro lt past
    have := far lt
    rcases past with gt | ⟨eq, -⟩
    · linarith
    · linarith
  rw [roundHalfEven]
  rcases lt_trichotomy k ⌊q⌋ with lt | rfl | gt
  · refine iff_of_true ?_ (past lt)
    split_ifs <;> omega
  · rw [PastHalf]
    split_ifs with lower upper even
    · refine iff_of_false (lt_irrefl _) ?_
      rintro (gt | ⟨eq, -⟩)
      · linarith
      · linarith
    · exact iff_of_true (Int.lt_succ _) (.inl (by linarith))
    · refine iff_of_false (lt_irrefl _) ?_
      rintro (gt | ⟨-, odd⟩)
      · linarith
      · omega
    · refine iff_of_true (Int.lt_succ _) (.inr ⟨?_, by omega⟩)
      linarith
  · refine iff_of_false ?_ (short gt)
    split_ifs <;> omega

/-- Two numbers are rounded alike exactly when no half-way point lies between them. -/
lemma roundHalfEven_eq_iff {p q : ℚ} : roundHalfEven p = roundHalfEven q ↔ SameStep p q := by
  constructor
  · intro eq k
    rw [← lt_roundHalfEven_iff, ← lt_roundHalfEven_iff, eq]
  · intro same
    apply eq_of_forall_lt_iff
    intro k
    rw [lt_roundHalfEven_iff, lt_roundHalfEven_iff]
    exact same k

/-- A fraction with a small numerator over a power of two is a double. -/
lemma nearestDouble_div_pow {m : ℤ} {j : ℕ} (small : m.natAbs < 2 ^ 53) (shallow : j ≤ 1074) :
    nearestDouble (m / 2 ^ j) = m / 2 ^ j := by
  by_cases zero : m = 0
  · subst zero
    simp [nearestDouble]
  · have pow_pos : (0 : ℚ) < 2 ^ j := by positivity
    have ne : (m : ℚ) / 2 ^ j ≠ 0 := div_ne_zero (Int.cast_ne_zero.mpr zero) pow_pos.ne'
    have pos : 0 < |(m : ℚ) / 2 ^ j| := abs_pos.mpr ne
    have numerator : |(m : ℚ)| < 2 ^ (53 : ℤ) := by
      have : ((m.natAbs : ℕ) : ℚ) < ((2 ^ 53 : ℕ) : ℚ) := by exact_mod_cast small
      rw [Nat.cast_natAbs, Int.cast_abs] at this
      exact_mod_cast this
    have bound : |(m : ℚ) / 2 ^ j| < 2 ^ (53 - j : ℤ) := by
      rw [abs_div, abs_of_pos pow_pos, zpow_sub₀ two_ne_zero, zpow_natCast]
      exact (div_lt_div_iff_of_pos_right pow_pos).mpr numerator
    have log_lt : Int.log 2 |(m : ℚ) / 2 ^ j| < 53 - j :=
      (Int.lt_zpow_iff_log_lt one_lt_two pos).mp (by exact_mod_cast bound)
    -- the unit in the last place divides `1 / 2 ^ j`
    obtain ⟨e, unit⟩ : ∃ e : ℕ, max (Int.log 2 |(m : ℚ) / 2 ^ j| - 52) (-1074) = -(j + e : ℤ) := by
      refine ⟨(-(max (Int.log 2 |(m : ℚ) / 2 ^ j| - 52) (-1074)) - j).toNat, ?_⟩
      omega
    have whole : (m : ℚ) / 2 ^ j / 2 ^ (-(j + e : ℤ)) = ((m * 2 ^ e : ℤ) : ℚ) := by
      rw [zpow_neg, div_inv_eq_mul, zpow_add₀ two_ne_zero, zpow_natCast, zpow_natCast]
      push_cast
      field_simp
    rw [nearestDouble, if_neg ne]
    dsimp only
    rw [unit, whole, roundHalfEven_intCast, ← whole, div_mul_cancel₀]
    exact zpow_ne_zero _ two_ne_zero

section Range

/-- The float of a number that is not negative. The bound of the doubles stands for infinity. -/
def boundedDouble (q : ℚ) : ℚ :=
  if overflowBound ≤ q then overflowBound else nearestDouble q

/-- Two different powers of two are at least the smaller apart. -/
lemma pow_le_pow_sub {k m : ℕ} (lt : k < m) : 2 ^ k ≤ 2 ^ m - 2 ^ k := by
  have twice : 2 ^ k + 2 ^ k = 2 ^ (k + 1) := by rw [Nat.pow_succ, Nat.mul_two]
  exact Nat.le_sub_of_add_le (twice.trans_le (Nat.pow_le_pow_right Nat.zero_lt_two lt))

/-- A machine word is below the overflow bound. -/
lemma lt_overflowBound {n : ℕ} (word : n < 2 ^ 64) : n < overflowBound := by
  have low : 2 ^ 64 ≤ 2 ^ 970 := Nat.pow_le_pow_right Nat.zero_lt_two (by omega)
  exact (word.trans_le low).trans_le (pow_le_pow_sub (by omega))

/-- A quotient by a unit of at least one has a double when its numerator has. -/
lemma abs_div_lt_overflowBound {size : ℤ} {unit : ℚ} (one_le : 1 ≤ unit)
    (small : size.natAbs < overflowBound) : |(size : ℚ) / unit| < overflowBound := by
  have whole : |(size : ℚ)| < (overflowBound : ℚ) := by
    rw [← Int.cast_abs, Int.abs_eq_natAbs]
    exact_mod_cast small
  rw [abs_div]
  exact lt_of_le_of_lt (div_le_self (abs_nonneg _) (one_le.trans (le_abs_self _))) whole

end Range

end Jaull.Lib
