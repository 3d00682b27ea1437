import Mathlib.Algebra.Order.Ring.Int
import Mathlib.Data.Option.Basic
import Mathlib.Tactic.Common

/-!
# Searching an interval by halves

`while low <= high` with a probe at the middle: a probe that answers is remembered and the search goes on
above it, one that does not sends the search below. With as much fuel as the length of the interval has
binary digits, and a probe that stays silent above a place where it is silent, the answer at the
greatest answering place is found (`bisect_spec`).
-/

namespace Jaull.Lib

universe u
variable {β : Type u} (probe : ℤ → Option β)

/-- The last answer of a search between two bounds. -/
def bisect : ℕ → ℤ → ℤ → Option β → Option β
  | 0, _, _, best => best
  | fuel + 1, low, high, best =>
    if low ≤ high then
      match probe ((low + high).fdiv 2) with
      | none => bisect fuel low ((low + high).fdiv 2 - 1) best
      | some answer => bisect fuel ((low + high).fdiv 2 + 1) high (some answer)
    else best

variable {probe}

/-- The search finds the answer at the greatest answering place, and keeps what it had when there is
none. -/
lemma bisect_spec {fuel : ℕ} {low high : ℤ} (best : Option β) (enough : high - low + 1 < 2 ^ fuel)
    (silent : ∀ m n, low ≤ m → m ≤ n → n ≤ high → probe m = none → probe n = none) :
    (∃ n answer, low ≤ n ∧ n ≤ high ∧ probe n = some answer ∧
      (∀ m, n < m → m ≤ high → probe m = none) ∧ bisect probe fuel low high best = some answer) ∨
    ((∀ m, low ≤ m → m ≤ high → probe m = none) ∧ bisect probe fuel low high best = best) := by
  induction fuel generalizing low high best with
  | zero =>
    refine .inr ⟨?_, rfl⟩
    intro m lower upper
    omega
  | succ fuel ih =>
    rw [bisect]
    by_cases active : low ≤ high
    · rw [if_pos active]
      have halves : (low + high).fdiv 2 = (low + high) / 2 := Int.fdiv_eq_ediv_of_nonneg _ (by decide)
      rw [halves]
      rw [pow_succ] at enough
      generalize middle : (low + high) / 2 = m
      cases answers : probe m with
      | none =>
        -- no answer in the middle: none above it, the search goes on below
        have above : ∀ n, m ≤ n → n ≤ high → probe n = none :=
          fun n le upper => silent m n (by omega) le upper answers
        have below := @ih low (m - 1) best (by omega)
          fun a b lower le upper => silent a b lower le (by omega)
        rcases below with ⟨n, answer, lower, upper, found, greatest, run⟩ | ⟨none, run⟩
        · refine .inl ⟨n, answer, lower, by omega, found, ?_, run⟩
          intro a lt le
          rcases le_or_gt m a with up | down
          · exact above a up le
          · exact greatest a lt (by omega)
        · refine .inr ⟨?_, run⟩
          intro a lower upper
          rcases le_or_gt m a with up | down
          · exact above a up upper
          · exact none a lower (by omega)
      | some answer =>
        -- an answer in the middle is kept, unless there is one above
        have above := @ih (m + 1) high (some answer) (by omega)
          fun a b lower le upper => silent a b (by omega) le upper
        rcases above with ⟨n, answer', lower, upper, found, greatest, run⟩ | ⟨none, run⟩
        · exact .inl ⟨n, answer', by omega, upper, found, greatest, run⟩
        · refine .inl ⟨m, answer, by omega, by omega, answers, ?_, run⟩
          intro a lt le
          exact none a (by omega) le
    · rw [if_neg active]
      refine .inr ⟨?_, rfl⟩
      intro m lower upper
      omega

end Jaull.Lib
