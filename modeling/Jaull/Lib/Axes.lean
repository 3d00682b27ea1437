import Mathlib.Data.List.Lex
import Mathlib.Data.Prod.Lex
import Mathlib.Tactic.Common

/-!
# Comparing by axes

Lists of axes are compared lexicographically. An axis on which two lists agree whenever they agree on
the axes before it, such as a constant or one that repeats an earlier axis, decides nothing
(`insertAxis_lt_iff`).
-/

namespace Jaull.Lib

universe u v
variable {α : Type u} [LinearOrder α]

/-- An axis implied by those before it decides nothing. -/
lemma insertAxis_lt_iff {before before' after after' : List α} {c c' : α}
    (length : before.length = before'.length) (implied : before = before' → c = c') :
    before ++ c :: after < before' ++ c' :: after' ↔ before ++ after < before' ++ after' := by
  induction before generalizing before' with
  | nil =>
    cases List.length_eq_zero_iff.mp length.symm
    rw [implied rfl, List.nil_append, List.nil_append, List.cons_lt_cons_iff]
    simp
  | cons a before ih =>
    cases before' with
    | nil => cases length
    | cons a' before' =>
      simp only [List.cons_append, List.cons_lt_cons_iff]
      apply or_congr_right
      apply and_congr_right
      rintro rfl
      exact ih (Nat.succ.inj length) fun same => implied (congrArg (a :: ·) same)

/-- Lists that compare alike also compare alike with the same second key behind them. -/
lemma toLex_le_toLex_congr {β γ δ : Type*} [LinearOrder β] [LinearOrder γ] [LinearOrder δ]
    {a b : β} {a' b' : γ} {n m : δ} (lt : a < b ↔ a' < b') (gt : b < a ↔ b' < a') :
    toLex (a, n) ≤ toLex (b, m) ↔ toLex (a', n) ≤ toLex (b', m) := by
  have eq : a = b ↔ a' = b' := by
    rw [eq_iff_le_not_lt, eq_iff_le_not_lt, ← not_lt, ← not_lt, lt, gt]
  rw [Prod.Lex.toLex_le_toLex, Prod.Lex.toLex_le_toLex]
  exact or_congr lt (and_congr_left' eq)

/-- The first axis decides, then the others with the second key. -/
lemma toLex_cons_le_iff {β : Type*} [LinearOrder β] {c c' : α} {a b : List α} {n m : β} :
    toLex (c :: a, n) ≤ toLex (c' :: b, m) ↔ c < c' ∨ c = c' ∧ toLex (a, n) ≤ toLex (b, m) := by
  rw [Prod.Lex.toLex_le_toLex, Prod.Lex.toLex_le_toLex, List.cons_lt_cons_iff]
  simp only [List.cons.injEq]
  tauto

end Jaull.Lib
