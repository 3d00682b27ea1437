import Mathlib.Order.Bounds.Basic
import Mathlib.Tactic.Common

/-!
# Counting loops that stop early

`for n in range(ceiling, 0, -1)` whose body either goes on with a new state or returns. Two rules:
a result comes from some pass (`forDown_some`), and a body that returns exactly on a predicate finds
the greatest number satisfying it (`forDown_greatest`). `forEach` is the same loop over a list.
-/

namespace Jaull.Lib

universe u v w
variable {ε : Type u} {σ : Type v} {ρ : Type w}

/-- What one pass of a loop body does: go on with a new state, or return. -/
inductive Pass (σ : Type v) (ρ : Type w)
  | next (state : σ)
  | done (result : ρ)

/-- `for n in range(ceiling, 0, -1)`, threading a state and stopping at the first result. -/
def forDown (body : ℕ → σ → Except ε (Pass σ ρ)) : ℕ → σ → Except ε (Option ρ)
  | 0, _ => .ok none
  | n + 1, state =>
    match body (n + 1) state with
    | .error e => .error e
    | .ok (.next state') => forDown body n state'
    | .ok (.done result) => .ok (some result)

/-- `for a in list`, threading a state and stopping at the first result. -/
def forEach {α : Type u} (body : α → σ → Pass σ ρ) : List α → σ → Pass σ ρ
  | [], state => .next state
  | a :: rest, state =>
    match body a state with
    | .next state' => forEach body rest state'
    | .done result => .done result

/-- A loop over two lists goes on with the second where the first returned nothing. -/
lemma forEach_append {α : Type u} {body : α → σ → Pass σ ρ} (l l' : List α) (state : σ) :
    forEach body (l ++ l') state =
      match forEach body l state with
      | .next state' => forEach body l' state'
      | .done result => .done result := by
  induction l generalizing state with
  | nil => rfl
  | cons a rest ih =>
    rw [List.cons_append, forEach, forEach]
    cases body a state with
    | next state' => exact ih state'
    | done result => rfl

variable {body : ℕ → σ → Except ε (Pass σ ρ)}

/-- A returned value was returned by some pass. -/
lemma forDown_some {ceiling state result}
    (eq : forDown body ceiling state = .ok (some result)) :
    ∃ n state', 0 < n ∧ n ≤ ceiling ∧ body n state' = .ok (.done result) := by
  induction ceiling generalizing state with
  | zero => cases eq
  | succ n ih =>
    rw [forDown] at eq
    cases pass : body (n + 1) state with
    | error e =>
      rw [pass] at eq
      cases eq
    | ok step =>
      rw [pass] at eq
      cases step with
      | next state' =>
        obtain ⟨m, at_m, pos, le, done⟩ := ih eq
        exact ⟨m, at_m, pos, by omega, done⟩
      | done result' =>
        cases eq
        exact ⟨n + 1, state, by omega, le_rfl, pass⟩

/-- A body that returns exactly where `good` holds makes the loop return at the greatest such number
up to the ceiling, and nothing when there is none. -/
lemma forDown_greatest {good : ℕ → Prop} {Result : ℕ → ρ → Prop}
    {ceiling : ℕ} (decides : ∀ n state, 0 < n → n ≤ ceiling →
      (good n ∧ ∃ result, body n state = .ok (.done result) ∧ Result n result) ∨
        (¬ good n ∧ ∃ state', body n state = .ok (.next state')))
    (state) :
    (∃ n result, forDown body ceiling state = .ok (some result) ∧ Result n result ∧
      IsGreatest {n | 0 < n ∧ n ≤ ceiling ∧ good n} n) ∨
      (forDown body ceiling state = .ok none ∧ ∀ n, 0 < n → n ≤ ceiling → ¬ good n) := by
  induction ceiling generalizing state with
  | zero =>
    refine .inr ⟨rfl, ?_⟩
    intro n pos le
    omega
  | succ k ih =>
    -- the count at the top is tried first, and the rest goes on below it
    have below : ∀ n state, 0 < n → n ≤ k →
        (good n ∧ ∃ result, body n state = .ok (.done result) ∧ Result n result) ∨
          (¬ good n ∧ ∃ state', body n state = .ok (.next state')) :=
      fun n state pos le => decides n state pos (by omega)
    rcases decides (k + 1) state (by omega) le_rfl with
      ⟨isGood, result, pass, res⟩ | ⟨notGood, state', pass⟩
    · refine .inl ⟨k + 1, result, by rw [forDown, pass], res, ⟨by omega, le_rfl, isGood⟩, ?_⟩
      rintro m ⟨_, le, _⟩
      exact le
    · have eq : forDown body (k + 1) state = forDown body k state' := by rw [forDown, pass]
      rw [eq]
      rcases ih below state' with ⟨n, result, run, res, ⟨pos, le, isGood⟩, ub⟩ | ⟨run, none⟩
      · refine .inl ⟨n, result, run, res, ⟨pos, by omega, isGood⟩, ?_⟩
        rintro m ⟨mPos, mLe, mGood⟩
        have ne : m ≠ k + 1 := by
          rintro rfl
          exact notGood mGood
        exact ub ⟨mPos, by omega, mGood⟩
      · refine .inr ⟨run, ?_⟩
        intro n pos le isGood
        have ne : n ≠ k + 1 := by
          rintro rfl
          exact notGood isGood
        exact none n pos (by omega) isGood

end Jaull.Lib
