import Mathlib.Order.WellFounded
import Mathlib.Order.Nat

/-!
# Behaviours

Infinite runs of a step relation that may stop in final states. A measure that every step lowers, but for the
steps that wait, brings a run to a final state unless it waits forever.
-/

namespace Jaull.Lib

universe u

variable {σ : Type u} {step : σ → σ → Prop} {final : σ → Prop} {run : ℕ → σ}

/-- A run takes steps until it is in a final state, where it stays. -/
def Behaviour (step : σ → σ → Prop) (final : σ → Prop) (run : ℕ → σ) : Prop :=
  ∀ t, (¬final (run t) ∧ step (run t) (run (t + 1))) ∨ (final (run t) ∧ run (t + 1) = run t)

/-- What every step keeps, a behaviour keeps. -/
lemma Behaviour.invariant (behaviour : Behaviour step final run) {P : σ → Prop} (initially : P (run 0))
    (kept : ∀ {s s'}, P s → step s s' → P s') (t : ℕ) : P (run t) := by
  induction t with
  | zero => exact initially
  | succ t ih =>
    rcases behaviour t with ⟨-, moved⟩ | ⟨-, same⟩
    · exact kept ih moved
    · rw [same]
      exact ih

/-- What one step adds to, a behaviour adds to. -/
lemma Behaviour.mono (behaviour : Behaviour step final run) {P : σ → Prop}
    (kept : ∀ {s s'}, P s → step s s' → P s') {t t' : ℕ} (le : t ≤ t') (held : P (run t)) : P (run t') := by
  induction t', le using Nat.le_induction with
  | base => exact held
  | succ t' _ ih =>
    rcases behaviour t' with ⟨-, moved⟩ | ⟨-, same⟩
    · exact kept ih moved
    · rw [same]
      exact ih

/-- A run that lowers a measure whenever it changes stops changing. -/
lemma exists_settled {measure : σ → ℕ}
    (lowers : ∀ t, run (t + 1) = run t ∨ measure (run (t + 1)) < measure (run t)) :
    ∃ T, ∀ t, T ≤ t → run t = run T := by
  obtain ⟨_, ⟨T, rfl⟩, least⟩ := wellFounded_lt.has_min (Set.range fun t => measure (run t)) ⟨_, 0, rfl⟩
  refine ⟨T, ?_⟩
  intro t le
  induction t, le using Nat.le_induction with
  | base => rfl
  | succ t _ ih =>
    rcases lowers t with same | lower
    · rw [same, ih]
    · rw [ih] at lower
      exact absurd lower (least _ ⟨t + 1, rfl⟩)

/-- A behaviour ends where no step but a wait leaves the measure, and no wait lasts forever. -/
lemma Behaviour.ends (behaviour : Behaviour step final run) {P waits : σ → Prop} {measure : σ → ℕ}
    (initially : P (run 0)) (kept : ∀ {s s'}, P s → step s s' → P s')
    (lowers : ∀ {s s'}, P s → step s s' → ¬final s' → (s' = s ∧ waits s) ∨ measure s' < measure s)
    (wakes : ∀ t, P (run t) → waits (run t) → ∃ t', t ≤ t' ∧ run t' ≠ run t) : ∃ t, final (run t) := by
  by_contra never
  have unfinished : ∀ t, ¬final (run t) := fun t ended => never ⟨t, ended⟩
  have steps : ∀ t, step (run t) (run (t + 1)) := by
    intro t
    rcases behaviour t with ⟨-, moved⟩ | ⟨ended, -⟩
    · exact moved
    · exact absurd ended (unfinished t)
  have held := behaviour.invariant initially kept
  have either : ∀ t, (run (t + 1) = run t ∧ waits (run t)) ∨ measure (run (t + 1)) < measure (run t) :=
    fun t => lowers (held t) (steps t) (unfinished (t + 1))
  obtain ⟨T, settled⟩ := exists_settled fun t => (either t).imp_left And.left
  have waiting : waits (run T) := by
    rcases either T with ⟨-, waiting⟩ | lower
    · exact waiting
    · rw [settled (T + 1) (Nat.le_succ T)] at lower
      exact absurd lower (Nat.lt_irrefl _)
  obtain ⟨t, le, moved⟩ := wakes T (held T) waiting
  exact moved (settled t le)

end Jaull.Lib
