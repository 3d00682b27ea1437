import Mathlib.Logic.Function.Basic
import Mathlib.Logic.Relation

/-!
# Interleavings

Any number of calls that work on one shared state. Each call is in a phase of its own, and a step of the
whole is a move of one call. What a call relies on has to survive its own moves and those of the others.
-/

namespace Jaull.Lib

universe u v w

variable {ι : Type u} {σ : Type v} {π : Type w}

/-- The shared state and the phase of every call. -/
structure World (ι : Type u) (σ : Type v) (π : Type w) where
  shared : σ
  phase : ι → π

/-- What one call may do to the shared state and to its phase. -/
abbrev Moves (ι : Type u) (σ : Type v) (π : Type w) :=
  ι → σ → π → σ → π → Prop

section Steps
variable [DecidableEq ι]

/-- A move of one call. -/
inductive Interleaved (moves : Moves ι σ π) : World ι σ π → World ι σ π → Prop
  | move {world : World ι σ π} {i : ι} {shared : σ} {phase : π}
      (moved : moves i world.shared (world.phase i) shared phase) :
      Interleaved moves world ⟨shared, Function.update world.phase i phase⟩

/-- A move of one call, in a world that lets it go on. -/
inductive Scheduled (moves : Moves ι σ π) (lets : World ι σ π → ι → Prop) :
    World ι σ π → World ι σ π → Prop
  | move {world : World ι σ π} {i : ι} {shared : σ} {phase : π}
      (moved : moves i world.shared (world.phase i) shared phase) (let' : lets world i) :
      Scheduled moves lets world ⟨shared, Function.update world.phase i phase⟩

/-- Any number of moves. -/
abbrev Run (moves : Moves ι σ π) : World ι σ π → World ι σ π → Prop :=
  Relation.ReflTransGen (Interleaved moves)

variable {moves : Moves ι σ π} {first last : World ι σ π}

/-- What every move does to the shared state, a run does. -/
lemma Run.shared {R : σ → σ → Prop} (run : Run moves first last) (refl : ∀ s, R s s)
    (trans : ∀ {r s t}, R r s → R s t → R r t)
    (moved : ∀ {i s p s' p'}, moves i s p s' p' → R s s') : R first.shared last.shared := by
  induction run with
  | refl => exact refl _
  | tail _ step ih =>
    cases step with
    | move move => exact trans ih (moved move)

/-- What every move keeps of the shared state, a run keeps. -/
lemma Run.invariant (Global : σ → Prop) (Local : ι → σ → π → Prop) (run : Run moves first last)
    (global : Global first.shared) (initially : ∀ i, Local i first.shared (first.phase i))
    (own : ∀ {i s p s' p'}, Global s → Local i s p → moves i s p s' p' → Global s' ∧ Local i s' p')
    (others : ∀ {i j s p s' p' q}, Global s → Local j s p → moves j s p s' p' → Local i s q →
      Local i s' q) :
    Global last.shared ∧ ∀ i, Local i last.shared (last.phase i) := by
  induction run with
  | refl => exact ⟨global, initially⟩
  | tail _ step ih =>
    obtain ⟨held, locals⟩ := ih
    cases step with
    | @move j shared phase move =>
      obtain ⟨global', kept⟩ := own held (locals j) move
      refine ⟨global', ?_⟩
      intro i
      by_cases same : i = j
      · subst same
        simpa only [Function.update_self] using kept
      · simpa only [Function.update_of_ne same] using others held (locals j) move (locals i)

end Steps

section Pairs
variable {moves : Moves Bool σ π} {lets : World Bool σ π → Bool → Prop} {world : World Bool σ π}
  {s s' : σ} {a a' b b' : π}

/-- The phases of a pair. -/
def phases (a b : π) : Bool → π :=
  fun i => if i then a else b

/-- Updating the first agent's phase. -/
lemma update_phases_first : Function.update (phases a b) true a' = phases a' b := by
  funext i
  cases i with
  | true => exact Function.update_self _ _ _
  | false => exact Function.update_of_ne Bool.false_ne_true _ _

/-- Updating the second's. -/
lemma update_phases_second : Function.update (phases a b) false b' = phases a b' := by
  funext i
  cases i with
  | true => exact Function.update_of_ne Bool.false_ne_true.symm _ _
  | false => exact Function.update_self _ _ _

/-- Two calls on a shared state. -/
def World.pair (shared : σ) (a b : π) : World Bool σ π :=
  ⟨shared, phases a b⟩

/-- A run goes on by a move of the first agent. -/
lemma Run.first (run : Run moves world (.pair s a b)) (moved : moves true s a s' a') :
    Run moves world (.pair s' a' b) := by
  have next := @Interleaved.move _ _ _ _ moves (.pair s a b) true _ _ moved
  rw [World.pair, update_phases_first] at next
  exact run.tail next

/-- Or by one of the second. -/
lemma Run.second (run : Run moves world (.pair s a b)) (moved : moves false s b s' b') :
    Run moves world (.pair s' a b') := by
  have next := @Interleaved.move _ _ _ _ moves (.pair s a b) false _ _ moved
  rw [World.pair, update_phases_second] at next
  exact run.tail next

/-- Any number of moves that the worlds let go on. -/
abbrev ScheduledRun {ι : Type u} [DecidableEq ι] (moves : Moves ι σ π) (lets : World ι σ π → ι → Prop) :
    World ι σ π → World ι σ π → Prop :=
  Relation.ReflTransGen (Scheduled moves lets)

/-- A scheduled run goes on by a move of the first agent that the schedule lets pass. -/
lemma ScheduledRun.first (run : ScheduledRun moves lets world (.pair s a b))
    (moved : moves true s a s' a') (let' : lets (.pair s a b) true) :
    ScheduledRun moves lets world (.pair s' a' b) := by
  have next := @Scheduled.move _ _ _ _ moves lets (.pair s a b) true _ _ moved let'
  rw [World.pair, update_phases_first] at next
  exact run.tail next

/-- Or by one of the second. -/
lemma ScheduledRun.second (run : ScheduledRun moves lets world (.pair s a b))
    (moved : moves false s b s' b') (let' : lets (.pair s a b) false) :
    ScheduledRun moves lets world (.pair s' a b') := by
  have next := @Scheduled.move _ _ _ _ moves lets (.pair s a b) false _ _ moved let'
  rw [World.pair, update_phases_second] at next
  exact run.tail next

end Pairs

end Jaull.Lib
