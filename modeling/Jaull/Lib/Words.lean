import Mathlib.Data.List.Basic

/-!
# Words

The words of a text are its longest pieces without gaps. Texts that are put together with a gap between them
have the words of both.
-/

namespace Jaull.Lib

universe u

variable {α : Type u} {gap : α → Bool} {text text' word : List α} {sep : α}

/-- The pieces between gaps, without the empty ones. -/
def wordsOf (gap : α → Bool) (text : List α) : List (List α) :=
  (text.splitOnP gap).filter fun piece => !piece.isEmpty

/-- A text that is one word. -/
structure IsWord (gap : α → Bool) (word : List α) : Prop where
  some : word ≠ []
  solid : ∀ c ∈ word, gap c = false

/-- The words on both sides of a gap. -/
lemma wordsOf_append_gap (isGap : gap sep = true) :
    wordsOf gap (text ++ sep :: text') = wordsOf gap text ++ wordsOf gap text' := by
  rw [wordsOf, List.splitOnP_append_cons _ _ isGap, List.filter_append]
  rfl

/-- A word's only word is itself. -/
lemma IsWord.wordsOf_eq (isWord : IsWord gap word) : wordsOf gap word = [word] := by
  rw [wordsOf, List.splitOnP_eq_singleton isWord.solid]
  exact List.filter_cons_of_pos (by simpa using isWord.some)

/-- A piece between gaps has none. -/
lemma solid_of_mem_splitOnP {piece : List α} (mem : piece ∈ text.splitOnP gap) : ∀ c ∈ piece, gap c = false := by
  induction text generalizing piece with
  | nil =>
    rw [List.splitOnP_nil, List.mem_singleton] at mem
    intro c inside
    rw [mem] at inside
    cases inside
  | cons d rest ih =>
    rw [List.splitOnP_cons_eq_if_modifyHead] at mem
    split at mem
    · rcases List.mem_cons.mp mem with rfl | mem
      · intro c inside
        cases inside
      · exact ih mem
    · rename_i solid
      cases pieces : rest.splitOnP gap with
      | nil => exact absurd pieces (List.splitOnP_ne_nil _ _)
      | cons first others =>
        rw [pieces, List.modifyHead_cons] at mem
        rcases List.mem_cons.mp mem with rfl | mem
        · intro c inside
          rcases List.mem_cons.mp inside with rfl | inside
          · exact eq_false_of_ne_true solid
          · exact ih (pieces ▸ List.mem_cons_self) c inside
        · exact ih (pieces ▸ List.mem_cons_of_mem _ mem)

/-- Every word is one. -/
lemma isWord_of_mem (mem : word ∈ wordsOf gap text) : IsWord gap word := by
  obtain ⟨piece, some⟩ := List.mem_filter.mp mem
  exact ⟨by simpa using some, solid_of_mem_splitOnP piece⟩

end Jaull.Lib
