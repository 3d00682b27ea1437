import Jaull.Lib.PyLaws

/-!
# JSON texts in files

The code points that `json.dump` writes are characters when the tree has no lone surrogates, and never a
carriage return, so that a text file gives back the text.
-/

namespace Jaull.Lib

/-- A character that a text file gives back. -/
structure Legible (n : ℕ) : Prop where
  valid : n.isValidChar
  notReturn : n ≠ 13

/-- A character below 128 that is no carriage return. -/
lemma legible_of_lt {n : ℕ} (lt : n < 128) (other : n ≠ 13) : Legible n :=
  ⟨.inl (by omega), other⟩

/-- The characters of words are legible. -/
lemma legible_of_word {n : ℕ} (word : isWordCode n = true) : Legible n := by
  simp only [isWordCode, Bool.or_eq_true, Bool.and_eq_true, decide_eq_true_eq] at word
  exact legible_of_lt (by omega) (by omega)

section Rendering
variable {l : Layout}

/-- So is an escaped character. -/
lemma legible_escapeCode {n : ℕ} (valid : n.isValidChar) : ∀ m ∈ escapeCode n, Legible m := by
  have few : ∀ {codes : List ℕ}, (∀ m ∈ codes, m < 128 ∧ m ≠ 13) → ∀ m ∈ codes, Legible m :=
    fun small m mem => legible_of_lt (small m mem).1 (small m mem).2
  rw [escapeCode]
  split
  · exact few (by decide)
  · split
    · exact few (by decide)
    · split
      · exact few (by decide)
      · split
        · exact few (by decide)
        · split
          · exact few (by decide)
          · split
            · exact few (by decide)
            · split
              · exact few (by decide)
              · split
                · rename_i low
                  clear valid
                  interval_cases n <;> exact few (by decide)
                · rename_i notReturn _ _ _ _
                  intro m mem
                  rw [List.mem_singleton.mp mem]
                  exact ⟨valid, notReturn⟩

/-- So is a key. -/
lemma legible_quotedCodes {s : PyString} (text : textLeaf (.str s) = true) :
    ∀ n ∈ quotedCodes s, Legible n := by
  cases s with
  | surrogate before code after => cases text
  | text chars =>
    intro n mem
    rw [quotedCodes, List.mem_cons, List.mem_append, List.mem_singleton] at mem
    rcases mem with rfl | mem | rfl
    · exact legible_of_lt (by decide) (by decide)
    · obtain ⟨m, inside, mem⟩ := List.mem_flatMap.mp mem
      obtain ⟨c, -, rfl⟩ := List.mem_map.mp inside
      exact legible_escapeCode c.valid n mem
    · exact legible_of_lt (by decide) (by decide)

/-- So is a gap. -/
lemma legible_gap (depth : ℕ) : ∀ n ∈ l.gap depth, Legible n := by
  intro n mem
  cases l with
  | compact => cases mem
  | indented width =>
    rcases List.mem_cons.mp mem with rfl | mem
    · exact legible_of_lt (by decide) (by decide)
    · rw [List.eq_of_mem_replicate mem]
      exact legible_of_lt (by decide) (by decide)

/-- So is a colon. -/
lemma legible_colon : ∀ n ∈ l.colon, Legible n := by
  intro n mem
  have small : n < 128 ∧ n ≠ 13 := by
    cases l with
    | compact => revert n; decide
    | indented width =>
      change n ∈ [58, 32] at mem
      revert n
      decide
  exact legible_of_lt small.1 small.2

/-- So is a scalar. -/
lemma legible_scalar {a : Json} (scalar : a.opening = none) :
    ∀ n ∈ a.scalarText.map Char.toNat, Legible n := by
  obtain ⟨c, rest, eq, word⟩ := scalarText_word scalar
  rw [eq]
  exact fun n mem => legible_of_word (word n mem)

/-- Texts that are put together from a character and two texts. -/
lemma legible_cons {n : ℕ} {codes rest : List ℕ} (lt : n < 128 ∧ n ≠ 13)
    (left : ∀ m ∈ codes, Legible m) (right : ∀ m ∈ rest, Legible m) :
    ∀ m ∈ n :: (codes ++ rest), Legible m := by
  intro m mem
  rw [List.mem_cons, List.mem_append] at mem
  rcases mem with rfl | mem | mem
  · exact legible_of_lt lt.1 lt.2
  · exact left m mem
  · exact right m mem

lemma legible_append {codes rest : List ℕ} (left : ∀ m ∈ codes, Legible m)
    (right : ∀ m ∈ rest, Legible m) : ∀ m ∈ codes ++ rest, Legible m :=
  fun m mem => (List.mem_append.mp mem).elim (left m) (right m)

/-- So is what closes. -/
lemma legible_close (depth : ℕ) {close : ℕ} (small : close < 128 ∧ close ≠ 13) :
    ∀ n ∈ l.gap depth ++ [close], Legible n := by
  refine legible_append (legible_gap depth) ?_
  intro n mem
  rw [List.mem_singleton.mp mem]
  exact legible_of_lt small.1 small.2

mutual

/-- A tree without lone surrogates is written in characters that a text file gives back. -/
lemma legible_render : ∀ (v : Json) (depth : ℕ), v.leaves textLeaf = true →
    ∀ n ∈ render l depth v, Legible n
  | .null, _, _ => by
    rw [render]
    exact legible_scalar rfl
  | .bool b, _, _ => by
    rw [render]
    exact legible_scalar rfl
  | .int i, _, _ => by
    rw [render]
    exact legible_scalar rfl
  | .float x, _, _ => by
    rw [render]
    exact legible_scalar rfl
  | .str s, _, text => by
    rw [render]
    exact legible_quotedCodes text
  | .arr [], _, _ => by
    intro n mem
    rw [render] at mem
    have small : n < 128 ∧ n ≠ 13 := by revert n; decide
    exact legible_of_lt small.1 small.2
  | .arr (item :: items), depth, text => by
    rw [Json.leaves, leavesItems, Bool.and_eq_true] at text
    rw [render]
    exact legible_cons (by decide) (legible_gap _)
      (legible_append (legible_render item _ text.1) (legible_renderItems items _ text.2))
  | .obj [], _, _ => by
    intro n mem
    rw [render] at mem
    have small : n < 128 ∧ n ≠ 13 := by revert n; decide
    exact legible_of_lt small.1 small.2
  | .obj ((key, value) :: fields), depth, text => by
    rw [Json.leaves, leavesFields, Bool.and_eq_true, Bool.and_eq_true] at text
    rw [render]
    exact legible_cons (by decide) (legible_gap _) (legible_append (legible_quotedCodes text.1.1)
      (legible_append legible_colon (legible_append (legible_render value _ text.1.2)
        (legible_renderFields fields _ text.2))))

/-- So are items. -/
lemma legible_renderItems : ∀ (items : List Json) (depth : ℕ), leavesItems textLeaf items = true →
    ∀ n ∈ renderItems l depth items, Legible n
  | [], depth, _ => by
    rw [renderItems]
    exact legible_close depth (by decide)
  | item :: items, depth, text => by
    rw [leavesItems, Bool.and_eq_true] at text
    rw [renderItems]
    exact legible_cons (by decide) (legible_gap _)
      (legible_append (legible_render item _ text.1) (legible_renderItems items _ text.2))

/-- So are fields. -/
lemma legible_renderFields : ∀ (fields : List (PyString × Json)) (depth : ℕ),
    leavesFields textLeaf fields = true → ∀ n ∈ renderFields l depth fields, Legible n
  | [], depth, _ => by
    rw [renderFields]
    exact legible_close depth (by decide)
  | (key, value) :: fields, depth, text => by
    rw [leavesFields, Bool.and_eq_true, Bool.and_eq_true] at text
    rw [renderFields]
    exact legible_cons (by decide) (legible_gap _) (legible_append (legible_quotedCodes text.1.1)
      (legible_append legible_colon (legible_append (legible_render value _ text.1.2)
        (legible_renderFields fields _ text.2))))

end

end Rendering

section Characters

/-- The characters of code points. -/
def charsOf (codes : List ℕ) : List Char :=
  codes.map Char.ofNat

/-- Legible code points are those of their characters. -/
lemma map_toNat_charsOf {codes : List ℕ} (legible : ∀ n ∈ codes, Legible n) :
    (charsOf codes).map Char.toNat = codes := by
  rw [charsOf, List.map_map]
  conv_rhs => rw [← List.map_id codes]
  refine List.map_congr_left ?_
  intro n mem
  rw [Function.comp_apply, Char.ofNat, dif_pos (legible n mem).valid]
  rfl

/-- None of them is a carriage return. -/
lemma charsOf_no_return {codes : List ℕ} (legible : ∀ n ∈ codes, Legible n) :
    '\r' ∉ charsOf codes := by
  intro mem
  have code := List.mem_map_of_mem (f := Char.toNat) mem
  rw [map_toNat_charsOf legible] at code
  exact (legible _ code).notReturn rfl

end Characters

end Jaull.Lib
