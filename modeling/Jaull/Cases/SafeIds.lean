import Jaull.Lib.JsonText
import Jaull.Lib.Regex

/-!
# Safe ids

The pattern `^[A-Za-z0-9][A-Za-z0-9._-]*$` that five modules write down. Manifests are matched against it
with `match` and the stores with `fullmatch`, which differ in what they make of a line feed at the end.
-/

namespace Jaull.Cases
open Jaull.Lib

/-- `[A-Za-z0-9]`. -/
def isAlphanumeric (c : ℕ) : Bool :=
  (65 ≤ c && c ≤ 90) || (97 ≤ c && c ≤ 122) || (48 ≤ c && c ≤ 57)

/-- `[A-Za-z0-9._-]`. -/
def isIdCode (c : ℕ) : Bool :=
  isAlphanumeric c || c = 46 || c = 95 || c = 45

/-- Python `_SAFE_ID_RE`. -/
def safeIdRe : Pattern :=
  .seq (.one isAlphanumeric) (.seq (.star isIdCode) .atEnd)

/-- Python `_SAFE_ID_RE.match(id)`. -/
def matchesSafeId (id : PyString) : Bool :=
  safeIdRe.matchesStart id.codes

/-- Python `_SAFE_ID_RE.fullmatch(id)`. -/
def isSafeId (id : PyString) : Bool :=
  safeIdRe.matchesWhole id.codes

section Meaning
variable {id : PyString} {rest : List ℕ}

/-- A letter or digit, and more code points of ids. -/
def SafeCodes (codes : List ℕ) : Prop :=
  ∃ c taken, codes = c :: taken ∧ isAlphanumeric c = true ∧ ∀ d ∈ taken, isIdCode d = true

/-- Where the pattern leaves off: at the end, or at one last line feed. -/
lemma exists_mem_safeIdRe {text : List ℕ} :
    (∃ place ∈ safeIdRe ⟨none, text⟩, place.rest = rest) ↔
      (rest = [] ∨ rest = [10]) ∧ ∃ codes, text = codes ++ rest ∧ SafeCodes codes := by
  have ends : ∀ {place place' : Place}, place' ∈ Pattern.atEnd place ↔
      place' = place ∧ (place.rest = [] ∨ place.rest = [10]) := by
    intro place place'
    rw [Pattern.atEnd]
    split
    · rename_i fine
      rw [List.mem_singleton, and_iff_left fine]
    · rename_i short
      exact iff_of_false List.not_mem_nil fun ⟨_, fine⟩ => short fine
  simp only [safeIdRe, Pattern.seq, List.mem_flatMap, Pattern.mem_one, ends]
  constructor
  · intro ⟨place, ⟨first, ⟨c, read, inside, _⟩, last, run, same, fine⟩, eq⟩
    subst same
    obtain ⟨taken, others, all⟩ := Pattern.mem_runFrom.mp ⟨place, run, eq⟩
    rw [eq] at fine
    exact ⟨fine, c :: taken, by rw [read, others, List.cons_append], c, taken, rfl, inside, all⟩
  · intro ⟨fine, codes, eq, c, taken, same, inside, all⟩
    subst same
    obtain ⟨place, run, eq'⟩ :=
      (@Pattern.mem_runFrom isIdCode (some c) (taken ++ rest) rest).mpr ⟨taken, rfl, all⟩
    refine ⟨place, ⟨⟨some c, taken ++ rest⟩, ⟨c, eq, inside, rfl⟩, place, run, rfl, ?_⟩, eq'⟩
    rwa [eq']

/-- The stores take what consists of code points of ids, with a letter or digit in front. -/
lemma isSafeId_iff : isSafeId id = true ↔ SafeCodes id.codes := by
  have whole : isSafeId id = true ↔ ∃ place ∈ safeIdRe ⟨none, id.codes⟩, place.rest = [] := by
    simp only [isSafeId, Pattern.matchesWhole, List.any_eq_true, decide_eq_true_eq]
  rw [whole, exists_mem_safeIdRe]
  constructor
  · intro ⟨_, codes, eq, safe⟩
    rw [eq, List.append_nil]
    exact safe
  · intro safe
    exact ⟨.inl rfl, id.codes, (List.append_nil _).symm, safe⟩

/-- A safe id with a line feed behind it. -/
def EndsInLineFeed (id : PyString) : Prop :=
  ∃ codes, id.codes = codes ++ [10] ∧ SafeCodes codes

/-- Manifests also take a safe id with a line feed behind it. -/
lemma matchesSafeId_iff : matchesSafeId id = true ↔ isSafeId id = true ∨ EndsInLineFeed id := by
  have start : matchesSafeId id = true ↔
      ∃ rest, ∃ place ∈ safeIdRe ⟨none, id.codes⟩, place.rest = rest := by
    rw [matchesSafeId, Pattern.matchesStart, Bool.not_eq_true', List.isEmpty_eq_false_iff_exists_mem]
    constructor
    · intro ⟨place, mem⟩
      exact ⟨place.rest, place, mem, rfl⟩
    · intro ⟨_, place, mem, _⟩
      exact ⟨place, mem⟩
  simp only [start, exists_mem_safeIdRe]
  rw [isSafeId_iff]
  constructor
  · intro ⟨rest, fine, codes, eq, safe⟩
    rcases fine with rfl | rfl
    · rw [List.append_nil] at eq
      exact .inl (eq ▸ safe)
    · exact .inr ⟨codes, eq, safe⟩
  · intro accepted
    cases accepted with
    | inl safe => exact ⟨[], .inl rfl, id.codes, (List.append_nil _).symm, safe⟩
    | inr ends =>
      obtain ⟨codes, eq, safe⟩ := ends
      exact ⟨[10], .inr rfl, codes, eq, safe⟩

/-- No safe id ends in a line feed. -/
lemma not_isSafeId_of_endsInLineFeed (ends : EndsInLineFeed id) : isSafeId id = false := by
  obtain ⟨codes, eq, c, taken, rfl, -, -⟩ := ends
  rw [Bool.eq_false_iff, Ne, isSafeId_iff]
  intro ⟨c', taken', eq', _, all⟩
  rw [eq, List.cons_append] at eq'
  obtain ⟨-, rfl⟩ := List.cons.inj eq'
  exact absurd (all 10 (List.mem_append_right _ (List.mem_singleton_self _))) (by decide)

end Meaning

end Jaull.Cases
