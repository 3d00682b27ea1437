import Jaull.Cases.Bundle

/-!
# Places in a bundle

Every place that an export writes to has a path that the index may declare, and the path leads back to the
place. Two places of a bundle are one only where two references name the same evidence.
-/

namespace Jaull.Cases
open Jaull.Domain Jaull.Evaluation Jaull.Lib Jaull.Text

variable {place place' : List FileName} {id id' path path' : PyString}

/-- The path that declares a place. -/
def bundlePath (place : List FileName) : PyString :=
  PyString.ofCodes (posixText place)

/-- A name that may stand in a declared path. -/
def PortableName (name : FileName) : Prop :=
  IsName name ∧ name ≠ dots ∧ ∀ c ∈ name, c < 0x110000 ∧ c ≠ 92

instance {name : FileName} : Decidable (IsName name) :=
  inferInstanceAs (Decidable (name ≠ [] ∧ name ≠ [46] ∧ 47 ∉ name))

instance {name : FileName} : Decidable (PortableName name) :=
  inferInstanceAs (Decidable (IsName name ∧ name ≠ dots ∧ ∀ c ∈ name, c < 0x110000 ∧ c ≠ 92))

/-- A place whose path an index may declare. -/
structure Portable (place : List FileName) : Prop where
  names : ∀ name ∈ place, PortableName name
  /-- The path does not begin with a blank or with a drive letter. -/
  front : ∃ c d name rest, place = (c :: d :: name) :: rest ∧ isSpaceCode c = false ∧ d ≠ 58

section Paths

/-- The path of a portable place. -/
lemma Portable.codes_bundlePath (portable : Portable place) : (bundlePath place).codes = posixText place := by
  apply PyString.codes_ofCodes
  intro c mem
  rcases mem_posixText mem with rfl | ⟨name, there, inside⟩
  · decide
  · exact ((portable.names name there).2.2 c inside).1

/-- The path of a place leads to it. -/
lemma Portable.partsOf_bundlePath (portable : Portable place) : partsOf (bundlePath place).codes = place := by
  rw [portable.codes_bundlePath]
  exact partsOf_posixText fun name mem => (portable.names name mem).1

lemma Portable.bundlePath_inj (portable : Portable place) (portable' : Portable place')
    (same : bundlePath place = bundlePath place') : place = place' := by
  rw [← portable.partsOf_bundlePath, same, portable'.partsOf_bundlePath]

/-- An index may declare the path. -/
lemma Portable.declared (portable : Portable place) : pathRefusals (bundlePath place) = [] := by
  have codes := portable.codes_bundlePath
  obtain ⟨c, d, name, rest, rfl, solid, colon⟩ := portable.front
  obtain ⟨isName, -⟩ := portable.names _ List.mem_cons_self
  have front : ∃ more, posixText ((c :: d :: name) :: rest) = c :: d :: more := by
    cases rest with
    | nil => exact ⟨name, List.intercalate_singleton⟩
    | cons second rest =>
      refine ⟨name ++ [47] ++ posixText (second :: rest), ?_⟩
      rw [posixText, List.intercalate_cons_cons]
      rfl
  obtain ⟨more, eq⟩ := front
  have blank : isBlank (bundlePath ((c :: d :: name) :: rest)) = false := by
    rw [isBlank, codes, eq, List.all_cons, solid, Bool.false_and]
  have backslash : 92 ∉ (bundlePath ((c :: d :: name) :: rest)).codes := by
    rw [codes]
    intro mem
    rcases mem_posixText mem with slash | ⟨name', there, inside⟩
    · exact absurd slash (by decide)
    · exact ((portable.names name' there).2.2 92 inside).2 rfl
  have root : c ≠ 47 := fun same => isName.2.2 (same ▸ List.mem_cons_self)
  have climbs : [46, 46] ∉ (bundlePath ((c :: d :: name) :: rest)).codes.splitOn 47 := by
    rw [codes, posixText, List.splitOn_intercalate 47 (fun name mem => (portable.names name mem).1.2.2)
      (List.cons_ne_nil _ _)]
    intro mem
    exact (portable.names _ mem).2.1 rfl
  have first : (bundlePath ((c :: d :: name) :: rest)).codes.head? ≠ some 47 := by
    rw [codes, eq, List.head?_cons]
    exact fun same => root (Option.some.inj same)
  have second : (bundlePath ((c :: d :: name) :: rest)).codes[1]? ≠ some 58 := by
    rw [codes, eq]
    exact fun same => colon (Option.some.inj same)
  rw [pathRefusals, if_neg (by rw [blank]; exact Bool.false_ne_true), if_neg backslash, if_neg first,
    if_neg second, if_neg climbs]

end Paths

section Places

/-- The index stands at a portable place. -/
lemma portable_bundlePlace : Portable bundlePlace where
  names := by decide
  front := ⟨98, 117, _, _, rfl, by decide, by decide⟩

lemma portable_casePlace : Portable casePlace where
  names := by decide
  front := ⟨99, 97, _, _, rfl, by decide, by decide⟩

lemma portable_experimentPlace : Portable experimentPlace where
  names := by decide
  front := ⟨114, 101, _, _, rfl, by decide, by decide⟩

/-- Safe ids keep to the code points of ids, but for a line feed at the end. -/
lemma mem_codes_of_matchesSafeId (safe : matchesSafeId id = true) {c : ℕ} (mem : c ∈ id.codes) :
    isIdCode c = true ∨ c = 10 := by
  have inside : ∀ codes, SafeCodes codes → c ∈ codes → isIdCode c = true := by
    intro codes ⟨first, taken, eq, alphanumeric, all⟩ there
    subst eq
    rcases List.mem_cons.mp there with rfl | there
    · rw [isIdCode, alphanumeric]
      rfl
    · exact all c there
  rcases matchesSafeId_iff.mp safe with whole | ⟨codes, eq, safe⟩
  · exact .inl (inside _ (isSafeId_iff.mp whole) mem)
  · rw [eq, List.mem_append, List.mem_singleton] at mem
    rcases mem with there | feed
    · exact .inl (inside codes safe there)
    · exact .inr feed

/-- The characters of ids. -/
lemma lt_of_isIdCode {c : ℕ} (inside : isIdCode c = true) : c < 128 ∧ c ≠ 47 ∧ c ≠ 92 := by
  simp only [isIdCode, isAlphanumeric, Bool.or_eq_true, Bool.and_eq_true, decide_eq_true_eq] at inside
  omega

/-- So does a benchmark. -/
lemma portable_benchmarkPlace (safe : matchesSafeId id = true) : Portable (benchmarkPlace id) where
  names := by
    have ending : ∀ c ∈ codesOf ".json", c < 128 ∧ c ≠ 47 ∧ c ≠ 92 := by decide
    have plain : ∀ c ∈ id.codes ++ codesOf ".json", c < 128 ∧ c ≠ 47 ∧ c ≠ 92 := by
      intro c mem
      rcases List.mem_append.mp mem with mem | mem
      · rcases mem_codes_of_matchesSafeId safe mem with inside | rfl
        · exact lt_of_isIdCode inside
        · decide
      · exact ending c mem
    have suffix : 106 ∈ id.codes ++ codesOf ".json" := List.mem_append_right _ (by decide)
    have other : ∀ short : FileName, 106 ∉ short → id.codes ++ codesOf ".json" ≠ short := by
      intro short absent same
      exact absent (same ▸ suffix)
    have portable : PortableName (id.codes ++ codesOf ".json") := by
      refine ⟨⟨other _ (by decide), other _ (by decide), ?_⟩, other _ (by decide), ?_⟩
      · intro mem
        exact (plain 47 mem).2.1 rfl
      · intro c mem
        exact ⟨(plain c mem).1.trans (by decide), (plain c mem).2.2⟩
    intro name mem
    rcases List.mem_cons.mp mem with rfl | mem
    · decide
    · rcases List.mem_cons.mp mem with rfl | mem
      · decide
      · rw [List.mem_singleton.mp mem]
        exact portable
  front := ⟨114, 101, _, _, rfl, by decide, by decide⟩

/-- So does evidence. -/
lemma portable_evidencePlace (relative : pathRefusals path = []) : Portable (evidencePlace path) where
  names := by
    have fine : 92 ∉ path.codes ∧ dots ∉ path.codes.splitOn 47 := by
      rw [pathRefusals] at relative
      split_ifs at relative with blank backslash root drive climbs
      exact ⟨backslash, climbs⟩
    intro name mem
    rcases List.mem_cons.mp mem with rfl | mem
    · decide
    · refine ⟨isName_of_mem_partsOf mem, ?_, ?_⟩
      · rintro rfl
        exact fine.2 (List.mem_filter.mp mem).1
      · intro c inside
        have there := mem_codes_of_mem_partsOf mem inside
        refine ⟨PyString.codes_lt c there, ?_⟩
        rintro rfl
        exact fine.1 there
  front := ⟨101, 118, _, _, rfl, by decide, by decide⟩

lemma benchmarkPlace_inj (same : benchmarkPlace id = benchmarkPlace id') : id = id' := by
  have names := (List.cons.inj (List.cons.inj (List.cons.inj same).2).2).1
  exact PyString.codes_injective (List.append_cancel_right names)

/-- Evidence at one place is of one path, once it is normalised. -/
lemma partsOf_of_evidencePlace (same : evidencePlace path = evidencePlace path') :
    partsOf path.codes = partsOf path'.codes :=
  (List.cons.inj same).2

end Places

end Jaull.Cases
