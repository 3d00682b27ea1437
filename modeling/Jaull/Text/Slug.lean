import Mathlib.Data.List.Chain
import Mathlib.Data.List.DropRight
import Mathlib.Tactic.Common
import Jaull.Text.Case

/-!
# Slugs

Port of `_slug` of `jaull/execution_plans/service.py`. A slug is made of small ASCII letters, digits and
single dashes between them, and slugging a slug changes nothing (`slug_slug`).
-/

namespace Jaull.Text

/-- The class `[a-z0-9]`. -/
def isSlugChar (c : Char) : Bool :=
  isAsciiLower c || ('0' ≤ c && c ≤ '9')

/-- Python `re.sub(r"[^a-z0-9]+", "-", text)`; `inRun` is set inside a run that has its dash. -/
def dashRuns : Bool → List Char → List Char
  | _, [] => []
  | inRun, c :: rest =>
    if isSlugChar c then c :: dashRuns false rest
    else if inRun then dashRuns true rest
    else '-' :: dashRuns true rest

/-- Python `text.strip("-")`. -/
def stripDashes (text : List Char) : List Char :=
  (text.dropWhile (· = '-')).rdropWhile (· = '-')

/-- Python `_slug`. -/
def slug (value : String) : String :=
  let text := stripDashes (dashRuns false (casefold value).toList)
  if text = [] then "unknown" else String.ofList text

/-- Slug characters and dashes, no two dashes together. -/
structure Dashed (text : List Char) : Prop where
  chars : ∀ c ∈ text, isSlugChar c ∨ c = '-'
  apart : text.IsChain fun a b => a ≠ '-' ∨ b ≠ '-'

/-- What `slug` returns: not empty, and a dash neither first nor last. -/
structure IsSlug (text : List Char) : Prop extends Dashed text where
  ne_nil : text ≠ []
  first : text.head? ≠ some '-'
  last : text.getLast? ≠ some '-'

/-- A dash is no slug character of its own. -/
lemma isSlugChar_dash : isSlugChar '-' = false := by decide

/-- Behind a dash already written comes no other dash. -/
lemma dashRuns_true_head (text : List Char) : (dashRuns true text).head? ≠ some '-' := by
  induction text with
  | nil => simp [dashRuns]
  | cons c rest ih =>
    rw [dashRuns]
    split
    case isTrue isSlug =>
      rw [List.head?_cons, ne_eq, Option.some.injEq]
      rintro rfl
      rw [isSlugChar_dash] at isSlug
      cases isSlug
    case isFalse =>
      rw [if_pos rfl]
      exact ih

/-- Joined runs hold no two dashes in a row. -/
lemma dashRuns_dashed (inRun : Bool) (text : List Char) : Dashed (dashRuns inRun text) := by
  induction text generalizing inRun with
  | nil => exact ⟨by simp [dashRuns], by simp [dashRuns]⟩
  | cons c rest ih =>
    rw [dashRuns]
    split
    case isTrue isSlug =>
      obtain ⟨chars, apart⟩ := ih false
      constructor
      · intro d mem
        rcases List.mem_cons.mp mem with rfl | mem
        · exact .inl isSlug
        · exact chars d mem
      · apply List.isChain_cons.mpr
        refine ⟨?_, apart⟩
        intro d _
        left
        rintro rfl
        rw [isSlugChar_dash] at isSlug
        cases isSlug
    case isFalse =>
      split
      case isTrue => exact ih true
      case isFalse =>
        obtain ⟨chars, apart⟩ := ih true
        constructor
        · intro d mem
          rcases List.mem_cons.mp mem with rfl | mem
          · exact .inr rfl
          · exact chars d mem
        · apply List.isChain_cons.mpr
          refine ⟨?_, apart⟩
          intro d isHead
          right
          rintro rfl
          exact dashRuns_true_head rest isHead

/-- Neither does any part of such a text. -/
lemma Dashed.part {text part : List Char} (dashed : Dashed text) (sub : part <:+: text) :
    Dashed part := by
  refine ⟨fun c mem => dashed.chars c (sub.subset mem), ?_⟩
  obtain ⟨front, back, rfl⟩ := sub
  exact dashed.apart.left_of_append.right_of_append

/-- Stripping leaves a part of the text. -/
lemma stripDashes_inside (text : List Char) : stripDashes text <:+: text := by
  have front := List.rdropWhile_prefix (fun c => decide (c = '-'))
    (text.dropWhile fun c => decide (c = '-'))
  exact front.isInfix.trans (List.dropWhile_suffix _).isInfix

/-- A stripped text does not start with a dash. -/
lemma stripDashes_head (text : List Char) : (stripDashes text).head? ≠ some '-' := by
  intro isDash
  obtain ⟨rest, eq⟩ := List.head?_eq_some_iff.mp isDash
  obtain ⟨more, split⟩ := List.rdropWhile_prefix (fun c => decide (c = '-'))
    (text.dropWhile (· = '-'))
  rw [stripDashes] at eq
  rw [eq, List.cons_append] at split
  have stops := List.head?_dropWhile_not (fun c => decide (c = '-')) text
  rw [← split] at stops
  simp at stops

/-- Nor does it end with one. -/
lemma stripDashes_last (text : List Char) : (stripDashes text).getLast? ≠ some '-' := by
  intro isDash
  have ne : stripDashes text ≠ [] := by
    intro none
    rw [none] at isDash
    cases isDash
  rw [List.getLast?_eq_some_getLast ne] at isDash
  have stops := List.rdropWhile_last_not (fun c => decide (c = '-')) (text.dropWhile (· = '-')) ne
  exact stops (decide_eq_true (Option.some.inj isDash))

/-- The fallback is a slug. -/
lemma unknown_isSlug : IsSlug "unknown".toList where
  chars c mem := by
    have all : ("unknown".toList.all fun c => isSlugChar c || c = '-') = true := by decide
    simpa using List.all_eq_true.mp all c mem
  apart := by decide
  ne_nil := by decide
  first := by decide
  last := by decide

/-- What `_slug` returns is a slug. -/
lemma slug_isSlug (value : String) : IsSlug (slug value).toList := by
  rw [slug]
  split
  case isTrue => exact unknown_isSlug
  case isFalse ne =>
    rw [String.toList_ofList]
    exact ⟨(dashRuns_dashed _ _).part (stripDashes_inside _), ne, stripDashes_head _,
      stripDashes_last _⟩

/-- Slug characters and dashes fold to themselves. -/
lemma foldChar_eq {c : Char} (plain : isSlugChar c ∨ c = '-') : foldChar c = [c] := by
  have small : isAsciiUpper c = false ∧ c.toNat < 128 := by
    rcases plain with isSlug | rfl
    · simp only [isSlugChar, isAsciiLower, Bool.or_eq_true, Bool.and_eq_true,
        decide_eq_true_eq, Char.le_def, UInt32.le_iff_toNat_le] at isSlug
      have within : (97 ≤ c.val.toNat ∧ c.val.toNat ≤ 122) ∨
          (48 ≤ c.val.toNat ∧ c.val.toNat ≤ 57) := isSlug
      constructor
      · apply Bool.eq_false_iff.mpr
        intro isUpper
        simp only [isAsciiUpper, Bool.and_eq_true, decide_eq_true_eq, Char.le_def,
          UInt32.le_iff_toNat_le] at isUpper
        have above : 65 ≤ c.val.toNat ∧ c.val.toNat ≤ 90 := isUpper
        omega
      · change c.val.toNat < 128
        omega
    · decide
  rw [foldChar, small.1, if_neg Bool.false_ne_true, if_pos small.2]

/-- Single dashes are left as they are. -/
lemma dashRuns_eq {text : List Char} (dashed : Dashed text) :
    dashRuns false text = text ∧ (text.head? ≠ some '-' → dashRuns true text = text) := by
  induction text with
  | nil => exact ⟨rfl, fun _ => rfl⟩
  | cons c rest ih =>
    obtain ⟨same, sameInRun⟩ := ih (dashed.part (List.suffix_cons c rest).isInfix)
    have apart := (List.isChain_cons.mp dashed.apart).1
    rw [dashRuns, dashRuns]
    rcases dashed.chars c List.mem_cons_self with isSlug | rfl
    · rw [if_pos isSlug, same]
      exact ⟨rfl, fun _ => by rw [if_pos isSlug]⟩
    · have next : rest.head? ≠ some '-' := by
        intro isDash
        rcases apart '-' isDash with ne | ne
        · exact ne rfl
        · exact ne rfl
      rw [isSlugChar_dash, sameInRun next]
      refine ⟨rfl, ?_⟩
      intro first
      exact absurd rfl first

/-- A text that neither starts nor ends with a dash is stripped already. -/
lemma stripDashes_eq {text : List Char} (isSlug : IsSlug text) : stripDashes text = text := by
  have front : text.dropWhile (· = '-') = text := by
    cases text with
    | nil => rfl
    | cons c rest =>
      apply List.dropWhile_cons_of_neg
      rw [decide_eq_true_eq]
      rintro rfl
      exact isSlug.first rfl
  rw [stripDashes, front, List.rdropWhile_eq_self_iff]
  intro ne isDash
  apply isSlug.last
  rw [List.getLast?_eq_some_getLast ne, of_decide_eq_true isDash]

/-- A slug slugs to itself. -/
lemma slug_eq_self {value : String} (isSlug : IsSlug value.toList) : slug value = value := by
  have folded : (casefold value).toList = value.toList := by
    have plain : ∀ c ∈ value.toList, foldChar c = [c] :=
      fun c mem => foldChar_eq (isSlug.chars c mem)
    rw [casefold, String.toList_ofList, List.flatMap_congr plain, List.flatMap_singleton']
  rw [slug, folded, (dashRuns_eq isSlug.toDashed).1, stripDashes_eq isSlug]
  simp only [if_neg isSlug.ne_nil, String.ofList_toList]

/-- Slugging twice is slugging once. -/
theorem slug_slug (value : String) : slug (slug value) = slug value :=
  slug_eq_self (slug_isSlug value)

end Jaull.Text
