import Jaull.Text.Scan
import Mathlib.Data.List.TakeWhile
import Mathlib.Tactic.Common

/-!
# Tables in a text

A text without the blanks around it, the lines of a text that is written line by line, and rows of cells between bars,
each filled up with blanks in whatever way.
-/

namespace Jaull.Text

section Trimming
variable {p : Char → Bool} {front text back : List Char}

/-- Python `text.strip` of a class of characters. -/
def trim (p : Char → Bool) (text : List Char) : List Char :=
  ((text.dropWhile p).reverse.dropWhile p).reverse

/-- Neither end of a text is of a class of characters. -/
def Trimmed (p : Char → Bool) (text : List Char) : Prop :=
  text.head?.any p = false ∧ text.getLast?.any p = false

/-- Nothing is dropped from a text whose first character stays. -/
lemma dropWhile_of_head (head : text.head?.any p = false) : text.dropWhile p = text := by
  cases text with
  | nil => rfl
  | cons c rest => exact List.dropWhile_cons_of_neg (Bool.eq_false_iff.mp head)

/-- What stands around a trimmed text is trimmed away. -/
lemma trim_around (front' : ∀ c ∈ front, p c = true) (trimmed : Trimmed p text) (back' : ∀ c ∈ back, p c = true) :
    trim p (front ++ text ++ back) = text := by
  rw [trim, List.append_assoc, List.dropWhile_append_of_pos front']
  cases text with
  | nil =>
    rw [List.nil_append, List.dropWhile_eq_nil_iff.mpr back']
    rfl
  | cons c rest =>
    have first : ((c :: rest) ++ back).dropWhile p = (c :: rest) ++ back := dropWhile_of_head trimmed.1
    have last : (c :: rest).reverse.dropWhile p = (c :: rest).reverse := by
      apply dropWhile_of_head
      rw [List.head?_reverse]
      exact trimmed.2
    rw [first, List.reverse_append, List.dropWhile_append_of_pos fun d mem => back' d (List.mem_reverse.mp mem),
      last, List.reverse_reverse]

lemma trim_of_trimmed (trimmed : Trimmed p text) : trim p text = text := by
  have around := @trim_around p [] text [] (fun c mem => by cases mem) trimmed (fun c mem => by cases mem)
  rwa [List.nil_append, List.append_nil] at around

/-- A text without blanks is trimmed. -/
lemma trimmed_of_forall (none : ∀ c ∈ text, p c = false) : Trimmed p text := by
  constructor
  · cases first : text.head? with
    | none => rfl
    | some c => exact none c (List.mem_of_head? first)
  · cases last : text.getLast? with
    | none => rfl
    | some c => exact none c (List.mem_of_getLast? last)

/-- Trimmed ends make a trimmed text. -/
lemma trimmed_append {middle : List Char} (front' : front ≠ []) (back' : back ≠ [])
    (first : Trimmed p front) (last : Trimmed p back) : Trimmed p (front ++ middle ++ back) := by
  constructor
  · cases front with
    | nil => exact absurd rfl front'
    | cons c rest => exact first.1
  · rw [List.getLast?_append]
    cases end' : back.getLast? with
    | none => exact absurd (List.getLast?_eq_none_iff.mp end') back'
    | some c =>
      have own := last.2
      rw [end'] at own
      exact own

/-- Trimming adds no character. -/
lemma mem_of_mem_trim {c : Char} (mem : c ∈ trim p text) : c ∈ text :=
  (List.dropWhile_suffix p).subset (List.mem_reverse.mp ((List.dropWhile_suffix p).subset (List.mem_reverse.mp mem)))

end Trimming

section Lines
variable {line rest begun : List Char} {lines : List (List Char)}

/-- The lines of an output, each with its end. -/
def writeLines (lines : List (List Char)) : List Char :=
  lines.flatMap fun line => line ++ ['\n']

/-- A line is split off at its line feed. -/
lemma splitLinesFrom_line (unbroken : Unbroken line) :
    splitLinesFrom begun (line ++ '\n' :: rest) = (begun.reverse ++ line) :: splitLinesFrom [] rest := by
  induction line generalizing begun with
  | nil =>
    rw [List.append_nil]
    rfl
  | cons c line ih =>
    have inLine := unbroken c List.mem_cons_self
    have notPair : ∀ after, c = '\r' → line ++ '\n' :: rest = '\n' :: after → False := by
      intro after eq
      rw [eq] at inLine
      cases inLine
    rw [List.cons_append, splitLinesFrom.eq_3 _ _ _ notPair, if_neg (Bool.eq_false_iff.mp inLine),
      ih fun d mem => unbroken d (List.mem_cons_of_mem _ mem), List.reverse_cons, List.append_assoc]
    rfl

/-- Written lines are the lines of the text. -/
lemma splitLines_writeLines (unbroken : ∀ line ∈ lines, Unbroken line) :
    splitLines (String.ofList (writeLines lines)) = lines := by
  rw [splitLines, String.toList_ofList]
  induction lines with
  | nil => rfl
  | cons line lines ih =>
    have first := @splitLinesFrom_line line (writeLines lines) [] (unbroken line List.mem_cons_self)
    rw [writeLines, List.flatMap_cons, List.append_assoc, List.singleton_append]
    rw [show lines.flatMap (fun line => line ++ ['\n']) = writeLines lines from rfl, first,
      ih fun other mem => unbroken other (List.mem_cons_of_mem _ mem)]
    rfl

end Lines

section Layout

/-- A text with at least one blank before it. -/
def laid (blanks : ℕ × ℕ) (text : List Char) : List Char :=
  List.replicate (blanks.1 + 1) ' ' ++ text ++ List.replicate blanks.2 ' '

/-- A row of a table, with a text under every title. How a cell is filled up with blanks depends on its column and
its text. -/
def rowLine (pad : List Char → List Char → ℕ × ℕ) (titles : List (List Char)) (text : List Char → List Char) :
    List Char :=
  '|' :: titles.flatMap fun title => laid (pad title (text title)) (text title) ++ ['|']

/-- A text that can stand in a cell. -/
structure CellText (text : List Char) : Prop where
  plain : '|' ∉ text
  unbroken : Unbroken text
  trimmed : Trimmed isSpace text

/-- A cell is read back without its padding. -/
lemma trim_laid {cell : List Char} {blanks : ℕ × ℕ} (clean : CellText cell) :
    trim isSpace (laid blanks cell) = cell := by
  have blank : ∀ {n : ℕ}, ∀ c ∈ List.replicate n ' ', isSpace c = true := by
    intro n c mem
    rw [List.eq_of_mem_replicate mem]
    rfl
  exact trim_around blank clean.trimmed blank

/-- A padded cell holds blanks and the cell. -/
lemma mem_laid {cell : List Char} {blanks : ℕ × ℕ} {c : Char} (mem : c ∈ laid blanks cell) : c = ' ' ∨ c ∈ cell := by
  rw [laid, List.mem_append, List.mem_append] at mem
  rcases mem with (left | own) | right
  · exact .inl (List.eq_of_mem_replicate left)
  · exact .inr own
  · exact .inl (List.eq_of_mem_replicate right)

/-- Cells that each end in a bar are cells with bars between them, and a bar. -/
lemma flatMap_bar (cells : List (List Char)) (ne : cells ≠ []) :
    cells.flatMap (fun cell => cell ++ ['|']) = ['|'].intercalate cells ++ ['|'] := by
  induction cells with
  | nil => exact absurd rfl ne
  | cons cell cells ih =>
    cases cells with
    | nil => rw [List.flatMap_singleton, List.intercalate_singleton]
    | cons next cells =>
      rw [List.flatMap_cons, ih (List.cons_ne_nil _ _), List.intercalate_cons_cons]
      simp only [List.append_assoc]

/-- Bars between cells that are not empty trim nothing. -/
lemma trimmed_intercalate {cells : List (List Char)} (filled : ∀ cell ∈ cells, cell ≠ [] ∧ '|' ∉ cell) :
    Trimmed (· = '|') (['|'].intercalate cells) := by
  induction cells with
  | nil => exact ⟨rfl, rfl⟩
  | cons cell cells ih =>
    obtain ⟨ne, plain⟩ := filled cell List.mem_cons_self
    have own : Trimmed (· = '|') cell := by
      apply trimmed_of_forall
      intro c mem
      exact decide_eq_false fun eq => plain (eq ▸ mem)
    cases cells with
    | nil =>
      rw [List.intercalate_singleton]
      exact own
    | cons next cells =>
      have later := ih fun other mem => filled other (List.mem_cons_of_mem _ mem)
      rw [List.intercalate_cons_cons]
      constructor
      · cases cell with
        | nil => exact absurd rfl ne
        | cons c rest => exact own.1
      · rw [List.getLast?_append]
        cases last : (['|'].intercalate (next :: cells)).getLast? with
        | some c =>
          have end' := later.2
          rw [last] at end'
          exact end'
        | none =>
          rw [List.getLast?_eq_none_iff] at last
          have empty : next = [] := by
            cases cells with
            | nil => rwa [List.intercalate_singleton] at last
            | cons other cells =>
              rw [List.intercalate_cons_cons, List.append_assoc, List.append_eq_nil_iff] at last
              exact last.1
          exact absurd empty (filled next (List.mem_cons_of_mem _ List.mem_cons_self)).1

end Layout

end Jaull.Text
