import Jaull.Text.Case
import Mathlib.Data.List.Infix
import Mathlib.Tactic.Common

/-!
# Scanners

Deterministic readers of the beginning of a text, for patterns whose every choice is settled by the next
character. A search goes over the whole text as Python's `re.findall` does: after a match it continues where
the match ended. What a search finds is what it finds line by line, for a scanner that reads a line as if
nothing came after it.
-/

/-!
## Lines

Python's `str.splitlines`: a line ends at any line boundary of Unicode, a carriage return and the line feed
after it are one boundary, and a boundary at the end of the text starts no line.
-/

namespace Jaull.Text

/-- A line boundary of `str.splitlines`. -/
def isLineBreak (c : Char) : Bool :=
  let n := c.toNat
  (10 ≤ n && n ≤ 13) || (28 ≤ n && n ≤ 30) || n == 0x85 || n == 0x2028 || n == 0x2029

/-- The lines of a text, of which the first has begun (in reverse). -/
def splitLinesFrom (begun : List Char) : List Char → List (List Char)
  | [] => if begun = [] then [] else [begun.reverse]
  | '\r' :: '\n' :: rest => begun.reverse :: splitLinesFrom [] rest
  | c :: rest =>
    if isLineBreak c then begun.reverse :: splitLinesFrom [] rest else splitLinesFrom (c :: begun) rest

/-- Python `str.splitlines`. -/
def splitLines (text : String) : List (List Char) :=
  splitLinesFrom [] text.toList

example : splitLines "a\r\n\nb\u2028c\n" = [['a'], [], ['b'], ['c']] := by decide

end Jaull.Text

namespace Jaull.Text

variable {α β : Type}

/-- What a scanner reads of a text, and what is left of the text. -/
abbrev Scanner (α : Type) : Type :=
  StateT (List Char) Option α

namespace Scanner

/-- Equality of characters. -/
def sameChar (c d : Char) : Bool :=
  c = d

/-- The text `word`, its characters as `same` compares them. -/
def literal (same : Char → Char → Bool) : List Char → Scanner Unit
  | [], text => some ((), text)
  | w :: word, c :: text => if same w c then literal same word text else none
  | _ :: _, [] => none

/-- A run of a class of characters (`p*`). -/
def many (p : Char → Bool) : Scanner (List Char) :=
  fun text => some (text.takeWhile p, text.dropWhile p)

/-- A run of a class of characters that is not empty (`p+`). -/
def some1 (p : Char → Bool) : Scanner (List Char) :=
  fun text =>
    match text.takeWhile p with
    | [] => none
    | c :: run => some (c :: run, text.dropWhile p)

/-- No character of a class comes next (`(?!p)`). -/
def notBefore (p : Char → Bool) : Scanner Unit :=
  fun text => if text.head?.any p then none else some ((), text)

/-- Python `re.findall`, with the number of characters of a match that are still to skip. The scanner is one
that reads something. -/
def findAll (scanner : Scanner α) : ℕ → List Char → List α
  | _, [] => []
  | skip + 1, _ :: rest => findAll scanner skip rest
  | 0, c :: rest =>
    match scanner (c :: rest) with
    | none => findAll scanner 0 rest
    | some (a, stop) => a :: findAll scanner (rest.length - stop.length) rest

end Scanner

open Scanner

/-- A text that continues a line: nothing, or something after a line boundary. -/
def Beyond (after : List Char) : Prop :=
  ∀ c ∈ after.head?, isLineBreak c = true

/-- A line without a line boundary in it. -/
def Unbroken (line : List Char) : Prop :=
  ∀ c ∈ line, isLineBreak c = false

/-- A scanner that reads what is left of a line as if nothing came after it, where `ok` holds of what is
left. -/
structure LineLocal (ok : List Char → Prop) (scanner : Scanner α) : Prop where
  suffix : ∀ {text stop : List Char} {a : α}, scanner text = some (a, stop) → stop <:+ text
  append : ∀ {line after : List Char}, ok line → Unbroken line → Beyond after →
    scanner (line ++ after) = (scanner line).map fun found => (found.1, found.2 ++ after)

section Local
variable {ok ok' : List Char → Prop} {p : Char → Bool} {line after : List Char}

/-- The end of an unbroken line is unbroken. -/
lemma Unbroken.suffix {stop : List Char} (unbroken : Unbroken line) (part : stop <:+ line) : Unbroken stop :=
  fun c mem => unbroken c (part.subset mem)

/-- A run of characters ends with the line, when none of them is a line boundary. -/
lemma takeWhile_append_beyond (inLine : ∀ c, p c = true → isLineBreak c = false) (beyond : Beyond after) :
    (line ++ after).takeWhile p = line.takeWhile p ∧
      (line ++ after).dropWhile p = line.dropWhile p ++ after := by
  induction line with
  | nil =>
    cases after with
    | nil => exact ⟨rfl, rfl⟩
    | cons b rest =>
      have out : p b = false := by
        rw [Bool.eq_false_iff]
        intro inside
        have breaks := beyond b rfl
        rw [inLine b inside] at breaks
        cases breaks
      rw [List.nil_append, List.takeWhile_cons, List.dropWhile_cons, out]
      exact ⟨rfl, rfl⟩
  | cons c line ih =>
    rw [List.cons_append, List.takeWhile_cons, List.dropWhile_cons, List.takeWhile_cons, List.dropWhile_cons]
    cases p c with
    | false => exact ⟨rfl, rfl⟩
    | true => exact ⟨congrArg (c :: ·) ih.1, ih.2⟩

/-- A run of characters that ends within the line does not look further. -/
lemma takeWhile_append_within (within : line.any (!p ·) = true) :
    (line ++ after).takeWhile p = line.takeWhile p ∧
      (line ++ after).dropWhile p = line.dropWhile p ++ after := by
  induction line with
  | nil => cases within
  | cons c line ih =>
    rw [List.cons_append, List.takeWhile_cons, List.dropWhile_cons, List.takeWhile_cons, List.dropWhile_cons]
    cases eq : p c with
    | false => exact ⟨rfl, rfl⟩
    | true =>
      have later : line.any (!p ·) = true := by
        rw [List.any_cons, eq] at within
        exact within
      exact ⟨congrArg (c :: ·) (ih later).1, (ih later).2⟩

/-- A literal that is found stands at the front, up to its case. -/
lemma literal_eq_some {same : Char → Char → Bool} {word text stop : List Char} {a : Unit}
    (found : literal same word text = some (a, stop)) :
    ∃ front, text = front ++ stop ∧ List.Forall₂ (fun w c => same w c = true) word front := by
  induction word generalizing text with
  | nil =>
    rw [literal] at found
    cases found
    exact ⟨[], rfl, .nil⟩
  | cons w word ih =>
    cases text with
    | nil => cases found
    | cons c text =>
      rw [literal] at found
      split at found
      · rename_i eq
        obtain ⟨front, split, pairs⟩ := ih found
        exact ⟨c :: front, congrArg (c :: ·) split, .cons eq pairs⟩
      · cases found

/-- A run is the longest one. -/
lemma some1_eq_some {text run stop : List Char} (found : some1 p text = some (run, stop)) :
    run = text.takeWhile p ∧ stop = text.dropWhile p := by
  rw [some1] at found
  split at found
  · cases found
  · rename_i c rest eq
    cases found
    exact ⟨eq.symm, rfl⟩

/-- A word read in the line is of its characters, none of which is a line boundary. -/
lemma LineLocal.literal {same : Char → Char → Bool} {word : List Char}
    (inLine : ∀ w ∈ word, ∀ c, same w c = true → isLineBreak c = false) :
    LineLocal (fun _ => True) (literal same word) where
  suffix := by
    intro text stop a found
    obtain ⟨front, split, -⟩ := literal_eq_some found
    exact ⟨front, split.symm⟩
  append := by
    intro line after _ unbroken beyond
    induction word generalizing line with
    | nil => rfl
    | cons w word ih =>
      cases line with
      | nil =>
        cases after with
        | nil => rfl
        | cons b rest =>
          have differ : same w b = false := by
            rw [Bool.eq_false_iff]
            intro eq
            have breaks := beyond b rfl
            rw [inLine w List.mem_cons_self b eq] at breaks
            cases breaks
          rw [List.nil_append, Scanner.literal, differ]
          rfl
      | cons c line =>
        rw [List.cons_append, Scanner.literal, Scanner.literal]
        split
        · apply ih
          · intro w mem
            exact inLine w (List.mem_cons_of_mem _ mem)
          · intro c mem
            exact unbroken c (List.mem_cons_of_mem _ mem)
        · rfl

/-- A repetition stays in its line. -/
lemma LineLocal.many (inLine : ∀ c, p c = true → isLineBreak c = false) :
    LineLocal (fun _ => True) (many p) where
  suffix := by
    intro text stop a found
    cases found
    exact List.dropWhile_suffix p
  append := by
    intro line after _ _ beyond
    obtain ⟨taken, left⟩ := @takeWhile_append_beyond p line after inLine beyond
    rw [Scanner.many, taken, left]
    rfl

/-- A run read in the line, wherever it is known to end there. -/
lemma LineLocal.some1
    (ends : ∀ {line after : List Char}, ok line → Beyond after →
      (line ++ after).takeWhile p = line.takeWhile p ∧
        (line ++ after).dropWhile p = line.dropWhile p ++ after) :
    LineLocal ok (some1 p) where
  suffix := by
    intro text stop a found
    rw [(some1_eq_some found).2]
    exact List.dropWhile_suffix p
  append := by
    intro line after holds _ beyond
    obtain ⟨taken, left⟩ := ends holds beyond
    rw [Scanner.some1, taken, left, Scanner.some1]
    cases line.takeWhile p with
    | nil => rfl
    | cons => rfl

/-- So does looking ahead. -/
lemma LineLocal.notBefore (atBreak : ∀ c, isLineBreak c = true → p c = false) :
    LineLocal (fun _ => True) (notBefore p) where
  suffix := by
    intro text stop a found
    rw [Scanner.notBefore] at found
    split at found
    · cases found
    · cases found
      exact List.suffix_refl _
  append := by
    intro line after _ _ beyond
    cases line with
    | nil =>
      cases after with
      | nil => rfl
      | cons b rest =>
        have out := atBreak b (beyond b rfl)
        simp [Scanner.notBefore, out]
    | cons c line =>
      rw [Scanner.notBefore, Scanner.notBefore, List.cons_append, List.head?_cons, List.head?_cons]
      split
      · rfl
      · rfl

/-- So does reading nothing. -/
lemma LineLocal.pure (a : α) : LineLocal (fun _ => True) (pure a : Scanner α) where
  suffix := by
    intro text stop b found
    cases found
    exact List.suffix_refl _
  append := by
    intro line after _ _ _
    rfl

/-- One scanner after the other. -/
lemma LineLocal.bind {scanner : Scanner α} {next : α → Scanner β} (first : LineLocal ok scanner)
    (leaves : ∀ {line stop : List Char} {a : α}, ok line → scanner line = some (a, stop) → ok' stop)
    (second : ∀ a, LineLocal ok' (next a)) : LineLocal ok (scanner >>= next) where
  suffix := by
    intro text stop b found
    change (scanner text).bind (fun read => next read.1 read.2) = some (b, stop) at found
    obtain ⟨read, foundFirst, foundNext⟩ := Option.bind_eq_some_iff.mp found
    exact ((second read.1).suffix foundNext).trans (first.suffix foundFirst)
  append := by
    intro line after holds unbroken beyond
    change (scanner (line ++ after)).bind (fun read => next read.1 read.2) =
      ((scanner line).bind fun read => next read.1 read.2).map _
    rw [first.append holds unbroken beyond]
    cases read : scanner line with
    | none => rfl
    | some found =>
      exact (second found.1).append (leaves holds read) (unbroken.suffix (first.suffix read)) beyond

/-- So does a word. -/
lemma LineLocal.word {word : List Char} (inLine : word.all (!isLineBreak ·) = true) :
    LineLocal (fun _ => True) (Scanner.literal sameChar word) := by
  apply LineLocal.literal
  intro w mem c same
  rw [← of_decide_eq_true same]
  exact (Bool.not_eq_true' _).mp (List.all_eq_true.mp inLine w mem)

/-- So does a run. -/
lemma LineLocal.run (inLine : ∀ c, p c = true → isLineBreak c = false) :
    LineLocal (fun _ => True) (Scanner.some1 p) := by
  apply LineLocal.some1
  intro line after _ beyond
  exact takeWhile_append_beyond inLine beyond

/-- One scanner after the other, of which neither asks for anything. -/
lemma LineLocal.seq {scanner : Scanner α} {next : α → Scanner β}
    (first : LineLocal (fun _ => True) scanner) (second : ∀ a, LineLocal (fun _ => True) (next a)) :
    LineLocal (fun _ => True) (scanner >>= next) :=
  first.bind (fun _ _ => trivial) second

end Local

section Lines
variable {ok : List Char → Prop} {scanner : Scanner α}

/-- What is found in a line and after it is found in the line, and after it. -/
lemma findAll_append (inLine : LineLocal ok scanner) {line after : List Char}
    (holds : ∀ part, part <:+ line → ok part) (unbroken : Unbroken line) (beyond : Beyond after) {skip : ℕ}
    (le : skip ≤ line.length) :
    findAll scanner skip (line ++ after) = findAll scanner skip line ++ findAll scanner 0 after := by
  induction line generalizing skip with
  | nil =>
    rw [Nat.le_zero.mp le]
    rfl
  | cons c line ih =>
    have later : ∀ part, part <:+ line → ok part :=
      fun part suffix => holds part (suffix.trans (List.suffix_cons c line))
    have unbrokenLater := unbroken.suffix (List.suffix_cons c line)
    cases skip with
    | succ skip => exact ih later unbrokenLater (Nat.le_of_succ_le_succ le)
    | zero =>
      have read := inLine.append (holds (c :: line) (List.suffix_refl _)) unbroken beyond
      rw [List.cons_append] at read ⊢
      rw [findAll, findAll, read]
      cases scanner (c :: line) with
      | none => exact ih later unbrokenLater (Nat.zero_le _)
      | some found =>
        obtain ⟨a, stop⟩ := found
        have rest : (line ++ after).length - (stop ++ after).length = line.length - stop.length := by
          rw [List.length_append, List.length_append]
          omega
        dsimp only [Option.map_some]
        rw [rest, ih later unbrokenLater (Nat.sub_le _ _)]
        rfl

/-- Nothing is found at a line boundary. -/
lemma findAll_break (inLine : LineLocal ok scanner) (none : ok [] ∧ scanner [] = none) {b : Char}
    (breaks : isLineBreak b = true) (rest : List Char) :
    findAll scanner 0 (b :: rest) = findAll scanner 0 rest := by
  have beyond : Beyond (b :: rest) := by
    intro c eq
    cases eq
    exact breaks
  have read := @LineLocal.append _ _ _ inLine [] (b :: rest) none.1 (fun c mem => by cases mem) beyond
  rw [none.2] at read
  rw [findAll, show scanner (b :: rest) = _ from read]
  rfl

/-- What is found in a text is found in its lines. -/
lemma findAll_lines (inLine : LineLocal ok scanner) (none : ok [] ∧ scanner [] = none) {begun text : List Char}
    (unbroken : Unbroken begun) (holds : ∀ line ∈ splitLinesFrom begun text, ∀ part, part <:+ line → ok part) :
    findAll scanner 0 (begun.reverse ++ text) = (splitLinesFrom begun text).flatMap (findAll scanner 0) := by
  have reversed : ∀ {begun : List Char}, Unbroken begun → Unbroken begun.reverse :=
    fun unbroken c mem => unbroken c (List.mem_reverse.mp mem)
  have empty : Unbroken [] := fun c mem => by cases mem
  -- a boundary ends the line that has begun, and the next one begins
  have next : ∀ {begun rest : List Char} {b : Char}, Unbroken begun → isLineBreak b = true →
      (∀ part, part <:+ begun.reverse → ok part) →
      findAll scanner 0 (begun.reverse ++ b :: rest) =
        findAll scanner 0 begun.reverse ++ findAll scanner 0 rest := by
    intro begun rest b unbroken breaks holds
    have beyond : Beyond (b :: rest) := by
      intro c eq
      cases eq
      exact breaks
    rw [findAll_append inLine holds (reversed unbroken) beyond (Nat.zero_le _),
      findAll_break inLine none breaks]
  induction begun, text using splitLinesFrom.induct with
  | case1 =>
    rw [splitLinesFrom, if_pos rfl]
    rfl
  | case2 begun ne =>
    rw [splitLinesFrom, if_neg ne, List.append_nil, List.flatMap_singleton]
  | case3 begun rest ih =>
    rw [splitLinesFrom] at holds ⊢
    rw [next unbroken rfl (holds _ List.mem_cons_self), findAll_break inLine none rfl, List.flatMap_cons,
      ← ih empty fun line mem => holds line (List.mem_cons_of_mem _ mem)]
    rfl
  | case4 begun c rest notPair breaks ih =>
    rw [splitLinesFrom.eq_3 _ _ _ notPair, if_pos breaks] at holds ⊢
    rw [next unbroken breaks (holds _ List.mem_cons_self), List.flatMap_cons,
      ← ih empty fun line mem => holds line (List.mem_cons_of_mem _ mem)]
    rfl
  | case5 begun c rest notPair goesOn ih =>
    rw [splitLinesFrom.eq_3 _ _ _ notPair, if_neg goesOn] at holds ⊢
    have grown : Unbroken (c :: begun) := by
      intro d mem
      rcases List.mem_cons.mp mem with rfl | mem
      · exact Bool.eq_false_iff.mpr goesOn
      · exact unbroken d mem
    rw [← ih grown holds, List.reverse_cons, List.append_assoc]
    rfl

/-- What is found in a text is found in its lines. -/
lemma findAll_splitLines (inLine : LineLocal ok scanner) (none : ok [] ∧ scanner [] = none) {text : String}
    (holds : ∀ line ∈ splitLines text, ∀ part, part <:+ line → ok part) :
    findAll scanner 0 text.toList = (splitLines text).flatMap (findAll scanner 0) :=
  findAll_lines inLine none (fun c mem => by cases mem) holds

end Lines

end Jaull.Text
