import Mathlib.Tactic.Common
import Jaull.Text.CaseTables

/-!
# Case and whitespace

Python's `str.upper`, `str.lower`, `str.casefold`, `str.strip` and `str.split` as the modelled code
uses them, on the tables of `Jaull/Text/CaseTables.lean`. The one mapping that looks at its
neighbours, the final form of a small sigma, is not made.
-/

namespace Jaull.Text

/-- The image of a code point outside ASCII under a pair of tables. -/
def mapWith (ranges : List (ℕ × ℕ × ℕ × ℤ)) (special : List (ℕ × List ℕ)) (c : Char) : List Char :=
  let n := c.toNat
  match special.lookup n with
  | some image => image.map Char.ofNat
  | none =>
    match ranges.find? fun (first, last, step, _) =>
        first ≤ n && n ≤ last && (n - first) % step == 0 with
    | some (_, _, _, offset) => [Char.ofNat ((n : ℤ) + offset).toNat]
    | none => [c]

/-- A capital ASCII letter. -/
def isAsciiUpper (c : Char) : Bool :=
  'A' ≤ c && c ≤ 'Z'

/-- A small ASCII letter. -/
def isAsciiLower (c : Char) : Bool :=
  'a' ≤ c && c ≤ 'z'

/-- The small forms of a character. -/
def lowerChar (c : Char) : List Char :=
  if isAsciiUpper c then [Char.ofNat (c.toNat + 32)]
  else if c.toNat < 128 then [c] else mapWith lowerRanges lowerSpecial c

/-- The capital forms of a character. -/
def upperChar (c : Char) : List Char :=
  if isAsciiLower c then [Char.ofNat (c.toNat - 32)]
  else if c.toNat < 128 then [c] else mapWith upperRanges upperSpecial c

/-- What a character folds to. -/
def foldChar (c : Char) : List Char :=
  if isAsciiUpper c then [Char.ofNat (c.toNat + 32)]
  else if c.toNat < 128 then [c] else mapWith foldRanges foldSpecial c

/-- Python `str.lower`. -/
def lower (text : String) : String :=
  String.ofList (text.toList.flatMap lowerChar)

/-- Python `str.upper`. -/
def upper (text : String) : String :=
  String.ofList (text.toList.flatMap upperChar)

/-- Python `str.casefold`. -/
def casefold (text : String) : String :=
  String.ofList (text.toList.flatMap foldChar)

/-- Python `str.isspace` of one character. -/
def isSpace (c : Char) : Bool :=
  let n := c.toNat
  (9 ≤ n && n ≤ 13) || (28 ≤ n && n ≤ 32) || n == 133 || n == 160 || n == 5760 ||
    (8192 ≤ n && n ≤ 8202) || n == 8232 || n == 8233 || n == 8239 || n == 8287 || n == 12288

/-- Python `str.strip`. -/
def strip (text : String) : String :=
  String.ofList ((text.toList.dropWhile isSpace).reverse.dropWhile isSpace).reverse

/-- Python `text.split(separator)[0]`. -/
def beforeFirst (separator : Char) (text : String) : String :=
  String.ofList (text.toList.takeWhile (· ≠ separator))

/-- Python `text.split(separator)[-1]`. -/
def afterLast (separator : Char) (text : String) : String :=
  String.ofList (text.toList.reverse.takeWhile (· ≠ separator)).reverse

section Plain
variable {c : Char} {text : String} {chars blanks : List Char}

/-- An ASCII character that is no capital is its own small form. -/
lemma lowerChar_of_plain (plain : c.toNat < 65 ∨ (90 < c.toNat ∧ c.toNat < 128)) : lowerChar c = [c] := by
  have noCapital : isAsciiUpper c = false := by
    rw [isAsciiUpper, Bool.and_eq_false_iff, decide_eq_false_iff_not, decide_eq_false_iff_not, Char.le_def,
      Char.le_def, UInt32.le_iff_toNat_le, UInt32.le_iff_toNat_le]
    have first : ('A').val.toNat = 65 := rfl
    have last : ('Z').val.toNat = 90 := rfl
    have same : c.val.toNat = c.toNat := rfl
    omega
  rw [lowerChar, if_neg (by rw [noCapital]; exact Bool.false_ne_true), if_pos (by omega)]

/-- A text without capitals is its own lower case. -/
lemma lower_of_plain (plain : ∀ c ∈ text.toList, c.toNat < 65 ∨ (90 < c.toNat ∧ c.toNat < 128)) :
    lower text = text := by
  have same : ∀ chars : List Char, (∀ c ∈ chars, c.toNat < 65 ∨ (90 < c.toNat ∧ c.toNat < 128)) →
      chars.flatMap lowerChar = chars := by
    intro chars plain
    induction chars with
    | nil => rfl
    | cons c rest ih =>
      obtain ⟨first, others⟩ := List.forall_mem_cons.mp plain
      rw [List.flatMap_cons, lowerChar_of_plain first, ih others, List.singleton_append]
  rw [lower, same _ plain, String.ofList_toList]

/-- White space behind a text without any is stripped. -/
lemma strip_append (solid : ∀ c ∈ chars, isSpace c = false) (blank : ∀ c ∈ blanks, isSpace c = true) :
    strip (String.ofList (chars ++ blanks)) = String.ofList chars := by
  have stays : ∀ {l : List Char}, (∀ c ∈ l, isSpace c = false) → l.dropWhile isSpace = l := by
    intro l solid
    cases l with
    | nil => rfl
    | cons c rest => rw [List.dropWhile_cons, solid c List.mem_cons_self, if_neg Bool.false_ne_true]
  have reversed : (blanks.reverse ++ chars.reverse).dropWhile isSpace = chars.reverse := by
    rw [List.dropWhile_append_of_pos fun c mem => blank c (List.mem_reverse.mp mem)]
    exact stays fun c mem => solid c (List.mem_reverse.mp mem)
  rw [strip, String.toList_ofList]
  cases chars with
  | nil =>
    rw [List.nil_append, ← List.append_nil blanks, List.dropWhile_append_of_pos blank]
    rfl
  | cons c rest =>
    rw [List.cons_append, List.dropWhile_cons, solid c List.mem_cons_self, if_neg Bool.false_ne_true,
      ← List.cons_append, List.reverse_append, reversed, List.reverse_reverse]

end Plain

example : upper "q4_k_ß" = "Q4_K_SS" := by decide +kernel

example : casefold "Qwen/Straße-7B" = "qwen/strasse-7b" := by decide +kernel

end Jaull.Text
