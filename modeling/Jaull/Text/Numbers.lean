import Mathlib.Algebra.Order.Floor.Ring
import Mathlib.Data.Nat.Log
import Mathlib.Data.Rat.Floor
import Mathlib.Tactic.Common

/-!
# Numbers in messages

Python's `f"{x:.{digits}f}"` and `f"{x:g}"` on an exact rational: the number is rounded to the given
number of decimals, or to six significant digits, halves to the even neighbour. The general format
drops trailing zeros and switches to an exponent below `10⁻⁴` and from `10⁶` on.
-/

namespace Jaull.Text

/-- Nearest integer, halves to the even one. -/
def roundHalfEven (q : ℚ) : ℤ :=
  let below := ⌊q⌋
  let rest := q - below
  if rest < 1 / 2 then below
  else if 1 / 2 < rest then below + 1
  else if below % 2 = 0 then below else below + 1

/-- `text` padded with zeros on the left (Python `str.zfill` of an unsigned number). -/
def zfill (width : ℕ) (text : String) : String :=
  String.ofList (List.replicate (width - text.length) '0') ++ text

/-- Python `f"{q:.{digits}f}"`. -/
def formatFixed (digits : ℕ) (q : ℚ) : String :=
  let scaled := roundHalfEven (q * 10 ^ digits)
  let whole := scaled.natAbs / 10 ^ digits
  let decimals := scaled.natAbs % 10 ^ digits
  (if q < 0 then "-" else "") ++ toString whole ++
    (if digits = 0 then "" else "." ++ zfill digits (toString decimals))

/-- The exponent of the leading digit of a positive number. -/
def leadingExponent (q : ℚ) : ℤ :=
  if 1 ≤ q then Nat.log 10 ⌊q⌋.toNat else -(Nat.clog 10 ⌈q⁻¹⌉.toNat : ℤ)

/-- `digits` without its trailing zeros, after a point when any is left. -/
def fraction (digits : List Char) : String :=
  match (digits.reverse.dropWhile (· = '0')).reverse with
  | [] => ""
  | kept => "." ++ String.ofList kept

/-- Python `f"{q:g}"`. -/
def formatGeneral (q : ℚ) : String :=
  if q = 0 then "0" else
  let guess := leadingExponent |q|
  let rounded := roundHalfEven (|q| / 10 ^ (guess - 5))
  -- Rounding 999999.5 up carries into a seventh digit.
  let (exponent, significand) :=
    if rounded = 10 ^ 6 then (guess + 1, 10 ^ 5) else (guess, rounded.natAbs)
  let digits := (toString significand).toList
  let text :=
    if exponent < -4 ∨ 6 ≤ exponent then
      String.ofList (digits.take 1) ++ fraction (digits.drop 1) ++ "e" ++
        (if exponent < 0 then "-" else "+") ++ zfill 2 (toString exponent.natAbs)
    else if exponent < 0 then
      "0" ++ fraction (List.replicate (exponent.natAbs - 1) '0' ++ digits)
    else
      String.ofList (digits.take (exponent.toNat + 1)) ++ fraction (digits.drop (exponent.toNat + 1))
  (if q < 0 then "-" else "") ++ text

/-- Digits in groups of three from the right. -/
def grouped3 (digits : List Char) : List Char :=
  (digits.reverse.zipIdx.flatMap fun (digit, place) =>
    if place ≠ 0 ∧ place % 3 = 0 then [',', digit] else [digit]).reverse

/-- Python `f"{n:,}"`. -/
def withCommas (n : ℤ) : String :=
  (if n < 0 then "-" else "") ++ String.ofList (grouped3 (toString n.natAbs).toList)

example : withCommas 1234567 = "1,234,567" := by decide +kernel

example : formatFixed 1 (7 / 8 * 100) = "87.5" := by decide +kernel

end Jaull.Text
