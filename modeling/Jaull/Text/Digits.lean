import Jaull.Text.WordTables
import Mathlib.Tactic.Common

/-!
# Decimal digits

Python `int` of a run of decimal digits of any script. Python refuses runs that are too long.
-/

namespace Jaull.Text

/-- Whether Python `\d` matches a character. -/
def isDigitChar (c : Char) : Bool :=
  isDigitCode c.toNat

/-- The value of a decimal digit. The scripts list theirs from zero to nine. -/
def digitValue (c : Char) : ℕ :=
  ((digitRanges.find? fun range => range.1 ≤ c.toNat && c.toNat ≤ range.2).map fun range =>
    (c.toNat - range.1) % 10).getD 0

/-- The number that a run of digits stands for. -/
def decimalValue (digits : List Char) : ℕ :=
  digits.foldl (fun n c => 10 * n + digitValue c) 0

/-- Python `sys.get_int_max_str_digits()`. -/
def maxIntDigits : ℕ :=
  4300

/-- The `ValueError` of `int` for a run of so many digits. -/
structure TooManyDigits where
  count : ℕ
  deriving DecidableEq, Repr

/-- Python `int` of a run of digits. -/
def parseInt (digits : List Char) : Except TooManyDigits ℕ :=
  if maxIntDigits < digits.length then .error ⟨digits.length⟩ else .ok (decimalValue digits)

/-- A number is read unless it has too many digits. -/
lemma parseInt_eq_ok {digits : List Char} {n : ℕ} :
    parseInt digits = .ok n ↔ digits.length ≤ maxIntDigits ∧ n = decimalValue digits := by
  rw [parseInt]
  by_cases long : maxIntDigits < digits.length
  · rw [if_pos long]
    constructor
    · intro eq
      cases eq
    · intro holds
      exact absurd long (Nat.not_lt.mpr holds.1)
  · rw [if_neg long]
    constructor
    · intro eq
      exact ⟨Nat.le_of_not_lt long, (Except.ok.inj eq).symm⟩
    · intro holds
      rw [holds.2]

example : parseInt ['1', '٣'] = .ok 13 := by decide +kernel

end Jaull.Text
