import Jaull.Lib.Json
import Mathlib.Data.List.TakeWhile
import Mathlib.Tactic.Linarith
import Mathlib.Tactic.Ring

/-!
# Texts of numbers

Python's `repr` of integers and floats. The text of a float is read back to the decimal it writes, up to
zeros at the end, so different decimals have different texts.
-/

namespace Jaull.Lib

/-- `body` after a minus sign if the number is negative. -/
def signed (negative : Bool) (body : List Char) : List Char :=
  if negative then '-' :: body else body

/-- Python `repr` of an integer. -/
def intText (n : ℤ) : List Char :=
  signed (n < 0) (Nat.toDigits 10 n.natAbs)

/-- The power of ten behind the `e` of a float. -/
def powerText (power : ℤ) : List Char :=
  let digits := Nat.toDigits 10 power.natAbs
  (if power < 0 then '-' else '+') :: List.replicate (2 - digits.length) '0' ++ digits

/-- The digits of a fraction behind their point, if there are any. -/
def fractionText (digits : List Char) : List Char :=
  if digits = [] then [] else '.' :: digits

/-- Python `repr` of the float `digits · 10 ^ exponent`. The point stands among the digits or close to
them, else the text has a power of ten. -/
def magnitudeText (digits : ℕ) (exponent : ℤ) : List Char :=
  let digits := Nat.toDigits 10 digits
  let point := digits.length + exponent
  if -4 < point ∧ point ≤ 16 then
    if point ≤ 0 then '0' :: '.' :: (List.replicate (-point).toNat '0' ++ digits)
    else if point < digits.length then
      digits.take point.toNat ++ '.' :: digits.drop point.toNat
    else digits ++ List.replicate exponent.toNat '0' ++ ['.', '0']
  else digits.take 1 ++ fractionText (digits.drop 1) ++ 'e' :: powerText (point - 1)

/-- Python `repr` of a finite float. -/
def Decimal.toText (decimal : Decimal) : List Char :=
  signed decimal.negative (magnitudeText decimal.digits decimal.exponent)

/-- The integer behind an `e`. -/
def readPower : List Char → ℤ
  | '-' :: digits => -Nat.ofDigitChars 10 digits 0
  | '+' :: digits => Nat.ofDigitChars 10 digits 0
  | _ => 0

/-- The digits of a float's text without their point, and the power of ten they stand for. -/
def readMagnitude (text : List Char) : ℕ × ℤ :=
  let mantissa := text.takeWhile (· ≠ 'e')
  let fraction := (mantissa.dropWhile (· ≠ '.')).drop 1
  (Nat.ofDigitChars 10 (mantissa.filter (· ≠ '.')) 0,
    readPower ((text.dropWhile (· ≠ 'e')).drop 1) - fraction.length)

section Digits

/-- Only decimal digits. -/
def AllDigits (text : List Char) : Prop :=
  ∀ c ∈ text, c.isDigit = true

/-- The digits of a number are digits. -/
lemma allDigits_toDigits (n : ℕ) : AllDigits (Nat.toDigits 10 n) :=
  fun _ mem => Nat.isDigit_of_mem_toDigits (by decide) (by decide) mem

/-- Zeros are digits. -/
lemma allDigits_zeros (count : ℕ) : AllDigits (List.replicate count '0') := by
  intro c mem
  rw [List.eq_of_mem_replicate mem]
  rfl

/-- So are digits behind digits. -/
lemma AllDigits.append {l m : List Char} (left : AllDigits l) (right : AllDigits m) :
    AllDigits (l ++ m) := by
  intro c mem
  rcases List.mem_append.mp mem with mem | mem
  · exact left c mem
  · exact right c mem

lemma AllDigits.sublist {l m : List Char} (digits : AllDigits m) (sub : l.Sublist m) :
    AllDigits l :=
  fun c mem => digits c (sub.subset mem)

/-- No digit is another character. -/
lemma AllDigits.ne {l : List Char} (digits : AllDigits l) {c : Char} (other : c.isDigit = false) :
    ∀ a ∈ l, a ≠ c := by
  rintro a mem rfl
  rw [digits a mem] at other
  cases other

/-- Numbers are told apart by their digits. -/
lemma toDigits_injective {m n : ℕ} (eq : Nat.toDigits 10 m = Nat.toDigits 10 n) : m = n := by
  calc
    m = Nat.ofDigitChars 10 (Nat.toDigits 10 m) 0 := Nat.ofDigitChars_ten_toDigits.symm
    _ = Nat.ofDigitChars 10 (Nat.toDigits 10 n) 0 := by rw [eq]
    _ = n := Nat.ofDigitChars_ten_toDigits

lemma ofDigitChars_zeros_append (count : ℕ) (l : List Char) :
    Nat.ofDigitChars 10 (List.replicate count '0' ++ l) 0 = Nat.ofDigitChars 10 l 0 := by
  rw [Nat.ofDigitChars_append, Nat.ofDigitChars_replicate_zero, Nat.mul_zero]

/-- Zeros behind are powers of ten. -/
lemma ofDigitChars_append_zeros (n count : ℕ) :
    Nat.ofDigitChars 10 (Nat.toDigits 10 n ++ List.replicate count '0') 0 = n * 10 ^ count := by
  rw [Nat.ofDigitChars_append, Nat.ofDigitChars_ten_toDigits, Nat.ofDigitChars_replicate_zero,
    Nat.mul_comm]

end Digits

section Split
variable {l m : List Char} {c : Char}

lemma takeWhile_split (others : ∀ a ∈ l, a ≠ c) : (l ++ c :: m).takeWhile (· ≠ c) = l := by
  rw [List.takeWhile_append_of_pos (by simpa using others), List.takeWhile_cons_of_neg (by simp),
    List.append_nil]

lemma dropWhile_split (others : ∀ a ∈ l, a ≠ c) : (l ++ c :: m).dropWhile (· ≠ c) = c :: m := by
  rw [List.dropWhile_append_of_pos (by simpa using others), List.dropWhile_cons_of_neg (by simp)]

lemma takeWhile_all (others : ∀ a ∈ l, a ≠ c) : l.takeWhile (· ≠ c) = l :=
  List.takeWhile_eq_self_iff.mpr (by simpa using others)

lemma dropWhile_all (others : ∀ a ∈ l, a ≠ c) : l.dropWhile (· ≠ c) = [] :=
  List.dropWhile_eq_nil_iff.mpr (by simpa using others)

/-- A list parts in one way at the last place of a value. -/
lemma split_last {l' m' : List Char} (others : ∀ a ∈ m, a ≠ c) (others' : ∀ a ∈ m', a ≠ c)
    (eq : l ++ c :: m = l' ++ c :: m') : l = l' ∧ m = m' := by
  have turned : m.reverse ++ c :: l.reverse = m'.reverse ++ c :: l'.reverse := by
    have reversed := congrArg List.reverse eq
    simpa using reversed
  have left := congrArg (List.takeWhile (· ≠ c)) turned
  have right := congrArg (List.dropWhile (· ≠ c)) turned
  have first : ∀ a ∈ m.reverse, a ≠ c := fun a mem => others a (List.mem_reverse.mp mem)
  have first' : ∀ a ∈ m'.reverse, a ≠ c := fun a mem => others' a (List.mem_reverse.mp mem)
  rw [takeWhile_split first, takeWhile_split first'] at left
  rw [dropWhile_split first, dropWhile_split first'] at right
  exact ⟨List.reverse_inj.mp (List.cons.inj right).2, List.reverse_inj.mp left⟩

end Split

section Read
variable {whole fraction : List Char}

/-- Digits around a point are all read, and the point tells how many of them are a fraction. -/
lemma readMagnitude_fixed (digits : AllDigits whole) (digits' : AllDigits fraction) :
    readMagnitude (whole ++ '.' :: fraction) =
      (Nat.ofDigitChars 10 (whole ++ fraction) 0, -(fraction.length : ℤ)) := by
  have noE : ∀ a ∈ whole ++ '.' :: fraction, a ≠ 'e' := by
    intro a mem
    rcases List.mem_append.mp mem with mem | mem
    · exact digits.ne rfl a mem
    · rcases List.mem_cons.mp mem with rfl | mem
      · decide
      · exact digits'.ne rfl a mem
  have mantissa : (whole ++ '.' :: fraction).filter (· ≠ '.') = whole ++ fraction := by
    rw [List.filter_append, List.filter_cons_of_neg (by simp),
      List.filter_eq_self.mpr (by simpa using digits.ne rfl),
      List.filter_eq_self.mpr (by simpa using digits'.ne rfl)]
  rw [readMagnitude, takeWhile_all noE, dropWhile_all noE, mantissa,
    dropWhile_split (digits.ne rfl)]
  simp [readPower]

/-- With a power of ten behind the digits. -/
lemma readMagnitude_power (digits : AllDigits whole) (digits' : AllDigits fraction)
    (power : List Char) :
    readMagnitude (whole ++ fractionText fraction ++ 'e' :: power) =
      (Nat.ofDigitChars 10 (whole ++ fraction) 0, readPower power - fraction.length) := by
  have mantissa : (whole ++ fractionText fraction).filter (· ≠ '.') = whole ++ fraction ∧
      ((whole ++ fractionText fraction).dropWhile (· ≠ '.')).drop 1 = fraction := by
    rw [fractionText]
    split
    · rename_i none
      rw [none, List.append_nil, List.filter_eq_self.mpr (by simpa using digits.ne rfl),
        dropWhile_all (digits.ne rfl)]
      exact ⟨rfl, rfl⟩
    · rw [List.filter_append, List.filter_cons_of_neg (by simp),
        List.filter_eq_self.mpr (by simpa using digits.ne rfl),
        List.filter_eq_self.mpr (by simpa using digits'.ne rfl), dropWhile_split (digits.ne rfl)]
      exact ⟨rfl, rfl⟩
  have noE : ∀ a ∈ whole ++ fractionText fraction, a ≠ 'e' := by
    intro a mem
    rcases List.mem_append.mp mem with mem | mem
    · exact digits.ne rfl a mem
    · rw [fractionText] at mem
      split at mem
      · cases mem
      · rcases List.mem_cons.mp mem with rfl | mem
        · decide
        · exact digits'.ne rfl a mem
  rw [readMagnitude, takeWhile_split noE, dropWhile_split noE, mantissa.1, mantissa.2]
  rfl

/-- A power is read back. -/
lemma readPower_powerText (power : ℤ) : readPower (powerText power) = power := by
  rw [powerText]
  split
  · rw [List.cons_append, readPower, ofDigitChars_zeros_append, Nat.ofDigitChars_ten_toDigits]
    omega
  · rw [List.cons_append, readPower, ofDigitChars_zeros_append, Nat.ofDigitChars_ten_toDigits]
    omega

/-- What is read from the text of a float: the decimal it writes, or that decimal with zeros up to the
first place behind the point. -/
lemma readMagnitude_magnitudeText (digits : ℕ) (exponent : ℤ) :
    readMagnitude (magnitudeText digits exponent) = (digits, exponent) ∨
      0 ≤ exponent ∧
        readMagnitude (magnitudeText digits exponent) = (digits * 10 ^ (exponent.toNat + 1), -1) := by
  have all := allDigits_toDigits digits
  have some : 0 < (Nat.toDigits 10 digits).length := Nat.length_toDigits_pos
  rw [magnitudeText]
  split
  · split
    · left
      -- the point stands in front of the digits
      rename_i left
      change readMagnitude (List.replicate 1 '0' ++ '.' :: (List.replicate _ '0' ++ _)) = _
      rw [readMagnitude_fixed (allDigits_zeros 1) ((allDigits_zeros _).append all),
        ofDigitChars_zeros_append 1, ofDigitChars_zeros_append, Nat.ofDigitChars_ten_toDigits,
        List.length_append, List.length_replicate]
      congr 1
      omega
    · split
      · left
        -- among them
        rename_i right inside
        rw [readMagnitude_fixed (all.sublist (List.take_sublist _ _))
          (all.sublist (List.drop_sublist _ _)), List.take_append_drop,
          Nat.ofDigitChars_ten_toDigits, List.length_drop]
        congr 1
        omega
      · right
        -- or behind them, with zeros in between that are read as digits
        rename_i behind
        have whole : 0 ≤ exponent := by omega
        refine ⟨whole, ?_⟩
        change readMagnitude (_ ++ '.' :: List.replicate 1 '0') = _
        rw [readMagnitude_fixed (all.append (allDigits_zeros _)) (allDigits_zeros 1),
          List.append_assoc, List.replicate_append_replicate, ofDigitChars_append_zeros]
        rfl
  · left
    rw [readMagnitude_power (all.sublist (List.take_sublist _ _))
      (all.sublist (List.drop_sublist _ _)), List.take_append_drop, Nat.ofDigitChars_ten_toDigits,
      readPower_powerText, List.length_drop]
    congr 1
    omega

end Read

/-- A number whose last digit is not zero has one decimal form. -/
lemma eq_of_mul_pow_eq {m n : ℕ} {a b : ℕ} (last : m % 10 ≠ 0) (last' : n % 10 ≠ 0)
    (eq : m * 10 ^ a = n * 10 ^ b) : m = n ∧ a = b := by
  have aux : ∀ {m n a b : ℕ}, m % 10 ≠ 0 → m * 10 ^ a = n * 10 ^ b → a ≤ b → m = n ∧ a = b := by
    intro m n a b last eq le
    obtain ⟨more, rfl⟩ := Nat.exists_eq_add_of_le le
    have pos : 0 < 10 ^ a := by positivity
    have eq' : m = n * 10 ^ more := by
      apply Nat.eq_of_mul_eq_mul_right pos
      rw [eq, Nat.pow_add]
      ring
    cases more with
    | zero =>
      rw [Nat.pow_zero, Nat.mul_one] at eq'
      exact ⟨eq', rfl⟩
    | succ more =>
      refine absurd ?_ last
      rw [eq', Nat.pow_succ, ← Nat.mul_assoc, Nat.mul_mod_left]
  rcases Nat.le_total a b with le | le
  · exact aux last eq le
  · obtain ⟨eq, eq'⟩ := aux last' eq.symm le
    exact ⟨eq.symm, eq'.symm⟩

/-- Different decimals have different texts. -/
lemma magnitudeText_injective {m n : ℕ} {a b : ℤ} (canonical : m % 10 ≠ 0 ∨ m = 0 ∧ a = 0)
    (canonical' : n % 10 ≠ 0 ∨ n = 0 ∧ b = 0) (eq : magnitudeText m a = magnitudeText n b) :
    m = n ∧ a = b := by
  have read := congrArg readMagnitude eq
  rcases readMagnitude_magnitudeText m a with left | ⟨whole, left⟩ <;>
    rcases readMagnitude_magnitudeText n b with right | ⟨whole', right⟩ <;>
    rw [left, right, Prod.mk.injEq] at read <;> obtain ⟨digits, power⟩ := read
  · exact ⟨digits, power⟩
  · rcases canonical with last | ⟨-, zero⟩
    · rw [digits, Nat.pow_succ, ← Nat.mul_assoc, Nat.mul_mod_left] at last
      exact absurd rfl last
    · omega
  · rcases canonical' with last | ⟨-, zero⟩
    · rw [← digits, Nat.pow_succ, ← Nat.mul_assoc, Nat.mul_mod_left] at last
      exact absurd rfl last
    · omega
  · rcases canonical with last | ⟨zero, power0⟩
    · rcases canonical' with last' | ⟨zero', -⟩
      · obtain ⟨same, more⟩ := eq_of_mul_pow_eq last last' digits
        exact ⟨same, by omega⟩
      · rw [zero', Nat.zero_mul] at digits
        have zero : m = 0 := (Nat.mul_eq_zero.mp digits).resolve_right (by positivity)
        rw [zero] at last
        exact absurd rfl last
    · rw [zero, Nat.zero_mul] at digits
      have zero' : n = 0 := (Nat.mul_eq_zero.mp digits.symm).resolve_right (by positivity)
      rcases canonical' with last' | ⟨-, power0'⟩
      · rw [zero'] at last'
        exact absurd rfl last'
      · exact ⟨zero.trans zero'.symm, power0.trans power0'.symm⟩

/-- A magnitude begins with a digit. -/
lemma magnitudeText_head (digits : ℕ) (exponent : ℤ) :
    ∃ c rest, magnitudeText digits exponent = c :: rest ∧ c.isDigit = true := by
  have all := allDigits_toDigits digits
  rw [magnitudeText]
  cases text : Nat.toDigits 10 digits with
  | nil => exact absurd text Nat.toDigits_ne_nil
  | cons c rest =>
    rw [text] at all
    have digit := all c List.mem_cons_self
    split
    · split
      · exact ⟨'0', _, rfl, rfl⟩
      · split
        · rename_i right _
          obtain ⟨n, eq⟩ := Int.eq_ofNat_of_zero_le (Int.le_of_lt (not_le.mp right))
          rw [eq, Int.toNat_natCast]
          cases n with
          | zero => omega
          | succ n => exact ⟨c, _, rfl, digit⟩
        · exact ⟨c, _, rfl, digit⟩
    · exact ⟨c, _, rfl, digit⟩

/-- The text of a float is not the text of an integer. -/
lemma magnitudeText_mark (digits : ℕ) (exponent : ℤ) :
    '.' ∈ magnitudeText digits exponent ∨ 'e' ∈ magnitudeText digits exponent := by
  rw [magnitudeText]
  split
  · split
    · simp
    · split
      · simp
      · simp
  · simp

/-- A minus sign in front can be told from the digits. -/
lemma signed_injective {negative negative' : Bool} {body body' : List Char} {c c' : Char}
    {rest rest' : List Char} (head : body = c :: rest ∧ c.isDigit = true)
    (head' : body' = c' :: rest' ∧ c'.isDigit = true)
    (eq : signed negative body = signed negative' body') : negative = negative' ∧ body = body' := by
  have apart : ∀ {d : Char}, d.isDigit = true → '-' ≠ d := by
    rintro d digit rfl
    cases digit
  obtain ⟨rfl, digit⟩ := head
  obtain ⟨rfl, digit'⟩ := head'
  cases negative with
  | false =>
    cases negative' with
    | false => exact ⟨rfl, eq⟩
    | true => exact absurd (List.cons.inj eq).1.symm (apart digit)
  | true =>
    cases negative' with
    | false => exact absurd (List.cons.inj eq).1 (apart digit')
    | true => exact ⟨rfl, (List.cons.inj eq).2⟩

/-- So does a number. -/
lemma toDigits_head (n : ℕ) : ∃ c rest, Nat.toDigits 10 n = c :: rest ∧ c.isDigit = true := by
  have all := allDigits_toDigits n
  cases text : Nat.toDigits 10 n with
  | nil => exact absurd text Nat.toDigits_ne_nil
  | cons c rest =>
    rw [text] at all
    exact ⟨c, rest, rfl, all c List.mem_cons_self⟩

/-- Integers are told apart by their texts. -/
lemma intText_injective {m n : ℤ} (eq : intText m = intText n) : m = n := by
  obtain ⟨c, rest, head⟩ := toDigits_head m.natAbs
  obtain ⟨c', rest', head'⟩ := toDigits_head n.natAbs
  obtain ⟨sign, digits⟩ := signed_injective head head' eq
  have size := toDigits_injective digits
  rw [decide_eq_decide] at sign
  omega

/-- Lean writes integers that way. -/
lemma toList_toString (n : ℤ) : (toString n).toList = intText n := by
  cases n with
  | ofNat n => simp [intText, signed, Int.toString_eq_repr, Int.repr, Nat.repr]
  | negSucc n =>
    simp [intText, signed, Int.toString_eq_repr, Int.repr, Nat.repr, Int.negSucc_lt_zero]

/-- Python `str` of an integer is the text of one integer only. -/
lemma toString_injective {m n : ℤ} (eq : toString m = toString n) : m = n := by
  apply intText_injective
  rw [← toList_toString, ← toList_toString, eq]

/-- Decimals are told apart by their texts. -/
lemma Decimal.toText_injective {d d' : Decimal} (eq : d.toText = d'.toText) : d = d' := by
  obtain ⟨c, rest, head⟩ := magnitudeText_head d.digits d.exponent
  obtain ⟨c', rest', head'⟩ := magnitudeText_head d'.digits d'.exponent
  obtain ⟨sign, text⟩ := signed_injective head head' eq
  obtain ⟨digits, exponent⟩ := magnitudeText_injective d.canonical d'.canonical text
  cases d
  cases d'
  cases sign
  cases digits
  cases exponent
  rfl

section Alphabet

/-- The characters of numbers. -/
def isNumberChar (c : Char) : Bool :=
  c.isDigit || c = '.' || c = 'e' || c = '+' || c = '-'

lemma AllDigits.number {l : List Char} (digits : AllDigits l) : ∀ c ∈ l, isNumberChar c = true := by
  intro c mem
  simp [isNumberChar, digits c mem]

/-- So is a sign in front of them. -/
lemma signed_number {negative : Bool} {body : List Char}
    (all : ∀ c ∈ body, isNumberChar c = true) : ∀ c ∈ signed negative body, isNumberChar c = true := by
  cases negative with
  | false => exact all
  | true =>
    intro c mem
    rcases List.mem_cons.mp mem with rfl | mem
    · rfl
    · exact all c mem

/-- An integer is written in them. -/
lemma intText_number (n : ℤ) : ∀ c ∈ intText n, isNumberChar c = true :=
  signed_number (allDigits_toDigits _).number

/-- So is a power. -/
lemma powerText_number (power : ℤ) : ∀ c ∈ powerText power, isNumberChar c = true := by
  intro c mem
  rw [powerText, List.cons_append, List.mem_cons] at mem
  rcases mem with rfl | mem
  · split <;> rfl
  · exact ((allDigits_zeros _).append (allDigits_toDigits _)).number c mem

/-- So is a magnitude. -/
lemma magnitudeText_number (digits : ℕ) (exponent : ℤ) :
    ∀ c ∈ magnitudeText digits exponent, isNumberChar c = true := by
  have all := (allDigits_toDigits digits).number
  have zeros := fun count => (allDigits_zeros count).number
  have power := powerText_number
  intro c mem
  rw [magnitudeText] at mem
  split at mem
  · split at mem
    · simp only [List.mem_cons, List.mem_append] at mem
      rcases mem with rfl | rfl | mem | mem
      · rfl
      · rfl
      · exact zeros _ c mem
      · exact all c mem
    · split at mem
      · simp only [List.mem_cons, List.mem_append] at mem
        rcases mem with mem | rfl | mem
        · exact all c (List.mem_of_mem_take mem)
        · rfl
        · exact all c (List.mem_of_mem_drop mem)
      · simp only [List.mem_cons, List.mem_append, List.not_mem_nil, or_false] at mem
        rcases mem with (mem | mem) | rfl | rfl
        · exact all c mem
        · exact zeros _ c mem
        · rfl
        · rfl
  · simp only [List.mem_cons, List.mem_append, fractionText] at mem
    rcases mem with (mem | mem) | rfl | mem
    · exact all c (List.mem_of_mem_take mem)
    · split at mem
      · cases mem
      · rcases List.mem_cons.mp mem with rfl | mem
        · rfl
        · exact all c (List.mem_of_mem_drop mem)
    · rfl
    · exact power _ c mem

end Alphabet

example : Decimal.toText ⟨false, 15, -8, by decide⟩ = "1.5e-07".toList := by decide +kernel

example : Decimal.toText ⟨true, 1, 15, by decide⟩ = "-1000000000000000.0".toList := by decide +kernel

end Jaull.Lib
