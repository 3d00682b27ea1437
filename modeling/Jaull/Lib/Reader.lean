import Mathlib.Tactic.Common

/-!
# Incremental readers

A reader takes the bytes that are there and reads a value, refuses, or asks for more. A reader is stable
when only the last answer may change as more bytes arrive: what it read or refused it reads or refuses
again in front of any continuation. The combinators of this file keep stability, so a reader built from
them has it.
-/

namespace Jaull.Lib

variable {κ κ' ε ε' α β : Type}

/-- Where a reader stands: how many bytes it has read, and the bytes in front of it. -/
structure Cursor where
  offset : ℕ
  rest : List UInt8
  deriving DecidableEq, Repr

/-- What comes of reading. `incomplete` says where the bytes ran out, `invalid` why they are refused. -/
inductive Outcome (κ ε α : Type)
  | ok (value : α) (after : Cursor)
  | incomplete (cut : κ)
  | invalid (error : ε)

/-- A reader of values of type `α`. -/
def Reader (κ ε α : Type) : Type :=
  Cursor → Outcome κ ε α

namespace Reader

/-- Reads nothing. -/
def pure (value : α) : Reader κ ε α :=
  fun cursor => .ok value cursor

/-- One reader after the other. -/
def bind (first : Reader κ ε α) (next : α → Reader κ ε β) : Reader κ ε β :=
  fun cursor =>
    match first cursor with
    | .ok value after => next value after
    | .incomplete cut => .incomplete cut
    | .invalid error => .invalid error

instance : Monad (Reader κ ε) where
  pure := pure
  bind := bind

/-- Refuses. -/
def fail (error : ε) : Reader κ ε α :=
  fun _ => .invalid error

/-- The next `n` bytes; `short` says what to report when fewer are left. -/
def bytes (short : ℕ → ℕ → κ) (n : ℕ) : Reader κ ε (List UInt8) :=
  fun cursor =>
    if cursor.rest.length < n then .incomplete (short cursor.offset n)
    else .ok (cursor.rest.take n) ⟨cursor.offset + n, cursor.rest.drop n⟩

/-- `reader`, with more to say about a cut. -/
def onCut (f : κ → κ') (reader : Reader κ ε α) : Reader κ' ε α :=
  fun cursor =>
    match reader cursor with
    | .ok value after => .ok value after
    | .incomplete cut => .incomplete (f cut)
    | .invalid error => .invalid error

/-- `reader`, with its refusals reported as `f` says. -/
def onInvalid (f : ε → ε') (reader : Reader κ ε α) : Reader κ ε' α :=
  fun cursor =>
    match reader cursor with
    | .ok value after => .ok value after
    | .incomplete cut => .incomplete cut
    | .invalid error => .invalid (f error)

/-- `n` values in a row. -/
def times (reader : Reader κ ε α) : ℕ → Reader κ ε (List α)
  | 0 => pure []
  | n + 1 => do
    let value ← reader
    let values ← times reader n
    return value :: values

/-- One reader after the other. -/
lemma bind_apply (first : Reader κ ε α) (next : α → Reader κ ε β) (cursor : Cursor) :
    (first >>= next) cursor =
      match first cursor with
      | .ok value after => next value after
      | .incomplete cut => .incomplete cut
      | .invalid error => .invalid error := rfl

/-- If both succeed, each of them did. -/
lemma bind_eq_ok {first : Reader κ ε α} {next : α → Reader κ ε β} {cursor value after}
    (eq : (first >>= next) cursor = .ok value after) :
    ∃ a middle, first cursor = .ok a middle ∧ next a middle = .ok value after := by
  rw [bind_apply] at eq
  cases result : first cursor with
  | ok a middle =>
    rw [result] at eq
    exact ⟨a, middle, rfl, eq⟩
  | incomplete cut =>
    rw [result] at eq
    cases eq
  | invalid error =>
    rw [result] at eq
    cases eq

/-- If the value is invalid, one of them found that. -/
lemma bind_eq_invalid {first : Reader κ ε α} {next : α → Reader κ ε β} {cursor error}
    (eq : (first >>= next) cursor = .invalid error) :
    first cursor = .invalid error ∨
      ∃ a middle, first cursor = .ok a middle ∧ next a middle = .invalid error := by
  rw [bind_apply] at eq
  cases result : first cursor with
  | ok a middle =>
    rw [result] at eq
    exact .inr ⟨a, middle, rfl, eq⟩
  | incomplete cut =>
    rw [result] at eq
    cases eq
  | invalid error' =>
    rw [result] at eq
    cases eq
    exact .inl rfl

/-- If the bytes are cut, one of them met the end. -/
lemma bind_eq_incomplete {first : Reader κ ε α} {next : α → Reader κ ε β} {cursor cut}
    (eq : (first >>= next) cursor = .incomplete cut) :
    first cursor = .incomplete cut ∨
      ∃ a middle, first cursor = .ok a middle ∧ next a middle = .incomplete cut := by
  rw [bind_apply] at eq
  cases result : first cursor with
  | ok a middle =>
    rw [result] at eq
    exact .inr ⟨a, middle, rfl, eq⟩
  | incomplete cut' =>
    rw [result] at eq
    cases eq
    exact .inl rfl
  | invalid error =>
    rw [result] at eq
    cases eq

/-- Naming a cut differently keeps what is read. -/
lemma onCut_eq_ok {f : κ → κ'} {reader : Reader κ ε α} {cursor value after}
    (eq : reader.onCut f cursor = .ok value after) : reader cursor = .ok value after := by
  rw [onCut] at eq
  split at eq <;> cases eq
  assumption

/-- So does naming an invalid value differently. -/
lemma onInvalid_eq_ok {f : ε → ε'} {reader : Reader κ ε α} {cursor value after}
    (eq : reader.onInvalid f cursor = .ok value after) : reader cursor = .ok value after := by
  rw [onInvalid] at eq
  split at eq <;> cases eq
  assumption

/-- Past a check the condition does not hold. -/
lemma ite_fail_eq_ok {p : Prop} [Decidable p] {error : ε} {next : Reader κ ε α} {cursor value after}
    (eq : (if p then fail error else next) cursor = .ok value after) :
    ¬ p ∧ next cursor = .ok value after := by
  by_cases refused : p
  · rw [if_pos refused] at eq
    cases eq
  · rw [if_neg refused] at eq
    exact ⟨refused, eq⟩

/-- Reading bytes takes them off the front. -/
lemma bytes_eq_ok {short : ℕ → ℕ → κ} {n : ℕ} {cursor value after}
    (eq : (bytes short n : Reader κ ε (List UInt8)) cursor = .ok value after) :
    n ≤ cursor.rest.length ∧ value = cursor.rest.take n ∧
      after = ⟨cursor.offset + n, cursor.rest.drop n⟩ := by
  rw [bytes] at eq
  split at eq
  · cases eq
  · rename_i enough
    cases eq
    exact ⟨Nat.le_of_not_lt enough, rfl, rfl⟩

/-- Reading a value some times gives so many values. -/
lemma length_of_times {reader : Reader κ ε α} {n : ℕ} {cursor values after}
    (eq : reader.times n cursor = .ok values after) : values.length = n := by
  induction n generalizing cursor values with
  | zero =>
    cases eq
    rfl
  | succ n ih =>
    obtain ⟨value, middle, _, eq⟩ := bind_eq_ok eq
    obtain ⟨rest, last, eqRest, eq⟩ := bind_eq_ok eq
    cases eq
    rw [List.length_cons, ih eqRest]

/-- A cut that is named is one. -/
lemma onCut_eq_incomplete {f : κ → κ'} {reader : Reader κ ε α} {cursor cut}
    (eq : reader.onCut f cursor = .incomplete cut) :
    ∃ cut', reader cursor = .incomplete cut' ∧ f cut' = cut := by
  rw [onCut] at eq
  split at eq <;> cases eq
  rename_i cut' eq
  exact ⟨cut', eq, rfl⟩

/-- An invalid value is not renamed with the cut. -/
lemma onCut_eq_invalid {f : κ → κ'} {reader : Reader κ ε α} {cursor error}
    (eq : reader.onCut f cursor = .invalid error) : reader cursor = .invalid error := by
  rw [onCut] at eq
  split at eq <;> cases eq
  assumption

/-- A reader that succeeds has no cut to name. -/
lemma onCut_of_ok {f : κ → κ'} {reader : Reader κ ε α} {cursor value after}
    (eq : reader cursor = .ok value after) : reader.onCut f cursor = .ok value after := by
  rw [onCut, eq]

/-- Nor has one that finds an invalid value. -/
lemma onCut_of_invalid {f : κ → κ'} {reader : Reader κ ε α} {cursor error}
    (eq : reader cursor = .invalid error) : reader.onCut f cursor = .invalid error := by
  rw [onCut, eq]

/-- What is read lies in front of the cursor and is all that the result depends on; what is refused is
refused whatever follows. -/
structure Stable (reader : Reader κ ε α) : Prop where
  ok : ∀ {offset front value after}, reader ⟨offset, front⟩ = .ok value after →
    ∃ taken, front = taken ++ after.rest ∧
      ∀ rest, reader ⟨offset, taken ++ rest⟩ = .ok value ⟨after.offset, rest⟩
  offset : ∀ {offset front value after}, reader ⟨offset, front⟩ = .ok value after →
    after.offset + after.rest.length = offset + front.length
  invalid : ∀ {offset front error}, reader ⟨offset, front⟩ = .invalid error →
    ∀ more, reader ⟨offset, front ++ more⟩ = .invalid error

/-- A value that was read is read again, and more is left. -/
lemma Stable.append {reader : Reader κ ε α} (stable : Stable reader) {offset front value after}
    (eq : reader ⟨offset, front⟩ = .ok value after) (more : List UInt8) :
    reader ⟨offset, front ++ more⟩ = .ok value ⟨after.offset, after.rest ++ more⟩ := by
  obtain ⟨taken, rfl, again⟩ := stable.ok eq
  rw [List.append_assoc]
  exact again _

/-- Reading nothing is stable. -/
lemma stable_pure (value : α) : Stable (Pure.pure value : Reader κ ε α) where
  ok eq := by
    cases eq
    exact ⟨[], rfl, fun rest => rfl⟩
  offset eq := by
    cases eq
    rfl
  invalid eq := by cases eq

/-- So is failing. -/
lemma stable_fail (error : ε) : Stable (fail error : Reader κ ε α) where
  ok eq := by cases eq
  offset eq := by cases eq
  invalid eq := by
    cases eq
    exact fun _ => rfl

/-- So is reading bytes. -/
lemma stable_bytes (short : ℕ → ℕ → κ) (n : ℕ) :
    Stable (bytes short n : Reader κ ε (List UInt8)) where
  ok := by
    intro offset front value after eq
    rw [bytes] at eq
    split at eq
    · cases eq
    · rename_i enough
      cases eq
      have len : (front.take n).length = n := by
        rw [List.length_take]
        exact Nat.min_eq_left (Nat.le_of_not_lt enough)
      refine ⟨front.take n, (List.take_append_drop n front).symm, fun rest => ?_⟩
      rw [bytes, if_neg (by simp [len]), List.take_left' len, List.drop_left' len]
  offset := by
    intro offset front value after eq
    rw [bytes] at eq
    split at eq
    · cases eq
    · rename_i enough
      cases eq
      simp only [List.length_drop]
      change ¬ front.length < n at enough
      omega
  invalid := by
    intro offset front error eq
    rw [bytes] at eq
    split at eq <;> cases eq

/-- So is one stable reader after the other. -/
lemma Stable.bind {first : Reader κ ε α} {next : α → Reader κ ε β} (stable : Stable first)
    (stable' : ∀ a, Stable (next a)) : Stable (first >>= next) where
  ok := by
    intro offset front value after eq
    obtain ⟨a, ⟨offset', middle⟩, eq₁, eq₂⟩ := bind_eq_ok eq
    obtain ⟨taken₁, rfl, again₁⟩ := stable.ok eq₁
    obtain ⟨taken₂, rfl, again₂⟩ := (stable' a).ok eq₂
    refine ⟨taken₁ ++ taken₂, by rw [List.append_assoc], fun rest => ?_⟩
    rw [List.append_assoc, bind_apply, again₁]
    exact again₂ rest
  offset := by
    intro offset front value after eq
    obtain ⟨a, middle, eq₁, eq₂⟩ := bind_eq_ok eq
    exact ((stable' a).offset eq₂).trans (stable.offset eq₁)
  invalid := by
    intro offset front error eq more
    rw [bind_apply]
    rcases bind_eq_invalid eq with eq₁ | ⟨a, middle, eq₁, eq₂⟩
    · rw [stable.invalid eq₁]
    · rw [stable.append eq₁]
      exact (stable' a).invalid eq₂ more

/-- So is what is made of a value. -/
lemma Stable.map {reader : Reader κ ε α} (stable : Stable reader) (f : α → β) :
    Stable (f <$> reader) :=
  stable.bind fun a => stable_pure (f a)

/-- So is a choice. -/
lemma Stable.ite {p : Prop} [Decidable p] {first second : Reader κ ε α} (stable : Stable first)
    (stable' : Stable second) : Stable (if p then first else second) := by
  split
  · exact stable
  · exact stable'

/-- So is naming a cut. -/
lemma Stable.onCut {reader : Reader κ ε α} (stable : Stable reader) (f : κ → κ') :
    Stable (reader.onCut f) where
  ok := by
    intro offset front value after eq
    obtain ⟨taken, same, again⟩ := stable.ok (onCut_eq_ok eq)
    exact ⟨taken, same, fun rest => onCut_of_ok (again rest)⟩
  offset eq := stable.offset (onCut_eq_ok eq)
  invalid eq more := onCut_of_invalid (stable.invalid (onCut_eq_invalid eq) more)

/-- So is reading some times. -/
lemma Stable.times {reader : Reader κ ε α} (stable : Stable reader) (n : ℕ) :
    Stable (reader.times n) := by
  induction n with
  | zero => exact stable_pure []
  | succ n ih => exact stable.bind fun value => ih.bind fun values => stable_pure _

end Reader

end Jaull.Lib

/-!
## The language of a reader

A language says which bytes stand for which values. A reader has a language where it reads a value exactly in
front of bytes that stand for it. The languages of this file are composed as the readers are, so a reader that is
built from the combinators has the language that is built alike, and what one writes by the language is read back.
-/

namespace Jaull.Lib.Reader

variable {κ κ' ε ε' α β : Type}

/-- Which bytes stand for which values. -/
abbrev ByteFormat (α : Type) : Type :=
  List UInt8 → α → Prop

/-- The reader reads a value exactly in front of bytes that stand for it, and stops behind them. -/
def Reads (reader : Reader κ ε α) (language : ByteFormat α) : Prop :=
  ∀ cursor value after, reader cursor = .ok value after ↔
    ∃ raw, language raw value ∧ cursor = ⟨cursor.offset, raw ++ after.rest⟩ ∧
      after.offset = cursor.offset + raw.length

/-- One language behind the other. -/
def ByteFormat.bind (first : ByteFormat α) (next : α → ByteFormat β) : ByteFormat β :=
  fun raw b => ∃ a front back, raw = front ++ back ∧ first front a ∧ next a back b

/-- The values of a language, put through a function. -/
def ByteFormat.map (f : α → β) (language : ByteFormat α) : ByteFormat β :=
  fun raw b => ∃ a, language raw a ∧ f a = b

/-- `n` values in a row. -/
def ByteFormat.times (language : ByteFormat α) (n : ℕ) : ByteFormat (List α) :=
  fun raw values => ∃ raws, raw = raws.flatten ∧ List.Forall₂ language raws values ∧ values.length = n

section Reading
variable {reader : Reader κ ε α} {language : ByteFormat α} {raw more : List UInt8} {value : α} {offset : ℕ}

/-- What stands for a value is read as it. -/
lemma Reads.read (reads : Reads reader language) (stands : language raw value) (offset : ℕ) (rest : List UInt8) :
    reader ⟨offset, raw ++ rest⟩ = .ok value ⟨offset + raw.length, rest⟩ :=
  (reads _ _ _).mpr ⟨raw, stands, rfl, rfl⟩

/-- What is read stands for its value. -/
lemma Reads.stands (reads : Reads reader language) {front : List UInt8} {after : Cursor}
    (eq : reader ⟨offset, front⟩ = .ok value after) :
    ∃ raw, language raw value ∧ front = raw ++ after.rest ∧ after.offset = offset + raw.length := by
  obtain ⟨raw, stands, same, length⟩ := (reads _ _ _).mp eq
  exact ⟨raw, stands, congrArg Cursor.rest same, length⟩

/-- No bytes of a language begin others, and they stand for one value. -/
lemma Reads.prefix_free (reads : Reads reader language) {value' : α} {raw' rest : List UInt8}
    (stands : language raw value) (stands' : language raw' value') (begins : raw' = raw ++ rest) :
    rest = [] ∧ value = value' := by
  have own := reads.read stands' 0 []
  rw [List.append_nil, begins, reads.read stands 0 rest] at own
  injection own with values cursors
  exact ⟨congrArg Cursor.rest cursors, values⟩

/-- A reader reads any format that is the same. -/
lemma Reads.congr (reads : Reads reader language) {language' : ByteFormat α}
    (same : ∀ raw value, language raw value ↔ language' raw value) : Reads reader language' := by
  intro cursor value after
  rw [reads]
  exact exists_congr fun raw => and_congr_left fun _ => same raw value

/-- A value some times is so many values. -/
lemma ByteFormat.times_length {n : ℕ} {values : List α} (stands : language.times n raw values) :
    values.length = n := by
  obtain ⟨_, _, _, length⟩ := stands
  exact length

/-- Each of them has its part. -/
lemma ByteFormat.times_mem {n : ℕ} {values : List α} (stands : language.times n raw values) :
    ∀ value ∈ values, ∃ part, language part value := by
  obtain ⟨raws, -, all, -⟩ := stands
  induction all with
  | nil =>
    intro value mem
    cases mem
  | @cons part value raws values own _ ih =>
    rw [List.forall_mem_cons]
    exact ⟨⟨part, own⟩, ih⟩

end Reading

section Composition
variable {first : Reader κ ε α} {next : α → Reader κ ε β} {language : ByteFormat α} {language' : α → ByteFormat β}

/-- Reading nothing reads nothing. -/
lemma reads_pure (value : α) : Reads (Pure.pure value : Reader κ ε α) fun raw value' => raw = [] ∧ value' = value := by
  intro cursor value' after
  constructor
  · intro eq
    cases eq
    exact ⟨[], ⟨rfl, rfl⟩, rfl, rfl⟩
  · rintro ⟨raw, ⟨rfl, rfl⟩, same, length⟩
    rw [same]
    change Outcome.ok _ _ = Outcome.ok _ _
    have whole : after = ⟨cursor.offset, after.rest⟩ := by
      rw [← Nat.add_zero cursor.offset]
      exact congrArg (Cursor.mk · after.rest) length
    rw [List.nil_append, ← whole]

/-- A reader that fails reads no format. -/
lemma reads_fail (error : ε) : Reads (fail error : Reader κ ε α) fun _ _ => False := by
  intro cursor value after
  constructor
  · intro eq
    cases eq
  · rintro ⟨_, stands, _⟩
    exact stands.elim

/-- Reading bytes reads any so many. -/
lemma reads_bytes (short : ℕ → ℕ → κ) (n : ℕ) :
    Reads (bytes short n : Reader κ ε (List UInt8)) fun raw value => raw.length = n ∧ value = raw := by
  intro cursor value after
  constructor
  · intro eq
    obtain ⟨enough, taken, left⟩ := bytes_eq_ok eq
    have length : (cursor.rest.take n).length = n := by
      rw [List.length_take]
      exact Nat.min_eq_left enough
    refine ⟨cursor.rest.take n, ⟨length, taken⟩, ?_, ?_⟩
    · rw [left, List.take_append_drop]
    · rw [left, length]
  · rintro ⟨raw, ⟨length, rfl⟩, same, offset⟩
    rw [same, bytes, if_neg]
    · rw [List.take_left' length, List.drop_left' length, ← length, ← offset]
    · change ¬ (value ++ after.rest).length < n
      rw [List.length_append]
      omega

/-- One after the other they read one format behind the other. -/
lemma Reads.bind (reads : Reads first language) (reads' : ∀ a, Reads (next a) (language' a)) :
    Reads (first >>= next) (language.bind language') := by
  intro cursor value after
  constructor
  · intro eq
    obtain ⟨a, middle, read, eq⟩ := bind_eq_ok eq
    obtain ⟨front, stands, same, length⟩ := (reads _ _ _).mp read
    obtain ⟨back, stands', same', length'⟩ := (reads' a _ _ _).mp eq
    refine ⟨front ++ back, ⟨a, front, back, rfl, stands, stands'⟩, ?_, ?_⟩
    · have left : middle.rest = back ++ after.rest := congrArg Cursor.rest same'
      rw [List.append_assoc, ← left]
      exact same
    · rw [length', length, List.length_append, Nat.add_assoc]
  · rintro ⟨raw, ⟨a, front, back, rfl, stands, stands'⟩, same, length⟩
    rw [same, List.append_assoc, bind_apply, reads.read stands]
    dsimp only
    rw [(reads' a).read stands', Nat.add_assoc, ← List.length_append, ← length]

/-- A function of the value reads its format. -/
lemma Reads.map (reads : Reads first language) (f : α → β) : Reads (f <$> first) (language.map f) := by
  refine (reads.bind fun a => reads_pure (f a)).congr ?_
  intro raw value
  constructor
  · rintro ⟨a, front, back, rfl, stands, rfl, rfl⟩
    rw [List.append_nil]
    exact ⟨a, stands, rfl⟩
  · rintro ⟨a, stands, rfl⟩
    exact ⟨a, raw, [], (List.append_nil raw).symm, stands, rfl, rfl⟩

/-- A check in front of a reader. -/
lemma Reads.unless (reads : Reads first language) (p : Prop) [Decidable p] (error : ε) :
    Reads (if p then fail error else first) fun raw value => ¬p ∧ language raw value := by
  by_cases refused : p
  · rw [if_pos refused]
    refine (reads_fail error).congr fun raw value => ?_
    exact ⟨False.elim, fun both => both.1 refused⟩
  · rw [if_neg refused]
    exact reads.congr fun raw value => ⟨fun stands => ⟨refused, stands⟩, And.right⟩

/-- Reading some times reads the format some times. -/
lemma Reads.times (reads : Reads first language) (n : ℕ) : Reads (first.times n) (language.times n) := by
  induction n with
  | zero =>
    refine (reads_pure []).congr ?_
    intro raw values
    constructor
    · rintro ⟨rfl, rfl⟩
      exact ⟨[], rfl, .nil, rfl⟩
    · rintro ⟨raws, rfl, all, none⟩
      rw [List.length_eq_zero_iff.mp none] at all ⊢
      cases all
      exact ⟨rfl, rfl⟩
  | succ n ih =>
    refine (reads.bind fun value => ih.bind fun values => reads_pure (value :: values)).congr ?_
    intro raw values
    constructor
    · rintro ⟨value, front, back, rfl, stands, values', middle, empty, rfl, ⟨raws, rfl, all, length⟩, rfl, rfl⟩
      refine ⟨front :: raws, ?_, .cons stands all, congrArg Nat.succ length⟩
      rw [List.flatten_cons, List.append_nil]
    · rintro ⟨raws, rfl, all, length⟩
      cases all with
      | nil => cases length
      | @cons front value raws values stands all =>
        exact ⟨value, front, raws.flatten, List.flatten_cons, stands, values, raws.flatten, [],
          (List.append_nil _).symm, ⟨raws, rfl, all, Nat.succ.inj length⟩, rfl, rfl⟩

/-- Naming a cut keeps the format. -/
lemma Reads.onCut (reads : Reads first language) (f : κ → κ') : Reads (first.onCut f) language := by
  intro cursor value after
  rw [← reads]
  exact ⟨onCut_eq_ok, onCut_of_ok⟩

/-- So does naming an invalid value. -/
lemma Reads.onInvalid (reads : Reads first language) (f : ε → ε') : Reads (first.onInvalid f) language := by
  intro cursor value after
  rw [← reads]
  refine ⟨onInvalid_eq_ok, fun eq => ?_⟩
  rw [Reader.onInvalid, eq]

end Composition

end Jaull.Lib.Reader
