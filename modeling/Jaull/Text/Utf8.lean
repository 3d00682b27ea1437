import Jaull.Text.Json

/-!
# UTF-8

Python's strict `bytes.decode("utf-8")`, with the text of the `UnicodeDecodeError` it raises, and the
encoding that it reads back.
-/

namespace Jaull.Text

/-- A character that has begun: where, its first byte, how many bytes are still to come, the range of
the next one, and the bits read so far. -/
structure PendingChar where
  start : ℕ
  first : UInt8
  missing : ℕ
  low : UInt8
  high : UInt8
  code : ℕ
  deriving DecidableEq, Repr

/-- What a byte outside ASCII begins. The ranges leave out overlong forms, surrogates and everything
above U+10FFFF. -/
def beginChar (start : ℕ) (b : UInt8) : Option PendingChar :=
  if 0xc2 ≤ b ∧ b ≤ 0xdf then some ⟨start, b, 1, 0x80, 0xbf, b.toNat - 0xc0⟩
  else if b = 0xe0 then some ⟨start, b, 2, 0xa0, 0xbf, 0⟩
  else if b = 0xed then some ⟨start, b, 2, 0x80, 0x9f, 13⟩
  else if 0xe1 ≤ b ∧ b ≤ 0xef then some ⟨start, b, 2, 0x80, 0xbf, b.toNat - 0xe0⟩
  else if b = 0xf0 then some ⟨start, b, 3, 0x90, 0xbf, 0⟩
  else if b = 0xf4 then some ⟨start, b, 3, 0x80, 0x8f, 4⟩
  else if 0xf1 ≤ b ∧ b ≤ 0xf3 then some ⟨start, b, 3, 0x80, 0xbf, b.toNat - 0xf0⟩
  else none

/-- Python `str(exc)` of a `UnicodeDecodeError` on the bytes from `start` up to `stop`. -/
def decodeErrorText (start : ℕ) (first : UInt8) (stop : ℕ) (reason : String) : String :=
  if stop = start + 1 then
    "'utf-8' codec can't decode byte 0x" ++ String.ofList (hex 2 first.toNat) ++ " in position " ++
      toString start ++ ": " ++ reason
  else
    "'utf-8' codec can't decode bytes in position " ++ toString start ++ "-" ++
      toString (stop - 1) ++ ": " ++ reason

/-- Decoding from `position` on, in the middle of the pending character if there is one. -/
def decodeFrom (position : ℕ) : Option PendingChar → List UInt8 → Except String (List Char)
  | none, [] => .ok []
  | some pending, [] =>
    .error (decodeErrorText pending.start pending.first position "unexpected end of data")
  | none, b :: rest =>
    if b < 0x80 then
      (decodeFrom (position + 1) none rest).map (Char.ofNat b.toNat :: ·)
    else
      match beginChar position b with
      | some pending => decodeFrom (position + 1) (some pending) rest
      | none => .error (decodeErrorText position b (position + 1) "invalid start byte")
  | some pending, b :: rest =>
    if pending.low ≤ b ∧ b ≤ pending.high then
      let code := pending.code * 64 + (b.toNat - 0x80)
      if pending.missing = 1 then
        (decodeFrom (position + 1) none rest).map (Char.ofNat code :: ·)
      else
        decodeFrom (position + 1)
          (some ⟨pending.start, pending.first, pending.missing - 1, 0x80, 0xbf, code⟩) rest
    else
      .error (decodeErrorText pending.start pending.first position "invalid continuation byte")

/-- Python `raw.decode("utf-8")`. -/
def decodeUtf8 (raw : List UInt8) : Except String String :=
  (decodeFrom 0 none raw).map String.ofList

example : decodeUtf8 [0x61, 0xc3, 0xa9, 0xe2, 0x82, 0xac] = .ok "aé€" := by decide +kernel

example : decodeUtf8 [0x61, 0xe2, 0x82, 0x28] =
    .error "'utf-8' codec can't decode bytes in position 1-2: invalid continuation byte" := by
  decide +kernel

/-- The bytes of a code point (Python `chr(n).encode("utf-8")`). -/
def encodeCode (n : ℕ) : List UInt8 :=
  if n < 0x80 then [.ofNat n]
  else if n < 0x800 then [.ofNat (0xc0 + n / 64), .ofNat (0x80 + n % 64)]
  else if n < 0x10000 then
    [.ofNat (0xe0 + n / 4096), .ofNat (0x80 + n / 64 % 64), .ofNat (0x80 + n % 64)]
  else
    [.ofNat (0xf0 + n / 262144), .ofNat (0x80 + n / 4096 % 64), .ofNat (0x80 + n / 64 % 64),
      .ofNat (0x80 + n % 64)]

/-- Python `text.encode("utf-8")`. -/
def encodeUtf8 (text : List Char) : List UInt8 :=
  text.flatMap fun c => encodeCode c.toNat

section RoundTrip

lemma toNat_byte {k : ℕ} (lt : k < 256) : (UInt8.ofNat k).toNat = k :=
  UInt8.toNat_ofNat_of_lt' lt

/-- A first byte up to its range begins a character. -/
lemma decodeFrom_first {position k : ℕ} {pending : PendingChar} {rest : List UInt8} (low : 0x80 ≤ k)
    (lt : k < 256) (begins : beginChar position (.ofNat k) = some pending) :
    decodeFrom position none (.ofNat k :: rest) = decodeFrom (position + 1) (some pending) rest := by
  rw [decodeFrom, if_neg, begins]
  rw [UInt8.lt_iff_toNat_lt, toNat_byte lt]
  exact Nat.not_lt.mpr low

/-- A byte in the middle of a character. -/
lemma decodeFrom_next {position start k missing code : ℕ} {first low high : UInt8} {rest : List UInt8}
    (lt : k < 256) (above : low.toNat ≤ k) (below : k ≤ high.toNat) (more : missing ≠ 1) :
    decodeFrom position (some ⟨start, first, missing, low, high, code⟩) (.ofNat k :: rest) =
      decodeFrom (position + 1)
        (some ⟨start, first, missing - 1, 0x80, 0xbf, code * 64 + (k - 0x80)⟩) rest := by
  rw [decodeFrom]
  dsimp only
  rw [if_pos, if_neg more, toNat_byte lt]
  rw [UInt8.le_iff_toNat_le, UInt8.le_iff_toNat_le, toNat_byte lt]
  exact ⟨above, below⟩

/-- The last byte of a character. -/
lemma decodeFrom_last {position start k code n : ℕ} {first low high : UInt8} {rest : List UInt8}
    (lt : k < 256) (above : low.toNat ≤ k) (below : k ≤ high.toNat) (whole : code * 64 + (k - 0x80) = n) :
    decodeFrom position (some ⟨start, first, 1, low, high, code⟩) (.ofNat k :: rest) =
      (decodeFrom (position + 1) none rest).map (Char.ofNat n :: ·) := by
  rw [decodeFrom]
  dsimp only
  rw [if_pos, if_pos rfl, toNat_byte lt, whole]
  rw [UInt8.le_iff_toNat_le, UInt8.le_iff_toNat_le, toNat_byte lt]
  exact ⟨above, below⟩

/-- What a first byte begins, by the number it stands for. -/
lemma beginChar_byte (start : ℕ) {k : ℕ} (lt : k < 256) :
    beginChar start (.ofNat k) =
      if 0xc2 ≤ k ∧ k ≤ 0xdf then some ⟨start, .ofNat k, 1, 0x80, 0xbf, k - 0xc0⟩
      else if k = 0xe0 then some ⟨start, .ofNat k, 2, 0xa0, 0xbf, 0⟩
      else if k = 0xed then some ⟨start, .ofNat k, 2, 0x80, 0x9f, 13⟩
      else if 0xe1 ≤ k ∧ k ≤ 0xef then some ⟨start, .ofNat k, 2, 0x80, 0xbf, k - 0xe0⟩
      else if k = 0xf0 then some ⟨start, .ofNat k, 3, 0x90, 0xbf, 0⟩
      else if k = 0xf4 then some ⟨start, .ofNat k, 3, 0x80, 0x8f, 4⟩
      else if 0xf1 ≤ k ∧ k ≤ 0xf3 then some ⟨start, .ofNat k, 3, 0x80, 0xbf, k - 0xf0⟩
      else none := by
  simp only [beginChar, UInt8.le_iff_toNat_le, ← UInt8.toNat_inj, toNat_byte lt]
  rfl

variable {n : ℕ} {rest : List UInt8}

/-- Two bytes are decoded. -/
lemma decodeFrom_two (position : ℕ) (low : 0x80 ≤ n) (high : n < 0x800) :
    ∃ after, decodeFrom position none (encodeCode n ++ rest) =
      (decodeFrom after none rest).map (Char.ofNat n :: ·) := by
  refine ⟨position + 1 + 1, ?_⟩
  have lt : 0xc0 + n / 64 < 256 := by omega
  rw [encodeCode, if_neg (by omega), if_pos high, List.cons_append, List.cons_append, List.nil_append]
  have begins : beginChar position (.ofNat (0xc0 + n / 64)) =
      some ⟨position, .ofNat (0xc0 + n / 64), 1, 0x80, 0xbf, 0xc0 + n / 64 - 0xc0⟩ := by
    rw [beginChar_byte position lt, if_pos (by omega)]
  rw [decodeFrom_first (by omega) lt begins]
  exact decodeFrom_last (by omega) (by simp) (by simp; omega) (by omega)

/-- So are three, surrogates apart. -/
lemma decodeFrom_three (position : ℕ) (low : 0x800 ≤ n) (high : n < 0x10000)
    (whole : ¬(0xd800 ≤ n ∧ n < 0xe000)) :
    ∃ after, decodeFrom position none (encodeCode n ++ rest) =
      (decodeFrom after none rest).map (Char.ofNat n :: ·) := by
  refine ⟨position + 1 + 1 + 1, ?_⟩
  have lt : 0xe0 + n / 4096 < 256 := by omega
  rw [encodeCode, if_neg (by omega), if_neg (by omega), if_pos high]
  simp only [List.cons_append, List.nil_append]
  -- The range of the second byte depends on the first.
  have begins : ∃ low high, beginChar position (.ofNat (0xe0 + n / 4096)) =
      some ⟨position, .ofNat (0xe0 + n / 4096), 2, low, high, n / 4096⟩ ∧
        low.toNat ≤ 0x80 + n / 64 % 64 ∧ 0x80 + n / 64 % 64 ≤ high.toNat := by
    rw [beginChar_byte position lt, if_neg (by omega)]
    split
    · have zero : n / 4096 = 0 := by omega
      rw [zero]
      exact ⟨_, _, rfl, by simp; omega, by simp; omega⟩
    · split
      · have thirteen : n / 4096 = 13 := by omega
        rw [thirteen]
        exact ⟨_, _, rfl, by simp, by simp; omega⟩
      · rw [if_pos (by omega), Nat.add_sub_cancel_left]
        exact ⟨_, _, rfl, by simp, by simp; omega⟩
  obtain ⟨first, last, begins, above, below⟩ := begins
  rw [decodeFrom_first (by omega) lt begins, decodeFrom_next (by omega) above below (by decide)]
  exact decodeFrom_last (by omega) (by simp) (by simp; omega) (by omega)

/-- So are four. -/
lemma decodeFrom_four (position : ℕ) (low : 0x10000 ≤ n) (high : n < 0x110000) :
    ∃ after, decodeFrom position none (encodeCode n ++ rest) =
      (decodeFrom after none rest).map (Char.ofNat n :: ·) := by
  refine ⟨position + 1 + 1 + 1 + 1, ?_⟩
  have lt : 0xf0 + n / 262144 < 256 := by omega
  rw [encodeCode, if_neg (by omega), if_neg (by omega), if_neg (by omega)]
  simp only [List.cons_append, List.nil_append]
  have begins : ∃ low high, beginChar position (.ofNat (0xf0 + n / 262144)) =
      some ⟨position, .ofNat (0xf0 + n / 262144), 3, low, high, n / 262144⟩ ∧
        low.toNat ≤ 0x80 + n / 4096 % 64 ∧ 0x80 + n / 4096 % 64 ≤ high.toNat := by
    rw [beginChar_byte position lt, if_neg (by omega), if_neg (by omega), if_neg (by omega),
      if_neg (by omega)]
    split
    · have zero : n / 262144 = 0 := by omega
      rw [zero]
      exact ⟨_, _, rfl, by simp; omega, by simp; omega⟩
    · split
      · have four : n / 262144 = 4 := by omega
        rw [four]
        exact ⟨_, _, rfl, by simp, by simp; omega⟩
      · rw [if_pos (by omega), Nat.add_sub_cancel_left]
        exact ⟨_, _, rfl, by simp, by simp; omega⟩
  obtain ⟨first, last, begins, above, below⟩ := begins
  rw [decodeFrom_first (by omega) lt begins, decodeFrom_next (by omega) above below (by decide),
    decodeFrom_next (by omega) (by simp) (by simp; omega) (by decide)]
  exact decodeFrom_last (by omega) (by simp) (by simp; omega) (by omega)

/-- Decoding reads a character back from its bytes. -/
lemma decodeFrom_encodeCode (position : ℕ) (c : Char) (rest : List UInt8) :
    ∃ after, decodeFrom position none (encodeCode c.toNat ++ rest) =
      (decodeFrom after none rest).map (c :: ·) := by
  have valid : c.toNat < 0xd800 ∨ 0xdfff < c.toNat ∧ c.toNat < 0x110000 := c.valid
  have read : ∃ after, decodeFrom position none (encodeCode c.toNat ++ rest) =
      (decodeFrom after none rest).map (Char.ofNat c.toNat :: ·) := by
    by_cases one : c.toNat < 0x80
    · refine ⟨position + 1, ?_⟩
      rw [encodeCode, if_pos one, List.cons_append, List.nil_append, decodeFrom, if_pos,
        toNat_byte (by omega)]
      rw [UInt8.lt_iff_toNat_lt, toNat_byte (by omega)]
      exact one
    · by_cases two : c.toNat < 0x800
      · exact decodeFrom_two position (by omega) two
      · by_cases three : c.toNat < 0x10000
        · exact decodeFrom_three position (by omega) three (by omega)
        · exact decodeFrom_four position (by omega) (by omega)
  rwa [Char.ofNat_toNat] at read

/-- Python's `decode` reads what its `encode` wrote. -/
theorem decodeUtf8_encodeUtf8 (text : List Char) :
    decodeUtf8 (encodeUtf8 text) = .ok (String.ofList text) := by
  have decoded : ∀ position, decodeFrom position none (encodeUtf8 text) = .ok text := by
    induction text with
    | nil => exact fun position => rfl
    | cons c text ih =>
      intro position
      rw [encodeUtf8, List.flatMap_cons]
      obtain ⟨after, read⟩ := decodeFrom_encodeCode position c (encodeUtf8 text)
      rw [encodeUtf8] at read
      rw [read, ← encodeUtf8, ih after]
      rfl
  rw [decodeUtf8, decoded]
  rfl

end RoundTrip

end Jaull.Text
