import Jaull.Artifacts.Service

/-!
# Digests in sidecars

What is read back of a digest that was written, in whole or in part: the digest, once all its digits are there.
-/

namespace Jaull.Artifacts
open Jaull.Evaluation Jaull.Lib Jaull.Text

/-- `[0-9a-f]`. -/
def isLowerHex (c : Char) : Bool :=
  ('0' ≤ c && c ≤ '9') || ('a' ≤ c && c ≤ 'f')

/-- The form of a SHA-256 digest (Python `hexdigest`). -/
structure IsDigest (digest : String) : Prop where
  length : digest.toList.length = 64
  digits : digest.toList.all isLowerHex = true

variable {c : Char} {chars : List Char} {digest text stored : String} {count : ℕ}

section Characters

/-- The codes of hexadecimal digits. -/
lemma range_of_isLowerHex (isDigit : isLowerHex c = true) :
    (48 ≤ c.toNat ∧ c.toNat ≤ 57) ∨ (97 ≤ c.toNat ∧ c.toNat ≤ 102) := by
  simp only [isLowerHex, Bool.or_eq_true, Bool.and_eq_true, decide_eq_true_eq] at isDigit
  rcases isDigit with ⟨least, most⟩ | ⟨least, most⟩
  · exact .inl ⟨Char.le_def.mp least, Char.le_def.mp most⟩
  · exact .inr ⟨Char.le_def.mp least, Char.le_def.mp most⟩

/-- None of them is blank. -/
lemma isSpace_of_isLowerHex (isDigit : isLowerHex c = true) : isSpace c = false := by
  have range := range_of_isLowerHex isDigit
  rw [isSpace]
  simp only [Bool.or_eq_false_iff, Bool.and_eq_false_iff, decide_eq_false_iff_not, beq_eq_false_iff_ne]
  omega

end Characters

section Texts

/-- A digest is of such digits. -/
lemma IsDigest.isLowerHex (isDigest : IsDigest digest) (mem : c ∈ digest.toList) : isLowerHex c = true :=
  List.all_eq_true.mp isDigest.digits c mem

/-- It is in lower case. -/
lemma IsDigest.lower_eq (isDigest : IsDigest digest) : lower digest = digest := by
  apply lower_of_plain
  intro c mem
  have range := range_of_isLowerHex (isDigest.isLowerHex mem)
  omega

/-- It has no blanks to strip. -/
lemma IsDigest.strip_eq (isDigest : IsDigest digest) : strip digest = digest := by
  have stripped := strip_append (fun c mem => isSpace_of_isLowerHex (isDigest.isLowerHex mem))
    (List.forall_mem_nil _)
  rwa [List.append_nil, String.ofList_toList] at stripped

lemma toNat_byte (ascii : c.toNat < 128) : (UInt8.ofNat c.toNat).toNat = c.toNat := by
  rw [UInt8.toNat_ofNat', Nat.mod_eq_of_lt (ascii.trans (by decide))]

/-- ASCII bytes are read as the characters that were written. -/
lemma readAscii_map (ascii : ∀ c ∈ chars, c.toNat < 128 ∧ c ≠ '\r') :
    readAscii (chars.map fun c => UInt8.ofNat c.toNat) = some (String.ofList chars) := by
  have small : (chars.map fun c => UInt8.ofNat c.toNat).all (· < 128) = true := by
    rw [List.all_eq_true]
    intro byte mem
    obtain ⟨c, there, rfl⟩ := List.mem_map.mp mem
    rw [decide_eq_true_eq, UInt8.lt_iff_toNat_lt, toNat_byte (ascii c there).1]
    exact (ascii c there).1
  have back : (chars.map fun c => UInt8.ofNat c.toNat).map (fun byte => Char.ofNat byte.toNat) = chars := by
    rw [List.map_map, List.map_congr_left, List.map_id]
    intro c mem
    rw [Function.comp_apply, toNat_byte (ascii c mem).1, Char.ofNat_toNat]
    rfl
  have plain : '\r' ∉ chars := fun mem => (ascii _ mem).2 rfl
  rw [readAscii, if_pos small, back, universalNewlines_of_not_mem plain]

/-- A digest is in ASCII, on one line. -/
lemma IsDigest.ascii (isDigest : IsDigest digest) : ∀ c ∈ digest.toList ++ ['\n'], c.toNat < 128 ∧ c ≠ '\r' := by
  intro c mem
  rcases List.mem_append.mp mem with mem | mem
  · have range := range_of_isLowerHex (isDigest.isLowerHex mem)
    refine ⟨by omega, ?_⟩
    rintro rfl
    exact absurd range (by decide)
  · rw [List.mem_singleton.mp mem]
    decide

/-- Part of a sidecar is read as part of its text. -/
lemma IsDigest.readAscii_take (isDigest : IsDigest digest) : readAscii ((sidecarBytes digest).take count) =
    some (String.ofList ((digest.toList ++ ['\n']).take count)) := by
  have bytes : (sidecarBytes digest).take count =
      ((digest.toList ++ ['\n']).take count).map fun c => UInt8.ofNat c.toNat := by
    rw [sidecarBytes, isDigest.strip_eq, String.toList_append, ← List.map_take]
    rfl
  rw [bytes]
  exact readAscii_map fun c mem => isDigest.ascii c (List.mem_of_mem_take mem)

/-- Stripped, it is part of the digest. -/
lemma IsDigest.strip_take (isDigest : IsDigest digest) :
    strip (String.ofList ((digest.toList ++ ['\n']).take count)) = String.ofList (digest.toList.take count) := by
  rw [List.take_append]
  apply strip_append
  · exact fun c mem => isSpace_of_isLowerHex (isDigest.isLowerHex (List.mem_of_mem_take mem))
  · intro c mem
    rw [List.mem_singleton.mp (List.mem_of_mem_take mem)]
    rfl

/-- From 64 characters on it is all of it. -/
lemma IsDigest.take_eq (isDigest : IsDigest digest) (enough : 64 ≤ count) :
    digest.toList.take count = digest.toList := by
  apply List.take_of_length_le
  rw [isDigest.length]
  exact enough

/-- A sidecar has 65 bytes. -/
lemma IsDigest.length_sidecarBytes (isDigest : IsDigest digest) : (sidecarBytes digest).length = 65 := by
  rw [sidecarBytes, isDigest.strip_eq, List.length_map, String.toList_append, List.length_append, isDigest.length]
  rfl

/-- **A digest that was written in part is read as no digest or as itself**, the latter once all its digits are
there. -/
lemma loadSha256_saved (isDigest : IsDigest digest) {refused : Bool}
    (loaded : loadSha256 (some ((sidecarBytes digest).take count)) refused = .ok (some stored)) :
    stored = digest ∧ 64 ≤ count := by
  rw [loadSha256.eq_def] at loaded
  dsimp only at loaded
  rw [isDigest.readAscii_take] at loaded
  split at loaded
  case isTrue => cases loaded
  case isFalse =>
    dsimp only at loaded
    rw [isDigest.strip_take] at loaded
    split_ifs at loaded with empty hex
    · cases loaded
    · have same := Option.some.inj (Except.ok.inj loaded)
      rw [String.toList_ofList, List.length_take, isDigest.length] at hex
      have enough : 64 ≤ count := by
        have length := hex.1
        omega
      rw [isDigest.take_eq enough, String.ofList_toList, isDigest.lower_eq] at same
      exact ⟨same.symm, enough⟩

/-- A digest all of whose digits are there is read as itself. -/
lemma loadSha256_of_enough (isDigest : IsDigest digest) (enough : 64 ≤ count) :
    loadSha256 (some ((sidecarBytes digest).take count)) false = .ok (some digest) := by
  have nonempty : digest ≠ "" := by
    rintro rfl
    exact absurd isDigest.length (by decide)
  have hex : digest.toList.all isHexDigit = true := by
    rw [List.all_eq_true]
    intro c mem
    rw [isHexDigit, Bool.or_eq_true]
    exact .inl (isDigest.isLowerHex mem)
  rw [loadSha256.eq_def]
  dsimp only
  rw [if_neg Bool.false_ne_true, isDigest.readAscii_take]
  dsimp only
  rw [isDigest.strip_take, isDigest.take_eq enough, String.ofList_toList, if_neg nonempty,
    if_pos ⟨isDigest.length, hex⟩, isDigest.lower_eq]

/-- A digest that was written is read as itself. -/
lemma loadSha256_sidecarBytes (isDigest : IsDigest digest) :
    loadSha256 (some (sidecarBytes digest)) false = .ok (some digest) := by
  rw [← List.take_length (l := sidecarBytes digest), isDigest.length_sidecarBytes]
  exact loadSha256_of_enough isDigest (by decide)

end Texts

end Jaull.Artifacts
