import Jaull.Lib.Reader
import Jaull.Metadata.GgufReader
import Mathlib.Algebra.Order.Ring.Int
import Mathlib.Data.List.Forall2
import Mathlib.Tactic.Zify

/-!
# The GGUF format

Which bytes stand for which metadata in a GGUF file: numbers in little-endian order, texts and arrays behind their
length, each value behind its type. The reader of `gguf_reader.py` accepts exactly these files, and no proper
beginning of one is taken for a whole one.
-/

namespace Jaull.Metadata
open Jaull.Domain Jaull.Lib Jaull.Lib.Reader Jaull.Text

section Languages

/-- A number in `size` little-endian bytes. -/
def Word (size : ℕ) : ByteFormat ℕ :=
  fun raw n => n < 256 ^ size ∧ raw = littleEndian size n

/-- A text behind its length. -/
def TextField : ByteFormat String :=
  fun raw text => ∃ body, body.length ≤ 1000000 ∧ decodeUtf8 body = .ok text ∧
    raw = littleEndian 8 body.length ++ body

/-- How many bytes a value of a layout takes. -/
def FixedFormat.size : FixedFormat → ℕ
  | .unsigned size => size
  | .signed size => size
  | .float size => size
  | .bool => 1

/-- The value that bytes stand for in a layout. -/
def FixedFormat.value : FixedFormat → List UInt8 → GgufValue
  | .unsigned _, raw => .int (Metadata.unsigned raw)
  | .signed _, raw => .int (Metadata.signed raw)
  | .float _, raw => .float raw
  | .bool, raw => .bool (Metadata.unsigned raw ≠ 0)

/-- A value of a type whose arrays are `array`. -/
def Typed (array : ByteFormat (List GgufValue)) (typeId : ℕ) : ByteFormat GgufValue :=
  fun raw value =>
    (typeId = 8 ∧ ∃ text, TextField raw text ∧ GgufValue.string text = value) ∨
    (typeId = 9 ∧ ∃ items, array raw items ∧ GgufValue.array items = value) ∨
    ∃ format, fixedFormat? typeId = some format ∧ raw.length = format.size ∧ format.value raw = value

/-- An array that leaves `levels` levels of nesting. -/
def ArrayField : ℕ → ByteFormat (List GgufValue)
  | 0 => fun _ _ => False
  | levels + 1 => fun raw items =>
    ∃ innerType body, innerType < 256 ^ 4 ∧ items.length ≤ 10000000 ∧
      (Typed (ArrayField levels) innerType).times items.length body items ∧
        raw = littleEndian 4 innerType ++ littleEndian 8 items.length ++ body

/-- A value behind its type. -/
def ValueField : ByteFormat GgufValue :=
  fun raw value => ∃ typeId body, typeId < 256 ^ 4 ∧ Typed (ArrayField 33) typeId body value ∧
    raw = littleEndian 4 typeId ++ body

/-- A key and its value. -/
def EntryField : ByteFormat (String × GgufValue) :=
  fun raw entry => ∃ key value, TextField key entry.1 ∧ ValueField value entry.2 ∧ raw = key ++ value

/-- The metadata block: the version, the number of tensors, and the entries behind their number. -/
def MetadataBlock : ByteFormat (ℕ × GgufEntries) :=
  fun raw block => ∃ version body, (version = 2 ∨ version = 3) ∧ block.1 < 256 ^ 8 ∧ block.2.length ≤ 100000 ∧
    EntryField.times block.2.length body block.2 ∧
      raw = littleEndian 4 version ++ littleEndian 8 block.1 ++ littleEndian 8 block.2.length ++ body

end Languages

section Words
variable {size n : ℕ} {raw : List UInt8}

/-- So many bytes are so many. -/
lemma length_littleEndian (size n : ℕ) : (littleEndian size n).length = size := by
  induction size generalizing n with
  | zero => rfl
  | succ size ih => rw [littleEndian, List.length_cons, ih]

/-- A number that fits is read back. -/
lemma unsigned_littleEndian (fits : n < 256 ^ size) : unsigned (littleEndian size n) = n := by
  induction size generalizing n with
  | zero => exact (Nat.lt_one_iff.mp fits).symm
  | succ size ih =>
    have less : n / 256 < 256 ^ size := by
      rw [pow_succ] at fits
      exact Nat.div_lt_of_lt_mul (by rwa [Nat.mul_comm] at fits)
    have later := ih less
    rw [unsigned] at later
    rw [littleEndian, unsigned, List.foldr_cons, later, UInt8.toNat_ofNat']
    exact Nat.mod_add_div n 256

/-- Bytes are those of the number that is read of them. -/
lemma littleEndian_unsigned (raw : List UInt8) : unsigned raw < 256 ^ raw.length ∧
    littleEndian raw.length (unsigned raw) = raw := by
  induction raw with
  | nil => exact ⟨Nat.zero_lt_one, rfl⟩
  | cons byte raw ih =>
    obtain ⟨less, same⟩ := ih
    have small : byte.toNat < 256 := byte.toNat_lt
    have number : unsigned (byte :: raw) = byte.toNat + 256 * unsigned raw := rfl
    constructor
    · rw [number, List.length_cons, pow_succ]
      omega
    · have low : (byte.toNat + 256 * unsigned raw) % 256 = byte.toNat := by omega
      have high : (byte.toNat + 256 * unsigned raw) / 256 = unsigned raw := by omega
      rw [List.length_cons, littleEndian, number, high, same]
      have first : UInt8.ofNat (byte.toNat + 256 * unsigned raw) = byte := by
        apply UInt8.toNat_inj.mp
        rw [UInt8.toNat_ofNat']
        exact low
      rw [first]

/-- A word is bytes with their value. -/
lemma word_iff : (∃ bytes : List UInt8, (raw.length = size ∧ bytes = raw) ∧ unsigned bytes = n) ↔ Word size raw n := by
  constructor
  · rintro ⟨bytes, ⟨rfl, rfl⟩, rfl⟩
    obtain ⟨less, same⟩ := littleEndian_unsigned bytes
    exact ⟨less, same.symm⟩
  · rintro ⟨fits, rfl⟩
    exact ⟨_, ⟨length_littleEndian size n, rfl⟩, unsigned_littleEndian fits⟩

end Words

section Readers
variable {raw : List UInt8}

/-- Bytes are read as a word. -/
lemma reads_word (size : ℕ) : Reads (unsigned <$> read size : FieldReader ℕ) (Word size) :=
  ((reads_bytes _ size).map unsigned).congr fun _ _ => word_iff

lemma reads_readU32 : Reads readU32 (Word 4) :=
  reads_word 4

lemma reads_readU64 : Reads readU64 (Word 8) :=
  reads_word 8

/-- Bytes are decoded as UTF-8. -/
lemma reads_decodeString (body : List UInt8) :
    Reads (decodeString body) fun raw text => raw = [] ∧ decodeUtf8 body = .ok text := by
  rw [decodeString]
  cases decodeUtf8 body with
  | ok text =>
    refine (reads_pure text).congr fun raw text' => and_congr_right fun _ => ?_
    exact ⟨fun same => congrArg Except.ok same.symm, fun same => (Except.ok.inj same).symm⟩
  | error reason =>
    refine (reads_fail _).congr fun raw text' => ?_
    exact ⟨False.elim, fun both => by cases both.2⟩

/-- A text is read behind its length. -/
lemma reads_readString : Reads readString TextField := by
  refine (reads_readU64.bind fun length => ((reads_bytes _ length).bind
    reads_decodeString).unless (1000000 < length) (.stringLength length)).congr ?_
  intro raw text
  constructor
  · rintro ⟨length, front, back, rfl, ⟨_, rfl⟩, small, body, taken, rest, rfl, ⟨rfl, rfl⟩, rfl, decoded⟩
    refine ⟨body, Nat.le_of_not_lt small, decoded, ?_⟩
    rw [List.append_nil]
  · rintro ⟨body, small, decoded, rfl⟩
    refine ⟨body.length, littleEndian 8 body.length, body, rfl, ⟨?_, rfl⟩, Nat.not_lt.mpr small, body, body, [],
      (List.append_nil body).symm, ⟨rfl, rfl⟩, rfl, decoded⟩
    exact Nat.lt_of_le_of_lt small (by decide)

/-- A value of fixed size is read from its bytes. -/
lemma reads_readFixed (format : FixedFormat) :
    Reads (readFixed format) fun raw value => raw.length = format.size ∧ format.value raw = value := by
  have put : ∀ {size : ℕ} {f : List UInt8 → GgufValue}, Reads (f <$> read size : FieldReader GgufValue)
      fun raw value => raw.length = size ∧ f raw = value := by
    intro size f
    refine ((reads_bytes _ size).map f).congr fun raw value => ?_
    constructor
    · rintro ⟨_, ⟨length, rfl⟩, same⟩
      exact ⟨length, same⟩
    · rintro ⟨length, same⟩
      exact ⟨raw, ⟨length, rfl⟩, same⟩
  cases format with
  | unsigned size => exact put
  | signed size => exact put
  | float size => exact put
  | bool => exact put

/-- A value is read by its type. -/
lemma reads_readTyped {array : FieldReader (List GgufValue)} {language : ByteFormat (List GgufValue)}
    (reads : Reads array language) (unknown : ℕ → GgufHeaderInvalidError) (typeId : ℕ) :
    Reads (readTyped array unknown typeId) (Typed language typeId) := by
  rw [readTyped]
  -- a text, a list, or a value of fixed width: the tag decides which
  by_cases text : typeId = 8
  · subst text
    rw [if_pos rfl]
    refine (reads_readString.map _).congr fun raw value => ?_
    constructor
    · exact fun stands => .inl ⟨rfl, stands⟩
    · rintro (⟨_, stands⟩ | ⟨wrong, _⟩ | ⟨_, layout, _⟩)
      · exact stands
      · cases wrong
      · cases layout
  · rw [if_neg text]
    by_cases list : typeId = 9
    · subst list
      rw [if_pos rfl]
      refine (reads.map _).congr fun raw value => ?_
      constructor
      · exact fun stands => .inr (.inl ⟨rfl, stands⟩)
      · rintro (⟨wrong, _⟩ | ⟨_, stands⟩ | ⟨_, layout, _⟩)
        · cases wrong
        · exact stands
        · cases layout
    · rw [if_neg list]
      cases layout : fixedFormat? typeId with
      | none =>
        refine (reads_fail _).congr fun raw value => ?_
        constructor
        · exact False.elim
        · rintro (⟨same, _⟩ | ⟨same, _⟩ | ⟨_, layout', _⟩)
          · exact text same
          · exact list same
          · rw [layout] at layout'
            cases layout'
      | some format =>
        refine (reads_readFixed format).congr fun raw value => ?_
        constructor
        · exact fun stands => .inr (.inr ⟨format, layout, stands⟩)
        · rintro (⟨same, _⟩ | ⟨same, _⟩ | ⟨format', layout', stands⟩)
          · exact absurd same text
          · exact absurd same list
          · rw [layout] at layout'
            cases layout'
            exact stands

/-- An array is read at every depth. -/
lemma reads_readArray (levels : ℕ) : Reads (readArray levels) (ArrayField levels) := by
  induction levels with
  | zero => exact reads_fail _
  | succ levels ih =>
    refine (reads_readU32.bind fun innerType => reads_readU64.bind fun count =>
      ((reads_readTyped ih .elementType innerType).times count).unless (10000000 < count) (.arrayLength count)).congr ?_
    intro raw items
    constructor
    · rintro ⟨innerType, front, back, rfl, ⟨fits, rfl⟩, count, middle, body, rfl, ⟨_, rfl⟩, few, stands⟩
      obtain ⟨raws, flat, all, rfl⟩ := stands
      refine ⟨innerType, body, fits, Nat.le_of_not_lt few, ⟨raws, flat, all, rfl⟩, ?_⟩
      rw [List.append_assoc]
    · rintro ⟨innerType, body, fits, few, stands, rfl⟩
      rw [List.append_assoc]
      exact ⟨innerType, _, _, rfl, ⟨fits, rfl⟩, items.length, _, body, rfl,
        ⟨Nat.lt_of_le_of_lt few (by decide), rfl⟩, Nat.not_lt.mpr few, stands⟩

/-- A value is read behind its type. -/
lemma reads_readValue : Reads readValue ValueField := by
  refine (reads_readU32.bind fun typeId => reads_readTyped (reads_readArray 33) .valueType typeId).congr ?_
  intro raw value
  constructor
  · rintro ⟨typeId, front, body, rfl, ⟨fits, rfl⟩, stands⟩
    exact ⟨typeId, body, fits, stands, rfl⟩
  · rintro ⟨typeId, body, fits, stands, rfl⟩
    exact ⟨typeId, _, body, rfl, ⟨fits, rfl⟩, stands⟩

/-- Entries behind those that are in. -/
lemma reads_readEntries (count : ℕ) (entries : GgufEntries) :
    Reads (readEntries count entries) fun raw all => ∃ new, all = entries ++ new ∧ EntryField.times count raw new := by
  induction count generalizing entries with
  | zero =>
    refine (reads_pure entries).congr ?_
    intro raw all
    constructor
    · rintro ⟨rfl, rfl⟩
      exact ⟨[], (List.append_nil _).symm, [], rfl, .nil, rfl⟩
    · rintro ⟨new, rfl, raws, rfl, entered, none⟩
      rw [List.length_eq_zero_iff.mp none] at entered ⊢
      cases entered
      exact ⟨rfl, List.append_nil _⟩
  | succ count ih =>
    refine ((reads_readString.onCut _).bind fun key => (reads_readValue.onCut _).bind fun value =>
      ih (entries ++ [(key, value)])).congr ?_
    intro raw all
    constructor
    · rintro ⟨key, keyRaw, _, rfl, named, value, valueRaw, _, rfl, stands, new, rfl, raws, rfl, entered, length⟩
      refine ⟨(key, value) :: new, List.append_assoc _ _ _, (keyRaw ++ valueRaw) :: raws, ?_,
        .cons ⟨keyRaw, valueRaw, named, stands, rfl⟩ entered, congrArg Nat.succ length⟩
      rw [List.flatten_cons, List.append_assoc]
    · rintro ⟨new, rfl, raws, rfl, entered, length⟩
      cases entered with
      | nil => cases length
      | @cons raw entry raws new own entered =>
        obtain ⟨keyRaw, valueRaw, named, stands, rfl⟩ := own
        refine ⟨entry.1, keyRaw, valueRaw ++ raws.flatten, ?_, named, entry.2, valueRaw, raws.flatten, rfl, stands, new,
          ?_, raws, rfl, entered, Nat.succ.inj length⟩
        · rw [List.flatten_cons, List.append_assoc]
        · rw [List.append_assoc]
          rfl

/-- The metadata block is read entry by entry. -/
lemma reads_readMetadata : Reads readMetadata MetadataBlock := by
  refine ((reads_readU32.onCut _).bind fun version => ((reads_readU64.onCut _).bind fun tensorCount =>
    (reads_readU64.onCut _).bind fun kvCount => ((reads_readEntries kvCount []).bind fun entries =>
      reads_pure (tensorCount, entries)).unless (100000 < kvCount) (.kvCount kvCount)).unless
        (version ≠ 2 ∧ version ≠ 3) (.unsupportedVersion version)).congr ?_
  intro raw block
  constructor
  · rintro ⟨version, _, _, rfl, ⟨_, rfl⟩, supported, tensorCount, _, _, rfl, ⟨fits, rfl⟩, kvCount, _, _, rfl,
      ⟨_, rfl⟩, few, entries, body, _, rfl, ⟨new, rfl, raws, rfl, entered, length⟩, rfl, rfl⟩
    rw [List.append_nil]
    have version' : version = 2 ∨ version = 3 := by
      by_contra neither
      exact supported (not_or.mp neither)
    refine ⟨version, raws.flatten, version', fits, ?_, ⟨raws, rfl, entered, rfl⟩, ?_⟩
    · exact length ▸ Nat.le_of_not_lt few
    · dsimp only
      rw [length, List.append_assoc, List.append_assoc]
  · rintro ⟨version, body, version', fits, few, stands, rfl⟩
    have supported : ¬(version ≠ 2 ∧ version ≠ 3) := by
      rintro ⟨two, three⟩
      exact version'.elim two three
    have small : version < 256 ^ 4 := by
      rcases version' with rfl | rfl
      · decide
      · decide
    rw [List.append_assoc, List.append_assoc]
    refine ⟨version, _, _, rfl, ⟨small, rfl⟩, supported, block.1, _, _, rfl, ⟨fits, rfl⟩, block.2.length, _, _, rfl,
      ⟨Nat.lt_of_le_of_lt few (by decide), rfl⟩, Nat.not_lt.mpr few, block.2, body, [], (List.append_nil _).symm,
      ⟨block.2, (List.nil_append _).symm, stands⟩, rfl, rfl⟩

end Readers

section Files
variable {data raw rest front more : List UInt8} {block : ℕ × GgufEntries} {header : GgufHeaderMetadata}

/-- The magic bytes at the front. -/
lemma magic_front (rest : List UInt8) : ¬(magic ++ rest).length < 4 ∧ (magic ++ rest).take 4 = magic ∧
    (magic ++ rest).drop 4 = rest := by
  refine ⟨?_, List.take_left' rfl, List.drop_left' rfl⟩
  rw [List.length_append]
  exact Nat.not_lt.mpr (Nat.le_add_right 4 rest.length)

/-- A file of the format gives the header of its entries, whatever follows. -/
lemma parseHeader_of_block (stands : MetadataBlock raw block) (rest : List UInt8) :
    parseHeader (magic ++ (raw ++ rest)) = .header (buildHeader block.2 true) := by
  obtain ⟨long, take, drop⟩ := magic_front (raw ++ rest)
  rw [parseHeader, if_neg long, take, if_neg (fun differs => differs rfl), drop, reads_readMetadata.read stands]

/-- A whole header is that of a file of the format. -/
lemma block_of_parseHeader (parsed : parseHeader data = .header header) (complete : header.isComplete = true) :
    ∃ raw rest block, data = magic ++ (raw ++ rest) ∧ MetadataBlock raw block ∧ header = buildHeader block.2 true := by
  have gguf : data.take 4 = magic := by
    by_contra foreign
    rw [parseHeader] at parsed
    split at parsed
    · cases parsed
    · cases parsed
  have whole : data = magic ++ data.drop 4 := by
    rw [← gguf, List.take_append_drop]
  obtain ⟨long, take, drop⟩ := magic_front (data.drop 4)
  rw [whole, parseHeader, if_neg long, take, if_neg (fun differs => differs rfl), drop] at parsed
  cases read : readMetadata ⟨4, data.drop 4⟩ with
  | invalid error =>
    rw [read] at parsed
    cases parsed
  | incomplete cut =>
    rw [read] at parsed
    dsimp only at parsed
    split at parsed
    · cases parsed
      cases complete
    · cases parsed
  | ok block after =>
    rw [read] at parsed
    cases parsed
    obtain ⟨raw, stands, same, _⟩ := reads_readMetadata.stands read
    refine ⟨raw, after.rest, block, ?_, stands, rfl⟩
    rw [← same]
    exact whole

end Files

section Writing

/-- The type of a value in a file. -/
inductive WireType
  | fixed (typeId : ℕ)
  | text
  | array (inner : WireType)
  deriving DecidableEq, Repr

namespace WireType

/-- The number of a type. -/
def code : WireType → ℕ
  | .fixed typeId => typeId
  | .text => 8
  | .array _ => 9

/-- How deep arrays are nested. -/
def depth : WireType → ℕ
  | .fixed _ => 0
  | .text => 0
  | .array inner => inner.depth + 1

end WireType

/-- Whether a layout has room for a value. -/
def FixedFormat.Holds : FixedFormat → GgufValue → Prop
  | .unsigned size, .int n => 0 ≤ n ∧ n < 256 ^ size
  | .signed size, .int n => -(256 ^ size) ≤ 2 * n ∧ 2 * n < 256 ^ size
  | .float size, .float raw => raw.length = size
  | .bool, .bool _ => True
  | _, _ => False

/-- The bytes of a value in a layout. -/
def FixedFormat.write : FixedFormat → GgufValue → List UInt8
  | .unsigned size, .int n => littleEndian size n.toNat
  | .signed size, .int n => littleEndian size (n % 256 ^ size).toNat
  | .float _, .float raw => raw
  | .bool, .bool b => [if b then 1 else 0]
  | _, _ => []

/-- A text as the file holds it. -/
def writeTextField (text : String) : List UInt8 :=
  littleEndian 8 (encodeUtf8 text.toList).length ++ encodeUtf8 text.toList

/-- Whether a value can be written as one of a type. -/
def WireType.Holds : WireType → GgufValue → Prop
  | .fixed typeId, value => ∃ format, fixedFormat? typeId = some format ∧ format.Holds value
  | .text, .string chars => (encodeUtf8 chars.toList).length ≤ 1000000
  | .array inner, .array items =>
    inner.code < 256 ^ 4 ∧ items.length ≤ 10000000 ∧ ∀ item ∈ items, inner.Holds item
  | _, _ => False

/-- The bytes of a value of a type. -/
def WireType.write : WireType → GgufValue → List UInt8
  | .fixed typeId, value =>
    match fixedFormat? typeId with
    | some format => format.write value
    | none => []
  | .text, .string chars => writeTextField chars
  | .array inner, .array items =>
    littleEndian 4 inner.code ++ littleEndian 8 items.length ++ items.flatMap inner.write
  | _, _ => []

/-- An entry to be written. -/
structure WireEntry where
  key : String
  type : WireType
  value : GgufValue

/-- The bytes of an entry. -/
def WireEntry.write (entry : WireEntry) : List UInt8 :=
  writeTextField entry.key ++ littleEndian 4 entry.type.code ++ entry.type.write entry.value

/-- An entry can be written. -/
structure WireEntry.Fits (entry : WireEntry) : Prop where
  key : (encodeUtf8 entry.key.toList).length ≤ 1000000
  depth : entry.type.depth ≤ 33
  value : entry.type.Holds entry.value

/-- A file of some entries, in front of its tensors. -/
def writeHeader (version tensorCount : ℕ) (entries : List WireEntry) : List UInt8 :=
  magic ++ (littleEndian 4 version ++ littleEndian 8 tensorCount ++ littleEndian 8 entries.length ++
    entries.flatMap WireEntry.write)

end Writing

section RoundTrip
variable {size n : ℕ} {value : GgufValue} {type : WireType}

/-- A signed number that fits is read back. -/
lemma signed_littleEndian {n : ℤ} (low : -(256 ^ size) ≤ 2 * n) (high : 2 * n < 256 ^ size) :
    signed (littleEndian size (n % 256 ^ size).toNat) = n := by
  have positive : (0 : ℤ) < 256 ^ size := pow_pos (by decide) size
  have least := Int.emod_nonneg n positive.ne'
  have most := Int.emod_lt_of_pos n positive
  have fits : (n % 256 ^ size).toNat < 256 ^ size := by
    zify
    rw [Int.toNat_of_nonneg least]
    exact most
  rw [signed, unsigned_littleEndian fits, length_littleEndian]
  rcases le_or_gt 0 n with plus | minus
  · have same : n % 256 ^ size = n := Int.emod_eq_of_lt plus (by omega)
    rw [same, if_pos]
    · exact Int.toNat_of_nonneg plus
    · zify
      rw [Int.toNat_of_nonneg plus]
      exact high
  · have same : n % 256 ^ size = n + 256 ^ size := by
      rw [← Int.add_emod_right, Int.emod_eq_of_lt]
      · omega
      · omega
    rw [same, if_neg]
    · rw [Int.toNat_of_nonneg (by omega)]
      omega
    · zify
      rw [Int.toNat_of_nonneg (by omega)]
      omega

/-- What is written in a layout is read back. -/
lemma FixedFormat.write_stands {format : FixedFormat} (holds : format.Holds value) :
    (format.write value).length = format.size ∧ format.value (format.write value) = value := by
  cases format with
  | unsigned size =>
    cases value with
    | int n =>
      refine ⟨length_littleEndian size n.toNat, ?_⟩
      have fits : n.toNat < 256 ^ size := by
        zify
        rw [Int.toNat_of_nonneg holds.1]
        exact holds.2
      change GgufValue.int (Metadata.unsigned (littleEndian size n.toNat)) = .int n
      rw [unsigned_littleEndian fits, Int.toNat_of_nonneg holds.1]
    | _ => exact holds.elim
  | signed size =>
    cases value with
    | int n => exact ⟨length_littleEndian size _, congrArg GgufValue.int (signed_littleEndian holds.1 holds.2)⟩
    | _ => exact holds.elim
  | float size =>
    cases value with
    | float raw => exact ⟨holds, rfl⟩
    | _ => exact holds.elim
  | bool =>
    cases value with
    | bool b =>
      cases b with
      | true => exact ⟨rfl, rfl⟩
      | false => exact ⟨rfl, rfl⟩
    | _ => exact holds.elim

/-- A text that is written stands there. -/
lemma writeTextField_stands {text : String} (short : (encodeUtf8 text.toList).length ≤ 1000000) :
    TextField (writeTextField text) text := by
  refine ⟨encodeUtf8 text.toList, short, ?_, rfl⟩
  rw [decodeUtf8_encodeUtf8, String.ofList_toList]

/-- The number of a type that holds a value. -/
lemma code_lt (holds : type.Holds value) : type.code < 256 ^ 4 := by
  cases type with
  | fixed typeId =>
    obtain ⟨format, layout, _⟩ := holds
    have small : typeId ≤ 12 := by
      by_contra large
      have none : fixedFormat? typeId = none := by
        rw [fixedFormat?.eq_def]
        split
        all_goals first | rfl | exact absurd (by decide) large
      rw [none] at layout
      cases layout
    exact Nat.lt_of_le_of_lt small (by decide)
  | text => decide
  | array inner =>
    change 9 < 256 ^ 4
    decide

/-- What is written of a type is read back, as long as arrays are not nested too deep. -/
lemma write_stands {levels : ℕ} (holds : type.Holds value) (shallow : type.depth ≤ levels) :
    Typed (ArrayField levels) type.code (type.write value) value := by
  induction type generalizing levels value with
  | fixed typeId =>
    obtain ⟨format, layout, fits⟩ := holds
    right; right
    refine ⟨format, layout, ?_⟩
    rw [WireType.write, layout]
    exact FixedFormat.write_stands fits
  | text =>
    cases value with
    | string text => exact .inl ⟨rfl, text, writeTextField_stands holds, rfl⟩
    | _ => exact holds.elim
  | array inner ih =>
    cases value with
    | array items =>
      obtain ⟨known, few, each⟩ := holds
      cases levels with
      | zero => cases shallow
      | succ levels =>
        right; left
        refine ⟨rfl, items, ⟨inner.code, items.flatMap inner.write, known, few, ?_, rfl⟩, rfl⟩
        refine ⟨items.map inner.write, List.flatMap_def, ?_, rfl⟩
        rw [List.forall₂_map_left_iff, List.forall₂_same]
        exact fun item mem => ih (each item mem) (Nat.le_of_succ_le_succ shallow)
    | _ => exact holds.elim

/-- The entries of a table that is written. -/
def tableOf (entries : List WireEntry) : GgufEntries :=
  entries.map fun entry => (entry.key, entry.value)

/-- So does an entry. -/
lemma entry_stands {entry : WireEntry} (fits : entry.Fits) :
    EntryField entry.write (entry.key, entry.value) := by
  refine ⟨writeTextField entry.key, littleEndian 4 entry.type.code ++ entry.type.write entry.value,
    writeTextField_stands fits.key,
    ⟨entry.type.code, _, code_lt fits.value, write_stands fits.value fits.depth, rfl⟩, ?_⟩
  exact List.append_assoc _ _ _

/-- A table that is written is a metadata block. -/
lemma block_stands {version tensorCount : ℕ} {entries : List WireEntry} (supported : version = 2 ∨ version = 3)
    (count : tensorCount < 256 ^ 8) (few : entries.length ≤ 100000) (fits : ∀ entry ∈ entries, entry.Fits) :
    MetadataBlock (littleEndian 4 version ++ littleEndian 8 tensorCount ++ littleEndian 8 entries.length ++
      entries.flatMap WireEntry.write) (tensorCount, tableOf entries) := by
  have length : (tableOf entries).length = entries.length := List.length_map _
  refine ⟨version, entries.flatMap WireEntry.write, supported, count, ?_, ?_, ?_⟩
  · rw [length]
    exact few
  · refine ⟨entries.map WireEntry.write, List.flatMap_def, ?_, rfl⟩
    rw [tableOf, List.forall₂_map_left_iff, List.forall₂_map_right_iff, List.forall₂_same]
    exact fun entry mem => entry_stands (fits entry mem)
  · rw [length]

/-- What is written is read back: the header of a file is made of the entries the file was written with, texts in any
script, numbers of every size and sign, and arrays of arrays, whatever follows them. -/
theorem parseHeader_writeHeader {version tensorCount : ℕ} {entries : List WireEntry}
    (supported : version = 2 ∨ version = 3) (count : tensorCount < 256 ^ 8) (few : entries.length ≤ 100000)
    (fits : ∀ entry ∈ entries, entry.Fits) (rest : List UInt8) :
    parseHeader (writeHeader version tensorCount entries ++ rest) = .header (buildHeader (tableOf entries) true) := by
  rw [writeHeader, List.append_assoc]
  exact parseHeader_of_block (block_stands supported count few fits) rest

/-- A table with a text, a negative number, and a list of lists. -/
def nestedEntries : List WireEntry :=
  [⟨"general.architecture", .text, .string "llama"⟩, ⟨"llama.shift", .fixed 5, .int (-2)⟩,
    ⟨"llama.groups", .array (.array (.fixed 0)), .array [.array [.int 1, .int 255], .array []]⟩]

/-- The entries of the example can be written. -/
lemma nestedEntries_fit : ∀ entry ∈ nestedEntries, entry.Fits := by
  have text : ∀ chars : String, (encodeUtf8 chars.toList).length ≤ 1000000 →
      WireType.text.Holds (.string chars) := fun chars short => short
  intro entry mem
  simp only [nestedEntries, List.mem_cons, List.not_mem_nil, or_false] at mem
  rcases mem with rfl | rfl | rfl
  · exact ⟨by decide +kernel, by decide, text _ (by decide +kernel)⟩
  · refine ⟨by decide +kernel, by decide, .signed 4, rfl, ?_, ?_⟩
    · decide
    · decide
  · have byte : ∀ n : ℤ, 0 ≤ n → n < 256 ^ 1 → (WireType.fixed 0).Holds (.int n) :=
      fun n least most => ⟨.unsigned 1, rfl, least, most⟩
    refine ⟨by decide +kernel, by decide, by decide, by decide, ?_⟩
    intro item mem
    simp only [List.mem_cons, List.not_mem_nil, or_false] at mem
    rcases mem with rfl | rfl
    · refine ⟨by decide, by decide, ?_⟩
      intro item mem
      simp only [List.mem_cons, List.not_mem_nil, or_false] at mem
      rcases mem with rfl | rfl
      · exact byte 1 (by decide) (by decide)
      · exact byte 255 (by decide) (by decide)
    · exact ⟨by decide, by decide, fun item mem => absurd mem List.not_mem_nil⟩

/-- They are read back, whatever byte follows. -/
theorem parseHeader_writeHeader_nested :
    parseHeader (writeHeader 3 0 nestedEntries ++ [7]) = .header (buildHeader (tableOf nestedEntries) true) :=
  parseHeader_writeHeader (.inr rfl) (by decide) (by decide) nestedEntries_fit [7]

/-- The reader returns a whole header exactly for the files of the format, whatever follows the metadata block, and
on a proper beginning of one it never decides. -/
theorem parseHeader_reads_format :
    (∀ data header, parseHeader data = .header header ∧ header.isComplete = true ↔
      ∃ raw rest block, data = magic ++ (raw ++ rest) ∧ MetadataBlock raw block ∧ header = buildHeader block.2 true) ∧
    ∀ raw block front more, MetadataBlock raw block → magic ++ raw = front ++ more → more ≠ [] →
      (parseHeader front).decided = false := by
  refine ⟨?_, ?_⟩
  · intro data header
    constructor
    · rintro ⟨parsed, complete⟩
      exact block_of_parseHeader parsed complete
    · rintro ⟨raw, rest, block, rfl, stands, rfl⟩
      exact ⟨parseHeader_of_block stands rest, rfl⟩
  · intro raw block front more stands parts some'
    by_contra decided
    have decided' : (parseHeader front).decided = true := (Bool.not_eq_false _).mp decided
    have same := parseHeader_append decided' more
    have full := parseHeader_of_block stands []
    rw [List.append_nil, parts, same] at full
    -- the beginning would hold a metadata block of its own
    obtain ⟨raw', rest', block', begun, stands', _⟩ := block_of_parseHeader full rfl
    rw [begun, List.append_assoc, List.append_assoc] at parts
    have longer := List.append_cancel_left parts
    obtain ⟨none, _⟩ := reads_readMetadata.prefix_free stands' stands longer
    exact some' (List.append_eq_nil_iff.mp none).2

/-- No beginning of them is decided. -/
theorem parseHeader_reads_format_nested :
    ∀ n < (writeHeader 3 0 nestedEntries).length,
      (parseHeader ((writeHeader 3 0 nestedEntries).take n)).decided = false := by
  intro n short
  refine parseHeader_reads_format.2 _ _ _ ((writeHeader 3 0 nestedEntries).drop n)
    (block_stands (.inr rfl) (by decide) (by decide) nestedEntries_fit) (List.take_append_drop n _).symm ?_
  intro none
  exact absurd (List.drop_eq_nil_iff.mp none) (Nat.not_le.mpr short)

end RoundTrip

end Jaull.Metadata
