import Jaull.Domain.Enrichment
import Jaull.Lib.Reader
import Jaull.Text.Utf8
import Mathlib.Algebra.Group.Int.Defs
import Mathlib.Algebra.Group.Nat.Defs

/-!
# GGUF metadata reader

Port of `jaull/metadata/gguf_reader.py`: the key/value block of a GGUF v2/v3 file, read from as many
leading bytes as there are. Every reader is stable, so what `parseHeader` decides on some bytes it
decides on every continuation of them (`parseHeader_append`).
-/

namespace Jaull.Metadata
open Jaull.Domain Jaull.Lib Jaull.Text

/-- Structural inconsistencies (Python `GgufHeaderInvalidError`). -/
inductive GgufHeaderInvalidError
  | stringLength (length : ℕ)
  | notUtf8 (reason : String)
  | unsupportedVersion (version : ℕ)
  | kvCount (count : ℕ)
  | valueType (typeId : ℕ)
  | nesting
  | arrayLength (count : ℕ)
  | elementType (typeId : ℕ)
  deriving DecidableEq, Repr

/-- The message of an inconsistency. -/
def GgufHeaderInvalidError.text : GgufHeaderInvalidError → String
  | .stringLength length => "String length " ++ toString length ++ " looks malformed."
  | .notUtf8 reason => "Non-UTF-8 GGUF string: " ++ reason
  | .unsupportedVersion version => "Unsupported GGUF version: " ++ toString version
  | .kvCount count => "Metadata KV count " ++ toString count ++ " is implausible."
  | .valueType typeId => "Unknown GGUF value type: " ++ toString typeId
  | .nesting => "GGUF array nesting exceeds the parser limit."
  | .arrayLength count => "Array length " ++ toString count ++ " is implausible."
  | .elementType typeId => "Unknown GGUF array element type: " ++ toString typeId

/-- A reader of one field. A cut is the message of Python's `GgufHeaderIncompleteError`. -/
abbrev FieldReader (α : Type) : Type :=
  Reader String GgufHeaderInvalidError α

/-- A little-endian unsigned integer. -/
def unsigned (raw : List UInt8) : ℕ :=
  raw.foldr (fun b value => b.toNat + 256 * value) 0

/-- A little-endian integer in two's complement. -/
def signed (raw : List UInt8) : ℤ :=
  if 2 * unsigned raw < 256 ^ raw.length then unsigned raw
  else (unsigned raw : ℤ) - 256 ^ raw.length

/-- Python `_Cursor._read`. -/
def read (n : ℕ) : FieldReader (List UInt8) :=
  Reader.bytes (fun offset n =>
    "Incomplete GGUF field at offset " ++ toString offset ++ "; need " ++ toString n ++ " bytes.") n

/-- Python `_Cursor.read_u32`. -/
def readU32 : FieldReader ℕ :=
  unsigned <$> read 4

/-- Python `_Cursor.read_u64`. -/
def readU64 : FieldReader ℕ :=
  unsigned <$> read 8

/-- The text some bytes encode. -/
def decodeString (raw : List UInt8) : FieldReader String :=
  match decodeUtf8 raw with
  | .ok text => pure text
  | .error reason => Reader.fail (.notUtf8 reason)

/-- Python `_Cursor.read_string`. -/
def readString : FieldReader String := do
  let length ← readU64
  if 1000000 < length then Reader.fail (.stringLength length)
  else do
    let raw ← read length
    decodeString raw

/-- Layouts of the values of fixed size. -/
inductive FixedFormat
  | unsigned (size : ℕ)
  | signed (size : ℕ)
  | float (size : ℕ)
  | bool
  deriving DecidableEq, Repr

/-- Python `_FIXED_FORMATS`. -/
def fixedFormat? : ℕ → Option FixedFormat
  | 0 => some (.unsigned 1)
  | 1 => some (.signed 1)
  | 2 => some (.unsigned 2)
  | 3 => some (.signed 2)
  | 4 => some (.unsigned 4)
  | 5 => some (.signed 4)
  | 6 => some (.float 4)
  | 7 => some .bool
  | 10 => some (.unsigned 8)
  | 11 => some (.signed 8)
  | 12 => some (.float 8)
  | _ => none

/-- Python `_Cursor.read_fixed`. -/
def readFixed : FixedFormat → FieldReader GgufValue
  | .unsigned size => (fun raw => .int (unsigned raw)) <$> read size
  | .signed size => (fun raw => .int (signed raw)) <$> read size
  | .float size => .float <$> read size
  | .bool => (fun raw => .bool (unsigned raw ≠ 0)) <$> read 1

/-- One value of a type whose arrays `array` reads; `unknown` is the error of a type that does not
exist. -/
def readTyped (array : FieldReader (List GgufValue)) (unknown : ℕ → GgufHeaderInvalidError)
    (typeId : ℕ) : FieldReader GgufValue :=
  if typeId = 8 then .string <$> readString
  else if typeId = 9 then .array <$> array
  else
    match fixedFormat? typeId with
    | some format => readFixed format
    | none => Reader.fail (unknown typeId)

/-- Python `_read_array` at a depth that leaves `levels` levels of nesting. -/
def readArray : ℕ → FieldReader (List GgufValue)
  | 0 => Reader.fail .nesting
  | levels + 1 => do
    let innerType ← readU32
    let count ← readU64
    if 10000000 < count then Reader.fail (.arrayLength count)
    else (readTyped (readArray levels) .elementType innerType).times count

/-- Python `_read_value`. Depths run from 0 to 32. -/
def readValue : FieldReader GgufValue := do
  let typeId ← readU32
  readTyped (readArray 33) .valueType typeId

/-- Where the metadata block was cut: the entries that were in, and the key whose value was being
read. -/
structure MetadataCut where
  text : String
  entries : GgufEntries := []
  reading : Option String := none

/-- A reader of the metadata block. -/
abbrev MetadataReader (α : Type) : Type :=
  Reader MetadataCut GgufHeaderInvalidError α

/-- The loop of Python `_read_metadata` after `entries`. A cut inside a key name is not a cut inside a
known value. -/
def readEntries : ℕ → GgufEntries → MetadataReader GgufEntries
  | 0, entries => pure entries
  | count + 1, entries => do
    let key ← readString.onCut fun text => ⟨text, entries, none⟩
    let value ← readValue.onCut fun text => ⟨text, entries, some key⟩
    readEntries count (entries ++ [(key, value)])

/-- Python `_read_metadata`: the tensor count and the entries. -/
def readMetadata : MetadataReader (ℕ × GgufEntries) := do
  let version ← readU32.onCut fun text => ⟨text, [], none⟩
  if version ≠ 2 ∧ version ≠ 3 then Reader.fail (.unsupportedVersion version)
  else do
    let tensorCount ← readU64.onCut fun text => ⟨text, [], none⟩
    let kvCount ← readU64.onCut fun text => ⟨text, [], none⟩
    if 100000 < kvCount then Reader.fail (.kvCount kvCount)
    else do
      let entries ← readEntries kvCount []
      return (tensorCount, entries)

/-- Python `_ESTIMATE_KEYS`. -/
def estimateKeys : List String :=
  ["context_length", "embedding_length", "block_count", "attention.head_count",
    "attention.head_count_kv"]

/-- The key of an architecture (the `arch_key` of Python `_build_header`). -/
def archKey (entries : GgufEntries) (architecture : Option String) (name : String) :
    Option GgufValue :=
  architecture.bind fun architecture => entries.get (architecture ++ "." ++ name)

/-- The architecture a table names. -/
def architecture? (entries : GgufEntries) : Option String :=
  (entries.get "general.architecture").bind GgufValue.str?

/-- Python `_has_estimate_keys`. -/
def hasEstimateKeys (entries : GgufEntries) : Bool :=
  (architecture? entries).isSome && estimateKeys.all fun name =>
    ((archKey entries (architecture? entries) name).bind GgufValue.int?).isSome

/-- Python `_cut_inside_tokenizer`. -/
def cutInsideTokenizer (reading : Option String) : Bool :=
  reading.any (·.startsWith "tokenizer.")

/-- Python `_build_header`. -/
def buildHeader (entries : GgufEntries) (complete : Bool) : GgufHeaderMetadata :=
  let architecture := architecture? entries
  let int (key : String) := (entries.get key).bind GgufValue.int?
  let str (key : String) := (entries.get key).bind GgufValue.str?
  let archInt (name : String) := (archKey entries architecture name).bind GgufValue.int?
  { architecture := architecture
    name := str "general.name"
    quantizationVersion := int "general.quantization_version"
    fileType := int "general.file_type"
    contextLength := archInt "context_length"
    embeddingLength := archInt "embedding_length"
    blockCount := archInt "block_count"
    headCount := archInt "attention.head_count"
    headCountKv := archInt "attention.head_count_kv"
    ropeDim := archInt "rope.dimension_count"
    sizeLabel := str "general.size_label"
    isComplete := complete
    sourceRepository := str "general.source.huggingface.repository"
    rawKv := entries }

/-- The bytes `GGUF`. -/
def magic : List UInt8 :=
  [0x47, 0x47, 0x55, 0x46]

/-- What `parse_header` returns or raises. -/
inductive Parsed
  | header (metadata : GgufHeaderMetadata)
  | notGguf
  | incomplete (text : String)
  | invalid (error : GgufHeaderInvalidError)

/-- Whether an answer is final: only the demand for more bytes and a partial header may be refined. -/
def Parsed.decided : Parsed → Bool
  | .header metadata => metadata.isComplete
  | .notGguf => true
  | .incomplete _ => false
  | .invalid _ => true

/-- The header an answer carries. -/
def Parsed.header? : Parsed → Option GgufHeaderMetadata
  | .header metadata => some metadata
  | _ => none

/-- A header that was parsed. -/
lemma Parsed.eq_header {parsed : Parsed} (some : parsed.header?.isSome) :
    parsed = .header (parsed.header?.getD {}) := by
  cases parsed with
  | header metadata => rfl
  | _ => cases some

/-- Python `parse_header`. -/
def parseHeader (data : List UInt8) : Parsed :=
  if data.length < 4 then .incomplete "Not enough bytes for magic."
  else if data.take 4 ≠ magic then .notGguf
  else
    match readMetadata ⟨4, data.drop 4⟩ with
    | .ok (_, entries) _ => .header (buildHeader entries true)
    | .invalid error => .invalid error
    | .incomplete cut =>
      if cutInsideTokenizer cut.reading && hasEstimateKeys cut.entries then
        .header (buildHeader cut.entries false)
      else .incomplete cut.text

/-- The length of the magic and the metadata block of a file, when the block can be read. -/
def metadataLength (file : List UInt8) : Option ℕ :=
  if file.take 4 = magic then
    match readMetadata ⟨4, file.drop 4⟩ with
    | .ok _ after => some after.offset
    | _ => none
  else none

/-- `n` in `size` little-endian bytes. -/
def littleEndian : ℕ → ℕ → List UInt8
  | 0, _ => []
  | size + 1, n => UInt8.ofNat n :: littleEndian size (n / 256)

/-- An ASCII text as a GGUF string. -/
def writeText (text : String) : List UInt8 :=
  littleEndian 8 text.length ++ text.toList.map fun c => UInt8.ofNat c.toNat

/-- An entry whose value is an ASCII text. -/
def writeTextEntry (key text : String) : List UInt8 :=
  writeText key ++ littleEndian 4 8 ++ writeText text

/-- An entry whose value is an unsigned 64-bit integer. -/
def writeIntEntry (key : String) (n : ℕ) : List UInt8 :=
  writeText key ++ littleEndian 4 10 ++ littleEndian 8 n

/-- An entry whose value is a list of ASCII texts. -/
def writeTextsEntry (key : String) (texts : List String) : List UInt8 :=
  writeText key ++ littleEndian 4 9 ++ littleEndian 4 8 ++ littleEndian 8 texts.length ++
    texts.flatMap writeText

/-- A GGUF v3 file of these entries and no tensors. -/
def writeFile (entries : List (List UInt8)) : List UInt8 :=
  magic ++ littleEndian 4 3 ++ littleEndian 8 0 ++ littleEndian 8 entries.length ++ entries.flatten

section Stability
open Reader

/-- Reading bytes is stable. -/
lemma stable_read (n : ℕ) : Stable (read n) :=
  stable_bytes _ n

lemma stable_readU32 : Stable readU32 :=
  (stable_read 4).map unsigned

lemma stable_readU64 : Stable readU64 :=
  (stable_read 8).map unsigned

/-- So is decoding. -/
lemma stable_decodeString (raw : List UInt8) : Stable (decodeString raw) := by
  rw [decodeString]
  cases decodeUtf8 raw with
  | ok text => exact stable_pure text
  | error reason => exact stable_fail _

/-- So is reading a text. -/
lemma stable_readString : Stable readString :=
  stable_readU64.bind fun length =>
    (stable_fail _).ite ((stable_read length).bind stable_decodeString)

/-- So is reading a value of fixed size. -/
lemma stable_readFixed (format : FixedFormat) : Stable (readFixed format) := by
  cases format with
  | unsigned size => exact (stable_read size).map _
  | signed size => exact (stable_read size).map _
  | float size => exact (stable_read size).map _
  | bool => exact (stable_read 1).map _

/-- So is reading a value by its type. -/
lemma stable_readTyped {array : FieldReader (List GgufValue)} (stable : Stable array) (unknown)
    (typeId : ℕ) : Stable (readTyped array unknown typeId) := by
  rw [readTyped]
  refine (stable_readString.map _).ite ((stable.map _).ite ?_)
  cases fixedFormat? typeId with
  | some format => exact stable_readFixed format
  | none => exact stable_fail _

/-- An array is stable at every depth. -/
lemma stable_readArray (levels : ℕ) : Stable (readArray levels) := by
  induction levels with
  | zero => exact stable_fail _
  | succ levels ih =>
    exact stable_readU32.bind fun innerType => stable_readU64.bind fun count =>
      (stable_fail _).ite ((stable_readTyped ih _ innerType).times count)

/-- So is reading a value. -/
lemma stable_readValue : Stable readValue :=
  stable_readU32.bind fun typeId => stable_readTyped (stable_readArray 33) _ typeId

/-- So is reading entries. -/
lemma stable_readEntries (count : ℕ) (entries : GgufEntries) :
    Stable (readEntries count entries) := by
  induction count generalizing entries with
  | zero => exact stable_pure entries
  | succ count ih =>
    exact (stable_readString.onCut _).bind fun key => (stable_readValue.onCut _).bind fun value =>
      ih (entries ++ [(key, value)])

/-- So is reading the metadata. -/
lemma stable_readMetadata : Stable readMetadata :=
  (stable_readU32.onCut _).bind fun _ => (stable_fail _).ite <|
    (stable_readU64.onCut _).bind fun _ => (stable_readU64.onCut _).bind fun kvCount =>
      (stable_fail _).ite <| (stable_readEntries kvCount []).bind fun _ => stable_pure _

/-- What is decided on some bytes is decided on every continuation of them. -/
lemma parseHeader_append {data : List UInt8} (decided : (parseHeader data).decided = true)
    (more : List UInt8) : parseHeader (data ++ more) = parseHeader data := by
  rw [parseHeader] at decided ⊢
  conv_rhs => rw [parseHeader]
  split at decided
  · cases decided
  · rename_i enough
    have take : (data ++ more).take 4 = data.take 4 :=
      List.take_append_of_le_length (Nat.le_of_not_lt enough)
    have drop : (data ++ more).drop 4 = data.drop 4 ++ more :=
      List.drop_append_of_le_length (Nat.le_of_not_lt enough)
    have enough' : ¬ (data ++ more).length < 4 := by
      rw [List.length_append]
      omega
    rw [if_neg enough, if_neg enough', take, drop]
    split at decided
    · rename_i foreign
      rw [if_pos foreign, if_pos foreign]
    · rename_i gguf
      rw [if_neg gguf, if_neg gguf]
      cases eq : readMetadata ⟨4, data.drop 4⟩ with
      | ok read after => rw [stable_readMetadata.append eq]
      | invalid error => rw [stable_readMetadata.invalid eq]
      | incomplete cut =>
        rw [eq] at decided
        dsimp only at decided
        split at decided <;> cases decided

/-- A file whose metadata block can be read has a header. -/
lemma exists_header_of_metadataLength {file : List UInt8} {n : ℕ}
    (len : metadataLength file = some n) : ∃ header, parseHeader file = .header header := by
  rw [metadataLength] at len
  split at len
  · rename_i gguf
    split at len
    · rename_i read after eq
      have enough : ¬ file.length < 4 := by
        have := congrArg List.length gguf
        simp only [List.length_take, magic, List.length_cons, List.length_nil] at this
        omega
      rw [parseHeader, if_neg enough, gguf, eq]
      exact ⟨_, rfl⟩
    · cases len
  · cases len

/-- A prefix that holds the metadata block parses like the whole file, to its end. -/
lemma parseHeader_take {file : List UInt8} {n m : ℕ} (len : metadataLength file = some n)
    (le : n ≤ m) :
    parseHeader (file.take m) = parseHeader file := by
  rw [metadataLength] at len
  split at len
  · rename_i gguf
    split at len
    · rename_i read after eq
      obtain ⟨tensors, entries⟩ := read
      obtain ⟨taken, split_, again⟩ := stable_readMetadata.ok eq
      have total := stable_readMetadata.offset eq
      have enough : ¬ file.length < 4 := by
        have := congrArg List.length gguf
        simp only [List.length_take, magic, List.length_cons, List.length_nil] at this
        omega
      cases Option.some.inj len
      have takes : taken.length + 4 ≤ m := by
        rw [split_, List.length_append] at total
        omega
      have take : (file.take m).take 4 = file.take 4 := by
        rw [List.take_take, Nat.min_eq_left (by omega)]
      have drop : (file.take m).drop 4 = taken ++ after.rest.take (m - 4 - taken.length) := by
        rw [List.drop_take, split_, List.take_append]
        rw [List.take_of_length_le (by omega)]
      have enough' : ¬ (file.take m).length < 4 := by
        rw [List.length_take]
        omega
      rw [parseHeader, parseHeader, if_neg enough, if_neg enough', take, drop, gguf, eq, again]
    · cases len
  · cases len

end Stability

section Cut
open Reader

/-- Entries are only added. -/
lemma readEntries_extends {count entries cursor all after}
    (eq : readEntries count entries cursor = .ok all after) : entries <+: all := by
  induction count generalizing entries cursor with
  | zero =>
    cases eq
    exact List.prefix_refl _
  | succ count ih =>
    obtain ⟨key, _, _, eq⟩ := bind_eq_ok eq
    obtain ⟨value, _, _, eq⟩ := bind_eq_ok eq
    exact (List.prefix_append entries _).trans (ih eq)

/-- What was in at a cut is what comes in first when the block is read to its end. -/
lemma readEntries_cut {count entries offset front cut more all after}
    (eq : readEntries count entries ⟨offset, front⟩ = .incomplete cut)
    (eq' : readEntries count entries ⟨offset, front ++ more⟩ = .ok all after) :
    cut.entries <+: all := by
  induction count generalizing entries offset front with
  | zero => cases eq
  | succ count ih =>
    have extends_ := readEntries_extends eq'
    obtain ⟨key', middle', eqK', eq'⟩ := bind_eq_ok eq'
    rcases bind_eq_incomplete eq with eqK | ⟨key, ⟨offset₁, front₁⟩, eqK, eq⟩
    · obtain ⟨_, _, rfl⟩ := onCut_eq_incomplete eqK
      exact extends_
    · have same := (stable_readString.onCut _).append eqK more
      rw [eqK'] at same
      cases same
      obtain ⟨value', middle', eqV', eq'⟩ := bind_eq_ok eq'
      rcases bind_eq_incomplete eq with eqV | ⟨value, ⟨offset₂, front₂⟩, eqV, eq⟩
      · obtain ⟨_, _, rfl⟩ := onCut_eq_incomplete eqV
        exact extends_
      · have same := (stable_readValue.onCut _).append eqV more
        rw [eqV'] at same
        cases same
        exact ih eq eq'

/-- The same of the whole block. -/
lemma readMetadata_cut {offset front cut more tensorCount all after}
    (eq : readMetadata ⟨offset, front⟩ = .incomplete cut)
    (eq' : readMetadata ⟨offset, front ++ more⟩ = .ok (tensorCount, all) after) :
    cut.entries <+: all := by
  obtain ⟨version', middle', eqV', eq'⟩ := bind_eq_ok eq'
  rcases bind_eq_incomplete eq with eqV | ⟨version, ⟨offset₁, front₁⟩, eqV, eq⟩
  · obtain ⟨_, _, rfl⟩ := onCut_eq_incomplete eqV
    exact List.nil_prefix
  · -- what was read before the cut is read alike with more behind it
    have same := (stable_readU32.onCut _).append eqV more
    rw [eqV'] at same
    cases same
    split at eq
    · cases eq
    · rename_i supported
      rw [if_neg supported] at eq'
      obtain ⟨tensors', middle', eqT', eq'⟩ := bind_eq_ok eq'
      rcases bind_eq_incomplete eq with eqT | ⟨tensors, ⟨offset₂, front₂⟩, eqT, eq⟩
      · obtain ⟨_, _, rfl⟩ := onCut_eq_incomplete eqT
        exact List.nil_prefix
      · have same := (stable_readU64.onCut _).append eqT more
        rw [eqT'] at same
        cases same
        obtain ⟨kvCount', middle', eqC', eq'⟩ := bind_eq_ok eq'
        rcases bind_eq_incomplete eq with eqC | ⟨kvCount, ⟨offset₃, front₃⟩, eqC, eq⟩
        · obtain ⟨_, _, rfl⟩ := onCut_eq_incomplete eqC
          exact List.nil_prefix
        · have same := (stable_readU64.onCut _).append eqC more
          rw [eqC'] at same
          cases same
          split at eq
          · cases eq
          · rename_i small
            rw [if_neg small] at eq'
            obtain ⟨all', middle', eqE', eq'⟩ := bind_eq_ok eq'
            cases eq'
            rcases bind_eq_incomplete eq with eqE | ⟨entries, middle, _, eq⟩
            · exact readEntries_cut eqE eqE'
            · cases eq

end Cut

end Jaull.Metadata
