import Jaull.Domain.Records
import Jaull.Lib.Ranges
import Jaull.Metadata.RangeReader
import Jaull.Text.Case
import Mathlib.Algebra.BigOperators.Ring.List

/-!
# Local tensor index

Port of `read_local_tensor_index` of `jaull/metadata/gguf_reader.py` and of `jaull/domain/gguf.py`. A local
file is what `open` and the two `fstat` calls give: its bytes, and its size and time stamp before and
after. Its header is read within a budget, so from no more than the first `maxHeaderDownloadBytes` bytes.
-/

namespace Jaull.Metadata
open Jaull.Domain Jaull.Lib Jaull.Text

/-- An artifact and where it lies here (Python `ModelArtifact`). -/
structure LocalArtifact extends ModelArtifact where
  localPath : Option String := none
  isDownloaded : Bool := false
  isVerified : Bool := false
  deriving DecidableEq, Repr

/-- What `fstat` says. -/
structure FileStat where
  size : ℕ
  mtimeNs : ℤ
  deriving DecidableEq, Repr

/-- What opening a file gives: its bytes, and its state before and after they were read. -/
structure LocalFile where
  content : List UInt8
  before : FileStat
  after : FileStat
  deriving DecidableEq, Repr

/-- Python `GgufTensor`. -/
structure GgufTensor where
  name : String
  dimensions : List ℕ
  typeId : ℕ
  offset : ℕ
  sizeBytes : ℕ
  deriving DecidableEq, Repr

/-- Stored tensor bytes, not device allocations (Python `GgufTensorIndex`). -/
structure GgufTensorIndex where
  artifact : LocalArtifact
  architecture : Option String
  blockCount : Option ℤ
  alignment : ℕ
  dataOffset : ℕ
  fileSizeBytes : ℕ
  tensors : List GgufTensor
  deriving DecidableEq, Repr

/-- Why no index is made. A `cut` is a field that ends after the file or after the read budget, for which
the source raises different exceptions; `unreadable` is an `OSError`. -/
inductive TensorIndexError
  | unverified
  | unreadable
  | sizeDiffers
  | notGguf
  | cut
  | header (error : GgufHeaderInvalidError)
  | tensorCount
  | multipart
  | alignment
  | tensorName
  | dimensionCount
  | dimensions
  | tensorType (typeId : ℕ)
  | rowAlignment
  | overlap
  | beyondFile
  | changed
  deriving DecidableEq, Repr

/-- The message of a refusal, where it has one of its own. -/
def TensorIndexError.text? : TensorIndexError → Option String
  | .unverified => some "A verified local GGUF artifact is required."
  | .unreadable => none
  | .sizeDiffers => some "Local GGUF size differs from artifact identity."
  | .notGguf => some "Local file is not GGUF."
  | .cut => none
  | .header error => some error.text
  | .tensorCount => some "Invalid GGUF tensor count."
  | .multipart => some "Multipart GGUF tensor inspection is unsupported."
  | .alignment => some "Invalid GGUF alignment."
  | .tensorName => some "Empty or duplicate tensor name."
  | .dimensionCount => some "Invalid tensor dimension count."
  | .dimensions => some "Invalid tensor dimensions or offset alignment."
  | .tensorType typeId => some ("Unsupported GGML tensor type " ++ toString typeId ++ ".")
  | .rowAlignment => some "Tensor row is not quantization-block aligned."
  | .overlap => some "Overlapping tensor payloads."
  | .beyondFile => some "Tensor payload extends beyond the file."
  | .changed => some "GGUF changed during tensor inspection."

/-- A reader of a local header. -/
abbrev LocalReader (α : Type) : Type :=
  Reader Unit TensorIndexError α

/-- A reader of the header, in a local file. -/
def field {κ α : Type} (reader : Reader κ GgufHeaderInvalidError α) : LocalReader α :=
  (reader.onCut fun _ => ()).onInvalid .header

/-- Elements in a quantization block and the bytes it is stored in (Python `_TENSOR_BLOCK_LAYOUTS`). -/
def tensorBlockLayout? : ℕ → Option (ℕ × ℕ)
  | 0 => some (1, 4)
  | 1 => some (1, 2)
  | 2 => some (32, 18)
  | 3 => some (32, 20)
  | 6 => some (32, 22)
  | 7 => some (32, 24)
  | 8 => some (32, 34)
  | 10 => some (256, 84)
  | 11 => some (256, 110)
  | 12 => some (256, 144)
  | 13 => some (256, 176)
  | 14 => some (256, 210)
  | 15 => some (256, 292)
  | _ => none

/-- Python `value == 1`; a float keeps its bytes. -/
def equalsOne : GgufValue → Bool
  | .int n => n = 1
  | .bool b => b
  | .float bytes => bytes = [0, 0, 0x80, 0x3f] ∨ bytes = [0, 0, 0, 0, 0, 0, 0xf0, 0x3f]
  | .string _ | .array _ => false

/-- Python `value == 0`; zero has two signs. -/
def equalsZero : GgufValue → Bool
  | .int n => n = 0
  | .bool b => !b
  | .float bytes => bytes.dropLast.all (· = 0) && (bytes.getLast? = some 0 || bytes.getLast? = some 0x80)
  | .string _ | .array _ => false

/-- The file is one of several. -/
def isMultipart (entries : GgufEntries) : Bool :=
  (entries.get "split.count").any (!equalsOne ·) || (entries.get "split.no").any (!equalsZero ·)

/-- The alignment of the payloads, when it is a power of two of at most 4096. -/
def tensorAlignment? (entries : GgufEntries) : Option ℕ :=
  match entries.get "general.alignment" with
  | none => some 32
  | some (.int n) =>
    if n ≤ 0 ∨ 4096 < n ∨ n.toNat &&& (n.toNat - 1) ≠ 0 then none else some n.toNat
  | some _ => none

/-- The descriptor of one tensor, after those with the given names. -/
def readTensor (alignment : ℕ) (names : List String) : LocalReader GgufTensor := do
  let name ← field readString
  if name = "" ∨ name ∈ names then Reader.fail .tensorName
  else do
    let dimensionsCount ← field readU32
    if dimensionsCount < 1 ∨ 4 < dimensionsCount then Reader.fail .dimensionCount
    else do
      let dimensions ← (field readU64).times dimensionsCount
      let typeId ← field readU32
      let offset ← field readU64
      if dimensions.any (· = 0) ∨ offset % alignment ≠ 0 then Reader.fail .dimensions
      else
        match tensorBlockLayout? typeId with
        | none => Reader.fail (.tensorType typeId)
        | some (elements, size) =>
          if dimensions.headD 0 % elements ≠ 0 then Reader.fail .rowAlignment
          else
            pure
              { name := name
                dimensions := dimensions
                typeId := typeId
                offset := offset
                sizeBytes := dimensions.prod / elements * size }

/-- The loop over the descriptors, after `tensors`. -/
def readTensors (alignment : ℕ) : ℕ → List GgufTensor → LocalReader (List GgufTensor)
  | 0, tensors => pure tensors
  | count + 1, tensors => do
    let tensor ← readTensor alignment (tensors.map (·.name))
    readTensors alignment count (tensors ++ [tensor])

/-- What the header of a local file says. -/
structure LocalHeader where
  metadata : GgufEntries
  alignment : ℕ
  tensors : List GgufTensor

/-- The magic, the metadata and the descriptors of a local file. -/
def readLocalHeader : LocalReader LocalHeader := do
  let start ← field (read 4)
  if start ≠ magic then Reader.fail .notGguf
  else do
    let (count, metadata) ← field readMetadata
    if ¬ (0 < count ∧ count ≤ 100000) then Reader.fail .tensorCount
    else if isMultipart metadata then Reader.fail .multipart
    else
      match tensorAlignment? metadata with
      | none => Reader.fail .alignment
      | some alignment => do
        let tensors ← readTensors alignment count []
        return ⟨metadata, alignment, tensors⟩

/-- The loop over the payloads, in the order of their offsets. -/
def checkPayloads (dataOffset fileSize : ℕ) : ℕ → List GgufTensor → Except TensorIndexError Unit
  | _, [] => .ok ()
  | previousEnd, tensor :: rest =>
    if tensor.offset < previousEnd then .error .overlap
    else if fileSize < dataOffset + (tensor.offset + tensor.sizeBytes) then .error .beyondFile
    else checkPayloads dataOffset fileSize (tensor.offset + tensor.sizeBytes) rest

/-- The `block_count` of the architecture, when it is positive. -/
def tensorBlockCount (metadata : GgufEntries) (architecture : Option String) : Option ℤ :=
  ((metadata.get (architecture.getD "None" ++ ".block_count")).bind GgufValue.int?).filter (0 < ·)

/-- The index of an opened file. -/
def indexOf (artifact : LocalArtifact) (file : LocalFile) : Except TensorIndexError GgufTensorIndex :=
  if artifact.sizeBytes.any (· ≠ (file.before.size : ℤ)) then .error .sizeDiffers
  else
    match readLocalHeader ⟨0, file.content.take maxHeaderDownloadBytes⟩ with
    | .incomplete _ => .error .cut
    | .invalid error => .error error
    | .ok header after =>
      let dataOffset := (after.offset + header.alignment - 1) / header.alignment * header.alignment
      match checkPayloads dataOffset file.before.size 0 (sortedBy (·.offset) header.tensors) with
      | .error error => .error error
      | .ok () =>
        if file.before ≠ file.after then .error .changed
        else
          let architecture := (buildHeader header.metadata true).architecture
          .ok
            { artifact := artifact
              architecture := architecture
              blockCount := tensorBlockCount header.metadata architecture
              alignment := header.alignment
              dataOffset := dataOffset
              fileSizeBytes := file.before.size
              tensors := header.tensors }

/-- Python `read_local_tensor_index`. -/
def readLocalTensorIndex (openFile : String → Option LocalFile) (artifact : LocalArtifact) :
    Except TensorIndexError GgufTensorIndex :=
  if lower artifact.format ≠ "gguf" ∨ artifact.localPath = none ∨ !artifact.isDownloaded ∨
      !artifact.isVerified then .error .unverified
  else
    match artifact.localPath.bind openFile with
    | none => .error .unreadable
    | some file => indexOf artifact file

/-- The numbers of the bytes that hold a tensor. -/
def GgufTensorIndex.payload (index : GgufTensorIndex) : GgufTensor → Set ℕ :=
  covered (fun tensor => index.dataOffset + tensor.offset) (·.sizeBytes)

/-- The tensor count in the header of a file. -/
def headerTensorCount (content : List UInt8) : ℕ :=
  unsigned ((content.drop 8).take 8)

/-- What an index says of a file whose descriptors end at `headerEnd` can be relied on. -/
structure GgufTensorIndex.LaidOut (index : GgufTensorIndex) (file : LocalFile) (headerEnd : ℕ) :
    Prop where
  distinct : (index.tensors.map (·.name)).Nodup
  dataSection : headerEnd ≤ index.dataOffset
  aligned : ∀ tensor ∈ index.tensors, index.alignment ∣ tensor.offset ∧
    index.alignment ∣ index.dataOffset + tensor.offset
  stored : ∀ tensor ∈ index.tensors, 0 < tensor.sizeBytes
  inside : ∀ tensor ∈ index.tensors, index.dataOffset + tensor.offset + tensor.sizeBytes ≤ file.before.size
  disjoint : index.tensors.Pairwise fun tensor other =>
    Disjoint (index.payload tensor) (index.payload other)
  count : index.tensors.length = headerTensorCount file.content

section Reading
open Reader

variable {alignment : ℕ} {cursor after : Cursor}

/-- Naming a field changes no value. -/
lemma field_eq_ok {κ α : Type} {reader : Reader κ GgufHeaderInvalidError α} {value : α}
    (eq : field reader cursor = .ok value after) : reader cursor = .ok value after :=
  onCut_eq_ok (onInvalid_eq_ok eq)

/-- What the checks of a descriptor say of its tensor. -/
structure GgufTensor.Checked (tensor : GgufTensor) (alignment : ℕ) (names : List String) : Prop where
  fresh : tensor.name ∉ names
  aligned : alignment ∣ tensor.offset
  stored : 0 < tensor.sizeBytes

/-- Block sizes are positive. -/
lemma tensorBlockLayout?_pos {typeId elements size : ℕ}
    (layout : tensorBlockLayout? typeId = some (elements, size)) : 0 < elements ∧ 0 < size := by
  unfold tensorBlockLayout? at layout
  split at layout <;> cases layout <;> decide

/-- Whole rows of blocks hold at least one block. -/
lemma sizeBytes_pos {dimensions : List ℕ} {elements size : ℕ} (nonempty : dimensions ≠ [])
    (positive : ∀ d ∈ dimensions, d ≠ 0) (row : dimensions.headD 0 % elements = 0)
    (elementsPos : 0 < elements) (sizePos : 0 < size) : 0 < dimensions.prod / elements * size := by
  cases dimensions with
  | nil => exact absurd rfl nonempty
  | cons d rest =>
    have whole : elements ∣ (d :: rest).prod := by
      rw [List.prod_cons]
      exact (Nat.dvd_of_mod_eq_zero row).mul_right rest.prod
    have prodPos : 0 < (d :: rest).prod :=
      Nat.pos_of_ne_zero (List.prod_ne_zero fun mem => positive 0 mem rfl)
    exact Nat.mul_pos (Nat.div_pos (Nat.le_of_dvd prodPos whole) elementsPos) sizePos

/-- A tensor that is read passed its checks. -/
lemma readTensor_checked {names : List String} {tensor : GgufTensor}
    (eq : readTensor alignment names cursor = .ok tensor after) : tensor.Checked alignment names := by
  obtain ⟨name, _, _, eq⟩ := bind_eq_ok eq
  obtain ⟨named, eq⟩ := ite_fail_eq_ok eq
  obtain ⟨dimensionsCount, _, _, eq⟩ := bind_eq_ok eq
  obtain ⟨counted, eq⟩ := ite_fail_eq_ok eq
  obtain ⟨dimensions, _, eqDimensions, eq⟩ := bind_eq_ok eq
  obtain ⟨typeId, _, _, eq⟩ := bind_eq_ok eq
  obtain ⟨offset, _, _, eq⟩ := bind_eq_ok eq
  obtain ⟨sized, eq⟩ := ite_fail_eq_ok eq
  rw [not_or] at named sized counted
  cases layout : tensorBlockLayout? typeId with
  | none =>
    rw [layout] at eq
    cases eq
  | some blocks =>
    rw [layout] at eq
    obtain ⟨elements, size⟩ := blocks
    obtain ⟨row, eq⟩ := ite_fail_eq_ok eq
    cases eq
    have nonempty : dimensions ≠ [] := by
      intro empty
      have len := length_of_times eqDimensions
      rw [empty, List.length_nil] at len
      exact counted.1 (by rw [← len]; exact Nat.zero_lt_one)
    have positive : ∀ d ∈ dimensions, d ≠ 0 := by
      intro d mem zero
      exact sized.1 (List.any_eq_true.mpr ⟨d, mem, decide_eq_true zero⟩)
    obtain ⟨elementsPos, sizePos⟩ := tensorBlockLayout?_pos layout
    exact
      { fresh := named.2
        aligned := Nat.dvd_of_mod_eq_zero (not_not.mp sized.2)
        stored := sizeBytes_pos nonempty positive (not_not.mp row) elementsPos sizePos }

/-- The loop keeps the names apart and adds `count` checked tensors. -/
lemma readTensors_checked {count : ℕ} {tensors all : List GgufTensor}
    (distinct : (tensors.map (·.name)).Nodup)
    (checked : ∀ tensor ∈ tensors, alignment ∣ tensor.offset ∧ 0 < tensor.sizeBytes)
    (eq : readTensors alignment count tensors cursor = .ok all after) :
    (all.map (·.name)).Nodup ∧
      (∀ tensor ∈ all, alignment ∣ tensor.offset ∧ 0 < tensor.sizeBytes) ∧
      all.length = tensors.length + count := by
  induction count generalizing tensors cursor with
  | zero =>
    cases eq
    exact ⟨distinct, checked, rfl⟩
  | succ count ih =>
    obtain ⟨tensor, middle, one, eq⟩ := bind_eq_ok eq
    have added := readTensor_checked one
    have distinct' : ((tensors ++ [tensor]).map (·.name)).Nodup := by
      rw [List.map_append, List.nodup_append]
      refine ⟨distinct, List.nodup_singleton _, ?_⟩
      intro name mem other mem' same
      rw [List.map_singleton, List.mem_singleton] at mem'
      rw [same, mem'] at mem
      exact added.fresh mem
    have checked' : ∀ other ∈ tensors ++ [tensor], alignment ∣ other.offset ∧ 0 < other.sizeBytes := by
      intro other mem
      rcases List.mem_append.mp mem with earlier | last
      · exact checked other earlier
      · cases List.mem_singleton.mp last
        exact ⟨added.aligned, added.stored⟩
    obtain ⟨names, all, len⟩ := ih distinct' checked' eq
    refine ⟨names, all, ?_⟩
    rw [len, List.length_append, List.length_singleton]
    omega

/-- An accepted alignment is positive. -/
lemma tensorAlignment?_pos {metadata : GgufEntries} (eq : tensorAlignment? metadata = some alignment) :
    0 < alignment := by
  rw [tensorAlignment?] at eq
  split at eq
  · cases eq
    decide
  · rename_i n _
    split at eq
    · cases eq
    · rename_i allowed
      cases eq
      rw [not_or, not_le] at allowed
      omega
  · cases eq

/-- The metadata's count is that of the file's words. -/
lemma readMetadata_count {count : ℕ} {entries : GgufEntries}
    (eq : readMetadata cursor = .ok (count, entries) after) :
    12 ≤ cursor.rest.length ∧ count = unsigned ((cursor.rest.drop 4).take 8) := by
  obtain ⟨version, middle, eqVersion, eq⟩ := bind_eq_ok eq
  obtain ⟨_, eq⟩ := ite_fail_eq_ok eq
  obtain ⟨tensors, last, eqTensors, eq⟩ := bind_eq_ok eq
  obtain ⟨kvs, _, _, eq⟩ := bind_eq_ok eq
  obtain ⟨_, eq⟩ := ite_fail_eq_ok eq
  obtain ⟨_, _, _, eq⟩ := bind_eq_ok eq
  cases eq
  obtain ⟨raw, _, eqRaw, eqVersion⟩ := bind_eq_ok (onCut_eq_ok eqVersion)
  obtain ⟨rawCount, _, eqRawCount, eqTensors⟩ := bind_eq_ok (onCut_eq_ok eqTensors)
  cases eqVersion
  cases eqTensors
  obtain ⟨_, _, rfl⟩ := bytes_eq_ok eqRaw
  obtain ⟨enough, rfl, _⟩ := bytes_eq_ok eqRawCount
  rw [List.length_drop] at enough
  exact ⟨by omega, rfl⟩

/-- What a local header that was read says. -/
lemma readLocalHeader_checked {header : LocalHeader} {content : List UInt8}
    (eq : readLocalHeader ⟨0, content.take maxHeaderDownloadBytes⟩ = .ok header after) :
    0 < header.alignment ∧ (header.tensors.map (·.name)).Nodup ∧
      (∀ tensor ∈ header.tensors, header.alignment ∣ tensor.offset ∧ 0 < tensor.sizeBytes) ∧
      header.tensors.length = headerTensorCount content := by
  obtain ⟨start, middle, eqStart, eq⟩ := bind_eq_ok eq
  obtain ⟨_, eq⟩ := ite_fail_eq_ok eq
  obtain ⟨⟨count, metadata⟩, last, eqMetadata, eq⟩ := bind_eq_ok eq
  obtain ⟨_, eq⟩ := ite_fail_eq_ok eq
  obtain ⟨_, body⟩ := ite_fail_eq_ok eq
  obtain ⟨_, _, rfl⟩ := bytes_eq_ok (field_eq_ok eqStart)
  obtain ⟨enough, counted⟩ := readMetadata_count (field_eq_ok eqMetadata)
  cases aligned : tensorAlignment? metadata with
  | none =>
    rw [aligned] at body
    cases body
  | some alignment =>
    rw [aligned] at body
    obtain ⟨tensors, _, eqTensors, done⟩ := bind_eq_ok body
    cases done
    have start : ∀ tensor ∈ ([] : List GgufTensor), alignment ∣ tensor.offset ∧ 0 < tensor.sizeBytes := by
      intro tensor mem
      cases mem
    obtain ⟨names, all, len⟩ := @readTensors_checked _ _ _ _ [] _ List.nodup_nil start eqTensors
    refine ⟨tensorAlignment?_pos aligned, names, all, ?_⟩
    rw [len, List.length_nil, Nat.zero_add, counted, headerTensorCount]
    have budget : 16 ≤ maxHeaderDownloadBytes := by decide
    dsimp only at enough ⊢
    rw [List.drop_drop, List.drop_take, List.take_take, Nat.min_eq_left (by omega)]

end Reading

section Payloads
variable {dataOffset fileSize previousEnd : ℕ} {tensors : List GgufTensor}

/-- The payload check accepts packed payloads that end inside the file. -/
lemma checkPayloads_eq_ok_iff :
    checkPayloads dataOffset fileSize previousEnd tensors = .ok () ↔
      PackedFrom (·.offset) (·.sizeBytes) previousEnd tensors ∧
        ∀ tensor ∈ tensors, dataOffset + (tensor.offset + tensor.sizeBytes) ≤ fileSize := by
  induction tensors generalizing previousEnd with
  | nil => simp [checkPayloads, PackedFrom]
  | cons tensor rest ih =>
    rw [checkPayloads, PackedFrom, List.forall_mem_cons]
    by_cases overlap : tensor.offset < previousEnd
    · rw [if_pos overlap]
      constructor
      · intro refused
        cases refused
      · rintro ⟨⟨le, _⟩, _⟩
        exact absurd overlap (not_lt.mpr le)
    · rw [if_neg overlap]
      by_cases beyond : fileSize < dataOffset + (tensor.offset + tensor.sizeBytes)
      · rw [if_pos beyond]
        constructor
        · intro refused
          cases refused
        · rintro ⟨_, within, _⟩
          exact absurd beyond (not_lt.mpr within)
      · rw [if_neg beyond, ih]
        constructor
        · rintro ⟨packed, within⟩
          exact ⟨⟨not_lt.mp overlap, packed⟩, not_lt.mp beyond, within⟩
        · rintro ⟨⟨_, packed⟩, _, within⟩
          exact ⟨packed, within⟩

/-- One pass over stored tensors in the order of their offsets accepts exactly those that share no byte and
end within the file. -/
theorem checkPayloads_sortedBy_eq_ok_iff (stored : ∀ tensor ∈ tensors, 0 < tensor.sizeBytes) :
    checkPayloads dataOffset fileSize 0 (sortedBy (·.offset) tensors) = .ok () ↔
      (tensors.Pairwise fun tensor other => Disjoint (covered (·.offset) (·.sizeBytes) tensor)
        (covered (·.offset) (·.sizeBytes) other)) ∧
      ∀ tensor ∈ tensors, dataOffset + (tensor.offset + tensor.sizeBytes) ≤ fileSize := by
  rw [checkPayloads_eq_ok_iff, packedFrom_sortedBy_iff stored]
  simp only [mem_sortedBy]

end Payloads

section Index
variable {artifact : LocalArtifact} {file : LocalFile} {index : GgufTensorIndex}

/-- An index that is built lays the file out. -/
lemma indexOf_laidOut (ok : indexOf artifact file = .ok index) :
    ∃ header after, readLocalHeader ⟨0, file.content.take maxHeaderDownloadBytes⟩ = .ok header after ∧
      index.alignment = header.alignment ∧ index.LaidOut file after.offset := by
  rw [indexOf] at ok
  split at ok
  · cases ok
  · split at ok
    · cases ok
    · cases ok
    · rename_i header after eq
      obtain ⟨positive, distinct, checked, count⟩ := readLocalHeader_checked eq
      dsimp only at ok
      split at ok
      · cases ok
      · rename_i accepted
        split at ok
        · cases ok
        · cases ok
          have stored : ∀ tensor ∈ header.tensors, 0 < tensor.sizeBytes :=
            fun tensor mem => (checked tensor mem).2
          -- the payloads are packed in the order of their offsets, so they are apart in any order
          obtain ⟨disjoint, within⟩ := (checkPayloads_sortedBy_eq_ok_iff stored).mp accepted
          refine ⟨header, after, eq, rfl, ?_⟩
          exact
            { distinct := distinct
              dataSection := by
                have rounded := Nat.lt_div_mul_add (a := after.offset + header.alignment - 1) positive
                dsimp only
                omega
              aligned := by
                intro tensor mem
                have inside := (checked tensor mem).1
                exact ⟨inside, (Nat.dvd_mul_left _ _).add inside⟩
              stored := stored
              inside := by
                intro tensor mem
                rw [Nat.add_assoc]
                exact within tensor mem
              disjoint := disjoint.imp (disjoint_covered_shift _)
              count := count }

end Index

/-- The index of an accepted file can be relied on: the names are distinct, every payload is aligned, lies
in the data section and ends within the file, no two share a byte, and there are as many as the header
says. -/
theorem readLocalTensorIndex_laidOut {openFile : String → Option LocalFile} {artifact : LocalArtifact}
    {index : GgufTensorIndex} (ok : readLocalTensorIndex openFile artifact = .ok index) :
    ∃ path file header after, artifact.localPath = some path ∧ openFile path = some file ∧
      readLocalHeader ⟨0, file.content.take maxHeaderDownloadBytes⟩ = .ok header after ∧
      index.alignment = header.alignment ∧ index.LaidOut file after.offset := by
  rw [readLocalTensorIndex] at ok
  split at ok
  · cases ok
  · split at ok
    · cases ok
    · rename_i file opened
      obtain ⟨path, located, eq⟩ := Option.bind_eq_some_iff.mp opened
      obtain ⟨header, after, read, alignment, laidOut⟩ := indexOf_laidOut ok
      exact ⟨path, file, header, after, located, eq, read, alignment, laidOut⟩

/-- A GGUF v3 file of 32 weights in `Q4_0` and two in full precision, the later payload listed first. -/
def pairedFile : LocalFile :=
  let descriptors := magic ++ littleEndian 4 3 ++ littleEndian 8 2 ++ littleEndian 8 0 ++
    writeText "w" ++ littleEndian 4 1 ++ littleEndian 8 32 ++ littleEndian 4 2 ++ littleEndian 8 32 ++
    writeText "b" ++ littleEndian 4 1 ++ littleEndian 8 2 ++ littleEndian 4 0 ++ littleEndian 8 0
  { content := descriptors ++ List.replicate 56 0
    before := ⟨146, 0⟩
    after := ⟨146, 0⟩ }

/-- A verified artifact. -/
def verifiedArtifact : LocalArtifact where
  repoId := "a/b"
  revision := "main"
  filename := "w.gguf"
  format := "gguf"
  localPath := some "w.gguf"
  isDownloaded := true
  isVerified := true

/-- `readLocalTensorIndex_laidOut` on the file of two tensors. -/
theorem readLocalTensorIndex_laidOut_paired :
    ∃ index, readLocalTensorIndex (fun _ => some pairedFile) verifiedArtifact = .ok index ∧
      index.tensors.map (·.name) = ["w", "b"] ∧
      ∃ path file header after, verifiedArtifact.localPath = some path ∧
        (fun _ => some pairedFile) path = some file ∧
        readLocalHeader ⟨0, file.content.take maxHeaderDownloadBytes⟩ = .ok header after ∧
        index.alignment = header.alignment ∧ index.LaidOut file after.offset := by
  have ok : readLocalTensorIndex (fun _ => some pairedFile) verifiedArtifact =
      .ok
        { artifact := verifiedArtifact
          architecture := none
          blockCount := none
          alignment := 32
          dataOffset := 96
          fileSizeBytes := 146
          tensors := [⟨"w", [32], 2, 32, 18⟩, ⟨"b", [2], 0, 0, 8⟩] } := by
    decide +kernel
  exact ⟨_, ok, rfl, readLocalTensorIndex_laidOut ok⟩

end Jaull.Metadata
