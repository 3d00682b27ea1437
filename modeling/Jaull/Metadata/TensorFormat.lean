import Jaull.Metadata.GgufFormat
import Jaull.Metadata.TensorIndex

/-!
# The layout of a GGUF file

The descriptors behind the metadata block of a GGUF file, and where the payloads of its tensors lie. The local
index is made of exactly the files that are laid out so, and says of them what was written.
-/

namespace Jaull.Metadata
open Jaull.Domain Jaull.Lib Jaull.Lib.Reader Jaull.Text

section Languages

/-- What a descriptor can say of its tensor: it has a name, one to four dimensions, whole rows of blocks of a known
type, and its payload starts at a multiple of the alignment. -/
structure GgufTensor.Described (tensor : GgufTensor) (alignment : ℕ) : Prop where
  named : tensor.name ≠ ""
  dimensions : 1 ≤ tensor.dimensions.length ∧ tensor.dimensions.length ≤ 4
  positive : ∀ d ∈ tensor.dimensions, d ≠ 0
  aligned : tensor.offset % alignment = 0
  stored : ∃ elements size, tensorBlockLayout? tensor.typeId = some (elements, size) ∧
    tensor.dimensions.headD 0 % elements = 0 ∧ tensor.sizeBytes = tensor.dimensions.prod / elements * size

/-- A descriptor of a tensor. -/
def DescriptorField (alignment : ℕ) : ByteFormat GgufTensor :=
  fun raw tensor => tensor.Described alignment ∧ tensor.offset < 256 ^ 8 ∧ ∃ name dimensions,
    TextField name tensor.name ∧ (Word 8).times tensor.dimensions.length dimensions tensor.dimensions ∧
      raw = name ++ (littleEndian 4 tensor.dimensions.length ++ (dimensions ++
        (littleEndian 4 tensor.typeId ++ littleEndian 8 tensor.offset)))

/-- The beginning of a file of one part: the magic, the metadata block and as many descriptors as it announces. -/
def LocalHeaderField : ByteFormat LocalHeader :=
  fun raw header => ∃ block descriptors, raw = magic ++ (block ++ descriptors) ∧
    MetadataBlock block (header.tensors.length, header.metadata) ∧
    (0 < header.tensors.length ∧ header.tensors.length ≤ 100000) ∧ isMultipart header.metadata = false ∧
    tensorAlignment? header.metadata = some header.alignment ∧
    (DescriptorField header.alignment).times header.tensors.length descriptors header.tensors ∧
    (header.tensors.map (·.name)).Nodup

end Languages

section Readers
variable {raw : List UInt8} {alignment : ℕ} {α κ : Type}

/-- A field of the header reads as its format. -/
lemma reads_field {reader : Reader κ GgufHeaderInvalidError α} {language : ByteFormat α}
    (reads : Reads reader language) : Reads (field reader) language :=
  (reads.onCut _).onInvalid _

/-- The known types are few. -/
lemma typeId_lt {typeId elements size : ℕ} (layout : tensorBlockLayout? typeId = some (elements, size)) :
    typeId < 256 ^ 4 := by
  by_contra large
  have many : 15 < typeId := Nat.lt_of_lt_of_le (by decide) (Nat.not_lt.mp large)
  unfold tensorBlockLayout? at layout
  split at layout
  all_goals first | exact absurd many (by decide) | cases layout

/-- The rows of a tensor, once everything of its descriptor is read. -/
def Rows (name : String) (dimensions : List ℕ) (typeId offset : ℕ) : ByteFormat GgufTensor :=
  fun raw tensor => raw = [] ∧ ∃ elements size, tensorBlockLayout? typeId = some (elements, size) ∧
    dimensions.headD 0 % elements = 0 ∧ tensor = ⟨name, dimensions, typeId, offset, dimensions.prod / elements * size⟩

/-- A descriptor is read when its name is new. -/
lemma reads_readTensor (names : List String) :
    Reads (readTensor alignment names) fun raw tensor =>
      DescriptorField alignment raw tensor ∧ tensor.name ∉ names := by
  refine ((reads_field reads_readString).bind fun name => Reads.unless ((reads_field reads_readU32).bind fun count =>
    Reads.unless (((reads_field reads_readU64).times count).bind fun dimensions =>
      (reads_field reads_readU32).bind fun typeId => (reads_field reads_readU64).bind fun offset =>
        Reads.unless (?_ : Reads _ (Rows name dimensions typeId offset)) _ _) _ _) _ _).congr ?_
  · -- behind the offset the size is worked out, by the layout of the type
    cases layout : tensorBlockLayout? typeId with
    | none =>
      refine (reads_fail _).congr fun raw tensor => ⟨False.elim, ?_⟩
      rintro ⟨_, elements, size, known, _⟩
      rw [layout] at known
      cases known
    | some blocks =>
      obtain ⟨elements, size⟩ := blocks
      refine ((reads_pure _).unless _ _).congr fun raw tensor => ?_
      constructor
      · rintro ⟨row, rfl, rfl⟩
        exact ⟨rfl, elements, size, layout, not_not.mp row, rfl⟩
      · rintro ⟨rfl, elements', size', known, row, rfl⟩
        rw [layout] at known
        cases known
        exact ⟨not_not.mpr row, rfl, rfl⟩
  · intro raw tensor
    constructor
    · -- the reader's parts, one after the other, are the fields of the descriptor
      rintro ⟨name, nameRaw, _, rfl, text, fresh, count, _, _, rfl, ⟨_, rfl⟩, counted, dimensions, dimRaw, _, rfl,
        ⟨raws, flat, words, length⟩, typeId, _, _, rfl, ⟨_, rfl⟩, offset, _, _, rfl, ⟨fits, rfl⟩, sized, rfl, elements,
        size, layout, row, rfl⟩
      rw [not_or] at fresh counted sized
      subst length
      have positive : ∀ d ∈ dimensions, d ≠ 0 := by
        intro d mem zero
        exact sized.1 (List.any_eq_true.mpr ⟨d, mem, decide_eq_true zero⟩)
      refine ⟨⟨?_, fits, nameRaw, dimRaw, text, ⟨raws, flat, words, rfl⟩, ?_⟩, fresh.2⟩
      · exact
          { named := fresh.1
            dimensions := ⟨Nat.le_of_not_lt counted.1, Nat.le_of_not_lt counted.2⟩
            positive := positive
            aligned := not_not.mp sized.2
            stored := ⟨elements, size, layout, row, rfl⟩ }
      · rw [List.append_nil]
    · rintro ⟨⟨described, fits, nameRaw, dimRaw, text, words, rfl⟩, fresh⟩
      obtain ⟨elements, size, layout, row, bytes⟩ := described.stored
      -- the announced count is that of the dimensions, and so it fits its word
      have few : tensor.dimensions.length < 256 ^ 4 :=
        Nat.lt_of_le_of_lt described.dimensions.2 (by decide)
      have whole : tensor =
          ⟨tensor.name, tensor.dimensions, tensor.typeId, tensor.offset, tensor.dimensions.prod / elements * size⟩ := by
        rw [← bytes]
      have sized : ¬ (tensor.dimensions.any (· = 0) = true ∨ tensor.offset % alignment ≠ 0) := by
        rw [not_or, not_not]
        refine ⟨fun zero => ?_, described.aligned⟩
        obtain ⟨d, mem, none⟩ := List.any_eq_true.mp zero
        exact described.positive d mem (of_decide_eq_true none)
      refine ⟨tensor.name, nameRaw, _, rfl, text, not_or.mpr ⟨described.named, fresh⟩, tensor.dimensions.length, _, _,
        rfl, ⟨few, rfl⟩, ?_, tensor.dimensions, dimRaw, _, rfl, words, tensor.typeId, _, _, rfl,
        ⟨typeId_lt layout, rfl⟩, tensor.offset, _, [], (List.append_nil _).symm, ⟨fits, rfl⟩, sized, rfl, elements,
        size, layout, row, whole⟩
      rw [not_or]
      exact ⟨Nat.not_lt.mpr described.dimensions.1, Nat.not_lt.mpr described.dimensions.2⟩

/-- A new name keeps them apart. -/
lemma nodup_names {tensors : List GgufTensor} {tensor : GgufTensor} (distinct : (tensors.map (·.name)).Nodup)
    (fresh : tensor.name ∉ tensors.map (·.name)) : ((tensors ++ [tensor]).map (·.name)).Nodup := by
  rw [List.map_append, List.nodup_append]
  refine ⟨distinct, List.nodup_singleton _, ?_⟩
  intro name mem other mem' same
  rw [List.map_singleton, List.mem_singleton] at mem'
  rw [same, mem'] at mem
  exact fresh mem

/-- The descriptors of a file, once its metadata is read. -/
def Announced (count : ℕ) (metadata : GgufEntries) : ByteFormat LocalHeader :=
  fun raw header => header.metadata = metadata ∧ header.tensors.length = count ∧ (0 < count ∧ count ≤ 100000) ∧
    isMultipart metadata = false ∧ tensorAlignment? metadata = some header.alignment ∧
    (DescriptorField header.alignment).times count raw header.tensors ∧ (header.tensors.map (·.name)).Nodup

/-- Descriptors behind those that are in, under new names. -/
lemma reads_readTensors (count : ℕ) (tensors : List GgufTensor) (distinct : (tensors.map (·.name)).Nodup) :
    Reads (readTensors alignment count tensors) fun raw all => ∃ new, all = tensors ++ new ∧
      (DescriptorField alignment).times count raw new ∧ (all.map (·.name)).Nodup := by
  induction count generalizing tensors with
  | zero =>
    refine (reads_pure tensors).congr fun raw all => ?_
    constructor
    · rintro ⟨rfl, rfl⟩
      exact ⟨[], (List.append_nil _).symm, ⟨[], rfl, .nil, rfl⟩, distinct⟩
    · rintro ⟨new, rfl, ⟨raws, rfl, all, none⟩, _⟩
      rw [List.length_eq_zero_iff.mp none] at all ⊢
      cases all
      exact ⟨rfl, List.append_nil _⟩
  | succ count ih =>
    intro cursor all after
    constructor
    · intro eq
      -- the first descriptor ends where the others begin
      obtain ⟨tensor, middle, one, more⟩ := bind_eq_ok eq
      obtain ⟨front, ⟨own, fresh⟩, same, length⟩ := (reads_readTensor _ _ _ _).mp one
      have distinct' := nodup_names distinct fresh
      obtain ⟨back, ⟨new, rfl, ⟨raws, rfl, entered, many⟩, names⟩, same', length'⟩ := (ih _ distinct' _ _ _).mp more
      refine ⟨front ++ raws.flatten, ⟨tensor :: new, List.append_assoc _ _ _, ⟨front :: raws, List.flatten_cons.symm,
        .cons own entered, congrArg Nat.succ many⟩, names⟩, ?_, ?_⟩
      · have left : middle.rest = raws.flatten ++ after.rest := congrArg Cursor.rest same'
        rw [List.append_assoc, ← left]
        exact same
      · rw [length', length, List.length_append, Nat.add_assoc]
    · rintro ⟨raw, ⟨new, rfl, ⟨raws, rfl, entered, many⟩, names⟩, same, length⟩
      cases entered with
      | nil => cases many
      | @cons front tensor raws new own entered =>
        have whole : tensors ++ tensor :: new = (tensors ++ [tensor]) ++ new := List.append_cons _ _ _
        rw [whole] at names ⊢
        -- names that are apart in the end are apart on the way
        have distinct' : ((tensors ++ [tensor]).map (·.name)).Nodup := by
          rw [List.map_append] at names
          exact names.of_append_left
        have fresh : tensor.name ∉ tensors.map (·.name) := by
          rw [List.map_append] at distinct'
          exact fun mem => (List.disjoint_of_nodup_append distinct') mem (List.mem_singleton_self _)
        rw [same, List.flatten_cons, List.append_assoc, readTensors, bind_apply,
          (reads_readTensor _).read ⟨own, fresh⟩]
        dsimp only
        refine (ih _ distinct' _ _ _).mpr
          ⟨raws.flatten, ⟨new, rfl, ⟨raws, rfl, entered, Nat.succ.inj many⟩, names⟩, rfl, ?_⟩
        rw [length, List.flatten_cons, List.length_append, Nat.add_assoc]

/-- The header of a local file is read exactly where it stands. -/
lemma reads_readLocalHeader : Reads readLocalHeader LocalHeaderField := by
  have start : Reads (field (read 4)) _ := reads_field (reads_bytes _ 4)
  refine (start.bind fun front => Reads.unless ((reads_field reads_readMetadata).bind fun block =>
    (?_ : Reads _ (Announced block.1 block.2))) _ _).congr ?_
  · have none : (([] : List GgufTensor).map (·.name)).Nodup := List.nodup_nil
    obtain ⟨count, metadata⟩ := block
    dsimp only
    cases aligned : tensorAlignment? metadata with
    | none =>
      refine (((reads_fail _).unless _ _).unless _ _).congr fun raw header => ?_
      constructor
      · rintro ⟨_, _, ⟨⟩⟩
      · rintro ⟨_, _, _, _, known, _⟩
        rw [aligned] at known
        cases known
    | some alignment =>
      refine ((((reads_readTensors count [] none).bind fun tensors =>
        reads_pure (LocalHeader.mk metadata alignment tensors)).unless _ _).unless _ _).congr fun raw header => ?_
      constructor
      · rintro ⟨counted, single, tensors, body, _, rfl, ⟨_, rfl, entered, names⟩, rfl, rfl⟩
        rw [List.append_nil]
        refine ⟨rfl, ?_, not_not.mp counted, (Bool.not_eq_true _).mp single, aligned, entered, names⟩
        exact ByteFormat.times_length entered
      · rintro ⟨rfl, _, counted, single, known, entered, names⟩
        rw [aligned] at known
        cases known
        refine ⟨not_not.mpr counted, (Bool.not_eq_true _).mpr single, header.tensors, raw, [],
          (List.append_nil _).symm, ⟨header.tensors, rfl, entered, names⟩, rfl, rfl⟩
  · intro raw header
    constructor
    · rintro ⟨front, _, _, rfl, ⟨_, rfl⟩, gguf, ⟨count, metadata⟩, blockRaw, descriptors, rfl, stands, same, length,
        counted, single, alignment, entered, names⟩
      subst same length
      rw [not_not.mp gguf]
      exact ⟨blockRaw, descriptors, rfl, stands, counted, single, alignment, entered, names⟩
    · rintro ⟨block, descriptors, rfl, stands, counted, single, alignment, entered, names⟩
      exact ⟨magic, magic, _, rfl, ⟨rfl, rfl⟩, not_not.mpr rfl, (header.tensors.length, header.metadata), block,
        descriptors, rfl, stands, rfl, rfl, counted, single, alignment, entered, names⟩

end Readers

section Index
variable {artifact : LocalArtifact} {file : LocalFile} {raw : List UInt8} {header : LocalHeader}
variable {index : GgufTensorIndex}

/-- The next multiple of the alignment. -/
def roundedUp (alignment n : ℕ) : ℕ :=
  (n + alignment - 1) / alignment * alignment

/-- A file that begins with a header of one part, whose tensors share no byte and end within it, and that nobody
touched while it was read. -/
structure Indexable (artifact : LocalArtifact) (file : LocalFile) (raw : List UInt8) (header : LocalHeader) : Prop where
  size : artifact.sizeBytes.any (· ≠ (file.before.size : ℤ)) = false
  begins : raw <+: file.content.take maxHeaderDownloadBytes
  stands : LocalHeaderField raw header
  apart : header.tensors.Pairwise fun tensor other => Disjoint (covered (·.offset) (·.sizeBytes) tensor)
    (covered (·.offset) (·.sizeBytes) other)
  inside : ∀ tensor ∈ header.tensors,
    roundedUp header.alignment raw.length + (tensor.offset + tensor.sizeBytes) ≤ file.before.size
  unchanged : file.before = file.after

/-- The index of a file behind its header. -/
def LocalHeader.indexed (header : LocalHeader) (artifact : LocalArtifact) (file : LocalFile) (headerEnd : ℕ) :
    GgufTensorIndex :=
  let architecture := (buildHeader header.metadata true).architecture
  { artifact := artifact
    architecture := architecture
    blockCount := tensorBlockCount header.metadata architecture
    alignment := header.alignment
    dataOffset := roundedUp header.alignment headerEnd
    fileSizeBytes := file.before.size
    tensors := header.tensors }

/-- Described tensors take room. -/
lemma stored_pos {alignment : ℕ} {tensor : GgufTensor} (described : tensor.Described alignment) :
    0 < tensor.sizeBytes := by
  obtain ⟨elements, size, layout, row, bytes⟩ := described.stored
  obtain ⟨elementsPos, sizePos⟩ := tensorBlockLayout?_pos layout
  have nonempty : tensor.dimensions ≠ [] := by
    intro none
    have one := described.dimensions.1
    rw [none] at one
    cases one
  rw [bytes]
  exact sizeBytes_pos nonempty described.positive row elementsPos sizePos

/-- The tensors of a header are stored. -/
lemma stored_of_stands (stands : LocalHeaderField raw header) : ∀ tensor ∈ header.tensors, 0 < tensor.sizeBytes := by
  obtain ⟨_, _, _, _, _, _, _, descriptors, _⟩ := stands
  intro tensor mem
  obtain ⟨_, described, _⟩ := ByteFormat.times_mem descriptors tensor mem
  exact stored_pos described

/-- An index is made of a file exactly where a header stands at its beginning. -/
lemma indexOf_eq_ok_iff : indexOf artifact file = .ok index ↔
    ∃ raw header, Indexable artifact file raw header ∧ index = header.indexed artifact file raw.length := by
  constructor
  · intro ok
    rw [indexOf] at ok
    split at ok
    · cases ok
    · rename_i size
      split at ok
      · cases ok
      · cases ok
      · rename_i header after read
        -- what was read stands at the beginning of the file
        obtain ⟨raw, stands, same, length⟩ := reads_readLocalHeader.stands read
        rw [Nat.zero_add] at length
        dsimp only at ok
        split at ok
        · cases ok
        · rename_i accepted
          split at ok
          · cases ok
          · rename_i unchanged
            cases ok
            obtain ⟨apart, inside⟩ := (checkPayloads_sortedBy_eq_ok_iff (stored_of_stands stands)).mp accepted
            rw [length] at inside ⊢
            refine ⟨raw, header, ?_, rfl⟩
            exact
              { size := (Bool.not_eq_true _).mp size
                begins := ⟨after.rest, same.symm⟩
                stands := stands
                apart := apart
                inside := inside
                unchanged := not_not.mp unchanged }
  · rintro ⟨raw, header, fine, rfl⟩
    obtain ⟨rest, content⟩ := fine.begins
    have read := reads_readLocalHeader.read fine.stands 0 rest
    -- payloads that are apart and inside pass the check in the order of their offsets
    have accepted := (checkPayloads_sortedBy_eq_ok_iff (stored_of_stands fine.stands)).mpr ⟨fine.apart, fine.inside⟩
    rw [Nat.zero_add, content] at read
    rw [indexOf, if_neg ((Bool.not_eq_true _).mpr fine.size), read]
    dsimp only
    rw [roundedUp] at accepted
    rw [accepted]
    dsimp only
    rw [if_neg (not_not.mpr fine.unchanged)]
    rfl

/-- A verified artifact whose file is there. -/
structure LocalArtifact.Opens (artifact : LocalArtifact) (openFile : String → Option LocalFile) (file : LocalFile) :
    Prop where
  format : lower artifact.format = "gguf"
  file : artifact.localPath.bind openFile = some file
  downloaded : artifact.isDownloaded = true
  verified : artifact.isVerified = true

/-- An artifact that opens is indexed. -/
lemma readLocalTensorIndex_of_opens {openFile : String → Option LocalFile} (opens : artifact.Opens openFile file) :
    readLocalTensorIndex openFile artifact = indexOf artifact file := by
  have located : artifact.localPath ≠ none := by
    intro none
    have opened := opens.file
    rw [none] at opened
    cases opened
  rw [readLocalTensorIndex, if_neg, opens.file]
  rw [not_or, not_or, not_or, opens.downloaded, opens.verified]
  exact ⟨not_not.mpr opens.format, located, Bool.false_ne_true, Bool.false_ne_true⟩

/-- The index is made of exactly the files that begin with a header of one part, whose tensors share no byte and end
within the file. It says of such a file what its header says. -/
theorem readLocalTensorIndex_eq_ok_iff {openFile : String → Option LocalFile} {artifact : LocalArtifact}
    {index : GgufTensorIndex} :
    readLocalTensorIndex openFile artifact = .ok index ↔
      ∃ file raw header, artifact.Opens openFile file ∧ Indexable artifact file raw header ∧
        index = header.indexed artifact file raw.length := by
  constructor
  · intro ok
    rw [readLocalTensorIndex] at ok
    split at ok
    · cases ok
    · rename_i checked
      rw [not_or, not_or, not_or, not_not] at checked
      obtain ⟨format, _, downloaded, verified⟩ := checked
      split at ok
      · cases ok
      · rename_i file opened
        obtain ⟨raw, header, fine, same⟩ := indexOf_eq_ok_iff.mp ok
        refine ⟨file, raw, header, ?_, fine, same⟩
        exact
          { format := format
            file := opened
            downloaded := by simpa using downloaded
            verified := by simpa using verified }
  · rintro ⟨file, raw, header, opens, fine, rfl⟩
    rw [readLocalTensorIndex_of_opens opens]
    exact indexOf_eq_ok_iff.mpr ⟨raw, header, fine, rfl⟩

end Index

section Writing

/-- A tensor to be written. -/
structure TensorSpec where
  name : String
  dimensions : List ℕ
  typeId : ℕ
  deriving DecidableEq, Repr

/-- The bytes a tensor is stored in. -/
def TensorSpec.sizeBytes (spec : TensorSpec) : ℕ :=
  match tensorBlockLayout? spec.typeId with
  | some (elements, size) => spec.dimensions.prod / elements * size
  | none => 0

/-- The tensors one behind the other, each at the next multiple of the alignment. -/
def layOut (alignment : ℕ) : ℕ → List TensorSpec → List GgufTensor
  | _, [] => []
  | offset, spec :: rest =>
    ⟨spec.name, spec.dimensions, spec.typeId, offset, spec.sizeBytes⟩ ::
      layOut alignment (roundedUp alignment (offset + spec.sizeBytes)) rest

/-- The bytes of a descriptor. -/
def writeDescriptor (tensor : GgufTensor) : List UInt8 :=
  writeTextField tensor.name ++ (littleEndian 4 tensor.dimensions.length ++
    (tensor.dimensions.flatMap (littleEndian 8) ++ (littleEndian 4 tensor.typeId ++ littleEndian 8 tensor.offset)))

/-- The beginning of a file of some entries and some tensors. -/
def writeLocalHeader (version : ℕ) (entries : List WireEntry) (tensors : List GgufTensor) : List UInt8 :=
  writeHeader version tensors.length entries ++ tensors.flatMap writeDescriptor

/-- A tensor can be written. -/
structure TensorSpec.Fits (spec : TensorSpec) : Prop where
  name : (encodeUtf8 spec.name.toList).length ≤ 1000000
  named : spec.name ≠ ""
  dimensions : 1 ≤ spec.dimensions.length ∧ spec.dimensions.length ≤ 4
  sizes : ∀ d ∈ spec.dimensions, 0 < d ∧ d < 256 ^ 8
  rows : ∃ elements size, tensorBlockLayout? spec.typeId = some (elements, size) ∧
    spec.dimensions.headD 0 % elements = 0

/-- A file of some entries and some tensors can be written. -/
structure Writable (version alignment : ℕ) (entries : List WireEntry) (specs : List TensorSpec) : Prop where
  supported : version = 2 ∨ version = 3
  few : entries.length ≤ 100000
  entriesFit : ∀ entry ∈ entries, entry.Fits
  single : isMultipart (tableOf entries) = false
  declared : tensorAlignment? (tableOf entries) = some alignment
  count : 0 < specs.length ∧ specs.length ≤ 100000
  specsFit : ∀ spec ∈ specs, spec.Fits
  names : (specs.map (·.name)).Nodup
  offsets : ∀ tensor ∈ layOut alignment 0 specs, tensor.offset < 256 ^ 8

variable {version alignment offset n : ℕ} {entries : List WireEntry} {specs : List TensorSpec} {tensor : GgufTensor}

/-- Rounding up does not go down. -/
lemma le_roundedUp (positive : 0 < alignment) (n : ℕ) : n ≤ roundedUp alignment n := by
  have rounded := Nat.lt_div_mul_add (a := n + alignment - 1) positive
  rw [roundedUp]
  omega

/-- Laying out keeps the names. -/
lemma map_name_layOut (offset : ℕ) (specs : List TensorSpec) :
    (layOut alignment offset specs).map (·.name) = specs.map (·.name) := by
  induction specs generalizing offset with
  | nil => rfl
  | cons spec rest ih => rw [layOut, List.map_cons, List.map_cons, ih]

/-- And the number. -/
lemma length_layOut (offset : ℕ) (specs : List TensorSpec) :
    (layOut alignment offset specs).length = specs.length := by
  induction specs generalizing offset with
  | nil => rfl
  | cons spec rest ih => rw [layOut, List.length_cons, List.length_cons, ih]

/-- A tensor that is laid out is one of the specified ones, at a multiple of the alignment. -/
lemma of_mem_layOut (start : offset % alignment = 0) (mem : tensor ∈ layOut alignment offset specs) :
    tensor.offset % alignment = 0 ∧ ∃ spec ∈ specs,
      tensor = ⟨spec.name, spec.dimensions, spec.typeId, tensor.offset, spec.sizeBytes⟩ := by
  induction specs generalizing offset with
  | nil => cases mem
  | cons spec rest ih =>
    rw [layOut, List.mem_cons] at mem
    rcases mem with rfl | later
    · exact ⟨start, spec, List.mem_cons_self, rfl⟩
    · obtain ⟨aligned, own, among, same⟩ := ih (Nat.mul_mod_left _ _) later
      exact ⟨aligned, own, List.mem_cons_of_mem spec among, same⟩

/-- Each tensor begins behind the ones before it. -/
lemma layOut_follows (positive : 0 < alignment) (offset : ℕ) (specs : List TensorSpec) :
    (∀ tensor ∈ layOut alignment offset specs, offset ≤ tensor.offset) ∧
      (layOut alignment offset specs).Pairwise fun tensor other => tensor.offset + tensor.sizeBytes ≤ other.offset := by
  induction specs generalizing offset with
  | nil => exact ⟨fun tensor mem => absurd mem List.not_mem_nil, .nil⟩
  | cons spec rest ih =>
    obtain ⟨behind, follow⟩ := ih (roundedUp alignment (offset + spec.sizeBytes))
    have far := le_roundedUp positive (offset + spec.sizeBytes)
    rw [layOut, List.forall_mem_cons, List.pairwise_cons]
    refine ⟨⟨Nat.le_refl _, fun tensor mem => ?_⟩, fun tensor mem => ?_, follow⟩
    · exact ((Nat.le_add_right _ _).trans far).trans (behind tensor mem)
    · exact far.trans (behind tensor mem)

/-- The payloads share no byte. -/
lemma layOut_apart (positive : 0 < alignment) (specs : List TensorSpec) :
    (layOut alignment 0 specs).Pairwise fun tensor other => Disjoint (covered (·.offset) (·.sizeBytes) tensor)
      (covered (·.offset) (·.sizeBytes) other) :=
  (layOut_follows positive 0 specs).2.imp disjoint_covered_of_le

/-- Sizes that are written stand there. -/
lemma words_stand {sizes : List ℕ} (fits : ∀ d ∈ sizes, 0 < d ∧ d < 256 ^ 8) :
    (Word 8).times sizes.length (sizes.flatMap (littleEndian 8)) sizes := by
  refine ⟨sizes.map (littleEndian 8), List.flatMap_def, ?_, rfl⟩
  rw [List.forall₂_map_left_iff, List.forall₂_same]
  exact fun d mem => ⟨(fits d mem).2, rfl⟩

/-- What is written of a tensor is a descriptor of it. -/
lemma descriptor_stands {spec : TensorSpec} (fits : spec.Fits)
    (same : tensor = ⟨spec.name, spec.dimensions, spec.typeId, tensor.offset, spec.sizeBytes⟩)
    (aligned : tensor.offset % alignment = 0) (small : tensor.offset < 256 ^ 8) :
    DescriptorField alignment (writeDescriptor tensor) tensor := by
  obtain ⟨elements, size, layout, row⟩ := fits.rows
  generalize tensor.offset = offset at same aligned small
  subst same
  have bytes : spec.sizeBytes = spec.dimensions.prod / elements * size := by
    rw [TensorSpec.sizeBytes, layout]
  refine ⟨?_, small, writeTextField spec.name, spec.dimensions.flatMap (littleEndian 8),
    writeTextField_stands fits.name, words_stand fits.sizes, rfl⟩
  exact
    { named := fits.named
      dimensions := fits.dimensions
      positive := fun d mem => Nat.ne_of_gt (fits.sizes d mem).1
      aligned := aligned
      stored := ⟨elements, size, layout, row, bytes⟩ }

/-- What is written is the beginning of a file of one part. -/
lemma localHeader_stands (writable : Writable version alignment entries specs) :
    LocalHeaderField (writeLocalHeader version entries (layOut alignment 0 specs))
      ⟨tableOf entries, alignment, layOut alignment 0 specs⟩ := by
  have length : (layOut alignment 0 specs).length = specs.length := length_layOut 0 specs
  have some' : 0 < (layOut alignment 0 specs).length ∧ (layOut alignment 0 specs).length ≤ 100000 := by
    rw [length]
    exact writable.count
  have count : (layOut alignment 0 specs).length < 256 ^ 8 := Nat.lt_of_le_of_lt some'.2 (by decide)
  refine ⟨_, (layOut alignment 0 specs).flatMap writeDescriptor, ?_,
    block_stands writable.supported count writable.few writable.entriesFit, some', writable.single, writable.declared,
    ⟨(layOut alignment 0 specs).map writeDescriptor, List.flatMap_def, ?_, rfl⟩, ?_⟩
  · rw [writeLocalHeader, writeHeader, List.append_assoc]
  · rw [List.forall₂_map_left_iff, List.forall₂_same]
    intro tensor mem
    obtain ⟨aligned, spec, among, same⟩ := of_mem_layOut (Nat.zero_mod alignment) mem
    exact descriptor_stands (writable.specsFit spec among) same aligned (writable.offsets tensor mem)
  · rw [map_name_layOut]
    exact writable.names

/-- What is written is read back: of a file that begins with some entries and some tensors, laid one behind the
other, the index holds exactly these tensors, as long as the file holds their payloads and the header is within
the budget. -/
theorem readLocalTensorIndex_written {openFile : String → Option LocalFile} {artifact : LocalArtifact}
    {file : LocalFile} {version alignment : ℕ} {entries : List WireEntry} {specs : List TensorSpec}
    {raw rest : List UInt8}
    (writable : Writable version alignment entries specs)
    (written : raw = writeLocalHeader version entries (layOut alignment 0 specs))
    (content : file.content = raw ++ rest) (budget : raw.length ≤ maxHeaderDownloadBytes)
    (room : ∀ tensor ∈ layOut alignment 0 specs,
      roundedUp alignment raw.length + (tensor.offset + tensor.sizeBytes) ≤ file.before.size)
    (unchanged : file.before = file.after) (opens : artifact.Opens openFile file)
    (size : artifact.sizeBytes.any (· ≠ (file.before.size : ℤ)) = false) :
    readLocalTensorIndex openFile artifact = .ok
      (LocalHeader.indexed ⟨tableOf entries, alignment, layOut alignment 0 specs⟩ artifact file raw.length) := by
  have stands := localHeader_stands writable
  rw [← written] at stands
  rw [readLocalTensorIndex_of_opens opens, indexOf_eq_ok_iff]
  refine ⟨raw, _, ?_, rfl⟩
  exact
    { size := size
      begins := by
        rw [content]
        exact List.prefix_take_iff.mpr ⟨List.prefix_append raw rest, budget⟩
      stands := stands
      apart := layOut_apart (tensorAlignment?_pos writable.declared) specs
      inside := room
      unchanged := unchanged }

/-- Two tensors in `Q4_0` and in full precision. -/
def twoSpecs : List TensorSpec :=
  [⟨"a", [32], 2⟩, ⟨"b", [2], 0⟩]

/-- An architecture and its number of blocks. -/
def twoEntries : List WireEntry :=
  [⟨"general.architecture", .text, .string "qwen2"⟩, ⟨"qwen2.block_count", .fixed 4, .int 3⟩]

/-- The file of these entries and tensors. -/
def twoTensorFile : LocalFile where
  content := writeLocalHeader 3 twoEntries (layOut 32 0 twoSpecs) ++ List.replicate 60 0
  before := ⟨256, 0⟩
  after := ⟨256, 0⟩

/-- The entries of the example can be written. -/
lemma twoEntries_fit : ∀ entry ∈ twoEntries, entry.Fits := by
  intro entry mem
  simp only [twoEntries, List.mem_cons, List.not_mem_nil, or_false] at mem
  rcases mem with rfl | rfl
  · refine ⟨by decide +kernel, by decide, ?_⟩
    change (encodeUtf8 "qwen2".toList).length ≤ 1000000
    decide +kernel
  · refine ⟨by decide +kernel, by decide, .unsigned 4, rfl, ?_, ?_⟩
    · decide
    · decide

/-- So can its tensors. -/
lemma twoSpecs_fit : ∀ spec ∈ twoSpecs, spec.Fits := by
  intro spec mem
  simp only [twoSpecs, List.mem_cons, List.not_mem_nil, or_false] at mem
  rcases mem with rfl | rfl
  · exact ⟨by decide +kernel, by decide, by decide, by decide, 32, 18, rfl, rfl⟩
  · exact ⟨by decide +kernel, by decide, by decide, by decide, 1, 4, rfl, rfl⟩

/-- So can its file. -/
lemma two_writable : Writable 3 32 twoEntries twoSpecs where
  supported := .inr rfl
  few := by decide
  entriesFit := twoEntries_fit
  single := by decide +kernel
  declared := by decide +kernel
  count := by decide
  specsFit := twoSpecs_fit
  names := by decide
  offsets := by decide +kernel

/-- Its two tensors are read back. -/
theorem readLocalTensorIndex_written_two :
    ∃ index, readLocalTensorIndex (fun _ => some twoTensorFile) verifiedArtifact = .ok index ∧
      index.tensors = [⟨"a", [32], 2, 0, 18⟩, ⟨"b", [2], 0, 32, 8⟩] := by
  have opens : verifiedArtifact.Opens (fun _ => some twoTensorFile) twoTensorFile :=
    ⟨by decide +kernel, rfl, rfl, rfl⟩
  have room : ∀ tensor ∈ layOut 32 0 twoSpecs,
      roundedUp 32 (writeLocalHeader 3 twoEntries (layOut 32 0 twoSpecs)).length +
        (tensor.offset + tensor.sizeBytes) ≤ 256 := by
    decide +kernel
  exact ⟨_, readLocalTensorIndex_written two_writable rfl rfl (by decide +kernel) room rfl opens rfl, rfl⟩

end Writing

end Jaull.Metadata
