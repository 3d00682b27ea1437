import Jaull.Metadata.ConfigMerger

/-!
# What a partial header leaves out

A header that was cut inside the tokenizer has every key of `estimateKeys`, so it agrees with the header
of the whole file on layers, heads, KV heads and hidden size. The merger also reads
`attention.key_length` and `attention.value_length`, which `estimateKeys` does not hold;
`merge_partial_iff` says when a partial header yields the dimensions of the whole one all the same.
-/

namespace Jaull.Metadata
open Jaull.Domain Jaull.Lib Jaull.Text

/-- What the KV estimate reads of a configuration. -/
structure AttentionDimensions where
  layers : Option ℤ
  heads : Option ℤ
  kvHeads : Option ℤ
  hidden : Option ℤ
  headDim : Option ℤ
  unsupportedHeads : Bool
  deriving DecidableEq, Repr

/-- The attention dimensions of a configuration. -/
def attentionDimensions (config : ModelConfig) : AttentionDimensions where
  layers := config.numHiddenLayers
  heads := config.numAttentionHeads
  kvHeads := config.numKeyValueHeads
  hidden := config.hiddenSize
  headDim := config.headDim
  unsupportedHeads := unsupportedHeads config.rawFlags

/-- The attention dimensions that the merger produces. -/
def mergedDimensions (header : GgufHeaderMetadata) (base : Option ModelConfig) :
    Option AttentionDimensions :=
  (merge (some header) base).map fun enriched => attentionDimensions enriched.config

/-- A length of the attention block that the whole file states and the partial header has not read. -/
def lateLength (part whole : GgufHeaderMetadata) (name : String) : Option ℤ :=
  if whole.architecture.getD "None" ++ ".attention." ++ name ∈ part.rawKv.map Prod.fst then none
  else attentionLength whole name

/-- The lengths that come late change nothing: a late key length is the head dimension of the base
configuration, and a late value length is the key dimension, or the base configuration already sets the
flag. -/
def LateLengthsAgree (part whole : GgufHeaderMetadata) (base : Option ModelConfig) : Prop :=
  (∀ dim, lateLength part whole "key_length" = some dim → base.bind (·.headDim) = some dim) ∧
    ∀ dim, lateLength part whole "value_length" = some dim →
      unsupportedHeads ((base.map (·.rawFlags)).getD []) = true ∨
        keyDim ((attentionLength whole "key_length").or (base.bind (·.headDim)))
          whole.embeddingLength whole.headCount = some dim

/-- The merged dimensions: the header's, else the base's. -/
lemma mergedDimensions_eq (header : GgufHeaderMetadata) (base : Option ModelConfig) :
    mergedDimensions header base = some
      { layers := header.blockCount.or (base.bind (·.numHiddenLayers))
        heads := header.headCount.or (base.bind (·.numAttentionHeads))
        kvHeads := header.headCountKv.or (base.bind (·.numKeyValueHeads))
        hidden := header.embeddingLength.or (base.bind (·.hiddenSize))
        headDim := (attentionLength header "key_length").or (base.bind (·.headDim))
        unsupportedHeads := unsupportedHeads <|
          mergedFlags (some header) ((base.map (·.rawFlags)).getD [])
            ((attentionLength header "key_length").or (base.bind (·.headDim)))
            (header.blockCount.or (base.bind (·.numHiddenLayers)))
            (header.embeddingLength.or (base.bind (·.hiddenSize)))
            (header.headCount.or (base.bind (·.numAttentionHeads))) } := by
  rw [mergedDimensions, merge, if_neg (by simp)]
  rfl

section Entries
variable {entries all : GgufEntries} {key : String}

/-- With distinct keys, a key that was in keeps its value. -/
lemma get_eq_of_early (pre : entries <+: all) (distinct : (all.map Prod.fst).Nodup)
    (mem : key ∈ entries.map Prod.fst) : all.get key = entries.get key := by
  obtain ⟨late, rfl⟩ := pre
  rw [List.map_append, List.nodup_append] at distinct
  have absent : late.reverse.lookup key = none := by
    rw [List.lookup_eq_none_iff]
    intro entry memL
    rw [bne_iff_ne]
    rintro rfl
    exact distinct.2.2 _ mem _ (List.mem_map_of_mem (List.mem_reverse.mp memL)) rfl
  rw [GgufEntries.get, List.reverse_append, List.lookup_append, absent, Option.none_or]
  rfl

/-- An absent key has no value. -/
lemma get_eq_none (absent : key ∉ entries.map Prod.fst) : entries.get key = none := by
  rw [GgufEntries.get, List.lookup_eq_none_iff]
  intro entry mem
  rw [bne_iff_ne]
  rintro rfl
  exact absent (List.mem_map_of_mem (List.mem_reverse.mp mem))

/-- A key with a value is present. -/
lemma mem_of_get {value : GgufValue} (eq : entries.get key = some value) :
    key ∈ entries.map Prod.fst := by
  by_contra absent
  rw [get_eq_none absent] at eq
  cases eq

/-- What an early stop has read, the whole table says too. -/
lemma get_of_early {value : GgufValue} (pre : entries <+: all)
    (distinct : (all.map Prod.fst).Nodup) (eq : entries.get key = some value) :
    all.get key = some value := by
  rw [get_eq_of_early pre distinct (mem_of_get eq), eq]

end Entries

/-- What is known of a partial header and the header of the whole file. -/
lemma early_stop {file : List UInt8} {n : ℕ} {part whole : GgufHeaderMetadata}
    (parsedPart : parseHeader (file.take n) = .header part) (partial_ : part.isComplete = false)
    (parsedWhole : parseHeader file = .header whole) (complete : whole.isComplete = true) :
    ∃ entries all, part = buildHeader entries false ∧ whole = buildHeader all true ∧
      entries <+: all ∧ hasEstimateKeys entries = true := by
  rw [parseHeader] at parsedPart parsedWhole
  split at parsedPart
  · cases parsedPart
  · rename_i enough
    rw [List.length_take] at enough
    have enough' : ¬ file.length < 4 := by omega
    -- the part is the beginning of the whole, behind the magic number as well
    have drop : (file.take n).drop 4 ++ file.drop n = file.drop 4 := by
      rw [← List.drop_append_of_le_length (by rw [List.length_take]; omega), List.take_append_drop]
    rw [if_neg enough'] at parsedWhole
    split at parsedPart
    · cases parsedPart
    · split at parsedWhole
      · cases parsedWhole
      · cases cutAt : readMetadata ⟨4, (file.take n).drop 4⟩ with
        | ok read after =>
          rw [cutAt] at parsedPart
          cases parsedPart
          cases partial_
        | invalid error =>
          rw [cutAt] at parsedPart
          cases parsedPart
        | incomplete cut =>
          rw [cutAt] at parsedPart
          dsimp only at parsedPart
          split at parsedPart
          · -- the part breaks off with its estimate keys complete
            rename_i kept
            cases parsedPart
            cases wholeAt : readMetadata ⟨4, file.drop 4⟩ with
            | ok read after =>
              obtain ⟨tensors, all⟩ := read
              rw [wholeAt] at parsedWhole
              cases parsedWhole
              rw [← drop] at wholeAt
              exact ⟨cut.entries, all, rfl, rfl, readMetadata_cut cutAt wholeAt,
                (Bool.and_eq_true_iff.mp kept).2⟩
            | invalid error =>
              rw [wholeAt] at parsedWhole
              cases parsedWhole
            | incomplete cut' =>
              rw [wholeAt] at parsedWhole
              dsimp only at parsedWhole
              split at parsedWhole
              · cases parsedWhole
                cases complete
              · cases parsedWhole
          · cases parsedPart

/-- The estimate keys hold integers, under a named architecture. -/
lemma hasEstimateKeys_spec {entries : GgufEntries} (has : hasEstimateKeys entries = true) :
    ∃ architecture, architecture? entries = some architecture ∧
      ∀ name ∈ estimateKeys, ∃ n, entries.get (architecture ++ "." ++ name) = some (.int n) := by
  rw [hasEstimateKeys, Bool.and_eq_true] at has
  obtain ⟨architecture, named⟩ := Option.isSome_iff_exists.mp has.1
  refine ⟨architecture, named, fun name mem => ?_⟩
  have stated := List.all_eq_true.mp has.2 name mem
  rw [named] at stated
  obtain ⟨n, eq⟩ := Option.isSome_iff_exists.mp stated
  obtain ⟨value, at_key, int⟩ := Option.bind_eq_some_iff.mp eq
  cases value with
  | int m => exact ⟨m, at_key⟩
  | _ => cases int

/-- What the early stop keeps: the architecture and every estimate key. -/
structure AgreesSoFar (part whole : GgufHeaderMetadata) : Prop where
  architecture : part.architecture = whole.architecture
  hidden : part.embeddingLength = whole.embeddingLength
  layers : part.blockCount = whole.blockCount
  heads : part.headCount = whole.headCount
  kvHeads : part.headCountKv = whole.headCountKv
  hidden_stated : whole.embeddingLength.isSome
  heads_stated : whole.headCount.isSome
  attention : ∀ name,
    attentionLength part name =
      if whole.architecture.getD "None" ++ ".attention." ++ name ∈ part.rawKv.map Prod.fst then
        attentionLength whole name
      else none

/-- A header stopped early agrees with the whole on what an estimate reads. -/
lemma agreesSoFar {entries all : GgufEntries} (pre : entries <+: all)
    (distinct : (all.map Prod.fst).Nodup) (has : hasEstimateKeys entries = true) :
    AgreesSoFar (buildHeader entries false) (buildHeader all true) := by
  obtain ⟨architecture, named, stated⟩ := hasEstimateKeys_spec has
  have named' : architecture? all = some architecture := by
    obtain ⟨value, at_key, str⟩ := Option.bind_eq_some_iff.mp named
    rw [architecture?, get_of_early pre distinct at_key]
    exact str
  have same : ∀ name ∈ estimateKeys, ∃ n,
      (archKey entries (architecture? entries) name).bind GgufValue.int? = some n ∧
        (archKey all (architecture? all) name).bind GgufValue.int? = some n := by
    intro name mem
    obtain ⟨n, eq⟩ := stated name mem
    refine ⟨n, ?_, ?_⟩
    · rw [named, archKey, Option.bind_some, eq]
      rfl
    · rw [named', archKey, Option.bind_some, get_of_early pre distinct eq]
      rfl
  obtain ⟨hidden, hiddenP, hiddenW⟩ := same "embedding_length" (by decide)
  obtain ⟨layers, layersP, layersW⟩ := same "block_count" (by decide)
  obtain ⟨heads, headsP, headsW⟩ := same "attention.head_count" (by decide)
  obtain ⟨kvHeads, kvP, kvW⟩ := same "attention.head_count_kv" (by decide)
  constructor
  · exact named.trans named'.symm
  · exact hiddenP.trans hiddenW.symm
  · exact layersP.trans layersW.symm
  · exact headsP.trans headsW.symm
  · exact kvP.trans kvW.symm
  · exact Option.isSome_of_eq_some hiddenW
  · exact Option.isSome_of_eq_some headsW
  · intro name
    have key : (buildHeader all true).architecture = some architecture := named'
    have key' : (buildHeader entries false).architecture = some architecture := named
    rw [attentionLength, attentionLength, key, key']
    change (entries.get _).bind _ = if _ ∈ entries.map Prod.fst then (all.get _).bind _ else none
    split
    · rename_i mem
      rw [get_eq_of_early pre distinct mem]
    · rename_i absent
      rw [get_eq_none absent]
      rfl

section Late
variable {part whole : GgufHeaderMetadata} (agrees : AgreesSoFar part whole)
include agrees

/-- The head dimension is the same exactly when a late key length is that of the base. -/
lemma headDim_eq_iff (baseDim : Option ℤ) :
    (attentionLength part "key_length").or baseDim =
        (attentionLength whole "key_length").or baseDim ↔
      ∀ dim, lateLength part whole "key_length" = some dim → baseDim = some dim := by
  rw [agrees.attention, lateLength]
  split
  · exact iff_of_true rfl fun dim late => by cases late
  · cases attentionLength whole "key_length" with
    | none => exact iff_of_true rfl fun dim late => by cases late
    | some dim =>
      constructor
      · intro eq dim' late
        exact eq.trans late
      · exact fun late => late dim rfl

/-- So is the flag, exactly when a late value length is the key dimension or the flag is set anyway. -/
lemma flag_iff (flagged : Prop) (dims : Option ℤ) :
    ((flagged ∨ ∃ dim, attentionLength part "value_length" = some dim ∧ dims ≠ some dim) ↔
        (flagged ∨ ∃ dim, attentionLength whole "value_length" = some dim ∧ dims ≠ some dim)) ↔
      ∀ dim, lateLength part whole "value_length" = some dim → flagged ∨ dims = some dim := by
  rw [agrees.attention, lateLength]
  split
  · exact iff_of_true Iff.rfl fun dim late => by cases late
  · constructor
    · intro same dim late
      by_cases eq : dims = some dim
      · exact .inr eq
      · rcases same.mpr (.inr ⟨dim, late, eq⟩) with set | ⟨_, none_, _⟩
        · exact .inl set
        · cases none_
    · intro late
      constructor
      · rintro (set | ⟨_, none_, _⟩)
        · exact .inl set
        · cases none_
      · rintro (set | ⟨dim, eq, ne⟩)
        · exact .inl set
        · exact .inl ((late dim eq).resolve_right ne)

end Late

/-- For a file whose metadata keys are distinct, the header that `parseHeader` cuts inside the tokenizer
and the header of the whole file merge to the same attention dimensions exactly when the key and value
lengths that come after the cut change nothing. -/
theorem merge_partial_iff {file : List UInt8} {n : ℕ} {part whole : GgufHeaderMetadata}
    (parsedPart : parseHeader (file.take n) = .header part) (cut : part.isComplete = false)
    (parsedWhole : parseHeader file = .header whole) (complete : whole.isComplete = true)
    (distinct : (whole.rawKv.map Prod.fst).Nodup) (base : Option ModelConfig) :
    mergedDimensions part base = mergedDimensions whole base ↔ LateLengthsAgree part whole base := by
  have agrees : AgreesSoFar part whole := by
    obtain ⟨entries, all, rfl, rfl, pre, has⟩ :=
      early_stop parsedPart cut parsedWhole complete
    exact agreesSoFar pre distinct has
  obtain ⟨hidden, statedH⟩ := Option.isSome_iff_exists.mp agrees.hidden_stated
  obtain ⟨heads, statedHs⟩ := Option.isSome_iff_exists.mp agrees.heads_stated
  rw [mergedDimensions_eq, mergedDimensions_eq, agrees.layers, agrees.heads, agrees.kvHeads,
    agrees.hidden, statedH, statedHs, Option.some_or, Option.some_or, Option.some_inj,
    AttentionDimensions.mk.injEq, LateLengthsAgree, statedH, statedHs,
    ← headDim_eq_iff agrees (base.bind (·.headDim)), Bool.eq_iff_iff,
    unsupportedHeads_mergedFlags, unsupportedHeads_mergedFlags]
  simp only [true_and]
  refine and_congr_right fun sameDim => ?_
  rw [sameDim]
  exact flag_iff agrees _ _

/-- A file whose key length stands after its tokenizer. -/
def lateFile : List UInt8 :=
  writeFile
    [writeTextEntry "general.architecture" "llama", writeIntEntry "llama.context_length" 4096,
      writeIntEntry "llama.embedding_length" 4096, writeIntEntry "llama.block_count" 32,
      writeIntEntry "llama.attention.head_count" 32, writeIntEntry "llama.attention.head_count_kv" 8,
      writeTextsEntry "tokenizer.ggml.tokens" ["a", "b"],
      writeIntEntry "llama.attention.key_length" 256]

/-- The header of its first `n` bytes. -/
def lateHeader (n : ℕ) : GgufHeaderMetadata :=
  (parseHeader (lateFile.take n)).header?.getD {}

/-- Byte 330 lies inside the tokenizer. -/
lemma lateHeader_part :
    parseHeader (lateFile.take 330) = .header (lateHeader 330) ∧
      (lateHeader 330).isComplete = false :=
  ⟨Parsed.eq_header (by decide +kernel), by decide +kernel⟩

/-- The sample file read whole. -/
lemma lateHeader_whole :
    parseHeader lateFile = .header (lateHeader 392) ∧ (lateHeader 392).isComplete = true ∧
      ((lateHeader 392).rawKv.map Prod.fst).Nodup := by
  have all : lateFile.take 392 = lateFile := List.take_of_length_le (by decide +kernel)
  refine ⟨?_, by decide +kernel, by decide +kernel⟩
  rw [lateHeader, all]
  exact Parsed.eq_header (by decide +kernel)

/-- A base configuration with the head dimension of `lateFile` makes up for the late key length. -/
theorem merge_partial_iff_late :
    mergedDimensions (lateHeader 330) (some { headDim := some 256 }) =
        mergedDimensions (lateHeader 392) (some { headDim := some 256 }) ↔
      LateLengthsAgree (lateHeader 330) (lateHeader 392) (some { headDim := some 256 }) :=
  merge_partial_iff lateHeader_part.1 lateHeader_part.2 lateHeader_whole.1 lateHeader_whole.2.1
    lateHeader_whole.2.2 _

/-- Without one, the head dimension of `lateFile` is 256, and unknown to its partial header. -/
theorem merge_partial_late_key :
    parseHeader (lateFile.take 330) = .header (lateHeader 330) ∧
      (lateHeader 330).isComplete = false ∧
      parseHeader lateFile = .header (lateHeader 392) ∧ (lateHeader 392).isComplete = true ∧
      ((lateHeader 392).rawKv.map Prod.fst).Nodup ∧
      mergedDimensions (lateHeader 330) none ≠ mergedDimensions (lateHeader 392) none :=
  ⟨lateHeader_part.1, lateHeader_part.2, lateHeader_whole.1, lateHeader_whole.2.1,
    lateHeader_whole.2.2, by decide +kernel⟩

end Jaull.Metadata
