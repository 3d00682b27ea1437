import Jaull.Estimator.Weights
import Jaull.Lib.ListMap
import Jaull.Lib.Signs
import Jaull.Metadata.ConfigMerger

/-!
# Estimates from an untrusted header

The chain from a GGUF header to the KV cache: the merger, the decomposition of the weights, the estimate
of the cache. No module of the chain checks that the dimensions a file states are positive.
`estimateFromHeader_iff` says for which inputs the chain returns and its KV cache is unknown or positive.
-/

namespace Jaull.Estimator
open Jaull.Domain Jaull.Lib Jaull.Metadata Jaull.Text

/-- `merge`, `add_transformer_block_decomposition` and `estimate_kv_cache` in a row, as Python
`estimate_memory` calls them. -/
def estimateFromHeader (header : GgufHeaderMetadata) (base : Option ModelConfig)
    (weights : WeightEstimate) (inference : InferenceConfiguration) :
    Except EstimateError (WeightEstimate × KvCacheEstimate) := do
  let config := (merge (some header) base).map (·.config)
  let weights ← addTransformerBlockDecomposition weights config
  let kvCache ← estimateKvCache config inference.contextLength inference.batchSize
    inference.kvCacheDtype inference.concurrentUsers
  return (weights, kvCache)

/-- What the header and the base configuration state, the header first, with the flags of the base. -/
def stated (header : GgufHeaderMetadata) (base : Option ModelConfig) : ModelConfig where
  modelType := truthy (header.architecture.or (base.bind (·.modelType)))
  torchDtype := base.bind (·.torchDtype)
  maxPositionEmbeddings := header.contextLength.or (base.bind (·.maxPositionEmbeddings))
  hiddenSize := header.embeddingLength.or (base.bind (·.hiddenSize))
  numHiddenLayers := header.blockCount.or (base.bind (·.numHiddenLayers))
  numAttentionHeads := header.headCount.or (base.bind (·.numAttentionHeads))
  numKeyValueHeads := header.headCountKv.or (base.bind (·.numKeyValueHeads))
  headDim := (attentionLength header "key_length").or (base.bind (·.headDim))
  intermediateSize := base.bind (·.intermediateSize)
  slidingWindow := base.bind (·.slidingWindow)
  useSlidingWindow := base.bind (·.useSlidingWindow)
  ropeScaling := base.bind (·.ropeScaling)
  tieWordEmbeddings := base.bind (·.tieWordEmbeddings)
  vocabSize := base.bind (·.vocabSize)
  quantizationConfig := base.bind (·.quantizationConfig)
  rawFlags := (base.map (·.rawFlags)).getD []

/-- The dimensions of a dense transformer whose weights are split by parameters. -/
structure DenseShape where
  layers : ℤ
  hidden : ℤ
  heads : ℤ
  kvHeads : ℤ
  headDim : ℤ
  vocab : ℤ
  intermediate : ℤ
  tied : Bool
  deriving DecidableEq, Repr

/-- Parameters of the blocks. -/
def DenseShape.block (shape : DenseShape) : ℤ :=
  blockParameters shape.layers shape.hidden shape.heads shape.kvHeads shape.headDim
    shape.intermediate

/-- Parameters outside the blocks. -/
def DenseShape.nonBlock (shape : DenseShape) : ℤ :=
  shape.vocab * shape.hidden + outputHeadParameters shape.vocab shape.hidden shape.tied

/-- A family, an embedding tying and an intermediate size for which the code splits weights by
parameters, and no flag that rules it out. The composite flags are dropped by the merger. -/
structure SplitsByParameters (c : ModelConfig) (tied : Bool) (intermediate : ℤ) : Prop where
  family : modelFamily c ∈ supportedGatedMlpModelTypes
  tied : c.tieWordEmbeddings = some tied
  intermediate : c.intermediateSize = some intermediate
  plain : ∀ name ∈ unsupportedDecompositionFlagNames, name ∉ compositeFlags →
    (c.rawFlags.lookup name).any unsupportedFlagValue = false

/-- Zero heads and no head dimension, in a configuration whose weights are to be split. -/
structure SplitsZeroHeads (c : ModelConfig) : Prop where
  splits : ∃ tied intermediate, SplitsByParameters c tied intermediate
  headDim : c.headDim = none
  hidden : c.hiddenSize.isSome
  heads : c.numAttentionHeads = some 0

/-- `shape` is the shape by which the weights of `c` are split. -/
structure DenseShape.Of (shape : DenseShape) (c : ModelConfig) : Prop where
  splits : SplitsByParameters c shape.tied shape.intermediate
  layers : c.numHiddenLayers = some shape.layers
  hidden : c.hiddenSize = some shape.hidden
  heads : c.numAttentionHeads = some shape.heads
  vocab : c.vocabSize = some shape.vocab
  nonzero : shape.layers ≠ 0 ∧ shape.hidden ≠ 0 ∧ shape.heads ≠ 0 ∧ shape.vocab ≠ 0
  intermediate_pos : 0 < shape.intermediate
  even_share : c.headDim = none → shape.hidden.fmod shape.heads = 0
  headDim : shape.headDim = orInt c.headDim (shape.hidden.fdiv shape.heads)
  headDim_pos : 0 < shape.headDim
  kvHeads : shape.kvHeads = orInt c.numKeyValueHeads shape.heads
  kvHeads_pos : 0 < shape.kvHeads
  kvHeads_le : shape.kvHeads ≤ shape.heads
  total_pos : 0 < shape.block + shape.nonBlock

/-- The weights of `c` can be decomposed: heads are not zero where they divide, and neither the blocks nor
the rest take a negative share of the bytes. -/
def DecompositionSound (c : ModelConfig) (bytes : Option ℤ) : Prop :=
  ∀ total layers, bytes = some total → 0 ≤ total → c.numHiddenLayers = some layers → 0 < layers →
    ¬ SplitsZeroHeads c ∧
      ∀ shape : DenseShape, shape.Of c →
        0 ≤ total * shape.block ∧ -(total * shape.nonBlock) < shape.block + shape.nonBlock

/-- The context the cache holds: the window where one is in force. -/
def contextInForce (c : ModelConfig) (contextLength : ℤ) : ℤ :=
  match c.slidingWindow with
  | none => contextLength
  | some window =>
    if window ≠ 0 ∧ window < contextLength ∧
        (c.useSlidingWindow = some true ∨
          c.useSlidingWindow = none ∧ modelFamily c ∈ windowAlwaysActiveModelTypes) then window
    else contextLength

/-- The attention is one whose cache the code leaves unknown. -/
def UnknownAttention (header : GgufHeaderMetadata) (c : ModelConfig) : Prop :=
  (unsupportedHeads c.rawFlags = true ∨
      ∃ dim, attentionLength header "value_length" = some dim ∧
        keyDim c.headDim c.hiddenSize c.numAttentionHeads ≠ some dim) ∨
    ∃ name ∈ ["q_lora_rank", "kv_lora_rank", "auto_map"], hasFlag c.rawFlags name = true

/-- The cache of `c` can be sized: an element takes a whole byte at least, heads are not zero where they
divide, and of layers, KV heads, head dimension and context none is zero and an even number is
negative. -/
def KvSound (header : GgufHeaderMetadata) (c : ModelConfig)
    (inference : InferenceConfiguration) : Prop :=
  ∀ layers heads hidden, c.numHiddenLayers = some layers → c.numAttentionHeads = some heads →
    c.hiddenSize = some hidden → ¬ UnknownAttention header c →
    inference.kvCacheDtype ≠ .int4 ∧ (orInt c.headDim 0 = 0 → heads ≠ 0) ∧
      let factors := [layers, orInt c.numKeyValueHeads heads,
        orInt c.headDim (hidden.fdiv heads), contextInForce c inference.contextLength]
      0 ∉ factors ∧ Even (factors.countP (· < 0))

section Split
variable {c : ModelConfig} {tied : Bool} {intermediate : ℤ}

/-- The parameters of a shape. -/
def DenseShape.decomposition (shape : DenseShape) : ConfigParameterDecomposition where
  totalParameters := shape.block + shape.nonBlock
  transformerBlockParameters := shape.block
  nonBlockParameters := shape.nonBlock
  embeddingParameters := shape.vocab * shape.hidden
  outputHeadParameters := outputHeadParameters shape.vocab shape.hidden shape.tied
  totalTransformerBlocks := shape.layers

/-- The shape of a configuration is determined. -/
lemma DenseShape.Of.unique {shape shape' : DenseShape} (is : shape.Of c) (is' : shape'.Of c) :
    shape = shape' := by
  have layers := Option.some.inj (is.layers.symm.trans is'.layers)
  have hidden := Option.some.inj (is.hidden.symm.trans is'.hidden)
  have heads := Option.some.inj (is.heads.symm.trans is'.heads)
  have vocab := Option.some.inj (is.vocab.symm.trans is'.vocab)
  have tied := Option.some.inj (is.splits.tied.symm.trans is'.splits.tied)
  have intermediate := Option.some.inj (is.splits.intermediate.symm.trans is'.splits.intermediate)
  have kvHeads := is.kvHeads
  have headDim := is.headDim
  rw [heads, ← is'.kvHeads] at kvHeads
  rw [hidden, heads, ← is'.headDim] at headDim
  cases shape
  cases shape'
  dsimp only at *
  subst layers hidden heads vocab tied intermediate kvHeads headDim
  rfl

/-- A configuration that divides by zero heads has no shape. -/
lemma SplitsZeroHeads.not_of (zero : SplitsZeroHeads c) (shape : DenseShape) : ¬ shape.Of c := by
  intro is
  have heads := Option.some.inj (zero.heads.symm.trans is.heads)
  exact is.nonzero.2.2.1 heads.symm

/-- Past the guards on heads, a configuration is split by its shape, or not at all. -/
lemma parameterComponents_spec (splits : SplitsByParameters c tied intermediate)
    (even : ∀ hidden heads, c.hiddenSize = some hidden → c.numAttentionHeads = some heads →
      c.headDim = none → hidden.fmod heads = 0)
    (few : ∀ heads, c.numAttentionHeads = some heads → orInt c.numKeyValueHeads heads ≤ heads) :
    (∃ shape : DenseShape, shape.Of c ∧
        parameterComponents c intermediate tied = .ok (some shape.decomposition)) ∨
      parameterComponents c intermediate tied = .ok none ∧ ∀ shape : DenseShape, ¬ shape.Of c := by
  rw [parameterComponents]
  cases eqL : c.numHiddenLayers with
  | none => exact .inr ⟨rfl, fun shape is => by simpa [eqL] using is.layers⟩
  | some layers =>
  cases eqH : c.hiddenSize with
  | none => exact .inr ⟨rfl, fun shape is => by simpa [eqH] using is.hidden⟩
  | some hidden =>
  cases eqA : c.numAttentionHeads with
  | none => exact .inr ⟨rfl, fun shape is => by simpa [eqA] using is.heads⟩
  | some heads =>
  cases eqV : c.vocabSize with
  | none => exact .inr ⟨rfl, fun shape is => by simpa [eqV] using is.vocab⟩
  | some vocab =>
  -- A shape of `c` has the dimensions that `c` states.
  let shape : DenseShape :=
    { layers := layers
      hidden := hidden
      heads := heads
      kvHeads := orInt c.numKeyValueHeads heads
      headDim := orInt c.headDim (hidden.fdiv heads)
      vocab := vocab
      intermediate := intermediate
      tied := tied }
  have only : ∀ {shape' : DenseShape}, shape'.Of c → shape' = shape := by
    intro shape' is
    have layers' := Option.some.inj (eqL.symm.trans is.layers)
    have hidden' := Option.some.inj (eqH.symm.trans is.hidden)
    have heads' := Option.some.inj (eqA.symm.trans is.heads)
    have vocab' := Option.some.inj (eqV.symm.trans is.vocab)
    have tied' := Option.some.inj (splits.tied.symm.trans is.splits.tied)
    have intermediate' := Option.some.inj (splits.intermediate.symm.trans is.splits.intermediate)
    have kvHeads' := is.kvHeads
    have headDim' := is.headDim
    cases shape'
    dsimp only at *
    subst layers' hidden' heads' vocab' tied' intermediate' kvHeads' headDim'
    rfl
  dsimp only
  split
  · rename_i degenerate
    refine .inr ⟨rfl, fun shape' is => ?_⟩
    have eq := only is
    have nonzero := is.nonzero
    have pos := is.intermediate_pos
    rw [eq] at nonzero pos
    change layers ≠ 0 ∧ hidden ≠ 0 ∧ heads ≠ 0 ∧ vocab ≠ 0 at nonzero
    change 0 < intermediate at pos
    omega
  · rename_i regular
    push Not at regular
    obtain ⟨layersN, hiddenN, headsN, vocabN, pos⟩ := regular
    rw [headDimension_eq headsN, ok_bind]
    split
    · rename_i flat
      refine .inr ⟨rfl, fun shape' is => ?_⟩
      have eq := only is
      have headDim := is.headDim_pos
      have kvHeads := is.kvHeads_pos
      rw [eq] at headDim kvHeads
      rcases flat with flat | flat
      · exact absurd headDim (not_lt_of_ge flat)
      · exact absurd kvHeads (not_lt_of_ge flat)
    · rename_i solid
      push Not at solid
      split
      · rename_i empty
        refine .inr ⟨rfl, fun shape' is => ?_⟩
        have eq := only is
        have total := is.total_pos
        rw [eq] at total
        exact absurd total (not_lt_of_ge empty)
      · rename_i total
        refine .inl ⟨shape, ?_, rfl⟩
        exact
          { splits := splits
            layers := eqL
            hidden := eqH
            heads := eqA
            vocab := eqV
            nonzero := ⟨layersN, hiddenN, headsN, vocabN⟩
            intermediate_pos := pos
            even_share := even hidden heads eqH eqA
            headDim := rfl
            headDim_pos := solid.1
            kvHeads := rfl
            kvHeads_pos := solid.2
            kvHeads_le := few heads eqA
            total_pos := lt_of_not_ge total }

/-- What the split of a candidate comes to. -/
lemma splitParameters_spec (splits : SplitsByParameters c tied intermediate) :
    (splitParameters c intermediate tied = .error .zeroDivision ∧ SplitsZeroHeads c) ∨
      (∃ shape : DenseShape, shape.Of c ∧
        splitParameters c intermediate tied = .ok (some shape.decomposition)) ∨
      splitParameters c intermediate tied = .ok none ∧ ¬ SplitsZeroHeads c ∧
        ∀ shape : DenseShape, ¬ shape.Of c := by
  -- What is left once the hidden size is known to divide by the heads.
  have rest (notZero : ¬ SplitsZeroHeads c)
      (even : ∀ hidden heads, c.hiddenSize = some hidden → c.numAttentionHeads = some heads →
        c.headDim = none → hidden.fmod heads = 0)
      (ok : unevenHeads c = .ok false) :
      (∃ shape : DenseShape, shape.Of c ∧
          splitParameters c intermediate tied = .ok (some shape.decomposition)) ∨
        splitParameters c intermediate tied = .ok none ∧ ¬ SplitsZeroHeads c ∧
          ∀ shape : DenseShape, ¬ shape.Of c := by
    rw [splitParameters, ok, ok_bind, if_neg (by decide)]
    split
    · rename_i many
      refine .inr ⟨rfl, notZero, fun shape is => ?_⟩
      rw [is.heads, Option.any_some, decide_eq_true_eq, ← is.kvHeads] at many
      exact absurd is.kvHeads_le (not_le_of_gt many)
    · rename_i few
      have few' : ∀ heads, c.numAttentionHeads = some heads →
          orInt c.numKeyValueHeads heads ≤ heads := by
        intro heads eq
        rw [eq, Option.any_some, decide_eq_true_eq] at few
        exact le_of_not_gt few
      rcases parameterComponents_spec splits even few' with found | ⟨eq, none_⟩
      · exact .inl found
      · exact .inr ⟨eq, notZero, none_⟩
  cases eqD : c.headDim with
  | some dim =>
    refine .inr (rest (fun zero => ?_) (fun _ _ _ _ none_ => ?_) ?_)
    · rw [zero.headDim] at eqD
      cases eqD
    · rw [eqD] at none_
      cases none_
    · rw [unevenHeads, eqD]
  | none =>
  cases eqH : c.hiddenSize with
  | none =>
    refine .inr (rest (fun zero => ?_) (fun _ _ stated_ => ?_) ?_)
    · have hidden := zero.hidden
      rw [eqH] at hidden
      cases hidden
    · rw [eqH] at stated_
      cases stated_
    · rw [unevenHeads, eqD, eqH]
  | some hidden =>
  cases eqA : c.numAttentionHeads with
  | none =>
    refine .inr (rest (fun zero => ?_) (fun _ _ _ stated_ => ?_) ?_)
    · rw [zero.heads] at eqA
      cases eqA
    · rw [eqA] at stated_
      cases stated_
    · rw [unevenHeads, eqD, eqH, eqA]
  | some heads =>
  by_cases zero : heads = 0
  · refine .inl ⟨?_, ⟨tied, intermediate, splits⟩, eqD, Option.isSome_of_eq_some eqH, ?_⟩
    · rw [splitParameters, unevenHeads, eqD, eqH, eqA]
      dsimp only
      rw [floorMod, if_pos zero, error_bind, error_bind]
    · rw [eqA, zero]
  · have notZero : ¬ SplitsZeroHeads c := by
      intro zeroHeads
      rw [zeroHeads.heads] at eqA
      exact zero (Option.some.inj eqA).symm
    have uneven : unevenHeads c = .ok (decide (hidden.fmod heads ≠ 0)) := by
      rw [unevenHeads, eqD, eqH, eqA]
      dsimp only
      rw [floorMod, if_neg zero]
      rfl
    by_cases even : hidden.fmod heads = 0
    · refine .inr (rest notZero (fun hidden' heads' eqH' eqA' _ => ?_) ?_)
      · cases Option.some.inj (eqH.symm.trans eqH')
        cases Option.some.inj (eqA.symm.trans eqA')
        exact even
      · rw [uneven, even]
        rfl
    · refine .inr (.inr ⟨?_, notZero, fun shape is => ?_⟩)
      · rw [splitParameters, uneven, ok_bind, if_pos (decide_eq_true even)]
        rfl
      · have share := is.even_share eqD
        cases Option.some.inj (eqH.symm.trans is.hidden)
        cases Option.some.inj (eqA.symm.trans is.heads)
        exact even share

end Split

section Shares
variable {shape : DenseShape} {c : ModelConfig} {total : ℤ}

/-- A share of a positive whole is the floored product. -/
lemma byteShare_eq {part whole : ℤ} (pos : 0 < whole) :
    byteShare total part whole = total * part / whole :=
  Int.fdiv_eq_ediv_of_nonneg _ (le_of_lt pos)

/-- The per-block figure of a share that is not negative is not negative. -/
lemma perBlock_nonneg {block blocks : ℤ} (nonneg : 0 ≤ block) (pos : 0 < blocks) :
    0 ≤ (block + blocks - 1).fdiv blocks := by
  rw [Int.fdiv_eq_ediv_of_nonneg _ (le_of_lt pos)]
  exact Int.ediv_nonneg (by omega) (le_of_lt pos)

/-- All bytes in the blocks are valid figures. -/
lemma uniform_valid {blocks : ℤ} (nonneg : 0 ≤ total) (pos : 0 < blocks) :
    (decompositionFigures total blocks none).Valid := by
  refine ⟨⟨nonneg, nonneg, ?_, perBlock_nonneg nonneg pos, pos⟩, ?_, trivial⟩
  · change 0 ≤ total - total
    omega
  · change total + (total - total) = total
    omega

/-- The embedding is the non-block part, or half of it. -/
lemma nonBlock_eq (shape : DenseShape) :
    shape.nonBlock = shape.vocab * shape.hidden ∨
      shape.nonBlock = 2 * (shape.vocab * shape.hidden) := by
  rw [DenseShape.nonBlock, outputHeadParameters]
  split
  · exact .inl (add_zero _)
  · exact .inr (two_mul _).symm

/-- The parts of a non-block share that is not negative are valid, when the blocks take no more than
everything. -/
lemma parts_valid {nonBlockBytes : ℤ} (nonneg : 0 ≤ nonBlockBytes)
    (all : shape.nonBlock ≤ 0 → nonBlockBytes = 0) :
    NonBlockPartsValid
      (some (if 0 < shape.nonBlock then
        byteShare nonBlockBytes (shape.vocab * shape.hidden) shape.nonBlock else 0))
      (some (if 0 < shape.nonBlock then
        nonBlockBytes - byteShare nonBlockBytes (shape.vocab * shape.hidden) shape.nonBlock else 0))
      nonBlockBytes := by
  by_cases pos : 0 < shape.nonBlock
  · rw [if_pos pos, if_pos pos, byteShare_eq pos]
    have embedding : 0 ≤ shape.vocab * shape.hidden := by
      rcases nonBlock_eq shape with eq | eq <;> omega
    have le : shape.vocab * shape.hidden ≤ shape.nonBlock := by
      rcases nonBlock_eq shape with eq | eq <;> omega
    refine ⟨Int.ediv_nonneg (mul_nonneg nonneg embedding) (le_of_lt pos), ?_, by omega⟩
    rw [sub_nonneg]
    apply Int.ediv_le_of_le_mul pos
    exact mul_le_mul_of_nonneg_left le nonneg
  · rw [if_neg pos, if_neg pos, all (le_of_not_gt pos)]
    exact ⟨le_rfl, le_rfl, add_zero 0⟩

/-- Figures split by parameters are valid exactly when neither share is negative. -/
lemma split_valid_iff (is : shape.Of c) {blocks : ℤ} (nonneg : 0 ≤ total) (pos : 0 < blocks) :
    (decompositionFigures total blocks (some shape.decomposition)).Valid ↔
      0 ≤ total * shape.block ∧ -(total * shape.nonBlock) < shape.block + shape.nonBlock := by
  have whole := is.total_pos
  have share : (decompositionFigures total blocks (some shape.decomposition)).block =
      total * shape.block / (shape.block + shape.nonBlock) := byteShare_eq whole
  have blockSign : 0 ≤ total * shape.block / (shape.block + shape.nonBlock) ↔
      0 ≤ total * shape.block := Int.ediv_nonneg_iff_of_pos whole
  have restSign : 0 ≤ total - total * shape.block / (shape.block + shape.nonBlock) ↔
      -(total * shape.nonBlock) < shape.block + shape.nonBlock := by
    rw [sub_nonneg, ← Int.lt_add_one_iff, Int.ediv_lt_iff_lt_mul whole]
    constructor
    · intro lt
      linarith
    · intro lt
      linarith
  constructor
  · rintro ⟨⟨_, block, rest, _⟩, _⟩
    rw [share] at block
    have rest' : 0 ≤ total - (decompositionFigures total blocks (some shape.decomposition)).block :=
      rest
    rw [share] at rest'
    exact ⟨blockSign.mp block, restSign.mp rest'⟩
  · rintro ⟨block, rest⟩
    have block' := blockSign.mpr block
    have rest' := restSign.mpr rest
    -- Blocks that hold more than all parameters leave nothing.
    have all : shape.nonBlock ≤ 0 →
        total - total * shape.block / (shape.block + shape.nonBlock) = 0 := by
      intro nonPos
      have le : total ≤ total * shape.block / (shape.block + shape.nonBlock) := by
        rw [Int.le_ediv_iff_mul_le whole]
        have := mul_nonpos_of_nonneg_of_nonpos nonneg nonPos
        linarith
      omega
    rw [← share] at block' rest' all
    exact ⟨⟨nonneg, block', rest', perBlock_nonneg block' pos, pos⟩, add_sub_cancel _ _,
      parts_valid rest' all⟩

end Shares

section Merged
variable (header : GgufHeaderMetadata) (base : Option ModelConfig)

/-- The flags of the merged configuration. -/
def statedFlags : List (String × Json) :=
  let c := stated header base
  mergedFlags (some header) c.rawFlags c.headDim c.numHiddenLayers c.hiddenSize c.numAttentionHeads

/-- The merged configuration: the stated one, but for its architectures and flags. -/
def mergedConfig (architectures : List String) : ModelConfig :=
  { stated header base with
    architectures := architectures
    rawFlags := statedFlags header base }

/-- The merged configuration, up to its architectures. -/
lemma merge_eq : ∃ architectures,
    (merge (some header) base).map (·.config) = some (mergedConfig header base architectures) := by
  rw [merge, if_neg (by simp)]
  exact ⟨_, rfl⟩

variable {header base}

/-- A flag that the merger does not touch. -/
lemma lookup_statedFlags {name : String} (other : name ∉ compositeFlags)
    (ne : name ≠ unsupportedHeadFlag) :
    (statedFlags header base).lookup name = (stated header base).rawFlags.lookup name := by
  rw [statedFlags, mergedFlags]
  split <;> split
  · rw [lookup_pops other, lookup_dictSet_ne ne]
  · rw [lookup_pops other]
  · rw [lookup_dictSet_ne ne]
  · rfl

/-- With layers, heads and hidden size stated, the composite flags are gone. -/
lemma lookup_composite {name : String} (composite : name ∈ compositeFlags)
    (layers : (stated header base).numHiddenLayers.isSome)
    (heads : (stated header base).numAttentionHeads.isSome)
    (hidden : (stated header base).hiddenSize.isSome) :
    (statedFlags header base).lookup name = none := by
  rw [statedFlags, mergedFlags]
  rw [if_pos ⟨layers, heads, hidden⟩]
  simp only [compositeFlags, List.mem_cons, List.not_mem_nil, or_false] at composite
  simp only [compositeFlags, List.foldl_cons, List.foldl_nil]
  rcases composite with rfl | rfl | rfl
  · rw [lookup_dictPop_ne (by decide), lookup_dictPop_ne (by decide), lookup_dictPop_self]
  · rw [lookup_dictPop_ne (by decide), lookup_dictPop_self]
  · rw [lookup_dictPop_self]

/-- No flag of the merged configuration rules a split out exactly when none of the base does. -/
lemma plain_iff {architectures : List String}
    (layers : (stated header base).numHiddenLayers.isSome)
    (heads : (stated header base).numAttentionHeads.isSome)
    (hidden : (stated header base).hiddenSize.isSome) :
    hasUnsupportedDecompositionFlags (mergedConfig header base architectures) = false ↔
      ∀ name ∈ unsupportedDecompositionFlagNames, name ∉ compositeFlags →
        ((stated header base).rawFlags.lookup name).any unsupportedFlagValue = false := by
  rw [hasUnsupportedDecompositionFlags, List.any_eq_false, mergedConfig]
  refine forall₂_congr fun name mem => ?_
  rw [Bool.not_eq_true]
  have ne : name ≠ unsupportedHeadFlag := by
    rintro rfl
    exact absurd mem (by decide)
  by_cases composite : name ∈ compositeFlags
  · rw [lookup_composite composite layers heads hidden]
    exact iff_of_true rfl fun other => absurd composite other
  · rw [lookup_statedFlags composite ne]
    exact ⟨fun plain _ => plain, fun plain => plain composite⟩

/-- Without heads or a hidden size nothing is split, and nothing divides. -/
lemma splitParameters_unstated {c : ModelConfig} {tied : Bool} {intermediate : ℤ}
    (unstated : c.numAttentionHeads = none ∨ c.hiddenSize = none) :
    splitParameters c intermediate tied = .ok none := by
  have uneven : unevenHeads c = .ok false := by
    rw [unevenHeads]
    rcases unstated with eq | eq
    · rw [eq]
      cases c.headDim <;> cases c.hiddenSize <;> rfl
    · rw [eq]
      cases c.headDim <;> rfl
  rw [splitParameters, uneven, ok_bind, if_neg (by decide)]
  split
  · rfl
  · rw [parameterComponents]
    rcases unstated with eq | eq
    · rw [eq]
      cases c.numHiddenLayers <;> cases c.hiddenSize <;> rfl
    · rw [eq]
      cases c.numHiddenLayers <;> rfl

/-- A family with a gated MLP is split when both of its flags are stated. -/
lemma estimateConfigParameterDecomposition_ofFamily {architectures : List String}
    (family : modelFamily (stated header base) ∈ supportedGatedMlpModelTypes) :
    estimateConfigParameterDecomposition (some (mergedConfig header base architectures)) =
      match (stated header base).tieWordEmbeddings, (stated header base).intermediateSize with
      | some tied, some intermediate =>
        if hasUnsupportedDecompositionFlags (mergedConfig header base architectures) then .ok none
        else splitParameters (stated header base) intermediate tied
      | _, _ => .ok none :=
  if_neg (not_not.mpr family)

/-- What the parameter split of the merged configuration comes to, when layers are stated. -/
lemma estimateConfigParameterDecomposition_spec {architectures : List String}
    (layers : (stated header base).numHiddenLayers.isSome) :
    let c := stated header base
    let split := estimateConfigParameterDecomposition (some (mergedConfig header base architectures))
    (split = .error .zeroDivision ∧ SplitsZeroHeads c) ∨
      (∃ shape : DenseShape, shape.Of c ∧ split = .ok (some shape.decomposition)) ∨
      split = .ok none ∧ ¬ SplitsZeroHeads c ∧ ∀ shape : DenseShape, ¬ shape.Of c := by
  intro c split
  -- every early return: no split, because one of its conditions fails
  have refused (none_ : split = .ok none)
      (never : ∀ tied intermediate, ¬ SplitsByParameters c tied intermediate) :
      split = .ok none ∧ ¬ SplitsZeroHeads c ∧ ∀ shape : DenseShape, ¬ shape.Of c := by
    refine ⟨none_, ?_, fun shape is => never _ _ is.splits⟩
    rintro ⟨⟨tied, intermediate, splits⟩, _⟩
    exact never tied intermediate splits
  by_cases family : modelFamily c ∈ supportedGatedMlpModelTypes
  swap
  · refine .inr (.inr (refused ?_ fun tied intermediate splits => family splits.family))
    exact if_pos family
  have start := @estimateConfigParameterDecomposition_ofFamily header base architectures family
  change split = _ at start
  cases tie : c.tieWordEmbeddings with
  | none =>
    refine .inr (.inr (refused ?_ fun tied intermediate splits => ?_))
    · rw [start, tie]
    · rw [splits.tied] at tie
      cases tie
  | some tied =>
  cases inter : c.intermediateSize with
  | none =>
    refine .inr (.inr (refused ?_ fun tied intermediate splits => ?_))
    · rw [start, tie, inter]
    · rw [splits.intermediate] at inter
      cases inter
  | some intermediate =>
  rw [tie, inter] at start
  dsimp only at start
  -- the architecture is only looked at with heads and a hidden size
  by_cases dims : c.numAttentionHeads.isSome ∧ c.hiddenSize.isSome
  · have plain := @plain_iff header base architectures layers dims.1 dims.2
    split at start
    · rename_i flagged
      refine .inr (.inr (refused start fun tied' intermediate' splits => ?_))
      rw [plain.mpr splits.plain] at flagged
      cases flagged
    · rename_i unflagged
      rw [start]
      exact splitParameters_spec ⟨family, tie, inter, plain.mp (by simpa using unflagged)⟩
  · have unstated : c.numAttentionHeads = none ∨ c.hiddenSize = none := by
      rw [not_and_or, Option.not_isSome_iff_eq_none, Option.not_isSome_iff_eq_none] at dims
      exact dims
    rw [splitParameters_unstated unstated, ite_self] at start
    refine .inr (.inr ⟨start, fun zero => ?_, fun shape is => ?_⟩)
    · rcases unstated with eq | eq
      · rw [zero.heads] at eq
        cases eq
      · have hidden := zero.hidden
        rw [eq] at hidden
        cases hidden
    · rcases unstated with eq | eq
      · rw [is.heads] at eq
        cases eq
      · rw [is.hidden] at eq
        cases eq

/-- When the weights of the merged configuration can be decomposed. -/
lemma decomposition_iff {architectures : List String} (weights : WeightEstimate) :
    (∃ estimate, addTransformerBlockDecomposition weights
        (some (mergedConfig header base architectures)) = .ok estimate) ↔
      DecompositionSound (stated header base) weights.component.bytes := by
  have blocks : (mergedConfig header base architectures).numHiddenLayers =
      (stated header base).numHiddenLayers := rfl
  rw [addTransformerBlockDecomposition, DecompositionSound, Option.bind_some, blocks]
  cases bytes : weights.component.bytes with
  | none => exact iff_of_true ⟨_, rfl⟩ fun _ _ known => by cases known
  | some total =>
  cases known : (stated header base).numHiddenLayers with
  | none => exact iff_of_true ⟨_, rfl⟩ fun _ _ _ _ known => by cases known
  | some layers =>
  dsimp only
  split
  · -- the guard of the function: nothing to split
    rename_i idle
    refine iff_of_true ⟨_, rfl⟩ fun total' layers' eq nonneg eq' pos => ?_
    cases eq
    cases eq'
    omega
  · rename_i busy
    push Not at busy
    have whole : (∀ total' layers', some total = some total' → 0 ≤ total' →
          some layers = some layers' → 0 < layers' →
          ¬ SplitsZeroHeads (stated header base) ∧ ∀ shape : DenseShape,
            shape.Of (stated header base) → 0 ≤ total' * shape.block ∧
              -(total' * shape.nonBlock) < shape.block + shape.nonBlock) ↔
        ¬ SplitsZeroHeads (stated header base) ∧ ∀ shape : DenseShape,
          shape.Of (stated header base) → 0 ≤ total * shape.block ∧
            -(total * shape.nonBlock) < shape.block + shape.nonBlock := by
      constructor
      · exact fun all => all total layers rfl busy.1 rfl busy.2
      · rintro sound _ _ ⟨⟩ _ ⟨⟩ _
        exact sound
    rw [whole]
    have spec := @estimateConfigParameterDecomposition_spec header base architectures
      (Option.isSome_of_eq_some known)
    dsimp only at spec
    rcases spec with ⟨eq, zero⟩ | ⟨shape, is, eq⟩ | ⟨eq, notZero, noShape⟩
    · rw [eq, error_bind]
      refine iff_of_false ?_ fun sound => sound.1 zero
      rintro ⟨_, ⟨⟩⟩
    · rw [eq, ok_bind, DecompositionFigures.validate]
      have valid := split_valid_iff is busy.1 busy.2
      split
      · rename_i ok
        refine iff_of_true ⟨_, rfl⟩ ⟨fun zero => zero.not_of shape is, fun shape' is' => ?_⟩
        rw [is'.unique is]
        exact valid.mp ok
      · rename_i invalid
        refine iff_of_false ?_ fun sound => invalid (valid.mpr (sound.2 shape is))
        rintro ⟨_, ⟨⟩⟩
    · rw [eq, ok_bind, DecompositionFigures.validate, dif_pos (uniform_valid busy.1 busy.2)]
      exact iff_of_true ⟨_, rfl⟩ ⟨notZero, fun shape is => absurd is (noShape shape)⟩

end Merged

section Cache
variable {header : GgufHeaderMetadata} {base : Option ModelConfig} {architectures : List String}

/-- The context the code sizes for is the one in force. -/
lemma applySlidingWindow_fst (c : ModelConfig) (contextLength : ℤ) :
    (applySlidingWindow c contextLength).1 = contextInForce c contextLength := by
  rw [applySlidingWindow, contextInForce]
  cases c.slidingWindow with
  | none => rfl
  | some window =>
    dsimp only
    by_cases idle : window = 0 ∨ contextLength ≤ window
    · rw [if_pos idle]
      refine (if_neg ?_).symm
      rintro ⟨nonzero, lt, _⟩
      rcases idle with zero | le
      · exact nonzero zero
      · exact absurd lt (not_lt_of_ge le)
    · rw [if_neg idle]
      push Not at idle
      cases c.useSlidingWindow with
      | none =>
        dsimp only
        by_cases always : modelFamily c ∈ windowAlwaysActiveModelTypes
        · rw [if_pos always]
          exact (if_pos ⟨idle.1, idle.2, .inr ⟨rfl, always⟩⟩).symm
        · rw [if_neg always]
          refine (if_neg ?_).symm
          rintro ⟨_, _, use | ⟨_, mem⟩⟩
          · cases use
          · exact always mem
      | some use =>
        cases use with
        | true => exact (if_pos ⟨idle.1, idle.2, .inl rfl⟩).symm
        | false =>
          refine (if_neg ?_).symm
          rintro ⟨_, _, use | ⟨use, _⟩⟩
          · cases use
          · cases use

/-- The attention of the merged configuration is known to the code exactly when it is of no unknown
kind. -/
lemma detectExoticArchitecture_iff
    (layers : (stated header base).numHiddenLayers.isSome)
    (heads : (stated header base).numAttentionHeads.isSome)
    (hidden : (stated header base).hiddenSize.isSome) :
    detectExoticArchitecture (mergedConfig header base architectures) = none ↔
      ¬ UnknownAttention header (stated header base) := by
  have unequal : ((statedFlags header base).lookup "unsupported_kv_head_dimensions").any
      Json.truthy = true ↔ _ :=
    unsupportedHeads_mergedFlags header (stated header base).rawFlags _ _ _ _
  -- the merge drops the composite configurations where all dimensions are stated
  have composite : ["text_config", "vision_config", "audio_config"].any
      (hasFlag (statedFlags header base)) = false := by
    rw [List.any_eq_false]
    intro name mem
    rw [hasFlag, lookup_composite mem layers heads hidden]
    exact Bool.false_ne_true
  -- and keeps the other flags as the base has them
  have kept (name : String) (other : name ∉ compositeFlags) (ne : name ≠ unsupportedHeadFlag) :
      hasFlag (statedFlags header base) name = hasFlag (stated header base).rawFlags name := by
    rw [hasFlag, hasFlag, lookup_statedFlags other ne]
  rw [detectExoticArchitecture]
  change (if ((statedFlags header base).lookup _).any _ = true then _
    else if ["q_lora_rank", "kv_lora_rank"].any (hasFlag (statedFlags header base)) = true then _
    else if ["text_config", "vision_config", "audio_config"].any
      (hasFlag (statedFlags header base)) = true then _
    else if hasFlag (statedFlags header base) "auto_map" = true then _ else none) = none ↔ _
  rw [composite, kept "auto_map" (by decide) (by decide), UnknownAttention, ← unequal]
  simp only [List.any_cons, List.any_nil, Bool.or_false, Bool.or_eq_true,
    kept "q_lora_rank" (by decide) (by decide), kept "kv_lora_rank" (by decide) (by decide),
    List.mem_cons, List.not_mem_nil, or_false, exists_eq_or_imp, exists_eq_left]
  split
  · rename_i set
    exact iff_of_false (Option.some_ne_none _) fun known => known (.inl set)
  · rename_i unset
    split
    · rename_i latent
      refine iff_of_false (Option.some_ne_none _) fun known => known (.inr ?_)
      tauto
    · rename_i notLatent
      rw [if_neg Bool.false_ne_true]
      split
      · rename_i custom
        exact iff_of_false (Option.some_ne_none _) fun known => known (.inr (.inr (.inr custom)))
      · rename_i plain
        refine iff_of_true rfl ?_
        tauto

/-- The size of a whole element is positive, unless elements take half a byte. -/
lemma dtypeBytes_pos_iff (dtype : WeightPrecision) :
    0 < ⌊bytesPerParameter dtype⌋ ↔ dtype ≠ .int4 := by
  cases dtype <;> decide +kernel

/-- The bytes of a known cache. -/
lemma knownKvCache_pos_iff {c : ModelConfig} {layers heads headDim contextLength batchSize
    dtypeBytes concurrentUsers : ℤ} (batch : 0 < batchSize) (users : 0 < concurrentUsers)
    (nonneg : 0 ≤ dtypeBytes) :
    (∀ bytes, (knownKvCache c layers heads headDim contextLength batchSize dtypeBytes
        concurrentUsers).component.bytes = some bytes → 0 < bytes) ↔
      0 < dtypeBytes ∧ 0 < [layers, orInt c.numKeyValueHeads heads, headDim,
        contextInForce c contextLength].prod := by
  have bytes_eq : (knownKvCache c layers heads headDim contextLength batchSize dtypeBytes
      concurrentUsers).component.bytes =
        some (2 * layers * orInt c.numKeyValueHeads heads * headDim *
          (applySlidingWindow c contextLength).1 * batchSize * concurrentUsers * dtypeBytes) := rfl
  have split_ : 2 * layers * orInt c.numKeyValueHeads heads * headDim *
        (applySlidingWindow c contextLength).1 * batchSize * concurrentUsers * dtypeBytes =
      [layers, orInt c.numKeyValueHeads heads, headDim, contextInForce c contextLength].prod *
        (2 * batchSize * concurrentUsers) * dtypeBytes := by
    rw [applySlidingWindow_fst]
    simp only [List.prod_cons, List.prod_nil, mul_one]
    ring
  have scale : 0 < 2 * batchSize * concurrentUsers := by positivity
  rw [bytes_eq, split_]
  constructor
  · intro pos
    have product := pos _ rfl
    have dtype : 0 < dtypeBytes := by
      rcases lt_or_eq_of_le nonneg with pos | zero
      · exact pos
      · rw [← zero, mul_zero] at product
        exact absurd product (lt_irrefl 0)
    exact ⟨dtype, pos_of_mul_pos_left (pos_of_mul_pos_left product (le_of_lt dtype)) (le_of_lt scale)⟩
  · rintro ⟨dtype, product⟩ _ ⟨⟩
    exact mul_pos (mul_pos product scale) dtype

/-- The head dimension is found, unless zero heads would have to divide. -/
lemma headDimension_cases (c : ModelConfig) (hidden heads : ℤ) :
    (headDimension c hidden heads = .ok (orInt c.headDim (hidden.fdiv heads)) ∧
        (orInt c.headDim 0 = 0 → heads ≠ 0)) ∨
      headDimension c hidden heads = .error .zeroDivision ∧ orInt c.headDim 0 = 0 ∧ heads = 0 := by
  by_cases nonzero : heads = 0
  · rw [headDimension, floorDiv, if_pos nonzero]
    cases c.headDim with
    | none => exact .inr ⟨rfl, rfl, nonzero⟩
    | some dim =>
      dsimp only [orInt]
      split
      · exact .inr ⟨rfl, rfl, nonzero⟩
      · rename_i stated_
        exact .inl ⟨rfl, fun zero => absurd zero stated_⟩
  · exact .inl ⟨headDimension_eq nonzero, fun _ => nonzero⟩

/-- When the cache of the merged configuration is unknown or positive. -/
lemma kvCache_iff {inference : InferenceConfiguration} (batch : 0 < inference.batchSize)
    (users : 0 < inference.concurrentUsers) :
    (∃ kvCache, estimateKvCache (some (mergedConfig header base architectures))
        inference.contextLength inference.batchSize inference.kvCacheDtype
        inference.concurrentUsers = .ok kvCache ∧
      ∀ bytes, kvCache.component.bytes = some bytes → 0 < bytes) ↔
      KvSound header (stated header base) inference := by
  have unknown (reason : String) :
      ∃ kvCache, Except.ok (unknownKvCache inference.contextLength inference.batchSize
          ⌊bytesPerParameter inference.kvCacheDtype⌋ reason) =
            (.ok kvCache : Except EstimateError KvCacheEstimate) ∧
        ∀ bytes, kvCache.component.bytes = some bytes → 0 < bytes :=
    ⟨_, rfl, fun bytes known => by cases known⟩
  have fieldL : (mergedConfig header base architectures).numHiddenLayers =
      (stated header base).numHiddenLayers := rfl
  have fieldA : (mergedConfig header base architectures).numAttentionHeads =
      (stated header base).numAttentionHeads := rfl
  have fieldH : (mergedConfig header base architectures).hiddenSize =
      (stated header base).hiddenSize := rfl
  have detect := @detectExoticArchitecture_iff header base architectures
  rw [estimateKvCache, KvSound]
  dsimp only
  -- an unknown attention is left unsized, and so are unstated dimensions
  cases known : detectExoticArchitecture (mergedConfig header base architectures) with
  | some exotic =>
    refine iff_of_true (unknown _) fun layers heads hidden eqL eqA eqH plain => ?_
    have plain' := (detect (Option.isSome_of_eq_some eqL) (Option.isSome_of_eq_some eqA)
      (Option.isSome_of_eq_some eqH)).mpr plain
    rw [known] at plain'
    cases plain'
  | none =>
    dsimp only
    rw [fieldL, fieldA, fieldH]
    cases eqL : (stated header base).numHiddenLayers with
    | none => exact iff_of_true (unknown _) fun _ _ _ none_ => by cases none_
    | some layers =>
    cases eqA : (stated header base).numAttentionHeads with
    | none => exact iff_of_true (unknown _) fun _ _ _ _ none_ => by cases none_
    | some heads =>
    cases eqH : (stated header base).hiddenSize with
    | none => exact iff_of_true (unknown _) fun _ _ _ _ _ none_ => by cases none_
    | some hidden =>
    -- all three are stated and the attention is known, so the cache is sized
    have plain := (detect (Option.isSome_of_eq_some eqL) (Option.isSome_of_eq_some eqA)
      (Option.isSome_of_eq_some eqH)).mp known
    -- its bytes are positive when the element is whole and every dimension is positive
    have pos := @knownKvCache_pos_iff (mergedConfig header base architectures) layers heads
      (orInt (stated header base).headDim (hidden.fdiv heads)) inference.contextLength _
      ⌊bytesPerParameter inference.kvCacheDtype⌋ _ batch users
      (by cases inference.kvCacheDtype <;> decide +kernel)
    rw [dtypeBytes_pos_iff, prod_pos_iff] at pos
    have division : headDimension (mergedConfig header base architectures) hidden heads =
        headDimension (stated header base) hidden heads := rfl
    dsimp only
    rw [division]
    rcases headDimension_cases (stated header base) hidden heads with
      ⟨eq, divides⟩ | ⟨eq, zeroDim, zeroHeads⟩
    · rw [eq, ok_bind]
      constructor
      · rintro ⟨_, ⟨⟩, all⟩ _ _ _ ⟨⟩ ⟨⟩ ⟨⟩ _
        obtain ⟨dtype, signs⟩ := pos.mp all
        exact ⟨dtype, divides, signs⟩
      · intro sound
        obtain ⟨dtype, _, signs⟩ := sound layers heads hidden rfl rfl rfl plain
        exact ⟨_, rfl, pos.mpr ⟨dtype, signs⟩⟩
    · rw [eq, error_bind]
      refine iff_of_false ?_ fun sound => ?_
      · rintro ⟨_, ⟨⟩, _⟩
      · exact (sound layers heads hidden rfl rfl rfl plain).2.1 zeroDim zeroHeads

end Cache

/-- For every header, base configuration and weight estimate, and every batch size and number of users the
validators accept, the chain returns and its KV cache is unknown or positive exactly when the stated
dimensions let the weights be decomposed and the cache be sized. -/
theorem estimateFromHeader_iff (header : GgufHeaderMetadata) (base : Option ModelConfig)
    (weights : WeightEstimate) {inference : InferenceConfiguration}
    (batch : 0 < inference.batchSize) (users : 1 ≤ inference.concurrentUsers) :
    (∃ estimate kvCache,
        estimateFromHeader header base weights inference = .ok (estimate, kvCache) ∧
        ∀ bytes, kvCache.component.bytes = some bytes → 0 < bytes) ↔
      DecompositionSound (stated header base) weights.component.bytes ∧
        KvSound header (stated header base) inference := by
  obtain ⟨architectures, merged⟩ := merge_eq header base
  rw [← @decomposition_iff header base architectures weights,
    ← @kvCache_iff header base architectures inference batch users, estimateFromHeader, merged]
  constructor
  · rintro ⟨estimate, kvCache, eq, all⟩
    cases eqW : addTransformerBlockDecomposition weights
        (some (mergedConfig header base architectures)) with
    | error e =>
      rw [eqW, error_bind] at eq
      cases eq
    | ok estimate' =>
      rw [eqW, ok_bind] at eq
      cases eqK : estimateKvCache (some (mergedConfig header base architectures))
          inference.contextLength inference.batchSize inference.kvCacheDtype
          inference.concurrentUsers with
      | error e =>
        rw [eqK, error_bind] at eq
        cases eq
      | ok kvCache' =>
        rw [eqK, ok_bind] at eq
        cases eq
        exact ⟨⟨_, rfl⟩, _, rfl, all⟩
  · rintro ⟨⟨estimate, eqW⟩, kvCache, eqK, all⟩
    refine ⟨estimate, kvCache, ?_, all⟩
    rw [eqW, ok_bind, eqK]
    rfl

/-- A file that states zero attention heads. -/
def zeroHeadsFile : List UInt8 :=
  writeFile
    [writeTextEntry "general.architecture" "llama", writeIntEntry "llama.embedding_length" 4096,
      writeIntEntry "llama.block_count" 32, writeIntEntry "llama.attention.head_count" 0]

/-- Its header. -/
def zeroHeadsHeader : GgufHeaderMetadata :=
  (parseHeader zeroHeadsFile).header?.getD {}

/-- Weights of unknown size. -/
def unknownWeights : WeightEstimate where
  component := ⟨"Weights", none, .unknown, .unknown, "File size is not known."⟩

/-- A header of zero heads, on both sides of the equivalence. -/
theorem estimateFromHeader_iff_zeroHeads :
    (∃ estimate kvCache, estimateFromHeader zeroHeadsHeader none unknownWeights
          { contextLength := 4096 } = .ok (estimate, kvCache) ∧
        ∀ bytes, kvCache.component.bytes = some bytes → 0 < bytes) ↔
      DecompositionSound (stated zeroHeadsHeader none) unknownWeights.component.bytes ∧
        KvSound zeroHeadsHeader (stated zeroHeadsHeader none) { contextLength := 4096 } :=
  estimateFromHeader_iff zeroHeadsHeader none unknownWeights (by decide) (by decide)

/-- The header of `zeroHeadsFile` is accepted, and the chain divides by its heads. -/
theorem estimateFromHeader_zero_heads :
    parseHeader zeroHeadsFile = .header zeroHeadsHeader ∧
      estimateFromHeader zeroHeadsHeader none unknownWeights { contextLength := 4096 } =
        .error .zeroDivision :=
  ⟨Parsed.eq_header (by decide +kernel), by decide +kernel⟩

end Jaull.Estimator
