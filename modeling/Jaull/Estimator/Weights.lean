import Jaull.Estimator.KvCache

/-!
# Weight decomposition

Port of `add_transformer_block_decomposition` of `jaull/estimator/weights.py` and of the parameter split
of `jaull/domain/parameters.py` it rests on.
-/

namespace Jaull.Estimator
open Jaull.Domain Jaull.Lib Jaull.Text

/-- Python `_SUPPORTED_GATED_MLP_MODEL_TYPES`. -/
def supportedGatedMlpModelTypes : List String :=
  ["gemma", "gemma2", "gemma3", "llama", "mistral", "phi3", "qwen2", "qwen3"]

/-- Python `_UNSUPPORTED_DECOMPOSITION_FLAG_NAMES`. -/
def unsupportedDecompositionFlagNames : List String :=
  ["audio_config", "auto_map", "kv_lora_rank", "moe_intermediate_size", "num_experts",
    "num_experts_per_tok", "num_local_experts", "q_lora_rank", "qk_nope_head_dim",
    "qk_rope_head_dim", "text_config", "v_head_dim", "vision_config"]

/-- Whether the value of such a flag rules a split out. -/
def unsupportedFlagValue : Json → Bool
  | .null => false
  | .bool b => b
  | .int n => 0 < n
  | .float x => x.isPositive
  | _ => true

/-- Python `_has_unsupported_decomposition_flags`. -/
def hasUnsupportedDecompositionFlags (config : ModelConfig) : Bool :=
  unsupportedDecompositionFlagNames.any fun name =>
    (config.rawFlags.lookup name).any unsupportedFlagValue

/-- Parameters of the transformer blocks. -/
def blockParameters (layers hidden heads kvHeads headDim intermediate : ℤ) : ℤ :=
  layers * ((hidden * heads * headDim + 2 * hidden * kvHeads * headDim + hidden * hidden) +
    3 * hidden * intermediate)

/-- Parameters of the output head. -/
def outputHeadParameters (vocab hidden : ℤ) (tied : Bool) : ℤ :=
  if tied then 0 else vocab * hidden

/-- Python `_parameter_components`. -/
def parameterComponents (config : ModelConfig) (intermediateSize : ℤ) (tieWordEmbeddings : Bool) :
    Except EstimateError (Option ConfigParameterDecomposition) :=
  match config.numHiddenLayers, config.hiddenSize, config.numAttentionHeads, config.vocabSize with
  | some layers, some hidden, some heads, some vocab =>
    if layers = 0 ∨ hidden = 0 ∨ heads = 0 ∨ vocab = 0 ∨ intermediateSize ≤ 0 then .ok none
    else do
      let headDim ← headDimension config hidden heads
      let kvHeads := orInt config.numKeyValueHeads heads
      if headDim ≤ 0 ∨ kvHeads ≤ 0 then return none
      else
        let block := blockParameters layers hidden heads kvHeads headDim intermediateSize
        let embedding := vocab * hidden
        let outputHead := outputHeadParameters vocab hidden tieWordEmbeddings
        let nonBlock := embedding + outputHead
        let total := block + nonBlock
        if total ≤ 0 then return none
        else
          return some
            { totalParameters := total
              transformerBlockParameters := block
              nonBlockParameters := nonBlock
              embeddingParameters := embedding
              outputHeadParameters := outputHead
              totalTransformerBlocks := layers }
  | _, _, _, _ => .ok none

/-- The guard on an uneven share: without a stated head dimension the hidden size divides by the heads
(in Python `estimate_config_parameter_decomposition`). -/
def unevenHeads (config : ModelConfig) : Except EstimateError Bool :=
  match config.headDim, config.hiddenSize, config.numAttentionHeads with
  | none, some hidden, some heads => do
    let rest ← floorMod hidden heads
    return rest ≠ 0
  | _, _, _ => .ok false

/-- The guards on heads, and the split of a configuration that passes them. -/
def splitParameters (config : ModelConfig) (intermediate : ℤ) (tied : Bool) :
    Except EstimateError (Option ConfigParameterDecomposition) := do
  let uneven ← unevenHeads config
  if uneven then return none
  else if config.numAttentionHeads.any fun heads =>
      heads < orInt config.numKeyValueHeads heads then return none
  else parameterComponents config intermediate tied

/-- Python `estimate_config_parameter_decomposition`. -/
def estimateConfigParameterDecomposition (config : Option ModelConfig) :
    Except EstimateError (Option ConfigParameterDecomposition) :=
  match config with
  | none => .ok none
  | some config =>
    if modelFamily config ∉ supportedGatedMlpModelTypes then .ok none
    else
      match config.tieWordEmbeddings, config.intermediateSize with
      | some tied, some intermediate =>
        if hasUnsupportedDecompositionFlags config then .ok none
        else splitParameters config intermediate tied
      | _, _ => .ok none

instance (embedding outputHead : Option ℤ) (nonBlock : ℤ) :
    Decidable (NonBlockPartsValid embedding outputHead nonBlock) :=
  match embedding, outputHead with
  | none, none => inferInstanceAs (Decidable True)
  | some e, some o => inferInstanceAs (Decidable (0 ≤ e ∧ 0 ≤ o ∧ e + o = nonBlock))
  | none, some _ => inferInstanceAs (Decidable False)
  | some _, none => inferInstanceAs (Decidable False)

/-- The figures of a decomposition before its validators have seen them. -/
structure DecompositionFigures where
  total : ℤ
  block : ℤ
  nonBlock : ℤ
  embedding : Option ℤ
  outputHead : Option ℤ
  perBlock : ℤ
  blocks : ℤ
  method : TransformerBlockWeightDecompositionMethod
  deriving DecidableEq, Repr

/-- What the validators of Python `TransformerBlockWeightDecomposition` check. -/
def DecompositionFigures.Valid (figures : DecompositionFigures) : Prop :=
  (0 ≤ figures.total ∧ 0 ≤ figures.block ∧ 0 ≤ figures.nonBlock ∧ 0 ≤ figures.perBlock ∧
      0 < figures.blocks) ∧
    figures.block + figures.nonBlock = figures.total ∧
    NonBlockPartsValid figures.embedding figures.outputHead figures.nonBlock

instance (figures : DecompositionFigures) : Decidable figures.Valid :=
  inferInstanceAs (Decidable (_ ∧ _ ∧ _))

/-- Python `TransformerBlockWeightDecomposition(...)`. -/
def DecompositionFigures.validate (figures : DecompositionFigures) :
    Except EstimateError TransformerBlockWeightDecomposition :=
  if valid : figures.Valid then
    .ok
      { totalWeightBytes := figures.total
        estimatedTransformerBlockWeightBytes := figures.block
        estimatedNonBlockWeightBytes := figures.nonBlock
        estimatedEmbeddingWeightBytes := figures.embedding
        estimatedOutputHeadWeightBytes := figures.outputHead
        estimatedBytesPerTransformerBlock := figures.perBlock
        totalTransformerBlocks := figures.blocks
        method := figures.method
        total_nonneg := valid.1.1
        block_nonneg := valid.1.2.1
        nonBlock_nonneg := valid.1.2.2.1
        perBlock_nonneg := valid.1.2.2.2.1
        blocks_pos := valid.1.2.2.2.2
        conserved := valid.2.1
        parts_valid := valid.2.2 }
  else .error .validation

/-- The share of `total` bytes that `part` of `whole` parameters take, rounded down. -/
def byteShare (total part whole : ℤ) : ℤ :=
  (total * part).fdiv whole

/-- The figures of a total of weight bytes over a number of blocks: split by parameters, or all in the
blocks when the configuration has no parameter split. Remainders go to the non-block bytes and to the
output head. -/
def decompositionFigures (total blocks : ℤ) (split : Option ConfigParameterDecomposition) :
    DecompositionFigures :=
  let block :=
    match split with
    | none => total
    | some split => byteShare total split.transformerBlockParameters split.totalParameters
  let nonBlock := total - block
  let embedding := split.map fun split =>
    if 0 < split.nonBlockParameters then
      byteShare nonBlock split.embeddingParameters split.nonBlockParameters
    else 0
  let outputHead := split.map fun split =>
    if 0 < split.nonBlockParameters then
      nonBlock - byteShare nonBlock split.embeddingParameters split.nonBlockParameters
    else 0
  { total := total
    block := block
    nonBlock := nonBlock
    embedding := embedding
    outputHead := outputHead
    perBlock := (block + blocks - 1).fdiv blocks
    blocks := blocks
    method :=
      if split.isSome then .configParameterDecomposition else .uniformWeightFallback }

/-- Python `add_transformer_block_decomposition`. The divisors are positive: the guards leave a positive
number of blocks, and a split has a positive total. -/
def addTransformerBlockDecomposition (estimate : WeightEstimate) (config : Option ModelConfig) :
    Except EstimateError WeightEstimate :=
  match estimate.component.bytes, config.bind (·.numHiddenLayers) with
  | some total, some blocks =>
    if total < 0 ∨ blocks ≤ 0 then .ok estimate
    else do
      let split ← estimateConfigParameterDecomposition config
      let decomposition ← (decompositionFigures total blocks split).validate
      return { estimate with transformerBlockDecomposition := some decomposition }
  | _, _ => .ok estimate

end Jaull.Estimator
