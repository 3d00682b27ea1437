import Jaull.Estimator.BlockSearch
import Jaull.Estimator.Conservation
import Jaull.Estimator.UntrustedHeader

/-!
# Decomposed weights

What `add_transformer_block_decomposition` attaches to an estimate when the dimensions of the
configuration are positive or not stated: a decomposition that conserves the bytes, passes its validators
and is the one that `analyze_components` places.
-/

namespace Jaull.Estimator
open Jaull.Domain Jaull.Lib

/-- The dimensions that a configuration states are positive. -/
structure PositiveDims (c : ModelConfig) : Prop where
  layers : ∀ n, c.numHiddenLayers = some n → 0 < n
  hidden : ∀ n, c.hiddenSize = some n → 0 < n
  heads : ∀ n, c.numAttentionHeads = some n → 0 < n
  kvHeads : ∀ n, c.numKeyValueHeads = some n → 0 < n
  headDim : ∀ n, c.headDim = some n → 0 < n
  intermediate : ∀ n, c.intermediateSize = some n → 0 < n
  vocab : ∀ n, c.vocabSize = some n → 0 < n

section Shapes
variable {c : ModelConfig} {shape : DenseShape}

/-- Positive dimensions leave neither share negative. -/
lemma PositiveDims.shape_nonneg (dims : PositiveDims c) (is : shape.Of c) :
    0 ≤ shape.block ∧ 0 ≤ shape.nonBlock := by
  have layers := dims.layers _ is.layers
  have hidden := dims.hidden _ is.hidden
  have heads := dims.heads _ is.heads
  have vocab := dims.vocab _ is.vocab
  have kvHeads := is.kvHeads_pos
  have headDim := is.headDim_pos
  have intermediate := is.intermediate_pos
  constructor
  · rw [DenseShape.block, blockParameters]
    positivity
  · have embedding : 0 ≤ shape.vocab * shape.hidden := by positivity
    cases nonBlock_eq shape with
    | inl eq => omega
    | inr eq => omega

/-- A configuration with positive dimensions is split by its shape, or not at all. -/
lemma PositiveDims.split (dims : PositiveDims c) :
    ∃ split, estimateConfigParameterDecomposition (some c) = .ok split ∧
      ∀ s, split = some s → ∃ shape : DenseShape, shape.Of c ∧ s = shape.decomposition := by
  have never : ∀ s : ConfigParameterDecomposition, none = some s →
      ∃ shape : DenseShape, shape.Of c ∧ s = shape.decomposition := by
    intro s eq
    cases eq
  rw [estimateConfigParameterDecomposition]
  by_cases family : modelFamily c ∈ supportedGatedMlpModelTypes
  swap
  · exact ⟨none, if_pos family, never⟩
  rw [if_neg (not_not.mpr family)]
  cases tie : c.tieWordEmbeddings with
  | none => exact ⟨none, rfl, never⟩
  | some tied =>
  cases inter : c.intermediateSize with
  | none => exact ⟨none, rfl, never⟩
  | some intermediate =>
  dsimp only
  by_cases flagged : hasUnsupportedDecompositionFlags c = true
  · exact ⟨none, if_pos flagged, never⟩
  rw [if_neg flagged]
  have plain : ∀ name ∈ unsupportedDecompositionFlagNames, name ∉ Metadata.compositeFlags →
      (c.rawFlags.lookup name).any unsupportedFlagValue = false := by
    intro name mem _
    rw [hasUnsupportedDecompositionFlags, Bool.not_eq_true, List.any_eq_false] at flagged
    exact Bool.eq_false_iff.mpr (flagged name mem)
  rcases splitParameters_spec ⟨family, tie, inter, plain⟩ with ⟨_, zero⟩ | ⟨shape, is, eq⟩ | ⟨eq, _⟩
  · exact absurd (dims.heads 0 zero.heads) (lt_irrefl 0)
  · refine ⟨_, eq, ?_⟩
    intro s same
    cases same
    exact ⟨shape, is, rfl⟩
  · exact ⟨none, eq, never⟩

end Shapes

section Placed
variable {c : MemoryComponents} {d : TransformerBlockWeightDecomposition}

/-- The weight bytes that a number of blocks puts on the GPU by this decomposition: the rounded share of
its block bytes with all other bytes, or whole blocks at its figure for one. -/
def TransformerBlockWeightDecomposition.gpuWeightBytes (d : TransformerBlockWeightDecomposition)
    (n : ℤ) : ℤ :=
  if d.method = .configParameterDecomposition then
    ⌈(d.estimatedTransformerBlockWeightBytes * n / d.totalTransformerBlocks : ℚ)⌉ +
      d.estimatedNonBlockWeightBytes
  else min d.totalWeightBytes (n * d.estimatedBytesPerTransformerBlock)

/-- The analysis of the same weights and blocks takes the decomposition: it gives a result for these
blocks, and what it offloads is what the decomposition says. -/
def Accepts (c : MemoryComponents) (hardware : HardwareProfile)
    (d : TransformerBlockWeightDecomposition) : Prop :=
  ∃ fit, analyzeComponents c hardware (some d.totalTransformerBlocks) none (some d) = .ok fit ∧
    fit.totalTransformerBlocks = some d.totalTransformerBlocks ∧
    (fit.mode = .gpuOffload → ∃ n, 0 < n ∧ fit.gpuTransformerBlocks = some n ∧
      fit.gpuWeightBytes = TransformerBlockWeightDecomposition.gpuWeightBytes d n)

/-- The figure for one block covers the block bytes, by less than one byte a block. -/
structure Rounded (d : TransformerBlockWeightDecomposition) : Prop where
  covers : d.estimatedTransformerBlockWeightBytes ≤
    d.estimatedBytesPerTransformerBlock * d.totalTransformerBlocks
  tight : d.estimatedBytesPerTransformerBlock * d.totalTransformerBlocks ≤
    d.estimatedTransformerBlockWeightBytes + (d.totalTransformerBlocks - 1)
  uniform : d.method = .uniformWeightFallback →
    d.estimatedTransformerBlockWeightBytes = d.totalWeightBytes

variable {request : OffloadRequest}

/-- The weights of a request are charged as its decomposition says. -/
lemma gpuWeightBytes_eq (rounded : Rounded d) (given : request.weightDecomposition = some d)
    (weights : d.totalWeightBytes = request.components.weightsBytes) (n : ℤ) :
    request.gpuWeightBytes d.totalTransformerBlocks n =
      TransformerBlockWeightDecomposition.gpuWeightBytes d n := by
  have pos := d.blocks_pos
  rw [OffloadRequest.gpuWeightBytes, TransformerBlockWeightDecomposition.gpuWeightBytes,
    OffloadRequest.decomposition, given]
  cases method : d.method with
  | configParameterDecomposition =>
    rw [Option.filter_some_pos (by rw [method]; rfl), if_pos rfl]
    dsimp only
    rw [gpuBlockBytes_eq pos, ceilShare, mul_div_assoc]
  | uniformWeightFallback =>
    rw [Option.filter_some_neg (by rw [method]; decide), if_neg (by decide)]
    dsimp only
    have one : request.bytesPerTransformerBlock d.totalTransformerBlocks =
        d.estimatedBytesPerTransformerBlock := by
      have posQ : (0 : ℚ) < d.totalTransformerBlocks := by exact_mod_cast pos
      rw [OffloadRequest.bytesPerTransformerBlock, Int.ceil_eq_iff, ← weights,
        ← rounded.uniform method, lt_div_iff₀ posQ, div_le_iff₀ posQ]
      constructor
      · have tight := rounded.tight
        have strict : (d.estimatedBytesPerTransformerBlock - 1) * d.totalTransformerBlocks <
            d.estimatedTransformerBlockWeightBytes := by linarith
        exact_mod_cast strict
      · exact_mod_cast rounded.covers
    rw [one, weights]

/-- A placement keeps the weight share and the blocks it was asked for. -/
lemma calculateOffloadPlacement_weight {total gpu : Option ℤ} {gpuWeight : ℤ}
    {placement : OffloadPlacement}
    (eq : calculateOffloadPlacement c total gpu gpuWeight = some placement) :
    placement.gpuWeightBytes = gpuWeight ∧ placement.gpuTransformerBlocks = gpu ∧
      placement.totalTransformerBlocks = total := by
  rw [calculateOffloadPlacement] at eq
  split at eq
  · cases eq
  · cases eq
    exact ⟨rfl, rfl, rfl⟩

/-- What the block search returns for a number of blocks holds their weights. -/
lemma tryBlockOffload_weight {totalBlocks : ℤ} {fit : HardwareFitResult}
    (run : request.tryBlockOffload totalBlocks = .ok (some fit)) :
    ∃ n : ℤ, 0 < n ∧ fit.gpuTransformerBlocks = some n ∧
      fit.totalTransformerBlocks = some totalBlocks ∧
      fit.gpuWeightBytes = request.gpuWeightBytes totalBlocks n := by
  rw [OffloadRequest.tryBlockOffload] at run
  split at run
  · cases run
  · cases run
  obtain ⟨n, lastRejected, pos, _, done⟩ := forDown_some run
  obtain ⟨placement, diagnostics, placed, _, _, rfl⟩ := OffloadRequest.blockPass_done done
  have found : ∃ placement', calculateOffloadPlacement request.components (some totalBlocks)
      (some (n : ℤ)) (request.gpuWeightBytes totalBlocks n) = some placement' ∧
      placement.gpuWeightBytes = placement'.gpuWeightBytes ∧
      placement.gpuTransformerBlocks = placement'.gpuTransformerBlocks ∧
      placement.totalTransformerBlocks = placement'.totalTransformerBlocks := by
    rw [OffloadRequest.blockPlacement] at placed
    split at placed
    · cases placed
    rename_i placement' eq
    refine ⟨placement', eq, ?_⟩
    split at placed
    · cases placed
      exact ⟨rfl, rfl, rfl⟩
    · dsimp only at placed
      split at placed
      · cases placed
      split at placed
      · cases placed
      · cases placed
        exact ⟨rfl, rfl, rfl⟩
  obtain ⟨placement', eq, weight, gpu, total⟩ := found
  obtain ⟨weight', gpu', total'⟩ := calculateOffloadPlacement_weight eq
  exact ⟨n, by exact_mod_cast pos, gpu.trans gpu', total.trans total', weight.trans weight'⟩

/-- The analysis takes a decomposition of its own weights. -/
lemma accepts_of_rounded (rounded : Rounded d) (nonneg : c.Nonneg)
    (weights : c.weightsBytes = d.totalWeightBytes) (hardware : HardwareProfile) :
    Accepts c hardware d := by
  have resolved : resolveTransformerBlocks c (some d.totalTransformerBlocks) none (some d) =
      .ok (some d.totalTransformerBlocks) := by
    simp [resolveTransformerBlocks, weights]
  rw [Accepts, analyzeComponents, resolved]
  dsimp only
  cases memoryTopology hardware with
  | unifiedMemory =>
    refine ⟨_, rfl, rfl, ?_⟩
    intro offloaded
    rw [analyzeUnifiedMemory] at offloaded
    dsimp only at offloaded
    split at offloaded
    · cases offloaded
    · cases offloaded
  | discreteMemory =>
    -- a result on the host offloads nothing, whatever its mode is
    have onHost (vram : Option ℤ) : (hostResult c vram hardware.memory.availableBytes
        (some d.totalTransformerBlocks) .discreteMemory (some d)).mode ≠ .gpuOffload := by
      rw [hostResult]
      dsimp only
      split
      · intro eq
        cases eq
      · intro eq
        cases eq
    dsimp only
    cases availableAcceleratorMemoryBytes hardware with
    | none => exact ⟨_, rfl, rfl, fun offloaded => absurd offloaded (onHost none)⟩
    | some vram =>
      rw [analyzeDiscreteMemory]
      -- what fits the card as a whole is not split
      by_cases resident : c.total ≤ vram
      · rw [if_pos resident]
        refine ⟨_, rfl, rfl, ?_⟩
        intro offloaded
        cases offloaded
      rw [if_neg resident]
      set request : OffloadRequest :=
        { components := c
          availableVram := vram
          availableRam := hardware.memory.availableBytes
          totalTransformerBlocks := some d.totalTransformerBlocks
          topology := .discreteMemory
          weightDecomposition := some d } with requestDef
      have valid : request.Valid d.totalTransformerBlocks :=
        { nonneg := nonneg
          blocks_pos := d.blocks_pos
          blocks := rfl
          decomposition := by
            intro d' eq
            cases eq
            exact ⟨weights.symm, rfl⟩ }
      -- with a count the search goes block by block
      have blockwise : request.tryGpuOffload = request.tryBlockOffload d.totalTransformerBlocks := by
        simp [OffloadRequest.tryGpuOffload, requestDef, validTransformerBlockCount, d.blocks_pos]
      dsimp only
      rw [blockwise]
      cases OffloadRequest.tryBlockOffload_greatest valid with
      | inl found =>
        obtain ⟨fit, n, run, -, -, -⟩ := found
        obtain ⟨n, pos, gpu, total, weight⟩ := tryBlockOffload_weight run
        rw [run]
        exact ⟨fit, rfl, total, fun _ => ⟨n, pos, gpu,
          weight.trans (gpuWeightBytes_eq rounded rfl weights.symm n)⟩⟩
      | inr nothing =>
        rw [nothing.1]
        exact ⟨_, rfl, rfl, fun offloaded => absurd offloaded (onHost _)⟩

end Placed

/-- What an attached decomposition of `total` bytes over `blocks` blocks satisfies. -/
structure Decomposes (d : TransformerBlockWeightDecomposition) (total blocks : ℤ) : Prop where
  ofTotal : d.totalWeightBytes = total
  ofBlocks : d.totalTransformerBlocks = blocks
  conserved : d.estimatedTransformerBlockWeightBytes + d.estimatedNonBlockWeightBytes = total
  nonneg : 0 ≤ d.estimatedTransformerBlockWeightBytes ∧ 0 ≤ d.estimatedNonBlockWeightBytes
  parts : NonBlockPartsValid d.estimatedEmbeddingWeightBytes d.estimatedOutputHeadWeightBytes
    d.estimatedNonBlockWeightBytes
  rounded : Rounded d
  accepted : ∀ (c : MemoryComponents) (hardware : HardwareProfile), c.Nonneg →
    c.weightsBytes = total → Accepts c hardware d

section Attached
variable {estimate : WeightEstimate} {config : Option ModelConfig} {total blocks : ℤ}
  {split : Option ConfigParameterDecomposition}

/-- Validated figures are a decomposition with those figures. -/
lemma validate_figures (pos : 0 < blocks) {d : TransformerBlockWeightDecomposition}
    (eq : (decompositionFigures total blocks split).validate = .ok d) : Decomposes d total blocks := by
  rw [DecompositionFigures.validate] at eq
  split at eq
  · rename_i valid
    cases eq
    have figure := Int.emod_add_mul_ediv
      ((decompositionFigures total blocks split).block + blocks - 1) blocks
    have low := Int.emod_nonneg
      ((decompositionFigures total blocks split).block + blocks - 1) (ne_of_gt pos)
    have high := Int.emod_lt_of_pos
      ((decompositionFigures total blocks split).block + blocks - 1) pos
    have perBlock : (decompositionFigures total blocks split).perBlock =
        ((decompositionFigures total blocks split).block + blocks - 1) / blocks :=
      Int.fdiv_eq_ediv_of_nonneg _ pos.le
    rw [← perBlock, mul_comm] at figure
    have rounded : Rounded
        { totalWeightBytes := (decompositionFigures total blocks split).total
          estimatedTransformerBlockWeightBytes := (decompositionFigures total blocks split).block
          estimatedNonBlockWeightBytes := (decompositionFigures total blocks split).nonBlock
          estimatedEmbeddingWeightBytes := (decompositionFigures total blocks split).embedding
          estimatedOutputHeadWeightBytes := (decompositionFigures total blocks split).outputHead
          estimatedBytesPerTransformerBlock := (decompositionFigures total blocks split).perBlock
          totalTransformerBlocks := (decompositionFigures total blocks split).blocks
          method := (decompositionFigures total blocks split).method
          total_nonneg := valid.1.1
          block_nonneg := valid.1.2.1
          nonBlock_nonneg := valid.1.2.2.1
          perBlock_nonneg := valid.1.2.2.2.1
          blocks_pos := valid.1.2.2.2.2
          conserved := valid.2.1
          parts_valid := valid.2.2 } := by
      refine ⟨?_, ?_, ?_⟩
      · change (decompositionFigures total blocks split).block ≤
          (decompositionFigures total blocks split).perBlock * blocks
        omega
      · change (decompositionFigures total blocks split).perBlock * blocks ≤
          (decompositionFigures total blocks split).block + (blocks - 1)
        omega
      · intro method
        cases split with
        | none => rfl
        | some _ => cases method
    exact
      { ofTotal := rfl
        ofBlocks := rfl
        conserved := valid.2.1
        nonneg := ⟨valid.1.2.1, valid.1.2.2.1⟩
        parts := valid.2.2
        rounded := rounded
        accepted := fun c hardware nonneg weights => accepts_of_rounded rounded nonneg weights hardware }
  · cases eq

/-- Any decomposition that was attached satisfies this. -/
lemma decomposes_of_attached {result : WeightEstimate} {d : TransformerBlockWeightDecomposition}
    (bare : estimate.transformerBlockDecomposition = none)
    (attached : addTransformerBlockDecomposition estimate config = .ok result)
    (there : result.transformerBlockDecomposition = some d) :
    ∃ total blocks, Decomposes d total blocks := by
  have unchanged (same : (Except.ok estimate : Except EstimateError WeightEstimate) = .ok result) :
      ∃ total blocks, Decomposes d total blocks := by
    cases same
    rw [bare] at there
    cases there
  rw [addTransformerBlockDecomposition] at attached
  split at attached
  · rename_i total blocks _ _
    by_cases idle : total < 0 ∨ blocks ≤ 0
    · rw [if_pos idle] at attached
      exact unchanged attached
    rw [if_neg idle] at attached
    rw [not_or, not_lt, not_le] at idle
    obtain ⟨split, _, attached⟩ := bind_eq_ok.mp attached
    obtain ⟨d', valid, attached⟩ := bind_eq_ok.mp attached
    cases attached
    cases there
    exact ⟨total, blocks, validate_figures idle.2 valid⟩
  · exact unchanged attached

/-- The figures of a configuration with positive dimensions pass the validators. -/
lemma figures_valid {c : ModelConfig} (dims : PositiveDims c) (nonneg : 0 ≤ total) (pos : 0 < blocks)
    (found : ∀ s, split = some s → ∃ shape : DenseShape, shape.Of c ∧ s = shape.decomposition) :
    (decompositionFigures total blocks split).Valid := by
  cases split with
  | none => exact uniform_valid nonneg pos
  | some s =>
    obtain ⟨shape, is, rfl⟩ := found s rfl
    obtain ⟨block, nonBlock⟩ := dims.shape_nonneg is
    refine (split_valid_iff is nonneg pos).mpr ⟨mul_nonneg nonneg block, ?_⟩
    have whole := is.total_pos
    have rest := mul_nonneg nonneg nonBlock
    linarith

/-- Positive dimensions never make the decomposition fail, and what it attaches conserves the bytes at
every level and is accepted for placement. -/
theorem addTransformerBlockDecomposition_sound (dims : ∀ c, config = some c → PositiveDims c) :
    ∃ result, addTransformerBlockDecomposition estimate config = .ok result ∧
      (result = estimate ∨ ∃ (total blocks : ℤ) (d : TransformerBlockWeightDecomposition),
        estimate.component.bytes = some total ∧ config.bind (·.numHiddenLayers) = some blocks ∧
        result = { estimate with transformerBlockDecomposition := some d } ∧
        Decomposes d total blocks) := by
  rw [addTransformerBlockDecomposition]
  cases bytes : estimate.component.bytes with
  | none => exact ⟨estimate, rfl, Or.inl rfl⟩
  | some total =>
  cases layers : config.bind (·.numHiddenLayers) with
  | none => exact ⟨estimate, rfl, Or.inl rfl⟩
  | some blocks =>
  dsimp only
  by_cases idle : total < 0 ∨ blocks ≤ 0
  · exact ⟨estimate, if_pos idle, Or.inl rfl⟩
  rw [if_neg idle]
  rw [not_or, not_lt, not_le] at idle
  obtain ⟨c, rfl, -⟩ := Option.bind_eq_some_iff.mp layers
  obtain ⟨split, eq, found⟩ := (dims c rfl).split
  have valid := figures_valid (dims c rfl) idle.1 idle.2 found
  have done : ∃ d, (decompositionFigures total blocks split).validate = .ok d := by
    rw [DecompositionFigures.validate, dif_pos valid]
    exact ⟨_, rfl⟩
  obtain ⟨d, done⟩ := done
  rw [eq, ok_bind, done, ok_bind]
  exact ⟨_, rfl, Or.inr ⟨total, blocks, d, rfl, rfl, rfl, validate_figures idle.2 done⟩⟩

/-- A dense model with grouped heads and tied embeddings. -/
def groupedConfig : ModelConfig where
  modelType := some "qwen2"
  hiddenSize := some 896
  numHiddenLayers := some 24
  numAttentionHeads := some 14
  numKeyValueHeads := some 2
  intermediateSize := some 4864
  vocabSize := some 151936
  tieWordEmbeddings := some true

/-- The weights of a file of that model. -/
def groupedWeights : WeightEstimate where
  component :=
    { name := "weights"
      bytes := some 491400064
      source := .exact
      confidence := .high
      explanation := "" }

/-- The sample's weights, decomposed. -/
theorem groupedWeights_decomposed :
    ∃ result, addTransformerBlockDecomposition groupedWeights (some groupedConfig) = .ok result ∧
      (result = groupedWeights ∨ ∃ (total blocks : ℤ) (d : TransformerBlockWeightDecomposition),
        groupedWeights.component.bytes = some total ∧
        (some groupedConfig).bind (·.numHiddenLayers) = some blocks ∧
        result = { groupedWeights with transformerBlockDecomposition := some d } ∧
        Decomposes d total blocks) := by
  refine addTransformerBlockDecomposition_sound ?_
  intro c eq
  cases eq
  exact
    { layers := fun n eq => by cases eq; decide
      hidden := fun n eq => by cases eq; decide
      heads := fun n eq => by cases eq; decide
      kvHeads := fun n eq => by cases eq; decide
      headDim := fun n eq => by cases eq
      intermediate := fun n eq => by cases eq; decide
      vocab := fun n eq => by cases eq; decide }

end Attached

end Jaull.Estimator
