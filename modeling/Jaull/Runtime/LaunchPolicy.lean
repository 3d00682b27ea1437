import Jaull.Estimator.Decomposition
import Jaull.Lib.HalfEven
import Jaull.Runtime.TensorPolicy

/-!
# Launch policy

Port of `_pick_aggregate_gpu_layers` and `_weight_split` of `jaull/runtime/llama_cpp_launch_policy.py`: how
many units llama.cpp is asked to put on the GPU when the model does not fit there as a whole. The number is
safe for the exact share of the weights and of the cache, and one more unit would not fit.
-/

namespace Jaull.Runtime
open Jaull.Domain Jaull.Estimator Jaull.Lib Jaull.Text

/-- Python `LLAMA_CPP_DEFAULT_LAYERS_WHEN_UNKNOWN`. -/
def llamaCppDefaultLayersWhenUnknown : ℤ :=
  20

/-- Python `LlamaCppLayerPlan`. -/
structure LlamaCppLayerPlan where
  nGpuLayers : ℤ
  reasons : List String := []
  warnings : List String := []
  confidence : EstimationConfidence := .medium
  deriving DecidableEq, Repr

/-- Python `_WeightSplit`. -/
structure WeightSplit where
  blockCount : ℤ
  bytesPerBlock : ℤ
  fixedGpuWeightBytes : ℤ
  deriving DecidableEq, Repr

/-- Python `_weight_split`. -/
def weightSplit (estimate : LaunchEstimate) : Option WeightSplit :=
  match estimate.kvCache.layers with
  | none => none
  | some blockCount =>
    if blockCount ≤ 0 then none
    else
      match estimate.weights.transformerBlockDecomposition with
      | some decomposition =>
        some
          { blockCount := blockCount
            bytesPerBlock := decomposition.estimatedBytesPerTransformerBlock
            fixedGpuWeightBytes := decomposition.estimatedNonBlockWeightBytes }
      | none =>
        match estimate.weights.component.bytes with
        | none => none
        | some weightsBytes =>
          if weightsBytes = 0 then none
          else
            some
              { blockCount := blockCount
                bytesPerBlock := weightsBytes.fdiv blockCount
                fixedGpuWeightBytes := 0 }

/-- What is left for blocks once the fixed costs are paid (`budget`). -/
def blockBudget (estimate : LaunchEstimate) (split : WeightSplit) : ℤ :=
  estimate.assessment.availableVramBytes.getD 0 -
    estimate.inferenceConfiguration.deviceReserveBytes - llamaCppHeadroomBytes -
    split.fixedGpuWeightBytes

/-- The units within a budget (`n`): `n · bytesPerBlock + kv · n / blockCount ≤ budget`, solved for
`n`. -/
def offloadUnits (split : WeightSplit) (budget kvBytes : ℤ) : ℤ :=
  if budget ≤ 0 ∨ split.bytesPerBlock ≤ 0 then 0
  else
    min split.blockCount
      ((split.blockCount * budget).fdiv (split.blockCount * split.bytesPerBlock + kvBytes))

/-- Python `f"{size / (1024**3):.2f}"`. -/
def gibText (size : ℤ) : Except PyError String :=
  let quotient : ℚ := size / 1024 ^ 3
  if (overflowBound : ℚ) ≤ |quotient| then .error .overflow
  else .ok (formatFixed 2 (nearestDouble quotient))

/-- The answer of the branch that offloads. -/
def offloadPlan (split : WeightSplit) (n : ℤ) : Except PyError LlamaCppLayerPlan := do
  let perBlock ← gibText split.bytesPerBlock
  let requested := "Offloading required: requesting " ++ toString n ++ " llama.cpp GPU units from a " ++
    "conservative " ++ toString split.blockCount ++ "-transformer-block budget (" ++ perBlock ++
    " GiB/block)."
  if 0 < split.fixedGpuWeightBytes then
    let fixed ← gibText split.fixedGpuWeightBytes
    pure
      { nGpuLayers := n
        reasons := [requested,
          "The " ++ fixed ++ " GiB non-block weight aggregate is charged to GPU as a conservative " ++
            "bound; config-derived embedding/output estimates do not establish llama.cpp placement."] }
  else
    pure
      { nGpuLayers := n
        reasons := [requested] }

/-- Python `_pick_aggregate_gpu_layers`. -/
def pickAggregateGpuLayers (estimate : LaunchEstimate) : Except PyError LlamaCppLayerPlan :=
  if estimate.assessment.effectiveDevice = .cpu then
    .ok
      { nGpuLayers := 0
        reasons := ["Effective device is CPU, so no layers are offloaded to GPU."]
        confidence := .high }
  else if estimate.assessment.status ∈ [.comfortable, .compatible, .tight] then
    .ok
      { nGpuLayers := -1
        reasons := ["Model fits in VRAM (" ++ estimate.assessment.status.value ++
          "); using --n-gpu-layers -1 (all)."]
        confidence := .high }
  else
    match weightSplit estimate with
    | some split =>
      offloadPlan split
        (offloadUnits split (blockBudget estimate split)
          (estimate.kvCache.component.bytes.getD 0))
    | none =>
      .ok
        { nGpuLayers := llamaCppDefaultLayersWhenUnknown
          reasons := ["Offloading required but layer count is unknown."]
          warnings := ["Block count unavailable; using a conservative fallback of " ++
            toString llamaCppDefaultLayersWhenUnknown ++
            " layers. Increase manually if VRAM allows."]
          confidence := .low }

section Units
variable {split : WeightSplit} {budget kv block : ℤ}

/-- The count of units lies between none and all. -/
lemma offloadUnits_nonneg (blocks : 0 < split.blockCount) (kvNonneg : 0 ≤ kv) :
    0 ≤ offloadUnits split budget kv ∧ offloadUnits split budget kv ≤ split.blockCount := by
  rw [offloadUnits]
  split
  · exact ⟨le_rfl, blocks.le⟩
  · rename_i some_budget
    rw [not_or, not_le, not_le] at some_budget
    have denominator : 0 < split.blockCount * split.bytesPerBlock + kv := by
      have product := mul_pos blocks some_budget.2
      omega
    refine ⟨le_min blocks.le ?_, min_le_left _ _⟩
    rw [le_fdiv_iff denominator, zero_mul]
    exact mul_nonneg blocks.le some_budget.1.le

/-- The units and their share of the cache are within the budget. -/
lemma offloadUnits_safe (blocks : 0 < split.blockCount) (kvNonneg : 0 ≤ kv)
    (positive : 0 < offloadUnits split budget kv) :
    offloadUnits split budget kv * (split.blockCount * split.bytesPerBlock + kv) ≤
      split.blockCount * budget := by
  rw [offloadUnits] at positive ⊢
  split at positive
  · exact absurd positive (lt_irrefl 0)
  · rename_i some_budget
    rw [if_neg some_budget]
    rw [not_or, not_le, not_le] at some_budget
    have denominator : 0 < split.blockCount * split.bytesPerBlock + kv := by
      have product := mul_pos blocks some_budget.2
      omega
    exact (le_fdiv_iff denominator).mp (min_le_right _ _)

/-- One more unit is not. -/
lemma offloadUnits_maximal (blocks : 0 < split.blockCount) (kvNonneg : 0 ≤ kv) (some_budget : 0 < budget)
    (sized : 0 < split.bytesPerBlock) (less : offloadUnits split budget kv < split.blockCount) :
    split.blockCount * budget <
      (offloadUnits split budget kv + 1) * (split.blockCount * split.bytesPerBlock + kv) := by
  have denominator : 0 < split.blockCount * split.bytesPerBlock + kv := by
    have product := mul_pos blocks sized
    omega
  rw [offloadUnits, if_neg (by omega)] at less ⊢
  have share := (min_lt_iff.mp less).resolve_left (lt_irrefl _)
  rw [min_eq_right share.le]
  by_contra fits
  have more := (le_fdiv_iff denominator).mpr (not_lt.mp fits)
  omega

end Units

section Plans
variable {estimate : LaunchEstimate} {d : TransformerBlockWeightDecomposition}
  {plan : LlamaCppLayerPlan} {blocks : ℤ}

/-- The bytes of the cache, none when they are not known. -/
def LaunchEstimate.kvBytes (estimate : LaunchEstimate) : ℤ :=
  estimate.kvCache.component.bytes.getD 0

/-- What is paid whatever the number of units: the weights outside the blocks, the reserve and the
headroom. -/
def fixedCosts (estimate : LaunchEstimate) (d : TransformerBlockWeightDecomposition) : ℤ :=
  d.estimatedNonBlockWeightBytes + estimate.inferenceConfiguration.deviceReserveBytes +
    llamaCppHeadroomBytes

/-- The VRAM of an estimate, none when it is not known. -/
def LaunchEstimate.vram (estimate : LaunchEstimate) : ℤ :=
  estimate.assessment.availableVramBytes.getD 0

/-- An estimate in the offload branch, whose weights were decomposed over the blocks of its cache. -/
structure Offloads (estimate : LaunchEstimate) (d : TransformerBlockWeightDecomposition) (blocks : ℤ) :
    Prop where
  device : estimate.assessment.effectiveDevice ≠ .cpu
  status : estimate.assessment.status ∉
    [CompatibilityStatus.comfortable, CompatibilityStatus.compatible, CompatibilityStatus.tight]
  layers : estimate.kvCache.layers = some blocks
  kv : 0 ≤ estimate.kvBytes
  decomposition : estimate.weights.transformerBlockDecomposition = some d
  sameBlocks : d.totalTransformerBlocks = blocks
  attached : ∃ (bare : WeightEstimate) (config : Option ModelConfig),
    bare.transformerBlockDecomposition = none ∧
    addTransformerBlockDecomposition bare config = .ok estimate.weights

/-- A plan asks for the layers it was given. -/
lemma nGpuLayers_offloadPlan {split : WeightSplit} {n : ℤ} (done : offloadPlan split n = .ok plan) :
    plan.nGpuLayers = n := by
  obtain ⟨perBlock, _, done⟩ := bind_eq_ok.mp done
  dsimp only at done
  split at done
  · obtain ⟨fixed, _, done⟩ := bind_eq_ok.mp done
    cases done
    rfl
  · cases done
    rfl

/-- The split that the offload branch works with. -/
def splitOf (d : TransformerBlockWeightDecomposition) : WeightSplit where
  blockCount := d.totalTransformerBlocks
  bytesPerBlock := d.estimatedBytesPerTransformerBlock
  fixedGpuWeightBytes := d.estimatedNonBlockWeightBytes

/-- Where nothing else decides, the pick is the plan of the units that fit. -/
lemma Offloads.pick_eq (offloads : Offloads estimate d blocks) :
    pickAggregateGpuLayers estimate =
      offloadPlan (splitOf d)
        (offloadUnits (splitOf d) (estimate.vram - fixedCosts estimate d) estimate.kvBytes) := by
  have split : weightSplit estimate = some (splitOf d) := by
    rw [weightSplit, offloads.layers, ← offloads.sameBlocks]
    dsimp only
    rw [if_neg (not_le.mpr d.blocks_pos), offloads.decomposition]
    rfl
  have budget : blockBudget estimate (splitOf d) = estimate.vram - fixedCosts estimate d := by
    rw [blockBudget, LaunchEstimate.vram, fixedCosts, splitOf]
    dsimp only
    omega
  rw [pickAggregateGpuLayers, if_neg offloads.device, if_neg offloads.status, split]
  dsimp only
  rw [budget, LaunchEstimate.kvBytes]

/-- A size that is a float can be written in gibibytes. -/
lemma gibText_ok {size : ℤ} (small : size.natAbs < overflowBound) : ∃ text, gibText size = .ok text := by
  have bound : |(size : ℚ) / 1024 ^ 3| < (overflowBound : ℚ) :=
    abs_div_lt_overflowBound (by norm_num) small
  exact ⟨_, if_neg (not_le.mpr bound)⟩

/-- With sizes that are floats there is a plan. -/
lemma Offloads.exists_plan (offloads : Offloads estimate d blocks)
    (block : d.estimatedBytesPerTransformerBlock.natAbs < overflowBound)
    (nonBlock : d.estimatedNonBlockWeightBytes.natAbs < overflowBound) :
    ∃ plan, pickAggregateGpuLayers estimate = .ok plan ∧ plan.nGpuLayers =
      offloadUnits (splitOf d) (estimate.vram - fixedCosts estimate d) estimate.kvBytes := by
  have done : ∃ plan, pickAggregateGpuLayers estimate = .ok plan := by
    obtain ⟨perBlock, eq⟩ := gibText_ok block
    obtain ⟨fixed, eq'⟩ := gibText_ok nonBlock
    rw [offloads.pick_eq, offloadPlan, splitOf, eq, ok_bind]
    dsimp only
    split
    · rw [eq', ok_bind]
      exact ⟨_, rfl⟩
    · exact ⟨_, rfl⟩
  obtain ⟨plan, picked⟩ := done
  exact ⟨plan, picked, nGpuLayers_offloadPlan (offloads.pick_eq ▸ picked)⟩

/-- The units of a plan fit the VRAM with the exact shares of the block weights and of the cache, and when
a published block has a size, one more of that size would not. -/
theorem pickAggregateGpuLayers_offloads (offloads : Offloads estimate d blocks)
    (picked : pickAggregateGpuLayers estimate = .ok plan) :
    (0 ≤ plan.nGpuLayers ∧ plan.nGpuLayers ≤ blocks) ∧
    (0 < plan.nGpuLayers →
      (plan.nGpuLayers * d.estimatedTransformerBlockWeightBytes / blocks +
        estimate.kvBytes * plan.nGpuLayers / blocks + fixedCosts estimate d : ℚ) ≤ estimate.vram) ∧
    (0 < d.estimatedBytesPerTransformerBlock → fixedCosts estimate d < estimate.vram →
      plan.nGpuLayers < blocks →
      (estimate.vram : ℚ) < (plan.nGpuLayers + 1) * d.estimatedBytesPerTransformerBlock +
        estimate.kvBytes * (plan.nGpuLayers + 1) / blocks + fixedCosts estimate d) := by
  -- the decomposition was attached, so its bytes per block cover the blocks
  obtain ⟨bare, config, none, attached⟩ := offloads.attached
  obtain ⟨total, _, decomposes⟩ := decomposes_of_attached none attached offloads.decomposition
  have positive : 0 < (splitOf d).blockCount := d.blocks_pos
  have same : (splitOf d).blockCount = blocks := offloads.sameBlocks
  have blocksQ : (0 : ℚ) < blocks := by
    rw [← same]
    exact_mod_cast positive
  rw [nGpuLayers_offloadPlan (offloads.pick_eq ▸ picked)]
  refine ⟨?_, ?_, ?_⟩
  · rw [← same]
    exact offloadUnits_nonneg positive offloads.kv
  · intro some_units
    set n := offloadUnits (splitOf d) (estimate.vram - fixedCosts estimate d) estimate.kvBytes
    -- the units fit by their rounded sizes, hence by the exact ones
    have safe := offloadUnits_safe positive offloads.kv some_units
    have covers := mul_le_mul_of_nonneg_left decomposes.rounded.covers some_units.le
    rw [offloads.sameBlocks] at covers
    rw [same] at safe
    have within : n * d.estimatedTransformerBlockWeightBytes + estimate.kvBytes * n ≤
        (estimate.vram - fixedCosts estimate d) * blocks := by
      calc
        n * d.estimatedTransformerBlockWeightBytes + estimate.kvBytes * n ≤
            n * (d.estimatedBytesPerTransformerBlock * blocks) + estimate.kvBytes * n := by
          linarith
        _ = n * (blocks * (splitOf d).bytesPerBlock + estimate.kvBytes) := by
          rw [splitOf]
          ring
        _ ≤ (estimate.vram - fixedCosts estimate d) * blocks := by
          rw [mul_comm _ blocks]
          exact safe
    rw [← add_div, ← le_sub_iff_add_le, div_le_iff₀ blocksQ]
    exact_mod_cast within
  · intro sized room less
    have less' := less
    rw [← same] at less'
    -- one unit more exceeds the budget by the rounded sizes
    have maximal := offloadUnits_maximal positive offloads.kv (sub_pos.mpr room) sized less'
    set n := offloadUnits (splitOf d) (estimate.vram - fixedCosts estimate d) estimate.kvBytes
    rw [same] at maximal
    have beyond : (estimate.vram - fixedCosts estimate d) * blocks <
        (n + 1) * d.estimatedBytesPerTransformerBlock * blocks + estimate.kvBytes * (n + 1) := by
      calc
        (estimate.vram - fixedCosts estimate d) * blocks =
            blocks * (estimate.vram - fixedCosts estimate d) := mul_comm _ _
        _ < (n + 1) * (blocks * (splitOf d).bytesPerBlock + estimate.kvBytes) := maximal
        _ = (n + 1) * d.estimatedBytesPerTransformerBlock * blocks + estimate.kvBytes * (n + 1) := by
          rw [splitOf]
          ring
    have exact : ((n + 1) * d.estimatedBytesPerTransformerBlock +
        estimate.kvBytes * (n + 1) / blocks : ℚ) =
        ((n + 1) * d.estimatedBytesPerTransformerBlock * blocks + estimate.kvBytes * (n + 1)) /
          blocks := by
      field_simp
    rw [exact, ← sub_lt_iff_lt_add, lt_div_iff₀ blocksQ]
    exact_mod_cast beyond

/-- All of some bytes in two blocks. -/
def halves (half : ℤ) (nonneg : 0 ≤ half) : TransformerBlockWeightDecomposition where
  totalWeightBytes := 2 * half
  estimatedTransformerBlockWeightBytes := 2 * half
  estimatedNonBlockWeightBytes := 0
  estimatedEmbeddingWeightBytes := none
  estimatedOutputHeadWeightBytes := none
  estimatedBytesPerTransformerBlock := half
  totalTransformerBlocks := 2
  method := .uniformWeightFallback
  total_nonneg := mul_nonneg zero_le_two nonneg
  block_nonneg := mul_nonneg zero_le_two nonneg
  nonBlock_nonneg := le_rfl
  perBlock_nonneg := nonneg
  blocks_pos := zero_lt_two
  conserved := add_zero _
  parts_valid := trivial

/-- The weights of a file of two blocks. -/
def twoBlockWeights (half : ℤ) : WeightEstimate where
  component :=
    { name := "weights"
      bytes := some (2 * half)
      source := .exact
      confidence := .high
      explanation := "" }

/-- An estimate of that file, offloaded, with a cache of some bytes and as much VRAM. -/
def twoBlockEstimate (half : ℤ) (nonneg : 0 ≤ half) (kv : ℤ) : LaunchEstimate where
  inferenceConfiguration := { contextLength := 4096 }
  totalBytes := none
  assessment :=
    { status := .offloadingRequired
      confidence := .high
      targetDevice := .auto
      effectiveDevice := .gpu
      availableVramBytes := some kv }
  repoId := "a/b"
  weights :=
    { twoBlockWeights half with transformerBlockDecomposition := some (halves half nonneg) }
  kvCache :=
    { component :=
        { name := "kv_cache"
          bytes := some kv
          source := .derived
          confidence := .high
          explanation := "" }
      layers := some 2
      contextLength := 4096
      batchSize := 1
      dtypeBytes := 2
      formula := "" }

/-- A configuration that states no more than its blocks. -/
def twoBlockConfig : ModelConfig where
  numHiddenLayers := some 2

/-- The sample estimate is offloaded in part. -/
lemma twoBlockEstimate_offloads {half kv : ℤ} (nonneg : 0 ≤ half) (kvNonneg : 0 ≤ kv)
    (made : addTransformerBlockDecomposition (twoBlockWeights half) (some twoBlockConfig) =
      .ok (twoBlockEstimate half nonneg kv).weights) :
    Offloads (twoBlockEstimate half nonneg kv) (halves half nonneg) 2 where
  device := by
    intro eq
    cases eq
  status := by
    change CompatibilityStatus.offloadingRequired ∉ _
    decide
  layers := rfl
  kv := kvNonneg
  decomposition := rfl
  sameBlocks := rfl
  attached := ⟨twoBlockWeights half, some twoBlockConfig, rfl, made⟩

/-- Two blocks of a quarter GiB each and their cache. -/
theorem halves_offload :
    ∃ plan, pickAggregateGpuLayers (twoBlockEstimate (2 ^ 28) (by decide) (2 ^ 31)) = .ok plan ∧
      (0 ≤ plan.nGpuLayers ∧ plan.nGpuLayers ≤ 2) ∧
      (plan.nGpuLayers < 2 → ((2 ^ 31 : ℤ) : ℚ) <
        (plan.nGpuLayers + 1) * (2 ^ 28 : ℤ) + (2 ^ 31 : ℤ) * (plan.nGpuLayers + 1) / (2 : ℤ) +
          (2 ^ 28 : ℤ)) := by
  have offloads := @twoBlockEstimate_offloads (2 ^ 28) (2 ^ 31) (by decide) (by decide) rfl
  obtain ⟨plan, picked, -⟩ := offloads.exists_plan (lt_overflowBound (by decide))
    (lt_overflowBound (by decide))
  obtain ⟨bounds, -, maximal⟩ := pickAggregateGpuLayers_offloads offloads picked
  exact ⟨plan, picked, bounds, maximal (by decide) (by decide)⟩

/-- With blocks of no bytes, none is asked for although one would fit. -/
theorem emptyBlocks_not_maximal :
    Offloads (twoBlockEstimate 0 (Int.le_refl 0) (2 ^ 31)) (halves 0 (Int.le_refl 0)) 2 ∧
      ∃ plan, pickAggregateGpuLayers (twoBlockEstimate 0 (Int.le_refl 0) (2 ^ 31)) = .ok plan ∧
        plan.nGpuLayers = 0 ∧
        fixedCosts (twoBlockEstimate 0 (Int.le_refl 0) (2 ^ 31)) (halves 0 (Int.le_refl 0)) <
          (twoBlockEstimate 0 (Int.le_refl 0) (2 ^ 31)).vram ∧
        ((plan.nGpuLayers + 1) * (halves 0 (Int.le_refl 0)).estimatedBytesPerTransformerBlock +
          (twoBlockEstimate 0 (Int.le_refl 0) (2 ^ 31)).kvBytes * (plan.nGpuLayers + 1) / (2 : ℤ) +
          fixedCosts (twoBlockEstimate 0 (Int.le_refl 0) (2 ^ 31)) (halves 0 (Int.le_refl 0)) : ℚ) ≤
          (twoBlockEstimate 0 (Int.le_refl 0) (2 ^ 31)).vram := by
  have offloads := @twoBlockEstimate_offloads 0 (2 ^ 31) (Int.le_refl 0) (by decide) rfl
  obtain ⟨plan, picked, units⟩ := offloads.exists_plan (lt_overflowBound (by decide))
    (lt_overflowBound (by decide))
  have zero : plan.nGpuLayers = 0 := units
  refine ⟨offloads, plan, picked, zero, by decide, ?_⟩
  rw [zero]
  have vram : (twoBlockEstimate 0 (Int.le_refl 0) (2 ^ 31)).vram = 2 ^ 31 := rfl
  have kv : (twoBlockEstimate 0 (Int.le_refl 0) (2 ^ 31)).kvBytes = 2 ^ 31 := rfl
  have fixed : fixedCosts (twoBlockEstimate 0 (Int.le_refl 0) (2 ^ 31)) (halves 0 (Int.le_refl 0)) = 2 ^ 28 := rfl
  have block : (halves 0 (Int.le_refl 0)).estimatedBytesPerTransformerBlock = 0 := rfl
  rw [vram, kv, fixed, block]
  norm_num

end Plans

end Jaull.Runtime
