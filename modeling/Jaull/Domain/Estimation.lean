import Mathlib.Data.Rat.Defs
import Jaull.Domain.Hardware

/-!
# Estimation domain

Port of the part of `jaull/domain/estimation.py` (and `TargetDevice` of `jaull/domain/inference.py`)
that Hardware Fit and the compatibility assessment read and return. A record whose Python class
validates its fields carries the validated facts as fields, so a value of the type is one the
validator accepted.
-/

namespace Jaull.Domain

/-- Where a run is to be placed (Python `TargetDevice`). -/
inductive TargetDevice
  | auto | cpu | gpu
  deriving DecidableEq, Repr

/-- The stored value of a target (Python `TargetDevice.value`). -/
def TargetDevice.value : TargetDevice → String
  | .auto => "auto"
  | .cpu => "cpu"
  | .gpu => "gpu"

/-- Trust in an estimate (Python `EstimationConfidence`). -/
inductive EstimationConfidence
  | high | medium | low | unknown
  deriving DecidableEq, Repr

/-- The confidence's text. -/
def EstimationConfidence.value : EstimationConfidence → String
  | .high => "high"
  | .medium => "medium"
  | .low => "low"
  | .unknown => "unknown"

/-- How weights were divided by block (Python `TransformerBlockWeightDecompositionMethod`). -/
inductive TransformerBlockWeightDecompositionMethod
  | configParameterDecomposition | uniformWeightFallback
  deriving DecidableEq, Repr

/-- Verdict on the memory fit (Python `CompatibilityStatus`). -/
inductive CompatibilityStatus
  | comfortable | compatible | tight | offloadingRequired | insufficient | unknown
  deriving DecidableEq, Repr

/-- The stored value of a verdict (Python `CompatibilityStatus.value`). -/
def CompatibilityStatus.value : CompatibilityStatus → String
  | .comfortable => "comfortable"
  | .compatible => "compatible"
  | .tight => "tight"
  | .offloadingRequired => "offloading_required"
  | .insufficient => "insufficient"
  | .unknown => "unknown"

/-- Where the placement puts the model (Python `HardwareFitMode`). -/
inductive HardwareFitMode
  | gpuResident | gpuOffload | cpuRam | tooLarge
  deriving DecidableEq, Repr

/-- Whether accelerator and system share one pool (Python `HardwareMemoryTopology`). -/
inductive HardwareMemoryTopology
  | discreteMemory | unifiedMemory
  deriving DecidableEq, Repr

/-- What a placement counted in (Python `HardwareFitPlacementMethod`). -/
inductive HardwareFitPlacementMethod
  | transformerBlocks | estimatedBytes | none
  deriving DecidableEq, Repr

/-- The validator on the embedding and output-head bytes of a decomposition: set together or not at
all, non-negative, and summing to the non-block bytes. -/
def NonBlockPartsValid (embedding outputHead : Option ℤ) (nonBlock : ℤ) : Prop :=
  match embedding, outputHead with
  | none, none => True
  | some e, some o => 0 ≤ e ∧ 0 ≤ o ∧ e + o = nonBlock
  | _, _ => False

/-- Estimated split of the weight bytes into block and non-block bytes, with what its validators
check (Python `TransformerBlockWeightDecomposition`). -/
structure TransformerBlockWeightDecomposition where
  totalWeightBytes : ℤ
  estimatedTransformerBlockWeightBytes : ℤ
  estimatedNonBlockWeightBytes : ℤ
  estimatedEmbeddingWeightBytes : Option ℤ := none
  estimatedOutputHeadWeightBytes : Option ℤ := none
  estimatedBytesPerTransformerBlock : ℤ
  totalTransformerBlocks : ℤ
  method : TransformerBlockWeightDecompositionMethod
  total_nonneg : 0 ≤ totalWeightBytes
  block_nonneg : 0 ≤ estimatedTransformerBlockWeightBytes
  nonBlock_nonneg : 0 ≤ estimatedNonBlockWeightBytes
  perBlock_nonneg : 0 ≤ estimatedBytesPerTransformerBlock
  blocks_pos : 0 < totalTransformerBlocks
  conserved :
    estimatedTransformerBlockWeightBytes + estimatedNonBlockWeightBytes = totalWeightBytes
  parts_valid : NonBlockPartsValid estimatedEmbeddingWeightBytes estimatedOutputHeadWeightBytes
    estimatedNonBlockWeightBytes
  deriving DecidableEq

/-- The compatibility summary (Python `CompatibilityAssessment`). -/
structure CompatibilityAssessment where
  status : CompatibilityStatus
  confidence : EstimationConfidence
  targetDevice : TargetDevice
  effectiveDevice : TargetDevice
  availableVramBytes : Option ℤ := none
  availableRamBytes : Option ℤ := none
  ratio : Option ℚ := none
  reasons : List String := []
  warnings : List String := []
  deriving DecidableEq, Repr

/-- The host-heavy endpoint of an unknown non-block split, every figure checked to be non-negative
(Python `NonBlockPlacementBounds`). -/
structure NonBlockPlacementBounds where
  gpuTransformerBlockWeightBytes : ℤ
  ramTransformerBlockWeightBytes : ℤ
  nonBlockWeightBytes : ℤ
  gpuRequiredMinBytes : ℤ
  ramRequiredMaxBytes : ℤ
  ramOverheadMaxBytes : ℤ
  ramSafetyMarginMaxBytes : ℤ
  nonneg : 0 ≤ gpuTransformerBlockWeightBytes ∧ 0 ≤ ramTransformerBlockWeightBytes ∧
    0 ≤ nonBlockWeightBytes ∧ 0 ≤ gpuRequiredMinBytes ∧ 0 ≤ ramRequiredMaxBytes ∧
    0 ≤ ramOverheadMaxBytes ∧ 0 ≤ ramSafetyMarginMaxBytes
  deriving DecidableEq, Repr

/-- One block placement that was considered (Python `HardwareFitOffloadCandidate`). -/
structure HardwareFitOffloadCandidate where
  gpuTransformerBlocks : ℤ
  gpuRequiredBytes : ℤ
  ramRequiredBytes : ℤ
  availableVramBytes : ℤ
  excessBytes : ℤ
  headroomBytes : ℤ
  gpuWeightBytes : ℤ
  ramWeightBytes : ℤ
  kvCacheBytes : ℤ
  gpuKvCacheBytes : ℤ
  ramKvCacheBytes : ℤ
  deviceReserveBytes : ℤ
  gpuOverheadBytes : ℤ
  gpuSafetyMarginBytes : ℤ
  ramOverheadBytes : ℤ
  ramSafetyMarginBytes : ℤ
  nonBlockPlacementBounds : Option NonBlockPlacementBounds := none
  deriving DecidableEq, Repr

/-- Why the selected placement was selected (Python `HardwareFitOffloadDiagnostics`). -/
structure HardwareFitOffloadDiagnostics where
  searchCeilingTransformerBlocks : ℤ
  selected : HardwareFitOffloadCandidate
  firstRejectedHigher : Option HardwareFitOffloadCandidate := none
  deriving DecidableEq, Repr

/-- The structured placement (Python `HardwareFitResult`). -/
structure HardwareFitResult where
  mode : HardwareFitMode
  memoryTopology : HardwareMemoryTopology
  weightsBytes : ℤ
  kvCacheBytes : ℤ
  overheadBytes : ℤ
  deviceReserveBytes : ℤ := 0
  safetyMarginBytes : ℤ := 0
  availableVramBytes : Option ℤ := none
  availableRamBytes : Option ℤ := none
  gpuRequiredBytes : Option ℤ := none
  gpuWeightBytes : ℤ := 0
  gpuOverheadBytes : ℤ := 0
  gpuSafetyMarginBytes : ℤ := 0
  ramRequiredBytes : Option ℤ := none
  ramWeightBytes : ℤ := 0
  ramOverheadBytes : ℤ := 0
  ramSafetyMarginBytes : ℤ := 0
  gpuKvCacheBytes : ℤ := 0
  ramKvCacheBytes : ℤ := 0
  gpuTransformerBlocks : Option ℤ := none
  totalTransformerBlocks : Option ℤ := none
  placementMethod : HardwareFitPlacementMethod := .none
  offloadDiagnostics : Option HardwareFitOffloadDiagnostics := none
  nonBlockPlacementBounds : Option NonBlockPlacementBounds := none
  reason : String
  warnings : List String := []
  deriving DecidableEq, Repr

end Jaull.Domain
