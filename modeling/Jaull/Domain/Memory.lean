import Jaull.Domain.Inference

/-!
# Memory lines

Port of `MemoryComponent`, `WeightEstimate` and `KvCacheEstimate` of `jaull/domain/estimation.py`, of
`ConfigParameterDecomposition` of `jaull/domain/parameters.py` and of the dtype table of
`jaull/estimator/policies.py`.
-/

namespace Jaull.Domain

/-- Where a number comes from (Python `EstimateSource`). -/
inductive EstimateSource
  | exact | metadata | ggufHeader | baseModelConfig | derived | assumed | unknown
  deriving DecidableEq, Repr

/-- One line of the memory breakdown (Python `MemoryComponent`). -/
structure MemoryComponent where
  name : String
  bytes : Option ℤ
  source : EstimateSource
  confidence : EstimationConfidence
  explanation : String
  deriving DecidableEq, Repr

/-- Python `WeightEstimate`. -/
structure WeightEstimate where
  component : MemoryComponent
  numParameters : Option ℤ := none
  bitsPerParameter : Option ℚ := none
  precision : Option WeightPrecision := none
  ggufVariant : Option String := none
  transformerBlockDecomposition : Option TransformerBlockWeightDecomposition := none
  deriving DecidableEq

/-- Python `KvCacheEstimate`. -/
structure KvCacheEstimate where
  component : MemoryComponent
  layers : Option ℤ := none
  kvHeads : Option ℤ := none
  headDim : Option ℤ := none
  contextLength : ℤ
  batchSize : ℤ
  dtypeBytes : ℤ
  formula : String
  notes : List String := []
  deriving DecidableEq, Repr

/-- A parameter count split by architectural responsibility (Python `ConfigParameterDecomposition`). -/
structure ConfigParameterDecomposition where
  totalParameters : ℤ
  transformerBlockParameters : ℤ
  nonBlockParameters : ℤ
  embeddingParameters : ℤ := 0
  outputHeadParameters : ℤ := 0
  totalTransformerBlocks : ℤ
  deriving DecidableEq, Repr

/-- Bytes per parameter (Python `BYTES_PER_PARAM`). -/
def bytesPerParameter : WeightPrecision → ℚ
  | .float32 => 4
  | .float16 => 2
  | .bfloat16 => 2
  | .int8 => 1
  | .int4 => 1 / 2

/-- What an estimate may raise: `ZeroDivisionError` or a `ValidationError` of a result. -/
inductive EstimateError
  | zeroDivision
  | validation
  deriving DecidableEq, Repr

/-- Python `a // b`. -/
def floorDiv (a b : ℤ) : Except EstimateError ℤ :=
  if b = 0 then .error .zeroDivision else .ok (a.fdiv b)

/-- Python `a % b`. -/
def floorMod (a b : ℤ) : Except EstimateError ℤ :=
  if b = 0 then .error .zeroDivision else .ok (a.fmod b)

/-- Python `a or b` on an optional integer. -/
def orInt (a : Option ℤ) (b : ℤ) : ℤ :=
  match a with
  | some n => if n = 0 then b else n
  | none => b

end Jaull.Domain
