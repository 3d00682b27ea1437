import Jaull.Domain.Estimation

/-!
# Inference configuration

Port of `jaull/domain/inference.py` (`TargetDevice` stands in `Jaull/Domain/Estimation.lean`).
-/

namespace Jaull.Domain

/-- Weight precisions (Python `WeightPrecision`). -/
inductive WeightPrecision
  | float32 | float16 | bfloat16 | int8 | int4
  deriving DecidableEq, Repr

/-- The stored value of a precision (Python `WeightPrecision.value`). -/
def WeightPrecision.value : WeightPrecision → String
  | .float32 => "float32"
  | .float16 => "float16"
  | .bfloat16 => "bfloat16"
  | .int8 => "int8"
  | .int4 => "int4"

/-- The precision a stored value names (Python `WeightPrecision(value)`). -/
def WeightPrecision.ofValue? (value : String) : Option WeightPrecision :=
  [WeightPrecision.float32, .float16, .bfloat16, .int8, .int4].find? (·.value = value)

/-- User-controllable knobs of a memory estimate (Python `InferenceConfiguration`). -/
structure InferenceConfiguration where
  contextLength : ℤ
  batchSize : ℤ := 1
  targetDevice : TargetDevice := .auto
  precision : Option WeightPrecision := none
  quantization : Option String := none
  kvCacheDtype : WeightPrecision := .float16
  safetyMarginPercent : ℚ := 10
  deviceReserveBytes : ℤ := 0
  concurrentUsers : ℤ := 1
  deriving DecidableEq, Repr

end Jaull.Domain
