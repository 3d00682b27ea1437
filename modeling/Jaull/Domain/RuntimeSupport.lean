import Jaull.Domain.Runtime
import Jaull.Text.Case

/-!
# Technical support

Port of `jaull/domain/runtime_support.py`: what a machine and a loader support, whatever is installed.
-/

namespace Jaull.Domain
open Jaull.Text

/-- Whether a backend is observed as available; the CPU always is (the membership test of Python
`available_compute_backends`). -/
def backendAvailable (hardware : HardwareProfile) (backend : ComputeBackend) : Bool :=
  backend = .cpu ||
  (hardware.accelerators.filter (·.type ≠ .software)).any (fun accelerator =>
    accelerator.backends.any fun item =>
      item.backend = backend && item.availability = .available && !item.softwareRenderer) ||
  -- Old snapshots only have NVML cards.
  backend = .cuda && !hardware.gpus.isEmpty && hardware.accelerators.isEmpty

/-- Python `QUANTIZED_TRANSFORMERS_BACKENDS`. -/
def quantizedTransformersBackends : List ComputeBackend :=
  [.cuda, .hip]

/-- Python `quantized_transformers_supported`. -/
def quantizedTransformersSupported (hardware : HardwareProfile) : Bool :=
  quantizedTransformersBackends.any (backendAvailable hardware)

/-- A demonstrated technical blocker, independent of readiness (Python `technical_support_issue`). -/
def technicalSupportIssue (runtime : RuntimeRecommendation) (backend : ComputeBackend)
    (hardware : HardwareProfile) (quantization : Option String)
    (precision : Option WeightPrecision) : Option String :=
  if !backendAvailable hardware backend then
    some ("The " ++ backend.value ++ " backend is not observed as available in this environment.")
  else if runtime.runtime ≠ .transformers then none
  else if backend = .vulkan then
    some "Jaull's Transformers loader does not support the Vulkan backend."
  else if quantized && backend ∉ quantizedTransformersBackends then
    some ("This quantized Transformers configuration is not supported on CPU by " ++
      "Jaull's current loader; it requires an available CUDA/HIP backend.")
  else if packed && backend ≠ .cuda then
    some "Jaull's AWQ/GPTQ loader requires an available CUDA backend."
  else none
where
  quantized : Bool :=
    quantization.isSome || precision = some .int4 || precision = some .int8 ||
      (runtime.flag? "quantization").any (· ∈ ["4bit", "8bit", "int4", "int8"])
  packed : Bool :=
    quantization.any fun quantization =>
      "AWQ".toList.isPrefixOf (upper quantization).toList ||
        "GPTQ".toList.isPrefixOf (upper quantization).toList

end Jaull.Domain
