import Jaull.Domain.Inference

/-!
# Runtime domain

Port of the part of `jaull/domain/runtime.py` that planning reads: the runtimes a plan can name and
the record of a compute-backend selection, the runtime a plan recommends and the readiness verdict on
it. The installation and probe records of that file belong to execution: a capability keeps which
runtime was probed and what the probe said, as text.
-/

namespace Jaull.Domain

/-- Runtimes a plan can name (Python `RuntimeName`). -/
inductive RuntimeName
  | llamaCpp | transformers | vllm | unknown
  deriving DecidableEq, Repr

/-- The stored value of a runtime name (Python `RuntimeName.value`). -/
def RuntimeName.value : RuntimeName → String
  | .llamaCpp => "llama.cpp"
  | .transformers => "transformers"
  | .vllm => "vllm"
  | .unknown => "unknown"

/-- Why a backend was selected (Python `RuntimeBackendSelectionReason`). -/
inductive RuntimeBackendSelectionReason
  | nativeBackendAvailable | vulkanBackendAvailable | cpuFallback | noUsableAccelerator
  | softwareRendererIgnored
  deriving DecidableEq, Repr

/-- What a selection remembers of its accelerator (Python `SelectedAcceleratorRef`). -/
structure SelectedAcceleratorRef where
  name : String
  vendor : AcceleratorVendor
  type : AcceleratorType
  vendorId : Option String := none
  deviceId : Option String := none
  pciBusId : Option String := none
  uuid : Option String := none
  dedicatedMemoryBytes : Option ℤ := none
  sharedMemory : Bool := false
  detectionSources : List String := []
  deriving DecidableEq, Repr

/-- One backend that could run the plan (Python `RuntimeBackendCandidate`). -/
structure RuntimeBackendCandidate where
  backend : ComputeBackend
  accelerator : Option SelectedAcceleratorRef := none
  backendInfo : Option ComputeBackendInfo := none
  reason : RuntimeBackendSelectionReason
  deriving DecidableEq, Repr

/-- The preferred backend and the ones behind it (Python `RuntimeBackendSelection`). -/
structure RuntimeBackendSelection where
  selectedBackend : ComputeBackend
  selectedAccelerator : Option SelectedAcceleratorRef := none
  reason : RuntimeBackendSelectionReason
  backendInfo : Option ComputeBackendInfo := none
  alternatives : List RuntimeBackendCandidate := []
  notes : List String := []
  deriving DecidableEq, Repr

/-- The stored value of a backend (Python `ComputeBackend.value`). -/
def ComputeBackend.value : ComputeBackend → String
  | .cpu => "cpu"
  | .cuda => "cuda"
  | .vulkan => "vulkan"
  | .hip => "hip"

/-- One launch flag (Python `RuntimeFlag`). -/
structure RuntimeFlag where
  name : String
  value : String
  deriving DecidableEq, Repr

/-- The runtime recommended for an artifact (Python `RuntimeRecommendation`). -/
structure RuntimeRecommendation where
  runtime : RuntimeName
  flags : List RuntimeFlag := []
  reasons : List String := []
  warnings : List String := []
  confidence : EstimationConfidence
  deriving DecidableEq, Repr

/-- Last value given to a flag (Python `{flag.name: flag.value for flag in runtime.flags}.get(name)`). -/
def RuntimeRecommendation.flag? (runtime : RuntimeRecommendation) (name : String) : Option String :=
  (runtime.flags.reverse.find? (·.name = name)).map (·.value)

/-- What the probe of an installed runtime reported (Python `RuntimeCapability`). -/
inductive RuntimeCapability
  | llamaCpp (probe : String)
  | pyTorch (probe : String)
  deriving DecidableEq, Repr

/-- Whether this installation could launch a plan now (Python `ExecutionReadinessStatus`). -/
inductive ExecutionReadinessStatus
  | ready | preparable | notReady | unknown
  deriving DecidableEq, Repr

/-- The stored value of a readiness status (Python `ExecutionReadinessStatus.value`). -/
def ExecutionReadinessStatus.value : ExecutionReadinessStatus → String
  | .ready => "ready"
  | .preparable => "preparable"
  | .notReady => "not_ready"
  | .unknown => "unknown"

/-- Why a readiness verdict was given (Python `ExecutionReadinessReason`). -/
inductive ExecutionReadinessReason
  | runtimeAvailable | runtimeMissing | runtimeNotExecutable | runtimeImportFailed | probeFailed
  | selectedBackendExposed | selectedBackendNotExposed | selectedDeviceNotExposed
  | selectedDeviceNotIdentified | quantizationDependencyMissing | quantizationDependencyUnknown
  | artifactPreparationRequired | artifactUnsupported | capabilityUnknown
  deriving DecidableEq, Repr

/-- The stored value of a readiness reason (Python `ExecutionReadinessReason.value`). -/
def ExecutionReadinessReason.value : ExecutionReadinessReason → String
  | .runtimeAvailable => "runtime_available"
  | .runtimeMissing => "runtime_missing"
  | .runtimeNotExecutable => "runtime_not_executable"
  | .runtimeImportFailed => "runtime_import_failed"
  | .probeFailed => "probe_failed"
  | .selectedBackendExposed => "selected_backend_exposed"
  | .selectedBackendNotExposed => "selected_backend_not_exposed"
  | .selectedDeviceNotExposed => "selected_device_not_exposed"
  | .selectedDeviceNotIdentified => "selected_device_not_identified"
  | .quantizationDependencyMissing => "quantization_dependency_missing"
  | .quantizationDependencyUnknown => "quantization_dependency_unknown"
  | .artifactPreparationRequired => "artifact_preparation_required"
  | .artifactUnsupported => "artifact_unsupported"
  | .capabilityUnknown => "capability_unknown"

/-- The preflight verdict on one runtime (Python `ExecutionReadiness`). -/
structure ExecutionReadiness where
  status : ExecutionReadinessStatus
  reason : ExecutionReadinessReason
  selection : RuntimeBackendSelection
  runtimeCapability : RuntimeCapability
  message : Option String := none
  deriving DecidableEq, Repr

/-- What one configuration is estimated to need, and how it fits (Python `MemoryEstimate`). -/
structure MemoryEstimate where
  inferenceConfiguration : InferenceConfiguration
  totalBytes : Option ℤ
  assessment : CompatibilityAssessment
  runtimeRecommendation : Option RuntimeRecommendation := none
  deriving DecidableEq, Repr

end Jaull.Domain
