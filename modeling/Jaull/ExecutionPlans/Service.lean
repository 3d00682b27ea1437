import Jaull.Domain.RuntimeSupport
import Jaull.ExecutionPlans.PlanId

/-!
# Building execution plans

Port of `build_execution_plan` of `jaull/execution_plans/service.py`. A readiness verdict enters a plan in
three fields, `executionReadiness`, `evidence` and `warnings`, and in no other.
-/

namespace Jaull.ExecutionPlans
open Jaull.Domain Jaull.Text

/-- Backend of the structured placement (the `backend` of Python `_execution_selection`). -/
def placedBackend (runtime : RuntimeRecommendation) (hardware : HardwareProfile)
    (selection : Option RuntimeBackendSelection) (estimate : Option MemoryEstimate) :
    ComputeBackend :=
  let device := runtime.flag? "device_map"
  let ngl := runtime.flag? "--n-gpu-layers"
  if device = some "cpu" || ngl = some "0" then .cpu
  else if device = some "cuda" then
    match (selection.map (·.selectedBackend)).filter (fun b => b = .cuda || b = .hip) with
    | some backend => backend
    | none =>
      if backendAvailable hardware .cuda then .cuda
      else if backendAvailable hardware .hip then .hip
      else .cuda
  else if estimate.any (·.assessment.effectiveDevice = .cpu) && ngl.isNone then .cpu
  else
    match selection with
    | some selection => selection.selectedBackend
    | none =>
      let supported (backend : ComputeBackend) : Bool :=
        backendAvailable hardware backend &&
          !(runtime.runtime = .transformers && backend = .vulkan)
      ([ComputeBackend.cuda, .hip, .vulkan].find? supported).getD .cpu

/-- Backend provenance aligned with the placement, never with a binary probe (Python
`_execution_selection`). -/
def executionSelection (runtime : RuntimeRecommendation) (hardware : Option HardwareProfile)
    (selection : Option RuntimeBackendSelection) (estimate : Option MemoryEstimate) :
    Option RuntimeBackendSelection :=
  match hardware with
  | none => selection
  | some hardware =>
    let backend := placedBackend runtime hardware selection estimate
    let planned : RuntimeBackendSelection :=
      { selectedBackend := backend
        reason := if backend = .cpu then .cpuFallback else .nativeBackendAvailable }
    match selection with
    | none => some planned
    | some selection =>
      if selection.selectedBackend = backend then some selection
      else
        match selection.alternatives.find? (·.backend = backend) with
        | none => some planned
        | some alternative =>
          some
            { selectedBackend := backend
              selectedAccelerator := alternative.accelerator
              backendInfo := alternative.backendInfo
              reason := alternative.reason }

/-- Whether artifact and runtime fit each other, blind to what is installed (Python
`_compatibility`). -/
def compatibility (artifact : ArtifactVariant) (runtime : RuntimeRecommendation) :
    PlanCompatibilityStatus :=
  if runtime.runtime ∈ artifact.compatibleRuntimes then .compatible else .notCompatible

/-- Python `_plan_evidence`. -/
def planEvidence (artifact : ArtifactVariant) (readiness : Option ExecutionReadiness) :
    List String :=
  ["artifact:" ++ artifact.format.value, "identity_match:" ++ artifact.identityMatch.value] ++
  (truthy artifact.quantization).toList.map ("quantization:" ++ ·) ++
  match readiness with
  | none => []
  | some readiness =>
    ["readiness:" ++ readiness.status.value, "readiness_reason:" ++ readiness.reason.value]

/-- Python `_plan_warnings`. -/
def planWarnings (artifact : ArtifactVariant) (runtime : RuntimeRecommendation)
    (readiness : Option ExecutionReadiness) : List String :=
  runtime.warnings ++
  (if artifact.identityMatch = .uncertain then
    ["Artifact identity match is heuristic and not automatically safe."] else []) ++
  match readiness with
  | none => []
  | some readiness =>
    if readiness.status = .notReady || readiness.status = .unknown then
      [(truthy readiness.message).getD ("Runtime readiness is " ++ readiness.status.value ++ ".")]
    else []

/-- Precision the support check is made for (the `precision` of Python `build_execution_plan`). -/
def plannedPrecision (artifact : ArtifactVariant) (memoryPrediction : Option MemoryEstimate) :
    Option WeightPrecision :=
  (memoryPrediction.bind (·.inferenceConfiguration.precision)).or
    (artifact.precision.bind WeightPrecision.ofValue?)

/-- Why the machine cannot run the plan (the `issue` of Python `build_execution_plan`). -/
def planIssue (artifact : ArtifactVariant) (runtime : RuntimeRecommendation)
    (memoryPrediction : Option MemoryEstimate) (hardware : Option HardwareProfile)
    (selection : Option RuntimeBackendSelection) : Option String :=
  match hardware, selection with
  | some hardware, some selection =>
    let ngl := runtime.flag? "--n-gpu-layers"
    if runtime.runtime = .llamaCpp && ngl ≠ none && ngl ≠ some "0" &&
        selection.selectedBackend = .cpu then
      some "GPU layer offload requires an available hardware accelerator backend."
    else
      technicalSupportIssue runtime selection.selectedBackend hardware artifact.quantization
        (plannedPrecision artifact memoryPrediction)
  | _, _ => none

/-- A verdict on another backend than the selected one says nothing of the plan (the guard of Python
`build_execution_plan`). -/
def alignedReadiness (selection : Option RuntimeBackendSelection)
    (readiness : Option ExecutionReadiness) : Option ExecutionReadiness :=
  match readiness, selection with
  | some verdict, some selection =>
    if verdict.selection.selectedBackend ≠ selection.selectedBackend then none else readiness
  | _, _ => readiness

/-- Python `build_execution_plan`; `matches_identity` is what the `ExecutionPlan` validator checks. -/
def buildExecutionPlan (modelIdentity : ModelIdentity) (artifact : ArtifactVariant)
    (runtime : RuntimeRecommendation) (memoryPrediction : Option MemoryEstimate)
    (hardware : Option HardwareProfile) (backendSelection : Option RuntimeBackendSelection)
    (executionReadiness : Option ExecutionReadiness)
    (matches_identity : artifact.modelIdentity = modelIdentity) : ExecutionPlan :=
  let selection := executionSelection runtime hardware backendSelection memoryPrediction
  let issue := planIssue artifact runtime memoryPrediction hardware selection
  let readiness := alignedReadiness selection executionReadiness
  { planId := planId artifact runtime selection
    modelIdentity := modelIdentity
    artifact := artifact
    runtime := runtime
    backendSelection := selection
    executionReadiness := readiness
    memoryPrediction := memoryPrediction
    hardware := hardware
    compatibility := if issue.isSome then .notCompatible else compatibility artifact runtime
    evidence := planEvidence artifact readiness
    warnings := planWarnings artifact runtime readiness ++ issue.toList
    identity_matches := matches_identity }

end Jaull.ExecutionPlans
