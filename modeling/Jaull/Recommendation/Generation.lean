import Mathlib.Data.Prod.Lex
import Mathlib.Order.WithBot
import Jaull.Domain.GgufVariants
import Jaull.ExecutionPlans.Service
import Jaull.Recommendation.LocalEvidence
import Jaull.Recommendation.Ranking

/-!
# Generating execution plans

Port of `generate_execution_plans` and of the functions under it of
`jaull/recommendation/engine_v2.py`. A plan a validator refuses ends the run with its error. Other stages
of the program are parameters (`Collaborators`); the estimate is the caller's function, as in the source.
-/

namespace Jaull.Recommendation
open Jaull.Domain Jaull.ExecutionPlans Jaull.Lib Jaull.Text

/-- What the metadata says of a model's capability (Python `CapabilitySignal`). -/
structure CapabilitySignal where
  score : ℚ
  parameterCount : Option ℤ := none
  scaleTier : Option String := none
  chatOrBase : Option String := none
  confidence : EstimationConfidence := .medium
  deriving DecidableEq, Repr

/-- Functions of other stages that planning and assessment call: none of them sees a plan or a
readiness verdict but the two that make one. -/
structure Collaborators where
  resolveModelIdentity : ModelCandidate → Option ModelAnalysis → ModelIdentity
  packedTransformersQuantizationLabel : Option ModelConfig → Option String
  selectConfiguration :
    ModelAnalysis → UserRequirements → MemoryEstimate → Option InferenceConfiguration
  evaluateExecutionReadiness : RuntimeBackendSelection → String → ExecutionReadiness
  evaluatePytorchExecutionReadiness :
    RuntimeBackendSelection → String → Bool → ExecutionReadiness
  analyzeCapability : ModelCandidate → Option ModelAnalysis → CapabilitySignal
  infersGeneralistSuitability : EvaluatedCandidate → UserRequirements → Bool
  capabilitySubject : String → Option String → Option CapabilitySubject
  repr : String → String
  readers : RecordReaders

/-- Estimates one configuration, or fails with the text of a `JaullError` (Python
`EstimatePlanFn`). -/
abbrev EstimatePlanFn := ModelAnalysis → InferenceConfiguration → Except String MemoryEstimate

/-- What ranking knows of the machine and of its history (Python `PlanRankingContext`). -/
structure PlanRankingContext where
  hardware : Option HardwareProfile := none
  backendSelection : Option RuntimeBackendSelection := none
  readinessByRuntime : Option (RuntimeName → Option ExecutionReadiness) := none
  benchmarkRecords : List BenchmarkRecord := []
  experimentRecords : List ExperimentRecord := []
  externalEvaluations : List ExternalEvaluationEvidence := []
  qualityIndex : QualityRecordIndex := {}

/-- Python `_readiness_for`. -/
def readinessFor (runtime : RuntimeName) (context : PlanRankingContext) :
    Option ExecutionReadiness :=
  context.readinessByRuntime.bind fun readiness => readiness runtime

/-- What the `ArtifactVariant` validators check. -/
def ArtifactVariant.valid (artifact : ArtifactVariant) : Bool :=
  let hex (c : Char) : Bool := ('0' ≤ c && c ≤ '9') || ('a' ≤ c && c ≤ 'f')
  artifact.sha256.all (fun sha => sha.length = 64 && sha.toList.all hex) &&
    artifact.sizeBytes.all (0 ≤ ·) && artifact.fileCount.all (1 ≤ ·)

/-- Python `_runtime_for_artifact`. -/
def runtimeForArtifact (artifact : ArtifactVariant) : RuntimeRecommendation :=
  let runtime : RuntimeName := if artifact.format = .gguf then .llamaCpp else .transformers
  { runtime := runtime
    reasons := [artifact.format.value ++ " artifact is compatible with " ++ runtime.value ++ "."]
    confidence := artifact.confidence }

/-- Python `_requires_bitsandbytes`. -/
def requiresBitsandbytes (runtime : RuntimeRecommendation) : Bool :=
  runtime.flags.any fun flag =>
    flag.name = "quantization" && flag.value ∈ ["int4", "int8", "4bit", "8bit"]

/-- Appends the issue of a failed estimate to a plan's warnings. -/
def withIssue (plan : ExecutionPlan) (issue : Option String) : ExecutionPlan :=
  { plan with warnings := plan.warnings ++ issue.toList }

section Plans
variable (collaborators : Collaborators)

/-- Python `_config_for_variant`. -/
def configForVariant (evaluated : EvaluatedCandidate) (requirements : UserRequirements)
    (quantization : Option String) (precision : Option WeightPrecision) :
    InferenceConfiguration :=
  let base : InferenceConfiguration :=
    { contextLength := requirements.desiredContext
      concurrentUsers := requirements.concurrentUsers }
  let chosen :=
    match evaluated.selectedConfiguration, evaluated.analysis, evaluated.memoryEstimate with
    | some configuration, _, _ => configuration
    | none, some analysis, some estimate =>
      (collaborators.selectConfiguration analysis requirements estimate).getD base
    | none, _, _ => base
  { chosen with quantization := quantization, precision := precision }

/-- Python `_ordered_gguf_variants`. -/
def orderedGgufVariants (variants : List GgufVariant) (priority : RecommendationPriority) :
    List GgufVariant :=
  let bytes (variant : GgufVariant) : WithTop ℤ :=
    match variant.totalBytes with
    | none => ⊤
    | some bytes => bytes
  sortedBy
    (fun variant =>
      toLex ((quantizationLadder priority).idxOf (upper variant.quantization),
        toLex (bytes variant, variant.quantization)))
    variants

/-- Python `MAX_GGUF_PLAN_VARIANTS`. -/
def maxGgufPlanVariants : ℕ := 8

/-- The variants that get a plan (the first half of Python `_gguf_plans`). -/
def plannedVariants (evaluated : EvaluatedCandidate) (analysis : ModelAnalysis)
    (priority : RecommendationPriority) (estimating : Bool) : List GgufVariant :=
  let variants :=
    orderedGgufVariants (preferredGgufVariants analysis.classification.ggufVariants) priority
  let selected := evaluated.selectedConfiguration.bind (·.quantization)
  let isSelected (variant : GgufVariant) : Bool := some variant.quantization = selected
  let limited := variants.take maxGgufPlanVariants
  let limited :=
    match variants.find? isSelected with
    | none => limited
    | some chosen => if chosen ∈ limited then limited else limited.dropLast ++ [chosen]
  if estimating then limited
  else
    let selectedVariants := limited.filter isSelected
    if selectedVariants.isEmpty then limited.take 1 else selectedVariants

/-- The verdict a GGUF plan ends with: judged again when the plan runs on another backend (the end of
Python `_gguf_plans`). -/
def ggufReadiness (context : PlanRankingContext) (plan : ExecutionPlan) :
    Option ExecutionReadiness :=
  let readiness := readinessFor .llamaCpp context
  match readiness, plan.backendSelection with
  | some verdict, some selection =>
    match verdict.runtimeCapability with
    | .llamaCpp probe =>
      if verdict.selection.selectedBackend ≠ selection.selectedBackend then
        some (collaborators.evaluateExecutionReadiness selection probe)
      else readiness
    | .pyTorch _ => readiness
  | _, _ => readiness

/-- The estimate of one variant or precision, with the issue of a failed one (the `try` of Python
`_gguf_plans` and `generate_execution_plans`). -/
def estimated (estimate : Except String MemoryEstimate) (label : String) :
    Option MemoryEstimate × Option String :=
  match estimate with
  | .ok estimate => (some estimate, none)
  | .error text => (none, some ("Memory estimate unavailable for " ++ label ++ ": " ++ text))

/-- The plan of one GGUF variant (the loop body of Python `_gguf_plans`). -/
def ggufPlan (context : PlanRankingContext) (estimateFn : Option EstimatePlanFn)
    (requirements : UserRequirements) (evaluated : EvaluatedCandidate) (analysis : ModelAnalysis)
    (identity : ModelIdentity) (variant : GgufVariant) : Except String ExecutionPlan :=
  let config := configForVariant collaborators evaluated requirements variant.quantization none
  let (estimate, issue) :=
    match estimateFn with
    | some estimate => estimated (estimate analysis config) variant.quantization
    | none => (evaluated.memoryEstimate, none)
  let artifact : ArtifactVariant :=
    { modelIdentity := identity
      repoId := evaluated.repoId
      revision := some "main"
      format := .gguf
      filename := variant.files.head?.map (·.path)
      sha256 := variant.sha256
      sizeBytes := variant.totalBytes
      fileCount := some variant.files.length
      quantization := some variant.quantization
      compatibleRuntimes := [.llamaCpp]
      confidence := identity.confidence
      evidence := identity.evidence }
  if !ArtifactVariant.valid artifact then .error "ArtifactVariant" else
  let runtime := (estimate.bind (·.runtimeRecommendation)).getD (runtimeForArtifact artifact)
  let plan := withIssue
    (buildExecutionPlan identity artifact runtime estimate context.hardware
      context.backendSelection (readinessFor .llamaCpp context) rfl)
    issue
  .ok { plan with executionReadiness := ggufReadiness collaborators context plan }

/-- Python `_gguf_plans`. -/
def ggufPlans (context : PlanRankingContext) (estimateFn : Option EstimatePlanFn)
    (requirements : UserRequirements) (evaluated : EvaluatedCandidate) (analysis : ModelAnalysis)
    (identity : ModelIdentity) : Except String (List ExecutionPlan) :=
  (plannedVariants evaluated analysis requirements.priority estimateFn.isSome).mapM
    (ggufPlan collaborators context estimateFn requirements evaluated analysis identity)

/-- Python `_transformers_readiness`. -/
def transformersReadiness (context : PlanRankingContext) (runtime : RuntimeRecommendation)
    (selection : Option RuntimeBackendSelection) : Option ExecutionReadiness :=
  match readinessFor .transformers context with
  | none => none
  | some verdict =>
    let sameBackend := selection.all fun selection =>
      selection.selectedBackend = verdict.selection.selectedBackend
    if !requiresBitsandbytes runtime && sameBackend then some verdict
    else
      match verdict.runtimeCapability with
      | .llamaCpp _ => some verdict
      | .pyTorch probe =>
        some (collaborators.evaluatePytorchExecutionReadiness
          (selection.getD verdict.selection) probe (requiresBitsandbytes runtime))

/-- Python `_transformers_plan`. -/
def transformersPlan (context : PlanRankingContext) (evaluated : EvaluatedCandidate)
    (analysis : ModelAnalysis) (identity : ModelIdentity) : Except String ExecutionPlan :=
  let packed := collaborators.packedTransformersQuantizationLabel analysis.config
  let precision :=
    if packed.isSome then none
    else (evaluated.selectedConfiguration.bind (·.precision)).map (·.value)
  let safetensors := analysis.files.any fun file =>
    ".safetensors".toList.isSuffixOf file.path.toList
  let artifact : ArtifactVariant :=
    { modelIdentity := identity
      repoId := evaluated.repoId
      revision := some "main"
      format := if safetensors then .safetensors else .transformers
      filename := some evaluated.repoId
      sizeBytes := analysis.totalSizeBytes
      quantization := packed
      precision := precision
      compatibleRuntimes := [.transformers]
      confidence := identity.confidence
      evidence := identity.evidence }
  if !ArtifactVariant.valid artifact then .error "ArtifactVariant" else
  let runtime :=
    (evaluated.memoryEstimate.bind (·.runtimeRecommendation)).getD (runtimeForArtifact artifact)
  let plan := buildExecutionPlan identity artifact runtime evaluated.memoryEstimate context.hardware
    context.backendSelection (transformersReadiness collaborators context runtime none) rfl
  .ok
    { plan with
      executionReadiness :=
        transformersReadiness collaborators context runtime plan.backendSelection }

/-- Native precision, then the ladder (Python `transformers_precision_options`). -/
def transformersPrecisionOptions (analysis : ModelAnalysis) : List WeightPrecision :=
  let declared := (analysis.config.bind (·.torchDtype)).getD ""
  let bare :=
    if "torch.".toList.isPrefixOf declared.toList then String.ofList (declared.toList.drop 6)
    else declared
  let native : Option WeightPrecision :=
    match bare with
    | "float32" => some .float32
    | "float16" => some .float16
    | "bfloat16" => some .bfloat16
    | _ => none
  let ladder : List WeightPrecision := [.float16, .int8, .int4]
  let options :=
    match native with
    | none => ladder
    | some native => native :: ladder.filter (· ≠ native)
  if (truthy (collaborators.packedTransformersQuantizationLabel analysis.config)).isSome then
    options.take 1
  else options

/-- Python `lower_theoretical_confidence`. -/
def lowerTheoreticalConfidence (estimate : MemoryEstimate) : MemoryEstimate :=
  let lowered : EstimationConfidence :=
    match estimate.assessment.confidence with
    | .high => .medium
    | .medium | .low => .low
    | .unknown => .unknown
  { estimate with assessment := { estimate.assessment with confidence := lowered } }

/-- The plan of one precision (the loop body of Python `generate_execution_plans`). -/
def precisionPlan (context : PlanRankingContext) (estimate : EstimatePlanFn)
    (requirements : UserRequirements) (evaluated : EvaluatedCandidate) (analysis : ModelAnalysis)
    (identity : ModelIdentity) (precision : WeightPrecision) : Except String ExecutionPlan :=
  let config := configForVariant collaborators evaluated requirements none (some precision)
  let config :=
    if context.hardware.all quantizedTransformersSupported then config
    else { config with targetDevice := .cpu }
  let (estimate, issue) := estimated (estimate analysis config) precision.value
  let theoretical := (precision = .int4 || precision = .int8) &&
    (collaborators.packedTransformersQuantizationLabel analysis.config).isNone
  let estimate := if theoretical then estimate.map lowerTheoreticalConfidence else estimate
  let configured :=
    { evaluated with selectedConfiguration := some config, memoryEstimate := estimate }
  (transformersPlan collaborators context configured analysis identity).map (withIssue · issue)

/-- First plan of every id (the test in the loop of Python `generate_execution_plans`). -/
def firstOfEachId (plans : List ExecutionPlan) : List ExecutionPlan :=
  plans.foldl
    (fun kept plan => if kept.any (·.planId = plan.planId) then kept else kept ++ [plan]) []

/-- Python `generate_execution_plans`. -/
def generateExecutionPlans (context : PlanRankingContext) (estimateFn : Option EstimatePlanFn)
    (requirements : UserRequirements) (evaluated : EvaluatedCandidate) :
    Except String (List ExecutionPlan) :=
  match evaluated.analysis with
  | none => .ok []
  | some analysis =>
    let identity := collaborators.resolveModelIdentity evaluated.candidate (some analysis)
    if analysis.classification.primaryType = .gguf then
      ggufPlans collaborators context estimateFn requirements evaluated analysis identity
    else
      match estimateFn with
      | none =>
        (transformersPlan collaborators context evaluated analysis identity).map fun plan => [plan]
      | some estimate =>
        ((transformersPrecisionOptions collaborators analysis).mapM
          (precisionPlan collaborators context estimate requirements evaluated analysis
            identity)).map firstOfEachId

end Plans

end Jaull.Recommendation
