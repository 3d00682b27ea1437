import Jaull.Domain.Candidates
import Jaull.Lib.PurePath
import Jaull.Runtime.LaunchPolicy

/-!
# Runtime recommendations

Port of `jaull/runtime/service.py`, of the builders `jaull/runtime/llama_cpp.py` and
`jaull/runtime/transformers.py` with their launch policies, and of `is_viable` of `jaull/runtime/vllm.py`.
-/

namespace Jaull.Runtime
open Jaull.Domain Jaull.Lib Jaull.Text

section Records

/-- Python `RuntimeFlagSource`. -/
inductive RuntimeFlagSource
  | hardware | estimate | policy | userInput
  deriving DecidableEq, Repr

/-- Python `RuntimeFlag`, with where it comes from. -/
structure LaunchFlag extends RuntimeFlag where
  source : RuntimeFlagSource
  explanation : String
  deriving DecidableEq, Repr

/-- Python `RuntimeRecommendation`, with what it shows. -/
structure LaunchRecommendation where
  runtime : RuntimeName
  commandPreview : Option String := none
  pythonSnippet : Option String := none
  flags : List LaunchFlag := []
  reasons : List String := []
  warnings : List String := []
  confidence : EstimationConfidence
  alternatives : List RuntimeName := []
  deriving DecidableEq, Repr

/-- An estimate with what a recommendation reads of it, and the recommendation stored with it. -/
structure PlannedEstimate extends LaunchEstimate where
  repositoryType : RepositoryType
  pipelineTag : Option String := none
  architecture : Option String := none
  stored : Option LaunchRecommendation := none
  deriving DecidableEq

/-- What planning a launch raises. -/
inductive LaunchFailure
  /-- Python `ExecutionPlanningError`. -/
  | planning (message : String)
  | python (error : PyError)
  | digits (error : TooManyDigits)
  | assertion
  deriving DecidableEq, Repr

end Records

section LlamaCpp

/-- Python `LLAMA_CPP_VERIFIED_BUILD`. -/
def llamaCppVerifiedBuild : String :=
  "689e227db"

/-- The plan of a tensor budget. -/
def tensorPlan (refined : TensorLayerBudget) (artifact : ModelArtifact) : LlamaCppLayerPlan where
  nGpuLayers := refined.requestedUnits
  reasons :=
    ["Local GGUF tensor budget; llama.cpp build " ++ llamaCppVerifiedBuild ++ ": " ++
        toString refined.requestedUnits ++ " runtime units, " ++ toString refined.gpuBlocks ++ "/" ++
        toString refined.totalBlocks ++ " repeating blocks plus output when enabled.",
      "GPU planning bytes: blocks=" ++ toString refined.gpuBlockBytes ++ ", output=" ++
        toString refined.gpuOutputBytes ++ ", KV=" ++ toString refined.gpuKvBytes ++ ", reserve=" ++
        toString refined.reserveBytes ++ ", headroom=" ++ toString refined.headroomBytes ++ "; required=" ++
        toString refined.requiredBytes ++ ", available=" ++ toString refined.availableVramBytes ++
        ". Input tensor budget on host=" ++ toString refined.hostInputBytes ++ ".",
      "Artifact: " ++ artifact.repoId ++ "@" ++ artifact.revision ++ "/" ++ artifact.filename ++ "; sha256=" ++
        (truthy artifact.sha256).getD "unrecorded" ++
        ". Stored tensor bytes and estimated KV are not measured CUDA allocations."]

/-- Python `pick_gpu_layers`. -/
def pickGpuLayers (estimate : LaunchEstimate) (tensorContext : Option LlamaCppTensorContext) :
    Except LaunchFailure LlamaCppLayerPlan :=
  match tensorContext with
  | none => (pickAggregateGpuLayers estimate).mapError .python
  | some context =>
    if estimate.assessment.effectiveDevice = .cpu then (pickAggregateGpuLayers estimate).mapError .python
    else do
      match ← (selectTensorBudget estimate context).mapError LaunchFailure.digits with
      | .budget refined =>
        match context.index with
        | some index => return tensorPlan refined index.artifact.toModelArtifact
        | none => .error .assertion
      | .refused reason =>
        let fallback ← (pickAggregateGpuLayers estimate).mapError LaunchFailure.python
        return { fallback with
          warnings := fallback.warnings ++ ["Local tensor refinement not applied: " ++ reason] }

/-- Python `_first_gguf_filename`. -/
def firstGgufFilename (estimate : PlannedEstimate) : Option String :=
  estimate.weights.ggufVariant.map fun variant =>
    String.ofList (PurePath.ofText estimate.repoId).name ++ "." ++ variant ++ ".gguf"

/-- The file that the command names. -/
def fileHint (estimate : PlannedEstimate) : String :=
  (firstGgufFilename estimate).getD ((truthy estimate.weights.ggufVariant).getD "model" ++ ".gguf")

/-- The recommendation of a layer plan. -/
def llamaCppRecommendation (estimate : PlannedEstimate) (layerPlan : LlamaCppLayerPlan) :
    LaunchRecommendation where
  runtime := .llamaCpp
  commandPreview :=
    some ("llama-server --model " ++ fileHint estimate ++ " --ctx-size " ++
      toString estimate.inferenceConfiguration.contextLength ++ " --n-gpu-layers " ++
      toString layerPlan.nGpuLayers)
  flags :=
    [{ name := "--model"
       value := fileHint estimate
       source := .userInput
       explanation := "Path to the .gguf file. Download it first with " ++
         "`huggingface-cli download` and pass the resulting local path." },
      { name := "--ctx-size"
        value := toString estimate.inferenceConfiguration.contextLength
        source := .estimate
        explanation := "Context length used for the memory estimate." },
      { name := "--n-gpu-layers"
        value := toString layerPlan.nGpuLayers
        source := .hardware
        explanation := "llama.cpp offload units requested by the launch policy. -1 means all." }]
  reasons := layerPlan.reasons ++
    ["Prompt-token batching uses the llama.cpp runtime default. " ++
      "The estimate's sequence batch size is not a --batch-size token limit."]
  warnings := layerPlan.warnings
  confidence := layerPlan.confidence

/-- Python `llama_cpp.build`. -/
def buildLlamaCpp (estimate : PlannedEstimate) (tensorContext : Option LlamaCppTensorContext) :
    Except LaunchFailure LaunchRecommendation := do
  let layerPlan ← pickGpuLayers estimate.toLaunchEstimate tensorContext
  return llamaCppRecommendation estimate layerPlan

end LlamaCpp

section Transformers

/-- Python `TransformersDeviceMapPlan`. -/
structure TransformersDeviceMapPlan where
  deviceMap : String
  reasons : List String := []
  warnings : List String := []
  deriving DecidableEq, Repr

/-- Python `pick_device_map`. -/
def pickDeviceMap (assessment : CompatibilityAssessment) : TransformersDeviceMapPlan :=
  if assessment.effectiveDevice = .cpu then
    { deviceMap := "cpu"
      reasons := ["Effective device is CPU; loading the whole model into RAM."] }
  else if assessment.status ∈ [.comfortable, .compatible, .tight] then
    { deviceMap := "cuda"
      reasons := ["Model fits in VRAM (" ++ assessment.status.value ++ "); placing everything on the GPU."] }
  else
    { deviceMap := "auto"
      reasons := ["Model does not fit fully in VRAM; letting Accelerate split layers."]
      warnings :=
        ["device_map='auto' requires the `accelerate` package. Actual placement " ++
          "depends on Accelerate's heuristics and available disk swap."] }

/-- How Transformers loads a precision. -/
inductive PrecisionLoad
  /-- A mode of Python `QUANTIZATION_MODES`. -/
  | quantized (mode : String)
  /-- An expression of Python `_torch_dtype_expr`. -/
  | dtype (expression : String)
  deriving DecidableEq, Repr

/-- Python `quantization_mode`, else `_torch_dtype_expr`. -/
def precisionLoad : WeightPrecision → PrecisionLoad
  | .int4 => .quantized "4bit"
  | .int8 => .quantized "8bit"
  | .float32 => .dtype "torch.float32"
  | .float16 => .dtype "torch.float16"
  | .bfloat16 => .dtype "torch.bfloat16"

/-- The snippet that loads a repository. -/
def loadSnippet (repoId deviceMap : String) : PrecisionLoad → String
  | .quantized mode =>
    "from transformers import (\n    AutoModelForCausalLM,\n    AutoTokenizer,\n    BitsAndBytesConfig,\n)\n" ++
      "import torch\n\ntokenizer = AutoTokenizer.from_pretrained(\"" ++ repoId ++ "\")\n" ++
      "model = AutoModelForCausalLM.from_pretrained(\n    \"" ++ repoId ++ "\",\n" ++
      "    quantization_config=BitsAndBytesConfig(\n        load_in_" ++ mode ++ "=True,\n" ++
      (if mode = "4bit" then "        bnb_4bit_compute_dtype=torch.float16,\n" else "") ++
      "    ),\n    device_map=\"" ++ deviceMap ++ "\",\n)"
  | .dtype expression =>
    "from transformers import AutoModelForCausalLM, AutoTokenizer\nimport torch\n\n" ++
      "tokenizer = AutoTokenizer.from_pretrained(\"" ++ repoId ++ "\")\n" ++
      "model = AutoModelForCausalLM.from_pretrained(\n    \"" ++ repoId ++ "\",\n    torch_dtype=" ++
      expression ++ ",\n    device_map=\"" ++ deviceMap ++ "\",\n)"

/-- The flag that carries the precision. -/
def precisionFlag (precision : WeightPrecision) : LaunchFlag :=
  match precisionLoad precision with
  | .quantized mode =>
    { name := "quantization"
      value := mode
      source := .estimate
      explanation := "The estimate is " ++ precision.value ++ ", which Transformers loads " ++
        "through BitsAndBytesConfig(load_in_" ++ mode ++ "=True), not through a torch dtype." }
  | .dtype expression =>
    { name := "torch_dtype"
      value := expression
      source := .estimate
      explanation := "Weight precision derived from the estimate (" ++ precision.value ++ ")." }

/-- What a quantized load warns of. -/
def quantizedWarnings : PrecisionLoad → List String
  | .quantized _ =>
    ["Running this configuration requires 'bitsandbytes' in the selected Transformers Python environment.",
      "The estimate assumes every weight is quantized. bitsandbytes keeps some modules at a higher " ++
        "precision, so the loaded footprint is larger than parameters x bits/8."]
  | .dtype _ => []

/-- Python `transformers.build`. -/
def buildTransformers (estimate : PlannedEstimate) : LaunchRecommendation :=
  let precision := estimate.weights.precision.getD .float16
  let plan := pickDeviceMap estimate.assessment
  { runtime := .transformers
    pythonSnippet := some (loadSnippet estimate.repoId plan.deviceMap (precisionLoad precision))
    flags :=
      [precisionFlag precision,
        { name := "device_map"
          value := plan.deviceMap
          source := .hardware
          explanation := "How Accelerate should place the layers across devices." }]
    reasons := plan.reasons
    warnings := plan.warnings ++ quantizedWarnings (precisionLoad precision)
    confidence := .high }

/-- Python `VLLM_SUPPORTED_ARCHITECTURES`. -/
def vllmSupportedArchitectures : List String :=
  ["llama", "qwen2", "mistral", "phi3", "gemma", "gemma2", "gemma3"]

/-- Python `vllm.is_viable`. -/
def vllmIsViable (estimate : PlannedEstimate) : Bool :=
  (estimate.pipelineTag.isNone || estimate.pipelineTag = some "text-generation" ||
      estimate.pipelineTag = some "conversational") &&
    (estimate.architecture.any fun architecture => lower architecture ∈ vllmSupportedArchitectures) &&
    estimate.assessment.effectiveDevice = .gpu &&
    estimate.assessment.status ∈ [.comfortable, .compatible, .tight]

end Transformers

section Service

/-- A recommendation of no runtime. -/
def noRuntime (confidence : EstimationConfidence) (warning : String) : LaunchRecommendation where
  runtime := .unknown
  confidence := confidence
  warnings := [warning]

/-- Python `_no_runtime_available`. -/
def noRuntimeAvailable : LaunchRecommendation :=
  noRuntime .high "No runtime can run this model on the current hardware: memory is insufficient."

/-- Python `_unknown_estimate`. -/
def unknownEstimate : LaunchRecommendation :=
  noRuntime .unknown "Not enough information to pick a runtime (memory estimate is incomplete)."

/-- Python `_unsupported_type`. -/
def unsupportedType (repositoryType : RepositoryType) : LaunchRecommendation :=
  noRuntime .unknown ("Runtime recommendations for repository type '" ++ repositoryType.value ++
    "' are out of scope in the current iteration.")

/-- Python `recommend`. -/
def recommend (estimate : PlannedEstimate) (repositoryType : RepositoryType) :
    Except LaunchFailure LaunchRecommendation :=
  if estimate.assessment.status = .insufficient then .ok noRuntimeAvailable
  else if estimate.assessment.status = .unknown then .ok unknownEstimate
  else
    match repositoryType with
    | .gguf => buildLlamaCpp estimate none
    | .transformers =>
      let primary := buildTransformers estimate
      .ok (if vllmIsViable estimate then { primary with alternatives := [.vllm] } else primary)
    | other => .ok (unsupportedType other)

end Service

end Jaull.Runtime
