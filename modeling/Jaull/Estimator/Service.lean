import Jaull.Domain.Enrichment
import Jaull.Domain.GgufVariants
import Jaull.Estimator.Compatibility
import Jaull.Estimator.Weights
import Jaull.Lib.PurePath

/-!
# Memory estimates

Port of `jaull/estimator/service.py`, with the weights of `jaull/estimator/weights.py`, the variant of
`jaull/estimator/gguf_selection.py` and the overhead of `jaull/estimator/overhead.py`. What the client, the
header reader and the runtime policy answer is a parameter; the assumptions and warnings are left out.
-/

namespace Jaull.Estimator
open Jaull.Domain Jaull.Lib Jaull.Text

/-- Python `SafetensorsSummary`. -/
structure SafetensorsSummary where
  totalParameters : ℤ
  parametersByDtype : List (String × ℤ) := []
  deriving DecidableEq, Repr

/-- Python `RuntimeOverheadEstimate`. -/
structure RuntimeOverheadEstimate where
  component : MemoryComponent
  baseBytes : ℤ
  weightFraction : ℚ
  minimumBytes : ℤ
  deriving DecidableEq, Repr

/-- What an estimate raises. -/
inductive EstimationFailure
  | quantizationNotFound (requested : String) (available : List String)
  | ggufVariantSelection (message : String)
  | estimate (error : EstimateError)
  | analyze (error : AnalyzeError)
  /-- What the client or the header reader raises. -/
  | raised (message : String)
  deriving DecidableEq, Repr

section Variants

/-- Python `VariantChoice`. -/
structure VariantChoice where
  variant : GgufVariant
  reason : String
  deriving DecidableEq, Repr

/-- Python `DEFAULT_GGUF_QUANTIZATION`. -/
def defaultGgufQuantization : String :=
  "Q4_K_M"

/-- Python `unique_gguf_representation`, with the error it raises. -/
def uniqueRepresentation (variants : List GgufVariant) : Except EstimationFailure GgufVariant :=
  match uniqueGgufRepresentation variants with
  | some variant => .ok variant
  | none =>
    let names := ", ".intercalate ((variants.flatMap (·.files)).map (·.path))
    let reason :=
      if variants.any (·.isComplete) then "Multiple artifacts share this quantization"
      else "Incomplete GGUF shard set"
    .error (.ggufVariantSelection (reason ++ ": " ++ names ++ ". No artifact was selected."))

/-- The branch of `select_variant` for a quantization that is asked for. -/
def selectNamed (variants : List GgufVariant) (requested : String) : Except EstimationFailure VariantChoice :=
  match variants.filter fun variant => lower variant.quantization = lower requested with
  | [] => .error (.quantizationNotFound requested (variants.map (·.quantization)))
  | first :: rest => do
    let variant ← uniqueRepresentation (first :: rest)
    return { variant := variant, reason := "Selected explicitly by user: " ++ first.quantization ++ "." }

/-- The order of the variants around the median. -/
def medianKey (variant : GgufVariant) : Bool ×ₗ ℤ ×ₗ String :=
  toLex (variant.totalBytes.isNone, toLex (orInt variant.totalBytes 0, variant.quantization))

/-- Python `select_variant`. -/
def selectVariant (variants : List GgufVariant) (requested : Option String) :
    Except EstimationFailure VariantChoice :=
  if variants.isEmpty then .error (.quantizationNotFound (requested.getD "") [])
  else match truthy requested with
  | some requested => selectNamed variants requested
  | none =>
    if variants.any fun variant => upper variant.quantization = defaultGgufQuantization then do
      let choice ← selectNamed variants defaultGgufQuantization
      pure
        { variant := choice.variant
          reason := "Auto-selected " ++ defaultGgufQuantization ++
            " as the default quality/size trade-off." }
    else
      let ordered := sortedBy medianKey (preferredGgufVariants variants)
      match ordered[ordered.length / 2]? with
      | none =>
        .error (.ggufVariantSelection "No unambiguous complete GGUF representation is available.")
      | some median =>
        .ok
          { variant := median
            reason := "Auto-selected " ++ median.quantization ++ " as the median-sized variant (no " ++
              defaultGgufQuantization ++ " available)." }

end Variants

section Weights

/-- Python `_SAFETENSORS_DTYPE_TO_PRECISION.get`. -/
def safetensorsDtypeToPrecision : String → Option WeightPrecision
  | "F32" => some .float32
  | "F16" => some .float16
  | "BF16" => some .bfloat16
  | "I8" => some .int8
  | "U8" => some .int8
  | _ => none

/-- Python `_torch_dtype_to_precision`. -/
def torchDtypeToPrecision (name : Option String) : Option WeightPrecision :=
  match name.map lower with
  | some "float32" => some .float32
  | some "fp32" => some .float32
  | some "float16" => some .float16
  | some "fp16" => some .float16
  | some "half" => some .float16
  | some "bfloat16" => some .bfloat16
  | some "bf16" => some .bfloat16
  | some "int8" => some .int8
  | some "int4" => some .int4
  | _ => none

/-- Python `_dominant_precision`: of the first dtype with the most parameters. -/
def dominantPrecision (summary : SafetensorsSummary) : Option WeightPrecision :=
  (sortedBy (fun entry => -entry.2) summary.parametersByDtype).head?.bind fun entry =>
    safetensorsDtypeToPrecision entry.1

/-- Python `_unknown_weights`. -/
def weightsUnknown (reason : String) : WeightEstimate where
  component :=
    { name := "Weights"
      bytes := none
      source := .unknown
      confidence := .unknown
      explanation := reason }

/-- Python `estimate_weights_from_gguf`. -/
def estimateWeightsFromGguf (variant : GgufVariant) : WeightEstimate where
  component :=
    { name := "Weights"
      bytes := variant.totalBytes
      source := if variant.totalBytes.isSome then .exact else .unknown
      confidence := if variant.totalBytes.isSome then .high else .unknown
      explanation :=
        if variant.totalBytes.isSome then
          "Exact remote file size of the " ++ variant.quantization ++ " variant."
        else "File size is not known for the " ++ variant.quantization ++ " variant." }
  ggufVariant := some variant.quantization

/-- Python `estimate_weights_from_safetensors`. -/
def estimateWeightsFromSafetensors (summary : SafetensorsSummary)
    (requestedPrecision : Option WeightPrecision) (config : Option ModelConfig) : WeightEstimate :=
  let precision := ((requestedPrecision.or (dominantPrecision summary)).or
    (config.bind fun config => torchDtypeToPrecision config.torchDtype)).getD .float16
  let bpp := bytesPerParameter precision
  { component :=
      { name := "Weights"
        bytes := some ⌈(summary.totalParameters : ℚ) * bpp⌉
        source := .metadata
        confidence := .high
        explanation := withCommas summary.totalParameters ++ " parameters x " ++ formatGeneral bpp ++
          " bytes (" ++ precision.value ++ ") from safetensors metadata." ++
          if requestedPrecision.isSome && requestedPrecision ≠ dominantPrecision summary then
            " Requested precision differs from the stored precision."
          else "" }
    numParameters := some summary.totalParameters
    bitsPerParameter := some (bpp * 8)
    precision := some precision }

/-- The loop of Python `_format`. -/
def formatUnits (size : ℚ) : List String → String
  | [] => formatFixed 1 size ++ " PiB"
  | unit :: units =>
    if size < 1024 then formatFixed 1 size ++ " " ++ unit else formatUnits (size / 1024) units

/-- Python `_format`. -/
def formatBytes (byteCount : ℤ) : String :=
  formatUnits byteCount ["B", "KiB", "MiB", "GiB", "TiB"]

/-- Whether a file holds weights. -/
def isWeightFile (file : ModelFile) : Bool :=
  let name := (lower (String.ofList (PurePath.ofText file.path).name)).toList
  ".safetensors".toList.isSuffixOf name ||
    (".bin".toList.isSuffixOf name && name.tails.any ("pytorch_model".toList.isPrefixOf ·))

/-- Python `_weight_file_bytes`. -/
def weightFileBytes (analysis : ModelAnalysis) : ℤ :=
  ((analysis.files.filter isWeightFile).map fun file => file.sizeBytes.getD 0).sum

/-- Python `estimate_weights_from_files`. -/
def estimateWeightsFromFiles (analysis : ModelAnalysis) (requestedPrecision : Option WeightPrecision)
    (config : Option ModelConfig) : WeightEstimate :=
  let total := weightFileBytes analysis
  if total = 0 then weightsUnknown "No weight files (safetensors or bin) found in the repository."
  else
    let stored := (config.bind fun config => torchDtypeToPrecision config.torchDtype).getD .float16
    let effective := requestedPrecision.getD stored
    let ratio := bytesPerParameter effective / bytesPerParameter stored
    { component :=
        { name := "Weights"
          bytes := some (if effective = stored then total else ⌈(total : ℚ) * ratio⌉)
          source := .derived
          confidence := .medium
          explanation :=
            if effective = stored then
              "Sum of weight file sizes (" ++ formatBytes total ++ ") using stored precision " ++
                stored.value ++ "."
            else
              "Weight files total " ++ formatBytes total ++ " at " ++ stored.value ++ "; scaled to " ++
                effective.value ++ " (ratio " ++ formatFixed 3 ratio ++ ")." }
      bitsPerParameter := some (bytesPerParameter effective * 8)
      precision := some effective }

end Weights

section Overhead

/-- Python `OVERHEAD_MIN_BYTES`. -/
def overheadMinBytes : ℤ :=
  256 * 1024 ^ 2

/-- Python `_gib`. -/
def gibText (value : ℤ) : String :=
  formatFixed 2 ((value : ℚ) / 1024 ^ 3)

/-- Python `int` of a number. -/
def truncate (q : ℚ) : ℤ :=
  if 0 ≤ q then ⌊q⌋ else ⌈q⌉

/-- Python `estimate_overhead`. -/
def estimateOverhead (weightsBytes : Option ℤ) (baseBytes : ℤ) (weightFraction : ℚ) :
    RuntimeOverheadEstimate :=
  let scaled (weights : ℤ) : ℤ := truncate (weightFraction * weights)
  { component :=
      { name := "Runtime overhead"
        bytes := some (max overheadMinBytes
          (match weightsBytes with
          | none => baseBytes
          | some weights => baseBytes + scaled weights))
        source := .assumed
        confidence := .low
        explanation :=
          match weightsBytes with
          | none => "Weight size unknown; using base overhead only (" ++ gibText baseBytes ++ " GiB)."
          | some weights =>
            if 0 < weightFraction then
              "Base " ++ gibText baseBytes ++ " GiB + " ++ formatFixed 0 (weightFraction * 100) ++
                "% of weights (" ++ gibText (scaled weights) ++ " GiB)."
            else
              "Base " ++ gibText baseBytes ++ " GiB, not scaled with the weights " ++
                "(llama.cpp compute buffers measured at 0.1-0.2 GiB)." }
    baseBytes := baseBytes
    weightFraction := weightFraction
    minimumBytes := overheadMinBytes }

/-- The overhead of a repository of a kind. -/
def overheadOf (gguf : Bool) (weightsBytes : Option ℤ) : RuntimeOverheadEstimate :=
  if gguf then estimateOverhead weightsBytes (256 * 1024 ^ 2) 0
  else estimateOverhead weightsBytes (512 * 1024 ^ 2) (1 / 10)

end Overhead

section Headroom

/-- Python `GGUF_DEVICE_HEADROOM_BYTES`. -/
def ggufDeviceHeadroomBytes : ℤ :=
  1024 * 1024 ^ 2

/-- Python `SAFETY_MARGIN_DEFAULT_PERCENT`. -/
def safetyMarginDefaultPercent : ℚ :=
  10

/-- The reserve that is planned for. -/
def reserveBytes (gguf : Bool) (config : InferenceConfiguration) : ℤ :=
  if gguf then max config.deviceReserveBytes ggufDeviceHeadroomBytes else config.deviceReserveBytes

/-- The margin that is planned for, in percent. -/
def marginPercent (gguf : Bool) (config : InferenceConfiguration) : ℚ :=
  if gguf ∧ config.safetyMarginPercent = safetyMarginDefaultPercent then 0 else config.safetyMarginPercent

/-- Python `_device_reserve_component`. -/
def deviceReserveComponent (reserveBytes : ℤ) : MemoryComponent where
  name := "Device reserve"
  bytes := some (if reserveBytes ≤ 0 then 0 else reserveBytes)
  source := .assumed
  confidence := .low
  explanation :=
    if reserveBytes ≤ 0 then "No device reserve configured (--device-reserve-gib 0)."
    else "Configured device reserve of " ++ gibText reserveBytes ++ " GiB."

/-- Python `_safety_margin_component`. -/
def safetyMarginComponent (subtotal : Option ℤ) (percent : ℚ) : Option MemoryComponent :=
  match subtotal with
  | none => none
  | some subtotal =>
    if percent ≤ 0 then none
    else
      some
        { name := "Safety margin"
          bytes := some ⌈(subtotal : ℚ) * (percent / 100)⌉
          source := .assumed
          confidence := .medium
          explanation := formatGeneral percent ++ "% of estimated subtotal." }

/-- Python `_sum_components`. -/
def sumComponents (values : List (Option ℤ)) : Option ℤ :=
  let known := values.filterMap id
  if known.isEmpty then none else some known.sum

/-- The values of Python `_CONFIDENCE_ORDER`. -/
def confidenceOrder : EstimationConfidence → ℕ
  | .high => 3
  | .medium => 2
  | .low => 1
  | .unknown => 0

/-- Python `_combined_confidence`. -/
def combinedConfidence (values : List EstimationConfidence) : EstimationConfidence :=
  (sortedBy confidenceOrder values).head?.getD .unknown

end Headroom

section Service

/-- What Python `safetensors_summary` raises. -/
inductive ClientError
  | unavailable
  | other (message : String)
  deriving DecidableEq, Repr

/-- Python `MemoryEstimate`. -/
structure EstimatedMemory extends MemoryEstimate where
  repositoryType : RepositoryType
  weights : WeightEstimate
  kvCache : KvCacheEstimate
  runtimeOverhead : RuntimeOverheadEstimate
  deviceReserve : MemoryComponent
  safetyMargin : Option MemoryComponent
  hardwareFit : Option HardwareFitResult
  deriving DecidableEq

/-- What an estimate asks of other parts. -/
structure EstimateServices where
  packedTransformersQuantizationLabel : Option ModelConfig → Option String
  safetensorsSummary : String → Except ClientError (Option SafetensorsSummary)
  /-- The merged configuration of Python `enrich`. -/
  enrich : ModelAnalysis → GgufVariant → Except String (Option EnrichedConfig)
  recommendRuntime : EstimatedMemory → RuntimeRecommendation

variable (services : EstimateServices)

/-- The summary that sizes the weights, if there is one. -/
def readSummary (repoId : String) (packed : Bool) : Except EstimationFailure (Option SafetensorsSummary) :=
  if packed then .ok none
  else match services.safetensorsSummary repoId with
  | .ok summary => .ok summary
  | .error .unavailable => .ok none
  | .error (.other message) => .error (.raised message)

/-- Python `_estimate_weights`. -/
def estimateWeights (repoId : String) (analysis : ModelAnalysis) (quantization : Option String)
    (precision : Option WeightPrecision) : Except EstimationFailure (WeightEstimate × Option VariantChoice) :=
  match analysis.classification.primaryType with
  | .gguf => do
    let choice ← selectVariant analysis.classification.ggufVariants quantization
    return (estimateWeightsFromGguf choice.variant, some choice)
  | .transformers => do
    let packed := (services.packedTransformersQuantizationLabel analysis.config).isSome
    match ← readSummary services repoId packed with
    | some summary => return (estimateWeightsFromSafetensors summary precision analysis.config, none)
    | none =>
      return (estimateWeightsFromFiles analysis (if packed then none else precision) analysis.config, none)
  | _ => .ok (estimateWeightsFromFiles analysis precision analysis.config, none)

/-- Python `_run_enrichment`, and Python `_pick_effective_config` of what it finds. -/
def effectiveConfig (analysis : ModelAnalysis) (choice : Option VariantChoice) :
    Except EstimationFailure (Option ModelConfig) :=
  match choice with
  | none => .ok analysis.config
  | some choice =>
    match services.enrich analysis choice.variant with
    | .ok (some enriched) => .ok (some enriched.config)
    | .ok none => .ok analysis.config
    | .error message => .error (.raised message)

/-- Python `estimate_memory`. -/
def estimateMemory (hardware : HardwareProfile) (repoId : String) (analysis : ModelAnalysis)
    (config : InferenceConfiguration) : Except EstimationFailure EstimatedMemory := do
  let (stored, choice) ← estimateWeights services repoId analysis config.quantization config.precision
  let effective ← effectiveConfig services analysis choice
  let weights ← (addTransformerBlockDecomposition stored effective).mapError .estimate
  let kvCache ← (estimateKvCache effective config.contextLength config.batchSize config.kvCacheDtype
    config.concurrentUsers).mapError .estimate
  let gguf : Bool := analysis.classification.primaryType = .gguf
  let overhead := overheadOf gguf weights.component.bytes
  let reserve := deviceReserveComponent (reserveBytes gguf config)
  let subtotal := sumComponents
    [weights.component.bytes, kvCache.component.bytes, overhead.component.bytes, reserve.bytes]
  let margin := safetyMarginComponent subtotal (marginPercent gguf config)
  let marginBytes := (margin.bind (·.bytes)).getD 0
  let total := sumComponents [subtotal, some marginBytes]
  let assessed ← (assessComponentsWithFit
    { weightsBytes := weights.component.bytes
      kvCacheBytes := kvCache.component.bytes
      overheadBytes := overhead.component.bytes
      deviceReserveBytes := reserve.bytes.getD 0
      safetyMarginBytes := marginBytes
      totalBytes := total }
    kvCache.layers hardware config.targetDevice weights.transformerBlockDecomposition).mapError .analyze
  let confidence := combinedConfidence
    [weights.component.confidence, kvCache.component.confidence, overhead.component.confidence,
      assessed.assessment.confidence]
  let preliminary : EstimatedMemory :=
    { inferenceConfiguration := config
      totalBytes := total
      assessment := { assessed.assessment with confidence := confidence }
      repositoryType := analysis.classification.primaryType
      weights := weights
      kvCache := kvCache
      runtimeOverhead := overhead
      deviceReserve := reserve
      safetyMargin := margin
      hardwareFit := assessed.fit }
  return { preliminary with runtimeRecommendation := some (services.recommendRuntime preliminary) }

end Service

end Jaull.Estimator
