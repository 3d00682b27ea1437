import Jaull.Domain.GgufVariants
import Jaull.Lib.Dict
import Jaull.Lib.ForDown
import Jaull.Recommendation.Generation

/-!
# Picking a configuration

Port of `jaull/estimator/configuration.py`. The rungs of a priority are tried in order against an estimate
function; the loop is a `forEach` over `ladderPass`. What is assembled from a rung is a
`ConfigurationChoice`, the texts of its reason and warnings included.
-/

namespace Jaull.Estimator
open Jaull.Domain Jaull.Lib Jaull.Recommendation Jaull.Text

/-- Python `_ACCEPTABLE`. -/
def acceptable : CompatibilityStatus → Bool
  | .comfortable | .compatible | .tight => true
  | .offloadingRequired | .insufficient | .unknown => false

/-- Python `EstimateFn`. -/
abbrev EstimateFn := ModelAnalysis → InferenceConfiguration → MemoryEstimate

/-- The configuration settled on, and what was tried to get there (Python `ConfigurationChoice`). -/
structure ConfigurationChoice where
  configuration : Option InferenceConfiguration
  estimate : Option MemoryEstimate
  reason : String
  considered : List String := []
  warnings : List String := []
  deriving DecidableEq

/-- A configuration tried, its status in front. -/
abbrev LadderOption := CompatibilityStatus × InferenceConfiguration × MemoryEstimate

/-- Python `_build_config`. -/
def buildConfig (requirements : UserRequirements) (quantization : Option String)
    (precision : Option WeightPrecision) : InferenceConfiguration where
  contextLength := requirements.desiredContext
  batchSize := 1
  targetDevice := .auto
  precision := precision
  quantization := quantization
  safetyMarginPercent := 10
  deviceReserveBytes := 512 * 1024 * 1024
  concurrentUsers := requirements.concurrentUsers

/-- The first option of the most actionable status (Python `_fallback_option`). -/
def fallbackOption (options : List LadderOption) : Option LadderOption :=
  ((options.find? (·.1 = .offloadingRequired)).or
    ((options.find? (·.1 = .unknown)).or (options.find? (·.1 = .insufficient)))).or options.head?

/-- Python `_exhausted_ladder_message`. -/
def exhaustedLadderMessage (seen : List CompatibilityStatus) (chosen : Option CompatibilityStatus)
    (unit aggressive : String) : String :=
  let others := seen.filter (some · ≠ chosen)
  let suffix :=
    if .offloadingRequired ∈ others then
      " Other options on the ladder are estimated to fit with CPU/GPU offloading."
    else if .unknown ∈ others then " Other options could not be confirmed either way."
    else ""
  match chosen with
  | some .offloadingRequired =>
    "No " ++ unit ++ " fits in VRAM alone. The reported option is estimated to " ++
      "fit with CPU/GPU offloading, which is significantly slower; that is " ++
      "a placement estimate, not a verified run."
  | some .unknown =>
    "No " ++ unit ++ " could be confirmed to fit: the memory model could not " ++
      "produce an estimate for the reported option. This is an unconfirmed " ++
      "result, not a demonstration that it does not fit."
  | none => "No " ++ unit ++ " was evaluated for the detected memory." ++ suffix
  | some _ =>
    if seen.all (· = .insufficient) then "No " ++ unit ++ " fits the detected memory" ++ aggressive ++ "."
    else "The reported configuration is estimated not to fit the detected memory." ++ suffix

/-- The choice reported when no rung fits: the closest option. -/
def exhaustedChoice (message reason : String) (options : List LadderOption)
    (considered warnings : List String) : ConfigurationChoice where
  configuration := (fallbackOption options).map (·.2.1)
  estimate := (fallbackOption options).map (·.2.2)
  reason := reason
  considered := considered
  warnings := warnings ++ [message]

/-- The warning of Python `_gguf_choice`. -/
def aggressiveWarning (quantization : String) : String :=
  quantization ++ " is an aggressive quantization; it was chosen " ++
    "because nothing larger fits, and quality loss may be noticeable."

/-- Python `_gguf_choice`. -/
def ggufChoice (rung : String) (config : InferenceConfiguration) (estimate : MemoryEstimate)
    (priority : RecommendationPriority) (considered warnings : List String) : ConfigurationChoice :=
  let quantization := config.quantization.getD "None"
  { configuration := some config
    estimate := some estimate
    reason := quantization ++ " is the first variant on the " ++ priority.value ++
      " ladder that fits the detected memory."
    considered := considered
    warnings := warnings ++
      if rung ∈ aggressiveQuantizations then [aggressiveWarning quantization] else [] }

/-- What the loop over the rungs remembers. -/
structure LadderState where
  considered : List String := []
  seen : List CompatibilityStatus := []
  fallbackOptions : List LadderOption := []
  tightFallback : Option (String × InferenceConfiguration × MemoryEstimate) := none

/-- Nothing but the CPU is available (Python `available_compute_backends(hardware) == {CPU}`). -/
def cpuAlone (hardware : HardwareProfile) : Bool :=
  [ComputeBackend.cuda, .vulkan, .hip].all (!backendAvailable hardware ·)

section Gguf
variable (analysis : ModelAnalysis) (requirements : UserRequirements) (estimateFn : EstimateFn)
  (hardware : Option HardwareProfile)

/-- The quantizations published, by their upper-case names (the `available` of Python
`_select_gguf`). -/
def availableQuantizations : List (String × String) :=
  dictComprehension (fun variant => upper variant.quantization) (·.quantization)
    (preferredGgufVariants analysis.classification.ggufVariants) []

/-- Ladder rungs first, then whatever else is published, the least aggressive first (the `ordered` of
Python `_select_gguf`). -/
def orderedRungs (available : List String) (ladder : List String) : List String :=
  ladder.filter (· ∈ available) ++
    sortedBy (fun rung => toLex (decide (rung ∈ aggressiveQuantizations), rung))
      (available.filter (· ∉ ladder))

/-- The configuration tried for a quantization. -/
def ggufConfig (quantization : String) : InferenceConfiguration :=
  let config := buildConfig requirements (some quantization) none
  if hardware.any cpuAlone then { config with targetDevice := .cpu } else config

/-- The body of the loop of Python `_select_gguf`. -/
def ladderPass (available : List (String × String)) (rung : String) (state : LadderState) :
    Pass LadderState ConfigurationChoice :=
  let quantization := (available.lookup rung).getD rung
  let config := ggufConfig requirements hardware quantization
  let estimate := estimateFn analysis config
  let status := estimate.assessment.status
  let state :=
    { state with
      considered := state.considered ++ [quantization ++ ": " ++ status.value]
      seen := state.seen ++ [status]
      fallbackOptions := state.fallbackOptions ++ [(status, config, estimate)] }
  if acceptable status then
    if status = .tight ∧ requirements.priority = .balanced ∧ rung ∉ aggressiveQuantizations then
      .next { state with tightFallback := state.tightFallback.or (some (rung, config, estimate)) }
    else if state.tightFallback.isSome ∧ status = .tight then .next state
    else .done (ggufChoice rung config estimate requirements.priority state.considered [])
  else .next state

/-- What Python `_select_gguf` reports after its loop. -/
def afterLadder (available : List (String × String)) (state : LadderState) : ConfigurationChoice :=
  match state.tightFallback with
  | some (rung, config, estimate) =>
    ggufChoice rung config estimate requirements.priority state.considered
      [(available.lookup rung).getD rung ++
        " is a tight fit; no reasonable smaller variant fits with more headroom."]
  | none =>
    let message := exhaustedLadderMessage state.seen
      ((fallbackOption state.fallbackOptions).map (·.1)) "GGUF variant"
      ", even the most aggressive variant"
    exhaustedChoice message (message ++ " Reporting the closest option.") state.fallbackOptions
      state.considered []

/-- Python `_select_gguf`. -/
def selectGguf : ConfigurationChoice :=
  let available := availableQuantizations analysis
  if available.isEmpty then
    { configuration := none
      estimate := none
      reason := "No unambiguous complete GGUF representation could be selected."
      warnings := ["GGUF representations are missing, incomplete or ambiguous."] }
  else
    match forEach (ladderPass analysis requirements estimateFn hardware available)
        (orderedRungs (available.map (·.1)) (quantizationLadder requirements.priority)) {} with
    | .done choice => choice
    | .next state => afterLadder requirements available state

end Gguf

section Transformers
variable (collaborators : Collaborators) (analysis : ModelAnalysis) (requirements : UserRequirements)
  (estimateFn : EstimateFn) (hardware : Option HardwareProfile)

/-- Python `QUANTIZED_CPU_LIMITATION`. -/
def quantizedCpuLimitation : String :=
  "This quantized Transformers configuration is not supported on CPU by " ++
    "Jaull's current loader; it requires an available CUDA/HIP backend."

/-- What the loop over the precisions remembers. -/
structure PrecisionState where
  considered : List String := []
  warnings : List String := []
  seen : List CompatibilityStatus := []
  fallbackOptions : List LadderOption := []

/-- The machine is known and runs no quantized Transformers weights. -/
def quantizedUnsupported : Bool :=
  hardware.any (!quantizedTransformersSupported ·)

/-- The body of the loop of Python `_select_transformers`. -/
def precisionPass (packed : Bool) (precision : WeightPrecision) (state : PrecisionState) :
    Pass PrecisionState ConfigurationChoice :=
  let theoretical := precision = .int8 ∨ precision = .int4
  if theoretical ∧ quantizedUnsupported hardware then
    .next
      { state with
        considered := state.considered ++ [precision.value ++ ": unsupported configuration"]
        warnings :=
          if quantizedCpuLimitation ∈ state.warnings then state.warnings
          else state.warnings ++ [quantizedCpuLimitation] }
  else
    let config := buildConfig requirements none (some precision)
    let config :=
      if quantizedUnsupported hardware then { config with targetDevice := .cpu } else config
    let estimate := estimateFn analysis config
    let status := estimate.assessment.status
    let state :=
      { state with
        considered := state.considered ++ [precision.value ++ ": " ++ status.value]
        seen := state.seen ++ [status]
        fallbackOptions := state.fallbackOptions ++ [(status, config, estimate)] }
    if packed ∧ quantizedUnsupported hardware then
      .done
        { configuration := some config
          estimate := some estimate
          reason := quantizedCpuLimitation
          considered := state.considered
          warnings := [quantizedCpuLimitation] }
    else if acceptable status then
      .done
        { configuration := some config
          estimate := some (if theoretical then lowerTheoreticalConfidence estimate else estimate)
          reason := precision.value ++ " is the highest precision that fits the detected memory."
          considered := state.considered
          warnings := state.warnings ++
            if theoretical then
              [precision.value ++ " is a theoretical estimate: this repository " ++
                "ships no confirmed quantized artifact, so loading it at that " ++
                "precision requires a runtime that quantizes on the fly."]
            else [] }
    else .next state

/-- Python `_select_transformers`. -/
def selectTransformers : ConfigurationChoice :=
  let packed := (collaborators.packedTransformersQuantizationLabel analysis.config).isSome
  match forEach (precisionPass analysis requirements estimateFn hardware packed)
      (transformersPrecisionOptions collaborators analysis) {} with
  | .done choice => choice
  | .next state =>
    let message := exhaustedLadderMessage state.seen
      ((fallbackOption state.fallbackOptions).map (·.1))
      (if quantizedUnsupported hardware then "technically supported precision" else "precision")
      (if quantizedUnsupported hardware then "" else ", including int4")
    exhaustedChoice message message state.fallbackOptions state.considered state.warnings

/-- Python `select_configuration`. -/
def selectConfiguration : ConfigurationChoice :=
  if analysis.classification.primaryType = .gguf then
    selectGguf analysis requirements estimateFn hardware
  else selectTransformers collaborators analysis requirements estimateFn hardware

end Transformers

end Jaull.Estimator
