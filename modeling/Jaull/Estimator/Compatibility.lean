import Jaull.Estimator.HardwareFit
import Jaull.Text.Numbers

/-!
# Compatibility assessment

Port of `jaull/estimator/compatibility.py`: one status and one ratio for a memory requirement, either
from the raw total against one device (`assess`) or from the placement of `analyzeComponents`
(`assessmentFromFit`). Ratios are exact rationals and the thresholds of `estimator/policies.py` are
their decimal values.
-/

namespace Jaull.Estimator
open Jaull.Domain Jaull.Text

/-- Largest comfortable ratio (Python `COMFORTABLE_MAX`). -/
def comfortableMax : ℚ := 3 / 4

/-- Largest compatible ratio (Python `COMPATIBLE_MAX`). -/
def compatibleMax : ℚ := 9 / 10

/-- Largest tight ratio (Python `TIGHT_MAX`). -/
def tightMax : ℚ := 1

/-- Status of a used fraction of a device (Python `_status_from_ratio`). -/
def statusFromRatio (ratio : ℚ) : CompatibilityStatus :=
  if ratio ≤ comfortableMax then .comfortable
  else if ratio ≤ compatibleMax then .compatible
  else if ratio ≤ tightMax then .tight
  else .insufficient

/-- `device.value.upper()` in the texts. -/
def deviceLabel : TargetDevice → String
  | .auto => "AUTO"
  | .cpu => "CPU"
  | .gpu => "GPU"

/-- A requirement against one device (Python `_assess_single`). -/
def assessSingle (device : TargetDevice) (capacity : Option ℤ) (need : ℤ) (missingReason : String)
    (reasonPrefix : Option String) : CompatibilityAssessment :=
  let unknown : CompatibilityAssessment :=
    { status := .unknown
      confidence := .unknown
      targetDevice := device
      effectiveDevice := device
      reasons := [missingReason] }
  match capacity with
  | none => unknown
  | some capacity =>
    if capacity ≤ 0 then unknown
    else
      let ratio : ℚ := need / capacity
      { status := statusFromRatio ratio
        confidence := .high
        targetDevice := device
        effectiveDevice := device
        availableVramBytes := if device = .gpu then some capacity else none
        availableRamBytes := if device = .cpu then some capacity else none
        ratio := some ratio
        reasons := reasonPrefix.toList ++
          ["Uses " ++ formatFixed 1 (ratio * 100) ++ "% of the available " ++
            deviceLabel device ++ "."] }

/-- A raw total against the detected resources (Python `assess`). -/
def assess (totalBytes : Option ℤ) (hardware : HardwareProfile) (deviceTarget : TargetDevice) :
    CompatibilityAssessment :=
  let vram := availableAcceleratorMemoryBytes hardware
  let ram := hardware.memory.availableBytes
  match totalBytes with
  | none =>
    { status := .unknown
      confidence := .unknown
      targetDevice := deviceTarget
      effectiveDevice := deviceTarget
      availableVramBytes := vram
      availableRamBytes := some ram
      reasons := ["Total memory could not be estimated."] }
  | some totalBytes =>
    match deviceTarget, vram with
    | .cpu, _ => assessSingle .cpu (some ram) totalBytes "No RAM information available." none
    | .gpu, none =>
      { status := .insufficient
        confidence := .high
        targetDevice := .gpu
        effectiveDevice := .gpu
        availableRamBytes := some ram
        reasons := ["GPU requested but no GPU memory availability was detected."] }
    | .gpu, some vram =>
      assessSingle .gpu (some vram) totalBytes "No VRAM information available." none
    | .auto, vram =>
      if vram.any (totalBytes ≤ ·) then
        assessSingle .gpu vram totalBytes "No VRAM information available." (some "Fits in VRAM")
      else if vram.any (fun vram => totalBytes ≤ vram + ram) then
        { status := .offloadingRequired
          confidence := .low
          targetDevice := .auto
          effectiveDevice := .gpu
          availableVramBytes := vram
          availableRamBytes := some ram
          ratio := vram.map fun vram => (totalBytes : ℚ) / (vram + ram : ℤ)
          reasons := [
            "Model does not fit entirely in available VRAM.",
            "Combined RAM+VRAM would cover it, but per-layer offloading is not modelled."]
          warnings := ["CPU/GPU offloading depends on the runtime and is approximate."] }
      else if totalBytes ≤ ram then
        assessSingle .cpu (some ram) totalBytes "No RAM information available."
          (some (if vram.isSome then "No GPU capacity for this model" else "No GPU detected"))
      else
        { status := .insufficient
          confidence := .high
          targetDevice := .auto
          effectiveDevice := .cpu
          availableVramBytes := vram
          availableRamBytes := some ram
          ratio := some ((totalBytes : ℚ) / (if ram = 0 then 1 else ram : ℤ))
          reasons := ["Estimated memory exceeds combined available RAM and VRAM."] }

/-- Need over capacity, full when the capacity is unusable (Python `_ratio`). -/
def fitRatio (need : ℤ) : Option ℤ → ℚ
  | none => 1
  | some capacity => if capacity ≤ 0 then 1 else need / capacity

/-- The largest known ratio (Python `_max_known_ratio`). -/
def maxKnownRatio (pairs : List (Option ℤ × Option ℤ)) : Option ℚ :=
  (pairs.filterMap fun (need, capacity) => need.map (fitRatio · capacity)).max?

/-- The summary of a placement (Python `_assessment_from_fit`). -/
def assessmentFromFit (fit : HardwareFitResult) (targetDevice : TargetDevice) :
    Except AnalyzeError CompatibilityAssessment :=
  let vram := fit.availableVramBytes
  let ram := fit.availableRamBytes
  match fit.mode with
  | .gpuResident =>
    match fit.gpuRequiredBytes with
    | none => .error .assertionError
    | some need =>
      let ratio := fitRatio need vram
      .ok {
        status := statusFromRatio ratio
        confidence := .high
        targetDevice := targetDevice
        effectiveDevice := .gpu
        availableVramBytes := vram
        availableRamBytes := ram
        ratio := some ratio
        reasons := [fit.reason]
        warnings := fit.warnings }
  | .gpuOffload =>
    let ramBudget := match fit.nonBlockPlacementBounds with
      | some bounds => some bounds.ramRequiredMaxBytes
      | none => fit.ramRequiredBytes
    .ok {
      status := .offloadingRequired
      confidence := if fit.placementMethod = .transformerBlocks then .medium else .low
      targetDevice := targetDevice
      effectiveDevice := .gpu
      availableVramBytes := vram
      availableRamBytes := ram
      ratio := maxKnownRatio [(fit.gpuRequiredBytes, vram), (ramBudget, ram)]
      reasons := [fit.reason]
      warnings := fit.warnings }
  | .cpuRam =>
    match fit.ramRequiredBytes with
    | none => .error .assertionError
    | some need =>
      let ratio := fitRatio need ram
      .ok {
        status := statusFromRatio ratio
        confidence := .high
        targetDevice := targetDevice
        effectiveDevice := .cpu
        availableVramBytes := vram
        availableRamBytes := ram
        ratio := some ratio
        reasons := [fit.reason]
        warnings := fit.warnings }
  | .tooLarge =>
    .ok {
      status := .insufficient
      confidence := .high
      targetDevice := targetDevice
      effectiveDevice := .cpu
      availableVramBytes := vram
      availableRamBytes := ram
      ratio := none
      reasons := [fit.reason]
      warnings := fit.warnings }

/-- Both outputs of one assessment (Python `ComponentAssessment`). -/
structure ComponentAssessment where
  assessment : CompatibilityAssessment
  fit : Option HardwareFitResult
  deriving DecidableEq, Repr

/-- Memory components of which some may be unknown (keyword arguments of
`assess_components_with_fit`). -/
structure KnownComponents where
  weightsBytes : Option ℤ
  kvCacheBytes : Option ℤ
  overheadBytes : Option ℤ
  deviceReserveBytes : ℤ
  safetyMarginBytes : ℤ
  totalBytes : Option ℤ
  deriving DecidableEq, Repr

/-- Assess placement, keeping the fit (Python `assess_components_with_fit`). -/
def assessComponentsWithFit (known : KnownComponents) (totalTransformerBlocks : Option ℤ)
    (hardware : HardwareProfile) (deviceTarget : TargetDevice)
    (weightDecomposition : Option TransformerBlockWeightDecomposition) :
    Except AnalyzeError ComponentAssessment :=
  match known.weightsBytes, known.kvCacheBytes, known.overheadBytes with
  | some weightsBytes, some kvCacheBytes, some overheadBytes =>
    if deviceTarget ≠ .auto then
      .ok { assessment := assess known.totalBytes hardware deviceTarget, fit := none }
    else
      match analyzeComponents
          { weightsBytes := weightsBytes
            kvCacheBytes := kvCacheBytes
            overheadBytes := overheadBytes
            deviceReserveBytes := known.deviceReserveBytes
            safetyMarginBytes := known.safetyMarginBytes }
          hardware totalTransformerBlocks none weightDecomposition with
      | .error e => .error e
      | .ok fit =>
        match assessmentFromFit fit deviceTarget with
        | .error e => .error e
        | .ok assessment => .ok { assessment := assessment, fit := some fit }
  | weightsBytes, kvCacheBytes, overheadBytes =>
    let missing := ([("weights", weightsBytes), ("KV cache", kvCacheBytes),
      ("runtime overhead", overheadBytes)].filter (·.2.isNone)).map (·.1)
    .ok {
      assessment := { assess none hardware deviceTarget with
        reasons := ["Cannot confirm compatibility: missing " ++ ", ".intercalate missing ++ "."] }
      fit := none }

end Jaull.Estimator
