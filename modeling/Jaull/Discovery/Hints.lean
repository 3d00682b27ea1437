import Mathlib.Algebra.Order.Floor.Ring
import Mathlib.Data.Rat.Floor
import Mathlib.Data.String.Basic
import Jaull.Domain.Candidates
import Jaull.Domain.Requirements
import Jaull.Domain.RuntimeSupport
import Jaull.Lib.Regex
import Jaull.Text.WordTables

/-!
# Hints before inspection

Port of the half of `jaull/discovery/candidate_filter.py` that reads a repository by its name and its tags:
parameter counts, families, quantizations, and the placement these suggest on a machine. Floats are the
rationals they stand for; the logarithms of the C library are a parameter.
-/

namespace Jaull.Discovery
open Jaull.Domain Jaull.Lib Jaull.Text

/-- A candidate with the fields that only discovery reads (Python `ModelCandidate`). -/
structure SearchCandidate extends ModelCandidate where
  likes : ℤ := 0
  sourceQueries : List String := []
  penalties : List String := []
  deriving DecidableEq, Repr

/-- Requirements with the formats that only discovery reads (Python `UserRequirements`). -/
structure SearchRequirements extends UserRequirements where
  preferredFormats : List String := []
  deriving DecidableEq, Repr

/-- Python `math.log1p` on integers, and `math.log(100)`. -/
structure Logarithms where
  log1p : ℤ → ℚ
  log100 : ℚ

/-- Python `TEXT_GENERATION_PIPELINE`. -/
def textGenerationPipeline : String :=
  "text-generation"

section Names

/-- The code points of a text. -/
def codePoints (text : String) : List ℕ :=
  text.toList.map Char.toNat

/-- A letter of the ASCII range. -/
def isAsciiLetterCode (n : ℕ) : Bool :=
  (65 ≤ n && n ≤ 90) || (97 ≤ n && n ≤ 122)

/-- A lower-case letter or a digit. -/
def isLowerDigitCode (n : ℕ) : Bool :=
  (97 ≤ n && n ≤ 122) || (48 ≤ n && n ≤ 57)

/-- `\s` of a pattern on code points. -/
def isSpaceCode (n : ℕ) : Bool :=
  isSpace (Char.ofNat n)

/-- `(?<!c)`. -/
def notAfter (p : ℕ → Bool) : Pattern :=
  fun place => if place.before.any p then [] else [place]

/-- `(?!c)`. -/
def notBefore (p : ℕ → Bool) : Pattern :=
  fun place => if place.rest.head?.any p then [] else [place]

/-- The value of a decimal digit of any script. -/
def digitValue (n : ℕ) : ℕ :=
  match digitRanges.find? fun range => range.1 ≤ n && n ≤ range.2 with
  | some range => (n - range.1) % 10
  | none => 0

/-- The number that decimal digits write. -/
def digitsValue (digits : List ℕ) : ℕ :=
  digits.foldl (fun value digit => 10 * value + digitValue digit) 0

/-- Python `float` of a match of `\d+(?:\.\d+)?`. -/
def decimalValue (text : List ℕ) : ℚ :=
  let whole := text.takeWhile (· ≠ 46)
  let fraction := (text.dropWhile (· ≠ 46)).drop 1
  digitsValue whole + (digitsValue fraction : ℚ) / 10 ^ fraction.length

/-- Python `_PARAM_COUNT_RE.findall`. -/
def parameterCounts (text : String) : List (List ℕ) :=
  let digits := Pattern.plus isDigitCode
  let number := digits.seq (.opt (.seq (.literal [46]) digits))
  let unit := Pattern.seq (.star isSpaceCode) (.one fun c => c = 98 || c = 66)
  let found := findPairs (notAfter fun c => isAsciiLetterCode c || 48 ≤ c && c ≤ 57 || c = 46) number unit
    (fun place => [place]) (notBefore isAsciiLetterCode) (text.length + 1) ⟨none, codePoints text⟩
  found.map Prod.fst

/-- Python `parameter_count_hint`, in billions. -/
def parameterCountHint (repoId : String) : Option ℚ :=
  -- The largest match wins: "Qwen3-Coder-30B-A3B" is a 30B model.
  ((parameterCounts repoId).map decimalValue).max?

example : parameterCountHint "Qwen/Qwen3-Coder-30B-A3B" = some 30 := by decide +kernel

/-- Python `_scale_bucket`. -/
def scaleBucket : Option ℚ → String
  | none => "unknown"
  | some billions =>
    if billions ≤ 1 then "tiny"
    else if billions ≤ 4 then "small"
    else if billions ≤ 14 then "medium"
    else if billions ≤ 32 then "large"
    else "huge"

/-- Python `_scale_order`. -/
def scaleOrder (billions : Option ℚ) : ℕ :=
  match scaleBucket billions with
  | "tiny" => 0
  | "small" => 1
  | "medium" => 2
  | "large" => 3
  | "huge" => 4
  | _ => 5

/-- Python `LARGER_THAN_SMALL_BILLIONS`. -/
def largerThanSmallBillions : ℚ :=
  4

/-- Python `_SMALL_MODEL_COVERAGE_SPLIT_BILLIONS`. -/
def smallModelCoverageSplitBillions : ℚ :=
  2

/-- Python `needs_small_model_coverage`. -/
def needsSmallModelCoverage (maxBillions : Option ℚ) : Bool :=
  maxBillions.any fun billions => 0 < billions && billions ≤ 14

/-- The pieces between the characters of a class, empty ones left out. -/
def splitAtAny (p : Char → Bool) : List Char → List Char → List (List Char)
  | [], piece => if piece = [] then [] else [piece]
  | c :: rest, piece =>
    if p c then (if piece = [] then [] else [piece]) ++ splitAtAny p rest []
    else splitAtAny p rest (piece ++ [c])

/-- `re.fullmatch(r"q[2-8](?:_k(?:_[ms])?|_0)?", token)`. -/
def isQuantizationToken (token : String) : Bool :=
  let level := Pattern.one fun c => 50 ≤ c && c ≤ 56
  let mixed := Pattern.seq (.literal (codePoints "_k"))
    (.opt (.seq (.literal (codePoints "_")) (.one fun c => c = 109 || c = 115)))
  Pattern.matchesWhole
    (.seq (.literal (codePoints "q")) (.seq level (.opt (.alt mixed (.literal (codePoints "_0"))))))
    (codePoints token)

/-- `_FAMILY_STOP_WORDS`. -/
def familyStopWords : List String :=
  ["instruct", "chat", "assistant", "gguf", "awq", "gptq", "safetensors", "model"]

/-- Python `_family_key`. -/
def familyKey (candidate : SearchCandidate) : String :=
  let modelName := lower (afterLast '/' candidate.repoId)
  -- `re.sub(r"[-_.]+", " ", model_name).split()`
  let tokens := (splitAtAny (fun c => isSpace c || c = '-' || c = '_' || c = '.') modelName.toList []).map
    String.ofList
  let named := tokens.filter fun token =>
    token ∉ familyStopWords && (parameterCountHint token).isNone && !isQuantizationToken token
  named.head?.getD (lower (beforeFirst '/' candidate.repoId))

end Names

section Formats

/-- Python `needle in haystack`. -/
def occursIn (needle haystack : String) : Bool :=
  haystack.toList.tails.any (needle.toList.isPrefixOf ·)

/-- Python `" ".join([repo_id, *tags]).lower()`. -/
def searchText (candidate : SearchCandidate) : String :=
  lower (String.intercalate " " (candidate.repoId :: candidate.tags))

/-- Python `_is_gguf_candidate`. -/
def isGgufCandidate (candidate : SearchCandidate) : Bool :=
  occursIn "gguf" (searchText candidate)

/-- The levels that `_QUANT_RE` finds in a text. -/
def quantizationLevels (text : String) : List (List ℕ) :=
  let mixed := Pattern.seq (.literal (codePoints "_k"))
    (.opt (.seq (.literal (codePoints "_")) (.one fun c => c = 109 || c = 115)))
  let found := findPairs ((notAfter isLowerDigitCode).seq (.literal (codePoints "q")))
    (.one fun c => 50 ≤ c && c ≤ 56) (.opt (.alt mixed (.literal (codePoints "_0"))))
    (fun place => [place]) (notBefore isLowerDigitCode) (text.length + 1) ⟨none, codePoints text⟩
  found.map Prod.fst

/-- Python `_quantization_hint`. -/
def quantizationHint (candidate : SearchCandidate) : String :=
  let gguf := isGgufCandidate candidate
  let haystack := if gguf then lower candidate.repoId else searchText candidate
  if occursIn "awq" haystack then "awq"
  else if occursIn "gptq" haystack then "gptq"
  else if occursIn "int8" haystack || occursIn "8-bit" haystack then "int8"
  else if occursIn "int4" haystack || occursIn "4-bit" haystack then "int4"
  else if occursIn "bfloat16" haystack || occursIn "bf16" haystack then "bfloat16"
  else if occursIn "float16" haystack || occursIn "fp16" haystack then "float16"
  else match quantizationLevels haystack with
    | level :: _ => "q" ++ String.ofList (level.map Char.ofNat)
    | [] => if gguf then "q4_k_m" else "float16"

/-- Python `_COARSE_BYTES_PER_PARAM.get(quantization, _COARSE_DEFAULT_BYTES_PER_PARAM)`. -/
def coarseBytesPerParam (quantization : String) : ℚ :=
  match quantization with
  | "q2" => 35 / 100
  | "q3" => 45 / 100
  | "q4" => 60 / 100
  | "q5" => 72 / 100
  | "q6" => 86 / 100
  | "q8" => 105 / 100
  | "int4" => 60 / 100
  | "awq" => 60 / 100
  | "gptq" => 60 / 100
  | "int8" => 105 / 100
  | "float16" => 2
  | "bfloat16" => 2
  | _ => 60 / 100

/-- Python `_bytes_per_parameter_hint`. -/
def bytesPerParameterHint (quantization : String) : ℚ :=
  match quantization.toList with
  | 'q' :: second :: _ => coarseBytesPerParam (String.ofList ['q', second])
  | _ => coarseBytesPerParam quantization

/-- Python `_CUDA_ONLY_QUANTIZATIONS`. -/
def cudaOnlyQuantizations : List String :=
  ["awq", "gptq"]

/-- Python `_has_text_execution_signal`. -/
def hasTextExecutionSignal (candidate : SearchCandidate) : Bool :=
  isGgufCandidate candidate || candidate.pipelineTag = some textGenerationPipeline

end Formats

section Bytes

/-- Python `_GIB`. -/
def gib : ℤ :=
  1024 ^ 3

/-- Python `DEVICE_RESERVE_DEFAULT_BYTES`. -/
def deviceReserveDefaultBytes : ℤ :=
  512 * 1024 ^ 2

/-- Python `_coarse_kv_cache_bytes`. -/
def coarseKvCacheBytes (billions : ℚ) (requirements : SearchRequirements) : ℤ :=
  let contextFactor := max 1 ((requirements.desiredContext : ℚ) / 4096)
  let userFactor := max 1 requirements.concurrentUsers
  ⌊max (15 / 100) (billions * (35 / 1000) * contextFactor * userFactor) * gib⌋

/-- Python `_coarse_overhead_bytes`. -/
def coarseOverheadBytes (weights : ℤ) : ℤ :=
  max (256 * 1024 ^ 2) ⌊((512 * 1024 ^ 2 : ℤ) : ℚ) + weights * (10 / 100)⌋

/-- Python `_with_safety_margin`. -/
def withSafetyMargin (bytesRequired : ℤ) : ℤ :=
  ⌈(bytesRequired : ℚ) * (1 + 10 / 100)⌉

/-- Python `_split_proportionally`. -/
def splitProportionally (total part whole : ℤ) : ℤ :=
  if whole ≤ 0 then 0 else min total (max 0 ⌊(total : ℚ) * (part / whole)⌋)

/-- The loop of `_max_gpu_weight_bytes`. -/
def searchGpuWeightBytes (fits : ℤ → Bool) : ℕ → ℤ → ℤ → ℤ
  | 0, low, _ => low
  | fuel + 1, low, high =>
    if low < high then
      let candidate := (low + high + 1) / 2
      if fits candidate then searchGpuWeightBytes fits fuel candidate high
      else searchGpuWeightBytes fits fuel low (candidate - 1)
    else low

/-- Python `_max_gpu_weight_bytes`. Every round halves the range. -/
def maxGpuWeightBytes (weights kvCache overhead vramTotal : ℤ) : ℤ :=
  let fits (candidate : ℤ) : Bool :=
    let gpuOverhead := splitProportionally overhead candidate weights
    withSafetyMargin (kvCache + deviceReserveDefaultBytes + candidate + gpuOverhead) ≤ vramTotal
  searchGpuWeightBytes fits (Nat.log2 weights.toNat + 2) 0 weights

/-- Python `_planning_vram_bytes`. -/
def planningVramBytes (hardware : HardwareProfile) : Option ℤ :=
  planningAcceleratorMemoryBytes hardware

/-- Python `_has_unified_memory`. -/
def hasUnifiedMemory (hardware : HardwareProfile) : Bool :=
  (planningVramBytes hardware).isNone && hardware.accelerators.any (·.sharedMemory)

/-- Python `_candidate_vram_bytes`. -/
def candidateVramBytes (candidate : SearchCandidate) (hardware : HardwareProfile) : Option ℤ :=
  let supported : List ComputeBackend :=
    if isGgufCandidate candidate then [.cuda, .hip, .vulkan]
    else if quantizationHint candidate ∈ cudaOnlyQuantizations then [.cuda]
    else quantizedTransformersBackends
  let owned := hardware.accelerators.filter fun accelerator =>
    accelerator.ownsMemory && accelerator.dedicatedMemoryBytes.any (0 < ·) &&
      accelerator.backends.any fun backend =>
        backend.backend ∈ supported && backend.availability = .available && !backend.softwareRenderer
  let capacities := owned.filterMap (·.dedicatedMemoryBytes)
  -- Legacy cards count only where no probe reports on an accelerator.
  let legacy :=
    if hardware.accelerators = [] ∧ ComputeBackend.cuda ∈ supported then hardware.gpus.map (·.vramTotalBytes)
    else []
  (capacities ++ legacy).max?

/-- What a model of a number of billions needs in one pool, in `largest_fitting_billions`. -/
def neededBytes (requirements : SearchRequirements) (billions : ℚ) : ℤ :=
  let weights := ⌊billions * 10 ^ 9 * bytesPerParameterHint "q4_k_m"⌋
  withSafetyMargin (coarseKvCacheBytes billions requirements + deviceReserveDefaultBytes + weights +
    coarseOverheadBytes weights)

/-- The loop of `largest_fitting_billions`. -/
def searchBillions (fits : ℚ → Bool) : ℕ → ℚ → ℚ → ℚ
  | 0, low, _ => low
  | rounds + 1, low, high =>
    let middle := (low + high) / 2
    if fits middle then searchBillions fits rounds middle high
    else searchBillions fits rounds low middle

/-- Python `largest_fitting_billions`. -/
def largestFittingBillions (hardware : HardwareProfile) (requirements : SearchRequirements) : Option ℚ :=
  let pool :=
    match planningVramBytes hardware with
    | some bytes => if bytes = 0 then hardware.memory.totalBytes else bytes
    | none => hardware.memory.totalBytes
  if pool = 0 then none
  else some (searchBillions (fun billions => neededBytes requirements billions ≤ pool) 40 0 1000)

end Bytes

section Placement

/-- Python `CoarsePlacementHint`. -/
structure CoarsePlacementHint where
  mode : Option HardwareFitMode
  placementMethod : HardwareFitPlacementMethod
  confidence : EstimationConfidence
  estimatedWeightBytes : Option ℤ := none
  estimatedTotalBytes : Option ℤ := none
  gpuRequiredBytes : Option ℤ := none
  ramRequiredBytes : Option ℤ := none
  gpuWeightBytes : ℤ := 0
  ramWeightBytes : ℤ := 0
  quantizationHint : Option String := none
  reason : String := ""
  deriving DecidableEq, Repr

/-- Python `_coarse_offload_hint`. -/
def coarseOffloadHint (weights kvCache overhead vramTotal ramTotal : ℤ) : Option CoarsePlacementHint :=
  let gpuFixed := kvCache + deviceReserveDefaultBytes
  if vramTotal ≤ withSafetyMargin gpuFixed then none
  else
    let gpuWeightBytes := maxGpuWeightBytes weights kvCache overhead vramTotal
    let ramWeightBytes := weights - gpuWeightBytes
    if ramWeightBytes ≤ 0 ∨ (gpuWeightBytes : ℚ) / weights < 10 / 100 then none
    else
      let gpuOverhead := splitProportionally overhead gpuWeightBytes weights
      let gpuRequired := withSafetyMargin (gpuFixed + gpuWeightBytes + gpuOverhead)
      let ramRequired := withSafetyMargin (ramWeightBytes + (overhead - gpuOverhead))
      if gpuRequired ≤ vramTotal ∧ ramRequired ≤ ramTotal then
        some
          { mode := some .gpuOffload
            placementMethod := .estimatedBytes
            confidence := .low
            estimatedWeightBytes := some weights
            estimatedTotalBytes := some (gpuRequired + ramRequired)
            gpuRequiredBytes := some gpuRequired
            ramRequiredBytes := some ramRequired
            gpuWeightBytes := gpuWeightBytes
            ramWeightBytes := ramWeightBytes
            reason := "Coarse byte placement fits GPU weights plus host spillover." }
      else none

/-- Python `coarse_placement_hint`. -/
def coarsePlacementHint (candidate : SearchCandidate) (requirements : SearchRequirements)
    (hardware : HardwareProfile) : CoarsePlacementHint :=
  match parameterCountHint candidate.repoId with
  | none =>
    { mode := none
      placementMethod := .none
      confidence := .unknown
      reason := "No parameter-count hint is available before inspection." }
  | some billions =>
    let quantization := quantizationHint candidate
    let weights := max 1 ⌊billions * 10 ^ 9 * bytesPerParameterHint quantization⌋
    let kvCache := coarseKvCacheBytes billions requirements
    let overhead := coarseOverheadBytes weights
    let ramTotal := hardware.memory.totalBytes
    let cpuTotal := withSafetyMargin (weights + kvCache + overhead)
    let inRam (reason : String) : CoarsePlacementHint :=
      { mode := some .cpuRam
        placementMethod := .estimatedBytes
        confidence := .low
        estimatedWeightBytes := some weights
        estimatedTotalBytes := some cpuTotal
        ramRequiredBytes := some cpuTotal
        ramWeightBytes := weights
        quantizationHint := some quantization
        reason := reason }
    let tooLarge (reason : String) : CoarsePlacementHint :=
      { inRam reason with
        mode := some .tooLarge
        placementMethod := .none }
    if quantization ∈ cudaOnlyQuantizations ∧ isGgufCandidate candidate = false ∧
        backendAvailable hardware .cuda = false then
      { tooLarge "AWQ/GPTQ loading requires an available CUDA backend." with
        ramRequiredBytes := none
        ramWeightBytes := 0 }
    else
      match if hasUnifiedMemory hardware then none else candidateVramBytes candidate hardware with
      | none =>
        if cpuTotal ≤ ramTotal then inRam "Coarse estimate fits system memory."
        else tooLarge "Coarse estimate exceeds system memory."
      | some vramTotal =>
        let residentGpuRequired := withSafetyMargin (weights + kvCache + overhead + deviceReserveDefaultBytes)
        if residentGpuRequired ≤ vramTotal then
          { mode := some .gpuResident
            placementMethod := .estimatedBytes
            confidence := .low
            estimatedWeightBytes := some weights
            estimatedTotalBytes := some residentGpuRequired
            gpuRequiredBytes := some residentGpuRequired
            gpuWeightBytes := weights
            quantizationHint := some quantization
            reason := "Coarse estimate fits fully in GPU memory." }
        else
          match coarseOffloadHint weights kvCache overhead vramTotal ramTotal with
          | some offload => { offload with quantizationHint := some quantization }
          | none =>
            if cpuTotal ≤ ramTotal then
              inRam "Coarse GPU placement is not viable, but CPU RAM is plausible."
            else
              { tooLarge "No coarse GPU or CPU placement fits the planning budget." with
                gpuRequiredBytes := some residentGpuRequired }

/-- Python `_mode_order`. -/
def modeOrder (mode : Option HardwareFitMode) (hardware : HardwareProfile) : ℕ :=
  if (planningVramBytes hardware).isNone || hasUnifiedMemory hardware then
    match mode with
    | some .cpuRam => 0
    | none => 1
    | some .gpuResident => 2
    | some .gpuOffload => 3
    | some .tooLarge => 4
  else
    match mode with
    | some .gpuResident => 0
    | some .gpuOffload => 1
    | some .cpuRam => 2
    | none => 3
    | some .tooLarge => 4

/-- The values of Python `_FIT_BONUS`. -/
def fitBonus : Option HardwareFitMode → ℚ
  | some .gpuResident => 4
  | some .gpuOffload => 3
  | some .cpuRam => 3 / 2
  | none => 0
  | some .tooLarge => -9

end Placement

section Desirability
variable (logs : Logarithms)

/-- Python `_cheap_desirability_components`. -/
def cheapDesirabilityComponents (candidate : SearchCandidate) (preferredFormats : List String) :
    List (String × ℚ) :=
  let tags := candidate.tags.map lower
  [("downloads", logs.log1p (max 0 candidate.downloads)),
    ("likes", 1 / 2 * logs.log1p (max 0 candidate.likes)),
    ("preferred_format", if preferredFormats.head?.any (· ∈ tags) then 2 else 0),
    ("query_coverage", 3 / 4 * ((candidate.sourceQueries.length : ℚ) - 1)),
    ("penalties", -1 / 2 * (candidate.penalties.length : ℚ))]

/-- Python `_cheap_desirability`. -/
def cheapDesirability (candidate : SearchCandidate) (preferredFormats : List String) : ℚ :=
  ((cheapDesirabilityComponents logs candidate preferredFormats).map Prod.snd).sum

end Desirability

end Jaull.Discovery
