import Jaull.Benchmarks.LlamaBench
import Jaull.Lib.Loops

/-!
# Benchmark matrices

Port of `jaull/benchmarks/matrix.py`: the requests of a matrix, and the loop that runs them one after another. A
request is refused, runs without a record being kept, or runs and is recorded; a backend other than the processor is
run only on a device that llama-bench has just listed itself.
-/

namespace Jaull.Benchmarks
open Jaull.Domain Jaull.Lib Jaull.Runtime Jaull.Text

section IntText

/-- White space for Python `int`, which knows no separators. -/
def isIntSpace (c : Char) : Bool :=
  isSpace c && !(28 ≤ c.toNat && c.toNat ≤ 31)

/-- Digits in groups, as Python `int` reads them. -/
def groupedDigits (text : List Char) : Option ℕ :=
  let groups := text.splitOn '_'
  if groups.all fun group => group ≠ [] && group.all isDigitChar then (parseInt groups.flatten).toOption else none

/-- Python `int` of a text; `none` is its `ValueError`. -/
def intOfText (text : String) : Option ℤ :=
  match trim isIntSpace text.toList with
  | [] => none
  | c :: rest =>
    if c = '-' then (groupedDigits rest).map fun n => -(n : ℤ)
    else (groupedDigits (if c = '+' then rest else c :: rest)).map fun n => (n : ℤ)

example : intOfText " -1_000\n" = some (-1000) := by decide +kernel

/-- Python `str` of a number that is not negative. -/
def textOfInt (n : ℕ) : Except TooManyDigits String :=
  if maxIntDigits < (Nat.toDigits 10 n).length then .error ⟨(Nat.toDigits 10 n).length⟩ else .ok (toString n)

end IntText

section Flags

/-- The flag for layers on the accelerator. -/
def gpuLayersFlag : String :=
  "--n-gpu-layers"

/-- Python `_runtime_gpu_layers`. -/
def runtimeGpuLayers (runtime : LaunchRecommendation) : BenchmarkGpuLayers :=
  match runtime.flags.find? (·.name = gpuLayersFlag) with
  | none => .count 0
  | some flag =>
    match intOfText flag.value with
    | none => if ["all", "full", "full_offload"].contains (casefold flag.value) then .fullOffload else .count 0
    | some value => if value < 0 then .fullOffload else .count value.toNat

/-- What the flag is set to. -/
def layersText : BenchmarkGpuLayers → Except TooManyDigits String
  | .fullOffload => .ok "all"
  | .count layers => textOfInt layers

/-- The flag of a benchmark. -/
def benchmarkFlag (value : String) : LaunchFlag where
  name := gpuLayersFlag
  value := value
  source := .userInput
  explanation := "benchmark configuration"

/-- Python `_runtime_with_gpu_layers`. -/
def runtimeWithGpuLayers (runtime : LaunchRecommendation) (gpuLayers : BenchmarkGpuLayers) :
    Except TooManyDigits LaunchRecommendation :=
  (layersText gpuLayers).map fun value =>
    { runtime with flags := runtime.flags.filter (·.name ≠ gpuLayersFlag) ++ [benchmarkFlag value] }

end Flags

section Requests

/-- Python `BenchmarkMatrixRequest`, with its validators. -/
structure BenchmarkMatrixRequest where
  artifact : LocalArtifact
  runtime : LaunchRecommendation
  backendSelection : RuntimeBackendSelection
  runtimeCapability : LlamaCppRuntimeCapability
  contextLength : Option ℤ := none
  prefillSizes : List ℤ := [128, 512, 2048]
  generationSizes : List ℤ := [128]
  repetitions : ℤ := 5
  timeoutSeconds : ℚ := 900
  includeCpu : Bool := true
  includeSelectedBackend : Bool := true
  selectedGpuLayers : List BenchmarkGpuLayers := []
  persist : Bool := true
  notes : List String := []
  context_pos : ∀ length ∈ contextLength, 0 < length
  repetitions_pos : 1 ≤ repetitions
  timeout_pos : 0 < timeoutSeconds

/-- Python `BenchmarkMatrixSkip`. -/
structure BenchmarkMatrixSkip where
  backend : ComputeBackend
  device : Option String := none
  gpuLayers : Option BenchmarkGpuLayers := none
  reason : String
  deriving DecidableEq, Repr

/-- What a matrix raises. -/
inductive MatrixRaise
  | benchmark (error : BenchmarkError)
  | python (error : PyError)
  | digits (error : TooManyDigits)
  /-- A request does not validate: its fields, with what is wrong with them. -/
  | validation (errors : List (String × String))
  deriving DecidableEq, Repr

/-- Python `_sizes_positive` of a field: what is wrong with it. -/
def sizesPositive (field : String) (sizes : List ℤ) : List (String × String) :=
  if sizes = [] then [(field, "benchmark token size list must not be empty")]
  else if sizes.any (· ≤ 0) then [(field, "benchmark token sizes must be positive")]
  else []

/-- Sizes pass when there are some and all are positive. -/
lemma sizesPositive_eq_nil {field : String} {sizes : List ℤ} :
    sizesPositive field sizes = [] ↔ sizes ≠ [] ∧ ∀ size ∈ sizes, 0 < size := by
  rw [sizesPositive]
  by_cases empty : sizes = []
  · rw [if_pos empty]
    constructor
    · intro none
      cases none
    · intro holds
      exact absurd empty holds.1
  · rw [if_neg empty]
    have low : sizes.any (· ≤ 0) = false ↔ ∀ size ∈ sizes, 0 < size := by
      rw [List.any_eq_false]
      constructor
      · intro none size mem
        exact not_le.mp fun small => none size mem (decide_eq_true small)
      · intro all size mem small
        exact absurd (of_decide_eq_true small) (not_le.mpr (all size mem))
    rw [← low]
    cases sizes.any (· ≤ 0) with
    | true =>
      constructor
      · intro none
        cases none
      · intro holds
        cases holds.2
    | false => exact ⟨fun _ => ⟨empty, rfl⟩, fun _ => rfl⟩

/-- What is wrong with the sizes of a matrix. -/
def BenchmarkMatrixRequest.sizeErrors (matrix : BenchmarkMatrixRequest) : List (String × String) :=
  sizesPositive "prefill_sizes" matrix.prefillSizes ++ sizesPositive "generation_sizes" matrix.generationSizes

/-- A place that a request may name: the processor without layers on an accelerator, or a device of another backend. -/
structure Placed where
  backend : ComputeBackend
  device : String
  gpuLayers : BenchmarkGpuLayers
  cpu : backend = .cpu → device = "none" ∧ gpuLayers = .count 0

/-- Python `_request`. -/
def matrixRequest (matrix : BenchmarkMatrixRequest) (placed : Placed) : Except MatrixRaise BenchmarkRequest := do
  let runtime ← (runtimeWithGpuLayers matrix.runtime placed.gpuLayers).mapError MatrixRaise.digits
  if valid : matrix.sizeErrors = [] then
    have sizes := List.append_eq_nil_iff.mp valid
    return {
      artifact := matrix.artifact
      runtime := runtime
      backend := placed.backend
      device := some placed.device
      gpuLayers := placed.gpuLayers
      contextLength := matrix.contextLength
      prefillSizes := matrix.prefillSizes
      generationSizes := matrix.generationSizes
      repetitions := matrix.repetitions
      timeoutSeconds := matrix.timeoutSeconds
      notes := matrix.notes
      context_pos := matrix.context_pos
      prefill_some := (sizesPositive_eq_nil.mp sizes.1).1
      prefill_pos := (sizesPositive_eq_nil.mp sizes.1).2
      generation_some := (sizesPositive_eq_nil.mp sizes.2).1
      generation_pos := (sizesPositive_eq_nil.mp sizes.2).2
      repetitions_pos := matrix.repetitions_pos
      timeout_pos := matrix.timeout_pos
      cpu := fun own => ⟨.inr (congrArg some (placed.cpu own).1), (placed.cpu own).2⟩ }
  else .error (.validation matrix.sizeErrors)

/-- The stored value of a reason, with blanks for its low lines. -/
def reasonText : RuntimeDeviceMatchReason → String
  | .matchedByName => "matched by name"
  | .onlyHardwareDevice => "only hardware device"
  | .noHardwareDevice => "no hardware device"
  | .nameMismatch => "name mismatch"
  | .ambiguous => "ambiguous"

/-- The device that the selected backend is run on, or why it is skipped. -/
def selectedDevice (matrix : BenchmarkMatrixRequest) : Except BenchmarkMatrixSkip LlamaCppRuntimeDevice :=
  let selected := matrix.backendSelection.selectedBackend
  match matrix.runtimeCapability.backendCapabilities.find? (·.backend = selected) with
  | none => .error { backend := selected, reason := selected.value ++ " is not exposed by llama.cpp runtime." }
  | some capability =>
    if capability.state ≠ .confirmed then
      .error { backend := selected, reason := selected.value ++ " is not exposed by llama.cpp runtime." }
    else if capability.devices = [] then
      .error { backend := selected, reason := selected.value ++ " has no runtime device id." }
    else
      match (matchRuntimeDevice matrix.backendSelection capability.devices).device with
      | some device => .ok device
      | none =>
        .error
          { backend := selected
            reason := selected.value ++ " runtime device could not be identified (" ++
              reasonText (matchRuntimeDevice matrix.backendSelection capability.devices).reason ++ ")." }

/-- The offloads to run the selected backend with. -/
def selectedLayers (matrix : BenchmarkMatrixRequest) : List BenchmarkGpuLayers :=
  if matrix.selectedGpuLayers = [] then [runtimeGpuLayers matrix.runtime] else matrix.selectedGpuLayers

/-- The place on the processor. -/
def onCpu : Placed where
  backend := .cpu
  device := "none"
  gpuLayers := .count 0
  cpu _ := ⟨rfl, rfl⟩

/-- Where a matrix runs, and what it skips. -/
def matrixPlaces (matrix : BenchmarkMatrixRequest) : List Placed × List BenchmarkMatrixSkip :=
  let cpu := if matrix.includeCpu then [onCpu] else []
  if other : matrix.backendSelection.selectedBackend ≠ .cpu then
    if matrix.includeSelectedBackend then
      match selectedDevice matrix with
      | .error skip => (cpu, [skip])
      | .ok device =>
        (cpu ++ (selectedLayers matrix).map fun layers =>
          { backend := matrix.backendSelection.selectedBackend
            device := device.runtimeId
            gpuLayers := layers
            cpu := fun same => absurd same other }, [])
    else (cpu, [])
  else (cpu, [])

/-- Python `_build_requests`. -/
def buildRequests (matrix : BenchmarkMatrixRequest) :
    Except MatrixRaise (List BenchmarkRequest × List BenchmarkMatrixSkip) := do
  let requests ← (matrixPlaces matrix).1.mapM (matrixRequest matrix)
  return (requests, (matrixPlaces matrix).2)

end Requests

section Read
variable {n : ℕ} {runtime made : LaunchRecommendation} {layers : BenchmarkGpuLayers}

/-- The digits of a short number are grouped and read back. -/
lemma groupedDigits_toDigits (short : (Nat.toDigits 10 n).length ≤ maxIntDigits) :
    groupedDigits (Nat.toDigits 10 n) = some n := by
  have digits := allDigits_toDigits n
  have whole : (Nat.toDigits 10 n).splitOn '_' = [Nat.toDigits 10 n] := by
    have one : ∀ group ∈ [Nat.toDigits 10 n], '_' ∉ group := by
      intro group mem
      rw [List.mem_singleton.mp mem]
      exact fun bar => digits.ne (show ('_' : Char).isDigit = false from rfl) '_' bar rfl
    have joined : ['_'].intercalate [Nat.toDigits 10 n] = Nat.toDigits 10 n := List.append_nil _
    have split := List.splitOn_intercalate '_' one (List.cons_ne_nil _ _)
    rwa [joined] at split
  have good : [Nat.toDigits 10 n].all (fun group => group ≠ [] && group.all isDigitChar) = true := by
    rw [List.all_cons, List.all_nil, Bool.and_true, Bool.and_eq_true]
    exact ⟨decide_eq_true Nat.toDigits_ne_nil, List.all_eq_true.mpr (all_isDigitChar digits)⟩
  have value : parseInt (Nat.toDigits 10 n) = .ok n := by
    rw [parseInt_eq_ok, decimalValue_eq digits, Nat.ofDigitChars_ten_toDigits]
    exact ⟨short, rfl⟩
  rw [groupedDigits, whole, if_pos good, List.flatten_singleton, value]
  rfl

/-- Python `int` reads back what `str` wrote. -/
lemma intOfText_toString (short : (Nat.toDigits 10 n).length ≤ maxIntDigits) :
    intOfText (toString n) = some (n : ℤ) := by
  have digits := allDigits_toDigits n
  have trimmed : trim isIntSpace (Nat.toDigits 10 n) = Nat.toDigits 10 n := by
    apply trim_of_trimmed
    apply trimmed_of_forall
    intro c mem
    rw [isIntSpace, (digit_plain (digits c mem)).1, Bool.false_and]
  obtain ⟨c, rest, text, digit⟩ := toDigits_head n
  have minus : c ≠ '-' := fun same => by rw [same] at digit; cases digit
  have plus : c ≠ '+' := fun same => by rw [same] at digit; cases digit
  rw [intOfText, toList_natText, trimmed, text]
  dsimp only
  rw [if_neg minus, if_neg plus, ← text, groupedDigits_toDigits short]
  rfl

/-- Only short numbers have a text, and it is `str`'s. -/
lemma textOfInt_eq_ok {text : String} (written : textOfInt n = .ok text) :
    (Nat.toDigits 10 n).length ≤ maxIntDigits ∧ text = toString n := by
  rw [textOfInt] at written
  split_ifs at written with long
  exact ⟨Nat.le_of_not_lt long, (Except.ok.inj written).symm⟩

/-- What a runtime is set to is read back from it. -/
lemma runtimeGpuLayers_runtimeWithGpuLayers (set : runtimeWithGpuLayers runtime layers = .ok made) :
    runtimeGpuLayers made = layers := by
  obtain ⟨value, written, rfl⟩ := exists_of_map_eq_ok set
  have others : (runtime.flags.filter (·.name ≠ gpuLayersFlag)).find? (·.name = gpuLayersFlag) = none := by
    rw [List.find?_eq_none]
    intro flag mem
    have differs := of_decide_eq_true (List.mem_filter.mp mem).2
    exact fun same => differs (of_decide_eq_true same)
  have own : [benchmarkFlag value].find? (·.name = gpuLayersFlag) = some (benchmarkFlag value) :=
    List.find?_cons_of_pos (decide_eq_true rfl)
  rw [runtimeGpuLayers, List.find?_append, others, Option.none_or, own]
  change (match intOfText value with
    | none => if ["all", "full", "full_offload"].contains (casefold value) then .fullOffload else .count 0
    | some value => if value < 0 then .fullOffload else .count value.toNat) = layers
  cases layers with
  | fullOffload =>
    cases written
    have none : intOfText "all" = none := by decide +kernel
    have full : ["all", "full", "full_offload"].contains (casefold "all") = true := by decide +kernel
    rw [none]
    dsimp only
    rw [if_pos full]
  | count n =>
    obtain ⟨short, rfl⟩ := textOfInt_eq_ok written
    rw [intOfText_toString short]
    rfl

/-- Setting the layers leaves one flag for them, and the others as they were. -/
lemma runtimeWithGpuLayers_flags (set : runtimeWithGpuLayers runtime layers = .ok made) :
    (made.flags.filter (·.name = gpuLayersFlag)).length = 1 ∧
      made.flags.filter (·.name ≠ gpuLayersFlag) = runtime.flags.filter (·.name ≠ gpuLayersFlag) ∧
      { made with flags := runtime.flags } = runtime := by
  obtain ⟨value, -, rfl⟩ := exists_of_map_eq_ok set
  have none : (runtime.flags.filter (·.name ≠ gpuLayersFlag)).filter (·.name = gpuLayersFlag) = [] := by
    rw [List.filter_eq_nil_iff]
    intro flag mem same
    exact of_decide_eq_true (List.mem_filter.mp mem).2 (of_decide_eq_true same)
  have own : [benchmarkFlag value].filter (·.name = gpuLayersFlag) = [benchmarkFlag value] :=
    List.filter_cons_of_pos (decide_eq_true rfl)
  have nothing : [benchmarkFlag value].filter (·.name ≠ gpuLayersFlag) = [] :=
    List.filter_cons_of_neg fun other => of_decide_eq_true other rfl
  refine ⟨?_, ?_, rfl⟩
  · rw [List.filter_append, none, own]
    rfl
  · rw [List.filter_append, List.filter_filter, nothing, List.append_nil]
    apply List.filter_congr
    intro flag _
    exact Bool.and_self _

end Read

section Asked
variable {matrix : BenchmarkMatrixRequest} {request : BenchmarkRequest} {requests : List BenchmarkRequest}
variable {placed : Placed} {device : LlamaCppRuntimeDevice} {devices : List LlamaCppRuntimeDevice}

/-- What a matrix hands on to a request. -/
structure Asked (matrix : BenchmarkMatrixRequest) (request : BenchmarkRequest) : Prop where
  artifact : request.artifact = matrix.artifact
  prefill : request.prefillSizes = matrix.prefillSizes
  generation : request.generationSizes = matrix.generationSizes
  context : request.contextLength = matrix.contextLength
  repetitions : request.repetitions = matrix.repetitions
  timeout : request.timeoutSeconds = matrix.timeoutSeconds
  notes : request.notes = matrix.notes
  /-- The flags of the runtime say what the request says. -/
  layers : runtimeGpuLayers request.runtime = request.gpuLayers
  one : (request.runtime.flags.filter (·.name = gpuLayersFlag)).length = 1
  others : request.runtime.flags.filter (·.name ≠ gpuLayersFlag) =
    matrix.runtime.flags.filter (·.name ≠ gpuLayersFlag)
  rest : { request.runtime with flags := matrix.runtime.flags } = matrix.runtime

/-- A request asks for what the matrix asks, at its place. -/
lemma matrixRequest_ok (made : matrixRequest matrix placed = .ok request) :
    Asked matrix request ∧ request.backend = placed.backend ∧ request.device = some placed.device ∧
      request.gpuLayers = placed.gpuLayers := by
  rw [matrixRequest] at made
  obtain ⟨runtime, set, made⟩ := bind_eq_ok.mp made
  have set := mapError_eq_ok set
  split_ifs at made with valid
  cases made
  obtain ⟨one, others, rest⟩ := runtimeWithGpuLayers_flags set
  exact ⟨⟨rfl, rfl, rfl, rfl, rfl, rfl, rfl, runtimeGpuLayers_runtimeWithGpuLayers set, one, others, rest⟩,
    rfl, rfl, rfl⟩

/-- A device that is matched is one of the candidates. -/
lemma matchWithoutName_mem {backend : ComputeBackend} {candidates : List LlamaCppRuntimeDevice}
    (matched : (matchWithoutName backend candidates).device = some device) : device ∈ candidates := by
  match candidates with
  | [] => cases matched
  | [only] =>
    rw [matchWithoutName] at matched
    split_ifs at matched
    cases matched
    exact List.mem_singleton_self _
  | _ :: _ :: _ => cases matched

/-- A device that is matched is one of those there are, and no software renderer. -/
lemma matchRuntimeDevice_mem {selection : RuntimeBackendSelection}
    (matched : (matchRuntimeDevice selection devices).device = some device) :
    device ∈ devices ∧ isSoftwareRenderer device = false := by
  have kept : device ∈ devices.filter fun device => !isSoftwareRenderer device := by
    unfold matchRuntimeDevice at matched
    dsimp only at matched
    split at matched
    · cases matched
    · split at matched
      · exact matchWithoutName_mem matched
      · split at matched
        · rename_i found only
          cases matched
          have mem := List.mem_singleton_self device
          rw [← only] at mem
          exact (List.mem_filter.mp mem).1
        · exact matchWithoutName_mem matched
        · cases matched
  obtain ⟨mem, hardware⟩ := List.mem_filter.mp kept
  exact ⟨mem, Bool.not_eq_true' _ |>.mp hardware⟩

/-- A device that a capability confirms for a backend. -/
def ConfirmedFor (matrix : BenchmarkMatrixRequest) (backend : ComputeBackend) (device : LlamaCppRuntimeDevice) : Prop :=
  ∃ capability ∈ matrix.runtimeCapability.backendCapabilities, capability.backend = backend ∧
    capability.state = .confirmed ∧ device ∈ capability.devices ∧ isSoftwareRenderer device = false

/-- The device of the matrix is one that was confirmed for its backend. -/
lemma selectedDevice_ok (found : selectedDevice matrix = .ok device) :
    ConfirmedFor matrix matrix.backendSelection.selectedBackend device := by
  rw [selectedDevice] at found
  split at found
  · cases found
  · rename_i capability first
    split_ifs at found with state none
    split at found
    · rename_i other matched
      cases found
      obtain ⟨mem, hardware⟩ := matchRuntimeDevice_mem matched
      have own := List.find?_some first
      exact ⟨capability, List.mem_of_find?_eq_some first, of_decide_eq_true own, not_not.mp state, mem, hardware⟩
    · cases found

/-- Where there is none the skip names the backend. -/
lemma selectedDevice_error {skip : BenchmarkMatrixSkip} (refused : selectedDevice matrix = .error skip) :
    skip.backend = matrix.backendSelection.selectedBackend := by
  rw [selectedDevice] at refused
  split at refused
  · cases refused
    rfl
  · split_ifs at refused
    · cases refused
      rfl
    · cases refused
      rfl
    · split at refused
      · cases refused
      · cases refused
        rfl

/-- A backend other than the processor is asked for. -/
def BenchmarkMatrixRequest.Wants (matrix : BenchmarkMatrixRequest) : Prop :=
  matrix.includeSelectedBackend = true ∧ matrix.backendSelection.selectedBackend ≠ .cpu

/-- Where a request runs: its backend, its device, and its layers on it. -/
def place (request : BenchmarkRequest) : ComputeBackend × Option String × BenchmarkGpuLayers :=
  (request.backend, request.device, request.gpuLayers)

/-- The processor, if it is included. -/
def cpuPlace (matrix : BenchmarkMatrixRequest) : List (ComputeBackend × Option String × BenchmarkGpuLayers) :=
  if matrix.includeCpu then [(.cpu, some "none", .count 0)] else []

/-- The places of a matrix besides the processor, and what it skips: nothing if no other backend is asked for, and else
either a skip or a confirmed device, with every offload. -/
def Elsewhere (matrix : BenchmarkMatrixRequest) (skips : List BenchmarkMatrixSkip)
    (places : List (ComputeBackend × Option String × BenchmarkGpuLayers)) : Prop :=
  (¬matrix.Wants ∧ skips = [] ∧ places = []) ∨
  (matrix.Wants ∧ (∃ skip, skips = [skip] ∧ skip.backend = matrix.backendSelection.selectedBackend) ∧ places = []) ∨
  (matrix.Wants ∧ skips = [] ∧ ∃ device, ConfirmedFor matrix matrix.backendSelection.selectedBackend device ∧
    places = (selectedLayers matrix).map (matrix.backendSelection.selectedBackend, some device.runtimeId, ·))

/-- The CPU comes first, if it is asked for, and then the places of the other backend. -/
lemma matrixPlaces_cases (matrix : BenchmarkMatrixRequest) :
    ∃ others, Elsewhere matrix (matrixPlaces matrix).2 others ∧
      (matrixPlaces matrix).1.map (fun placed => (placed.backend, some placed.device, placed.gpuLayers)) =
        cpuPlace matrix ++ others := by
  have cpu : (if matrix.includeCpu then [onCpu] else []).map
      (fun placed => (placed.backend, some placed.device, placed.gpuLayers)) = cpuPlace matrix := by
    rw [cpuPlace]
    cases matrix.includeCpu with
    | true => rfl
    | false => rfl
  rw [matrixPlaces]
  by_cases other : matrix.backendSelection.selectedBackend ≠ .cpu
  · rw [dif_pos other]
    by_cases included : matrix.includeSelectedBackend = true
    · rw [if_pos included]
      cases selected : selectedDevice matrix with
      | error skip =>
        refine ⟨[], .inr (.inl ⟨⟨included, other⟩, ⟨skip, rfl, selectedDevice_error selected⟩, rfl⟩), ?_⟩
        rw [List.append_nil]
        exact cpu
      | ok device =>
        refine ⟨_, .inr (.inr ⟨⟨included, other⟩, rfl, device, selectedDevice_ok selected, rfl⟩), ?_⟩
        dsimp only
        rw [List.map_append, cpu, List.map_map]
        rfl
    · rw [if_neg included]
      refine ⟨[], .inl ⟨fun wants => included wants.1, rfl, rfl⟩, ?_⟩
      rw [List.append_nil]
      exact cpu
  · rw [dif_neg other]
    refine ⟨[], .inl ⟨fun wants => other wants.2, rfl, rfl⟩, ?_⟩
    rw [List.append_nil]
    exact cpu

/-- Requests stand at the places they were built for. -/
lemma map_place {placed : List Placed} (all : List.Forall₂ (fun placed request =>
    matrixRequest matrix placed = .ok request) placed requests) :
    requests.map place = placed.map fun placed => (placed.backend, some placed.device, placed.gpuLayers) := by
  induction all with
  | nil => rfl
  | cons own _ ih =>
    obtain ⟨-, backend, device, layers⟩ := matrixRequest_ok own
    rw [List.map_cons, List.map_cons, ih, place, backend, device, layers]

/-- The requests of a matrix take over what it asks for, and the flags of each say where its layers go. The processor
comes first; any other request is for a device that the runtime confirms. -/
theorem buildRequests_asks {skips : List BenchmarkMatrixSkip} (built : buildRequests matrix = .ok (requests, skips)) :
    (∀ request ∈ requests, Asked matrix request) ∧
      ∃ others, Elsewhere matrix skips others ∧ requests.map place = cpuPlace matrix ++ others := by
  rw [buildRequests] at built
  obtain ⟨made, run, built⟩ := bind_eq_ok.mp built
  obtain ⟨rfl, rfl⟩ := Prod.mk.inj (Except.ok.inj built)
  obtain ⟨others, elsewhere, places⟩ := matrixPlaces_cases matrix
  refine ⟨?_, others, elsewhere, ?_⟩
  · intro request mem
    obtain ⟨placed, -, own⟩ := mem_of_mapM_ok run mem
    exact (matrixRequest_ok own).1
  · rw [← places]
    exact map_place (mapM_eq_ok_iff.mp run)

/-- What llama-bench lists on a machine with one card. -/
def sampleListing : LlamaCppRuntimeCapability where
  binaryStatus := .available
  backendCapabilities :=
    [{ backend := .vulkan
       state := .confirmed
       devices := [{ backend := .vulkan, runtimeId := "Vulkan0", name := some "Arc B60" }] }]

/-- A matrix for the processor and this card. -/
def sampleMatrix : BenchmarkMatrixRequest where
  artifact := sampleRequest.artifact
  runtime :=
    { runtime := .llamaCpp
      flags := [{ name := gpuLayersFlag, value := " +99 ", source := .hardware, explanation := "" }]
      confidence := .high }
  backendSelection :=
    { selectedBackend := .vulkan
      selectedAccelerator := some { name := "Arc B60", vendor := .intel, type := .dedicated }
      reason := .vulkanBackendAvailable }
  runtimeCapability := sampleListing
  contextLength := sampleRequest.contextLength
  prefillSizes := [512]
  generationSizes := [128]
  repetitions := sampleRequest.repetitions
  timeoutSeconds := sampleRequest.timeoutSeconds
  context_pos := sampleRequest.context_pos
  repetitions_pos := sampleRequest.repetitions_pos
  timeout_pos := sampleRequest.timeout_pos

/-- Its two requests say in their flags where their layers go. -/
theorem buildRequests_asks_sample :
    ∃ requests skips, buildRequests sampleMatrix = .ok (requests, skips) ∧
      ∀ request ∈ requests, runtimeGpuLayers request.runtime = request.gpuLayers := by
  have some' : (buildRequests sampleMatrix).toOption.isSome = true := by decide +kernel
  cases built : buildRequests sampleMatrix with
  | error raised =>
    rw [built] at some'
    cases some'
  | ok made =>
    obtain ⟨asked, -⟩ := @buildRequests_asks sampleMatrix made.1 made.2 built
    exact ⟨made.1, made.2, rfl, fun request mem => (asked request mem).layers⟩

end Asked

section Loop

/-- Python `BenchmarkRecord`, as the matrix reads it. -/
structure MatrixRecord where
  request : BenchmarkRequest
  observation : RunObservation

/-- Python `BenchmarkRunResult`. -/
structure BenchmarkRunResult where
  record : MatrixRecord
  persistedPath : Option String := none

/-- Python `BenchmarkMatrixFailure`. -/
structure BenchmarkMatrixFailure where
  request : BenchmarkRequest
  message : String
  record : Option MatrixRecord := none
  persistedPath : Option String := none

/-- Python `BenchmarkMatrixResult`. -/
structure BenchmarkMatrixResult where
  completed : List BenchmarkRunResult := []
  skipped : List BenchmarkMatrixSkip := []
  failed : List BenchmarkMatrixFailure := []
  records : List MatrixRecord := []

/-- What a matrix does: it lists the devices to confirm one, starts a run, or stores a record. -/
inductive MatrixEvent
  | listed (device : Option String)
  | ran (request : BenchmarkRequest)
  | stored (record : MatrixRecord)

/-- Python `LlamaBenchCapability`, as the matrix reads it. -/
structure LlamaBenchCapability where
  binaryStatus : LlamaCppBinaryStatus
  message : Option String := none

/-- What a matrix meets. The devices that are listed, what a run meets and what the store answers may depend on all
that happened before; there may be no store. -/
structure MatrixWorld where
  spelling : Spelling
  llamaBench : String
  capability : LlamaBenchCapability
  listing : List MatrixEvent → LlamaCppRuntimeCapability
  call : List MatrixEvent → BenchCall
  store : Option (List MatrixEvent → MatrixRecord → Except String String)

/-- The lists of a result while it is made, and what was done. -/
structure MatrixState where
  completed : List BenchmarkRunResult := []
  failed : List BenchmarkMatrixFailure := []
  records : List MatrixRecord := []
  events : List MatrixEvent := []

variable (world : MatrixWorld) (matrix : BenchmarkMatrixRequest)

/-- A request is run, on a device of another backend once it is confirmed. -/
def attemptRequest (events : List MatrixEvent) (request : BenchmarkRequest) :
    Except BenchmarkRaise RunObservation × List MatrixEvent :=
  if request.backend = .cpu then
    (runLlamaBench world.spelling world.llamaBench (world.call events) request, events ++ [.ran request])
  else
    let listed := events ++ [.listed request.device]
    match confirmBenchmarkDevice world.spelling.repr (world.listing events) matrix.backendSelection request.device with
    | .error error => (.error (.benchmark error), listed)
    | .ok () =>
      (runLlamaBench world.spelling world.llamaBench (world.call listed) request, listed ++ [.ran request])

/-- A record is a completed run or a failure. -/
def judgeRecord (state : MatrixState) (record : MatrixRecord) (path : Option String) : MatrixState :=
  if record.observation.success then { state with completed := state.completed ++ [⟨record, path⟩] }
  else
    { state with
      failed := state.failed ++
        [{ request := record.request
           message := (truthy record.observation.message).getD "Benchmark process failed."
           record := some record
           persistedPath := path }] }

/-- A record that is not stored is a failure. -/
def refuseRecord (state : MatrixState) (record : MatrixRecord) (message : String) : MatrixState :=
  { state with failed := state.failed ++ [{ request := record.request, message := message, record := some record }] }

/-- A record is kept, and stored if it is to be. -/
def keepRecord (state : MatrixState) (record : MatrixRecord) : MatrixState :=
  let kept := { state with records := state.records ++ [record] }
  if matrix.persist then
    match world.store with
    | none =>
      refuseRecord kept record "Benchmark persistence was requested but no BenchmarkStore is configured."
    | some save =>
      let stored := { kept with events := kept.events ++ [.stored record] }
      match save kept.events record with
      | .error text =>
        refuseRecord stored record ("Benchmark completed, but its record could not be persisted: " ++ text)
      | .ok path => judgeRecord stored record (some path)
  else judgeRecord kept record none

/-- One request of the loop. -/
def matrixStep (state : MatrixState) (request : BenchmarkRequest) : Except MatrixRaise MatrixState :=
  match attemptRequest world matrix state.events request with
  | (.error (.benchmark error), events) =>
    .ok { state with
      failed := state.failed ++ [{ request := request, message := error.message }]
      events := events }
  | (.error (.python error), _) => .error (.python error)
  | (.ok observation, events) => .ok (keepRecord world matrix { state with events := events } ⟨request, observation⟩)

/-- Python `BenchmarkMatrixRunner.run`, with what it did. -/
def matrixRun : Except MatrixRaise (BenchmarkMatrixResult × List MatrixEvent) := do
  if matrix.runtime.runtime ≠ .llamaCpp then
    .error (.benchmark (.runner "Benchmarking currently requires llama.cpp runtime."))
  else if world.capability.binaryStatus ≠ .available then
    .error (.benchmark (.unavailable ((truthy world.capability.message).getD "llama-bench is not available.")))
  else do
    let (requests, skipped) ← buildRequests matrix
    let state ← requests.foldlM (matrixStep world matrix) {}
    return ({ completed := state.completed, skipped := skipped, failed := state.failed, records := state.records },
      state.events)

end Loop

section Fates

/-- What comes of a request: it ends without a record, its record is not stored, or it ends with its record. -/
inductive Fate
  | refused (request : BenchmarkRequest) (message : String)
  | unstored (record : MatrixRecord) (message : String)
  | ended (record : MatrixRecord) (path : Option String)

namespace Fate

/-- The request of a fate. -/
def request : Fate → BenchmarkRequest
  | refused request _ => request
  | unstored record _ => record.request
  | ended record _ => record.request

/-- The record of a fate. -/
def record : Fate → Option MatrixRecord
  | refused _ _ => none
  | unstored record _ => some record
  | ended record _ => some record

/-- A run that ended well. -/
def completed : Fate → Option BenchmarkRunResult
  | ended record path => if record.observation.success then some ⟨record, path⟩ else none
  | _ => none

/-- Any other one. -/
def failed : Fate → Option BenchmarkMatrixFailure
  | refused request message => some { request := request, message := message }
  | unstored record message => some { request := record.request, message := message, record := some record }
  | ended record path =>
    if record.observation.success then none
    else
      some
        { request := record.request
          message := (truthy record.observation.message).getD "Benchmark process failed."
          record := some record
          persistedPath := path }

end Fate

/-- A fate is entered into the lists. -/
def MatrixState.enter (state : MatrixState) (fate : Fate) (events : List MatrixEvent) : MatrixState where
  completed := state.completed ++ fate.completed.toList
  failed := state.failed ++ fate.failed.toList
  records := state.records ++ fate.record.toList
  events := state.events ++ events

/-- What is done before a request runs: nothing on the processor, and on another backend the listing that confirms the
device. -/
inductive Opens (world : MatrixWorld) (matrix : BenchmarkMatrixRequest) (events : List MatrixEvent)
    (request : BenchmarkRequest) : List MatrixEvent → Prop
  | cpu (own : request.backend = .cpu) : Opens world matrix events request []
  | confirmed (other : request.backend ≠ .cpu)
      (listed : confirmBenchmarkDevice world.spelling.repr (world.listing events) matrix.backendSelection
        request.device = .ok ()) : Opens world matrix events request [.listed request.device]

/-- What comes of a request after what was done before, and what is done for it. -/
inductive Meets (world : MatrixWorld) (matrix : BenchmarkMatrixRequest) (events : List MatrixEvent) :
    Fate → List MatrixEvent → Prop
  | unconfirmed {request : BenchmarkRequest} {error : BenchmarkError} (other : request.backend ≠ .cpu)
      (listed : confirmBenchmarkDevice world.spelling.repr (world.listing events) matrix.backendSelection
        request.device = .error error) : Meets world matrix events (.refused request error.message)
          [.listed request.device]
  | raised {request : BenchmarkRequest} {opening : List MatrixEvent} {error : BenchmarkError}
      (opens : Opens world matrix events request opening)
      (ran : runLlamaBench world.spelling world.llamaBench (world.call (events ++ opening)) request =
        .error (.benchmark error)) :
      Meets world matrix events (.refused request error.message) (opening ++ [.ran request])
  | unstorable {record : MatrixRecord} {opening : List MatrixEvent}
      (opens : Opens world matrix events record.request opening)
      (ran : runLlamaBench world.spelling world.llamaBench (world.call (events ++ opening)) record.request =
        .ok record.observation) (persist : matrix.persist = true) (store : world.store = none) :
      Meets world matrix events
        (.unstored record "Benchmark persistence was requested but no BenchmarkStore is configured.")
        (opening ++ [.ran record.request])
  | unstored {record : MatrixRecord} {opening : List MatrixEvent} {text : String}
      {save : List MatrixEvent → MatrixRecord → Except String String}
      (opens : Opens world matrix events record.request opening)
      (ran : runLlamaBench world.spelling world.llamaBench (world.call (events ++ opening)) record.request =
        .ok record.observation) (persist : matrix.persist = true) (store : world.store = some save)
      (saved : save (events ++ opening ++ [.ran record.request]) record = .error text) :
      Meets world matrix events
        (.unstored record ("Benchmark completed, but its record could not be persisted: " ++ text))
        (opening ++ [.ran record.request, .stored record])
  | stored {record : MatrixRecord} {opening : List MatrixEvent} {path : String}
      {save : List MatrixEvent → MatrixRecord → Except String String}
      (opens : Opens world matrix events record.request opening)
      (ran : runLlamaBench world.spelling world.llamaBench (world.call (events ++ opening)) record.request =
        .ok record.observation) (persist : matrix.persist = true) (store : world.store = some save)
      (saved : save (events ++ opening ++ [.ran record.request]) record = .ok path) :
      Meets world matrix events (.ended record (some path)) (opening ++ [.ran record.request, .stored record])
  | kept {record : MatrixRecord} {opening : List MatrixEvent}
      (opens : Opens world matrix events record.request opening)
      (ran : runLlamaBench world.spelling world.llamaBench (world.call (events ++ opening)) record.request =
        .ok record.observation) (persist : matrix.persist = false) :
      Meets world matrix events (.ended record none) (opening ++ [.ran record.request])

end Fates

section Steps
variable {world : MatrixWorld} {matrix : BenchmarkMatrixRequest} {state next : MatrixState}
variable {request : BenchmarkRequest} {requests : List BenchmarkRequest} {record : MatrixRecord}
variable {events : List MatrixEvent}

/-- An attempt opens with what precedes a run, and then runs. -/
lemma attemptRequest_opens {answer : Except BenchmarkRaise RunObservation} {after : List MatrixEvent}
    (attempted : attemptRequest world matrix events request = (answer, after)) :
    (∃ opening, Opens world matrix events request opening ∧ after = events ++ opening ++ [.ran request] ∧
        answer = runLlamaBench world.spelling world.llamaBench (world.call (events ++ opening)) request) ∨
      ∃ error, request.backend ≠ .cpu ∧
        confirmBenchmarkDevice world.spelling.repr (world.listing events) matrix.backendSelection request.device =
          .error error ∧
        answer = .error (.benchmark error) ∧ after = events ++ [.listed request.device] := by
  rw [attemptRequest] at attempted
  by_cases own : request.backend = .cpu
  · rw [if_pos own] at attempted
    obtain ⟨rfl, rfl⟩ := Prod.mk.inj attempted
    refine .inl ⟨[], .cpu own, ?_, ?_⟩
    · rw [List.append_nil]
    · rw [List.append_nil]
  · rw [if_neg own] at attempted
    cases listed : confirmBenchmarkDevice world.spelling.repr (world.listing events) matrix.backendSelection
        request.device with
    | error error =>
      rw [listed] at attempted
      obtain ⟨rfl, rfl⟩ := Prod.mk.inj attempted
      exact .inr ⟨error, own, rfl, rfl, rfl⟩
    | ok done =>
      rw [listed] at attempted
      obtain ⟨rfl, rfl⟩ := Prod.mk.inj attempted
      exact .inl ⟨_, .confirmed own listed, rfl, rfl⟩

/-- What is judged is the record that was appended. -/
lemma judgeRecord_eq (state : MatrixState) (record : MatrixRecord) (path : Option String) :
    judgeRecord { state with records := state.records ++ [record] } record path =
      state.enter (.ended record path) [] := by
  have completed : (Fate.ended record path).completed =
      if record.observation.success then some ⟨record, path⟩ else none := rfl
  rw [judgeRecord]
  cases success : record.observation.success with
  | true =>
    rw [MatrixState.enter, completed, success, Fate.failed, success]
    simp [Fate.record]
  | false =>
    rw [MatrixState.enter, completed, success, Fate.failed, success]
    simp [Fate.record]

/-- A record that is kept comes to one of the fates. -/
lemma keepRecord_meets {opening : List MatrixEvent} (opens : Opens world matrix state.events record.request opening)
    (ran : runLlamaBench world.spelling world.llamaBench (world.call (state.events ++ opening)) record.request =
      .ok record.observation) :
    ∃ fate called, Meets world matrix state.events fate called ∧ fate.request = record.request ∧
      keepRecord world matrix { state with events := state.events ++ opening ++ [.ran record.request] } record =
        state.enter fate called := by
  have after : state.events ++ opening ++ [.ran record.request] ++ [.stored record] =
      state.events ++ (opening ++ [.ran record.request, .stored record]) := by
    simp
  have before : state.events ++ opening ++ [.ran record.request] =
      state.events ++ (opening ++ [.ran record.request]) := by
    simp
  cases persist : matrix.persist with
  | false =>
    refine ⟨_, _, .kept opens ran persist, rfl, ?_⟩
    rw [keepRecord, if_neg (Bool.eq_false_iff.mp persist), before]
    rw [judgeRecord_eq { state with events := state.events ++ (opening ++ [.ran record.request]) }]
    simp [MatrixState.enter]
  | true =>
    cases store : world.store with
    | none =>
      refine ⟨_, _, .unstorable opens ran persist store, rfl, ?_⟩
      rw [keepRecord, if_pos persist, store, before]
      simp [refuseRecord, MatrixState.enter, Fate.completed, Fate.failed, Fate.record]
    | some save =>
      cases saved : save (state.events ++ opening ++ [.ran record.request]) record with
      | error text =>
        refine ⟨_, _, .unstored opens ran persist store saved, rfl, ?_⟩
        rw [keepRecord, if_pos persist, store]
        dsimp only
        rw [saved, after]
        simp [refuseRecord, MatrixState.enter, Fate.completed, Fate.failed, Fate.record]
      | ok path =>
        refine ⟨_, _, .stored opens ran persist store saved, rfl, ?_⟩
        rw [keepRecord, if_pos persist, store]
        dsimp only
        rw [saved, after]
        dsimp only
        rw [judgeRecord_eq { state with events := state.events ++ (opening ++ [.ran record.request, .stored record]) }]
        simp [MatrixState.enter]

/-- A step of the loop enters one fate of its request. -/
lemma matrixStep_meets (stepped : matrixStep world matrix state request = .ok next) :
    ∃ fate called, Meets world matrix state.events fate called ∧ fate.request = request ∧
      next = state.enter fate called := by
  rw [matrixStep] at stepped
  cases attempted : attemptRequest world matrix state.events request with
  | mk answer after =>
    rw [attempted] at stepped
    rcases attemptRequest_opens attempted with ⟨opening, opens, rfl, rfl⟩ | ⟨error, other, listed, rfl, rfl⟩
    · cases ran : runLlamaBench world.spelling world.llamaBench (world.call (state.events ++ opening)) request with
      | ok observation =>
        rw [ran] at stepped
        cases stepped
        exact @keepRecord_meets world matrix state ⟨request, observation⟩ opening opens ran
      | error raised =>
        rw [ran] at stepped
        cases raised with
        | python error => cases stepped
        | benchmark error =>
          cases stepped
          refine ⟨_, _, .raised opens ran, rfl, ?_⟩
          simp [MatrixState.enter, Fate.completed, Fate.failed, Fate.record]
    · cases stepped
      refine ⟨_, _, .unconfirmed other listed, rfl, ?_⟩
      simp [MatrixState.enter, Fate.completed, Fate.failed, Fate.record]

/-- The fates of requests one after another, and all that is done for them. -/
inductive Lives (world : MatrixWorld) (matrix : BenchmarkMatrixRequest) :
    List MatrixEvent → List Fate → List MatrixEvent → Prop
  | nil {events : List MatrixEvent} : Lives world matrix events [] events
  | cons {events called after : List MatrixEvent} {fate : Fate} {fates : List Fate}
      (meets : Meets world matrix events fate called) (rest : Lives world matrix (events ++ called) fates after) :
      Lives world matrix events (fate :: fates) after

/-- The loop gives every request one fate, in order, and its lists are what the fates come to. -/
lemma matrixSteps_live (ran : requests.foldlM (matrixStep world matrix) state = .ok next) :
    ∃ fates, fates.map Fate.request = requests ∧ Lives world matrix state.events fates next.events ∧
      next.completed = state.completed ++ fates.filterMap Fate.completed ∧
      next.failed = state.failed ++ fates.filterMap Fate.failed ∧
      next.records = state.records ++ fates.filterMap Fate.record := by
  induction requests generalizing state with
  | nil =>
    cases ran
    exact ⟨[], rfl, .nil, (List.append_nil _).symm, (List.append_nil _).symm, (List.append_nil _).symm⟩
  | cons request requests ih =>
    rw [List.foldlM_cons] at ran
    obtain ⟨middle, stepped, ran⟩ := bind_eq_ok.mp ran
    obtain ⟨fate, called, meets, own, rfl⟩ := matrixStep_meets stepped
    obtain ⟨fates, others, lives, completed, failed, records⟩ := ih ran
    have part : ∀ {α : Type} (f : Fate → Option α) (l : List α),
        l ++ (f fate).toList ++ fates.filterMap f = l ++ (fate :: fates).filterMap f := by
      intro α f l
      rw [List.append_assoc, List.filterMap_cons]
      cases f fate with
      | none => rfl
      | some a => rfl
    refine ⟨fate :: fates, ?_, .cons meets lives, ?_, ?_, ?_⟩
    · rw [List.map_cons, own, others]
    · rw [completed, ← part]
      rfl
    · rw [failed, ← part]
      rfl
    · rw [records, ← part]
      rfl

/-- A matrix that does not raise gives every one of its requests a fate. -/
lemma matrixRun_lives {result : BenchmarkMatrixResult} (ran : matrixRun world matrix = .ok (result, events)) :
    ∃ requests fates, buildRequests matrix = .ok (requests, result.skipped) ∧ fates.map Fate.request = requests ∧
      Lives world matrix [] fates events ∧ result.completed = fates.filterMap Fate.completed ∧
      result.failed = fates.filterMap Fate.failed ∧ result.records = fates.filterMap Fate.record := by
  rw [matrixRun] at ran
  split_ifs at ran
  obtain ⟨⟨requests, skipped⟩, built, ran⟩ := bind_eq_ok.mp ran
  obtain ⟨final, run, ran⟩ := bind_eq_ok.mp ran
  obtain ⟨rfl, rfl⟩ := Prod.mk.inj (Except.ok.inj ran)
  obtain ⟨fates, own, lives, completed, failed, records⟩ := matrixSteps_live run
  exact ⟨requests, fates, built, own, lives, completed, failed, records⟩

end Steps

section Accounts
variable {world : MatrixWorld} {matrix : BenchmarkMatrixRequest} {requests : List BenchmarkRequest}
variable {events after called : List MatrixEvent} {fate : Fate} {fates : List Fate}
variable {result : BenchmarkMatrixResult}

/-- A fate is a completed run or a failure, of its request and with its record. -/
lemma Fate.parts (fate : Fate) :
    (∃ run, fate.completed = some run ∧ fate.failed = none ∧ run.record.request = fate.request ∧
      fate.record = some run.record) ∨
    (∃ failure, fate.completed = none ∧ fate.failed = some failure ∧ failure.request = fate.request ∧
      failure.record = fate.record) := by
  cases fate with
  | refused request message => exact .inr ⟨_, rfl, rfl, rfl, rfl⟩
  | unstored record message => exact .inr ⟨_, rfl, rfl, rfl, rfl⟩
  | ended record path =>
    cases success : record.observation.success with
    | true =>
      refine .inl ⟨⟨record, path⟩, ?_, ?_, rfl, rfl⟩
      · rw [Fate.completed, if_pos success]
      · rw [Fate.failed, if_pos success]
    | false =>
      have failed : ∃ failure, (Fate.ended record path).failed = some failure ∧ failure.request = record.request ∧
          failure.record = some record := by
        rw [Fate.failed, if_neg (Bool.eq_false_iff.mp success)]
        exact ⟨_, rfl, rfl, rfl⟩
      obtain ⟨failure, own, request, kept⟩ := failed
      refine .inr ⟨failure, ?_, own, request, kept⟩
      rw [Fate.completed, if_neg (Bool.eq_false_iff.mp success)]

/-- What is true of a fate that is met. -/
structure Fate.Lawful (matrix : BenchmarkMatrixRequest) (fate : Fate) : Prop where
  record : ∀ record ∈ fate.record, record.request = fate.request ∧
    ∃ command, Observes command record.request record.observation
  completed : ∀ run ∈ fate.completed, run.record.observation.success = true ∧
    run.persistedPath.isSome = matrix.persist
  failed : ∀ failure ∈ fate.failed, ∀ record ∈ failure.record, record.observation.success = true →
    matrix.persist = true ∧ failure.persistedPath = none

/-- A run that ended is lawful. -/
lemma lawful_ended {record : MatrixRecord} {path : Option String}
    (observes : ∃ command, Observes command record.request record.observation)
    (stored : path.isSome = matrix.persist) : (Fate.ended record path).Lawful matrix where
  record := by
    intro other mem
    cases mem
    exact ⟨rfl, observes⟩
  completed := by
    intro run mem
    rw [Option.mem_def, Fate.completed] at mem
    split_ifs at mem with success
    cases mem
    exact ⟨success, stored⟩
  failed := by
    intro failure mem other own success
    rw [Option.mem_def, Fate.failed] at mem
    split_ifs at mem with failed
    cases mem
    cases own
    exact absurd success failed

/-- So is one whose record could not be stored. -/
lemma lawful_unstored {record : MatrixRecord} {message : String}
    (observes : ∃ command, Observes command record.request record.observation) (persist : matrix.persist = true) :
    (Fate.unstored record message).Lawful matrix where
  record := by
    intro other mem
    cases mem
    exact ⟨rfl, observes⟩
  completed := by
    intro run mem
    cases mem
  failed := by
    intro failure mem other own success
    cases mem
    exact ⟨persist, rfl⟩

/-- So is a refusal. -/
lemma lawful_refused {request : BenchmarkRequest} {message : String} :
    (Fate.refused request message).Lawful matrix where
  record := by
    intro other mem
    cases mem
  completed := by
    intro run mem
    cases mem
  failed := by
    intro failure mem other own
    cases mem
    cases own

/-- An observation is of its request. -/
lemma observes_of_run {call : BenchCall} {request : BenchmarkRequest} {observation : RunObservation}
    (ran : runLlamaBench world.spelling world.llamaBench call request = .ok observation) :
    ∃ command, Observes command request observation := by
  obtain ⟨threads, command, -, -, ended⟩ := runLlamaBench_ok ran
  exact ⟨command, (observeOutcome_ok ended).1⟩

/-- Whatever a request comes to is lawful. -/
lemma Meets.lawful (meets : Meets world matrix events fate called) : fate.Lawful matrix := by
  cases meets with
  | unconfirmed other listed => exact lawful_refused
  | raised opens ran => exact lawful_refused
  | unstorable opens ran persist store => exact lawful_unstored (observes_of_run ran) persist
  | unstored opens ran persist store saved => exact lawful_unstored (observes_of_run ran) persist
  | stored opens ran persist store saved => exact lawful_ended (observes_of_run ran) persist.symm
  | kept opens ran persist => exact lawful_ended (observes_of_run ran) persist.symm

/-- So is whatever the requests come to. -/
lemma Lives.lawful (lives : Lives world matrix events fates after) : ∀ fate ∈ fates, fate.Lawful matrix := by
  induction lives with
  | nil =>
    intro fate mem
    cases mem
  | cons meets _ ih =>
    intro fate mem
    rcases List.mem_cons.mp mem with rfl | mem
    · exact meets.lawful
    · exact ih fate mem

/-- What the lists of a result account for. -/
structure Accounts (matrix : BenchmarkMatrixRequest) (requests : List BenchmarkRequest)
    (result : BenchmarkMatrixResult) : Prop where
  /-- Every request is completed or failed, and none twice. -/
  all : (result.completed.map (·.record.request) ++ result.failed.map (·.request)).Perm requests
  completed_order : (result.completed.map (·.record.request)).Sublist requests
  failed_order : (result.failed.map (·.request)).Sublist requests
  records_order : (result.records.map (·.request)).Sublist requests
  /-- Every record is that of a completed run or of a failure. -/
  kept : (result.completed.map (·.record) ++ result.failed.filterMap (·.record)).Perm result.records
  observed : ∀ record ∈ result.records, ∃ command, Observes command record.request record.observation
  completed : ∀ run ∈ result.completed, run.record.observation.success = true ∧
    run.persistedPath.isSome = matrix.persist
  /-- A run that went well fails only for its record, which was to be stored and is not. -/
  failed : ∀ failure ∈ result.failed, ∀ record ∈ failure.record, record.observation.success = true →
    matrix.persist = true ∧ failure.persistedPath = none

/-- Lawful fates make the accounts of the result. -/
lemma accounts_of_lawful (lawful : ∀ fate ∈ fates, fate.Lawful matrix)
    (completed : result.completed = fates.filterMap Fate.completed)
    (failed : result.failed = fates.filterMap Fate.failed) (records : result.records = fates.filterMap Fate.record) :
    Accounts matrix (fates.map Fate.request) result := by
  -- every fate is either a completed run or a failure, of its own request
  have byRequest : Parts Fate.completed Fate.failed (some ∘ Fate.request) (some ∘ fun run => run.record.request)
      (some ∘ fun failure => failure.request) := by
    intro fate
    rcases fate.parts with ⟨run, own, other, request, -⟩ | ⟨failure, other, own, request, -⟩
    · exact .inl ⟨run, own, other, congrArg some request⟩
    · exact .inr ⟨failure, other, own, congrArg some request⟩
  -- and its record, when there is one, lies with the run or with the failure
  have byRecord : Parts Fate.completed Fate.failed Fate.record (some ∘ fun run => run.record)
      (fun failure => failure.record) := by
    intro fate
    rcases fate.parts with ⟨run, own, other, -, record⟩ | ⟨failure, other, own, -, record⟩
    · exact .inl ⟨run, own, other, record.symm⟩
    · exact .inr ⟨failure, other, own, record⟩
  have member : ∀ {α : Type} {f : Fate → Option α} {a : α}, a ∈ fates.filterMap f → ∃ fate ∈ fates, f fate = some a :=
    fun mem => List.mem_filterMap.mp mem
  constructor
  · have perm := byRequest.perm fates
    rwa [List.filterMap_eq_map, List.filterMap_eq_map, List.filterMap_eq_map, ← completed, ← failed] at perm
  · have order := byRequest.left_sublist fates
    rwa [List.filterMap_eq_map, List.filterMap_eq_map, ← completed] at order
  · have order := byRequest.right_sublist fates
    rwa [List.filterMap_eq_map, List.filterMap_eq_map, ← failed] at order
  · have agrees : ∀ fate record, Fate.record fate = some record →
        (some ∘ fun record => record.request) record = (some ∘ Fate.request) fate := by
      intro fate record own
      cases fate with
      | refused request message => cases own
      | unstored other message =>
        cases own
        rfl
      | ended other path =>
        cases own
        rfl
    have order := filterMap_filterMap_sublist agrees fates
    rwa [List.filterMap_eq_map, List.filterMap_eq_map, ← records] at order
  · have perm := byRecord.perm fates
    rwa [List.filterMap_eq_map, ← completed, ← failed, ← records] at perm
  · intro record mem
    rw [records] at mem
    obtain ⟨fate, own, some'⟩ := member mem
    exact ((lawful fate own).record record some').2
  · intro run mem
    rw [completed] at mem
    obtain ⟨fate, own, some'⟩ := member mem
    exact (lawful fate own).completed run some'
  · intro failure mem
    rw [failed] at mem
    obtain ⟨fate, own, some'⟩ := member mem
    exact (lawful fate own).failed failure some'

/-- A matrix that does not raise accounts for every one of its requests, each completed or failed once and in order. A
completed run went well and is stored if it was to be; a recorded run is observed as a success that measures every size
of its request, or as a failure with a reason. -/
theorem matrixRun_accounts (ran : matrixRun world matrix = .ok (result, events)) :
    ∃ requests, buildRequests matrix = .ok (requests, result.skipped) ∧ Accounts matrix requests result := by
  obtain ⟨requests, fates, built, rfl, lives, completed, failed, records⟩ := matrixRun_lives ran
  exact ⟨_, built, accounts_of_lawful lives.lawful completed failed records⟩

/-- A machine with one card on which every command prints the sample table, and a store that takes every record. -/
def sampleWorld : MatrixWorld where
  spelling := sampleSpelling
  llamaBench := "llama-bench"
  capability := { binaryStatus := .available }
  listing _ := sampleListing
  call _ := sampleCall (.result (sampleResult sampleOutput 0))
  store := some fun events _ => .ok ("record-" ++ toString events.length)

/-- The example runs to its end. -/
lemma sampleWorld_runs : (matrixRun sampleWorld sampleMatrix).toOption.isSome = true := by
  decide +kernel

/-- The small matrix accounts for its two requests. -/
theorem matrixRun_accounts_sample :
    ∃ result events requests, matrixRun sampleWorld sampleMatrix = .ok (result, events) ∧
      buildRequests sampleMatrix = .ok (requests, result.skipped) ∧ requests.length = 2 ∧
      Accounts sampleMatrix requests result := by
  have some' := sampleWorld_runs
  cases ran : matrixRun sampleWorld sampleMatrix with
  | error raised =>
    rw [ran] at some'
    cases some'
  | ok made =>
    obtain ⟨requests, built, accounts⟩ := @matrixRun_accounts sampleWorld sampleMatrix made.2 made.1 ran
    have two : requests.length = 2 := by
      have count : (buildRequests sampleMatrix).toOption.map (·.1.length) = some 2 := by decide +kernel
      rw [built] at count
      exact Option.some.inj count
    exact ⟨made.1, made.2, requests, rfl, built, two, accounts⟩

end Accounts

section Log
variable {world : MatrixWorld} {matrix : BenchmarkMatrixRequest} {request : BenchmarkRequest}
variable {events after called opening : List MatrixEvent} {event : MatrixEvent} {fate : Fate} {fates : List Fate}
variable {result : BenchmarkMatrixResult}

/-- The request of a run. -/
def MatrixEvent.run : MatrixEvent → Option BenchmarkRequest
  | .ran request => some request
  | _ => none

/-- The record that is given to the store. -/
def MatrixEvent.record : MatrixEvent → Option MatrixRecord
  | .stored record => some record
  | _ => none

/-- Every run on another backend than the processor directly follows a listing that confirms its device. -/
def Confirmed (world : MatrixWorld) (matrix : BenchmarkMatrixRequest) (events : List MatrixEvent) : Prop :=
  ∀ before request after, events = before ++ .ran request :: after → request.backend ≠ .cpu →
    ∃ earlier, before = earlier ++ [.listed request.device] ∧
      confirmBenchmarkDevice world.spelling.repr (world.listing earlier) matrix.backendSelection request.device = .ok ()

/-- What stands in a list to which one thing was added. -/
lemma concat_eq_split {α : Type} {l before after : List α} {a b : α} (eq : l ++ [a] = before ++ b :: after) :
    (l = before ∧ a = b) ∨ ∃ rest, after = rest ++ [a] ∧ l = before ++ b :: rest := by
  rcases List.eq_nil_or_concat' after with rfl | ⟨rest, last, rfl⟩
  · exact .inl (List.append_singleton_inj.mp eq)
  · have split : l ++ [a] = before ++ b :: rest ++ [last] := by
      rw [eq, List.append_assoc, List.cons_append]
    obtain ⟨own, rfl⟩ := List.append_singleton_inj.mp split
    exact .inr ⟨rest, rfl, own⟩

/-- An event that is no run needs no confirmation. -/
lemma Confirmed.other (confirmed : Confirmed world matrix events) (none : event.run = none) :
    Confirmed world matrix (events ++ [event]) := by
  intro before request after eq other
  rcases concat_eq_split eq with ⟨-, rfl⟩ | ⟨rest, -, own⟩
  · cases none
  · exact confirmed before request rest own other

/-- A run that was opened was confirmed. -/
lemma Confirmed.ran (confirmed : Confirmed world matrix events) (opens : Opens world matrix events request opening) :
    Confirmed world matrix (events ++ opening ++ [.ran request]) := by
  cases opens with
  | cpu own =>
    intro before request' after eq other
    rw [List.append_nil] at eq
    rcases concat_eq_split eq with ⟨-, same⟩ | ⟨rest, -, eq⟩
    · cases same
      exact absurd own other
    · exact confirmed before request' rest eq other
  | confirmed other listed =>
    intro before request' after eq other'
    rcases concat_eq_split eq with ⟨rfl, same⟩ | ⟨rest, -, eq⟩
    · cases same
      exact ⟨events, rfl, listed⟩
    · exact confirmed.other rfl before request' rest eq other'

/-- What is done for a request keeps the log confirmed. -/
lemma Meets.confirmed (meets : Meets world matrix events fate called) (confirmed : Confirmed world matrix events) :
    Confirmed world matrix (events ++ called) := by
  have assoc : ∀ {opening rest : List MatrixEvent}, events ++ (opening ++ rest) = events ++ opening ++ rest :=
    (List.append_assoc _ _ _).symm
  cases meets with
  | unconfirmed other listed => exact confirmed.other rfl
  | raised opens ran =>
    rw [assoc]
    exact confirmed.ran opens
  | unstorable opens ran persist store =>
    rw [assoc]
    exact confirmed.ran opens
  | unstored opens ran persist store saved =>
    rw [assoc, List.append_cons]
    exact (confirmed.ran opens).other rfl
  | stored opens ran persist store saved =>
    rw [assoc, List.append_cons]
    exact (confirmed.ran opens).other rfl
  | kept opens ran persist =>
    rw [assoc]
    exact confirmed.ran opens

/-- Requests keep that every run was confirmed. -/
lemma Lives.confirmed (lives : Lives world matrix events fates after) (confirmed : Confirmed world matrix events) :
    Confirmed world matrix after := by
  induction lives with
  | nil => exact confirmed
  | cons meets _ ih => exact ih (meets.confirmed confirmed)

/-- Whether records are given to a store. -/
def stores (world : MatrixWorld) (matrix : BenchmarkMatrixRequest) : Bool :=
  matrix.persist && world.store.isSome

/-- What is done for requests: each is run at most once, what is recorded was run, and what is recorded is stored once
if it is to be. -/
structure Calls (world : MatrixWorld) (matrix : BenchmarkMatrixRequest) (requests : List BenchmarkRequest)
    (records : List MatrixRecord) (events : List MatrixEvent) : Prop where
  runs : (events.filterMap MatrixEvent.run).Sublist requests
  recorded : (records.map (·.request)).Sublist (events.filterMap MatrixEvent.run)
  stored : events.filterMap MatrixEvent.record = if stores world matrix then records else []

/-- Calls of some requests and then of others. -/
lemma Calls.append {requests requests' : List BenchmarkRequest} {records records' : List MatrixRecord}
    {events' : List MatrixEvent} (first : Calls world matrix requests records events)
    (second : Calls world matrix requests' records' events') :
    Calls world matrix (requests ++ requests') (records ++ records') (events ++ events') where
  runs := by
    rw [List.filterMap_append]
    exact first.runs.append second.runs
  recorded := by
    rw [List.filterMap_append, List.map_append]
    exact first.recorded.append second.recorded
  stored := by
    rw [List.filterMap_append, first.stored, second.stored]
    split_ifs
    · rfl
    · rfl

/-- Nothing is run or stored in an opening. -/
lemma Opens.silent (opens : Opens world matrix events request opening) :
    opening.filterMap MatrixEvent.run = [] ∧ opening.filterMap MatrixEvent.record = [] := by
  cases opens with
  | cpu own => exact ⟨rfl, rfl⟩
  | confirmed other listed => exact ⟨rfl, rfl⟩

/-- What a request calls. -/
lemma Meets.calls (meets : Meets world matrix events fate called) :
    Calls world matrix [fate.request] fate.record.toList called := by
  -- a run whose record is not written
  have unstored : ∀ {opening : List MatrixEvent} {request : BenchmarkRequest} {records : List MatrixRecord},
      Opens world matrix events request opening → (records.map (·.request)).Sublist [request] →
      (if stores world matrix then records else []) = [] →
      Calls world matrix [request] records (opening ++ [.ran request]) := by
    intro opening request records opens sub none
    obtain ⟨runs, records'⟩ := opens.silent
    have own : (opening ++ [MatrixEvent.ran request]).filterMap MatrixEvent.run = [request] := by
      rw [List.filterMap_append, runs]
      rfl
    refine ⟨?_, ?_, ?_⟩
    · rw [own]
    · rw [own]
      exact sub
    · rw [List.filterMap_append, records', none]
      rfl
  -- a run whose record is written behind it, whether or not that succeeds
  have stored : ∀ {opening : List MatrixEvent} {record : MatrixRecord},
      Opens world matrix events record.request opening → stores world matrix = true →
      Calls world matrix [record.request] [record] (opening ++ [.ran record.request, .stored record]) := by
    intro opening record opens all
    obtain ⟨runs, records⟩ := opens.silent
    have own : (opening ++ [MatrixEvent.ran record.request, .stored record]).filterMap MatrixEvent.run =
        [record.request] := by
      rw [List.filterMap_append, runs]
      rfl
    refine ⟨?_, ?_, ?_⟩
    · rw [own]
    · rw [own]
      exact List.Sublist.refl _
    · rw [List.filterMap_append, records, if_pos all]
      rfl
  cases meets with
  | unconfirmed other listed => exact ⟨List.nil_sublist _, List.Sublist.refl _, (ite_self []).symm⟩
  | raised opens ran => exact unstored opens (List.nil_sublist _) (ite_self [])
  | unstorable opens ran persist store =>
    have none : stores world matrix = false := by
      rw [stores, store, persist]
      rfl
    exact unstored opens (List.Sublist.refl _) (if_neg (Bool.eq_false_iff.mp none))
  | unstored opens ran persist store saved =>
    exact stored opens (by rw [stores, store, persist]; rfl)
  | stored opens ran persist store saved =>
    exact stored opens (by rw [stores, store, persist]; rfl)
  | kept opens ran persist =>
    have none : stores world matrix = false := by
      rw [stores, persist]
      rfl
    exact unstored opens (List.Sublist.refl _) (if_neg (Bool.eq_false_iff.mp none))

/-- What the requests call. -/
lemma Lives.calls (lives : Lives world matrix events fates after) :
    ∃ tail, after = events ++ tail ∧
      Calls world matrix (fates.map Fate.request) (fates.filterMap Fate.record) tail := by
  induction lives with
  | nil => exact ⟨[], (List.append_nil _).symm, List.Sublist.refl _, List.Sublist.refl _, (ite_self []).symm⟩
  | @cons events called after fate fates meets _ ih =>
    obtain ⟨tail, rfl, calls⟩ := ih
    refine ⟨called ++ tail, List.append_assoc _ _ _, ?_⟩
    have split : (fate :: fates).filterMap Fate.record = fate.record.toList ++ fates.filterMap Fate.record := by
      rw [List.filterMap_cons]
      cases fate.record with
      | none => rfl
      | some record => rfl
    rw [split]
    exact meets.calls.append calls

/-- The store answered with a path when it was given a record. -/
def StoredAt (world : MatrixWorld) (events : List MatrixEvent) (record : MatrixRecord) (path : String) : Prop :=
  ∃ save before after, world.store = some save ∧ events = before ++ .stored record :: after ∧
    save before record = .ok path

/-- What was stored stays stored. -/
lemma StoredAt.append {record : MatrixRecord} {path : String} (stored : StoredAt world events record path)
    (more : List MatrixEvent) : StoredAt world (events ++ more) record path := by
  obtain ⟨save, before, after, store, rfl, answer⟩ := stored
  refine ⟨save, before, after ++ more, store, ?_, answer⟩
  rw [List.append_assoc, List.cons_append]

/-- A record with a path was stored there. -/
lemma Meets.storedAt {record : MatrixRecord} {path : String}
    (meets : Meets world matrix events (.ended record (some path)) called) :
    StoredAt world (events ++ called) record path := by
  cases meets with
  | @stored record opening path save opens ran persist store saved =>
    refine ⟨save, _, [], store, ?_, saved⟩
    simp

/-- So was each of them in a run. -/
lemma Lives.storedAt (lives : Lives world matrix events fates after) {record : MatrixRecord} {path : String}
    (mem : Fate.ended record (some path) ∈ fates) : StoredAt world after record path := by
  induction lives with
  | nil => cases mem
  | cons meets rest ih =>
    rcases List.mem_cons.mp mem with rfl | later
    · obtain ⟨tail, rfl, -⟩ := rest.calls
      exact meets.storedAt.append tail
    · exact ih later

/-- A matrix starts llama-bench at most once for each request, and on another backend than the processor only right
after llama-bench itself listed the device. Every record is given to the store once, if there is one and the matrix
asks for it, and a completed run has the path that the store answered with. -/
theorem matrixRun_calls (ran : matrixRun world matrix = .ok (result, events)) :
    Confirmed world matrix events ∧
      (∃ requests, buildRequests matrix = .ok (requests, result.skipped) ∧
        Calls world matrix requests result.records events) ∧
      ∀ run ∈ result.completed, ∀ path ∈ run.persistedPath, StoredAt world events run.record path := by
  obtain ⟨requests, fates, built, rfl, lives, completed, -, records⟩ := matrixRun_lives ran
  refine ⟨?_, ⟨_, built, ?_⟩, ?_⟩
  · apply lives.confirmed
    intro before request after eq
    exact absurd eq.symm (by simp)
  · obtain ⟨tail, rfl, calls⟩ := lives.calls
    rw [records]
    exact calls
  · intro run mem path stored
    rw [completed] at mem
    obtain ⟨fate, own, some'⟩ := List.mem_filterMap.mp mem
    apply lives.storedAt
    cases fate with
    | refused request message => cases some'
    | unstored record message => cases some'
    | ended record path' =>
      rw [Fate.completed] at some'
      split_ifs at some'
      cases some'
      rw [← Option.mem_def.mp stored]
      exact own

/-- The small matrix runs on the card after it was confirmed. -/
theorem matrixRun_calls_sample :
    ∃ result events, matrixRun sampleWorld sampleMatrix = .ok (result, events) ∧
      Confirmed sampleWorld sampleMatrix events ∧
      (∃ requests, buildRequests sampleMatrix = .ok (requests, result.skipped) ∧
        Calls sampleWorld sampleMatrix requests result.records events) ∧
      ∀ run ∈ result.completed, ∀ path ∈ run.persistedPath, StoredAt sampleWorld events run.record path := by
  have some' := sampleWorld_runs
  cases ran : matrixRun sampleWorld sampleMatrix with
  | error raised =>
    rw [ran] at some'
    cases some'
  | ok made => exact ⟨made.1, made.2, rfl, @matrixRun_calls sampleWorld sampleMatrix made.2 made.1 ran⟩

end Log
end Jaull.Benchmarks
