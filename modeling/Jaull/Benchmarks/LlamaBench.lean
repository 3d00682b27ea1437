import Jaull.Execution.Host
import Jaull.Runtime.BenchProtocol
import Jaull.Runtime.BenchTable
import Jaull.Runtime.DeviceMatching
import Jaull.Runtime.Recommend

/-!
# Runs of llama-bench

Port of `jaull/runtime/llama_bench_runner.py`, of the requests and observations of `jaull/domain/benchmarks.py`, and of
`confirm_benchmark_device` of `jaull/runtime/llama_bench_capability.py`. A run is a success when llama-bench ended well
and its table measures every size that was asked for; a table that is printed in its own layout is read as it was
printed.
-/

namespace Jaull.Benchmarks
open Jaull.Domain Jaull.Evaluation Jaull.Execution Jaull.Lib Jaull.Runtime Jaull.Text

section Requests

/-- Python `ModelArtifact`, with where its file lies. -/
structure LocalArtifact extends ModelArtifact where
  localPath : Option String := none
  isDownloaded : Bool := false
  isVerified : Bool := false
  deriving DecidableEq, Repr

/-- Python `BenchmarkRequest`, with its validators. -/
structure BenchmarkRequest where
  artifact : LocalArtifact
  runtime : LaunchRecommendation
  backend : ComputeBackend
  device : Option String := none
  gpuLayers : BenchmarkGpuLayers := .count 0
  contextLength : Option ℤ := none
  prefillSizes : List ℤ := [128, 512, 2048]
  generationSizes : List ℤ := [128]
  repetitions : ℤ := 5
  timeoutSeconds : ℚ := 900
  notes : List String := []
  context_pos : ∀ length ∈ contextLength, 0 < length
  prefill_some : prefillSizes ≠ []
  prefill_pos : ∀ size ∈ prefillSizes, 0 < size
  generation_some : generationSizes ≠ []
  generation_pos : ∀ size ∈ generationSizes, 0 < size
  repetitions_pos : 1 ≤ repetitions
  timeout_pos : 0 < timeoutSeconds
  cpu : backend = .cpu → (device = none ∨ device = some "none") ∧ gpuLayers = .count 0

/-- Python `BenchmarkFailureReason`. -/
inductive BenchmarkFailureReason
  | executableNotFound | spawnError | timeout | nonZeroExit | parseError | notRunnable
  deriving DecidableEq, Repr

/-- Python `BenchmarkObservation`, with why a run failed. -/
structure RunObservation extends BenchmarkObservation where
  durationSeconds : ℚ
  failureReason : Option BenchmarkFailureReason := none
  message : Option String := none
  deriving DecidableEq, Repr

/-- Python `BenchmarkRunnerError` and its subclasses. -/
inductive BenchmarkError
  | configuration (message : String)
  | unavailable (message : String)
  | runner (message : String)
  deriving DecidableEq, Repr

/-- The text of an error. -/
def BenchmarkError.message : BenchmarkError → String
  | .configuration message => message
  | .unavailable message => message
  | .runner message => message

/-- What a run raises: a benchmark error, or an exception of reading the protocol. -/
inductive BenchmarkRaise
  | benchmark (error : BenchmarkError)
  | python (error : PyError)
  deriving DecidableEq, Repr

end Requests

section Command

/-- Python `LLAMA_BENCH_V2`. -/
def llamaBenchV2 : String :=
  "llama_bench_v2"

/-- Python `LLAMA_BENCH_V2_FLAGS`. -/
def llamaBenchV2Flags : List String :=
  ["-b", "512", "-ub", "512", "-fa", "off", "-ctk", "f16", "-ctv", "f16", "-lm", "mmap"]

/-- How Python spells values: `repr` of a text, `shlex.join`, `json.loads`, and the text of an exception that parsing a
table raises. -/
structure Spelling where
  repr : String → String
  shellJoin : List String → String
  loads : PyString → Decoded
  tableError : BenchTableError → String

/-- What a command comes to: a result, or an error of the execution backend. -/
inductive BackendOutcome
  | result (result : ExecutionResult)
  | executableNotFound (text : String)
  | timeout (text : String) (result : Option ExecutionResult)
  | failed (text : String) (result : ExecutionResult)
  /-- Any other `ExecutionError`. -/
  | other (text : String) (observation : Option ExecutionObservation)

/-- What the host backend answers, as the runner tells it apart. -/
def BackendOutcome.ofHost : HostOutcome → BackendOutcome
  | .result ended => .result ended
  | .executableNotFound text _ => .executableNotFound text
  | .spawnError text observation => .other text (some observation)
  | .timeout text ended => .timeout text (some ended)
  | .failed text ended => .failed text ended

/-- Of a command that was waited for the runner sees a result exactly when the host observed a success. -/
lemma BackendOutcome.ofHost_conclude {env : HostEnv} {backend : HostExecutionBackend} {request : ExecutionRequest}
    {start : ℚ} {output : Output} {timedOut : Bool} {state : HostState} :
    (∃ ended, .ofHost (conclude env backend request start output timedOut state) = BackendOutcome.result ended) ↔
      (conclude env backend request start output timedOut state).observation.success = true := by
  rw [conclude]
  split_ifs
  · exact iff_of_false (fun ⟨_, wrong⟩ => nomatch wrong) Bool.false_ne_true
  · exact iff_of_true ⟨_, rfl⟩ rfl
  · exact iff_of_false (fun ⟨_, wrong⟩ => nomatch wrong) Bool.false_ne_true

/-- What one run meets: the number of physical cores, the files there are, and what the command comes to. -/
structure BenchCall where
  cores : Option ℕ
  isFile : String → Bool
  execute : List String → ℚ → BackendOutcome

/-- Python `physical_core_threads`. -/
def physicalCoreThreads (cores : Option ℕ) : Except BenchmarkError ℕ :=
  match cores with
  | none => .error (.configuration "Physical core count is unknown; llama_bench_v2 fixes threads to it.")
  | some count =>
    if count = 0 then
      .error (.configuration "Physical core count is unknown; llama_bench_v2 fixes threads to it.")
    else .ok count

/-- Python `_validate_artifact`. -/
def validateArtifact (spelling : Spelling) (isFile : String → Bool) (artifact : LocalArtifact) :
    Except BenchmarkError String :=
  if lower artifact.format ≠ "gguf" then
    .error (.configuration ("llama-bench only supports GGUF artifacts, got " ++ spelling.repr artifact.format ++ "."))
  else
    match artifact.localPath with
    | none => .error (.configuration "Artifact has no local_path.")
    | some path =>
      if !artifact.isDownloaded then .error (.configuration "Artifact must be downloaded before benchmark.")
      else if !artifact.isVerified then .error (.configuration "Artifact must be verified before benchmark.")
      else if !isFile path then .error (.configuration ("Artifact file does not exist: " ++ path ++ "."))
      else .ok path

/-- Python `_device_arg`. -/
def deviceArg (request : BenchmarkRequest) : Except BenchmarkError String :=
  if request.backend = .cpu then .ok "none"
  else
    match truthy request.device with
    | none => .error (.configuration (request.backend.value ++ " benchmark requires a runtime device id."))
    | some device => .ok device

/-- Python `_gpu_layers_arg`. -/
def gpuLayersArg : BenchmarkGpuLayers → String
  | .fullOffload => "-1"
  | .count layers => toString layers

/-- Python `build_llama_bench_command`. -/
def buildLlamaBenchCommand (spelling : Spelling) (isFile : String → Bool) (llamaBench : String)
    (request : BenchmarkRequest) (threads : ℕ) : Except BenchmarkError (List String) := do
  let modelPath ← validateArtifact spelling isFile request.artifact
  let device ← deviceArg request
  return [llamaBench, "-m", modelPath, "-dev", device, "-ngl", gpuLayersArg request.gpuLayers, "-p",
    ",".intercalate (request.prefillSizes.map toString), "-n",
    ",".intercalate (request.generationSizes.map toString), "-r", toString request.repetitions] ++
    llamaBenchV2Flags ++ ["-t", toString threads, "-oe", "jsonl"]

end Command

section Running
variable (spelling : Spelling)

/-- Python `_last_useful_line`. -/
def lastUsefulLine (text : String) : Option String :=
  ((splitLines text).reverse.map (trim isSpace)).find? (· ≠ []) |>.map String.ofList

/-- Python `_failure_message`. -/
def failureMessage (command : List String) (exitCode : Option ℤ) (message stdout stderr : String) : String :=
  "\n".intercalate
    ([message, "argv: " ++ spelling.shellJoin command,
      "exit_code: " ++ (exitCode.map fun code => toString code).getD "unknown"] ++
      ((lastUsefulLine stderr).map ("stderr: " ++ ·)).toList ++
      ((lastUsefulLine stdout).map ("stdout: " ++ ·)).toList)

/-- Python `_failed_observation`, of an execution with its output. -/
def failedObservation (command : List String) (request : BenchmarkRequest) (reason : BenchmarkFailureReason)
    (message stdout stderr : String) (execution : ExecutionObservation) : RunObservation where
  success := false
  repetitions := request.repetitions
  methodology := some llamaBenchV2
  peakRamBytes := execution.peakRamBytes.map fun bytes => (bytes : ℤ)
  peakVramBytes := execution.peakVramBytes.map fun bytes => (bytes : ℤ)
  command := command
  exitCode := execution.exitCode
  rawStdout := stdout
  rawStderr := stderr
  durationSeconds := execution.durationSeconds
  failureReason := some reason
  message := some (failureMessage spelling command execution.exitCode message stdout stderr)

/-- Python `_failed_observation`, of a result. -/
def failedResult (command : List String) (request : BenchmarkRequest) (reason : BenchmarkFailureReason)
    (message : String) (result : ExecutionResult) : RunObservation :=
  failedObservation spelling command request reason message result.stdout result.stderr result.observation

/-- Python `_benchmark_failure_reason`. -/
def benchmarkFailureReason : Option ExecutionFailureReason → BenchmarkFailureReason
  | some .executableNotFound => .executableNotFound
  | some .spawnError => .spawnError
  | some .timeout => .timeout
  | some .nonZeroExit => .nonZeroExit
  | none => .spawnError

/-- The sizes a request asks for, in the order of `expected`. -/
def expectedSizes (request : BenchmarkRequest) : List (BenchmarkMeasurementKind × ℤ) :=
  request.prefillSizes.map (BenchmarkMeasurementKind.prefill, ·) ++
    request.generationSizes.map (BenchmarkMeasurementKind.generation, ·)

/-- The label of a size. -/
def sizeLabel (size : BenchmarkMeasurementKind × ℤ) : String :=
  String.ofList (kindMark size.1) ++ toString size.2

/-- The sizes that no measurement has. -/
def missingSizes (request : BenchmarkRequest) (measurements : List TableMeasurement) :
    List (BenchmarkMeasurementKind × ℤ) :=
  (expectedSizes request).filter fun size =>
    !measurements.any fun measurement => measurement.kind = size.1 && measurement.tokens = size.2

/-- The observation of a run that measured every size. -/
def successObservation (command : List String) (request : BenchmarkRequest) (result : ExecutionResult)
    (measurements : List TableMeasurement) (protocol : Option LlamaBenchProtocol) : RunObservation where
  success := true
  measurements := measurements.map (·.toBenchmarkMeasurement)
  repetitions := request.repetitions
  methodology := some llamaBenchV2
  -- a run whose settings are missing or others is kept: whether records compare is decided elsewhere
  protocol := protocol.map fun reported => { reported with threadPolicy := some "physical_cores" }
  peakRamBytes := result.observation.peakRamBytes.map fun bytes => (bytes : ℤ)
  peakVramBytes := result.observation.peakVramBytes.map fun bytes => (bytes : ℤ)
  command := command
  exitCode := result.observation.exitCode
  rawStdout := result.stdout
  rawStderr := result.stderr
  durationSeconds := result.observation.durationSeconds

/-- What a run that ended well observed. -/
def observeResult (command : List String) (request : BenchmarkRequest) (result : ExecutionResult) :
    Except PyError RunObservation :=
  let rawOutput := result.stdout ++ "\n" ++ result.stderr
  match parseLlamaBenchOutput spelling.repr (some request.repetitions) rawOutput with
  | .error error => .ok (failedResult spelling command request .parseError (spelling.tableError error) result)
  | .ok measurements =>
    let missing := missingSizes request measurements
    if missing = [] then do
      let protocol ← parseLlamaBenchProtocol spelling.loads rawOutput (some (!command.contains "--no-warmup"))
      return successObservation command request result measurements protocol
    else
      .ok (failedResult spelling command request .parseError
        ("Incomplete llama-bench output: missing requested measurements: " ++
          ", ".intercalate (missing.map sizeLabel)) result)

/-- What a command comes to, as an observation or an error. -/
def observeOutcome (command : List String) (request : BenchmarkRequest) :
    BackendOutcome → Except BenchmarkRaise RunObservation
  | .executableNotFound text => .error (.benchmark (.unavailable text))
  | .timeout text none => .error (.benchmark (.runner text))
  | .timeout text (some result) => .ok (failedResult spelling command request .timeout text result)
  | .failed text result => .ok (failedResult spelling command request .nonZeroExit text result)
  | .other text none => .error (.benchmark (.runner text))
  | .other text (some observation) =>
    .ok (failedObservation spelling command request (benchmarkFailureReason observation.failureReason) text "" ""
      observation)
  | .result result => (observeResult spelling command request result).mapError .python

/-- Python `LlamaBenchRunner.run`. -/
def runLlamaBench (llamaBench : String) (call : BenchCall) (request : BenchmarkRequest) :
    Except BenchmarkRaise RunObservation := do
  let threads ← (physicalCoreThreads call.cores).mapError BenchmarkRaise.benchmark
  let command ← (buildLlamaBenchCommand spelling call.isFile llamaBench request threads).mapError
    BenchmarkRaise.benchmark
  observeOutcome spelling command request (call.execute command request.timeoutSeconds)

end Running

section Devices

/-- Python `LlamaCppBackendCapabilityState`. -/
inductive LlamaCppBackendCapabilityState
  | confirmed | notObserved | unknown
  deriving DecidableEq, Repr

/-- Python `LlamaCppBackendCapability`. -/
structure LlamaCppBackendCapability where
  backend : ComputeBackend
  state : LlamaCppBackendCapabilityState
  devices : List LlamaCppRuntimeDevice := []
  deriving DecidableEq, Repr

/-- Python `LlamaCppBinaryStatus`. -/
inductive LlamaCppBinaryStatus
  | available | missing | notExecutable | probeFailed | unknown
  deriving DecidableEq, Repr

/-- The stored value of a status. -/
def LlamaCppBinaryStatus.value : LlamaCppBinaryStatus → String
  | .available => "available"
  | .missing => "missing"
  | .notExecutable => "not_executable"
  | .probeFailed => "probe_failed"
  | .unknown => "unknown"

/-- Python `LlamaCppRuntimeCapability`. -/
structure LlamaCppRuntimeCapability where
  binaryStatus : LlamaCppBinaryStatus
  backendCapabilities : List LlamaCppBackendCapability := []
  message : Option String := none
  deriving DecidableEq, Repr

/-- The device of a confirmed backend that is the selected one. -/
def confirmedDevice (capability : LlamaCppRuntimeCapability) (selection : RuntimeBackendSelection) :
    Option LlamaCppRuntimeDevice :=
  (capability.backendCapabilities.find? fun item =>
    item.backend = selection.selectedBackend && item.state = .confirmed).bind
      fun item => (matchRuntimeDevice selection item.devices).device

/-- Python `confirm_benchmark_device`, of what the program itself lists. -/
def confirmBenchmarkDevice (repr : String → String) (capability : LlamaCppRuntimeCapability)
    (selection : RuntimeBackendSelection) (device : Option String) : Except BenchmarkError Unit :=
  let matched := confirmedDevice capability selection
  if capability.binaryStatus = .available ∧ matched ≠ none ∧ matched.map (·.runtimeId) = device then .ok ()
  else
    .error (.configuration ("The selected device " ++ (device.map repr).getD "None" ++
      " is not confirmed by llama-bench's own --list-devices (matched: " ++
      (matched.map (·.runtimeId)).getD "none" ++ "; probe: " ++
      (truthy capability.message).getD capability.binaryStatus.value ++
      "). Reprepare the execution path; no model was launched."))

end Devices

section Observations
variable {spelling : Spelling} {command : List String} {request : BenchmarkRequest} {result : ExecutionResult}
variable {observation : RunObservation} {measurements : List TableMeasurement}

/-- No size is missing when every expected one was measured. -/
lemma missingSizes_eq_nil :
    missingSizes request measurements = [] ↔ ∀ size ∈ expectedSizes request,
      ∃ measurement ∈ measurements, measurement.kind = size.1 ∧ measurement.tokens = size.2 := by
  rw [missingSizes, List.filter_eq_nil_iff]
  constructor
  · intro none size mem
    have found := none size mem
    rw [Bool.not_eq_true', Bool.not_eq_false, List.any_eq_true] at found
    obtain ⟨measurement, own, same⟩ := found
    rw [Bool.and_eq_true, decide_eq_true_eq, decide_eq_true_eq] at same
    exact ⟨measurement, own, same⟩
  · intro all size mem
    obtain ⟨measurement, own, same⟩ := all size mem
    rw [Bool.not_eq_true', Bool.not_eq_false, List.any_eq_true]
    refine ⟨measurement, own, ?_⟩
    rw [Bool.and_eq_true, decide_eq_true_eq, decide_eq_true_eq]
    exact same

/-- A request asks for something. -/
lemma expectedSizes_ne_nil (request : BenchmarkRequest) : expectedSizes request ≠ [] := by
  intro none
  rw [expectedSizes, List.append_eq_nil_iff, List.map_eq_nil_iff] at none
  exact request.prefill_some none.1

/-- What is true of every observation of a request: a success measures every size that was asked for and has no
reason to have failed, and a failure has a reason and measures nothing. -/
structure Observes (command : List String) (request : BenchmarkRequest) (observation : RunObservation) : Prop where
  command : observation.command = command
  repetitions : observation.repetitions = request.repetitions
  methodology : observation.methodology = some llamaBenchV2
  complete : observation.success = true → observation.failureReason = none ∧ ∀ size ∈ expectedSizes request,
    ∃ measurement ∈ observation.measurements, measurement.kind = size.1 ∧ measurement.tokens = size.2
  failed : observation.success = false → observation.failureReason ≠ none ∧ observation.measurements = []

/-- A failure is an observation of the request. -/
lemma observes_failed (reason : BenchmarkFailureReason) (message stdout stderr : String)
    (execution : ExecutionObservation) : Observes command request
      (failedObservation spelling command request reason message stdout stderr execution) where
  command := rfl
  repetitions := rfl
  methodology := rfl
  complete success := by cases success
  failed _ := ⟨Option.some_ne_none _, rfl⟩

/-- So is a table that measures every size. -/
lemma observes_success {protocol : Option LlamaBenchProtocol} (all : missingSizes request measurements = []) :
    Observes command request (successObservation command request result measurements protocol) where
  command := rfl
  repetitions := rfl
  methodology := rfl
  complete _ := by
    refine ⟨rfl, ?_⟩
    intro size mem
    obtain ⟨measurement, own, same⟩ := missingSizes_eq_nil.mp all size mem
    exact ⟨measurement.toBenchmarkMeasurement, List.mem_map_of_mem own, same⟩
  failed failure := by cases failure

/-- What a result says: a table that measures every size of the request. -/
def Measures (spelling : Spelling) (request : BenchmarkRequest) (result : ExecutionResult)
    (measurements : List TableMeasurement) : Prop :=
  parseLlamaBenchOutput spelling.repr (some request.repetitions) (result.stdout ++ "\n" ++ result.stderr) =
      .ok measurements ∧
    ∀ size ∈ expectedSizes request,
      ∃ measurement ∈ measurements, measurement.kind = size.1 ∧ measurement.tokens = size.2

/-- A result is observed as a success exactly when its table measures every size, and then as its table says. -/
lemma observeResult_ok (observed : observeResult spelling command request result = .ok observation) :
    Observes command request observation ∧
      (observation.success = true ↔ ∃ measurements, Measures spelling request result measurements) ∧
      ∀ measurements, Measures spelling request result measurements →
        observation.measurements = measurements.map (·.toBenchmarkMeasurement) := by
  rw [observeResult] at observed
  cases parsed : parseLlamaBenchOutput spelling.repr (some request.repetitions)
      (result.stdout ++ "\n" ++ result.stderr) with
  | error error =>
    rw [parsed] at observed
    cases observed
    have none : ∀ measurements, ¬Measures spelling request result measurements := by
      rintro measurements ⟨other, -⟩
      rw [parsed] at other
      cases other
    refine ⟨observes_failed _ _ _ _ _, ?_, fun measurements measures => absurd measures (none _)⟩
    constructor
    · intro success
      cases success
    · rintro ⟨measurements, measures⟩
      exact absurd measures (none _)
  | ok measurements =>
    rw [parsed] at observed
    dsimp only at observed
    have only : ∀ other, Measures spelling request result other →
        other = measurements ∧ missingSizes request measurements = [] := by
      rintro other ⟨same, all⟩
      rw [parsed] at same
      cases same
      exact ⟨rfl, missingSizes_eq_nil.mpr all⟩
    split_ifs at observed with all
    · obtain ⟨protocol, -, made⟩ := bind_eq_ok.mp observed
      cases made
      refine ⟨observes_success all, ?_, ?_⟩
      · exact ⟨fun _ => ⟨measurements, parsed, missingSizes_eq_nil.mp all⟩, fun _ => rfl⟩
      · intro other measures
        rw [(only other measures).1]
        rfl
    · cases observed
      refine ⟨observes_failed _ _ _ _ _, ?_, fun other measures => absurd (only other measures).2 all⟩
      constructor
      · intro success
        cases success
      · rintro ⟨other, measures⟩
        exact absurd (only other measures).2 all

/-- Whatever a command comes to, what is observed is a success that measures every size or a failure with a reason. -/
lemma observeOutcome_ok {outcome : BackendOutcome}
    (observed : observeOutcome spelling command request outcome = .ok observation) :
    Observes command request observation ∧ (observation.success = true → ∃ result, outcome = .result result) := by
  have failing : ∀ {other : RunObservation}, Observes command request other → other.success = false →
      Observes command request other ∧ (other.success = true → ∃ result, outcome = .result result) := by
    intro other observes failure
    refine ⟨observes, ?_⟩
    rw [failure]
    intro success
    cases success
  cases outcome with
  | executableNotFound text => cases observed
  | timeout text result =>
    cases result with
    | none => cases observed
    | some result =>
      cases observed
      exact failing (observes_failed _ _ _ _ _) rfl
  | failed text result =>
    cases observed
    exact failing (observes_failed _ _ _ _ _) rfl
  | other text execution =>
    cases execution with
    | none => cases observed
    | some execution =>
      cases observed
      exact failing (observes_failed _ _ _ _ _) rfl
  | result result =>
    rw [observeOutcome] at observed
    cases made : observeResult spelling command request result with
    | error error =>
      rw [made] at observed
      cases observed
    | ok other =>
      rw [made] at observed
      cases observed
      exact ⟨(observeResult_ok made).1, fun _ => ⟨result, rfl⟩⟩

end Observations

section Runs
variable {spelling : Spelling} {llamaBench : String} {call : BenchCall} {request : BenchmarkRequest}
variable {observation : RunObservation} {command : List String} {threads : ℕ} {result : ExecutionResult}

/-- Renaming the error leaves a result alone. -/
lemma mapError_eq_ok {ε ε' α : Type} {checked : Except ε α} {raise : ε → ε'} {a : α}
    (ended : checked.mapError raise = .ok a) : checked = .ok a := by
  cases checked with
  | error error => cases ended
  | ok made =>
    cases ended
    rfl

/-- A run that returns planned its threads and command, and observed what the backend answered. -/
lemma runLlamaBench_ok (ran : runLlamaBench spelling llamaBench call request = .ok observation) :
    ∃ threads command, physicalCoreThreads call.cores = .ok threads ∧
      buildLlamaBenchCommand spelling call.isFile llamaBench request threads = .ok command ∧
      observeOutcome spelling command request (call.execute command request.timeoutSeconds) = .ok observation := by
  rw [runLlamaBench] at ran
  obtain ⟨threads, cores, ran⟩ := bind_eq_ok.mp ran
  obtain ⟨command, built, ran⟩ := bind_eq_ok.mp ran
  exact ⟨threads, command, mapError_eq_ok cores, mapError_eq_ok built, ran⟩

/-- A run that does not raise starts one command, for the physical cores and a verified file. What it observes is a
success exactly when the command ended well and printed a table that measures every size of the request. -/
theorem runLlamaBench_observes (ran : runLlamaBench spelling llamaBench call request = .ok observation) :
    ∃ threads command, physicalCoreThreads call.cores = .ok threads ∧
      buildLlamaBenchCommand spelling call.isFile llamaBench request threads = .ok command ∧
      Observes command request observation ∧
      (observation.success = true ↔ ∃ result measurements,
        call.execute command request.timeoutSeconds = .result result ∧
          Measures spelling request result measurements) ∧
      ∀ result measurements, call.execute command request.timeoutSeconds = .result result →
        Measures spelling request result measurements →
          observation.measurements = measurements.map (·.toBenchmarkMeasurement) := by
  obtain ⟨threads, command, cores, built, ended⟩ := runLlamaBench_ok ran
  obtain ⟨observes, result_of_success⟩ := observeOutcome_ok ended
  have own : ∀ result, call.execute command request.timeoutSeconds = .result result →
      observeResult spelling command request result = .ok observation := by
    intro result executed
    rw [executed, observeOutcome] at ended
    exact mapError_eq_ok ended
  refine ⟨threads, command, cores, built, observes, ?_, ?_⟩
  · constructor
    · intro success
      obtain ⟨result, executed⟩ := result_of_success success
      obtain ⟨measurements, measures⟩ := (observeResult_ok (own result executed)).2.1.mp success
      exact ⟨result, measurements, executed, measures⟩
    · rintro ⟨result, measurements, executed, measures⟩
      exact (observeResult_ok (own result executed)).2.1.mpr ⟨measurements, measures⟩
  · intro result measurements executed measures
    exact (observeResult_ok (own result executed)).2.2 measurements measures

/-- A request for one prompt and one generation on the processor. -/
def sampleRequest : BenchmarkRequest where
  artifact :=
    { repoId := "org/model"
      revision := "main"
      filename := "model.gguf"
      format := "gguf"
      localPath := some "/models/model.gguf"
      isDownloaded := true
      isVerified := true }
  runtime := { runtime := .llamaCpp, confidence := .high }
  backend := .cpu
  prefillSizes := [512]
  generationSizes := [128]
  context_pos length mem := by cases mem
  prefill_some := List.cons_ne_nil _ _
  prefill_pos size mem := by rw [List.mem_singleton.mp mem]; decide
  generation_some := List.cons_ne_nil _ _
  generation_pos size mem := by rw [List.mem_singleton.mp mem]; decide
  repetitions_pos := by decide
  timeout_pos := show (0 : ℚ) < 900 by decide
  cpu _ := ⟨.inl rfl, rfl⟩

/-- Texts as they stand, and no line that is JSON. -/
def sampleSpelling : Spelling where
  repr := id
  shellJoin := " ".intercalate
  loads _ := .malformed "Expecting value"
  tableError _ := "not a table"

/-- A machine of six cores on which a command comes to one outcome. -/
def sampleCall (outcome : BackendOutcome) : BenchCall where
  cores := some 6
  isFile _ := true
  execute _ _ := outcome

/-- A process that wrote a text and ended with an exit code. -/
def sampleResult (stdout : String) (exitCode : ℤ) : ExecutionResult where
  stdout := stdout
  stderr := ""
  observation :=
    { success := exitCode = 0
      durationSeconds := 1
      exitCode := some exitCode }

/-- The table of a run: a row for the prompt and one for the generation. -/
def sampleBody : List BodyLine :=
  [.row (sampleRow (.single .prefill 512)), .row (sampleRow (.single .generation 128))]

/-- The table as it is printed. -/
def sampleOutput : String :=
  benchOutput (fun _ text => (3, text.length)) (fun _ => "--:".toList) sampleTitles ["loading".toList] sampleBody

/-- A run that prints both rows is a success with the measurements of the table. -/
lemma sampleOutput_measured : ((runLlamaBench sampleSpelling "llama-bench" (sampleCall (.result (sampleResult
    sampleOutput 0))) sampleRequest).toOption.map (·.success)) = some true := by
  decide +kernel

/-- A run whose command fails is observed as a failure with a reason, and one that prints both rows as a success with
the measurements of the table. -/
theorem runLlamaBench_observes_sample :
    (∃ observation,
      runLlamaBench sampleSpelling "llama-bench" (sampleCall (.failed "exit code 1" (sampleResult "" 1)))
          sampleRequest = .ok observation ∧
        observation.failureReason ≠ none ∧ observation.measurements = []) ∧
    ∃ observation measurements,
      runLlamaBench sampleSpelling "llama-bench" (sampleCall (.result (sampleResult sampleOutput 0))) sampleRequest =
          .ok observation ∧
        observation.success = true ∧ Measures sampleSpelling sampleRequest (sampleResult sampleOutput 0) measurements ∧
        observation.measurements = measurements.map (·.toBenchmarkMeasurement) := by
  constructor
  · cases ran : runLlamaBench sampleSpelling "llama-bench" (sampleCall (.failed "exit code 1" (sampleResult "" 1)))
        sampleRequest with
    | error error => cases ran
    | ok observation =>
      have failure : observation.success = false := by
        cases ran
        rfl
      obtain ⟨_, _, -, -, observes, -⟩ := runLlamaBench_observes ran
      exact ⟨observation, rfl, observes.failed failure⟩
  · have good := sampleOutput_measured
    cases ran : runLlamaBench sampleSpelling "llama-bench" (sampleCall (.result (sampleResult sampleOutput 0)))
        sampleRequest with
    | error error =>
      rw [ran] at good
      cases good
    | ok observation =>
      rw [ran] at good
      have success : observation.success = true := Option.some.inj good
      obtain ⟨_, _, -, -, -, measured, same⟩ := runLlamaBench_observes ran
      obtain ⟨result, measurements, executed, measures⟩ := measured.mp success
      cases executed
      exact ⟨observation, measurements, rfl, success, measures, same _ _ rfl measures⟩

/-- What llama-bench prints: a table among other lines on one stream, and lines without a bar on the other. -/
structure Prints (pad : List Char → List Char → ℕ × ℕ) (rule : List Char → List Char)
    (titles before : List (List Char)) (body : List BodyLine) (logs : List (List Char)) (result : ExecutionResult) :
    Prop where
  printed : Printed titles before rule
  fits : ∀ line ∈ body, line.Fits titles
  beside : ∀ line ∈ logs, LogLine line
  stdout : result.stdout = benchOutput pad rule titles before body
  stderr : result.stderr = String.ofList (writeLines logs)

/-- A row of the table tests a size. -/
def Tests (body : List BodyLine) (size : BenchmarkMeasurementKind × ℤ) : Prop :=
  ∃ row n, BodyLine.row row ∈ body ∧ row.test = .single size.1 n ∧ (n : ℤ) = size.2

variable {pad : List Char → List Char → ℕ × ℕ} {rule : List Char → List Char} {titles before : List (List Char)}
variable {body : List BodyLine} {logs : List (List Char)} {repetitions : Option ℤ}

/-- A blank line, and the lines of the other stream. -/
def logLines (logs : List (List Char)) : List BodyLine :=
  BodyLine.log [] :: logs.map BodyLine.log

/-- The two streams together are a longer output of the same table. -/
lemma Prints.output (prints : Prints pad rule titles before body logs result) :
    result.stdout ++ "\n" ++ result.stderr = benchOutput pad rule titles before (body ++ logLines logs) := by
  apply String.toList_injective
  have tail : (logLines logs).map (·.write pad titles) = [] :: logs := by
    rw [logLines, List.map_cons, List.map_map]
    have same : (BodyLine.write pad titles ∘ BodyLine.log) = id := rfl
    rw [same, List.map_id]
    rfl
  rw [String.toList_append, String.toList_append, prints.stdout, prints.stderr, benchOutput, benchOutput,
    List.map_append, tail]
  simp only [String.toList_ofList, writeLines, List.flatMap_append, List.flatMap_cons, List.append_assoc,
    List.nil_append]
  rfl

/-- Log lines measure nothing. -/
lemma filterMap_logLines : (body ++ logLines logs).filterMap (·.measured titles repetitions) =
    body.filterMap (·.measured titles repetitions) := by
  have none : (logLines logs).filterMap (·.measured titles repetitions) = [] := by
    rw [List.filterMap_eq_nil_iff]
    intro line mem
    rcases List.mem_cons.mp mem with rfl | mem
    · rfl
    · obtain ⟨log, -, rfl⟩ := List.mem_map.mp mem
      rfl
  rw [List.filterMap_append, none, List.append_nil]

/-- The parser reads of a printed output the measurements of its rows. -/
lemma Prints.parse (prints : Prints pad rule titles before body logs result) :
    parseLlamaBenchOutput spelling.repr (some request.repetitions) (result.stdout ++ "\n" ++ result.stderr) =
      if body.filterMap (·.measured titles (some request.repetitions)) = [] then
        .error (.parse "No llama-bench pp/tg measurements were found.")
      else .ok (body.filterMap (·.measured titles (some request.repetitions))) := by
  have fits : ∀ line ∈ body ++ logLines logs, line.Fits titles := by
    intro line mem
    rcases List.mem_append.mp mem with own | log
    · exact prints.fits line own
    · rcases List.mem_cons.mp log with rfl | log
      · exact ⟨List.not_mem_nil, fun c mem => by cases mem⟩
      · obtain ⟨text, other, rfl⟩ := List.mem_map.mp log
        exact prints.beside text other
  have rounds : ∀ r ∈ some request.repetitions, 1 ≤ r := by
    intro r mem
    rw [← Option.some.inj mem]
    exact request.repetitions_pos
  rw [prints.output, parse_benchOutput prints.printed fits rounds, filterMap_logLines]

/-- The measurements of a table are those of its rows that test a size. -/
lemma tests_iff (size : BenchmarkMeasurementKind × ℤ) :
    (∃ measurement ∈ body.filterMap (·.measured titles repetitions),
      measurement.kind = size.1 ∧ measurement.tokens = size.2) ↔ Tests body size := by
  constructor
  · rintro ⟨measurement, mem, kind, tokens⟩
    obtain ⟨line, own, measured⟩ := List.mem_filterMap.mp mem
    cases line with
    | log text => cases measured
    | row row =>
      change row.measured titles repetitions = some measurement at measured
      rw [BenchRow.measured] at measured
      cases test : row.test with
      | combined prompt generated =>
        rw [test] at measured
        cases measured
      | single kind' n =>
        rw [test] at measured
        cases measured
        exact ⟨row, n, own, by rw [test, ← kind], tokens⟩
  · rintro ⟨row, n, own, test, same⟩
    have measured : ∃ measurement, row.measured titles repetitions = some measurement ∧
        measurement.kind = size.1 ∧ measurement.tokens = size.2 := by
      rw [BenchRow.measured, test]
      exact ⟨_, rfl, rfl, same⟩
    obtain ⟨measurement, made, agrees⟩ := measured
    exact ⟨measurement, List.mem_filterMap.mpr ⟨_, own, made⟩, agrees⟩

/-- A run of llama-bench that ends well and prints its table is observed as a success exactly when the table has a row
for every size of the request; the measurements are then those of the rows, as they were printed. -/
theorem runLlamaBench_printed {protocol : Option LlamaBenchProtocol}
    (prints : Prints pad rule titles before body logs result) (cores : physicalCoreThreads call.cores = .ok threads)
    (built : buildLlamaBenchCommand spelling call.isFile llamaBench request threads = .ok command)
    (executed : call.execute command request.timeoutSeconds = .result result)
    (reported : parseLlamaBenchProtocol spelling.loads (result.stdout ++ "\n" ++ result.stderr)
      (some (!command.contains "--no-warmup")) = .ok protocol) :
    ∃ observation, runLlamaBench spelling llamaBench call request = .ok observation ∧
      (observation.success = true ↔ ∀ size ∈ expectedSizes request, Tests body size) ∧
      (observation.success = true → observation.measurements =
        (body.filterMap (·.measured titles (some request.repetitions))).map (·.toBenchmarkMeasurement)) := by
  have run : runLlamaBench spelling llamaBench call request =
      (observeResult spelling command request result).mapError .python := by
    have first : runLlamaBench spelling llamaBench call request =
        ((buildLlamaBenchCommand spelling call.isFile llamaBench request threads).mapError .benchmark).bind
          fun command => observeOutcome spelling command request (call.execute command request.timeoutSeconds) := by
      rw [runLlamaBench, cores]
      rfl
    rw [first, built]
    change observeOutcome spelling command request (call.execute command request.timeoutSeconds) = _
    rw [executed]
    rfl
  -- reading the output cannot raise once the protocol is reported
  have made : ∃ observation, observeResult spelling command request result = .ok observation := by
    rw [observeResult, reported]
    cases parseLlamaBenchOutput spelling.repr (some request.repetitions) (result.stdout ++ "\n" ++ result.stderr) with
    | error error => exact ⟨_, rfl⟩
    | ok measurements =>
      dsimp only
      split_ifs
      · exact ⟨_, rfl⟩
      · exact ⟨_, rfl⟩
  obtain ⟨observation, observed⟩ := made
  obtain ⟨-, success, same⟩ := observeResult_ok observed
  -- sizes that are all tested are all measured by the rows
  have measures : (∀ size ∈ expectedSizes request, Tests body size) →
      Measures spelling request result (body.filterMap (·.measured titles (some request.repetitions))) := by
    intro all
    have each : ∀ size ∈ expectedSizes request, ∃ measurement ∈
        body.filterMap (·.measured titles (some request.repetitions)),
        measurement.kind = size.1 ∧ measurement.tokens = size.2 :=
      fun size mem => (tests_iff size).mpr (all size mem)
    have some' : body.filterMap (·.measured titles (some request.repetitions)) ≠ [] := by
      intro none
      obtain ⟨size, mem⟩ := List.exists_mem_of_ne_nil _ (expectedSizes_ne_nil request)
      obtain ⟨measurement, own, -⟩ := each size mem
      rw [none] at own
      cases own
    refine ⟨?_, each⟩
    rw [prints.parse, if_neg some']
  -- and a success measured them by the rows, which are all that the parser reads
  have tested : observation.success = true → ∀ size ∈ expectedSizes request, Tests body size := by
    intro holds size mem
    obtain ⟨measurements, parsed, all⟩ := success.mp holds
    rw [prints.parse] at parsed
    split_ifs at parsed
    cases parsed
    exact (tests_iff size).mp (all size mem)
  refine ⟨observation, by rw [run, observed]; rfl, ⟨tested, fun all => success.mpr ⟨_, measures all⟩⟩, ?_⟩
  intro holds
  exact same _ (measures (tested holds))

/-- The sample output is a printed table. -/
lemma sample_prints : Prints (fun _ text => (3, text.length)) (fun _ => "--:".toList) sampleTitles ["loading".toList]
    sampleBody [] (sampleResult sampleOutput 0) where
  printed := sampleTitles_printed
  fits line mem := by
    have row : ∃ kind n, line = .row (sampleRow (.single kind n)) ∧
        0 < n ∧ (Nat.toDigits 10 n).length ≤ maxIntDigits := by
      rcases List.mem_cons.mp mem with rfl | mem
      · exact ⟨_, _, rfl, by decide, by decide⟩
      · rw [List.mem_singleton.mp mem]
        exact ⟨_, _, rfl, by decide, by decide⟩
    obtain ⟨kind, n, rfl, size⟩ := row
    apply sampleRow_printable
    intro kind' n' same
    cases same
    exact size
  beside line mem := by cases mem
  stdout := rfl
  stderr := rfl

/-- A run that prints both rows is a success with their measurements. -/
theorem runLlamaBench_printed_sample :
    ∃ observation,
      runLlamaBench sampleSpelling "llama-bench" (sampleCall (.result (sampleResult sampleOutput 0))) sampleRequest =
          .ok observation ∧
        observation.success = true ∧
        observation.measurements.map (fun measurement => (measurement.kind, measurement.tokens)) =
          [(.prefill, 512), (.generation, 128)] := by
  have reported : parseLlamaBenchProtocol sampleSpelling.loads (sampleOutput ++ "\n" ++ "") (some true) = .ok none := by
    decide +kernel
  obtain ⟨observation, ran, success, measured⟩ :
      ∃ observation, runLlamaBench sampleSpelling "llama-bench" (sampleCall (.result (sampleResult sampleOutput 0)))
          sampleRequest = .ok observation ∧
        (observation.success = true ↔ ∀ size ∈ expectedSizes sampleRequest, Tests sampleBody size) ∧
        (observation.success = true → observation.measurements =
          (sampleBody.filterMap (·.measured sampleTitles (some 5))).map (·.toBenchmarkMeasurement)) :=
    runLlamaBench_printed sample_prints rfl rfl rfl reported
  have holds : observation.success = true := by
    rw [success]
    intro size mem
    rcases List.mem_cons.mp mem with rfl | mem
    · exact ⟨_, 512, List.mem_cons_self, rfl, rfl⟩
    · rw [List.mem_singleton.mp mem]
      exact ⟨_, 128, List.mem_cons_of_mem _ List.mem_cons_self, rfl, rfl⟩
  refine ⟨observation, ran, holds, ?_⟩
  rw [measured holds]
  rfl

end Runs
end Jaull.Benchmarks
