import Jaull.Lib.Dict
import Mathlib.Algebra.Order.Ring.Rat
import Mathlib.Algebra.Ring.Nat

/-!
# Execution on the host

Port of `jaull/execution/host.py` and of `NvidiaProcessMemorySampler` of `jaull/hardware/nvidia.py`: a command is
started, waited for in short turns with a memory sample after each, and told to stop when its time is over. What the
operating system answers is an environment that numbers the answers in the order they are asked for, so a run is a
function of it; every call that is made is kept in order.
-/

namespace Jaull.Execution
open Jaull.Lib

section Requests

/-- Python `ExecutionFailureReason`. -/
inductive ExecutionFailureReason
  | executableNotFound
  | spawnError
  | timeout
  | nonZeroExit
  deriving DecidableEq, Repr

/-- Python `ExecutionMeasurementMetadata`. -/
structure ExecutionMeasurementMetadata where
  ramMeasurement : String := "process_rss"
  vramMeasurement : String := "nvml_process_memory"
  sampleIntervalSeconds : ℚ := 1 / 20
  deriving DecidableEq, Repr

/-- Python `ExecutionObservation`, as the host makes it. -/
structure ExecutionObservation where
  success : Bool
  durationSeconds : ℚ
  peakRamBytes : Option ℕ := none
  peakVramBytes : Option ℕ := none
  exitCode : Option ℤ
  failureReason : Option ExecutionFailureReason := none
  measurement : ExecutionMeasurementMetadata := {}
  deriving DecidableEq, Repr

/-- Python `ExecutionRequest`. -/
structure ExecutionRequest where
  command : List String
  timeoutSeconds : ℚ := 300
  environment : List (String × String) := []
  nonempty : command ≠ []
  positive : 0 < timeoutSeconds

/-- The program a request names. -/
def ExecutionRequest.executable (request : ExecutionRequest) : String :=
  request.command.head request.nonempty

/-- What a process wrote. -/
structure Output where
  stdout : String
  stderr : String
  deriving DecidableEq, Repr

/-- Python `ExecutionResult`. -/
structure ExecutionResult extends Output where
  observation : ExecutionObservation
  deriving DecidableEq, Repr

/-- What `execute` returns or raises. -/
inductive HostOutcome
  | result (result : ExecutionResult)
  | executableNotFound (text : String) (observation : ExecutionObservation)
  | spawnError (text : String) (observation : ExecutionObservation)
  | timeout (text : String) (result : ExecutionResult)
  | failed (text : String) (result : ExecutionResult)
  deriving DecidableEq, Repr

end Requests

section Sampling

/-- A process on a GPU, as the driver lists it; a field is `none` when it cannot be read as a number. -/
structure GpuProcess where
  pid : Option ℤ
  used : Option ℤ
  deriving DecidableEq, Repr

/-- The answers of a device to the queries for processes, the newest version of each query first; `none` where the
query is missing or fails. -/
structure GpuAnswers where
  compute : List (Option (List GpuProcess))
  graphics : List (Option (List GpuProcess))
  deriving DecidableEq, Repr

/-- Python `_first_process_query_result`. -/
def firstProcessQueryResult (answers : List (Option (List GpuProcess))) : List GpuProcess :=
  (answers.findSome? id).getD []

/-- Python `_running_processes`. -/
def runningProcesses (answers : GpuAnswers) : List GpuProcess :=
  firstProcessQueryResult answers.compute ++ firstProcessQueryResult answers.graphics

/-- Python `_max_optional`. -/
def maxOptional (current : Option ℕ) (value : ℕ) : ℕ :=
  match current with
  | none => value
  | some peak => max peak value

/-- The memory of a device that one entry of its list gives to a process. -/
def GpuProcess.usedBy (pid : ℤ) (process : GpuProcess) : Option ℕ :=
  if process.pid = some pid then
    match process.used with
    | some used => if used < 0 then none else some used.toNat
    | none => none
  else none

/-- The most that a device lists for a process. -/
def devicePeak (pid : ℤ) (answers : GpuAnswers) : Option ℕ :=
  (runningProcesses answers).foldl
    (fun peak process =>
      match process.usedBy pid with
      | some used => some (maxOptional peak used)
      | none => peak)
    none

/-- Python `sample_pid_bytes`, of the answers of every device. -/
def samplePidBytes (pid : ℤ) (devices : List GpuAnswers) : Option ℕ :=
  let peaks := devices.filterMap (devicePeak pid)
  if peaks = [] then none else some peaks.sum

end Sampling

section Environment

/-- Whether the command could be started. -/
inductive Spawn
  | started (pid : ℤ)
  | missing
  | refused (text : String)
  deriving DecidableEq, Repr

/-- What the clock, the operating system and the driver answer, in the order they are asked, and Python's `repr`
and fixed-point format. -/
structure HostEnv where
  spawn : Spawn
  clock : ℕ → ℚ
  environ : List (String × String)
  rss : ℕ → Option ℕ
  /-- `none` when the driver library cannot be used; otherwise the answers at each sample -/
  gpus : Option (ℕ → List GpuAnswers)
  /-- what a wait returns, or `none` when its time expires -/
  waited : ℕ → Option Output
  alive : Bool
  /-- what the process says within the grace, if its output ends in it -/
  graced : Option Output
  /-- what is read behind the kill, without a limit; `none` when that never returns, which a descendant of the process
  that keeps its output open brings about -/
  drained : Option Output
  returncode : ℤ
  repr : String → String
  fixed : ℕ → ℚ → String

/-- A call to the operating system. -/
inductive HostCall
  | spawn (command : List String) (environment : Option (List (String × String)))
  | sample
  | communicate (timeout : Option ℚ)
  | poll
  | terminate
  | kill
  | close
  deriving DecidableEq, Repr

/-- How far a run is: how often the environment was asked, the peaks so far, and the calls. -/
structure HostState where
  readings : ℕ := 0
  samples : ℕ := 0
  waits : ℕ := 0
  peakRam : Option ℕ := none
  peakVram : Option ℕ := none
  calls : List HostCall := []

/-- A call is made. -/
def HostState.call (state : HostState) (call : HostCall) : HostState :=
  { state with calls := state.calls ++ [call] }

/-- The clock is read. -/
def HostState.read (state : HostState) : HostState :=
  { state with readings := state.readings + 1 }

end Environment

section Model
variable (env : HostEnv)

/-- Python `_process_environment`. -/
def processEnvironment (request : ExecutionRequest) : Option (List (String × String)) :=
  if request.environment = [] then none
  else some (request.environment.foldl (fun d entry => dictSet d entry.1 entry.2) env.environ)

/-- The memory of the process on the devices at a sample. -/
def HostEnv.vram (pid : ℤ) (sample : ℕ) : Option ℕ :=
  env.gpus.bind fun devices => samplePidBytes pid (devices sample)

/-- A peak after another value. -/
def keepPeak (peak value : Option ℕ) : Option ℕ :=
  match value with
  | some value => some (maxOptional peak value)
  | none => peak

/-- Python `_ProcessExecutionSampler.sample`. -/
def HostState.sample (pid : ℤ) (state : HostState) : HostState :=
  { state.call .sample with
    samples := state.samples + 1
    peakRam := keepPeak state.peakRam (env.rss state.samples)
    peakVram := keepPeak state.peakVram (env.vram pid state.samples) }

/-- Python `_TERMINATE_GRACE_SECONDS`. -/
def terminateGraceSeconds : ℚ :=
  1

/-- Python `_terminate_and_drain`; there is no output when the last call never returns. -/
def terminateAndDrain (state : HostState) : Option Output × HostState :=
  let polled := state.call .poll
  let told := if env.alive then polled.call .terminate else polled
  let graced := told.call (.communicate (some terminateGraceSeconds))
  match env.graced with
  | some output => (some output, graced)
  | none => (env.drained, (graced.call .kill).call (.communicate none))

/-- The backend: how long a turn of waiting is. -/
structure HostExecutionBackend where
  sampleIntervalSeconds : ℚ := 1 / 20
  positive : 0 < sampleIntervalSeconds := by decide +kernel

/-- Python `HostExecutionBackend.__init__`. -/
def HostExecutionBackend.make (seconds : ℚ) : Except String HostExecutionBackend :=
  if positive : 0 < seconds then .ok ⟨seconds, positive⟩
  else .error "sample_interval_seconds must be greater than 0."

/-- Exactly the positive intervals make a backend. -/
lemma HostExecutionBackend.make_eq_ok {seconds : ℚ} {backend : HostExecutionBackend} :
    HostExecutionBackend.make seconds = .ok backend ↔ backend.sampleIntervalSeconds = seconds := by
  rw [HostExecutionBackend.make]
  split
  · rw [Except.ok.injEq]
    constructor
    · rintro rfl
      rfl
    · rintro rfl
      rfl
  · rename_i other
    constructor
    · intro wrong
      cases wrong
    · rintro rfl
      exact absurd backend.positive other

variable (backend : HostExecutionBackend) (request : ExecutionRequest)

/-- Python `_communicate_with_sampling`, for `fuel` turns: the output if it returns, and whether the time was over. -/
def communicateWithSampling (pid : ℤ) (start : ℚ) : ℕ → HostState → Option ((Option Output × Bool) × HostState)
  | 0, _ => none
  | fuel + 1, state =>
    let elapsed := env.clock state.readings - start
    let remaining := request.timeoutSeconds - elapsed
    if remaining ≤ 0 then
      let (output, state) := terminateAndDrain env (state.read.sample env pid)
      some ((output, true), state)
    else
      let waiting := state.read.call (.communicate (some (min backend.sampleIntervalSeconds remaining)))
      match env.waited state.waits with
      | some output => some ((some output, false), { waiting with waits := state.waits + 1 })
      | none =>
        communicateWithSampling pid start fuel ({ waiting with waits := state.waits + 1 }.sample env pid)

/-- Python `_ProcessExecutionSampler.observation`. -/
def observation (start : ℚ) (state : HostState) (success : Bool) (reason : Option ExecutionFailureReason) :
    ExecutionObservation where
  success := success
  durationSeconds := env.clock state.readings - start
  peakRamBytes := state.peakRam
  peakVramBytes := state.peakVram
  exitCode := some env.returncode
  failureReason := reason
  measurement := { sampleIntervalSeconds := backend.sampleIntervalSeconds }

/-- Python `_observation`, of a command that was not started. -/
def unstarted (start : ℚ) (reason : ExecutionFailureReason) : ExecutionObservation where
  success := false
  durationSeconds := env.clock 1 - start
  exitCode := none
  failureReason := some reason
  measurement := { sampleIntervalSeconds := backend.sampleIntervalSeconds }

/-- What is returned or raised once the process has ended. -/
def conclude (start : ℚ) (output : Output) (timedOut : Bool) (state : HostState) : HostOutcome :=
  if timedOut then
    let result := ⟨output, observation env backend start state false (some .timeout)⟩
    .timeout ("Command timed out after " ++ env.fixed 1 request.timeoutSeconds ++ "s (duration " ++
      env.fixed 3 result.observation.durationSeconds ++ "s): " ++ env.repr request.executable ++ ".") result
  else if env.returncode = 0 then .result ⟨output, observation env backend start state true none⟩
  else
    .failed ("Command failed with exit code " ++ toString env.returncode ++ ": " ++ env.repr request.executable ++ ".")
      ⟨output, observation env backend start state false (some .nonZeroExit)⟩

/-- A run that has asked for a process. -/
def spawned : HostState :=
  HostState.call { readings := 1 } (.spawn request.command (processEnvironment env request))

/-- Python `HostExecutionBackend.execute`, with at most `fuel` turns of waiting: what it returns or raises, or `none`
for a run that never does either, with the calls that were made. -/
def execute (fuel : ℕ) : Option (Option HostOutcome × HostState) :=
  let start := env.clock 0
  let spawned := spawned env request
  match env.spawn with
  | .missing =>
    some (some (.executableNotFound ("Executable not found: " ++ env.repr request.executable ++ ".")
      (unstarted env backend start .executableNotFound)), spawned.read)
  | .refused text =>
    some (some (.spawnError ("Failed to execute " ++ env.repr request.executable ++ ": " ++ text ++ ".")
      (unstarted env backend start .spawnError)), spawned.read)
  | .started pid =>
    match communicateWithSampling env backend request pid start fuel (spawned.sample env pid) with
    | none => none
    | some ((none, _), state) => some (none, state)
    | some ((some output, timedOut), state) =>
      let sampled := state.sample env pid
      some (some (conclude env backend request start output timedOut sampled), sampled.read.call .close)

/-- The observation of a run. -/
def HostOutcome.observation : HostOutcome → ExecutionObservation
  | .result own => own.observation
  | .executableNotFound _ own => own
  | .spawnError _ own => own
  | .timeout _ own => own.observation
  | .failed _ own => own.observation

end Model

end Jaull.Execution
