import Mathlib.Data.Prod.Lex
import Mathlib.Data.Rat.Defs
import Mathlib.Data.String.Basic
import Mathlib.Algebra.Order.Ring.Rat
import Jaull.Domain.Records
import Jaull.Lib.StableSort

/-!
# Local evidence

Port of `jaull/recommendation/local_evidence.py`: which stored runs and benchmarks belong to a plan, and
what they say of its speed. Functions of a record alone, and the comparison of device names, are
parameters (`RecordReaders`).
-/

namespace Jaull.Recommendation
open Jaull.Domain Jaull.Lib Jaull.Text

/-- The functions of a record, of a machine or of a runtime's output alone. -/
structure RecordReaders where
  machineFingerprint : HardwareProfile → List String
  fastestRecordBlockers : BenchmarkRecord → List String
  speedCohort : BenchmarkRecord → String
  modelDumpJson : BenchmarkRecord → String
  runtimeDeviceNameMatches : String → String → String → Bool

/-- Python `max(items, key=key, default=None)`: the first of the greatest. -/
def latestBy {κ : Type} [LinearOrder κ] (key : α → κ) (items : List α) : Option α :=
  (sortedBy (fun item => OrderDual.toDual (key item)) items).head?

/-- Python `ArtifactVariant.to_model_artifact`. -/
def toModelArtifact (artifact : ArtifactVariant) : ModelArtifact :=
  { repoId := artifact.repoId
    revision := (truthy artifact.revision).getD "main"
    filename := (truthy artifact.filename).getD artifact.repoId
    format := artifact.format.value
    quantization := artifact.quantization
    sizeBytes := artifact.sizeBytes }

/-- Two values that are not both known and different (an element of the `all` of Python
`artifact_identity_matches`). -/
def corroborates [DecidableEq α] (a b : Option α) : Bool :=
  a.isNone || b.isNone || a = b

/-- Python `artifact_identity_matches`. -/
def artifactIdentityMatches (left right : ModelArtifact) : Bool :=
  left.repoId = right.repoId && left.revision = right.revision &&
  left.filename = right.filename && left.format = right.format &&
  left.quantization = right.quantization &&
  corroborates left.sizeBytes right.sizeBytes &&
  corroborates (left.sha256.map lower) (right.sha256.map lower)

/-- The same identity, or the same bytes of the same file (Python `_same_artifact`). -/
def sameArtifact (planned : ArtifactVariant) (recorded : ModelArtifact) : Bool :=
  match truthy planned.sha256, truthy recorded.sha256 with
  | some a, some b =>
    lower a = lower b &&
      (artifactIdentityMatches (toModelArtifact planned) recorded ||
        planned.repoId = recorded.repoId && planned.filename = some recorded.filename)
  | _, _ => artifactIdentityMatches (toModelArtifact planned) recorded

section Matching
variable (readers : RecordReaders)

/-- Python `_same_machine`. -/
def sameMachine (left right : HardwareProfile) : Bool :=
  readers.machineFingerprint left = readers.machineFingerprint right

/-- Python `_common_matches`, with the selection it asserts. -/
def commonMatches (plan : ExecutionPlan) (artifact : ModelArtifact)
    (runtime : RuntimeRecommendation) (hardware : HardwareProfile) :
    Option RuntimeBackendSelection :=
  if plan.hardware.any (sameMachine readers · hardware) &&
      plan.runtime.runtime = runtime.runtime && sameArtifact plan.artifact artifact then
    plan.backendSelection
  else none

/-- Observed workload, without the planning policy of a configuration (Python
`_configuration_matches`). -/
def configurationMatches (left right : InferenceConfiguration) : Bool :=
  left.contextLength = right.contextLength && left.batchSize = right.batchSize &&
  left.concurrentUsers = right.concurrentUsers && left.precision = right.precision &&
  left.quantization = right.quantization && left.kvCacheDtype = right.kvCacheDtype

/-- Equality of Python `_flags`: every flag has one last value in both. -/
def sameFlags (left right : RuntimeRecommendation) : Bool :=
  (left.flags ++ right.flags).all fun flag => left.flag? flag.name = right.flag? flag.name

/-- Whether a stored run is of this plan (the loop body of Python `matching_experiment`). -/
def experimentMatches (plan : ExecutionPlan) (record : ExperimentRecord) : Bool :=
  match commonMatches readers plan record.artifact record.runtime record.hardware with
  | none => false
  | some selection =>
    record.preflightBackend = selection.selectedBackend &&
    record.observedBackend.all (· = selection.selectedBackend) &&
    plan.memoryPrediction.any (fun prediction =>
      configurationMatches prediction.inferenceConfiguration record.predictedConfiguration) &&
    sameFlags plan.runtime record.runtime

/-- Python `matching_experiment`. -/
def matchingExperiment (plan : ExecutionPlan) (records : List ExperimentRecord) :
    Option ExperimentRecord :=
  latestBy (fun record => toLex (record.createdAt, record.experimentId))
    (records.filter (experimentMatches readers plan))

/-- Python `known_benchmark_methodologies`. -/
def knownBenchmarkMethodologies : RuntimeName → List String
  | .llamaCpp => ["llama_bench_v2", "llama_bench_v1"]
  | .transformers => ["transformers_isolated_inference_v3"]
  | _ => []

/-- Python `_transformers_precision_matches`. -/
def transformersPrecisionMatches (plan : ExecutionPlan) (record : BenchmarkRecord) : Bool :=
  ["torch_dtype", "quantization"].all fun name =>
    plan.runtime.flag? name = record.runtime.flag? name

/-- The plan's offload is the one measured (the offload check of Python `matching_benchmark`). -/
def offloadMatches (plan : ExecutionPlan) (record : BenchmarkRecord) : Bool :=
  -- The CPU implies no offload; an unspecified GPU split is unknown.
  let raw := (plan.runtime.flag? "--n-gpu-layers").or
    (if record.requestedBackend = .cpu then some "0" else none)
  match record.gpuLayers with
  | .fullOffload => raw = some "-1" || raw = some "all"
  | .count layers => raw = some (toString layers)

/-- Whether a benchmark is of this plan (the loop body of Python `matching_benchmark`). -/
def benchmarkMatches (plan : ExecutionPlan) (record : BenchmarkRecord) : Bool :=
  match commonMatches readers plan record.artifact record.runtime record.hardware with
  | none => false
  | some selection =>
    let generations := record.observation.measurements.filter (·.kind = .generation)
    record.requestedBackend = selection.selectedBackend &&
    record.observation.success &&
    record.observation.methodology.any (· ∈ knownBenchmarkMethodologies plan.runtime.runtime) &&
    !generations.isEmpty &&
    generations.all (·.tokens ∈ record.generationSizes) &&
    if plan.runtime.runtime = .llamaCpp then offloadMatches plan record
    else transformersPrecisionMatches plan record

/-- Current protocol first, then the newest run (Python `matching_benchmark`). -/
def matchingBenchmark (plan : ExecutionPlan) (records : List BenchmarkRecord) :
    Option BenchmarkRecord :=
  let current := (knownBenchmarkMethodologies plan.runtime.runtime).head?
  latestBy
    (fun record =>
      toLex ((current.isSome && record.observation.methodology = current : Bool),
        toLex (record.createdAt, record.benchmarkId)))
    (records.filter (benchmarkMatches readers plan))

/-- Order of one field of an environment row: unknown first (the key of Python
`_gpu_environment`). -/
def environmentField (value : Option String) : Bool ×ₗ String :=
  toLex (value.isSome, value.getD "")

/-- What a speed figure depends on beyond the fingerprint: device, driver and CUDA (Python
`_gpu_environment`). -/
def gpuEnvironment (hardware : HardwareProfile) (backend : ComputeBackend) :
    List (String × Option String × Option String) :=
  let rows :=
    if backend = .vulkan then
      (hardware.accelerators.filter exposesVulkan).map fun accelerator =>
        (accelerator.name,
          (accelerator.backends.find? (·.backend = .vulkan)).bind (·.driverVersion), none)
    else hardware.gpus.map fun gpu => (gpu.name, gpu.driverVersion, gpu.cudaVersion)
  sortedBy
    (fun (name, driver, cuda) =>
      toLex (environmentField (some name), toLex (environmentField driver, environmentField cuda)))
    rows
where
  exposesVulkan (accelerator : AcceleratorProfile) : Bool :=
    accelerator.type ≠ .software && accelerator.backends.any fun info =>
      info.backend = .vulkan && info.availability = .available && !info.softwareRenderer

/-- Python `_runtime_device_is_the_plans_accelerator`. -/
def runtimeDeviceIsThePlansAccelerator (plan : ExecutionPlan) (record : BenchmarkRecord) : Bool :=
  (plan.backendSelection.bind (·.selectedAccelerator)).any fun accelerator =>
    readers.runtimeDeviceNameMatches
      (record.observation.rawStdout ++ "\n" ++ record.observation.rawStderr)
      (record.requestedDevice.getD "") accelerator.name

/-- The plan names another device than the one measured. -/
def otherDevice (plan : ExecutionPlan) (record : BenchmarkRecord) : Bool :=
  let devices := (plan.runtime.flags.filter (·.name = "--device")).map (·.value)
  !devices.isEmpty && devices.map some ≠ [record.requestedDevice]

/-- The measured driver or CUDA version is unknown or differs from this machine's. -/
def environmentDiffers (plan : ExecutionPlan) (record : BenchmarkRecord) : Bool :=
  let environment := gpuEnvironment record.hardware record.requestedBackend
  let blank (value : Option String) : Bool := strip (value.getD "") = ""
  plan.hardware.isNone || environment.isEmpty ||
  (environment.any fun (_, driver, cuda) =>
    blank driver || (record.requestedBackend = .cuda && blank cuda)) ||
  plan.hardware.any (fun hardware => environment ≠ gpuEnvironment hardware record.requestedBackend)

/-- Why a benchmark does not apply to a plan (Python `fastest_benchmark_blockers`). -/
def fastestBenchmarkBlockers (plan : ExecutionPlan) (requirements : UserRequirements)
    (record : BenchmarkRecord) : List String :=
  let blocked (holds : Bool) (reason : String) : List String := if holds then [reason] else []
  let sha := record.artifact.sha256
  readers.fastestRecordBlockers record ++
  blocked (requirements.workloadMode ≠ .interactive || requirements.concurrentUsers ≠ 1)
    "A single-request microbenchmark does not cover batch or multiuser throughput." ++
  blocked (plan.artifact.sha256.isNone || sha.isNone || plan.artifact.sha256 ≠ sha.map lower)
    "This plan has no matching exact artifact SHA256." ++
  blocked (matchingBenchmark readers plan [record]).isNone
    "Historical artifact/machine/runtime/backend/offload matching failed." ++
  if record.requestedBackend = .cpu then []
  else
    blocked (!runtimeDeviceIsThePlansAccelerator readers plan record || otherDevice plan record)
      "The plan's runtime device is unknown or differs from the measurement." ++
    blocked (environmentDiffers plan record)
      "The GPU driver or CUDA version differs from this machine's, or is unknown."

end Matching

/-- A record's digest in lowercase, if it is one (Python `_exact_sha`). -/
def exactSha (value : Option String) : Option String :=
  let hex (c : Char) : Bool :=
    ('0' ≤ c && c ≤ '9') || ('a' ≤ c && c ≤ 'f') || ('A' ≤ c && c ≤ 'F')
  (value.filter fun value => value.length = 64 && value.toList.all hex).map lower

/-- The one measurement of a kind and length (Python `_single`). -/
def single (record : BenchmarkRecord) (kind : BenchmarkMeasurementKind) (tokens : ℤ) :
    Option BenchmarkMeasurement :=
  match record.observation.measurements.filter fun m => m.kind = kind && m.tokens = tokens with
  | [measurement] => some measurement
  | _ => none

/-- Python `statistics.median`. -/
def median (figures : List ℚ) : ℚ :=
  let sorted := sortedBy id figures
  let middle := sorted.length / 2
  if sorted.length % 2 = 1 then sorted.getD middle 0
  else (sorted.getD (middle - 1) 0 + sorted.getD middle 0) / 2

section Speed
variable (readers : RecordReaders)

/-- Records of one digest by benchmark id, with the ids that two different records share (the first loop
of Python `assess_speed`). -/
def collectById (known : List BenchmarkRecord × List String) (record : BenchmarkRecord) :
    List BenchmarkRecord × List String :=
  let (byId, conflicts) := known
  match byId.find? (·.benchmarkId = record.benchmarkId) with
  | none => (byId ++ [record], conflicts)
  | some previous =>
    let conflicting := !previous.equals record
    let kept :=
      if conflicting && !readers.modelDumpJson record < readers.modelDumpJson previous then previous
      else record
    (byId.map fun item => if item.benchmarkId = record.benchmarkId then kept else item,
      if conflicting then record.benchmarkId :: conflicts else conflicts)

/-- A stored benchmark as the plan refers to it (the `LocalSpeedReference` of Python
`assess_speed`). -/
def speedReference (plan : ExecutionPlan) (requirements : UserRequirements) (sha : String)
    (conflicts : List String) (record : BenchmarkRecord) : LocalSpeedReference :=
  let generation := single record .generation 128
  let prefill := single record .prefill 512
  { benchmarkId := record.benchmarkId
    createdAt := record.createdAt
    artifactSha256 := sha
    tg128TokensPerSecond := generation.map (·.meanTokensPerSecond)
    tg128StddevTokensPerSecond := generation.map (·.stddevTokensPerSecond)
    pp512TokensPerSecond := prefill.map (·.meanTokensPerSecond)
    pp512StddevTokensPerSecond := prefill.map (·.stddevTokensPerSecond)
    repetitions := some record.observation.repetitions
    blockers := fastestBenchmarkBlockers readers plan requirements record ++
      if record.benchmarkId ∈ conflicts then
        ["Conflicting records share this benchmark ID."] else [] }

/-- The figure of the newest cohort that applies (the `applicable` of Python `assess_speed`). -/
def applicableSpeed (eligible : List (LocalSpeedReference × BenchmarkRecord)) :
    Option ApplicableSpeed :=
  match eligible with
  | [] => none
  | (_, newest) :: _ =>
    let cohort := readers.speedCohort newest
    let runs := (eligible.filter fun (_, record) => readers.speedCohort record = cohort).map (·.1)
    let figures := runs.filterMap (·.tg128TokensPerSecond)
    let prefill := runs.filterMap (·.pp512TokensPerSecond)
    some
      { tokensPerSecond := median figures
        stddevTokensPerSecond :=
          match runs with
          | [run] => run.tg128StddevTokensPerSecond
          | _ => none
        pp512TokensPerSecond := if prefill.length = runs.length then some (median prefill) else none
        repetitions := newest.observation.repetitions
        cohort := cohort
        benchmarkId := (runs.head?.map (·.benchmarkId)).getD ""
        benchmarkIds := sortedBy id (runs.map (·.benchmarkId))
        runCount := runs.length
        observedMin := figures.min?
        observedMax := figures.max? }

/-- Stored benchmarks of exactly this artifact, newest first (Python `assess_speed`). -/
def assessSpeed (plan : ExecutionPlan) (requirements : UserRequirements)
    (records : List BenchmarkRecord) : SpeedAssessment :=
  match plan.artifact.sha256 with
  | none => {}
  | some sha =>
    let exact := records.filter fun record => exactSha record.artifact.sha256 = some sha
    let (byId, conflicts) := exact.foldl (collectById readers) ([], [])
    let matched := sortedBy
      (fun record => OrderDual.toDual (toLex (record.createdAt, record.benchmarkId))) byId
    let references := matched.map (speedReference readers plan requirements sha conflicts)
    let eligible := (references.zip matched).filter fun (reference, _) =>
      reference.blockers.isEmpty && reference.tg128TokensPerSecond.any (· ≠ 0)
    let applicable := applicableSpeed readers eligible
    { applicability :=
        if applicable.isSome then .measuredPlan
        else if references.isEmpty then .absent else .referenceOnly
      applicable := applicable
      references := references
      referenced := by
        intro unmeasured stored none
        rw [unmeasured, none] at stored
        exact stored rfl }

end Speed

end Jaull.Recommendation
