import Jaull.Recommendation.SpeedCohort
import Jaull.Text.Digits
import Jaull.Text.Scan

/-!
# The audit of a stored benchmark

Port of `fastest_record_blockers` of `jaull/recommendation/local_evidence.py` and of what it reads of
`jaull/domain/benchmarks.py`: why a benchmark cannot stand as evidence of a speed, whatever the plan. Python
`repr` of a string is a parameter.
-/

namespace Jaull.Recommendation
open Jaull.Cases Jaull.Domain Jaull.Evaluation Jaull.Lib Jaull.Text

/-- A reason that is given when its condition holds. -/
def reasonIf (condition : Bool) (reason : String) : List String :=
  if condition then [reason] else []

section Build

/-- The commit and the number that a line reports (the pattern of Python `_reported_bench_build`). -/
def buildLine (line : List Char) : Option (List ℕ × List ℕ) :=
  let space := Pattern.star isSpaceCode
  let finish : Pattern := fun place => if place.rest = [] then [place] else []
  (pairAt ((Pattern.literal (codesOf "build:")).seq space) (.between isHexAnyCase 7 40)
    (space.seq (.literal (codesOf "("))) (.plus isDigitCode)
    ((Pattern.literal (codesOf ")")).seq (space.seq finish)) ⟨none, line.map Char.toNat⟩).head?

/-- Python `f"{commit.lower()} ({int(number)})"`, for a number that `int` accepts. -/
def buildText (build : List ℕ × List ℕ) : String :=
  lower (String.ofList (build.1.map Char.ofNat)) ++ " (" ++
    toString (decimalValue (build.2.map Char.ofNat)) ++ ")"

/-- Python `_reported_bench_build`. -/
def reportedBenchBuild (output : String) : Option String :=
  let lines := (splitLines output).filter fun line => "build:".toList.isPrefixOf line
  match lines.mapM buildLine with
  | none => none
  | some builds =>
    match (builds.map buildText).dedup with
    | [build] => some build
    | _ => none

end Build

section Protocol
variable (repr : String → String)

/-- The settings that are not as expected, spelled by `text`. -/
def differing {α : Type} [DecidableEq α] (text : α → String)
    (settings : List (String × Option α × α)) : List String :=
  settings.filterMap fun (name, value, expected) =>
    if value = some expected then none
    else some (name ++ "=" ++ (value.map text).getD "None" ++ " (expected " ++ text expected ++ ")")

/-- Python `llama_bench_v2_mismatches`. -/
def llamaBenchV2Mismatches (protocol : Option LlamaBenchProtocol) (physicalCores : Option ℤ) :
    List String :=
  match protocol with
  | none => ["llama-bench reported no settings"]
  | some protocol =>
    match physicalCores.filter (1 ≤ ·) with
    | none => ["Physical core count is unknown or invalid."]
    | some cores =>
      differing toString
        [("n_batch", protocol.nBatch, (512 : ℤ)), ("n_ubatch", protocol.nUbatch, 512)] ++
      differing repr
        [("flash_attn", protocol.flashAttn, "off"), ("cache_type_k", protocol.cacheTypeK, "f16"),
          ("cache_type_v", protocol.cacheTypeV, "f16"), ("load_mode", protocol.loadMode, "mmap"),
          ("warmup", protocol.warmup, "ran"),
          ("thread_policy", protocol.threadPolicy, "physical_cores")] ++
      differing toString [("n_threads", protocol.nThreads, cores)]

/-- What follows a flag that a command gives once. -/
def commandValue (command : List String) (flag : String) : Option (Option String) :=
  if command.count flag = 1 then some ((command.dropWhile (· ≠ flag)).tail.head?) else none

/-- Python `LLAMA_BENCH_V2_FLAGS`, in pairs. -/
def llamaBenchV2Flags : List (String × String) :=
  [("-b", "512"), ("-ub", "512"), ("-fa", "off"), ("-ctk", "f16"), ("-ctv", "f16"), ("-lm", "mmap")]

/-- The build that a protocol names. -/
def protocolBuild (commit : String) (number : ℤ) : String :=
  lower commit ++ " (" ++ toString number ++ ")"

/-- Python `_v2_blockers`. -/
def v2Blockers (record : BenchmarkRecord) (reportedBuild : Option String) : List String :=
  let protocol := record.observation.protocol
  let cores := record.hardware.cpu.physicalCores
  let flags := llamaBenchV2Flags ++ [("-t", (cores.map toString).getD "None")]
  (llamaBenchV2Mismatches repr protocol cores).map
    (fun item => "Reported setting differs from llama_bench_v2: " ++ item ++ ".") ++
  flags.filterMap (fun (flag, value) =>
    if commandValue record.observation.command flag = some (some value) then none
    else some ("Recorded command " ++ flag ++ " " ++ value ++ " is missing or differs.")) ++
  reasonIf
    (match protocol, reportedBuild with
    | some protocol, some build =>
      build ≠ lower (protocol.buildCommit.getD "") ++ " (" ++
        (protocol.buildNumber.map toString).getD "None" ++ ")"
    | _, _ => false)
    "The recorded protocol build disagrees with the producing build."

/-- Python `_protocol_blockers`. -/
def protocolBlockers (protocol : Option LlamaBenchProtocol) (reportedBuild : Option String) :
    List String :=
  match protocol with
  | none =>
    ["Effective threads, batching, cache types and load protocol were not recorded by the run that " ++
      "produced this measurement."]
  | some protocol =>
    let blank (value : Option String) : Bool := value.getD "" = ""
    ([("the effective thread count", protocol.nThreads.isNone),
      ("the reported batch size", protocol.nBatch.isNone),
      ("the reported microbatch size", protocol.nUbatch.isNone),
      ("the effective K cache type", blank protocol.cacheTypeK),
      ("the effective V cache type", blank protocol.cacheTypeV),
      ("the effective load mode", blank protocol.loadMode),
      ("its own build", blank protocol.buildCommit),
      ("its own build number", protocol.buildNumber.isNone)].filterMap fun (label, missing) =>
        if missing then some ("Recorded protocol is missing " ++ label ++ ".") else none) ++
    (match protocol.flashAttn with
    | none => ["Recorded protocol is missing the effective flash-attention setting."]
    | some "auto_unresolved" =>
      ["The effective flash-attention setting is absent from llama-bench output: it reports the " ++
        "requested value, and this run requested `auto`."]
    | some "on" =>
      ["Requested flash attention `on` is not proof it ran: the runtime can disable it."]
    | some _ => []) ++
    ["JSONL reports requested batch/microbatch limits, not runtime-applied context limits."] ++
    reasonIf protocol.warmup.isNone "Whether warmup ran was not recorded." ++
    reasonIf
      (match reportedBuild, protocol.buildCommit, protocol.buildNumber with
      | some build, some commit, some number => build ≠ protocolBuild commit number
      | _, _, _ => false)
      "The recorded protocol build disagrees with the producing build."

end Protocol

section Audit
variable (repr : String → String)

/-- Python `"-1" if gpu_layers.full_offload else str(gpu_layers.count)`. -/
def offloadText : BenchmarkGpuLayers → String
  | .fullOffload => "-1"
  | .count layers => toString layers

/-- The device a run asks for. -/
def expectedDevice (record : BenchmarkRecord) : Option String :=
  if record.requestedBackend = .cpu then some "none" else record.requestedDevice

/-- Python `",".join(map(str, sizes))`. -/
def sizesText (sizes : List ℤ) : String :=
  ",".intercalate (sizes.map toString)

/-- What one requested measurement lacks (the loop body of Python `fastest_record_blockers`). -/
def measurementBlockers (record : BenchmarkRecord) (kind : BenchmarkMeasurementKind) (tokens : ℤ)
    (label : String) (sizes : List ℤ) : List String :=
  match single record kind tokens, decide (tokens ∈ sizes) with
  | some measurement, true =>
    reasonIf (measurement.repetitions ≠ some 5)
      (label ++ " repetition count is missing or incompatible.") ++
    reasonIf (expectedDevice record = none || measurement.rawDevice ≠ expectedDevice record)
      (label ++ " runtime-reported device is unknown or differs from the request.") ++
    reasonIf (measurement.rawNgl ≠ some (offloadText record.gpuLayers))
      (label ++ " runtime-reported offload is unknown or differs from the request.")
  | _, _ => ["A single requested " ++ label ++ " measurement is required."]

/-- The flags of a command that the request determines. -/
def expectedFlags (record : BenchmarkRecord) : List (String × Option String) :=
  [("-m", record.localPath), ("-dev", expectedDevice record),
    ("-ngl", some (offloadText record.gpuLayers)), ("-p", some (sizesText record.prefillSizes)),
    ("-n", some (sizesText record.generationSizes)), ("-r", some (toString record.repetitions))]

/-- What a command says of a flag. -/
def flagBlocker (command : List String) (flag : String) (value : Option String) : Option String :=
  match value, commandValue command flag with
  | some value, some given =>
    if given = some value then none
    else some ("Recorded command " ++ flag ++ " differs from the recorded request.")
  | _, _ => some ("Recorded command " ++ flag ++ " is missing or ambiguous.")

/-- Python `fastest_record_blockers`. -/
def fastestRecordBlockers (record : BenchmarkRecord) : List String :=
  let observation := record.observation
  let build := reportedBenchBuild (observation.rawStdout ++ "\n" ++ observation.rawStderr)
  let probed := (truthy record.llamaBenchVersion.join).bind reportedBenchBuild
  reasonIf (!observation.success || observation.exitCode ≠ some 0)
    "Benchmark did not complete with a confirmed successful exit." ++
  reasonIf (record.runtime.runtime ≠ .llamaCpp || record.artifact.format ≠ "gguf")
    "Fastest v1 requires a llama-bench GGUF measurement." ++
  reasonIf
    (observation.methodology ≠ some "llama_bench_v1" && observation.methodology ≠ some "llama_bench_v2")
    "llama-bench methodology is missing or unsupported." ++
  reasonIf (exactSha record.artifact.sha256).isNone "Exact artifact SHA256 is missing or invalid." ++
  reasonIf (!record.isVerified) "The record does not confirm a verified artifact." ++
  reasonIf build.isNone
    "The producing llama-bench build is unknown or ambiguous in the output." ++
  reasonIf (probed.isSome && probed ≠ build)
    "The probed llama-bench build disagrees with the producing build." ++
  reasonIf (record.repetitions ≠ 5 || observation.repetitions ≠ 5)
    "Fastest v1 requires five repetitions." ++
  measurementBlockers record .generation 128 "tg128" record.generationSizes ++
  measurementBlockers record .prefill 512 "pp512" record.prefillSizes ++
  (expectedFlags record).filterMap (fun (flag, value) => flagBlocker observation.command flag value) ++
  if observation.methodology = some "llama_bench_v2" then v2Blockers repr record build
  else protocolBlockers observation.protocol build

end Audit

end Jaull.Recommendation
