import Jaull.Cases.CaseRecords
import Jaull.Lib.Grouping
import Jaull.Lib.HalfEven
import Jaull.Recommendation.RecordAudit

/-!
# Comparison of benchmarks

Port of `jaull/evaluation/benchmark_comparison.py`: benchmark records as execution plans side by side. The
successful records are grouped by configuration twice, once to drop older methodologies and once to keep the
newest run of each configuration, and the plans are compared with the oldest one that is left.
-/

namespace Jaull.Evaluation
open Jaull.Cases Jaull.Domain Jaull.Lib Jaull.Recommendation Jaull.Text

/-- Python `BenchmarkPlanSummary`. -/
structure BenchmarkPlanSummary where
  benchmarkId : String
  label : String
  runtime : String
  artifactFormat : String
  quantizationOrPrecision : Option String := none
  backend : String
  methodology : Option String := none
  peakRamBytes : Option ℤ := none
  peakVramBytes : Option ℤ := none
  modelLoadSeconds : Option ℚ := none
  timeToFirstTokenSeconds : Option ℚ := none
  compatibleRunCount : ℕ := 1
  deriving DecidableEq, Repr

/-- Python `BenchmarkPlanMetricComparison`. -/
structure BenchmarkPlanMetricComparison where
  kind : BenchmarkMeasurementKind
  tokens : ℤ
  baselineLabel : String
  candidateLabel : String
  baselineTokensPerSecond : ℚ
  candidateTokensPerSecond : ℚ
  relativeThroughput : ℚ
  warning : Option String := none
  deriving DecidableEq, Repr

/-- Python `BenchmarkComparison`. -/
structure BenchmarkComparison where
  modelIdentity : ModelIdentity
  sameHardware : Bool
  hardware : Option HardwareProfile := none
  plans : List BenchmarkPlanSummary := []
  metrics : List BenchmarkPlanMetricComparison := []
  warnings : List String := []
  deriving DecidableEq, Repr

section Configuration

/-- Python `preferred_benchmark_methodology`. -/
def preferredBenchmarkMethodology (runtime : RuntimeName) : Option String :=
  (knownBenchmarkMethodologies runtime).head?

/-- Python `BenchmarkGpuLayers.label`. -/
def gpuLayersLabel : BenchmarkGpuLayers → String
  | .fullOffload => "all"
  | .count layers => toString layers

/-- The stored value of a kind of measurement (Python `BenchmarkMeasurementKind.value`). -/
def measurementKindValue : BenchmarkMeasurementKind → String
  | .prefill => "prefill"
  | .generation => "generation"

/-- Python `_artifact_format`. -/
def artifactFormat (record : CaseBenchmark) : String :=
  lower record.artifact.format

/-- Python `_quantization_or_precision`. -/
def quantizationOrPrecision (record : CaseBenchmark) : Option String :=
  (record.artifact.quantization.filter (· ≠ "")).or
    ((record.runtime.flags.find? fun flag => flag.name = "quantization" || flag.name = "torch_dtype").map (·.value))

/-- Python `_configuration_key` without the methodology. -/
def workloadKey (record : CaseBenchmark) : List String :=
  machineFingerprint record.hardware ++
    [record.artifact.repoId, record.artifact.revision, record.artifact.filename,
      record.artifact.sha256.getD "", lower record.artifact.format, record.artifact.quantization.getD "",
      (quantizationOrPrecision record).getD "", record.runtime.runtime.value, (benchmarkBuild record).getD "",
      record.requestedBackend.value, record.requestedDevice.getD "", gpuLayersLabel record.gpuLayers,
      sizesText record.prefillSizes, sizesText record.generationSizes, toString record.repetitions]

/-- Python `_configuration_key`. -/
def configurationKey (record : CaseBenchmark) : List String :=
  workloadKey record ++ [record.observation.methodology.getD ""]

/-- Python `_label`. -/
def planLabel (record : CaseBenchmark) : String :=
  " · ".intercalate
    [record.runtime.runtime.value, lower record.artifact.format,
      ((quantizationOrPrecision record).filter (· ≠ "")).getD "default", record.requestedBackend.value]

/-- Python `_plan_summary`. -/
def planSummary (record : CaseBenchmark) (compatibleRunCount : ℕ) : BenchmarkPlanSummary where
  benchmarkId := record.benchmarkId
  label := planLabel record
  runtime := record.runtime.runtime.value
  artifactFormat := artifactFormat record
  quantizationOrPrecision := quantizationOrPrecision record
  backend := record.requestedBackend.value
  methodology := record.observation.methodology
  peakRamBytes := record.observation.peakRamBytes
  peakVramBytes := record.observation.peakVramBytes
  modelLoadSeconds := record.observation.modelLoadSeconds
  timeToFirstTokenSeconds := record.observation.timeToFirstTokenSeconds
  compatibleRunCount := compatibleRunCount

end Configuration

section Selection

/-- The records of a group with the methodology that is preferred for the runtime of its first one. -/
def preferredRecords : List CaseBenchmark → List CaseBenchmark
  | [] => []
  | first :: rest => (first :: rest).filter fun record =>
    record.observation.methodology = preferredBenchmarkMethodology first.runtime.runtime

/-- What is kept of a group. -/
def preferOf (group : List CaseBenchmark) : List CaseBenchmark :=
  if preferredRecords group = [] then group else preferredRecords group

/-- Whether something of a group is left out. -/
def omitsSome (group : List CaseBenchmark) : Bool :=
  preferredRecords group ≠ [] && (preferredRecords group).length ≠ group.length

/-- Python `_prefer_current_methodologies`. -/
def preferCurrentMethodologies (records : List CaseBenchmark) : List CaseBenchmark × List String :=
  let groups := (grouped (fun record => some (workloadKey record)) records).map Prod.snd
  (groups.flatMap preferOf,
    if groups.any omitsSome then ["Older benchmark methodologies were omitted from the default comparison."]
    else [])

/-- Python `_latest_records_by_configuration`. -/
def latestRecordsByConfiguration (records : List CaseBenchmark) :
    List CaseBenchmark × List (List String × ℕ) × List String :=
  if records = [] then ([], [], [])
  else
    let successful := records.filter (·.observation.success)
    let (filtered, warnings) := preferCurrentMethodologies successful
    let warnings :=
      if successful.length ≠ records.length then
        warnings ++ ["Failed benchmark runs were excluded from performance comparison."]
      else warnings
    let groups := grouped (fun record => some (configurationKey record)) filtered
    let latest := groups.filterMap fun group => (sortedBy (·.createdAt) group.2).getLast?
    (sortedBy (·.createdAt) latest, groups.map fun group => (group.1, group.2.length), warnings)

end Selection

section Metrics

/-- Python `_same_machine`. -/
def sameMachine : List CaseBenchmark → Bool
  | [] => false
  | first :: rest => (first :: rest).all fun record =>
    machineFingerprint record.hardware = machineFingerprint first.hardware

/-- Python `len({field(record) for record in records}) > 1`. -/
def differing {α : Type} [DecidableEq α] (field : CaseBenchmark → α) (records : List CaseBenchmark) : Bool :=
  1 < (records.map field).dedup.length

/-- Python `_warnings`. -/
def comparisonWarnings (records : List CaseBenchmark) : List String :=
  if records = [] then ["No successful benchmark records were provided."]
  else
    (if sameMachine records then [] else ["Machine identity differs."]) ++
    (if differing artifactFormat records then
      ["Artifact formats differ; runtime effects are not isolated."] else []) ++
    (if differing quantizationOrPrecision records then
      ["Quantization or precision differs; throughput includes artifact effects."] else []) ++
    (if differing (·.observation.methodology) records then
      ["Benchmark methodologies differ; metrics are conceptually comparable only."] else []) ++
    (if differing (·.repetitions) records then ["Repetition counts differ."] else [])

/-- Python `part in text`. -/
def hasPart (part text : String) : Bool :=
  text.toList.tails.any (part.toList.isPrefixOf ·)

/-- Python `_methodological_warning`. -/
def methodologicalWarning (warnings : List String) : Option String :=
  match warnings.filter fun warning => hasPart "differ" warning || hasPart "methodolog" warning with
  | [] => none
  | relevant => some (" ".intercalate relevant)

/-- A measurement by what it measured. -/
abbrev MeasurementEntry : Type :=
  (BenchmarkMeasurementKind × ℤ) × BenchmarkMeasurement

/-- Python `_measurement_map`. -/
def measurementMap (record : CaseBenchmark) : List MeasurementEntry :=
  dictComprehension (fun measurement => (measurement.kind, measurement.tokens)) id record.observation.measurements []

/-- The warning that a baseline has no throughput to compare with. -/
def zeroThroughput (kind : BenchmarkMeasurementKind) (tokens : ℤ) : String :=
  "Relative throughput unavailable for " ++ measurementKindValue kind ++ " " ++ toString tokens ++
    " tokens: the baseline measured zero throughput."

/-- One round of the inner loop of `_metric_comparisons`: the comparisons and warnings so far, and an entry of
the baseline's map. -/
def compareMeasurement (warning : Option String) (baseline candidate : CaseBenchmark)
    (state : List BenchmarkPlanMetricComparison × List String) (entry : MeasurementEntry) :
    List BenchmarkPlanMetricComparison × List String :=
  match (measurementMap candidate).lookup entry.1 with
  | none => state
  | some measured =>
    let text := zeroThroughput entry.1.1 entry.1.2
    if entry.2.meanTokensPerSecond = 0 then
      (state.1, if text ∈ state.2 then state.2 else state.2 ++ [text])
    else
      (state.1 ++
        [{ kind := entry.1.1
           tokens := entry.1.2
           baselineLabel := planLabel baseline
           candidateLabel := planLabel candidate
           baselineTokensPerSecond := entry.2.meanTokensPerSecond
           candidateTokensPerSecond := measured.meanTokensPerSecond
           relativeThroughput := boundedDouble (measured.meanTokensPerSecond / entry.2.meanTokensPerSecond)
           warning := warning }], state.2)

/-- Python `_metric_comparisons`, with the warnings it leaves. -/
def metricComparisons (records : List CaseBenchmark) (warnings : List String) :
    List BenchmarkPlanMetricComparison × List String :=
  match records with
  | baseline :: second :: rest =>
    (second :: rest).foldl (fun state candidate =>
      (measurementMap baseline).foldl
        (compareMeasurement (methodologicalWarning warnings) baseline candidate) state) ([], warnings)
  | _ => ([], warnings)

/-- The comparison of the records selected. -/
def comparisonOf (modelIdentity : ModelIdentity) (selected : List CaseBenchmark)
    (runCount : CaseBenchmark → ℕ) (selectionWarnings : List String) : BenchmarkComparison :=
  let metrics := metricComparisons selected (selectionWarnings ++ comparisonWarnings selected)
  { modelIdentity
    sameHardware := sameMachine selected
    hardware := if sameMachine selected then selected.head?.map (·.hardware) else none
    plans := selected.map fun record => planSummary record (runCount record)
    metrics := metrics.1
    warnings := metrics.2 }

/-- Python `compare_benchmark_records`. -/
def compareBenchmarkRecords (modelIdentity : ModelIdentity) (records : List CaseBenchmark) : BenchmarkComparison :=
  let (selected, runCounts, warnings) := latestRecordsByConfiguration records
  comparisonOf modelIdentity selected (fun record => (runCounts.lookup (configurationKey record)).getD 0) warnings

end Metrics

end Jaull.Evaluation
