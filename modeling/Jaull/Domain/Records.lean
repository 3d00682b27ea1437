import Jaull.Domain.Recommendation

/-!
# Stored records

Port of the fields of `jaull/domain/artifacts.py`, `benchmarks.py`, `experiments.py` and of the quality
record index that matching records to plans reads. A time stamp is an integer, a rate an exact rational.
`rest` stands for the fields of a record that no modelled function reads, and `spelling` for how the values
of a record are written where Python compares different spellings equal: the zone of a time, the sign of
a zero, the order of the keys of a mapping.
-/

namespace Jaull.Domain

/-- A file an artifact was run from (Python `ModelArtifact`). -/
structure ModelArtifact where
  repoId : String
  revision : String
  filename : String
  format : String
  quantization : Option String := none
  sizeBytes : Option ℤ := none
  sha256 : Option String := none
  deriving DecidableEq, Repr

/-- Python `BenchmarkMeasurementKind`. -/
inductive BenchmarkMeasurementKind
  | prefill | generation
  deriving DecidableEq, Repr

/-- One measured rate (Python `BenchmarkMeasurement`). -/
structure BenchmarkMeasurement where
  kind : BenchmarkMeasurementKind
  tokens : ℤ
  meanTokensPerSecond : ℚ
  stddevTokensPerSecond : ℚ
  repetitions : Option ℤ := none
  rawDevice : Option String := none
  rawNgl : Option String := none
  deriving DecidableEq, Repr

/-- The settings `llama-bench` reported for a run (Python `LlamaBenchProtocol`). -/
structure LlamaBenchProtocol where
  buildCommit : Option String := none
  buildNumber : Option ℤ := none
  nThreads : Option ℤ := none
  nBatch : Option ℤ := none
  nUbatch : Option ℤ := none
  cacheTypeK : Option String := none
  cacheTypeV : Option String := none
  flashAttn : Option String := none
  loadMode : Option String := none
  warmup : Option String := none
  threadPolicy : Option String := none
  deriving DecidableEq, Repr

/-- What a benchmark run observed (Python `BenchmarkObservation`). -/
structure BenchmarkObservation where
  success : Bool
  measurements : List BenchmarkMeasurement := []
  repetitions : ℤ
  protocol : Option LlamaBenchProtocol := none
  methodology : Option String := none
  modelLoadSeconds : Option ℚ := none
  timeToFirstTokenSeconds : Option ℚ := none
  peakRamBytes : Option ℤ := none
  peakVramBytes : Option ℤ := none
  command : List String := []
  exitCode : Option ℤ := none
  rawStdout : String := ""
  rawStderr : String := ""
  deriving DecidableEq, Repr

/-- Requested offload (Python `BenchmarkGpuLayers`); its validator asks for a count unless everything is
offloaded. -/
inductive BenchmarkGpuLayers
  | fullOffload
  | count (layers : ℕ)
  deriving DecidableEq, Repr

/-- One stored benchmark (Python `BenchmarkRecord`). The sizes and `repetitions` are those of its request,
`localPath` and `isVerified` those of its artifact; the version text of `llama-bench` stands there when its
probe was recorded. -/
structure BenchmarkRecord where
  benchmarkId : String
  createdAt : ℤ
  hardware : HardwareProfile
  artifact : ModelArtifact
  runtime : RuntimeRecommendation
  requestedBackend : ComputeBackend
  requestedDevice : Option String := none
  gpuLayers : BenchmarkGpuLayers
  prefillSizes : List ℤ := [128, 512, 2048]
  generationSizes : List ℤ
  repetitions : ℤ := 5
  observation : BenchmarkObservation
  localPath : Option String := none
  isVerified : Bool := false
  llamaBenchVersion : Option (Option String) := none
  rest : String := ""
  spelling : String := ""
  deriving DecidableEq, Repr

/-- Python `==` of two records. -/
def BenchmarkRecord.equals (a b : BenchmarkRecord) : Bool :=
  { a with spelling := b.spelling } = b

/-- One stored run of a plan (Python `ExperimentRecord`). -/
structure ExperimentRecord where
  experimentId : String
  createdAt : ℤ
  hardware : HardwareProfile
  artifact : ModelArtifact
  runtime : RuntimeRecommendation
  predictedConfiguration : InferenceConfiguration
  preflightBackend : ComputeBackend
  observedBackend : Option ComputeBackend := none
  success : Bool
  peakRamBytes : Option ℤ := none
  peakVramBytes : Option ℤ := none
  deriving DecidableEq, Repr

/-- One metric of a quality run (Python `QualityMetric`). -/
structure QualityMetric where
  name : String
  value : ℚ
  correct : ℕ
  samples : ℕ
  deriving DecidableEq, Repr

/-- What a quality record measured (Python `QualityEvidence`). -/
structure QualityEvidence where
  identitySha256 : String
  artifactSha256 : String
  suite : String
  metrics : List QualityMetric
  samplesUsed : ℤ
  samplesAvailable : ℤ
  classification : String
  reusable : Bool
  limitations : List String := []
  deriving DecidableEq, Repr

/-- A validated quality record with its digest and its comparison keys (an entry of Python
`QualityRecordIndex.by_artifact`). -/
structure QualityRecord where
  evidence : QualityEvidence
  recordSha256 : String
  cohort : String
  audited : Bool
  repeatKey : String
  deriving DecidableEq, Repr

/-- Quality records by artifact digest (Python `QualityRecordIndex`). -/
structure QualityRecordIndex where
  byArtifact : List (String × List QualityRecord) := []
  invalid : ℕ := 0
  deriving DecidableEq, Repr

end Jaull.Domain
