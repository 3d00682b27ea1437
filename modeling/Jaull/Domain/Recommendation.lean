import Mathlib.Data.List.Dedup
import Jaull.Domain.Candidates
import Jaull.Domain.ExecutionPlans
import Jaull.Domain.Requirements

/-!
# Recommendation domain

Port of the part of `jaull/domain/recommendation.py` that ranking builds and reads, and of the
`RankedPlan` record of `jaull/recommendation/engine_v2.py`. Fixed texts of an assessment that no
modelled function reads (the `scope` and default `limitations` strings) are left out.
-/

namespace Jaull.Domain

/-- Python `RecommendationEvidenceCategory`. -/
inductive RecommendationEvidenceCategory
  | identity | metadata | hardware | execution | localRecord | external | inference
  deriving DecidableEq, Repr

/-- Python `RecommendationEvidenceSource`. -/
inductive RecommendationEvidenceSource
  | searchMetadata | modelCardMetadata | modelAnalysis | memoryEstimator | runtimeCapability
  | executionReadiness | localExperiment | localBenchmark | externalEvaluation | heuristic | policy
  deriving DecidableEq, Repr

/-- A provenance value (Python `str | int | None`). -/
inductive ProvenanceValue
  | text (value : String)
  | number (value : ℤ)
  | missing
  deriving DecidableEq, Repr

/-- One visible piece of evidence (Python `RecommendationEvidence`). -/
structure RecommendationEvidence where
  category : RecommendationEvidenceCategory
  key : String
  value : String
  source : RecommendationEvidenceSource
  confidence : EstimationConfidence := .unknown
  observed : Bool := false
  provenance : List (String × ProvenanceValue) := []
  deriving DecidableEq, Repr

/-- What an evaluation was made of (Python `CapabilitySubject`). -/
structure CapabilitySubject where
  repoId : String
  variant : Option String := none
  revision : Option String := none
  precision : Option String := none
  deriving DecidableEq, Repr

/-- A published evaluation (Python `ExternalEvaluationEvidence`), its value already as text, and with the
subject only a catalogue entry has. -/
structure ExternalEvaluationEvidence where
  benchmark : String
  task : String
  value : String
  metric : String
  source : String
  confidence : EstimationConfidence := .unknown
  revision : Option String := none
  subject : Option CapabilitySubject := none
  rest : String := ""
  deriving DecidableEq, Repr

/-- The level of one assessment axis (Python `AssessmentLevel`). -/
inductive AssessmentLevel
  | strong | adequate | weak | blocked | unknown
  deriving DecidableEq, Repr

/-- The level's text. -/
def AssessmentLevel.value : AssessmentLevel → String
  | .strong => "strong"
  | .adequate => "adequate"
  | .weak => "weak"
  | .blocked => "blocked"
  | .unknown => "unknown"

/-- The place a shown plan takes (Python `RecommendationPosition`). -/
inductive RecommendationPosition
  | bestOverall | higherQuality | faster | lighter | alternative
  deriving DecidableEq, Repr

/-- Why a plan is rejected (Python `HardConstraintCode`). -/
inductive HardConstraintCode
  | memoryInsufficient | licenseIncompatible | languageIncompatible | runtimeNotReady
  | artifactRuntimeIncompatible | runtimeUndetermined | unsupportedTask
  deriving DecidableEq, Repr

/-- The code's text. -/
def HardConstraintCode.value : HardConstraintCode → String
  | .memoryInsufficient => "memory_insufficient"
  | .licenseIncompatible => "license_incompatible"
  | .languageIncompatible => "language_incompatible"
  | .runtimeNotReady => "runtime_not_ready"
  | .artifactRuntimeIncompatible => "artifact_runtime_incompatible"
  | .runtimeUndetermined => "runtime_undetermined"
  | .unsupportedTask => "unsupported_task"

/-- One failed requirement (Python `HardConstraint`). -/
structure HardConstraint where
  code : HardConstraintCode
  message : String
  evidenceKey : Option String := none
  deriving DecidableEq, Repr

/-- One measured quality figure of this exact artifact (Python `ApplicableQuality`). -/
structure ApplicableQuality where
  suite : String
  metric : String
  value : ℚ
  correct : ℕ
  samples : ℕ
  cohort : String
  recordSha256 : String
  deriving DecidableEq, Repr

/-- What the stored quality records say (Python literal of `QualityAssessment.applicability`). -/
inductive QualityApplicability
  | absent | referenceOnly | controlledArtifact
  deriving DecidableEq, Repr

/-- A pointer to a stored quality run (Python `LocalQualityReference`). -/
structure LocalQualityReference where
  identitySha256 : String
  recordSha256 : String
  artifactSha256 : String
  suite : String
  classification : String
  samplesUsed : ℤ
  samplesAvailable : ℤ
  metrics : List (String × ℚ) := []
  blockers : List String := []
  deriving DecidableEq, Repr

/-- Quality evidence of a plan (Python `QualityAssessment`). -/
structure QualityAssessment where
  useCase : Option UseCase := none
  languages : List String := []
  requestedProfile : Option String := none
  applicability : QualityApplicability := .absent
  applicable : Option ApplicableQuality := none
  metadataPrior : AssessmentLevel := .unknown
  localReferences : List LocalQualityReference := []
  limitations : List String := []
  deriving DecidableEq, Repr

/-- A pointer to a stored benchmark (Python `LocalSpeedReference`). -/
structure LocalSpeedReference where
  benchmarkId : String
  createdAt : ℤ
  artifactSha256 : String
  tg128TokensPerSecond : Option ℚ := none
  tg128StddevTokensPerSecond : Option ℚ := none
  pp512TokensPerSecond : Option ℚ := none
  pp512StddevTokensPerSecond : Option ℚ := none
  repetitions : Option ℤ := none
  blockers : List String := []
  deriving DecidableEq, Repr

/-- The measured generation speed of this exact plan (Python `ApplicableSpeed`). -/
structure ApplicableSpeed where
  metric : String := "tg128"
  tokensPerSecond : ℚ
  stddevTokensPerSecond : Option ℚ := none
  pp512TokensPerSecond : Option ℚ := none
  repetitions : ℤ
  cohort : String
  benchmarkId : String
  benchmarkIds : List String := []
  runCount : ℤ := 1
  observedMin : Option ℚ := none
  observedMax : Option ℚ := none
  deriving DecidableEq, Repr

/-- Whether the figure rests on at least three distinct calls with a range around it (Python
`ApplicableSpeed.ranking_ready`). -/
def ApplicableSpeed.rankingReady (speed : ApplicableSpeed) : Bool :=
  speed.runCount ≥ 3 && speed.benchmarkIds.dedup.length = speed.runCount &&
    match speed.observedMin, speed.observedMax with
    | some low, some high => low ≤ speed.tokensPerSecond && speed.tokensPerSecond ≤ high
    | _, _ => false

/-- What the stored benchmarks say (Python literal of `SpeedAssessment.applicability`). -/
inductive SpeedApplicability
  | absent | referenceOnly | measuredPlan
  deriving DecidableEq, Repr

/-- No speed, no applicability and no reference. -/
lemma unreferenced : (none : Option ApplicableSpeed) = none → SpeedApplicability.absent ≠ .absent →
    ([] : List LocalSpeedReference) ≠ [] := by
  simp

/-- Speed evidence of a plan (Python `SpeedAssessment`), as `assess_speed` builds it: where a benchmark
is stored but none applies, the stored one is referenced. -/
structure SpeedAssessment where
  applicability : SpeedApplicability := .absent
  applicable : Option ApplicableSpeed := none
  references : List LocalSpeedReference := []
  referenced : applicable = none → applicability ≠ .absent → references ≠ [] := by
    first | exact unreferenced | simp
  deriving DecidableEq, Repr

/-- The assessment of one plan along every axis (Python `PlanAssessment`). -/
structure PlanAssessment where
  planId : String
  hardConstraints : List HardConstraint := []
  capability : AssessmentLevel := .unknown
  quality : QualityAssessment := {}
  speed : SpeedAssessment := {}
  suitability : AssessmentLevel := .unknown
  executionFitness : AssessmentLevel := .unknown
  feasibility : AssessmentLevel := .unknown
  executability : AssessmentLevel := .unknown
  runtimeReadiness : AssessmentLevel := .unknown
  performanceEvidence : AssessmentLevel := .unknown
  resourceEvidence : AssessmentLevel := .unknown
  licenseFit : AssessmentLevel := .unknown
  languageFit : AssessmentLevel := .unknown
  confidence : EstimationConfidence := .unknown
  evidence : List RecommendationEvidence := []
  externalEvaluations : List ExternalEvaluationEvidence := []
  reasons : List String := []
  tradeOffs : List String := []
  rejectionReasons : List String := []
  measuredMemoryBytes : Option ℤ := none
  estimatedMemoryBytes : Option ℤ := none
  measuredGenerationTokensPerSecond : Option ℚ := none
  localExperimentId : Option String := none
  localBenchmarkId : Option String := none
  deriving DecidableEq, Repr

/-- A plan with a failed requirement (Python `PlanAssessment.rejected`). -/
def PlanAssessment.rejected (assessment : PlanAssessment) : Bool :=
  !assessment.hardConstraints.isEmpty

/-- A plan with the candidate it came from and its assessment (Python `RankedPlan`). -/
structure RankedPlan where
  evaluated : EvaluatedCandidate
  plan : ExecutionPlan
  assessment : PlanAssessment
  useCase : Option UseCase := none
  deriving DecidableEq

end Jaull.Domain
