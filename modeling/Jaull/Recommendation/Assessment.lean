import Jaull.Domain.Licenses
import Jaull.Lib.ListMap
import Jaull.Recommendation.Generation
import Jaull.Recommendation.Quality

/-!
# Assessing execution plans

Port of `assess_plan` and of the functions under it of `jaull/recommendation/engine_v2.py`. Scores are
exact rationals.
-/

namespace Jaull.Recommendation
open Jaull.Domain Jaull.ExecutionPlans Jaull.Lib Jaull.Text

/-- Python `text.replace("_", "-")`. -/
def dashed (text : String) : String :=
  String.ofList (text.toList.map fun c => if c = '_' then '-' else c)

/-- Non-empty pieces of Python `re.split(r"[^a-z0-9.]+", text)`. -/
def signalWords (text : String) : List String :=
  let separates (c : Char) : Bool := !(isAsciiLower c || ('0' ≤ c && c ≤ '9') || c = '.')
  ((text.toList.splitOnP separates).filter (· ≠ [])).map String.ofList

/-- Python `_candidate_signal_tokens`. -/
def candidateSignalTokens (evaluated : EvaluatedCandidate) : List String :=
  let values :=
    [afterLast '/' evaluated.repoId, evaluated.candidate.pipelineTag.getD "",
      evaluated.candidate.libraryName.getD ""] ++ evaluated.candidate.tags
  let normalized := (values.map fun value => lower (strip value)).filter (· ≠ "")
  normalized.flatMap fun value => value :: dashed value :: signalWords value

/-- Python `_has_signal`. -/
def hasSignal (tokens : List String) (signal : String) : Bool :=
  let normalized := lower signal
  normalized ∈ tokens || dashed normalized ∈ tokens

/-- The languages a card declares, without their regions. -/
def declaredLanguages (evaluated : EvaluatedCandidate) : List String :=
  evaluated.candidate.languages.map fun language => beforeFirst '-' (lower language)

/-- Python `"multilingual" in {tag.lower() for tag in tags}`. -/
def multilingual (evaluated : EvaluatedCandidate) : Bool :=
  "multilingual" ∈ evaluated.candidate.tags.map lower

/-- The card declares languages and none of those asked for (Python
`_declared_language_mismatch`). -/
def declaredLanguageMismatch (evaluated : EvaluatedCandidate) (requirements : UserRequirements) :
    Bool :=
  !requirements.languages.isEmpty && !evaluated.candidate.languages.isEmpty &&
  !multilingual evaluated &&
  !requirements.languages.any (beforeFirst '-' · ∈ declaredLanguages evaluated)

/-- Python `_language_fit`. -/
def languageFit (evaluated : EvaluatedCandidate) (requirements : UserRequirements) :
    AssessmentLevel :=
  let declared := declaredLanguages evaluated
  if requirements.languages.isEmpty then .unknown
  else if declaredLanguageMismatch evaluated requirements then .weak
  else if !declared.isEmpty && requirements.languages.all (beforeFirst '-' · ∈ declared) then
    .strong
  else if multilingual evaluated then .adequate
  else .unknown

/-- The task score once the signals of the name and the tags are read (the `task_score` of Python
`_task_suitability`). -/
def taskScore (evaluated : EvaluatedCandidate) (useCase : UseCase) : ℚ :=
  let score := evaluated.taskMatchScore
  if useCase = .generalChat || useCase = .reasoning || useCase = .documentQa then
    let tokens := candidateSignalTokens evaluated
    let chat := ["chat", "assistant", "conversational"].any (hasSignal tokens)
    let instruction := chat || ["instruct", "instruction"].any (hasSignal tokens)
    let base := ["base", "pretrain", "foundation"].any (hasSignal tokens)
    if instruction then
      if chat then max score (65 / 100) else min (max score (65 / 100)) (70 / 100)
    else if base then min score (40 / 100)
    else score
  else score

/-- Python `_license_fit`. -/
def licenseFit (evaluated : EvaluatedCandidate) (requirements : UserRequirements) :
    AssessmentLevel :=
  match classifyLicense evaluated.candidate.license with
  | .commercialAllowed => .strong
  | .commercialRestricted => if requirements.commercial then .blocked else .weak
  | .unknown => .unknown

/-- Python `_capability_level`. -/
def capabilityLevel (capability : CapabilitySignal) : AssessmentLevel :=
  if capability.score ≥ 72 / 100 then .strong
  else if capability.score ≥ 55 / 100 then .adequate
  else if capability.score > 0 then .weak
  else .unknown

section Plan
variable (plan : ExecutionPlan)

/-- Python `_feasibility`. -/
def feasibility : AssessmentLevel :=
  match plan.memoryPrediction with
  | none => .unknown
  | some prediction =>
    match prediction.assessment.status with
    | .comfortable => .strong
    | .compatible | .tight => .adequate
    | .offloadingRequired => .weak
    | .insufficient => .blocked
    | .unknown => .unknown

/-- Whether the plan is technically coherent, not whether it can run now (Python `_executability`). -/
def executability : AssessmentLevel :=
  match plan.compatibility with
  | .notCompatible => .blocked
  | .compatible => .strong
  | .unknown => .unknown

/-- Python `_execution_fitness`. -/
def executionFitness : AssessmentLevel :=
  if executability plan = .blocked || feasibility plan = .blocked then .blocked
  else if executability plan = .unknown then .unknown
  else feasibility plan

/-- Whether this installation could launch the plan now: reported, never ranked (Python
`_runtime_readiness`). -/
def runtimeReadiness : AssessmentLevel :=
  match plan.executionReadiness with
  | none => .unknown
  | some readiness =>
    match readiness.status with
    | .ready => .strong
    | .preparable => .adequate
    | .notReady => .blocked
    | .unknown => .unknown

/-- Python `_resource_evidence_from_estimate`. -/
def resourceEvidenceFromEstimate : AssessmentLevel :=
  match plan.memoryPrediction with
  | none => .unknown
  | some prediction =>
    match prediction.assessment.confidence with
    | .high => .strong
    | .medium => .adequate
    | .low | .unknown => .weak

/-- Python `_weaker_confidence`. -/
def weakerConfidence (left right : EstimationConfidence) : EstimationConfidence :=
  if confidenceRank left ≥ confidenceRank right then left else right

/-- Python `_confidence`. -/
def planConfidence (evaluated : EvaluatedCandidate) : EstimationConfidence :=
  match plan.memoryPrediction with
  | none => evaluated.candidate.metadataConfidence
  | some prediction =>
    weakerConfidence evaluated.candidate.metadataConfidence prediction.assessment.confidence

end Plan

/-- Python `_measured_memory`. -/
def measuredMemory (experiment : Option ExperimentRecord) (benchmark : Option BenchmarkRecord) :
    Option ℤ :=
  let observed :=
    (experiment.map fun record => [record.peakRamBytes, record.peakVramBytes]).getD [] ++
    (benchmark.map fun record =>
      [record.observation.peakRamBytes, record.observation.peakVramBytes]).getD []
  observed.reduceOption.max?

section Constraints
variable (collaborators : Collaborators) (evaluated : EvaluatedCandidate) (plan : ExecutionPlan)
  (requirements : UserRequirements)

/-- The runtime of the plan fails it (the first constraint of Python `_hard_constraints`). The message of
an unsupported configuration is read back from the warnings. -/
def runtimeConstraint (memoryInsufficient : Bool) : Option HardConstraint :=
  if plan.runtime.runtime = .unknown then
    if memoryInsufficient then none
    else
      let reason := plan.runtime.warnings.head?.getD "No runtime recommendation was available."
      some
        { code := .runtimeUndetermined
          message := "No runtime could be planned: " ++ reason
          evidenceKey := some "runtime.recommendation" }
  else if plan.runtime.runtime ∉ plan.artifact.compatibleRuntimes then
    some
      { code := .artifactRuntimeIncompatible
        message := "Artifact is not compatible with the selected runtime."
        evidenceKey := some "artifact.runtime" }
  else if plan.compatibility = .notCompatible then
    some
      { code := .artifactRuntimeIncompatible
        message := plan.warnings.getLast?.getD "Unsupported execution configuration."
        evidenceKey := some "plan.technical_support" }
  else none

/-- Python `_hard_constraints`. -/
def hardConstraints : List HardConstraint :=
  let memoryInsufficient :=
    plan.memoryPrediction.any fun prediction => prediction.assessment.status = .insufficient
  let restricted := requirements.commercial &&
    classifyLicense evaluated.candidate.license = .commercialRestricted
  (runtimeConstraint plan memoryInsufficient).toList ++
  (if memoryInsufficient then
    [{ code := .memoryInsufficient
       message := "Estimated memory exceeds available hardware memory."
       evidenceKey := some "memory.estimate" }] else []) ++
  if restricted then
    [{ code := .licenseIncompatible
       message := "License " ++ collaborators.repr (evaluated.candidate.license.getD "") ++
         " restricts commercial use."
       evidenceKey := some "license" }] else []

/-- Python `_task_suitability`. -/
def taskSuitability : AssessmentLevel :=
  let score := taskScore evaluated requirements.useCase
  if score ≥ 75 / 100 then .strong
  else if score ≥ 45 / 100 then .adequate
  else if collaborators.infersGeneralistSuitability evaluated requirements then .adequate
  else if score > 0 then .weak
  else if evaluated.candidate.metadataConfidence = .low then .unknown
  else .weak

/-- Task suitability, one level lower where the card declares only other languages (Python
`_suitability`). -/
def suitability : AssessmentLevel :=
  let level := taskSuitability collaborators evaluated requirements
  if declaredLanguageMismatch evaluated requirements then
    match level with
    | .strong => .adequate
    | .adequate => .weak
    | level => level
  else level

/-- Published results of the model this plan would run (Python `_matching_evaluations`). -/
def matchingEvaluations (evaluations : List ExternalEvaluationEvidence) :
    List ExternalEvaluationEvidence :=
  let identity := plan.modelIdentity
  match identity.canonicalRepoId, confirmedModelRepoId identity with
  | some canonical, some _ =>
    match collaborators.capabilitySubject canonical identity.variant with
    | none => []
    | some subject => evaluations.filter fun evaluation => evaluation.subject = some subject
  | _, _ => []

end Constraints

section Evidence

/-- Python `_base_evidence`. -/
def baseEvidence (evaluated : EvaluatedCandidate) (plan : ExecutionPlan) :
    List RecommendationEvidence :=
  [{ category := .identity
     key := "repository"
     value := evaluated.repoId
     source := .searchMetadata
     confidence := evaluated.candidate.metadataConfidence
     provenance := [("repo_id", .text evaluated.repoId)] },
    { category := .metadata
      key := "artifact"
      value := plan.artifact.label
      source := .modelAnalysis
      confidence := plan.artifact.confidence
      provenance :=
        [("repo_id", .text plan.artifact.repoId),
          ("filename", (plan.artifact.filename.map .text).getD .missing)] }] ++
  plan.memoryPrediction.toList.map fun prediction =>
    { category := .hardware
      key := "memory_estimate"
      value := (prediction.totalBytes.map toString).getD "None"
      source := .memoryEstimator
      confidence := prediction.assessment.confidence
      provenance :=
        [("status", .text prediction.assessment.status.value),
          ("context", .number prediction.inferenceConfiguration.contextLength)] }

/-- Python `_capability_evidence`. -/
def capabilityEvidence (capability : CapabilitySignal) : List RecommendationEvidence :=
  (capability.parameterCount.toList.map fun count =>
    { category := .metadata
      key := "parameter_count"
      value := toString count
      source := .modelAnalysis
      confidence := capability.confidence }) ++
  (capability.scaleTier.toList.map fun tier =>
    { category := .metadata
      key := "model_scale"
      value := tier
      source := .policy
      confidence := capability.confidence
      provenance :=
        [("parameter_count", (capability.parameterCount.map .number).getD .missing)] }) ++
  capability.chatOrBase.toList.map fun tuning =>
    { category := .metadata
      key := "assistant_tuning"
      value := tuning
      source := .heuristic
      confidence := .low }

/-- The evidence of a matching run and of a matching benchmark (in Python `assess_plan`). -/
def localEvidence (experiment : Option ExperimentRecord) (benchmark : Option BenchmarkRecord) :
    List RecommendationEvidence :=
  (experiment.toList.map fun record =>
    { category := .localRecord
      key := "validation"
      value := if record.success then "success" else "failed"
      source := .localExperiment
      confidence := .high
      observed := true
      provenance :=
        [("experiment_id", .text record.experimentId),
          ("artifact_identity", .text "metadata_match")] }) ++
  benchmark.toList.map fun record =>
    { category := .localRecord
      key := "benchmark"
      value := (truthy record.observation.methodology).getD "unknown"
      source := .localBenchmark
      confidence := .high
      observed := true
      provenance :=
        [("benchmark_id", .text record.benchmarkId),
          ("methodology", (record.observation.methodology.map .text).getD .missing),
          ("scope", .text "recorded_microbenchmark"),
          ("artifact_identity", .text "metadata_match")] }

/-- Python `_external_evidence`. -/
def externalEvidence (external : List ExternalEvaluationEvidence) : List RecommendationEvidence :=
  external.map fun item =>
    { category := .external
      key := "external:" ++ item.benchmark ++ ":" ++ item.task
      value := item.value ++ " " ++ item.metric
      source := .externalEvaluation
      confidence := item.confidence
      provenance :=
        [("benchmark", .text item.benchmark), ("task", .text item.task),
          ("source", .text item.source),
          ("revision", (item.revision.map .text).getD .missing)] }

/-- The evidence of a readiness verdict (in Python `assess_plan`). -/
def readinessEvidence (readiness : Option ExecutionReadiness) : List RecommendationEvidence :=
  readiness.toList.map fun readiness =>
    { category := .execution
      key := "readiness"
      value := readiness.status.value
      source := .executionReadiness
      confidence := .high
      observed := true }

/-- Python `_reasons` and `_with_capability_reasons`. -/
def assessmentReasons (evaluated : EvaluatedCandidate) (plan : ExecutionPlan)
    (experiment : Option ExperimentRecord) (benchmark : Option BenchmarkRecord)
    (measured : Option ℤ) (capability : CapabilitySignal) : List String :=
  let shown (holds : Bool) (reason : String) : List String := if holds then [reason] else []
  (plan.memoryPrediction.toList.map fun prediction =>
    "memory:" ++ prediction.assessment.status.value) ++
  (plan.executionReadiness.toList.map fun readiness => "runtime:" ++ readiness.status.value) ++
  shown (evaluated.taskMatchScore ≥ 45 / 100) "use_case:metadata_match" ++
  shown (evaluated.languageMatchScore ≥ 60 / 100) "language:metadata_match" ++
  shown experiment.isSome "local:validated" ++
  shown benchmark.isSome "local:benchmarked" ++
  shown measured.isSome "memory:measured" ++
  (capability.scaleTier.toList.map fun tier => "capability:scale:" ++ tier) ++
  (capability.chatOrBase.filter fun tuning => tuning = "chat" || tuning = "instruction").toList.map
    fun tuning => "capability:" ++ tuning ++ "_tuned"

/-- Python `_trade_offs` and `_with_capability_trade_offs`. -/
def assessmentTradeOffs (plan : ExecutionPlan) (external : List ExternalEvaluationEvidence)
    (capability : CapabilitySignal) : List String :=
  let shown (holds : Bool) (tradeOff : String) : List String := if holds then [tradeOff] else []
  (plan.artifact.quantization.toList.map ("quantized:" ++ ·)) ++
  ((plan.artifact.precision.filter fun precision => precision = "int8" || precision = "int4").toList.map
    ("runtime_quantization:" ++ ·)) ++
  shown external.isEmpty "external_quality_evidence:incomplete" ++
  shown plan.executionReadiness.isNone "runtime_readiness:not_checked" ++
  shown (capability.scaleTier = some "lightweight") "capability:lightweight_model" ++
  shown (capability.chatOrBase = some "base") "capability:base_model"

end Evidence

/-- Python `assess_plan`. -/
def assessPlan (collaborators : Collaborators) (context : PlanRankingContext)
    (requirements : UserRequirements) (evaluated : EvaluatedCandidate) (plan : ExecutionPlan) :
    PlanAssessment :=
  let capability := collaborators.analyzeCapability evaluated.candidate evaluated.analysis
  let hard := hardConstraints collaborators evaluated plan requirements
  let experiment := matchingExperiment collaborators.readers plan context.experimentRecords
  let benchmark := matchingBenchmark collaborators.readers plan context.benchmarkRecords
  let measured := measuredMemory experiment benchmark
  let speed := assessSpeed collaborators.readers plan requirements context.benchmarkRecords
  let external := matchingEvaluations collaborators plan context.externalEvaluations
  { planId := plan.planId
    hardConstraints := hard
    capability := capabilityLevel capability
    quality := assessQuality plan.artifact.sha256 requirements (capabilityLevel capability)
      context.qualityIndex !external.isEmpty
    speed := speed
    suitability := suitability collaborators evaluated requirements
    executionFitness := executionFitness plan
    feasibility := feasibility plan
    executability := executability plan
    runtimeReadiness := runtimeReadiness plan
    performanceEvidence := if speed.applicable.isSome then .strong else .unknown
    resourceEvidence := if measured.isSome then .strong else resourceEvidenceFromEstimate plan
    licenseFit := licenseFit evaluated requirements
    languageFit := languageFit evaluated requirements
    confidence := planConfidence plan evaluated
    evidence := baseEvidence evaluated plan ++ capabilityEvidence capability ++
      localEvidence experiment benchmark ++ externalEvidence external ++
      readinessEvidence plan.executionReadiness
    externalEvaluations := external
    reasons := assessmentReasons evaluated plan experiment benchmark measured capability
    tradeOffs := assessmentTradeOffs plan external capability
    rejectionReasons := hard.map (·.message)
    measuredMemoryBytes := measured
    estimatedMemoryBytes := plan.memoryPrediction.bind (·.totalBytes)
    measuredGenerationTokensPerSecond := speed.applicable.map (·.tokensPerSecond)
    localExperimentId := experiment.map (·.experimentId)
    localBenchmarkId := benchmark.map (·.benchmarkId) }

/-- Assessed plans of one candidate (the loop body of Python `rank_execution_plans`). -/
def assessedPlans (collaborators : Collaborators) (context : PlanRankingContext)
    (estimateFn : Option EstimatePlanFn) (requirements : UserRequirements)
    (evaluated : EvaluatedCandidate) : Except String (List RankedPlan) :=
  if evaluated.failed || evaluated.analysis.isNone then .ok []
  else
    (generateExecutionPlans collaborators context estimateFn requirements evaluated).map fun plans =>
      plans.map fun plan =>
        { evaluated := evaluated
          plan := plan
          assessment := assessPlan collaborators context requirements evaluated plan
          useCase := some requirements.useCase }

/-- Python `rank_execution_plans`. -/
def rankExecutionPlans (collaborators : Collaborators) (context : PlanRankingContext)
    (estimateFn : Option EstimatePlanFn) (requirements : UserRequirements) (limit : Option ℤ)
    (evaluated : List EvaluatedCandidate) : Except String (List RankedPlan) :=
  (evaluated.mapM (assessedPlans collaborators context estimateFn requirements)).map fun ranked =>
    rankPlans requirements limit ranked.flatten

section Origin
variable {collaborators : Collaborators} {context : PlanRankingContext}
  {estimateFn : Option EstimatePlanFn} {requirements : UserRequirements}

/-- Where an assessed plan comes from. -/
lemma mem_assessedPlans {evaluated plans item}
    (run : assessedPlans collaborators context estimateFn requirements evaluated = .ok plans)
    (mem : item ∈ plans) :
    ∃ generated,
      generateExecutionPlans collaborators context estimateFn requirements evaluated =
        .ok generated ∧ item.plan ∈ generated ∧
      item =
        { evaluated := evaluated
          plan := item.plan
          assessment := assessPlan collaborators context requirements evaluated item.plan
          useCase := some requirements.useCase } := by
  unfold assessedPlans at run
  split at run
  case isTrue =>
    cases run
    cases mem
  case isFalse =>
    obtain ⟨generated, planned, rfl⟩ := exists_of_map_eq_ok run
    obtain ⟨plan, memP, rfl⟩ := List.mem_map.mp mem
    exact ⟨generated, planned, memP, rfl⟩

/-- Where a ranked plan comes from. -/
lemma mem_rankExecutionPlans {limit candidates ranked item}
    (run : rankExecutionPlans collaborators context estimateFn requirements limit candidates =
      .ok ranked) (mem : item ∈ ranked) :
    item.evaluated ∈ candidates ∧
      (∃ generated,
        generateExecutionPlans collaborators context estimateFn requirements item.evaluated =
          .ok generated ∧ item.plan ∈ generated) ∧
      item =
        { evaluated := item.evaluated
          plan := item.plan
          assessment := assessPlan collaborators context requirements item.evaluated item.plan
          useCase := some requirements.useCase } := by
  obtain ⟨assessed, assessing, rfl⟩ := exists_of_map_eq_ok run
  obtain ⟨plans, memPs, memI⟩ :=
    List.mem_flatten.mp (rankPlans_subset requirements limit assessed.flatten mem)
  obtain ⟨evaluated, memE, assessed⟩ := mem_of_mapM_ok assessing memPs
  obtain ⟨generated, planned, memP, eq⟩ := mem_assessedPlans assessed memI
  have candidate : item.evaluated = evaluated := by rw [eq]
  subst candidate
  exact ⟨memE, ⟨generated, planned, memP⟩, eq⟩

end Origin

end Jaull.Recommendation
