import Jaull.Recommendation.Recommend

/-!
# The shadow report and recomparing

Port of `build_shadow_report`, `_fallback_reasons` and `recompare_quality` of
`jaull/recommendation/shadow.py`. Recomparing derives quality and speed from the raw records again and
looks evidence up by plan id; on the pool of a search it proposes what the search showed
(`recompareQuality_reproduces`).
-/

namespace Jaull.Recommendation
open Jaull.Domain Jaull.Lib Jaull.Text

/-- A plan no measured group holds, with why (Python `ShadowFallback`). -/
structure ShadowFallback where
  planId : String
  reasons : List String
  repoId : String := ""
  artifactLabel : String := ""
  artifactSha256 : Option String := none
  deriving DecidableEq, Repr

/-- The values of Python `ShadowTop5Change.change`. -/
inductive Top5ChangeKind
  | entered | left
  deriving DecidableEq, Repr

/-- Python `ShadowTop5Change`. -/
structure ShadowTop5Change where
  planId : String
  change : Top5ChangeKind
  moved : Bool
  deriving DecidableEq, Repr

/-- What the measured policy would show of a ranked pool (Python `ShadowReport`). -/
structure ShadowReport where
  policyVersion : String := "shadow-v2"
  priority : RecommendationPriority
  applied : Bool
  baseOrder : List String
  shadowOrder : List String
  groups : List ShadowGroup := []
  moves : List ShadowMove := []
  fallback : List ShadowFallback := []
  baseTop5 : List String := []
  shadowTop5 : List String := []
  top5Changes : List ShadowTop5Change := []
  deriving DecidableEq, Repr

/-- Evidence by plan id; the last plan of an id counts (the `found` of Python
`build_shadow_report`). -/
def foundEvidence (wilson : ℕ → ℕ → ℚ × ℚ) (ranked : List RankedPlan) (planId : String) :
    Option PlanEvidence :=
  (ranked.reverse.find? (·.plan.planId = planId)).map fun item =>
    productionEvidence wilson item.assessment

/-- What the stored references of a plan say (the `references` of Python `_fallback_reasons`). -/
def referenceSummary (references : List LocalQualityReference) : String :=
  String.intercalate ", " (references.map fun reference =>
    reference.suite ++ ": " ++ reference.classification ++ ", " ++
      toString reference.samplesUsed ++ "/" ++ toString reference.samplesAvailable ++
      " samples").eraseDups

/-- Why the policy did not order a plan, when its peers are known (the policy half of Python
`_fallback_reasons`). -/
def policyReasons (item : RankedPlan) (ranked : List RankedPlan)
    (evidence : String → Option PlanEvidence) (priority : RecommendationPriority)
    (found : PlanEvidence) : List String :=
  match policyOf priority with
  | none => ["This priority does not reorder plans using measured evidence."]
  | some policy =>
    match cohort policy found with
    | some own =>
      let peers := (ranked.filter fun other =>
        other.plan.planId ≠ item.plan.planId && !other.assessment.rejected).map fun other =>
          (evidence other.plan.planId).getD {}
      if peers.any (cohort policy · = some own) then
        ["Comparable evidence exists, but a stratum boundary separates the plans " ++
          "(confirmed fit, commercial confirmation, suitability, license or language)."]
      else if peers.any (cohort policy · |>.isSome) then
        ["Other eligible plans have evidence, but no matching comparison protocol " ++
          "(suite, dataset/samples, evaluator, runtime or generation settings)."]
      else ["No second eligible plan has applicable evidence for this priority."]
    | none =>
      if policy = .balanced then
        ["Balanced requires applicable quality and speed; an unknown axis cannot rank."]
      else []

/-- Python `_fallback_reasons`. -/
def fallbackReasons (item : RankedPlan) (ranked : List RankedPlan)
    (evidence : String → Option PlanEvidence) (priority : RecommendationPriority) : List String :=
  let found := (evidence item.plan.planId).getD {}
  let quality := item.assessment.quality
  let unknownSha :=
    if item.plan.artifact.sha256.isNone then
      ["Quality: artifact SHA256 unavailable; exact-artifact matching is impossible."]
    else []
  let stored :=
    if found.quality.isSome then []
    else
      (if quality.localReferences.isEmpty then []
      else ["Quality references for this SHA256: " ++ referenceSummary quality.localReferences ++ "."]) ++
      quality.limitations
  (policyReasons item ranked evidence priority found ++ unknownSha ++ found.fallbackReasons ++
    stored).eraseDups

/-- Plan ids of what diversity shows of an order. -/
def topPlanIds (requirements : UserRequirements) (limit : ℤ) (order : List RankedPlan) :
    List String :=
  (diversifyRankedPlans (tieKeyFor requirements) order limit).map (·.primary.plan.planId)

/-- Python `build_shadow_report`. -/
def buildShadowReport (wilson : ℕ → ℕ → ℚ × ℚ) (ranked : List RankedPlan)
    (requirements : UserRequirements) (limit : ℤ)
    (evidence : Option (String → Option PlanEvidence)) : Option ShadowReport :=
  let priority := requirements.priority
  let ranked := weakPlansLast ranked priority
  let found := evidence.getD (foundEvidence wilson ranked)
  (shadowOrder ranked priority requirements.commercial fun item =>
      (found item.plan.planId).getD {}).map fun (shadow, groups, moves) =>
    let baseTop := topPlanIds requirements limit ranked
    let shadowTop := topPlanIds requirements limit shadow
    let moved := moves.map (·.planId)
    let inGroup := groups.flatMap (·.planIds)
    { priority := priority
      applied := (policyOf priority).isSome
      baseOrder := ranked.map (·.plan.planId)
      shadowOrder := shadow.map (·.plan.planId)
      groups := groups
      moves := moves
      fallback :=
        (ranked.filter fun item =>
          item.plan.planId ∉ inGroup && !item.assessment.rejected).map fun item =>
            { planId := item.plan.planId
              reasons := fallbackReasons item ranked found priority
              repoId := item.plan.artifact.repoId
              artifactLabel := item.plan.artifact.label
              artifactSha256 := item.plan.artifact.sha256 }
      baseTop5 := baseTop
      shadowTop5 := shadowTop
      top5Changes :=
        ((shadowTop.filter (· ∉ baseTop)).map fun planId => ⟨planId, .entered, planId ∈ moved⟩) ++
        (baseTop.filter (· ∉ shadowTop)).map fun planId => ⟨planId, .left, planId ∈ moved⟩ }

/-- A plan with its quality, and its speed where benchmarks are given, derived again (the loop body of
Python `recompare_quality`). -/
def refreshed (readers : RecordReaders) (index : QualityRecordIndex)
    (benchmarkRecords : Option (List BenchmarkRecord)) (requirements : UserRequirements)
    (item : RankedPlan) : RankedPlan :=
  let assessment := item.assessment
  let quality := assessQuality item.plan.artifact.sha256 requirements
    assessment.quality.metadataPrior index !assessment.externalEvaluations.isEmpty
  let speed :=
    match benchmarkRecords with
    | none => assessment.speed
    | some records => assessSpeed readers item.plan requirements records
  { item with assessment := { assessment with quality := quality, speed := speed } }

section Records
variable {Record : Type} (indexQualityRecords : List Record → QualityRecordIndex)

/-- Python `recompare_quality`; `indexQualityRecords` validates and digests the raw records. -/
def recompareQuality (readers : RecordReaders) (wilson : ℕ → ℕ → ℚ × ℚ) (ranked : List RankedPlan)
    (requirements : UserRequirements) (records : List Record) (limit : ℤ)
    (benchmarkRecords : Option (List BenchmarkRecord)) : Option ShadowReport :=
  let index := indexQualityRecords records
  buildShadowReport wilson (ranked.map (refreshed readers index benchmarkRecords requirements))
    requirements limit none

end Records

/-- Looked up by id, a plan finds its own evidence when no two plans share an id. -/
lemma foundEvidence_eq {wilson ranked item} (distinct : InjOn (·.plan.planId) ranked)
    (mem : item ∈ ranked) :
    foundEvidence wilson ranked item.plan.planId =
      some (productionEvidence wilson item.assessment) := by
  rw [foundEvidence]
  cases found : ranked.reverse.find? (·.plan.planId = item.plan.planId) with
  | none =>
    have absent := List.find?_eq_none.mp found item (List.mem_reverse.mpr mem)
    exact absurd (decide_eq_true rfl) absent
  | some other =>
    have memO := List.mem_reverse.mp (List.mem_of_find?_eq_some found)
    have id : other.plan.planId = item.plan.planId := by simpa using List.find?_some found
    rw [distinct other memO item mem id]
    rfl

/-- The report over a pool without repeated ids shows the active order and what diversity shows of
it. -/
lemma buildShadowReport_active {wilson ranked requirements limit}
    (distinct : InjOn (·.plan.planId) ranked) :
    ∃ report active, buildShadowReport wilson ranked requirements limit none = some report ∧
      applyActivePolicy wilson ranked requirements = some active ∧
      report.shadowOrder = active.map (·.plan.planId) ∧
      report.shadowTop5 = topPlanIds requirements limit active := by
  have distinct := distinct.subset (weakPlansLast_subset ranked requirements.priority)
  obtain ⟨active, built⟩ := applyActivePolicy_total wilson ranked requirements
  rw [applyActivePolicy, applyMeasuredPolicy_eq] at built
  have own : ∀ item ∈ weakPlansLast ranked requirements.priority,
      (foundEvidence wilson (weakPlansLast ranked requirements.priority)
        item.plan.planId).getD {} = productionEvidence wilson item.assessment := by
    intro item mem
    rw [foundEvidence_eq distinct mem]
    rfl
  rw [← shadowOrder_congr own] at built
  obtain ⟨⟨order, groups, moves⟩, run, rfl⟩ := Option.map_eq_some_iff.mp built
  have report : ∃ report, buildShadowReport wilson ranked requirements limit none = some report ∧
      report.shadowOrder = order.map (·.plan.planId) ∧
      report.shadowTop5 = topPlanIds requirements limit order := by
    simp only [buildShadowReport, Option.getD_none, run, Option.map_some]
    exact ⟨_, rfl, rfl, rfl⟩
  obtain ⟨report, eq, shown, top⟩ := report
  refine ⟨report, order, eq, ?_, shown, top⟩
  rw [applyActivePolicy, applyMeasuredPolicy_eq, ← shadowOrder_congr own, run]
  rfl

/-- A plan a search assessed with these records is refreshed to itself. -/
lemma refreshed_eq {collaborators context estimateFn requirements limit evaluated ranked item}
    (run : rankExecutionPlans collaborators context estimateFn requirements limit evaluated =
      .ok ranked) (mem : item ∈ ranked) :
    refreshed collaborators.readers context.qualityIndex (some context.benchmarkRecords)
      requirements item = item := by
  obtain ⟨_, _, eq⟩ := mem_rankExecutionPlans run mem
  rw [eq]
  rfl

/-- Recomparing the pool of a search with the records the search had proposes what the search showed:
the active order, and the primaries diversity takes from it. -/
theorem recompareQuality_reproduces {Record : Type}
    (indexQualityRecords : List Record → QualityRecordIndex) (collaborators : Collaborators)
    (wilson : ℕ → ℕ → ℚ × ℚ) (context : PlanRankingContext) (records : List Record)
    (benchmarks : List BenchmarkRecord) (estimateFn : Option EstimatePlanFn)
    (requirements : UserRequirements) (poolLimit : Option ℤ) (limit : ℤ)
    (evaluated : List EvaluatedCandidate) (pool : List RankedPlan)
    (run : rankExecutionPlans collaborators
      { context with
        qualityIndex := indexQualityRecords records
        benchmarkRecords := benchmarks }
      estimateFn requirements poolLimit evaluated = .ok pool)
    (nodup : (pool.map (·.plan.planId)).Nodup) :
    ∃ report active,
      recompareQuality indexQualityRecords collaborators.readers wilson pool requirements records
        limit (some benchmarks) = some report ∧
      applyActivePolicy wilson pool requirements = some active ∧
      report.shadowOrder = active.map (·.plan.planId) ∧
      report.shadowTop5 =
        (diversifyRankedPlans (tieKeyFor requirements) active limit).map
          (·.primary.plan.planId) := by
  have same : pool.map (refreshed collaborators.readers (indexQualityRecords records)
      (some benchmarks) requirements) = pool := by
    have each := List.map_congr_left fun item mem => refreshed_eq run mem
    exact each.trans (List.map_id' pool)
  rw [recompareQuality, same]
  exact buildShadowReport_active fun a memA b memB eq => List.inj_on_of_nodup_map nodup memA memB eq

/-- The digest of the measured artifact. -/
def measuredSha : String :=
  "aaaaaaaaaaaaaaaaaaaaaaaaaaaaaaaaaaaaaaaaaaaaaaaaaaaaaaaaaaaaaaaa"

/-- Two repositories, of which one publishes a digest. -/
def measuredRepositories : List EvaluatedCandidate :=
  [namedRepository "b/chat" ["Q4_K_M"],
    { candidate := { repoId := "a/chat" }
      analysis := some
        { classification :=
            { primaryType := .gguf
              ggufVariants :=
                [{ quantization := "Q8_0"
                   files := [{ path := "Q8_0.gguf", sha256 := some measuredSha }]
                   totalBytes := none }] } } }]

/-- A complete run of the chat suite on it. -/
def measuredQuality : QualityRecord where
  evidence :=
    { identitySha256 := "i"
      artifactSha256 := measuredSha
      suite := "jaull-ifeval-chat-v1"
      metrics := [{ name := "prompt_level_strict_acc", value := 3 / 4, correct := 300, samples := 400 }]
      samplesUsed := 400
      samplesAvailable := 400
      classification := "complete"
      reusable := true }
  recordSha256 := "r"
  cohort := "c"
  audited := true
  repeatKey := "k"

/-- A run of it that failed. -/
def failedBenchmark : BenchmarkRecord where
  benchmarkId := "b"
  createdAt := 0
  hardware :=
    { os := "Linux"
      arch := "x86_64"
      cpu := {}
      memory := { totalBytes := 34359738368, availableBytes := 30064771072 } }
  artifact :=
    { repoId := "a/chat"
      revision := "main"
      filename := "Q8_0.gguf"
      format := "gguf"
      sha256 := some measuredSha }
  runtime := { runtime := .llamaCpp, confidence := .high }
  requestedBackend := .cpu
  gpuLayers := .count 0
  generationSizes := [128]
  observation := { success := false, repetitions := 5 }

/-- A search with both records. -/
def measuredContext : PlanRankingContext where
  qualityIndex := { byArtifact := [(measuredSha, [measuredQuality])] }
  benchmarkRecords := [failedBenchmark]

/-- The request the suite is for. -/
def englishRequest : UserRequirements :=
  { chatRequest .quality with languages := ["en"] }

/-- The pool of the two repositories with the two records. -/
def measuredPool : List RankedPlan :=
  (rankExecutionPlans namingCollaborators measuredContext (some unknownEstimate) englishRequest none
    measuredRepositories).toOption.getD []

/-- The plan with a run of its artifact and the plan without are recompared under Quality. -/
theorem recompareQuality_reproduces_measured :
    measuredPool.map (·.assessment.quality.applicable.isSome) = [true, false] ∧
      ∃ report active,
        recompareQuality (fun records : List QualityRecord => { byArtifact := [(measuredSha, records)] })
          namingCollaborators.readers (fun _ _ => (0, 1)) measuredPool englishRequest [measuredQuality] 5
          (some [failedBenchmark]) = some report ∧
        applyActivePolicy (fun _ _ => (0, 1)) measuredPool englishRequest = some active ∧
        report.shadowOrder = active.map (·.plan.planId) ∧
        report.shadowTop5 =
          (diversifyRankedPlans (tieKeyFor englishRequest) active 5).map (·.primary.plan.planId) :=
  ⟨by decide +kernel, recompareQuality_reproduces _ namingCollaborators _ {} [measuredQuality]
    [failedBenchmark] (some unknownEstimate) englishRequest none 5 measuredRepositories measuredPool rfl
    (by decide +kernel)⟩

end Jaull.Recommendation
