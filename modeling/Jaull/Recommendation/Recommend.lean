import Jaull.Recommendation.Assessment
import Jaull.Recommendation.Diversity

/-!
# From candidates to the shown list

Port of the hardware path of `recommend` of `jaull/application/recommendation/service.py`: planning and
ranking, the active order, diversity.
-/

namespace Jaull.Recommendation
open Jaull.Domain

/-- What one search orders and shows. -/
structure Recommended where
  ranked : List RankedPlan
  active : List RankedPlan
  shown : List DiversifiedRecommendation
  deriving DecidableEq

/-- The active order of a ranked pool and what is shown of it. -/
def recommendRanked (wilson : ℕ → ℕ → ℚ × ℚ) (requirements : UserRequirements) (shownLimit : ℤ)
    (ranked : List RankedPlan) : Except String Recommended :=
  match applyActivePolicy wilson ranked requirements with
  | none => .error "AssertionError"
  | some active =>
    .ok
      { ranked := ranked
        active := active
        shown := diversifyRankedPlans (tieKeyFor requirements) active shownLimit }

/-- The chain of Python `recommend`; the search passes no `limit` to the ranking. -/
def recommend (collaborators : Collaborators) (wilson : ℕ → ℕ → ℚ × ℚ)
    (context : PlanRankingContext) (estimateFn : Option EstimatePlanFn)
    (requirements : UserRequirements) (limit : Option ℤ) (shownLimit : ℤ)
    (evaluated : List EvaluatedCandidate) : Except String Recommended :=
  (rankExecutionPlans collaborators context estimateFn requirements limit evaluated).bind
    (recommendRanked wilson requirements shownLimit)

/-- A ranked pool always has a recommendation. -/
lemma recommendRanked_eq_ok (wilson : ℕ → ℕ → ℚ × ℚ) (requirements : UserRequirements)
    (shownLimit : ℤ) (ranked : List RankedPlan) :
    ∃ active, applyActivePolicy wilson ranked requirements = some active ∧
      recommendRanked wilson requirements shownLimit ranked =
        .ok
          { ranked := ranked
            active := active
            shown := diversifyRankedPlans (tieKeyFor requirements) active shownLimit } := by
  obtain ⟨active, eq⟩ := applyActivePolicy_total wilson ranked requirements
  refine ⟨active, eq, ?_⟩
  rw [recommendRanked, eq]

/-- A GGUF repository known by its name and the quantizations it offers. -/
def namedRepository (name : String) (quantizations : List String) : EvaluatedCandidate :=
  { candidate := { repoId := name }
    analysis := some
      { classification :=
          { primaryType := .gguf
            ggufVariants := quantizations.map fun quantization =>
              { quantization := quantization
                files := [{ path := quantization ++ ".gguf" }]
                totalBytes := none } } } }

/-- Stages that know of a model only its repository. -/
def namingCollaborators : Collaborators where
  resolveModelIdentity candidate _ := { modelName := candidate.repoId }
  packedTransformersQuantizationLabel _ := none
  selectConfiguration _ _ _ := none
  evaluateExecutionReadiness selection probe :=
    { status := .unknown
      reason := .capabilityUnknown
      selection := selection
      runtimeCapability := .llamaCpp probe }
  evaluatePytorchExecutionReadiness selection probe _ :=
    { status := .unknown
      reason := .capabilityUnknown
      selection := selection
      runtimeCapability := .pyTorch probe }
  analyzeCapability _ _ := { score := 0 }
  infersGeneralistSuitability _ _ := false
  capabilitySubject _ _ := none
  repr text := text
  readers :=
    { machineFingerprint := fun _ => []
      fastestRecordBlockers := fun _ => []
      speedCohort := (·.benchmarkId)
      modelDumpJson := (·.benchmarkId)
      runtimeDeviceNameMatches := fun _ _ _ => false }

/-- A request that leaves everything else open. -/
def chatRequest (priority : RecommendationPriority) : UserRequirements :=
  { useCase := .generalChat, priority := priority, desiredContext := 4096 }

/-- An estimator without metadata to read. -/
def unknownEstimate : EstimatePlanFn := fun _ _ => .error "no metadata"

/-- Two repositories, one of them with two quantizations. -/
def namedRepositories : List EvaluatedCandidate :=
  [namedRepository "b/chat" ["Q4_K_M", "Q8_0"], namedRepository "a/chat" ["Q4_K_M"]]

/-- The pool of the two repositories. -/
def namedPool (context : PlanRankingContext) (priority : RecommendationPriority) : List RankedPlan :=
  (rankExecutionPlans namingCollaborators context (some unknownEstimate) (chatRequest priority) none
    namedRepositories).toOption.getD []

end Jaull.Recommendation
