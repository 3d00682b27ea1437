import Jaull.Lib.Axes
import Jaull.Recommendation.Ranking
import Jaull.Text.Numbers

/-!
# The criteria that explain a rank

Port of `ranking_criteria` of `jaull/recommendation/engine_v2.py`. The criteria name the partition by
confirmed memory fit as the outermost axis, leave out the commercial axis where it decides nothing and
list the model size once; sorting by them is the order of the ranking (`rankPlans_eq_sortedBy_criteria`).
-/

namespace Jaull.Recommendation
open Jaull.Domain Jaull.Lib Jaull.Text

/-- One axis of the ordering, with the value that placed a plan (Python `RankingCriterion`). -/
structure RankingCriterion where
  axis : String
  value : String
  rank : ℤ
  deriving DecidableEq, Repr

/-- Python `_requirement_confirmation_label`. -/
def requirementConfirmationLabel (item : RankedPlan) : String :=
  match item.assessment.licenseFit with
  | .strong => "commercial use confirmed"
  | .unknown => "commercial use unconfirmed"
  | _ => "commercial use incompatible"

/-- Python `_size_label`. -/
def sizeLabel (parameterCount : Option ℤ) : String :=
  match parameterCount.filter (· ≠ 0) with
  | none => "unknown"
  | some count => formatGeneral (count / 10 ^ 9) ++ "B"

/-- Python `_bytes_label`. -/
def bytesLabel (assessment : PlanAssessment) : String :=
  let shown (value : ℤ) (suffix : String) : String :=
    formatFixed 2 (value / 1024 ^ 3) ++ " GiB " ++ suffix
  match assessment.measuredMemoryBytes, assessment.estimatedMemoryBytes with
  | some measured, _ => shown measured "measured"
  | none, some estimated => shown estimated "estimated"
  | none, none => "unknown"

/-- Python `item.plan.artifact.quantization or "n/a"`. -/
def quantizationLabel (item : RankedPlan) : String :=
  (truthy item.plan.artifact.quantization).getD "n/a"

/-- Whether the partition by confirmed memory fit puts a plan in front (the `confirmed` of Python
`ranking_criteria`). -/
def confirmedFit (item : RankedPlan) : Bool :=
  !item.assessment.rejected && confirmedPlacement item

/-- The `leading` of Python `ranking_criteria`. -/
def leadingCriteria (item : RankedPlan) (commercialUseRequired : Bool) : List RankingCriterion :=
  let detail :=
    match item.plan.memoryPrediction with
    | none => ""
    | some prediction => " (" ++ prediction.assessment.status.value ++ ")"
  [{ axis := "viability"
     value := (if confirmedFit item then "placement confirmed" else "placement not confirmed") ++ detail
     rank := if confirmedFit item then 0 else 1 },
    { axis := "plan_constraints"
      value :=
        if item.assessment.rejected then
          "failed: " ++ String.intercalate ", " (item.assessment.hardConstraints.map (·.code.value))
        else "none"
      rank := if item.assessment.rejected then 1 else 0 }] ++
  if commercialUseRequired then
    [{ axis := "requirement_confirmation"
       value := requirementConfirmationLabel item
       rank := requirementConfirmationRank item }]
  else []

section Axes
variable (item : RankedPlan) (priority : RecommendationPriority)

/-- The aggressive quantization axis of Quality and Balanced. -/
def aggressiveCriterion : RankingCriterion :=
  let rank := aggressiveQuantizationRank item.plan
  { axis := "aggressive_quantization"
    value := quantizationLabel item ++ if rank ≠ 0 then " (aggressive)" else ""
    rank := rank }

/-- The model size axis: among the axes of Quality, behind the confidence for Balanced. -/
def modelSizeCriterion : RankingCriterion :=
  { axis := "model_size"
    value := sizeLabel item.plan.modelIdentity.parameterCount
    rank := modelSizeRank item priority }

/-- The `axes` of Python `ranking_criteria`. -/
def axisCriteria : List RankingCriterion :=
  let assessment := item.assessment
  match priority with
  | .quality =>
    [⟨"suitability", assessment.suitability.value, suitabilityRank item priority⟩,
      ⟨"capability", assessment.capability.value, levelRank assessment.capability⟩,
      aggressiveCriterion item,
      ⟨"runnability", assessment.executionFitness.value, runnabilityRank assessment⟩,
      modelSizeCriterion item priority,
      ⟨"quantization_quality", quantizationLabel item, quantizationQualityRank item.plan⟩,
      ⟨"execution_fitness", assessment.executionFitness.value, levelRank assessment.executionFitness⟩]
  | .speed =>
    [⟨"suitability", assessment.suitability.value, levelRank assessment.suitability⟩,
      ⟨"runnability", assessment.executionFitness.value, runnabilityRank assessment⟩,
      ⟨"executability", assessment.executability.value, levelRank assessment.executability⟩,
      ⟨"memory_footprint", bytesLabel assessment, memoryEfficiencyRank assessment⟩]
  | .memory =>
    [⟨"memory_footprint", bytesLabel assessment, memoryEfficiencyRank assessment⟩,
      ⟨"execution_fitness", assessment.executionFitness.value, levelRank assessment.executionFitness⟩,
      ⟨"executability", assessment.executability.value, levelRank assessment.executability⟩]
  | .balanced =>
    [⟨"suitability", assessment.suitability.value, suitabilityRank item priority⟩,
      aggressiveCriterion item,
      ⟨"runnability", assessment.executionFitness.value, runnabilityRank assessment⟩,
      ⟨"capability", assessment.capability.value, levelRank assessment.capability⟩,
      ⟨"executability", assessment.executability.value, levelRank assessment.executability⟩,
      ⟨"memory_headroom",
        match item.plan.memoryPrediction with
        | some prediction => prediction.assessment.status.value
        | none => assessment.feasibility.value,
        comfortableMemoryRank item⟩]

/-- The `trailing` of Python `ranking_criteria`. -/
def trailingCriteria : List RankingCriterion :=
  [⟨"plan_confidence", item.assessment.confidence.value, confidenceRank item.assessment.confidence⟩] ++
  (if priority = .balanced then [modelSizeCriterion item priority] else []) ++
  [⟨"quantization_preference", quantizationLabel item, ladderRank item.plan priority⟩,
    ⟨"popularity", withCommas item.evaluated.candidate.downloads ++ " downloads",
      -item.evaluated.candidate.downloads⟩]

end Axes

/-- The criteria that decided the base position of a plan (Python `ranking_criteria`). -/
def rankingCriteria (item : RankedPlan) (priority : RecommendationPriority)
    (commercialUseRequired : Bool) : List RankingCriterion :=
  leadingCriteria item commercialUseRequired ++ axisCriteria item priority ++
    trailingCriteria item priority

/-- Repository, quantization or precision, runtime: what the ranking compares last. -/
def planNames (item : RankedPlan) : String ×ₗ String ×ₗ String :=
  let artifact := item.plan.artifact
  toLex (item.evaluated.repoId,
    toLex (((truthy artifact.quantization).or artifact.precision).getD "",
      item.plan.runtime.runtime.value))

/-- The ranks of the criteria, then the names. -/
def criteriaKey (item : RankedPlan) (priority : RecommendationPriority)
    (commercialUseRequired : Bool) : List ℤ ×ₗ String ×ₗ String ×ₗ String :=
  toLex ((rankingCriteria item priority commercialUseRequired).map (·.rank), planNames item)

section Order
variable {priority : RecommendationPriority} {commercial : Bool} {a b : RankedPlan}

/-- The middle of the criteria is the middle of the key. -/
lemma map_rank_axisCriteria (item : RankedPlan) :
    (axisCriteria item priority).map (·.rank) = priorityAxes item priority := by
  cases priority with
  | quality => rfl
  | speed => rfl
  | memory => rfl
  | balanced => rfl

/-- The ranks behind viability. -/
def innerRanks (item : RankedPlan) (priority : RecommendationPriority) (commercial : Bool) : List ℤ :=
  [if item.assessment.rejected then 1 else 0] ++
  (if commercial then [requirementConfirmationRank item] else []) ++
  priorityAxes item priority ++ (trailingCriteria item priority).map (·.rank)

/-- The criteria's ranks: confirmed fit first, then the priority's own. -/
lemma map_rank_rankingCriteria (item : RankedPlan) :
    (rankingCriteria item priority commercial).map (·.rank) =
      (if confirmedFit item then 0 else 1) :: innerRanks item priority commercial := by
  rw [rankingCriteria, List.map_append, List.map_append, map_rank_axisCriteria, innerRanks]
  cases commercial with
  | true => rfl
  | false => rfl

/-- Every plan is ranked along as many axes. -/
lemma length_priorityAxes : (priorityAxes a priority).length = (priorityAxes b priority).length := by
  cases priority with
  | quality => rfl
  | speed => rfl
  | memory => rfl
  | balanced => rfl

/-- Outside Balanced the size of a model repeats an axis before it, or is none. -/
lemma modelSizeRank_eq_of_priorityAxes (unlisted : priority ≠ .balanced)
    (axes : priorityAxes a priority = priorityAxes b priority) :
    modelSizeRank a priority = modelSizeRank b priority := by
  cases priority with
  | quality => exact Option.some.inj (congrArg (·[4]?) axes)
  | speed => rfl
  | memory => rfl
  | balanced => exact absurd rfl unlisted

/-- The criteria behind viability compare as the tie key does. -/
lemma innerRanks_lt_iff :
    innerRanks a priority commercial < innerRanks b priority commercial ↔
      rankingTieKey a priority commercial < rankingTieKey b priority commercial := by
  let constraints (item : RankedPlan) : List ℤ :=
    [if item.assessment.rejected then 1 else 0] ++
      if commercial then [requirementConfirmationRank item] else []
  let sized (item : RankedPlan) : List ℤ :=
    constraints item ++ priorityAxes item priority ++
      [confidenceRank item.assessment.confidence, modelSizeRank item priority,
        ladderRank item.plan priority, -item.evaluated.candidate.downloads]
  have same : (constraints a).length = (constraints b).length := by
    cases commercial with
    | true => rfl
    | false => rfl
  have size : innerRanks a priority commercial < innerRanks b priority commercial ↔
      sized a < sized b := by
    by_cases listed : priority = .balanced
    · subst listed
      exact Iff.rfl
    · -- the size axis follows the priority axes in one and is left out of the other
      let before (item : RankedPlan) : List ℤ :=
        constraints item ++ priorityAxes item priority ++ [confidenceRank item.assessment.confidence]
      let after (item : RankedPlan) : List ℤ :=
        [ladderRank item.plan priority, -item.evaluated.candidate.downloads]
      have inner : ∀ item, innerRanks item priority commercial = before item ++ after item := by
        intro item
        simp [innerRanks, trailingCriteria, listed, before, after, constraints]
      have outer : ∀ item, sized item = before item ++ modelSizeRank item priority :: after item := by
        intro item
        simp [sized, before, after]
      rw [inner, inner, outer, outer]
      refine (insertAxis_lt_iff ?_ ?_).symm
      · simp only [before, List.length_append, same, @length_priorityAxes priority a b]
        rfl
      · intro eq
        have long : (constraints a ++ priorityAxes a priority).length =
            (constraints b ++ priorityAxes b priority).length := by
          rw [@List.length_append _ (constraints a), @List.length_append _ (constraints b), same,
            length_priorityAxes]
        have fronts := List.append_inj_left eq long
        exact modelSizeRank_eq_of_priorityAxes listed (List.append_inj_right fronts same)
  -- and so with the constraint of a commercial use
  rw [size]
  cases commercial with
  | true => exact Iff.rfl
  | false =>
    let constraint (item : RankedPlan) : List ℤ := [if item.assessment.rejected then 1 else 0]
    exact (@insertAxis_lt_iff ℤ _ (constraint a) (constraint b) _ _ 0 0 rfl fun _ => rfl).symm

/-- The base order puts confirmed fits first and compares by the ranking key otherwise. -/
lemma rankPlans_eq_sortedBy (requirements : UserRequirements) (ranked : List RankedPlan) :
    rankPlans requirements none ranked =
      sortedBy (fun item => toLex (!confirmedFit item,
        rankingKey item requirements.priority requirements.commercial)) ranked :=
  partition_sortedBy _ confirmedFit ranked

/-- Sorting a pool by the criteria, and then by repository, quantization or precision and runtime,
gives the base order of the ranking. -/
theorem rankPlans_eq_sortedBy_criteria (requirements : UserRequirements)
    (ranked : List RankedPlan) :
    rankPlans requirements none ranked =
      sortedBy (fun item => criteriaKey item requirements.priority requirements.commercial)
        ranked := by
  rw [rankPlans_eq_sortedBy]
  apply sortedBy_congr
  intro a _ b _
  have keys : rankingKey a requirements.priority requirements.commercial ≤
        rankingKey b requirements.priority requirements.commercial ↔
      toLex (innerRanks a requirements.priority requirements.commercial, planNames a) ≤
        toLex (innerRanks b requirements.priority requirements.commercial, planNames b) :=
    (toLex_le_toLex_congr innerRanks_lt_iff innerRanks_lt_iff).symm
  rw [criteriaKey, criteriaKey, map_rank_rankingCriteria, map_rank_rankingCriteria,
    toLex_cons_le_iff, Prod.Lex.toLex_le_toLex, keys]
  cases confirmedFit a with
  | true =>
    cases confirmedFit b with
    | true => simp
    | false => simp
  | false =>
    cases confirmedFit b with
    | true => simp
    | false => simp

end Order

end Jaull.Recommendation
