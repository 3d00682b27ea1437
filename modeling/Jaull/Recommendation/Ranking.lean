import Mathlib.Algebra.Group.Int.Defs
import Mathlib.Data.List.Lex
import Mathlib.Data.Prod.Lex
import Mathlib.Data.String.Basic
import Mathlib.Order.Defs.LinearOrder
import Jaull.Domain.Recommendation
import Jaull.Lib.StableSort
import Jaull.Text.Case

/-!
# The ranking keys

Port of the ordering half of `jaull/recommendation/engine_v2.py`: the ranks of each axis, the tie key
and the ranking key, and the partition by confirmed memory fit. Every axis is an integer and the keys
of one priority have one length, so a Python tuple of axes is a list of integers compared
lexicographically.
-/

namespace Jaull.Recommendation
open Jaull.Domain Jaull.Lib Jaull.Text

/-- Python `CAPABILITY_FIRST_PRIORITIES`. -/
def capabilityFirst : RecommendationPriority → Bool
  | .balanced | .quality => true
  | .speed | .memory => false

/-- Python `_LEVEL_RANK`. -/
def levelRank : AssessmentLevel → ℤ
  | .strong => 0
  | .adequate => 1
  | .weak => 2
  | .unknown => 3
  | .blocked => 4

/-- Python `_CONFIDENCE_RANK`. -/
def confidenceRank : EstimationConfidence → ℤ
  | .high => 0
  | .medium => 1
  | .low => 2
  | .unknown => 3

/-- Python `policies.QUANTIZATION_LADDERS`. -/
def quantizationLadder : RecommendationPriority → List String
  | .quality => ["Q6_K", "Q5_K_M", "Q4_K_M", "Q4_K_S", "Q3_K_M"]
  | .balanced => ["Q5_K_M", "Q4_K_M", "Q4_K_S", "Q3_K_M"]
  | .speed => ["Q4_K_M", "Q4_K_S", "Q3_K_M", "Q3_K_S"]
  | .memory => ["Q4_K_S", "Q3_K_M", "Q3_K_S", "Q2_K"]

/-- Python `policies.AGGRESSIVE_QUANTIZATIONS`. -/
def aggressiveQuantizations : List String :=
  ["Q1_0", "IQ1_S", "IQ1_M", "IQ2_XXS", "IQ2_XS", "IQ2_S", "IQ2_M", "Q2_K", "Q2_K_L", "Q2_K_XL",
    "IQ3_XXS", "IQ3_XS", "Q3_K_S"]

/-- The `order` of Python `_quantization_quality_rank`. -/
def quantizationQualities : List String :=
  ["F16", "Q8_0", "Q6_K", "Q5_K_M", "Q5_K_S", "Q4_K_M", "Q4_K_S", "Q3_K_M", "Q3_K_S", "Q2_K"]

/-- Python `a or b` on optional integers: zero is false. -/
def orNonzero (a b : Option ℤ) : Option ℤ :=
  (a.filter (· ≠ 0)).or b

/-- Python `policies.has_confirmed_memory_compatibility`. -/
def hasConfirmedMemoryCompatibility : CompatibilityStatus → Bool
  | .comfortable | .compatible | .tight | .offloadingRequired => true
  | .insufficient | .unknown => false

/-- Whether a placement of the plan is confirmed. -/
def confirmedPlacement (item : RankedPlan) : Bool :=
  item.plan.memoryPrediction.any fun prediction =>
    hasConfirmedMemoryCompatibility prediction.assessment.status

/-- Python `_suitability_rank`. -/
def suitabilityRank (item : RankedPlan) (priority : RecommendationPriority) : ℤ :=
  let level := item.assessment.suitability
  if item.useCase = some .coding && capabilityFirst priority &&
      (level = .strong || level = .adequate) && item.assessment.languageFit ≠ .weak then
    levelRank .strong
  else levelRank level

/-- Python `_requirement_confirmation_rank`. -/
def requirementConfirmationRank (item : RankedPlan) : ℤ :=
  match item.assessment.licenseFit with
  | .strong => 0
  | .unknown => 1
  | _ => 2

/-- Python `_model_size_rank`. -/
def modelSizeRank (item : RankedPlan) (priority : RecommendationPriority) : ℤ :=
  if capabilityFirst priority then -(item.plan.modelIdentity.parameterCount.getD 0) else 0

/-- Python `_aggressive_quantization_rank`. -/
def aggressiveQuantizationRank (plan : ExecutionPlan) : ℤ :=
  match plan.artifact.format, truthy plan.artifact.quantization with
  | .gguf, some quantization => if upper quantization ∈ aggressiveQuantizations then 1 else 0
  | _, _ => 0

/-- Python `_ladder_rank`. -/
def ladderRank (plan : ExecutionPlan) (priority : RecommendationPriority) : ℤ :=
  match plan.artifact.format, truthy plan.artifact.quantization with
  | .gguf, some quantization => (quantizationLadder priority).idxOf (upper quantization)
  | _, _ => 0

/-- Python `_quantization_quality_rank`. -/
def quantizationQualityRank (plan : ExecutionPlan) : ℤ :=
  match plan.artifact.format, plan.artifact.quantization with
  | .gguf, some quantization => quantizationQualities.idxOf (upper quantization)
  | _, _ => 0

/-- Python `_memory_efficiency_rank`. -/
def memoryEfficiencyRank (assessment : PlanAssessment) : ℤ :=
  (orNonzero assessment.measuredMemoryBytes assessment.estimatedMemoryBytes).getD (10 ^ 18)

/-- Python `_comfortable_memory_rank`. -/
def comfortableMemoryRank (item : RankedPlan) : ℤ :=
  if item.plan.memoryPrediction.any (·.assessment.status = .tight) then 1 else
  match item.assessment.feasibility with
  | .strong | .adequate => 0
  | .weak => 2
  | .unknown => 3
  | .blocked => 4

/-- Python `_runnability_rank`. -/
def runnabilityRank (assessment : PlanAssessment) : ℤ :=
  match assessment.executionFitness with
  | .strong | .adequate => 0
  | .weak => 1
  | .unknown => 2
  | .blocked => 3

/-- The axes of one priority (the `priority_axes` of Python `ranking_tie_key`). -/
def priorityAxes (item : RankedPlan) (priority : RecommendationPriority) : List ℤ :=
  let assessment := item.assessment
  match priority with
  | .quality =>
    [suitabilityRank item priority, levelRank assessment.capability,
      aggressiveQuantizationRank item.plan, runnabilityRank assessment, modelSizeRank item priority,
      quantizationQualityRank item.plan, levelRank assessment.executionFitness]
  | .speed =>
    [levelRank assessment.suitability, runnabilityRank assessment,
      levelRank assessment.executability, memoryEfficiencyRank assessment]
  | .memory =>
    [memoryEfficiencyRank assessment, levelRank assessment.executionFitness,
      levelRank assessment.executability]
  | .balanced =>
    [suitabilityRank item priority, aggressiveQuantizationRank item.plan,
      runnabilityRank assessment, levelRank assessment.capability,
      levelRank assessment.executability, comfortableMemoryRank item]

/-- Everything the ranking compares before the final name tie-breaks (Python `ranking_tie_key`). -/
def rankingTieKey (item : RankedPlan) (priority : RecommendationPriority)
    (commercialUseRequired : Bool) : List ℤ :=
  [if item.assessment.rejected then 1 else 0,
    if commercialUseRequired then requirementConfirmationRank item else 0] ++
  priorityAxes item priority ++
  [confidenceRank item.assessment.confidence, modelSizeRank item priority,
    ladderRank item.plan priority, -item.evaluated.candidate.downloads]

/-- Python `_ranking_key`. -/
def rankingKey (item : RankedPlan) (priority : RecommendationPriority)
    (commercialUseRequired : Bool) : List ℤ ×ₗ String ×ₗ String ×ₗ String :=
  let artifact := item.plan.artifact
  toLex (rankingTieKey item priority commercialUseRequired,
    toLex (item.evaluated.repoId,
      toLex (((truthy artifact.quantization).or artifact.precision).getD "",
        item.plan.runtime.runtime.value)))

/-- Python `_prioritize_confirmed_memory_fit`. -/
def prioritizeConfirmedMemoryFit (ordered : List RankedPlan) : List RankedPlan :=
  let confirmed (item : RankedPlan) : Bool :=
    !item.assessment.rejected && confirmedPlacement item
  ordered.filter confirmed ++ ordered.filter (!confirmed ·)

/-- Python `items[:stop]`; a negative stop counts from the end. -/
def takeUpTo (stop : ℤ) (items : List RankedPlan) : List RankedPlan :=
  if 0 ≤ stop then items.take stop.toNat else items.take (items.length - stop.natAbs)

/-- The base order of assessed plans (the sorting half of Python `rank_execution_plans`). -/
def rankPlans (requirements : UserRequirements) (limit : Option ℤ) (ranked : List RankedPlan) :
    List RankedPlan :=
  let ordered := sortedBy
    (fun item => rankingKey item requirements.priority requirements.commercial) ranked
  let ordered := prioritizeConfirmedMemoryFit ordered
  match limit with
  | none => ordered
  | some limit => takeUpTo limit ordered

lemma prioritizeConfirmedMemoryFit_perm (ordered : List RankedPlan) :
    (prioritizeConfirmedMemoryFit ordered).Perm ordered :=
  List.filter_append_perm _ ordered

/-- A cut list holds plans of the whole. -/
lemma takeUpTo_subset (stop : ℤ) (items : List RankedPlan) : takeUpTo stop items ⊆ items := by
  rw [takeUpTo]
  split
  · exact List.take_subset _ items
  · exact List.take_subset _ items

/-- Ranking makes no plan up. -/
lemma rankPlans_subset (requirements : UserRequirements) (limit : Option ℤ)
    (ranked : List RankedPlan) : rankPlans requirements limit ranked ⊆ ranked := by
  have ordered := (prioritizeConfirmedMemoryFit_perm (sortedBy
    (fun item => rankingKey item requirements.priority requirements.commercial) ranked)).trans
      (sortedBy_perm _ ranked)
  cases limit with
  | none => exact ordered.subset
  | some stop => exact List.Subset.trans (takeUpTo_subset stop _) ordered.subset

end Jaull.Recommendation
