import Jaull.Recommendation.Recommend

/-!
# The recommendation does not depend on the order of the candidates

The ranking key ends with the names of a plan, so plans of two repositories never tie, and the plans of
one candidate are generated alike whatever stands around it. Ranked lists of rearranged candidates are
therefore one list (`rankExecutionPlans_perm`), and so is all that follows.
-/

namespace Jaull.Recommendation
open Jaull.Domain Jaull.Lib

section Order
variable {collaborators : Collaborators} {context : PlanRankingContext}
  {estimateFn : Option EstimatePlanFn} {requirements : UserRequirements} {limit : Option ℤ}
  {evaluated evaluated' : List EvaluatedCandidate}

/-- Ranking reads a pool through its sorted order only. -/
lemma rankPlans_congr {ranked ranked' : List RankedPlan}
    (same : sortedBy (fun item => rankingKey item requirements.priority requirements.commercial)
        ranked' =
      sortedBy (fun item => rankingKey item requirements.priority requirements.commercial) ranked) :
    rankPlans requirements limit ranked' = rankPlans requirements limit ranked := by
  unfold rankPlans
  rw [same]

/-- Rearranged candidates of distinct repositories give one sorted pool. -/
lemma sortedBy_flatMap_perm {plans : EvaluatedCandidate → List RankedPlan}
    (perm : evaluated'.Perm evaluated) (distinct : (evaluated.map (·.repoId)).Nodup)
    (own : ∀ candidate ∈ evaluated, ∀ item ∈ plans candidate, item.evaluated = candidate)
    (priority : RecommendationPriority) (commercial : Bool) :
    sortedBy (rankingKey · priority commercial) (evaluated'.flatMap plans) =
      sortedBy (rankingKey · priority commercial) (evaluated.flatMap plans) := by
  apply eq_of_sorted (sortedBy_pairwise _ _) (sortedBy_pairwise _ _)
  intro key
  rw [sortedBy_filter, sortedBy_filter, List.filter_flatMap, List.filter_flatMap]
  apply flatMap_eq_of_perm perm distinct (ofLex (ofLex key).2).1
  -- only the candidate of the repository in the key has plans of this key
  intro candidate mem apart
  rw [List.filter_eq_nil_iff]
  intro item memI isKey
  apply apart
  have isKey := @of_decide_eq_true _ (LinearOrder.toDecidableEq _ _) isKey
  rw [← own candidate mem item memI, ← isKey]
  rfl

/-- The ranked pool of a run that succeeds does not depend on the order of the candidates. -/
lemma rankExecutionPlans_perm {ranked} (perm : evaluated'.Perm evaluated)
    (distinct : (evaluated.map (·.repoId)).Nodup)
    (run : rankExecutionPlans collaborators context estimateFn requirements limit evaluated =
      .ok ranked) :
    rankExecutionPlans collaborators context estimateFn requirements limit evaluated' =
      .ok ranked := by
  obtain ⟨assessed, assessing, rfl⟩ := exists_of_map_eq_ok run
  have all := forall_ok_of_mapM_ok assessing
  have all' := fun candidate mem => all candidate (perm.mem_iff.mp mem)
  let plans (candidate : EvaluatedCandidate) : List RankedPlan :=
    (assessedPlans collaborators context estimateFn requirements candidate).toOption.getD []
  have own : ∀ candidate ∈ evaluated, ∀ item ∈ plans candidate, item.evaluated = candidate := by
    intro candidate mem item memI
    obtain ⟨items, eq⟩ := all candidate mem
    have same : plans candidate = items := by
      simp only [plans, eq]
      rfl
    rw [same] at memI
    obtain ⟨_, _, _, isItem⟩ := mem_assessedPlans eq memI
    rw [isItem]
  rw [mapM_eq_ok [] all] at assessing
  cases assessing
  unfold rankExecutionPlans
  rw [mapM_eq_ok [] all']
  apply congrArg Except.ok
  apply rankPlans_congr
  rw [← List.flatMap_def, ← List.flatMap_def]
  exact sortedBy_flatMap_perm perm distinct own _ _

end Order

/-- Candidates of distinct repositories give one recommendation in every order, or fail in every
order. -/
theorem recommend_ignores_input_order (collaborators : Collaborators) (wilson : ℕ → ℕ → ℚ × ℚ)
    (context : PlanRankingContext) (estimateFn : Option EstimatePlanFn)
    (requirements : UserRequirements) (limit : Option ℤ) (shownLimit : ℤ)
    (evaluated evaluated' : List EvaluatedCandidate) (perm : evaluated'.Perm evaluated)
    (distinct : (evaluated.map (·.repoId)).Nodup) :
    let run := recommend collaborators wilson context estimateFn requirements limit shownLimit
    (∃ error error', run evaluated = .error error ∧ run evaluated' = .error error') ∨
      ∃ recommended, run evaluated = .ok recommended ∧ run evaluated' = .ok recommended := by
  intro run
  have chain : ∀ candidates, run candidates =
      (rankExecutionPlans collaborators context estimateFn requirements limit candidates).bind
        (recommendRanked wilson requirements shownLimit) := fun _ => rfl
  cases ranked : rankExecutionPlans collaborators context estimateFn requirements limit evaluated with
  | ok pool =>
    -- the pool is the same, and the rest of the chain reads nothing else
    have ranked' := rankExecutionPlans_perm perm distinct ranked
    obtain ⟨recommended, shown⟩ : ∃ recommended,
        recommendRanked wilson requirements shownLimit pool = .ok recommended := by
      obtain ⟨_, _, shown⟩ := recommendRanked_eq_ok wilson requirements shownLimit pool
      exact ⟨_, shown⟩
    refine .inr ⟨recommended, ?_, ?_⟩
    · rw [chain, ranked]
      exact shown
    · rw [chain, ranked']
      exact shown
  | error text =>
    cases ranked' : rankExecutionPlans collaborators context estimateFn requirements limit
        evaluated' with
    | ok pool =>
      have distinct' := (perm.map (·.repoId)).nodup_iff.mpr distinct
      rw [rankExecutionPlans_perm perm.symm distinct' ranked'] at ranked
      cases ranked
    | error text' =>
      refine .inl ⟨text, text', ?_, ?_⟩
      · rw [chain, ranked]
        rfl
      · rw [chain, ranked']
        rfl

/-- Two repositories are recommended alike in both orders. -/
theorem recommend_ignores_input_order_named :
    let run := recommend namingCollaborators (fun _ _ => (0, 1)) {} (some unknownEstimate)
      (chatRequest .balanced) none 5
    (∃ error error', run namedRepositories = .error error ∧
        run namedRepositories.reverse = .error error') ∨
      ∃ recommended, run namedRepositories = .ok recommended ∧
        run namedRepositories.reverse = .ok recommended :=
  recommend_ignores_input_order namingCollaborators _ {} (some unknownEstimate)
    (chatRequest .balanced) none 5 namedRepositories namedRepositories.reverse
    (List.reverse_perm _) (by decide +kernel)

end Jaull.Recommendation
