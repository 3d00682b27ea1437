import Jaull.Recommendation.Recommend

/-!
# The recommendation is blind to runtime readiness

A readiness verdict is written into three fields of a plan and four of its assessment, and
`withoutReadiness` blanks those. Every stage from the ranking keys to the shown list commutes with the
blanking, so plans assessed under two verdicts are recommended alike (`recommendation_ignores_readiness`).
-/

namespace Jaull.Recommendation
open Jaull.Domain Jaull.ExecutionPlans Jaull.Lib Jaull.Text

/-- The runtime fits the artifact and the machine cannot run the plan. -/
def unsupported (plan : ExecutionPlan) : Bool :=
  plan.runtime.runtime ∈ plan.artifact.compatibleRuntimes && plan.compatibility = .notCompatible

/-- A plan without what only a readiness verdict writes. The last warning of an
unsupported plan stays: it is the issue of the plan, and a hard constraint is read from it. -/
def planWithoutReadiness (plan : ExecutionPlan) : ExecutionPlan :=
  { plan with
    executionReadiness := none
    evidence := []
    warnings := if unsupported plan then plan.warnings.getLast?.toList else [] }

/-- An assessment without what only a readiness verdict writes. -/
def assessmentWithoutReadiness (assessment : PlanAssessment) : PlanAssessment :=
  { assessment with runtimeReadiness := .unknown, evidence := [], reasons := [], tradeOffs := [] }

/-- A ranked plan without what only a readiness verdict writes. -/
def withoutReadiness (item : RankedPlan) : RankedPlan :=
  { item with
    plan := planWithoutReadiness item.plan
    assessment := assessmentWithoutReadiness item.assessment }

section Stages
variable {ranked : List RankedPlan}

/-- A test that is blind to the readiness fields keeps the same plans. -/
lemma filter_withoutReadiness (test : RankedPlan → Bool)
    (blind : ∀ item, test (withoutReadiness item) = test item) :
    (ranked.map withoutReadiness).filter test = (ranked.filter test).map withoutReadiness := by
  rw [List.filter_map]
  congr 1
  exact List.filter_congr fun item _ => blind item

/-- A slice of images. -/
lemma takeUpTo_map (f : RankedPlan → RankedPlan) (stop : ℤ) :
    takeUpTo stop (ranked.map f) = (takeUpTo stop ranked).map f := by
  rw [takeUpTo, takeUpTo, List.length_map]
  split
  · exact List.map_take.symm
  · exact List.map_take.symm

/-- Confirmed fit comes first without readiness too. -/
lemma prioritizeConfirmedMemoryFit_withoutReadiness :
    prioritizeConfirmedMemoryFit (ranked.map withoutReadiness) =
      (prioritizeConfirmedMemoryFit ranked).map withoutReadiness := by
  rw [prioritizeConfirmedMemoryFit, prioritizeConfirmedMemoryFit, List.map_append]
  congr 1
  · exact filter_withoutReadiness _ fun _ => rfl
  · exact filter_withoutReadiness _ fun _ => rfl

/-- Ranking does not see readiness. -/
lemma rankPlans_withoutReadiness (requirements : UserRequirements) (limit : Option ℤ) :
    rankPlans requirements limit (ranked.map withoutReadiness) =
      (rankPlans requirements limit ranked).map withoutReadiness := by
  let key (item : RankedPlan) := rankingKey item requirements.priority requirements.commercial
  have sorted : sortedBy key (ranked.map withoutReadiness) =
      (sortedBy key ranked).map withoutReadiness :=
    (map_sortedBy withoutReadiness (fun _ => rfl) ranked).symm
  have partitioned : prioritizeConfirmedMemoryFit (sortedBy key (ranked.map withoutReadiness)) =
      (prioritizeConfirmedMemoryFit (sortedBy key ranked)).map withoutReadiness := by
    rw [sorted]
    exact prioritizeConfirmedMemoryFit_withoutReadiness
  cases limit with
  | none => exact partitioned
  | some stop =>
    change takeUpTo stop (prioritizeConfirmedMemoryFit (sortedBy key (ranked.map withoutReadiness))) = _
    rw [partitioned]
    exact takeUpTo_map withoutReadiness stop

/-- Nor do the slots of weak plans. -/
lemma weakSlots_withoutReadiness (classes : List (Bool ×ₗ Bool ×ₗ ℤ)) (seen : ℕ) :
    weakSlots classes seen (ranked.map withoutReadiness) =
      (weakSlots classes seen ranked).map (Prod.map id withoutReadiness) := by
  induction ranked generalizing seen with
  | nil => rfl
  | cons plan rest ih =>
    rw [List.map_cons, weakSlots, weakSlots]
    change (if isCapable plan then _ else _) = _
    split
    · exact ih (seen + 1)
    · rw [List.map_cons, ih seen]
      rfl

/-- A slot of images holds the image. -/
lemma slotOf_map (f : RankedPlan → RankedPlan) (slots : List (ℕ × RankedPlan)) (slot : ℕ) :
    slotOf (slots.map (Prod.map id f)) slot = (slotOf slots slot).map f := by
  rw [slotOf, slotOf, List.filter_map, List.map_map, List.map_map]
  rfl

/-- Nor does putting weak plans last. -/
lemma weakPlansLast_withoutReadiness (priority : RecommendationPriority) :
    weakPlansLast (ranked.map withoutReadiness) priority =
      (weakPlansLast ranked priority).map withoutReadiness := by
  rw [weakPlansLast, weakPlansLast]
  split
  case isTrue => rfl
  case isFalse =>
    have capable := @filter_withoutReadiness ranked isCapable fun _ => rfl
    have classes : ((ranked.filter isCapable).map withoutReadiness).map viabilityGroup =
        (ranked.filter isCapable).map viabilityGroup := by
      rw [List.map_map]
      rfl
    simp only [capable, classes, weakSlots_withoutReadiness, slotOf_map, List.map_append,
      List.zipIdx_map, List.flatMap_map, List.map_flatMap, List.map_cons, Prod.map_fst,
      Prod.map_snd, id]

/-- Nor does the choice of measured plans. -/
lemma members_withoutReadiness (wilson : ℕ → ℕ → ℚ × ℚ) (policy : MeasuredPolicy)
    (commercial : Bool) :
    members policy commercial (fun item => productionEvidence wilson item.assessment)
        (ranked.map withoutReadiness) =
      members policy commercial (fun item => productionEvidence wilson item.assessment) ranked := by
  have strata : (ranked.map withoutReadiness).map (stratum commercial) =
      ranked.map (stratum commercial) := by
    rw [List.map_map]
    rfl
  have keys : groupKeys policy commercial (fun item => productionEvidence wilson item.assessment)
        (ranked.map withoutReadiness) =
      groupKeys policy commercial (fun item => productionEvidence wilson item.assessment) ranked := by
    rw [groupKeys, groupKeys, strata, List.zipWith_map_right]
    rfl
  unfold members
  rw [List.length_map]
  congr 1
  funext index
  rw [groupKey, groupKey, keys]

/-- Arranging a group commutes with blanking when the group has no two plans that differ in their
readiness fields only. -/
lemma arranged_withoutReadiness (wilson : ℕ → ℕ → ℚ × ℚ) (policy : MeasuredPolicy)
    (inj : InjOn withoutReadiness ranked) :
    arranged policy (fun item => productionEvidence wilson item.assessment)
        (ranked.map withoutReadiness) =
      (arranged policy (fun item => productionEvidence wilson item.assessment) ranked).map
        withoutReadiness := by
  rw [arranged, arranged]
  split
  case isTrue => exact (map_sortedBy withoutReadiness (fun _ => rfl) ranked).symm
  case isFalse => exact backFill_map (fun _ _ _ _ => rfl) inj

/-- Nor does the active policy. -/
lemma applyActivePolicy_withoutReadiness (wilson : ℕ → ℕ → ℚ × ℚ)
    (requirements : UserRequirements) (inj : InjOn withoutReadiness ranked) :
    applyActivePolicy wilson (ranked.map withoutReadiness) requirements =
      (applyActivePolicy wilson ranked requirements).map (List.map withoutReadiness) := by
  rw [applyActivePolicy, applyActivePolicy, weakPlansLast_withoutReadiness]
  have inj := inj.subset (weakPlansLast_subset ranked requirements.priority)
  generalize weakPlansLast ranked requirements.priority = plans at *
  rw [applyMeasuredPolicy, applyMeasuredPolicy]
  cases isPolicy : policyOf requirements.priority with
  | none => rfl
  | some policy =>
    obtain ⟨shown, moves, eq⟩ := @shadowOrder_eq policy requirements.commercial
      (fun item => productionEvidence wilson item.assessment) plans _ isPolicy
    obtain ⟨shown', moves', eq'⟩ := @shadowOrder_eq policy requirements.commercial
      (fun item => productionEvidence wilson item.assessment) (plans.map withoutReadiness) _ isPolicy
    rw [eq, eq', members_withoutReadiness, rewriteGroups_map]
    · rfl
    · intro slots mem
      apply arranged_withoutReadiness
      exact inj.subset membersAt_subset

/-- A logical model without what only readiness verdicts write. -/
def bucketWithoutReadiness (bucket : IdentityBucket) : IdentityBucket :=
  { bucket with
    primary := withoutReadiness bucket.primary
    alternatives := bucket.alternatives.map withoutReadiness }

/-- Nor do identities. -/
lemma identityIndexes_withoutReadiness :
    identityIndexes (ranked.map withoutReadiness) = identityIndexes ranked := by
  have eligible : ∀ (index : ℕ),
      ((ranked.map withoutReadiness)[index]?.filter (!·.assessment.rejected)).map identityKey =
        (ranked[index]?.filter (!·.assessment.rejected)).map identityKey := by
    intro index
    rw [List.getElem?_map]
    cases ranked[index]? with
    | none => rfl
    | some item =>
      rw [Option.map_some, Option.filter_some, Option.filter_some]
      change (if !item.assessment.rejected then _ else _ : Option RankedPlan).map identityKey = _
      split
      · rfl
      · rfl
  unfold identityIndexes
  rw [List.length_map, funext eligible]

/-- Nor does the best plan of each. -/
lemma bestPlanPerIdentity_withoutReadiness (inj : InjOn withoutReadiness ranked) :
    bestPlanPerIdentity (ranked.map withoutReadiness) =
      (bestPlanPerIdentity ranked).map bucketWithoutReadiness := by
  rw [bestPlanPerIdentity, bestPlanPerIdentity, identityIndexes_withoutReadiness,
    List.map_filterMap]
  congr 1
  funext entry
  obtain ⟨key, index⟩ := entry
  have items : (ranked.map withoutReadiness).filter (identityKey · = key) =
      (ranked.filter (identityKey · = key)).map withoutReadiness :=
    filter_withoutReadiness _ fun _ => rfl
  have found : ((ranked.filter (identityKey · = key)).map withoutReadiness).find?
        (!·.assessment.rejected) =
      ((ranked.filter (identityKey · = key)).find? (!·.assessment.rejected)).map
        withoutReadiness := by
    rw [List.find?_map]
    rfl
  simp only [items, found]
  cases first : (ranked.filter (identityKey · = key)).find? (!·.assessment.rejected) with
  | none => rfl
  | some primary =>
    have inj' := inj.subset (List.filter_subset_self (p := (identityKey · = key)) ranked)
    have others := map_erase_of_injOn inj' (List.mem_of_find?_eq_some first)
    simp only [Option.map_some, bucketWithoutReadiness, others]

section Choice
variable {κ : Type} [DecidableEq κ] {tieKey : RankedPlan → κ}

/-- Nor does the choice of the next one, if its ties do not. -/
lemma chooseNext_withoutReadiness (blind : ∀ item, tieKey (withoutReadiness item) = tieKey item)
    (selected remaining : List IdentityBucket) :
    chooseNext tieKey (selected.map bucketWithoutReadiness)
        (remaining.map bucketWithoutReadiness) =
      (chooseNext tieKey selected remaining).map bucketWithoutReadiness := by
  cases remaining with
  | nil => rfl
  | cons leader rest =>
    have redundancy : ∀ plan,
        redundancyKey (planWithoutReadiness plan) (selected.map bucketWithoutReadiness) =
          redundancyKey plan selected := by
      intro plan
      unfold redundancyKey
      simp only [List.map_map, List.countP_map]
      rfl
    let key (selected : List IdentityBucket) (item : IdentityBucket) :
        (ℕ ×ₗ ℕ ×ₗ ℕ ×ₗ ℕ) ×ₗ ℕ :=
      toLex (redundancyKey item.primary.plan selected, item.originalIndex)
    have keys : ∀ item, key (selected.map bucketWithoutReadiness) (bucketWithoutReadiness item) =
        key selected item := by
      intro item
      exact congrArg (fun key => toLex (key, item.originalIndex)) (redundancy item.primary.plan)
    have comparable : ((leader :: rest).map bucketWithoutReadiness).filter
          (fun item => tieKey item.primary = tieKey (bucketWithoutReadiness leader).primary) =
        ((leader :: rest).filter fun item => tieKey item.primary = tieKey leader.primary).map
          bucketWithoutReadiness := by
      rw [List.filter_map]
      congr 1
      apply List.filter_congr
      intro item _
      change decide (tieKey (withoutReadiness item.primary) = tieKey (withoutReadiness leader.primary)) = _
      rw [blind, blind]
    change (sortedBy (key (selected.map bucketWithoutReadiness)) (List.filter _ _)).head? = _
    rw [comparable, ← map_sortedBy bucketWithoutReadiness keys, List.head?_map]
    rfl

/-- Nor do those that are shown. -/
lemma shownBuckets_withoutReadiness (blind : ∀ item, tieKey (withoutReadiness item) = tieKey item)
    (limit : ℤ) (inj : InjOn withoutReadiness ranked) :
    shownBuckets tieKey (ranked.map withoutReadiness) limit =
      (shownBuckets tieKey ranked limit).map bucketWithoutReadiness := by
  rw [shownBuckets, shownBuckets]
  split
  case isTrue => rfl
  case isFalse =>
    rw [bestPlanPerIdentity_withoutReadiness inj]
    have ordered := @bestPlanPerIdentity_ordered ranked
    cases buckets : bestPlanPerIdentity ranked with
    | nil => rfl
    | cons first remaining =>
      rw [buckets] at ordered
      have apart : InjOn bucketWithoutReadiness remaining := by
        intro a memA b memB same
        have index := congrArg (·.originalIndex) same
        exact eq_of_place_eq (List.pairwise_cons.mp ordered).2 memA memB index
      simp only [List.map_cons, List.length_map]
      change pickFrom _ _ _ ([first].map bucketWithoutReadiness) _ = _
      exact pickFrom_map (chooseNext_withoutReadiness blind)
        (fun selected remaining picked pick => (chooseNext_picksTies selected remaining picked pick).1)
        apart

/-- A shown entry without what only readiness verdicts write. -/
def shownWithoutReadiness (shown : DiversifiedRecommendation) : DiversifiedRecommendation :=
  { shown with
    primary := withoutReadiness shown.primary
    alternatives := shown.alternatives.map withoutReadiness }

/-- Nor does diversity. -/
lemma diversifyRankedPlans_withoutReadiness
    (blind : ∀ item, tieKey (withoutReadiness item) = tieKey item) (limit : ℤ)
    (inj : InjOn withoutReadiness ranked) :
    diversifyRankedPlans tieKey (ranked.map withoutReadiness) limit =
      (diversifyRankedPlans tieKey ranked limit).map shownWithoutReadiness := by
  rw [diversifyRankedPlans, diversifyRankedPlans, shownBuckets_withoutReadiness blind limit inj]
  cases shownBuckets tieKey ranked limit with
  | nil => rfl
  | cons best rest =>
    simp only [List.map_cons, List.zipIdx_map, List.map_map, List.zipIdx_cons]
    rfl

end Choice
end Stages

section Generation
variable {collaborators : Collaborators} {context : PlanRankingContext}
  {readiness : Option (RuntimeName → Option ExecutionReadiness)}
  {estimateFn : Option EstimatePlanFn} {requirements : UserRequirements}
  {evaluated : EvaluatedCandidate}

/-- Of the warnings, only the last one of an unsupported plan is read. -/
lemma runtimeConstraint_congr {p q : ExecutionPlan} {insufficient : Bool}
    (runtime : p.runtime = q.runtime) (artifact : p.artifact = q.artifact)
    (compatibility : p.compatibility = q.compatibility)
    (last : unsupported q → p.warnings.getLast? = q.warnings.getLast?) :
    runtimeConstraint p insufficient = runtimeConstraint q insufficient := by
  rw [unsupported, Bool.and_eq_true, decide_eq_true_eq, decide_eq_true_eq] at last
  unfold runtimeConstraint
  rw [runtime, artifact, compatibility]
  by_cases fits : q.runtime.runtime ∈ q.artifact.compatibleRuntimes
  · by_cases refused : q.compatibility = .notCompatible
    · rw [last ⟨fits, refused⟩]
    · simp only [refused, if_false]
  · simp only [fits, not_false_eq_true, if_true]

/-- The readiness fields of a plan do not show in its hard constraints. -/
lemma hardConstraints_withoutReadiness (plan : ExecutionPlan) :
    hardConstraints collaborators evaluated (planWithoutReadiness plan) requirements =
      hardConstraints collaborators evaluated plan requirements := by
  have runtime : ∀ insufficient, runtimeConstraint (planWithoutReadiness plan) insufficient =
      runtimeConstraint plan insufficient := by
    intro insufficient
    apply @runtimeConstraint_congr (planWithoutReadiness plan) plan insufficient rfl rfl rfl
    intro refused
    rw [planWithoutReadiness]
    simp only [refused, if_true]
    cases plan.warnings.getLast? with
    | none => rfl
    | some warning => rfl
  unfold hardConstraints
  simp only [runtime]
  rfl

/-- Assessing a plan reads nothing of its readiness but into the readiness fields. -/
lemma assessPlan_withoutReadiness (plan : ExecutionPlan) :
    assessmentWithoutReadiness (assessPlan collaborators
        { context with readinessByRuntime := readiness } requirements evaluated plan) =
      assessmentWithoutReadiness
        (assessPlan collaborators context requirements evaluated (planWithoutReadiness plan)) := by
  unfold assessPlan
  simp only [hardConstraints_withoutReadiness]
  rfl

/-- A plan whose runtime fits and that the machine cannot run ends its warnings with an issue. -/
lemma getLast?_warnings {modelIdentity artifact runtime memoryPrediction hardware backendSelection
    verdict verdict' failed} {matches_identity : artifact.modelIdentity = modelIdentity}
    (fits : runtime.runtime ∈ artifact.compatibleRuntimes)
    (refused : (buildExecutionPlan modelIdentity artifact runtime memoryPrediction hardware
      backendSelection verdict matches_identity).compatibility = .notCompatible) :
    (withIssue (buildExecutionPlan modelIdentity artifact runtime memoryPrediction hardware
        backendSelection verdict matches_identity) failed).warnings.getLast? =
      (withIssue (buildExecutionPlan modelIdentity artifact runtime memoryPrediction hardware
        backendSelection verdict' matches_identity) failed).warnings.getLast? := by
  simp only [buildExecutionPlan, compatibility, fits, if_true] at refused
  simp only [withIssue, buildExecutionPlan]
  cases issue : planIssue artifact runtime memoryPrediction hardware
      (executionSelection runtime hardware backendSelection memoryPrediction) with
  | none =>
    rw [issue] at refused
    cases refused
  | some text =>
    cases failed with
    | none => simp
    | some failure => simp

/-- Builds of a plan under two verdicts differ in the readiness fields only. -/
lemma buildExecutionPlan_withoutReadiness {modelIdentity artifact runtime memoryPrediction hardware
    backendSelection verdict verdict' failed judged judged'}
    {matches_identity : artifact.modelIdentity = modelIdentity} :
    planWithoutReadiness
        { withIssue (buildExecutionPlan modelIdentity artifact runtime memoryPrediction hardware
            backendSelection verdict matches_identity) failed with executionReadiness := judged } =
      planWithoutReadiness
        { withIssue (buildExecutionPlan modelIdentity artifact runtime memoryPrediction hardware
            backendSelection verdict' matches_identity) failed with executionReadiness := judged' } := by
  let build (verdict : Option ExecutionReadiness) : ExecutionPlan :=
    buildExecutionPlan modelIdentity artifact runtime memoryPrediction hardware backendSelection
      verdict matches_identity
  let shown (verdict : Option ExecutionReadiness) : List String :=
    if unsupported (build none) then
      (withIssue (build verdict) failed).warnings.getLast?.toList
    else []
  have same : shown verdict = shown verdict' := by
    by_cases refused : unsupported (build none)
    · simp only [unsupported, Bool.and_eq_true, decide_eq_true_eq] at refused
      have last := @getLast?_warnings modelIdentity artifact runtime memoryPrediction hardware
        backendSelection verdict verdict' failed matches_identity refused.1 refused.2
      exact congrArg (fun last => if unsupported (build none) then last.toList else []) last
    · simp only [shown, refused]
      rfl
  exact congrArg
    (fun warnings =>
      { build none with executionReadiness := none, evidence := [], warnings := warnings })
    same

/-- Results behind one guard are alike when they are. -/
lemma map_guarded {α β : Type} {f : α → β} {refused : Bool} {error : String} {a a' : α}
    (same : f a = f a') :
    (if refused then .error error else .ok a : Except String α).map f =
      (if refused then .error error else .ok a' : Except String α).map f := by
  cases refused with
  | true => rfl
  | false => exact congrArg Except.ok same

/-- A GGUF plan differs in its readiness only. -/
lemma ggufPlan_withoutReadiness {analysis identity variant} :
    (ggufPlan collaborators { context with readinessByRuntime := readiness } estimateFn requirements
        evaluated analysis identity variant).map planWithoutReadiness =
      (ggufPlan collaborators context estimateFn requirements evaluated analysis identity
        variant).map planWithoutReadiness :=
  map_guarded buildExecutionPlan_withoutReadiness

/-- So does a Transformers plan. -/
lemma transformersPlan_withoutReadiness {evaluated analysis identity failed} :
    (transformersPlan collaborators { context with readinessByRuntime := readiness }
        evaluated analysis identity).map (fun plan => planWithoutReadiness (withIssue plan failed)) =
      (transformersPlan collaborators context evaluated analysis identity).map
        (fun plan => planWithoutReadiness (withIssue plan failed)) :=
  map_guarded buildExecutionPlan_withoutReadiness

/-- Keeping the first plan of every id commutes with a map that keeps the ids. -/
lemma firstOfEachId_map {f : ExecutionPlan → ExecutionPlan}
    (ids : ∀ plan, (f plan).planId = plan.planId) (plans : List ExecutionPlan) :
    firstOfEachId (plans.map f) = (firstOfEachId plans).map f := by
  let keep (kept : List ExecutionPlan) (plan : ExecutionPlan) : List ExecutionPlan :=
    if kept.any (·.planId = plan.planId) then kept else kept ++ [plan]
  have run : ∀ kept, (plans.map f).foldl keep (kept.map f) = (plans.foldl keep kept).map f := by
    induction plans with
    | nil => exact fun kept => rfl
    | cons plan rest ih =>
      intro kept
      have known : (kept.map f).any (·.planId = (f plan).planId) =
          kept.any (·.planId = plan.planId) := by
        rw [List.any_map]
        congr 1
        funext other
        rw [Function.comp_apply, ids, ids]
      have step : keep (kept.map f) (f plan) = (keep kept plan).map f := by
        simp only [keep, known]
        split
        · rfl
        · rw [List.map_append, List.map_singleton]
      rw [List.map_cons, List.foldl_cons, List.foldl_cons, step]
      exact ih (keep kept plan)
  exact run []

/-- So do all plans of a candidate. -/
lemma generateExecutionPlans_withoutReadiness :
    (generateExecutionPlans collaborators { context with readinessByRuntime := readiness } estimateFn
        requirements evaluated).map (List.map planWithoutReadiness) =
      (generateExecutionPlans collaborators context estimateFn requirements evaluated).map
        (List.map planWithoutReadiness) := by
  unfold generateExecutionPlans
  cases evaluated.analysis with
  | none => rfl
  | some analysis =>
    dsimp only
    split
    case isTrue =>
      unfold ggufPlans
      rw [mapM_map_map, mapM_map_map]
      simp only [ggufPlan_withoutReadiness]
    case isFalse =>
      cases estimateFn with
      | none =>
        have plan := @transformersPlan_withoutReadiness collaborators context readiness evaluated
          analysis (collaborators.resolveModelIdentity evaluated.candidate (some analysis)) none
        simp only [withIssue, Option.toList_none, List.append_nil] at plan
        have listed := congrArg (Except.map fun plan => [plan]) plan
        rw [except_map_map, except_map_map] at listed ⊢
        exact listed
      | some estimate =>
        -- blanking changes no identifier, so the same plans are kept
        have first : ∀ plans, (firstOfEachId plans).map planWithoutReadiness =
            firstOfEachId (plans.map planWithoutReadiness) :=
          fun plans => (@firstOfEachId_map planWithoutReadiness (fun _ => rfl) plans).symm
        have plan : ∀ precision,
            (precisionPlan collaborators { context with readinessByRuntime := readiness } estimate
              requirements evaluated analysis
              (collaborators.resolveModelIdentity evaluated.candidate (some analysis))
              precision).map planWithoutReadiness =
            (precisionPlan collaborators context estimate requirements evaluated analysis
              (collaborators.resolveModelIdentity evaluated.candidate (some analysis))
              precision).map planWithoutReadiness := by
          intro precision
          unfold precisionPlan
          rw [except_map_map, except_map_map]
          exact transformersPlan_withoutReadiness
        simp only [except_map_map, first]
        rw [← except_map_map _ (List.map planWithoutReadiness) firstOfEachId,
          ← except_map_map _ (List.map planWithoutReadiness) firstOfEachId,
          mapM_map_map, mapM_map_map]
        simp only [plan]

/-- So do the assessed plans. -/
lemma assessedPlans_withoutReadiness :
    (assessedPlans collaborators { context with readinessByRuntime := readiness } estimateFn
        requirements evaluated).map (List.map withoutReadiness) =
      (assessedPlans collaborators context estimateFn requirements evaluated).map
        (List.map withoutReadiness) := by
  let assessed (readiness : Option (RuntimeName → Option ExecutionReadiness))
      (plan : ExecutionPlan) : RankedPlan :=
    { evaluated := evaluated
      plan := plan
      assessment := assessPlan collaborators { context with readinessByRuntime := readiness }
        requirements evaluated plan
      useCase := some requirements.useCase }
  let blank (plan : ExecutionPlan) : RankedPlan :=
    { assessed context.readinessByRuntime plan with
      assessment := assessmentWithoutReadiness (assessPlan collaborators context requirements
        evaluated plan) }
  -- the assessment of a plan does not look at its readiness
  have item : ∀ readiness plan, withoutReadiness (assessed readiness plan) =
      blank (planWithoutReadiness plan) := by
    intro readiness plan
    have judged := @assessPlan_withoutReadiness collaborators context readiness requirements
      evaluated plan
    exact congrArg (fun assessment =>
      { assessed readiness (planWithoutReadiness plan) with assessment := assessment }) judged
  -- whatever the readiness, the blanked plans are those of the blanked run
  have run : ∀ readiness, (generateExecutionPlans collaborators
        { context with readinessByRuntime := readiness } estimateFn requirements evaluated).map
          (fun plans => (plans.map (assessed readiness)).map withoutReadiness) =
      ((generateExecutionPlans collaborators context estimateFn requirements evaluated).map
        (List.map planWithoutReadiness)).map (List.map blank) := by
    intro readiness
    rw [← @generateExecutionPlans_withoutReadiness collaborators context readiness, except_map_map]
    congr 1
    funext plans
    rw [List.map_map, List.map_map]
    exact List.map_congr_left fun plan _ => item readiness plan
  unfold assessedPlans
  split
  case isTrue => rfl
  case isFalse =>
    rw [except_map_map, except_map_map]
    exact (run readiness).trans (run context.readinessByRuntime).symm

/-- Ids are distinct once the first plan of every id is kept. -/
lemma nodup_firstOfEachId (plans : List ExecutionPlan) :
    ((firstOfEachId plans).map (·.planId)).Nodup := by
  let keep (kept : List ExecutionPlan) (plan : ExecutionPlan) : List ExecutionPlan :=
    if kept.any (·.planId = plan.planId) then kept else kept ++ [plan]
  have run : ∀ kept : List ExecutionPlan, (kept.map (·.planId)).Nodup →
      ((plans.foldl keep kept).map (·.planId)).Nodup := by
    induction plans with
    | nil => exact fun kept nodup => nodup
    | cons plan rest ih =>
      intro kept nodup
      rw [List.foldl_cons]
      apply ih
      unfold keep
      split
      case isTrue => exact nodup
      case isFalse fresh =>
        rw [List.map_append, List.map_singleton]
        apply nodup.append (List.nodup_singleton _)
        rw [List.disjoint_singleton]
        intro mem
        obtain ⟨other, memO, same⟩ := List.mem_map.mp mem
        apply fresh
        rw [List.any_eq_true]
        exact ⟨other, memO, decide_eq_true same⟩
  exact run [] List.nodup_nil

/-- A plan says what its variant is. -/
lemma ggufPlan_artifact {analysis identity variant plan}
    (planned : ggufPlan collaborators context estimateFn requirements evaluated analysis identity
      variant = .ok plan) :
    plan.artifact.quantization = some variant.quantization ∧
      plan.artifact.filename = variant.files.head?.map (·.path) ∧
      plan.artifact.sha256 = variant.sha256 ∧
      plan.artifact.sizeBytes = variant.totalBytes ∧
      plan.artifact.fileCount = some (variant.files.length : ℤ) := by
  unfold ggufPlan at planned
  dsimp only at planned
  split at planned
  · cases planned
  · cases planned
    exact ⟨rfl, rfl, rfl, rfl, rfl⟩

/-- The plan of a variant is a function of its artifact. -/
lemma ggufPlan_injective {analysis identity v w p q}
    (planV : ggufPlan collaborators context estimateFn requirements evaluated analysis identity v =
      .ok p)
    (planW : ggufPlan collaborators context estimateFn requirements evaluated analysis identity w =
      .ok q)
    (same : planWithoutReadiness p = planWithoutReadiness q) : p = q := by
  have artifact : p.artifact = q.artifact := congrArg (·.artifact) same
  obtain ⟨quantization, filename, sha, size, count⟩ := ggufPlan_artifact planV
  obtain ⟨quantization', filename', sha', size', count'⟩ := ggufPlan_artifact planW
  rw [artifact] at quantization filename sha size count
  rw [quantization] at quantization'
  rw [filename] at filename'
  rw [sha] at sha'
  rw [size] at size'
  rw [count] at count'
  have planned : ggufPlan collaborators context estimateFn requirements evaluated analysis identity v =
      ggufPlan collaborators context estimateFn requirements evaluated analysis identity w := by
    unfold ggufPlan
    rw [filename', sha', size', count', Option.some.inj quantization']
  rw [planV, planW] at planned
  exact Except.ok.inj planned

/-- Different plans of one candidate differ in more than their readiness. -/
lemma generateExecutionPlans_injOn {plans}
    (run : generateExecutionPlans collaborators context estimateFn requirements evaluated =
      .ok plans) : InjOn planWithoutReadiness plans := by
  unfold generateExecutionPlans at run
  cases analyzed : evaluated.analysis with
  | none =>
    rw [analyzed] at run
    cases run
    intro p memP
    cases memP
  | some analysis =>
    rw [analyzed] at run
    dsimp only at run
    split at run
    case isTrue =>
      intro p memP q memQ same
      obtain ⟨v, _, planV⟩ := mem_of_mapM_ok run memP
      obtain ⟨w, _, planW⟩ := mem_of_mapM_ok run memQ
      exact ggufPlan_injective planV planW same
    case isFalse =>
      cases estimateFn with
      | none =>
        dsimp only at run
        obtain ⟨plan, _, rfl⟩ := exists_of_map_eq_ok run
        intro p memP q memQ _
        rw [List.mem_singleton.mp memP, List.mem_singleton.mp memQ]
      | some estimate =>
        dsimp only at run
        obtain ⟨generated, _, rfl⟩ := exists_of_map_eq_ok run
        intro p memP q memQ same
        have ids : p.planId = q.planId := congrArg (·.planId) same
        exact List.inj_on_of_nodup_map (nodup_firstOfEachId generated) memP memQ ids

/-- Different plans of one ranking differ in more than their readiness. -/
lemma rankExecutionPlans_injOn {limit candidates ranked}
    (run : rankExecutionPlans collaborators context estimateFn requirements limit candidates =
      .ok ranked) : InjOn withoutReadiness ranked := by
  intro a memA b memB same
  obtain ⟨_, ⟨plans, planned, memP⟩, eqA⟩ := mem_rankExecutionPlans run memA
  obtain ⟨_, ⟨plans', planned', memP'⟩, eqB⟩ := mem_rankExecutionPlans run memB
  have candidate : a.evaluated = b.evaluated := congrArg (·.evaluated) same
  rw [candidate, planned'] at planned
  cases planned
  have plan : a.plan = b.plan :=
    generateExecutionPlans_injOn planned' a.plan memP b.plan memP' (congrArg (·.plan) same)
  rw [eqA, eqB, candidate, plan]

/-- So does the ranked pool. -/
lemma rankExecutionPlans_withoutReadiness {limit candidates} :
    (rankExecutionPlans collaborators { context with readinessByRuntime := readiness } estimateFn
        requirements limit candidates).map (List.map withoutReadiness) =
      (rankExecutionPlans collaborators context estimateFn requirements limit candidates).map
        (List.map withoutReadiness) := by
  have ranking : ∀ assessed : List (List RankedPlan),
      (rankPlans requirements limit assessed.flatten).map withoutReadiness =
        rankPlans requirements limit (assessed.map (List.map withoutReadiness)).flatten := by
    intro assessed
    rw [← rankPlans_withoutReadiness, List.map_flatten]
  unfold rankExecutionPlans
  simp only [except_map_map, ranking]
  rw [← except_map_map _ (List.map (List.map withoutReadiness))
      (fun assessed => rankPlans requirements limit assessed.flatten),
    ← except_map_map _ (List.map (List.map withoutReadiness))
      (fun assessed => rankPlans requirements limit assessed.flatten),
    mapM_map_map, mapM_map_map]
  simp only [assessedPlans_withoutReadiness]

end Generation

/-- Two recommendations that differ in readiness fields only. -/
structure SameRecommendation (requirements : UserRequirements) (a b : Recommended) : Prop where
  /-- Of two plans at one place of the base order, every field but the readiness fields is one. -/
  ranked : a.ranked.map withoutReadiness = b.ranked.map withoutReadiness
  active : a.active.map withoutReadiness = b.active.map withoutReadiness
  shown : a.shown.map shownWithoutReadiness = b.shown.map shownWithoutReadiness
  planIds : a.active.map (·.plan.planId) = b.active.map (·.plan.planId)
  primaries : a.shown.map (·.primary.plan.planId) = b.shown.map (·.primary.plan.planId)
  alternatives : a.shown.map (·.alternatives.map (·.plan.planId)) =
    b.shown.map (·.alternatives.map (·.plan.planId))
  rankingKeys :
    a.ranked.map (rankingKey · requirements.priority requirements.commercial) =
      b.ranked.map (rankingKey · requirements.priority requirements.commercial)
  tieKeys : a.ranked.map (tieKeyFor requirements) = b.ranked.map (tieKeyFor requirements)
  strata : a.ranked.map (stratum requirements.commercial) =
    b.ranked.map (stratum requirements.commercial)
  hardConstraints : a.ranked.map (·.assessment.hardConstraints) =
    b.ranked.map (·.assessment.hardConstraints)

/-- What is blind to `f` reads the same of lists with one image. -/
lemma map_eq_of_map_eq {α β : Type*} {f : α → α} {l l' : List α} (same : l.map f = l'.map f)
    (read : α → β) (blind : ∀ item, read (f item) = read item) : l.map read = l'.map read := by
  have blank : ∀ l : List α, (l.map f).map read = l.map read := by
    intro l
    rw [List.map_map]
    exact List.map_congr_left fun item _ => blind item
  rw [← blank l, same, blank l']

/-- Recommendations of two pools that differ in readiness fields only differ in these only. -/
lemma SameRecommendation.of_ranked {wilson requirements shownLimit} {ranked ranked' : List RankedPlan}
    (same : ranked.map withoutReadiness = ranked'.map withoutReadiness)
    (inj : InjOn withoutReadiness ranked) (inj' : InjOn withoutReadiness ranked') :
    ∃ a b, recommendRanked wilson requirements shownLimit ranked = .ok a ∧
      recommendRanked wilson requirements shownLimit ranked' = .ok b ∧
      SameRecommendation requirements a b := by
  obtain ⟨active, built, run⟩ := recommendRanked_eq_ok wilson requirements shownLimit ranked
  obtain ⟨active', built', run'⟩ := recommendRanked_eq_ok wilson requirements shownLimit ranked'
  -- the stages keep plans that are equal but for their readiness equal
  have actives : active.map withoutReadiness = active'.map withoutReadiness := by
    have blank := applyActivePolicy_withoutReadiness wilson requirements inj
    have blank' := applyActivePolicy_withoutReadiness wilson requirements inj'
    rw [built, same] at blank
    rw [built', blank] at blank'
    exact Option.some.inj blank'
  have shown : (diversifyRankedPlans (tieKeyFor requirements) active shownLimit).map
        shownWithoutReadiness =
      (diversifyRankedPlans (tieKeyFor requirements) active' shownLimit).map
        shownWithoutReadiness := by
    rw [← diversifyRankedPlans_withoutReadiness (fun _ => rfl) shownLimit
        (inj.subset (applyActivePolicy_subset built)),
      ← diversifyRankedPlans_withoutReadiness (fun _ => rfl) shownLimit
        (inj'.subset (applyActivePolicy_subset built')), actives]
  have reads : ∀ {γ : Type} (read : DiversifiedRecommendation → γ),
      (∀ entry, read (shownWithoutReadiness entry) = read entry) →
      (diversifyRankedPlans (tieKeyFor requirements) active shownLimit).map read =
        (diversifyRankedPlans (tieKeyFor requirements) active' shownLimit).map read :=
    fun read blind => map_eq_of_map_eq shown read blind
  refine ⟨_, _, run, run', ?_⟩
  exact
    { ranked := same
      active := actives
      shown := shown
      planIds := map_eq_of_map_eq actives _ fun _ => rfl
      primaries := reads _ fun _ => rfl
      alternatives := by
        apply reads
        intro entry
        exact List.map_map
      rankingKeys := map_eq_of_map_eq same _ fun _ => rfl
      tieKeys := map_eq_of_map_eq same _ fun _ => rfl
      strata := map_eq_of_map_eq same _ fun _ => rfl
      hardConstraints := map_eq_of_map_eq same _ fun _ => rfl }

/-- Readiness reports, it does not rank: whatever the machine is ready to run, the same candidates
give the same plans in the same order, with the same primaries and alternatives. -/
theorem recommend_ignores_readiness (collaborators : Collaborators) (wilson : ℕ → ℕ → ℚ × ℚ)
    (context : PlanRankingContext)
    (readiness readiness' : Option (RuntimeName → Option ExecutionReadiness))
    (estimateFn : Option EstimatePlanFn) (requirements : UserRequirements) (limit : Option ℤ)
    (shownLimit : ℤ) (evaluated : List EvaluatedCandidate) :
    let run readiness := recommend collaborators wilson
      { context with readinessByRuntime := readiness } estimateFn requirements limit shownLimit
      evaluated
    (∃ error, run readiness = .error error ∧ run readiness' = .error error) ∨
      ∃ a b, run readiness = .ok a ∧ run readiness' = .ok b ∧
        SameRecommendation requirements a b := by
  intro run
  let rank readiness := rankExecutionPlans collaborators
    { context with readinessByRuntime := readiness } estimateFn requirements limit evaluated
  have blank : (rank readiness).map (List.map withoutReadiness) =
      (rank readiness').map (List.map withoutReadiness) :=
    rankExecutionPlans_withoutReadiness.trans rankExecutionPlans_withoutReadiness.symm
  have chain : ∀ readiness, run readiness =
      (rank readiness).bind (recommendRanked wilson requirements shownLimit) := fun _ => rfl
  rw [chain, chain]
  cases left : rank readiness with
  | error text =>
    cases right : rank readiness' with
    | error text' =>
      rw [left, right] at blank
      cases blank
      exact .inl ⟨text, rfl, rfl⟩
    | ok ranked' =>
      rw [left, right] at blank
      cases blank
  | ok ranked =>
    cases right : rank readiness' with
    | error text' =>
      rw [left, right] at blank
      cases blank
    | ok ranked' =>
      rw [left, right] at blank
      exact .inr (SameRecommendation.of_ranked (Except.ok.inj blank)
        (rankExecutionPlans_injOn left) (rankExecutionPlans_injOn right))

end Jaull.Recommendation
