import Mathlib.Data.List.TakeWhile
import Jaull.Lib.LeaderPick
import Jaull.Recommendation.Selection

/-!
# Diversity over a ranked order

Port of `jaull/recommendation/diversity.py`: one slot per logical model, and variety between plans
whose tie keys are equal. `_choose_next` looks for the ties of the leader among all the plans left, so
a tie may pass plans of another key that stand between (`tied_plan_overtakes_better`); when it
does is `diversity_keeps_order_iff`.
-/

namespace Jaull.Recommendation
open Jaull.Domain Jaull.Lib Jaull.Text

/-- One logical model of a ranked order (Python `_IdentityBucket`). -/
structure IdentityBucket where
  key : String
  primary : RankedPlan
  alternatives : List RankedPlan
  originalIndex : ℕ
  deriving DecidableEq

/-- One shown entry (Python `DiversifiedRecommendation`). -/
structure DiversifiedRecommendation where
  primary : RankedPlan
  alternatives : List RankedPlan
  position : RecommendationPosition
  deriving DecidableEq

/-- The logical model a plan belongs to (the `key` of Python `_best_plan_per_identity`). -/
def identityKey (item : RankedPlan) : String :=
  casefold ((truthy (confirmedModelRepoId item.plan.modelIdentity)).getD item.plan.artifact.repoId)

/-- First place of a plan that is not rejected, by logical model (the `indexes` of Python
`_best_plan_per_identity`). -/
def identityIndexes (ranked : List RankedPlan) : List (String × ℕ) :=
  let eligible (index : ℕ) : Option String :=
    (ranked[index]?.filter (!·.assessment.rejected)).map identityKey
  (grouped eligible (List.range ranked.length)).map fun (key, indexes) =>
    (key, indexes.head?.getD 0)

/-- Python `_best_plan_per_identity`. Two plans at different places are different objects, so the
alternatives drop the first copy of the primary. -/
def bestPlanPerIdentity (ranked : List RankedPlan) : List IdentityBucket :=
  (sortedBy (·.2) (identityIndexes ranked)).filterMap fun (key, index) =>
    let items := ranked.filter (identityKey · = key)
    (items.find? (!·.assessment.rejected)).map fun primary =>
      { key := key
        primary := primary
        alternatives := items.erase primary
        originalIndex := index }

/-- Python `_family_key`. -/
def familyKey (identity : ModelIdentity) : Option String :=
  match identity.family with
  | none => none
  | some family => if lower family = "unknown" then none else some (lower family)

/-- Python `_parameter_tier`. -/
def parameterTier : Option ℤ → Option String
  | none => none
  | some count =>
    if count < 2000000000 then some "sub_2b"
    else if count < 5000000000 then some "2b_to_5b"
    else if count < 10000000000 then some "5b_to_10b"
    else some "10b_plus"

/-- Python `_execution_profile`. -/
def executionProfile (plan : ExecutionPlan) :
    RuntimeName × Option String × Option String × Option String :=
  (plan.runtime.runtime, plan.backendSelection.map (·.selectedBackend.value),
    (truthy plan.artifact.quantization).or plan.artifact.precision,
    parameterTier plan.modelIdentity.parameterCount)

/-- How much a plan repeats the plans already selected (Python `_redundancy_key`). -/
def redundancyKey (plan : ExecutionPlan) (selected : List IdentityBucket) : ℕ ×ₗ ℕ ×ₗ ℕ ×ₗ ℕ :=
  let plans := selected.map (·.primary.plan)
  let family := familyKey plan.modelIdentity
  let tier := parameterTier plan.modelIdentity.parameterCount
  toLex
    (if family.isSome then plans.countP (familyKey ·.modelIdentity = family) else 0, toLex
      (if tier.isSome then plans.countP (parameterTier ·.modelIdentity.parameterCount = tier) else 0,
        toLex
          (plans.countP (·.runtime.runtime = plan.runtime.runtime),
            plans.countP (executionProfile · = executionProfile plan))))

section Choice
variable {κ : Type} [DecidableEq κ] (tieKey : RankedPlan → κ)

/-- The least redundant of the plans left that tie with the first one, and the first of these (Python
`_choose_next`). -/
def chooseNext (selected remaining : List IdentityBucket) : Option IdentityBucket :=
  match remaining with
  | [] => none
  | leader :: _ =>
    let comparable := remaining.filter fun item => tieKey item.primary = tieKey leader.primary
    let key (item : IdentityBucket) : (ℕ ×ₗ ℕ ×ₗ ℕ ×ₗ ℕ) ×ₗ ℕ :=
      toLex (redundancyKey item.primary.plan selected, item.originalIndex)
    (sortedBy key comparable).head?

/-- The logical models shown, in the order they are shown (the `selected` of Python
`diversify_ranked_plans`). -/
def shownBuckets (ranked : List RankedPlan) (limit : ℤ) : List IdentityBucket :=
  if limit ≤ 0 then [] else
  match bestPlanPerIdentity ranked with
  | [] => []
  | first :: remaining =>
    pickFrom (chooseNext tieKey) limit.toNat remaining.length [first] remaining

/-- The state of the loop before each plan is chosen, with the plan (the passes of the `while` of Python
`diversify_ranked_plans`). -/
def shownRounds (ranked : List RankedPlan) (limit : ℤ) :
    List ((List IdentityBucket × List IdentityBucket) × IdentityBucket) :=
  if limit ≤ 0 then [] else
  match bestPlanPerIdentity ranked with
  | [] => []
  | first :: remaining =>
    pickRounds (chooseNext tieKey) limit.toNat remaining.length [first] remaining

/-- No tie of the leader behind a plan of another key repeats the selected plans less than every tie
ahead of that plan. -/
def FrontTiesSuffice (selected remaining : List IdentityBucket) : Prop :=
  ∀ leader ∈ remaining.head?,
    ∀ stray ∈ remaining.dropWhile (fun item => tieKey item.primary = tieKey leader.primary),
      tieKey stray.primary = tieKey leader.primary →
      ∃ near ∈ remaining.takeWhile (fun item => tieKey item.primary = tieKey leader.primary),
        redundancyKey near.primary.plan selected ≤ redundancyKey stray.primary.plan selected

/-- Python `_position_for`. -/
def positionFor (ranked best : RankedPlan) (index : ℕ) : RecommendationPosition :=
  if index = 0 then .bestOverall
  else if ranked.assessment.measuredGenerationTokensPerSecond.isSome then .faster
  else
    let memory (assessment : PlanAssessment) : Option ℤ :=
      orNonzero assessment.measuredMemoryBytes assessment.estimatedMemoryBytes
    let lighter : Bool := match memory ranked.assessment, memory best.assessment with
      | some current, some best => current ≤ (3 * best).tdiv 4
      | _, _ => false
    if lighter then .lighter
    else
      let larger : Bool := match ranked.plan.modelIdentity.parameterCount,
          best.plan.modelIdentity.parameterCount with
        | some current, some best => current ≥ (5 * best).tdiv 4
        | _, _ => false
      if larger then .higherQuality else .alternative

/-- Up to `limit` logical models, each shown by its best plan (Python `diversify_ranked_plans`). -/
def diversifyRankedPlans (ranked : List RankedPlan) (limit : ℤ) : List DiversifiedRecommendation :=
  let shown := shownBuckets tieKey ranked limit
  match shown with
  | [] => []
  | best :: _ =>
    shown.zipIdx.map fun (bucket, index) =>
      { primary := bucket.primary
        alternatives := bucket.alternatives
        position := positionFor bucket.primary best.primary index }

end Choice

/-- A tie for a caller that names no key (Python `_assessment_signature`). Measured speed never makes
two plans look different here. -/
def assessmentSignature (item : RankedPlan) : List AssessmentLevel × EstimationConfidence × ℤ :=
  let assessment := item.assessment
  ([assessment.suitability, assessment.capability, assessment.executionFitness,
      assessment.feasibility, assessment.executability, assessment.resourceEvidence,
      assessment.licenseFit, assessment.languageFit],
    assessment.confidence, item.evaluated.candidate.downloads)

/-- The ranking's own definition of a tie for these requirements (Python `tie_key_for`). -/
def tieKeyFor (requirements : UserRequirements) (item : RankedPlan) : List ℤ :=
  rankingTieKey item requirements.priority requirements.commercial

/-- Whenever `i` is shown before `j` although the active order has `j` first, every primary between
them, both ends included, ties with `i`. -/
def KeepsActiveOrder (requirements : UserRequirements) (primaries shown : List IdentityBucket) :
    Prop :=
  KeepsOrder (tieKeyFor requirements ·.primary) (·.originalIndex) primaries shown

/-- Whom diversity may show before whom, `primaries` being the logical models of an active order. -/
structure Diversified (requirements : UserRequirements) (active : List RankedPlan)
    (primaries shown : List IdentityBucket) : Prop where
  /-- Every logical model stands where its best plan stands. -/
  placed : ∀ bucket ∈ primaries, active[bucket.originalIndex]? = some bucket.primary
  /-- The first logical model is shown first and the others are chosen among the rest. -/
  chosen : ∀ first rest, shown = first :: rest →
    ∃ remaining, primaries = first :: remaining ∧ rest ⊆ remaining
  /-- Who is shown before a model that stood before it ties with one that stood no later than that
  model, was not the first and was not shown yet. -/
  overtakes : ∀ before i between j after, shown = before ++ i :: between ++ j :: after →
    j.originalIndex < i.originalIndex →
    ∃ leader ∈ primaries.tail, leader ∉ before ∧ leader.originalIndex ≤ j.originalIndex ∧
      tieKeyFor requirements leader.primary = tieKeyFor requirements i.primary

section Buckets
variable {ranked : List RankedPlan}

/-- An index of a logical model is the first place of one of its plans that is not rejected. -/
lemma mem_identityIndexes {key index} (mem : (key, index) ∈ identityIndexes ranked) :
    ∃ item, ranked[index]? = some item ∧ item.assessment.rejected = false ∧
      identityKey item = key ∧
      ∀ (j : ℕ) other, j < index → ranked[j]? = some other → identityKey other = key →
        other.assessment.rejected = true := by
  obtain ⟨⟨key', indexes⟩, memG, eq⟩ := List.mem_map.mp mem
  cases eq
  obtain ⟨eq, ne⟩ := mem_grouped.mp memG
  cases indexes with
  | nil => exact absurd rfl ne
  | cons first rest =>
    have here : first ∈ first :: rest := List.mem_cons_self
    rw [eq, List.mem_filter, decide_eq_true_eq] at here
    obtain ⟨_, isKey⟩ := here
    obtain ⟨item, filtered, isKey⟩ := Option.map_eq_some_iff.mp isKey
    obtain ⟨at_first, kept⟩ := Option.filter_eq_some_iff.mp filtered
    refine ⟨item, at_first, by simpa using kept, isKey, ?_⟩
    intro j other lt at_j same
    by_contra eligible
    have memJ : j ∈ first :: rest := by
      rw [eq, List.mem_filter, List.mem_range, decide_eq_true_eq]
      have kept' : other.assessment.rejected = false := by simpa using eligible
      refine ⟨(List.getElem?_eq_some_iff.mp at_j).1, ?_⟩
      simp [at_j, kept', same]
    have ordered : (first :: rest).Pairwise (· < ·) := by
      rw [eq]
      exact List.pairwise_lt_range.filter _
    rcases List.mem_cons.mp memJ with rfl | memRest
    · exact lt_irrefl _ lt
    · exact absurd (List.rel_of_pairwise_cons ordered memRest) (lt_asymm lt)

/-- What a bucket says of the order it comes from. -/
lemma bucket_spec {bucket} (mem : bucket ∈ bestPlanPerIdentity ranked) :
    (bucket.key, bucket.originalIndex) ∈ identityIndexes ranked ∧
      ranked[bucket.originalIndex]? = some bucket.primary ∧
      identityKey bucket.primary = bucket.key := by
  obtain ⟨⟨key, index⟩, memI, built⟩ := List.mem_filterMap.mp mem
  obtain ⟨primary, found, rfl⟩ := Option.map_eq_some_iff.mp built
  rw [mem_sortedBy] at memI
  obtain ⟨item, at_index, kept, isKey, least⟩ := mem_identityIndexes memI
  have same : primary = item := by
    rw [List.find?_filter, List.find?_eq_some_iff_getElem] at found
    obtain ⟨holds, i, inside, eq, before⟩ := found
    simp only [decide_eq_true_eq, Bool.not_eq_true'] at holds
    rcases lt_trichotomy i index with lt | rfl | lt
    · have rejected := least i primary lt (List.getElem?_eq_some_iff.mpr ⟨inside, eq⟩) holds.1
      rw [rejected] at holds
      cases holds.2
    · rw [List.getElem?_eq_getElem inside, eq] at at_index
      exact Option.some.inj at_index
    · obtain ⟨inside', eq'⟩ := List.getElem?_eq_some_iff.mp at_index
      have no := before index lt
      rw [eq'] at no
      simp [isKey, kept] at no
  subst same
  exact ⟨memI, at_index, isKey⟩

/-- Buckets stand in the order of their primaries. -/
lemma bestPlanPerIdentity_ordered :
    (bestPlanPerIdentity ranked).Pairwise fun a b => a.originalIndex < b.originalIndex := by
  have keys : (identityIndexes ranked).Pairwise fun a b => a.1 ≠ b.1 := by
    have nodup := nodup_keys_grouped
      (fun index => (ranked[index]?.filter (!·.assessment.rejected)).map identityKey)
      (List.range ranked.length)
    rw [List.Nodup, List.pairwise_map] at nodup
    rw [identityIndexes, List.pairwise_map]
    exact nodup
  have distinct : (sortedBy (·.2) (identityIndexes ranked)).Pairwise fun a b => a.1 ≠ b.1 :=
    (sortedBy_perm _ _).symm.pairwise keys fun ne => ne.symm
  have strict : (sortedBy (·.2) (identityIndexes ranked)).Pairwise fun a b => a.2 < b.2 := by
    apply ((sortedBy_pairwise (·.2) (identityIndexes ranked)).and distinct).imp_of_mem
    rintro ⟨keyA, indexA⟩ ⟨keyB, indexB⟩ memA memB ⟨le, ne⟩
    apply lt_of_le_of_ne le
    intro same
    obtain ⟨itemA, at_a, _, isKeyA, _⟩ := mem_identityIndexes (mem_sortedBy.mp memA)
    obtain ⟨itemB, at_b, _, isKeyB, _⟩ := mem_identityIndexes (mem_sortedBy.mp memB)
    change indexA = indexB at same
    subst same
    rw [at_a] at at_b
    cases at_b
    exact ne (isKeyA.symm.trans isKeyB)
  rw [bestPlanPerIdentity, List.pairwise_filterMap]
  apply strict.imp
  rintro ⟨keyA, indexA⟩ ⟨keyB, indexB⟩ lt a builtA b builtB
  obtain ⟨_, _, rfl⟩ := Option.map_eq_some_iff.mp builtA
  obtain ⟨_, _, rfl⟩ := Option.map_eq_some_iff.mp builtB
  exact lt

variable {κ : Type} [DecidableEq κ] {tieKey : RankedPlan → κ} {limit : ℤ}
  {selected remaining : List IdentityBucket} {picked : IdentityBucket}

/-- The choice is the least redundant tie of the first bucket left, and the first of these. -/
lemma chooseNext_spec {leader rest}
    (pick : chooseNext tieKey selected (leader :: rest) = some picked) :
    picked ∈ leader :: rest ∧ tieKey picked.primary = tieKey leader.primary ∧
      ∀ item ∈ leader :: rest, tieKey item.primary = tieKey leader.primary →
        redundancyKey picked.primary.plan selected < redundancyKey item.primary.plan selected ∨
        redundancyKey picked.primary.plan selected = redundancyKey item.primary.plan selected ∧
          picked.originalIndex ≤ item.originalIndex := by
  obtain ⟨others, eq⟩ := List.head?_eq_some_iff.mp pick
  have mem := List.mem_of_mem_head? (Option.mem_def.mpr pick)
  rw [mem_sortedBy, List.mem_filter, decide_eq_true_eq] at mem
  refine ⟨mem.1, mem.2, ?_⟩
  intro item memI tie
  have comparable : item ∈ (leader :: rest).filter fun item =>
      tieKey item.primary = tieKey leader.primary := by
    rw [List.mem_filter, decide_eq_true_eq]
    exact ⟨memI, tie⟩
  have le := sortedBy_head_le eq item comparable
  rw [Prod.Lex.toLex_le_toLex] at le
  exact le

/-- The choice keeps to the leader's ties. -/
lemma chooseNext_picksTies : PicksTies (chooseNext tieKey) fun bucket => tieKey bucket.primary := by
  intro selected remaining picked pick
  cases remaining with
  | nil => cases pick
  | cons leader rest =>
    obtain ⟨mem, tie, _⟩ := chooseNext_spec pick
    exact ⟨mem, leader, rfl, tie.symm⟩

/-- Something is chosen while a bucket is left. -/
lemma chooseNext_eq_some (ne : remaining ≠ []) :
    ∃ picked ∈ remaining, chooseNext tieKey selected remaining = some picked := by
  cases pick : chooseNext tieKey selected remaining with
  | some picked => exact ⟨picked, (chooseNext_picksTies selected remaining picked pick).1, rfl⟩
  | none =>
    cases remaining with
    | nil => exact absurd rfl ne
    | cons leader rest =>
      rw [chooseNext] at pick
      simp only [List.head?_eq_none_iff, sortedBy_eq_nil, List.filter_eq_nil_iff] at pick
      exact absurd (decide_eq_true rfl) (pick leader List.mem_cons_self)

/-- The choice passes nobody but ties exactly when the ties in front suffice. -/
lemma near_iff_frontTiesSuffice
    (placed : remaining.Pairwise fun a b => a.originalIndex < b.originalIndex)
    (pick : chooseNext tieKey selected remaining = some picked) :
    Near (fun bucket => tieKey bucket.primary) (·.originalIndex) ((selected, remaining), picked) ↔
      FrontTiesSuffice tieKey selected remaining := by
  cases remaining with
  | nil => cases pick
  | cons leader rest =>
    obtain ⟨mem, tie, least⟩ := chooseNext_spec pick
    let ties (item : IdentityBucket) : Bool := tieKey item.primary = tieKey leader.primary
    have parts : (leader :: rest).takeWhile ties ++ (leader :: rest).dropWhile ties =
        leader :: rest := List.takeWhile_append_dropWhile
    have ordered := placed
    rw [← parts, List.pairwise_append] at ordered
    obtain ⟨_, orderedBack, across⟩ := ordered
    have front : ∀ item ∈ (leader :: rest).takeWhile ties,
        item ∈ leader :: rest ∧ tieKey item.primary = tieKey leader.primary := by
      intro item memF
      have isTie : ties item := List.mem_takeWhile_imp memF
      exact ⟨List.takeWhile_subset _ memF, of_decide_eq_true isTie⟩
    have side : ∀ item ∈ leader :: rest,
        item ∈ (leader :: rest).takeWhile ties ∨ item ∈ (leader :: rest).dropWhile ties := by
      intro item memI
      rw [← parts] at memI
      exact List.mem_append.mp memI
    constructor
    · intro near leader' isHead stray memS tieS
      cases isHead
      refine ⟨picked, ?_, ?_⟩
      · apply (side picked mem).resolve_right
        intro memB
        -- the first bucket behind the front has another key and stands no later than the choice
        cases back : (leader :: rest).dropWhile ties with
        | nil =>
          rw [back] at memB
          cases memB
        | cons other others =>
          have apart : ties other = false := by
            have ne : (leader :: rest).dropWhile ties ≠ [] := by
              rw [back]
              exact List.cons_ne_nil other others
            have stops := List.head_dropWhile_not ties ne
            simp only [back, List.head_cons] at stops
            exact stops
          have memO : other ∈ leader :: rest := by
            rw [← parts, back]
            simp
          have le : other.originalIndex ≤ picked.originalIndex := by
            rw [back] at memB orderedBack
            rcases List.mem_cons.mp memB with rfl | memB
            · exact Nat.le_refl _
            · exact Nat.le_of_lt (List.rel_of_pairwise_cons orderedBack memB)
          have same : tieKey other.primary = tieKey picked.primary := near other memO le
          rw [tie] at same
          exact absurd same (of_decide_eq_false apart)
      · rcases least stray (List.dropWhile_subset _ memS) tieS with lt | ⟨eq, _⟩
        · exact lt.le
        · exact eq.le
    · intro suffice m memM le
      change m.originalIndex ≤ picked.originalIndex at le
      have inFront : picked ∈ (leader :: rest).takeWhile ties := by
        apply (side picked mem).resolve_right
        intro memB
        obtain ⟨near, memN, le⟩ := suffice leader rfl picked memB tie
        obtain ⟨memN', tieN⟩ := front near memN
        rcases least near memN' tieN with lt | ⟨_, le'⟩
        · exact absurd le (not_le_of_gt lt)
        · exact absurd (across near memN picked memB) (Nat.not_lt_of_le le')
      have inFrontM : m ∈ (leader :: rest).takeWhile ties := by
        apply (side m memM).resolve_right
        intro memB
        exact absurd (across picked inFront m memB) (Nat.not_lt_of_le le)
      change tieKey m.primary = tieKey picked.primary
      rw [(front m inFrontM).2, tie]

/-- Nothing is shown, or the first bucket and then the picks of the loop. -/
lemma shownBuckets_eq :
    (shownBuckets tieKey ranked limit = [] ∧ shownRounds tieKey ranked limit = [] ∧
      (limit ≤ 0 ∨ bestPlanPerIdentity ranked = [])) ∨
    ∃ first remaining, bestPlanPerIdentity ranked = first :: remaining ∧
      shownBuckets tieKey ranked limit =
        first :: (shownRounds tieKey ranked limit).map Prod.snd ∧
      shownRounds tieKey ranked limit =
        pickRounds (chooseNext tieKey) limit.toNat remaining.length [first] remaining := by
  rw [shownBuckets, shownRounds]
  split
  case isTrue none => exact .inl ⟨rfl, rfl, .inl none⟩
  case isFalse =>
    cases buckets : bestPlanPerIdentity ranked with
    | nil => exact .inl ⟨rfl, rfl, .inr rfl⟩
    | cons first remaining => exact .inr ⟨first, remaining, rfl, pickFrom_eq, rfl⟩

/-- What is shown are the primaries, in the order of the buckets chosen. -/
lemma diversifyRankedPlans_primaries :
    (diversifyRankedPlans tieKey ranked limit).map (·.primary) =
      (shownBuckets tieKey ranked limit).map (·.primary) := by
  rw [diversifyRankedPlans]
  cases shown : shownBuckets tieKey ranked limit with
  | nil => rfl
  | cons best rest =>
    simp only [List.map_map]
    change List.map ((fun bucket => bucket.primary) ∘ Prod.fst) (best :: rest).zipIdx = _
    rw [← List.map_map, List.zipIdx_map_fst]

/-- Diversity over any order. -/
lemma diversified {requirements : UserRequirements} :
    Diversified requirements ranked (bestPlanPerIdentity ranked)
      (shownBuckets (tieKeyFor requirements) ranked limit) := by
  have ordered := @bestPlanPerIdentity_ordered ranked
  refine ⟨fun bucket mem => (bucket_spec mem).2.1, ?_, ?_⟩
  · intro first rest eq
    rcases @shownBuckets_eq ranked _ _ (tieKeyFor requirements) limit with
      ⟨empty, _⟩ | ⟨first', remaining, buckets, shown, rounds⟩
    · rw [empty] at eq
      cases eq
    · rw [shown] at eq
      cases eq
      refine ⟨remaining, buckets, ?_⟩
      rw [rounds]
      exact picks_subset chooseNext_picksTies
  · intro before i between j after split lt
    rcases @shownBuckets_eq ranked _ _ (tieKeyFor requirements) limit with
      ⟨empty, _⟩ | ⟨first, remaining, buckets, shown, rounds⟩
    · rw [empty] at split
      simp at split
    · rw [buckets, List.pairwise_cons] at ordered
      rw [shown, rounds] at split
      rw [buckets, List.tail_cons]
      have inside := @picks_subset _ _ _ _ _ limit.toNat remaining.length [first] remaining
        (@chooseNext_picksTies _ _ (tieKeyFor requirements))
      cases before with
      | nil =>
        -- the first bucket stands before every other
        rw [List.nil_append, List.cons_append, List.cons.injEq] at split
        obtain ⟨rfl, split⟩ := split
        have memJ : j ∈ remaining := inside (by simp [split])
        exact absurd (ordered.1 j memJ) (Nat.lt_asymm lt)
      | cons head before =>
        simp only [List.cons_append, List.cons.injEq, List.append_assoc] at split
        obtain ⟨rfl, split⟩ := split
        obtain ⟨leader, mem, notBefore, tie, ahead⟩ :=
          overtakes_for_tie chooseNext_picksTies ordered.2 split
        refine ⟨leader, mem, ?_, ahead j (by simp), tie⟩
        rw [List.mem_cons, not_or]
        refine ⟨?_, notBefore⟩
        rintro rfl
        exact Nat.lt_irrefl _ (ordered.1 leader mem)

/-- Where the ties in front suffice in every round, diversity keeps the order; where everything is
shown, only there. -/
lemma keepsActiveOrder_iff {requirements : UserRequirements} :
    ((∀ round ∈ shownRounds (tieKeyFor requirements) ranked limit,
        FrontTiesSuffice (tieKeyFor requirements) round.1.1 round.1.2) →
      KeepsActiveOrder requirements (bestPlanPerIdentity ranked)
        (shownBuckets (tieKeyFor requirements) ranked limit)) ∧
    ((bestPlanPerIdentity ranked).length ≤ limit →
      KeepsActiveOrder requirements (bestPlanPerIdentity ranked)
        (shownBuckets (tieKeyFor requirements) ranked limit) →
      ∀ round ∈ shownRounds (tieKeyFor requirements) ranked limit,
        FrontTiesSuffice (tieKeyFor requirements) round.1.1 round.1.2) := by
  have ordered := @bestPlanPerIdentity_ordered ranked
  rcases @shownBuckets_eq ranked _ _ (tieKeyFor requirements) limit with
    ⟨empty, none, _⟩ | ⟨first, remaining, buckets, shown, rounds⟩
  · rw [empty, none]
    constructor
    · intro _ before i between j after split
      simp at split
    · intro _ _ round mem
      cases mem
  · rw [buckets] at ordered
    have placed := (List.pairwise_cons.mp ordered).2
    -- the condition on a round is that its pick is a near one
    have near : ∀ round ∈ pickRounds (chooseNext (tieKeyFor requirements)) limit.toNat
        remaining.length [first] remaining,
        Near (tieKeyFor requirements ·.primary) (·.originalIndex) round ↔
          FrontTiesSuffice (tieKeyFor requirements) round.1.1 round.1.2 := by
      intro round mem
      obtain ⟨pick, sub⟩ := mem_pickRounds mem
      exact near_iff_frontTiesSuffice (placed.sublist sub) pick
    rw [shown, buckets, rounds, KeepsActiveOrder,
      keepsOrder_cons (picks_subset chooseNext_picksTies) ordered]
    constructor
    · intro suffice
      apply KeepsOrder.of_near chooseNext_picksTies
      intro round mem
      exact (near round mem).mpr (suffice round mem)
    · intro room keeps round mem
      -- every model is shown, so every one is picked
      have all : remaining ⊆ (pickRounds (chooseNext (tieKeyFor requirements)) limit.toNat
          remaining.length [first] remaining).map Prod.snd := by
        apply subset_picks fun selected remaining ne => chooseNext_eq_some ne
        · exact Nat.le_refl _
        · rw [List.length_cons] at room
          rw [List.length_singleton]
          omega
      exact (near round mem).mp (KeepsOrder.near chooseNext_picksTies placed all keeps round mem)

end Buckets

/-- Over the active order of any ranked list, diversity passes nobody but ties if in every round of the
loop the ties in front suffice, and, where every logical model is shown, only if so. Whom it passes
otherwise is bounded by `Diversified`. -/
theorem diversity_keeps_order_iff (wilson : ℕ → ℕ → ℚ × ℚ) (ranked : List RankedPlan)
    (requirements : UserRequirements) (limit : ℤ) :
    ∃ active, applyActivePolicy wilson ranked requirements = some active ∧
      (diversifyRankedPlans (tieKeyFor requirements) active limit).map (·.primary) =
        (shownBuckets (tieKeyFor requirements) active limit).map (·.primary) ∧
      Diversified requirements active (bestPlanPerIdentity active)
        (shownBuckets (tieKeyFor requirements) active limit) ∧
      ((∀ round ∈ shownRounds (tieKeyFor requirements) active limit,
          FrontTiesSuffice (tieKeyFor requirements) round.1.1 round.1.2) →
        KeepsActiveOrder requirements (bestPlanPerIdentity active)
          (shownBuckets (tieKeyFor requirements) active limit)) ∧
      ((bestPlanPerIdentity active).length ≤ limit →
        KeepsActiveOrder requirements (bestPlanPerIdentity active)
          (shownBuckets (tieKeyFor requirements) active limit) →
        ∀ round ∈ shownRounds (tieKeyFor requirements) active limit,
          FrontTiesSuffice (tieKeyFor requirements) round.1.1 round.1.2) := by
  obtain ⟨active, built⟩ := applyActivePolicy_total wilson ranked requirements
  obtain ⟨enough, needed⟩ := @keepsActiveOrder_iff active limit requirements
  exact ⟨active, built, diversifyRankedPlans_primaries, diversified, enough, needed⟩

/-- A plan of one family, popularity and measured speed. -/
def measuredPlan (name family : String) (downloads : ℤ) (speed : Option ℚ) : RankedPlan :=
  let identity : ModelIdentity := { modelName := name, family := some family }
  { evaluated := { candidate := { repoId := name, downloads := downloads } }
    plan :=
      { planId := name
        modelIdentity := identity
        artifact := { modelIdentity := identity, repoId := name, format := .gguf }
        runtime := { runtime := .llamaCpp, confidence := .high }
        identity_matches := rfl }
    assessment :=
      { planId := name
        speed :=
          match speed with
          | none => {}
          | some speed =>
            { applicability := .measuredPlan
              applicable := some
                { tokensPerSecond := speed
                  repetitions := 5
                  cohort := "tg128"
                  benchmarkId := name
                  benchmarkIds := [name ++ "-1", name ++ "-2", name ++ "-3"]
                  runCount := 3
                  observedMin := some (speed - 1)
                  observedMax := some (speed + 1) } } } }

/-- `faster` and `tied` have one tie key; `better` is more popular and measured slower than
`faster`. -/
def overtakenRanking : List RankedPlan :=
  [measuredPlan "best" "qwen" 30 none, measuredPlan "better" "llama" 20 (some 10),
    measuredPlan "faster" "qwen" 10 (some 100), measuredPlan "tied" "gemma" 10 none]

/-- A request that puts speed first. -/
def speedFirst : UserRequirements :=
  { useCase := .generalChat, priority := .speed, desiredContext := 4096 }

/-- Measured speed puts `faster` before `better`, and diversity then shows `tied`, which ties with
`faster`, before `better`, which does not. -/
theorem tied_plan_overtakes_better :
    ∃ active, applyActivePolicy (fun _ _ => (0, 1)) overtakenRanking speedFirst = some active ∧
      ¬ KeepsActiveOrder speedFirst (bestPlanPerIdentity active)
        (shownBuckets (tieKeyFor speedFirst) active 4) := by
  let best := measuredPlan "best" "qwen" 30 none
  let better := measuredPlan "better" "llama" 20 (some 10)
  let faster := measuredPlan "faster" "qwen" 10 (some 100)
  let tied := measuredPlan "tied" "gemma" 10 none
  let bucket (item : RankedPlan) (index : ℕ) : IdentityBucket :=
    { key := item.plan.planId, primary := item, alternatives := [], originalIndex := index }
  have active : applyActivePolicy (fun _ _ => (0, 1)) overtakenRanking speedFirst =
      some [best, faster, better, tied] := by decide +kernel
  have shown : shownBuckets (tieKeyFor speedFirst) [best, faster, better, tied] 4 =
      [bucket best 0] ++ bucket tied 3 :: [bucket faster 1] ++ bucket better 2 :: [] := by
    decide +kernel
  refine ⟨_, active, ?_⟩
  intro keeps
  have tie := keeps [bucket best 0] (bucket tied 3) [bucket faster 1] (bucket better 2) [] shown
    (by decide) (bucket better 2) (by decide +kernel) (by decide) (by decide)
  exact absurd tie (by decide +kernel)

end Jaull.Recommendation
