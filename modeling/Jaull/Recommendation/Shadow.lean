import Jaull.Lib.Grouping
import Jaull.Lib.Slots
import Jaull.Recommendation.Measured
import Jaull.Recommendation.Ranking
import Jaull.Text.Json

/-!
# The measured policy

Port of `production_evidence`, `apply_measured_policy`, `_shadow_order`, `_stratum` and `_cohort` of
`jaull/recommendation/shadow.py`. Members of one cohort in one contiguous run of a stratum trade
the places they held; `applyMeasuredPolicy_reorders` says that nothing else happens.

`wilson` is the floating-point interval `_wilson`, taken as a parameter.
-/

namespace Jaull.Recommendation
open Jaull.Domain Jaull.Lib Jaull.Text

/-- One plan that moved (Python `ShadowMove`). -/
structure ShadowMove where
  planId : String
  repoId : String
  baseIndex : ℕ
  shadowIndex : ℕ
  group : String
  rule : String
  evidenceIds : List String := []
  deriving DecidableEq, Repr

/-- One group that was ordered (Python `ShadowGroup`). -/
structure ShadowGroup where
  key : String
  planIds : List String
  limitations : List String := []
  deriving DecidableEq, Repr

/-- Applicable evidence from what ranking attached, with why where there is none (Python
`production_evidence`). -/
def productionEvidence (wilson : ℕ → ℕ → ℚ × ℚ) (assessment : PlanAssessment) : PlanEvidence :=
  { quality := assessment.quality.applicable.map quality
    speed := assessment.speed.applicable.map speed
    fallbackReasons := qualityReason :: speedReason }
where
  quality (measured : ApplicableQuality) : Measured :=
    let (low, high) := wilson measured.correct measured.samples
    { cohort := measured.cohort
      value := measured.value
      label := measured.suite ++ " " ++ measured.metric
      evidenceIds := [measured.recordSha256]
      minimum := low
      maximum := high }
  speed (measured : ApplicableSpeed) : Measured :=
    { cohort := measured.cohort
      value := measured.tokensPerSecond
      label := measured.metric ++ " tok/s"
      evidenceIds :=
        if measured.benchmarkIds.isEmpty then [measured.benchmarkId] else measured.benchmarkIds
      minimum := measured.observedMin
      maximum := measured.observedMax
      comparisonReady := measured.rankingReady }
  qualityReason : String :=
    if assessment.quality.applicable.isSome then
      "Quality: measured, but it orders only against other measured plans in its " ++
        "comparable cohort and stratum."
    else if assessment.quality.applicability = .absent then
      "Quality: no evidence for this artifact."
    else "Quality: references only; none passes task/protocol applicability."
  speedReason : List String :=
    match assessment.speed.applicable with
    | some measured =>
      [if measured.rankingReady then
        "Speed: measured, but it orders only against other measured plans in its " ++
          "comparable cohort and stratum."
      else
        "Speed: " ++ toString measured.runCount ++ " stored calls; at least three distinct " ++
          "calls with an observed range are required to order plans."]
    | none =>
      if assessment.speed.applicability = .absent then
        ["Speed: no benchmark of this exact artifact."]
      else
        match assessment.speed.references with
        | newest :: _ =>
          match newest.blockers with
          | blocker :: _ => ["Speed: " ++ newest.benchmarkId ++ " is blocked: " ++ blocker]
          | [] => ["Speed: " ++ newest.benchmarkId ++ " is reference only."]
        -- Excluded by `SpeedAssessment.referenced`.
        | [] => []

/-- What evidence never crosses (the tuple of Python `_stratum`). -/
structure Stratum where
  confirmed : Bool
  rejected : Bool
  confirmation : ℤ
  suitability : AssessmentLevel
  licenseFit : AssessmentLevel
  languageFit : AssessmentLevel
  deriving DecidableEq, Repr

/-- Python `_stratum`. -/
def stratum (commercial : Bool) (item : RankedPlan) : Stratum :=
  { confirmed := !item.assessment.rejected && confirmedPlacement item
    rejected := item.assessment.rejected
    confirmation := if commercial then requirementConfirmationRank item else 0
    suitability := item.assessment.suitability
    licenseFit := item.assessment.licenseFit
    languageFit := item.assessment.languageFit }

/-- Python `_cohort`. -/
def cohort : MeasuredPolicy → PlanEvidence → Option (List String)
  | .quality, evidence => evidence.quality.map fun quality => [quality.cohort]
  | policy, evidence =>
    match evidence.speed with
    | none => none
    | some speed =>
      if !speed.comparisonReady then none
      else if policy = .fastest then some [speed.cohort]
      else evidence.quality.map fun quality => [quality.cohort, speed.cohort]

/-- Python `_speed_overlaps`. -/
def speedOverlaps (evidenceOf : RankedPlan → PlanEvidence) : List RankedPlan → Bool
  | [] => false
  | a :: rest =>
    rest.any (fun b => compare (evidenceOf a).speed (evidenceOf b).speed = 0) ||
      speedOverlaps evidenceOf rest

section Order
variable (policy : MeasuredPolicy) (commercial : Bool) (evidenceOf : RankedPlan → PlanEvidence)
  (ranked : List RankedPlan)

/-- The group of every place: its run of one stratum, and the cohort of the plan standing there; none
for a rejected plan and for one without a cohort. -/
def groupKeys : List (Option (ℕ × List String)) :=
  List.zipWith
    (fun run item =>
      if item.assessment.rejected then none
      else (cohort policy (evidenceOf item)).map fun cohort => (run, cohort))
    (runs (ranked.map (stratum commercial))) ranked

/-- The group of one place. -/
def groupKey (index : ℕ) : Option (ℕ × List String) :=
  (groupKeys policy commercial evidenceOf ranked)[index]?.join

/-- The places of every group (the `members` of Python `_shadow_order`). -/
def members : List ((ℕ × List String) × List ℕ) :=
  grouped (groupKey policy commercial evidenceOf ranked) (List.range ranked.length)

/-- Last place of a plan id (the `position` of Python `_shadow_order`). -/
def position (planId : String) : ℕ :=
  ranked.length - 1 - ranked.reverse.findIdx (·.plan.planId = planId)

/-- The evidence a policy read of one plan (the `ids` of Python `_shadow_order`). -/
def usedEvidence (evidence : PlanEvidence) : List String :=
  let used :=
    match policy with
    | .quality => [evidence.quality]
    | .fastest => [evidence.speed]
    | .balanced => [evidence.quality, evidence.speed]
  used.reduceOption.flatMap (·.evidenceIds)

/-- What the pass over the groups builds: the order so far, the groups and the moves. -/
abbrev Reordering := List RankedPlan × List ShadowGroup × List ShadowMove

/-- One group of the pass (the body of the last loop of Python `_shadow_order`). -/
def reorderGroup (state : Reordering) (group : (ℕ × List String) × List ℕ) : Option Reordering :=
  let (order, groups, moves) := state
  let ((run, cohort), indexes) := group
  -- A lone measurement is not promoted for existing.
  if indexes.length < 2 then some state else
  let key := "run" ++ toString run ++ "|" ++ dumps cohort
  let items := membersAt ranked indexes
  let limitations :=
    if policy ≠ .quality && speedOverlaps evidenceOf items then
      ["Some observed speed ranges overlap: those pairs are not ordered by speed " ++
        "(Balanced lets clearly better quality decide them). Ranges are min-max of " ++
        "the stored calls, not confidence intervals; one atypical call can keep two " ++
        "plans indistinguishable."]
    else []
  match orderGroup policy items evidenceOf with
  | none => none
  | some (ordered, rules) =>
    let moved := (indexes.zip ordered).filter fun (slot, item) =>
      position ranked item.plan.planId ≠ slot
    some (writeSlots order indexes ordered,
      groups ++ [{ key := key, planIds := items.map (·.plan.planId), limitations := limitations }],
      moves ++ moved.map fun (slot, item) =>
        { planId := item.plan.planId
          repoId := item.evaluated.repoId
          baseIndex := position ranked item.plan.planId
          shadowIndex := slot
          group := key
          rule := (rules.reverse.lookup item.plan.planId).getD ""
          evidenceIds := usedEvidence policy (evidenceOf item) })

end Order

/-- The measured order of a ranked list, with its groups and moves (Python `_shadow_order`). -/
def shadowOrder (ranked : List RankedPlan) (priority : RecommendationPriority) (commercial : Bool)
    (evidenceOf : RankedPlan → PlanEvidence) : Option Reordering :=
  match policyOf priority with
  | none => some (ranked, [], [])
  | some policy =>
    ((members policy commercial evidenceOf ranked).foldlM
      (reorderGroup policy evidenceOf ranked) (ranked, [], [])).map fun (order, groups, moves) =>
        (order, groups, sortedBy (·.shadowIndex) moves)

/-- The active order for the request's priority (Python `apply_measured_policy`). -/
def applyMeasuredPolicy (wilson : ℕ → ℕ → ℚ × ℚ) (ranked : List RankedPlan)
    (requirements : UserRequirements) : Option (List RankedPlan) :=
  if policyOf requirements.priority = none then some ranked
  else
    (shadowOrder ranked requirements.priority requirements.commercial
      fun item => productionEvidence wilson item.assessment).map (·.1)

/-- The places of one group, in order. -/
def slotsOf (policy : MeasuredPolicy) (commercial : Bool) (evidenceOf : RankedPlan → PlanEvidence)
    (ranked : List RankedPlan) (key : ℕ × List String) : List ℕ :=
  (List.range ranked.length).filter (groupKey policy commercial evidenceOf ranked · = some key)

/-- What a measured order may do to the base order `ranked`. -/
structure Reordered (policy : MeasuredPolicy) (commercial : Bool)
    (evidenceOf : RankedPlan → PlanEvidence) (ranked order : List RankedPlan) : Prop where
  /-- Nothing is lost or repeated. -/
  perm : order.Perm ranked
  /-- No place changes its stratum. -/
  stratum_eq : ∀ i : ℕ, order[i]?.map (stratum commercial) = ranked[i]?.map (stratum commercial)
  /-- A rejected plan, a plan without a cohort and a plan alone in its group keep their place. -/
  fixed : ∀ (i : ℕ) item, ranked[i]? = some item →
    (item.assessment.rejected ∨ cohort policy (evidenceOf item) = none ∨
      ∀ j, groupKey policy commercial evidenceOf ranked j =
        groupKey policy commercial evidenceOf ranked i → j = i) →
    order[i]? = some item
  /-- A group is rearranged within the places of its members. -/
  group_perm : ∀ key,
    (membersAt order (slotsOf policy commercial evidenceOf ranked key)).Perm
      (membersAt ranked (slotsOf policy commercial evidenceOf ranked key))
  /-- Under Quality no plan of a group stands behind one of a smaller metric. -/
  quality_sorted : policy = .quality → ∀ key,
    (membersAt order (slotsOf policy commercial evidenceOf ranked key)).Pairwise fun a b =>
      qualityValue (evidenceOf b) ≤ qualityValue (evidenceOf a)
  /-- Under Quality the plans of one metric keep their base order. -/
  quality_stable : policy = .quality → ∀ key value,
    (membersAt order (slotsOf policy commercial evidenceOf ranked key)).filter
        (fun item => qualityValue (evidenceOf item) = value) =
      (membersAt ranked (slotsOf policy commercial evidenceOf ranked key)).filter
        (fun item => qualityValue (evidenceOf item) = value)
  /-- Without applicable evidence nothing moves. -/
  unchanged : (∀ item ∈ ranked, item.assessment.rejected ∨ cohort policy (evidenceOf item) = none) →
    order = ranked

section Specification
variable {policy : MeasuredPolicy} {commercial : Bool} {evidenceOf : RankedPlan → PlanEvidence}
  {ranked : List RankedPlan}

/-- A plan with a cohort carries every figure the policy reads. -/
lemma readable_of_cohort {evidence : PlanEvidence} {c} (eq : cohort policy evidence = some c) :
    evidence.readable policy := by
  cases policy with
  | quality =>
    cases quality : evidence.quality with
    | none =>
      rw [cohort, quality] at eq
      cases eq
    | some measured => simp [PlanEvidence.readable, quality]
  | fastest =>
    cases speed : evidence.speed with
    | none => simp [cohort, speed] at eq
    | some measured => simp [PlanEvidence.readable, speed]
  | balanced =>
    cases speed : evidence.speed with
    | none => simp [cohort, speed] at eq
    | some measured =>
      cases quality : evidence.quality with
      | none => simp [cohort, speed, quality] at eq
      | some measured' => simp [PlanEvidence.readable, speed, quality]

/-- What it takes to stand in a group. -/
lemma groupKey_eq_some {i run c} :
    groupKey policy commercial evidenceOf ranked i = some (run, c) ↔
      ∃ item, ranked[i]? = some item ∧ item.assessment.rejected = false ∧
        cohort policy (evidenceOf item) = some c ∧
        (runs (ranked.map (stratum commercial)))[i]? = some run := by
  rw [groupKey, groupKeys, List.getElem?_zipWith]
  cases at_i : ranked[i]? with
  | none => simp
  | some item =>
    have numbered : i < (runs (ranked.map (stratum commercial))).length := by
      rw [length_runs, List.length_map]
      exact (List.getElem?_eq_some_iff.mp at_i).1
    rw [List.getElem?_eq_getElem numbered]
    cases rejected : item.assessment.rejected with
    | true => simp [rejected]
    | false =>
      cases has : cohort policy (evidenceOf item) with
      | none => simp [rejected, has]
      | some c' =>
        simp only [rejected, has, Option.map_some, Option.join_some, Option.some.injEq,
          Prod.mk.injEq, Bool.false_eq_true, if_false]
        constructor
        · rintro ⟨rfl, rfl⟩
          exact ⟨item, rfl, rejected, has, rfl⟩
        · rintro ⟨item', rfl, _, has', rfl⟩
          rw [has] at has'
          cases has'
          exact ⟨rfl, rfl⟩

/-- A key's slots are the places of its plans. -/
lemma mem_slotsOf {key i} :
    i ∈ slotsOf policy commercial evidenceOf ranked key ↔
      groupKey policy commercial evidenceOf ranked i = some key := by
  rw [slotsOf, List.mem_filter, List.mem_range, decide_eq_true_eq]
  constructor
  · exact And.right
  · intro eq
    obtain ⟨run, c⟩ := key
    obtain ⟨item, at_i, _⟩ := groupKey_eq_some.mp eq
    exact ⟨(List.getElem?_eq_some_iff.mp at_i).1, eq⟩

/-- They rise and stay within the ranking. -/
lemma slotsOf_wf (key) :
    Slots ranked.length (slotsOf policy commercial evidenceOf ranked key) where
  nodup := List.nodup_range.filter _
  lt _ mem := List.mem_range.mp (List.mem_of_mem_filter mem)

/-- A member is a key's slots, when there are any. -/
lemma mem_members {key slots} :
    (key, slots) ∈ members policy commercial evidenceOf ranked ↔
      slots = slotsOf policy commercial evidenceOf ranked key ∧ slots ≠ [] :=
  mem_grouped

/-- Every member of a group carries the figures the policy reads. -/
lemma readable_of_mem {key item}
    (mem : item ∈ membersAt ranked (slotsOf policy commercial evidenceOf ranked key)) :
    (evidenceOf item).readable policy := by
  obtain ⟨i, at_slot, at_i⟩ := List.mem_filterMap.mp mem
  obtain ⟨run, c⟩ := key
  obtain ⟨item', at_i', _, has, _⟩ := groupKey_eq_some.mp (mem_slotsOf.mp at_slot)
  rw [at_i] at at_i'
  cases at_i'
  exact readable_of_cohort has

/-- The groups of two plans or more. -/
def movable (groups : List ((ℕ × List String) × List ℕ)) : List (List ℕ) :=
  (groups.filter fun group => 2 ≤ group.2.length).map Prod.snd

/-- No assertion fails in the pass, and the order it builds is the rewriting of the groups. -/
lemma foldlM_reorderGroup {groups : List ((ℕ × List String) × List ℕ)}
    (readable : ∀ group ∈ groups, ∀ item ∈ membersAt ranked group.2,
      (evidenceOf item).readable policy) (state : Reordering) :
    ∃ shown moves, groups.foldlM (reorderGroup policy evidenceOf ranked) state =
      some (rewriteGroups (arranged policy evidenceOf) ranked (movable groups) state.1,
        shown, moves) := by
  induction groups generalizing state with
  | nil => exact ⟨state.2.1, state.2.2, rfl⟩
  | cons group groups ih =>
    have later := fun group' mem => readable group' (List.mem_cons_of_mem group mem)
    obtain ⟨⟨run, c⟩, indexes⟩ := group
    obtain ⟨order, shown, moves⟩ := state
    rw [List.foldlM_cons]
    by_cases lone : indexes.length < 2
    · -- a group of one is passed by, in the model of the loop as well
      have skip : reorderGroup policy evidenceOf ranked (order, shown, moves) ((run, c), indexes) =
          some (order, shown, moves) := by
        rw [reorderGroup, if_pos lone]
      have same : movable (((run, c), indexes) :: groups) = movable groups := by
        simp [movable, lone]
      rw [skip, same]
      exact ih later (order, shown, moves)
    · obtain ⟨rules, ordered⟩ := @orderGroup_eq_some policy (membersAt ranked indexes) evidenceOf
        (readable ((run, c), indexes) List.mem_cons_self)
      have step : ∃ shown' moves',
          reorderGroup policy evidenceOf ranked (order, shown, moves) ((run, c), indexes) =
            some (writeSlots order indexes (arranged policy evidenceOf (membersAt ranked indexes)),
              shown', moves') := by
        rw [reorderGroup, if_neg lone]
        simp only [ordered]
        exact ⟨_, _, rfl⟩
      obtain ⟨shown', moves', step⟩ := step
      have two : 2 ≤ indexes.length := by omega
      have first : movable (((run, c), indexes) :: groups) = indexes :: movable groups := by
        simp [movable, two]
      rw [step, first, rewriteGroups]
      exact ih later (_, shown', moves')

/-- Movable slots are those of a key held twice. -/
lemma mem_movable {slots} :
    slots ∈ movable (members policy commercial evidenceOf ranked) ↔
      ∃ key, slots = slotsOf policy commercial evidenceOf ranked key ∧ 2 ≤ slots.length := by
  simp only [movable, List.mem_map, List.mem_filter, decide_eq_true_eq]
  constructor
  · rintro ⟨⟨key, slots'⟩, ⟨mem, two⟩, rfl⟩
    exact ⟨key, (mem_members.mp mem).1, two⟩
  · rintro ⟨key, rfl, two⟩
    refine ⟨(key, _), ⟨mem_members.mpr ⟨rfl, ?_⟩, two⟩, rfl⟩
    intro nil
    rw [nil] at two
    cases two

/-- No place belongs to two groups. -/
lemma movable_disjoint :
    (movable (members policy commercial evidenceOf ranked)).Pairwise List.Disjoint := by
  have keys := nodup_keys_grouped (groupKey policy commercial evidenceOf ranked)
    (List.range ranked.length)
  rw [List.Nodup, List.pairwise_map] at keys
  rw [movable, List.pairwise_map]
  refine (keys.imp_of_mem ?_).sublist List.filter_sublist
  intro a b memA memB ne i memI memI'
  obtain ⟨eqA, _⟩ := mem_members.mp memA
  obtain ⟨eqB, _⟩ := mem_members.mp memB
  rw [eqA, mem_slotsOf] at memI
  rw [eqB, mem_slotsOf, memI] at memI'
  exact ne (Option.some.inj memI')

/-- The measured order is the rewriting of the movable groups. -/
lemma shadowOrder_eq {priority} (isPolicy : policyOf priority = some policy) :
    ∃ shown moves, shadowOrder ranked priority commercial evidenceOf =
      some (rewriteGroups (arranged policy evidenceOf) ranked
        (movable (members policy commercial evidenceOf ranked)) ranked, shown, moves) := by
  have readable : ∀ group ∈ members policy commercial evidenceOf ranked,
      ∀ item ∈ membersAt ranked group.2, (evidenceOf item).readable policy := by
    rintro ⟨key, slots⟩ mem item memItem
    obtain ⟨rfl, _⟩ := mem_members.mp mem
    exact readable_of_mem memItem
  obtain ⟨shown, moves, run⟩ := foldlM_reorderGroup readable (ranked, [], [])
  refine ⟨shown, sortedBy (·.shadowIndex) moves, ?_⟩
  rw [shadowOrder, isPolicy]
  simp only [run, Option.map_some]

/-- Evidence that agrees on the ranked plans orders them alike. -/
lemma shadowOrder_congr {evidenceOf' : RankedPlan → PlanEvidence} {priority}
    (same : ∀ item ∈ ranked, evidenceOf' item = evidenceOf item) :
    (shadowOrder ranked priority commercial evidenceOf').map (·.1) =
      (shadowOrder ranked priority commercial evidenceOf).map (·.1) := by
  cases isPolicy : policyOf priority with
  | none => simp only [shadowOrder, isPolicy]
  | some policy =>
    have keys : groupKey policy commercial evidenceOf' ranked =
        groupKey policy commercial evidenceOf ranked := by
      funext i
      apply Option.ext
      rintro ⟨run, c⟩
      rw [groupKey_eq_some, groupKey_eq_some]
      apply exists_congr
      intro item
      apply and_congr_right
      intro at_i
      rw [same item (List.mem_of_getElem? at_i)]
    have groups : members policy commercial evidenceOf' ranked =
        members policy commercial evidenceOf ranked := by
      rw [members, members, keys]
    obtain ⟨shown, moves, eq⟩ := @shadowOrder_eq policy commercial evidenceOf ranked _ isPolicy
    obtain ⟨shown', moves', eq'⟩ := @shadowOrder_eq policy commercial evidenceOf' ranked _ isPolicy
    have rewritten := @rewriteGroups_congr _ (arranged policy evidenceOf)
      (arranged policy evidenceOf') ranked (movable (members policy commercial evidenceOf ranked))
      ranked fun slots _ => arranged_congr fun item mem => same item (membersAt_subset mem)
    rw [eq, eq', groups, Option.map_some, Option.map_some, rewritten]

/-- The measured order: every group is arranged within its places, and no other place changes. -/
lemma shadowOrder_spec {priority} (isPolicy : policyOf priority = some policy) :
    ∃ order shown moves,
      shadowOrder ranked priority commercial evidenceOf = some (order, shown, moves) ∧
      order.Perm ranked ∧
      (∀ key, membersAt order (slotsOf policy commercial evidenceOf ranked key) =
        arranged policy evidenceOf
          (membersAt ranked (slotsOf policy commercial evidenceOf ranked key))) ∧
      ∀ i, (∀ key, i ∈ slotsOf policy commercial evidenceOf ranked key →
          (slotsOf policy commercial evidenceOf ranked key).length < 2) →
        order[i]? = ranked[i]? := by
  obtain ⟨shown, moves, built⟩ := @shadowOrder_eq policy commercial evidenceOf ranked _ isPolicy
  have spec : Rewritten (arranged policy evidenceOf) ranked
      (movable (members policy commercial evidenceOf ranked))
      (rewriteGroups (arranged policy evidenceOf) ranked
        (movable (members policy commercial evidenceOf ranked)) ranked) := by
    apply rewriteGroups_spec (fun l => arranged_perm)
    · intro slots mem
      obtain ⟨key, rfl, _⟩ := mem_movable.mp mem
      exact slotsOf_wf key
    · exact movable_disjoint
  -- what is rewritten are the groups of at least two
  have others : ∀ i, (∀ key, i ∈ slotsOf policy commercial evidenceOf ranked key →
      (slotsOf policy commercial evidenceOf ranked key).length < 2) →
      (rewriteGroups (arranged policy evidenceOf) ranked
        (movable (members policy commercial evidenceOf ranked)) ranked)[i]? = ranked[i]? := by
    intro i lone
    apply spec.others
    intro slots mem memI
    obtain ⟨key, rfl, two⟩ := mem_movable.mp mem
    have one := lone key memI
    omega
  refine ⟨_, shown, moves, built, spec.perm, ?_, others⟩
  intro key
  by_cases two : 2 ≤ (slotsOf policy commercial evidenceOf ranked key).length
  · exact spec.members _ (mem_movable.mpr ⟨key, rfl, two⟩)
  · have kept : ∀ i ∈ slotsOf policy commercial evidenceOf ranked key,
        (rewriteGroups (arranged policy evidenceOf) ranked
          (movable (members policy commercial evidenceOf ranked)) ranked)[i]? = ranked[i]? := by
      intro i memI
      apply others
      intro key' memI'
      rw [mem_slotsOf] at memI memI'
      rw [memI] at memI'
      cases memI'
      omega
    rw [membersAt_congr kept]
    have short : (membersAt ranked (slotsOf policy commercial evidenceOf ranked key)).length < 2 := by
      rw [length_membersAt (slotsOf_wf key)]
      omega
    exact (eq_of_perm_of_length_lt_two arranged_perm short).symm

/-- The plans of one group stand in one stratum. -/
lemma stratum_eq_of_groupKey {i j a b key}
    (key_i : groupKey policy commercial evidenceOf ranked i = some key)
    (key_j : groupKey policy commercial evidenceOf ranked j = some key)
    (at_i : ranked[i]? = some a) (at_j : ranked[j]? = some b) :
    stratum commercial a = stratum commercial b := by
  obtain ⟨run, c⟩ := key
  obtain ⟨_, _, _, _, run_i⟩ := groupKey_eq_some.mp key_i
  obtain ⟨_, _, _, _, run_j⟩ := groupKey_eq_some.mp key_j
  apply runs_eq run_i run_j
  · rw [List.getElem?_map, at_i]
    rfl
  · rw [List.getElem?_map, at_j]
    rfl

/-- A place whose group has no other place is no movable one. -/
lemma length_slotsOf_lt_two {i key}
    (alone : ∀ j, groupKey policy commercial evidenceOf ranked j =
      groupKey policy commercial evidenceOf ranked i → j = i)
    (mem : i ∈ slotsOf policy commercial evidenceOf ranked key) :
    (slotsOf policy commercial evidenceOf ranked key).length < 2 := by
  have sub : slotsOf policy commercial evidenceOf ranked key ⊆ [i] := by
    intro j memJ
    rw [mem_slotsOf] at mem memJ
    rw [List.mem_singleton]
    exact alone j (memJ.trans mem.symm)
  have le := ((slotsOf_wf key).nodup.subperm sub).length_le
  rw [List.length_singleton] at le
  omega

/-- A measured order moves plans only within their groups. -/
lemma shadowOrder_reorders {priority} (isPolicy : policyOf priority = some policy) :
    ∃ order shown moves,
      shadowOrder ranked priority commercial evidenceOf = some (order, shown, moves) ∧
      Reordered policy commercial evidenceOf ranked order := by
  obtain ⟨order, shown, moves, built, perm, groups, others⟩ :=
    @shadowOrder_spec policy commercial evidenceOf ranked priority isPolicy
  -- a plan of no group, or alone in its own, keeps its place
  have fixed : ∀ (i : ℕ) item, ranked[i]? = some item →
      (item.assessment.rejected ∨ cohort policy (evidenceOf item) = none ∨
        ∀ j, groupKey policy commercial evidenceOf ranked j =
          groupKey policy commercial evidenceOf ranked i → j = i) →
      order[i]? = some item := by
    intro i item at_i why
    rw [others i, at_i]
    intro key mem
    obtain ⟨run, c⟩ := key
    obtain ⟨item', at_i', kept, has, _⟩ := groupKey_eq_some.mp (mem_slotsOf.mp mem)
    rw [at_i] at at_i'
    cases at_i'
    rcases why with rejected | none | alone
    · rw [rejected] at kept
      cases kept
    · rw [none] at has
      cases has
    · exact length_slotsOf_lt_two alone mem
  refine ⟨order, shown, moves, built, ⟨perm, ?_, fixed, ?_, ?_, ?_, ?_⟩⟩
  · -- each place keeps its stratum: what moves there is of the same group
    intro i
    cases key : groupKey policy commercial evidenceOf ranked i with
    | none =>
      rw [others i]
      intro key' mem
      rw [mem_slotsOf, key] at mem
      cases mem
    | some key' =>
      have mem := mem_slotsOf.mpr key
      have inside : i < order.length := by
        rw [perm.length_eq]
        exact (slotsOf_wf key').lt i mem
      have at_order := List.getElem?_eq_getElem inside
      have moved : order[i] ∈ membersAt order
          (slotsOf policy commercial evidenceOf ranked key') :=
        List.mem_filterMap.mpr ⟨i, mem, at_order⟩
      rw [groups key'] at moved
      obtain ⟨j, memJ, at_j⟩ := List.mem_filterMap.mp (arranged_perm.subset moved)
      have at_i := List.getElem?_eq_getElem ((slotsOf_wf key').lt i mem)
      rw [at_order, at_i]
      exact congrArg some (stratum_eq_of_groupKey (mem_slotsOf.mp memJ) key at_j at_i)
  · intro key
    rw [groups key]
    exact arranged_perm
  · -- within a group the quality falls
    rintro rfl key
    rw [groups key, arranged, if_pos rfl]
    apply (sortedBy_pairwise _ _).imp
    intro a b le
    exact neg_le_neg_iff.mp le
  · -- and equal values keep their order, since sorting is stable
    rintro rfl key value
    have same : ∀ item, decide (qualityValue (evidenceOf item) = value) =
        decide (-qualityValue (evidenceOf item) = -value) :=
      fun item => decide_eq_decide.mpr neg_inj.symm
    simp only [groups key, arranged, if_true, same]
    exact sortedBy_filter _ _ _
  · -- without evidence nobody is in a group
    intro noEvidence
    apply List.ext_getElem?
    intro i
    cases at_i : ranked[i]? with
    | none =>
      rw [List.getElem?_eq_none_iff] at at_i ⊢
      rw [perm.length_eq]
      exact at_i
    | some item =>
      apply fixed i item at_i
      rcases noEvidence item (List.mem_of_getElem? at_i) with rejected | none
      · exact .inl rejected
      · exact .inr (.inl none)

end Specification

/-- The measured policy is the order of the measured pass. -/
lemma applyMeasuredPolicy_eq (wilson : ℕ → ℕ → ℚ × ℚ) (ranked : List RankedPlan)
    (requirements : UserRequirements) :
    applyMeasuredPolicy wilson ranked requirements =
      (shadowOrder ranked requirements.priority requirements.commercial
        fun item => productionEvidence wilson item.assessment).map (·.1) := by
  rw [applyMeasuredPolicy]
  split
  case isTrue none =>
    rw [shadowOrder, none]
    rfl
  case isFalse => rfl

/-- Under every priority the measured policy returns the ranked list rearranged within its groups;
Memory returns it unchanged. -/
theorem applyMeasuredPolicy_reorders (wilson : ℕ → ℕ → ℚ × ℚ) (ranked : List RankedPlan)
    (requirements : UserRequirements) :
    ∃ order, applyMeasuredPolicy wilson ranked requirements = some order ∧
      (policyOf requirements.priority = none → order = ranked) ∧
      ∀ policy, policyOf requirements.priority = some policy →
        Reordered policy requirements.commercial
          (fun item => productionEvidence wilson item.assessment) ranked order := by
  cases isPolicy : policyOf requirements.priority with
  | none =>
    refine ⟨ranked, ?_, fun _ => rfl, ?_⟩
    · rw [applyMeasuredPolicy, if_pos isPolicy]
    · intro policy isSome
      cases isSome
  | some policy =>
    obtain ⟨order, shown, moves, built, reordered⟩ :=
      @shadowOrder_reorders policy requirements.commercial
        (fun item => productionEvidence wilson item.assessment) ranked _ isPolicy
    refine ⟨order, ?_, ?_, ?_⟩
    · rw [applyMeasuredPolicy, isPolicy, if_neg (by simp), built]
      rfl
    · intro isNone
      cases isNone
    · intro policy' same
      cases same
      exact reordered

end Jaull.Recommendation
