import Mathlib.Tactic.Linarith
import Mathlib.Tactic.NormNum
import Jaull.Domain.Recommendation
import Jaull.Lib.BackFill
import Jaull.Lib.StableSort
import Jaull.Text.Numbers

/-!
# Ordering a group by measured evidence

Port of `_bounds`, `_compare`, `_precedes`, `_demonstrable_order` and `_order_group` of
`jaull/recommendation/shadow.py`. `_demonstrable_order` is the back-filling of
`Jaull/Lib/BackFill.lean` at the relation `precedes`, so the order of a group honours every
demonstrable pair exactly when that relation has no cycle in the group: never under Fastest, but
under Balanced four plans can form one (`crossed_order_breaks_pair`).

An assertion of the source that fails is `none`.
-/

namespace Jaull.Recommendation
open Jaull.Domain Jaull.Lib Jaull.Text Relation

/-- One applicable figure (Python `Measured`). Equal `cohort` means directly comparable. -/
structure Measured where
  cohort : String
  value : ℚ
  label : String
  evidenceIds : List String := []
  minimum : Option ℚ := none
  maximum : Option ℚ := none
  comparisonReady : Bool := true
  deriving DecidableEq, Repr

/-- The figures that may order one plan (Python `PlanEvidence`). -/
structure PlanEvidence where
  quality : Option Measured := none
  speed : Option Measured := none
  fallbackReasons : List String := []
  deriving DecidableEq, Repr

/-- The policies that read measured evidence: the values of Python `_policy`. -/
inductive MeasuredPolicy
  | quality | fastest | balanced
  deriving DecidableEq, Repr

/-- Python `_policy`. -/
def policyOf : RecommendationPriority → Option MeasuredPolicy
  | .quality => some .quality
  | .speed => some .fastest
  | .balanced => some .balanced
  | .memory => none

/-- Python `_bounds` of a present figure. -/
def bounds (measured : Measured) : ℚ × ℚ :=
  (measured.minimum.getD measured.value, measured.maximum.getD measured.value)

/-- 1 or -1 only when the two intervals are disjoint (Python `_compare`). The figures of a group are
present, see `readable`. -/
def compare : Option Measured → Option Measured → ℤ
  | some a, some b =>
    if (bounds a).1 > (bounds b).2 then 1 else if (bounds a).2 < (bounds b).1 then -1 else 0
  | _, _ => 0

/-- Whether `a` demonstrably belongs before `b`, judged on this pair alone (Python `_precedes`). -/
def precedes (policy : MeasuredPolicy) (a b : PlanEvidence) : Bool :=
  let speed := compare a.speed b.speed
  if policy = .fastest then speed > 0 else
  let quality := compare a.quality b.quality
  speed ≥ 0 && quality ≥ 0 && (speed > 0 || quality > 0)

/-- Closest order to the base that honours every demonstrable pair (Python
`_demonstrable_order`). -/
def demonstrableOrder (items : List RankedPlan) (precedes : RankedPlan → RankedPlan → Bool) :
    List RankedPlan :=
  backFill precedes items

/-- The figures the policy reads are there, so that `_bounds` and the loop over the rules pass their
assertions. -/
def PlanEvidence.readable (evidence : PlanEvidence) : MeasuredPolicy → Bool
  | .quality => evidence.quality.isSome
  | .fastest => evidence.speed.isSome
  | .balanced => evidence.quality.isSome && evidence.speed.isSome

/-- The reason shown for a plan of an ordered group (the dictionary values of Python
`_order_group`). -/
def rule (policy : MeasuredPolicy) (evidence : PlanEvidence) : String :=
  match policy, evidence.quality, evidence.speed with
  | .quality, some quality, _ => quality.label ++ " " ++ formatGeneral quality.value
  | .fastest, _, some speed => spoken speed ++ closing
  | .balanced, some quality, some speed =>
    spoken speed ++ "; " ++ quality.label ++ " " ++ formatGeneral quality.value ++
      " (95% interval " ++ formatFixed 3 (bounds quality).1 ++ "-" ++
      formatFixed 3 (bounds quality).2 ++ ")" ++ closing
  | _, _, _ => ""
where
  spoken (speed : Measured) : String :=
    "tg128 median " ++ formatGeneral speed.value ++ ", observed range " ++
      formatGeneral (bounds speed).1 ++ "-" ++ formatGeneral (bounds speed).2
  closing : String := "; ordered only by pairwise distinguishable differences"

/-- The metric Quality sorts by (Python `figure(item).value`). -/
def qualityValue (evidence : PlanEvidence) : ℚ :=
  (evidence.quality.map (·.value)).getD 0

/-- The members of a group in the order of the policy (the `ordered` of Python `_order_group`). Items
arrive in base order; the stable sort keeps it for ties. -/
def arranged (policy : MeasuredPolicy) (evidenceOf : RankedPlan → PlanEvidence)
    (items : List RankedPlan) : List RankedPlan :=
  if policy = .quality then sortedBy (fun item => -qualityValue (evidenceOf item)) items
  else demonstrableOrder items fun a b => precedes policy (evidenceOf a) (evidenceOf b)

/-- The ordered members of a group, with the reason of each by plan id (Python `_order_group`). -/
def orderGroup (policy : MeasuredPolicy) (items : List RankedPlan)
    (evidenceOf : RankedPlan → PlanEvidence) :
    Option (List RankedPlan × List (String × String)) :=
  if items.all fun item => (evidenceOf item).readable policy then
    some (arranged policy evidenceOf items,
      items.map fun item => (item.plan.planId, rule policy (evidenceOf item)))
  else none

/-- A figure whose range is an interval around its value. -/
def Measured.Ranged (measured : Measured) : Prop :=
  (bounds measured).1 ≤ measured.value ∧ measured.value ≤ (bounds measured).2

/-- Speed is measured by an interval around its value, and quality too where the policy reads it. -/
structure PlanEvidence.Ranged (policy : MeasuredPolicy) (evidence : PlanEvidence) : Prop where
  quality : policy = .balanced → ∃ measured, evidence.quality = some measured ∧ measured.Ranged
  speed : ∃ measured, evidence.speed = some measured ∧ measured.Ranged

variable {policy : MeasuredPolicy} {items : List RankedPlan}
  {evidenceOf : RankedPlan → PlanEvidence}

/-- Under Fastest and Balanced such evidence passes the assertions. -/
lemma PlanEvidence.Ranged.readable {evidence : PlanEvidence} (measures : policy ≠ .quality)
    (ranged : evidence.Ranged policy) : evidence.readable policy := by
  obtain ⟨speed, eqS, _⟩ := ranged.speed
  cases policy with
  | quality => exact absurd rfl measures
  | fastest => simp [PlanEvidence.readable, eqS]
  | balanced =>
    obtain ⟨quality, eqQ, _⟩ := ranged.quality rfl
    simp [PlanEvidence.readable, eqQ, eqS]

/-- A group whose figures are there is ordered: no assertion fails. -/
lemma orderGroup_eq_some (readable : ∀ item ∈ items, (evidenceOf item).readable policy) :
    ∃ rules, orderGroup policy items evidenceOf =
      some (arranged policy evidenceOf items, rules) := by
  rw [orderGroup, if_pos (List.all_eq_true.mpr readable)]
  exact ⟨_, rfl⟩

/-- Ordering a group rearranges it. -/
lemma arranged_perm : (arranged policy evidenceOf items).Perm items := by
  rw [arranged]
  split
  · exact sortedBy_perm _ items
  · exact backFill_perm items

/-- Evidence that agrees on the members arranges them alike. -/
lemma arranged_congr {evidenceOf' : RankedPlan → PlanEvidence}
    (same : ∀ item ∈ items, evidenceOf' item = evidenceOf item) :
    arranged policy evidenceOf' items = arranged policy evidenceOf items := by
  rw [arranged, arranged]
  split
  case isTrue =>
    apply sortedBy_congr
    intro a memA b memB
    rw [same a memA, same b memB]
  case isFalse =>
    apply backFill_congr
    intro a memA b memB
    rw [same a memA, same b memB]

/-- Under Fastest every pair is decided by one axis, so no chain of plans closes. -/
lemma fastest_acyclic (ranged : ∀ item ∈ items, (evidenceOf item).Ranged .fastest) :
    Acyclic (fun a b => precedes .fastest (evidenceOf a) (evidenceOf b)) items := by
  apply Acyclic.of_lt fun item => OrderDual.toDual (((evidenceOf item).speed.map bounds).getD 0).1
  intro a memA b memB pre
  obtain ⟨speedA, eqA, rangedA⟩ := (ranged a memA).speed
  obtain ⟨speedB, eqB, rangedB⟩ := (ranged b memB).speed
  have faster : (bounds speedA).1 > (bounds speedB).2 := by
    by_contra not
    simp only [precedes, eqA, eqB, compare, if_neg not, if_true] at pre
    split at pre <;> simp at pre
  have wide : (bounds speedB).1 ≤ (bounds speedB).2 := rangedB.1.trans rangedB.2
  simp only [OrderDual.toDual_lt_toDual, eqA, eqB, Option.map_some, Option.getD_some]
  exact wide.trans_lt faster

/-- Under Fastest and Balanced the order of a group honours every demonstrable pair exactly when no
chain of its plans, each demonstrably before the next, returns to its start. Fastest never has one. -/
theorem orderGroup_honours_iff (measures : policy ≠ .quality)
    (ranged : ∀ item ∈ items, (evidenceOf item).Ranged policy) :
    (∃ ordered rules, orderGroup policy items evidenceOf = some (ordered, rules) ∧
      Honours (fun a b => precedes policy (evidenceOf a) (evidenceOf b)) ordered) ↔
    (policy = .balanced →
      Acyclic (fun a b => precedes .balanced (evidenceOf a) (evidenceOf b)) items) := by
  have readable : ∀ item ∈ items, (evidenceOf item).readable policy :=
    fun item mem => (ranged item mem).readable measures
  obtain ⟨rules, eq⟩ := orderGroup_eq_some readable
  rw [arranged, if_neg measures] at eq
  constructor
  · rintro ⟨ordered, rules', run, honours⟩ isBalanced
    rw [eq] at run
    cases run
    subst isBalanced
    exact backFill_honours_iff.mp honours
  · intro acyclic
    refine ⟨_, rules, eq, backFill_honours_iff.mpr ?_⟩
    cases policy with
    | quality => exact absurd rfl measures
    | fastest => exact fastest_acyclic ranged
    | balanced => exact acyclic rfl

/-- A plan known by its name alone. -/
def namedPlan (name : String) : RankedPlan :=
  let identity : ModelIdentity := { modelName := name }
  { evaluated := { candidate := { repoId := name } }
    plan :=
      { planId := name
        modelIdentity := identity
        artifact := { modelIdentity := identity, repoId := name, format := .gguf }
        runtime := { runtime := .llamaCpp, confidence := .high }
        identity_matches := rfl }
    assessment := { planId := name } }

/-- A figure by its range, halfway as its value. -/
def rangedFigure (cohort : String) (low high : ℚ) : Measured :=
  { cohort := cohort, value := (low + high) / 2, label := cohort, minimum := low, maximum := high }

/-- Four plans whose ranges cross: `fast` and `wideQuality` and `good` fall in speed, `good` and
`wideSpeed` and `fast` fall in quality, and the wide ranges hide every other difference. -/
def crossedEvidence (item : RankedPlan) : PlanEvidence :=
  let measured (speedLow speedHigh qualityLow qualityHigh : ℚ) : PlanEvidence :=
    { quality := some (rangedFigure "ifeval" qualityLow qualityHigh)
      speed := some (rangedFigure "tg128" speedLow speedHigh) }
  match item.plan.planId with
  | "fast" => measured 99 101 (5 / 100) (15 / 100)
  | "wideQuality" => measured 49 51 (10 / 100) (95 / 100)
  | "good" => measured 9 11 (85 / 100) (97 / 100)
  | _ => measured 5 120 (45 / 100) (55 / 100)

/-- The group of the four, in base order. -/
def crossedGroup : List RankedPlan :=
  ["fast", "wideQuality", "good", "wideSpeed"].map namedPlan

/-- Halfway lies within the range. -/
lemma rangedFigure_ranged {cohort low high} (le : low ≤ high) :
    (rangedFigure cohort low high).Ranged := by
  constructor
  · change low ≤ (low + high) / 2
    linarith
  · change (low + high) / 2 ≤ high
    linarith

/-- All four are measured in quality and in speed. -/
lemma crossedEvidence_ranged (item : RankedPlan) : (crossedEvidence item).Ranged policy := by
  unfold crossedEvidence
  split
  all_goals
    exact ⟨fun _ => ⟨_, rfl, rangedFigure_ranged (by norm_num)⟩,
      ⟨_, rfl, rangedFigure_ranged (by norm_num)⟩⟩

/-- Balanced cannot honour the four pairs `fast`, `wideQuality`, `good`, `wideSpeed`, `fast`: each
plan demonstrably belongs before the next. -/
theorem crossed_order_breaks_pair :
    (∀ item ∈ crossedGroup, (crossedEvidence item).Ranged .balanced) ∧
      ¬ ∃ ordered rules,
        orderGroup .balanced crossedGroup crossedEvidence = some (ordered, rules) ∧
          Honours (fun a b => precedes .balanced (crossedEvidence a) (crossedEvidence b)) ordered := by
  refine ⟨fun item _ => crossedEvidence_ranged item, ?_⟩
  rintro ⟨ordered, rules, run, honours⟩
  obtain ⟨rules', eq⟩ := @orderGroup_eq_some .balanced crossedGroup crossedEvidence
    fun item _ => (crossedEvidence_ranged item).readable (by decide)
  rw [eq] at run
  cases run
  have acyclic := honours.acyclic.subset arranged_perm.symm.subset
  have edge : ∀ a ∈ crossedGroup, ∀ b ∈ crossedGroup,
      precedes .balanced (crossedEvidence a) (crossedEvidence b) →
        Edge (fun a b => precedes .balanced (crossedEvidence a) (crossedEvidence b))
          crossedGroup a b :=
    fun a memA b memB pre => ⟨memA, memB, pre⟩
  have first := edge (namedPlan "fast") (by simp [crossedGroup])
    (namedPlan "wideQuality") (by simp [crossedGroup]) (by decide +kernel)
  have second := edge (namedPlan "wideQuality") (by simp [crossedGroup])
    (namedPlan "good") (by simp [crossedGroup]) (by decide +kernel)
  have third := edge (namedPlan "good") (by simp [crossedGroup])
    (namedPlan "wideSpeed") (by simp [crossedGroup]) (by decide +kernel)
  have back := edge (namedPlan "wideSpeed") (by simp [crossedGroup])
    (namedPlan "fast") (by simp [crossedGroup]) (by decide +kernel)
  exact acyclic _ (((TransGen.single first).tail second).tail third |>.tail back)

/-- Fastest honours every pair of the same four plans. -/
theorem orderGroup_honours_crossed :
    ∃ ordered rules, orderGroup .fastest crossedGroup crossedEvidence = some (ordered, rules) ∧
      Honours (fun a b => precedes .fastest (crossedEvidence a) (crossedEvidence b)) ordered :=
  (orderGroup_honours_iff (by decide) fun item _ => crossedEvidence_ranged item).mpr nofun

/-- The order of an acyclic relation rearranges the plans and honours every pair. Among different plans
it also leaves alone a base that honours every pair, hence its own result, and moves no plan without
cause. -/
theorem demonstrableOrder_closest {precedes : RankedPlan → RankedPlan → Bool}
    (acyclic : Acyclic precedes items) :
    (demonstrableOrder items precedes).Perm items ∧
      Honours precedes (demonstrableOrder items precedes) ∧
      (items.Nodup →
        (Honours precedes items → demonstrableOrder items precedes = items) ∧
        demonstrableOrder (demonstrableOrder items precedes) precedes =
          demonstrableOrder items precedes ∧
        MovesWithCause precedes items (demonstrableOrder items precedes)) := by
  have perm : (demonstrableOrder items precedes).Perm items := backFill_perm items
  have honours : Honours precedes (demonstrableOrder items precedes) :=
    backFill_honours_iff.mpr acyclic
  refine ⟨perm, honours, ?_⟩
  intro nodup
  have nodup' : (demonstrableOrder items precedes).Nodup := perm.nodup_iff.mpr nodup
  exact ⟨backFill_of_honours nodup, backFill_of_honours nodup' honours,
    backFill_movesWithCause acyclic nodup⟩

/-- Faster among the four plans, demonstrably. -/
def crossedFaster (a b : RankedPlan) : Bool :=
  precedes .fastest (crossedEvidence a) (crossedEvidence b)

lemma crossedGroup_nodup : crossedGroup.Nodup := by
  have ids : (crossedGroup.map (·.plan.planId)).Nodup := by decide
  exact ids.of_map

/-- `demonstrableOrder_closest` on the four plans, ordered by speed alone. -/
theorem demonstrableOrder_closest_crossed :
    Honours crossedFaster (demonstrableOrder crossedGroup crossedFaster) ∧
      MovesWithCause crossedFaster crossedGroup (demonstrableOrder crossedGroup crossedFaster) := by
  have acyclic : Acyclic crossedFaster crossedGroup :=
    fastest_acyclic fun item _ => crossedEvidence_ranged item
  have closest := demonstrableOrder_closest acyclic
  exact ⟨closest.2.1, (closest.2.2 crossedGroup_nodup).2.2⟩

/-- A plan listed twice moves although nothing precedes anything: the earlier copy is removed when the
later one is picked. -/
theorem demonstrableOrder_moves_copy :
    ¬ ∀ (items : List RankedPlan) (precedes : RankedPlan → RankedPlan → Bool),
      Acyclic precedes items → Honours precedes items →
        demonstrableOrder items precedes = items := by
  intro unchanged
  let unrelated (_ _ : RankedPlan) : Bool := false
  let plans := [namedPlan "a", namedPlan "b", namedPlan "a"]
  have acyclic : Acyclic unrelated plans :=
    Acyclic.of_lt (fun _ => 0) fun _ _ _ _ pre => absurd pre Bool.false_ne_true
  have honours : Honours unrelated plans :=
    fun _ _ _ _ _ _ pre => absurd pre Bool.false_ne_true
  have moved : (demonstrableOrder plans unrelated).head?.map (·.plan.planId) = some "b" := by
    decide +kernel
  rw [unchanged plans unrelated acyclic honours] at moved
  exact absurd moved (by decide)

end Jaull.Recommendation
