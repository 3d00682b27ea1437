import Jaull.Lib.Anchored
import Jaull.Recommendation.Criteria
import Jaull.Recommendation.Recommend

/-!
# The selection preference keeps the base order's boundaries

`weakPlansLast` is the anchoring of `Jaull/Lib/Anchored.lean`: capable plans are fixed, and the group of a
plan is its viability. So the places of the result are known (`SelectionOrder`), and the boundaries of
the base order between confirmed and unconfirmed and between kept and rejected plans survive.
-/

namespace Jaull.Recommendation
open Jaull.Domain Jaull.Lib

/-- The slots of the source are those of the anchoring. -/
lemma weakSlots_eq (classes : List (Bool ×ₗ Bool ×ₗ ℤ)) (seen : ℕ) (plans : List RankedPlan) :
    weakSlots classes seen plans = slotsFrom isCapable viabilityGroup classes seen plans := by
  induction plans generalizing seen with
  | nil => rfl
  | cons plan rest ih =>
    rw [weakSlots, slotsFrom, ih, ih]
    rfl

/-- The selection anchors the capable plans. -/
lemma weakPlansLast_eq_anchored {priority : RecommendationPriority}
    (capabilityFirst : capabilityFirst priority) (plans : List RankedPlan) :
    weakPlansLast plans priority = anchored isCapable viabilityGroup plans := by
  rw [weakPlansLast, if_neg (by simp [capabilityFirst]), anchored]
  simp only [weakSlots_eq]
  rfl

/-- How the places of a list of plans stand in its selection order. -/
structure SelectionOrder (plans : List RankedPlan) (order : List (Fin plans.length)) : Prop where
  perm : order.Perm (List.finRange plans.length)
  /-- capable plans keep their relative order -/
  capable : ∀ i j, isCapable (plans.get i) → isCapable (plans.get j) → i < j →
    order.idxOf i < order.idxOf j
  /-- a capable plan at least as viable as another plan precedes it -/
  viable : ∀ i j, isCapable (plans.get i) → isCapable (plans.get j) = false →
    viabilityGroup (plans.get i) ≤ viabilityGroup (plans.get j) → order.idxOf i < order.idxOf j
  /-- no other plan passes ahead of a capable plan that preceded it -/
  behind : ∀ i j, isCapable (plans.get i) → isCapable (plans.get j) = false → i < j →
    order.idxOf i < order.idxOf j
  /-- a capable plan precedes another plan only up to the last one that did or is at least as viable -/
  noFurther : ∀ i j, isCapable (plans.get i) → isCapable (plans.get j) = false →
    order.idxOf i < order.idxOf j → ∃ k, isCapable (plans.get k) ∧ i ≤ k ∧
      (k < j ∨ viabilityGroup (plans.get k) ≤ viabilityGroup (plans.get j))
  /-- other plans between the same capable plans keep their relative order -/
  together : ∀ i j, isCapable (plans.get i) = false → isCapable (plans.get j) = false → i < j →
    (∀ k, isCapable (plans.get k) → (order.idxOf k < order.idxOf i ↔ order.idxOf k < order.idxOf j)) →
    order.idxOf i < order.idxOf j

/-- The anchored places are the order the selection states. -/
lemma selectionOrder_anchoredPlaces (plans : List RankedPlan) :
    SelectionOrder plans (anchoredPlaces isCapable viabilityGroup plans) := by
  have ascending := List.pairwise_lt_finRange plans.length
  refine ⟨anchoredPlaces_perm isCapable viabilityGroup plans, ?_, ?_, ?_, ?_, ?_⟩
  · intro i j capableI capableJ lt
    rw [idxOf_anchoredPlaces]
    exact (before_fixed ascending (List.mem_finRange i) (List.mem_finRange j) capableI capableJ).mpr lt
  · intro i j capableI weakJ le
    rw [idxOf_anchoredPlaces, before_of_fixed ascending (List.mem_finRange i) capableI weakJ]
    exact ⟨i, List.mem_finRange i, capableI, le_rfl, .inr le⟩
  · intro i j capableI weakJ lt
    rw [idxOf_anchoredPlaces, before_of_fixed ascending (List.mem_finRange i) capableI weakJ]
    exact ⟨i, List.mem_finRange i, capableI, le_rfl, .inl lt⟩
  · intro i j capableI weakJ before
    rw [idxOf_anchoredPlaces, before_of_fixed ascending (List.mem_finRange i) capableI weakJ] at before
    obtain ⟨k, _, capableK, le, reaches⟩ := before
    exact ⟨k, capableK, le, reaches⟩
  · intro i j weakI weakJ lt same
    simp only [idxOf_anchoredPlaces] at same ⊢
    exact before_of_together ascending weakI weakJ lt fun k _ => same k

section Boundaries
variable {requirements : UserRequirements} {limit : Option ℤ} {ranked : List RankedPlan}

/-- A cut keeps the order. -/
lemma takeUpTo_sublist (stop : ℤ) (items : List RankedPlan) :
    (takeUpTo stop items).Sublist items := by
  rw [takeUpTo]
  split
  · exact List.take_sublist _ items
  · exact List.take_sublist _ items

/-- The ranking with a limit is part of that without. -/
lemma rankPlans_sublist :
    (rankPlans requirements limit ranked).Sublist (rankPlans requirements none ranked) := by
  cases limit with
  | none => exact List.Sublist.refl _
  | some stop => exact takeUpTo_sublist stop _

/-- A plan that ranks no later than a kept one is kept. -/
lemma not_rejected_of_rankingKey_le {a b : RankedPlan} {priority : RecommendationPriority}
    {commercial : Bool} (le : rankingKey a priority commercial ≤ rankingKey b priority commercial)
    (kept : b.assessment.rejected = false) : a.assessment.rejected = false := by
  rw [rankingKey, rankingKey, rankingTieKey, rankingTieKey] at le
  simp only [List.cons_append, toLex_cons_le_iff, kept] at le
  cases rejected : a.assessment.rejected with
  | false => rfl
  | true =>
    rw [rejected] at le
    simp at le

/-- In the base order confirmed fits stand before all others. -/
lemma rankPlans_confirmed_first :
    (rankPlans requirements limit ranked).Pairwise fun a b => confirmedFit b → confirmedFit a := by
  apply List.Pairwise.sublist rankPlans_sublist
  rw [rankPlans_eq_sortedBy]
  apply (sortedBy_pairwise _ ranked).imp
  intro a b le confirmed
  have leading := Bool.le_iff_imp.mp (Prod.Lex.toLex_le_toLex'.mp le).1
  simpa [confirmed] using leading

/-- In the base order kept plans stand before rejected ones. -/
lemma rankPlans_kept_first :
    (rankPlans requirements limit ranked).Pairwise fun a b =>
      b.assessment.rejected = false → a.assessment.rejected = false := by
  apply List.Pairwise.sublist rankPlans_sublist
  rw [rankPlans_eq_sortedBy]
  apply (sortedBy_pairwise _ ranked).imp
  intro a b le kept
  rcases Prod.Lex.toLex_le_toLex.mp le with lt | ⟨_, key⟩
  · have confirmed : confirmedFit a := by
      have apart := Bool.lt_iff.mp lt
      simpa using apart.1
    rw [confirmedFit, Bool.and_eq_true, Bool.not_eq_true'] at confirmed
    exact confirmed.1
  · exact not_rejected_of_rankingKey_le key kept

/-- A plan at least as viable as a kept one is kept. -/
lemma not_rejected_of_viabilityGroup_le {a b : RankedPlan}
    (le : viabilityGroup a ≤ viabilityGroup b) (kept : b.assessment.rejected = false) :
    a.assessment.rejected = false := by
  rw [viabilityGroup, viabilityGroup, Prod.Lex.toLex_le_toLex'] at le
  have leading := Bool.le_iff_imp.mp le.1
  simpa [kept] using leading

/-- A plan at least as viable as a confirmed fit is one. -/
lemma confirmedFit_of_viabilityGroup_le {a b : RankedPlan}
    (le : viabilityGroup a ≤ viabilityGroup b) (confirmed : confirmedFit b) : confirmedFit a := by
  rw [confirmedFit, Bool.and_eq_true, Bool.not_eq_true'] at confirmed
  have kept := not_rejected_of_viabilityGroup_le le confirmed.1
  rw [viabilityGroup, viabilityGroup, Prod.Lex.toLex_le_toLex'] at le
  have inner := (Prod.Lex.toLex_le_toLex'.mp (le.2 (kept.trans confirmed.1.symm))).1
  have placed := Bool.le_iff_imp.mp inner
  rw [confirmedFit, kept]
  simpa [confirmed.2] using placed

/-- The selection preference keeps in front what stands in front and no less viable plan has. -/
lemma weakPlansLast_keeps_front {p : RankedPlan → Prop} {priority : RecommendationPriority}
    (front : ranked.Pairwise fun a b => p b → p a)
    (respects : ∀ a b, viabilityGroup a ≤ viabilityGroup b → p b → p a) :
    (weakPlansLast ranked priority).Pairwise fun a b => p b → p a := by
  by_cases moves : capabilityFirst priority
  · rw [weakPlansLast_eq_anchored moves]
    exact anchored_keeps_front front fun a _ b _ => respects a b
  · rw [weakPlansLast, if_pos (by simpa using moves)]
    exact front

end Boundaries

/-- Under Balanced and Quality the selection order is the anchoring of the weak plans, and on every list
the ranking returns it leaves confirmed fits before all others and kept plans before rejected ones. -/
theorem weakPlansLast_selects {priority : RecommendationPriority}
    (applies : priority = .balanced ∨ priority = .quality) :
    (∀ plans : List RankedPlan, ∃ order : List (Fin plans.length), SelectionOrder plans order ∧
      weakPlansLast plans priority = order.map plans.get) ∧
    ∀ collaborators context estimateFn requirements limit candidates ranked,
      rankExecutionPlans collaborators context estimateFn requirements limit candidates =
        .ok ranked →
      (weakPlansLast ranked priority).Pairwise (fun a b => confirmedFit b → confirmedFit a) ∧
      (weakPlansLast ranked priority).Pairwise fun a b =>
        b.assessment.rejected = false → a.assessment.rejected = false := by
  have moves : capabilityFirst priority := by
    rcases applies with rfl | rfl
    · rfl
    · rfl
  refine ⟨?_, ?_⟩
  · intro plans
    refine ⟨_, selectionOrder_anchoredPlaces plans, ?_⟩
    rw [weakPlansLast_eq_anchored moves]
    exact anchored_eq_map_get isCapable viabilityGroup plans
  · intro collaborators context estimateFn requirements limit candidates ranked run
    obtain ⟨assessed, _, rfl⟩ := exists_of_map_eq_ok run
    exact ⟨weakPlansLast_keeps_front rankPlans_confirmed_first fun _ _ =>
        confirmedFit_of_viabilityGroup_le,
      weakPlansLast_keeps_front rankPlans_kept_first fun _ _ => not_rejected_of_viabilityGroup_le⟩

/-- `weakPlansLast_selects` on the ranking of the two repositories under Balanced. -/
theorem weakPlansLast_selects_named :
    (∃ order : List (Fin (namedPool {} .balanced).length),
      SelectionOrder (namedPool {} .balanced) order ∧
        weakPlansLast (namedPool {} .balanced) .balanced =
          order.map (namedPool {} .balanced).get) ∧
      (weakPlansLast (namedPool {} .balanced) .balanced).Pairwise fun a b =>
        confirmedFit b → confirmedFit a := by
  obtain ⟨selects, boundaries⟩ := weakPlansLast_selects (.inl rfl)
  refine ⟨selects _, ?_⟩
  exact (boundaries namingCollaborators {} (some unknownEstimate) (chatRequest .balanced) none
    namedRepositories (namedPool {} .balanced) rfl).1

end Jaull.Recommendation
