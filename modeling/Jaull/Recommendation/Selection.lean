import Jaull.Recommendation.Shadow

/-!
# Selection preference and active order

Port of `jaull/recommendation/selection.py` and of `apply_active_policy` of
`jaull/recommendation/shadow.py`.
-/

namespace Jaull.Recommendation
open Jaull.Domain

/-- Smaller is more viable: not rejected, memory fit confirmed, then runnability (Python
`_viability_group`). -/
def viabilityGroup (item : RankedPlan) : Bool ×ₗ Bool ×ₗ ℤ :=
  toLex (item.assessment.rejected,
    toLex (!confirmedPlacement item, runnabilityRank item.assessment))

/-- Capability is known to be adequate (Python `capability in capable_levels`). -/
def isCapable (item : RankedPlan) : Bool :=
  item.assessment.capability = .strong || item.assessment.capability = .adequate

/-- One more than the last place of a class at least as viable as `own`, or 0 (the `anchor` of Python
`weak_plans_last`). -/
def anchor (classes : List (Bool ×ₗ Bool ×ₗ ℤ)) (own : Bool ×ₗ Bool ×ₗ ℤ) : ℕ :=
  classes.length - classes.reverse.findIdx (· ≤ own)

/-- The slot of every plan that is not capable (the loop of Python `weak_plans_last`). -/
def weakSlots (classes : List (Bool ×ₗ Bool ×ₗ ℤ)) : ℕ → List RankedPlan → List (ℕ × RankedPlan)
  | _, [] => []
  | seenCapable, plan :: rest =>
    if isCapable plan then weakSlots classes (seenCapable + 1) rest
    else
      (max seenCapable (anchor classes (viabilityGroup plan)), plan) ::
        weakSlots classes seenCapable rest

/-- The plans put into one slot, in order. -/
def slotOf (slots : List (ℕ × RankedPlan)) (slot : ℕ) : List RankedPlan :=
  (slots.filter (·.1 = slot)).map (·.2)

/-- Balanced and Quality: a plan without known capability goes behind every capable plan that is at
least as viable as it, and nowhere else (Python `weak_plans_last`). -/
def weakPlansLast (plans : List RankedPlan) (priority : RecommendationPriority) : List RankedPlan :=
  if !capabilityFirst priority then plans else
  let capable := plans.filter isCapable
  let slots := weakSlots (capable.map viabilityGroup) 0 plans
  slotOf slots 0 ++ capable.zipIdx.flatMap fun (plan, index) => plan :: slotOf slots (index + 1)

/-- A plan that holds a weak slot is one of the plans. -/
lemma mem_of_mem_weakSlots {classes seen plans slot plan}
    (mem : (slot, plan) ∈ weakSlots classes seen plans) : plan ∈ plans := by
  induction plans generalizing seen with
  | nil => cases mem
  | cons first rest ih =>
    rw [weakSlots] at mem
    split at mem
    case isTrue => exact List.mem_cons_of_mem first (ih mem)
    case isFalse =>
      rcases List.mem_cons.mp mem with eq | mem
      · cases eq
        exact List.mem_cons_self
      · exact List.mem_cons_of_mem first (ih mem)

/-- No plan is made up. -/
lemma weakPlansLast_subset (plans : List RankedPlan) (priority : RecommendationPriority) :
    weakPlansLast plans priority ⊆ plans := by
  have slotted : ∀ slots ⊆ weakSlots ((plans.filter isCapable).map viabilityGroup) 0 plans,
      ∀ plan ∈ slots.map (·.2), plan ∈ plans := by
    intro slots sub plan mem
    obtain ⟨⟨slot, plan'⟩, memS, rfl⟩ := List.mem_map.mp mem
    exact mem_of_mem_weakSlots (sub memS)
  intro plan mem
  rw [weakPlansLast] at mem
  split at mem
  case isTrue => exact mem
  case isFalse =>
    rcases List.mem_append.mp mem with first | behind
    · exact slotted _ (List.filter_subset_self _) plan first
    · obtain ⟨⟨capable, index⟩, memC, here⟩ := List.mem_flatMap.mp behind
      rcases List.mem_cons.mp here with rfl | weak
      · exact List.mem_of_mem_filter (List.fst_mem_of_mem_zipIdx memC)
      · exact slotted _ (List.filter_subset_self _) plan weak

/-- Selection preference, then comparable measured evidence (Python `apply_active_policy`). -/
def applyActivePolicy (wilson : ℕ → ℕ → ℚ × ℚ) (ranked : List RankedPlan)
    (requirements : UserRequirements) : Option (List RankedPlan) :=
  applyMeasuredPolicy wilson (weakPlansLast ranked requirements.priority) requirements

/-- The active order always exists: no assertion of the measured policy fails. -/
lemma applyActivePolicy_total (wilson : ℕ → ℕ → ℚ × ℚ) (ranked : List RankedPlan)
    (requirements : UserRequirements) :
    ∃ active, applyActivePolicy wilson ranked requirements = some active := by
  rw [applyActivePolicy, applyMeasuredPolicy]
  cases isPolicy : policyOf requirements.priority with
  | none => exact ⟨_, if_pos rfl⟩
  | some policy =>
    obtain ⟨order, shown, moves, built, _⟩ :=
      @shadowOrder_reorders policy requirements.commercial
        (fun item => productionEvidence wilson item.assessment)
        (weakPlansLast ranked requirements.priority) _ isPolicy
    rw [if_neg (by simp), built]
    exact ⟨order, rfl⟩

/-- The active order makes no plan up. -/
lemma applyActivePolicy_subset {wilson ranked requirements active}
    (built : applyActivePolicy wilson ranked requirements = some active) : active ⊆ ranked := by
  obtain ⟨order, run, unchanged, reordered⟩ := applyMeasuredPolicy_reorders wilson
    (weakPlansLast ranked requirements.priority) requirements
  have same : order = active := Option.some.inj (run.symm.trans built)
  subst same
  apply List.Subset.trans ?_ (weakPlansLast_subset ranked requirements.priority)
  cases isPolicy : policyOf requirements.priority with
  | none => rw [unchanged isPolicy]; exact List.Subset.refl _
  | some policy => exact (reordered policy isPolicy).perm.subset

end Jaull.Recommendation
