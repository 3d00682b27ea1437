import Jaull.Recommendation.Diversity

/-!
# What diversity shows of each logical model

Every logical model with a plan that is not rejected has one bucket, and a shown entry holds all the
plans of its model: the first that is not rejected as primary and the others, in order, as alternatives
(`diversifyRankedPlans_shows`).
-/

namespace Jaull.Recommendation
open Jaull.Domain Jaull.Lib

/-- The logical models with at least one plan that is not rejected. -/
def eligibleIdentities (ranked : List RankedPlan) : List String :=
  ((ranked.filter (!·.assessment.rejected)).map identityKey).dedup

section Buckets
variable {ranked : List RankedPlan}

/-- The eligible identities are those of the plans not rejected. -/
lemma mem_eligibleIdentities {key} :
    key ∈ eligibleIdentities ranked ↔
      ∃ item ∈ ranked, item.assessment.rejected = false ∧ identityKey item = key := by
  simp only [eligibleIdentities, List.mem_dedup, List.mem_map, List.mem_filter,
    Bool.not_eq_true', and_assoc]

lemma nodup_eligibleIdentities : (eligibleIdentities ranked).Nodup :=
  List.nodup_dedup _

/-- The indexed keys are the eligible logical models. -/
lemma keys_identityIndexes_perm :
    ((identityIndexes ranked).map Prod.fst).Perm (eligibleIdentities ranked) := by
  have keys : (identityIndexes ranked).map Prod.fst =
      (grouped (fun index : ℕ => (ranked[index]?.filter (!·.assessment.rejected)).map identityKey)
        (List.range ranked.length)).map Prod.fst := by
    rw [identityIndexes, List.map_map]
    rfl
  rw [keys, List.perm_ext_iff_of_nodup (nodup_keys_grouped _ _) nodup_eligibleIdentities]
  intro key
  rw [mem_eligibleIdentities]
  constructor
  · intro mem
    obtain ⟨⟨key', indexes⟩, memG, rfl⟩ := List.mem_map.mp mem
    obtain ⟨eq, ne⟩ := mem_grouped.mp memG
    obtain ⟨index, memI⟩ := List.exists_mem_of_ne_nil indexes ne
    rw [eq, List.mem_filter, decide_eq_true_eq] at memI
    obtain ⟨item, filtered, isKey⟩ := Option.map_eq_some_iff.mp memI.2
    obtain ⟨at_index, kept⟩ := Option.filter_eq_some_iff.mp filtered
    exact ⟨item, List.mem_of_getElem? at_index, by simpa using kept, isKey⟩
  · rintro ⟨item, mem, kept, rfl⟩
    obtain ⟨index, at_index⟩ := List.getElem?_of_mem mem
    refine List.mem_map.mpr ⟨(identityKey item, _), mem_grouped.mpr ⟨rfl, ?_⟩, rfl⟩
    apply List.ne_nil_of_mem (a := index)
    rw [List.mem_filter, List.mem_range, decide_eq_true_eq]
    refine ⟨(List.getElem?_eq_some_iff.mp at_index).1, ?_⟩
    simp [at_index, kept]

/-- Every indexed logical model has its bucket. -/
lemma keys_bestPlanPerIdentity :
    (bestPlanPerIdentity ranked).map (·.key) =
      (sortedBy (·.2) (identityIndexes ranked)).map Prod.fst := by
  apply map_filterMap_of_some
  rintro ⟨key, index⟩ mem
  obtain ⟨item, at_index, kept, isKey, _⟩ := mem_identityIndexes (mem_sortedBy.mp mem)
  have memI : item ∈ ranked.filter (identityKey · = key) :=
    List.mem_filter.mpr ⟨List.mem_of_getElem? at_index, decide_eq_true isKey⟩
  cases found : (ranked.filter (identityKey · = key)).find? (!·.assessment.rejected) with
  | none =>
    have rejected := List.find?_eq_none.mp found item memI
    simp [kept] at rejected
  | some primary =>
    simp only [found, Option.map_some]
    exact ⟨_, rfl, rfl⟩

/-- Buckets are the eligible logical models, one each. -/
lemma keys_bestPlanPerIdentity_perm :
    ((bestPlanPerIdentity ranked).map (·.key)).Perm (eligibleIdentities ranked) := by
  rw [keys_bestPlanPerIdentity]
  exact ((sortedBy_perm _ _).map _).trans keys_identityIndexes_perm

/-- A bucket holds the plans of its logical model. -/
lemma bucket_plans {bucket} (mem : bucket ∈ bestPlanPerIdentity ranked) :
    ∃ before after,
      ranked.filter (identityKey · = identityKey bucket.primary) =
        before ++ bucket.primary :: after ∧
      bucket.alternatives = before ++ after ∧
      (∀ item ∈ before, item.assessment.rejected = true) ∧
      bucket.primary.assessment.rejected = false := by
  have isKey := (bucket_spec mem).2.2
  obtain ⟨⟨key, index⟩, memI, built⟩ := List.mem_filterMap.mp mem
  obtain ⟨primary, found, rfl⟩ := Option.map_eq_some_iff.mp built
  obtain ⟨kept, before, after, eq, rejected⟩ := List.find?_eq_some_iff_append.mp found
  have kept : primary.assessment.rejected = false := by simpa using kept
  have rejected : ∀ item ∈ before, item.assessment.rejected = true := by simpa using rejected
  have fresh : primary ∉ before := by
    intro memB
    rw [rejected primary memB] at kept
    cases kept
  refine ⟨before, after, ?_, ?_, rejected, kept⟩
  · change ranked.filter (identityKey · = identityKey primary) = _
    change identityKey primary = key at isKey
    rw [isKey]
    exact eq
  · change (ranked.filter (identityKey · = key)).erase primary = _
    rw [eq, List.erase_append_right _ fresh, List.erase_cons_head]

/-- The first bucket holds the first plan that is not rejected. -/
lemma find?_eq_head {first rest} (eq : bestPlanPerIdentity ranked = first :: rest) :
    ranked.find? (!·.assessment.rejected) = some first.primary := by
  have memF : first ∈ bestPlanPerIdentity ranked := by
    rw [eq]
    exact List.mem_cons_self
  have ordered := @bestPlanPerIdentity_ordered ranked
  rw [eq, List.pairwise_cons] at ordered
  obtain ⟨_, at_first, _⟩ := bucket_spec memF
  obtain ⟨_, _, _, _, _, kept⟩ := bucket_plans memF
  obtain ⟨inside, here⟩ := List.getElem?_eq_some_iff.mp at_first
  rw [List.find?_eq_some_iff_getElem]
  refine ⟨by simpa using kept, first.originalIndex, inside, here, ?_⟩
  intro j lt
  have at_j : ranked[j]? = some ranked[j] := List.getElem?_eq_getElem (lt.trans inside)
  cases kept_j : ranked[j].assessment.rejected with
  | true => rfl
  | false =>
    -- the bucket of a kept plan ahead of the first bucket would stand ahead of it
    have eligible : identityKey ranked[j] ∈ eligibleIdentities ranked :=
      mem_eligibleIdentities.mpr ⟨_, List.mem_of_getElem? at_j, kept_j, rfl⟩
    obtain ⟨bucket, memB, isKey⟩ :=
      List.mem_map.mp (keys_bestPlanPerIdentity_perm.mem_iff.mpr eligible)
    obtain ⟨memI, _, _⟩ := bucket_spec memB
    obtain ⟨_, _, _, _, least⟩ := mem_identityIndexes memI
    have le : bucket.originalIndex ≤ j := by
      by_contra later
      have rejected := least j _ (not_le.mp later) at_j isKey.symm
      rw [kept_j] at rejected
      cases rejected
    have first_le : first.originalIndex ≤ bucket.originalIndex := by
      rw [eq] at memB
      rcases List.mem_cons.mp memB with rfl | memR
      · exact Nat.le_refl _
      · exact Nat.le_of_lt (ordered.1 bucket memR)
    exact absurd (lt.trans_le first_le) (Nat.not_lt_of_le le)

section Shown
variable {κ : Type} [DecidableEq κ] {tieKey : RankedPlan → κ} {limit : ℤ}

/-- No bucket is shown twice. -/
lemma shownBuckets_subperm :
    (shownBuckets tieKey ranked limit).Subperm (bestPlanPerIdentity ranked) := by
  rw [shownBuckets]
  split
  case isTrue => exact List.nil_subperm
  case isFalse =>
    cases buckets : bestPlanPerIdentity ranked with
    | nil => exact List.nil_subperm
    | cons first remaining =>
      exact pickFrom_subperm fun selected remaining picked pick =>
        (chooseNext_picksTies selected remaining picked pick).1

/-- Buckets are shown up to the limit. -/
lemma length_shownBuckets :
    (shownBuckets tieKey ranked limit).length =
      min limit.toNat (bestPlanPerIdentity ranked).length := by
  rw [shownBuckets]
  split
  case isTrue none =>
    rw [Int.toNat_of_nonpos none]
    exact (Nat.zero_min _).symm
  case isFalse some =>
    cases buckets : bestPlanPerIdentity ranked with
    | nil => exact (Nat.min_zero _).symm
    | cons first remaining =>
      change (pickFrom (chooseNext tieKey) limit.toNat remaining.length [first] remaining).length = _
      rw [length_pickFrom fun selected remaining ne => chooseNext_eq_some ne]
      · rw [List.length_cons, List.length_cons, List.length_nil, Nat.zero_add, Nat.add_comm]
      · change 1 ≤ limit.toNat
        omega
      · exact Nat.le_refl _
      · exact fun selected => rfl

/-- A shown entry is a bucket. -/
lemma exists_bucket_of_mem {entry} (mem : entry ∈ diversifyRankedPlans tieKey ranked limit) :
    ∃ bucket ∈ bestPlanPerIdentity ranked,
      entry.primary = bucket.primary ∧ entry.alternatives = bucket.alternatives := by
  rw [diversifyRankedPlans] at mem
  cases shown : shownBuckets tieKey ranked limit with
  | nil =>
    rw [shown] at mem
    cases mem
  | cons best rest =>
    rw [shown] at mem
    obtain ⟨⟨bucket, index⟩, memB, rfl⟩ := List.mem_map.mp mem
    have inShown := List.fst_mem_of_mem_zipIdx memB
    rw [← shown] at inShown
    exact ⟨bucket, shownBuckets_subperm.subset inShown, rfl, rfl⟩

end Shown
end Buckets

/-- What the shown list holds of a ranked list. -/
structure ShowsIdentities (ranked : List RankedPlan) (limit : ℤ)
    (shown : List DiversifiedRecommendation) : Prop where
  /-- No logical model is shown twice. -/
  distinct : (shown.map (identityKey ·.primary)).Nodup
  /-- As many logical models are shown as the limit allows and as there are. -/
  length : (shown.length : ℤ) = min (max limit 0) (eligibleIdentities ranked).length
  /-- The first shown plan is the first plan of the list that is not rejected. -/
  first : ∀ entry, shown.head? = some entry →
    ranked.find? (!·.assessment.rejected) = some entry.primary
  /-- An entry holds every plan of its logical model: those before the primary are rejected, the primary
  is not, and the others keep their order. -/
  plans : ∀ entry ∈ shown, ∃ before after,
    ranked.filter (identityKey · = identityKey entry.primary) = before ++ entry.primary :: after ∧
    entry.alternatives = before ++ after ∧
    (∀ item ∈ before, item.assessment.rejected = true) ∧
    entry.primary.assessment.rejected = false

/-- Diversity shows each eligible logical model at most once, up to the limit and best first, each with
all of its plans. -/
theorem diversifyRankedPlans_shows {κ : Type} [DecidableEq κ] (tieKey : RankedPlan → κ)
    (ranked : List RankedPlan) (limit : ℤ) :
    ShowsIdentities ranked limit (diversifyRankedPlans tieKey ranked limit) := by
  have primaries := @diversifyRankedPlans_primaries ranked _ _ tieKey limit
  have size : (diversifyRankedPlans tieKey ranked limit).length =
      (shownBuckets tieKey ranked limit).length := by
    have lengths := congrArg List.length primaries
    rwa [List.length_map, List.length_map] at lengths
  have identities : (diversifyRankedPlans tieKey ranked limit).map (identityKey ·.primary) =
      (shownBuckets tieKey ranked limit).map (·.key) := by
    have keys := congrArg (List.map identityKey) primaries
    rw [List.map_map, List.map_map] at keys
    refine keys.trans (List.map_congr_left fun bucket mem => ?_)
    exact (bucket_spec (shownBuckets_subperm.subset mem)).2.2
  refine ⟨?_, ?_, ?_, ?_⟩
  · rw [identities]
    have nodup := (@keys_bestPlanPerIdentity_perm ranked).nodup_iff.mpr nodup_eligibleIdentities
    obtain ⟨buckets, perm, sub⟩ := @shownBuckets_subperm ranked _ _ tieKey limit
    exact (perm.map (·.key)).nodup_iff.mp (nodup.sublist (sub.map (·.key)))
  · have count := (@keys_bestPlanPerIdentity_perm ranked).length_eq
    rw [List.length_map] at count
    rw [size, length_shownBuckets, count]
    omega
  · intro entry isHead
    have heads := congrArg List.head? primaries
    rw [List.head?_map, List.head?_map, isHead] at heads
    rcases @shownBuckets_eq ranked _ _ tieKey limit with ⟨empty, _⟩ | ⟨first, rest, eq, shown, _⟩
    · rw [empty] at heads
      cases heads
    · rw [shown] at heads
      rw [find?_eq_head eq]
      exact heads.symm
  · intro entry mem
    obtain ⟨bucket, memB, primary, alternatives⟩ := exists_bucket_of_mem mem
    rw [primary, alternatives]
    exact bucket_plans memB

/-- A negative limit shows nothing, which is not as many as the limit. -/
theorem diversifyRankedPlans_negative_limit :
    ((diversifyRankedPlans assessmentSignature [namedPlan "only"] (-1)).length : ℤ) ≠
      min (-1) ((eligibleIdentities [namedPlan "only"]).length : ℤ) := by
  decide +kernel

end Jaull.Recommendation
