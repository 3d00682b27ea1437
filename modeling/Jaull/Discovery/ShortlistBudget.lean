import Jaull.Discovery.Shortlist
import Mathlib.Data.List.Perm.Basic

/-!
# The budget of the shortlist

What each stage of the shortlist takes out of the entries that are left. Coverage, relevance and fallback only
move entries from one list to the other, so the picks and what is left are always the entries, rearranged. The
relevance stage fills every free slot while plausible entries are left.
-/

namespace Jaull.Discovery
open Jaull.Domain Jaull.Lib Jaull.Text

section Pop
variable {bucket rest : List ShortlistEntry} {redundancy : List RedundancyKey} {families : List String}
variable {entry : ShortlistEntry}

/-- What is popped was in the bucket, and the rest of the bucket stays. -/
lemma popBucketCandidate_perm (popped : popBucketCandidate bucket redundancy families = some (entry, rest)) :
    (entry :: rest).Perm bucket := by
  rw [popBucketCandidate.eq_def] at popped
  split at popped
  · cases popped
  · obtain ⟨found, at', eq⟩ := Option.map_eq_some_iff.mp popped
    cases eq
    obtain ⟨lt, own⟩ := List.getElem?_eq_some_iff.mp at'
    rw [← own]
    exact List.getElem_cons_eraseIdx_perm lt

/-- Something is popped unless the bucket is empty. -/
lemma popBucketCandidate_isSome (some : bucket ≠ []) :
    ∃ entry rest, popBucketCandidate bucket redundancy families = .some (entry, rest) := by
  have at' : ∀ {index : ℕ}, index < bucket.length → ∃ entry rest,
      (bucket[index]?.map fun entry => (entry, bucket.eraseIdx index)) = .some (entry, rest) := by
    intro index lt
    rw [List.getElem?_eq_getElem lt]
    exact ⟨_, _, rfl⟩
  rw [popBucketCandidate.eq_def]
  split
  · exact absurd rfl some
  · dsimp only
    apply at'
    split
    · rename_i index found
      exact (List.findIdx?_eq_some_iff_getElem.mp found).1
    · split
      · rename_i index found
        exact (List.findIdx?_eq_some_iff_getElem.mp found).1
      · exact List.length_pos_of_ne_nil some

end Pop

section Coverage
variable {hardware : HardwareProfile} {coverSmall : Bool} {limit : ℕ} {bestClass : Option ℕ} {larger : Bool}
variable {selection selection' : Selection} {bucket bucket' : List ShortlistEntry}
variable {buckets buckets' : List (List ShortlistEntry)}

/-- What happens to a bucket: nothing is picked, or one entry moves to the selection. -/
structure Covers (selection selection' : Selection) (bucket bucket' : List ShortlistEntry) : Prop where
  perm : (selection'.selected ++ bucket').Perm (selection.selected ++ bucket)
  grows : selection.selected.length ≤ selection'.selected.length
  one : selection'.selected.length ≤ selection.selected.length + 1

/-- A bucket that is passed by covers nothing. -/
lemma Covers.skip (perm : bucket'.Perm bucket) : Covers selection selection bucket bucket' :=
  ⟨perm.append_left _, le_rfl, Nat.le_succ _⟩

/-- A bucket that is picked from after it was rearranged. -/
lemma coverPick_covers (perm : bucket'.Perm bucket) :
    Covers selection (coverPick selection bucket').1 bucket (coverPick selection bucket').2 := by
  rw [coverPick]
  cases popped : popBucketCandidate bucket' selection.redundancy selection.families with
  | none => exact Covers.skip perm
  | some found =>
    obtain ⟨picked, rest⟩ := found
    have moved := (popBucketCandidate_perm popped).trans perm
    refine ⟨?_, ?_, ?_⟩
    · change ((selection.selected ++ [picked]) ++ rest).Perm _
      rw [List.append_assoc]
      exact moved.append_left _
    · change _ ≤ (selection.selected ++ [picked]).length
      rw [List.length_append]
      exact Nat.le_add_right _ _
    · change (selection.selected ++ [picked]).length ≤ _
      rw [List.length_append]
      exact le_rfl

/-- A bucket is covered by one of its entries at most. -/
lemma coverBucket_covers (hardware : HardwareProfile) (coverSmall : Bool) (bestClass : Option ℕ) (larger : Bool)
    (selection : Selection) (bucket : List ShortlistEntry) :
    Covers selection (coverBucket hardware coverSmall bestClass larger selection bucket).1 bucket
      (coverBucket hardware coverSmall bestClass larger selection bucket).2 := by
  rw [coverBucket.eq_def]
  split
  · exact Covers.skip (List.Perm.refl _)
  · rename_i leader rest
    dsimp only
    split
    · split
      · exact Covers.skip (sortedBy_perm unknownKey _)
      · exact coverPick_covers (sortedBy_perm unknownKey _)
    · split
      · exact Covers.skip (List.Perm.refl _)
      · exact coverPick_covers (List.Perm.refl _)

/-- The coverage stage moves entries from the buckets to the selection, within the limit. -/
lemma cover_perm (selection : Selection) (buckets : List (List ShortlistEntry))
    (within : selection.selected.length ≤ limit) :
    let covered := cover hardware coverSmall limit bestClass larger buckets selection
    (covered.1.selected ++ covered.2.flatten).Perm (selection.selected ++ buckets.flatten) ∧
      covered.1.selected.length ≤ limit := by
  induction buckets generalizing selection with
  | nil => exact ⟨List.Perm.refl _, within⟩
  | cons bucket buckets ih =>
    rw [cover]
    split
    · exact ⟨List.Perm.refl _, within⟩
    · rename_i free
      have covers := coverBucket_covers hardware coverSmall bestClass larger selection bucket
      obtain ⟨perm, within'⟩ := ih
        (coverBucket hardware coverSmall bestClass larger selection bucket).1 (by have := covers.one; omega)
      refine ⟨?_, within'⟩
      dsimp only
      rw [List.flatten_cons, List.flatten_cons]
      -- what the later buckets move does not touch what is left of this one
      refine (List.perm_append_comm_assoc _ _ _).trans ((perm.append_left _).trans ?_)
      rw [← List.append_assoc, ← List.append_assoc]
      exact (List.perm_append_comm.trans covers.perm).append_right _

/-- The buckets hold the entries they were made of. -/
lemma shortlistBuckets_perm (hardware : HardwareProfile) (coverSmall : Bool) (entries : List ShortlistEntry) :
    (shortlistBuckets hardware coverSmall entries).flatten.Perm entries := by
  have flat : ∀ {l l' : List (List ShortlistEntry)}, l.Perm l' → l.flatten.Perm l'.flatten := by
    intro l l' perm
    exact perm.flatten
  have sorted : ∀ l : List (List ShortlistEntry),
      (l.map (sortedBy ShortlistEntry.scoreKey)).flatten.Perm l.flatten := by
    intro l
    induction l with
    | nil => exact List.Perm.refl _
    | cons bucket l ih => exact (sortedBy_perm _ bucket).append ih
  have grouping : (groupShortlistBuckets hardware coverSmall entries).flatten.Perm entries := by
    rw [groupShortlistBuckets, ← List.flatMap_def]
    exact ((sortedBy_perm Prod.fst _).flatMap_right Prod.snd).trans
      (flatMap_grouped (bucketKey hardware coverSmall) entries)
  rw [shortlistBuckets]
  split
  · exact (flat (sortedBy_perm _ _)).trans ((sorted _).trans grouping)
  · exact (sorted _).trans grouping

end Coverage

section Relevance
variable {hardware : HardwareProfile} {coverSmall quality : Bool} {logs : Logarithms}
variable {remaining group : List ShortlistEntry} {selection : Selection} {top : ShortlistEntry}

/-- The ties of a group are of the group. -/
lemma tiedIn_subset (selection : Selection) (group : List ShortlistEntry) : tiedIn selection group ⊆ group := by
  cases group with
  | nil => exact List.Subset.refl _
  | cons leader rest =>
    rw [tiedIn]
    dsimp only
    intro entry mem
    rcases List.mem_cons.mp mem with rfl | mem
    · cases found : (leader :: rest).find? fun entry => !decide (entry.versionKey ∈ selection.versions) with
      | none => exact List.mem_cons_self
      | some first => exact List.mem_of_find?_eq_some found
    · exact List.mem_of_mem_erase (List.mem_filter.mp mem).1

/-- The best of a group are some. -/
lemma tiedIn_ne_nil (some : group ≠ []) : tiedIn selection group ≠ [] := by
  cases group with
  | nil => exact absurd rfl some
  | cons leader rest => exact List.cons_ne_nil _ _

/-- The group of the leader of the relevance stage has the leader. -/
lemma mem_relevanceGroup_self (mem : top ∈ remaining) : top ∈ relevanceGroup hardware coverSmall remaining top := by
  rw [relevanceGroup, List.mem_filter]
  refine ⟨mem, ?_⟩
  simp

/-- The group of a round is among what remains. -/
lemma relevanceGroup_subset : relevanceGroup hardware coverSmall remaining top ⊆ remaining :=
  List.filter_sublist.subset

/-- So is the group that explores. -/
lemma explorationGroup_subset (sub : group ⊆ remaining) : explorationGroup quality remaining group top ⊆ remaining := by
  rw [explorationGroup]
  split
  · exact List.filter_sublist.subset
  · exact sub

/-- A round chooses from the group of the leader, or explores and chooses from the entries that it may explore. -/
lemma relevanceRound_eq_some {explorationLeft : ℕ} {round : RelevanceRound}
    (eq : relevanceRound hardware coverSmall logs quality explorationLeft remaining selection = some round) :
    ∃ top rest, remaining = top :: rest ∧
      (round.explored = false ∧ round.chosen ∈ relevanceGroup hardware coverSmall remaining top ∨
        round.explored = true ∧ 0 < explorationLeft ∧
          round.chosen ∈
            explorationGroup quality remaining (relevanceGroup hardware coverSmall remaining top) top) := by
  rw [relevanceRound.eq_def] at eq
  split at eq
  · cases eq
  · rename_i top rest
    obtain ⟨popped, found, same⟩ := Option.map_eq_some_iff.mp eq
    cases same
    have mem := tiedIn_subset _ _ ((popBucketCandidate_perm found).subset List.mem_cons_self)
    refine ⟨top, rest, rfl, ?_⟩
    by_cases none : explorationLeft = 0
    · simp only [if_pos none] at mem ⊢
      exact .inl ⟨rfl, mem⟩
    · simp only [if_neg none] at mem ⊢
      split at mem
      · rename_i explored
        rw [mem_sortedBy, novelIn] at mem
        exact .inr ⟨explored, Nat.pos_of_ne_zero none, (List.mem_filter.mp mem).1⟩
      · rename_i calm
        exact .inl ⟨Bool.eq_false_iff.mpr calm, mem⟩

/-- A round chooses unless nothing remains. -/
lemma relevanceRound_isSome {explorationLeft : ℕ} (some : remaining ≠ []) :
    ∃ round, relevanceRound hardware coverSmall logs quality explorationLeft remaining selection = .some round := by
  cases remaining with
  | nil => exact absurd rfl some
  | cons top rest =>
    have group : relevanceGroup hardware coverSmall (top :: rest) top ≠ [] :=
      List.ne_nil_of_mem (mem_relevanceGroup_self List.mem_cons_self)
    have filled : ∀ novel : List ShortlistEntry, (if (!novel.isEmpty) = true then
        sortedBy (novelKey quality) novel else relevanceGroup hardware coverSmall (top :: rest) top) ≠ [] := by
      intro novel
      split
      · rename_i explored
        exact mt sortedBy_eq_nil.mp (List.isEmpty_eq_false_iff.mp ((Bool.not_eq_true' _).mp explored))
      · exact group
    rw [relevanceRound]
    obtain ⟨entry, rest, popped⟩ := popBucketCandidate_isSome (tiedIn_ne_nil (filled _))
    rw [popped]
    exact ⟨_, rfl⟩

/-- So is what is chosen. -/
lemma relevanceRound_chosen_mem {explorationLeft : ℕ} {round : RelevanceRound}
    (eq : relevanceRound hardware coverSmall logs quality explorationLeft remaining selection = some round) :
    round.chosen ∈ remaining := by
  obtain ⟨top, rest, -, ⟨-, mem⟩ | ⟨-, -, mem⟩⟩ := relevanceRound_eq_some eq
  · exact relevanceGroup_subset mem
  · exact explorationGroup_subset relevanceGroup_subset mem

/-- The relevance stage fills its free slots from what remains. -/
lemma relevance_picks (slots explorationLeft : ℕ) (remaining : List ShortlistEntry) (selection : Selection) :
    ∃ picks rest, (relevance hardware coverSmall logs quality slots explorationLeft remaining selection).selected =
      selection.selected ++ picks ∧ (picks ++ rest).Perm remaining ∧
        picks.length = min slots remaining.length := by
  induction slots generalizing explorationLeft remaining selection with
  | zero =>
    refine ⟨[], remaining, (List.append_nil _).symm, List.Perm.refl _, ?_⟩
    rw [Nat.zero_min]
    rfl
  | succ slots ih =>
    have sorted := sortedBy_perm (relevanceKey hardware coverSmall) remaining
    rw [relevance]
    dsimp only
    cases eq : relevanceRound hardware coverSmall logs quality explorationLeft
        (sortedBy (relevanceKey hardware coverSmall) remaining) selection with
    | none =>
      -- a round picks unless nothing is left
      have empty : remaining = [] := by
        by_contra some
        obtain ⟨round, eq'⟩ := @relevanceRound_isSome hardware coverSmall quality logs
          (sortedBy (relevanceKey hardware coverSmall) remaining) selection explorationLeft
          (mt sortedBy_eq_nil.mp some)
        rw [eq] at eq'
        cases eq'
      subst empty
      refine ⟨[], [], (List.append_nil _).symm, List.Perm.refl _, ?_⟩
      rw [List.length_nil, Nat.min_zero]
    | some round =>
      have mem := relevanceRound_chosen_mem eq
      obtain ⟨picks, rest, selected, perm, length⟩ := ih
        (if round.explored then explorationLeft - 1 else explorationLeft)
        ((sortedBy (relevanceKey hardware coverSmall) remaining).erase round.chosen)
        (((selection.addVersion round.chosen).remember round.chosen).recordPick round.chosen
          (if round.explored then .exploration else .relevance) (some round.decision))
      refine ⟨round.chosen :: picks, rest, ?_, ?_, ?_⟩
      · dsimp only
        rw [selected]
        change (selection.selected ++ [round.chosen]) ++ picks = _
        rw [List.append_assoc]
        rfl
      · exact ((perm.cons round.chosen).trans (List.perm_cons_erase mem).symm).trans sorted
      · rw [List.length_cons, length, List.length_erase_of_mem mem, sorted.length_eq]
        have pos := List.length_pos_of_mem (sorted.subset mem)
        omega

end Relevance

section Fallback

/-- The fallbacks fill what is free of the limit. -/
lemma fallBack_selected (limit : ℕ) (entries : List ShortlistEntry) (selection : Selection) :
    (fallBack limit entries selection).selected =
      selection.selected ++ entries.take (limit - selection.selected.length) := by
  induction entries generalizing selection with
  | nil =>
    rw [fallBack, List.take_nil, List.append_nil]
  | cons entry entries ih =>
    rw [fallBack]
    split
    · rename_i full
      rw [Nat.sub_eq_zero_of_le full, List.take_zero, List.append_nil]
    · rename_i free
      rw [ih]
      change (selection.selected ++ [entry]) ++
        entries.take (limit - (selection.selected ++ [entry]).length) = _
      have slots : limit - selection.selected.length = (limit - (selection.selected ++ [entry]).length) + 1 := by
        rw [List.length_append, List.length_singleton]
        omega
      rw [slots, List.take_succ_cons, List.append_assoc]
      rfl

end Fallback

section Erasure
variable (hardware : HardwareProfile) (coverSmall quality : Bool) (logs : Logarithms) (limit : ℕ)

/-- A selection without its audit. -/
def Selection.plain (selection : Selection) : Selection :=
  { selection with audit := none }

/-- A pick with its bucket, without the audit. -/
def plainPair {α : Type} (pair : Selection × α) : Selection × α :=
  (pair.1.plain, pair.2)

/-- A pick does not look at the audit. -/
lemma coverPick_plain (selection : Selection) (bucket : List ShortlistEntry) :
    plainPair (coverPick selection bucket) = coverPick selection.plain bucket := by
  rw [coverPick, coverPick, Selection.plain]
  dsimp only
  cases popBucketCandidate bucket selection.redundancy selection.families with
  | none => rfl
  | some => rfl

/-- Nor does a bucket. -/
lemma coverBucket_plain (bestClass : Option ℕ) (larger : Bool) (selection : Selection)
    (bucket : List ShortlistEntry) :
    plainPair (coverBucket hardware coverSmall bestClass larger selection bucket) =
      coverBucket hardware coverSmall bestClass larger selection.plain bucket := by
  cases bucket with
  | nil => rfl
  | cons leader rest =>
    rw [coverBucket, coverBucket]
    dsimp only
    cases leader.hint.mode with
    | none =>
      dsimp only
      rw [apply_ite plainPair, coverPick_plain]
      rfl
    | some mode =>
      dsimp only
      rw [apply_ite plainPair, coverPick_plain]
      rfl

/-- The coverage stage does not look at the audit. -/
lemma cover_plain (bestClass : Option ℕ) (larger : Bool) (buckets : List (List ShortlistEntry))
    (selection : Selection) :
    plainPair (cover hardware coverSmall limit bestClass larger buckets selection) =
      cover hardware coverSmall limit bestClass larger buckets selection.plain := by
  induction buckets generalizing selection with
  | nil => rfl
  | cons bucket buckets ih =>
    have step := coverBucket_plain hardware coverSmall bestClass larger selection bucket
    rw [cover, cover]
    change plainPair (if limit ≤ selection.selected.length then _ else _) =
      if limit ≤ selection.selected.length then _ else _
    split
    · rfl
    · rw [← step, plainPair, plainPair]
      dsimp only
      rw [← ih]
      rfl

/-- The relevance stage does not look at the audit. -/
lemma relevance_plain (slots explorationLeft : ℕ) (remaining : List ShortlistEntry) (selection : Selection) :
    (relevance hardware coverSmall logs quality slots explorationLeft remaining selection).plain =
      relevance hardware coverSmall logs quality slots explorationLeft remaining selection.plain := by
  induction slots generalizing explorationLeft remaining selection with
  | zero => rfl
  | succ slots ih =>
    have same : relevanceRound hardware coverSmall logs quality explorationLeft
        (sortedBy (relevanceKey hardware coverSmall) remaining) selection.plain =
        relevanceRound hardware coverSmall logs quality explorationLeft
          (sortedBy (relevanceKey hardware coverSmall) remaining) selection := rfl
    rw [relevance, relevance]
    dsimp only
    rw [same]
    cases relevanceRound hardware coverSmall logs quality explorationLeft
        (sortedBy (relevanceKey hardware coverSmall) remaining) selection with
    | none => rfl
    | some round =>
      dsimp only
      rw [ih]
      rfl

/-- Nor does the fallback. -/
lemma fallBack_plain (entries : List ShortlistEntry) (selection : Selection) :
    (fallBack limit entries selection).plain = fallBack limit entries selection.plain := by
  induction entries generalizing selection with
  | nil => rfl
  | cons entry entries ih =>
    rw [fallBack, fallBack]
    change Selection.plain (if limit ≤ selection.selected.length then _ else _) =
      if limit ≤ selection.selected.length then _ else _
    split
    · rfl
    · rw [ih]
      rfl

end Erasure

section Stages
variable (logs : Logarithms) (requirements : SearchRequirements) (limit : ℤ) (hardware : HardwareProfile)
variable (targetsOtherTask : Option (SearchCandidate → Bool))

/-- The stages do not look at the audit. -/
lemma selectEntries_plain (entries : List ShortlistEntry) (audit : Option Audit) :
    (selectEntries logs requirements limit hardware entries audit).plain =
      selectEntries logs requirements limit hardware entries none := by
  have covered : plainPair (coverageStage requirements limit hardware entries audit) =
      coverageStage requirements limit hardware entries none :=
    cover_plain _ _ _ _ _ _ _
  have selection : (relevanceStage logs requirements limit hardware entries audit).plain =
      relevanceStage logs requirements limit hardware entries none := by
    rw [relevanceStage, relevanceStage, relevance_plain, ← covered]
    rfl
  rw [selectEntries, selectEntries, fallBack_plain, ← selection]
  rfl

/-- The coverage stage picks plausible entries within the limit, and leaves the others. -/
lemma coverageStage_perm (entries : List ShortlistEntry) (audit : Option Audit) :
    ((coverageStage requirements limit hardware entries audit).1.selected ++
        (coverageStage requirements limit hardware entries audit).2.flatten).Perm
        (entries.filter (·.isPlausible)) ∧
      (coverageStage requirements limit hardware entries audit).1.selected.length ≤ limit.toNat := by
  obtain ⟨covered, within⟩ := @cover_perm hardware (coversSmall requirements hardware) limit.toNat
    (bestClassOf hardware (shortlistBuckets hardware (coversSmall requirements hardware)
      (entries.filter (·.isPlausible))))
    (largerInBestClass hardware (shortlistBuckets hardware (coversSmall requirements hardware)
      (entries.filter (·.isPlausible))))
    { audit := audit } (shortlistBuckets hardware (coversSmall requirements hardware)
      (entries.filter (·.isPlausible))) (Nat.zero_le _)
  exact ⟨covered.trans (shortlistBuckets_perm hardware (coversSmall requirements hardware)
    (entries.filter (·.isPlausible))), within⟩

/-- The picks of the first two stages: as many plausible entries as there are slots for. -/
lemma relevanceStage_selected (entries : List ShortlistEntry) (audit : Option Audit) :
    ∃ rest, ((relevanceStage logs requirements limit hardware entries audit).selected ++ rest).Perm
        (entries.filter (·.isPlausible)) ∧
      (relevanceStage logs requirements limit hardware entries audit).selected.length =
        min limit.toNat (entries.filter (·.isPlausible)).length := by
  obtain ⟨all, within⟩ := coverageStage_perm requirements limit hardware entries audit
  rw [relevanceStage]
  obtain ⟨picks, rest, selected, perm, length⟩ := @relevance_picks hardware
    (coversSmall requirements hardware) (qualityScaleCoverage requirements hardware) logs
    (limit.toNat - (coverageStage requirements limit hardware entries audit).1.selected.length)
    (explorationBudget requirements limit hardware)
    (coverageStage requirements limit hardware entries audit).2.flatten
    ((coverageStage requirements limit hardware entries audit).1.noteRelevance
      { coverSmall := coversSmall requirements hardware
        bestPlacementClass := bestClassOf hardware (shortlistBuckets hardware
          (coversSmall requirements hardware) (entries.filter (·.isPlausible)))
        qualityScaleCoverage := qualityScaleCoverage requirements hardware
        explorationBudget := explorationBudget requirements limit hardware
        maxExplorationScoreGap := logs.log100 })
  rw [selected]
  change ∃ rest, (((coverageStage requirements limit hardware entries audit).1.selected ++ picks) ++ rest).Perm _ ∧
    ((coverageStage requirements limit hardware entries audit).1.selected ++ picks).length = _
  refine ⟨rest, ?_, ?_⟩
  · rw [List.append_assoc]
    exact (perm.append_left _).trans all
  · have total := all.length_eq
    rw [List.length_append] at total ⊢
    rw [length]
    omega

/-- The picks of all stages: plausible entries first, and then the best of the others. -/
lemma selectEntries_selected (entries : List ShortlistEntry) (audit : Option Audit) :
    ∃ front rest, (front ++ rest).Perm (entries.filter (·.isPlausible)) ∧
      front.length = min limit.toNat (entries.filter (·.isPlausible)).length ∧
      (selectEntries logs requirements limit hardware entries audit).selected =
        front ++ (sortedBy fallbackKey (entries.filter (!·.isPlausible))).take
          (min maxTooLargeFallbacks (limit.toNat - front.length)) := by
  obtain ⟨rest, perm, length⟩ := relevanceStage_selected logs requirements limit hardware entries audit
  refine ⟨_, rest, perm, length, ?_⟩
  rw [selectEntries, fallBack_selected]
  congr 1
  split
  · rename_i empty
    rw [empty, List.length_nil, Nat.sub_zero, List.take_take, Nat.min_comm limit.toNat maxTooLargeFallbacks,
      ← Nat.min_assoc, Nat.min_comm limit.toNat maxTooLargeFallbacks, Nat.min_assoc, Nat.min_self]
  · rw [List.take_take]
    congr 1
    omega

end Stages

section Shortlist
variable {logs : Logarithms} {requirements : SearchRequirements} {limit : ℤ} {hardware : HardwareProfile}
variable {targetsOtherTask : Option (SearchCandidate → Bool)} {candidates candidates' : List SearchCandidate}

/-- A candidate looks too large for the machine. -/
def looksTooLarge (requirements : SearchRequirements) (hardware : HardwareProfile)
    (candidate : SearchCandidate) : Bool :=
  (coarsePlacementHint candidate requirements hardware).mode = some .tooLarge

/-- No two candidates are of one repository. -/
def ReposDiffer (candidates : List SearchCandidate) : Prop :=
  (candidates.map (·.repoId)).Nodup

instance (candidates : List SearchCandidate) : Decidable (ReposDiffer candidates) :=
  inferInstanceAs (Decidable (List.Nodup _))

/-- A shortlist that spends its budget: plausible candidates first, as many as there are slots for, and then
at most two that look too large in the slots that are left. -/
structure SpendsBudget (requirements : SearchRequirements) (limit : ℤ) (hardware : HardwareProfile)
    (candidates shortlist : List SearchCandidate) : Prop where
  length : shortlist.length =
    if 0 < limit then
      min limit.toNat (candidates.filter (!looksTooLarge requirements hardware ·)).length +
        min 2 (min (candidates.filter (looksTooLarge requirements hardware)).length
          (limit.toNat - min limit.toNat (candidates.filter (!looksTooLarge requirements hardware ·)).length))
    else 0
  sub : shortlist ⊆ candidates
  nodup : shortlist.Nodup
  order : ∃ front back, shortlist = front ++ back ∧
    (∀ candidate ∈ front, looksTooLarge requirements hardware candidate = false) ∧
    (∀ candidate ∈ back, looksTooLarge requirements hardware candidate = true) ∧
    (back ≠ [] → ∀ candidate ∈ candidates, looksTooLarge requirements hardware candidate = false →
      candidate ∈ front)

/-- There is an entry for every candidate. -/
lemma shortlistEntries_perm (candidates : List SearchCandidate) :
    (shortlistEntries logs requirements hardware targetsOtherTask candidates).Perm
      (candidates.map (shortlistEntry logs requirements hardware targetsOtherTask)) :=
  sortedBy_perm _ _

/-- The entries are sorted by keys that tell the repositories apart. -/
lemma shortlistEntries_congr (differ : ReposDiffer candidates) (perm : candidates'.Perm candidates) :
    shortlistEntries logs requirements hardware targetsOtherTask candidates' =
      shortlistEntries logs requirements hardware targetsOtherTask candidates := by
  apply sortedBy_eq_of_perm (perm.map _)
  apply List.Nodup.of_map fun key : Bool ×ₗ ℚ ×ₗ String => (ofLex (ofLex key).2).2
  rw [List.map_map, List.map_map]
  exact differ

/-- It is plausible when the candidate does not look too large. -/
lemma isPlausible_shortlistEntry (candidate : SearchCandidate) :
    (shortlistEntry logs requirements hardware targetsOtherTask candidate).isPlausible =
      !looksTooLarge requirements hardware candidate := by
  rw [ShortlistEntry.isPlausible, looksTooLarge, shortlistEntry]
  exact decide_not

/-- The candidates of the entries of a kind. -/
lemma filter_shortlistEntries (p : ShortlistEntry → Bool) (q : SearchCandidate → Bool)
    (same : ∀ candidate, p (shortlistEntry logs requirements hardware targetsOtherTask candidate) = q candidate) :
    (((shortlistEntries logs requirements hardware targetsOtherTask candidates).filter p).map (·.candidate)).Perm
      (candidates.filter q) := by
  have perm := ((@shortlistEntries_perm logs requirements hardware targetsOtherTask candidates).filter p).map
    (·.candidate)
  rw [List.filter_map, List.map_map] at perm
  have own : (fun entry : ShortlistEntry => entry.candidate) ∘
      shortlistEntry logs requirements hardware targetsOtherTask = id := rfl
  have kinds : p ∘ shortlistEntry logs requirements hardware targetsOtherTask = q := funext same
  rw [own, List.map_id, kinds] at perm
  exact perm

/-- The shortlist is the candidates of the picks. -/
lemma hardwareAwareShortlist_eq (positive : 0 < limit) (audit : Option Audit) :
    (hardwareAwareShortlist logs requirements limit hardware targetsOtherTask candidates audit).1 =
      ((selectEntries logs requirements limit hardware
        (shortlistEntries logs requirements hardware targetsOtherTask candidates) none).selected.take
          limit.toNat).map (·.candidate) := by
  rw [hardwareAwareShortlist, if_neg (not_le.mpr positive)]
  dsimp only
  rw [← selectEntries_plain logs requirements limit hardware _ (Option.map _ _)]
  rfl

/-- The picks of all stages as candidates: the plausible ones, and the ones that look too large. -/
lemma hardwareAwareShortlist_split (positive : 0 < limit) (audit : Option Audit) :
    ∃ front rest back left, (hardwareAwareShortlist logs requirements limit hardware targetsOtherTask candidates
        audit).1 = front ++ back ∧
      (front ++ rest).Perm (candidates.filter (!looksTooLarge requirements hardware ·)) ∧
      (back ++ left).Perm (candidates.filter (looksTooLarge requirements hardware)) ∧
      front.length = min limit.toNat (front ++ rest).length ∧
      back.length = min 2 (min (back ++ left).length (limit.toNat - front.length)) := by
  obtain ⟨front, rest, perm, length, selected⟩ := selectEntries_selected logs requirements limit hardware
    (shortlistEntries logs requirements hardware targetsOtherTask candidates) none
  have fits := @filter_shortlistEntries logs requirements hardware targetsOtherTask candidates _ _
    isPlausible_shortlistEntry
  have large : ((sortedBy fallbackKey ((shortlistEntries logs requirements hardware targetsOtherTask
      candidates).filter (!·.isPlausible))).map (·.candidate)).Perm
        (candidates.filter (looksTooLarge requirements hardware)) := by
    refine ((sortedBy_perm _ _).map _).trans (filter_shortlistEntries _ _ ?_)
    intro candidate
    rw [isPlausible_shortlistEntry, Bool.not_not]
  generalize sortedBy fallbackKey ((shortlistEntries logs requirements hardware targetsOtherTask
    candidates).filter (!·.isPlausible)) = others at selected large
  have total := perm.length_eq
  have within : (selectEntries logs requirements limit hardware
      (shortlistEntries logs requirements hardware targetsOtherTask candidates) none).selected.length ≤
        limit.toNat := by
    rw [selected, List.length_append, List.length_take]
    omega
  refine ⟨front.map (·.candidate), rest.map (·.candidate),
    (others.take (min maxTooLargeFallbacks (limit.toNat - front.length))).map (·.candidate),
    (others.drop (min maxTooLargeFallbacks (limit.toNat - front.length))).map (·.candidate), ?_, ?_, ?_, ?_, ?_⟩
  · rw [hardwareAwareShortlist_eq positive, List.take_of_length_le within, selected, List.map_append]
  · rw [← List.map_append]
    exact (perm.map _).trans fits
  · have whole := List.take_append_drop (min maxTooLargeFallbacks (limit.toNat - front.length)) others
    rw [← whole, List.map_append] at large
    exact large
  · rw [← List.map_append, List.length_map, List.length_map, total]
    exact length
  · rw [← List.map_append, List.take_append_drop, List.length_map, List.length_map, List.length_map,
      List.length_take, maxTooLargeFallbacks]
    omega

/-- The shortlist spends its budget. -/
lemma spendsBudget_of_positive (positive : 0 < limit) (differ : ReposDiffer candidates) (audit : Option Audit) :
    SpendsBudget requirements limit hardware candidates
      (hardwareAwareShortlist logs requirements limit hardware targetsOtherTask candidates audit).1 := by
  obtain ⟨front, rest, back, left, eq, fits, large, lengthF, lengthB⟩ :=
    @hardwareAwareShortlist_split logs requirements limit hardware targetsOtherTask candidates positive audit
  have nodup : candidates.Nodup := List.Nodup.of_map _ differ
  have isFit : ∀ candidate ∈ front ++ rest, candidate ∈ candidates ∧
      looksTooLarge requirements hardware candidate = false := by
    intro candidate mem
    obtain ⟨own, fit⟩ := List.mem_filter.mp (fits.subset mem)
    exact ⟨own, (Bool.not_eq_true' _).mp fit⟩
  have isLarge : ∀ candidate ∈ back ++ left, candidate ∈ candidates ∧
      looksTooLarge requirements hardware candidate = true :=
    fun candidate mem => List.mem_filter.mp (large.subset mem)
  rw [eq]
  constructor
  · rw [if_pos positive, ← fits.length_eq, ← large.length_eq, ← lengthF, ← lengthB, List.length_append]
  · intro candidate mem
    rcases List.mem_append.mp mem with mem | mem
    · exact (isFit candidate (List.mem_append_left _ mem)).1
    · exact (isLarge candidate (List.mem_append_left _ mem)).1
  · have fronts := (fits.nodup_iff.mpr (nodup.filter _)).sublist (List.sublist_append_left front rest)
    have backs := (large.nodup_iff.mpr (nodup.filter _)).sublist (List.sublist_append_left back left)
    rw [List.nodup_append]
    refine ⟨fronts, backs, ?_⟩
    intro a memA b memB same
    have fit := (isFit a (List.mem_append_left _ memA)).2
    rw [same, (isLarge b (List.mem_append_left _ memB)).2] at fit
    cases fit
  · refine ⟨front, back, rfl, ?_, ?_, ?_⟩
    · exact fun candidate mem => (isFit candidate (List.mem_append_left _ mem)).2
    · exact fun candidate mem => (isLarge candidate (List.mem_append_left _ mem)).2
    · intro some candidate mem fit
      -- a slot for a fallback is one that no plausible candidate was left for
      have slot := List.length_pos_of_ne_nil some
      have none : rest = [] := by
        rw [← List.length_eq_zero_iff]
        rw [List.length_append] at lengthF
        omega
      have own : candidate ∈ front ++ rest := by
        apply fits.symm.subset
        rw [List.mem_filter, fit]
        exact ⟨mem, rfl⟩
      rw [none, List.append_nil] at own
      exact own

/-- The shortlist spends its budget, and neither the order of the candidates nor an audit changes it. -/
theorem hardwareAwareShortlist_spendsBudget (differ : ReposDiffer candidates) (logs : Logarithms)
    (requirements : SearchRequirements) (limit : ℤ) (hardware : HardwareProfile)
    (targetsOtherTask : Option (SearchCandidate → Bool)) (audit : Option Audit) :
    SpendsBudget requirements limit hardware candidates
      (hardwareAwareShortlist logs requirements limit hardware targetsOtherTask candidates audit).1 ∧
    (∀ candidates', candidates'.Perm candidates →
      hardwareAwareShortlist logs requirements limit hardware targetsOtherTask candidates' audit =
        hardwareAwareShortlist logs requirements limit hardware targetsOtherTask candidates audit) ∧
    ∀ audit', (hardwareAwareShortlist logs requirements limit hardware targetsOtherTask candidates audit').1 =
      (hardwareAwareShortlist logs requirements limit hardware targetsOtherTask candidates audit).1 := by
  refine ⟨?_, ?_, ?_⟩
  · by_cases positive : 0 < limit
    · exact spendsBudget_of_positive positive differ audit
    · rw [hardwareAwareShortlist, if_pos (not_lt.mp positive)]
      refine ⟨(if_neg positive).symm, List.nil_subset _, List.nodup_nil, [], [], rfl, ?_, ?_, ?_⟩
      · exact fun candidate mem => absurd mem List.not_mem_nil
      · exact fun candidate mem => absurd mem List.not_mem_nil
      · exact fun some => absurd rfl some
  · intro candidates' perm
    rw [hardwareAwareShortlist, hardwareAwareShortlist, shortlistEntries_congr differ perm]
  · intro audit'
    by_cases positive : 0 < limit
    · rw [hardwareAwareShortlist_eq positive, hardwareAwareShortlist_eq positive]
    · rw [hardwareAwareShortlist, hardwareAwareShortlist, if_pos (not_lt.mp positive),
        if_pos (not_lt.mp positive)]

/-- A machine without GPU. -/
def officeMachine : HardwareProfile where
  os := "Linux"
  arch := "x86_64"
  cpu := {}
  memory := { totalBytes := 34359738368, availableBytes := 30064771072 }

/-- Two models that may fit it and two that do not. -/
def sizedCandidates : List SearchCandidate :=
  ["org/a-405b", "org/b-7b", "org/c-3b", "org/d-70b"].map fun repoId => { repoId := repoId }

/-- A request for code. -/
def codingRequest : SearchRequirements where
  useCase := .coding
  priority := .quality
  desiredContext := 4096

/-- A shortlist of three. -/
def sizedShortlist (candidates : List SearchCandidate) : List SearchCandidate × Option Audit :=
  hardwareAwareShortlist ⟨fun _ => 0, 23 / 5⟩ codingRequest 3 officeMachine none candidates none

/-- The shortlist takes both that may fit and one that does not, in whatever order they come. -/
theorem sizedCandidates_shortlisted :
    SpendsBudget codingRequest 3 officeMachine sizedCandidates (sizedShortlist sizedCandidates).1 ∧
      (sizedShortlist sizedCandidates).1.length = 3 ∧
      sizedShortlist sizedCandidates.reverse = sizedShortlist sizedCandidates := by
  obtain ⟨spends, ordered, -⟩ :=
    hardwareAwareShortlist_spendsBudget (by decide : ReposDiffer sizedCandidates) ⟨fun _ => 0, 23 / 5⟩
      codingRequest 3 officeMachine none none
  refine ⟨spends, ?_, ordered _ (List.reverse_perm _)⟩
  rw [sizedShortlist, spends.length]
  decide +kernel

end Shortlist

end Jaull.Discovery
