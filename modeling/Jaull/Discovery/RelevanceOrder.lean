import Jaull.Discovery.ShortlistBudget

/-!
# The order of relevance

Which candidates the shortlist may take at each of its picks. After the coverage stage a pick is of the best
group among the plausible candidates that are left, unless it explores. What was picked, and at which stage, is
followed through the stages as a list of picks; what is left is the plausible entries without the earlier picks.
-/

namespace Jaull.Discovery
open Jaull.Domain Jaull.Lib

section Honouring
variable (requirements : SearchRequirements) (hardware : HardwareProfile)

/-- The best group of the entries that are left: placement class, size unless small models are covered, task. -/
def InBestGroup (left : List ShortlistEntry) (entry : ShortlistEntry) : Prop :=
  entry ∈ left ∧ ∀ other ∈ left, groupKey hardware (coversSmall requirements hardware) entry ≤
    groupKey hardware (coversSmall requirements hardware) other

/-- What an exploration may pick outside the best group. -/
structure Explores (left : List ShortlistEntry) (entry : ShortlistEntry) : Prop where
  quality : requirements.priority = .quality
  largeOnly : coversSmall requirements hardware = false
  mem : entry ∈ left
  placed : entry.hint.mode = some .gpuResident ∨ entry.hint.mode = some .gpuOffload
  notSmall : entry.isSmall = false
  leads : ∀ leader, InBestGroup requirements hardware left leader →
    leader.hint.mode = some .gpuResident ∧ entry.otherTask = leader.otherTask

/-- What a stage may pick from the plausible entries that are left. -/
def Honours (left : List ShortlistEntry) (entry : ShortlistEntry) : Stage → Prop
  | .coverage => entry ∈ left
  | .relevance => InBestGroup requirements hardware left entry
  | .exploration => InBestGroup requirements hardware left entry ∨ Explores requirements hardware left entry
  | .tooLargeFallback => left = []

/-- Picks in their order, each with the stage that made it. -/
abbrev Picks :=
  List (ShortlistEntry × Stage)

/-- Every pick may be made from what the picks before it left. -/
def PicksHonour : List ShortlistEntry → Picks → Prop
  | _, [] => True
  | left, (entry, stage) :: picks =>
    Honours requirements hardware left entry stage ∧ PicksHonour (left.erase entry) picks

variable {requirements hardware} {left left' : List ShortlistEntry} {entry : ShortlistEntry} {stage : Stage}

/-- The best group is that of any order of the pool. -/
lemma InBestGroup.perm (best : InBestGroup requirements hardware left entry) (perm : left.Perm left') :
    InBestGroup requirements hardware left' entry := by
  obtain ⟨mem, least⟩ := best
  refine ⟨perm.subset mem, ?_⟩
  intro other mem
  exact least other (perm.symm.subset mem)

/-- So is what exploration may take. -/
lemma Explores.perm (explores : Explores requirements hardware left entry) (perm : left.Perm left') :
    Explores requirements hardware left' entry where
  quality := explores.quality
  largeOnly := explores.largeOnly
  mem := perm.subset explores.mem
  placed := explores.placed
  notSmall := explores.notSmall
  leads := fun leader best => explores.leads leader (best.perm perm.symm)

/-- What may be picked does not depend on the order of what is left. -/
lemma Honours.perm (honours : Honours requirements hardware left entry stage) (perm : left.Perm left') :
    Honours requirements hardware left' entry stage := by
  cases stage with
  | coverage => exact perm.subset honours
  | relevance => exact InBestGroup.perm honours perm
  | exploration =>
    rcases honours with best | explores
    · exact .inl (best.perm perm)
    · exact .inr (explores.perm perm)
  | tooLargeFallback =>
    change left = [] at honours
    subst honours
    exact List.nil_perm.mp perm

/-- Picks honour every order of the pool they were made from. -/
lemma PicksHonour.perm {picks : Picks} (honour : PicksHonour requirements hardware left picks)
    (perm : left.Perm left') : PicksHonour requirements hardware left' picks := by
  induction picks generalizing left left' with
  | nil => trivial
  | cons pick picks ih =>
    obtain ⟨first, later⟩ := honour
    exact ⟨first.perm perm, ih later (perm.erase pick.1)⟩

/-- Picks that go on from what the first ones left. -/
lemma PicksHonour.append {first later : Picks} (honour : PicksHonour requirements hardware left first)
    (goes : PicksHonour requirements hardware (left.diff (first.map Prod.fst)) later) :
    PicksHonour requirements hardware left (first ++ later) := by
  induction first generalizing left with
  | nil => exact goes
  | cons pick first ih =>
    obtain ⟨own, rest⟩ := honour
    refine ⟨own, ih rest ?_⟩
    rw [List.map_cons, List.diff_cons] at goes
    exact goes

/-- A pick may be made from what all the picks before it left. -/
lemma PicksHonour.split {before after : Picks}
    (honour : PicksHonour requirements hardware left (before ++ (entry, stage) :: after)) :
    Honours requirements hardware (left.diff (before.map Prod.fst)) entry stage := by
  induction before generalizing left with
  | nil => exact honour.1
  | cons pick before ih =>
    rw [List.map_cons, List.diff_cons]
    exact ih honour.2

/-- Entries that were taken out of what is left. -/
lemma perm_diff_of_append {taken rest : List ShortlistEntry} (perm : (taken ++ rest).Perm left) :
    rest.Perm (left.diff taken) := by
  induction taken generalizing left with
  | nil => exact perm
  | cons entry taken ih =>
    rw [List.diff_cons]
    exact ih (List.cons_perm_iff_perm_erase.mp perm).2

/-- The coverage stage picks anything that is left. -/
lemma picksHonour_coverage {taken rest : List ShortlistEntry} (perm : (taken ++ rest).Perm left) :
    PicksHonour requirements hardware left (taken.map (·, .coverage)) := by
  induction taken generalizing left with
  | nil => trivial
  | cons entry taken ih =>
    obtain ⟨mem, own⟩ := List.cons_perm_iff_perm_erase.mp perm
    exact ⟨mem, ih own⟩

/-- Fallbacks are picked when nothing is left. -/
lemma picksHonour_fallback (taken : List ShortlistEntry) :
    PicksHonour requirements hardware [] (taken.map (·, .tooLargeFallback)) := by
  induction taken with
  | nil => trivial
  | cons entry taken ih => exact ⟨rfl, ih⟩

end Honouring

section Groups
variable {requirements : SearchRequirements} {hardware : HardwareProfile} {coverSmall : Bool}
variable {remaining : List ShortlistEntry} {top entry other : ShortlistEntry}

/-- The placement classes tell the modes apart. -/
lemma modeOrder_injective (hardware : HardwareProfile) : Function.Injective (modeOrder · hardware) := by
  intro mode mode' same
  change modeOrder mode hardware = modeOrder mode' hardware at same
  rw [modeOrder.eq_def, modeOrder.eq_def] at same
  -- both tables number the modes apart
  split at same
  all_goals
    cases mode with
    | none => cases mode' with
      | none => rfl
      | some mode' => cases mode' <;> cases same
    | some mode => cases mode' with
      | none => cases mode <;> cases same
      | some mode' => cases mode <;> cases mode' <;> first | rfl | cases same

/-- The order of relevance goes by the groups first. -/
lemma groupKey_le_of_relevanceKey_le
    (le : relevanceKey hardware coverSmall entry ≤ relevanceKey hardware coverSmall other) :
    groupKey hardware coverSmall entry ≤ groupKey hardware coverSmall other := by
  rw [relevanceKey, relevanceKey, Prod.Lex.toLex_le_toLex, Prod.Lex.toLex_le_toLex, ShortlistEntry.scoreKey,
    ShortlistEntry.scoreKey, Prod.Lex.toLex_le_toLex] at le
  rw [groupKey, groupKey, Prod.Lex.toLex_le_toLex, Prod.Lex.toLex_le_toLex]
  rcases le with worse | ⟨mode, worse | ⟨small, worse | ⟨task, -⟩⟩⟩
  · exact .inl worse
  · exact .inr ⟨mode, .inl worse⟩
  · exact .inr ⟨mode, .inr ⟨small, le_of_lt worse⟩⟩
  · exact .inr ⟨mode, .inr ⟨small, le_of_eq task⟩⟩

/-- The leader of what remains, in the order of relevance, is of the best group. -/
lemma inBestGroup_of_leads {rest : List ShortlistEntry}
    (leads : sortedBy (relevanceKey hardware (coversSmall requirements hardware)) remaining = top :: rest) :
    InBestGroup requirements hardware remaining top := by
  have mem : top ∈ sortedBy (relevanceKey hardware (coversSmall requirements hardware)) remaining := by
    rw [leads]
    exact List.mem_cons_self
  refine ⟨mem_sortedBy.mp mem, ?_⟩
  intro other own
  exact groupKey_le_of_relevanceKey_le (sortedBy_head_le leads other own)

/-- The best group has one key. -/
lemma InBestGroup.groupKey_eq (best : InBestGroup requirements hardware remaining entry)
    (best' : InBestGroup requirements hardware remaining other) :
    groupKey hardware (coversSmall requirements hardware) entry =
      groupKey hardware (coversSmall requirements hardware) other :=
  le_antisymm (best.2 other best'.1) (best'.2 entry best.1)

/-- The group of a leader has the key of the leader. -/
lemma groupKey_eq_of_mem_relevanceGroup (mem : entry ∈ relevanceGroup hardware coverSmall remaining top) :
    groupKey hardware coverSmall entry = groupKey hardware coverSmall top := by
  rw [relevanceGroup, List.mem_filter, Bool.and_eq_true, Bool.and_eq_true, decide_eq_true_eq,
    decide_eq_true_eq] at mem
  obtain ⟨-, ⟨mode, small⟩, task⟩ := mem
  rw [groupKey, groupKey, mode, task]
  cases coverSmall with
  | true => rw [Bool.not_true, Bool.false_and, Bool.false_and]
  | false =>
    rw [Bool.false_or, decide_eq_true_eq] at small
    rw [small]

/-- The group of a best leader is of the best group. -/
lemma inBestGroup_of_mem_relevanceGroup (best : InBestGroup requirements hardware remaining top)
    (mem : entry ∈ relevanceGroup hardware (coversSmall requirements hardware) remaining top) :
    InBestGroup requirements hardware remaining entry := by
  refine ⟨relevanceGroup_subset mem, ?_⟩
  intro other own
  rw [groupKey_eq_of_mem_relevanceGroup mem]
  exact best.2 other own

/-- A group key tells the mode and the task of an entry. -/
lemma mode_task_of_groupKey_eq (same : groupKey hardware coverSmall entry = groupKey hardware coverSmall other) :
    entry.hint.mode = other.hint.mode ∧ entry.otherTask = other.otherTask := by
  have first := congrArg (fun key : ℕ ×ₗ Bool ×ₗ Bool => (ofLex key).1) same
  have last := congrArg (fun key : ℕ ×ₗ Bool ×ₗ Bool => (ofLex (ofLex key).2).2) same
  exact ⟨modeOrder_injective hardware first, last⟩

/-- What a round may explore is of the best group, or an alternative that a large model allows. -/
lemma honours_exploration (best : InBestGroup requirements hardware remaining top)
    (mem : entry ∈ explorationGroup (qualityScaleCoverage requirements hardware) remaining
      (relevanceGroup hardware (coversSmall requirements hardware) remaining top) top) :
    Honours requirements hardware remaining entry .exploration := by
  rw [explorationGroup] at mem
  split at mem
  · rename_i scale
    obtain ⟨quality, resident⟩ := scale
    rw [qualityScaleCoverage, Bool.and_eq_true, decide_eq_true_eq, Bool.not_eq_true'] at quality
    rw [List.mem_filter, Bool.and_eq_true, Bool.and_eq_true, Bool.or_eq_true, decide_eq_true_eq,
      decide_eq_true_eq, decide_eq_true_eq, Bool.not_eq_true'] at mem
    obtain ⟨own, ⟨placed, large⟩, task⟩ := mem
    refine .inr ⟨quality.1, quality.2, own, placed, large, ?_⟩
    intro leader best'
    obtain ⟨mode, task'⟩ := mode_task_of_groupKey_eq (best'.groupKey_eq best)
    exact ⟨mode.trans resident, task.trans task'.symm⟩
  · exact .inl (inBestGroup_of_mem_relevanceGroup best mem)

end Groups

section Runs
variable {requirements : SearchRequirements} {hardware : HardwareProfile} {logs : Logarithms}
variable {selection selection' selection'' : Selection} {picks picks' : Picks}

/-- What an audit notes of the picks. -/
def Audit.noted (audit : Audit) : List (String × Stage) :=
  audit.steps.map fun step => (step.repoId, step.stage)

/-- What an audit should note of a pick. -/
def notedPick (pick : ShortlistEntry × Stage) : String × Stage :=
  (pick.1.candidate.repoId, pick.2)

/-- The picks that lead from one selection to another, with the notes on them. -/
structure Adds (selection selection' : Selection) (picks : Picks) : Prop where
  selected : selection'.selected = selection.selected ++ picks.map Prod.fst
  noted : selection'.audit.map Audit.noted =
    selection.audit.map fun audit => audit.noted ++ picks.map notedPick

/-- Adding nothing. -/
lemma Adds.refl (selection : Selection) : Adds selection selection [] := by
  refine ⟨(List.append_nil _).symm, ?_⟩
  cases selection.audit with
  | none => rfl
  | some audit => exact congrArg some (List.append_nil _).symm

/-- Additions compose. -/
lemma Adds.trans (adds : Adds selection selection' picks) (adds' : Adds selection' selection'' picks') :
    Adds selection selection'' (picks ++ picks') := by
  constructor
  · rw [adds'.selected, adds.selected, List.map_append, List.append_assoc]
  · have later := adds'.noted
    have first := adds.noted
    rw [later]
    cases eq : selection.audit with
    | none =>
      rw [eq, Option.map_none, Option.map_eq_none_iff] at first
      rw [first]
      rfl
    | some audit =>
      rw [eq, Option.map_some, Option.map_eq_some_iff] at first
      obtain ⟨audit', eq', noted⟩ := first
      rw [eq', Option.map_some, Option.map_some, noted, List.map_append, List.append_assoc]

/-- A pick is remembered and noted. -/
lemma adds_recordPick (selection : Selection) (entry : ShortlistEntry) (stage : Stage)
    (decision : Option DecisionAudit) :
    Adds selection ((selection.remember entry).recordPick entry stage decision) [(entry, stage)] := by
  refine ⟨rfl, ?_⟩
  rw [Selection.recordPick, Selection.remember]
  cases selection.audit with
  | none => rfl
  | some audit =>
    rw [Option.map_some, Option.map_some, Option.map_some, Audit.noted, Audit.noted, List.map_append]
    rfl

/-- The versions that are remembered are neither picks nor notes. -/
lemma adds_recordPick_version (selection : Selection) (entry : ShortlistEntry) (stage : Stage)
    (decision : Option DecisionAudit) :
    Adds selection (((selection.addVersion entry).remember entry).recordPick entry stage decision)
      [(entry, stage)] := by
  obtain ⟨selected, noted⟩ := adds_recordPick (selection.addVersion entry) entry stage decision
  exact ⟨selected, noted⟩

/-- Notes on the relevance stage are not notes on a pick. -/
lemma Adds.noteRelevance (adds : Adds selection selection' picks) (notes : RelevanceAudit) :
    Adds selection (selection'.noteRelevance notes) picks := by
  obtain ⟨selected, noted⟩ := adds
  refine ⟨selected, ?_⟩
  rw [← noted, Selection.noteRelevance]
  cases selection'.audit with
  | none => rfl
  | some audit => rfl

end Runs

section CoverageRun
variable (hardware : HardwareProfile) (coverSmall : Bool) (limit : ℕ)

/-- Covering one bucket adds the pick it took. -/
lemma coverPick_adds (selection : Selection) (bucket : List ShortlistEntry) :
    ∃ taken : List ShortlistEntry, Adds selection (coverPick selection bucket).1 (taken.map (·, .coverage)) := by
  rw [coverPick]
  cases popBucketCandidate bucket selection.redundancy selection.families with
  | none => exact ⟨[], Adds.refl selection⟩
  | some popped => exact ⟨[popped.1], adds_recordPick_version selection popped.1 .coverage none⟩

/-- So does the bucket's whole turn, guards included. -/
lemma coverBucket_adds (bestClass : Option ℕ) (larger : Bool) (selection : Selection)
    (bucket : List ShortlistEntry) :
    ∃ taken : List ShortlistEntry,
      Adds selection (coverBucket hardware coverSmall bestClass larger selection bucket).1
        (taken.map (·, .coverage)) := by
  rw [coverBucket.eq_def]
  split
  · exact ⟨[], Adds.refl selection⟩
  · dsimp only
    split
    · split
      · exact ⟨[], Adds.refl selection⟩
      · exact coverPick_adds selection _
    · split
      · exact ⟨[], Adds.refl selection⟩
      · exact coverPick_adds selection _

/-- The coverage stage adds picks of its own. -/
lemma cover_adds (bestClass : Option ℕ) (larger : Bool) (buckets : List (List ShortlistEntry))
    (selection : Selection) :
    ∃ taken : List ShortlistEntry,
      Adds selection (cover hardware coverSmall limit bestClass larger buckets selection).1
        (taken.map (·, .coverage)) := by
  induction buckets generalizing selection with
  | nil => exact ⟨[], Adds.refl selection⟩
  | cons bucket buckets ih =>
    rw [cover]
    split
    · exact ⟨[], Adds.refl selection⟩
    · obtain ⟨first, adds⟩ := coverBucket_adds hardware coverSmall bestClass larger selection bucket
      obtain ⟨later, adds'⟩ := ih (coverBucket hardware coverSmall bestClass larger selection bucket).1
      refine ⟨first ++ later, ?_⟩
      rw [List.map_append]
      exact adds.trans adds'

end CoverageRun

section RelevanceRun
variable {requirements : SearchRequirements} {hardware : HardwareProfile} {logs : Logarithms}
variable {remaining : List ShortlistEntry} {selection : Selection}

/-- A round picks what its stage may pick. -/
lemma relevanceRound_honours {explorationLeft : ℕ} {round : RelevanceRound}
    (eq : relevanceRound hardware (coversSmall requirements hardware) logs
      (qualityScaleCoverage requirements hardware) explorationLeft
      (sortedBy (relevanceKey hardware (coversSmall requirements hardware)) remaining) selection = some round) :
    Honours requirements hardware remaining round.chosen (if round.explored then .exploration else .relevance) ∧
      (round.explored = true → 0 < explorationLeft) := by
  have sorted := sortedBy_perm (relevanceKey hardware (coversSmall requirements hardware)) remaining
  obtain ⟨top, rest, leads, chosen⟩ := relevanceRound_eq_some eq
  have best := (inBestGroup_of_leads leads).perm sorted.symm
  rcases chosen with ⟨calm, mem⟩ | ⟨explored, left, mem⟩
  · rw [calm]
    have honours : Honours requirements hardware _ round.chosen .relevance :=
      inBestGroup_of_mem_relevanceGroup best mem
    exact ⟨honours.perm sorted, fun explored => absurd explored Bool.false_ne_true⟩
  · rw [explored]
    exact ⟨(honours_exploration best mem).perm sorted, fun _ => left⟩

/-- The relevance stage picks by relevance, and explores within its budget. -/
lemma relevance_honours (slots explorationLeft : ℕ) (remaining : List ShortlistEntry) (selection : Selection) :
    ∃ picks, Adds selection (relevance hardware (coversSmall requirements hardware) logs
        (qualityScaleCoverage requirements hardware) slots explorationLeft remaining selection) picks ∧
      PicksHonour requirements hardware remaining picks ∧ Stage.coverage ∉ picks.map Prod.snd ∧
        (picks.map Prod.snd).count .exploration ≤ explorationLeft := by
  induction slots generalizing explorationLeft remaining selection with
  | zero => exact ⟨[], Adds.refl selection, trivial, List.not_mem_nil, Nat.zero_le _⟩
  | succ slots ih =>
    have sorted := sortedBy_perm (relevanceKey hardware (coversSmall requirements hardware)) remaining
    rw [relevance]
    dsimp only
    cases eq : relevanceRound hardware (coversSmall requirements hardware) logs
        (qualityScaleCoverage requirements hardware) explorationLeft
        (sortedBy (relevanceKey hardware (coversSmall requirements hardware)) remaining) selection with
    | none => exact ⟨[], Adds.refl selection, trivial, List.not_mem_nil, Nat.zero_le _⟩
    | some round =>
      obtain ⟨honours, positive⟩ := relevanceRound_honours eq
      obtain ⟨picks, adds, honour, none, count⟩ := ih
        (if round.explored then explorationLeft - 1 else explorationLeft)
        ((sortedBy (relevanceKey hardware (coversSmall requirements hardware)) remaining).erase round.chosen)
        (((selection.addVersion round.chosen).remember round.chosen).recordPick round.chosen
          (if round.explored then .exploration else .relevance) (some round.decision))
      refine ⟨(round.chosen, if round.explored then .exploration else .relevance) :: picks,
        (adds_recordPick_version selection round.chosen _ _).trans adds,
        ⟨honours, honour.perm (sorted.erase round.chosen)⟩, ?_, ?_⟩
      · rw [List.map_cons, List.mem_cons, not_or]
        refine ⟨?_, none⟩
        cases round.explored <;> exact Stage.noConfusion
      · rw [List.map_cons, List.count_cons]
        cases explored : round.explored with
        | false =>
          rw [explored] at count
          exact count
        | true =>
          rw [explored] at count
          -- an exploration uses up one of its places
          have left := positive explored
          change _ ≤ explorationLeft - 1 at count
          change _ + 1 ≤ explorationLeft
          omega

end RelevanceRun

section FallbackRun

/-- The fallbacks add picks of their own. -/
lemma fallBack_adds (limit : ℕ) (entries : List ShortlistEntry) (selection : Selection) :
    ∃ taken : List ShortlistEntry,
      Adds selection (fallBack limit entries selection) (taken.map (·, .tooLargeFallback)) := by
  induction entries generalizing selection with
  | nil => exact ⟨[], Adds.refl selection⟩
  | cons entry entries ih =>
    rw [fallBack]
    split
    · exact ⟨[], Adds.refl selection⟩
    · obtain ⟨taken, adds⟩ := ih ((selection.remember entry).recordPick entry .tooLargeFallback none)
      exact ⟨entry :: taken, (adds_recordPick selection entry .tooLargeFallback none).trans adds⟩

end FallbackRun

section Stages
variable {requirements : SearchRequirements} {hardware : HardwareProfile} {logs : Logarithms} {limit : ℤ}

/-- Picks that come stage after stage, and explore within a budget. -/
structure StagesInOrder (limit : ℤ) (stages : List Stage) : Prop where
  coverage_first : ∃ count later, stages = List.replicate count .coverage ++ later ∧ Stage.coverage ∉ later
  explorations : stages.count .exploration ≤ limit.toNat / 2

/-- At most half the places go to exploration. -/
lemma explorationBudget_le : explorationBudget requirements limit hardware ≤ limit.toNat / 2 := by
  rw [explorationBudget]
  split <;> omega

/-- The picks of the first two stages honour relevance. -/
lemma relevanceStage_honours (entries : List ShortlistEntry) (audit : Option Audit) :
    ∃ picks, Adds { audit := audit } (relevanceStage logs requirements limit hardware entries audit) picks ∧
      PicksHonour requirements hardware (entries.filter (·.isPlausible)) picks ∧
        StagesInOrder limit (picks.map Prod.snd) := by
  obtain ⟨moved, -⟩ := coverageStage_perm requirements limit hardware entries audit
  -- coverage takes first, and relevance goes on with what is left
  obtain ⟨taken, covers⟩ : ∃ taken : List ShortlistEntry, Adds { audit := audit }
      (coverageStage requirements limit hardware entries audit).1 (taken.map (·, .coverage)) :=
    cover_adds _ _ _ _ _ _ _
  have own : (coverageStage requirements limit hardware entries audit).1.selected = taken := by
    rw [covers.selected, List.map_map]
    exact List.map_id taken
  rw [own] at moved
  obtain ⟨picks, relevant, honour, none, count⟩ := @relevance_honours requirements hardware logs
    (limit.toNat - (coverageStage requirements limit hardware entries audit).1.selected.length)
    (explorationBudget requirements limit hardware)
    (coverageStage requirements limit hardware entries audit).2.flatten
    ((coverageStage requirements limit hardware entries audit).1.noteRelevance
      { coverSmall := coversSmall requirements hardware
        bestPlacementClass := bestClassOf hardware (shortlistBuckets hardware
          (coversSmall requirements hardware) (entries.filter (·.isPlausible)))
        qualityScaleCoverage := qualityScaleCoverage requirements hardware
        explorationBudget := explorationBudget requirements limit hardware
        maxExplorationScoreGap := logs.log100 })
  have stages : (taken.map (·, Stage.coverage) ++ picks).map Prod.snd =
      List.replicate taken.length .coverage ++ picks.map Prod.snd := by
    rw [List.map_append, List.map_map]
    congr 1
    exact List.map_const'
  refine ⟨taken.map (·, Stage.coverage) ++ picks, (covers.noteRelevance _).trans relevant, ?_, ?_⟩
  · apply (picksHonour_coverage moved).append
    rw [List.map_map]
    apply honour.perm
    have left := perm_diff_of_append moved
    rw [← List.map_id taken] at left
    exact left
  · rw [stages]
    refine ⟨⟨taken.length, picks.map Prod.snd, rfl, none⟩, ?_⟩
    rw [List.count_append, List.count_replicate]
    exact (Nat.zero_add _).le.trans (count.trans explorationBudget_le)

/-- Nothing is left of the plausible entries when a fallback is picked. -/
lemma left_of_fallback {entries : List ShortlistEntry} {audit : Option Audit} {taken : List ShortlistEntry}
    {picks : Picks}
    (adds : Adds { audit := audit } (relevanceStage logs requirements limit hardware entries audit) picks)
    (fallbacks : Adds (relevanceStage logs requirements limit hardware entries audit)
      (selectEntries logs requirements limit hardware entries audit) (taken.map (·, .tooLargeFallback)))
    (some : taken ≠ []) : (entries.filter (·.isPlausible)).diff (picks.map Prod.fst) = [] := by
  obtain ⟨rest, perm, length⟩ := relevanceStage_selected logs requirements limit hardware entries audit
  have selected := fallbacks.selected
  rw [selectEntries, fallBack_selected] at selected
  have takes := List.append_cancel_left selected
  rw [List.map_map] at takes
  change _ = taken.map id at takes
  rw [List.map_id] at takes
  have free : limit.toNat - (relevanceStage logs requirements limit hardware entries audit).selected.length ≠ 0 := by
    intro full
    rw [full, List.take_zero] at takes
    exact some takes.symm
  have total := perm.length_eq
  rw [List.length_append] at total
  have none : rest = [] := by
    rw [← List.length_eq_zero_iff]
    omega
  have left := perm_diff_of_append perm
  have own : (relevanceStage logs requirements limit hardware entries audit).selected = picks.map Prod.fst :=
    adds.selected
  rw [own, none] at left
  exact List.nil_perm.mp left

/-- The picks of all stages honour relevance. -/
lemma selectEntries_honours (entries : List ShortlistEntry) (audit : Option Audit) :
    ∃ picks, Adds { audit := audit } (selectEntries logs requirements limit hardware entries audit) picks ∧
      PicksHonour requirements hardware (entries.filter (·.isPlausible)) picks ∧
        StagesInOrder limit (picks.map Prod.snd) := by
  obtain ⟨picks, adds, honour, ⟨count, later, stages, none⟩, within⟩ :=
    @relevanceStage_honours requirements hardware logs limit entries audit
  obtain ⟨taken, fallbacks⟩ : ∃ taken : List ShortlistEntry,
      Adds (relevanceStage logs requirements limit hardware entries audit)
        (selectEntries logs requirements limit hardware entries audit) (taken.map (·, .tooLargeFallback)) :=
    fallBack_adds _ _ _
  have last : (taken.map (·, Stage.tooLargeFallback)).map Prod.snd =
      List.replicate taken.length .tooLargeFallback := by
    rw [List.map_map]
    exact List.map_const'
  refine ⟨_, adds.trans fallbacks, honour.append ?_, ?_⟩
  · by_cases empty : taken = []
    · subst empty
      trivial
    · rw [left_of_fallback adds fallbacks empty]
      exact picksHonour_fallback taken
  · rw [List.map_append, last]
    refine ⟨⟨count, later ++ List.replicate taken.length .tooLargeFallback, ?_, ?_⟩, ?_⟩
    · rw [stages, List.append_assoc]
    · rw [List.mem_append, not_or]
      exact ⟨none, fun mem => Stage.noConfusion (List.eq_of_mem_replicate mem)⟩
    · rw [List.count_append, List.count_replicate]
      exact within

end Stages

section Shortlist
variable {logs : Logarithms} {requirements : SearchRequirements} {limit : ℤ} {hardware : HardwareProfile}
variable {targetsOtherTask : Option (SearchCandidate → Bool)} {candidates : List SearchCandidate}

/-- The plausible candidates that are left when some were picked, as entries. -/
def leftAfter (logs : Logarithms) (requirements : SearchRequirements) (hardware : HardwareProfile)
    (targetsOtherTask : Option (SearchCandidate → Bool)) (candidates before : List SearchCandidate) :
    List ShortlistEntry :=
  ((candidates.filter (!looksTooLarge requirements hardware ·)).diff before).map
    (shortlistEntry logs requirements hardware targetsOtherTask)

/-- A shortlist, with the stage of each of its picks, that honours relevance after the coverage stage. -/
structure HonoursRelevance (logs : Logarithms) (requirements : SearchRequirements) (limit : ℤ)
    (hardware : HardwareProfile) (targetsOtherTask : Option (SearchCandidate → Bool))
    (candidates shortlist : List SearchCandidate) (stages : List Stage) : Prop where
  length : stages.length = shortlist.length
  order : StagesInOrder limit stages
  honours : ∀ before pick after stage, shortlist = before ++ pick :: after → stages[before.length]? = some stage →
    Honours requirements hardware (leftAfter logs requirements hardware targetsOtherTask candidates before)
      (shortlistEntry logs requirements hardware targetsOtherTask pick) stage

lemma shortlistEntry_injective :
    Function.Injective (shortlistEntry logs requirements hardware targetsOtherTask) :=
  fun _ _ same => congrArg ShortlistEntry.candidate same

/-- Picks that honour relevance, as candidates. -/
lemma honoursRelevance_of_picks {picks : Picks}
    (own : ∀ pick ∈ picks, shortlistEntry logs requirements hardware targetsOtherTask pick.1.candidate = pick.1)
    (honour : PicksHonour requirements hardware ((candidates.filter (!looksTooLarge requirements hardware ·)).map
      (shortlistEntry logs requirements hardware targetsOtherTask)) picks)
    (order : StagesInOrder limit (picks.map Prod.snd)) :
    HonoursRelevance logs requirements limit hardware targetsOtherTask candidates
      (picks.map (·.1.candidate)) (picks.map Prod.snd) := by
  refine ⟨?_, order, ?_⟩
  · rw [List.length_map, List.length_map]
  · intro before pick after stage split at'
    obtain ⟨first, later, rfl, before', later'⟩ := List.map_eq_append_iff.mp split
    obtain ⟨⟨entry, stage'⟩, last, rfl, pick', -⟩ := List.map_eq_cons_iff.mp later'
    have entries : first.map Prod.fst =
        before.map (shortlistEntry logs requirements hardware targetsOtherTask) := by
      rw [← before', List.map_map]
      exact List.map_congr_left fun pick mem => (own pick (List.mem_append_left _ mem)).symm
    have mine := own (entry, stage') (List.mem_append_right _ List.mem_cons_self)
    have same : stage' = stage := by
      rw [List.map_append, ← before', List.length_map,
        List.getElem?_append_right (by rw [List.length_map]), List.length_map, Nat.sub_self] at at'
      exact Option.some.inj at'
    rw [← same, ← pick', mine, leftAfter, List.map_diff shortlistEntry_injective, ← entries]
    exact honour.split

/-- The picks of a positive limit are entries of candidates, and no more than the limit. -/
lemma selectEntries_own (audit : Option Audit) :
    (∀ entry ∈ (selectEntries logs requirements limit hardware
        (shortlistEntries logs requirements hardware targetsOtherTask candidates) audit).selected,
      shortlistEntry logs requirements hardware targetsOtherTask entry.candidate = entry) ∧
    (selectEntries logs requirements limit hardware
      (shortlistEntries logs requirements hardware targetsOtherTask candidates) audit).selected.length ≤
        limit.toNat := by
  obtain ⟨front, rest, perm, length, selected⟩ := selectEntries_selected logs requirements limit hardware
    (shortlistEntries logs requirements hardware targetsOtherTask candidates) audit
  rw [selected]
  constructor
  · intro entry mem
    have listed : entry ∈ shortlistEntries logs requirements hardware targetsOtherTask candidates := by
      rcases List.mem_append.mp mem with mem | mem
      · exact (List.mem_filter.mp (perm.subset (List.mem_append_left _ mem))).1
      · exact (List.mem_filter.mp (mem_sortedBy.mp (List.mem_of_mem_take mem))).1
    obtain ⟨candidate, -, rfl⟩ := List.mem_map.mp ((shortlistEntries_perm candidates).subset listed)
    rfl
  · rw [List.length_append, List.length_take]
    omega

/-- After the coverage stage each pick honours relevance, and the audit tells the stages. -/
theorem hardwareAwareShortlist_honoursRelevance (logs : Logarithms) (requirements : SearchRequirements)
    (limit : ℤ) (hardware : HardwareProfile) (targetsOtherTask : Option (SearchCandidate → Bool))
    (candidates : List SearchCandidate) (start : Audit) (audit : Option Audit) :
    ∃ noted, (hardwareAwareShortlist logs requirements limit hardware targetsOtherTask candidates
        (some start)).2 = some noted ∧
      noted.steps.map (·.repoId) = (hardwareAwareShortlist logs requirements limit hardware targetsOtherTask
        candidates audit).1.map (·.repoId) ∧
      HonoursRelevance logs requirements limit hardware targetsOtherTask candidates
        (hardwareAwareShortlist logs requirements limit hardware targetsOtherTask candidates audit).1
        (noted.steps.map (·.stage)) := by
  by_cases positive : 0 < limit
  · have shortlist := @hardwareAwareShortlist_eq logs requirements limit hardware targetsOtherTask candidates
      positive audit
    rw [hardwareAwareShortlist, if_neg (not_le.mpr positive)]
    dsimp only
    rw [Option.map_some, Option.map_some]
    generalize listed : Audit.mk _ _ _ _ _ _ = begun
    -- every pick of the selection, with the stage that made it
    obtain ⟨picks, adds, honour, order⟩ := @selectEntries_honours requirements hardware logs limit
      (shortlistEntries logs requirements hardware targetsOtherTask candidates) (some begun)
    obtain ⟨own, within⟩ := @selectEntries_own logs requirements limit hardware targetsOtherTask candidates
      (some begun)
    have fresh : begun.noted = [] := by
      rw [← listed]
      rfl
    -- what is selected does not depend on the audit
    have plain := selectEntries_plain logs requirements limit hardware
      (shortlistEntries logs requirements hardware targetsOtherTask candidates) (some begun)
    rw [← plain] at shortlist
    change _ = ((selectEntries logs requirements limit hardware
      (shortlistEntries logs requirements hardware targetsOtherTask candidates) (some begun)).selected.take
        limit.toNat).map (·.candidate) at shortlist
    have selected : (selectEntries logs requirements limit hardware
        (shortlistEntries logs requirements hardware targetsOtherTask candidates) (some begun)).selected =
          picks.map Prod.fst := adds.selected
    rw [List.take_of_length_le within, selected, List.map_map] at shortlist
    obtain ⟨noted, eq, notes⟩ := Option.map_eq_some_iff.mp adds.noted
    change noted.noted = begun.noted ++ picks.map notedPick at notes
    rw [fresh, List.nil_append] at notes
    rw [shortlist]
    refine ⟨noted, eq, ?_, ?_⟩
    · have ids := congrArg (List.map Prod.fst) notes
      rw [Audit.noted, List.map_map, List.map_map] at ids
      rw [List.map_map]
      exact ids
    · have stages := congrArg (List.map Prod.snd) notes
      rw [Audit.noted, List.map_map, List.map_map] at stages
      change noted.steps.map (·.stage) = picks.map Prod.snd at stages
      rw [stages]
      refine honoursRelevance_of_picks ?_ (honour.perm ?_) order
      · intro pick mem
        apply own
        rw [selected]
        exact List.mem_map_of_mem mem
      · have kinds : (·.isPlausible) ∘ shortlistEntry logs requirements hardware targetsOtherTask =
            (!looksTooLarge requirements hardware ·) := funext isPlausible_shortlistEntry
        rw [← kinds, ← List.filter_map]
        exact (shortlistEntries_perm candidates).filter _
  · have nonpos := not_lt.mp positive
    rw [hardwareAwareShortlist, hardwareAwareShortlist, if_pos nonpos, if_pos nonpos]
    refine ⟨_, rfl, rfl, rfl, ⟨⟨0, [], rfl, List.not_mem_nil⟩, Nat.zero_le _⟩, ?_⟩
    intro before pick after stage split
    cases before <;> cases split

end Shortlist

end Jaull.Discovery
