import Mathlib.Algebra.Order.Ring.Rat
import Mathlib.Data.Prod.Lex
import Jaull.Discovery.Hints
import Jaull.Lib.Grouping
import Jaull.Lib.StableSort

/-!
# The hardware-aware shortlist

Port of `_hardware_aware_shortlist` of `jaull/discovery/candidate_filter.py`: which candidates are worth an
inspection. It takes one of each size class of the best placement class, then the most relevant ones with
some exploration, and then a few that look too large. Whether a candidate targets another task is a function
of the caller, as in the source. The sets of what was selected are the lists of what was added to them.
-/

namespace Jaull.Discovery
open Jaull.Domain Jaull.Lib Jaull.Text

/-- Python `_ShortlistEntry`. -/
structure ShortlistEntry where
  candidate : SearchCandidate
  hint : CoarsePlacementHint
  score : ℚ
  otherTask : Bool := false
  deriving DecidableEq, Repr

/-- What makes two entries redundant. -/
abbrev RedundancyKey :=
  String × String × Option HardwareFitMode

/-- A model's version numbers. -/
abbrev VersionKey :=
  String × Option ℚ

namespace ShortlistEntry

/-- The parameter count of an entry, in billions. -/
def billions (entry : ShortlistEntry) : Option ℚ :=
  parameterCountHint entry.candidate.repoId

/-- Python `_version_key`. -/
def versionKey (entry : ShortlistEntry) : VersionKey :=
  (familyKey entry.candidate, entry.billions)

/-- Python `_redundancy_key`. -/
def redundancyKey (entry : ShortlistEntry) : RedundancyKey :=
  (familyKey entry.candidate, scaleBucket entry.billions, entry.hint.mode)

/-- Python `_is_small`. -/
def isSmall (entry : ShortlistEntry) : Bool :=
  scaleBucket entry.billions ∈ ["tiny", "small"]

/-- The key of the entries and of the buckets: this task first, then the best score. -/
def scoreKey (entry : ShortlistEntry) : Bool ×ₗ ℚ ×ₗ String :=
  toLex (entry.otherTask, toLex (-entry.score, entry.candidate.repoId))

end ShortlistEntry

section Audit

/-- The stage of a pick. -/
inductive Stage
  | coverage | exploration | relevance | tooLargeFallback
  deriving DecidableEq, Repr

/-- The stage's text. -/
def Stage.value : Stage → String
  | .coverage => "coverage"
  | .exploration => "exploration"
  | .relevance => "relevance"
  | .tooLargeFallback => "too_large_fallback"

/-- What a round notes of its exploration. -/
structure ExplorationAudit where
  explorationGroup : List String
  explorationScoreAxis : String
  explorationReference : String
  explorationScoreFloor : ℚ
  eligibleNovelCandidates : List String
  deriving DecidableEq, Repr

/-- What a round of the relevance stage notes. -/
structure DecisionAudit where
  relevanceLeader : String
  relevanceGroup : List String
  explorationLeft : ℕ
  selectedVersions : List VersionKey
  exploration : Option ExplorationAudit
  deriving DecidableEq, Repr

/-- A step of an audit. -/
structure AuditStep where
  position : ℕ
  repoId : String
  stage : Stage
  decision : Option DecisionAudit := none
  deriving DecidableEq, Repr

/-- What an audit says of a candidate. -/
structure CandidateAudit where
  input : SearchCandidate
  otherTask : Bool
  textExecutionSignal : Bool
  parameterBillionsHint : Option ℚ
  familyKey : String
  mode : Option HardwareFitMode
  reason : String
  quantizationHint : Option String
  scoreComponents : List (String × ℚ)
  fitBonus : ℚ
  score : ℚ
  deriving DecidableEq, Repr

/-- What an audit says of the relevance stage. -/
structure RelevanceAudit where
  coverSmall : Bool
  bestPlacementClass : Option ℕ
  qualityScaleCoverage : Bool
  explorationBudget : ℕ
  maxExplorationScoreGap : ℚ
  deriving DecidableEq, Repr

/-- The audit dictionary, version 1. -/
structure Audit where
  limit : ℤ
  hardware : HardwareProfile
  requirements : SearchRequirements
  candidates : List (String × CandidateAudit) := []
  relevance : Option RelevanceAudit := none
  steps : List AuditStep := []
  deriving DecidableEq, Repr

end Audit

section Selecting

/-- What was selected so far, and the audit of it. -/
structure Selection where
  selected : List ShortlistEntry := []
  redundancy : List RedundancyKey := []
  families : List String := []
  versions : List VersionKey := []
  audit : Option Audit := none
  deriving DecidableEq, Repr

/-- Python `_remember_selection`. -/
def Selection.remember (selection : Selection) (entry : ShortlistEntry) : Selection :=
  { selection with
    selected := selection.selected ++ [entry]
    redundancy := entry.redundancyKey :: selection.redundancy
    families := familyKey entry.candidate :: selection.families }

/-- `selected_versions.add`. -/
def Selection.addVersion (selection : Selection) (entry : ShortlistEntry) : Selection :=
  { selection with versions := entry.versionKey :: selection.versions }

/-- Python `record_pick`. -/
def Selection.recordPick (selection : Selection) (entry : ShortlistEntry) (stage : Stage)
    (decision : Option DecisionAudit) : Selection :=
  let step : AuditStep :=
    { position := selection.selected.length
      repoId := entry.candidate.repoId
      stage := stage
      decision := decision }
  { selection with
    audit := selection.audit.map fun audit => { audit with steps := audit.steps ++ [step] } }

/-- Python `_SCORE_TIE_EPSILON`. -/
def scoreTieEpsilon : ℚ :=
  1 / 10 ^ 9

/-- Python `_MAX_TOO_LARGE_FALLBACKS`. -/
def maxTooLargeFallbacks : ℕ :=
  2

/-- Python `_pop_bucket_candidate`: the entry, and the bucket without it. -/
def popBucketCandidate (bucket : List ShortlistEntry) (redundancy : List RedundancyKey)
    (families : List String) : Option (ShortlistEntry × List ShortlistEntry) :=
  match bucket with
  | [] => none
  | first :: _ =>
    let tied (entry : ShortlistEntry) : Bool :=
      first.score - scoreTieEpsilon ≤ entry.score && entry.otherTask = first.otherTask
    let fresh (entry : ShortlistEntry) : Bool := entry.redundancyKey ∉ redundancy
    let unseen (entry : ShortlistEntry) : Bool := familyKey entry.candidate ∉ families
    let index :=
      match bucket.findIdx? fun entry => tied entry && fresh entry && unseen entry with
      | some index => index
      | none =>
        match bucket.findIdx? fun entry => tied entry && fresh entry with
        | some index => index
        -- The first entry ties with itself.
        | none => 0
    bucket[index]?.map fun entry => (entry, bucket.eraseIdx index)

end Selecting

section Stages
variable (hardware : HardwareProfile) (coverSmall : Bool) (limit : ℕ)

/-- The scale of an entry among the buckets. -/
def bucketScale (entry : ShortlistEntry) : ℕ :=
  let scale := scaleOrder entry.billions
  if coverSmall then
    2 * scale + if entry.billions.any fun billions =>
      smallModelCoverageSplitBillions < billions && billions ≤ largerThanSmallBillions then 1 else 0
  else scale

/-- The key of a bucket. -/
def bucketKey (entry : ShortlistEntry) : ℕ ×ₗ ℕ :=
  toLex (modeOrder entry.hint.mode hardware, bucketScale coverSmall entry)

/-- Python `_group_shortlist_buckets`. -/
def groupShortlistBuckets (entries : List ShortlistEntry) : List (List ShortlistEntry) :=
  (sortedBy Prod.fst (grouped (fun entry => some (bucketKey hardware coverSmall entry)) entries)).map
    Prod.snd

/-- The order of the buckets where small models are covered: a larger candidate first. -/
def coverKey (bucket : List ShortlistEntry) : ℕ ×ₗ Bool :=
  match bucket with
  | [] => toLex (0, false)
  | leader :: _ => toLex (modeOrder leader.hint.mode hardware, leader.isSmall)

/-- The buckets of the plausible entries, in the order in which they are covered. -/
def shortlistBuckets (plausibleEntries : List ShortlistEntry) : List (List ShortlistEntry) :=
  let buckets := (groupShortlistBuckets hardware coverSmall plausibleEntries).map
    (sortedBy ShortlistEntry.scoreKey)
  if coverSmall then sortedBy (coverKey hardware) buckets else buckets

/-- The placement class of a bucket, where a size is known. -/
def placedClass (bucket : List ShortlistEntry) : Option ℕ :=
  bucket.head?.bind fun leader => leader.hint.mode.map fun mode => modeOrder (some mode) hardware

/-- The best placement class of the buckets. -/
def bestClassOf (buckets : List (List ShortlistEntry)) : Option ℕ :=
  (buckets.filterMap (placedClass hardware)).min?

/-- Whether the best class has a bucket of more than small models. -/
def largerInBestClass (buckets : List (List ShortlistEntry)) : Bool :=
  buckets.any fun bucket =>
    (placedClass hardware bucket).isSome && placedClass hardware bucket = bestClassOf hardware buckets &&
      bucket.head?.any fun leader => !leader.isSmall

/-- The order of a bucket of unknown sizes. -/
def unknownKey (entry : ShortlistEntry) : Bool ×ₗ Bool ×ₗ ℚ ×ₗ String :=
  toLex (!hasTextExecutionSignal entry.candidate, entry.scoreKey)

/-- The pick of the coverage stage from a bucket. -/
def coverPick (selection : Selection) (bucket : List ShortlistEntry) :
    Selection × List ShortlistEntry :=
  match popBucketCandidate bucket selection.redundancy selection.families with
  | none => (selection, bucket)
  | some (picked, rest) =>
    (((selection.addVersion picked).remember picked).recordPick picked .coverage none, rest)

/-- One bucket of the coverage stage. -/
def coverBucket (bestClass : Option ℕ) (larger : Bool) (selection : Selection)
    (bucket : List ShortlistEntry) : Selection × List ShortlistEntry :=
  match bucket with
  | [] => (selection, [])
  | leader :: _ =>
    let skipsSmall (leader : ShortlistEntry) : Bool := larger && !coverSmall && leader.isSmall
    match leader.hint.mode with
    | none =>
      let bucket := sortedBy unknownKey bucket
      if bucket.head?.any fun leader => !hasTextExecutionSignal leader.candidate || skipsSmall leader then
        (selection, bucket)
      else coverPick selection bucket
    | some mode =>
      if bestClass ≠ some (modeOrder (some mode) hardware) ∨ skipsSmall leader then (selection, bucket)
      else coverPick selection bucket

/-- The coverage stage. -/
def cover (bestClass : Option ℕ) (larger : Bool) :
    List (List ShortlistEntry) → Selection → Selection × List (List ShortlistEntry)
  | [], selection => (selection, [])
  | bucket :: buckets, selection =>
    if limit ≤ selection.selected.length then (selection, bucket :: buckets)
    else
      let (selection, bucket) := coverBucket hardware coverSmall bestClass larger selection bucket
      let (selection, buckets) := cover bestClass larger buckets selection
      (selection, bucket :: buckets)

/-- What the relevance stage groups by: placement class, size unless small models are covered, task. -/
def groupKey (entry : ShortlistEntry) : ℕ ×ₗ Bool ×ₗ Bool :=
  toLex (modeOrder entry.hint.mode hardware, toLex (!coverSmall && entry.isSmall, entry.otherTask))

/-- The order of the relevance stage. -/
def relevanceKey (entry : ShortlistEntry) : ℕ ×ₗ Bool ×ₗ Bool ×ₗ ℚ ×ₗ String :=
  toLex (modeOrder entry.hint.mode hardware, toLex (!coverSmall && entry.isSmall, entry.scoreKey))

/-- The group of the leader of the relevance stage. -/
def relevanceGroup (remaining : List ShortlistEntry) (top : ShortlistEntry) : List ShortlistEntry :=
  remaining.filter fun entry =>
    modeOrder entry.hint.mode hardware = modeOrder top.hint.mode hardware &&
      (coverSmall || entry.isSmall = top.isSmall) && entry.otherTask = top.otherTask

variable (logs : Logarithms) (quality : Bool)

/-- The entries that a round may explore. -/
def explorationGroup (remaining group : List ShortlistEntry) (top : ShortlistEntry) :
    List ShortlistEntry :=
  if quality ∧ top.hint.mode = some .gpuResident then
    remaining.filter fun entry =>
      (entry.hint.mode = some .gpuResident || entry.hint.mode = some .gpuOffload) && !entry.isSmall &&
        entry.otherTask = top.otherTask
  else group

/-- Python `exploration_score`. -/
def explorationScore (entry : ShortlistEntry) : ℚ :=
  if quality then logs.log1p (max 0 entry.candidate.downloads) else entry.score - fitBonus entry.hint.mode

/-- The lowest score that may be explored. -/
def explorationFloor (reference : ShortlistEntry) : ℚ :=
  explorationScore logs quality reference - logs.log100

/-- The entries of a group that are new and score high enough to be explored. -/
def novelIn (selection : Selection) (reference : ShortlistEntry) (group : List ShortlistEntry) :
    List ShortlistEntry :=
  group.filter fun entry =>
    (if quality then entry.versionKey ∉ selection.versions else entry.redundancyKey ∉ selection.redundancy) &&
      explorationFloor logs quality reference ≤ explorationScore logs quality entry

/-- The order of what is explored: the largest first. -/
def novelKey (entry : ShortlistEntry) : ℚ ×ₗ ℚ ×ₗ String :=
  toLex (if quality then -entry.billions.getD 0 else -(scaleOrder entry.billions : ℚ),
    toLex (-entry.score, entry.candidate.repoId))

/-- The first entry of a group that is no version of a selected model, and what ties with it. -/
def tiedIn (selection : Selection) (group : List ShortlistEntry) : List ShortlistEntry :=
  match group with
  | [] => []
  | leader :: _ =>
    let seen (entry : ShortlistEntry) : Bool := entry.versionKey ∈ selection.versions
    let first := (group.find? (!seen ·)).getD leader
    first :: (group.erase first).filter fun entry =>
      |entry.score - first.score| ≤ scoreTieEpsilon && (seen first || !seen entry)

/-- A round of the relevance stage: what it chose, whether it explored, and what it notes. -/
structure RelevanceRound where
  chosen : ShortlistEntry
  explored : Bool
  decision : DecisionAudit
  deriving DecidableEq, Repr

/-- A round of the relevance stage on what remains, in the order of relevance. -/
def relevanceRound (explorationLeft : ℕ) (remaining : List ShortlistEntry) (selection : Selection) :
    Option RelevanceRound :=
  match remaining with
  | [] => none
  | top :: _ =>
    let ids := List.map fun entry : ShortlistEntry => entry.candidate.repoId
    let group := relevanceGroup hardware coverSmall remaining top
    let reference := group.head?.getD top
    let explorable := explorationGroup quality remaining group top
    let novel := if explorationLeft = 0 then [] else novelIn logs quality selection reference explorable
    let explored := !novel.isEmpty
    let candidates := if explored then sortedBy (novelKey quality) novel else group
    let decision : DecisionAudit :=
      { relevanceLeader := top.candidate.repoId
        relevanceGroup := ids group
        explorationLeft := explorationLeft
        selectedVersions := selection.versions
        exploration :=
          if explorationLeft = 0 then none
          else
            some
              { explorationGroup := ids explorable
                explorationScoreAxis := if quality then "log_downloads" else "desirability_without_fit_bonus"
                explorationReference := reference.candidate.repoId
                explorationScoreFloor := explorationFloor logs quality reference
                eligibleNovelCandidates := ids novel } }
    (popBucketCandidate (tiedIn selection candidates) selection.redundancy selection.families).map
      fun popped => ⟨popped.1, explored, decision⟩

/-- The relevance stage with a number of free slots, each round of which fills one. -/
def relevance : ℕ → ℕ → List ShortlistEntry → Selection → Selection
  | 0, _, _, selection => selection
  | slots + 1, explorationLeft, remaining, selection =>
    let remaining := sortedBy (relevanceKey hardware coverSmall) remaining
    match relevanceRound hardware coverSmall logs quality explorationLeft remaining selection with
    | none => selection
    | some round =>
      let stage : Stage := if round.explored then .exploration else .relevance
      relevance slots (if round.explored then explorationLeft - 1 else explorationLeft)
        (remaining.erase round.chosen)
        (((selection.addVersion round.chosen).remember round.chosen).recordPick round.chosen stage
          (some round.decision))

/-- The order of the entries that look too large. -/
def fallbackKey (entry : ShortlistEntry) : ℚ ×ₗ String :=
  toLex (-entry.score, entry.candidate.repoId)

/-- The loop over the fallbacks. -/
def fallBack : List ShortlistEntry → Selection → Selection
  | [], selection => selection
  | entry :: entries, selection =>
    if limit ≤ selection.selected.length then selection
    else fallBack entries ((selection.remember entry).recordPick entry .tooLargeFallback none)

end Stages

section Shortlist
variable (logs : Logarithms) (requirements : SearchRequirements) (limit : ℤ) (hardware : HardwareProfile)
  (targetsOtherTask : Option (SearchCandidate → Bool))

/-- The entry of a candidate. -/
def shortlistEntry (candidate : SearchCandidate) : ShortlistEntry :=
  let hint := coarsePlacementHint candidate requirements hardware
  { candidate := candidate
    hint := hint
    score := cheapDesirability logs candidate (requirements.preferredFormats.take 1) + fitBonus hint.mode
    otherTask := targetsOtherTask.any (· candidate) }

/-- What an audit says of an entry. -/
def candidateAudit (entry : ShortlistEntry) : CandidateAudit :=
  { input := entry.candidate
    otherTask := entry.otherTask
    textExecutionSignal := hasTextExecutionSignal entry.candidate
    parameterBillionsHint := entry.billions
    familyKey := familyKey entry.candidate
    mode := entry.hint.mode
    reason := entry.hint.reason
    quantizationHint := entry.hint.quantizationHint
    scoreComponents :=
      cheapDesirabilityComponents logs entry.candidate (requirements.preferredFormats.take 1)
    fitBonus := fitBonus entry.hint.mode
    score := entry.score }

/-- The entries of the candidates, in the order of their scores. -/
def shortlistEntries (candidates : List SearchCandidate) : List ShortlistEntry :=
  sortedBy ShortlistEntry.scoreKey
    (candidates.map (shortlistEntry logs requirements hardware targetsOtherTask))

/-- `is_plausible`. -/
def ShortlistEntry.isPlausible (entry : ShortlistEntry) : Bool :=
  entry.hint.mode ≠ some .tooLarge

/-- Whether the machine calls for small alternatives. -/
def coversSmall : Bool :=
  needsSmallModelCoverage (largestFittingBillions hardware requirements)

/-- Python `quality_scale_coverage`. -/
def qualityScaleCoverage : Bool :=
  requirements.priority = .quality && !coversSmall requirements hardware

/-- The exploration budget of a positive limit. -/
def explorationBudget : ℕ :=
  limit.toNat / if qualityScaleCoverage requirements hardware then 2 else 4

/-- The picks of the coverage stage, and what is left of the buckets. -/
def coverageStage (entries : List ShortlistEntry) (audit : Option Audit) :
    Selection × List (List ShortlistEntry) :=
  let coverSmall := coversSmall requirements hardware
  let buckets := shortlistBuckets hardware coverSmall (entries.filter (·.isPlausible))
  cover hardware coverSmall limit.toNat (bestClassOf hardware buckets) (largerInBestClass hardware buckets)
    buckets { audit := audit }

/-- The notes on the relevance stage. -/
def Selection.noteRelevance (selection : Selection) (notes : RelevanceAudit) : Selection :=
  { selection with audit := selection.audit.map fun audit => { audit with relevance := some notes } }

/-- The picks of the coverage and of the relevance stage. -/
def relevanceStage (entries : List ShortlistEntry) (audit : Option Audit) : Selection :=
  let coverSmall := coversSmall requirements hardware
  let quality := qualityScaleCoverage requirements hardware
  let budget := explorationBudget requirements limit hardware
  let covered := coverageStage requirements limit hardware entries audit
  let buckets := shortlistBuckets hardware coverSmall (entries.filter (·.isPlausible))
  let notes : RelevanceAudit :=
    { coverSmall := coverSmall
      bestPlacementClass := bestClassOf hardware buckets
      qualityScaleCoverage := quality
      explorationBudget := budget
      maxExplorationScoreGap := logs.log100 }
  relevance hardware coverSmall logs quality (limit.toNat - covered.1.selected.length) budget
    covered.2.flatten (covered.1.noteRelevance notes)

/-- The picks of all stages. -/
def selectEntries (entries : List ShortlistEntry) (audit : Option Audit) : Selection :=
  let selection := relevanceStage logs requirements limit hardware entries audit
  let tooLarge := sortedBy fallbackKey (entries.filter (!·.isPlausible))
  let budget := min maxTooLargeFallbacks (limit.toNat - selection.selected.length)
  let fallbacks :=
    if selection.selected = [] then tooLarge.take (min limit.toNat maxTooLargeFallbacks)
    else tooLarge.take budget
  fallBack limit.toNat fallbacks selection

/-- Python `_hardware_aware_shortlist`: the shortlist, and what the audit dictionary holds after it. -/
def hardwareAwareShortlist (candidates : List SearchCandidate) (audit : Option Audit) :
    List SearchCandidate × Option Audit :=
  let cleared : Option Audit :=
    audit.map fun _ => { limit := limit, hardware := hardware, requirements := requirements }
  if limit ≤ 0 then ([], cleared)
  else
    let entries := shortlistEntries logs requirements hardware targetsOtherTask candidates
    let listed := cleared.map fun audit =>
      { audit with
        candidates :=
          dictComprehension (·.candidate.repoId) (candidateAudit logs requirements) entries [] }
    let selection := selectEntries logs requirements limit hardware entries listed
    ((selection.selected.take limit.toNat).map (·.candidate), selection.audit)

end Shortlist

end Jaull.Discovery
