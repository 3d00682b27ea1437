import Jaull.Lib.Versions
import Jaull.Recommendation.RecordAudit

/-!
# What the speed figure depends on

`assess_speed` keeps one version of each benchmark and reads its figure from the newest cohort of those that
nothing speaks against. Where equal records are serialised alike the answer depends on the set of records
only; the figure lies between the least and the greatest rate of its runs, one for each benchmark.
-/

namespace Jaull.Recommendation
open Jaull.Cases Jaull.Domain Jaull.Evaluation Jaull.Lib Jaull.Text

/-- The reason given for a reference whose benchmark id two different records share. -/
def conflictReason : String :=
  "Conflicting records share this benchmark ID."

/-- The records of the plan's artifact. -/
def exactRecords (plan : ExecutionPlan) (records : List BenchmarkRecord) : List BenchmarkRecord :=
  records.filter fun record =>
    plan.artifact.sha256.isSome && exactSha record.artifact.sha256 = plan.artifact.sha256

/-- Two unequal records of the plan's artifact share a benchmark id. -/
def conflicted (plan : ExecutionPlan) (records : List BenchmarkRecord) (id : String) : Bool :=
  (exactRecords plan records).any fun a => (exactRecords plan records).any fun b =>
    a.benchmarkId = id && b.benchmarkId = id && !a.equals b

/-- A record has a tg128 rate other than zero. -/
def rated (record : BenchmarkRecord) : Bool :=
  ((single record .generation 128).map (·.meanTokensPerSecond)).any (· ≠ 0)

/-- Nothing speaks against a record, and it has a rate. -/
def unblocked (readers : RecordReaders) (plan : ExecutionPlan) (requirements : UserRequirements)
    (records : List BenchmarkRecord) (record : BenchmarkRecord) : Bool :=
  (fastestBenchmarkBlockers readers plan requirements record).isEmpty &&
    !conflicted plan records record.benchmarkId && rated record

/-- Order of age, the benchmark id deciding between records of one time. -/
def byAge (record : BenchmarkRecord) : ℤ ×ₗ String :=
  toLex (record.createdAt, record.benchmarkId)

/-- The unblocked records of a cohort. -/
def cohortRuns (readers : RecordReaders) (plan : ExecutionPlan) (requirements : UserRequirements)
    (records : List BenchmarkRecord) (cohort : String) : List BenchmarkRecord :=
  (exactRecords plan records).filter fun record =>
    unblocked readers plan requirements records record && readers.speedCohort record = cohort

/-- A figure is of the newest cohort, of all its benchmarks and of no others, and within its range. -/
structure FigureOf (readers : RecordReaders) (plan : ExecutionPlan) (requirements : UserRequirements)
    (records : List BenchmarkRecord) (figure : ApplicableSpeed) : Prop where
  newest : ∃ newest ∈ exactRecords plan records,
    unblocked readers plan requirements records newest = true ∧
    (∀ record ∈ exactRecords plan records, unblocked readers plan requirements records record = true →
      byAge record ≤ byAge newest) ∧
    figure.cohort = readers.speedCohort newest
  members : ∀ id, id ∈ figure.benchmarkIds ↔
    ∃ run ∈ cohortRuns readers plan requirements records figure.cohort, run.benchmarkId = id
  unconflicted : ∀ id ∈ figure.benchmarkIds, conflicted plan records id = false
  runCount : figure.runCount =
    (((cohortRuns readers plan requirements records figure.cohort).map (·.benchmarkId)).dedup).length
  within : ∃ least greatest, figure.observedMin = some least ∧ figure.observedMax = some greatest ∧
    least ≤ figure.tokensPerSecond ∧ figure.tokensPerSecond ≤ greatest

section Reasons
/-- Another text than one that begins with a capital C. -/
def OtherReason (text : String) : Prop :=
  text.toList.head? ≠ some 'C'

/-- A reason with another first letter. -/
lemma otherReason_ofList {c : Char} {cs : List Char} (ne : c ≠ 'C') :
    OtherReason (String.ofList (c :: cs)) := by
  rw [OtherReason, String.toList_ofList]
  intro eq
  exact ne (Option.some.inj eq)

/-- Only the beginning of a reason counts. -/
lemma otherReason_append {c : Char} {cs : List Char} (ne : c ≠ 'C') (rest : String) :
    OtherReason (String.ofList (c :: cs) ++ rest) := by
  rw [OtherReason, String.toList_append, String.toList_ofList]
  intro eq
  exact ne (Option.some.inj eq)

/-- All reasons are other ones. -/
def OtherReasons (texts : List String) : Prop :=
  ∀ text ∈ texts, OtherReason text

@[simp] lemma otherReasons_append {texts texts' : List String} :
    OtherReasons (texts ++ texts') ↔ OtherReasons texts ∧ OtherReasons texts' :=
  List.forall_mem_append

/-- One that depends on a condition. -/
lemma otherReasons_reasonIf {condition : Bool} {text : String} (other : OtherReason text) :
    OtherReasons (reasonIf condition text) := by
  rw [reasonIf]
  split
  · exact List.forall_mem_singleton.mpr other
  · exact List.forall_mem_nil _

/-- One of each item. -/
lemma otherReasons_filterMap {α : Type} {f : α → Option String} {items : List α}
    (other : ∀ item text, f item = some text → OtherReason text) : OtherReasons (items.filterMap f) := by
  intro text mem
  obtain ⟨item, -, eq⟩ := List.mem_filterMap.mp mem
  exact other item text eq

variable {repr : String → String}

/-- Those of a measurement. -/
lemma otherReasons_measurement (record : BenchmarkRecord) (kind : BenchmarkMeasurementKind) (tokens : ℤ)
    {c : Char} {cs : List Char} (ne : c ≠ 'C') (sizes : List ℤ) :
    OtherReasons (measurementBlockers record kind tokens (String.ofList (c :: cs)) sizes) := by
  rw [measurementBlockers]
  split
  · rw [otherReasons_append, otherReasons_append]
    exact ⟨⟨otherReasons_reasonIf (otherReason_append ne _), otherReasons_reasonIf (otherReason_append ne _)⟩,
      otherReasons_reasonIf (otherReason_append ne _)⟩
  · refine List.forall_mem_singleton.mpr ?_
    rw [String.append_assoc]
    exact otherReason_append (by decide) _

/-- Those of a flag. -/
lemma otherReasons_flags (record : BenchmarkRecord) :
    OtherReasons ((expectedFlags record).filterMap fun (flag, value) =>
      flagBlocker record.observation.command flag value) := by
  apply otherReasons_filterMap
  intro item text eq
  obtain ⟨flag, value⟩ := item
  dsimp only at eq
  unfold flagBlocker at eq
  have recorded : ∀ rest : String, OtherReason ("Recorded command " ++ flag ++ rest) := by
    intro rest
    rw [String.append_assoc]
    exact otherReason_append (by decide) _
  split at eq
  · split at eq
    · cases eq
    · rw [← Option.some.inj eq]
      exact recorded _
  · rw [← Option.some.inj eq]
    exact recorded _

/-- Those of the methodology. -/
lemma otherReasons_v2 (record : BenchmarkRecord) (build : Option String) :
    OtherReasons (v2Blockers repr record build) := by
  unfold v2Blockers
  rw [otherReasons_append, otherReasons_append]
  refine ⟨⟨?_, ?_⟩, otherReasons_reasonIf (otherReason_ofList (by decide))⟩
  · intro text mem
    obtain ⟨item, -, rfl⟩ := List.mem_map.mp mem
    rw [String.append_assoc]
    exact otherReason_append (by decide) _
  · apply otherReasons_filterMap
    intro item text eq
    dsimp only at eq
    split at eq
    · cases eq
    · rw [← Option.some.inj eq, String.append_assoc, String.append_assoc, String.append_assoc]
      exact otherReason_append (by decide) _

/-- Those of the protocol. -/
lemma otherReasons_protocol (protocol : Option LlamaBenchProtocol) (build : Option String) :
    OtherReasons (protocolBlockers protocol build) := by
  cases protocol with
  | none =>
    refine List.forall_mem_singleton.mpr ?_
    exact otherReason_append (by decide) _
  | some protocol =>
    unfold protocolBlockers
    simp only [otherReasons_append]
    refine ⟨⟨⟨⟨?_, ?_⟩, ?_⟩, otherReasons_reasonIf (otherReason_ofList (by decide))⟩,
      otherReasons_reasonIf (otherReason_ofList (by decide))⟩
    · apply otherReasons_filterMap
      intro item text eq
      split at eq
      · rw [← Option.some.inj eq, String.append_assoc]
        exact otherReason_append (by decide) _
      · cases eq
    · split
      · exact List.forall_mem_singleton.mpr (otherReason_ofList (by decide))
      · exact List.forall_mem_singleton.mpr (otherReason_append (by decide) _)
      · exact List.forall_mem_singleton.mpr (otherReason_ofList (by decide))
      · exact List.forall_mem_nil _
    · exact List.forall_mem_singleton.mpr (otherReason_ofList (by decide))

/-- Those of a record. -/
lemma otherReasons_record (record : BenchmarkRecord) : OtherReasons (fastestRecordBlockers repr record) := by
  rw [fastestRecordBlockers]
  simp only [otherReasons_append]
  refine ⟨⟨⟨⟨⟨⟨⟨⟨⟨⟨⟨?_, ?_⟩, ?_⟩, ?_⟩, ?_⟩, ?_⟩, ?_⟩, ?_⟩, ?_⟩, ?_⟩, ?_⟩, ?_⟩
  any_goals exact otherReasons_reasonIf (otherReason_ofList (by decide))
  · exact otherReasons_measurement record _ _ (by decide) _
  · exact otherReasons_measurement record _ _ (by decide) _
  · exact otherReasons_flags record
  · split
    · exact otherReasons_v2 record _
    · exact otherReasons_protocol _ _

/-- The reasons against a record for a plan are other ones as well. -/
lemma otherReasons_benchmark (sha256 : String → String) (modelDumpJson : BenchmarkRecord → String)
    (matching : String → String → String → Bool) (plan : ExecutionPlan)
    (requirements : UserRequirements) (record : BenchmarkRecord) :
    OtherReasons (fastestBenchmarkBlockers
      (localReaders sha256 (fastestRecordBlockers repr) modelDumpJson matching) plan requirements
      record) := by
  have blocked : ∀ (holds : Bool) (reason : String), OtherReason reason →
      OtherReasons (if holds then [reason] else []) := by
    intro holds reason other
    cases holds with
    | false => exact List.forall_mem_nil _
    | true => exact List.forall_mem_singleton.mpr other
  unfold fastestBenchmarkBlockers
  simp only [otherReasons_append]
  refine ⟨⟨⟨⟨otherReasons_record record, ?_⟩, ?_⟩, ?_⟩, ?_⟩
  · exact blocked _ _ (otherReason_ofList (by decide))
  · exact blocked _ _ (otherReason_ofList (by decide))
  · exact blocked _ _ (otherReason_ofList (by decide))
  · split
    · exact List.forall_mem_nil _
    · rw [otherReasons_append]
      exact ⟨blocked _ _ (otherReason_ofList (by decide)), blocked _ _ (otherReason_ofList (by decide))⟩

end Reasons

section Versions

/-- What Python compares of a record. -/
def valueOf (record : BenchmarkRecord) : BenchmarkRecord :=
  { record with spelling := "" }

/-- Records are equal when they differ in spelling only. -/
lemma equals_iff {a b : BenchmarkRecord} : a.equals b = true ↔ valueOf a = valueOf b := by
  rw [BenchmarkRecord.equals, decide_eq_true_iff]
  constructor
  · intro eq
    rw [← eq]
    rfl
  · intro eq
    calc { a with spelling := b.spelling }
        = { valueOf a with spelling := b.spelling } := rfl
      _ = { valueOf b with spelling := b.spelling } := by rw [eq]
      _ = b := rfl

/-- The first loop of `assess_speed` keeps versions of benchmarks. -/
lemma collectById_eq (readers : RecordReaders) (known : List BenchmarkRecord × List String)
    (record : BenchmarkRecord) :
    collectById readers known record =
      collect BenchmarkRecord.benchmarkId valueOf readers.modelDumpJson known record := by
  obtain ⟨byId, conflicts⟩ := known
  rw [collectById, collect]
  dsimp only
  cases byId.find? (·.benchmarkId = record.benchmarkId) with
  | none => rfl
  | some previous =>
    dsimp only
    by_cases same : valueOf previous = valueOf record
    · have equal : previous.equals record = true := equals_iff.mpr same
      simp [same, equal]
    · have unequal : previous.equals record = false :=
        Bool.eq_false_iff.mpr fun equal => same (equals_iff.mp equal)
      by_cases lt : readers.modelDumpJson record < readers.modelDumpJson previous
      · simp [same, unequal, lt, leastOf]
      · simp [same, unequal, lt, leastOf]

/-- The versions that are kept of the plan's artifact, and the ids in conflict. -/
def keptVersions (readers : RecordReaders) (plan : ExecutionPlan) (records : List BenchmarkRecord) :
    List BenchmarkRecord × List String :=
  (exactRecords plan records).foldl (collectById readers) ([], [])

/-- The versions are collected by their id. -/
lemma keptVersions_eq (readers : RecordReaders) (plan : ExecutionPlan)
    (records : List BenchmarkRecord) :
    keptVersions readers plan records =
      (exactRecords plan records).foldl
        (collect BenchmarkRecord.benchmarkId valueOf readers.modelDumpJson) ([], []) := by
  rw [keptVersions]
  congr 1
  funext known record
  exact collectById_eq readers known record

variable {readers : RecordReaders} {plan : ExecutionPlan} {records records' : List BenchmarkRecord}

/-- So they are as a collection is. -/
lemma collected_keptVersions (readers : RecordReaders) (plan : ExecutionPlan)
    (records : List BenchmarkRecord) :
    Collected BenchmarkRecord.benchmarkId valueOf (exactRecords plan records)
      (keptVersions readers plan records) := by
  rw [keptVersions_eq]
  exact collected_foldl _ _ _ _

/-- An id is in conflict when the collection says so. -/
lemma conflicted_iff {id : String} :
    conflicted plan records id = true ↔ id ∈ (keptVersions readers plan records).2 := by
  rw [(collected_keptVersions readers plan records).conflicts, conflicted, List.any_eq_true]
  constructor
  · intro found
    obtain ⟨a, memA, found⟩ := found
    obtain ⟨b, memB, facts⟩ := List.any_eq_true.mp found
    simp only [Bool.and_eq_true, decide_eq_true_iff, Bool.not_eq_true'] at facts
    exact ⟨a, memA, b, memB, facts.1.1, facts.1.2, fun same =>
      Bool.eq_false_iff.mp facts.2 (equals_iff.mpr same)⟩
  · intro conflict
    obtain ⟨a, memA, b, memB, keyA, keyB, ne⟩ := conflict
    refine ⟨a, memA, List.any_eq_true.mpr ⟨b, memB, ?_⟩⟩
    simp only [Bool.and_eq_true, decide_eq_true_iff, Bool.not_eq_true']
    exact ⟨⟨keyA, keyB⟩, Bool.eq_false_iff.mpr fun equal => ne (equals_iff.mp equal)⟩

/-- The same records of the artifact. -/
lemma mem_exactRecords_congr (same : ∀ record, record ∈ records' ↔ record ∈ records)
    (record : BenchmarkRecord) :
    record ∈ exactRecords plan records' ↔ record ∈ exactRecords plan records := by
  rw [exactRecords, exactRecords, List.mem_filter, List.mem_filter, same]

/-- The kept versions, newest first (Python `matched`). -/
def matchedVersions (readers : RecordReaders) (plan : ExecutionPlan) (records : List BenchmarkRecord) :
    List BenchmarkRecord :=
  sortedBy (fun record => OrderDual.toDual (byAge record)) (keptVersions readers plan records).1

/-- The matched versions are the collected ones. -/
lemma mem_matchedVersions {record : BenchmarkRecord} :
    record ∈ matchedVersions readers plan records ↔ record ∈ (keptVersions readers plan records).1 :=
  mem_sortedBy

lemma nodup_matchedVersions :
    ((matchedVersions readers plan records).map BenchmarkRecord.benchmarkId).Nodup :=
  (((sortedBy_perm _ _).map _).nodup_iff).mpr (collected_keptVersions readers plan records).keys

/-- Lists of one set of records, whose ids differ, are sorted alike. -/
lemma sortedBy_byAge_congr {l l' : List BenchmarkRecord} (perm : l'.Perm l)
    (keys : (l.map BenchmarkRecord.benchmarkId).Nodup) :
    sortedBy (fun record => OrderDual.toDual (byAge record)) l' =
      sortedBy (fun record => OrderDual.toDual (byAge record)) l := by
  apply sortedBy_eq_of_perm perm
  apply List.Nodup.of_map fun age => (ofLex (OrderDual.ofDual age)).2
  rw [List.map_map]
  exact keys

end Versions

section Assembly
variable {readers : RecordReaders} {plan : ExecutionPlan} {requirements : UserRequirements}
variable {records records' : List BenchmarkRecord} {sha : String}

/-- What the kept versions, newest first, and their references come to. -/
def assembled (readers : RecordReaders) (matched : List BenchmarkRecord)
    (references : List LocalSpeedReference) : SpeedAssessment :=
  let eligible := (references.zip matched).filter fun (reference, _) =>
    reference.blockers.isEmpty && reference.tg128TokensPerSecond.any (· ≠ 0)
  let applicable := applicableSpeed readers eligible
  { applicability :=
      if applicable.isSome then .measuredPlan
      else if references.isEmpty then .absent else .referenceOnly
    applicable := applicable
    references := references
    referenced := by
      intro unmeasured stored none
      rw [unmeasured, none] at stored
      exact stored rfl }

/-- The reference to a kept version. -/
def referenceTo (readers : RecordReaders) (plan : ExecutionPlan) (requirements : UserRequirements)
    (records : List BenchmarkRecord) (sha : String) (record : BenchmarkRecord) : LocalSpeedReference :=
  speedReference readers plan requirements sha (keptVersions readers plan records).2 record

/-- `assess_speed` by its parts. -/
lemma assessSpeed_eq (isSha : plan.artifact.sha256 = some sha) :
    assessSpeed readers plan requirements records =
      assembled readers (matchedVersions readers plan records)
        ((matchedVersions readers plan records).map
          (referenceTo readers plan requirements records sha)) := by
  have exact' : (records.filter fun record => exactSha record.artifact.sha256 = some sha) =
      exactRecords plan records := by
    rw [exactRecords]
    apply List.filter_congr
    intro record _
    simp [isSha]
  unfold assessSpeed
  rw [isSha]
  dsimp only
  rw [exact']
  rfl

/-- Without a digest there is no speed. -/
lemma assessSpeed_none (noSha : plan.artifact.sha256 = none) :
    assessSpeed readers plan requirements records = {} := by
  unfold assessSpeed
  rw [noSha]

/-- Where equal records are serialised alike and unequal ones differently, only the set of records
matters. -/
lemma assessSpeed_congr
    (single : ∀ a ∈ exactRecords plan records, ∀ b ∈ exactRecords plan records,
      a.equals b = true → a = b)
    (dumps : InjOn readers.modelDumpJson (exactRecords plan records))
    (same : ∀ record, record ∈ records' ↔ record ∈ records) :
    assessSpeed readers plan requirements records' = assessSpeed readers plan requirements records := by
  cases isSha : plan.artifact.sha256 with
  | none => rw [assessSpeed_none isSha, assessSpeed_none isSha]
  | some sha =>
    have kept : (keptVersions readers plan records').1.Perm (keptVersions readers plan records).1 := by
      rw [keptVersions_eq, keptVersions_eq]
      apply collect_perm ?_ (fun a memA b memB _ => dumps a memA b memB) (mem_exactRecords_congr same)
      intro a memA b memB eq
      exact single a memA b memB (equals_iff.mpr eq)
    have matched : matchedVersions readers plan records' = matchedVersions readers plan records :=
      sortedBy_byAge_congr kept (collected_keptVersions readers plan records).keys
    have conflicts : ∀ id, id ∈ (keptVersions readers plan records').2 ↔
        id ∈ (keptVersions readers plan records).2 := by
      intro id
      rw [(collected_keptVersions readers plan records').conflicts,
        (collected_keptVersions readers plan records).conflicts]
      simp only [mem_exactRecords_congr same]
    have references : referenceTo readers plan requirements records' sha =
        referenceTo readers plan requirements records sha := by
      funext record
      rw [referenceTo, referenceTo, speedReference, speedReference]
      simp only [conflicts]
    rw [assessSpeed_eq isSha, assessSpeed_eq isSha, matched, references]

end Assembly

section Median

/-- The median of figures lies within their bounds. -/
lemma median_within {figures : List ℚ} {least greatest : ℚ} (some : figures ≠ [])
    (below : ∀ figure ∈ figures, least ≤ figure) (above : ∀ figure ∈ figures, figure ≤ greatest) :
    least ≤ median figures ∧ median figures ≤ greatest := by
  have positive : 0 < (sortedBy id figures).length := by
    rw [length_sortedBy]
    exact List.length_pos_of_ne_nil some
  have at' : ∀ rank < (sortedBy id figures).length,
      least ≤ (sortedBy id figures).getD rank 0 ∧ (sortedBy id figures).getD rank 0 ≤ greatest := by
    intro rank lt
    rw [List.getD_eq_getElem _ _ lt]
    have mem : (sortedBy id figures)[rank] ∈ figures := mem_sortedBy.mp (List.getElem_mem lt)
    exact ⟨below _ mem, above _ mem⟩
  have upper := at' ((sortedBy id figures).length / 2) (Nat.div_lt_self positive Nat.one_lt_two)
  rw [median]
  split
  · exact upper
  · have lower := at' ((sortedBy id figures).length / 2 - 1) (by omega)
    constructor
    · linarith [lower.1, upper.1]
    · linarith [lower.2, upper.2]

end Median

section Spelling
variable {sha256 : String → String} {repr : String → String} {modelDumpJson : BenchmarkRecord → String}
variable {matching : String → String → String → Bool}

/-- Whether a benchmark stands for a plan at all. -/
lemma matchingBenchmark_isNone (readers : RecordReaders) (plan : ExecutionPlan)
    (record : BenchmarkRecord) :
    (matchingBenchmark readers plan [record]).isNone = !benchmarkMatches readers plan record := by
  cases matches' : benchmarkMatches readers plan record with
  | false => simp [matchingBenchmark, latestBy, matches']
  | true => simp [matchingBenchmark, latestBy, matches', sortedBy]

/-- The reasons against a record do not look at how its values are spelled. -/
lemma blockers_valueOf (plan : ExecutionPlan) (requirements : UserRequirements)
    (record : BenchmarkRecord) :
    fastestBenchmarkBlockers
        (localReaders sha256 (fastestRecordBlockers repr) modelDumpJson matching) plan requirements
        (valueOf record) =
      fastestBenchmarkBlockers
        (localReaders sha256 (fastestRecordBlockers repr) modelDumpJson matching) plan requirements
        record := by
  unfold fastestBenchmarkBlockers
  rw [matchingBenchmark_isNone, matchingBenchmark_isNone]
  rfl

end Spelling

section Figure
variable {readers : RecordReaders} {plan : ExecutionPlan} {requirements : UserRequirements}
variable {records : List BenchmarkRecord} {sha : String}

/-- The reasons against a reference. -/
lemma blockers_referenceTo (record : BenchmarkRecord) :
    (referenceTo readers plan requirements records sha record).blockers =
      fastestBenchmarkBlockers readers plan requirements record ++
        if conflicted plan records record.benchmarkId then [conflictReason] else [] := by
  rw [referenceTo, speedReference]
  dsimp only
  by_cases conflict : record.benchmarkId ∈ (keptVersions readers plan records).2
  · rw [if_pos conflict, if_pos (conflicted_iff.mpr conflict)]
    rfl
  · rw [if_neg conflict, if_neg fun found => conflict (conflicted_iff.mp found)]

/-- A reference is eligible when its record is unblocked. -/
lemma eligible_iff (sha : String) (record : BenchmarkRecord) :
    ((referenceTo readers plan requirements records sha record).blockers.isEmpty &&
        (referenceTo readers plan requirements records sha record).tg128TokensPerSecond.any (· ≠ 0)) =
      unblocked readers plan requirements records record := by
  rw [blockers_referenceTo, unblocked]
  congr 1
  cases conflicted plan records record.benchmarkId with
  | true => simp
  | false => simp

/-- The kept versions that nothing speaks against, newest first. -/
def eligibleVersions (readers : RecordReaders) (plan : ExecutionPlan) (requirements : UserRequirements)
    (records : List BenchmarkRecord) : List BenchmarkRecord :=
  (matchedVersions readers plan records).filter (unblocked readers plan requirements records)

/-- The runs of a cohort among them. -/
def eligibleRuns (readers : RecordReaders) (plan : ExecutionPlan) (requirements : UserRequirements)
    (records : List BenchmarkRecord) (cohort : String) : List BenchmarkRecord :=
  (eligibleVersions readers plan requirements records).filter (readers.speedCohort · = cohort)

/-- Where a figure comes from. -/
lemma applicable_eq_some {figure : ApplicableSpeed} (isSha : plan.artifact.sha256 = some sha)
    (eq : (assessSpeed readers plan requirements records).applicable = some figure) :
    ∃ newest older, eligibleVersions readers plan requirements records = newest :: older ∧
      figure.cohort = readers.speedCohort newest ∧
      (let runs := (eligibleRuns readers plan requirements records figure.cohort).map
          (referenceTo readers plan requirements records sha)
        let figures := runs.filterMap (·.tg128TokensPerSecond)
        figure.tokensPerSecond = median figures ∧ figure.observedMin = figures.min? ∧
          figure.observedMax = figures.max? ∧ figure.runCount = runs.length ∧
          figure.benchmarkIds = sortedBy id (runs.map (·.benchmarkId))) := by
  rw [assessSpeed_eq isSha] at eq
  -- what the function pairs up and filters are the eligible versions, with their references
  have pairs : (((matchedVersions readers plan records).map
      (referenceTo readers plan requirements records sha)).zip
        (matchedVersions readers plan records)).filter (fun (reference, _) =>
          reference.blockers.isEmpty && reference.tg128TokensPerSecond.any (· ≠ 0)) =
      (eligibleVersions readers plan requirements records).map fun record =>
        (referenceTo readers plan requirements records sha record, record) := by
    rw [← List.map_prod_right_eq_zip, List.filter_map, eligibleVersions]
    congr 1
    apply List.filter_congr
    intro record _
    exact eligible_iff sha record
  unfold assembled at eq
  dsimp only at eq
  rw [pairs] at eq
  cases eligible : eligibleVersions readers plan requirements records with
  | nil =>
    rw [eligible] at eq
    cases eq
  | cons newest older =>
    -- those of the newest one's cohort are the runs
    have runs : (((newest :: older).map fun record =>
        (referenceTo readers plan requirements records sha record, record)).filter
          (fun (_, record) => readers.speedCohort record = readers.speedCohort newest)).map (·.1) =
        (eligibleRuns readers plan requirements records (readers.speedCohort newest)).map
          (referenceTo readers plan requirements records sha) := by
      rw [List.filter_map, List.map_map, eligibleRuns, eligible]
      rfl
    rw [eligible, List.map_cons, applicableSpeed] at eq
    rw [List.map_cons] at runs
    dsimp only at eq
    rw [runs] at eq
    rw [← Option.some.inj eq]
    exact ⟨newest, older, rfl, rfl, rfl, rfl, rfl, rfl, rfl⟩

/-- An unblocked record has a kept version of its value, which is eligible as well. -/
lemma exists_eligibleVersion
    (values : ∀ record, unblocked readers plan requirements records (valueOf record) =
      unblocked readers plan requirements records record)
    {record : BenchmarkRecord} (mem : record ∈ exactRecords plan records)
    (open' : unblocked readers plan requirements records record = true) :
    ∃ version ∈ eligibleVersions readers plan requirements records,
      valueOf version = valueOf record := by
  have run := collected_keptVersions readers plan records
  obtain ⟨version, kept, same⟩ := run.covers record mem
  have calm : version.benchmarkId ∉ (keptVersions readers plan records).2 := by
    intro conflict
    rw [unblocked, Bool.and_eq_true, Bool.and_eq_true, ← same, conflicted_iff.mpr conflict] at open'
    exact absurd open'.1.2 Bool.false_ne_true
  have value := run.value_eq (run.sub kept) mem same calm
  refine ⟨version, List.mem_filter.mpr ⟨mem_matchedVersions.mpr kept, ?_⟩, value⟩
  rw [← values, value, values]
  exact open'

/-- An eligible version is an exact record without blockers. -/
lemma mem_eligibleVersions {record : BenchmarkRecord}
    (mem : record ∈ eligibleVersions readers plan requirements records) :
    record ∈ exactRecords plan records ∧
      unblocked readers plan requirements records record = true := by
  obtain ⟨matched, open'⟩ := List.mem_filter.mp mem
  exact ⟨(collected_keptVersions readers plan records).sub (mem_matchedVersions.mp matched), open'⟩

/-- The newest eligible version is the newest unblocked record. -/
lemma newest_eligibleVersion
    (values : ∀ record, unblocked readers plan requirements records (valueOf record) =
      unblocked readers plan requirements records record)
    {newest : BenchmarkRecord} {older : List BenchmarkRecord}
    (eligible : eligibleVersions readers plan requirements records = newest :: older)
    {record : BenchmarkRecord} (mem : record ∈ exactRecords plan records)
    (open' : unblocked readers plan requirements records record = true) :
    byAge record ≤ byAge newest := by
  obtain ⟨version, memV, value⟩ := exists_eligibleVersion values mem open'
  have sorted : (eligibleVersions readers plan requirements records).Pairwise
      fun a b => byAge b ≤ byAge a :=
    (sortedBy_pairwise (fun record => OrderDual.toDual (byAge record)) _).filter _
  have age : byAge (valueOf version) = byAge (valueOf record) := congrArg byAge value
  rw [eligible] at memV sorted
  change byAge (valueOf record) ≤ byAge newest
  rw [← age]
  change byAge version ≤ byAge newest
  rcases List.mem_cons.mp memV with rfl | later
  · exact le_rfl
  · exact List.rel_of_pairwise_cons sorted later

/-- The eligible runs of a cohort have the ids of its unblocked records, each once. -/
lemma ids_eligibleRuns
    (values : ∀ record, unblocked readers plan requirements records (valueOf record) =
      unblocked readers plan requirements records record)
    (cohorts : ∀ record, readers.speedCohort (valueOf record) = readers.speedCohort record)
    (cohort : String) :
    ((eligibleRuns readers plan requirements records cohort).map (·.benchmarkId)).Perm
      ((cohortRuns readers plan requirements records cohort).map (·.benchmarkId)).dedup := by
  have nodup : ((eligibleRuns readers plan requirements records cohort).map (·.benchmarkId)).Nodup :=
    nodup_matchedVersions.sublist ((List.filter_sublist.trans List.filter_sublist).map _)
  apply (List.perm_ext_iff_of_nodup nodup (List.nodup_dedup _)).mpr
  intro id
  rw [List.mem_dedup, List.mem_map, List.mem_map]
  constructor
  · intro found
    obtain ⟨run, mem, eq⟩ := found
    obtain ⟨memE, inCohort⟩ := List.mem_filter.mp mem
    obtain ⟨memX, open'⟩ := mem_eligibleVersions memE
    exact ⟨run, List.mem_filter.mpr ⟨memX, Bool.and_eq_true_iff.mpr ⟨open', inCohort⟩⟩, eq⟩
  · intro found
    obtain ⟨run, mem, eq⟩ := found
    obtain ⟨memX, facts⟩ := List.mem_filter.mp mem
    obtain ⟨open', inCohort⟩ := Bool.and_eq_true_iff.mp facts
    obtain ⟨version, memV, value⟩ := exists_eligibleVersion values memX open'
    refine ⟨version, List.mem_filter.mpr ⟨memV, ?_⟩, (congrArg (·.benchmarkId) value).trans eq⟩
    rw [← cohorts, value, cohorts]
    exact inCohort

/-- The rate of an eligible run is one of the figures. -/
lemma figures_ne_nil (sha : String) {newest : BenchmarkRecord} {cohort : String}
    (mem : newest ∈ eligibleRuns readers plan requirements records cohort) :
    ((eligibleRuns readers plan requirements records cohort).map
      (referenceTo readers plan requirements records sha)).filterMap (·.tg128TokensPerSecond) ≠ [] := by
  have open' := (mem_eligibleVersions (List.mem_filter.mp mem).1).2
  rw [← eligible_iff sha, Bool.and_eq_true_iff] at open'
  cases rate : (referenceTo readers plan requirements records sha newest).tg128TokensPerSecond with
  | none =>
    rw [rate] at open'
    exact absurd open'.2 Bool.false_ne_true
  | some figure =>
    apply List.ne_nil_of_mem
    exact List.mem_filterMap.mpr ⟨_, List.mem_map_of_mem mem, rate⟩

/-- What a figure is, where the reasons and the cohorts do not look at how values are spelled. -/
lemma figureOf_assessSpeed
    (values : ∀ record, unblocked readers plan requirements records (valueOf record) =
      unblocked readers plan requirements records record)
    (cohorts : ∀ record, readers.speedCohort (valueOf record) = readers.speedCohort record)
    {figure : ApplicableSpeed}
    (eq : (assessSpeed readers plan requirements records).applicable = some figure) :
    FigureOf readers plan requirements records figure := by
  cases isSha : plan.artifact.sha256 with
  | none =>
    rw [assessSpeed_none isSha] at eq
    cases eq
  | some sha =>
    obtain ⟨newest, older, eligible, cohort, rate, least, greatest, count, ids⟩ :=
      applicable_eq_some isSha eq
    have memN : newest ∈ eligibleVersions readers plan requirements records := by
      rw [eligible]
      exact List.mem_cons_self
    obtain ⟨memX, open'⟩ := mem_eligibleVersions memN
    have shown : ∀ runs : List BenchmarkRecord,
        (runs.map (referenceTo readers plan requirements records sha)).map (·.benchmarkId) =
          runs.map (·.benchmarkId) := by
      intro runs
      rw [List.map_map]
      rfl
    have perm := ids_eligibleRuns values cohorts figure.cohort
    have members : ∀ id, id ∈ figure.benchmarkIds ↔
        ∃ run ∈ cohortRuns readers plan requirements records figure.cohort, run.benchmarkId = id := by
      intro id
      rw [ids, mem_sortedBy, shown, perm.mem_iff, List.mem_dedup, List.mem_map]
    refine ⟨⟨newest, memX, open', ?_, cohort⟩, members, ?_, ?_, ?_⟩
    · intro record mem open'
      exact newest_eligibleVersion values eligible mem open'
    · intro id mem
      obtain ⟨run, memR, rfl⟩ := (members id).mp mem
      have facts := (List.mem_filter.mp memR).2
      rw [Bool.and_eq_true, unblocked, Bool.and_eq_true, Bool.and_eq_true, Bool.not_eq_true'] at facts
      exact facts.1.1.2
    · rw [count, ← perm.length_eq, List.length_map, List.length_map]
    · have run : newest ∈ eligibleRuns readers plan requirements records figure.cohort :=
        List.mem_filter.mpr ⟨memN, decide_eq_true cohort.symm⟩
      -- the newest run has a figure, so there is a least and a greatest
      have some' := figures_ne_nil sha run
      rw [rate]
      cases low : figure.observedMin with
      | none => exact absurd (List.min?_eq_none_iff.mp (least ▸ low)) some'
      | some lowest =>
        cases high : figure.observedMax with
        | none => exact absurd (List.max?_eq_none_iff.mp (greatest ▸ high)) some'
        | some highest =>
          rw [low] at least
          rw [high] at greatest
          refine ⟨lowest, highest, rfl, rfl, median_within some' ?_ ?_⟩
          · exact (List.min?_eq_some_iff.mp least.symm).2
          · exact (List.max?_eq_some_iff.mp greatest.symm).2

end Figure

section Main
variable {sha256 : String → String} {repr : String → String} {modelDumpJson : BenchmarkRecord → String}
variable {matching : String → String → String → Bool}
variable {plan : ExecutionPlan} {requirements : UserRequirements} {records : List BenchmarkRecord}

/-- The readers that audit records. -/
def auditReaders (sha256 : String → String) (repr : String → String)
    (modelDumpJson : BenchmarkRecord → String) (matching : String → String → String → Bool) :
    RecordReaders :=
  localReaders sha256 (fastestRecordBlockers repr) modelDumpJson matching

/-- Spelling blocks nothing. -/
lemma unblocked_valueOf (record : BenchmarkRecord) :
    unblocked (auditReaders sha256 repr modelDumpJson matching) plan requirements records
        (valueOf record) =
      unblocked (auditReaders sha256 repr modelDumpJson matching) plan requirements records record := by
  rw [unblocked, unblocked, auditReaders, blockers_valueOf]
  rfl

/-- A reference carries the conflict reason exactly when two records share its id. -/
lemma conflictReason_iff {reference : LocalSpeedReference}
    (mem : reference ∈ (assessSpeed (auditReaders sha256 repr modelDumpJson matching) plan requirements
      records).references) :
    conflictReason ∈ reference.blockers ↔ conflicted plan records reference.benchmarkId = true := by
  cases isSha : plan.artifact.sha256 with
  | none =>
    rw [assessSpeed_none isSha] at mem
    cases mem
  | some sha =>
    rw [assessSpeed_eq isSha] at mem
    obtain ⟨record, -, rfl⟩ := List.mem_map.mp mem
    have other : conflictReason ∉ fastestBenchmarkBlockers
        (auditReaders sha256 repr modelDumpJson matching) plan requirements record := by
      intro mem
      refine otherReasons_benchmark sha256 modelDumpJson matching plan requirements record _ mem ?_
      decide
    rw [blockers_referenceTo, List.mem_append, or_iff_right other]
    have id : (referenceTo (auditReaders sha256 repr modelDumpJson matching) plan requirements records sha
        record).benchmarkId = record.benchmarkId := rfl
    rw [id]
    cases conflicted plan records record.benchmarkId with
    | true => simp
    | false => simp

/-- Equal records serialised alike, only the set of records matters; a reference carries the conflict reason
exactly when two unequal records share its id; the figure is that of the newest cohort of unblocked records
with a rate other than zero, one run for each benchmark id, and lies within the range of their rates. -/
theorem assessSpeed_settled (sha256 : String → String) (repr : String → String)
    (modelDumpJson : BenchmarkRecord → String) (matching : String → String → String → Bool)
    (plan : ExecutionPlan) (requirements : UserRequirements) (records : List BenchmarkRecord) :
    (InjOn modelDumpJson (exactRecords plan records) →
      (∀ a ∈ exactRecords plan records, ∀ b ∈ exactRecords plan records, a.equals b = true →
        modelDumpJson a = modelDumpJson b) →
      ∀ records', (∀ record, record ∈ records' ↔ record ∈ records) →
        assessSpeed (auditReaders sha256 repr modelDumpJson matching) plan requirements records' =
          assessSpeed (auditReaders sha256 repr modelDumpJson matching) plan requirements records) ∧
    (∀ reference ∈ (assessSpeed (auditReaders sha256 repr modelDumpJson matching) plan requirements
        records).references,
      conflictReason ∈ reference.blockers ↔ conflicted plan records reference.benchmarkId = true) ∧
    ∀ figure, (assessSpeed (auditReaders sha256 repr modelDumpJson matching) plan requirements
        records).applicable = some figure →
      FigureOf (auditReaders sha256 repr modelDumpJson matching) plan requirements records figure := by
  refine ⟨?_, ?_, ?_⟩
  · intro dumps alike records' same
    apply assessSpeed_congr ?_ dumps same
    intro a memA b memB equal
    exact dumps a memA b memB (alike a memA b memB equal)
  · intro reference mem
    exact conflictReason_iff mem
  · intro figure eq
    exact figureOf_assessSpeed unblocked_valueOf (fun _ => rfl) eq

end Main

section Examples

/-- A machine with eight cores. -/
def benchMachine : HardwareProfile where
  os := "Linux"
  arch := "x86_64"
  cpu := { physicalCores := some 8 }
  memory := { totalBytes := 2 ^ 33, availableBytes := 0 }

/-- The digest of its model file. -/
def benchSha : String :=
  String.ofList (List.replicate 64 'a')

/-- A plan for the file on the processor. -/
def benchPlan : ExecutionPlan where
  planId := "p"
  modelIdentity := { modelName := "m" }
  artifact :=
    { modelIdentity := { modelName := "m" }
      repoId := "r"
      format := .gguf
      filename := some "m.gguf"
      sha256 := some benchSha }
  runtime := { runtime := .llamaCpp, confidence := .high }
  backendSelection := some { selectedBackend := .cpu, reason := .cpuFallback }
  hardware := some benchMachine
  identity_matches := rfl

/-- A run that follows the protocol. -/
def storedRun (id : String) (createdAt : ℤ) (rate : ℚ) (device : Option String)
    (spelling : String) : BenchmarkRecord where
  benchmarkId := id
  createdAt := createdAt
  hardware := benchMachine
  artifact :=
    { repoId := "r", revision := "main", filename := "m.gguf", format := "gguf", sha256 := some benchSha }
  runtime := { runtime := .llamaCpp, confidence := .high }
  requestedBackend := .cpu
  requestedDevice := device
  gpuLayers := .count 0
  prefillSizes := [512]
  generationSizes := [128]
  observation :=
    { success := true
      measurements :=
        [{ kind := .generation, tokens := 128, meanTokensPerSecond := rate, stddevTokensPerSecond := 0,
           repetitions := some 5, rawDevice := some "none", rawNgl := some "0" },
         { kind := .prefill, tokens := 512, meanTokensPerSecond := 80, stddevTokensPerSecond := 0,
           repetitions := some 5, rawDevice := some "none", rawNgl := some "0" }]
      repetitions := 5
      protocol := some
        { buildCommit := some "abcdef1", buildNumber := some 10, nThreads := some 8, nBatch := some 512,
          nUbatch := some 512, cacheTypeK := some "f16", cacheTypeV := some "f16",
          flashAttn := some "off", loadMode := some "mmap", warmup := some "ran",
          threadPolicy := some "physical_cores" }
      methodology := some "llama_bench_v2"
      command :=
        ["-m", "m.gguf", "-dev", "none", "-ngl", "0", "-p", "512", "-n", "128", "-r", "5", "-b", "512",
          "-ub", "512", "-fa", "off", "-ctk", "f16", "-ctv", "f16", "-lm", "mmap", "-t", "8"]
      exitCode := some 0
      rawStdout := "build: abcdef1 (10)" }
  localPath := some "m.gguf"
  isVerified := true
  spelling := spelling

/-- The use of the plan. -/
def benchUse : UserRequirements where
  useCase := .generalChat
  priority := .balanced
  desiredContext := 4096

/-- Readers that serialise a record by a text of its own. -/
def benchReaders (modelDumpJson : BenchmarkRecord → String) : RecordReaders :=
  auditReaders (fun text => text) (fun text => text) modelDumpJson fun _ _ _ => false

/-- Two runs in either order, one of them twice. -/
theorem storedRuns_settled :
    assessSpeed (benchReaders (·.benchmarkId)) benchPlan benchUse
        [storedRun "b" 2 30 none "", storedRun "a" 1 20 none "", storedRun "b" 2 30 none ""] =
      assessSpeed (benchReaders (·.benchmarkId)) benchPlan benchUse
        [storedRun "a" 1 20 none "", storedRun "b" 2 30 none ""] := by
  have pair : ∀ record ∈ exactRecords benchPlan [storedRun "a" 1 20 none "", storedRun "b" 2 30 none ""],
      record = storedRun "a" 1 20 none "" ∨ record = storedRun "b" 2 30 none "" := by
    intro record mem
    simpa using (List.mem_filter.mp mem).1
  apply (assessSpeed_settled (fun text => text) (fun text => text) (·.benchmarkId) _ benchPlan benchUse
    _).1
  · intro a memA b memB eq
    rcases pair a memA with rfl | rfl
    · rcases pair b memB with rfl | rfl
      · rfl
      · have ids : "a" = "b" := eq
        exact absurd ids (by decide)
    · rcases pair b memB with rfl | rfl
      · have ids : "b" = "a" := eq
        exact absurd ids (by decide)
      · rfl
  · intro a _ b _ equal
    have ids : (valueOf a).benchmarkId = (valueOf b).benchmarkId :=
      congrArg BenchmarkRecord.benchmarkId (equals_iff.mp equal)
    exact ids
  · intro record
    simp only [List.mem_cons, List.not_mem_nil, or_false]
    tauto

/-- A run without speed is newer than the run of the figure, and nothing speaks against it. With two spellings
of one time and a version of another time that is serialised between them, the order decides. -/
theorem storedRuns_unsettled :
    ((fastestBenchmarkBlockers (benchReaders (·.benchmarkId)) benchPlan benchUse
          (storedRun "b" 2 0 (some "none") "") = [] ∧
        conflicted benchPlan
          [storedRun "a" 1 20 none "", storedRun "b" 2 0 (some "none") ""] "b" = false) ∧
      (assessSpeed (benchReaders (·.benchmarkId)) benchPlan benchUse
          [storedRun "a" 1 20 none "", storedRun "b" 2 0 (some "none") ""]).applicable.map (·.cohort) =
        some ((benchReaders (·.benchmarkId)).speedCohort (storedRun "a" 1 20 none "")) ∧
      (benchReaders (·.benchmarkId)).speedCohort (storedRun "a" 1 20 none "") ≠
        (benchReaders (·.benchmarkId)).speedCohort (storedRun "b" 2 0 (some "none") "")) ∧
    (storedRun "a" 10 20 none "T10:00Z").equals (storedRun "a" 10 20 none "T12:00+02:00") = true ∧
    (assessSpeed (benchReaders (·.spelling)) benchPlan benchUse
        [storedRun "a" 10 20 none "T10:00Z", storedRun "a" 10 20 none "T12:00+02:00",
          storedRun "a" 11 30 none "T11:00Z"]).references.map (·.createdAt) = [11] ∧
    (assessSpeed (benchReaders (·.spelling)) benchPlan benchUse
        [storedRun "a" 10 20 none "T12:00+02:00", storedRun "a" 10 20 none "T10:00Z",
          storedRun "a" 11 30 none "T11:00Z"]).references.map (·.createdAt) = [10] := by
  refine ⟨⟨⟨?_, ?_⟩, ?_, ?_⟩, ?_, ?_, ?_⟩ <;> decide +kernel

end Examples

end Jaull.Recommendation
