import Jaull.Evaluation.BenchmarkComparison

/-!
# What a comparison shows

A comparison of benchmarks shows the newest successful run of each configuration among the runs that their
methodology keeps. Where no two runs are of one time it does not depend on the order of the records: equal
keys have one runtime, so the first record of a group stands for all of it.
-/

namespace Jaull.Evaluation
open Jaull.Cases Jaull.Domain Jaull.Lib Jaull.Recommendation Jaull.Text

/-- A record has the methodology that is preferred for its runtime. -/
def prefersOwn (record : CaseBenchmark) : Bool :=
  record.observation.methodology = preferredBenchmarkMethodology record.runtime.runtime

/-- A record is of the preferred methodology, or none of its workload is. -/
def keptAmong (records : List CaseBenchmark) (record : CaseBenchmark) : Bool :=
  prefersOwn record || !records.any fun other => workloadKey other = workloadKey record && prefersOwn other

/-- The successful records that methodology keeps. -/
def keptRecords (records : List CaseBenchmark) : List CaseBenchmark :=
  (records.filter (·.observation.success)).filter (keptAmong (records.filter (·.observation.success)))

/-- A record is the newest one of its configuration. -/
def Newest (records : List CaseBenchmark) (record : CaseBenchmark) : Prop :=
  record ∈ records ∧ ∀ other ∈ records, configurationKey other = configurationKey record →
    other.createdAt ≤ record.createdAt

/-- The number of records of a configuration. -/
def runsOf (records : List CaseBenchmark) (record : CaseBenchmark) : ℕ :=
  (records.filter fun other => configurationKey other = configurationKey record).length

section Workload
variable {a b record : CaseBenchmark} {records group : List CaseBenchmark} {key : List String}

lemma runtimeName_value_injective : Function.Injective RuntimeName.value := by
  intro a b eq
  cases a <;> cases b <;> first | rfl | (exact absurd eq (by decide))

/-- Records of one workload have one runtime, whatever their machines. -/
lemma runtime_of_workloadKey (same : workloadKey a = workloadKey b) : a.runtime.runtime = b.runtime.runtime := by
  have tails := (List.append_inj' same rfl).2
  simp only [List.cons.injEq] at tails
  exact runtimeName_value_injective tails.2.2.2.2.2.2.2.1

/-- The group of a workload. -/
lemma mem_workloadGroups (mem : (key, group) ∈ grouped (fun record => some (workloadKey record)) records) :
    group = records.filter (fun record => workloadKey record = key) ∧ group ≠ [] := by
  obtain ⟨eq, some⟩ := mem_grouped.mp mem
  refine ⟨?_, some⟩
  rw [eq]
  simp only [Option.some.injEq]

/-- In a group of one workload the first record speaks for all. -/
lemma preferredRecords_eq (one : ∀ a ∈ group, ∀ b ∈ group, workloadKey a = workloadKey b) :
    preferredRecords group = group.filter prefersOwn := by
  cases group with
  | nil => rfl
  | cons first rest =>
    rw [preferredRecords]
    apply List.filter_congr
    intro record mem
    rw [prefersOwn, runtime_of_workloadKey (one first List.mem_cons_self record mem)]

/-- A record of a workload is kept when it prefers its own artifact, or none there does. -/
lemma keptAmong_group (mem : (key, group) ∈ grouped (fun record => some (workloadKey record)) records)
    (memR : record ∈ group) : keptAmong records record = (prefersOwn record || !group.any prefersOwn) := by
  obtain ⟨eq, -⟩ := mem_workloadGroups mem
  have isKey : workloadKey record = key := by
    rw [eq] at memR
    exact of_decide_eq_true (List.mem_filter.mp memR).2
  rw [keptAmong, eq, List.any_filter, isKey]

/-- What is kept of a group are the records of it that are kept. -/
lemma preferOf_eq (mem : (key, group) ∈ grouped (fun record => some (workloadKey record)) records) :
    preferOf group = group.filter (keptAmong records) ∧
      omitsSome group = group.any fun record => !keptAmong records record := by
  have one : ∀ a ∈ group, ∀ b ∈ group, workloadKey a = workloadKey b := by
    rw [(mem_workloadGroups mem).1]
    intro a memA b memB
    exact (of_decide_eq_true (List.mem_filter.mp memA).2).trans
      (of_decide_eq_true (List.mem_filter.mp memB).2).symm
  have kept : ∀ record ∈ group, keptAmong records record = (prefersOwn record || !group.any prefersOwn) :=
    fun record memR => keptAmong_group mem memR
  rw [preferOf, omitsSome, preferredRecords_eq one]
  by_cases some : group.any prefersOwn = true
  · -- with a current record in the group, the current ones are kept
    have preferred : ∀ record ∈ group, keptAmong records record = prefersOwn record := by
      intro record memR
      rw [kept record memR, some, Bool.not_true, Bool.or_false]
    have filled : group.filter prefersOwn ≠ [] := by
      obtain ⟨record, memR, own⟩ := List.any_eq_true.mp some
      exact List.ne_nil_of_mem (List.mem_filter.mpr ⟨memR, own⟩)
    rw [if_neg filled]
    refine ⟨(List.filter_congr preferred).symm, ?_⟩
    rw [Bool.eq_iff_iff]
    simp only [filled, ne_eq, not_false_eq_true, decide_true, Bool.true_and, decide_eq_true_eq,
      List.length_filter_eq_length_iff, List.any_eq_true, Bool.not_eq_true']
    constructor
    · intro notAll
      by_contra none
      apply notAll
      intro record memR
      by_contra out
      exact none ⟨record, memR, (preferred record memR).trans (Bool.eq_false_iff.mpr out)⟩
    · intro found all
      obtain ⟨record, memR, out⟩ := found
      rw [preferred record memR, all record memR] at out
      cases out
  · -- without one, all of them are
    have none : group.filter prefersOwn = [] := by
      rw [List.filter_eq_nil_iff]
      intro record memR own
      exact some (List.any_eq_true.mpr ⟨record, memR, own⟩)
    have all : ∀ record ∈ group, keptAmong records record = true := by
      intro record memR
      rw [kept record memR, Bool.eq_false_iff.mpr some, Bool.not_false, Bool.or_true]
    rw [none, if_pos rfl]
    refine ⟨(List.filter_eq_self.mpr all).symm, ?_⟩
    rw [Bool.eq_iff_iff]
    constructor
    · intro eq
      cases eq
    · intro found
      obtain ⟨record, memR, out⟩ := List.any_eq_true.mp found
      rw [all record memR] at out
      cases out

/-- Methodology keeps the records that are kept, and says whether it leaves any out. -/
lemma preferCurrentMethodologies_eq (records : List CaseBenchmark) :
    (preferCurrentMethodologies records).1.Perm (records.filter (keptAmong records)) ∧
      (preferCurrentMethodologies records).2 =
        if records.any fun record => !keptAmong records record then
          ["Older benchmark methodologies were omitted from the default comparison."]
        else [] := by
  have perm := flatMap_grouped workloadKey records
  constructor
  · have flat : (preferCurrentMethodologies records).1 =
        ((grouped (fun record => some (workloadKey record)) records).flatMap Prod.snd).filter
          (keptAmong records) := by
      rw [preferCurrentMethodologies, List.flatMap_map, List.filter_flatMap]
      apply List.flatMap_congr
      intro entry mem
      exact (@preferOf_eq records entry.2 entry.1 mem).1
    rw [flat]
    exact perm.filter _
  · have omitted : ((grouped (fun record => some (workloadKey record)) records).map Prod.snd).any omitsSome =
        records.any fun record => !keptAmong records record := by
      rw [← perm.any_eq, List.any_flatMap, List.any_map, Bool.eq_iff_iff, List.any_eq_true, List.any_eq_true]
      apply exists_congr
      intro entry
      apply and_congr_right
      intro mem
      rw [Function.comp_apply, (@preferOf_eq records entry.2 entry.1 mem).2]
    rw [preferCurrentMethodologies]
    dsimp only
    rw [omitted]

end Workload

section Latest
variable {records records' : List CaseBenchmark} {record : CaseBenchmark}

/-- The newest record of each group. -/
def latestOf (records : List CaseBenchmark) : List CaseBenchmark :=
  (grouped (fun record => some (configurationKey record)) records).filterMap fun group =>
    (sortedBy (·.createdAt) group.2).getLast?

/-- No two records are of one time. -/
def TimesDiffer (records : List CaseBenchmark) : Prop :=
  (records.map (·.createdAt)).Nodup

instance (records : List CaseBenchmark) : Decidable (TimesDiffer records) :=
  inferInstanceAs (Decidable (List.Nodup _))

/-- Some of the records differ in time too. -/
lemma TimesDiffer.filter (differ : TimesDiffer records) (p : CaseBenchmark → Bool) :
    TimesDiffer (records.filter p) :=
  differ.sublist (List.filter_sublist.map _)

lemma TimesDiffer.perm (differ : TimesDiffer records) (perm : records'.Perm records) : TimesDiffer records' :=
  (perm.map _).nodup_iff.mpr differ

/-- The group of a configuration is its records. -/
lemma mem_configurationGroups {key : List String} {group : List CaseBenchmark} :
    (key, group) ∈ grouped (fun record => some (configurationKey record)) records ↔
      group = records.filter (fun record => configurationKey record = key) ∧ group ≠ [] := by
  rw [mem_grouped]
  simp only [Option.some.injEq]

/-- A group has a newest record, which is of its configuration. -/
lemma latest_of_group {key : List String} {group : List CaseBenchmark}
    (mem : (key, group) ∈ grouped (fun record => some (configurationKey record)) records) :
    ∃ newest, (sortedBy (·.createdAt) group).getLast? = some newest ∧ configurationKey newest = key ∧
      Newest records newest := by
  obtain ⟨eq, filled⟩ := mem_configurationGroups.mp mem
  have sorted : sortedBy (·.createdAt) group ≠ [] := mt sortedBy_eq_nil.mp filled
  obtain ⟨newest, last⟩ := Option.ne_none_iff_exists'.mp (mt List.getLast?_eq_none_iff.mp sorted)
  obtain ⟨memN, newer⟩ := le_sortedBy_getLast last
  have isKey : ∀ record, record ∈ group ↔ record ∈ records ∧ configurationKey record = key := by
    intro record
    rw [eq, List.mem_filter, decide_eq_true_eq]
  refine ⟨newest, last, ((isKey newest).mp memN).2, ((isKey newest).mp memN).1, ?_⟩
  intro other memO same
  exact newer other ((isKey other).mpr ⟨memO, same.trans ((isKey newest).mp memN).2⟩)

/-- The records picked are the newest ones. -/
lemma mem_latestOf (differ : TimesDiffer records) : record ∈ latestOf records ↔ Newest records record := by
  rw [latestOf, List.mem_filterMap]
  constructor
  · intro picked
    obtain ⟨entry, mem, last⟩ := picked
    obtain ⟨newest, last', -, isNewest⟩ := @latest_of_group records entry.1 entry.2 mem
    rw [last', Option.some.injEq] at last
    rw [← last]
    exact isNewest
  · intro isNewest
    have own : record ∈ records.filter fun other => configurationKey other = configurationKey record :=
      List.mem_filter.mpr ⟨isNewest.1, decide_eq_true rfl⟩
    have mem := mem_configurationGroups.mpr
      ⟨rfl, List.ne_nil_of_mem own⟩
    obtain ⟨newest, last, isKey, isNewest'⟩ := latest_of_group mem
    refine ⟨_, mem, ?_⟩
    have times : newest.createdAt = record.createdAt :=
      le_antisymm (isNewest.2 newest isNewest'.1 isKey) (isNewest'.2 record isNewest.1 isKey.symm)
    rw [List.inj_on_of_nodup_map differ isNewest'.1 isNewest.1 times] at last
    exact last

/-- One record is picked of each configuration. -/
lemma nodup_latestOf (records : List CaseBenchmark) : (latestOf records).Nodup := by
  have keys : (latestOf records).map configurationKey =
      (grouped (fun record => some (configurationKey record)) records).map Prod.fst := by
    apply map_filterMap_of_some
    intro entry mem
    obtain ⟨newest, last, isKey, -⟩ := @latest_of_group records entry.1 entry.2 mem
    exact ⟨newest, last, isKey⟩
  apply List.Nodup.of_map configurationKey
  rw [keys]
  exact nodup_keys_grouped _ _

lemma Newest.perm (perm : records'.Perm records) : Newest records' record ↔ Newest records record := by
  rw [Newest, Newest]
  simp only [perm.mem_iff]

/-- The newest records, oldest first, do not depend on the order of the records. -/
lemma sortedBy_latestOf_perm (differ : TimesDiffer records) (perm : records'.Perm records) :
    sortedBy (·.createdAt) (latestOf records') = sortedBy (·.createdAt) (latestOf records) := by
  have same : (latestOf records').Perm (latestOf records) := by
    apply (List.perm_ext_iff_of_nodup (nodup_latestOf records') (nodup_latestOf records)).mpr
    intro record
    rw [mem_latestOf (differ.perm perm), mem_latestOf differ, Newest.perm perm]
  apply sortedBy_eq_of_perm same
  apply List.Nodup.map_on ?_ (nodup_latestOf records)
  intro a memA b memB times
  exact List.inj_on_of_nodup_map differ ((mem_latestOf differ).mp memA).1 ((mem_latestOf differ).mp memB).1 times

/-- The count of a group is that of its records. -/
lemma lookup_lengths (groups : List (List String × List CaseBenchmark)) (key : List String) :
    ((groups.map fun group => (group.1, group.2.length)).lookup key).getD 0 =
      ((groups.lookup key).getD []).length := by
  induction groups with
  | nil => rfl
  | cons group rest ih =>
    rw [List.map_cons, List.lookup_cons, List.lookup_cons]
    split
    · rfl
    · exact ih

/-- The count of a configuration is the number of its records. -/
lemma lookup_runCounts (records : List CaseBenchmark) (record : CaseBenchmark) :
    (((grouped (fun record => some (configurationKey record)) records).map
      fun group => (group.1, group.2.length)).lookup (configurationKey record)).getD 0 = runsOf records record := by
  have found := getD_lookup_grouped (fun record => some (configurationKey record)) records (configurationKey record)
  rw [lawful_beq_subsingleton instBEqOfDecidableEq List.instBEq] at found
  rw [lookup_lengths, found, runsOf]
  simp only [Option.some.injEq]

lemma runsOf_perm (perm : records'.Perm records) (record : CaseBenchmark) :
    runsOf records' record = runsOf records record :=
  (perm.filter _).length_eq

end Latest

section Comparison
variable {records records' : List CaseBenchmark}

/-- The warnings about the records that are not compared. -/
def selectionWarnings (records : List CaseBenchmark) : List String :=
  let successful := records.filter (·.observation.success)
  (if successful.any fun record => !keptAmong successful record then
    ["Older benchmark methodologies were omitted from the default comparison."] else []) ++
  (if successful.length ≠ records.length then
    ["Failed benchmark runs were excluded from performance comparison."] else [])

/-- The comparison is that of the newest records of those kept, oldest first. -/
lemma compareBenchmarkRecords_eq (differ : TimesDiffer records) (modelIdentity : ModelIdentity) :
    compareBenchmarkRecords modelIdentity records =
      comparisonOf modelIdentity (sortedBy (·.createdAt) (latestOf (keptRecords records)))
        (runsOf (keptRecords records)) (selectionWarnings records) := by
  rw [compareBenchmarkRecords, latestRecordsByConfiguration]
  by_cases empty : records = []
  · subst empty
    rfl
  · obtain ⟨kept, omitted⟩ := preferCurrentMethodologies_eq (records.filter (·.observation.success))
    have differ' : TimesDiffer (keptRecords records) := (differ.filter _).filter _
    have selected := sortedBy_latestOf_perm differ' kept
    have warnings : (if (records.filter (·.observation.success)).length ≠ records.length then
          (preferCurrentMethodologies (records.filter (·.observation.success))).2 ++
            ["Failed benchmark runs were excluded from performance comparison."]
        else (preferCurrentMethodologies (records.filter (·.observation.success))).2) =
        selectionWarnings records := by
      rw [omitted, selectionWarnings]
      split
      · rfl
      · exact (List.append_nil _).symm
    rw [if_neg empty]
    dsimp only
    rw [warnings]
    rw [← latestOf, selected]
    congr 1
    funext record
    rw [lookup_runCounts]
    exact runsOf_perm kept record

lemma keptAmong_perm (perm : records'.Perm records) : keptAmong records' = keptAmong records := by
  funext record
  rw [keptAmong, keptAmong, perm.any_eq]

/-- The records that are kept are the same ones. -/
lemma keptRecords_perm (perm : records'.Perm records) : (keptRecords records').Perm (keptRecords records) := by
  have successful := perm.filter (·.observation.success)
  rw [keptRecords, keptRecords, keptAmong_perm successful]
  exact successful.filter _

/-- Nor do the warnings. -/
lemma selectionWarnings_perm (perm : records'.Perm records) :
    selectionWarnings records' = selectionWarnings records := by
  have successful := perm.filter (·.observation.success)
  rw [selectionWarnings, selectionWarnings, keptAmong_perm successful, successful.any_eq, successful.length_eq,
    perm.length_eq]

/-- Where no two records are of one time the comparison does not depend on their order, and its plans are the
newest successful records of their configurations among those that methodology keeps, each with the number of
these. -/
theorem compareBenchmarkRecords_newest (differ : TimesDiffer records) (modelIdentity : ModelIdentity) :
    (∀ records', records'.Perm records →
      compareBenchmarkRecords modelIdentity records' = compareBenchmarkRecords modelIdentity records) ∧
    ∀ plan, plan ∈ (compareBenchmarkRecords modelIdentity records).plans ↔
      ∃ record, Newest (keptRecords records) record ∧
        plan = planSummary record (runsOf (keptRecords records) record) := by
  have differ' : TimesDiffer (keptRecords records) := (differ.filter _).filter _
  constructor
  · intro records' perm
    have kept := keptRecords_perm perm
    have counts : runsOf (keptRecords records') = runsOf (keptRecords records) := funext (runsOf_perm kept)
    rw [compareBenchmarkRecords_eq differ, compareBenchmarkRecords_eq (differ.perm perm), counts,
      sortedBy_latestOf_perm differ' kept, selectionWarnings_perm perm]
  · intro plan
    rw [compareBenchmarkRecords_eq differ, comparisonOf]
    dsimp only
    rw [List.mem_map]
    constructor
    · intro shown
      obtain ⟨record, mem, eq⟩ := shown
      exact ⟨record, (mem_latestOf differ').mp (mem_sortedBy.mp mem), eq.symm⟩
    · intro found
      obtain ⟨record, newest, eq⟩ := found
      exact ⟨record, mem_sortedBy.mpr ((mem_latestOf differ').mpr newest), eq.symm⟩

/-- A run of a model on a machine at a time. -/
def timedRun (benchmarkId : String) (createdAt : ℤ) (rate : ℚ) : CaseBenchmark where
  benchmarkId := benchmarkId
  createdAt := createdAt
  hardware := { os := "Linux", arch := "x86_64", cpu := {}, memory := { totalBytes := 16, availableBytes := 8 } }
  artifact := { repoId := "org/model", revision := "main", filename := "model.gguf", format := "gguf" }
  runtime := { runtime := .llamaCpp, confidence := .high }
  requestedBackend := .cpu
  gpuLayers := .count 0
  generationSizes := [128]
  observation :=
    { success := true
      repetitions := 5
      methodology := some "llama_bench_v2"
      measurements :=
        [{ kind := .generation, tokens := 128, meanTokensPerSecond := rate, stddevTokensPerSecond := 0 }] }

/-- The comparison of the two runs. -/
theorem timedRuns_compared :
    compareBenchmarkRecords { modelName := "model" } [timedRun "bench-2" 2 11, timedRun "bench-1" 1 10] =
      compareBenchmarkRecords { modelName := "model" } [timedRun "bench-1" 1 10, timedRun "bench-2" 2 11] :=
  (compareBenchmarkRecords_newest (by decide) { modelName := "model" }).1 _ (List.Perm.swap _ _ _)

end Comparison

end Jaull.Evaluation
