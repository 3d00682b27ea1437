import Jaull.Cases.Validation
import Mathlib.Data.Finset.Card
import Mathlib.Data.List.Forall2

/-!
# Grouping more evidence

Whether a case can look better with more records or files in it. Every check but one gets no better; a
benchmark that declares no context hides that others declare the wrong one.
-/

namespace Jaull.Cases
open Jaull.Domain Jaull.Evaluation Jaull.Lib Jaull.Recommendation Jaull.Text

section Statuses
variable {statuses statuses' : List CaseConsistencyStatus} {status : CaseConsistencyStatus}

/-- How bad a status is. -/
def CaseConsistencyStatus.rank : CaseConsistencyStatus → ℕ
  | .valid => 0
  | .partly => 1
  | .inconsistent => 2

/-- The worst status is `INCONSISTENT` when one of them is. -/
lemma worstStatus_eq_inconsistent : worstStatus statuses = .inconsistent ↔ .inconsistent ∈ statuses := by
  rw [worstStatus]
  split
  · rename_i mem
    exact iff_of_true rfl mem
  · rename_i absent
    split
    · exact iff_of_false nofun absent
    · exact iff_of_false nofun absent

/-- The worst status is bounded by what bounds all. -/
lemma rank_worstStatus_le {n : ℕ} : (worstStatus statuses).rank ≤ n ↔ ∀ s ∈ statuses, s.rank ≤ n := by
  rw [worstStatus]
  constructor
  · intro le s mem
    cases s with
    | valid => exact Nat.zero_le _
    | inconsistent =>
      rw [if_pos mem] at le
      exact le
    | partly =>
      split at le
      · exact le_trans (Nat.le_succ 1) le
      · exact le
  · intro all
    split
    · rename_i mem
      exact all _ mem
    · split
      · rename_i mem
        exact all _ mem
      · exact Nat.zero_le _

/-- Where no status gets better, the worst gets no better. -/
lemma rank_worstStatus_mono (le : List.Forall₂ (fun s t => s.rank ≤ t.rank) statuses statuses') :
    (worstStatus statuses).rank ≤ (worstStatus statuses').rank := by
  rw [rank_worstStatus_le]
  have bounded : ∀ t ∈ statuses', t.rank ≤ (worstStatus statuses').rank :=
    rank_worstStatus_le.mp (le_refl _)
  revert bounded
  generalize (worstStatus statuses').rank = n
  induction le with
  | nil =>
    intro _ s mem
    cases mem
  | cons first _ ih =>
    intro bounded
    rw [List.forall_mem_cons] at bounded ⊢
    exact ⟨first.trans bounded.1, ih bounded.2⟩

/-- There are three ranks. -/
lemma rank_le_two (status : CaseConsistencyStatus) : status.rank ≤ 2 := by
  cases status with
  | valid => exact Nat.zero_le _
  | partly => exact Nat.le_succ 1
  | inconsistent => exact le_refl _

/-- The last of them is `INCONSISTENT`. -/
lemma rank_lt_two : status.rank < 2 ↔ status ≠ .inconsistent := by
  cases status with
  | valid => exact iff_of_true (by decide) nofun
  | partly => exact iff_of_true (by decide) nofun
  | inconsistent => exact iff_of_false (by decide) (not_not.mpr rfl)

end Statuses

section Checks
variable {identity : ExperimentalCaseIdentity} {experiment : CaseExperiment}
  {benchmarks benchmarks' : List CaseBenchmark} (more : benchmarks ⊆ benchmarks')

section Findings
variable {name : String} {fault : CaseConsistencyStatus} {reasons reasons' : List (List ℕ)}
  {fine fine' : List ℕ}

/-- A check without reasons is fine. -/
lemma findings_status : (findings name fault reasons fine).check.status =
    if reasons = [] then .valid else fault := by
  rw [findings]
  split
  · rfl
  · rfl

/-- A check that finds faults fails on any reason. -/
lemma findings_inconsistent :
    (findings name .inconsistent reasons fine).check.status = .inconsistent ↔ reasons ≠ [] := by
  rw [findings_status]
  split
  · rename_i none
    exact iff_of_false nofun (not_not.mpr none)
  · rename_i some
    exact iff_of_true rfl some

/-- One that finds less does not fail. -/
lemma findings_sound (mild : fault ≠ .inconsistent) :
    (findings name fault reasons fine).check.status ≠ .inconsistent := by
  rw [findings_status]
  split
  · exact nofun
  · exact mild

/-- A check gets no better when nothing that was said goes away. -/
lemma findings_mono (stays : reasons' = [] → reasons = []) :
    (findings name fault reasons fine).check.status.rank ≤
      (findings name fault reasons' fine').check.status.rank := by
  rw [findings_status, findings_status]
  split
  · exact Nat.zero_le _
  · rename_i some
    rw [if_neg fun none => some (stays none)]

end Findings

/-- Nothing mismatches when the experiment and all benchmarks fit. -/
lemma mismatched_eq_nil {fits : Bool} {benchmarkFits : CaseBenchmark → Bool} {text : String}
    {benchmarkText : CaseBenchmark → String} :
    mismatched experiment benchmarks fits benchmarkFits text benchmarkText = [] ↔
      fits = true ∧ ∀ benchmark ∈ benchmarks, benchmarkFits benchmark = true := by
  rw [mismatched, List.append_eq_nil_iff, List.map_eq_nil_iff, List.filter_eq_nil_iff]
  refine and_congr ?_ ?_
  · rw [ite_eq_left_iff]
    constructor
    · intro none
      by_contra misfit
      cases none misfit
    · intro fits' misfit
      exact absurd fits' misfit
  · simp only [Bool.not_eq_true', Bool.not_eq_false]

/-- There are two values when two of them differ. -/
lemma one_lt_length_dedup {α : Type} [DecidableEq α] {l : List α} :
    1 < l.dedup.length ↔ ∃ x ∈ l, ∃ y ∈ l, x ≠ y := by
  rw [← List.card_toFinset, Finset.one_lt_card]
  simp only [List.mem_toFinset]

/-- The digests that records declare. -/
def digestsOf (experiment : CaseExperiment) (benchmarks : List CaseBenchmark) : List (Option String) :=
  experiment.artifact.sha256 :: benchmarks.map (·.artifact.sha256)

/-- Two records declare different digests. -/
def DigestsDiffer (experiment : CaseExperiment) (benchmarks : List CaseBenchmark) : Prop :=
  ∃ a b, some a ∈ digestsOf experiment benchmarks ∧ some b ∈ digestsOf experiment benchmarks ∧
    lower a ≠ lower b

/-- The digests differ when two of the records do. -/
lemma digests_differ : 1 < (((digestsOf experiment benchmarks).filterMap id).map lower).dedup.length ↔
    DigestsDiffer experiment benchmarks := by
  have known : ∀ x, x ∈ ((digestsOf experiment benchmarks).filterMap id).map lower ↔
      ∃ a, some a ∈ digestsOf experiment benchmarks ∧ lower a = x := by
    intro x
    simp only [List.mem_map, List.mem_filterMap, id_eq, exists_eq_right]
  rw [one_lt_length_dedup]
  simp only [known]
  constructor
  · intro ⟨x, ⟨a, memA, eqA⟩, y, ⟨b, memB, eqB⟩, ne⟩
    exact ⟨a, b, memA, memB, by rw [eqA, eqB]; exact ne⟩
  · intro ⟨a, b, memA, memB, ne⟩
    exact ⟨lower a, ⟨a, memA, rfl⟩, lower b, ⟨b, memB, rfl⟩, ne⟩

open scoped Classical in
/-- What the check of digests comes to. -/
lemma checkArtifactHash_status : (checkArtifactHash experiment benchmarks).check.status =
    if DigestsDiffer experiment benchmarks then .inconsistent
    else if none ∈ digestsOf experiment benchmarks then .partly
    else .valid := by
  have differ := @digests_differ experiment benchmarks
  rw [checkArtifactHash]
  rw [← digestsOf]
  by_cases two : DigestsDiffer experiment benchmarks
  · rw [if_pos two, if_pos (differ.mpr two)]
  · rw [if_neg two, if_neg (differ.not.mpr two)]
    split
    · rfl
    · rfl

/-- The builds that records name. -/
def buildsOf (experiment : CaseExperiment) (benchmarks : List CaseBenchmark) : List (Option String) :=
  runtimeCapabilityVersion (some experiment.versions) :: benchmarks.map benchmarkBuild

/-- The builds are compared for warnings only. -/
lemma checkRuntimeBuild_status : (checkRuntimeBuild experiment benchmarks).check.status =
    if none ∈ buildsOf experiment benchmarks then .partly else .valid := by
  rw [checkRuntimeBuild]
  rw [← buildsOf]
  cases known : sortedBy id ((buildsOf experiment benchmarks).filterMap id).dedup with
  | nil =>
    -- The experiment's build stands in the list: it can only be unknown.
    have first : runtimeCapabilityVersion (some experiment.versions) ∈ buildsOf experiment benchmarks :=
      List.mem_cons_self
    cases version : runtimeCapabilityVersion (some experiment.versions) with
    | none =>
      rw [version] at first
      exact (if_pos first).symm
    | some build =>
      have mem : build ∈ sortedBy id ((buildsOf experiment benchmarks).filterMap id).dedup := by
        rw [mem_sortedBy, List.mem_dedup, List.mem_filterMap]
        exact ⟨_, first, version⟩
      rw [known] at mem
      cases mem
  | cons first rest =>
    dsimp only
    split
    · rfl
    · rfl

/-- The contexts that benchmarks declare. -/
def contextsOf (benchmarks : List CaseBenchmark) : List (Option ℤ) :=
  benchmarks.map (·.contextLength)

/-- Every benchmark declares a context, and one declares another than the experiment's. -/
def ContextDiffers (experiment : CaseExperiment) (benchmarks : List CaseBenchmark) : Prop :=
  none ∉ contextsOf benchmarks ∧
    ∃ length ∈ contextsOf benchmarks, length ≠ some experiment.predictedConfiguration.contextLength

/-- The context is fine when every benchmark declares that of the experiment. -/
lemma checkContext_valid : (checkContext experiment benchmarks).check.status = .valid ↔
    ∀ length ∈ contextsOf benchmarks, length = some experiment.predictedConfiguration.contextLength := by
  rw [checkContext]
  dsimp only
  split
  · rename_i empty
    subst empty
    exact iff_of_true rfl (List.forall_mem_nil _)
  · split
    · rename_i same
      exact iff_of_true rfl same
    · rename_i differs
      split
      · exact iff_of_false nofun differs
      · exact iff_of_false nofun differs

/-- It is not when one declares another. -/
lemma checkContext_inconsistent : (checkContext experiment benchmarks).check.status = .inconsistent ↔
    ContextDiffers experiment benchmarks := by
  rw [checkContext]
  dsimp only
  split
  · rename_i empty
    subst empty
    refine iff_of_false nofun ?_
    intro ⟨_, length, mem, _⟩
    cases mem
  · split
    · rename_i same
      refine iff_of_false nofun ?_
      intro ⟨_, length, mem, ne⟩
      exact ne (same length mem)
    · rename_i differs
      split
      · rename_i undeclared
        exact iff_of_false nofun fun ⟨all, _⟩ => all undeclared
      · rename_i all
        refine iff_of_true rfl ⟨all, ?_⟩
        by_contra none
        refine differs fun length mem => ?_
        by_contra ne
        exact none ⟨length, mem, ne⟩

/-- The check of the context gets better only where a benchmark without a context joins benchmarks that all
declare one. -/
lemma checkContext_mono (more : benchmarks ⊆ benchmarks')
    (kept : ¬(ContextDiffers experiment benchmarks ∧ none ∈ contextsOf benchmarks')) :
    (checkContext experiment benchmarks).check.status.rank ≤
      (checkContext experiment benchmarks').check.status.rank := by
  have contexts : contextsOf benchmarks ⊆ contextsOf benchmarks' := List.map_subset _ more
  cases status : (checkContext experiment benchmarks).check.status with
  | valid => exact Nat.zero_le _
  | partly =>
    cases status' : (checkContext experiment benchmarks').check.status with
    | valid =>
      rw [checkContext_valid] at status'
      have valid := checkContext_valid.mpr fun length mem => status' length (contexts mem)
      cases status.symm.trans valid
    | partly => exact le_refl _
    | inconsistent => exact Nat.le_succ 1
  | inconsistent =>
    rw [checkContext_inconsistent] at status
    have all : none ∉ contextsOf benchmarks' := fun undeclared => kept ⟨status, undeclared⟩
    obtain ⟨-, length, mem, ne⟩ := status
    rw [checkContext_inconsistent.mpr ⟨all, length, contexts mem, ne⟩]

include more

/-- More benchmarks do not improve the check of digests. -/
lemma checkArtifactHash_mono : (checkArtifactHash experiment benchmarks).check.status.rank ≤
    (checkArtifactHash experiment benchmarks').check.status.rank := by
  have digests : digestsOf experiment benchmarks ⊆ digestsOf experiment benchmarks' :=
    List.cons_subset_cons _ (List.map_subset _ more)
  rw [checkArtifactHash_status, checkArtifactHash_status]
  by_cases conflict : DigestsDiffer experiment benchmarks
  · obtain ⟨a, b, memA, memB, ne⟩ := conflict
    have differ' : DigestsDiffer experiment benchmarks' := ⟨a, b, digests memA, digests memB, ne⟩
    rw [if_pos differ']
    exact rank_le_two _
  · rw [if_neg conflict]
    split
    · rename_i unknown
      split
      · exact Nat.le_succ 1
      · rw [if_pos (digests unknown)]
    · exact Nat.zero_le _

/-- Nor that of builds. -/
lemma checkRuntimeBuild_mono : (checkRuntimeBuild experiment benchmarks).check.status.rank ≤
    (checkRuntimeBuild experiment benchmarks').check.status.rank := by
  have builds : buildsOf experiment benchmarks ⊆ buildsOf experiment benchmarks' :=
    List.cons_subset_cons _ (List.map_subset _ more)
  rw [checkRuntimeBuild_status, checkRuntimeBuild_status]
  split
  · rename_i unknown
    rw [if_pos (builds unknown)]
  · exact Nat.zero_le _

/-- Nor that of provenance. -/
lemma checkProvenance_mono : (checkProvenance experiment benchmarks).check.status.rank ≤
    (checkProvenance experiment benchmarks').check.status.rank := by
  refine findings_mono ?_
  rw [List.append_eq_nil_iff, List.append_eq_nil_iff, List.append_eq_nil_iff, List.append_eq_nil_iff]
  intro ⟨⟨recorded, ran⟩, observed⟩
  refine ⟨⟨?_, ran⟩, observed⟩
  rw [ite_eq_right_iff] at recorded ⊢
  intro missing
  refine recorded (missing.imp_right fun mem => ?_)
  exact List.map_subset _ more mem

/-- What fits with more benchmarks fits with fewer. -/
lemma mismatched_mono {fits : Bool} {benchmarkFits : CaseBenchmark → Bool} {text : String}
    {benchmarkText : CaseBenchmark → String}
    (none : mismatched experiment benchmarks' fits benchmarkFits text benchmarkText = []) :
    mismatched experiment benchmarks fits benchmarkFits text benchmarkText = [] := by
  rw [mismatched_eq_nil] at none ⊢
  exact ⟨none.1, fun benchmark mem => none.2 benchmark (more mem)⟩

/-- More benchmarks do not improve the check of machines. -/
lemma checkMachine_mono : (checkMachine identity experiment benchmarks).check.status.rank ≤
    (checkMachine identity experiment benchmarks').check.status.rank :=
  findings_mono (mismatched_mono more)

/-- Nor that of artifacts. -/
lemma checkArtifact_mono : (checkArtifact identity experiment benchmarks).check.status.rank ≤
    (checkArtifact identity experiment benchmarks').check.status.rank :=
  findings_mono (mismatched_mono more)

/-- Nor that of runtimes. -/
lemma checkRuntimeFamily_mono : (checkRuntimeFamily identity experiment benchmarks).check.status.rank ≤
    (checkRuntimeFamily identity experiment benchmarks').check.status.rank :=
  findings_mono (mismatched_mono more)

end Checks

section Evidence
variable {sha256 : List UInt8 → String} {root : EvidenceRoot}
  {references references' : List EvidenceFileReference} {checked checked' : Checked}

/-- Evidence is fine when each reference is. -/
lemma evidenceProblems_fine {files : PyString → EvidenceFile} {problems : List (List (List ℕ))}
    (looked : references.mapM (evidenceProblems sha256 files) = some problems) :
    problems.flatten = [] ↔
      ∀ reference ∈ references, evidenceProblems sha256 files reference = some [] := by
  induction references generalizing problems with
  | nil =>
    cases looked
    exact iff_of_true rfl (List.forall_mem_nil _)
  | cons reference rest ih =>
    rw [List.mapM_cons] at looked
    cases first : evidenceProblems sha256 files reference with
    | none =>
      rw [first] at looked
      cases looked
    | some said =>
      cases others : rest.mapM (evidenceProblems sha256 files) with
      | none =>
        rw [first, others] at looked
        cases looked
      | some problems' =>
        rw [first, others] at looked
        cases looked
        rw [List.forall_mem_cons, ← ih others, List.flatten_cons, List.append_eq_nil_iff, first,
          Option.some.injEq]

/-- The check of the evidence: nothing is said, and it is valid exactly when every reference is fine. -/
lemma checkEvidence_status (check : checkEvidence sha256 root references = some checked) :
    checked.check.status ≠ .inconsistent ∧ (checked.check.status = .valid ↔ references = [] ∨
      ∃ files, root.files = some files ∧
        ∀ reference ∈ references, evidenceProblems sha256 files reference = some []) := by
  rw [checkEvidence] at check
  split at check
  · rename_i empty
    cases check
    exact ⟨nofun, iff_of_true rfl (.inl empty)⟩
  · rename_i some'
    cases resolved : root.files with
    | none =>
      rw [resolved] at check
      cases check
      rw [findings_status, if_neg (List.cons_ne_nil _ _)]
      refine ⟨nofun, iff_of_false nofun ?_⟩
      intro fine
      rcases fine with empty | ⟨files, eq, -⟩
      · exact some' empty
      · cases eq
    | some files =>
      rw [resolved] at check
      obtain ⟨problems, looked, eq⟩ := Option.bind_eq_some_iff.mp check
      cases eq
      rw [findings_status]
      have fine := evidenceProblems_fine looked
      split
      · rename_i none
        refine ⟨nofun, iff_of_true rfl (.inr ⟨files, rfl, fine.mp none⟩)⟩
      · rename_i bad
        refine ⟨nofun, iff_of_false nofun ?_⟩
        intro fine'
        rcases fine' with empty | ⟨files', eq, all⟩
        · exact some' empty
        · cases eq
          exact bad (fine.mpr all)

/-- More references do not improve the check of evidence. -/
lemma checkEvidence_mono (more : references ⊆ references')
    (check : checkEvidence sha256 root references = some checked)
    (check' : checkEvidence sha256 root references' = some checked') :
    checked.check.status.rank ≤ checked'.check.status.rank := by
  obtain ⟨sound, valid⟩ := checkEvidence_status check
  obtain ⟨-, valid'⟩ := checkEvidence_status check'
  cases status' : checked'.check.status with
  | valid =>
    have fine : references = [] ∨ ∃ files, root.files = some files ∧
        ∀ reference ∈ references, evidenceProblems sha256 files reference = some [] := by
      rcases valid'.mp status' with rfl | ⟨files, eq, all⟩
      · exact .inl (List.subset_nil.mp more)
      · exact .inr ⟨files, eq, fun reference mem => all reference (more mem)⟩
    rw [valid.mpr fine]
  | partly => exact Nat.le_of_lt_succ (rank_lt_two.mpr sound)
  | inconsistent => exact rank_le_two _

end Evidence

section Cases
variable {sha256 : List UInt8 → String} {loaders : RecordLoaders} {root : EvidenceRoot}
  {manifest manifest' : ExperimentalCaseManifest} {verdict verdict' : CaseValidationResult}

/-- The benchmarks of a manifest that load. -/
def loadedBenchmarks (loaders : RecordLoaders) (manifest : ExperimentalCaseManifest) : List CaseBenchmark :=
  manifest.benchmarkRecordIds.filterMap fun id => (loaders.loadBenchmark id).toOption

/-- A manifest with more benchmarks or evidence. -/
structure Extends (manifest manifest' : ExperimentalCaseManifest) : Prop where
  identity : manifest'.identity = manifest.identity
  experiment : manifest'.experimentRecordId = manifest.experimentRecordId
  benchmarks : manifest.benchmarkRecordIds ⊆ manifest'.benchmarkRecordIds
  evidence : manifest.evidenceFiles ⊆ manifest'.evidenceFiles

/-- Everything loads, and no records contradict the case or one another but in the contexts they declare. -/
structure AgreesElsewhere (loaders : RecordLoaders) (manifest : ExperimentalCaseManifest)
    (experiment : CaseExperiment) : Prop where
  loads : ∀ id ∈ manifest.benchmarkRecordIds, ∃ benchmark, loaders.loadBenchmark id = .ok benchmark
  machine : machineFingerprint experiment.hardware = manifest.identity.machineFingerprint
  machines : ∀ benchmark ∈ loadedBenchmarks loaders manifest,
    machineFingerprint benchmark.hardware = manifest.identity.machineFingerprint
  artifact : ArtifactIdentity.of experiment.artifact = manifest.identity.artifact
  artifacts : ∀ benchmark ∈ loadedBenchmarks loaders manifest,
    artifactIdentityMatches experiment.artifact benchmark.artifact = true
  digests : ¬DigestsDiffer experiment (loadedBenchmarks loaders manifest)
  runtime : experiment.runtime.runtime = manifest.identity.runtime
  runtimes : ∀ benchmark ∈ loadedBenchmarks loaders manifest,
    benchmark.runtime.runtime = manifest.identity.runtime

/-- The only contradiction of a case is in the contexts that its benchmarks declare, and the larger case has a
benchmark that declares none. -/
def HidesContext (loaders : RecordLoaders) (manifest manifest' : ExperimentalCaseManifest) : Prop :=
  ∃ experiment, loaders.loadExperiment manifest.experimentRecordId = .ok experiment ∧
    ContextDiffers experiment (loadedBenchmarks loaders manifest) ∧
    none ∈ contextsOf (loadedBenchmarks loaders manifest') ∧
    AgreesElsewhere loaders manifest' experiment

/-- What is said of records that do not load. -/
def missingOf (loaders : RecordLoaders) (manifest : ExperimentalCaseManifest) : List (List ℕ) :=
  (loadRecords loaders manifest).2.2

/-- What is loaded, and what is missing. -/
lemma loadRecords_eq : loadRecords loaders manifest =
    ((loaders.loadExperiment manifest.experimentRecordId).toOption, loadedBenchmarks loaders manifest,
      missingOf loaders manifest) := by
  have benchmarks : (loadRecords loaders manifest).2.1 = loadedBenchmarks loaders manifest :=
    List.filterMap_map
  exact Prod.ext rfl (Prod.ext benchmarks rfl)

/-- Nothing is missing when all of it loads. -/
lemma missingOf_eq_nil : missingOf loaders manifest = [] ↔
    (∃ experiment, loaders.loadExperiment manifest.experimentRecordId = .ok experiment) ∧
      ∀ id ∈ manifest.benchmarkRecordIds, ∃ benchmark, loaders.loadBenchmark id = .ok benchmark := by
  rw [missingOf, loadRecords, List.append_eq_nil_iff, List.filterMap_map, List.filterMap_eq_nil_iff]
  refine and_congr ?_ ?_
  · cases loaders.loadExperiment manifest.experimentRecordId with
    | ok experiment => exact iff_of_true rfl ⟨experiment, rfl⟩
    | error text =>
      refine iff_of_false (List.cons_ne_nil _ _) ?_
      intro ⟨experiment, eq⟩
      cases eq
  · refine forall₂_congr fun id _ => ?_
    rw [Function.comp_apply]
    cases loaders.loadBenchmark id with
    | ok benchmark => exact iff_of_true rfl ⟨benchmark, rfl⟩
    | error text =>
      refine iff_of_false (Option.some_ne_none _) ?_
      intro ⟨benchmark, eq⟩
      cases eq

/-- The checks of a case whose experiment loads. -/
def checksOf (loaders : RecordLoaders) (manifest : ExperimentalCaseManifest) (experiment : CaseExperiment)
    (evidence : Checked) : List Checked :=
  let benchmarks := loadedBenchmarks loaders manifest
  [checkRecords benchmarks (missingOf loaders manifest),
    checkMachine manifest.identity experiment benchmarks,
    checkArtifact manifest.identity experiment benchmarks, checkArtifactHash experiment benchmarks,
    checkRuntimeFamily manifest.identity experiment benchmarks, checkRuntimeBuild experiment benchmarks,
    checkConditions experiment benchmarks, checkContext experiment benchmarks,
    checkProvenance experiment benchmarks, evidence]

/-- What validation does where the experiment loads. -/
lemma validate_of_loads {experiment : CaseExperiment}
    (loads : loaders.loadExperiment manifest.experimentRecordId = .ok experiment) :
    validate sha256 loaders root manifest = (checkEvidence sha256 root manifest.evidenceFiles).map
      fun evidence => result manifest.identity.caseId (checksOf loaders manifest experiment evidence) := by
  rw [validate, loadRecords_eq, loads]
  dsimp only
  cases checkEvidence sha256 root manifest.evidenceFiles with
  | none => rfl
  | some evidence => rfl

/-- What validation does where the experiment does not load. -/
lemma validate_of_missing {text : List ℕ}
    (missing : loaders.loadExperiment manifest.experimentRecordId = .error text) :
    validate sha256 loaders root manifest = (checkEvidence sha256 root manifest.evidenceFiles).map
      fun evidence => result manifest.identity.caseId
        [checkRecords (loadedBenchmarks loaders manifest) (missingOf loaders manifest), evidence] := by
  rw [validate, loadRecords_eq, missing]
  dsimp only
  cases checkEvidence sha256 root manifest.evidenceFiles with
  | none => rfl
  | some evidence => rfl

section Growing
variable (extends' : Extends manifest manifest')
include extends'

/-- An extended manifest loads at least as many benchmarks. -/
lemma Extends.loaded : loadedBenchmarks loaders manifest ⊆ loadedBenchmarks loaders manifest' := by
  intro benchmark mem
  obtain ⟨id, there, loaded⟩ := List.mem_filterMap.mp mem
  exact List.mem_filterMap.mpr ⟨id, extends'.benchmarks there, loaded⟩

/-- It does not improve the check of records. -/
lemma Extends.checkRecords_mono {benchmarks benchmarks' : List CaseBenchmark} :
    (checkRecords benchmarks (missingOf loaders manifest)).check.status.rank ≤
      (checkRecords benchmarks' (missingOf loaders manifest')).check.status.rank := by
  refine findings_mono ?_
  rw [missingOf_eq_nil, missingOf_eq_nil, extends'.experiment]
  intro ⟨experiment, all⟩
  exact ⟨experiment, fun id mem => all id (extends'.benchmarks mem)⟩

/-- No check gets better but the one of the context. -/
lemma Extends.checks_mono {experiment : CaseExperiment} {evidence evidence' : Checked}
    (context : (checkContext experiment (loadedBenchmarks loaders manifest)).check.status.rank ≤
      (checkContext experiment (loadedBenchmarks loaders manifest')).check.status.rank)
    (last : evidence.check.status.rank ≤ evidence'.check.status.rank) :
    List.Forall₂ (fun s t => s.rank ≤ t.rank)
      ((checksOf loaders manifest experiment evidence).map (·.check.status))
      ((checksOf loaders manifest' experiment evidence').map (·.check.status)) := by
  have more : loadedBenchmarks loaders manifest ⊆ loadedBenchmarks loaders manifest' := extends'.loaded
  refine .cons extends'.checkRecords_mono (.cons ?_ (.cons ?_ (.cons (checkArtifactHash_mono more)
    (.cons ?_ (.cons (checkRuntimeBuild_mono more) (.cons (le_refl _) (.cons context
      (.cons (checkProvenance_mono more) (.cons last .nil)))))))))
  · rw [extends'.identity]
    exact checkMachine_mono more
  · rw [extends'.identity]
    exact checkArtifact_mono more
  · rw [extends'.identity]
    exact checkRuntimeFamily_mono more

end Growing

/-- What it takes that none of the checks finds a contradiction. -/
lemma no_contradiction {experiment : CaseExperiment} {evidence : Checked}
    (loads : loaders.loadExperiment manifest.experimentRecordId = .ok experiment)
    (sound : evidence.check.status ≠ .inconsistent) :
    worstStatus ((checksOf loaders manifest experiment evidence).map (·.check.status)) ≠ .inconsistent ↔
      AgreesElsewhere loaders manifest experiment ∧
        ¬ContextDiffers experiment (loadedBenchmarks loaders manifest) := by
  -- check by check, when it reports a contradiction
  have exist : (checkRecords (loadedBenchmarks loaders manifest)
      (missingOf loaders manifest)).check.status = .inconsistent ↔
        ¬∀ id ∈ manifest.benchmarkRecordIds, ∃ benchmark, loaders.loadBenchmark id = .ok benchmark := by
    rw [checkRecords, findings_inconsistent, Ne, missingOf_eq_nil, and_iff_right ⟨experiment, loads⟩]
  have hash : (checkArtifactHash experiment (loadedBenchmarks loaders manifest)).check.status =
      .inconsistent ↔ DigestsDiffer experiment (loadedBenchmarks loaders manifest) := by
    rw [checkArtifactHash_status]
    split
    · rename_i conflict
      exact iff_of_true rfl conflict
    · rename_i none
      split
      · exact iff_of_false nofun none
      · exact iff_of_false nofun none
  -- these three never do
  have build : (checkRuntimeBuild experiment (loadedBenchmarks loaders manifest)).check.status ≠
      .inconsistent := by
    rw [checkRuntimeBuild_status]
    split
    · exact nofun
    · exact nofun
  have provenance : (checkProvenance experiment (loadedBenchmarks loaders manifest)).check.status ≠
      .inconsistent :=
    findings_sound nofun
  have conditions : (checkConditions experiment (loadedBenchmarks loaders manifest)).check.status ≠
      .inconsistent := by
    have valid : (checkConditions experiment (loadedBenchmarks loaders manifest)).check.status =
        .valid := rfl
    rw [valid]
    exact nofun
  rw [Ne, worstStatus_eq_inconsistent, checksOf]
  simp only [List.map_cons, List.map_nil, List.mem_cons, List.not_mem_nil, or_false, not_or,
    eq_comm (a := CaseConsistencyStatus.inconsistent)]
  rw [exist, hash, checkContext_inconsistent, checkMachine, checkArtifact, checkRuntimeFamily,
    findings_inconsistent, findings_inconsistent, findings_inconsistent, Ne, Ne, Ne, not_not, not_not,
    not_not, not_not, mismatched_eq_nil, mismatched_eq_nil, mismatched_eq_nil]
  simp only [decide_eq_true_eq]
  constructor
  · intro ⟨loads, ⟨machine, machines⟩, ⟨artifact, artifacts⟩, digests, ⟨runtime, runtimes⟩, _, _, context, _⟩
    exact ⟨⟨loads, machine, machines, artifact, artifacts, digests, runtime, runtimes⟩, context⟩
  · intro ⟨⟨loads, machine, machines, artifact, artifacts, digests, runtime, runtimes⟩, context⟩
    exact ⟨loads, ⟨machine, machines⟩, ⟨artifact, artifacts⟩, digests, ⟨runtime, runtimes⟩, build, conditions,
      context, provenance, sound⟩

/-- Grouping more evidence makes the status of a case better exactly where a benchmark without a context
hides that the contexts of the others are the only contradiction. -/
theorem status_kept_iff (extends' : Extends manifest manifest')
    (validated : validate sha256 loaders root manifest = some verdict)
    (validated' : validate sha256 loaders root manifest' = some verdict') :
    verdict.status.rank ≤ verdict'.status.rank ↔ ¬HidesContext loaders manifest manifest' := by
  cases loads : loaders.loadExperiment manifest.experimentRecordId with
  | error text =>
    have loads' : loaders.loadExperiment manifest'.experimentRecordId = .error text := by
      rw [extends'.experiment, loads]
    rw [validate_of_missing loads] at validated
    rw [validate_of_missing loads'] at validated'
    obtain ⟨evidence, checked, rfl⟩ := Option.map_eq_some_iff.mp validated
    obtain ⟨evidence', checked', rfl⟩ := Option.map_eq_some_iff.mp validated'
    refine iff_of_true ?_ ?_
    · exact rank_worstStatus_mono (.cons extends'.checkRecords_mono
        (.cons (checkEvidence_mono extends'.evidence checked checked') .nil))
    · intro ⟨experiment, loads'', _⟩
      cases loads.symm.trans loads''
  | ok experiment =>
    have loads' : loaders.loadExperiment manifest'.experimentRecordId = .ok experiment := by
      rw [extends'.experiment, loads]
    rw [validate_of_loads loads] at validated
    rw [validate_of_loads loads'] at validated'
    obtain ⟨evidence, checked, rfl⟩ := Option.map_eq_some_iff.mp validated
    obtain ⟨evidence', checked', rfl⟩ := Option.map_eq_some_iff.mp validated'
    have last := checkEvidence_mono extends'.evidence checked checked'
    have sound' := (checkEvidence_status checked').1
    constructor
    · intro kept ⟨experiment', loads'', differs, undeclared, agrees⟩
      cases loads.symm.trans loads''
      -- The smaller case is inconsistent for its contexts, the larger one is not.
      have bad : worstStatus ((checksOf loaders manifest experiment evidence).map (·.check.status)) =
          .inconsistent := by
        by_contra fine
        exact ((no_contradiction loads (checkEvidence_status checked).1).mp fine).2 differs
      have fine := (no_contradiction loads' sound').mpr
        ⟨agrees, fun differs' => differs'.1 undeclared⟩
      change (worstStatus _).rank ≤ (worstStatus _).rank at kept
      rw [bad] at kept
      exact absurd (rank_lt_two.mpr fine) (not_lt.mpr kept)
    · intro open'
      by_cases hidden : ContextDiffers experiment (loadedBenchmarks loaders manifest) ∧
          none ∈ contextsOf (loadedBenchmarks loaders manifest')
      · have bad : worstStatus ((checksOf loaders manifest' experiment evidence').map (·.check.status)) =
            .inconsistent := by
          by_contra fine
          have agrees := ((no_contradiction loads' sound').mp fine).1
          exact open' ⟨experiment, loads, hidden.1, hidden.2, agrees⟩
        change (worstStatus _).rank ≤ (worstStatus _).rank
        rw [bad]
        exact rank_le_two _
      · exact rank_worstStatus_mono
          (extends'.checks_mono (checkContext_mono extends'.loaded hidden) last)

/-- The machine of the examples. -/
def exampleMachine : HardwareProfile where
  os := "Linux"
  arch := "x86_64"
  cpu := {}
  memory := { totalBytes := 16000000000, availableBytes := 8000000000 }

/-- The artifact of the examples. -/
def exampleArtifact : ModelArtifact where
  repoId := "org/model"
  revision := "main"
  filename := "model.gguf"
  format := "gguf"

/-- The runtime of the examples. -/
def exampleRuntime : RuntimeRecommendation where
  runtime := .llamaCpp
  confidence := .high

/-- An experiment at a context of 4096 tokens. -/
def exampleExperiment : CaseExperiment where
  experimentId := "experiment-1"
  createdAt := 0
  hardware := exampleMachine
  artifact := exampleArtifact
  runtime := exampleRuntime
  predictedConfiguration := { contextLength := 4096 }
  preflightBackend := .cpu
  success := true
  versions := .llamaCpp none

/-- A benchmark that declares a context or none. -/
def exampleBenchmark (id : String) (contextLength : Option ℤ) : CaseBenchmark where
  benchmarkId := id
  createdAt := 0
  hardware := exampleMachine
  artifact := exampleArtifact
  runtime := exampleRuntime
  requestedBackend := .cpu
  gpuLayers := .count 0
  generationSizes := [128]
  observation := { success := true, repetitions := 1 }
  contextLength := contextLength

/-- A store of two benchmarks, of which the second declares no context. -/
def exampleLoaders : RecordLoaders where
  loadExperiment id :=
    if id = "experiment-1" then .ok exampleExperiment else .error (codesOf "not found")
  loadBenchmark id :=
    if id = "benchmark-1" then .ok (exampleBenchmark "benchmark-1" (some 8192))
    else if id = "benchmark-2" then .ok (exampleBenchmark "benchmark-2" none)
    else .error (codesOf "not found")

/-- The case of the experiment with some benchmarks. -/
def exampleGrouping (benchmarks : List PyString) : ExperimentalCaseManifest where
  identity :=
    { caseId := "case-1"
      createdAt := ⟨0, true⟩
      machineFingerprint := machineFingerprint exampleMachine
      artifact := .of exampleArtifact
      runtime := .llamaCpp }
  experimentRecordId := "experiment-1"
  benchmarkRecordIds := benchmarks

/-- The working directory as an evidence root, without files. -/
def exampleRoot : EvidenceRoot where
  text := codesOf "."
  files := some fun _ => .missing

/-- One benchmark of another context does not improve the case without it. -/
theorem status_kept_iff_oneBenchmark : ∃ verdict verdict',
    validate (fun _ => "") exampleLoaders exampleRoot (exampleGrouping []) = some verdict ∧
      validate (fun _ => "") exampleLoaders exampleRoot (exampleGrouping ["benchmark-1"]) = some verdict' ∧
      verdict.status.rank ≤ verdict'.status.rank := by
  have extends' : Extends (exampleGrouping []) (exampleGrouping ["benchmark-1"]) :=
    ⟨rfl, rfl, List.nil_subset _, List.nil_subset _⟩
  have validates : ∀ benchmarks, ∃ verdict,
      validate (fun _ => "") exampleLoaders exampleRoot (exampleGrouping benchmarks) = some verdict := by
    intro benchmarks
    have loads : exampleLoaders.loadExperiment (exampleGrouping benchmarks).experimentRecordId =
        .ok exampleExperiment := rfl
    rw [validate_of_loads loads]
    exact ⟨_, rfl⟩
  obtain ⟨verdict, validated⟩ := validates []
  obtain ⟨verdict', validated'⟩ := validates ["benchmark-1"]
  refine ⟨verdict, verdict', validated, validated', (status_kept_iff extends' validated validated').mpr ?_⟩
  intro ⟨_, _, ⟨_, _, mem, _⟩, _⟩
  cases mem

/-- The first benchmark contradicts the experiment; the second hides it. -/
theorem status_improves :
    (validate (fun _ => "") exampleLoaders exampleRoot (exampleGrouping ["benchmark-1"])).map (·.status) =
        some .inconsistent ∧
      (validate (fun _ => "") exampleLoaders exampleRoot
        (exampleGrouping ["benchmark-1", "benchmark-2"])).map (·.status) = some .partly := by
  decide +kernel

end Cases

end Jaull.Cases
