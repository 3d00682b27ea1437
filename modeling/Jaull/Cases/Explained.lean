import Jaull.Cases.Monotone

/-!
# Verdicts that explain themselves

The reasons of a verdict say why a case is not valid. Every check but one adds a reason exactly when it is
not valid; the check of the contexts never adds one, so a case with no other fault is refused without a
reason.
-/

namespace Jaull.Cases
open Jaull.Domain Jaull.Evaluation Jaull.Lib Jaull.Recommendation Jaull.Text

section Verdicts
variable {caseId : PyString} {checks : List Checked} {checked : Checked}

/-- The check says something exactly when it is not valid. -/
def Checked.Explained (checked : Checked) : Prop :=
  checked.check.status ≠ .valid ↔ checked.reasons ≠ []

/-- A result is valid when all checks are. -/
lemma result_valid : (result caseId checks).status = .valid ↔
    ∀ checked ∈ checks, checked.check.status = .valid := by
  have zero : ∀ status : CaseConsistencyStatus, status.rank ≤ 0 ↔ status = .valid := by
    intro status
    cases status <;> simp [CaseConsistencyStatus.rank]
  rw [← zero, result, rank_worstStatus_le]
  simp only [zero, List.forall_mem_map]

/-- It has no reasons when none of them has. -/
lemma result_silent : (result caseId checks).reasons = [] ↔
    ∀ checked ∈ checks, checked.reasons = [] :=
  List.flatMap_eq_nil_iff

/-- A verdict of checks that explain themselves does so too. -/
lemma result_explained (explained : ∀ checked ∈ checks, checked.Explained) :
    (result caseId checks).status ≠ .valid ↔ (result caseId checks).reasons ≠ [] := by
  rw [Ne, Ne, result_valid, result_silent]
  apply not_congr
  apply forall₂_congr
  intro checked mem
  exact not_iff_not.mp (explained checked mem)

/-- With a silent check among them, the verdict explains itself exactly where that check is valid or another
one is not. -/
lemma result_explained_iff {context : Checked} (silent : context.reasons = [])
    (there : context ∈ checks)
    (explained : ∀ checked ∈ checks, checked = context ∨ checked.Explained) :
    ((result caseId checks).status ≠ .valid ↔ (result caseId checks).reasons ≠ []) ↔
      ¬ (context.check.status ≠ .valid ∧
        ∀ checked ∈ checks, checked = context ∨ checked.check.status = .valid) := by
  rw [Ne, Ne, result_valid, result_silent, not_iff_not]
  -- a check is silent when it is valid, or is that of the context
  have quiet : ∀ checked ∈ checks,
      checked.reasons = [] ↔ checked = context ∨ checked.check.status = .valid := by
    intro checked mem
    rcases explained checked mem with rfl | explained
    · exact iff_of_true silent (.inl rfl)
    · constructor
      · intro said
        exact .inr (not_not.mp fun bad => (explained.mp bad) said)
      · intro fine
        rcases fine with rfl | valid
        · exact silent
        · exact not_not.mp fun said => explained.mpr said valid
  constructor
  · intro both fault
    obtain ⟨bad, others⟩ := fault
    have said : ∀ checked ∈ checks, checked.reasons = [] :=
      fun checked mem => (quiet checked mem).mpr (others checked mem)
    exact bad (both.mpr said context there)
  · intro sound
    constructor
    · intro valid checked mem
      exact (quiet checked mem).mpr (.inr (valid checked mem))
    · intro said
      have others : ∀ checked ∈ checks, checked = context ∨ checked.check.status = .valid :=
        fun checked mem => (quiet checked mem).mp (said checked mem)
      have valid : context.check.status = .valid := by
        by_contra bad
        exact sound ⟨bad, others⟩
      intro checked mem
      rcases others checked mem with rfl | fine
      · exact valid
      · exact fine

end Verdicts

section Checks
variable {identity : ExperimentalCaseIdentity} {experiment : CaseExperiment}
  {benchmarks : List CaseBenchmark}

lemma inconsistent_ne_valid : CaseConsistencyStatus.inconsistent ≠ .valid := by
  intro same
  cases same

lemma partly_ne_valid : CaseConsistencyStatus.partly ≠ .valid := by
  intro same
  cases same

/-- A check is valid when it finds nothing. -/
lemma findings_valid {name : String} {fault : CaseConsistencyStatus} {reasons : List (List ℕ)}
    {fine : List ℕ} (bad : fault ≠ .valid) :
    (findings name fault reasons fine).check.status = .valid ↔ reasons = [] := by
  rw [findings_status]
  split
  · rename_i none
    exact iff_of_true rfl none
  · rename_i some
    exact iff_of_false bad some

/-- What it finds it explains. -/
lemma findings_explained {name : String} {fault : CaseConsistencyStatus} {reasons : List (List ℕ)}
    {fine : List ℕ} (bad : fault ≠ .valid) : (findings name fault reasons fine).Explained := by
  rw [Checked.Explained, Ne, findings_valid bad, findings]
  split
  · rename_i none
    exact iff_of_false (not_not.mpr none) (not_not.mpr rfl)
  · rename_i some
    exact iff_of_true some some

/-- The check of digests explains what it finds. -/
lemma checkArtifactHash_explained : (checkArtifactHash experiment benchmarks).Explained := by
  rw [checkArtifactHash]
  split
  · exact iff_of_true inconsistent_ne_valid (List.cons_ne_nil _ _)
  · split
    · exact iff_of_true partly_ne_valid (List.cons_ne_nil _ _)
    · exact iff_of_false (not_not.mpr rfl) (not_not.mpr rfl)

/-- So does that of builds. -/
lemma checkRuntimeBuild_explained : (checkRuntimeBuild experiment benchmarks).Explained := by
  rw [checkRuntimeBuild]
  split
  · exact iff_of_true partly_ne_valid (List.cons_ne_nil _ _)
  · split
    · exact iff_of_true partly_ne_valid (List.cons_ne_nil _ _)
    · exact iff_of_false (not_not.mpr rfl) (not_not.mpr rfl)

/-- So does that of conditions. -/
lemma checkConditions_explained : (checkConditions experiment benchmarks).Explained :=
  iff_of_false (not_not.mpr rfl) (not_not.mpr rfl)

/-- That of the context gives no reason. -/
lemma checkContext_silent : (checkContext experiment benchmarks).reasons = [] := by
  rw [checkContext]
  dsimp only
  split
  · rfl
  · split
    · rfl
    · split
      · rfl
      · rfl

/-- That of evidence explains what it finds. -/
lemma checkEvidence_explained {sha256 : List UInt8 → String} {root : EvidenceRoot}
    {references : List EvidenceFileReference} {checked : Checked}
    (check : checkEvidence sha256 root references = some checked) : checked.Explained := by
  rw [checkEvidence] at check
  split at check
  · cases check
    exact findings_explained (by decide)
  · cases resolved : root.files with
    | none =>
      rw [resolved] at check
      cases check
      exact findings_explained (by decide)
    | some files =>
      rw [resolved] at check
      obtain ⟨problems, _, eq⟩ := Option.bind_eq_some_iff.mp check
      cases eq
      exact findings_explained (by decide)

/-- When the digests are fine. -/
lemma checkArtifactHash_valid : (checkArtifactHash experiment benchmarks).check.status = .valid ↔
    ¬ DigestsDiffer experiment benchmarks ∧ none ∉ digestsOf experiment benchmarks := by
  rw [checkArtifactHash_status]
  split
  · rename_i differ
    exact iff_of_false inconsistent_ne_valid fun fine => fine.1 differ
  · rename_i agree
    split
    · rename_i unknown
      exact iff_of_false partly_ne_valid fun fine => fine.2 unknown
    · rename_i known
      exact iff_of_true rfl ⟨agree, known⟩

/-- When the builds are. -/
lemma checkRuntimeBuild_valid : (checkRuntimeBuild experiment benchmarks).check.status = .valid ↔
    none ∉ buildsOf experiment benchmarks := by
  rw [checkRuntimeBuild_status]
  split
  · rename_i unknown
    exact iff_of_false partly_ne_valid (not_not.mpr unknown)
  · rename_i known
    exact iff_of_true rfl known

/-- When the provenance is. -/
lemma checkProvenance_valid : (checkProvenance experiment benchmarks).check.status = .valid ↔
    (experiment.gitCommit ≠ none ∧ none ∉ benchmarks.map (·.gitCommit)) ∧
      experiment.executedCommand ≠ [] ∧ experiment.observedBackend ≠ none := by
  rw [checkProvenance, findings_valid partly_ne_valid, List.append_eq_nil_iff, List.append_eq_nil_iff, and_assoc,
    ite_eq_right_iff, ite_eq_right_iff, ite_eq_right_iff, ← not_or]
  refine and_congr ?_ (and_congr ?_ ?_)
  all_goals exact ⟨fun said bad => List.cons_ne_nil _ _ (said bad), fun fine bad => absurd bad fine⟩

end Checks

section Cases
variable {sha256 : List UInt8 → String} {loaders : RecordLoaders} {root : EvidenceRoot}
  {manifest : ExperimentalCaseManifest} {experiment : CaseExperiment} {evidence : Checked}
  {verdict : CaseValidationResult}

/-- Nothing is to be said against a case but for the contexts that its benchmarks declare. -/
structure FineElsewhere (sha256 : List UInt8 → String) (loaders : RecordLoaders) (root : EvidenceRoot)
    (manifest : ExperimentalCaseManifest) (experiment : CaseExperiment) : Prop
    extends AgreesElsewhere loaders manifest experiment where
  digested : none ∉ digestsOf experiment (loadedBenchmarks loaders manifest)
  built : none ∉ buildsOf experiment (loadedBenchmarks loaders manifest)
  committed : experiment.gitCommit ≠ none ∧
    none ∉ (loadedBenchmarks loaders manifest).map (·.gitCommit)
  commanded : experiment.executedCommand ≠ []
  observed : experiment.observedBackend ≠ none
  evidenced : manifest.evidenceFiles = [] ∨ ∃ files, root.files = some files ∧
    ∀ reference ∈ manifest.evidenceFiles, evidenceProblems sha256 files reference = some []

/-- A case with no fault but that some benchmark does not declare the context of the experiment. -/
def OnlyContextDiffers (sha256 : List UInt8 → String) (loaders : RecordLoaders) (root : EvidenceRoot)
    (manifest : ExperimentalCaseManifest) : Prop :=
  ∃ experiment, loaders.loadExperiment manifest.experimentRecordId = .ok experiment ∧
    FineElsewhere sha256 loaders root manifest experiment ∧
    ∃ benchmark ∈ loadedBenchmarks loaders manifest,
      benchmark.contextLength ≠ some experiment.predictedConfiguration.contextLength

/-- All checks but that of the context explain what they find. -/
lemma checksOf_explained (check : checkEvidence sha256 root manifest.evidenceFiles = some evidence) :
    ∀ checked ∈ checksOf loaders manifest experiment evidence,
      checked = checkContext experiment (loadedBenchmarks loaders manifest) ∨ checked.Explained := by
  intro checked mem
  simp only [checksOf, List.mem_cons, List.not_mem_nil, or_false] at mem
  rcases mem with rfl | rfl | rfl | rfl | rfl | rfl | rfl | rfl | rfl | rfl
  · exact .inr (findings_explained (by decide))
  · exact .inr (findings_explained (by decide))
  · exact .inr (findings_explained (by decide))
  · exact .inr checkArtifactHash_explained
  · exact .inr (findings_explained (by decide))
  · exact .inr checkRuntimeBuild_explained
  · exact .inr checkConditions_explained
  · exact .inl rfl
  · exact .inr (findings_explained (by decide))
  · exact .inr (checkEvidence_explained check)

/-- Every check but that of the contexts is valid exactly where nothing else is to be said. -/
lemma others_valid_iff (loads : loaders.loadExperiment manifest.experimentRecordId = .ok experiment)
    (check : checkEvidence sha256 root manifest.evidenceFiles = some evidence)
    (context : (checkContext experiment (loadedBenchmarks loaders manifest)).check.status ≠ .valid) :
    (∀ checked ∈ checksOf loaders manifest experiment evidence,
      checked = checkContext experiment (loadedBenchmarks loaders manifest) ∨
        checked.check.status = .valid) ↔ FineElsewhere sha256 loaders root manifest experiment := by
  have bad := inconsistent_ne_valid
  have exist := @findings_valid "records_exist" .inconsistent (missingOf loaders manifest)
    (codesOf ("1 experiment, " ++ toString (loadedBenchmarks loaders manifest).length ++
      " benchmark(s)")) bad
  rw [missingOf_eq_nil, and_iff_right ⟨experiment, loads⟩, ← checkRecords] at exist
  have machine : (checkMachine manifest.identity experiment
      (loadedBenchmarks loaders manifest)).check.status = .valid ↔ _ :=
    (findings_valid bad).trans mismatched_eq_nil
  have artifact : (checkArtifact manifest.identity experiment
      (loadedBenchmarks loaders manifest)).check.status = .valid ↔ _ :=
    (findings_valid bad).trans mismatched_eq_nil
  have family : (checkRuntimeFamily manifest.identity experiment
      (loadedBenchmarks loaders manifest)).check.status = .valid ↔ _ :=
    (findings_valid bad).trans mismatched_eq_nil
  simp only [decide_eq_true_eq] at machine artifact family
  constructor
  · intro others
    -- The check of the contexts is silent and not valid: no check that explains itself is that one.
    have valid : ∀ checked ∈ checksOf loaders manifest experiment evidence, checked.Explained →
        checked.check.status = .valid := by
      intro checked mem explained
      rcases others checked mem with rfl | valid
      · exact absurd checkContext_silent (explained.mp context)
      · exact valid
    simp only [checksOf, List.forall_mem_cons] at valid
    obtain ⟨exist', machine', artifact', hash, family', build, _, _, provenance, files, _⟩ := valid
    obtain ⟨machineFits, machinesFit⟩ := machine.mp (machine' (findings_explained (by decide)))
    obtain ⟨artifactFits, artifactsFit⟩ := artifact.mp (artifact' (findings_explained (by decide)))
    obtain ⟨runtimeFits, runtimesFit⟩ := family.mp (family' (findings_explained (by decide)))
    obtain ⟨agree, digested⟩ := checkArtifactHash_valid.mp (hash checkArtifactHash_explained)
    obtain ⟨committed, commanded, observed⟩ :=
      checkProvenance_valid.mp (provenance (findings_explained (by decide)))
    exact
      { loads := exist.mp (exist' (findings_explained (by decide)))
        machine := machineFits
        machines := machinesFit
        artifact := artifactFits
        artifacts := artifactsFit
        digests := agree
        runtime := runtimeFits
        runtimes := runtimesFit
        digested := digested
        built := checkRuntimeBuild_valid.mp (build checkRuntimeBuild_explained)
        committed := committed
        commanded := commanded
        observed := observed
        evidenced := (checkEvidence_status check).2.mp (files (checkEvidence_explained check)) }
  · intro fine checked mem
    simp only [checksOf, List.mem_cons, List.not_mem_nil, or_false] at mem
    rcases mem with rfl | rfl | rfl | rfl | rfl | rfl | rfl | rfl | rfl | rfl
    · exact .inr (exist.mpr fine.loads)
    · exact .inr (machine.mpr ⟨fine.machine, fine.machines⟩)
    · exact .inr (artifact.mpr ⟨fine.artifact, fine.artifacts⟩)
    · exact .inr (checkArtifactHash_valid.mpr ⟨fine.digests, fine.digested⟩)
    · exact .inr (family.mpr ⟨fine.runtime, fine.runtimes⟩)
    · exact .inr (checkRuntimeBuild_valid.mpr fine.built)
    · exact .inr rfl
    · exact .inl rfl
    · exact .inr (checkProvenance_valid.mpr ⟨fine.committed, fine.commanded, fine.observed⟩)
    · exact .inr ((checkEvidence_status check).2.mpr fine.evidenced)

/-- A verdict explains itself unless a context that a benchmark declares is the only thing to be said. -/
theorem verdict_explained_iff (validated : validate sha256 loaders root manifest = some verdict) :
    (verdict.status ≠ .valid ↔ verdict.reasons ≠ []) ↔
      ¬ OnlyContextDiffers sha256 loaders root manifest := by
  cases loads : loaders.loadExperiment manifest.experimentRecordId with
  | error text =>
    rw [validate_of_missing loads] at validated
    obtain ⟨evidence, check, rfl⟩ := Option.map_eq_some_iff.mp validated
    refine iff_of_true (result_explained ?_) ?_
    · intro checked mem
      rcases List.mem_pair.mp mem with rfl | rfl
      · exact findings_explained (by decide)
      · exact checkEvidence_explained check
    · intro differs
      obtain ⟨experiment, loads', -⟩ := differs
      cases loads.symm.trans loads'
  | ok experiment =>
    rw [validate_of_loads loads] at validated
    obtain ⟨evidence, check, rfl⟩ := Option.map_eq_some_iff.mp validated
    have there : checkContext experiment (loadedBenchmarks loaders manifest) ∈
        checksOf loaders manifest experiment evidence := by
      simp only [checksOf, List.mem_cons, true_or, or_true]
    rw [result_explained_iff checkContext_silent there (checksOf_explained check)]
    apply not_congr
    have context : (checkContext experiment (loadedBenchmarks loaders manifest)).check.status ≠ .valid ↔
        ∃ benchmark ∈ loadedBenchmarks loaders manifest,
          benchmark.contextLength ≠ some experiment.predictedConfiguration.contextLength := by
      rw [Ne, checkContext_valid, contextsOf, List.forall_mem_map]
      push Not
      exact Iff.rfl
    constructor
    · intro both
      obtain ⟨differs, others⟩ := both
      exact ⟨experiment, loads, (others_valid_iff loads check differs).mp others, context.mp differs⟩
    · intro only
      obtain ⟨experiment', loads', fine, differs⟩ := only
      cases loads.symm.trans loads'
      have differs' := context.mpr differs
      exact ⟨differs', (others_valid_iff loads check differs').mpr fine⟩

/-- An experiment at a context of 4096 tokens that records everything a case asks for. -/
def completeExperiment : CaseExperiment :=
  { exampleExperiment with
    artifact := { exampleArtifact with sha256 := some "ab" }
    observedBackend := some .cpu
    gitCommit := some "c0ffee"
    executedCommand := ["llama-cli"]
    versions := .llamaCpp (some "version 1") }

/-- A benchmark of the same artifact at a given context that records everything. -/
def completeBenchmark (contextLength : Option ℤ) : CaseBenchmark :=
  { exampleBenchmark "benchmark-1" contextLength with
    artifact := { exampleArtifact with sha256 := some "ab" }
    gitCommit := some "c0ffee"
    versions := some (.llamaCpp (some "version 1")) }

/-- A store of the two, the benchmark at a given context. -/
def completeLoaders (contextLength : Option ℤ) : RecordLoaders where
  loadExperiment _ := .ok completeExperiment
  loadBenchmark _ := .ok (completeBenchmark contextLength)

/-- With one context the verdict is explained. -/
theorem verdict_explained_iff_sameContext : ∃ verdict,
    validate (fun _ => "") (completeLoaders (some 4096)) exampleRoot (exampleGrouping ["benchmark-1"]) =
        some verdict ∧
      ((verdict.status ≠ .valid ↔ verdict.reasons ≠ []) ↔
        ¬ OnlyContextDiffers (fun _ => "") (completeLoaders (some 4096)) exampleRoot
          (exampleGrouping ["benchmark-1"])) := by
  have validated : validate (fun _ => "") (completeLoaders (some 4096)) exampleRoot
      (exampleGrouping ["benchmark-1"]) = some _ :=
    validate_of_loads rfl
  exact ⟨_, validated, verdict_explained_iff validated⟩

/-- A benchmark at another context makes a case inconsistent, and no reason is given. -/
theorem otherContext_unexplained :
    (validate (fun _ => "") (completeLoaders (some 8192)) exampleRoot
        (exampleGrouping ["benchmark-1"])).map (fun verdict => (verdict.status, verdict.reasons)) =
      some (.inconsistent, []) := by
  decide +kernel

end Cases

end Jaull.Cases
