import Jaull.Cases.CaseRecords

/-!
# Validation of cases

Port of `jaull/cases/validation.py`: a manifest is checked against the records and files that it names. The
loaders and what stands under the evidence root are given. Each check returns itself with what it adds to
the reasons and warnings of the verdict.
-/

namespace Jaull.Cases
open Jaull.Domain Jaull.Evaluation Jaull.Lib Jaull.Recommendation Jaull.Text

section Verdicts

/-- Python `CaseConsistencyStatus`; `partly` is its `PARTIAL`. -/
inductive CaseConsistencyStatus
  | valid | partly | inconsistent
  deriving DecidableEq, Repr

/-- Python `CaseCheck`. -/
structure CaseCheck where
  name : String
  status : CaseConsistencyStatus
  detail : List ℕ
  deriving DecidableEq, Repr

/-- Python `CaseValidationResult`. -/
structure CaseValidationResult where
  caseId : PyString
  status : CaseConsistencyStatus
  checks : List CaseCheck
  reasons : List (List ℕ)
  warnings : List (List ℕ)
  deriving DecidableEq, Repr

/-- A check with the reasons and warnings that it adds. -/
structure Checked where
  check : CaseCheck
  reasons : List (List ℕ) := []
  warnings : List (List ℕ) := []
  deriving DecidableEq, Repr

/-- The worst of several statuses. -/
def worstStatus (statuses : List CaseConsistencyStatus) : CaseConsistencyStatus :=
  if .inconsistent ∈ statuses then .inconsistent
  else if .partly ∈ statuses then .partly
  else .valid

/-- Python `_result`. -/
def result (caseId : PyString) (checked : List Checked) : CaseValidationResult where
  caseId := caseId
  status := worstStatus (checked.map (·.check.status))
  checks := checked.map (·.check)
  reasons := checked.flatMap (·.reasons)
  warnings := checked.flatMap (·.warnings)

/-- Python `"; ".join(texts)`. -/
def joined (texts : List (List ℕ)) : List ℕ :=
  (codesOf "; ").intercalate texts

end Verdicts

section Givens

/-- The loaders of records, with the texts of their errors. -/
structure RecordLoaders where
  loadExperiment : PyString → Except (List ℕ) CaseExperiment
  loadBenchmark : PyString → Except (List ℕ) CaseBenchmark

/-- What a relative path leads to under an evidence root. -/
inductive EvidenceFile
  /-- No file system can name it, or its links go around: an exception that is no `OSError`. -/
  | raises
  /-- The operating system refuses to look. -/
  | refused
  | outside
  | missing
  /-- A file, which the operating system may refuse to read. -/
  | file (bytes : List UInt8) (readable : Bool)
  deriving DecidableEq, Repr

/-- An evidence root: its text, and the files under it when it can be resolved. -/
structure EvidenceRoot where
  text : List ℕ
  files : Option (PyString → EvidenceFile)

/-- Python `_load_records`. -/
def loadRecords (loaders : RecordLoaders) (manifest : ExperimentalCaseManifest) :
    Option CaseExperiment × List CaseBenchmark × List (List ℕ) :=
  let experiment := loaders.loadExperiment manifest.experimentRecordId
  let benchmarks := manifest.benchmarkRecordIds.map fun id => (id, loaders.loadBenchmark id)
  (experiment.toOption, benchmarks.filterMap (·.2.toOption),
    (match experiment with
      | .ok _ => []
      | .error text =>
        [codesOf "experiment record " ++ manifest.experimentRecordId.codes ++
          codesOf " could not be loaded: " ++ text]) ++
    benchmarks.filterMap fun (id, loaded) =>
      match loaded with
      | .ok _ => none
      | .error text =>
        some (codesOf "benchmark record " ++ id.codes ++ codesOf " could not be loaded: " ++ text))

end Givens

section Checks

/-- A check that is valid unless something is to be said against it. -/
def findings (name : String) (fault : CaseConsistencyStatus) (reasons : List (List ℕ)) (fine : List ℕ) :
    Checked :=
  if reasons = [] then { check := { name := name, status := .valid, detail := fine } }
  else { check := { name := name, status := fault, detail := joined reasons }, reasons := reasons }

/-- The check `records_exist`. -/
def checkRecords (benchmarks : List CaseBenchmark) (missing : List (List ℕ)) : Checked :=
  findings "records_exist" .inconsistent missing
    (codesOf ("1 experiment, " ++ toString benchmarks.length ++ " benchmark(s)"))

/-- What is said of the records that do not fit, the experiment first. -/
def mismatched (experiment : CaseExperiment) (benchmarks : List CaseBenchmark) (fits : Bool)
    (benchmarkFits : CaseBenchmark → Bool) (text : String) (benchmarkText : CaseBenchmark → String) :
    List (List ℕ) :=
  (if fits then [] else [codesOf ("experiment " ++ experiment.experimentId ++ text)]) ++
    (benchmarks.filter fun benchmark => !benchmarkFits benchmark).map fun benchmark =>
      codesOf ("benchmark " ++ benchmark.benchmarkId ++ benchmarkText benchmark)

/-- Python `_check_machine`. -/
def checkMachine (identity : ExperimentalCaseIdentity) (experiment : CaseExperiment)
    (benchmarks : List CaseBenchmark) : Checked :=
  findings "machine_identity" .inconsistent
    (mismatched experiment benchmarks
      (machineFingerprint experiment.hardware = identity.machineFingerprint)
      (fun benchmark => machineFingerprint benchmark.hardware = identity.machineFingerprint)
      " ran on another machine" fun _ => " ran on another machine")
    (codesOf "verified")

/-- Python `_check_artifact`. -/
def checkArtifact (identity : ExperimentalCaseIdentity) (experiment : CaseExperiment)
    (benchmarks : List CaseBenchmark) : Checked :=
  findings "artifact_identity" .inconsistent
    (mismatched experiment benchmarks (ArtifactIdentity.of experiment.artifact = identity.artifact)
      (fun benchmark => artifactIdentityMatches experiment.artifact benchmark.artifact)
      " used a different artifact than the case declares"
      fun _ => " used a different artifact than the experiment")
    (codesOf "verified")

/-- Python `_check_artifact_hash`. -/
def checkArtifactHash (experiment : CaseExperiment) (benchmarks : List CaseBenchmark) : Checked :=
  let digests := experiment.artifact.sha256 :: benchmarks.map (·.artifact.sha256)
  let known := ((digests.filterMap id).map lower).dedup
  if 1 < known.length then
    { check :=
        { name := "artifact_hash"
          status := .inconsistent
          detail := codesOf "records declare different artifact digests" }
      reasons := [codesOf "records declare different artifact digests"] }
  else if none ∈ digests then
    { check := { name := "artifact_hash", status := .partly, detail := codesOf "unavailable" }
      reasons :=
        [codesOf ("artifact digest is unavailable on at least one record; " ++
          "artifact identity is metadata-only, not cryptographically verified")] }
  else { check := { name := "artifact_hash", status := .valid, detail := codesOf "verified" } }

/-- Python `_check_runtime_family`. -/
def checkRuntimeFamily (identity : ExperimentalCaseIdentity) (experiment : CaseExperiment)
    (benchmarks : List CaseBenchmark) : Checked :=
  let used (runtime : RuntimeName) : String :=
    " used runtime " ++ runtime.value ++ ", not " ++ identity.runtime.value
  findings "runtime_family" .inconsistent
    (mismatched experiment benchmarks (experiment.runtime.runtime = identity.runtime)
      (fun benchmark => benchmark.runtime.runtime = identity.runtime)
      (used experiment.runtime.runtime) fun benchmark => used benchmark.runtime.runtime)
    (codesOf identity.runtime.value)

/-- Python `_check_runtime_build`. -/
def checkRuntimeBuild (experiment : CaseExperiment) (benchmarks : List CaseBenchmark) : Checked :=
  let builds := runtimeCapabilityVersion (some experiment.versions) :: benchmarks.map benchmarkBuild
  let known := sortedBy id (builds.filterMap id).dedup
  let comparisonKeys := (known.map runtimeBuildKey).dedup
  let warnings :=
    if 1 < comparisonKeys.length then
      [codesOf "records were produced by different runtime builds: " ++ joined (known.map codesOf)]
    else []
  match known with
  | [] =>
    { check := { name := "runtime_build", status := .partly, detail := codesOf "unavailable" }
      reasons := [codesOf "no runtime build string was recorded for this case"] }
  | first :: _ =>
    if none ∈ builds then
      { check := { name := "runtime_build", status := .partly, detail := codesOf "partially unavailable" }
        reasons := [codesOf "runtime build is unavailable on at least one record"]
        warnings := warnings }
    else
      { check :=
          { name := "runtime_build"
            status := .valid
            detail :=
              if 1 < comparisonKeys.length then codesOf "differs between records; see warnings"
              else codesOf first }
        warnings := warnings }

/-- Python `_check_conditions`. -/
def checkConditions (experiment : CaseExperiment) (benchmarks : List CaseBenchmark) : Checked :=
  let differences := benchmarks.flatMap fun benchmark =>
    (conditionDifferences experiment.hardware benchmark.hardware).map fun difference =>
      codesOf ("benchmark " ++ benchmark.benchmarkId ++ ": " ++ difference)
  { check :=
      { name := "execution_conditions"
        status := .valid
        detail :=
          if differences = [] then codesOf "identical"
          else codesOf (toString differences.length ++ " difference(s), reported as warnings") }
    warnings := differences }

/-- Python `_check_context`. -/
def checkContext (experiment : CaseExperiment) (benchmarks : List CaseBenchmark) : Checked :=
  let context := experiment.predictedConfiguration.contextLength
  let detail := "experiment ran at " ++ toString context ++ " tokens"
  let declared := benchmarks.map (·.contextLength)
  let context' (status : CaseConsistencyStatus) (more : String) : Checked :=
    { check := { name := "context", status := status, detail := codesOf (detail ++ more) } }
  if benchmarks = [] then context' .valid ""
  else if ∀ length ∈ declared, length = some context then
    context' .valid "; benchmark scenario declares the same context (not runner-enforced)"
  else if none ∈ declared then
    context' .partly "; at least one benchmark has no declared context"
  else context' .inconsistent "; benchmark declared context differs"

/-- Python `_check_provenance`. -/
def checkProvenance (experiment : CaseExperiment) (benchmarks : List CaseBenchmark) : Checked :=
  findings "provenance" .partly
    ((if experiment.gitCommit = none ∨ none ∈ benchmarks.map (·.gitCommit) then
        [codesOf "the Jaull git commit was not recorded"] else []) ++
      (if experiment.executedCommand = [] then
        [codesOf "the experiment did not record the command it executed"] else []) ++
      if experiment.observedBackend = none then
        [codesOf "the backend the experiment actually used was not observed"] else [])
    (codesOf "complete")

/-- What the loop of Python `_check_evidence` says of a reference. -/
def evidenceProblems (sha256 : List UInt8 → String) (files : PyString → EvidenceFile)
    (reference : EvidenceFileReference) : Option (List (List ℕ)) :=
  let problem (text : String) : Option (List (List ℕ)) := some [reference.path.codes ++ codesOf text]
  match files reference.path with
  | .raises => none
  | .refused => problem " could not be read"
  | .outside => problem " escapes its evidence root"
  | .missing => problem " is missing"
  | .file bytes readable =>
    if ∃ size, reference.sizeBytes = some size ∧ bytes.length ≠ size then
      problem " does not match its recorded size"
    else
      match reference.sha256 with
      | none => some []
      | some digest =>
        if !readable then problem " could not be read"
        else if sha256 bytes ≠ lower digest then problem " does not match its recorded digest"
        else some []

/-- Python `_check_evidence`. -/
def checkEvidence (sha256 : List UInt8 → String) (root : EvidenceRoot)
    (references : List EvidenceFileReference) : Option Checked :=
  if references = [] then
    some (findings "evidence_files" .partly [] (codesOf "none referenced"))
  else
    match root.files with
    | none =>
      some (findings "evidence_files" .partly [codesOf "Evidence root could not be resolved: " ++ root.text]
        [])
    | some files => do
      let problems ← references.mapM (evidenceProblems sha256 files)
      some (findings "evidence_files" .partly problems.flatten
        (codesOf (toString references.length ++ " file(s) present")))

end Checks

/-- Python `CaseValidationService.validate`; nothing where an evidence path is none that a file system can
name, which raises. -/
def validate (sha256 : List UInt8 → String) (loaders : RecordLoaders) (root : EvidenceRoot)
    (manifest : ExperimentalCaseManifest) : Option CaseValidationResult := do
  let (experiment, benchmarks, missing) := loadRecords loaders manifest
  let exist := checkRecords benchmarks missing
  let evidence ← checkEvidence sha256 root manifest.evidenceFiles
  match experiment with
  | none => some (result manifest.identity.caseId [exist, evidence])
  | some experiment =>
    some (result manifest.identity.caseId
      [exist, checkMachine manifest.identity experiment benchmarks,
        checkArtifact manifest.identity experiment benchmarks,
        checkArtifactHash experiment benchmarks,
        checkRuntimeFamily manifest.identity experiment benchmarks,
        checkRuntimeBuild experiment benchmarks, checkConditions experiment benchmarks,
        checkContext experiment benchmarks, checkProvenance experiment benchmarks, evidence])

end Jaull.Cases
