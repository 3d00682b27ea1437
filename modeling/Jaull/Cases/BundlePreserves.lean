import Jaull.Cases.BundleLoad
import Jaull.Cases.Explained
import Jaull.Cases.ExportSucceeds

/-!
# What a bundle preserves

A bundle that an export has made loads as the case and the records that went in. Its validation says what
that of the case says, as far as the evidence root of the case leads to the evidence: an export takes a `~` in
front of the root for a home directory, the validation of a case takes it for a name.
-/

namespace Jaull.Cases
open Jaull.Domain Jaull.Evaluation Jaull.Lib Jaull.Text

variable {Record : Type} {service : CaseBundleService} {machine : Machine} {call : ExportCall}
  {case : ExperimentalCaseManifest} {experiment : CaseExperiment} {benchmarks : List CaseBenchmark}
  {root : List FileName} {evidence : List (EvidenceFileReference × List UInt8 × Bool)} {staged : Staged}
  {bundle : ExperimentalCaseBundleManifest} {index : Written} {contents : Contents}

section Givens

/-- What `pydantic` writes of a record has no carriage return and is read as the record. -/
def RoundTrips (snapshots : Snapshots Record) (record : Record) : Prop :=
  ∀ text, snapshots.dumps record = some text →
    '\r' ∉ text ∧ snapshots.parse (String.ofList (text ++ ['\n'])) = some record

/-- What is assumed of the digest and of `pydantic`. -/
structure Assumed (service : CaseBundleService) : Prop where
  injective : Function.Injective service.sha256
  lowercase : ∀ bytes, lower (service.sha256 bytes) = service.sha256 bytes
  cases : ∀ case, Constructible case → RoundTrips service.cases case
  experiments : ∀ record, RoundTrips service.experiments record
  benchmarks : ∀ record, RoundTrips service.benchmarks record
  bundles : ∀ bundle, RoundTrips service.bundles bundle

end Givens

section Exported

/-- What an export that succeeds has done. -/
structure Exported (service : CaseBundleService) (machine : Machine) (call : ExportCall)
    (case : ExperimentalCaseManifest) (experiment : CaseExperiment) (benchmarks : List CaseBenchmark)
    (root : List FileName) (evidence : List (EvidenceFileReference × List UInt8 × Bool)) (staged : Staged)
    (bundle : ExperimentalCaseBundleManifest) (index : Written) (contents : Contents) : Prop where
  records : loadBundleRecords service.loaders case = .ok (experiment, benchmarks)
  rooted : sourceRoot machine call.evidenceRoot = .ok root
  sources : case.evidenceFiles.mapM (resolveReference service.sha256 (machine.evidence root)) = .ok evidence
  stages : Stages service case experiment benchmarks evidence staged
  indexes : Indexes staged bundle
  indexed : IsSnapshot service.sha256 service.bundles bundlePlace bundle index
  contents : contents = dictSet (contentsOf staged.writes) bundlePlace index.bytes

/-- What is left of an export that succeeds. -/
lemma exported_of_export (ok : service.export' machine call case = .ok contents) :
    ∃ experiment benchmarks root evidence staged bundle index,
      Exported service machine call case experiment benchmarks root evidence staged bundle index contents := by
  rw [CaseBundleService.export'.eq_def] at ok
  cases expanded : machine.expanduser call.destination with
  | none =>
    rw [expanded] at ok
    cases ok
  | some target =>
    rw [expanded] at ok
    dsimp only at ok
    split at ok
    case isTrue => cases ok
    case isFalse =>
      split at ok
      case isTrue => cases ok
      case isFalse =>
        obtain ⟨⟨experiment, benchmarks⟩, records, ok⟩ := bind_eq_ok.mp ok
        obtain ⟨root, rooted, ok⟩ := bind_eq_ok.mp ok
        obtain ⟨evidence, sources, ok⟩ := bind_eq_ok.mp ok
        split at ok
        · cases ok
        · split at ok
          case isTrue => cases ok
          case isFalse =>
            obtain ⟨staged, staging, ok⟩ := bind_eq_ok.mp ok
            obtain ⟨checked, -, ok⟩ := bind_eq_ok.mp ok
            obtain ⟨bundle, indexing, ok⟩ := bind_eq_ok.mp ok
            obtain ⟨index, wrote, ok⟩ := bind_eq_ok.mp ok
            split at ok
            case isTrue => cases ok
            case isFalse =>
              cases ok
              have snapshot := isSnapshot_of_writeJson wrote
              exact ⟨experiment, benchmarks, root, evidence, staged, bundle, index,
                { records := records
                  rooted := rooted
                  sources := sources
                  stages := stages_of_stage staging
                  indexes := indexes_of_index indexing
                  indexed := snapshot
                  contents := by rw [snapshot.standsAt] }⟩

end Exported

section Reading
variable {snapshots : Snapshots Record} {record : Record} {place : List FileName} {written : Written}
  {bytes : List UInt8} {text : List Char} {label : String}

/-- What is written of a record is parsed as the record. -/
lemma parseJson_of_roundTrips (roundTrips : RoundTrips snapshots record)
    (dumped : snapshots.dumps record = some text) :
    parseJson snapshots label (encodeUtf8 (text ++ ['\n'])) = .ok record := by
  obtain ⟨plain, parsed⟩ := roundTrips text dumped
  have unchanged : '\r' ∉ text ++ ['\n'] := by
    rw [List.mem_append, not_or]
    exact ⟨plain, by decide⟩
  rw [parseJson.eq_def, readText_encodeUtf8 unchanged]
  dsimp only
  rw [parsed]

/-- What was written and is still there verifies. -/
lemma IsWritten.verifyFile_eq (isWritten : IsWritten service.sha256 place bytes written)
    (assumed : Assumed service) (portable : Portable place) (found : contents.lookup place = some bytes) :
    verifyFile service.sha256 contents written.file = .ok bytes := by
  rw [verifyFile_eq_ok, isWritten.path, portable.partsOf_bundlePath, isWritten.size, isWritten.digest,
    assumed.lowercase]
  exact ⟨found, rfl, rfl⟩

/-- A snapshot that is still there is read as its record. -/
lemma IsSnapshot.isRead (snapshot : IsSnapshot service.sha256 snapshots place record written)
    (assumed : Assumed service) (roundTrips : RoundTrips snapshots record) (portable : Portable place)
    (found : contents.lookup written.place = some written.bytes) :
    IsRead service.sha256 contents snapshots label written.file record := by
  obtain ⟨text, dumped, isWritten⟩ := snapshot
  rw [isWritten.standsAt, isWritten.content] at found
  exact ⟨_, isWritten.verifyFile_eq assumed portable found, parseJson_of_roundTrips roundTrips dumped⟩

end Reading

/-- Records that load under the ids by which a case names them. -/
structure LoadsOwn (loaders : RecordLoaders) (case : ExperimentalCaseManifest) (experiment : CaseExperiment)
    (benchmarks : List CaseBenchmark) : Prop where
  experimentLoads : loaders.loadExperiment case.experimentRecordId = .ok experiment
  benchmarksLoad : case.benchmarkRecordIds.mapM loaders.loadBenchmark = .ok benchmarks
  experimentId : (experiment.experimentId : PyString) = case.experimentRecordId
  benchmarkIds : benchmarks.map (fun record => (record.benchmarkId : PyString)) = case.benchmarkRecordIds

section Loading
variable (exported : Exported service machine call case experiment benchmarks root evidence staged bundle index
  contents)
include exported

/-- The records of an export load under their ids. -/
lemma Exported.loadsOwn : LoadsOwn service.loaders case experiment benchmarks := by
  have records := exported.records
  rw [loadBundleRecords.eq_def] at records
  split at records
  case h_1 experiment' benchmarks' one all =>
    split_ifs at records with other others
    cases records
    exact ⟨one, all, not_not.mp other, not_not.mp others⟩
  case h_2 => cases records

/-- Its evidence verifies. -/
lemma Exported.sources_verify : List.Forall₂ (fun reference source => source.1 = reference ∧
    Verifies service.sha256 (machine.evidence root) reference source.2.1 source.2.2) case.evidenceFiles evidence :=
  (mapM_eq_ok_iff.mp exported.sources).imp fun _ _ eq => resolveReference_eq_ok.mp eq

/-- They are those of the case. -/
lemma Exported.matches : Matches case benchmarks evidence where
  benchmarkIds := exported.loadsOwn.benchmarkIds
  references := by
    rw [← List.map_id case.evidenceFiles]
    exact (map_eq_of_forall₂ exported.sources_verify fun _ _ verifies => verifies.1.symm).symm

/-- The places of a bundle are all different. -/
lemma Exported.nodup : (staged.writes.map Prod.fst).Nodup := by
  have unique := bundle.uniquePaths
  rw [exported.indexes.caseFile, exported.indexes.experimentFile, exported.indexes.evidenceFiles,
    exported.stages.declaredPaths_eq exported.matches exported.indexes.benchmarkFiles] at unique
  rw [exported.stages.map_writes exported.matches]
  exact List.Nodup.of_map bundlePath unique

omit exported in
/-- The index stands apart from them. -/
lemma bundlePlace_notMem : bundlePlace ∉ casePlaces case := by
  intro mem
  rcases List.mem_cons.mp mem with same | mem
  · exact absurd same (by decide)
  · rcases List.mem_cons.mp mem with same | mem
    · exact absurd same (by decide)
    · rcases List.mem_append.mp mem with mem | mem
      · obtain ⟨id, -, same⟩ := List.mem_map.mp mem
        exact absurd (List.cons.inj same).1 (by decide)
      · obtain ⟨reference, -, same⟩ := List.mem_map.mp mem
        exact absurd (List.cons.inj same).1 (by decide)

/-- Everything that was written is in the bundle. -/
lemma Exported.lookup_write {write : List FileName × List UInt8} (mem : write ∈ staged.writes) :
    contents.lookup write.1 = some write.2 := by
  have other : write.1 ≠ bundlePlace := by
    intro same
    have there : write.1 ∈ casePlaces case := by
      rw [← exported.stages.map_writes exported.matches]
      exact List.mem_map_of_mem mem
    exact bundlePlace_notMem (same ▸ there)
  have consistent : ∀ write' ∈ staged.writes, write'.1 = write.1 → write'.2 = write.2 := by
    intro write' mem' same
    rw [List.inj_on_of_nodup_map exported.nodup mem' mem same]
  rw [exported.contents, lookup_dictSet_ne other, lookup_contentsOf consistent mem]

/-- What was staged stands in the bundle. -/
lemma Exported.lookup_written {written : Written} (mem : written ∈ staged.caseFile :: staged.experimentFile ::
    (staged.benchmarkFiles.map (·.2) ++ staged.evidenceFiles.map (·.2))) :
    contents.lookup written.place = some written.bytes :=
  exported.lookup_write (List.mem_map_of_mem mem)

/-- So does each benchmark. -/
lemma Exported.lookup_benchmark {entry : CaseBenchmark × Written} (mem : entry ∈ staged.benchmarkFiles) :
    contents.lookup entry.2.place = some entry.2.bytes :=
  exported.lookup_written (List.mem_cons_of_mem _ (List.mem_cons_of_mem _
    (List.mem_append_left _ (List.mem_map_of_mem mem))))

/-- And each evidence file. -/
lemma Exported.lookup_evidence {entry : EvidenceFileReference × Written} (mem : entry ∈ staged.evidenceFiles) :
    contents.lookup entry.2.place = some entry.2.bytes :=
  exported.lookup_written (List.mem_cons_of_mem _ (List.mem_cons_of_mem _
    (List.mem_append_right _ (List.mem_map_of_mem mem))))

/-- The records of the bundle belong together. -/
lemma Exported.relationships : verifyRelationships bundle case experiment benchmarks = .ok () := by
  have ids : bundle.benchmarkFiles.map (·.benchmarkId) = case.benchmarkRecordIds := by
    have own : staged.benchmarkFiles.map (fun entry => (entry.1.benchmarkId : PyString)) =
        bundle.benchmarkFiles.map (·.benchmarkId) :=
      map_eq_of_forall₂ exported.indexes.benchmarkFiles fun _ _ isFile => isFile.2.symm
    have records : benchmarks.map (fun record => (record.benchmarkId : PyString)) =
        staged.benchmarkFiles.map fun entry => (entry.1.benchmarkId : PyString) :=
      map_eq_of_forall₂ exported.stages.benchmarkFiles fun _ _ snapshot => by rw [snapshot.1]
    rw [← own, ← records, exported.loadsOwn.benchmarkIds]
  have references : bundle.evidenceFiles.map (·.reference) = case.evidenceFiles := by
    have copies : evidence.map (fun source => source.1) = staged.evidenceFiles.map fun entry => entry.1 :=
      map_eq_of_forall₂ exported.stages.evidenceFiles fun _ _ copy => copy.1.symm
    rw [exported.indexes.evidenceFiles, Staged.evidenceIndex, List.map_map, ← exported.matches.references]
    exact copies.symm
  rw [verifyRelationships, if_neg (not_not.mpr exported.loadsOwn.experimentId), if_neg ?_,
    if_neg (not_not.mpr references)]
  rintro (other | other)
  · exact other exported.loadsOwn.benchmarkIds
  · exact other ids

/-- **The bundle loads as the case and the records that were exported.** -/
lemma Exported.loads (assumed : Assumed service) (constructible : Constructible case) :
    Loads service contents ⟨bundle, case, experiment, benchmarks⟩ := by
  have wellFormed := constructible.wellFormed
  obtain ⟨text, dumped, isWritten⟩ := exported.indexed
  have indexed : contents.lookup bundlePlace = some (encodeUtf8 (text ++ ['\n'])) := by
    rw [exported.contents, lookup_dictSet_self, isWritten.content]
  refine
    { index := ⟨_, indexed, parseJson_of_roundTrips (assumed.bundles bundle) dumped⟩
      case := ?_
      experiment := ?_
      benchmarks := ?_
      relationships := exported.relationships
      evidence := ?_ }
  · rw [exported.indexes.caseFile]
    exact exported.stages.caseFile.isRead assumed (assumed.cases case constructible) portable_casePlace
      (exported.lookup_written List.mem_cons_self)
  · rw [exported.indexes.experimentFile]
    exact exported.stages.experimentFile.isRead assumed (assumed.experiments experiment)
      portable_experimentPlace (exported.lookup_written (List.mem_cons_of_mem _ List.mem_cons_self))
  · have files : List.Forall₂ (fun file entry => entry ∈ staged.benchmarkFiles ∧ IsBenchmarkFile entry file)
        bundle.benchmarkFiles staged.benchmarkFiles :=
      ((List.forall₂_and_left _ _).mpr ⟨fun _ mem => mem, exported.indexes.benchmarkFiles⟩).flip
    refine forall₂_join files exported.stages.benchmarkFiles ?_
    rintro file - record mem entry ⟨there, same, -⟩ ⟨-, snapshot⟩
    have safe : matchesSafeId record.benchmarkId = true := by
      apply wellFormed.benchmarkIds
      rw [← exported.loadsOwn.benchmarkIds]
      exact List.mem_map_of_mem mem
    rw [same]
    exact snapshot.isRead assumed (assumed.benchmarks record) (portable_benchmarkPlace safe)
      (exported.lookup_benchmark there)
  · intro item mem
    rw [exported.indexes.evidenceFiles] at mem
    obtain ⟨entry, there, rfl⟩ := List.mem_map.mp mem
    obtain ⟨source, from', -, copy⟩ := exists_of_mem_right exported.stages.evidenceFiles there
    have relative : pathRefusals source.1.path = [] := by
      apply wellFormed.paths
      rw [← exported.matches.references]
      exact List.mem_map_of_mem from'
    have found := exported.lookup_evidence there
    rw [copy.standsAt, copy.content] at found
    exact ⟨_, copy.verifyFile_eq assumed (portable_evidencePlace relative) found⟩

end Loading

section Checks
variable {sha256 : List UInt8 → String} {files : PyString → EvidenceFile} {reference : EvidenceFileReference}
  {references : List EvidenceFileReference} {evidenceRoot : EvidenceRoot} {checked : Checked}

/-- Nothing is said of a reference exactly if it leads to a file that is as recorded. -/
lemma evidenceProblems_eq_nil : evidenceProblems sha256 files reference = some [] ↔
    ∃ bytes readable, Verifies sha256 files reference bytes readable := by
  rw [evidenceProblems]
  have other : ∀ found, files reference.path = found → (∀ bytes readable, found ≠ .file bytes readable) →
      ¬∃ bytes readable, Verifies sha256 files reference bytes readable := by
    rintro found eq none ⟨bytes, readable, there, -⟩
    exact none bytes readable (eq.symm.trans there)
  cases found : files reference.path with
  | file bytes readable =>
    have verifies_iff : (∃ bytes readable, Verifies sha256 files reference bytes readable) ↔
        Recorded sha256 reference bytes readable := by
      constructor
      · rintro ⟨bytes', readable', there, recorded⟩
        cases found.symm.trans there
        exact recorded
      · exact fun recorded => ⟨bytes, readable, found, recorded⟩
    rw [verifies_iff]
    dsimp only
    split
    case isTrue differs =>
      exact iff_of_false nofun fun recorded => not_size_iff.mpr recorded.size differs
    case isFalse same =>
      have size := not_size_iff.mp same
      cases noted : reference.sha256 with
      | none => exact iff_of_true rfl ⟨size, fun digest eq => absurd (noted.symm.trans eq) nofun⟩
      | some digest =>
        dsimp only
        split_ifs with unread differs
        · refine iff_of_false nofun fun recorded => ?_
          rw [(recorded.digest digest noted).1] at unread
          cases unread
        · exact iff_of_false nofun fun recorded => differs (recorded.digest digest noted).2
        · refine iff_of_true rfl ⟨size, ?_⟩
          intro digest' eq
          cases noted.symm.trans eq
          exact ⟨by simpa using unread, not_not.mp differs⟩
  | raises => exact iff_of_false nofun (other _ found nofun)
  | refused => exact iff_of_false nofun (other _ found nofun)
  | outside => exact iff_of_false nofun (other _ found nofun)
  | missing => exact iff_of_false nofun (other _ found nofun)

/-- Under a root, every reference leads to a file that is as recorded. -/
def AllVerify (sha256 : List UInt8 → String) (evidenceRoot : EvidenceRoot)
    (references : List EvidenceFileReference) : Prop :=
  references = [] ∨ ∃ files, evidenceRoot.files = some files ∧
    ∀ reference ∈ references, ∃ bytes readable, Verifies sha256 files reference bytes readable

/-- The check of evidence warns of nothing. -/
lemma checkEvidence_warnings (check : checkEvidence sha256 evidenceRoot references = some checked) :
    checked.warnings = [] := by
  have silent : ∀ {name fault reasons fine}, (findings name fault reasons fine).warnings = [] := by
    intro name fault reasons fine
    rw [findings]
    split <;> rfl
  rw [checkEvidence] at check
  split at check
  · cases check
    exact silent
  · cases resolved : evidenceRoot.files with
    | none =>
      rw [resolved] at check
      cases check
      exact silent
    | some files =>
      rw [resolved] at check
      obtain ⟨problems, -, eq⟩ := Option.bind_eq_some_iff.mp check
      cases eq
      exact silent

/-- It is silent when all evidence verifies. -/
lemma checkEvidence_silent_iff (check : checkEvidence sha256 evidenceRoot references = some checked) :
    checked.reasons = [] ↔ AllVerify sha256 evidenceRoot references := by
  have explained : checked.check.status = .valid ↔ checked.reasons = [] :=
    not_iff_not.mp (checkEvidence_explained check)
  rw [← explained, (checkEvidence_status check).2, AllVerify]
  simp only [evidenceProblems_eq_nil]

/-- References without problems. -/
lemma mapM_evidenceProblems (fine : ∀ reference ∈ references, evidenceProblems sha256 files reference = some []) :
    references.mapM (evidenceProblems sha256 files) = some (references.map fun _ => []) := by
  induction references with
  | nil => rfl
  | cons reference rest ih =>
    obtain ⟨first, others⟩ := List.forall_mem_cons.mp fine
    rw [List.mapM_cons, first, ih others]
    rfl

/-- A check that is valid and adds nothing to the verdict. -/
structure Checked.Fine (checked : Checked) : Prop where
  status : checked.check.status = .valid
  reasons : checked.reasons = []
  warnings : checked.warnings = []

/-- The check of evidence that verifies. -/
lemma exists_fine_of_allVerify (verify : AllVerify sha256 evidenceRoot references) :
    ∃ checked, checkEvidence sha256 evidenceRoot references = some checked ∧ checked.Fine := by
  have returns : ∃ checked, checkEvidence sha256 evidenceRoot references = some checked := by
    rcases verify with rfl | ⟨files, resolved, fine⟩
    · exact ⟨_, rfl⟩
    · have problems := mapM_evidenceProblems fun reference mem => evidenceProblems_eq_nil.mpr (fine reference mem)
      rw [checkEvidence]
      split
      · exact ⟨_, rfl⟩
      · rw [resolved]
        dsimp only
        rw [problems]
        exact ⟨_, rfl⟩
  obtain ⟨checked, check⟩ := returns
  have silent := (checkEvidence_silent_iff check).mpr verify
  have valid : checked.check.status = .valid := (not_iff_not.mp (checkEvidence_explained check)).mpr silent
  exact ⟨checked, check, valid, silent, checkEvidence_warnings check⟩

end Checks

section Verdicts
variable {sha256 : List UInt8 → String} {loaders : RecordLoaders} {evidenceRoot : EvidenceRoot}
  {manifest : ExperimentalCaseManifest} {caseId : PyString} {checks : List Checked} {checked checked' : Checked}

/-- Verdicts with the same status, reasons and warnings. -/
structure Alike (verdict verdict' : CaseValidationResult) : Prop where
  status : verdict.status = verdict'.status
  reasons : verdict.reasons = verdict'.reasons
  warnings : verdict.warnings = verdict'.warnings

lemma Alike.symm {verdict verdict' : CaseValidationResult} (alike : Alike verdict verdict') :
    Alike verdict' verdict :=
  ⟨alike.status.symm, alike.reasons.symm, alike.warnings.symm⟩

/-- And transitive. -/
lemma Alike.trans {verdict verdict' verdict'' : CaseValidationResult} (alike : Alike verdict verdict')
    (alike' : Alike verdict' verdict'') : Alike verdict verdict'' :=
  ⟨alike.status.trans alike'.status, alike.reasons.trans alike'.reasons,
    alike.warnings.trans alike'.warnings⟩

/-- A bundle is found to be what a case is found to be. -/
def SameVerdict (bundled : Except CaseBundleError (Option CaseValidationResult))
    (own : Option CaseValidationResult) : Prop :=
  ∃ verdict verdict', bundled = .ok (some verdict) ∧ own = some verdict' ∧ Alike verdict verdict'

/-- The checks of records that all load, but for the evidence. -/
def recordChecks (identity : ExperimentalCaseIdentity) (experiment : CaseExperiment)
    (benchmarks : List CaseBenchmark) : List Checked :=
  [checkRecords benchmarks [], checkMachine identity experiment benchmarks,
    checkArtifact identity experiment benchmarks, checkArtifactHash experiment benchmarks,
    checkRuntimeFamily identity experiment benchmarks, checkRuntimeBuild experiment benchmarks,
    checkConditions experiment benchmarks, checkContext experiment benchmarks,
    checkProvenance experiment benchmarks]

/-- The validation of a case whose records all load. -/
lemma validate_of_records (loads : loaders.loadExperiment manifest.experimentRecordId = .ok experiment)
    (all : manifest.benchmarkRecordIds.mapM loaders.loadBenchmark = .ok benchmarks) :
    validate sha256 loaders evidenceRoot manifest =
      (checkEvidence sha256 evidenceRoot manifest.evidenceFiles).map fun evidence =>
        result manifest.identity.caseId (recordChecks manifest.identity experiment benchmarks ++ [evidence]) := by
  have there : loadedBenchmarks loaders manifest = benchmarks := filterMap_toOption_of_mapM_ok all
  have missing : missingOf loaders manifest = [] :=
    missingOf_eq_nil.mpr ⟨⟨experiment, loads⟩, forall_ok_of_mapM_ok all⟩
  rw [validate_of_loads loads]
  simp only [checksOf, there, missing, recordChecks, List.cons_append, List.nil_append]

/-- Checks that are fine make results alike. -/
lemma alike_of_fine (fine : checked.Fine) (fine' : checked'.Fine) :
    Alike (result caseId (checks ++ [checked])) (result caseId (checks ++ [checked'])) where
  status := by
    rw [result, result]
    simp only [List.map_append, List.map_cons, List.map_nil, fine.status, fine'.status]
  reasons := by
    rw [result, result]
    simp only [List.flatMap_append, List.flatMap_singleton, fine.reasons, fine'.reasons]
  warnings := by
    rw [result, result]
    simp only [List.flatMap_append, List.flatMap_singleton, fine.warnings, fine'.warnings]

/-- A verdict like that of a fine check comes from a check that has nothing to say. -/
lemma reasons_of_alike (fine : checked.Fine)
    (alike : Alike (result caseId (checks ++ [checked])) (result caseId (checks ++ [checked']))) :
    checked'.reasons = [] := by
  have same := alike.reasons
  rw [result, result] at same
  simp only [List.flatMap_append, List.flatMap_singleton, fine.reasons, List.append_right_inj] at same
  exact same.symm

end Verdicts

section Bundled
variable (exported : Exported service machine call case experiment benchmarks root evidence staged bundle index
  contents) (constructible : Constructible case)
include exported constructible

/-- In the bundle, the records load under their ids again. -/
lemma Exported.loads_bundled :
    LoadsOwn (bundleLoaders ⟨bundle, case, experiment, benchmarks⟩)
      (bundledCase ⟨bundle, case, experiment, benchmarks⟩) experiment benchmarks where
  experimentLoads := if_neg (not_not.mpr exported.loadsOwn.experimentId.symm)
  benchmarksLoad := by
    have distinct : (benchmarks.map fun record => (record.benchmarkId : PyString)).Nodup := by
      rw [exported.loadsOwn.benchmarkIds]
      exact constructible.wellFormed.nodup
    have found : ∀ record ∈ benchmarks, benchmarks.reverse.find?
        (fun other => (other.benchmarkId : PyString) = (record.benchmarkId : PyString)) = some record := by
      intro record mem
      obtain ⟨other, eq⟩ : ∃ other, benchmarks.reverse.find?
          (fun other => (other.benchmarkId : PyString) = (record.benchmarkId : PyString)) = some other := by
        apply Option.isSome_iff_exists.mp
        rw [List.find?_isSome]
        exact ⟨record, List.mem_reverse.mpr mem, decide_eq_true rfl⟩
      have same := List.find?_some eq
      rw [decide_eq_true_eq] at same
      have there := List.mem_reverse.mp (List.mem_of_find?_eq_some eq)
      rw [eq, List.inj_on_of_nodup_map distinct there mem same]
    have ids : (bundledCase ⟨bundle, case, experiment, benchmarks⟩).benchmarkRecordIds =
        benchmarks.map fun record => (record.benchmarkId : PyString) := exported.loadsOwn.benchmarkIds.symm
    rw [ids, mapM_eq_ok_iff, List.forall₂_map_left_iff, List.forall₂_same]
    intro record mem
    rw [bundleLoaders]
    dsimp only
    rw [found record mem]
  experimentId := exported.loadsOwn.experimentId
  benchmarkIds := exported.loadsOwn.benchmarkIds

/-- In the bundle, the copies verify under the paths that the index declares. -/
lemma Exported.copies_verify : AllVerify service.sha256 (bundleRoot contents)
    (bundledCase ⟨bundle, case, experiment, benchmarks⟩).evidenceFiles := by
  refine .inr ⟨_, rfl, ?_⟩
  intro reference mem
  have zipped : (bundledCase ⟨bundle, case, experiment, benchmarks⟩).evidenceFiles =
      evidence.zipWith (fun source entry => { source.1 with path := entry.2.file.path })
        staged.evidenceFiles := by
    rw [bundledCase]
    dsimp only
    rw [exported.indexes.evidenceFiles, Staged.evidenceIndex, ← exported.matches.references, List.zipWith_map]
  rw [zipped] at mem
  obtain ⟨source, from', entry, there, ⟨-, copy⟩, rfl⟩ :=
    exists_of_mem_zipWith exported.stages.evidenceFiles mem
  obtain ⟨reference, -, rfl, -, recorded⟩ := exists_of_mem_right exported.sources_verify from'
  have relative : pathRefusals source.1.path = [] := by
    apply constructible.wellFormed.paths
    rw [← exported.matches.references]
    exact List.mem_map_of_mem from'
  have found := exported.lookup_evidence there
  rw [copy.standsAt, copy.content] at found
  refine ⟨source.2.1, true, ?_, recorded.size, fun digest noted => ⟨rfl, (recorded.digest digest noted).2⟩⟩
  dsimp only
  rw [copy.path, (portable_evidencePlace relative).partsOf_bundlePath, found]

end Bundled

section Preservation

/-- A bundle preserves what it was exported from: it loads as the case and its records, it is found to be what
the case is found to be, and nothing that it declares can change unnoticed. -/
structure Preserves (service : CaseBundleService) (machine : Machine) (call : ExportCall)
    (case : ExperimentalCaseManifest) (contents : Contents) : Prop where
  loads : ∃ loaded, service.load contents = .ok loaded ∧ loaded.case = case ∧
    LoadsOwn service.loaders case loaded.experiment loaded.benchmarks
  verdict : SameVerdict (service.validate contents)
    (Cases.validate service.sha256 service.loaders (machine.evidenceRoot call.evidenceRoot) case)
  evident : ∀ loaded contents', service.load contents = .ok loaded →
    Tampered loaded.manifest contents contents' → ∃ error, service.load contents' = .error error

/-- What validation finds in the bundle: the records as they are, and evidence that verifies. -/
lemma Exported.validate_bundle (exported : Exported service machine call case experiment benchmarks root evidence
    staged bundle index contents) (assumed : Assumed service) (constructible : Constructible case) :
    ∃ verdict checked, service.validate contents = .ok (some verdict) ∧ checked.Fine ∧
      Alike verdict (result case.identity.caseId
        (recordChecks case.identity experiment benchmarks ++ [checked])) := by
  have loads := load_eq_ok.mpr (exported.loads assumed constructible)
  have own := exported.loads_bundled constructible
  obtain ⟨checked, check, fine⟩ := exists_fine_of_allVerify (exported.copies_verify constructible)
  have validated : ∃ verdict, Cases.validate service.sha256
      (bundleLoaders ⟨bundle, case, experiment, benchmarks⟩) (bundleRoot contents)
      (bundledCase ⟨bundle, case, experiment, benchmarks⟩) = some verdict ∧
        verdict = result case.identity.caseId
          (recordChecks case.identity experiment benchmarks ++ [checked]) := by
    rw [validate_of_records own.experimentLoads own.benchmarksLoad, check, Option.map_some]
    exact ⟨_, rfl, rfl⟩
  obtain ⟨verdict, validated, rfl⟩ := validated
  have bundled : ∃ verdict', service.validate contents = .ok (some verdict') ∧
      Alike verdict' (result case.identity.caseId
        (recordChecks case.identity experiment benchmarks ++ [checked])) := by
    rw [CaseBundleService.validate, loads, ok_bind, validated, Option.map_some]
    exact ⟨_, rfl, rfl, rfl, rfl⟩
  obtain ⟨verdict', returned, alike⟩ := bundled
  exact ⟨verdict', checked, returned, fine, alike⟩

/-- The verdicts are alike exactly if validation finds the evidence. -/
lemma Exported.sameVerdict_iff (exported : Exported service machine call case experiment benchmarks root evidence
    staged bundle index contents) (assumed : Assumed service) (constructible : Constructible case) :
    SameVerdict (service.validate contents)
        (Cases.validate service.sha256 service.loaders (machine.evidenceRoot call.evidenceRoot) case) ↔
      AllVerify service.sha256 (machine.evidenceRoot call.evidenceRoot) case.evidenceFiles := by
  obtain ⟨verdict, checked, validated, fine, alike⟩ := exported.validate_bundle assumed constructible
  have own : Cases.validate service.sha256 service.loaders (machine.evidenceRoot call.evidenceRoot) case = _ :=
    validate_of_records exported.loadsOwn.experimentLoads exported.loadsOwn.benchmarksLoad
  constructor
  · rintro ⟨verdict', verdict'', validated', found, same⟩
    cases validated.symm.trans validated'
    rw [own] at found
    obtain ⟨checked', check, rfl⟩ := Option.map_eq_some_iff.mp found
    exact (checkEvidence_silent_iff check).mp (reasons_of_alike fine (alike.symm.trans same))
  · intro verify
    obtain ⟨checked', check, fine'⟩ := exists_fine_of_allVerify verify
    have same : Alike (result case.identity.caseId (recordChecks case.identity experiment benchmarks ++ [checked]))
        (result case.identity.caseId (recordChecks case.identity experiment benchmarks ++ [checked'])) :=
      alike_of_fine fine fine'
    exact ⟨verdict, _, validated, by rw [own, check, Option.map_some], alike.trans same⟩

/-- Where the evidence root does not begin with `~`, validation finds the evidence. -/
lemma Exported.allVerify (exported : Exported service machine call case experiment benchmarks root evidence
    staged bundle index contents) (plain : machine.expanduser call.evidenceRoot = some call.evidenceRoot) :
    AllVerify service.sha256 (machine.evidenceRoot call.evidenceRoot) case.evidenceFiles := by
  have rooted := exported.rooted
  rw [sourceRoot, plain] at rooted
  dsimp only at rooted
  cases started : machine.start call.evidenceRoot with
  | none =>
    rw [started, Option.bind_none] at rooted
    cases rooted
  | some place =>
    rw [started, Option.bind_some] at rooted
    cases resolved : machine.tree.resolve false machine.limit place call.evidenceRoot.parts with
    | none =>
      rw [resolved] at rooted
      cases rooted
    | some root' =>
      rw [resolved] at rooted
      cases rooted
      refine .inr ⟨machine.evidence root, ?_, ?_⟩
      · rw [Machine.evidenceRoot]
        dsimp only
        rw [started, Option.map_some, resolved]
      · intro reference mem
        obtain ⟨source, -, -, verifies⟩ := exists_of_mem_left exported.sources_verify mem
        exact ⟨_, _, verifies⟩

/-- **A bundle preserves its case exactly if validation finds the evidence where the export did**: there is
none, or under the evidence root as it is spelled, too, every reference leads to a file that is as recorded. -/
theorem export_preserves_iff (assumed : Assumed service) (constructible : Constructible case)
    (ok : service.export' machine call case = .ok contents) :
    Preserves service machine call case contents ↔
      AllVerify service.sha256 (machine.evidenceRoot call.evidenceRoot) case.evidenceFiles := by
  obtain ⟨experiment, benchmarks, root, evidence, staged, bundle, index, exported⟩ := exported_of_export ok
  rw [← exported.sameVerdict_iff assumed constructible]
  constructor
  · exact fun preserves => preserves.verdict
  · intro same
    exact
      { loads := ⟨_, load_eq_ok.mpr (exported.loads assumed constructible), rfl, exported.loadsOwn⟩
        verdict := same
        evident := fun loaded contents' loads tampered =>
          load_tampered assumed.injective (load_eq_ok.mp loads) tampered }

/-- Snapshots of one record only. -/
def Snapshots.only [DecidableEq Record] (write : Record → List Char) (record : Record) : Snapshots Record where
  dumps other := if other = record then some (write other) else none
  parse text := if text = String.ofList (write record ++ ['\n']) then some record else none

/-- They are read back. -/
lemma roundTrips_only [DecidableEq Record] {write : Record → List Char} {record : Record}
    (plain : '\r' ∉ write record) (other : Record) : RoundTrips (Snapshots.only write record) other := by
  intro text dumped
  rw [Snapshots.only] at dumped
  dsimp only at dumped
  split_ifs at dumped with same
  cases dumped
  subst same
  exact ⟨plain, if_pos rfl⟩

/-- Two digits give the number of a byte. -/
lemma hex_two_injective {m n : ℕ} (small : m < 256) (small' : n < 256) (same : hex 2 m = hex 2 n) : m = n := by
  have digits : ∀ i < 16, ∀ j < 16, Nat.digitChar i = Nat.digitChar j → i = j := by decide
  obtain ⟨high, rest⟩ := List.cons_eq_cons.mp same
  obtain ⟨low, -⟩ := List.cons_eq_cons.mp rest
  have high := digits _ (by omega) _ (by omega) high
  have low := digits _ (by omega) _ (by omega) low
  omega

/-- The digest tells all bytes apart. -/
lemma exampleDigest_injective : Function.Injective exampleDigest := by
  intro bytes bytes' same
  have digits := String.ofList_injective same
  clear same
  induction bytes generalizing bytes' with
  | nil =>
    cases bytes' with
    | nil => rfl
    | cons byte rest => cases digits
  | cons byte rest ih =>
    cases bytes' with
    | nil => cases digits
    | cons byte' rest' =>
      rw [List.flatMap_cons, List.flatMap_cons] at digits
      obtain ⟨first, others⟩ := List.append_inj digits rfl
      rw [ih others, UInt8.toNat_inj.mp (hex_two_injective byte.toNat_lt byte'.toNat_lt first)]

/-- It is in lower case. -/
lemma lower_exampleDigest (bytes : List UInt8) : lower (exampleDigest bytes) = exampleDigest bytes := by
  apply lower_of_plain
  intro c mem
  rw [exampleDigest, String.toList_ofList] at mem
  obtain ⟨byte, -, mem⟩ := List.mem_flatMap.mp mem
  have plain : ∀ i < 16, (Nat.digitChar i).toNat < 65 ∨
      90 < (Nat.digitChar i).toNat ∧ (Nat.digitChar i).toNat < 128 := by decide
  simp only [hex, List.nil_append, List.mem_append, List.mem_singleton] at mem
  rcases mem with rfl | rfl
  · exact plain _ (Nat.mod_lt _ (by decide))
  · exact plain _ (Nat.mod_lt _ (by decide))

/-- The case of the example. -/
def loggedCase : ExperimentalCaseManifest :=
  exampleCase ["./log", "notes"]

/-- The file of a text in a bundle. -/
def exampleFile (path : PyString) (relative : pathRefusals path = []) (text : List Char) : CaseBundleFile :=
  let bytes := encodeUtf8 (text ++ ['\n'])
  ⟨path, exampleDigest bytes, bytes.length, relative⟩

/-- The index of the example. -/
def exampleIndex : ExperimentalCaseBundleManifest where
  stamp := exampleCall.stamp
  caseFile := exampleFile "case.json" (by decide) (caseText loggedCase)
  experimentFile := exampleFile "records/experiment.json" (by decide) (experimentText exampleExperiment)
  benchmarkFiles :=
    [⟨exampleFile "records/benchmarks/benchmark-1.json" (by decide)
      (benchmarkText (exampleBenchmark "benchmark-1" (some 8192))), "benchmark-1", by decide⟩]
  evidenceFiles :=
    [⟨⟨"evidence/log", exampleDigest [104, 105], 2, by decide⟩, { path := "./log" }⟩,
      ⟨⟨"evidence/notes", exampleDigest [104, 105], 2, by decide⟩, { path := "notes" }⟩]
  uniquePaths := by decide
  uniqueIds := by decide

/-- A service that writes and reads the records of the example. -/
def exampleBundles : CaseBundleService where
  loaders := exampleLoaders
  sha256 := exampleDigest
  cases := .only caseText loggedCase
  experiments := .only experimentText exampleExperiment
  benchmarks := .only benchmarkText (exampleBenchmark "benchmark-1" (some 8192))
  bundles := .only bundleText exampleIndex

/-- The service is as assumed. -/
lemma exampleBundles_assumed : Assumed exampleBundles where
  injective := exampleDigest_injective
  lowercase := lower_exampleDigest
  cases _ _ := roundTrips_only (by decide +kernel) _
  experiments _ := roundTrips_only (by decide +kernel) _
  benchmarks _ := roundTrips_only (by decide +kernel) _
  bundles _ := roundTrips_only (by decide +kernel) _

/-- The machine of the example, where the root is the home directory of the user. -/
def homeHost : Machine :=
  { exampleHost with home := fun _ => some [] }

/-- An export with evidence from the home directory. -/
def homeCall : ExportCall :=
  { exampleCall with evidenceRoot := ⟨false, [codesOf "~"]⟩ }

/-- Both calls export the case. -/
lemma exampleBundles_export :
    (∃ contents, exampleBundles.export' exampleHost exampleCall loggedCase = .ok contents) ∧
      ∃ contents, exampleBundles.export' homeHost homeCall loggedCase = .ok contents := by
  have succeed : (exampleBundles.export' exampleHost exampleCall loggedCase).toOption.isSome = true ∧
      (exampleBundles.export' homeHost homeCall loggedCase).toOption.isSome = true := by
    decide +kernel
  have ok : ∀ {result : Except ExportFailure Contents}, result.toOption.isSome = true →
      ∃ contents, result = .ok contents := by
    intro result some'
    cases result with
    | ok contents => exact ⟨contents, rfl⟩
    | error failure => cases some'
  exact ⟨ok succeed.1, ok succeed.2⟩

/-- Evidence from the working directory is preserved. -/
theorem export_preserves_iff_workingDirectory : ∃ contents,
    exampleBundles.export' exampleHost exampleCall loggedCase = .ok contents ∧
      Preserves exampleBundles exampleHost exampleCall loggedCase contents := by
  obtain ⟨contents, ok⟩ := exampleBundles_export.1
  have constructible : Constructible loggedCase := exampleCase_constructible (by decide)
  obtain ⟨_, _, _, _, _, _, _, exported⟩ := exported_of_export ok
  exact ⟨contents, ok, (export_preserves_iff exampleBundles_assumed constructible ok).mpr (exported.allVerify rfl)⟩

/-- Evidence from `~` is exported from the home directory, and is missing where the case is validated. -/
theorem homeRoot_changes_verdict : ∃ contents, Assumed exampleBundles ∧ Constructible loggedCase ∧
    exampleBundles.export' homeHost homeCall loggedCase = .ok contents ∧
      ¬SameVerdict (exampleBundles.validate contents)
        (Cases.validate exampleBundles.sha256 exampleBundles.loaders (homeHost.evidenceRoot homeCall.evidenceRoot)
          loggedCase) := by
  obtain ⟨contents, ok⟩ := exampleBundles_export.2
  have constructible : Constructible loggedCase := exampleCase_constructible (by decide)
  obtain ⟨_, _, _, _, _, _, _, exported⟩ := exported_of_export ok
  refine ⟨contents, exampleBundles_assumed, constructible, ok, ?_⟩
  rw [exported.sameVerdict_iff exampleBundles_assumed constructible]
  rintro (none | ⟨files, resolved, verify⟩)
  · cases none
  · have missing : (homeHost.evidenceRoot homeCall.evidenceRoot).files.map (· "./log") = some .missing := by
      decide
    obtain ⟨bytes, readable, there, -⟩ := verify { path := "./log" } List.mem_cons_self
    rw [resolved, Option.map_some] at missing
    cases there.symm.trans (Option.some.inj missing)

end Preservation

end Jaull.Cases
