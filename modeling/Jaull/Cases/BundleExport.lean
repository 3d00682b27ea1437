import Jaull.Cases.BundlePlaces
import Jaull.Lib.ListMap

/-!
# What an export writes

Each operation of an export, with what it returns and when it succeeds. An export that gets as far as its
index has written every file at a place of its own.
-/

namespace Jaull.Cases
open Jaull.Domain Jaull.Evaluation Jaull.Lib Jaull.Text

variable {Record : Type} {sha256 : List UInt8 → String} {refuses : ExportStep → Bool}
  {place : List FileName} {bytes : List UInt8} {written : Written} {snapshots : Snapshots Record}
  {record : Record}

section Files

/-- Bytes written at a place, and declared as what they are. -/
structure IsWritten (sha256 : List UInt8 → String) (place : List FileName) (bytes : List UInt8)
    (written : Written) : Prop where
  standsAt : written.place = place
  content : written.bytes = bytes
  path : written.file.path = bundlePath place
  digest : written.file.sha256 = sha256 bytes
  size : written.file.sizeBytes = bytes.length

/-- A file that was made is written. -/
lemma isWritten_of_bundleFileFor (ok : bundleFileFor sha256 place bytes = .ok written) :
    IsWritten sha256 place bytes written := by
  rw [bundleFileFor] at ok
  split at ok
  case isTrue relative =>
    cases ok
    exact ⟨rfl, rfl, rfl, rfl, rfl⟩
  case isFalse => cases ok

/-- A portable place has its file. -/
lemma exists_bundleFileFor (portable : Portable place) :
    ∃ written, bundleFileFor sha256 place bytes = .ok written := by
  have relative : pathRefusals (PyString.ofCodes (posixText place)) = [] := portable.declared
  rw [bundleFileFor, dif_pos relative]
  exact ⟨_, rfl⟩

/-- The snapshot of a record, written at a place. -/
def IsSnapshot (sha256 : List UInt8 → String) (snapshots : Snapshots Record) (place : List FileName)
    (record : Record) (written : Written) : Prop :=
  ∃ text, snapshots.dumps record = some text ∧
    IsWritten sha256 place (encodeUtf8 (text ++ ['\n'])) written

/-- A snapshot stands at its place. -/
lemma IsSnapshot.standsAt (snapshot : IsSnapshot sha256 snapshots place record written) :
    written.place = place := by
  obtain ⟨text, -, isWritten⟩ := snapshot
  exact isWritten.standsAt

/-- And under its path. -/
lemma IsSnapshot.path (snapshot : IsSnapshot sha256 snapshots place record written) :
    written.file.path = bundlePath place := by
  obtain ⟨text, -, isWritten⟩ := snapshot
  exact isWritten.path

/-- A record that was written is a snapshot. -/
lemma isSnapshot_of_writeJson (ok : writeJson sha256 refuses place (snapshots.dumps record) = .ok written) :
    IsSnapshot sha256 snapshots place record written := by
  rw [writeJson.eq_def] at ok
  cases dumped : snapshots.dumps record with
  | none =>
    rw [dumped] at ok
    cases ok
  | some text =>
    rw [dumped] at ok
    dsimp only at ok
    split at ok
    · cases ok
    · exact ⟨text, dumped, isWritten_of_bundleFileFor ok⟩

/-- A record with a text can be written at a portable place. -/
lemma exists_writeJson (portable : Portable place) (permits : refuses (.write place) = false)
    (dumped : ∃ text, snapshots.dumps record = some text) :
    ∃ written, writeJson sha256 refuses place (snapshots.dumps record) = .ok written := by
  obtain ⟨text, eq⟩ := dumped
  rw [eq, writeJson.eq_def]
  dsimp only
  rw [permits, if_neg Bool.false_ne_true]
  exact exists_bundleFileFor portable

end Files

section Contents
variable {writes : List (List FileName × List UInt8)}

/-- A file that was written once, or always with the same bytes, is found. -/
lemma lookup_contentsOf (consistent : ∀ write ∈ writes, write.1 = place → write.2 = bytes)
    (mem : (place, bytes) ∈ writes) : (contentsOf writes).lookup place = some bytes := by
  have comprehended : contentsOf writes = dictComprehension Prod.fst Prod.snd writes [] := rfl
  rw [comprehended]
  have there : ((dictComprehension Prod.fst Prod.snd writes []).lookup (Prod.fst (place, bytes))).isSome :=
    isSome_lookup_of_mem mem
  obtain ⟨bytes', found⟩ := Option.isSome_iff_exists.mp there
  rcases lookup_dictComprehension found with earlier | ⟨write, wrote, same, rfl⟩
  · cases earlier
  · rw [found, consistent write wrote same]

end Contents

section Evidence
variable {files : PyString → EvidenceFile} {reference : EvidenceFileReference} {readable : Bool}
  {source : EvidenceFileReference × List UInt8 × Bool} {entry : EvidenceFileReference × Written}

/-- The bytes have the size and the digest that a reference records. -/
structure Recorded (sha256 : List UInt8 → String) (reference : EvidenceFileReference) (bytes : List UInt8)
    (readable : Bool) : Prop where
  size : ∀ size, reference.sizeBytes = some size → bytes.length = size
  digest : ∀ digest, reference.sha256 = some digest → readable = true ∧ sha256 bytes = lower digest

/-- A reference leads to a file that is as recorded. -/
def Verifies (sha256 : List UInt8 → String) (files : PyString → EvidenceFile)
    (reference : EvidenceFileReference) (bytes : List UInt8) (readable : Bool) : Prop :=
  files reference.path = .file bytes readable ∧ Recorded sha256 reference bytes readable

/-- The size is as recorded, if it was. -/
lemma not_size_iff :
    (¬∃ size, reference.sizeBytes = some size ∧ bytes.length ≠ size) ↔
      ∀ size, reference.sizeBytes = some size → bytes.length = size := by
  push Not
  rfl

/-- A reference resolves to a source that verifies. -/
lemma resolveReference_eq_ok : resolveReference sha256 files reference = .ok source ↔
    source.1 = reference ∧ Verifies sha256 files reference source.2.1 source.2.2 := by
  obtain ⟨reference', bytes, readable⟩ := source
  rw [resolveReference, Verifies]
  cases found : files reference.path with
  | file bytes' readable' =>
    dsimp only
    split
    case isTrue differs =>
      refine iff_of_false nofun ?_
      rintro ⟨-, same, recorded⟩
      cases same
      exact not_size_iff.mpr recorded.size differs
    case isFalse same =>
      have size := not_size_iff.mp same
      cases noted : reference.sha256 with
      | none =>
        dsimp only
        constructor
        · intro eq
          cases eq
          exact ⟨rfl, rfl, size, fun digest eq => absurd (noted.symm.trans eq) nofun⟩
        · rintro ⟨rfl, eq, -⟩
          cases eq
          rfl
      | some digest =>
        dsimp only
        -- a stated digest is compared with that of what can be read
        split_ifs with unread other
        · refine iff_of_false nofun ?_
          rintro ⟨-, eq, recorded⟩
          cases eq
          rw [(recorded.digest digest noted).1] at unread
          cases unread
        · refine iff_of_false nofun ?_
          rintro ⟨-, eq, recorded⟩
          cases eq
          exact other (recorded.digest digest noted).2
        · constructor
          · intro eq
            cases eq
            refine ⟨rfl, rfl, size, ?_⟩
            intro digest' eq'
            cases noted.symm.trans eq'
            exact ⟨by simpa using unread, not_not.mp other⟩
          · rintro ⟨rfl, eq, -⟩
            cases eq
            rfl
  | raises => exact iff_of_false nofun fun verifies => absurd verifies.2.1 nofun
  | refused => exact iff_of_false nofun fun verifies => absurd verifies.2.1 nofun
  | outside => exact iff_of_false nofun fun verifies => absurd verifies.2.1 nofun
  | missing => exact iff_of_false nofun fun verifies => absurd verifies.2.1 nofun

/-- A copy of evidence, with the reference that it fulfils. -/
def IsCopy (sha256 : List UInt8 → String) (source : EvidenceFileReference × List UInt8 × Bool)
    (entry : EvidenceFileReference × Written) : Prop :=
  entry.1 = source.1 ∧ IsWritten sha256 (evidencePlace source.1.path) source.2.1 entry.2

/-- Evidence that was copied is a copy. -/
lemma isCopy_of_copyEvidence (ok : copyEvidence sha256 refuses source = .ok entry) :
    IsCopy sha256 source entry := by
  obtain ⟨reference, bytes, readable⟩ := source
  rw [copyEvidence] at ok
  split at ok
  case isTrue => cases ok
  case isFalse =>
    obtain ⟨written, made, eq⟩ := bind_eq_ok.mp ok
    cases eq
    exact ⟨rfl, isWritten_of_bundleFileFor made⟩

/-- Readable evidence can be copied. -/
lemma exists_copyEvidence (relative : pathRefusals source.1.path = []) (readable : source.2.2 = true)
    (permits : refuses (.write (evidencePlace source.1.path)) = false) :
    ∃ entry, copyEvidence sha256 refuses source = .ok entry := by
  obtain ⟨reference, bytes, read⟩ := source
  have file : ∃ written, bundleFileFor sha256 (evidencePlace reference.path) bytes = .ok written :=
    exists_bundleFileFor (portable_evidencePlace relative)
  obtain ⟨written, made⟩ := file
  dsimp only at readable permits
  rw [copyEvidence, if_neg (by rw [readable, permits]; decide), made]
  exact ⟨_, rfl⟩

end Evidence

section Staging
variable {service : CaseBundleService} {case : ExperimentalCaseManifest} {experiment : CaseExperiment}
  {benchmarks : List CaseBenchmark} {evidence : List (EvidenceFileReference × List UInt8 × Bool)}
  {staged : Staged} {stamp : ExportStamp} {bundle : ExperimentalCaseBundleManifest}

/-- The snapshot of a benchmark record, with the record. -/
def IsBenchmarkSnapshot (service : CaseBundleService) (record : CaseBenchmark)
    (entry : CaseBenchmark × Written) : Prop :=
  entry.1 = record ∧
    IsSnapshot service.sha256 service.benchmarks (benchmarkPlace record.benchmarkId) record entry.2

/-- What an export stages of a case. -/
structure Stages (service : CaseBundleService) (case : ExperimentalCaseManifest)
    (experiment : CaseExperiment) (benchmarks : List CaseBenchmark)
    (evidence : List (EvidenceFileReference × List UInt8 × Bool)) (staged : Staged) : Prop where
  caseFile : IsSnapshot service.sha256 service.cases casePlace case staged.caseFile
  experimentFile :
    IsSnapshot service.sha256 service.experiments experimentPlace experiment staged.experimentFile
  benchmarkFiles : List.Forall₂ (IsBenchmarkSnapshot service) benchmarks staged.benchmarkFiles
  evidenceFiles : List.Forall₂ (IsCopy service.sha256) evidence staged.evidenceFiles

/-- What was staged are snapshots and copies. -/
lemma stages_of_stage (ok : stage service refuses case experiment benchmarks evidence = .ok staged) :
    Stages service case experiment benchmarks evidence staged := by
  obtain ⟨caseFile, caseEq, ok⟩ := bind_eq_ok.mp ok
  obtain ⟨experimentFile, experimentEq, ok⟩ := bind_eq_ok.mp ok
  obtain ⟨benchmarkFiles, benchmarksEq, ok⟩ := bind_eq_ok.mp ok
  obtain ⟨evidenceFiles, evidenceEq, ok⟩ := bind_eq_ok.mp ok
  cases ok
  refine ⟨isSnapshot_of_writeJson caseEq, isSnapshot_of_writeJson experimentEq, ?_, ?_⟩
  · refine (mapM_eq_ok_iff.mp benchmarksEq).imp fun record entry eq => ?_
    obtain ⟨written, wrote, eq⟩ := bind_eq_ok.mp eq
    cases eq
    exact ⟨rfl, isSnapshot_of_writeJson wrote⟩
  · exact (mapM_eq_ok_iff.mp evidenceEq).imp fun source entry eq => isCopy_of_copyEvidence eq

/-- Records with texts and readable evidence can be staged. -/
lemma exists_stage (permits : ∀ step, refuses step = false)
    (caseText : ∃ text, service.cases.dumps case = some text)
    (experimentText : ∃ text, service.experiments.dumps experiment = some text)
    (benchmarkTexts : ∀ record ∈ benchmarks, ∃ text, service.benchmarks.dumps record = some text)
    (safe : ∀ record ∈ benchmarks, matchesSafeId record.benchmarkId = true)
    (sources : ∀ source ∈ evidence, pathRefusals source.1.path = [] ∧ source.2.2 = true) :
    ∃ staged, stage service refuses case experiment benchmarks evidence = .ok staged := by
  have caseFile : ∃ written, writeJson service.sha256 refuses casePlace (service.cases.dumps case) =
      .ok written := exists_writeJson portable_casePlace (permits _) caseText
  have experimentFile : ∃ written, writeJson service.sha256 refuses experimentPlace
      (service.experiments.dumps experiment) = .ok written :=
    exists_writeJson portable_experimentPlace (permits _) experimentText
  have benchmarkFile : ∀ record ∈ benchmarks, ∃ entry : CaseBenchmark × Written,
      (do
        let written ← writeJson service.sha256 refuses (benchmarkPlace record.benchmarkId)
          (service.benchmarks.dumps record)
        Except.ok (record, written)) = Except.ok entry := by
    intro record mem
    have file : ∃ written, writeJson service.sha256 refuses (benchmarkPlace record.benchmarkId)
        (service.benchmarks.dumps record) = .ok written :=
      exists_writeJson (portable_benchmarkPlace (safe record mem)) (permits _) (benchmarkTexts record mem)
    obtain ⟨written, wrote⟩ := file
    exact ⟨(record, written), bind_eq_ok.mpr ⟨written, wrote, rfl⟩⟩
  have copy : ∀ source ∈ evidence, ∃ entry, copyEvidence service.sha256 refuses source = .ok entry :=
    fun source mem => exists_copyEvidence (sources source mem).1 (sources source mem).2 (permits _)
  obtain ⟨caseFile, caseEq⟩ := caseFile
  obtain ⟨experimentFile, experimentEq⟩ := experimentFile
  obtain ⟨benchmarkFiles, benchmarksEq⟩ := exists_mapM_ok benchmarkFile
  obtain ⟨evidenceFiles, evidenceEq⟩ := exists_mapM_ok copy
  refine ⟨⟨caseFile, experimentFile, benchmarkFiles, evidenceFiles⟩, ?_⟩
  rw [stage, caseEq, ok_bind, experimentEq, ok_bind, benchmarksEq, ok_bind, evidenceEq, ok_bind]

end Staging

section Indexing
variable {service : CaseBundleService} {case : ExperimentalCaseManifest} {experiment : CaseExperiment}
  {benchmarks : List CaseBenchmark} {evidence : List (EvidenceFileReference × List UInt8 × Bool)}
  {staged : Staged} {stamp : ExportStamp} {bundle : ExperimentalCaseBundleManifest}
  {files : List CaseBundleBenchmarkFile}

/-- A benchmark file of an index: what was written, under the id of its record. -/
def IsBenchmarkFile (entry : CaseBenchmark × Written) (file : CaseBundleBenchmarkFile) : Prop :=
  file.toCaseBundleFile = entry.2.file ∧ file.benchmarkId = entry.1.benchmarkId

/-- A benchmark that is declared is the one that was written. -/
lemma isBenchmarkFile_of_benchmarkFile {entry : CaseBenchmark × Written} {file : CaseBundleBenchmarkFile}
    (ok : benchmarkFile entry.1 entry.2 = .ok file) : IsBenchmarkFile entry file := by
  rw [benchmarkFile] at ok
  split at ok
  · cases ok
    exact ⟨rfl, rfl⟩
  · cases ok

/-- The evidence files of an index. -/
def Staged.evidenceIndex (staged : Staged) : List CaseBundleEvidenceFile :=
  staged.evidenceFiles.map fun (reference, written) => { written.file with reference := reference }

/-- The index of what was staged: where it was written, and what under. -/
structure Indexes (staged : Staged) (bundle : ExperimentalCaseBundleManifest) : Prop where
  caseFile : bundle.caseFile = staged.caseFile.file
  experimentFile : bundle.experimentFile = staged.experimentFile.file
  benchmarkFiles : List.Forall₂ IsBenchmarkFile staged.benchmarkFiles bundle.benchmarkFiles
  evidenceFiles : bundle.evidenceFiles = staged.evidenceIndex

/-- The index declares what was staged. -/
lemma indexes_of_index (ok : staged.index stamp = .ok bundle) : Indexes staged bundle := by
  obtain ⟨files, filesEq, ok⟩ := bind_eq_ok.mp ok
  have files := (mapM_eq_ok_iff.mp filesEq).imp fun _ _ eq => isBenchmarkFile_of_benchmarkFile eq
  rw [bundleManifest] at ok
  split at ok
  case isFalse => cases ok
  case isTrue =>
    split at ok
    case isFalse => cases ok
    case isTrue =>
      cases ok
      exact ⟨rfl, rfl, files, rfl⟩

/-- The places that an export of a case writes to before its index. -/
def casePlaces (case : ExperimentalCaseManifest) : List (List FileName) :=
  casePlace :: experimentPlace ::
    (case.benchmarkRecordIds.map benchmarkPlace ++
      case.evidenceFiles.map fun reference => evidencePlace reference.path)

/-- The records and references of a case, as the export has them. -/
structure Matches (case : ExperimentalCaseManifest) (benchmarks : List CaseBenchmark)
    (evidence : List (EvidenceFileReference × List UInt8 × Bool)) : Prop where
  benchmarkIds : benchmarks.map (fun record => (record.benchmarkId : PyString)) = case.benchmarkRecordIds
  references : evidence.map Prod.fst = case.evidenceFiles

/-- The places of a case, record by record. -/
lemma map_place_of_matches {β : Type} (mark : List FileName → β) (matching : Matches case benchmarks evidence) :
    (casePlaces case).map mark = mark casePlace :: mark experimentPlace ::
      (benchmarks.map (fun record => mark (benchmarkPlace record.benchmarkId)) ++
        evidence.map fun source => mark (evidencePlace source.1.path)) := by
  rw [casePlaces, ← matching.benchmarkIds, ← matching.references]
  simp only [List.map_cons, List.map_append, List.map_map, Function.comp_def]

/-- The places of the writes are those of the case. -/
lemma Stages.map_writes (stages : Stages service case experiment benchmarks evidence staged)
    (matching : Matches case benchmarks evidence) : staged.writes.map Prod.fst = casePlaces case := by
  have records : benchmarks.map (fun record => benchmarkPlace record.benchmarkId) =
      staged.benchmarkFiles.map fun entry => entry.2.place :=
    map_eq_of_forall₂ stages.benchmarkFiles fun _ _ snapshot => snapshot.2.standsAt.symm
  have copies : evidence.map (fun source => evidencePlace source.1.path) =
      staged.evidenceFiles.map fun entry => entry.2.place :=
    map_eq_of_forall₂ stages.evidenceFiles fun _ _ copy => copy.2.standsAt.symm
  have places := map_place_of_matches id matching
  rw [List.map_id] at places
  rw [places, Staged.writes]
  simp only [List.map_cons, List.map_append, List.map_map, Function.comp_def, id,
    stages.caseFile.standsAt, stages.experimentFile.standsAt, records, copies]

/-- The declared paths lead to the places of the case. -/
lemma Stages.declaredPaths_eq (stages : Stages service case experiment benchmarks evidence staged)
    (matching : Matches case benchmarks evidence)
    (indexed : List.Forall₂ IsBenchmarkFile staged.benchmarkFiles files) :
    declaredPaths staged.caseFile.file staged.experimentFile.file files staged.evidenceIndex =
      (casePlaces case).map bundlePath := by
  have records : benchmarks.map (fun record => bundlePath (benchmarkPlace record.benchmarkId)) =
      staged.benchmarkFiles.map fun entry => entry.2.file.path :=
    map_eq_of_forall₂ stages.benchmarkFiles fun _ _ snapshot => snapshot.2.path.symm
  have declared : staged.benchmarkFiles.map (fun entry => entry.2.file.path) =
      files.map fun file => file.path :=
    map_eq_of_forall₂ indexed fun _ _ isFile => (congrArg (·.path) isFile.1).symm
  have copies : evidence.map (fun source => bundlePath (evidencePlace source.1.path)) =
      staged.evidenceFiles.map fun entry => entry.2.file.path :=
    map_eq_of_forall₂ stages.evidenceFiles fun _ _ copy => copy.2.path.symm
  rw [map_place_of_matches bundlePath matching, declaredPaths, Staged.evidenceIndex, List.map_map, records,
    declared, copies, stages.caseFile.path, stages.experimentFile.path]
  rfl

end Indexing

end Jaull.Cases
