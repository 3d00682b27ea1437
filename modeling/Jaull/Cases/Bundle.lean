import Jaull.Cases.Validation
import Jaull.Evaluation.Store
import Jaull.Lib.Dict
import Jaull.Lib.FileTree
import Jaull.Lib.JsonText

/-!
# Bundles of cases

Port of `jaull/cases/bundle.py` and of the bundle manifest of `jaull/domain/cases.py`: a case with its records
and raw evidence in one directory, and an index that declares the hash of every file. The machine is a tree of
files; a bundle is the files of its directory by their places in it, where no links are. What the operating
system refuses, and what `pydantic` writes and reads, is given.
-/

namespace Jaull.Cases
open Jaull.Domain Jaull.Evaluation Jaull.Lib Jaull.Text

section Manifests

/-- Python `CaseBundleFile`. -/
structure CaseBundleFile where
  path : PyString
  sha256 : String
  sizeBytes : ℕ
  relative : pathRefusals path = []
  deriving DecidableEq

/-- Python `CaseBundleBenchmarkFile`. -/
structure CaseBundleBenchmarkFile extends CaseBundleFile where
  benchmarkId : PyString
  safe : matchesSafeId benchmarkId = true
  deriving DecidableEq

/-- Python `CaseBundleEvidenceFile`. -/
structure CaseBundleEvidenceFile extends CaseBundleFile where
  reference : EvidenceFileReference
  deriving DecidableEq

/-- The paths that a bundle declares. -/
def declaredPaths (caseFile experimentFile : CaseBundleFile) (benchmarkFiles : List CaseBundleBenchmarkFile)
    (evidenceFiles : List CaseBundleEvidenceFile) : List PyString :=
  caseFile.path :: experimentFile.path :: (benchmarkFiles.map (·.path) ++ evidenceFiles.map (·.path))

/-- When and by what a bundle was exported. -/
structure ExportStamp where
  exportedAt : Timestamp
  aware : exportedAt.aware = true
  jaullVersion : String
  gitCommit : Option String := none
  deriving DecidableEq

/-- Python `ExperimentalCaseBundleManifest`. -/
structure ExperimentalCaseBundleManifest where
  stamp : ExportStamp
  caseFile : CaseBundleFile
  experimentFile : CaseBundleFile
  benchmarkFiles : List CaseBundleBenchmarkFile := []
  evidenceFiles : List CaseBundleEvidenceFile := []
  uniquePaths : (declaredPaths caseFile experimentFile benchmarkFiles evidenceFiles).Nodup
  uniqueIds : (benchmarkFiles.map (·.benchmarkId)).Nodup
  deriving DecidableEq

end Manifests

section Failures

/-- Why Python raises `CaseBundleError`. -/
inductive CaseBundleError
  | destinationExists
  | noParentDirectory
  | recordsNotLoaded
  | otherExperimentId
  | otherBenchmarkIds
  | noTemporaryDirectory
  | evidenceEscapes (path : PyString)
  | evidenceNotFound (path : PyString)
  | evidenceSizeDiffers (path : PyString)
  | evidenceChecksumDiffers (path : PyString)
  /-- The operating system refuses to read or write. -/
  | io
  | fileMissing
  | fileSizeDiffers (path : PyString)
  | fileChecksumDiffers (path : PyString)
  | notUtf8
  | invalid (label : String)
  | otherExperiment
  | otherBenchmarks
  | otherEvidence
  deriving DecidableEq, Repr

/-- What leaves an export without a bundle. -/
inductive ExportFailure
  | bundle (error : CaseBundleError)
  /-- A `ValidationError` of `pydantic`. -/
  | refused (texts : List String)
  /-- `pydantic` cannot write a record. -/
  | unserializable
  /-- Any other exception. -/
  | raised
  deriving DecidableEq, Repr

end Failures

section Machines

/-- A machine: its files, how many links a path may follow, the working directory and the home directories
of users (the nameless one is the current user). -/
structure Machine where
  tree : FileTree
  limit : ℕ
  cwd : Option (List FileName)
  home : FileName → Option (List FileName)

namespace Machine
variable (machine : Machine)

/-- Python `path.expanduser()`. -/
def expanduser (path : PosixPath) : Option PosixPath :=
  match path.absolute, path.parts with
  | false, (126 :: user) :: rest => (machine.home user).map fun parts => ⟨true, parts ++ rest⟩
  | _, _ => some path

/-- Where a path starts. -/
def start (path : PosixPath) : Option (List FileName) :=
  if path.absolute then some [] else machine.cwd

/-- Python `path.exists()`. -/
def exists' (path : PosixPath) : Bool :=
  ((machine.start path).bind fun place => machine.tree.resolve true machine.limit place path.parts).any
    fun place => machine.tree.entry place ≠ none

/-- Python `os.path.abspath`. -/
def absolutePath (path : PosixPath) : Option (List FileName) :=
  (machine.start path).map fun place => normalized (place ++ path.parts)

/-- What a relative path leads to under a resolved root. -/
def evidence (root : List FileName) (path : PyString) : EvidenceFile :=
  -- The operating system takes no NUL, and of the surrogates those that stand for bytes.
  if path.codes.any fun c => c = 0 || (0xd800 ≤ c && c < 0xe000 && !(0xdc80 ≤ c && c ≤ 0xdcff)) then .raises
  else
    match machine.tree.resolve false machine.limit root (partsOf path.codes) with
    | none => .raises
    | some place =>
      if !root.isPrefixOf place then .outside
      else if machine.tree.refuses place then .refused
      else
        match machine.tree.entry place with
        | some (.file bytes readable) => .file bytes readable
        | _ => .missing

/-- An evidence root as `_check_evidence` resolves it. A loop of links raises for whatever is looked up. -/
def evidenceRoot (path : PosixPath) : EvidenceRoot where
  text := (if path.absolute then [47] else []) ++ posixText path.parts
  files := (machine.start path).map fun place =>
    match machine.tree.resolve false machine.limit place path.parts with
    | some root => machine.evidence root
    | none => fun _ => .raises

end Machine

/-- The files of a directory by their places in it. -/
abbrev Contents := List (List FileName × List UInt8)

/-- The files after writes, one after the other. -/
def contentsOf (writes : List (List FileName × List UInt8)) : Contents :=
  writes.foldl (fun contents write => dictSet contents write.1 write.2) []

end Machines

section Parameters

/-- What `pydantic` does with records of a kind. -/
structure Snapshots (Record : Type) where
  dumps : Record → Option (List Char)
  parse : String → Option Record

/-- Python `CaseBundleService`, with its surroundings. -/
structure CaseBundleService where
  loaders : RecordLoaders
  sha256 : List UInt8 → String
  cases : Snapshots ExperimentalCaseManifest
  experiments : Snapshots CaseExperiment
  benchmarks : Snapshots CaseBenchmark
  bundles : Snapshots ExperimentalCaseBundleManifest

/-- What an export does to the file system. -/
inductive ExportStep
  | parent
  | temporary
  | write (place : List FileName)
  | publish
  deriving DecidableEq, Repr

/-- A call of `export`: what it is given and what happens around it. -/
structure ExportCall where
  destination : PosixPath
  evidenceRoot : PosixPath
  stamp : ExportStamp
  /-- What `mkdtemp` makes the name of the temporary directory end in. -/
  random : FileName
  /-- What the operating system refuses. -/
  refuses : ExportStep → Bool

end Parameters

section Names

/-- `bundle.json`. -/
def bundlePlace : List FileName :=
  [codesOf "bundle.json"]

/-- `case.json`. -/
def casePlace : List FileName :=
  [codesOf "case.json"]

/-- `records/experiment.json`. -/
def experimentPlace : List FileName :=
  [codesOf "records", codesOf "experiment.json"]

/-- `records/benchmarks/<id>.json`. -/
def benchmarkPlace (id : PyString) : List FileName :=
  [codesOf "records", codesOf "benchmarks", id.codes ++ codesOf ".json"]

/-- `evidence/<path>`. -/
def evidencePlace (path : PyString) : List FileName :=
  codesOf "evidence" :: partsOf path.codes

end Names

section Export
variable (service : CaseBundleService)

/-- A file that an export has written, and how the index declares it. -/
structure Written where
  place : List FileName
  bytes : List UInt8
  file : CaseBundleFile

/-- Python `_bundle_file_for`. -/
def bundleFileFor (sha256 : List UInt8 → String) (place : List FileName) (bytes : List UInt8) :
    Except ExportFailure Written :=
  let path := PyString.ofCodes (posixText place)
  if relative : pathRefusals path = [] then .ok ⟨place, bytes, ⟨path, sha256 bytes, bytes.length, relative⟩⟩
  else .error (.refused (pathRefusals path))

/-- Python `_write_json`, of what `pydantic` makes of a record. -/
def writeJson (sha256 : List UInt8 → String) (refuses : ExportStep → Bool) (place : List FileName)
    (payload : Option (List Char)) : Except ExportFailure Written :=
  match payload with
  | none => .error .unserializable
  | some text =>
    if refuses (.write place) then .error (.bundle .io)
    else bundleFileFor sha256 place (encodeUtf8 (text ++ ['\n']))

/-- Python `CaseBundleService._load_records`. -/
def loadBundleRecords (loaders : RecordLoaders) (case : ExperimentalCaseManifest) :
    Except ExportFailure (CaseExperiment × List CaseBenchmark) :=
  match loaders.loadExperiment case.experimentRecordId,
      case.benchmarkRecordIds.mapM loaders.loadBenchmark with
  | .ok experiment, .ok benchmarks =>
    if (experiment.experimentId : PyString) ≠ case.experimentRecordId then
      .error (.bundle .otherExperimentId)
    else if benchmarks.map (fun record => (record.benchmarkId : PyString)) ≠ case.benchmarkRecordIds then
      .error (.bundle .otherBenchmarkIds)
    else .ok (experiment, benchmarks)
  | _, _ => .error (.bundle .recordsNotLoaded)

/-- What Python `_resolve_evidence` makes of a reference: the bytes of its file, and whether they can be
read. -/
def resolveReference (sha256 : List UInt8 → String) (files : PyString → EvidenceFile)
    (reference : EvidenceFileReference) :
    Except ExportFailure (EvidenceFileReference × List UInt8 × Bool) :=
  match files reference.path with
  | .raises => .error .raised
  | .refused => .error (.bundle .io)
  | .outside => .error (.bundle (.evidenceEscapes reference.path))
  | .missing => .error (.bundle (.evidenceNotFound reference.path))
  | .file bytes readable =>
    if ∃ size, reference.sizeBytes = some size ∧ bytes.length ≠ size then
      .error (.bundle (.evidenceSizeDiffers reference.path))
    else
      match reference.sha256 with
      | none => .ok (reference, bytes, readable)
      | some digest =>
        if !readable then .error (.bundle .io)
        else if sha256 bytes ≠ lower digest then .error (.bundle (.evidenceChecksumDiffers reference.path))
        else .ok (reference, bytes, readable)

/-- Python `_copy_evidence`. -/
def copyEvidence (sha256 : List UInt8 → String) (refuses : ExportStep → Bool)
    (source : EvidenceFileReference × List UInt8 × Bool) :
    Except ExportFailure (EvidenceFileReference × Written) :=
  let (reference, bytes, readable) := source
  if !readable || refuses (.write (evidencePlace reference.path)) then .error (.bundle .io)
  else do
    let written ← bundleFileFor sha256 (evidencePlace reference.path) bytes
    .ok (reference, written)

/-- What a path leads to under `evidence` in the temporary directory of an export, given by the path that
`mkdtemp` returns. -/
def copiedEvidence (machine : Machine) (temporary : List FileName) (contents : Contents) (path : PyString) :
    EvidenceFile :=
  match machine.tree.resolve false machine.limit [] temporary with
  | none => .raises
  | some place =>
    -- The copies are looked up where they really are, the root stands there as it was returned.
    if !(temporary ++ [codesOf "evidence"]).isPrefixOf (place ++ evidencePlace path) then .outside
    else
      match contents.lookup (evidencePlace path) with
      | some bytes => .file bytes true
      | none => .missing

/-- Python `CaseBundleBenchmarkFile(…)`. -/
def benchmarkFile (record : CaseBenchmark) (written : Written) :
    Except ExportFailure CaseBundleBenchmarkFile :=
  if safe : matchesSafeId record.benchmarkId = true then
    .ok { written.file with benchmarkId := record.benchmarkId, safe := safe }
  else .error (.refused ["benchmark_id is not a safe identifier"])

/-- Python `ExperimentalCaseBundleManifest(…)`. -/
def bundleManifest (stamp : ExportStamp) (caseFile experimentFile : CaseBundleFile)
    (benchmarkFiles : List CaseBundleBenchmarkFile) (evidenceFiles : List CaseBundleEvidenceFile) :
    Except ExportFailure ExperimentalCaseBundleManifest :=
  if uniquePaths : (declaredPaths caseFile experimentFile benchmarkFiles evidenceFiles).Nodup then
    if uniqueIds : (benchmarkFiles.map (·.benchmarkId)).Nodup then
      .ok ⟨stamp, caseFile, experimentFile, benchmarkFiles, evidenceFiles, uniquePaths, uniqueIds⟩
    else .error (.refused ["bundle benchmark files must use unique ids"])
  else .error (.refused ["bundle files must use unique paths"])

/-- What an export has written before its index. -/
structure Staged where
  caseFile : Written
  experimentFile : Written
  benchmarkFiles : List (CaseBenchmark × Written)
  evidenceFiles : List (EvidenceFileReference × Written)

/-- The writes of an export before its index, in order. -/
def Staged.writes (staged : Staged) : List (List FileName × List UInt8) :=
  (staged.caseFile :: staged.experimentFile ::
    (staged.benchmarkFiles.map (·.2) ++ staged.evidenceFiles.map (·.2))).map fun written =>
      (written.place, written.bytes)

/-- The part of `export` that writes the records and copies the evidence. -/
def stage (refuses : ExportStep → Bool) (case : ExperimentalCaseManifest) (experiment : CaseExperiment)
    (benchmarks : List CaseBenchmark) (evidence : List (EvidenceFileReference × List UInt8 × Bool)) :
    Except ExportFailure Staged := do
  let caseFile ← writeJson service.sha256 refuses casePlace (service.cases.dumps case)
  let experimentFile ←
    writeJson service.sha256 refuses experimentPlace (service.experiments.dumps experiment)
  let benchmarkFiles ← benchmarks.mapM fun record => do
    let written ← writeJson service.sha256 refuses (benchmarkPlace record.benchmarkId)
      (service.benchmarks.dumps record)
    .ok (record, written)
  let evidenceFiles ← evidence.mapM (copyEvidence service.sha256 refuses)
  .ok ⟨caseFile, experimentFile, benchmarkFiles, evidenceFiles⟩

/-- The index of what was staged. -/
def Staged.index (stamp : ExportStamp) (staged : Staged) :
    Except ExportFailure ExperimentalCaseBundleManifest := do
  let benchmarkFiles ← staged.benchmarkFiles.mapM fun (record, written) => benchmarkFile record written
  bundleManifest stamp staged.caseFile.file staged.experimentFile.file benchmarkFiles
    (staged.evidenceFiles.map fun (reference, written) => { written.file with reference := reference })

/-- Where an export finds the evidence of a case: Python `evidence_root.expanduser().resolve()`. -/
def sourceRoot (machine : Machine) (path : PosixPath) : Except ExportFailure (List FileName) :=
  match machine.expanduser path with
  | none => .error .raised
  | some path =>
    match (machine.start path).bind fun place =>
        machine.tree.resolve false machine.limit place path.parts with
    | none => .error .raised
    | some root => .ok root

/-- The path of the temporary directory of an export: Python `mkdtemp` returns it made absolute. -/
def temporaryPath (machine : Machine) (target : PosixPath) (random : FileName) : Option (List FileName) :=
  machine.absolutePath (target.parent.join ([46] ++ target.name ++ [46] ++ random))

/-- Python `CaseBundleService.export`: the files of the new bundle. -/
def CaseBundleService.export' (machine : Machine) (call : ExportCall) (case : ExperimentalCaseManifest) :
    Except ExportFailure Contents :=
  match machine.expanduser call.destination with
  | none => .error .raised
  | some target =>
    if machine.exists' target then .error (.bundle .destinationExists)
    else if call.refuses .parent then .error (.bundle .noParentDirectory)
    else do
      let (experiment, benchmarks) ← loadBundleRecords service.loaders case
      let root ← sourceRoot machine call.evidenceRoot
      let evidence ← case.evidenceFiles.mapM (resolveReference service.sha256 (machine.evidence root))
      match temporaryPath machine target call.random with
      | none => .error (.bundle .noTemporaryDirectory)
      | some temporary =>
        if call.refuses .temporary then .error (.bundle .noTemporaryDirectory)
        else do
          let staged ← stage service call.refuses case experiment benchmarks evidence
          let _ ← case.evidenceFiles.mapM (resolveReference service.sha256
            (copiedEvidence machine temporary (contentsOf staged.writes)))
          let bundle ← staged.index call.stamp
          let index ← writeJson service.sha256 call.refuses bundlePlace (service.bundles.dumps bundle)
          if call.refuses .publish then .error (.bundle .io)
          else .ok (dictSet (contentsOf staged.writes) index.place index.bytes)

end Export

section Load
variable (service : CaseBundleService)

/-- Python `LoadedCaseBundle`, without its root. -/
structure LoadedCaseBundle where
  manifest : ExperimentalCaseBundleManifest
  case : ExperimentalCaseManifest
  experiment : CaseExperiment
  benchmarks : List CaseBenchmark
  deriving DecidableEq

/-- Python `_verify_file`: the bytes of a file that the index declares. -/
def verifyFile (sha256 : List UInt8 → String) (contents : Contents) (file : CaseBundleFile) :
    Except CaseBundleError (List UInt8) :=
  match contents.lookup (partsOf file.path.codes) with
  | none => .error .fileMissing
  | some bytes =>
    if bytes.length ≠ file.sizeBytes then .error (.fileSizeDiffers file.path)
    else if sha256 bytes ≠ lower file.sha256 then .error (.fileChecksumDiffers file.path)
    else .ok bytes

/-- Python `_parse_json` of what `_read_json_file` reads. -/
def parseJson {Record : Type} (snapshots : Snapshots Record) (label : String) (bytes : List UInt8) :
    Except CaseBundleError Record :=
  match readText bytes with
  | .error _ => .error .notUtf8
  | .ok text =>
    match snapshots.parse text with
    | some record => .ok record
    | none => .error (.invalid label)

/-- Python `_verify_relationships`. -/
def verifyRelationships (bundle : ExperimentalCaseBundleManifest) (case : ExperimentalCaseManifest)
    (experiment : CaseExperiment) (benchmarks : List CaseBenchmark) : Except CaseBundleError Unit :=
  if (experiment.experimentId : PyString) ≠ case.experimentRecordId then .error .otherExperiment
  else if benchmarks.map (fun record => (record.benchmarkId : PyString)) ≠ case.benchmarkRecordIds ∨
      bundle.benchmarkFiles.map (·.benchmarkId) ≠ case.benchmarkRecordIds then .error .otherBenchmarks
  else if bundle.evidenceFiles.map (·.reference) ≠ case.evidenceFiles then .error .otherEvidence
  else .ok ()

/-- Python `CaseBundleService.load`, of a directory. -/
def CaseBundleService.load (contents : Contents) : Except CaseBundleError LoadedCaseBundle :=
  match contents.lookup bundlePlace with
  | none => .error .fileMissing
  | some index => do
    let bundle ← parseJson service.bundles "bundle manifest" index
    let snapshot {Record : Type} (snapshots : Snapshots Record) (label : String) (file : CaseBundleFile) :
        Except CaseBundleError Record := do
      let bytes ← verifyFile service.sha256 contents file
      parseJson snapshots label bytes
    let case ← snapshot service.cases "case manifest" bundle.caseFile
    let experiment ← snapshot service.experiments "experiment record" bundle.experimentFile
    let benchmarks ← bundle.benchmarkFiles.mapM fun item =>
      snapshot service.benchmarks "benchmark record" item.toCaseBundleFile
    verifyRelationships bundle case experiment benchmarks
    let _ ← bundle.evidenceFiles.mapM fun item => verifyFile service.sha256 contents item.toCaseBundleFile
    .ok ⟨bundle, case, experiment, benchmarks⟩

/-- The records of a bundle by their ids. -/
def bundleLoaders (loaded : LoadedCaseBundle) : RecordLoaders where
  loadExperiment id :=
    if id ≠ loaded.experiment.experimentId then
      .error (codesOf "Experiment record not found in bundle: " ++ id.codes ++ codesOf ".")
    else .ok loaded.experiment
  loadBenchmark id :=
    match loaded.benchmarks.reverse.find? fun record => (record.benchmarkId : PyString) = id with
    | some record => .ok record
    | none => .error (codesOf "Benchmark record not found in bundle: " ++ id.codes ++ codesOf ".")

/-- The case of a bundle, its references pointing at the copies. -/
def bundledCase (loaded : LoadedCaseBundle) : ExperimentalCaseManifest :=
  { loaded.case with
    evidenceFiles := loaded.case.evidenceFiles.zipWith
      (fun reference evidence => { reference with path := evidence.path }) loaded.manifest.evidenceFiles }

/-- The files of a bundle as an evidence root. -/
def bundleRoot (contents : Contents) : EvidenceRoot where
  text := []
  files := some fun path =>
    match contents.lookup (partsOf path.codes) with
    | some bytes => .file bytes true
    | none => .missing

/-- Python `CaseBundleService.validate`. -/
def CaseBundleService.validate (contents : Contents) : Except CaseBundleError (Option CaseValidationResult) :=
  do
    let loaded ← service.load contents
    .ok ((Cases.validate service.sha256 (bundleLoaders loaded) (bundleRoot contents)
      (bundledCase loaded)).map fun result =>
        { result with
          checks :=
            { name := "bundle_integrity"
              status := .valid
              detail := codesOf "all declared files verified" } :: result.checks })

end Load

end Jaull.Cases
