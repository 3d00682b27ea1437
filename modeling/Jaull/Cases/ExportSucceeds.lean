import Jaull.Cases.BundleExport
import Jaull.Cases.Monotone
import Jaull.Lib.JsonFile
import Jaull.Text.Json

/-!
# When an export succeeds

Records that load, evidence that verifies and a new destination are not enough: the index declares every
path once, so an export goes through exactly if no two references name one file. How a path is spelled does
not matter for that.
-/

namespace Jaull.Cases
open Jaull.Domain Jaull.Evaluation Jaull.Lib Jaull.Text

section Trees
variable {tree : FileTree} {place rest : List FileName}

/-- No link stands on the way to a place. -/
def Linkless (tree : FileTree) (place : List FileName) : Prop :=
  ∀ front, front <+: place → ∀ target, tree.entry front ≠ some (.link target)

/-- Where no link is met, resolving a path only appends it. -/
lemma walk_of_linkless {follow : List FileName → List FileName → Option (List FileName)}
    (linkless : Linkless tree (place ++ rest)) (noDots : dots ∉ rest) :
    tree.walk false follow place rest = some (place ++ rest) := by
  induction rest generalizing place with
  | nil => rw [FileTree.walk, List.append_nil]
  | cons name rest ih =>
    rw [List.mem_cons, not_or] at noDots
    have assoc : place ++ name :: rest = place ++ [name] ++ rest := by
      rw [List.append_assoc, List.singleton_append]
    rw [assoc] at linkless ⊢
    rw [FileTree.walk, if_neg fun strict => Bool.false_ne_true strict.1, if_neg (Ne.symm noDots.1)]
    have plain := linkless (place ++ [name]) (List.prefix_append _ _)
    split
    case h_1 target found => exact absurd found (plain target)
    case h_2 => exact ih linkless noDots.2

/-- A path without links and without `..` leads where it says. -/
lemma resolve_of_linkless {limit : ℕ} (linkless : Linkless tree place) (noDots : dots ∉ place) :
    tree.resolve false limit [] place = some place := by
  cases limit with
  | zero => exact walk_of_linkless linkless noDots
  | succ limit => exact walk_of_linkless linkless noDots

/-- A normalized path has no parent steps. -/
lemma dots_notMem_normalized {parts : List FileName} : dots ∉ normalized parts := by
  have keeps : ∀ {parts place : List FileName}, dots ∉ place →
      dots ∉ parts.foldl (fun place name => if name = dots then place.dropLast else place ++ [name]) place := by
    intro parts
    induction parts with
    | nil => exact id
    | cons name rest ih =>
      intro place absent
      rw [List.foldl_cons]
      apply ih
      split
      · exact fun mem => absent (List.mem_of_mem_dropLast mem)
      · rename_i other
        rw [List.mem_append, List.mem_singleton, not_or]
        exact ⟨absent, Ne.symm other⟩
  exact keeps List.not_mem_nil

end Trees

section Places
variable {case : ExperimentalCaseManifest} {place : List FileName}

/-- Every path of a well-formed case is portable. -/
lemma portable_of_mem_casePlaces (wellFormed : WellFormed case) (mem : place ∈ casePlaces case) :
    Portable place := by
  rcases List.mem_cons.mp mem with rfl | mem
  · exact portable_casePlace
  · rcases List.mem_cons.mp mem with rfl | mem
    · exact portable_experimentPlace
    · rcases List.mem_append.mp mem with mem | mem
      · obtain ⟨id, there, rfl⟩ := List.mem_map.mp mem
        exact portable_benchmarkPlace (wellFormed.benchmarkIds id there)
      · obtain ⟨reference, there, rfl⟩ := List.mem_map.mp mem
        exact portable_evidencePlace (wellFormed.paths reference there)

/-- Only references can share a place. -/
lemma nodup_casePlaces_iff (wellFormed : WellFormed case) : (casePlaces case).Nodup ↔
    (case.evidenceFiles.map fun reference => partsOf reference.path.codes).Nodup := by
  have evidence : (case.evidenceFiles.map fun reference => evidencePlace reference.path) =
      (case.evidenceFiles.map fun reference => partsOf reference.path.codes).map (codesOf "evidence" :: ·) := by
    rw [List.map_map]
    rfl
  have inEvidence : (case.evidenceFiles.map fun reference => evidencePlace reference.path).Nodup ↔
      (case.evidenceFiles.map fun reference => partsOf reference.path.codes).Nodup := by
    rw [evidence]
    exact List.nodup_map_iff fun _ _ same => (List.cons.inj same).2
  rw [← inEvidence, casePlaces, List.nodup_cons, List.nodup_cons, List.nodup_append]
  constructor
  · exact fun nodup => nodup.2.2.2.1
  · intro nodup
    refine ⟨?_, ?_, ?_, nodup, ?_⟩
    · intro mem
      rcases List.mem_cons.mp mem with same | mem
      · exact absurd same (by decide)
      · rcases List.mem_append.mp mem with mem | mem
        · obtain ⟨id, -, same⟩ := List.mem_map.mp mem
          exact absurd (congrArg List.length same) (show 3 ≠ 1 by decide)
        · obtain ⟨reference, -, same⟩ := List.mem_map.mp mem
          exact absurd (List.cons.inj same).1 (by decide)
    · intro mem
      rcases List.mem_append.mp mem with mem | mem
      · obtain ⟨id, -, same⟩ := List.mem_map.mp mem
        exact absurd (congrArg List.length same) (show 3 ≠ 2 by decide)
      · obtain ⟨reference, -, same⟩ := List.mem_map.mp mem
        exact absurd (List.cons.inj same).1 (by decide)
    · exact wellFormed.nodup.map fun _ _ => benchmarkPlace_inj
    · intro place mem place' mem' same
      obtain ⟨id, -, rfl⟩ := List.mem_map.mp mem
      obtain ⟨reference, -, rfl⟩ := List.mem_map.mp mem'
      exact absurd (List.cons.inj same).1 (by decide)

/-- The index can declare the places of a case exactly if they are different. -/
lemma nodup_paths_iff (wellFormed : WellFormed case) :
    ((casePlaces case).map bundlePath).Nodup ↔ (casePlaces case).Nodup := by
  constructor
  · exact List.Nodup.of_map bundlePath
  · intro nodup
    refine nodup.map_on ?_
    intro place mem place' mem' same
    exact (portable_of_mem_casePlaces wellFormed mem).bundlePath_inj
      (portable_of_mem_casePlaces wellFormed mem') same

end Places

section Copies
variable {service : CaseBundleService} {case : ExperimentalCaseManifest} {experiment : CaseExperiment}
  {benchmarks : List CaseBenchmark} {evidence : List (EvidenceFileReference × List UInt8 × Bool)}
  {staged : Staged} {writes : List (List FileName × List UInt8)} {place root temporary : List FileName}
  {bytes bytes' : List UInt8} {readable readable' : Bool} {machine : Machine} {path path' : PyString}

/-- What stands at a place of the evidence is a copy of the evidence that goes there. -/
lemma Stages.bytes_of_evidencePlace (stages : Stages service case experiment benchmarks evidence staged)
    {write : List FileName × List UInt8} (mem : write ∈ staged.writes) (same : write.1 = evidencePlace path) :
    ∃ source ∈ evidence, partsOf source.1.path.codes = partsOf path.codes ∧ write.2 = source.2.1 := by
  obtain ⟨written, there, rfl⟩ := List.mem_map.mp mem
  dsimp only at same
  rcases List.mem_cons.mp there with rfl | there
  · rw [stages.caseFile.standsAt] at same
    exact absurd (List.cons.inj same).1 (by decide)
  · rcases List.mem_cons.mp there with rfl | there
    · rw [stages.experimentFile.standsAt] at same
      exact absurd (List.cons.inj same).1 (by decide)
    · rcases List.mem_append.mp there with there | there
      · obtain ⟨entry, inside, rfl⟩ := List.mem_map.mp there
        obtain ⟨record, -, -, snapshot⟩ := exists_of_mem_right stages.benchmarkFiles inside
        rw [snapshot.standsAt] at same
        exact absurd (List.cons.inj same).1 (by decide)
      · obtain ⟨entry, inside, rfl⟩ := List.mem_map.mp there
        obtain ⟨source, from', -, copy⟩ := exists_of_mem_right stages.evidenceFiles inside
        rw [copy.standsAt] at same
        exact ⟨source, from', partsOf_of_evidencePlace same, copy.content⟩

/-- Paths with the same names lead to the same bytes. -/
lemma bytes_eq_of_parts (same : partsOf path.codes = partsOf path'.codes)
    (found : machine.evidence root path = .file bytes readable)
    (found' : machine.evidence root path' = .file bytes' readable') : bytes = bytes' := by
  rw [Machine.evidence] at found found'
  split at found
  · cases found
  · split at found'
    · cases found'
    · rw [same, found'] at found
      cases found
      rfl

/-- The copies verify like the evidence itself, where no link leads to the temporary directory. -/
lemma Stages.copiedEvidence_eq (stages : Stages service case experiment benchmarks evidence staged)
    (sources : ∀ source ∈ evidence, machine.evidence root source.1.path = .file source.2.1 source.2.2)
    (resolved : machine.tree.resolve false machine.limit [] temporary = some temporary)
    {source : EvidenceFileReference × List UInt8 × Bool} (mem : source ∈ evidence) :
    copiedEvidence machine temporary (contentsOf staged.writes) source.1.path = .file source.2.1 true := by
  obtain ⟨entry, there, -, copy⟩ := exists_of_mem_left stages.evidenceFiles mem
  have wrote : (evidencePlace source.1.path, source.2.1) ∈ staged.writes := by
    rw [← copy.standsAt, ← copy.content]
    apply List.mem_map_of_mem (f := fun written : Written => (written.place, written.bytes))
    exact List.mem_cons_of_mem _ (List.mem_cons_of_mem _ (List.mem_append_right _ (List.mem_map_of_mem there)))
  have consistent : ∀ write ∈ staged.writes, write.1 = evidencePlace source.1.path → write.2 = source.2.1 := by
    intro write written same
    obtain ⟨source', mem', parts, eq⟩ := stages.bytes_of_evidencePlace written same
    rw [eq]
    exact bytes_eq_of_parts parts (sources source' mem') (sources source mem)
  have inside : (temporary ++ [codesOf "evidence"]).isPrefixOf (temporary ++ evidencePlace source.1.path) := by
    rw [List.isPrefixOf_iff_prefix, List.prefix_append_right_inj]
    exact ⟨_, rfl⟩
  rw [copiedEvidence, resolved]
  dsimp only
  rw [inside, lookup_contentsOf consistent wrote]
  rfl

end Copies

section Export
variable {service : CaseBundleService} {machine : Machine} {call : ExportCall}
  {case : ExperimentalCaseManifest} {experiment : CaseExperiment} {benchmarks : List CaseBenchmark}
  {evidence : List (EvidenceFileReference × List UInt8 × Bool)} {staged : Staged}

/-- An export that has what it needs: records that load under their own ids, evidence that verifies, and a
new destination that can be written to. If there is evidence to copy, no link leads to the destination. -/
structure Exportable (service : CaseBundleService) (machine : Machine) (call : ExportCall)
    (case : ExperimentalCaseManifest) : Prop where
  constructible : Constructible case
  experiment : ∃ record, service.loaders.loadExperiment case.experimentRecordId = .ok record ∧
    (record.experimentId : PyString) = case.experimentRecordId
  benchmarks : ∀ id ∈ case.benchmarkRecordIds, ∃ record, service.loaders.loadBenchmark id = .ok record ∧
    (record.benchmarkId : PyString) = id
  evidence : ∃ root, sourceRoot machine call.evidenceRoot = .ok root ∧
    ∀ reference ∈ case.evidenceFiles, ∃ bytes, Verifies service.sha256 (machine.evidence root) reference bytes true
  destination : ∃ target temporary, machine.expanduser call.destination = some target ∧
    machine.exists' target = false ∧ temporaryPath machine target call.random = some temporary ∧
    (case.evidenceFiles = [] ∨ Linkless machine.tree temporary)
  permits : ∀ step, call.refuses step = false

/-- `pydantic` writes the records that it has validated. -/
structure Serializes (service : CaseBundleService) : Prop where
  cases : ∀ case, Constructible case → ∃ text, service.cases.dumps case = some text
  experiments : ∀ record, ∃ text, service.experiments.dumps record = some text
  benchmarks : ∀ record, ∃ text, service.benchmarks.dumps record = some text
  bundles : ∀ bundle, ∃ text, service.bundles.dumps bundle = some text

/-- The part of an export behind the check of the copies. -/
def finish (service : CaseBundleService) (call : ExportCall) (staged : Staged) :
    Except ExportFailure Contents := do
  let bundle ← staged.index call.stamp
  let index ← writeJson service.sha256 call.refuses bundlePlace (service.bundles.dumps bundle)
  if call.refuses .publish then .error (.bundle .io)
  else .ok (dictSet (contentsOf staged.writes) index.place index.bytes)

/-- An exportable case's records load, in the order of its ids. -/
lemma exists_loadBundleRecords (exportable : Exportable service machine call case) :
    ∃ experiment benchmarks, loadBundleRecords service.loaders case = .ok (experiment, benchmarks) ∧
      benchmarks.map (fun record => (record.benchmarkId : PyString)) = case.benchmarkRecordIds := by
  obtain ⟨experiment, loaded, own⟩ := exportable.experiment
  have loads : ∀ id ∈ case.benchmarkRecordIds, ∃ record, service.loaders.loadBenchmark id = .ok record := by
    intro id mem
    obtain ⟨record, eq, -⟩ := exportable.benchmarks id mem
    exact ⟨record, eq⟩
  obtain ⟨benchmarks, run⟩ := exists_mapM_ok loads
  have ids : benchmarks.map (fun record => (record.benchmarkId : PyString)) = case.benchmarkRecordIds := by
    have related := (List.forall₂_and_left _ _).mpr ⟨exportable.benchmarks, mapM_eq_ok_iff.mp run⟩
    rw [← List.map_id case.benchmarkRecordIds]
    symm
    apply map_eq_of_forall₂ related
    rintro id record ⟨⟨record', eq, own⟩, eq'⟩
    cases eq.symm.trans eq'
    exact own.symm
  refine ⟨experiment, benchmarks, ?_, ids⟩
  rw [loadBundleRecords, loaded, run]
  dsimp only
  rw [if_neg (not_not.mpr own), if_neg (not_not.mpr ids)]

/-- References that verify are resolved, each to its file. -/
lemma exists_sources {sha256 : List UInt8 → String} {files : PyString → EvidenceFile}
    {references : List EvidenceFileReference}
    (verifies : ∀ reference ∈ references, ∃ bytes, Verifies sha256 files reference bytes true) :
    ∃ evidence, references.mapM (resolveReference sha256 files) = .ok evidence ∧
      evidence.map Prod.fst = references ∧
      ∀ source ∈ evidence, source.1 ∈ references ∧ source.2.2 = true ∧
        Verifies sha256 files source.1 source.2.1 source.2.2 := by
  have resolves : ∀ reference ∈ references, ∃ source,
      resolveReference sha256 files reference = .ok source := by
    intro reference mem
    obtain ⟨bytes, verified⟩ := verifies reference mem
    exact ⟨(reference, bytes, true), resolveReference_eq_ok.mpr ⟨rfl, verified⟩⟩
  obtain ⟨evidence, resolved⟩ := exists_mapM_ok resolves
  have sources := mapM_eq_ok_iff.mp resolved
  refine ⟨evidence, resolved, ?_, ?_⟩
  · rw [← List.map_id references]
    exact (map_eq_of_forall₂ sources fun _ _ eq => (resolveReference_eq_ok.mp eq).1.symm).symm
  · intro source mem
    obtain ⟨reference, there, eq⟩ := exists_of_mem_right sources mem
    obtain ⟨rfl, verified⟩ := resolveReference_eq_ok.mp eq
    obtain ⟨bytes, verified'⟩ := verifies _ there
    have same := verified.1.symm.trans verified'.1
    refine ⟨there, ?_, verified⟩
    injection same

/-- Up to its index, an export that has what it needs goes through. -/
lemma exists_staged (exportable : Exportable service machine call case) (serializes : Serializes service) :
    ∃ experiment benchmarks evidence staged,
      Stages service case experiment benchmarks evidence staged ∧ Matches case benchmarks evidence ∧
        service.export' machine call case = finish service call staged := by
  obtain ⟨experiment, benchmarks, loaded, ids⟩ := exists_loadBundleRecords exportable
  obtain ⟨root, rooted, verifies⟩ := exportable.evidence
  obtain ⟨target, temporary, expanded, fresh, placed, linkless⟩ := exportable.destination
  obtain ⟨evidence, resolved, references, sources⟩ := exists_sources verifies
  have wellFormed := exportable.constructible.wellFormed
  have safe : ∀ record ∈ benchmarks, matchesSafeId record.benchmarkId = true := by
    intro record mem
    apply wellFormed.benchmarkIds
    rw [← ids]
    exact List.mem_map_of_mem mem
  obtain ⟨staged, staging⟩ := exists_stage exportable.permits (serializes.cases case exportable.constructible)
    (serializes.experiments experiment) (fun record _ => serializes.benchmarks record) safe
    fun source mem => ⟨wellFormed.paths source.1 (sources source mem).1, (sources source mem).2.1⟩
  have stages := stages_of_stage staging
  -- the copies verify where they were staged
  have copies : ∀ reference ∈ case.evidenceFiles, ∃ bytes, Verifies service.sha256
      (copiedEvidence machine temporary (contentsOf staged.writes)) reference bytes true := by
    intro reference mem
    have noLink := linkless.resolve_left (List.ne_nil_of_mem mem)
    have noDots : dots ∉ temporary := by
      obtain ⟨parts, -, rfl⟩ := Option.map_eq_some_iff.mp placed
      exact dots_notMem_normalized
    rw [← references] at mem
    obtain ⟨source, there, rfl⟩ := List.mem_map.mp mem
    obtain ⟨-, readable, -, recorded⟩ := sources source there
    rw [readable] at recorded
    exact ⟨source.2.1, stages.copiedEvidence_eq (fun source mem => (sources source mem).2.2.1)
      (resolve_of_linkless noLink noDots) there, recorded⟩
  obtain ⟨checked, check, -⟩ := exists_sources copies
  refine ⟨experiment, benchmarks, evidence, staged, stages, ⟨ids, references⟩, ?_⟩
  rw [CaseBundleService.export'.eq_def, expanded]
  dsimp only
  rw [fresh, exportable.permits, exportable.permits, loaded, ok_bind]
  dsimp only
  rw [rooted, ok_bind, resolved, ok_bind, placed]
  dsimp only
  rw [staging, ok_bind, check, ok_bind]
  rfl

/-- The index is refused exactly if two references name one file. -/
lemma finish_eq (stages : Stages service case experiment benchmarks evidence staged)
    (matching : Matches case benchmarks evidence) (exportable : Exportable service machine call case)
    (serializes : Serializes service) :
    ((case.evidenceFiles.map fun reference => partsOf reference.path.codes).Nodup →
      ∃ contents, finish service call staged = .ok contents) ∧
    (¬(case.evidenceFiles.map fun reference => partsOf reference.path.codes).Nodup →
      finish service call staged = .error (.refused ["bundle files must use unique paths"])) := by
  have wellFormed := exportable.constructible.wellFormed
  have safe : ∀ entry ∈ staged.benchmarkFiles, ∃ file, benchmarkFile entry.1 entry.2 = .ok file := by
    intro entry mem
    obtain ⟨record, there, rfl, -⟩ := exists_of_mem_right stages.benchmarkFiles mem
    have fine : matchesSafeId entry.1.benchmarkId = true := by
      apply wellFormed.benchmarkIds
      rw [← matching.benchmarkIds]
      exact List.mem_map_of_mem there
    rw [benchmarkFile, dif_pos fine]
    exact ⟨_, rfl⟩
  obtain ⟨files, filesEq⟩ := exists_mapM_ok safe
  have indexed := (mapM_eq_ok_iff.mp filesEq).imp fun _ _ eq => isBenchmarkFile_of_benchmarkFile eq
  have index : staged.index call.stamp =
      bundleManifest call.stamp staged.caseFile.file staged.experimentFile.file files staged.evidenceIndex := by
    rw [Staged.index]
    exact (congrArg (· >>= _) filesEq).trans (ok_bind _ _)
  -- the bundle's own paths are apart, so repeated ones are of references
  have unique := nodup_paths_iff wellFormed
  rw [← stages.declaredPaths_eq matching indexed, nodup_casePlaces_iff wellFormed] at unique
  have ids : files.map (·.benchmarkId) = case.benchmarkRecordIds := by
    have own : files.map (·.benchmarkId) = staged.benchmarkFiles.map fun entry => (entry.1.benchmarkId : PyString) :=
      (map_eq_of_forall₂ indexed fun _ _ isFile => isFile.2.symm).symm
    have records : benchmarks.map (fun record => (record.benchmarkId : PyString)) =
        staged.benchmarkFiles.map fun entry => (entry.1.benchmarkId : PyString) :=
      map_eq_of_forall₂ stages.benchmarkFiles fun _ _ snapshot => by rw [snapshot.1]
    rw [own, ← records, matching.benchmarkIds]
  rw [finish, index, bundleManifest]
  constructor
  · intro nodup
    rw [dif_pos (unique.mpr nodup), dif_pos (by rw [ids]; exact wellFormed.nodup), ok_bind]
    obtain ⟨written, wrote⟩ : ∃ written, writeJson service.sha256 call.refuses bundlePlace _ = .ok written :=
      exists_writeJson portable_bundlePlace (exportable.permits _) (serializes.bundles _)
    rw [wrote, ok_bind, exportable.permits]
    exact ⟨_, rfl⟩
  · intro repeated
    rw [dif_neg (fun nodup => repeated (unique.mp nodup))]
    rfl

/-- **An export that has what it needs succeeds exactly if no two references name one file**, and otherwise the
index is what refuses. -/
theorem export_succeeds_iff (exportable : Exportable service machine call case)
    (serializes : Serializes service) :
    ((∃ contents, service.export' machine call case = .ok contents) ↔
      (case.evidenceFiles.map fun reference => partsOf reference.path.codes).Nodup) ∧
    ((∃ contents, service.export' machine call case = .ok contents) ∨
      service.export' machine call case = .error (.refused ["bundle files must use unique paths"])) := by
  obtain ⟨experiment, benchmarks, evidence, staged, stages, matching, eq⟩ := exists_staged exportable serializes
  obtain ⟨succeeds, refused⟩ := finish_eq stages matching exportable serializes
  rw [eq]
  by_cases nodup : (case.evidenceFiles.map fun reference => partsOf reference.path.codes).Nodup
  · exact ⟨iff_of_true (succeeds nodup) nodup, .inl (succeeds nodup)⟩
  · refine ⟨iff_of_false ?_ nodup, .inr (refused nodup)⟩
    rw [refused nodup]
    rintro ⟨contents, same⟩
    cases same

/-- A machine with a log and notes at its root, where its working directory is. -/
def exampleHost : Machine where
  tree :=
    { entry place :=
        if place = [] then some .directory
        else if place = [codesOf "log"] ∨ place = [codesOf "notes"] then some (.file [104, 105] true)
        else none
      root := rfl
      nested := by
        intro place name found
        rw [if_neg (List.append_ne_nil_of_right_ne_nil _ (List.cons_ne_nil _ _))] at found
        split at found
        case isTrue same =>
          rcases same with same | same
          all_goals
            rcases List.append_eq_singleton_iff.mp same with ⟨rfl, -⟩ | ⟨-, empty⟩
            · exact if_pos rfl
            · cases empty
        case isFalse => exact absurd rfl found }
  limit := 40
  cwd := some []
  home _ := none

/-- A call of `export` to `bundle` in the working directory, with evidence from there. -/
def exampleCall : ExportCall where
  destination := ⟨false, [codesOf "bundle"]⟩
  evidenceRoot := ⟨false, []⟩
  stamp := { exportedAt := ⟨0, true⟩, aware := rfl, jaullVersion := "1" }
  random := codesOf "x"
  refuses _ := false

/-- The case of one benchmark that points at evidence. -/
def exampleCase (paths : List PyString) : ExperimentalCaseManifest :=
  { exampleGrouping ["benchmark-1"] with evidenceFiles := paths.map fun path => { path := path } }

/-- A digest that tells all bytes apart: they themselves, in hexadecimal digits. -/
def exampleDigest (bytes : List UInt8) : String :=
  String.ofList (bytes.flatMap fun byte => hex 2 byte.toNat)

/-- An object, laid out as `pydantic` does. -/
def objectText (fields : List (PyString × Json)) : List Char :=
  charsOf (render (.indented 2) 0 (.obj fields))

/-- What tells cases apart. -/
def caseText (case : ExperimentalCaseManifest) : List Char :=
  objectText [("case_id", .str case.identity.caseId),
    ("experiment_record_id", .str case.experimentRecordId),
    ("benchmark_record_ids", .arr (case.benchmarkRecordIds.map .str)),
    ("evidence_files", .arr (case.evidenceFiles.map (.str ·.path)))]

/-- What tells experiments apart. -/
def experimentText (experiment : CaseExperiment) : List Char :=
  objectText [("experiment_id", .str experiment.experimentId)]

/-- What tells benchmarks apart. -/
def benchmarkText (benchmark : CaseBenchmark) : List Char :=
  objectText [("benchmark_id", .str benchmark.benchmarkId)]

/-- What tells bundles apart. -/
def bundleText (bundle : ExperimentalCaseBundleManifest) : List Char :=
  objectText [("case_file", .str bundle.caseFile.path), ("experiment_file", .str bundle.experimentFile.path),
    ("benchmark_files", .arr (bundle.benchmarkFiles.map (.str ·.path))),
    ("evidence_files", .arr (bundle.evidenceFiles.map (.str ·.path)))]

/-- A service that writes what tells its records apart. -/
def exampleService : CaseBundleService where
  loaders := exampleLoaders
  sha256 := exampleDigest
  cases := ⟨fun case => some (caseText case), fun _ => none⟩
  experiments := ⟨fun experiment => some (experimentText experiment), fun _ => none⟩
  benchmarks := ⟨fun benchmark => some (benchmarkText benchmark), fun _ => none⟩
  bundles := ⟨fun bundle => some (bundleText bundle), fun _ => none⟩

/-- A case with relative paths can be built. -/
lemma exampleCase_constructible {paths : List PyString} (relative : ∀ path ∈ paths, pathRefusals path = []) :
    Constructible (exampleCase paths) := by
  refine ⟨exampleCase paths, ?_⟩
  have grouping : (exampleGrouping ["benchmark-1"]).identity.refusals ++
      experimentIdRefusals (exampleGrouping ["benchmark-1"]).experimentRecordId ++
      benchmarkIdsRefusals (exampleGrouping ["benchmark-1"]).benchmarkRecordIds = [] := by decide
  have fine : (exampleCase paths).refusals = [] := by
    rw [ExperimentalCaseManifest.refusals, List.append_eq_nil_iff, List.flatMap_eq_nil_iff]
    refine ⟨grouping, ?_⟩
    intro reference mem
    obtain ⟨path, there, rfl⟩ := List.mem_map.mp mem
    exact relative path there
  rw [ExperimentalCaseManifest.construct, if_pos fine]
  rfl

/-- There are no links on the machine. -/
lemma exampleHost_linkless (place : List FileName) : Linkless exampleHost.tree place := by
  intro front _ target found
  simp only [exampleHost] at found
  split_ifs at found
  · cases found
  · cases found

/-- Logs are exported under any spellings. -/
lemma exportable_exampleCase {paths : List PyString} (logs : ∀ path ∈ paths, pathRefusals path = [] ∧
    exampleHost.evidence [] path = .file [104, 105] true) :
    Exportable exampleService exampleHost exampleCall (exampleCase paths) where
  constructible := exampleCase_constructible fun path mem => (logs path mem).1
  experiment := ⟨exampleExperiment, rfl, rfl⟩
  benchmarks id mem := by
    rw [List.mem_singleton.mp mem]
    exact ⟨_, rfl, rfl⟩
  evidence := by
    refine ⟨[], rfl, ?_⟩
    intro reference mem
    obtain ⟨path, there, rfl⟩ := List.mem_map.mp mem
    exact ⟨[104, 105], (logs path there).2, fun size eq => absurd eq nofun, fun digest eq => absurd eq nofun⟩
  destination := ⟨exampleCall.destination, _, rfl, by decide, rfl, .inr (exampleHost_linkless _)⟩
  permits _ := rfl

/-- The service writes every record. -/
lemma exampleService_serializes : Serializes exampleService where
  cases _ _ := ⟨_, rfl⟩
  experiments _ := ⟨_, rfl⟩
  benchmarks _ := ⟨_, rfl⟩
  bundles _ := ⟨_, rfl⟩

/-- The log and the notes make a bundle. -/
theorem export_succeeds_iff_twoFiles :
    Exportable exampleService exampleHost exampleCall (exampleCase ["./log", "notes"]) ∧
      Serializes exampleService ∧
      ∃ contents, exampleService.export' exampleHost exampleCall (exampleCase ["./log", "notes"]) =
        .ok contents := by
  have exportable : Exportable exampleService exampleHost exampleCall (exampleCase ["./log", "notes"]) :=
    exportable_exampleCase (by decide)
  exact ⟨exportable, exampleService_serializes,
    (export_succeeds_iff exportable exampleService_serializes).1.mpr (by decide)⟩

/-- A log that is referenced twice, in two spellings, makes no bundle. -/
theorem repeated_reference_refused :
    Exportable exampleService exampleHost exampleCall (exampleCase ["log", "./log"]) ∧
      Serializes exampleService ∧
      exampleService.export' exampleHost exampleCall (exampleCase ["log", "./log"]) =
        .error (.refused ["bundle files must use unique paths"]) := by
  have exportable : Exportable exampleService exampleHost exampleCall (exampleCase ["log", "./log"]) :=
    exportable_exampleCase (by decide)
  obtain ⟨experiment, benchmarks, evidence, staged, stages, matching, eq⟩ :=
    exists_staged exportable exampleService_serializes
  refine ⟨exportable, exampleService_serializes, ?_⟩
  rw [eq]
  exact (finish_eq stages matching exportable exampleService_serializes).2 (by decide)

end Export

end Jaull.Cases
