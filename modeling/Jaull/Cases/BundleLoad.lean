import Jaull.Cases.Bundle
import Jaull.Lib.ListMap

/-!
# What loading a bundle checks

A bundle loads exactly if its index can be read and every file that the index declares is there with the
declared bytes and says what it should. So no declared file can change unnoticed.
-/

namespace Jaull.Cases
open Jaull.Domain Jaull.Evaluation Jaull.Lib Jaull.Text

variable {Record : Type} {service : CaseBundleService} {sha256 : List UInt8 → String}
  {contents contents' : Contents} {file : CaseBundleFile} {bytes : List UInt8} {loaded : LoadedCaseBundle}

/-- A file is verified when the folder holds it with the declared size and digest. -/
lemma verifyFile_eq_ok : verifyFile sha256 contents file = .ok bytes ↔
    contents.lookup (partsOf file.path.codes) = some bytes ∧ bytes.length = file.sizeBytes ∧
      sha256 bytes = lower file.sha256 := by
  rw [verifyFile.eq_def]
  cases found : contents.lookup (partsOf file.path.codes) with
  | none => exact iff_of_false nofun fun ⟨some', _⟩ => absurd some' nofun
  | some bytes' =>
    dsimp only
    split_ifs with size digest
    · refine iff_of_false nofun ?_
      rintro ⟨eq, length, -⟩
      cases eq
      exact size length
    · refine iff_of_false nofun ?_
      rintro ⟨eq, -, same⟩
      cases eq
      exact digest same
    · constructor
      · intro eq
        cases eq
        exact ⟨rfl, not_not.mp size, not_not.mp digest⟩
      · rintro ⟨eq, -, -⟩
        cases eq
        rfl

/-- A declared file, read as a record. -/
def IsRead (sha256 : List UInt8 → String) (contents : Contents) (snapshots : Snapshots Record) (label : String)
    (file : CaseBundleFile) (record : Record) : Prop :=
  ∃ bytes, verifyFile sha256 contents file = .ok bytes ∧ parseJson snapshots label bytes = .ok record

/-- What holds where a bundle loads. -/
structure Loads (service : CaseBundleService) (contents : Contents) (loaded : LoadedCaseBundle) : Prop where
  index : ∃ bytes, contents.lookup bundlePlace = some bytes ∧
    parseJson service.bundles "bundle manifest" bytes = .ok loaded.manifest
  case : IsRead service.sha256 contents service.cases "case manifest" loaded.manifest.caseFile loaded.case
  experiment : IsRead service.sha256 contents service.experiments "experiment record"
    loaded.manifest.experimentFile loaded.experiment
  benchmarks : List.Forall₂ (fun item record => IsRead service.sha256 contents service.benchmarks
    "benchmark record" item.toCaseBundleFile record) loaded.manifest.benchmarkFiles loaded.benchmarks
  relationships :
    verifyRelationships loaded.manifest loaded.case loaded.experiment loaded.benchmarks = .ok ()
  evidence : ∀ item ∈ loaded.manifest.evidenceFiles,
    ∃ bytes, verifyFile service.sha256 contents item.toCaseBundleFile = .ok bytes

/-- **A bundle loads exactly if everything that it declares is there.** -/
theorem load_eq_ok : service.load contents = .ok loaded ↔ Loads service contents loaded := by
  obtain ⟨bundle, case, experiment, benchmarks⟩ := loaded
  rw [CaseBundleService.load.eq_def]
  cases found : contents.lookup bundlePlace with
  | none =>
    refine iff_of_false nofun ?_
    rintro ⟨⟨bytes, eq, -⟩, -⟩
    cases found.symm.trans eq
  | some index =>
    dsimp only
    simp only [bind_eq_ok]
    constructor
    · rintro ⟨bundle', indexed, case', caseRead, experiment', experimentRead, benchmarks', benchmarksRead, _,
        related, evidence, verified, eq⟩
      cases eq
      refine ⟨⟨index, found, indexed⟩, caseRead, experimentRead, ?_, related, ?_⟩
      · exact (mapM_eq_ok_iff.mp benchmarksRead).imp fun _ _ eq => bind_eq_ok.mp eq
      · exact forall_ok_of_mapM_ok verified
    · rintro ⟨⟨index', eq, indexed⟩, caseRead, experimentRead, benchmarksRead, related, evidence⟩
      cases found.symm.trans eq
      obtain ⟨verified, run⟩ := exists_mapM_ok evidence
      exact ⟨bundle, indexed, case, caseRead, experiment, experimentRead, benchmarks,
        mapM_eq_ok_iff.mpr (benchmarksRead.imp fun _ _ read => bind_eq_ok.mpr read), (), related, verified, run,
        rfl⟩

section Tampering

/-- The files that an index declares. -/
def declaredFiles (bundle : ExperimentalCaseBundleManifest) : List CaseBundleFile :=
  bundle.caseFile :: bundle.experimentFile ::
    (bundle.benchmarkFiles.map (·.toCaseBundleFile) ++ bundle.evidenceFiles.map (·.toCaseBundleFile))

/-- A loaded bundle verified every file that it declares. -/
lemma Loads.verifies (loads : Loads service contents loaded) (mem : file ∈ declaredFiles loaded.manifest) :
    ∃ bytes, verifyFile service.sha256 contents file = .ok bytes := by
  rcases List.mem_cons.mp mem with rfl | mem
  · obtain ⟨bytes, verified, -⟩ := loads.case
    exact ⟨bytes, verified⟩
  · rcases List.mem_cons.mp mem with rfl | mem
    · obtain ⟨bytes, verified, -⟩ := loads.experiment
      exact ⟨bytes, verified⟩
    · rcases List.mem_append.mp mem with mem | mem
      · obtain ⟨item, there, rfl⟩ := List.mem_map.mp mem
        obtain ⟨record, -, bytes, verified, -⟩ := exists_of_mem_left loads.benchmarks there
        exact ⟨bytes, verified⟩
      · obtain ⟨item, there, rfl⟩ := List.mem_map.mp mem
        exact loads.evidence item there

/-- A declared file has changed or is gone. The index, which does not declare itself, is as it was. -/
structure Tampered (bundle : ExperimentalCaseBundleManifest) (contents contents' : Contents) : Prop where
  index : contents'.lookup bundlePlace = contents.lookup bundlePlace
  changed : ∃ file ∈ declaredFiles bundle,
    contents'.lookup (partsOf file.path.codes) ≠ contents.lookup (partsOf file.path.codes)

/-- A bundle does not load once a file that it declares has changed. -/
lemma load_tampered (injective : Function.Injective service.sha256) (loads : Loads service contents loaded)
    (tampered : Tampered loaded.manifest contents contents') :
    ∃ error, service.load contents' = .error error := by
  cases reloaded : service.load contents' with
  | error error => exact ⟨error, rfl⟩
  | ok loaded' =>
    exfalso
    have loads' := load_eq_ok.mp reloaded
    have same : loaded'.manifest = loaded.manifest := by
      obtain ⟨index, found, parsed⟩ := loads.index
      obtain ⟨index', found', parsed'⟩ := loads'.index
      rw [tampered.index, found] at found'
      cases found'
      exact Except.ok.inj (parsed'.symm.trans parsed)
    obtain ⟨file, declared, differs⟩ := tampered.changed
    obtain ⟨bytes, verified⟩ := loads.verifies declared
    obtain ⟨bytes', verified'⟩ := loads'.verifies (same ▸ declared)
    obtain ⟨found, -, digest⟩ := verifyFile_eq_ok.mp verified
    obtain ⟨found', -, digest'⟩ := verifyFile_eq_ok.mp verified'
    have equal : bytes' = bytes := injective (digest'.trans digest.symm)
    exact differs (by rw [found, found', equal])

end Tampering

end Jaull.Cases
