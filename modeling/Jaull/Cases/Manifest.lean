import Jaull.Cases.SafeIds
import Jaull.Domain.Records
import Jaull.Evaluation.RuntimeContract
import Jaull.Lib.StableSort
import Mathlib.Data.List.Lex

/-!
# Manifests of experimental cases

Port of `jaull/domain/cases.py` up to the manifest: a manifest links records by their ids and points at raw
evidence by relative paths. A validator is the list of what it refuses; the texts of refusals leave out the
value that Python appends. The schema version of a manifest is the constant `1`.
-/

namespace Jaull.Cases
open Jaull.Domain Jaull.Evaluation Jaull.Lib

/-- Python `ArtifactIdentity`. -/
structure ArtifactIdentity where
  repoId : String
  revision : String
  filename : String
  format : String
  quantization : Option String := none
  deriving DecidableEq, Repr

/-- Python `ArtifactIdentity.of`. -/
def ArtifactIdentity.of (artifact : ModelArtifact) : ArtifactIdentity where
  repoId := artifact.repoId
  revision := artifact.revision
  filename := artifact.filename
  format := artifact.format
  quantization := artifact.quantization

/-- A point in time, and whether it names its zone. -/
structure Timestamp where
  instant : ℤ
  aware : Bool
  deriving DecidableEq, Repr

/-- Python `ExperimentalCaseIdentity`. -/
structure ExperimentalCaseIdentity where
  caseId : PyString
  createdAt : Timestamp
  label : Option PyString := none
  machineFingerprint : List String
  artifact : ArtifactIdentity
  runtime : RuntimeName
  deriving DecidableEq, Repr

/-- Python `EvidenceFileRole`. -/
inductive EvidenceFileRole
  | prediction | report | runtimeLog | timing | other
  deriving DecidableEq, Repr

/-- Python `EvidenceFileReference`. -/
structure EvidenceFileReference where
  path : PyString
  role : EvidenceFileRole := .other
  sha256 : Option String := none
  sizeBytes : Option ℕ := none
  description : Option PyString := none
  deriving DecidableEq, Repr

/-- Python `ExperimentalCaseManifest`. -/
structure ExperimentalCaseManifest where
  identity : ExperimentalCaseIdentity
  experimentRecordId : PyString
  benchmarkRecordIds : List PyString := []
  evidenceFiles : List EvidenceFileReference := []
  notes : List PyString := []
  deriving DecidableEq, Repr

section Validators

/-- An id that does not match is refused. -/
def idRefusals (text : String) (id : PyString) : List String :=
  if matchesSafeId id then [] else [text]

/-- Python `ExperimentalCaseIdentity._id_is_safe`. -/
def caseIdRefusals : PyString → List String :=
  idRefusals "case_id is not a safe identifier"

/-- Python `ExperimentalCaseManifest._experiment_id_is_safe`. -/
def experimentIdRefusals : PyString → List String :=
  idRefusals "experiment_record_id is not a safe identifier"

/-- Python `_benchmark_ids_are_safe_unique_and_ordered`, which raises on the first fault. -/
def benchmarkIdsRefusals (ids : List PyString) : List String :=
  match ids.flatMap (idRefusals "benchmark_record_ids contains an unsafe identifier") with
  | text :: _ => [text]
  | [] => if ids.Nodup then [] else ["benchmark_record_ids must not repeat an id"]

/-- Python `EvidenceFileReference._path_is_relative`. -/
def pathRefusals (path : PyString) : List String :=
  if isBlank path then ["evidence path must not be empty"]
  else if 92 ∈ path.codes then ["evidence path must use forward slashes"]
  else if path.codes.head? = some 47 then ["evidence path must be relative"]
  -- A drive letter.
  else if path.codes[1]? = some 58 then ["evidence path must be relative"]
  else if [46, 46] ∈ path.codes.splitOn 47 then ["evidence path must not climb out of its root"]
  else []

/-- What the fields of an identity are refused for. -/
def ExperimentalCaseIdentity.refusals (identity : ExperimentalCaseIdentity) : List String :=
  caseIdRefusals identity.caseId ++
    (if identity.createdAt.aware then [] else ["created_at must be timezone-aware"]) ++
    if identity.machineFingerprint = [] then ["Tuple should have at least 1 item after validation"]
    else []

/-- What the fields of a manifest are refused for. -/
def ExperimentalCaseManifest.refusals (fields : ExperimentalCaseManifest) : List String :=
  fields.identity.refusals ++ experimentIdRefusals fields.experimentRecordId ++
    benchmarkIdsRefusals fields.benchmarkRecordIds ++
    fields.evidenceFiles.flatMap fun reference => pathRefusals reference.path

/-- Python `ExperimentalCaseManifest(…)`: a manifest holds its benchmark ids in order. -/
def ExperimentalCaseManifest.construct (fields : ExperimentalCaseManifest) :
    Except (List String) ExperimentalCaseManifest :=
  if fields.refusals = [] then
    .ok { fields with benchmarkRecordIds := sortedBy PyString.codes fields.benchmarkRecordIds }
  else .error fields.refusals

/-- A manifest that can be constructed. -/
def Constructible (manifest : ExperimentalCaseManifest) : Prop :=
  ∃ fields : ExperimentalCaseManifest, fields.construct = .ok manifest

end Validators

section Facts
variable {fields manifest : ExperimentalCaseManifest} {id : PyString} {text : String}

/-- An id is accepted when it matches the pattern. -/
lemma idRefusals_eq_nil : idRefusals text id = [] ↔ matchesSafeId id = true := by
  rw [idRefusals]
  split
  · rename_i accepted
    exact iff_of_true rfl accepted
  · rename_i refused
    exact iff_of_false (List.cons_ne_nil _ _) refused

/-- Benchmark ids are accepted when each matches and none is repeated. -/
lemma benchmarkIdsRefusals_eq_nil {ids : List PyString} :
    benchmarkIdsRefusals ids = [] ↔ (∀ id ∈ ids, matchesSafeId id = true) ∧ ids.Nodup := by
  have safe : ids.flatMap (idRefusals "benchmark_record_ids contains an unsafe identifier") = [] ↔
      ∀ id ∈ ids, matchesSafeId id = true := by
    rw [List.flatMap_eq_nil_iff]
    simp only [idRefusals_eq_nil]
  rw [benchmarkIdsRefusals]
  split
  · rename_i _ first _ refused
    refine iff_of_false (List.cons_ne_nil _ _) fun ⟨all, _⟩ => ?_
    rw [safe.mpr all] at refused
    cases refused
  · rename_i none
    rw [ite_eq_left_iff]
    constructor
    · intro nodup
      refine ⟨safe.mp none, ?_⟩
      by_contra repeats
      exact List.cons_ne_nil _ _ (nodup repeats)
    · intro ⟨_, nodup⟩ repeats
      exact absurd nodup repeats

/-- What holds of the fields of a constructed manifest. -/
structure WellFormed (manifest : ExperimentalCaseManifest) : Prop where
  caseId : matchesSafeId manifest.identity.caseId = true
  experimentId : matchesSafeId manifest.experimentRecordId = true
  benchmarkIds : ∀ id ∈ manifest.benchmarkRecordIds, matchesSafeId id = true
  nodup : manifest.benchmarkRecordIds.Nodup
  paths : ∀ reference ∈ manifest.evidenceFiles, pathRefusals reference.path = []

/-- What the constructor accepts is well formed. -/
lemma Constructible.wellFormed (constructible : Constructible manifest) : WellFormed manifest := by
  obtain ⟨fields, constructed⟩ := constructible
  rw [ExperimentalCaseManifest.construct] at constructed
  split at constructed
  · rename_i fine
    cases constructed
    simp only [ExperimentalCaseManifest.refusals, ExperimentalCaseIdentity.refusals, caseIdRefusals,
      experimentIdRefusals, List.append_eq_nil_iff, idRefusals_eq_nil, benchmarkIdsRefusals_eq_nil,
      List.flatMap_eq_nil_iff] at fine
    obtain ⟨⟨⟨⟨⟨caseId, -⟩, -⟩, experimentId⟩, benchmarkIds, nodup⟩, paths⟩ := fine
    refine ⟨caseId, experimentId, ?_, ?_, paths⟩
    · intro id mem
      exact benchmarkIds id (mem_sortedBy.mp mem)
    · exact (sortedBy_perm _ _).nodup_iff.mpr nodup
  · cases constructed

end Facts

end Jaull.Cases
