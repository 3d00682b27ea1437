import Jaull.Domain.Runtime
import Jaull.Text.Case

/-!
# Execution plans

Port of the part of `jaull/domain/execution_plans.py` that planning and ranking read: logical-model
identities, artifact variants and execution plans. What the `ExecutionPlan` validator checks is a
field of the record.
-/

namespace Jaull.Domain
open Jaull.Text

/-- What a piece of identity evidence is (Python `ModelIdentityEvidenceKind`). -/
inductive ModelIdentityEvidenceKind
  | repositoryId | baseModelMetadata | configArchitecture | parameterMetadata | nameHeuristic
  deriving DecidableEq, Repr

/-- Artifact formats (Python `ArtifactVariantFormat`). -/
inductive ArtifactVariantFormat
  | transformers | safetensors | gguf | unknown
  deriving DecidableEq, Repr

/-- The stored value of a format (Python `ArtifactVariantFormat.value`). -/
def ArtifactVariantFormat.value : ArtifactVariantFormat → String
  | .transformers => "transformers"
  | .safetensors => "safetensors"
  | .gguf => "gguf"
  | .unknown => "unknown"

/-- How sure the artifact belongs to the model (Python `IdentityMatchStatus`). -/
inductive IdentityMatchStatus
  | confirmed | uncertain | rejected
  deriving DecidableEq, Repr

/-- The stored value of an identity match (Python `IdentityMatchStatus.value`). -/
def IdentityMatchStatus.value : IdentityMatchStatus → String
  | .confirmed => "confirmed"
  | .uncertain => "uncertain"
  | .rejected => "rejected"

/-- Whether artifact and runtime fit each other (Python `PlanCompatibilityStatus`). -/
inductive PlanCompatibilityStatus
  | compatible | notCompatible | unknown
  deriving DecidableEq, Repr

/-- One piece of identity evidence (Python `ModelIdentityEvidence`). -/
structure ModelIdentityEvidence where
  kind : ModelIdentityEvidenceKind
  source : String
  value : String
  confidence : EstimationConfidence
  deriving DecidableEq, Repr

/-- The logical model behind an artifact (Python `ModelIdentity`). -/
structure ModelIdentity where
  canonicalRepoId : Option String := none
  family : Option String := none
  modelName : String
  parameterCount : Option ℤ := none
  variant : Option String := none
  architecture : Option String := none
  confidence : EstimationConfidence := .unknown
  evidence : List ModelIdentityEvidence := []
  deriving DecidableEq, Repr

/-- One available representation of a model (Python `ArtifactVariant`). -/
structure ArtifactVariant where
  modelIdentity : ModelIdentity
  repoId : String
  revision : Option String := none
  format : ArtifactVariantFormat
  filename : Option String := none
  sha256 : Option String := none
  sizeBytes : Option ℤ := none
  fileCount : Option ℤ := none
  quantization : Option String := none
  precision : Option String := none
  compatibleRuntimes : List RuntimeName := []
  identityMatch : IdentityMatchStatus := .confirmed
  confidence : EstimationConfidence := .unknown
  evidence : List ModelIdentityEvidence := []
  deriving DecidableEq, Repr

/-- One concrete way to run an artifact (Python `ExecutionPlan`). `runtime_family` always equals
`runtime.runtime` and is not repeated. -/
structure ExecutionPlan where
  planId : String
  modelIdentity : ModelIdentity
  artifact : ArtifactVariant
  runtime : RuntimeRecommendation
  backendSelection : Option RuntimeBackendSelection := none
  executionReadiness : Option ExecutionReadiness := none
  memoryPrediction : Option MemoryEstimate := none
  hardware : Option HardwareProfile := none
  compatibility : PlanCompatibilityStatus := .unknown
  evidence : List String := []
  warnings : List String := []
  identity_matches : artifact.modelIdentity = modelIdentity
  deriving DecidableEq

/-- A Python string option used as a condition: `None` and the empty string are false. -/
def truthy (text : Option String) : Option String :=
  text.filter (· ≠ "")

/-- How the artifact is named to a reader (Python `ArtifactVariant.label`). -/
def ArtifactVariant.label (artifact : ArtifactVariant) : String :=
  match truthy artifact.quantization, truthy artifact.precision with
  | some quantization, _ => artifact.format.value ++ " " ++ quantization
  | none, some precision => artifact.format.value ++ " " ++ precision
  | none, none => artifact.format.value

/-- An explicit repository or lineage claim, without suffix or fuzzy matching (Python
`confirmed_model_repo_id`). -/
def confirmedModelRepoId (identity : ModelIdentity) : Option String :=
  match identity.canonicalRepoId with
  | none => none
  | some canonical =>
    let confirms (evidence : ModelIdentityEvidence) : Bool :=
      (evidence.kind = .repositoryId || evidence.kind = .baseModelMetadata) &&
        casefold (strip evidence.value) = casefold (strip canonical)
    if identity.evidence.any confirms then some (strip canonical) else none

end Jaull.Domain

/-!
## Keys of logical models

Port of the comparison keys of `jaull/domain/execution_plans.py`: a repository without the suffix of its
artifact format, and a model identity without its evidence.
-/

namespace Jaull.Domain
open Jaull.Text

/-- Python `_ARTIFACT_REPOSITORY_SUFFIXES`. -/
def artifactRepositorySuffixes : List String :=
  ["gguf", "awq", "gptq", "onnx", "hf", "quantized", "bnb", "exl2", "mlx"]

/-- Python `_strip_artifact_repository_suffix`. -/
def stripArtifactRepositorySuffix (name : String) : String :=
  let tokens := artifactRepositorySuffixes.flatMap fun suffix => ["-" ++ suffix, "_" ++ suffix]
  match tokens.find? fun token => token.toList.isSuffixOf (casefold name).toList with
  | some token => String.ofList (name.toList.take (name.length - token.length))
  | none => name

/-- Python `logical_model_repo_id`. -/
def logicalModelRepoId (repoId : String) : String :=
  let value := strip repoId
  match value.toList.dropWhile (· ≠ '/') with
  | [] => stripArtifactRepositorySuffix value
  | _ :: name => beforeFirst '/' value ++ "/" ++ stripArtifactRepositorySuffix (String.ofList name)

/-- Python `logical_model_repo_key`. -/
def logicalModelRepoKey (repoId : String) : String :=
  casefold (logicalModelRepoId repoId)

example : logicalModelRepoKey "Org/Model-7B-GGUF" = "org/model-7b" := by decide +kernel

/-- Python `model_identity_key`. -/
def modelIdentityKey (identity : ModelIdentity) : String :=
  match truthy identity.canonicalRepoId with
  | some canonical => "repo:" ++ logicalModelRepoKey canonical
  | none =>
    let folded (text : Option String) : String := casefold (strip (text.getD ""))
    let modelName := casefold (stripArtifactRepositorySuffix (strip identity.modelName))
    let parameters := (identity.parameterCount.map fun count => toString count).getD ""
    "metadata:" ++ folded identity.family ++ "|" ++ modelName ++ "|" ++ parameters ++ "|" ++
      folded identity.variant ++ "|" ++ folded identity.architecture

end Jaull.Domain
