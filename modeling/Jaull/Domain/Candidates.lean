import Jaull.Domain.Runtime
import Jaull.Lib.Json

/-!
# Candidates

Port of the part of `jaull/domain/model.py` and `jaull/domain/candidates.py` that planning and
ranking read. `rest` stands for the fields of a record that only functions taken as parameters read
(the parameter count, the capability signal, the configuration ladder), as their serialised text.
-/

namespace Jaull.Domain
open Jaull.Lib

/-- Repository kinds (Python `RepositoryType`). -/
inductive RepositoryType
  | transformers | gguf | diffusers | onnx | adapter | unknown
  deriving DecidableEq, Repr

/-- The stored value of a repository type (Python `RepositoryType.value`). -/
def RepositoryType.value : RepositoryType → String
  | .transformers => "transformers"
  | .gguf => "gguf"
  | .diffusers => "diffusers"
  | .onnx => "onnx"
  | .adapter => "adapter"
  | .unknown => "unknown"

/-- One file of a repository (Python `ModelFile`). -/
structure ModelFile where
  path : String
  sizeBytes : Option ℤ := none
  sha256 : Option String := none
  deriving DecidableEq, Repr

/-- One quantization a repository offers (Python `GgufVariant`). -/
structure GgufVariant where
  quantization : String
  files : List ModelFile
  totalBytes : Option ℤ
  isComplete : Bool := true
  isSplit : Bool := false
  deriving DecidableEq, Repr

/-- The digest of a single-file variant (Python `GgufVariant.sha256`). -/
def GgufVariant.sha256 (variant : GgufVariant) : Option String :=
  match variant.files with
  | [file] => file.sha256
  | _ => none

/-- What a repository holds (Python `RepositoryClassification`). -/
structure RepositoryClassification where
  primaryType : RepositoryType
  ggufVariants : List GgufVariant := []
  deriving DecidableEq, Repr

/-- The `config.json` fields of interest (Python `ModelConfig`). A dictionary is the list of its
entries. -/
structure ModelConfig where
  architectures : List String := []
  modelType : Option String := none
  torchDtype : Option String := none
  maxPositionEmbeddings : Option ℤ := none
  hiddenSize : Option ℤ := none
  numHiddenLayers : Option ℤ := none
  numAttentionHeads : Option ℤ := none
  numKeyValueHeads : Option ℤ := none
  headDim : Option ℤ := none
  intermediateSize : Option ℤ := none
  slidingWindow : Option ℤ := none
  useSlidingWindow : Option Bool := none
  ropeScaling : Option (List (String × Json)) := none
  tieWordEmbeddings : Option Bool := none
  vocabSize : Option ℤ := none
  quantizationConfig : Option (List (String × Json)) := none
  rawFlags : List (String × Json) := []
  deriving DecidableEq, Repr

/-- Inspected metadata of a repository (Python `ModelAnalysis`). -/
structure ModelAnalysis where
  files : List ModelFile := []
  classification : RepositoryClassification
  config : Option ModelConfig := none
  totalSizeBytes : Option ℤ := none
  rest : String := ""
  deriving DecidableEq, Repr

/-- A repository worth considering (Python `ModelCandidate`). -/
structure ModelCandidate where
  repoId : String
  pipelineTag : Option String := none
  libraryName : Option String := none
  license : Option String := none
  languages : List String := []
  tags : List String := []
  downloads : ℤ := 0
  metadataConfidence : EstimationConfidence := .medium
  rest : String := ""
  deriving DecidableEq, Repr

/-- A candidate after inspection, estimation and scoring (Python `EvaluatedCandidate`). -/
structure EvaluatedCandidate where
  candidate : ModelCandidate
  analysis : Option ModelAnalysis := none
  selectedConfiguration : Option InferenceConfiguration := none
  memoryEstimate : Option MemoryEstimate := none
  taskMatchScore : ℚ := 0
  languageMatchScore : ℚ := 0
  capabilityScore : ℚ := 0
  failed : Bool := false
  deriving DecidableEq, Repr

/-- Python `EvaluatedCandidate.repo_id`. -/
def EvaluatedCandidate.repoId (evaluated : EvaluatedCandidate) : String :=
  evaluated.candidate.repoId

end Jaull.Domain
