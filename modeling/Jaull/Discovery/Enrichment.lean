import Jaull.Discovery.Hints
import Jaull.Domain.ExecutionPlans
import Jaull.Estimator.Configuration
import Jaull.Lib.Triples

/-!
# From a candidate to an evaluated one

Port of `evaluate_candidate` of `jaull/discovery/enrichment.py`. Errors of one candidate become its warnings,
but a hub that cannot be reached ends the evaluation. What the inspection and the estimates do elsewhere is
the state of the program.
-/

namespace Jaull.Discovery
open Jaull.Domain Jaull.Estimator Jaull.Lib Jaull.Text

/-- What may be raised: the classes of `JaullError` that are told apart, and everything else. -/
inductive ErrorClass
  | modelNotFound | modelAccessDenied | huggingFaceUnavailable | jaullError | other
  deriving DecidableEq, Repr

/-- An error with its text. -/
structure RaisedError where
  errorClass : ErrorClass
  text : String
  deriving DecidableEq, Repr

/-- An instance of Python `JaullError`. -/
def RaisedError.isJaullError (error : RaisedError) : Bool :=
  error.errorClass ≠ .other

/-- A candidate with the base model it names (Python `ModelCandidate`). -/
structure LinkedCandidate extends SearchCandidate where
  repositoryType : Option RepositoryType := none
  baseModelRepoId : Option String := none
  deriving DecidableEq, Repr

/-- What the hub says of a repository (Python `ModelRepositoryInfo`). -/
structure ModelRepositoryInfo where
  license : Option String := none
  tags : List String := []
  pipelineTag : Option String := none
  deriving DecidableEq, Repr

/-- An analysis with what the hub says of the repository (Python `ModelAnalysis`). -/
structure InspectedModel extends ModelAnalysis where
  repo : ModelRepositoryInfo := {}
  deriving DecidableEq, Repr

/-- The configuration settled on, with the warnings of its estimate (Python `ConfigurationChoice`). -/
structure SelectedConfiguration extends ConfigurationChoice where
  estimateWarnings : List String := []
  deriving DecidableEq

/-- A candidate of the pool that the recommendation ranks (Python `EvaluatedCandidate`). -/
structure PooledCandidate where
  candidate : LinkedCandidate
  analysis : Option InspectedModel := none
  selectedConfiguration : Option InferenceConfiguration := none
  memoryEstimate : Option MemoryEstimate := none
  configurationReason : Option String := none
  alternativesConsidered : List String := []
  taskMatchScore : ℚ := 0
  languageMatchScore : ℚ := 0
  capabilityScore : ℚ := 0
  warnings : List String := []
  failed : Bool := false
  deriving DecidableEq

/-- Python `EvaluatedCandidate.repo_id`. -/
def PooledCandidate.repoId (item : PooledCandidate) : String :=
  item.candidate.repoId

/-- The part of an evaluated candidate that planning reads. -/
def PooledCandidate.toEvaluated (item : PooledCandidate) : EvaluatedCandidate where
  candidate := item.candidate.toModelCandidate
  analysis := item.analysis.map (·.toModelAnalysis)
  selectedConfiguration := item.selectedConfiguration
  memoryEstimate := item.memoryEstimate
  taskMatchScore := item.taskMatchScore
  languageMatchScore := item.languageMatchScore
  capabilityScore := item.capabilityScore
  failed := item.failed

/-- Fills in what inspection revealed (Python `_with_repository_type`). -/
def withRepositoryType (candidate : LinkedCandidate) (analysis : InspectedModel) : LinkedCandidate :=
  { candidate with
    repositoryType := some analysis.classification.primaryType
    license :=
      if (truthy candidate.license).isNone && (truthy analysis.repo.license).isSome then analysis.repo.license
      else candidate.license
    tags := if candidate.tags = [] then analysis.repo.tags else candidate.tags
    pipelineTag :=
      if candidate.pipelineTag.isNone && (truthy analysis.repo.pipelineTag).isSome then analysis.repo.pipelineTag
      else candidate.pipelineTag }

/-- Python `_failed`. -/
def failed (candidate : LinkedCandidate) (reason : String) (analysis : Option InspectedModel) : PooledCandidate :=
  { candidate := candidate, analysis := analysis, warnings := [reason], failed := true }

/-- Python `_dedupe`. -/
def dedupe (values : List String) : List String :=
  values.foldl (fun result value => if value ∈ result then result else result ++ [value]) []

section Evaluation
variable {σ : Type}

/-- The end of Python `evaluate_candidate`, with a configuration settled on. -/
def evaluatedWith (candidate : LinkedCandidate) (analysis : InspectedModel) (choice : SelectedConfiguration) :
    PooledCandidate where
  candidate := withRepositoryType candidate analysis
  analysis := some analysis
  selectedConfiguration := choice.configuration
  memoryEstimate := choice.estimate
  configurationReason := some choice.reason
  alternativesConsidered := choice.considered
  warnings := dedupe (candidate.penalties ++ choice.warnings ++
    if choice.estimate.isSome then choice.estimateWarnings else [])

/-- Python `evaluate_candidate`, `selectConfiguration` being given the requirements and the machine. -/
def evaluateCandidate (candidate : LinkedCandidate) (inspectFn : String → EStateM RaisedError σ InspectedModel)
    (selectConfiguration : InspectedModel → EStateM RaisedError σ SelectedConfiguration) :
    EStateM RaisedError σ PooledCandidate := do
  match ← attempt (inspectFn candidate.repoId) with
  | .error error =>
    match error.errorClass with
    | .modelNotFound => return failed candidate "Repository no longer exists on Hugging Face." none
    | .modelAccessDenied => return failed candidate "Repository is gated or private; skipped." none
    | .jaullError => return failed candidate ("Could not inspect repository: " ++ error.text) none
    | .huggingFaceUnavailable | .other => throw error
  | .ok analysis =>
    if analysis.classification.primaryType = .adapter then
      return failed (withRepositoryType candidate analysis)
        "Repository is an adapter, not a standalone executable model." (some analysis)
    else
      match ← attempt (selectConfiguration analysis) with
      | .error error =>
        match error.errorClass with
        | .huggingFaceUnavailable | .other => throw error
        | .modelNotFound | .modelAccessDenied | .jaullError =>
          return failed candidate ("Could not estimate memory: " ++ error.text) (some analysis)
      | .ok choice => return evaluatedWith candidate analysis choice

/-- Whatever comes of the evaluation, it is about the repository of the candidate, and it keeps what the
inspection and the estimates keep. -/
lemma evaluateCandidate_meets {held : σ → Prop} {candidate : LinkedCandidate}
    {inspectFn : String → EStateM RaisedError σ InspectedModel}
    {selectConfiguration : InspectedModel → EStateM RaisedError σ SelectedConfiguration}
    (inspects : ∀ repoId, Keeps held (inspectFn repoId))
    (selects : ∀ analysis, Keeps held (selectConfiguration analysis)) :
    Meets held (evaluateCandidate candidate inspectFn selectConfiguration)
      (fun item s => held s ∧ item.repoId = candidate.repoId) (fun _ => held) := by
  have fails : ∀ reason analysis, Meets held (pure (failed candidate reason analysis) : EStateM RaisedError σ _)
      (fun item s => held s ∧ item.repoId = candidate.repoId) (fun _ => held) :=
    fun reason analysis s kept => ⟨kept, rfl⟩
  have raises : ∀ error, Meets held (throw error : EStateM RaisedError σ PooledCandidate)
      (fun item s => held s ∧ item.repoId = candidate.repoId) (fun _ => held) :=
    fun error s kept => kept
  refine Meets.bind (Keeps.attempt (inspects candidate.repoId)) ?_
  intro inspected
  cases inspected with
  | error error =>
    dsimp only
    split
    · exact fails _ none
    · exact fails _ none
    · exact fails _ none
    · exact raises error
    · exact raises error
  | ok analysis =>
    dsimp only
    split
    · exact fun s kept => ⟨kept, rfl⟩
    · refine Meets.bind (Keeps.attempt (selects analysis)) ?_
      intro selected
      cases selected with
      | error error =>
        dsimp only
        split
        · exact raises error
        · exact raises error
        · exact fails _ (some analysis)
        · exact fails _ (some analysis)
        · exact fails _ (some analysis)
      | ok choice => exact fun s kept => ⟨kept, rfl⟩

end Evaluation

end Jaull.Discovery
