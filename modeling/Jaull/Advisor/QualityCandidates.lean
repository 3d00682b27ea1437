import Jaull.Application.Alternatives
import Jaull.Discovery.Hints
import Jaull.Domain.ExecutionPlans
import Jaull.Estimator.Service
import Jaull.Lib.ListMap
import Jaull.Lib.Loops
import Jaull.Recommendation.LocalEvidence
import Jaull.Recommendation.Quality
import Jaull.Runtime.QualityExecution
import Jaull.Advisor.SpeedSchedule

/-!
# Candidates of an evaluation

Port of the selection in `jaull/advisor/quality_candidates.py`, with `check_selected_artifact` of
`jaull/advisor/quality.py` and `validate_quality_memory` of `jaull/evaluation/quality_runtime.py`: which of the models
that a search found are offered for measuring. Nothing is downloaded. A report polls the caller, and the reports made so
far number the polls.
-/

namespace Jaull.Advisor
open Jaull.Domain Jaull.Estimator Jaull.Lib Jaull.Recommendation Jaull.Runtime

section Records

/-- Why a preparation ends, or leaves a model out: the caller cancelled, one of the exceptions that the loops catch, or
anything else. -/
inductive PreparationFailure
  | cancelled (text : String)
  | refused (text : String)
  | other (text : String)
  deriving DecidableEq, Repr

/-- A recommendation of the search, as the selection reads it (Python `ModelRecommendation`). -/
structure ModelRecommendation where
  repoId : String
  plan : Option ExecutionPlan := none
  deriving DecidableEq

/-- What the search leaves behind, as the selection reads it (Python `RecommendationWorkflowState`). -/
structure SearchState where
  hardware : Option HardwareProfile := none
  requirements : Option UserRequirements := none
  evaluatedCandidates : List EvaluatedCandidate := []
  recommendations : List ModelRecommendation := []
  rankedPlans : List RankedPlan := []
  deriving DecidableEq

/-- The plans that were shown. -/
def SearchState.shown (state : SearchState) : List ExecutionPlan :=
  state.recommendations.filterMap (·.plan)

/-- A candidate with all that was read of it (Python `QualityCandidate`). -/
structure PreparedCandidate where
  plan : ExecutionPlan
  reason : String
  downloaded : Bool
  historicalRecords : ℕ := 0
  stored : StoredQuality := {}
  speed : SpeedAssessment := {}
  deriving DecidableEq

/-- Python `QualityCandidateSelection`. -/
structure QualityCandidateSelection where
  candidates : List PreparedCandidate := []
  notices : List String := []
  considered : ℕ := 0
  deriving DecidableEq

/-- What the selection asks of the rest of the advisor. -/
structure PreparationEnv where
  /-- Whether a poll finds the preparation cancelled. -/
  cancelled : ℕ → Bool
  resolve : String → Option String → Option String → Except PreparationFailure ModelArtifact
  inspectModel : String → Except PreparationFailure ModelAnalysis
  estimateModel : ModelAnalysis → HardwareProfile → InferenceConfiguration → Except PreparationFailure EstimatedMemory
  isDownloaded : ModelArtifact → Bool
  executionPlansFor : ModelRecommendation → Except PreparationFailure (List ExecutionPlan)
  resolveModelIdentity : ModelRecommendation → Except PreparationFailure ModelIdentity
  /-- The recommendation of every evaluated candidate. -/
  recommend : List EvaluatedCandidate → UserRequirements → HardwareProfile →
    Except PreparationFailure (List ModelRecommendation)
  /-- The backend that the ranking selects. -/
  rankingBackend : HardwareProfile → Option ComputeBackend
  readers : RecordReaders
  benchmarks : List BenchmarkRecord
  evidence : List QualityEvidence
  qualityIndex : QualityRecordIndex

/-- Python `MAX_QUALITY_CANDIDATES`. -/
def maxQualityCandidates : ℕ :=
  3

/-- Python `QualityProfile`. -/
inductive QualityProfile
  | smoke | hellaswag100 | ifeval
  deriving DecidableEq, Repr

/-- Python `PROFILE_CONTEXT`. -/
def profileContext : QualityProfile → ℤ
  | .ifeval => 4096
  | _ => 2048

end Records

section Artifact

/-- A revision that names a commit or a branch other than the default one. -/
def pinnedRevision (revision : Option String) : Option String :=
  if revision = some "main" then none else revision

/-- Python `check_selected_artifact`. -/
def checkSelectedArtifact (artifact : ModelArtifact) (selected : ArtifactVariant) : Except String Unit :=
  if selected.format ≠ .gguf then .error "Quality evaluation requires a GGUF artifact."
  else if selected.filename = none then .error "The selected path does not identify a single GGUF file."
  else if selected.fileCount ≠ none ∧ selected.fileCount ≠ some 1 then
    .error "Multipart GGUF is not supported by the quality pilot."
  else if artifact.format ≠ "gguf" ∨ artifact.repoId ≠ selected.repoId ∨ some artifact.filename ≠ selected.filename ∨
      artifact.quantization ≠ selected.quantization ∨
      (selected.sha256 ≠ none ∧ artifact.sha256 ≠ selected.sha256) ∨
      (selected.sizeBytes ≠ none ∧ artifact.sizeBytes ≠ selected.sizeBytes) ∨
      (pinnedRevision selected.revision ≠ none ∧ some artifact.revision ≠ selected.revision) then
    .error "The local manifest does not match the selected artifact."
  else .ok ()

/-- Whether a revision is the digest of a commit. -/
def isCommit (revision : String) : Bool :=
  revision.toList.length = 40 && revision.toList.all fun c => ('0' ≤ c && c ≤ '9') || ('a' ≤ c && c ≤ 'f')

/-- A refusal of a text as the loops catch it. -/
def refusing {α : Type} : Except String α → Except PreparationFailure α :=
  Except.mapError .refused

variable (env : PreparationEnv)

/-- The file a plan runs, as the hub has it now: one file at a commit, with a digest that is not measured yet. -/
def resolveExact (variant : ArtifactVariant) (seen : List (Option String)) : Except PreparationFailure ModelArtifact :=
  if truthy variant.filename = none ∨ variant.fileCount ≠ some 1 then .error (.refused "single-file GGUF required")
  else do
    let artifact ← env.resolve variant.repoId variant.quantization (pinnedRevision variant.revision)
    refusing (checkSelectedArtifact artifact variant)
    if !isCommit artifact.revision then .error (.refused "immutable artifact revision unavailable")
    else if truthy artifact.sha256 = none ∨ artifact.sizeBytes = none ∨ artifact.sizeBytes = some 0 ∨
        seen.contains artifact.sha256 then .error (.refused "missing digest/size or duplicate artifact")
    else .ok artifact

/-- Whether a quantization of the repository is the file, bytes and all. -/
def isExact (artifact : ModelArtifact) (item : GgufVariant) : Bool :=
  some item.quantization = artifact.quantization && item.files.length = 1 &&
    item.files.head?.map (·.path) = some artifact.filename && item.sha256 = artifact.sha256 &&
    item.totalBytes = artifact.sizeBytes

/-- What the hub says about the model, with the one file for its quantizations. -/
def exactAnalysis (artifact : ModelArtifact) (context : ℤ) : Except PreparationFailure ModelAnalysis := do
  let analysis ← env.inspectModel artifact.repoId
  let limit := analysis.config.bind (·.maxPositionEmbeddings)
  let exact := analysis.classification.ggufVariants.filter (isExact artifact)
  -- what the host would refuse after a download is refused here; unknown stays unknown
  if limit.any (· < context) then
    .error (.refused ("model context " ++ toString (limit.getD 0) ++ " is below the evaluation context " ++
      toString context))
  else if exact.length ≠ 1 then .error (.refused "exact artifact digest/size metadata unavailable")
  else .ok { analysis with classification := { analysis.classification with ggufVariants := exact } }

end Artifact

section Memory

/-- Whether everything fits, without offloading. -/
def confirmedWithoutOffload (status : CompatibilityStatus) : Bool :=
  status ∈ [CompatibilityStatus.comfortable, .compatible, .tight]

/-- Whether everything fits on the device. -/
def residentOnDevice (estimate : EstimatedMemory) : Bool :=
  estimate.hardwareFit.any (·.mode = .gpuResident) && confirmedWithoutOffload estimate.assessment.status

/-- Python `validate_quality_memory`. -/
def validateQualityMemory (estimate : EstimatedMemory) (backend : ComputeBackend) : Except String Unit :=
  if backend = .cpu then
    if estimate.assessment.effectiveDevice = .cpu && confirmedWithoutOffload estimate.assessment.status &&
        estimate.totalBytes.any (fun total => 0 < total && estimate.assessment.availableRamBytes.any (total ≤ ·)) &&
        estimate.weights.component.bytes.isSome && estimate.kvCache.component.bytes.isSome &&
        estimate.runtimeOverhead.component.bytes.isSome then .ok ()
    else .error "Evaluation RAM fit unconfirmed; no execution attempted."
  else if residentOnDevice estimate then .ok ()
  else .error "Evaluation full-device memory fit / VRAM budget unconfirmed; no execution attempted."

/-- Python `policies.CONFIRMED_MEMORY_STATUSES`. -/
def confirmedMemoryStatuses : List CompatibilityStatus :=
  [.comfortable, .compatible, .tight, .offloadingRequired]

/-- The configuration of an evaluation. -/
def evaluationConfig (quantization : Option String) (context : ℤ) (backend : Option ComputeBackend) :
    InferenceConfiguration where
  contextLength := context
  quantization := quantization
  targetDevice := if backend = some .cpu then .cpu else .auto
  deviceReserveBytes := Discovery.deviceReserveDefaultBytes
  safetyMarginPercent := safetyMarginDefaultPercent

/-- The configuration of the work that was asked for. -/
def workloadConfig (config : InferenceConfiguration) (plan : ExecutionPlan) (requirements : UserRequirements)
    (backend : Option ComputeBackend) : InferenceConfiguration :=
  { config with
    contextLength := requirements.desiredContext
    concurrentUsers := requirements.concurrentUsers
    targetDevice :=
      if backend = some .cpu then
        match plan.memoryPrediction with
        | some prediction => prediction.inferenceConfiguration.targetDevice
        | none => .auto
      else config.targetDevice }

/-- The hardware an evaluation is estimated on. -/
def evaluationHardware (hardware : HardwareProfile) : Option ComputeBackend → Except String HardwareProfile
  | none => .ok hardware
  | some backend => (qualityBackendSelection hardware (some backend)).bind (qualityMemoryHardware hardware)

/-- Whether an evaluation fits. -/
def checkEvaluation (estimate : EstimatedMemory) (context : ℤ) : Option ComputeBackend → Except String Unit
  | some backend => validateQualityMemory estimate backend
  | none =>
    if residentOnDevice estimate then .ok ()
    else .error ("full-device fit unconfirmed at evaluation context " ++ toString context)

variable (env : PreparationEnv)

/-- The estimate of the work that was asked for; where the evaluation is configured the same, its estimate. -/
def askedEstimate (exact : ModelAnalysis) (hardware : HardwareProfile) (estimate : EstimatedMemory)
    (config workload : InferenceConfiguration) : Except PreparationFailure EstimatedMemory :=
  if workload = config then .ok estimate else env.estimateModel exact hardware workload

/-- The estimate of the work that was asked for, once the evaluation itself fits. -/
def workloadEstimate (exact : ModelAnalysis) (plan : ExecutionPlan) (quantization : Option String)
    (hardware : HardwareProfile) (requirements : UserRequirements) (context : ℤ) (backend : Option ComputeBackend) :
    Except PreparationFailure EstimatedMemory := do
  let config := evaluationConfig quantization context backend
  let placed ← refusing (evaluationHardware hardware backend)
  let estimate ← env.estimateModel exact placed config
  refusing (checkEvaluation estimate context backend)
  let asked ← askedEstimate env exact hardware estimate config (workloadConfig config plan requirements backend)
  if asked.assessment.status ∉ confirmedMemoryStatuses then
    .error (.refused "fit unconfirmed for the requested search workload")
  else .ok asked

end Memory

section Candidate
variable (env : PreparationEnv)

/-- The plan, pinned to the file. -/
def pinnedPlan (plan : ExecutionPlan) (artifact : ModelArtifact) (workload : EstimatedMemory) : ExecutionPlan :=
  { plan with
    artifact :=
      { plan.artifact with
        revision := some artifact.revision
        sha256 := artifact.sha256
        sizeBytes := artifact.sizeBytes }
    memoryPrediction := some workload.toMemoryEstimate }

/-- Python `_prepare_candidate`. -/
def prepareCandidate (plan : ExecutionPlan) (hardware : HardwareProfile) (requirements : UserRequirements)
    (seen : List (Option String)) (context : ℤ) (backend : Option ComputeBackend) :
    Except PreparationFailure PreparedCandidate := do
  let artifact ← resolveExact env plan.artifact seen
  let exact ← exactAnalysis env artifact context
  let workload ← workloadEstimate env exact plan artifact.quantization hardware requirements context backend
  return {
    plan := pinnedPlan plan artifact workload
    reason := "Search priority/diversity; workload fits; " ++
      ((backend.map (·.value)).getD "full-device") ++ " evaluation fit at ctx " ++ toString context ++ "."
    downloaded := env.isDownloaded artifact
    historicalRecords := env.evidence.countP fun item => some item.artifactSha256 = artifact.sha256 }

end Candidate

section Shown

/-- Python `_measurable`. -/
def measurable (plan : ExecutionPlan) : Bool :=
  plan.artifact.format = .gguf && plan.artifact.fileCount = some 1 && (truthy plan.artifact.sha256).isSome &&
    plan.artifact.identityMatch = .confirmed

/-- Whether a plan of the pool may stand for a shown one. -/
def standsFor (shown : ExecutionPlan) (ranked : RankedPlan) : Bool :=
  !ranked.assessment.rejected && measurable ranked.plan &&
    modelIdentityKey ranked.plan.modelIdentity = modelIdentityKey shown.modelIdentity

/-- Python `_gguf_path`. -/
def ggufPath (pool : List RankedPlan) (shown : ExecutionPlan) : Option ExecutionPlan :=
  if measurable shown then some shown else (pool.find? (standsFor shown)).map (·.plan)

/-- How a shown plan is named in a notice. -/
def shownName (plan : ExecutionPlan) : String :=
  plan.artifact.repoId ++ " / " ++ plan.artifact.label

/-- The notice of a plan there is no room for. -/
def notOffered (plan : ExecutionPlan) : String :=
  shownName plan ++ ": not offered, " ++ toString maxQualityCandidates ++ " candidates at most."

/-- The notice of a plan that cannot be measured. -/
def noPath (plan : ExecutionPlan) : String :=
  shownName plan ++ ": no single-file GGUF path with a published digest for this model in the saved search pool."

/-- The reason of a candidate that stands for the plan that was shown. -/
def pathReason (shown plan : ExecutionPlan) (reason : String) : String :=
  if plan = shown then reason
  else "GGUF path of the shown model, not its shown " ++ shown.artifact.label ++
    " plan; the result attaches to this path. " ++ reason

end Shown

section Loops

/-- How far a selection is: what is chosen, why the others are not, the digests that are taken, and the reports. -/
structure Preparing where
  chosen : List PreparedCandidate := []
  notices : List String := []
  seen : List (Option String) := []
  reports : List String := []
  deriving DecidableEq

/-- A model is left out. -/
def Preparing.refuse (state : Preparing) (notice : String) : Preparing :=
  { state with notices := state.notices ++ [notice] }

/-- A candidate is chosen, and a digest is taken. -/
def Preparing.choose (state : Preparing) (candidate : PreparedCandidate) (digest : Option String) : Preparing :=
  { state with chosen := state.chosen ++ [candidate], seen := digest :: state.seen }

variable (env : PreparationEnv)

/-- Python `report`. -/
def Preparing.report (state : Preparing) (text : String) : Except PreparationFailure Preparing :=
  if env.cancelled state.reports.length then .error (.cancelled "Candidate selection cancelled.")
  else .ok { state with reports := state.reports ++ [text] }

/-- The selection of a preparation that ends. -/
def Preparing.selection (state : Preparing) (considered : ℕ) : QualityCandidateSelection where
  candidates := state.chosen
  notices := state.notices
  considered := considered

/-- One shown plan of Python `prepare_speed_candidates`. -/
def speedStep (requirements : UserRequirements) (pool : List RankedPlan) (state : Preparing) (shown : ExecutionPlan) :
    Except PreparationFailure Preparing :=
  if state.chosen.length = maxQualityCandidates then .ok (state.refuse (notOffered shown))
  else do
    let state ← state.report env ("Checking " ++ shownName shown)
    match ggufPath pool shown with
    | none => return state.refuse (noPath shown)
    | some plan =>
      if state.seen.contains plan.artifact.sha256 then return state.refuse (noPath shown)
      else
        return state.choose
          { plan := plan
            reason := pathReason shown plan "Shown plan; llama_bench_v2 at its own offload and device."
            downloaded := env.isDownloaded (toModelArtifact plan.artifact)
            speed := assessSpeed env.readers plan requirements env.benchmarks }
          plan.artifact.sha256

/-- The last report. -/
def selectionReady : String :=
  "Candidate selection ready; no models downloaded"

/-- Python `prepare_speed_candidates`. -/
def prepareSpeedCandidates (state : SearchState) :
    Except PreparationFailure (QualityCandidateSelection × List String) :=
  match state.hardware, state.requirements with
  | some _, some requirements =>
    if state.rankedPlans = [] then
      .ok ({ notices := ["This search kept no plan pool; run it again to evaluate."]
             considered := state.shown.length }, [])
    else do
      let last ← state.shown.foldlM (speedStep env requirements state.rankedPlans) {}
      let last ← last.report env selectionReady
      return (last.selection state.shown.length, last.reports)
  | _, _ => .ok ({ notices := ["Search hardware/requirements unavailable."] }, [])

/-- One shown plan of Python `_prepare_shown_plans`. -/
def shownStep (hardware : HardwareProfile) (requirements : UserRequirements) (pool : List RankedPlan)
    (state : Preparing) (shown : ExecutionPlan) : Except PreparationFailure Preparing :=
  if state.chosen.length = maxQualityCandidates then .ok (state.refuse (notOffered shown))
  else do
    let state ← state.report env ("Checking " ++ shownName shown)
    match ggufPath pool shown with
    | none => return state.refuse (noPath shown)
    | some plan =>
      match prepareCandidate env plan hardware requirements state.seen (profileContext .ifeval) none with
      | .error (.refused text) => return state.refuse (shownName shown ++ ": " ++ text)
      | .error failure => .error failure
      | .ok candidate =>
        return state.choose
          { candidate with
            stored := storedQuality env.qualityIndex candidate.plan.artifact.sha256 (requestedProfile requirements)
            reason := pathReason shown plan candidate.reason }
          plan.artifact.sha256

/-- Python `_cuda_blocker`. -/
def cudaBlocker (backend : Option ComputeBackend) (hardware : HardwareProfile) : Option String :=
  if backend ≠ some .cuda ∨ hardware.gpus.length ≠ 1 then
    some ("The audited IFEval protocol requires one CUDA GPU; multi-device selection " ++
      "is unsupported. Choose HellaSwag smoke/100 for CPU or confirmed Vulkan.")
  else none

/-- Python `_prepare_shown_plans`. -/
def prepareShownPlans (state : SearchState) (hardware : HardwareProfile) (requirements : UserRequirements) :
    Except PreparationFailure (QualityCandidateSelection × List String) :=
  if requestedProfile requirements ≠ some "ifeval-instructions-en-v1" then
    .ok ({ notices := ["IFEval applies only to English general-chat requests."] }, [])
  else
    match cudaBlocker (env.rankingBackend hardware) hardware with
    | some blocker => .ok ({ notices := [blocker] }, [])
    | none => do
      let start ← ({} : Preparing).report env "Preparing the exact plans this search showed"
      if state.rankedPlans = [] then
        return ({ notices := ["This search kept no plan pool; run it again to evaluate."]
                  considered := state.shown.length }, start.reports)
      else
        let last ← state.shown.foldlM (shownStep env hardware requirements state.rankedPlans) start
        let last ← last.report env selectionReady
        return (last.selection state.shown.length, last.reports)

end Loops

section Queue
variable (env : PreparationEnv)

/-- The plans of a model, in the order of the ladder. -/
def ladderOrder (priority : RecommendationPriority) (plans : List ExecutionPlan) : List ExecutionPlan :=
  let ladder := quantizationLadder priority
  sortedBy (fun plan => toLex ((plan.artifact.quantization.map ladder.idxOf).getD ladder.length, plan.planId)) plans

/-- Whether a plan is a GGUF of the recommended model. -/
def isPathOf (recommendation : ModelRecommendation) (plan : ExecutionPlan) : Except PreparationFailure Bool :=
  if plan.artifact.format ≠ .gguf ∨ plan.artifact.identityMatch ≠ .confirmed then .ok false
  else (env.resolveModelIdentity recommendation).map fun identity =>
    modelIdentityKey plan.modelIdentity = modelIdentityKey identity

/-- The inner loop of Python `prepare_candidates`: the first plan of a model that can be prepared, or why none can,
and the reports. -/
def tryPlans (hardware : HardwareProfile) (requirements : UserRequirements) (backend : ComputeBackend)
    (recommendation : ModelRecommendation) (seen : List (Option String)) :
    List ExecutionPlan → List String → List String →
      Except PreparationFailure (Option PreparedCandidate × List String) × List String
  | [], failures, reports => (.ok (none, failures), reports)
  | plan :: rest, failures, reports =>
    if env.cancelled reports.length then (.error (.cancelled "Candidate selection cancelled."), reports)
    else
      let reports := reports ++ ["Checking " ++ shownName plan]
      match isPathOf env recommendation plan with
      | .error failure => (.error failure, reports)
      | .ok false => tryPlans hardware requirements backend recommendation seen rest failures reports
      | .ok true =>
        match prepareCandidate env plan hardware requirements seen (profileContext .smoke) (some backend) with
        | .error (.refused text) =>
          tryPlans hardware requirements backend recommendation seen rest
            (failures ++ [plan.artifact.label ++ ": " ++ text]) reports
        | .error failure => (.error failure, reports)
        | .ok candidate => (.ok (some candidate, failures), reports)

/-- The notice of a model without a plan that can be prepared. -/
def noneConfirmed (recommendation : ModelRecommendation) (failures : List String) : String :=
  recommendation.repoId ++ ": " ++
    "; ".intercalate (if failures = [] then ["no confirmed GGUF path found"] else failures.eraseDups)

/-- One model of Python `prepare_candidates`. -/
def queueStep (hardware : HardwareProfile) (requirements : UserRequirements) (backend : ComputeBackend)
    (state : Preparing) (recommendation : ModelRecommendation) : Except PreparationFailure Preparing := do
  let state ← state.report env ("Inspecting evaluation paths: " ++ recommendation.repoId)
  match env.executionPlansFor recommendation with
  | .error (.refused text) => return state.refuse (recommendation.repoId ++ ": " ++ text)
  | .error failure => .error failure
  | .ok plans =>
    let (tried, reports) := tryPlans env hardware requirements backend recommendation state.seen
      (ladderOrder requirements.priority plans) [] state.reports
    let state := { state with reports := reports }
    match tried with
    | .error (.refused text) => return state.refuse (recommendation.repoId ++ ": " ++ text)
    | .error failure => .error failure
    | .ok (none, failures) => return state.refuse (noneConfirmed recommendation failures)
    | .ok (some candidate, _) => return state.choose candidate candidate.plan.artifact.sha256

/-- The loop of Python `prepare_candidates`, with the number of models that were inspected. -/
def queueLoop (hardware : HardwareProfile) (requirements : UserRequirements) (backend : ComputeBackend) :
    List ModelRecommendation → ℕ → Preparing → Except PreparationFailure (ℕ × Preparing)
  | [], inspected, state => .ok (inspected, state)
  | recommendation :: rest, inspected, state =>
    if state.chosen.length = maxQualityCandidates ∨ inspected = Application.maxVariantDeepInspection then
      .ok (inspected, state)
    else do
      let state ← queueStep env hardware requirements backend state recommendation
      queueLoop hardware requirements backend rest (inspected + 1) state

/-- The models to inspect: every one that was evaluated, in the order of a recommendation, or those that were shown. -/
def queuePool (state : SearchState) (hardware : HardwareProfile) (requirements : UserRequirements) :
    Except PreparationFailure (List ModelRecommendation) :=
  if state.evaluatedCandidates = [] then .ok state.recommendations
  else env.recommend state.evaluatedCandidates requirements hardware

/-- The notice of the models that the budget left out. -/
def notInspected (count : ℕ) : String :=
  toString count ++ " models not inspected: selection budget reached."

/-- Python `prepare_candidates`. -/
def prepareCandidates (state : SearchState) (profile : QualityProfile) (requested : Option ComputeBackend) :
    Except PreparationFailure (QualityCandidateSelection × List String) :=
  match state.hardware, state.requirements with
  | some hardware, some requirements =>
    if profile = .ifeval then prepareShownPlans env state hardware requirements
    else do
      let start ← ({} : Preparing).report env "Preparing candidates from the inspected search pool"
      match qualityBackendSelection hardware requested with
      | .error text => return ({ notices := [text] }, start.reports)
      | .ok selection =>
        let pool ← queuePool env state hardware requirements
        let (inspected, last) ← queueLoop env hardware requirements selection.selectedBackend pool 0 start
        let last ← last.report env selectionReady
        let last := if inspected < pool.length then last.refuse (notInspected (pool.length - inspected)) else last
        return (last.selection pool.length, last.reports)
  | _, _ => .ok ({ notices := ["Search hardware/requirements unavailable."] }, [])

end Queue

section Contracts
variable {env : PreparationEnv} {plan : ExecutionPlan} {hardware : HardwareProfile} {requirements : UserRequirements}
variable {variant : ArtifactVariant} {artifact : ModelArtifact} {seen : List (Option String)} {context : ℤ}
variable {backend : Option ComputeBackend} {exact : ModelAnalysis} {workload : EstimatedMemory}
variable {quantization : Option String} {candidate : PreparedCandidate}

/-- The file a plan runs, as the hub has it. -/
structure Resolved (variant : ArtifactVariant) (seen : List (Option String)) (artifact : ModelArtifact) : Prop where
  named : truthy variant.filename ≠ none
  single : variant.fileCount = some 1
  checked : checkSelectedArtifact artifact variant = .ok ()
  commit : isCommit artifact.revision = true
  digest : truthy artifact.sha256 ≠ none
  size : artifact.sizeBytes ≠ none ∧ artifact.sizeBytes ≠ some 0
  fresh : artifact.sha256 ∉ seen

/-- A refusal passes a result on unchanged. -/
lemma refusing_eq_ok {α : Type} {checked : Except String α} {result : α} (ended : refusing checked = .ok result) :
    checked = .ok result := by
  cases checked with
  | error text => cases ended
  | ok made =>
    cases ended
    rfl

/-- What `_resolve_exact` returns is resolved. -/
lemma resolved_of_ok (ended : resolveExact env variant seen = .ok artifact) : Resolved variant seen artifact := by
  rw [resolveExact] at ended
  split_ifs at ended with single
  obtain ⟨found, _, ended⟩ := bind_eq_ok.mp ended
  obtain ⟨⟨⟩, checked, ended⟩ := bind_eq_ok.mp ended
  split_ifs at ended with commit known
  cases ended
  rw [not_or, not_not] at single
  rw [not_or, not_or, not_or] at known
  exact
    { named := single.1
      single := single.2
      checked := refusing_eq_ok checked
      commit := by simpa using commit
      digest := known.1
      size := ⟨known.2.1, known.2.2.1⟩
      fresh := fun mem => known.2.2.2 (List.contains_iff_mem.mpr mem) }

/-- What a file that passed the guard has in common with the plan that selected it. -/
structure Selects (selected : ArtifactVariant) (artifact : ModelArtifact) : Prop where
  format : selected.format = .gguf
  repoId : artifact.repoId = selected.repoId
  filename : selected.filename = some artifact.filename
  quantization : artifact.quantization = selected.quantization
  digest : ∀ sha, selected.sha256 = some sha → artifact.sha256 = some sha
  size : ∀ bytes, selected.sizeBytes = some bytes → artifact.sizeBytes = some bytes

/-- An artifact that passes the check is the variant's own. -/
lemma selects_of_ok (checked : checkSelectedArtifact artifact variant = .ok ()) : Selects variant artifact := by
  rw [checkSelectedArtifact] at checked
  split_ifs at checked with format filename count same
  simp only [not_or, not_not, not_and] at same
  obtain ⟨_, repoId, name, quantization, digest, size, _⟩ := same
  exact
    { format := not_not.mp format
      repoId := repoId
      filename := name.symm
      quantization := quantization
      digest := fun sha known => by
        have own := digest (by rw [known]; exact Option.some_ne_none sha)
        rw [own, known]
      size := fun bytes known => by
        have own := size (by rw [known]; exact Option.some_ne_none bytes)
        rw [own, known] }

/-- The evaluation fits, and so does the work that was asked for. -/
structure Fits (env : PreparationEnv) (exact : ModelAnalysis) (plan : ExecutionPlan) (quantization : Option String)
    (hardware : HardwareProfile) (requirements : UserRequirements) (context : ℤ) (backend : Option ComputeBackend)
    (workload : EstimatedMemory) : Prop where
  evaluation : ∃ placed estimate, evaluationHardware hardware backend = .ok placed ∧
    env.estimateModel exact placed (evaluationConfig quantization context backend) = .ok estimate ∧
    checkEvaluation estimate context backend = .ok () ∧
    askedEstimate env exact hardware estimate (evaluationConfig quantization context backend)
      (workloadConfig (evaluationConfig quantization context backend) plan requirements backend) = .ok workload
  workload : workload.assessment.status ∈ confirmedMemoryStatuses

/-- What `_workload_estimate` returns fits the machine. -/
lemma fits_of_ok
    (ended : workloadEstimate env exact plan quantization hardware requirements context backend = .ok workload) :
    Fits env exact plan quantization hardware requirements context backend workload := by
  rw [workloadEstimate] at ended
  obtain ⟨placed, place, ended⟩ := bind_eq_ok.mp ended
  obtain ⟨estimate, estimated, ended⟩ := bind_eq_ok.mp ended
  obtain ⟨⟨⟩, checked, ended⟩ := bind_eq_ok.mp ended
  obtain ⟨asked, ask, ended⟩ := bind_eq_ok.mp ended
  split_ifs at ended with confirmed
  cases ended
  exact
    { evaluation := ⟨placed, estimate, refusing_eq_ok place, estimated, refusing_eq_ok checked, ask⟩
      workload := confirmed }

/-- What is known of a candidate before anything is downloaded. -/
structure Prepared (env : PreparationEnv) (plan : ExecutionPlan) (hardware : HardwareProfile)
    (requirements : UserRequirements) (context : ℤ) (backend : Option ComputeBackend) (candidate : PreparedCandidate) :
    Prop where
  /-- it is the plan, with the file it selected pinned to a commit and its bytes to a digest and a size -/
  pinned : ∃ artifact workload, candidate.plan = pinnedPlan plan artifact workload ∧ Selects plan.artifact artifact ∧
    isCommit artifact.revision = true ∧ truthy artifact.sha256 ≠ none ∧
    artifact.sizeBytes ≠ none ∧ artifact.sizeBytes ≠ some 0 ∧
    -- the hub lists that file once, for a model whose context is long enough
    ∃ analysis item, env.inspectModel artifact.repoId = .ok analysis ∧
      analysis.classification.ggufVariants.filter (isExact artifact) = [item] ∧
      (∀ limit, analysis.config.bind (·.maxPositionEmbeddings) = some limit → context ≤ limit) ∧
      -- the evaluation fits, and so does the work that was asked for
      Fits env { analysis with classification := { analysis.classification with ggufVariants := [item] } }
        plan artifact.quantization hardware requirements context backend workload
  single : plan.artifact.fileCount = some 1
  named : truthy plan.artifact.filename ≠ none

/-- A successful exact analysis read the artifact's repository and found the one exact item. -/
lemma exactAnalysis_ok (ended : exactAnalysis env artifact context = .ok exact) :
    ∃ analysis item, env.inspectModel artifact.repoId = .ok analysis ∧
      analysis.classification.ggufVariants.filter (isExact artifact) = [item] ∧
      (∀ limit, analysis.config.bind (·.maxPositionEmbeddings) = some limit → context ≤ limit) ∧
      exact = { analysis with classification := { analysis.classification with ggufVariants := [item] } } := by
  rw [exactAnalysis] at ended
  obtain ⟨analysis, inspected, ended⟩ := bind_eq_ok.mp ended
  dsimp only at ended
  split_ifs at ended with short several
  cases ended
  obtain ⟨item, only⟩ := List.length_eq_one_iff.mp (not_not.mp several)
  refine ⟨analysis, item, inspected, only, ?_, by rw [only]⟩
  intro limit known
  rw [known] at short
  simpa using short

/-- What `_prepare_candidate` gives is prepared, and its digest is not taken. -/
lemma prepareCandidate_ok
    (ended : prepareCandidate env plan hardware requirements seen context backend = .ok candidate) :
    Prepared env plan hardware requirements context backend candidate ∧ candidate.plan.artifact.sha256 ∉ seen := by
  rw [prepareCandidate] at ended
  obtain ⟨artifact, resolved, ended⟩ := bind_eq_ok.mp ended
  obtain ⟨exact, found, ended⟩ := bind_eq_ok.mp ended
  obtain ⟨workload, fits, ended⟩ := bind_eq_ok.mp ended
  cases ended
  have resolved := resolved_of_ok resolved
  obtain ⟨analysis, item, inspected, only, long, rfl⟩ := exactAnalysis_ok found
  exact
    ⟨{ pinned := ⟨artifact, workload, rfl, selects_of_ok resolved.checked, resolved.commit, resolved.digest,
        resolved.size.1, resolved.size.2, analysis, item, inspected, only, long, fits_of_ok fits⟩
       single := resolved.single
       named := resolved.named },
      resolved.fresh⟩

end Contracts

end Jaull.Advisor
