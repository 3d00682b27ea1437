import Jaull.Application.ArtifactVariants

/-!
# Alternatives for models without a viable path

Port of `jaull/application/recommendation/alternatives.py`. The variables that closures share, and the events
outside, are the state of a program; how the outside answers may depend on all that happened before.
-/

namespace Jaull.Application
open Jaull.Discovery Jaull.Domain Jaull.Lib Jaull.Recommendation Jaull.Text

/-- Python `policies.MAX_VARIANT_DEEP_INSPECTION`. -/
def maxVariantDeepInspection : ℕ :=
  6

/-- Python `policies.MAX_TARGETED_VARIANT_SEARCHES`. -/
def maxTargetedVariantSearches : ℕ :=
  3

/-- What is asked of the outside. -/
inductive Event
  | checkedCancelled
  | searched (query : SearchQuery)
  | inspected (candidate : LinkedCandidate)
  | selected (analysis : InspectedModel)
  | counted (counter : String) (amount : ℤ)
  deriving DecidableEq

/-- How the outside answers, after the events so far: the functions this stage is given, and those of other
stages that it calls. -/
structure Outside where
  checkCancelled : List Event → Except RaisedError Unit
  search : List Event → SearchQuery → Except RaisedError (List LinkedCandidate)
  inspectModel : List Event → LinkedCandidate → Except RaisedError InspectedModel
  selectConfiguration :
    List Event → InspectedModel → UserRequirements → HardwareProfile → Except RaisedError SelectedConfiguration
  resolveModelIdentity : LinkedCandidate → Option InspectedModel → ModelIdentity
  filterKeeps : LinkedCandidate → UserRequirements → Bool
  collaborators : Collaborators

/-- The variables of a function, and what happened outside. -/
structure Session (ν : Type) where
  vars : ν
  events : List Event

section Calls
variable {ν α : Type}

/-- One event, and its answer. -/
def perform (event : Event) (answer : List Event → Except RaisedError α) : EStateM RaisedError (Session ν) α :=
  fun session =>
    let after := { session with events := session.events ++ [event] }
    match answer session.events with
    | .ok a => .ok a after
    | .error error => .error error after

/-- An assignment to the variables. -/
def assign (f : ν → ν) : EStateM RaisedError (Session ν) Unit :=
  modify fun session => { session with vars := f session.vars }

/-- `except JaullError: continue`. -/
def skippingErrors (program : EStateM RaisedError (Session ν) Unit) : EStateM RaisedError (Session ν) Unit :=
  tryCatch program fun error => if error.isJaullError then pure () else throw error

/-- Python `telemetry.increment`. -/
def increment (counter : String) (amount : ℤ) : EStateM RaisedError (Session ν) Unit :=
  perform (.counted counter amount) fun _ => .ok ()

variable (outside : Outside)

/-- Python `check_cancelled`. -/
def checkCancelled : EStateM RaisedError (Session ν) Unit :=
  perform .checkedCancelled outside.checkCancelled

/-- Python `inspect_model`. -/
def inspectModel (candidate : LinkedCandidate) : EStateM RaisedError (Session ν) InspectedModel :=
  perform (.inspected candidate) (outside.inspectModel · candidate)

/-- Python `enrichment.evaluate_candidate` of a candidate whose analysis is there. -/
def evaluateInspected (requirements : UserRequirements) (hardware : HardwareProfile)
    (candidate : LinkedCandidate) (analysis : InspectedModel) :
    EStateM RaisedError (Session ν) PooledCandidate :=
  evaluateCandidate candidate (fun _ => pure analysis) fun analysis =>
    perform (.selected analysis) (outside.selectConfiguration · analysis requirements hardware)

end Calls

/-- The repository of a candidate, by which repositories are compared (Python `repo_id.casefold()`). -/
def repoKey (candidate : LinkedCandidate) : String :=
  casefold candidate.repoId

/-- The repository of an item of the pool. -/
def itemKey (item : PooledCandidate) : String :=
  casefold item.repoId

/-- Python `_has_confirmed_placement`. -/
def hasConfirmedPlacement (item : PooledCandidate) : Bool :=
  !item.failed && item.memoryEstimate.any fun estimate =>
    hasConfirmedMemoryCompatibility estimate.assessment.status

section Rescue

/-- The variables of Python `rescue_with_reupload_alternatives`. -/
structure Rescue where
  result : List PooledCandidate
  present : List String
  inspections : ℕ

variable (outside : Outside) (requirements : UserRequirements) (hardware : HardwareProfile)
  (alternatives : String → Option (List LinkedCandidate)) (maxInspections : ℤ)

/-- What is done with an inspected sibling (the end of the inner loop body of Python
`rescue_with_reupload_alternatives`). -/
def rescueInspected (sibling : LinkedCandidate) (inspected : Except RaisedError InspectedModel) :
    EStateM RaisedError (Session Rescue) (ForInStep Bool) :=
  match inspected with
  | .error error => if error.isJaullError then pure (.yield false) else throw error
  | .ok analysis =>
    if analysis.classification.primaryType ≠ .gguf then pure (.yield false)
    else do
      let found ← evaluateInspected outside requirements hardware sibling analysis
      assign fun vars => { vars with result := vars.result ++ [found] }
      if hasConfirmedPlacement found then pure (.done false) else pure (.yield false)

/-- The inner loop body of Python `rescue_with_reupload_alternatives`. The loop is left with `true` where the
function returns. -/
def rescueSibling (sibling : LinkedCandidate) : EStateM RaisedError (Session Rescue) (ForInStep Bool) := do
  let session ← get
  if (session.vars.inspections : ℤ) ≥ maxInspections then pure (.done true)
  else if repoKey sibling ∈ session.vars.present then pure (.yield false)
  else do
    checkCancelled outside
    assign fun vars =>
      { vars with inspections := vars.inspections + 1, present := vars.present.insert (repoKey sibling) }
    let inspected ← attempt (inspectModel outside sibling)
    rescueInspected outside requirements hardware sibling inspected

/-- The outer loop body of Python `rescue_with_reupload_alternatives`. -/
def rescueCopy (item : PooledCandidate) : EStateM RaisedError (Session Rescue) (ForInStep Unit) :=
  match alternatives (itemKey item) with
  | none => pure (.yield ())
  | some siblings =>
    if siblings = [] ∨ hasConfirmedPlacement item then pure (.yield ())
    else do
      let returns ← forIn siblings false fun sibling _ =>
        rescueSibling outside requirements hardware maxInspections sibling
      pure (if returns then .done () else .yield ())

/-- Python `rescue_with_reupload_alternatives`. -/
def rescueWithReuploadAlternatives (evaluated : List PooledCandidate) :
    EStateM RaisedError (Session Rescue) (List PooledCandidate) := do
  assign fun _ => { result := evaluated, present := evaluated.map itemKey, inspections := 0 }
  forIn evaluated () fun item _ => rescueCopy outside requirements hardware alternatives maxInspections item
  let session ← get
  return session.vars.result

end Rescue

section Expansion

/-- The variables that Python `expand_execution_candidates` shares with its closures. -/
structure Expansion where
  result : List PooledCandidate
  inspected : List String
  extraInspections : ℕ
  searches : ℕ

variable (outside : Outside) (requirements : UserRequirements) (hardware : HardwareProfile)

/-- A plan that fits and that the software supports (the condition of Python `viable`). -/
def viablePlan (plan : ExecutionPlan) : Bool :=
  plan.compatibility = .compatible && plan.memoryPrediction.any fun prediction =>
    hasConfirmedMemoryCompatibility prediction.assessment.status

/-- Python `viable`. What a validator of a plan raises is no `JaullError`. -/
def viable (item : PooledCandidate) : Except RaisedError Bool :=
  let collaborators :=
    { outside.collaborators with
      resolveModelIdentity := fun _ _ => outside.resolveModelIdentity item.candidate item.analysis }
  match generateExecutionPlans collaborators { hardware := some hardware } none requirements item.toEvaluated with
  | .ok plans => .ok (plans.any viablePlan)
  | .error text => .error { errorClass := .other, text := text }

/-- Python `canonical`. -/
def canonical (item : PooledCandidate) : Option String :=
  (truthy (confirmedModelRepoId (outside.resolveModelIdentity item.candidate item.analysis))).map casefold

/-- `any(canonical(other) == target and viable(other) for other in result)`. -/
def hasViablePath (target : String) : EStateM RaisedError (Session Expansion) Bool := do
  let session ← get
  lift (session.vars.result.anyM fun other =>
    if canonical outside other = some target then viable outside requirements hardware other else .ok false)

/-- Python `add_confirmed`. -/
def addConfirmed (candidate : LinkedCandidate) (analysis : InspectedModel) :
    EStateM RaisedError (Session Expansion) Unit :=
  if analysis.classification.primaryType ≠ .gguf then pure ()
  else if (confirmedModelRepoId (outside.resolveModelIdentity candidate (some analysis))).isNone then pure ()
  else do
    let session ← get
    if session.vars.result.any (itemKey · = repoKey candidate) then pure ()
    else if !outside.filterKeeps candidate requirements then pure ()
    else do
      let found ← evaluateInspected outside requirements hardware candidate analysis
      assign fun vars => { vars with result := vars.result ++ [found] }

/-- The loop body over the search hits in Python `expand_execution_candidates`. -/
def inspectHit (target : String) (candidate : LinkedCandidate) :
    EStateM RaisedError (Session Expansion) (ForInStep Unit) := do
  let session ← get
  if session.vars.extraInspections ≥ maxVariantDeepInspection then pure (.done ())
  else if repoKey candidate ∈ session.vars.inspected then pure (.yield ())
  else if (truthy candidate.baseModelRepoId).map casefold ≠ some target then pure (.yield ())
  else do
    checkCancelled outside
    assign fun vars =>
      { vars with
        inspected := vars.inspected.insert (repoKey candidate)
        extraInspections := vars.extraInspections + 1 }
    skippingErrors do
      let analysis ← inspectModel outside candidate
      addConfirmed outside requirements hardware candidate analysis
    pure (.yield ())

/-- Python `inspect_discovered`. -/
def inspectDiscovered (repoId : String) : EStateM RaisedError (Session Expansion) InspectedModel := do
  checkCancelled outside
  assign fun vars =>
    if casefold repoId ∈ vars.inspected then vars
    else
      { vars with
        inspected := vars.inspected.insert (casefold repoId)
        extraInspections := vars.extraInspections + 1 }
  inspectModel outside { repoId := repoId }

/-- What the discovery of a variant is given to call. -/
def discoveryCalls : DiscoveryCalls (Session Expansion) where
  search query := perform (.searched query) (outside.search · query)
  inspectModel := inspectDiscovered outside
  increment := some increment
  onConfirmed := some (addConfirmed outside requirements hardware)

/-- The search for variants of one item (the end of the loop body of Python `expand_execution_candidates`). -/
def searchVariants (item : PooledCandidate) : EStateM RaisedError (Session Expansion) Unit := do
  let session ← get
  let remaining : ℤ := maxVariantDeepInspection - session.vars.extraInspections
  if remaining ≤ 0 ∨ session.vars.searches ≥ maxTargetedVariantSearches then pure ()
  else do
    assign fun vars => { vars with searches := vars.searches + 1 }
    skippingErrors do
      let _ ← discoverArtifactVariants outside.resolveModelIdentity
        outside.collaborators.packedTransformersQuantizationLabel
        (discoveryCalls outside requirements hardware)
        (outside.resolveModelIdentity item.candidate item.analysis) none 20 false remaining

/-- The loop body of Python `expand_execution_candidates`. -/
def expandItem (candidates : List LinkedCandidate) (item : PooledCandidate) :
    EStateM RaisedError (Session Expansion) Unit := do
  checkCancelled outside
  match item.analysis with
  | none => pure ()
  | some analysis =>
    if item.failed ∨ analysis.classification.primaryType ≠ .transformers then pure ()
    else
      match canonical outside item with
      | none => pure ()
      | some target => do
        if ← hasViablePath outside requirements hardware target then pure ()
        else do
          forIn candidates () fun candidate _ => inspectHit outside requirements hardware target candidate
          if ← hasViablePath outside requirements hardware target then pure ()
          else searchVariants outside requirements hardware item

/-- The warning of an item without a path. -/
def noPathWarning : String :=
  "No technically viable, memory-fitting path was confirmed in the inspected " ++
    "pool or bounded alternative discovery. No conversion was assumed."

/-- The last loop body of Python `expand_execution_candidates`. -/
def warnItem (originalRepos : List String) (index : ℕ) : EStateM RaisedError (Session Expansion) Unit := do
  let session ← get
  match session.vars.result[index]? with
  | none => pure ()
  | some item =>
    match item.analysis with
    | none => pure ()
    | some analysis =>
      if itemKey item ∉ originalRepos ∨ item.failed ∨ analysis.classification.primaryType ≠ .transformers then
        pure ()
      else
        match canonical outside item with
        | none => pure ()
        | some target => do
          if ← hasViablePath outside requirements hardware target then pure ()
          else
            assign fun vars =>
              { vars with
                result := vars.result.set index { item with warnings := item.warnings ++ [noPathWarning] } }

/-- Python `expand_execution_candidates`. -/
def expandExecutionCandidates (evaluated : List PooledCandidate) (candidates : List LinkedCandidate) :
    EStateM RaisedError (Session Expansion) (List PooledCandidate) := do
  assign fun _ =>
    { result := evaluated, inspected := evaluated.map itemKey, extraInspections := 0, searches := 0 }
  evaluated.forM (expandItem outside requirements hardware candidates)
  let session ← get
  increment "recommendation_variant_inspections" session.vars.extraInspections
  increment "recommendation_variant_searches" session.vars.searches
  (List.range session.vars.result.length).forM
    (warnItem outside requirements hardware (evaluated.map itemKey))
  let session ← get
  return session.vars.result

end Expansion

end Jaull.Application
