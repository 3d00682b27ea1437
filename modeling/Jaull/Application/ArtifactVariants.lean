import Jaull.Discovery.Enrichment
import Jaull.Domain.ExecutionPlans
import Jaull.Text.Slug

/-!
# Artifact variants of a logical model

Port of `jaull/application/discovery/artifact_variants.py`: one search, and the inspection of its most likely
results, a bounded number of them. What the search, the inspection and the report of a confirmed variant do
is the state of the program; where each inspection uses up one of a budget, so does the discovery
(`discoverArtifactVariants_meets`).
-/

namespace Jaull.Application
open Jaull.Discovery Jaull.Domain Jaull.Lib Jaull.Text

/-- One query to the hub (Python `SearchQuery`). -/
structure SearchQuery where
  label : String
  search : Option String := none
  pipelineTag : Option String := none
  filterTags : List String := []
  sort : String := "downloads"
  limit : ℤ := 20
  deriving DecidableEq, Repr

/-- Python `re.sub(r"[^a-z0-9.]+", "-", text)`; `inRun` is set inside a run that has its dash. -/
def dashOutside : Bool → List Char → List Char
  | _, [] => []
  | inRun, c :: rest =>
    if isSlugChar c || c = '.' then c :: dashOutside false rest
    else if inRun then dashOutside true rest
    else '-' :: dashOutside true rest

/-- The pattern of the artifact words in Python `_normalised_model_name`. -/
def artifactWord : Pattern :=
  let digit := Pattern.one isDigitCode
  let mixed := Pattern.seq (.literal (codePoints "_k_")) (.one fun c => c = 109 || c = 115 || c = 108)
  let word := Pattern.alt (.literal (codePoints "gguf")) <|
    .alt (.seq (.literal (codePoints "q")) (.seq digit (.opt mixed))) <|
    .alt (.seq (.literal (codePoints "int")) digit) <|
    .alt (.literal (codePoints "fp16")) (.literal (codePoints "bf16"))
  .seq (.wordBoundary isWordCodePoint) (.seq word (.wordBoundary isWordCodePoint))

/-- Python `_normalised_model_name`. -/
def normalisedModelName (value : String) : String :=
  let kept := artifactWord.removeAll 0 none (codePoints (casefold value))
  String.ofList (stripDashes (dashOutside false (kept.map Char.ofNat)))

example : normalisedModelName "Qwen2.5 7B-Instruct GGUF Q4_K_M" = "qwen2.5-7b-instruct" := by decide +kernel

/-- Python `_match_confidence`. -/
def matchConfidence : IdentityMatchStatus → EstimationConfidence
  | .confirmed => .high
  | .uncertain => .low
  | .rejected => .unknown

/-- Python `_identity_match`. -/
def identityMatch (target candidateIdentity : ModelIdentity) : IdentityMatchStatus :=
  let sameRepo : Bool :=
    match truthy target.canonicalRepoId, truthy candidateIdentity.canonicalRepoId with
    | some repo, some repo' =>
      (confirmedModelRepoId candidateIdentity).isSome && casefold repo' = casefold repo
    | _, _ => false
  let otherFamily : Bool :=
    match truthy target.family, truthy candidateIdentity.family with
    | some family, some family' => family ≠ family'
    | _, _ => false
  if sameRepo then .confirmed
  else if otherFamily then .rejected
  else if normalisedModelName target.modelName = normalisedModelName candidateIdentity.modelName then .uncertain
  else .rejected

/-- Python `_confirmed_gguf_quantization_count`. -/
def confirmedGgufQuantizationCount (variants : List ArtifactVariant) : ℕ :=
  variants.countP fun variant =>
    variant.format = .gguf && variant.identityMatch = .confirmed && (truthy variant.quantization).isSome

/-- Python `_dedupe_variants`. -/
def dedupeVariants (variants : List ArtifactVariant) : List ArtifactVariant :=
  let key (variant : ArtifactVariant) :=
    (variant.repoId, variant.filename, variant.format.value,
      (truthy variant.quantization).or variant.precision)
  variants.foldl
    (fun kept variant => if kept.any (key · = key variant) then kept else kept ++ [variant]) []

/-- What the `ArtifactVariant` validators let pass. -/
def validated (variant : ArtifactVariant) : Except RaisedError ArtifactVariant :=
  if Recommendation.ArtifactVariant.valid variant then .ok variant
  else .error { errorClass := .other, text := "ArtifactVariant" }

section Discovery
variable (resolveModelIdentity : LinkedCandidate → Option InspectedModel → ModelIdentity)
  (packedTransformersQuantizationLabel : Option ModelConfig → Option String)

/-- How likely a search result is the model, zero first (Python `_variant_candidate_priority`). -/
def variantCandidatePriority (identity : ModelIdentity) (candidate : LinkedCandidate) : Option ℕ :=
  let cheapIdentity := resolveModelIdentity candidate none
  let byName :=
    if normalisedModelName identity.modelName = normalisedModelName cheapIdentity.modelName then some 2
    else if candidate.tags.any (casefold · = "gguf") then some 3
    else none
  match truthy identity.canonicalRepoId with
  | none => byName
  | some target =>
    match truthy candidate.baseModelRepoId with
    | some base => if logicalModelRepoKey base = logicalModelRepoKey target then some 0 else none
    | none =>
      if logicalModelRepoKey candidate.repoId = logicalModelRepoKey target then some 0
      else if (truthy cheapIdentity.canonicalRepoId).isSome &&
          modelIdentityKey cheapIdentity = modelIdentityKey identity then some 1
      else byName

/-- Python `_prioritize_variant_candidates`. -/
def prioritizeVariantCandidates (identity : ModelIdentity) (candidates : List LinkedCandidate) :
    List LinkedCandidate :=
  let ranked := candidates.zipIdx.filterMap fun (candidate, index) =>
    (variantCandidatePriority resolveModelIdentity identity candidate).map fun priority =>
      (priority, index, candidate)
  (sortedBy (fun item => toLex (item.1, item.2.1)) ranked).map (·.2.2)

/-- Python `_variants_from_candidate`. -/
def variantsFromCandidate (identity : ModelIdentity) (candidate : LinkedCandidate) (analysis : InspectedModel)
    (found : IdentityMatchStatus) : Except RaisedError (List ArtifactVariant) :=
  match analysis.classification.primaryType with
  | .gguf =>
    (preferredGgufVariants analysis.classification.ggufVariants).mapM fun gguf =>
      validated
        { modelIdentity := identity
          repoId := candidate.repoId
          revision := some "main"
          format := .gguf
          filename := gguf.files.head?.map (·.path)
          sha256 := gguf.sha256
          sizeBytes := gguf.totalBytes
          fileCount := some gguf.files.length
          quantization := some gguf.quantization
          compatibleRuntimes := [.llamaCpp]
          identityMatch := found
          confidence := matchConfidence found
          evidence := identity.evidence }
  | .transformers =>
    (validated
      { modelIdentity := identity
        repoId := candidate.repoId
        revision := some "main"
        format := .safetensors
        filename := some candidate.repoId
        sizeBytes := analysis.totalSizeBytes
        quantization := packedTransformersQuantizationLabel analysis.config
        compatibleRuntimes := [.transformers]
        identityMatch := found
        confidence := matchConfidence found
        evidence := identity.evidence }).map fun variant => [variant]
  | _ => .ok []

/-- A cache of analyses (Python `ModelAnalysisCacheProtocol`). -/
structure AnalysisCache (σ : Type) where
  get : LinkedCandidate → EStateM RaisedError σ (Option InspectedModel)
  put : LinkedCandidate → InspectedModel → EStateM RaisedError σ Unit

/-- What Python `discover_artifact_variants` is given to call. -/
structure DiscoveryCalls (σ : Type) where
  search : SearchQuery → EStateM RaisedError σ (List LinkedCandidate)
  inspectModel : String → EStateM RaisedError σ InspectedModel
  analysisCache : Option (AnalysisCache σ) := none
  increment : Option (String → ℤ → EStateM RaisedError σ Unit) := none
  onConfirmed : Option (LinkedCandidate → InspectedModel → EStateM RaisedError σ Unit) := none

variable {σ : Type} (calls : DiscoveryCalls σ)

/-- Python `telemetry.increment`, where there is a telemetry. -/
def DiscoveryCalls.count (counter : String) (amount : ℤ) : EStateM RaisedError σ Unit :=
  match calls.increment with
  | some increment => increment counter amount
  | none => pure ()

/-- Python `_inspect_candidate`. -/
def inspectCandidate (candidate : LinkedCandidate) : EStateM RaisedError σ InspectedModel :=
  match calls.analysisCache with
  | none => calls.inspectModel candidate.repoId
  | some cache => do
    match ← cache.get candidate with
    | some cached =>
      calls.count "variant_persistent_cache_hits" 1
      return cached
    | none =>
      calls.count "variant_persistent_cache_misses" 1
      let analysis ← calls.inspectModel candidate.repoId
      cache.put candidate analysis
      return analysis

/-- The call of `on_confirmed`, where there is one and the match is confirmed. -/
def reportConfirmed (found : IdentityMatchStatus) (candidate : LinkedCandidate) (analysis : InspectedModel) :
    EStateM RaisedError σ Unit :=
  match calls.onConfirmed with
  | some onConfirmed => if found = .confirmed then onConfirmed candidate analysis else pure ()
  | none => pure ()

/-- What is done with an inspected candidate (the end of the loop body of Python
`discover_artifact_variants`). -/
def discoverVariants (identity : ModelIdentity) (includeUncertain : Bool) (candidate : LinkedCandidate)
    (analysis : InspectedModel) (inspected : ℕ) (variants : List ArtifactVariant) :
    EStateM RaisedError σ (ForInStep (ℕ × List ArtifactVariant)) :=
  let found := identityMatch identity (resolveModelIdentity candidate (some analysis))
  if found = .rejected then pure (.yield (inspected, variants))
  else if found = .uncertain ∧ includeUncertain = false then pure (.yield (inspected, variants))
  else do
    reportConfirmed calls found candidate analysis
    let more ← lift (variantsFromCandidate packedTransformersQuantizationLabel identity candidate analysis found)
    let variants := variants ++ more
    if found = .confirmed ∧ 3 ≤ confirmedGgufQuantizationCount variants then
      pure (.done (inspected, variants))
    else pure (.yield (inspected, variants))

/-- The loop body of Python `discover_artifact_variants`, with how many candidates were inspected and the
variants so far. -/
def discoverTurn (identity : ModelIdentity) (includeUncertain : Bool) (maxDeepInspection : ℤ)
    (candidate : LinkedCandidate) (soFar : ℕ × List ArtifactVariant) :
    EStateM RaisedError σ (ForInStep (ℕ × List ArtifactVariant)) :=
  if (soFar.1 : ℤ) ≥ maxDeepInspection then pure (.done soFar)
  else do
    let analysis ← inspectCandidate calls candidate
    calls.count "variant_candidates_deeply_inspected" 1
    discoverVariants resolveModelIdentity packedTransformersQuantizationLabel calls identity includeUncertain
      candidate analysis (soFar.1 + 1) soFar.2

/-- Python `discover_artifact_variants`. -/
def discoverArtifactVariants (identity : ModelIdentity) (current : Option ArtifactVariant) (limit : ℤ)
    (includeUncertain : Bool) (maxDeepInspection : ℤ) : EStateM RaisedError σ (List ArtifactVariant) := do
  let query : SearchQuery :=
    { label := "artifact-variants", search := some (identity.modelName ++ " GGUF"), limit := limit }
  calls.count "variant_search_api_calls" 1
  let searchResults ← calls.search query
  calls.count "variant_candidates_searched" searchResults.length
  let candidates := prioritizeVariantCandidates resolveModelIdentity identity searchResults
  let (_, variants) ← forIn candidates (0, current.toList)
    (discoverTurn resolveModelIdentity packedTransformersQuantizationLabel calls identity includeUncertain
      maxDeepInspection)
  return dedupeVariants variants

/-- What the calls of a discovery do to a budget of inspections: `left n` holds where `n` are left. The search
opens the budget, an inspection uses up one of it, and nothing else touches it. -/
structure Budget (start : σ → Prop) (left : ℕ → σ → Prop) (most : ℕ) : Prop where
  less : ∀ n s, left (n + 1) s → left n s
  begun : ∀ s, start s → left 0 s
  searched : ∀ query, Meets start (calls.search query) (fun _ => left most) (fun _ => left 0)
  inspected : ∀ n repoId, Meets (left (n + 1)) (calls.inspectModel repoId) (fun _ => left n) (fun _ => left n)
  uncached : calls.analysisCache = none
  counted : ∀ increment ∈ calls.increment, ∀ counter amount,
    Keeps start (increment counter amount) ∧ ∀ n, Keeps (left n) (increment counter amount)
  reported : ∀ onConfirmed ∈ calls.onConfirmed, ∀ candidate analysis n,
    Keeps (left n) (onConfirmed candidate analysis)

section Spent
variable {resolveModelIdentity packedTransformersQuantizationLabel calls} {start : σ → Prop}
  {left : ℕ → σ → Prop} {most : ℕ}

/-- A loop with inspections left is a loop within its budget. -/
lemma Budget.any (budget : Budget calls start left most) (n : ℕ) : ∀ s, left n s → left 0 s := by
  induction n with
  | zero => exact fun _ held => held
  | succ n ih => exact fun s held => ih s (budget.less n s held)

/-- Counting leaves the budget alone. -/
lemma Budget.keeps_count (budget : Budget calls start left most) (counter : String) (amount : ℤ) :
    Keeps start (calls.count counter amount) ∧ ∀ n, Keeps (left n) (calls.count counter amount) := by
  rw [DiscoveryCalls.count]
  cases given : calls.increment with
  | none => exact ⟨fun _ held => held, fun _ _ held => held⟩
  | some increment => exact budget.counted increment given counter amount

/-- So does reporting a confirmed sibling. -/
lemma Budget.keeps_reportConfirmed (budget : Budget calls start left most) (found : IdentityMatchStatus)
    (candidate : LinkedCandidate) (analysis : InspectedModel) (n : ℕ) :
    Keeps (left n) (reportConfirmed calls found candidate analysis) := by
  rw [reportConfirmed]
  cases given : calls.onConfirmed with
  | none => exact fun _ held => held
  | some onConfirmed =>
    refine Meets.ite ?_ (fun _ _ held => held)
    intro _
    exact budget.reported onConfirmed given candidate analysis n

/-- An inspection takes one from the budget, whatever it ends with. -/
lemma Budget.inspectCandidate (budget : Budget calls start left most) (candidate : LinkedCandidate) (n : ℕ) :
    Meets (left (n + 1)) (inspectCandidate calls candidate) (fun _ => left n) (fun _ => left n) := by
  rw [Application.inspectCandidate, budget.uncached]
  exact budget.inspected n candidate.repoId

/-- Behind an inspection, a turn leaves the budget as the inspection left it. -/
lemma Budget.discoverVariants (budget : Budget calls start left most) (identity : ModelIdentity)
    (includeUncertain : Bool) (candidate : LinkedCandidate) (analysis : InspectedModel) (inspected : ℕ)
    (variants : List ArtifactVariant) (n : ℕ) :
    Meets (left n)
      (discoverVariants resolveModelIdentity packedTransformersQuantizationLabel calls identity includeUncertain
        candidate analysis inspected variants)
      (AfterTurn (fun soFar s => soFar.1 = inspected ∧ left n s) (fun _ => left 0)) (fun _ => left 0) := by
  refine Meets.ite (fun _ _ held => ⟨rfl, held⟩) (fun _ => ?_)
  refine Meets.ite (fun _ _ held => ⟨rfl, held⟩) (fun _ => ?_)
  refine Meets.bind ((budget.keeps_reportConfirmed _ candidate analysis n).failed fun _ => budget.any n) ?_
  intro _
  refine Meets.bind (Meets.lift.failed fun _ => budget.any n) ?_
  intro more
  exact Meets.ite (fun _ => budget.any n) (fun _ _ held => ⟨rfl, held⟩)

/-- A turn uses up one inspection, or ends the discovery. -/
lemma Budget.discoverTurn (budget : Budget calls start left most) (identity : ModelIdentity)
    (includeUncertain : Bool) {maxDeepInspection : ℤ} (within : maxDeepInspection ≤ most)
    (candidate : LinkedCandidate) (soFar : ℕ × List ArtifactVariant) :
    Meets (left (most - soFar.1))
      (discoverTurn resolveModelIdentity packedTransformersQuantizationLabel calls identity includeUncertain
        maxDeepInspection candidate soFar)
      (AfterTurn (fun soFar' => left (most - soFar'.1)) (fun _ => left 0)) (fun _ => left 0) := by
  refine Meets.ite (fun _ => budget.any _) ?_
  intro more
  have one : most - soFar.1 = most - (soFar.1 + 1) + 1 := by omega
  rw [one]
  refine Meets.bind ((budget.inspectCandidate candidate _).failed fun _ => budget.any _) ?_
  intro analysis
  refine Meets.bind (((budget.keeps_count _ _).2 _).failed fun _ => budget.any _) ?_
  intro _
  refine (budget.discoverVariants identity includeUncertain candidate analysis _ _ _).after ?_
  intro step s held
  cases step with
  | yield soFar' =>
    obtain ⟨same, held⟩ := held
    rw [AfterTurn, same]
    exact held
  | done soFar' => exact held

/-- A discovery stays within a budget of as many inspections as it may make. -/
lemma discoverArtifactVariants_meets (budget : Budget calls start left most) (identity : ModelIdentity)
    (current : Option ArtifactVariant) (limit : ℤ) (includeUncertain : Bool) {maxDeepInspection : ℤ}
    (within : maxDeepInspection ≤ most) :
    Meets start
      (discoverArtifactVariants resolveModelIdentity packedTransformersQuantizationLabel calls identity current
        limit includeUncertain maxDeepInspection)
      (fun _ => left 0) (fun _ => left 0) := by
  refine Meets.bind ((budget.keeps_count _ _).1.failed fun _ => budget.begun) ?_
  intro _
  refine Meets.bind (budget.searched _) ?_
  intro searchResults
  refine Meets.bind (((budget.keeps_count _ _).2 most).failed fun _ => budget.any most) ?_
  intro _
  refine Meets.bind (Q := fun _ => left 0) ?_ (fun _ _ held => held)
  refine Meets.loop (I := fun _ soFar => left (most - soFar.1)) (R := fun _ => left 0) ?_
    (fun _ _ => budget.any _ _) (0, current.toList)
  intro done candidate rest soFar _
  exact budget.discoverTurn identity includeUncertain within candidate soFar

end Spent

end Discovery

end Jaull.Application
