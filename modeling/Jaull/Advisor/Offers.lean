import Jaull.Advisor.QualityCandidates
import Jaull.Lib.Loops

/-!
# What a selection offers

The loops over the shown plans are sifts: a plan is offered or gets its notice, and the verdict depends on the digests
that are offered before it. The loop over the models of a search keeps the same account of the models it inspects.
-/

namespace Jaull.Advisor
open Jaull.Domain Jaull.Estimator Jaull.Lib Jaull.Recommendation Jaull.Runtime

section Paths
variable {pool : List RankedPlan} {shown plan : ExecutionPlan} {ranked : RankedPlan}

/-- The plan that is measured for a shown one: itself, or the first of the pool that may stand for it. -/
inductive PathOf (pool : List RankedPlan) (shown : ExecutionPlan) : ExecutionPlan → Prop
  | own (measured : measurable shown = true) : PathOf pool shown shown
  | pooled (before : List RankedPlan) (ranked : RankedPlan) (after : List RankedPlan)
    (unmeasurable : measurable shown = false) (split : pool = before ++ ranked :: after)
    (stands : standsFor shown ranked = true) (first : ∀ other ∈ before, standsFor shown other = false) :
    PathOf pool shown ranked.plan

/-- The GGUF path of a shown plan is a path of it. -/
lemma pathOf_of_ggufPath (found : ggufPath pool shown = some plan) : PathOf pool shown plan := by
  rw [ggufPath] at found
  split_ifs at found with measured
  · cases found
    exact .own measured
  · obtain ⟨ranked, first, rfl⟩ := Option.map_eq_some_iff.mp found
    obtain ⟨stands, before, after, split, others⟩ := List.find?_eq_some_iff_append.mp first
    refine .pooled before ranked after (by simpa using measured) split stands ?_
    intro other mem
    have not := others other mem
    simpa using not

/-- A path can be measured. -/
lemma PathOf.measurable (path : PathOf pool shown plan) : measurable plan = true := by
  cases path with
  | own measured => exact measured
  | pooled _ ranked _ _ _ stands _ =>
    rw [standsFor, Bool.and_eq_true, Bool.and_eq_true] at stands
    exact stands.1.2

/-- What can be measured has a digest. -/
lemma digest_of_measurable (measured : measurable plan = true) : ∃ sha, plan.artifact.sha256 = some sha := by
  rw [Advisor.measurable, Bool.and_eq_true, Bool.and_eq_true] at measured
  cases digest : plan.artifact.sha256 with
  | none =>
    rw [digest] at measured
    cases measured.1.2
  | some sha => exact ⟨sha, rfl⟩

end Paths

section Account

/-- The digest of what a candidate measures. -/
def PreparedCandidate.digest (candidate : PreparedCandidate) : Option String :=
  candidate.plan.artifact.sha256

variable {env : PreparationEnv} {state next : Preparing} {sifted : Sifted PreparedCandidate String}
variable {candidate : PreparedCandidate} {text : String} {sha : Option String}

/-- A preparation that keeps the account of a sift. -/
structure Keeps (state : Preparing) (sifted : Sifted PreparedCandidate String) : Prop where
  chosen : state.chosen = sifted.kept
  notices : state.notices = sifted.refused
  seen : state.seen = (sifted.kept.map PreparedCandidate.digest).reverse

lemma keeps_start (reports : List String) : Keeps { reports := reports } {} :=
  ⟨rfl, rfl, rfl⟩

/-- A notice is one refusal more. -/
lemma Keeps.refuse (keeps : Keeps state sifted) (notice : String) :
    Keeps (state.refuse notice) (sifted.enter (.error notice)) where
  chosen := keeps.chosen
  notices := congrArg (· ++ [notice]) keeps.notices
  seen := keeps.seen

/-- A choice is one candidate more. -/
lemma Keeps.choose (keeps : Keeps state sifted) (own : candidate.digest = sha) :
    Keeps (state.choose candidate sha) (sifted.enter (.ok candidate)) where
  chosen := congrArg (· ++ [candidate]) keeps.chosen
  notices := keeps.notices
  seen := by
    rw [Preparing.choose, Sifted.enter]
    dsimp only
    rw [List.map_append, List.map_singleton, List.reverse_append, List.reverse_singleton, own, keeps.seen]
    rfl

/-- Reports do not matter to it. -/
lemma Keeps.reported (keeps : Keeps state sifted) (reports : List String) :
    Keeps { state with reports := reports } sifted :=
  ⟨keeps.chosen, keeps.notices, keeps.seen⟩

/-- A report that is not cancelled only adds to the reports. -/
lemma report_eq_ok (reported : state.report env text = .ok next) :
    env.cancelled state.reports.length = false ∧ next = { state with reports := state.reports ++ [text] } := by
  rw [Preparing.report] at reported
  cases cancelled : env.cancelled state.reports.length with
  | true =>
    rw [cancelled] at reported
    cases reported
  | false =>
    rw [cancelled] at reported
    cases reported
    exact ⟨rfl, rfl⟩

/-- While nobody cancels, a report is made. -/
lemma report_of_calm (calm : ∀ poll, env.cancelled poll = false) (state : Preparing) (text : String) :
    state.report env text = .ok { state with reports := state.reports ++ [text] } := by
  rw [Preparing.report, calm]
  rfl

/-- A digest was seen when a candidate has it. -/
lemma mem_seen (keeps : Keeps state sifted) :
    sha ∈ state.seen ↔ sha ∈ sifted.kept.map PreparedCandidate.digest := by
  rw [keeps.seen]
  exact List.mem_reverse

/-- Keeping candidates whose digest is not taken keeps the digests apart. -/
lemma nodup_digests {kept : List PreparedCandidate} (nodup : (kept.map PreparedCandidate.digest).Nodup)
    (fresh : candidate.digest ∉ kept.map PreparedCandidate.digest) :
    ((kept ++ [candidate]).map PreparedCandidate.digest).Nodup := by
  rw [List.map_append, List.map_singleton, List.nodup_append]
  refine ⟨nodup, List.nodup_singleton _, ?_⟩
  intro sha mem sha' mem' same
  rw [List.mem_singleton.mp mem'] at same
  exact fresh (same ▸ mem)

end Account

section Sample

/-- The digest of the file of a repository. -/
def sampleDigest (repoId : String) : String :=
  if repoId = "org/model-GGUF" then "a" else "b"

/-- A file at a commit of a repository. -/
def sampleFile (repoId : String) : ModelArtifact where
  repoId := repoId
  revision := "0123456789abcdef0123456789abcdef01234567"
  filename := "model.gguf"
  format := "gguf"
  quantization := some "Q4_K_M"
  sizeBytes := some 4
  sha256 := some (sampleDigest repoId)

/-- A plan that runs the file of a repository of a model. -/
def samplePlan (name repoId : String) : ExecutionPlan where
  planId := name
  modelIdentity := { modelName := name }
  artifact :=
    { modelIdentity := { modelName := name }
      repoId := repoId
      format := .gguf
      filename := some "model.gguf"
      sha256 := some (sampleDigest repoId)
      fileCount := some 1
      quantization := some "Q4_K_M" }
  runtime := { runtime := .llamaCpp, confidence := .high }
  identity_matches := rfl

/-- A plan that runs the weights of a model as they were published. -/
def nativePlan (name repoId : String) : ExecutionPlan where
  planId := name
  modelIdentity := { modelName := name }
  artifact :=
    { modelIdentity := { modelName := name }
      repoId := repoId
      format := .safetensors }
  runtime := { runtime := .transformers, confidence := .high }
  identity_matches := rfl

/-- A size that is known. -/
def sampleComponent (name : String) : MemoryComponent where
  name := name
  bytes := some 1
  source := .exact
  confidence := .high
  explanation := ""

/-- An estimate that fits. -/
def sampleEstimate (config : InferenceConfiguration) : EstimatedMemory where
  inferenceConfiguration := config
  totalBytes := some 3
  assessment :=
    { status := .comfortable
      confidence := .high
      targetDevice := config.targetDevice
      effectiveDevice := .cpu
      availableRamBytes := some 8 }
  repositoryType := .gguf
  weights := { component := sampleComponent "weights" }
  kvCache :=
    { component := sampleComponent "kv_cache"
      contextLength := config.contextLength
      batchSize := 1
      dtypeBytes := 2
      formula := "" }
  runtimeOverhead :=
    { component := sampleComponent "overhead"
      baseBytes := 1
      weightFraction := 0
      minimumBytes := 0 }
  deviceReserve := sampleComponent "reserve"
  safetyMargin := none
  hardwareFit := some
    { mode := .gpuResident
      memoryTopology := .discreteMemory
      weightsBytes := 1
      kvCacheBytes := 1
      overheadBytes := 1
      reason := "" }

/-- A hub that knows the files, and a caller that waits. One model has a plan for its file, one the file of a second
repository behind its own weights, and one has no file. -/
def sampleEnv : PreparationEnv where
  cancelled _ := false
  resolve repoId _ _ := .ok (sampleFile repoId)
  inspectModel repoId := .ok
    { classification :=
        { primaryType := .gguf
          ggufVariants :=
            [{ quantization := "Q4_K_M"
               files := [{ path := "model.gguf", sizeBytes := some 4, sha256 := some (sampleDigest repoId) }]
               totalBytes := some 4 }] } }
  estimateModel _ _ config := .ok (sampleEstimate config)
  isDownloaded _ := false
  executionPlansFor recommendation :=
    .ok (if recommendation.repoId = "org/other-GGUF" then [samplePlan "other" "org/other-GGUF"]
      else if recommendation.repoId = "org/model" then
        [nativePlan "model" "org/model", samplePlan "model" "org/model-GGUF"]
      else [nativePlan "bare" "org/bare"])
  resolveModelIdentity recommendation :=
    .ok { modelName := if recommendation.repoId = "org/other-GGUF" then "other"
      else if recommendation.repoId = "org/model" then "model" else "bare" }
  recommend _ _ _ := .ok []
  rankingBackend _ := some .cuda
  readers :=
    { machineFingerprint := fun _ => []
      fastestRecordBlockers := fun _ => []
      speedCohort := fun _ => ""
      modelDumpJson := fun _ => ""
      runtimeDeviceNameMatches := fun _ _ _ => false }
  benchmarks := []
  evidence := []
  qualityIndex := {}

/-- A machine with one card. -/
def sampleMachine : HardwareProfile where
  os := "linux"
  arch := "x86_64"
  cpu := {}
  memory := { totalBytes := 8, availableBytes := 8 }
  gpus := [{ name := "card", vramTotalBytes := 8, vramAvailableBytes := 8 }]

/-- An English chat. -/
def sampleRequest : UserRequirements where
  useCase := .generalChat
  priority := .balanced
  languages := ["en"]
  desiredContext := 4096

/-- A search that showed the weights of a model, the file of another one and the weights of a third; its pool holds a
file of the first model. -/
def sampleSearch : SearchState where
  hardware := some sampleMachine
  requirements := some sampleRequest
  recommendations :=
    [{ repoId := "org/model", plan := some (nativePlan "model" "org/model") },
      { repoId := "org/other-GGUF", plan := some (samplePlan "other" "org/other-GGUF") },
      { repoId := "org/bare", plan := some (nativePlan "bare" "org/bare") }]
  rankedPlans :=
    [{ evaluated := { candidate := { repoId := "org/other-GGUF" } }
       plan := samplePlan "other" "org/other-GGUF"
       assessment := { planId := "other" } },
      { evaluated := { candidate := { repoId := "org/model-GGUF" } }
        plan := samplePlan "model" "org/model-GGUF"
        assessment := { planId := "model" } }]

/-- The repositories of the candidates, and how many plans are left out. -/
def QualityCandidateSelection.summary (selection : QualityCandidateSelection) : List String × ℕ :=
  (selection.candidates.map (·.plan.artifact.repoId), selection.notices.length)

end Sample

section Speed
variable {env : PreparationEnv} {requirements : UserRequirements} {pool : List RankedPlan}
variable {state next : Preparing} {sifted : Sifted PreparedCandidate String} {shown : ExecutionPlan}

/-- The candidate of a speed measurement. -/
def speedCandidate (env : PreparationEnv) (requirements : UserRequirements) (shown plan : ExecutionPlan) :
    PreparedCandidate where
  plan := plan
  reason := pathReason shown plan "Shown plan; llama_bench_v2 at its own offload and device."
  downloaded := env.isDownloaded (toModelArtifact plan.artifact)
  speed := assessSpeed env.readers plan requirements env.benchmarks

/-- The verdict on a shown plan, by the candidates before it. -/
def speedVerdict (env : PreparationEnv) (requirements : UserRequirements) (pool : List RankedPlan)
    (kept : List PreparedCandidate) (shown : ExecutionPlan) : Except String PreparedCandidate :=
  if kept.length = maxQualityCandidates then .error (notOffered shown)
  else
    match ggufPath pool shown with
    | none => .error (noPath shown)
    | some plan =>
      if (kept.map PreparedCandidate.digest).contains plan.artifact.sha256 then .error (noPath shown)
      else .ok (speedCandidate env requirements shown plan)

/-- A step of the speed loop judges its plan. -/
lemma speedStep_keeps (keeps : Keeps state sifted) (ended : speedStep env requirements pool state shown = .ok next) :
    Keeps next (sifted.judge (speedVerdict env requirements pool) shown) := by
  rw [speedStep] at ended
  rw [Sifted.judge, speedVerdict, ← keeps.chosen]
  split_ifs at ended with full
  · cases ended
    rw [if_pos full]
    exact keeps.refuse _
  · rw [if_neg full]
    obtain ⟨reported, report, ended⟩ := bind_eq_ok.mp ended
    obtain ⟨_, rfl⟩ := report_eq_ok report
    have keeps' := keeps.reported (state.reports ++ ["Checking " ++ shownName shown])
    cases path : ggufPath pool shown with
    | none =>
      rw [path] at ended
      cases ended
      exact keeps'.refuse _
    | some plan =>
      rw [path] at ended
      dsimp only at ended ⊢
      rw [keeps.chosen]
      by_cases taken : plan.artifact.sha256 ∈ state.seen
      · rw [if_pos (List.contains_iff_mem.mpr taken)] at ended
        cases ended
        rw [if_pos (List.contains_iff_mem.mpr ((mem_seen keeps).mp taken))]
        exact keeps'.refuse _
      · rw [if_neg fun wrong => taken (List.contains_iff_mem.mp wrong)] at ended
        cases ended
        rw [if_neg fun wrong => taken ((mem_seen keeps).mpr (List.contains_iff_mem.mp wrong))]
        exact keeps'.choose rfl

/-- The loop judges all of them. -/
lemma speedLoop_keeps {items : List ExecutionPlan} (keeps : Keeps state sifted)
    (looped : items.foldlM (speedStep env requirements pool) state = .ok next) :
    Keeps next (sift (speedVerdict env requirements pool) items sifted) := by
  have agrees : ∀ state sifted shown next, Keeps state sifted → shown ∈ items →
      speedStep env requirements pool state shown = .ok next →
      Keeps next (sifted.judge (speedVerdict env requirements pool) shown) :=
    fun _ _ _ _ related _ ended => speedStep_keeps related ended
  exact foldlM_refines agrees keeps looped

/-- While nobody cancels, a step ends. -/
lemma speedStep_total (calm : ∀ poll, env.cancelled poll = false) (state : Preparing) (shown : ExecutionPlan) :
    ∃ next, speedStep env requirements pool state shown = .ok next := by
  rw [speedStep, report_of_calm calm, ok_bind]
  split_ifs
  · exact ⟨_, rfl⟩
  · cases ggufPath pool shown with
    | none => exact ⟨_, rfl⟩
    | some plan =>
      dsimp only
      split_ifs
      · exact ⟨_, rfl⟩
      · exact ⟨_, rfl⟩

/-- The judgement keeps the first plan of each digest. -/
lemma keepsFirsts_speedVerdict :
    KeepsFirsts (speedVerdict env requirements pool) maxQualityCandidates (ggufPath pool) (·.artifact.sha256)
      PreparedCandidate.plan where
  full kept shown full := ⟨notOffered shown, if_pos full⟩
  none kept shown unmeasured := by
    rw [speedVerdict, unmeasured]
    split_ifs
    · exact ⟨_, rfl⟩
    · exact ⟨_, rfl⟩
  known kept shown plan path taken := by
    rw [speedVerdict, path]
    split_ifs
    · exact ⟨_, rfl⟩
    · exact ⟨noPath shown, if_pos (List.contains_iff_mem.mpr taken)⟩
  made kept shown plan room path fresh := by
    rw [speedVerdict, path, if_neg room]
    exact ⟨speedCandidate env requirements shown plan, if_neg fun wrong => fresh (List.contains_iff_mem.mp wrong), rfl⟩

/-- What is offered for a speed measurement: of the paths of the shown plans the first three with different digests. -/
structure OffersSpeed (env : PreparationEnv) (requirements : UserRequirements) (pool : List RankedPlan)
    (shown : List ExecutionPlan) (selection : QualityCandidateSelection) : Prop where
  firsts : selection.candidates.map PreparedCandidate.plan =
    (firsts (·.artifact.sha256) (shown.filterMap (ggufPath pool))).take maxQualityCandidates
  distinct : (selection.candidates.map PreparedCandidate.digest).Nodup
  /-- a candidate is the path of a shown plan, with what the stored benchmarks say about it -/
  path : ∀ candidate ∈ selection.candidates, ∃ plan ∈ shown, PathOf pool plan candidate.plan ∧
    candidate = speedCandidate env requirements plan candidate.plan
  /-- every shown plan is offered or has a notice -/
  judged : ∀ plan ∈ shown,
    Judged (speedVerdict env requirements pool) ⟨selection.candidates, selection.notices⟩ plan
  accounted : selection.candidates.length + selection.notices.length = shown.length
  considered : selection.considered = shown.length

/-- A candidate is the path of its plan, and its digest was not taken. -/
lemma speedVerdict_ok {kept : List PreparedCandidate} {candidate : PreparedCandidate}
    (given : speedVerdict env requirements pool kept shown = .ok candidate) :
    candidate.digest ∉ kept.map PreparedCandidate.digest ∧ PathOf pool shown candidate.plan ∧
      candidate = speedCandidate env requirements shown candidate.plan := by
  rw [speedVerdict] at given
  split_ifs at given
  cases path : ggufPath pool shown with
  | none =>
    rw [path] at given
    cases given
  | some plan =>
    rw [path] at given
    dsimp only at given
    split_ifs at given with fresh
    cases given
    exact ⟨fun taken => fresh (List.contains_iff_mem.mpr taken), pathOf_of_ggufPath path, rfl⟩

/-- What the judgements kept and refused are the offers. -/
lemma offersSpeed_of_sift (shown : List ExecutionPlan) {selection : QualityCandidateSelection}
    (kept : selection.candidates = (sift (speedVerdict env requirements pool) shown {}).kept)
    (refused : selection.notices = (sift (speedVerdict env requirements pool) shown {}).refused)
    (considered : selection.considered = shown.length) : OffersSpeed env requirements pool shown selection where
  firsts := by
    rw [kept]
    exact sift_firsts keepsFirsts_speedVerdict shown
  distinct := by
    rw [kept]
    refine sift_induction (motive := fun kept => (kept.map PreparedCandidate.digest).Nodup) List.nodup_nil ?_
    intro kept nodup plan _ made given
    exact nodup_digests nodup (speedVerdict_ok given).1
  path := by
    rw [kept]
    intro candidate mem
    obtain ⟨plan, among, before, given⟩ := made_of_mem_kept mem
    exact ⟨plan, among, (speedVerdict_ok given).2⟩
  judged := by
    rw [kept, refused]
    exact fun plan mem => judged_of_mem mem
  accounted := by
    rw [kept, refused, length_sift]
    exact Nat.zero_add _
  considered := considered

/-- Unless it is cancelled, a preparation of speed calls offers the first three different files that the shown plans
lead to, and says of every other plan why it is left out. -/
theorem prepareSpeedCandidates_offers (env : PreparationEnv) (state : SearchState) (hardware : HardwareProfile)
    (requirements : UserRequirements) (scanned : state.hardware = some hardware)
    (asked : state.requirements = some requirements) (pooled : state.rankedPlans ≠ []) :
    (∀ selection reports, prepareSpeedCandidates env state = .ok (selection, reports) →
      OffersSpeed env requirements state.rankedPlans state.shown selection) ∧
    ((∀ poll, env.cancelled poll = false) →
      ∃ selection reports, prepareSpeedCandidates env state = .ok (selection, reports)) := by
  constructor
  · intro selection reports ended
    rw [prepareSpeedCandidates, scanned, asked] at ended
    dsimp only at ended
    rw [if_neg pooled] at ended
    obtain ⟨last, looped, ended⟩ := bind_eq_ok.mp ended
    obtain ⟨ready, report, ended⟩ := bind_eq_ok.mp ended
    obtain ⟨_, rfl⟩ := report_eq_ok report
    obtain ⟨rfl, _⟩ := Prod.mk.inj (Except.ok.inj ended)
    have keeps := speedLoop_keeps (keeps_start []) looped
    exact offersSpeed_of_sift state.shown keeps.chosen keeps.notices rfl
  · intro calm
    rw [prepareSpeedCandidates, scanned, asked]
    dsimp only
    rw [if_neg pooled]
    obtain ⟨last, looped⟩ := foldlM_total (speedStep_total calm) state.shown ({} : Preparing)
    rw [looped, ok_bind, report_of_calm calm]
    exact ⟨_, _, rfl⟩

/-- Two models of the example are offered for speed, and one is refused. -/
theorem prepareSpeedCandidates_offers_sample :
    ∃ selection reports, prepareSpeedCandidates sampleEnv sampleSearch = .ok (selection, reports) ∧
      selection.summary = (["org/model-GGUF", "org/other-GGUF"], 1) ∧
      OffersSpeed sampleEnv sampleRequest sampleSearch.rankedPlans sampleSearch.shown selection := by
  obtain ⟨offers, ends⟩ := prepareSpeedCandidates_offers sampleEnv sampleSearch sampleMachine sampleRequest rfl rfl
    (List.cons_ne_nil _ _)
  obtain ⟨selection, reports, ended⟩ := ends fun _ => rfl
  have two : selection.summary = (["org/model-GGUF", "org/other-GGUF"], 1) := by
    cases ended
    rfl
  exact ⟨selection, reports, ended, two, offers selection reports ended⟩

end Speed

section Shown
variable {env : PreparationEnv} {hardware : HardwareProfile} {requirements : UserRequirements} {pool : List RankedPlan}
variable {state next : Preparing} {sifted : Sifted PreparedCandidate String} {shown plan : ExecutionPlan}
variable {candidate : PreparedCandidate} {context : ℤ} {backend : Option ComputeBackend}

/-- What an exception says. -/
def PreparationFailure.text : PreparationFailure → String
  | .cancelled text => text
  | .refused text => text
  | .other text => text

/-- The candidate of an instruction run, with what the store holds for its bytes. -/
def shownCandidate (env : PreparationEnv) (requirements : UserRequirements) (shown plan : ExecutionPlan)
    (candidate : PreparedCandidate) : PreparedCandidate :=
  { candidate with
    stored := storedQuality env.qualityIndex candidate.plan.artifact.sha256 (requestedProfile requirements)
    reason := pathReason shown plan candidate.reason }

/-- The verdict on a shown plan, by the candidates before it. -/
def shownVerdict (env : PreparationEnv) (hardware : HardwareProfile) (requirements : UserRequirements)
    (pool : List RankedPlan) (kept : List PreparedCandidate) (shown : ExecutionPlan) :
    Except String PreparedCandidate :=
  if kept.length = maxQualityCandidates then .error (notOffered shown)
  else
    match ggufPath pool shown with
    | none => .error (noPath shown)
    | some plan =>
      match prepareCandidate env plan hardware requirements (kept.map PreparedCandidate.digest).reverse
          (profileContext .ifeval) none with
      | .error failure => .error (shownName shown ++ ": " ++ failure.text)
      | .ok candidate => .ok (shownCandidate env requirements shown plan candidate)

/-- Where the plan knows its digest, that is what is measured. -/
lemma Prepared.digest_eq (prepared : Prepared env plan hardware requirements context backend candidate)
    (measured : measurable plan = true) : candidate.digest = plan.artifact.sha256 := by
  obtain ⟨artifact, workload, pinned, selects, _⟩ := prepared.pinned
  obtain ⟨sha, known⟩ := digest_of_measurable measured
  rw [PreparedCandidate.digest, pinned, known]
  exact selects.digest sha known

/-- A step over the shown plans judges its plan. -/
lemma shownStep_keeps (keeps : Keeps state sifted)
    (ended : shownStep env hardware requirements pool state shown = .ok next) :
    Keeps next (sifted.judge (shownVerdict env hardware requirements pool) shown) := by
  rw [shownStep] at ended
  rw [Sifted.judge, shownVerdict, ← keeps.chosen]
  split_ifs at ended with full
  · cases ended
    rw [if_pos full]
    exact keeps.refuse _
  · rw [if_neg full]
    obtain ⟨reported, report, ended⟩ := bind_eq_ok.mp ended
    obtain ⟨_, rfl⟩ := report_eq_ok report
    have keeps' := keeps.reported (state.reports ++ ["Checking " ++ shownName shown])
    cases path : ggufPath pool shown with
    | none =>
      rw [path] at ended
      cases ended
      exact keeps'.refuse _
    | some plan =>
      rw [path] at ended
      dsimp only at ended ⊢
      rw [keeps.chosen, ← keeps.seen]
      cases given : prepareCandidate env plan hardware requirements state.seen (profileContext .ifeval) none with
      | error failure =>
        rw [given] at ended
        cases failure with
        | refused text =>
          cases ended
          exact keeps'.refuse _
        | cancelled text => cases ended
        | other text => cases ended
      | ok candidate =>
        rw [given] at ended
        cases ended
        have own := (prepareCandidate_ok given).1.digest_eq (pathOf_of_ggufPath path).measurable
        exact @Keeps.choose _ _ (shownCandidate env requirements shown plan candidate) _ keeps' own

/-- The loop judges all of them. -/
lemma shownLoop_keeps {items : List ExecutionPlan} (keeps : Keeps state sifted)
    (looped : items.foldlM (shownStep env hardware requirements pool) state = .ok next) :
    Keeps next (sift (shownVerdict env hardware requirements pool) items sifted) := by
  have agrees : ∀ state sifted shown next, Keeps state sifted → shown ∈ items →
      shownStep env hardware requirements pool state shown = .ok next →
      Keeps next (sifted.judge (shownVerdict env hardware requirements pool) shown) :=
    fun _ _ _ _ related _ ended => shownStep_keeps related ended
  exact foldlM_refines agrees keeps looped

/-- What is offered for an instruction run. -/
structure OffersShown (env : PreparationEnv) (hardware : HardwareProfile) (requirements : UserRequirements)
    (pool : List RankedPlan) (shown : List ExecutionPlan) (selection : QualityCandidateSelection) : Prop where
  few : selection.candidates.length ≤ maxQualityCandidates
  distinct : (selection.candidates.map PreparedCandidate.digest).Nodup
  /-- a candidate is a plan of the pool, or was shown itself, and measures the bytes that this plan runs -/
  prepared : ∀ candidate ∈ selection.candidates, ∃ plan ∈ shown, ∃ path, PathOf pool plan path ∧
    Prepared env path hardware requirements (profileContext .ifeval) none candidate ∧
    candidate.digest = path.artifact.sha256 ∧
    candidate.stored = storedQuality env.qualityIndex path.artifact.sha256 (requestedProfile requirements)
  /-- every shown plan is offered or has a notice -/
  judged : ∀ plan ∈ shown,
    Judged (shownVerdict env hardware requirements pool) ⟨selection.candidates, selection.notices⟩ plan
  accounted : selection.candidates.length + selection.notices.length = shown.length
  considered : selection.considered = shown.length

/-- A candidate was prepared from the path of its plan, and its digest was not taken. -/
lemma shownVerdict_ok {kept : List PreparedCandidate}
    (given : shownVerdict env hardware requirements pool kept shown = .ok candidate) :
    kept.length ≠ maxQualityCandidates ∧ candidate.digest ∉ kept.map PreparedCandidate.digest ∧
      ∃ path, PathOf pool shown path ∧
        Prepared env path hardware requirements (profileContext .ifeval) none candidate ∧
        candidate.digest = path.artifact.sha256 ∧
        candidate.stored = storedQuality env.qualityIndex path.artifact.sha256 (requestedProfile requirements) := by
  rw [shownVerdict] at given
  split_ifs at given with full
  cases path : ggufPath pool shown with
  | none =>
    rw [path] at given
    cases given
  | some plan =>
    rw [path] at given
    dsimp only at given
    cases made : prepareCandidate env plan hardware requirements (kept.map PreparedCandidate.digest).reverse
        (profileContext .ifeval) none with
    | error failure =>
      rw [made] at given
      cases given
    | ok prepared =>
      rw [made] at given
      cases given
      obtain ⟨holds, fresh⟩ := prepareCandidate_ok made
      have own := holds.digest_eq (pathOf_of_ggufPath path).measurable
      refine ⟨full, fun taken => fresh (List.mem_reverse.mpr taken), plan, pathOf_of_ggufPath path,
        ⟨holds.pinned, holds.single, holds.named⟩, own, ?_⟩
      rw [← own]
      rfl

/-- What the judgements kept and refused are the offers. -/
lemma offersShown_of_sift (shown : List ExecutionPlan) {selection : QualityCandidateSelection}
    (kept : selection.candidates = (sift (shownVerdict env hardware requirements pool) shown {}).kept)
    (refused : selection.notices = (sift (shownVerdict env hardware requirements pool) shown {}).refused)
    (considered : selection.considered = shown.length) :
    OffersShown env hardware requirements pool shown selection where
  few := by
    rw [kept]
    refine sift_induction (motive := fun kept => kept.length ≤ maxQualityCandidates) (Nat.zero_le _) ?_
    intro kept few plan _ made given
    have room := (shownVerdict_ok given).1
    rw [List.length_append, List.length_singleton]
    omega
  distinct := by
    rw [kept]
    refine sift_induction (motive := fun kept => (kept.map PreparedCandidate.digest).Nodup) List.nodup_nil ?_
    intro kept nodup plan _ made given
    exact nodup_digests nodup (shownVerdict_ok given).2.1
  prepared := by
    rw [kept]
    intro candidate mem
    obtain ⟨plan, among, before, given⟩ := made_of_mem_kept mem
    exact ⟨plan, among, (shownVerdict_ok given).2.2⟩
  judged := by
    rw [kept, refused]
    exact fun plan mem => judged_of_mem mem
  accounted := by
    rw [kept, refused, length_sift]
    exact Nat.zero_add _
  considered := considered

/-- An instruction run offers at most three files, each once: each is pinned to a commit, its evaluation and the work
that was asked for fit, and its bytes are those of a plan that was shown or of the first plan of the same model in the
pool. What the store holds for these bytes comes with it, and every plan that is left out has its notice. -/
theorem prepareShownPlans_offers (env : PreparationEnv) (state : SearchState) (hardware : HardwareProfile)
    (requirements : UserRequirements) (selection : QualityCandidateSelection) (reports : List String)
    (english : requestedProfile requirements = some "ifeval-instructions-en-v1")
    (cuda : cudaBlocker (env.rankingBackend hardware) hardware = none) (pooled : state.rankedPlans ≠ [])
    (ended : prepareShownPlans env state hardware requirements = .ok (selection, reports)) :
    OffersShown env hardware requirements state.rankedPlans state.shown selection := by
  rw [prepareShownPlans, if_neg (not_not.mpr english), cuda] at ended
  obtain ⟨start, first, ended⟩ := bind_eq_ok.mp ended
  obtain ⟨_, rfl⟩ := report_eq_ok first
  rw [if_neg pooled] at ended
  obtain ⟨last, looped, ended⟩ := bind_eq_ok.mp ended
  obtain ⟨ready, report, ended⟩ := bind_eq_ok.mp ended
  obtain ⟨_, rfl⟩ := report_eq_ok report
  obtain ⟨rfl, _⟩ := Prod.mk.inj (Except.ok.inj ended)
  have keeps := shownLoop_keeps (keeps_start _) looped
  exact offersShown_of_sift state.shown keeps.chosen keeps.notices rfl

/-- Two models of the example are offered for quality, and one is refused. -/
theorem prepareShownPlans_offers_sample :
    ∃ selection, selection.summary = (["org/model-GGUF", "org/other-GGUF"], 1) ∧
      OffersShown sampleEnv sampleMachine sampleRequest sampleSearch.rankedPlans sampleSearch.shown selection := by
  have english : requestedProfile sampleRequest = some "ifeval-instructions-en-v1" := by decide +kernel
  obtain ⟨result, ended⟩ : ∃ result,
      prepareShownPlans sampleEnv sampleSearch sampleMachine sampleRequest = .ok result :=
    ⟨_, rfl⟩
  have two : result.1.summary = (["org/model-GGUF", "org/other-GGUF"], 1) := by
    cases ended
    rfl
  exact ⟨result.1, two, prepareShownPlans_offers sampleEnv sampleSearch sampleMachine sampleRequest result.1
    result.2 english rfl (List.cons_ne_nil _ _) ended⟩

end Shown

section Queue
variable {env : PreparationEnv} {hardware : HardwareProfile} {requirements : UserRequirements}
variable {backend : ComputeBackend}
variable {recommendation : ModelRecommendation} {seen : List (Option String)} {candidate : PreparedCandidate}
variable {plans : List ExecutionPlan} {failures failures' reports reports' : List String}
variable {pool met rest : List ModelRecommendation} {inspected count : ℕ} {state next : Preparing}

/-- A candidate is a GGUF of a model that was recommended, and it is prepared. -/
structure Queued (env : PreparationEnv) (hardware : HardwareProfile) (requirements : UserRequirements)
    (backend : ComputeBackend) (recommendation : ModelRecommendation) (candidate : PreparedCandidate) : Prop where
  path : ∃ plans plan, env.executionPlansFor recommendation = .ok plans ∧ plan ∈ plans ∧
    isPathOf env recommendation plan = .ok true ∧
    Prepared env plan hardware requirements (profileContext .smoke) (some backend) candidate

/-- What the inner loop finds was prepared from one of the plans. -/
lemma tryPlans_some
    (ended : tryPlans env hardware requirements backend recommendation seen plans failures reports =
      (.ok (some candidate, failures'), reports')) :
    ∃ plan ∈ plans, isPathOf env recommendation plan = .ok true ∧
      prepareCandidate env plan hardware requirements seen (profileContext .smoke) (some backend) = .ok candidate := by
  induction plans generalizing failures reports with
  | nil => cases ended
  | cons plan rest ih =>
    -- a plan that is no path of the model, or is refused, is passed by
    have later : (∃ plan ∈ rest, isPathOf env recommendation plan = .ok true ∧
        prepareCandidate env plan hardware requirements seen (profileContext .smoke) (some backend) = .ok candidate) →
        ∃ plan' ∈ plan :: rest, isPathOf env recommendation plan' = .ok true ∧
          prepareCandidate env plan' hardware requirements seen (profileContext .smoke) (some backend) =
            .ok candidate :=
      fun ⟨plan', mem, found⟩ => ⟨plan', List.mem_cons_of_mem _ mem, found⟩
    rw [tryPlans] at ended
    cases cancelled : env.cancelled reports.length with
    | true =>
      rw [cancelled, if_pos rfl] at ended
      cases ended
    | false =>
      rw [cancelled, if_neg Bool.false_ne_true] at ended
      cases path : isPathOf env recommendation plan with
      | error failure =>
        rw [path] at ended
        cases ended
      | ok own =>
        rw [path] at ended
        cases own with
        | false => exact later (ih ended)
        | true =>
          cases made : prepareCandidate env plan hardware requirements seen (profileContext .smoke) (some backend) with
          | ok prepared =>
            rw [made] at ended
            cases ended
            exact ⟨plan, List.mem_cons_self, path, made⟩
          | error failure =>
            rw [made] at ended
            cases failure with
            | refused text => exact later (ih ended)
            | cancelled text => cases ended
            | other text => cases ended

/-- What the inspection of a model comes to: a candidate of it, or a notice under its name. -/
inductive Inspected (env : PreparationEnv) (hardware : HardwareProfile) (requirements : UserRequirements)
    (backend : ComputeBackend) (recommendation : ModelRecommendation) : Except String PreparedCandidate → Prop
  | offered {candidate : PreparedCandidate}
      (queued : Queued env hardware requirements backend recommendation candidate) :
      Inspected env hardware requirements backend recommendation (.ok candidate)
  | refused (text : String) :
      Inspected env hardware requirements backend recommendation (.error (recommendation.repoId ++ ": " ++ text))

/-- The account of a selection over the models that were inspected: each has come to one verdict, and what is chosen and
noticed are these verdicts, in order. -/
structure QueueAccount (env : PreparationEnv) (hardware : HardwareProfile) (requirements : UserRequirements)
    (backend : ComputeBackend) (met : List ModelRecommendation) (state : Preparing) : Prop where
  few : state.chosen.length ≤ maxQualityCandidates
  distinct : (state.chosen.map PreparedCandidate.digest).Nodup
  seen : state.seen = (state.chosen.map PreparedCandidate.digest).reverse
  judged : ∃ verdicts, List.Forall₂ (Inspected env hardware requirements backend) met verdicts ∧
    verdicts.foldl Sifted.enter {} = ⟨state.chosen, state.notices⟩

/-- Nothing is inspected yet. -/
lemma queueAccount_start (env : PreparationEnv) (hardware : HardwareProfile) (requirements : UserRequirements)
    (backend : ComputeBackend) (reports : List String) :
    QueueAccount env hardware requirements backend [] { reports := reports } :=
  ⟨Nat.zero_le _, List.nodup_nil, rfl, [], .nil, rfl⟩

/-- A report changes nothing in the account. -/
lemma QueueAccount.reported (account : QueueAccount env hardware requirements backend met state)
    (reports : List String) :
    QueueAccount env hardware requirements backend met { state with reports := reports } :=
  ⟨account.few, account.distinct, account.seen, account.judged⟩

/-- One more verdict is entered behind the others. -/
lemma judged_append {verdicts : List (Except String PreparedCandidate)} {verdict : Except String PreparedCandidate}
    {sifted : Sifted PreparedCandidate String}
    (each : List.Forall₂ (Inspected env hardware requirements backend) met verdicts)
    (entered : verdicts.foldl Sifted.enter {} = sifted)
    (own : Inspected env hardware requirements backend recommendation verdict) :
    ∃ verdicts, List.Forall₂ (Inspected env hardware requirements backend) (met ++ [recommendation]) verdicts ∧
      verdicts.foldl Sifted.enter {} = sifted.enter verdict := by
  refine ⟨verdicts ++ [verdict], List.rel_append each (.cons own .nil), ?_⟩
  rw [List.foldl_append, entered]
  rfl

/-- One more model has its notice. -/
lemma QueueAccount.refuse (account : QueueAccount env hardware requirements backend met state) (text : String) :
    QueueAccount env hardware requirements backend (met ++ [recommendation])
      (state.refuse (recommendation.repoId ++ ": " ++ text)) where
  few := account.few
  distinct := account.distinct
  seen := account.seen
  judged := by
    obtain ⟨verdicts, each, entered⟩ := account.judged
    exact judged_append each entered (.refused text)

/-- One more model is offered. -/
lemma QueueAccount.choose (account : QueueAccount env hardware requirements backend met state)
    (room : state.chosen.length ≠ maxQualityCandidates) (fresh : candidate.digest ∉ state.seen)
    (queued : Queued env hardware requirements backend recommendation candidate) :
    QueueAccount env hardware requirements backend (met ++ [recommendation])
      (state.choose candidate candidate.plan.artifact.sha256) where
  few := by
    have few := account.few
    rw [Preparing.choose, List.length_append, List.length_singleton]
    omega
  distinct := by
    refine nodup_digests account.distinct fun taken => fresh ?_
    rw [account.seen]
    exact List.mem_reverse.mpr taken
  seen := by
    rw [Preparing.choose]
    dsimp only
    rw [List.map_append, List.map_singleton, List.reverse_append, List.reverse_singleton, account.seen]
    rfl
  judged := by
    obtain ⟨verdicts, each, entered⟩ := account.judged
    exact judged_append each entered (.offered queued)

/-- One more model is inspected. -/
lemma QueueAccount.step (account : QueueAccount env hardware requirements backend met state)
    (room : state.chosen.length ≠ maxQualityCandidates)
    (ended : queueStep env hardware requirements backend state recommendation = .ok next) :
    QueueAccount env hardware requirements backend (met ++ [recommendation]) next := by
  rw [queueStep] at ended
  obtain ⟨reported, report, ended⟩ := bind_eq_ok.mp ended
  obtain ⟨_, rfl⟩ := report_eq_ok report
  dsimp only at ended
  cases listed : env.executionPlansFor recommendation with
  -- without plans, or without one that can be prepared, the model gets its notice
  | error failure =>
    rw [listed] at ended
    cases failure with
    | refused text =>
      cases ended
      exact (account.reported _).refuse _
    | cancelled text => cases ended
    | other text => cases ended
  | ok plans =>
    rw [listed] at ended
    dsimp only at ended
    cases tried : tryPlans env hardware requirements backend recommendation state.seen
        (ladderOrder requirements.priority plans) []
        (state.reports ++ ["Inspecting evaluation paths: " ++ recommendation.repoId]) with
    | mk result reports =>
      rw [tried] at ended
      cases result with
      | error failure =>
        cases failure with
        | refused text =>
          cases ended
          exact (account.reported _).refuse _
        | cancelled text => cases ended
        | other text => cases ended
      | ok found =>
        obtain ⟨found, failures⟩ := found
        cases found with
        | none =>
          cases ended
          exact (account.reported _).refuse _
        | some candidate =>
          cases ended
          -- the candidate was prepared from one of the plans, under a path nobody has
          obtain ⟨plan, mem, path, made⟩ := tryPlans_some tried
          obtain ⟨prepared, fresh⟩ := prepareCandidate_ok made
          have among : plan ∈ plans := mem_sortedBy.mp mem
          exact (account.reported _).choose room fresh ⟨⟨plans, plan, listed, among, path, prepared⟩⟩

/-- The loop inspects the models in order, until three are chosen or the budget is used up. -/
lemma queueLoop_spec (account : QueueAccount env hardware requirements backend met state)
    (ended : queueLoop env hardware requirements backend rest met.length state = .ok (inspected, next))
    (budget : met.length ≤ Application.maxVariantDeepInspection) :
    ∃ more left, rest = more ++ left ∧ inspected = met.length + more.length ∧
      QueueAccount env hardware requirements backend (met ++ more) next ∧
      inspected ≤ Application.maxVariantDeepInspection ∧
      (left = [] ∨ next.chosen.length = maxQualityCandidates ∨ inspected = Application.maxVariantDeepInspection) := by
  induction rest generalizing met state with
  | nil =>
    cases ended
    exact ⟨[], [], rfl, rfl, by rw [List.append_nil]; exact account, budget, .inl rfl⟩
  | cons recommendation rest ih =>
    rw [queueLoop] at ended
    split_ifs at ended with stop
    · cases ended
      exact ⟨[], recommendation :: rest, rfl, rfl, by rw [List.append_nil]; exact account, budget, .inr stop⟩
    · rw [not_or] at stop
      obtain ⟨middle, step, ended⟩ := bind_eq_ok.mp ended
      have account' := account.step stop.1 step
      have longer : (met ++ [recommendation]).length = met.length + 1 := by
        rw [List.length_append, List.length_singleton]
      rw [← longer] at ended
      obtain ⟨more, left, rfl, count, account'', most, why⟩ := ih account' ended (by omega)
      refine ⟨recommendation :: more, left, rfl, ?_, ?_, most, why⟩
      · rw [count, longer, List.length_cons]
        omega
      · rw [List.append_assoc] at account''
        exact account''

/-- The notice of the models that were not inspected, if there are any. -/
def leftOut (pool : List ModelRecommendation) (inspected : ℕ) : List String :=
  if inspected < pool.length then [notInspected (pool.length - inspected)] else []

/-- What is offered for a quick run, of the models that were inspected. -/
structure OffersQueued (env : PreparationEnv) (hardware : HardwareProfile) (requirements : UserRequirements)
    (backend : ComputeBackend) (pool : List ModelRecommendation) (inspected : ℕ)
    (selection : QualityCandidateSelection) : Prop where
  few : selection.candidates.length ≤ maxQualityCandidates
  distinct : (selection.candidates.map PreparedCandidate.digest).Nodup
  /-- each inspected model comes to one candidate, a GGUF of it that is prepared, or to one notice under its name; these
  are the candidates and the notices, in the order of the models, and one more notice counts the models left out -/
  judged : ∃ verdicts notices,
    List.Forall₂ (Inspected env hardware requirements backend) (pool.take inspected) verdicts ∧
    verdicts.foldl Sifted.enter {} = ⟨selection.candidates, notices⟩ ∧
    selection.notices = notices ++ leftOut pool inspected
  budget : inspected ≤ Application.maxVariantDeepInspection
  /-- the inspection ends early for two reasons only -/
  stopped : inspected < pool.length → selection.candidates.length = maxQualityCandidates ∨
    inspected = Application.maxVariantDeepInspection
  inspected_le : inspected ≤ pool.length
  considered : selection.considered = pool.length

/-- The account of the models that were inspected is that of the selection. -/
lemma offersQueued_of_account {more left : List ModelRecommendation} {selection : QualityCandidateSelection}
    (split : pool = more ++ left)
    (account : QueueAccount env hardware requirements backend more state)
    (budget : more.length ≤ Application.maxVariantDeepInspection)
    (why : left = [] ∨ state.chosen.length = maxQualityCandidates ∨
      more.length = Application.maxVariantDeepInspection)
    (candidates : selection.candidates = state.chosen)
    (notices : selection.notices = state.notices ++ leftOut pool more.length)
    (considered : selection.considered = pool.length) :
    OffersQueued env hardware requirements backend pool more.length selection where
  few := candidates ▸ account.few
  distinct := candidates ▸ account.distinct
  judged := by
    obtain ⟨verdicts, each, entered⟩ := account.judged
    refine ⟨verdicts, state.notices, ?_, candidates ▸ entered, notices⟩
    rw [split, List.take_left' rfl]
    exact each
  budget := budget
  stopped := by
    intro short
    rw [candidates]
    rcases why with rfl | why
    · rw [split, List.append_nil] at short
      exact absurd short (Nat.lt_irrefl _)
    · exact why
  inspected_le := by
    rw [split, List.length_append]
    exact Nat.le_add_right _ _
  considered := considered

/-- A quick run offers at most three files, each once and each of a model that the search recommends: pinned to a
commit and prepared for the backend that was selected. Every model that was inspected is offered or has exactly one
notice, and the inspection ends early only when three are offered or its budget is used up. -/
theorem prepareCandidates_offers (env : PreparationEnv) (state : SearchState) (profile : QualityProfile)
    (requested : Option ComputeBackend) (hardware : HardwareProfile) (requirements : UserRequirements)
    (selection : QualityCandidateSelection) (reports : List String) (scanned : state.hardware = some hardware)
    (asked : state.requirements = some requirements) (quick : profile ≠ .ifeval)
    (ended : prepareCandidates env state profile requested = .ok (selection, reports)) :
    (∃ text, qualityBackendSelection hardware requested = .error text ∧ selection = { notices := [text] }) ∨
      ∃ placed pool inspected, qualityBackendSelection hardware requested = .ok placed ∧
        queuePool env state hardware requirements = .ok pool ∧
        OffersQueued env hardware requirements placed.selectedBackend pool inspected selection := by
  rw [prepareCandidates, scanned, asked] at ended
  dsimp only at ended
  rw [if_neg quick] at ended
  obtain ⟨start, first, ended⟩ := bind_eq_ok.mp ended
  obtain ⟨_, rfl⟩ := report_eq_ok first
  cases place : qualityBackendSelection hardware requested with
  | error text =>
    rw [place] at ended
    obtain ⟨rfl, _⟩ := Prod.mk.inj (Except.ok.inj ended)
    exact .inl ⟨text, rfl, rfl⟩
  | ok placed =>
    rw [place] at ended
    obtain ⟨pool, pooled, ended⟩ := bind_eq_ok.mp ended
    obtain ⟨⟨inspected, last⟩, looped, ended⟩ := bind_eq_ok.mp ended
    obtain ⟨ready, report, ended⟩ := bind_eq_ok.mp ended
    obtain ⟨_, rfl⟩ := report_eq_ok report
    obtain ⟨rfl, _⟩ := Prod.mk.inj (Except.ok.inj ended)
    obtain ⟨more, left, split, count, account, budget, why⟩ :=
      queueLoop_spec (queueAccount_start _ _ _ _ _) looped (Nat.zero_le _)
    rw [List.length_nil, Nat.zero_add] at count
    subst count
    refine .inr ⟨placed, pool, more.length, rfl, pooled, offersQueued_of_account split account budget why ?_ ?_ rfl⟩
    · split_ifs
      · rfl
      · rfl
    · rw [leftOut]
      split_ifs
      · rfl
      · exact (List.append_nil _).symm

/-- Two models of the example are queued, and one is refused. -/
theorem prepareCandidates_offers_sample :
    ∃ placed pool inspected selection, qualityBackendSelection sampleMachine none = .ok placed ∧
      selection.summary = (["org/model-GGUF", "org/other-GGUF"], 1) ∧
      OffersQueued sampleEnv sampleMachine sampleRequest placed.selectedBackend pool inspected selection := by
  obtain ⟨result, ended⟩ : ∃ result, prepareCandidates sampleEnv sampleSearch .smoke none = .ok result :=
    ⟨_, rfl⟩
  have two : result.1.summary = (["org/model-GGUF", "org/other-GGUF"], 1) := by
    cases ended
    rfl
  rcases prepareCandidates_offers sampleEnv sampleSearch .smoke none sampleMachine sampleRequest result.1 result.2 rfl
    rfl (by decide) ended with ⟨text, failed, _⟩ | ⟨placed, pool, inspected, place, _, offers⟩
  · cases failed
  · exact ⟨placed, pool, inspected, result.1, place, two, offers⟩

end Queue

end Jaull.Advisor
