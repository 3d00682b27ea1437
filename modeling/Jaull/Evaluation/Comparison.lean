import Jaull.Evaluation.Records
import Jaull.Lib.StableSort
import Mathlib.Data.List.Lex

/-!
# Comparison of quality records

Port of `jaull/evaluation/quality_comparison.py`: two validated records side by side, task metric by task
metric. Divisions are exact. The generator behind the bootstrap is any sequence of indices that its seed
and the number of values determine.
-/

namespace Jaull.Evaluation
open Jaull.Lib

/-- A seeded generator of indices (Python `random.Random(seed).choices`): the place drawn at a step from
`count` values. -/
structure Generator where
  draw : (seed count step : ℕ) → ℕ
  draw_lt : ∀ seed count step, 0 < count → draw seed count step < count

/-- Python `_BOOTSTRAP_REPLICATES`. -/
def bootstrapReplicates : ℕ :=
  2000

/-- Python `_COMPARED_FIELDS`. -/
def comparedFields : List String :=
  ["suite", "dataset", "samples", "evaluator", "runtime", "protocol"]

section Keys

/-- The runtime without what its probe saw of the device. -/
def comparableRuntime (value : Json) : Except PyError Json := do
  let observable ← lifted (value.holds "execution")
  if observable then do
    let execution ← (← lifted (value.field "execution")).entries
    return .obj (dictSet (value.dict?.getD []) "execution"
      (.obj (execution.filter fun entry => entry.1 ≠ .text "capability_sha256")))
  else return value

/-- Python `_comparable`. -/
def comparable (identity : Json) (field : String) : Except PyError Json := do
  let value ← lifted (identity.field field)
  if field = "runtime" then comparableRuntime value
  else if field = "evaluator" ∧ identityMode identity = some generationMode then do
    return .obj ((← value.entries).filter fun entry => entry.1 ≠ .text "chat_template_sha256")
  else return value

/-- The compared fields of an identity, normalised. -/
def comparableFields (identity : Json) : List String → Except PyError (List (PyString × Json))
  | [] => .ok []
  | field :: fields => do
    let value ← comparable identity field
    return (.text field, value) :: (← comparableFields identity fields)

/-- Python `comparison_key`. -/
def comparisonKey (env : Surroundings) (record : Json) : Except PyError String := do
  let identity ← lifted (record.field "identity")
  let fields ← comparableFields identity comparedFields
  let version ← lifted (record.field "schema_version")
  let classification ← lifted (record.field "classification")
  lifted (digest env (.obj (fields ++
    [(.text "schema_version", version), (.text "classification", classification)])))

/-- The digests of the compared fields. -/
def fieldDigests (env : Surroundings) (identity : Json) :
    List String → Except PyError (List (String × String))
  | [] => .ok []
  | field :: fields => do
    let sha ← lifted (digest env (← comparable identity field))
    return (field, sha) :: (← fieldDigests env identity fields)

/-- Python `comparison_fields`. -/
def comparisonFields (env : Surroundings) (record : Json) :
    Except PyError (List (String × String)) := do
  let identity ← lifted (record.field "identity")
  let fields ← fieldDigests env identity comparedFields
  let version ← lifted (digest env (← lifted (record.field "schema_version")))
  let classification ← lifted (digest env (← lifted (record.field "classification")))
  return fields ++ [("schema_version", version), ("classification", classification)]

end Keys

section Checks

/-- Whether two records agree in a field. -/
structure Check where
  field : String
  agrees : Bool
  deriving DecidableEq, Repr

/-- The checks of the compared fields. -/
def fieldChecks (env : Surroundings) (left right : Json) : List String → Except PyError (List Check)
  | [] => .ok []
  | field :: fields => do
    let leftSha ← lifted (digest env (← comparable left field))
    let rightSha ← lifted (digest env (← comparable right field))
    return ⟨field, leftSha = rightSha⟩ :: (← fieldChecks env left right fields)

/-- The checks of Python `compare_quality_records`. -/
def comparisonChecks (env : Surroundings) (left right : Json) : Except PyError (List Check) := do
  let checks ← fieldChecks env (← lifted (left.field "identity")) (← lifted (right.field "identity"))
    comparedFields
  let version := pyEq (← lifted (left.field "schema_version")) (← lifted (right.field "schema_version"))
  let classification :=
    pyEq (← lifted (left.field "classification")) (← lifted (right.field "classification"))
  return checks ++ [⟨"schema_version", version⟩, ⟨"classification", classification⟩]

/-- Python `a or b`. -/
def either (first second : Except Refusal Bool) : Except Refusal Bool := do
  if ← first then return true else second

/-- Whether a record only proves that the plumbing works. -/
def isPlumbing (record : Json) : Except Refusal Bool := do
  let classification ← record.field "classification"
  if pyEq classification (.str "plumbing") then return true
  else isOneOf (← taskOf (← record.field "identity")) plumbingSuites

/-- Whether a record is about a selection of samples. -/
def isLimited (record : Json) : Except Refusal Bool := do
  let classification ← record.field "classification"
  let identity ← record.field "identity"
  if pyEq classification (.str "limited") then return true
  else
    either (do isOneOf (← taskOf identity) nonReusableSuites) do
      let dataset ← identity.field "dataset"
      let used ← (← dataset.field "sample_ids").size
      return (used : ℚ) < (← dataset.field "total_samples").number.getD 0

end Checks

section Uncertainty

/-- A bootstrap interval, with what is said about it. -/
structure Interval where
  method : String
  confidenceLevel : ℚ
  replicates : ℕ
  seed : ℕ
  lower : ℚ
  upper : ℚ
  limitation : String
  deriving DecidableEq, Repr

/-- `Uncertainty`: not estimated here, and why. -/
inductive Uncertainty
  | notEstimated (reason : String)
  | estimated (interval : Interval)
  deriving DecidableEq, Repr

/-- The mean of the values that a replicate draws. -/
def replicateMean (rng : Generator) (seed : ℕ) (values : List ℤ) (replicate : ℕ) : ℚ :=
  let count := values.length
  ((List.range count).map fun step =>
    (values.getD (rng.draw seed count (replicate * count + step)) 0 : ℚ)).sum / count

/-- The means of all replicates in ascending order. -/
def bootstrapEstimates (rng : Generator) (seed : ℕ) (values : List ℤ) : List ℚ :=
  sortedBy id ((List.range bootstrapReplicates).map (replicateMean rng seed values))

/-- Python `_uncertainty`. -/
def uncertainty (rng : Generator) (pairedDifferences : List ℤ) (limited plumbing : Bool) (seed : ℕ) :
    Uncertainty :=
  if plumbing then .notEstimated "plumbing evaluation"
  else if !limited then
    .notEstimated "full fixed benchmark split; score is exact for this split"
  else if pairedDifferences.length < 2 ∨ pairedDifferences.dedup.length < 2 then
    .notEstimated "paired outcomes have too little variation for bootstrap resampling"
  else
    let estimates := bootstrapEstimates rng seed pairedDifferences
    .estimated
      { method := "paired percentile bootstrap"
        confidenceLevel := 95 / 100
        replicates := bootstrapReplicates
        seed := seed
        lower := estimates.getD 50 0
        upper := estimates.getD 1950 0
        limitation := "Exploratory interval for this sample; not a general-quality verdict." }

end Uncertainty

section Tasks

/-- What a record reports of a metric. -/
structure Side where
  value : Json
  correct : ℤ
  samples : ℕ
  deriving DecidableEq, Repr

/-- `TaskComparison`. -/
structure TaskComparison where
  task : Json
  metric : String
  left : Side
  right : Side
  leftMinusRight : ℚ
  percentagePoints : ℚ
  leftOnlyCorrect : ℕ
  rightOnlyCorrect : ℕ
  bothSame : ℕ
  uncertainty : Uncertainty
  deriving DecidableEq, Repr

/-- A rational without its fraction. -/
def truncated (q : ℚ) : ℤ :=
  if q < 0 then ⌈q⌉ else ⌊q⌋

/-- Python `int(item)` of a number; a validated outcome is nothing else. -/
def intOf : Json → Except PyError ℤ
  | .float .nan => .error (.refused (.value "cannot convert float NaN to integer"))
  | .float (.infinity _) => .error .overflow
  | value => value.number.elim (.error (.refused .type)) fun q => .ok (truncated q)

/-- Python `sample[metric]` as the outcomes it holds: one, or one for each instruction. -/
def sampleOutcomes (metric : String) (sample : Json) : Except PyError (List ℤ) := do
  let value ← lifted (sample.field metric)
  if metric ∈ instructionMetrics then do (← lifted value.members).mapM intOf
  else return [← intOf value]

/-- The outcomes of a metric in all samples, one after the other. -/
def flatOutcomes (metric : String) : List Json → Except PyError (List ℤ)
  | [] => .ok []
  | sample :: samples => do
    let outcomes ← sampleOutcomes metric sample
    return outcomes ++ (← flatOutcomes metric samples)

/-- The outcomes of a record in a metric of a task. -/
def recordOutcomes (record task : Json) (metric : String) : Except PyError (List ℤ) := do
  let samples ← taskTable (← lifted (record.field "result")) task "samples"
  flatOutcomes metric (← lifted samples.members)

/-- What a record says of a metric of a task, with its outcomes. -/
def sideOf (record task : Json) (metric : String) : Except PyError (Side × List ℤ) := do
  let flat ← recordOutcomes record task metric
  let results ← taskTable (← lifted (record.field "result")) task "results"
  let value ← lifted (results.field (metric ++ ",none"))
  return (⟨value, flat.sum, flat.length⟩, flat)

/-- Python `[left - right for left, right in zip(…, strict=True)]`. -/
def pairDifferences : List ℤ → List ℤ → Except PyError (List ℤ)
  | [], [] => .ok []
  | left :: lefts, right :: rights => (pairDifferences lefts rights).map ((left - right) :: ·)
  | _, _ => .error (.refused (.value "zip() arguments differ in length"))

/-- Python `sum(values) / len(values)`. -/
def mean (values : List ℤ) : Except PyError ℚ :=
  if values = [] then .error .division else .ok (values.sum / values.length)

/-- The comparison of a metric. -/
def compareTask (rng : Generator) (left right task : Json) (limited plumbing : Bool) (seed : ℕ)
    (metric : String) : Except PyError TaskComparison := do
  let leftSide ← sideOf left task metric
  let rightSide ← sideOf right task metric
  let paired ← pairDifferences leftSide.2 rightSide.2
  let difference ← mean paired
  return {
    task := task
    metric := metric
    left := leftSide.1
    right := rightSide.1
    leftMinusRight := difference
    percentagePoints := difference * 100
    leftOnlyCorrect := paired.count 1
    rightOnlyCorrect := paired.count (-1)
    bothSame := paired.count 0
    uncertainty :=
      if metric ∈ instructionMetrics then
        .notEstimated ("instructions are clustered within prompts; resampling them " ++
          "independently would overstate precision")
      else uncertainty rng paired limited plumbing seed }

/-- Python `int(text[:16], 16)` of a hex digest. -/
def seedOf (sha : String) : ℕ :=
  (sha.toList.take 16).foldl (fun n c => 16 * n + (if c ≤ '9' then c.toNat - 48 else c.toNat - 87)) 0

/-- Python `sorted([a, b])` of strings. -/
def sortedPair (a b : PyString) : List Json :=
  if b.codes < a.codes then [.str b, .str a] else [.str a, .str b]

/-- Python `sorted([a, b])`; numbers and strings have no order among them. -/
def sortedDigests : Json → Json → Except Refusal (List Json)
  | .str a, .str b => .ok (sortedPair a b)
  | _, _ => .error .type

/-- The seed that two records share. -/
def comparisonSeed (env : Surroundings) (left right : Json) : Except Refusal ℕ := do
  let pair ← sortedDigests (← left.field "identity_sha256") (← right.field "identity_sha256")
  return seedOf (← digest env (.arr pair))

/-- The compared metrics of a mode. -/
def comparedMetrics (identity : Json) : List String :=
  if identityMode identity = some generationMode then promptMetrics ++ instructionMetrics
  else scoringMetrics

/-- The metrics of two records, if they are comparable. -/
def compareTasks (env : Surroundings) (rng : Generator) (left right : Json)
    (comparable limited plumbing : Bool) : Except PyError (List TaskComparison) :=
  if !comparable then .ok [] else do
    let identity ← lifted (left.field "identity")
    let task ← lifted (taskOf identity)
    let seed ← lifted (comparisonSeed env left right)
    (comparedMetrics identity).mapM (compareTask rng left right task limited plumbing seed)

end Tasks

section Records

/-- `ComparisonStatus`. -/
inductive ComparisonStatus
  | notComparable
  | comparablePlumbing
  | comparableLimited
  | comparableDiagnostic
  deriving DecidableEq, Repr

/-- Where a side of a comparison comes from. -/
structure RecordProvenance where
  side : String
  recordPath : String
  recordSha256 : String
  identity : Json
  hardware : Json
  deriving DecidableEq, Repr

/-- `QualityComparison`. -/
structure Comparison where
  schemaVersion : ℕ
  purpose : String
  status : ComparisonStatus
  checks : List Check
  reasons : List String
  limitations : List String
  provenance : List RecordProvenance
  perTask : List TaskComparison
  deriving DecidableEq, Repr

/-- The provenance of a side. -/
def provenanceOf (env : Surroundings) (side source : String) (record : Json) :
    Except Refusal RecordProvenance := do
  let sha ← digest env record
  let identity ← record.field "identity"
  let hardware ← (← record.field "provenance").field "hardware"
  return ⟨side, source, sha, identity, hardware⟩

/-- The status of a comparison. -/
def statusOf (comparable plumbing limited : Bool) : ComparisonStatus :=
  if !comparable then .notComparable
  else if plumbing then .comparablePlumbing
  else if limited then .comparableLimited
  else .comparableDiagnostic

/-- What a comparison does not say. -/
def limitationsOf (plumbing limited : Bool) : List String :=
  [if plumbing then
      "Limited evaluations are plumbing checks, not publishable or reusable quality evidence."
    else if limited then
      "Subset diagnostics, not a full benchmark or general-quality verdict."
    else "Full per-task diagnostics; no aggregate or suitability score.",
    "Artifacts include model weights, quantization and tokenizers; no base-model verdict.",
    "Hardware is provenance; no evaluation duration or inference-speed comparison."]

/-- Python `compare_quality_records`. -/
def compareQualityRecords (env : Surroundings) (rng : Generator) (left right : Json)
    (leftSource rightSource : String) : Except PyError Comparison := do
  validateRecord env left
  validateRecord env right
  let checks ← comparisonChecks env left right
  let comparable := checks.all (·.agrees)
  let plumbing ← lifted (either (isPlumbing left) (isPlumbing right))
  let limited ← lifted (either (isLimited left) (isLimited right))
  let perTask ← compareTasks env rng left right comparable limited plumbing
  let leftProvenance ← lifted (provenanceOf env "left" leftSource left)
  let rightProvenance ← lifted (provenanceOf env "right" rightSource right)
  return {
    schemaVersion := 1
    purpose := "diagnostic_only"
    status := statusOf comparable plumbing limited
    checks := checks
    reasons := checks.map fun check =>
      check.field ++ (if check.agrees then " matches" else " differs; comparison withheld")
    limitations := limitationsOf plumbing limited
    provenance := [leftProvenance, rightProvenance]
    perTask := perTask }

end Records

end Jaull.Evaluation
