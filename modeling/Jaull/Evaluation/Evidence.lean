import Jaull.Domain.Records
import Jaull.Evaluation.Comparison
import Jaull.Evaluation.Store
import Mathlib.Data.String.Basic

/-!
# Evidence of quality records

Port of the reading half of `jaull/evaluation/quality_records.py` behind the validator: which records count,
which of them repeat each other and what is shown of them. Python `QualityEvidenceStore.lookup` is the strict
reader of the store. A name in a record that is no text is described by the empty one.
-/

namespace Jaull.Evaluation
open Jaull.Domain Jaull.Lib

section Reuse

/-- Python `first and second`. -/
def both (first : Bool) (second : Except Refusal Bool) : Except Refusal Bool :=
  if first then second else .ok false

/-- Python `dataset["sample_ids"] == list(range(dataset["total_samples"]))`. -/
def coversSplit (dataset : Json) : Except Refusal Bool := do
  let ids ← dataset.field "sample_ids"
  match (← dataset.field "total_samples").index? with
  | some total => return pyEq ids (.arr ((List.range total.toNat).map fun id : ℕ => Json.int id))
  | none => .error .type

/-- Python `is_reusable_evidence`. -/
def isReusableEvidence (record : Json) : Except Refusal Bool := do
  let identity ← record.field "identity"
  let dataset ← identity.field "dataset"
  let classification ← record.field "classification"
  both (pyEq classification (.str "full")) do
    let selected ← isOneOf (← taskOf identity) nonReusableSuites
    both (!selected) (coversSplit dataset)

/-- Python `repeat_key`. -/
def repeatKey (env : Surroundings) (record : Json) : Except PyError String := do
  let result ← lifted (record.field "result")
  let identity ← lifted (record.field "identity_sha256")
  let samples ← lifted (result.field "samples")
  let results ← lifted (result.field "results")
  let outcome := getField (← record.entries) "outcome"
  lifted (digest env (.obj [("identity_sha256", identity), ("samples", samples),
    ("results", results), ("outcome", outcome)]))

end Reuse

section Description

/-- The text of a value that is one. -/
def textOf : Json → String
  | .str (.text text) => text
  | _ => ""

/-- A number in a formatted string. -/
def formatted (value : Json) : Except Refusal String := do
  refuseIf (!value.leaves shortLeaf)
    "Exceeds the limit (4300 digits) for integer string conversion"
  match value with
  | .bool b => return if b then "True" else "False"
  | value => return String.ofList value.scalarText

/-- The outcomes that a metric counts: one for each sample, or one for each of its instructions. -/
def countedOutcomes (samples : List Json) (metric : String) : List Json :=
  if instructionMetrics.contains metric then
    (column samples metric).flatMap fun outcomes => outcomes.list?.getD []
  else column samples metric

/-- Python `int(sum(outcomes))`. -/
def countOf (outcomes : List Json) : ℕ :=
  let numbers : List ℚ := outcomes.map fun outcome => outcome.number.getD 0
  numbers.sum.floor.toNat

/-- A metric as it is shown. -/
def describeMetric (results : Json) (samples : List Json) (metric : String) :
    Except Refusal QualityMetric := do
  let value ← results.field (metric ++ ",none")
  let outcomes := countedOutcomes samples metric
  return { name := metric, value := value.number.getD 0, correct := countOf outcomes
           samples := outcomes.length }

/-- What is said of replies that were cut off. -/
def cutLimitations (outcome : Json) : Except Refusal (List String) := do
  let truncated ← outcome.field "truncated"
  if truncated.truthy then do
    let cut ← formatted truncated
    let all ← formatted (← outcome.field "responses")
    return [cut ++ " of " ++ all ++
      " replies reached the 1280-token cap and are scored as written."]
  else return []

/-- What is said of a chat. -/
def chatLimitations (record identity : Json) : Except Refusal (List String) :=
  if identityMode identity = some generationMode then do
    let cut ← cutLimitations (← record.field "outcome")
    return ["Scored under this artifact's own chat template with reasoning off; whatever " ++
        "that template adds, such as a default system prompt, is part of the result."] ++ cut ++
      ["Language checks use a seeded detector: Jaull's IFEval, not comparable with " ++
        "published IFEval figures."]
  else .ok []

/-- What is said of a selection of samples. -/
def splitLimitations (dataset : Json) : Except Refusal (List String) := do
  if ← coversSplit dataset then return []
  else do
    let used ← (← dataset.field "sample_ids").size
    return [toString used ++ " of " ++ (← formatted (← dataset.field "total_samples")) ++
      " samples. Too few samples to separate two models is not a tie, it is no answer."]

/-- What is said of a grade. -/
def gradeLimitations (classification : Json) : List String :=
  if pyEq classification (.str "limited") then
    ["Limited run: exploration, not a verdict. Report a margin, not a point."]
  else if !pyEq classification (.str "full") then
    ["Classified '" ++ textOf classification ++ "', so it is not reusable evidence."]
  else []

/-- The limits of a record. -/
def describeLimitations (record identity : Json) : Except Refusal (List String) := do
  let external := pyEq (← record.field "schema_version") (.int 4)
  let chat ← chatLimitations record identity
  let plumbing ← isOneOf (← taskOf identity) plumbingSuites
  let split ← splitLimitations (← identity.field "dataset")
  return (if external then
      ["Externally supplied Windows Vulkan server; Jaull did not launch it."] else []) ++
    chat ++
    (if plumbing then
      ["Plumbing suite: this run proves the protocol executes, not model quality."] else []) ++
    split ++ gradeLimitations (← record.field "classification") ++
    ["Measured under one placement. The same artifact under a different offload " ++
      "split produces different scores."]

/-- What Python `_evaluated_at` raises on a time stamp. -/
def checkStamp (result : Json) : Except PyError Unit := do
  let stamp := getField (← result.entries) "date"
  if stamp.magnitude.isSome then discard (isFinite stamp) else .ok ()

/-- Python `describe_record`. -/
def describeRecord (env : Surroundings) (record : Json) : Except PyError QualityEvidence := do
  validateRecord env record
  let identity ← lifted (record.field "identity")
  let dataset ← lifted (identity.field "dataset")
  let result ← lifted (record.field "result")
  let task ← lifted (taskOf identity)
  let samples ← lifted (← taskTable result task "samples").members
  let results ← taskTable result task "results"
  let metrics ← lifted ((comparedMetrics identity).mapM (describeMetric results samples))
  let limitations ← lifted (describeLimitations record identity)
  checkStamp result
  let reusable ← lifted (isReusableEvidence record)
  discard (comparisonFields env record)
  return { identitySha256 := textOf (← lifted (record.field "identity_sha256"))
           artifactSha256 := textOf (← lifted (identity.field "artifact_sha256"))
           suite := textOf task
           metrics := metrics
           samplesUsed := (← lifted (← lifted (dataset.field "sample_ids")).size)
           samplesAvailable := (← lifted (dataset.field "total_samples")).index?.getD 0
           classification := textOf (← lifted (record.field "classification"))
           reusable := reusable
           limitations := limitations }

end Description

section Lookup

/-- The reusable records of an identity among some ids, without those that the store refuses. -/
def reusableOf (env : Surroundings) (store : QualityStore) (sha : String) :
    List PyString → Except PyError (List Json)
  | [] => .ok []
  | id :: ids =>
    if id.codes ≠ codesOf sha ∧ ¬(codesOf (sha ++ "-") <+: id.codes) then reusableOf env store sha ids
    else
      match store.load env id with
      | .error (.store _) => reusableOf env store sha ids
      | .error (.escaped error) => .error error
      | .ok record => do
        let stated ← lifted (record.field "identity_sha256")
        let reusable ← lifted (both (pyEq stated (.str sha)) (isReusableEvidence record))
        let rest ← reusableOf env store sha ids
        return if reusable then record :: rest else rest

/-- Python `min(records, key=digest)["result"]`. -/
def representative (env : Surroundings) (records : List Json) : Except PyError (Option Json) := do
  let shas ← lifted (records.mapM (digest env))
  match sortedBy (·.1) (shas.zip records) with
  | (_, record) :: _ => return some (← lifted (record.field "result"))
  | [] => .ok none

/-- The one result of repeats with the same answers. -/
def agreed (env : Surroundings) (records : List Json) : Except PyError (Option Json) := do
  let keys ← records.mapM (repeatKey env)
  if keys.dedup.length ≠ 1 then .ok none else representative env records

/-- Python `QualityEvidenceStore.lookup`. -/
def QualityStore.lookup (env : Surroundings) (store : QualityStore) (identity : Json) :
    Except PyError (Option Json) :=
  match (do validateIdentity env identity; lifted (digest env identity)) with
  | .error (.refused _) => .ok none
  | .error .attribute => .ok none
  | .error error => .error error
  | .ok sha =>
    if !isRecordId sha || store.entries.lookup (sha : PyString) = some .outside then .ok none
    else reusableOf env store sha store.listIds >>= agreed env

end Lookup

end Jaull.Evaluation
