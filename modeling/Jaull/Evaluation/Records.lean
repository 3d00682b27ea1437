import Jaull.Evaluation.Identity

/-!
# Quality records

Port of `validate_record` and its parts in `jaull/evaluation/quality_records.py`. The record validator is
cut into the stretches between the places where it calls other validators or indexes by the task.
-/

namespace Jaull.Evaluation
open Jaull.Lib

/-- The tables of a result that the task indexes, with the selected sample ids. -/
structure TaskResults where
  ids : List Json
  samples : List Json
  results : Json
  deriving Repr

section Shared

/-- The part of both record validators on the hardware and the identity digest. -/
def validateChecksum (env : Surroundings) (record identity : Json) : Except Refusal Unit := do
  refuseIf (!(← (← record.field "provenance").field "hardware").truthy) "Missing hardware provenance"
  refuseIf (!pyEq (← record.field "identity_sha256") (.str (← digest env identity)))
    "Identity checksum mismatch"

/-- The text of raw results that do not belong to their identity. -/
def mismatchedResults : String :=
  "Incomplete/mismatched raw results"

/-- Python `identity["suite"]["name"]`. -/
def taskOf (identity : Json) : Except Refusal Json := do
  (← identity.field "suite").field "name"

/-- Python `identity["dataset"]["sample_ids"]`. -/
def idsOf (identity : Json) : Except Refusal (List Json) := do
  return (← (← identity.field "dataset").field "sample_ids").list?.getD []

/-- Python `result[table][task]`. -/
def taskTable (result task : Json) (table : String) : Except PyError Json := do
  (← lifted (result.field table)).item task

/-- Whether the counts of a task are those of the dataset. -/
def countsAre (identity : Json) (ids : List Json) (counts : Json) : Except Refusal Bool := do
  let total ← (← identity.field "dataset").field "total_samples"
  return pyEq counts (.obj [("original", total), ("effective", .int ids.length)])

/-- Python `{key: sample[key] for key in expected}`. -/
def pick (sample : Json) : List (PyString × Json) → Except Refusal (List (PyString × Json))
  | [] => .ok []
  | (key, _) :: rest =>
    match sample with
    | .obj fields =>
      match fields.lookup key with
      | some value => (pick sample rest).map ((key, value) :: ·)
      | none => .error .key
    | _ => .error .type

/-- Every sample repeats what the identity says of it. -/
def matchSamples : List Json → List Json → Except Refusal Unit
  | [], [] => .ok ()
  | sample :: samples, expected :: rest => do
    let fields := expected.dict?.getD []
    refuseIf (!pyEq (.obj (← pick sample fields)) (.obj fields)) mismatchedResults
    matchSamples samples rest
  | _, _ => .error (.value "zip() arguments differ in length")

/-- Whether the samples of a task are those selected. -/
def samplesAre (ids samples : Json) : Except Refusal Bool := do
  return pyEqItems (← docIds (← samples.members)) (ids.list?.getD [])

/-- A metric that a task reports: a finite share, and the one that its samples give. -/
def validateMetric (results : Json) (name : String) (expected : ℚ) : Except PyError Unit := do
  let value ← lifted (results.field (name ++ ",none"))
  let invalid := "Invalid/missing task metric"
  lifted (refuseIf (!value.isNumber) invalid)
  lifted (refuseIf (!(← isFinite value)) invalid)
  let share := value.number.getD 0
  lifted (refuseIf (!(0 ≤ share && share ≤ 1)) invalid)
  lifted (refuseIf (1 / 10 ^ 12 < |share - expected|)
    "Saved metric differs from completed per-sample results")

/-- The share of a sum. -/
def shareOf (values : List Json) : ℚ :=
  (values.map fun value => value.number.getD 0).sum / values.length

end Shared

section Scoring

/-- What an observable runtime is recorded for. -/
def validateDiagnostic (record identity : Json) : Except Refusal Unit := do
  let diagnostic := "Observable runtime v2 is diagnostic HellaSwag only"
  refuseIf (!(← isOneOf (← taskOf identity)
    [.str "jaull-quality-smoke-v1", .str "jaull-hellaswag-100-v1"])) diagnostic
  refuseIf (!(← isOneOf (← record.field "classification") [.str "plumbing", .str "limited"]))
    diagnostic

/-- The checks of Python `validate_record` in front of the identity, with the identity and whether it
describes its runtime. -/
def scoringHead (record : Json) : Except Refusal (Json × Bool) := do
  let version ← record.field "schema_version"
  let unsupported := "Unsupported/unfinished result record"
  refuseIf (!(← isOneOf version [.int 1, .int 3])) unsupported
  refuseIf (!pyEq (← record.field "status") (.str "completed")) unsupported
  let identity ← record.field "identity"
  refuseIf (identityMode identity ≠ some (.text "loglikelihood"))
    "A schema 1 record must describe loglikelihood scoring"
  let observable ← (← identity.field "runtime").holds "execution"
  refuseIf (observable ≠ pyEq version (.int 3)) "Observable runtime requires explicit record schema 3"
  doIf observable (validateDiagnostic record identity)
  return (identity, observable)

/-- The evidence of an observable runtime (`record["provenance"].get("evidence", {})`). -/
def validateEvidence (env : Surroundings) (record identity : Json) : Except PyError Unit := do
  let runtime ← lifted (identity.field "runtime")
  let provenance ← (← lifted (record.field "provenance")).entries
  validateRuntimeObservation env runtime ((provenance.lookup (.text "evidence")).getD (.obj [])) 2048

/-- The metrics of a likelihood sample. -/
def scoringMetrics : List String :=
  ["acc", "acc_norm"]

/-- The tables of a scoring result. -/
def scoringResults (record identity : Json) : Except PyError TaskResults := do
  let result ← lifted (record.field "result")
  let task ← lifted (taskOf identity)
  let ids ← lifted (idsOf identity)
  let classification ← lifted (record.field "classification")
  lifted (refuseIf (!classifications.any (pyEq classification)) mismatchedResults)
  let counts ← taskTable result task "n-samples"
  lifted (refuseIf (!(← lifted (countsAre identity ids counts))) mismatchedResults)
  let samples ← taskTable result task "samples"
  lifted (refuseIf (!(← lifted (samplesAre (.arr ids) samples))) mismatchedResults)
  let results ← taskTable result task "results"
  lifted (refuseIf (!results.truthy) mismatchedResults)
  let configs ← taskTable result task "configs"
  lifted (refuseIf (!configs.truthy) mismatchedResults)
  let members ← lifted samples.members
  lifted (matchSamples members ((← lifted (identity.field "samples")).list?.getD []))
  return ⟨ids, members, results⟩

/-- Python `sample[metric] not in (0, 1)` for some metrics. -/
def requireBinary (sample : Json) (text : String) : List String → Except Refusal Unit
  | [] => .ok ()
  | metric :: metrics => do
    let value ← sample.field metric
    refuseIf (!(pyEq value (.int 0) || pyEq value (.int 1))) text
    requireBinary sample text metrics

/-- The responses of a likelihood sample, with all their scores. -/
def scoresOf (sample : Json) : Except Refusal (List Json) := do
  let incomplete := "Incomplete sample responses/metrics"
  let replies ← sample.field "resps"
  refuseIf ((← replies.size) ≠ (← (← sample.field "arguments").size)) incomplete
  let filtered ← sample.field "filtered_resps"
  refuseIf ((← filtered.size) ≠ (← (← sample.field "arguments").size)) incomplete
  requireBinary sample incomplete scoringMetrics
  refuseIf (← sample.holds "error") incomplete
  let repeats ← replies.members
  refuseIf (repeats.any fun scores => (scores.list?.getD []).isEmpty) "Missing continuation scores"
  -- A list can only be joined with a list.
  let scores ← filtered.list?.elim (.error .type) .ok
  return (repeats.flatMap fun scores => scores.list?.getD []) ++ scores

/-- Python `value > 0` of an integer or a float. -/
def isPositive : Json → Bool
  | .int n => 0 < n
  | .float x => x.isPositive
  | _ => false

/-- A continuation score: a finite number that is not positive, and a flag. -/
def validateScore (score : Json) : Except PyError Unit := do
  let invalid := "Invalid/missing continuation score"
  match score with
  | .arr [value, flag] =>
    lifted (refuseIf (!value.isNumber) invalid)
    lifted (refuseIf (!(← isFinite value)) invalid)
    lifted (refuseIf (isPositive value) invalid)
    lifted (refuseIf (!(flag = .bool true || flag = .bool false)) invalid)
  | _ => lifted (refuseIf true invalid)

/-- What each sample of a scoring result must be. -/
def validateScoringSample (sample : Json) : Except PyError Unit := do
  (← lifted (scoresOf sample)).forM validateScore

/-- A field of every sample; all of them have it. -/
def column (samples : List Json) (name : String) : List Json :=
  samples.map fun sample => getField (sample.dict?.getD []) name

/-- Python `validate_record` of a record that is no generation record. -/
def validateScoringRecord (env : Surroundings) (record : Json) : Except PyError Unit := do
  let head ← lifted (scoringHead record)
  validateIdentity env head.1
  doIf head.2 (validateEvidence env record head.1)
  lifted (validateChecksum env record head.1)
  let tables ← scoringResults record head.1
  tables.samples.forM validateScoringSample
  scoringMetrics.forM fun metric =>
    validateMetric tables.results metric (shareOf (column tables.samples metric))

end Scoring

section Generation

/-- The runtime of a generation record: an external one in schema 4 only. -/
def validateGenerationRuntime (env : Surroundings) (record runtime : Json) : Except PyError Unit := do
  if pyEq (← lifted (record.field "schema_version")) (.int 4) then do
    validateExternalExecution (← lifted (runtime.field "execution")) runtime
    let provenance ← lifted (record.field "provenance")
    validateExternalObservation env runtime (← lifted (provenance.field "evidence"))
  else
    lifted (refuseIf (← lifted (runtime.holds "execution"))
      "Generation retains its audited runtime protocol")

/-- The checks of Python `_validate_generation_record` in front of the identity. -/
def generationHead (env : Surroundings) (record : Json) : Except PyError Json := do
  lifted (refuseIf (!pyEq (← lifted (record.field "status")) (.str "completed"))
    "Unsupported/unfinished result record")
  let identity ← lifted (record.field "identity")
  validateGenerationRuntime env record (← lifted (identity.field "runtime"))
  lifted (refuseIf (identityMode identity ≠ some generationMode)
    "A schema 2 record must describe chat generation")
  return identity

/-- The tables of a generation result. -/
def generationResults (record identity : Json) : Except PyError TaskResults := do
  let result ← lifted (record.field "result")
  let task ← lifted (taskOf identity)
  let ids ← lifted (idsOf identity)
  let samples ← taskTable result task "samples"
  let classification ← lifted (record.field "classification")
  lifted (refuseIf (!classifications.any (pyEq classification)) mismatchedResults)
  let plumbing ← lifted (isOneOf task plumbingSuites)
  lifted (refuseIf (plumbing && !pyEq classification (.str "plumbing")) mismatchedResults)
  let counts ← taskTable result task "n-samples"
  lifted (refuseIf (!(← lifted (countsAre identity ids counts))) mismatchedResults)
  lifted (refuseIf (!(← lifted (samplesAre (.arr ids) samples))) mismatchedResults)
  let results ← taskTable result task "results"
  lifted (refuseIf (!results.truthy) mismatchedResults)
  let configs ← taskTable result task "configs"
  lifted (refuseIf (!configs.truthy) mismatchedResults)
  let members ← lifted samples.members
  lifted (matchSamples members ((← lifted (identity.field "samples")).list?.getD []))
  return ⟨ids, members, results⟩

/-- The document of a generation sample, which hashes to its identity. -/
def generationDocument (env : Surroundings) (sample : Json) : Except PyError Json := do
  let document ← lifted (sample.field "doc")
  -- Indented texts are written by an encoder in Python. Its walk over a value that was read meets no other
  -- error: no integer of it is too long to print.
  doIf (env.levels .document < document.depth) (.error .recursion)
  let text ← lifted (encoded (.indented 2) document)
  lifted (refuseIf (!pyEq (.str (env.sha256 text)) (← lifted (sample.field "doc_hash")))
    "Generation document differs from its prompt identity")
  return document

/-- Whether a value is a boolean. -/
def isBool : Json → Bool
  | .bool _ => true
  | _ => false

/-- The outcomes of a sample's instructions: as many as instructions, and all followed exactly when the
prompt counts as followed. -/
def validateOutcomes (sample : Json) (instructions : ℕ) : List (String × String) →
    Except Refusal Unit
  | [] => .ok ()
  | (promptMetric, instructionMetric) :: metrics => do
    let inconsistent := "Incomplete/inconsistent instruction outcomes"
    let followed := (← sample.field instructionMetric).list?
    refuseIf (followed.isNone || (followed.getD []).length ≠ instructions) inconsistent
    refuseIf (!(followed.getD []).all isBool) inconsistent
    refuseIf ((← sample.field promptMetric) ≠
      .bool ((followed.getD []).all fun outcome => outcome = .bool true)) inconsistent
    validateOutcomes sample instructions metrics

/-- The one reply to a generation sample. -/
def replyOf : Json → Option PyString
  | .arr [.arr [.str reply]] => some reply
  | _ => none

/-- The reply to a generation sample and the outcomes of its instructions. -/
def validateReplies (sample document : Json) : Except Refusal Unit := do
  let incomplete := "Incomplete sample responses"
  let reply := replyOf (← sample.field "resps")
  let instructions := (← document.field "instruction_id_list").list?.getD []
  refuseIf (← sample.holds "error") incomplete
  refuseIf reply.isNone incomplete
  refuseIf (!pyEq (← sample.field "filtered_resps") (.arr [.str (reply.getD "")])) incomplete
  refuseIf instructions.isEmpty incomplete
  validateOutcomes sample instructions.length (promptMetrics.zip instructionMetrics)

/-- What each sample of a generation result must be. -/
def validateGenerationSample (env : Surroundings) (sample : Json) : Except PyError Unit := do
  let content ← generationMessages env sample
  let document ← generationDocument env sample
  let fields ← document.entries
  lifted (refuseIf (!pyEq (getField fields "prompt") (.str content))
    "Generation document differs from its prompt identity")
  lifted (validateReplies sample document)

/-- Python `_generation_aggregates`. -/
def generationAggregates (samples : List Json) : List (String × ℚ) :=
  promptMetrics.map (fun name => (name, shareOf (column samples name))) ++
    instructionMetrics.map fun name =>
      (name, shareOf ((column samples name).flatMap fun outcomes => outcomes.list?.getD []))

/-- How many replies were cut off. -/
def validateOutcome (record : Json) (ids : List Json) : Except Refusal Unit := do
  let inconsistent := "Missing/inconsistent generation outcome"
  let outcome ← record.field "outcome"
  refuseIf (!(← outcome.setIs ["responses", "truncated"])) inconsistent
  let responses ← outcome.field "responses"
  refuseIf (!pyEq responses (.int ids.length)) inconsistent
  let truncated ← outcome.field "truncated"
  refuseIf (!truncated.isInt) inconsistent
  let count := truncated.number.getD 0
  refuseIf (!(0 ≤ count && count ≤ responses.number.getD 0)) inconsistent

/-- Python `_validate_generation_record`. -/
def validateGenerationRecord (env : Surroundings) (record : Json) : Except PyError Unit := do
  let identity ← generationHead env record
  validateIdentity env identity
  lifted (validateChecksum env record identity)
  let tables ← generationResults record identity
  tables.samples.forM (validateGenerationSample env)
  (generationAggregates tables.samples).forM fun metric =>
    validateMetric tables.results metric.1 metric.2
  lifted (validateOutcome record tables.ids)

end Generation

/-- Python `validate_record`. -/
def validateRecord (env : Surroundings) (record : Json) : Except PyError Unit := do
  let version := getField (← record.entries) "schema_version"
  let generation ← lifted (isOneOf version [.int 2, .int 4])
  if generation then validateGenerationRecord env record
  else validateScoringRecord env record

/-- Python `load_record`, from the text of the file on. -/
def loadRecord (env : Surroundings) (text : String) : Except PyError Json := do
  let envelope ← env.decode text
  let record ← lifted (envelope.field "record")
  validateRecord env record
  lifted (refuseIf (!pyEq (← lifted (envelope.field "record_sha256"))
    (.str (← lifted (digest env record)))) "Result record checksum mismatch")
  return record

end Jaull.Evaluation
