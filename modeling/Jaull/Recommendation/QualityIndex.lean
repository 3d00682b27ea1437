import Jaull.Evaluation.Evidence
import Jaull.Lib.Grouping
import Jaull.Recommendation.Quality

/-!
# The index of quality records

Port of Python `index_quality_records`: records that are validated, digested and audited once, grouped by
the digest of their artifact.
-/

namespace Jaull.Recommendation
open Jaull.Domain Jaull.Evaluation Jaull.Lib

section Audit

/-- Python `IFEVAL_SUITE_SHA256`. -/
def ifevalSuiteSha256 : Json :=
  .str "2822c4af6d1274027884bcb825610a48a060ce58d9714051cb48fd51bde1a9c8"

/-- Python `IFEVAL_DATASET`. -/
def ifevalDataset : Json :=
  .obj [("repo", .str "google/IFEval"), ("revision", .str "966cd89545d6b6acfd7638bc708b98261ca58e84"),
    ("sha256", .str "6a85310ca8ce15eff755aa08a3a4ff931c7e273e7515ebb3c492ea85fd8288f2"),
    ("total_samples", .int 541), ("sample_ids", .arr ((List.range 541).map fun id : ℕ => Json.int id))]

/-- Python `IFEVAL_EVALUATOR_COMMIT`. -/
def ifevalEvaluatorCommit : Json :=
  .str "ad8737ae7fad24cf64e50fc7fc31397bff586b9e"

/-- Python `IFEVAL_SOURCES_SHA256`. -/
def ifevalSourcesSha256 : String :=
  "97d0fb7fe8ea896a9e54b5042b7e0feb21b8cbb1d75b4b92d03f778d068fc850"

/-- Python `IFEVAL_SERVER_SHA256`. -/
def ifevalServerSha256 : Json :=
  .str "cdb0749a2cffc6f2fe710a9616263f90e6a016e8ac07a9caa5be160fc2c5d98e"

/-- Python `a and b and …`. -/
def allOf : List (Except Refusal Bool) → Except Refusal Bool
  | [] => .ok true
  | test :: tests => do both (← test) (allOf tests)

/-- Python `value[name] == expected`. -/
def fieldIs (value : Json) (name : String) (expected : Json) : Except Refusal Bool := do
  return pyEq (← value.field name) expected

/-- Python `_audited_ifeval`. -/
def auditedIfeval (env : Surroundings) (identity : Json) : Except Refusal Bool := do
  let evaluator ← identity.field "evaluator"
  allOf [
    .ok (identityMode identity = some (.text "chat_generation")),
    do fieldIs (← identity.field "suite") "sha256" ifevalSuiteSha256,
    fieldIs identity "dataset" ifevalDataset,
    fieldIs evaluator "suite_sha256" ifevalSuiteSha256,
    fieldIs evaluator "evaluator_commit" ifevalEvaluatorCommit,
    do return (← digest env (← evaluator.field "source_sha256")) = ifevalSourcesSha256,
    fieldIs evaluator "context" (.int 4096),
    fieldIs evaluator "langdetect_seed" (.int 0),
    do fieldIs (← identity.field "runtime") "server_sha256" ifevalServerSha256,
    do fieldIs (← identity.field "runtime") "fingerprint" (.str "b10357-689e227db")]

end Audit

section Index

/-- A record with its digest and its comparison keys. -/
def indexed (env : Surroundings) (record : Json) : Except PyError QualityRecord := do
  let evidence ← describeRecord env record
  let sha ← lifted (digest env record)
  let cohort ← comparisonKey env record
  let audited ← lifted (auditedIfeval env (← lifted (record.field "identity")))
  let key ← repeatKey env record
  return { evidence := evidence, recordSha256 := sha, cohort := cohort, audited := audited
           repeatKey := key }

/-- A record joins the index, or is counted as invalid. -/
def addRecord (env : Surroundings) (index : QualityRecordIndex) (record : Json) :
    Except PyError QualityRecordIndex :=
  match indexed env record with
  | .ok item =>
    .ok { index with byArtifact := addTo index.byArtifact item.evidence.artifactSha256 item }
  | .error (.refused _) => .ok { index with invalid := index.invalid + 1 }
  | .error .attribute => .ok { index with invalid := index.invalid + 1 }
  | .error error => .error error

/-- Python `index_quality_records`. -/
def indexQualityRecords (env : Surroundings) (records : List Json) :
    Except PyError QualityRecordIndex :=
  records.foldlM (addRecord env) {}

end Index

end Jaull.Recommendation
