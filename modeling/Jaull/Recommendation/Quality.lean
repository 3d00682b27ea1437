import Mathlib.Data.String.Basic
import Jaull.Domain.Records
import Jaull.Lib.StableSort

/-!
# Quality evidence

Port of `jaull/recommendation/quality.py` over an index of validated records. A plan is read through the
digest of its artifact alone.
-/

namespace Jaull.Recommendation
open Jaull.Domain Jaull.Lib Jaull.Text

/-- The quality target a request asks for (Python `requested_profile`). -/
def requestedProfile (requirements : UserRequirements) : Option String :=
  let languages := requirements.languages.map fun language => casefold (strip language)
  if languages.isEmpty || languages.any (· ≠ "en") then none
  else
    match requirements.useCase with
    | .generalChat => some "ifeval-instructions-en-v1"
    | .coding => some "humaneval-python-en-v1"
    | _ => none

/-- Python `PROFILE_SUITES`. -/
def profileSuite (profile : String) : Option String :=
  if profile = "ifeval-instructions-en-v1" then some "jaull-ifeval-chat-v1" else none

/-- Python `PRIMARY_METRICS`. -/
def primaryMetric (profile : String) : Option String :=
  if profile = "ifeval-instructions-en-v1" then some "prompt_level_strict_acc" else none

/-- Python `QualityRecordIndex.by_artifact.get(sha, ())`. -/
def QualityIndex.lookup (index : QualityRecordIndex) (sha : Option String) : List QualityRecord :=
  (sha.bind fun sha => index.byArtifact.lookup sha).getD []

/-- What the store holds for one artifact under one profile (Python `StoredQuality`). -/
structure StoredQuality where
  applicable : Option (QualityRecord × QualityMetric) := none
  complete : ℕ := 0
  distinct : ℕ := 0
  deriving DecidableEq, Repr

/-- One applicable result, a conflict between repeats, or nothing (Python `stored_quality`, with the
metric `assess_quality` then reads). -/
def storedQuality (index : QualityRecordIndex) (sha : Option String) (profile : Option String) :
    StoredQuality :=
  match profile.bind profileSuite, profile.bind primaryMetric with
  | some suite, some metric =>
    let complete := sortedBy (·.recordSha256)
      ((QualityIndex.lookup index sha).filter fun record =>
        record.evidence.suite = suite && record.evidence.reusable && record.audited &&
          record.evidence.metrics.any (·.name = metric))
    let distinct := (complete.map (·.repeatKey)).dedup.length
    let applicable :=
      if distinct ≠ 1 then none
      else complete.head?.bind fun record =>
        (record.evidence.metrics.find? (·.name = metric)).map fun metric => (record, metric)
    { applicable := applicable, complete := complete.length, distinct := distinct }
  | _, _ => {}

/-- What a profile still asks for (the `profile_blocker` of Python `assess_quality`). -/
def profileBlocker (profile : Option String) : String :=
  match profile with
  | none => "No validated quality profile covers the requested task and languages."
  | some profile =>
    match profileSuite profile with
    | some suite =>
      "Profile " ++ profile ++ " is applicable only through one complete " ++ suite ++ " run " ++
        "of this exact artifact, matching the audited pins for suite, dataset, evaluator " ++
        "and runtime."
    | none => "Profile " ++ profile ++ " requires an audited generation contract; none exists yet."

/-- A stored record as the plan refers to it (the `LocalQualityReference` of Python
`assess_quality`); the applied record has no profile blocker left. -/
def qualityReference (blocker : String) (applied : Option String) (record : QualityRecord) :
    LocalQualityReference :=
  let blockers := record.evidence.limitations ++
    ["Current runtime, placement and effective protocol are not verified.", blocker]
  { identitySha256 := record.evidence.identitySha256
    recordSha256 := record.recordSha256
    artifactSha256 := record.evidence.artifactSha256
    suite := record.evidence.suite
    classification := record.evidence.classification
    samplesUsed := record.evidence.samplesUsed
    samplesAvailable := record.evidence.samplesAvailable
    metrics := record.evidence.metrics.map fun metric => (metric.name, metric.value)
    blockers :=
      if applied = some record.recordSha256 then blockers.filter (· ≠ blocker) else blockers }

/-- Python `assess_quality`. -/
def assessQuality (sha : Option String) (requirements : UserRequirements)
    (metadataPrior : AssessmentLevel) (index : QualityRecordIndex) (published : Bool) :
    QualityAssessment :=
  let profile := requestedProfile requirements
  let blocker := profileBlocker profile
  let stored := storedQuality index sha profile
  let applied := stored.applicable.map fun (record, _) => record.recordSha256
  let references := (QualityIndex.lookup index sha).map (qualityReference blocker applied)
  let suite := ((profile.bind profileSuite).getD "None")
  { useCase := some requirements.useCase
    languages := requirements.languages
    requestedProfile := profile
    metadataPrior := metadataPrior
    applicability :=
      if applied.isSome then .controlledArtifact
      else if !references.isEmpty || published then .referenceOnly else .absent
    applicable := stored.applicable.map fun (record, metric) =>
      { suite := record.evidence.suite
        metric := metric.name
        value := metric.value
        correct := metric.correct
        samples := metric.samples
        cohort := record.cohort
        recordSha256 := record.recordSha256 }
    localReferences :=
      sortedBy (fun item => toLex (item.identitySha256, item.recordSha256)) references
    limitations :=
      ["Parameter count is a scale prior, not measured quality."] ++
      (if applied.isSome then
        ["This exact artifact under the fixed evaluation protocol, not the proposed " ++
          "context, placement or runtime configuration."]
      else
        ["No audited comparable quality protocol is enabled for this assessment.", blocker]) ++
      (if stored.distinct > 1 then
        [toString stored.complete ++ " complete " ++ suite ++ " runs of this artifact give " ++
          toString stored.distinct ++
          " different results; no rule selects one, so none is applied."]
      else if stored.complete > 1 then
        [toString stored.complete ++ " complete " ++ suite ++
          " runs of this artifact gave identical answers; they count as one result."]
      else []) ++
      (if published then
        ["Published model references have not passed task, representation and protocol " ++
          "applicability gates; they do not measure this artifact or replace local records."]
      else []) ++
      if index.invalid ≠ 0 then
        ["Ignored " ++ toString index.invalid ++ " invalid local quality record(s)."] else [] }

end Jaull.Recommendation
