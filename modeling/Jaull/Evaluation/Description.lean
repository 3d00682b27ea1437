import Jaull.Evaluation.Antisymmetry
import Jaull.Evaluation.Evidence
import Jaull.Lib.PyEquality

/-!
# What evidence says

An accepted record that has a digest is described, unless its time stamp is beyond all floats. What its
description says of the identity does not depend on the order of keys in it.
-/

namespace Jaull.Evaluation
open Jaull.Domain Jaull.Lib

variable {env : Surroundings} {record identity : Json} {tables : TaskResults}

section Validation

/-- The identity of an accepted record is accepted. -/
lemma validateIdentity_of_valid (ok : validateRecord env record = .ok ())
    (found : record.field "identity" = .ok identity) : validateIdentity env identity = .ok () := by
  simp only [validateRecord, bind_eq_ok, lifted_eq_ok, entries_eq_ok] at ok
  obtain ⟨fields, rfl, generation, -, ok⟩ := ok
  split at ok
  · simp only [validateGenerationRecord, bind_eq_ok] at ok
    obtain ⟨identity', headEq, _, valid, -⟩ := ok
    rw [← Except.ok.inj ((generationHead_ok headEq).1.symm.trans found)]
    exact valid
  · simp only [validateScoringRecord, bind_eq_ok, lifted_eq_ok] at ok
    obtain ⟨head, headEq, _, valid, -⟩ := ok
    rw [← Except.ok.inj ((scoringHead_ok headEq).1.symm.trans found)]
    exact valid

/-- The members of an identity that its checks ask for. -/
structure SharedMembers (identity : Json) : Prop where
  suite : ∃ suite, identity.field "suite" = .ok suite ∧
    ∀ name ∈ ["name", "sha256"], ∃ value, suite.field name = .ok value
  runtime : ∃ runtime, identity.field "runtime" = .ok runtime ∧
    ∀ name ∈ runtimeFields, ∃ value, runtime.field name = .ok value

/-- The members that the checks of the shared fields leave. -/
lemma validateSharedFields_members {protocol : Json} {digests : List Json}
    (ok : validateSharedFields identity protocol digests = .ok ()) : SharedMembers identity := by
  simp only [validateSharedFields, bind_eq_ok, refuseIf_eq_ok, exists_const, Bool.not_eq_false'] at ok
  obtain ⟨evaluator, evaluatorEq, suite, suiteEq, dataset, datasetEq, runtime, runtimeEq, suiteIs,
    suiteSet, suiteOk, datasetIs, -, -, observable, observableEq, runtimeIs, runtimeSet, runtimeOk,
    stated, statedEq, protocolOk, image, imageEq, -, -, -, sha, shaEq, -⟩ := ok
  rw [suiteOk] at suiteSet
  rw [runtimeOk] at runtimeSet
  obtain ⟨suiteFields, suiteDict, -⟩ := field_eq_ok.mp shaEq
  obtain ⟨runtimeDict, runtimeIsDict, -⟩ := field_eq_ok.mp imageEq
  refine ⟨⟨suite, suiteEq, fun name mem => setIs_field suiteDict suiteSet mem⟩, ⟨runtime, runtimeEq, ?_⟩⟩
  intro name mem
  refine setIs_field runtimeIsDict runtimeSet ?_
  split
  · exact List.mem_append_left _ mem
  · exact mem

/-- The evaluator of a chat. -/
lemma chatEvaluator_ok (ok : validateIdentity env identity = .ok ())
    (mode : identityMode identity = some generationMode) :
    SharedMembers identity ∧ ∃ evaluator, identity.field "evaluator" = .ok evaluator ∧
      ∀ name ∈ generationEvaluatorFields, ∃ value, evaluator.field name = .ok value := by
  obtain ⟨-, ok⟩ := discard_bind_eq_ok ok
  rw [if_pos mode, validateGenerationIdentity] at ok
  simp only [bind_eq_ok, lifted_eq_ok] at ok
  obtain ⟨digests, chat, _, shared, -⟩ := ok
  simp only [validateSharedIdentity, bind_eq_ok, lifted_eq_ok] at shared
  obtain ⟨_, fields, -⟩ := shared
  refine ⟨validateSharedFields_members fields, ?_⟩
  simp only [validateChatIdentity, chatEvaluator, bind_eq_ok, lifted_eq_ok, refuseIf_eq_ok, exists_const,
    Bool.not_eq_false'] at chat
  obtain ⟨-, ⟨-, -, -, evaluator, evaluatorEq, set, setEq, holds, source, sourceEq, -⟩, -⟩ := chat
  rw [holds] at setEq
  obtain ⟨fields, dict, -⟩ := field_eq_ok.mp sourceEq
  exact ⟨evaluator, evaluatorEq, fun name mem => setIs_field dict setEq mem⟩

end Validation

section Outcomes

/-- The counts of replies that a chat record states. -/
lemma outcome_of_valid (ok : validateRecord env record = .ok ())
    (found : record.field "identity" = .ok identity) (mode : identityMode identity = some generationMode) :
    ∃ outcome responses truncated, record.field "outcome" = .ok outcome ∧
      outcome.field "responses" = .ok responses ∧ outcome.field "truncated" = .ok truncated := by
  simp only [validateRecord, bind_eq_ok, lifted_eq_ok, entries_eq_ok] at ok
  obtain ⟨fields, rfl, generation, -, ok⟩ := ok
  split at ok
  · simp only [validateGenerationRecord, bind_eq_ok, lifted_eq_ok] at ok
    obtain ⟨_, _, _, _, _, _, _, _, _, _, _, _, ok⟩ := ok
    simp only [validateOutcome, bind_eq_ok, refuseIf_eq_ok, exists_const] at ok
    obtain ⟨outcome, outcomeEq, -, -, -, responses, responsesEq, -, truncated, truncatedEq, -⟩ := ok
    exact ⟨outcome, responses, truncated, outcomeEq, responsesEq, truncatedEq⟩
  · simp only [validateScoringRecord, bind_eq_ok, lifted_eq_ok] at ok
    obtain ⟨head, headEq, -⟩ := ok
    obtain ⟨found', scoring, -⟩ := scoringHead_ok headEq
    rw [found] at found'
    rw [← Except.ok.inj found', mode] at scoring
    exact absurd scoring (by decide)

end Outcomes

section Totality

/-- Whether a dataset was covered can be asked. -/
lemma coversSplit_ok (shared : SharedFields identity protocol) :
    ∃ dataset, identity.field "dataset" = .ok dataset ∧
      (∃ ids, dataset.field "sample_ids" = .ok (.arr ids)) ∧
      (∃ total, dataset.field "total_samples" = .ok (.int total)) ∧
      ∃ covers, coversSplit dataset = .ok covers := by
  obtain ⟨dataset, ids, total, datasetEq, idsEq, -, totalEq⟩ := shared.dataset
  refine ⟨dataset, datasetEq, ⟨ids, idsEq⟩, ⟨total, totalEq⟩, ?_⟩
  rw [coversSplit, idsEq, ok_bind, totalEq, ok_bind]
  exact ⟨_, rfl⟩

/-- A conjunction of two checks that return. -/
lemma both_ok {first : Bool} {second : Except Refusal Bool} (ok : ∃ b, second = .ok b) :
    ∃ b, both first second = .ok b := by
  cases first with
  | true => exact ok
  | false => exact ⟨false, rfl⟩

/-- Whether an accepted record is reusable can be asked. -/
lemma isReusableEvidence_ok (accepted : AcceptedRecord env record identity tables) :
    ∃ reusable, isReusableEvidence record = .ok reusable := by
  obtain ⟨protocol, shared⟩ := accepted.valid.shared
  obtain ⟨dataset, datasetEq, -, -, covers, coversEq⟩ := coversSplit_ok shared
  obtain ⟨classification, classificationEq, -⟩ := accepted.belongs.classification
  obtain ⟨_, task, _, -, taskEq, -⟩ := accepted.belongs.task
  obtain ⟨one, oneEq⟩ := @isOneOf_ok task nonReusableSuites (accepted.belongs.hashable_task taskEq)
  rw [isReusableEvidence, accepted.field, ok_bind, datasetEq, ok_bind, classificationEq, ok_bind]
  refine both_ok ?_
  rw [taskEq, ok_bind, oneEq, ok_bind]
  exact both_ok ⟨covers, coversEq⟩

/-- The table of a task is in a table. -/
lemma table_of_taskTable {result task table : Json} {name : String}
    (found : taskTable result task name = .ok table) : ∃ all, result.field name = .ok all := by
  obtain ⟨all, eq, -⟩ := bind_eq_ok.mp found
  exact ⟨all, lifted_eq_ok.mp eq⟩

/-- A field can be digested, also where there is none. -/
lemma digestible_getField {fields : List (PyString × Json)} {name : String}
    (able : Digestible (.obj fields)) : Digestible (getField fields name) := by
  rw [getField]
  cases found : fields.lookup (PyString.text name) with
  | none => exact ⟨rfl, rfl, rfl⟩
  | some value => exact able.field (field_obj.mpr found)

/-- An accepted record has a key of its repetition. -/
lemma repeatKey_ok (accepted : AcceptedRecord env record identity tables) (able : Digestible record) :
    ∃ key, repeatKey env record = .ok key := by
  obtain ⟨result, task, samples, resultEq, -, samplesEq, -, resultsEq⟩ := accepted.belongs.task
  obtain ⟨allSamples, allSamplesEq⟩ := table_of_taskTable samplesEq
  obtain ⟨allResults, allResultsEq⟩ := table_of_taskTable resultsEq
  obtain ⟨sha, -, statedEq⟩ := accepted.checksum
  obtain ⟨fields, rfl, -⟩ := field_eq_ok.mp resultEq
  have keyed : Digestible (.obj [("identity_sha256", .str (.text sha)), ("samples", allSamples),
      ("results", allResults), ("outcome", getField fields "outcome")]) := by
    rw [digestible_obj]
    intro entry mem
    simp only [List.mem_cons, List.not_mem_nil, or_false] at mem
    have ableResult := able.field resultEq
    rcases mem with rfl | rfl | rfl | rfl
    · exact ⟨rfl, digestible_str sha⟩
    · exact ⟨rfl, ableResult.field allSamplesEq⟩
    · exact ⟨rfl, ableResult.field allResultsEq⟩
    · exact ⟨rfl, digestible_getField able⟩
  refine ⟨shaOf env (.obj [("identity_sha256", .str (.text sha)), ("samples", allSamples),
    ("results", allResults), ("outcome", getField fields "outcome")]), ?_⟩
  rw [repeatKey, resultEq, statedEq]
  simp only [lifted_ok, ok_bind, allSamplesEq, allResultsEq, Json.entries,
    digest_of_digestible keyed]

/-- What can be digested has a text. -/
lemma formatted_ok {value : Json} (able : Digestible value) : ∃ text, formatted value = .ok text := by
  unfold formatted
  rw [able.short]
  simp only [Bool.not_true, refuseIf, Bool.false_eq_true, if_false, ok_bind]
  split <;> exact ⟨_, rfl⟩

/-- The limitations of a chat run can be told. -/
lemma chatLimitations_ok (valid : validateRecord env record = .ok ())
    (found : record.field "identity" = .ok identity) (able : Digestible record) :
    ∃ texts, chatLimitations record identity = .ok texts := by
  rw [chatLimitations]
  split
  · rename_i mode
    obtain ⟨outcome, responses, truncated, outcomeEq, responsesEq, truncatedEq⟩ :=
      outcome_of_valid valid found mode
    have ableOutcome := able.field outcomeEq
    obtain ⟨first, firstEq⟩ := formatted_ok (ableOutcome.field truncatedEq)
    obtain ⟨second, secondEq⟩ := formatted_ok (ableOutcome.field responsesEq)
    have cut : ∃ texts, cutLimitations outcome = .ok texts := by
      rw [cutLimitations, truncatedEq, ok_bind]
      split
      · rw [firstEq, ok_bind, responsesEq, ok_bind, secondEq]
        exact ⟨_, rfl⟩
      · exact ⟨_, rfl⟩
    obtain ⟨texts, cutEq⟩ := cut
    rw [outcomeEq, ok_bind, cutEq]
    exact ⟨_, rfl⟩
  · exact ⟨_, rfl⟩

/-- So can those of its split. -/
lemma splitLimitations_ok {dataset : Json} (able : Digestible dataset)
    (ids : ∃ ids, dataset.field "sample_ids" = .ok (.arr ids))
    (total : ∃ total, dataset.field "total_samples" = .ok (.int total))
    (covers : ∃ covers, coversSplit dataset = .ok covers) :
    ∃ texts, splitLimitations dataset = .ok texts := by
  obtain ⟨ids, idsEq⟩ := ids
  obtain ⟨total, totalEq⟩ := total
  obtain ⟨covers, coversEq⟩ := covers
  obtain ⟨text, textEq⟩ := formatted_ok (able.field totalEq)
  rw [splitLimitations, coversEq, ok_bind]
  split
  · exact ⟨_, rfl⟩
  · have size : (Json.arr ids).size = .ok ids.length := rfl
    rw [idsEq, ok_bind, size, ok_bind, totalEq, ok_bind, textEq]
    exact ⟨_, rfl⟩

/-- So can those of an accepted record. -/
lemma describeLimitations_ok (valid : validateRecord env record = .ok ())
    (accepted : AcceptedRecord env record identity tables) (able : Digestible record) :
    ∃ texts, describeLimitations record identity = .ok texts := by
  obtain ⟨version, n, versionEq, -⟩ := accepted.version
  obtain ⟨protocol, shared⟩ := accepted.valid.shared
  obtain ⟨dataset, datasetEq, ids, total, covers⟩ := coversSplit_ok shared
  obtain ⟨classification, classificationEq, -⟩ := accepted.belongs.classification
  obtain ⟨_, task, _, -, taskEq, -⟩ := accepted.belongs.task
  obtain ⟨one, oneEq⟩ := @isOneOf_ok task plumbingSuites (accepted.belongs.hashable_task taskEq)
  have ableDataset := (able.field accepted.field).field datasetEq
  obtain ⟨split, splitEq⟩ := splitLimitations_ok ableDataset ids total covers
  obtain ⟨chat, chatEq⟩ := chatLimitations_ok valid accepted.field able
  simp only [describeLimitations, versionEq, ok_bind, chatEq, taskEq, oneEq, datasetEq, splitEq,
    classificationEq]
  exact ⟨_, rfl⟩

/-- A metric of the results can be described. -/
lemma describeMetric_ok {results : Json} (samples : List Json) {metric : String}
    (found : ∃ value, results.field (metric ++ ",none") = .ok value) :
    ∃ described, describeMetric results samples metric = .ok described ∧ described.name = metric := by
  obtain ⟨value, eq⟩ := found
  rw [describeMetric, eq]
  exact ⟨_, rfl, rfl⟩

/-- So can all of them. -/
lemma describeMetrics_ok {results : Json} (samples : List Json) {names : List String}
    (found : ∀ metric ∈ names, ∃ value, results.field (metric ++ ",none") = .ok value) :
    ∃ metrics, names.mapM (describeMetric results samples) = .ok metrics ∧
      metrics.map (·.name) = names := by
  induction names with
  | nil => exact ⟨[], rfl, rfl⟩
  | cons name names ih =>
    rw [List.forall_mem_cons] at found
    obtain ⟨first, firstEq, named⟩ := describeMetric_ok samples found.1
    obtain ⟨rest, restEq, others⟩ := ih found.2
    refine ⟨first :: rest, ?_, ?_⟩
    · rw [List.mapM_cons, firstEq, ok_bind, restEq]
      rfl
    · rw [List.map_cons, named, others]

/-- What a description says of an accepted record. -/
structure Describes (record identity : Json) (sha : String) (evidence : QualityEvidence) : Prop where
  identitySha : evidence.identitySha256 = sha
  artifact : (identity.field "artifact_sha256").map textOf = .ok evidence.artifactSha256
  suite : (taskOf identity).map textOf = .ok evidence.suite
  metrics : evidence.metrics.map (·.name) = comparedMetrics identity
  reusable : isReusableEvidence record = .ok evidence.reusable

/-- An accepted record with a digest is described as far as its time stamp can be read. -/
lemma describeRecord_eq (valid : validateRecord env record = .ok ())
    (accepted : AcceptedRecord env record identity tables) (able : Digestible record) :
    ∃ result evidence, record.field "result" = .ok result ∧
      Describes record identity (shaOf env identity) evidence ∧
      describeRecord env record = checkStamp result >>= fun _ => .ok evidence := by
  obtain ⟨result, task, samples, resultEq, taskEq, samplesEq, membersEq, resultsEq⟩ :=
    accepted.belongs.task
  obtain ⟨protocol, shared⟩ := accepted.valid.shared
  obtain ⟨dataset, datasetEq, ⟨ids, idsEq⟩, ⟨total, totalEq⟩, -⟩ := coversSplit_ok shared
  obtain ⟨classification, classificationEq, -⟩ := accepted.belongs.classification
  obtain ⟨artifact, artifactEq⟩ := accepted.valid.complete "artifact_sha256" (by decide)
  obtain ⟨reusable, reusableEq⟩ := isReusableEvidence_ok accepted
  obtain ⟨limitations, limitationsEq⟩ := describeLimitations_ok valid accepted able
  obtain ⟨sha, shaEq, statedEq⟩ := accepted.checksum
  obtain ⟨identity', fields, version, class', compared⟩ := compared_of_valid valid
  have fieldsEq : ∃ digests, comparisonFields env record = .ok digests := ⟨_, compared.fields_eq⟩
  obtain ⟨digests, digestsEq⟩ := fieldsEq
  obtain ⟨metrics, metricsEq, names⟩ := describeMetrics_ok tables.samples accepted.metrics
  have size : (Json.arr ids).size = .ok ids.length := rfl
  have described : Describes record identity (shaOf env identity)
      { identitySha256 := sha
        artifactSha256 := textOf artifact
        suite := textOf task
        metrics := metrics
        samplesUsed := ids.length
        samplesAvailable := total
        classification := textOf classification
        reusable := reusable
        limitations := limitations } := by
    refine ⟨(digest_eq_ok.mp shaEq).2, ?_, ?_, names, reusableEq⟩
    · rw [artifactEq]
      rfl
    · rw [taskEq]
      rfl
  refine ⟨result, _, resultEq, described, ?_⟩
  rw [describeRecord, valid, ok_bind]
  simp only [accepted.field, datasetEq, resultEq, taskEq, samplesEq, membersEq, resultsEq, metricsEq,
    limitationsEq, reusableEq, statedEq, artifactEq, idsEq, totalEq, classificationEq, digestsEq,
    lifted_ok, ok_bind, size]
  rfl

end Totality

end Jaull.Evaluation
