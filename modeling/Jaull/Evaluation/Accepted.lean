import Jaull.Evaluation.Comparison
import Jaull.Lib.PyLaws

/-!
# Accepted records

What the validators guarantee of a record that they accept, validator by validator.
-/

namespace Jaull.Evaluation
open Jaull.Lib

variable {env : Surroundings} {record identity : Json}

section Identities

/-- An identity that passes the shared checks. -/
structure SharedFields (identity protocol : Json) : Prop where
  suite : ∃ suite name, identity.field "suite" = .ok suite ∧ suite.field "name" = .ok name
  dataset : ∃ dataset ids total, identity.field "dataset" = .ok dataset ∧
    dataset.field "sample_ids" = .ok (.arr ids) ∧ ids ≠ [] ∧
    dataset.field "total_samples" = .ok (.int total)
  evaluator : ∃ evaluator context, identity.field "evaluator" = .ok evaluator ∧
    evaluator.field "context" = .ok context
  runtime : ∃ runtime image, identity.field "runtime" = .ok runtime ∧
    runtime.field "image_id" = .ok image
  protocol : ∃ stated, identity.field "protocol" = .ok stated ∧ pyEq stated protocol = true

/-- What the checks of the shared fields leave. -/
lemma validateSharedFields_ok {protocol : Json} {digests : List Json}
    (ok : validateSharedFields identity protocol digests = .ok ()) :
    SharedFields identity protocol := by
  simp only [validateSharedFields, bind_eq_ok, refuseIf_eq_ok, exists_const, Bool.not_eq_false'] at ok
  obtain ⟨evaluator, evaluatorEq, suite, suiteEq, dataset, datasetEq, runtime, runtimeEq, suiteIs,
    suiteSet, suiteOk, -, -, -, -, -, -, -, -, stated, statedEq, protocolOk, image, imageEq, -, -, -,
    sha, shaEq, -, -, -, -, -, -, -, -, -, ids, idsEq, total, totalEq, totalOk, idsOk, -, -, -, -, -,
    -, -, -, context, contextEq, -⟩ := ok
  rw [suiteOk] at suiteSet
  obtain ⟨suiteFields, rfl, -⟩ := field_eq_ok.mp shaEq
  obtain ⟨name, nameEq⟩ := setIs_field rfl suiteSet (List.mem_cons_self : "name" ∈ _)
  refine ⟨⟨_, name, suiteEq, nameEq⟩, ?_, ⟨evaluator, context, evaluatorEq, contextEq⟩,
    ⟨runtime, image, runtimeEq, imageEq⟩, ⟨stated, statedEq, protocolOk⟩⟩
  cases ids with
  | arr items =>
    cases total with
    | int n =>
      refine ⟨dataset, items, n, datasetEq, idsEq, ?_, totalEq⟩
      rintro rfl
      simp [Json.list?] at idsOk
    | _ => simp [isPositiveInt] at totalOk
  | _ => simp [Json.list?] at idsOk

/-- What the identity says of one selected sample. -/
lemma validateSample_ok {sample : Json} (ok : validateSample sample = .ok ()) :
    ∃ fields sha, sample = .obj fields ∧ sample.field "doc_hash" = .ok (.str sha) := by
  simp only [validateSample, bind_eq_ok, refuseIf_eq_ok, exists_const] at ok
  obtain ⟨-, -, -, hash, hashEq, hex, hexEq, -⟩ := ok
  obtain ⟨fields, rfl, -⟩ := field_eq_ok.mp hashEq
  cases hash with
  | str sha => exact ⟨fields, sha, rfl, hashEq⟩
  | _ => cases hexEq

/-- The selected samples of an identity. -/
structure SelectedSamples (identity : Json) (samples : List Json) : Prop where
  field : identity.field "samples" = .ok (.arr samples)
  valid : ∀ sample ∈ samples, validateSample sample = .ok ()

/-- What the checks of the samples leave. -/
lemma validateSamples_ok (ok : validateSamples identity = .ok ()) :
    ∃ samples, SelectedSamples identity samples := by
  simp only [validateSamples, bind_eq_ok, refuseIf_eq_ok, exists_const] at ok
  obtain ⟨samples, samplesEq, isList, -, -, -, -, -, -, -, all⟩ := ok
  cases samples with
  | arr items => exact ⟨items, samplesEq, forM_eq_ok.mp all⟩
  | _ => cases isList

/-- An accepted identity. -/
structure AcceptedIdentity (env : Surroundings) (identity : Json) : Prop where
  complete : ∀ name ∈ identityFields, ∃ value, identity.field name = .ok value
  shared : ∃ protocol, SharedFields identity protocol
  mode : identityMode identity = some generationMode → SharedFields identity generationProtocol
  execution : ∀ runtime, identity.field "runtime" = .ok runtime →
    ∃ observable, runtime.holds "execution" = .ok observable ∧
      (observable = true → ∃ fields, runtime.field "execution" = .ok (.obj fields))
  samples : ∃ samples, SelectedSamples identity samples

/-- An execution that passes is a dictionary. -/
lemma validateRuntimeExecution_ok {execution runtime : Json} {context port : ℤ} {chat : Bool}
    (ok : validateRuntimeExecution execution runtime context port chat = .ok ()) :
    ∃ fields, execution = .obj fields := by
  rw [validateRuntimeExecution, bind_eq_ok] at ok
  obtain ⟨fields, eq, -⟩ := ok
  exact ⟨fields, entries_eq_ok.mp eq⟩

/-- What the checks shared by both protocols leave. -/
lemma validateSharedIdentity_ok {protocol : Json} {digests : List Json}
    (ok : validateSharedIdentity identity protocol digests = .ok ()) :
    SharedFields identity protocol ∧
      (∀ runtime, identity.field "runtime" = .ok runtime →
        ∃ observable, runtime.holds "execution" = .ok observable ∧
          (observable = true → ∃ fields, runtime.field "execution" = .ok (.obj fields))) ∧
      ∃ samples, SelectedSamples identity samples := by
  simp only [validateSharedIdentity, bind_eq_ok, lifted_eq_ok] at ok
  obtain ⟨_, fields, runtime, runtimeEq, observable, observableEq, _, run, samples⟩ := ok
  refine ⟨validateSharedFields_ok fields, ?_, validateSamples_ok samples⟩
  intro runtime' eq
  rw [runtimeEq] at eq
  cases eq
  refine ⟨observable, observableEq, fun holds => ?_⟩
  obtain ⟨execution, executionEq, valid⟩ := bind_eq_ok.mp (doIf_eq_ok run holds)
  obtain ⟨fields, rfl⟩ := validateRuntimeExecution_ok valid
  exact ⟨fields, lifted_eq_ok.mp executionEq⟩

/-- An identity with exactly the known fields has all of them. -/
lemma complete_of_setIs {fields : List (PyString × Json)} {set : Bool}
    (dict : identity = .obj fields) (eq : identity.setIs identityFields = .ok set)
    (holds : (!set) = false) : ∀ name ∈ identityFields, ∃ value, identity.field name = .ok value := by
  intro name mem
  rw [Bool.not_eq_false'] at holds
  rw [holds] at eq
  exact setIs_field dict eq mem

/-- A check that discards its value, and what follows it. -/
lemma discard_bind_eq_ok {ε α β : Type} {x : Except ε α} {f : Unit → Except ε β} {b : β}
    (ok : (discard x >>= f) = .ok b) : (∃ a, x = .ok a) ∧ f () = .ok b := by
  cases x with
  | error e => cases ok
  | ok a => exact ⟨⟨a, rfl⟩, ok⟩

/-- What is left of an identity that is accepted. -/
lemma validateIdentity_ok (ok : validateIdentity env identity = .ok ()) :
    AcceptedIdentity env identity := by
  obtain ⟨⟨fields, entries⟩, ok⟩ := discard_bind_eq_ok ok
  have dict := entries_eq_ok.mp entries
  split at ok
  · rw [validateGenerationIdentity, bind_eq_ok] at ok
    obtain ⟨digests, chat, ok⟩ := ok
    obtain ⟨_, shared, -⟩ := bind_eq_ok.mp ok
    obtain ⟨shared, execution, samples⟩ := validateSharedIdentity_ok shared
    obtain ⟨evaluator, chat, -⟩ := bind_eq_ok.mp chat
    rw [lifted_eq_ok, chatEvaluator] at chat
    obtain ⟨set, setEq, chat⟩ := bind_eq_ok.mp chat
    obtain ⟨_, holds, -⟩ := bind_eq_ok.mp chat
    exact ⟨complete_of_setIs dict setEq (refuseIf_eq_ok.mp holds), ⟨_, shared⟩, fun _ => shared,
      execution, samples⟩
  · rename_i other
    obtain ⟨digests, scoring, shared⟩ := bind_eq_ok.mp ok
    obtain ⟨shared, execution, samples⟩ := validateSharedIdentity_ok shared
    obtain ⟨evaluator, scoring, -⟩ := bind_eq_ok.mp scoring
    rw [lifted_eq_ok, scoringEvaluator] at scoring
    obtain ⟨set, setEq, scoring⟩ := bind_eq_ok.mp scoring
    obtain ⟨_, holds, -⟩ := bind_eq_ok.mp scoring
    exact ⟨complete_of_setIs dict setEq (refuseIf_eq_ok.mp holds), ⟨_, shared⟩,
      fun mode => absurd mode other, execution, samples⟩

end Identities

section Records

/-- The tables of a result that belong to an identity. -/
structure AcceptedTables (record identity : Json) (tables : TaskResults) : Prop where
  task : ∃ result task samples, record.field "result" = .ok result ∧ taskOf identity = .ok task ∧
    taskTable result task "samples" = .ok samples ∧ samples.members = .ok tables.samples ∧
    taskTable result task "results" = .ok tables.results
  ids : idsOf identity = .ok tables.ids
  docs : ∃ docs, docIds tables.samples = .ok docs ∧ pyEqItems docs tables.ids = true
  matched : ∃ samples, identity.field "samples" = .ok samples ∧
    matchSamples tables.samples (samples.list?.getD []) = .ok ()
  classification : ∃ classification, record.field "classification" = .ok classification ∧
    classifications.any (pyEq classification) = true

/-- Samples that agree list the ids. -/
lemma samplesAre_ok {ids samples : Json} {agree : Bool} (ok : samplesAre ids samples = .ok agree)
    {members : List Json} (eq : samples.members = .ok members) :
    ∃ docs, docIds members = .ok docs ∧ pyEqItems docs (ids.list?.getD []) = agree := by
  simp only [samplesAre, bind_eq_ok] at ok
  obtain ⟨members', eq', docs, docsEq, agreeEq⟩ := ok
  rw [eq] at eq'
  cases eq'
  exact ⟨docs, docsEq, Except.ok.inj agreeEq⟩

/-- What the tables of a scoring run leave. -/
lemma scoringResults_ok {tables : TaskResults} (ok : scoringResults record identity = .ok tables) :
    AcceptedTables record identity tables := by
  simp only [scoringResults, bind_eq_ok, lifted_eq_ok, refuseIf_eq_ok, exists_const,
    Bool.not_eq_false'] at ok
  obtain ⟨result, resultEq, task, taskEq, ids, idsEq, classification, classificationEq, known, -, -,
    -, -, -, samples, samplesEq, agree, agreeEq, agreeOk, results, resultsEq, -, -, -, -, members,
    membersEq, expected, expectedEq, _, matched, eq⟩ := ok
  cases eq
  obtain ⟨docs, docsEq, same⟩ := samplesAre_ok agreeEq membersEq
  exact ⟨⟨result, task, samples, resultEq, taskEq, samplesEq, membersEq, resultsEq⟩, idsEq,
    ⟨docs, docsEq, same.trans agreeOk⟩, ⟨expected, expectedEq, matched⟩,
    ⟨classification, classificationEq, known⟩⟩

/-- What those of a generation run leave. -/
lemma generationResults_ok {tables : TaskResults}
    (ok : generationResults record identity = .ok tables) :
    AcceptedTables record identity tables := by
  simp only [generationResults, bind_eq_ok, lifted_eq_ok, refuseIf_eq_ok, exists_const,
    Bool.not_eq_false'] at ok
  obtain ⟨result, resultEq, task, taskEq, ids, idsEq, samples, samplesEq, classification,
    classificationEq, known, -, -, -, -, -, -, -, -, agree, agreeEq, agreeOk, results, resultsEq, -,
    -, -, -, members, membersEq, expected, expectedEq, _, matched, eq⟩ := ok
  cases eq
  obtain ⟨docs, docsEq, same⟩ := samplesAre_ok agreeEq membersEq
  exact ⟨⟨result, task, samples, resultEq, taskEq, samplesEq, membersEq, resultsEq⟩, idsEq,
    ⟨docs, docsEq, same.trans agreeOk⟩, ⟨expected, expectedEq, matched⟩,
    ⟨classification, classificationEq, known⟩⟩

/-- An accepted record, with its identity and its tables. -/
structure AcceptedRecord (env : Surroundings) (record identity : Json) (tables : TaskResults) :
    Prop where
  field : record.field "identity" = .ok identity
  valid : AcceptedIdentity env identity
  version : ∃ version n, record.field "schema_version" = .ok version ∧ n ∈ [1, 2, 3, 4] ∧
    pyEq version (.int n) = true
  checksum : ∃ sha, digest env identity = .ok sha ∧
    record.field "identity_sha256" = .ok (.str (.text sha))
  hardware : ∃ provenance hardware, record.field "provenance" = .ok provenance ∧
    provenance.field "hardware" = .ok hardware
  belongs : AcceptedTables record identity tables
  scoring : identityMode identity ≠ some generationMode →
    ∀ sample ∈ tables.samples, validateScoringSample sample = .ok ()
  generation : identityMode identity = some generationMode →
    ∀ sample ∈ tables.samples, validateGenerationSample env sample = .ok ()
  metrics : ∀ metric ∈ comparedMetrics identity,
    ∃ value, tables.results.field (metric ++ ",none") = .ok value

/-- What the checksum leaves. -/
lemma validateChecksum_ok (ok : validateChecksum env record identity = .ok ()) :
    (∃ sha, digest env identity = .ok sha ∧
      record.field "identity_sha256" = .ok (.str (.text sha))) ∧
    ∃ provenance hardware, record.field "provenance" = .ok provenance ∧
      provenance.field "hardware" = .ok hardware := by
  simp only [validateChecksum, bind_eq_ok, refuseIf_eq_ok, exists_const, Bool.not_eq_false'] at ok
  obtain ⟨provenance, provenanceEq, hardware, hardwareEq, -, stated, statedEq, sha, shaEq, same⟩ := ok
  rw [pyEq_str.mp same] at statedEq
  exact ⟨⟨sha, shaEq, statedEq⟩, provenance, hardware, provenanceEq, hardwareEq⟩

/-- A metric that passes is there. -/
lemma validateMetric_ok {results : Json} {name : String} {expected : ℚ}
    (ok : validateMetric results name expected = .ok ()) :
    ∃ value, results.field (name ++ ",none") = .ok value := by
  rw [validateMetric, bind_eq_ok] at ok
  obtain ⟨value, eq, -⟩ := ok
  exact ⟨value, lifted_eq_ok.mp eq⟩

/-- The head of a scoring record. -/
lemma scoringHead_ok {head : Json × Bool} (ok : scoringHead record = .ok head) :
    record.field "identity" = .ok head.1 ∧ identityMode head.1 = some (.text "loglikelihood") ∧
      ∃ version, record.field "schema_version" = .ok version ∧
        isOneOf version [.int 1, .int 3] = .ok true := by
  simp only [scoringHead, bind_eq_ok, refuseIf_eq_ok, exists_const, Bool.not_eq_false',
    decide_eq_false_iff_not, not_not] at ok
  obtain ⟨version, versionEq, one, oneEq, holds, -, -, -, identity, identityEq, mode, -, -,
    observable, -, -, -, -, eq⟩ := ok
  cases eq
  rw [holds] at oneEq
  exact ⟨identityEq, mode, version, versionEq, oneEq⟩

/-- The head of a generation record. -/
lemma generationHead_ok {identity : Json} (ok : generationHead env record = .ok identity) :
    record.field "identity" = .ok identity ∧ identityMode identity = some generationMode := by
  simp only [generationHead, bind_eq_ok, lifted_eq_ok, refuseIf_eq_ok, exists_const,
    decide_eq_false_iff_not, not_not] at ok
  obtain ⟨-, -, -, identity', identityEq, -, -, -, -, mode, eq⟩ := ok
  cases eq
  exact ⟨identityEq, mode⟩

/-- A version that is listed equals one of the four. -/
lemma version_of_isOneOf {version : Json} {options : List ℤ}
    (small : ∀ n ∈ options, n ∈ [1, 2, 3, 4])
    (one : isOneOf version (options.map .int) = .ok true) :
    ∃ n : ℤ, n ∈ [1, 2, 3, 4] ∧ pyEq version (.int n) = true := by
  obtain ⟨option, mem, eq⟩ := isOneOf_eq_true one
  obtain ⟨n, inside, rfl⟩ := List.mem_map.mp mem
  exact ⟨n, small n inside, eq⟩

/-- What is left of a scoring record that is accepted. -/
lemma validateScoringRecord_ok (ok : validateScoringRecord env record = .ok ()) :
    ∃ identity tables, AcceptedRecord env record identity tables := by
  simp only [validateScoringRecord, bind_eq_ok, lifted_eq_ok] at ok
  obtain ⟨head, headEq, _, valid, -, -, _, checksum, tables, tablesEq, _, samples, metrics⟩ := ok
  obtain ⟨field, mode, version, versionEq, one⟩ := scoringHead_ok headEq
  obtain ⟨n, small, same⟩ := @version_of_isOneOf version [1, 3] (by decide) one
  obtain ⟨digest, hardware⟩ := validateChecksum_ok checksum
  have scoring : identityMode head.1 ≠ some generationMode := by
    rw [mode]
    decide
  refine ⟨head.1, tables, field, validateIdentity_ok valid, ⟨version, n, versionEq, small, same⟩,
    digest, hardware, scoringResults_ok tablesEq, fun _ => forM_eq_ok.mp samples,
    fun generation => absurd generation scoring, ?_⟩
  rw [comparedMetrics, if_neg scoring]
  exact fun metric mem => validateMetric_ok (forM_eq_ok.mp metrics metric mem)

/-- What is left of a generation record that is accepted. -/
lemma validateGenerationRecord_ok {version : Json}
    (versionEq : record.field "schema_version" = .ok version)
    (one : isOneOf version [.int 2, .int 4] = .ok true)
    (ok : validateGenerationRecord env record = .ok ()) :
    ∃ identity tables, AcceptedRecord env record identity tables := by
  simp only [validateGenerationRecord, bind_eq_ok, lifted_eq_ok] at ok
  obtain ⟨identity, headEq, _, valid, _, checksum, tables, tablesEq, _, samples, _, metrics, -⟩ := ok
  obtain ⟨field, generation⟩ := generationHead_ok headEq
  obtain ⟨n, small, same⟩ := @version_of_isOneOf version [2, 4] (by decide) one
  obtain ⟨digest, hardware⟩ := validateChecksum_ok checksum
  refine ⟨identity, tables, field, validateIdentity_ok valid, ⟨version, n, versionEq, small, same⟩,
    digest, hardware, generationResults_ok tablesEq, fun scoring => absurd generation scoring,
    fun _ => forM_eq_ok.mp samples, ?_⟩
  rw [comparedMetrics, if_pos generation]
  intro metric mem
  have aggregate : ∃ expected, (metric, expected) ∈ generationAggregates tables.samples := by
    rcases List.mem_append.mp mem with mem | mem
    · exact ⟨_, List.mem_append_left _ (List.mem_map_of_mem mem)⟩
    · exact ⟨_, List.mem_append_right _ (List.mem_map_of_mem mem)⟩
  obtain ⟨expected, inside⟩ := aggregate
  exact validateMetric_ok (forM_eq_ok.mp metrics _ inside)

/-- What acceptance means. -/
theorem validateRecord_ok (ok : validateRecord env record = .ok ()) :
    ∃ identity tables, AcceptedRecord env record identity tables := by
  simp only [validateRecord, bind_eq_ok, lifted_eq_ok, entries_eq_ok] at ok
  obtain ⟨fields, rfl, generation, one, ok⟩ := ok
  split at ok
  · rename_i isGeneration
    rw [isGeneration] at one
    refine validateGenerationRecord_ok ?_ one ok
    rw [field_obj]
    cases found : fields.lookup (.text "schema_version") with
    | some version => rw [getField, found, Option.getD_some]
    | none =>
      rw [getField, found] at one
      cases one
  · exact validateScoringRecord_ok ok

end Records

end Jaull.Evaluation
