import Jaull.Evaluation.ConcurrentSaves
import Jaull.Evaluation.Description
import Jaull.Recommendation.QualityIndex

/-!
# The two readers of the quality store

The index groups digested records by artifact and asks for the audit; a lookup goes through the files of one
identity. What the audit reads belongs to the identity, so that both see the same repeats, unless the name
of the identity is a link that leads out of the store.
-/

namespace Jaull.Recommendation
open Jaull.Domain Jaull.Evaluation Jaull.Lib Jaull.Text

variable {env : Surroundings} {record identity : Json} {tables : TaskResults}

section Audit

/-- A comparison of a field does not see the order of keys. -/
lemma fieldIs_congr {v v' : Json} (same : sortKeys v = sortKeys v') (name : String) (expected : Json) :
    fieldIs v name expected = fieldIs v' name expected := by
  refine field_bind_congr same ?_
  intro w w' same
  rw [pyEq_congr same rfl]

/-- Nor does a digest. -/
lemma digest_congr {v v' : Json} (same : sortKeys v = sortKeys v') : digest env v = digest env v' := by
  have leaves : v.leaves finiteLeaf = v'.leaves finiteLeaf := by
    rw [← leaves_sortKeys v, same, leaves_sortKeys]
  rw [digest, digest, leaves, same]

/-- The audit does not look at the order of keys. -/
lemma auditedIfeval_congr {identity' : Json} (same : sortKeys identity = sortKeys identity') :
    auditedIfeval env identity = auditedIfeval env identity' := by
  refine field_bind_congr same ?_
  intro evaluator evaluator' evaluators
  have mode : identityMode identity = identityMode identity' := by
    rw [← identityMode_sortKeys, same, identityMode_sortKeys]
  have inside : ∀ name member expected,
      (do fieldIs (← identity.field name) member expected) =
        (do fieldIs (← identity'.field name) member expected : Except Refusal Bool) := by
    intro name member expected
    exact field_bind_congr same fun members => fieldIs_congr members member expected
  have sources : (do return (← digest env (← evaluator.field "source_sha256")) = ifevalSourcesSha256) =
      (do return (← digest env (← evaluator'.field "source_sha256")) = ifevalSourcesSha256 :
        Except Refusal Bool) := by
    refine field_bind_congr evaluators ?_
    intro w w' members
    rw [digest_congr members]
  rw [mode, inside, inside, inside, sources]
  simp only [fieldIs_congr same, fieldIs_congr evaluators]

/-- Tests that all have a result have one together. -/
lemma allOf_ok {tests : List (Except Refusal Bool)} (ok : ∀ test ∈ tests, ∃ b, test = .ok b) :
    ∃ b, allOf tests = .ok b := by
  induction tests with
  | nil => exact ⟨true, rfl⟩
  | cons test tests ih =>
    rw [List.forall_mem_cons] at ok
    obtain ⟨b, rfl⟩ := ok.1
    rw [allOf, ok_bind]
    exact both_ok (ih ok.2)

/-- A field that is there can be compared. -/
lemma fieldIs_ok {value member : Json} {name : String} (found : value.field name = .ok member)
    (expected : Json) : ∃ b, fieldIs value name expected = .ok b := by
  rw [fieldIs, found]
  exact ⟨_, rfl⟩

/-- The audit of an accepted identity has a result. -/
lemma auditedIfeval_ok (valid : validateIdentity env identity = .ok ()) (able : Digestible identity) :
    ∃ audited, auditedIfeval env identity = .ok audited := by
  obtain ⟨evaluator, evaluatorEq⟩ := (validateIdentity_ok valid).complete "evaluator" (by decide)
  rw [auditedIfeval, evaluatorEq, ok_bind]
  by_cases mode : identityMode identity = some generationMode
  · obtain ⟨⟨⟨suite, suiteEq, suiteHas⟩, runtime, runtimeEq, runtimeHas⟩, evaluator', eq, has⟩ :=
      chatEvaluator_ok valid mode
    cases Except.ok.inj (evaluatorEq.symm.trans eq)
    obtain ⟨dataset, datasetEq⟩ := (validateIdentity_ok valid).complete "dataset" (by decide)
    obtain ⟨sha, shaEq⟩ := suiteHas "sha256" (by decide)
    obtain ⟨suiteSha, suiteShaEq⟩ := has "suite_sha256" (by decide)
    obtain ⟨commit, commitEq⟩ := has "evaluator_commit" (by decide)
    obtain ⟨sources, sourcesEq⟩ := has "source_sha256" (by decide)
    obtain ⟨context, contextEq⟩ := has "context" (by decide)
    obtain ⟨seed, seedEq⟩ := has "langdetect_seed" (by decide)
    obtain ⟨server, serverEq⟩ := runtimeHas "server_sha256" (by decide)
    obtain ⟨fingerprint, fingerprintEq⟩ := runtimeHas "fingerprint" (by decide)
    have sourcesSha : digest env sources = .ok (shaOf env sources) :=
      digest_of_digestible ((able.field evaluatorEq).field sourcesEq)
    refine allOf_ok ?_
    simp only [suiteEq, runtimeEq, sourcesEq, sourcesSha, ok_bind, List.forall_mem_cons]
    exact ⟨⟨_, rfl⟩, fieldIs_ok shaEq _, fieldIs_ok datasetEq _, fieldIs_ok suiteShaEq _,
      fieldIs_ok commitEq _, ⟨_, rfl⟩, fieldIs_ok contextEq _, fieldIs_ok seedEq _,
      fieldIs_ok serverEq _, fieldIs_ok fingerprintEq _, fun _ mem => nomatch mem⟩
  · have other : decide (identityMode identity = some (.text "chat_generation")) = false :=
      decide_eq_false mode
    rw [allOf, ok_bind, other]
    exact ⟨false, rfl⟩

end Audit

section Items

/-- What an item of the index says of its record. -/
structure ItemOf (env : Surroundings) (record identity : Json) (item : QualityRecord) : Prop where
  describes : Describes record identity (shaOf env identity) item.evidence
  sha : item.recordSha256 = shaOf env record
  audited : auditedIfeval env identity = .ok item.audited
  key : repeatKey env record = .ok item.repeatKey

/-- A record of the store joins the index, unless its time stamp is beyond all floats. -/
lemma indexed_eq (valid : validateRecord env record = .ok ())
    (accepted : AcceptedRecord env record identity tables) (able : Digestible record) :
    ∃ result item, record.field "result" = .ok result ∧ ItemOf env record identity item ∧
      indexed env record = checkStamp result >>= fun _ => .ok item := by
  obtain ⟨result, evidence, resultEq, describes, described⟩ := describeRecord_eq valid accepted able
  obtain ⟨identity', fields, version, class', compared⟩ := compared_of_valid valid
  have keyEq : ∃ key, comparisonKey env record = .ok key := ⟨_, compared.key⟩
  obtain ⟨cohort, cohortEq⟩ := keyEq
  obtain ⟨audited, auditedEq⟩ :=
    auditedIfeval_ok (validateIdentity_of_valid valid accepted.field) (able.field accepted.field)
  obtain ⟨key, keyEq⟩ := repeatKey_ok accepted able
  refine ⟨result, ⟨evidence, shaOf env record, cohort, audited, key⟩, resultEq,
    ⟨describes, rfl, auditedEq, keyEq⟩, ?_⟩
  rw [indexed, described]
  cases checkStamp result with
  | error e => rfl
  | ok u =>
    simp only [ok_bind, digest_of_digestible able, lifted_ok, cohortEq, accepted.field, auditedEq, keyEq]
    rfl

/-- A record of the store with its item. -/
structure Paired (env : Surroundings) (pair : Json × QualityRecord) (identity : Json) : Prop where
  valid : validateRecord env pair.1 = .ok ()
  found : pair.1.field "identity" = .ok identity
  accepted : ∃ tables, AcceptedRecord env pair.1 identity tables
  able : Digestible pair.1
  item : ItemOf env pair.1 identity pair.2

/-- Nor does the text of a value. -/
lemma map_textOf_congr {x x' : Except Refusal Json} (same : x.map sortKeys = x'.map sortKeys) :
    x.map textOf = x'.map textOf := by
  have textOf_sortKeys : ∀ v, textOf (sortKeys v) = textOf v := by
    intro v
    cases v <;> rw [sortKeys] <;> rfl
  have text : ∀ y : Except Refusal Json, y.map textOf = (y.map sortKeys).map textOf := by
    intro y
    cases y with
    | ok v => exact congrArg Except.ok (textOf_sortKeys v).symm
    | error e => rfl
  rw [text x, text x', same]

/-- Nor does a field. -/
lemma field_map_congr {v v' : Json} (same : sortKeys v = sortKeys v') (name : String) :
    (v.field name).map sortKeys = (v'.field name).map sortKeys := by
  rw [← field_sortKeys, same, field_sortKeys]

/-- What the index asks of items is the same for items of one identity. -/
lemma item_of_same_identity (inj : Function.Injective env.sha256) {p q : Json × QualityRecord}
    {identity identity' : Json} (pairedP : Paired env p identity) (pairedQ : Paired env q identity')
    (same : p.2.evidence.identitySha256 = q.2.evidence.identitySha256) :
    p.2.evidence.artifactSha256 = q.2.evidence.artifactSha256 ∧
      p.2.evidence.suite = q.2.evidence.suite ∧ p.2.audited = q.2.audited ∧
      p.2.evidence.metrics.map (·.name) = q.2.evidence.metrics.map (·.name) := by
  have describesP := pairedP.item.describes
  have describesQ := pairedQ.item.describes
  rw [describesP.identitySha, describesQ.identitySha] at same
  have sorted := (shaOf_eq_iff inj).mp same
  refine ⟨?_, ?_, ?_, ?_⟩
  · have texts := map_textOf_congr (field_map_congr sorted "artifact_sha256")
    rw [describesP.artifact, describesQ.artifact] at texts
    exact Except.ok.inj texts
  · have through : ∀ identity, (taskOf identity).map textOf =
        identity.field "suite" >>= fun suite => (suite.field "name").map textOf := by
      intro identity
      rw [taskOf]
      cases identity.field "suite" <;> rfl
    have texts : (taskOf identity).map textOf = (taskOf identity').map textOf := by
      rw [through, through]
      exact field_bind_congr sorted fun suites => map_textOf_congr (field_map_congr suites "name")
    rw [describesP.suite, describesQ.suite] at texts
    exact Except.ok.inj texts
  · have audits : auditedIfeval env identity = auditedIfeval env identity' := auditedIfeval_congr sorted
    rw [pairedP.item.audited, pairedQ.item.audited] at audits
    exact Except.ok.inj audits
  · rw [describesP.metrics, describesQ.metrics]
    refine comparedMetrics_eq ?_
    rw [← identityMode_sortKeys, sorted, identityMode_sortKeys]

/-- The key of a repetition holds the stated digest. -/
lemma repeatKey_field {key : String} (ok : repeatKey env record = .ok key) :
    ∃ fields stated, record.field "identity_sha256" = .ok stated ∧ key = shaOf env (.obj fields) ∧
      (Json.obj fields).field "identity_sha256" = .ok stated := by
  simp only [repeatKey, bind_eq_ok, lifted_eq_ok] at ok
  obtain ⟨result, -, stated, statedEq, samples, -, results, -, fields, -, keyEq⟩ := ok
  exact ⟨_, stated, statedEq, (digest_eq_ok.mp keyEq).2, rfl⟩

/-- Records with one repeat key have one identity. -/
lemma identity_of_repeatKey (inj : Function.Injective env.sha256) {p q : Json × QualityRecord}
    {identity identity' : Json} (pairedP : Paired env p identity) (pairedQ : Paired env q identity')
    (same : p.2.repeatKey = q.2.repeatKey) :
    p.2.evidence.identitySha256 = q.2.evidence.identitySha256 := by
  obtain ⟨fields, stated, statedEq, keyEq, inside⟩ := repeatKey_field pairedP.item.key
  obtain ⟨fields', stated', statedEq', keyEq', inside'⟩ := repeatKey_field pairedQ.item.key
  obtain ⟨tables, accepted⟩ := pairedP.accepted
  obtain ⟨tables', accepted'⟩ := pairedQ.accepted
  obtain ⟨sha, shaEq, checksum⟩ := accepted.checksum
  obtain ⟨sha', shaEq', checksum'⟩ := accepted'.checksum
  rw [keyEq, keyEq'] at same
  have sorted := field_of_sortKeys_eq ((shaOf_eq_iff inj).mp same) inside inside'
  cases Except.ok.inj (statedEq.symm.trans checksum)
  cases Except.ok.inj (statedEq'.symm.trans checksum')
  have texts := eq_of_sortKeys_eq sorted rfl rfl
  rw [pairedP.item.describes.identitySha, pairedQ.item.describes.identitySha,
    ← (digest_eq_ok.mp shaEq).2, ← (digest_eq_ok.mp shaEq').2]
  exact PyString.text.inj (Json.str.inj texts)

end Items

section Listing
variable {store : QualityStore} {id : PyString}

/-- What a load says of its record. -/
lemma load_ok (loaded : store.load env id = .ok record) :
    isRecordId id = true ∧ validateRecord env record = .ok () ∧ Digestible record ∧
      ∃ identity, record.field "identity" = .ok identity ∧
        codesOf (shaOf env identity) = id.codes.take 64 := by
  have requested : Requested env id record := by
    rcases load_cases env store id with ⟨record', ok, requested⟩ | ⟨error, refused⟩ | ⟨e, escaped, -⟩
    · rw [Except.ok.inj (ok.symm.trans loaded)] at requested
      exact requested
    · rw [refused] at loaded
      cases loaded
    · rw [escaped] at loaded
      cases loaded
  obtain ⟨identity, sha, found, shaEq, codes⟩ := requested.identity
  rw [(digest_eq_ok.mp shaEq).2] at codes
  rw [QualityStore.load] at loaded
  split at loaded
  · cases loaded
  · rename_i known
    refine ⟨by simpa using known, requested.valid, ?_, identity, found, codes⟩
    split at loaded
    · rename_i content at'
      obtain ⟨read, readEq, checked⟩ := bind_eq_ok.mp loaded
      obtain ⟨valid, sha', digestEq⟩ := readRecord_ok readEq
      have same : read = record := by
        obtain ⟨ok, -⟩ | mismatch := checkRecordId_cases id valid digestEq
        · exact Except.ok.inj (ok.symm.trans checked)
        · rw [mismatch] at checked
          cases checked
      exact same ▸ (digest_eq_ok.mp digestEq).1
    · cases loaded
    · cases loaded
    · cases loaded

/-- The ids of an identity are those whose records state it. -/
lemma matches_iff {sha : String} (known : isRecordId id = true)
    (hex : codesAreHex 64 (codesOf sha) = true) :
    ¬(id.codes ≠ codesOf sha ∧ ¬codesOf (sha ++ "-") <+: id.codes) ↔ id.codes.take 64 = codesOf sha := by
  have length := length_of_hex hex
  have dash : codesOf (sha ++ "-") = codesOf sha ++ [45] := by
    rw [codesOf, String.toList_append, List.map_append]
    rfl
  rw [dash]
  constructor
  · intro fits
    by_cases whole : id.codes = codesOf sha
    · rw [whole, List.take_of_length_le (by omega)]
    · have starts : codesOf sha ++ [45] <+: id.codes := by
        by_contra other
        exact fits ⟨whole, other⟩
      obtain ⟨rest, eq⟩ := starts
      rw [← eq, List.append_assoc, List.take_append_of_le_length (by omega),
        List.take_of_length_le (by omega)]
  · intro start ⟨apart, other⟩
    rw [isRecordId, Bool.or_eq_true, Bool.and_eq_true, Bool.and_eq_true, decide_eq_true_eq] at known
    rcases known with short | ⟨⟨-, at'⟩, -⟩
    · refine apart ?_
      rw [← start, List.take_of_length_le (length_of_hex short).le]
    · refine other ⟨id.codes.drop 65, ?_⟩
      have next : id.codes.drop 64 = 45 :: id.codes.drop 65 := by
        have bound := (List.getElem?_eq_some_iff.mp at').1
        rw [List.drop_eq_getElem_cons bound, (List.getElem?_eq_some_iff.mp at').2]
      rw [List.append_assoc, List.singleton_append, ← next, ← start, List.take_append_drop]

/-- Whether a lookup of an identity counts a record. -/
def counts (sha : String) (record : Json) : Bool :=
  match record.field "identity_sha256", isReusableEvidence record with
  | .ok stated, .ok reusable => pyEq stated (.str sha) && reusable
  | _, _ => false

/-- The records of an identity are those of the listing that count. -/
lemma reusableOf_eq {ids : List PyString} {records : List Json} {sha : String}
    (hex : codesAreHex 64 (codesOf sha) = true) (run : recordsOf env store ids = .ok records) :
    reusableOf env store sha ids = .ok (records.filter (counts sha)) := by
  induction ids generalizing records with
  | nil =>
    cases run
    rfl
  | cons id ids ih =>
    rw [recordsOf] at run
    rw [reusableOf]
    cases loaded : store.load env id with
    | error error =>
      rw [loaded] at run
      cases error with
      | store error =>
        rw [ih run]
        split <;> rfl
      | escaped e => cases run
    | ok record =>
      rw [loaded] at run
      obtain ⟨rest, others, rfl⟩ := exists_of_map_eq_ok run
      obtain ⟨known, valid, able, identity, found, codes⟩ := load_ok loaded
      obtain ⟨identity', tables, accepted⟩ := validateRecord_ok valid
      cases Except.ok.inj (accepted.field.symm.trans found)
      obtain ⟨stated, statedEq, checksum⟩ := accepted.checksum
      rw [(digest_eq_ok.mp statedEq).2] at checksum
      obtain ⟨reusable, reusableEq⟩ := isReusableEvidence_ok accepted
      have counted : counts sha record =
          (pyEq (.str (.text (shaOf env identity))) (.str (.text sha)) && reusable) := by
        rw [counts, checksum, reusableEq]
      rw [ih others, List.filter_cons, counted]
      split
      · rename_i other
        have apart : pyEq (.str (.text (shaOf env identity))) (.str (.text sha)) = false := by
          rw [Bool.eq_false_iff, Ne, pyEq_str]
          intro same
          cases same
          exact (matches_iff known hex).mpr codes.symm other
        rw [apart, Bool.false_and, if_neg Bool.false_ne_true]
      · dsimp only
        rw [checksum, reusableEq]
        simp only [lifted_ok, ok_bind]
        cases pyEq (.str (.text (shaOf env identity))) (.str (.text sha)) <;> cases reusable <;> rfl

end Listing

section Pairs

/-- The stamp of a result is fine or too large. -/
lemma checkStamp_cases {result : Json} {fields : List (PyString × Json)} (dict : result = .obj fields) :
    checkStamp result = .ok () ∨ checkStamp result = .error .overflow := by
  subst dict
  rw [checkStamp, Json.entries, ok_bind]
  dsimp only
  generalize getField fields "date" = stamp
  split
  · rename_i number
    cases stamp with
    | bool b => exact .inl rfl
    | int n =>
      rw [isFinite]
      split
      · exact .inr rfl
      · exact .inl rfl
    | float x => cases x <;> exact .inl rfl
    | null => cases number
    | str s => cases number
    | arr items => cases number
    | obj fields => cases number
  · exact .inl rfl

/-- What joins the index are the items of the records, in their order. -/
lemma pairs_of_index {records : List Json} {start index : QualityRecordIndex}
    (loaded : ∀ record ∈ records, validateRecord env record = .ok () ∧ Digestible record)
    (run : records.foldlM (addRecord env) start = .ok index) :
    ∃ pairs : List (Json × QualityRecord), pairs.map Prod.fst = records ∧
      (∀ pair ∈ pairs, ∃ identity, Paired env pair identity) ∧
      index.byArtifact = (pairs.map Prod.snd).foldl
        (fun groups item => addTo groups item.evidence.artifactSha256 item) start.byArtifact := by
  induction records generalizing start with
  | nil =>
    cases run
    exact ⟨[], rfl, List.forall_mem_nil _, rfl⟩
  | cons record records ih =>
    rw [List.forall_mem_cons] at loaded
    obtain ⟨⟨valid, able⟩, loaded⟩ := loaded
    obtain ⟨identity, tables, accepted⟩ := validateRecord_ok valid
    obtain ⟨result, item, resultEq, itemOf, indexedEq⟩ := indexed_eq valid accepted able
    -- an accepted result is a dictionary, so the stamp is judged
    have dict : ∃ fields, result = .obj fields := by
      obtain ⟨result', task, samples, resultEq', -, samplesEq, -⟩ := accepted.belongs.task
      cases Except.ok.inj (resultEq.symm.trans resultEq')
      obtain ⟨all, allEq⟩ := table_of_taskTable samplesEq
      obtain ⟨fields, dict, -⟩ := field_eq_ok.mp allEq
      exact ⟨fields, dict⟩
    obtain ⟨fields, dict⟩ := dict
    rw [List.foldlM_cons] at run
    obtain ⟨next, added, run⟩ := bind_eq_ok.mp run
    rcases checkStamp_cases dict with fine | overflow
    · rw [fine, ok_bind] at indexedEq
      rw [addRecord, indexedEq] at added
      obtain ⟨pairs, firsts, paired, groups⟩ := ih loaded run
      cases added
      refine ⟨(record, item) :: pairs, ?_, ?_, ?_⟩
      · rw [List.map_cons, firsts]
      · rw [List.forall_mem_cons]
        exact ⟨⟨identity, valid, accepted.field, ⟨tables, accepted⟩, able, itemOf⟩, paired⟩
      · exact groups
    · rw [overflow] at indexedEq
      rw [addRecord, indexedEq] at added
      cases added

variable {pairs : List (Json × QualityRecord)}

/-- A function of the records gives the records of the index. -/
lemma mapM_fst {α : Type} {f : Json → Except ε α} {g : Json × QualityRecord → α}
    (same : ∀ pair ∈ pairs, f pair.1 = .ok (g pair)) : (pairs.map Prod.fst).mapM f = .ok (pairs.map g) := by
  induction pairs with
  | nil => rfl
  | cons pair pairs ih =>
    rw [List.forall_mem_cons] at same
    rw [List.map_cons, List.mapM_cons, same.1, ok_bind, ih same.2]
    rfl

/-- There is one value when all are one. -/
lemma dedup_length_eq_one {α : Type} [DecidableEq α] {l : List α} :
    l.dedup.length = 1 ↔ ∃ a ∈ l, ∀ b ∈ l, b = a := by
  rw [List.length_eq_one_iff]
  constructor
  · intro ⟨a, eq⟩
    refine ⟨a, List.mem_dedup.mp (eq ▸ List.mem_singleton_self a), ?_⟩
    intro b mem
    have mem := List.mem_dedup.mpr mem
    rw [eq] at mem
    exact List.mem_singleton.mp mem
  · intro ⟨a, inside, all⟩
    refine ⟨a, ?_⟩
    have nodup := List.nodup_dedup l
    cases rest : l.dedup with
    | nil => exact absurd (List.mem_dedup.mpr inside) (by rw [rest]; exact List.not_mem_nil)
    | cons b others =>
      have members : ∀ c ∈ b :: others, c = a := by
        intro c mem
        exact all c (List.mem_dedup.mp (rest ▸ mem))
      rw [rest] at nodup
      cases others with
      | nil => rw [members b List.mem_cons_self]
      | cons c others =>
        have first := members b List.mem_cons_self
        have second := members c (List.mem_cons_of_mem _ List.mem_cons_self)
        rw [first, second] at nodup
        exact absurd List.mem_cons_self (List.nodup_cons.mp nodup).1

/-- What a lookup says of records that count: the result of the least digest, when their keys agree. -/
lemma agreed_eq (paired : ∀ pair ∈ pairs, ∃ identity, Paired env pair identity) :
    agreed env (pairs.map Prod.fst) =
      if (pairs.map (·.2.repeatKey)).dedup.length ≠ 1 then .ok none
      else
        match sortedBy (·.2.recordSha256) pairs with
        | pair :: _ => (lifted (pair.1.field "result")).map some
        | [] => .ok none := by
  have keys : (pairs.map Prod.fst).mapM (repeatKey env) = .ok (pairs.map (·.2.repeatKey)) := by
    refine mapM_fst ?_
    intro pair mem
    obtain ⟨identity, paired⟩ := paired pair mem
    exact paired.item.key
  have shas : (pairs.map Prod.fst).mapM (digest env) = .ok (pairs.map (·.2.recordSha256)) := by
    refine mapM_fst ?_
    intro pair mem
    obtain ⟨identity, paired⟩ := paired pair mem
    rw [paired.item.sha, digest_of_digestible paired.able]
  have zipped : sortedBy (·.1) ((pairs.map (·.2.recordSha256)).zip (pairs.map Prod.fst)) =
      (sortedBy (·.2.recordSha256) pairs).map fun pair => (pair.2.recordSha256, pair.1) := by
    have commutes := @map_sortedBy _ _ _ _ (fun pair => pair.2.recordSha256) (fun entry => entry.1)
      (fun pair : Json × QualityRecord => (pair.2.recordSha256, pair.1)) (fun _ => rfl) pairs
    rw [List.zip_map', commutes]
  rw [agreed, keys, ok_bind]
  split
  · rfl
  · rw [representative, shas, lifted_ok, ok_bind, zipped]
    cases sortedBy (·.2.recordSha256) pairs with
    | nil => rfl
    | cons pair rest =>
      rw [List.map_cons]
      dsimp only
      cases pair.1.field "result" <;> rfl

end Pairs

section Readers
variable {store : QualityStore} {index : QualityRecordIndex} {pairs : List (Json × QualityRecord)}
  {sha profile : Option String} {suite metric : String}

/-- Whether an item is a complete audited run of a suite with a metric. -/
def completes (suite metric : String) (item : QualityRecord) : Bool :=
  item.evidence.suite = suite && item.evidence.reusable && item.audited &&
    item.evidence.metrics.any (·.name = metric)

/-- The records that are complete for an artifact. -/
def candidates (pairs : List (Json × QualityRecord)) (sha : Option String) (suite metric : String) :
    List (Json × QualityRecord) :=
  pairs.filter fun pair => (sha = some pair.2.evidence.artifactSha256 && completes suite metric pair.2)

/-- The records that count for an identity. -/
def repeats (pairs : List (Json × QualityRecord)) (identity : String) : List (Json × QualityRecord) :=
  pairs.filter fun pair => (pair.2.evidence.identitySha256 = identity && pair.2.evidence.reusable)

/-- What the index finds complete are the candidates. -/
lemma lookup_of_groups
    (groups : index.byArtifact = grouped (fun item => some item.evidence.artifactSha256)
      (pairs.map Prod.snd)) :
    (QualityIndex.lookup index sha).filter (completes suite metric) =
      (candidates pairs sha suite metric).map Prod.snd := by
  cases sha with
  | none =>
    have empty : candidates pairs none suite metric = [] := by
      rw [candidates, List.filter_eq_nil_iff]
      intro pair mem kept
      simp at kept
    rw [empty]
    rfl
  | some sha =>
    rw [QualityIndex.lookup, Option.bind_some, groups, getD_lookup_grouped, List.filter_filter,
      candidates, List.filter_map]
    congr 2
    funext pair
    simp only [Function.comp_apply, Option.some.injEq, eq_comm, Bool.and_comm]

/-- What the store holds for an artifact, by the records that are complete for it. -/
lemma storedQuality_of_groups (sha : Option String)
    (groups : index.byArtifact = grouped (fun item => some item.evidence.artifactSha256)
      (pairs.map Prod.snd))
    (suiteEq : profile.bind profileSuite = some suite)
    (metricEq : profile.bind primaryMetric = some metric) :
    (storedQuality index sha profile).distinct =
        ((candidates pairs sha suite metric).map (·.2.repeatKey)).dedup.length ∧
      (storedQuality index sha profile).applicable =
        if ((candidates pairs sha suite metric).map (·.2.repeatKey)).dedup.length ≠ 1 then none
        else (sortedBy (·.2.recordSha256) (candidates pairs sha suite metric)).head?.bind fun pair =>
          (pair.2.evidence.metrics.find? (·.name = metric)).map fun metric => (pair.2, metric) := by
  -- the complete items in the index's order are those of the candidates
  have complete : sortedBy (·.recordSha256)
      ((QualityIndex.lookup index sha).filter (completes suite metric)) =
        (sortedBy (·.2.recordSha256) (candidates pairs sha suite metric)).map Prod.snd := by
    rw [lookup_of_groups groups]
    exact (map_sortedBy Prod.snd (fun _ => rfl) _).symm
  have distinct : ((sortedBy (·.recordSha256)
      ((QualityIndex.lookup index sha).filter (completes suite metric))).map (·.repeatKey)).dedup.length =
        ((candidates pairs sha suite metric).map (·.2.repeatKey)).dedup.length := by
    rw [complete, List.map_map]
    exact ((sortedBy_perm _ _).map _).dedup.length_eq
  have stored : storedQuality index sha profile =
      { applicable :=
          if ((sortedBy (·.recordSha256)
              ((QualityIndex.lookup index sha).filter (completes suite metric))).map
                (·.repeatKey)).dedup.length ≠ 1 then none
          else (sortedBy (·.recordSha256)
            ((QualityIndex.lookup index sha).filter (completes suite metric))).head?.bind fun record =>
              (record.evidence.metrics.find? (·.name = metric)).map fun metric => (record, metric)
        complete := (sortedBy (·.recordSha256)
          ((QualityIndex.lookup index sha).filter (completes suite metric))).length
        distinct := ((sortedBy (·.recordSha256)
          ((QualityIndex.lookup index sha).filter (completes suite metric))).map
            (·.repeatKey)).dedup.length } := by
    rw [storedQuality, suiteEq, metricEq]
    rfl
  rw [stored]
  dsimp only
  rw [distinct, complete, List.head?_map, Option.bind_map]
  exact ⟨rfl, rfl⟩

/-- Repetitions are of indexed records. -/
lemma paired_of_repeats (paired : ∀ pair ∈ pairs, ∃ identity, Paired env pair identity)
    (identity : String) : ∀ pair ∈ repeats pairs identity, ∃ identity, Paired env pair identity :=
  fun pair mem => paired pair (List.mem_filter.mp mem).1

/-- What a complete record is. -/
lemma completes_iff {item : QualityRecord} :
    completes suite metric item = true ↔ item.evidence.suite = suite ∧ item.evidence.reusable = true ∧
      item.audited = true ∧ metric ∈ item.evidence.metrics.map (·.name) := by
  rw [completes, Bool.and_eq_true, Bool.and_eq_true, Bool.and_eq_true, decide_eq_true_eq, List.any_eq_true,
    List.mem_map, and_assoc, and_assoc]
  simp only [decide_eq_true_eq]

/-- Where the complete records have one identity, they are all that count for it. -/
lemma candidates_eq_repeats (inj : Function.Injective env.sha256)
    (paired : ∀ pair ∈ pairs, ∃ identity, Paired env pair identity) {first : Json × QualityRecord}
    (inside : first ∈ candidates pairs sha suite metric)
    (one : ∀ pair ∈ candidates pairs sha suite metric,
      pair.2.evidence.identitySha256 = first.2.evidence.identitySha256) :
    candidates pairs sha suite metric = repeats pairs first.2.evidence.identitySha256 := by
  obtain ⟨memFirst, complete⟩ := List.mem_filter.mp inside
  rw [Bool.and_eq_true, decide_eq_true_eq, completes_iff] at complete
  obtain ⟨artifact, suiteIs, -, audited, measured⟩ := complete
  obtain ⟨identity, pairedFirst⟩ := paired first memFirst
  refine List.filter_congr ?_
  intro pair mem
  rw [Bool.eq_iff_iff]
  constructor
  · intro complete
    have same := one pair (List.mem_filter.mpr ⟨mem, complete⟩)
    rw [Bool.and_eq_true, decide_eq_true_eq, completes_iff] at complete
    rw [Bool.and_eq_true, decide_eq_true_eq]
    exact ⟨same, complete.2.2.1⟩
  · intro counted
    rw [Bool.and_eq_true, decide_eq_true_eq] at counted
    obtain ⟨same, reusable⟩ := counted
    obtain ⟨identity', pairedPair⟩ := paired pair mem
    obtain ⟨artifacts, suites, audits, names⟩ :=
      item_of_same_identity inj pairedPair pairedFirst same
    rw [Bool.and_eq_true, decide_eq_true_eq, completes_iff, artifacts, suites, audits, names]
    exact ⟨artifact, suiteIs, reusable, audited, measured⟩

/-- A lookup of the identity of a record goes through the records that count for it. -/
lemma lookup_of_pairs (paired : ∀ pair ∈ pairs, ∃ identity, Paired env pair identity)
    (listed : store.records env = .ok (pairs.map Prod.fst)) {pair : Json × QualityRecord}
    (mem : pair ∈ pairs) {identity : Json} (found : pair.1.field "identity" = .ok identity) :
    store.lookup env identity =
      if store.entries.lookup (.text pair.2.evidence.identitySha256) = some .outside then .ok none
      else agreed env ((repeats pairs pair.2.evidence.identitySha256).map Prod.fst) := by
  obtain ⟨identity', pairedPair⟩ := paired pair mem
  cases Except.ok.inj (pairedPair.found.symm.trans found)
  have valid := validateIdentity_of_valid pairedPair.valid found
  have shaEq : digest env identity = .ok pair.2.evidence.identitySha256 := by
    rw [pairedPair.item.describes.identitySha]
    exact digest_of_digestible (pairedPair.able.field found)
  -- the record was loaded under its id, and so its identity has a digest
  have hex : codesAreHex 64 (codesOf pair.2.evidence.identitySha256) = true := by
    have inside : pair.1 ∈ pairs.map Prod.fst := List.mem_map_of_mem mem
    rw [recordsOf_eq listed] at inside
    obtain ⟨id, -, loaded⟩ := List.mem_filterMap.mp inside
    have loaded : store.load env id = .ok pair.1 := by
      cases load : store.load env id with
      | ok record =>
        rw [load] at loaded
        exact congrArg Except.ok (Option.some.inj loaded)
      | error e =>
        rw [load] at loaded
        cases loaded
    obtain ⟨known, -, -, identity', found', codes⟩ := load_ok loaded
    cases Except.ok.inj (found'.symm.trans found)
    rw [pairedPair.item.describes.identitySha, codes]
    rw [isRecordId, Bool.or_eq_true, Bool.and_eq_true, Bool.and_eq_true] at known
    rcases known with short | ⟨⟨long, -⟩, -⟩
    · rwa [List.take_of_length_le (length_of_hex short).le]
    · exact long
  -- the store counts for an identity what the index calls its repetitions
  have counted : (pairs.map Prod.fst).filter (counts pair.2.evidence.identitySha256) =
      (repeats pairs pair.2.evidence.identitySha256).map Prod.fst := by
    rw [List.filter_map, repeats]
    congr 1
    refine List.filter_congr ?_
    intro other memOther
    obtain ⟨identity', pairedOther⟩ := paired other memOther
    obtain ⟨tables, accepted⟩ := pairedOther.accepted
    obtain ⟨stated, statedEq, checksum⟩ := accepted.checksum
    rw [(digest_eq_ok.mp statedEq).2, ← pairedOther.item.describes.identitySha] at checksum
    rw [Function.comp_apply, counts, checksum, pairedOther.item.describes.reusable]
    dsimp only
    congr 1
    rw [Bool.eq_iff_iff, pyEq_str, decide_eq_true_eq]
    simp only [Json.str.injEq, PyString.text.injEq]
  rw [QualityStore.lookup, valid, ok_bind, shaEq, lifted_ok]
  dsimp only
  rw [isRecordId_primary hex, Bool.not_true, Bool.false_or, reusableOf_eq hex listed, ok_bind, counted]
  simp only [decide_eq_true_eq]

/-- The pairs of a listing that the index accepts. -/
lemma pairs_of_listing {records : List Json} (listed : store.records env = .ok records)
    (run : indexQualityRecords env records = .ok index) :
    ∃ pairs : List (Json × QualityRecord), pairs.map Prod.fst = records ∧
      (∀ pair ∈ pairs, ∃ identity, Paired env pair identity) ∧
      index.byArtifact = grouped (fun item => some item.evidence.artifactSha256)
        (pairs.map Prod.snd) := by
  refine pairs_of_index ?_ run
  intro record mem
  rw [recordsOf_eq listed] at mem
  obtain ⟨id, -, loaded⟩ := List.mem_filterMap.mp mem
  cases load : store.load env id with
  | ok record' =>
    rw [load] at loaded
    cases loaded
    obtain ⟨-, valid, able, -⟩ := load_ok load
    exact ⟨valid, able⟩
  | error e =>
    rw [load] at loaded
    cases loaded

/-- An item of the index that a profile counts for an artifact. -/
def Complete (index : QualityRecordIndex) (sha profile : Option String) (item : QualityRecord) : Prop :=
  ∃ suite metric, profile.bind profileSuite = some suite ∧ profile.bind primaryMetric = some metric ∧
    item ∈ QualityIndex.lookup index sha ∧ completes suite metric item = true

/-- What is found complete is a candidate. -/
lemma mem_candidates_of_complete
    (groups : index.byArtifact = grouped (fun item => some item.evidence.artifactSha256)
      (pairs.map Prod.snd)) {item : QualityRecord} (inside : item ∈ QualityIndex.lookup index sha)
    (complete : completes suite metric item = true) :
    ∃ record, (record, item) ∈ candidates pairs sha suite metric := by
  have mem : item ∈ (QualityIndex.lookup index sha).filter (completes suite metric) :=
    List.mem_filter.mpr ⟨inside, complete⟩
  rw [lookup_of_groups groups] at mem
  obtain ⟨⟨record, item'⟩, kept, rfl⟩ := List.mem_map.mp mem
  exact ⟨record, kept⟩

/-- What is applied is the least of records with one answer, and one identity. -/
lemma applicable_cases (inj : Function.Injective env.sha256)
    (paired : ∀ pair ∈ pairs, ∃ identity, Paired env pair identity)
    (groups : index.byArtifact = grouped (fun item => some item.evidence.artifactSha256)
      (pairs.map Prod.snd)) {item : QualityRecord} {measured : QualityMetric}
    (applied : (storedQuality index sha profile).applicable = some (item, measured)) :
    ∃ record rest, (record, item) ∈ pairs ∧
      sortedBy (·.2.recordSha256) (repeats pairs item.evidence.identitySha256) = (record, item) :: rest ∧
      ((repeats pairs item.evidence.identitySha256).map (·.2.repeatKey)).dedup.length = 1 := by
  cases suiteEq : profile.bind profileSuite with
  | none =>
    rw [storedQuality, suiteEq] at applied
    cases applied
  | some suite =>
    cases metricEq : profile.bind primaryMetric with
    | none =>
      rw [storedQuality, suiteEq, metricEq] at applied
      cases applied
    | some metric =>
      obtain ⟨-, stored⟩ := storedQuality_of_groups sha groups suiteEq metricEq
      rw [stored] at applied
      split at applied
      · cases applied
      · rename_i one
        rw [not_not] at one
        obtain ⟨⟨record, item'⟩, head, chosen⟩ := Option.bind_eq_some_iff.mp applied
        obtain ⟨metric', -, eq⟩ := Option.map_eq_some_iff.mp chosen
        cases eq
        obtain ⟨rest, sorted⟩ := List.head?_eq_some_iff.mp head
        have inside : (record, item') ∈ candidates pairs sha suite metric := by
          have listed : (record, item') ∈
              sortedBy (·.2.recordSha256) (candidates pairs sha suite metric) := by
            rw [sorted]
            exact List.mem_cons_self
          exact mem_sortedBy.mp listed
        -- one answer among the candidates, and so one identity
        have same : ∀ pair ∈ candidates pairs sha suite metric,
            pair.2.evidence.identitySha256 = item'.evidence.identitySha256 := by
          obtain ⟨key, -, all⟩ := dedup_length_eq_one.mp one
          intro pair mem
          obtain ⟨identity, pairedPair⟩ := paired pair (List.mem_filter.mp mem).1
          obtain ⟨identity', pairedItem⟩ := paired (record, item') (List.mem_filter.mp inside).1
          refine identity_of_repeatKey inj pairedPair pairedItem ?_
          rw [all _ (List.mem_map_of_mem mem), all _ (List.mem_map_of_mem inside)]
        have whole := candidates_eq_repeats inj paired inside same
        rw [whole] at sorted one
        exact ⟨record, rest, (List.mem_filter.mp inside).1, sorted, one⟩

end Readers

section Main
variable {store : QualityStore} {index : QualityRecordIndex} {records : List Json}

/-- A lookup of an identity gives the result that the index applies, unless the file named by the identity
alone leads out of the store, and none where complete runs of the identity disagree. -/
theorem lookup_of_storedQuality (inj : Function.Injective env.sha256)
    (listed : store.records env = .ok records) (run : indexQualityRecords env records = .ok index)
    (sha profile : Option String) :
    (∀ item metric, (storedQuality index sha profile).applicable = some (item, metric) →
      (∃ record ∈ records, digest env record = .ok item.recordSha256) ∧
        ∀ record ∈ records, digest env record = .ok item.recordSha256 →
          ∃ identity result found, record.field "identity" = .ok identity ∧
            record.field "result" = .ok result ∧ sortKeys found = sortKeys result ∧
            store.lookup env identity =
              if store.entries.lookup (.text item.evidence.identitySha256) = some .outside then .ok none
              else .ok (some found)) ∧
    ∀ first second, Complete index sha profile first → Complete index sha profile second →
      first.evidence.identitySha256 = second.evidence.identitySha256 →
      first.repeatKey ≠ second.repeatKey →
        1 < (storedQuality index sha profile).distinct ∧
          ∀ record ∈ records, ∀ identity, record.field "identity" = .ok identity →
            digest env identity = .ok first.evidence.identitySha256 →
              store.lookup env identity = .ok none := by
  obtain ⟨pairs, rfl, paired, groups⟩ := pairs_of_listing listed run
  constructor
  · intro item metric applied
    obtain ⟨record, rest, mem, sorted, one⟩ := applicable_cases inj paired groups applied
    obtain ⟨identity, pairedItem⟩ := paired _ mem
    have sha : digest env record = .ok item.recordSha256 := by
      rw [pairedItem.item.sha]
      exact digest_of_digestible pairedItem.able
    refine ⟨⟨record, List.mem_map_of_mem mem, sha⟩, ?_⟩
    intro other memOther shaOther
    obtain ⟨pair, memPair, rfl⟩ := List.mem_map.mp memOther
    obtain ⟨identity', pairedPair⟩ := paired _ memPair
    -- records of one digest are equal up to the order of their keys
    have trees : sortKeys pair.1 = sortKeys record := by
      rw [← shaOf_eq_iff inj, ← (digest_eq_ok.mp shaOther).2, ← (digest_eq_ok.mp sha).2]
    have same : pair.2.evidence.identitySha256 = item.evidence.identitySha256 := by
      rw [pairedPair.item.describes.identitySha, pairedItem.item.describes.identitySha,
        shaOf_eq_iff inj]
      exact field_of_sortKeys_eq trees pairedPair.found pairedItem.found
    obtain ⟨_, accepted⟩ := pairedPair.accepted
    obtain ⟨_, acceptedItem⟩ := pairedItem.accepted
    obtain ⟨result, _, _, resultEq, -⟩ := accepted.belongs.task
    obtain ⟨found, _, _, foundEq, -⟩ := acceptedItem.belongs.task
    refine ⟨identity', result, found, pairedPair.found, resultEq,
      field_of_sortKeys_eq trees.symm foundEq resultEq, ?_⟩
    -- the applied item is the least of its repetitions, which `lookup` agrees on
    have chosen : agreed env ((repeats pairs item.evidence.identitySha256).map Prod.fst) =
        .ok (some found) := by
      rw [agreed_eq (paired_of_repeats paired _), if_neg (not_not.mpr one), sorted]
      dsimp only
      rw [foundEq]
      rfl
    rw [lookup_of_pairs paired listed memPair pairedPair.found, same, chosen]
  · intro first second completeFirst completeSecond same apart
    obtain ⟨suite, metric, suiteEq, metricEq, insideFirst, isFirst⟩ := completeFirst
    obtain ⟨suite', metric', suiteEq', metricEq', insideSecond, isSecond⟩ := completeSecond
    cases Option.some.inj (suiteEq.symm.trans suiteEq')
    cases Option.some.inj (metricEq.symm.trans metricEq')
    obtain ⟨recordFirst, memFirst⟩ := mem_candidates_of_complete groups insideFirst isFirst
    obtain ⟨recordSecond, memSecond⟩ := mem_candidates_of_complete groups insideSecond isSecond
    -- any list with both records has more than one answer
    have disagree : ∀ {l : List (Json × QualityRecord)}, (recordFirst, first) ∈ l →
        (recordSecond, second) ∈ l → 1 < (l.map (·.2.repeatKey)).dedup.length := by
      intro l memFirst memSecond
      have inside := List.mem_dedup.mpr (List.mem_map_of_mem (f := (·.2.repeatKey)) memFirst)
      have some := List.length_pos_of_mem inside
      have several : (l.map (·.2.repeatKey)).dedup.length ≠ 1 := by
        intro one
        obtain ⟨key, -, all⟩ := dedup_length_eq_one.mp one
        refine apart ?_
        rw [all _ (List.mem_map_of_mem memFirst), all _ (List.mem_map_of_mem memSecond)]
      omega
    obtain ⟨distinct, -⟩ := storedQuality_of_groups sha groups suiteEq metricEq
    refine ⟨distinct ▸ disagree memFirst memSecond, ?_⟩
    intro record mem identity found shaEq
    obtain ⟨pair, memPair, rfl⟩ := List.mem_map.mp mem
    obtain ⟨identity', pairedPair⟩ := paired _ memPair
    cases Except.ok.inj (pairedPair.found.symm.trans found)
    have ofIdentity : pair.2.evidence.identitySha256 = first.evidence.identitySha256 := by
      rw [pairedPair.item.describes.identitySha, (digest_eq_ok.mp shaEq).2]
    -- a complete candidate of the identity is one of its repetitions
    have counted : ∀ {record item}, (record, item) ∈ candidates pairs sha suite metric →
        item.evidence.identitySha256 = first.evidence.identitySha256 →
          (record, item) ∈ repeats pairs first.evidence.identitySha256 := by
      intro record item mem of
      obtain ⟨inside, complete⟩ := List.mem_filter.mp mem
      rw [Bool.and_eq_true, completes_iff] at complete
      refine List.mem_filter.mpr ⟨inside, ?_⟩
      rw [Bool.and_eq_true, decide_eq_true_eq]
      exact ⟨of, complete.2.2.1⟩
    have several := disagree (counted memFirst rfl) (counted memSecond same.symm)
    rw [lookup_of_pairs paired listed memPair found, ofIdentity,
      agreed_eq (paired_of_repeats paired _), if_pos several.ne']
    split <;> rfl

end Main

section Example
variable {selection : Selection}

/-- The dataset of the suite is audited. -/
lemma auditedIfeval_chat (same : pyEq selection.dataset ifevalDataset = true) :
    auditedIfeval selection.surroundings selection.identity = .ok true := by
  have sources : digest selection.surroundings chatSources = .ok ifevalSourcesSha256 := by
    rw [digest_of_digestible ⟨rfl, rfl, rfl⟩, sha_sources]
    rfl
  have reduced : auditedIfeval selection.surroundings selection.identity = (do
      both (pyEq selection.dataset ifevalDataset) do
        let sources ← digest selection.surroundings chatSources
        both (sources = ifevalSourcesSha256) (.ok true)) := rfl
  rw [reduced, same, sources]
  rfl

/-- A run of the whole dataset is reusable. -/
lemma isReusableEvidence_chat (whole : selection.ids = List.range selection.total) :
    isReusableEvidence selection.record = .ok true := by
  have reduced : isReusableEvidence selection.record = .ok (pyEq (.arr selection.idsJson)
      (.arr ((List.range selection.total).map fun id : ℕ => Json.int id))) := rfl
  rw [reduced, ← whole]
  exact congrArg Except.ok (pyEq_self (.arr selection.idsJson) digestible_ids.finite distinct_ids)

/-- The whole split of the audited suite. -/
def wholeSplit : Selection where
  total := 541
  ids := List.range 541
  nonempty := mt List.range_eq_nil.mp (by decide)
  nodup := List.nodup_range
  inside := fun _ mem => List.mem_range.mp mem
  small := lt_of_lt_thousand (by decide)

/-- The whole split is the dataset of the suite. -/
lemma dataset_wholeSplit : wholeSplit.dataset = ifevalDataset := by
  simp only [Selection.dataset, Selection.idsJson, wholeSplit, ifevalDataset, Nat.cast_ofNat]

/-- The name of the general profile. -/
def chatProfile : String := "ifeval-instructions-en-v1"

/-- The index of the record of the whole split applies it. -/
lemma indexed_wholeSplit : ∃ index item metric,
    indexQualityRecords wholeSplit.surroundings [wholeSplit.record] = .ok index ∧
      item.recordSha256 = recordSha ∧
      (storedQuality index (some documentSha) (some chatProfile)).applicable = some (item, metric) := by
  obtain ⟨identity, tables, accepted⟩ := @validateRecord_ok wholeSplit.surroundings _ validateRecord_chat
  obtain ⟨result, item, resultEq, itemOf, indexedEq⟩ :=
    indexed_eq validateRecord_chat accepted digestible_record
  cases Except.ok.inj ((rfl : wholeSplit.record.field "identity" = .ok wholeSplit.identity).symm.trans
    accepted.field)
  cases Except.ok.inj ((rfl : wholeSplit.record.field "result" = .ok wholeSplit.result).symm.trans resultEq)
  have stamp : checkStamp wholeSplit.result = .ok () := rfl
  rw [stamp, ok_bind] at indexedEq
  have whole : Digestible wholeSplit.dataset :=
    digestible_identity.field (rfl : wholeSplit.identity.field "dataset" = .ok wholeSplit.dataset)
  have range : wholeSplit.ids = List.range wholeSplit.total := by
    rw [wholeSplit]
  have audited : item.audited = true := by
    have same : pyEq wholeSplit.dataset ifevalDataset = true := by
      rw [← dataset_wholeSplit]
      exact pyEq_self _ whole.finite distinct_dataset
    exact Except.ok.inj (itemOf.audited.symm.trans (auditedIfeval_chat same))
  have reusable : item.evidence.reusable = true :=
    Except.ok.inj (itemOf.describes.reusable.symm.trans (isReusableEvidence_chat range))
  have suite : item.evidence.suite = "jaull-ifeval-chat-v1" :=
    (Except.ok.inj itemOf.describes.suite).symm
  have artifact : item.evidence.artifactSha256 = documentSha :=
    (Except.ok.inj itemOf.describes.artifact).symm
  have named : "prompt_level_strict_acc" ∈ item.evidence.metrics.map (·.name) := by
    rw [itemOf.describes.metrics]
    exact List.mem_cons_self
  have measured : ∃ metric,
      item.evidence.metrics.find? (·.name = "prompt_level_strict_acc") = some metric := by
    obtain ⟨metric, mem, same⟩ := List.mem_map.mp named
    refine Option.isSome_iff_exists.mp (List.find?_isSome.mpr ⟨metric, mem, ?_⟩)
    exact decide_eq_true same
  obtain ⟨metric, found⟩ := measured
  let index : QualityRecordIndex := { byArtifact := [(documentSha, [item])] }
  have run : indexQualityRecords wholeSplit.surroundings [wholeSplit.record] = .ok index := by
    have added : addRecord wholeSplit.surroundings {} wholeSplit.record = .ok index := by
      rw [addRecord, indexedEq]
      dsimp only
      rw [artifact]
      rfl
    rw [indexQualityRecords, List.foldlM_cons, added]
    rfl
  refine ⟨index, item, metric, run, itemOf.sha.trans sha_record, ?_⟩
  have groups : index.byArtifact = grouped (fun item => some item.evidence.artifactSha256)
      ([(wholeSplit.record, item)].map Prod.snd) := by
    have one : grouped (fun item : QualityRecord => some item.evidence.artifactSha256) [item] =
        [(item.evidence.artifactSha256, [item])] := rfl
    exact (one.trans (by rw [artifact])).symm
  have complete : candidates [(wholeSplit.record, item)] (some documentSha) "jaull-ifeval-chat-v1"
      "prompt_level_strict_acc" = [(wholeSplit.record, item)] := by
    refine List.filter_cons_of_pos ?_
    rw [Bool.and_eq_true, decide_eq_true_eq, completes_iff]
    exact ⟨congrArg some artifact.symm, suite, reusable, audited, named⟩
  have profile : (some chatProfile).bind profileSuite = some "jaull-ifeval-chat-v1" ∧
      (some chatProfile).bind primaryMetric = some "prompt_level_strict_acc" := ⟨rfl, rfl⟩
  obtain ⟨-, applicable⟩ := storedQuality_of_groups (some documentSha) groups profile.1 profile.2
  rw [applicable, complete]
  change (Option.map (fun metric => (item, metric))
    (item.evidence.metrics.find? (·.name = "prompt_level_strict_acc"))) = _
  rw [found]
  rfl

/-- A store with the file of the whole split under its second name, and an entry under its first. -/
def storeWith (entry : StoreEntry) : QualityStore :=
  ⟨[(.text identitySha, entry), (.text (identitySha ++ "-" ++ recordSha),
    .file (encodeUtf8 (savedText wholeSplit.surroundings wholeSplit.record)))]⟩

/-- Both names of the record are ids. -/
lemma isRecordId_names : isRecordId (.text identitySha) = true ∧
    isRecordId (.text (identitySha ++ "-" ++ recordSha)) = true := by
  decide +kernel

/-- The store lists both. -/
lemma listIds_storeWith {entry : StoreEntry} (isFile : entry.isFile = true) :
    (storeWith entry).listIds = [.text identitySha, .text (identitySha ++ "-" ++ recordSha)] := by
  have ids : ((storeWith entry).entries.filter fun entry => entry.2.isFile && isRecordId entry.1).map (·.1) =
      [.text identitySha, .text (identitySha ++ "-" ++ recordSha)] := by
    rw [storeWith]
    generalize encodeUtf8 (savedText wholeSplit.surroundings wholeSplit.record) = content
    have second : (StoreEntry.file content).isFile = true := rfl
    simp only [List.filter_cons, isFile, second, isRecordId_names.1, isRecordId_names.2]
    rfl
  rw [QualityStore.listIds, ids]
  decide +kernel

/-- They are the names of the record. -/
lemma namesOf_wholeSplit : NamesOf wholeSplit.surroundings wholeSplit.record
    ⟨.text identitySha, .text (identitySha ++ "-" ++ recordSha)⟩ := by
  refine ⟨wholeSplit.identity, rfl, ?_⟩
  rw [recordNames, sha_identity, sha_record]

/-- Under the second name it is loaded. -/
lemma load_storeWith (entry : StoreEntry) :
    (storeWith entry).load wholeSplit.surroundings (.text (identitySha ++ "-" ++ recordSha)) =
      .ok wholeSplit.record := by
  have apart : PyString.text (identitySha ++ "-" ++ recordSha) ≠ .text identitySha := by
    decide +kernel
  have stored : ∀ content, List.lookup (PyString.text (identitySha ++ "-" ++ recordSha))
      [(.text identitySha, entry), (.text (identitySha ++ "-" ++ recordSha), .file content)] =
        some (.file content) := by
    intro content
    rw [lookup_cons_ne apart, List.lookup_cons_self]
  have named : (SaveNames.id ⟨.text identitySha, .text (identitySha ++ "-" ++ recordSha)⟩ .repeated) =
      .text (identitySha ++ "-" ++ recordSha) := rfl
  rw [← named] at stored ⊢
  exact (storable_chat wholeSplit).load_eq namesOf_wholeSplit (stored _)

/-- If the first name is refused, it is the only record. -/
lemma records_storeWith {entry : StoreEntry} {error : StoreError} (isFile : entry.isFile = true)
    (refused : (storeWith entry).load wholeSplit.surroundings (.text identitySha) = .error (.store error)) :
    (storeWith entry).records wholeSplit.surroundings = .ok [wholeSplit.record] := by
  rw [QualityStore.records, listIds_storeWith isFile, recordsOf, refused]
  dsimp only
  rw [recordsOf, load_storeWith]
  rfl

/-- An entry that leads outside or cannot be read is refused. -/
lemma load_unloaded {entry : StoreEntry} {error : StoreError}
    (kind : entry = .outside ∧ error = .invalidId ∨ entry = .unreadable ∧ error = .unreadable) :
    (storeWith entry).load wholeSplit.surroundings (.text identitySha) = .error (.store error) := by
  rw [QualityStore.load, isRecordId_names.1, storeWith, List.lookup_cons_self]
  rcases kind with ⟨rfl, rfl⟩ | ⟨rfl, rfl⟩ <;> rfl

/-- A link out of the store under the name of the identity hides its record from the lookup only. -/
theorem lookup_outside : ∃ index item metric,
    Function.Injective wholeSplit.surroundings.sha256 ∧
      (storeWith .outside).records wholeSplit.surroundings = .ok [wholeSplit.record] ∧
      indexQualityRecords wholeSplit.surroundings [wholeSplit.record] = .ok index ∧
      (storedQuality index (some documentSha) (some chatProfile)).applicable = some (item, metric) ∧
      digest wholeSplit.surroundings wholeSplit.record = .ok item.recordSha256 ∧
      wholeSplit.record.field "identity" = .ok wholeSplit.identity ∧
      (storeWith .outside).lookup wholeSplit.surroundings wholeSplit.identity = .ok none := by
  obtain ⟨index, item, metric, run, sha, applied⟩ := indexed_wholeSplit
  refine ⟨index, item, metric, surroundings_injective,
    records_storeWith rfl (load_unloaded (.inl ⟨rfl, rfl⟩)), run, applied, ?_, rfl, ?_⟩
  · rw [digest_of_digestible digestible_record, sha, sha_record]
  · have outside : (storeWith .outside).entries.lookup ((identitySha : String) : PyString) =
        some .outside := List.lookup_cons_self
    rw [QualityStore.lookup, validateIdentity_chat, ok_bind, digest_of_digestible digestible_identity,
      lifted_ok]
    dsimp only
    rw [sha_identity, outside, decide_eq_true rfl, Bool.or_true]
    rfl

/-- A file under the name of the identity that cannot be read hides nothing. -/
theorem lookup_of_storedQuality_wholeSplit : ∃ found result,
    wholeSplit.record.field "result" = .ok result ∧ sortKeys found = sortKeys result ∧
      (storeWith .unreadable).lookup wholeSplit.surroundings wholeSplit.identity = .ok (some found) := by
  obtain ⟨index, item, metric, run, sha, applied⟩ := indexed_wholeSplit
  have listed := records_storeWith rfl (load_unloaded (.inr ⟨rfl, rfl⟩))
  have readers := lookup_of_storedQuality surroundings_injective listed run (some documentSha)
    (some chatProfile)
  have shaEq : digest wholeSplit.surroundings wholeSplit.record = .ok item.recordSha256 := by
    rw [digest_of_digestible digestible_record, sha, sha_record]
  obtain ⟨identity, result, found, identityEq, resultEq, same, lookupEq⟩ :=
    (readers.1 item metric applied).2 wholeSplit.record List.mem_cons_self shaEq
  cases Except.ok.inj ((rfl : wholeSplit.record.field "identity" = .ok wholeSplit.identity).symm.trans
    identityEq)
  refine ⟨found, result, resultEq, same, ?_⟩
  rw [lookupEq, if_neg]
  intro outside
  have mem := mem_of_lookup outside
  simp only [storeWith, List.mem_cons, List.not_mem_nil, or_false, Prod.mk.injEq] at mem
  rcases mem with ⟨-, other⟩ | ⟨-, other⟩ <;> cases other

end Example

end Jaull.Recommendation
