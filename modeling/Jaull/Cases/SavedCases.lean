import Jaull.Cases.StoreRace

/-!
# Saving a manifest and loading it

A save alone puts into an empty store a record that loads. What stands in its way is an id that the manifest
takes and the store does not: a safe id with a line feed behind it, or one that is too long for a file name.
-/

namespace Jaull.Cases
open Jaull.Domain Jaull.Evaluation Jaull.Lib Jaull.Text

variable {Record : Type} [DecidableEq Record] {store : RecordStore Record} {record : Record} {id : PyString}
  {disk disk' : Disk} {phase : WritePhase} {text : List Char}

section Alone

omit [DecidableEq Record] in
/-- An empty directory has no names. -/
lemma lookup_of_empty (empty : disk.names = []) (name : List ℕ) : disk.names.lookup name = none := by
  rw [empty]
  rfl

omit [DecidableEq Record] in
/-- It has no files either. -/
lemma isFile_of_empty (empty : disk.names = []) (name : List ℕ) : disk.isFile name = false := by
  rw [isFile_eq_false, content?_eq_none, Disk.inode?, lookup_of_empty empty]
  rfl

/-- A save of a safe id begins with its test in an empty store. -/
lemma advance_starting_of_empty (empty : disk.names = []) (safe : isSafeId (store.idOf record) = true) :
    store.advance record disk .starting = (disk, .testing) := by
  refine advance_starting safe ?_
  intro inode link
  cases (lookup_of_empty empty _).symm.trans link

/-- A save into an empty store publishes the record, and a load gives it back. -/
lemma save_load (empty : disk.names = []) (safe : isSafeId (store.idOf record) = true)
    (fits : nameTooLong (temporaryName (store.idOf record)) = false)
    (dumped : store.envelopes.dumps record = some text) (roundTrips : store.RoundTrips record text) :
    ∃ disk', store.save record disk = (disk', .returned (recordName (store.idOf record))) ∧
      store.load disk' (store.idOf record) = .ok record := by
  have written : store.payload record = some (encodeUtf8 (text ++ ['\n'])) := by
    rw [RecordStore.payload, dumped]
    rfl
  have starts := advance_starting_of_empty empty safe
  have tests := advance_testing (recordName_fits fits) (isFile_of_empty empty _) written
  have missing : disk.names.lookup (recordName (store.idOf record)) ≠ some .other := by
    rw [lookup_of_empty empty]
    intro same
    cases same
  obtain ⟨opened, inode, written', published, opens, writes, replaces, there, -, at'⟩ :=
    store.publishes record disk (encodeUtf8 (text ++ ['\n'])) fits (lookup_of_empty empty _) missing
  refine ⟨published, ?_, ?_⟩
  · simp only [RecordStore.save, Function.iterate_succ, Function.iterate_zero, Function.comp_apply, id_eq,
      starts, tests, opens, writes, replaces]
    rfl
  · have path : pathFor published (store.idOf record) = .ok (recordName (store.idOf record)) := by
      refine pathFor_eq_ok safe ?_
      intro inode link
      cases at'.symm.trans link
    rw [RecordStore.load, path, ok_bind, recordName_fits fits, if_neg Bool.false_ne_true, there]
    exact readRecord_of_roundTrips roundTrips rfl

/-- A save that refuses the id ends so. -/
lemma save_of_refused {failure : StoreFailure} (refused : pathFor disk (store.idOf record) = .error failure) :
    store.save record disk = (disk, .failed failure) := by
  have starts : store.advance record disk .starting = (disk, .failed failure) := by
    rw [RecordStore.advance, refused]
  have stays : store.advance record disk (.failed failure) = (disk, .failed failure) := rfl
  simp only [RecordStore.save, Function.iterate_succ, Function.iterate_zero, Function.comp_apply, id_eq,
    starts, stays]

/-- A save whose file would have too long a name ends in the error of its test. -/
lemma save_of_recordTooLong (empty : disk.names = []) (safe : isSafeId (store.idOf record) = true)
    (long : nameTooLong (recordName (store.idOf record)) = true) :
    store.save record disk = (disk, .failed .nameTooLong) := by
  have starts := advance_starting_of_empty empty safe
  have tests : store.advance record disk .testing = (disk, .failed .nameTooLong) := by
    rw [RecordStore.advance, if_pos long]
  have stays : store.advance record disk (.failed .nameTooLong) = (disk, .failed .nameTooLong) := rfl
  simp only [RecordStore.save, Function.iterate_succ, Function.iterate_zero, Function.comp_apply, id_eq,
    starts, tests, stays]

/-- A save whose temporary file alone would have too long a name ends in its handler. -/
lemma save_of_temporaryTooLong (empty : disk.names = []) (safe : isSafeId (store.idOf record) = true)
    (fits : nameTooLong (recordName (store.idOf record)) = false)
    (long : nameTooLong (temporaryName (store.idOf record)) = true)
    (dumped : store.envelopes.dumps record = some text) :
    (store.save record disk).2 = .failed .unsaved := by
  have written : store.payload record = some (encodeUtf8 (text ++ ['\n'])) := by
    rw [RecordStore.payload, dumped]
    rfl
  have starts := advance_starting_of_empty empty safe
  have tests := advance_testing fits (isFile_of_empty empty _) written
  have opens : store.advance record disk (.opening (encodeUtf8 (text ++ ['\n']))) = (disk, .clearing) := by
    rw [RecordStore.advance, Disk.openTruncate, if_pos long]
  have clears : store.advance record disk .clearing =
      (disk.unlink (temporaryName (store.idOf record)), .failed .unsaved) := rfl
  have stays : ∀ disk : Disk, store.advance record disk (.failed .unsaved) = (disk, .failed .unsaved) :=
    fun _ => rfl
  simp only [RecordStore.save, Function.iterate_succ, Function.iterate_zero, Function.comp_apply, id_eq,
    starts, tests, opens, clears, stays]

end Alone

section Ids
variable {envelopes : Pydantic ExperimentalCaseManifest} {manifest : ExperimentalCaseManifest}

/-- The validators of all three fields take an id exactly when no store refuses it as invalid. -/
def IdsAgree (disk : Disk) (id : PyString) : Prop :=
  (caseIdRefusals id = [] ↔ pathFor disk id ≠ .error .invalidId) ∧
    (experimentIdRefusals id = [] ↔ pathFor disk id ≠ .error .invalidId) ∧
    (benchmarkIdsRefusals [id] = [] ↔ pathFor disk id ≠ .error .invalidId)

/-- The empty text is no id. -/
lemma isSafeId_empty : isSafeId "" = false := by
  decide

/-- A store refuses exactly the ids that are not safe as invalid. -/
lemma pathFor_eq_invalidId : pathFor disk id = .error .invalidId ↔ isSafeId id = false := by
  rw [pathFor]
  split
  · rename_i refused
    refine iff_of_true rfl ?_
    rw [Bool.or_eq_true, decide_eq_true_eq, Bool.not_eq_true'] at refused
    rcases refused with rfl | unsafe'
    · exact isSafeId_empty
    · exact unsafe'
  · rename_i fine
    rw [Bool.or_eq_true, not_or, Bool.not_eq_true', Bool.not_eq_false] at fine
    refine iff_of_false ?_ ?_
    · split
      · intro same
        cases same
      · intro same
        cases same
    · rw [fine.2]
      exact Bool.noConfusion

/-- One benchmark id is in order and unlike all others. -/
lemma benchmarkIdsRefusals_singleton : benchmarkIdsRefusals [id] = [] ↔ matchesSafeId id = true := by
  rw [benchmarkIdsRefusals_eq_nil, List.forall_mem_singleton]
  exact and_iff_left (List.nodup_singleton id)

/-- Validators and stores part on a line feed at the end. -/
lemma idsAgree_iff : IdsAgree disk id ↔ ¬EndsInLineFeed id := by
  have stores : pathFor disk id ≠ .error .invalidId ↔ isSafeId id = true := by
    rw [Ne, pathFor_eq_invalidId, Bool.not_eq_false]
  have parts : (matchesSafeId id = true ↔ isSafeId id = true) ↔ ¬EndsInLineFeed id := by
    rw [matchesSafeId_iff]
    constructor
    · intro agree ends
      have safe := agree.mp (.inr ends)
      rw [not_isSafeId_of_endsInLineFeed ends] at safe
      cases safe
    · intro none
      exact or_iff_left none
  rw [IdsAgree, stores, caseIdRefusals, experimentIdRefusals, idRefusals_eq_nil, idRefusals_eq_nil,
    benchmarkIdsRefusals_singleton, parts, and_self, and_self]

/-- A manifest is saved in an empty store and loaded again. -/
def SavesAndLoads (store : RecordStore ExperimentalCaseManifest) (manifest : ExperimentalCaseManifest)
    (disk : Disk) : Prop :=
  ∃ disk', store.save manifest disk = (disk', .returned (recordName manifest.identity.caseId)) ∧
    store.load disk' manifest.identity.caseId = .ok manifest

/-- The most characters of an id whose files have names that are not too long. -/
def idMax : ℕ :=
  246

/-- The longest ids are those whose temporary file has the longest name there is. -/
lemma temporaryName_fits_iff : nameTooLong (temporaryName id) = false ↔ id.codes.length ≤ idMax := by
  rw [nameTooLong, decide_eq_false_iff_not, not_lt, temporaryName_length, nameMax, idMax]
  omega

/-- A save of a manifest whose id is no safe id, or too long, fails. -/
lemma save_fails (empty : disk.names = []) (dumped : envelopes.dumps manifest = some text)
    (bad : ¬(isSafeId manifest.identity.caseId = true ∧ manifest.identity.caseId.codes.length ≤ idMax)) :
    ∃ failure, ((CaseStore envelopes).save manifest disk).2 = .failed failure := by
  cases safe : isSafeId manifest.identity.caseId with
  | false =>
    have refused := @save_of_refused _ _ (CaseStore envelopes) manifest disk _ (pathFor_eq_invalidId.mpr safe)
    exact ⟨_, congrArg Prod.snd refused⟩
  | true =>
    have long : nameTooLong (temporaryName manifest.identity.caseId) = true := by
      rw [← Bool.not_eq_false, temporaryName_fits_iff]
      exact fun fits => bad ⟨safe, fits⟩
    cases fits : nameTooLong (recordName manifest.identity.caseId) with
    | true =>
      have failed := @save_of_recordTooLong _ _ (CaseStore envelopes) manifest disk empty safe fits
      exact ⟨_, congrArg Prod.snd failed⟩
    | false =>
      exact ⟨_, @save_of_temporaryTooLong _ _ (CaseStore envelopes) manifest disk _ empty safe fits long dumped⟩

/-- The validators and the stores agree on an id when it is no safe id with a line feed behind it. A manifest that
can be constructed is saved in an empty store and loaded again when its id is none and has at most `idMax`
characters, and its save fails otherwise. -/
theorem ids_agree_and_manifests_save_iff (envelopes : Pydantic ExperimentalCaseManifest) :
    (∀ disk id, IdsAgree disk id ↔ ¬EndsInLineFeed id) ∧
      ∀ manifest, Constructible manifest →
        (∃ text, envelopes.dumps manifest = some text ∧ (CaseStore envelopes).RoundTrips manifest text) →
        ∀ disk : Disk, disk.names = [] →
          (SavesAndLoads (CaseStore envelopes) manifest disk ↔
            ¬EndsInLineFeed manifest.identity.caseId ∧ manifest.identity.caseId.codes.length ≤ idMax) ∧
          (SavesAndLoads (CaseStore envelopes) manifest disk ∨
            ∃ failure, ((CaseStore envelopes).save manifest disk).2 = .failed failure) := by
  refine ⟨fun disk id => idsAgree_iff, ?_⟩
  intro manifest constructible ⟨text, dumped, roundTrips⟩ disk empty
  have matches' := matchesSafeId_iff.mp constructible.wellFormed.caseId
  have safe_iff : isSafeId manifest.identity.caseId = true ↔ ¬EndsInLineFeed manifest.identity.caseId := by
    constructor
    · intro safe ends
      cases (not_isSafeId_of_endsInLineFeed ends).symm.trans safe
    · exact matches'.resolve_right
  -- a safe and short id is saved and loaded
  have saves : isSafeId manifest.identity.caseId = true ∧ manifest.identity.caseId.codes.length ≤ idMax →
      SavesAndLoads (CaseStore envelopes) manifest disk := by
    rintro ⟨safe, short⟩
    exact @save_load _ _ (CaseStore envelopes) manifest _ _ empty safe (temporaryName_fits_iff.mpr short) dumped
      roundTrips
  have fails := @save_fails _ _ envelopes manifest empty dumped
  rw [← safe_iff]
  constructor
  · refine ⟨fun ⟨disk', saved, _⟩ => ?_, saves⟩
    by_contra bad
    obtain ⟨failure, failed⟩ := fails bad
    rw [saved] at failed
    cases failed
  · by_cases good : isSafeId manifest.identity.caseId = true ∧ manifest.identity.caseId.codes.length ≤ idMax
    · exact .inl (saves good)
    · exact .inr (fails good)

/-- A manifest holds what was constructed without benchmarks. -/
lemma constructible_of_refusals (fine : manifest.refusals = []) (none : manifest.benchmarkRecordIds = []) :
    Constructible manifest := by
  refine ⟨manifest, ?_⟩
  rw [ExperimentalCaseManifest.construct, if_pos fine, none]
  obtain ⟨identity, experimentRecordId, benchmarkRecordIds, evidenceFiles, notes⟩ := manifest
  cases none
  rfl

/-- The example is saved and loaded. -/
theorem ids_agree_and_manifests_save_exampleCase :
    IdsAgree {} "case-1" ∧ SavesAndLoads (CaseStore exampleEnvelopes) (exampleCases true) {} := by
  obtain ⟨ids, manifests⟩ := ids_agree_and_manifests_save_iff exampleEnvelopes
  have plain : ¬EndsInLineFeed "case-1" := by
    intro ends
    cases (not_isSafeId_of_endsInLineFeed ends).symm.trans exampleCases_safe
  have constructible : Constructible (exampleCases true) :=
    constructible_of_refusals (by decide +kernel) rfl
  have written : ∃ text, exampleEnvelopes.dumps (exampleCases true) = some text ∧
      (CaseStore exampleEnvelopes).RoundTrips (exampleCases true) text :=
    ⟨_, exampleEnvelopes_dumps true, exampleText_plain true, exampleEnvelopes_parse true⟩
  have short : (exampleCases true).identity.caseId.codes.length ≤ idMax := by decide
  exact ⟨(ids {} "case-1").mpr plain, (manifests _ constructible written {} rfl).1.mpr ⟨plain, short⟩⟩

/-- The example with a line feed behind its id. -/
def lineFeedCase : ExperimentalCaseManifest :=
  { exampleCases true with identity := { (exampleCases true).identity with caseId := "case-1\n" } }

/-- The manifest takes the id, and the store refuses it. -/
theorem lineFeedCase_refused : Constructible lineFeedCase ∧ caseIdRefusals "case-1\n" = [] ∧
    pathFor {} "case-1\n" = .error .invalidId ∧
    ∀ envelopes, ((CaseStore envelopes).save lineFeedCase {}).2 = .failed .invalidId := by
  have refused : pathFor {} "case-1\n" = .error .invalidId := pathFor_eq_invalidId.mpr (by decide +kernel)
  refine ⟨constructible_of_refusals (by decide +kernel) rfl, by decide +kernel, refused, ?_⟩
  intro envelopes
  rw [@save_of_refused _ _ (CaseStore envelopes) lineFeedCase _ _ refused]

end Ids

end Jaull.Cases
