import Jaull.Evaluation.Accepted
import Jaull.Evaluation.Store
import Jaull.Evaluation.Traps

/-!
# Loading from the quality store

Whatever the files of the store hold, a load returns the record that its id asks for or raises an exception
of the store, unless the file has a trap. A trap in any listed file fails the listing of all records.
-/

namespace Jaull.Evaluation
open Jaull.Lib Jaull.Text

variable {env : Surroundings} {store : QualityStore} {id : PyString} {record : Json}

section Ids

lemma length_of_hex {codes : List ℕ} {width : ℕ} (hex : codesAreHex width codes = true) :
    codes.length = width :=
  of_decide_eq_true ((Bool.and_eq_true _ _).mp hex).1

/-- A digest is a record's id. -/
lemma isRecordId_primary {a : String} (hex : codesAreHex 64 (codesOf a) = true) :
    isRecordId (.text a) = true := by
  rw [isRecordId, Bool.or_eq_true]
  exact .inl hex

end Ids

section Files

/-- The record that an id asks for: valid, and with its digests. -/
structure Requested (env : Surroundings) (id : PyString) (record : Json) : Prop where
  valid : validateRecord env record = .ok ()
  identity : ∃ identity sha, record.field "identity" = .ok identity ∧
    digest env identity = .ok sha ∧ codesOf sha = id.codes.take 64
  whole : 64 < id.codes.length → ∃ sha, digest env record = .ok sha ∧ codesOf sha = id.codes.drop 65

/-- A file of the store whose text has a trap. -/
def FileTrap (env : Surroundings) (store : QualityStore) (id : PyString) : Prop :=
  isRecordId id = true ∧ ∃ content text, store.entries.lookup id = some (.file content) ∧
    readText content = .ok text ∧ TextTrap env text

/-- A failure escapes unless it is one of the handled refusals. -/
lemma handled_escaped {e : PyError} :
    (∃ e', handled e = .escaped e') ↔ ∀ refusal, e ≠ .refused refusal := by
  cases e with
  | refused refusal =>
    refine iff_of_false ?_ fun other => other refusal rfl
    intro ⟨e', eq⟩
    cases refusal <;> cases eq
  | _ =>
    refine iff_of_true ⟨_, rfl⟩ ?_
    intro refusal eq
    cases eq

/-- A text that loads is a valid record with a digest. -/
lemma loadRecord_ok {text : String} (ok : loadRecord env text = .ok record) :
    validateRecord env record = .ok () ∧ ∃ sha, digest env record = .ok sha := by
  simp only [loadRecord, bind_eq_ok, lifted_eq_ok, refuseIf_eq_ok, exists_const] at ok
  obtain ⟨envelope, -, record', -, _, valid, stated, -, sha, shaEq, -, eq⟩ := ok
  cases eq
  exact ⟨valid, sha, shaEq⟩

/-- A record that was read from a file is valid and has a digest. -/
lemma readRecord_ok {content : List UInt8} (ok : readRecord env content = .ok record) :
    validateRecord env record = .ok () ∧ ∃ sha, digest env record = .ok sha := by
  rw [readRecord] at ok
  split at ok
  · rename_i run
    cases ok
    obtain ⟨text, -, run⟩ := bind_eq_ok.mp run
    exact loadRecord_ok run
  · cases ok

/-- A file's failure escapes when its text is a trap. -/
lemma readRecord_escaped {content : List UInt8} :
    (∃ e, readRecord env content = .error (.escaped e)) ↔
      ∃ text, readText content = .ok text ∧ TextTrap env text := by
  have escapes : Escapes (lifted (readText content) >>= loadRecord env) ↔
      ∃ text, readText content = .ok text ∧ TextTrap env text := by
    rw [escapes_lifted_bind]
    simp only [escapes_loadRecord]
  rw [← escapes, readRecord]
  cases lifted (readText content) >>= loadRecord env with
  | ok record =>
    refine iff_of_false ?_ not_escapes_ok
    intro ⟨e, eq⟩
    cases eq
  | error e =>
    have outcome : (∃ e', (.error (handled e) : Except LoadError Json) = .error (.escaped e')) ↔
        ∃ e', handled e = .escaped e' := by
      simp only [Except.error.injEq]
    rw [outcome, handled_escaped]
    constructor
    · intro other
      exact ⟨e, rfl, other⟩
    · intro ⟨e', eq, other⟩
      rw [Except.error.inj eq]
      exact other

/-- What is checked of a record behind the handlers raises exceptions of the store only. -/
lemma checkRecordId_cases (id : PyString) (valid : validateRecord env record = .ok ())
    {sha : String} (whole : digest env record = .ok sha) :
    checkRecordId env id record = .ok record ∧ Requested env id record ∨
      checkRecordId env id record = .error (.store .mismatch) := by
  obtain ⟨identity, tables, accepted⟩ := validateRecord_ok valid
  obtain ⟨identitySha, digestEq, stated⟩ := accepted.checksum
  have same : isTextOf (id.codes.take 64) (.str (.text identitySha)) =
      decide (codesOf identitySha = id.codes.take 64) := rfl
  rw [checkRecordId, stated, whole]
  simp only [unhandled, ok_bind, same]
  by_cases identityIs : codesOf identitySha = id.codes.take 64
  · have found : ∃ identity sha, record.field "identity" = .ok identity ∧
        digest env identity = .ok sha ∧ codesOf sha = id.codes.take 64 :=
      ⟨identity, identitySha, accepted.field, digestEq, identityIs⟩
    rw [decide_eq_true identityIs, Bool.not_true, if_neg Bool.false_ne_true]
    split
    · rename_i short
      exact .inl ⟨rfl, valid, found, fun long => absurd long (Nat.not_lt.mpr short)⟩
    · split
      · rename_i wholeIs
        exact .inl ⟨rfl, valid, found, fun _ => ⟨sha, whole, wholeIs⟩⟩
      · exact .inr rfl
  · rw [decide_eq_false identityIs, Bool.not_false, if_pos rfl]
    exact .inr rfl

/-- What a load comes to. -/
lemma load_cases (env : Surroundings) (store : QualityStore) (id : PyString) :
    (∃ record, store.load env id = .ok record ∧ Requested env id record) ∨
      (∃ error, store.load env id = .error (.store error)) ∨
      ∃ e, store.load env id = .error (.escaped e) ∧ FileTrap env store id := by
  rw [QualityStore.load]
  by_cases known : isRecordId id = true
  · rw [known, Bool.not_true, if_neg Bool.false_ne_true]
    cases at' : store.entries.lookup id with
    | none => exact .inr (.inl ⟨_, rfl⟩)
    | some entry =>
      cases entry with
      | unreadable => exact .inr (.inl ⟨_, rfl⟩)
      | outside => exact .inr (.inl ⟨_, rfl⟩)
      | other => exact .inr (.inl ⟨_, rfl⟩)
      | file content =>
        dsimp only
        cases read : readRecord env content with
        | ok record =>
          rw [ok_bind]
          obtain ⟨valid, sha, whole⟩ := readRecord_ok read
          rcases checkRecordId_cases id valid whole with ⟨ok, requested⟩ | mismatch
          · exact .inl ⟨record, ok, requested⟩
          · exact .inr (.inl ⟨_, mismatch⟩)
        | error error =>
          cases error with
          | store error => exact .inr (.inl ⟨error, rfl⟩)
          | escaped e =>
            obtain ⟨text, textEq, trap⟩ := readRecord_escaped.mp ⟨e, read⟩
            exact .inr (.inr ⟨e, rfl, known, content, text, at', textEq, trap⟩)
  · rw [Bool.not_eq_true] at known
    rw [known, Bool.not_false, if_pos rfl]
    exact .inr (.inl ⟨_, rfl⟩)

/-- Loading a trapped file raises. -/
lemma load_of_trap (trap : FileTrap env store id) :
    ∃ e, store.load env id = .error (.escaped e) := by
  obtain ⟨known, content, text, at', textEq, trap⟩ := trap
  obtain ⟨e, read⟩ := readRecord_escaped.mpr ⟨text, textEq, trap⟩
  refine ⟨e, ?_⟩
  rw [QualityStore.load, known, Bool.not_true, if_neg Bool.false_ne_true, at']
  simp only [read, error_bind]

end Files

section Listings

/-- The records of some ids can be listed exactly when none of their files has a trap. -/
lemma recordsOf_ok_iff {ids : List PyString} :
    (∃ records, recordsOf env store ids = .ok records) ↔ ∀ id ∈ ids, ¬FileTrap env store id := by
  induction ids with
  | nil => exact iff_of_true ⟨[], rfl⟩ (by simp)
  | cons id ids ih =>
    rw [List.forall_mem_cons, ← ih, recordsOf]
    rcases load_cases env store id with ⟨record, ok, -⟩ | ⟨error, refused⟩ | ⟨e, escaped, trap⟩
    · have fine : ¬FileTrap env store id := by
        intro trap
        obtain ⟨e, escaped⟩ := load_of_trap trap
        rw [ok] at escaped
        cases escaped
      rw [ok, and_iff_right fine]
      constructor
      · intro ⟨records, run⟩
        obtain ⟨rest, run, -⟩ := exists_of_map_eq_ok run
        exact ⟨rest, run⟩
      · intro ⟨rest, run⟩
        exact ⟨record :: rest, by simp only [run, Except.map]⟩
    · have fine : ¬FileTrap env store id := by
        intro trap
        obtain ⟨e, escaped⟩ := load_of_trap trap
        rw [refused] at escaped
        cases escaped
      rw [refused, and_iff_right fine]
    · rw [escaped]
      refine iff_of_false ?_ fun both => both.1 trap
      intro ⟨records, run⟩
      cases run

/-- What is listed are the records that load. -/
lemma recordsOf_eq {ids : List PyString} {records : List Json}
    (run : recordsOf env store ids = .ok records) :
    records = ids.filterMap fun id => (store.load env id).toOption := by
  induction ids generalizing records with
  | nil =>
    cases run
    rfl
  | cons id ids ih =>
    rw [recordsOf] at run
    rw [List.filterMap_cons]
    cases load : store.load env id with
    | ok record =>
      rw [load] at run
      obtain ⟨rest, others, eq⟩ := exists_of_map_eq_ok run
      rw [← eq, ih others]
      rfl
    | error error =>
      cases error with
      | store error =>
        rw [load] at run
        rw [ih run]
        rfl
      | escaped e =>
        rw [load] at run
        cases run

/-- Loads return what their ids ask for or raise exceptions of the store, and listings return all readable
records, exactly where no file has a trap. -/
theorem load_and_records_iff (env : Surroundings) (store : QualityStore) :
    (∀ id, (∃ record, store.load env id = .ok record ∧ Requested env id record) ∨
        (∃ error, store.load env id = .error (.store error)) ↔ ¬FileTrap env store id) ∧
      (store.records env =
          .ok (store.listIds.filterMap fun id => (store.load env id).toOption) ↔
        ∀ id ∈ store.listIds, ¬FileTrap env store id) := by
  constructor
  · intro id
    constructor
    · intro fine trap
      obtain ⟨e, escaped⟩ := load_of_trap trap
      rw [escaped] at fine
      rcases fine with ⟨record, ok, -⟩ | ⟨error, refused⟩
      · cases ok
      · cases refused
    · intro fine
      rcases load_cases env store id with ok | refused | ⟨e, -, trap⟩
      · exact .inl ok
      · exact .inr refused
      · exact absurd trap fine
  · rw [← recordsOf_ok_iff]
    constructor
    · intro run
      exact ⟨_, run⟩
    · intro ⟨records, run⟩
      rw [← recordsOf_eq run]
      exact run

end Listings

section Example

/-- Surroundings that decode one text, whose record is a list. -/
def listSurroundings : Surroundings where
  sha256 _ := ""
  loads text :=
    if text = .text "\x7b\"record\": []\x7d" then .tree (.obj [("record", .arr [])])
    else .malformed "Expecting value"
  levels _ := 498
  observed _ _ _ := .missing
  observedExternal _ _ := .missing

/-- Sixty-four zeros. -/
def zeroId : PyString :=
  "0000000000000000000000000000000000000000000000000000000000000000"

/-- A store of one file, with that text. -/
def listStore : QualityStore :=
  ⟨[(zeroId, .file [0x7b, 0x22, 0x72, 0x65, 0x63, 0x6f, 0x72, 0x64, 0x22, 0x3a, 0x20, 0x5b, 0x5d,
    0x7d])]⟩

/-- A record that is a list makes the load and the listing fail with an `AttributeError`. -/
theorem load_of_list :
    listStore.load listSurroundings zeroId = .error (.escaped .attribute) ∧
      listStore.listIds = [zeroId] ∧ listStore.records listSurroundings = .error .attribute := by
  decide +kernel

end Example

end Jaull.Evaluation
