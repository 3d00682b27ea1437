import Jaull.Evaluation.Records
import Jaull.Lib.StableSort
import Jaull.Text.Utf8
import Mathlib.Data.List.Lex

/-!
# The quality store

Port of the reading half of `jaull/evaluation/quality_storage.py`. The exceptions of a store are kinds of one
class; whatever else a load raises escapes from it.
-/

namespace Jaull.Evaluation
open Jaull.Lib Jaull.Text

/-- What stands under a name of the store. -/
inductive StoreEntry
  | file (content : List UInt8)
  /-- A file that the system refuses to read. -/
  | unreadable
  /-- A link to a file that is not under the root. -/
  | outside
  /-- Anything that is no file. -/
  | other
  deriving DecidableEq, Repr

/-- The names with the suffix `.json` under the root of the store, without the suffix. -/
structure QualityStore where
  entries : List (PyString × StoreEntry)
  deriving DecidableEq, Repr

/-- Python `QualityStoreError` and its kinds. -/
inductive StoreError
  | invalidId
  | notFound
  | notUtf8
  | unreadable
  | invalid (refusal : Refusal)
  | mismatch
  deriving DecidableEq, Repr

/-- What a load raises. -/
inductive LoadError
  | store (error : StoreError)
  | escaped (error : PyError)
  deriving DecidableEq, Repr

/-- Python `_IDENTITY_RE.fullmatch(id)`. -/
def isRecordId (id : PyString) : Bool :=
  codesAreHex 64 id.codes ||
    (codesAreHex 64 (id.codes.take 64) && id.codes[64]? = some 45 && codesAreHex 64 (id.codes.drop 65))

/-- Line ends as Python's text files read them. -/
def universalNewlines : List Char → List Char
  | [] => []
  | '\r' :: '\n' :: rest => '\n' :: universalNewlines rest
  | '\r' :: rest => '\n' :: universalNewlines rest
  | c :: rest => c :: universalNewlines rest

/-- The handlers around Python `load_record`. -/
def handled : PyError → LoadError
  | .refused .unicode => .store .notUtf8
  | .refused refusal => .store (.invalid refusal)
  | error => .escaped error

/-- A computation outside of the handlers. -/
def unhandled {α : Type} : Except Refusal α → Except LoadError α
  | .ok a => .ok a
  | .error refusal => .error (.escaped (.refused refusal))

/-- The part of Python `QualityEvidenceStore.load` behind the handlers. -/
def checkRecordId (env : Surroundings) (id : PyString) (record : Json) : Except LoadError Json := do
  let stated ← unhandled (record.field "identity_sha256")
  if !isTextOf (id.codes.take 64) stated then .error (.store .mismatch)
  else if id.codes.length ≤ 64 then return record
  else do
    let sha ← unhandled (digest env record)
    if codesOf sha = id.codes.drop 65 then return record else .error (.store .mismatch)

/-- Python `path.read_text(encoding="utf-8")`. -/
def readText (content : List UInt8) : Except Refusal String :=
  match decodeUtf8 content with
  | .ok text => .ok (String.ofList (universalNewlines text.toList))
  | .error _ => .error .unicode

/-- A text without carriage returns is read as written. -/
lemma universalNewlines_of_not_mem {text : List Char} (none : '\r' ∉ text) :
    universalNewlines text = text := by
  induction text with
  | nil => rfl
  | cons c rest ih =>
    have other : c ≠ '\r' := fun same => none (same ▸ List.mem_cons_self)
    have rest := ih fun mem => none (List.mem_cons_of_mem _ mem)
    rw [universalNewlines.eq_4 c _ (fun _ same _ => other same) fun same => other same, rest]

/-- A text without carriage returns is read as it was written. -/
lemma readText_encodeUtf8 {text : List Char} (none : '\r' ∉ text) :
    readText (encodeUtf8 text) = .ok (String.ofList text) := by
  rw [readText, decodeUtf8_encodeUtf8]
  dsimp only
  rw [String.toList_ofList, universalNewlines_of_not_mem none]

/-- The record in a file, with the handlers. -/
def readRecord (env : Surroundings) (content : List UInt8) : Except LoadError Json :=
  match lifted (readText content) >>= loadRecord env with
  | .ok record => .ok record
  | .error error => .error (handled error)

/-- Python `QualityEvidenceStore.load`. -/
def QualityStore.load (env : Surroundings) (store : QualityStore) (id : PyString) :
    Except LoadError Json :=
  if !isRecordId id then .error (.store .invalidId)
  else
    match store.entries.lookup id with
    | some (.file content) => readRecord env content >>= checkRecordId env id
    | some .unreadable => .error (.store .unreadable)
    | some .outside => .error (.store .invalidId)
    | _ => .error (.store .notFound)

/-- Python `path.is_file()`, through links. -/
def StoreEntry.isFile : StoreEntry → Bool
  | .other => false
  | _ => true

/-- Python `QualityEvidenceStore.list_ids`. -/
def QualityStore.listIds (store : QualityStore) : List PyString :=
  sortedBy PyString.codes
    ((store.entries.filter fun entry => entry.2.isFile && isRecordId entry.1).map (·.1))

/-- The records of some ids, without those that the store refuses. -/
def recordsOf (env : Surroundings) (store : QualityStore) : List PyString → Except PyError (List Json)
  | [] => .ok []
  | id :: ids =>
    match store.load env id with
    | .ok record => (recordsOf env store ids).map (record :: ·)
    | .error (.store _) => recordsOf env store ids
    | .error (.escaped error) => .error error

/-- Python `QualityEvidenceStore.records`. -/
def QualityStore.records (env : Surroundings) (store : QualityStore) : Except PyError (List Json) :=
  recordsOf env store store.listIds

end Jaull.Evaluation
