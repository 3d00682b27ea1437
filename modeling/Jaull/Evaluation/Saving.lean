import Jaull.Evaluation.Store
import Jaull.Lib.Interleaving
import Jaull.Lib.JsonFile

/-!
# Saving into the quality store

Port of Python `QualityEvidenceStore.save` and `save_record`, cut at the steps that touch the file system,
so that the steps of several saves can be interleaved. The temporary file has a name of its own and is
published by a link that never replaces anything.
-/

namespace Jaull.Evaluation
open Jaull.Lib Jaull.Text

/-- The names that a save tries in turn. -/
inductive Slot
  | primary
  | repeated
  deriving DecidableEq, Repr

/-- The ids of a record: its identity, and the identity with the digest of the record. -/
structure SaveNames where
  primary : PyString
  repeated : PyString
  deriving DecidableEq, Repr

/-- The name that a slot of a save is given. -/
def SaveNames.id (names : SaveNames) : Slot → PyString
  | .primary => names.primary
  | .repeated => names.repeated

/-- Why a save fails: the operating system, an exception outside of `save_record`, an exception of
`save_record`, or another record under the last name. -/
inductive SaveFailure
  | system
  | raised (error : LoadError)
  | invalid (error : PyError)
  | different
  deriving DecidableEq, Repr

/-- Where a save is. -/
inductive SavePhase
  | starting
  /-- In front of `path.is_file()`. -/
  | testing (names : SaveNames) (slot : Slot)
  /-- In front of the temporary file. -/
  | staging (names : SaveNames) (slot : Slot)
  /-- In front of `os.link`. -/
  | linking (names : SaveNames) (slot : Slot)
  /-- In front of the `fsync` of the directory. -/
  | syncing (names : SaveNames) (slot : Slot)
  /-- In front of the `is_file` of a load. -/
  | probing (names : SaveNames) (slot : Slot)
  /-- In front of the read of a load. -/
  | reading (names : SaveNames) (slot : Slot)
  | returned (id : PyString)
  | failed (failure : SaveFailure)
  deriving DecidableEq, Repr

/-- The id of the path that Python `QualityEvidenceStore.path_for` gives. -/
def QualityStore.pathFor (store : QualityStore) (id : PyString) : Except LoadError PyString :=
  if !isRecordId id || store.entries.lookup id = some .outside then .error (.store .invalidId)
  else .ok id

/-- The names of a record, of which the digest of its identity is stated. -/
def saveNames (env : Surroundings) (store : QualityStore) (record : Json) :
    Except LoadError SaveNames := do
  let stated ← unhandled (record.field "identity_sha256")
  let sha ← unhandled (digest env (← unhandled (record.field "identity")))
  if !pyEq stated (.str sha) then .error (.store .mismatch)
  else do
    let primary ← store.pathFor (.text sha)
    let recordSha ← unhandled (digest env record)
    let repeated ← store.pathFor (.text (sha ++ "-" ++ recordSha))
    return ⟨primary, repeated⟩

/-- A record with its digest. -/
def envelope (record : Json) (sha : String) : Json :=
  .obj [("record", record), ("record_sha256", .str sha)]

/-- What Python `save_record` puts into the file. -/
def fileOf (env : Surroundings) (record : Json) : Except PyError (List UInt8) := do
  validateRecord env record
  let sha ← lifted (digest env record)
  let text ← lifted (encoded (.indented 2) (envelope record sha))
  return encodeUtf8 (charsOf (text ++ [10]))

/-- Behind a load that the store refused: the next name, if there is one. -/
def otherwise (names : SaveNames) (failure : SaveFailure) : Slot → SavePhase
  | .primary => .testing names .repeated
  | .repeated => .failed failure

/-- Behind the load of a record. -/
def judge (record : Json) (names : SaveNames) (slot : Slot) (existing : Json) : SavePhase :=
  if pyEq existing record then .returned (names.id slot) else otherwise names .different slot

/-- The next step of a save that the operating system lets go on. -/
def advance (env : Surroundings) (record : Json) (store : QualityStore) :
    SavePhase → QualityStore × SavePhase
  | .starting =>
    match saveNames env store record with
    | .ok names => (store, .testing names .primary)
    | .error error => (store, .failed (.raised error))
  | .testing names slot =>
    if (store.entries.lookup (names.id slot)).any (·.isFile) then (store, .probing names slot)
    else (store, .staging names slot)
  | .staging names slot =>
    match fileOf env record with
    | .ok _ => (store, .linking names slot)
    | .error error => (store, .failed (.invalid error))
  | .linking names slot =>
    match store.entries.lookup (names.id slot), fileOf env record with
    | none, .ok content =>
      (⟨store.entries ++ [(names.id slot, .file content)]⟩, .syncing names slot)
    -- Another writer published before.
    | _, _ => (store, .probing names slot)
  | .syncing names slot => (store, .returned (names.id slot))
  | .probing names slot =>
    match store.pathFor (names.id slot) with
    | .error error => (store, otherwise names (.raised error) slot)
    | .ok id =>
      if (store.entries.lookup id).any (·.isFile) then (store, .reading names slot)
      else (store, otherwise names (.raised (.store .notFound)) slot)
  | .reading names slot =>
    match store.load env (names.id slot) with
    | .ok existing => (store, judge record names slot existing)
    | .error (.store error) => (store, otherwise names (.raised (.store error)) slot)
    | .error (.escaped error) => (store, .failed (.raised (.escaped error)))
  | .returned id => (store, .returned id)
  | .failed failure => (store, .failed failure)

/-- Whether a save has ended. -/
def SavePhase.done : SavePhase → Bool
  | .returned _ => true
  | .failed _ => true
  | _ => false

/-- A step of a save. The operating system may refuse any of them; a read that it refuses is a load that
the store refuses. -/
inductive SaveMove (env : Surroundings) (record : Json) :
    QualityStore → SavePhase → QualityStore → SavePhase → Prop
  | advance (store : QualityStore) (phase : SavePhase) :
      SaveMove env record store phase (advance env record store phase).1
        (advance env record store phase).2
  | refused {store : QualityStore} {phase : SavePhase} (running : phase.done = false) :
      SaveMove env record store phase store (.failed .system)
  | unread {store : QualityStore} {names : SaveNames} {slot : Slot} :
      SaveMove env record store (.reading names slot) store (otherwise names .system slot)

/-- The saves of one record each. -/
def savesOf {ι : Type} (env : Surroundings) (record : ι → Json) : Moves ι QualityStore SavePhase :=
  fun i => SaveMove env (record i)

end Jaull.Evaluation
