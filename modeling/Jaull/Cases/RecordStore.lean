import Jaull.Cases.Manifest
import Jaull.Evaluation.Store
import Jaull.Lib.Interleaving

/-!
# Stores of immutable records

Port of `jaull/experiments/storage.py`, `jaull/benchmarks/storage.py` and `jaull/cases/storage.py`: one
directory of JSON files each, the same code three times. A save is cut at the steps that touch the file
system. It writes into a temporary file that is named after the record, and publishes it by a rename that
replaces what is there. What `pydantic` writes and reads is a parameter.
-/

namespace Jaull.Cases
open Jaull.Domain Jaull.Evaluation Jaull.Lib Jaull.Text

section Disk

/-- What stands under a name. -/
inductive DiskEntry
  | file (inode : ℕ)
  /-- A link to a file outside of the directory. -/
  | link (inode : ℕ)
  /-- Anything that is no file. -/
  | other
  deriving DecidableEq, Repr

/-- The file behind an entry. -/
def DiskEntry.inode? : DiskEntry → Option ℕ
  | .file inode => some inode
  | .link inode => some inode
  | .other => none

/-- A directory with what its files hold. Files are told apart by their inodes, those from `fresh` on are
unused. -/
structure Disk where
  names : List (List ℕ × DiskEntry) := []
  contents : ℕ → List UInt8 := fun _ => []
  fresh : ℕ := 0

/-- The longest file name that a file system takes, in bytes. The names of records are ASCII, one byte a
character. -/
def nameMax : ℕ :=
  255

/-- The operating system answers with an error (`ENAMETOOLONG`) for a path with such a name. -/
def nameTooLong (name : List ℕ) : Bool :=
  nameMax < name.length

namespace Disk

/-- The inode of the file under a name, through links. -/
def inode? (disk : Disk) (name : List ℕ) : Option ℕ :=
  (disk.names.lookup name).bind (·.inode?)

/-- Python `path.read_bytes()` of a path that `is_file()`. -/
def content? (disk : Disk) (name : List ℕ) : Option (List UInt8) :=
  (disk.inode? name).map disk.contents

/-- Python `path.is_file()`, of a name that is not too long. -/
def isFile (disk : Disk) (name : List ℕ) : Bool :=
  (disk.inode? name).isSome

/-- Python `path.open("w")`: the file under a name, emptied, or a new one. -/
def openTruncate (disk : Disk) (name : List ℕ) : Option (Disk × ℕ) :=
  if nameTooLong name then none
  else
    match disk.names.lookup name with
    | none => some ({ names := dictSet disk.names name (.file disk.fresh)
                      contents := Function.update disk.contents disk.fresh []
                      fresh := disk.fresh + 1 }, disk.fresh)
    | some entry => entry.inode?.map fun inode =>
        ({ disk with contents := Function.update disk.contents inode [] }, inode)

/-- Python `handle.write` of a handle that stands at the start of its file. -/
def write (disk : Disk) (inode : ℕ) (bytes : List UInt8) : Disk :=
  { disk with
    contents := Function.update disk.contents inode
      (bytes ++ (disk.contents inode).drop bytes.length) }

/-- Python `os.replace`, of files. -/
def replace (disk : Disk) (source target : List ℕ) : Option Disk :=
  if nameTooLong source || nameTooLong target then none
  else
    match disk.names.lookup source, disk.names.lookup target with
    | none, _ => none
    | some .other, _ => none
    | _, some .other => none
    | some entry, _ => some { disk with names := dictSet (dictPop disk.names source) target entry }

/-- Python `path.unlink(missing_ok=True)`. -/
def unlink (disk : Disk) (name : List ℕ) : Disk :=
  match disk.names.lookup name with
  | some .other => disk
  | _ => { disk with names := dictPop disk.names name }

end Disk

end Disk

section Stores

/-- Why a store refuses. -/
inductive StoreFailure
  | invalidId
  | outsideRoot
  /-- The `OSError` that leaves `path.is_file()`. -/
  | nameTooLong
  | notFound
  | notUtf8
  | unreadable
  | invalid
  | unsupportedVersion (version : ℤ)
  | otherId
  /-- The id exists with different content. -/
  | different
  | unsaved
  /-- `pydantic` cannot write the record. -/
  | unserializable
  deriving DecidableEq, Repr

/-- What `pydantic` does with the envelopes of records: the text of one with the schema version of its
store, and the version and the record in a text. -/
structure Pydantic (Record : Type) where
  dumps : Record → Option (List Char)
  parse : String → Option (ℤ × Record)

/-- A store of records, with what it reads where there is no envelope. -/
structure RecordStore (Record : Type) where
  idOf : Record → PyString
  envelopes : Pydantic Record
  legacy : String → Option Record := fun _ => none

/-- Python `CaseStore`. -/
def CaseStore (envelopes : Pydantic ExperimentalCaseManifest) : RecordStore ExperimentalCaseManifest where
  idOf manifest := manifest.identity.caseId
  envelopes := envelopes

/-- Python `BenchmarkStore`. -/
def BenchmarkStore (envelopes : Pydantic BenchmarkRecord) : RecordStore BenchmarkRecord where
  idOf record := record.benchmarkId
  envelopes := envelopes

/-- Python `_load_legacy_record`: a document that is no envelope. -/
def loadLegacyRecord {Record : Type} (loads : String → Option Json) (validate : Json → Option Record)
    (text : String) : Option Record :=
  match loads text with
  | some payload =>
    if (payload.dict?.getD []).any fun field => field.1 = "experiment" then none else validate payload
  | none => none

/-- Python `ExperimentStore`. -/
def ExperimentStore (envelopes : Pydantic ExperimentRecord) (loads : String → Option Json)
    (validate : Json → Option ExperimentRecord) : RecordStore ExperimentRecord where
  idOf record := record.experimentId
  envelopes := envelopes
  legacy := loadLegacyRecord loads validate

/-- The file name of a record. -/
def recordName (id : PyString) : List ℕ :=
  id.codes ++ codesOf ".json"

/-- The name of the temporary file of a record. -/
def temporaryName (id : PyString) : List ℕ :=
  recordName id ++ codesOf ".tmp"

/-- Python `path_for`. -/
def pathFor (disk : Disk) (id : PyString) : Except StoreFailure (List ℕ) :=
  if id = "" || !isSafeId id then .error .invalidId
  else
    match disk.names.lookup (recordName id) with
    | some (.link _) => .error .outsideRoot
    | _ => .ok (recordName id)

variable {Record : Type}

/-- The record that the bytes of a file hold under an id. -/
def RecordStore.readRecord (store : RecordStore Record) (id : PyString) (bytes : List UInt8) :
    Except StoreFailure Record :=
  match readText bytes with
  | .error _ => .error .notUtf8
  | .ok text =>
    match store.envelopes.parse text with
    | some (version, record) =>
      if version ≠ 1 then .error (.unsupportedVersion version)
      else if store.idOf record ≠ id then .error .otherId
      else .ok record
    | none =>
      match store.legacy text with
      | some record => if store.idOf record ≠ id then .error .otherId else .ok record
      | none => .error .invalid

/-- An envelope of an experiment that `pydantic` refuses is not taken for a record of before the envelopes. -/
lemma readRecord_experimentStore {envelopes : Pydantic ExperimentRecord} {loads : String → Option Json}
    {validate : Json → Option ExperimentRecord} {id : PyString} {bytes : List UInt8} {text : String}
    {fields : List (PyString × Json)} {value : Json} (read : readText bytes = .ok text)
    (refused : envelopes.parse text = none) (loaded : loads text = some (.obj fields))
    (envelope : (("experiment" : PyString), value) ∈ fields) :
    (ExperimentStore envelopes loads validate).readRecord id bytes = .error .invalid := by
  have named : fields.any (fun field => field.1 = "experiment") = true :=
    List.any_eq_true.mpr ⟨_, envelope, decide_eq_true rfl⟩
  have legacy : (ExperimentStore envelopes loads validate).legacy text = none := by
    change loadLegacyRecord loads validate text = none
    rw [loadLegacyRecord, loaded]
    exact if_pos named
  have unread : (ExperimentStore envelopes loads validate).envelopes.parse text = none := refused
  rw [RecordStore.readRecord, read]
  dsimp only
  rw [unread]
  dsimp only
  rw [legacy]

/-- Python `load`. -/
def RecordStore.load (store : RecordStore Record) (disk : Disk) (id : PyString) :
    Except StoreFailure Record := do
  let name ← pathFor disk id
  if nameTooLong name then .error .nameTooLong
  else
    match disk.content? name with
    | none => .error .notFound
    | some bytes => store.readRecord id bytes

/-- The bytes that a save writes. -/
def RecordStore.payload (store : RecordStore Record) (record : Record) : Option (List UInt8) :=
  (store.envelopes.dumps record).map fun text => encodeUtf8 (text ++ ['\n'])

end Stores

section Saves
variable {Record : Type} [DecidableEq Record]

/-- Where a save is. -/
inductive WritePhase
  | starting
  /-- In front of `path.is_file()`. -/
  | testing
  /-- In front of the `is_file()` of the load. -/
  | probing
  /-- In front of the read of the load. -/
  | reading
  /-- In front of `temporary.open("w")`. -/
  | opening (payload : List UInt8)
  /-- In front of the write, with the file that was opened. -/
  | writing (payload : List UInt8) (inode : ℕ)
  /-- In front of `os.replace`. -/
  | replacing
  /-- In front of the `unlink` of the handler. -/
  | clearing
  | returned (name : List ℕ)
  | failed (failure : StoreFailure)
  deriving DecidableEq, Repr

/-- The next step of a save that the operating system lets go on. -/
def RecordStore.advance (store : RecordStore Record) (record : Record) (disk : Disk) :
    WritePhase → Disk × WritePhase
  | .starting =>
    match pathFor disk (store.idOf record) with
    | .ok _ => (disk, .testing)
    | .error failure => (disk, .failed failure)
  | .testing =>
    if nameTooLong (recordName (store.idOf record)) then (disk, .failed .nameTooLong)
    else if disk.isFile (recordName (store.idOf record)) then (disk, .probing)
    else
      match store.payload record with
      | some payload => (disk, .opening payload)
      | none => (disk, .failed .unserializable)
  | .probing =>
    match pathFor disk (store.idOf record) with
    | .ok name =>
      if nameTooLong name then (disk, .failed .nameTooLong)
      else (disk, if disk.isFile name then .reading else .failed .notFound)
    | .error failure => (disk, .failed failure)
  | .reading =>
    match disk.content? (recordName (store.idOf record)) with
    | none => (disk, .failed .unreadable)
    | some bytes =>
      match store.readRecord (store.idOf record) bytes with
      | .ok existing =>
        (disk, if existing = record then .returned (recordName (store.idOf record))
          else .failed .different)
      | .error failure => (disk, .failed failure)
  | .opening payload =>
    match disk.openTruncate (temporaryName (store.idOf record)) with
    | some (disk', inode) => (disk', .writing payload inode)
    | none => (disk, .clearing)
  | .writing payload inode => (disk.write inode payload, .replacing)
  | .replacing =>
    match disk.replace (temporaryName (store.idOf record)) (recordName (store.idOf record)) with
    | some disk' => (disk', .returned (recordName (store.idOf record)))
    | none => (disk, .clearing)
  | .clearing => (disk.unlink (temporaryName (store.idOf record)), .failed .unsaved)
  | .returned name => (disk, .returned name)
  | .failed failure => (disk, .failed failure)

/-- Python `save`, alone: it ends within seven steps. -/
def RecordStore.save (store : RecordStore Record) (record : Record) (disk : Disk) : Disk × WritePhase :=
  (fun state => store.advance record state.1 state.2)^[7] (disk, .starting)

/-- Whether a save is between its test and its end. -/
def WritePhase.inFlight : WritePhase → Bool
  | .opening _ => true
  | .writing _ _ => true
  | .replacing => true
  | .clearing => true
  | _ => false

/-- A step of a save. The operating system may refuse the read of a load and whatever the handler of a save
is around; a refused write may leave a part behind. -/
inductive WriteMove (store : RecordStore Record) (record : Record) :
    Disk → WritePhase → Disk → WritePhase → Prop
  | advance (disk : Disk) (phase : WritePhase) :
      WriteMove store record disk phase (store.advance record disk phase).1
        (store.advance record disk phase).2
  | unread {disk : Disk} : WriteMove store record disk .reading disk (.failed .unreadable)
  | refused {disk : Disk} {phase : WritePhase} (handled : phase.inFlight = true) :
      WriteMove store record disk phase disk .clearing
  | torn {disk : Disk} {payload : List UInt8} {inode : ℕ} (written : ℕ) :
      WriteMove store record disk (.writing payload inode) (disk.write inode (payload.take written))
        .clearing
  | uncleared {disk : Disk} : WriteMove store record disk .clearing disk (.failed .unsaved)

/-- The saves of one record each into one store. -/
def writesOf {ι : Type} (store : RecordStore Record) (records : ι → Record) : Moves ι Disk WritePhase :=
  fun i => WriteMove store (records i)

end Saves

end Jaull.Cases
