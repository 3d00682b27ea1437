import Jaull.Domain.Records
import Jaull.Evaluation.Store
import Jaull.Lib.Dict

/-!
# The store of artifacts

Port of `jaull/artifacts/storage.py`: downloaded files under `<owner>/<repo>/` of a root, each with the digest
of its bytes in a file beside it. A path is given by the place it leads to; the store holds no links. What the
operating system refuses is given.
-/

namespace Jaull.Artifacts
open Jaull.Domain Jaull.Evaluation Jaull.Lib Jaull.Text

section Files

/-- A place for a file: the folder, by the names that lead to it, and a name in it. -/
structure FilePlace where
  folder : List String
  name : String
  deriving DecidableEq, Repr

/-- The files and folders of a machine. -/
structure FileStore where
  files : List (FilePlace × List UInt8) := []
  folders : List (List String) := []
  deriving DecidableEq, Repr

namespace FileStore
variable (store : FileStore)

/-- The bytes of a file, if it is one. -/
def bytes? (place : FilePlace) : Option (List UInt8) :=
  store.files.lookup place

/-- Python `path.write_bytes`, or `write_text` of what is encoded. -/
def write (place : FilePlace) (bytes : List UInt8) : FileStore :=
  { store with files := dictSet store.files place bytes }

/-- Python `path.unlink(missing_ok=True)`. -/
def unlink (place : FilePlace) : FileStore :=
  { store with files := dictPop store.files place }

/-- Python `folder.mkdir(parents=True, exist_ok=True)`, as far as the folder itself goes. -/
def makeFolder (folder : List String) : FileStore :=
  if folder ∈ store.folders then store else { store with folders := folder :: store.folders }

/-- Python `shutil.rmtree(folder, ignore_errors=True)`: some files may stay, and with them the folder. -/
def removeTree (folder : List String) (stays : String → Bool) : FileStore where
  files := store.files.filter fun entry => entry.1.folder ≠ folder || stays entry.1.name
  folders :=
    if store.files.any fun entry => entry.1.folder = folder && stays entry.1.name then store.folders
    else store.folders.filter (· ≠ folder)

variable {store} {place other : FilePlace} {bytes : List UInt8} {folder : List String}

/-- Making a folder changes no file. -/
@[simp] lemma bytes?_makeFolder : (store.makeFolder folder).bytes? place = store.bytes? place := by
  rw [makeFolder]
  split <;> rfl

@[simp] lemma bytes?_write_self : (store.write place bytes).bytes? place = some bytes :=
  lookup_dictSet_self

/-- Other files keep theirs. -/
lemma bytes?_write_ne (ne : other ≠ place) : (store.write place bytes).bytes? other = store.bytes? other :=
  lookup_dictSet_ne ne

@[simp] lemma bytes?_unlink_self : (store.unlink place).bytes? place = none :=
  lookup_dictPop_self

/-- Other files stay. -/
lemma bytes?_unlink_ne (ne : other ≠ place) : (store.unlink place).bytes? other = store.bytes? other :=
  lookup_dictPop_ne ne

/-- A file that is removed is gone, and no other file changes. -/
lemma bytes?_removeTree {stays : String → Bool} :
    (store.removeTree folder stays).bytes? place =
      if place.folder ≠ folder || stays place.name then store.bytes? place else none :=
  lookup_filter_key fun place : FilePlace => place.folder ≠ folder || stays place.name

end FileStore

end Files

section Paths

/-- Why `ArtifactStorage` refuses a name (Python `ArtifactError`). -/
inductive PathRefusal
  | repoId (repoId : String)
  | segment (segment : String)
  | segmentNul
  | filename (filename : String)
  | notBasename (filename : String)
  | filenameNul
  deriving DecidableEq, Repr

/-- Python `text.partition("/")`, without the separator. -/
def partition (text : String) : String × String :=
  let owner := text.toList.takeWhile (· ≠ '/')
  (String.ofList owner, String.ofList (text.toList.drop (owner.length + 1)))

/-- Python `ArtifactStorage._reject_traversal`. -/
def rejectTraversal (segment : String) : Except PathRefusal Unit :=
  if segment ∈ ["", ".", ".."] ∨ '\\' ∈ segment.toList ∨ '/' ∈ segment.toList then .error (.segment segment)
  else if '\x00' ∈ segment.toList then .error .segmentNul
  else .ok ()

/-- Python `ArtifactStorage._reject_filename`. -/
def rejectFilename (filename : String) : Except PathRefusal Unit :=
  if filename ∈ ["", ".", ".."] then .error (.filename filename)
  else if '/' ∈ filename.toList ∨ '\\' ∈ filename.toList then .error (.notBasename filename)
  else if '\x00' ∈ filename.toList then .error .filenameNul
  else .ok ()

/-- Python `ArtifactStorage._safe_path`. Without links, no place under the root is outside of it. -/
def safePath (root : List String) (repoId filename : String) : Except PathRefusal FilePlace :=
  let (owner, repo) := partition repoId
  if owner = "" ∨ repo = "" ∨ '/' ∈ repo.toList then .error (.repoId repoId)
  else do
    rejectTraversal owner
    rejectTraversal repo
    rejectFilename filename
    .ok ⟨root ++ [owner, repo], filename⟩

end Paths

section Sidecars

/-- Python `ArtifactStorage._sidecar`. -/
def sidecar (place : FilePlace) : FilePlace :=
  { place with name := place.name ++ ".sha256" }

/-- What `save_sha256` writes. -/
def sidecarBytes (digest : String) : List UInt8 :=
  (strip digest ++ "\n").toList.map fun c => UInt8.ofNat c.toNat

/-- Python `path.read_text(encoding="ascii")`, of the bytes. -/
def readAscii (bytes : List UInt8) : Option String :=
  if bytes.all (· < 128) then
    some (String.ofList (universalNewlines (bytes.map fun byte => Char.ofNat byte.toNat)))
  else none

/-- Why `load_sha256` raises `ArtifactVerificationError`. -/
inductive SidecarFault
  | unreadable
  | invalid
  deriving DecidableEq, Repr

/-- `[0-9a-fA-F]`. -/
def isHexDigit (c : Char) : Bool :=
  ('0' ≤ c && c ≤ '9') || ('a' ≤ c && c ≤ 'f') || ('A' ≤ c && c ≤ 'F')

/-- Python `ArtifactStorage.load_sha256`, of a sidecar that may not be there or not be read. -/
def loadSha256 (content : Option (List UInt8)) (refused : Bool) : Except SidecarFault (Option String) :=
  match content with
  | none => .ok none
  | some bytes =>
    if refused then .error .unreadable
    else
      match readAscii bytes with
      | none => .error .unreadable
      | some text =>
        let digest := strip text
        if digest = "" then .ok none
        else if digest.toList.length = 64 ∧ digest.toList.all isHexDigit then .ok (some (lower digest))
        else .error .invalid

end Sidecars

section Deletion

/-- The steps of a deletion that the operating system may refuse. -/
inductive DeleteStep
  | file | sidecar | leftovers | listing
  deriving DecidableEq, Repr

/-- A call of `delete`: what it is given, and what happens around it. -/
structure DeleteCall where
  repoId : String
  filename : String
  refuses : DeleteStep → Bool
  /-- The files that the removal of a folder leaves. -/
  stays : String → Bool

/-- What a deletion raises. -/
inductive DeleteFailure
  | artifact (refusal : PathRefusal)
  /-- An `OSError`, which nobody handles. -/
  | os
  deriving DecidableEq, Repr

/-- Whether a folder holds a file that is no sidecar. -/
def holdsModels (store : FileStore) (folder : List String) : Bool :=
  store.files.any fun entry =>
    entry.1.folder = folder && !".sha256".toList.isSuffixOf entry.1.name.toList

/-- Python `ArtifactStorage.delete`: the bytes freed, or what it raises, and what is left. The bookkeeping of
downloads lies deeper than models do. -/
def delete (root : List String) (store : FileStore) (call : DeleteCall) :
    Except DeleteFailure ℕ × FileStore :=
  match safePath root call.repoId call.filename with
  | .error refusal => (.error (.artifact refusal), store)
  | .ok place =>
    let freed := ((store.bytes? place).getD []).length
    if call.refuses .file then (.error .os, store)
    else
      let store := store.unlink place
      if call.refuses .sidecar then (.error .os, store)
      else
        let store := store.unlink (sidecar place)
        if call.refuses .leftovers ∨ call.refuses .listing ∨ place.folder ∉ store.folders then
          (.error .os, store)
        else if holdsModels store place.folder then (.ok freed, store)
        else (.ok freed, store.removeTree place.folder call.stays)

end Deletion

end Jaull.Artifacts
