import Jaull.Artifacts.Storage

/-!
# Downloads and their verification

Port of `download`, `verify` and `_promote_if_present` of `jaull/artifacts/service.py`. A call carries what the
downloader does and what the operating system refuses.
-/

namespace Jaull.Artifacts
open Jaull.Domain Jaull.Evaluation Jaull.Lib Jaull.Text

/-- Python `ModelArtifact`. -/
structure StoredArtifact extends ModelArtifact where
  localPath : Option FilePlace := none
  isDownloaded : Bool := false
  isVerified : Bool := false
  deriving DecidableEq, Repr

section Failures

/-- What a downloader raises. -/
inductive DownloaderError
  | gated
  | entryNotFound
  | repositoryNotFound
  | http (status : Option ℤ)
  /-- A `JaullError` of its own. -/
  | jaull
  | os
  deriving DecidableEq, Repr

/-- What `download` raises. -/
inductive DownloadFailure
  | artifact (refusal : PathRefusal)
  /-- `ArtifactDownloadError`: the repository is gated. -/
  | gated
  /-- `ArtifactNotFoundError`. -/
  | notFound
  /-- `ArtifactDownloadError`: an HTTP status. -/
  | http (status : Option ℤ)
  /-- `ArtifactDownloadError`: an I/O error. -/
  | io
  /-- `ArtifactVerificationError`: other bytes than expected. -/
  | mismatch (expected downloaded : String)
  | jaull
  deriving DecidableEq, Repr

/-- How `download` translates what the downloader raises. -/
def DownloaderError.translated : DownloaderError → DownloadFailure
  | .gated => .gated
  | .entryNotFound => .notFound
  | .repositoryNotFound => .notFound
  | .http status => .http status
  | .jaull => .jaull
  | .os => .io

end Failures

section Download

/-- The steps of a download that the operating system may refuse. -/
inductive DownloadStep
  | parent | clear | read | save
  deriving DecidableEq, Repr

/-- A call of `download`: the artifact, and what happens around it. -/
structure DownloadCall where
  artifact : StoredArtifact
  /-- The bytes that the downloader puts at the target path, if it writes. -/
  writes : Option (List UInt8)
  raises : Option DownloaderError
  refuses : DownloadStep → Bool
  /-- How much of the sidecar is on the disk where its writing is refused, if it was opened. -/
  saved : Option ℕ

/-- The part of `download` behind the downloader: the digest is taken, compared and saved. -/
def record (sha256 : List UInt8 → String) (call : DownloadCall) (place : FilePlace) (store : FileStore) :
    Except DownloadFailure StoredArtifact × FileStore :=
  match store.bytes? place with
  | none => (.error .io, store)
  | some bytes =>
    if call.refuses .read then (.error .io, store)
    else
      let digest := sha256 bytes
      match call.artifact.sha256.filter fun expected => digest ≠ lower expected with
      | some expected => (.error (.mismatch expected digest), store)
      | none =>
        if call.refuses .save then
          (.error .io,
            match call.saved with
            | none => store
            | some count => store.write (sidecar place) ((sidecarBytes digest).take count))
        else
          (.ok
            { call.artifact with
              localPath := some place
              sha256 := some digest
              isDownloaded := true
              isVerified := false },
            store.write (sidecar place) (sidecarBytes digest))

/-- Python `ArtifactService.download`: what it returns or raises, and what is left. -/
def download (sha256 : List UInt8 → String) (root : List String) (store : FileStore) (call : DownloadCall) :
    Except DownloadFailure StoredArtifact × FileStore :=
  match safePath root call.artifact.repoId call.artifact.filename with
  | .error refusal => (.error (.artifact refusal), store)
  | .ok place =>
    if call.refuses .parent then (.error .io, store)
    else
      let store := store.makeFolder place.folder
      -- A previous digest must not certify bytes replaced by a failed download.
      if call.refuses .clear then (.error .io, store)
      else
        let store := store.unlink (sidecar place)
        let store :=
          match call.writes with
          | none => store
          | some bytes => store.write place bytes
        match call.raises with
        | some error => (.error error.translated, store)
        | none => record sha256 call place store

end Download

section Verify

/-- The steps of a verification that the operating system may refuse. -/
inductive VerifyStep
  | sidecar | read
  deriving DecidableEq, Repr

/-- A call of `verify`. -/
structure VerifyCall where
  artifact : StoredArtifact
  full : Bool := false
  refuses : VerifyStep → Bool

/-- What `verify` raises: `ArtifactVerificationError` but for names that the storage refuses. -/
inductive VerifyFailure
  | artifact (refusal : PathRefusal)
  | missing
  | sizeMismatch (expected : ℤ) (actual : ℕ)
  | sidecar (fault : SidecarFault)
  | noSidecar
  | sidecarMismatch (expected stored : String)
  | unreadable
  | diskMismatch (stored fresh : String)
  deriving DecidableEq, Repr

/-- The file that `verify` looks at. -/
def verifiedPlace (root : List String) (artifact : StoredArtifact) : Except PathRefusal FilePlace :=
  match artifact.localPath with
  | some place => .ok place
  | none => safePath root artifact.repoId artifact.filename

/-- Python `ArtifactService.verify`. -/
def verify (sha256 : List UInt8 → String) (root : List String) (store : FileStore) (call : VerifyCall) :
    Except VerifyFailure StoredArtifact :=
  match verifiedPlace root call.artifact with
  | .error refusal => .error (.artifact refusal)
  | .ok place =>
    match store.bytes? place with
    | none => .error .missing
    | some bytes =>
      match call.artifact.sizeBytes.filter fun size => (bytes.length : ℤ) ≠ size with
      | some size => .error (.sizeMismatch size bytes.length)
      | none =>
        match loadSha256 (store.bytes? (sidecar place)) (call.refuses .sidecar) with
        | .error fault => .error (.sidecar fault)
        | .ok none => .error .noSidecar
        | .ok (some stored) =>
          match call.artifact.sha256.filter fun expected => stored ≠ lower expected with
          | some expected => .error (.sidecarMismatch expected stored)
          | none =>
            if call.full ∧ call.refuses .read then .error .unreadable
            else if call.full ∧ sha256 bytes ≠ stored then .error (.diskMismatch stored (sha256 bytes))
            else
              .ok
                { call.artifact with
                  localPath := some place
                  sha256 := some stored
                  isDownloaded := true
                  isVerified := true }

end Verify

section Runs

/-- A call on the store. -/
inductive StoreCall
  | download (call : DownloadCall)
  | verify (call : VerifyCall)
  | delete (call : DeleteCall)

/-- What a call leaves. -/
def StoreCall.after (sha256 : List UInt8 → String) (root : List String) (store : FileStore) :
    StoreCall → FileStore
  | .download call => (Artifacts.download sha256 root store call).2
  | .verify _ => store
  | .delete call => (Artifacts.delete root store call).2

/-- What calls leave, one after the other. -/
def run (sha256 : List UInt8 → String) (root : List String) (store : FileStore) (calls : List StoreCall) :
    FileStore :=
  calls.foldl (StoreCall.after sha256 root) store

end Runs

end Jaull.Artifacts
