import Jaull.Artifacts.Digests

/-!
# What a call changes

A deletion takes files away. A download that starts takes the digest beside its target away, and puts another one
there only for the bytes that it leaves.
-/

namespace Jaull.Artifacts
open Jaull.Evaluation Jaull.Lib Jaull.Text

variable {sha256 : List UInt8 → String} {root : List String} {store : FileStore} {place other : FilePlace}

section Places

/-- The name of a model file. -/
def IsGguf (name : String) : Prop :=
  ".gguf".toList <:+ name.toList

instance (name : String) : Decidable (IsGguf name) :=
  inferInstanceAs (Decidable (".gguf".toList <:+ name.toList))

/-- A place for a file anywhere under the root of the storage. -/
def InStore (root : List String) (place : FilePlace) : Prop :=
  root <+: place.folder

/-- Files have sidecars of their own. -/
lemma sidecar_injective : Function.Injective sidecar := by
  rintro ⟨folder, name⟩ ⟨folder', name'⟩ same
  have folders : folder = folder' := congrArg FilePlace.folder same
  have names : name ++ ".sha256" = name' ++ ".sha256" := congrArg FilePlace.name same
  have texts := congrArg String.toList names
  rw [String.toList_append, String.toList_append] at texts
  exact congrArg₂ FilePlace.mk folders (String.toList_inj.mp (List.append_cancel_right texts))

/-- No sidecar is named as a model is. -/
lemma not_isGguf_sidecar : ¬ IsGguf (sidecar place).name := by
  intro gguf
  have suffix : ".sha256".toList <:+ (sidecar place).name.toList := by
    rw [sidecar, String.toList_append]
    exact List.suffix_append _ _
  have short := List.suffix_of_suffix_length_le gguf suffix (by decide)
  exact absurd short (by decide)

lemma ne_sidecar (gguf : IsGguf place.name) : place ≠ sidecar other := by
  rintro rfl
  exact not_isGguf_sidecar gguf

/-- A name that the storage takes leads to a place in a folder of a repository. -/
lemma safePath_inv {repoId filename : String} (safe : safePath root repoId filename = .ok place) :
    InStore root place ∧ place.name = filename := by
  rw [safePath] at safe
  dsimp only at safe
  split at safe
  · cases safe
  · cases rejected : rejectTraversal (partition repoId).1 with
    | error => rw [rejected] at safe; cases safe
    | ok =>
      cases rejected' : rejectTraversal (partition repoId).2 with
      | error => rw [rejected, rejected'] at safe; cases safe
      | ok =>
        cases rejected'' : rejectFilename filename with
        | error => rw [rejected, rejected', rejected''] at safe; cases safe
        | ok =>
          rw [rejected, rejected', rejected''] at safe
          cases safe
          exact ⟨List.prefix_append _ _, rfl⟩

end Places

section Deletes

/-- What is at a place is what was there, or nothing. -/
def Kept (before after : FileStore) (place : FilePlace) : Prop :=
  after.bytes? place = before.bytes? place ∨ after.bytes? place = none

/-- What is kept twice is kept. -/
lemma Kept.trans {before middle after : FileStore} (first : Kept before middle place)
    (second : Kept middle after place) : Kept before after place := by
  rcases second with same | gone
  · rcases first with same' | gone'
    · exact .inl (same.trans same')
    · exact .inr (same.trans gone')
  · exact .inr gone

/-- Bytes that are there were there. -/
lemma Kept.bytes {before after : FileStore} {bytes : List UInt8} (kept : Kept before after place)
    (there : after.bytes? place = some bytes) : before.bytes? place = some bytes := by
  rcases kept with same | gone
  · rw [← same, there]
  · rw [gone] at there
    cases there

/-- Unlinking another file keeps this one. -/
lemma kept_unlink : Kept store (store.unlink other) place := by
  by_cases same : place = other
  · subst same
    exact .inr FileStore.bytes?_unlink_self
  · exact .inl (FileStore.bytes?_unlink_ne same)

/-- So does removing a tree. -/
lemma kept_removeTree {folder : List String} {stays : String → Bool} :
    Kept store (store.removeTree folder stays) place := by
  rw [Kept, FileStore.bytes?_removeTree]
  split
  · exact .inl rfl
  · exact .inr rfl

/-- A deletion takes files away and does nothing else. -/
lemma kept_delete {call : DeleteCall} : Kept store (delete root store call).2 place := by
  rw [delete]
  split
  case h_1 => exact .inl rfl
  case h_2 target safe =>
    dsimp only
    have first : Kept store (store.unlink target) place := kept_unlink
    have second : Kept store ((store.unlink target).unlink (sidecar target)) place := first.trans kept_unlink
    split
    · exact .inl rfl
    · split
      · exact first
      · split
        · exact second
        · split
          · exact second
          · exact second.trans kept_removeTree

end Deletes

section Downloads
variable {call : DownloadCall} {stored : String}

/-- The place that a download is for, if the storage takes its names. -/
def DownloadCall.target (root : List String) (call : DownloadCall) : Option FilePlace :=
  (safePath root call.artifact.repoId call.artifact.filename).toOption

/-- The download ends before it takes the old digest away. -/
def DownloadCall.Spares (call : DownloadCall) : Prop :=
  call.refuses .parent = true ∨ call.refuses .clear = true

/-- The same call, with the writing of the digest not refused. -/
def DownloadCall.permitSave (call : DownloadCall) : DownloadCall :=
  { call with refuses := fun step => step ≠ .save && call.refuses step }

/-- All digits of the digest get to the disk, once the download gets there. -/
def DownloadCall.SavesDigits (call : DownloadCall) : Prop :=
  call.refuses .save = true → ∃ count, call.saved = some count ∧ 64 ≤ count

/-- The download puts the digest of what it leaves on the disk: it succeeds, or fails only when all digits are
written. -/
def Recorded (sha256 : List UInt8 → String) (root : List String) (store : FileStore) (call : DownloadCall) : Prop :=
  (∃ artifact, (download sha256 root store call.permitSave).1 = .ok artifact) ∧ call.SavesDigits

/-- What the sidecar of a place says. -/
def Reads (store : FileStore) (place : FilePlace) (stored : String) : Prop :=
  ∃ refused, loadSha256 (store.bytes? (sidecar place)) refused = .ok (some stored)

/-- Beside a place is the digest of what is there, if that was recorded, and none that can be read, if not. -/
def Attests (sha256 : List UInt8 → String) (store : FileStore) (place : FilePlace) (recorded : Prop) : Prop :=
  (recorded ∧ ∃ bytes, store.bytes? place = some bytes ∧ ∀ stored, Reads store place stored → stored = sha256 bytes) ∨
    ¬ recorded ∧ ∀ stored, ¬ Reads store place stored

/-- What the downloader leaves. -/
def DownloadCall.fetched (call : DownloadCall) (place : FilePlace) (store : FileStore) : FileStore :=
  let store := (store.makeFolder place.folder).unlink (sidecar place)
  match call.writes with
  | none => store
  | some bytes => store.write place bytes

/-- The target of a call is its safe path. -/
lemma safePath_of_target (target : call.target root = some place) :
    safePath root call.artifact.repoId call.artifact.filename = .ok place := by
  rw [DownloadCall.target] at target
  cases safe : safePath root call.artifact.repoId call.artifact.filename with
  | error refusal => rw [safe] at target; cases target
  | ok place' =>
    rw [safe] at target
    rw [Option.some.inj target]

/-- Without a sidecar nothing is read. -/
lemma not_reads_of_none (gone : store.bytes? (sidecar place) = none) : ¬ Reads store place stored := by
  rintro ⟨refused, loaded⟩
  rw [gone] at loaded
  cases loaded

/-- A sidecar that was kept was read before. -/
lemma Kept.reads {before after : FileStore} (kept : Kept before after (sidecar place))
    (reads : Reads after place stored) : Reads before place stored := by
  rcases kept with same | gone
  · obtain ⟨refused, loaded⟩ := reads
    exact ⟨refused, same ▸ loaded⟩
  · exact absurd reads (not_reads_of_none gone)

/-- Names that the storage refuses change nothing. -/
lemma download_of_no_target (target : call.target root = none) :
    ∃ failure, download sha256 root store call = (.error failure, store) := by
  rw [DownloadCall.target] at target
  rw [download.eq_def]
  cases safe : safePath root call.artifact.repoId call.artifact.filename with
  | error refusal => exact ⟨_, rfl⟩
  | ok place =>
    rw [safe] at target
    cases target

/-- A download that is spared changes no file. -/
lemma download_of_spares (target : call.target root = some place) (spares : call.Spares) :
    (∃ failure, (download sha256 root store call).1 = .error failure) ∧
      ∀ other, (download sha256 root store call).2.bytes? other = store.bytes? other := by
  rw [download.eq_def, safePath_of_target target]
  dsimp only
  by_cases parent : call.refuses .parent = true
  · rw [if_pos parent]
    exact ⟨⟨_, rfl⟩, fun _ => rfl⟩
  · rw [if_neg parent, if_pos (spares.resolve_left parent)]
    exact ⟨⟨_, rfl⟩, fun _ => FileStore.bytes?_makeFolder⟩

/-- A download that starts is its downloader and what follows. -/
lemma download_of_starts (target : call.target root = some place) (starts : ¬ call.Spares) :
    download sha256 root store call =
      match call.raises with
      | some error => (.error error.translated, call.fetched place store)
      | none => record sha256 call place (call.fetched place store) := by
  obtain ⟨parent, clear⟩ := not_or.mp starts
  rw [download.eq_def, safePath_of_target target]
  dsimp only
  rw [if_neg parent, if_neg clear]
  rfl

/-- A fetch touches the file and its sidecar only. -/
lemma bytes?_fetched_ne (ne : other ≠ place) (ne' : other ≠ sidecar place) :
    (call.fetched place store).bytes? other = store.bytes? other := by
  rw [DownloadCall.fetched]
  cases call.writes with
  | none => exact (FileStore.bytes?_unlink_ne ne').trans FileStore.bytes?_makeFolder
  | some bytes =>
    exact (FileStore.bytes?_write_ne ne).trans ((FileStore.bytes?_unlink_ne ne').trans FileStore.bytes?_makeFolder)

/-- No digest outlives the start of a download. -/
lemma bytes?_fetched_sidecar (ne : sidecar place ≠ place) :
    (call.fetched place store).bytes? (sidecar place) = none := by
  rw [DownloadCall.fetched]
  cases call.writes with
  | none => exact FileStore.bytes?_unlink_self
  | some bytes => exact (FileStore.bytes?_write_ne ne).trans FileStore.bytes?_unlink_self

/-- Behind the downloader, only the sidecar changes. -/
lemma bytes?_record_ne (ne : other ≠ sidecar place) :
    (record sha256 call place store).2.bytes? other = store.bytes? other := by
  rw [record]
  split
  · rfl
  · split
    · rfl
    · dsimp only
      split
      · rfl
      · split
        · split
          · rfl
          · exact FileStore.bytes?_write_ne ne
        · exact FileStore.bytes?_write_ne ne

/-- A download changes nothing but its target and the sidecar of it. -/
lemma bytes?_download_ne
    (ne : ∀ target, call.target root = some target → other ≠ target ∧ other ≠ sidecar target) :
    (download sha256 root store call).2.bytes? other = store.bytes? other := by
  cases target : call.target root with
  | none =>
    obtain ⟨refusal, failed⟩ := download_of_no_target target
    rw [failed]
  | some place =>
    obtain ⟨apart, apart'⟩ := ne place target
    by_cases spares : call.Spares
    · exact (download_of_spares target spares).2 other
    · rw [download_of_starts target spares]
      cases call.raises with
      | some error => exact bytes?_fetched_ne apart apart'
      | none => exact (bytes?_record_ne apart').trans (bytes?_fetched_ne apart apart')

end Downloads

section Outcomes
variable {call : DownloadCall} {bytes : List UInt8} {stored : String}

/-- The file can be read, and its bytes are the expected ones. -/
def DownloadCall.Accepts (sha256 : List UInt8 → String) (call : DownloadCall) (store : FileStore)
    (place : FilePlace) (bytes : List UInt8) : Prop :=
  store.bytes? place = some bytes ∧ call.refuses .read = false ∧
    (call.artifact.sha256.filter fun expected => sha256 bytes ≠ lower expected) = none

/-- An accepted download is recorded. -/
lemma record_of_saves (accepts : call.Accepts sha256 store place bytes) (save : call.refuses .save = false) :
    ∃ artifact, record sha256 call place store =
      (.ok artifact, store.write (sidecar place) (sidecarBytes (sha256 bytes))) := by
  obtain ⟨there, read, expected⟩ := accepts
  rw [record.eq_def, there]
  dsimp only
  rw [expected, read, save]
  exact ⟨_, rfl⟩

/-- If its sidecar cannot be written, the call fails and leaves part of it. -/
lemma record_of_unsaved (accepts : call.Accepts sha256 store place bytes) (save : call.refuses .save = true) :
    record sha256 call place store =
      (.error .io, call.saved.elim store fun count =>
        store.write (sidecar place) ((sidecarBytes (sha256 bytes)).take count)) := by
  obtain ⟨there, read, expected⟩ := accepts
  rw [record.eq_def, there]
  dsimp only
  rw [expected, read, save]
  cases call.saved with
  | none => rfl
  | some count => rfl

/-- What is not accepted fails and leaves the files. -/
lemma record_of_not_accepts (rejects : ∀ bytes, ¬ call.Accepts sha256 store place bytes) :
    ∃ failure, record sha256 call place store = (.error failure, store) := by
  rw [record.eq_def]
  cases there : store.bytes? place with
  | none => exact ⟨_, rfl⟩
  | some bytes =>
    dsimp only
    cases read : call.refuses .read with
    | true => exact ⟨_, rfl⟩
    | false =>
      cases expected : call.artifact.sha256.filter fun expected => sha256 bytes ≠ lower expected with
      | some expected => exact ⟨_, rfl⟩
      | none => exact absurd ⟨there, read, expected⟩ (rejects bytes)

/-- Behind the downloader, the digest of what is there gets written, or none that can be read. -/
lemma record_cases (hash : ∀ bytes, IsDigest (sha256 bytes)) (gone : store.bytes? (sidecar place) = none)
    (ne : place ≠ sidecar place) :
    Attests sha256 (record sha256 call place store).2 place
      ((∃ artifact, (record sha256 call.permitSave place store).1 = .ok artifact) ∧ call.SavesDigits) := by
  by_cases accepted : ∃ bytes, call.Accepts sha256 store place bytes
  -- a file that is not accepted: nothing is recorded, with or without a refused save
  case neg =>
    have rejects := not_exists.mp accepted
    have rejects' : ∀ bytes, ¬ call.permitSave.Accepts sha256 store place bytes := rejects
    refine .inr ⟨?_, ?_⟩
    · rintro ⟨⟨artifact, ok⟩, -⟩
      obtain ⟨failure, error⟩ := record_of_not_accepts rejects'
      rw [error] at ok
      cases ok
    · obtain ⟨failure, error⟩ := record_of_not_accepts rejects
      rw [error]
      exact fun stored => not_reads_of_none gone
  case pos =>
    obtain ⟨bytes, accepts⟩ := accepted
    have accepts' : call.permitSave.Accepts sha256 store place bytes := accepts
    have ok : ∃ artifact, (record sha256 call.permitSave place store).1 = .ok artifact := by
      obtain ⟨artifact, saves⟩ := record_of_saves accepts' rfl
      rw [saves]
      exact ⟨artifact, rfl⟩
    -- the sidecar is another file, so the recorded one stays as it was hashed
    have keeps {content : List UInt8} : (store.write (sidecar place) content).bytes? place = some bytes :=
      (FileStore.bytes?_write_ne ne).trans accepts.1
    cases save : call.refuses .save with
    | false =>
      obtain ⟨artifact, saves⟩ := record_of_saves accepts save
      rw [saves]
      refine .inl ⟨⟨ok, ?_⟩, bytes, keeps, ?_⟩
      · intro refused
        rw [save] at refused
        cases refused
      · rintro stored ⟨refused, loaded⟩
        rw [FileStore.bytes?_write_self, ← List.take_length (l := sidecarBytes (sha256 bytes))] at loaded
        exact (loadSha256_saved (hash bytes) loaded).1
    -- the save is refused, and leaves what it has written so far
    | true =>
      rw [record_of_unsaved accepts save]
      cases saved : call.saved with
      | none =>
        refine .inr ⟨?_, fun stored => not_reads_of_none gone⟩
        rintro ⟨-, saves⟩
        obtain ⟨count, there, -⟩ := saves save
        rw [saved] at there
        cases there
      | some count =>
        rw [Option.elim_some]
        by_cases enough : 64 ≤ count
        · refine .inl ⟨⟨ok, fun _ => ⟨count, saved, enough⟩⟩, bytes, keeps, ?_⟩
          rintro stored ⟨refused, loaded⟩
          rw [FileStore.bytes?_write_self] at loaded
          exact (loadSha256_saved (hash bytes) loaded).1
        · -- fewer digits are read as no digest
          refine .inr ⟨?_, ?_⟩
          · rintro ⟨-, saves⟩
            obtain ⟨count', there, enough'⟩ := saves save
            rw [saved] at there
            cases there
            exact enough enough'
          · rintro stored ⟨refused, loaded⟩
            rw [FileStore.bytes?_write_self] at loaded
            exact enough (loadSha256_saved (hash bytes) loaded).2

/-- **A download that starts** leaves the digest of what it leaves, or none that can be read. -/
lemma download_cases (hash : ∀ bytes, IsDigest (sha256 bytes)) (ne : place ≠ sidecar place)
    (target : call.target root = some place) (starts : ¬ call.Spares) :
    Attests sha256 (download sha256 root store call).2 place (Recorded sha256 root store call) := by
  have gone : (call.fetched place store).bytes? (sidecar place) = none := bytes?_fetched_sidecar ne.symm
  have target' : call.permitSave.target root = some place := target
  have starts' : ¬ call.permitSave.Spares := starts
  rw [Recorded, download_of_starts target starts, download_of_starts target' starts']
  cases raises : call.raises with
  | some error =>
    have raises' : call.permitSave.raises = some error := raises
    rw [raises']
    refine .inr ⟨?_, fun stored => not_reads_of_none gone⟩
    rintro ⟨⟨artifact, ok⟩, -⟩
    cases ok
  | none =>
    have raises' : call.permitSave.raises = none := raises
    rw [raises']
    exact record_cases hash gone ne

end Outcomes

end Jaull.Artifacts
