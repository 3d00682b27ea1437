import Jaull.Artifacts.Steps

/-!
# What a digest beside a file certifies

Over a run of calls the digest beside a file is the digest of that file, and a verification that trusts it finds
the bytes of the last download that wrote one.
-/

namespace Jaull.Artifacts
open Jaull.Domain Jaull.Evaluation Jaull.Lib Jaull.Text

variable {sha256 : List UInt8 → String} {root : List String} {store : FileStore} {place other : FilePlace}
  {calls : List StoreCall} {bytes : List UInt8} {stored : String}

section Steps
variable {call : StoreCall}

/-- Every download of the place that a call is, if any, is spared. -/
def StoreCall.Spares (root : List String) (call : StoreCall) (place : FilePlace) : Prop :=
  ∀ d, call = .download d → d.target root = some place → d.Spares

lemma run_append {more : List StoreCall} :
    run sha256 root store (calls ++ more) = run sha256 root (run sha256 root store calls) more :=
  List.foldl_append

lemma run_concat :
    run sha256 root store (calls ++ [call]) = call.after sha256 root (run sha256 root store calls) :=
  run_append

/-- **One call** keeps or removes what is at a place and beside it, or is a download of the place that starts. -/
lemma after_cases (root : List String) (store : FileStore) (hash : ∀ bytes, IsDigest (sha256 bytes))
    (gguf : IsGguf place.name) (models : ∀ d, call = .download d → IsGguf d.artifact.filename) :
    (call.Spares root place ∧ Kept store (call.after sha256 root store) place ∧
      Kept store (call.after sha256 root store) (sidecar place)) ∨
    ∃ d, call = .download d ∧ d.target root = some place ∧ ¬ d.Spares ∧
      Attests sha256 (call.after sha256 root store) place (Recorded sha256 root store d) := by
  cases call with
  | verify call => exact .inl ⟨fun d same => (by cases same), .inl rfl, .inl rfl⟩
  | delete call => exact .inl ⟨fun d same => (by cases same), kept_delete, kept_delete⟩
  | download call =>
    by_cases target : call.target root = some place
    · by_cases spares : call.Spares
      · have same : ∀ other, (download sha256 root store call).2.bytes? other = store.bytes? other :=
          (download_of_spares target spares).2
        refine .inl ⟨?_, .inl (same place), .inl (same (sidecar place))⟩
        intro d same target
        cases same
        exact spares
      · exact .inr ⟨call, rfl, target, spares, download_cases hash (ne_sidecar gguf) target spares⟩
    · -- a download of another file writes neither this file nor its sidecar, whose name is no model's
      refine .inl ⟨?_, .inl (bytes?_download_ne ?_), .inl (bytes?_download_ne ?_)⟩
      · intro d same target'
        cases same
        exact absurd target' target
      · intro place' target'
        refine ⟨?_, ne_sidecar gguf⟩
        rintro rfl
        exact target target'
      · intro place' target'
        constructor
        · have named := (safePath_inv (safePath_of_target target')).2
          have gguf' : IsGguf place'.name := named ▸ models call rfl
          exact (ne_sidecar gguf').symm
        · intro same
          rw [sidecar_injective same] at target
          exact target target'

/-- A file comes from a download of it, or of the file that it is the sidecar of. -/
lemma after_origin (there : (call.after sha256 root store).bytes? other = some bytes) :
    store.bytes? other = some bytes ∨
      ∃ d target, call = .download d ∧ d.target root = some target ∧ (other = target ∨ other = sidecar target) := by
  cases call with
  | verify call => exact .inl there
  | delete call => exact .inl (kept_delete.bytes there)
  | download call =>
    by_cases apart : ∀ target, call.target root = some target → other ≠ target ∧ other ≠ sidecar target
    · exact .inl ((bytes?_download_ne apart).symm.trans there)
    · obtain ⟨place, rest⟩ := not_forall.mp apart
      obtain ⟨target, own⟩ := Classical.not_imp.mp rest
      refine .inr ⟨call, place, rfl, target, ?_⟩
      by_cases same : other = place
      · exact .inl same
      · exact .inr (not_not.mp (not_and.mp own same))

end Steps

section Runs

/-- The last download of a place that started has put the digest of what it left on the disk, and what it left is
still there. -/
def LastRecorded (sha256 : List UInt8 → String) (root : List String) (store : FileStore) (calls : List StoreCall)
    (place : FilePlace) : Prop :=
  ∃ before call after, calls = before ++ .download call :: after ∧ call.target root = some place ∧
    Recorded sha256 root (run sha256 root store before) call ∧
    (∀ later, .download later ∈ after → later.target root = some place → later.Spares) ∧
    (run sha256 root store calls).bytes? place =
      (run sha256 root store (before ++ [.download call])).bytes? place

/-- A trace's downloads are those before its last call and that call's. -/
lemma models_concat {call : StoreCall} (models : ∀ d, .download d ∈ calls ++ [call] → IsGguf d.artifact.filename) :
    (∀ d, .download d ∈ calls → IsGguf d.artifact.filename) ∧
      ∀ d, call = .download d → IsGguf d.artifact.filename := by
  constructor
  · intro d mem
    exact models d (List.mem_append_left _ mem)
  · rintro d rfl
    exact models d (List.mem_append_right _ (List.mem_singleton_self _))

/-- What the storage holds has the name of a model or is beside such a name. -/
lemma named_of_run (fresh : ∀ place, InStore root place → store.bytes? place = none)
    (models : ∀ d, .download d ∈ calls → IsGguf d.artifact.filename) (inStore : InStore root place)
    (there : (run sha256 root store calls).bytes? place = some bytes) :
    IsGguf place.name ∨ ∃ model, IsGguf model.name ∧ place = sidecar model := by
  induction calls using List.reverseRecOn generalizing bytes with
  | nil =>
    have gone : (run sha256 root store []).bytes? place = none := fresh place inStore
    rw [gone] at there
    cases there
  | append_singleton calls call ih =>
    obtain ⟨models, modelsCall⟩ := models_concat models
    rw [run_concat] at there
    rcases after_origin there with earlier | ⟨d, target, rfl, leads, own⟩
    · exact ih models earlier
    · have named := (safePath_inv (safePath_of_target leads)).2
      have gguf : IsGguf target.name := named ▸ modelsCall d rfl
      rcases own with rfl | rfl
      · exact .inl gguf
      · exact .inr ⟨target, gguf, rfl⟩

/-- Only models have a digest beside them. -/
lemma gguf_of_reads (fresh : ∀ place, InStore root place → store.bytes? place = none)
    (models : ∀ d, .download d ∈ calls → IsGguf d.artifact.filename) (inStore : InStore root place)
    (reads : Reads (run sha256 root store calls) place stored) : IsGguf place.name := by
  cases there : (run sha256 root store calls).bytes? (sidecar place) with
  | none => exact absurd reads (not_reads_of_none there)
  | some content =>
    have inStore' : InStore root (sidecar place) := inStore
    rcases named_of_run fresh models inStore' there with gguf | ⟨model, gguf, same⟩
    · exact absurd gguf not_isGguf_sidecar
    · -- the sidecar that was read is the one of a model
      rw [sidecar_injective same]
      exact gguf

/-- **Over a run**, a digest that can be read is the one that the last download of the file has left. -/
lemma lastRecorded_of_reads (hash : ∀ bytes, IsDigest (sha256 bytes))
    (fresh : ∀ place, InStore root place → store.bytes? place = none)
    (models : ∀ d, .download d ∈ calls → IsGguf d.artifact.filename) (inStore : InStore root place)
    (gguf : IsGguf place.name) (there : (run sha256 root store calls).bytes? place = some bytes)
    (reads : Reads (run sha256 root store calls) place stored) :
    stored = sha256 bytes ∧ LastRecorded sha256 root store calls place := by
  induction calls using List.reverseRecOn with
  | nil =>
    have gone : (run sha256 root store []).bytes? place = none := fresh place inStore
    rw [gone] at there
    cases there
  | append_singleton calls call ih =>
    obtain ⟨models, modelsCall⟩ := models_concat models
    rcases after_cases root (run sha256 root store calls) hash gguf modelsCall with
      ⟨spares, kept, kept'⟩ | ⟨d, rfl, target, -, ⟨recorded, bytes', there', own⟩ | ⟨-, unread⟩⟩
    · -- what is there was there, so the download that left it is still the last one to have started
      rw [run_concat] at there reads
      have earlier := kept.bytes there
      obtain ⟨same, before, d, after, split, target, recorded, later, still⟩ :=
        ih models earlier (kept'.reads reads)
      refine ⟨same, before, d, after ++ [call], ?_, target, recorded, ?_, ?_⟩
      · rw [split, List.append_assoc]
        rfl
      · intro d' mem
        rcases List.mem_append.mp mem with mem | mem
        · exact later d' mem
        · exact spares d' (List.mem_singleton.mp mem).symm
      · rw [run_concat, there, ← still, earlier]
    · -- this call is that download
      rw [run_concat] at there reads
      rw [there] at there'
      cases there'
      refine ⟨own stored reads, calls, d, [], rfl, target, recorded, ?_, rfl⟩
      intro later mem
      cases mem
    · rw [run_concat] at reads
      exact absurd reads (unread stored)

/-- **Over a run**, no digest comes back before a download has written one. -/
lemma not_reads_of_run (hash : ∀ bytes, IsDigest (sha256 bytes))
    (models : ∀ d, .download d ∈ calls → IsGguf d.artifact.filename) (gguf : IsGguf place.name)
    (unread : ∀ stored, ¬ Reads store place stored)
    (failed : ∀ before d after, calls = before ++ .download d :: after → d.target root = some place →
      ¬ Recorded sha256 root (run sha256 root store before) d) :
    ∀ stored, ¬ Reads (run sha256 root store calls) place stored := by
  induction calls using List.reverseRecOn with
  | nil => exact unread
  | append_singleton calls call ih =>
    obtain ⟨models, modelsCall⟩ := models_concat models
    rw [run_concat]
    rcases after_cases root (run sha256 root store calls) hash gguf modelsCall with
      ⟨-, -, kept⟩ | ⟨d, rfl, target, -, ⟨recorded, -⟩ | ⟨-, unread⟩⟩
    · intro stored reads
      refine ih models ?_ stored (kept.reads reads)
      intro before d after split
      apply failed before d (after ++ [call])
      rw [split, List.append_assoc]
      rfl
    · exact absurd recorded (failed calls d [] rfl target)
    · exact unread

end Runs

section Verifications
variable {call : VerifyCall} {artifact : StoredArtifact}

/-- A verification that succeeds trusts the digest beside the file. -/
lemma verify_inv (verified : verify sha256 root store call = .ok artifact) :
    ∃ place bytes stored, verifiedPlace root call.artifact = .ok place ∧ store.bytes? place = some bytes ∧
      Reads store place stored ∧ artifact.localPath = some place ∧ artifact.sha256 = some stored := by
  rw [verify.eq_def] at verified
  cases leads : verifiedPlace root call.artifact with
  | error refusal => rw [leads] at verified; cases verified
  | ok place =>
    rw [leads] at verified
    dsimp only at verified
    cases there : store.bytes? place with
    | none => rw [there] at verified; cases verified
    | some bytes =>
      rw [there] at verified
      dsimp only at verified
      split at verified
      case h_1 => cases verified
      case h_2 =>
        cases loaded : loadSha256 (store.bytes? (sidecar place)) (call.refuses .sidecar) with
        | error fault => rw [loaded] at verified; cases verified
        | ok read =>
          rw [loaded] at verified
          cases read with
          | none => cases verified
          | some stored =>
            dsimp only at verified
            split at verified
            case h_1 => cases verified
            case h_2 =>
              split at verified
              · cases verified
              · split at verified
                · cases verified
                · cases verified
                  exact ⟨place, bytes, stored, rfl, there, ⟨_, loaded⟩, rfl, rfl⟩

/-- A file that cannot be read is not verified. -/
lemma verify_of_unread {place : FilePlace} (leads : verifiedPlace root call.artifact = .ok place)
    (unread : ∀ stored, ¬ Reads store place stored) : ∃ failure, verify sha256 root store call = .error failure := by
  cases verified : verify sha256 root store call with
  | error failure => exact ⟨failure, rfl⟩
  | ok artifact =>
    obtain ⟨place', bytes, stored, leads', -, reads, -, -⟩ := verify_inv verified
    rw [leads] at leads'
    cases leads'
    exact absurd reads (unread stored)

/-- A file whose digest is beside it is verified, where the record asks for nothing else. -/
lemma verify_of_digest {place : FilePlace} (leads : verifiedPlace root call.artifact = .ok place)
    (there : store.bytes? place = some bytes)
    (beside : loadSha256 (store.bytes? (sidecar place)) (call.refuses .sidecar) = .ok (some stored))
    (size : (call.artifact.sizeBytes.filter fun size => (bytes.length : ℤ) ≠ size) = none)
    (expected : (call.artifact.sha256.filter fun expected => stored ≠ lower expected) = none)
    (fresh : call.full = true → call.refuses .read = false ∧ sha256 bytes = stored) :
    ∃ artifact, verify sha256 root store call = .ok artifact ∧ artifact.sha256 = some stored := by
  have readable : ¬ (call.full = true ∧ call.refuses .read = true) := by
    rintro ⟨full, refused⟩
    rw [(fresh full).1] at refused
    cases refused
  have same : ¬ (call.full = true ∧ sha256 bytes ≠ stored) := by
    rintro ⟨full, differs⟩
    exact differs (fresh full).2
  rw [verify.eq_def, leads]
  dsimp only
  rw [there]
  dsimp only
  rw [size]
  dsimp only
  rw [beside]
  dsimp only
  rw [expected]
  dsimp only
  rw [if_neg readable, if_neg same]
  exact ⟨_, rfl, rfl⟩

/-- The digest of the bytes `abc`. -/
def abcSha256 (_ : List UInt8) : String :=
  "ba7816bf8f01cfea414140de5dae2223b00361a396177a9cb410ff61f20015ad"

/-- The sample hash yields digests. -/
lemma isDigest_abcSha256 (bytes : List UInt8) : IsDigest (abcSha256 bytes) := by
  have length : (abcSha256 []).toList.length = 64 := by decide
  have digits : (abcSha256 []).toList.all isLowerHex = true := by decide
  exact ⟨length, digits⟩

/-- A stored artifact. -/
def exampleArtifact : StoredArtifact :=
  { repoId := "owner/repo", revision := "main", filename := "m.gguf", format := "gguf" }

/-- Its place in the store. -/
def examplePlace : FilePlace :=
  ⟨["models", "owner", "repo"], "m.gguf"⟩

/-- A download of the bytes `abc`. -/
def exampleDownload : DownloadCall where
  artifact := exampleArtifact
  writes := some [97, 98, 99]
  raises := none
  refuses := fun _ => false
  saved := none

/-- The same download, which breaks off after the first byte. -/
def brokenDownload : DownloadCall :=
  { exampleDownload with writes := some [97], raises := some .os }

/-- A verification of it. -/
def exampleVerify : VerifyCall where
  artifact := exampleArtifact
  refuses := fun _ => false

/-- A file of the bytes `abc` with their digest beside it is verified. -/
lemma verify_example {artifact : StoredArtifact} (leads : verifiedPlace ["models"] artifact = .ok examplePlace)
    (there : store.bytes? examplePlace = some [97, 98, 99])
    (loaded : loadSha256 (store.bytes? (sidecar examplePlace)) false = .ok (some (abcSha256 [])))
    (size : artifact.sizeBytes = none) (expected : artifact.sha256 = none) :
    ∃ verified, verify abcSha256 ["models"] store { exampleVerify with artifact } = .ok verified := by
  have found : ∃ verified, verify abcSha256 ["models"] store { exampleVerify with artifact } = .ok verified ∧
      verified.sha256 = some (abcSha256 []) := by
    apply verify_of_digest leads there loaded
    · rw [size]
      rfl
    · rw [expected]
      rfl
    · intro full
      cases full
  obtain ⟨verified, ok, -⟩ := found
  exact ⟨verified, ok⟩

/-- **Digests certify what they are beside.** Of a run of calls on an empty storage, whose downloads are of model
files: a digest that can be read beside a file is the digest of its bytes; a verification of a file of the storage
that succeeds certifies the bytes that the last download to put a digest on the disk has left, and every later
download was spared; and a download that starts and does not get its digest to the disk makes every verification
of the file fail, until another one does. -/
theorem sidecars_certify (hash : ∀ bytes, IsDigest (sha256 bytes))
    (fresh : ∀ place, InStore root place → store.bytes? place = none)
    (models : ∀ d, .download d ∈ calls → IsGguf d.artifact.filename) :
    (∀ place bytes stored, InStore root place → (run sha256 root store calls).bytes? place = some bytes →
      Reads (run sha256 root store calls) place stored → stored = sha256 bytes) ∧
    (∀ call place artifact, verifiedPlace root call.artifact = .ok place → InStore root place →
      verify sha256 root (run sha256 root store calls) call = .ok artifact →
      LastRecorded sha256 root store calls place ∧
        ∃ bytes, (run sha256 root store calls).bytes? place = some bytes ∧ artifact.sha256 = some (sha256 bytes)) ∧
    ∀ before d after place, calls = before ++ .download d :: after → d.target root = some place → ¬ d.Spares →
      ¬ Recorded sha256 root (run sha256 root store before) d →
      (∀ before' later after', after = before' ++ .download later :: after' → later.target root = some place →
        ¬ Recorded sha256 root (run sha256 root store (before ++ .download d :: before')) later) →
      ∀ call, verifiedPlace root call.artifact = .ok place →
        ∃ failure, verify sha256 root (run sha256 root store calls) call = .error failure := by
  refine ⟨?_, ?_, ?_⟩
  · intro place bytes stored inStore there reads
    exact (lastRecorded_of_reads hash fresh models inStore (gguf_of_reads fresh models inStore reads) there reads).1
  · intro call place artifact leads inStore verified
    obtain ⟨place', bytes, stored, leads', there, reads, -, certified⟩ := verify_inv verified
    rw [leads] at leads'
    cases leads'
    obtain ⟨rfl, last⟩ :=
      lastRecorded_of_reads hash fresh models inStore (gguf_of_reads fresh models inStore reads) there reads
    exact ⟨last, bytes, there, certified⟩
  · intro before d after place split target starts failed later call leads
    subst split
    have named := (safePath_inv (safePath_of_target target)).2
    have own : StoreCall.download d ∈ before ++ .download d :: after :=
      List.mem_append_right _ List.mem_cons_self
    have gguf : IsGguf place.name := named ▸ models d own
    apply verify_of_unread leads
    -- right behind the failed download nothing can be read
    have unread : ∀ stored, ¬ Reads (run sha256 root store (before ++ [.download d])) place stored := by
      rw [run_concat]
      rcases download_cases hash (ne_sidecar gguf) target starts with ⟨recorded, -⟩ | ⟨-, unread⟩
      · exact absurd recorded failed
      · exact unread
    rw [List.append_cons, run_append]
    apply not_reads_of_run hash ?_ gguf unread
    · -- and no later one records
      intro before' d' after' split target'
      have earlier := later before' d' after' split target'
      rw [List.append_cons, run_append] at earlier
      exact earlier
    · intro d' mem
      exact models d' (List.mem_append_right _ (List.mem_cons_of_mem _ mem))

/-- A download recorded last, and a later broken one that the verification notices. -/
theorem sidecars_certify_abc :
    LastRecorded abcSha256 ["models"] {} [.download exampleDownload] examplePlace ∧
      ∃ failure, verify abcSha256 ["models"]
        (run abcSha256 ["models"] {} [.download exampleDownload, .download brokenDownload]) exampleVerify =
          .error failure := by
  have fresh : ∀ place, InStore ["models"] place → ({} : FileStore).bytes? place = none := fun place _ => rfl
  constructor
  · have models : ∀ d, StoreCall.download d ∈ [.download exampleDownload] → IsGguf d.artifact.filename := by
      intro d mem
      cases List.mem_singleton.mp mem
      decide
    have found : ∃ verified, verify abcSha256 ["models"] (run abcSha256 ["models"] {} [.download exampleDownload])
        exampleVerify = .ok verified := verify_example rfl rfl (loadSha256_sidecarBytes (isDigest_abcSha256 [])) rfl rfl
    obtain ⟨verified, ok⟩ := found
    have inStore : InStore ["models"] examplePlace := ⟨["owner", "repo"], rfl⟩
    exact ((sidecars_certify isDigest_abcSha256 fresh models).2.1 exampleVerify examplePlace verified rfl inStore ok).1
  · have models : ∀ d, StoreCall.download d ∈ [.download exampleDownload, .download brokenDownload] →
        IsGguf d.artifact.filename := by
      intro d mem
      rcases List.mem_cons.mp mem with same | mem
      · cases same
        decide
      · cases List.mem_singleton.mp mem
        decide
    have starts : ¬ brokenDownload.Spares := by
      rintro (refused | refused) <;> cases refused
    have failed : ¬ Recorded abcSha256 ["models"] (run abcSha256 ["models"] {} [.download exampleDownload])
        brokenDownload := by
      rintro ⟨⟨artifact, ok⟩, -⟩
      cases ok
    have last : ∀ before' later after', ([] : List StoreCall) = before' ++ .download later :: after' →
        later.target ["models"] = some examplePlace → ¬ Recorded abcSha256 ["models"]
          (run abcSha256 ["models"] {} ([.download exampleDownload] ++ .download brokenDownload :: before')) later := by
      intro before' later after' split
      cases before' <;> cases split
    exact (sidecars_certify isDigest_abcSha256 fresh models).2.2 [.download exampleDownload] brokenDownload []
      examplePlace rfl rfl starts failed last exampleVerify rfl

/-- A failed download does not make a verification fail where it does not get to the old digest, where only the
end of the new digest is not written, and where the record leads to another file. -/
theorem failed_download_verified :
    ((download abcSha256 ["models"] (run abcSha256 ["models"] {} [.download exampleDownload])
        { exampleDownload with refuses := (· = .clear) }).1 = .error .io ∧
      ∃ verified, verify abcSha256 ["models"] (run abcSha256 ["models"] {}
        [.download exampleDownload, .download { exampleDownload with refuses := (· = .clear) }]) exampleVerify =
          .ok verified) ∧
    ((download abcSha256 ["models"] {}
        { exampleDownload with refuses := (· = .save), saved := some 64 }).1 = .error .io ∧
      ∃ verified, verify abcSha256 ["models"] (run abcSha256 ["models"] {}
        [.download { exampleDownload with refuses := (· = .save), saved := some 64 }]) exampleVerify =
          .ok verified) ∧
    ((download abcSha256 ["models"] (run abcSha256 ["models"] {} [.download exampleDownload])
        { brokenDownload with
          artifact := { exampleArtifact with filename := "n.gguf", localPath := some examplePlace } }).1 =
        .error .io ∧
      ∃ verified, verify abcSha256 ["models"] (run abcSha256 ["models"] {}
        [.download exampleDownload, .download { brokenDownload with
          artifact := { exampleArtifact with filename := "n.gguf", localPath := some examplePlace } }])
        { exampleVerify with
          artifact := { exampleArtifact with filename := "n.gguf", localPath := some examplePlace } } =
          .ok verified) := by
  refine ⟨⟨rfl, ?_⟩, ⟨rfl, ?_⟩, ⟨rfl, ?_⟩⟩
  · exact verify_example rfl rfl (loadSha256_sidecarBytes (isDigest_abcSha256 [])) rfl rfl
  · exact verify_example rfl rfl (loadSha256_of_enough (isDigest_abcSha256 []) le_rfl) rfl rfl
  · exact verify_example rfl rfl (loadSha256_sidecarBytes (isDigest_abcSha256 [])) rfl rfl

end Verifications

end Jaull.Artifacts
