import Jaull.Evaluation.ChatRecords
import Jaull.Evaluation.Loading

/-!
# Concurrent saves

Any number of saves into one quality store, their steps in any order. Names are only ever taken, so a file
that is published stays; a save that returns has its record under the name that it returns, whoever wrote
it; and between readable files no save is in the way of another.
-/

namespace Jaull.Evaluation
open Jaull.Lib Jaull.Text

variable {env : Surroundings} {record : Json} {store store' : QualityStore} {id : PyString}

section Files

/-- The characters of the file of a record. -/
def savedText (env : Surroundings) (record : Json) : List Char :=
  charsOf (render (.indented 2) 0 (envelope record (shaOf env record)) ++ [10])

/-- A record that the contract accepts, as a tree of Python's `json` that has a digest. The digests are
hexadecimal, and `json.loads` reads the file of the record back. -/
structure Storable (env : Surroundings) (record : Json) : Prop where
  valid : validateRecord env record = .ok ()
  able : Digestible record
  distinct : distinctKeys record = true
  identityHex : ∀ identity, record.field "identity" = .ok identity →
    codesAreHex 64 (codesOf (shaOf env identity)) = true
  recordHex : codesAreHex 64 (codesOf (shaOf env record)) = true
  reads : env.loads (String.ofList (savedText env record)) = .tree (envelope record (shaOf env record))

/-- An envelope has the leaves of its record and some texts. -/
lemma leaves_envelope {p : Json → Bool} {sha : String} (texts : ∀ text : String, p (.str (.text text)) = true)
    (all : record.leaves p = true) : (envelope record sha).leaves p = true := by
  rw [envelope, leaves_obj]
  intro entry mem
  rcases List.mem_cons.mp mem with rfl | mem
  · exact ⟨texts _, all⟩
  · rw [List.mem_singleton.mp mem]
    exact ⟨texts _, texts _⟩

/-- A storable record is written legibly. -/
lemma Storable.legible (storable : Storable env record) :
    ∀ n ∈ render (.indented 2) 0 (envelope record (shaOf env record)) ++ [10], Legible n := by
  refine legible_append (legible_render _ 0 (leaves_envelope (fun _ => rfl) storable.able.text)) ?_
  intro n mem
  rw [List.mem_singleton.mp mem]
  exact legible_of_lt (by decide) (by decide)

/-- So its file is the encoded text. -/
lemma Storable.fileOf_eq (storable : Storable env record) :
    fileOf env record = .ok (encodeUtf8 (savedText env record)) := by
  have written : encoded (.indented 2) (envelope record (shaOf env record)) =
      .ok (render (.indented 2) 0 (envelope record (shaOf env record))) := by
    rw [encoded, leaves_envelope (fun _ => rfl) storable.able.short,
      leaves_envelope (fun _ => rfl) storable.able.text]
    rfl
  rw [fileOf, storable.valid, ok_bind, digest_of_digestible storable.able, lifted_ok, ok_bind, written]
  rfl

/-- The file of a record gives the record back. -/
lemma Storable.readRecord_eq (storable : Storable env record) :
    readRecord env (encodeUtf8 (savedText env record)) = .ok record := by
  have text := readText_encodeUtf8 (charsOf_no_return storable.legible)
  have loaded : loadRecord env (String.ofList (savedText env record)) = .ok record := by
    rw [loadRecord, Surroundings.decode, storable.reads]
    have inside : (envelope record (shaOf env record)).field "record" = .ok record := rfl
    have stated : (envelope record (shaOf env record)).field "record_sha256" =
        .ok (.str (.text (shaOf env record))) := rfl
    rw [ok_bind, inside, lifted_ok, ok_bind, storable.valid, ok_bind, stated,
      digest_of_digestible storable.able]
    simp only [lifted_ok, ok_bind, pyEq_str.mpr rfl]
    rfl
  rw [readRecord, savedText, text, lifted_ok, ok_bind, ← savedText, loaded]

end Files

section Names

/-- The names of a record with its identity. -/
def recordNames (env : Surroundings) (identity record : Json) : SaveNames :=
  ⟨.text (shaOf env identity), .text (shaOf env identity ++ "-" ++ shaOf env record)⟩

/-- The names that a save of a record tries. -/
def NamesOf (env : Surroundings) (record : Json) (names : SaveNames) : Prop :=
  ∃ identity, record.field "identity" = .ok identity ∧ names = recordNames env identity record

/-- The code points of the second name. -/
lemma codes_repeated (a b : String) :
    (PyString.text (a ++ "-" ++ b)).codes = codesOf a ++ 45 :: codesOf b := by
  rw [PyString.codes, String.toList_append, String.toList_append, List.map_append, List.map_append,
    List.append_assoc]
  rfl

/-- Behind a digest and a dash stands the other digest. -/
lemma drop_repeated {a : String} (hex : codesAreHex 64 (codesOf a) = true) (b : String) :
    (codesOf a ++ 45 :: codesOf b).drop 65 = codesOf b := by
  have length := length_of_hex hex
  rw [List.drop_append, length, List.drop_of_length_le (by omega)]
  rfl

/-- The second name is a record id. -/
lemma isRecordId_repeated {a b : String} (hex : codesAreHex 64 (codesOf a) = true)
    (hex' : codesAreHex 64 (codesOf b) = true) : isRecordId (.text (a ++ "-" ++ b)) = true := by
  have length := length_of_hex hex
  have dash : (codesOf a ++ 45 :: codesOf b)[64]? = some 45 := by
    rw [List.getElem?_append_right (by omega), length]
    rfl
  rw [isRecordId, codes_repeated, dash, drop_repeated hex, List.take_append_of_le_length (by omega),
    List.take_of_length_le (by omega), hex, hex']
  simp

/-- A path is given for ids that are records' and lead inside. -/
lemma pathFor_eq_ok {id' : PyString} :
    store.pathFor id = .ok id' ↔ isRecordId id = true ∧ store.entries.lookup id ≠ some .outside ∧
      id = id' := by
  rw [QualityStore.pathFor]
  split
  · rename_i refused
    refine iff_of_false ?_ ?_
    · intro eq
      cases eq
    · intro ⟨known, inside, _⟩
      rw [known, Bool.not_true, Bool.false_or, decide_eq_true_eq] at refused
      exact inside refused
  · rename_i fine
    rw [Bool.or_eq_true, not_or, decide_eq_true_eq, Bool.not_eq_true', Bool.not_eq_false] at fine
    constructor
    · intro eq
      exact ⟨fine.1, fine.2, Except.ok.inj eq⟩
    · intro ⟨_, _, eq⟩
      rw [eq]

/-- What passes is passed on. -/
lemma unhandled_eq_ok {α : Type} {x : Except Refusal α} {a : α} :
    unhandled x = .ok a ↔ x = .ok a := by
  cases x with
  | ok b => simp only [unhandled, Except.ok.injEq]
  | error refusal => exact iff_of_false (by intro eq; cases eq) (by intro eq; cases eq)

/-- A save that starts tries the names of its record. -/
lemma saveNames_ok {names : SaveNames} (ok : saveNames env store record = .ok names) :
    NamesOf env record names := by
  simp only [saveNames, bind_eq_ok, unhandled_eq_ok] at ok
  obtain ⟨stated, -, identity, identityEq, sha, shaEq, ok⟩ := ok
  split at ok
  · cases ok
  · simp only [bind_eq_ok, unhandled_eq_ok, pathFor_eq_ok] at ok
    obtain ⟨primary, ⟨-, -, rfl⟩, recordSha, recordEq, repeated, ⟨-, -, rfl⟩, eq⟩ := ok
    cases eq
    rw [(digest_eq_ok.mp shaEq).2, (digest_eq_ok.mp recordEq).2]
    exact ⟨identity, identityEq, rfl⟩

variable {names : SaveNames} (storable : Storable env record) (named : NamesOf env record names)
include storable named

/-- Both names are record ids. -/
lemma Storable.isRecordId (slot : Slot) : isRecordId (names.id slot) = true := by
  obtain ⟨identity, found, rfl⟩ := named
  cases slot with
  | primary => exact isRecordId_primary (storable.identityHex identity found)
  | repeated => exact isRecordId_repeated (storable.identityHex identity found) storable.recordHex

omit named in
/-- A storable record carries the digest of its identity. -/
lemma Storable.identity : ∃ identity, record.field "identity" = .ok identity ∧
    record.field "identity_sha256" = .ok (.str (.text (shaOf env identity))) := by
  obtain ⟨identity, tables, accepted⟩ := validateRecord_ok storable.valid
  obtain ⟨sha, digestEq, stated⟩ := accepted.checksum
  rw [(digest_eq_ok.mp digestEq).2] at stated
  exact ⟨identity, accepted.field, stated⟩

/-- The record passes the check of either of its names. -/
lemma Storable.checkRecordId_eq (slot : Slot) :
    checkRecordId env (names.id slot) record = .ok record := by
  obtain ⟨identity, found, stated⟩ := storable.identity
  obtain ⟨identity', found', rfl⟩ := named
  cases Except.ok.inj (found.symm.trans found')
  have length := length_of_hex (storable.identityHex identity found)
  have whole : digest env record = .ok (shaOf env record) := digest_of_digestible storable.able
  cases slot with
  | primary =>
    have codes : ((recordNames env identity record).id .primary).codes = codesOf (shaOf env identity) :=
      rfl
    have same : isTextOf (codesOf (shaOf env identity)) (.str (.text (shaOf env identity))) = true :=
      decide_eq_true rfl
    rw [checkRecordId, stated, codes, List.take_of_length_le (by omega), length]
    simp only [unhandled, ok_bind, same]
    rfl
  | repeated =>
    have codes : ((recordNames env identity record).id .repeated).codes =
        codesOf (shaOf env identity) ++ 45 :: codesOf (shaOf env record) := codes_repeated _ _
    have same : isTextOf (codesOf (shaOf env identity)) (.str (.text (shaOf env identity))) = true :=
      decide_eq_true rfl
    rw [checkRecordId, stated, codes, List.take_append_of_le_length (by omega),
      List.take_of_length_le (by omega), drop_repeated (storable.identityHex identity found), whole]
    simp only [unhandled, ok_bind, same, Bool.not_true, Bool.false_eq_true, if_false, if_true]
    split <;> rfl

/-- Under either of its names, the file of a record loads as the record. -/
lemma Storable.load_eq {slot : Slot}
    (at' : store.entries.lookup (names.id slot) = some (.file (encodeUtf8 (savedText env record)))) :
    store.load env (names.id slot) = .ok record := by
  rw [QualityStore.load, storable.isRecordId named slot, at']
  simp only [Bool.not_true, Bool.false_eq_true, if_false]
  rw [storable.readRecord_eq, ok_bind, storable.checkRecordId_eq named slot]

/-- What loads under the name with the digest of a record equals the record. -/
lemma Storable.pyEq_of_repeated (inj : Function.Injective env.sha256) {existing : Json}
    (loaded : store.load env names.repeated = .ok existing) : pyEq existing record = true := by
  obtain ⟨identity, found, rfl⟩ := named
  have length := length_of_hex (storable.identityHex identity found)
  rcases load_cases env store (recordNames env identity record).repeated with
    ⟨loadedRecord, ok, requested⟩ | ⟨error, refused⟩ | ⟨e, escaped, -⟩
  · cases Except.ok.inj (ok.symm.trans loaded)
    have codes : (recordNames env identity record).repeated.codes =
        codesOf (shaOf env identity) ++ 45 :: codesOf (shaOf env record) := codes_repeated _ _
    obtain ⟨sha, digestEq, same⟩ := requested.whole (by
      rw [codes, List.length_append, length, List.length_cons]
      omega)
    rw [codes, drop_repeated (storable.identityHex identity found), (digest_eq_ok.mp digestEq).2] at same
    have equal : shaOf env existing = shaOf env record :=
      PyString.text.inj (PyString.codes_injective same)
    exact pyEq_of_sortKeys_eq ((shaOf_eq_iff inj).mp equal) storable.able.finite storable.distinct
  · rw [refused] at loaded
    cases loaded
  · rw [escaped] at loaded
    cases loaded

end Names

section Growth

/-- Names that are taken keep what they hold. -/
def Grows (store store' : QualityStore) : Prop :=
  ∀ id entry, store.entries.lookup id = some entry → store'.entries.lookup id = some entry

/-- What is loaded stays loaded while the store grows. -/
lemma Grows.load_eq (grows : Grows store store') (loaded : store.load env id = .ok record) :
    store'.load env id = .ok record := by
  rw [QualityStore.load] at loaded ⊢
  split at loaded
  · cases loaded
  · rename_i known
    rw [if_neg known]
    split at loaded
    · rename_i content at'
      rw [grows id _ at']
      exact loaded
    · cases loaded
    · cases loaded
    · cases loaded

/-- A new file lets the store grow. -/
lemma grows_append {content : List UInt8} :
    Grows store ⟨store.entries ++ [(id, StoreEntry.file content)]⟩ := by
  intro id' entry at'
  dsimp only
  rw [List.lookup_append, at', Option.some_or]

/-- An entry was there, or it is the new one. -/
lemma lookup_append_of_none {content : List UInt8} (free : store.entries.lookup id = none)
    {id' : PyString} {entry : StoreEntry}
    (at' : (store.entries ++ [(id, StoreEntry.file content)]).lookup id' = some entry) :
    store.entries.lookup id' = some entry ∨ id' = id ∧ entry = .file content := by
  rw [List.lookup_append] at at'
  cases before : store.entries.lookup id' with
  | some entry' =>
    rw [before, Option.some_or] at at'
    exact .inl at'
  | none =>
    rw [before, Option.none_or] at at'
    by_cases same : id' = id
    · subst same
      rw [List.lookup_cons_self] at at'
      exact .inr ⟨rfl, (Option.some.inj at').symm⟩
    · rw [lookup_cons_ne same] at at'
      cases at'

/-- What the step of a save does to the store. -/
lemma advance_store (store : QualityStore) (phase : SavePhase) :
    (advance env record store phase).1 = store ∨
      ∃ names slot content, phase = .linking names slot ∧
        store.entries.lookup (names.id slot) = none ∧ fileOf env record = .ok content ∧
        advance env record store phase =
          (⟨store.entries ++ [(names.id slot, .file content)]⟩, .syncing names slot) := by
  cases phase with
  | starting =>
    rw [advance]
    split <;> exact .inl rfl
  | testing names slot =>
    rw [advance]
    split <;> exact .inl rfl
  | staging names slot =>
    rw [advance]
    split <;> exact .inl rfl
  | linking names slot =>
    rw [advance]
    split
    · rename_i content free written
      exact .inr ⟨names, slot, content, rfl, free, written, rfl⟩
    · exact .inl rfl
  | probing names slot =>
    rw [advance]
    split
    · exact .inl rfl
    · split <;> exact .inl rfl
  | reading names slot =>
    rw [advance]
    split <;> exact .inl rfl
  | _ => exact .inl rfl

/-- Each step of a save lets the store grow. -/
lemma SaveMove.grows {phase phase' : SavePhase}
    (moved : SaveMove env record store phase store' phase') : Grows store store' := by
  cases moved with
  | advance =>
    rcases @advance_store env record store phase with same | ⟨_, _, _, _, _, _, eq⟩
    · rw [same]
      exact fun _ _ at' => at'
    · rw [eq]
      exact grows_append
  | refused => exact fun _ _ at' => at'
  | unread => exact fun _ _ at' => at'

end Growth

section Returns

/-- What a phase of the save of a record promises. -/
def Promises (env : Surroundings) (record : Json) (store : QualityStore) : SavePhase → Prop
  | .testing names _ => NamesOf env record names
  | .staging names _ => NamesOf env record names
  | .linking names _ => NamesOf env record names
  | .probing names _ => NamesOf env record names
  | .reading names _ => NamesOf env record names
  | .syncing names slot => store.load env (names.id slot) = .ok record
  | .returned id => ∃ existing, store.load env id = .ok existing ∧ pyEq existing record = true
  | _ => True

/-- What a save promises holds while the store grows. -/
lemma Promises.grows {phase : SavePhase} (promises : Promises env record store phase)
    (grows : Grows store store') : Promises env record store' phase := by
  cases phase with
  | syncing names slot => exact grows.load_eq promises
  | returned id =>
    obtain ⟨existing, loaded, equal⟩ := promises
    exact ⟨existing, grows.load_eq loaded, equal⟩
  | _ => exact promises

/-- The next attempt promises nothing yet. -/
lemma promises_otherwise {names : SaveNames} (named : NamesOf env record names) (failure : SaveFailure)
    (slot : Slot) : Promises env record store (otherwise names failure slot) := by
  cases slot with
  | primary => exact named
  | repeated => exact True.intro

/-- The step of a save keeps what its phases promise. -/
lemma Promises.advance (storable : Storable env record) {phase : SavePhase}
    (promises : Promises env record store phase) :
    Promises env record (advance env record store phase).1 (advance env record store phase).2 := by
  cases phase with
  | starting =>
    rw [Evaluation.advance]
    split
    · rename_i names ok
      exact saveNames_ok ok
    · exact True.intro
  | testing names slot =>
    rw [Evaluation.advance]
    split <;> exact promises
  | staging names slot =>
    rw [Evaluation.advance]
    split
    · exact promises
    · exact True.intro
  | linking names slot =>
    rw [Evaluation.advance]
    split
    · rename_i content free written
      rw [storable.fileOf_eq] at written
      cases written
      -- the link puts the staged bytes under the name, where nothing was
      refine storable.load_eq promises ?_
      rw [List.lookup_append, free, Option.none_or, List.lookup_cons_self]
    · exact promises
  | syncing names slot =>
    exact ⟨record, promises, pyEq_self record storable.able.finite storable.distinct⟩
  | probing names slot =>
    rw [Evaluation.advance]
    split
    · exact promises_otherwise promises _ slot
    · split
      · exact promises
      · exact promises_otherwise promises _ slot
  | reading names slot =>
    rw [Evaluation.advance]
    split
    · rename_i existing loaded
      change Promises env record store (judge record names slot existing)
      rw [judge]
      split
      · -- the file that is there already holds an equal record
        rename_i equal
        exact ⟨existing, loaded, equal⟩
      · exact promises_otherwise promises _ slot
    · exact promises_otherwise promises _ slot
    · exact True.intro
  | returned id => exact promises
  | failed failure => exact promises

/-- A step keeps what a save promises. -/
lemma SaveMove.promises {phase phase' : SavePhase}
    (moved : SaveMove env record store phase store' phase') (storable : Storable env record)
    (promises : Promises env record store phase) : Promises env record store' phase' := by
  cases moved with
  | advance => exact promises.advance storable
  | refused => exact True.intro
  | unread => exact promises_otherwise promises _ _

end Returns

section Failures

/-- The files of a store that have record ids load. -/
def Readable (env : Surroundings) (store : QualityStore) : Prop :=
  ∀ id entry, store.entries.lookup id = some entry → entry.isFile = true → isRecordId id = true →
    ∃ record, store.load env id = .ok record

/-- Whether something that is no file has the last name of a record. -/
def Obstructed (env : Surroundings) (initial : QualityStore) (record : Json) : Prop :=
  ∃ names, NamesOf env record names ∧ initial.entries.lookup names.repeated = some .other

/-- The store of a run from readable files: still readable, and with nothing new that is no file. -/
structure Sound (env : Surroundings) (initial store : QualityStore) : Prop where
  readable : Readable env store
  others : ∀ id, store.entries.lookup id = some .other → initial.entries.lookup id = some .other

/-- What a phase knows in a run from readable files. -/
def Unhindered (env : Surroundings) (initial : QualityStore) (record : Json) (store : QualityStore) :
    SavePhase → Prop
  | .testing names _ => NamesOf env record names
  | .staging names _ => NamesOf env record names
  | .linking names _ => NamesOf env record names
  | .probing names slot => NamesOf env record names ∧ (store.entries.lookup (names.id slot)).isSome
  | .reading names slot => NamesOf env record names ∧
      ∃ entry, store.entries.lookup (names.id slot) = some entry ∧ entry.isFile = true
  | .failed failure => failure = .system ∨ Obstructed env initial record
  | _ => True

variable {initial : QualityStore}

/-- A save stays unhindered while the store grows. -/
lemma Unhindered.grows {phase : SavePhase} (free : Unhindered env initial record store phase)
    (grows : Grows store store') : Unhindered env initial record store' phase := by
  cases phase with
  | probing names slot =>
    obtain ⟨named, taken⟩ := free
    obtain ⟨entry, at'⟩ := Option.isSome_iff_exists.mp taken
    exact ⟨named, Option.isSome_iff_exists.mpr ⟨entry, grows _ _ at'⟩⟩
  | reading names slot =>
    obtain ⟨named, entry, at', isFile⟩ := free
    exact ⟨named, entry, grows _ _ at', isFile⟩
  | _ => exact free

/-- Nothing in a readable store leads outside. -/
lemma Readable.not_outside (readable : Readable env store) (known : isRecordId id = true) :
    store.entries.lookup id ≠ some .outside := by
  intro at'
  obtain ⟨record, loaded⟩ := readable id _ at' rfl known
  rw [QualityStore.load, known, at'] at loaded
  cases loaded

/-- A storable record has both names. -/
lemma Storable.saveNames_eq (storable : Storable env record) (readable : Readable env store) :
    ∃ names, saveNames env store record = .ok names ∧ NamesOf env record names := by
  obtain ⟨identity, found, stated⟩ := storable.identity
  have named : NamesOf env record (recordNames env identity record) := ⟨identity, found, rfl⟩
  have primary : store.pathFor (.text (shaOf env identity)) = .ok (.text (shaOf env identity)) :=
    pathFor_eq_ok.mpr ⟨storable.isRecordId named .primary,
      readable.not_outside (storable.isRecordId named .primary), rfl⟩
  have repeated : store.pathFor (.text (shaOf env identity ++ "-" ++ shaOf env record)) =
      .ok (.text (shaOf env identity ++ "-" ++ shaOf env record)) :=
    pathFor_eq_ok.mpr ⟨storable.isRecordId named .repeated,
      readable.not_outside (storable.isRecordId named .repeated), rfl⟩
  refine ⟨recordNames env identity record, ?_, named⟩
  rw [saveNames, stated, found]
  simp only [unhandled, ok_bind, digest_of_digestible (storable.able.field found), pyEq_str.mpr rfl,
    Bool.not_true, Bool.false_eq_true, if_false, primary, digest_of_digestible storable.able, repeated]
  rfl

/-- The next attempt is unhindered, unless the last one failed for a reason. -/
lemma Unhindered.otherwise {names : SaveNames} {failure : SaveFailure} {slot : Slot}
    (named : NamesOf env record names)
    (last : slot = .repeated → failure = .system ∨ Obstructed env initial record) :
    Unhindered env initial record store (otherwise names failure slot) := by
  cases slot with
  | primary => exact named
  | repeated => exact last rfl

/-- The step of a save between readable files does not fail, unless something that is no file was in its
way from the beginning. -/
lemma Unhindered.advance (inj : Function.Injective env.sha256) (storable : Storable env record)
    (sound : Sound env initial store) {phase : SavePhase}
    (free : Unhindered env initial record store phase) :
    Unhindered env initial record (advance env record store phase).1
      (advance env record store phase).2 := by
  cases phase with
  | starting =>
    obtain ⟨names, ok, named⟩ := storable.saveNames_eq sound.readable
    rw [Evaluation.advance, ok]
    exact named
  -- a name that is taken is probed next, and what it names stays there
  | testing names slot =>
    rw [Evaluation.advance]
    split
    · rename_i isFile
      refine ⟨free, ?_⟩
      cases at' : store.entries.lookup (names.id slot) with
      | some entry => rfl
      | none =>
        rw [at'] at isFile
        cases isFile
    · exact free
  | staging names slot =>
    rw [Evaluation.advance, storable.fileOf_eq]
    exact free
  -- so is one that another save took in the meantime
  | linking names slot =>
    rw [Evaluation.advance, storable.fileOf_eq]
    split
    · exact True.intro
    · rename_i taken
      refine ⟨free, ?_⟩
      cases at' : store.entries.lookup (names.id slot) with
      | some entry => rfl
      | none => exact absurd rfl (taken _ at')
  | syncing names slot => exact True.intro
  | probing names slot =>
    obtain ⟨named, taken⟩ := free
    obtain ⟨entry, at'⟩ := Option.isSome_iff_exists.mp taken
    have known := storable.isRecordId named slot
    have path := pathFor_eq_ok.mpr ⟨known, sound.readable.not_outside known, rfl⟩
    rw [Evaluation.advance, path]
    dsimp only
    rw [at']
    split
    · rename_i isFile
      exact ⟨named, entry, at', isFile⟩
    · -- a name taken by no file is one that was taken before all saves
      rename_i noFile
      refine Unhindered.otherwise named ?_
      rintro rfl
      have other : entry = .other := by
        cases entry with
        | other => rfl
        | _ => exact absurd rfl noFile
      exact .inr ⟨names, named, sound.others _ (other ▸ at')⟩
  | reading names slot =>
    obtain ⟨named, entry, at', isFile⟩ := free
    obtain ⟨existing, loaded⟩ :=
      sound.readable _ entry at' isFile (storable.isRecordId named slot)
    rw [Evaluation.advance, loaded]
    change Unhindered env initial record store (judge record names slot existing)
    rw [judge]
    split
    · exact True.intro
    · -- under the second name lies this record only, its digest being part of the name
      rename_i differs
      refine Unhindered.otherwise named ?_
      rintro rfl
      exact absurd (storable.pyEq_of_repeated named inj loaded) differs
  | returned id => exact True.intro
  | failed failure => exact free

/-- A step keeps a save unhindered. -/
lemma SaveMove.unhindered {phase phase' : SavePhase}
    (moved : SaveMove env record store phase store' phase') (inj : Function.Injective env.sha256)
    (storable : Storable env record) (sound : Sound env initial store)
    (free : Unhindered env initial record store phase) :
    Unhindered env initial record store' phase' := by
  cases moved with
  | advance => exact free.advance inj storable sound
  | refused => exact .inl rfl
  | unread => exact Unhindered.otherwise free.1 fun _ => .inl rfl

/-- A step keeps the store sound. -/
lemma SaveMove.sound {phase phase' : SavePhase}
    (moved : SaveMove env record store phase store' phase') (storable : Storable env record)
    (sound : Sound env initial store) (free : Unhindered env initial record store phase) :
    Sound env initial store' := by
  cases moved with
  | refused => exact sound
  | unread => exact sound
  | advance =>
    rcases @advance_store env record store phase with same | ⟨names, slot, content, rfl, none, written, eq⟩
    · rw [same]
      exact sound
    · rw [storable.fileOf_eq] at written
      cases written
      rw [eq]
      constructor
      · intro id entry at' isFile known
        rcases lookup_append_of_none none at' with before | ⟨rfl, rfl⟩
        · obtain ⟨existing, loaded⟩ := sound.readable id entry before isFile known
          exact ⟨existing, grows_append.load_eq loaded⟩
        · exact ⟨record, storable.load_eq free at'⟩
      · intro id at'
        rcases lookup_append_of_none none at' with before | ⟨-, other⟩
        · exact sound.others id before
        · cases other

end Failures

section Race

/-- The records of selections can be saved. -/
theorem storable_chat (selection : Selection) : Storable selection.surroundings selection.record where
  valid := validateRecord_chat
  able := digestible_record
  distinct := distinct_record
  identityHex := by
    intro identity found
    cases Except.ok.inj ((rfl : selection.record.field "identity" = .ok selection.identity).symm.trans found)
    rw [sha_identity]
    decide +kernel
  recordHex := by
    rw [sha_record]
    decide +kernel
  reads := by
    have other : String.ofList (charsOf (render (.indented 2) 0 (envelope selection.record recordSha) ++
        [10])) ≠ chatPrompt := by
      intro same
      have first := congrArg (fun text => text.toList.head?) same
      rw [String.toList_ofList] at first
      exact absurd first (by decide +kernel : some '{' ≠ chatPrompt.toList.head?)
    rw [savedText, sha_record]
    simp only [Selection.surroundings, PyString.text.injEq, other, if_false, if_true]

/-- A step of one of two saves. -/
lemma savesOf_step {ι : Type} {records : ι → Json} {i : ι} {phase phase' : SavePhase}
    (step : advance env (records i) store phase = (store', phase')) :
    savesOf env records i store phase store' phase' := by
  have advanced := @SaveMove.advance env (records i) store phase
  rwa [step] at advanced

lemma readable_empty : Readable env ⟨[]⟩ := by
  intro id entry at'
  cases at'

/-- Two saves of one record that both find no file: the second meets the file of the first. -/
lemma race (storable : Storable env record) : ∃ store id,
    Run (savesOf env fun _ => record) (World.pair ⟨[]⟩ .starting .starting)
      (World.pair store (.returned id) (.returned id)) := by
  obtain ⟨names, namesEq, named⟩ := storable.saveNames_eq readable_empty
  let published : QualityStore := ⟨[(names.primary, .file (encodeUtf8 (savedText env record)))]⟩
  have at' : published.entries.lookup (names.id .primary) =
      some (.file (encodeUtf8 (savedText env record))) := List.lookup_cons_self
  have begins : advance env record ⟨[]⟩ .starting = (⟨[]⟩, .testing names .primary) := by
    rw [advance, namesEq]
  have stages : advance env record ⟨[]⟩ (.staging names .primary) = (⟨[]⟩, .linking names .primary) := by
    rw [advance, storable.fileOf_eq]
  have links : advance env record ⟨[]⟩ (.linking names .primary) =
      (published, .syncing names .primary) := by
    rw [advance, storable.fileOf_eq]
    rfl
  have meets : advance env record published (.linking names .primary) =
      (published, .probing names .primary) := by
    rw [advance, at']
  have probes : advance env record published (.probing names .primary) =
      (published, .reading names .primary) := by
    have inside : published.entries.lookup (names.id .primary) ≠ some .outside := by
      intro outside
      rw [at'] at outside
      cases outside
    have path := pathFor_eq_ok.mpr ⟨storable.isRecordId named .primary, inside, rfl⟩
    rw [advance, path]
    dsimp only
    rw [at']
    rfl
  have reads : advance env record published (.reading names .primary) =
      (published, .returned names.primary) := by
    rw [advance, storable.load_eq named at']
    dsimp only
    rw [judge, if_pos (pyEq_self record storable.able.finite storable.distinct)]
    rfl
  refine ⟨published, names.primary, ?_⟩
  have start : Run (savesOf env fun _ : Bool => record) (World.pair ⟨[]⟩ .starting .starting)
      (World.pair ⟨[]⟩ .starting .starting) := Relation.ReflTransGen.refl
  -- both test before either links
  have begun := (start.first (savesOf_step begins)).second (savesOf_step begins)
  have tested := (begun.first (savesOf_step rfl)).second (savesOf_step rfl)
  have staged := (tested.first (savesOf_step stages)).second (savesOf_step stages)
  have raced := (staged.first (savesOf_step links)).second (savesOf_step meets)
  have loaded := (raced.second (savesOf_step probes)).second (savesOf_step reads)
  exact loaded.first (savesOf_step rfl)

/-- One sample of one. -/
def oneSample : Selection where
  total := 1
  ids := [0]
  nonempty := List.cons_ne_nil 0 []
  nodup := List.nodup_singleton 0
  inside := fun _ mem => (List.mem_singleton.mp mem).trans_lt Nat.one_pos
  small := lt_of_lt_thousand (by decide)

end Race

section Main
variable {ι : Type} [DecidableEq ι] {records : ι → Json} {first last : World ι QualityStore SavePhase}

/-- Saves that all begin. -/
def Beginning (world : World ι QualityStore SavePhase) : Prop :=
  ∀ i, world.phase i = .starting

/-- A run lets the store grow. -/
lemma grows_of_run (run : Run (savesOf env records) first last) : Grows first.shared last.shared :=
  run.shared (fun _ _ _ at' => at') (fun rs st id entry at' => st id entry (rs id entry at'))
    fun moved => SaveMove.grows moved

/-- What a save returns, loads as its record. -/
lemma loads_of_run (storable : ∀ i, Storable env (records i)) (beginning : Beginning first)
    (run : Run (savesOf env records) first last) (i : ι) :
    Promises env (records i) last.shared (last.phase i) := by
  have held := Run.invariant (fun _ => True) (fun i => Promises env (records i)) run True.intro
    (fun i => by rw [beginning i]; exact True.intro)
    (fun _ promises moved => ⟨True.intro, SaveMove.promises moved (storable _) promises⟩)
    fun _ _ moved promises => promises.grows (SaveMove.grows moved)
  exact held.2 i

/-- A run keeps every save unhindered. -/
lemma unhindered_of_run (inj : Function.Injective env.sha256)
    (storable : ∀ i, Storable env (records i)) (beginning : Beginning first)
    (readable : Readable env first.shared) (run : Run (savesOf env records) first last) (i : ι) :
    Unhindered env first.shared (records i) last.shared (last.phase i) := by
  have held := Run.invariant (Sound env first.shared)
    (fun i => Unhindered env first.shared (records i)) run ⟨readable, fun _ at' => at'⟩
    (fun i => by rw [beginning i]; exact True.intro)
    (fun sound free moved => ⟨SaveMove.sound moved (storable _) sound free,
      SaveMove.unhindered moved inj (storable _) sound free⟩)
    fun _ _ moved free => free.grows (SaveMove.grows moved)
  exact held.2 i

/-- However the steps of any number of saves follow each other: what has a name in the store keeps it, a
save that has returned leaves its record behind, and from readable files on a save fails through the
operating system only, or through something that is no file under its last name from the beginning. -/
theorem concurrent_saves (inj : Function.Injective env.sha256)
    (storable : ∀ i, Storable env (records i)) {middle : World ι QualityStore SavePhase}
    (beginning : Beginning first) (before : Run (savesOf env records) first middle)
    (after : Run (savesOf env records) middle last) :
    (∀ id entry, middle.shared.entries.lookup id = some entry →
        last.shared.entries.lookup id = some entry) ∧
      (∀ i id, middle.phase i = .returned id →
        ∃ existing, last.shared.load env id = .ok existing ∧ pyEq existing (records i) = true) ∧
      (Readable env first.shared → ∀ i failure, middle.phase i = .failed failure →
        failure = .system ∨ Obstructed env first.shared (records i)) := by
  have grows := grows_of_run after
  refine ⟨grows, ?_, ?_⟩
  · intro i id returned
    have promises := loads_of_run storable beginning before i
    rw [returned] at promises
    exact Promises.grows promises grows
  · intro readable i failure failed
    have free := unhindered_of_run inj storable beginning readable before i
    rw [failed] at free
    exact free

/-- Two saves of the record of one sample. -/
theorem concurrent_saves_oneSample : ∃ store id,
    (∃ existing, store.load oneSample.surroundings id = .ok existing ∧
      pyEq existing oneSample.record = true) ∧
    Run (savesOf oneSample.surroundings fun _ => oneSample.record) (World.pair ⟨[]⟩ .starting .starting)
      (World.pair store (.returned id) (.returned id)) := by
  obtain ⟨store, id, run⟩ := race (storable_chat oneSample)
  have saved := concurrent_saves surroundings_injective (fun _ => storable_chat oneSample)
    (fun i => by cases i <;> rfl) run Relation.ReflTransGen.refl
  exact ⟨store, id, saved.2.1 true id rfl, run⟩

end Main

end Jaull.Evaluation
