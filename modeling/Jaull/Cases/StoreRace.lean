import Jaull.Cases.RecordStore
import Jaull.Lib.JsonFile

/-!
# Races in the stores of immutable records

Saves of records with one id share the name of their temporary file, and publish by a rename that replaces.
Where no save passes its test while another is between its own test and its end, a published file stays and
is the whole payload of one record; where two pass it together, one record replaces the other.
-/

namespace Jaull.Cases
open Jaull.Domain Jaull.Evaluation Jaull.Lib Jaull.Text

section Disk
variable {disk disk' : Disk} {name name' : List ℕ} {inode : ℕ} {bytes : List UInt8}

/-- There is content where there is a file. -/
lemma content?_eq_none : disk.content? name = none ↔ disk.inode? name = none := by
  rw [Disk.content?, Option.map_eq_none_iff]

/-- A test finds nothing where there is no content. -/
lemma isFile_eq_false : disk.isFile name = false ↔ disk.content? name = none := by
  rw [Disk.isFile, content?_eq_none, Option.isSome_eq_false_iff, Option.isNone_iff_eq_none]

/-- The temporary file is not the file of the record. -/
lemma names_apart (id : PyString) : recordName id ≠ temporaryName id := by
  intro same
  have lengths := congrArg List.length same
  have four : (codesOf ".tmp").length = 4 := rfl
  rw [temporaryName, List.length_append, four] at lengths
  omega

/-- An id is lengthened by the suffix. -/
lemma recordName_length (id : PyString) : (recordName id).length = id.codes.length + 5 := by
  rw [recordName, List.length_append]
  rfl

/-- And by that of the temporary file. -/
lemma temporaryName_length (id : PyString) : (temporaryName id).length = id.codes.length + 9 := by
  rw [temporaryName, List.length_append, recordName_length]
  rfl

/-- Where the name of the temporary file is not too long, neither is that of the record. -/
lemma recordName_fits {id : PyString} (fits : nameTooLong (temporaryName id) = false) :
    nameTooLong (recordName id) = false := by
  rw [nameTooLong, decide_eq_false_iff_not, not_lt] at fits ⊢
  rw [temporaryName_length] at fits
  rw [recordName_length]
  omega

/-- What an open for writing does to the directory. -/
lemma openTruncate_eq_some (opened : disk.openTruncate name = some (disk', inode)) :
    disk'.inode? name = some inode ∧ disk'.contents inode = [] ∧
      ∀ other, other ≠ name → disk'.inode? other = disk.inode? other := by
  rw [Disk.openTruncate] at opened
  split at opened
  · cases opened
  cases at' : disk.names.lookup name with
  | none =>
    rw [at'] at opened
    cases opened
    refine ⟨?_, Function.update_self _ _ _, ?_⟩
    · rw [Disk.inode?, lookup_dictSet_self]
      rfl
    · intro other apart
      rw [Disk.inode?, lookup_dictSet_ne apart, Disk.inode?]
  | some entry =>
    rw [at'] at opened
    obtain ⟨n, found, eq⟩ := Option.map_eq_some_iff.mp opened
    cases eq
    refine ⟨?_, Function.update_self _ _ _, fun _ _ => rfl⟩
    rw [Disk.inode?, at']
    exact found

/-- What a rename does to the directory: the file that it moves stands under the new name. -/
lemma replace_eq_some {source target : List ℕ} (replaced : disk.replace source target = some disk') :
    disk'.content? target = disk.content? source := by
  rw [Disk.replace] at replaced
  split at replaced
  · cases replaced
  split at replaced
  · cases replaced
  · cases replaced
  · cases replaced
  · rename_i entry _ _ at' _
    cases replaced
    rw [Disk.content?, Disk.content?, Disk.inode?, Disk.inode?, lookup_dictSet_self, at']

/-- An unlink leaves the other names. -/
lemma inode?_unlink {other : List ℕ} (apart : other ≠ name) :
    (disk.unlink name).inode? other = disk.inode? other := by
  rw [Disk.unlink]
  split
  · rfl
  · rw [Disk.inode?, lookup_dictPop_ne apart, Disk.inode?]

/-- An open of a free name makes a file of its own. -/
lemma openTruncate_of_free (fits : nameTooLong name = false) (free : disk.names.lookup name = none) :
    ∃ opened, disk.openTruncate name = some (opened, disk.fresh) ∧
      opened.names = dictSet disk.names name (.file disk.fresh) ∧ opened.contents disk.fresh = [] := by
  rw [Disk.openTruncate, fits, if_neg Bool.false_ne_true, free]
  exact ⟨_, rfl, rfl, Function.update_self _ _ _⟩

/-- A rename of a file over anything but a directory. -/
lemma replace_of_file {source target : List ℕ} (fits : nameTooLong source = false)
    (fits' : nameTooLong target = false) (moved : disk.names.lookup source = some (.file inode))
    (target' : disk.names.lookup target ≠ some .other) :
    ∃ replaced, disk.replace source target = some replaced ∧
      replaced.names = dictSet (dictPop disk.names source) target (.file inode) := by
  rw [Disk.replace, fits, fits', Bool.or_false, if_neg Bool.false_ne_true, moved]
  cases at' : disk.names.lookup target with
  | none => exact ⟨_, rfl, rfl⟩
  | some entry =>
    cases entry with
    | file inode => exact ⟨_, rfl, rfl⟩
    | link inode => exact ⟨_, rfl, rfl⟩
    | other => exact absurd at' target'

end Disk

variable {Record : Type} [DecidableEq Record] {store : RecordStore Record} {record : Record} {id : PyString}
  {disk disk' : Disk} {phase phase' : WritePhase}

section Calls

/-- `pydantic` reads a text as the record, and the text has no carriage return. -/
def RecordStore.RoundTrips (store : RecordStore Record) (record : Record) (text : List Char) : Prop :=
  '\r' ∉ text ∧ store.envelopes.parse (String.ofList (text ++ ['\n'])) = some (1, record)

/-- `pydantic` reads back what it writes of a record. -/
def RecordStore.Faithful (store : RecordStore Record) (record : Record) : Prop :=
  ∀ text, store.envelopes.dumps record = some text → store.RoundTrips record text

omit [DecidableEq Record] in
/-- The payload of a record reads as the record. -/
lemma readRecord_of_roundTrips {text : List Char} (roundTrips : store.RoundTrips record text)
    (same : store.idOf record = id) : store.readRecord id (encodeUtf8 (text ++ ['\n'])) = .ok record := by
  obtain ⟨plain, parsed⟩ := roundTrips
  have none : '\r' ∉ text ++ ['\n'] := by
    rw [List.mem_append, not_or]
    exact ⟨plain, by decide⟩
  rw [RecordStore.readRecord, readText_encodeUtf8 none]
  dsimp only
  rw [parsed]
  dsimp only
  rw [if_neg (not_not.mpr rfl), if_neg (not_not.mpr same)]

omit [DecidableEq Record] in
/-- What a save writes reads as its record. -/
lemma readRecord_payload (faithful : store.Faithful record) {payload : List UInt8}
    (written : store.payload record = some payload) (same : store.idOf record = id) :
    store.readRecord id payload = .ok record := by
  obtain ⟨text, dumped, rfl⟩ := Option.map_eq_some_iff.mp written
  exact readRecord_of_roundTrips (faithful text dumped) same

/-- What a save knows in its phases. -/
def Knows (store : RecordStore Record) (record : Record) (disk : Disk) : WritePhase → Prop
  | .opening payload => store.payload record = some payload
  | .writing payload inode => store.payload record = some payload ∧
      disk.inode? (temporaryName (store.idOf record)) = some inode ∧ disk.contents inode = []
  | .replacing => ∃ payload, store.payload record = some payload ∧
      disk.content? (temporaryName (store.idOf record)) = some payload
  | .returned _ => ∃ bytes, disk.content? (recordName (store.idOf record)) = some bytes ∧
      store.readRecord (store.idOf record) bytes = .ok record
  | _ => True

/-- A step outside of the write leaves the directory as it is, and only a test that finds nothing leads into
the write. -/
lemma WriteMove.quiet (moved : WriteMove store record disk phase disk' phase')
    (outside : phase.inFlight = false) (knows : Knows store record disk phase) :
    disk' = disk ∧ Knows store record disk phase' ∧ (phase'.inFlight = true →
      phase = .testing ∧ disk.content? (recordName (store.idOf record)) = none) := by
  have stays : ∀ failure, Knows store record disk (.failed failure) ∧
      ((WritePhase.failed failure).inFlight = true → phase = .testing ∧
        disk.content? (recordName (store.idOf record)) = none) :=
    fun _ => ⟨True.intro, fun busy => nomatch busy⟩
  cases moved with
  | unread => exact ⟨rfl, stays _⟩
  | refused handled => exact absurd (outside.symm.trans handled) Bool.false_ne_true
  | torn written => cases outside
  | uncleared => cases outside
  | advance =>
    cases phase with
    | starting =>
      rw [RecordStore.advance]
      cases pathFor disk (store.idOf record) with
      | ok name => exact ⟨rfl, True.intro, fun busy => nomatch busy⟩
      | error failure => exact ⟨rfl, stays failure⟩
    | testing =>
      rw [RecordStore.advance]
      cases nameTooLong (recordName (store.idOf record)) with
      | true => exact ⟨rfl, stays _⟩
      | false =>
        cases test : disk.isFile (recordName (store.idOf record)) with
        | true => exact ⟨rfl, True.intro, fun busy => nomatch busy⟩
        | false =>
          -- the way into the write, from a name that was free when it was tested
          cases written : store.payload record with
          | some payload => exact ⟨rfl, written, fun _ => ⟨rfl, isFile_eq_false.mp test⟩⟩
          | none => exact ⟨rfl, stays _⟩
    | probing =>
      rw [RecordStore.advance]
      cases pathFor disk (store.idOf record) with
      | ok name =>
        dsimp only
        cases nameTooLong name with
        | true => exact ⟨rfl, stays _⟩
        | false =>
          cases disk.isFile name with
          | true => exact ⟨rfl, True.intro, fun busy => nomatch busy⟩
          | false => exact ⟨rfl, stays _⟩
      | error failure => exact ⟨rfl, stays failure⟩
    | reading =>
      rw [RecordStore.advance]
      cases found : disk.content? (recordName (store.idOf record)) with
      | none => exact ⟨rfl, True.intro, fun busy => nomatch busy⟩
      | some bytes =>
        dsimp only
        cases read : store.readRecord (store.idOf record) bytes with
        | error failure => exact ⟨rfl, True.intro, fun busy => nomatch busy⟩
        | ok existing =>
          dsimp only
          split
          · rename_i equal
            -- the file of the same record is a success of its own
            subst equal
            exact ⟨rfl, ⟨bytes, found, read⟩, fun busy => nomatch busy⟩
          · exact ⟨rfl, True.intro, fun busy => nomatch busy⟩
    | opening payload => cases outside
    | writing payload inode => cases outside
    | replacing => cases outside
    | clearing => cases outside
    | returned name => exact ⟨rfl, knows, fun busy => nomatch busy⟩
    | failed failure => exact ⟨rfl, stays failure⟩

/-- A step of the write leaves no file under the name of the record, or the whole payload of the record when
it was the last. -/
lemma WriteMove.busy (faithful : store.Faithful record) (moved : WriteMove store record disk phase disk' phase')
    (inside : phase.inFlight = true) (knows : Knows store record disk phase)
    (free : disk.content? (recordName (store.idOf record)) = none) :
    Knows store record disk' phase' ∧
      (disk'.content? (recordName (store.idOf record)) = none ∨ phase'.inFlight = false ∧
        ∃ payload, store.payload record = some payload ∧
          disk'.content? (recordName (store.idOf record)) = some payload) := by
  cases moved with
  | unread => cases inside
  | refused handled => exact ⟨True.intro, .inl free⟩
  | torn written =>
    refine ⟨True.intro, .inl ?_⟩
    rw [content?_eq_none] at free ⊢
    exact free
  | uncleared => exact ⟨True.intro, .inl free⟩
  | advance =>
    cases phase with
    | opening payload =>
      rw [RecordStore.advance]
      cases opened : disk.openTruncate (temporaryName (store.idOf record)) with
      | none => exact ⟨True.intro, .inl free⟩
      | some result =>
        -- the temporary name is another one
        obtain ⟨opened', inode⟩ := result
        obtain ⟨at', empty, others⟩ := openTruncate_eq_some opened
        refine ⟨⟨knows, at', empty⟩, .inl ?_⟩
        rw [content?_eq_none] at free ⊢
        exact (others _ (names_apart _)).trans free
    | writing payload inode =>
      obtain ⟨written, at', empty⟩ := knows
      refine ⟨⟨payload, written, ?_⟩, .inl ?_⟩
      · -- the file was empty, so it holds the payload and no more
        have whole : (disk.write inode payload).contents inode = payload := by
          rw [Disk.write]
          simp only [Function.update_self, empty, List.drop_nil, List.append_nil]
        change (disk.inode? (temporaryName (store.idOf record))).map (disk.write inode payload).contents =
          some payload
        rw [at', Option.map_some, whole]
      · rw [content?_eq_none] at free ⊢
        exact free
    | replacing =>
      obtain ⟨payload, written, staged⟩ := knows
      rw [RecordStore.advance]
      cases replaced : disk.replace (temporaryName (store.idOf record))
          (recordName (store.idOf record)) with
      | none => exact ⟨True.intro, .inl free⟩
      | some published =>
        -- the replacement moves the whole payload under the name
        have at' := (replace_eq_some replaced).trans staged
        exact ⟨⟨payload, at', readRecord_payload faithful written rfl⟩,
          .inr ⟨rfl, payload, written, at'⟩⟩
    | clearing =>
      refine ⟨True.intro, .inl ?_⟩
      rw [content?_eq_none] at free ⊢
      exact (inode?_unlink (names_apart _)).trans free
    | _ => cases inside

end Calls

section Publishing
variable {payload : List UInt8}

omit [DecidableEq Record] in
/-- The path of a safe id that is no link. -/
lemma pathFor_eq_ok (safe : isSafeId id = true)
    (inside : ∀ inode, disk.names.lookup (recordName id) ≠ some (.link inode)) :
    pathFor disk id = .ok (recordName id) := by
  have stated : id ≠ "" := by
    intro empty
    subst empty
    cases safe
  rw [pathFor, safe, if_neg (by simpa using stated)]
  split
  · rename_i inode at'
    exact absurd at' (inside inode)
  · rfl

/-- A save of a safe id begins with its test. -/
lemma advance_starting (safe : isSafeId (store.idOf record) = true)
    (inside : ∀ inode, disk.names.lookup (recordName (store.idOf record)) ≠ some (.link inode)) :
    store.advance record disk .starting = (disk, .testing) := by
  rw [RecordStore.advance, pathFor_eq_ok safe inside]

/-- A save that finds no file goes on to write its payload. -/
lemma advance_testing (fits : nameTooLong (recordName (store.idOf record)) = false)
    (none : disk.isFile (recordName (store.idOf record)) = false)
    (written : store.payload record = some payload) :
    store.advance record disk .testing = (disk, .opening payload) := by
  rw [RecordStore.advance, fits, none, if_neg Bool.false_ne_true, if_neg Bool.false_ne_true, written]

/-- A save whose temporary name is free when it opens it publishes its payload when nothing stops it, over
whatever file there is. -/
lemma RecordStore.publishes (store : RecordStore Record) (record : Record) (disk : Disk)
    (payload : List UInt8) (fits : nameTooLong (temporaryName (store.idOf record)) = false)
    (clear : disk.names.lookup (temporaryName (store.idOf record)) = none)
    (target : disk.names.lookup (recordName (store.idOf record)) ≠ some .other) :
    ∃ opened inode written published,
      store.advance record disk (.opening payload) = (opened, .writing payload inode) ∧
      store.advance record opened (.writing payload inode) = (written, .replacing) ∧
      store.advance record written .replacing =
        (published, .returned (recordName (store.idOf record))) ∧
      published.content? (recordName (store.idOf record)) = some payload ∧
      published.names.lookup (temporaryName (store.idOf record)) = none ∧
      published.names.lookup (recordName (store.idOf record)) = some (.file inode) := by
  have apart := names_apart (store.idOf record)
  obtain ⟨opened, open', names, empty⟩ := openTruncate_of_free fits clear
  have staged : (opened.write disk.fresh payload).names.lookup (temporaryName (store.idOf record)) =
      some (.file disk.fresh) := by
    change opened.names.lookup _ = _
    rw [names, lookup_dictSet_self]
  have target' : (opened.write disk.fresh payload).names.lookup (recordName (store.idOf record)) ≠
      some .other := by
    change opened.names.lookup _ ≠ _
    rwa [names, lookup_dictSet_ne apart]
  obtain ⟨published, moved, names'⟩ := replace_of_file fits (recordName_fits fits) staged target'
  have whole : (opened.write disk.fresh payload).contents disk.fresh = payload := by
    rw [Disk.write]
    simp only [Function.update_self, empty, List.drop_nil, List.append_nil]
  refine ⟨opened, disk.fresh, _, published, ?_, rfl, ?_, ?_, ?_, ?_⟩
  · rw [RecordStore.advance, open']
  · rw [RecordStore.advance, moved]
  · rw [replace_eq_some moved, Disk.content?, Disk.inode?, staged]
    exact congrArg some whole
  · rw [names', lookup_dictSet_ne apart.symm, lookup_dictPop_self]
  · rw [names', lookup_dictSet_self]

/-- A save that finds another record under its id is refused. -/
lemma RecordStore.rejects (store : RecordStore Record) (record : Record) {found : Record} {bytes : List UInt8}
    (safe : isSafeId (store.idOf record) = true)
    (fits : nameTooLong (recordName (store.idOf record)) = false)
    (inside : ∀ inode, disk.names.lookup (recordName (store.idOf record)) ≠ some (.link inode))
    (there : disk.content? (recordName (store.idOf record)) = some bytes)
    (read : store.readRecord (store.idOf record) bytes = .ok found) (differs : found ≠ record) :
    store.advance record disk .testing = (disk, .probing) ∧
      store.advance record disk .probing = (disk, .reading) ∧
      store.advance record disk .reading = (disk, .failed .different) := by
  have file : disk.isFile (recordName (store.idOf record)) = true := by
    by_contra none
    rw [Bool.not_eq_true, isFile_eq_false, there] at none
    cases none
  refine ⟨?_, ?_, ?_⟩
  · rw [RecordStore.advance, fits, if_neg Bool.false_ne_true, if_pos file]
  · rw [RecordStore.advance, pathFor_eq_ok safe inside]
    dsimp only
    rw [fits, if_neg Bool.false_ne_true, if_pos file]
  · rw [RecordStore.advance, there]
    dsimp only
    rw [read]
    dsimp only
    rw [if_neg differs]

/-- A step that the operating system lets go on is a step of a save. -/
lemma WriteMove.of_advance (next : store.advance record disk phase = (disk', phase')) :
    WriteMove store record disk phase disk' phase' := by
  have move : WriteMove store record disk phase (store.advance record disk phase).1
      (store.advance record disk phase).2 := .advance disk phase
  rw [next] at move
  exact move

end Publishing

section Runs
variable {ι : Type} [DecidableEq ι] {records : ι → Record} {world world' : World ι Disk WritePhase}
  {first middle last : World ι Disk WritePhase}

/-- A save may pass its test when it finds a file, or while no other is in flight. -/
def Apart (store : RecordStore Record) (records : ι → Record) (world : World ι Disk WritePhase) (i : ι) :
    Prop :=
  world.phase i = .testing → world.shared.isFile (recordName (store.idOf (records i))) = true ∨
    ∀ j, (world.phase j).inFlight = false

/-- A run in which no save passes its test while another is in flight. -/
abbrev ApartRun (store : RecordStore Record) (records : ι → Record) :
    World ι Disk WritePhase → World ι Disk WritePhase → Prop :=
  ScheduledRun (writesOf store records) (Apart store records)

/-- What holds in such a run of saves with one id: at most one is in flight, and in front of it there is no
file; what is published was there before or is a payload. -/
structure Guarded (store : RecordStore Record) (records : ι → Record) (id : PyString) (initial : Disk)
    (world : World ι Disk WritePhase) : Prop where
  single : ∀ i j, (world.phase i).inFlight = true → (world.phase j).inFlight = true → i = j
  free : ∀ i, (world.phase i).inFlight = true → world.shared.content? (recordName id) = none
  knows : ∀ i, Knows store (records i) world.shared (world.phase i)
  origin : ∀ bytes, world.shared.content? (recordName id) = some bytes →
    initial.content? (recordName id) = some bytes ∨ ∃ i, store.payload (records i) = some bytes

omit [DecidableEq Record] in
/-- A call that is not in flight and has not returned knows nothing of the directory. -/
lemma knows_elsewhere (same : store.idOf record = id) (outside : phase.inFlight = false)
    (free : disk.content? (recordName id) = none) (knows : Knows store record disk phase) :
    Knows store record disk' phase := by
  cases phase with
  | returned name =>
    obtain ⟨bytes, at', -⟩ := knows
    rw [same, free] at at'
    cases at'
  | opening payload => cases outside
  | writing payload inode => cases outside
  | replacing => cases outside
  | _ => exact True.intro

/-- A step keeps the guard, and what is published. -/
lemma Guarded.step {initial : Disk} (guarded : Guarded store records id initial world)
    (faithful : ∀ i, store.Faithful (records i)) (same : ∀ i, store.idOf (records i) = id)
    (step : Scheduled (writesOf store records) (Apart store records) world world') :
    Guarded store records id initial world' ∧ ∀ bytes,
      world.shared.content? (recordName id) = some bytes →
        world'.shared.content? (recordName id) = some bytes := by
  cases step with
  | @move i disk phase moved apart =>
    cases busy : (world.phase i).inFlight with
    | false =>
      obtain ⟨rfl, knows, enters⟩ := WriteMove.quiet moved busy (guarded.knows i)
      rw [same] at enters
      -- Whoever enters the write has found no file, and nobody else in flight.
      have alone : phase.inFlight = true → world.shared.content? (recordName id) = none ∧
          ∀ j, (world.phase j).inFlight = false := by
        intro entered
        obtain ⟨testing, none⟩ := enters entered
        refine ⟨none, ?_⟩
        rcases apart testing with found | nobody
        · rw [same, isFile_eq_false.mpr none] at found
          cases found
        · exact nobody
      refine ⟨⟨?_, ?_, ?_, guarded.origin⟩, fun _ at' => at'⟩
      · intro j k busyJ busyK
        by_cases ij : j = i <;> by_cases ik : k = i
        · rw [ij, ik]
        · subst ij
          simp only [Function.update_self, Function.update_of_ne ik] at busyJ busyK
          rw [(alone busyJ).2 k] at busyK
          cases busyK
        · subst ik
          simp only [Function.update_self, Function.update_of_ne ij] at busyJ busyK
          rw [(alone busyK).2 j] at busyJ
          cases busyJ
        · simp only [Function.update_of_ne ij, Function.update_of_ne ik] at busyJ busyK
          exact guarded.single j k busyJ busyK
      · intro j busyJ
        by_cases ij : j = i
        · subst ij
          simp only [Function.update_self] at busyJ
          exact (alone busyJ).1
        · simp only [Function.update_of_ne ij] at busyJ
          exact guarded.free j busyJ
      · intro j
        by_cases ij : j = i
        · subst ij
          simpa only [Function.update_self] using knows
        · simpa only [Function.update_of_ne ij] using guarded.knows j
    | true =>
      have none := guarded.free i busy
      obtain ⟨knows, published⟩ :=
        WriteMove.busy (faithful i) moved busy (guarded.knows i) (by rw [same]; exact none)
      rw [same] at published
      have others : ∀ j, j ≠ i → (world.phase j).inFlight = false := by
        intro j ij
        rw [Bool.eq_false_iff]
        intro busyJ
        exact ij (guarded.single j i busyJ busy)
      refine ⟨⟨?_, ?_, ?_, ?_⟩, fun bytes at' => ?_⟩
      · intro j k busyJ busyK
        have only : ∀ j, (Function.update world.phase i phase j).inFlight = true → j = i := by
          intro j busyJ
          by_contra ij
          rw [Function.update_of_ne ij, others j ij] at busyJ
          cases busyJ
        rw [only j busyJ, only k busyK]
      · intro j busyJ
        by_cases ij : j = i
        · subst ij
          simp only [Function.update_self] at busyJ
          rcases published with free | ⟨done, -⟩
          · exact free
          · rw [done] at busyJ
            cases busyJ
        · simp only [Function.update_of_ne ij, others j ij] at busyJ
          cases busyJ
      · intro j
        by_cases ij : j = i
        · subst ij
          simpa only [Function.update_self] using knows
        · simp only [Function.update_of_ne ij]
          exact knows_elsewhere (same j) (others j ij) none (guarded.knows j)
      · intro bytes at'
        rcases published with free | ⟨-, payload, written, new⟩
        · rw [free] at at'
          cases at'
        · rw [new] at at'
          cases at'
          exact .inr ⟨i, written⟩
      · rw [none] at at'
        cases at'

/-- A run keeps the guard, and what is published. -/
lemma Guarded.run {initial : Disk} (guarded : Guarded store records id initial first)
    (faithful : ∀ i, store.Faithful (records i)) (same : ∀ i, store.idOf (records i) = id)
    (run : ApartRun store records first last) :
    Guarded store records id initial last ∧ ∀ bytes,
      first.shared.content? (recordName id) = some bytes →
        last.shared.content? (recordName id) = some bytes := by
  induction run with
  | refl => exact ⟨guarded, fun _ at' => at'⟩
  | tail _ step ih =>
    obtain ⟨guarded', kept⟩ := ih
    obtain ⟨guarded'', stays⟩ := guarded'.step faithful same step
    exact ⟨guarded'', fun bytes at' => stays bytes (kept bytes at')⟩

omit [DecidableEq Record] [DecidableEq ι] in
/-- In front of all saves nothing is in flight. -/
lemma guarded_of_beginning (beginning : ∀ i, first.phase i = .starting) :
    Guarded store records id first.shared first := by
  have quiet : ∀ i, (first.phase i).inFlight = false := by
    intro i
    rw [beginning i]
    rfl
  refine ⟨?_, ?_, ?_, fun _ at' => .inl at'⟩
  · intro i j busy
    rw [quiet i] at busy
    cases busy
  · intro i busy
    rw [quiet i] at busy
    cases busy
  · intro i
    rw [beginning i]
    exact True.intro

/-- Saves with one id of which none passes its test while another is in flight: what is published stays, it
was there before or is the payload of one of the records, and records of saves that return are equal. -/
theorem immutable_of_apart (faithful : ∀ i, store.Faithful (records i))
    (same : ∀ i, store.idOf (records i) = id)
    (beginning : ∀ i, first.phase i = .starting) (before : ApartRun store records first middle)
    (after : ApartRun store records middle last) :
    (∀ bytes, middle.shared.content? (recordName id) = some bytes →
        last.shared.content? (recordName id) = some bytes) ∧
      (∀ bytes, middle.shared.content? (recordName id) = some bytes →
        first.shared.content? (recordName id) = some bytes ∨
          ∃ i, store.payload (records i) = some bytes) ∧
      ∀ i j name name', middle.phase i = .returned name → middle.phase j = .returned name' →
        records i = records j := by
  obtain ⟨guarded, -⟩ := (guarded_of_beginning beginning).run faithful same before
  refine ⟨(guarded.run faithful same after).2, guarded.origin, ?_⟩
  intro i j name name' returned returned'
  have knows := guarded.knows i
  have knows' := guarded.knows j
  rw [returned] at knows
  rw [returned'] at knows'
  obtain ⟨bytes, at', read⟩ := knows
  obtain ⟨bytes', at'', read'⟩ := knows'
  rw [same] at at' read at'' read'
  cases Option.some.inj (at'.symm.trans at'')
  exact Except.ok.inj (read.symm.trans read')

end Runs

section Example

/-- A case, described in one of two ways. -/
def exampleCases (i : Bool) : ExperimentalCaseManifest where
  identity :=
    { caseId := "case-1"
      createdAt := ⟨0, true⟩
      machineFingerprint := ["Linux"]
      artifact := { repoId := "org/model", revision := "main", filename := "model.gguf", format := "gguf" }
      runtime := .llamaCpp }
  experimentRecordId := "experiment-1"
  notes := if i then [] else ["second run"]

/-- The envelope of such a case. -/
def exampleText (i : Bool) : List Char :=
  charsOf (render (.indented 2) 0 (.obj [("schema_version", .int 1),
    ("case", .obj [("schema_version", .int 1),
      ("identity", .obj [("case_id", .str "case-1"), ("created_at", .str "1970-01-01T00:00:00Z"),
        ("label", .null), ("machine_fingerprint", .arr [.str "Linux"]),
        ("artifact", .obj [("repo_id", .str "org/model"), ("revision", .str "main"),
          ("filename", .str "model.gguf"), ("format", .str "gguf"), ("quantization", .null)]),
        ("runtime", .str "llama.cpp")]),
      ("experiment_record_id", .str "experiment-1"), ("benchmark_record_ids", .arr []),
      ("evidence_files", .arr []), ("notes", .arr (if i then [] else [.str "second run"]))])]))

/-- `pydantic` on the envelopes of the two. -/
def exampleEnvelopes : Pydantic ExperimentalCaseManifest where
  dumps manifest :=
    if manifest = exampleCases true then some (exampleText true)
    else if manifest = exampleCases false then some (exampleText false)
    else none
  parse text :=
    if text = String.ofList (exampleText true ++ ['\n']) then some (1, exampleCases true)
    else if text = String.ofList (exampleText false ++ ['\n']) then some (1, exampleCases false)
    else none

/-- The two descriptions differ. -/
lemma exampleCases_ne : exampleCases false ≠ exampleCases true := by
  decide

/-- So do their texts. -/
lemma exampleText_ne : exampleText false ≠ exampleText true := by
  decide +kernel

/-- A text has no carriage return. -/
lemma exampleText_plain (i : Bool) : '\r' ∉ exampleText i := by
  cases i with
  | true => decide +kernel
  | false => decide +kernel

/-- What is written of a case. -/
lemma exampleEnvelopes_dumps (i : Bool) : exampleEnvelopes.dumps (exampleCases i) = some (exampleText i) := by
  rw [exampleEnvelopes]
  dsimp only
  cases i with
  | true => rw [if_pos rfl]
  | false => rw [if_neg exampleCases_ne, if_pos rfl]

/-- What is read of a text. -/
lemma exampleEnvelopes_parse (i : Bool) :
    exampleEnvelopes.parse (String.ofList (exampleText i ++ ['\n'])) = some (1, exampleCases i) := by
  rw [exampleEnvelopes]
  dsimp only
  cases i with
  | true => rw [if_pos rfl]
  | false =>
    have differs : String.ofList (exampleText false ++ ['\n']) ≠
        String.ofList (exampleText true ++ ['\n']) := by
      intro same
      exact exampleText_ne (List.append_cancel_right (String.ofList_injective same))
    rw [if_neg differs, if_pos rfl]

/-- A case that is written is read back. -/
lemma exampleEnvelopes_faithful (i : Bool) : (CaseStore exampleEnvelopes).Faithful (exampleCases i) := by
  intro text dumped
  cases Option.some.inj ((exampleEnvelopes_dumps i).symm.trans dumped)
  exact ⟨exampleText_plain i, exampleEnvelopes_parse i⟩

/-- The file of such a case. -/
def examplePayload (i : Bool) : List UInt8 :=
  encodeUtf8 (exampleText i ++ ['\n'])

/-- The payload of a case is its file. -/
lemma exampleEnvelopes_payload (i : Bool) :
    (CaseStore exampleEnvelopes).payload (exampleCases i) = some (examplePayload i) := by
  rw [RecordStore.payload]
  exact congrArg (Option.map _) (exampleEnvelopes_dumps i)

/-- A load of that file. -/
lemma exampleEnvelopes_readRecord (i : Bool) :
    (CaseStore exampleEnvelopes).readRecord "case-1" (examplePayload i) = .ok (exampleCases i) :=
  readRecord_payload (exampleEnvelopes_faithful i) (exampleEnvelopes_payload i) rfl

/-- The files differ. -/
lemma examplePayload_ne : examplePayload true ≠ examplePayload false := by
  intro same
  have read := exampleEnvelopes_readRecord true
  rw [same, exampleEnvelopes_readRecord false] at read
  exact exampleCases_ne (Except.ok.inj read)

/-- The id is safe. -/
lemma exampleCases_safe : isSafeId "case-1" = true := by
  decide +kernel

/-- The names of its files are short. -/
lemma exampleCases_fits : nameTooLong (temporaryName "case-1") = false := by
  decide

/-- Two saves into an empty store. -/
def exampleWorld : World Bool Disk WritePhase :=
  .pair {} .starting .starting

/-- Neither of two quiet saves is in flight. -/
lemma pair_quiet (quiet : phase.inFlight = false) (quiet' : phase'.inFlight = false) (i : Bool) :
    ((World.pair disk phase phase').phase i).inFlight = false := by
  cases i with
  | true => exact quiet
  | false => exact quiet'

/-- Two saves at their start. -/
lemma pair_beginning (i : Bool) : (World.pair disk WritePhase.starting .starting).phase i = .starting := by
  cases i with
  | true => rfl
  | false => rfl

/-- One save after the other: the second is refused. -/
theorem immutable_of_apart_exampleCases : ∃ middle last,
    ApartRun (CaseStore exampleEnvelopes) exampleCases exampleWorld middle ∧
      ApartRun (CaseStore exampleEnvelopes) exampleCases middle last ∧
      middle.phase true = .returned (recordName "case-1") ∧ last.phase false = .failed .different ∧
      last.shared.content? (recordName "case-1") = some (examplePayload true) := by
  obtain ⟨opened, inode, written, published, opens, writes, replaces, there, -, at'⟩ :=
    (CaseStore exampleEnvelopes).publishes (exampleCases true) {} (examplePayload true) exampleCases_fits
      rfl (fun same => nomatch same)
  have inside : ∀ inode, published.names.lookup (recordName "case-1") ≠ some (.link inode) := by
    intro inode link
    cases at'.symm.trans link
  obtain ⟨finds, probes, reads⟩ := (CaseStore exampleEnvelopes).rejects (exampleCases false)
    exampleCases_safe (recordName_fits exampleCases_fits) inside there (exampleEnvelopes_readRecord true)
    exampleCases_ne.symm
  have starts : ApartRun (CaseStore exampleEnvelopes) exampleCases exampleWorld exampleWorld := .refl
  have testing := starts.first (.of_advance (advance_starting exampleCases_safe nofun)) nofun
  have opening := testing.first (.of_advance
    (advance_testing (recordName_fits exampleCases_fits) rfl (exampleEnvelopes_payload true)))
    fun _ => .inr (pair_quiet rfl rfl)
  have writing := opening.first (.of_advance opens) nofun
  have replacing := writing.first (.of_advance writes) nofun
  have before := replacing.first (.of_advance replaces) nofun
  have again : ApartRun (CaseStore exampleEnvelopes) exampleCases
      (.pair published (.returned (recordName "case-1")) .starting)
      (.pair published (.returned (recordName "case-1")) .starting) := .refl
  have testing := again.second (.of_advance (advance_starting exampleCases_safe inside)) nofun
  have probing := testing.second (.of_advance finds) fun _ => .inr (pair_quiet rfl rfl)
  have reading := probing.second (.of_advance probes) nofun
  have after := reading.second (.of_advance reads) nofun
  obtain ⟨stays, -⟩ := @immutable_of_apart _ _ (CaseStore exampleEnvelopes) "case-1" _ _ exampleCases
    _ _ _ exampleEnvelopes_faithful (fun _ => rfl) pair_beginning before after
  exact ⟨_, _, before, after, rfl, rfl, stays _ there⟩

/-- Both saves pass their tests and write; the second replaces what the first has published. -/
theorem replaced_of_race : ∃ middle last,
    Run (writesOf (CaseStore exampleEnvelopes) exampleCases) exampleWorld middle ∧
      Run (writesOf (CaseStore exampleEnvelopes) exampleCases) middle last ∧
      middle.shared.content? (recordName "case-1") =
        (CaseStore exampleEnvelopes).payload (exampleCases true) ∧
      last.shared.content? (recordName "case-1") =
        (CaseStore exampleEnvelopes).payload (exampleCases false) ∧
      (CaseStore exampleEnvelopes).payload (exampleCases true) ≠
        (CaseStore exampleEnvelopes).payload (exampleCases false) ∧
      (∀ i, last.phase i = .returned (recordName "case-1")) ∧ exampleCases true ≠ exampleCases false := by
  obtain ⟨opened, inode, written, published, opens, writes, replaces, there, clear, at'⟩ :=
    (CaseStore exampleEnvelopes).publishes (exampleCases true) {} (examplePayload true) exampleCases_fits
      rfl (fun same => nomatch same)
  have target : published.names.lookup (recordName "case-1") ≠ some .other := by
    intro other
    cases at'.symm.trans other
  obtain ⟨opened', inode', written', published', opens', writes', replaces', there', -, -⟩ :=
    (CaseStore exampleEnvelopes).publishes (exampleCases false) published (examplePayload false)
      exampleCases_fits clear target
  -- both writers have tested before either writes
  have starts : Run (writesOf (CaseStore exampleEnvelopes) exampleCases) exampleWorld exampleWorld := .refl
  have testing := starts.first (.of_advance (advance_starting exampleCases_safe nofun))
  have opening := testing.first (.of_advance
    (advance_testing (recordName_fits exampleCases_fits) rfl (exampleEnvelopes_payload true)))
  have testing' := opening.second (.of_advance (advance_starting exampleCases_safe nofun))
  have opening' := testing'.second (.of_advance
    (advance_testing (recordName_fits exampleCases_fits) rfl (exampleEnvelopes_payload false)))
  have writing := opening'.first (.of_advance opens)
  have replacing := writing.first (.of_advance writes)
  -- here the first record is on the disk
  have before := replacing.first (.of_advance replaces)
  have again : Run (writesOf (CaseStore exampleEnvelopes) exampleCases)
      (.pair published (.returned (recordName "case-1")) (.opening (examplePayload false)))
      (.pair published (.returned (recordName "case-1")) (.opening (examplePayload false))) := .refl
  have writing' := again.second (.of_advance opens')
  have replacing' := writing'.second (.of_advance writes')
  -- and here the second has taken its place
  have after := replacing'.second (.of_advance replaces')
  refine ⟨_, _, before, after, ?_, ?_, ?_, ?_, exampleCases_ne.symm⟩
  · exact there.trans (exampleEnvelopes_payload true).symm
  · exact there'.trans (exampleEnvelopes_payload false).symm
  · intro same
    rw [exampleEnvelopes_payload, exampleEnvelopes_payload] at same
    exact examplePayload_ne (Option.some.inj same)
  · intro i
    cases i with
    | true => rfl
    | false => rfl

end Example

end Jaull.Cases
