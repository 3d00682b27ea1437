import Jaull.Lib.PyLaws
import Jaull.Text.Utf8
import Mathlib.Logic.Function.Basic

/-!
# Caches of entries

The code that `jaull/adapters/cache/model_analysis_cache.py` and `gguf_header_cache.py` share: one file for
each key, whose entry is served while it was written for that key by this schema and is not too old. What
differs is what an `EntryCache` holds. A time is a number of microseconds.
-/

namespace Jaull.Adapters
open Jaull.Lib Jaull.Text

/-- What `json.loads` makes of the text of a file. Not every exception it raises is a `JSONDecodeError`: one
for an integer of too many digits or for too deep a nesting is none. -/
inductive LoadedText
  | tree (value : Json)
  | malformed
  | raises

/-- What the caches take from outside: the SHA-256 hex digest of a key, the decoder and the encoder of JSON
files, and the ISO texts of times, a time without a zone read as UTC. -/
structure CacheEnv where
  sha256 : String → String
  loads : String → LoadedText
  dumps : Json → List UInt8
  fromIso : PyString → Option ℤ
  isoFormat : ℤ → String

/-- What lies where an entry is looked for. The operating system may refuse to read it. -/
inductive EntryFile
  | absent
  | refused
  | bytes (content : List UInt8)
  deriving DecidableEq, Repr

/-- What the file holds, if anything, is UTF-8 that `json.loads` reads or refuses as malformed. -/
def EntryFile.Decodable (env : CacheEnv) (file : EntryFile) : Prop :=
  ∀ content, file = .bytes content → ∃ text, decodeUtf8 content = .ok text ∧ env.loads text ≠ .raises

/-- A cache directory, by the names of its files. -/
abbrev CacheFiles : Type :=
  String → EntryFile

/-- Why nothing is served. -/
inductive Miss
  | absent
  | readError
  | unsupportedSchema
  | expired
  deriving DecidableEq, Repr

/-- What a lookup returns: a value or `None`. -/
inductive Lookup (α : Type)
  | hit (value : α)
  | miss (reason : Miss)
  deriving DecidableEq, Repr

/-- The exceptions that leave a lookup: a `UnicodeDecodeError`, or one of `json.loads` that is no
`JSONDecodeError`. -/
inductive Escaped
  | notUtf8
  | loads
  deriving DecidableEq, Repr

/-- A cache for requests of type `ρ`: what of a request it caches for, by which key, and how a value is
written and validated. The fields of an entry hold its key, its time and its value. -/
structure EntryCache (ρ τ α : Type) where
  schemaVersion : ℤ
  ttl : ℤ
  target : ρ → Option τ
  cacheKey : τ → String
  cacheKeyKind : τ → String
  /-- The fields that must be these texts, in the order they are looked at. -/
  compared : τ → List (String × String)
  payloadField : String
  dump : α → Json
  validate : Json → Option α
  /-- The fields of an entry written at a time, given as its ISO text. -/
  fields : τ → String → Json → List (PyString × Json)
  compared_key : ∀ t, ("cache_key", cacheKey t) ∈ compared t
  fields_key : ∀ t iso payload, getField (fields t iso payload) "cache_key" = .str (cacheKey t)
  fields_time : ∀ t iso payload, getField (fields t iso payload) "cached_at" = .str iso
  fields_payload : ∀ t iso payload, getField (fields t iso payload) payloadField = payload

namespace EntryCache
variable {ρ τ α : Type} (env : CacheEnv) (cache : EntryCache ρ τ α)

/-- The name of the file of a key, without its directory (Python `_path_for_key`). -/
def fileName (target : τ) : String :=
  env.sha256 (cache.cacheKey target)

/-- Python `_is_expired`. -/
def isExpired (now : ℤ) (fields : List (PyString × Json)) : Bool :=
  match (getField fields "cached_at").string? with
  | none => true
  | some text =>
    match env.fromIso text with
    | none => true
    | some timestamp => cache.ttl < now - timestamp

/-- What `get` makes of a tree it has read. -/
def judge (now : ℤ) (target : τ) (raw : Json) : Lookup α :=
  match raw.dict? with
  | none => .miss .readError
  | some fields =>
    if !pyEq (getField fields "schema_version") (.int cache.schemaVersion) then .miss .unsupportedSchema
    else if (cache.compared target).any fun entry => !pyEq (getField fields entry.1) (.str entry.2) then
      .miss .readError
    else if cache.cacheKeyKind target = "ttl" && cache.isExpired env now fields then .miss .expired
    else
      match (getField fields cache.payloadField).dict? with
      | none => .miss .readError
      | some _ =>
        match cache.validate (getField fields cache.payloadField) with
        | none => .miss .readError
        | some value => .hit value

/-- Python `get`. -/
def get (files : CacheFiles) (now : ℤ) (request : ρ) : Except Escaped (Lookup α) :=
  match cache.target request with
  | none => .ok (.miss .absent)
  | some target =>
    match files (cache.fileName env target) with
    | .absent => .ok (.miss .absent)
    | .refused => .ok (.miss .readError)
    | .bytes content =>
      match decodeUtf8 content with
      | .error _ => .error .notUtf8
      | .ok text =>
        match env.loads text with
        | .malformed => .ok (.miss .readError)
        | .raises => .error .loads
        | .tree raw => .ok (cache.judge env now target raw)

/-- The entry of a value. -/
def entry (now : ℤ) (target : τ) (value : α) : Json :=
  .obj (cache.fields target (env.isoFormat now) (cache.dump value))

/-- Python `put`. A write that the operating system refuses leaves the directory as it was. -/
def put (files : CacheFiles) (now : ℤ) (request : ρ) (value : α) (refused : Bool) : CacheFiles :=
  match cache.target request with
  | none => files
  | some target =>
    if refused then files
    else
      Function.update files (cache.fileName env target)
        (.bytes (env.dumps (cache.entry env now target value)))

end EntryCache

/-- A call of a cache at some time. -/
inductive CacheCall (ρ α : Type)
  | put (now : ℤ) (request : ρ) (value : α) (refused : Bool)
  | get (now : ℤ) (request : ρ)

namespace EntryCache
variable {ρ τ α : Type} (env : CacheEnv) (cache : EntryCache ρ τ α)

/-- The directory after a call; a lookup leaves it as it is. -/
def step (files : CacheFiles) : CacheCall ρ α → CacheFiles
  | .put now request value refused => cache.put env files now request value refused
  | .get _ _ => files

/-- The directory after some calls, empty before them. -/
def run (calls : List (CacheCall ρ α)) : CacheFiles :=
  calls.foldl (cache.step env) fun _ => .absent

/-- An entry that is written is read back as it was, up to the order of its keys: its time, and its value as
what is stored of it. -/
structure RoundTrips (stored : α → α) (now : ℤ) (target : τ) (value : α) : Prop where
  decoded : ∃ text, decodeUtf8 (env.dumps (cache.entry env now target value)) = .ok text ∧
    env.loads text = .tree (sortKeys (cache.entry env now target value))
  timed : env.fromIso (env.isoFormat now) = some now
  validated : cache.validate (sortKeys (cache.dump value)) = some (stored value)

variable {env cache} {files : CacheFiles} {now : ℤ} {request : ρ} {target : τ} {value : α}
  {calls : List (CacheCall ρ α)}

/-- A lookup returns exactly where the file of the entry can be decoded. -/
lemma get_eq_ok_iff : (∃ found, cache.get env files now request = .ok found) ↔
    ∀ target, cache.target request = some target →
      (files (cache.fileName env target)).Decodable env := by
  rw [get]
  cases cache.target request with
  | none => exact iff_of_true ⟨_, rfl⟩ fun target eq => absurd eq (Option.some_ne_none target).symm
  | some target =>
    simp only [Option.some.injEq, forall_eq']
    cases files (cache.fileName env target) with
    | absent => exact iff_of_true ⟨_, rfl⟩ fun content eq => absurd eq EntryFile.noConfusion
    | refused => exact iff_of_true ⟨_, rfl⟩ fun content eq => absurd eq EntryFile.noConfusion
    | bytes content =>
      rw [EntryFile.Decodable]
      simp only [EntryFile.bytes.injEq, forall_eq']
      cases decodeUtf8 content with
      | error reason =>
        refine iff_of_false ?_ ?_
        · rintro ⟨found, eq⟩
          cases eq
        · rintro ⟨text, eq, _⟩
          cases eq
      | ok text =>
        simp only [Except.ok.injEq, exists_eq_left']
        cases env.loads text with
        | tree raw => exact iff_of_true ⟨_, rfl⟩ LoadedText.noConfusion
        | malformed => exact iff_of_true ⟨_, rfl⟩ LoadedText.noConfusion
        | raises =>
          refine iff_of_false ?_ fun other => other rfl
          rintro ⟨found, eq⟩
          cases eq

/-- What it takes that a tree is served. -/
lemma judge_eq_hit {raw : Json} (hit : cache.judge env now target raw = .hit value) :
    ∃ fields, raw.dict? = some fields ∧
      (∀ entry ∈ cache.compared target, pyEq (getField fields entry.1) (.str entry.2) = true) ∧
      (cache.cacheKeyKind target = "ttl" → cache.isExpired env now fields = false) ∧
      cache.validate (getField fields cache.payloadField) = some value := by
  rw [judge] at hit
  split at hit
  · cases hit
  · rename_i fields dict
    split at hit
    · cases hit
    · split at hit
      · cases hit
      · rename_i _ same
        split at hit
        · cases hit
        · rename_i fresh
          split at hit
          · cases hit
          · split at hit
            · cases hit
            · rename_i found valid
              cases hit
              refine ⟨fields, dict, ?_, ?_, valid⟩
              · intro entry mem
                by_contra differs
                apply same
                rw [List.any_eq_true]
                refine ⟨entry, mem, ?_⟩
                rw [Bool.not_eq_true] at differs
                rw [differs]
                rfl
              · intro ttl
                rw [ttl] at fresh
                simpa using fresh

/-- A value that is served was read from a file. -/
lemma get_eq_hit (hit : cache.get env files now request = .ok (.hit value)) :
    ∃ target content text raw, cache.target request = some target ∧
      files (cache.fileName env target) = .bytes content ∧ decodeUtf8 content = .ok text ∧
      env.loads text = .tree raw ∧ cache.judge env now target raw = .hit value := by
  rw [get] at hit
  cases targeted : cache.target request with
  | none =>
    rw [targeted] at hit
    cases hit
  | some target =>
    rw [targeted] at hit
    dsimp only at hit
    cases file : files (cache.fileName env target) with
    | absent =>
      rw [file] at hit
      cases hit
    | refused =>
      rw [file] at hit
      cases hit
    | bytes content =>
      rw [file] at hit
      dsimp only at hit
      cases decoded : decodeUtf8 content with
      | error reason =>
        rw [decoded] at hit
        cases hit
      | ok text =>
        rw [decoded] at hit
        dsimp only at hit
        cases loaded : env.loads text with
        | malformed =>
          rw [loaded] at hit
          cases hit
        | raises =>
          rw [loaded] at hit
          cases hit
        | tree raw =>
          rw [loaded] at hit
          exact ⟨target, content, text, raw, rfl, file, decoded, loaded, Except.ok.inj hit⟩

/-- A value that is served was validated. -/
lemma validated_of_hit (hit : cache.get env files now request = .ok (.hit value)) :
    ∃ payload, cache.validate payload = some value := by
  obtain ⟨target, content, text, raw, _, _, _, _, judged⟩ := get_eq_hit hit
  obtain ⟨fields, _, _, _, valid⟩ := judge_eq_hit judged
  exact ⟨_, valid⟩

variable (env cache) in
/-- The file was written by one of the calls. -/
def WrittenBy (calls : List (CacheCall ρ α)) (name : String) (content : List UInt8) : Prop :=
  ∃ time request value target, .put time request value false ∈ calls ∧
    cache.target request = some target ∧ name = cache.fileName env target ∧
    content = env.dumps (cache.entry env time target value)

/-- What one trace of calls wrote, a longer trace wrote too. -/
lemma WrittenBy.mono {calls' : List (CacheCall ρ α)} {name : String} {content : List UInt8}
    (written : WrittenBy env cache calls name content) (more : calls ⊆ calls') :
    WrittenBy env cache calls' name content := by
  obtain ⟨time, request, value, target, mem, rest⟩ := written
  exact ⟨time, request, value, target, more mem, rest⟩

/-- What a call leaves behind was there or is written by it. -/
lemma step_bytes {call : CacheCall ρ α} {name : String} {content : List UInt8}
    (there : cache.step env files call name = .bytes content) :
    files name = .bytes content ∨ WrittenBy env cache [call] name content := by
  cases call with
  | get time request => exact .inl there
  | put time request value refused =>
    rw [step, put] at there
    cases targeted : cache.target request with
    | none =>
      rw [targeted] at there
      exact .inl there
    | some target =>
      rw [targeted] at there
      cases refused with
      | true => exact .inl there
      | false =>
        by_cases same : name = cache.fileName env target
        · subst same
          have written : EntryFile.bytes (env.dumps (cache.entry env time target value)) =
              .bytes content := (Function.update_self _ _ _).symm.trans there
          cases written
          exact .inr ⟨time, request, value, target, List.mem_singleton_self _, targeted, rfl, rfl⟩
        · exact .inl ((Function.update_of_ne same _ _).symm.trans there)

/-- Every file of a run was written by a call of it. -/
lemma run_bytes {name : String} {content : List UInt8}
    (there : cache.run env calls name = .bytes content) :
    WrittenBy env cache calls name content := by
  induction calls using List.reverseRecOn with
  | nil => cases there
  | append_singleton calls call ih =>
    rw [run, List.foldl_append] at there
    rcases step_bytes there with earlier | now
    · exact (ih earlier).mono (List.subset_append_left _ _)
    · exact now.mono (List.subset_append_right _ _)

/-- What a lookup serves after some calls was put under the same key by one of them, no longer ago than the
time to live where the key names no revision. -/
theorem hit_of_run {stored : α → α}
    (roundTrips : ∀ time request value target, .put time request value false ∈ calls →
      cache.target request = some target → cache.RoundTrips env stored time target value)
    (hit : cache.get env (cache.run env calls) now request = .ok (.hit value)) :
    ∃ target time request' value' target', cache.target request = some target ∧
      .put time request' value' false ∈ calls ∧ cache.target request' = some target' ∧
      cache.cacheKey target' = cache.cacheKey target ∧ stored value' = value ∧
      (cache.cacheKeyKind target = "ttl" → now - time ≤ cache.ttl) := by
  obtain ⟨target, content, text, raw, targeted, file, decoded, loaded, judged⟩ := get_eq_hit hit
  obtain ⟨time, request', value', target', put, targeted', _, rfl⟩ := run_bytes file
  obtain ⟨⟨text', decoded', loaded'⟩, timed, validated⟩ :=
    roundTrips time request' value' target' put targeted'
  cases decoded.symm.trans decoded'
  cases loaded.symm.trans loaded'
  obtain ⟨fields, dict, same, fresh, valid⟩ := judge_eq_hit judged
  rw [entry, sortKeys] at dict
  cases dict
  refine ⟨target, time, request', value', target', targeted, put, targeted', ?_, ?_, ?_⟩
  · have key := same _ (cache.compared_key target)
    rw [getField_sortFields, cache.fields_key, pyEq_str] at key
    exact PyString.text.inj (Json.str.inj key)
  · rw [getField_sortFields, cache.fields_payload, validated] at valid
    exact Option.some.inj valid
  · intro ttl
    have young := fresh ttl
    rw [isExpired, getField_sortFields, cache.fields_time, sortKeys] at young
    dsimp only [Json.string?] at young
    rw [timed] at young
    exact not_lt.mp (of_decide_eq_false young)

/-- A lookup returns exactly where the file of the entry can be decoded, and then nothing or a validated
value; what it serves after some calls is what was put under the same key, no longer ago than the time to
live where the key names no revision. -/
structure Reliable (env : CacheEnv) (cache : EntryCache ρ τ α) (stored : α → α)
    (calls : List (CacheCall ρ α)) : Prop where
  returns : ∀ files now request, (∃ found, cache.get env files now request = .ok found) ↔
    ∀ target, cache.target request = some target →
      (files (cache.fileName env target)).Decodable env
  validated : ∀ files now request value, cache.get env files now request = .ok (.hit value) →
    ∃ payload, cache.validate payload = some value
  put : ∀ now request value, cache.get env (cache.run env calls) now request = .ok (.hit value) →
    ∃ target time request' value' target', cache.target request = some target ∧
      .put time request' value' false ∈ calls ∧ cache.target request' = some target' ∧
      cache.cacheKey target' = cache.cacheKey target ∧ stored value' = value ∧
      (cache.cacheKeyKind target = "ttl" → now - time ≤ cache.ttl)

/-- A cache whose puts all come back is reliable. -/
lemma reliable {stored : α → α}
    (roundTrips : ∀ time request value target, .put time request value false ∈ calls →
      cache.target request = some target → cache.RoundTrips env stored time target value) :
    cache.Reliable env stored calls where
  returns _ _ _ := get_eq_ok_iff
  validated _ _ _ _ hit := validated_of_hit hit
  put _ _ _ hit := hit_of_run roundTrips hit

end EntryCache

end Jaull.Adapters
