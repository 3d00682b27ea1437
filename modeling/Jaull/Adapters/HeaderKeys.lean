import Jaull.Adapters.Caches
import Jaull.Lib.NumberText

/-!
# Requests that share an entry

The key of a cached header is five texts with a NUL between them. Texts without a NUL are read back from it, so two
requests share an entry only where they ask for the header of the same file, and a lookup serves both alike. The
file of an entry has the SHA-256 of the key for its name, which is taken not to collide.
-/

namespace Jaull.Adapters
open Jaull.Domain Jaull.Lib Jaull.Text

/-- The names in the key hold no NUL. -/
structure HeaderTarget.Plain (target : HeaderTarget) : Prop where
  repoId : '\x00' ∉ target.request.repoId.toList
  path : '\x00' ∉ target.file.path.toList
  hint : '\x00' ∉ target.hint.toList

section Keys
variable {target target' : HeaderTarget}

/-- Texts without the separator are read back. -/
lemma intercalate_injective {separator : Char} {texts texts' : List String} (some' : texts ≠ []) (some'' : texts' ≠ [])
    (plain : ∀ text ∈ texts, separator ∉ text.toList) (plain' : ∀ text ∈ texts', separator ∉ text.toList)
    (eq : (String.singleton separator).intercalate texts = (String.singleton separator).intercalate texts') :
    texts = texts' := by
  have parts : ∀ {texts : List String}, texts ≠ [] → (∀ text ∈ texts, separator ∉ text.toList) →
      (((String.singleton separator).intercalate texts).toList.splitOn separator) = texts.map String.toList := by
    intro texts some' plain
    rw [String.toList_intercalate, String.toList_singleton]
    apply List.splitOn_intercalate
    · intro part mem
      obtain ⟨text, own, rfl⟩ := List.mem_map.mp mem
      exact plain text own
    · exact fun none => some' (List.map_eq_nil_iff.mp none)
  have same := parts some' plain
  rw [eq, parts some'' plain'] at same
  exact (List.map_injective_iff.mpr (fun _ _ eq => String.toList_injective eq) same).symm

/-- The size's text holds no separator. -/
lemma sizeText_plain (target : HeaderTarget) : '\x00' ∉ target.sizeText.toList := by
  rw [HeaderTarget.sizeText]
  cases target.file.sizeBytes with
  | none => decide
  | some size =>
    rw [Option.map_some, Option.getD_some, toList_toString]
    exact fun mem => absurd (intText_number size _ mem) (by decide)

/-- Neither does the kind's. -/
lemma cacheKeyKind_plain (target : HeaderTarget) : '\x00' ∉ target.cacheKeyKind.toList := by
  rw [HeaderTarget.cacheKeyKind]
  split
  · decide
  · decide

/-- The texts of a key hold no NUL. -/
lemma HeaderTarget.Plain.texts (plain : target.Plain) : ∀ text ∈ [target.request.repoId, target.file.path,
    target.sizeText, target.cacheKeyKind, target.hint], '\x00' ∉ text.toList := by
  intro text mem
  simp only [List.mem_cons, List.not_mem_nil, or_false] at mem
  rcases mem with rfl | rfl | rfl | rfl | rfl
  · exact plain.repoId
  · exact plain.path
  · exact sizeText_plain target
  · exact cacheKeyKind_plain target
  · exact plain.hint

/-- Two targets of one key are the same file of the same repository. -/
lemma of_cacheKey_eq (plain : target.Plain) (plain' : target'.Plain) (eq : target.cacheKey = target'.cacheKey) :
    target.request.repoId = target'.request.repoId ∧ target.file.path = target'.file.path ∧
      target.cacheKeyKind = target'.cacheKeyKind := by
  have same := intercalate_injective (List.cons_ne_nil _ _) (List.cons_ne_nil _ _) plain.texts plain'.texts eq
  simp only [List.cons.injEq] at same
  exact ⟨same.1, same.2.1, same.2.2.2.1⟩

end Keys

section Lookups
variable {env : CacheEnv} {ttl : ℤ} {dump : GgufHeaderMetadata → Json} {validate : Json → Option GgufHeaderMetadata}
variable {files files' : CacheFiles} {now : ℤ} {request request' : HeaderRequest} {target target' : HeaderTarget}

/-- A lookup reads one file only. -/
lemma get_congr_file {ρ τ α : Type} {cache : EntryCache ρ τ α} {request : ρ}
    (same : ∀ target, cache.target request = some target →
      files (cache.fileName env target) = files' (cache.fileName env target)) :
    cache.get env files now request = cache.get env files' now request := by
  rw [EntryCache.get, EntryCache.get]
  cases targeted : cache.target request with
  | none => rfl
  | some target =>
    dsimp only
    rw [same target targeted]

/-- Two requests of one key are served alike. -/
lemma get_congr_key (targeted : (ggufHeaderCache ttl dump validate).target request = some target)
    (targeted' : (ggufHeaderCache ttl dump validate).target request' = some target')
    (key : target.cacheKey = target'.cacheKey) (kind : target.cacheKeyKind = target'.cacheKeyKind) :
    (ggufHeaderCache ttl dump validate).get env files now request =
      (ggufHeaderCache ttl dump validate).get env files now request' := by
  have name : (ggufHeaderCache ttl dump validate).fileName env target =
      (ggufHeaderCache ttl dump validate).fileName env target' := congrArg env.sha256 key
  have judge : ∀ raw, (ggufHeaderCache ttl dump validate).judge env now target raw =
      (ggufHeaderCache ttl dump validate).judge env now target' raw := by
    intro raw
    have compared : (ggufHeaderCache ttl dump validate).compared target =
        (ggufHeaderCache ttl dump validate).compared target' := congrArg (fun key => [("cache_key", key)]) key
    have kinds : (ggufHeaderCache ttl dump validate).cacheKeyKind target =
        (ggufHeaderCache ttl dump validate).cacheKeyKind target' := kind
    rw [EntryCache.judge, EntryCache.judge, compared, kinds]
  rw [EntryCache.get, EntryCache.get, targeted, targeted']
  dsimp only
  rw [name]
  cases files ((ggufHeaderCache ttl dump validate).fileName env target') with
  | absent => rfl
  | refused => rfl
  | bytes content =>
    dsimp only
    cases decodeUtf8 content with
    | error reason => rfl
    | ok text =>
      dsimp only
      cases env.loads text with
      | tree raw =>
        dsimp only
        rw [judge]
      | malformed => rfl
      | raises => rfl

/-- What is judged a hit later was one before, for an entry that is not too old gets older. -/
lemma judge_hit_of_later {ρ τ α : Type} {cache : EntryCache ρ τ α} {target : τ} {now later : ℤ} (le : now ≤ later)
    {raw : Json} {value : α} (hit : cache.judge env later target raw = .hit value) :
    cache.judge env now target raw = .hit value := by
  have fresh : ∀ fields, cache.isExpired env later fields = false → cache.isExpired env now fields = false := by
    intro fields fresh
    rw [EntryCache.isExpired] at fresh ⊢
    cases stamp : (getField fields "cached_at").string? with
    | none =>
      rw [stamp] at fresh
      cases fresh
    | some text =>
      rw [stamp] at fresh
      dsimp only at fresh ⊢
      cases time : env.fromIso text with
      | none =>
        rw [time] at fresh
        cases fresh
      | some timestamp =>
        rw [time] at fresh
        exact decide_eq_false fun old => of_decide_eq_false fresh (by omega)
  rw [EntryCache.judge] at hit ⊢
  cases dict : raw.dict? with
  | none =>
    rw [dict] at hit
    cases hit
  | some fields =>
    rw [dict] at hit
    dsimp only at hit ⊢
    split at hit
    · cases hit
    · split at hit
      · cases hit
      · split at hit
        · cases hit
        · rename_i schema compared expired
          rw [if_neg schema, if_neg compared, if_neg]
          · exact hit
          · intro stale
            apply expired
            rw [Bool.and_eq_true] at stale ⊢
            refine ⟨stale.1, ?_⟩
            by_contra fresh'
            rw [fresh fields (Bool.eq_false_of_not_eq_true fresh')] at stale
            cases stale.2

/-- What a lookup serves later it served before. -/
lemma get_hit_of_later {ρ τ α : Type} {cache : EntryCache ρ τ α} {request : ρ} {now later : ℤ} (le : now ≤ later)
    {value : α} (hit : cache.get env files later request = .ok (.hit value)) :
    cache.get env files now request = .ok (.hit value) := by
  obtain ⟨target, content, text, raw, targeted, file, decoded, loaded, judged⟩ := EntryCache.get_eq_hit hit
  rw [EntryCache.get, targeted]
  dsimp only
  rw [file]
  dsimp only
  rw [decoded]
  dsimp only
  rw [loaded]
  dsimp only
  rw [judge_hit_of_later le judged]

/-- What the cache makes of an entry that it wrote: what is stored of the header, unless it is too old. -/
lemma judge_entry {time : ℤ} {header : GgufHeaderMetadata} (dict : ∃ fields, dump header = .obj fields)
    (timed : env.fromIso (env.isoFormat time) = some time)
    (validated : validate (sortKeys (storableHeader (dump header))) = some (storedHeader header)) :
    (ggufHeaderCache ttl dump validate).judge env now target
        (sortKeys ((ggufHeaderCache ttl dump validate).entry env time target header)) =
      if target.cacheKeyKind = "ttl" && ttl < now - time then .miss .expired else .hit (storedHeader header) := by
  obtain ⟨fields, dict⟩ := dict
  obtain ⟨entries, object⟩ : ∃ entries, sortKeys (storableHeader (dump header)) = .obj entries := by
    rw [dict, storableHeader, sortKeys]
    exact ⟨_, rfl⟩
  have read := getField_sortFields ((ggufHeaderCache ttl dump validate).fields target (env.isoFormat time)
    (storableHeader (dump header)))
  have written : sortKeys ((ggufHeaderCache ttl dump validate).entry env time target header) =
      .obj (sortFields ((ggufHeaderCache ttl dump validate).fields target (env.isoFormat time)
        (storableHeader (dump header)))) := by
    rw [EntryCache.entry, sortKeys]
    rfl
  rw [written]
  generalize sortFields ((ggufHeaderCache ttl dump validate).fields target (env.isoFormat time)
    (storableHeader (dump header))) = held at read
  have stamp : getField held "cached_at" = .str (env.isoFormat time) := read "cached_at"
  have payload : getField held (ggufHeaderCache ttl dump validate).payloadField = .obj entries :=
    (read "header").trans object
  -- the checks of `get` in their order, on what `put` wrote
  have schema : (!pyEq (getField held "schema_version") (.int (ggufHeaderCache ttl dump validate).schemaVersion)) =
      false := by
    have own : getField held "schema_version" = .int 3 := read "schema_version"
    rw [own]
    rfl
  have compared : (((ggufHeaderCache ttl dump validate).compared target).any fun entry =>
      !pyEq (getField held entry.1) (.str entry.2)) = false := by
    have own : getField held "cache_key" = .str target.cacheKey := read "cache_key"
    change ((!pyEq (getField held "cache_key") (.str target.cacheKey)) || false) = false
    rw [own, pyEq_str.mpr rfl]
    rfl
  have expired : (ggufHeaderCache ttl dump validate).isExpired env now held = decide (ttl < now - time) := by
    rw [EntryCache.isExpired, stamp]
    dsimp only [Json.string?]
    rw [timed]
    rfl
  have kind : (ggufHeaderCache ttl dump validate).cacheKeyKind target = target.cacheKeyKind := rfl
  have valid : (ggufHeaderCache ttl dump validate).validate (.obj entries) = some (storedHeader header) := by
    rw [← object]
    exact validated
  rw [EntryCache.judge]
  dsimp only [Json.dict?]
  rw [schema, if_neg Bool.false_ne_true, compared, if_neg Bool.false_ne_true, expired, payload, kind]
  dsimp only
  rw [valid]

/-- An entry of the cache that is there is served as what is stored of its header, unless it is too old. -/
lemma get_written {time : ℤ} {header : GgufHeaderMetadata} (dict : ∃ fields, dump header = .obj fields)
    (roundTrips : (ggufHeaderCache ttl dump validate).RoundTrips env storedHeader time target header)
    (targeted : (ggufHeaderCache ttl dump validate).target request = some target)
    (file : files ((ggufHeaderCache ttl dump validate).fileName env target) =
      .bytes (env.dumps ((ggufHeaderCache ttl dump validate).entry env time target header))) :
    (ggufHeaderCache ttl dump validate).get env files now request =
      .ok (if target.cacheKeyKind = "ttl" && ttl < now - time then .miss .expired else .hit (storedHeader header)) := by
  obtain ⟨⟨text, decoded, loaded⟩, timed, validated⟩ := roundTrips
  rw [EntryCache.get, targeted]
  dsimp only
  rw [file]
  dsimp only
  rw [decoded]
  dsimp only
  rw [loaded]
  dsimp only
  exact congrArg Except.ok (judge_entry dict timed validated)

end Lookups

end Jaull.Adapters
