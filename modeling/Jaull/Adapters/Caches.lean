import Jaull.Adapters.EntryCache
import Jaull.Domain.Enrichment
import Jaull.Lib.Dict
import Jaull.Lib.JsonFile
import Jaull.Lib.StableSort
import Mathlib.Data.String.Basic

/-!
# The caches

The two caches of `jaull/adapters/cache`: of analyses by repository and revision, and of GGUF headers by
the first shard of a variant. Both serve only what was put under the same key, but a file that is no UTF-8,
or whose JSON the decoder gives up on, is not ignored: its exception leaves the lookup.
-/

namespace Jaull.Adapters
open Jaull.Domain Jaull.Lib Jaull.Text

section Analyses

/-- What of a candidate the cache of analyses reads. A date stands as its ISO text. -/
structure RevisionedCandidate where
  repoId : String
  revisionHint : Option String := none
  lastModified : Option String := none
  deriving DecidableEq, Repr

/-- Python `_cache_key_kind` of the cache of analyses. -/
def RevisionedCandidate.cacheKeyKind (candidate : RevisionedCandidate) : String :=
  if candidate.revisionHint.any (· ≠ "") then "revision"
  else if candidate.lastModified.isSome then "last_modified"
  else "ttl"

/-- Python `_revision_hint` of the cache of analyses. -/
def RevisionedCandidate.hint (candidate : RevisionedCandidate) : String :=
  ((candidate.revisionHint.filter (· ≠ "")).or candidate.lastModified).getD "unknown"

/-- Python `_cache_key` of the cache of analyses. -/
def RevisionedCandidate.cacheKey (candidate : RevisionedCandidate) : String :=
  candidate.repoId ++ "\x00" ++ candidate.cacheKeyKind ++ "\x00" ++ candidate.hint

/-- Python `ModelAnalysisCache`; `α` stands for the analyses. -/
def modelAnalysisCache {α : Type} (ttl : ℤ) (dump : α → Json) (validate : Json → Option α) :
    EntryCache RevisionedCandidate RevisionedCandidate α where
  schemaVersion := 7
  ttl := ttl
  target := some
  cacheKey := (·.cacheKey)
  cacheKeyKind := (·.cacheKeyKind)
  compared candidate := [("repo_id", candidate.repoId), ("cache_key", candidate.cacheKey)]
  payloadField := "analysis"
  dump := dump
  validate := validate
  fields candidate iso analysis :=
    [("schema_version", .int 7), ("repo_id", .str candidate.repoId),
      ("cache_key", .str candidate.cacheKey), ("cache_key_kind", .str candidate.cacheKeyKind),
      ("revision_hint", .str candidate.hint), ("cached_at", .str iso), ("analysis", analysis)]
  compared_key _ := List.mem_cons_of_mem _ List.mem_cons_self
  fields_key _ _ _ := rfl
  fields_time _ _ _ := rfl
  fields_payload _ _ _ := rfl

end Analyses

section Headers

/-- What of an analysis and a variant the cache of headers reads. A date stands as its ISO text. -/
structure HeaderRequest where
  repoId : String
  lastModified : Option String := none
  variant : GgufVariant
  deriving DecidableEq, Repr

/-- A request, and the file whose header is cached. -/
structure HeaderTarget where
  request : HeaderRequest
  file : ModelFile
  deriving DecidableEq, Repr

/-- Python `_first_shard`. -/
def firstShard (variant : GgufVariant) : Option ModelFile :=
  (sortedBy (·.path) variant.files).head?

/-- Python `_cache_key_kind` of the cache of headers. -/
def HeaderTarget.cacheKeyKind (target : HeaderTarget) : String :=
  if target.request.lastModified.isSome then "last_modified" else "ttl"

/-- Python `_revision_hint` of the cache of headers. -/
def HeaderTarget.hint (target : HeaderTarget) : String :=
  target.request.lastModified.getD "unknown"

/-- Python `str(size_bytes)`. -/
def HeaderTarget.sizeText (target : HeaderTarget) : String :=
  (target.file.sizeBytes.map toString).getD "None"

/-- Python `_cache_key` of the cache of headers. -/
def HeaderTarget.cacheKey (target : HeaderTarget) : String :=
  "\x00".intercalate
    [target.request.repoId, target.file.path, target.sizeText, target.cacheKeyKind, target.hint]

/-- The key is of the tokenizer (Python `_UNSTORED_KV_PREFIX`). -/
def isTokenizerKey (codes : List ℕ) : Bool :=
  ("tokenizer.".toList.map Char.toNat).isPrefixOf codes

/-- Python `_storable_header`, on the dump of a header. -/
def storableHeader (dump : Json) : Json :=
  match dump with
  | .obj fields =>
    .obj (fields.map fun (name, value) =>
      match value with
      | .obj entries =>
        if name = "raw_kv" then (name, .obj (entries.filter fun entry => !isTokenizerKey entry.1.codes))
        else (name, value)
      | _ => (name, value))
  | other => other

/-- A key of the tokenizer. -/
def ofTokenizer (key : String) : Bool :=
  isTokenizerKey (key.toList.map Char.toNat)

/-- A metadata table as it is read back: a file holds each key once, with the last value that was assigned to
it, the keys are written in their order (`sort_keys=True`), and those of the tokenizer are left out. -/
def storedEntries (entries : GgufEntries) : GgufEntries :=
  sortedBy Prod.fst
    (dictComprehension Prod.fst Prod.snd (entries.filter fun entry => !ofTokenizer entry.1) [])

/-- What is stored of a header. -/
def storedHeader (header : GgufHeaderMetadata) : GgufHeaderMetadata :=
  { header with rawKv := storedEntries header.rawKv }

/-- Python `GgufHeaderCache`. -/
def ggufHeaderCache (ttl : ℤ) (dump : GgufHeaderMetadata → Json)
    (validate : Json → Option GgufHeaderMetadata) :
    EntryCache HeaderRequest HeaderTarget GgufHeaderMetadata where
  schemaVersion := 3
  ttl := ttl
  target request := (firstShard request.variant).map (HeaderTarget.mk request)
  cacheKey := (·.cacheKey)
  cacheKeyKind := (·.cacheKeyKind)
  compared target := [("cache_key", target.cacheKey)]
  payloadField := "header"
  dump header := storableHeader (dump header)
  validate := validate
  fields target iso header :=
    [("schema_version", .int 3), ("cache_key", .str target.cacheKey),
      ("cache_key_kind", .str target.cacheKeyKind), ("revision_hint", .str target.hint),
      ("repo_id", .str target.request.repoId), ("filename", .str target.file.path),
      ("size_bytes", (target.file.sizeBytes.map Json.int).getD .null), ("cached_at", .str iso),
      ("header", header)]
  compared_key _ := List.mem_cons_self
  fields_key _ _ _ := rfl
  fields_time _ _ _ := rfl
  fields_payload _ _ _ := rfl

end Headers

section Reliability
variable {α : Type} (env : CacheEnv) (ttl ttl' : ℤ) (dump : α → Json) (validate : Json → Option α) (stored : α → α)
  (dump' : GgufHeaderMetadata → Json) (validate' : Json → Option GgufHeaderMetadata)

/-- Both caches serve only what was put under the same key and is not too old, and their lookups return
exactly where the file of the entry can be decoded. An analysis is read back as `stored` says, a header
without the entries of its tokenizer. -/
theorem caches_reliable (calls : List (CacheCall RevisionedCandidate α))
    (calls' : List (CacheCall HeaderRequest GgufHeaderMetadata))
    (roundTrips : ∀ time candidate analysis target, .put time candidate analysis false ∈ calls →
      (modelAnalysisCache ttl dump validate).target candidate = some target →
        (modelAnalysisCache ttl dump validate).RoundTrips env stored time target analysis)
    (roundTrips' : ∀ time request header target, .put time request header false ∈ calls' →
      (ggufHeaderCache ttl' dump' validate').target request = some target →
        (ggufHeaderCache ttl' dump' validate').RoundTrips env storedHeader time target header) :
    (modelAnalysisCache ttl dump validate).Reliable env stored calls ∧
      (ggufHeaderCache ttl' dump' validate').Reliable env storedHeader calls' :=
  ⟨EntryCache.reliable roundTrips, EntryCache.reliable roundTrips'⟩

/-- The bytes of a JSON file. -/
def jsonBytes (value : Json) : List UInt8 :=
  encodeUtf8 (charsOf (render (.indented 2) 0 (sortKeys value)) ++ ['\n'])

/-- A candidate whose revision is not known. -/
def unrevisioned : RevisionedCandidate where
  repoId := "org/model"

/-- A cache of analyses of which nothing is kept, for a day. -/
def dayAnalyses : EntryCache RevisionedCandidate RevisionedCandidate Unit :=
  modelAnalysisCache 86400000000 (fun _ => .obj []) fun _ => some ()

/-- A header with a tokenizer entry, its keys in the order of a file. -/
def tokenizerHeader : GgufHeaderMetadata where
  architecture := some "llama"
  blockCount := some 32
  rawKv :=
    [("tokenizer.ggml.model", .string "gpt2"), ("llama.block_count", .int 32),
      ("general.architecture", .string "llama")]

/-- A request for the header of the only file of a variant. -/
def oneFile : HeaderRequest where
  repoId := "org/model"
  variant :=
    { quantization := "Q4_K_M"
      files := [{ path := "model.gguf" }]
      totalBytes := none }

/-- What is written of that header. -/
def dayDump (_ : GgufHeaderMetadata) : Json :=
  .obj [("architecture", .str "llama"), ("block_count", .int 32),
    ("raw_kv", .obj [("tokenizer.ggml.model", .str "gpt2"), ("llama.block_count", .int 32),
      ("general.architecture", .str "llama")])]

/-- What is read back of it, with its keys in order. -/
def dayValidate (_ : Json) : Option GgufHeaderMetadata :=
  some
    { architecture := some "llama"
      blockCount := some 32
      rawKv := [("general.architecture", .string "llama"), ("llama.block_count", .int 32)] }

/-- A cache of such headers, for a day. -/
def dayHeaders : EntryCache HeaderRequest HeaderTarget GgufHeaderMetadata :=
  ggufHeaderCache 86400000000 dayDump dayValidate

/-- The start of the epoch. -/
def epoch : String :=
  "1970-01-01T00:00:00+00:00"

/-- The entries of the two caches at the start of the epoch. -/
def epochEntries : Json × Json :=
  (.obj (dayAnalyses.fields unrevisioned epoch (dayAnalyses.dump ())),
    .obj (dayHeaders.fields ⟨oneFile, { path := "model.gguf" }⟩ epoch (dayHeaders.dump tokenizerHeader)))

/-- Surroundings at the start of the epoch. The first key of a file tells the two entries apart. -/
def epochEnv : CacheEnv where
  sha256 key := key
  loads text :=
    .tree (sortKeys (if text.toList[5]? = some 'a' then epochEntries.1 else epochEntries.2))
  dumps := jsonBytes
  fromIso _ := some 0
  isoFormat _ := epoch

/-- The bytes of a JSON file are its text. -/
lemma decode_jsonBytes (value : Json) : decodeUtf8 (jsonBytes value) =
    .ok (String.ofList (charsOf (render (.indented 2) 0 (sortKeys value)) ++ ['\n'])) :=
  decodeUtf8_encodeUtf8 _

/-- Which of the two entries a text is. -/
lemma loads_epochEntry (chars : List Char) : epochEnv.loads (String.ofList chars) =
    .tree (sortKeys (if chars[5]? = some 'a' then epochEntries.1 else epochEntries.2)) := by
  rw [epochEnv]
  dsimp only
  rw [String.toList_ofList]

/-- The entry of that header is read back. -/
lemma dayHeaders_roundTrips {target : HeaderTarget} (targeted : dayHeaders.target oneFile = some target) :
    dayHeaders.RoundTrips epochEnv storedHeader 0 target tokenizerHeader := by
  have target_eq : target = ⟨oneFile, { path := "model.gguf" }⟩ := (Option.some.inj targeted).symm
  subst target_eq
  refine ⟨⟨_, decode_jsonBytes _, ?_⟩, rfl, rfl⟩
  rw [loads_epochEntry, if_neg]
  · rfl
  · decide +kernel

/-- One entry in each cache; the header is read back with its keys in another order. -/
theorem caches_reliable_oneEntry :
    dayAnalyses.Reliable epochEnv id [.put 0 unrevisioned () false] ∧
      dayHeaders.Reliable epochEnv storedHeader [.put 0 oneFile tokenizerHeader false] := by
  refine caches_reliable epochEnv _ _ _ _ _ _ _ _ _ ?_ ?_
  · intro time candidate analysis target mem targeted
    cases List.mem_singleton.mp mem
    cases targeted
    refine ⟨⟨_, decode_jsonBytes _, ?_⟩, rfl, rfl⟩
    rw [loads_epochEntry, if_pos]
    · rfl
    · decide +kernel
  · intro time request header target mem targeted
    cases List.mem_singleton.mp mem
    exact dayHeaders_roundTrips targeted

/-- A byte that begins no character leaves both lookups as an exception. -/
theorem binaryEntry_escapes :
    dayAnalyses.get epochEnv (fun _ => .bytes [0xff]) 0 unrevisioned = .error .notUtf8 ∧
      dayHeaders.get epochEnv (fun _ => .bytes [0xff]) 0 oneFile = .error .notUtf8 :=
  ⟨rfl, rfl⟩

end Reliability

end Jaull.Adapters
