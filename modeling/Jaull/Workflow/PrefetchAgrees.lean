import Jaull.Metadata.Service
import Jaull.Workflow.HeaderPrefetch

/-!
# What reading ahead changes

The headers that were read ahead are taken from the cache of headers where they would have been read from the
network. What is stored of a header is enough for the enrichment, so an estimate reads the same in every state of
the pool.
-/

namespace Jaull.Workflow
open Jaull.Adapters Jaull.Domain Jaull.Lib Jaull.Metadata

universe u

section Stored
variable {services : EnrichServices} {header : GgufHeaderMetadata} {base : Option ModelConfig}

/-- What is stored of a header merges like the header, where its architecture is not named after the tokenizer. -/
lemma merge_stored (named : namesTokenizer (header.architecture.getD "None") = false) (base : Option ModelConfig) :
    merge (some (storedHeader header)) base = merge (some header) base := by
  have key := attentionLength_stored header "key_length"
  have value := attentionLength_stored header "value_length"
  rw [named, if_neg Bool.false_ne_true] at key value
  have flags : ∀ flags headDim layers hidden heads,
      mergedFlags (some (storedHeader header)) flags headDim layers hidden heads =
        mergedFlags (some header) flags headDim layers hidden heads := by
    intro flags headDim layers hidden heads
    rw [mergedFlags, mergedFlags, value]
  rw [merge, merge]
  simp only [Option.bind_some, key, flags]
  rfl

/-- Enrichments that give an estimate the same: one configuration and one base model. One may hold what is stored
of the header of the other, and lack the warnings about its read. -/
structure SameEnriched (ahead plainly : EnrichmentResult) : Prop where
  config : ahead.enrichedConfig = plainly.enrichedConfig
  base : ahead.baseModelResolution = plainly.baseModelResolution
  header : ahead.ggufHeader = plainly.ggufHeader ∨ ahead.ggufHeader = plainly.ggufHeader.map storedHeader
  warnings : ahead.warnings.Sublist plainly.warnings

lemma SameEnriched.refl (result : EnrichmentResult) : SameEnriched result result :=
  ⟨rfl, rfl, .inl rfl, List.Sublist.refl _⟩

/-- Results of an enrichment that give an estimate the same: also whether it raises. -/
inductive SameResult : Except Escaped EnrichmentResult → Except Escaped EnrichmentResult → Prop
  | returned {ahead plainly : EnrichmentResult} (same : SameEnriched ahead plainly) :
      SameResult (.ok ahead) (.ok plainly)
  | raised (escaped : Escaped) : SameResult (.error escaped) (.error escaped)

/-- So does an outcome. -/
lemma SameResult.refl (result : Except Escaped EnrichmentResult) : SameResult result result := by
  cases result with
  | ok enriched => exact .returned (.refl enriched)
  | error escaped => exact .raised escaped

/-- What is stored of a header enriches like the header. -/
lemma enrichWith_stored (repoId : String) (named : namesTokenizer (header.architecture.getD "None") = false)
    (warnings : List String) :
    SameEnriched (enrichWith services repoId (some (storedHeader header)) [])
      (enrichWith services repoId (some header) warnings) := by
  have source : ∀ card, resolveBaseModel services.repr card (some (storedHeader header)) repoId =
      resolveBaseModel services.repr card (some header) repoId := fun _ => rfl
  constructor
  case config =>
    rw [enrichWith, enrichWith]
    dsimp only
    rw [source, merge_stored named]
  case base =>
    rw [enrichWith, enrichWith]
    exact source _
  case header => exact .inr rfl
  case warnings =>
    rw [enrichWith, enrichWith]
    dsimp only
    rw [source, merge_stored named]
    -- the warnings differ in those about the read only
    repeat apply List.Sublist.append_right
    apply List.Sublist.append_left
    exact List.nil_sublist warnings

/-- What is read of a representation depends on its repository and its first shard. -/
lemma readVariantHeader_congr {client : HttpRangeClient} {request request' : HeaderRequest} {file file' : ModelFile}
    (first : firstShard request.variant = some file) (first' : firstShard request'.variant = some file')
    (repoId : request.repoId = request'.repoId) (path : file.path = file'.path) :
    (readVariantHeader services client request.repoId request.variant).1 =
      (readVariantHeader services client request'.repoId request'.variant).1 := by
  rw [readVariantHeader, readVariantHeader, first, first']
  dsimp only
  rw [repoId, path]
  cases fetchGgufHeader headerTurns (services.hubUrl request'.repoId file'.path) client with
  | none => rfl
  | some found => rfl

/-- The header that an enrichment works with and the warnings about its read, where the cache is `get`. -/
def headerSeen (services : EnrichServices) (get : HeaderLookup) (request : HeaderRequest) :
    Except Escaped (Option GgufHeaderMetadata × List String) :=
  match get request with
  | .error escaped => .error escaped
  | .ok (.hit header) => .ok (some header, [])
  | .ok (.miss _) =>
    match services.rangeClient with
    | none => .ok (none, [])
    | some client => .ok (readVariantHeader services client request.repoId request.variant)

/-- An enrichment is that of the header it sees. -/
lemma enrich_seen (env : CacheEnv) (cache : EntryCache HeaderRequest HeaderTarget GgufHeaderMetadata)
    (files : CacheFiles) (now time : ℤ) (refused : Bool) (request : HeaderRequest) :
    (enrich services env cache files now time refused request).map Prod.fst =
      (headerSeen services (cache.get env files now) request).map fun seen =>
        enrichWith services request.repoId seen.1 seen.2 := by
  rw [enrich, headerOf, headerSeen]
  cases cache.get env files now request with
  | error escaped => rfl
  | ok found =>
    cases found with
    | hit header => rfl
    | miss reason =>
      cases services.rangeClient with
      | none => rfl
      | some client =>
        dsimp only
        cases readVariantHeader services client request.repoId request.variant with
        | mk header warnings =>
          cases header with
          | none => rfl
          | some header => rfl

end Stored

section Agreement
variable {ρ : Type u} {services : EnrichServices} {client : HttpRangeClient} {env : CacheEnv} {ttl : ℤ}
variable {dump : GgufHeaderMetadata → Json} {validate : Json → Option GgufHeaderMetadata}
variable {evaluated : List (SizedCandidate ρ)} {now later : ℤ} {files : CacheFiles} {jobs : List HeaderRequest}
variable {reads : HeaderReads} {maxWorkers : ℕ} {one_le : 1 ≤ maxWorkers} {state : PoolState CacheFiles ℕ}

/-- The network gives a read what it gave a job, and the entry of a header can be read back. -/
structure Steady (services : EnrichServices) (client : HttpRangeClient) (env : CacheEnv) (ttl : ℤ)
    (dump : GgufHeaderMetadata → Json) (validate : Json → Option GgufHeaderMetadata) (jobs : List HeaderRequest)
    (reads : HeaderReads) : Prop extends Storable env ttl dump validate jobs reads where
  present : services.rangeClient = some client
  read : ∀ job request header, jobs[job]? = some request → reads.header job = some header →
    (readVariantHeader services client request.repoId request.variant).1 = some header

/-- What was not served at first is not served later. -/
lemma get_missed {request : HeaderRequest} {reason : Miss}
    (missed : (ggufHeaderCache ttl dump validate).get env files now request = .ok (.miss reason)) (le : now ≤ later) :
    ∃ reason', (ggufHeaderCache ttl dump validate).get env files later request = .ok (.miss reason') := by
  have decodable := EntryCache.get_eq_ok_iff.mp ⟨_, missed⟩
  have returns : ∃ found, (ggufHeaderCache ttl dump validate).get env files later request = .ok found :=
    EntryCache.get_eq_ok_iff.mpr decodable
  obtain ⟨found, returns⟩ := returns
  cases found with
  | miss reason' => exact ⟨reason', returns⟩
  | hit header =>
    have served := get_hit_of_later le returns
    rw [missed] at served
    cases served

/-- In every state of the pool the header of a request is the one it would have been, or what is stored of it. -/
lemma headerSeen_prefetched (injective : Function.Injective env.sha256)
    (missed : missing ((ggufHeaderCache ttl dump validate).get env files now) evaluated = .ok jobs)
    (plain : ∀ request ∈ jobs, HeaderRequest.Plain request)
    (steady : Steady services client env ttl dump validate jobs reads)
    (reachable : PoolState.Reachable (headerPool env ttl dump validate jobs reads maxWorkers one_le) files 0 state)
    {request : HeaderRequest} (own : HeaderRequest.Plain request) (le : now ≤ later) :
    headerSeen services ((ggufHeaderCache ttl dump validate).get env state.shared later) request =
        headerSeen services ((ggufHeaderCache ttl dump validate).get env files later) request ∨
      ∃ job header warnings, reads.header job = some header ∧
        headerSeen services ((ggufHeaderCache ttl dump validate).get env state.shared later) request =
          .ok (some (storedHeader header), []) ∧
        headerSeen services ((ggufHeaderCache ttl dump validate).get env files later) request =
          .ok (some header, warnings) := by
  cases targeted : (ggufHeaderCache ttl dump validate).target request with
  | none =>
    left
    rw [headerSeen, headerSeen, get_congr_file fun target eq => absurd (targeted.symm.trans eq) nofun]
  | some target =>
    rcases shared_name reachable ((ggufHeaderCache ttl dump validate).fileName env target) with
      same | ⟨job, _, request', header, target', wrote⟩
    · left
      rw [headerSeen, headerSeen, get_congr_file]
      intro other targeted'
      cases targeted.symm.trans targeted'
      exact same
    · obtain ⟨key, repoId, path, kind⟩ := of_wrote injective plain own targeted wrote
      obtain ⟨reason, missed'⟩ := (unserved_eq_ok missed).2.1 request' (List.mem_of_getElem? wrote.asked)
      rw [← get_congr_key targeted wrote.targeted key kind] at missed'
      obtain ⟨reason', before⟩ := get_missed missed' le
      -- the network gives the request what it gave the job
      obtain ⟨file, first, eq⟩ := Option.map_eq_some_iff.mp targeted
      obtain ⟨file', first', eq'⟩ := Option.map_eq_some_iff.mp wrote.targeted
      subst eq eq'
      have read := steady.read job request' header wrote.asked wrote.read
      rw [← readVariantHeader_congr first first' repoId path] at read
      have plainly : headerSeen services ((ggufHeaderCache ttl dump validate).get env files later) request =
          .ok (readVariantHeader services client request.repoId request.variant) := by
        rw [headerSeen, before]
        dsimp only
        rw [steady.present]
      have found := get_wrote steady.toStorable targeted wrote key kind later
      split at found
      · -- the entry is too old already, and the header is read again
        left
        rw [plainly, headerSeen, found]
        dsimp only
        rw [steady.present]
      · right
        refine ⟨job, header, _, wrote.read, ?_, plainly.trans (congrArg Except.ok (Prod.ext read rfl))⟩
        rw [headerSeen, found]

/-- Whether and how far the headers were read ahead makes no difference to what the enrichment of a
representation gives an estimate, as long as no header names its architecture after the tokenizer. -/
theorem enrich_prefetched (injective : Function.Injective env.sha256)
    (missed : missing ((ggufHeaderCache ttl dump validate).get env files now) evaluated = .ok jobs)
    (plain : ∀ request ∈ jobs, HeaderRequest.Plain request)
    (steady : Steady services client env ttl dump validate jobs reads)
    (named : ∀ job header, reads.header job = some header →
      namesTokenizer (header.architecture.getD "None") = false)
    (reachable : PoolState.Reachable (headerPool env ttl dump validate jobs reads maxWorkers one_le) files 0 state)
    (request : HeaderRequest) (own : HeaderRequest.Plain request) (le : now ≤ later) (time time' : ℤ)
    (refused refused' : Bool) :
    SameResult
      ((enrich services env (ggufHeaderCache ttl dump validate) state.shared later time refused request).map Prod.fst)
      ((enrich services env (ggufHeaderCache ttl dump validate) files later time' refused' request).map
        Prod.fst) := by
  rw [enrich_seen, enrich_seen]
  rcases headerSeen_prefetched injective missed plain steady reachable own le with
    same | ⟨job, header, warnings, read, ahead, plainly⟩
  · rw [same]
    exact .refl _
  · rw [ahead, plainly]
    exact .returned (enrichWith_stored request.repoId (named job header read) warnings)

/-- A file that states its size, its keys not in order. -/
def labelledFile : List UInt8 :=
  writeFile [writeTextEntry "general.size_label" "7B", writeTextEntry "general.architecture" "llama"]

/-- A client that serves the prefixes of it. -/
def labelledClient : HttpRangeClient where
  fetchRange _ _ _ stop _ := .response ⟨labelledFile.take (stop + 1), true, 206⟩

/-- A hub without model cards, and a network that serves that file. -/
def labelledServices : EnrichServices where
  repr text := text
  conflictText _ := ""
  modelInfo _ := .error ""
  baseConfig _ := .notFound
  rangeClient := some labelledClient
  hubUrl _ path := path

/-- The header that is read there. -/
def labelledHeader : GgufHeaderMetadata :=
  (readVariantHeader labelledServices labelledClient oneFile.repoId oneFile.variant).1.getD {}

/-- The sample's header is read. -/
lemma read_labelled :
    (readVariantHeader labelledServices labelledClient oneFile.repoId oneFile.variant).1 = some labelledHeader := by
  have some' : (readVariantHeader labelledServices labelledClient oneFile.repoId oneFile.variant).1.isSome = true := by
    decide +kernel
  obtain ⟨header, eq⟩ := Option.isSome_iff_exists.mp some'
  rw [labelledHeader, eq]
  rfl

/-- What is written of that header. -/
def labelledDump (_ : GgufHeaderMetadata) : Json :=
  .obj [("architecture", .str "llama"), ("size_label", .str "7B"),
    ("raw_kv", .obj [("general.size_label", .str "7B"), ("general.architecture", .str "llama")])]

/-- What is read back of it, with its keys in order. -/
def labelledValidate (_ : Json) : Option GgufHeaderMetadata :=
  some
    { labelledHeader with
      rawKv := [("general.architecture", .string "llama"), ("general.size_label", .string "7B")] }

set_option maxRecDepth 4000 in
/-- What is stored of that header are the same entries in order. -/
lemma storedHeader_labelled : storedHeader labelledHeader =
    { labelledHeader with
      rawKv := [("general.architecture", .string "llama"), ("general.size_label", .string "7B")] } := by
  have parsed : labelledHeader.rawKv =
      [("general.size_label", .string "7B"), ("general.architecture", .string "llama")] := rfl
  rw [storedHeader, parsed]
  rfl

/-- A cache of such headers, for a day. -/
abbrev labelledCache : EntryCache HeaderRequest HeaderTarget GgufHeaderMetadata :=
  ggufHeaderCache 86400000000 labelledDump labelledValidate

/-- The entry of that header. -/
def labelledEntry : Json :=
  .obj (labelledCache.fields ⟨oneFile, { path := "model.gguf" }⟩ epoch (storableHeader (labelledDump labelledHeader)))

/-- Surroundings at the start of the epoch in which every file holds the entry. -/
def labelledEnv : CacheEnv where
  sha256 key := key
  loads _ := .tree (sortKeys labelledEntry)
  dumps := jsonBytes
  fromIso _ := some 0
  isoFormat _ := epoch

/-- The header is read. -/
def labelledReads : HeaderReads where
  header _ := some labelledHeader
  time _ := 0
  refused _ := false

/-- The pool after its worker put the header. -/
def labelledState : PoolState CacheFiles ℕ where
  shared := labelledCache.put labelledEnv
    (fun _ => .absent) 0 oneFile labelledHeader false
  found := 0
  next := 1
  pending := [0]
  worked := [0]
  phase := .filling

/-- Its file is missing from an empty cache. -/
lemma labelled_missing :
    missing (labelledCache.get labelledEnv
      (fun _ => .absent) 0) [oneFileCandidate] = .ok [oneFile] := by
  decide +kernel

/-- The pool reaches the state with the file read. -/
lemma labelled_reachable :
    PoolState.Reachable (headerPool labelledEnv 86400000000 labelledDump labelledValidate [oneFile]
      labelledReads 2 (by decide)) (fun _ => .absent) 0 labelledState := by
  have idle : ∀ state : PoolState CacheFiles ℕ, state.pending = [] → state.WaitReturns [] := fun state none =>
    ⟨List.nodup_nil, fun job mem => absurd mem List.not_mem_nil, fun job mem => absurd mem List.not_mem_nil,
      fun _ job mem => absurd (none ▸ mem) List.not_mem_nil⟩
  have submitted := (Relation.ReflTransGen.refl (r := PoolState.Step (headerPool labelledEnv 86400000000 labelledDump
    labelledValidate [oneFile] labelledReads 2 (by decide)))
    (a := { shared := fun _ => EntryFile.absent, found := 0 })).tail (.main false (idle _ rfl)) |>.tail
      (.main false (idle _ rfl))
  exact submitted.tail (@PoolState.Step.work _ _ _ _ 0 Nat.zero_lt_one List.not_mem_nil)

/-- Its reads are steady. -/
lemma labelled_steady :
    Steady labelledServices labelledClient labelledEnv 86400000000 labelledDump labelledValidate [oneFile]
      labelledReads := by
  have only : ∀ job request, [oneFile][job]? = some request → request = oneFile := fun job request asked =>
    List.mem_singleton.mp (List.mem_of_getElem? asked)
  refine ⟨⟨fun header => ⟨_, rfl⟩, ?_⟩, rfl, ?_⟩
  case refine_2 =>
    intro job request header asked read
    rw [only job request asked, read_labelled]
    exact read
  · intro job request header target asked read targeted
    have same : target = ⟨oneFile, { path := "model.gguf" }⟩ := by
      rw [only job request asked] at targeted
      exact (Option.some.inj targeted).symm
    have own : header = labelledHeader := (Option.some.inj read).symm
    rw [same, own]
    exact ⟨⟨_, decode_jsonBytes _, rfl⟩, rfl, congrArg some storedHeader_labelled.symm⟩

/-- `enrich_prefetched` of one file whose header its worker has put. -/
theorem enrich_prefetched_labelled :
    SameResult
      ((enrich labelledServices labelledEnv labelledCache labelledState.shared 5 5 false oneFile).map Prod.fst)
      ((enrich labelledServices labelledEnv labelledCache (fun _ => .absent) 5 5 false oneFile).map Prod.fst) := by
  refine enrich_prefetched (fun _ _ eq => eq) labelled_missing oneFile_plain labelled_steady ?_ labelled_reachable
    oneFile (oneFile_plain oneFile (List.mem_singleton_self _)) (by decide) 5 5 false false
  intro job header read
  have own : header = labelledHeader := (Option.some.inj read).symm
  rw [own]
  decide +kernel

end Agreement

section Sizes
variable {ρ : Type u} {services : EnrichServices} {client : HttpRangeClient} {env : CacheEnv} {ttl : ℤ}
variable {dump : GgufHeaderMetadata → Json} {validate : Json → Option GgufHeaderMetadata}
variable {evaluated : List (SizedCandidate ρ)} {now later : ℤ} {files : CacheFiles} {jobs : List HeaderRequest}
variable {reads : HeaderReads} {maxWorkers : ℕ} {one_le : 1 ≤ maxWorkers} {state : PoolState CacheFiles ℕ}

/-- The header of a request: the one the cache served at first, or what the network gives. -/
def headerHad (services : EnrichServices) (client : HttpRangeClient) (get : HeaderLookup) (request : HeaderRequest) :
    Option GgufHeaderMetadata :=
  match get request with
  | .ok (.hit header) => some header
  | _ => (readVariantHeader services client request.repoId request.variant).1

/-- The size that a candidate declares: the first label that the header of one of its requests states. -/
def labelHad (services : EnrichServices) (client : HttpRangeClient) (get : HeaderLookup) (item : SizedCandidate ρ) :
    Option String :=
  item.requests.findSome? fun request => (headerHad services client get request).bind fun header =>
    truthy header.sizeLabel

/-- A lookup serves a header of that size label, or nothing where there is no header. -/
structure ServesLabel (get : HeaderLookup) (request : HeaderRequest) (header : Option GgufHeaderMetadata) : Prop where
  hit : ∀ header', header = some header' →
    ∃ served, get request = .ok (.hit served) ∧ served.sizeLabel = header'.sizeLabel
  miss : header = none → ∃ reason, get request = .ok (.miss reason)

/-- The first label is that of the first header that has one. -/
lemma firstLabel_eq {get : HeaderLookup} {had : HeaderRequest → Option GgufHeaderMetadata}
    {requests : List HeaderRequest} (serves : ∀ request ∈ requests, ServesLabel get request (had request)) :
    firstLabel get requests =
      .ok (requests.findSome? fun request => (had request).bind fun header => truthy header.sizeLabel) := by
  induction requests with
  | nil => rfl
  | cons request requests ih =>
    obtain ⟨first, others⟩ := List.forall_mem_cons.mp serves
    rw [firstLabel, List.findSome?_cons]
    cases had' : had request with
    | none =>
      obtain ⟨reason, missed⟩ := first.miss had'
      rw [missed]
      exact ih others
    | some header =>
      obtain ⟨served, hit, same⟩ := first.hit header had'
      rw [hit]
      dsimp only [Option.bind_some]
      rw [same]
      cases truthy header.sizeLabel with
      | none => exact ih others
      | some label => rfl

/-- The conditions under which what was read ahead is still there: the network gives every read what it gives, no
write is refused, and nothing that was served or put gets too old. -/
structure ReadAhead (services : EnrichServices) (client : HttpRangeClient) (env : CacheEnv) (ttl : ℤ)
    (dump : GgufHeaderMetadata → Json) (validate : Json → Option GgufHeaderMetadata) (files : CacheFiles)
    (evaluated : List (SizedCandidate ρ)) (now later : ℤ) (jobs : List HeaderRequest) (reads : HeaderReads) :
    Prop where
  read : ∀ job request, jobs[job]? = some request →
    reads.header job = (readVariantHeader services client request.repoId request.variant).1
  accepted : ∀ job, reads.refused job = false
  young : ∀ job, later - reads.time job ≤ ttl
  kept : ∀ item ∈ evaluated, ∀ request ∈ item.requests, ∀ header,
    (ggufHeaderCache ttl dump validate).get env files now request = .ok (.hit header) →
    (ggufHeaderCache ttl dump validate).get env files later request = .ok (.hit header)

/-- Whoever wrote the file of a request read what the request's own job read. -/
lemma ReadAhead.header_of_wrote
    (ahead : ReadAhead services client env ttl dump validate files evaluated now later jobs reads)
    (injective : Function.Injective env.sha256) (plain : ∀ request ∈ jobs, HeaderRequest.Plain request)
    {request request' : HeaderRequest} {job job' : ℕ} (asked : jobs[job]? = some request)
    {target target' : HeaderTarget} (targeted : (ggufHeaderCache ttl dump validate).target request = some target)
    {file : EntryFile} {header : GgufHeaderMetadata}
    (wrote : WroteHeader env (ggufHeaderCache ttl dump validate) jobs reads job'
      ((ggufHeaderCache ttl dump validate).fileName env target) file request' header target') :
    reads.header job = some header := by
  obtain ⟨_, repoId, path, _⟩ := of_wrote injective plain (plain request (List.mem_of_getElem? asked)) targeted wrote
  obtain ⟨_, first, eq⟩ := Option.map_eq_some_iff.mp targeted
  obtain ⟨_, first', eq'⟩ := Option.map_eq_some_iff.mp wrote.targeted
  subst eq eq'
  rw [ahead.read job request asked, readVariantHeader_congr first first' repoId path,
    ← ahead.read job' request' wrote.asked]
  exact wrote.read

/-- After the return a lookup serves the label of a queued request: what its job read. -/
lemma servesLabel_queued (injective : Function.Injective env.sha256)
    (plain : ∀ request ∈ jobs, HeaderRequest.Plain request)
    (steady : Steady services client env ttl dump validate jobs reads)
    (ahead : ReadAhead services client env ttl dump validate files evaluated now later jobs reads) (le : now ≤ later)
    (reachable : PoolState.Reachable (headerPool env ttl dump validate jobs reads maxWorkers one_le) files 0 state)
    (returned : state.phase = .returned) {request : HeaderRequest} {job : ℕ} (asked : jobs[job]? = some request)
    {reason : Miss} (lost : (ggufHeaderCache ttl dump validate).get env files now request = .ok (.miss reason))
    {target : HeaderTarget} (targeted : (ggufHeaderCache ttl dump validate).target request = some target) :
    ServesLabel ((ggufHeaderCache ttl dump validate).get env state.shared later) request (reads.header job) := by
  have own := plain request (List.mem_of_getElem? asked)
  have sound := PoolState.sound_of_reachable reachable
  constructor
  · intro header had
    have worked : job ∈ state.worked :=
      (sound.worked_perm returned).mem_iff.mpr (List.mem_range.mpr (List.getElem?_eq_some_iff.mp asked).1)
    have writes : WrittenByJob env (ggufHeaderCache ttl dump validate) jobs reads job
        ((ggufHeaderCache ttl dump validate).fileName env target) _ :=
      ⟨request, header, target, asked, had, ahead.accepted job, targeted, rfl, rfl⟩
    obtain ⟨job', _, request', header', target', wrote⟩ :=
      @fold_written env _ jobs reads maxWorkers one_le files _ _ state.worked job worked writes
    rw [← sound.sharedOf] at wrote
    have same := ahead.header_of_wrote injective plain asked targeted wrote
    rw [had] at same
    cases same
    obtain ⟨key, _, _, kind⟩ := of_wrote injective plain own targeted wrote
    refine ⟨storedHeader header, ?_, rfl⟩
    rw [get_wrote steady.toStorable targeted wrote key kind later, if_neg]
    intro old
    rw [Bool.and_eq_true, decide_eq_true_iff, decide_eq_true_iff] at old
    exact absurd old.2 (not_lt.mpr (ahead.young job'))
  · intro none'
    rcases shared_name reachable ((ggufHeaderCache ttl dump validate).fileName env target) with
      same | ⟨job', _, request', header', target', wrote⟩
    · obtain ⟨reason', before⟩ := get_missed lost le
      refine ⟨reason', ?_⟩
      rw [← before]
      apply get_congr_file
      intro other targeted'
      cases targeted.symm.trans targeted'
      exact same
    · have some' := ahead.header_of_wrote injective plain asked targeted wrote
      rw [none'] at some'
      cases some'

/-- After the pool has returned a lookup serves every header there is. -/
lemma servesLabel_returned (injective : Function.Injective env.sha256)
    (missed : missing ((ggufHeaderCache ttl dump validate).get env files now) evaluated = .ok jobs)
    (plain : ∀ item ∈ evaluated, ∀ request ∈ item.requests, HeaderRequest.Plain request)
    (steady : Steady services client env ttl dump validate jobs reads)
    (ahead : ReadAhead services client env ttl dump validate files evaluated now later jobs reads) (le : now ≤ later)
    (reachable : PoolState.Reachable (headerPool env ttl dump validate jobs reads maxWorkers one_le) files 0 state)
    (returned : state.phase = .returned) {item : SizedCandidate ρ} (among : item ∈ evaluated)
    {request : HeaderRequest} (asks : request ∈ item.requests) :
    ServesLabel ((ggufHeaderCache ttl dump validate).get env state.shared later) request
      (headerHad services client ((ggufHeaderCache ttl dump validate).get env files now) request) := by
  obtain ⟨sub, lost, served⟩ := unserved_eq_ok missed
  have plain' : ∀ request ∈ jobs, HeaderRequest.Plain request := by
    intro request mem
    obtain ⟨item, among, asks⟩ := List.mem_flatMap.mp (sub.subset mem)
    exact plain item among request asks
  have own := plain item among request asks
  by_cases queued : request ∈ jobs
  · obtain ⟨reason, lost'⟩ := lost request queued
    obtain ⟨job, asked⟩ := List.getElem?_of_mem queued
    have read := ahead.read job request asked
    have had : headerHad services client ((ggufHeaderCache ttl dump validate).get env files now) request =
        reads.header job := by
      rw [headerHad, lost', read]
    rw [had]
    cases targeted : (ggufHeaderCache ttl dump validate).target request with
    | none =>
      have noShard : firstShard request.variant = none := Option.map_eq_none_iff.mp targeted
      rw [read, readVariantHeader, noShard]
      refine ⟨fun header' eq => absurd eq (Option.some_ne_none header').symm, fun _ => ⟨.absent, ?_⟩⟩
      rw [EntryCache.get, targeted]
    | some target =>
      exact servesLabel_queued injective plain' steady ahead le reachable returned asked lost' targeted
  · obtain ⟨header, hit⟩ := served request (List.mem_flatMap.mpr ⟨item, among, asks⟩) queued
    have later' := hit_kept injective missed plain' reachable own le (ahead.kept item among request asks header hit)
    have had : headerHad services client ((ggufHeaderCache ttl dump validate).get env files now) request =
        some header := by
      rw [headerHad, hit]
    rw [had]
    refine ⟨?_, fun none => absurd none (Option.some_ne_none header)⟩
    intro header' eq
    cases eq
    exact ⟨header, later', rfl⟩

/-- The sizes that are declared after headers were read ahead, the pool having returned, are those that the headers
state, the cached ones and those of the network, whatever the order in which they were read. -/
theorem declareSizes_prefetched (injective : Function.Injective env.sha256)
    (missed : missing ((ggufHeaderCache ttl dump validate).get env files now) evaluated = .ok jobs)
    (plain : ∀ item ∈ evaluated, ∀ request ∈ item.requests, HeaderRequest.Plain request)
    (steady : Steady services client env ttl dump validate jobs reads)
    (ahead : ReadAhead services client env ttl dump validate files evaluated now later jobs reads) (le : now ≤ later)
    (reachable : PoolState.Reachable (headerPool env ttl dump validate jobs reads maxWorkers one_le) files 0 state)
    (returned : state.phase = .returned) :
    declareSizes ((ggufHeaderCache ttl dump validate).get env state.shared later) evaluated =
      .ok (evaluated.map fun item =>
        item.declare (labelHad services client ((ggufHeaderCache ttl dump validate).get env files now) item)) := by
  have each : ∀ item ∈ evaluated,
      (declaredSize ((ggufHeaderCache ttl dump validate).get env state.shared later) item).map item.declare =
        .ok (item.declare (labelHad services client ((ggufHeaderCache ttl dump validate).get env files now) item)) := by
    intro item among
    rw [declaredSize, firstLabel_eq fun request asks =>
      servesLabel_returned injective missed plain steady ahead le reachable returned among asks]
    rfl
  rw [declareSizes, mapM_eq_ok_iff, List.forall₂_map_right_iff, List.forall₂_same]
  exact each

/-- The pool after it has returned. -/
def labelledEnd : PoolState CacheFiles ℕ :=
  { labelledState with found := 1, pending := [], finished := [0], collected := [0], phase := .returned }

/-- The pool returns with the file read. -/
lemma labelled_returned :
    PoolState.Reachable (headerPool labelledEnv 86400000000 labelledDump labelledValidate
      [oneFile] labelledReads 2 (by decide)) (fun _ => .absent) 0 labelledEnd := by
  have finished := labelled_reachable.tail (.finish (List.mem_singleton_self 0) List.not_mem_nil)
  have waited : PoolState.WaitReturns { labelledState with finished := [0] } [0] :=
    ⟨List.nodup_singleton 0, fun job mem => mem, fun job mem => mem, fun none => absurd none (List.cons_ne_nil 0 [])⟩
  have idle : PoolState.WaitReturns { labelledEnd with phase := .filling } [] :=
    ⟨List.nodup_nil, fun job mem => absurd mem List.not_mem_nil, fun job mem => absurd mem List.not_mem_nil,
      fun _ job mem => absurd mem List.not_mem_nil⟩
  exact (finished.tail (.main false waited)).tail (.main false idle)

/-- The sample's run, read ahead. -/
lemma labelled_ahead :
    ReadAhead labelledServices labelledClient labelledEnv 86400000000 labelledDump
      labelledValidate (fun _ => .absent) [oneFileCandidate] 0 5 [oneFile] labelledReads := by
  refine ⟨?_, fun _ => rfl, fun _ => ?_, ?_⟩
  · intro job request asked
    rw [List.mem_singleton.mp (List.mem_of_getElem? asked), read_labelled]
    rfl
  · change (5 : ℤ) - 0 ≤ 86400000000
    decide
  · intro item among request asks header hit
    obtain ⟨_, _, _, _, _, file, _⟩ := EntryCache.get_eq_hit hit
    cases file

/-- `declareSizes_prefetched` of one file. -/
theorem declareSizes_prefetched_labelled :
    declareSizes (labelledCache.get labelledEnv
        labelledEnd.shared 5) [oneFileCandidate] =
      .ok ([oneFileCandidate].map fun item => item.declare (labelHad labelledServices labelledClient
        (labelledCache.get labelledEnv
          (fun _ => .absent) 0) item)) := by
  refine declareSizes_prefetched (fun _ _ eq => eq) labelled_missing ?_ labelled_steady labelled_ahead (by decide)
    labelled_returned rfl
  intro item among request asks
  apply oneFile_plain
  cases List.mem_singleton.mp among
  have requests : oneFileCandidate.requests = [oneFile] := by decide +kernel
  rw [requests] at asks
  exact asks

end Sizes

end Jaull.Workflow
