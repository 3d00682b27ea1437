import Jaull.Adapters.HeaderKeys
import Jaull.Domain.ExecutionPlans
import Jaull.Domain.GgufVariants
import Jaull.Lib.WorkerPool

/-!
# Reading headers ahead

Port of `jaull/workflow/header_prefetch.py`: the headers that a ranking will need are read into the cache of
headers by a pool of workers, in any order, and the sizes they declare are attached to the analyses. A pass over
the candidates takes no time.
-/

namespace Jaull.Workflow
open Jaull.Adapters Jaull.Domain Jaull.Lib

universe u

/-- An analysis, with what the cache of headers reads of its repository and the size it declares (Python
`ModelAnalysis`). -/
structure SizedAnalysis extends ModelAnalysis where
  repoId : String
  lastModified : Option String := none
  declaredSizeLabel : Option String := none
  deriving DecidableEq

/-- An evaluated candidate (Python `EvaluatedCandidate`); `rest` stands for its other fields. -/
structure SizedCandidate (ρ : Type u) where
  analysis : Option SizedAnalysis := none
  failed : Bool := false
  rest : ρ
  deriving DecidableEq

/-- What the cache of headers is asked about a representation. -/
def SizedAnalysis.request (analysis : SizedAnalysis) (variant : GgufVariant) : HeaderRequest where
  repoId := analysis.repoId
  lastModified := analysis.lastModified
  variant := variant

section Model
variable {ρ : Type u}

/-- The headers of a candidate, in the order they are looked up. -/
def SizedCandidate.requests (item : SizedCandidate ρ) : List HeaderRequest :=
  match item.analysis with
  | none => []
  | some analysis =>
    if item.failed then []
    else if analysis.classification.primaryType = .gguf then
      (preferredGgufVariants analysis.classification.ggufVariants).map analysis.request
    else []

/-- Python `header_cache.get`, where it returns. -/
abbrev HeaderLookup : Type :=
  HeaderRequest → Except Escaped (Lookup GgufHeaderMetadata)

/-- The requests that nothing is served for. -/
def unserved (get : HeaderLookup) : List HeaderRequest → Except Escaped (List HeaderRequest)
  | [] => .ok []
  | request :: rest =>
    match get request with
    | .error escaped => .error escaped
    | .ok (.hit _) => unserved get rest
    | .ok (.miss _) => (unserved get rest).map (request :: ·)

/-- Python `_missing`. -/
def missing (get : HeaderLookup) (evaluated : List (SizedCandidate ρ)) : Except Escaped (List HeaderRequest) :=
  unserved get (evaluated.flatMap (·.requests))

/-- The first size label that a header of the requests states. -/
def firstLabel (get : HeaderLookup) : List HeaderRequest → Except Escaped (Option String)
  | [] => .ok none
  | request :: rest =>
    match get request with
    | .error escaped => .error escaped
    | .ok (.miss _) => firstLabel get rest
    | .ok (.hit header) =>
      match truthy header.sizeLabel with
      | some label => .ok (some label)
      | none => firstLabel get rest

/-- Python `_declared_size`. -/
def declaredSize (get : HeaderLookup) (item : SizedCandidate ρ) : Except Escaped (Option String) :=
  firstLabel get item.requests

/-- A candidate whose analysis declares a size. -/
def SizedCandidate.declare (item : SizedCandidate ρ) : Option String → SizedCandidate ρ
  | none => item
  | some label => { item with analysis := item.analysis.map ({ · with declaredSizeLabel := some label }) }

/-- Python `declare_sizes`, with a cache. -/
def declareSizes (get : HeaderLookup) (evaluated : List (SizedCandidate ρ)) :
    Except Escaped (List (SizedCandidate ρ)) :=
  evaluated.mapM fun item => (declaredSize get item).map item.declare

/-- What the workers meet: what each job reads (nothing also where its read raises), when its header is put, and
whether the operating system refuses to write it. -/
structure HeaderReads where
  header : ℕ → Option GgufHeaderMetadata
  time : ℕ → ℤ
  refused : ℕ → Bool

/-- The pool of Python `prefetch_gguf_headers`: a job puts the header it read, and what is counted is how many
headers were read. -/
def prefetchPool (env : CacheEnv) (cache : EntryCache HeaderRequest HeaderTarget GgufHeaderMetadata)
    (jobs : List HeaderRequest) (reads : HeaderReads) (maxWorkers : ℕ) (one_le : 1 ≤ maxWorkers) :
    Pool CacheFiles ℕ where
  jobs := jobs.length
  workers := maxWorkers
  work job files :=
    match jobs[job]?, reads.header job with
    | some request, some header => cache.put env files (reads.time job) request header (reads.refused job)
    | _, _ => files
  collect count job := if (reads.header job).isSome then count + 1 else count
  one_le_workers := one_le

end Model

section Files
variable {env : CacheEnv} {cache : EntryCache HeaderRequest HeaderTarget GgufHeaderMetadata}
variable {jobs : List HeaderRequest} {reads : HeaderReads} {maxWorkers : ℕ} {one_le : 1 ≤ maxWorkers}
variable {files : CacheFiles} {state : PoolState CacheFiles ℕ} {job : ℕ} {name : String} {file : EntryFile}

variable (env cache jobs reads) in
/-- What a job writes into a file. -/
structure WroteHeader (job : ℕ) (name : String) (file : EntryFile) (request : HeaderRequest)
    (header : GgufHeaderMetadata) (target : HeaderTarget) : Prop where
  asked : jobs[job]? = some request
  read : reads.header job = some header
  written : reads.refused job = false
  targeted : cache.target request = some target
  own : name = cache.fileName env target
  entry : file = .bytes (env.dumps (cache.entry env (reads.time job) target header))

variable (env cache jobs reads) in
/-- A job writes that into a file. -/
def WrittenByJob (job : ℕ) (name : String) (file : EntryFile) : Prop :=
  ∃ request header target, WroteHeader env cache jobs reads job name file request header target

/-- A job leaves a file, or writes it. -/
lemma work_name (job : ℕ) (name : String) (files : CacheFiles) :
    (prefetchPool env cache jobs reads maxWorkers one_le).work job files name = files name ∨
      WrittenByJob env cache jobs reads job name
        ((prefetchPool env cache jobs reads maxWorkers one_le).work job files name) := by
  cases asked : jobs[job]? with
  | none =>
    left
    simp only [prefetchPool, asked]
  | some request =>
    cases read : reads.header job with
    | none =>
      left
      simp only [prefetchPool, asked, read]
    | some header =>
      have eq : (prefetchPool env cache jobs reads maxWorkers one_le).work job files =
          cache.put env files (reads.time job) request header (reads.refused job) := by
        simp only [prefetchPool, asked, read]
      rw [eq, EntryCache.put]
      cases targeted : cache.target request with
      | none => exact .inl rfl
      | some target =>
        cases refused : reads.refused job with
        | true => exact .inl rfl
        | false =>
          dsimp only
          rw [if_neg Bool.false_ne_true]
          by_cases same : name = cache.fileName env target
          · right
            rw [same, Function.update_self]
            exact ⟨request, header, target, asked, read, refused, targeted, rfl, rfl⟩
          · left
            exact Function.update_of_ne same _ _

/-- What a job writes does not depend on what was there. -/
lemma work_writes (wrote : WrittenByJob env cache jobs reads job name file) (files : CacheFiles) :
    (prefetchPool env cache jobs reads maxWorkers one_le).work job files name = file := by
  obtain ⟨request, header, target, asked, read, written, targeted, same, entry⟩ := wrote
  simp only [prefetchPool, asked, read, EntryCache.put, targeted, written, same, Function.update_self, entry,
    Bool.false_eq_true, if_false]

/-- After some jobs a file is as it was, or as one of them wrote it. -/
lemma fold_name (worked : List ℕ) (name : String) :
    worked.foldl (fun files job => (prefetchPool env cache jobs reads maxWorkers one_le).work job files) files name =
        files name ∨
      ∃ job ∈ worked, WrittenByJob env cache jobs reads job name
        (worked.foldl (fun files job => (prefetchPool env cache jobs reads maxWorkers one_le).work job files)
          files name) := by
  induction worked using List.reverseRecOn with
  | nil => exact .inl rfl
  | append_singleton worked last ih =>
    rw [List.foldl_append, List.foldl_cons, List.foldl_nil]
    rcases @work_name env cache jobs reads maxWorkers one_le last name
      (worked.foldl (fun files job => (prefetchPool env cache jobs reads maxWorkers one_le).work job files) files) with
      same | wrote
    · rw [same]
      rcases ih with same' | ⟨job, mem, wrote⟩
      · exact .inl same'
      · exact .inr ⟨job, List.mem_append_left _ mem, wrote⟩
    · exact .inr ⟨last, List.mem_append_right _ (List.mem_singleton_self _), wrote⟩

/-- A file that one of the jobs wrote is as one of them wrote it. -/
lemma fold_written (worked : List ℕ) {job : ℕ} (mem : job ∈ worked)
    (wrote : WrittenByJob env cache jobs reads job name file) :
    ∃ job ∈ worked, WrittenByJob env cache jobs reads job name
      (worked.foldl (fun files job => (prefetchPool env cache jobs reads maxWorkers one_le).work job files)
        files name) := by
  induction worked using List.reverseRecOn with
  | nil => cases mem
  | append_singleton worked last ih =>
    rw [List.foldl_append, List.foldl_cons, List.foldl_nil]
    rcases @work_name env cache jobs reads maxWorkers one_le last name
      (worked.foldl (fun files job => (prefetchPool env cache jobs reads maxWorkers one_le).work job files) files) with
      same | wrote'
    · rw [same]
      rcases List.mem_append.mp mem with mem | mem
      · obtain ⟨job, mem, wrote⟩ := ih mem
        exact ⟨job, List.mem_append_left _ mem, wrote⟩
      · -- the last job wrote the file, whatever was there
        have eq := List.mem_singleton.mp mem
        subst eq
        rw [work_writes wrote] at same
        rw [← same]
        exact ⟨job, List.mem_append_right _ (List.mem_singleton_self _), wrote⟩
    · exact ⟨last, List.mem_append_right _ (List.mem_singleton_self _), wrote'⟩

end Files

section Missing
variable {get : HeaderLookup} {requests jobs : List HeaderRequest} {request : HeaderRequest}

/-- What is left to read are the requests that nothing is served for, in their order; every lookup returned. -/
lemma unserved_eq_ok (eq : unserved get requests = .ok jobs) :
    jobs.Sublist requests ∧ (∀ request ∈ jobs, ∃ reason, get request = .ok (.miss reason)) ∧
      ∀ request ∈ requests, request ∉ jobs → ∃ header, get request = .ok (.hit header) := by
  induction requests generalizing jobs with
  | nil =>
    cases eq
    exact ⟨List.Sublist.refl _, fun request mem => absurd mem List.not_mem_nil,
      fun request mem => absurd mem List.not_mem_nil⟩
  | cons request requests ih =>
    rw [unserved] at eq
    cases asked : get request with
    | error escaped =>
      rw [asked] at eq
      cases eq
    | ok found =>
      rw [asked] at eq
      cases found with
      | hit header =>
        obtain ⟨sub, missed, served⟩ := ih eq
        refine ⟨sub.cons _, missed, ?_⟩
        intro other mem out
        rcases List.mem_cons.mp mem with same | mem
        · rw [same]
          exact ⟨header, asked⟩
        · exact served other mem out
      | miss reason =>
        obtain ⟨rest, found, rfl⟩ := exists_of_map_eq_ok eq
        obtain ⟨sub, missed, served⟩ := ih found
        refine ⟨sub.cons_cons _, ?_, ?_⟩
        · intro other mem
          rcases List.mem_cons.mp mem with same | mem
          · rw [same]
            exact ⟨reason, asked⟩
          · exact missed other mem
        · intro other mem out
          rcases List.mem_cons.mp mem with same | mem
          · exact absurd (by rw [same]; exact List.mem_cons_self) out
          · exact served other mem fun own => out (List.mem_cons_of_mem _ own)

end Missing

section Prefetching
variable {ρ : Type u} {env : CacheEnv} {ttl : ℤ} {dump : GgufHeaderMetadata → Json}
variable {validate : Json → Option GgufHeaderMetadata} {evaluated : List (SizedCandidate ρ)} {now : ℤ}
variable {files : CacheFiles} {jobs : List HeaderRequest} {reads : HeaderReads} {maxWorkers : ℕ}
variable {one_le : 1 ≤ maxWorkers} {state : PoolState CacheFiles ℕ}

/-- The file that is looked for has a name without a NUL, and so do its repository and its revision. -/
def HeaderRequest.Plain (request : HeaderRequest) : Prop :=
  ∀ file, firstShard request.variant = some file → (HeaderTarget.mk request file).Plain

variable (env ttl dump validate jobs reads maxWorkers one_le) in
/-- The pool on a cache of headers. -/
abbrev headerPool : Pool CacheFiles ℕ :=
  prefetchPool env (ggufHeaderCache ttl dump validate) jobs reads maxWorkers one_le

/-- A plain request has a plain target. -/
lemma target_plain {request : HeaderRequest} {target : HeaderTarget} (plain : HeaderRequest.Plain request)
    (targeted : (ggufHeaderCache ttl dump validate).target request = some target) : target.Plain := by
  obtain ⟨file, first, rfl⟩ := Option.map_eq_some_iff.mp targeted
  exact plain file first

/-- A job that writes the file of a request reads the file that the request asks for. -/
lemma of_wrote (injective : Function.Injective env.sha256) (plain : ∀ request ∈ jobs, HeaderRequest.Plain request)
    {request request' : HeaderRequest} (own : HeaderRequest.Plain request) {target target' : HeaderTarget}
    (targeted : (ggufHeaderCache ttl dump validate).target request = some target) {job : ℕ} {file : EntryFile}
    {header : GgufHeaderMetadata}
    (wrote : WroteHeader env (ggufHeaderCache ttl dump validate) jobs reads job
      ((ggufHeaderCache ttl dump validate).fileName env target) file request' header target') :
    target.cacheKey = target'.cacheKey ∧ target.request.repoId = target'.request.repoId ∧
      target.file.path = target'.file.path ∧ target.cacheKeyKind = target'.cacheKeyKind := by
  have key : target.cacheKey = target'.cacheKey := injective wrote.own
  have plain' := target_plain (plain request' (List.mem_of_getElem? wrote.asked)) wrote.targeted
  exact ⟨key, of_cacheKey_eq (target_plain own targeted) plain' key⟩

/-- A file of the cache is as it was, or a job wrote it. -/
lemma shared_name
    (reachable : PoolState.Reachable (headerPool env ttl dump validate jobs reads maxWorkers one_le) files 0 state)
    (name : String) :
    state.shared name = files name ∨ ∃ job ∈ state.worked,
      WrittenByJob env (ggufHeaderCache ttl dump validate) jobs reads job name (state.shared name) := by
  rw [(PoolState.sound_of_reachable reachable).sharedOf]
  exact fold_name state.worked name

/-- The entries of the headers that are read can be read back. -/
structure Storable (env : CacheEnv) (ttl : ℤ) (dump : GgufHeaderMetadata → Json)
    (validate : Json → Option GgufHeaderMetadata) (jobs : List HeaderRequest) (reads : HeaderReads) : Prop where
  dict : ∀ header, ∃ fields, dump header = .obj fields
  roundTrips : ∀ job request header target, jobs[job]? = some request → reads.header job = some header →
    (ggufHeaderCache ttl dump validate).target request = some target →
    (ggufHeaderCache ttl dump validate).RoundTrips env storedHeader (reads.time job) target header

/-- A lookup serves what is stored of the header that a job put, unless it is too old. -/
lemma get_wrote (storable : Storable env ttl dump validate jobs reads) {request request' : HeaderRequest}
    {target target' : HeaderTarget} (targeted : (ggufHeaderCache ttl dump validate).target request = some target)
    {job : ℕ} {header : GgufHeaderMetadata}
    (wrote : WroteHeader env (ggufHeaderCache ttl dump validate) jobs reads job
      ((ggufHeaderCache ttl dump validate).fileName env target)
      (files ((ggufHeaderCache ttl dump validate).fileName env target)) request' header target')
    (key : target.cacheKey = target'.cacheKey) (kind : target.cacheKeyKind = target'.cacheKeyKind) (later : ℤ) :
    (ggufHeaderCache ttl dump validate).get env files later request =
      .ok (if target'.cacheKeyKind = "ttl" && ttl < later - reads.time job then .miss .expired
        else .hit (storedHeader header)) := by
  have entry := wrote.entry
  have name : (ggufHeaderCache ttl dump validate).fileName env target =
      (ggufHeaderCache ttl dump validate).fileName env target' := congrArg env.sha256 key
  rw [name] at entry
  rw [get_congr_key targeted wrote.targeted key kind]
  exact get_written (storable.dict header)
    (storable.roundTrips job request' header target' wrote.asked wrote.read wrote.targeted) wrote.targeted entry

/-- A job read that header for the key of a target. -/
def ReadFor (jobs : List HeaderRequest) (reads : HeaderReads) (target : HeaderTarget) (job : ℕ)
    (header : GgufHeaderMetadata) : Prop :=
  ∃ request file, jobs[job]? = some request ∧ reads.header job = some header ∧ reads.refused job = false ∧
    firstShard request.variant = some file ∧ (HeaderTarget.mk request file).cacheKey = target.cacheKey

/-- What is served of the file that a job wrote. -/
lemma get_shared_of_wrote (injective : Function.Injective env.sha256)
    (plain : ∀ request ∈ jobs, HeaderRequest.Plain request)
    (storable : Storable env ttl dump validate jobs reads) {request : HeaderRequest}
    (own : HeaderRequest.Plain request) {target : HeaderTarget}
    (targeted : (ggufHeaderCache ttl dump validate).target request = some target) {job : ℕ}
    (wrote : WrittenByJob env (ggufHeaderCache ttl dump validate) jobs reads job
      ((ggufHeaderCache ttl dump validate).fileName env target)
      (files ((ggufHeaderCache ttl dump validate).fileName env target))) :
    ∃ header, ReadFor jobs reads target job header ∧ ∀ later,
      (ggufHeaderCache ttl dump validate).get env files later request =
        .ok (if target.cacheKeyKind = "ttl" && ttl < later - reads.time job then .miss .expired
          else .hit (storedHeader header)) := by
  obtain ⟨request', header, target', wrote⟩ := wrote
  obtain ⟨key, _, _, kind⟩ := of_wrote injective plain own targeted wrote
  obtain ⟨file, first, rfl⟩ := Option.map_eq_some_iff.mp wrote.targeted
  refine ⟨header, ⟨request', file, wrote.asked, wrote.read, wrote.written, first, key.symm⟩, fun later => ?_⟩
  rw [kind]
  exact get_wrote storable targeted wrote key kind later

/-- What the cache served before the pool it serves in every state of the pool. -/
lemma hit_kept (injective : Function.Injective env.sha256)
    (missed : missing ((ggufHeaderCache ttl dump validate).get env files now) evaluated = .ok jobs)
    (plain : ∀ request ∈ jobs, HeaderRequest.Plain request)
    (reachable : PoolState.Reachable (headerPool env ttl dump validate jobs reads maxWorkers one_le) files 0 state)
    {request : HeaderRequest} (own : HeaderRequest.Plain request) {later : ℤ} (le : now ≤ later)
    {header : GgufHeaderMetadata}
    (hit : (ggufHeaderCache ttl dump validate).get env files later request = .ok (.hit header)) :
    (ggufHeaderCache ttl dump validate).get env state.shared later request = .ok (.hit header) := by
  rw [← hit]
  apply get_congr_file
  intro target targeted
  rcases shared_name reachable ((ggufHeaderCache ttl dump validate).fileName env target) with
    same | ⟨job, _, request', _, target', wrote⟩
  · exact same
  · -- the job would have been served as well
    obtain ⟨key, _, _, kind⟩ := of_wrote injective plain own targeted wrote
    obtain ⟨reason, missed'⟩ := (unserved_eq_ok missed).2.1 request' (List.mem_of_getElem? wrote.asked)
    have served := get_hit_of_later le hit
    rw [get_congr_key targeted wrote.targeted key kind, missed'] at served
    cases served

/-- The number of jobs that read a header. -/
def readCount (jobs : List HeaderRequest) (reads : HeaderReads) : ℕ :=
  (List.range jobs.length).countP fun job => (reads.header job).isSome

/-- Counting while folding counts the headers. -/
lemma foldl_count (reads : HeaderReads) (count : ℕ) (order : List ℕ) :
    order.foldl (fun count job => if (reads.header job).isSome then count + 1 else count) count =
      count + order.countP fun job => (reads.header job).isSome := by
  induction order generalizing count with
  | nil => rfl
  | cons job order ih =>
    rw [List.foldl_cons, ih, List.countP_cons]
    split
    · omega
    · omega

/-- The order in which two reads are counted makes no difference. -/
lemma collect_comm (reads : HeaderReads) (count i j : ℕ) :
    (if (reads.header j).isSome then (if (reads.header i).isSome then count + 1 else count) + 1
      else if (reads.header i).isSome then count + 1 else count) =
      if (reads.header i).isSome then (if (reads.header j).isSome then count + 1 else count) + 1
      else if (reads.header j).isSome then count + 1 else count := by
  cases (reads.header i).isSome with
  | true =>
    cases (reads.header j).isSome with
    | true => rfl
    | false => rfl
  | false =>
    cases (reads.header j).isSome with
    | true => rfl
    | false => rfl

/-- What Python `prefetch_gguf_headers` keeps, whatever the order in which the reads come to their end. -/
structure Prefetches (env : CacheEnv) (ttl : ℤ) (dump : GgufHeaderMetadata → Json)
    (validate : Json → Option GgufHeaderMetadata) (files : CacheFiles) (now : ℤ) (jobs : List HeaderRequest)
    (reads : HeaderReads) (maxWorkers : ℕ) (one_le : 1 ≤ maxWorkers) : Prop where
  window : ∀ state,
    PoolState.Reachable (headerPool env ttl dump validate jobs reads maxWorkers one_le) files 0 state →
      state.inFlight.length ≤ min maxWorkers jobs.length
  /-- No read is made twice. -/
  once : ∀ state,
    PoolState.Reachable (headerPool env ttl dump validate jobs reads maxWorkers one_le) files 0 state →
      state.worked.Nodup ∧ ∀ job ∈ state.worked, job < jobs.length
  /-- A file of the cache is as it was, or holds the header of a job whose key it is for; also when the search is
  cancelled and while its last workers go on. -/
  written : ∀ state,
    PoolState.Reachable (headerPool env ttl dump validate jobs reads maxWorkers one_le) files 0 state →
      ∀ name, state.shared name = files name ∨ ∃ job ∈ state.worked,
        WrittenByJob env (ggufHeaderCache ttl dump validate) jobs reads job name (state.shared name)
  kept : ∀ state,
    PoolState.Reachable (headerPool env ttl dump validate jobs reads maxWorkers one_le) files 0 state →
      ∀ request later header, HeaderRequest.Plain request → now ≤ later →
        (ggufHeaderCache ttl dump validate).get env files later request = .ok (.hit header) →
        (ggufHeaderCache ttl dump validate).get env state.shared later request = .ok (.hit header)
  /-- What a lookup serves beyond that is what is stored of a header that a job read for its key. -/
  served : ∀ state,
    PoolState.Reachable (headerPool env ttl dump validate jobs reads maxWorkers one_le) files 0 state →
      ∀ request later header, HeaderRequest.Plain request →
        (ggufHeaderCache ttl dump validate).get env state.shared later request = .ok (.hit header) →
        (ggufHeaderCache ttl dump validate).get env files later request = .ok (.hit header) ∨
          ∃ target job header', (ggufHeaderCache ttl dump validate).target request = some target ∧
            job ∈ state.worked ∧ ReadFor jobs reads target job header' ∧ header = storedHeader header'
  /-- When it returns, each job was read exactly once, and the count is that of the headers that were read. -/
  returned : ∀ state,
    PoolState.Reachable (headerPool env ttl dump validate jobs reads maxWorkers one_le) files 0 state →
      state.phase = .returned →
        state.worked.Perm (List.range jobs.length) ∧ state.found = readCount jobs reads
  /-- Each header that was read and written is then found under its key, or that of another job of the key, until
  it is too old. -/
  found : ∀ state,
    PoolState.Reachable (headerPool env ttl dump validate jobs reads maxWorkers one_le) files 0 state →
      state.phase = .returned → ∀ request target, HeaderRequest.Plain request →
        (ggufHeaderCache ttl dump validate).target request = some target →
        (∃ job header, ReadFor jobs reads target job header) →
        ∃ job header, ReadFor jobs reads target job header ∧ ∀ later,
          (ggufHeaderCache ttl dump validate).get env state.shared later request =
            .ok (if target.cacheKeyKind = "ttl" && ttl < later - reads.time job then .miss .expired
              else .hit (storedHeader header))
  /-- There is an end where every read comes to its end. -/
  ends : ∀ run, Behaviour (PoolState.Step (headerPool env ttl dump validate jobs reads maxWorkers one_le))
      (·.ended = true) run → run 0 = { shared := files, found := 0 } →
    (∀ t job, job < (run t).next → ∃ t', job ∈ (run t').finished) → ∃ t, (run t).ended = true

/-- However the reads overlap and whenever the search is cancelled, no header is read twice, the cache only gains
entries of headers that were read, and what it served it serves as before; when it returns, each job was read and
its header is found. -/
theorem prefetch_prefetches (reads : HeaderReads) (maxWorkers : ℕ) (one_le : 1 ≤ maxWorkers)
    (injective : Function.Injective env.sha256)
    (missed : missing ((ggufHeaderCache ttl dump validate).get env files now) evaluated = .ok jobs)
    (plain : ∀ request ∈ jobs, HeaderRequest.Plain request)
    (storable : Storable env ttl dump validate jobs reads) :
    Prefetches env ttl dump validate files now jobs reads maxWorkers one_le where
  window := fun _ reachable => PoolState.length_inFlight (PoolState.sound_of_reachable reachable)
  once := by
    intro state reachable
    have sound := PoolState.sound_of_reachable reachable
    exact ⟨sound.workedOnce, fun job mem => Nat.lt_of_lt_of_le (sound.workedKnown job mem) sound.within⟩
  written := fun _ reachable name => shared_name reachable name
  kept := fun _ reachable _ _ _ own le hit => hit_kept injective missed plain reachable own le hit
  served := by
    intro state reachable request later header own hit
    cases targeted : (ggufHeaderCache ttl dump validate).target request with
    | none =>
      left
      rw [← hit]
      exact get_congr_file fun target eq => absurd (targeted.symm.trans eq) nofun
    | some target =>
      -- an entry is the one from before, or a job's
      rcases shared_name reachable ((ggufHeaderCache ttl dump validate).fileName env target) with
        same | ⟨job, mem, wrote⟩
      · left
        rw [← hit]
        apply get_congr_file
        intro other targeted'
        cases targeted.symm.trans targeted'
        exact same.symm
      · right
        obtain ⟨header', read, found⟩ := get_shared_of_wrote injective plain storable own targeted wrote
        rw [found later] at hit
        split at hit
        · cases hit
        · cases hit
          exact ⟨target, job, header', rfl, mem, read, rfl⟩
  returned := by
    intro state reachable returned
    have sound := PoolState.sound_of_reachable reachable
    refine ⟨sound.worked_perm returned, ?_⟩
    rw [sound.found_eq returned]
    · exact (foldl_count reads 0 _).trans (Nat.zero_add _)
    · exact fun i j _ _ count => collect_comm reads count i j
  found := by
    intro state reachable returned request target own targeted ⟨job, header, read⟩
    obtain ⟨request', file, asked, read, written, first, key⟩ := read
    have sound := PoolState.sound_of_reachable reachable
    have known : job < jobs.length := (List.getElem?_eq_some_iff.mp asked).1
    have worked : job ∈ state.worked := (sound.worked_perm returned).mem_iff.mpr (List.mem_range.mpr known)
    have writes : WrittenByJob env (ggufHeaderCache ttl dump validate) jobs reads job
        ((ggufHeaderCache ttl dump validate).fileName env target) _ :=
      ⟨request', header, ⟨request', file⟩, asked, read, written, congrArg (Option.map _) first,
        congrArg env.sha256 key.symm, rfl⟩
    -- every job has been worked on, and the last to write the name is read back
    obtain ⟨job', _, wrote⟩ :=
      @fold_written env _ jobs reads maxWorkers one_le files _ _ state.worked job worked writes
    rw [← sound.sharedOf] at wrote
    obtain ⟨header', read', found⟩ := get_shared_of_wrote injective plain storable own targeted wrote
    exact ⟨job', header', read', found⟩
  ends := fun _ behaviour first finishes => PoolState.ends behaviour first finishes

/-- A candidate with one representation. -/
def oneFileCandidate : SizedCandidate Unit where
  analysis := some
    { repoId := "org/model"
      classification := { primaryType := .gguf, ggufVariants := [oneFile.variant] } }
  rest := ()

/-- The header of it is read. -/
def oneFileReads : HeaderReads where
  header _ := some tokenizerHeader
  time _ := 0
  refused _ := false

lemma oneFile_missing :
    missing (dayHeaders.get epochEnv (fun _ => .absent) 0) [oneFileCandidate] = .ok [oneFile] := by
  decide +kernel

/-- Its request is plain. -/
lemma oneFile_plain : ∀ request ∈ [oneFile], HeaderRequest.Plain request := by
  intro request mem file first
  cases List.mem_singleton.mp mem
  have eq : file = { path := "model.gguf" } := (Option.some.inj first).symm
  subst eq
  exact ⟨by decide, by decide, by decide⟩

/-- Its header can be stored. -/
lemma oneFile_storable : Storable epochEnv 86400000000 dayDump dayValidate [oneFile] oneFileReads where
  dict _ := ⟨_, rfl⟩
  roundTrips := by
    intro job request header target asked read targeted
    cases List.mem_singleton.mp (List.mem_of_getElem? asked)
    cases read
    exact dayHeaders_roundTrips targeted

/-- `prefetch_prefetches` of one file, with two workers. -/
theorem prefetch_prefetches_oneFile :
    missing (dayHeaders.get epochEnv (fun _ => .absent) 0) [oneFileCandidate] = .ok [oneFile] ∧
      Prefetches epochEnv 86400000000 dayDump dayValidate (fun _ => .absent) 0 [oneFile] oneFileReads 2
        (by decide) :=
  ⟨oneFile_missing, prefetch_prefetches oneFileReads 2 (by decide) (fun _ _ eq => eq) oneFile_missing oneFile_plain
    oneFile_storable⟩

end Prefetching

end Jaull.Workflow
