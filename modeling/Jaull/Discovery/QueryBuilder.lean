import Jaull.Discovery.Hints
import Jaull.Lib.StableSort
import Jaull.Text.Numbers

/-!
# Search queries

Port of `jaull/discovery/query_builder.py` and of `size_bands` of `jaull/discovery/candidate_filter.py`: a use case
is searched from several angles, and the sizes a machine can hold in bands, so that no popular size fills every page.
-/

namespace Jaull.Discovery
open Jaull.Domain Jaull.Lib Jaull.Text

section Model

/-- One call of `list_models` (Python `SearchQuery`). -/
structure SearchQuery where
  label : String
  search : Option String := none
  pipelineTag : Option String := none
  filterTags : List String := []
  sort : String := "downloads"
  limit : ℕ := 20
  minBillions : Option ℚ := none
  maxBillions : Option ℚ := none
  deriving DecidableEq, Repr

/-- Python `SearchQuery.cache_key`: all but the label. -/
def SearchQuery.cacheKey (query : SearchQuery) :
    Option String × Option String × List String × String × ℕ × Option ℚ × Option ℚ :=
  (query.search, query.pipelineTag, query.filterTags, query.sort, query.limit, query.minBillions, query.maxBillions)

/-- Requirements with the task that the search filters by (Python `UserRequirements`). -/
structure QueryRequirements extends SearchRequirements where
  pipelineTag : String
  deriving DecidableEq, Repr

/-- The stored value of a use case (Python `UseCase.value`). -/
def useCaseValue : UseCase → String
  | .generalChat => "general_chat"
  | .coding => "coding"
  | .documentQa => "document_qa"
  | .summarizationExtraction => "summarization_extraction"
  | .reasoning => "reasoning"
  | .batchProcessing => "batch_processing"
  | .writingTranslation => "writing_translation"

/-- Python `_USE_CASE_PHRASES`: the first phrase and the others. -/
def useCasePhrases : List (UseCase × String × List String) :=
  [(.generalChat, "instruct", ["chat", "multilingual instruct"]),
    (.coding, "coder instruct", ["code generation", "programming assistant"]),
    (.documentQa, "instruct long context", ["multilingual instruct", "question answering instruct"]),
    (.summarizationExtraction, "summarization instruct", ["information extraction instruct", "document assistant"]),
    (.reasoning, "reasoning instruct", ["math reasoning", "problem solving instruct"]),
    (.writingTranslation, "multilingual instruct", ["translation instruct", "writing assistant"])]

/-- Python `_GENERAL_INSTRUCT_USE_CASES`. -/
def generalInstructUseCases : List UseCase :=
  [.coding, .documentQa, .reasoning]

/-- Python `_FORMAT_TAGS`. -/
def formatTags : List (String × String) :=
  [("gguf", "gguf"), ("safetensors", "safetensors")]

/-- Python `_SCALE_BUCKETS`. -/
def scaleBuckets : List (ℚ × String) :=
  [(1, "tiny"), (4, "small"), (14, "medium"), (32, "large")]

/-- Python `itertools.pairwise`. -/
def pairwise {α : Type} (l : List α) : List (α × α) :=
  l.zip l.tail

/-- The smallest size that is searched. -/
def smallestBand (maxBillions : ℚ) : ℚ :=
  if needsSmallModelCoverage (some maxBillions) then 0 else largerThanSmallBillions

/-- The ends of the bands. -/
def bandEdges (maxBillions : ℚ) : List ℚ :=
  let coverSmall := needsSmallModelCoverage (some maxBillions)
  let lower := smallestBand maxBillions
  let upperBounds := scaleBuckets.map Prod.fst ++ if coverSmall then [smallModelCoverageSplitBillions] else []
  lower :: ((sortedBy id upperBounds).filter (fun upper => lower < upper && upper < maxBillions) ++ [maxBillions])

/-- Python `size_bands`. -/
def sizeBands (maxBillions : ℚ) : List (ℚ × ℚ) :=
  if maxBillions ≤ 0 then []
  else (pairwise (bandEdges maxBillions)).filter fun band => band.1 < band.2

/-- The name of a band. -/
def bandLabel (band : ℚ × ℚ) : String :=
  toString (roundHalfEven band.1) ++ "-" ++ toString (roundHalfEven band.2) ++ "B"

/-- Python `add`: a query whose key is in already is dropped. -/
def SearchQuery.addTo (queries : List SearchQuery) (query : SearchQuery) : List SearchQuery :=
  if query.cacheKey ∈ queries.map SearchQuery.cacheKey then queries else queries ++ [query]

variable (requirements : QueryRequirements) (limit : ℕ)

/-- The label of an angle. -/
def angleLabel (angle : String) : String :=
  useCaseValue requirements.useCase ++ ":" ++ angle

/-- The words that every angle but the phrases is searched with. -/
def primaryPhrase (first : String) : String :=
  if requirements.useCase ∈ generalInstructUseCases then "instruct" else first

/-- A query for some words and tags. -/
def angleQuery (angle : String) (search : String) (tags : List String) : SearchQuery where
  label := angleLabel requirements angle
  search := some search
  pipelineTag := some requirements.pipelineTag
  filterTags := tags
  limit := limit

/-- The queries of the preferred formats that have a tag. -/
def formatQueries (primary : String) : List SearchQuery :=
  requirements.preferredFormats.flatMap fun fmt =>
    (formatTags.lookup fmt).toList.map fun tag => angleQuery requirements limit fmt primary [tag]

/-- The queries of the languages that have a tag of their own. -/
def languageQueries (primary : String) : List SearchQuery :=
  (requirements.languages.filter (· ≠ "en")).map fun language =>
    angleQuery requirements limit ("lang-" ++ language) primary [language]

/-- The query of a band with the words. -/
def bandQuery (primary : String) (formatTag : Option String) (band : ℚ × ℚ) : SearchQuery :=
  { angleQuery requirements limit ("scale-" ++ bandLabel band) primary formatTag.toList with
    minBillions := some band.1
    maxBillions := some band.2 }

/-- The query of a band for every repository of the preferred format: no words, no task. -/
def openBandQuery (band : ℚ × ℚ) (tag : String) : SearchQuery where
  label := angleLabel requirements ("scale-open-" ++ bandLabel band)
  filterTags := [tag]
  limit := limit
  minBillions := some band.1
  maxBillions := some band.2

/-- The queries of the bands up to a ceiling. -/
def sizeQueries (primary : String) (billions : ℚ) : List SearchQuery :=
  if 0 < billions then
    let formatTag := requirements.preferredFormats.findSome? fun fmt => formatTags.lookup fmt
    (sizeBands billions).flatMap fun band =>
      bandQuery requirements limit primary formatTag band ::
        formatTag.toList.map (openBandQuery requirements limit band)
  else []

/-- The query for recent releases. -/
def trendingQuery (primary : String) : SearchQuery :=
  { angleQuery requirements limit "trending" primary [] with sort := "trending_score" }

/-- The queries in the order they are added, `primary` the words of the angles that are no phrases. -/
def angleQueries (phrases : List String) (primary : String) (maxBillions : Option ℚ) : List SearchQuery :=
  (phrases ++ [primary]).map (fun phrase => angleQuery requirements limit phrase phrase []) ++
    (formatQueries requirements limit primary ++ (languageQueries requirements limit primary ++
      (maxBillions.toList.flatMap (sizeQueries requirements limit primary) ++
        [trendingQuery requirements limit primary])))

/-- Python `build_queries`; the legacy use case, which is normalised when requirements are loaded, has no phrases. -/
def buildQueries (maxBillions : Option ℚ) : Option (List SearchQuery) :=
  (useCasePhrases.lookup requirements.useCase).map fun phrases =>
    (angleQueries requirements limit (phrases.1 :: phrases.2) (primaryPhrase requirements phrases.1) maxBillions).foldl
      SearchQuery.addTo []

end Model

section Bands
variable {maxBillions size : ℚ}

/-- A size between the first edge and the last lies in one of the bands. -/
lemma mem_pairwise_of_between {first last : ℚ} {rest : List ℚ} (above : first < size)
    (below : (first :: rest).getLast? = some last) (le : size ≤ last) :
    ∃ band ∈ pairwise (first :: rest), band.1 < size ∧ size ≤ band.2 := by
  induction rest generalizing first with
  | nil =>
    cases below
    exact absurd le (not_le.mpr above)
  | cons next rest ih =>
    by_cases within : size ≤ next
    · exact ⟨(first, next), List.mem_cons_self, above, within⟩
    · rw [List.getLast?_cons_cons] at below
      obtain ⟨band, mem, inside⟩ := ih (not_le.mp within) below
      exact ⟨band, List.mem_cons_of_mem _ mem, inside⟩

/-- Pairs of neighbours in a sorted list follow each other. -/
lemma pairwise_follow {l : List ℚ} (sorted : l.Pairwise (· ≤ ·)) :
    (pairwise l).Pairwise fun band later => band.2 ≤ later.1 := by
  induction l with
  | nil => exact .nil
  | cons first rest ih =>
    cases rest with
    | nil => exact .nil
    | cons next rest =>
      obtain ⟨_, sorted'⟩ := List.pairwise_cons.mp sorted
      change ((first, next) :: pairwise (next :: rest)).Pairwise _
      refine List.pairwise_cons.mpr ⟨fun band mem => ?_, ih sorted'⟩
      have own : band.1 ∈ next :: rest := (List.of_mem_zip mem).1
      rcases List.mem_cons.mp own with same | later
      · exact same ▸ le_refl _
      · exact (List.pairwise_cons.mp sorted').1 _ later

/-- The edges of the bands are sorted, from the smallest size to the ceiling. -/
lemma bandEdges_sorted (positive : 0 < maxBillions) : (bandEdges maxBillions).Pairwise (· ≤ ·) := by
  have below : smallestBand maxBillions ≤ maxBillions := by
    rw [smallestBand]
    split
    · exact le_of_lt positive
    · rename_i large
      rw [needsSmallModelCoverage, Option.any_some, Bool.and_eq_true, decide_eq_true_iff, decide_eq_true_iff,
        not_and, not_le] at large
      exact (le_of_lt (lt_of_le_of_lt (by decide +kernel) (large positive)))
  rw [bandEdges]
  refine List.pairwise_cons.mpr ⟨fun edge mem => ?_, List.pairwise_append.mpr ⟨?_, List.pairwise_singleton _ _, ?_⟩⟩
  · rcases List.mem_append.mp mem with inner | last
    · obtain ⟨_, inside⟩ := List.mem_filter.mp inner
      rw [Bool.and_eq_true, decide_eq_true_iff, decide_eq_true_iff] at inside
      exact le_of_lt inside.1
    · rw [List.mem_singleton.mp last]
      exact below
  · exact (sortedBy_pairwise id _).sublist List.filter_sublist
  · intro edge inner last mem
    obtain ⟨_, inside⟩ := List.mem_filter.mp inner
    rw [Bool.and_eq_true, decide_eq_true_iff, decide_eq_true_iff] at inside
    rw [List.mem_singleton.mp mem]
    exact le_of_lt inside.2

/-- Every size that is searched lies in a band. -/
lemma mem_sizeBands_of_between (above : smallestBand maxBillions < size) (le : size ≤ maxBillions) :
    ∃ band ∈ sizeBands maxBillions, band.1 < size ∧ size ≤ band.2 := by
  have least : 0 ≤ smallestBand maxBillions := by
    rw [smallestBand]
    split
    · exact le_refl _
    · decide +kernel
  have positive : 0 < maxBillions := lt_of_le_of_lt least (lt_of_lt_of_le above le)
  have last : (bandEdges maxBillions).getLast? = some maxBillions := by
    rw [bandEdges, ← List.cons_append, List.getLast?_append]
    rfl
  obtain ⟨band, mem, inside⟩ := mem_pairwise_of_between above last le
  refine ⟨band, ?_, inside⟩
  rw [sizeBands, if_neg (not_le.mpr positive)]
  exact List.mem_filter.mpr ⟨mem, decide_eq_true (lt_of_lt_of_le inside.1 inside.2)⟩

/-- The bands follow each other, each of them within the sizes that are searched. -/
lemma sizeBands_spec (maxBillions : ℚ) :
    ((sizeBands maxBillions).Pairwise fun band later => band.2 ≤ later.1) ∧
      ∀ band ∈ sizeBands maxBillions, smallestBand maxBillions ≤ band.1 ∧ band.1 < band.2 ∧ band.2 ≤ maxBillions := by
  rw [sizeBands]
  split
  · exact ⟨.nil, fun band mem => absurd mem List.not_mem_nil⟩
  · rename_i large
    have sorted := bandEdges_sorted (not_le.mp large)
    refine ⟨(pairwise_follow sorted).sublist List.filter_sublist, fun band mem => ?_⟩
    obtain ⟨own, width⟩ := List.mem_filter.mp mem
    obtain ⟨low, high⟩ := List.of_mem_zip own
    refine ⟨?_, of_decide_eq_true width, ?_⟩
    · rw [bandEdges] at low sorted
      rcases List.mem_cons.mp low with same | later
      · exact same ▸ le_refl _
      · exact (List.pairwise_cons.mp sorted).1 _ later
    · have within : band.2 ∈ bandEdges maxBillions := List.mem_of_mem_tail high
      rw [bandEdges] at within sorted
      rw [← List.cons_append] at within sorted
      rcases List.mem_append.mp within with earlier | last
      · exact (List.pairwise_append.mp sorted).2.2 _ earlier _ (List.mem_singleton_self _)
      · exact (List.mem_singleton.mp last) ▸ le_refl _

end Bands

/-- Two of some bands that follow each other are the same or apart. -/
lemma eq_or_apart {bands : List (ℚ × ℚ)} (follow : bands.Pairwise fun band later => band.2 ≤ later.1)
    {band band' : ℚ × ℚ} (mem : band ∈ bands) (mem' : band' ∈ bands) :
    band = band' ∨ band.2 ≤ band'.1 ∨ band'.2 ≤ band.1 := by
  induction follow with
  | nil => cases mem
  | cons later _ ih =>
    rcases List.mem_cons.mp mem with rfl | own
    · rcases List.mem_cons.mp mem' with rfl | own'
      · exact .inl rfl
      · exact .inr (.inl (later _ own'))
    · rcases List.mem_cons.mp mem' with rfl | own'
      · exact .inr (.inr (later _ own))
      · exact ih own own'

section Adding
variable {queries all : List SearchQuery} {query : SearchQuery}

/-- Queries are added once for each key. -/
lemma foldl_addTo (all queries : List SearchQuery) (distinct : (queries.map SearchQuery.cacheKey).Nodup) :
    ((all.foldl SearchQuery.addTo queries).map SearchQuery.cacheKey).Nodup ∧
      (∀ query ∈ queries ++ all, ∃ own ∈ all.foldl SearchQuery.addTo queries, own.cacheKey = query.cacheKey) ∧
      ∀ own ∈ all.foldl SearchQuery.addTo queries, own ∈ queries ++ all := by
  induction all generalizing queries with
  | nil =>
    rw [List.append_nil]
    exact ⟨distinct, fun query mem => ⟨query, mem, rfl⟩, fun own mem => mem⟩
  | cons query all ih =>
    rw [List.foldl_cons, SearchQuery.addTo]
    split
    · rename_i known
      obtain ⟨distinct', reached, from'⟩ := ih queries distinct
      refine ⟨distinct', fun other mem => ?_, fun own mem => ?_⟩
      · rcases List.mem_append.mp mem with earlier | later
        · exact reached other (List.mem_append_left _ earlier)
        · rcases List.mem_cons.mp later with rfl | later
          · obtain ⟨own, among, same⟩ := List.mem_map.mp known
            obtain ⟨kept, mem', same'⟩ := reached own (List.mem_append_left _ among)
            exact ⟨kept, mem', same'.trans same⟩
          · exact reached other (List.mem_append_right _ later)
      · rcases List.mem_append.mp (from' own mem) with earlier | later
        · exact List.mem_append_left _ earlier
        · exact List.mem_append_right _ (List.mem_cons_of_mem _ later)
    · rename_i new
      have distinct' : ((queries ++ [query]).map SearchQuery.cacheKey).Nodup := by
        rw [List.map_append, List.map_singleton, (List.perm_append_singleton _ _).nodup_iff, List.nodup_cons]
        exact ⟨new, distinct⟩
      have whole : queries ++ query :: all = queries ++ [query] ++ all := List.append_cons _ _ _
      rw [whole]
      exact ih (queries ++ [query]) distinct'

end Adding

section Coverage
variable {requirements : QueryRequirements} {limit : ℕ} {maxBillions : Option ℚ} {queries : List SearchQuery}

/-- The sizes that a query is limited to. -/
def SearchQuery.window (query : SearchQuery) : Option (ℚ × ℚ) :=
  query.minBillions.bind fun low => query.maxBillions.map fun high => (low, high)

/-- Queries that reach every angle of the requirements. -/
structure CoversAngles (requirements : QueryRequirements) (limit : ℕ) (maxBillions : Option ℚ)
    (queries : List SearchQuery) : Prop where
  /-- no page is asked for twice -/
  distinct : (queries.map SearchQuery.cacheKey).Nodup
  phrases : ∀ phrases, useCasePhrases.lookup requirements.useCase = some phrases → ∀ phrase ∈ phrases.1 :: phrases.2,
    ∃ query ∈ queries, query.search = some phrase ∧ query.filterTags = [] ∧ query.window = none
  formats : ∀ fmt ∈ requirements.preferredFormats, ∀ tag, formatTags.lookup fmt = some tag →
    ∃ query ∈ queries, query.filterTags = [tag] ∧ query.window = none
  languages : ∀ language ∈ requirements.languages, language ≠ "en" →
    ∃ query ∈ queries, query.filterTags = [language] ∧ query.window = none
  /-- every size a machine can hold is searched for on pages of its own -/
  sizes : ∀ billions, maxBillions = some billions → ∀ size, smallestBand billions < size → size ≤ billions →
    ∃ query ∈ queries, ∃ band, query.window = some band ∧ band.1 < size ∧ size ≤ band.2
  trending : ∃ query ∈ queries, query.sort = "trending_score"
  limited : ∀ query ∈ queries, query.limit = limit
  /-- nothing above the ceiling is asked for in a band -/
  bounded : ∀ query ∈ queries, ∀ band, query.window = some band →
    ∃ billions, maxBillions = some billions ∧ band.1 < band.2 ∧ band.2 ≤ billions
  /-- two bands are the same or apart -/
  apart : ∀ query ∈ queries, ∀ other ∈ queries, ∀ band band', query.window = some band → other.window = some band' →
    band = band' ∨ band.2 ≤ band'.1 ∨ band'.2 ≤ band.1

variable {primary : String} {phrases : List String} {query : SearchQuery}

/-- A query of the bands. -/
lemma of_mem_sizeQueries {billions : ℚ} (mem : query ∈ sizeQueries requirements limit primary billions) :
    query.limit = limit ∧ ∃ band ∈ sizeBands billions, query.window = some band := by
  rw [sizeQueries] at mem
  split at mem
  · obtain ⟨band, among, listed⟩ := List.mem_flatMap.mp mem
    rcases List.mem_cons.mp listed with rfl | listed
    · exact ⟨rfl, band, among, rfl⟩
    · obtain ⟨tag, _, rfl⟩ := List.mem_map.mp listed
      exact ⟨rfl, band, among, rfl⟩
  · cases mem

/-- Every query has the limit, and a window only if it is one of the bands. -/
lemma of_mem_angleQueries (mem : query ∈ angleQueries requirements limit phrases primary maxBillions) :
    query.limit = limit ∧ ∀ band, query.window = some band →
      ∃ billions, maxBillions = some billions ∧ band ∈ sizeBands billions := by
  rw [angleQueries] at mem
  simp only [List.mem_append, List.mem_singleton] at mem
  rcases mem with phrase | fmt | language | sizes | trending
  · obtain ⟨_, _, rfl⟩ := List.mem_map.mp phrase
    exact ⟨rfl, fun band own => by cases own⟩
  · obtain ⟨fmt, _, listed⟩ := List.mem_flatMap.mp fmt
    obtain ⟨_, _, rfl⟩ := List.mem_map.mp listed
    exact ⟨rfl, fun band own => by cases own⟩
  · obtain ⟨_, _, rfl⟩ := List.mem_map.mp language
    exact ⟨rfl, fun band own => by cases own⟩
  · obtain ⟨billions, given, listed⟩ := List.mem_flatMap.mp sizes
    obtain ⟨limited, band, among, window⟩ := of_mem_sizeQueries listed
    refine ⟨limited, fun band' own => ⟨billions, Option.mem_toList.mp given, ?_⟩⟩
    rw [window] at own
    cases own
    exact among
  · rw [trending]
    exact ⟨rfl, fun band own => by cases own⟩

/-- What two queries with one key ask for. -/
lemma of_cacheKey_eq {own other : SearchQuery} (same : own.cacheKey = other.cacheKey) :
    own.search = other.search ∧ own.filterTags = other.filterTags ∧ own.sort = other.sort ∧
      own.window = other.window := by
  simp only [SearchQuery.cacheKey, Prod.mk.injEq] at same
  obtain ⟨search, _, tags, sort, _, low, high⟩ := same
  refine ⟨search, tags, sort, ?_⟩
  rw [SearchQuery.window, SearchQuery.window, low, high]

/-- The queries of a request reach every angle of it: each phrase of the use case, each preferred format, each
language but English, what is trending, and every size up to the ceiling, the sizes in bands that do not overlap; and
no page is asked for twice. -/
theorem buildQueries_covers (built : buildQueries requirements limit maxBillions = some queries) :
    CoversAngles requirements limit maxBillions queries := by
  rw [buildQueries] at built
  obtain ⟨phrases, known, rfl⟩ := Option.map_eq_some_iff.mp built
  -- every angle is reached, by itself or by a query with the same cache key
  obtain ⟨distinct, reached, from'⟩ := foldl_addTo (angleQueries requirements limit (phrases.1 :: phrases.2)
    (primaryPhrase requirements phrases.1) maxBillions) [] List.nodup_nil
  rw [List.nil_append] at reached from'
  exact
    { distinct := distinct
      phrases := by
        intro phrases' known' phrase among
        rw [known] at known'
        cases known'
        have asked : angleQuery requirements limit phrase phrase [] ∈ angleQueries requirements limit
            (phrases.1 :: phrases.2) (primaryPhrase requirements phrases.1) maxBillions :=
          List.mem_append_left _ (List.mem_map.mpr ⟨phrase, List.mem_append_left _ among, rfl⟩)
        obtain ⟨own, mem, same⟩ := reached _ asked
        obtain ⟨search, tags, _, window⟩ := of_cacheKey_eq same
        exact ⟨own, mem, search, tags, window⟩
      formats := by
        intro fmt among tag own
        have listed : angleQuery requirements limit fmt (primaryPhrase requirements phrases.1) [tag] ∈
            formatQueries requirements limit (primaryPhrase requirements phrases.1) :=
          List.mem_flatMap.mpr ⟨fmt, among, List.mem_map.mpr ⟨tag, Option.mem_toList.mpr own, rfl⟩⟩
        obtain ⟨query, mem, same⟩ := reached _ (List.mem_append_right _ (List.mem_append_left _ listed))
        obtain ⟨_, tags, _, window⟩ := of_cacheKey_eq same
        exact ⟨query, mem, tags, window⟩
      languages := by
        intro language among foreign
        have listed : angleQuery requirements limit ("lang-" ++ language) (primaryPhrase requirements phrases.1)
            [language] ∈ languageQueries requirements limit (primaryPhrase requirements phrases.1) :=
          List.mem_map.mpr ⟨language, List.mem_filter.mpr ⟨among, decide_eq_true foreign⟩, rfl⟩
        obtain ⟨query, mem, same⟩ := reached _ (List.mem_append_right _ (List.mem_append_right _
          (List.mem_append_left _ listed)))
        obtain ⟨_, tags, _, window⟩ := of_cacheKey_eq same
        exact ⟨query, mem, tags, window⟩
      sizes := by
        rintro billions rfl size above le
        obtain ⟨band, among, inside⟩ := mem_sizeBands_of_between above le
        have positive : 0 < billions := by
          by_contra none
          rw [sizeBands, if_pos (not_lt.mp none)] at among
          cases among
        have listed : bandQuery requirements limit (primaryPhrase requirements phrases.1)
            (requirements.preferredFormats.findSome? fun fmt => formatTags.lookup fmt) band ∈
              sizeQueries requirements limit (primaryPhrase requirements phrases.1) billions := by
          rw [sizeQueries, if_pos positive]
          exact List.mem_flatMap.mpr ⟨band, among, List.mem_cons_self⟩
        have listed' := List.mem_flatMap.mpr ⟨billions, Option.mem_toList.mpr rfl, listed⟩
        obtain ⟨query, mem, same⟩ := reached _ (List.mem_append_right _ (List.mem_append_right _
          (List.mem_append_right _ (List.mem_append_left _ listed'))))
        obtain ⟨_, _, _, window⟩ := of_cacheKey_eq same
        exact ⟨query, mem, band, window, inside⟩
      trending := by
        obtain ⟨query, mem, same⟩ := reached _ (List.mem_append_right _ (List.mem_append_right _
          (List.mem_append_right _ (List.mem_append_right _ (List.mem_singleton_self _)))))
        exact ⟨query, mem, (of_cacheKey_eq same).2.2.1⟩
      limited := fun query mem => (of_mem_angleQueries (from' query mem)).1
      bounded := by
        intro query mem band own
        obtain ⟨billions, same, among⟩ := (of_mem_angleQueries (from' query mem)).2 band own
        exact ⟨billions, same, ((sizeBands_spec billions).2 band among).2⟩
      apart := by
        intro query mem other mem' band band' own own'
        obtain ⟨billions, same, among⟩ := (of_mem_angleQueries (from' query mem)).2 band own
        obtain ⟨billions', same', among'⟩ := (of_mem_angleQueries (from' other mem')).2 band' own'
        rw [same] at same'
        cases same'
        exact eq_or_apart (sizeBands_spec billions).1 among among' }

/-- A request for coding in French. -/
def frenchCoding : QueryRequirements where
  useCase := .coding
  priority := .balanced
  languages := ["fr", "en"]
  desiredContext := 4096
  preferredFormats := ["gguf"]
  pipelineTag := "text-generation"

/-- A French coding request covers its angles. -/
theorem buildQueries_covers_frenchCoding :
    ∃ queries, buildQueries frenchCoding 20 (some 7) = some queries ∧
      CoversAngles frenchCoding 20 (some 7) queries := by
  have built : (buildQueries frenchCoding 20 (some 7)).isSome = true := by decide +kernel
  obtain ⟨queries, same⟩ := Option.isSome_iff_exists.mp built
  exact ⟨queries, same, buildQueries_covers same⟩

end Coverage

end Jaull.Discovery
