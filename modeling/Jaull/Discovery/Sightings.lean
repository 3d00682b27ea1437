import Jaull.Discovery.Hints
import Jaull.Lib.Dict
import Mathlib.Data.List.Induction

/-!
# Sightings of a repository

Port of `ModelCandidate.merged_with` of `jaull/domain/candidates.py` and of `deduplicate` of
`jaull/discovery/candidate_filter.py`. The sightings of one repository are merged into the first. The merge
leaves out the kind, the base model, the restrictions and the penalties: these the first sighting alone decides.
-/

namespace Jaull.Discovery
open Jaull.Domain Jaull.Lib

section Model

/-- What the Hub says of the gate of a repository: a flag, or the name of a kind of gate. -/
inductive Gate
  | flag (gated : Bool)
  | kind (name : String)
  deriving DecidableEq, Repr

/-- A candidate with every field of a search page (Python `ModelCandidate`). Times are numbers. -/
structure Sighting extends SearchCandidate where
  gated : Gate := .flag false
  isPrivate : Bool := false
  repositoryType : Option RepositoryType := none
  baseModelRepoId : Option String := none
  revisionHint : Option String := none
  lastModified : Option ℤ := none
  deriving DecidableEq, Repr

/-- The truth of a gate. -/
def Gate.restricts : Gate → Bool
  | .flag gated => gated
  | .kind name => name ≠ ""

/-- The truth of an optional text. -/
def hasText (text : Option String) : Bool :=
  text.any (· ≠ "")

/-- Python `value or other`, of values that `known` tells the truth of. -/
def either {α : Type} (known : α → Bool) (value other : α) : α :=
  if known value then value else other

/-- Python `if query not in queries: queries.append(query)`. -/
def addQuery (queries : List String) (query : String) : List String :=
  if query ∈ queries then queries else queries ++ [query]

/-- Python `ModelCandidate.merged_with`. -/
def Sighting.mergedWith (sighting other : Sighting) : Sighting :=
  { sighting with
    sourceQueries := other.sourceQueries.foldl addQuery sighting.sourceQueries
    license := either hasText sighting.license other.license
    pipelineTag := either hasText sighting.pipelineTag other.pipelineTag
    libraryName := either hasText sighting.libraryName other.libraryName
    languages := either (!·.isEmpty) sighting.languages other.languages
    tags := either (!·.isEmpty) sighting.tags other.tags
    downloads := max sighting.downloads other.downloads
    likes := max sighting.likes other.likes
    revisionHint := either hasText sighting.revisionHint other.revisionHint
    lastModified := either Option.isSome sighting.lastModified other.lastModified }

/-- The merged candidates by repository, and the repositories in the order they were first seen. -/
structure SeenState where
  merged : List (String × Sighting) := []
  order : List String := []

/-- One candidate of the loop of `deduplicate`. -/
def SeenState.see (state : SeenState) (candidate : Sighting) : SeenState :=
  if candidate.repoId = "" then state
  else
    match state.merged.lookup candidate.repoId with
    | none =>
      { merged := dictSet state.merged candidate.repoId candidate
        order := state.order ++ [candidate.repoId] }
    | some existing =>
      { state with merged := dictSet state.merged candidate.repoId (existing.mergedWith candidate) }

/-- What was seen of sightings. -/
def seen (candidates : List Sighting) : SeenState :=
  candidates.foldl SeenState.see {}

/-- Python `deduplicate`. -/
def deduplicate (candidates : List Sighting) : List Sighting :=
  (seen candidates).order.filterMap fun repoId => (seen candidates).merged.lookup repoId

end Model

section Merging
variable {first : Sighting} {rest : List Sighting}

/-- Some sightings merged into one, none where there is none. -/
def mergeAll : List Sighting → Option Sighting
  | [] => none
  | first :: rest => some (rest.foldl Sighting.mergedWith first)

/-- A field that the merge leaves alone is that of the first sighting. -/
lemma foldl_mergedWith_eq {α : Type} (field : Sighting → α)
    (kept : ∀ sighting other, field (sighting.mergedWith other) = field sighting) :
    field (rest.foldl Sighting.mergedWith first) = field first := by
  induction rest generalizing first with
  | nil => rfl
  | cons other rest ih =>
    rw [List.foldl_cons, ih, kept]

/-- A field that the merge takes from either side is known where a sighting knows it. -/
lemma foldl_mergedWith_known {α : Type} (field : Sighting → α) (known : α → Bool)
    (merges : ∀ sighting other, field (sighting.mergedWith other) = either known (field sighting) (field other))
    (some : ∃ sighting ∈ first :: rest, known (field sighting) = true) :
    known (field (rest.foldl Sighting.mergedWith first)) = true := by
  induction rest generalizing first with
  | nil =>
    obtain ⟨sighting, mem, holds⟩ := some
    rw [List.mem_singleton.mp mem] at holds
    exact holds
  | cons other rest ih =>
    rw [List.foldl_cons]
    apply ih
    obtain ⟨sighting, mem, holds⟩ := some
    rcases List.mem_cons.mp mem with rfl | mem
    · refine ⟨_, List.mem_cons_self, ?_⟩
      rw [merges, either, if_pos holds]
      exact holds
    · rcases List.mem_cons.mp mem with rfl | mem
      · refine ⟨_, List.mem_cons_self, ?_⟩
        rw [merges, either]
        split
        · assumption
        · exact holds
      · exact ⟨sighting, List.mem_cons_of_mem _ mem, holds⟩

/-- A count of which the merge takes the greater is the greatest of all. -/
lemma foldl_mergedWith_max (field : Sighting → ℤ)
    (merges : ∀ sighting other, field (sighting.mergedWith other) = max (field sighting) (field other)) :
    (∃ sighting ∈ first :: rest, field sighting = field (rest.foldl Sighting.mergedWith first)) ∧
      ∀ sighting ∈ first :: rest, field sighting ≤ field (rest.foldl Sighting.mergedWith first) := by
  induction rest generalizing first with
  | nil =>
    refine ⟨⟨first, List.mem_cons_self, rfl⟩, ?_⟩
    intro sighting mem
    rw [List.mem_singleton.mp mem]
    exact Int.le_refl _
  | cons other rest ih =>
    rw [List.foldl_cons]
    obtain ⟨⟨sighting, mem, same⟩, most⟩ := @ih (first.mergedWith other)
    have merged := most _ List.mem_cons_self
    rw [merges] at merged
    refine ⟨?_, ?_⟩
    · rcases List.mem_cons.mp mem with rfl | mem
      · rw [← same, merges]
        rcases max_choice (field first) (field other) with eq | eq
        · exact ⟨first, List.mem_cons_self, eq.symm⟩
        · exact ⟨other, List.mem_cons_of_mem _ List.mem_cons_self, eq.symm⟩
      · exact ⟨sighting, List.mem_cons_of_mem _ (List.mem_cons_of_mem _ mem), same⟩
    · intro sighting mem
      rcases List.mem_cons.mp mem with rfl | mem
      · exact (le_max_left _ _).trans merged
      · rcases List.mem_cons.mp mem with rfl | mem
        · exact (le_max_right _ _).trans merged
        · exact most sighting (List.mem_cons_of_mem _ mem)

/-- The queries after one more. -/
lemma mem_addQuery {queries : List String} {query other : String} :
    query ∈ addQuery queries other ↔ query ∈ queries ∨ query = other := by
  rw [addQuery]
  split
  · rename_i there
    refine ⟨.inl, ?_⟩
    rintro (mem | rfl)
    · exact mem
    · exact there
  · rw [List.mem_append, List.mem_singleton]

/-- None is added twice. -/
lemma nodup_addQuery {queries : List String} {other : String} : (addQuery queries other).Nodup ↔ queries.Nodup := by
  rw [addQuery]
  split
  · exact Iff.rfl
  · rename_i absent
    rw [(List.perm_append_singleton other queries).nodup_iff, List.nodup_cons]
    exact and_iff_right absent

/-- Adding queries adds those that are not there yet. -/
lemma foldl_addQuery (queries others : List String) :
    (∀ query, query ∈ others.foldl addQuery queries ↔ query ∈ queries ∨ query ∈ others) ∧
      ((others.foldl addQuery queries).Nodup ↔ queries.Nodup) := by
  induction others generalizing queries with
  | nil =>
    refine ⟨?_, Iff.rfl⟩
    intro query
    rw [List.foldl_nil, or_iff_left List.not_mem_nil]
  | cons other others ih =>
    rw [List.foldl_cons]
    obtain ⟨members, nodup⟩ := ih (addQuery queries other)
    refine ⟨?_, nodup.trans nodup_addQuery⟩
    intro query
    rw [members, mem_addQuery, List.mem_cons, or_assoc]

/-- Merged sightings have the queries of all, each once if the first had. -/
lemma foldl_mergedWith_queries :
    (∀ query, query ∈ (rest.foldl Sighting.mergedWith first).sourceQueries ↔
      ∃ sighting ∈ first :: rest, query ∈ sighting.sourceQueries) ∧
      ((rest.foldl Sighting.mergedWith first).sourceQueries.Nodup ↔ first.sourceQueries.Nodup) := by
  induction rest generalizing first with
  | nil =>
    refine ⟨?_, Iff.rfl⟩
    intro query
    constructor
    · intro mem
      exact ⟨first, List.mem_cons_self, mem⟩
    · rintro ⟨sighting, mem, there⟩
      rw [List.mem_singleton.mp mem] at there
      exact there
  | cons other rest ih =>
    rw [List.foldl_cons]
    obtain ⟨members, nodup⟩ := @ih (first.mergedWith other)
    have both : (first.mergedWith other).sourceQueries = other.sourceQueries.foldl addQuery first.sourceQueries := rfl
    obtain ⟨added, nodup'⟩ := foldl_addQuery first.sourceQueries other.sourceQueries
    refine ⟨?_, ?_⟩
    · intro query
      rw [members]
      simp only [List.mem_cons, exists_eq_or_imp, both, added, or_assoc]
    · rw [nodup, both, nodup']

end Merging

section Runs
variable {sightings : List Sighting} {repoId : String}

/-- The sightings of a repository. -/
def sightingsOf (sightings : List Sighting) (repoId : String) : List Sighting :=
  sightings.filter (·.repoId = repoId)

/-- What was seen after one sighting more. -/
lemma seen_append (sightings : List Sighting) (sighting : Sighting) :
    seen (sightings ++ [sighting]) = (seen sightings).see sighting := by
  rw [seen, List.foldl_append]
  rfl

/-- A group after one sighting more. -/
lemma mergeAll_append (group : List Sighting) (sighting : Sighting) :
    mergeAll (group ++ [sighting]) =
      some ((mergeAll group).elim sighting fun existing => existing.mergedWith sighting) := by
  cases group with
  | nil => rfl
  | cons first rest =>
    rw [List.cons_append, mergeAll, List.foldl_append]
    rfl

/-- What is held of a repository is its sightings so far, merged. -/
lemma lookup_seen (sightings : List Sighting) (named : repoId ≠ "") :
    (seen sightings).merged.lookup repoId = mergeAll (sightingsOf sightings repoId) := by
  induction sightings using List.reverseRecOn with
  | nil => rfl
  | append_singleton sightings sighting ih =>
    rw [seen_append, SeenState.see, sightingsOf, List.filter_append]
    by_cases own : sighting.repoId = repoId
    · rw [List.filter_singleton, decide_eq_true own]
      subst own
      rw [if_neg named]
      change _ = mergeAll (sightingsOf sightings sighting.repoId ++ [sighting])
      rw [mergeAll_append, ← ih]
      cases (seen sightings).merged.lookup sighting.repoId with
      | none => exact lookup_dictSet_self
      | some existing => exact lookup_dictSet_self
    · rw [List.filter_singleton, decide_eq_false own]
      change _ = mergeAll (sightingsOf sightings repoId ++ [])
      rw [List.append_nil, ← ih]
      split
      · rfl
      · have apart : repoId ≠ sighting.repoId := fun same => own same.symm
        cases (seen sightings).merged.lookup sighting.repoId with
        | none => exact lookup_dictSet_ne apart
        | some existing => exact lookup_dictSet_ne apart

/-- The repositories seen, in the order of their first sightings. -/
def repositories (sightings : List Sighting) : List String :=
  ((sightings.map (·.repoId)).filter (· ≠ "")).eraseDups

/-- A repository is one that was sighted under a name. -/
lemma mem_repositories : repoId ∈ repositories sightings ↔ repoId ≠ "" ∧ sightingsOf sightings repoId ≠ [] := by
  rw [repositories, List.mem_eraseDups, List.mem_filter, decide_eq_true_eq, and_comm, sightingsOf,
    ne_eq (List.filter _ _),
    List.filter_eq_nil_iff, List.mem_map]
  apply and_congr_right
  intro _
  constructor
  · rintro ⟨sighting, mem, own⟩ none
    exact none sighting mem (decide_eq_true own)
  · intro some
    by_contra none
    apply some
    intro sighting mem own
    exact none ⟨sighting, mem, of_decide_eq_true own⟩

/-- A new repository ends the list, a known one adds nothing. -/
lemma repositories_append (sightings : List Sighting) (sighting : Sighting) :
    repositories (sightings ++ [sighting]) =
      if sighting.repoId = "" ∨ sighting.repoId ∈ repositories sightings then repositories sightings
      else repositories sightings ++ [sighting.repoId] := by
  rw [repositories, List.map_append, List.filter_append, List.eraseDups_append, List.map_singleton,
    List.filter_singleton]
  change repositories sightings ++ _ = _
  by_cases blank : sighting.repoId = ""
  · rw [if_pos (.inl blank), decide_eq_false (not_not.mpr blank)]
    exact List.append_nil _
  · rw [decide_eq_true blank]
    by_cases known : sighting.repoId ∈ repositories sightings
    · rw [if_pos (.inr known)]
      have elem := List.elem_iff.mpr (List.mem_eraseDups.mp known)
      change repositories sightings ++ ([sighting.repoId].filter _).eraseDups = _
      rw [List.filter_singleton, elem]
      exact List.append_nil _
    · rw [if_neg (not_or.mpr ⟨blank, known⟩)]
      have elem : List.elem sighting.repoId ((sightings.map (·.repoId)).filter (· ≠ "")) = false := by
        rw [Bool.eq_false_iff, ne_eq, List.elem_iff]
        exact fun mem => known (List.mem_eraseDups.mpr mem)
      change repositories sightings ++ ([sighting.repoId].filter _).eraseDups = _
      rw [List.filter_singleton, elem]
      rfl

/-- They come in the order they were seen in. -/
lemma order_seen (sightings : List Sighting) : (seen sightings).order = repositories sightings := by
  induction sightings using List.reverseRecOn with
  | nil => rfl
  | append_singleton sightings sighting ih =>
    rw [seen_append, SeenState.see, repositories_append]
    by_cases blank : sighting.repoId = ""
    · rw [if_pos blank, if_pos (.inl blank), ih]
    · rw [if_neg blank, lookup_seen sightings blank]
      cases group : sightingsOf sightings sighting.repoId with
      | nil =>
        have new : sighting.repoId ∉ repositories sightings := fun mem => (mem_repositories.mp mem).2 group
        rw [if_neg (not_or.mpr ⟨blank, new⟩), ← ih]
        rfl
      | cons first rest =>
        have known : sighting.repoId ∈ repositories sightings :=
          mem_repositories.mpr ⟨blank, by rw [group]; exact List.cons_ne_nil first rest⟩
        rw [if_pos (.inr known), ← ih]
        rfl

/-- A merged candidate for every repository, in the order they were first seen. -/
lemma deduplicate_eq (sightings : List Sighting) :
    deduplicate sightings =
      (repositories sightings).filterMap fun repoId => mergeAll (sightingsOf sightings repoId) := by
  rw [deduplicate, order_seen]
  apply List.filterMap_congr
  intro repoId mem
  exact lookup_seen sightings (mem_repositories.mp mem).1

/-- Merged sightings are of their repository. -/
lemma repoId_of_mergeAll {merged : Sighting} (eq : mergeAll (sightingsOf sightings repoId) = some merged) :
    merged.repoId = repoId := by
  cases group : sightingsOf sightings repoId with
  | nil =>
    rw [group] at eq
    cases eq
  | cons first rest =>
    rw [group] at eq
    cases eq
    rw [foldl_mergedWith_eq (·.repoId) fun _ _ => rfl]
    have mem : first ∈ sightingsOf sightings repoId := by
      rw [group]
      exact List.mem_cons_self
    exact of_decide_eq_true (List.mem_filter.mp mem).2

/-- The candidates are the repositories, in that order. -/
lemma map_repoId_deduplicate (sightings : List Sighting) :
    (deduplicate sightings).map (·.repoId) = repositories sightings := by
  rw [deduplicate_eq]
  have all : ∀ repoIds ⊆ repositories sightings,
      (repoIds.filterMap fun repoId => mergeAll (sightingsOf sightings repoId)).map (·.repoId) = repoIds := by
    intro repoIds sub
    induction repoIds with
    | nil => rfl
    | cons repoId rest ih =>
      obtain ⟨mem, others⟩ := List.cons_subset.mp sub
      have some := (mem_repositories.mp mem).2
      cases merged : mergeAll (sightingsOf sightings repoId) with
      | none =>
        cases group : sightingsOf sightings repoId with
        | nil => exact absurd group some
        | cons first rest =>
          rw [group] at merged
          cases merged
      | some candidate =>
        rw [List.filterMap_cons, merged]
        change candidate.repoId :: List.map _ _ = _
        rw [ih others, repoId_of_mergeAll merged]
  exact all _ (List.Subset.refl _)

/-- A candidate is what the sightings of its repository are merged to. -/
lemma mem_deduplicate {candidate : Sighting} : candidate ∈ deduplicate sightings ↔
    ∃ repoId ≠ "", mergeAll (sightingsOf sightings repoId) = some candidate := by
  rw [deduplicate_eq, List.mem_filterMap]
  constructor
  · rintro ⟨repoId, mem, merged⟩
    exact ⟨repoId, (mem_repositories.mp mem).1, merged⟩
  · rintro ⟨repoId, named, merged⟩
    refine ⟨repoId, mem_repositories.mpr ⟨named, ?_⟩, merged⟩
    intro none
    rw [none] at merged
    cases merged

end Runs

section Richness
variable {sightings group : List Sighting} {first merged : Sighting} {rest : List Sighting}

/-- What one of the sightings knows, the candidate knows. -/
def Keeps {α : Type} (field : Sighting → α) (known : α → Bool) (group : List Sighting) (candidate : Sighting) : Prop :=
  (∃ sighting ∈ group, known (field sighting) = true) → known (field candidate) = true

/-- The greatest of the sightings. -/
def Greatest (count : Sighting → ℤ) (group : List Sighting) (candidate : Sighting) : Prop :=
  (∃ sighting ∈ group, count sighting = count candidate) ∧ ∀ sighting ∈ group, count sighting ≤ count candidate

/-- A candidate loses nothing that the sightings of its repository know. -/
structure Merges (group : List Sighting) (merged : Sighting) : Prop where
  pipelineTag : Keeps (·.pipelineTag) hasText group merged
  libraryName : Keeps (·.libraryName) hasText group merged
  license : Keeps (·.license) hasText group merged
  repositoryType : Keeps (·.repositoryType) Option.isSome group merged
  baseModelRepoId : Keeps (·.baseModelRepoId) hasText group merged
  revisionHint : Keeps (·.revisionHint) hasText group merged
  lastModified : Keeps (·.lastModified) Option.isSome group merged
  languages : Keeps (·.languages) (!·.isEmpty) group merged
  tags : Keeps (·.tags) (!·.isEmpty) group merged
  penalties : Keeps (·.penalties) (!·.isEmpty) group merged
  gated : Keeps (·.gated) Gate.restricts group merged
  isPrivate : Keeps (·.isPrivate) id group merged
  downloads : Greatest (·.downloads) group merged
  likes : Greatest (·.likes) group merged
  queries : ∀ query, query ∈ merged.sourceQueries ↔ ∃ sighting ∈ group, query ∈ sighting.sourceQueries
  nodup : merged.sourceQueries.Nodup

/-- What the merge leaves out, the first sighting knows where any does. -/
structure FirstKnows (group : List Sighting) (first : Sighting) : Prop where
  repositoryType : Keeps (·.repositoryType) Option.isSome group first
  baseModelRepoId : Keeps (·.baseModelRepoId) hasText group first
  penalties : Keeps (·.penalties) (!·.isEmpty) group first
  gated : Keeps (·.gated) Gate.restricts group first
  isPrivate : Keeps (·.isPrivate) id group first
  nodup : first.sourceQueries.Nodup

/-- One candidate for each repository, in the order of the first sightings, that loses nothing. -/
structure Deduplicates (sightings merged : List Sighting) : Prop where
  repositories : merged.map (·.repoId) = repositories sightings
  merges : ∀ candidate ∈ merged, Merges (sightingsOf sightings candidate.repoId) candidate

/-- A field that merging keeps is that of the first sighting. -/
lemma keeps_left {α : Type} {field : Sighting → α} {known : α → Bool}
    (kept : ∀ sighting other, field (sighting.mergedWith other) = field sighting) :
    Keeps field known group (rest.foldl Sighting.mergedWith first) ↔ Keeps field known group first := by
  rw [Keeps, Keeps, foldl_mergedWith_eq field kept]

/-- The merge of some sightings loses nothing exactly where the first knows what it leaves out. -/
lemma merges_iff :
    Merges (first :: rest) (rest.foldl Sighting.mergedWith first) ↔ FirstKnows (first :: rest) first := by
  constructor
  · intro merges
    exact
      { repositoryType := (keeps_left fun _ _ => rfl).mp merges.repositoryType
        baseModelRepoId := (keeps_left fun _ _ => rfl).mp merges.baseModelRepoId
        penalties := (keeps_left fun _ _ => rfl).mp merges.penalties
        gated := (keeps_left fun _ _ => rfl).mp merges.gated
        isPrivate := (keeps_left fun _ _ => rfl).mp merges.isPrivate
        nodup := foldl_mergedWith_queries.2.mp merges.nodup }
  · intro knows
    exact
      { pipelineTag := foldl_mergedWith_known _ _ fun _ _ => rfl
        libraryName := foldl_mergedWith_known _ _ fun _ _ => rfl
        license := foldl_mergedWith_known _ _ fun _ _ => rfl
        repositoryType := (keeps_left fun _ _ => rfl).mpr knows.repositoryType
        baseModelRepoId := (keeps_left fun _ _ => rfl).mpr knows.baseModelRepoId
        revisionHint := foldl_mergedWith_known _ _ fun _ _ => rfl
        lastModified := foldl_mergedWith_known _ _ fun _ _ => rfl
        languages := foldl_mergedWith_known (·.languages) (!·.isEmpty) fun _ _ => rfl
        tags := foldl_mergedWith_known (·.tags) (!·.isEmpty) fun _ _ => rfl
        penalties := (keeps_left fun _ _ => rfl).mpr knows.penalties
        gated := (keeps_left fun _ _ => rfl).mpr knows.gated
        isPrivate := (keeps_left fun _ _ => rfl).mpr knows.isPrivate
        downloads := foldl_mergedWith_max (·.downloads) fun _ _ => rfl
        likes := foldl_mergedWith_max (·.likes) fun _ _ => rfl
        queries := foldl_mergedWith_queries.1
        nodup := foldl_mergedWith_queries.2.mpr knows.nodup }

/-- The candidates lose nothing exactly where the first sighting of every repository knows what the merge
leaves out. -/
theorem deduplicate_merges_iff (sightings : List Sighting) :
    Deduplicates sightings (deduplicate sightings) ↔
      ∀ repoId ≠ "", ∀ first rest, sightingsOf sightings repoId = first :: rest → FirstKnows (first :: rest) first := by
  constructor
  · intro holds repoId named first rest group
    have merged : mergeAll (sightingsOf sightings repoId) = some (rest.foldl Sighting.mergedWith first) := by
      rw [group]
      rfl
    have merges := holds.merges _ (mem_deduplicate.mpr ⟨repoId, named, merged⟩)
    rw [repoId_of_mergeAll merged, group] at merges
    exact merges_iff.mp merges
  · intro knows
    refine ⟨map_repoId_deduplicate sightings, ?_⟩
    intro candidate mem
    obtain ⟨repoId, named, merged⟩ := mem_deduplicate.mp mem
    rw [repoId_of_mergeAll merged]
    cases group : sightingsOf sightings repoId with
    | nil =>
      rw [group] at merged
      cases merged
    | cons first rest =>
      rw [group] at merged
      cases merged
      exact merges_iff.mpr (knows repoId named first rest group)

/-- A page that does not say what the model is derived from, and one that does. -/
def pages : List Sighting :=
  [{ repoId := "Org/Model" }, { repoId := "Org/Model", baseModelRepoId := some "Org/Base" }]

/-- The base that only the later page names is lost. -/
theorem laterPage_baseModel_lost : ¬ Deduplicates pages (deduplicate pages) := by
  intro holds
  have merges := holds.merges _ (mem_deduplicate.mpr ⟨"Org/Model", by decide, rfl⟩)
  have kept := merges.baseModelRepoId ⟨_, List.mem_cons_of_mem _ List.mem_cons_self, rfl⟩
  cases kept

end Richness

end Jaull.Discovery
