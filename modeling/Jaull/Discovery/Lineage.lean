import Jaull.Domain.Candidates
import Jaull.Domain.Requirements
import Jaull.Lib.Dict
import Jaull.Lib.StableSort
import Jaull.Lib.WorkerPool
import Jaull.Text.Case
import Mathlib.Data.List.Dedup
import Mathlib.Data.String.Basic

/-!
# Task tags of the base repository

Port of `jaull/discovery/lineage.py`, with the task words of `jaull/recommendation/scoring.py`: a re-quantization
inherits the task tags that the base it declares has. The bases are looked up by a pool of workers, in any order.
-/

namespace Jaull.Discovery
open Jaull.Domain Jaull.Lib Jaull.Text

section Vocabulary

/-- Python `_USE_CASE_KEYWORDS`. -/
def useCaseKeywords : List (UseCase × List String) :=
  [(.generalChat, ["instruct", "chat", "assistant", "conversational"]),
    (.coding, ["coder", "code", "programming", "starcoder", "codellama", "dev"]),
    (.documentQa, ["instruct", "long-context", "longcontext", "qa", "rag", "chat"]),
    (.summarizationExtraction, ["summarization", "summary", "extraction", "extract", "instruct"]),
    (.reasoning, ["reasoning", "math", "logic", "problem", "instruct"]),
    (.writingTranslation,
      ["instruct", "translation", "translate", "multilingual", "writing", "nllb", "opus-mt"])]

/-- Python `_STRONG_KEYWORDS`. -/
def strongKeywords : List (UseCase × List String) :=
  [(.generalChat, ["chat", "assistant", "conversational"]), (.coding, ["coder", "code"]),
    (.documentQa, ["long-context", "longcontext", "rag"]),
    (.summarizationExtraction, ["summarization", "extraction"]), (.reasoning, ["reasoning", "math"]),
    (.writingTranslation, ["translation", "multilingual"])]

/-- Python `task_vocabulary`. -/
def taskVocabulary : List String :=
  (useCaseKeywords ++ strongKeywords).flatMap fun entry => entry.2.map lower

end Vocabulary

/-- Python `_QUANTIZED_BASE_PREFIX` of `lineage.py`. -/
def lineagePrefix : String :=
  "base_model:quantized:"

/-- The base that a tag declares. -/
def baseOfTag (tag : String) : Option String :=
  if lineagePrefix.toList <+: (lower tag).toList then
    some (String.ofList (tag.toList.drop lineagePrefix.length))
  else none

/-- Python `_lookup_base`. -/
def lookupBase (candidate : ModelCandidate) : Option String :=
  match candidate.pipelineTag with
  | some _ => none
  | none => candidate.tags.findSome? baseOfTag

/-- What the hub says of a base repository. -/
structure BaseInfo where
  tags : List String := []
  pipelineTag : Option String := none

/-- What the `read` of Python `_fetch_all` returns; a lookup that raises gives nothing. -/
def declaredTasks (fetch : String → Option BaseInfo) (base : String) : List String :=
  match fetch base with
  | none => []
  | some info =>
    sortedBy id ((info.tags ++ [info.pipelineTag.getD ""]).filter
      fun name => name ≠ "" && lower name ∈ taskVocabulary).dedup

/-- What a candidate inherits. -/
def inherit (candidate : ModelCandidate) (inherited : List String) : ModelCandidate :=
  let known := candidate.tags.map lower
  { candidate with tags := candidate.tags ++ inherited.filter fun tag => lower tag ∉ known }

/-- The end of Python `inherit_task_signals`, with what was found of the bases. -/
def inheritFrom (declared : String → Option (List String)) (candidate : ModelCandidate) : ModelCandidate :=
  match (lookupBase candidate).bind declared with
  | none => candidate
  | some inherited => inherit candidate inherited

/-- The bases to look up, each once. -/
def bases (candidates : List ModelCandidate) : List String :=
  sortedBy id (candidates.filterMap lookupBase).dedup

/-- The pool of Python `_fetch_all`: what is found is the dictionary of the task tags of the bases. -/
def lineagePool (bases : List String) (fetch : String → Option BaseInfo) (maxWorkers : ℕ) (one_le : 1 ≤ maxWorkers) :
    Pool Unit (List (String × List String)) where
  jobs := bases.length
  workers := maxWorkers
  work _ shared := shared
  collect found job :=
    match bases[job]? with
    | none => found
    | some base => dictSet found base (declaredTasks fetch base)
  one_le_workers := one_le

section Lookups
variable {candidate : ModelCandidate} {candidates : List ModelCandidate} {fetch : String → Option BaseInfo}

lemma nodup_bases (candidates : List ModelCandidate) : (bases candidates).Nodup :=
  (sortedBy_perm id _).nodup_iff.mpr (List.nodup_dedup _)

/-- The bases asked for are those that candidates name. -/
lemma mem_bases {base : String} :
    base ∈ bases candidates ↔ ∃ candidate ∈ candidates, lookupBase candidate = some base := by
  rw [bases, mem_sortedBy, List.mem_dedup, List.mem_filterMap]

/-- What a dictionary holds after some bases were collected, in any order. -/
lemma lookup_collected {bases : List String} {maxWorkers : ℕ} {one_le : 1 ≤ maxWorkers} (order : List ℕ)
    (found : List (String × List String)) (base : String) :
    (order.foldl (lineagePool bases fetch maxWorkers one_le).collect found).lookup base =
      if ∃ job ∈ order, bases[job]? = some base then some (declaredTasks fetch base) else found.lookup base := by
  induction order generalizing found with
  | nil => exact (if_neg fun ⟨_, mem, _⟩ => List.not_mem_nil mem).symm
  | cons job order ih =>
    rw [List.foldl_cons, ih]
    by_cases later : ∃ job ∈ order, bases[job]? = some base
    · obtain ⟨job', mem, at'⟩ := later
      rw [if_pos ⟨job', mem, at'⟩, if_pos ⟨job', List.mem_cons_of_mem _ mem, at'⟩]
    · rw [if_neg later]
      by_cases own : bases[job]? = some base
      · rw [if_pos ⟨job, List.mem_cons_self, own⟩]
        simp only [lineagePool, own, lookup_dictSet_self]
      · rw [if_neg]
        · cases other : bases[job]? with
          | none => simp only [lineagePool, other]
          | some base' =>
            have ne : base ≠ base' := by
              rintro rfl
              exact own other
            simp only [lineagePool, other, lookup_dictSet_ne ne]
        · rintro ⟨job', mem, at'⟩
          rcases List.mem_cons.mp mem with same | mem
          · exact own (same ▸ at')
          · exact later ⟨job', mem, at'⟩

/-- Tags behind those of a re-quantization leave its base. -/
lemma lookupBase_inherit {base : String} (declares : lookupBase candidate = some base) (inherited : List String) :
    lookupBase (inherit candidate inherited) = some base := by
  rw [lookupBase] at declares ⊢
  cases pipeline : candidate.pipelineTag with
  | some tag =>
    rw [pipeline] at declares
    cases declares
  | none =>
    rw [pipeline] at declares
    have same : (inherit candidate inherited).pipelineTag = none := pipeline
    rw [same]
    change (candidate.tags ++ _).findSome? baseOfTag = some base
    rw [List.findSome?_append]
    dsimp only at declares
    rw [declares, Option.some_or]

/-- A candidate inherits nothing twice. -/
lemma inherit_inherit (candidate : ModelCandidate) (inherited : List String) :
    inherit (inherit candidate inherited) inherited = inherit candidate inherited := by
  have none' : inherited.filter (fun tag => lower tag ∉ (inherit candidate inherited).tags.map lower) = [] := by
    rw [List.filter_eq_nil_iff]
    intro tag mem new
    apply of_decide_eq_true new
    rw [inherit, List.map_append, List.mem_append]
    by_cases known : lower tag ∈ candidate.tags.map lower
    · exact .inl known
    · exact .inr (List.mem_map_of_mem (List.mem_filter.mpr ⟨mem, decide_eq_true known⟩))
  rw [inherit, none', List.append_nil]

end Lookups

section Inheriting
variable {candidates : List ModelCandidate} {fetch : String → Option BaseInfo} {maxWorkers : ℕ}
variable {one_le : 1 ≤ maxWorkers}

/-- What a candidate is after it inherited: nothing but tags is added, behind its own, each the name of a task that
its base declares and that it did not have. -/
structure InheritsFrom (fetch : String → Option BaseInfo) (candidate result : ModelCandidate) : Prop where
  rest : result = { candidate with tags := result.tags }
  own : candidate.tags <+: result.tags
  added : ∀ tag ∈ result.tags, tag ∉ candidate.tags → lower tag ∈ taskVocabulary ∧
    lower tag ∉ candidate.tags.map lower ∧ ∃ base info, lookupBase candidate = some base ∧ fetch base = some info ∧
      (tag ∈ info.tags ∨ info.pipelineTag = some tag)

/-- What Python `inherit_task_signals` keeps, whatever the order in which the lookups come to their end. -/
structure Inherits (candidates : List ModelCandidate) (fetch : String → Option BaseInfo) (maxWorkers : ℕ)
    (one_le : 1 ≤ maxWorkers) : Prop where
  window : ∀ state, PoolState.Reachable (lineagePool (bases candidates) fetch maxWorkers one_le) () [] state →
    state.inFlight.length ≤ min maxWorkers (bases candidates).length
  /-- No base is looked up twice, however many candidates declare it. -/
  once : ∀ state, PoolState.Reachable (lineagePool (bases candidates) fetch maxWorkers one_le) () [] state →
    (state.worked.map ((bases candidates)[·]?)).Nodup
  /-- The result is that of looking up the base of each candidate in turn. -/
  returned : ∀ state, PoolState.Reachable (lineagePool (bases candidates) fetch maxWorkers one_le) () [] state →
    state.phase = .returned → candidates.map (inheritFrom fun base => state.found.lookup base) =
      candidates.map (inheritFrom fun base => some (declaredTasks fetch base))
  inherits : ∀ candidate ∈ candidates,
    InheritsFrom fetch candidate (inheritFrom (fun base => some (declaredTasks fetch base)) candidate)
  again : ∀ candidate ∈ candidates,
    inheritFrom (fun base => some (declaredTasks fetch base))
        (inheritFrom (fun base => some (declaredTasks fetch base)) candidate) =
      inheritFrom (fun base => some (declaredTasks fetch base)) candidate
  ends : ∀ run, Behaviour (PoolState.Step (lineagePool (bases candidates) fetch maxWorkers one_le)) (·.ended = true)
      run → run 0 = { shared := (), found := [] } →
    (∀ t job, job < (run t).next → ∃ t', job ∈ (run t').finished) → ∃ t, (run t).ended = true

/-- A tag that a base declares is the name of a task. -/
lemma mem_declaredTasks {base tag : String} (mem : tag ∈ declaredTasks fetch base) : lower tag ∈ taskVocabulary ∧
    ∃ info, fetch base = some info ∧ (tag ∈ info.tags ∨ info.pipelineTag = some tag) := by
  rw [declaredTasks] at mem
  cases found : fetch base with
  | none =>
    rw [found] at mem
    cases mem
  | some info =>
    rw [found] at mem
    dsimp only at mem
    rw [mem_sortedBy, List.mem_dedup, List.mem_filter, Bool.and_eq_true, decide_eq_true_iff, decide_eq_true_iff,
      List.mem_append, List.mem_singleton] at mem
    obtain ⟨named, some', task⟩ := mem
    refine ⟨task, info, rfl, ?_⟩
    rcases named with tagged | piped
    · exact .inl tagged
    · right
      cases pipeline : info.pipelineTag with
      | none =>
        rw [pipeline] at piped
        exact absurd piped some'
      | some name =>
        rw [pipeline] at piped
        rw [piped]
        rfl

/-- One candidate inherits from what its base declares. -/
lemma inheritsFrom (candidate : ModelCandidate) :
    InheritsFrom fetch candidate (inheritFrom (fun base => some (declaredTasks fetch base)) candidate) := by
  rw [inheritFrom]
  cases declares : lookupBase candidate with
  | none => exact ⟨rfl, List.prefix_refl _, fun tag mem new => absurd mem new⟩
  | some base =>
    rw [Option.bind_some]
    refine ⟨rfl, List.prefix_append _ _, ?_⟩
    intro tag mem new
    rcases List.mem_append.mp mem with mem | mem
    · exact absurd mem new
    · obtain ⟨inherited, fresh⟩ := List.mem_filter.mp mem
      obtain ⟨task, info, found, named⟩ := mem_declaredTasks inherited
      exact ⟨task, of_decide_eq_true fresh, base, info, declares, found, named⟩

/-- However the lookups overlap, each base is looked up once and the candidates inherit what its lookup gives. -/
theorem inherit_inherits (candidates : List ModelCandidate) (fetch : String → Option BaseInfo) (maxWorkers : ℕ)
    (one_le : 1 ≤ maxWorkers) : Inherits candidates fetch maxWorkers one_le where
  window := fun _ reachable => PoolState.length_inFlight (PoolState.sound_of_reachable reachable)
  once := by
    intro state reachable
    have sound := PoolState.sound_of_reachable reachable
    apply List.Nodup.map_on _ sound.workedOnce
    intro job mem job' mem' same
    have lt := Nat.lt_of_lt_of_le (sound.workedKnown job mem) sound.within
    have lt' := Nat.lt_of_lt_of_le (sound.workedKnown job' mem') sound.within
    rw [List.getElem?_eq_getElem lt, List.getElem?_eq_getElem lt', Option.some.injEq] at same
    exact (nodup_bases candidates).getElem_inj_iff.mp same
  returned := by
    intro state reachable returned
    have sound := PoolState.sound_of_reachable reachable
    apply List.map_congr_left
    intro candidate among
    rw [inheritFrom, inheritFrom]
    cases declares : lookupBase candidate with
    | none => rfl
    | some base =>
      obtain ⟨job, at'⟩ := List.getElem?_of_mem (mem_bases.mpr ⟨candidate, among, declares⟩)
      have collected : job ∈ state.collected := (sound.collected_perm returned).mem_iff.mpr
        (List.mem_range.mpr (List.getElem?_eq_some_iff.mp at').1)
      rw [Option.bind_some, Option.bind_some, sound.foundOf, lookup_collected, if_pos ⟨job, collected, at'⟩]
  inherits := fun candidate _ => inheritsFrom candidate
  again := by
    intro candidate _
    cases declares : lookupBase candidate with
    | none =>
      have same : inheritFrom (fun base => some (declaredTasks fetch base)) candidate = candidate := by
        rw [inheritFrom, declares]
        rfl
      rw [same, same]
    | some base =>
      have first : inheritFrom (fun base => some (declaredTasks fetch base)) candidate =
          inherit candidate (declaredTasks fetch base) := by
        rw [inheritFrom, declares]
        rfl
      rw [first, inheritFrom, lookupBase_inherit declares, Option.bind_some]
      exact inherit_inherit candidate (declaredTasks fetch base)
  ends := fun _ behaviour first finishes => PoolState.ends behaviour first finishes

/-- Two re-quantizations of a translation model, one of a model that is gone, and a model of its own. -/
def requantized : List ModelCandidate :=
  [{ repoId := "org/Model-GGUF", tags := ["gguf", "base_model:quantized:org/Model"] },
    { repoId := "hub/Model-i1-GGUF"
      tags := ["base_model:quantized:org/Model", "translation", "gguf"] },
    { repoId := "org/Gone-GGUF", tags := ["gguf", "base_model:quantized:org/Gone"] },
    { repoId := "org/Other", tags := ["safetensors"] }]

/-- A hub that knows the translation model. -/
def translationHub (base : String) : Option BaseInfo :=
  if base = "org/Model" then some { tags := ["Translation", "safetensors"] } else none

/-- One lookup serves both re-quantizations, and only the one without the task word gains it. -/
theorem inherit_inherits_requantized :
    requantized.map (fun candidate =>
        (inheritFrom (fun base => some (declaredTasks translationHub base)) candidate).tags) =
        [["gguf", "base_model:quantized:org/Model", "Translation"],
          ["base_model:quantized:org/Model", "translation", "gguf"],
          ["gguf", "base_model:quantized:org/Gone"], ["safetensors"]] ∧
      Inherits requantized translationHub 2 (by decide) :=
  ⟨by decide +kernel, inherit_inherits requantized translationHub 2 (by decide)⟩

end Inheriting

end Jaull.Discovery
