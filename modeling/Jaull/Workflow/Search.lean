import Jaull.Discovery.QueryBuilder
import Jaull.Discovery.Sightings
import Jaull.Lib.RoundRobin

/-!
# The search stage

Port of `_search` and `_interleave` of `jaull/workflow/orchestrator.py`: every query is sent, a query that fails is
left out with a warning, the pages are merged by turns, and the sightings of a repository become one candidate. No
query can push the results of another one out of the candidate budget.
-/

namespace Jaull.Workflow
open Jaull.Discovery Jaull.Lib

section Model

/-- What the search client raises: the hub cannot be reached, or anything else. -/
inductive SearchFailure
  | unavailable (text : String)
  | other (text : String)
  deriving DecidableEq, Repr

/-- Why a search stage ends without candidates. -/
inductive SearchStop
  | cancelled
  | raised (failure : SearchFailure)
  deriving DecidableEq, Repr

/-- How far a search stage is: the details reported, the queries sent, the pages, the warnings and the failures. -/
structure SearchRun where
  details : List String := []
  calls : List SearchQuery := []
  perQuery : List (List Sighting) := []
  warnings : List String := []
  failures : ℕ := 0
  deriving DecidableEq, Repr

/-- The answers of the hub, by the number of the query, and whether the caller has cancelled when it is sent. -/
structure SearchEnv where
  answer : ℕ → SearchQuery → Except SearchFailure (List Sighting)
  cancelled : ℕ → Bool
  repr : String → String

variable (env : SearchEnv)

/-- The warning of a query that failed. -/
def searchWarning (query : SearchQuery) (text : String) : String :=
  "Search query " ++ env.repr query.label ++ " failed: " ++ text

/-- A query is sent. -/
def SearchRun.send (run : SearchRun) (total index : ℕ) (query : SearchQuery) : SearchRun :=
  { run with
    details := run.details ++ ["query " ++ toString (index + 1) ++ " of " ++ toString total]
    calls := run.calls ++ [query] }

/-- The loop of `_search` over the queries from number `index` on. -/
def searchLoop (total : ℕ) : ℕ → List SearchQuery → SearchRun → Except SearchStop Unit × SearchRun
  | _, [], run => (.ok (), run)
  | index, query :: rest, run =>
    if env.cancelled index then (.error .cancelled, run)
    else
      let sent := run.send total index query
      match env.answer index query with
      | .ok results => searchLoop total (index + 1) rest { sent with perQuery := sent.perQuery ++ [results] }
      | .error (.other text) => (.error (.raised (.other text)), sent)
      | .error (.unavailable text) =>
        let failed :=
          { sent with
            failures := sent.failures + 1
            perQuery := sent.perQuery ++ [[]]
            warnings := sent.warnings ++ [searchWarning env query text] }
        -- every query failing means that the hub cannot be reached
        if failed.failures = total then (.error (.raised (.unavailable text)), failed)
        else searchLoop total (index + 1) rest failed

/-- Python `_search`: the candidates and the warnings, and how far the stage came. -/
def search (queries : List SearchQuery) : Except SearchStop (List Sighting × List String) × SearchRun :=
  let (ended, run) := searchLoop env queries.length 0 queries {}
  -- Python `_interleave` is `takeTurns`
  (ended.map fun _ => (deduplicate (takeTurns run.perQuery), run.warnings), run)

end Model

section Loop
variable {env : SearchEnv} {total index : ℕ} {queries rest : List SearchQuery} {run run' : SearchRun}

/-- The page of a query, empty when it failed. -/
def SearchEnv.page (env : SearchEnv) (asked : SearchQuery × ℕ) : List Sighting :=
  (env.answer asked.2 asked.1).toOption.getD []

/-- The warning of a query, when it failed. -/
def SearchEnv.warning? (env : SearchEnv) (asked : SearchQuery × ℕ) : Option String :=
  match env.answer asked.2 asked.1 with
  | .error (.unavailable text) => some (searchWarning env asked.1 text)
  | _ => none

/-- A query is sent and its failure, if any, is one that is tolerated. -/
def SearchEnv.Passes (env : SearchEnv) (asked : SearchQuery × ℕ) : Prop :=
  env.cancelled asked.2 = false ∧ ∀ text, env.answer asked.2 asked.1 ≠ .error (.other text)

/-- What the loop comes to: it ends well exactly when every query passes and not all of them failed, and then it has
sent them all and kept a page or a warning of each. -/
structure LoopMeets (env : SearchEnv) (total index : ℕ) (rest : List SearchQuery) (run : SearchRun)
    (result : Except SearchStop Unit) (run' : SearchRun) : Prop where
  ends : result = .ok () ↔ (∀ asked ∈ rest.zipIdx index, env.Passes asked) ∧
    (rest = [] ∨ run.failures + ((rest.zipIdx index).filterMap env.warning?).length ≠ total)
  kept : result = .ok () → run'.calls = run.calls ++ rest ∧
    run'.perQuery = run.perQuery ++ (rest.zipIdx index).map env.page ∧
    run'.warnings = run.warnings ++ (rest.zipIdx index).filterMap env.warning?

variable {query : SearchQuery} {result : Except SearchStop Unit} {sent : SearchRun}

/-- Without queries there is nothing to keep. -/
lemma LoopMeets.nil : LoopMeets env total index [] run (.ok ()) run where
  ends := ⟨fun _ => ⟨fun asked mem => absurd mem List.not_mem_nil, .inl rfl⟩, fun _ => rfl⟩
  kept _ := by
    rw [List.zipIdx_nil, List.map_nil, List.filterMap_nil, List.append_nil, List.append_nil, List.append_nil]
    exact ⟨rfl, rfl, rfl⟩

/-- A query that does not pass ends the loop. -/
lemma LoopMeets.stopped {stop : SearchStop} (stops : ¬env.Passes (query, index)) :
    LoopMeets env total index (query :: rest) run (.error stop) run' where
  ends := by
    rw [List.zipIdx_cons, List.forall_mem_cons]
    exact ⟨fun wrong => (nomatch wrong), fun fine => absurd fine.1.1 stops⟩
  kept wrong := nomatch wrong

/-- So does the last query when all of them failed. -/
lemma LoopMeets.failed {stop : SearchStop} {text : String} (warned : env.warning? (query, index) = some text)
    (all : run.failures + 1 = total) : LoopMeets env total index [query] run (.error stop) run' where
  ends := by
    rw [List.zipIdx_cons, List.zipIdx_nil, List.filterMap_cons_some warned]
    refine ⟨fun wrong => (nomatch wrong), fun fine => ?_⟩
    rcases fine.2 with wrong | wrong
    · cases wrong
    · exact absurd all wrong
  kept wrong := nomatch wrong

/-- A query that passes leaves its page and its warning, and the loop goes on behind it. -/
lemma LoopMeets.turn (meets : LoopMeets env total (index + 1) rest sent result run')
    (passes : env.Passes (query, index)) (calls : sent.calls = run.calls ++ [query])
    (page : sent.perQuery = run.perQuery ++ [env.page (query, index)])
    (warned : sent.warnings = run.warnings ++ (env.warning? (query, index)).toList)
    (failures : sent.failures = run.failures + (env.warning? (query, index)).toList.length)
    (some' : rest = [] → sent.failures ≠ total) : LoopMeets env total index (query :: rest) run result run' := by
  have split : ((query :: rest).zipIdx index).filterMap env.warning? =
      (env.warning? (query, index)).toList ++ (rest.zipIdx (index + 1)).filterMap env.warning? := by
    rw [List.zipIdx_cons]
    cases warning : env.warning? (query, index) with
    | none => exact List.filterMap_cons_none warning
    | some text => exact List.filterMap_cons_some warning
  constructor
  · rw [meets.ends, split, List.zipIdx_cons, List.forall_mem_cons, List.length_append, ← Nat.add_assoc, ← failures]
    constructor
    · rintro ⟨all, none | fewer⟩
      · refine ⟨⟨passes, all⟩, .inr ?_⟩
        rw [none, List.zipIdx_nil]
        exact some' none
      · exact ⟨⟨passes, all⟩, .inr fewer⟩
    · rintro ⟨⟨_, all⟩, wrong | fewer⟩
      · cases wrong
      · exact ⟨all, .inr fewer⟩
  · intro ok
    obtain ⟨calls', pages, warnings⟩ := meets.kept ok
    rw [calls', pages, warnings, calls, page, warned, split, List.zipIdx_cons, List.map_cons, List.append_assoc,
      List.append_assoc, List.append_assoc]
    exact ⟨rfl, rfl, rfl⟩

/-- The loop over the queries comes to that, as long as no more of them failed than there are. -/
lemma searchLoop_meets (room : run.failures + rest.length ≤ total)
    (ended : searchLoop env total index rest run = (result, run')) :
    LoopMeets env total index rest run result run' := by
  induction rest generalizing index run with
  | nil =>
    cases ended
    exact .nil
  | cons query rest ih =>
    rw [List.length_cons] at room
    rw [searchLoop] at ended
    -- a cancelled search asks nothing more
    cases stop : env.cancelled index with
    | true =>
      rw [stop, if_pos rfl] at ended
      cases ended
      refine .stopped fun passes => ?_
      cases stop.symm.trans passes.1
    | false =>
      rw [stop, if_neg Bool.false_ne_true] at ended
      cases answer : env.answer index query with
      | ok results =>
        simp only [answer] at ended
        -- an answer: its page is taken, and the loop goes on
        have warned : env.warning? (query, index) = none := by
          rw [SearchEnv.warning?, answer]
        have passes : env.Passes (query, index) := ⟨stop, fun text wrong => nomatch answer.symm.trans wrong⟩
        have room' : run.failures + rest.length ≤ total := by omega
        have meets := ih (by exact room') ended
        refine meets.turn passes rfl ?_ ?_ ?_ fun none => ?_
        · rw [SearchEnv.page, answer]
          rfl
        · rw [warned]
          exact (List.append_nil _).symm
        · rw [warned]
          rfl
        · change run.failures ≠ total
          rw [none, List.length_nil] at room
          omega
      | error failure =>
        cases failure with
        | other text =>
          simp only [answer] at ended
          cases ended
          exact .stopped fun passes => passes.2 text answer
        | unavailable text =>
          simp only [answer] at ended
          have warned : env.warning? (query, index) = some (searchWarning env query text) := by
            rw [SearchEnv.warning?, answer]
          have passes : env.Passes (query, index) := ⟨stop, fun text' wrong => nomatch answer.symm.trans wrong⟩
          change (if run.failures + 1 = total then _ else _) = _ at ended
          -- an unavailable hub: the loop gives up when every query so far has failed
          by_cases last : run.failures + 1 = total
          · obtain rfl : rest = [] := List.length_eq_zero_iff.mp (by omega)
            rw [if_pos last] at ended
            cases ended
            exact .failed warned last
          · rw [if_neg last] at ended
            have room' : run.failures + 1 + rest.length ≤ total := by omega
            have meets := ih (by exact room') ended
            refine meets.turn passes rfl ?_ ?_ ?_ fun _ => last
            · rw [SearchEnv.page, answer]
              rfl
            · rw [warned]
              rfl
            · rw [warned]
              rfl

end Loop

section Stage
variable {env : SearchEnv} {queries : List SearchQuery} {unique : List Sighting} {warnings : List String}
variable {run : SearchRun}

/-- A search stage that gave candidates. -/
structure Shares (env : SearchEnv) (queries : List SearchQuery) (unique : List Sighting) (warnings : List String)
    (run : SearchRun) : Prop where
  /-- every query was sent once, in order -/
  asked : run.calls = queries
  /-- a repository is one candidate -/
  once : (unique.map (·.repoId)).Nodup
  /-- whatever the other queries bring, a result is among the candidates by its rank -/
  share : ∀ index query results, queries[index]? = some query → env.answer index query = .ok results →
    ∀ rank sighting, results[rank]? = some sighting → sighting.repoId ≠ "" →
      ∃ candidate ∈ unique.take ((rank + 1) * queries.length), candidate.repoId = sighting.repoId
  /-- nothing is a candidate that no query brought -/
  found : ∀ candidate ∈ unique, ∃ index query results, queries[index]? = some query ∧
    env.answer index query = .ok results ∧ ∃ sighting ∈ results, sighting.repoId = candidate.repoId
  /-- every query that failed is named in a warning, in order -/
  warned : warnings = queries.zipIdx.filterMap env.warning?

/-- The stage in terms of its loop. -/
lemma search_eq (env : SearchEnv) (queries : List SearchQuery) :
    search env queries = ((searchLoop env queries.length 0 queries {}).1.map fun _ =>
      (deduplicate (takeTurns (searchLoop env queries.length 0 queries {}).2.perQuery),
        (searchLoop env queries.length 0 queries {}).2.warnings), (searchLoop env queries.length 0 queries {}).2) :=
  rfl

/-- A query is listed under its number. -/
lemma mem_zipIdx_zero {index : ℕ} {query : SearchQuery} :
    (query, index) ∈ queries.zipIdx ↔ queries[index]? = some query := by
  rw [List.mem_zipIdx_iff_getElem?]

/-- The candidates and warnings are those of the pages. -/
lemma search_ok (ended : search env queries = (.ok (unique, warnings), run)) :
    unique = deduplicate (takeTurns (queries.zipIdx.map env.page)) ∧ run.calls = queries ∧
      warnings = queries.zipIdx.filterMap env.warning? := by
  have room : ({} : SearchRun).failures + queries.length ≤ queries.length := Nat.le_of_eq (Nat.zero_add _)
  rw [search_eq] at ended
  cases loop : searchLoop env queries.length 0 queries {} with
  | mk result own =>
    rw [loop] at ended
    cases result with
    | error stop => cases ended
    | ok _ =>
      cases ended
      obtain ⟨calls, pages, warned⟩ := (searchLoop_meets room loop).kept rfl
      exact ⟨congrArg (fun pages => deduplicate (takeTurns pages)) pages, calls, warned⟩

/-- The page of a query that succeeded is what was answered. -/
lemma page_of_answer {index : ℕ} {query : SearchQuery} {results : List Sighting}
    (answered : env.answer index query = .ok results) : env.page (query, index) = results := by
  rw [SearchEnv.page, answered]
  rfl

/-- Candidates share the room. -/
lemma shares_of_ok (ended : search env queries = (.ok (unique, warnings), run)) :
    Shares env queries unique warnings run := by
  obtain ⟨rfl, calls, warned⟩ := search_ok ended
  exact
    { asked := calls
      once := by
        rw [map_repoId_deduplicate, repositories]
        exact nodup_eraseDups _
      share := by
        intro index query results own answered rank sighting ranked named
        have mem : results ∈ queries.zipIdx.map env.page :=
          List.mem_map.mpr ⟨(query, index), mem_zipIdx_zero.mpr own, page_of_answer answered⟩
        have early := mem_take_takeTurns mem ranked
        rw [List.length_map, List.length_zipIdx] at early
        -- leaving out what has no name and what is there already only moves a result to the front
        have among := List.mem_map_of_mem (f := (·.repoId)) early
        rw [List.map_take] at among
        have first := mem_take_eraseDups (mem_take_filter (p := (· ≠ "")) among (decide_eq_true named))
        change _ ∈ (repositories _).take _ at first
        rw [← map_repoId_deduplicate, ← List.map_take] at first
        exact List.mem_map.mp first
      found := by
        intro candidate mem
        obtain ⟨repoId, named, merged⟩ := mem_deduplicate.mp mem
        have own := repoId_of_mergeAll merged
        have some' : sightingsOf (takeTurns (queries.zipIdx.map env.page)) repoId ≠ [] := by
          intro none
          rw [none] at merged
          cases merged
        obtain ⟨sighting, mem'⟩ := List.exists_mem_of_ne_nil _ some'
        obtain ⟨given, same⟩ := List.mem_filter.mp mem'
        obtain ⟨page, listed, among⟩ := mem_takeTurns.mp given
        obtain ⟨⟨query, index⟩, asked, rfl⟩ := List.mem_map.mp listed
        cases answer : env.answer index query with
        | error failure =>
          rw [SearchEnv.page, answer] at among
          cases among
        | ok results =>
          rw [page_of_answer answer] at among
          exact ⟨index, query, results, mem_zipIdx_zero.mp asked, answer, sighting, among,
            (of_decide_eq_true same).trans own.symm⟩
      warned := warned }

/-- When a search stage gives candidates: nobody cancelled, nothing but the hub failed, and not for every query. -/
lemma search_ok_iff (env : SearchEnv) (queries : List SearchQuery) :
    (∃ unique warnings run, search env queries = (.ok (unique, warnings), run)) ↔
      (∀ index query, queries[index]? = some query → env.Passes (query, index)) ∧
        (queries = [] ∨
          ∃ index query results, queries[index]? = some query ∧ env.answer index query = .ok results) := by
  have room : ({} : SearchRun).failures + queries.length ≤ queries.length := Nat.le_of_eq (Nat.zero_add _)
  have same : (∃ unique warnings run, search env queries = (.ok (unique, warnings), run)) ↔
      (searchLoop env queries.length 0 queries {}).1 = .ok () := by
    rw [search_eq]
    cases (searchLoop env queries.length 0 queries {}).1 with
    | ok _ => exact ⟨fun _ => rfl, fun _ => ⟨_, _, _, rfl⟩⟩
    | error stop => exact ⟨fun ⟨_, _, _, wrong⟩ => (nomatch wrong), fun wrong => (nomatch wrong)⟩
  rw [same, (searchLoop_meets room rfl).ends]
  have passes : (∀ asked ∈ queries.zipIdx, env.Passes asked) ↔
      ∀ index query, queries[index]? = some query → env.Passes (query, index) := by
    constructor
    · exact fun all index query own => all _ (mem_zipIdx_zero.mpr own)
    · exact fun all asked mem => all asked.2 asked.1 (mem_zipIdx_zero.mp mem)
  rw [passes]
  refine and_congr_right fun all => or_congr_right ?_
  -- as many warnings as queries: every query has failed
  have count : (queries.zipIdx.filterMap env.warning?).length = queries.length ↔
      ∀ asked ∈ queries.zipIdx, (env.warning? asked).isSome = true := by
    rw [← List.filterMap_length_eq_length, List.length_zipIdx]
  change 0 + _ ≠ _ ↔ _
  rw [Nat.zero_add, ne_eq, count]
  constructor
  · intro some'
    by_contra none
    refine some' fun asked mem => ?_
    have own := mem_zipIdx_zero.mp mem
    cases answer : env.answer asked.2 asked.1 with
    | ok results => exact absurd ⟨asked.2, asked.1, results, own, answer⟩ none
    | error failure =>
      cases failure with
      | other text => exact absurd answer ((all asked.2 asked.1 own).2 text)
      | unavailable text =>
        rw [SearchEnv.warning?, answer]
        rfl
  · rintro ⟨index, query, results, own, answered⟩ every
    have wrong := every (query, index) (mem_zipIdx_zero.mpr own)
    rw [SearchEnv.warning?, answered] at wrong
    cases wrong

/-- A search stage gives candidates exactly when nobody cancels, only the hub fails, and not for every query. Then it
gives every query its share: each was sent once, a repository is one candidate, a result of rank `k` is among the
first `(k + 1) * queries.length` candidates whatever the other queries bring, and every query that failed has its
warning. -/
theorem search_shares (env : SearchEnv) (queries : List SearchQuery) :
    ((∃ unique warnings run, search env queries = (.ok (unique, warnings), run)) ↔
      (∀ index query, queries[index]? = some query → env.Passes (query, index)) ∧
        (queries = [] ∨ ∃ index query results, queries[index]? = some query ∧
          env.answer index query = .ok results)) ∧
    ∀ unique warnings run, search env queries = (.ok (unique, warnings), run) →
      Shares env queries unique warnings run :=
  ⟨search_ok_iff env queries, fun _ _ _ => shares_of_ok⟩

end Stage

end Jaull.Workflow
