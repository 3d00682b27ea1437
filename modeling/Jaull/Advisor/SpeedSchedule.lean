import Jaull.Domain.Recommendation
import Jaull.Lib.RoundRobin
import Mathlib.Data.List.FinRange

/-!
# The schedule of speed calls

Port of `speed_calls_needed` and `speed_call_schedule` of `jaull/advisor/quality_candidates.py`. The schedule
is a round robin: every candidate has its calls, and in front of any cut two candidates that have calls left
are at most one call apart (`speedCallSchedule_interleaves`).
-/

namespace Jaull.Advisor
open Jaull.Domain Jaull.Lib

/-- A plan to measure (Python `QualityCandidate`): of its speed assessment, the figure that applies. -/
structure QualityCandidate where
  plan : ExecutionPlan
  reason : String
  downloaded : Bool
  applicable : Option ApplicableSpeed := none
  deriving DecidableEq

/-- Python `SPEED_MIN_CALLS`. -/
def speedMinCalls : ℤ :=
  3

/-- Calls still missing for a range; one more if there are enough (Python `speed_calls_needed`). -/
def speedCallsNeeded (candidate : QualityCandidate) : ℤ :=
  let calls :=
    match candidate.applicable with
    | some applicable => applicable.runCount
    | none => 0
  max (speedMinCalls - calls) 1

/-- Python `speed_call_schedule`. -/
def speedCallSchedule (candidates : List QualityCandidate) : List QualityCandidate :=
  let needed := candidates.map speedCallsNeeded
  (List.range (needed.max?.getD 0).toNat).flatMap fun (round : ℕ) =>
    ((candidates.zip needed).filter fun (_, count) => count > (round : ℤ)).map Prod.fst

/-- Whose calls a schedule makes, a caller being a place of the list: a candidate listed twice is two
callers. -/
structure Interleaves (candidates schedule : List QualityCandidate) (calls : List (Fin candidates.length)) :
    Prop where
  called : schedule = calls.map candidates.get
  enough : ∀ place, (calls.count place : ℤ) = speedCallsNeeded (candidates.get place)
  near : ∀ made rest, calls = made ++ rest →
    ∀ place ∈ rest, ∀ place' ∈ rest, made.count place ≤ made.count place' + 1

section Schedule
variable {candidates : List QualityCandidate}

/-- Every candidate needs a call. -/
lemma one_le_speedCallsNeeded (candidate : QualityCandidate) : 1 ≤ speedCallsNeeded candidate :=
  Int.le_max_right _ _

/-- No candidate needs more calls than there are rounds. -/
lemma le_max_needed {candidate : QualityCandidate} (mem : candidate ∈ candidates) :
    speedCallsNeeded candidate ≤ (candidates.map speedCallsNeeded).max?.getD 0 := by
  have among := List.mem_map_of_mem (f := speedCallsNeeded) mem
  cases most : (candidates.map speedCallsNeeded).max? with
  | none =>
    rw [List.max?_eq_none_iff.mp most] at among
    cases among
  | some most' => exact (List.max?_eq_some_iff.mp most).2 _ among

/-- The places of the list, each with its calls. -/
def places (candidates : List QualityCandidate) : List (Fin candidates.length × ℕ) :=
  (List.finRange candidates.length).map fun place =>
    (place, (speedCallsNeeded (candidates.get place)).toNat)

/-- Every candidate has its place in the schedule. -/
lemma mem_places (place : Fin candidates.length) :
    (place, (speedCallsNeeded (candidates.get place)).toNat) ∈ places candidates :=
  List.mem_map.mpr ⟨place, List.mem_finRange place, rfl⟩

/-- No place is listed twice. -/
lemma distinct_places : ((places candidates).map Prod.fst).Nodup := by
  rw [places, List.map_map]
  change ((List.finRange candidates.length).map id).Nodup
  rw [List.map_id]
  exact List.nodup_finRange _

/-- Each candidate with its calls, by place. -/
lemma map_places (candidates : List QualityCandidate) :
    (places candidates).map (fun entry => (candidates.get entry.1, entry.2)) =
      candidates.map fun candidate => (candidate, (speedCallsNeeded candidate).toNat) := by
  calc (places candidates).map (fun entry => (candidates.get entry.1, entry.2))
      = ((List.finRange candidates.length).map candidates.get).map
          fun candidate => (candidate, (speedCallsNeeded candidate).toNat) := by
        rw [places, List.map_map, List.map_map]
        rfl
    _ = candidates.map fun candidate => (candidate, (speedCallsNeeded candidate).toNat) := by
        rw [← List.ofFn_eq_map, List.ofFn_get]

/-- A round of the schedule, its counts read as numbers of calls. -/
lemma round_eq (candidates : List QualityCandidate) (round : ℕ) :
    ((candidates.zip (candidates.map speedCallsNeeded)).filter
        fun (_, count) => count > (round : ℤ)).map Prod.fst =
      roundCalls (candidates.map fun candidate => (candidate, (speedCallsNeeded candidate).toNat)) round := by
  rw [← List.map_prod_left_eq_zip, roundCalls, List.filter_map, List.filter_map, List.map_map, List.map_map]
  refine congrArg (List.map id) (List.filter_congr ?_)
  intro candidate _
  simp [Int.lt_toNat]

/-- The schedule is the round robin over the candidates' places. -/
lemma speedCallSchedule_eq (candidates : List QualityCandidate) :
    speedCallSchedule candidates =
      (roundRobin (places candidates)
        ((candidates.map speedCallsNeeded).max?.getD 0).toNat).map candidates.get := by
  rw [← roundRobin_map, map_places, roundRobin]
  exact congrArg (List.flatMap · _) (funext (round_eq candidates))

/-- Every candidate is called as often as it needs, and the calls are interleaved. -/
theorem speedCallSchedule_interleaves (candidates : List QualityCandidate) :
    ∃ calls, Interleaves candidates (speedCallSchedule candidates) calls := by
  refine ⟨_, speedCallSchedule_eq candidates, ?_, ?_⟩
  · intro place
    have needs := one_le_speedCallsNeeded (candidates.get place)
    have most := le_max_needed (List.get_mem candidates place)
    rw [count_roundRobin distinct_places (mem_places place)]
    omega
  · intro made rest cut place left place' left'
    exact roundRobin_near distinct_places cut left left'

end Schedule

end Jaull.Advisor
