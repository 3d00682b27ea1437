import Jaull.Lib.Dict
import Jaull.Lib.Interleaving
import Mathlib.Data.Finset.Card
import Mathlib.Data.Finset.Insert

/-!
# The cache of a run

Port of `jaull/workflow/cache.py`. A call looks its key up under the lock, computes its value outside, and
stores it under the lock again: several calls may compute the value of one key, and the first to store it
decides what all of them return.
-/

namespace Jaull.Workflow
open Jaull.Lib

universe u v w x

section Model
variable {κ : Type u} [DecidableEq κ] {ν : Type v} {ε : Type w}

/-- Python `RunCache`. -/
structure RunCache (κ : Type u) (ν : Type v) where
  entries : List (κ × ν) := []
  hits : ℕ := 0
  misses : ℕ := 0
  deriving DecidableEq, Repr

/-- Python `dict.setdefault` on the entries. -/
def RunCache.setDefault (cache : RunCache κ ν) (key : κ) (value : ν) : RunCache κ ν × ν :=
  match cache.entries.lookup key with
  | some stored => (cache, stored)
  | none => ({ cache with entries := dictSet cache.entries key value }, value)

/-- Where a call of `get_or_compute` is. -/
inductive CallPhase (ν : Type v) (ε : Type w)
  /-- In front of the first locked section. -/
  | idle
  /-- In front of `factory()`. -/
  | computing
  /-- In front of the second locked section. -/
  | computed (value : ν)
  | returned (value : ν)
  | raised (error : ε)
  deriving DecidableEq, Repr

/-- Whether the call was made. -/
def CallPhase.made : CallPhase ν ε → Bool
  | .idle => false
  | _ => true

/-- The next step of Python `get_or_compute`, `factory` being what the factory of the call returns or raises. -/
def RunCache.advance (cache : RunCache κ ν) (key : κ) (factory : Except ε ν) :
    CallPhase ν ε → RunCache κ ν × CallPhase ν ε
  | .idle =>
    match cache.entries.lookup key with
    | some value => ({ cache with hits := cache.hits + 1 }, .returned value)
    | none => ({ cache with misses := cache.misses + 1 }, .computing)
  | .computing =>
    match factory with
    | .ok value => (cache, .computed value)
    | .error error => (cache, .raised error)
  | .computed value =>
    let stored := cache.setDefault key value
    (stored.1, .returned stored.2)
  | .returned value => (cache, .returned value)
  | .raised error => (cache, .raised error)

/-- The cache, and which calls went through their second locked section, in that order. -/
structure CacheState (ι : Type x) (κ : Type u) (ν : Type v) where
  cache : RunCache κ ν := {}
  stores : List ι := []
  deriving DecidableEq, Repr

/-- Whether the next step is the second locked section. -/
def CallPhase.storing : CallPhase ν ε → Bool
  | .computed _ => true
  | _ => false

variable {ι : Type x}

/-- Any calls of `get_or_compute`, each with its key and its factory. -/
def callMoves (key : ι → κ) (factory : ι → Except ε ν) : Moves ι (CacheState ι κ ν) (CallPhase ν ε) :=
  fun i state phase state' phase' =>
    (state'.cache, phase') = state.cache.advance (key i) (factory i) phase ∧
      state'.stores = if phase.storing then state.stores ++ [i] else state.stores

end Model

section Sections
variable {κ : Type u} [DecidableEq κ] {ν : Type v} {ε : Type w} {cache : RunCache κ ν} {key k : κ} {value v : ν}
  {factory : Except ε ν} {phase : CallPhase ν ε}

/-- Storing under a key keeps what is stored, and returns it. -/
lemma lookup_setDefault_self (cache : RunCache κ ν) (key : κ) (value : ν) :
    (cache.setDefault key value).1.entries.lookup key = some (cache.setDefault key value).2 ∧
      (cache.setDefault key value).2 = (cache.entries.lookup key).getD value := by
  rw [RunCache.setDefault]
  cases found : cache.entries.lookup key with
  | none => exact ⟨lookup_dictSet_self, rfl⟩
  | some stored => exact ⟨found, rfl⟩

/-- Setting a key leaves the others. -/
lemma lookup_setDefault_ne (apart : k ≠ key) :
    (cache.setDefault key value).1.entries.lookup k = cache.entries.lookup k := by
  rw [RunCache.setDefault]
  cases cache.entries.lookup key with
  | none => exact lookup_dictSet_ne apart
  | some stored => rfl

/-- Only the second locked section writes. -/
lemma entries_advance (reads : phase.storing = false) :
    (cache.advance key factory phase).1.entries = cache.entries := by
  cases phase with
  | idle =>
    rw [RunCache.advance.eq_def]
    dsimp only
    cases cache.entries.lookup key with
    | none => rfl
    | some value => rfl
  | computing =>
    rw [RunCache.advance.eq_def]
    dsimp only
    cases factory with
    | ok value => rfl
    | error error => rfl
  | computed value => cases reads
  | returned value => rfl
  | raised error => rfl

/-- A stored value never changes. -/
lemma lookup_advance (stored : cache.entries.lookup k = some v) :
    (cache.advance key factory phase).1.entries.lookup k = some v := by
  cases phase with
  | computed value =>
    change (cache.setDefault key value).1.entries.lookup k = some v
    by_cases same : k = key
    · subst same
      obtain ⟨held, which⟩ := lookup_setDefault_self cache k value
      rw [held, which, stored]
      rfl
    · rw [lookup_setDefault_ne same, stored]
  | idle => rwa [entries_advance rfl]
  | computing => rwa [entries_advance rfl]
  | returned value => rwa [entries_advance rfl]
  | raised error => rwa [entries_advance rfl]

end Sections

section Runs
variable {ι : Type x} {κ : Type u} [DecidableEq κ] {ν : Type v} {ε : Type w} {key : ι → κ}
  {factory : ι → Except ε ν} {state state' : CacheState ι κ ν} {phase phase' : CallPhase ν ε} {i : ι}

/-- The first call that stored a value for a key. -/
def CacheState.firstStore (key : ι → κ) (state : CacheState ι κ ν) (k : κ) : Option ι :=
  state.stores.find? (key · = k)

/-- What is stored under a key is what the factory of the first call to store returned; no call stores whose
factory raised. -/
structure Stored (key : ι → κ) (factory : ι → Except ε ν) (state : CacheState ι κ ν) : Prop where
  returned : ∀ i ∈ state.stores, ∃ value, factory i = .ok value
  held : ∀ k, state.cache.entries.lookup k = (state.firstStore key k).bind fun first => (factory first).toOption

/-- What a call has seen: the value under its key, or what its own factory gave. -/
def Seen (key : ι → κ) (factory : ι → Except ε ν) (i : ι) (state : CacheState ι κ ν) : CallPhase ν ε → Prop
  | .idle => True
  | .computing => True
  | .computed value => factory i = .ok value
  | .returned value => state.cache.entries.lookup (key i) = some value
  | .raised error => factory i = .error error

/-- What is stored under a key stays under it. -/
lemma lookup_of_move {k : κ} {value : ν} (move : callMoves key factory i state phase state' phase')
    (stored : state.cache.entries.lookup k = some value) : state'.cache.entries.lookup k = some value := by
  have cache : state'.cache = (state.cache.advance (key i) (factory i) phase).1 := congrArg Prod.fst move.1
  rw [cache]
  exact lookup_advance stored

/-- What a caller has seen stays in the cache. -/
lemma Seen.mono (seen : Seen key factory i state phase)
    (kept : ∀ {k value}, state.cache.entries.lookup k = some value → state'.cache.entries.lookup k = some value) :
    Seen key factory i state' phase := by
  cases phase with
  | returned value => exact kept seen
  | idle => exact seen
  | computing => exact seen
  | computed value => exact seen
  | raised error => exact seen

/-- A step that is no second locked section leaves what is stored. -/
lemma Stored.of_read (stored : Stored key factory state)
    (move : callMoves key factory i state phase state' phase') (reads : phase.storing = false) :
    Stored key factory state' := by
  obtain ⟨advanced, stores⟩ := move
  have cache : state'.cache = (state.cache.advance (key i) (factory i) phase).1 := congrArg Prod.fst advanced
  rw [reads] at stores
  change state'.stores = state.stores at stores
  refine ⟨?_, ?_⟩
  · rw [stores]
    exact stored.returned
  · intro k
    rw [cache, entries_advance reads, CacheState.firstStore, stores]
    exact stored.held k

/-- The second locked section stores for the first call of a key, and for no other. -/
lemma Stored.of_store {value : ν} (stored : Stored key factory state)
    (move : callMoves key factory i state (.computed value) state' phase') (own : factory i = .ok value) :
    Stored key factory state' := by
  obtain ⟨advanced, stores⟩ := move
  have cache : state'.cache = (state.cache.setDefault (key i) value).1 := congrArg Prod.fst advanced
  change state'.stores = state.stores ++ [i] at stores
  refine ⟨?_, ?_⟩
  · intro j mem
    rw [stores] at mem
    rcases List.mem_append.mp mem with mem | mem
    · exact stored.returned j mem
    · rw [List.mem_singleton.mp mem]
      exact ⟨value, own⟩
  · intro k
    rw [cache, CacheState.firstStore, stores, List.find?_append]
    have held := stored.held k
    rw [CacheState.firstStore] at held
    by_cases same : k = key i
    · subst same
      obtain ⟨there, which⟩ := lookup_setDefault_self state.cache (key i) value
      rw [there, which, held]
      cases found : state.stores.find? (key · = key i) with
      | none =>
        rw [Option.none_or, List.find?_singleton, if_pos (decide_eq_true rfl)]
        change some value = (factory i).toOption
        rw [own]
        rfl
      | some first =>
        obtain ⟨value', returned⟩ := stored.returned first (List.mem_of_find?_eq_some found)
        change some (((factory first).toOption).getD value) = (factory first).toOption
        rw [returned]
        rfl
    · rw [lookup_setDefault_ne same, held, List.find?_singleton, if_neg]
      · rw [Option.or_none]
      · exact fun eq => same (of_decide_eq_true eq).symm

/-- What one step keeps. -/
lemma stored_of_move (stored : Stored key factory state) (seen : Seen key factory i state phase)
    (move : callMoves key factory i state phase state' phase') :
    Stored key factory state' ∧ Seen key factory i state' phase' := by
  have next : phase' = (state.cache.advance (key i) (factory i) phase).2 := congrArg Prod.snd move.1
  cases phase with
  | idle =>
    refine ⟨stored.of_read move rfl, ?_⟩
    rw [next, RunCache.advance.eq_def]
    dsimp only
    cases found : state.cache.entries.lookup (key i) with
    | none => trivial
    | some value => exact lookup_of_move move found
  | computing =>
    refine ⟨stored.of_read move rfl, ?_⟩
    rw [next, RunCache.advance.eq_def]
    dsimp only
    cases own : factory i with
    | ok value => exact own
    | error error => exact own
  | computed value =>
    refine ⟨stored.of_store move seen, ?_⟩
    have cache : state'.cache = (state.cache.setDefault (key i) value).1 := congrArg Prod.fst move.1
    rw [next]
    change state'.cache.entries.lookup (key i) = _
    rw [cache]
    exact (lookup_setDefault_self state.cache (key i) value).1
  | returned value =>
    refine ⟨stored.of_read move rfl, ?_⟩
    rw [next]
    exact lookup_of_move move seen
  | raised error =>
    refine ⟨stored.of_read move rfl, ?_⟩
    rw [next]
    exact seen

variable [DecidableEq ι] {world world' : World ι (CacheState ι κ ν) (CallPhase ν ε)}

/-- No call has begun, and nothing is stored. -/
def unused : World ι (CacheState ι κ ν) (CallPhase ν ε) :=
  ⟨{}, fun _ => .idle⟩

/-- In every run the cache holds what a caller computed, and callers return what it holds. -/
lemma stored_of_run (run : Run (callMoves key factory) unused world) :
    Stored key factory world.shared ∧ ∀ i, Seen key factory i world.shared (world.phase i) := by
  apply Run.invariant (Stored key factory) (Seen key factory) run
  · exact ⟨fun i mem => absurd mem List.not_mem_nil, fun k => rfl⟩
  · intro i
    trivial
  · intro i s p s' p' stored seen move
    exact stored_of_move stored seen move
  · intro i j s p s' p' q _ _ move seen
    exact seen.mono fun held => lookup_of_move move held

/-- Every call that was made is counted once, as a hit or as a miss. -/
def Counted (world : World ι (CacheState ι κ ν) (CallPhase ν ε)) : Prop :=
  ∃ calls : Finset ι, (∀ i, i ∈ calls ↔ (world.phase i).made = true) ∧
    world.shared.cache.hits + world.shared.cache.misses = calls.card

/-- A caller that has made nothing is idle. -/
lemma idle_of_made (made : phase.made = false) : phase = .idle := by
  cases phase with
  | idle => rfl
  | computing => cases made
  | computed value => cases made
  | returned value => cases made
  | raised error => cases made

/-- The first locked section counts its call. -/
lemma counts_idle (cache : RunCache κ ν) (k : κ) (result : Except ε ν) :
    (cache.advance k result .idle).1.hits + (cache.advance k result .idle).1.misses =
      cache.hits + cache.misses + 1 := by
  rw [RunCache.advance.eq_def]
  dsimp only
  cases cache.entries.lookup k with
  | none => rfl
  | some value =>
    dsimp only
    omega

/-- No other step counts. -/
lemma counts_made {cache : RunCache κ ν} {k : κ} {result : Except ε ν} (made : phase.made = true) :
    (cache.advance k result phase).1.hits = cache.hits ∧
      (cache.advance k result phase).1.misses = cache.misses := by
  cases phase with
  | idle => cases made
  | computing =>
    rw [RunCache.advance.eq_def]
    dsimp only
    cases result with
    | ok value => exact ⟨rfl, rfl⟩
    | error error => exact ⟨rfl, rfl⟩
  | computed value =>
    change (cache.setDefault k value).1.hits = cache.hits ∧ (cache.setDefault k value).1.misses = cache.misses
    rw [RunCache.setDefault]
    cases cache.entries.lookup k with
    | none => exact ⟨rfl, rfl⟩
    | some stored => exact ⟨rfl, rfl⟩
  | returned value => exact ⟨rfl, rfl⟩
  | raised error => exact ⟨rfl, rfl⟩

/-- A call that takes a step was made. -/
lemma made_advance (cache : RunCache κ ν) (k : κ) (result : Except ε ν) (phase : CallPhase ν ε) :
    (cache.advance k result phase).2.made = true := by
  cases phase with
  | idle =>
    rw [RunCache.advance.eq_def]
    dsimp only
    cases cache.entries.lookup k with
    | none => rfl
    | some value => rfl
  | computing =>
    rw [RunCache.advance.eq_def]
    dsimp only
    cases result with
    | ok value => rfl
    | error error => rfl
  | computed value => rfl
  | returned value => rfl
  | raised error => rfl

/-- A step keeps the count of computations. -/
lemma Counted.step (counted : Counted world) (step : Interleaved (callMoves key factory) world world') :
    Counted world' := by
  obtain ⟨calls, members, total⟩ := counted
  cases step with
  | @move j state' phase' move =>
    have cache : state'.cache = (world.shared.cache.advance (key j) (factory j) (world.phase j)).1 :=
      congrArg Prod.fst move.1
    have next : phase' = (world.shared.cache.advance (key j) (factory j) (world.phase j)).2 :=
      congrArg Prod.snd move.1
    -- who moves has computed or found its value
    have made : phase'.made = true := by
      rw [next]
      exact made_advance _ _ _ _
    refine ⟨insert j calls, ?_, ?_⟩
    · intro i
      rw [Finset.mem_insert, members]
      change _ ↔ (Function.update world.phase j phase' i).made = true
      by_cases same : i = j
      · subst same
        rw [Function.update_self]
        exact iff_of_true (.inl rfl) made
      · rw [Function.update_of_ne same]
        exact or_iff_right same
    · change state'.cache.hits + state'.cache.misses = _
      rw [cache]
      cases first : (world.phase j).made with
      | false =>
        -- its first move counts, the later ones do not
        have out : j ∉ calls := by
          rw [members, first]
          exact Bool.false_ne_true
        rw [idle_of_made first, counts_idle, total, Finset.card_insert_of_notMem out]
      | true =>
        obtain ⟨hits, misses⟩ := @counts_made κ _ ν ε (world.phase j) world.shared.cache (key j) (factory j) first
        rw [hits, misses, total, Finset.insert_eq_of_mem ((members j).mpr first)]

/-- Every run keeps it. -/
lemma counted_of_run (run : Run (callMoves key factory) unused world) : Counted world := by
  induction run with
  | refl => exact ⟨∅, fun i => iff_of_false (Finset.notMem_empty i) Bool.false_ne_true, rfl⟩
  | tail _ step ih => exact ih.step step

/-- What every interleaving of calls keeps. -/
structure Served (key : ι → κ) (factory : ι → Except ε ν) (world : World ι (CacheState ι κ ν) (CallPhase ν ε)) :
    Prop where
  /-- A call returns what the factory of the first call to store its key returned. -/
  first : ∀ i value, world.phase i = .returned value →
    ∃ first, world.shared.firstStore key (key i) = some first ∧ factory first = .ok value
  agree : ∀ i j value value', key i = key j → world.phase i = .returned value →
    world.phase j = .returned value' → value = value'
  /-- An exception is seen by the call whose factory raised it, which stores nothing. -/
  own : ∀ i error, world.phase i = .raised error → factory i = .error error
  stores : ∀ i ∈ world.shared.stores, ∃ value, factory i = .ok value
  held : ∀ k, world.shared.cache.entries.lookup k =
    (world.shared.firstStore key k).bind fun first => (factory first).toOption
  /-- A value that is stored stays. -/
  stays : ∀ world', Run (callMoves key factory) world world' → ∀ k value,
    world.shared.cache.entries.lookup k = some value → world'.shared.cache.entries.lookup k = some value
  counted : Counted world

/-- However the steps of the calls interleave, the calls of a key that return give one value, that of the
first factory to be stored. -/
theorem getOrCompute_serves (run : Run (callMoves key factory) unused world) : Served key factory world := by
  obtain ⟨stored, seen⟩ := stored_of_run run
  have returned : ∀ i value, world.phase i = .returned value →
      ∃ first, world.shared.firstStore key (key i) = some first ∧ factory first = .ok value := by
    intro i value at'
    have own := seen i
    rw [at'] at own
    change world.shared.cache.entries.lookup (key i) = some value at own
    rw [stored.held, Option.bind_eq_some_iff] at own
    obtain ⟨first, found, result⟩ := own
    refine ⟨first, found, ?_⟩
    cases gave : factory first with
    | ok value' =>
      rw [gave] at result
      rw [Option.some.inj result]
    | error error =>
      rw [gave] at result
      cases result
  refine ⟨returned, ?_, ?_, stored.returned, stored.held, ?_, counted_of_run run⟩
  · intro i j value value' same at' at''
    obtain ⟨first, found, result⟩ := returned i value at'
    obtain ⟨first', found', result'⟩ := returned j value' at''
    rw [same, found'] at found
    cases found
    rw [result'] at result
    exact (Except.ok.inj result).symm
  · intro i error at'
    have own := seen i
    rw [at'] at own
    exact own
  · intro world' later k value there
    have kept := Run.shared (R := fun s s' => ∀ {k value}, s.cache.entries.lookup k = some value →
      s'.cache.entries.lookup k = some value) later
    exact kept (fun _ _ _ there => there) (fun one two _ _ there => two (one there))
      (fun move _ _ there => lookup_of_move move there) there

end Runs

section Race

/-- The factories of two calls of one key. -/
def twoFactories : Bool → Except Unit ℕ
  | true => .ok 1
  | false => .ok 2

/-- A world of two calls of one key. -/
abbrev callers (cache : RunCache Unit ℕ) (stores : List Bool) (a b : CallPhase ℕ Unit) :
    World Bool (CacheState Bool Unit ℕ) (CallPhase ℕ Unit) :=
  .pair ⟨cache, stores⟩ a b

/-- Both calls miss, and the second is the first to store. -/
def raced : World Bool (CacheState Bool Unit ℕ) (CallPhase ℕ Unit) :=
  callers ⟨[((), 2)], 0, 2⟩ [false, true] (.returned 2) (.returned 2)

/-- The start, with both callers idle. -/
lemma unused_eq_callers : unused = callers {} [] .idle .idle := by
  rw [unused, callers, World.pair]
  congr 1
  funext i
  cases i with
  | true => rfl
  | false => rfl

/-- Runs of two callers that compute different values for one key. -/
abbrev Race : World Bool (CacheState Bool Unit ℕ) (CallPhase ℕ Unit) → Prop :=
  Run (callMoves (fun _ => ()) twoFactories) unused

/-- The sample's end is reached. -/
lemma raced_reachable : Race raced := by
  have start : Race (callers {} [] .idle .idle) := by
    rw [← unused_eq_callers]
  have missed : Race (callers ⟨[], 0, 1⟩ [] .computing .idle) := start.first ⟨rfl, rfl⟩
  have both : Race (callers ⟨[], 0, 2⟩ [] .computing .computing) := missed.second ⟨rfl, rfl⟩
  have second : Race (callers ⟨[], 0, 2⟩ [] .computing (.computed 2)) := both.second ⟨rfl, rfl⟩
  have stored : Race (callers ⟨[((), 2)], 0, 2⟩ [false] .computing (.returned 2)) := second.second ⟨rfl, rfl⟩
  have first : Race (callers ⟨[((), 2)], 0, 2⟩ [false] (.computed 1) (.returned 2)) := stored.first ⟨rfl, rfl⟩
  exact first.first ⟨rfl, rfl⟩

/-- Two calls that both compute return the value of the one that stores first. -/
theorem raced_served : Race raced ∧ Served (fun _ => ()) twoFactories raced :=
  ⟨raced_reachable, getOrCompute_serves raced_reachable⟩

end Race

end Jaull.Workflow
