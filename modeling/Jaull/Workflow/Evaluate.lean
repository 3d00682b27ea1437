import Jaull.Lib.Behaviour
import Jaull.Lib.Dict
import Jaull.Lib.ListMap
import Mathlib.Data.List.Nodup
import Mathlib.Data.List.Perm.Subperm
import Mathlib.Logic.Relation

/-!
# Evaluating the shortlist

Port of the loop of `_evaluate` of `jaull/workflow/orchestrator.py`. The main thread keeps a window of tasks in
an executor and collects what is done, whatever the order in which the workers finish. What a task gives is a
function of its candidate. The timings of a candidate and the reports on the progress are left out.
-/

namespace Jaull.Workflow
open Jaull.Lib

universe u v w

section Model
variable {α : Type u} {β : Type v} {ε : Type w}

/-- Python `MAX_CONCURRENT_INSPECTIONS`. -/
def maxConcurrentInspections : ℕ :=
  4

/-- Python `max_workers`. -/
def maxWorkers (shortlist : List α) : ℕ :=
  max 1 (min maxConcurrentInspections shortlist.length)

/-- What leaves `_evaluate` where it does not return. -/
inductive Leaving (ε : Type w)
  /-- What a task raised. -/
  | task (error : ε)
  | workflowCancelled
  /-- A future that is not pending. -/
  | keyError
  deriving DecidableEq, Repr

/-- Where the main thread is. -/
inductive EvaluatePhase (β : Type v) (ε : Type w)
  /-- In front of the first loop. -/
  | filling
  /-- In front of `while pending`. -/
  | waiting
  /-- In front of the loop over what is left of `done`. -/
  | draining (done : List ℕ)
  | returned (result : List β)
  | raised (error : Leaving ε)
  deriving DecidableEq, Repr

/-- `WorkflowCancelled` leaves `_evaluate`. -/
def EvaluatePhase.isCancelled : EvaluatePhase β ε → Bool
  | .raised .workflowCancelled => true
  | _ => false

/-- The variables of `_evaluate`, the tasks that its executor was given, and which of them are finished. A future
is the number of its task. -/
structure EvaluateState (α : Type u) (β : Type v) (ε : Type w) where
  evaluated : List (Option β)
  completed : ℕ := 0
  nextIndex : ℕ := 0
  pending : List (ℕ × ℕ) := []
  tasks : List α := []
  finished : List ℕ := []
  phase : EvaluatePhase β ε
  /-- Whether a check found the run cancelled. -/
  sawCancelled : Bool := false
  deriving DecidableEq, Repr

namespace EvaluateState

/-- The start of `_evaluate`. -/
def start (shortlist : List α) : EvaluateState α β ε where
  evaluated := List.replicate shortlist.length none
  phase := if shortlist.isEmpty then .returned [] else .filling

/-- The main thread has left the loop. -/
def ended (state : EvaluateState α β ε) : Bool :=
  match state.phase with
  | .returned _ => true
  | .raised _ => true
  | _ => false

/-- `raise WorkflowCancelled`. -/
def cancel (state : EvaluateState α β ε) : EvaluateState α β ε :=
  { state with phase := .raised .workflowCancelled, sawCancelled := true }

/-- `executor.submit(evaluate_one, shortlist[next_index])`, and the bookkeeping after it. -/
def submit (shortlist : List α) (state : EvaluateState α β ε) : EvaluateState α β ε :=
  match shortlist[state.nextIndex]? with
  | none => state
  | some candidate =>
    { state with
      tasks := state.tasks ++ [candidate]
      pending := dictSet state.pending state.tasks.length state.nextIndex
      nextIndex := state.nextIndex + 1 }

/-- One round of the loop over `done`. -/
def collect (shortlist : List α) (evaluate : α → Except ε β) (cancelled : Bool) (future : ℕ)
    (rest : List ℕ) (state : EvaluateState α β ε) : EvaluateState α β ε :=
  match state.pending.lookup future, state.tasks[future]? with
  | some index, some candidate =>
    let popped := { state with pending := dictPop state.pending future }
    match evaluate candidate with
    | .error error => { popped with phase := .raised (.task error) }
    | .ok value =>
      let collected :=
        { popped with
          evaluated := state.evaluated.set index (some value)
          completed := state.completed + 1
          phase := .draining rest }
      if state.nextIndex < shortlist.length then
        if cancelled then collected.cancel else collected.submit shortlist
      else collected
  | _, _ => { state with phase := .raised .keyError }

/-- A step of the main thread: `cancelled` is what a check in it is told, and `done` what a wait in it returns. -/
def mainStep (shortlist : List α) (evaluate : α → Except ε β) (cancelled : Bool) (done : List ℕ)
    (state : EvaluateState α β ε) : EvaluateState α β ε :=
  match state.phase with
  | .filling =>
    if state.nextIndex < shortlist.length ∧ state.pending.length < maxWorkers shortlist then
      if cancelled then state.cancel else state.submit shortlist
    else { state with phase := .waiting }
  | .waiting =>
    if state.pending.isEmpty then { state with phase := .returned (state.evaluated.filterMap id) }
    else if cancelled then state.cancel
    else if done.isEmpty then state
    else { state with phase := .draining done }
  | .draining [] => { state with phase := .waiting }
  | .draining (future :: rest) => state.collect shortlist evaluate cancelled future rest
  | .returned _ => state
  | .raised _ => state

/-- What `wait` may return: pending futures that are finished, in any order, and none of them only if none is. -/
structure WaitReturns (state : EvaluateState α β ε) (done : List ℕ) : Prop where
  nodup : done.Nodup
  pending : ∀ future ∈ done, future ∈ state.pending.map Prod.fst
  finished : ∀ future ∈ done, future ∈ state.finished
  timeout : done = [] → ∀ future ∈ state.pending.map Prod.fst, future ∉ state.finished

/-- A worker finishes a task, or the main thread takes a step. -/
inductive Step (shortlist : List α) (evaluate : α → Except ε β) :
    EvaluateState α β ε → EvaluateState α β ε → Prop
  | finish {state : EvaluateState α β ε} {future : ℕ} (task : future < state.tasks.length)
      (running : future ∉ state.finished) :
      Step shortlist evaluate state { state with finished := future :: state.finished }
  | main {state : EvaluateState α β ε} {done : List ℕ} (cancelled : Bool)
      (waited : state.WaitReturns done) :
      Step shortlist evaluate state (state.mainStep shortlist evaluate cancelled done)

/-- The tasks that are in flight. -/
def inFlight (state : EvaluateState α β ε) : List ℕ :=
  (List.range state.tasks.length).filter (· ∉ state.finished)

end EvaluateState

end Model

section Invariants
variable {α : Type u} {β : Type v} {ε : Type w} {shortlist : List α} {evaluate : α → Except ε β}
variable {state : EvaluateState α β ε}

namespace EvaluateState

/-- What holds of the tasks, whatever the main thread does. -/
structure Submitted (shortlist : List α) (state : EvaluateState α β ε) : Prop where
  tasks : state.tasks = shortlist.take state.nextIndex
  within : state.nextIndex ≤ shortlist.length
  once : state.finished.Nodup
  known : ∀ future ∈ state.finished, future < state.nextIndex
  flight : ∀ future, future < state.nextIndex → future ∉ state.finished → future ∈ state.pending.map Prod.fst
  room : state.pending.length ≤ maxWorkers shortlist
  count : state.completed + state.pending.length ≤ state.nextIndex

/-- What holds while the main thread is in the loops: a future stands for the candidate of its number, and what
is not pending is evaluated. -/
structure Running (shortlist : List α) (evaluate : α → Except ε β) (state : EvaluateState α β ε) : Prop where
  keys : (state.pending.map Prod.fst).Nodup
  own : ∀ entry ∈ state.pending, entry.2 = entry.1 ∧ entry.1 < state.nextIndex
  slots : state.evaluated.length = shortlist.length
  count : state.completed + state.pending.length = state.nextIndex
  values : ∀ i candidate, shortlist[i]? = some candidate → i < state.nextIndex →
    i ∉ state.pending.map Prod.fst → ∃ value, state.evaluated[i]? = some (some value) ∧
      evaluate candidate = .ok value

/-- The window is full, or everything was submitted. -/
def Full (shortlist : List α) (state : EvaluateState α β ε) : Prop :=
  state.nextIndex < shortlist.length → state.pending.length = maxWorkers shortlist

/-- What is left of `done`. -/
structure Draining (state : EvaluateState α β ε) (done : List ℕ) : Prop where
  nodup : done.Nodup
  pending : ∀ future ∈ done, future ∈ state.pending.map Prod.fst
  finished : ∀ future ∈ done, future ∈ state.finished

/-- What holds at a place of the main thread. -/
def At (shortlist : List α) (evaluate : α → Except ε β) (state : EvaluateState α β ε) :
    EvaluatePhase β ε → Prop
  | .filling => Running shortlist evaluate state
  | .waiting => Running shortlist evaluate state ∧ Full shortlist state
  | .draining done => Running shortlist evaluate state ∧ Full shortlist state ∧ Draining state done
  | .returned result => shortlist.mapM evaluate = .ok result
  | .raised (.task error) => ∃ candidate ∈ state.tasks, evaluate candidate = .error error
  | .raised .workflowCancelled => True
  | .raised .keyError => False

/-- The invariant of `_evaluate`. -/
structure Sound (shortlist : List α) (evaluate : α → Except ε β) (state : EvaluateState α β ε) : Prop where
  submitted : Submitted shortlist state
  place : At shortlist evaluate state state.phase
  cancelled : state.sawCancelled = state.phase.isCancelled

lemma Submitted.length (submitted : Submitted shortlist state) : state.tasks.length = state.nextIndex := by
  rw [submitted.tasks, List.length_take]
  exact Nat.min_eq_left submitted.within

/-- Neither the place of the main thread nor the work of the workers matters. -/
lemma Running.elsewhere (running : Running shortlist evaluate state) (phase : EvaluatePhase β ε)
    (finished : List ℕ) : Running shortlist evaluate { state with phase := phase, finished := finished } :=
  ⟨running.keys, running.own, running.slots, running.count, running.values⟩

/-- A task is the candidate of its number. -/
lemma Submitted.task (submitted : Submitted shortlist state) {future : ℕ} (lt : future < state.nextIndex) :
    state.tasks[future]? = shortlist[future]? := by
  rw [submitted.tasks, List.getElem?_take, if_pos lt]

/-- The next candidate goes to the executor under a future of its own. -/
lemma submit_eq (submitted : Submitted shortlist state) (running : Running shortlist evaluate state)
    (lt : state.nextIndex < shortlist.length) :
    state.submit shortlist =
      { state with
        tasks := shortlist.take (state.nextIndex + 1)
        pending := state.pending ++ [(state.nextIndex, state.nextIndex)]
        nextIndex := state.nextIndex + 1 } := by
  have fresh : state.nextIndex ∉ state.pending.map Prod.fst := by
    intro mem
    obtain ⟨entry, there, same⟩ := List.mem_map.mp mem
    have below := (running.own entry there).2
    omega
  rw [submit, List.getElem?_eq_getElem lt]
  dsimp only
  rw [submitted.length, dictSet_of_notMem fresh, submitted.tasks, List.take_add_one,
    List.getElem?_eq_getElem lt]
  rfl

lemma mem_keys_append {i : ℕ} : i ∈ (state.pending ++ [(state.nextIndex, state.nextIndex)]).map Prod.fst ↔
    i ∈ state.pending.map Prod.fst ∨ i = state.nextIndex := by
  rw [List.map_append, List.mem_append, List.map_singleton, List.mem_singleton]

/-- A submission within the room of the window. -/
lemma submitted_submit (submitted : Submitted shortlist state) (running : Running shortlist evaluate state)
    (lt : state.nextIndex < shortlist.length) (room : state.pending.length < maxWorkers shortlist) :
    Submitted shortlist (state.submit shortlist) ∧ Running shortlist evaluate (state.submit shortlist) := by
  have count := running.count
  rw [submit_eq submitted running lt]
  constructor
  · refine ⟨rfl, lt, submitted.once, ?_, ?_, ?_, ?_⟩
    · exact fun future mem => Nat.lt_succ_of_lt (submitted.known future mem)
    · intro future below unfinished
      apply mem_keys_append.mpr
      rcases Nat.lt_succ_iff_lt_or_eq.mp below with below | same
      · exact .inl (submitted.flight future below unfinished)
      · exact .inr same
    · dsimp only
      rw [List.length_append]
      exact room
    · dsimp only
      rw [List.length_append, List.length_singleton]
      omega
  · refine ⟨?_, ?_, running.slots, ?_, ?_⟩
    · dsimp only
      rw [List.map_append, List.nodup_append]
      refine ⟨running.keys, List.nodup_singleton _, ?_⟩
      intro future mem other mem' same
      obtain ⟨entry, there, eq⟩ := List.mem_map.mp mem
      have below := (running.own entry there).2
      have last := List.mem_singleton.mp mem'
      dsimp only at last
      omega
    · intro entry mem
      rcases List.mem_append.mp mem with mem | mem
      · obtain ⟨same, below⟩ := running.own entry mem
        exact ⟨same, Nat.lt_succ_of_lt below⟩
      · rw [List.mem_singleton.mp mem]
        exact ⟨rfl, Nat.lt_succ_self _⟩
    · dsimp only
      rw [List.length_append, List.length_singleton]
      omega
    · intro i candidate at' below out
      rw [mem_keys_append, not_or] at out
      exact running.values i candidate at' (by change i < state.nextIndex + 1 at below; omega) out.1

/-- The state after a task gave a value, in front of the refill. -/
def collected (state : EvaluateState α β ε) (future : ℕ) (value : β) (rest : List ℕ) : EvaluateState α β ε :=
  { state with
    pending := dictPop state.pending future
    evaluated := state.evaluated.set future (some value)
    completed := state.completed + 1
    phase := .draining rest }

/-- What is pending without a future. -/
lemma mem_keys_dictPop {future i : ℕ} :
    i ∈ (dictPop state.pending future).map Prod.fst ↔ i ∈ state.pending.map Prod.fst ∧ i ≠ future := by
  rw [List.mem_map, List.mem_map]
  constructor
  · intro mem
    obtain ⟨entry, kept, rfl⟩ := mem
    obtain ⟨there, other⟩ := List.mem_filter.mp kept
    exact ⟨⟨entry, there, rfl⟩, of_decide_eq_true other⟩
  · intro mem
    obtain ⟨⟨entry, there, rfl⟩, other⟩ := mem
    exact ⟨entry, List.mem_filter.mpr ⟨there, decide_eq_true other⟩, rfl⟩

/-- One future less is pending. -/
lemma length_pop (running : Running shortlist evaluate state) {future : ℕ}
    (mem : future ∈ state.pending.map Prod.fst) :
    (dictPop state.pending future).length + 1 = state.pending.length := by
  obtain ⟨entry, there, rfl⟩ := List.mem_map.mp mem
  exact (perm_dictPop running.keys there).length_eq.symm

/-- A finished future is popped. -/
lemma submitted_pop (submitted : Submitted shortlist state) {future : ℕ} (finished : future ∈ state.finished)
    {phase : EvaluatePhase β ε} : Submitted shortlist
      { state with pending := dictPop state.pending future, phase := phase } := by
  have le : (dictPop state.pending future).length ≤ state.pending.length := List.length_filter_le _ _
  have room := submitted.room
  have count := submitted.count
  refine ⟨submitted.tasks, submitted.within, submitted.once, submitted.known, ?_, le.trans room, ?_⟩
  · intro other below unfinished
    apply mem_keys_dictPop.mpr
    refine ⟨submitted.flight other below unfinished, ?_⟩
    intro same
    subst same
    exact unfinished finished
  · dsimp only
    omega

/-- A finished task gave a value. -/
lemma collected_sound (submitted : Submitted shortlist state) (running : Running shortlist evaluate state)
    {future : ℕ} {rest : List ℕ} (draining : Draining state (future :: rest)) {candidate : α} {value : β}
    (task : shortlist[future]? = some candidate) (gave : evaluate candidate = .ok value) :
    Submitted shortlist (state.collected future value rest) ∧
      Running shortlist evaluate (state.collected future value rest) ∧
        Draining (state.collected future value rest) rest := by
  have mem := draining.pending future List.mem_cons_self
  have finished := draining.finished future List.mem_cons_self
  have length := length_pop running mem
  have count := running.count
  obtain ⟨lt, -⟩ := List.getElem?_eq_some_iff.mp task
  refine ⟨?_, ?_, ?_⟩
  · obtain ⟨tasks, within, once, known, flight, room, -⟩ :=
      @submitted_pop _ _ _ shortlist state submitted future finished state.phase
    refine ⟨tasks, within, once, known, flight, room, ?_⟩
    change state.completed + 1 + (dictPop state.pending future).length ≤ state.nextIndex
    omega
  · refine ⟨?_, ?_, ?_, ?_, ?_⟩
    · exact running.keys.sublist (List.filter_sublist.map Prod.fst)
    · exact fun entry kept => running.own entry (List.mem_filter.mp kept).1
    · exact List.length_set.trans running.slots
    · change state.completed + 1 + (dictPop state.pending future).length = state.nextIndex
      omega
    · intro i other at' below out
      change ∃ value', (state.evaluated.set future (some value))[i]? = some (some value') ∧ _
      by_cases same : i = future
      · subst same
        rw [task, Option.some.injEq] at at'
        subst at'
        refine ⟨value, ?_, gave⟩
        rw [List.getElem?_set_self (by rw [running.slots]; exact lt)]
      · rw [List.getElem?_set_ne (Ne.symm same)]
        apply running.values i other at' below
        intro there
        exact out (mem_keys_dictPop.mpr ⟨there, same⟩)
  · obtain ⟨fresh, nodup⟩ := List.nodup_cons.mp draining.nodup
    refine ⟨nodup, ?_, ?_⟩
    · intro other own
      apply mem_keys_dictPop.mpr
      refine ⟨draining.pending other (List.mem_cons_of_mem _ own), ?_⟩
      intro same
      subst same
      exact fresh own
    · exact fun other own => draining.finished other (List.mem_cons_of_mem _ own)

/-- Slots that hold what a function gives are a run of it over the list. -/
lemma mapM_of_slots {candidates : List α} {slots : List (Option β)} (length : slots.length = candidates.length)
    (filled : ∀ (i : ℕ) candidate, candidates[i]? = some candidate →
      ∃ value, slots[i]? = some (some value) ∧ evaluate candidate = .ok value) :
    candidates.mapM evaluate = .ok (slots.filterMap id) := by
  induction candidates generalizing slots with
  | nil =>
    rw [List.length_eq_zero_iff.mp length]
    rfl
  | cons candidate candidates ih =>
    cases slots with
    | nil => cases length
    | cons slot slots =>
      obtain ⟨value, first, gave⟩ := filled 0 candidate rfl
      rw [List.getElem?_cons_zero, Option.some.injEq] at first
      have later := ih (Nat.succ.inj length) fun i other at' => filled (i + 1) other at'
      rw [first, List.mapM_cons, gave, ok_bind, later, ok_bind]
      rfl

lemma maxWorkers_pos (shortlist : List α) : 0 < maxWorkers shortlist :=
  Nat.lt_of_lt_of_le Nat.zero_lt_one (Nat.le_max_left _ _)

/-- When nothing is pending, everything is evaluated. -/
lemma mapM_of_done (submitted : Submitted shortlist state) (running : Running shortlist evaluate state)
    (full : Full shortlist state) (empty : state.pending = []) :
    shortlist.mapM evaluate = .ok (state.evaluated.filterMap id) := by
  have all : state.nextIndex = shortlist.length := by
    by_contra short
    have window := full (Nat.lt_of_le_of_ne submitted.within short)
    rw [empty, List.length_nil] at window
    exact absurd window.symm (maxWorkers_pos shortlist).ne'
  apply mapM_of_slots running.slots
  intro i candidate at'
  obtain ⟨lt, -⟩ := List.getElem?_eq_some_iff.mp at'
  apply running.values i candidate at' (by omega)
  rw [empty]
  exact List.not_mem_nil

/-- Cancelling keeps the state sound. -/
lemma sound_cancel (submitted : Submitted shortlist state) : Sound shortlist evaluate state.cancel := by
  obtain ⟨tasks, within, once, known, flight, room, count⟩ := submitted
  exact ⟨⟨tasks, within, once, known, flight, room, count⟩, trivial, rfl⟩

/-- The main thread goes on to another place. -/
lemma Sound.goes (sound : Sound shortlist evaluate state) (here : state.phase.isCancelled = false)
    {phase : EvaluatePhase β ε} (calm : phase.isCancelled = false)
    (place : At shortlist evaluate { state with phase := phase } phase) :
    Sound shortlist evaluate { state with phase := phase } := by
  obtain ⟨tasks, within, once, known, flight, room, count⟩ := sound.submitted
  exact ⟨⟨tasks, within, once, known, flight, room, count⟩, place,
    (sound.cancelled.trans here).trans calm.symm⟩

/-- A submission leaves what is left of `done`. -/
lemma draining_submit {done : List ℕ} (submitted : Submitted shortlist state)
    (running : Running shortlist evaluate state) (lt : state.nextIndex < shortlist.length)
    (draining : Draining state done) : Draining (state.submit shortlist) done := by
  rw [submit_eq submitted running lt]
  refine ⟨draining.nodup, ?_, draining.finished⟩
  intro future mem
  exact mem_keys_append.mpr (.inl (draining.pending future mem))

/-- The last room of the window is filled. -/
lemma full_submit (submitted : Submitted shortlist state) (running : Running shortlist evaluate state)
    (lt : state.nextIndex < shortlist.length) (last : state.pending.length + 1 = maxWorkers shortlist) :
    Full shortlist (state.submit shortlist) := by
  rw [submit_eq submitted running lt]
  intro _
  dsimp only
  rw [List.length_append]
  exact last

/-- A submission changes neither the place nor what the checks were told. -/
lemma phase_submit (state : EvaluateState α β ε) : (state.submit shortlist).phase = state.phase ∧
    (state.submit shortlist).sawCancelled = state.sawCancelled := by
  rw [submit]
  split
  · exact ⟨rfl, rfl⟩
  · exact ⟨rfl, rfl⟩

/-- A round of the loop over `done`. -/
lemma sound_collect {future : ℕ} {rest : List ℕ} (sound : Sound shortlist evaluate state)
    (here : state.phase = .draining (future :: rest)) (cancelled : Bool) :
    Sound shortlist evaluate (state.collect shortlist evaluate cancelled future rest) := by
  have calm : state.sawCancelled = false := by
    rw [sound.cancelled, here]
    rfl
  have place := sound.place
  rw [here] at place
  obtain ⟨running, full, draining⟩ := place
  obtain ⟨entry, there, eq⟩ := List.mem_map.mp (draining.pending future List.mem_cons_self)
  subst eq
  obtain ⟨same, below⟩ := running.own entry there
  have found : state.pending.lookup entry.1 = some entry.1 := by
    have own := lookup_of_mem running.keys there
    rw [same] at own
    exact own
  have lt := Nat.lt_of_lt_of_le below sound.submitted.within
  have task := List.getElem?_eq_getElem lt
  have task' := (sound.submitted.task below).trans task
  rw [collect, found, task']
  dsimp only
  cases gave : evaluate shortlist[entry.1] with
  | error error =>
    have popped := draining.finished entry.1 List.mem_cons_self
    exact ⟨submitted_pop sound.submitted popped, ⟨_, List.mem_of_getElem? task', gave⟩, calm⟩
  | ok value =>
    obtain ⟨submitted, running', draining'⟩ := collected_sound sound.submitted running draining task gave
    have length := length_pop running (List.mem_map_of_mem there)
    have room := sound.submitted.room
    dsimp only
    split
    · rename_i more
      cases cancelled with
      | true => exact sound_cancel submitted
      | false =>
        -- the slot that came free is filled again
        have last : (dictPop state.pending entry.1).length + 1 = maxWorkers shortlist := length.trans (full more)
        obtain ⟨refilled, running''⟩ := submitted_submit submitted running' more (Nat.lt_of_succ_le last.le)
        obtain ⟨phase, saw⟩ := @phase_submit _ _ _ shortlist (state.collected entry.1 value rest)
        refine ⟨refilled, ?_, saw.trans (calm.trans ?_)⟩
        · change At shortlist evaluate ((state.collected entry.1 value rest).submit shortlist)
            ((state.collected entry.1 value rest).submit shortlist).phase
          rw [phase]
          exact ⟨running'', full_submit submitted running' more last,
            draining_submit submitted running' more draining'⟩
        · change _ = ((state.collected entry.1 value rest).submit shortlist).phase.isCancelled
          rw [phase]
          rfl
    · rename_i last
      exact ⟨submitted, ⟨running', fun more => absurd more last, draining'⟩, calm⟩

/-- What a step of the main thread keeps. -/
lemma sound_mainStep {done : List ℕ} (sound : Sound shortlist evaluate state) (waited : state.WaitReturns done)
    (cancelled : Bool) : Sound shortlist evaluate (state.mainStep shortlist evaluate cancelled done) := by
  have place := sound.place
  rw [mainStep.eq_def]
  cases here : state.phase with
  | filling =>
    have calm : state.phase.isCancelled = false := by
      rw [here]
      rfl
    rw [here] at place
    dsimp only
    split
    · rename_i room
      cases cancelled with
      | true => exact sound_cancel sound.submitted
      | false =>
        obtain ⟨submitted, running⟩ := submitted_submit sound.submitted place room.1 room.2
        obtain ⟨phase, saw⟩ := @phase_submit _ _ _ shortlist state
        refine ⟨submitted, ?_, ?_⟩
        · change At shortlist evaluate (state.submit shortlist) (state.submit shortlist).phase
          rw [phase, here]
          exact running
        · change (state.submit shortlist).sawCancelled = (state.submit shortlist).phase.isCancelled
          rw [saw, phase]
          exact sound.cancelled
    · -- no room or no more tasks: the pool is full
      rename_i closed
      apply sound.goes calm rfl
      refine ⟨Running.elsewhere place _ _, ?_⟩
      intro more
      apply Nat.le_antisymm sound.submitted.room
      exact Nat.le_of_not_lt fun room => closed ⟨more, room⟩
  | waiting =>
    have calm : state.phase.isCancelled = false := by
      rw [here]
      rfl
    rw [here] at place
    obtain ⟨running, full⟩ := place
    dsimp only
    split
    · rename_i empty
      exact sound.goes calm rfl (mapM_of_done sound.submitted running full (List.isEmpty_iff.mp empty))
    · cases cancelled with
      | true => exact sound_cancel sound.submitted
      | false =>
        rw [if_neg Bool.false_ne_true]
        split
        · exact sound
        · exact sound.goes calm rfl ⟨running.elsewhere _ _, full, waited.nodup, waited.pending, waited.finished⟩
  | draining done' =>
    cases done' with
    | nil =>
      have calm : state.phase.isCancelled = false := by
        rw [here]
        rfl
      rw [here] at place
      exact sound.goes calm rfl ⟨place.1.elsewhere _ _, place.2.1⟩
    | cons future rest => exact sound_collect sound here cancelled
  | returned result => exact sound
  | raised error => exact sound

/-- A task that is finished changes nothing for the main thread. -/
lemma at_finish (future : ℕ) {phase : EvaluatePhase β ε} (place : At shortlist evaluate state phase) :
    At shortlist evaluate { state with finished := future :: state.finished } phase := by
  cases phase with
  | filling => exact Running.elsewhere place _ _
  | waiting => exact ⟨place.1.elsewhere _ _, place.2⟩
  | draining done =>
    obtain ⟨running, full, draining⟩ := place
    refine ⟨running.elsewhere _ _, full, draining.nodup, draining.pending, ?_⟩
    exact fun other mem => List.mem_cons_of_mem _ (draining.finished other mem)
  | returned result => exact place
  | raised error =>
    cases error with
    | task error => exact place
    | workflowCancelled => trivial
    | keyError => exact place

/-- What a step keeps. -/
lemma sound_step {state' : EvaluateState α β ε} (sound : Sound shortlist evaluate state)
    (step : Step shortlist evaluate state state') : Sound shortlist evaluate state' := by
  cases step with
  | @finish future task running =>
    obtain ⟨tasks, within, once, known, flight, room, count⟩ := sound.submitted
    rw [sound.submitted.length] at task
    refine ⟨⟨tasks, within, List.nodup_cons.mpr ⟨running, once⟩, ?_, ?_, room, count⟩,
      at_finish future sound.place, sound.cancelled⟩
    · intro other mem
      rcases List.mem_cons.mp mem with same | mem
      · rw [same]
        exact task
      · exact known other mem
    · intro other below unfinished
      exact flight other below fun mem => unfinished (List.mem_cons_of_mem _ mem)
  | main cancelled waited => exact sound_mainStep sound waited cancelled

/-- The first state is sound. -/
lemma sound_start : Sound shortlist evaluate (start shortlist) := by
  refine ⟨⟨rfl, Nat.zero_le _, List.nodup_nil, ?_, ?_, Nat.zero_le _, Nat.zero_le _⟩, ?_, ?_⟩
  · exact fun future mem => absurd mem List.not_mem_nil
  · exact fun future below => absurd below (Nat.not_lt_zero future)
  · cases shortlist with
    | nil => rfl
    | cons candidate shortlist =>
      refine ⟨List.nodup_nil, fun entry mem => absurd mem List.not_mem_nil, List.length_replicate, rfl, ?_⟩
      exact fun i candidate _ below => absurd below (Nat.not_lt_zero i)
  · cases shortlist with
    | nil => rfl
    | cons candidate shortlist => rfl

end EvaluateState

end Invariants

section Behaviours
variable {α : Type u} {β : Type v} {ε : Type w} {shortlist : List α} {evaluate : α → Except ε β}
variable {state state' : EvaluateState α β ε}

namespace EvaluateState

/-- The states that an evaluation can reach. -/
def Reachable (shortlist : List α) (evaluate : α → Except ε β) (state : EvaluateState α β ε) : Prop :=
  Relation.ReflTransGen (Step shortlist evaluate) (start shortlist) state

/-- So is every state of a run. -/
lemma sound_of_reachable (reachable : Reachable shortlist evaluate state) :
    Sound shortlist evaluate state := by
  induction reachable with
  | refl => exact sound_start
  | tail _ step ih => exact sound_step ih step

/-- At most `max_workers` tasks are in flight. -/
lemma length_inFlight (submitted : Submitted shortlist state) :
    state.inFlight.length ≤ maxWorkers shortlist := by
  have nodup : state.inFlight.Nodup := List.nodup_range.filter _
  have sub : state.inFlight ⊆ state.pending.map Prod.fst := by
    intro future mem
    obtain ⟨below, unfinished⟩ := List.mem_filter.mp mem
    rw [List.mem_range, submitted.length] at below
    exact submitted.flight future below (of_decide_eq_true unfinished)
  have le := (List.subperm_of_subset nodup sub).length_le
  rw [List.length_map] at le
  exact le.trans submitted.room

/-- The main thread waits for a task that is not finished. -/
def Waits (state : EvaluateState α β ε) : Prop :=
  ∃ future, future < state.tasks.length ∧ future ∉ state.finished

/-- A submission finishes nothing. -/
lemma finished_submit (shortlist : List α) (state : EvaluateState α β ε) :
    (state.submit shortlist).finished = state.finished ∧ (state.submit shortlist).completed = state.completed := by
  rw [submit]
  split
  · exact ⟨rfl, rfl⟩
  · exact ⟨rfl, rfl⟩

/-- Only the workers finish tasks. -/
lemma finished_mainStep (cancelled : Bool) (done : List ℕ) :
    (state.mainStep shortlist evaluate cancelled done).finished = state.finished := by
  rw [mainStep.eq_def]
  split
  · split
    · split
      · rfl
      · exact (finished_submit shortlist state).1
    · rfl
  · split
    · rfl
    · split
      · rfl
      · split
        · rfl
        · rfl
  · rfl
  · rw [collect]
    split
    · dsimp only
      split
      · rfl
      · split
        · split
          · rfl
          · exact (finished_submit shortlist _).1
        · rfl
    · rfl
  · rfl
  · rfl

/-- What the place of the main thread adds to the measure. -/
def weight : EvaluatePhase β ε → ℕ
  | .filling => 3
  | .waiting => 1
  | .draining [] => 2
  | .draining (_ :: _) => 0
  | .returned _ => 0
  | .raised _ => 0

/-- What is left to do: tasks to finish, to submit and to collect. -/
def measure (shortlist : List α) (state : EvaluateState α β ε) : ℕ :=
  (shortlist.length - state.finished.length) + (shortlist.length - state.nextIndex) +
    3 * (shortlist.length - state.completed) + weight state.phase

/-- No more futures finish than there are candidates. -/
lemma Submitted.finished_le (submitted : Submitted shortlist state) :
    state.finished.length ≤ shortlist.length := by
  have sub : state.finished ⊆ List.range state.nextIndex :=
    fun future mem => List.mem_range.mpr (submitted.known future mem)
  have le := (List.subperm_of_subset submitted.once sub).length_le
  rw [List.length_range] at le
  exact le.trans submitted.within

/-- Draining is the last phase but one. -/
lemma weight_draining_le (done : List ℕ) : weight (.draining done : EvaluatePhase β ε) ≤ 2 := by
  cases done with
  | nil => exact Nat.le_refl 2
  | cons future rest => exact Nat.zero_le 2

/-- A submission does not raise the measure. -/
lemma measure_submit_le (shortlist : List α) (state : EvaluateState α β ε) :
    measure shortlist (state.submit shortlist) ≤ measure shortlist state := by
  rw [submit]
  split
  · exact Nat.le_refl _
  · rw [measure, measure]
    dsimp only
    omega

/-- A round of the loop over `done` that goes on lowers the measure. -/
lemma collect_lowers {future : ℕ} {rest : List ℕ} (sound : Sound shortlist evaluate state)
    (here : state.phase = .draining (future :: rest)) (cancelled : Bool)
    (goes : (state.collect shortlist evaluate cancelled future rest).ended = false) :
    measure shortlist (state.collect shortlist evaluate cancelled future rest) < measure shortlist state := by
  have place := sound.place
  rw [here] at place
  have count := place.1.count
  have length := length_pop place.1 (place.2.2.pending future List.mem_cons_self)
  have within := sound.submitted.within
  have light := @weight_draining_le β ε rest
  -- one future less to drain and one task completed
  have after : ∀ slots : List (Option β), measure shortlist
      ({ state with
        pending := dictPop state.pending future
        evaluated := slots
        completed := state.completed + 1
        phase := .draining rest } : EvaluateState α β ε) < measure shortlist state := by
    intro slots
    rw [measure, measure, here, weight.eq_def (.draining (future :: rest))]
    dsimp only
    omega
  rw [collect] at goes ⊢
  cases found : state.pending.lookup future with
  | none =>
    rw [found] at goes
    cases goes
  | some index =>
    cases task : state.tasks[future]? with
    | none =>
      rw [found, task] at goes
      cases goes
    | some candidate =>
      rw [found, task] at goes
      dsimp only at goes ⊢
      cases gave : evaluate candidate with
      | error error =>
        rw [gave] at goes
        cases goes
      | ok value =>
        rw [gave] at goes
        dsimp only at goes ⊢
        by_cases more : state.nextIndex < shortlist.length
        · rw [if_pos more] at goes ⊢
          cases cancelled with
          | true => cases goes
          | false =>
            rw [if_neg Bool.false_ne_true]
            exact Nat.lt_of_le_of_lt (measure_submit_le shortlist _) (after _)
        · rw [if_neg more]
          exact after _

/-- The main thread lowers the measure, or waits. -/
lemma mainStep_lowers {done : List ℕ} (sound : Sound shortlist evaluate state)
    (waited : state.WaitReturns done) (cancelled : Bool)
    (goes : (state.mainStep shortlist evaluate cancelled done).ended = false) :
    (state.mainStep shortlist evaluate cancelled done = state ∧ Waits state) ∨
      measure shortlist (state.mainStep shortlist evaluate cancelled done) < measure shortlist state := by
  have place := sound.place
  rw [mainStep.eq_def] at goes ⊢
  cases here : state.phase with
  | filling =>
    rw [here] at place goes
    dsimp only at goes ⊢
    by_cases room : state.nextIndex < shortlist.length ∧ state.pending.length < maxWorkers shortlist
    · rw [if_pos room] at goes ⊢
      cases cancelled with
      | true => cases goes
      | false =>
        rw [if_neg Bool.false_ne_true, submit_eq sound.submitted place room.1, measure, measure]
        dsimp only
        omega
    · rw [if_neg room, measure, measure, here, weight, weight]
      dsimp only
      omega
  | waiting =>
    rw [here] at place goes
    dsimp only at goes ⊢
    by_cases empty : state.pending.isEmpty = true
    · rw [if_pos empty] at goes
      cases goes
    · rw [if_neg empty] at goes ⊢
      cases cancelled with
      | true => cases goes
      | false =>
        rw [if_neg Bool.false_ne_true]
        cases done with
        | nil =>
          -- nothing that is pending is finished
          obtain ⟨entry, rest, pending⟩ := List.exists_cons_of_ne_nil
            (fun none => empty (List.isEmpty_iff.mpr none) : state.pending ≠ [])
          have mem : entry ∈ state.pending := by
            rw [pending]
            exact List.mem_cons_self
          refine .inl ⟨rfl, entry.1, ?_, waited.timeout rfl entry.1 (List.mem_map_of_mem mem)⟩
          rw [sound.submitted.length]
          exact (place.1.own entry mem).2
        | cons future rest =>
          right
          rw [List.isEmpty_cons, if_neg Bool.false_ne_true, measure, measure, here, weight, weight]
          dsimp only
          omega
  | draining done' =>
    cases done' with
    | nil =>
      right
      rw [measure, measure, here, weight, weight]
      dsimp only
      omega
    | cons future rest =>
      rw [here] at goes
      exact .inr (collect_lowers sound here cancelled goes)
  | returned result =>
    rw [here, ended, here] at goes
    cases goes
  | raised error =>
    rw [here, ended, here] at goes
    cases goes

/-- Every step lowers the measure, or waits. -/
lemma step_lowers (sound : Sound shortlist evaluate state) (step : Step shortlist evaluate state state')
    (goes : ¬state'.ended = true) :
    (state' = state ∧ Waits state) ∨ measure shortlist state' < measure shortlist state := by
  have sound' := sound_step sound step
  cases step with
  | @finish future task running =>
    right
    have le := sound'.submitted.finished_le
    change state.finished.length + 1 ≤ shortlist.length at le
    rw [measure, measure]
    dsimp only
    rw [List.length_cons]
    omega
  | main cancelled waited => exact mainStep_lowers sound waited cancelled (Bool.eq_false_of_not_eq_true goes)

/-- A finished task stays finished. -/
lemma finished_step {future : ℕ} (finished : future ∈ state.finished)
    (step : Step shortlist evaluate state state') : future ∈ state'.finished := by
  cases step with
  | finish task running => exact List.mem_cons_of_mem _ finished
  | main cancelled waited =>
    rw [finished_mainStep]
    exact finished

/-- While the main thread is in its loops, it can go on. -/
lemma exists_step (sound : Sound shortlist evaluate state) (goes : state.ended = false) :
    ∃ state', Step shortlist evaluate state state' := by
  have running : Running shortlist evaluate state := by
    have place := sound.place
    cases here : state.phase with
    | filling =>
      rw [here] at place
      exact place
    | waiting =>
      rw [here] at place
      exact place.1
    | draining done =>
      rw [here] at place
      exact place.1
    | returned result =>
      rw [ended, here] at goes
      cases goes
    | raised error =>
      rw [ended, here] at goes
      cases goes
  have waited : state.WaitReturns ((state.pending.map Prod.fst).filter (· ∈ state.finished)) := by
    refine ⟨running.keys.filter _, ?_, ?_, ?_⟩
    · exact fun future mem => (List.mem_filter.mp mem).1
    · exact fun future mem => of_decide_eq_true (List.mem_filter.mp mem).2
    · intro empty future mem finished
      have own : future ∈ (state.pending.map Prod.fst).filter (· ∈ state.finished) :=
        List.mem_filter.mpr ⟨mem, decide_eq_true finished⟩
      rw [empty] at own
      cases own
  exact ⟨_, .main false waited⟩

/-- What left the loop, in a run of the shortlist. -/
inductive Outcome (shortlist : List α) (evaluate : α → Except ε β) (state : EvaluateState α β ε) : Prop
  /-- What the list gives if it is evaluated in order. -/
  | returned {result : List β} (phase : state.phase = .returned result) (saw : state.sawCancelled = false)
      (sequential : shortlist.mapM evaluate = .ok result)
  /-- What a submitted task raised. -/
  | task {error : ε} {candidate : α} (phase : state.phase = .raised (.task error))
      (saw : state.sawCancelled = false) (mem : candidate ∈ state.tasks)
      (raised : evaluate candidate = .error error)
  | cancelled (phase : state.phase = .raised .workflowCancelled) (saw : state.sawCancelled = true)

/-- The outcome of a state that has ended. -/
lemma outcome_of_ended (sound : Sound shortlist evaluate state) (ended : state.ended = true) :
    Outcome shortlist evaluate state := by
  have place := sound.place
  have saw := sound.cancelled
  cases here : state.phase with
  | filling =>
    rw [EvaluateState.ended, here] at ended
    cases ended
  | waiting =>
    rw [EvaluateState.ended, here] at ended
    cases ended
  | draining done =>
    rw [EvaluateState.ended, here] at ended
    cases ended
  | returned result =>
    rw [here] at place saw
    exact .returned here saw place
  | raised error =>
    rw [here] at place saw
    cases error with
    | task error =>
      obtain ⟨candidate, mem, raised⟩ := place
      exact .task here saw mem raised
    | workflowCancelled => exact .cancelled here saw
    | keyError => exact place.elim

end EvaluateState

end Behaviours

section Evaluates
variable {α : Type u} {β : Type v} {ε : Type w}
open EvaluateState

/-- What `_evaluate` keeps, whatever the order in which its tasks finish. -/
structure Evaluates (shortlist : List α) (evaluate : α → Except ε β) : Prop where
  window : ∀ state, Reachable shortlist evaluate state → state.inFlight.length ≤ maxWorkers shortlist
  /-- The candidates are submitted in order, each once. -/
  once : ∀ state, Reachable shortlist evaluate state → state.tasks <+: shortlist
  outcome : ∀ state, Reachable shortlist evaluate state → state.ended = true →
    Outcome shortlist evaluate state
  goesOn : ∀ state, Reachable shortlist evaluate state → state.ended = false →
    ∃ state', Step shortlist evaluate state state'
  /-- There is an end where every task that was submitted finishes. -/
  ends : ∀ run, Behaviour (Step shortlist evaluate) (·.ended = true) run → run 0 = start shortlist →
    (∀ t future, future < (run t).tasks.length → ∃ t', future ∈ (run t').finished) →
      ∃ t, (run t).ended = true

/-- However the workers finish, the shortlist is evaluated as in order, within the window, and what a task or a
check raises is what leaves. -/
theorem evaluate_evaluates (shortlist : List α) (evaluate : α → Except ε β) :
    Evaluates shortlist evaluate where
  window := fun _ reachable => length_inFlight (sound_of_reachable reachable).submitted
  once := by
    intro state reachable
    rw [(sound_of_reachable reachable).submitted.tasks]
    exact List.take_prefix _ _
  outcome := fun _ reachable => outcome_of_ended (sound_of_reachable reachable)
  goesOn := fun _ reachable => exists_step (sound_of_reachable reachable)
  ends := by
    intro run behaviour first finishes
    apply @Behaviour.ends _ _ _ run behaviour (Sound shortlist evaluate) Waits (measure shortlist)
    · rw [first]
      exact sound_start
    · exact sound_step
    · exact step_lowers
    · intro t _ waits
      obtain ⟨future, task, running⟩ := waits
      obtain ⟨t', finished⟩ := finishes t future task
      refine ⟨t', ?_, ?_⟩
      · by_contra before
        have kept := @Behaviour.mono _ _ _ run behaviour (future ∈ ·.finished) finished_step _ _
          (Nat.le_of_not_le before) finished
        exact running kept
      · intro same
        rw [same] at finished
        exact running finished

/-- The second task is collected first. -/
example :
    let step := mainStep [3, 5] (fun n : ℕ => (.ok (2 * n) : Except Unit ℕ)) false
    let submitted := step [] (step [] (step [] (start [3, 5])))
    let finished := { submitted with finished := [0, 1] }
    (step [] (step [] (step [] (step [] (step [1, 0] finished))))).phase = .returned [6, 10] := by
  decide

end Evaluates

end Jaull.Workflow
