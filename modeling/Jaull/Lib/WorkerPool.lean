import Jaull.Lib.Behaviour
import Mathlib.Data.List.Nodup
import Mathlib.Data.List.Perm.Subperm
import Mathlib.Data.List.Range
import Mathlib.Logic.Relation

/-!
# Worker pools

A thread that keeps a window of jobs in a pool: it fills the window, waits until some of the jobs are done or
for a moment, collects what is done and looks whether it was cancelled. The workers do their jobs in any order,
and what a job does is seen before its future is done. A future is the number of its job.
-/

namespace Jaull.Lib

universe u v

/-- The jobs, how many of them the pool takes at a time, what a job does to what all threads share, and what the
thread makes of a job that is done. -/
structure Pool (σ : Type u) (γ : Type v) where
  jobs : ℕ
  workers : ℕ
  work : ℕ → σ → σ
  collect : γ → ℕ → γ
  one_le_workers : 1 ≤ workers

/-- Where the thread is. -/
inductive PoolPhase
  /-- In front of the first look. -/
  | starting
  | filling
  | returned
  /-- A look found the run cancelled. -/
  | raised
  deriving DecidableEq, Repr

/-- What the threads share, what the thread made of the jobs that are done, and where the jobs are: the first
`next` were submitted. -/
structure PoolState (σ : Type u) (γ : Type v) where
  shared : σ
  found : γ
  next : ℕ := 0
  pending : List ℕ := []
  worked : List ℕ := []
  finished : List ℕ := []
  collected : List ℕ := []
  phase : PoolPhase := .starting
  deriving DecidableEq, Repr

variable {σ : Type u} {γ : Type v}

namespace PoolState

/-- The thread has left the loop. -/
def ended (state : PoolState σ γ) : Bool :=
  state.phase = .returned || state.phase = .raised

/-- The next job goes to the pool. -/
def submit (state : PoolState σ γ) : PoolState σ γ :=
  { state with pending := state.pending ++ [state.next], next := state.next + 1 }

/-- A wait that returns some futures, and the look after it. -/
def round (pool : Pool σ γ) (cancelled : Bool) (done : List ℕ) (state : PoolState σ γ) : PoolState σ γ :=
  { state with
    pending := state.pending.filter (· ∉ done)
    found := done.foldl pool.collect state.found
    collected := state.collected ++ done
    phase := if cancelled then .raised else .filling }

/-- A step of the thread: `cancelled` is what a look in it is told, and `done` what a wait in it returns. -/
def mainStep (pool : Pool σ γ) (cancelled : Bool) (done : List ℕ) (state : PoolState σ γ) : PoolState σ γ :=
  match state.phase with
  | .starting => { state with phase := if cancelled then .raised else .filling }
  | .filling =>
    if state.pending.length < pool.workers ∧ state.next < pool.jobs then state.submit
    else if state.pending.isEmpty then { state with phase := .returned }
    else state.round pool cancelled done
  | .returned => state
  | .raised => state

/-- What a wait may return: pending futures that are done, and none of them only if none is. -/
structure WaitReturns (state : PoolState σ γ) (done : List ℕ) : Prop where
  nodup : done.Nodup
  pending : ∀ job ∈ done, job ∈ state.pending
  finished : ∀ job ∈ done, job ∈ state.finished
  timeout : done = [] → ∀ job ∈ state.pending, job ∉ state.finished

/-- A worker does what its job does, or its future is done, or the thread takes a step. -/
inductive Step (pool : Pool σ γ) : PoolState σ γ → PoolState σ γ → Prop
  | work {state : PoolState σ γ} {job : ℕ} (submitted : job < state.next) (fresh : job ∉ state.worked) :
      Step pool state
        { state with shared := pool.work job state.shared, worked := state.worked ++ [job] }
  | finish {state : PoolState σ γ} {job : ℕ} (worked : job ∈ state.worked) (running : job ∉ state.finished) :
      Step pool state { state with finished := job :: state.finished }
  | main {state : PoolState σ γ} {done : List ℕ} (cancelled : Bool) (waited : state.WaitReturns done) :
      Step pool state (state.mainStep pool cancelled done)

/-- The states that a run can reach. -/
def Reachable (pool : Pool σ γ) (shared : σ) (found : γ) (state : PoolState σ γ) : Prop :=
  Relation.ReflTransGen (Step pool) { shared := shared, found := found } state

/-- The jobs that are in flight. -/
def inFlight (state : PoolState σ γ) : List ℕ :=
  (List.range state.next).filter (· ∉ state.finished)

/-- The invariant of a pool. -/
structure Sound (pool : Pool σ γ) (shared : σ) (found : γ) (state : PoolState σ γ) : Prop where
  within : state.next ≤ pool.jobs
  held : (state.pending ++ state.collected).Perm (List.range state.next)
  room : state.pending.length ≤ pool.workers
  workedOnce : state.worked.Nodup
  workedKnown : ∀ job ∈ state.worked, job < state.next
  finishedOnce : state.finished.Nodup
  finishedWorked : ∀ job ∈ state.finished, job ∈ state.worked
  collectedFinished : ∀ job ∈ state.collected, job ∈ state.finished
  foundOf : state.found = state.collected.foldl pool.collect found
  sharedOf : state.shared = state.worked.foldl (fun shared job => pool.work job shared) shared
  complete : state.phase = .returned → state.pending = [] ∧ state.next = pool.jobs

variable {pool : Pool σ γ} {shared : σ} {found : γ} {state state' : PoolState σ γ}

/-- The pool starts sound. -/
lemma sound_start : Sound pool shared found { shared := shared, found := found } := by
  refine ⟨Nat.zero_le _, List.Perm.nil, Nat.zero_le _, List.nodup_nil, ?_, List.nodup_nil, ?_, ?_, rfl, rfl, ?_⟩
  · exact fun job mem => absurd mem List.not_mem_nil
  · exact fun job mem => absurd mem List.not_mem_nil
  · exact fun job mem => absurd mem List.not_mem_nil
  · exact fun eq => absurd eq PoolPhase.noConfusion

/-- Every job that was submitted is pending or collected, once. -/
lemma Sound.nodup (sound : Sound pool shared found state) : (state.pending ++ state.collected).Nodup :=
  sound.held.nodup_iff.mpr List.nodup_range

/-- A pending job was handed out. -/
lemma Sound.pending_lt (sound : Sound pool shared found state) {job : ℕ} (mem : job ∈ state.pending) :
    job < state.next :=
  List.mem_range.mp (sound.held.mem_iff.mp (List.mem_append_left _ mem))

/-- The window is not full: the next job joins what is pending. -/
lemma sound_submit (sound : Sound pool shared found state) (phase : state.phase = .filling)
    (room : state.pending.length < pool.workers) (more : state.next < pool.jobs) :
    Sound pool shared found state.submit := by
  refine { sound with within := more, held := ?_, room := ?_, workedKnown := ?_, complete := ?_ }
  · change (state.pending ++ [state.next] ++ state.collected).Perm (List.range (state.next + 1))
    rw [List.range_succ, List.append_assoc]
    refine List.Perm.trans ?_ (sound.held.append_right [state.next])
    rw [List.append_assoc]
    exact List.perm_append_comm.append_left state.pending
  · change (state.pending ++ [state.next]).length ≤ pool.workers
    rw [List.length_append]
    exact room
  · exact fun job mem => Nat.lt_succ_of_lt (sound.workedKnown job mem)
  · intro returned
    cases phase.symm.trans returned

/-- What is done leaves the window. -/
lemma perm_filter_done {pending done : List ℕ} (nodup : pending.Nodup) (once : done.Nodup)
    (mem : ∀ job ∈ done, job ∈ pending) : (pending.filter (· ∉ done) ++ done).Perm pending := by
  have inside : (pending.filter (· ∈ done)).Perm done := by
    apply (List.perm_ext_iff_of_nodup (nodup.filter _) once).mpr
    intro job
    rw [List.mem_filter, decide_eq_true_iff]
    exact ⟨And.right, fun own => ⟨mem job own, own⟩⟩
  have outside : pending.filter (· ∉ done) = pending.filter fun job => !decide (job ∈ done) :=
    List.filter_congr fun job _ => decide_not
  rw [outside]
  refine (inside.symm.append_left _).trans ?_
  exact List.perm_append_comm.trans (List.filter_append_perm _ pending)

/-- A round keeps the pool sound. -/
lemma sound_round (sound : Sound pool shared found state) {done : List ℕ} (waited : state.WaitReturns done)
    (cancelled : Bool) : Sound pool shared found (state.round pool cancelled done) := by
  have nodup := (List.nodup_append.mp sound.nodup).1
  refine { sound with held := ?_, room := ?_, collectedFinished := ?_, foundOf := ?_, complete := ?_ }
  · change (state.pending.filter (· ∉ done) ++ (state.collected ++ done)).Perm (List.range state.next)
    refine List.Perm.trans ?_ sound.held
    refine List.Perm.trans ?_ ((perm_filter_done nodup waited.nodup waited.pending).append_right state.collected)
    rw [List.append_assoc]
    exact List.perm_append_comm.append_left _
  · exact (List.length_filter_le _ _).trans sound.room
  · intro job mem
    rcases List.mem_append.mp mem with mem | mem
    · exact sound.collectedFinished job mem
    · exact waited.finished job mem
  · change done.foldl pool.collect state.found = (state.collected ++ done).foldl pool.collect found
    rw [sound.foundOf, List.foldl_append]
  · change (if cancelled then PoolPhase.raised else PoolPhase.filling) = .returned → _
    cases cancelled with
    | true => exact fun eq => absurd eq PoolPhase.noConfusion
    | false => exact fun eq => absurd eq PoolPhase.noConfusion

/-- What a step of the thread keeps. -/
lemma sound_mainStep (sound : Sound pool shared found state) {done : List ℕ} (waited : state.WaitReturns done)
    (cancelled : Bool) : Sound pool shared found (state.mainStep pool cancelled done) := by
  rw [mainStep.eq_def]
  cases here : state.phase with
  | starting =>
    refine { sound with complete := ?_ }
    change (if cancelled then PoolPhase.raised else PoolPhase.filling) = .returned → _
    cases cancelled with
    | true => exact fun eq => absurd eq PoolPhase.noConfusion
    | false => exact fun eq => absurd eq PoolPhase.noConfusion
  | filling =>
    dsimp only
    split
    · rename_i open'
      exact sound_submit sound here open'.1 open'.2
    · rename_i closed
      split
      · rename_i empty
        have none := List.isEmpty_iff.mp empty
        refine { sound with complete := fun _ => ⟨none, ?_⟩ }
        apply Nat.le_antisymm sound.within
        apply Nat.le_of_not_lt
        intro more
        apply closed
        rw [none]
        exact ⟨pool.one_le_workers, more⟩
      · exact sound_round sound waited cancelled
  | returned => exact sound
  | raised => exact sound

/-- What a step keeps. -/
lemma sound_step (sound : Sound pool shared found state) (step : Step pool state state') :
    Sound pool shared found state' := by
  cases step with
  | @work job submitted fresh =>
    refine { sound with workedOnce := ?_, workedKnown := ?_, finishedWorked := ?_, sharedOf := ?_ }
    · exact List.nodup_append.mpr ⟨sound.workedOnce, List.nodup_singleton _, fun other mem same own eq =>
        fresh (by rw [← List.mem_singleton.mp own, ← eq]; exact mem)⟩
    · intro other mem
      rcases List.mem_append.mp mem with mem | mem
      · exact sound.workedKnown other mem
      · rw [List.mem_singleton.mp mem]
        exact submitted
    · exact fun other mem => List.mem_append_left _ (sound.finishedWorked other mem)
    · change pool.work job state.shared = (state.worked ++ [job]).foldl _ shared
      rw [sound.sharedOf, List.foldl_append]
      rfl
  | @finish job worked running =>
    refine { sound with finishedOnce := ?_, finishedWorked := ?_, collectedFinished := ?_ }
    · exact List.nodup_cons.mpr ⟨running, sound.finishedOnce⟩
    · intro other mem
      rcases List.mem_cons.mp mem with same | mem
      · rw [same]
        exact worked
      · exact sound.finishedWorked other mem
    · exact fun other mem => List.mem_cons_of_mem _ (sound.collectedFinished other mem)
  | main cancelled waited => exact sound_mainStep sound waited cancelled

/-- Every reachable state is sound. -/
lemma sound_of_reachable (reachable : Reachable pool shared found state) : Sound pool shared found state := by
  induction reachable with
  | refl => exact sound_start
  | tail _ step ih => exact sound_step ih step

/-- Only what is pending is in flight. -/
lemma length_inFlight (sound : Sound pool shared found state) :
    state.inFlight.length ≤ min pool.workers pool.jobs := by
  have nodup : state.inFlight.Nodup := List.nodup_range.filter _
  have sub : state.inFlight ⊆ state.pending := by
    intro job mem
    obtain ⟨below, running⟩ := List.mem_filter.mp mem
    rcases List.mem_append.mp (sound.held.mem_iff.mpr below) with mem | mem
    · exact mem
    · exact absurd (sound.collectedFinished job mem) (of_decide_eq_true running)
  apply le_min
  · exact (List.subperm_of_subset nodup sub).length_le.trans sound.room
  · have le : state.inFlight.length ≤ (List.range state.next).length := List.length_filter_le _ _
    rw [List.length_range] at le
    exact le.trans sound.within

/-- When the thread returns, it has collected every job. -/
lemma Sound.collected_perm (sound : Sound pool shared found state) (returned : state.phase = .returned) :
    state.collected.Perm (List.range pool.jobs) := by
  obtain ⟨empty, all⟩ := sound.complete returned
  have held := sound.held
  rw [empty, all] at held
  exact held

/-- When the thread returns, every job was done. -/
lemma Sound.worked_perm (sound : Sound pool shared found state) (returned : state.phase = .returned) :
    state.worked.Perm (List.range pool.jobs) := by
  apply (List.perm_ext_iff_of_nodup sound.workedOnce List.nodup_range).mpr
  intro job
  constructor
  · intro mem
    exact List.mem_range.mpr (Nat.lt_of_lt_of_le (sound.workedKnown job mem) sound.within)
  · intro mem
    exact sound.finishedWorked job (sound.collectedFinished job ((sound.collected_perm returned).mem_iff.mpr mem))

/-- Where the order of collecting makes no difference, the thread returns what the jobs give in order. -/
lemma Sound.found_eq (sound : Sound pool shared found state) (returned : state.phase = .returned)
    (commutes : ∀ (i j : ℕ), i < pool.jobs → j < pool.jobs → ∀ found',
      pool.collect (pool.collect found' i) j = pool.collect (pool.collect found' j) i) :
    state.found = (List.range pool.jobs).foldl pool.collect found := by
  have perm := sound.collected_perm returned
  rw [sound.foundOf]
  refine perm.foldl_eq' ?_ found
  intro i mem j mem' found'
  exact commutes i j (List.mem_range.mp (perm.mem_iff.mp mem)) (List.mem_range.mp (perm.mem_iff.mp mem')) found'

/-- The thread waits for a job that is not done. -/
def Waits (state : PoolState σ γ) : Prop :=
  ∃ job ∈ state.pending, job ∉ state.finished

/-- What the place of the thread adds to the measure. -/
def weight : PoolPhase → ℕ
  | .starting => 2
  | .filling => 1
  | .returned => 0
  | .raised => 0

/-- What is left to do: jobs to submit, to do, to finish and to collect, and two steps of the thread. -/
def measure (pool : Pool σ γ) (state : PoolState σ γ) : ℕ :=
  4 * (pool.jobs - state.next) + (state.next - state.worked.length) + (state.next - state.finished.length) +
    state.pending.length + weight state.phase

/-- No more jobs are worked on than were handed out. -/
lemma Sound.worked_le (sound : Sound pool shared found state) : state.worked.length ≤ state.next := by
  have sub : state.worked ⊆ List.range state.next := fun job mem => List.mem_range.mpr (sound.workedKnown job mem)
  have le := (List.subperm_of_subset sound.workedOnce sub).length_le
  rw [List.length_range] at le
  exact le

/-- No more are finished than were worked on. -/
lemma Sound.finished_le (sound : Sound pool shared found state) : state.finished.length ≤ state.worked.length :=
  (List.subperm_of_subset sound.finishedOnce sound.finishedWorked).length_le

/-- A round that goes on lowers the measure, or waits. -/
lemma round_lowers (sound : Sound pool shared found state) (here : state.phase = .filling)
    (some' : state.pending.isEmpty = false) {done : List ℕ} (waited : state.WaitReturns done) :
    (state.round pool false done = state ∧ Waits state) ∨
      measure pool (state.round pool false done) < measure pool state := by
  cases done with
  | nil =>
    left
    constructor
    · have kept : state.pending.filter (· ∉ ([] : List ℕ)) = state.pending :=
        List.filter_eq_self.mpr fun job _ => decide_eq_true List.not_mem_nil
      rw [round, kept, List.append_nil, List.foldl_nil, if_neg Bool.false_ne_true, ← here]
    · obtain ⟨job, rest, pending⟩ := List.exists_cons_of_ne_nil
        (fun none => Bool.false_ne_true (some'.symm.trans (List.isEmpty_iff.mpr none)) : state.pending ≠ [])
      have mem : job ∈ state.pending := by
        rw [pending]
        exact List.mem_cons_self
      exact ⟨job, mem, waited.timeout rfl job mem⟩
  | cons job done =>
    right
    have nodup := (List.nodup_append.mp sound.nodup).1
    have length := (perm_filter_done nodup waited.nodup waited.pending).length_eq
    rw [List.length_append, List.length_cons] at length
    rw [measure, measure, here, round]
    dsimp only
    rw [if_neg Bool.false_ne_true]
    omega

/-- Every step lowers the measure, or waits. -/
lemma step_lowers (sound : Sound pool shared found state) (step : Step pool state state')
    (goes : ¬state'.ended = true) : (state' = state ∧ Waits state) ∨ measure pool state' < measure pool state := by
  have sound' := sound_step sound step
  cases step with
  -- a worker takes a job or finishes it: fewer are left to take or to finish
  | @work job submitted fresh =>
    right
    have le := sound'.worked_le
    change (state.worked ++ [job]).length ≤ state.next at le
    rw [measure, measure]
    dsimp only
    rw [List.length_append, List.length_singleton] at le ⊢
    omega
  | @finish job worked running =>
    right
    have le := sound'.finished_le.trans sound.worked_le
    rw [List.length_cons] at le
    rw [measure, measure]
    dsimp only
    rw [List.length_cons]
    omega
  | @main done cancelled waited =>
    rw [mainStep.eq_def] at goes ⊢
    -- the main thread starts, submits what there is room for, or waits
    cases here : state.phase with
    | starting =>
      rw [here] at goes
      dsimp only at goes ⊢
      cases cancelled with
      | true => exact absurd rfl goes
      | false =>
        right
        rw [measure, measure, here, if_neg Bool.false_ne_true]
        exact Nat.lt_succ_self _
    | filling =>
      rw [here] at goes
      dsimp only at goes ⊢
      split
      · rename_i open'
        right
        have worked := sound.worked_le
        have finished := sound.finished_le
        rw [measure, measure, submit, here]
        dsimp only
        rw [List.length_append, List.length_singleton]
        omega
      · rename_i closed
        rw [if_neg closed] at goes
        split
        · rename_i empty
          rw [if_pos empty] at goes
          exact absurd rfl goes
        · rename_i some'
          rw [if_neg some'] at goes
          cases cancelled with
          | true => exact absurd rfl goes
          | false => exact round_lowers sound here (Bool.eq_false_of_not_eq_true some') waited
    | returned =>
      rw [here, ended, here] at goes
      exact absurd rfl goes
    | raised =>
      rw [here, ended, here] at goes
      exact absurd rfl goes

/-- Only the workers finish jobs. -/
lemma finished_mainStep (cancelled : Bool) (done : List ℕ) :
    (state.mainStep pool cancelled done).finished = state.finished := by
  rw [mainStep.eq_def]
  split
  · rfl
  · split
    · rfl
    · split
      · rfl
      · rfl
  · rfl
  · rfl

/-- A future that is done stays done. -/
lemma finished_step {job : ℕ} (finished : job ∈ state.finished) (step : Step pool state state') :
    job ∈ state'.finished := by
  cases step with
  | work submitted fresh => exact finished
  | finish worked running => exact List.mem_cons_of_mem _ finished
  | main cancelled waited =>
    rw [finished_mainStep]
    exact finished

/-- A run ends where every job that was submitted comes to its end. -/
lemma ends {run : ℕ → PoolState σ γ} (behaviour : Behaviour (Step pool) (·.ended = true) run)
    (first : run 0 = { shared := shared, found := found })
    (finishes : ∀ t job, job < (run t).next → ∃ t', job ∈ (run t').finished) : ∃ t, (run t).ended = true := by
  apply @Behaviour.ends _ _ _ run behaviour (Sound pool shared found) Waits (measure pool)
  · rw [first]
    exact sound_start
  · exact sound_step
  · exact step_lowers
  · intro t sound waits
    obtain ⟨job, mem, running⟩ := waits
    obtain ⟨t', finished⟩ := finishes t job (sound.pending_lt mem)
    refine ⟨t', ?_, ?_⟩
    · by_contra before
      exact running (@Behaviour.mono _ _ _ run behaviour (job ∈ ·.finished) finished_step _ _
        (Nat.le_of_not_le before) finished)
    · intro same
      rw [same] at finished
      exact running finished

end PoolState

end Jaull.Lib
