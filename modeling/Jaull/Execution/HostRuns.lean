import Jaull.Execution.Host
import Mathlib.Algebra.Order.Archimedean.Basic
import Mathlib.Algebra.Order.Floor.Semiring
import Mathlib.Data.Rat.Floor
import Mathlib.Tactic.Linarith

/-!
# Runs on the host

A run of the host backend consists of turns that expired and an ending. From the calls of the ending follow when a
process is told to stop and what is said of it, and from the time that every expired turn takes, that a run ends.
-/

namespace Jaull.Execution

section Peaks
variable {values : ℕ → Option ℕ} {n : ℕ} {peak : Option ℕ}

/-- The peak of the first `n` values: none is above it, and it is one of them. -/
structure IsPeak (values : ℕ → Option ℕ) (n : ℕ) (peak : Option ℕ) : Prop where
  above : ∀ k < n, ∀ value, values k = some value → ∃ top, peak = some top ∧ value ≤ top
  reached : ∀ top, peak = some top → ∃ k < n, values k = some top

lemma isPeak_zero (values : ℕ → Option ℕ) : IsPeak values 0 none where
  above := fun k short => absurd short (Nat.not_lt_zero k)
  reached := fun top own => by cases own

/-- One sample more. -/
lemma IsPeak.keep (isPeak : IsPeak values n peak) : IsPeak values (n + 1) (keepPeak peak (values n)) := by
  cases value : values n with
  | none =>
    constructor
    · intro k short v own
      rcases Nat.lt_succ_iff_lt_or_eq.mp short with earlier | rfl
      · exact isPeak.above k earlier v own
      · rw [value] at own
        cases own
    · intro top own
      obtain ⟨k, short, own⟩ := isPeak.reached top own
      exact ⟨k, Nat.lt_succ_of_lt short, own⟩
  | some new =>
    cases old : peak with
    | none =>
      constructor
      · intro k short v own
        rcases Nat.lt_succ_iff_lt_or_eq.mp short with earlier | rfl
        · obtain ⟨top, none, _⟩ := isPeak.above k earlier v own
          rw [old] at none
          cases none
        · rw [value] at own
          cases own
          exact ⟨_, rfl, Nat.le_refl _⟩
      · intro top own
        cases own
        exact ⟨n, Nat.lt_succ_self n, value⟩
    | some highest =>
      constructor
      · intro k short v own
        rcases Nat.lt_succ_iff_lt_or_eq.mp short with earlier | rfl
        · obtain ⟨top, same, le⟩ := isPeak.above k earlier v own
          rw [old] at same
          cases same
          exact ⟨_, rfl, le.trans (Nat.le_max_left _ _)⟩
        · rw [value] at own
          cases own
          exact ⟨_, rfl, Nat.le_max_right _ _⟩
      · intro top own
        cases own
        rcases Nat.le_total highest new with le | le
        · rw [maxOptional, Nat.max_eq_right le]
          exact ⟨n, Nat.lt_succ_self n, value⟩
        · rw [maxOptional, Nat.max_eq_left le]
          obtain ⟨k, short, own⟩ := isPeak.reached highest old
          exact ⟨k, Nat.lt_succ_of_lt short, own⟩

end Peaks

section Runs
variable {env : HostEnv} {backend : HostExecutionBackend} {request : ExecutionRequest} {pid : ℤ}
variable {state state' : HostState} {waits : List ℚ} {fuel : ℕ} {output : Option Output} {timedOut : Bool}

/-- The calls of some turns that expired. -/
def turnCalls (waits : List ℚ) : List HostCall :=
  waits.flatMap fun seconds => [.communicate (some seconds), .sample]

/-- The start of a run and its turns so far, each of which expired. -/
structure Waiting (env : HostEnv) (backend : HostExecutionBackend) (request : ExecutionRequest) (pid : ℤ)
    (waits : List ℚ) (state : HostState) : Prop where
  readings : state.readings = waits.length + 1
  turns : state.waits = waits.length
  samples : state.samples = waits.length + 1
  calls : state.calls = .spawn request.command (processEnvironment env request) :: .sample :: turnCalls waits
  short : ∀ seconds ∈ waits, 0 < seconds ∧ seconds ≤ backend.sampleIntervalSeconds
  expired : ∀ turn < waits.length, env.waited turn = none ∧
    env.clock (turn + 1) - env.clock 0 < request.timeoutSeconds
  peakRam : IsPeak env.rss state.samples state.peakRam
  peakVram : IsPeak (env.vram pid) state.samples state.peakVram

/-- A process that was just spawned and sampled is waited for. -/
lemma waiting_spawned (env : HostEnv) (backend : HostExecutionBackend) (request : ExecutionRequest) (pid : ℤ) :
    Waiting env backend request pid [] ((spawned env request).sample env pid) where
  readings := rfl
  turns := rfl
  samples := rfl
  calls := rfl
  short := fun _ mem => absurd mem List.not_mem_nil
  expired := fun turn short => absurd short (Nat.not_lt_zero turn)
  peakRam := (isPeak_zero env.rss).keep
  peakVram := (isPeak_zero (env.vram pid)).keep

/-- A turn that expires. -/
lemma Waiting.turn (waiting : Waiting env backend request pid waits state) {seconds : ℚ}
    (short : 0 < seconds ∧ seconds ≤ backend.sampleIntervalSeconds) (expired : env.waited state.waits = none)
    (inTime : env.clock (waits.length + 1) - env.clock 0 < request.timeoutSeconds) :
    Waiting env backend request pid (waits ++ [seconds])
      ({ state.read.call (.communicate (some seconds)) with waits := state.waits + 1 }.sample env pid) := by
  have length : (waits ++ [seconds]).length = waits.length + 1 := List.length_append
  exact
    { readings := by
        rw [length]
        exact congrArg (· + 1) waiting.readings
      turns := by
        rw [length]
        exact congrArg (· + 1) waiting.turns
      samples := by
        rw [length]
        exact congrArg (· + 1) waiting.samples
      calls := by
        change (state.calls ++ [HostCall.communicate (some seconds)]) ++ [HostCall.sample] = _
        rw [waiting.calls, turnCalls, turnCalls, List.flatMap_append, List.append_assoc]
        rfl
      short := by
        intro other mem
        rcases List.mem_append.mp mem with earlier | last
        · exact waiting.short other earlier
        · cases List.mem_singleton.mp last
          exact short
      expired := by
        intro turn before
        rw [length] at before
        rcases Nat.lt_succ_iff_lt_or_eq.mp before with earlier | rfl
        · exact waiting.expired turn earlier
        · rw [waiting.turns] at expired
          exact ⟨expired, inTime⟩
      peakRam := waiting.peakRam.keep
      peakVram := waiting.peakVram.keep }

/-- The calls of a stop. -/
def stopCalls (env : HostEnv) (rest : List HostCall) : List HostCall :=
  .poll :: ((if env.alive then [.terminate] else []) ++ .communicate (some terminateGraceSeconds) :: rest)

/-- How the waiting ends, behind the turns that expired: the output ends in a last turn, or the time is over and the
process is told to stop, and killed when its output does not end within the grace. What is read behind the kill has no
limit and may never end. -/
inductive Ending (env : HostEnv) (backend : HostExecutionBackend) (request : ExecutionRequest) (turns : ℕ) :
    List HostCall → Option Output → Bool → Prop
  | ended {seconds : ℚ} {output : Output} (inTime : env.clock (turns + 1) - env.clock 0 < request.timeoutSeconds)
      (short : 0 < seconds ∧ seconds ≤ backend.sampleIntervalSeconds) (own : env.waited turns = some output) :
      Ending env backend request turns [.communicate (some seconds)] (some output) false
  | stopped {output : Output} (tooLate : request.timeoutSeconds ≤ env.clock (turns + 1) - env.clock 0)
      (own : env.graced = some output) :
      Ending env backend request turns (.sample :: stopCalls env []) (some output) true
  | killed (tooLate : request.timeoutSeconds ≤ env.clock (turns + 1) - env.clock 0) (expired : env.graced = none) :
      Ending env backend request turns (.sample :: stopCalls env [.kill, .communicate none]) env.drained true

/-- What is known of a run whose waiting has ended. -/
structure Ended (env : HostEnv) (backend : HostExecutionBackend) (request : ExecutionRequest) (pid : ℤ)
    (output : Option Output) (timedOut : Bool) (state : HostState) (waits : List ℚ) (ending : List HostCall) :
    Prop where
  calls : state.calls =
    .spawn request.command (processEnvironment env request) :: .sample :: (turnCalls waits ++ ending)
  short : ∀ seconds ∈ waits, 0 < seconds ∧ seconds ≤ backend.sampleIntervalSeconds
  expired : ∀ turn < waits.length, env.waited turn = none ∧
    env.clock (turn + 1) - env.clock 0 < request.timeoutSeconds
  ending : Ending env backend request waits.length ending output timedOut
  peakRam : IsPeak env.rss state.samples state.peakRam
  peakVram : IsPeak (env.vram pid) state.samples state.peakVram
  samples : state.samples = state.calls.count .sample
  turns : state.waits ≤ waits.length + 1

/-- Each turn samples once. -/
lemma count_turnCalls (waits : List ℚ) : (turnCalls waits).count .sample = waits.length := by
  induction waits with
  | nil => rfl
  | cons seconds waits ih =>
    change (HostCall.communicate (some seconds) :: .sample :: turnCalls waits).count .sample = _
    rw [List.count_cons_of_ne HostCall.noConfusion, List.count_cons_self, ih]
    rfl

/-- The calls of a stop come in front of what follows the grace. -/
lemma stopCalls_append (env : HostEnv) (rest : List HostCall) : stopCalls env [] ++ rest = stopCalls env rest := by
  rw [stopCalls, stopCalls, List.cons_append, List.append_assoc, List.singleton_append]

/-- A process is told to stop and given its grace. -/
lemma told_spec (env : HostEnv) (state : HostState) :
    (if env.alive then (state.call .poll).call .terminate else state.call .poll).call
        (.communicate (some terminateGraceSeconds)) = { state with calls := state.calls ++ stopCalls env [] } := by
  cases alive : env.alive with
  | true =>
    rw [stopCalls, alive, if_pos rfl, if_pos rfl]
    refine congrArg (fun calls => { state with calls := calls }) ?_
    exact (List.append_assoc _ _ _).trans (List.append_assoc _ _ _)
  | false =>
    rw [stopCalls, alive, if_neg Bool.false_ne_true, if_neg Bool.false_ne_true]
    exact congrArg (fun calls => { state with calls := calls }) (List.append_assoc _ _ _)

/-- Stopping a process makes its calls and changes nothing else. -/
lemma terminateAndDrain_spec (env : HostEnv) (state : HostState) :
    (∃ output, env.graced = some output ∧ terminateAndDrain env state =
      (some output, { state with calls := state.calls ++ stopCalls env [] })) ∨
    env.graced = none ∧ terminateAndDrain env state =
      (env.drained, { state with calls := state.calls ++ stopCalls env [.kill, .communicate none] }) := by
  unfold terminateAndDrain
  dsimp only
  rw [told_spec]
  cases graced : env.graced with
  | some output => exact .inl ⟨output, rfl, rfl⟩
  | none =>
    refine .inr ⟨rfl, congrArg (fun calls => (env.drained, { state with calls := calls })) ?_⟩
    rw [← stopCalls_append env [.kill, .communicate none], ← List.append_assoc]
    exact List.append_assoc (state.calls ++ stopCalls env []) [.kill] [.communicate none]

/-- The calls of a stop. -/
lemma of_mem_stopCalls {call : HostCall} {rest : List HostCall} (mem : call ∈ stopCalls env rest) :
    call = .poll ∨ call = .terminate ∨ call = .communicate (some terminateGraceSeconds) ∨ call ∈ rest := by
  rcases List.mem_cons.mp mem with poll | later
  · exact .inl poll
  · rcases List.mem_append.mp later with told | behind
    · split at told
      · exact .inr (.inl (List.mem_singleton.mp told))
      · cases told
    · exact .inr (.inr (List.mem_cons.mp behind))

/-- Nothing is sampled in a stop. -/
lemma count_stopCalls {rest : List HostCall} (none : .sample ∉ rest) : (stopCalls env rest).count .sample = 0 := by
  rw [List.count_eq_zero]
  intro mem
  rcases of_mem_stopCalls mem with other | other | other | other
  · cases other
  · cases other
  · cases other
  · exact none other

/-- The waiting ends with the calls of a stop. -/
lemma Waiting.stopWith (waiting : Waiting env backend request pid waits state) {rest : List HostCall}
    (none : .sample ∉ rest)
    (ending : Ending env backend request waits.length (.sample :: stopCalls env rest) output true) :
    Ended env backend request pid output true
      { state.read.sample env pid with calls := (state.read.sample env pid).calls ++ stopCalls env rest } waits
      (.sample :: stopCalls env rest) where
  calls := by
    change state.calls ++ [HostCall.sample] ++ stopCalls env rest = _
    rw [waiting.calls, List.append_assoc]
    rfl
  short := waiting.short
  expired := waiting.expired
  ending := ending
  peakRam := waiting.peakRam.keep
  peakVram := waiting.peakVram.keep
  samples := by
    change state.samples + 1 = (state.calls ++ [HostCall.sample] ++ stopCalls env rest).count .sample
    rw [waiting.calls, List.count_append, List.count_append, count_stopCalls none,
      List.count_cons_of_ne HostCall.noConfusion, List.count_cons_self, count_turnCalls, waiting.samples]
    rfl
  turns := (Nat.le_of_eq waiting.turns).trans (Nat.le_succ _)

/-- A stop ends the waiting. -/
lemma Waiting.stop (waiting : Waiting env backend request pid waits state)
    (tooLate : request.timeoutSeconds ≤ env.clock (waits.length + 1) - env.clock 0) :
    ∃ ending, Ended env backend request pid (terminateAndDrain env (state.read.sample env pid)).1 true
      (terminateAndDrain env (state.read.sample env pid)).2 waits ending := by
  rcases terminateAndDrain_spec env (state.read.sample env pid) with ⟨output, graced, same⟩ | ⟨expired, same⟩
  · rw [same]
    exact ⟨_, waiting.stopWith List.not_mem_nil (.stopped tooLate graced)⟩
  · rw [same]
    exact ⟨_, waiting.stopWith (by simp) (.killed tooLate expired)⟩

/-- The wait in which the process ends. -/
lemma Waiting.last (waiting : Waiting env backend request pid waits state) {seconds : ℚ}
    (inTime : env.clock (waits.length + 1) - env.clock 0 < request.timeoutSeconds)
    (short : 0 < seconds ∧ seconds ≤ backend.sampleIntervalSeconds) {text : Output}
    (own : env.waited waits.length = some text) :
    Ended env backend request pid (some text) false
      { state.read.call (.communicate (some seconds)) with waits := state.waits + 1 } waits
      [.communicate (some seconds)] where
  calls := by
    change state.calls ++ [HostCall.communicate (some seconds)] = _
    rw [waiting.calls]
    rfl
  short := waiting.short
  expired := waiting.expired
  ending := .ended inTime short own
  peakRam := waiting.peakRam
  peakVram := waiting.peakVram
  samples := by
    change state.samples = (state.calls ++ [HostCall.communicate (some seconds)]).count .sample
    rw [waiting.calls, List.count_append, List.count_cons_of_ne HostCall.noConfusion, List.count_cons_self,
      count_turnCalls, List.count_cons_of_ne HostCall.noConfusion, waiting.samples]
    rfl
  turns := Nat.succ_le_succ (Nat.le_of_eq waiting.turns)

/-- A run whose waiting has ended consists of turns that expired and an ending. -/
lemma Waiting.ended (waiting : Waiting env backend request pid waits state)
    (ended : communicateWithSampling env backend request pid (env.clock 0) fuel state =
      some ((output, timedOut), state')) :
    ∃ waits ending, Ended env backend request pid output timedOut state' waits ending := by
  induction fuel generalizing state waits with
  | zero => cases ended
  | succ fuel ih =>
    rw [communicateWithSampling] at ended
    dsimp only at ended
    split at ended
    · rename_i tooLate
      cases ended
      rw [waiting.readings] at tooLate
      exact ⟨waits, waiting.stop (by linarith)⟩
    · rename_i left
      rw [waiting.readings] at left
      have short : 0 < min backend.sampleIntervalSeconds (request.timeoutSeconds -
          (env.clock (waits.length + 1) - env.clock 0)) := lt_min backend.positive (not_le.mp left)
      rw [waiting.readings] at ended
      cases returned : env.waited state.waits with
      | some own =>
        rw [returned] at ended
        cases ended
        rw [waiting.turns] at returned
        exact ⟨waits, _, waiting.last (by linarith) ⟨short, min_le_left _ _⟩ returned⟩
      | none =>
        rw [returned] at ended
        exact ih (waiting.turn ⟨short, min_le_left _ _⟩ returned (by linarith)) ended

/-- How the waiting ends is known of every run of a command that was started. -/
lemma execute_started {outcome : Option HostOutcome} (started : env.spawn = .started pid)
    (ended : execute env backend request fuel = some (outcome, state)) :
    ∃ output timedOut before waits ending, Ended env backend request pid output timedOut before waits ending ∧
      (output = none ∧ outcome = none ∧ state = before ∨
        ∃ text, output = some text ∧
          outcome = some (conclude env backend request (env.clock 0) text timedOut (before.sample env pid)) ∧
          state = (before.sample env pid).read.call .close) := by
  rw [execute, started] at ended
  dsimp only at ended
  cases waited : communicateWithSampling env backend request pid (env.clock 0) fuel
      ((spawned env request).sample env pid) with
  | none =>
    rw [waited] at ended
    cases ended
  | some result =>
    obtain ⟨⟨output, timedOut⟩, before⟩ := result
    obtain ⟨waits, ending, spec⟩ := (waiting_spawned env backend request pid).ended waited
    rw [waited] at ended
    refine ⟨output, timedOut, before, waits, ending, spec, ?_⟩
    cases output with
    | none =>
      cases ended
      exact .inl ⟨rfl, rfl, rfl⟩
    | some text =>
      cases ended
      exact .inr ⟨text, rfl, rfl, rfl⟩

/-- A run that is supervised to its end. -/
structure Supervised (env : HostEnv) (backend : HostExecutionBackend) (request : ExecutionRequest) (pid : ℤ)
    (outcome : HostOutcome) (state : HostState) : Prop where
  /-- no wait is longer than a turn, but for the grace once the time is over, and for the one behind the kill -/
  short : ∀ timeout, .communicate timeout ∈ state.calls →
    (∃ seconds, timeout = some seconds ∧ 0 < seconds ∧ seconds ≤ backend.sampleIntervalSeconds) ∨
      outcome.observation.failureReason = some .timeout ∧
        (timeout = some terminateGraceSeconds ∨ timeout = none ∧ .kill ∈ state.calls)
  /-- the process is left alone until its time is over -/
  patient : .terminate ∈ state.calls ∨ .kill ∈ state.calls → ∃ turn,
    request.timeoutSeconds ≤ env.clock (turn + 1) - env.clock 0 ∧ (∀ earlier < turn, env.waited earlier = none) ∧
      outcome.observation.failureReason = some .timeout
  /-- it is killed only when its output does not end within the grace -/
  lastResort : .kill ∈ state.calls → env.graced = none
  /-- a run counts as a success exactly when the output ended in time, and the process with code 0 -/
  success : outcome.observation.success = true ↔ env.returncode = 0 ∧ ∃ turn,
    env.waited turn ≠ none ∧ (∀ earlier < turn, env.waited earlier = none) ∧
      ∀ reading ≤ turn, env.clock (reading + 1) - env.clock 0 < request.timeoutSeconds
  /-- the peaks are those of all samples -/
  peakRam : IsPeak env.rss (state.calls.count .sample) outcome.observation.peakRamBytes
  peakVram : IsPeak (env.vram pid) (state.calls.count .sample) outcome.observation.peakVramBytes
  /-- the sampler is closed once, at the end -/
  closed : ∃ earlier, state.calls = earlier ++ [.close] ∧ .close ∉ earlier

/-- The observation of a run that is concluded. -/
lemma observation_conclude (start : ℚ) (output : Output) (timedOut : Bool) (state : HostState) :
    (conclude env backend request start output timedOut state).observation =
      observation env backend start state (!timedOut && env.returncode = 0)
        (if timedOut then some .timeout else if env.returncode = 0 then none else some .nonZeroExit) := by
  rw [conclude]
  cases timedOut with
  | true => rfl
  | false =>
    rw [if_neg Bool.false_ne_true]
    by_cases zero : env.returncode = 0
    · rw [if_pos zero, if_neg Bool.false_ne_true, if_pos zero, decide_eq_true zero]
      rfl
    · rw [if_neg zero, if_neg Bool.false_ne_true, if_neg zero, decide_eq_false zero]
      rfl

/-- Turns sample and wait for a time. -/
lemma of_mem_turnCalls {call : HostCall} (mem : call ∈ turnCalls waits) :
    call = .sample ∨ ∃ seconds ∈ waits, call = .communicate (some seconds) := by
  obtain ⟨seconds, among, own⟩ := List.mem_flatMap.mp mem
  rcases List.mem_cons.mp own with wait | sample
  · exact .inr ⟨seconds, among, wait⟩
  · exact .inl (List.mem_singleton.mp sample)

/-- The calls of an ending: a last wait, or those of a stop once the time is over. -/
lemma Ending.of_mem {turns : ℕ} {ending : List HostCall} {call : HostCall}
    (own : Ending env backend request turns ending output timedOut) (mem : call ∈ ending) :
    (∃ seconds, call = .communicate (some seconds) ∧ 0 < seconds ∧ seconds ≤ backend.sampleIntervalSeconds) ∨
    (timedOut = true ∧ request.timeoutSeconds ≤ env.clock (turns + 1) - env.clock 0 ∧
      (call ∈ [HostCall.sample, .poll, .terminate, .communicate (some terminateGraceSeconds)] ∨
        call ∈ [HostCall.kill, .communicate none] ∧ .kill ∈ ending ∧ env.graced = none)) := by
  have stop : ∀ {rest}, call ∈ HostCall.sample :: stopCalls env rest →
      call ∈ [HostCall.sample, .poll, .terminate, .communicate (some terminateGraceSeconds)] ∨ call ∈ rest := by
    intro rest mem
    rcases List.mem_cons.mp mem with rfl | later
    · exact .inl (by simp)
    · rcases of_mem_stopCalls later with rfl | rfl | rfl | own
      · exact .inl (by simp)
      · exact .inl (by simp)
      · exact .inl (by simp)
      · exact .inr own
  cases own with
  | ended _ short _ => exact .inl ⟨_, List.mem_singleton.mp mem, short⟩
  | stopped tooLate graced =>
    rcases stop mem with own | own
    · exact .inr ⟨rfl, tooLate, .inl own⟩
    · cases own
  | killed tooLate graced =>
    rcases stop mem with own | own
    · exact .inr ⟨rfl, tooLate, .inl own⟩
    · refine .inr ⟨rfl, tooLate, .inr ⟨own, ?_, graced⟩⟩
      rw [← stopCalls_append]
      simp

/-- The calls of a run. -/
lemma Ended.of_mem {before : HostState} {ending : List HostCall} {call : HostCall}
    (spec : Ended env backend request pid output timedOut before waits ending)
    (mem : call ∈ ((before.sample env pid).read.call .close).calls) :
    (∃ command environment, call = .spawn command environment) ∨ call = .sample ∨ call = .close ∨
      call ∈ turnCalls waits ∨ call ∈ ending := by
  have whole : ((before.sample env pid).read.call .close).calls =
      (before.calls ++ [HostCall.sample]) ++ [HostCall.close] := rfl
  rw [whole, spec.calls] at mem
  simp only [List.mem_append, List.mem_cons, List.not_mem_nil, or_false] at mem
  rcases mem with ((spawn | sample | turn | last) | sample) | close
  · exact .inl ⟨_, _, spawn⟩
  · exact .inr (.inl sample)
  · exact .inr (.inr (.inr (.inl turn)))
  · exact .inr (.inr (.inr (.inr last)))
  · exact .inr (.inl sample)
  · exact .inr (.inr (.inl close))

/-- The calls of the ending are calls of the run. -/
lemma Ended.mem_of_ending {before : HostState} {ending : List HostCall} {call : HostCall}
    (spec : Ended env backend request pid output timedOut before waits ending) (mem : call ∈ ending) :
    call ∈ ((before.sample env pid).read.call .close).calls := by
  have early : call ∈ before.calls := by
    rw [spec.calls]
    exact List.mem_cons_of_mem _ (List.mem_cons_of_mem _ (List.mem_append_right _ mem))
  exact List.mem_append_left _ (List.mem_append_left _ early)

/-- Whether the output ended in time. -/
lemma Ending.timedOut_eq_false {turns : ℕ} {ending : List HostCall}
    (own : Ending env backend request turns ending output timedOut)
    (expired : ∀ turn < turns, env.waited turn = none ∧ env.clock (turn + 1) - env.clock 0 < request.timeoutSeconds) :
    timedOut = false ↔ ∃ turn, env.waited turn ≠ none ∧ (∀ earlier < turn, env.waited earlier = none) ∧
      ∀ reading ≤ turn, env.clock (reading + 1) - env.clock 0 < request.timeoutSeconds := by
  have overdue : request.timeoutSeconds ≤ env.clock (turns + 1) - env.clock 0 →
      ¬ ∃ turn, env.waited turn ≠ none ∧ (∀ earlier < turn, env.waited earlier = none) ∧
        ∀ reading ≤ turn, env.clock (reading + 1) - env.clock 0 < request.timeoutSeconds := by
    rintro tooLate ⟨turn, returned, _, inTime⟩
    have behind : turns ≤ turn := by
      by_contra before
      exact returned (expired turn (Nat.not_le.mp before)).1
    exact absurd (inTime turns behind) (not_lt.mpr tooLate)
  cases own with
  | ended inTime _ returned =>
    refine ⟨fun _ => ⟨turns, ?_, fun turn before => (expired turn before).1, ?_⟩, fun _ => rfl⟩
    · rw [returned]
      exact Option.some_ne_none _
    · intro reading le
      rcases Nat.lt_or_eq_of_le le with earlier | rfl
      · exact (expired reading earlier).2
      · exact inTime
  | stopped tooLate _ => exact ⟨fun wrong => Bool.noConfusion wrong, fun inTime => absurd inTime (overdue tooLate)⟩
  | killed tooLate _ => exact ⟨fun wrong => Bool.noConfusion wrong, fun inTime => absurd inTime (overdue tooLate)⟩

/-- Every run of a command that was started, if it returns or raises, is supervised to its end: the waiting goes in
short turns, the process is told to stop only when its time is over and killed only when its output does not end within
the grace, it counts as a success exactly when its output ended in time and it ended with code 0, the peaks are those
of all samples, and the sampler is closed at the end. -/
theorem execute_supervised {outcome : HostOutcome} (started : env.spawn = .started pid)
    (ended : execute env backend request fuel = some (some outcome, state)) :
    Supervised env backend request pid outcome state := by
  -- a command that was started was waited for, and its run is that of the loop and its end
  obtain ⟨_, timedOut, before, waits, ending, spec, ⟨_, wrong, _⟩ | ⟨text, rfl, same, rfl⟩⟩ :=
    execute_started started ended
  · cases wrong
  cases same
  have samples : ((before.sample env pid).read.call .close).calls.count .sample = (before.sample env pid).samples := by
    change ((before.calls ++ [HostCall.sample]) ++ [HostCall.close]).count .sample = before.samples + 1
    rw [List.count_append, List.count_append, ← spec.samples]
    rfl
  have reason : timedOut = true →
      (conclude env backend request (env.clock 0) text timedOut (before.sample env pid)).observation.failureReason =
        some .timeout := by
    intro tooLate
    rw [observation_conclude, tooLate]
    rfl
  -- the process is only signalled behind the last turn, when its time is over
  have stopped : ∀ call ∈ ((before.sample env pid).read.call .close).calls, call = .terminate ∨ call = .kill →
      timedOut = true ∧ request.timeoutSeconds ≤ env.clock (waits.length + 1) - env.clock 0 ∧
        (call = .kill → env.graced = none) := by
    intro call mem which
    rcases spec.of_mem mem with ⟨_, _, rfl⟩ | rfl | rfl | turn | last
    · simp at which
    · simp at which
    · simp at which
    · rcases of_mem_turnCalls turn with rfl | ⟨_, _, rfl⟩
      · simp at which
      · simp at which
    · rcases spec.ending.of_mem last with ⟨_, rfl, _⟩ | ⟨tooLate, late, own | ⟨_, _, graced⟩⟩
      · simp at which
      · refine ⟨tooLate, late, ?_⟩
        rintro rfl
        simp at own
      · exact ⟨tooLate, late, fun _ => graced⟩
  exact
    { short := by
        intro timeout mem
        rcases spec.of_mem mem with ⟨_, _, wrong⟩ | wrong | wrong | turn | last
        · cases wrong
        · cases wrong
        · cases wrong
        · rcases of_mem_turnCalls turn with wrong | ⟨seconds, among, same⟩
          · cases wrong
          · cases same
            exact .inl ⟨seconds, rfl, spec.short seconds among⟩
        · rcases spec.ending.of_mem last with ⟨seconds, same, short⟩ | ⟨tooLate, _, own | ⟨own, kill, _⟩⟩
          · cases same
            exact .inl ⟨seconds, rfl, short⟩
          · exact .inr ⟨reason tooLate, .inl (by simpa using own)⟩
          · refine .inr ⟨reason tooLate, .inr ⟨by simpa using own, ?_⟩⟩
            exact spec.mem_of_ending kill
      patient := by
        rintro signal
        have tooLate : timedOut = true ∧ request.timeoutSeconds ≤ env.clock (waits.length + 1) - env.clock 0 := by
          rcases signal with terminate | kill
          · exact ⟨(stopped _ terminate (.inl rfl)).1, (stopped _ terminate (.inl rfl)).2.1⟩
          · exact ⟨(stopped _ kill (.inr rfl)).1, (stopped _ kill (.inr rfl)).2.1⟩
        exact ⟨waits.length, tooLate.2, fun earlier before => (spec.expired earlier before).1, reason tooLate.1⟩
      lastResort := fun kill => (stopped _ kill (.inr rfl)).2.2 rfl
      success := by
        rw [observation_conclude, ← spec.ending.timedOut_eq_false spec.expired]
        change (!timedOut && decide (env.returncode = 0)) = true ↔ _
        rw [Bool.and_eq_true, Bool.not_eq_true', decide_eq_true_iff, and_comm]
      peakRam := by
        rw [samples, observation_conclude]
        exact spec.peakRam.keep
      peakVram := by
        rw [samples, observation_conclude]
        exact spec.peakVram.keep
      closed := by
        refine ⟨before.calls ++ [.sample], rfl, ?_⟩
        rw [spec.calls]
        simp only [List.mem_append, List.mem_cons, List.not_mem_nil, or_false]
        rintro ((wrong | wrong | turn | last) | wrong)
        · cases wrong
        · cases wrong
        · rcases of_mem_turnCalls turn with wrong | ⟨_, _, wrong⟩
          · cases wrong
          · cases wrong
        · rcases spec.ending.of_mem last with ⟨_, wrong, _⟩ | ⟨_, _, wrong | ⟨wrong, _⟩⟩
          · cases wrong
          · simp at wrong
          · simp at wrong
        · cases wrong }

/-- A process that never ends by itself. -/
def stuckEnv : HostEnv where
  spawn := .started 7
  clock := fun reading => reading / 10
  environ := []
  rss := fun sample => some (1000 + sample)
  gpus := none
  waited := fun _ => none
  alive := true
  graced := none
  drained := some ⟨"", "stuck"⟩
  returncode := -9
  repr := fun text => "'" ++ text ++ "'"
  fixed := fun digits _ => if digits = 1 then "0.2" else "0.300"

/-- A request for it. -/
def stuckRequest : ExecutionRequest where
  command := ["stuck"]
  timeoutSeconds := 1 / 5
  nonempty := List.cons_ne_nil _ _
  positive := by decide +kernel

/-- The process of the example is stopped. -/
theorem execute_supervised_stuck :
    ∃ outcome state, execute stuckEnv {} stuckRequest 2 = some (some outcome, state) ∧
      Supervised stuckEnv {} stuckRequest 7 outcome state := by
  have returns : ((execute stuckEnv {} stuckRequest 2).bind Prod.fst).isSome = true := by decide +kernel
  obtain ⟨outcome, own⟩ := Option.isSome_iff_exists.mp returns
  obtain ⟨⟨_, state⟩, same, rfl⟩ := Option.bind_eq_some_iff.mp own
  exact ⟨outcome, state, same, execute_supervised rfl same⟩

end Runs

section Termination
variable {env : HostEnv} {backend : HostExecutionBackend} {request : ExecutionRequest} {pid : ℤ}
variable {state state' : HostState} {waits : List ℚ} {fuel turns : ℕ}

/-- Time passes: a wait that expires has taken its time. -/
structure HostEnv.Timed (env : HostEnv) (backend : HostExecutionBackend) (request : ExecutionRequest) : Prop where
  start : env.clock 0 ≤ env.clock 1
  expired : ∀ turn, env.waited turn = none → env.clock (turn + 1) + min backend.sampleIntervalSeconds
    (request.timeoutSeconds - (env.clock (turn + 1) - env.clock 0)) ≤ env.clock (turn + 2)

/-- How much time has passed after some turns that expired. -/
lemma HostEnv.Timed.elapsed (timed : env.Timed backend request)
    (expired : ∀ turn < turns, env.waited turn = none) :
    min request.timeoutSeconds (turns * backend.sampleIntervalSeconds) ≤ env.clock (turns + 1) - env.clock 0 := by
  induction turns with
  | zero =>
    have start := timed.start
    rw [Nat.cast_zero, zero_mul]
    exact (min_le_right _ _).trans (by linarith)
  | succ turns ih =>
    have earlier := ih fun turn before => expired turn (Nat.lt_succ_of_lt before)
    have passed := timed.expired turns (expired turns (Nat.lt_succ_self turns))
    rw [Nat.cast_succ, add_mul, one_mul]
    rcases le_total backend.sampleIntervalSeconds
      (request.timeoutSeconds - (env.clock (turns + 1) - env.clock 0)) with whole | rest
    · rw [min_eq_left whole] at passed
      rcases min_le_iff.mp earlier with late | counted
      · exact (min_le_left _ _).trans (by linarith [backend.positive])
      · exact (min_le_right _ _).trans (by linarith)
    · rw [min_eq_right rest] at passed
      exact (min_le_left _ _).trans (by linarith)

/-- The most turns that a request leaves room for. -/
def maxTurns (backend : HostExecutionBackend) (request : ExecutionRequest) : ℕ :=
  ⌈request.timeoutSeconds / backend.sampleIntervalSeconds⌉₊

/-- No more turns expire than there is room for. -/
lemma HostEnv.Timed.turns_le (timed : env.Timed backend request) (expired : ∀ turn < turns,
    env.waited turn = none ∧ env.clock (turn + 1) - env.clock 0 < request.timeoutSeconds) :
    turns ≤ maxTurns backend request := by
  by_contra many
  have last := (expired _ (Nat.not_le.mp many)).2
  have passed := timed.elapsed fun turn before => (expired turn (before.trans (Nat.not_le.mp many))).1
  have enough : request.timeoutSeconds ≤ maxTurns backend request * backend.sampleIntervalSeconds := by
    rw [← div_le_iff₀ backend.positive]
    exact Nat.le_ceil _
  rw [min_eq_left enough] at passed
  exact absurd last (not_lt.mpr passed)

/-- Enough turns end the waiting. -/
lemma Waiting.ends (timed : env.Timed backend request) (waiting : Waiting env backend request pid waits state)
    (enough : maxTurns backend request < waits.length + fuel) : ∃ result,
      ∀ more, fuel ≤ more → communicateWithSampling env backend request pid (env.clock 0) more state = some result := by
  induction fuel generalizing state waits with
  | zero => exact absurd (timed.turns_le waiting.expired) (Nat.not_le.mpr enough)
  | succ fuel ih =>
    -- the time is over, the output has ended, or the next turn is waited for
    by_cases tooLate : request.timeoutSeconds - (env.clock state.readings - env.clock 0) ≤ 0
    · refine ⟨(((terminateAndDrain env (state.read.sample env pid)).1, true),
        (terminateAndDrain env (state.read.sample env pid)).2), fun more le => ?_⟩
      obtain ⟨more, rfl⟩ := Nat.exists_eq_add_of_le' (Nat.lt_of_lt_of_le (Nat.succ_pos fuel) le)
      rw [communicateWithSampling]
      dsimp only
      rw [if_pos tooLate]
    · cases returned : env.waited state.waits with
      | some output =>
        refine ⟨((some output, false), { state.read.call (.communicate (some (min backend.sampleIntervalSeconds
          (request.timeoutSeconds - (env.clock state.readings - env.clock 0))))) with waits := state.waits + 1 }),
          fun more le => ?_⟩
        obtain ⟨more, rfl⟩ := Nat.exists_eq_add_of_le' (Nat.lt_of_lt_of_le (Nat.succ_pos fuel) le)
        rw [communicateWithSampling]
        dsimp only
        rw [if_neg tooLate, returned]
      | none =>
        have left := not_le.mp tooLate
        have inTime : env.clock (waits.length + 1) - env.clock 0 < request.timeoutSeconds := by
          rw [← waiting.readings]
          linarith
        have next := waiting.turn ⟨lt_min backend.positive left, min_le_left _ _⟩ returned inTime
        -- every turn that expires leaves one less
        have enough' : maxTurns backend request < (waits ++ [min backend.sampleIntervalSeconds
            (request.timeoutSeconds - (env.clock state.readings - env.clock 0))]).length + fuel := by
          rw [List.length_append, List.length_singleton]
          omega
        obtain ⟨result, same⟩ := ih next enough'
        refine ⟨result, fun more le => ?_⟩
        obtain ⟨more, rfl⟩ := Nat.exists_eq_add_of_le' (Nat.lt_of_lt_of_le (Nat.succ_pos fuel) le)
        rw [communicateWithSampling]
        dsimp only
        rw [if_neg tooLate, returned]
        exact same more (Nat.le_of_succ_le_succ le)

end Termination

end Jaull.Execution
