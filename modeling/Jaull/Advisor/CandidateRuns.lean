import Jaull.Advisor.SpeedSchedule
import Jaull.Lib.ListMap
import Jaull.Lib.Loops
import Jaull.Text.Numbers
import Mathlib.Data.List.Chain

/-!
# Measuring the candidates

Port of `run_speed_candidates` and `run_candidates` of `jaull/advisor/quality_candidates.py`: calls that are made one
after the other until the caller cancels. What a call comes to, how long it takes and what a look of the caller's flag
finds are the world's; time counts a unit of which half a second has some number.
-/

namespace Jaull.Advisor
open Jaull.Domain Jaull.Lib Jaull.Text

section Model

/-- What a call comes to: the caller cancelled it, an exception that the loops catch, one that they do not, or a
result. -/
inductive CallResult (α : Type)
  | cancelled
  | refused (text : String)
  | raised (text : String)
  | done (result : α)
  deriving DecidableEq, Repr

/-- What a speed call stored (Python `BenchmarkRunResult`). -/
structure SpeedResult where
  success : Bool
  message : Option String := none
  path : Option String := none
  deriving DecidableEq, Repr

/-- Python `QualityCandidateOutcome`. -/
structure QualityCandidateOutcome where
  plan : ExecutionPlan
  path : Option String := none
  error : Option String := none
  deriving DecidableEq

/-- The outcome of a speed call, but for an exception that is not caught. -/
def speedOutcome (candidate : QualityCandidate) : CallResult SpeedResult → QualityCandidateOutcome
  | .cancelled => { plan := candidate.plan, error := some "Cancelled" }
  | .refused text => { plan := candidate.plan, error := some text }
  | .raised text => { plan := candidate.plan, error := some text }
  | .done result =>
    if result.success then { plan := candidate.plan, path := result.path }
    else { plan := candidate.plan, error := some ((truthy result.message).getD "llama-bench failed") }

/-- What lies outside a session of speed calls. -/
structure SpeedWorld where
  /-- whether a look of the session finds it cancelled -/
  look : ℕ → Bool
  call : ℕ → QualityCandidate → CallResult SpeedResult
  /-- how long a call takes -/
  takes : ℕ → ℕ
  /-- how much longer than asked a sleep takes -/
  lag : ℕ → ℕ
  halfSecond : ℕ
  half_pos : 0 < halfSecond

/-- A call that was made, with its beginning and its end. -/
structure SpeedCall where
  candidate : QualityCandidate
  began : ℕ
  ended : ℕ
  deriving DecidableEq

/-- How far a session is. -/
structure SpeedSession where
  outcomes : List QualityCandidateOutcome := []
  calls : List SpeedCall := []
  looks : ℕ := 0
  sleeps : ℕ := 0
  clock : ℕ := 0
  deriving DecidableEq

variable (world : SpeedWorld)

/-- The wait between two calls, until the deadline or until a look finds the session cancelled. -/
def SpeedSession.cool (deadline : ℕ) (session : SpeedSession) : SpeedSession :=
  if world.look session.looks then { session with looks := session.looks + 1 }
  else if _ : deadline ≤ session.clock then { session with looks := session.looks + 1 }
  else
    SpeedSession.cool deadline
      { session with
        looks := session.looks + 1
        sleeps := session.sleeps + 1
        clock := session.clock + min world.halfSecond (deadline - session.clock) + world.lag session.sleeps }
termination_by deadline - session.clock
decreasing_by
  have half := world.half_pos
  omega

/-- A call is made. -/
def SpeedSession.call (session : SpeedSession) (candidate : QualityCandidate) : SpeedSession :=
  let index := session.calls.length
  let ended := session.clock + world.takes index
  { session with
    outcomes := session.outcomes ++ [speedOutcome candidate (world.call index candidate)]
    calls := session.calls ++ [{ candidate := candidate, began := session.clock, ended := ended }]
    clock := ended }

/-- The wait in front of a call; the first call needs none. -/
def SpeedSession.rest (cooldown : ℕ) (session : SpeedSession) : SpeedSession :=
  if session.calls = [] then session else session.cool world (session.clock + cooldown)

/-- The session looks whether it is cancelled. -/
def SpeedSession.look (session : SpeedSession) : SpeedSession :=
  { session with looks := session.looks + 1 }

/-- One call of the schedule. -/
def speedTurn (cooldown : ℕ) (session : SpeedSession) (candidate : QualityCandidate) :
    LoopStep SpeedSession String :=
  let rested := session.rest world cooldown
  if world.look rested.looks then .leave rested.look
  else
    match world.call rested.calls.length candidate with
    | .cancelled => .leave (rested.look.call world candidate)
    | .raised text => .raise text
    | _ => .go (rested.look.call world candidate)

/-- The session of Python `run_speed_candidates`. -/
def speedSession (cooldown : ℕ) (candidates : List QualityCandidate) : Except String SpeedSession :=
  if 1 ≤ candidates.length ∧ candidates.length ≤ 3 then
    runLoop (speedTurn world cooldown) (speedCallSchedule candidates) {}
  else .error "Select between one and three evaluation candidates."

/-- Python `run_speed_candidates`. -/
def runSpeedCandidates (cooldown : ℕ) (candidates : List QualityCandidate) :
    Except String (List QualityCandidateOutcome) :=
  (speedSession world cooldown candidates).map (·.outcomes)

end Model

section Cooling
variable {world : SpeedWorld} {session : SpeedSession} {deadline : ℕ}

/-- A wait makes no call, and ends at its deadline unless its last look finds the session cancelled. -/
structure Cooled (world : SpeedWorld) (deadline : ℕ) (session cooled : SpeedSession) : Prop where
  calls : cooled.calls = session.calls
  outcomes : cooled.outcomes = session.outcomes
  looks : session.looks < cooled.looks
  clock : session.clock ≤ cooled.clock
  ends : deadline ≤ cooled.clock ∨ world.look (cooled.looks - 1) = true

/-- A session that cools down waits for its deadline, or is cancelled. -/
lemma cooled (world : SpeedWorld) (deadline : ℕ) (session : SpeedSession) :
    Cooled world deadline session (session.cool world deadline) := by
  induction wait : deadline - session.clock using Nat.strongRecOn generalizing session with
  | ind left ih =>
    rw [SpeedSession.cool]
    by_cases cancelled : world.look session.looks = true
    · rw [if_pos cancelled]
      exact ⟨rfl, rfl, Nat.lt_succ_self _, Nat.le_refl _, .inr cancelled⟩
    · rw [if_neg cancelled]
      by_cases late : deadline ≤ session.clock
      · rw [dif_pos late]
        exact ⟨rfl, rfl, Nat.lt_succ_self _, Nat.le_refl _, .inl late⟩
      · rw [dif_neg late]
        have half := world.half_pos
        have sooner : deadline - (session.clock + min world.halfSecond (deadline - session.clock) +
            world.lag session.sleeps) < left := by omega
        have later := ih _ sooner
          { session with
            looks := session.looks + 1
            sleeps := session.sleeps + 1
            clock := session.clock + min world.halfSecond (deadline - session.clock) + world.lag session.sleeps } rfl
        exact
          { calls := later.calls
            outcomes := later.outcomes
            looks := Nat.lt_trans (Nat.lt_succ_self _) later.looks
            clock := Nat.le_trans (by simp only; omega) later.clock
            ends := later.ends }

end Cooling

section Session
variable {world : SpeedWorld} {cooldown : ℕ} {candidates made : List QualityCandidate} {candidate : QualityCandidate}
variable {session next final : SpeedSession}

/-- The calls of a session so far, each answered, and each begun a wait after the one before it. -/
structure Calling (world : SpeedWorld) (cooldown : ℕ) (made : List QualityCandidate) (session : SpeedSession) :
    Prop where
  calls : session.calls.map SpeedCall.candidate = made
  outcomes : session.outcomes = made.zipIdx.map fun (candidate, index) =>
    speedOutcome candidate (world.call index candidate)
  spaced : session.calls.IsChain fun before call => before.ended + cooldown ≤ call.began
  clock : ∀ call ∈ session.calls.getLast?, call.ended ≤ session.clock

lemma calling_start : Calling world cooldown [] {} :=
  ⟨rfl, rfl, List.isChain_nil, fun _ mem => by cases mem⟩

/-- A call that begins a wait after the last one. -/
lemma Calling.call (calling : Calling world cooldown made session)
    (rested : ∀ call ∈ session.calls.getLast?, call.ended + cooldown ≤ session.clock) :
    Calling world cooldown (made ++ [candidate]) (session.call world candidate) where
  calls := by
    rw [SpeedSession.call]
    dsimp only
    rw [List.map_append, List.map_singleton, calling.calls]
  outcomes := by
    have count : session.calls.length = made.length := by
      rw [← calling.calls, List.length_map]
    rw [SpeedSession.call]
    dsimp only
    rw [List.zipIdx_append, List.map_append, ← calling.outcomes, count, Nat.zero_add]
    rfl
  spaced := by
    rw [SpeedSession.call]
    exact List.isChain_append.mpr ⟨calling.spaced, List.isChain_singleton _, by
      intro before last call first
      cases first
      exact rested before last⟩
  clock := by
    rw [SpeedSession.call]
    dsimp only
    rw [List.getLast?_concat]
    intro call mem
    cases mem
    exact Nat.le_refl _

/-- Whether the loop goes on after a call. -/
def CallResult.proceeds {α : Type} : CallResult α → Bool
  | .refused _ => true
  | .done _ => true
  | _ => false

/-- A session in front of a call: it waited, and its look did not find it cancelled. -/
structure Looked (world : SpeedWorld) (cooldown : ℕ) (session looked : SpeedSession) : Prop where
  calls : looked.calls = session.calls
  outcomes : looked.outcomes = session.outcomes
  clock : session.clock ≤ looked.clock
  waited : session.calls = [] ∨ session.clock + cooldown ≤ looked.clock

/-- What a turn does: it leaves because a look found the session cancelled, or it makes its call. -/
inductive TurnOf (world : SpeedWorld) (cooldown : ℕ) (session : SpeedSession) (candidate : QualityCandidate) :
    LoopStep SpeedSession String → Prop
  | looked (final : SpeedSession) (calls : final.calls = session.calls) (outcomes : final.outcomes = session.outcomes)
    (clock : session.clock ≤ final.clock) (look : ∃ look < final.looks, world.look look = true) :
    TurnOf world cooldown session candidate (.leave final)
  | cancelled (looked : SpeedSession) (ready : Looked world cooldown session looked)
    (answer : world.call session.calls.length candidate = .cancelled) :
    TurnOf world cooldown session candidate (.leave (looked.call world candidate))
  | raised (text : String) (answer : world.call session.calls.length candidate = .raised text) :
    TurnOf world cooldown session candidate (.raise text)
  | made (looked : SpeedSession) (ready : Looked world cooldown session looked)
    (answer : (world.call session.calls.length candidate).proceeds = true) :
    TurnOf world cooldown session candidate (.go (looked.call world candidate))

/-- Waiting makes no call, and takes its time unless its last look finds the session cancelled. -/
lemma rest_spec (world : SpeedWorld) (cooldown : ℕ) (session : SpeedSession) :
    (session.rest world cooldown).calls = session.calls ∧
      (session.rest world cooldown).outcomes = session.outcomes ∧
      session.clock ≤ (session.rest world cooldown).clock ∧
      (session.calls = [] ∨ session.clock + cooldown ≤ (session.rest world cooldown).clock ∨
        ∃ look, (session.rest world cooldown).looks = look + 1 ∧ world.look look = true) := by
  rw [SpeedSession.rest]
  by_cases first : session.calls = []
  · rw [if_pos first]
    exact ⟨rfl, rfl, Nat.le_refl _, .inl first⟩
  · rw [if_neg first]
    have wait := cooled world (session.clock + cooldown) session
    refine ⟨wait.calls, wait.outcomes, wait.clock, .inr ?_⟩
    rcases wait.ends with late | cancelled
    · exact .inl late
    · refine .inr ⟨(session.cool world (session.clock + cooldown)).looks - 1, ?_, cancelled⟩
      have more := wait.looks
      omega

/-- What a turn does. -/
lemma turnOf_speedTurn (steady : ∀ look, world.look look = true → world.look (look + 1) = true)
    (session : SpeedSession) (candidate : QualityCandidate) :
    TurnOf world cooldown session candidate (speedTurn world cooldown session candidate) := by
  obtain ⟨calls, outcomes, clock, waited⟩ := rest_spec world cooldown session
  rw [speedTurn]
  cases look : world.look (session.rest world cooldown).looks with
  | true =>
    rw [if_pos rfl]
    exact .looked _ calls outcomes clock ⟨_, Nat.lt_succ_self _, look⟩
  | false =>
    rw [if_neg Bool.false_ne_true, calls]
    have ready : Looked world cooldown session (session.rest world cooldown).look := by
      refine ⟨calls, outcomes, clock, ?_⟩
      rcases waited with first | late | ⟨before, count, cancelled⟩
      · exact .inl first
      · exact .inr late
      · -- a flag that was set is still set
        have still := steady before cancelled
        rw [← count, look] at still
        cases still
    cases answer : world.call session.calls.length candidate with
    | cancelled => exact .cancelled _ ready answer
    | raised text => exact .raised text answer
    | refused text => exact .made _ ready (by rw [answer]; rfl)
    | done result => exact .made _ ready (by rw [answer]; rfl)

/-- A look at the flag calls nothing. -/
lemma Calling.looked {looked : SpeedSession} (calling : Calling world cooldown made session)
    (calls : looked.calls = session.calls) (outcomes : looked.outcomes = session.outcomes)
    (clock : session.clock ≤ looked.clock) : Calling world cooldown made looked where
  calls := by
    rw [calls]
    exact calling.calls
  outcomes := by
    rw [outcomes]
    exact calling.outcomes
  spaced := by
    rw [calls]
    exact calling.spaced
  clock := by
    rw [calls]
    exact fun call mem => Nat.le_trans (calling.clock call mem) clock

/-- A candidate that is called is one call more. -/
lemma Calling.extend {looked : SpeedSession} (calling : Calling world cooldown made session)
    (ready : Looked world cooldown session looked) :
    Calling world cooldown (made ++ [candidate]) (looked.call world candidate) := by
  refine (calling.looked ready.calls ready.outcomes ready.clock).call ?_
  rw [ready.calls]
  intro call mem
  rcases ready.waited with none | waited
  · rw [none] at mem
    cases mem
  · have ended := calling.clock call mem
    omega

/-- Why a session ends early. -/
inductive Stopped (world : SpeedWorld) (made : List QualityCandidate) (session : SpeedSession) : Prop
  | look (look : ℕ) (seen : look < session.looks) (cancelled : world.look look = true)
  | call (before : List QualityCandidate) (candidate : QualityCandidate) (split : made = before ++ [candidate])
    (cancelled : world.call before.length candidate = .cancelled)

/-- Where a session ends. -/
lemma speedSession_ends (steady : ∀ look, world.look look = true → world.look (look + 1) = true)
    (ended : speedSession world cooldown candidates = .ok final) :
    ∃ made rest, speedCallSchedule candidates = made ++ rest ∧ Calling world cooldown made final ∧
      (rest = [] ∨ Stopped world made final) := by
  rw [speedSession] at ended
  split_ifs at ended
  have go : ∀ made candidate session next, Calling world cooldown made session →
      speedTurn world cooldown session candidate = .go next → Calling world cooldown (made ++ [candidate]) next := by
    intro made candidate session next calling turn
    have own : TurnOf world cooldown session candidate _ := turnOf_speedTurn steady session candidate
    rw [turn] at own
    cases own with
    | made looked ready answer => exact calling.extend ready
  rcases runLoop_ends calling_start go ended with all | ⟨before, candidate, after, last, split, calling, left⟩
  · exact ⟨_, [], (List.append_nil _).symm, all, .inl rfl⟩
  · have own : TurnOf world cooldown last candidate _ := turnOf_speedTurn steady last candidate
    rw [left] at own
    cases own with
    | looked _ calls outcomes clock look =>
      obtain ⟨look, seen, cancelled⟩ := look
      exact ⟨before, candidate :: after, split, calling.looked calls outcomes clock, .inr (.look look seen cancelled)⟩
    | cancelled looked ready answer =>
      refine ⟨before ++ [candidate], after, ?_, calling.extend ready, .inr (.call before candidate rfl ?_)⟩
      · rw [split, List.append_assoc, List.singleton_append]
      · have count : before.length = last.calls.length :=
          (congrArg List.length calling.calls).symm.trans (List.length_map _)
        rw [count]
        exact answer

/-- A session of speed calls that ended: the calls it made and those it did not, a caller being a place of the list. -/
structure SpeedRan (world : SpeedWorld) (cooldown : ℕ) (candidates : List QualityCandidate)
    (made rest : List (Fin candidates.length)) (session : SpeedSession) : Prop where
  /-- the calls made are the beginning of the schedule -/
  schedule : speedCallSchedule candidates = (made ++ rest).map candidates.get
  enough : ∀ place, ((made ++ rest).count place : ℤ) = speedCallsNeeded (candidates.get place)
  /-- each call has its outcome, and begins a wait after the end of the one before it -/
  calling : Calling world cooldown (made.map candidates.get) session
  stopped : rest = [] ∨ Stopped world (made.map candidates.get) session
  /-- wherever it stops, the plans that still need calls are at most one call apart -/
  near : ∀ place ∈ rest, ∀ place' ∈ rest, made.count place ≤ made.count place' + 1

/-- A session without exceptions ends. -/
lemma speedSession_total (steady : ∀ look, world.look look = true → world.look (look + 1) = true)
    (some' : 1 ≤ candidates.length) (few : candidates.length ≤ 3)
    (quiet : ∀ index candidate text, world.call index candidate ≠ .raised text) :
    ∃ session, speedSession world cooldown candidates = .ok session := by
  rw [speedSession, if_pos ⟨some', few⟩]
  apply runLoop_total
  intro session candidate failure turn
  have own : TurnOf world cooldown session candidate _ := turnOf_speedTurn steady session candidate
  rw [turn] at own
  cases own with
  | raised _ answer => exact quiet _ _ _ answer

/-- A session of speed calls makes the calls of its schedule one after the other, waits in between, and has one outcome
for each call it made. Where it stops before the end, the caller cancelled, and no plan was called more often than
another one that also needs more calls, but for one call. Only an exception that is not caught can keep it from ending
so. -/
theorem speedSession_ran (world : SpeedWorld) (cooldown : ℕ) (candidates : List QualityCandidate)
    (steady : ∀ look, world.look look = true → world.look (look + 1) = true) :
    (∀ session, speedSession world cooldown candidates = .ok session →
      ∃ made rest, SpeedRan world cooldown candidates made rest session) ∧
    (1 ≤ candidates.length → candidates.length ≤ 3 →
      (∀ index candidate text, world.call index candidate ≠ .raised text) →
      ∃ session, speedSession world cooldown candidates = .ok session) := by
  refine ⟨?_, fun some' few quiet => speedSession_total steady some' few quiet⟩
  intro session ended
  obtain ⟨made, rest, split, calling, stopped⟩ := speedSession_ends steady ended
  have schedule := speedCallSchedule_eq candidates
  rw [split] at schedule
  obtain ⟨made', rest', cut, rfl, rfl⟩ := List.map_eq_append_iff.mp schedule.symm
  refine ⟨made', rest', ?_, ?_, calling, ?_, ?_⟩
  · rw [split, List.map_append]
  · intro place
    have needs := one_le_speedCallsNeeded (candidates.get place)
    have most := le_max_needed (List.get_mem candidates place)
    rw [← cut, count_roundRobin distinct_places (mem_places place)]
    omega
  · rcases stopped with none | why
    · exact .inl (List.map_eq_nil_iff.mp none)
    · exact .inr why
  · intro place left place' left'
    exact roundRobin_near distinct_places cut left left'

end Session

section Evaluations

/-- What lies outside a session of evaluations: looks, what a call that writes to a folder comes to (the path of its
record), whether the folder of the session is there already, and what the setup comes to. -/
structure EvaluationWorld where
  look : ℕ → Bool
  call : ℕ → QualityCandidate → String → CallResult String
  rootExists : Bool
  setup : Except String Unit

/-- How far a session of evaluations is. -/
structure EvaluationSession where
  outcomes : List QualityCandidateOutcome := []
  outputs : List String := []
  looks : ℕ := 0
  deriving DecidableEq

variable (world : EvaluationWorld) (root : String)

/-- The folder of a call (`root / f"model-{index:02d}"`, counted from one). -/
def outputOf (index : ℕ) : String :=
  root ++ "/model-" ++ zfill 2 (toString (index + 1))

/-- The outcome of an evaluation, but for an exception that is not caught. -/
def evaluationOutcome (candidate : QualityCandidate) : CallResult String → QualityCandidateOutcome
  | .cancelled => { plan := candidate.plan, error := some "Cancelled" }
  | .refused text => { plan := candidate.plan, error := some text }
  | .raised text => { plan := candidate.plan, error := some text }
  | .done path => { plan := candidate.plan, path := some path }

/-- One candidate of Python `run_candidates`. An exception that is not caught comes with the folders of the calls
made. -/
def evaluationTurn (session : EvaluationSession) (candidate : QualityCandidate) :
    LoopStep EvaluationSession (String × List String) :=
  if world.look session.looks then .leave { session with looks := session.looks + 1 }
  else
    let index := session.outputs.length
    let answer := world.call index candidate (outputOf root index)
    let called : EvaluationSession :=
      { outcomes := session.outcomes ++ [evaluationOutcome candidate answer]
        outputs := session.outputs ++ [outputOf root index]
        looks := session.looks + 1 }
    match answer with
    | .cancelled => .leave called
    | .raised text => .raise (text, called.outputs)
    | _ => .go called

/-- The session of Python `run_candidates`, or its exception with the folders of the calls made before it. -/
def evaluationSession (candidates : List QualityCandidate) : Except (String × List String) EvaluationSession :=
  if ¬(1 ≤ candidates.length ∧ candidates.length ≤ 3) then
    .error ("Select between one and three evaluation candidates.", [])
  else if world.rootExists then .error (root, [])
  else
    match world.setup with
    | .error text => .error (text, [])
    | .ok () => runLoop (evaluationTurn world root) candidates {}

/-- Python `run_candidates`. -/
def runCandidates (candidates : List QualityCandidate) : Except String (List QualityCandidateOutcome) :=
  ((evaluationSession world root candidates).map (·.outcomes)).mapError Prod.fst

end Evaluations

section Evaluated
variable {world : EvaluationWorld} {root : String} {made candidates : List QualityCandidate}
variable {session final : EvaluationSession} {candidate : QualityCandidate}

/-- The calls of a session of evaluations so far: each has its own folder and its outcome. -/
structure Evaluating (world : EvaluationWorld) (root : String) (made : List QualityCandidate)
    (session : EvaluationSession) : Prop where
  outcomes : session.outcomes = made.zipIdx.map fun (candidate, index) =>
    evaluationOutcome candidate (world.call index candidate (outputOf root index))
  outputs : session.outputs = (List.range made.length).map (outputOf root)

/-- A call has its own folder and its outcome. -/
lemma Evaluating.call (evaluating : Evaluating world root made session) (looks : ℕ) :
    Evaluating world root (made ++ [candidate])
      { outcomes := session.outcomes ++ [evaluationOutcome candidate
          (world.call session.outputs.length candidate (outputOf root session.outputs.length))]
        outputs := session.outputs ++ [outputOf root session.outputs.length]
        looks := looks } := by
  have count : session.outputs.length = made.length := by
    rw [evaluating.outputs, List.length_map, List.length_range]
  refine ⟨?_, ?_⟩
  · dsimp only
    rw [List.zipIdx_append, List.map_append, ← evaluating.outcomes, count, Nat.zero_add]
    rfl
  · dsimp only
    rw [List.length_append, List.length_singleton, List.range_succ, List.map_append, ← evaluating.outputs, count]
    rfl

/-- What a turn does: it leaves because a look found the session cancelled, or it makes its call. -/
lemma evaluationTurn_cases (evaluating : Evaluating world root made session) :
    (∃ looks, evaluationTurn world root session candidate = .leave { session with looks := looks } ∧
        ∃ look < looks, world.look look = true) ∨
      (∃ next, evaluationTurn world root session candidate = .leave next ∧
        Evaluating world root (made ++ [candidate]) next ∧
        world.call made.length candidate (outputOf root made.length) = .cancelled) ∨
      (∃ text, evaluationTurn world root session candidate =
          .raise (text, (List.range (made.length + 1)).map (outputOf root)) ∧
        world.call made.length candidate (outputOf root made.length) = .raised text) ∨
      ∃ next, evaluationTurn world root session candidate = .go next ∧
        Evaluating world root (made ++ [candidate]) next := by
  have count : session.outputs.length = made.length := by
    rw [evaluating.outputs, List.length_map, List.length_range]
  rw [evaluationTurn]
  cases look : world.look session.looks with
  | true => exact .inl ⟨session.looks + 1, rfl, session.looks, Nat.lt_succ_self _, look⟩
  | false =>
    rw [if_neg Bool.false_ne_true]
    have called : Evaluating world root (made ++ [candidate]) _ := evaluating.call (session.looks + 1)
    dsimp only
    rw [count] at called ⊢
    cases answer : world.call made.length candidate (outputOf root made.length) with
    | cancelled =>
      rw [answer] at called
      exact .inr (.inl ⟨_, rfl, called, rfl⟩)
    | raised text =>
      refine .inr (.inr (.inl ⟨text, ?_, rfl⟩))
      rw [List.range_succ, List.map_append, ← evaluating.outputs]
      rfl
    | refused text =>
      rw [answer] at called
      exact .inr (.inr (.inr ⟨_, rfl, called⟩))
    | done path =>
      rw [answer] at called
      exact .inr (.inr (.inr ⟨_, rfl, called⟩))

/-- A session of evaluations that ended. -/
structure Evaluated (world : EvaluationWorld) (root : String) (candidates made rest : List QualityCandidate)
    (session : EvaluationSession) : Prop where
  fresh : world.rootExists = false
  ready : world.setup = .ok ()
  /-- the calls made are those of the first candidates, each with its outcome and a folder of its own -/
  split : candidates = made ++ rest
  evaluating : Evaluating world root made session
  apart : session.outputs.Nodup
  stopped : rest = [] ∨ (∃ look < session.looks, world.look look = true) ∨
    ∃ before candidate, made = before ++ [candidate] ∧
      world.call before.length candidate (outputOf root before.length) = .cancelled

/-- Candidates have folders of their own. -/
lemma outputOf_inj {i j : ℕ} (lt : i < 3) (lt' : j < 3) (same : outputOf root i = outputOf root j) : i = j := by
  have few : ∀ i < 3, ∀ j < 3, zfill 2 (toString (i + 1)) = zfill 2 (toString (j + 1)) → i = j := by decide
  refine few i lt j lt' (String.ext ?_)
  have lists := congrArg String.toList same
  simp only [outputOf, String.toList_append] at lists
  exact List.append_cancel_left lists

/-- No folder is used twice. -/
lemma nodup_outputs (few : made.length ≤ 3) : ((List.range made.length).map (outputOf root)).Nodup := by
  refine List.Nodup.map_on ?_ List.nodup_range
  intro i mem j mem' same
  have lt := List.mem_range.mp mem
  have lt' := List.mem_range.mp mem'
  exact outputOf_inj (by omega) (by omega) same

lemma evaluating_start : Evaluating world root [] {} :=
  ⟨rfl, rfl⟩

/-- A turn that goes on made its call. -/
lemma Evaluating.go {next : EvaluationSession} (evaluating : Evaluating world root made session)
    (turn : evaluationTurn world root session candidate = .go next) :
    Evaluating world root (made ++ [candidate]) next := by
  have turned := @evaluationTurn_cases world root made session candidate evaluating
  rcases turned with ⟨_, own, _⟩ | ⟨_, own, _⟩ | ⟨_, own, _⟩ | ⟨next', own, holds⟩
  · rw [own] at turn
    cases turn
  · rw [own] at turn
    cases turn
  · rw [own] at turn
    cases turn
  · rw [own] at turn
    cases turn
    exact holds

/-- Where a session of evaluations ends. -/
lemma evaluationLoop_ends (ended : runLoop (evaluationTurn world root) candidates {} = .ok final) :
    ∃ made rest, candidates = made ++ rest ∧ Evaluating world root made final ∧
      (rest = [] ∨ (∃ look < final.looks, world.look look = true) ∨
        ∃ before candidate, made = before ++ [candidate] ∧
          world.call before.length candidate (outputOf root before.length) = .cancelled) := by
  rcases runLoop_ends evaluating_start (fun _ _ _ _ => Evaluating.go) ended with
    all | ⟨before, candidate, after, last, split, evaluating, left⟩
  · exact ⟨_, [], (List.append_nil _).symm, all, .inl rfl⟩
  · have turned := @evaluationTurn_cases world root before last candidate evaluating
    rcases turned with ⟨looks, own, look⟩ | ⟨next, own, holds, answer⟩ | ⟨_, own, _⟩ | ⟨_, own, _⟩
    · rw [own] at left
      cases left
      exact ⟨before, candidate :: after, split, ⟨evaluating.outcomes, evaluating.outputs⟩, .inr (.inl look)⟩
    · rw [own] at left
      cases left
      refine ⟨before ++ [candidate], after, ?_, holds, .inr (.inr ⟨before, candidate, rfl, answer⟩)⟩
      rw [split, List.append_assoc, List.singleton_append]
    · rw [own] at left
      cases left
    · rw [own] at left
      cases left

/-- Where a session of evaluations raises: in a call, whose folder is the last one. -/
lemma evaluationLoop_raises {text : String} {outputs : List String}
    (raised : runLoop (evaluationTurn world root) candidates {} = .error (text, outputs)) :
    ∃ before candidate after, candidates = before ++ candidate :: after ∧
      outputs = (List.range (before.length + 1)).map (outputOf root) ∧
      world.call before.length candidate (outputOf root before.length) = .raised text := by
  obtain ⟨before, candidate, after, last, split, evaluating, left⟩ :=
    runLoop_raises evaluating_start (fun _ _ _ _ => Evaluating.go) raised
  have turned := @evaluationTurn_cases world root before last candidate evaluating
  rcases turned with ⟨_, own, _⟩ | ⟨_, own, _⟩ | ⟨_, own, answer⟩ | ⟨_, own, _⟩
  · rw [own] at left
    cases left
  · rw [own] at left
    cases left
  · rw [own] at left
    cases left
    exact ⟨before, candidate, after, split, rfl, answer⟩
  · rw [own] at left
    cases left

/-- A session of evaluations that raises makes no call, or it ends in a call whose exception is not caught. -/
structure EvaluationRaised (world : EvaluationWorld) (root : String) (before : List QualityCandidate)
    (candidate : QualityCandidate) (text : String) (outputs : List String) : Prop where
  fresh : world.rootExists = false
  ready : world.setup = .ok ()
  outputs : outputs = (List.range (before.length + 1)).map (outputOf root)
  raised : world.call before.length candidate (outputOf root before.length) = .raised text

/-- A session of evaluations makes no call when its folder is there already. Otherwise it gives every call a folder of
its own, evaluates the candidates in order and has one outcome for each call; it stops before the end only when it is
cancelled, and raises only before the first call or from a call with an exception that is not caught. -/
theorem evaluationSession_ran (world : EvaluationWorld) (root : String) (candidates : List QualityCandidate) :
    (world.rootExists = true → ∃ text, evaluationSession world root candidates = .error (text, [])) ∧
    (∀ session, evaluationSession world root candidates = .ok session →
      ∃ made rest, Evaluated world root candidates made rest session) ∧
    ∀ text outputs, evaluationSession world root candidates = .error (text, outputs) →
      outputs = [] ∨ ∃ before candidate after, candidates = before ++ candidate :: after ∧
        EvaluationRaised world root before candidate text outputs := by
  rw [evaluationSession]
  split_ifs with count there
  · exact ⟨fun _ => ⟨_, rfl⟩, fun _ wrong => (nomatch wrong), fun _ _ ended => .inl (by cases ended; rfl)⟩
  · have fresh : world.rootExists = false := Bool.eq_false_iff.mpr there
    refine ⟨fun wrong => absurd wrong there, ?_⟩
    cases ready : world.setup with
    | error text => exact ⟨fun _ wrong => (nomatch wrong), fun _ _ ended => .inl (by cases ended; rfl)⟩
    | ok _ =>
      constructor
      · intro session ended
        obtain ⟨made, rest, split, evaluating, stopped⟩ := evaluationLoop_ends ended
        refine ⟨made, rest, fresh, ready, split, evaluating, ?_, stopped⟩
        rw [evaluating.outputs]
        apply nodup_outputs
        rw [split, List.length_append] at count
        omega
      · intro text outputs ended
        obtain ⟨before, candidate, after, split, outputsEq, answer⟩ := evaluationLoop_raises ended
        exact .inr ⟨before, candidate, after, split, fresh, ready, outputsEq, answer⟩
  · exact ⟨fun _ => ⟨_, rfl⟩, fun _ wrong => (nomatch wrong), fun _ _ ended => .inl (by cases ended; rfl)⟩

/-- A machine that cannot run the first model, and keeps what it evaluates of the others. -/
def storingWorld : EvaluationWorld where
  look _ := false
  call index _ output := if index = 0 then .refused "no fit" else .done output
  rootExists := false
  setup := .ok ()

end Evaluated

section Sample

/-- A plan that was not measured. -/
def unmeasured : QualityCandidate where
  plan :=
    { planId := "plan"
      modelIdentity := { modelName := "model" }
      artifact := { modelIdentity := { modelName := "model" }, repoId := "org/model-GGUF", format := .gguf }
      runtime := { runtime := .llamaCpp, confidence := .high }
      identity_matches := rfl }
  reason := ""
  downloaded := true

/-- A machine whose third call is cancelled. -/
def cancelledWorld : SpeedWorld where
  look _ := false
  call index _ := if index = 2 then .cancelled else .done { success := true, path := some (toString index) }
  takes _ := 7
  lag _ := 1
  halfSecond := 5
  half_pos := by decide

/-- The session of the example is cancelled. -/
theorem speedSession_ran_cancelled :
    ∃ session made rest, speedSession cancelledWorld 20 [unmeasured, unmeasured] = .ok session ∧
      SpeedRan cancelledWorld 20 [unmeasured, unmeasured] made rest session := by
  have steady : ∀ look, cancelledWorld.look look = true → cancelledWorld.look (look + 1) = true :=
    fun _ wrong => (nomatch wrong)
  have quiet : ∀ index candidate text, cancelledWorld.call index candidate ≠ .raised text := by
    intro index candidate text wrong
    rw [cancelledWorld] at wrong
    dsimp only at wrong
    split_ifs at wrong
  obtain ⟨ran, ends⟩ := speedSession_ran cancelledWorld 20 [unmeasured, unmeasured] steady
  obtain ⟨session, ended⟩ := ends (by decide) (by decide) quiet
  obtain ⟨made, rest, own⟩ := ran session ended
  exact ⟨session, made, rest, ended, own⟩

/-- That of the other one stores the second of two models. -/
theorem evaluationSession_ran_stored :
    ∃ session made rest, session.outputs = ["runs/model-01", "runs/model-02"] ∧
      session.outcomes.map (·.path) = [none, some "runs/model-02"] ∧
      Evaluated storingWorld "runs" [unmeasured, unmeasured] made rest session := by
  obtain ⟨session, ended, outputs, paths⟩ : ∃ session,
      evaluationSession storingWorld "runs" [unmeasured, unmeasured] = .ok session ∧
        session.outputs = ["runs/model-01", "runs/model-02"] ∧
        session.outcomes.map (·.path) = [none, some "runs/model-02"] := ⟨_, rfl, by decide, by decide⟩
  obtain ⟨_, returned, _⟩ := evaluationSession_ran storingWorld "runs" [unmeasured, unmeasured]
  obtain ⟨made, rest, own⟩ := returned session ended
  exact ⟨session, made, rest, outputs, paths, own⟩

end Sample

end Jaull.Advisor
