import Jaull.Application.PoolRescue
import Jaull.Recommendation.Recommend

/-!
# The pool behind both stages

The expansion and then the rescue, as the workflow runs them: the pool keeps the original candidates at their
places and its repositories apart, and both stages stay within their budgets, whatever the outside answers.
A sibling is inspected only for a kept copy without a confirmed placement, but also for one of which the pool
has a confirmed sibling already.
-/

namespace Jaull.Application
open Jaull.Discovery Jaull.Domain Jaull.Lib Jaull.Recommendation

/-- What a rescue leaves of the pool `expanded`, of the session it ends in: rounds of at most one for each kept
copy, which account for every inspection since `before` and for every item the pool gains. No round inspects a
further sibling where none in the pool was confirmed when its copy came up, or nothing was left to inspect. -/
structure Rescued (evaluated expanded : List PooledCandidate)
    (alternatives : String → Option (List LinkedCandidate)) (maxInspections : ℤ) (before : List Event)
    (rounds : List Round) (session : Session Rescue) : Prop where
  originals : KeepsOriginals evaluated session.vars.result
  distinct : (session.vars.result.map itemKey).Nodup
  made : ∃ made, session.events = before ++ made ∧ inspections made = tried rounds ∧
    (inspections made).length ≤ maxInspections.toNat ∧ searchCount made = 0
  pool : session.vars.result = expanded ++ gained rounds
  copies : (rounds.map Round.copy).Sublist expanded
  sound : ∀ round ∈ rounds, round.Sound alternatives
  noFurther : ∀ earlier round later, rounds = earlier ++ round :: later →
    NoneConfirmed alternatives round.copy (expanded ++ gained earlier) ∨
        NothingLeft expanded alternatives maxInspections earlier round.copy →
      round.NoFurther alternatives (expanded ++ gained earlier)

section Rescued
variable {evaluated expanded : List PooledCandidate} {alternatives : String → Option (List LinkedCandidate)}
  {maxInspections : ℤ} {before : List Event} {rounds : List Round} {pending : List String}
  {session : Session Rescue}

/-- Wherever a rescue stops, its rounds account for it. -/
lemma Rescuing.rescued (originals : KeepsOriginals evaluated expanded)
    (kept : (rounds.map Round.copy).Sublist expanded)
    (rescuing : Rescuing expanded alternatives maxInspections before rounds pending session) :
    Rescued evaluated expanded alternatives maxInspections before rounds session where
  originals := by
    rw [rescuing.pool]
    exact originals.append (gained rounds)
  distinct := rescuing.distinct
  made := by
    obtain ⟨made, eq, same, unsearched⟩ := rescuing.made
    refine ⟨made, eq, same, ?_, unsearched⟩
    have counted := rescuing.counted
    have budget := rescuing.budget
    rw [same]
    omega
  pool := rescuing.pool
  copies := kept
  sound := rescuing.sound
  noFurther := by
    rintro earlier round later rfl
    exact rescuing.noFurther

end Rescued

/-- Both stages, whether they return or fail: what the expansion leaves, and what the rescue leaves of the pool
that the expansion returned. Where the rescue returns, it says of every round whether it inspects a further
sibling. -/
structure KeepPoolSound (outside : Outside) (requirements : UserRequirements) (hardware : HardwareProfile)
    (evaluated : List PooledCandidate) (candidates : List LinkedCandidate)
    (alternatives : String → Option (List LinkedCandidate)) (maxInspections : ℤ) (start : Session Expansion) :
    Prop where
  expands : Expanded evaluated start.events
    (endState (expandExecutionCandidates outside requirements hardware evaluated candidates start))
  returns : ∀ expanded session,
    expandExecutionCandidates outside requirements hardware evaluated candidates start = .ok expanded session →
      expanded = session.vars.result
  rescues : ∀ expanded session vars,
    expandExecutionCandidates outside requirements hardware evaluated candidates start = .ok expanded session →
      ∃ rounds, Rescued evaluated expanded alternatives maxInspections session.events rounds
        (endState (rescueWithReuploadAlternatives outside requirements hardware alternatives maxInspections
          expanded ⟨vars, session.events⟩))
  rescued : ∀ expanded session vars pool session',
    expandExecutionCandidates outside requirements hardware evaluated candidates start = .ok expanded session →
      rescueWithReuploadAlternatives outside requirements hardware alternatives maxInspections expanded
          ⟨vars, session.events⟩ = .ok pool session' →
        pool = session'.vars.result ∧
          ∃ rounds, Rescued evaluated expanded alternatives maxInspections session.events rounds session' ∧
            ∀ earlier round later, rounds = earlier ++ round :: later →
              (round.NoFurther alternatives (expanded ++ gained earlier) ↔
                NoneConfirmed alternatives round.copy (expanded ++ gained earlier) ∨
                  NothingLeft expanded alternatives maxInspections earlier round.copy)

/-- Both stages keep the pool sound, whatever the outside answers. -/
theorem expand_then_rescue_sound (outside : Outside) (requirements : UserRequirements)
    (hardware : HardwareProfile) {evaluated : List PooledCandidate} (distinct : (evaluated.map itemKey).Nodup)
    (candidates : List LinkedCandidate) (alternatives : String → Option (List LinkedCandidate))
    (maxInspections : ℤ) (start : Session Expansion) :
    KeepPoolSound outside requirements hardware evaluated candidates alternatives maxInspections start := by
  have expands := expandExecutionCandidates_meets outside requirements hardware distinct candidates start.events
  have rescues : ∀ expanded session,
      expandExecutionCandidates outside requirements hardware evaluated candidates start = .ok expanded session →
        Meets (fun session' => session'.events = session.events)
          (rescueWithReuploadAlternatives outside requirements hardware alternatives maxInspections expanded)
          (fun pool session' => pool = session'.vars.result ∧
            Ran expanded alternatives maxInspections session.events expanded session')
          (fun _ => Stopped expanded alternatives maxInspections session.events expanded) := by
    intro expanded session returned
    obtain ⟨same, within⟩ := expands.of_ok rfl returned
    apply rescueWithReuploadAlternatives_meets
    exact same ▸ within.distinct
  constructor
  case expands =>
    have within := (expands.after fun _ _ held => held.2).endState (s := start) rfl
    exact within.expanded
  case returns =>
    intro expanded session returned
    exact (expands.of_ok rfl returned).1
  case rescues =>
    intro expanded session vars returned
    obtain ⟨same, within⟩ := expands.of_ok rfl returned
    obtain ⟨rounds, pending, kept, rescuing⟩ :=
      ((rescues expanded session returned).after fun _ _ held => held.2.stopped).endState
        (s := ⟨vars, session.events⟩) rfl
    exact ⟨rounds, rescuing.rescued (same ▸ within.originals) kept⟩
  case rescued =>
    intro expanded session vars pool session' returned returned'
    obtain ⟨same, within⟩ := expands.of_ok rfl returned
    obtain ⟨result, rounds, kept, idled, rescuing⟩ := (rescues expanded session returned).of_ok rfl returned'
    refine ⟨result, rounds, rescuing.rescued (same ▸ within.originals) kept, ?_⟩
    rintro earlier round later rfl
    exact rescuing.noFurther_iff idled

/-- A hub where every inspection finds a GGUF repository and no estimate is made. -/
def plainOutside : Outside where
  checkCancelled _ := .ok ()
  search _ _ := .ok []
  inspectModel _ _ := .ok { classification := { primaryType := .gguf } }
  selectConfiguration _ _ _ _ := .ok { configuration := none, estimate := none, reason := "No estimate." }
  resolveModelIdentity candidate _ := { modelName := candidate.repoId }
  filterKeeps _ _ := true
  collaborators := namingCollaborators

/-- A copy that nothing is known to fit. -/
def unplacedCopy (repoId : String) : PooledCandidate where
  candidate := { repoId := repoId }
  analysis := some { classification := { primaryType := .gguf } }

/-- The most downloaded copy of a model. -/
def popularCopy : PooledCandidate :=
  unplacedCopy "org/popular-gguf"

/-- A sibling that fits. -/
def viableCopy : PooledCandidate :=
  { unplacedCopy "org/viable-gguf" with
    memoryEstimate := some
      { inferenceConfiguration := { contextLength := 4096 }
        totalBytes := some 1073741824
        assessment :=
          { status := .comfortable, confidence := .high, targetDevice := .auto, effectiveDevice := .cpu } } }

/-- A sibling that the search knows and the pool does not have. -/
def spareCopy : LinkedCandidate where
  repoId := "org/spare-gguf"

/-- The copies set aside for two models. -/
def siblingsOf (key : String) : Option (List LinkedCandidate) :=
  if key = "org/popular-gguf" then some [viableCopy.candidate, spareCopy]
  else if key = "org/second-gguf" then some [{ repoId := "org/third-gguf" }, { repoId := "org/fourth-gguf" }]
  else none

/-- A machine that nothing is known of. -/
def plainMachine : HardwareProfile where
  os := "Linux"
  arch := "x86_64"
  cpu := {}
  memory := { totalBytes := 0, availableBytes := 0 }

/-- A session in which nothing happened. -/
def newSession : Session Expansion where
  vars := { result := [], inspected := [], extraInspections := 0, searches := 0 }
  events := []

/-- Two copies of two models, with two siblings each. -/
theorem expand_then_rescue_sound_twoCopies :
    KeepPoolSound plainOutside (chatRequest .balanced) plainMachine
      [popularCopy, unplacedCopy "org/second-gguf"] [] siblingsOf 3 newSession :=
  expand_then_rescue_sound plainOutside (chatRequest .balanced) plainMachine
    (by decide +kernel) [] siblingsOf 3 newSession

/-- The pool has a confirmed sibling of the popular copy, and the rescue inspects another one. -/
theorem confirmedSibling_inspects_further :
    ¬NoneConfirmed siblingsOf popularCopy [popularCopy, viableCopy] ∧
      (∀ found, ¬Round.NoFurther siblingsOf [popularCopy, viableCopy] ⟨popularCopy, [⟨spareCopy, found⟩]⟩) ∧
      ∃ session vars pool session',
        expandExecutionCandidates plainOutside (chatRequest .balanced) plainMachine [popularCopy, viableCopy] []
            newSession = .ok [popularCopy, viableCopy] session ∧
          rescueWithReuploadAlternatives plainOutside (chatRequest .balanced) plainMachine siblingsOf 6
            [popularCopy, viableCopy] ⟨vars, session.events⟩ = .ok pool session' ∧
          inspections session.events = [] ∧ inspections session'.events = [spareCopy] := by
  have confirmed : ¬NoneConfirmed siblingsOf popularCopy [popularCopy, viableCopy] := by
    intro none
    have unplaced := none viableCopy (by simp) ⟨_, rfl, by decide +kernel⟩
    cases unplaced
  refine ⟨confirmed, ?_, ?_⟩
  · intro found noFurther
    exact confirmed (noFurther.noneConfirmed (List.cons_ne_nil _ _))
  · exact ⟨_, ⟨[], [], 0⟩, _, _, rfl, rfl, rfl, rfl⟩

end Jaull.Application
