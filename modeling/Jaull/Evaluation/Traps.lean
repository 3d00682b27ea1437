import Jaull.Evaluation.Records
import Jaull.Lib.PyLaws

/-!
# Traps

Where the validators of records raise what their callers do not provide for, and exactly when: a value of
the wrong shape of which a method is called, an index outside of a list, an integer without a double, a text
that is nested too deep. Each trap names what the checks in front of it let through.
-/

namespace Jaull.Evaluation
open Jaull.Lib

variable {env : Surroundings} {record identity : Json}

section Steps
variable {α β : Type}

/-- A refusal is caught. -/
lemma not_escapes_refused (refusal : Refusal) :
    ¬Escapes (.error (.refused refusal) : Except PyError α) := by
  intro ⟨e, eq, other⟩
  exact other refusal (Except.error.inj eq).symm

/-- What returns does not escape. -/
lemma not_escapes_pure {a : α} : ¬Escapes (pure a : Except PyError α) :=
  not_escapes_ok

/-- Any other exception escapes. -/
lemma escapes_error {e : PyError} (other : ∀ refusal, e ≠ .refused refusal) :
    Escapes (.error e : Except PyError α) :=
  ⟨e, rfl, other⟩

/-- There is one value to look at. -/
lemma exists_unit {p : Unit → Prop} : (∃ u, p u) ↔ p () := by
  constructor
  · intro ⟨_, holds⟩
    exact holds
  · intro holds
    exact ⟨(), holds⟩

/-- A check escapes, or it passes and what follows escapes. -/
lemma escapes_unit_bind {x : Except PyError Unit} {f : Unit → Except PyError β} :
    Escapes (x >>= f) ↔ Escapes x ∨ x = .ok () ∧ Escapes (f ()) := by
  rw [escapes_bind, exists_unit]

/-- A check under a condition. -/
lemma escapes_doIf {condition : Bool} {action : Except PyError Unit} :
    Escapes (doIf condition action) ↔ condition = true ∧ Escapes action := by
  cases condition with
  | true => simp [doIf]
  | false => simpa [doIf] using not_escapes_ok

/-- The first member of a list that fails a check, behind members that pass it. -/
def FirstAt (passes trap : α → Prop) (l : List α) : Prop :=
  ∃ before a after, l = before ++ a :: after ∧ (∀ b ∈ before, passes b) ∧ trap a

/-- Checks of a list escape at the first item that is a trap, those before it passing. -/
lemma escapes_forM_iff {f : α → Except PyError Unit} {trap : α → Prop}
    (each : ∀ a, Escapes (f a) ↔ trap a) {l : List α} :
    Escapes (l.forM f) ↔ FirstAt (fun a => f a = .ok ()) trap l := by
  rw [escapes_forM, FirstAt]
  simp only [each]

end Steps

section Values
variable {α : Type}

/-- A value that is no dictionary. -/
def NoDict (value : Json) : Prop :=
  value.dict? = none

/-- A table is read from a dictionary only. -/
lemma escapes_entries {value : Json} : Escapes value.entries ↔ NoDict value := by
  cases value with
  | obj fields =>
    constructor
    · intro escapes
      exact absurd escapes not_escapes_ok
    · intro none
      cases none
  | _ =>
    constructor
    · intro _
      rfl
    · intro _
      exact escapes_error (fun _ eq => by cases eq)

/-- A value that is taken for bytes when read as a URL: it is not empty, and neither text nor a container. -/
def NoUrl (value : Json) : Prop :=
  value.truthy = true ∧ value.string? = none ∧ value.list? = none ∧ value.dict? = none

/-- An endpoint is read as a text. -/
lemma escapes_validateEndpoint {value : Json} : Escapes (validateEndpoint value) ↔ NoUrl value := by
  have scalar : ∀ {v : Json}, v.string? = none → v.list? = none → v.dict? = none →
      validateEndpoint v = (if v.truthy then .error .attribute
        else lifted (refuseIf true validateEndpoint.message)) →
      (Escapes (validateEndpoint v) ↔ NoUrl v) := by
    intro v string list dict eq
    rw [eq]
    constructor
    · intro escapes
      refine ⟨?_, string, list, dict⟩
      by_contra falsy
      rw [if_neg falsy] at escapes
      exact not_escapes_lifted _ escapes
    · intro ⟨truthy, _⟩
      rw [if_pos truthy]
      exact escapes_error (fun _ eq => by cases eq)
  cases value with
  | str s =>
    constructor
    · intro escapes
      cases s with
      | text endpoint => exact absurd escapes (not_escapes_lifted _)
      | surrogate before code after =>
        exact absurd escapes (not_escapes_lifted (refuseIf true validateEndpoint.message))
    · intro ⟨_, string, _⟩
      cases string
  | arr items =>
    constructor
    · intro escapes
      exact absurd escapes (not_escapes_refused _)
    · intro ⟨_, _, list, _⟩
      cases list
  | obj fields =>
    constructor
    · intro escapes
      exact absurd escapes (not_escapes_refused _)
    · intro ⟨_, _, _, dict⟩
      cases dict
  | _ => exact scalar rfl rfl rfl rfl

/-- An integer without a double. -/
def TooLarge (value : Json) : Prop :=
  ∃ n : ℤ, value = .int n ∧ overflowBound ≤ n.natAbs

/-- Whether a number is finite is asked of its float. -/
lemma escapes_isFinite {value : Json} : Escapes (isFinite value) ↔ TooLarge value := by
  cases value with
  | int n =>
    rw [isFinite]
    split
    · rename_i large
      constructor
      · intro _
        exact ⟨n, rfl, large⟩
      · intro _
        exact escapes_error (fun _ eq => by cases eq)
    · rename_i small
      constructor
      · intro escapes
        exact absurd escapes not_escapes_ok
      · intro ⟨m, eq, large⟩
        cases eq
        exact absurd large small
  | bool b => exact iff_of_false not_escapes_ok fun ⟨_, eq, _⟩ => by cases eq
  | float x =>
    refine iff_of_false ?_ fun ⟨_, eq, _⟩ => by cases eq
    cases x <;> exact not_escapes_ok
  | _ => exact iff_of_false (not_escapes_refused _) fun ⟨_, eq, _⟩ => by cases eq

/-- An index outside of a list or a text. -/
def OutOfRange (container key : Json) : Prop :=
  ∃ index, key.index? = some index ∧
    ((∃ items, container = .arr items ∧ memberAt items index = none) ∨
      ∃ s, container = .str s ∧ memberAt s.chars index = none)

/-- A lookup escapes when it finds nothing. -/
lemma escapes_elim {member : Option α} {f : α → Except PyError Json}
    (fine : ∀ a, ¬Escapes (f a)) : Escapes (member.elim (.error .index) f) ↔ member = none := by
  cases member with
  | none => exact iff_of_true (escapes_error fun _ eq => by cases eq) rfl
  | some a => exact iff_of_false (fine a) (by simp)

/-- An index escapes when it is out of range, or of no container. -/
lemma escapes_item {container key : Json} :
    Escapes (container.item key) ↔ OutOfRange container key := by
  cases container with
  | arr items =>
    rw [Json.item]
    cases at' : key.index? with
    | none =>
      refine iff_of_false (not_escapes_refused _) ?_
      intro ⟨index, eq, _⟩
      rw [at'] at eq
      cases eq
    | some index =>
      rw [escapes_elim fun _ => not_escapes_ok]
      constructor
      · intro none
        exact ⟨index, at', .inl ⟨items, rfl, none⟩⟩
      · intro ⟨index', eq, outside⟩
        rw [at'] at eq
        cases eq
        rcases outside with ⟨items', eq, none⟩ | ⟨s, eq, _⟩
        · cases eq
          exact none
        · cases eq
  | str s =>
    rw [Json.item]
    cases at' : key.index? with
    | none =>
      refine iff_of_false (not_escapes_refused _) ?_
      intro ⟨index, eq, _⟩
      rw [at'] at eq
      cases eq
    | some index =>
      rw [escapes_elim fun _ => not_escapes_ok]
      constructor
      · intro none
        exact ⟨index, at', .inr ⟨s, rfl, none⟩⟩
      · intro ⟨index', eq, outside⟩
        rw [at'] at eq
        cases eq
        rcases outside with ⟨items, eq, _⟩ | ⟨s', eq, none⟩
        · cases eq
        · cases eq
          exact none
  -- a lookup by a key is refused when it fails
  | obj fields =>
    refine iff_of_false ?_ ?_
    · cases key with
      | str name =>
        simp only [Json.item]
        cases fields.lookup name with
        | none => exact not_escapes_refused _
        | some member => exact not_escapes_ok
      | _ => exact not_escapes_refused _
    · rintro ⟨index, _, ⟨items, eq, _⟩ | ⟨s, eq, _⟩⟩ <;> cases eq
  | _ =>
    refine iff_of_false (not_escapes_refused _) ?_
    rintro ⟨index, _, ⟨items, eq, _⟩ | ⟨s, eq, _⟩⟩ <;> cases eq

/-- A table of results whose task is an index outside of it. -/
def TableTrap (result task : Json) (table : String) : Prop :=
  ∃ container, result.field table = .ok container ∧ OutOfRange container task

/-- A table of a task escapes where its path breaks off. -/
lemma escapes_taskTable {result task : Json} {table : String} :
    Escapes (taskTable result task table) ↔ TableTrap result task table := by
  rw [taskTable, escapes_lifted_bind, TableTrap]
  simp only [escapes_item]

end Values

section Runtime

/-- The keys of an external server. -/
def externalFields : List String :=
  ["ownership", "host_os", "endpoint", "manifest_sha256", "model_path", "port"]

/-- An external execution that is no dictionary, or whose complete server has no URL. -/
def ExternalTrap (execution : Json) : Prop :=
  NoDict execution ∨ ∃ fields external endpoint, execution = .obj fields ∧
    getField fields "external_server" = .obj external ∧
    (Json.obj external).setIs externalFields = .ok true ∧
    (Json.obj external).field "endpoint" = .ok endpoint ∧ NoUrl endpoint

/-- What lets an external execution escape. -/
lemma escapes_validateExternalExecution {execution runtime : Json} :
    Escapes (validateExternalExecution execution runtime) ↔ ExternalTrap execution := by
  rw [validateExternalExecution, escapes_bind, escapes_entries, ExternalTrap]
  refine or_congr_right ?_
  simp only [entries_eq_ok, escapes_lifted_bind, escapes_unit_bind, escapes_validateEndpoint,
    not_escapes_lifted, refuseIf_eq_ok, exists_const, and_false, or_false, Bool.not_eq_false']
  constructor
  · intro escapes
    obtain ⟨fields, eq, dict, complete, set, rfl, endpoint, found, noUrl⟩ := escapes
    cases external : getField fields "external_server" with
    | obj entries =>
      rw [external] at set found
      exact ⟨fields, entries, endpoint, eq, external, set, found, noUrl⟩
    | _ =>
      rw [external] at dict
      cases dict
  · intro trap
    obtain ⟨fields, external, endpoint, eq, isExternal, set, found, noUrl⟩ := trap
    refine ⟨fields, eq, ?_⟩
    rw [isExternal]
    exact ⟨rfl, true, set, rfl, endpoint, found, noUrl⟩

/-- An execution that is no dictionary, or an external one with a trap. -/
def ExecutionTrap (execution : Json) : Prop :=
  NoDict execution ∨ ∃ fields, execution = .obj fields ∧
    pyEq (getField fields "protocol") (.str externalProtocol) = true ∧ ExternalTrap execution

/-- What lets an execution escape. -/
lemma escapes_validateRuntimeExecution {execution runtime : Json} {context port : ℤ} {chat : Bool} :
    Escapes (validateRuntimeExecution execution runtime context port chat) ↔
      ExecutionTrap execution := by
  rw [validateRuntimeExecution, escapes_bind, escapes_entries, ExecutionTrap]
  refine or_congr_right (exists_congr fun fields => ?_)
  rw [entries_eq_ok]
  refine and_congr_right fun _ => ?_
  split
  · rename_i external
    rw [escapes_validateExternalExecution]
    exact (and_iff_right external).symm
  · rename_i other
    exact iff_of_false (not_escapes_lifted _) fun both => other both.1

/-- Evidence that breaks off its judgement: it is nested too deep, or a buffer size of it is infinite. -/
def Unjudged : Observation → Prop
  | .tooDeep => True
  | .infinite => True
  | _ => False

/-- The verdicts that escape are those on evidence that breaks off its judgement. -/
lemma escapes_raised {missing : String} {observation : Observation} :
    Escapes (observation.raised missing) ↔ Unjudged observation := by
  cases observation with
  | confirmed => exact iff_of_false not_escapes_ok id
  | contradicted text => exact iff_of_false (not_escapes_refused _) id
  | missing => exact iff_of_false (not_escapes_refused _) id
  | tooDeep => exact iff_of_true (escapes_error fun _ eq => by cases eq) trivial
  | infinite => exact iff_of_true (escapes_error fun _ eq => by cases eq) trivial

end Runtime

section Identities

/-- A runtime contract that is reached and has a trap. -/
def SharedTrap (identity protocol : Json) (digests : List Json) : Prop :=
  validateSharedFields identity protocol digests = .ok () ∧
    ∃ runtime execution, identity.field "runtime" = .ok runtime ∧
      runtime.holds "execution" = .ok true ∧ runtime.field "execution" = .ok execution ∧
      ExecutionTrap execution

/-- What lets the checks shared by both protocols escape. -/
lemma escapes_validateSharedIdentity {protocol : Json} {digests : List Json} :
    Escapes (validateSharedIdentity identity protocol digests) ↔
      SharedTrap identity protocol digests := by
  simp only [validateSharedIdentity, escapes_lifted_bind, escapes_unit_bind, escapes_doIf,
    not_escapes_lifted, and_false, or_false, escapes_validateRuntimeExecution]
  constructor
  · intro ⟨_, fields, runtime, runtimeEq, observable, holds, yes, execution, executionEq, trap⟩
    subst yes
    exact ⟨fields, runtime, execution, runtimeEq, holds, executionEq, trap⟩
  · intro ⟨fields, runtime, execution, runtimeEq, holds, executionEq, trap⟩
    exact ⟨(), fields, runtime, runtimeEq, true, holds, rfl, execution, executionEq, trap⟩

/-- A prompt that is nested too deep. -/
def PromptTrap (env : Surroundings) (sample : Json) : Prop :=
  ∃ prompt, generationPrompt sample = .ok prompt ∧ env.loads prompt = .tooDeep

/-- A text that is nested too deeply escapes. -/
lemma escapes_decode {text : PyString} : Escapes (env.decode text) ↔ env.loads text = .tooDeep := by
  rw [Surroundings.decode]
  cases env.loads text with
  | tree value => exact iff_of_false not_escapes_ok (by simp)
  | malformed reason => exact iff_of_false (not_escapes_refused _) (by simp)
  | tooDeep => exact iff_of_true (escapes_error fun _ eq => by cases eq) rfl

/-- What lets the messages of a sample escape. -/
lemma escapes_generationMessages {sample : Json} :
    Escapes (generationMessages env sample) ↔ PromptTrap env sample := by
  simp only [generationMessages, escapes_bind, escapes_decode, not_escapes_lifted, lifted_eq_ok,
    false_or, and_false, exists_false, or_false, PromptTrap]

/-- What a value is does not matter for that. -/
lemma escapes_discard {α : Type} {x : Except PyError α} :
    Escapes (discard x) ↔ Escapes x := by
  cases x with
  | ok a => exact iff_of_false not_escapes_ok not_escapes_ok
  | error e =>
    constructor
    · intro ⟨e', eq, other⟩
      exact ⟨e', by rw [Except.error.inj eq], other⟩
    · intro ⟨e', eq, other⟩
      exact ⟨e', by rw [Except.error.inj eq]; rfl, other⟩

/-- Nor for whether there is one. -/
lemma discard_eq_ok {α : Type} {x : Except PyError α} : discard x = .ok () ↔ ∃ a, x = .ok a := by
  cases x with
  | ok a => exact iff_of_true rfl ⟨a, rfl⟩
  | error e =>
    refine iff_of_false ?_ ?_
    · intro eq
      cases eq
    · intro ⟨a, eq⟩
      cases eq

/-- Values that have to be known, of which one, behind known ones, is nested too deep for the walk. -/
def KnownTrap (env : Surroundings) (walk : Walk) (values : List Json) : Prop :=
  FirstAt (fun value => known (env.levels walk) value = some true)
    (fun value => known (env.levels walk) value = none) values

/-- The check that values are known escapes exactly from such values. -/
lemma escapes_requireKnown {walk : Walk} {values : List Json} :
    Escapes (values.forM (requireKnown env walk)) ↔ KnownTrap env walk values := by
  have each : ∀ value, Escapes (requireKnown env walk value) ↔ known (env.levels walk) value = none := by
    intro value
    rw [requireKnown]
    cases known (env.levels walk) value with
    | none => exact iff_of_true (escapes_error fun _ eq => by cases eq) rfl
    | some b => cases b <;> exact iff_of_false (by simp [Escapes]) (Option.some_ne_none _)
  have passes : ∀ value, requireKnown env walk value = .ok () ↔
      known (env.levels walk) value = some true := by
    intro value
    rw [requireKnown]
    split <;> simp_all
  rw [escapes_forM_iff each, KnownTrap]
  simp only [FirstAt, passes]

/-- No trap is in values that are nested less deep than the stack allows. -/
lemma not_knownTrap {walk : Walk} {values : List Json}
    (fit : ∀ value ∈ values, value.depth < env.levels walk) : ¬KnownTrap env walk values := by
  intro ⟨before, value, after, eq, _, deep⟩
  have mem : value ∈ values := eq ▸ List.mem_append_right _ List.mem_cons_self
  have walked := known_of_depth value (fit value mem)
  rw [deep] at walked
  cases walked

/-- An identity of chat generation with a trap in the parts that have to be known. -/
def ChatTrap (env : Surroundings) (identity : Json) : Prop :=
  ∃ evaluator, chatEvaluator identity = .ok evaluator ∧ KnownTrap env .chat (chatParts identity evaluator)

/-- What lets a chat identity escape. -/
lemma escapes_validateChatIdentity :
    Escapes (validateChatIdentity env identity) ↔ ChatTrap env identity := by
  simp only [validateChatIdentity, escapes_lifted_bind, escapes_unit_bind, escapes_requireKnown,
    not_escapes_lifted, and_false, or_false, ChatTrap]

/-- An identity of chat generation with a trap: in the parts that have to be known, in its runtime contract
or in a prompt. -/
def GenerationIdentityTrap (env : Surroundings) (identity : Json) : Prop :=
  ChatTrap env identity ∨ ∃ digests, validateChatIdentity env identity = .ok digests ∧
    (SharedTrap identity generationProtocol digests ∨
      validateSharedIdentity identity generationProtocol digests = .ok () ∧
        ∃ samples, identity.field "samples" = .ok samples ∧
          FirstAt (fun sample => discard (generationMessages env sample) = .ok ()) (PromptTrap env)
            (samples.list?.getD []))

/-- An identity of likelihood scoring with a trap in the parts that have to be known. -/
def LikelihoodTrap (env : Surroundings) (identity : Json) : Prop :=
  ∃ evaluator, scoringEvaluator identity = .ok evaluator ∧
    KnownTrap env .scoring (scoringParts identity evaluator)

/-- What lets a scoring identity escape. -/
lemma escapes_validateScoringIdentity :
    Escapes (validateScoringIdentity env identity) ↔ LikelihoodTrap env identity := by
  simp only [validateScoringIdentity, escapes_lifted_bind, escapes_unit_bind, escapes_requireKnown,
    not_escapes_pure, and_false, exists_false, or_false, LikelihoodTrap]

/-- An identity with a trap. -/
def IdentityTrap (env : Surroundings) (identity : Json) : Prop :=
  NoDict identity ∨ ∃ fields, identity = .obj fields ∧
    if identityMode identity = some generationMode then GenerationIdentityTrap env identity
    else LikelihoodTrap env identity ∨ ∃ digests, validateScoringIdentity env identity = .ok digests ∧
      SharedTrap identity supportedProtocol digests

/-- What lets the identity of a generation run escape. -/
lemma escapes_validateGenerationIdentity :
    Escapes (validateGenerationIdentity env identity) ↔ GenerationIdentityTrap env identity := by
  have each : ∀ sample, Escapes (discard (generationMessages env sample)) ↔ PromptTrap env sample :=
    fun sample => escapes_discard.trans escapes_generationMessages
  rw [validateGenerationIdentity, escapes_bind, escapes_validateChatIdentity, GenerationIdentityTrap]
  simp only [escapes_unit_bind, escapes_validateSharedIdentity, escapes_lifted_bind]
  exact or_congr_right (exists_congr fun digests => and_congr_right fun _ => or_congr_right
    (and_congr_right fun _ => exists_congr fun samples => and_congr_right fun _ =>
      escapes_forM_iff each))

/-- What lets an identity escape. -/
lemma escapes_validateIdentity :
    Escapes (validateIdentity env identity) ↔ IdentityTrap env identity := by
  rw [validateIdentity, escapes_unit_bind, escapes_discard, escapes_entries, IdentityTrap,
    discard_eq_ok]
  refine or_congr_right ?_
  simp only [entries_eq_ok, exists_and_right]
  refine and_congr_right fun _ => ?_
  split
  · exact escapes_validateGenerationIdentity
  · simp only [escapes_bind, escapes_validateScoringIdentity, escapes_validateSharedIdentity]

end Identities

section Tables

/-- An integer without a double among the metrics of a task. -/
def MetricTrap (results : Json) (name : String) : Prop :=
  ∃ value, results.field (name ++ ",none") = .ok value ∧ TooLarge value

/-- What lets a metric escape. -/
lemma escapes_validateMetric {results : Json} {name : String} {expected : ℚ} :
    Escapes (validateMetric results name expected) ↔ MetricTrap results name := by
  simp only [validateMetric, escapes_bind, escapes_isFinite, not_escapes_lifted, lifted_eq_ok,
    refuseIf_eq_ok, exists_const, false_or, and_false, or_false, MetricTrap]
  refine exists_congr fun value => and_congr_right fun _ => ?_
  constructor
  · intro escapes
    exact escapes.2
  · intro large
    obtain ⟨n, rfl, large⟩ := large
    exact ⟨rfl, n, rfl, large⟩

/-- A condition that passed, with what follows from it. -/
lemma passes_iff {x : Except Refusal Bool} {p : Prop} :
    (∃ b, x = .ok b ∧ b = true ∧ p) ↔ x = .ok true ∧ p := by
  constructor
  · intro ⟨b, eq, yes, holds⟩
    subst yes
    exact ⟨eq, holds⟩
  · intro ⟨eq, holds⟩
    exact ⟨true, eq, rfl, holds⟩

/-- A task that is an index outside of the reports of a result. -/
def ReportTrap (result task : Json) : Prop :=
  TableTrap result task "results" ∨ ∃ results, taskTable result task "results" = .ok results ∧
    results.truthy = true ∧ TableTrap result task "configs"

/-- A task that is an index outside of the tables of a scoring result. -/
def ScoringTablesTrap (record identity : Json) : Prop :=
  ∃ result, record.field "result" = .ok result ∧ ∃ task, taskOf identity = .ok task ∧
    ∃ ids, idsOf identity = .ok ids ∧ ∃ classification,
      record.field "classification" = .ok classification ∧
      classifications.any (pyEq classification) = true ∧
      (TableTrap result task "n-samples" ∨ ∃ counts, taskTable result task "n-samples" = .ok counts ∧
        countsAre identity ids counts = .ok true ∧
        (TableTrap result task "samples" ∨ ∃ samples, taskTable result task "samples" = .ok samples ∧
          samplesAre (.arr ids) samples = .ok true ∧ ReportTrap result task))

/-- What lets the tables of a scoring result escape. -/
lemma escapes_scoringResults :
    Escapes (scoringResults record identity) ↔ ScoringTablesTrap record identity := by
  simp only [scoringResults, escapes_bind, escapes_taskTable, not_escapes_lifted, lifted_eq_ok,
    refuseIf_eq_ok, exists_const, false_or, Bool.not_eq_false', passes_iff, not_escapes_pure,
    and_false, exists_false, or_false, ScoringTablesTrap, ReportTrap]

/-- A task that is an index outside of the tables of a generation result. -/
def GenerationTablesTrap (record identity : Json) : Prop :=
  ∃ result, record.field "result" = .ok result ∧ ∃ task, taskOf identity = .ok task ∧
    ∃ ids, idsOf identity = .ok ids ∧
      (TableTrap result task "samples" ∨ ∃ samples, taskTable result task "samples" = .ok samples ∧
        ∃ classification, record.field "classification" = .ok classification ∧
          classifications.any (pyEq classification) = true ∧
          ∃ plumbing, isOneOf task plumbingSuites = .ok plumbing ∧
            (plumbing && !pyEq classification (.str "plumbing")) = false ∧
            (TableTrap result task "n-samples" ∨ ∃ counts,
              taskTable result task "n-samples" = .ok counts ∧
              countsAre identity ids counts = .ok true ∧
              samplesAre (.arr ids) samples = .ok true ∧ ReportTrap result task))

/-- What lets the tables of a generation result escape. -/
lemma escapes_generationResults :
    Escapes (generationResults record identity) ↔ GenerationTablesTrap record identity := by
  simp only [generationResults, escapes_bind, escapes_taskTable, not_escapes_lifted, lifted_eq_ok,
    refuseIf_eq_ok, exists_const, false_or, Bool.not_eq_false', passes_iff, not_escapes_pure,
    and_false, exists_false, or_false, GenerationTablesTrap, ReportTrap]

end Tables

section Samples

/-- A continuation score that is an integer without a double. -/
def ScoreTrap (score : Json) : Prop :=
  ∃ value flag, score = .arr [value, flag] ∧ TooLarge value

/-- What lets a score escape. -/
lemma escapes_validateScore {score : Json} : Escapes (validateScore score) ↔ ScoreTrap score := by
  have pair : ∀ value flag : Json, Escapes (validateScore (.arr [value, flag])) ↔ TooLarge value := by
    intro value flag
    simp only [validateScore, escapes_bind, escapes_isFinite, not_escapes_lifted, lifted_eq_ok,
      refuseIf_eq_ok, exists_const, false_or, and_false, or_false]
    constructor
    · intro escapes
      exact escapes.2
    · intro large
      obtain ⟨n, rfl, large⟩ := large
      exact ⟨rfl, n, rfl, large⟩
  have other : (∀ value flag, score ≠ .arr [value, flag]) →
      ¬Escapes (validateScore score) := by
    intro apart
    rw [validateScore]
    · exact not_escapes_lifted _
    · exact apart
  by_cases shape : ∃ value flag, score = .arr [value, flag]
  · obtain ⟨value, flag, rfl⟩ := shape
    rw [pair]
    constructor
    · intro large
      exact ⟨value, flag, rfl, large⟩
    · intro trap
      obtain ⟨value', flag', eq, large⟩ := trap
      cases eq
      exact large
  · refine iff_of_false (other fun value flag eq => shape ⟨value, flag, eq⟩) ?_
    intro trap
    obtain ⟨value, flag, eq, -⟩ := trap
    exact shape ⟨value, flag, eq⟩

/-- A likelihood sample with such a score, behind valid ones. -/
def ScoringSampleTrap (sample : Json) : Prop :=
  ∃ scores, scoresOf sample = .ok scores ∧
    FirstAt (fun score => validateScore score = .ok ()) ScoreTrap scores

/-- What lets a scored sample escape. -/
lemma escapes_validateScoringSample {sample : Json} :
    Escapes (validateScoringSample sample) ↔ ScoringSampleTrap sample := by
  rw [validateScoringSample, escapes_lifted_bind, ScoringSampleTrap]
  simp only [escapes_forM_iff fun score => escapes_validateScore]

/-- A document that is nested too deep for the encoder of indented texts. -/
def DocumentTrap (env : Surroundings) (sample : Json) : Prop :=
  ∃ document, sample.field "doc" = .ok document ∧ env.levels .document < document.depth

/-- What lets the prompt document of a sample escape. -/
lemma escapes_generationDocument {sample : Json} :
    Escapes (generationDocument env sample) ↔ DocumentTrap env sample := by
  have deep : Escapes (.error .recursion : Except PyError Unit) := escapes_error fun _ eq => by cases eq
  simp only [generationDocument, escapes_bind, escapes_doIf, deep, and_true,
    decide_eq_true_eq, not_escapes_lifted, not_escapes_pure, lifted_eq_ok, false_or, and_false,
    exists_false, or_false, DocumentTrap]

/-- A generation sample whose prompt or document is nested too deep, or whose document is no dictionary. -/
def GenerationSampleTrap (env : Surroundings) (sample : Json) : Prop :=
  PromptTrap env sample ∨ ∃ content, generationMessages env sample = .ok content ∧
    (DocumentTrap env sample ∨ ∃ document, generationDocument env sample = .ok document ∧
      NoDict document)

/-- What lets a generated sample escape. -/
lemma escapes_validateGenerationSample {sample : Json} :
    Escapes (validateGenerationSample env sample) ↔ GenerationSampleTrap env sample := by
  simp only [validateGenerationSample, escapes_bind, escapes_generationMessages,
    escapes_generationDocument, escapes_entries, not_escapes_lifted, and_false, exists_false, or_false,
    GenerationSampleTrap]

end Samples

section Records

/-- Evidence that cannot be judged: provenance that is no dictionary, or raw evidence that breaks off its
judgement. -/
def EvidenceTrap (env : Surroundings) (record identity : Json) : Prop :=
  ∃ runtime, identity.field "runtime" = .ok runtime ∧
    ∃ provenance, record.field "provenance" = .ok provenance ∧
      (NoDict provenance ∨ ∃ fields, provenance = .obj fields ∧
        Unjudged (env.observed runtime ((fields.lookup (.text "evidence")).getD (.obj [])) 2048))

/-- What lets the raw evidence escape. -/
lemma escapes_validateEvidence :
    Escapes (validateEvidence env record identity) ↔ EvidenceTrap env record identity := by
  simp only [validateEvidence, escapes_bind, escapes_entries, not_escapes_lifted, lifted_eq_ok,
    false_or, entries_eq_ok, validateRuntimeObservation, escapes_raised, EvidenceTrap]

/-- A scoring record with a trap. -/
def ScoringTrap (env : Surroundings) (record : Json) : Prop :=
  ∃ identity observable, scoringHead record = .ok (identity, observable) ∧
    (IdentityTrap env identity ∨ validateIdentity env identity = .ok () ∧
      (observable = true ∧ EvidenceTrap env record identity ∨
        doIf observable (validateEvidence env record identity) = .ok () ∧
          validateChecksum env record identity = .ok () ∧
          (ScoringTablesTrap record identity ∨ ∃ tables, scoringResults record identity = .ok tables ∧
            (FirstAt (fun sample => validateScoringSample sample = .ok ()) ScoringSampleTrap
                tables.samples ∨
              tables.samples.forM validateScoringSample = .ok () ∧
                FirstAt (fun metric => validateMetric tables.results metric
                    (shareOf (column tables.samples metric)) = .ok ())
                  (MetricTrap tables.results) scoringMetrics))))

/-- What lets a scoring record escape. -/
lemma escapes_validateScoringRecord :
    Escapes (validateScoringRecord env record) ↔ ScoringTrap env record := by
  have sampleTrap := fun sample => @escapes_validateScoringSample sample
  have metricTrap := fun (tables : TaskResults) metric => @escapes_validateMetric tables.results
    metric (shareOf (column tables.samples metric))
  simp only [validateScoringRecord, escapes_bind, exists_unit, not_escapes_lifted, lifted_eq_ok,
    false_or, escapes_validateIdentity, escapes_doIf, escapes_validateEvidence,
    escapes_scoringResults, escapes_forM_iff sampleTrap, escapes_forM_iff (metricTrap _),
    Prod.exists, ScoringTrap]

/-- A runtime of a generation record with a trap: only an external one is looked into. -/
def GenerationRuntimeTrap (env : Surroundings) (record runtime : Json) : Prop :=
  ∃ version, record.field "schema_version" = .ok version ∧ pyEq version (.int 4) = true ∧
    ∃ execution, runtime.field "execution" = .ok execution ∧
      (ExternalTrap execution ∨ validateExternalExecution execution runtime = .ok () ∧
        ∃ provenance, record.field "provenance" = .ok provenance ∧
          ∃ evidence, provenance.field "evidence" = .ok evidence ∧
            Unjudged (env.observedExternal runtime evidence))

/-- What lets the runtime of a generation run escape. -/
lemma escapes_validateGenerationRuntime {runtime : Json} :
    Escapes (validateGenerationRuntime env record runtime) ↔
      GenerationRuntimeTrap env record runtime := by
  rw [validateGenerationRuntime, escapes_lifted_bind, GenerationRuntimeTrap]
  refine exists_congr fun version => and_congr_right fun _ => ?_
  split
  · rename_i external
    simp only [escapes_lifted_bind, escapes_unit_bind, escapes_validateExternalExecution,
      validateExternalObservation, escapes_raised, external, true_and]
  · rename_i other
    refine iff_of_false ?_ fun both => other both.1
    rw [escapes_lifted_bind]
    exact fun ⟨_, _, escapes⟩ => not_escapes_lifted _ escapes

/-- A generation record with a trap. -/
def GenerationTrap (env : Surroundings) (record : Json) : Prop :=
  (∃ status, record.field "status" = .ok status ∧ pyEq status (.str "completed") = true ∧
    ∃ identity, record.field "identity" = .ok identity ∧
      ∃ runtime, identity.field "runtime" = .ok runtime ∧
        GenerationRuntimeTrap env record runtime) ∨
  ∃ identity, generationHead env record = .ok identity ∧
    (IdentityTrap env identity ∨ validateIdentity env identity = .ok () ∧
      validateChecksum env record identity = .ok () ∧
        (GenerationTablesTrap record identity ∨
          ∃ tables, generationResults record identity = .ok tables ∧
            (FirstAt (fun sample => validateGenerationSample env sample = .ok ())
                (GenerationSampleTrap env) tables.samples ∨
              tables.samples.forM (validateGenerationSample env) = .ok () ∧
                FirstAt (fun metric => validateMetric tables.results metric.1 metric.2 = .ok ())
                  (fun metric => MetricTrap tables.results metric.1)
                  (generationAggregates tables.samples))))

/-- What lets a generation record escape. -/
lemma escapes_validateGenerationRecord :
    Escapes (validateGenerationRecord env record) ↔ GenerationTrap env record := by
  have sampleTrap := fun sample => @escapes_validateGenerationSample env sample
  have metricTrap := fun (tables : TaskResults) (metric : String × ℚ) =>
    @escapes_validateMetric tables.results metric.1 metric.2
  have head : Escapes (generationHead env record) ↔ ∃ status,
      record.field "status" = .ok status ∧ pyEq status (.str "completed") = true ∧
        ∃ identity, record.field "identity" = .ok identity ∧
          ∃ runtime, identity.field "runtime" = .ok runtime ∧
            GenerationRuntimeTrap env record runtime := by
    simp only [generationHead, escapes_bind, exists_unit, not_escapes_lifted, lifted_eq_ok,
      refuseIf_eq_ok, false_or, Bool.not_eq_false', escapes_validateGenerationRuntime,
      not_escapes_pure, and_false, exists_false, or_false]
  simp only [validateGenerationRecord, escapes_bind, exists_unit, not_escapes_lifted,
    lifted_eq_ok, false_or, escapes_validateIdentity, escapes_generationResults,
    escapes_forM_iff sampleTrap, escapes_forM_iff (metricTrap _), head, and_false, or_false,
    GenerationTrap]

/-- A record with a trap: one that is no dictionary, or one with a trap in the checks of its schema. -/
def RecordTrap (env : Surroundings) (record : Json) : Prop :=
  NoDict record ∨ ∃ fields, record = .obj fields ∧
    ∃ generation, isOneOf (getField fields "schema_version") [.int 2, .int 4] = .ok generation ∧
      if generation then GenerationTrap env record else ScoringTrap env record

/-- The record validator escapes exactly from records with a trap. -/
theorem escapes_validateRecord : Escapes (validateRecord env record) ↔ RecordTrap env record := by
  rw [validateRecord, escapes_bind, escapes_entries, RecordTrap]
  refine or_congr_right (exists_congr fun fields => ?_)
  rw [entries_eq_ok, escapes_lifted_bind]
  refine and_congr_right fun _ => exists_congr fun generation => and_congr_right fun _ => ?_
  cases generation with
  | true => exact escapes_validateGenerationRecord
  | false => exact escapes_validateScoringRecord

/-- A text with a trap: one nested too deep, or one whose record has a trap. -/
def TextTrap (env : Surroundings) (text : String) : Prop :=
  env.loads (.text text) = .tooDeep ∨ ∃ envelope, env.loads (.text text) = .tree envelope ∧
    ∃ record, envelope.field "record" = .ok record ∧ RecordTrap env record

/-- A text is decoded to the tree that is read from it. -/
lemma decode_eq_ok {text : PyString} {value : Json} :
    env.decode text = .ok value ↔ env.loads text = .tree value := by
  rw [Surroundings.decode]
  cases env.loads text with
  | tree value' => simp
  | malformed reason => simp
  | tooDeep => simp

/-- What lets the load of a file escape. -/
theorem escapes_loadRecord {text : String} : Escapes (loadRecord env text) ↔ TextTrap env text := by
  simp only [loadRecord, escapes_bind, escapes_decode, decode_eq_ok,
    not_escapes_lifted, lifted_eq_ok, false_or, escapes_validateRecord, not_escapes_pure, and_false,
    exists_false, or_false, TextTrap]

end Records

end Jaull.Evaluation
