import Mathlib.Tactic.Common

/-!
# Triples for programs that keep their state when they fail

Pre- and postconditions of programs with a state and with errors, where what a program did before it failed
stays done (`EStateM`): a rule for every construct, and for loops an invariant on the items gone through.
`Keeps` is the case of one invariant throughout.
-/

namespace Jaull.Lib

variable {ε σ α β γ : Type}

/-- The state a program ends in, whether it returned or failed. -/
def endState : EStateM.Result ε σ α → σ
  | .ok _ s => s
  | .error _ s => s

/-- Started where `before` holds, the program returns where `after` holds or fails where `failed` holds. -/
def Meets (before : σ → Prop) (program : EStateM ε σ α) (after : α → σ → Prop) (failed : ε → σ → Prop) : Prop :=
  ∀ s, before s →
    match program s with
    | .ok a s' => after a s'
    | .error e s' => failed e s'

/-- An invariant of the program, whether it returns or fails. -/
abbrev Keeps (held : σ → Prop) (program : EStateM ε σ α) : Prop :=
  Meets held program (fun _ => held) (fun _ => held)

/-- The program with its failure as a value (the `try` of a handler that looks at the error). -/
def attempt (program : EStateM ε σ α) : EStateM ε σ (Except ε α) :=
  fun s =>
    match program s with
    | .ok a s' => .ok (.ok a) s'
    | .error e s' => .ok (.error e) s'

/-- A value or an error that leaves the state alone. -/
def lift (value : Except ε α) : EStateM ε σ α :=
  match value with
  | .ok a => pure a
  | .error e => throw e

/-- What holds after one turn of a loop: `again` if it goes on, `gone` if it is left. -/
def AfterTurn (again gone : β → σ → Prop) : ForInStep β → σ → Prop
  | .yield b => again b
  | .done b => gone b

section Rules
variable {P P' : σ → Prop} {Q Q' : α → σ → Prop} {R : β → σ → Prop} {E E' : ε → σ → Prop}
  {program : EStateM ε σ α}

/-- The rule of consequence. -/
lemma Meets.mono (meets : Meets P program Q E) (before : ∀ s, P' s → P s)
    (after : ∀ a s, Q a s → Q' a s) (failed : ∀ e s, E e s → E' e s) : Meets P' program Q' E' := by
  intro s held
  have met := meets s (before s held)
  cases ran : program s with
  | ok a s' =>
    rw [ran] at met
    exact after a s' met
  | error e s' =>
    rw [ran] at met
    exact failed e s' met

/-- A stronger precondition. -/
lemma Meets.before (meets : Meets P program Q E) (before : ∀ s, P' s → P s) : Meets P' program Q E :=
  meets.mono before (fun _ _ held => held) (fun _ _ held => held)

/-- A weaker postcondition. -/
lemma Meets.after (meets : Meets P program Q E) (after : ∀ a s, Q a s → Q' a s) : Meets P program Q' E :=
  meets.mono (fun _ held => held) after (fun _ _ held => held)

/-- A weaker condition on errors. -/
lemma Meets.failed (meets : Meets P program Q E) (failed : ∀ e s, E e s → E' e s) : Meets P program Q E' :=
  meets.mono (fun _ held => held) (fun _ _ held => held) failed

/-- What holds at the end, of the value returned. -/
lemma Meets.of_ok (meets : Meets P program Q E) {s s' : σ} {a : α} (held : P s)
    (ran : program s = .ok a s') : Q a s' := by
  have met := meets s held
  rw [ran] at met
  exact met

/-- What holds at the end either way. -/
lemma Meets.endState {F : σ → Prop} (meets : Meets P program (fun _ => F) (fun _ => F)) {s : σ} (held : P s) :
    F (endState (program s)) := by
  have met := meets s held
  cases ran : program s with
  | ok a s' =>
    rw [ran] at met
    exact met
  | error e s' =>
    rw [ran] at met
    exact met

/-- A value has what holds of it. -/
lemma Meets.pure (a : α) : Meets (Q a) (pure a) Q E :=
  fun _ held => held

/-- One program after the other. -/
lemma Meets.bind {next : α → EStateM ε σ β} (first : Meets P program Q E)
    (rest : ∀ a, Meets (Q a) (next a) R E) : Meets P (program >>= next) R E := by
  intro s held
  have met := first s held
  change match EStateM.bind program next s with
    | .ok b s' => R b s'
    | .error e s' => E e s'
  rw [EStateM.bind]
  cases ran : program s with
  | ok a s' =>
    rw [ran] at met
    exact rest a s' met
  | error e s' =>
    rw [ran] at met
    exact met

/-- Reading the state: behind it, the state is the one that was read. -/
lemma Meets.get {next : σ → EStateM ε σ β} (rest : ∀ s, P s → Meets (· = s) (next s) R E) :
    Meets P (get >>= next) R E :=
  fun s held => rest s held s rfl

/-- A choice. -/
lemma Meets.ite {p : Prop} [Decidable p] {program' : EStateM ε σ α} (yes : p → Meets P program Q E)
    (no : ¬p → Meets P program' Q E) : Meets P (if p then program else program') Q E := by
  split
  case isTrue held => exact yes held
  case isFalse held => exact no held

/-- A value that was computed. -/
lemma Meets.lift {value : Except ε α} : Meets P (Lib.lift value) (fun _ => P) (fun _ => P) := by
  cases value with
  | ok a => exact fun _ held => held
  | error e => exact fun _ held => held

/-- An error that becomes a value. -/
lemma Meets.attempt {R : Except ε α → σ → Prop}
    (meets : Meets P program (fun a => R (.ok a)) (fun e => R (.error e))) :
    Meets P (Lib.attempt program) R E := by
  intro s held
  have met := meets s held
  rw [Lib.attempt]
  cases ran : program s with
  | ok a s' =>
    rw [ran] at met
    exact met
  | error e s' =>
    rw [ran] at met
    exact met

/-- An invariant is kept either way. -/
lemma Keeps.attempt (keeps : Keeps P program) : Keeps P (Lib.attempt program) :=
  Meets.attempt (R := fun _ => P) keeps

/-- An error that is handled. -/
lemma Meets.tryCatch {handler : ε → EStateM ε σ α} (body : Meets P program Q E')
    (handled : ∀ e, Meets (E' e) (handler e) Q E) : Meets P (tryCatch program handler) Q E := by
  intro s held
  have met := body s held
  change match EStateM.tryCatch program handler s with
    | .ok a s' => Q a s'
    | .error e s' => E e s'
  rw [EStateM.tryCatch]
  cases ran : program s with
  | ok a s' =>
    rw [ran] at met
    exact met
  | error e s' =>
    rw [ran] at met
    exact handled e s' met

/-- A loop keeps an invariant on the items it has gone through, and may be left from any item. -/
lemma Meets.loop {items : List γ} {body : γ → β → EStateM ε σ (ForInStep β)} {I : List γ → β → σ → Prop}
    (each : ∀ done item rest b, items = done ++ item :: rest →
      Meets (I done b) (body item b) (AfterTurn (I (done ++ [item])) R) E)
    (through : ∀ b s, I items b s → R b s) (b : β) : Meets (I [] b) (forIn items b body) R E := by
  suffices run : ∀ rest done b, items = done ++ rest → Meets (I done b) (forIn rest b body) R E by
    exact run items [] b rfl
  intro rest
  induction rest with
  | nil =>
    intro done b eq
    rw [List.append_nil] at eq
    rw [List.forIn_nil]
    subst eq
    exact fun s held => through b s held
  | cons item rest ih =>
    intro done b eq
    rw [List.forIn_cons]
    refine Meets.bind (each done item rest b eq) ?_
    intro step
    cases step with
    | done b' => exact Meets.pure b'
    | yield b' => exact ih (done ++ [item]) b' (by rw [eq, List.append_assoc]; rfl)

/-- A loop whose every turn keeps an invariant keeps it. -/
lemma Keeps.loop {items : List γ} {body : γ → β → EStateM ε σ (ForInStep β)}
    (each : ∀ item ∈ items, ∀ b, Keeps P (body item b)) (b : β) : Keeps P (forIn items b body) := by
  refine Meets.loop (I := fun _ _ => P) ?_ (fun _ _ held => held) b
  intro done item rest b eq
  have mem : item ∈ items := by
    rw [eq]
    exact List.mem_append_right done List.mem_cons_self
  refine (each item mem b).after ?_
  intro step s held
  cases step <;> exact held

/-- An invariant that every item keeps. -/
lemma Keeps.each {items : List γ} {body : γ → EStateM ε σ PUnit} (each : ∀ item ∈ items, Keeps P (body item)) :
    Keeps P (items.forM body) := by
  induction items with
  | nil => exact fun _ held => held
  | cons item rest ih =>
    refine Meets.bind (each item List.mem_cons_self) ?_
    intro _
    exact ih fun item mem => each item (List.mem_cons_of_mem _ mem)

end Rules

end Jaull.Lib
