import Mathlib.Data.Nat.Notation
import Mathlib.Tactic.Common

/-!
# Backtracking patterns

Regular expressions as Python's `re` runs them: at a place of a text a pattern yields the places where it
may end, the preferred one first.
-/

namespace Jaull.Lib

/-- A place in a text: the code point before it and the text from there on. -/
structure Place where
  before : Option ℕ
  rest : List ℕ
  deriving DecidableEq, Repr

/-- The places where a match may end. -/
abbrev Pattern :=
  Place → List Place

namespace Pattern

/-- One code point of a class. -/
def one (p : ℕ → Bool) : Pattern
  | ⟨_, c :: rest⟩ => if p c then [⟨some c, rest⟩] else []
  | _ => []

/-- A literal text. -/
def literal : List ℕ → Pattern
  | [], place => [place]
  | c :: cs, place => (one (· = c) place).flatMap (literal cs)

/-- One pattern after the other. -/
def seq (p q : Pattern) : Pattern :=
  fun place => (p place).flatMap q

/-- `p|q`. -/
def alt (p q : Pattern) : Pattern :=
  fun place => p place ++ q place

/-- `(?:p)?`, greedy. -/
def opt (p : Pattern) : Pattern :=
  fun place => p place ++ [place]

/-- `c*`, greedy, from a place given by its parts. -/
def runFrom (p : ℕ → Bool) : Option ℕ → List ℕ → List Place
  | before, [] => [⟨before, []⟩]
  | before, c :: rest =>
    if p c then runFrom p (some c) rest ++ [⟨before, c :: rest⟩] else [⟨before, c :: rest⟩]

/-- `c*`, greedy. -/
def star (p : ℕ → Bool) : Pattern :=
  fun place => runFrom p place.before place.rest

/-- `c+`, greedy. -/
def plus (p : ℕ → Bool) : Pattern :=
  seq (one p) (star p)

/-- `c{count}`. -/
def exactly (p : ℕ → Bool) : ℕ → Pattern
  | 0, place => [place]
  | count + 1, place => (one p place).flatMap (exactly p count)

/-- `c{0,most}`, greedy. -/
def upTo (p : ℕ → Bool) : ℕ → Pattern
  | 0, place => [place]
  | most + 1, place => (one p place).flatMap (upTo p most) ++ [place]

/-- `c{least,most}`, greedy. -/
def between (p : ℕ → Bool) (least most : ℕ) : Pattern :=
  seq (exactly p least) (upTo p (most - least))

/-- `\b` in front of a word character: no word character stands before the place. -/
def wordStart (word : ℕ → Bool) : Pattern :=
  fun place => if place.before.any word then [] else [place]

/-- `\b`: a word character on one side of the place only. -/
def wordBoundary (word : ℕ → Bool) : Pattern :=
  fun place => if place.before.any word ≠ place.rest.head?.any word then [place] else []

/-- `$`: in front of nothing, or of a line feed that ends the text. -/
def atEnd : Pattern :=
  fun place => if place.rest = [] ∨ place.rest = [10] then [place] else []

/-- Python `re.match`, whether there is a match. -/
def matchesStart (p : Pattern) (text : List ℕ) : Bool :=
  !(p ⟨none, text⟩).isEmpty

/-- Python `re.fullmatch`, whether there is a match. -/
def matchesWhole (p : Pattern) (text : List ℕ) : Bool :=
  (p ⟨none, text⟩).any fun place => place.rest = []

/-- Python `re.sub(p, "", text)` for a pattern that reads something: the number of code points of a match that
are still to drop, the code point in front, and the text. -/
def removeAll (p : Pattern) : ℕ → Option ℕ → List ℕ → List ℕ
  | _, _, [] => []
  | drop + 1, _, c :: rest => removeAll p drop (some c) rest
  | 0, before, c :: rest =>
    match (p ⟨before, c :: rest⟩).head? with
    | none => c :: removeAll p 0 (some c) rest
    | some stop => removeAll p (rest.length - stop.rest.length) (some c) rest

section Places
variable {p : ℕ → Bool} {place place' : Place}

/-- One character is read when it is there and passes. -/
lemma mem_one : place' ∈ one p place ↔ ∃ c, place.rest = c :: place'.rest ∧ p c = true ∧
    place'.before = some c := by
  obtain ⟨before, rest⟩ := place
  cases rest with
  | nil => simp [one]
  | cons c rest =>
    rw [one]
    split
    · rename_i inside
      rw [List.mem_singleton]
      constructor
      · rintro rfl
        exact ⟨c, rfl, inside, rfl⟩
      · intro ⟨c', eq, _, before⟩
        obtain ⟨rfl, rfl⟩ := List.cons.inj eq
        obtain ⟨b, r⟩ := place'
        cases before
        rfl
    · rename_i outside
      refine iff_of_false List.not_mem_nil ?_
      intro ⟨c', eq, inside, _⟩
      obtain ⟨rfl, -⟩ := List.cons.inj eq
      exact outside inside

/-- A run ends anywhere in front of which it has read code points of its class only. -/
lemma mem_runFrom {before : Option ℕ} {text : List ℕ} {rest : List ℕ} :
    (∃ place ∈ runFrom p before text, place.rest = rest) ↔
      ∃ taken, text = taken ++ rest ∧ ∀ c ∈ taken, p c = true := by
  induction text generalizing before with
  | nil =>
    simp only [runFrom, List.mem_singleton, exists_eq_left]
    constructor
    · rintro rfl
      exact ⟨[], rfl, List.forall_mem_nil _⟩
    · intro ⟨taken, eq, _⟩
      exact (List.append_eq_nil_iff.mp eq.symm).2.symm
  | cons c text ih =>
    have stop : ∀ {place}, place = Place.mk before (c :: text) → place.rest = rest →
        ∃ taken, c :: text = taken ++ rest ∧ ∀ c ∈ taken, p c = true := by
      rintro place rfl rfl
      exact ⟨[], rfl, List.forall_mem_nil _⟩
    rw [runFrom]
    split
    · rename_i inside
      constructor
      · intro ⟨place, mem, eq⟩
        rcases List.mem_append.mp mem with later | now
        · obtain ⟨taken, rfl, all⟩ := ih.mp ⟨place, later, eq⟩
          exact ⟨c :: taken, rfl, List.forall_mem_cons.mpr ⟨inside, all⟩⟩
        · exact stop (List.mem_singleton.mp now) eq
      · intro ⟨taken, eq, all⟩
        cases taken with
        | nil => exact ⟨_, List.mem_append_right _ (List.mem_singleton_self _), eq⟩
        | cons c' taken =>
          obtain ⟨rfl, rfl⟩ := List.cons.inj eq
          obtain ⟨place, mem, eq⟩ := ih.mpr ⟨taken, rfl, (List.forall_mem_cons.mp all).2⟩
          exact ⟨place, List.mem_append_left _ mem, eq⟩
    · rename_i outside
      constructor
      · intro ⟨place, mem, eq⟩
        exact stop (List.mem_singleton.mp mem) eq
      · intro ⟨taken, eq, all⟩
        cases taken with
        | nil => exact ⟨_, List.mem_singleton_self _, eq⟩
        | cons c' taken =>
          obtain ⟨rfl, rfl⟩ := List.cons.inj eq
          exact absurd (List.forall_mem_cons.mp all).1 outside

end Places

end Pattern

/-- What was read between two places of one text. -/
def readBetween (start stop : Place) : List ℕ :=
  start.rest.take (start.rest.length - stop.rest.length)

/-- Python `re.findall` of a pattern with two groups, `before` and `between` standing around the first
group; no match is empty. -/
def findPairs (before group₁ between group₂ after : Pattern) : ℕ → Place → List (List ℕ × List ℕ)
  | 0, _ => []
  | fuel + 1, place =>
    let found := (before place).flatMap fun a => (group₁ a).flatMap fun b =>
      (between b).flatMap fun c => (group₂ c).flatMap fun d =>
        (after d).map fun stop => ((readBetween a b, readBetween c d), stop)
    match found with
    | (groups, stop) :: _ => groups :: findPairs before group₁ between group₂ after fuel stop
    | [] =>
      match place.rest with
      | [] => []
      | c :: rest => findPairs before group₁ between group₂ after fuel ⟨some c, rest⟩

end Jaull.Lib
