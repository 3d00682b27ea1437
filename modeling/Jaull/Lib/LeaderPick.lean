import Mathlib.Data.List.Basic
import Mathlib.Data.List.Nodup
import Mathlib.Data.List.Perm.Subperm
import Mathlib.Tactic.Common
import Jaull.Lib.ListMap

/-!
# Picking among the ties of a leader

A loop that takes members off a list, each time one that ties with the leader, the first member
left. A member may so be picked before members that stand ahead of it. `overtakes_for_tie` says of
whom it must then be a tie; `keepsOrder_iff_near` says when it passes ties only.
-/

namespace Jaull.Lib

universe u v
variable {α : Type u} {κ : Type v} {place : α → ℕ} {members : List α}

/-- Members at one place are one member. -/
lemma eq_of_place_eq (placed : members.Pairwise fun a b => place a < place b) {a b}
    (memA : a ∈ members) (memB : b ∈ members) (same : place a = place b) : a = b := by
  induction members with
  | nil => cases memA
  | cons first rest ih =>
    obtain ⟨before, placed⟩ := List.pairwise_cons.mp placed
    rcases List.mem_cons.mp memA with rfl | memA'
    · rcases List.mem_cons.mp memB with rfl | memB
      · rfl
      · exact absurd same (Nat.ne_of_lt (before b memB))
    · rcases List.mem_cons.mp memB with rfl | memB
      · exact absurd same.symm (Nat.ne_of_lt (before a memA'))
      · exact ih placed memA' memB

/-- Members in strictly rising places are distinct. -/
lemma nodup_of_placed (placed : members.Pairwise fun a b => place a < place b) :
    members.Nodup :=
  placed.imp fun lt => by
    rintro rfl
    exact Nat.lt_irrefl _ lt

variable [DecidableEq α]

/-- `n` rounds of moving the next member from `remaining` to `selected`, up to `limit` members. -/
def pickFrom (next : List α → List α → Option α) (limit : ℕ) : ℕ → List α → List α → List α
  | 0, selected, _ => selected
  | n + 1, selected, remaining =>
    if selected.length < limit then
      match next selected remaining with
      | none => selected
      | some picked => pickFrom next limit n (selected ++ [picked]) (remaining.erase picked)
    else selected

/-- The rounds of `pickFrom`: what was selected and what remained, and the pick. -/
def pickRounds (next : List α → List α → Option α) (limit : ℕ) :
    ℕ → List α → List α → List ((List α × List α) × α)
  | 0, _, _ => []
  | n + 1, selected, remaining =>
    if selected.length < limit then
      match next selected remaining with
      | none => []
      | some picked =>
        ((selected, remaining), picked) ::
          pickRounds next limit n (selected ++ [picked]) (remaining.erase picked)
    else []

/-- Every pick is a member left that ties with the first member left. -/
def PicksTies (next : List α → List α → Option α) (key : α → κ) : Prop :=
  ∀ selected remaining picked, next selected remaining = some picked →
    picked ∈ remaining ∧ ∃ leader, remaining.head? = some leader ∧ key leader = key picked

/-- Whenever a pick precedes one that stood ahead of it, all members between the two, both ends
included, have one key. -/
def KeepsOrder (key : α → κ) (place : α → ℕ) (members picks : List α) : Prop :=
  ∀ before i between j after, picks = before ++ i :: between ++ j :: after → place j < place i →
    ∀ m ∈ members, place j ≤ place m → place m ≤ place i → key m = key i

/-- No member left ahead of the pick has another key. -/
def Near (key : α → κ) (place : α → ℕ) (round : (List α × List α) × α) : Prop :=
  ∀ m ∈ round.1.2, place m ≤ place round.2 → key m = key round.2

variable {next : List α → List α → Option α} {key : α → κ} {limit n : ℕ}
  {selected remaining : List α}

/-- The selection is extended by the picks of the rounds. -/
lemma pickFrom_eq :
    pickFrom next limit n selected remaining =
      selected ++ (pickRounds next limit n selected remaining).map Prod.snd := by
  induction n generalizing selected remaining with
  | zero => rw [pickFrom, pickRounds, List.map_nil, List.append_nil]
  | succ n ih =>
    rw [pickFrom, pickRounds]
    split
    case isFalse => rw [List.map_nil, List.append_nil]
    case isTrue =>
      cases next selected remaining with
      | none => rw [List.map_nil, List.append_nil]
      | some picked =>
        change pickFrom next limit n (selected ++ [picked]) (remaining.erase picked) = _
        rw [ih, List.append_assoc]
        rfl

/-- What holds of no round and is kept by each round holds of every run. -/
lemma pickRounds_induction {P : List α → List ((List α × List α) × α) → Prop}
    (stop : ∀ remaining, P remaining [])
    (step : ∀ selected remaining picked rounds, next selected remaining = some picked →
      P (remaining.erase picked) rounds → P remaining (((selected, remaining), picked) :: rounds)) :
    P remaining (pickRounds next limit n selected remaining) := by
  induction n generalizing selected remaining with
  | zero => exact stop remaining
  | succ n ih =>
    rw [pickRounds]
    split
    case isFalse => exact stop remaining
    case isTrue =>
      cases pick : next selected remaining with
      | none => exact stop remaining
      | some picked => exact step selected remaining picked _ pick ih

/-- Every round picks what `next` says of its state, and what remains is a sublist. -/
lemma mem_pickRounds {round} (mem : round ∈ pickRounds next limit n selected remaining) :
    next round.1.1 round.1.2 = some round.2 ∧ round.1.2.Sublist remaining := by
  let P (remaining : List α) (rounds : List ((List α × List α) × α)) : Prop :=
    ∀ round ∈ rounds, next round.1.1 round.1.2 = some round.2 ∧ round.1.2.Sublist remaining
  suffices run : P remaining (pickRounds next limit n selected remaining) from run round mem
  apply pickRounds_induction
  · intro remaining round mem
    cases mem
  · intro selected remaining picked rounds pick ih round mem
    rcases List.mem_cons.mp mem with rfl | mem
    · exact ⟨pick, List.Sublist.refl remaining⟩
    · obtain ⟨pick', sub⟩ := ih round mem
      exact ⟨pick', sub.trans List.erase_sublist⟩

/-- Picks are members. -/
lemma picks_subset (ties : PicksTies next key) :
    (pickRounds next limit n selected remaining).map Prod.snd ⊆ remaining := by
  apply @pickRounds_induction _ _ _ _ _ _ _ fun remaining rounds => rounds.map Prod.snd ⊆ remaining
  · intro remaining
    exact List.nil_subset remaining
  · intro selected remaining picked rounds pick ih
    rw [List.map_cons]
    apply List.cons_subset.mpr
    exact ⟨(ties selected remaining picked pick).1, List.Subset.trans ih List.erase_subset⟩

/-- Enough rounds pick every member. -/
lemma subset_picks (picks : ∀ selected remaining, remaining ≠ [] →
      ∃ picked ∈ remaining, next selected remaining = some picked)
    (rounds : remaining.length ≤ n) (room : selected.length + remaining.length ≤ limit) :
    remaining ⊆ (pickRounds next limit n selected remaining).map Prod.snd := by
  induction n generalizing selected remaining with
  | zero =>
    rw [List.length_eq_zero_iff.mp (Nat.le_zero.mp rounds)]
    exact List.nil_subset _
  | succ n ih =>
    cases remaining with
    | nil => exact List.nil_subset _
    | cons first rest =>
      obtain ⟨picked, mem, pick⟩ := picks selected (first :: rest) (List.cons_ne_nil first rest)
      have shorter := List.length_erase_of_mem mem
      rw [List.length_cons] at rounds room shorter
      rw [pickRounds, if_pos (by omega), pick]
      intro m memM
      rw [List.map_cons]
      by_cases same : m = picked
      · rw [same]
        exact List.mem_cons_self
      · apply List.mem_cons_of_mem
        apply ih
        · omega
        · rw [List.length_append, List.length_singleton]
          omega
        · exact (List.mem_erase_of_ne same).mpr memM

/-- A pick ties with a member left that stands no later than any member picked after it. -/
theorem overtakes_for_tie (ties : PicksTies next key)
    (placed : remaining.Pairwise fun a b => place a < place b) {before picked after}
    (split : (pickRounds next limit n selected remaining).map Prod.snd =
      before ++ picked :: after) :
    ∃ leader ∈ remaining, leader ∉ before ∧ key leader = key picked ∧
      ∀ later ∈ after, place leader ≤ place later := by
  induction n generalizing selected remaining before with
  | zero => simp [pickRounds] at split
  | succ n ih =>
    have inside := @picks_subset _ _ _ _ _ limit (n + 1) selected remaining ties
    rw [pickRounds] at split inside
    by_cases room : selected.length < limit
    case neg =>
      rw [if_neg room] at split
      simp at split
    case pos =>
      rw [if_pos room] at split inside
      cases pick : next selected remaining with
      | none =>
        rw [pick] at split
        simp at split
      | some picked' =>
        rw [pick] at split inside
        simp only [List.map_cons] at split inside
        obtain ⟨mem, leader, isHead, tie⟩ := ties selected remaining picked' pick
        have sub : (remaining.erase picked').Sublist remaining := List.erase_sublist
        cases before with
        | nil =>
          rw [List.nil_append, List.cons.injEq] at split
          obtain ⟨rfl, split⟩ := split
          -- the leader of this round stands in front of all that is left
          refine ⟨leader, List.mem_of_mem_head? isHead, List.not_mem_nil, tie, ?_⟩
          intro later memLater
          rw [split] at inside
          obtain ⟨rest, rfl⟩ := List.head?_eq_some_iff.mp isHead
          rcases List.mem_cons.mp (inside (List.mem_cons_of_mem _ memLater)) with rfl | memRest
          · exact Nat.le_refl _
          · exact Nat.le_of_lt (List.rel_of_pairwise_cons placed memRest)
        | cons first before =>
          rw [List.cons_append, List.cons.injEq] at split
          obtain ⟨rfl, split⟩ := split
          obtain ⟨leader', memL, notBefore, tie', ahead⟩ := ih (placed.sublist sub) split
          -- the leader of a later round is still there, and was not picked now
          have ne : leader' ≠ picked' := by
            rintro rfl
            exact (nodup_of_placed placed).not_mem_erase memL
          refine ⟨leader', sub.subset memL, ?_, tie', ahead⟩
          rw [List.mem_cons, not_or]
          exact ⟨ne, notBefore⟩

/-- Near picks keep the order. -/
lemma KeepsOrder.of_near (ties : PicksTies next key)
    (near : ∀ round ∈ pickRounds next limit n selected remaining, Near key place round) :
    KeepsOrder key place remaining
      ((pickRounds next limit n selected remaining).map Prod.snd) := by
  let P (remaining : List α) (rounds : List ((List α × List α) × α)) : Prop :=
    rounds.map Prod.snd ⊆ remaining ∧
      ((∀ round ∈ rounds, Near key place round) →
        KeepsOrder key place remaining (rounds.map Prod.snd))
  suffices run : P remaining (pickRounds next limit n selected remaining) from run.2 near
  apply pickRounds_induction
  · intro remaining
    refine ⟨List.nil_subset remaining, ?_⟩
    intro _ before i between j after split
    simp at split
  · rintro selected remaining picked rounds pick ⟨inside, ih⟩
    have mem := (ties selected remaining picked pick).1
    have inside' : rounds.map Prod.snd ⊆ remaining := List.Subset.trans inside List.erase_subset
    refine ⟨List.cons_subset.mpr ⟨mem, inside'⟩, ?_⟩
    intro near before i between j after split lt m memM le_m m_le
    have nearest := near _ List.mem_cons_self
    rw [List.map_cons] at split
    cases before with
    | nil =>
      rw [List.nil_append, List.cons_append, List.cons.injEq] at split
      obtain ⟨rfl, _⟩ := split
      exact nearest m memM m_le
    | cons first before =>
      rw [List.cons_append, List.cons_append, List.cons.injEq] at split
      obtain ⟨rfl, split⟩ := split
      have rest := ih (fun round memR => near round (List.mem_cons_of_mem _ memR))
        before i between j after split lt
      by_cases same : m = picked
      · -- `m` was picked while `j` was left, so it ties with `j`, which ties with `i`
        subst same
        have memJ : j ∈ rounds.map Prod.snd := by
          rw [split]
          simp
        have jm : key j = key m := nearest j (inside' memJ) le_m
        rw [← jm]
        exact rest j (inside memJ) (Nat.le_refl _) (Nat.le_of_lt lt)
      · exact rest m ((List.mem_erase_of_ne same).mpr memM) le_m m_le

/-- A run that picks every member and keeps the order has near picks only. -/
lemma KeepsOrder.near (ties : PicksTies next key)
    (placed : remaining.Pairwise fun a b => place a < place b)
    (all : remaining ⊆ (pickRounds next limit n selected remaining).map Prod.snd)
    (keeps : KeepsOrder key place remaining
      ((pickRounds next limit n selected remaining).map Prod.snd)) :
    ∀ round ∈ pickRounds next limit n selected remaining, Near key place round := by
  let P (remaining : List α) (rounds : List ((List α × List α) × α)) : Prop :=
    remaining.Pairwise (fun a b => place a < place b) → remaining ⊆ rounds.map Prod.snd →
      KeepsOrder key place remaining (rounds.map Prod.snd) →
      ∀ round ∈ rounds, Near key place round
  suffices run : P remaining (pickRounds next limit n selected remaining) from
    run placed all keeps
  apply pickRounds_induction
  · intro remaining _ _ _ round mem
    cases mem
  · intro selected remaining picked rounds pick ih placed all keeps round memR
    have mem := (ties selected remaining picked pick).1
    have rest : ∀ m ∈ remaining, m ≠ picked → m ∈ rounds.map Prod.snd := by
      intro m memM ne
      have memC := all memM
      rw [List.map_cons] at memC
      exact (List.mem_cons.mp memC).resolve_left ne
    rcases List.mem_cons.mp memR with rfl | memR
    · -- what stands before the pick is picked later, so it must tie with it
      intro m memM le
      change place m ≤ place picked at le
      change key m = key picked
      by_cases same : m = picked
      · rw [same]
      · obtain ⟨between, after, eq⟩ := List.append_of_mem (rest m memM same)
        have split : (((selected, remaining), picked) :: rounds).map Prod.snd =
            [] ++ picked :: between ++ m :: after := by
          rw [List.map_cons, eq]
          rfl
        have lt : place m < place picked := by
          apply Nat.lt_of_le_of_ne le
          intro eq
          exact same (eq_of_place_eq placed memM mem eq)
        exact keeps [] picked between m after split lt m memM (Nat.le_refl _) le
    · apply ih (placed.sublist List.erase_sublist) ?_ ?_ round memR
      · intro m memM
        obtain ⟨ne, memM⟩ := (nodup_of_placed placed).mem_erase_iff.mp memM
        exact rest m memM ne
      · intro before i between j after split lt m memM le_m m_le
        apply keeps (picked :: before) i between j after ?_ lt m (List.mem_of_mem_erase memM) le_m m_le
        rw [List.map_cons, split]
        rfl

omit [DecidableEq α] in
/-- A first member that is picked first plays no part. -/
lemma keepsOrder_cons {first : α} {members picks : List α} (inside : picks ⊆ members)
    (placed : (first :: members).Pairwise fun a b => place a < place b) :
    KeepsOrder key place (first :: members) (first :: picks) ↔
      KeepsOrder key place members picks := by
  obtain ⟨ahead, _⟩ := List.pairwise_cons.mp placed
  constructor
  · intro keeps before i between j after split lt m memM
    apply keeps (first :: before) i between j after ?_ lt m (List.mem_cons_of_mem first memM)
    rw [split]
    rfl
  · intro keeps before i between j after split lt m memM le_m m_le
    cases before with
    | nil =>
      cases split
      have memJ : j ∈ members := inside (by simp)
      exact absurd (ahead j memJ) (Nat.lt_asymm lt)
    | cons head before =>
      rw [List.cons_append, List.cons_append, List.cons.injEq] at split
      obtain ⟨rfl, split⟩ := split
      have memJ : j ∈ members := by
        apply inside
        rw [split]
        simp
      rcases List.mem_cons.mp memM with rfl | memM
      · exact absurd (ahead j memJ) (Nat.not_lt_of_le le_m)
      · exact keeps before i between j after split lt m memM le_m m_le

/-- Nothing is picked twice. -/
lemma pickFrom_subperm (member : ∀ selected remaining picked,
      next selected remaining = some picked → picked ∈ remaining) :
    (pickFrom next limit n selected remaining).Subperm (selected ++ remaining) := by
  induction n generalizing selected remaining with
  | zero => exact (List.sublist_append_left selected remaining).subperm
  | succ n ih =>
    rw [pickFrom]
    split
    case isFalse => exact (List.sublist_append_left selected remaining).subperm
    case isTrue =>
      cases pick : next selected remaining with
      | none => exact (List.sublist_append_left selected remaining).subperm
      | some picked =>
        have moved : (selected ++ [picked] ++ remaining.erase picked).Perm (selected ++ remaining) := by
          rw [List.append_assoc]
          exact (List.perm_cons_erase (member selected remaining picked pick)).symm.append_left selected
        exact moved.subperm_left.mp ih

/-- Picking goes on to the limit, or until nothing is left. -/
lemma length_pickFrom (picks : ∀ selected remaining, remaining ≠ [] →
      ∃ picked ∈ remaining, next selected remaining = some picked)
    (room : selected.length ≤ limit) (rounds : remaining.length ≤ n)
    (stops : ∀ selected, next selected [] = none) :
    (pickFrom next limit n selected remaining).length =
      min limit (selected.length + remaining.length) := by
  induction n generalizing selected remaining with
  | zero =>
    rw [pickFrom, List.length_eq_zero_iff.mp (Nat.le_zero.mp rounds), List.length_nil]
    exact (Nat.min_eq_right room).symm
  | succ n ih =>
    rw [pickFrom]
    split
    case isFalse full =>
      have eq : selected.length = limit := Nat.le_antisymm room (Nat.not_lt.mp full)
      rw [eq]
      exact (Nat.min_eq_left (Nat.le_add_right limit _)).symm
    case isTrue more =>
      cases remaining with
      | nil =>
        rw [stops]
        exact (Nat.min_eq_right room).symm
      | cons first rest =>
        obtain ⟨picked, mem, pick⟩ := picks selected (first :: rest) (List.cons_ne_nil first rest)
        have shorter := List.length_erase_of_mem mem
        rw [List.length_cons] at rounds shorter
        rw [pick]
        change (pickFrom next limit n (selected ++ [picked]) ((first :: rest).erase picked)).length = _
        rw [ih]
        · rw [List.length_append, List.length_singleton, List.length_cons, shorter]
          omega
        · rw [List.length_append, List.length_singleton]
          exact more
        · omega

/-- Picking commutes with a map that the choice commutes with and that tells the members apart. -/
lemma pickFrom_map {β : Type u} [DecidableEq β] {next' : List β → List β → Option β} {f : α → β}
    (commutes : ∀ selected remaining,
      next' (selected.map f) (remaining.map f) = (next selected remaining).map f)
    (member : ∀ selected remaining picked, next selected remaining = some picked →
      picked ∈ remaining)
    (inj : InjOn f remaining) :
    pickFrom next' limit n (selected.map f) (remaining.map f) =
      (pickFrom next limit n selected remaining).map f := by
  induction n generalizing selected remaining with
  | zero => rfl
  | succ n ih =>
    rw [pickFrom, pickFrom, List.length_map, commutes]
    split
    case isFalse => rfl
    case isTrue =>
      cases pick : next selected remaining with
      | none => rfl
      | some picked =>
        have erased := map_erase_of_injOn inj (member selected remaining picked pick)
        have appended : selected.map f ++ [f picked] = (selected ++ [picked]).map f := by
          rw [List.map_append, List.map_singleton]
        simp only [Option.map_some, ← erased, appended]
        exact ih (inj.subset List.erase_subset)

end Jaull.Lib
