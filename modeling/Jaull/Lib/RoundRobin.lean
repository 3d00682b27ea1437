import Mathlib.Data.List.Count
import Mathlib.Data.List.Induction
import Mathlib.Data.List.Nodup
import Mathlib.Data.List.Perm.Basic
import Mathlib.Tactic.Common

/-!
# Round-robin schedules

Every entry asks for a number of calls. A round calls, in their order, the entries that asked for more calls
than there were rounds before it. Two entries with calls left are at most one call apart, wherever the
schedule is cut (`roundRobin_near`).
-/

namespace Jaull.Lib

universe u v
variable {α : Type u} {β : Type v}

/-- The calls of one round. -/
def roundCalls (entries : List (α × ℕ)) (round : ℕ) : List α :=
  (entries.filter fun entry => round < entry.2).map Prod.fst

/-- The calls of so many rounds. -/
def roundRobin (entries : List (α × ℕ)) (rounds : ℕ) : List α :=
  (List.range rounds).flatMap (roundCalls entries)

/-- One round more. -/
lemma roundRobin_succ (entries : List (α × ℕ)) (rounds : ℕ) :
    roundRobin entries (rounds + 1) = roundRobin entries rounds ++ roundCalls entries rounds := by
  rw [roundRobin, List.range_succ, List.flatMap_append, List.flatMap_singleton]
  rfl

/-- Who is called does not depend on what the entries are. -/
lemma roundRobin_map (f : α → β) (entries : List (α × ℕ)) (rounds : ℕ) :
    roundRobin (entries.map fun entry => (f entry.1, entry.2)) rounds = (roundRobin entries rounds).map f := by
  rw [roundRobin, roundRobin, List.map_flatMap]
  refine congrArg (List.flatMap · _) (funext fun round => ?_)
  rw [roundCalls, roundCalls, List.filter_map, List.map_map, List.map_map]
  rfl

section Members
variable {entries : List (α × ℕ)} {a : α} {n round round' : ℕ}

/-- A round calls those that have calls left. -/
lemma mem_roundCalls : a ∈ roundCalls entries round ↔ ∃ n, (a, n) ∈ entries ∧ round < n := by
  simp [roundCalls]

/-- Whoever is called in a round was called in every round before it. -/
lemma mem_roundCalls_of_le (le : round ≤ round') (mem : a ∈ roundCalls entries round') :
    a ∈ roundCalls entries round := by
  obtain ⟨n, listed, lt⟩ := mem_roundCalls.mp mem
  exact mem_roundCalls.mpr ⟨n, listed, Nat.lt_of_le_of_lt le lt⟩

lemma nodup_roundCalls (distinct : (entries.map Prod.fst).Nodup) (round : ℕ) :
    (roundCalls entries round).Nodup :=
  distinct.sublist (List.filter_sublist.map Prod.fst)

/-- Cut anywhere, a schedule has so many full rounds and the beginning of one more behind it, and whoever
still has a call belongs to that round. -/
lemma cut_roundRobin {rounds : ℕ} {made rest : List α} (cut : roundRobin entries rounds = made ++ rest) :
    ∃ round ≤ rounds, ∃ begun, made = roundRobin entries round ++ begun ∧
      begun <+: roundCalls entries round ∧ ∀ a ∈ rest, a ∈ roundCalls entries round := by
  induction rounds generalizing rest with
  | zero =>
    obtain ⟨rfl, rfl⟩ := List.append_eq_nil_iff.mp cut.symm
    exact ⟨0, Nat.le_refl 0, [], rfl, List.nil_prefix, by simp⟩
  | succ rounds ih =>
    rw [roundRobin_succ] at cut
    rcases List.append_eq_append_iff.mp cut with ⟨begun, eq, last⟩ | ⟨left, eq, rfl⟩
    · -- the cut lies within the last round
      refine ⟨rounds, Nat.le_succ rounds, begun, eq, ⟨rest, last.symm⟩, ?_⟩
      intro a mem
      rw [last]
      exact List.mem_append_right begun mem
    · obtain ⟨round, le, begun, same, isBegun, among⟩ := ih eq
      refine ⟨round, Nat.le_succ_of_le le, begun, same, isBegun, ?_⟩
      intro a mem
      rcases List.mem_append.mp mem with mem | mem
      · exact among a mem
      · exact mem_roundCalls_of_le le mem

end Members

section Counts
variable [DecidableEq α] {entries : List (α × ℕ)} {a : α} {n : ℕ}

/-- It calls each that has calls left once. -/
lemma count_roundCalls (distinct : (entries.map Prod.fst).Nodup) (listed : (a, n) ∈ entries) (round : ℕ) :
    (roundCalls entries round).count a = if round < n then 1 else 0 := by
  split
  case isTrue more =>
    exact List.count_eq_one_of_mem (nodup_roundCalls distinct round) (mem_roundCalls.mpr ⟨n, listed, more⟩)
  case isFalse enough =>
    apply List.count_eq_zero.mpr
    intro mem
    obtain ⟨n', listed', more⟩ := mem_roundCalls.mp mem
    cases List.inj_on_of_nodup_map distinct listed listed' rfl
    exact enough more

/-- Everyone gets a call a round, up to the calls asked for. -/
lemma count_roundRobin (distinct : (entries.map Prod.fst).Nodup) (listed : (a, n) ∈ entries) (rounds : ℕ) :
    (roundRobin entries rounds).count a = min rounds n := by
  induction rounds with
  | zero => exact (Nat.zero_min n).symm
  | succ rounds ih =>
    rw [roundRobin_succ, List.count_append, ih, count_roundCalls distinct listed]
    split <;> omega

/-- In front of a cut, whoever is called in the round at the cut has a call for every round before it, and at
most one more. -/
lemma count_made {made begun : List α} {round : ℕ} (distinct : (entries.map Prod.fst).Nodup)
    (eq : made = roundRobin entries round ++ begun) (isBegun : begun <+: roundCalls entries round)
    (mem : a ∈ roundCalls entries round) : round ≤ made.count a ∧ made.count a ≤ round + 1 := by
  obtain ⟨n, listed, lt⟩ := mem_roundCalls.mp mem
  have full : (roundRobin entries round).count a = round := by
    rw [count_roundRobin distinct listed, Nat.min_eq_left (Nat.le_of_lt lt)]
  have once : begun.count a ≤ 1 := by
    calc begun.count a ≤ (roundCalls entries round).count a := isBegun.sublist.count_le a
      _ ≤ 1 := List.nodup_iff_count_le_one.mp (nodup_roundCalls distinct round) a
  rw [eq, List.count_append, full]
  omega

/-- While two have calls left, neither is two calls ahead. -/
lemma roundRobin_near {rounds : ℕ} {made rest : List α} {b : α} (distinct : (entries.map Prod.fst).Nodup)
    (cut : roundRobin entries rounds = made ++ rest) (left : a ∈ rest) (left' : b ∈ rest) :
    made.count a ≤ made.count b + 1 := by
  obtain ⟨round, _, begun, eq, isBegun, among⟩ := cut_roundRobin cut
  have most := (count_made distinct eq isBegun (among a left)).2
  have least := (count_made distinct eq isBegun (among b left')).1
  omega

example : roundRobin [('A', 3), ('B', 1), ('C', 2)] 3 = ['A', 'B', 'C', 'A', 'C', 'A'] := by decide

end Counts

end Jaull.Lib

/-!
## Taking turns

Several lists are merged by turns: in every turn each list that is not used up gives its next element. No list can
push another back by more than one element for each turn, whatever the lists hold (`mem_take_takeTurns`).
-/

namespace Jaull.Lib

universe u
variable {α : Type u}

/-- What the lists give in one turn. -/
def turn (lists : List (List α)) (index : ℕ) : List α :=
  lists.filterMap (·[index]?)

/-- What the lists give in the first turns. -/
def turns (lists : List (List α)) (n : ℕ) : List α :=
  (List.range n).flatMap (turn lists)

/-- The length of the longest list. -/
def depth (lists : List (List α)) : ℕ :=
  (lists.map List.length).foldr max 0

/-- Lists merged by turns. -/
def takeTurns (lists : List (List α)) : List α :=
  turns lists (depth lists)

variable {lists : List (List α)} {list : List α} {a : α} {n k : ℕ}

lemma turns_succ (lists : List (List α)) (n : ℕ) : turns lists (n + 1) = turns lists n ++ turn lists n := by
  rw [turns, List.range_succ, List.flatMap_append, List.flatMap_singleton]
  rfl

lemma length_turn_le (lists : List (List α)) (index : ℕ) : (turn lists index).length ≤ lists.length :=
  List.length_filterMap_le _ _

/-- So do some turns. -/
lemma length_turns_le (lists : List (List α)) (n : ℕ) : (turns lists n).length ≤ n * lists.length := by
  induction n with
  | zero => exact Nat.zero_le _
  | succ n ih =>
    rw [turns_succ, List.length_append, Nat.succ_mul]
    exact Nat.add_le_add ih (length_turn_le lists n)

/-- Fewer turns are the beginning of more. -/
lemma turns_prefix (le : k ≤ n) : turns lists k <+: turns lists n := by
  induction n with
  | zero =>
    cases Nat.le_zero.mp le
    exact List.prefix_refl _
  | succ n ih =>
    rcases Nat.le_succ_iff.mp le with earlier | rfl
    · rw [turns_succ]
      exact (ih earlier).trans (List.prefix_append _ _)
    · exact List.prefix_refl _

/-- In the first turns every list has given its first elements, and nothing else is given. -/
lemma mem_turns : a ∈ turns lists n ↔ ∃ list ∈ lists, ∃ k < n, list[k]? = some a := by
  rw [turns, List.mem_flatMap]
  constructor
  · rintro ⟨k, short, given⟩
    obtain ⟨list, mem, own⟩ := List.mem_filterMap.mp given
    exact ⟨list, mem, k, List.mem_range.mp short, own⟩
  · rintro ⟨list, mem, k, short, own⟩
    exact ⟨k, List.mem_range.mpr short, List.mem_filterMap.mpr ⟨list, mem, own⟩⟩

/-- No list is longer than the depth. -/
lemma length_le_depth (mem : list ∈ lists) : list.length ≤ depth lists := by
  induction lists with
  | nil => cases mem
  | cons first rest ih =>
    change list.length ≤ max first.length (depth rest)
    rcases List.mem_cons.mp mem with rfl | later
    · exact Nat.le_max_left _ _
    · exact Nat.le_trans (ih later) (Nat.le_max_right _ _)

/-- Turns take all of all lists. -/
lemma mem_takeTurns : a ∈ takeTurns lists ↔ ∃ list ∈ lists, a ∈ list := by
  rw [takeTurns, mem_turns]
  constructor
  · rintro ⟨list, mem, k, _, own⟩
    exact ⟨list, mem, List.mem_of_getElem? own⟩
  · rintro ⟨list, mem, own⟩
    obtain ⟨k, same⟩ := List.mem_iff_getElem?.mp own
    obtain ⟨short, _⟩ := List.getElem?_eq_some_iff.mp same
    exact ⟨list, mem, k, Nat.lt_of_lt_of_le short (length_le_depth mem), same⟩

/-- The first turns are the beginning of the merged list. -/
lemma turns_prefix_takeTurns (lists : List (List α)) (n : ℕ) : turns lists (min n (depth lists)) <+: takeTurns lists :=
  turns_prefix (Nat.min_le_right _ _)

/-- Turns beyond the depth take nothing. -/
lemma turns_min_depth (lists : List (List α)) (n : ℕ) :
    (∀ a, a ∈ turns lists (min n (depth lists)) ↔ a ∈ turns lists n) := by
  intro a
  rw [mem_turns, mem_turns]
  constructor
  · rintro ⟨list, mem, k, short, own⟩
    exact ⟨list, mem, k, Nat.lt_of_lt_of_le short (Nat.min_le_left _ _), own⟩
  · rintro ⟨list, mem, k, short, own⟩
    obtain ⟨inside, _⟩ := List.getElem?_eq_some_iff.mp own
    exact ⟨list, mem, k, Nat.lt_min.mpr ⟨short, Nat.lt_of_lt_of_le inside (length_le_depth mem)⟩, own⟩

/-- A list's `k`-th element is among the first `(k + 1) * lists.length` of the merged list. -/
lemma mem_take_takeTurns (mem : list ∈ lists) (own : list[k]? = some a) :
    a ∈ (takeTurns lists).take ((k + 1) * lists.length) := by
  have given : a ∈ turns lists (min (k + 1) (depth lists)) :=
    (turns_min_depth lists (k + 1) a).mpr (mem_turns.mpr ⟨list, mem, k, Nat.lt_succ_self k, own⟩)
  have short : (turns lists (min (k + 1) (depth lists))).length ≤ (k + 1) * lists.length :=
    Nat.le_trans (length_turns_le _ _) (Nat.mul_le_mul_right _ (Nat.min_le_left _ _))
  exact (List.prefix_take_iff.mpr ⟨turns_prefix_takeTurns lists (k + 1), short⟩).subset given

/-- An element among the first `n` that is kept by a filter is among the first `n` of those that are kept. -/
lemma mem_take_filter {l : List α} {p : α → Bool} (mem : a ∈ l.take n) (kept : p a = true) :
    a ∈ (l.filter p).take n := by
  have parts : l.filter p = (l.take n).filter p ++ (l.drop n).filter p := by
    rw [← List.filter_append, List.take_append_drop]
  have short : ((l.take n).filter p).length ≤ n := Nat.le_trans (List.length_filter_le _ _) (List.length_take_le _ _)
  rw [parts]
  exact (List.prefix_take_iff.mpr ⟨List.prefix_append _ _, short⟩).subset (List.mem_filter.mpr ⟨mem, kept⟩)

section Duplicates
variable [BEq α] [LawfulBEq α] {l : List α}

/-- Without repetitions a list is no longer. -/
lemma length_eraseDups_le (l : List α) : l.eraseDups.length ≤ l.length := by
  induction l using List.reverseRecOn with
  | nil => exact Nat.le_refl _
  | append_singleton l a ih =>
    have last : (([a] : List α).removeAll l).eraseDups.length ≤ 1 := by
      rw [List.removeAll, List.filter_singleton]
      cases List.elem a l with
      | true => exact Nat.zero_le _
      | false => exact Nat.le_refl _
    rw [List.eraseDups_append, List.length_append, List.length_append]
    exact Nat.add_le_add ih last

/-- And repeats nothing. -/
lemma nodup_eraseDups (l : List α) : l.eraseDups.Nodup := by
  induction l using List.reverseRecOn with
  | nil => exact List.nodup_nil
  | append_singleton l a ih =>
    rw [List.eraseDups_append, List.removeAll, List.filter_singleton]
    cases known : List.elem a l with
    | true =>
      change (l.eraseDups ++ []).Nodup
      rw [List.append_nil]
      exact ih
    | false =>
      change (l.eraseDups ++ [a]).Nodup
      rw [(List.perm_append_singleton _ _).nodup_iff, List.nodup_cons, List.mem_eraseDups]
      refine ⟨fun mem => ?_, ih⟩
      rw [List.elem_iff.mpr mem] at known
      cases known

/-- An element among the first `n` is among the first `n` once repeated elements are left out. -/
lemma mem_take_eraseDups (mem : a ∈ l.take n) : a ∈ l.eraseDups.take n := by
  have parts : l.eraseDups = (l.take n).eraseDups ++ ((l.drop n).removeAll (l.take n)).eraseDups := by
    rw [← List.eraseDups_append, List.take_append_drop]
  have short : (l.take n).eraseDups.length ≤ n := Nat.le_trans (length_eraseDups_le _) (List.length_take_le _ _)
  rw [parts]
  exact (List.prefix_take_iff.mpr ⟨List.prefix_append _ _, short⟩).subset (List.mem_eraseDups.mpr mem)

end Duplicates

end Jaull.Lib
