import Mathlib.Data.Fintype.Card
import Mathlib.Data.Fintype.EquivFin
import Mathlib.Logic.Relation
import Mathlib.Order.WellFounded
import Mathlib.Tactic.Common
import Jaull.Lib.ListMap

/-!
# Filling an order from the back

A greedy linear extension: the last free place goes to the latest member that must precede no other
member still unplaced, and to the latest member when there is none. The result rearranges the input
(`backFill_perm`), and it honours every pair of the relation exactly when the relation has no cycle
among the members (`backFill_honours_iff`). Without duplicates and cycles nothing moves without cause
(`backFill_movesWithCause`), and an order that honours every pair already stays (`backFill_of_honours`).
-/

namespace Jaull.Lib
open Relation

universe u v
variable {α : Type u} (precedes : α → α → Bool)

/-- Whenever `a` must precede `b`, `a` stands at an earlier place. -/
def Honours (l : List α) : Prop :=
  ∀ (i j : ℕ) a b, l[i]? = some a → l[j]? = some b → precedes a b → i < j

/-- `a` must precede `b`, both being members. -/
def Edge (l : List α) (a b : α) : Prop :=
  a ∈ l ∧ b ∈ l ∧ precedes a b

/-- No chain of members, each of which must precede the next, returns to its start. -/
def Acyclic (l : List α) : Prop :=
  ∀ a, ¬ TransGen (Edge precedes l) a a

/-- Where `y` overtakes `x`, a chain leads from `y` to a member that stood at or before `x`. -/
def MovesWithCause (base result : List α) : Prop :=
  ∀ (i j i' j' : ℕ) x y, base[i]? = some x → base[j]? = some y → i < j →
    result[i']? = some x → result[j']? = some y → j' < i' →
      ∃ k z, base[k]? = some z ∧ k ≤ i ∧ TransGen (Edge precedes base) y z

section Definitions
variable [DecidableEq α]

/-- The members that must precede no other one. -/
def free (remaining : List α) : List α :=
  remaining.filter fun x => !remaining.any fun y => y ≠ x && precedes x y

/-- The latest free member, or the latest member when a cycle leaves none free. -/
def pick (remaining : List α) : Option α :=
  (free precedes remaining).getLast?.or remaining.getLast?

/-- `n` rounds of picking a member and placing it before the ones already `placed`. -/
def backFillFrom : ℕ → List α → List α → List α
  | 0, _, placed => placed
  | n + 1, remaining, placed =>
    match pick precedes remaining with
    | none => placed
    | some x => backFillFrom n (remaining.erase x) (x :: placed)

/-- The members of `items`, placed from the back. -/
def backFill (items : List α) : List α :=
  backFillFrom precedes items.length items []

end Definitions

variable {precedes}

/-- The places of a list tell it apart: later members never precede earlier ones, nor themselves. -/
lemma honours_iff {l : List α} :
    Honours precedes l ↔
      (∀ a ∈ l, ¬ precedes a a) ∧ l.Pairwise (fun a b => ¬ precedes b a) := by
  constructor
  · intro honours
    refine ⟨?_, ?_⟩
    · intro a mem pre
      obtain ⟨i, at_i⟩ := List.mem_iff_getElem?.mp mem
      exact lt_irrefl i (honours i i a a at_i at_i pre)
    · rw [List.pairwise_iff_getElem]
      intro i j hi hj lt pre
      have later := honours j i _ _ (List.getElem?_eq_getElem hj) (List.getElem?_eq_getElem hi) pre
      omega
  · rintro ⟨irrefl, ordered⟩ i j a b at_i at_j pre
    obtain ⟨hi, eqa⟩ := List.getElem?_eq_some_iff.mp at_i
    obtain ⟨hj, eqb⟩ := List.getElem?_eq_some_iff.mp at_j
    rcases lt_trichotomy i j with lt | eq | lt
    · exact lt
    · subst eq
      have same : a = b := eqa.symm.trans eqb
      subst same
      exact absurd pre (irrefl a (List.mem_of_getElem? at_i))
    · rw [List.pairwise_iff_getElem] at ordered
      have no := ordered j i hj hi lt
      rw [eqa, eqb] at no
      exact absurd pre no

/-- Fewer members, fewer chains. -/
lemma Acyclic.subset {l l' : List α} (acyclic : Acyclic precedes l) (sub : l' ⊆ l) :
    Acyclic precedes l' := by
  intro a chain
  apply acyclic a
  have wider : Edge precedes l' ≤ Edge precedes l :=
    fun x y ⟨hx, hy, pre⟩ => ⟨sub hx, sub hy, pre⟩
  exact TransGen.mono wider a a chain

/-- No member of an acyclic list must precede itself. -/
lemma Acyclic.irrefl {l : List α} (acyclic : Acyclic precedes l) {a} (mem : a ∈ l) :
    ¬ precedes a a :=
  fun pre => acyclic a (.single ⟨mem, mem, pre⟩)

/-- A relation that compares two values of a linear order has no cycle. -/
lemma Acyclic.of_lt {β : Type v} [Preorder β] {l : List α} (rank : α → β)
    (lt : ∀ a ∈ l, ∀ b ∈ l, precedes a b → rank a < rank b) : Acyclic precedes l := by
  have rises : ∀ a b, TransGen (Edge precedes l) a b → rank a < rank b := by
    intro a b chain
    induction chain with
    | single edge => exact lt _ edge.1 _ edge.2.1 edge.2.2
    | tail _ edge ih => exact ih.trans (lt _ edge.1 _ edge.2.1 edge.2.2)
  intro a chain
  exact lt_irrefl _ (rises a a chain)

/-- Along a chain of a list that honours the relation the places rise, so no chain closes. -/
lemma Honours.acyclic [DecidableEq α] {l : List α} (honours : Honours precedes l) :
    Acyclic precedes l := by
  apply Acyclic.of_lt (fun a => l.idxOf a)
  intro a memA b memB pre
  exact honours _ _ a b (List.getElem?_idxOf memA) (List.getElem?_idxOf memB) pre

/-- The members of an acyclic list are well-founded from the end of the chains. -/
lemma Acyclic.wellFounded {l : List α} (acyclic : Acyclic precedes l) :
    WellFounded fun b a : {x // x ∈ l} => TransGen (Edge precedes l) a.1 b.1 := by
  classical
  have isTrans : IsTrans {x // x ∈ l} fun b a => TransGen (Edge precedes l) a.1 b.1 :=
    ⟨fun _ _ _ ab bc => bc.trans ab⟩
  have irrefl : Std.Irrefl fun b a : {x // x ∈ l} => TransGen (Edge precedes l) a.1 b.1 :=
    ⟨fun a chain => acyclic a.1 chain⟩
  exact Finite.wellFounded_of_trans_of_irrefl _

variable [DecidableEq α]

/-- The free elements: nothing that remains precedes them. -/
lemma mem_free {remaining : List α} {x : α} :
    x ∈ free precedes remaining ↔
      x ∈ remaining ∧ ∀ y ∈ remaining, y ≠ x → ¬ precedes x y := by
  simp [free]

/-- An acyclic list with a member has a free one: the end of a longest chain. -/
lemma Acyclic.free_ne_nil {remaining : List α} (acyclic : Acyclic precedes remaining)
    (ne : remaining ≠ []) : free precedes remaining ≠ [] := by
  obtain ⟨a, mem⟩ := List.exists_mem_of_ne_nil remaining ne
  obtain ⟨last, _, maximal⟩ := acyclic.wellFounded.has_min Set.univ ⟨⟨a, mem⟩, trivial⟩
  have isFree : last.1 ∈ free precedes remaining := by
    rw [mem_free]
    refine ⟨last.2, ?_⟩
    intro y memY _ pre
    exact maximal ⟨y, memY⟩ trivial (.single ⟨last.2, memY, pre⟩)
  exact List.ne_nil_of_mem isFree

/-- What is picked remained. -/
lemma pick_mem {remaining : List α} {x : α} (eq : pick precedes remaining = some x) :
    x ∈ remaining := by
  rw [pick, Option.or_eq_some_iff] at eq
  rcases eq with isFree | ⟨_, isLast⟩
  · exact (mem_free.mp (List.mem_of_getLast? isFree)).1
  · exact List.mem_of_getLast? isLast

/-- Nothing is picked only of nothing. -/
lemma pick_eq_none {remaining : List α} : pick precedes remaining = none ↔ remaining = [] := by
  rw [pick, Option.or_eq_none_iff, List.getLast?_eq_none_iff, List.getLast?_eq_none_iff]
  constructor
  · exact And.right
  · rintro rfl
    exact ⟨rfl, rfl⟩

/-- From an acyclic list the latest free member is picked. -/
lemma Acyclic.getLast?_free {remaining : List α} (acyclic : Acyclic precedes remaining) {x : α}
    (eq : Lib.pick precedes remaining = some x) :
    (free precedes remaining).getLast? = some x := by
  have ne : remaining ≠ [] := List.ne_nil_of_mem (pick_mem eq)
  rw [Lib.pick, Option.or_eq_some_iff] at eq
  rcases eq with isFree | ⟨none, _⟩
  · exact isFree
  · exact absurd (List.getLast?_eq_none_iff.mp none) (acyclic.free_ne_nil ne)

/-- From an acyclic list a member is picked that must precede no member left. -/
lemma Acyclic.pick {remaining : List α} (acyclic : Acyclic precedes remaining) {x : α}
    (eq : pick precedes remaining = some x) : ∀ y ∈ remaining, ¬ precedes x y := by
  have isFree : x ∈ free precedes remaining := List.mem_of_getLast? (acyclic.getLast?_free eq)
  obtain ⟨mem, others⟩ := mem_free.mp isFree
  intro y memY
  by_cases same : y = x
  · subst same
    exact acyclic.irrefl mem
  · exact others y memY same

/-- Placing from the back loses and repeats nothing. -/
lemma backFillFrom_perm {n : ℕ} {remaining placed : List α} (enough : remaining.length ≤ n) :
    (backFillFrom precedes n remaining placed).Perm (remaining ++ placed) := by
  induction n generalizing remaining placed with
  | zero =>
    have nil : remaining = [] := List.length_eq_zero_iff.mp (by omega)
    subst nil
    exact List.Perm.refl _
  | succ n ih =>
    rw [backFillFrom]
    cases picked : pick precedes remaining with
    | none =>
      have nil := pick_eq_none.mp picked
      subst nil
      exact List.Perm.refl _
    | some x =>
      have mem := pick_mem picked
      have shorter : (remaining.erase x).length ≤ n := by
        rw [List.length_erase_of_mem mem]
        omega
      have moved : (remaining.erase x ++ x :: placed).Perm (x :: remaining.erase x ++ placed) :=
        List.perm_middle
      exact (ih shorter).trans (moved.trans ((List.perm_cons_erase mem).symm.append_right placed))

/-- Back-filling rearranges. -/
lemma backFill_perm (items : List α) : (backFill precedes items).Perm items := by
  have perm := @backFillFrom_perm α precedes _ items.length items [] le_rfl
  rwa [List.append_nil] at perm

/-- One round keeps the invariant of the loop: the placed members are in order, and none of them must
precede a member still unplaced. -/
lemma backFillFrom_ordered {n : ℕ} {remaining placed : List α} (enough : remaining.length ≤ n)
    (acyclic : Acyclic precedes remaining)
    (ordered : placed.Pairwise fun a b => ¬ precedes b a)
    (behind : ∀ p ∈ placed, ∀ y ∈ remaining, ¬ precedes p y) :
    (backFillFrom precedes n remaining placed).Pairwise fun a b => ¬ precedes b a := by
  induction n generalizing remaining placed with
  | zero => exact ordered
  | succ n ih =>
    rw [backFillFrom]
    cases picked : pick precedes remaining with
    | none => exact ordered
    | some x =>
      have mem := pick_mem picked
      have least := acyclic.pick picked
      have sub : remaining.erase x ⊆ remaining := List.erase_subset
      apply ih
      · rw [List.length_erase_of_mem mem]
        omega
      · exact acyclic.subset sub
      · rw [List.pairwise_cons]
        exact ⟨fun p memP => behind p memP x mem, ordered⟩
      · intro p memP y memY
        rcases List.mem_cons.mp memP with rfl | memP
        · exact least y (sub memY)
        · exact behind p memP y (sub memY)

/-- Back-filling honours the relation exactly when it has no cycle among the members. -/
theorem backFill_honours_iff {items : List α} :
    Honours precedes (backFill precedes items) ↔ Acyclic precedes items := by
  have perm := @backFill_perm α precedes _ items
  constructor
  · intro honours
    exact honours.acyclic.subset perm.symm.subset
  · intro acyclic
    rw [honours_iff]
    refine ⟨?_, ?_⟩
    · intro a mem
      exact acyclic.irrefl (perm.subset mem)
    · exact backFillFrom_ordered le_rfl acyclic List.Pairwise.nil (by simp)

section Cause
variable {base remaining placed : List α} {x y : α}

/-- Every chain of an acyclic list can be followed to a free member. -/
lemma Acyclic.exists_free (acyclic : Acyclic precedes remaining) (mem : y ∈ remaining) :
    ∃ z ∈ free precedes remaining, ReflTransGen (Edge precedes remaining) y z := by
  have follow : ∀ a : {a // a ∈ remaining},
      ∃ z ∈ free precedes remaining, ReflTransGen (Edge precedes remaining) a.1 z := by
    intro a
    induction a using acyclic.wellFounded.induction with
    | h a ih =>
      by_cases isFree : a.1 ∈ free precedes remaining
      · exact ⟨a.1, isFree, .refl⟩
      · have held : ∃ b ∈ remaining, b ≠ a.1 ∧ precedes a.1 b := by
          rw [mem_free] at isFree
          push Not at isFree
          exact isFree a.2
        obtain ⟨b, memB, _, pre⟩ := held
        have edge : Edge precedes remaining a.1 b := ⟨a.2, memB, pre⟩
        obtain ⟨z, free, chain⟩ := ih ⟨b, memB⟩ (.single edge)
        exact ⟨z, free, .head edge chain⟩
  exact follow ⟨y, mem⟩

/-- The places of a list without duplicates rise along it. -/
lemma pairwise_idxOf_lt (nodup : base.Nodup) :
    base.Pairwise fun a b => base.idxOf a < base.idxOf b := by
  rw [List.pairwise_iff_getElem]
  intro i j hi hj lt
  rw [nodup.idxOf_getElem, nodup.idxOf_getElem]
  exact lt

/-- If `y` stood behind `x`, a chain leads from `y` to a member that stood at or before `x`. -/
def Caused (precedes : α → α → Bool) (base : List α) (y x : α) : Prop :=
  base.idxOf x < base.idxOf y →
    ∃ z ∈ base, base.idxOf z ≤ base.idxOf x ∧ TransGen (Edge precedes base) y z

/-- A member is picked ahead of a later one only with cause: the later one is not free, and its chain
ends in a free member, none of which stands behind the picked one. -/
lemma Acyclic.caused_of_pick (acyclic : Acyclic precedes base) (nodup : base.Nodup)
    (sub : remaining.Sublist base) (picked : Lib.pick precedes remaining = some x)
    (mem : y ∈ remaining) : Caused precedes base y x := by
  intro later
  have acyclic' := acyclic.subset sub.subset
  obtain ⟨z, isFree, chain⟩ := acyclic'.exists_free mem
  obtain ⟨before, split⟩ := List.getLast?_eq_some_iff.mp (acyclic'.getLast?_free picked)
  have le : base.idxOf z ≤ base.idxOf x := by
    have frees : (free precedes remaining).Sublist base := List.filter_sublist.trans sub
    rw [split] at frees
    have rises := List.pairwise_append.mp ((pairwise_idxOf_lt nodup).sublist frees)
    rw [split] at isFree
    rcases List.mem_append.mp isFree with here | last
    · exact (rises.2.2 z here x (List.mem_singleton_self x)).le
    · cases List.mem_singleton.mp last
      exact le_rfl
  have memZ : z ∈ base := sub.subset (mem_free.mp isFree).1
  refine ⟨z, memZ, le, ?_⟩
  rcases reflTransGen_iff_eq_or_transGen.mp chain with same | chain
  · subst same
    omega
  · have wider : Edge precedes remaining ≤ Edge precedes base :=
      fun a b ⟨memA, memB, pre⟩ => ⟨sub.subset memA, sub.subset memB, pre⟩
    exact TransGen.mono wider y z chain

/-- One round keeps what stands ahead of what caused. -/
lemma backFillFrom_caused {n : ℕ} (acyclic : Acyclic precedes base) (nodup : base.Nodup)
    (sub : remaining.Sublist base) (caused : placed.Pairwise (Caused precedes base))
    (behind : ∀ y ∈ remaining, ∀ p ∈ placed, Caused precedes base y p) :
    (backFillFrom precedes n remaining placed).Pairwise (Caused precedes base) := by
  induction n generalizing remaining placed with
  | zero => exact caused
  | succ n ih =>
    rw [backFillFrom]
    cases picked : pick precedes remaining with
    | none => exact caused
    | some x =>
      have mem := pick_mem picked
      apply ih
      · exact List.erase_sublist.trans sub
      · rw [List.pairwise_cons]
        exact ⟨behind x mem, caused⟩
      · intro y left p memP
        have memY : y ∈ remaining := List.mem_of_mem_erase left
        rcases List.mem_cons.mp memP with rfl | memP
        · exact acyclic.caused_of_pick nodup sub picked memY
        · exact behind y memY p memP

/-- Of an order without cycles, every pair out of place has its cause. -/
lemma backFill_caused (acyclic : Acyclic precedes base) (nodup : base.Nodup) :
    (backFill precedes base).Pairwise (Caused precedes base) :=
  backFillFrom_caused acyclic nodup (List.Sublist.refl base) List.Pairwise.nil (by simp)

/-- Back-filling moves nothing without cause. -/
theorem backFill_movesWithCause (acyclic : Acyclic precedes base) (nodup : base.Nodup) :
    MovesWithCause precedes base (backFill precedes base) := by
  intro i j i' j' x y at_i at_j lt at_i' at_j' overtakes
  obtain ⟨hi, rfl⟩ := List.getElem?_eq_some_iff.mp at_i
  obtain ⟨hj, rfl⟩ := List.getElem?_eq_some_iff.mp at_j
  obtain ⟨hi', eqx⟩ := List.getElem?_eq_some_iff.mp at_i'
  obtain ⟨hj', eqy⟩ := List.getElem?_eq_some_iff.mp at_j'
  have caused := List.pairwise_iff_getElem.mp (backFill_caused acyclic nodup) j' i' hj' hi' overtakes
  rw [eqx, eqy, Caused, nodup.idxOf_getElem, nodup.idxOf_getElem] at caused
  obtain ⟨z, mem, le, chain⟩ := caused lt
  exact ⟨base.idxOf z, z, List.getElem?_idxOf mem, le, chain⟩

/-- An order that honours every pair stays as it is: a chain leads only to later members. -/
theorem backFill_of_honours (nodup : base.Nodup) (honours : Honours precedes base) :
    backFill precedes base = base := by
  have acyclic : Acyclic precedes base := honours.acyclic
  have rises : ∀ y z, TransGen (Edge precedes base) y z → base.idxOf y < base.idxOf z := by
    intro y z chain
    have step : ∀ a b, Edge precedes base a b → base.idxOf a < base.idxOf b :=
      fun a b ⟨memA, memB, pre⟩ =>
        honours _ _ a b (List.getElem?_idxOf memA) (List.getElem?_idxOf memB) pre
    induction chain with
    | single edge => exact step _ _ edge
    | tail _ edge ih => exact ih.trans (step _ _ edge)
  have inOrder : (backFill precedes base).Pairwise fun a b => base.idxOf a ≤ base.idxOf b := by
    apply (backFill_caused acyclic nodup).imp
    intro y x caused
    by_contra later
    obtain ⟨z, _, le, chain⟩ := caused (by omega)
    have lt := rises y z chain
    omega
  have perm : (backFill precedes base).Perm base := backFill_perm base
  apply perm.eq_of_pairwise _ inOrder ((pairwise_idxOf_lt nodup).imp Nat.le_of_lt)
  intro a b memA memB le ge
  have memA := perm.subset memA
  exact (List.idxOf_inj memA).mp (by omega)

end Cause

section Map
variable {β : Type v} [DecidableEq β] {precedes' : β → β → Bool} {f : α → β}

/-- Picking commutes with a map that keeps the relation and tells the members apart. -/
lemma pick_map {remaining : List α}
    (same : ∀ a ∈ remaining, ∀ b ∈ remaining, precedes' (f a) (f b) = precedes a b)
    (inj : InjOn f remaining) :
    pick precedes' (remaining.map f) = (pick precedes remaining).map f := by
  have frees : free precedes' (remaining.map f) = (free precedes remaining).map f := by
    rw [free, free, List.filter_map]
    congr 1
    apply List.filter_congr
    intro x memX
    have blocked : ((remaining.map f).any fun y => y ≠ f x && precedes' (f x) y) =
        remaining.any fun y => y ≠ x && precedes x y := by
      rw [List.any_map, Bool.eq_iff_iff, List.any_eq_true, List.any_eq_true]
      apply exists_congr
      intro y
      apply and_congr_right
      intro memY
      have apart : f y ≠ f x ↔ y ≠ x := by
        rw [not_iff_not]
        exact ⟨inj y memY x memX, congrArg f⟩
      simp only [Function.comp_apply, same x memX y memY, apart]
    rw [Function.comp_apply, blocked]
  rw [pick, pick, frees, List.getLast?_map, List.getLast?_map, Option.map_or]

/-- Renaming the elements commutes with placing them. -/
lemma backFillFrom_map {n : ℕ} {remaining placed : List α}
    (same : ∀ a ∈ remaining, ∀ b ∈ remaining, precedes' (f a) (f b) = precedes a b)
    (inj : InjOn f remaining) :
    backFillFrom precedes' n (remaining.map f) (placed.map f) =
      (backFillFrom precedes n remaining placed).map f := by
  induction n generalizing remaining placed with
  | zero => rfl
  | succ n ih =>
    rw [backFillFrom, backFillFrom, pick_map same inj]
    cases picked : pick precedes remaining with
    | none => rfl
    | some x =>
      have erased := map_erase_of_injOn inj (pick_mem picked)
      simp only [Option.map_some, ← erased, ← List.map_cons]
      exact ih
        (fun a memA b memB =>
          same a (List.mem_of_mem_erase memA) b (List.mem_of_mem_erase memB))
        (inj.subset List.erase_subset)

/-- Back-filling commutes with a map that keeps the relation and tells the members apart. -/
theorem backFill_map {items : List α}
    (same : ∀ a ∈ items, ∀ b ∈ items, precedes' (f a) (f b) = precedes a b)
    (inj : InjOn f items) :
    backFill precedes' (items.map f) = (backFill precedes items).map f := by
  rw [backFill, backFill, List.length_map]
  exact @backFillFrom_map _ _ _ _ _ _ _ items.length items [] same inj

end Map

/-- Relations that agree on the members fill alike. -/
lemma backFill_congr {precedes' : α → α → Bool} {items : List α}
    (same : ∀ a ∈ items, ∀ b ∈ items, precedes' a b = precedes a b) :
    backFill precedes' items = backFill precedes items := by
  have mapped := @backFill_map α precedes _ α _ precedes' id items same fun _ _ _ _ eq => eq
  rwa [List.map_id, List.map_id] at mapped

end Jaull.Lib
