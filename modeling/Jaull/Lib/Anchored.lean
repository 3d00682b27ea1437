import Mathlib.Data.List.Nodup
import Mathlib.Data.List.Range
import Mathlib.Order.Fin.Basic
import Mathlib.Order.MinMax
import Mathlib.Tactic.Common

/-!
# Moving members behind an anchor

The fixed members of a list keep their order. Every other member goes right behind the last fixed
member that stood before it or whose group is at most its own, and to the front when there is none;
members that land in one place keep their order. `anchored_pairwise` gives the order of the result for
a list in ascending order, and `anchored_map` carries it to every list through its places.
-/

namespace Jaull.Lib

universe u v w
variable {α : Type u} {β : Type v} [LinearOrder β]

/-- One more than the last place of a group at most `own`, or 0. -/
def lastPlace (groups : List β) (own : β) : ℕ :=
  groups.length - groups.reverse.findIdx (· ≤ own)

section Definitions
variable (fixed : α → Bool) (group : α → β)

/-- The slot of every member that is not fixed, `seen` fixed members standing before the list. -/
def slotsFrom (groups : List β) : ℕ → List α → List (ℕ × α)
  | _, [] => []
  | seen, a :: rest =>
    if fixed a then slotsFrom groups (seen + 1) rest
    else (max seen (lastPlace groups (group a)), a) :: slotsFrom groups seen rest

/-- The members put into one slot, in order. -/
def atSlot (slots : List (ℕ × α)) (slot : ℕ) : List α :=
  (slots.filter (·.1 = slot)).map (·.2)

/-- The fixed members, each followed by the members that go right behind it. -/
def anchored (l : List α) : List α :=
  let kept := l.filter fixed
  let slots := slotsFrom fixed group (kept.map group) 0 l
  atSlot slots 0 ++ kept.zipIdx.flatMap fun (a, index) => a :: atSlot slots (index + 1)

end Definitions

/-- A place lies before the last place exactly when a group at most `own` stands at or behind it. -/
lemma lt_lastPlace_iff {groups : List β} {own : β} {n : ℕ} :
    n < lastPlace groups own ↔ ∃ m g, n ≤ m ∧ groups[m]? = some g ∧ g ≤ own := by
  induction groups using List.reverseRecOn with
  | nil => simp [lastPlace]
  | append_singleton groups last ih =>
    rw [lastPlace, List.reverse_append, List.reverse_singleton, List.singleton_append,
      List.findIdx_cons, List.length_append, List.length_singleton]
    by_cases le : last ≤ own
    · simp only [le, decide_true, cond_true, Nat.sub_zero]
      constructor
      · intro lt
        exact ⟨groups.length, last, by omega, by simp, le⟩
      · rintro ⟨m, g, le', at_m, _⟩
        obtain ⟨inside, _⟩ := List.getElem?_eq_some_iff.mp at_m
        rw [List.length_append, List.length_singleton] at inside
        omega
    · simp only [le, decide_false, cond_false]
      -- the last group does not count, so the others decide
      have shorter : groups.length + 1 - (groups.reverse.findIdx (· ≤ own) + 1) =
          lastPlace groups own := by
        rw [lastPlace]
        omega
      rw [shorter, ih]
      constructor
      · rintro ⟨m, g, le', at_m, leG⟩
        refine ⟨m, g, le', ?_, leG⟩
        rw [List.getElem?_append_left (List.getElem?_eq_some_iff.mp at_m).1]
        exact at_m
      · rintro ⟨m, g, le', at_m, leG⟩
        refine ⟨m, g, le', ?_, leG⟩
        rcases lt_or_ge m groups.length with inside | beyond
        · rwa [List.getElem?_append_left inside] at at_m
        · rw [List.getElem?_append_right beyond, List.getElem?_singleton] at at_m
          split at at_m
          · cases at_m
            exact absurd leG le
          · cases at_m

lemma lastPlace_le_length {groups : List β} {own : β} : lastPlace groups own ≤ groups.length :=
  Nat.sub_le _ _

section Map
variable {γ : Type w} {fixed : α → Bool} {group : α → β} {f : γ → α}

/-- The slots of images. -/
lemma slotsFrom_map (groups : List β) (seen : ℕ) (l : List γ) :
    slotsFrom fixed group groups seen (l.map f) =
      (slotsFrom (fixed ∘ f) (group ∘ f) groups seen l).map (Prod.map id f) := by
  induction l generalizing seen with
  | nil => rfl
  | cons a rest ih =>
    rw [List.map_cons, slotsFrom, slotsFrom, Function.comp_apply, Function.comp_apply]
    split
    · exact ih (seen + 1)
    · rw [List.map_cons, ih seen]
      rfl

/-- What stands at a slot, of images. -/
lemma atSlot_map (slots : List (ℕ × γ)) (slot : ℕ) :
    atSlot (slots.map (Prod.map id f)) slot = (atSlot slots slot).map f := by
  rw [atSlot, atSlot, List.filter_map, List.map_map, List.map_map]
  rfl

/-- Only whether a member is fixed and its group matter. -/
lemma anchored_map (l : List γ) :
    anchored fixed group (l.map f) = (anchored (fixed ∘ f) (group ∘ f) l).map f := by
  have kept : (l.map f).filter fixed = (l.filter (fixed ∘ f)).map f := List.filter_map
  simp only [anchored, kept, List.map_map, slotsFrom_map, atSlot_map, List.map_append,
    List.zipIdx_map, List.flatMap_map, List.map_flatMap, List.map_cons, Prod.map_fst, Prod.map_snd,
    id]

end Map

section Order
variable {ι : Type u} [LinearOrder ι] {fixed : ι → Bool} {group : ι → β} {l : List ι}

/-- The slot of a member of an ascending list. -/
def slot (fixed : ι → Bool) (group : ι → β) (l : List ι) (x : ι) : ℕ :=
  max (l.countP fun y => fixed y && y < x) (lastPlace ((l.filter fixed).map group) (group x))

/-- The members of one slot. -/
def block (fixed : ι → Bool) (group : ι → β) (l : List ι) (n : ℕ) : List ι :=
  l.filter fun x => !fixed x && slot fixed group l x = n

/-- Where a member of an ascending list goes: fixed members to even places, the others behind them to
odd ones. -/
def place (fixed : ι → Bool) (group : ι → β) (l : List ι) (x : ι) : ℕ :=
  if fixed x then 2 * (l.filter fixed).idxOf x + 2 else 2 * slot fixed group l x + 1

/-- A loose item takes the later of its own slot and the last place of its group. -/
lemma slotsFrom_eq (ascending : l.Pairwise (· < ·)) (groups : List β) (seen : ℕ) :
    slotsFrom fixed group groups seen l =
      (l.filter (!fixed ·)).map fun x =>
        (max (seen + l.countP fun y => fixed y && y < x) (lastPlace groups (group x)), x) := by
  induction l generalizing seen with
  | nil => rfl
  | cons a rest ih =>
    rw [List.pairwise_cons] at ascending
    rw [slotsFrom]
    by_cases isFixed : fixed a
    · rw [if_pos isFixed, ih ascending.2, List.filter_cons_of_neg (by simp [isFixed])]
      apply List.map_congr_left
      intro x mem
      have lt : a < x := ascending.1 x (List.mem_of_mem_filter mem)
      rw [List.countP_cons_of_pos (by simp [isFixed, lt])]
      congr 2
      omega
    · have none : rest.countP (fun y => fixed y && y < a) = 0 := by
        rw [List.countP_eq_zero]
        intro y mem
        simp [(ascending.1 y mem).le.not_gt]
      rw [if_neg isFixed, ih ascending.2, List.filter_cons_of_pos (by simp [isFixed]), List.map_cons,
        List.countP_cons_of_neg (by simp [isFixed]), none]
      congr 1
      apply List.map_congr_left
      intro x _
      rw [List.countP_cons_of_neg (by simp [isFixed])]

/-- The fixed members of an ascending list, each followed by its block. -/
lemma anchored_eq (ascending : l.Pairwise (· < ·)) :
    anchored fixed group l = block fixed group l 0 ++
      (l.filter fixed).zipIdx.flatMap fun (a, index) => a :: block fixed group l (index + 1) := by
  have slots : ∀ n, atSlot (slotsFrom fixed group ((l.filter fixed).map group) 0 l) n =
      block fixed group l n := by
    intro n
    rw [slotsFrom_eq ascending, atSlot, List.filter_map, List.map_map, List.filter_filter]
    simp only [Nat.zero_add]
    rw [block]
    conv_rhs => rw [← List.map_id (l.filter _)]
    congr 1
    apply List.filter_congr
    intro x _
    rw [Bool.and_comm]
    rfl
  simp only [anchored, slots]

/-- The member that goes first: by place, and within a place by the order of the list. -/
def Before (fixed : ι → Bool) (group : ι → β) (l : List ι) (x y : ι) : Prop :=
  place fixed group l x < place fixed group l y ∨
    place fixed group l x = place fixed group l y ∧ x < y

/-- A block holds the loose items of its slot. -/
lemma mem_block {n : ℕ} {x : ι} :
    x ∈ block fixed group l n ↔ x ∈ l ∧ fixed x = false ∧ slot fixed group l x = n := by
  simp [block]

/-- They have odd places. -/
lemma place_of_mem_block {n : ℕ} {x : ι} (mem : x ∈ block fixed group l n) :
    place fixed group l x = 2 * n + 1 := by
  obtain ⟨_, notFixed, at_n⟩ := mem_block.mp mem
  rw [place, if_neg (by simp [notFixed]), at_n]

/-- In a block they stand in order. -/
lemma block_pairwise (ascending : l.Pairwise (· < ·)) (n : ℕ) :
    (block fixed group l n).Pairwise (Before fixed group l) := by
  have lt : (block fixed group l n).Pairwise (· < ·) := ascending.sublist List.filter_sublist
  apply lt.imp_of_mem
  intro x y memX memY lt
  exact .inr ⟨by rw [place_of_mem_block memX, place_of_mem_block memY], lt⟩

/-- Fixed items have even places. -/
lemma place_of_mem_zipIdx (ascending : l.Pairwise (· < ·)) {x : ι} {n : ℕ}
    (mem : (x, n) ∈ (l.filter fixed).zipIdx) : place fixed group l x = 2 * n + 2 := by
  have at_n : (l.filter fixed)[n]? = some x := List.mem_zipIdx_iff_getElem?.mp mem
  obtain ⟨inside, eq⟩ := List.getElem?_eq_some_iff.mp at_n
  obtain ⟨_, isFixed⟩ := List.mem_filter.mp (List.mem_of_getElem? at_n)
  have nodup : (l.filter fixed).Nodup :=
    (ascending.sublist List.filter_sublist).imp fun lt => ne_of_lt lt
  rw [place, if_pos isFixed, ← eq, nodup.idxOf_getElem]

/-- The result stands in order of place. -/
lemma anchored_pairwise (ascending : l.Pairwise (· < ·)) :
    (anchored fixed group l).Pairwise (Before fixed group l) := by
  -- a block lies behind its anchor and in front of the next one
  have places : ∀ x n, (x, n) ∈ (l.filter fixed).zipIdx →
      ∀ y ∈ x :: block fixed group l (n + 1),
        2 * n + 2 ≤ place fixed group l y ∧ place fixed group l y ≤ 2 * n + 3 := by
    intro x n mem y memY
    rcases List.mem_cons.mp memY with rfl | memY
    · rw [place_of_mem_zipIdx ascending mem]
      omega
    · rw [place_of_mem_block memY]
      omega
  rw [anchored_eq ascending, List.pairwise_append]
  refine ⟨block_pairwise ascending 0, ?_, ?_⟩
  · rw [List.pairwise_flatMap]
    refine ⟨?_, ?_⟩
    · rintro ⟨x, n⟩ mem
      rw [List.pairwise_cons]
      refine ⟨?_, block_pairwise ascending (n + 1)⟩
      intro y memY
      refine .inl ?_
      rw [place_of_mem_zipIdx ascending mem, place_of_mem_block memY]
      omega
    · have indices : (l.filter fixed).zipIdx.Pairwise fun a b => a.2 < b.2 := by
        have rises : ((l.filter fixed).zipIdx.map (·.2)).Pairwise (· < ·) := by
          rw [List.zipIdx_map_snd]
          exact List.pairwise_lt_range'
        exact List.pairwise_map.mp rises
      apply indices.imp_of_mem
      rintro ⟨x, n⟩ ⟨y, m⟩ memX memY lt a memA b memB
      have upper := (places x n memX a memA).2
      have lower := (places y m memY b memB).1
      simp only at lt
      exact .inl (by omega)
  · intro x memX y memY
    obtain ⟨⟨z, n⟩, memZ, here⟩ := List.mem_flatMap.mp memY
    have lower := (places z n memZ y here).1
    rw [Before, place_of_mem_block memX]
    exact .inl (by omega)

/-- A slot is within the fixed items. -/
lemma slot_le_length (x : ι) : slot fixed group l x ≤ (l.filter fixed).length := by
  have before : (l.countP fun y => fixed y && y < x) ≤ (l.filter fixed).length := by
    rw [← List.countP_eq_length_filter]
    exact List.countP_mono_left fun y _ both => (Bool.and_eq_true_iff.mp both).1
  have last := @lastPlace_le_length β _ ((l.filter fixed).map group) (group x)
  rw [List.length_map] at last
  exact max_le before last

/-- Anchoring rearranges. -/
lemma anchored_perm (ascending : l.Pairwise (· < ·)) : (anchored fixed group l).Perm l := by
  have nodup : (anchored fixed group l).Nodup := by
    apply (anchored_pairwise ascending).imp
    intro x y before same
    subst same
    rcases before with lt | ⟨_, lt⟩
    · exact lt_irrefl _ lt
    · exact lt_irrefl _ lt
  rw [List.perm_ext_iff_of_nodup nodup (ascending.imp fun lt => ne_of_lt lt)]
  intro x
  rw [anchored_eq ascending, List.mem_append, List.mem_flatMap]
  constructor
  · rintro (here | ⟨⟨y, n⟩, memY, here⟩)
    · exact (mem_block.mp here).1
    · rcases List.mem_cons.mp here with rfl | here
      · exact List.mem_of_mem_filter (List.fst_mem_of_mem_zipIdx memY)
      · exact (mem_block.mp here).1
  · intro mem
    by_cases isFixed : fixed x
    · have kept : x ∈ l.filter fixed := List.mem_filter.mpr ⟨mem, isFixed⟩
      refine .inr ⟨(x, (l.filter fixed).idxOf x), ?_, List.mem_cons_self⟩
      exact List.mem_zipIdx_iff_getElem?.mpr (List.getElem?_idxOf kept)
    · have here : x ∈ block fixed group l (slot fixed group l x) :=
        mem_block.mpr ⟨mem, by simpa using isFixed, rfl⟩
      cases at_n : slot fixed group l x with
      | zero =>
        rw [at_n] at here
        exact .inl here
      | succ n =>
        rw [at_n] at here
        have le := @slot_le_length β _ ι _ fixed group l x
        have inside : n < (l.filter fixed).length := by omega
        refine .inr ⟨((l.filter fixed)[n], n), ?_, List.mem_cons_of_mem _ here⟩
        exact List.mem_zipIdx_iff_getElem?.mpr (List.getElem?_eq_getElem inside)

/-- In an ascending list the members before a bound are the first ones. -/
lemma idxOf_lt_countP_iff (ascending : l.Pairwise (· < ·)) {x y : ι} (mem : x ∈ l) :
    l.idxOf x < l.countP (· < y) ↔ x < y := by
  induction l with
  | nil => cases mem
  | cons a rest ih =>
    rw [List.pairwise_cons] at ascending
    by_cases lt : a < y
    · rw [List.countP_cons_of_pos (by simpa using lt)]
      by_cases same : a = x
      · subst same
        rw [List.idxOf_cons_self]
        exact ⟨fun _ => lt, fun _ => Nat.succ_pos _⟩
      · have memRest : x ∈ rest := (List.mem_cons.mp mem).resolve_left (Ne.symm same)
        rw [List.idxOf_cons_ne rest same, Nat.succ_lt_succ_iff]
        exact ih ascending.2 memRest
    · have le : y ≤ x := by
        rcases List.mem_cons.mp mem with rfl | memRest
        · exact not_lt.mp lt
        · exact (not_lt.mp lt).trans (ascending.1 x memRest).le
      have none : (a :: rest).countP (· < y) = 0 := by
        rw [List.countP_eq_zero]
        intro b memB
        rcases List.mem_cons.mp memB with rfl | memB
        · simpa using lt
        · simpa using (not_lt.mp lt).trans (ascending.1 b memB).le
      rw [none]
      exact ⟨fun impossible => absurd impossible (Nat.not_lt_zero _), fun lt' => absurd lt' le.not_gt⟩

/-- In a list ordered by an asymmetric relation the relation tells which of two members stands first. -/
lemma idxOf_lt_idxOf_iff {γ : Type*} [DecidableEq γ] {r : γ → γ → Prop} {l : List γ}
    (ordered : l.Pairwise r) (asymm : ∀ a b, r a b → ¬ r b a) {x y : γ} (memX : x ∈ l)
    (memY : y ∈ l) : l.idxOf x < l.idxOf y ↔ r x y := by
  have nodup : l.Nodup := by
    apply ordered.imp
    intro a b rel same
    subst same
    exact asymm a a rel rel
  obtain ⟨i, hi, rfl⟩ := List.getElem_of_mem memX
  obtain ⟨j, hj, rfl⟩ := List.getElem_of_mem memY
  rw [nodup.idxOf_getElem, nodup.idxOf_getElem]
  have rises := List.pairwise_iff_getElem.mp ordered
  rcases lt_trichotomy i j with lt | eq | gt
  · exact ⟨fun _ => rises i j hi hj lt, fun _ => lt⟩
  · subst eq
    exact ⟨fun lt => absurd lt (lt_irrefl _), fun rel => absurd rel (asymm _ _ rel)⟩
  · exact ⟨fun lt => absurd lt gt.not_gt, fun rel => absurd rel (asymm _ _ (rises j i hj hi gt))⟩

/-- The order is asymmetric. -/
lemma Before.asymm {x y : ι} (before : Before fixed group l x y) : ¬ Before fixed group l y x := by
  rintro (lt' | ⟨eq', lt'⟩)
  · rcases before with lt | ⟨eq, _⟩
    · omega
    · omega
  · rcases before with lt | ⟨_, lt⟩
    · omega
    · exact lt.not_gt lt'

section Facts
variable {x y : ι}

/-- Fixed members keep their order. -/
lemma before_fixed (ascending : l.Pairwise (· < ·)) (memX : x ∈ l) (memY : y ∈ l) (fixedX : fixed x)
    (fixedY : fixed y) : Before fixed group l x y ↔ x < y := by
  have kept : (l.filter fixed).Pairwise (· < ·) := ascending.sublist List.filter_sublist
  have keptX : x ∈ l.filter fixed := List.mem_filter.mpr ⟨memX, fixedX⟩
  have keptY : y ∈ l.filter fixed := List.mem_filter.mpr ⟨memY, fixedY⟩
  have order := idxOf_lt_idxOf_iff kept (fun _ _ lt => lt.not_gt) keptX keptY
  rw [Before, place, if_pos fixedX, place, if_pos fixedY]
  constructor
  · rintro (lt | ⟨_, lt⟩)
    · exact order.mp (by omega)
    · exact lt
  · intro lt
    have idx := order.mpr lt
    exact .inl (by omega)

/-- A fixed item stands before a loose one when it stands before its slot. -/
lemma before_iff_lt_slot (fixedX : fixed x) (notFixed : fixed y = false) :
    Before fixed group l x y ↔ (l.filter fixed).idxOf x < slot fixed group l y := by
  rw [Before, place, if_pos fixedX, place, if_neg (by simp [notFixed])]
  omega

/-- A fixed member goes before another member exactly when it stands at or before some fixed member that
stood before the other or whose group is at most the other's. -/
lemma before_of_fixed (ascending : l.Pairwise (· < ·)) (memX : x ∈ l) (fixedX : fixed x)
    (notFixed : fixed y = false) :
    Before fixed group l x y ↔
      ∃ z ∈ l, fixed z ∧ x ≤ z ∧ (z < y ∨ group z ≤ group y) := by
  have kept : (l.filter fixed).Pairwise (· < ·) := ascending.sublist List.filter_sublist
  have keptX : x ∈ l.filter fixed := List.mem_filter.mpr ⟨memX, fixedX⟩
  have nodup : (l.filter fixed).Nodup := kept.imp fun lt => ne_of_lt lt
  have count : (l.countP fun z => fixed z && z < y) = (l.filter fixed).countP (· < y) := by
    rw [List.countP_filter]
    simp only [Bool.and_comm]
  rw [before_iff_lt_slot fixedX notFixed, slot, lt_max_iff, count, idxOf_lt_countP_iff kept keptX,
    lt_lastPlace_iff]
  constructor
  · rintro (lt | ⟨m, g, le, at_m, leG⟩)
    · exact ⟨x, memX, fixedX, le_rfl, .inl lt⟩
    · rw [List.getElem?_map, Option.map_eq_some_iff] at at_m
      obtain ⟨z, at_m, rfl⟩ := at_m
      have keptZ := List.mem_of_getElem? at_m
      obtain ⟨memZ, fixedZ⟩ := List.mem_filter.mp keptZ
      refine ⟨z, memZ, fixedZ, ?_, .inr leG⟩
      obtain ⟨inside, eq⟩ := List.getElem?_eq_some_iff.mp at_m
      rw [← not_lt, ← idxOf_lt_idxOf_iff kept (fun _ _ lt => lt.not_gt) keptZ keptX, ← eq,
        nodup.idxOf_getElem]
      omega
  · rintro ⟨z, memZ, fixedZ, le, lt | leG⟩
    · exact .inl (le.trans_lt lt)
    · have keptZ : z ∈ l.filter fixed := List.mem_filter.mpr ⟨memZ, fixedZ⟩
      refine .inr ⟨(l.filter fixed).idxOf z, group z, ?_, ?_, leG⟩
      · have notBefore :=
          mt (idxOf_lt_idxOf_iff kept (fun _ _ lt => lt.not_gt) keptZ keptX).mp (not_lt.mpr le)
        omega
      · rw [List.getElem?_map, List.getElem?_idxOf keptZ]
        rfl

/-- Another member goes before a fixed one exactly when the fixed one does not go before it. -/
lemma before_of_not_fixed (notFixed : fixed x = false) (fixedY : fixed y) :
    Before fixed group l x y ↔ ¬ Before fixed group l y x := by
  rw [Before, Before, place, if_neg (by simp [notFixed]), place, if_pos fixedY]
  omega

/-- Other members never pass ahead of a fixed one. -/
lemma lt_of_before_fixed (ascending : l.Pairwise (· < ·)) (memY : y ∈ l)
    (notFixed : fixed x = false) (fixedY : fixed y) (before : Before fixed group l x y) : x < y := by
  by_contra notLt
  apply before.asymm
  rw [before_of_fixed ascending memY fixedY notFixed]
  have ne : y ≠ x := by
    rintro rfl
    rw [notFixed] at fixedY
    cases fixedY
  exact ⟨y, memY, fixedY, le_rfl, .inl (lt_of_le_of_ne (not_lt.mp notLt) ne)⟩

/-- Two other members go in order of slot, and in their own order within one. -/
lemma before_not_fixed (notFixedX : fixed x = false) (notFixedY : fixed y = false) :
    Before fixed group l x y ↔ slot fixed group l x < slot fixed group l y ∨
      slot fixed group l x = slot fixed group l y ∧ x < y := by
  have apart : ∀ m n : ℕ, (2 * m + 1 < 2 * n + 1 ↔ m < n) ∧ (2 * m + 1 = 2 * n + 1 ↔ m = n) := by
    omega
  rw [Before, place, if_neg (by simp [notFixedX]), place, if_neg (by simp [notFixedY]),
    (apart _ _).1, (apart _ _).2]

/-- A fixed member stands between two slots. -/
lemma exists_fixed_between (ascending : l.Pairwise (· < ·)) (notFixedX : fixed x = false)
    (notFixedY : fixed y = false) (lt : slot fixed group l x < slot fixed group l y) :
    ∃ z ∈ l, fixed z ∧ Before fixed group l x z ∧ Before fixed group l z y := by
  have nodup : (l.filter fixed).Nodup :=
    (ascending.sublist List.filter_sublist).imp fun lt => ne_of_lt lt
  have le := @slot_le_length β _ ι _ fixed group l y
  have inside : slot fixed group l x < (l.filter fixed).length := by omega
  obtain ⟨mem, isFixed⟩ := List.mem_filter.mp (List.getElem_mem inside)
  refine ⟨_, mem, isFixed, ?_, ?_⟩
  · rw [before_of_not_fixed notFixedX isFixed, before_iff_lt_slot isFixed notFixedX,
      nodup.idxOf_getElem]
    omega
  · rw [before_iff_lt_slot isFixed notFixedY, nodup.idxOf_getElem]
    exact lt

/-- Two other members behind the same fixed ones keep their order. -/
lemma before_of_together (ascending : l.Pairwise (· < ·)) (notFixedX : fixed x = false)
    (notFixedY : fixed y = false) (lt : x < y)
    (same : ∀ z ∈ l, fixed z → (Before fixed group l z x ↔ Before fixed group l z y)) :
    Before fixed group l x y := by
  rw [before_not_fixed notFixedX notFixedY]
  rcases lt_trichotomy (slot fixed group l x) (slot fixed group l y) with less | eq | more
  · exact .inl less
  · exact .inr ⟨eq, lt⟩
  · obtain ⟨z, mem, isFixed, behind, ahead⟩ :=
      exists_fixed_between ascending notFixedY notFixedX more
    exact absurd ((same z mem isFixed).mp ahead) behind.asymm

/-- Anchoring keeps the members with a property in front when they stand in front and no group with the
property is above a group without. -/
lemma before_keeps_front {p : ι → Prop} (ascending : l.Pairwise (· < ·))
    (front : ∀ x ∈ l, ∀ y ∈ l, x < y → p y → p x)
    (respects : ∀ x ∈ l, ∀ y ∈ l, group x ≤ group y → p y → p x)
    (memX : x ∈ l) (memY : y ∈ l) (before : Before fixed group l x y) (holds : p y) : p x := by
  -- up to a fixed member that reaches behind a member with the property everything has it
  have reached : ∀ z ∈ l, ∀ w ∈ l, fixed z → fixed w = false → p w → Before fixed group l z w → p z := by
    intro z memZ w memW fixedZ notFixed holds before
    obtain ⟨k, memK, _, le, lt | leG⟩ :=
      (before_of_fixed ascending memZ fixedZ notFixed).mp before
    · exact front z memZ w memW (le.trans_lt lt) holds
    · have holdsK := respects k memK w memW leG holds
      rcases le.eq_or_lt with same | lt
      · rwa [same]
      · exact front z memZ k memK lt holdsK
  cases fixedX : fixed x with
  | true =>
    cases fixedY : fixed y with
    | true =>
      exact front x memX y memY ((before_fixed ascending memX memY fixedX fixedY).mp before) holds
    | false => exact reached x memX y memY fixedX fixedY holds before
  | false =>
    cases fixedY : fixed y with
    | true =>
      exact front x memX y memY (lt_of_before_fixed ascending memY fixedX fixedY before) holds
    | false =>
      rcases (before_not_fixed fixedX fixedY).mp before with lt | ⟨_, lt⟩
      · obtain ⟨z, memZ, fixedZ, behind, ahead⟩ := exists_fixed_between ascending fixedX fixedY lt
        have holdsZ := reached z memZ y memY fixedZ fixedY holds ahead
        have lt := lt_of_before_fixed ascending memZ fixedX fixedZ behind
        exact front x memX z memZ lt holdsZ
      · exact front x memX y memY lt holds

end Facts

end Order

section Places
variable (fixed : α → Bool) (group : α → β) (l : List α)

/-- The places of a list in the order of the result. -/
def anchoredPlaces : List (Fin l.length) :=
  anchored (fun i => fixed (l.get i)) (fun i => group (l.get i)) (List.finRange l.length)

/-- The result reads the list at those places. -/
lemma anchored_eq_map_get : anchored fixed group l = (anchoredPlaces fixed group l).map l.get := by
  have mapped := @anchored_map α β _ _ fixed group l.get (List.finRange l.length)
  rwa [List.map_get_finRange] at mapped

lemma anchoredPlaces_perm : (anchoredPlaces fixed group l).Perm (List.finRange l.length) :=
  anchored_perm (List.pairwise_lt_finRange l.length)

/-- They are in order. -/
lemma anchoredPlaces_pairwise :
    (anchoredPlaces fixed group l).Pairwise
      (Before (fun i => fixed (l.get i)) (fun i => group (l.get i)) (List.finRange l.length)) :=
  anchored_pairwise (List.pairwise_lt_finRange l.length)

/-- So a place comes earlier when it stands before. -/
lemma idxOf_anchoredPlaces {i j : Fin l.length} :
    (anchoredPlaces fixed group l).idxOf i < (anchoredPlaces fixed group l).idxOf j ↔
      Before (fun i => fixed (l.get i)) (fun i => group (l.get i)) (List.finRange l.length) i j := by
  have mem : ∀ i, i ∈ anchoredPlaces fixed group l :=
    fun i => (anchoredPlaces_perm fixed group l).mem_iff.mpr (List.mem_finRange i)
  exact idxOf_lt_idxOf_iff (anchoredPlaces_pairwise fixed group l) (fun _ _ => Before.asymm)
    (mem i) (mem j)

variable {fixed group l}

/-- Anchoring keeps the members with a property in front. -/
lemma anchored_keeps_front {p : α → Prop} (front : l.Pairwise fun a b => p b → p a)
    (respects : ∀ a ∈ l, ∀ b ∈ l, group a ≤ group b → p b → p a) :
    (anchored fixed group l).Pairwise fun a b => p b → p a := by
  rw [anchored_eq_map_get, List.pairwise_map]
  apply (anchoredPlaces_pairwise fixed group l).imp
  intro i j before
  have frontAt : ∀ i ∈ List.finRange l.length, ∀ j ∈ List.finRange l.length,
      i < j → p (l.get j) → p (l.get i) :=
    fun i _ j _ lt => List.pairwise_iff_getElem.mp front i j i.2 j.2 lt
  have respectsAt : ∀ i ∈ List.finRange l.length, ∀ j ∈ List.finRange l.length,
      group (l.get i) ≤ group (l.get j) → p (l.get j) → p (l.get i) :=
    fun i _ j _ => respects _ (List.get_mem l i) _ (List.get_mem l j)
  exact before_keeps_front (p := fun i => p (l.get i)) (List.pairwise_lt_finRange l.length) frontAt
    respectsAt (List.mem_finRange i) (List.mem_finRange j) before

end Places

end Jaull.Lib
