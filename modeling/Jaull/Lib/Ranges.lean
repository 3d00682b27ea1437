import Jaull.Lib.StableSort
import Mathlib.Order.CompletePartialOrder
import Mathlib.Order.Interval.Set.Disjoint

/-!
# Ranges that share nothing

Ranges of natural numbers, given by a start and a size. One pass in the order of the starts, which compares
each start with the end of the range before, tells whether two of them share a number
(`packedFrom_sortedBy_iff`).
-/

namespace Jaull.Lib

universe u
variable {α : Type u} (start size : α → ℕ)

/-- The numbers a range covers. -/
def covered (a : α) : Set ℕ :=
  Set.Ico (start a) (start a + size a)

/-- Each range starts no earlier than the one before ends, the first no earlier than `previousEnd`. -/
def PackedFrom : ℕ → List α → Prop
  | _, [] => True
  | previousEnd, a :: rest => previousEnd ≤ start a ∧ PackedFrom (start a + size a) rest

variable {start size} {previousEnd : ℕ} {l : List α}

/-- Packed ranges start after what came before. -/
lemma PackedFrom.le_start (packed : PackedFrom start size previousEnd l) :
    ∀ a ∈ l, previousEnd ≤ start a := by
  induction l generalizing previousEnd with
  | nil =>
    intro a mem
    cases mem
  | cons b rest ih =>
    obtain ⟨le, packed⟩ := packed
    intro a mem
    rcases List.mem_cons.mp mem with rfl | mem
    · exact le
    · have after := ih packed a mem
      exact (le.trans (Nat.le_add_right _ _)).trans after

/-- Packed ranges follow one another. -/
lemma PackedFrom.pairwise (packed : PackedFrom start size previousEnd l) :
    l.Pairwise fun a b => start a + size a ≤ start b := by
  induction l generalizing previousEnd with
  | nil => exact List.Pairwise.nil
  | cons a rest ih =>
    obtain ⟨_, packed⟩ := packed
    exact List.Pairwise.cons packed.le_start (ih packed)

/-- Ranges that follow each other are packed. -/
lemma packedFrom_of_pairwise (le : ∀ a ∈ l, previousEnd ≤ start a)
    (follow : l.Pairwise fun a b => start a + size a ≤ start b) :
    PackedFrom start size previousEnd l := by
  induction l generalizing previousEnd with
  | nil => exact trivial
  | cons a rest ih =>
    obtain ⟨after, follow⟩ := List.pairwise_cons.mp follow
    exact ⟨le a List.mem_cons_self, ih after follow⟩

/-- A range that ends before another starts shares nothing with it. -/
lemma disjoint_covered_of_le {a b : α} (le : start a + size a ≤ start b) :
    Disjoint (covered start size a) (covered start size b) :=
  Set.Ico_disjoint_Ico.mpr ((min_le_left _ _).trans (le.trans (le_max_right _ _)))

/-- Of two disjoint ranges the earlier ends before the later starts. -/
lemma le_of_disjoint_covered {a b : α} (nonempty : 0 < size b) (sorted : start a ≤ start b)
    (disjoint : Disjoint (covered start size a) (covered start size b)) :
    start a + size a ≤ start b := by
  have apart := Set.Ico_disjoint_Ico.mp disjoint
  rw [max_eq_right sorted] at apart
  rcases min_le_iff.mp apart with le | le
  · exact le
  · omega

/-- Ranges that move together stay apart. -/
lemma disjoint_covered_shift {a b : α} (distance : ℕ)
    (disjoint : Disjoint (covered start size a) (covered start size b)) :
    Disjoint (covered (fun a => distance + start a) size a)
      (covered (fun a => distance + start a) size b) := by
  rw [covered, covered, Set.Ico_disjoint_Ico] at disjoint ⊢
  rw [Nat.add_assoc, Nat.add_assoc, Nat.add_min_add_left, Nat.add_max_add_left]
  exact Nat.add_le_add_left disjoint distance

/-- One pass in the order of the starts accepts exactly the ranges no two of which share a number. -/
theorem packedFrom_sortedBy_iff (nonempty : ∀ a ∈ l, 0 < size a) :
    PackedFrom start size 0 (sortedBy start l) ↔
      l.Pairwise fun a b => Disjoint (covered start size a) (covered start size b) := by
  have symm : ∀ {a b : α}, Disjoint (covered start size a) (covered start size b) →
      Disjoint (covered start size b) (covered start size a) := fun disjoint => disjoint.symm
  rw [← (sortedBy_perm start l).pairwise_iff symm]
  constructor
  · intro packed
    exact packed.pairwise.imp disjoint_covered_of_le
  · intro disjoint
    apply packedFrom_of_pairwise (fun a _ => Nat.zero_le _)
    apply ((sortedBy_pairwise start l).and disjoint).imp_of_mem
    intro a b _ mem both
    exact le_of_disjoint_covered (nonempty b (mem_sortedBy.mp mem)) both.1 both.2

end Jaull.Lib
