import Jaull.Lib.ListMap
import Mathlib.Data.List.GetD
import Mathlib.Data.List.Sort
import Mathlib.Data.Prod.Lex
import Mathlib.Tactic.Common

/-!
# Stable sorting by a key

Python's `sorted(items, key=…)` as a structural definition: a stable insertion sort along the order
of the keys. Tuples of keys are lexicographic products (`×ₗ`), compared with `Prod.Lex.toLex_le_toLex`.
Nothing here knows what is being sorted.
-/

namespace Jaull.Lib

universe u v
variable {α : Type u} {κ : Type v} [LinearOrder κ]

/-- `l` sorted by `key`, members of equal key staying in the order of `l`. -/
def sortedBy (key : α → κ) (l : List α) : List α :=
  l.insertionSort (fun a b => key a ≤ key b)

/-- Sorting rearranges. -/
lemma sortedBy_perm (key : α → κ) (l : List α) : (sortedBy key l).Perm l :=
  l.perm_insertionSort _

/-- Sorting keeps the members. -/
@[simp]
lemma mem_sortedBy {key : α → κ} {l : List α} {a : α} : a ∈ sortedBy key l ↔ a ∈ l :=
  (sortedBy_perm key l).mem_iff

@[simp]
lemma length_sortedBy {key : α → κ} {l : List α} : (sortedBy key l).length = l.length :=
  (sortedBy_perm key l).length_eq

@[simp]
lemma sortedBy_eq_nil {key : α → κ} {l : List α} : sortedBy key l = [] ↔ l = [] := by
  rw [← List.length_eq_zero_iff, length_sortedBy, List.length_eq_zero_iff]

instance sortedBy_total (key : α → κ) : Std.Total (fun a b : α => key a ≤ key b) :=
  ⟨fun a b => le_total (key a) (key b)⟩

instance sortedBy_isTrans (key : α → κ) :
    IsTrans α (fun a b : α => key a ≤ key b) :=
  ⟨fun _ _ _ h k => le_trans h k⟩

/-- The keys of a sorted list never decrease. -/
lemma sortedBy_pairwise (key : α → κ) (l : List α) :
    (sortedBy key l).Pairwise (fun a b => key a ≤ key b) :=
  l.pairwise_insertionSort _

/-- Inserting a member leaves the members of one key in order, itself first. -/
lemma filter_orderedInsert (key : α → κ) (k : κ) (a : α) (l : List α) :
    (l.orderedInsert (fun a b => key a ≤ key b) a).filter (key · = k) =
      (a :: l).filter (key · = k) := by
  induction l with
  | nil => rfl
  | cons b l ih =>
    rw [List.orderedInsert_cons]
    split
    case isTrue => rfl
    case isFalse not =>
      rw [List.filter_cons, ih]
      by_cases at_a : key a = k
      · have ne : key b ≠ k := by
          rintro rfl
          exact not at_a.le
        simp [at_a, ne]
      · simp [at_a, List.filter_cons]

/-- Stability: the members of one key keep their order. -/
lemma sortedBy_filter (key : α → κ) (k : κ) (l : List α) :
    (sortedBy key l).filter (key · = k) = l.filter (key · = k) := by
  induction l with
  | nil => rfl
  | cons a l ih =>
    rw [sortedBy] at ih
    rw [sortedBy, List.insertionSort_cons, filter_orderedInsert, List.filter_cons, ih,
      List.filter_cons]

/-- A list that is already sorted is returned unchanged. -/
lemma sortedBy_eq_self {key : α → κ} {l : List α}
    (srt : l.Pairwise (fun a b => key a ≤ key b)) : sortedBy key l = l :=
  srt.insertionSort_eq

/-- The head of a sorted list carries a least key. -/
lemma sortedBy_head_le {key : α → κ} {l t : List α} {a : α}
    (eq : sortedBy key l = a :: t) : ∀ b ∈ l, key a ≤ key b := by
  intro b mem
  have mem' : b ∈ a :: t := by rw [← eq]; exact mem_sortedBy.mpr mem
  have srt := sortedBy_pairwise key l
  rw [eq] at srt
  rcases List.mem_cons.mp mem' with rfl | mem'
  · exact le_rfl
  · exact List.rel_of_pairwise_cons srt mem'

/-- The last of a sorted list carries a greatest key. -/
lemma le_sortedBy_getLast {key : α → κ} {l : List α} {a : α} (eq : (sortedBy key l).getLast? = some a) :
    a ∈ l ∧ ∀ b ∈ l, key b ≤ key a := by
  obtain ⟨front, split⟩ := List.getLast?_eq_some_iff.mp eq
  have mem : ∀ b, b ∈ l ↔ b ∈ front ++ [a] := by
    intro b
    rw [← split, mem_sortedBy]
  refine ⟨(mem a).mpr (List.mem_append_right _ (List.mem_singleton_self a)), ?_⟩
  intro b memB
  have srt := sortedBy_pairwise key l
  rw [split, List.pairwise_append] at srt
  rcases List.mem_append.mp ((mem b).mp memB) with inFront | own
  · exact srt.2.2 b inFront a (List.mem_singleton_self a)
  · rw [List.mem_singleton.mp own]

/-- Sorting by a key commutes with a map that carries one key to the other. -/
lemma map_sortedBy {β : Type*} {key : α → κ} {key' : β → κ} (f : α → β)
    (eq : ∀ a, key' (f a) = key a) (l : List α) :
    (sortedBy key l).map f = sortedBy key' (l.map f) := by
  apply List.map_insertionSort
  intro a _ b _
  rw [eq a, eq b]

/-- Only the order of the keys matters. -/
lemma sortedBy_congr {κ' : Type*} [LinearOrder κ'] {key : α → κ} {key' : α → κ'} {l : List α}
    (same : ∀ a ∈ l, ∀ b ∈ l, key a ≤ key b ↔ key' a ≤ key' b) :
    sortedBy key l = sortedBy key' l := by
  have mapped := List.map_insertionSort (f := id) (fun a b => key a ≤ key b)
    (fun a b => key' a ≤ key' b) l same
  rw [List.map_id, List.map_id] at mapped
  exact mapped

/-- Mapping by a function that turns the order around turns the sorted list around. -/
lemma sortedBy_map_of_antitone {f : κ → κ} (antitone : Antitone f) (l : List κ) :
    sortedBy id (l.map f) = ((sortedBy id l).map f).reverse := by
  have perm : (sortedBy id (l.map f)).Perm ((sortedBy id l).map f).reverse :=
    (sortedBy_perm id (l.map f)).trans
      (((sortedBy_perm id l).map f).symm.trans (List.reverse_perm _).symm)
  have ascending : (sortedBy id (l.map f)).Pairwise (· ≤ ·) := sortedBy_pairwise id (l.map f)
  have turned : ((sortedBy id l).map f).reverse.Pairwise (· ≤ ·) := by
    rw [List.pairwise_reverse, List.pairwise_map]
    apply (sortedBy_pairwise id l).imp
    intro a b le
    exact antitone le
  exact perm.eq_of_pairwise' ascending turned

/-- What was at a rank is then at the mirrored one. -/
lemma getD_sortedBy_map_of_antitone {f : κ → κ} (antitone : Antitone f) {l : List κ} {rank : ℕ}
    (lt : rank < l.length) (d : κ) :
    (sortedBy id (l.map f)).getD rank (f d) = f ((sortedBy id l).getD (l.length - 1 - rank) d) := by
  have lt' : rank < ((sortedBy id l).map f).length := by rwa [List.length_map, length_sortedBy]
  rw [sortedBy_map_of_antitone antitone, List.getD_reverse rank lt', List.getD_map,
    List.length_map, length_sortedBy]

/-- Two sorted lists with the same members of every key, in the same order, are one list. -/
lemma eq_of_sorted {key : α → κ} {l l' : List α} (sorted : l.Pairwise fun a b => key a ≤ key b)
    (sorted' : l'.Pairwise fun a b => key a ≤ key b)
    (same : ∀ k, l.filter (key · = k) = l'.filter (key · = k)) : l = l' := by
  -- no member of a sorted list has a key below its head's
  have none : ∀ {k : κ} {b : α} {t : List α}, (b :: t).Pairwise (fun a b => key a ≤ key b) →
      k < key b → (b :: t).filter (key · = k) = [] := by
    intro k b t sorted lt
    rw [List.filter_eq_nil_iff]
    intro c mem isK
    have eq : key c = k := of_decide_eq_true isK
    rcases List.mem_cons.mp mem with rfl | mem
    · exact lt.ne' eq
    · exact (lt.trans_le (List.rel_of_pairwise_cons sorted mem)).ne' eq
  induction l generalizing l' with
  | nil =>
    cases l' with
    | nil => rfl
    | cons b t =>
      have at_b := same (key b)
      simp at at_b
  | cons a t ih =>
    cases l' with
    | nil =>
      have at_a := same (key a)
      simp at at_a
    | cons b t' =>
      have keys : key a = key b := by
        rcases lt_trichotomy (key a) (key b) with lt | eq | lt
        · have at_a := same (key a)
          rw [none sorted' lt] at at_a
          simp at at_a
        · exact eq
        · have at_b := same (key b)
          rw [none sorted lt] at at_b
          simp at at_b
      have heads : a = b := by
        have at_a := same (key a)
        simp only [List.filter_cons, keys, decide_true, if_true] at at_a
        exact (List.cons.inj at_a).1
      subst heads
      rw [List.pairwise_cons] at sorted sorted'
      rw [ih sorted.2 sorted'.2]
      intro k
      have at_k := same k
      rw [List.filter_cons, List.filter_cons] at at_k
      split at at_k
      · exact (List.cons.inj at_k).2
      · exact at_k

/-- Rearranged members whose keys differ are sorted alike. -/
lemma sortedBy_eq_of_perm {key : α → κ} {l l' : List α} (perm : l'.Perm l) (nodup : (l.map key).Nodup) :
    sortedBy key l' = sortedBy key l := by
  apply eq_of_sorted (sortedBy_pairwise key l') (sortedBy_pairwise key l)
  intro k
  rw [sortedBy_filter, sortedBy_filter]
  exact filter_eq_of_perm perm nodup k

/-- Moving the members that satisfy `p` to the front of a sorted list sorts it by `p` first. -/
lemma partition_sortedBy (key : α → κ) (p : α → Bool) (l : List α) :
    (sortedBy key l).filter p ++ (sortedBy key l).filter (!p ·) =
      sortedBy (fun a => toLex (!p a, key a)) l := by
  have srt := sortedBy_pairwise key l
  apply eq_of_sorted ?_ (sortedBy_pairwise _ l)
  · intro pair
    obtain ⟨out, k, rfl⟩ : ∃ out k, pair = toLex (out, k) := ⟨pair.1, pair.2, rfl⟩
    -- within one key the two parts are the members in and out of `p`, in the order of `l`
    have split : ∀ m : List α, m.filter (fun a => toLex (!p a, key a) = toLex (out, k)) =
        (m.filter (key · = k)).filter fun a => (!p a) = out := by
      intro m
      rw [List.filter_filter]
      apply List.filter_congr
      intro a _
      rw [← Bool.decide_and, decide_eq_decide, toLex_inj]
      exact Prod.mk_inj
    have part : ∀ q : α → Bool, ((sortedBy key l).filter q).filter (key · = k) =
        (l.filter (key · = k)).filter q := by
      intro q
      rw [List.filter_comm, sortedBy_filter]
    rw [List.filter_append, sortedBy_filter, split, split, split, part, part]
    cases out with
    | false => simpa [List.filter_filter] using fun a _ inside outside => absurd inside (by simp [outside])
    | true => simpa [List.filter_filter] using fun a _ outside inside => absurd inside (by simp [outside])
  · rw [List.pairwise_append]
    refine ⟨?_, ?_, ?_⟩
    · apply List.Pairwise.imp_of_mem ?_ (srt.filter p)
      intro a b memA memB le
      have pa := (List.mem_filter.mp memA).2
      have pb := (List.mem_filter.mp memB).2
      rw [Prod.Lex.toLex_le_toLex, pa, pb]
      exact .inr ⟨rfl, le⟩
    · apply List.Pairwise.imp_of_mem ?_ (srt.filter (!p ·))
      intro a b memA memB le
      have pa := (List.mem_filter.mp memA).2
      have pb := (List.mem_filter.mp memB).2
      rw [Prod.Lex.toLex_le_toLex, pa, pb]
      exact .inr ⟨rfl, le⟩
    · intro a memA b memB
      have pa := (List.mem_filter.mp memA).2
      have pb := (List.mem_filter.mp memB).2
      rw [Prod.Lex.toLex_le_toLex, pa, pb]
      exact .inl Bool.false_lt_true

end Jaull.Lib
