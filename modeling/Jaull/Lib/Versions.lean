import Jaull.Lib.ListMap
import Mathlib.Data.List.Induction
import Mathlib.Data.List.Nodup
import Mathlib.Data.List.Perm.Basic
import Mathlib.Data.Prod.Lex

/-!
# Versions of items

A run over items that keeps one version for each key. Two versions of one value are no conflict and the later
one stays; two versions of different values are, and the one of least rank stays. When versions of one value
are one version, what stays does not depend on the order of the run.
-/

namespace Jaull.Lib

universe u v w x
variable {α : Type u} {ι : Type v} {β : Type w} {ρ : Type x} [LinearOrder ρ]

/-- The version kept of two that conflict. -/
def leastOf (rank : α → ρ) (previous item : α) : α :=
  if rank item < rank previous then item else previous

/-- One more item: the versions kept so far, and the keys in conflict. -/
def collect [DecidableEq ι] [DecidableEq β] (key : α → ι) (value : α → β) (rank : α → ρ)
    (known : List α × List ι) (item : α) :
    List α × List ι :=
  match known.1.find? (key · = key item) with
  | none => (known.1 ++ [item], known.2)
  | some previous =>
    let kept := if value previous = value item then item else leastOf rank previous item
    (known.1.map fun other => if key other = key item then kept else other,
      if value previous = value item then known.2 else key item :: known.2)

/-- What holds of the versions kept of the items seen. -/
structure Collected (key : α → ι) (value : α → β) (seen : List α) (known : List α × List ι) :
    Prop where
  sub : known.1 ⊆ seen
  keys : (known.1.map key).Nodup
  covers : ∀ item ∈ seen, ∃ kept ∈ known.1, key kept = key item
  conflicts : ∀ k, k ∈ known.2 ↔ ∃ a ∈ seen, ∃ b ∈ seen, key a = k ∧ key b = k ∧ value a ≠ value b

section Run
variable {key : α → ι} {value : α → β} {rank : α → ρ} {seen : List α} {known : List α × List ι}

/-- The smaller of two of one key has that key. -/
lemma key_leastOf {a b : α} (same : key a = key b) : key (leastOf rank a b) = key b := by
  rw [leastOf]
  split
  · rfl
  · exact same

/-- It is one of the two. -/
lemma leastOf_mem {a b : α} : leastOf rank a b = a ∨ leastOf rank a b = b := by
  rw [leastOf]
  split
  · exact .inr rfl
  · exact .inl rfl

/-- Nothing has been seen. -/
lemma Collected.nil : Collected key value ([] : List α) ([], []) where
  sub := List.Subset.refl _
  keys := List.nodup_nil
  covers := by
    intro item mem
    cases mem
  conflicts := by
    intro k
    simp

/-- Values of a key that is not in conflict are one. -/
lemma Collected.value_eq (collected : Collected key value seen known) {a b : α} (memA : a ∈ seen)
    (memB : b ∈ seen) (same : key a = key b) (calm : key a ∉ known.2) : value a = value b := by
  by_contra ne
  exact calm ((collected.conflicts _).mpr ⟨a, memA, b, memB, rfl, same.symm, ne⟩)

/-- A new key. -/
lemma Collected.append (collected : Collected key value seen known) {item : α}
    (new : ∀ kept ∈ known.1, key kept ≠ key item) :
    Collected key value (seen ++ [item]) (known.1 ++ [item], known.2) where
  sub := List.append_subset.mpr
    ⟨List.subset_append_of_subset_left _ collected.sub, List.subset_append_right _ _⟩
  keys := by
    rw [List.map_append, List.nodup_append]
    refine ⟨collected.keys, List.nodup_singleton _, ?_⟩
    intro k memK k' memK' eq
    obtain ⟨kept, mem, rfl⟩ := List.mem_map.mp memK
    exact new kept mem (eq.trans (List.mem_singleton.mp memK'))
  covers := by
    intro other mem
    rcases List.mem_append.mp mem with old | own
    · obtain ⟨kept, mem, same⟩ := collected.covers other old
      exact ⟨kept, List.mem_append_left _ mem, same⟩
    · rw [List.mem_singleton.mp own]
      exact ⟨item, List.mem_append_right _ (List.mem_singleton_self _), rfl⟩
  conflicts := by
    -- the new item has no other version to be in conflict with
    have alone : ∀ other ∈ seen, key other ≠ key item := by
      intro other mem same
      obtain ⟨kept, memK, eq⟩ := collected.covers other mem
      exact new kept memK (eq.trans same)
    intro k
    rw [collected.conflicts]
    constructor
    · intro conflict
      obtain ⟨a, memA, b, memB, facts⟩ := conflict
      exact ⟨a, List.mem_append_left _ memA, b, List.mem_append_left _ memB, facts⟩
    · intro conflict
      obtain ⟨a, memA, b, memB, keyA, keyB, ne⟩ := conflict
      rcases List.mem_append.mp memA with oldA | ownA
      · rcases List.mem_append.mp memB with oldB | ownB
        · exact ⟨a, oldA, b, oldB, keyA, keyB, ne⟩
        · rw [List.mem_singleton.mp ownB] at keyB
          exact absurd (keyA.trans keyB.symm) (alone a oldA)
      · rw [List.mem_singleton.mp ownA] at keyA ne
        rcases List.mem_append.mp memB with oldB | ownB
        · exact absurd (keyB.trans keyA.symm) (alone b oldB)
        · rw [List.mem_singleton.mp ownB] at ne
          exact absurd rfl ne

variable [DecidableEq ι] [DecidableEq β]

/-- A key seen before. -/
lemma Collected.replace (collected : Collected key value seen known) {item previous kept : α}
    (mem : previous ∈ known.1) (same : key previous = key item) (own : key kept = key item)
    (one : kept = previous ∨ kept = item) :
    Collected key value (seen ++ [item])
      (known.1.map fun other => if key other = key item then kept else other,
        if value previous = value item then known.2 else key item :: known.2) where
  sub := by
    intro other memO
    obtain ⟨old, memOld, rfl⟩ := List.mem_map.mp memO
    split
    · rcases one with rfl | rfl
      · exact List.mem_append_left _ (collected.sub mem)
      · exact List.mem_append_right _ (List.mem_singleton_self _)
    · exact List.mem_append_left _ (collected.sub memOld)
  keys := by
    have keys : (known.1.map fun other => if key other = key item then kept else other).map key =
        known.1.map key := by
      rw [List.map_map]
      apply List.map_congr_left
      intro other _
      rw [Function.comp_apply]
      split
      · rename_i at'
        rw [own, at']
      · rfl
    rw [keys]
    exact collected.keys
  covers := by
    have covered : ∀ other, key other = key item → ∃ version ∈
        known.1.map fun other => if key other = key item then kept else other,
        key version = key other := by
      intro other at'
      exact ⟨kept, List.mem_map.mpr ⟨previous, mem, if_pos same⟩, own.trans at'.symm⟩
    intro other memO
    by_cases at' : key other = key item
    · exact covered other at'
    · rcases List.mem_append.mp memO with old | new
      · obtain ⟨version, memV, eq⟩ := collected.covers other old
        refine ⟨version, List.mem_map.mpr ⟨version, memV, if_neg ?_⟩, eq⟩
        rw [eq]
        exact at'
      · rw [List.mem_singleton.mp new] at at'
        exact absurd rfl at'
  conflicts := by
    have memP := collected.sub mem
    -- without a conflict all versions seen have the value of the previous one
    have grow : ∀ {k}, k ∈ known.2 → ∃ a ∈ seen ++ [item], ∃ b ∈ seen ++ [item],
        key a = k ∧ key b = k ∧ value a ≠ value b := by
      intro k conflict
      obtain ⟨a, memA, b, memB, facts⟩ := (collected.conflicts _).mp conflict
      exact ⟨a, List.mem_append_left _ memA, b, List.mem_append_left _ memB, facts⟩
    intro k
    by_cases agree : value previous = value item
    · rw [if_pos agree]
      refine ⟨grow, ?_⟩
      intro conflict
      obtain ⟨a, memA, b, memB, keyA, keyB, ne⟩ := conflict
      by_contra calm
      have settled : ∀ c ∈ seen ++ [item], key c = k → key item = k → value c = value item := by
        intro c memC keyC keyI
        rcases List.mem_append.mp memC with old | new
        · have eq := collected.value_eq old memP (keyC.trans (keyI.symm.trans same.symm))
            (by rw [keyC]; exact calm)
          exact eq.trans agree
        · rw [List.mem_singleton.mp new]
      by_cases at' : key item = k
      · exact ne ((settled a memA keyA at').trans (settled b memB keyB at').symm)
      · have old : ∀ c ∈ seen ++ [item], key c = k → c ∈ seen := by
          intro c memC keyC
          rcases List.mem_append.mp memC with old | new
          · exact old
          · rw [List.mem_singleton.mp new] at keyC
            exact absurd keyC at'
        exact calm ((collected.conflicts _).mpr
          ⟨a, old a memA keyA, b, old b memB keyB, keyA, keyB, ne⟩)
    · rw [if_neg agree, List.mem_cons]
      constructor
      · intro conflict
        rcases conflict with rfl | conflict
        · exact ⟨previous, List.mem_append_left _ memP, item,
            List.mem_append_right _ (List.mem_singleton_self _), same, rfl, agree⟩
        · exact grow conflict
      · intro conflict
        obtain ⟨a, memA, b, memB, keyA, keyB, ne⟩ := conflict
        by_cases at' : k = key item
        · exact .inl at'
        · have old : ∀ c ∈ seen ++ [item], key c = k → c ∈ seen := by
            intro c memC keyC
            rcases List.mem_append.mp memC with old | new
            · exact old
            · rw [List.mem_singleton.mp new] at keyC
              exact absurd keyC.symm at'
          exact .inr ((collected.conflicts _).mpr
            ⟨a, old a memA keyA, b, old b memB keyB, keyA, keyB, ne⟩)

/-- One step keeps what holds of the versions. -/
lemma Collected.step (collected : Collected key value seen known) (item : α) :
    Collected key value (seen ++ [item]) (collect key value rank known item) := by
  rw [collect]
  cases found : known.1.find? (key · = key item) with
  | none =>
    apply collected.append
    intro kept mem same
    rw [List.find?_eq_none] at found
    exact found kept mem (decide_eq_true same)
  | some previous =>
    have same : key previous = key item := by simpa using List.find?_some found
    refine collected.replace (List.mem_of_find?_eq_some found) same ?_ ?_
    · split
      · rfl
      · exact key_leastOf same
    · split
      · exact .inr rfl
      · exact leastOf_mem

/-- What holds of the versions after a run. -/
lemma collected_foldl (key : α → ι) (value : α → β) (rank : α → ρ) (items : List α) :
    Collected key value items (items.foldl (collect key value rank) ([], [])) := by
  induction items using List.reverseRecOn with
  | nil => exact Collected.nil
  | append_singleton items item ih =>
    rw [List.foldl_append]
    exact ih.step item

end Run

section Order
variable [DecidableEq ι] [DecidableEq β] {key : α → ι} {value : α → β} {rank : α → ρ}

/-- Every kept version is of least rank among the versions seen. -/
def LeastKept (key : α → ι) (rank : α → ρ) (seen : List α) (known : List α × List ι) : Prop :=
  ∀ kept ∈ known.1, ∀ item ∈ seen, key item = key kept → rank kept ≤ rank item

/-- Where versions of one value are one, a step keeps the least ranks. -/
lemma LeastKept.step {seen : List α} {known : List α × List ι}
    (collected : Collected key value seen known) (least : LeastKept key rank seen known) {item : α}
    (single : ∀ a ∈ seen, value a = value item → a = item) :
    LeastKept key rank (seen ++ [item]) (collect key value rank known item) := by
  intro kept memK other memO same
  rw [collect] at memK
  cases found : known.1.find? (key · = key item) with
  | none =>
    rw [found] at memK
    rw [List.find?_eq_none] at found
    have new : ∀ version ∈ known.1, key version ≠ key item := by
      intro version mem eq
      exact found version mem (decide_eq_true eq)
    rcases List.mem_append.mp memK with oldK | ownK
    · rcases List.mem_append.mp memO with oldO | ownO
      · exact least kept oldK other oldO same
      · rw [List.mem_singleton.mp ownO] at same
        exact absurd same.symm (new kept oldK)
    · rw [List.mem_singleton.mp ownK] at same ⊢
      rcases List.mem_append.mp memO with oldO | ownO
      · obtain ⟨version, mem, eq⟩ := collected.covers other oldO
        exact absurd (eq.trans same) (new version mem)
      · rw [List.mem_singleton.mp ownO]
  | some previous =>
    rw [found] at memK
    have memP := List.mem_of_find?_eq_some found
    have keyP : key previous = key item := by simpa using List.find?_some found
    obtain ⟨version, memV, shown⟩ := List.mem_map.mp memK
    by_cases at' : key version = key item
    · rw [if_pos at'] at shown
      -- the version that stays ranks no higher than the previous one and the new one
      have low : rank kept ≤ rank previous ∧ rank kept ≤ rank item := by
        rw [← shown]
        split
        · rename_i agree
          rw [single previous (collected.sub memP) agree]
          exact ⟨le_rfl, le_rfl⟩
        · rw [leastOf]
          split
          · rename_i lt
            exact ⟨lt.le, le_rfl⟩
          · rename_i le
            exact ⟨le_rfl, not_lt.mp le⟩
      have keyK : key kept = key item := by
        rw [← shown]
        split
        · rfl
        · exact key_leastOf keyP
      rcases List.mem_append.mp memO with oldO | ownO
      · exact low.1.trans (least previous memP other oldO (same.trans (keyK.trans keyP.symm)))
      · rw [List.mem_singleton.mp ownO]
        exact low.2
    · rw [if_neg at'] at shown
      rw [← shown] at same ⊢
      rcases List.mem_append.mp memO with oldO | ownO
      · exact least version memV other oldO same
      · rw [List.mem_singleton.mp ownO] at same
        exact absurd same.symm at'

/-- Collecting keeps the least of every key. -/
lemma leastKept_foldl {items : List α}
    (single : ∀ a ∈ items, ∀ b ∈ items, value a = value b → a = b) :
    LeastKept key rank items (items.foldl (collect key value rank) ([], [])) := by
  induction items using List.reverseRecOn with
  | nil =>
    intro kept mem
    cases mem
  | append_singleton items item ih =>
    rw [List.foldl_append]
    have own := List.mem_append_right items (List.mem_singleton_self item)
    refine LeastKept.step (collected_foldl key value rank items) (ih ?_) ?_
    · intro a memA b memB
      exact single a (List.mem_append_left _ memA) b (List.mem_append_left _ memB)
    · intro a memA
      exact single a (List.mem_append_left _ memA) item own

/-- Where versions of one value are one and ranks tell the versions of a key apart, runs over the same items
keep the same versions. -/
lemma collect_perm {items items' : List α} (single : ∀ a ∈ items, ∀ b ∈ items, value a = value b → a = b)
    (ranks : ∀ a ∈ items, ∀ b ∈ items, key a = key b → rank a = rank b → a = b)
    (same : ∀ a, a ∈ items' ↔ a ∈ items) :
    (items'.foldl (collect key value rank) ([], [])).1.Perm
      (items.foldl (collect key value rank) ([], [])).1 := by
  have single' : ∀ a ∈ items', ∀ b ∈ items', value a = value b → a = b := by
    intro a memA b memB
    exact single a ((same a).mp memA) b ((same b).mp memB)
  have least := @leastKept_foldl _ _ _ _ _ _ _ key value rank _ single
  have least' := @leastKept_foldl _ _ _ _ _ _ _ key value rank _ single'
  have run := collected_foldl key value rank items
  have run' := collected_foldl key value rank items'
  -- the version kept by one run is the one the other keeps of its key
  have transfer : ∀ {l l' : List α} {known known' : List α × List ι}, Collected key value l known →
      Collected key value l' known' → LeastKept key rank l known → LeastKept key rank l' known' →
      (∀ a, a ∈ l ↔ a ∈ l') → (∀ a, a ∈ l → a ∈ items) → known.1 ⊆ known'.1 := by
    intro l l' known known' collected collected' low low' members own a mem
    obtain ⟨b, memB, eq⟩ := collected'.covers a ((members a).mp (collected.sub mem))
    have seenA := collected.sub mem
    have seenB := (members b).mpr (collected'.sub memB)
    have le := low a mem b seenB eq
    have ge := low' b memB a ((members a).mp seenA) eq.symm
    rw [ranks a (own a seenA) b (own b seenB) eq.symm (le_antisymm le ge)]
    exact memB
  apply (List.perm_ext_iff_of_nodup (List.Nodup.of_map _ run'.keys) (List.Nodup.of_map _ run.keys)).mpr
  intro a
  constructor
  · intro mem
    exact transfer run' run least' least same (fun b => (same b).mp) mem
  · intro mem
    exact transfer run run' least least' (fun b => (same b).symm) (fun b memB => memB) mem

end Order

end Jaull.Lib
