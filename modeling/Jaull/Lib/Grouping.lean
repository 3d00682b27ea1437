import Jaull.Lib.Dict
import Mathlib.Data.List.Induction
import Mathlib.Data.List.Nodup
import Mathlib.Tactic.Common

/-!
# Grouping under keys, and runs

`groups.setdefault(key, []).append(item)` over a list of items: an association list whose keys stand
in the order of their first item (`mem_grouped` says what each group holds). `runs` numbers the
contiguous runs of equal values of a list.
-/

namespace Jaull.Lib

universe u v w
variable {ι : Type u} {κ : Type v} [DecidableEq κ]

/-- `groups.setdefault(key, []).append(item)`. -/
def addTo : List (κ × List ι) → κ → ι → List (κ × List ι)
  | [], key, item => [(key, [item])]
  | (k, items) :: rest, key, item =>
    if k = key then (k, items ++ [item]) :: rest else (k, items) :: addTo rest key item

/-- The items that have a key, grouped under it. -/
def grouped (key : ι → Option κ) (items : List ι) : List (κ × List ι) :=
  items.foldl (fun groups item =>
    match key item with
    | none => groups
    | some k => addTo groups k item) []

/-- Adding creates a key at the end, or none. -/
lemma keys_addTo (groups : List (κ × List ι)) (key : κ) (item : ι) :
    (addTo groups key item).map Prod.fst =
      if key ∈ groups.map Prod.fst then groups.map Prod.fst else groups.map Prod.fst ++ [key] := by
  induction groups with
  | nil => rfl
  | cons group rest ih =>
    obtain ⟨k, items⟩ := group
    rw [addTo]
    by_cases same : k = key
    · simp [same]
    · rw [if_neg same, List.map_cons, ih]
      have ne : key ≠ k := fun h => same h.symm
      by_cases mem : key ∈ rest.map Prod.fst
      · simp [mem]
      · simp [mem, ne]

/-- Adding an item repeats no key. -/
lemma nodup_keys_addTo {groups : List (κ × List ι)} (nodup : (groups.map Prod.fst).Nodup)
    (key : κ) (item : ι) : ((addTo groups key item).map Prod.fst).Nodup := by
  rw [keys_addTo]
  split
  case isTrue => exact nodup
  case isFalse absent =>
    rw [List.nodup_append]
    refine ⟨nodup, List.nodup_singleton key, ?_⟩
    intro k mem k' mem' same
    rw [List.mem_singleton] at mem'
    subst mem' same
    exact absent mem

/-- What a group holds after adding: the group of the key gains the item, the others stay. -/
lemma mem_addTo {groups : List (κ × List ι)} (nodup : (groups.map Prod.fst).Nodup) {key k : κ}
    {item : ι} {items : List ι} :
    (k, items) ∈ addTo groups key item ↔
      (k ≠ key ∧ (k, items) ∈ groups) ∨
      (k = key ∧ ((∃ old, (key, old) ∈ groups ∧ items = old ++ [item]) ∨
        (key ∉ groups.map Prod.fst ∧ items = [item]))) := by
  induction groups with
  | nil =>
    simp [addTo]
  | cons group rest ih =>
    obtain ⟨k₀, old⟩ := group
    rw [List.map_cons, List.nodup_cons] at nodup
    obtain ⟨fresh, nodup⟩ := nodup
    rw [addTo]
    by_cases same : k₀ = key
    · subst same
      have others : ∀ xs, (k₀, xs) ∉ rest :=
        fun xs mem => fresh (List.mem_map.mpr ⟨(k₀, xs), mem, rfl⟩)
      rw [if_pos rfl]
      by_cases at_key : k = k₀
      · subst at_key
        simp [others]
      · simp [at_key]
    · rw [if_neg same, List.mem_cons, List.mem_cons, ih nodup]
      have ne : key ≠ k₀ := fun h => same h.symm
      by_cases at_key : k = key
      · subst at_key
        simp [ne]
      · simp [at_key]

/-- A new item ends the pass. -/
lemma grouped_append (key : ι → Option κ) (items : List ι) (item : ι) :
    grouped key (items ++ [item]) =
      match key item with
      | none => grouped key items
      | some k => addTo (grouped key items) k item := by
  rw [grouped, List.foldl_append]
  rfl

/-- No key is listed twice. -/
lemma nodup_keys_grouped (key : ι → Option κ) (items : List ι) :
    ((grouped key items).map Prod.fst).Nodup := by
  induction items using List.reverseRecOn with
  | nil => exact List.nodup_nil
  | append_singleton items item ih =>
    rw [grouped_append]
    cases key item with
    | none => exact ih
    | some k => exact nodup_keys_addTo ih k item

/-- A group holds the items of its key, in their order, and there is one for every key met. -/
theorem mem_grouped {key : ι → Option κ} {items xs : List ι} {k : κ} :
    (k, xs) ∈ grouped key items ↔ xs = items.filter (key · = some k) ∧ xs ≠ [] := by
  induction items using List.reverseRecOn generalizing xs with
  | nil =>
    simp [grouped]
  | append_singleton items item ih =>
    rw [grouped_append, List.filter_append]
    cases at_item : key item with
    | none => simpa [at_item] using ih
    | some k' =>
      have nodup := nodup_keys_grouped key items
      change (k, xs) ∈ addTo (grouped key items) k' item ↔ _
      rw [mem_addTo nodup]
      by_cases same : k = k'
      · subst same
        have absent : k ∉ (grouped key items).map Prod.fst ↔
            items.filter (key · = some k) = [] := by
          constructor
          · intro no
            by_contra some
            exact no (List.mem_map.mpr ⟨_, ih.mpr ⟨rfl, some⟩, rfl⟩)
          · rintro empty mem
            obtain ⟨⟨k', ys⟩, memG, eq⟩ := List.mem_map.mp mem
            cases eq
            obtain ⟨eq, ne⟩ := ih.mp memG
            exact ne (eq.trans empty)
        rw [absent]
        simp only [at_item, ne_eq, not_true_eq_false, false_and, true_and, false_or,
          List.filter_cons, List.filter_nil, decide_true, if_true]
        constructor
        · rintro (⟨old, memG, rfl⟩ | ⟨empty, rfl⟩)
          · obtain ⟨eq, _⟩ := ih.mp memG
            rw [eq]
            exact ⟨rfl, by simp⟩
          · rw [empty]
            exact ⟨rfl, by simp⟩
        · rintro ⟨rfl, _⟩
          by_cases empty : items.filter (key · = some k) = []
          · exact .inr ⟨empty, by rw [empty]; rfl⟩
          · exact .inl ⟨_, ih.mpr ⟨rfl, empty⟩, rfl⟩
      · have ne : k' ≠ k := fun h => same h.symm
        have other : [item].filter (key · = some k) = [] := by
          simp [at_item, ne]
        rw [other, List.append_nil, ← ih]
        simp [same]

/-- What is found under a key are its items. -/
lemma getD_lookup_grouped (key : ι → Option κ) (items : List ι) (k : κ) :
    ((grouped key items).lookup k).getD [] = items.filter (key · = some k) := by
  cases found : (grouped key items).lookup k with
  | none =>
    by_contra some
    have mem := mem_grouped.mpr ⟨rfl, fun empty => some empty.symm⟩
    exact absurd (List.lookup_eq_none_iff.mp found _ mem) (by simp)
  | some xs => exact (mem_grouped.mp (mem_of_lookup found)).1

/-- Adding an item adds it to the items of all groups. -/
lemma flatMap_addTo (groups : List (κ × List ι)) (key : κ) (item : ι) :
    ((addTo groups key item).flatMap Prod.snd).Perm (item :: groups.flatMap Prod.snd) := by
  induction groups with
  | nil => exact List.Perm.refl _
  | cons group rest ih =>
    obtain ⟨k, items⟩ := group
    rw [addTo]
    split
    · rw [List.flatMap_cons, List.flatMap_cons, List.append_assoc]
      exact List.perm_middle
    · rw [List.flatMap_cons, List.flatMap_cons]
      exact (ih.append_left items).trans List.perm_middle

/-- The groups hold every item that has a key once. -/
lemma flatMap_grouped_filter (key : ι → Option κ) (items : List ι) :
    ((grouped key items).flatMap Prod.snd).Perm (items.filter fun item => (key item).isSome) := by
  induction items using List.reverseRecOn with
  | nil => exact List.Perm.refl _
  | append_singleton items item ih =>
    rw [grouped_append, List.filter_append]
    cases at_item : key item with
    | none =>
      rw [List.filter_cons_of_neg (by rw [at_item]; exact Bool.false_ne_true), List.filter_nil, List.append_nil]
      exact ih
    | some k =>
      rw [List.filter_cons_of_pos (by rw [at_item]; rfl), List.filter_nil]
      refine (flatMap_addTo _ _ _).trans ((ih.cons item).trans ?_)
      exact (List.perm_append_singleton item _).symm

/-- The groups hold every item once. -/
lemma flatMap_grouped (key : ι → κ) (items : List ι) :
    ((grouped (fun item => some (key item)) items).flatMap Prod.snd).Perm items := by
  have perm := flatMap_grouped_filter (fun item => some (key item)) items
  have all : (items.filter fun item => (some (key item)).isSome) = items := List.filter_eq_self.mpr fun _ _ => rfl
  rw [all] at perm
  exact perm

/-- Rewriting the groups. -/
lemma lookup_map_group {β γ : Type*} (f : β → γ) (groups : List (κ × β)) (k : κ) :
    (groups.map fun group => (group.1, f group.2)).lookup k = (groups.lookup k).map f := by
  induction groups with
  | nil => rfl
  | cons group rest ih =>
    rw [List.map_cons, List.lookup_cons, List.lookup_cons, ih]
    split
    · rfl
    · rfl

/-- Rearranging every group rearranges what they hold. -/
lemma flatMap_map_group_perm {f : List ι → List ι} (perm : ∀ items, (f items).Perm items)
    (groups : List (κ × List ι)) :
    ((groups.map fun group => (group.1, f group.2)).flatMap Prod.snd).Perm (groups.flatMap Prod.snd) := by
  induction groups with
  | nil => exact List.Perm.refl _
  | cons group rest ih =>
    rw [List.map_cons, List.flatMap_cons, List.flatMap_cons]
    exact (perm group.2).append ih

section Runs
variable {σ : Type w} [DecidableEq σ]

/-- The run number of each value after a value `previous` of run `run`: a change of value starts the
next run. -/
def runsFrom : ℕ → σ → List σ → List ℕ
  | _, _, [] => []
  | run, previous, value :: rest =>
    let run' := if value = previous then run else run + 1
    run' :: runsFrom run' value rest

/-- The run number of each value, from 0. -/
def runs : List σ → List ℕ
  | [] => []
  | value :: rest => 0 :: runsFrom 0 value rest

@[simp]
lemma length_runsFrom (run : ℕ) (previous : σ) (values : List σ) :
    (runsFrom run previous values).length = values.length := by
  induction values generalizing run previous with
  | nil => rfl
  | cons value rest ih => simp [runsFrom, ih]

@[simp]
lemma length_runs (values : List σ) : (runs values).length = values.length := by
  cases values with
  | nil => rfl
  | cons value rest => simp [runs]

/-- Runs are numbered upwards, and within the run of `previous` the value does not change. -/
lemma runsFrom_getElem {run : ℕ} {previous : σ} {values : List σ} {i n : ℕ} {value : σ}
    (at_run : (runsFrom run previous values)[i]? = some n) (at_i : values[i]? = some value) :
    run ≤ n ∧ (n = run → value = previous) := by
  induction values generalizing run previous i with
  | nil => simp at at_i
  | cons head rest ih =>
    rw [runsFrom] at at_run
    cases i with
    | zero =>
      simp only [List.getElem?_cons_zero, Option.some.injEq] at at_run at_i
      subst at_run at_i
      by_cases same : head = previous
      · simp [same]
      · simp [same]
    | succ i =>
      simp only [List.getElem?_cons_succ] at at_run at_i
      obtain ⟨le, const⟩ := ih at_run at_i
      by_cases same : head = previous
      · rw [if_pos same] at le const
        exact ⟨le, fun eq => (const eq).trans same⟩
      · rw [if_neg same] at le
        exact ⟨by omega, by omega⟩

/-- Values of one run are equal. -/
lemma runsFrom_eq {run : ℕ} {previous : σ} {values : List σ} {i j n : ℕ} {a b : σ}
    (run_i : (runsFrom run previous values)[i]? = some n)
    (run_j : (runsFrom run previous values)[j]? = some n)
    (at_i : values[i]? = some a) (at_j : values[j]? = some b) : a = b := by
  induction values generalizing run previous i j with
  | nil => simp at at_i
  | cons head rest ih =>
    rw [runsFrom] at run_i run_j
    cases i with
    | zero =>
      simp only [List.getElem?_cons_zero, Option.some.injEq] at run_i at_i
      subst at_i
      cases j with
      | zero => simpa using at_j
      | succ j =>
        simp only [List.getElem?_cons_succ] at run_j at_j
        exact ((runsFrom_getElem run_j at_j).2 run_i.symm).symm
    | succ i =>
      simp only [List.getElem?_cons_succ] at run_i at_i
      cases j with
      | zero =>
        simp only [List.getElem?_cons_zero, Option.some.injEq] at run_j at_j
        subst at_j
        exact (runsFrom_getElem run_i at_i).2 run_j.symm
      | succ j =>
        simp only [List.getElem?_cons_succ] at run_j at_j
        exact ih run_i run_j at_i at_j

/-- One run, one value. -/
lemma runs_eq {values : List σ} {i j n : ℕ} {a b : σ}
    (run_i : (runs values)[i]? = some n) (run_j : (runs values)[j]? = some n)
    (at_i : values[i]? = some a) (at_j : values[j]? = some b) : a = b := by
  cases values with
  | nil => simp at at_i
  | cons head rest =>
    have restart : runs (head :: rest) = runsFrom 0 head (head :: rest) := by
      simp [runs, runsFrom]
    rw [restart] at run_i run_j
    exact runsFrom_eq run_i run_j at_i at_j

end Runs

end Jaull.Lib
