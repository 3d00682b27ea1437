import Mathlib.Data.List.Basic
import Mathlib.Tactic.Common

/-!
# Dictionaries

A Python dictionary as the list of its entries in insertion order, read with `List.lookup`.
-/

namespace Jaull.Lib

universe u v
variable {κ : Type u} {β : Type v} [DecidableEq κ] {k k' : κ} {b : β} {d : List (κ × β)}

/-- Python `d[k] = b`: a key that is there keeps its place. -/
def dictSet (d : List (κ × β)) (k : κ) (b : β) : List (κ × β) :=
  match d with
  | [] => [(k, b)]
  | (k', b') :: rest => if k' = k then (k, b) :: rest else (k', b') :: dictSet rest k b

/-- Python `d.pop(k, None)`. -/
def dictPop (d : List (κ × β)) (k : κ) : List (κ × β) :=
  d.filter (·.1 ≠ k)

/-- A key that is not there goes to the end. -/
lemma dictSet_of_notMem (fresh : k ∉ d.map Prod.fst) : dictSet d k b = d ++ [(k, b)] := by
  induction d with
  | nil => rfl
  | cons entry rest ih =>
    obtain ⟨l, b'⟩ := entry
    rw [List.map_cons, List.mem_cons, not_or] at fresh
    rw [dictSet, if_neg (Ne.symm fresh.1), ih fresh.2]
    rfl

/-- Popping a key that is not there changes nothing. -/
lemma dictPop_of_notMem (absent : k ∉ d.map Prod.fst) : dictPop d k = d := by
  rw [dictPop, List.filter_eq_self]
  intro entry mem
  apply decide_eq_true
  intro same
  exact absent (same ▸ List.mem_map_of_mem mem)

/-- The keys after setting one: those that were there, and it. -/
lemma mem_keys_dictSet : k' ∈ (dictSet d k b).map Prod.fst ↔ k' ∈ d.map Prod.fst ∨ k' = k := by
  induction d with
  | nil => simp [dictSet]
  | cons entry rest ih =>
    obtain ⟨l, b'⟩ := entry
    rw [dictSet]
    split
    · rename_i same
      subst same
      rw [List.map_cons, List.map_cons, List.mem_cons]
      exact ⟨.inl, fun mem => mem.elim id .inl⟩
    · rw [List.map_cons, List.map_cons, List.mem_cons, List.mem_cons, ih, or_assoc]

/-- Setting a key keeps the keys apart. -/
lemma nodup_dictSet (nodup : (d.map Prod.fst).Nodup) : ((dictSet d k b).map Prod.fst).Nodup := by
  induction d with
  | nil => exact List.nodup_cons.mpr ⟨List.not_mem_nil, List.nodup_nil⟩
  | cons entry rest ih =>
    obtain ⟨l, b'⟩ := entry
    rw [List.map_cons, List.nodup_cons] at nodup
    rw [dictSet]
    split
    · rename_i same
      subst same
      exact List.nodup_cons.mpr nodup
    · rename_i other
      refine List.nodup_cons.mpr ⟨?_, ih nodup.2⟩
      intro mem
      rcases mem_keys_dictSet.mp mem with there | same
      · exact nodup.1 there
      · exact other same

/-- What is popped, and what is left. -/
lemma perm_dictPop (nodup : (d.map Prod.fst).Nodup) (mem : (k, b) ∈ d) :
    d.Perm ((k, b) :: dictPop d k) := by
  induction d with
  | nil => cases mem
  | cons entry rest ih =>
    rw [List.map_cons, List.nodup_cons] at nodup
    rcases List.mem_cons.mp mem with rfl | mem
    · have own : dictPop ((k, b) :: rest) k = dictPop rest k :=
        List.filter_cons_of_neg (by simp)
      rw [own, dictPop_of_notMem nodup.1]
    · have other : entry.1 ≠ k := by
        intro same
        exact nodup.1 (same ▸ List.mem_map_of_mem mem)
      have kept : dictPop (entry :: rest) k = entry :: dictPop rest k :=
        List.filter_cons_of_pos (decide_eq_true other)
      rw [kept]
      exact ((ih nodup.2 mem).cons entry).trans (List.Perm.swap _ _ _)

section Lookup
variable [BEq κ] [LawfulBEq κ]

omit [DecidableEq κ] in
/-- Another key is looked up in the rest. -/
lemma lookup_cons_ne (ne : k' ≠ k) : ((k, b) :: d).lookup k' = d.lookup k' := by
  rw [List.lookup_cons, beq_false_of_ne ne]

omit [DecidableEq κ] in
/-- Where the keys differ, a lookup finds the entry of its key. -/
lemma lookup_of_mem (nodup : (d.map Prod.fst).Nodup) (mem : (k, b) ∈ d) : d.lookup k = some b := by
  induction d with
  | nil => cases mem
  | cons entry rest ih =>
    rw [List.map_cons, List.nodup_cons] at nodup
    rcases List.mem_cons.mp mem with rfl | mem
    · exact List.lookup_cons_self
    · have apart : k ≠ entry.1 := by
        intro same
        exact nodup.1 (same ▸ List.mem_map_of_mem mem)
      rw [lookup_cons_ne apart, ih nodup.2 mem]

/-- What was set is looked up. -/
@[simp] lemma lookup_dictSet_self : (dictSet d k b).lookup k = some b := by
  induction d with
  | nil => exact List.lookup_cons_self
  | cons entry rest ih =>
    obtain ⟨l, b'⟩ := entry
    rw [dictSet]
    split
    · exact List.lookup_cons_self
    · rename_i other
      rw [lookup_cons_ne (Ne.symm other), ih]

/-- Setting a key changes no other. -/
lemma lookup_dictSet_ne (ne : k' ≠ k) : (dictSet d k b).lookup k' = d.lookup k' := by
  induction d with
  | nil => exact lookup_cons_ne ne
  | cons entry rest ih =>
    obtain ⟨l, b'⟩ := entry
    rw [dictSet]
    split
    · rename_i same
      rw [same, lookup_cons_ne ne, lookup_cons_ne ne]
    · rw [List.lookup_cons, List.lookup_cons, ih]

/-- What was popped is gone. -/
@[simp] lemma lookup_dictPop_self : (dictPop d k).lookup k = none := by
  rw [List.lookup_eq_none_iff]
  intro entry mem
  have kept : entry.1 ≠ k := of_decide_eq_true (List.mem_filter.mp mem).2
  exact bne_iff_ne.mpr kept.symm

/-- Popping a key changes no other. -/
lemma lookup_dictPop_ne (ne : k' ≠ k) : (dictPop d k).lookup k' = d.lookup k' := by
  induction d with
  | nil => rfl
  | cons entry rest ih =>
    obtain ⟨l, b'⟩ := entry
    by_cases same : l = k
    · have dropped : dictPop ((l, b') :: rest) k = dictPop rest k :=
        List.filter_cons_of_neg (by simpa using same)
      rw [dropped, ih, same, lookup_cons_ne ne]
    · have kept : dictPop ((l, b') :: rest) k = (l, b') :: dictPop rest k :=
        List.filter_cons_of_pos (by simpa using same)
      rw [kept, List.lookup_cons, List.lookup_cons, ih]

omit [DecidableEq κ] in
/-- What a filter of the keys leaves. -/
lemma lookup_filter_key (keep : κ → Bool) :
    (d.filter fun entry => keep entry.1).lookup k = if keep k then d.lookup k else none := by
  induction d with
  | nil => rw [List.filter_nil, List.lookup_nil, ite_self]
  | cons entry rest ih =>
    obtain ⟨l, b'⟩ := entry
    rw [List.filter_cons]
    by_cases same : k = l
    · subst same
      by_cases kept : keep k
      · rw [if_pos kept, if_pos kept, List.lookup_cons_self, List.lookup_cons_self]
      · rw [if_neg kept, ih, if_neg kept, if_neg kept]
    · rw [lookup_cons_ne same]
      by_cases kept : keep l
      · rw [if_pos kept, lookup_cons_ne same, ih]
      · rw [if_neg kept, ih]

omit [DecidableEq κ] in
/-- What a lookup finds is an entry. -/
lemma mem_of_lookup (found : d.lookup k = some b) : (k, b) ∈ d := by
  induction d with
  | nil => cases found
  | cons entry rest ih =>
    obtain ⟨k', b'⟩ := entry
    rw [List.lookup_cons] at found
    by_cases same : k = k'
    · subst same
      simp only [BEq.rfl] at found
      rw [Option.some.inj found]
      exact List.mem_cons_self
    · rw [beq_false_of_ne same] at found
      exact List.mem_cons_of_mem _ (ih found)

omit [DecidableEq κ] in
/-- A key that is there is found. -/
lemma isSome_lookup_of_key (mem : k ∈ d.map Prod.fst) : (d.lookup k).isSome := by
  obtain ⟨entry, there, rfl⟩ := List.mem_map.mp mem
  by_contra missing
  rw [Option.not_isSome_iff_eq_none, List.lookup_eq_none_iff] at missing
  exact bne_iff_ne.mp (missing entry there) rfl

omit [DecidableEq κ] in
/-- Rearranged entries of distinct keys are looked up alike. -/
lemma lookup_eq_of_perm {d' : List (κ × β)} (perm : d'.Perm d) (nodup : (d.map Prod.fst).Nodup) :
    d'.lookup k = d.lookup k := by
  have nodup' : (d'.map Prod.fst).Nodup := (perm.map Prod.fst).nodup_iff.mpr nodup
  cases found : d.lookup k with
  | some b => exact lookup_of_mem nodup' (perm.mem_iff.mpr (mem_of_lookup found))
  | none =>
    rw [List.lookup_eq_none_iff] at found ⊢
    exact fun entry mem => found entry (perm.mem_iff.mp mem)

section Comprehension
variable {α : Type*} {key : α → κ} {value : α → β}

/-- `{key(a): value(a) for a in list}`, added to a dictionary. -/
def dictComprehension (key : α → κ) (value : α → β) (l : List α) (d : List (κ × β)) : List (κ × β) :=
  l.foldl (fun d a => dictSet d (key a) (value a)) d

/-- Every entry is an earlier one or comes from a member. -/
lemma lookup_dictComprehension {l : List α}
    (found : (dictComprehension key value l d).lookup k = some b) :
    d.lookup k = some b ∨ ∃ a ∈ l, key a = k ∧ value a = b := by
  induction l generalizing d with
  | nil => exact .inl found
  | cons a rest ih =>
    rcases ih found with earlier | ⟨a', mem, same⟩
    · by_cases same : k = key a
      · subst same
        rw [lookup_dictSet_self] at earlier
        exact .inr ⟨a, List.mem_cons_self, rfl, Option.some.inj earlier⟩
      · rw [lookup_dictSet_ne same] at earlier
        exact .inl earlier
    · exact .inr ⟨a', List.mem_cons_of_mem a mem, same⟩

/-- The last of the members of a key decides. -/
lemma lookup_dictComprehension_entries {l : List (κ × β)} :
    (dictComprehension Prod.fst Prod.snd l d).lookup k = (l.reverse.lookup k).or (d.lookup k) := by
  induction l generalizing d with
  | nil => rfl
  | cons entry rest ih =>
    obtain ⟨l, b'⟩ := entry
    change (dictComprehension Prod.fst Prod.snd rest (dictSet d l b')).lookup k = _
    rw [ih, List.reverse_cons, List.lookup_append, Option.or_assoc]
    by_cases same : k = l
    · rw [same, lookup_dictSet_self, List.lookup_cons_self, Option.some_or]
    · rw [lookup_dictSet_ne same, lookup_cons_ne same, List.lookup_nil, Option.none_or]

omit [BEq κ] [LawfulBEq κ] in
/-- The keys of a comprehension differ. -/
lemma nodup_dictComprehension {l : List α} (nodup : (d.map Prod.fst).Nodup) :
    ((dictComprehension key value l d).map Prod.fst).Nodup := by
  induction l generalizing d with
  | nil => exact nodup
  | cons a rest ih => exact ih (nodup_dictSet nodup)

/-- A key that is there stays there. -/
lemma isSome_lookup_dictComprehension {l : List α} (there : (d.lookup k).isSome) :
    ((dictComprehension key value l d).lookup k).isSome := by
  induction l generalizing d with
  | nil => exact there
  | cons a rest ih =>
    apply ih
    by_cases same : k = key a
    · rw [same, lookup_dictSet_self]
      rfl
    · rw [lookup_dictSet_ne same]
      exact there

/-- Every member's key is there. -/
lemma isSome_lookup_of_mem {l : List α} {a : α} (mem : a ∈ l) :
    ((dictComprehension key value l d).lookup (key a)).isSome := by
  induction l generalizing d with
  | nil => cases mem
  | cons b rest ih =>
    rcases List.mem_cons.mp mem with rfl | mem
    · have there : ((dictSet d (key a) (value a)).lookup (key a)).isSome := by
        rw [lookup_dictSet_self]
        rfl
      exact isSome_lookup_dictComprehension (l := rest) there
    · exact ih mem

end Comprehension

end Lookup

end Jaull.Lib
