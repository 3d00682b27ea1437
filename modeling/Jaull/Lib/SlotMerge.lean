import Mathlib.Data.List.Nodup
import Mathlib.Tactic.Common

/-!
# Merging reports into a list

Reports are merged into a list one after the other: each is added to the entry that it is recognised as, or
becomes an entry of its own. What an update keeps is kept by a whole run (`mergeAll_keeps`), and an entry
goes on to reflect every report that was merged into it (`mergeAll_reflects`). Two reports end in one entry
exactly when one of them is recognised as the entry of an earlier one (`places_nodup_iff`), which does not happen
where no two reports are alike and no two are like one entry (`apart_of_told`).
-/

namespace Jaull.Lib

universe u v

/-- Which entry a report is recognised as, what is made of that entry, and the entry of a report that is
new. -/
structure SlotMerge (α : Type u) (β : Type v) where
  find : List α → β → Option ℕ
  update : α → β → α
  fresh : β → α
  find_lt : ∀ {l b i}, find l b = some i → i < l.length

namespace SlotMerge
variable {α : Type u} {β : Type v} (m : SlotMerge α β)

/-- One report is merged. -/
def merge (l : List α) (b : β) : List α :=
  match m.find l b with
  | some i => l.modify i (m.update · b)
  | none => l ++ [m.fresh b]

/-- All reports are merged, in order. -/
def mergeAll (l : List α) (bs : List β) : List α :=
  bs.foldl m.merge l

/-- The entry that a report goes to. -/
def place (l : List α) (b : β) : ℕ :=
  (m.find l b).getD l.length

/-- The entries that the reports go to. -/
def places : List α → List β → List ℕ
  | _, [] => []
  | l, b :: rest => m.place l b :: places (m.merge l b) rest

/-- No report is recognised as an entry that an earlier one went to, or that is already taken. -/
def Apart : List α → List ℕ → List β → Prop
  | _, _, [] => True
  | l, taken, b :: rest =>
    (∀ i ∈ taken, m.find l b ≠ some i) ∧ Apart (m.merge l b) (m.place l b :: taken) rest

variable {m} {l : List α} {b : β} {bs : List β} {i : ℕ} {a : α}

@[simp] lemma places_length : (m.places l bs).length = bs.length := by
  induction bs generalizing l with
  | nil => rfl
  | cons b rest ih => rw [places, List.length_cons, List.length_cons, ih]

section Keeping
variable {R : α → α → Prop} (refl : ∀ a, R a a)
  (step : ∀ l b i a, m.find l b = some i → l[i]? = some a → R a (m.update a b))
include refl step

/-- An entry stays where it is, related to what it was. -/
lemma merge_keeps (there : l[i]? = some a) : ∃ a', (m.merge l b)[i]? = some a' ∧ R a a' := by
  rw [merge]
  cases found : m.find l b with
  | none =>
    refine ⟨a, ?_, refl a⟩
    have lt : i < l.length := (List.getElem?_eq_some_iff.mp there).1
    exact (List.getElem?_append_left lt).trans there
  | some j =>
    by_cases same : j = i
    · subst same
      refine ⟨m.update a b, ?_, step l b j a found there⟩
      exact (List.getElem?_modify_eq _ j l).trans (by rw [there]; rfl)
    · refine ⟨a, ?_, refl a⟩
      exact (List.getElem?_modify_ne _ l same).trans there

/-- So it does in a whole run. -/
lemma mergeAll_keeps (trans : ∀ a b c, R a b → R b c → R a c) (there : l[i]? = some a) :
    ∃ a', (m.mergeAll l bs)[i]? = some a' ∧ R a a' := by
  induction bs generalizing l a with
  | nil => exact ⟨a, there, refl a⟩
  | cons b rest ih =>
    obtain ⟨middle, still, first⟩ : ∃ a', (m.merge l b)[i]? = some a' ∧ R a a' :=
      merge_keeps refl step there
    obtain ⟨last, end', then'⟩ := ih still
    exact ⟨last, end', trans a middle last first then'⟩

/-- The entry that a report goes to reflects it at the end of the run. -/
lemma mergeAll_reflects {S : α → β → Prop} (trans : ∀ a b c, R a b → R b c → R a c)
    (new : ∀ b, S (m.fresh b) b)
    (merged : ∀ l b i a, m.find l b = some i → l[i]? = some a → S (m.update a b) b)
    (stays : ∀ a a' b, R a a' → S a b → S a' b) {k : ℕ} (report : bs[k]? = some b)
    (goes : (m.places l bs)[k]? = some i) : ∃ a, (m.mergeAll l bs)[i]? = some a ∧ S a b := by
  induction bs generalizing l k with
  | nil => cases report
  | cons first rest ih =>
    cases k with
    | succ k => exact ih report goes
    | zero =>
      cases report
      cases goes
      have now : ∃ a, (m.merge l b)[m.place l b]? = some a ∧ S a b := by
        rw [merge, place]
        cases found : m.find l b with
        | none =>
          refine ⟨m.fresh b, ?_, new b⟩
          exact List.getElem?_concat_length
        | some j =>
          have lt := m.find_lt found
          refine ⟨m.update l[j] b, ?_, merged l b j l[j] found (List.getElem?_eq_getElem lt)⟩
          exact (List.getElem?_modify_eq _ j l).trans (by rw [List.getElem?_eq_getElem lt]; rfl)
      obtain ⟨a, there, reflects⟩ := now
      obtain ⟨a', end', then'⟩ : ∃ a', (m.mergeAll (m.merge l b) rest)[m.place l b]? = some a' ∧ R a a' :=
        mergeAll_keeps refl step trans there
      exact ⟨a', end', stays a a' b then' reflects⟩

end Keeping

/-- An entry of a merged list: one that was there, or the one that the report went to. -/
lemma merge_cases (there : (m.merge l b)[i]? = some a) :
    i ≠ m.place l b ∧ l[i]? = some a ∨ i = m.place l b ∧
      (a = m.fresh b ∨ ∃ a', m.find l b = some i ∧ l[i]? = some a' ∧ a = m.update a' b) := by
  rw [merge] at there
  rw [place]
  cases found : m.find l b with
  | none =>
    rw [found] at there
    rw [Option.getD_none]
    by_cases last : i = l.length
    · subst last
      rw [List.getElem?_concat_length] at there
      exact .inr ⟨rfl, .inl (Option.some.inj there).symm⟩
    · have lt := (List.getElem?_eq_some_iff.mp there).1
      rw [List.length_append, List.length_singleton] at lt
      rw [List.getElem?_append_left (by omega)] at there
      exact .inl ⟨last, there⟩
  | some j =>
    rw [found] at there
    dsimp only at there
    rw [Option.getD_some]
    by_cases same : i = j
    · subst same
      rw [List.getElem?_modify_eq, Option.map_eq_map, Option.map_eq_some_iff] at there
      obtain ⟨a', old, eq⟩ := there
      exact .inr ⟨rfl, .inr ⟨a', rfl, old, eq.symm⟩⟩
    · rw [List.getElem?_modify_ne _ _ (Ne.symm same)] at there
      exact .inl ⟨same, there⟩

section Telling
variable {R : α → β → Prop} {S : β → β → Prop} {taken : List ℕ}
  (finds : ∀ l b i a, m.find l b = some i → l[i]? = some a → R a b)
  (updates : ∀ a b c, R (m.update a b) c → R a c ∨ S b c)
  (news : ∀ b c, R (m.fresh b) c → S b c)
include finds updates news

/-- Where no two reports are alike and no two are like one entry, no report is recognised as an entry that an
earlier one went to. -/
theorem apart_of_told (told : bs.Pairwise fun b c => ¬ S b c)
    (single : ∀ a ∈ l, bs.Pairwise fun b c => ¬ (R a b ∧ R a c))
    (settled : ∀ i ∈ taken, ∀ a, l[i]? = some a → ∀ c ∈ bs, ¬ R a c) : m.Apart l taken bs := by
  induction bs generalizing l taken with
  | nil => trivial
  | cons b rest ih =>
    obtain ⟨unlike, told⟩ := List.pairwise_cons.mp told
    -- the entry that the report went to is like none of the later ones
    have own : ∀ i a, i = m.place l b → (m.merge l b)[i]? = some a → ∀ c ∈ rest, ¬ R a c := by
      intro i a eq there c mem like
      rcases merge_cases there with ⟨ne, _⟩ | ⟨_, rfl | ⟨a', found, old, rfl⟩⟩
      · exact ne eq
      · exact unlike c mem (news b c like)
      · rcases updates a' b c like with before | same
        · have both := (List.pairwise_cons.mp (single a' (List.mem_of_getElem? old))).1 c mem
          exact both ⟨finds l b i a' found old, before⟩
        · exact unlike c mem same
    refine ⟨?_, ih told ?_ ?_⟩
    · intro i mem found
      have there := List.getElem?_eq_getElem (m.find_lt found)
      exact settled i mem _ there b List.mem_cons_self (finds l b i _ found there)
    · intro a mem
      obtain ⟨i, there⟩ := List.mem_iff_getElem?.mp mem
      by_cases eq : i = m.place l b
      · exact told.imp_of_mem fun memB _ _ both => own i a eq there _ memB both.1
      · rcases merge_cases there with ⟨_, old⟩ | ⟨wrong, _⟩
        · exact (List.pairwise_cons.mp (single a (List.mem_of_getElem? old))).2
        · exact absurd wrong eq
    · intro i mem a there c memC
      by_cases eq : i = m.place l b
      · exact own i a eq there c memC
      · rcases merge_cases there with ⟨_, old⟩ | ⟨wrong, _⟩
        · exact settled i ((List.mem_cons.mp mem).resolve_left eq) a old c (List.mem_cons_of_mem _ memC)
        · exact absurd wrong eq

end Telling

/-- Merging drops nothing of the list. -/
lemma length_le_merge : l.length ≤ (m.merge l b).length := by
  rw [merge]
  cases m.find l b with
  | none =>
    rw [List.length_append]
    exact Nat.le_add_right _ _
  | some j => exact Nat.le_of_eq (List.length_modify _ _ _).symm

/-- Every candidate's place is in the merged list. -/
lemma place_lt : m.place l b < (m.merge l b).length := by
  rw [merge, place]
  cases found : m.find l b with
  | none =>
    rw [List.length_append]
    exact Nat.lt_succ_self _
  | some j =>
    rw [List.length_modify]
    exact m.find_lt found

/-- The entries that the reports go to differ from one another and from those taken before exactly when no
report is recognised as one of them. -/
theorem places_nodup_iff {taken : List ℕ} (there : ∀ i ∈ taken, i < l.length) :
    ((m.places l bs).Nodup ∧ ∀ i ∈ taken, i ∉ m.places l bs) ↔ m.Apart l taken bs := by
  induction bs generalizing l taken with
  | nil => exact iff_of_true ⟨List.nodup_nil, fun _ _ => List.not_mem_nil⟩ trivial
  | cons b rest ih =>
    have there' : ∀ i ∈ m.place l b :: taken, i < (m.merge l b).length := by
      intro i mem
      rcases List.mem_cons.mp mem with rfl | mem
      · exact place_lt
      · exact Nat.lt_of_lt_of_le (there i mem) length_le_merge
    have first : (∀ i ∈ taken, m.find l b ≠ some i) ↔ ∀ i ∈ taken, i ≠ m.place l b := by
      apply forall₂_congr
      intro i mem
      rw [place]
      cases found : m.find l b with
      | none => exact iff_of_true nofun (Nat.ne_of_lt (there i mem))
      | some j => exact not_congr (by rw [Option.some.injEq, Option.getD_some, eq_comm])
    rw [places, Apart, ← ih there', first, List.nodup_cons]
    simp only [List.mem_cons, not_or, forall_eq_or_imp]
    constructor
    · rintro ⟨⟨fresh, nodup⟩, apart⟩
      exact ⟨fun i mem => (apart i mem).1, nodup, fresh, fun i mem => (apart i mem).2⟩
    · rintro ⟨ne, nodup, fresh, apart⟩
      exact ⟨⟨fresh, nodup⟩, fun i mem => ⟨ne i mem, apart i mem⟩⟩

end SlotMerge

end Jaull.Lib
