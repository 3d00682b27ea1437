import Mathlib.Data.List.Nodup
import Mathlib.Data.List.Perm.Basic
import Mathlib.Tactic.Common

/-!
# Rearranging a list within slots

`for slot, item in zip(slots, items): order[slot] = item`, and a pass that rewrites several disjoint
groups of slots, each by a rearrangement of its own members. The pass rearranges the whole list,
moves nothing outside the slots, and leaves in each group exactly the rearranged members
(`rewriteGroups_spec`).
-/

namespace Jaull.Lib

universe u
variable {α : Type u}

/-- A list of at most one member has one arrangement. -/
lemma eq_of_perm_of_length_lt_two {l l' : List α} (perm : l'.Perm l) (short : l.length < 2) :
    l' = l := by
  cases l with
  | nil => exact List.perm_nil.mp perm
  | cons a rest =>
    cases rest with
    | nil => exact List.perm_singleton.mp perm
    | cons b rest =>
      rw [List.length_cons, List.length_cons] at short
      omega

/-- The members standing at the slots. -/
def membersAt (l : List α) (slots : List ℕ) : List α :=
  slots.filterMap (l[·]?)

/-- `for slot, item in zip(slots, items): order[slot] = item`. -/
def writeSlots : List α → List ℕ → List α → List α
  | order, [], _ => order
  | order, _ :: _, [] => order
  | order, slot :: slots, item :: items => writeSlots (order.set slot item) slots items

/-- Each group of slots rewritten with a rearrangement of the members of `base` at them. -/
def rewriteGroups (arrange : List α → List α) (base : List α) :
    List (List ℕ) → List α → List α
  | [], order => order
  | slots :: groups, order =>
    rewriteGroups arrange base groups (writeSlots order slots (arrange (membersAt base slots)))

/-- Slots of a list: places of it, none twice. -/
structure Slots (n : ℕ) (slots : List ℕ) : Prop where
  nodup : slots.Nodup
  lt : ∀ i ∈ slots, i < n

/-- Slots after the first. -/
lemma Slots.tail {n slot slots} (wf : Slots n (slot :: slots)) : Slots n slots :=
  ⟨(List.nodup_cons.mp wf.nodup).2, fun i mem => wf.lt i (List.mem_cons_of_mem slot mem)⟩

/-- Slots hold as many members as they are. -/
lemma length_membersAt {l : List α} {slots : List ℕ} (wf : Slots l.length slots) :
    (membersAt l slots).length = slots.length := by
  induction slots with
  | nil => rfl
  | cons slot slots ih =>
    have inside : slot < l.length := wf.lt slot List.mem_cons_self
    rw [membersAt, List.filterMap_cons, List.getElem?_eq_getElem inside]
    simpa [membersAt] using ih wf.tail

/-- Members at slots are members. -/
lemma membersAt_subset {l : List α} {slots : List ℕ} : membersAt l slots ⊆ l := by
  intro item mem
  obtain ⟨slot, _, at_slot⟩ := List.mem_filterMap.mp mem
  exact List.mem_of_getElem? at_slot

/-- Lists that agree at the slots have the same members there. -/
lemma membersAt_congr {l l' : List α} {slots : List ℕ} (eq : ∀ i ∈ slots, l[i]? = l'[i]?) :
    membersAt l slots = membersAt l' slots :=
  List.filterMap_congr eq

/-- Writing leaves every other place alone. -/
lemma writeSlots_of_notMem {order : List α} {slots : List ℕ} {items : List α} {i : ℕ}
    (notMem : i ∉ slots) : (writeSlots order slots items)[i]? = order[i]? := by
  induction slots generalizing order items with
  | nil => rw [writeSlots]
  | cons slot slots ih =>
    rw [List.mem_cons, not_or] at notMem
    cases items with
    | nil => rfl
    | cons item items =>
      rw [writeSlots, ih notMem.2, List.getElem?_set_ne (Ne.symm notMem.1)]

/-- What was written stands at the slots. -/
lemma membersAt_writeSlots {order : List α} {slots : List ℕ} {items : List α}
    (wf : Slots order.length slots) (length : items.length = slots.length) :
    membersAt (writeSlots order slots items) slots = items := by
  induction slots generalizing order items with
  | nil => exact (List.length_eq_zero_iff.mp length).symm
  | cons slot slots ih =>
    cases items with
    | nil => cases length
    | cons item items =>
      have inside : slot < order.length := wf.lt slot List.mem_cons_self
      have fresh := (List.nodup_cons.mp wf.nodup).1
      have wf' : Slots (order.set slot item).length slots := by
        rw [List.length_set]
        exact wf.tail
      have rest := ih wf' (Nat.succ.inj length)
      have head : (writeSlots (order.set slot item) slots items)[slot]? = some item := by
        rw [writeSlots_of_notMem fresh, List.getElem?_set_self inside]
      rw [writeSlots, membersAt, List.filterMap_cons, head]
      exact congrArg (item :: ·) rest

/-- Setting a place trades one member for another. -/
lemma set_append_perm {order : List α} {slot : ℕ} {old item : α} (at_slot : order[slot]? = some old) :
    (old :: order.set slot item).Perm (item :: order) := by
  obtain ⟨inside, eq⟩ := List.getElem?_eq_some_iff.mp at_slot
  have removed : (order[slot] :: order.eraseIdx slot).Perm order :=
    List.getElem_cons_eraseIdx_perm inside
  rw [eq] at removed
  have replaced : (order.set slot item).Perm (item :: order.eraseIdx slot) :=
    List.set_perm_cons_eraseIdx inside item
  have swapped : (old :: item :: order.eraseIdx slot).Perm (item :: old :: order.eraseIdx slot) :=
    List.Perm.swap item old _
  exact (replaced.cons old).trans (swapped.trans (removed.cons item))

/-- Writing trades the members at the slots for the written ones. -/
lemma writeSlots_append_perm {order : List α} {slots : List ℕ} {items : List α}
    (wf : Slots order.length slots) (length : items.length = slots.length) :
    (membersAt order slots ++ writeSlots order slots items).Perm (items ++ order) := by
  induction slots generalizing order items with
  | nil =>
    cases List.length_eq_zero_iff.mp length
    exact List.Perm.refl _
  | cons slot slots ih =>
    cases items with
    | nil => cases length
    | cons item items =>
      have inside : slot < order.length := wf.lt slot List.mem_cons_self
      have fresh := (List.nodup_cons.mp wf.nodup).1
      have wf' : Slots (order.set slot item).length slots := by
        rw [List.length_set]
        exact wf.tail
      have rest := ih wf' (Nat.succ.inj length)
      have same : membersAt (order.set slot item) slots = membersAt order slots := by
        apply membersAt_congr
        intro i mem
        apply List.getElem?_set_ne
        rintro rfl
        exact fresh mem
      rw [same] at rest
      have at_slot := List.getElem?_eq_getElem inside
      have heads : membersAt order (slot :: slots) = order[slot] :: membersAt order slots := by
        rw [membersAt, List.filterMap_cons, at_slot]
        rfl
      rw [heads, writeSlots]
      have traded := (rest.cons order[slot]).trans List.perm_middle.symm
      exact traded.trans
        (((set_append_perm at_slot).append_left items).trans List.perm_middle)

/-- Writing a rearrangement of the members at the slots rearranges the list. -/
lemma writeSlots_perm {order : List α} {slots : List ℕ} {items : List α}
    (wf : Slots order.length slots) (perm : items.Perm (membersAt order slots)) :
    (writeSlots order slots items).Perm order := by
  have length : items.length = slots.length := by
    rw [perm.length_eq, length_membersAt wf]
  have traded := writeSlots_append_perm wf length
  exact (List.perm_append_left_iff _).mp (traded.trans (perm.append_right order))

/-- What a pass over disjoint groups of slots leaves behind. -/
structure Rewritten (arrange : List α → List α) (base : List α) (groups : List (List ℕ))
    (order : List α) : Prop where
  perm : order.Perm base
  members : ∀ slots ∈ groups, membersAt order slots = arrange (membersAt base slots)
  others : ∀ i, (∀ slots ∈ groups, i ∉ slots) → order[i]? = base[i]?

/-- The pass from any rearrangement of `base` that still agrees with it at the slots to come. -/
lemma rewriteGroups_from {arrange : List α → List α} {base : List α} {groups : List (List ℕ)}
    {order : List α} (arranges : ∀ l, (arrange l).Perm l)
    (wf : ∀ slots ∈ groups, Slots base.length slots)
    (disjoint : groups.Pairwise List.Disjoint)
    (perm : order.Perm base) (agrees : ∀ slots ∈ groups, ∀ i ∈ slots, order[i]? = base[i]?) :
    (rewriteGroups arrange base groups order).Perm base ∧
      (∀ slots ∈ groups,
        membersAt (rewriteGroups arrange base groups order) slots =
          arrange (membersAt base slots)) ∧
      ∀ i, (∀ slots ∈ groups, i ∉ slots) →
        (rewriteGroups arrange base groups order)[i]? = order[i]? := by
  induction groups generalizing order with
  | nil => exact ⟨perm, by simp, fun i _ => rfl⟩
  | cons slots groups ih =>
    rw [List.pairwise_cons] at disjoint
    have wfHere : Slots order.length slots := by
      rw [perm.length_eq]
      exact wf slots List.mem_cons_self
    -- the groups before have not touched these slots
    have same : membersAt order slots = membersAt base slots :=
      membersAt_congr (agrees slots List.mem_cons_self)
    have arranged : (arrange (membersAt base slots)).Perm (membersAt order slots) := by
      rw [same]
      exact arranges _
    have length : (arrange (membersAt base slots)).length = slots.length := by
      rw [arranged.length_eq, length_membersAt wfHere]
    have permHere := (writeSlots_perm wfHere arranged).trans perm
    obtain ⟨permAll, members, others⟩ :=
      @ih (writeSlots order slots (arrange (membersAt base slots)))
        (fun slots' mem => wf slots' (List.mem_cons_of_mem slots mem)) disjoint.2 permHere (by
          intro slots' mem i memI
          have notHere : i ∉ slots := fun memHere => disjoint.1 slots' mem memHere memI
          rw [writeSlots_of_notMem notHere]
          exact agrees slots' (List.mem_cons_of_mem slots mem) i memI)
    rw [rewriteGroups]
    refine ⟨permAll, ?_, ?_⟩
    · intro slots' mem
      rcases List.mem_cons.mp mem with rfl | mem
      · -- nor do those behind
        have kept : ∀ i ∈ slots', _ = _ := fun i memI =>
          others i fun slots'' mem'' memI'' => disjoint.1 slots'' mem'' memI memI''
        rw [membersAt_congr kept]
        exact membersAt_writeSlots wfHere length
      · exact members slots' mem
    · intro i notMem
      rw [others i fun slots' mem => notMem slots' (List.mem_cons_of_mem slots mem)]
      exact writeSlots_of_notMem (notMem slots List.mem_cons_self)

/-- A pass over disjoint groups of slots rearranges the list, group by group. -/
theorem rewriteGroups_spec {arrange : List α → List α} {base : List α} {groups : List (List ℕ)}
    (arranges : ∀ l, (arrange l).Perm l) (wf : ∀ slots ∈ groups, Slots base.length slots)
    (disjoint : groups.Pairwise List.Disjoint) :
    Rewritten arrange base groups (rewriteGroups arrange base groups base) := by
  obtain ⟨perm, members, others⟩ :=
    rewriteGroups_from arranges wf disjoint (List.Perm.refl base) fun _ _ _ _ => rfl
  exact ⟨perm, members, others⟩

section Map
variable {β : Type*} {f : α → β}

lemma membersAt_map (l : List α) (slots : List ℕ) :
    membersAt (l.map f) slots = (membersAt l slots).map f := by
  simp only [membersAt, List.getElem?_map, List.map_filterMap]

/-- And with writing them. -/
lemma writeSlots_map (order : List α) (slots : List ℕ) (items : List α) :
    writeSlots (order.map f) slots (items.map f) = (writeSlots order slots items).map f := by
  induction slots generalizing order items with
  | nil => simp only [writeSlots]
  | cons slot slots ih =>
    cases items with
    | nil => rfl
    | cons item items =>
      rw [List.map_cons, writeSlots, writeSlots, ← List.map_set, ih]

/-- A pass commutes with a map that its rearrangement commutes with on every group. -/
lemma rewriteGroups_map {arrange : List α → List α} {arrange' : List β → List β} {base : List α}
    {groups : List (List ℕ)} {order : List α}
    (commutes : ∀ slots ∈ groups,
      arrange' ((membersAt base slots).map f) = (arrange (membersAt base slots)).map f) :
    rewriteGroups arrange' (base.map f) groups (order.map f) =
      (rewriteGroups arrange base groups order).map f := by
  induction groups generalizing order with
  | nil => rfl
  | cons slots groups ih =>
    rw [rewriteGroups, rewriteGroups, membersAt_map, commutes slots List.mem_cons_self,
      writeSlots_map]
    exact ih fun slots' mem => commutes slots' (List.mem_cons_of_mem slots mem)

end Map

/-- Rearrangements that agree on every group rewrite alike. -/
lemma rewriteGroups_congr {arrange arrange' : List α → List α} {base : List α}
    {groups : List (List ℕ)} {order : List α}
    (same : ∀ slots ∈ groups, arrange' (membersAt base slots) = arrange (membersAt base slots)) :
    rewriteGroups arrange' base groups order = rewriteGroups arrange base groups order := by
  induction groups generalizing order with
  | nil => rfl
  | cons slots groups ih =>
    rw [rewriteGroups, rewriteGroups, same slots List.mem_cons_self]
    exact ih fun slots' mem => same slots' (List.mem_cons_of_mem slots mem)

end Jaull.Lib
