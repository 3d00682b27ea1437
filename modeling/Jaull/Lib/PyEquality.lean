import Jaull.Lib.PyLaws

/-!
# Equality of JSON trees

Python's `==` does not look at the order of keys, and a finite tree whose dictionaries have distinct keys
equals itself.
-/

namespace Jaull.Lib

section Sorted

/-- Sorting keys makes nothing a NaN. -/
lemma bothNan_sortKeys_right (v w : Json) : bothNan v (sortKeys w) = bothNan v w := by
  cases w <;> rw [sortKeys] <;> cases v with
  | float x => cases x <;> rfl
  | _ => rfl

/-- Neither on the left. -/
lemma bothNan_sortKeys_left (v w : Json) : bothNan (sortKeys v) w = bothNan v w := by
  cases v <;> rw [sortKeys]
  all_goals rfl

/-- One field more. -/
lemma length_insertField (key : PyString) (value : Json) (fields : List (PyString × Json)) :
    (insertField key value fields).length = fields.length + 1 := by
  induction fields with
  | nil => rfl
  | cons entry rest ih =>
    rw [insertField]
    split
    · rw [List.length_cons, ih, List.length_cons]
    · rfl

/-- Sorting keeps the number of fields. -/
lemma length_sortFields (fields : List (PyString × Json)) :
    (sortFields fields).length = fields.length := by
  induction fields with
  | nil => rfl
  | cons entry rest ih =>
    obtain ⟨key, value⟩ := entry
    rw [sortFields, length_insertField, ih, List.length_cons]

mutual

/-- Equality does not look at the order of keys on the right. -/
lemma pyEq_sortKeys_right : ∀ v w : Json, pyEq v (sortKeys w) = pyEq v w
  | .arr as, .arr bs => by rw [sortKeys, pyEq, pyEq, pyEqItems_sortItems as bs]
  | .obj as, .obj bs => by rw [sortKeys, pyEq, pyEq, pyEqFields_sortFields as bs, length_sortFields]
  | _, .null => by rw [sortKeys]
  | _, .bool b => by rw [sortKeys]
  | _, .int n => by rw [sortKeys]
  | _, .float x => by rw [sortKeys]
  | _, .str s => by rw [sortKeys]
  | .null, .arr bs => rfl
  | .bool b, .arr bs => rfl
  | .int n, .arr bs => rfl
  | .float x, .arr bs => rfl
  | .str s, .arr bs => rfl
  | .obj as, .arr bs => rfl
  | .null, .obj bs => rfl
  | .bool b, .obj bs => rfl
  | .int n, .obj bs => rfl
  | .float x, .obj bs => rfl
  | .str s, .obj bs => rfl
  | .arr as, .obj bs => rfl

/-- Items equal what their sorted ones equal. -/
lemma pyEqItems_sortItems : ∀ as bs : List Json, pyEqItems as (sortItems bs) = pyEqItems as bs
  | [], [] => by rw [sortItems]
  | [], b :: bs => by
    rw [sortItems]
    rfl
  | a :: as, [] => by rw [sortItems]
  | a :: as, b :: bs => by
    rw [sortItems, pyEqItems, pyEqItems, bothNan_sortKeys_right, pyEq_sortKeys_right a b,
      pyEqItems_sortItems as bs]

/-- So do fields. -/
lemma pyEqFields_sortFields : ∀ as bs : List (PyString × Json),
    pyEqFields as (sortFields bs) = pyEqFields as bs
  | [], bs => by rw [pyEqFields, pyEqFields]
  | (key, a) :: as, bs => by
    rw [pyEqFields, pyEqFields, lookup_sortFields, pyEqFields_sortFields as bs]
    cases bs.lookup key with
    | none => rfl
    | some b =>
      simp only [Option.map_some]
      rw [bothNan_sortKeys_right, pyEq_sortKeys_right a b]

end

/-- A field equals wherever it is inserted. -/
lemma pyEqFields_insertField (key : PyString) (value : Json) (as bs : List (PyString × Json)) :
    pyEqFields (insertField key value as) bs = pyEqFields ((key, value) :: as) bs := by
  induction as with
  | nil => rfl
  | cons entry rest ih =>
    obtain ⟨k, v⟩ := entry
    rw [insertField]
    split
    · rw [pyEqFields, ih, pyEqFields, pyEqFields, pyEqFields, Bool.and_left_comm]
    · rfl

mutual

/-- Equality does not look at the order of keys on the left. -/
lemma pyEq_sortKeys_left : ∀ v w : Json, pyEq (sortKeys v) w = pyEq v w
  | .arr as, .arr bs => by rw [sortKeys, pyEq, pyEq, sortItems_pyEqItems as bs]
  | .obj as, .obj bs => by
    rw [sortKeys, pyEq, pyEq, sortFields_pyEqFields as bs, length_sortFields]
  | .null, _ => by rw [sortKeys]
  | .bool b, _ => by rw [sortKeys]
  | .int n, _ => by rw [sortKeys]
  | .float x, _ => by rw [sortKeys]
  | .str s, _ => by rw [sortKeys]
  | .arr as, .null => rfl
  | .arr as, .bool b => rfl
  | .arr as, .int n => rfl
  | .arr as, .float x => rfl
  | .arr as, .str s => rfl
  | .arr as, .obj bs => rfl
  | .obj as, .null => rfl
  | .obj as, .bool b => rfl
  | .obj as, .int n => rfl
  | .obj as, .float x => rfl
  | .obj as, .str s => rfl
  | .obj as, .arr bs => rfl

/-- Items equal what their sorted ones equal, also on the left. -/
lemma sortItems_pyEqItems : ∀ as bs : List Json, pyEqItems (sortItems as) bs = pyEqItems as bs
  | [], [] => by rw [sortItems]
  | [], b :: bs => by rw [sortItems]
  | a :: as, [] => by
    rw [sortItems]
    rfl
  | a :: as, b :: bs => by
    rw [sortItems, pyEqItems, pyEqItems, bothNan_sortKeys_left, pyEq_sortKeys_left a b,
      sortItems_pyEqItems as bs]

/-- So do fields. -/
lemma sortFields_pyEqFields : ∀ as bs : List (PyString × Json),
    pyEqFields (sortFields as) bs = pyEqFields as bs
  | [], bs => by rw [sortFields]
  | (key, a) :: as, bs => by
    rw [sortFields, pyEqFields_insertField, pyEqFields, pyEqFields, sortFields_pyEqFields as bs]
    cases bs.lookup key with
    | none => rfl
    | some b =>
      dsimp only
      rw [bothNan_sortKeys_left, pyEq_sortKeys_left a b]

end

/-- Trees that differ in the order of keys only are equal to the same trees. -/
lemma pyEq_congr {v v' w w' : Json} (left : sortKeys v = sortKeys v') (right : sortKeys w = sortKeys w') :
    pyEq v w = pyEq v' w' := by
  calc pyEq v w = pyEq (sortKeys v) (sortKeys w) := by rw [pyEq_sortKeys_left, pyEq_sortKeys_right]
    _ = pyEq (sortKeys v') (sortKeys w') := by rw [left, right]
    _ = pyEq v' w' := by rw [pyEq_sortKeys_left, pyEq_sortKeys_right]

/-- The fields of a sorted value are sorted. -/
lemma field_sortKeys (v : Json) (name : String) :
    (sortKeys v).field name = (v.field name).map sortKeys := by
  cases v with
  | obj fields =>
    rw [sortKeys, Json.field, Json.field, lookup_sortFields]
    cases fields.lookup (PyString.text name) with
    | none => rfl
    | some value => rfl
  | _ =>
    rw [sortKeys]
    rfl

/-- A computation that does not look at the order of keys of a member does not look at that of the whole. -/
lemma field_bind_congr {α : Type} {v v' : Json} {name : String} {f f' : Json → Except Refusal α}
    (same : sortKeys v = sortKeys v') (respects : ∀ {w w'}, sortKeys w = sortKeys w' → f w = f' w') :
    (v.field name >>= f) = (v'.field name >>= f') := by
  have fields := congrArg (fun sorted => sorted.field name) same
  simp only [field_sortKeys] at fields
  cases found : v.field name with
  | ok member =>
    rw [found] at fields
    obtain ⟨member', found', eq⟩ := exists_of_map_eq_ok fields.symm
    rw [found', ok_bind, ok_bind]
    exact respects eq.symm
  | error e =>
    rw [found] at fields
    cases found' : v'.field name with
    | ok member' =>
      rw [found'] at fields
      cases fields
    | error e' =>
      rw [found'] at fields
      rw [Except.error.inj fields]
      rfl

end Sorted

section Distinct

mutual

/-- Whether no dictionary in a tree has a key twice. -/
def distinctKeys : Json → Bool
  | .arr items => distinctItems items
  | .obj fields => (fields.map Prod.fst).Nodup && distinctFields fields
  | _ => true

/-- Whether no object among items repeats a key. -/
def distinctItems : List Json → Bool
  | [] => true
  | item :: items => distinctKeys item && distinctItems items

/-- Whether no object among fields repeats a key. -/
def distinctFields : List (PyString × Json) → Bool
  | [] => true
  | (_, value) :: fields => distinctKeys value && distinctFields fields

end

mutual

/-- A finite tree with distinct keys equals itself. -/
lemma pyEq_self : ∀ v : Json, v.leaves finiteLeaf = true → distinctKeys v = true → pyEq v v = true
  | .null, _, _ => by simp [pyEq]
  | .bool b, _, _ => by simp [pyEq, Json.magnitude]
  | .int n, _, _ => by simp [pyEq, Json.magnitude]
  | .float (.finite d), _, _ => by simp [pyEq, Json.magnitude]
  | .float .nan, finite, _ => by cases finite
  | .float (.infinity b), finite, _ => by cases finite
  | .str s, _, _ => by simp [pyEq]
  | .arr items, finite, distinct => by
    rw [pyEq]
    exact pyEqItems_self items finite distinct
  | .obj fields, finite, distinct => by
    rw [distinctKeys, Bool.and_eq_true] at distinct
    rw [pyEq, pyEqFields_self fields fields (leaves_obj.mp finite) distinct.2 fun entry mem =>
      lookup_of_mem (of_decide_eq_true distinct.1) mem]
    simp

/-- Items without NaNs equal themselves. -/
lemma pyEqItems_self : ∀ items : List Json, leavesItems finiteLeaf items = true →
    distinctItems items = true → pyEqItems items items = true
  | [], _, _ => rfl
  | item :: items, finite, distinct => by
    rw [leavesItems, Bool.and_eq_true] at finite
    rw [distinctItems, Bool.and_eq_true] at distinct
    rw [pyEqItems, pyEq_self item finite.1 distinct.1, pyEqItems_self items finite.2 distinct.2]
    simp

/-- So do fields. -/
lemma pyEqFields_self : ∀ fields all : List (PyString × Json),
    (∀ entry ∈ fields, finiteLeaf (.str entry.1) = true ∧ entry.2.leaves finiteLeaf = true) →
    distinctFields fields = true → (∀ entry ∈ fields, all.lookup entry.1 = some entry.2) →
    pyEqFields fields all = true
  | [], all, _, _, _ => rfl
  | (key, value) :: fields, all, finite, distinct, found => by
    rw [distinctFields, Bool.and_eq_true] at distinct
    rw [pyEqFields, found (key, value) List.mem_cons_self,
      pyEqFields_self fields all (fun entry mem => finite entry (List.mem_cons_of_mem _ mem)) distinct.2
        fun entry mem => found entry (List.mem_cons_of_mem _ mem)]
    dsimp only
    rw [pyEq_self value (finite (key, value) List.mem_cons_self).2 distinct.1]
    simp

end

/-- Trees with the same sorted form are equal, when one of them is finite with distinct keys. -/
lemma pyEq_of_sortKeys_eq {v w : Json} (same : sortKeys v = sortKeys w)
    (finite : w.leaves finiteLeaf = true) (distinct : distinctKeys w = true) : pyEq v w = true := by
  rw [pyEq_congr same rfl]
  exact pyEq_self w finite distinct

end Distinct

end Jaull.Lib
