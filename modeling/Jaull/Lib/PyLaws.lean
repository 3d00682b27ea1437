import Jaull.Lib.ListMap
import Jaull.Lib.PyObject
import Mathlib.Data.List.Lex

/-!
# Laws of Python on JSON trees

Inversions of the operations of `PyObject`, what sorting keeps of a tree, and which computations raise
unexpected exceptions.
-/

namespace Jaull.Lib

variable {α β : Type}

section Success

/-- What returns is lifted. -/
@[simp] lemma lifted_ok (a : α) : lifted (.ok a) = .ok a := rfl

/-- And only what returns returns lifted. -/
@[simp] lemma lifted_eq_ok {x : Except Refusal α} {a : α} : lifted x = .ok a ↔ x = .ok a := by
  cases x with
  | error refusal =>
    constructor
    · intro eq
      cases eq
    · intro eq
      cases eq
  | ok b =>
    constructor
    · intro eq
      rw [Except.ok.inj eq]
    · intro eq
      rw [Except.ok.inj eq]
      rfl

/-- A check that refuses passes where its condition fails. -/
@[simp] lemma refuseIf_eq_ok {condition : Bool} {text : String} {u : Unit} :
    refuseIf condition text = .ok u ↔ condition = false := by
  cases condition <;> simp [refuseIf]

/-- An action under a condition that holds was taken. -/
lemma doIf_eq_ok {ε : Type} {condition : Bool} {action : Except ε Unit}
    (done : doIf condition action = .ok ()) (holds : condition = true) : action = .ok () := by
  rwa [doIf, if_pos holds] at done

/-- The entries of a value are those of a dictionary. -/
@[simp] lemma entries_eq_ok {value : Json} {fields : List (PyString × Json)} :
    value.entries = .ok fields ↔ value = .obj fields := by
  cases value <;> simp [Json.entries]

/-- A field of a value is one of a dictionary. -/
lemma field_eq_ok {value member : Json} {name : String} :
    value.field name = .ok member ↔
      ∃ fields, value = .obj fields ∧ fields.lookup (.text name) = some member := by
  cases value with
  | obj fields =>
    rw [Json.field]
    constructor
    · intro eq
      refine ⟨fields, rfl, ?_⟩
      cases found : fields.lookup (.text name) with
      | none =>
        rw [found] at eq
        cases eq
      | some w =>
        rw [found] at eq
        rw [Except.ok.inj eq]
    · intro ⟨fields', eq, found⟩
      cases eq
      rw [found]
      rfl
  | _ =>
    constructor
    · intro eq
      cases eq
    · intro ⟨fields, eq, _⟩
      cases eq

/-- The fields of an object. -/
lemma field_obj {fields : List (PyString × Json)} {member : Json} {name : String} :
    (Json.obj fields).field name = .ok member ↔ fields.lookup (.text name) = some member := by
  rw [field_eq_ok]
  constructor
  · intro ⟨fields', eq, found⟩
    cases eq
    exact found
  · intro found
    exact ⟨fields, rfl, found⟩

/-- A dictionary with exactly some keys has each of them. -/
lemma setIs_field {value : Json} {fields : List (PyString × Json)} {names : List String}
    (dict : value = .obj fields) (set : value.setIs names = .ok true) {name : String}
    (mem : name ∈ names) : ∃ member, value.field name = .ok member := by
  subst dict
  rw [Json.setIs, Json.members, ok_bind] at set
  split at set
  · have every := (Bool.and_eq_true _ _).mp (Except.ok.inj set)
    have key := List.all_eq_true.mp every.2 name mem
    rw [List.contains_iff_mem, List.mem_map] at key
    obtain ⟨entry, inside, same⟩ := key
    cases found : fields.lookup (.text name) with
    | none =>
      have absent := List.lookup_eq_none_iff.mp found entry inside
      rw [Json.str.inj same] at absent
      simp at absent
    | some member => exact ⟨member, field_obj.mpr found⟩
  · cases set

/-- Only a text equals a text. -/
lemma pyEq_str {value : Json} {s : PyString} : pyEq value (.str s) = true ↔ value = .str s := by
  cases value with
  | float x => cases x <;> simp [pyEq, Json.magnitude]
  | _ => simp [pyEq, Json.magnitude]

/-- Also the other way round. -/
lemma str_pyEq {value : Json} {s : PyString} : pyEq (.str s) value = true ↔ value = .str s := by
  cases value with
  | float x => cases x <;> simp [pyEq, Json.magnitude]
  | str t => simp [pyEq, eq_comm]
  | _ => simp [pyEq, Json.magnitude]

/-- What equals an integer is a boolean, an integer or a finite float. -/
lemma magnitude_of_pyEq_int {value : Json} {n : ℤ} (eq : pyEq value (.int n) = true) :
    value.magnitude = some (.exact n) := by
  cases value with
  | float x =>
    cases x with
    | finite d => simpa [pyEq, Json.magnitude] using eq
    | _ => simp [pyEq, Json.magnitude] at eq
  | _ => simp_all [pyEq, Json.magnitude]

/-- What is listed equals one of the list. -/
lemma isOneOf_eq_true {value : Json} {options : List Json}
    (one : isOneOf value options = .ok true) : ∃ option ∈ options, pyEq value option = true := by
  rw [isOneOf] at one
  split at one
  · exact List.any_eq_true.mp (Except.ok.inj one)
  · cases one

end Success

section Sorting

/-- Inserting a field hides the one of its name. -/
lemma lookup_insertField {key : PyString} {value : Json} {fields : List (PyString × Json)}
    (name : PyString) :
    (insertField key value fields).lookup name = ((key, value) :: fields).lookup name := by
  induction fields with
  | nil => rfl
  | cons entry rest ih =>
    obtain ⟨k, w⟩ := entry
    rw [insertField]
    split
    · rename_i before
      have apart : k ≠ key := by
        intro eq
        rw [eq] at before
        exact @lt_irrefl (List ℕ) _ key.codes before
      rw [List.lookup_cons, ih]
      by_cases same : name = k
      · subst same
        have found : ((key, value) :: (name, w) :: rest).lookup name = some w := by
          rw [lookup_cons_ne apart, List.lookup_cons_self]
        rw [found, beq_self_eq_true]
      · rw [beq_false_of_ne same, List.lookup_cons, List.lookup_cons, List.lookup_cons,
          beq_false_of_ne same]
    · rfl

/-- Sorting a dictionary keeps what its keys lead to. -/
lemma lookup_sortFields (fields : List (PyString × Json)) (name : PyString) :
    (sortFields fields).lookup name = (fields.lookup name).map sortKeys := by
  induction fields with
  | nil => rfl
  | cons entry rest ih =>
    obtain ⟨key, value⟩ := entry
    rw [sortFields, lookup_insertField]
    by_cases same : name = key
    · subst same
      rw [List.lookup_cons_self, List.lookup_cons_self, Option.map_some]
    · rw [lookup_cons_ne same, lookup_cons_ne same, ih]

/-- Sorting keeps the field of a name. -/
lemma getField_sortFields (fields : List (PyString × Json)) (name : String) :
    getField (sortFields fields) name = sortKeys (getField fields name) := by
  rw [getField, getField, lookup_sortFields]
  cases fields.lookup (PyString.text name) with
  | none => rw [Option.map_none, Option.getD_none, sortKeys]
  | some value => rfl

/-- Dictionaries with equal keys in one order are the same when sorted if their values are. -/
lemma sortFields_congr {as bs : List (PyString × Json)} (keys : as.map Prod.fst = bs.map Prod.fst)
    (values : as.map (fun e => sortKeys e.2) = bs.map fun e => sortKeys e.2) :
    sortFields as = sortFields bs := by
  induction as generalizing bs with
  | nil =>
    cases bs with
    | nil => rfl
    | cons b bs => cases keys
  | cons a as ih =>
    cases bs with
    | nil => cases keys
    | cons b bs =>
      obtain ⟨k, v⟩ := a
      obtain ⟨k', v'⟩ := b
      obtain ⟨key, keys⟩ := List.cons.inj keys
      obtain ⟨value, values⟩ := List.cons.inj values
      have key : k = k' := key
      have value : sortKeys v = sortKeys v' := value
      rw [sortFields, sortFields, key, value, ih keys values]

/-- With distinct keys the converse holds. -/
lemma values_of_sortFields_eq {as bs : List (PyString × Json)}
    (keys : as.map Prod.fst = bs.map Prod.fst) (nodup : (as.map Prod.fst).Nodup)
    (eq : sortFields as = sortFields bs) :
    as.map (fun e => sortKeys e.2) = bs.map fun e => sortKeys e.2 := by
  have lookups : ∀ {l : List (PyString × Json)}, (l.map Prod.fst).Nodup →
      l.map (fun e => some (sortKeys e.2)) = (l.map Prod.fst).map fun key => (sortFields l).lookup key := by
    intro l nodup
    rw [List.map_map]
    refine List.map_congr_left fun e mem => ?_
    have found : l.lookup e.1 = some e.2 := lookup_of_mem nodup mem
    rw [Function.comp_apply, lookup_sortFields, found, Option.map_some]
  have left := lookups nodup
  have right := lookups (keys ▸ nodup)
  rw [eq, keys, ← right] at left
  have some : (as.map (fun e => sortKeys e.2)).map some = (bs.map (fun e => sortKeys e.2)).map some := by
    rw [List.map_map, List.map_map]
    exact left
  exact List.map_injective_iff.mpr (Option.some_injective Json) some

/-- Members of values that are the same when sorted are the same when sorted. -/
lemma field_of_sortKeys_eq {value value' member member' : Json} {name : String}
    (same : sortKeys value = sortKeys value') (found : value.field name = .ok member)
    (found' : value'.field name = .ok member') : sortKeys member = sortKeys member' := by
  obtain ⟨fields, rfl, at'⟩ := field_eq_ok.mp found
  obtain ⟨fields', rfl, at''⟩ := field_eq_ok.mp found'
  rw [sortKeys, sortKeys, Json.obj.injEq] at same
  have both := congrArg (fun sorted => sorted.lookup (PyString.text name)) same
  simp only [lookup_sortFields, at', at'', Option.map_some] at both
  exact Option.some.inj both

/-- Sorting leaves a value that can be a key. -/
lemma sortKeys_of_hashable {value : Json} (able : hashable value = true) : sortKeys value = value := by
  cases value with
  | arr items => cases able
  | obj fields => cases able
  | _ => rw [sortKeys]

/-- What has a hash is as it is sorted. -/
lemma eq_of_sortKeys_eq {value value' : Json} (same : sortKeys value = sortKeys value')
    (able : hashable value = true) (able' : hashable value' = true) : value = value' := by
  rwa [sortKeys_of_hashable able, sortKeys_of_hashable able'] at same

/-- What leads to a member can be a key. -/
lemma hashable_of_item_eq_ok {container key member : Json}
    (found : container.item key = .ok member) : hashable key = true := by
  cases key with
  | arr items => cases container <;> cases found
  | obj fields => cases container <;> cases found
  | _ => rfl

end Sorting

section Leaves
variable {p : Json → Bool}

/-- The leaves of items are those of each. -/
lemma leavesItems_iff {items : List Json} :
    leavesItems p items = true ↔ ∀ item ∈ items, item.leaves p = true := by
  induction items with
  | nil => simp [leavesItems]
  | cons item items ih => rw [leavesItems, Bool.and_eq_true, ih, List.forall_mem_cons]

/-- The leaves of fields are the keys and those of each value. -/
lemma leavesFields_iff {fields : List (PyString × Json)} :
    leavesFields p fields = true ↔
      ∀ entry ∈ fields, p (.str entry.1) = true ∧ entry.2.leaves p = true := by
  induction fields with
  | nil => simp [leavesFields]
  | cons entry fields ih =>
    obtain ⟨key, value⟩ := entry
    rw [leavesFields, Bool.and_eq_true, Bool.and_eq_true, ih, List.forall_mem_cons]

/-- So are those of an object. -/
lemma leaves_obj {fields : List (PyString × Json)} :
    (Json.obj fields).leaves p = true ↔
      ∀ entry ∈ fields, p (.str entry.1) = true ∧ entry.2.leaves p = true := by
  rw [Json.leaves, leavesFields_iff]

/-- A field has leaves of the value only. -/
lemma leaves_field {value member : Json} {name : String} (all : value.leaves p = true)
    (found : value.field name = .ok member) : member.leaves p = true := by
  obtain ⟨fields, rfl, at'⟩ := field_eq_ok.mp found
  exact (leaves_obj.mp all _ (mem_of_lookup at')).2

/-- What is in a dictionary after an assignment. -/
lemma mem_dictSet {fields : List (PyString × Json)} {key : PyString} {value : Json}
    {entry : PyString × Json} (mem : entry ∈ dictSet fields key value) :
    entry = (key, value) ∨ entry ∈ fields := by
  induction fields with
  | nil => exact .inl (List.mem_singleton.mp mem)
  | cons first rest ih =>
    rw [dictSet] at mem
    split at mem
    · rcases List.mem_cons.mp mem with eq | mem
      · exact .inl eq
      · exact .inr (List.mem_cons_of_mem _ mem)
    · rcases List.mem_cons.mp mem with eq | mem
      · exact .inr (eq ▸ List.mem_cons_self)
      · exact (ih mem).imp_right (List.mem_cons_of_mem _)

/-- What is among fields after an insertion. -/
lemma mem_insertField {fields : List (PyString × Json)} {key : PyString} {value : Json}
    {entry : PyString × Json} :
    entry ∈ insertField key value fields ↔ entry = (key, value) ∨ entry ∈ fields := by
  induction fields with
  | nil => simp [insertField]
  | cons first rest ih =>
    rw [insertField]
    split
    · rw [List.mem_cons, ih, List.mem_cons]
      exact or_left_comm
    · rw [List.mem_cons]

mutual

/-- Sorting keeps the leaves. -/
lemma leaves_sortKeys : ∀ value : Json, (sortKeys value).leaves p = value.leaves p
  | .null => by rw [sortKeys]
  | .bool b => by rw [sortKeys]
  | .int n => by rw [sortKeys]
  | .float x => by rw [sortKeys]
  | .str s => by rw [sortKeys]
  | .arr items => by rw [sortKeys, Json.leaves, Json.leaves, leaves_sortItems items]
  | .obj fields => by rw [sortKeys, Json.leaves, Json.leaves, leaves_sortFields fields]

/-- Sorting keeps the leaves of items. -/
lemma leaves_sortItems : ∀ items : List Json, leavesItems p (sortItems items) = leavesItems p items
  | [] => by rw [sortItems]
  | item :: items => by
    rw [sortItems, leavesItems, leavesItems, leaves_sortKeys item, leaves_sortItems items]

/-- And those of fields. -/
lemma leaves_sortFields : ∀ fields : List (PyString × Json),
    leavesFields p (sortFields fields) = leavesFields p fields
  | [] => by rw [sortFields]
  | (key, value) :: fields => by
    have inserted : leavesFields p (insertField key (sortKeys value) (sortFields fields)) =
        (p (.str key) && (sortKeys value).leaves p && leavesFields p (sortFields fields)) := by
      rw [Bool.eq_iff_iff, Bool.and_eq_true, Bool.and_eq_true, leavesFields_iff, leavesFields_iff]
      simp only [mem_insertField]
      constructor
      · intro all
        exact ⟨all _ (.inl rfl), fun entry mem => all entry (.inr mem)⟩
      · intro ⟨first, rest⟩ entry mem
        rcases mem with rfl | mem
        · exact first
        · exact rest entry mem
    rw [sortFields, inserted, leavesFields, leaves_sortKeys value, leaves_sortFields fields]

end

end Leaves

section Escapes

/-- A computation that raises an exception which its callers do not provide for. -/
def Escapes (x : Except PyError α) : Prop :=
  ∃ e, x = .error e ∧ ∀ refusal, e ≠ .refused refusal

/-- What returns does not escape. -/
lemma not_escapes_ok {a : α} : ¬Escapes (.ok a : Except PyError α) := by
  intro ⟨e, eq, _⟩
  cases eq

/-- Nor does a refusal. -/
lemma not_escapes_lifted (x : Except Refusal α) : ¬Escapes (lifted x) := by
  intro ⟨e, eq, other⟩
  cases x with
  | ok a => cases eq
  | error refusal => exact other refusal (Except.error.inj eq).symm

/-- A computation escapes, or it returns and what follows escapes. -/
lemma escapes_bind {x : Except PyError α} {f : α → Except PyError β} :
    Escapes (x >>= f) ↔ Escapes x ∨ ∃ a, x = .ok a ∧ Escapes (f a) := by
  cases x with
  | error e =>
    rw [error_bind]
    constructor
    · intro ⟨e', eq, other⟩
      exact .inl ⟨e', by rw [Except.error.inj eq], other⟩
    · rintro (⟨e', eq, other⟩ | ⟨a, eq, -⟩)
      · exact ⟨e', by rw [Except.error.inj eq], other⟩
      · cases eq
  | ok a =>
    rw [ok_bind]
    constructor
    · intro escapes
      exact .inr ⟨a, rfl, escapes⟩
    · rintro (⟨e, eq, -⟩ | ⟨b, eq, escapes⟩)
      · cases eq
      · rwa [Except.ok.inj eq]

/-- What cannot raise an unexpected exception passes it on only. -/
lemma escapes_lifted_bind {x : Except Refusal α} {f : α → Except PyError β} :
    Escapes (lifted x >>= f) ↔ ∃ a, x = .ok a ∧ Escapes (f a) := by
  rw [escapes_bind]
  simp only [not_escapes_lifted, lifted_eq_ok, false_or]

/-- A loop escapes at the first member that does, behind members that pass. -/
lemma escapes_forM {f : α → Except PyError Unit} {l : List α} :
    Escapes (l.forM f) ↔
      ∃ before a after, l = before ++ a :: after ∧ (∀ b ∈ before, f b = .ok ()) ∧ Escapes (f a) := by
  induction l with
  | nil =>
    constructor
    · intro escapes
      exact absurd escapes not_escapes_ok
    · intro ⟨before, a, after, eq, _⟩
      exact absurd eq (by simp)
  | cons a rest ih =>
    rw [show (a :: rest).forM f = f a >>= fun _ => rest.forM f from rfl, escapes_bind, ih]
    constructor
    · rintro (escapes | ⟨_, done, before, b, after, rfl, passed, escapes⟩)
      · exact ⟨[], a, rest, rfl, by simp, escapes⟩
      · exact ⟨a :: before, b, after, rfl, List.forall_mem_cons.mpr ⟨done, passed⟩, escapes⟩
    · intro ⟨before, b, after, eq, passed, escapes⟩
      cases before with
      | nil =>
        rw [(List.cons.inj eq).1]
        exact .inl escapes
      | cons first before =>
        obtain ⟨rfl, rfl⟩ := List.cons.inj eq
        obtain ⟨done, passed⟩ := List.forall_mem_cons.mp passed
        exact .inr ⟨(), done, before, b, after, rfl, passed, escapes⟩

end Escapes

end Jaull.Lib
