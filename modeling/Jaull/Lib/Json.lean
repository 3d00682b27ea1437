import Mathlib.Data.Int.Notation
import Mathlib.Data.Nat.Notation
import Mathlib.Tactic.Common

/-!
# JSON trees

What Python's `json.loads` yields: a tree of `None`, booleans, integers, floats, strings, lists and
dictionaries. A dictionary is the list of its entries in insertion order. A float is the decimal that
Python writes for it, and a string may hold surrogates that belong to no pair.
-/

namespace Jaull.Lib

/-- A Python string: Unicode text, broken by lone surrogates. -/
inductive PyString
  | text (chars : String)
  | surrogate (before : String) (code : Fin 2048) (after : PyString)
  deriving DecidableEq, Repr

instance : Coe String PyString :=
  ⟨.text⟩

/-- A finite float `± digits · 10 ^ exponent`, as the shortest decimal that reads back as it. -/
structure Decimal where
  negative : Bool
  digits : ℕ
  exponent : ℤ
  canonical : digits % 10 ≠ 0 ∨ digits = 0 ∧ exponent = 0
  deriving DecidableEq, Repr

/-- A Python float. -/
inductive PyFloat
  | nan
  | infinity (negative : Bool)
  | finite (decimal : Decimal)
  deriving DecidableEq, Repr

/-- Python `x > 0`. -/
def PyFloat.isPositive : PyFloat → Bool
  | .nan => false
  | .infinity negative => !negative
  | .finite decimal => !decimal.negative && decimal.digits ≠ 0

/-- A JSON value. -/
inductive Json
  | null
  | bool (b : Bool)
  | int (n : ℤ)
  | float (x : PyFloat)
  | str (s : PyString)
  | arr (items : List Json)
  | obj (fields : List (PyString × Json))
  deriving Repr

namespace Json

mutual

/-- Whether two trees are the same. -/
def same : Json → Json → Bool
  | .null, .null => true
  | .bool a, .bool b => a = b
  | .int a, .int b => a = b
  | .float a, .float b => a = b
  | .str a, .str b => a = b
  | .arr as, .arr bs => sameItems as bs
  | .obj as, .obj bs => sameFields as bs
  | _, _ => false

/-- Whether two lists hold the same values. -/
def sameItems : List Json → List Json → Bool
  | [], [] => true
  | a :: as, b :: bs => same a b && sameItems as bs
  | _, _ => false

/-- Whether two objects hold the same fields. -/
def sameFields : List (PyString × Json) → List (PyString × Json) → Bool
  | [], [] => true
  | (k, a) :: as, (l, b) :: bs => k = l && same a b && sameFields as bs
  | _, _ => false

end

mutual

/-- A value is the same as itself. -/
lemma same_refl : ∀ a : Json, same a a = true
  | .null => by rw [same]
  | .bool a => by simp [same]
  | .int a => by simp [same]
  | .float a => by simp [same]
  | .str a => by simp [same]
  | .arr as => by rw [same, sameItems_refl as]
  | .obj as => by rw [same, sameFields_refl as]

lemma sameItems_refl : ∀ as : List Json, sameItems as as = true
  | [] => by rw [sameItems]
  | a :: as => by rw [sameItems, same_refl a, sameItems_refl as, Bool.and_self]

lemma sameFields_refl : ∀ as : List (PyString × Json), sameFields as as = true
  | [] => by rw [sameFields]
  | (k, a) :: as => by simp [sameFields, same_refl a, sameFields_refl as]

end

mutual

/-- Values found the same are equal. -/
lemma eq_of_same : ∀ {a b : Json}, same a b = true → a = b
  | .null, b, eq => by cases b <;> simp_all [same]
  | .bool a, b, eq => by cases b <;> simp_all [same]
  | .int a, b, eq => by cases b <;> simp_all [same]
  | .float a, b, eq => by cases b <;> simp_all [same]
  | .str a, b, eq => by cases b <;> simp_all [same]
  | .arr as, b, eq => by
    cases b with
    | arr bs => exact congrArg Json.arr (eq_of_sameItems (by simpa [same] using eq))
    | _ => simp [same] at eq
  | .obj as, b, eq => by
    cases b with
    | obj bs => exact congrArg Json.obj (eq_of_sameFields (by simpa [same] using eq))
    | _ => simp [same] at eq

/-- So are lists of values. -/
lemma eq_of_sameItems : ∀ {as bs : List Json}, sameItems as bs = true → as = bs
  | [], bs, eq => by cases bs <;> simp_all [sameItems]
  | a :: as, [], eq => by simp [sameItems] at eq
  | a :: as, b :: bs, eq => by
    rw [sameItems, Bool.and_eq_true] at eq
    rw [eq_of_same eq.1, eq_of_sameItems eq.2]

/-- So are lists of fields. -/
lemma eq_of_sameFields : ∀ {as bs : List (PyString × Json)}, sameFields as bs = true → as = bs
  | [], bs, eq => by cases bs <;> simp_all [sameFields]
  | (k, a) :: as, [], eq => by simp [sameFields] at eq
  | (k, a) :: as, (l, b) :: bs, eq => by
    rw [sameFields, Bool.and_eq_true, Bool.and_eq_true, decide_eq_true_eq] at eq
    rw [eq.1.1, eq_of_same eq.1.2, eq_of_sameFields eq.2]

end

instance : DecidableEq Json :=
  fun a b => decidable_of_iff (same a b = true) ⟨eq_of_same, fun eq => eq ▸ same_refl a⟩

/-- Python `bool(value)`. -/
def truthy : Json → Bool
  | .null => false
  | .bool b => b
  | .int n => n ≠ 0
  | .float (.finite decimal) => decimal.digits ≠ 0
  | .float _ => true
  | .str s => s ≠ ""
  | .arr items => !items.isEmpty
  | .obj fields => !fields.isEmpty

end Json

example : Json.obj [("a", .arr [.int 1, .null])] ≠ Json.obj [("a", .arr [.int 1, .bool true])] := by
  decide +kernel

end Jaull.Lib
