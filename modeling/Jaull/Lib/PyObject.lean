import Jaull.Lib.Dict
import Jaull.Lib.JsonText
import Jaull.Text.Numbers
import Mathlib.Data.Int.Log
import Mathlib.Data.List.Infix

/-!
# Python on JSON trees

What Python's operators do with the values of `json.loads`, and the exceptions they raise. The exceptions
that readers of documents provide for have a type of their own, so that a computation of that type raises
nothing else.
-/

namespace Jaull.Lib
open Jaull.Text

universe u v

/-- Python `KeyError`, `TypeError`, `ValueError` and `UnicodeError`. -/
inductive Refusal
  | key
  | type
  | value (text : String)
  | unicode
  deriving DecidableEq, Repr

/-- A Python exception. -/
inductive PyError
  | refused (refusal : Refusal)
  | index
  | attribute
  | overflow
  | division
  | recursion
  deriving DecidableEq, Repr

/-- A computation with the expected exceptions, among others. -/
def lifted {α : Type u} : Except Refusal α → Except PyError α
  | .ok a => .ok a
  | .error refusal => .error (.refused refusal)

/-- Python `raise ValueError(text)` under a condition. -/
def refuseIf (condition : Bool) (text : String) : Except Refusal Unit :=
  if condition then .error (.value text) else .ok ()

/-- An action under a condition. -/
def doIf {ε : Type u} (condition : Bool) (action : Except ε Unit) : Except ε Unit :=
  if condition then action else .ok ()

section Numbers

/-- The double nearest to a number, halves to the even one. -/
def nearestDouble (q : ℚ) : ℚ :=
  if q = 0 then 0 else
  let unit : ℚ := 2 ^ max (Int.log 2 |q| - 52) (-1074)
  roundHalfEven (q / unit) * unit

/-- The number a float stands for. -/
def Decimal.value (decimal : Decimal) : ℚ :=
  nearestDouble ((if decimal.negative then -1 else 1) * decimal.digits * 10 ^ decimal.exponent)

/-- What a number is compared by. -/
inductive Magnitude
  | nan
  | infinity (negative : Bool)
  | exact (q : ℚ)
  deriving DecidableEq, Repr

/-- Booleans count as zero and one. -/
def Json.magnitude : Json → Option Magnitude
  | .bool b => some (.exact (if b then 1 else 0))
  | .int n => some (.exact n)
  | .float .nan => some .nan
  | .float (.infinity negative) => some (.infinity negative)
  | .float (.finite decimal) => some (.exact decimal.value)
  | _ => none

/-- The number of a finite one. -/
def Json.number : Json → Option ℚ
  | .bool b => some (if b then 1 else 0)
  | .int n => some n
  | .float (.finite decimal) => some decimal.value
  | _ => none

/-- Python `type(value) in (int, float)`. -/
def Json.isNumber : Json → Bool
  | .int _ => true
  | .float _ => true
  | _ => false

/-- Python `type(value) is int`. -/
def Json.isInt : Json → Bool
  | .int _ => true
  | _ => false

/-- From here on an integer has no nearest double. -/
def overflowBound : ℕ :=
  2 ^ 1024 - 2 ^ 970

/-- Python `math.isfinite`. -/
def isFinite : Json → Except PyError Bool
  | .bool _ => .ok true
  | .int n => if overflowBound ≤ n.natAbs then .error .overflow else .ok true
  | .float (.finite _) => .ok true
  | .float _ => .ok false
  | _ => .error (.refused .type)

end Numbers

section Equality

/-- Python `a is b` where `==` alone would not do: `json.loads` has one `NaN`, which is not equal to
itself but the same member of two containers. -/
def bothNan : Json → Json → Bool
  | .float .nan, .float .nan => true
  | _, _ => false

mutual

/-- Python `==`. -/
def pyEq : Json → Json → Bool
  | .null, .null => true
  | .str a, .str b => a = b
  | .arr as, .arr bs => pyEqItems as bs
  | .obj as, .obj bs => as.length = bs.length && pyEqFields as bs
  | a, b =>
    match a.magnitude, b.magnitude with
    | some .nan, _ => false
    | some m, some n => m = n
    | _, _ => false

/-- Whether lists are equal item by item. -/
def pyEqItems : List Json → List Json → Bool
  | [], [] => true
  | a :: as, b :: bs => (bothNan a b || pyEq a b) && pyEqItems as bs
  | _, _ => false

/-- Whether the entries of one dictionary have equals in the other. -/
def pyEqFields : List (PyString × Json) → List (PyString × Json) → Bool
  | [], _ => true
  | (key, a) :: as, bs =>
    (match bs.lookup key with
      | some b => bothNan a b || pyEq a b
      | none => false) && pyEqFields as bs

end

/-- Whether a value can be a member of a set or a key of a dictionary. -/
def hashable : Json → Bool
  | .arr _ => false
  | .obj _ => false
  | _ => true

/-- Python `value in {…}`. -/
def isOneOf (value : Json) (options : List Json) : Except Refusal Bool :=
  if hashable value then .ok (options.any (pyEq value)) else .error .type

end Equality

section Access

/-- The characters of a string, each as a string. -/
def PyString.chars : PyString → List PyString
  | .text chars => chars.toList.map fun c => .text (String.singleton c)
  | .surrogate before code after =>
    before.toList.map (fun c => .text (String.singleton c)) ++ .surrogate "" code "" :: after.chars

/-- Python `isinstance(value, dict)`, with the entries. -/
def Json.dict? : Json → Option (List (PyString × Json))
  | .obj fields => some fields
  | _ => none

/-- Python `isinstance(value, list)`, with the items. -/
def Json.list? : Json → Option (List Json)
  | .arr items => some items
  | _ => none

/-- Python `isinstance(value, str)`, with the string. -/
def Json.string? : Json → Option PyString
  | .str s => some s
  | _ => none

/-- The entries of a dictionary, of which a method is called. -/
def Json.entries : Json → Except PyError (List (PyString × Json))
  | .obj fields => .ok fields
  | _ => .error .attribute

/-- Python `fields.get(name)`. -/
def getField (fields : List (PyString × Json)) (name : String) : Json :=
  (fields.lookup (.text name)).getD .null

/-- Python `value[name]` for a name in the program. -/
def Json.field (value : Json) (name : String) : Except Refusal Json :=
  match value with
  | .obj fields => (fields.lookup (.text name)).elim (.error .key) .ok
  | _ => .error .type

/-- The integer of an index. -/
def Json.index? : Json → Option ℤ
  | .bool b => some (if b then 1 else 0)
  | .int n => some n
  | _ => none

/-- The member at an index, counted from the end when negative. -/
def memberAt {α : Type u} (members : List α) (index : ℤ) : Option α :=
  let place := if index < 0 then index + members.length else index
  if place < 0 then none else members[place.toNat]?

/-- Python `container[key]`. -/
def Json.item (container key : Json) : Except PyError Json :=
  match container with
  | .obj fields =>
    match key with
    | .str name => (fields.lookup name).elim (.error (.refused .key)) .ok
    | .arr _ => .error (.refused .type)
    | .obj _ => .error (.refused .type)
    | _ => .error (.refused .key)
  | .arr items =>
    match key.index? with
    | some index => (memberAt items index).elim (.error .index) .ok
    | none => .error (.refused .type)
  | .str s =>
    match key.index? with
    | some index => (memberAt s.chars index).elim (.error .index) fun c => .ok (.str c)
    | none => .error (.refused .type)
  | _ => .error (.refused .type)

/-- What `for member in value` goes through. -/
def Json.members : Json → Except Refusal (List Json)
  | .arr items => .ok items
  | .obj fields => .ok (fields.map fun entry => .str entry.1)
  | .str s => .ok (s.chars.map .str)
  | _ => .error .type

/-- Python `len(value)`. -/
def Json.size (value : Json) : Except Refusal ℕ :=
  value.members.map List.length

/-- Python `name in value`. -/
def Json.holds (value : Json) (name : String) : Except Refusal Bool :=
  match value with
  | .arr items => .ok (items.any fun item => pyEq item (.str name))
  | .obj fields => .ok (fields.lookup (.text name)).isSome
  | .str s => .ok (decide ((name.toList.map Char.toNat) <:+: s.codes))
  | _ => .error .type

/-- Python `set(value) == {…}` for names. -/
def Json.setIs (value : Json) (names : List String) : Except Refusal Bool := do
  let members ← value.members
  if members.all hashable then
    .ok (members.all (fun member => names.any fun name => member = .str name) &&
      names.all fun name => members.contains (.str name))
  else .error .type

end Access

section Canonical

/-- An entry in its place by the code points of the keys. -/
def insertField (key : PyString) (value : Json) : List (PyString × Json) → List (PyString × Json)
  | [] => [(key, value)]
  | entry :: rest =>
    if entry.1.codes < key.codes then entry :: insertField key value rest
    else (key, value) :: entry :: rest

mutual

/-- What `dumps` writes with `sort_keys=True`. -/
def sortKeys : Json → Json
  | .arr items => .arr (sortItems items)
  | .obj fields => .obj (sortFields fields)
  | .null => .null
  | .bool b => .bool b
  | .int n => .int n
  | .float x => .float x
  | .str s => .str s

/-- The items of a list, each sorted. -/
def sortItems : List Json → List Json
  | [] => []
  | item :: items => sortKeys item :: sortItems items

/-- The fields of an object, each value sorted. -/
def sortFields : List (PyString × Json) → List (PyString × Json)
  | [] => []
  | (key, value) :: fields => insertField key (sortKeys value) (sortFields fields)

end

mutual

/-- Whether every leaf of a tree has a property, keys included. -/
def Json.leaves (p : Json → Bool) : Json → Bool
  | .arr items => leavesItems p items
  | .obj fields => leavesFields p fields
  | .null => p .null
  | .bool b => p (.bool b)
  | .int n => p (.int n)
  | .float x => p (.float x)
  | .str s => p (.str s)

/-- Whether every leaf of a list passes. -/
def leavesItems (p : Json → Bool) : List Json → Bool
  | [] => true
  | item :: items => item.leaves p && leavesItems p items

/-- Whether every leaf of an object passes. -/
def leavesFields (p : Json → Bool) : List (PyString × Json) → Bool
  | [] => true
  | (key, value) :: fields => p (.str key) && value.leaves p && leavesFields p fields

end

mutual

/-- How deep a tree is nested; a scalar is not. -/
def Json.depth : Json → ℕ
  | .arr items => depthItems items + 1
  | .obj fields => depthFields fields + 1
  | .null => 0
  | .bool _ => 0
  | .int _ => 0
  | .float _ => 0
  | .str _ => 0

/-- How deep the items of a list nest. -/
def depthItems : List Json → ℕ
  | [] => 0
  | item :: items => max item.depth (depthItems items)

/-- How deep the fields of an object nest. -/
def depthFields : List (PyString × Json) → ℕ
  | [] => 0
  | (_, value) :: fields => max value.depth (depthFields fields)

end

/-- No `NaN` and no infinity (`allow_nan=False`). -/
def finiteLeaf : Json → Bool
  | .float (.finite _) => true
  | .float _ => false
  | _ => true

/-- No integer beyond the digits that Python converts. -/
def shortLeaf : Json → Bool
  | .int n => n.natAbs < 10 ^ 4300
  | _ => true

/-- No lone surrogate, which UTF-8 cannot encode. -/
def textLeaf : Json → Bool
  | .str (.text _) => true
  | .str _ => false
  | _ => true

/-- Python `text.encode()`, as code points. -/
def PyString.encoded (text : PyString) : Except Refusal (List ℕ) :=
  if textLeaf (.str text) then .ok text.codes else .error .unicode

/-- Python `dumps(value, …).encode()`, as code points. -/
def encoded (layout : Layout) (value : Json) : Except Refusal (List ℕ) :=
  if !value.leaves shortLeaf then
    .error (.value "Exceeds the limit (4300 digits) for integer string conversion")
  else if !value.leaves textLeaf then .error .unicode
  else .ok (render layout 0 value)

end Canonical

end Jaull.Lib
