import Mathlib.Data.List.Infix
import Mathlib.Data.Nat.Notation
import Mathlib.Tactic.Common

/-!
# Pure paths

Python's `PurePosixPath` of a text, on lists of characters.
-/

namespace Jaull.Lib

/-- A path without a file system: its root, and its names without `.`. -/
structure PurePath where
  root : List Char
  tail : List (List Char)
  deriving DecidableEq, Repr

namespace PurePath

/-- The root of a path. Two slashes in front, and no third, are a root of their own. -/
def rootOf : List Char → List Char
  | '/' :: '/' :: '/' :: _ => ['/']
  | '/' :: '/' :: _ => ['/', '/']
  | '/' :: _ => ['/']
  | _ => []

/-- Python `PurePosixPath(text)`. -/
def ofText (text : String) : PurePath where
  root := rootOf text.toList
  tail := (text.toList.splitOn '/').filter fun name => name ≠ [] && name ≠ ['.']

/-- Python `path.name`. -/
def name (path : PurePath) : List Char :=
  path.tail.getLast?.getD []

/-- Python `path.parts`. -/
def parts (path : PurePath) : List (List Char) :=
  (if path.root = [] then [] else [path.root]) ++ path.tail

/-- Python `path.parent`. -/
def parent (path : PurePath) : PurePath :=
  { path with tail := path.tail.dropLast }

/-- Python `str(path)`. -/
def text (path : PurePath) : String :=
  if path.root = [] ∧ path.tail = [] then "." else String.ofList (path.root ++ ['/'].intercalate path.tail)

/-- Python `path.stem`, of a name. -/
def stemOf (name : List Char) : List Char :=
  let extension := name.reverse.takeWhile (· ≠ '.')
  let stem := ((name.reverse.dropWhile (· ≠ '.')).drop 1).reverse
  if stem ≠ [] ∧ extension ≠ [] then stem else name

/-- `PurePath.stem`. -/
def stem (path : PurePath) : List Char :=
  stemOf path.name

example : (ofText "a//b/./m.Q4.gguf").parent.text = "a/b" := by decide

/-- The stem of a name with an extension. -/
lemma stemOf_append {stem extension : List Char} (some : stem ≠ []) (ext : extension ≠ [])
    (none : '.' ∉ extension) : stemOf (stem ++ '.' :: extension) = stem := by
  have flat : (stem ++ '.' :: extension).reverse = extension.reverse ++ '.' :: stem.reverse := by
    rw [List.reverse_append, List.reverse_cons, List.append_assoc]
    rfl
  have clear : ∀ c ∈ extension.reverse, decide (c ≠ '.') = true := by
    intro c mem
    rw [decide_eq_true_eq]
    rintro rfl
    exact none (List.mem_reverse.mp mem)
  have taken : (extension.reverse ++ '.' :: stem.reverse).takeWhile (· ≠ '.') = extension.reverse := by
    rw [List.takeWhile_append_of_pos clear]
    exact List.append_nil _
  have dropped : (extension.reverse ++ '.' :: stem.reverse).dropWhile (· ≠ '.') = '.' :: stem.reverse := by
    rw [List.dropWhile_append_of_pos clear]
    rfl
  rw [stemOf, flat]
  rw [taken, dropped, List.drop_succ_cons, List.drop_zero, List.reverse_reverse,
    if_pos ⟨some, mt List.reverse_eq_nil_iff.mp ext⟩]

/-- A stem is no longer than its name. -/
lemma length_stemOf_le (name : List Char) : (stemOf name).length ≤ name.length := by
  rw [stemOf]
  split
  · rw [List.length_reverse, List.length_drop]
    have shorter := (List.dropWhile_suffix (l := name.reverse) (· ≠ '.')).length_le
    rw [List.length_reverse] at shorter
    exact (Nat.sub_le _ _).trans shorter
  · exact le_rfl

end PurePath

end Jaull.Lib
