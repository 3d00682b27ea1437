import Mathlib.Data.List.Infix
import Mathlib.Data.Nat.Notation
import Mathlib.Tactic.Common

/-!
# File trees

POSIX paths as lists of names, and a tree of directories, files and links. A path is resolved name by name:
`..` leaves the place reached so far, and a link is replaced by its target.
-/

namespace Jaull.Lib

/-- A name in a directory, as code points. -/
abbrev FileName := List ℕ

/-- The name `..`. -/
def dots : FileName :=
  [46, 46]

/-- A path: whether it starts at the root, and its names without `.`. -/
structure PosixPath where
  absolute : Bool
  parts : List FileName
  deriving DecidableEq, Repr

/-- The names of a path in a text. -/
def partsOf (codes : List ℕ) : List FileName :=
  (codes.splitOn 47).filter fun name => name ≠ [] && name ≠ [46]

/-- The text of a relative path (Python `as_posix`). -/
def posixText (parts : List FileName) : List ℕ :=
  [47].intercalate parts

namespace PosixPath

/-- Python `path / name`. -/
def join (path : PosixPath) (name : FileName) : PosixPath :=
  { path with parts := path.parts ++ [name] }

/-- Python `path.parent`. -/
def parent (path : PosixPath) : PosixPath :=
  { path with parts := path.parts.dropLast }

/-- Python `path.name`. -/
def name (path : PosixPath) : FileName :=
  path.parts.getLast?.getD []

end PosixPath

/-- Python `os.path.normpath` of a path that starts at the root: each `..` takes the name before it away. -/
def normalized (parts : List FileName) : List FileName :=
  parts.foldl (fun place name => if name = dots then place.dropLast else place ++ [name]) []

/-- What stands at a place of a tree. -/
inductive TreeEntry
  | directory
  /-- A file, which the operating system may refuse to read. -/
  | file (bytes : List UInt8) (readable : Bool)
  | link (target : PosixPath)
  deriving DecidableEq, Repr

/-- A tree: what stands at the places that the names from the root on lead to, without links. The operating
system may refuse to look at a place. -/
structure FileTree where
  entry : List FileName → Option TreeEntry
  refuses : List FileName → Bool := fun _ => false
  root : entry [] = some .directory
  nested : ∀ place name, entry (place ++ [name]) ≠ none → entry place = some .directory

namespace FileTree
variable (tree : FileTree)

/-- A walk from a place along names; `follow` goes on where a link is met. A strict walk leaves directories
only. -/
def walk (strict : Bool) (follow : List FileName → List FileName → Option (List FileName)) :
    List FileName → List FileName → Option (List FileName)
  | place, [] => some place
  | place, name :: rest =>
    if strict ∧ tree.entry place ≠ some .directory then none
    else if name = dots then walk strict follow place.dropLast rest
    else
      match tree.entry (place ++ [name]) with
      | some (.link target) => follow (if target.absolute then [] else place) (target.parts ++ rest)
      | _ => walk strict follow (place ++ [name]) rest

/-- The place that names lead to from a place, if no more than `limit` links are met (Python
`os.path.realpath`). -/
def resolve (strict : Bool) : ℕ → List FileName → List FileName → Option (List FileName)
  | 0 => walk tree strict fun _ _ => none
  | limit + 1 => walk tree strict (resolve strict limit)

end FileTree

section Parts
variable {parts : List FileName} {name : FileName} {codes : List ℕ}

/-- A name that a path can hold. -/
def IsName (name : FileName) : Prop :=
  name ≠ [] ∧ name ≠ [46] ∧ 47 ∉ name

/-- A path's text holds separators and the names' characters only. -/
lemma mem_posixText {c : ℕ} (mem : c ∈ posixText parts) : c = 47 ∨ ∃ name ∈ parts, c ∈ name := by
  induction parts with
  | nil => cases mem
  | cons first rest ih =>
    cases rest with
    | nil =>
      rw [posixText, List.intercalate_singleton] at mem
      exact .inr ⟨first, List.mem_cons_self, mem⟩
    | cons second rest =>
      rw [posixText, List.intercalate_cons_cons, List.mem_append, List.mem_append, List.mem_singleton] at mem
      rcases mem with (mem | slash) | mem
      · exact .inr ⟨first, List.mem_cons_self, mem⟩
      · exact .inl slash
      · rcases ih mem with slash | ⟨name, there, inside⟩
        · exact .inl slash
        · exact .inr ⟨name, List.mem_cons_of_mem _ there, inside⟩

/-- It holds every name's characters. -/
lemma mem_posixText_of_mem {c : ℕ} (mem : name ∈ parts) (inside : c ∈ name) : c ∈ posixText parts := by
  induction parts with
  | nil => cases mem
  | cons first rest ih =>
    cases rest with
    | nil =>
      rw [List.mem_singleton.mp mem] at inside
      rwa [posixText, List.intercalate_singleton]
    | cons second rest =>
      rw [posixText, List.intercalate_cons_cons, List.mem_append, List.mem_append]
      rcases List.mem_cons.mp mem with rfl | mem
      · exact .inl (.inl inside)
      · exact .inr (ih mem)

/-- A piece between separators holds none. -/
lemma not_mem_of_mem_splitOn {piece : List ℕ} (mem : piece ∈ codes.splitOn 47) : 47 ∉ piece := by
  induction codes generalizing piece with
  | nil =>
    rw [List.splitOn_nil, List.mem_singleton] at mem
    rw [mem]
    exact List.not_mem_nil
  | cons c rest ih =>
    rw [List.splitOn_cons_eq_if_modifyHead] at mem
    split at mem
    · rcases List.mem_cons.mp mem with rfl | mem
      · exact List.not_mem_nil
      · exact ih mem
    · rename_i other
      cases pieces : rest.splitOn 47 with
      | nil => exact absurd pieces (List.splitOn_ne_nil _ _)
      | cons head tail =>
        rw [pieces, List.modifyHead_cons] at mem
        rcases List.mem_cons.mp mem with rfl | mem
        · rw [List.mem_cons, not_or]
          refine ⟨?_, ih (by rw [pieces]; exact List.mem_cons_self)⟩
          intro same
          exact other (beq_iff_eq.mpr same.symm)
        · exact ih (by rw [pieces]; exact List.mem_cons_of_mem _ mem)

/-- A piece's characters are the text's. -/
lemma mem_of_mem_splitOn {piece : List ℕ} {c : ℕ} (mem : piece ∈ codes.splitOn 47) (inside : c ∈ piece) :
    c ∈ codes := by
  have whole : posixText (codes.splitOn 47) = codes := List.intercalate_splitOn 47
  rw [← whole]
  exact mem_posixText_of_mem mem inside

/-- The parts of a path are names. -/
lemma isName_of_mem_partsOf (mem : name ∈ partsOf codes) : IsName name := by
  obtain ⟨piece, kept⟩ := List.mem_filter.mp mem
  rw [Bool.and_eq_true, decide_eq_true_eq, decide_eq_true_eq] at kept
  exact ⟨kept.1, kept.2, not_mem_of_mem_splitOn piece⟩

/-- Their characters are the path's. -/
lemma mem_codes_of_mem_partsOf {c : ℕ} (mem : name ∈ partsOf codes) (inside : c ∈ name) : c ∈ codes :=
  mem_of_mem_splitOn (List.mem_filter.mp mem).1 inside

/-- A relative path is read back from its text. -/
lemma partsOf_posixText (names : ∀ name ∈ parts, IsName name) : partsOf (posixText parts) = parts := by
  cases parts with
  | nil => rfl
  | cons first rest =>
    rw [partsOf, posixText, List.splitOn_intercalate 47 (fun name mem => (names name mem).2.2)
      (List.cons_ne_nil _ _), List.filter_eq_self]
    intro name mem
    obtain ⟨some', other, -⟩ := names name mem
    rw [Bool.and_eq_true, decide_eq_true_eq, decide_eq_true_eq]
    exact ⟨some', other⟩

end Parts

end Jaull.Lib
