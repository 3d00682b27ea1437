import Jaull.Lib.Dict
import Mathlib.Data.List.Nodup
import Mathlib.Data.List.Perm.Basic

/-!
# Units in a flat list

A list of words in which some words stand alone and every other one takes the word behind it. A reader
with one cursor finds the units; a reader that looks at each word in turn finds the value of a wanted
word. On the lists that the first reader accepts, the two agree as soon as no value is a wanted word.
-/

namespace Jaull.Lib

universe u

variable {α : Type u} {lone : α → Bool} {mark : α}

/-- An entry as it stands in the list. -/
def spelled (lone : α → Bool) (entry : α × α) : List α :=
  if lone entry.1 then [entry.1] else [entry.1, entry.2]

/-- A lone flag is one word. -/
lemma spelled_lone {e : α × α} (alone : lone e.1 = true) :
    spelled lone e = [e.1] :=
  if_pos alone

/-- A flag with a value is two. -/
lemma spelled_pair {e : α × α} (pair : lone e.1 = false) :
    spelled lone e = [e.1, e.2] :=
  if_neg (by rw [pair]; exact Bool.false_ne_true)

/-- Names that are all different stay so with a fresh one behind them. -/
lemma nodup_names_concat {read : List (α × α)} {e : α × α} (nodup : (read.map Prod.fst).Nodup)
    (fresh : e.1 ∉ read.map Prod.fst) : ((read ++ [e]).map Prod.fst).Nodup := by
  rw [List.map_append, List.map_singleton, List.nodup_append]
  refine ⟨nodup, List.nodup_singleton _, ?_⟩
  intro name mem other single same
  rw [List.mem_singleton.mp single] at same
  exact fresh (same ▸ mem)

/-- A unit of a list without repeats is new to those before it. -/
lemma fresh_of_nodup {read units : List (α × α)} {e : α × α}
    (nodup : ((read ++ e :: units).map Prod.fst).Nodup) : e.1 ∉ read.map Prod.fst := by
  intro mem
  rw [List.map_append, List.map_cons, List.nodup_append] at nodup
  exact nodup.2.2 e.1 mem e.1 List.mem_cons_self rfl

/-- Two lists of entries with different names, one of which has the entries of the other and no further
names, are the same up to order. -/
lemma perm_of_entries {β : Type*} {found expected : List (α × β)}
    (nodup : (found.map Prod.fst).Nodup) (nodup' : (expected.map Prod.fst).Nodup)
    (there : ∀ entry ∈ expected, entry ∈ found)
    (names : ∀ entry ∈ found, entry.1 ∈ expected.map Prod.fst) : found.Perm expected := by
  refine (List.perm_ext_iff_of_nodup (List.Nodup.of_map _ nodup) (List.Nodup.of_map _ nodup')).mpr ?_
  intro entry
  constructor
  · intro mem
    obtain ⟨other, inside, same⟩ := List.mem_map.mp (names entry mem)
    have eq : other = entry := List.inj_on_of_nodup_map nodup (there other inside) mem same
    exact eq ▸ inside
  · exact there entry

variable [DecidableEq α]

/-- The units behind those already read. A name may occur once; a lone one gets a mark for a value. -/
def readUnits (lone : α → Bool) (mark : α) : List (α × α) → List α → Option (List (α × α))
  | read, [] => some read
  | read, name :: rest =>
    if name ∈ read.map Prod.fst then none
    else if lone name then readUnits lone mark (read ++ [(name, mark)]) rest
    else
      match rest with
      | [] => none
      | value :: rest => readUnits lone mark (read ++ [(name, value)]) rest

/-- The last values of wanted words, in the order of their last occurrences. -/
def lastValues (wanted : α → Bool) : List (α × α) → List α → List (α × α)
  | read, [] => read
  | read, name :: rest =>
    lastValues wanted
      (if wanted name then
        read.filter (fun entry => entry.1 ≠ name) ++ (rest.head?.map fun value => (name, value)).toList
      else read) rest

section Reading
variable {read units : List (α × α)} {words : List α} {e : α × α}

/-- A repeated flag is refused. -/
lemma readUnits_known (mem : e.1 ∈ read.map Prod.fst) :
    readUnits lone mark read (e.1 :: words) = none := by
  cases words with
  | nil => rw [readUnits, if_pos mem]
  | cons value rest => rw [readUnits, if_pos mem]

/-- A new lone flag is read as its mark. -/
lemma readUnits_lone (fresh : e.1 ∉ read.map Prod.fst) (alone : lone e.1 = true) :
    readUnits lone mark read (e.1 :: words) =
      readUnits lone mark (read ++ [(e.1, mark)]) words := by
  cases words with
  | nil => simp only [readUnits, if_neg fresh, if_pos alone]
  | cons value rest => rw [readUnits, if_neg fresh, if_pos alone]

/-- A new flag takes the word after it. -/
lemma readUnits_pair (fresh : e.1 ∉ read.map Prod.fst) (pair : lone e.1 = false) :
    readUnits lone mark read (e.1 :: e.2 :: words) =
      readUnits lone mark (read ++ [e]) words := by
  rw [readUnits, if_neg fresh, if_neg (by rw [pair]; exact Bool.false_ne_true)]

/-- The reader finds the units that a list was spelled from. -/
lemma readUnits_spelled (nodup : ((read ++ units).map Prod.fst).Nodup)
    (marked : ∀ entry ∈ units, lone entry.1 = true → entry.2 = mark) :
    readUnits lone mark read (units.flatMap (spelled lone)) = some (read ++ units) := by
  induction units generalizing read with
  | nil => rw [List.flatMap_nil, readUnits, List.append_nil]
  | cons entry units ih =>
    have fresh : entry.1 ∉ read.map Prod.fst := fresh_of_nodup nodup
    have split : read ++ entry :: units = (read ++ [entry]) ++ units := by
      rw [List.append_assoc, List.cons_append, List.nil_append]
    have rest := ih (split ▸ nodup) fun other mem => marked other (List.mem_cons_of_mem _ mem)
    rw [List.flatMap_cons, split]
    cases alone : lone entry.1 with
    | true =>
      have same : (entry.1, mark) = entry := by
        rw [← marked entry List.mem_cons_self alone]
      rw [spelled_lone alone, List.singleton_append, readUnits_lone fresh alone, same]
      exact rest
    | false =>
      rw [spelled_pair alone, List.cons_append, List.singleton_append,
        readUnits_pair fresh alone]
      exact rest

/-- Whatever the reader accepts was spelled from units with different names. -/
lemma spelled_of_readUnits {all : List (α × α)} (nodup : (read.map Prod.fst).Nodup)
    (done : readUnits lone mark read words = some all) :
    (all.map Prod.fst).Nodup ∧ ∃ units, all = read ++ units ∧
      words = units.flatMap (spelled lone) ∧ ∀ entry ∈ units, lone entry.1 = true → entry.2 = mark := by
  induction read, words using readUnits.induct lone mark with
  | case1 read =>
    rw [readUnits] at done
    cases done
    exact ⟨nodup, [], (List.append_nil _).symm, rfl, List.forall_mem_nil _⟩
  | case2 read name rest mem =>
    rw [readUnits_known (e := (name, mark)) mem] at done
    cases done
  | case3 read name rest fresh alone ih =>
    rw [readUnits_lone (e := (name, mark)) fresh alone] at done
    obtain ⟨distinct, units, rfl, rfl, marked⟩ := ih (nodup_names_concat nodup fresh) done
    refine ⟨distinct, (name, mark) :: units, ?_, ?_, ?_⟩
    · rw [List.append_assoc, List.singleton_append]
    · rw [List.flatMap_cons, spelled_lone alone, List.singleton_append]
    · exact List.forall_mem_cons.mpr ⟨fun _ => rfl, marked⟩
  | case4 read name fresh pair =>
    rw [readUnits, if_neg fresh, if_neg pair] at done
    cases done
  | case5 read name fresh pair value rest ih =>
    have pair' : lone name = false := Bool.not_eq_true _ ▸ pair
    rw [readUnits_pair (e := (name, value)) fresh pair'] at done
    obtain ⟨distinct, units, rfl, rfl, marked⟩ := ih (nodup_names_concat nodup fresh) done
    refine ⟨distinct, (name, value) :: units, ?_, ?_, ?_⟩
    · rw [List.append_assoc, List.singleton_append]
    · rw [List.flatMap_cons, spelled_pair (e := (name, value)) pair', List.cons_append,
        List.singleton_append]
    · exact List.forall_mem_cons.mpr ⟨fun alone => absurd alone pair, marked⟩

/-- The accepted lists are those spelled from units with different names. -/
theorem readUnits_eq_some :
    readUnits lone mark [] words = some units ↔
      (units.map Prod.fst).Nodup ∧ words = units.flatMap (spelled lone) ∧
        ∀ entry ∈ units, lone entry.1 = true → entry.2 = mark := by
  constructor
  · intro done
    have none : (([] : List (α × α)).map Prod.fst).Nodup := List.nodup_nil
    obtain ⟨distinct, units', eq, spelling, marked⟩ := spelled_of_readUnits none done
    rw [List.nil_append] at eq
    subst eq
    exact ⟨distinct, spelling, marked⟩
  · intro spelling
    obtain ⟨distinct, rfl, marked⟩ := spelling
    exact @readUnits_spelled α lone mark _ [] units distinct marked

/-- With units of different names, none of whose values is wanted, the second reader finds the wanted
units. -/
lemma lastValues_spelled {wanted : α → Bool} (nodup : ((read ++ units).map Prod.fst).Nodup)
    (apart : ∀ entry ∈ units, wanted entry.1 = true → lone entry.1 = false)
    (values : ∀ entry ∈ units, wanted entry.2 = false) :
    lastValues wanted read (units.flatMap (spelled lone)) =
      read ++ units.filter fun entry => wanted entry.1 := by
  induction units generalizing read with
  | nil => rw [List.flatMap_nil, lastValues, List.filter_nil, List.append_nil]
  | cons entry units ih =>
    have split : read ++ entry :: units = (read ++ [entry]) ++ units := by
      rw [List.append_assoc, List.cons_append, List.nil_append]
    have fresh : ∀ other ∈ read, other.1 ≠ entry.1 := by
      intro other mem same
      exact fresh_of_nodup nodup (List.mem_map.mpr ⟨other, mem, same⟩)
    have kept : read.filter (fun other => other.1 ≠ entry.1) = read :=
      List.filter_eq_self.mpr fun other mem => decide_eq_true (fresh other mem)
    have apart' : ∀ other ∈ units, wanted other.1 = true → lone other.1 = false :=
      fun other mem => apart other (List.mem_cons_of_mem _ mem)
    have values' : ∀ other ∈ units, wanted other.2 = false :=
      fun other mem => values other (List.mem_cons_of_mem _ mem)
    have nodupRead : ((read ++ units).map Prod.fst).Nodup :=
      nodup.sublist (((List.sublist_cons_self entry units).append_left read).map Prod.fst)
    rw [List.flatMap_cons]
    cases want : wanted entry.1 with
    | true =>
      have pair := apart entry List.mem_cons_self want
      rw [spelled_pair pair, List.cons_append, List.singleton_append, lastValues, if_pos want, kept,
        lastValues, if_neg (by rw [values entry List.mem_cons_self]; exact Bool.false_ne_true),
        List.filter_cons_of_pos (p := fun entry : α × α => wanted entry.1) (a := entry) want, List.head?_cons,
        Option.map_some, Option.toList_some]
      rw [ih (split ▸ nodup) apart' values', List.append_assoc, List.singleton_append]
    | false =>
      have skip : ¬wanted entry.1 = true := by rw [want]; exact Bool.false_ne_true
      rw [List.filter_cons_of_neg (p := fun entry : α × α => wanted entry.1) (a := entry) skip]
      cases alone : lone entry.1 with
      | true =>
        rw [spelled_lone alone, List.singleton_append, lastValues, if_neg skip]
        exact ih nodupRead apart' values'
      | false =>
        rw [spelled_pair alone, List.cons_append, List.singleton_append, lastValues, if_neg skip,
          lastValues, if_neg (by rw [values entry List.mem_cons_self]; exact Bool.false_ne_true)]
        exact ih nodupRead apart' values'

end Reading

end Jaull.Lib
