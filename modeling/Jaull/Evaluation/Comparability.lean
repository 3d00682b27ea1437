import Jaull.Evaluation.Accepted
import Mathlib.Logic.Equiv.List

/-!
# Comparability

The three notions of comparability of accepted records: equal keys, equal digests of the compared fields,
and matching checks. The first two always agree. The checks compare schema versions with Python's `==`,
the digests compare them as texts, and nothing else sets the notions apart.
-/

namespace Jaull.Evaluation
open Jaull.Lib

variable {env : Surroundings} {record identity : Json}

section Digests

/-- A tree that has a digest. -/
structure Digestible (value : Json) : Prop where
  finite : value.leaves finiteLeaf = true
  short : value.leaves shortLeaf = true
  text : value.leaves textLeaf = true

/-- The digest of a tree that has one. -/
def shaOf (env : Surroundings) (value : Json) : String :=
  env.sha256 (render .compact 0 (sortKeys value))

/-- What can be digested has the digest of its canonical text. -/
lemma digest_of_digestible {value : Json} (able : Digestible value) :
    digest env value = .ok (shaOf env value) := by
  rw [digest, able.finite, Bool.not_true, if_neg (by decide), encoded, leaves_sortKeys,
    leaves_sortKeys, able.short, able.text]
  rfl

/-- And nothing else has one. -/
lemma digest_eq_ok {value : Json} {sha : String} :
    digest env value = .ok sha ↔ Digestible value ∧ sha = shaOf env value := by
  constructor
  · intro ok
    have able : Digestible value := by
      rw [digest] at ok
      split at ok
      · cases ok
      · rename_i finite
        obtain ⟨text, encodes, -⟩ := exists_of_map_eq_ok ok
        rw [encoded, leaves_sortKeys, leaves_sortKeys] at encodes
        split at encodes
        · cases encodes
        · rename_i short
          split at encodes
          · cases encodes
          · rename_i text
            exact ⟨by simpa using finite, by simpa using short, by simpa using text⟩
    rw [digest_of_digestible able] at ok
    exact ⟨able, (Except.ok.inj ok).symm⟩
  · intro ⟨able, eq⟩
    rw [digest_of_digestible able, eq]

/-- Digests agree where the values do, up to the order of keys. -/
lemma shaOf_eq_iff (inj : Function.Injective env.sha256) {v w : Json} :
    shaOf env v = shaOf env w ↔ sortKeys v = sortKeys w := by
  constructor
  · intro eq
    exact render_injective .compact (inj eq)
  · intro eq
    rw [shaOf, eq, shaOf]

/-- What can be digested is of fields that can be. -/
lemma Digestible.field {value member : Json} {name : String} (able : Digestible value)
    (found : value.field name = .ok member) : Digestible member :=
  ⟨leaves_field able.finite found, leaves_field able.short found, leaves_field able.text found⟩

/-- An object can be digested with its keys and values. -/
lemma digestible_obj {fields : List (PyString × Json)} :
    Digestible (.obj fields) ↔
      ∀ entry ∈ fields, textLeaf (.str entry.1) = true ∧ Digestible entry.2 := by
  constructor
  · intro able entry mem
    exact ⟨(leaves_obj.mp able.text entry mem).1, (leaves_obj.mp able.finite entry mem).2,
      (leaves_obj.mp able.short entry mem).2, (leaves_obj.mp able.text entry mem).2⟩
  · intro all
    exact ⟨leaves_obj.mpr fun entry mem => ⟨rfl, (all entry mem).2.finite⟩,
      leaves_obj.mpr fun entry mem => ⟨rfl, (all entry mem).2.short⟩,
      leaves_obj.mpr fun entry mem => ⟨(all entry mem).1, (all entry mem).2.text⟩⟩

/-- Without some of its fields it still can be. -/
lemma Digestible.filter {fields : List (PyString × Json)} (able : Digestible (.obj fields))
    (p : PyString × Json → Bool) : Digestible (.obj (fields.filter p)) :=
  digestible_obj.mpr fun entry mem =>
    digestible_obj.mp able entry (List.mem_filter.mp mem).1

/-! Which trees have a digest, one constructor at a time. -/

@[simp]
lemma digestible_null : Digestible .null :=
  ⟨rfl, rfl, rfl⟩

@[simp]
lemma digestible_bool (b : Bool) : Digestible (.bool b) :=
  ⟨rfl, rfl, rfl⟩

@[simp]
lemma digestible_str (text : String) : Digestible (.str (.text text)) :=
  ⟨rfl, rfl, rfl⟩

@[simp]
lemma digestible_finite (x : Decimal) : Digestible (.float (.finite x)) :=
  ⟨rfl, rfl, rfl⟩

/-- An integer that has a text can be digested. -/
lemma digestible_int {n : ℤ} (short : n.natAbs < 10 ^ 4300) : Digestible (.int n) := by
  refine ⟨rfl, ?_, rfl⟩
  rw [Json.leaves, shortLeaf]
  exact decide_eq_true short

@[simp]
lemma digestible_small {n : ℤ} (small : n.natAbs < 10 ^ 4) : Digestible (.int n) :=
  digestible_int (small.trans_le (Nat.pow_le_pow_right (by decide) (by decide)))

@[simp]
lemma digestible_arr {items : List Json} : Digestible (.arr items) ↔ ∀ item ∈ items, Digestible item := by
  constructor
  · intro able item mem
    exact ⟨leavesItems_iff.mp able.finite item mem, leavesItems_iff.mp able.short item mem,
      leavesItems_iff.mp able.text item mem⟩
  · intro all
    exact ⟨leavesItems_iff.mpr fun item mem => (all item mem).finite,
      leavesItems_iff.mpr fun item mem => (all item mem).short,
      leavesItems_iff.mpr fun item mem => (all item mem).text⟩

@[simp]
lemma digestible_nil : Digestible (.obj []) :=
  ⟨rfl, rfl, rfl⟩

@[simp]
lemma digestible_cons {key : String} {value : Json} {fields : List (PyString × Json)} :
    Digestible (.obj ((.text key, value) :: fields)) ↔ Digestible value ∧ Digestible (.obj fields) := by
  rw [digestible_obj, digestible_obj, List.forall_mem_cons]
  exact and_congr_left fun _ => and_iff_right rfl

end Digests

section Fields

/-- Normalising a field of an accepted identity. -/
lemma comparable_ok (valid : AcceptedIdentity env identity) (able : Digestible identity)
    {field : String} (mem : field ∈ comparedFields) :
    ∃ value, comparable identity field = .ok value ∧ Digestible value := by
  have known : field ∈ identityFields :=
    (by decide : ∀ name ∈ comparedFields, name ∈ identityFields) field mem
  obtain ⟨value, eq⟩ := valid.complete field known
  have ableValue := able.field eq
  rw [comparable, eq, lifted_ok, ok_bind]
  split
  · rename_i runtime
    rw [runtime] at eq
    obtain ⟨observable, holds, execution⟩ := valid.execution value eq
    rw [comparableRuntime, holds, lifted_ok, ok_bind]
    split
    · rename_i yes
      obtain ⟨inner, innerEq⟩ := execution yes
      obtain ⟨fields, rfl, found⟩ := field_eq_ok.mp innerEq
      refine ⟨_, by rw [innerEq]; rfl, ?_⟩
      rw [digestible_obj]
      intro entry inside
      rcases mem_dictSet inside with rfl | inside
      · exact ⟨rfl, (ableValue.field innerEq).filter _⟩
      · exact digestible_obj.mp ableValue entry inside
    · exact ⟨value, rfl, ableValue⟩
  · split
    · rename_i evaluator
      obtain ⟨protocol, shared⟩ := valid.shared
      obtain ⟨value', context, eq', found⟩ := shared.evaluator
      rw [evaluator.1, eq'] at eq
      cases eq
      obtain ⟨fields, rfl, -⟩ := field_eq_ok.mp found
      exact ⟨_, rfl, ableValue.filter _⟩
    · exact ⟨value, rfl, ableValue⟩

/-- The normalised fields of an accepted identity. -/
structure Normalised (identity : Json) (names : List String) (fields : List (PyString × Json)) :
    Prop where
  fields_eq : comparableFields identity names = .ok fields
  keys : fields.map Prod.fst = names.map .text
  able : ∀ entry ∈ fields, Digestible entry.2

/-- The compared fields of an accepted identity can be normalised. -/
lemma comparableFields_ok (valid : AcceptedIdentity env identity) (able : Digestible identity)
    {names : List String} (sub : ∀ name ∈ names, name ∈ comparedFields) :
    ∃ fields, Normalised identity names fields := by
  induction names with
  | nil =>
    refine ⟨[], rfl, rfl, ?_⟩
    intro entry mem
    cases mem
  | cons name names ih =>
    obtain ⟨first, rest⟩ := List.forall_mem_cons.mp sub
    obtain ⟨value, valueEq, ableValue⟩ := comparable_ok valid able first
    obtain ⟨fields, normal⟩ := ih rest
    refine ⟨(.text name, value) :: fields, ?_, ?_, List.forall_mem_cons.mpr ⟨ableValue, normal.able⟩⟩
    · rw [comparableFields, valueEq, ok_bind, normal.fields_eq]
      rfl
    · rw [List.map_cons, List.map_cons, normal.keys]

/-- The first normalised field, and the others. -/
lemma Normalised.tail {name : String} {names : List String} {fields : List (PyString × Json)}
    (normal : Normalised identity (name :: names) fields) :
    ∃ value rest, fields = (.text name, value) :: rest ∧ comparable identity name = .ok value ∧
      Digestible value ∧ Normalised identity names rest := by
  have eq := normal.fields_eq
  rw [comparableFields, bind_eq_ok] at eq
  obtain ⟨value, valueEq, eq⟩ := eq
  obtain ⟨rest, restEq, eq⟩ := bind_eq_ok.mp eq
  cases eq
  have keys := (List.cons.inj normal.keys).2
  obtain ⟨first, others⟩ := List.forall_mem_cons.mp normal.able
  exact ⟨value, rest, rfl, valueEq, first, restEq, keys, others⟩

/-- The digests of normalised fields. -/
lemma fieldDigests_ok {names : List String} {fields : List (PyString × Json)}
    (normal : Normalised identity names fields) :
    fieldDigests env identity names =
      .ok (names.zip (fields.map fun entry => shaOf env entry.2)) := by
  induction names generalizing fields with
  | nil => rfl
  | cons name names ih =>
    obtain ⟨value, rest, rfl, valueEq, able, normal⟩ := normal.tail
    rw [fieldDigests, valueEq, ok_bind, digest_of_digestible able, lifted_ok, ok_bind, ih normal]
    rfl

/-- The checks of normalised fields are the same both ways, and all match when the digests do. -/
lemma fieldChecks_ok {left right : Json} {names : List String} {as bs : List (PyString × Json)}
    (normalL : Normalised left names as) (normalR : Normalised right names bs) :
    ∃ checks, fieldChecks env left right names = .ok checks ∧
      fieldChecks env right left names = .ok checks ∧
      ((∀ check ∈ checks, check.agrees = true) ↔
        as.map (fun entry => shaOf env entry.2) = bs.map fun entry => shaOf env entry.2) := by
  induction names generalizing as bs with
  | nil =>
    have noneL : as = [] := List.map_eq_nil_iff.mp normalL.keys
    have noneR : bs = [] := List.map_eq_nil_iff.mp normalR.keys
    rw [noneL, noneR]
    refine ⟨[], rfl, rfl, ?_⟩
    simp
  | cons name names ih =>
    obtain ⟨v, as, rfl, vEq, ableV, normalL⟩ := normalL.tail
    obtain ⟨w, bs, rfl, wEq, ableW, normalR⟩ := normalR.tail
    obtain ⟨checks, checksEq, checksEq', agree⟩ := ih normalL normalR
    refine ⟨⟨name, shaOf env v = shaOf env w⟩ :: checks, ?_, ?_, ?_⟩
    · rw [fieldChecks, vEq, ok_bind, digest_of_digestible ableV, lifted_ok, ok_bind, wEq, ok_bind,
        digest_of_digestible ableW, lifted_ok, ok_bind, checksEq]
      rfl
    · rw [fieldChecks, wEq, ok_bind, digest_of_digestible ableW, lifted_ok, ok_bind, vEq, ok_bind,
        digest_of_digestible ableV, lifted_ok, ok_bind, checksEq', decide_eq_decide.mpr eq_comm]
      rfl
    · rw [List.forall_mem_cons, agree, List.map_cons, List.map_cons, List.cons.injEq]
      simp only [decide_eq_true_eq]

end Fields

section Versions

/-- A number equals what has its magnitude. -/
lemma pyEq_number {v w : Json} (number : v.magnitude.isSome) :
    pyEq v w = match v.magnitude, w.magnitude with
      | some .nan, _ => false
      | some m, some n => m = n
      | _, _ => false := by
  cases v with
  | null => cases number
  | str s => cases number
  | arr items => cases number
  | obj fields => cases number
  | _ => cases w <;> rfl

/-- Numbers that are known exactly are equal as rationals. -/
lemma pyEq_of_magnitudes {v w : Json} {q r : ℚ} (left : v.magnitude = some (.exact q))
    (right : w.magnitude = some (.exact r)) : pyEq v w = decide (q = r) := by
  have number : v.magnitude.isSome := by
    rw [left]
    rfl
  rw [pyEq_number number, left, right]
  exact decide_eq_decide.mpr (by rw [Magnitude.exact.injEq])

/-- An accepted schema version is a boolean, an integer or a float that equals a small integer. -/
lemma version_scalar {version : Json} {n : ℤ} (small : n ∈ [1, 2, 3, 4])
    (same : pyEq version (.int n) = true) :
    Digestible version ∧ sortKeys version = version ∧ version.magnitude = some (.exact n) := by
  have magnitude := magnitude_of_pyEq_int same
  refine ⟨?_, ?_, magnitude⟩
  · cases version with
    | bool b => exact ⟨rfl, rfl, rfl⟩
    | int m =>
      have eq : m = n := by simpa [Json.magnitude] using magnitude
      refine ⟨rfl, ?_, rfl⟩
      rw [eq, Json.leaves, shortLeaf]
      simp only [List.mem_cons, List.not_mem_nil, or_false] at small
      rcases small with rfl | rfl | rfl | rfl <;> decide +kernel
    | float x =>
      cases x with
      | finite d => exact ⟨rfl, rfl, rfl⟩
      | nan => cases magnitude
      | infinity negative => cases magnitude
    | null => cases magnitude
    | str s => cases magnitude
    | arr items => cases magnitude
    | obj fields => cases magnitude
  · cases version with
    | arr items => cases magnitude
    | obj fields => cases magnitude
    | _ => rw [sortKeys]

end Versions

section Records

/-- What the three notions read of an accepted record. -/
structure Compared (record identity : Json) (fields : List (PyString × Json)) (version : Json)
    (classification : String) : Prop where
  identityEq : record.field "identity" = .ok identity
  normal : Normalised identity comparedFields fields
  versionEq : record.field "schema_version" = .ok version
  ableVersion : Digestible version
  sortedVersion : sortKeys version = version
  exactVersion : ∃ q, version.magnitude = some (.exact q)
  classificationEq : record.field "classification" = .ok (.str (.text classification))

/-- An accepted record can be compared. -/
lemma compared_of_valid (ok : validateRecord env record = .ok ()) :
    ∃ identity fields version classification,
      Compared record identity fields version classification := by
  obtain ⟨identity, tables, accepted⟩ := validateRecord_ok ok
  obtain ⟨sha, shaEq, -⟩ := accepted.checksum
  obtain ⟨able, -⟩ := digest_eq_ok.mp shaEq
  obtain ⟨fields, normal⟩ := comparableFields_ok accepted.valid able (fun name mem => mem)
  obtain ⟨version, n, versionEq, small, same⟩ := accepted.version
  obtain ⟨ableVersion, sorted, exact⟩ := version_scalar small same
  obtain ⟨classification, classificationEq, known⟩ := accepted.belongs.classification
  simp only [classifications, List.any_cons, List.any_nil, Bool.or_false, Bool.or_eq_true,
    pyEq_str] at known
  rcases known with rfl | rfl | rfl
  all_goals exact ⟨identity, fields, version, _, accepted.field, normal, versionEq, ableVersion,
    sorted, ⟨_, exact⟩, classificationEq⟩

/-- What is digested into the key of a record. -/
def keyed (fields : List (PyString × Json)) (version : Json) (classification : String) :
    List (PyString × Json) :=
  fields ++ [(.text "schema_version", version), (.text "classification", .str (.text classification))]

variable {fields : List (PyString × Json)} {version : Json} {classification : String}

/-- Its key is the digest of what is compared. -/
lemma Compared.key (compared : Compared record identity fields version classification) :
    comparisonKey env record = .ok (shaOf env (.obj (keyed fields version classification))) := by
  have able : Digestible (.obj (keyed fields version classification)) := by
    rw [digestible_obj]
    intro entry mem
    rcases List.mem_append.mp mem with mem | mem
    · refine ⟨?_, compared.normal.able entry mem⟩
      have key : entry.1 ∈ fields.map Prod.fst := List.mem_map_of_mem mem
      rw [compared.normal.keys] at key
      obtain ⟨name, -, eq⟩ := List.mem_map.mp key
      rw [← eq]
      rfl
    · simp only [List.mem_cons, List.not_mem_nil, or_false] at mem
      rcases mem with rfl | rfl
      · exact ⟨rfl, compared.ableVersion⟩
      · exact ⟨rfl, digestible_str classification⟩
  rw [comparisonKey, compared.identityEq, lifted_ok, ok_bind, compared.normal.fields_eq, ok_bind,
    compared.versionEq, lifted_ok, ok_bind, compared.classificationEq, lifted_ok, ok_bind]
  exact congrArg lifted (digest_of_digestible able)

/-- Its fields are the digests of each. -/
lemma Compared.fields_eq (compared : Compared record identity fields version classification) :
    comparisonFields env record = .ok (comparedFields.zip (fields.map fun e => shaOf env e.2) ++
      [("schema_version", shaOf env version),
        ("classification", shaOf env (.str (.text classification)))]) := by
  rw [comparisonFields, compared.identityEq, lifted_ok, ok_bind, fieldDigests_ok compared.normal,
    ok_bind, compared.versionEq, lifted_ok, ok_bind, digest_of_digestible compared.ableVersion,
    lifted_ok, ok_bind, compared.classificationEq, lifted_ok, ok_bind,
    digest_of_digestible (digestible_str classification)]
  rfl

/-- The checks of two accepted records are the same both ways. -/
lemma Compared.checks {left right l r : Json} {as bs : List (PyString × Json)} {v w : Json}
    {c d : String} (comparedL : Compared left l as v c) (comparedR : Compared right r bs w d) :
    ∃ checks, comparisonChecks env left right = .ok checks ∧
      comparisonChecks env right left = .ok checks ∧
      ((∀ check ∈ checks, check.agrees = true) ↔
        as.map (fun e => shaOf env e.2) = bs.map (fun e => shaOf env e.2) ∧
          pyEq v w = true ∧ c = d) := by
  obtain ⟨checks, checksEq, checksEq', agree⟩ := fieldChecks_ok comparedL.normal comparedR.normal
  obtain ⟨q, exactL⟩ := comparedL.exactVersion
  obtain ⟨r, exactR⟩ := comparedR.exactVersion
  have versions : pyEq w v = pyEq v w := by
    rw [pyEq_of_magnitudes exactR exactL, pyEq_of_magnitudes exactL exactR]
    exact decide_eq_decide.mpr eq_comm
  have classes : pyEq (.str (.text d)) (.str (.text c)) = pyEq (.str (.text c)) (.str (.text d)) := by
    rw [Bool.eq_iff_iff, pyEq_str, pyEq_str, eq_comm]
  refine ⟨checks ++ [⟨"schema_version", pyEq v w⟩,
    ⟨"classification", pyEq (.str (.text c)) (.str (.text d))⟩], ?_, ?_, ?_⟩
  · rw [comparisonChecks, comparedL.identityEq, lifted_ok, ok_bind, comparedR.identityEq, lifted_ok,
      ok_bind, checksEq, ok_bind, comparedL.versionEq, lifted_ok, ok_bind, comparedR.versionEq,
      lifted_ok, ok_bind, comparedL.classificationEq, lifted_ok, ok_bind,
      comparedR.classificationEq, lifted_ok, ok_bind]
    rfl
  · rw [comparisonChecks, comparedR.identityEq, lifted_ok, ok_bind, comparedL.identityEq, lifted_ok,
      ok_bind, checksEq', ok_bind, comparedR.versionEq, lifted_ok, ok_bind, comparedL.versionEq,
      lifted_ok, ok_bind, comparedR.classificationEq, lifted_ok, ok_bind,
      comparedL.classificationEq, lifted_ok, ok_bind, versions, classes]
    rfl
  · rw [List.forall_mem_append, agree, List.forall_mem_cons, List.forall_mem_singleton, pyEq_str]
    refine and_congr_right fun _ => and_congr_right fun _ => ?_
    constructor
    · intro eq
      cases eq
      rfl
    · intro eq
      rw [eq]

/-- The compared fields and the classification of two records are the same. -/
def SameContent (a b : Json) : Prop :=
  ∃ identityA identityB fieldsA fieldsB classification,
    a.field "identity" = .ok identityA ∧ b.field "identity" = .ok identityB ∧
      comparableFields identityA comparedFields = .ok fieldsA ∧
      comparableFields identityB comparedFields = .ok fieldsB ∧
      sortKeys (.obj fieldsA) = sortKeys (.obj fieldsB) ∧
      a.field "classification" = .ok classification ∧ b.field "classification" = .ok classification

/-- Two records that are the same but for schema versions that are equal numbers of different types. -/
def VersionsDrift (a b : Json) : Prop :=
  SameContent a b ∧ ∃ versionA versionB, a.field "schema_version" = .ok versionA ∧
    b.field "schema_version" = .ok versionB ∧ pyEq versionA versionB = true ∧ versionA ≠ versionB

variable {a b identityA identityB : Json} {as bs : List (PyString × Json)} {versionA versionB : Json}
  {c d : String}

/-- Sorted values of the compared fields. -/
def contents (fields : List (PyString × Json)) : List Json :=
  fields.map fun e => sortKeys e.2

/-- Equal digests field by field are equal contents. -/
lemma map_shaOf_eq_iff (inj : Function.Injective env.sha256) {as bs : List (PyString × Json)} :
    as.map (fun e => shaOf env e.2) = bs.map (fun e => shaOf env e.2) ↔ contents as = contents bs := by
  induction as generalizing bs with
  | nil =>
    cases bs with
    | nil => simp [contents]
    | cons b bs => simp [contents]
  | cons a as ih =>
    cases bs with
    | nil => simp [contents]
    | cons b bs =>
      simp only [contents, List.map_cons, List.cons.injEq] at ih ⊢
      rw [shaOf_eq_iff inj, ih]

lemma keys_nodup (comparedA : Compared a identityA as versionA c) : (as.map Prod.fst).Nodup := by
  rw [comparedA.normal.keys]
  decide +kernel

/-- The keys of accepted records are equal exactly when contents, classification and the text of the
version are. -/
lemma key_eq_iff (inj : Function.Injective env.sha256)
    (comparedA : Compared a identityA as versionA c) (comparedB : Compared b identityB bs versionB d) :
    shaOf env (.obj (keyed as versionA c)) = shaOf env (.obj (keyed bs versionB d)) ↔
      contents as = contents bs ∧ versionA = versionB ∧ c = d := by
  have keys : (keyed as versionA c).map Prod.fst = (keyed bs versionB d).map Prod.fst := by
    rw [keyed, keyed, List.map_append, List.map_append, comparedA.normal.keys, comparedB.normal.keys]
    rfl
  have nodup : ((keyed as versionA c).map Prod.fst).Nodup := by
    rw [keyed, List.map_append, comparedA.normal.keys]
    exact (by decide +kernel : (comparedFields.map PyString.text ++
      [PyString.text "schema_version", PyString.text "classification"]).Nodup)
  have length : (contents as).length = (contents bs).length := by
    have same := congrArg List.length (comparedA.normal.keys.trans comparedB.normal.keys.symm)
    simpa [contents] using same
  have values : (keyed as versionA c).map (fun e => sortKeys e.2) =
      (keyed bs versionB d).map (fun e => sortKeys e.2) ↔
      contents as = contents bs ∧ versionA = versionB ∧ c = d := by
    have shape : ∀ (fields : List (PyString × Json)) (v : Json) (k : String),
        (keyed fields v k).map (fun e => sortKeys e.2) =
          contents fields ++ [sortKeys v, .str (.text k)] := by
      intro fields v k
      rw [keyed, List.map_append]
      rfl
    rw [shape, shape, comparedA.sortedVersion, comparedB.sortedVersion]
    constructor
    · intro eq
      obtain ⟨front, back⟩ := List.append_inj eq length
      simp only [List.cons.injEq, Json.str.injEq, PyString.text.injEq, and_true] at back
      exact ⟨front, back⟩
    · intro ⟨front, version, classification⟩
      rw [front, version, classification]
  rw [shaOf_eq_iff inj, ← values]
  simp only [sortKeys, Json.obj.injEq]
  exact ⟨values_of_sortFields_eq keys nodup, sortFields_congr keys⟩

/-- The same of the digests of the fields. -/
lemma fields_eq_iff (inj : Function.Injective env.sha256)
    (comparedA : Compared a identityA as versionA c) (comparedB : Compared b identityB bs versionB d) :
    comparedFields.zip (as.map fun e => shaOf env e.2) ++ [("schema_version", shaOf env versionA),
        ("classification", shaOf env (.str (.text c)))] =
      comparedFields.zip (bs.map fun e => shaOf env e.2) ++ [("schema_version", shaOf env versionB),
        ("classification", shaOf env (.str (.text d)))] ↔
      contents as = contents bs ∧ versionA = versionB ∧ c = d := by
  have length : ∀ {x : Json} {xs : List (PyString × Json)} {v : Json} {k : String} {y : Json},
      Compared x y xs v k → (xs.map fun e => shaOf env e.2).length = comparedFields.length := by
    intro x xs v k y compared
    have same := congrArg List.length compared.normal.keys
    simpa using same
  have second : ∀ {x : Json} {xs : List (PyString × Json)} {v : Json} {k : String} {y : Json},
      Compared x y xs v k → (comparedFields.zip (xs.map fun e => shaOf env e.2)).map Prod.snd =
        xs.map fun e => shaOf env e.2 :=
    fun compared => List.map_snd_zip (length compared).le
  constructor
  · intro eq
    obtain ⟨front, back⟩ := List.append_inj eq (by
      rw [List.length_zip, List.length_zip, length comparedA, length comparedB])
    have shas := congrArg (List.map Prod.snd) front
    rw [second comparedA, second comparedB, map_shaOf_eq_iff inj] at shas
    simp only [List.cons.injEq, Prod.mk.injEq, true_and, and_true, shaOf_eq_iff inj,
      comparedA.sortedVersion, comparedB.sortedVersion, sortKeys, Json.str.injEq,
      PyString.text.injEq] at back
    exact ⟨shas, back⟩
  · intro ⟨same, version, classification⟩
    rw [(map_shaOf_eq_iff inj).mpr same, version, classification]

/-- Two accepted records are the same content exactly when their sorted contents are. -/
lemma sameContent_iff (comparedA : Compared a identityA as versionA c)
    (comparedB : Compared b identityB bs versionB d) :
    SameContent a b ↔ contents as = contents bs ∧ c = d := by
  have keys : as.map Prod.fst = bs.map Prod.fst :=
    comparedA.normal.keys.trans comparedB.normal.keys.symm
  have sorted : sortKeys (.obj as) = sortKeys (.obj bs) ↔ contents as = contents bs := by
    simp only [sortKeys, Json.obj.injEq]
    exact ⟨values_of_sortFields_eq keys (keys_nodup comparedA), sortFields_congr keys⟩
  constructor
  · intro ⟨identityA', identityB', as', bs', classification, idA, idB, fieldsA, fieldsB, same, classA,
      classB⟩
    rw [comparedA.identityEq] at idA
    rw [comparedB.identityEq] at idB
    cases idA
    cases idB
    rw [comparedA.normal.fields_eq] at fieldsA
    rw [comparedB.normal.fields_eq] at fieldsB
    cases fieldsA
    cases fieldsB
    rw [comparedA.classificationEq] at classA
    cases classA
    rw [comparedB.classificationEq] at classB
    cases classB
    exact ⟨sorted.mp same, rfl⟩
  · intro ⟨same, classification⟩
    subst classification
    exact ⟨identityA, identityB, as, bs, _, comparedA.identityEq, comparedB.identityEq,
      comparedA.normal.fields_eq, comparedB.normal.fields_eq, sorted.mpr same,
      comparedA.classificationEq, comparedB.classificationEq⟩

/-- The drift in terms of what is compared. -/
lemma versionsDrift_iff (comparedA : Compared a identityA as versionA c)
    (comparedB : Compared b identityB bs versionB d) :
    VersionsDrift a b ↔ (contents as = contents bs ∧ c = d) ∧ pyEq versionA versionB = true ∧
      versionA ≠ versionB := by
  rw [VersionsDrift, sameContent_iff comparedA comparedB]
  refine and_congr_right fun _ => ?_
  constructor
  · intro ⟨v, w, eqV, eqW, same, apart⟩
    rw [comparedA.versionEq] at eqV
    rw [comparedB.versionEq] at eqW
    cases eqV
    cases eqW
    exact ⟨same, apart⟩
  · intro ⟨same, apart⟩
    exact ⟨versionA, versionB, comparedA.versionEq, comparedB.versionEq, same, apart⟩

/-- A comparison that returns lists the checks of its records. -/
lemma checks_of_compare {rng : Generator} {leftSource rightSource : String} {comparison : Comparison}
    {checks : List Check} (eq : comparisonChecks env a b = .ok checks)
    (run : compareQualityRecords env rng a b leftSource rightSource = .ok comparison) :
    comparison.checks = checks := by
  simp only [compareQualityRecords, bind_eq_ok, eq] at run
  obtain ⟨_, -, _, -, checks', same, _, -, _, -, _, -, _, -, _, -, result⟩ := run
  cases same
  cases result
  rfl

/-- For accepted records the keys, the digests of the fields and the checks can be computed, and they
agree on whether the records are comparable unless the records differ in nothing but the type of equal
schema versions. -/
theorem comparability_iff (inj : Function.Injective env.sha256) {a b : Json}
    (okA : validateRecord env a = .ok ()) (okB : validateRecord env b = .ok ()) :
    ∃ keyA keyB fieldsA fieldsB checks,
      comparisonKey env a = .ok keyA ∧ comparisonKey env b = .ok keyB ∧
      comparisonFields env a = .ok fieldsA ∧ comparisonFields env b = .ok fieldsB ∧
      comparisonChecks env a b = .ok checks ∧
      (∀ rng leftSource rightSource comparison,
        compareQualityRecords env rng a b leftSource rightSource = .ok comparison →
          comparison.checks = checks) ∧
      (((keyA = keyB ↔ fieldsA = fieldsB) ∧
          (fieldsA = fieldsB ↔ ∀ check ∈ checks, check.agrees = true)) ↔ ¬VersionsDrift a b) := by
  obtain ⟨identityA, as, versionA, c, comparedA⟩ := compared_of_valid okA
  obtain ⟨identityB, bs, versionB, d, comparedB⟩ := compared_of_valid okB
  obtain ⟨checks, checksEq, -, agree⟩ := comparedA.checks comparedB
  refine ⟨_, _, _, _, checks, comparedA.key, comparedB.key, comparedA.fields_eq, comparedB.fields_eq,
    checksEq, fun rng l r comparison run => checks_of_compare checksEq run, ?_⟩
  rw [agree, map_shaOf_eq_iff inj, key_eq_iff inj comparedA comparedB,
    fields_eq_iff inj comparedA comparedB, versionsDrift_iff comparedA comparedB]
  -- equal versions are equal to Python, but not conversely
  have equal : versionA = versionB → pyEq versionA versionB = true := by
    intro eq
    obtain ⟨q, exact⟩ := comparedA.exactVersion
    rw [← eq, pyEq_of_magnitudes exact exact, decide_eq_true rfl]
  constructor
  · intro ⟨_, agree⟩ ⟨⟨same, classification⟩, versions, apart⟩
    exact apart (agree.mpr ⟨same, versions, classification⟩).2.1
  · intro none
    refine ⟨Iff.rfl, ?_, ?_⟩
    · intro ⟨same, versions, classification⟩
      exact ⟨same, equal versions, classification⟩
    · intro ⟨same, versions, classification⟩
      refine ⟨same, ?_, classification⟩
      by_contra apart
      exact none ⟨⟨same, classification⟩, versions, apart⟩

end Records

section Example

/-- Surroundings in which different texts have different digests. -/
def exampleSurroundings : Surroundings where
  sha256 codes := String.ofList (Nat.toDigits 10 (Encodable.encode codes))
  loads _ := .malformed "Expecting value"
  levels _ := 498
  observed _ _ _ := .missing
  observedExternal _ _ := .missing

lemma exampleSurroundings_injective : Function.Injective exampleSurroundings.sha256 := by
  intro l m eq
  exact Encodable.encode_injective (toDigits_injective (String.ofList_injective eq))

/-- Sixty-four zeros. -/
def zeroSha : Json :=
  .str "0000000000000000000000000000000000000000000000000000000000000000"

/-- A digest can be digested. -/
@[simp]
lemma digestible_zeroSha : Digestible zeroSha :=
  digestible_str _

/-- Forty zeros. -/
def zeroCommit : Json :=
  .str "0000000000000000000000000000000000000000"

/-- A selected sample. -/
def exampleSample (id : ℤ) : List (PyString × Json) :=
  [("doc_id", .int id), ("doc_hash", zeroSha), ("prompt_hash", zeroSha), ("target_hash", zeroSha),
    ("arguments", .arr [.str "ctx"])]

/-- The identity of an artifact on two samples of HellaSwag. -/
def exampleIdentity (artifact : Json) : Json :=
  .obj [("artifact_sha256", artifact),
    ("suite", .obj [("name", .str "jaull-hellaswag-100-v1"), ("sha256", zeroSha)]),
    ("dataset", .obj [("repo", .str "hellaswag"), ("revision", zeroCommit), ("sha256", zeroSha),
      ("sample_ids", .arr [.int 0, .int 1]), ("total_samples", .int 2)]),
    ("samples", .arr [.obj (exampleSample 0), .obj (exampleSample 1)]),
    ("evaluator", .obj [("evaluator_commit", zeroCommit), ("backend_sha256", zeroSha),
      ("suite_sha256", zeroSha), ("sample_ids", .arr [.int 0, .int 1]), ("num_fewshot", .int 0),
      ("context", .int 2048), ("apply_chat_template", .bool false), ("system_instruction", .null),
      ("generation", .null), ("use_cache", .null), ("cache_requests", .bool false),
      ("seeds", .arr [.int 0]), ("server_seed", .int 0), ("python", .str "3.12"),
      ("packages", .obj [("lm-eval", .str "0.4")])]),
    ("runtime", .obj [("server_sha256", zeroSha), ("image_id", zeroSha), ("fingerprint", .str "b1"),
      ("backend_flags", .arr [.str "--seed", .str "0"]), ("server_defaults_sha256", zeroSha)]),
    ("protocol", supportedProtocol)]

/-- A sample with its responses. -/
def exampleResult (id : ℤ) (acc : Json) : Json :=
  let score := .arr [.int (-1), .bool true]
  .obj (exampleSample id ++ [(.text "resps", .arr [.arr [score]]),
    (.text "filtered_resps", .arr [score]), (.text "acc", acc), (.text "acc_norm", .int 1)])

/-- A limited record of two samples. -/
def exampleRecord (version artifact : Json) (hardware : PyString) (accs : Json × Json) (mean : Json) :
    Json :=
  let task : PyString := "jaull-hellaswag-100-v1"
  .obj [("schema_version", version), ("status", .str "completed"), ("classification", .str "limited"),
    ("identity", exampleIdentity artifact),
    ("identity_sha256", .str (shaOf exampleSurroundings (exampleIdentity artifact))),
    ("provenance", .obj [("hardware", .str hardware)]),
    ("result", .obj [
      ("n-samples", .obj [(task, .obj [("original", .int 2), ("effective", .int 2)])]),
      ("samples", .obj [(task, .arr [exampleResult 0 accs.1, exampleResult 1 accs.2])]),
      ("results", .obj [(task, .obj [("acc,none", mean), ("acc_norm,none", .int 1)])]),
      ("configs", .obj [(task, .str "hellaswag")])])]

/-- The float of schema version one. -/
def oneFloat : Json :=
  .float (.finite ⟨false, 1, 0, by decide⟩)

/-- A record of an artifact that answers both samples. -/
def perfectRecord (version : Json) : Json :=
  exampleRecord version zeroSha "workstation" (.int 1, .int 1) (.int 1)

/-- A half. -/
def halfFloat : Json :=
  .float (.finite ⟨false, 5, -1, by decide⟩)

/-- A record of one right answer of two. -/
def mixedRecord : Json :=
  exampleRecord (.int 1) zeroSha "workstation" (.int 1, .int 0) halfFloat

/-- What is left to check of the results of a scoring record. -/
def validateScoringResults (record identity : Json) : Except PyError Unit := do
  let tables ← scoringResults record identity
  tables.samples.forM validateScoringSample
  scoringMetrics.forM fun metric =>
    validateMetric tables.results metric (shareOf (column tables.samples metric))

section Accepted
variable {version artifact mean : Json} {hardware : PyString} {accs : Json × Json}

/-- An example carries the digest of its identity. -/
lemma validateChecksum_example (able : Digestible (exampleIdentity artifact)) (some : hardware ≠ "") :
    validateChecksum exampleSurroundings (exampleRecord version artifact hardware accs mean)
      (exampleIdentity artifact) = .ok () := by
  have provenance : (exampleRecord version artifact hardware accs mean).field "provenance" =
      .ok (.obj [("hardware", .str hardware)]) := rfl
  have stated : (exampleRecord version artifact hardware accs mean).field "identity_sha256" =
      .ok (.str (.text (shaOf exampleSurroundings (exampleIdentity artifact)))) := rfl
  have present : (Json.obj [("hardware", .str hardware)]).field "hardware" = .ok (.str hardware) := rfl
  have truthy : (Json.str hardware).truthy = true := by
    rw [Json.truthy]
    exact decide_eq_true some
  rw [validateChecksum, provenance, ok_bind, present, ok_bind, truthy, stated, ok_bind,
    digest_of_digestible able, ok_bind, pyEq_str.mpr rfl]
  rfl

/-- A scoring record without observable runtime is accepted when its parts are. -/
lemma exampleRecord_accepted
    (generation : isOneOf version [.int 2, .int 4] = .ok false)
    (head : scoringHead (exampleRecord version artifact hardware accs mean) =
      .ok (exampleIdentity artifact, false))
    (able : Digestible (exampleIdentity artifact)) (some : hardware ≠ "")
    (valid : validateIdentity exampleSurroundings (exampleIdentity artifact) = .ok ())
    (results : validateScoringResults (exampleRecord version artifact hardware accs mean)
      (exampleIdentity artifact) = .ok ()) :
    validateRecord exampleSurroundings (exampleRecord version artifact hardware accs mean) = .ok () := by
  have scoring : validateRecord exampleSurroundings
      (exampleRecord version artifact hardware accs mean) =
        validateScoringRecord exampleSurroundings
          (exampleRecord version artifact hardware accs mean) := by
    change (lifted (isOneOf version [.int 2, .int 4]) >>= fun generation =>
      if generation then _ else _) = _
    rw [generation]
    rfl
  rw [scoring, validateScoringRecord, head, lifted_ok, ok_bind, valid, ok_bind, doIf,
    if_neg Bool.false_ne_true, ok_bind, validateChecksum_example able some, lifted_ok, ok_bind]
  exact results

/-- The identity of the example can be digested. -/
lemma exampleIdentity_digestible : Digestible (exampleIdentity zeroSha) := by
  simp (disch := decide) [exampleIdentity, exampleSample, zeroCommit, supportedProtocol]

/-- It is accepted. -/
lemma exampleIdentity_valid :
    validateIdentity exampleSurroundings (exampleIdentity zeroSha) = .ok () := by
  decide +kernel

/-- The record of two right answers is accepted. -/
lemma perfectRecord_accepted :
    validateRecord exampleSurroundings (perfectRecord (.int 1)) = .ok () :=
  exampleRecord_accepted (by decide +kernel) (by decide +kernel) exampleIdentity_digestible
    (by decide +kernel) exampleIdentity_valid (by decide +kernel)

/-- So is the one with a float for its version. -/
lemma perfectRecord_float_accepted :
    validateRecord exampleSurroundings (perfectRecord oneFloat) = .ok () :=
  exampleRecord_accepted (by decide +kernel) (by decide +kernel) exampleIdentity_digestible
    (by decide +kernel) exampleIdentity_valid (by decide +kernel)

/-- The record of one right answer is accepted. -/
lemma mixedRecord_accepted : validateRecord exampleSurroundings mixedRecord = .ok () :=
  exampleRecord_accepted (by decide +kernel) (by decide +kernel) exampleIdentity_digestible
    (by decide +kernel) exampleIdentity_valid (by decide +kernel)

end Accepted

/-- Records of schema versions `1` and `1.0` have different keys, and all their checks match. -/
theorem comparability_of_one_and_float :
    Function.Injective exampleSurroundings.sha256 ∧
      validateRecord exampleSurroundings (perfectRecord (.int 1)) = .ok () ∧
      validateRecord exampleSurroundings (perfectRecord oneFloat) = .ok () ∧
      ∃ keyA keyB checks,
        comparisonKey exampleSurroundings (perfectRecord (.int 1)) = .ok keyA ∧
        comparisonKey exampleSurroundings (perfectRecord oneFloat) = .ok keyB ∧
        comparisonChecks exampleSurroundings (perfectRecord (.int 1)) (perfectRecord oneFloat) =
          .ok checks ∧
        (∀ check ∈ checks, check.agrees = true) ∧ keyA ≠ keyB := by
  refine ⟨exampleSurroundings_injective, perfectRecord_accepted, perfectRecord_float_accepted, ?_⟩
  obtain ⟨identityA, as, versionA, c, comparedA⟩ := compared_of_valid perfectRecord_accepted
  obtain ⟨identityB, bs, versionB, d, comparedB⟩ := compared_of_valid perfectRecord_float_accepted
  obtain ⟨checks, checksEq, -, agree⟩ := comparedA.checks comparedB
  have identities : identityA = identityB :=
    Except.ok.inj (comparedA.identityEq.symm.trans comparedB.identityEq)
  have fields : as = bs := by
    have eqA := comparedA.normal.fields_eq
    rw [identities, comparedB.normal.fields_eq] at eqA
    exact (Except.ok.inj eqA).symm
  have classes : c = d := by
    have eq := Except.ok.inj (comparedA.classificationEq.symm.trans comparedB.classificationEq)
    cases eq
    rfl
  have one : versionA = .int 1 := (Except.ok.inj comparedA.versionEq).symm
  have float : versionB = oneFloat := (Except.ok.inj comparedB.versionEq).symm
  refine ⟨_, _, checks, comparedA.key, comparedB.key, checksEq, agree.mpr ⟨by rw [fields], ?_, classes⟩,
    ?_⟩
  · rw [one, float]
    decide +kernel
  · rw [Ne, key_eq_iff exampleSurroundings_injective comparedA comparedB, one, float]
    intro ⟨_, versions, _⟩
    cases versions

/-- The notions agree on two runs with different answers. -/
theorem comparability_iff_mixed :
    ∃ keyA keyB fieldsA fieldsB checks,
      comparisonKey exampleSurroundings (perfectRecord (.int 1)) = .ok keyA ∧
      comparisonKey exampleSurroundings mixedRecord = .ok keyB ∧
      comparisonFields exampleSurroundings (perfectRecord (.int 1)) = .ok fieldsA ∧
      comparisonFields exampleSurroundings mixedRecord = .ok fieldsB ∧
      comparisonChecks exampleSurroundings (perfectRecord (.int 1)) mixedRecord = .ok checks ∧
      (keyA = keyB ↔ fieldsA = fieldsB) ∧
      (fieldsA = fieldsB ↔ ∀ check ∈ checks, check.agrees = true) := by
  obtain ⟨keyA, keyB, fieldsA, fieldsB, checks, eqA, eqB, fieldsEqA, fieldsEqB, checksEq, -, iff⟩ :=
    comparability_iff exampleSurroundings_injective perfectRecord_accepted mixedRecord_accepted
  have same : ¬VersionsDrift (perfectRecord (.int 1)) mixedRecord := by
    intro ⟨_, v, w, eqV, eqW, _, apart⟩
    exact apart (Except.ok.inj (eqV.symm.trans eqW))
  exact ⟨keyA, keyB, fieldsA, fieldsB, checks, eqA, eqB, fieldsEqA, fieldsEqB, checksEq,
    iff.mpr same⟩

end Example

end Jaull.Evaluation
