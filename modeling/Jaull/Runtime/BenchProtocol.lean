import Jaull.Domain.Records
import Jaull.Evaluation.RuntimeContract
import Jaull.Lib.ListMap
import Jaull.Text.Scan
import Mathlib.Data.List.Dedup

/-!
# Protocols of llama-bench

Port of `jaull/runtime/llama_bench_jsonl.py`: the settings that every result row of an output states. A row is
a line with a JSON object that has the keys of a test row. Rows are validated without coercion, and a setting
on which two of them disagree is unknown.
-/

namespace Jaull.Runtime
open Jaull.Domain Jaull.Lib Jaull.Text Jaull.Evaluation

/-- The entries of a JSON object. -/
abbrev RowFields : Type :=
  List (PyString × Json)

section Rows

/-- Python `all(key in row for key in keys)`. -/
def hasKeys (row : RowFields) (keys : List String) : Bool :=
  keys.all fun key => (row.lookup (.text key)).isSome

/-- Python `_REQUIRED_KEYS`. -/
def requiredKeys : List String :=
  ["build_commit", "n_threads"]

/-- Whether an object is a result row. -/
def isResultRow (row : RowFields) : Bool :=
  hasKeys row requiredKeys || hasKeys row ["n_prompt", "n_gen"]

/-- The result row of a line, one round of the loop of Python `_result_rows`. -/
def resultRow (loads : PyString → Decoded) (line : List Char) : Except PyError (Option RowFields) :=
  let stripped := strip (String.ofList line)
  if stripped.toList.head? = some '{' then
    match loads (.text stripped) with
    | .tree (.obj row) => .ok (if isResultRow row then some row else none)
    | .tree _ => .ok none
    | .malformed _ => .ok none
    | .tooDeep => .error .recursion
  else .ok none

/-- Python `_result_rows`. -/
def resultRows (loads : PyString → Decoded) (output : String) : Except PyError (List RowFields) := do
  let rows ← (splitLines output).mapM (resultRow loads)
  pure (rows.filterMap id)

end Rows

section Validation

/-- Python `ValidationError`: the field that is refused first. -/
structure ValidationError where
  field : String
  deriving DecidableEq, Repr

/-- A text or nothing, under strict validation. -/
def strictText (field : String) : Json → Except ValidationError (Option String)
  | .null => .ok none
  | .str (.text text) => .ok (some text)
  | _ => .error ⟨field⟩

/-- An integer that is no less than `least`, or nothing, under strict validation. -/
def strictInt (field : String) (least : ℤ) : Json → Except ValidationError (Option ℤ)
  | .null => .ok none
  | .int n => if least ≤ n then .ok (some n) else .error ⟨field⟩
  | _ => .error ⟨field⟩

/-- Python `_FLASH_ATTN.get`. -/
def flashAttnName (code : ℤ) : Option String :=
  if code = 1 then some "on"
  else if code = 0 then some "off"
  else if code = -1 then some "auto_unresolved"
  else none

/-- Python `_as_int`. -/
def asInt : Json → Option ℤ
  | .int n => some n
  | _ => none

/-- Python `LlamaBenchProtocol.model_validate(…, strict=True)` of the settings of a row. -/
def validateRow (row : RowFields) : Except ValidationError LlamaBenchProtocol := do
  let buildCommit ← strictText "build_commit" (getField row "build_commit")
  let buildNumber ← strictInt "build_number" 0 (getField row "build_number")
  let nThreads ← strictInt "n_threads" 1 (getField row "n_threads")
  let nBatch ← strictInt "n_batch" 1 (getField row "n_batch")
  let nUbatch ← strictInt "n_ubatch" 1 (getField row "n_ubatch")
  let cacheTypeK ← strictText "cache_type_k" (getField row "type_k")
  let cacheTypeV ← strictText "cache_type_v" (getField row "type_v")
  let loadMode ← strictText "load_mode" (getField row "load_mode")
  let flashAttn := (asInt (getField row "flash_attn")).bind flashAttnName
  pure { buildCommit, buildNumber, nThreads, nBatch, nUbatch, cacheTypeK, cacheTypeV, flashAttn, loadMode }

end Validation

section Protocol

/-- The value of a set of one member. -/
def agreed {α : Type} [DecidableEq α] (values : List (Option α)) : Option α :=
  match values.dedup with
  | [value] => value
  | _ => none

/-- The settings that the protocols of all rows agree on. -/
def agreedProtocol (protocols : List LlamaBenchProtocol) (warmup : Option Bool) : LlamaBenchProtocol where
  buildCommit := agreed (protocols.map (·.buildCommit))
  buildNumber := agreed (protocols.map (·.buildNumber))
  nThreads := agreed (protocols.map (·.nThreads))
  nBatch := agreed (protocols.map (·.nBatch))
  nUbatch := agreed (protocols.map (·.nUbatch))
  cacheTypeK := agreed (protocols.map (·.cacheTypeK))
  cacheTypeV := agreed (protocols.map (·.cacheTypeV))
  flashAttn := agreed (protocols.map (·.flashAttn))
  loadMode := agreed (protocols.map (·.loadMode))
  warmup := warmup.map fun ran => if ran then "ran" else "skipped"

/-- The protocol of the result rows of an output. -/
def protocolOf (rows : List RowFields) (warmup : Option Bool) : Option LlamaBenchProtocol :=
  if rows = [] then none
  else
    match rows.mapM validateRow with
    | .error _ => none
    | .ok protocols =>
      let protocol := agreedProtocol protocols warmup
      if protocol = {} then none else some protocol

/-- Python `parse_llama_bench_protocol`, which lets the `RecursionError` of `json.loads` through. -/
def parseLlamaBenchProtocol (loads : PyString → Decoded) (output : String) (warmup : Option Bool) :
    Except PyError (Option LlamaBenchProtocol) := do
  let rows ← resultRows loads output
  pure (protocolOf rows warmup)

end Protocol

section Settings

/-- The settings of a test row: those of Python `_FIELDS`, and flash attention. -/
inductive BenchSetting
  | buildCommit | buildNumber | nThreads | nBatch | nUbatch | typeK | typeV | loadMode | flashAttn
  deriving DecidableEq, Repr

namespace BenchSetting

/-- The key of a setting in a row. -/
def key : BenchSetting → String
  | buildCommit => "build_commit"
  | buildNumber => "build_number"
  | nThreads => "n_threads"
  | nBatch => "n_batch"
  | nUbatch => "n_ubatch"
  | typeK => "type_k"
  | typeV => "type_v"
  | loadMode => "load_mode"
  | flashAttn => "flash_attn"

/-- The least number of a setting that is one. -/
def least : BenchSetting → Option ℤ
  | buildNumber => some 0
  | nThreads | nBatch | nUbatch => some 1
  | buildCommit | typeK | typeV | loadMode | flashAttn => none

/-- The value that a row states for a setting. The codes of flash attention are named, and a code without a
name or of a wrong type states nothing. -/
def stated (setting : BenchSetting) (row : RowFields) : Option Json :=
  match setting, getField row setting.key with
  | flashAttn, .int code => (flashAttnName code).map fun name => .str (.text name)
  | flashAttn, _ => none
  | _, .null => none
  | _, value => some value

/-- What a row has for a setting other than flash attention is nothing, or of its type and in its range. -/
def Typed (setting : BenchSetting) (row : RowFields) : Prop :=
  match setting.least, getField row setting.key with
  | _, .null => True
  | some least, .int n => least ≤ n
  | none, .str (.text _) => True
  | _, _ => False

end BenchSetting

/-- The value of a setting in a protocol. -/
def reportedSetting (protocol : LlamaBenchProtocol) : BenchSetting → Option Json
  | .buildCommit => protocol.buildCommit.map fun text => .str (.text text)
  | .buildNumber => protocol.buildNumber.map .int
  | .nThreads => protocol.nThreads.map .int
  | .nBatch => protocol.nBatch.map .int
  | .nUbatch => protocol.nUbatch.map .int
  | .typeK => protocol.cacheTypeK.map fun text => .str (.text text)
  | .typeV => protocol.cacheTypeV.map fun text => .str (.text text)
  | .loadMode => protocol.loadMode.map fun text => .str (.text text)
  | .flashAttn => protocol.flashAttn.map fun text => .str (.text text)

end Settings

section Agreement
variable {α : Type} [DecidableEq α]

/-- The values of all rows agree on a value exactly when every row has it. -/
lemma agreed_eq_some {values : List (Option α)} {v : α} :
    agreed values = some v ↔ values ≠ [] ∧ ∀ value ∈ values, value = some v := by
  rw [agreed]
  constructor
  · intro eq
    split at eq
    · rename_i value only
      have members : ∀ other, other ∈ values ↔ other = value := by
        intro other
        rw [← List.mem_dedup, only, List.mem_singleton]
      refine ⟨List.ne_nil_of_mem ((members value).mpr rfl), ?_⟩
      intro other mem
      exact ((members other).mp mem).trans eq
    · cases eq
  · intro holds
    obtain ⟨some', same⟩ := holds
    obtain ⟨value, mem⟩ := List.exists_mem_of_ne_nil _ some'
    have one : values.dedup = [some v] := by
      have nodup := List.nodup_dedup values
      cases members : values.dedup with
      | nil =>
        rw [← List.mem_dedup, members] at mem
        cases mem
      | cons first rest =>
        have own : ∀ other ∈ first :: rest, other = some v := by
          intro other memO
          exact same other (List.mem_dedup.mp (members ▸ memO))
        rw [members, List.nodup_cons] at nodup
        cases rest with
        | nil => rw [own first List.mem_cons_self]
        | cons second rest =>
          have twice : first = second := (own first List.mem_cons_self).trans
            (own second (List.mem_cons_of_mem _ List.mem_cons_self)).symm
          exact absurd (twice ▸ List.mem_cons_self) nodup.1
    rw [one]

/-- What rows agree on depends only on the values that occur. -/
lemma agreed_congr {values values' : List (Option α)} (same : ∀ value, value ∈ values' ↔ value ∈ values) :
    agreed values' = agreed values := by
  have nil : values' ≠ [] ↔ values ≠ [] := by
    rw [ne_eq, ne_eq, List.eq_nil_iff_forall_not_mem, List.eq_nil_iff_forall_not_mem]
    simp only [same]
  apply Option.ext
  intro v
  rw [agreed_eq_some, agreed_eq_some, nil]
  simp only [same]

/-- What all protocols agree on in a field, as a value of its kind. -/
lemma agreed_map_eq_some {field : LlamaBenchProtocol → Option α} {kind : α → Json}
    (kinds : Function.Injective kind) {protocols : List LlamaBenchProtocol} {value : Json} :
    (agreed (protocols.map field)).map kind = some value ↔
      protocols ≠ [] ∧ ∀ protocol ∈ protocols, (field protocol).map kind = some value := by
  rw [Option.map_eq_some_iff]
  constructor
  · intro found
    obtain ⟨v, eq, rfl⟩ := found
    obtain ⟨some', same⟩ := agreed_eq_some.mp eq
    refine ⟨mt (fun nil => by rw [nil]; rfl) some', ?_⟩
    intro protocol mem
    rw [same _ (List.mem_map_of_mem mem)]
    rfl
  · intro holds
    obtain ⟨some', same⟩ := holds
    obtain ⟨first, mem⟩ := List.exists_mem_of_ne_nil _ some'
    obtain ⟨v, eq, isV⟩ := Option.map_eq_some_iff.mp (same first mem)
    refine ⟨v, agreed_eq_some.mpr ⟨mt List.map_eq_nil_iff.mp some', ?_⟩, isV⟩
    intro other memO
    obtain ⟨protocol, memP, rfl⟩ := List.mem_map.mp memO
    obtain ⟨w, eqW, isW⟩ := Option.map_eq_some_iff.mp (same protocol memP)
    rw [eqW, kinds (isW.trans isV.symm)]

lemma int_injective : Function.Injective Json.int :=
  fun _ _ eq => Json.int.inj eq

lemma text_injective : Function.Injective fun text => Json.str (.text text) :=
  fun _ _ eq => PyString.text.inj (Json.str.inj eq)

/-- A setting has a value in the protocol exactly when it has it in every row's. -/
lemma reportedSetting_agreedProtocol {protocols : List LlamaBenchProtocol} {warmup : Option Bool}
    {setting : BenchSetting} {value : Json} :
    reportedSetting (agreedProtocol protocols warmup) setting = some value ↔
      protocols ≠ [] ∧ ∀ protocol ∈ protocols, reportedSetting protocol setting = some value := by
  cases setting with
  | buildCommit => exact agreed_map_eq_some text_injective
  | buildNumber => exact agreed_map_eq_some int_injective
  | nThreads => exact agreed_map_eq_some int_injective
  | nBatch => exact agreed_map_eq_some int_injective
  | nUbatch => exact agreed_map_eq_some int_injective
  | typeK => exact agreed_map_eq_some text_injective
  | typeV => exact agreed_map_eq_some text_injective
  | loadMode => exact agreed_map_eq_some text_injective
  | flashAttn => exact agreed_map_eq_some text_injective

/-- The protocol depends on the set of the rows' protocols. -/
lemma agreedProtocol_congr {protocols protocols' : List LlamaBenchProtocol} {warmup : Option Bool}
    (same : ∀ protocol, protocol ∈ protocols' ↔ protocol ∈ protocols) :
    agreedProtocol protocols' warmup = agreedProtocol protocols warmup := by
  have values : ∀ {α : Type} [DecidableEq α] (field : LlamaBenchProtocol → Option α),
      agreed (protocols'.map field) = agreed (protocols.map field) := by
    intro α _ field
    apply agreed_congr
    intro value
    simp only [List.mem_map, same]
  rw [agreedProtocol, agreedProtocol]
  simp only [values]

end Agreement

section Rows
variable {row : RowFields} {rows rows' : List RowFields} {protocol : LlamaBenchProtocol}

/-- A strict text is a text or null. -/
lemma strictText_eq_ok {field : String} {value : Json} {text : Option String} :
    strictText field value = .ok text ↔ value = (text.map fun text => Json.str (.text text)).getD .null := by
  constructor
  · intro eq
    rw [strictText.eq_def] at eq
    split at eq
    · cases eq
      rfl
    · cases eq
      rfl
    · cases eq
  · intro eq
    subst eq
    cases text with
    | none => rfl
    | some => rfl

/-- A strict integer is null or an integer from the least on. -/
lemma strictInt_eq_ok {field : String} {least : ℤ} {value : Json} {number : Option ℤ} :
    strictInt field least value = .ok number ↔
      value = (number.map Json.int).getD .null ∧ ∀ n ∈ number, least ≤ n := by
  constructor
  · intro eq
    rw [strictInt.eq_def] at eq
    split at eq
    · cases eq
      exact ⟨rfl, fun n mem => by cases mem⟩
    · split at eq
      · rename_i n le
        cases eq
        refine ⟨rfl, ?_⟩
        intro m mem
        cases mem
        exact le
      · cases eq
    · cases eq
  · intro holds
    obtain ⟨rfl, inRange⟩ := holds
    cases number with
    | none => rfl
    | some n => exact if_pos (inRange n rfl)

/-- What validation makes of a row. -/
structure Validated (row : RowFields) (protocol : LlamaBenchProtocol) : Prop where
  stated : ∀ setting, reportedSetting protocol setting = setting.stated row
  typed : ∀ setting : BenchSetting, setting ≠ .flashAttn → setting.Typed row

/-- A text read for a setting is what the row states for it. -/
lemma BenchSetting.stated_text {setting : BenchSetting} {text : Option String} (kind : setting.least = none)
    (other : setting ≠ .flashAttn)
    (value : getField row setting.key = (text.map fun text => Json.str (.text text)).getD .null) :
    (text.map fun text => Json.str (.text text)) = setting.stated row ∧ setting.Typed row := by
  rw [stated.eq_def, Typed, value, kind]
  cases text with
  | none => cases setting with
    | flashAttn => exact absurd rfl other
    | _ => exact ⟨rfl, trivial⟩
  | some text => cases setting with
    | flashAttn => exact absurd rfl other
    | _ => exact ⟨rfl, trivial⟩

/-- A number read for a setting is what the row states for it. -/
lemma BenchSetting.stated_number {setting : BenchSetting} {number : Option ℤ} {bound : ℤ}
    (kind : setting.least = some bound) (value : getField row setting.key = (number.map Json.int).getD .null)
    (inRange : ∀ n ∈ number, bound ≤ n) :
    number.map Json.int = setting.stated row ∧ setting.Typed row := by
  rw [stated.eq_def, Typed, value, kind]
  cases number with
  | none => cases setting with
    | flashAttn => cases kind
    | _ => exact ⟨rfl, trivial⟩
  | some n => cases setting with
    | flashAttn => cases kind
    | _ => exact ⟨rfl, inRange n rfl⟩

/-- A row that validates says what its protocol does. -/
lemma validateRow_eq_ok (eq : validateRow row = .ok protocol) : Validated row protocol := by
  obtain ⟨buildCommit, commit, eq⟩ := bind_eq_ok.mp eq
  obtain ⟨buildNumber, number, eq⟩ := bind_eq_ok.mp eq
  obtain ⟨nThreads, threads, eq⟩ := bind_eq_ok.mp eq
  obtain ⟨nBatch, batch, eq⟩ := bind_eq_ok.mp eq
  obtain ⟨nUbatch, ubatch, eq⟩ := bind_eq_ok.mp eq
  obtain ⟨cacheTypeK, typeK, eq⟩ := bind_eq_ok.mp eq
  obtain ⟨cacheTypeV, typeV, eq⟩ := bind_eq_ok.mp eq
  obtain ⟨loadMode, mode, eq⟩ := bind_eq_ok.mp eq
  cases eq
  -- every field is read strictly, as a text or as a number from its least on
  have text : ∀ {setting : BenchSetting} {field : String} {text : Option String}, setting.least = none →
      setting ≠ .flashAttn → strictText field (getField row setting.key) = .ok text →
      (text.map fun text => Json.str (.text text)) = setting.stated row ∧ setting.Typed row :=
    fun kind other read => BenchSetting.stated_text kind other (strictText_eq_ok.mp read)
  have int : ∀ {setting : BenchSetting} {field : String} {bound : ℤ} {number : Option ℤ},
      setting.least = some bound → strictInt field bound (getField row setting.key) = .ok number →
      number.map Json.int = setting.stated row ∧ setting.Typed row :=
    fun kind read => BenchSetting.stated_number kind (strictInt_eq_ok.mp read).1 (strictInt_eq_ok.mp read).2
  constructor
  · intro setting
    cases setting with
    | buildCommit => exact (@text .buildCommit _ _ rfl (by decide) commit).1
    | buildNumber => exact (@int .buildNumber _ _ _ rfl number).1
    | nThreads => exact (@int .nThreads _ _ _ rfl threads).1
    | nBatch => exact (@int .nBatch _ _ _ rfl batch).1
    | nUbatch => exact (@int .nUbatch _ _ _ rfl ubatch).1
    | typeK => exact (@text .typeK _ _ rfl (by decide) typeK).1
    | typeV => exact (@text .typeV _ _ rfl (by decide) typeV).1
    | loadMode => exact (@text .loadMode _ _ rfl (by decide) mode).1
    | flashAttn =>
      rw [BenchSetting.stated.eq_def, reportedSetting, BenchSetting.key]
      cases getField row "flash_attn" with
      | int code => rfl
      | _ => rfl
  · intro setting other
    cases setting with
    | buildCommit => exact (@text .buildCommit _ _ rfl other commit).2
    | buildNumber => exact (@int .buildNumber _ _ _ rfl number).2
    | nThreads => exact (@int .nThreads _ _ _ rfl threads).2
    | nBatch => exact (@int .nBatch _ _ _ rfl batch).2
    | nUbatch => exact (@int .nUbatch _ _ _ rfl ubatch).2
    | typeK => exact (@text .typeK _ _ rfl other typeK).2
    | typeV => exact (@text .typeV _ _ rfl other typeV).2
    | loadMode => exact (@text .loadMode _ _ rfl other mode).2
    | flashAttn => exact absurd rfl other

/-- What is typed as a text is read as one. -/
lemma BenchSetting.Typed.text {setting : BenchSetting} {field : String} (kind : setting.least = none)
    (typed : setting.Typed row) : ∃ text, strictText field (getField row setting.key) = .ok text := by
  rw [BenchSetting.Typed, kind] at typed
  split at typed
  · rename_i value
    rw [value]
    exact ⟨none, rfl⟩
  · rename_i eq _
    cases eq
  · rename_i text _ value
    rw [value]
    exact ⟨some text, rfl⟩
  · cases typed

/-- What is typed as a number is read as one. -/
lemma BenchSetting.Typed.number {setting : BenchSetting} {field : String} {bound : ℤ}
    (kind : setting.least = some bound) (typed : setting.Typed row) :
    ∃ number, strictInt field bound (getField row setting.key) = .ok number := by
  rw [BenchSetting.Typed, kind] at typed
  split at typed
  · rename_i value
    rw [value]
    exact ⟨none, rfl⟩
  · rename_i n eq value
    cases eq
    rw [value]
    exact ⟨some n, if_pos typed⟩
  · rename_i eq _
    cases eq
  · cases typed

/-- A typed row is validated. -/
lemma validateRow_isOk (typed : ∀ setting : BenchSetting, setting ≠ .flashAttn → setting.Typed row) :
    ∃ protocol, validateRow row = .ok protocol := by
  obtain ⟨buildCommit, commit⟩ :=
    @BenchSetting.Typed.text row .buildCommit "build_commit" rfl (typed .buildCommit (by decide))
  obtain ⟨buildNumber, number⟩ :=
    @BenchSetting.Typed.number row .buildNumber "build_number" 0 rfl (typed .buildNumber (by decide))
  obtain ⟨nThreads, threads⟩ :=
    @BenchSetting.Typed.number row .nThreads "n_threads" 1 rfl (typed .nThreads (by decide))
  obtain ⟨nBatch, batch⟩ := @BenchSetting.Typed.number row .nBatch "n_batch" 1 rfl (typed .nBatch (by decide))
  obtain ⟨nUbatch, ubatch⟩ :=
    @BenchSetting.Typed.number row .nUbatch "n_ubatch" 1 rfl (typed .nUbatch (by decide))
  obtain ⟨cacheTypeK, typeK⟩ :=
    @BenchSetting.Typed.text row .typeK "cache_type_k" rfl (typed .typeK (by decide))
  obtain ⟨cacheTypeV, typeV⟩ :=
    @BenchSetting.Typed.text row .typeV "cache_type_v" rfl (typed .typeV (by decide))
  obtain ⟨loadMode, mode⟩ := @BenchSetting.Typed.text row .loadMode "load_mode" rfl (typed .loadMode (by decide))
  let flashAttn := (asInt (getField row "flash_attn")).bind flashAttnName
  refine ⟨{ buildCommit, buildNumber, nThreads, nBatch, nUbatch, cacheTypeK, cacheTypeV, flashAttn, loadMode }, ?_⟩
  refine bind_eq_ok.mpr ⟨_, commit, bind_eq_ok.mpr ⟨_, number, bind_eq_ok.mpr ⟨_, threads, ?_⟩⟩⟩
  refine bind_eq_ok.mpr ⟨_, batch, bind_eq_ok.mpr ⟨_, ubatch, bind_eq_ok.mpr ⟨_, typeK, ?_⟩⟩⟩
  exact bind_eq_ok.mpr ⟨_, typeV, bind_eq_ok.mpr ⟨_, mode, rfl⟩⟩

/-- A row with a setting of a wrong type. -/
def Untyped (rows : List RowFields) : Prop :=
  ∃ row ∈ rows, ∃ setting : BenchSetting, setting ≠ .flashAttn ∧ ¬setting.Typed row

/-- Rows are validated together, or one of them has a setting of a wrong type. -/
lemma mapM_validateRow (rows : List RowFields) :
    (∃ protocols, rows.mapM validateRow = .ok protocols ∧ ¬Untyped rows) ∨
      (∃ error, rows.mapM validateRow = .error error) ∧ Untyped rows := by
  cases run : rows.mapM validateRow with
  | ok protocols =>
    refine .inl ⟨protocols, rfl, ?_⟩
    intro untyped
    obtain ⟨row, mem, setting, other, wrong⟩ := untyped
    obtain ⟨protocol, eq⟩ := forall_ok_of_mapM_ok run row mem
    exact wrong ((validateRow_eq_ok eq).typed setting other)
  | error error =>
    refine .inr ⟨⟨error, rfl⟩, ?_⟩
    by_contra typed
    have all : ∀ row ∈ rows, ∃ protocol, validateRow row = .ok protocol := by
      intro row mem
      apply validateRow_isOk
      intro setting other
      by_contra wrong
      exact typed ⟨row, mem, setting, other, wrong⟩
    rw [mapM_eq_ok {} all] at run
    cases run

lemma reportedSetting_empty (setting : BenchSetting) : reportedSetting {} setting = none := by
  cases setting with
  | _ => rfl

/-- An answer for some rows that says nothing they do not all state. -/
structure StatesOnly (rows : List RowFields) (warmup : Option Bool) (answer : Option LlamaBenchProtocol) :
    Prop where
  reported : ∀ protocol ∈ answer, ∀ setting value,
    reportedSetting protocol setting = some value ↔ rows ≠ [] ∧ ∀ row ∈ rows, setting.stated row = some value
  given : ∀ protocol ∈ answer, protocol.threadPolicy = none ∧
    protocol.warmup = warmup.map fun ran => if ran then "ran" else "skipped"
  untyped : Untyped rows → answer = none
  unknown : answer = none → rows = [] ∨ Untyped rows ∨
    warmup = none ∧ ∀ (setting : BenchSetting) (value : Json), ¬∀ row ∈ rows, setting.stated row = some value

/-- A protocol states only what its rows do. -/
lemma protocolOf_statesOnly (rows : List RowFields) (warmup : Option Bool) :
    StatesOnly rows warmup (protocolOf rows warmup) := by
  by_cases empty : rows = []
  · rw [protocolOf, if_pos empty]
    refine ⟨?_, ?_, fun _ => rfl, fun _ => .inl empty⟩
    · intro protocol mem
      cases mem
    · intro protocol mem
      cases mem
  · rcases mapM_validateRow rows with ⟨protocols, run, typed⟩ | ⟨⟨error, run⟩, untyped⟩
    · -- rows that all validate: a setting is stated when all of them state it
      have states : ∀ setting value,
          reportedSetting (agreedProtocol protocols warmup) setting = some value ↔
            rows ≠ [] ∧ ∀ row ∈ rows, setting.stated row = some value := by
        intro setting value
        rw [reportedSetting_agreedProtocol]
        constructor
        · intro holds
          refine ⟨empty, ?_⟩
          intro row mem
          obtain ⟨protocol, eq⟩ := forall_ok_of_mapM_ok run row mem
          rw [← (validateRow_eq_ok eq).stated]
          exact holds.2 protocol ((mem_mapM_ok_iff run).mpr ⟨row, mem, eq⟩)
        · intro holds
          obtain ⟨row, mem⟩ := List.exists_mem_of_ne_nil _ empty
          obtain ⟨protocol, eq⟩ := forall_ok_of_mapM_ok run row mem
          refine ⟨List.ne_nil_of_mem ((mem_mapM_ok_iff run).mpr ⟨row, mem, eq⟩), ?_⟩
          intro other memO
          obtain ⟨row', mem', eq'⟩ := (mem_mapM_ok_iff run).mp memO
          rw [(validateRow_eq_ok eq').stated]
          exact holds.2 row' mem'
      rw [protocolOf, if_neg empty, run]
      dsimp only
      split
      · -- the empty protocol is not kept, having nothing to state
        rename_i blank
        refine ⟨?_, ?_, fun _ => rfl, ?_⟩
        · intro protocol mem
          cases mem
        · intro protocol mem
          cases mem
        · intro _
          refine .inr (.inr ⟨?_, ?_⟩)
          · have none := congrArg LlamaBenchProtocol.warmup blank
            exact Option.map_eq_none_iff.mp none
          · intro setting value all
            have some := (states setting value).mpr ⟨empty, all⟩
            rw [blank, reportedSetting_empty] at some
            cases some
      · refine ⟨?_, ?_, fun untyped => absurd untyped typed, ?_⟩
        · intro protocol mem
          cases mem
          exact states
        · intro protocol mem
          cases mem
          exact ⟨rfl, rfl⟩
        · intro eq
          cases eq
    · -- a row that does not validate leaves the run without a protocol
      rw [protocolOf, if_neg empty, run]
      refine ⟨?_, ?_, fun _ => rfl, fun _ => .inr (.inl untyped)⟩
      · intro protocol mem
        cases mem
      · intro protocol mem
        cases mem

/-- The protocol depends on the set of the rows. -/
lemma protocolOf_congr (same : ∀ row, row ∈ rows' ↔ row ∈ rows) (warmup : Option Bool) :
    protocolOf rows' warmup = protocolOf rows warmup := by
  have nil : rows' = [] ↔ rows = [] := by
    rw [List.eq_nil_iff_forall_not_mem, List.eq_nil_iff_forall_not_mem]
    simp only [same]
  have untyped : Untyped rows' ↔ Untyped rows := by
    rw [Untyped, Untyped]
    simp only [same]
  rw [protocolOf, protocolOf]
  simp only [nil]
  congr 1
  rcases mapM_validateRow rows with ⟨protocols, run, typed⟩ | ⟨⟨error, run⟩, wrong⟩
  · rcases mapM_validateRow rows' with ⟨protocols', run', -⟩ | ⟨-, wrong'⟩
    · have members : ∀ protocol, protocol ∈ protocols' ↔ protocol ∈ protocols := by
        intro protocol
        rw [mem_mapM_ok_iff run, mem_mapM_ok_iff run']
        simp only [same]
      rw [run, run']
      dsimp only
      rw [agreedProtocol_congr members]
    · exact absurd (untyped.mp wrong') typed
  · rcases mapM_validateRow rows' with ⟨-, -, typed'⟩ | ⟨⟨error', run'⟩, -⟩
    · exact absurd (untyped.mpr wrong) typed'
    · rw [run, run']

end Rows

section Output
variable {loads : PyString → Decoded} {output output' : String} {line : List Char}

/-- Only the nesting of a line stops the reading of the rows. -/
lemma resultRow_eq_error {error : PyError} (eq : resultRow loads line = .error error) : error = .recursion := by
  rw [resultRow] at eq
  split at eq
  · split at eq
    · cases eq
    · cases eq
    · cases eq
    · cases eq
      rfl
  · cases eq

/-- Outputs of the same lines have the same rows, or are both nested too deeply. -/
lemma resultRows_congr (same : ∀ line, line ∈ splitLines output' ↔ line ∈ splitLines output) :
    resultRows loads output' = .error .recursion ∧ resultRows loads output = .error .recursion ∨
      ∃ rows rows', resultRows loads output = .ok rows ∧ resultRows loads output' = .ok rows' ∧
        ∀ row, row ∈ rows' ↔ row ∈ rows := by
  by_cases shallow : ∀ line ∈ splitLines output, ∃ row, resultRow loads line = .ok row
  · have shallow' : ∀ line ∈ splitLines output', ∃ row, resultRow loads line = .ok row :=
      fun line mem => shallow line ((same line).mp mem)
    have run := mapM_eq_ok none shallow
    have run' := mapM_eq_ok none shallow'
    refine .inr ⟨_, _, bind_eq_ok.mpr ⟨_, run, rfl⟩, bind_eq_ok.mpr ⟨_, run', rfl⟩, ?_⟩
    intro row
    rw [List.mem_filterMap, List.mem_filterMap]
    simp only [mem_mapM_ok_iff run, mem_mapM_ok_iff run', same]
  · have deep : ∃ line ∈ splitLines output, ∃ error, resultRow loads line = .error error := by
      by_contra none
      apply shallow
      intro line mem
      cases read : resultRow loads line with
      | ok row => exact ⟨row, rfl⟩
      | error error => exact absurd ⟨line, mem, error, read⟩ none
    have deep' : ∃ line ∈ splitLines output', ∃ error, resultRow loads line = .error error := by
      obtain ⟨line, mem, fails⟩ := deep
      exact ⟨line, (same line).mpr mem, fails⟩
    have stops : ∀ {lines : List (List Char)}, (∃ line ∈ lines, ∃ error, resultRow loads line = .error error) →
        lines.mapM (resultRow loads) = .error .recursion := by
      intro lines deep
      cases run : lines.mapM (resultRow loads) with
      | ok rows =>
        obtain ⟨line, mem, error, eq⟩ := deep
        obtain ⟨row, isOk⟩ := forall_ok_of_mapM_ok run line mem
        cases eq.symm.trans isOk
      | error error =>
        obtain ⟨line, -, eq⟩ := exists_error_of_mapM_error run
        rw [resultRow_eq_error eq]
    refine .inl ⟨?_, ?_⟩
    · rw [resultRows, stops deep', error_bind]
    · rw [resultRows, stops deep, error_bind]

/-- The protocol says nothing that the result rows do not all state, and it depends on the set of lines. -/
theorem parseLlamaBenchProtocol_statesOnly (loads : PyString → Decoded) (output : String) (warmup : Option Bool) :
    (∀ rows, resultRows loads output = .ok rows →
      ∃ answer, parseLlamaBenchProtocol loads output warmup = .ok answer ∧ StatesOnly rows warmup answer) ∧
    ∀ output', (∀ line, line ∈ splitLines output' ↔ line ∈ splitLines output) →
      parseLlamaBenchProtocol loads output' warmup = parseLlamaBenchProtocol loads output warmup := by
  constructor
  · intro rows read
    refine ⟨protocolOf rows warmup, ?_, protocolOf_statesOnly rows warmup⟩
    rw [parseLlamaBenchProtocol, read]
    rfl
  · intro output' same
    rw [parseLlamaBenchProtocol, parseLlamaBenchProtocol]
    rcases resultRows_congr same with ⟨deep', deep⟩ | ⟨rows, rows', read, read', members⟩
    · rw [deep, deep']
    · rw [read, read', ok_bind, ok_bind, protocolOf_congr members]

/-- The row of a test whose flash attention is a boolean. -/
def switchedRow : RowFields :=
  [("build_commit", .str "689e227db"), ("n_threads", .int 6), ("flash_attn", .bool true)]

/-- The line of this row. -/
def switchedLine : String :=
  "\x7b\"build_commit\": \"689e227db\", \"n_threads\": 6, \"flash_attn\": true\x7d"

/-- Flash attention of a wrong type is unknown and leaves the rest of the protocol. -/
theorem switchedRow_reported :
    parseLlamaBenchProtocol
        (fun text => if text = .text switchedLine then .tree (.obj switchedRow) else .malformed "Expecting value")
        switchedLine (some true) =
      .ok (some { buildCommit := some "689e227db", nThreads := some 6, warmup := some "ran" }) := by
  decide +kernel

end Output

end Jaull.Runtime
