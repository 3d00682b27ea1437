import Jaull.Domain.Candidates

/-!
# GGUF enrichment domain

Port of `jaull/domain/enrichment.py`, with `ConfigurationSource` of `jaull/domain/estimation.py` and the
values a GGUF metadata table holds.
-/

namespace Jaull.Domain
open Jaull.Lib

/-- A value of a GGUF metadata table. A float keeps its bytes. -/
inductive GgufValue
  | int (n : ℤ)
  | float (bytes : List UInt8)
  | bool (b : Bool)
  | string (text : String)
  | array (items : List GgufValue)
  deriving Repr

/-- Python `_int_or_none` and `_as_int`. -/
def GgufValue.int? : GgufValue → Option ℤ
  | .int n => some n
  | _ => none

/-- Python `_str_or_none`. -/
def GgufValue.str? : GgufValue → Option String
  | .string text => if text = "" then none else some text
  | _ => none

/-- A metadata table, as the assignments that filled it, in order. -/
abbrev GgufEntries : Type :=
  List (String × GgufValue)

/-- The value a key holds (Python `raw_kv.get`): that of its last assignment. -/
def GgufEntries.get (entries : GgufEntries) (key : String) : Option GgufValue :=
  entries.reverse.lookup key

/-- What a metadata table says of the model (Python `GgufHeaderMetadata`). `isComplete` is false when
the read stopped inside the tokenizer. -/
structure GgufHeaderMetadata where
  architecture : Option String := none
  name : Option String := none
  quantizationVersion : Option ℤ := none
  fileType : Option ℤ := none
  contextLength : Option ℤ := none
  embeddingLength : Option ℤ := none
  blockCount : Option ℤ := none
  headCount : Option ℤ := none
  headCountKv : Option ℤ := none
  ropeDim : Option ℤ := none
  sizeLabel : Option String := none
  sourceRepository : Option String := none
  isComplete : Bool := true
  rawKv : GgufEntries := []
  deriving Repr

/-- Where a configuration value was read (Python `ConfigurationSource`). -/
inductive ConfigurationSource
  | exactFileMetadata | ggufHeader | baseModelConfig | modelCard | derived | assumed | unknown
  deriving DecidableEq, Repr

/-- A header value and a base-config value that disagree. -/
structure ConfigurationConflict (α : Type) where
  field : String
  headerValue : α
  baseValue : α
  deriving DecidableEq, Repr

/-- The line of the report on a conflict; `repr` is Python's `repr` of a value. -/
def ConfigurationConflict.text {α : Type} (repr : α → String)
    (conflict : ConfigurationConflict α) : String :=
  conflict.field ++ ": gguf_header=" ++ repr conflict.headerValue ++ " vs base_config=" ++
    repr conflict.baseValue ++ " — GGUF wins because the artifact is what will run."

/-- A merged `ModelConfig` with the source of each field (Python `EnrichedConfig`). Conflicts on texts
and on numbers stand apart. -/
structure EnrichedConfig where
  config : ModelConfig
  sources : List (String × ConfigurationSource) := []
  conflicts : List (ConfigurationConflict String ⊕ ConfigurationConflict ℤ) := []
  deriving DecidableEq, Repr

end Jaull.Domain
