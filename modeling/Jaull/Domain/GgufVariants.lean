import Jaull.Domain.Candidates
import Jaull.Lib.StableSort
import Mathlib.Data.List.Dedup
import Mathlib.Data.String.Basic

/-!
# GGUF representations

Port of `jaull/domain/gguf_variants.py`. Selection fails with `none` where the source raises
`GgufVariantSelectionError`, whose text its only caller here drops.
-/

namespace Jaull.Domain
open Jaull.Lib

/-- The one complete artifact of a quantization, whole files preferred (Python
`unique_gguf_representation`). -/
def uniqueGgufRepresentation (variants : List GgufVariant) : Option GgufVariant :=
  let complete := variants.filter (·.isComplete)
  let whole := complete.filter fun variant => variant.files.length = 1 && !variant.isSplit
  let candidates := if whole.isEmpty then complete else whole
  match candidates with
  | [variant] => some variant
  | _ => none

/-- One representation for each quantization that has an unambiguous one (Python
`preferred_gguf_variants`). -/
def preferredGgufVariants (variants : List GgufVariant) : List GgufVariant :=
  (sortedBy id (variants.map (·.quantization)).dedup).filterMap fun quant =>
    uniqueGgufRepresentation (variants.filter (·.quantization = quant))

end Jaull.Domain
