import Jaull.Domain.GgufVariants
import Jaull.Lib.Grouping
import Jaull.Lib.PurePath
import Jaull.Text.Digits
import Jaull.Text.Endings
import Jaull.Text.Scan
import Mathlib.Algebra.Ring.Int.Defs
import Mathlib.Data.Prod.Lex

/-!
# GGUF files of a repository

Port of `_group_gguf_variants` of `jaull/huggingface/classifiers.py`: the files of a repository as the
representations that can be loaded, whole files and sets of shards. Patterns are read by hand: every choice in
them is settled by the next character, or by what is left of the name.
-/

namespace Jaull.Huggingface
open Jaull.Domain Jaull.Lib Jaull.Text

section Names

/-- A shard suffix at the beginning of a text, with what comes after it: the digits of `-00001-of-00002`. -/
def multipartAt (text : List Char) : Option (ℕ × ℕ × List Char) :=
  let index := (text.drop 1).take 5
  let count := (text.drop 10).take 5
  if text.take 1 = ['-'] ∧ (text.drop 6).take 4 = ['-', 'o', 'f', '-'] ∧ index.length = 5 ∧ count.length = 5 ∧
      index.all isDigitChar ∧ count.all isDigitChar then
    some (decimalValue index, decimalValue count, text.drop 15)
  else none

/-- A shard suffix: the name without it, the index of the shard and the number of shards. -/
structure Multipart where
  base : List Char
  index : ℕ
  count : ℕ
  deriving DecidableEq, Repr

/-- Python `_MULTIPART_SUFFIX_RE.search`, with what `.sub("", …)` leaves. `$` also matches before a last line
feed. -/
def multipart : List Char → Option Multipart
  | [] => none
  | c :: rest =>
    match multipartAt (c :: rest) with
    | some (index, count, after) =>
      if after = [] ∨ after = ['\n'] then some ⟨after, index, count⟩
      else (multipart rest).map fun found => { found with base := c :: found.base }
    | none => (multipart rest).map fun found => { found with base := c :: found.base }

/-- A letter of a pattern that ignores case: its two forms, and for `I` the dotted and the dotless one. -/
def sameLetter (letter c : Char) : Bool :=
  upperChar c = [letter] || (letter = 'I' && (c = 'İ' || c = 'ı'))

/-- `[A-Z0-9_]` of a pattern that ignores case: four letters outside ASCII are in it. -/
def isQuantChar (c : Char) : Bool :=
  isAsciiUpper c || isAsciiLower c || ('0' ≤ c && c ≤ '9') || c = '_' || c = 'İ' || c = 'ı' || c = 'ſ' ||
    c.toNat = 0x212a

/-- A quantization with a number: `IQ\d+[A-Z0-9_]*` or `Q\d+[A-Z0-9_]*`. -/
def numberedQuant (word : List Char) : Scanner Unit := do
  Scanner.literal sameLetter word
  let _ ← Scanner.some1 isDigitChar
  let _ ← Scanner.many isQuantChar
  return ()

/-- `_GGUF_QUANT_RE` at the beginning of a text. -/
def quantAt : Scanner Unit :=
  fun text =>
    ((numberedQuant ['I', 'Q'] text).or (numberedQuant ['Q'] text)).or
      (((Scanner.literal sameLetter ['F', '1', '6'] text).or
        (Scanner.literal sameLetter ['F', '3', '2'] text)).or
          (Scanner.literal sameLetter ['B', 'F', '1', '6'] text))

/-- The first match of `_GGUF_QUANT_RE`. -/
def quantIn : List Char → Option (List Char)
  | [] => none
  | c :: rest =>
    match quantAt (c :: rest) with
    | some (_, after) => some ((c :: rest).take ((c :: rest).length - after.length))
    | none => quantIn rest

/-- A name without its last five characters (Python `name[: -len(".gguf")]`). -/
def ggufStem (name : List Char) : List Char :=
  name.take (name.length - 5)

/-- What is left of a stem without its shard suffix. -/
def baseOf (stem : List Char) : List Char :=
  ((multipart stem).map (·.base)).getD stem

/-- Python `_detect_quantization`. -/
def detectQuantization (name : List Char) : String :=
  match quantIn (baseOf (ggufStem name)) with
  | some quant => upper (String.ofList quant)
  | none => "unknown"

/-- Python `_AUXILIARY_GGUF_TOKENS`. -/
def auxiliaryGgufTokens : List (List Char) :=
  ["mmproj".toList, "imatrix".toList, "mtp".toList, "draft".toList]

/-- Python `_is_auxiliary_gguf`. A run of separators only adds empty tokens. -/
def isAuxiliaryGguf (path : PurePath) : Bool :=
  let tokens := (path.name.flatMap lowerChar).splitOnP fun c => !(isAsciiLower c || ('0' ≤ c && c ≤ '9'))
  tokens.any (fun token => auxiliaryGgufTokens.any (· = token)) ||
    path.parts.dropLast.any fun part => part.flatMap lowerChar = "mtp".toList

/-- A file of weights: a `.gguf` file in any letter case that is not auxiliary. -/
def isWeightsFile (file : ModelFile) : Bool :=
  let path := PurePath.ofText file.path
  ".gguf".toList.isSuffixOf (path.name.flatMap lowerChar) && !isAuxiliaryGguf path

end Names

section Grouping

/-- What the files of a representation share: quantization, folder, base name and number of shards, where `-1`
stands for a whole file. -/
abbrev VariantKey :=
  String ×ₗ String ×ₗ String ×ₗ ℤ

/-- The key of a file. -/
def variantKey (file : ModelFile) : VariantKey :=
  let path := PurePath.ofText file.path
  let stem := ggufStem path.name
  toLex (detectQuantization path.name, toLex (path.parent.text, toLex (String.ofList (baseOf stem),
    ((multipart stem).map fun found => (found.count : ℤ)).getD (-1))))

/-- The shard suffix of a file. -/
def partOf (file : ModelFile) : Option Multipart :=
  multipart (PurePath.ofText file.path).stem

/-- The representation of the files of a key. -/
def variantOf (key : VariantKey) (group : List ModelFile) : GgufVariant :=
  let count := (ofLex (ofLex (ofLex key).2).2).2
  let parts := group.map partOf
  let isSplit := parts.any (·.isSome)
  let indexes := parts.filterMap (·.map (·.index))
  let complete := !isSplit ||
    (0 < count && (indexes.length : ℤ) = count && sortedBy id indexes = List.range' 1 count.toNat)
  let sizes := group.map (·.sizeBytes)
  { quantization := (ofLex key).1
    files := sortedBy (·.path) group
    totalBytes := if complete && sizes.all (·.any (0 < ·)) then some (sizes.filterMap id).sum else none
    isComplete := complete
    isSplit := isSplit }

/-- Python `_group_gguf_variants`. -/
def groupGgufVariants (files : List ModelFile) : List GgufVariant :=
  (sortedBy Prod.fst (grouped (fun file => if isWeightsFile file then some (variantKey file) else none) files)).map
    fun bucket => variantOf bucket.1 bucket.2

end Grouping

end Jaull.Huggingface
