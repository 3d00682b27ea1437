import Jaull.Lib.HalfEven
import Jaull.Lib.ListMap
import Jaull.Lib.StableSort
import Jaull.Lib.Versions
import Jaull.Text.Digits
import Jaull.Text.Scan
import Mathlib.Data.String.Basic

/-!
# Memory reports of llama.cpp

Port of `jaull/runtime/llama_cpp_memory_report.py`: the buffers that llama.cpp prints while it loads a model,
and the device they attribute the model to. The output mixes the log with the text of the model. The regular
expressions are scanners: in none of them can a match need a run of characters shorter than the longest one,
apart from the label of a buffer, of which the shortest is tried first.
-/

namespace Jaull.Runtime
open Jaull.Lib Jaull.Text Jaull.Text.Scanner

/-- Python `RuntimeBufferLocation`. -/
inductive RuntimeBufferLocation
  | device | host
  deriving DecidableEq, Repr

/-- Python `RuntimeBufferCategory`. -/
inductive RuntimeBufferCategory
  | model | kv | compute | output | other
  deriving DecidableEq, Repr

/-- The stored value of a category. -/
def RuntimeBufferCategory.value : RuntimeBufferCategory → String
  | .model => "model"
  | .kv => "kv"
  | .compute => "compute"
  | .output => "output"
  | .other => "other"

/-- Python `RuntimeBuffer`. -/
structure RuntimeBuffer where
  category : RuntimeBufferCategory
  location : RuntimeBufferLocation
  bytes : ℕ
  rawLabel : String
  deriving DecidableEq, Repr

/-- Python `RuntimeReportedAllocation`. -/
structure RuntimeReportedAllocation where
  runtime : String
  device : Option String := none
  runtimeBuild : Option String := none
  buffers : List RuntimeBuffer := []
  deriving DecidableEq, Repr

section Patterns

/-- The letter that `re.IGNORECASE` takes a character for. -/
def plainLetter (c : Char) : Char :=
  if isAsciiUpper c then Char.ofNat (c.toNat + 32)
  else if c = 'ſ' then 's'
  else if c = 'İ' ∨ c = 'ı' then 'i'
  else if c = Char.ofNat 0x212A then 'k'
  else c

/-- Equality under `re.IGNORECASE`. -/
def sameLetter (c d : Char) : Bool :=
  plainLetter c = plainLetter d

/-- Python `[\d.]`. -/
def isNumberChar (c : Char) : Bool :=
  isDigitChar c || c = '.'

/-- Python `[A-Za-z]`. -/
def isAsciiLetter (c : Char) : Bool :=
  isAsciiUpper c || isAsciiLower c

/-- Python `\w`. -/
def isWordChar (c : Char) : Bool :=
  isWordCodePoint c.toNat

/-- Python `_CATEGORIES`. -/
def bufferCategories : List (String × RuntimeBufferCategory) :=
  [("model", .model), ("kv", .kv), ("compute", .compute), ("output", .output)]

/-- The group `kind` of `_BUFFER`, as the category that `_CATEGORIES` has for it. -/
def bufferKind : Scanner RuntimeBufferCategory := fun text =>
  bufferCategories.findSome? fun named =>
    (literal sameLetter named.1.toList text).map fun read => (named.2, read.2)

/-- What `_BUFFER` reads after the group `what`: the groups `kind` and `mib`. -/
def bufferTail : Scanner (RuntimeBufferCategory × List Char) := do
  let _ ← some1 isSpace
  let kind ← bufferKind
  let _ ← some1 isSpace
  literal sameLetter "buffer size".toList
  let _ ← many isSpace
  literal sameLetter "=".toList
  let _ ← many isSpace
  let mib ← some1 isNumberChar
  let _ ← many isSpace
  literal sameLetter "MiB".toList
  pure (kind, mib)

/-- A match of `_BUFFER`. -/
structure BufferMatch where
  what : List Char
  kind : RuntimeBufferCategory
  mib : List Char
  deriving DecidableEq, Repr

/-- The first match of `_BUFFER` on a line of which `what` (in reverse) belongs to the label. -/
def bufferFrom (what : List Char) : List Char → Option BufferMatch
  | [] => none
  | c :: rest =>
    match bufferTail rest with
    | some ((kind, mib), _) => some ⟨(c :: what).reverse, kind, mib⟩
    | none => bufferFrom (c :: what) rest

/-- Python `_BUFFER.search(line)`. -/
def bufferIn (line : List Char) : Option BufferMatch :=
  bufferFrom [] line

/-- Python `offloaded (\d+)/(\d+) layers to GPU`. -/
def offloadAt : Scanner (List Char × List Char) := do
  literal sameChar "offloaded ".toList
  let done ← some1 isDigitChar
  literal sameChar "/".toList
  let total ← some1 isDigitChar
  literal sameChar " layers to GPU".toList
  pure (done, total)

/-- Python `layer\s+\d+ assigned to device ([A-Za-z]+\d*|CPU)\b`. The word ends where its letters and digits
end, so `CPU` on its own adds nothing. -/
def assignedAt : Scanner String := do
  literal sameChar "layer".toList
  let _ ← some1 isSpace
  let _ ← some1 isDigitChar
  literal sameChar " assigned to device ".toList
  let letters ← some1 isAsciiLetter
  let digits ← many isDigitChar
  notBefore isWordChar
  pure (String.ofList (letters ++ digits))

/-- The backends of `_DEVICE_LABEL`. -/
def deviceBackends : List String :=
  ["CUDA", "ROCm", "HIP", "MUSA", "SYCL", "Vulkan"]

/-- Python `_DEVICE_LABEL.match`, of a label without white space. -/
def isDeviceLabel (label : String) : Bool :=
  deviceBackends.any fun backend =>
    let digits := label.toList.drop backend.toList.length
    backend.toList.isPrefixOf label.toList && digits ≠ [] && digits.all isDigitChar

end Patterns

section Report

/-- Python `_MIB`. -/
def mibBytes : ℕ :=
  1024 * 1024

/-- Python `text.split()[-1]`. -/
def lastWord (text : List Char) : Except PyError String :=
  match (text.reverse.dropWhile isSpace).takeWhile (!isSpace ·) with
  | [] => .error .index
  | word => .ok (String.ofList word.reverse)

/-- Python `text.split()[0]`. -/
def firstWord (text : String) : Except PyError String :=
  match (text.toList.dropWhile isSpace).takeWhile (!isSpace ·) with
  | [] => .error .index
  | word => .ok (String.ofList word)

/-- Whether `float` reads a run of digits and points. -/
def isFloatText (number : List Char) : Bool :=
  number.any isDigitChar && number.count '.' ≤ 1

/-- Python `float` of a run of digits and points. -/
def floatText (number : List Char) : Except PyError ℚ :=
  if isFloatText number then
    let fractionDigits := (number.dropWhile (· ≠ '.')).length - 1
    .ok (boundedDouble (decimalValue (number.filter isDigitChar) / 10 ^ fractionDigits))
  else .error (.refused (.value ("could not convert string to float: '" ++ String.ofList number ++ "'")))

/-- Python `round(mib * _MIB)`. The product of a double with a power of two is a double, up to the bound. -/
def roundedBytes (mib : ℚ) : Except PyError ℕ :=
  if overflowBound ≤ mib * mibBytes then .error .overflow else .ok (roundHalfEven (mib * mibBytes)).toNat

/-- An item of the dictionary `largest`. -/
abbrev LargestEntry : Type :=
  (String × RuntimeBufferCategory) × ℚ

/-- What the loop of `parse_llama_cpp_allocation` reads from a line. -/
def readBuffer (line : List Char) : Except PyError (Option LargestEntry) :=
  match bufferIn line with
  | none => pure none
  | some found => do
    let label ← lastWord found.what
    let mib ← floatText found.mib
    pure (some ((label, found.kind), mib))

/-- Python `largest[key] = max(largest.get(key, 0.0), mib)`. -/
def enter (largest : List LargestEntry) (entry : LargestEntry) : List LargestEntry :=
  match largest.find? (·.1 = entry.1) with
  | none => largest ++ [(entry.1, max 0 entry.2)]
  | some known =>
    largest.map fun other => if other.1 = entry.1 then (entry.1, max known.2 entry.2) else other

/-- One round of the loop of `parse_llama_cpp_allocation`. -/
def enterLine (largest : List LargestEntry) (line : List Char) : Except PyError (List LargestEntry) := do
  match ← readBuffer line with
  | none => pure largest
  | some entry => pure (enter largest entry)

/-- Python `_location`. -/
def bufferLocation (label : String) : RuntimeBufferLocation :=
  if isDeviceLabel label then .device else .host

/-- Python `_device`. -/
def reportedDevice (largest : List LargestEntry) : Option String :=
  match sortedBy id ((largest.map (·.1.1)).filter isDeviceLabel).dedup with
  | [device] => some device
  | _ => none

/-- What the items of `largest` are sorted by. -/
def entryKey (entry : LargestEntry) : String ×ₗ String :=
  toLex (entry.1.1, entry.1.2.value)

/-- The buffer of an item of `largest`. -/
def bufferOf (entry : LargestEntry) : Except PyError RuntimeBuffer := do
  let bytes ← roundedBytes entry.2
  pure ⟨entry.1.2, bufferLocation entry.1.1, bytes, entry.1.1 ++ " " ++ entry.1.2.value⟩

/-- The allocation of the items of `largest`. -/
def allocationOf (largest : List LargestEntry) (runtimeBuild : Option String) :
    Except PyError (Option RuntimeReportedAllocation) :=
  if largest = [] then pure none
  else do
    let buffers ← (sortedBy entryKey largest).mapM bufferOf
    pure (some ⟨"llama.cpp", reportedDevice largest, runtimeBuild, buffers⟩)

/-- Python `parse_llama_cpp_allocation`. -/
def parseLlamaCppAllocation (output : String) (runtimeBuild : Option String) :
    Except PyError (Option RuntimeReportedAllocation) := do
  let largest ← (splitLines output).foldlM enterLine []
  allocationOf largest runtimeBuild

end Report

section Attribution

/-- Python `int(done), int(total)`. -/
def layerCounts (counts : List Char × List Char) : Except PyError (ℕ × ℕ) :=
  match parseInt counts.1, parseInt counts.2 with
  | .ok done, .ok total => .ok (done, total)
  | _, _ => .error (.refused (.value "Exceeds the limit (4300 digits) for integer string conversion"))

/-- The label of a buffer, and the buffer. -/
def labelled (buffer : RuntimeBuffer) : Except PyError (String × RuntimeBuffer) := do
  let label ← firstWord buffer.rawLabel
  pure (label, buffer)

/-- The categories of the buffers whose label satisfies `p`. -/
def kindsWhere (p : String → Bool) (positive : List (String × RuntimeBuffer)) : List RuntimeBufferCategory :=
  (positive.filter fun entry => p entry.1).map (·.2.category)

/-- The device that Python `observed_llama_cpp_device` concludes on, from the positive buffers, the counts of
offloaded layers and the devices that layers were assigned to. -/
def attributedDevice (positive : List (String × RuntimeBuffer)) (offloads : List (ℕ × ℕ)) (assigned : List String) :
    Option String :=
  match ((positive.filter (·.2.location = .device)).map (·.1)).dedup with
  | [device] =>
    let kinds := kindsWhere (· = device) positive
    if .model ∈ kinds ∧ .compute ∈ kinds ∧ (∀ counts ∈ offloads, 0 < counts.1 ∧ counts.1 ≤ counts.2) ∧
        ∀ other ∈ assigned, other = device ∨ other = "CPU" then
      some device
    else none
  | devices =>
    if devices ≠ [] ∨ (∃ counts ∈ offloads, 0 < counts.1) ∨ ∃ other ∈ assigned, other ≠ "CPU" then none
    else
      let kinds := kindsWhere (·.startsWith "CPU") positive
      if .model ∈ kinds ∧ .compute ∈ kinds ∧
          (offloads ≠ [] ∨ assigned ≠ [] ∧ ∀ other ∈ assigned, other = "CPU") then
        some "CPU"
      else none

/-- Python `observed_llama_cpp_device`. -/
def observedLlamaCppDevice (output : String) : Except PyError (Option String) := do
  match ← parseLlamaCppAllocation output none with
  | none => pure none
  | some allocation =>
    let positive ← (allocation.buffers.filter (0 < ·.bytes)).mapM labelled
    let offloads ← (findAll offloadAt 0 output.toList).mapM layerCounts
    pure (attributedDevice positive offloads (findAll assignedAt 0 output.toList))

end Attribution

end Jaull.Runtime
