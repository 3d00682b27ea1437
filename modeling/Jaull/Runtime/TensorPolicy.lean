import Jaull.Domain.Memory
import Jaull.Domain.Runtime
import Jaull.Lib.CeilShare
import Jaull.Lib.ListMap
import Jaull.Lib.Pools
import Jaull.Metadata.TensorFormat
import Jaull.Text.Digits

/-!
# Tensor budget

Port of `TensorLayerBudget` and `select_tensor_budget` of `jaull/runtime/llama_cpp_tensor_policy.py`: how
many trailing blocks of a local file fit beside its output tensors. An index has a positive alignment, and
a positive block count when it has one.
-/

namespace Jaull.Runtime
open Jaull.Domain Jaull.Lib Jaull.Metadata Jaull.Text

/-- An estimate with the lines that the launch policy reads (Python `MemoryEstimate`). -/
structure LaunchEstimate extends MemoryEstimate where
  repoId : String
  weights : WeightEstimate
  kvCache : KvCacheEstimate
  deriving DecidableEq

/-- Python `LLAMA_CPP_HEADROOM_BYTES`. -/
def llamaCppHeadroomBytes : ℤ :=
  256 * 1024 ^ 2

/-- Python `LlamaCppTensorContext`. -/
structure LlamaCppTensorContext where
  index : Option GgufTensorIndex := none
  unavailableReason : Option String := none

/-- Python `TensorLayerBudget`. -/
structure TensorLayerBudget where
  requestedUnits : ℤ
  gpuBlocks : ℤ
  totalBlocks : ℤ
  gpuBlockBytes : ℤ
  gpuOutputBytes : ℤ
  hostInputBytes : ℤ
  gpuKvBytes : ℤ
  reserveBytes : ℤ
  headroomBytes : ℤ
  availableVramBytes : ℤ
  deriving DecidableEq, Repr

/-- Python `TensorLayerBudget.required_bytes`. -/
def TensorLayerBudget.requiredBytes (budget : TensorLayerBudget) : ℤ :=
  budget.gpuBlockBytes + budget.gpuOutputBytes + budget.gpuKvBytes + budget.reserveBytes +
    budget.headroomBytes

/-- A budget, or why there is none. -/
inductive TensorAnswer
  | budget (budget : TensorLayerBudget)
  | refused (reason : String)
  deriving DecidableEq, Repr

section Names

/-- Where a tensor is kept. -/
inductive TensorPool
  | input
  | output
  | block (number : ℕ)
  deriving DecidableEq, Repr

/-- The tensors every block has (`required`). -/
def requiredTensors : List String :=
  ["attn_norm.weight", "attn_q.weight", "attn_k.weight", "attn_v.weight", "attn_output.weight",
    "ffn_norm.weight", "ffn_gate.weight", "ffn_down.weight", "ffn_up.weight"]

/-- The tensors a block may have (`optional`). -/
def optionalTensors : List String :=
  ["attn_q.bias", "attn_k.bias", "attn_v.bias"]

/-- Python `re.fullmatch(r"blk\.(\d+)\.(.+)", name)`, with both groups. -/
def blockName? (name : String) : Option (List Char × String) :=
  let rest := name.toList.drop 4
  if name.toList.take 4 ≠ ['b', 'l', 'k', '.'] then none
  else if rest.takeWhile isDigitChar = [] then none
  else
    match rest.dropWhile isDigitChar with
    | '.' :: suffix =>
      if suffix = [] ∨ '\n' ∈ suffix then none
      else some (rest.takeWhile isDigitChar, String.ofList suffix)
    | _ => none

/-- Where a tensor is kept, and the rest of its name in a block. Nothing for an unclassified one. -/
def placeTensor (total : ℤ) (name : String) : Except TooManyDigits (Option (TensorPool × String)) :=
  if name = "token_embd.weight" then .ok (some (.input, ""))
  else if name ∈ ["output.weight", "output_norm.weight"] then .ok (some (.output, ""))
  else
    match blockName? name with
    | none => .ok none
    | some (digits, suffix) => do
      let number ← parseInt digits
      if total ≤ number then return none
      else if suffix ∉ requiredTensors ++ optionalTensors then return none
      else return some (.block number, suffix)

end Names

section Loop

/-- The size of a tensor up to the next one. -/
def alignedSize (alignment : ℕ) (tensor : GgufTensor) : ℕ :=
  (tensor.sizeBytes + alignment - 1) / alignment * alignment

/-- What the loop over the tensors counts. -/
structure TensorPools where
  blocks : List ℕ
  blockNames : List (List String)
  outputBytes : ℕ := 0
  inputBytes : ℕ := 0
  deriving DecidableEq, Repr

/-- The empty pools of so many blocks. -/
def TensorPools.empty (total : ℤ) : TensorPools where
  blocks := List.replicate total.toNat 0
  blockNames := List.replicate total.toNat []

/-- A tensor of some size in its pool. -/
def TensorPools.add (pools : TensorPools) (size : ℕ) (suffix : String) : TensorPool → TensorPools
  | .input => { pools with inputBytes := pools.inputBytes + size }
  | .output => { pools with outputBytes := pools.outputBytes + size }
  | .block number =>
    { pools with
      blocks := pools.blocks.modify number (· + size)
      blockNames := pools.blockNames.modify number (suffix :: ·) }

/-- The loop over the tensors, from some pools on: all of them, or the name that is unclassified. -/
def classify (total : ℤ) (alignment : ℕ) :
    TensorPools → List GgufTensor → Except TooManyDigits (TensorPools ⊕ String)
  | pools, [] => .ok (.inl pools)
  | pools, tensor :: rest => do
    match ← placeTensor total tensor.name with
    | none => return .inr tensor.name
    | some (pool, suffix) =>
      classify total alignment (pools.add (alignedSize alignment tensor) suffix pool) rest

end Loop

section Selection

/-- Python `by_name.get(name)`: of two tensors of a name the last. -/
def tensorNamed (index : GgufTensorIndex) (name : String) : Option GgufTensor :=
  index.tensors.reverse.find? (·.name = name)

/-- The estimate is one of the file. -/
def inputsAgree (estimate : LaunchEstimate) (index : GgufTensorIndex) (total : ℤ) : Bool :=
  estimate.kvCache.layers = some total &&
    estimate.kvCache.component.bytes.any (0 ≤ ·) &&
    estimate.weights.component.bytes = some (index.fileSizeBytes : ℤ) &&
    estimate.repoId = index.artifact.repoId &&
    !(estimate.weights.ggufVariant.isSome && index.artifact.quantization.isSome &&
      estimate.weights.ggufVariant ≠ index.artifact.quantization)

/-- The checks on the input and output tensors. -/
def sharedRefusal (index : GgufTensorIndex) : Option String :=
  match tensorNamed index "token_embd.weight", tensorNamed index "output.weight",
      tensorNamed index "output_norm.weight" with
  | some input, some output, some norm =>
    if output.dimensions ≠ input.dimensions then some "Input/output tensor shapes disagree."
    else if output.dimensions.length ≠ 2 ∨ norm.dimensions ≠ output.dimensions.take 1 then
      some "Unsupported input/output tensor dimensions."
    else none
  | _, _, _ =>
    some "Separate input/output tensors are required; shared weights are unsupported."

/-- The checks ahead of the loop, with the block count that passes them. -/
def admission (estimate : LaunchEstimate) (index : GgufTensorIndex) : ℤ ⊕ String :=
  match index.architecture, index.blockCount with
  | some "qwen2", some total =>
    if (index.tensors.length : ℤ) < total then
      .inr "Block count exceeds the tensor descriptor count."
    else if !inputsAgree estimate index total then
      .inr "Tensor artifact and estimate inputs do not agree or KV is unknown."
    else
      match sharedRefusal index with
      | some reason => .inr reason
      | none => .inl total
  | _, _ => .inr "Local tensor placement supports only dense qwen2 with a block count."

/-- The budget of so many trailing blocks. -/
def budgetOf (estimate : LaunchEstimate) (pools : TensorPools) (total vram : ℤ) (n : ℕ) :
    TensorLayerBudget where
  requestedUnits := n + 1
  gpuBlocks := n
  totalBlocks := total
  gpuBlockBytes := (pools.blocks.drop (total.toNat - n)).sum
  gpuOutputBytes := pools.outputBytes
  hostInputBytes := pools.inputBytes
  gpuKvBytes := ((estimate.kvCache.component.bytes.getD 0) * n + total - 1).fdiv total
  reserveBytes := estimate.inferenceConfiguration.deviceReserveBytes
  headroomBytes := llamaCppHeadroomBytes
  availableVramBytes := vram

/-- The budget that puts nothing on the GPU. -/
def hostBudget (pools : TensorPools) (total vram : ℤ) : TensorLayerBudget where
  requestedUnits := 0
  gpuBlocks := 0
  totalBlocks := total
  gpuBlockBytes := 0
  gpuOutputBytes := 0
  hostInputBytes := pools.inputBytes
  gpuKvBytes := 0
  reserveBytes := 0
  headroomBytes := 0
  availableVramBytes := vram

/-- The loop over the placements, from the largest on. -/
def largestBudget (estimate : LaunchEstimate) (pools : TensorPools) (total vram : ℤ) :
    TensorLayerBudget :=
  match firstFromTop (fun n => (budgetOf estimate pools total vram n).requiredBytes ≤ vram)
      total.toNat with
  | some n => budgetOf estimate pools total vram n
  | none => hostBudget pools total vram

/-- What follows the loop over the tensors. -/
def priced (estimate : LaunchEstimate) (pools : TensorPools) (total : ℤ) : TensorAnswer :=
  if pools.blockNames.any fun names => !requiredTensors.all (· ∈ names) then
    .refused "Incomplete repeating-block tensor layout."
  else
    match estimate.assessment.availableVramBytes with
    | none => .refused "VRAM budget unavailable."
    | some vram => .budget (largestBudget estimate pools total vram)

/-- Python `select_tensor_budget`. -/
def selectTensorBudget (estimate : LaunchEstimate) (context : LlamaCppTensorContext) :
    Except TooManyDigits TensorAnswer :=
  match context.index with
  | none =>
    .ok (.refused (context.unavailableReason.filter (· ≠ "") |>.getD
      "Local tensor descriptors unavailable."))
  | some index =>
    match admission estimate index with
    | .inr reason => .ok (.refused reason)
    | .inl total => do
      match ← classify total index.alignment (.empty total) index.tensors with
      | .inr name => return .refused ("Unclassified tensor: " ++ name ++ ".")
      | .inl pools => return priced estimate pools total

end Selection

section Accounting

/-- The pool that a name belongs to, however long its number. -/
def poolOf (total : ℤ) (name : String) : Option TensorPool :=
  if name = "token_embd.weight" then some .input
  else if name ∈ ["output.weight", "output_norm.weight"] then some .output
  else
    match blockName? name with
    | none => none
    | some (digits, suffix) =>
      if total ≤ decimalValue digits then none
      else if suffix ∉ requiredTensors ++ optionalTensors then none
      else some (.block (decimalValue digits))

/-- The number of a block is too long for `int`. -/
def hasLongNumber (name : String) : Bool :=
  (blockName? name).any fun groups => maxIntDigits < groups.1.length

/-- A block in or behind some place. -/
def isBlockFrom (first : ℕ) : TensorPool → Bool
  | .block number => first ≤ number
  | _ => false

/-- The aligned sizes of the tensors in some pools. -/
def poolBytes (total : ℤ) (alignment : ℕ) (p : TensorPool → Bool) (tensors : List GgufTensor) : ℕ :=
  poolSum (fun tensor : GgufTensor => poolOf total tensor.name) (alignedSize alignment) p tensors

variable {total : ℤ} {alignment : ℕ}

/-- A name is placed by its pool, unless its number is too long. -/
lemma placeTensor_spec (name : String) :
    if hasLongNumber name then ∃ error, placeTensor total name = .error error
    else ∃ place, placeTensor total name = .ok place ∧ place.map Prod.fst = poolOf total name := by
  by_cases input : name = "token_embd.weight"
  · subst input
    exact ⟨_, rfl, rfl⟩
  by_cases output : name ∈ ["output.weight", "output_norm.weight"]
  · have short : hasLongNumber name = false := by
      rw [List.mem_cons, List.mem_singleton] at output
      cases output with
      | inl eq => rw [eq]; decide
      | inr eq => rw [eq]; decide
    rw [short, if_neg Bool.false_ne_true, placeTensor, if_neg input, if_pos output, poolOf,
      if_neg input, if_pos output]
    exact ⟨_, rfl, rfl⟩
  rw [placeTensor, if_neg input, if_neg output, poolOf, if_neg input, if_neg output, hasLongNumber]
  cases parsed : blockName? name with
  | none => exact ⟨none, rfl, rfl⟩
  | some groups =>
    obtain ⟨digits, suffix⟩ := groups
    rw [Option.any_some]
    simp only [parseInt]
    by_cases long : maxIntDigits < digits.length
    · rw [if_pos (decide_eq_true long), if_pos long]
      exact ⟨_, rfl⟩
    · rw [if_neg (by simpa using long), if_neg long, ok_bind]
      by_cases beyond : total ≤ decimalValue digits
      · rw [if_pos beyond, if_pos beyond]
        exact ⟨none, rfl, rfl⟩
      · rw [if_neg beyond, if_neg beyond]
        by_cases odd : suffix ∉ requiredTensors ++ optionalTensors
        · rw [if_pos odd, if_pos odd]
          exact ⟨none, rfl, rfl⟩
        · rw [if_neg odd, if_neg odd]
          exact ⟨_, rfl, rfl⟩

/-- The number of a placed block is one of the blocks. -/
lemma block_lt_of_poolOf {name : String} {number : ℕ}
    (placed : poolOf total name = some (.block number)) : number < total.toNat := by
  rw [poolOf] at placed
  split at placed
  · cases placed
  · split at placed
    · cases placed
    · split at placed
      · cases placed
      · split at placed
        · cases placed
        · split at placed
          · cases placed
          · cases placed
            rename_i within _
            omega

/-- What the loop has counted after some tensors. -/
structure TensorPools.Counts (pools : TensorPools) (total : ℤ) (alignment : ℕ)
    (seen : List GgufTensor) : Prop where
  length : pools.blocks.length = total.toNat
  blocks : ∀ first, (pools.blocks.drop first).sum = poolBytes total alignment (isBlockFrom first) seen
  output : pools.outputBytes = poolBytes total alignment (· = .output) seen
  input : pools.inputBytes = poolBytes total alignment (· = .input) seen

/-- Empty pools count no tensors. -/
lemma empty_counts : (TensorPools.empty total).Counts total alignment [] where
  length := List.length_replicate
  blocks first := by
    rw [TensorPools.empty, List.drop_replicate, List.sum_replicate, nsmul_zero]
    rfl
  output := rfl
  input := rfl

/-- One tensor is counted once, in its own pool. -/
lemma TensorPools.Counts.add {pools : TensorPools} {seen : List GgufTensor} {tensor : GgufTensor}
    {pool : TensorPool} (counts : pools.Counts total alignment seen)
    (placed : poolOf total tensor.name = some pool) (suffix : String) :
    (pools.add (alignedSize alignment tensor) suffix pool).Counts total alignment (seen ++ [tensor]) := by
  have sums (p : TensorPool → Bool) : poolBytes total alignment p (seen ++ [tensor]) =
      poolBytes total alignment p seen + if p pool then alignedSize alignment tensor else 0 :=
    poolSum_concat placed
  cases pool with
  | input =>
    exact
      { length := counts.length
        blocks := fun first => by
          rw [sums, if_neg (by simp [isBlockFrom])]
          exact counts.blocks first
        output := by
          rw [sums, if_neg (by decide)]
          exact counts.output
        input := by
          rw [sums, if_pos (by decide), ← counts.input]
          rfl }
  | output =>
    exact
      { length := counts.length
        blocks := fun first => by
          rw [sums, if_neg (by simp [isBlockFrom])]
          exact counts.blocks first
        output := by
          rw [sums, if_pos (by decide), ← counts.output]
          rfl
        input := by
          rw [sums, if_neg (by decide)]
          exact counts.input }
  | block number =>
    have within : number < pools.blocks.length := counts.length ▸ block_lt_of_poolOf placed
    exact
      { length := by
          rw [TensorPools.add, List.length_modify]
          exact counts.length
        blocks := fun first => by
          rw [sums, ← counts.blocks first, TensorPools.add, sum_drop_modify within, isBlockFrom]
          simp only [decide_eq_true_eq]
        output := by
          rw [sums, if_neg (by simp)]
          exact counts.output
        input := by
          rw [sums, if_neg (by simp)]
          exact counts.input }

/-- A loop that ends has counted every tensor. -/
lemma classify_counts {pools result : TensorPools} {seen tensors : List GgufTensor}
    (counts : pools.Counts total alignment seen)
    (done : classify total alignment pools tensors = .ok (.inl result)) :
    result.Counts total alignment (seen ++ tensors) ∧
      ∀ tensor ∈ tensors, (poolOf total tensor.name).isSome = true := by
  induction tensors generalizing pools seen with
  | nil =>
    cases done
    rw [List.append_nil]
    exact ⟨counts, List.forall_mem_nil _⟩
  | cons tensor rest ih =>
    rw [classify] at done
    have spec := @placeTensor_spec total tensor.name
    split at spec
    · obtain ⟨error, eq⟩ := spec
      rw [eq] at done
      cases done
    · obtain ⟨place, eq, pool⟩ := spec
      rw [eq, ok_bind] at done
      cases place with
      | none => cases done
      | some place =>
        rw [Option.map_some] at pool
        obtain ⟨result, all⟩ := ih (counts.add pool.symm place.2) done
        rw [List.append_assoc, List.singleton_append] at result
        refine ⟨result, List.forall_mem_cons.mpr ⟨?_, all⟩⟩
        rw [← pool]
        rfl

/-- Behind tensors that have a pool comes one whose number is too long. -/
def LongNumberFirst (total : ℤ) (tensors : List GgufTensor) : Prop :=
  ∃ before tensor after, tensors = before ++ tensor :: after ∧
    (∀ other ∈ before, (poolOf total other.name).isSome = true) ∧ hasLongNumber tensor.name = true

/-- The loop raises at the first number that is too long, if it gets there. -/
lemma classify_error_iff {pools : TensorPools} {tensors : List GgufTensor} :
    (∃ error, classify total alignment pools tensors = .error error) ↔
      LongNumberFirst total tensors := by
  induction tensors generalizing pools with
  | nil =>
    constructor
    · intro raised
      obtain ⟨error, eq⟩ := raised
      cases eq
    · intro long
      obtain ⟨before, tensor, after, eq, -⟩ := long
      cases before <;> cases eq
  | cons tensor rest ih =>
    have spec := @placeTensor_spec total tensor.name
    rw [classify]
    split at spec
    · -- this number is too long, and none was before it
      rename_i long
      obtain ⟨error, eq⟩ := spec
      rw [eq]
      exact iff_of_true ⟨error, rfl⟩ ⟨[], tensor, rest, rfl, List.forall_mem_nil _, long⟩
    · rename_i short
      obtain ⟨place, eq, pool⟩ := spec
      rw [eq, ok_bind]
      cases place with
      -- an unsupported tensor ends the loop without an error
      | none =>
        rw [Option.map_none] at pool
        refine iff_of_false ?_ ?_
        · intro raised
          obtain ⟨error, eq⟩ := raised
          cases eq
        · intro long
          obtain ⟨before, other, after, eq, placed, long⟩ := long
          cases before with
          | nil =>
            cases eq
            exact short long
          | cons first before =>
            cases eq
            have placed := placed tensor List.mem_cons_self
            rw [← pool] at placed
            cases placed
      -- a placed tensor is counted and the rest decides
      | some place =>
        rw [Option.map_some] at pool
        refine ih.trans ?_
        constructor
        · intro long
          obtain ⟨before, other, after, rfl, placed, long⟩ := long
          refine ⟨tensor :: before, other, after, rfl, List.forall_mem_cons.mpr ⟨?_, placed⟩, long⟩
          rw [← pool]
          rfl
        · intro long
          obtain ⟨before, other, after, eq, placed, long⟩ := long
          cases before with
          | nil =>
            cases eq
            exact absurd long short
          | cons first before =>
            cases eq
            exact ⟨before, other, after, rfl,
              fun other mem => placed other (List.mem_cons_of_mem _ mem), long⟩

end Accounting

section Budgets
variable {estimate : LaunchEstimate} {index : GgufTensorIndex} {context : LlamaCppTensorContext}

/-- An index as it is read from a file. -/
structure Usable (index : GgufTensorIndex) : Prop where
  aligned : 0 < index.alignment
  distinct : (index.tensors.map (·.name)).Nodup
  counted : ∀ total, index.blockCount = some total → 0 < total

/-- What a file is read as is usable. -/
lemma usable_of_readLocalTensorIndex {openFile : String → Option LocalFile}
    {artifact : LocalArtifact} (read : readLocalTensorIndex openFile artifact = .ok index) :
    Usable index := by
  rw [readLocalTensorIndex] at read
  split at read
  · cases read
  split at read
  · cases read
  rename_i file _
  obtain ⟨header, after, header_read, alignment, laidOut⟩ := indexOf_laidOut read
  have aligned := (readLocalHeader_checked header_read).1
  refine ⟨alignment ▸ aligned, laidOut.distinct, ?_⟩
  intro total counted
  rw [indexOf, header_read] at read
  split at read
  · cases read
  dsimp only at read
  split at read
  · cases read
  split at read
  · cases read
  cases read
  have positive := (Option.filter_eq_some_iff.mp counted).2
  exact of_decide_eq_true positive

/-- The bytes of the input tensor, of the output tensors and of the last blocks. -/
def inputBytes (index : GgufTensorIndex) (total : ℤ) : ℕ :=
  poolBytes total index.alignment (· = .input) index.tensors

/-- The bytes of the output tensors. -/
def outputBytes (index : GgufTensorIndex) (total : ℤ) : ℕ :=
  poolBytes total index.alignment (· = .output) index.tensors

/-- The bytes of the last blocks. -/
def trailingBytes (index : GgufTensorIndex) (total : ℤ) (n : ℕ) : ℕ :=
  poolBytes total index.alignment (isBlockFrom (total.toNat - n)) index.tensors

/-- What `n` blocks on the GPU take, with their share of the KV cache rounded up. -/
def requiredFor (estimate : LaunchEstimate) (index : GgufTensorIndex) (total kv : ℤ) (n : ℕ) : ℤ :=
  trailingBytes index total n + outputBytes index total + ⌈(kv * n / total : ℚ)⌉ +
    estimate.inferenceConfiguration.deviceReserveBytes + llamaCppHeadroomBytes

/-- Every tensor has a pool, and the pools add up to all tensors. -/
def CountedOnce (index : GgufTensorIndex) (total : ℤ) : Prop :=
  (∀ tensor ∈ index.tensors, (poolOf total tensor.name).isSome = true) ∧
    trailingBytes index total total.toNat + outputBytes index total + inputBytes index total =
      (index.tensors.map (alignedSize index.alignment)).sum

/-- A budget counts every tensor once and puts as many blocks on the GPU as fit. -/
def TensorLayerBudget.Prices (budget : TensorLayerBudget) (estimate : LaunchEstimate)
    (index : GgufTensorIndex) : Prop :=
  ∃ total kv vram, index.blockCount = some total ∧ estimate.kvCache.component.bytes = some kv ∧
    estimate.assessment.availableVramBytes = some vram ∧ CountedOnce index total ∧
    budget.hostInputBytes = inputBytes index total ∧
    ((∃ n : ℕ, budget.requestedUnits = n + 1 ∧
        IsGreatest {n : ℕ | (n : ℤ) ≤ total ∧ requiredFor estimate index total kv n ≤ vram} n ∧
        budget.gpuBlockBytes = trailingBytes index total n ∧
        budget.gpuOutputBytes = outputBytes index total ∧
        budget.gpuKvBytes = ⌈(kv * n / total : ℚ)⌉ ∧
        budget.requiredBytes = requiredFor estimate index total kv n) ∨
      budget.requestedUnits = 0 ∧ vram < requiredFor estimate index total kv 0)

variable {total : ℤ} {pools : TensorPools}

/-- The pools of a whole file. -/
lemma countedOnce_of_counts
    (all : ∀ tensor ∈ index.tensors, (poolOf total tensor.name).isSome = true) :
    CountedOnce index total := by
  refine ⟨all, ?_⟩
  rw [trailingBytes, outputBytes, inputBytes, Nat.sub_self, poolBytes, poolBytes, poolBytes,
    poolSum_add, poolSum_add, poolSum_all]
  · intro tensor mem
    obtain ⟨pool, placed⟩ := Option.isSome_iff_exists.mp (all tensor mem)
    rw [placed, Option.any_some]
    cases pool <;> simp [isBlockFrom]
  · intro pool one
    cases pool <;> simp_all [isBlockFrom]
  · intro pool one
    cases pool <;> simp_all [isBlockFrom]

/-- What a budget of some blocks requires. -/
lemma requiredBytes_budgetOf {kv vram : ℤ} {n : ℕ} (positive : 0 < total)
    (known : estimate.kvCache.component.bytes = some kv)
    (counts : pools.Counts total index.alignment index.tensors) :
    (budgetOf estimate pools total vram n).gpuKvBytes = ⌈(kv * n / total : ℚ)⌉ ∧
      (budgetOf estimate pools total vram n).requiredBytes =
        requiredFor estimate index total kv n := by
  have share : ((kv * n + total - 1).fdiv total : ℤ) = ⌈(kv * n / total : ℚ)⌉ := by
    rw [← ceilShare_eq_fdiv positive, ceilShare, ← mul_div_assoc]
    norm_cast
  have kvBytes : (budgetOf estimate pools total vram n).gpuKvBytes = ⌈(kv * n / total : ℚ)⌉ := by
    rw [← share, budgetOf, known, Option.getD_some]
  refine ⟨kvBytes, ?_⟩
  rw [TensorLayerBudget.requiredBytes, kvBytes, requiredFor, trailingBytes, ← counts.blocks,
    outputBytes, ← counts.output]
  rfl

/-- What the last loop returns prices the file. -/
lemma largestBudget_prices {kv vram : ℤ} (positive : 0 < total)
    (blocks : index.blockCount = some total)
    (known : estimate.kvCache.component.bytes = some kv)
    (available : estimate.assessment.availableVramBytes = some vram)
    (counts : pools.Counts total index.alignment index.tensors)
    (all : ∀ tensor ∈ index.tensors, (poolOf total tensor.name).isSome = true) :
    (largestBudget estimate pools total vram).Prices estimate index := by
  refine ⟨total, kv, vram, blocks, known, available, countedOnce_of_counts all, ?_⟩
  have required (n : ℕ) := @requiredBytes_budgetOf estimate index total pools kv vram n positive known counts
  rw [largestBudget]
  cases found : firstFromTop (fun n => (budgetOf estimate pools total vram n).requiredBytes ≤ vram)
      total.toNat with
  | none =>
    have never := firstFromTop_eq_none.mp found 0 (Nat.zero_le _)
    refine ⟨congrArg Int.ofNat counts.input, Or.inr ⟨rfl, ?_⟩⟩
    rw [(required 0).2] at never
    exact lt_of_not_ge (of_decide_eq_false never)
  | some n =>
    obtain ⟨⟨le, fits⟩, greatest⟩ := isGreatest_of_firstFromTop found
    refine ⟨congrArg Int.ofNat counts.input, Or.inl ⟨n, rfl, ⟨⟨?_, ?_⟩, ?_⟩, ?_, ?_, required n⟩⟩
    · omega
    · rw [← (required n).2]
      exact of_decide_eq_true fits
    · intro m mem
      refine greatest ⟨by have := mem.1; omega, decide_eq_true ?_⟩
      rw [(required m).2]
      exact mem.2
    · exact congrArg Int.ofNat (counts.blocks _)
    · exact congrArg Int.ofNat counts.output

/-- An admitted index names its blocks, and the cache is sized. -/
lemma admission_eq_inl (admitted : admission estimate index = .inl total) :
    index.blockCount = some total ∧ ∃ kv, estimate.kvCache.component.bytes = some kv := by
  rw [admission] at admitted
  split at admitted
  · rename_i blocks
    split at admitted
    · cases admitted
    split at admitted
    · cases admitted
    rename_i agree
    split at admitted
    · cases admitted
    cases admitted
    refine ⟨blocks, ?_⟩
    cases known : estimate.kvCache.component.bytes with
    | none =>
      rw [inputsAgree, known] at agree
      simp at agree
    | some kv => exact ⟨kv, rfl⟩
  · cases admitted

/-- Once the checks ahead of it pass, the loop over the tensors raises at a number that is too long;
whatever else is returned prices the file. -/
theorem selectTensorBudget_iff (usable : Usable index) (given : context.index = some index) :
    (∃ answer, selectTensorBudget estimate context = .ok answer ∧
      ∀ budget, answer = .budget budget → budget.Prices estimate index) ↔
      ¬∃ total, admission estimate index = .inl total ∧ LongNumberFirst total index.tensors := by
  rw [selectTensorBudget, given]
  dsimp only
  cases admitted : admission estimate index with
  | inr reason =>
    refine iff_of_true ⟨_, rfl, ?_⟩ ?_
    · intro budget eq
      cases eq
    · intro long
      obtain ⟨total, eq, -⟩ := long
      cases eq
  | inl total =>
    obtain ⟨blocks, kv, known⟩ := admission_eq_inl admitted
    have raises := @classify_error_iff total index.alignment (.empty total) index.tensors
    -- only the loop over the tensors can raise
    have only : (∃ t, (Sum.inl total : ℤ ⊕ String) = .inl t ∧ LongNumberFirst t index.tensors) ↔
        LongNumberFirst total index.tensors := by
      constructor
      · intro long
        obtain ⟨t, eq, long⟩ := long
        cases eq
        exact long
      · intro long
        exact ⟨total, rfl, long⟩
    rw [only, ← raises]
    dsimp only
    cases run : classify total index.alignment (.empty total) index.tensors with
    | error error =>
      refine iff_of_false ?_ fun never => never ⟨error, rfl⟩
      intro done
      obtain ⟨answer, eq, -⟩ := done
      rw [error_bind] at eq
      cases eq
    | ok result =>
      rw [ok_bind]
      refine iff_of_true ?_ ?_
      · cases result with
        | inr name =>
          refine ⟨_, rfl, ?_⟩
          intro budget eq
          cases eq
        | inl pools =>
          obtain ⟨counts, all⟩ := classify_counts empty_counts run
          refine ⟨_, rfl, ?_⟩
          intro budget eq
          rw [priced] at eq
          split at eq
          · cases eq
          split at eq
          · cases eq
          · rename_i vram available
            cases eq
            -- every tensor was counted, so the budget prices them all
            exact largestBudget_prices (usable.counted total blocks) blocks known available counts all
      · intro raised
        obtain ⟨error, eq⟩ := raised
        cases eq

/-- A verified file of one block. -/
def oneBlockIndex (names : List String) : GgufTensorIndex where
  artifact :=
    { repoId := "a/b"
      revision := "main"
      filename := "w.gguf"
      format := "gguf"
      localPath := some "w.gguf"
      isDownloaded := true
      isVerified := true }
  architecture := some "qwen2"
  blockCount := some 1
  alignment := 32
  dataOffset := 8192
  fileSizeBytes := 16384
  tensors := (names.map fun name => ⟨name, [1], 0, 96, 4⟩) ++
    [⟨"token_embd.weight", [1, 1], 0, 0, 4⟩, ⟨"output.weight", [1, 1], 0, 32, 4⟩,
      ⟨"output_norm.weight", [1], 0, 64, 4⟩]

/-- An estimate of such a file. -/
def oneBlockEstimate : LaunchEstimate where
  inferenceConfiguration := { contextLength := 4096 }
  totalBytes := none
  assessment :=
    { status := .offloadingRequired
      confidence := .high
      targetDevice := .auto
      effectiveDevice := .gpu
      availableVramBytes := some (2 ^ 30) }
  repoId := "a/b"
  weights :=
    { component :=
        { name := "weights"
          bytes := some 16384
          source := .exact
          confidence := .high
          explanation := "" } }
  kvCache :=
    { component :=
        { name := "kv_cache"
          bytes := some 1024
          source := .derived
          confidence := .high
          explanation := "" }
      layers := some 1
      contextLength := 4096
      batchSize := 1
      dtypeBytes := 2
      formula := "" }

/-- The name of the query weights of the block with these digits. -/
def queryName (digits : List Char) : String :=
  String.ofList (['b', 'l', 'k', '.'] ++ (digits ++ '.' :: "attn_q.weight".toList))

/-- A spelled block name is read back. -/
lemma blockName?_spelled {digits suffix : List Char} (some_digit : digits ≠ [])
    (all : ∀ c ∈ digits, isDigitChar c = true) (some_suffix : suffix ≠ []) (line : '\n' ∉ suffix) :
    blockName? (String.ofList (['b', 'l', 'k', '.'] ++ (digits ++ '.' :: suffix))) =
      some (digits, String.ofList suffix) := by
  have point : ¬isDigitChar '.' = true := by decide +kernel
  have front : (digits ++ '.' :: suffix).takeWhile isDigitChar = digits := by
    rw [List.takeWhile_append_of_pos all, List.takeWhile_cons_of_neg point, List.append_nil]
  have back : (digits ++ '.' :: suffix).dropWhile isDigitChar = '.' :: suffix := by
    rw [List.dropWhile_append_of_pos all, List.dropWhile_cons_of_neg point]
  have rest : (['b', 'l', 'k', '.'] ++ (digits ++ '.' :: suffix)).drop 4 = digits ++ '.' :: suffix := rfl
  have start : (['b', 'l', 'k', '.'] ++ (digits ++ '.' :: suffix)).take 4 = ['b', 'l', 'k', '.'] := rfl
  rw [blockName?, String.toList_ofList, rest, start, front, back, if_neg (by simp), if_neg some_digit]
  change (if suffix = [] ∨ '\n' ∈ suffix then none else some (digits, String.ofList suffix)) = _
  rw [if_neg]
  intro odd
  cases odd with
  | inl empty => exact some_suffix empty
  | inr newline => exact line newline

/-- A query tensor is none of the other ones. -/
lemma queryName_ne {digits : List Char} {name : String} (other : name.toList.head? ≠ some 'b') :
    queryName digits ≠ name := by
  intro eq
  rw [← eq, queryName, String.toList_ofList] at other
  exact other rfl

/-- An index of one query tensor is usable. -/
lemma usable_queryName (digits : List Char) : Usable (oneBlockIndex [queryName digits]) where
  aligned := Nat.zero_lt_succ 31
  distinct := by
    have head : queryName digits ≠ "token_embd.weight" ∧ queryName digits ≠ "output.weight" ∧
        queryName digits ≠ "output_norm.weight" :=
      ⟨queryName_ne (by decide), queryName_ne (by decide), queryName_ne (by decide)⟩
    simpa [oneBlockIndex] using head
  counted total eq := by
    cases eq
    decide

/-- A number of more than 4300 digits makes `int` raise. -/
lemma selectTensorBudget_queryName {digits : List Char} (all : ∀ c ∈ digits, isDigitChar c = true)
    (long : maxIntDigits < digits.length) :
    selectTensorBudget oneBlockEstimate ⟨some (oneBlockIndex [queryName digits]), none⟩ =
      .error ⟨digits.length⟩ := by
  have some_digit : digits ≠ [] := by
    rintro rfl
    exact Nat.not_lt_zero _ long
  have parsed := blockName?_spelled some_digit all
    (by decide : "attn_q.weight".toList ≠ []) (by decide)
  have placed : placeTensor 1 (queryName digits) = .error ⟨digits.length⟩ := by
    rw [placeTensor, if_neg (queryName_ne (by decide)), if_neg]
    · rw [queryName, parsed]
      dsimp only
      rw [parseInt, if_pos long]
      rfl
    · intro mem
      rw [List.mem_cons, List.mem_singleton] at mem
      cases mem with
      | inl eq => exact queryName_ne (by decide) eq
      | inr eq => exact queryName_ne (by decide) eq
  have admitted : admission oneBlockEstimate (oneBlockIndex [queryName digits]) = .inl 1 := rfl
  have run : classify 1 (oneBlockIndex [queryName digits]).alignment (.empty 1)
      (oneBlockIndex [queryName digits]).tensors = .error ⟨digits.length⟩ := by
    rw [oneBlockIndex, List.map_cons, List.cons_append, classify, placed]
    rfl
  rw [selectTensorBudget]
  dsimp only
  rw [admitted]
  dsimp only
  rw [run]
  rfl

/-- A block number beyond the digits that `int()` takes. -/
theorem longNumber_raises :
    ∃ digits : List Char, digits = List.replicate 4301 '0' ∧
      Usable (oneBlockIndex [queryName digits]) ∧
      ¬∃ answer, selectTensorBudget oneBlockEstimate
        ⟨some (oneBlockIndex [queryName digits]), none⟩ = .ok answer := by
  refine ⟨_, rfl, usable_queryName _, ?_⟩
  have zero : isDigitChar '0' = true := by decide
  rw [selectTensorBudget_queryName]
  · intro done
    obtain ⟨answer, eq⟩ := done
    cases eq
  · intro c mem
    exact List.eq_of_mem_replicate mem ▸ zero
  · rw [List.length_replicate]
    exact Nat.lt_succ_self 4300

/-- The tensors of a whole block, behind those that belong to none. -/
def wholeBlock : List TensorSpec :=
  [⟨"token_embd.weight", [1, 1], 0⟩, ⟨"output.weight", [1, 1], 0⟩, ⟨"output_norm.weight", [1], 0⟩] ++
    requiredTensors.map fun suffix => ⟨"blk.0." ++ suffix, [1], 0⟩

/-- A file of them. -/
def wholeBlockFile : LocalFile where
  content := writeLocalHeader 3
    [⟨"general.architecture", .text, .string "qwen2"⟩, ⟨"qwen2.block_count", .fixed 4, .int 1⟩]
    (layOut 32 0 wholeBlock) ++ List.replicate 15649 0
  before := ⟨16384, 0⟩
  after := ⟨16384, 0⟩

/-- What it is read as. -/
def wholeBlockIndex : GgufTensorIndex :=
  { oneBlockIndex [] with
    dataOffset := 736
    tensors := layOut 32 0 wholeBlock }

/-- `selectTensorBudget_iff` on the file of a whole block. -/
theorem wholeBlock_priced :
    readLocalTensorIndex (fun _ => some wholeBlockFile) wholeBlockIndex.artifact = .ok wholeBlockIndex ∧
      ∃ budget, selectTensorBudget oneBlockEstimate ⟨some wholeBlockIndex, none⟩ = .ok (.budget budget) ∧
        budget.Prices oneBlockEstimate wholeBlockIndex := by
  have read : readLocalTensorIndex (fun _ => some wholeBlockFile) wholeBlockIndex.artifact =
      .ok wholeBlockIndex := by
    decide +kernel
  refine ⟨read, ?_⟩
  have short : ∀ tensor ∈ wholeBlockIndex.tensors, hasLongNumber tensor.name = false := by
    decide +kernel
  have priced : ∃ answer, selectTensorBudget oneBlockEstimate ⟨some wholeBlockIndex, none⟩ = .ok answer ∧
      ∀ budget, answer = .budget budget → budget.Prices oneBlockEstimate wholeBlockIndex := by
    refine (selectTensorBudget_iff (usable_of_readLocalTensorIndex read) rfl).mpr ?_
    intro long
    obtain ⟨total, -, before, tensor, after, eq, -, long⟩ := long
    rw [short tensor (eq ▸ List.mem_append_right _ List.mem_cons_self)] at long
    cases long
  obtain ⟨answer, selected, prices⟩ := priced
  have budgeted : ∀ reason, selectTensorBudget oneBlockEstimate ⟨some wholeBlockIndex, none⟩ ≠
      .ok (.refused reason) := by
    intro reason eq
    have answered : (selectTensorBudget oneBlockEstimate ⟨some wholeBlockIndex, none⟩).toOption.any
        (fun answer => answer matches .budget _) = true := by
      decide +kernel
    rw [eq] at answered
    cases answered
  cases answer with
  | budget budget => exact ⟨budget, selected, prices budget rfl⟩
  | refused reason => exact absurd selected (budgeted reason)

end Budgets

end Jaull.Runtime
