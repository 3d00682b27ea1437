import Jaull.Estimator.Placement
import Jaull.Lib.ForDown

/-!
# Hardware Fit

Port of `analyze_components` of `jaull/estimator/hardware_fit.py` with both searches of
`_try_gpu_offload`. The block search is a `forDown` loop over `blockPass`; the byte search is a
binary search with as much fuel as the length of its interval has binary digits. `//` is the floor
division `Int.fdiv`, and everything Python raises is an `AnalyzeError`.
-/

namespace Jaull.Estimator
open Jaull.Domain Jaull.Lib

/-- What the analysis raises instead of a result. -/
inductive AnalyzeError
  | valueError (message : String)
  /-- a record whose named fields failed validation -/
  | validationError (fields : List String)
  | zeroDivisionError
  | assertionError
  deriving DecidableEq, Repr

/-- One shared pool only without a dedicated budget (Python `_memory_topology`). -/
def memoryTopology (hardware : HardwareProfile) : HardwareMemoryTopology :=
  if (availableAcceleratorMemoryBytes hardware).isSome then .discreteMemory
  else if hardware.accelerators.any (·.sharedMemory) then .unifiedMemory
  else .discreteMemory

/-- GPU blocks of a placement that uses no GPU (Python `_gpu_transformer_blocks_when_unused`). -/
def gpuTransformerBlocksWhenUnused (availableVram : Option ℤ) : Option ℤ :=
  if availableVram.isSome then some 0 else none

/-- The validator of the endpoint record (Python `NonBlockPlacementBounds(…)`). -/
def nonBlockPlacementBounds (gpuBlockBytes ramBlockBytes nonBlockBytes : ℤ)
    (hostEndpoint : OffloadPlacement) : Except AnalyzeError NonBlockPlacementBounds :=
  if nonneg : 0 ≤ gpuBlockBytes ∧ 0 ≤ ramBlockBytes ∧ 0 ≤ nonBlockBytes ∧
      0 ≤ hostEndpoint.gpuRequiredBytes ∧ 0 ≤ hostEndpoint.ramRequiredBytes ∧
      0 ≤ hostEndpoint.ramOverheadBytes ∧ 0 ≤ hostEndpoint.ramSafetyMarginBytes then
    .ok {
      gpuTransformerBlockWeightBytes := gpuBlockBytes
      ramTransformerBlockWeightBytes := ramBlockBytes
      nonBlockWeightBytes := nonBlockBytes
      gpuRequiredMinBytes := hostEndpoint.gpuRequiredBytes
      ramRequiredMaxBytes := hostEndpoint.ramRequiredBytes
      ramOverheadMaxBytes := hostEndpoint.ramOverheadBytes
      ramSafetyMarginMaxBytes := hostEndpoint.ramSafetyMarginBytes
      nonneg := nonneg }
  else
    .error (.validationError (([
      ("gpu_transformer_block_weight_bytes", gpuBlockBytes),
      ("ram_transformer_block_weight_bytes", ramBlockBytes),
      ("non_block_weight_bytes", nonBlockBytes),
      ("gpu_required_min_bytes", hostEndpoint.gpuRequiredBytes),
      ("ram_required_max_bytes", hostEndpoint.ramRequiredBytes),
      ("ram_overhead_max_bytes", hostEndpoint.ramOverheadBytes),
      ("ram_safety_margin_max_bytes", hostEndpoint.ramSafetyMarginBytes)].filter
        fun field => field.2 < 0).map (·.1)))

/-- What the offload search is called with (keyword arguments of `_try_gpu_offload`). -/
structure OffloadRequest where
  components : MemoryComponents
  availableVram : ℤ
  availableRam : ℤ
  totalTransformerBlocks : Option ℤ
  topology : HardwareMemoryTopology
  weightDecomposition : Option TransformerBlockWeightDecomposition := none

/-- A placement as a diagnostics record (Python `_offload_candidate`; no record when the assertion
that the placement counts blocks fails). -/
def offloadCandidate (placement : OffloadPlacement) (kvCacheBytes deviceReserveBytes
    availableVram : ℤ) : Option HardwareFitOffloadCandidate :=
  placement.gpuTransformerBlocks.map fun gpuTransformerBlocks => {
    gpuTransformerBlocks := gpuTransformerBlocks
    gpuRequiredBytes := placement.gpuRequiredBytes
    ramRequiredBytes := placement.ramRequiredBytes
    availableVramBytes := availableVram
    excessBytes := max 0 (placement.gpuRequiredBytes - availableVram)
    headroomBytes := max 0 (availableVram - placement.gpuRequiredBytes)
    gpuWeightBytes := placement.gpuWeightBytes
    ramWeightBytes := placement.ramWeightBytes
    kvCacheBytes := kvCacheBytes
    gpuKvCacheBytes := placement.gpuKvCacheBytes
    ramKvCacheBytes := placement.ramKvCacheBytes
    deviceReserveBytes := deviceReserveBytes
    gpuOverheadBytes := placement.gpuOverheadBytes
    gpuSafetyMarginBytes := placement.gpuSafetyMarginBytes
    ramOverheadBytes := placement.ramOverheadBytes
    ramSafetyMarginBytes := placement.ramSafetyMarginBytes
    nonBlockPlacementBounds := placement.nonBlockPlacementBounds }

/-- The result of an accepted placement (Python `_offload_result_from_placement`). -/
def offloadResultFromPlacement (request : OffloadRequest) (placement : OffloadPlacement)
    (placementMethod : HardwareFitPlacementMethod) (warnings : List String)
    (offloadDiagnostics : Option HardwareFitOffloadDiagnostics) : HardwareFitResult where
  mode := .gpuOffload
  memoryTopology := request.topology
  weightsBytes := request.components.weightsBytes
  kvCacheBytes := request.components.kvCacheBytes
  overheadBytes := request.components.overheadBytes
  deviceReserveBytes := request.components.deviceReserveBytes
  safetyMarginBytes := request.components.safetyMarginBytes
  availableVramBytes := some request.availableVram
  availableRamBytes := some request.availableRam
  gpuRequiredBytes := some placement.gpuRequiredBytes
  gpuWeightBytes := placement.gpuWeightBytes
  gpuOverheadBytes := placement.gpuOverheadBytes
  gpuSafetyMarginBytes := placement.gpuSafetyMarginBytes
  ramRequiredBytes := some placement.ramRequiredBytes
  ramWeightBytes := placement.ramWeightBytes
  ramOverheadBytes := placement.ramOverheadBytes
  ramSafetyMarginBytes := placement.ramSafetyMarginBytes
  gpuKvCacheBytes := placement.gpuKvCacheBytes
  ramKvCacheBytes := placement.ramKvCacheBytes
  gpuTransformerBlocks := placement.gpuTransformerBlocks
  totalTransformerBlocks := placement.totalTransformerBlocks
  placementMethod := placementMethod
  offloadDiagnostics := offloadDiagnostics
  nonBlockPlacementBounds := placement.nonBlockPlacementBounds
  reason := "Model does not fit fully in VRAM, but a valid GPU/RAM weight " ++
    "placement fits without treating RAM and VRAM as one pool."
  warnings := warnings

/-- The decomposition the block search follows: only the config-based one. -/
def OffloadRequest.decomposition (request : OffloadRequest) :
    Option TransformerBlockWeightDecomposition :=
  request.weightDecomposition.filter (·.method = .configParameterDecomposition)

/-- `estimated_bytes_per_transformer_block` of Python `_try_gpu_offload`. -/
def OffloadRequest.bytesPerTransformerBlock (request : OffloadRequest) (totalBlocks : ℤ) : ℤ :=
  ⌈(request.components.weightsBytes : ℚ) / (totalBlocks : ℚ)⌉

/-- `gpu_block_bytes` of Python `_try_gpu_offload`. -/
def gpuBlockBytes (decomposition : TransformerBlockWeightDecomposition)
    (totalBlocks gpuBlocks : ℤ) : ℤ :=
  (decomposition.estimatedTransformerBlockWeightBytes * gpuBlocks + totalBlocks - 1).fdiv
    totalBlocks

/-- Weight bytes the search puts on the GPU for a number of blocks. -/
def OffloadRequest.gpuWeightBytes (request : OffloadRequest) (totalBlocks gpuBlocks : ℤ) : ℤ :=
  match request.decomposition with
  | none =>
    min request.components.weightsBytes (gpuBlocks * request.bytesPerTransformerBlock totalBlocks)
  | some d => gpuBlockBytes d totalBlocks gpuBlocks + d.estimatedNonBlockWeightBytes

/-- Where the block search starts, or nothing where it does not start at all. -/
def OffloadRequest.searchCeiling (request : OffloadRequest) (totalBlocks : ℤ) :
    Except AnalyzeError (Option ℤ) :=
  let bytesPerBlock := request.bytesPerTransformerBlock totalBlocks
  let blocksBudget := request.availableVram - request.components.deviceReserveBytes
  if bytesPerBlock ≤ 0 then .ok none
  else if blocksBudget ≤ 0 then .ok none
  else if bytesPerBlock * totalBlocks + request.components.kvCacheBytes = 0 then
    .error .zeroDivisionError
  else
    let uniform := min totalBlocks ((blocksBudget * totalBlocks).fdiv
      (bytesPerBlock * totalBlocks + request.components.kvCacheBytes))
    match request.decomposition with
    | none => .ok (some uniform)
    | some d =>
      let denominator := d.estimatedTransformerBlockWeightBytes + request.components.kvCacheBytes
      let nonBlockBytes := d.estimatedNonBlockWeightBytes
      if denominator ≤ 0 ∨ blocksBudget ≤ nonBlockBytes then .ok none
      else .ok (some (min (totalBlocks - 1)
        ((totalBlocks * (blocksBudget - nonBlockBytes)).fdiv denominator)))

/-- The placement of a number of blocks, with the host-heavy endpoint when the non-block split is
unknown; nothing where the loop body continues. -/
def OffloadRequest.blockPlacement (request : OffloadRequest) (totalBlocks gpuBlocks : ℤ) :
    Except AnalyzeError (Option OffloadPlacement) :=
  match calculateOffloadPlacement request.components (some totalBlocks) (some gpuBlocks)
      (request.gpuWeightBytes totalBlocks gpuBlocks) with
  | none => .ok none
  | some placement =>
    match request.decomposition with
    | none => .ok (some placement)
    | some d =>
      let blockBytes := gpuBlockBytes d totalBlocks gpuBlocks
      match calculateOffloadPlacement request.components (some totalBlocks) (some gpuBlocks)
          blockBytes with
      | none => .ok none
      | some hostEndpoint =>
        match nonBlockPlacementBounds blockBytes
            (d.estimatedTransformerBlockWeightBytes - blockBytes)
            d.estimatedNonBlockWeightBytes hostEndpoint with
        | .error e => .error e
        | .ok bounds => .ok (some { placement with nonBlockPlacementBounds := some bounds })

/-- `ram_budget` of Python `_try_gpu_offload`: the host-heavy endpoint when there is one. -/
def OffloadPlacement.ramBudget (placement : OffloadPlacement) : ℤ :=
  match placement.nonBlockPlacementBounds with
  | some bounds => bounds.ramRequiredMaxBytes
  | none => placement.ramRequiredBytes

/-- The warnings of a block placement. -/
def OffloadPlacement.warnings (placement : OffloadPlacement) : List String :=
  if placement.nonBlockPlacementBounds.isSome then
    ["Non-block placement is unknown. Both GPU-heavy and host-heavy " ++
      "endpoint budgets fit; neither endpoint is a runtime prediction."]
  else []

/-- One pass of the block search: continue, remember a rejected placement, or return. -/
def OffloadRequest.blockPass (request : OffloadRequest) (totalBlocks ceiling : ℤ) (gpuBlocks : ℕ)
    (lastRejected : Option HardwareFitOffloadCandidate) :
    Except AnalyzeError (Pass (Option HardwareFitOffloadCandidate) HardwareFitResult) :=
  match request.blockPlacement totalBlocks gpuBlocks with
  | .error e => .error e
  | .ok none => .ok (.next lastRejected)
  | .ok (some placement) =>
    match offloadCandidate placement request.components.kvCacheBytes
        request.components.deviceReserveBytes request.availableVram with
    | none => .error .assertionError
    | some candidate =>
      if placement.gpuRequiredBytes ≤ request.availableVram ∧
          placement.ramBudget ≤ request.availableRam then
        .ok (.done (offloadResultFromPlacement request placement .transformerBlocks
          placement.warnings (some {
            searchCeilingTransformerBlocks := ceiling
            selected := candidate
            firstRejectedHigher := lastRejected })))
      else .ok (.next (some candidate))

/-- The block search of Python `_try_gpu_offload`. -/
def OffloadRequest.tryBlockOffload (request : OffloadRequest) (totalBlocks : ℤ) :
    Except AnalyzeError (Option HardwareFitResult) :=
  match request.searchCeiling totalBlocks with
  | .error e => .error e
  | .ok none => .ok none
  | .ok (some ceiling) => forDown (request.blockPass totalBlocks ceiling) ceiling.toNat none

/-- The binary search of Python `_try_gpu_offload` for the largest share that fits VRAM. -/
def OffloadRequest.byteSearch (request : OffloadRequest) :
    ℕ → ℤ → ℤ → Option OffloadPlacement → Option OffloadPlacement
  | 0, _, _, best => best
  | fuel + 1, low, high, best =>
    if low ≤ high then
      let gpuWeightBytes := (low + high).fdiv 2
      match calculateOffloadPlacement request.components request.totalTransformerBlocks none
          gpuWeightBytes with
      | none => request.byteSearch fuel low (gpuWeightBytes - 1) best
      | some placement =>
        if placement.gpuRequiredBytes ≤ request.availableVram then
          request.byteSearch fuel (gpuWeightBytes + 1) high (some placement)
        else request.byteSearch fuel low (gpuWeightBytes - 1) best
    else best

/-- The byte-level fallback of Python `_try_gpu_offload`. -/
def OffloadRequest.tryByteOffload (request : OffloadRequest) : Option HardwareFitResult :=
  let c := request.components
  let availableForGpuWeights := request.availableVram - c.kvCacheBytes - c.deviceReserveBytes
  if availableForGpuWeights ≤ 0 then none
  else
    let high := min (c.weightsBytes - 1) availableForGpuWeights
    match request.byteSearch (Nat.log2 high.toNat + 1) 1 high none with
    | none => none
    | some best =>
      if request.availableRam < best.ramRequiredBytes then none
      else some (offloadResultFromPlacement request best .estimatedBytes
        ["Transformer block count unavailable; GPU offload placement is " ++
          "estimated by bytes."] none)

/-- Partial GPU placement (Python `_try_gpu_offload`). -/
def OffloadRequest.tryGpuOffload (request : OffloadRequest) :
    Except AnalyzeError (Option HardwareFitResult) :=
  match request.totalTransformerBlocks with
  | none => .ok request.tryByteOffload
  | some totalBlocks =>
    if validTransformerBlockCount (some totalBlocks) then request.tryBlockOffload totalBlocks
    else .ok request.tryByteOffload

/-- Everything the analysis needs in one pool (the terms of `gpu_required_if_resident`). -/
def MemoryComponents.total (c : MemoryComponents) : ℤ :=
  c.kvCacheBytes + c.overheadBytes + c.deviceReserveBytes + c.weightsBytes + c.safetyMarginBytes

/-- What system memory must hold to run on the CPU alone (`cpu_required`). -/
def MemoryComponents.cpuRequired (c : MemoryComponents) : ℤ :=
  c.weightsBytes + c.kvCacheBytes + c.overheadBytes + c.safetyMarginBytes

/-- The block count the analysis works with, from its two spellings and the decomposition. -/
def resolveTransformerBlocks (c : MemoryComponents) (totalTransformerBlocks totalLayers : Option ℤ)
    (weightDecomposition : Option TransformerBlockWeightDecomposition) :
    Except AnalyzeError (Option ℤ) :=
  if totalTransformerBlocks.isSome ∧ totalLayers.isSome ∧
      totalTransformerBlocks ≠ totalLayers then
    .error (.valueError ("total_layers is a legacy alias for total_transformer_blocks; " ++
      "both values were provided and they differ."))
  else
    let blocks := totalTransformerBlocks.or totalLayers
    match weightDecomposition with
    | none => .ok blocks
    | some d =>
      if d.totalWeightBytes ≠ c.weightsBytes then
        .error (.valueError "Weight decomposition must match the estimated weights.")
      else
        match blocks with
        | none => .ok (some d.totalTransformerBlocks)
        | some blocks =>
          if blocks ≠ d.totalTransformerBlocks then
            .error (.valueError "Weight decomposition must match the transformer block count.")
          else .ok (some blocks)

/-- Fit against the single shared pool, reserve included (Python `_analyze_unified_memory`). -/
def analyzeUnifiedMemory (c : MemoryComponents) (availableRam : ℤ)
    (totalTransformerBlocks : Option ℤ) : HardwareFitResult :=
  let required := c.weightsBytes + c.kvCacheBytes + c.overheadBytes + c.deviceReserveBytes +
    c.safetyMarginBytes
  { mode := if required ≤ availableRam then .cpuRam else .tooLarge
    memoryTopology := .unifiedMemory
    weightsBytes := c.weightsBytes
    kvCacheBytes := c.kvCacheBytes
    overheadBytes := c.overheadBytes
    deviceReserveBytes := c.deviceReserveBytes
    safetyMarginBytes := c.safetyMarginBytes
    availableRamBytes := some availableRam
    ramRequiredBytes := some required
    ramWeightBytes := c.weightsBytes
    ramOverheadBytes := c.overheadBytes
    ramSafetyMarginBytes := c.safetyMarginBytes
    ramKvCacheBytes := c.kvCacheBytes
    totalTransformerBlocks := totalTransformerBlocks
    reason := if required ≤ availableRam then
        "Unified-memory hardware uses one shared pool; fit was checked " ++
          "against available system memory without summing VRAM and RAM. " ++
          "The device reserve is charged to that shared pool."
      else "Unified-memory pool is insufficient for the estimated requirement." }

/-- The `GPU_RESIDENT` result of Python `analyze_components`. -/
def residentResult (c : MemoryComponents) (availableVram availableRam : ℤ)
    (totalTransformerBlocks : Option ℤ) (topology : HardwareMemoryTopology) :
    HardwareFitResult where
  mode := .gpuResident
  memoryTopology := topology
  weightsBytes := c.weightsBytes
  kvCacheBytes := c.kvCacheBytes
  overheadBytes := c.overheadBytes
  deviceReserveBytes := c.deviceReserveBytes
  safetyMarginBytes := c.safetyMarginBytes
  availableVramBytes := some availableVram
  availableRamBytes := some availableRam
  gpuRequiredBytes := some c.total
  gpuWeightBytes := c.weightsBytes
  gpuOverheadBytes := c.overheadBytes
  gpuSafetyMarginBytes := c.safetyMarginBytes
  ramRequiredBytes := some 0
  ramWeightBytes := 0
  gpuKvCacheBytes := c.kvCacheBytes
  ramKvCacheBytes := 0
  gpuTransformerBlocks := totalTransformerBlocks
  totalTransformerBlocks := totalTransformerBlocks
  placementMethod :=
    if validTransformerBlockCount totalTransformerBlocks then .transformerBlocks
    else .estimatedBytes
  reason := "Weights, KV cache, overhead, reserve, and margin fit in VRAM."

/-- `planning_warnings` of Python `analyze_components`. -/
def planningWarnings (availableVram : Option ℤ)
    (weightDecomposition : Option TransformerBlockWeightDecomposition) : List String :=
  match weightDecomposition with
  | none => []
  | some d =>
    if availableVram.isSome ∧ d.method = .configParameterDecomposition ∧
        0 < d.estimatedNonBlockWeightBytes then
      ["Partial offload could not be guaranteed across the unknown non-block split. " ++
        "A backend-specific placement may still be viable."]
    else []

/-- The `CPU_RAM` and `TOO_LARGE` results of Python `analyze_components`. -/
def hostResult (c : MemoryComponents) (availableVram : Option ℤ) (availableRam : ℤ)
    (totalTransformerBlocks : Option ℤ) (topology : HardwareMemoryTopology)
    (weightDecomposition : Option TransformerBlockWeightDecomposition) : HardwareFitResult where
  mode := if c.cpuRequired ≤ availableRam then .cpuRam else .tooLarge
  memoryTopology := topology
  weightsBytes := c.weightsBytes
  kvCacheBytes := c.kvCacheBytes
  overheadBytes := c.overheadBytes
  deviceReserveBytes := c.deviceReserveBytes
  safetyMarginBytes := c.safetyMarginBytes
  availableVramBytes := availableVram
  availableRamBytes := some availableRam
  gpuRequiredBytes := if availableVram.isSome then some c.total else none
  gpuWeightBytes := 0
  ramRequiredBytes := some c.cpuRequired
  ramWeightBytes := c.weightsBytes
  ramOverheadBytes := c.overheadBytes
  ramSafetyMarginBytes := c.safetyMarginBytes
  gpuKvCacheBytes := 0
  ramKvCacheBytes := c.kvCacheBytes
  gpuTransformerBlocks := gpuTransformerBlocksWhenUnused availableVram
  totalTransformerBlocks := totalTransformerBlocks
  placementMethod := .none
  reason :=
    if c.cpuRequired ≤ availableRam then
      (if availableVram.isSome then "No viable GPU placement found" else "No GPU detected") ++
        "; full model fits in system RAM."
    else "No supported placement fits: VRAM cannot hold a viable GPU placement " ++
      "and system RAM is insufficient for CPU execution."
  warnings := planningWarnings availableVram weightDecomposition

/-- Classify the placement once the block count is resolved: resident, offloaded, on the host or
nowhere (the discrete branch of Python `analyze_components`). -/
def analyzeDiscreteMemory (c : MemoryComponents) (availableVram : Option ℤ) (availableRam : ℤ)
    (totalTransformerBlocks : Option ℤ) (topology : HardwareMemoryTopology)
    (weightDecomposition : Option TransformerBlockWeightDecomposition) :
    Except AnalyzeError HardwareFitResult :=
  let host := hostResult c availableVram availableRam totalTransformerBlocks topology
    weightDecomposition
  match availableVram with
  | none => .ok host
  | some vram =>
    if c.total ≤ vram then
      .ok (residentResult c vram availableRam totalTransformerBlocks topology)
    else
      let request : OffloadRequest :=
        { components := c
          availableVram := vram
          availableRam := availableRam
          totalTransformerBlocks := totalTransformerBlocks
          topology := topology
          weightDecomposition := weightDecomposition }
      match request.tryGpuOffload with
      | .error e => .error e
      | .ok (some offload) => .ok offload
      | .ok none => .ok host

/-- Classify model placement (Python `analyze_components`). -/
def analyzeComponents (c : MemoryComponents) (hardware : HardwareProfile)
    (totalTransformerBlocks totalLayers : Option ℤ)
    (weightDecomposition : Option TransformerBlockWeightDecomposition) :
    Except AnalyzeError HardwareFitResult :=
  match resolveTransformerBlocks c totalTransformerBlocks totalLayers weightDecomposition with
  | .error e => .error e
  | .ok blocks =>
    match memoryTopology hardware with
    | .unifiedMemory => .ok (analyzeUnifiedMemory c hardware.memory.availableBytes blocks)
    | .discreteMemory =>
      analyzeDiscreteMemory c (availableAcceleratorMemoryBytes hardware)
        hardware.memory.availableBytes blocks .discreteMemory weightDecomposition

end Jaull.Estimator
