import Jaull.Estimator.BlockSearch

/-!
# Every byte is accounted for

Whatever branch of `analyzeComponents` answers, the two pools' shares of each component sum to the
component, each pool's need is the sum of its shares (plus the device reserve on the GPU), and the
needs stay within the budgets they were checked against. The proof follows the branches: a resident
result, a result of the block search, a result of the byte search, a result on the host.
-/

namespace Jaull.Estimator
open Jaull.Domain Jaull.Lib

/-- The shares of a result. -/
def fitShares (result : HardwareFitResult) : Shares where
  gpuWeight := result.gpuWeightBytes
  ramWeight := result.ramWeightBytes
  gpuKvCache := result.gpuKvCacheBytes
  ramKvCache := result.ramKvCacheBytes
  gpuOverhead := result.gpuOverheadBytes
  ramOverhead := result.ramOverheadBytes
  gpuSafetyMargin := result.gpuSafetyMarginBytes
  ramSafetyMargin := result.ramSafetyMarginBytes

/-- A placement whose shares add up and whose needs fit both budgets, endpoint included. -/
structure OffloadRequest.Accounted (request : OffloadRequest) (placement : OffloadPlacement) :
    Prop where
  conserve : placement.shares.Conserve request.components
  gpuRequired : placement.gpuRequiredBytes =
    placement.shares.gpuTotal + request.components.deviceReserveBytes
  ramRequired : placement.ramRequiredBytes = placement.shares.ramTotal
  vram : placement.gpuRequiredBytes ≤ request.availableVram
  ram : placement.ramRequiredBytes ≤ request.availableRam
  bounds : ∀ bounds, placement.nonBlockPlacementBounds = some bounds →
    bounds.gpuTransformerBlockWeightBytes + bounds.ramTransformerBlockWeightBytes +
        bounds.nonBlockWeightBytes = request.components.weightsBytes ∧
      bounds.gpuRequiredMinBytes ≤ placement.gpuRequiredBytes ∧
      placement.ramRequiredBytes ≤ bounds.ramRequiredMaxBytes ∧
      bounds.ramRequiredMaxBytes ≤ request.availableRam

section
variable {request : OffloadRequest} {totalBlocks gpuBlocks : ℤ} {placement : OffloadPlacement}
  {result : HardwareFitResult}

/-- A placement without endpoint that fits both budgets is accounted for. -/
lemma OffloadRequest.accounted_of_placement {total gpu : Option ℤ} {gpuWeight : ℤ}
    (nonneg : request.components.Nonneg)
    (eq : calculateOffloadPlacement request.components total gpu gpuWeight = some placement)
    (vram : placement.gpuRequiredBytes ≤ request.availableVram)
    (ram : placement.ramRequiredBytes ≤ request.availableRam) : request.Accounted placement := by
  have spec := calculateOffloadPlacement_spec nonneg eq
  refine ⟨spec.conserve, spec.gpuRequired, spec.ramRequired, vram, ram, ?_⟩
  intro bounds some
  rw [spec.bounds] at some
  cases some

/-- A placement the block search accepts is accounted for. -/
lemma OffloadRequest.accounted_of_blockPlacement (valid : request.Valid totalBlocks)
    (lt : ∀ d, request.decomposition = some d → gpuBlocks < totalBlocks)
    (eq : request.blockPlacement totalBlocks gpuBlocks = .ok (some placement))
    (vram : placement.gpuRequiredBytes ≤ request.availableVram)
    (ram : placement.ramBudget ≤ request.availableRam) : request.Accounted placement := by
  simp only [OffloadRequest.blockPlacement] at eq
  cases place : calculateOffloadPlacement request.components (some totalBlocks) (some gpuBlocks)
      (request.gpuWeightBytes totalBlocks gpuBlocks) with
  | none =>
    rw [place] at eq
    cases eq
  | some placement' =>
    rw [place] at eq
    have spec := calculateOffloadPlacement_spec valid.nonneg place
    cases decomposed : request.decomposition with
    | none =>
      rw [decomposed] at eq
      cases eq
      -- without a decomposition the RAM is checked by the placement's own figure
      rw [OffloadPlacement.ramBudget, spec.bounds] at ram
      exact accounted_of_placement valid.nonneg place vram ram
    | some d =>
      rw [decomposed] at eq
      cases host : calculateOffloadPlacement request.components (some totalBlocks)
          (some gpuBlocks) (gpuBlockBytes d totalBlocks gpuBlocks) with
      | none =>
        simp only [host] at eq
        cases eq
      | some hostEndpoint =>
        obtain ⟨bounds, eqBounds, gpuBlock, ramBlock, nonBlock, gpuMin, ramMax⟩ :=
          request.nonBlockPlacementBounds_ok valid (lt d decomposed) host
        simp only [host, eqBounds] at eq
        cases eq
        simp only [OffloadRequest.gpuWeightBytes, decomposed] at place
        have weights := valid.weights_eq decomposed
        have nonneg := d.nonBlock_nonneg
        -- more on the card is less on the host, so the endpoint bounds the placement
        obtain ⟨gpuLe, ramLe⟩ := placement_mono valid.nonneg (by omega) host place
        have ramHost : hostEndpoint.ramRequiredBytes ≤ request.availableRam :=
          ramMax.symm.trans_le ram
        refine ⟨spec.conserve, spec.gpuRequired, spec.ramRequired, vram, ramLe.trans ramHost, ?_⟩
        rintro _ ⟨⟩
        rw [gpuBlock, ramBlock, nonBlock, gpuMin, ramMax]
        exact ⟨by omega, gpuLe, ramLe, ramHost⟩

/-- The byte search only ever remembers placements that fit VRAM. -/
lemma OffloadRequest.byteSearch_fits {fuel low high} {best : Option OffloadPlacement}
    (fits : ∀ b, best = some b → ∃ gpuWeight, calculateOffloadPlacement request.components
      request.totalTransformerBlocks none gpuWeight = some b ∧
        b.gpuRequiredBytes ≤ request.availableVram)
    (eq : request.byteSearch fuel low high best = some placement) :
    ∃ gpuWeight, calculateOffloadPlacement request.components request.totalTransformerBlocks none
        gpuWeight = some placement ∧ placement.gpuRequiredBytes ≤ request.availableVram := by
  induction fuel generalizing low high best with
  | zero => exact fits placement eq
  | succ fuel ih =>
    simp only [OffloadRequest.byteSearch] at eq
    split_ifs at eq with active
    · cases place : calculateOffloadPlacement request.components request.totalTransformerBlocks
          none ((low + high).fdiv 2) with
      | none =>
        simp only [place] at eq
        exact ih fits eq
      | some candidate =>
        simp only [place] at eq
        split_ifs at eq with vram
        · refine ih ?_ eq
          rintro _ ⟨⟩
          exact ⟨_, place, vram⟩
        · exact ih fits eq
    · exact fits placement eq

/-- A pass that returns hands back an accepted placement. -/
lemma OffloadRequest.blockPass_done {ceiling : ℤ} {n : ℕ}
    {lastRejected : Option HardwareFitOffloadCandidate}
    (eq : request.blockPass totalBlocks ceiling n lastRejected = .ok (.done result)) :
    ∃ placement diagnostics, request.blockPlacement totalBlocks n = .ok (some placement) ∧
      placement.gpuRequiredBytes ≤ request.availableVram ∧
      placement.ramBudget ≤ request.availableRam ∧
      result = offloadResultFromPlacement request placement .transformerBlocks placement.warnings
        diagnostics := by
  simp only [OffloadRequest.blockPass] at eq
  cases pass : request.blockPlacement totalBlocks n with
  | error e =>
    rw [pass] at eq
    cases eq
  | ok found =>
    rw [pass] at eq
    cases found with
    | none => cases eq
    | some placement =>
      simp only at eq
      cases candidate : offloadCandidate placement request.components.kvCacheBytes
          request.components.deviceReserveBytes request.availableVram with
      | none =>
        rw [candidate] at eq
        cases eq
      | some candidate' =>
        rw [candidate] at eq
        simp only at eq
        split_ifs at eq with accepts
        · cases eq
          exact ⟨placement, _, rfl, accepts.1, accepts.2, rfl⟩
        · cases eq

/-- Whatever the offload search returns is an accounted placement. -/
lemma OffloadRequest.tryGpuOffload_accounted (nonneg : request.components.Nonneg)
    (resolved : ∀ d, request.weightDecomposition = some d →
      d.totalWeightBytes = request.components.weightsBytes ∧
        request.totalTransformerBlocks = some d.totalTransformerBlocks)
    (eq : request.tryGpuOffload = .ok (some result)) :
    ∃ placement method warnings diagnostics, request.Accounted placement ∧
      result = offloadResultFromPlacement request placement method warnings diagnostics := by
  -- the byte search remembers only what fits, and the RAM is checked behind it
  have bytes : request.tryByteOffload = some result →
      ∃ placement method warnings diagnostics, request.Accounted placement ∧
        result = offloadResultFromPlacement request placement method warnings diagnostics := by
    intro eq
    simp only [OffloadRequest.tryByteOffload] at eq
    split_ifs at eq with noRoom
    cases search : request.byteSearch
        (Nat.log2 (min (request.components.weightsBytes - 1)
          (request.availableVram - request.components.kvCacheBytes -
            request.components.deviceReserveBytes)).toNat + 1) 1
        (min (request.components.weightsBytes - 1)
          (request.availableVram - request.components.kvCacheBytes -
            request.components.deviceReserveBytes)) none with
    | none =>
      rw [search] at eq
      cases eq
    | some best =>
      rw [search] at eq
      simp only at eq
      split_ifs at eq with ram
      cases eq
      obtain ⟨gpuWeight, place, vram⟩ :=
        OffloadRequest.byteSearch_fits (fun _ none => by cases none) search
      exact ⟨best, _, _, _, accounted_of_placement nonneg place vram (by omega), rfl⟩
  cases blocks : request.totalTransformerBlocks with
  | none =>
    simp only [OffloadRequest.tryGpuOffload, blocks] at eq
    exact bytes (Except.ok.inj eq)
  | some totalBlocks =>
    simp only [OffloadRequest.tryGpuOffload, blocks] at eq
    split_ifs at eq with counted
    · have valid : request.Valid totalBlocks :=
        { nonneg := nonneg
          blocks_pos := by simpa [validTransformerBlockCount] using counted
          blocks := blocks
          decomposition := by
            intro d given
            obtain ⟨weights, total⟩ := resolved d given
            rw [blocks] at total
            exact ⟨weights, (Option.some.inj total).symm⟩ }
      obtain ⟨start, eqStart, below⟩ := OffloadRequest.searchCeiling_ok valid
      rw [OffloadRequest.tryBlockOffload, eqStart] at eq
      cases start with
      | none => cases eq
      | some ceiling =>
        -- the block search returns at the first count that fits both budgets
        obtain ⟨n, state, pos, le, done⟩ := forDown_some eq
        obtain ⟨placement, diagnostics, place, vram, ram, rfl⟩ := OffloadRequest.blockPass_done done
        have lt : ∀ d, request.decomposition = some d → (n : ℤ) < totalBlocks := by
          intro d decomposed
          have lt := below ceiling rfl d decomposed
          omega
        exact ⟨placement, _, _, diagnostics,
          accounted_of_blockPlacement valid lt place vram ram, rfl⟩
    · exact bytes (Except.ok.inj eq)

end

/-- The accounting of a result: shares add up, needs are sums of shares, needs respect the budgets
they were checked against. A resident result needs nothing of system RAM. -/
structure FitAccounted (c : MemoryComponents) (hardware : HardwareProfile)
    (result : HardwareFitResult) : Prop where
  conserve : (fitShares result).Conserve c
  ramRequired : result.ramRequiredBytes = some (fitShares result).ramTotal
  gpuRequired : result.mode = .gpuResident ∨ result.mode = .gpuOffload →
    result.gpuRequiredBytes = some ((fitShares result).gpuTotal + c.deviceReserveBytes) ∧
      ∃ vram, availableAcceleratorMemoryBytes hardware = some vram ∧
        (fitShares result).gpuTotal + c.deviceReserveBytes ≤ vram
  ram : result.mode ≠ .gpuResident → (fitShares result).ramTotal ≤ hardware.memory.availableBytes
  resident : result.mode = .gpuResident → (fitShares result).ramTotal = 0
  bounds : ∀ bounds, result.nonBlockPlacementBounds = some bounds →
    bounds.gpuTransformerBlockWeightBytes + bounds.ramTransformerBlockWeightBytes +
        bounds.nonBlockWeightBytes = c.weightsBytes ∧
      bounds.gpuRequiredMinBytes ≤ (fitShares result).gpuTotal + c.deviceReserveBytes ∧
      (fitShares result).ramTotal ≤ bounds.ramRequiredMaxBytes ∧
      bounds.ramRequiredMaxBytes ≤ hardware.memory.availableBytes

section
variable {c : MemoryComponents} {hardware : HardwareProfile}
  {totalTransformerBlocks totalLayers : Option ℤ}
  {weightDecomposition : Option TransformerBlockWeightDecomposition} {result : HardwareFitResult}

/-- A result on the host holds everything in RAM. -/
lemma hostResult_accounted {vram blocks} (nonneg : c.Nonneg)
    (fits : c.cpuRequired ≤ hardware.memory.availableBytes) :
    FitAccounted c hardware (hostResult c vram hardware.memory.availableBytes blocks
      .discreteMemory weightDecomposition) := by
  have mode : (hostResult c vram hardware.memory.availableBytes blocks .discreteMemory
      weightDecomposition).mode = .cpuRam := by simp [hostResult, fits]
  have ramTotal : (fitShares (hostResult c vram hardware.memory.availableBytes blocks
      .discreteMemory weightDecomposition)).ramTotal = c.cpuRequired := rfl
  exact {
    conserve := {
      gpuWeight_nonneg := le_rfl
      ramWeight_nonneg := nonneg.weights
      weights := zero_add _
      gpuKvCache_nonneg := le_rfl
      ramKvCache_nonneg := nonneg.kvCache
      kvCache := zero_add _
      gpuOverhead_nonneg := le_rfl
      ramOverhead_nonneg := nonneg.overhead
      overhead := zero_add _
      gpuSafetyMargin_nonneg := le_rfl
      ramSafetyMargin_nonneg := nonneg.safetyMargin
      safetyMargin := zero_add _ }
    ramRequired := rfl
    gpuRequired := by
      rw [mode]
      rintro (h | h) <;> cases h
    ram := by
      intro _
      rw [ramTotal]
      exact fits
    resident := by
      rw [mode]
      intro h
      cases h
    bounds := by
      intro bounds h
      cases h }

/-- A resident result holds everything in VRAM. -/
lemma residentResult_accounted {vram blocks} (nonneg : c.Nonneg)
    (budget : availableAcceleratorMemoryBytes hardware = some vram) (fits : c.total ≤ vram) :
    FitAccounted c hardware (residentResult c vram hardware.memory.availableBytes blocks
      .discreteMemory) := by
  have gpuTotal : (fitShares (residentResult c vram hardware.memory.availableBytes blocks
      .discreteMemory)).gpuTotal + c.deviceReserveBytes = c.total := by
    simp only [fitShares, residentResult, Shares.gpuTotal, MemoryComponents.total]
    ring
  exact {
    conserve := {
      gpuWeight_nonneg := nonneg.weights
      ramWeight_nonneg := le_rfl
      weights := add_zero _
      gpuKvCache_nonneg := nonneg.kvCache
      ramKvCache_nonneg := le_rfl
      kvCache := add_zero _
      gpuOverhead_nonneg := nonneg.overhead
      ramOverhead_nonneg := le_rfl
      overhead := add_zero _
      gpuSafetyMargin_nonneg := nonneg.safetyMargin
      ramSafetyMargin_nonneg := le_rfl
      safetyMargin := add_zero _ }
    ramRequired := rfl
    gpuRequired := by
      intro _
      rw [gpuTotal]
      exact ⟨rfl, vram, budget, fits⟩
    ram := fun notResident => absurd rfl notResident
    resident := fun _ => rfl
    bounds := by
      intro bounds h
      cases h }

/-- A result of the offload search holds its placement. -/
lemma offloadResult_accounted {request : OffloadRequest} {placement : OffloadPlacement}
    {method warnings diagnostics} (accounted : request.Accounted placement)
    (budget : availableAcceleratorMemoryBytes hardware = some request.availableVram)
    (ram : request.availableRam = hardware.memory.availableBytes) :
    FitAccounted request.components hardware
      (offloadResultFromPlacement request placement method warnings diagnostics) where
  conserve := accounted.conserve
  ramRequired := congrArg some accounted.ramRequired
  gpuRequired := by
    intro _
    refine ⟨congrArg some accounted.gpuRequired, request.availableVram, budget, ?_⟩
    have vram := accounted.vram
    rw [accounted.gpuRequired] at vram
    exact vram
  ram := by
    intro _
    have fits := accounted.ram
    rw [accounted.ramRequired, ram] at fits
    exact fits
  resident := by
    intro h
    cases h
  bounds := by
    intro bounds eq
    have found := accounted.bounds bounds eq
    rw [accounted.gpuRequired, accounted.ramRequired, ram] at found
    exact found

/-- The form of a result: one pool, the host, the card whole, or an accounted placement between
both. -/
lemma analyzeComponents_form (nonneg : c.Nonneg)
    (eq : analyzeComponents c hardware totalTransformerBlocks totalLayers weightDecomposition =
      .ok result) :
    (∃ blocks, result = analyzeUnifiedMemory c hardware.memory.availableBytes blocks) ∨
      (∃ vram blocks, result = hostResult c vram hardware.memory.availableBytes blocks
        .discreteMemory weightDecomposition) ∨
      (∃ vram blocks, availableAcceleratorMemoryBytes hardware = some vram ∧ c.total ≤ vram ∧
        result = residentResult c vram hardware.memory.availableBytes blocks .discreteMemory) ∨
      ∃ (request : OffloadRequest) (placement : _) (method : _) (warnings : _) (diagnostics : _),
        request.components = c ∧
        availableAcceleratorMemoryBytes hardware = some request.availableVram ∧
        request.availableRam = hardware.memory.availableBytes ∧ request.Accounted placement ∧
        result = offloadResultFromPlacement request placement method warnings diagnostics := by
  simp only [analyzeComponents] at eq
  cases resolved : resolveTransformerBlocks c totalTransformerBlocks totalLayers
      weightDecomposition with
  | error e =>
    rw [resolved] at eq
    cases eq
  | ok blocks =>
    simp only [resolved] at eq
    -- unified memory has one pool; else the card, the split and the host come in this order
    cases topology : memoryTopology hardware with
    | unifiedMemory =>
      simp only [topology, Except.ok.injEq] at eq
      exact .inl ⟨blocks, eq.symm⟩
    | discreteMemory =>
      refine .inr ?_
      simp only [topology, analyzeDiscreteMemory] at eq
      cases budget : availableAcceleratorMemoryBytes hardware with
      | none =>
        simp only [budget, Except.ok.injEq] at eq
        exact .inl ⟨none, blocks, eq.symm⟩
      | some vram =>
        simp only [budget] at eq
        split_ifs at eq with resident
        · exact .inr (.inl ⟨vram, blocks, rfl, resident, (Except.ok.inj eq).symm⟩)
        · cases offload : OffloadRequest.tryGpuOffload
              { components := c
                availableVram := vram
                availableRam := hardware.memory.availableBytes
                totalTransformerBlocks := blocks
                topology := .discreteMemory
                weightDecomposition := weightDecomposition } with
          | error e =>
            simp only [offload] at eq
            cases eq
          | ok found =>
            simp only [offload] at eq
            cases found with
            | none => exact .inl ⟨some vram, blocks, (Except.ok.inj eq).symm⟩
            | some offloaded =>
              cases eq
              obtain ⟨placement, method, warnings, diagnostics, accounted, rfl⟩ :=
                OffloadRequest.tryGpuOffload_accounted nonneg
                  (fun d given => by
                    obtain rfl : weightDecomposition = some d := given
                    exact resolveTransformerBlocks_some resolved)
                  offload
              exact .inr (.inr ⟨_, placement, method, warnings, diagnostics, rfl, rfl, rfl,
                accounted, rfl⟩)

/-- A result that uses the GPU states what it needs there, and that fits the VRAM budget. -/
lemma analyzeComponents_gpuRequired (nonneg : c.Nonneg)
    (eq : analyzeComponents c hardware totalTransformerBlocks totalLayers weightDecomposition =
      .ok result)
    (onGpu : result.mode = .gpuResident ∨ result.mode = .gpuOffload) :
    ∃ budget required, availableAcceleratorMemoryBytes hardware = some budget ∧
      result.gpuRequiredBytes = some required ∧ required ≤ budget := by
  have within : FitAccounted c hardware result → ∃ budget required,
      availableAcceleratorMemoryBytes hardware = some budget ∧
        result.gpuRequiredBytes = some required ∧ required ≤ budget := by
    intro accounted
    obtain ⟨required, budget, known, le⟩ := accounted.gpuRequired onGpu
    exact ⟨budget, _, known, required, le⟩
  rcases analyzeComponents_form nonneg eq with ⟨blocks, rfl⟩ | ⟨vram, blocks, rfl⟩ |
    ⟨vram, blocks, budget, fits, rfl⟩ |
    ⟨request, placement, method, warnings, diagnostics, rfl, budget, ram, accounted, rfl⟩
  · simp only [analyzeUnifiedMemory] at onGpu
    split_ifs at onGpu <;> simp at onGpu
  · simp only [hostResult] at onGpu
    split_ifs at onGpu <;> simp at onGpu
  · exact within (residentResult_accounted nonneg budget fits)
  · exact within (offloadResult_accounted accounted budget ram)

/-- Every result that places the model on discrete-memory hardware is accounted for, and so is every
result that uses a GPU. -/
theorem analyzeComponents_accounted (nonneg : c.Nonneg)
    (eq : analyzeComponents c hardware totalTransformerBlocks totalLayers weightDecomposition =
      .ok result)
    (places : result.mode = .gpuResident ∨ result.mode = .gpuOffload ∨
      result.mode = .cpuRam ∧ result.memoryTopology = .discreteMemory) :
    FitAccounted c hardware result := by
  rcases analyzeComponents_form nonneg eq with ⟨blocks, rfl⟩ | ⟨vram, blocks, rfl⟩ |
    ⟨vram, blocks, budget, fits, rfl⟩ |
    ⟨request, placement, method, warnings, diagnostics, rfl, budget, ram, accounted, rfl⟩
  · simp only [analyzeUnifiedMemory] at places
    split_ifs at places <;> simp at places
  · by_cases fits : c.cpuRequired ≤ hardware.memory.availableBytes
    · exact hostResult_accounted nonneg fits
    · simp [hostResult, fits] at places
  · exact residentResult_accounted nonneg budget fits
  · exact offloadResult_accounted accounted budget ram

end

/-- `analyzeComponents_accounted` on the desktop. -/
theorem analyzeComponents_accounted_desktop :
    ∃ result, analyzeComponents fourteenBillion desktop (some 48) none
        (some fourteenBillionSplit) = .ok result ∧
      result.mode = .gpuOffload ∧ FitAccounted fourteenBillion desktop result := by
  have offloaded : (analyzeComponents fourteenBillion desktop (some 48) none
      (some fourteenBillionSplit)).toOption.map (·.mode) = some .gpuOffload := by decide +kernel
  cases eq : analyzeComponents fourteenBillion desktop (some 48) none
      (some fourteenBillionSplit) with
  | error e =>
    rw [eq] at offloaded
    cases offloaded
  | ok result =>
    rw [eq] at offloaded
    have mode : result.mode = .gpuOffload := Option.some.inj offloaded
    exact ⟨result, rfl, mode,
      analyzeComponents_accounted fourteenBillion_nonneg eq (.inr (.inl mode))⟩

/-- The desktop with a negative amount of available RAM, which the profile does not exclude. -/
def misreportedDesktop : HardwareProfile :=
  { desktop with memory := { totalBytes := 34359738368, availableBytes := -1 } }

/-- A model that fits the card whole. -/
def halfBillion : MemoryComponents where
  weightsBytes := 536870912
  kvCacheBytes := 134217728
  overheadBytes := 268435456
  deviceReserveBytes := 1073741824
  safetyMarginBytes := 93952409

/-- A resident result is never compared with system RAM, so its zero need can exceed it. -/
theorem misreportedDesktop_resident_exceeds_ram :
    ¬ ∀ (c : MemoryComponents) (hardware : HardwareProfile) (blocks layers : Option ℤ)
      (weightDecomposition : Option TransformerBlockWeightDecomposition)
      (result : HardwareFitResult) (ram : ℤ),
      c.Nonneg → analyzeComponents c hardware blocks layers weightDecomposition = .ok result →
      result.mode = .gpuResident → result.ramRequiredBytes = some ram →
      ram ≤ hardware.memory.availableBytes := by
  intro within
  have nonneg : halfBillion.Nonneg :=
    ⟨by decide, by decide, by decide, by decide, by decide⟩
  have le := within halfBillion misreportedDesktop (some 24) none none
    (residentResult halfBillion 8053063680 (-1) (some 24) .discreteMemory) 0 nonneg rfl rfl rfl
  exact absurd le (by decide)

end Jaull.Estimator
