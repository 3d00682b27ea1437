import Jaull.Estimator.HardwareFit

/-!
# The block search is sound and complete

`Fits` says, without any search, that putting `n` transformer blocks on the GPU works. The ceiling
the search counts down from dominates every such `n`, so the search returns the greatest one, and
`analyzeComponents` classifies a discrete-memory machine exactly.
-/

namespace Jaull.Estimator
open Jaull.Domain Jaull.Lib

/-- Putting `gpuBlocks` blocks on the GPU works: the placement exists, its GPU need fits VRAM and its
RAM need fits RAM, at the host-heavy endpoint too when the non-block split is unknown. -/
def OffloadRequest.Fits (request : OffloadRequest) (totalBlocks gpuBlocks : ℤ) : Prop :=
  0 < gpuBlocks ∧
  match request.decomposition with
  | none =>
    ∃ placement, calculateOffloadPlacement request.components (some totalBlocks) (some gpuBlocks)
        (min request.components.weightsBytes
          (gpuBlocks * request.bytesPerTransformerBlock totalBlocks)) = some placement ∧
      placement.gpuRequiredBytes ≤ request.availableVram ∧
      placement.ramRequiredBytes ≤ request.availableRam
  | some d =>
    gpuBlocks < totalBlocks ∧ ∃ placement hostEndpoint,
      calculateOffloadPlacement request.components (some totalBlocks) (some gpuBlocks)
        (gpuBlockBytes d totalBlocks gpuBlocks + d.estimatedNonBlockWeightBytes) =
          some placement ∧
      calculateOffloadPlacement request.components (some totalBlocks) (some gpuBlocks)
        (gpuBlockBytes d totalBlocks gpuBlocks) = some hostEndpoint ∧
      placement.gpuRequiredBytes ≤ request.availableVram ∧
      placement.ramRequiredBytes ≤ request.availableRam ∧
      hostEndpoint.ramRequiredBytes ≤ request.availableRam

/-- The requests `analyze_components` makes of the block search. -/
structure OffloadRequest.Valid (request : OffloadRequest) (totalBlocks : ℤ) : Prop where
  nonneg : request.components.Nonneg
  blocks_pos : 0 < totalBlocks
  blocks : request.totalTransformerBlocks = some totalBlocks
  decomposition : ∀ d, request.weightDecomposition = some d →
    d.totalWeightBytes = request.components.weightsBytes ∧ d.totalTransformerBlocks = totalBlocks

section
variable {request : OffloadRequest} {totalBlocks gpuBlocks : ℤ}
  {d : TransformerBlockWeightDecomposition} {placement : OffloadPlacement}

/-- The decomposition the search follows splits exactly the weights of the request. -/
lemma OffloadRequest.Valid.weights_eq (valid : request.Valid totalBlocks)
    (eq : request.decomposition = some d) :
    d.estimatedTransformerBlockWeightBytes + d.estimatedNonBlockWeightBytes =
      request.components.weightsBytes := by
  obtain ⟨given, _⟩ := Option.filter_eq_some_iff.mp eq
  obtain ⟨weights, _⟩ := valid.decomposition d given
  rw [d.conserved, weights]

/-- Block bytes on the GPU are the rounded share of the block bytes. -/
lemma gpuBlockBytes_eq (pos : 0 < totalBlocks) :
    gpuBlockBytes d totalBlocks gpuBlocks =
      ceilShare d.estimatedTransformerBlockWeightBytes gpuBlocks totalBlocks :=
  (ceilShare_eq_fdiv pos).symm

/-- A placement of some of the blocks needs at least its weights, the exact share of the KV cache
and the reserve. -/
lemma weights_kvCache_reserve_le {c : MemoryComponents} {gpuWeight : ℤ} (nonneg : c.Nonneg)
    (pos : 0 < gpuBlocks) (lt : gpuBlocks < totalBlocks)
    (eq : calculateOffloadPlacement c (some totalBlocks) (some gpuBlocks) gpuWeight =
      some placement) :
    gpuWeight * totalBlocks + c.kvCacheBytes * gpuBlocks ≤
      (placement.gpuRequiredBytes - c.deviceReserveBytes) * totalBlocks := by
  have spec := calculateOffloadPlacement_spec nonneg eq
  have kv : c.kvCacheBytes * gpuBlocks ≤ placement.gpuKvCacheBytes * totalBlocks := by
    rw [spec.kvCache, placementKvCache, if_pos (by simp [validTransformerBlockCount]; omega)]
    exact mul_le_splitKvCacheByTransformerBlocks nonneg.kvCache pos lt
  have overhead : 0 ≤ placement.gpuOverheadBytes := spec.conserve.gpuOverhead_nonneg
  have margin : 0 ≤ placement.gpuSafetyMarginBytes := spec.conserve.gpuSafetyMargin_nonneg
  have need : gpuWeight + placement.gpuKvCacheBytes ≤
      placement.gpuRequiredBytes - c.deviceReserveBytes := by
    have required := spec.gpuRequired
    have weight := spec.weight
    simp only [OffloadPlacement.shares, Shares.gpuTotal] at required
    omega
  calc gpuWeight * totalBlocks + c.kvCacheBytes * gpuBlocks
      ≤ gpuWeight * totalBlocks + placement.gpuKvCacheBytes * totalBlocks := by omega
    _ = (gpuWeight + placement.gpuKvCacheBytes) * totalBlocks := by ring
    _ ≤ (placement.gpuRequiredBytes - c.deviceReserveBytes) * totalBlocks :=
      mul_le_mul_of_nonneg_right need (by omega)

/-- In the uniform case a number of blocks that fits leaves a block on the host. -/
lemma OffloadRequest.Fits.lt_uniform (valid : request.Valid totalBlocks)
    (uniform : request.decomposition = none) (fits : request.Fits totalBlocks gpuBlocks) :
    gpuBlocks < totalBlocks ∧
      gpuBlocks * request.bytesPerTransformerBlock totalBlocks <
        request.components.weightsBytes := by
  obtain ⟨pos, fits⟩ := fits
  rw [uniform] at fits
  obtain ⟨placement, eq, _, _⟩ := fits
  obtain ⟨weight_pos, weight_lt⟩ := calculateOffloadPlacement_isSome.mp ⟨placement, eq⟩
  have lt : gpuBlocks * request.bytesPerTransformerBlock totalBlocks <
      request.components.weightsBytes := by omega
  refine ⟨?_, lt⟩
  by_contra notLt
  -- as many blocks as there are, or more, cover all the weights
  have covers : request.components.weightsBytes ≤
      request.bytesPerTransformerBlock totalBlocks * totalBlocks :=
    le_ceil_div_mul valid.blocks_pos
  have perBlock_pos : 0 < request.bytesPerTransformerBlock totalBlocks :=
    ceil_div_pos valid.blocks_pos (by omega)
  have more : totalBlocks * request.bytesPerTransformerBlock totalBlocks ≤
      gpuBlocks * request.bytesPerTransformerBlock totalBlocks :=
    mul_le_mul_of_nonneg_right (by omega) perBlock_pos.le
  have comm := mul_comm totalBlocks (request.bytesPerTransformerBlock totalBlocks)
  omega

/-- The starting point of the search is never an error, and leaves a block on the host when the
non-block split is unknown. -/
lemma OffloadRequest.searchCeiling_ok (valid : request.Valid totalBlocks) :
    ∃ start, request.searchCeiling totalBlocks = .ok start ∧
      ∀ ceiling, start = some ceiling → ∀ d, request.decomposition = some d →
        ceiling < totalBlocks := by
  have kv := valid.nonneg.kvCache
  have pos := valid.blocks_pos
  simp only [OffloadRequest.searchCeiling]
  split_ifs with noBytes noBudget noDenominator
  · exact ⟨none, rfl, fun _ eq => by cases eq⟩
  · exact ⟨none, rfl, fun _ eq => by cases eq⟩
  · have perBlocks : 0 < request.bytesPerTransformerBlock totalBlocks * totalBlocks :=
      mul_pos (by omega) pos
    omega
  · cases eq : request.decomposition with
    | none => exact ⟨_, rfl, fun _ _ _ h => by cases h⟩
    | some d =>
      simp only
      split_ifs with noRoom
      · exact ⟨none, rfl, fun _ h => by cases h⟩
      · refine ⟨_, rfl, ?_⟩
        rintro ceiling h _ _
        cases h
        have le := min_le_left (totalBlocks - 1)
          ((totalBlocks * (request.availableVram - request.components.deviceReserveBytes -
              d.estimatedNonBlockWeightBytes)).fdiv
            (d.estimatedTransformerBlockWeightBytes + request.components.kvCacheBytes))
        omega

/-- The starting point dominates every number of blocks that fits: the uniform bound. -/
lemma OffloadRequest.Fits.le_searchCeiling_uniform (valid : request.Valid totalBlocks)
    (uniform : request.decomposition = none) (fits : request.Fits totalBlocks gpuBlocks) :
    ∃ ceiling, request.searchCeiling totalBlocks = .ok (some ceiling) ∧ gpuBlocks ≤ ceiling := by
  obtain ⟨lt, weight_lt⟩ := fits.lt_uniform valid uniform
  obtain ⟨pos, fits⟩ := fits
  rw [uniform] at fits
  obtain ⟨placement, eq, vram, _⟩ := fits
  rw [min_eq_right weight_lt.le] at eq
  obtain ⟨weight_pos, _⟩ := calculateOffloadPlacement_isSome.mp ⟨placement, eq⟩
  have perBlock_pos : 0 < request.bytesPerTransformerBlock totalBlocks :=
    pos_of_mul_pos_right weight_pos pos.le
  have kv := valid.nonneg.kvCache
  have kvBlocks : 0 ≤ request.components.kvCacheBytes * gpuBlocks := mul_nonneg kv pos.le
  have perBlocks : 0 < request.bytesPerTransformerBlock totalBlocks * totalBlocks :=
    mul_pos perBlock_pos valid.blocks_pos
  have need : gpuBlocks * (request.bytesPerTransformerBlock totalBlocks * totalBlocks +
      request.components.kvCacheBytes) ≤
      (request.availableVram - request.components.deviceReserveBytes) * totalBlocks := by
    have least := weights_kvCache_reserve_le valid.nonneg pos lt eq
    have room : (placement.gpuRequiredBytes - request.components.deviceReserveBytes) * totalBlocks ≤
        (request.availableVram - request.components.deviceReserveBytes) * totalBlocks :=
      mul_le_mul_of_nonneg_right (by omega) (by omega)
    calc gpuBlocks * (request.bytesPerTransformerBlock totalBlocks * totalBlocks +
          request.components.kvCacheBytes)
        = gpuBlocks * request.bytesPerTransformerBlock totalBlocks * totalBlocks +
          request.components.kvCacheBytes * gpuBlocks := by ring
      _ ≤ _ := least.trans room
  have budget_pos : 0 < request.availableVram - request.components.deviceReserveBytes := by
    have prod_pos : 0 < gpuBlocks * (request.bytesPerTransformerBlock totalBlocks * totalBlocks +
        request.components.kvCacheBytes) := mul_pos pos (by omega)
    exact pos_of_mul_pos_left (prod_pos.trans_le need) valid.blocks_pos.le
  refine ⟨min totalBlocks (((request.availableVram - request.components.deviceReserveBytes) *
    totalBlocks).fdiv (request.bytesPerTransformerBlock totalBlocks * totalBlocks +
      request.components.kvCacheBytes)), ?_, le_min lt.le ((le_fdiv_iff (by omega)).mpr need)⟩
  simp only [OffloadRequest.searchCeiling]
  rw [if_neg (by omega), if_neg (by omega), if_neg (by omega), uniform]

/-- The starting point dominates every number of blocks that fits: the decomposed bound. -/
lemma OffloadRequest.Fits.le_searchCeiling_decomposed (valid : request.Valid totalBlocks)
    (decomposed : request.decomposition = some d) (fits : request.Fits totalBlocks gpuBlocks) :
    ∃ ceiling, request.searchCeiling totalBlocks = .ok (some ceiling) ∧ gpuBlocks ≤ ceiling := by
  obtain ⟨pos, fits⟩ := fits
  rw [decomposed] at fits
  obtain ⟨lt, placement, hostEndpoint, eq, eqHost, vram, _, _⟩ := fits
  obtain ⟨block_pos, block_lt⟩ := calculateOffloadPlacement_isSome.mp ⟨hostEndpoint, eqHost⟩
  have kv := valid.nonneg.kvCache
  have nonBlock := d.nonBlock_nonneg
  -- the blocks take at least their exact share of the weights
  have share : d.estimatedTransformerBlockWeightBytes * gpuBlocks ≤
      gpuBlockBytes d totalBlocks gpuBlocks * totalBlocks := by
    rw [gpuBlockBytes_eq valid.blocks_pos]
    exact mul_le_ceilShare_mul valid.blocks_pos
  have bytes_pos : 0 < d.estimatedTransformerBlockWeightBytes := by
    by_contra empty
    obtain zero : d.estimatedTransformerBlockWeightBytes = 0 := by
      have nonneg := d.block_nonneg
      omega
    rw [gpuBlockBytes_eq valid.blocks_pos, zero, ceilShare_zero] at block_pos
    omega
  -- cleared of the division: the blocks and their cache stay within what the rest leaves
  have need : gpuBlocks * (d.estimatedTransformerBlockWeightBytes +
      request.components.kvCacheBytes) ≤
      totalBlocks * (request.availableVram - request.components.deviceReserveBytes -
        d.estimatedNonBlockWeightBytes) := by
    have least := weights_kvCache_reserve_le valid.nonneg pos lt eq
    have room : (placement.gpuRequiredBytes - request.components.deviceReserveBytes) * totalBlocks ≤
        (request.availableVram - request.components.deviceReserveBytes) * totalBlocks :=
      mul_le_mul_of_nonneg_right (by omega) (by omega)
    have expand : totalBlocks * (request.availableVram - request.components.deviceReserveBytes -
        d.estimatedNonBlockWeightBytes) =
        (request.availableVram - request.components.deviceReserveBytes) * totalBlocks -
          d.estimatedNonBlockWeightBytes * totalBlocks := by ring
    have split : (gpuBlockBytes d totalBlocks gpuBlocks + d.estimatedNonBlockWeightBytes) *
        totalBlocks = gpuBlockBytes d totalBlocks gpuBlocks * totalBlocks +
          d.estimatedNonBlockWeightBytes * totalBlocks := by ring
    have left : gpuBlocks * (d.estimatedTransformerBlockWeightBytes +
        request.components.kvCacheBytes) = d.estimatedTransformerBlockWeightBytes * gpuBlocks +
          request.components.kvCacheBytes * gpuBlocks := by ring
    omega
  have room : 0 < request.availableVram - request.components.deviceReserveBytes -
      d.estimatedNonBlockWeightBytes := by
    have prod_pos : 0 < gpuBlocks * (d.estimatedTransformerBlockWeightBytes +
        request.components.kvCacheBytes) := mul_pos pos (by omega)
    exact pos_of_mul_pos_right (prod_pos.trans_le need) valid.blocks_pos.le
  have perBlock_pos : 0 < request.bytesPerTransformerBlock totalBlocks :=
    ceil_div_pos valid.blocks_pos (by omega)
  have perBlocks : 0 < request.bytesPerTransformerBlock totalBlocks * totalBlocks :=
    mul_pos perBlock_pos valid.blocks_pos
  refine ⟨min (totalBlocks - 1) ((totalBlocks * (request.availableVram -
    request.components.deviceReserveBytes - d.estimatedNonBlockWeightBytes)).fdiv
      (d.estimatedTransformerBlockWeightBytes + request.components.kvCacheBytes)), ?_,
    le_min (by omega) ((le_fdiv_iff (by omega)).mpr need)⟩
  simp only [OffloadRequest.searchCeiling]
  rw [if_neg (by omega), if_neg (by omega), if_neg (by omega), decomposed]
  simp only
  rw [if_neg (by omega)]

/-- The search ceilings never cut off a number of blocks that fits. -/
lemma OffloadRequest.Fits.le_searchCeiling (valid : request.Valid totalBlocks)
    (fits : request.Fits totalBlocks gpuBlocks) :
    ∃ ceiling, request.searchCeiling totalBlocks = .ok (some ceiling) ∧ gpuBlocks ≤ ceiling := by
  cases eq : request.decomposition with
  | none => exact fits.le_searchCeiling_uniform valid eq
  | some d => exact fits.le_searchCeiling_decomposed valid eq

/-- The endpoint of some of the blocks passes its validator. -/
lemma OffloadRequest.nonBlockPlacementBounds_ok {hostEndpoint : OffloadPlacement}
    (valid : request.Valid totalBlocks) (lt : gpuBlocks < totalBlocks)
    (eqHost : calculateOffloadPlacement request.components (some totalBlocks) (some gpuBlocks)
      (gpuBlockBytes d totalBlocks gpuBlocks) = some hostEndpoint) :
    ∃ bounds, nonBlockPlacementBounds (gpuBlockBytes d totalBlocks gpuBlocks)
        (d.estimatedTransformerBlockWeightBytes - gpuBlockBytes d totalBlocks gpuBlocks)
        d.estimatedNonBlockWeightBytes hostEndpoint = .ok bounds ∧
      bounds.gpuTransformerBlockWeightBytes = gpuBlockBytes d totalBlocks gpuBlocks ∧
      bounds.ramTransformerBlockWeightBytes =
        d.estimatedTransformerBlockWeightBytes - gpuBlockBytes d totalBlocks gpuBlocks ∧
      bounds.nonBlockWeightBytes = d.estimatedNonBlockWeightBytes ∧
      bounds.gpuRequiredMinBytes = hostEndpoint.gpuRequiredBytes ∧
      bounds.ramRequiredMaxBytes = hostEndpoint.ramRequiredBytes := by
  obtain ⟨weight_pos, _⟩ := calculateOffloadPlacement_isSome.mp ⟨hostEndpoint, eqHost⟩
  have spec := calculateOffloadPlacement_spec valid.nonneg eqHost
  have upper : gpuBlockBytes d totalBlocks gpuBlocks ≤ d.estimatedTransformerBlockWeightBytes := by
    rw [gpuBlockBytes_eq valid.blocks_pos]
    exact ceilShare_le_total valid.blocks_pos d.block_nonneg lt.le
  have gpu : 0 ≤ hostEndpoint.gpuRequiredBytes := by
    have gpuTotal : 0 ≤ hostEndpoint.shares.gpuTotal := by
      have w := spec.conserve.gpuWeight_nonneg
      have k := spec.conserve.gpuKvCache_nonneg
      have o := spec.conserve.gpuOverhead_nonneg
      have m := spec.conserve.gpuSafetyMargin_nonneg
      rw [Shares.gpuTotal]
      omega
    have reserve := valid.nonneg.deviceReserve
    rw [spec.gpuRequired]
    omega
  have ram : 0 ≤ hostEndpoint.ramRequiredBytes := by
    have w := spec.conserve.ramWeight_nonneg
    have k := spec.conserve.ramKvCache_nonneg
    have o := spec.conserve.ramOverhead_nonneg
    have m := spec.conserve.ramSafetyMargin_nonneg
    rw [spec.ramRequired, Shares.ramTotal]
    omega
  rw [nonBlockPlacementBounds, dif_pos ⟨weight_pos.le, by omega, d.nonBlock_nonneg, gpu, ram,
    spec.conserve.ramOverhead_nonneg, spec.conserve.ramSafetyMargin_nonneg⟩]
  exact ⟨_, rfl, rfl, rfl, rfl, rfl, rfl⟩

/-- What the loop body computes for some of the blocks: never an error, and an acceptable placement
exactly when the blocks fit. -/
lemma OffloadRequest.blockPlacement_ok (valid : request.Valid totalBlocks) (pos : 0 < gpuBlocks)
    (lt : ∀ d, request.decomposition = some d → gpuBlocks < totalBlocks) :
    ∃ found, request.blockPlacement totalBlocks gpuBlocks = .ok found ∧
      (∀ placement, found = some placement →
        placement.gpuTransformerBlocks = some gpuBlocks) ∧
      (request.Fits totalBlocks gpuBlocks ↔ ∃ placement, found = some placement ∧
        placement.gpuRequiredBytes ≤ request.availableVram ∧
        placement.ramBudget ≤ request.availableRam) := by
  cases eq : request.decomposition with
  | none =>
    simp only [OffloadRequest.Fits, OffloadRequest.blockPlacement, OffloadRequest.gpuWeightBytes,
      eq]
    cases place : calculateOffloadPlacement request.components (some totalBlocks) (some gpuBlocks)
        (min request.components.weightsBytes
          (gpuBlocks * request.bytesPerTransformerBlock totalBlocks)) with
    | none => exact ⟨none, rfl, by simp, by simp⟩
    | some placement =>
      have spec := calculateOffloadPlacement_spec valid.nonneg place
      refine ⟨some placement, rfl, ?_, ?_⟩
      · rintro _ ⟨⟩
        exact spec.gpuBlocks
      · simp [pos, OffloadPlacement.ramBudget, spec.bounds]
  | some d =>
    simp only [OffloadRequest.Fits, OffloadRequest.blockPlacement, OffloadRequest.gpuWeightBytes,
      eq]
    cases place : calculateOffloadPlacement request.components (some totalBlocks) (some gpuBlocks)
        (gpuBlockBytes d totalBlocks gpuBlocks + d.estimatedNonBlockWeightBytes) with
    | none => exact ⟨none, rfl, by simp, by simp⟩
    | some placement =>
      have spec := calculateOffloadPlacement_spec valid.nonneg place
      cases host : calculateOffloadPlacement request.components (some totalBlocks)
          (some gpuBlocks) (gpuBlockBytes d totalBlocks gpuBlocks) with
      | none => exact ⟨none, rfl, by simp, by simp⟩
      | some hostEndpoint =>
        obtain ⟨bounds, eqBounds, _, _, _, _, ramMax⟩ :=
          request.nonBlockPlacementBounds_ok valid (lt d eq) host
        have nonBlock := d.nonBlock_nonneg
        -- the host's worst case is that of the blocks without the other weights
        obtain ⟨_, ramLe⟩ := placement_mono valid.nonneg (by omega) host place
        refine ⟨some { placement with nonBlockPlacementBounds := some bounds },
          by simp only [eqBounds], ?_, ?_⟩
        · rintro _ ⟨⟩
          exact spec.gpuBlocks
        · constructor
          · rintro ⟨_, _, _, _, ⟨⟩, ⟨⟩, vram, _, ram⟩
            exact ⟨_, rfl, vram, ramMax.trans_le ram⟩
          · rintro ⟨_, ⟨⟩, vram, ram⟩
            have ramHost : hostEndpoint.ramRequiredBytes ≤ request.availableRam :=
              ramMax.symm.trans_le ram
            exact ⟨pos, lt d eq, placement, hostEndpoint, rfl, rfl, vram, ramLe.trans ramHost,
              ramHost⟩

/-- One pass of the search returns exactly on a number of blocks that fits. -/
lemma OffloadRequest.blockPass_decides {n : ℕ} (ceiling : ℤ)
    (lastRejected : Option HardwareFitOffloadCandidate) (valid : request.Valid totalBlocks)
    (pos : 0 < n) (lt : ∀ d, request.decomposition = some d → (n : ℤ) < totalBlocks) :
    (request.Fits totalBlocks n ∧ ∃ result,
      request.blockPass totalBlocks ceiling n lastRejected = .ok (.done result) ∧
        result.mode = .gpuOffload ∧ result.gpuTransformerBlocks = some (n : ℤ)) ∨
      (¬ request.Fits totalBlocks n ∧ ∃ state,
        request.blockPass totalBlocks ceiling n lastRejected = .ok (.next state)) := by
  obtain ⟨found, eq, counts, fits⟩ := request.blockPlacement_ok valid (by omega) lt
  rw [fits]
  cases found with
  | none =>
    refine .inr ⟨by simp, lastRejected, ?_⟩
    simp only [OffloadRequest.blockPass, eq]
  | some placement =>
    have blocks := counts placement rfl
    by_cases accepts : placement.gpuRequiredBytes ≤ request.availableVram ∧
        placement.ramBudget ≤ request.availableRam
    · refine .inl ⟨⟨placement, rfl, accepts⟩, ?_⟩
      simp only [OffloadRequest.blockPass, eq, offloadCandidate, blocks, Option.map_some,
        if_pos accepts]
      exact ⟨_, rfl, rfl, blocks⟩
    · refine .inr ⟨?_, ?_⟩
      · rintro ⟨_, ⟨⟩, accepted⟩
        exact accepts accepted
      · simp only [OffloadRequest.blockPass, eq, offloadCandidate, blocks, Option.map_some,
          if_neg accepts]
        exact ⟨_, rfl⟩

/-- The block search returns the greatest number of blocks that fits, and nothing when none does. -/
theorem OffloadRequest.tryBlockOffload_greatest (valid : request.Valid totalBlocks) :
    (∃ result n, request.tryBlockOffload totalBlocks = .ok (some result) ∧
      result.mode = .gpuOffload ∧ result.gpuTransformerBlocks = some n ∧
      IsGreatest {n | request.Fits totalBlocks n} n) ∨
      (request.tryBlockOffload totalBlocks = .ok none ∧ ∀ n, ¬ request.Fits totalBlocks n) := by
  obtain ⟨start, eqStart, below⟩ := OffloadRequest.searchCeiling_ok valid
  cases start with
  | none =>
    refine .inr ⟨by simp only [OffloadRequest.tryBlockOffload, eqStart], ?_⟩
    intro n fits
    obtain ⟨ceiling, eq, _⟩ := fits.le_searchCeiling valid
    rw [eqStart] at eq
    cases eq
  | some ceiling =>
    have run : request.tryBlockOffload totalBlocks =
        forDown (request.blockPass totalBlocks ceiling) ceiling.toNat none := by
      simp only [OffloadRequest.tryBlockOffload, eqStart]
    -- nothing that fits lies above the ceiling where the search begins
    have dominated : ∀ n, request.Fits totalBlocks n → n ≤ ceiling := by
      intro n fits
      obtain ⟨ceiling', eq, le⟩ := fits.le_searchCeiling valid
      rw [eqStart] at eq
      cases eq
      exact le
    -- downwards the first that fits is the greatest
    have decides := @forDown_greatest _ _ _ (request.blockPass totalBlocks ceiling)
      (fun n => request.Fits totalBlocks n)
      (fun n result => result.mode = .gpuOffload ∧ result.gpuTransformerBlocks = some (n : ℤ))
      ceiling.toNat
      (fun n state pos le => request.blockPass_decides ceiling state valid pos fun d eq => by
        have lt := below ceiling rfl d eq
        omega)
      none
    rw [run]
    rcases decides with ⟨n, result, eq, ⟨mode, blocks⟩, ⟨pos, le, fits⟩, ub⟩ | ⟨eq, none⟩
    · refine .inl ⟨result, n, eq, mode, blocks, fits, ?_⟩
      intro m fitsM
      have mPos := fitsM.1
      have mLe := dominated m fitsM
      obtain ⟨k, rfl⟩ := Int.eq_ofNat_of_zero_le mPos.le
      have kLe := ub ⟨by omega, by omega, fitsM⟩
      exact_mod_cast kLe
    · refine .inr ⟨eq, ?_⟩
      intro m fitsM
      have mPos := fitsM.1
      have mLe := dominated m fitsM
      obtain ⟨k, rfl⟩ := Int.eq_ofNat_of_zero_le mPos.le
      exact none k (by omega) (by omega) fitsM

end

/-- Everything fits the VRAM budget of the machine. -/
def FitsVram (c : MemoryComponents) (hardware : HardwareProfile) : Prop :=
  ∃ vram, availableAcceleratorMemoryBytes hardware = some vram ∧ c.total ≤ vram

/-- Putting `gpuBlocks` of `totalBlocks` blocks on the GPU of the machine works. -/
def FitsBlocks (c : MemoryComponents) (hardware : HardwareProfile)
    (weightDecomposition : Option TransformerBlockWeightDecomposition)
    (totalBlocks gpuBlocks : ℤ) : Prop :=
  ∃ vram, availableAcceleratorMemoryBytes hardware = some vram ∧
    OffloadRequest.Fits
      { components := c
        availableVram := vram
        availableRam := hardware.memory.availableBytes
        totalTransformerBlocks := some totalBlocks
        topology := .discreteMemory
        weightDecomposition := weightDecomposition } totalBlocks gpuBlocks

section
variable {c : MemoryComponents} {hardware : HardwareProfile}
  {totalTransformerBlocks totalLayers : Option ℤ} {totalBlocks : ℤ}
  {weightDecomposition : Option TransformerBlockWeightDecomposition}

/-- A resolved block count is the decomposition's own, and the decomposition is of these weights. -/
lemma resolveTransformerBlocks_some {d : TransformerBlockWeightDecomposition} {blocks : Option ℤ}
    (resolved : resolveTransformerBlocks c totalTransformerBlocks totalLayers (some d) =
      .ok blocks) :
    d.totalWeightBytes = c.weightsBytes ∧ blocks = some d.totalTransformerBlocks := by
  simp only [resolveTransformerBlocks] at resolved
  split_ifs at resolved with differ weights
  cases given : totalTransformerBlocks.or totalLayers with
  | none =>
    rw [given] at resolved
    cases resolved
    exact ⟨by simpa using weights, rfl⟩
  | some given' =>
    rw [given] at resolved
    simp only at resolved
    split_ifs at resolved with mismatch
    cases resolved
    have eq : given' = d.totalTransformerBlocks := by simpa using mismatch
    exact ⟨by simpa using weights, by rw [eq]⟩

/-- On discrete-memory hardware the analysis is exact: resident when everything fits VRAM, else
offloaded when some number of blocks fits, and then with the greatest such number, else on the host
when system RAM suffices, else nowhere. -/
theorem analyzeComponents_exact (nonneg : c.Nonneg)
    (discrete : memoryTopology hardware = .discreteMemory)
    (resolved : resolveTransformerBlocks c totalTransformerBlocks totalLayers weightDecomposition =
      .ok (some totalBlocks))
    (pos : 0 < totalBlocks) :
    ∃ result, analyzeComponents c hardware totalTransformerBlocks totalLayers weightDecomposition =
        .ok result ∧
      (result.mode = .gpuResident ↔ FitsVram c hardware) ∧
      (result.mode = .gpuOffload ↔ ¬ FitsVram c hardware ∧
        ∃ n, FitsBlocks c hardware weightDecomposition totalBlocks n) ∧
      (result.mode = .gpuOffload → ∃ n, result.gpuTransformerBlocks = some n ∧
        IsGreatest {n | FitsBlocks c hardware weightDecomposition totalBlocks n} n) ∧
      (result.mode = .cpuRam ↔ ¬ FitsVram c hardware ∧
        (¬ ∃ n, FitsBlocks c hardware weightDecomposition totalBlocks n) ∧
        c.cpuRequired ≤ hardware.memory.availableBytes) ∧
      (result.mode = .tooLarge ↔ ¬ FitsVram c hardware ∧
        (¬ ∃ n, FitsBlocks c hardware weightDecomposition totalBlocks n) ∧
        ¬ c.cpuRequired ≤ hardware.memory.availableBytes) := by
  -- a result on the host is `CPU_RAM` or `TOO_LARGE` by the RAM comparison alone
  have host : ∀ vram, (hostResult c vram hardware.memory.availableBytes (some totalBlocks)
      .discreteMemory weightDecomposition).mode =
        if c.cpuRequired ≤ hardware.memory.availableBytes then .cpuRam else .tooLarge :=
    fun _ => rfl
  simp only [analyzeComponents, resolved, discrete, analyzeDiscreteMemory]
  cases budget : availableAcceleratorMemoryBytes hardware with
  | none =>
    have noVram : ¬ FitsVram c hardware := by
      rintro ⟨vram, eq, _⟩
      rw [budget] at eq
      cases eq
    have noBlocks : ¬ ∃ n, FitsBlocks c hardware weightDecomposition totalBlocks n := by
      rintro ⟨n, vram, eq, _⟩
      rw [budget] at eq
      cases eq
    refine ⟨_, rfl, ?_⟩
    rw [host]
    split_ifs with fitsRam <;> simp [noVram, noBlocks, fitsRam]
  | some vram =>
    have fitsVram : FitsVram c hardware ↔ c.total ≤ vram := by simp [FitsVram, budget]
    simp only
    split_ifs with resident
    · exact ⟨_, rfl, by simp [residentResult, fitsVram, resident]⟩
    · set request : OffloadRequest :=
        { components := c
          availableVram := vram
          availableRam := hardware.memory.availableBytes
          totalTransformerBlocks := some totalBlocks
          topology := .discreteMemory
          weightDecomposition := weightDecomposition } with requestDef
      have valid : request.Valid totalBlocks :=
        { nonneg := nonneg
          blocks_pos := pos
          blocks := rfl
          decomposition := by
            rintro d eq
            obtain rfl : weightDecomposition = some d := eq
            obtain ⟨weights, total⟩ := resolveTransformerBlocks_some resolved
            exact ⟨weights, (Option.some.inj total).symm⟩ }
      have fitsBlocks : ∀ n, FitsBlocks c hardware weightDecomposition totalBlocks n ↔
          request.Fits totalBlocks n := by
        intro n
        simp [FitsBlocks, budget, requestDef]
      have run : request.tryGpuOffload = request.tryBlockOffload totalBlocks := by
        simp [OffloadRequest.tryGpuOffload, requestDef, validTransformerBlockCount, pos]
      simp only [run, fitsVram, fitsBlocks, resident]
      rcases OffloadRequest.tryBlockOffload_greatest valid with
        ⟨result, n, eq, mode, blocks, greatest⟩ | ⟨eq, none⟩
      · rw [eq]
        have someFits : ∃ n, request.Fits totalBlocks n := ⟨n, greatest.1⟩
        exact ⟨result, rfl, by simp [mode, someFits, blocks, greatest]⟩
      · rw [eq]
        refine ⟨_, rfl, ?_⟩
        rw [host]
        split_ifs with fitsRam <;> simp [none, fitsRam]

end

/-- A desktop with one 8 GiB card. -/
def desktop : HardwareProfile where
  os := "Linux"
  arch := "x86_64"
  cpu := {}
  memory := { totalBytes := 34359738368, availableBytes := 25769803776 }
  accelerators := [
    { name := "NVIDIA GeForce RTX 4060"
      vendor := .nvidia
      type := .dedicated
      dedicatedMemoryBytes := some 8589934592
      availableMemoryBytes := some 8053063680 }]

/-- A 14B model at four bits with an 8192-token cache. -/
def fourteenBillion : MemoryComponents where
  weightsBytes := 8988110272
  kvCacheBytes := 1610612736
  overheadBytes := 536870912
  deviceReserveBytes := 1073741824
  safetyMarginBytes := 1220933591

/-- Its split into block and non-block weights. -/
def fourteenBillionSplit : TransformerBlockWeightDecomposition where
  totalWeightBytes := 8988110272
  estimatedTransformerBlockWeightBytes := 8012390400
  estimatedNonBlockWeightBytes := 975719872
  estimatedEmbeddingWeightBytes := some 487859936
  estimatedOutputHeadWeightBytes := some 487859936
  estimatedBytesPerTransformerBlock := 166924800
  totalTransformerBlocks := 48
  method := .configParameterDecomposition
  total_nonneg := by decide
  block_nonneg := by decide
  nonBlock_nonneg := by decide
  perBlock_nonneg := by decide
  blocks_pos := by decide
  conserved := by decide
  parts_valid := by simp [NonBlockPartsValid]

/-- The sample's sizes are not negative. -/
lemma fourteenBillion_nonneg : fourteenBillion.Nonneg where
  weights := by decide
  kvCache := by decide
  overhead := by decide
  deviceReserve := by decide
  safetyMargin := by decide

/-- `analyzeComponents_exact` on the desktop: the model is offloaded, with the greatest block count
that fits. -/
theorem analyzeComponents_exact_desktop :
    ∃ result n, analyzeComponents fourteenBillion desktop (some 48) none
        (some fourteenBillionSplit) = .ok result ∧
      result.gpuTransformerBlocks = some n ∧
      IsGreatest {n | FitsBlocks fourteenBillion desktop (some fourteenBillionSplit) 48 n} n := by
  obtain ⟨result, eq, _, _, greatest, _⟩ :=
    @analyzeComponents_exact fourteenBillion desktop (some 48) none 48 (some fourteenBillionSplit)
      fourteenBillion_nonneg rfl rfl (by decide)
  have offloaded : (analyzeComponents fourteenBillion desktop (some 48) none
      (some fourteenBillionSplit)).toOption.map (·.mode) = some .gpuOffload := by decide +kernel
  rw [eq] at offloaded
  obtain ⟨n, blocks, isGreatest⟩ := greatest (Option.some.inj offloaded)
  exact ⟨result, n, eq, blocks, isGreatest⟩

end Jaull.Estimator
