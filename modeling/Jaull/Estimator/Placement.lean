import Jaull.Domain.Estimation
import Jaull.Lib.CeilShare

/-!
# Offload placements

Port of the placement arithmetic of `jaull/estimator/hardware_fit.py`: how the KV cache, the runtime
overhead and the safety margin are split between the GPU and the host once a number of weight bytes
is put on the GPU. True division is the exact rational one and `math.ceil` is the rational ceiling.
Python `_split_kv_cache_by_transformer_blocks`, `_split_heuristic_bytes` and
`_calculate_offload_placement` keep their names without the leading underscore.

`PlacementSpec` collects what a returned placement satisfies; `placement_mono` compares the
placements of two GPU shares of the weights.
-/

namespace Jaull.Estimator
open Jaull.Domain Jaull.Lib

/-- The separated memory components of an estimate (keyword arguments of `analyze_components`). -/
structure MemoryComponents where
  weightsBytes : ℤ
  kvCacheBytes : ℤ
  overheadBytes : ℤ
  deviceReserveBytes : ℤ := 0
  safetyMarginBytes : ℤ := 0
  deriving DecidableEq, Repr

/-- Every component is a byte count. -/
structure MemoryComponents.Nonneg (c : MemoryComponents) : Prop where
  weights : 0 ≤ c.weightsBytes
  kvCache : 0 ≤ c.kvCacheBytes
  overhead : 0 ≤ c.overheadBytes
  deviceReserve : 0 ≤ c.deviceReserveBytes
  safetyMargin : 0 ≤ c.safetyMarginBytes

/-- One split of the components between GPU and host (Python `_OffloadPlacement`). -/
structure OffloadPlacement where
  totalTransformerBlocks : Option ℤ
  gpuTransformerBlocks : Option ℤ
  gpuRequiredBytes : ℤ
  ramRequiredBytes : ℤ
  gpuWeightBytes : ℤ
  ramWeightBytes : ℤ
  gpuKvCacheBytes : ℤ
  ramKvCacheBytes : ℤ
  gpuOverheadBytes : ℤ
  ramOverheadBytes : ℤ
  gpuSafetyMarginBytes : ℤ
  ramSafetyMarginBytes : ℤ
  nonBlockPlacementBounds : Option NonBlockPlacementBounds := none
  deriving DecidableEq, Repr

/-- Whether a usable block count is known (Python `_valid_transformer_block_count`). -/
def validTransformerBlockCount : Option ℤ → Bool
  | none => false
  | some blocks => 0 < blocks

/-- The KV cache follows its blocks (Python `_split_kv_cache_by_transformer_blocks`). -/
def splitKvCacheByTransformerBlocks (kvCacheBytes gpuTransformerBlocks totalTransformerBlocks : ℤ) :
    ℤ × ℤ :=
  if kvCacheBytes ≤ 0 ∨ totalTransformerBlocks ≤ 0 then (0, max 0 kvCacheBytes)
  else if gpuTransformerBlocks ≤ 0 then (0, kvCacheBytes)
  else if totalTransformerBlocks ≤ gpuTransformerBlocks then (kvCacheBytes, 0)
  else
    let gpuBytes := ceilShare kvCacheBytes gpuTransformerBlocks totalTransformerBlocks
    (gpuBytes, kvCacheBytes - gpuBytes)

/-- A heuristic follows the bytes it pads (Python `_split_heuristic_bytes`). -/
def splitHeuristicBytes (totalBytes gpuBasisBytes ramBasisBytes : ℤ) : ℤ × ℤ :=
  if totalBytes ≤ 0 then (0, 0)
  else if gpuBasisBytes ≤ 0 then (0, totalBytes)
  else if ramBasisBytes ≤ 0 then (totalBytes, 0)
  else
    let basisTotal := gpuBasisBytes + ramBasisBytes
    let gpuBytes := ceilShare totalBytes gpuBasisBytes basisTotal
    (gpuBytes, totalBytes - gpuBytes)

/-- The KV shares of a placement: split by blocks when both counts are known, else all on the GPU. -/
def placementKvCache (kvCacheBytes : ℤ) (totalTransformerBlocks gpuTransformerBlocks : Option ℤ) :
    ℤ × ℤ :=
  match gpuTransformerBlocks, totalTransformerBlocks with
  | some gpuBlocks, some totalBlocks =>
    if validTransformerBlockCount (some totalBlocks) then
      splitKvCacheByTransformerBlocks kvCacheBytes gpuBlocks totalBlocks
    else (kvCacheBytes, 0)
  | _, _ => (kvCacheBytes, 0)

/-- Both pools' needs for one GPU share of the weights (Python `_calculate_offload_placement`). -/
def calculateOffloadPlacement (c : MemoryComponents)
    (totalTransformerBlocks gpuTransformerBlocks : Option ℤ) (gpuWeightBytes : ℤ) :
    Option OffloadPlacement :=
  if gpuWeightBytes ≤ 0 ∨ c.weightsBytes ≤ gpuWeightBytes then none
  else
    let ramWeightBytes := c.weightsBytes - gpuWeightBytes
    let kv := placementKvCache c.kvCacheBytes totalTransformerBlocks gpuTransformerBlocks
    let gpuPhysicalBytes := gpuWeightBytes + kv.1 + c.deviceReserveBytes
    let ramPhysicalBytes := ramWeightBytes + kv.2
    let overhead := splitHeuristicBytes c.overheadBytes (gpuWeightBytes + kv.1)
      (ramWeightBytes + kv.2)
    let margin := splitHeuristicBytes c.safetyMarginBytes (gpuPhysicalBytes + overhead.1)
      (ramPhysicalBytes + overhead.2)
    some {
      totalTransformerBlocks := totalTransformerBlocks
      gpuTransformerBlocks := gpuTransformerBlocks
      gpuRequiredBytes := gpuPhysicalBytes + overhead.1 + margin.1
      ramRequiredBytes := ramPhysicalBytes + overhead.2 + margin.2
      gpuWeightBytes := gpuWeightBytes
      ramWeightBytes := ramWeightBytes
      gpuKvCacheBytes := kv.1
      ramKvCacheBytes := kv.2
      gpuOverheadBytes := overhead.1
      ramOverheadBytes := overhead.2
      gpuSafetyMarginBytes := margin.1
      ramSafetyMarginBytes := margin.2 }

/-- The two pools' shares of the components that are split. -/
structure Shares where
  gpuWeight : ℤ
  ramWeight : ℤ
  gpuKvCache : ℤ
  ramKvCache : ℤ
  gpuOverhead : ℤ
  ramOverhead : ℤ
  gpuSafetyMargin : ℤ
  ramSafetyMargin : ℤ

namespace Shares

/-- What the GPU holds, before the device reserve. -/
def gpuTotal (s : Shares) : ℤ := s.gpuWeight + s.gpuKvCache + s.gpuOverhead + s.gpuSafetyMargin

/-- What the host holds. -/
def ramTotal (s : Shares) : ℤ := s.ramWeight + s.ramKvCache + s.ramOverhead + s.ramSafetyMargin

/-- Every share is a byte count and the two shares of a component sum to it. -/
structure Conserve (s : Shares) (c : MemoryComponents) : Prop where
  gpuWeight_nonneg : 0 ≤ s.gpuWeight
  ramWeight_nonneg : 0 ≤ s.ramWeight
  weights : s.gpuWeight + s.ramWeight = c.weightsBytes
  gpuKvCache_nonneg : 0 ≤ s.gpuKvCache
  ramKvCache_nonneg : 0 ≤ s.ramKvCache
  kvCache : s.gpuKvCache + s.ramKvCache = c.kvCacheBytes
  gpuOverhead_nonneg : 0 ≤ s.gpuOverhead
  ramOverhead_nonneg : 0 ≤ s.ramOverhead
  overhead : s.gpuOverhead + s.ramOverhead = c.overheadBytes
  gpuSafetyMargin_nonneg : 0 ≤ s.gpuSafetyMargin
  ramSafetyMargin_nonneg : 0 ≤ s.ramSafetyMargin
  safetyMargin : s.gpuSafetyMargin + s.ramSafetyMargin = c.safetyMarginBytes

/-- The two totals add up to the components. -/
lemma Conserve.gpuTotal_add_ramTotal {s : Shares} {c : MemoryComponents} (conserve : s.Conserve c) :
    s.gpuTotal + s.ramTotal =
      c.weightsBytes + c.kvCacheBytes + c.overheadBytes + c.safetyMarginBytes := by
  rw [← conserve.weights, ← conserve.kvCache, ← conserve.overhead, ← conserve.safetyMargin]
  simp only [gpuTotal, ramTotal]
  ring

end Shares

/-- The shares of a placement. -/
def OffloadPlacement.shares (p : OffloadPlacement) : Shares where
  gpuWeight := p.gpuWeightBytes
  ramWeight := p.ramWeightBytes
  gpuKvCache := p.gpuKvCacheBytes
  ramKvCache := p.ramKvCacheBytes
  gpuOverhead := p.gpuOverheadBytes
  ramOverhead := p.ramOverheadBytes
  gpuSafetyMargin := p.gpuSafetyMarginBytes
  ramSafetyMargin := p.ramSafetyMarginBytes

section Splits
variable {kvCacheBytes totalBytes gpuBasisBytes ramBasisBytes gpuBlocks totalBlocks : ℤ}

/-- The KV split loses no byte. -/
lemma splitKvCacheByTransformerBlocks_conserve (nonneg : 0 ≤ kvCacheBytes) :
    let kv := splitKvCacheByTransformerBlocks kvCacheBytes gpuBlocks totalBlocks
    0 ≤ kv.1 ∧ 0 ≤ kv.2 ∧ kv.1 + kv.2 = kvCacheBytes := by
  simp only [splitKvCacheByTransformerBlocks]
  split_ifs with degenerate noBlocks allBlocks
  · exact ⟨le_rfl, by omega, by omega⟩
  · exact ⟨le_rfl, by omega, by omega⟩
  · exact ⟨by omega, le_rfl, by omega⟩
  · have pos : 0 < totalBlocks := by omega
    have lower := ceilShare_nonneg pos nonneg (by omega : 0 ≤ gpuBlocks)
    have upper := ceilShare_le_total pos nonneg (by omega : gpuBlocks ≤ totalBlocks)
    exact ⟨lower, by omega, by omega⟩

/-- Some of the blocks carry at least their exact share of the KV cache. -/
lemma mul_le_splitKvCacheByTransformerBlocks (nonneg : 0 ≤ kvCacheBytes) (pos : 0 < gpuBlocks)
    (lt : gpuBlocks < totalBlocks) :
    kvCacheBytes * gpuBlocks ≤
      (splitKvCacheByTransformerBlocks kvCacheBytes gpuBlocks totalBlocks).1 * totalBlocks := by
  simp only [splitKvCacheByTransformerBlocks]
  split_ifs with degenerate noBlocks allBlocks
  · obtain rfl : kvCacheBytes = 0 := by omega
    simp
  · omega
  · omega
  · exact mul_le_ceilShare_mul (by omega)

/-- The KV shares of any placement lose no byte. -/
lemma placementKvCache_conserve {total gpu : Option ℤ} (nonneg : 0 ≤ kvCacheBytes) :
    let kv := placementKvCache kvCacheBytes total gpu
    0 ≤ kv.1 ∧ 0 ≤ kv.2 ∧ kv.1 + kv.2 = kvCacheBytes := by
  cases gpu with
  | none => exact ⟨nonneg, le_rfl, by simp [placementKvCache]⟩
  | some gpu =>
    cases total with
    | none => exact ⟨nonneg, le_rfl, by simp [placementKvCache]⟩
    | some total =>
      simp only [placementKvCache]
      split_ifs
      · exact splitKvCacheByTransformerBlocks_conserve nonneg
      · exact ⟨nonneg, le_rfl, by omega⟩

/-- Between two pools that both hold something, the GPU share is the rounded one. -/
lemma splitHeuristicBytes_eq (nonneg : 0 ≤ totalBytes) (gpu_pos : 0 < gpuBasisBytes)
    (ram_pos : 0 < ramBasisBytes) :
    splitHeuristicBytes totalBytes gpuBasisBytes ramBasisBytes =
      (ceilShare totalBytes gpuBasisBytes (gpuBasisBytes + ramBasisBytes),
        totalBytes - ceilShare totalBytes gpuBasisBytes (gpuBasisBytes + ramBasisBytes)) := by
  simp only [splitHeuristicBytes]
  split_ifs with empty
  · obtain rfl : totalBytes = 0 := by omega
    simp
  all_goals first | omega | rfl

/-- A heuristic split loses no byte. -/
lemma splitHeuristicBytes_conserve (nonneg : 0 ≤ totalBytes) (gpu_pos : 0 < gpuBasisBytes)
    (ram_pos : 0 < ramBasisBytes) :
    let split := splitHeuristicBytes totalBytes gpuBasisBytes ramBasisBytes
    0 ≤ split.1 ∧ 0 ≤ split.2 ∧ split.1 + split.2 = totalBytes := by
  rw [splitHeuristicBytes_eq nonneg gpu_pos ram_pos]
  have pos : 0 < gpuBasisBytes + ramBasisBytes := by omega
  have lower := ceilShare_nonneg pos nonneg gpu_pos.le
  have upper := ceilShare_le_total pos nonneg
    (by omega : gpuBasisBytes ≤ gpuBasisBytes + ramBasisBytes)
  exact ⟨lower, by simp only; omega, by simp only; omega⟩

end Splits

section Placement
variable {c : MemoryComponents} {total gpu : Option ℤ} {gpuWeight gpuWeight' : ℤ}
  {p p' : OffloadPlacement}

/-- A placement needs weights in both pools, and that is all it needs. -/
lemma calculateOffloadPlacement_isSome :
    (∃ p, calculateOffloadPlacement c total gpu gpuWeight = some p) ↔
      0 < gpuWeight ∧ gpuWeight < c.weightsBytes := by
  simp only [calculateOffloadPlacement]
  split_ifs with unusable
  · constructor
    · rintro ⟨p, eq⟩
      cases eq
    · omega
  · exact ⟨fun _ => by omega, fun _ => ⟨_, rfl⟩⟩

/-- What a returned placement satisfies. -/
structure PlacementSpec (c : MemoryComponents) (total gpu : Option ℤ) (gpuWeight : ℤ)
    (p : OffloadPlacement) : Prop where
  conserve : p.shares.Conserve c
  gpuRequired : p.gpuRequiredBytes = p.shares.gpuTotal + c.deviceReserveBytes
  ramRequired : p.ramRequiredBytes = p.shares.ramTotal
  totalBlocks : p.totalTransformerBlocks = total
  gpuBlocks : p.gpuTransformerBlocks = gpu
  bounds : p.nonBlockPlacementBounds = none
  weight : p.gpuWeightBytes = gpuWeight
  kvCache : p.gpuKvCacheBytes = (placementKvCache c.kvCacheBytes total gpu).1
  overhead : p.gpuOverheadBytes =
    ceilShare c.overheadBytes (gpuWeight + p.gpuKvCacheBytes) (c.weightsBytes + c.kvCacheBytes)
  safetyMargin : p.gpuSafetyMarginBytes =
    ceilShare c.safetyMarginBytes
      (gpuWeight + p.gpuKvCacheBytes + c.deviceReserveBytes + p.gpuOverheadBytes)
      (c.weightsBytes + c.kvCacheBytes + c.deviceReserveBytes + c.overheadBytes)

/-- Every placement of non-negative components is accounted for. -/
lemma calculateOffloadPlacement_spec (nonneg : c.Nonneg)
    (eq : calculateOffloadPlacement c total gpu gpuWeight = some p) :
    PlacementSpec c total gpu gpuWeight p := by
  obtain ⟨weight_pos, weight_lt⟩ := calculateOffloadPlacement_isSome.mp ⟨p, eq⟩
  obtain ⟨kvGpu, kvRam, kvSum⟩ := @placementKvCache_conserve c.kvCacheBytes total gpu nonneg.kvCache
  simp only [calculateOffloadPlacement] at eq
  rw [if_neg (by omega)] at eq
  set kv := placementKvCache c.kvCacheBytes total gpu with kvDef
  have reserve := nonneg.deviceReserve
  -- both sides hold weights, so each split has a positive basis
  have gpuBasis : 0 < gpuWeight + kv.1 := by omega
  have ramBasis : 0 < c.weightsBytes - gpuWeight + kv.2 := by omega
  have overheadEq := splitHeuristicBytes_eq nonneg.overhead gpuBasis ramBasis
  obtain ⟨ohGpu, ohRam, ohSum⟩ := splitHeuristicBytes_conserve nonneg.overhead gpuBasis ramBasis
  set oh := splitHeuristicBytes c.overheadBytes (gpuWeight + kv.1)
    (c.weightsBytes - gpuWeight + kv.2) with ohDef
  -- the margin is split by what stands on each side so far
  have gpuMargin : 0 < gpuWeight + kv.1 + c.deviceReserveBytes + oh.1 := by omega
  have ramMargin : 0 < c.weightsBytes - gpuWeight + kv.2 + oh.2 := by omega
  have marginEq := splitHeuristicBytes_eq nonneg.safetyMargin gpuMargin ramMargin
  obtain ⟨mGpu, mRam, mSum⟩ :=
    splitHeuristicBytes_conserve nonneg.safetyMargin gpuMargin ramMargin
  cases eq
  exact {
    conserve := {
      gpuWeight_nonneg := weight_pos.le
      ramWeight_nonneg := by simp only [OffloadPlacement.shares]; omega
      weights := by simp only [OffloadPlacement.shares]; omega
      gpuKvCache_nonneg := kvGpu
      ramKvCache_nonneg := kvRam
      kvCache := kvSum
      gpuOverhead_nonneg := ohGpu
      ramOverhead_nonneg := ohRam
      overhead := ohSum
      gpuSafetyMargin_nonneg := mGpu
      ramSafetyMargin_nonneg := mRam
      safetyMargin := mSum }
    gpuRequired := by simp only [OffloadPlacement.shares, Shares.gpuTotal]; ring
    ramRequired := by simp only [OffloadPlacement.shares, Shares.ramTotal]
    totalBlocks := rfl
    gpuBlocks := rfl
    bounds := rfl
    weight := rfl
    kvCache := rfl
    overhead := by
      have basis : gpuWeight + kv.1 + (c.weightsBytes - gpuWeight + kv.2) =
          c.weightsBytes + c.kvCacheBytes := by omega
      simp only [overheadEq, basis]
    safetyMargin := by
      have basis : gpuWeight + kv.1 + c.deviceReserveBytes + oh.1 +
          (c.weightsBytes - gpuWeight + kv.2 + oh.2) =
          c.weightsBytes + c.kvCacheBytes + c.deviceReserveBytes + c.overheadBytes := by omega
      simp only [marginEq, basis] }

/-- Moving weights to the GPU raises its need and lowers the host's. -/
lemma placement_mono (nonneg : c.Nonneg) (le : gpuWeight ≤ gpuWeight')
    (eq : calculateOffloadPlacement c total gpu gpuWeight = some p)
    (eq' : calculateOffloadPlacement c total gpu gpuWeight' = some p') :
    p.gpuRequiredBytes ≤ p'.gpuRequiredBytes ∧ p'.ramRequiredBytes ≤ p.ramRequiredBytes := by
  have spec := calculateOffloadPlacement_spec nonneg eq
  have spec' := calculateOffloadPlacement_spec nonneg eq'
  obtain ⟨weight_pos, _⟩ := calculateOffloadPlacement_isSome.mp ⟨p, eq⟩
  have kvEq : p'.gpuKvCacheBytes = p.gpuKvCacheBytes := spec'.kvCache.trans spec.kvCache.symm
  have kvNonneg : 0 ≤ p.gpuKvCacheBytes := spec.conserve.gpuKvCache_nonneg
  have kv := nonneg.kvCache
  have reserve := nonneg.deviceReserve
  have overheadLe : p.gpuOverheadBytes ≤ p'.gpuOverheadBytes := by
    rw [spec.overhead, spec'.overhead, kvEq]
    have weight := spec.conserve.weights
    have gpuShare := spec.conserve.gpuWeight_nonneg
    have ramShare := spec.conserve.ramWeight_nonneg
    have weightEq : p.shares.gpuWeight = gpuWeight := spec.weight
    exact ceilShare_mono (by omega) nonneg.overhead (by omega)
  have marginLe : p.gpuSafetyMarginBytes ≤ p'.gpuSafetyMarginBytes := by
    rw [spec.safetyMargin, spec'.safetyMargin, kvEq]
    have weight := spec.conserve.weights
    have ramShare := spec.conserve.ramWeight_nonneg
    have weightEq : p.shares.gpuWeight = gpuWeight := spec.weight
    have overhead := nonneg.overhead
    exact ceilShare_mono (by omega) nonneg.safetyMargin (by omega)
  have gpuLe : p.shares.gpuTotal ≤ p'.shares.gpuTotal := by
    have weightEq := spec.weight
    have weightEq' := spec'.weight
    simp only [OffloadPlacement.shares, Shares.gpuTotal]
    omega
  -- the two pools together hold the same bytes in both placements
  have pools := spec.conserve.gpuTotal_add_ramTotal
  have pools' := spec'.conserve.gpuTotal_add_ramTotal
  rw [spec.gpuRequired, spec'.gpuRequired, spec.ramRequired, spec'.ramRequired]
  exact ⟨by omega, by omega⟩

end Placement

end Jaull.Estimator
