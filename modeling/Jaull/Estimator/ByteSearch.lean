import Jaull.Estimator.HardwareFit
import Jaull.Lib.Bisect

/-!
# The byte search is sound and complete

Without a block count the search halves an interval of weight shares. Moving weights to the GPU raises its
need and lowers the host's (`placement_mono`), so the search finds the greatest share that fits VRAM, and
one test of RAM there loses no share that fits both pools.
-/

namespace Jaull.Estimator
open Jaull.Domain Jaull.Lib

namespace OffloadRequest

/-- Putting `share` weight bytes on the GPU, the whole KV cache with them, fits VRAM. -/
def FitsVramAt (request : OffloadRequest) (share : ℤ) : Prop :=
  1 ≤ share ∧ share < request.components.weightsBytes ∧
    ∃ placement, calculateOffloadPlacement request.components request.totalTransformerBlocks none
        share = some placement ∧
      placement.gpuRequiredBytes ≤ request.availableVram

/-- Putting `share` weight bytes on the GPU fits both pools. -/
def FitsBothAt (request : OffloadRequest) (share : ℤ) : Prop :=
  1 ≤ share ∧ share < request.components.weightsBytes ∧
    ∃ placement, calculateOffloadPlacement request.components request.totalTransformerBlocks none
        share = some placement ∧
      placement.gpuRequiredBytes ≤ request.availableVram ∧
      placement.ramRequiredBytes ≤ request.availableRam

/-- The probe of the search: a placement that fits VRAM. -/
def probe (request : OffloadRequest) (share : ℤ) : Option OffloadPlacement :=
  (calculateOffloadPlacement request.components request.totalTransformerBlocks none share).filter
    (·.gpuRequiredBytes ≤ request.availableVram)

variable {request : OffloadRequest} {share share' : ℤ} {placement placement' : OffloadPlacement}

/-- A probe succeeds with the placement of its share, when that fits the card. -/
lemma probe_eq_some :
    request.probe share = some placement ↔
      calculateOffloadPlacement request.components request.totalTransformerBlocks none share =
        some placement ∧ placement.gpuRequiredBytes ≤ request.availableVram := by
  rw [probe, Option.filter_eq_some_iff, decide_eq_true_eq]

/-- The search of the source is the search by halves with this probe. -/
lemma byteSearch_eq (fuel : ℕ) (low high : ℤ) (best : Option OffloadPlacement) :
    request.byteSearch fuel low high best = bisect request.probe fuel low high best := by
  induction fuel generalizing low high best with
  | zero => rfl
  | succ fuel ih =>
    rw [byteSearch, bisect]
    split
    case isFalse => rfl
    case isTrue =>
      simp only [probe]
      cases calculateOffloadPlacement request.components request.totalTransformerBlocks none
          ((low + high).fdiv 2) with
      | none => exact ih low _ best
      | some placement =>
        by_cases fits : placement.gpuRequiredBytes ≤ request.availableVram
        · simp only [if_pos fits, Option.filter_some, decide_eq_true fits]
          exact ih _ high (some placement)
        · simp only [if_neg fits, Option.filter_some, decide_eq_false fits]
          exact ih low _ best

/-- A share between nothing and everything has a placement. -/
lemma exists_placement (pos : 1 ≤ share) (lt : share < request.components.weightsBytes) :
    ∃ placement, calculateOffloadPlacement request.components request.totalTransformerBlocks none
      share = some placement :=
  calculateOffloadPlacement_isSome.mpr ⟨by omega, lt⟩

/-- Without a block count the GPU needs at least the share, the whole KV cache and the reserve. -/
lemma share_add_le (nonneg : request.components.Nonneg)
    (eq : calculateOffloadPlacement request.components request.totalTransformerBlocks none share =
      some placement) :
    share + request.components.kvCacheBytes + request.components.deviceReserveBytes ≤
      placement.gpuRequiredBytes := by
  have spec := calculateOffloadPlacement_spec nonneg eq
  have kv : placement.gpuKvCacheBytes = request.components.kvCacheBytes := spec.kvCache
  have weight := spec.weight
  have overhead : 0 ≤ placement.gpuOverheadBytes := spec.conserve.gpuOverhead_nonneg
  have margin : 0 ≤ placement.gpuSafetyMarginBytes := spec.conserve.gpuSafetyMargin_nonneg
  rw [spec.gpuRequired]
  simp only [OffloadPlacement.shares, Shares.gpuTotal]
  omega

/-- A share that fits VRAM lies within the bounds the search starts from. -/
lemma FitsVramAt.le_available (nonneg : request.components.Nonneg)
    (fits : request.FitsVramAt share) :
    share ≤ request.availableVram - request.components.kvCacheBytes -
      request.components.deviceReserveBytes := by
  obtain ⟨_, _, placement, eq, vram⟩ := fits
  have needs := share_add_le nonneg eq
  omega

/-- Where the probe is silent it stays silent for larger shares. -/
lemma probe_silent (nonneg : request.components.Nonneg) (pos : 1 ≤ share) (le : share ≤ share')
    (lt : share' < request.components.weightsBytes) (silent : request.probe share = none) :
    request.probe share' = none := by
  obtain ⟨placement, eq⟩ := exists_placement pos (le.trans_lt lt)
  obtain ⟨placement', eq'⟩ := exists_placement (pos.trans le) lt
  have grows := (placement_mono nonneg le eq eq').1
  have exceeds : ¬ placement.gpuRequiredBytes ≤ request.availableVram := by
    intro fits
    rw [probe_eq_some.mpr ⟨eq, fits⟩] at silent
    cases silent
  rw [probe, eq', Option.filter_some, if_neg]
  rw [decide_eq_true_eq]
  omega

/-- The search finds the placement of the greatest share that fits VRAM, and nothing when none does. -/
lemma byteSearch_greatest (nonneg : request.components.Nonneg) {high : ℤ}
    (within : high ≤ request.components.weightsBytes - 1)
    (dominates : ∀ share, request.FitsVramAt share → share ≤ high) :
    (∃ share placement,
      request.byteSearch (Nat.log2 high.toNat + 1) 1 high none = some placement ∧
      calculateOffloadPlacement request.components request.totalTransformerBlocks none share =
        some placement ∧
      IsGreatest {share | request.FitsVramAt share} share) ∨
    (request.byteSearch (Nat.log2 high.toNat + 1) 1 high none = none ∧
      ∀ share, ¬ request.FitsVramAt share) := by
  -- as many halvings as the bound has binary digits
  have enough : high - 1 + 1 < 2 ^ (Nat.log2 high.toNat + 1) := by
    have digits : high.toNat < 2 ^ (Nat.log2 high.toNat + 1) := Nat.lt_log2_self
    have cast : ((2 ^ (Nat.log2 high.toNat + 1) : ℕ) : ℤ) = 2 ^ (Nat.log2 high.toNat + 1) := by
      push_cast
      rfl
    omega
  -- a share that does not fit keeps all larger ones from fitting
  have silent : ∀ m n, 1 ≤ m → m ≤ n → n ≤ high → request.probe m = none →
      request.probe n = none :=
    fun m n pos le upper => probe_silent nonneg pos le (by omega)
  rw [byteSearch_eq]
  rcases bisect_spec none enough silent with
    ⟨share, placement, pos, upper, found, greatest, run⟩ | ⟨none, run⟩
  · obtain ⟨eq, vram⟩ := probe_eq_some.mp found
    refine .inl ⟨share, placement, run, eq, ⟨pos, by omega, placement, eq, vram⟩, ?_⟩
    intro other fits
    by_contra larger
    have le := dominates other fits
    obtain ⟨_, _, placement', eq', vram'⟩ := fits
    have silentAt := greatest other (by omega) le
    rw [probe_eq_some.mpr ⟨eq', vram'⟩] at silentAt
    cases silentAt
  · refine .inr ⟨run, ?_⟩
    intro other fits
    have le := dominates other fits
    obtain ⟨pos, _, placement', eq', vram'⟩ := fits
    have silentAt := none other pos le
    rw [probe_eq_some.mpr ⟨eq', vram'⟩] at silentAt
    cases silentAt

/-- Some share fits both pools exactly when the greatest share that fits VRAM leaves RAM enough: fewer
weights on the GPU only raise the host's need. -/
lemma exists_fitsBothAt_iff (nonneg : request.components.Nonneg)
    (eq : calculateOffloadPlacement request.components request.totalTransformerBlocks none share =
      some placement)
    (greatest : IsGreatest {share | request.FitsVramAt share} share) :
    (∃ share, request.FitsBothAt share) ↔ placement.ramRequiredBytes ≤ request.availableRam := by
  constructor
  · intro ⟨other, pos, lt, placement', eq', vram, ram⟩
    have le := greatest.2 ⟨pos, lt, placement', eq', vram⟩
    exact (placement_mono nonneg le eq' eq).2.trans ram
  · intro ram
    obtain ⟨pos, lt, placement', eq', vram⟩ := greatest.1
    rw [eq] at eq'
    cases eq'
    exact ⟨share, pos, lt, placement, eq, vram, ram⟩

/-- The byte search returns a placement exactly when some share fits both pools, with the greatest share
that fits VRAM. -/
lemma tryByteOffload_greatest (nonneg : request.components.Nonneg) :
    (∃ result, request.tryByteOffload = some result ∧ result.mode = .gpuOffload ∧
      result.placementMethod = .estimatedBytes ∧ (∃ share, request.FitsBothAt share) ∧
      IsGreatest {share | request.FitsVramAt share} result.gpuWeightBytes) ∨
    (request.tryByteOffload = none ∧ ∀ share, ¬ request.FitsBothAt share) := by
  have fitsVram : ∀ share, request.FitsBothAt share → request.FitsVramAt share :=
    fun share ⟨pos, lt, placement, eq, vram, _⟩ => ⟨pos, lt, placement, eq, vram⟩
  simp only [tryByteOffload]
  by_cases noRoom : request.availableVram - request.components.kvCacheBytes -
      request.components.deviceReserveBytes ≤ 0
  · rw [if_pos noRoom]
    refine .inr ⟨rfl, ?_⟩
    intro share fits
    have le := (fitsVram share fits).le_available nonneg
    have pos := fits.1
    omega
  · rw [if_neg noRoom]
    have searched := byteSearch_greatest nonneg (min_le_left (request.components.weightsBytes - 1) _)
      fun share fits => le_min (by have lt := fits.2.1; omega) (fits.le_available nonneg)
    rcases searched with ⟨share, placement, run, eq, greatest⟩ | ⟨run, none⟩
    · have both := exists_fitsBothAt_iff nonneg eq greatest
      rw [run]
      by_cases ram : placement.ramRequiredBytes ≤ request.availableRam
      · simp only [if_neg ram.not_gt]
        refine .inl ⟨_, rfl, rfl, rfl, both.mpr ram, ?_⟩
        have weight : placement.gpuWeightBytes = share :=
          (calculateOffloadPlacement_spec nonneg eq).weight
        rw [offloadResultFromPlacement, weight]
        exact greatest
      · simp only [if_pos (not_le.mp ram)]
        refine .inr ⟨trivial, ?_⟩
        intro other fits
        exact ram (both.mp ⟨other, fits⟩)
    · rw [run]
      exact .inr ⟨rfl, fun share fits => none share (fitsVram share fits)⟩

/-- When no block count is known the search never fails: it returns a placement exactly when some share of
the weights fits both pools, and then with the greatest share that fits VRAM. -/
theorem tryGpuOffload_bytes_exact (nonneg : request.components.Nonneg)
    (unknown : validTransformerBlockCount request.totalTransformerBlocks = false) :
    ∃ found, request.tryGpuOffload = .ok found ∧
      ((∃ result, found = some result) ↔ ∃ share, request.FitsBothAt share) ∧
      ∀ result, found = some result → result.mode = .gpuOffload ∧
        IsGreatest {share | request.FitsVramAt share} result.gpuWeightBytes := by
  have run : request.tryGpuOffload = .ok request.tryByteOffload := by
    rw [tryGpuOffload]
    cases count : request.totalTransformerBlocks with
    | none => rfl
    | some blocks =>
      rw [count] at unknown
      simp only [unknown, Bool.false_eq_true, if_false]
  refine ⟨_, run, ?_⟩
  rcases tryByteOffload_greatest nonneg with
    ⟨result, eq, mode, _, fits, greatest⟩ | ⟨eq, none⟩
  · rw [eq]
    refine ⟨⟨fun _ => fits, fun _ => ⟨result, rfl⟩⟩, ?_⟩
    rintro _ ⟨⟩
    exact ⟨mode, greatest⟩
  · rw [eq]
    refine ⟨⟨?_, ?_⟩, ?_⟩
    · rintro ⟨result, impossible⟩
      cases impossible
    · rintro ⟨share, fits⟩
      exact absurd fits (none share)
    · rintro result impossible
      cases impossible

end OffloadRequest

/-- The 14B model of `fourteenBillion` against one 8 GiB card, its block count unknown. -/
def unknownBlocks : OffloadRequest where
  components :=
    { weightsBytes := 8988110272
      kvCacheBytes := 1610612736
      overheadBytes := 536870912
      deviceReserveBytes := 1073741824
      safetyMarginBytes := 1220933591 }
  availableVram := 8053063680
  availableRam := 25769803776
  totalTransformerBlocks := none
  topology := .discreteMemory

/-- `tryGpuOffload_bytes_exact` on the 14B model: a share is found. -/
theorem tryGpuOffload_bytes_exact_unknownBlocks :
    (∃ share, unknownBlocks.FitsBothAt share) ∧
      ∃ result, unknownBlocks.tryGpuOffload = .ok (some result) ∧
        IsGreatest {share | unknownBlocks.FitsVramAt share} result.gpuWeightBytes := by
  have nonneg : unknownBlocks.components.Nonneg :=
    ⟨by decide, by decide, by decide, by decide, by decide⟩
  obtain ⟨found, run, decides, greatest⟩ := OffloadRequest.tryGpuOffload_bytes_exact nonneg rfl
  have fits : (unknownBlocks.tryGpuOffload.toOption.getD none).isSome := by decide +kernel
  rw [run] at fits
  obtain ⟨result, eq⟩ := Option.isSome_iff_exists.mp fits
  have eq : found = some result := eq
  subst eq
  exact ⟨decides.mp ⟨result, rfl⟩, result, run, (greatest result rfl).2⟩

end Jaull.Estimator
