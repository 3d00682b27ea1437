import Jaull.Estimator.BlockSearch
import Jaull.Estimator.ByteSearch

/-!
# More memory never hurts

Both searches return exactly when some placement fits (`tryBlockOffload_greatest`,
`tryByteOffload_greatest`), and a placement that fits fits larger pools too. So on hardware of one topology
the mode never worsens as the pools grow, and the block search keeps at least the blocks it had.
-/

namespace Jaull.Estimator
open Jaull.Domain Jaull.Lib

/-- How good a mode is, better modes ranking higher. -/
def modeRank : HardwareFitMode → ℕ
  | .gpuResident => 3
  | .gpuOffload => 2
  | .cpuRam => 1
  | .tooLarge => 0

namespace OffloadRequest

/-- Some placement between both pools fits: of blocks when their count is known, of bytes otherwise. -/
def Offloads (request : OffloadRequest) : Prop :=
  match request.totalTransformerBlocks with
  | some totalBlocks =>
    if 0 < totalBlocks then ∃ n, request.Fits totalBlocks n else ∃ share, request.FitsBothAt share
  | none => ∃ share, request.FitsBothAt share

variable {request : OffloadRequest}

/-- The offload search returns exactly when some placement fits, and by blocks with the greatest number
that does. -/
lemma tryGpuOffload_decides (nonneg : request.components.Nonneg)
    (decomposed : ∀ d, request.weightDecomposition = some d →
      d.totalWeightBytes = request.components.weightsBytes ∧
        request.totalTransformerBlocks = some d.totalTransformerBlocks) :
    (∃ result, request.tryGpuOffload = .ok (some result) ∧ result.mode = .gpuOffload ∧
      request.Offloads ∧ (result.placementMethod = .transformerBlocks →
        ∃ totalBlocks n, request.totalTransformerBlocks = some totalBlocks ∧
          result.gpuTransformerBlocks = some n ∧
          IsGreatest {n | request.Fits totalBlocks n} n)) ∨
    (request.tryGpuOffload = .ok none ∧ ¬ request.Offloads) := by
  -- without a usable count the byte search answers
  have bytes : request.tryGpuOffload = .ok request.tryByteOffload →
      (request.Offloads ↔ ∃ share, request.FitsBothAt share) →
      (∃ result, request.tryGpuOffload = .ok (some result) ∧ result.mode = .gpuOffload ∧
        request.Offloads ∧ (result.placementMethod = .transformerBlocks →
          ∃ totalBlocks n, request.totalTransformerBlocks = some totalBlocks ∧
            result.gpuTransformerBlocks = some n ∧
            IsGreatest {n | request.Fits totalBlocks n} n)) ∨
      (request.tryGpuOffload = .ok none ∧ ¬ request.Offloads) := by
    intro run offloads
    rw [run, offloads]
    rcases tryByteOffload_greatest nonneg with ⟨result, eq, mode, method, fits, _⟩ | ⟨eq, none⟩
    · refine .inl ⟨result, by rw [eq], mode, fits, ?_⟩
      intro byBlocks
      rw [method] at byBlocks
      cases byBlocks
    · exact .inr ⟨by rw [eq], not_exists.mpr none⟩
  cases count : request.totalTransformerBlocks with
  | none =>
    simp only [count] at bytes
    exact bytes (by rw [tryGpuOffload, count]) (by rw [Offloads, count])
  | some totalBlocks =>
    by_cases pos : 0 < totalBlocks
    · have valid : request.Valid totalBlocks :=
        { nonneg := nonneg
          blocks_pos := pos
          blocks := count
          decomposition := by
            intro d eq
            obtain ⟨weights, total⟩ := decomposed d eq
            rw [count] at total
            exact ⟨weights, (Option.some.inj total).symm⟩ }
      have run : request.tryGpuOffload = request.tryBlockOffload totalBlocks := by
        simp [tryGpuOffload, count, validTransformerBlockCount, pos]
      have offloads : request.Offloads ↔ ∃ n, request.Fits totalBlocks n := by
        simp only [Offloads, count, if_pos pos]
      rw [run, offloads]
      rcases tryBlockOffload_greatest valid with ⟨result, n, eq, mode, blocks, greatest⟩ | ⟨eq, none⟩
      · exact .inl ⟨result, eq, mode, ⟨n, greatest.1⟩, fun _ => ⟨totalBlocks, n, rfl, blocks, greatest⟩⟩
      · exact .inr ⟨eq, not_exists.mpr none⟩
    · simp only [count] at bytes
      exact bytes (by simp [tryGpuOffload, count, validTransformerBlockCount, pos])
        (by simp only [Offloads, count, if_neg pos])

/-- The same request against larger pools. -/
def withPools (request : OffloadRequest) (vram ram : ℤ) : OffloadRequest :=
  { request with
    availableVram := vram
    availableRam := ram }

/-- Blocks that fit fit larger pools. -/
lemma Fits.mono {totalBlocks n vram ram : ℤ} (fits : request.Fits totalBlocks n)
    (vramLe : request.availableVram ≤ vram) (ramLe : request.availableRam ≤ ram) :
    (request.withPools vram ram).Fits totalBlocks n := by
  obtain ⟨pos, fits⟩ := fits
  refine ⟨pos, ?_⟩
  have same : (request.withPools vram ram).decomposition = request.decomposition := rfl
  rw [same]
  cases decomposed : request.decomposition with
  | none =>
    rw [decomposed] at fits
    obtain ⟨placement, eq, gpu, host⟩ := fits
    exact ⟨placement, eq, gpu.trans vramLe, host.trans ramLe⟩
  | some d =>
    rw [decomposed] at fits
    obtain ⟨lt, placement, hostEndpoint, eq, eqHost, gpu, host, endpoint⟩ := fits
    exact ⟨lt, placement, hostEndpoint, eq, eqHost, gpu.trans vramLe, host.trans ramLe,
      endpoint.trans ramLe⟩

/-- A share that fits fits larger pools. -/
lemma FitsBothAt.mono {share vram ram : ℤ} (fits : request.FitsBothAt share)
    (vramLe : request.availableVram ≤ vram) (ramLe : request.availableRam ≤ ram) :
    (request.withPools vram ram).FitsBothAt share := by
  obtain ⟨pos, lt, placement, eq, gpu, host⟩ := fits
  exact ⟨pos, lt, placement, eq, gpu.trans vramLe, host.trans ramLe⟩

/-- What one machine offloads, a larger one does. -/
lemma Offloads.mono {vram ram : ℤ} (offloads : request.Offloads)
    (vramLe : request.availableVram ≤ vram) (ramLe : request.availableRam ≤ ram) :
    (request.withPools vram ram).Offloads := by
  have same : (request.withPools vram ram).totalTransformerBlocks = request.totalTransformerBlocks :=
    rfl
  rw [Offloads] at offloads ⊢
  rw [same]
  cases count : request.totalTransformerBlocks with
  | none =>
    rw [count] at offloads
    obtain ⟨share, fits⟩ := offloads
    exact ⟨share, fits.mono vramLe ramLe⟩
  | some totalBlocks =>
    rw [count] at offloads
    simp only at offloads ⊢
    split
    case isTrue pos =>
      rw [if_pos pos] at offloads
      obtain ⟨n, fits⟩ := offloads
      exact ⟨n, fits.mono vramLe ramLe⟩
    case isFalse none =>
      rw [if_neg none] at offloads
      obtain ⟨share, fits⟩ := offloads
      exact ⟨share, fits.mono vramLe ramLe⟩

end OffloadRequest

section Analysis
variable {c : MemoryComponents} {budget budget' : Option ℤ} {ram ram' : ℤ} {blocks : Option ℤ}
  {topology : HardwareMemoryTopology}
  {weightDecomposition : Option TransformerBlockWeightDecomposition}
  {result result' : HardwareFitResult}

/-- The request the analysis makes of the offload search. -/
def offloadRequest (c : MemoryComponents) (vram ram : ℤ) (blocks : Option ℤ)
    (topology : HardwareMemoryTopology)
    (weightDecomposition : Option TransformerBlockWeightDecomposition) : OffloadRequest where
  components := c
  availableVram := vram
  availableRam := ram
  totalTransformerBlocks := blocks
  topology := topology
  weightDecomposition := weightDecomposition

/-- Why a discrete-memory result has its mode. -/
inductive Classified (c : MemoryComponents) (budget : Option ℤ) (ram : ℤ) (blocks : Option ℤ)
    (topology : HardwareMemoryTopology)
    (weightDecomposition : Option TransformerBlockWeightDecomposition) (result : HardwareFitResult) :
    Prop
  | resident (vram : ℤ) :
    budget = some vram →
    c.total ≤ vram →
    result.mode = .gpuResident →
    Classified c budget ram blocks topology weightDecomposition result
  | offload (vram : ℤ) :
    budget = some vram →
    ¬ c.total ≤ vram →
    (offloadRequest c vram ram blocks topology weightDecomposition).Offloads →
    result.mode = .gpuOffload →
    (result.placementMethod = .transformerBlocks →
      ∃ totalBlocks n, blocks = some totalBlocks ∧ result.gpuTransformerBlocks = some n ∧
        IsGreatest {n | (offloadRequest c vram ram blocks topology weightDecomposition).Fits
          totalBlocks n} n) →
    Classified c budget ram blocks topology weightDecomposition result
  | host :
    (∀ vram, budget = some vram → ¬ c.total ≤ vram ∧
      ¬ (offloadRequest c vram ram blocks topology weightDecomposition).Offloads) →
    result.mode = (if c.cpuRequired ≤ ram then .cpuRam else .tooLarge) →
    Classified c budget ram blocks topology weightDecomposition result

/-- The discrete branch never fails, and every mode has its reason. -/
lemma analyzeDiscreteMemory_classified (nonneg : c.Nonneg)
    (decomposed : ∀ d, weightDecomposition = some d →
      d.totalWeightBytes = c.weightsBytes ∧ blocks = some d.totalTransformerBlocks) :
    ∃ result, analyzeDiscreteMemory c budget ram blocks topology weightDecomposition = .ok result ∧
      Classified c budget ram blocks topology weightDecomposition result := by
  unfold analyzeDiscreteMemory
  cases budget with
  | none =>
    refine ⟨_, rfl, .host ?_ rfl⟩
    intro vram impossible
    cases impossible
  | some vram =>
    by_cases fits : c.total ≤ vram
    · simp only [if_pos fits]
      exact ⟨_, rfl, .resident vram rfl fits rfl⟩
    · simp only [if_neg fits]
      have decides := (offloadRequest c vram ram blocks topology
        weightDecomposition).tryGpuOffload_decides nonneg decomposed
      rcases decides with ⟨result, eq, mode, offloads, greatest⟩ | ⟨eq, none⟩
      · rw [offloadRequest] at eq
        simp only [eq]
        exact ⟨result, rfl, .offload vram rfl fits offloads mode greatest⟩
      · rw [offloadRequest] at eq
        simp only [eq]
        refine ⟨_, rfl, .host ?_ rfl⟩
        rintro _ ⟨⟩
        exact ⟨fits, none⟩

/-- More memory never turns the host placement down. -/
lemma hostRank_mono (le : ram ≤ ram') :
    modeRank (if c.cpuRequired ≤ ram then .cpuRam else .tooLarge) ≤
      modeRank (if c.cpuRequired ≤ ram' then .cpuRam else .tooLarge) := by
  by_cases fits : c.cpuRequired ≤ ram
  · rw [if_pos fits, if_pos (fits.trans le)]
  · rw [if_neg fits]
    exact Nat.zero_le _

/-- Larger pools classify no worse. -/
lemma Classified.mono (classified : Classified c budget ram blocks topology weightDecomposition result)
    (classified' : Classified c budget' ram' blocks topology weightDecomposition result')
    (vramLe : ∀ vram, budget = some vram → ∃ vram', budget' = some vram' ∧ vram ≤ vram')
    (ramLe : ram ≤ ram') : modeRank result.mode ≤ modeRank result'.mode := by
  cases classified with
  | resident vram eq fits mode =>
    obtain ⟨vram', eq', le⟩ := vramLe vram eq
    cases classified' with
    | resident _ _ _ mode' => rw [mode, mode']
    | offload _ eq'' exceeds _ _ _ =>
      rw [eq'] at eq''
      cases eq''
      exact absurd (fits.trans le) exceeds
    | host worse _ => exact absurd (fits.trans le) (worse vram' eq').1
  | offload vram eq _ offloads mode _ =>
    obtain ⟨vram', eq', le⟩ := vramLe vram eq
    cases classified' with
    | resident _ _ _ mode' => rw [mode, mode']; decide
    | offload _ _ _ _ mode' _ => rw [mode, mode']
    | host worse _ => exact absurd (offloads.mono le ramLe) (worse vram' eq').2
  | host _ mode =>
    cases classified' with
    | resident _ _ _ mode' =>
      rw [mode, mode']
      split <;> decide
    | offload _ _ _ _ mode' _ =>
      rw [mode, mode']
      split <;> decide
    | host _ mode' =>
      rw [mode, mode']
      exact hostRank_mono ramLe

/-- Larger pools hold at least the blocks of a smaller one. -/
lemma Classified.blocks_mono
    (classified : Classified c budget ram blocks topology weightDecomposition result)
    (classified' : Classified c budget' ram' blocks topology weightDecomposition result')
    (vramLe : ∀ vram, budget = some vram → ∃ vram', budget' = some vram' ∧ vram ≤ vram')
    (ramLe : ram ≤ ram') (mode : result.mode = .gpuOffload) (mode' : result'.mode = .gpuOffload)
    (method : result.placementMethod = .transformerBlocks)
    (method' : result'.placementMethod = .transformerBlocks) :
    ∃ n n', result.gpuTransformerBlocks = some n ∧ result'.gpuTransformerBlocks = some n' ∧
      n ≤ n' := by
  have onHost : ∀ ram, (if c.cpuRequired ≤ ram then HardwareFitMode.cpuRam else .tooLarge) ≠
      .gpuOffload := by
    intro ram
    split
    · decide
    · decide
  cases classified with
  | resident _ _ _ isResident =>
    rw [isResident] at mode
    cases mode
  | host _ isHost => exact absurd (isHost.symm.trans mode) (onHost ram)
  | offload vram eq _ _ _ greatest =>
    obtain ⟨vram', eq', le⟩ := vramLe vram eq
    cases classified' with
    | resident _ _ _ isResident =>
      rw [isResident] at mode'
      cases mode'
    | host _ isHost => exact absurd (isHost.symm.trans mode') (onHost ram')
    | offload _ eq'' _ _ _ greatest' =>
      rw [eq'] at eq''
      cases eq''
      obtain ⟨totalBlocks, n, count, known, fits, _⟩ := greatest method
      obtain ⟨totalBlocks', n', count', known', _, above⟩ := greatest' method'
      rw [count] at count'
      cases count'
      exact ⟨n, n', known, known', above (fits.mono le ramLe)⟩

end Analysis

/-- Hardware of the same topology with no less VRAM and no less RAM available. -/
structure Raised (hardware hardware' : HardwareProfile) : Prop where
  topology : memoryTopology hardware' = memoryTopology hardware
  vram : ∀ vram, availableAcceleratorMemoryBytes hardware = some vram →
    ∃ vram', availableAcceleratorMemoryBytes hardware' = some vram' ∧ vram ≤ vram'
  ram : hardware.memory.availableBytes ≤ hardware'.memory.availableBytes

/-- A resolved block count comes with a decomposition of these weights, if any. -/
lemma resolveTransformerBlocks_decomposed {c : MemoryComponents}
    {totalTransformerBlocks totalLayers blocks : Option ℤ}
    {weightDecomposition : Option TransformerBlockWeightDecomposition}
    (resolved : resolveTransformerBlocks c totalTransformerBlocks totalLayers weightDecomposition =
      .ok blocks) :
    ∀ d, weightDecomposition = some d →
      d.totalWeightBytes = c.weightsBytes ∧ blocks = some d.totalTransformerBlocks := by
  intro d given
  subst given
  exact resolveTransformerBlocks_some resolved

/-- Raising the pools of a machine never worsens the mode, nor lowers the number of blocks of an offload
by blocks; an error of the arguments stays the same error. -/
theorem analyzeComponents_mono {c : MemoryComponents} (nonneg : c.Nonneg)
    {hardware hardware' : HardwareProfile} (raised : Raised hardware hardware')
    (totalTransformerBlocks totalLayers : Option ℤ)
    (weightDecomposition : Option TransformerBlockWeightDecomposition) :
    let analyzed := fun hardware =>
      analyzeComponents c hardware totalTransformerBlocks totalLayers weightDecomposition
    (∃ error, analyzed hardware = .error error ∧ analyzed hardware' = .error error) ∨
    ∃ result result', analyzed hardware = .ok result ∧ analyzed hardware' = .ok result' ∧
      modeRank result.mode ≤ modeRank result'.mode ∧
      (result.mode = .gpuOffload → result'.mode = .gpuOffload →
        result.placementMethod = .transformerBlocks →
        result'.placementMethod = .transformerBlocks →
        ∃ n n', result.gpuTransformerBlocks = some n ∧ result'.gpuTransformerBlocks = some n' ∧
          n ≤ n') := by
  simp only [analyzeComponents, raised.topology]
  cases resolved : resolveTransformerBlocks c totalTransformerBlocks totalLayers
      weightDecomposition with
  | error e => exact .inl ⟨e, rfl, rfl⟩
  | ok blocks =>
    refine .inr ?_
    cases memoryTopology hardware with
    | unifiedMemory =>
      refine ⟨_, _, rfl, rfl, ?_, ?_⟩
      · simp only [analyzeUnifiedMemory]
        split
        case isTrue fits =>
          rw [if_pos (fits.trans raised.ram)]
        case isFalse => exact Nat.zero_le _
      · intro mode
        simp only [analyzeUnifiedMemory] at mode
        split at mode
        · cases mode
        · cases mode
    | discreteMemory =>
      have decomposed := resolveTransformerBlocks_decomposed resolved
      obtain ⟨result, run, classified⟩ := @analyzeDiscreteMemory_classified c
        (availableAcceleratorMemoryBytes hardware) hardware.memory.availableBytes blocks
        .discreteMemory weightDecomposition nonneg decomposed
      obtain ⟨result', run', classified'⟩ := @analyzeDiscreteMemory_classified c
        (availableAcceleratorMemoryBytes hardware') hardware'.memory.availableBytes blocks
        .discreteMemory weightDecomposition nonneg decomposed
      exact ⟨result, result', run, run', classified.mono classified' raised.vram raised.ram,
        classified.blocks_mono classified' raised.vram raised.ram⟩

/-- The desktop with a 12 GiB card in place of its 8 GiB one. -/
def upgradedDesktop : HardwareProfile :=
  { desktop with
    accelerators := [
      { name := "NVIDIA GeForce RTX 4070"
        vendor := .nvidia
        type := .dedicated
        dedicatedMemoryBytes := some 12884901888
        availableMemoryBytes := some 12348030976 }] }

/-- `analyzeComponents_mono` on the upgrade: the 14B model keeps at least its blocks or becomes
resident. -/
theorem analyzeComponents_mono_upgradedDesktop :
    ∃ result result',
      analyzeComponents fourteenBillion desktop (some 48) none (some fourteenBillionSplit) =
        .ok result ∧
      analyzeComponents fourteenBillion upgradedDesktop (some 48) none
        (some fourteenBillionSplit) = .ok result' ∧
      modeRank result.mode ≤ modeRank result'.mode := by
  have raised : Raised desktop upgradedDesktop :=
    ⟨by decide +kernel, by decide +kernel, by decide +kernel⟩
  have analyzed := analyzeComponents_mono fourteenBillion_nonneg raised (some 48) none
    (some fourteenBillionSplit)
  rcases analyzed with ⟨error, failed, _⟩ | ⟨result, result', run, run', rank, _⟩
  · have succeeds : (analyzeComponents fourteenBillion desktop (some 48) none
        (some fourteenBillionSplit)).isOk := by decide +kernel
    simp only [failed] at succeeds
    cases succeeds
  · exact ⟨result, result', run, run', rank⟩

end Jaull.Estimator
