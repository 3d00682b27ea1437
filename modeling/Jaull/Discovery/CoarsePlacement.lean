import Jaull.Discovery.Hints
import Jaull.Estimator.HardwareMonotone
import Mathlib.Tactic.Linarith

/-!
# Coarse placement on larger machines

The coarse hint of a candidate never worsens when the memory of a machine grows: the resident test is the test
of the offload search at all the weights, the share that the search finds grows with VRAM, and what is left for
the host shrinks with it.
-/

namespace Jaull.Discovery
open Jaull.Domain Jaull.Lib

section Search
variable {fits : ℤ → Bool} {fuel : ℕ} {low high : ℤ}

/-- The search finds the greatest fitting share above its lower bound, or the bound. -/
lemma searchGpuWeightBytes_spec (within : low ≤ high) (enough : high - low < 2 ^ fuel)
    (below : ∀ m n, low ≤ m → m ≤ n → n ≤ high → fits n = true → fits m = true) :
    low ≤ searchGpuWeightBytes fits fuel low high ∧ searchGpuWeightBytes fits fuel low high ≤ high ∧
      (searchGpuWeightBytes fits fuel low high = low ∨
        fits (searchGpuWeightBytes fits fuel low high) = true) ∧
      ∀ n, searchGpuWeightBytes fits fuel low high < n → n ≤ high → fits n = false := by
  induction fuel generalizing low high with
  | zero =>
    rw [pow_zero] at enough
    rw [searchGpuWeightBytes]
    refine ⟨Int.le_refl _, within, .inl rfl, ?_⟩
    intro n lt le
    omega
  | succ fuel ih =>
    rw [pow_succ] at enough
    rw [searchGpuWeightBytes]
    split
    · rename_i active
      dsimp only
      -- the middle is rounded up, so either half is smaller
      generalize middle : (low + high + 1) / 2 = m
      cases found : fits m with
      | true =>
        rw [if_pos rfl]
        obtain ⟨lower, upper, answer, above⟩ := @ih m high (by omega) (by omega)
          fun a b lower le upper => below a b (by omega) le upper
        refine ⟨by omega, upper, ?_, above⟩
        rcases answer with eq | holds
        · rw [eq]
          exact .inr found
        · exact .inr holds
      | false =>
        rw [if_neg Bool.false_ne_true]
        obtain ⟨lower, upper, answer, above⟩ := @ih low (m - 1) (by omega) (by omega)
          fun a b lower le upper => below a b lower le (by omega)
        refine ⟨lower, by omega, answer, ?_⟩
        intro n lt le
        by_cases early : n ≤ m - 1
        · exact above n lt early
        · by_contra holds
          rw [Bool.not_eq_false] at holds
          rw [below m n (by omega) (by omega) le holds] at found
          cases found
    · refine ⟨Int.le_refl _, within, .inl rfl, ?_⟩
      intro n lt le
      omega

end Search

section Needs
variable {weights kvCache overhead share share' vram vram' ram ram' : ℤ}

/-- More bytes need more with their margin. -/
lemma withSafetyMargin_mono {bytes bytes' : ℤ} (le : bytes ≤ bytes') :
    withSafetyMargin bytes ≤ withSafetyMargin bytes' := by
  apply Int.ceil_le_ceil
  have cast : (bytes : ℚ) ≤ bytes' := by exact_mod_cast le
  linarith

/-- A larger share gets more. -/
lemma splitProportionally_mono (total : ℤ) (pos : 0 < weights) (nonneg : 0 ≤ total) (le : share ≤ share') :
    splitProportionally total share weights ≤ splitProportionally total share' weights := by
  rw [splitProportionally, splitProportionally, if_neg (not_le.mpr pos), if_neg (not_le.mpr pos)]
  apply min_le_min_left
  apply max_le_max_left
  apply Int.floor_le_floor
  have cast : (share : ℚ) ≤ share' := by exact_mod_cast le
  have whole : (0 : ℚ) < weights := by exact_mod_cast pos
  have total' : (0 : ℚ) ≤ total := by exact_mod_cast nonneg
  exact mul_le_mul_of_nonneg_left (div_le_div_of_nonneg_right cast whole.le) total'

/-- The whole share gets all. -/
lemma splitProportionally_whole (total : ℤ) (pos : 0 < weights) (nonneg : 0 ≤ total) :
    splitProportionally total weights weights = total := by
  have whole : (weights : ℚ) ≠ 0 := by exact_mod_cast pos.ne'
  rw [splitProportionally, if_neg (not_le.mpr pos), div_self whole, mul_one, Int.floor_intCast,
    max_eq_right nonneg, min_self]

/-- What the card needs for a share of the weights, with the margin. -/
def gpuNeeds (weights kvCache overhead share : ℤ) : ℤ :=
  withSafetyMargin (kvCache + deviceReserveDefaultBytes + share + splitProportionally overhead share weights)

/-- What the host needs for the rest, with the margin. -/
def hostNeeds (weights overhead share : ℤ) : ℤ :=
  withSafetyMargin (weights - share + (overhead - splitProportionally overhead share weights))

/-- A larger share on the GPU needs more there. -/
lemma gpuNeeds_mono (pos : 0 < weights) (nonneg : 0 ≤ overhead) (le : share ≤ share') :
    gpuNeeds weights kvCache overhead share ≤ gpuNeeds weights kvCache overhead share' := by
  have grows := splitProportionally_mono overhead pos nonneg le
  apply withSafetyMargin_mono
  omega

/-- And less on the host. -/
lemma hostNeeds_anti (pos : 0 < weights) (nonneg : 0 ≤ overhead) (le : share ≤ share') :
    hostNeeds weights overhead share' ≤ hostNeeds weights overhead share := by
  have grows := splitProportionally_mono overhead pos nonneg le
  apply withSafetyMargin_mono
  omega

/-- The resident test is the test of the search at all the weights. -/
lemma gpuNeeds_whole (pos : 0 < weights) (nonneg : 0 ≤ overhead) :
    gpuNeeds weights kvCache overhead weights =
      withSafetyMargin (weights + kvCache + overhead + deviceReserveDefaultBytes) := by
  rw [gpuNeeds, splitProportionally_whole overhead pos nonneg]
  congr 1
  omega

/-- The shares of the weights that fit the card. -/
def FittingShares (weights kvCache overhead vram : ℤ) : Set ℤ :=
  {share | 0 ≤ share ∧ share ≤ weights ∧ gpuNeeds weights kvCache overhead share ≤ vram}

/-- The search finds the greatest share that fits, or none where nothing fits. -/
lemma maxGpuWeightBytes_spec (pos : 0 < weights) (nonneg : 0 ≤ overhead) :
    (maxGpuWeightBytes weights kvCache overhead vram = 0 ∨
      maxGpuWeightBytes weights kvCache overhead vram ∈ FittingShares weights kvCache overhead vram) ∧
      ∀ share ∈ FittingShares weights kvCache overhead vram,
        share ≤ maxGpuWeightBytes weights kvCache overhead vram := by
  have enough : weights - 0 < 2 ^ (Nat.log2 weights.toNat + 2) := by
    have digits : weights.toNat < 2 ^ (Nat.log2 weights.toNat + 1) := Nat.lt_log2_self
    have cast : ((2 ^ (Nat.log2 weights.toNat + 1) : ℕ) : ℤ) = 2 ^ (Nat.log2 weights.toNat + 1) := by
      push_cast
      rfl
    rw [pow_succ]
    omega
  obtain ⟨lower, upper, answer, above⟩ := @searchGpuWeightBytes_spec
    (fun share => decide (gpuNeeds weights kvCache overhead share ≤ vram)) _ 0 weights pos.le enough
    fun m n _ le _ fits =>
      decide_eq_true ((gpuNeeds_mono pos nonneg le).trans (of_decide_eq_true fits))
  change 0 ≤ maxGpuWeightBytes weights kvCache overhead vram at lower
  change maxGpuWeightBytes weights kvCache overhead vram ≤ weights at upper
  refine ⟨?_, ?_⟩
  · rcases answer with none | fits
    · exact .inl none
    · exact .inr ⟨lower, upper, of_decide_eq_true fits⟩
  · rintro share ⟨_, le, fits⟩
    by_contra larger
    have silent := above share (not_le.mp larger) le
    exact absurd fits (of_decide_eq_false silent)

end Needs

section Spilling
variable {weights kvCache overhead share vram vram' ram ram' : ℤ} {hint : CoarsePlacementHint}

/-- The greatest share that fits the card leaves a rest that fits the host. -/
structure Spills (weights kvCache overhead vram ram share : ℤ) : Prop where
  greatest : IsGreatest (FittingShares weights kvCache overhead vram) share
  fixed : withSafetyMargin (kvCache + deviceReserveDefaultBytes) < vram
  partly : share < weights
  worthwhile : weights ≤ 10 * share
  host : hostNeeds weights overhead share ≤ ram

/-- A tenth of the weights in whole numbers. -/
lemma fraction_lt_iff (pos : 0 < weights) : (share : ℚ) / weights < 10 / 100 ↔ 10 * share < weights := by
  have whole : (0 : ℚ) < weights := by exact_mod_cast pos
  rw [div_lt_iff₀ whole]
  constructor
  · intro lt
    have lt' : (10 * share : ℚ) < weights := by linarith
    exact_mod_cast lt'
  · intro lt
    have lt' : (10 * share : ℚ) < weights := by exact_mod_cast lt
    linarith

/-- What an offload hint says. -/
structure OffloadFigures (weights kvCache overhead : ℤ) (hint : CoarsePlacementHint) : Prop where
  mode : hint.mode = some .gpuOffload
  weight : hint.estimatedWeightBytes = some weights
  sum : hint.gpuWeightBytes + hint.ramWeightBytes = weights
  device : hint.gpuRequiredBytes = some (gpuNeeds weights kvCache overhead hint.gpuWeightBytes)
  host : hint.ramRequiredBytes = some (hostNeeds weights overhead hint.gpuWeightBytes)

/-- The offload of the source is of the greatest fitting share. -/
lemma spills_of_hint (pos : 0 < weights) (nonneg : 0 ≤ overhead)
    (some : coarseOffloadHint weights kvCache overhead vram ram = .some hint) :
    Spills weights kvCache overhead vram ram hint.gpuWeightBytes ∧
      OffloadFigures weights kvCache overhead hint := by
  obtain ⟨answer, above⟩ := @maxGpuWeightBytes_spec weights kvCache overhead vram pos nonneg
  rw [coarseOffloadHint] at some
  split at some
  · cases some
  · rename_i fixed
    dsimp only at some
    split at some
    · cases some
    · rename_i viable
      rw [not_or, not_le, fraction_lt_iff pos, not_lt] at viable
      split at some
      · rename_i fit
        cases some
        have fits : maxGpuWeightBytes weights kvCache overhead vram ∈ FittingShares weights kvCache overhead vram := by
          rcases answer with none | fits
          · rw [none] at viable
            omega
          · exact fits
        refine ⟨⟨⟨fits, above⟩, not_le.mp fixed, ?_, viable.2, fit.2⟩, ⟨rfl, rfl, ?_, rfl, rfl⟩⟩
        · change maxGpuWeightBytes weights kvCache overhead vram < weights
          omega
        · dsimp only
          omega
      · cases some

/-- Where the greatest fitting share leaves a rest that fits the host, the source offloads. -/
lemma hint_of_spills (pos : 0 < weights) (nonneg : 0 ≤ overhead)
    (spills : Spills weights kvCache overhead vram ram share) :
    (coarseOffloadHint weights kvCache overhead vram ram).isSome := by
  obtain ⟨answer, above⟩ := @maxGpuWeightBytes_spec weights kvCache overhead vram pos nonneg
  have least := above share spills.greatest.1
  have positive : 0 < share := by
    have worthwhile := spills.worthwhile
    omega
  have same : maxGpuWeightBytes weights kvCache overhead vram = share := by
    rcases answer with none | fits
    · omega
    · exact Int.le_antisymm (spills.greatest.2 fits) least
  have partly := spills.partly
  rw [coarseOffloadHint, same, if_neg (not_le.mpr spills.fixed)]
  dsimp only
  rw [if_neg]
  · rw [if_pos ⟨spills.greatest.1.2.2, spills.host⟩]
    rfl
  · rw [not_or, fraction_lt_iff pos]
    have worthwhile := spills.worthwhile
    exact ⟨by omega, by omega⟩

/-- A larger machine that does not hold all the weights on the card still offloads. -/
lemma Spills.mono (pos : 0 < weights) (nonneg : 0 ≤ overhead)
    (spills : Spills weights kvCache overhead vram ram share) (vramLe : vram ≤ vram') (ramLe : ram ≤ ram')
    (outside : ¬ withSafetyMargin (weights + kvCache + overhead + deviceReserveDefaultBytes) ≤ vram') :
    ∃ share', Spills weights kvCache overhead vram' ram' share' := by
  obtain ⟨⟨atLeast, atMost, fits⟩, _⟩ := spills.greatest
  have mem : share ∈ FittingShares weights kvCache overhead vram' := ⟨atLeast, atMost, fits.trans vramLe⟩
  obtain ⟨answer, above⟩ := @maxGpuWeightBytes_spec weights kvCache overhead vram' pos nonneg
  have grows := above share mem
  have worthwhile := spills.worthwhile
  have fits' : maxGpuWeightBytes weights kvCache overhead vram' ∈ FittingShares weights kvCache overhead vram' := by
    rcases answer with none | fits'
    · omega
    · exact fits'
  refine ⟨maxGpuWeightBytes weights kvCache overhead vram', ⟨fits', above⟩, ?_, ?_, by omega, ?_⟩
  · exact spills.fixed.trans_le vramLe
  · rcases fits'.2.1.lt_or_eq with lt | all
    · exact lt
    · have whole := fits'.2.2
      rw [all, gpuNeeds_whole pos nonneg] at whole
      exact absurd whole outside
  · exact (hostNeeds_anti pos nonneg grows).trans (spills.host.trans ramLe)

end Spilling

section Modes
variable {weights kvCache overhead ram ram' : ℤ} {vram vram' : Option ℤ}

/-- The mode of a candidate that no card holds. -/
def onHost (weights kvCache overhead ram : ℤ) : HardwareFitMode :=
  if withSafetyMargin (weights + kvCache + overhead) ≤ ram then .cpuRam else .tooLarge

/-- The mode of a candidate whose size the name tells, on a machine with so much usable memory. -/
def placedMode (weights kvCache overhead : ℤ) (vram : Option ℤ) (ram : ℤ) : HardwareFitMode :=
  match vram with
  | none => onHost weights kvCache overhead ram
  | some vram =>
    if withSafetyMargin (weights + kvCache + overhead + deviceReserveDefaultBytes) ≤ vram then .gpuResident
    else if (coarseOffloadHint weights kvCache overhead vram ram).isSome then .gpuOffload
    else onHost weights kvCache overhead ram

/-- More usable memory of a card, or a card where there was none. -/
def UsableLe (vram vram' : Option ℤ) : Prop :=
  ∀ bytes, vram = some bytes → ∃ bytes', vram' = some bytes' ∧ bytes ≤ bytes'

/-- More RAM does not worsen a placement on the host. -/
lemma onHost_mono (ramLe : ram ≤ ram') :
    Estimator.modeRank (onHost weights kvCache overhead ram) ≤
      Estimator.modeRank (onHost weights kvCache overhead ram') := by
  rw [onHost, onHost]
  by_cases fits : withSafetyMargin (weights + kvCache + overhead) ≤ ram
  · rw [if_pos fits, if_pos (fits.trans ramLe)]
  · rw [if_neg fits]
    exact Nat.zero_le _

/-- A card only helps. -/
lemma onHost_le_placedMode (ramLe : ram ≤ ram') :
    Estimator.modeRank (onHost weights kvCache overhead ram) ≤
      Estimator.modeRank (placedMode weights kvCache overhead vram' ram') := by
  have low : Estimator.modeRank (onHost weights kvCache overhead ram) ≤ 1 := by
    rw [onHost]
    split
    · exact Nat.le_refl 1
    · exact Nat.zero_le 1
  cases vram' with
  | none => exact onHost_mono ramLe
  | some vram' =>
    rw [placedMode]
    split
    · exact low.trans (Nat.le_add_left 1 2)
    · split
      · exact low.trans (Nat.le_add_left 1 1)
      · exact onHost_mono ramLe

/-- More memory, no worse a mode. -/
lemma placedMode_mono (pos : 0 < weights) (nonneg : 0 ≤ overhead) (vramLe : UsableLe vram vram')
    (ramLe : ram ≤ ram') :
    Estimator.modeRank (placedMode weights kvCache overhead vram ram) ≤
      Estimator.modeRank (placedMode weights kvCache overhead vram' ram') := by
  cases vram with
  | none => exact onHost_le_placedMode ramLe
  | some vram =>
    obtain ⟨bytes, rfl, le⟩ := vramLe vram rfl
    by_cases resident : withSafetyMargin (weights + kvCache + overhead + deviceReserveDefaultBytes) ≤ bytes
    · have best : placedMode weights kvCache overhead (some bytes) ram' = .gpuResident := by
        rw [placedMode]
        exact if_pos resident
      rw [best]
      cases placedMode weights kvCache overhead (some vram) ram <;> decide
    · have smaller : ¬ withSafetyMargin (weights + kvCache + overhead + deviceReserveDefaultBytes) ≤ vram :=
        fun fits => resident (fits.trans le)
      cases offload : coarseOffloadHint weights kvCache overhead vram ram with
      | none =>
        have host : placedMode weights kvCache overhead (some vram) ram = onHost weights kvCache overhead ram := by
          rw [placedMode, offload]
          exact if_neg smaller
        rw [host]
        exact onHost_le_placedMode ramLe
      | some hint =>
        obtain ⟨share, spills⟩ := (spills_of_hint pos nonneg offload).1.mono pos nonneg le ramLe resident
        have offloads := hint_of_spills pos nonneg spills
        have one : placedMode weights kvCache overhead (some vram) ram = .gpuOffload := by
          rw [placedMode, offload]
          exact if_neg smaller
        have two : placedMode weights kvCache overhead (some bytes) ram' = .gpuOffload := by
          rw [placedMode, if_neg resident, if_pos offloads]
        rw [one, two]

end Modes

section Machines
variable {hardware hardware' : HardwareProfile} {candidate : SearchCandidate}

/-- A device of the same kind and backends with no less memory of its own. -/
structure DeviceRaised (device device' : AcceleratorProfile) : Prop where
  type : device'.type = device.type
  sharedMemory : device'.sharedMemory = device.sharedMemory
  backends : device'.backends = device.backends
  dedicated : UsableLe device.dedicatedMemoryBytes device'.dedicatedMemoryBytes

/-- A machine of the same devices with no less memory. -/
structure Raised (hardware hardware' : HardwareProfile) : Prop where
  accelerators : List.Forall₂ DeviceRaised hardware.accelerators hardware'.accelerators
  gpus : List.Forall₂ (fun gpu gpu' => gpu.vramTotalBytes ≤ gpu'.vramTotalBytes) hardware.gpus hardware'.gpus
  ram : hardware.memory.totalBytes ≤ hardware'.memory.totalBytes

/-- Related lists have related members. -/
lemma exists_of_forall₂ {α β : Type} {R : α → β → Prop} {l : List α} {l' : List β} (all : List.Forall₂ R l l')
    {a : α} (mem : a ∈ l) : ∃ b ∈ l', R a b := by
  induction all with
  | nil => cases mem
  | cons related _ ih =>
    rcases List.mem_cons.mp mem with rfl | mem
    · exact ⟨_, List.mem_cons_self, related⟩
    · obtain ⟨b, memB, rel⟩ := ih mem
      exact ⟨b, List.mem_cons_of_mem _ memB, rel⟩

/-- Lists that agree member by member agree on whether there is one. -/
lemma any_eq_of_forall₂ {α β : Type} {p : α → Bool} {q : β → Bool} {l : List α} {l' : List β}
    (all : List.Forall₂ (fun a b => p a = q b) l l') : l.any p = l'.any q := by
  induction all with
  | nil => rfl
  | cons same _ ih => rw [List.any_cons, List.any_cons, same, ih]

/-- The greatest of a list is at least any member. -/
lemma exists_max_of_mem {l : List ℤ} {bytes : ℤ} (mem : bytes ∈ l) : ∃ most, l.max? = some most ∧ bytes ≤ most := by
  cases greatest : l.max? with
  | none =>
    rw [List.max?_eq_none_iff.mp greatest] at mem
    cases mem
  | some most => exact ⟨most, rfl, (List.max?_eq_some_iff.mp greatest).2 bytes mem⟩

/-- Memory that is usable stays usable. -/
lemma UsableLe.any_pos {bytes bytes' : Option ℤ} (le : UsableLe bytes bytes')
    (pos : bytes.any (fun n => decide (0 < n)) = true) : bytes'.any (fun n => decide (0 < n)) = true := by
  cases bytes with
  | none => cases pos
  | some n =>
    obtain ⟨n', rfl, grows⟩ := le n rfl
    exact decide_eq_true ((of_decide_eq_true pos).trans_le grows)

/-- A device with more memory owns it as before. -/
lemma DeviceRaised.ownsMemory {device device' : AcceleratorProfile} (raised : DeviceRaised device device') :
    device'.ownsMemory = device.ownsMemory := by
  rw [AcceleratorProfile.ownsMemory, AcceleratorProfile.ownsMemory, raised.type, raised.sharedMemory]

lemma Raised.accelerators_nil (raised : Raised hardware hardware') :
    hardware'.accelerators = [] ↔ hardware.accelerators = [] := by
  rw [← List.length_eq_zero_iff, ← List.length_eq_zero_iff, raised.accelerators.length_eq]

/-- Nor other backends. -/
lemma Raised.backendAvailable (raised : Raised hardware hardware') (backend : ComputeBackend) :
    backendAvailable hardware' backend = backendAvailable hardware backend := by
  have devices : (hardware'.accelerators.filter (·.type ≠ .software)).any (fun accelerator =>
      accelerator.backends.any fun item =>
        item.backend = backend && item.availability = .available && !item.softwareRenderer) =
      (hardware.accelerators.filter (·.type ≠ .software)).any (fun accelerator =>
      accelerator.backends.any fun item =>
        item.backend = backend && item.availability = .available && !item.softwareRenderer) := by
    rw [List.any_filter, List.any_filter]
    apply any_eq_of_forall₂
    refine (List.Forall₂.flip raised.accelerators).imp ?_
    intro device' device same
    rw [same.type, same.backends]
  have cards : hardware'.gpus.isEmpty = hardware.gpus.isEmpty := by
    rw [Bool.eq_iff_iff, List.isEmpty_iff, List.isEmpty_iff, ← List.length_eq_zero_iff, ← List.length_eq_zero_iff,
      raised.gpus.length_eq]
  have none : hardware'.accelerators.isEmpty = hardware.accelerators.isEmpty := by
    rw [Bool.eq_iff_iff, List.isEmpty_iff, List.isEmpty_iff, raised.accelerators_nil]
  rw [Domain.backendAvailable, Domain.backendAvailable, devices, cards, none]

/-- A card that was planned with is planned with. -/
lemma Raised.planning (raised : Raised hardware hardware') :
    UsableLe (planningVramBytes hardware) (planningVramBytes hardware') := by
  intro bytes planned
  obtain ⟨attained, -⟩ := List.max?_eq_some_iff.mp planned
  have larger : ∃ bytes' ∈ hardware'.gpus.map (·.vramTotalBytes) ++
      (hardware'.accelerators.filter (·.ownsMemory)).filterMap (·.dedicatedMemoryBytes), bytes ≤ bytes' := by
    rcases List.mem_append.mp attained with card | device
    · obtain ⟨gpu, mem, rfl⟩ := List.mem_map.mp card
      obtain ⟨gpu', mem', le⟩ := exists_of_forall₂ raised.gpus mem
      exact ⟨_, List.mem_append_left _ (List.mem_map_of_mem mem'), le⟩
    · obtain ⟨device, mem, dedicated⟩ := List.mem_filterMap.mp device
      obtain ⟨mem, owns⟩ := List.mem_filter.mp mem
      obtain ⟨device', mem', grown⟩ := exists_of_forall₂ raised.accelerators mem
      obtain ⟨bytes', dedicated', le⟩ := grown.dedicated bytes dedicated
      refine ⟨bytes', List.mem_append_right _ (List.mem_filterMap.mpr ⟨device', ?_, dedicated'⟩), le⟩
      exact List.mem_filter.mpr ⟨mem', grown.ownsMemory.trans owns⟩
  obtain ⟨bytes', mem', le⟩ := larger
  obtain ⟨most, planned', le'⟩ := exists_max_of_mem mem'
  exact ⟨most, planned', le.trans le'⟩

/-- Memory that is not unified does not become so. -/
lemma Raised.unified (raised : Raised hardware hardware') (separate : hasUnifiedMemory hardware = false) :
    hasUnifiedMemory hardware' = false := by
  have shared : hardware'.accelerators.any (·.sharedMemory) = hardware.accelerators.any (·.sharedMemory) := by
    apply any_eq_of_forall₂
    refine (List.Forall₂.flip raised.accelerators).imp ?_
    intro device' device same
    exact same.sharedMemory
  rw [hasUnifiedMemory, Bool.and_eq_false_iff] at separate ⊢
  rcases separate with planned | apart
  · left
    cases pool : planningVramBytes hardware with
    | none =>
      rw [pool] at planned
      cases planned
    | some bytes =>
      obtain ⟨bytes', planned', -⟩ := raised.planning bytes pool
      rw [planned']
      rfl
  · right
    rw [shared, apart]

/-- The backends that run a candidate on a card. -/
def cardBackends (candidate : SearchCandidate) : List ComputeBackend :=
  if isGgufCandidate candidate then [.cuda, .hip, .vulkan]
  else if quantizationHint candidate ∈ cudaOnlyQuantizations then [.cuda]
  else quantizedTransformersBackends

/-- A card with memory of its own and one of some backends. -/
def runsOn (supported : List ComputeBackend) (device : AcceleratorProfile) : Bool :=
  device.ownsMemory && device.dedicatedMemoryBytes.any (0 < ·) &&
    device.backends.any fun backend =>
      backend.backend ∈ supported && backend.availability = .available && !backend.softwareRenderer

/-- The memory of the devices that run a candidate. -/
lemma candidateVramBytes_eq (candidate : SearchCandidate) (hardware : HardwareProfile) :
    candidateVramBytes candidate hardware =
      ((hardware.accelerators.filter (runsOn (cardBackends candidate))).filterMap (·.dedicatedMemoryBytes) ++
        if hardware.accelerators = [] ∧ ComputeBackend.cuda ∈ cardBackends candidate then
          hardware.gpus.map (·.vramTotalBytes)
        else []).max? :=
  rfl

/-- A device with more memory runs what it ran. -/
lemma DeviceRaised.runsOn {device device' : AcceleratorProfile} (raised : DeviceRaised device device')
    {supported : List ComputeBackend} (runs : runsOn supported device = true) :
    runsOn supported device' = true := by
  rw [Discovery.runsOn, Bool.and_eq_true, Bool.and_eq_true] at runs ⊢
  rw [raised.ownsMemory, raised.backends]
  exact ⟨⟨runs.1.1, raised.dedicated.any_pos runs.1.2⟩, runs.2⟩

/-- A device whose memory a candidate can use still can be used. -/
lemma Raised.candidateVram (raised : Raised hardware hardware') (candidate : SearchCandidate) :
    UsableLe (candidateVramBytes candidate hardware) (candidateVramBytes candidate hardware') := by
  intro bytes usable
  rw [candidateVramBytes_eq] at usable ⊢
  obtain ⟨attained, -⟩ := List.max?_eq_some_iff.mp usable
  rcases List.mem_append.mp attained with device | card
  · obtain ⟨device, mem, dedicated⟩ := List.mem_filterMap.mp device
    obtain ⟨mem, runs⟩ := List.mem_filter.mp mem
    obtain ⟨device', mem', grown⟩ := exists_of_forall₂ raised.accelerators mem
    obtain ⟨bytes', dedicated', le⟩ := grown.dedicated bytes dedicated
    have there := List.mem_filterMap.mpr ⟨device', List.mem_filter.mpr ⟨mem', grown.runsOn runs⟩, dedicated'⟩
    obtain ⟨most, found, le'⟩ := exists_max_of_mem (List.mem_append_left _ there)
    exact ⟨most, found, le.trans le'⟩
  · split at card
    · rename_i legacy
      obtain ⟨gpu, mem, rfl⟩ := List.mem_map.mp card
      obtain ⟨gpu', mem', le⟩ := exists_of_forall₂ raised.gpus mem
      rw [if_pos ⟨raised.accelerators_nil.mpr legacy.1, legacy.2⟩]
      obtain ⟨most, found, le'⟩ := exists_max_of_mem (List.mem_append_right _ (List.mem_map_of_mem mem'))
      exact ⟨most, found, le.trans le'⟩
    · cases card

/-- The memory that the placement of a candidate reckons with. -/
def usableVram (candidate : SearchCandidate) (hardware : HardwareProfile) : Option ℤ :=
  if hasUnifiedMemory hardware then none else candidateVramBytes candidate hardware

/-- A machine with more memory has as much usable for a candidate. -/
lemma Raised.usableVram (raised : Raised hardware hardware') (candidate : SearchCandidate) :
    UsableLe (usableVram candidate hardware) (usableVram candidate hardware') := by
  intro bytes usable
  rw [Discovery.usableVram] at usable ⊢
  cases unified : hasUnifiedMemory hardware with
  | true =>
    rw [unified, if_pos rfl] at usable
    cases usable
  | false =>
    rw [unified, if_neg Bool.false_ne_true] at usable
    rw [raised.unified unified, if_neg Bool.false_ne_true]
    exact raised.candidateVram candidate bytes usable

end Machines

section Hints
variable {candidate : SearchCandidate} {requirements : SearchRequirements} {hardware hardware' : HardwareProfile}
  {billions : ℚ}

/-- The weights that the name of a candidate suggests. -/
def coarseWeights (candidate : SearchCandidate) (billions : ℚ) : ℤ :=
  max 1 ⌊billions * 10 ^ 9 * bytesPerParameterHint (quantizationHint candidate)⌋

lemma coarseWeights_pos : 0 < coarseWeights candidate billions :=
  Int.zero_lt_one.trans_le (le_max_left _ _)

lemma coarseOverheadBytes_nonneg (weights : ℤ) : 0 ≤ coarseOverheadBytes weights := by
  have base : (0 : ℤ) ≤ 256 * 1024 ^ 2 := by norm_num
  exact base.trans (le_max_left _ _)

/-- A candidate that only CUDA loads, on a machine without it. -/
abbrev CudaMissing (candidate : SearchCandidate) (hardware : HardwareProfile) : Prop :=
  quantizationHint candidate ∈ cudaOnlyQuantizations ∧ isGgufCandidate candidate = false ∧
    backendAvailable hardware .cuda = false

section Named
variable (candidate requirements hardware billions)

/-- What a candidate needs on the host and on a card, and what the machine offers it. -/
def coarseMode : HardwareFitMode :=
  placedMode (coarseWeights candidate billions) (coarseKvCacheBytes billions requirements)
    (coarseOverheadBytes (coarseWeights candidate billions)) (usableVram candidate hardware)
    hardware.memory.totalBytes

/-- An offload of the search, as the hint of a candidate. -/
def IsOffload (hint : CoarsePlacementHint) : Prop :=
  ∃ vram offload, usableVram candidate hardware = some vram ∧
    coarseOffloadHint (coarseWeights candidate billions) (coarseKvCacheBytes billions requirements)
      (coarseOverheadBytes (coarseWeights candidate billions)) vram hardware.memory.totalBytes = some offload ∧
    hint = { offload with quantizationHint := some (quantizationHint candidate) }

end Named

/-- The hint of a candidate whose size the name tells. -/
lemma coarsePlacementHint_named (named : parameterCountHint candidate.repoId = some billions) :
    (coarsePlacementHint candidate requirements hardware).mode =
        some (if CudaMissing candidate hardware then .tooLarge
          else coarseMode candidate requirements hardware billions) ∧
      ((coarsePlacementHint candidate requirements hardware).mode = some .gpuOffload →
        IsOffload candidate requirements hardware billions (coarsePlacementHint candidate requirements hardware)) := by
  rw [coarsePlacementHint, named]
  dsimp only
  by_cases missing : CudaMissing candidate hardware
  · rw [if_pos missing, if_pos missing]
    exact ⟨rfl, fun offload => by cases offload⟩
  · rw [if_neg missing, if_neg missing, coarseMode, IsOffload]
    rw [show (if hasUnifiedMemory hardware then none else candidateVramBytes candidate hardware) =
          usableVram candidate hardware from rfl,
        show max 1 ⌊billions * 10 ^ 9 * bytesPerParameterHint (quantizationHint candidate)⌋ =
          coarseWeights candidate billions from rfl]
    cases usable : usableVram candidate hardware with
    | none =>
      rw [placedMode, onHost]
      dsimp only
      split
      · exact ⟨rfl, fun offload => by cases offload⟩
      · exact ⟨rfl, fun offload => by cases offload⟩
    | some vram =>
      rw [placedMode, onHost]
      dsimp only
      split
      · exact ⟨rfl, fun offload => by cases offload⟩
      · cases found : coarseOffloadHint (coarseWeights candidate billions) (coarseKvCacheBytes billions requirements)
            (coarseOverheadBytes (coarseWeights candidate billions)) vram hardware.memory.totalBytes with
        | some offload =>
          have figures := (spills_of_hint coarseWeights_pos (coarseOverheadBytes_nonneg _) found).2
          exact ⟨figures.mode, fun _ => ⟨vram, offload, rfl, found, rfl⟩⟩
        | none =>
          dsimp only
          split
          · exact ⟨rfl, fun offload => by cases offload⟩
          · exact ⟨rfl, fun offload => by cases offload⟩

/-- A model without a size has no hint. -/
lemma coarsePlacementHint_unnamed (unnamed : parameterCountHint candidate.repoId = none) :
    (coarsePlacementHint candidate requirements hardware).mode = none := by
  rw [coarsePlacementHint, unnamed]

/-- An offload is sound: its share is the greatest that fits the card, the weights are split between the card
and the host, and the host holds its part. -/
def SoundOffload (candidate : SearchCandidate) (requirements : SearchRequirements) (hardware : HardwareProfile)
    (hint : CoarsePlacementHint) : Prop :=
  ∃ billions weights kvCache overhead vram,
    parameterCountHint candidate.repoId = some billions ∧ weights = coarseWeights candidate billions ∧
    kvCache = coarseKvCacheBytes billions requirements ∧ overhead = coarseOverheadBytes weights ∧
    usableVram candidate hardware = some vram ∧ hint.estimatedWeightBytes = some weights ∧
    IsGreatest (FittingShares weights kvCache overhead vram) hint.gpuWeightBytes ∧
    hint.gpuWeightBytes + hint.ramWeightBytes = weights ∧
    hint.gpuRequiredBytes = some (gpuNeeds weights kvCache overhead hint.gpuWeightBytes) ∧
    hint.ramRequiredBytes = some (hostNeeds weights overhead hint.gpuWeightBytes) ∧
    hostNeeds weights overhead hint.gpuWeightBytes ≤ hardware.memory.totalBytes

/-- The coarse hint never worsens as memory grows, and its offloads are sound. -/
structure GrowsWith (candidate : SearchCandidate) (requirements : SearchRequirements)
    (hardware hardware' : HardwareProfile) : Prop where
  named : (coarsePlacementHint candidate requirements hardware').mode = none ↔
    (coarsePlacementHint candidate requirements hardware).mode = none
  rank : ∀ mode mode', (coarsePlacementHint candidate requirements hardware).mode = some mode →
    (coarsePlacementHint candidate requirements hardware').mode = some mode' →
      Estimator.modeRank mode ≤ Estimator.modeRank mode'
  offload : (coarsePlacementHint candidate requirements hardware).mode = some .gpuOffload →
    SoundOffload candidate requirements hardware (coarsePlacementHint candidate requirements hardware)

/-- A hint to offload is sound. -/
lemma soundOffload (offload : (coarsePlacementHint candidate requirements hardware).mode = some .gpuOffload) :
    SoundOffload candidate requirements hardware (coarsePlacementHint candidate requirements hardware) := by
  cases named : parameterCountHint candidate.repoId with
  | none =>
    rw [coarsePlacementHint_unnamed named] at offload
    cases offload
  | some billions =>
    obtain ⟨vram, hint, usable, found, same⟩ := (coarsePlacementHint_named named).2 offload
    obtain ⟨spills, figures⟩ := spills_of_hint coarseWeights_pos (coarseOverheadBytes_nonneg _) found
    rw [same]
    exact ⟨billions, _, _, _, vram, named, rfl, rfl, rfl, usable, figures.weight, spills.greatest, figures.sum,
      figures.device, figures.host, spills.host⟩

/-- On a machine of the same devices with no less memory, a candidate is placed no worse. -/
theorem coarsePlacementHint_grows (raised : Raised hardware hardware') (candidate : SearchCandidate)
    (requirements : SearchRequirements) : GrowsWith candidate requirements hardware hardware' := by
  cases named : parameterCountHint candidate.repoId with
  | none =>
    have one := @coarsePlacementHint_unnamed candidate requirements hardware named
    have two := @coarsePlacementHint_unnamed candidate requirements hardware' named
    refine ⟨iff_of_true two one, ?_, soundOffload⟩
    intro mode mode' eq
    rw [one] at eq
    cases eq
  | some billions =>
    have one := (@coarsePlacementHint_named candidate requirements hardware billions named).1
    have two := (@coarsePlacementHint_named candidate requirements hardware' billions named).1
    refine ⟨?_, ?_, soundOffload⟩
    · rw [one, two]
      exact iff_of_false (Option.some_ne_none _) (Option.some_ne_none _)
    · intro mode mode' eq eq'
      rw [one, Option.some_inj] at eq
      rw [two, Option.some_inj] at eq'
      subst eq eq'
      have same : CudaMissing candidate hardware' ↔ CudaMissing candidate hardware := by
        rw [CudaMissing, CudaMissing, raised.backendAvailable]
      by_cases missing : CudaMissing candidate hardware
      · rw [if_pos missing]
        exact Nat.zero_le _
      · rw [if_neg missing, if_neg (same.not.mpr missing)]
        exact placedMode_mono coarseWeights_pos (coarseOverheadBytes_nonneg _) (raised.usableVram candidate) raised.ram

/-- A machine with one card. -/
def oneCard (vram ram : ℤ) : HardwareProfile where
  os := "linux"
  arch := "x86_64"
  cpu := { model := "cpu" }
  memory := { totalBytes := ram, availableBytes := ram }
  accelerators :=
    [{ name := "card"
       type := .dedicated
       dedicatedMemoryBytes := some vram
       backends := [{ backend := .vulkan, availability := .available }] }]

/-- A model of seven billion parameters. -/
def sevenBillion : SearchCandidate where
  repoId := "Org/Model-7B-GGUF"

/-- A request that leaves everything else open. -/
def plainRequirements : SearchRequirements where
  useCase := .generalChat
  priority := .balanced
  desiredContext := 4096

/-- With a card of twice the memory, a model that spilled to the host is held by the card. -/
theorem oneCard_grows :
    Raised (oneCard (4 * gib) (32 * gib)) (oneCard (8 * gib) (32 * gib)) ∧
      GrowsWith sevenBillion plainRequirements (oneCard (4 * gib) (32 * gib)) (oneCard (8 * gib) (32 * gib)) ∧
      (coarsePlacementHint sevenBillion plainRequirements (oneCard (4 * gib) (32 * gib))).mode = some .gpuOffload ∧
      (coarsePlacementHint sevenBillion plainRequirements (oneCard (8 * gib) (32 * gib))).mode = some .gpuResident := by
  have raised : Raised (oneCard (4 * gib) (32 * gib)) (oneCard (8 * gib) (32 * gib)) := by
    refine ⟨?_, .nil, Int.le_refl _⟩
    refine .cons ⟨rfl, rfl, rfl, ?_⟩ .nil
    intro bytes eq
    cases eq
    exact ⟨8 * gib, rfl, by decide⟩
  exact ⟨raised, coarsePlacementHint_grows raised _ _, by decide +kernel, by decide +kernel⟩

end Hints

end Jaull.Discovery
