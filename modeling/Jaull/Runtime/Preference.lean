import Jaull.Estimator.Conservation
import Jaull.Runtime.BackendSelection

/-!
# What the backend selection prefers

The head of the ranking of `Jaull.Runtime.BackendSelection` is an offered backend whose key is
least. Read off that fact: an integrated accelerator wins over a dedicated one exactly when its
backend stands earlier in its own vendor's policy, and the VRAM budget of
`availableAcceleratorMemoryBytes` belongs to the card with the most free memory, which need not be
the selected one. Where it is, what a placement needs on the GPU fits the selected card.
-/

namespace Jaull.Runtime
open Jaull.Domain Jaull.Estimator Jaull.Lib

/-- The accelerator a selection names, found again by its discovery index. -/
def selectedAccelerator (hardware : HardwareProfile) : Option AcceleratorProfile :=
  (rankedCandidates hardware).head?.bind fun selected =>
    hardware.accelerators[selected.discoveryIndex]?

/-- Some accelerator of kind `type` offers an admitted backend at position `rank` of its policy. -/
def Offers (hardware : HardwareProfile) (type : AcceleratorType) (rank : ℕ) : Prop :=
  ∃ accelerator ∈ hardware.accelerators, accelerator.type = type ∧
    ∃ backend ∈ admittedBackends accelerator,
      (backendPolicy accelerator.vendor).idxOf backend.backend = rank

/-- The selection names an accelerator of kind `type`. -/
def Selects (hardware : HardwareProfile) (type : AcceleratorType) : Prop :=
  ∃ accelerator, (selectRuntimeBackend hardware).selectedAccelerator = some accelerator ∧
    accelerator.type = type

/-- The legacy view repeats cards of the generic one (or is empty). -/
def GpusMirrored (hardware : HardwareProfile) : Prop :=
  ∀ gpu ∈ hardware.gpus, ∃ accelerator ∈ hardware.accelerators, accelerator.ownsMemory ∧
    accelerator.availableMemoryBytes = some gpu.vramAvailableBytes

section Ranking
variable {hardware : HardwareProfile} {item : RankedCandidate} {rest : List RankedCandidate}

/-- Every candidate is one admitted backend of one accelerator. -/
lemma mem_candidates :
    item ∈ candidates hardware ↔
      ∃ accelerator index, hardware.accelerators[index]? = some accelerator ∧
        ∃ backend ∈ admittedBackends accelerator,
          item = rankedCandidate accelerator index backend := by
  simp only [candidates, List.mem_flatMap, Prod.exists, List.mem_map,
    List.mk_mem_zipIdx_iff_getElem?]
  constructor
  · rintro ⟨accelerator, index, get, backend, mem, rfl⟩
    exact ⟨accelerator, index, get, backend, mem, rfl⟩
  · rintro ⟨accelerator, index, get, backend, mem, rfl⟩
    exact ⟨accelerator, index, get, backend, mem, rfl⟩

/-- An offer is a candidate carrying its policy position and its kind's rank. -/
lemma Offers.candidate {type rank} (off : Offers hardware type rank) :
    ∃ item ∈ candidates hardware, item.backendRank = rank ∧
      item.acceleratorRank = acceleratorRank type := by
  obtain ⟨accelerator, mem, rfl, backend, admitted, rfl⟩ := off
  obtain ⟨index, get⟩ := List.mem_iff_getElem?.mp mem
  exact ⟨rankedCandidate accelerator index backend,
    mem_candidates.mpr ⟨accelerator, index, get, backend, admitted, rfl⟩, rfl, rfl⟩

/-- The head of the ranking is an offer of the selected accelerator, and no candidate has a
smaller key. -/
lemma rankedCandidates_head (eq : rankedCandidates hardware = item :: rest) :
    (∃ accelerator, selectedAccelerator hardware = some accelerator ∧
      accelerator ∈ hardware.accelerators ∧
      ∃ backend ∈ admittedBackends accelerator,
        item = rankedCandidate accelerator item.discoveryIndex backend) ∧
    ∀ other ∈ candidates hardware, item.key ≤ other.key := by
  have mem : item ∈ candidates hardware := by
    have : item ∈ rankedCandidates hardware := by rw [eq]; exact List.mem_cons_self
    exact mem_sortedBy.mp this
  obtain ⟨accelerator, index, get, backend, admitted, rfl⟩ := mem_candidates.mp mem
  refine ⟨⟨accelerator, ?_, List.mem_of_getElem? get, backend, admitted, rfl⟩,
    sortedBy_head_le eq⟩
  rw [selectedAccelerator, eq]
  exact get

/-- The selection keeps a reference to the selected accelerator. -/
lemma selectRuntimeBackend_selectedAccelerator :
    (selectRuntimeBackend hardware).selectedAccelerator =
      (selectedAccelerator hardware).map acceleratorRef := by
  cases eq : rankedCandidates hardware with
  | nil => simp [selectRuntimeBackend, selectedAccelerator, eq]
  | cons item rest =>
    obtain ⟨⟨accelerator, sel, _, backend, _, eqItem⟩, _⟩ := rankedCandidates_head eq
    rw [sel]
    simp only [selectRuntimeBackend, eq]
    rw [eqItem]
    rfl

/-- What is selected, in terms of the accelerator itself. -/
lemma selects_iff {type} :
    Selects hardware type ↔
      ∃ accelerator, selectedAccelerator hardware = some accelerator ∧ accelerator.type = type := by
  simp only [Selects, selectRuntimeBackend_selectedAccelerator, Option.map_eq_some_iff]
  constructor
  · rintro ⟨_, ⟨accelerator, sel, rfl⟩, eqType⟩
    exact ⟨accelerator, sel, eqType⟩
  · rintro ⟨accelerator, sel, eqType⟩
    exact ⟨_, ⟨accelerator, sel, rfl⟩, eqType⟩

/-- Keys compare the policy position first and the kind of accelerator second. -/
lemma RankedCandidate.ranks_of_key_le {other : RankedCandidate} (le : item.key ≤ other.key) :
    item.backendRank < other.backendRank ∨
      item.backendRank = other.backendRank ∧ item.acceleratorRank ≤ other.acceleratorRank := by
  simp only [RankedCandidate.key, Prod.Lex.toLex_le_toLex] at le
  rcases le with lt | ⟨eqBackend, lt | ⟨eqAccelerator, _⟩⟩
  · exact .inl lt
  · exact .inr ⟨eqBackend, lt.le⟩
  · exact .inr ⟨eqBackend, eqAccelerator.le⟩

/-- The selected accelerator offers a backend that no offer of the machine beats. -/
lemma selectedAccelerator_best {accelerator}
    (sel : selectedAccelerator hardware = some accelerator) :
    ∃ rank, Offers hardware accelerator.type rank ∧
      ∀ type other, Offers hardware type other →
        rank < other ∨ rank = other ∧ acceleratorRank accelerator.type ≤ acceleratorRank type := by
  cases eq : rankedCandidates hardware with
  | nil => simp [selectedAccelerator, eq] at sel
  | cons item rest =>
    obtain ⟨⟨accelerator', sel', mem, backend, admitted, eqItem⟩, least⟩ := rankedCandidates_head eq
    obtain rfl : accelerator' = accelerator := Option.some.inj (sel'.symm.trans sel)
    refine ⟨item.backendRank, ⟨accelerator', mem, rfl, backend, admitted, ?_⟩, ?_⟩
    · rw [eqItem]
      rfl
    · intro type other off
      obtain ⟨candidate, memCandidate, rfl, rankEq⟩ := off.candidate
      have eqRank : item.acceleratorRank = acceleratorRank accelerator'.type := by
        rw [eqItem]
        rfl
      rw [← eqRank, ← rankEq]
      exact RankedCandidate.ranks_of_key_le (least candidate memCandidate)

/-- A machine with an offer selects some accelerator. -/
lemma Offers.selected {type rank} (off : Offers hardware type rank) :
    ∃ accelerator, selectedAccelerator hardware = some accelerator := by
  obtain ⟨candidate, mem, _⟩ := off.candidate
  cases eq : rankedCandidates hardware with
  | nil =>
    have empty : candidates hardware = [] := sortedBy_eq_nil.mp eq
    rw [empty] at mem
    cases mem
  | cons item rest =>
    obtain ⟨⟨accelerator, sel, _⟩, _⟩ := rankedCandidates_head eq
    exact ⟨accelerator, sel⟩

/-- Software renderers offer nothing. -/
lemma not_offers_software {rank} : ¬ Offers hardware .software rank := by
  rintro ⟨accelerator, _, isSoftware, backend, admitted, _⟩
  simp [admittedBackends, isSoftware] at admitted

end Ranking

/-- An integrated accelerator is kept from winning over the dedicated ones exactly when each of its
offers is matched: by a dedicated offer standing no later in its policy, or by an offer of an
accelerator of unknown kind standing earlier. -/
theorem not_selects_integrated_iff (hardware : HardwareProfile) :
    ((∃ rank, Offers hardware .dedicated rank) → ¬ Selects hardware .integrated) ↔
      ((∃ rank, Offers hardware .dedicated rank) →
        ∀ rank, Offers hardware .integrated rank →
          (∃ other ≤ rank, Offers hardware .dedicated other) ∨
            ∃ other < rank, Offers hardware .unknown other) := by
  refine imp_congr_right fun ⟨start, dedicated⟩ => ?_
  obtain ⟨accelerator, sel⟩ := dedicated.selected
  obtain ⟨best, offBest, least⟩ := selectedAccelerator_best sel
  have selects : Selects hardware .integrated ↔ accelerator.type = .integrated := by
    rw [selects_iff]
    simp [sel]
  rw [selects]
  constructor
  · intro notIntegrated rank integrated
    -- the winner beats this offer, and its kind says which side of the disjunction holds
    have beats := least _ _ integrated
    cases kind : accelerator.type with
    | integrated => exact absurd kind notIntegrated
    | software => exact absurd (kind ▸ offBest) not_offers_software
    | dedicated =>
      rw [kind] at offBest
      exact .inl ⟨best, by omega, offBest⟩
    | unknown =>
      rw [kind] at offBest beats
      refine .inr ⟨best, ?_, offBest⟩
      simp only [acceleratorRank] at beats
      omega
  · intro matched isIntegrated
    rw [isIntegrated] at offBest least
    rcases matched best offBest with ⟨other, le, off⟩ | ⟨other, lt, off⟩
    · have beats := least _ _ off
      simp only [acceleratorRank] at beats
      omega
    · have beats := least _ _ off
      omega

/-- An Intel iGPU with Vulkan beside an NVIDIA card whose CUDA probe failed but Vulkan works. -/
def vulkanOnlyLaptop : HardwareProfile where
  os := "Linux"
  arch := "x86_64"
  cpu := {}
  memory := { totalBytes := 34359738368, availableBytes := 30064771072 }
  accelerators := [
    { name := "NVIDIA GeForce RTX 4060"
      vendor := .nvidia
      type := .dedicated
      dedicatedMemoryBytes := some 8589934592
      availableMemoryBytes := some 8053063680
      backends := [
        { backend := .cuda, availability := .unavailable, reason := some .probeFailed },
        { backend := .vulkan, availability := .available }] },
    { name := "Intel(R) UHD Graphics"
      vendor := .intel
      type := .integrated
      sharedMemory := true
      backends := [{ backend := .vulkan, availability := .available }] }]

/-- The laptop has a dedicated offer and still runs on its iGPU. -/
theorem vulkanOnlyLaptop_selects_integrated :
    ¬ ∀ hardware : HardwareProfile,
      (∃ rank, Offers hardware .dedicated rank) → ¬ Selects hardware .integrated := by
  intro prefersDedicated
  refine prefersDedicated vulkanOnlyLaptop ⟨1, ?_⟩ ⟨_, rfl, rfl⟩
  exact ⟨_, List.mem_cons_self, rfl, { backend := .vulkan, availability := .available },
    by decide, rfl⟩

section Budget
variable {hardware : HardwareProfile} {selected : AcceleratorProfile} {available : ℤ}

/-- The budget is what one memory-owning card has available. -/
lemma GpusMirrored.card_of_budget {budget : ℤ} (mirrored : GpusMirrored hardware)
    (eq : availableAcceleratorMemoryBytes hardware = some budget) :
    ∃ card ∈ hardware.accelerators, card.ownsMemory ∧ card.availableMemoryBytes = some budget := by
  obtain ⟨attained, _, _⟩ := availableAcceleratorMemoryBytes_eq_some_iff.mp eq
  -- a mirrored GPU repeats a card, so some card attains the budget in either case
  rcases attained with ⟨gpu, memGpu, rfl⟩ | card
  · exact mirrored gpu memGpu
  · exact card

/-- Where no memory-owning card has more than `available` (the selected card's, when no other has
more), what a placement needs on the GPU fits it. -/
theorem gpuRequired_le_selected {c : MemoryComponents} {totalTransformerBlocks totalLayers : Option ℤ}
    {weightDecomposition : Option TransformerBlockWeightDecomposition} {result : HardwareFitResult}
    (nonneg : c.Nonneg) (mirrored : GpusMirrored hardware)
    (greatest : ∀ card ∈ hardware.accelerators, card.ownsMemory →
      ∀ bytes, card.availableMemoryBytes = some bytes → bytes ≤ available)
    (eq : analyzeComponents c hardware totalTransformerBlocks totalLayers weightDecomposition =
      .ok result)
    (onGpu : result.mode = .gpuResident ∨ result.mode = .gpuOffload) :
    ∃ required, result.gpuRequiredBytes = some required ∧ required ≤ available := by
  obtain ⟨budget, required, known, eqRequired, le⟩ :=
    analyzeComponents_gpuRequired nonneg eq onGpu
  obtain ⟨card, mem, owns, bytes⟩ := mirrored.card_of_budget known
  exact ⟨required, eqRequired, le.trans (greatest card mem owns budget bytes)⟩

/-- The budget every automatic fit is checked against is the largest availability of one
memory-owning card: at least the selected card's, and no more than it exactly when no other such
card has more available. -/
theorem budget_of_selected
    (mirrored : GpusMirrored hardware)
    (sel : selectedAccelerator hardware = some selected)
    (owns : selected.ownsMemory)
    (known : selected.availableMemoryBytes = some available) :
    ∃ budget, availableAcceleratorMemoryBytes hardware = some budget ∧
      available ≤ budget ∧
      (∃ card ∈ hardware.accelerators, card.ownsMemory ∧
        card.availableMemoryBytes = some budget) ∧
      (∀ card ∈ hardware.accelerators, card.ownsMemory →
        ∀ bytes, card.availableMemoryBytes = some bytes → bytes ≤ budget) ∧
      (budget ≤ available ↔ ∀ card ∈ hardware.accelerators, card.ownsMemory →
        ∀ bytes, card.availableMemoryBytes = some bytes → bytes ≤ available) := by
  have mem : selected ∈ hardware.accelerators := by
    simp only [selectedAccelerator, Option.bind_eq_some_iff] at sel
    obtain ⟨item, _, get⟩ := sel
    exact List.mem_of_getElem? get
  have bounded : availableAcceleratorMemoryBytes hardware ≠ none := by
    intro none
    rw [availableAcceleratorMemoryBytes, List.max?_eq_none_iff, List.append_eq_nil_iff] at none
    have inPool : available ∈
        (hardware.accelerators.filter (·.ownsMemory)).filterMap (·.availableMemoryBytes) :=
      List.mem_filterMap.mpr ⟨selected, List.mem_filter.mpr ⟨mem, owns⟩, known⟩
    rw [none.2] at inPool
    cases inPool
  obtain ⟨budget, eq⟩ := Option.ne_none_iff_exists'.mp bounded
  obtain ⟨_, _, bound⟩ := availableAcceleratorMemoryBytes_eq_some_iff.mp eq
  have card := mirrored.card_of_budget eq
  refine ⟨budget, eq, bound selected mem owns available known, card, bound, ?_⟩
  constructor
  · intro le card memCard ownsCard bytes eqBytes
    exact (bound card memCard ownsCard bytes eqBytes).trans le
  · intro noMore
    obtain ⟨card, memCard, ownsCard, eqBytes⟩ := card
    exact noMore card memCard ownsCard budget eqBytes

end Budget

/-- Two CUDA cards: the larger one is selected although almost all of its memory is in use. -/
def twoCards : HardwareProfile where
  os := "Linux"
  arch := "x86_64"
  cpu := {}
  memory := { totalBytes := 34359738368, availableBytes := 30064771072 }
  accelerators := [
    { name := "NVIDIA RTX 3090"
      vendor := .nvidia
      type := .dedicated
      dedicatedMemoryBytes := some 25769803776
      availableMemoryBytes := some 1073741824
      backends := [{ backend := .cuda, availability := .available }] },
    { name := "NVIDIA RTX 4060"
      vendor := .nvidia
      type := .dedicated
      dedicatedMemoryBytes := some 8589934592
      availableMemoryBytes := some 8053063680
      backends := [{ backend := .cuda, availability := .available }] }]

/-- The card `twoCards` selects. -/
def twoCardsSelected : AcceleratorProfile :=
  { name := "NVIDIA RTX 3090"
    vendor := .nvidia
    type := .dedicated
    dedicatedMemoryBytes := some 25769803776
    availableMemoryBytes := some 1073741824
    backends := [{ backend := .cuda, availability := .available }] }

/-- There the budget is the other card's 7.5 GiB, above the 1 GiB free on the selected one. -/
theorem twoCards_budget_exceeds_selected :
    ¬ ∀ (hardware : HardwareProfile) (selected : AcceleratorProfile) (available budget : ℤ),
      GpusMirrored hardware → selectedAccelerator hardware = some selected →
      selected.ownsMemory → selected.availableMemoryBytes = some available →
      availableAcceleratorMemoryBytes hardware = some budget → budget ≤ available := by
  intro within
  have le := within twoCards twoCardsSelected 1073741824 8053063680
    (by intro gpu mem; cases mem) rfl (by decide) rfl (by decide)
  omega

/-- `budget_of_selected` on the two cards. -/
theorem budget_of_selected_twoCards :
    ∃ budget, availableAcceleratorMemoryBytes twoCards = some budget ∧
      1073741824 ≤ budget ∧
      (∃ card ∈ twoCards.accelerators, card.ownsMemory ∧
        card.availableMemoryBytes = some budget) ∧
      (∀ card ∈ twoCards.accelerators, card.ownsMemory →
        ∀ bytes, card.availableMemoryBytes = some bytes → bytes ≤ budget) ∧
      (budget ≤ 1073741824 ↔ ∀ card ∈ twoCards.accelerators, card.ownsMemory →
        ∀ bytes, card.availableMemoryBytes = some bytes → bytes ≤ 1073741824) :=
  @budget_of_selected twoCards twoCardsSelected 1073741824 (by intro gpu mem; cases mem) rfl
    (by decide) rfl

end Jaull.Runtime
