import Jaull.Domain.ExecutionPlans
import Jaull.Domain.RuntimeSupport
import Jaull.Runtime.BackendSelection

/-!
# The device of an evaluation

Port of `jaull/runtime/quality_execution.py`: an evaluation is placed by what the machine has, whatever the plan it is
about would run on, and its memory is checked against the selected device alone.
-/

namespace Jaull.Runtime
open Jaull.Domain Jaull.Lib

section Model

/-- The preferred backend of an evaluation; an old snapshot that knows one NVML card has that card. -/
def evaluationPreference (hardware : HardwareProfile) : RuntimeBackendSelection :=
  match hardware.accelerators, hardware.gpus with
  | [], [gpu] =>
    { selectedBackend := .cuda
      selectedAccelerator := some
        { name := gpu.name
          vendor := .nvidia
          type := .dedicated
          dedicatedMemoryBytes := some gpu.vramTotalBytes }
      reason := .nativeBackendAvailable }
  | _, _ => selectRuntimeBackend hardware

/-- The backend that is asked for, or the preferred one if an evaluation can use it. -/
def evaluationBackend (preference : RuntimeBackendSelection) : Option ComputeBackend → ComputeBackend
  | some backend => backend
  | none =>
    if preference.selectedBackend ∈ [ComputeBackend.cuda, .vulkan] then preference.selectedBackend else .cpu

/-- Python `quality_backend_selection`. -/
def qualityBackendSelection (hardware : HardwareProfile) (requested : Option ComputeBackend) :
    Except String RuntimeBackendSelection :=
  let selected := evaluationPreference hardware
  let backend := evaluationBackend selected requested
  if backend ∉ [ComputeBackend.cpu, .cuda, .vulkan] then
    .error "Quality evaluation supports CPU, CUDA or Vulkan, not this backend."
  else if !backendAvailable hardware backend then
    .error ("Selected evaluation backend " ++ backend.value ++ " is not available; no fallback.")
  else if backend = .cpu then .ok { selectedBackend := .cpu, reason := .cpuFallback }
  else if selected.selectedBackend = backend then .ok selected
  else
    match selected.alternatives.find? (·.backend = backend) with
    | none => .error "Selected evaluation GPU is not identified; no fallback."
    | some alternative =>
      .ok
        { selectedBackend := backend
          selectedAccelerator := alternative.accelerator
          backendInfo := alternative.backendInfo
          reason := alternative.reason }

/-- Whether an identifier of the selected device, if it has one, is that of the accelerator. -/
def sameWhenKnown (selected own : Option String) : Bool :=
  (truthy selected).isNone || own = selected

/-- Whether an accelerator may be the selected one. -/
def isSelected (selected : SelectedAcceleratorRef) (item : AcceleratorProfile) : Bool :=
  item.name = selected.name && sameWhenKnown selected.uuid item.uuid &&
    sameWhenKnown selected.pciBusId item.pciBusId

/-- Python `quality_memory_hardware`. -/
def qualityMemoryHardware (hardware : HardwareProfile) (selection : RuntimeBackendSelection) :
    Except String HardwareProfile :=
  if selection.selectedBackend = .cpu then .ok hardware
  else
    match selection.selectedAccelerator with
    | none => .error "Evaluation accelerator identity is missing."
    | some selected =>
      let accelerators := hardware.accelerators.filter (isSelected selected)
      let gpus := hardware.gpus.filter (·.name = selected.name)
      if accelerators.length > 1 || gpus.length > 1 then .error "Evaluation memory device is ambiguous."
      else .ok { hardware with accelerators := accelerators, gpus := gpus }

end Model

section Candidates
variable {hardware : HardwareProfile} {item : RankedCandidate} {candidate : RuntimeBackendCandidate}

/-- A candidate offers a backend of an accelerator that was probed. -/
structure OfferedBy (hardware : HardwareProfile) (candidate : RuntimeBackendCandidate)
    (accelerator : AcceleratorProfile) : Prop where
  mem : accelerator ∈ hardware.accelerators
  hard : accelerator.type ≠ .software
  ref : candidate.accelerator = some (acceleratorRef accelerator)
  info : ∃ info ∈ accelerator.backends, info.backend = candidate.backend ∧ info.availability = .available ∧
    candidate.backendInfo = some info
  policy : candidate.backend ∈ backendPolicy accelerator.vendor

/-- Every candidate is offered by an accelerator. -/
lemma offered_of_mem_candidates (mem : item ∈ candidates hardware) :
    ∃ accelerator, OfferedBy hardware item.candidate accelerator := by
  obtain ⟨⟨accelerator, index⟩, among, ranked⟩ := List.mem_flatMap.mp mem
  obtain ⟨backend, admitted, rfl⟩ := List.mem_map.mp ranked
  rw [admittedBackends] at admitted
  by_cases soft : accelerator.type = .software
  · rw [if_pos soft] at admitted
    cases admitted
  · rw [if_neg soft] at admitted
    obtain ⟨available, policy⟩ := List.mem_filter.mp admitted
    obtain ⟨listed, state⟩ := List.mem_filter.mp available
    exact ⟨accelerator,
      { mem := List.fst_mem_of_mem_zipIdx among
        hard := soft
        ref := rfl
        info := ⟨backend, listed, rfl, of_decide_eq_true state, rfl⟩
        policy := of_decide_eq_true policy }⟩

/-- So is every ranked one. -/
lemma offered_of_mem_ranked (mem : item ∈ rankedCandidates hardware) :
    ∃ accelerator, OfferedBy hardware item.candidate accelerator :=
  offered_of_mem_candidates ((sortedBy_perm _ _).mem_iff.mp mem)

/-- The candidate that a selection is. -/
def selectedCandidate (selection : RuntimeBackendSelection) : RuntimeBackendCandidate where
  backend := selection.selectedBackend
  accelerator := selection.selectedAccelerator
  backendInfo := selection.backendInfo
  reason := selection.reason

/-- What is selected, or stands behind it, is the CPU or offered by an accelerator. -/
lemma offered_of_selectRuntimeBackend
    (mem : candidate = selectedCandidate (selectRuntimeBackend hardware) ∨
      candidate ∈ (selectRuntimeBackend hardware).alternatives) (gpu : candidate.backend ≠ .cpu) :
    ∃ accelerator, OfferedBy hardware candidate accelerator := by
  rw [selectRuntimeBackend] at mem
  cases ranked : rankedCandidates hardware with
  | nil =>
    rw [ranked] at mem
    rcases mem with rfl | none
    · exact absurd rfl gpu
    · cases none
  | cons selected rest =>
    rw [ranked] at mem
    rcases mem with rfl | behind
    · have first : selected ∈ rankedCandidates hardware := by
        rw [ranked]
        exact List.mem_cons_self
      exact offered_of_mem_ranked first
    · rcases List.mem_append.mp behind with other | last
      · obtain ⟨item, among, rfl⟩ := List.mem_map.mp other
        exact offered_of_mem_ranked (by rw [ranked]; exact List.mem_cons_of_mem _ among)
      · rw [List.mem_singleton.mp last] at gpu
        exact absurd rfl gpu

end Candidates

section Place
variable {hardware memory : HardwareProfile} {requested : Option ComputeBackend} {selection : RuntimeBackendSelection}
variable {accelerator : AcceleratorProfile}

/-- The one device an evaluation is checked against: the accelerator that was selected, or the card of an old
snapshot. -/
inductive EvaluationDevice (hardware memory : HardwareProfile) (selection : RuntimeBackendSelection) : Prop
  | probed (accelerator : AcceleratorProfile)
    (offered : OfferedBy hardware (selectedCandidate selection) accelerator)
    (alone : memory.accelerators = [accelerator])
    (cards : memory.gpus = hardware.gpus.filter (·.name = accelerator.name))
    (card : memory.gpus.length ≤ 1)
  | card (gpu : GpuInfo) (unprobed : hardware.accelerators = []) (alone : hardware.gpus = [gpu])
    (whole : memory = hardware)

/-- The preference is the ranking, but for an old snapshot with one card. -/
lemma evaluationPreference_cases (hardware : HardwareProfile) :
    evaluationPreference hardware = selectRuntimeBackend hardware ∨
      ∃ gpu, hardware.accelerators = [] ∧ hardware.gpus = [gpu] ∧
        (evaluationPreference hardware).selectedAccelerator.map (·.name) = some gpu.name ∧
        (evaluationPreference hardware).alternatives = [] := by
  rw [evaluationPreference]
  cases accelerators : hardware.accelerators with
  | cons _ _ => exact .inl rfl
  | nil =>
    cases gpus : hardware.gpus with
    | nil => exact .inl rfl
    | cons gpu rest =>
      cases rest with
      | nil => exact .inr ⟨gpu, rfl, rfl, rfl, rfl⟩
      | cons _ _ => exact .inl rfl

/-- A selection is for the backend that is wanted, which is available, and is the CPU, the preference or one behind
it. -/
lemma qualityBackendSelection_ok (selected : qualityBackendSelection hardware requested = .ok selection) :
    selection.selectedBackend = evaluationBackend (evaluationPreference hardware) requested ∧
      backendAvailable hardware selection.selectedBackend = true ∧
      (selection.selectedBackend = .cpu ∨ selection = evaluationPreference hardware ∨
        selectedCandidate selection ∈ (evaluationPreference hardware).alternatives) := by
  rw [qualityBackendSelection] at selected
  split_ifs at selected with unknown missing cpu preferred
  · cases selected
    have available :
        backendAvailable hardware (evaluationBackend (evaluationPreference hardware) requested) = true := by
      simpa using missing
    rw [cpu] at available
    exact ⟨cpu.symm, available, .inl rfl⟩
  · cases selected
    have available :
        backendAvailable hardware (evaluationBackend (evaluationPreference hardware) requested) = true := by
      simpa using missing
    rw [← preferred] at available
    exact ⟨preferred, available, .inr (.inl rfl)⟩
  · have available :
        backendAvailable hardware (evaluationBackend (evaluationPreference hardware) requested) = true := by
      simpa using missing
    cases found : (evaluationPreference hardware).alternatives.find?
        (·.backend = evaluationBackend (evaluationPreference hardware) requested) with
    | none =>
      rw [found] at selected
      cases selected
    | some alternative =>
      rw [found] at selected
      cases selected
      have own : alternative.backend = evaluationBackend (evaluationPreference hardware) requested := by
        have matched := List.find?_some found
        exact of_decide_eq_true matched
      refine ⟨rfl, available, .inr (.inr ?_)⟩
      rw [selectedCandidate]
      dsimp only
      rw [← own]
      exact List.mem_of_find?_eq_some found

lemma isSelected_self (accelerator : AcceleratorProfile) :
    isSelected (acceleratorRef accelerator) accelerator = true := by
  simp [isSelected, sameWhenKnown, acceleratorRef]

/-- Keeping only what may be the selected device leaves it alone, or the device is ambiguous. -/
lemma device_of_probed (gpu : selection.selectedBackend ≠ .cpu)
    (offered : OfferedBy hardware (selectedCandidate selection) accelerator)
    (kept : qualityMemoryHardware hardware selection = .ok memory) :
    EvaluationDevice hardware memory selection := by
  have ref : selection.selectedAccelerator = some (acceleratorRef accelerator) := offered.ref
  rw [qualityMemoryHardware, if_neg gpu, ref] at kept
  dsimp only at kept
  split_ifs at kept with ambiguous
  cases kept
  rw [Bool.or_eq_true, decide_eq_true_eq, decide_eq_true_eq, not_or, not_lt, not_lt] at ambiguous
  refine .probed accelerator offered ?_ rfl ambiguous.2
  have among : accelerator ∈ hardware.accelerators.filter (isSelected (acceleratorRef accelerator)) :=
    List.mem_filter.mpr ⟨offered.mem, isSelected_self accelerator⟩
  have one : (hardware.accelerators.filter (isSelected (acceleratorRef accelerator))).length = 1 :=
    Nat.le_antisymm ambiguous.1 (List.length_pos_of_mem among)
  obtain ⟨only, eq⟩ := List.length_eq_one_iff.mp one
  dsimp only
  rw [eq] at among ⊢
  rw [List.mem_singleton.mp among]

/-- Keeping only the card of an old snapshot keeps everything. -/
lemma device_of_card {gpu : GpuInfo} (unprobed : hardware.accelerators = []) (alone : hardware.gpus = [gpu])
    (named : selection.selectedAccelerator.map (·.name) = some gpu.name) (gpu' : selection.selectedBackend ≠ .cpu)
    (kept : qualityMemoryHardware hardware selection = .ok memory) :
    EvaluationDevice hardware memory selection := by
  refine .card gpu unprobed alone ?_
  obtain ⟨selected, ref, name⟩ := Option.map_eq_some_iff.mp named
  rw [qualityMemoryHardware, if_neg gpu', ref] at kept
  dsimp only at kept
  split_ifs at kept
  cases kept
  have cards : hardware.gpus.filter (·.name = selected.name) = hardware.gpus := by
    rw [alone]
    exact List.filter_cons_of_pos (decide_eq_true name.symm)
  rw [cards, unprobed, List.filter_nil]
  cases hardware
  cases unprobed
  rfl

/-- An evaluation is placed on the backend that was asked for or not at all, and that backend is one the machine was
seen to have. On a GPU its memory is checked against one device, the one that was selected, whatever other devices
there are; everything else about the machine is left as it is. -/
theorem evaluation_place (hardware : HardwareProfile) (requested : Option ComputeBackend)
    (selection : RuntimeBackendSelection) (selected : qualityBackendSelection hardware requested = .ok selection) :
    (∀ backend, requested = some backend → selection.selectedBackend = backend) ∧
      backendAvailable hardware selection.selectedBackend = true ∧
      ∀ memory, qualityMemoryHardware hardware selection = .ok memory →
        memory = { hardware with accelerators := memory.accelerators, gpus := memory.gpus } ∧
        (selection.selectedBackend = .cpu ∧ memory = hardware ∨
          selection.selectedBackend ≠ .cpu ∧ EvaluationDevice hardware memory selection) := by
  obtain ⟨wanted, available, place⟩ := qualityBackendSelection_ok selected
  refine ⟨?_, available, ?_⟩
  · intro backend asked
    rw [wanted, asked]
    rfl
  · intro memory kept
    by_cases cpu : selection.selectedBackend = .cpu
    · rw [qualityMemoryHardware, if_pos cpu] at kept
      cases kept
      exact ⟨rfl, .inl ⟨cpu, rfl⟩⟩
    · have device : EvaluationDevice hardware memory selection := by
        -- the device was offered by the ranking, or is the one card that no probe has seen
        rcases evaluationPreference_cases hardware with ranked | ⟨gpu, unprobed, alone, named, none⟩
        · rw [ranked] at place
          rcases place with wrong | rfl | behind
          · exact absurd wrong cpu
          · obtain ⟨accelerator, offered⟩ := offered_of_selectRuntimeBackend (.inl rfl) cpu
            exact device_of_probed cpu offered kept
          · obtain ⟨accelerator, offered⟩ := offered_of_selectRuntimeBackend (.inr behind) cpu
            exact device_of_probed cpu offered kept
        · rcases place with wrong | rfl | behind
          · exact absurd wrong cpu
          · exact device_of_card unprobed alone named cpu kept
          · rw [none] at behind
            cases behind
      refine ⟨?_, .inr ⟨cpu, device⟩⟩
      rw [qualityMemoryHardware, if_neg cpu] at kept
      cases ref : selection.selectedAccelerator with
      | none =>
        rw [ref] at kept
        cases kept
      | some chosen =>
        rw [ref] at kept
        dsimp only at kept
        split_ifs at kept
        cases kept
        rfl

/-- A card that runs CUDA. -/
def cudaCard : AcceleratorProfile where
  name := "card"
  vendor := .nvidia
  type := .dedicated
  backends := [{ backend := .cuda, availability := .available }]

/-- A machine with the card and a software renderer. -/
def renderingMachine : HardwareProfile where
  os := "linux"
  arch := "x86_64"
  cpu := {}
  memory := { totalBytes := 8, availableBytes := 4 }
  accelerators :=
    [cudaCard,
      { name := "llvmpipe"
        type := .software
        backends := [{ backend := .vulkan, availability := .available, softwareRenderer := true }] }]

/-- A machine with a CUDA card beside the one it renders with. -/
theorem evaluation_place_renderingMachine :
    backendAvailable renderingMachine .cuda = true ∧
      EvaluationDevice renderingMachine { renderingMachine with accelerators := [cudaCard] }
        (selectRuntimeBackend renderingMachine) := by
  have selected : qualityBackendSelection renderingMachine none = .ok (selectRuntimeBackend renderingMachine) := rfl
  obtain ⟨_, available, place⟩ := evaluation_place renderingMachine none _ selected
  refine ⟨available, ?_⟩
  rcases (place _ rfl).2 with ⟨cpu, _⟩ | ⟨_, device⟩
  · cases cpu
  · exact device

end Place

end Jaull.Runtime
