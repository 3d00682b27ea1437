import Mathlib.Data.Int.Notation
import Mathlib.Order.Basic
import Mathlib.Tactic.Common

/-!
# Hardware profiles

Port of `jaull/domain/hardware.py`: what detection reports about one machine, and the two memory
budgets planning reads from it. Enumerations keep the member names of the Python `StrEnum`s, records
keep the field names in camel case, and byte counts are the unbounded Python integers.

Left out: the storage list and the warnings of a profile, which no modelled function reads.
-/

namespace Jaull.Domain

/-- Processor summary (Python `CpuInfo`). -/
structure CpuInfo where
  model : Option String := none
  physicalCores : Option ℤ := none
  logicalCores : Option ℤ := none
  deriving DecidableEq, Repr

/-- System memory (Python `MemoryInfo`). -/
structure MemoryInfo where
  totalBytes : ℤ
  availableBytes : ℤ
  deriving DecidableEq, Repr

/-- Accelerator vendors (Python `AcceleratorVendor`). -/
inductive AcceleratorVendor
  | nvidia | amd | intel | other | unknown
  deriving DecidableEq, Repr

/-- Accelerator kinds (Python `AcceleratorType`). -/
inductive AcceleratorType
  | dedicated | integrated | software | unknown
  deriving DecidableEq, Repr

/-- Compute backends (Python `ComputeBackend`). -/
inductive ComputeBackend
  | cpu | cuda | vulkan | hip
  deriving DecidableEq, Repr

/-- What a backend probe concluded (Python `BackendAvailability`). -/
inductive BackendAvailability
  | available | unavailable | unknown
  deriving DecidableEq, Repr

/-- Why a probe concluded it (Python `BackendAvailabilityReason`). -/
inductive BackendAvailabilityReason
  | probeAvailable | probeFailed | notChecked | vendorNotSupported | softwareRendererOnly
  | runtimeNotInstalled | deviceNotVisible | notImplemented
  deriving DecidableEq, Repr

/-- One probed backend of an accelerator (Python `ComputeBackendInfo`). -/
structure ComputeBackendInfo where
  backend : ComputeBackend
  availability : BackendAvailability
  reason : Option BackendAvailabilityReason := none
  source : Option String := none
  detail : Option String := none
  apiVersion : Option String := none
  deviceName : Option String := none
  driverName : Option String := none
  driverVersion : Option String := none
  softwareRenderer : Bool := false
  deriving DecidableEq, Repr

/-- One detected accelerator (Python `AcceleratorProfile`). -/
structure AcceleratorProfile where
  name : String
  vendor : AcceleratorVendor := .unknown
  type : AcceleratorType := .unknown
  vendorId : Option String := none
  deviceId : Option String := none
  pciBusId : Option String := none
  uuid : Option String := none
  dedicatedMemoryBytes : Option ℤ := none
  availableMemoryBytes : Option ℤ := none
  sharedMemory : Bool := false
  detectionSources : List String := []
  backends : List ComputeBackendInfo := []
  deriving DecidableEq, Repr

/-- The legacy NVIDIA view of a card (Python `GpuInfo`). -/
structure GpuInfo where
  name : String
  vramTotalBytes : ℤ
  vramAvailableBytes : ℤ
  driverVersion : Option String := none
  cudaVersion : Option String := none
  deriving DecidableEq, Repr

/-- Everything detection reports about one machine (Python `HardwareProfile`). -/
structure HardwareProfile where
  os : String
  osVersion : Option String := none
  arch : String
  cpu : CpuInfo
  memory : MemoryInfo
  gpus : List GpuInfo := []
  accelerators : List AcceleratorProfile := []
  deriving DecidableEq, Repr

namespace AcceleratorProfile

/-- A card with a memory pool of its own: the accelerators both budgets filter on. -/
def ownsMemory (accelerator : AcceleratorProfile) : Bool :=
  accelerator.type = .dedicated && !accelerator.sharedMemory

end AcceleratorProfile

/-- Largest discrete capacity (Python `planning_accelerator_memory_bytes`). -/
def planningAcceleratorMemoryBytes (hardware : HardwareProfile) : Option ℤ :=
  (hardware.gpus.map (·.vramTotalBytes) ++
    (hardware.accelerators.filter (·.ownsMemory)).filterMap (·.dedicatedMemoryBytes)).max?

/-- Largest observed discrete availability (Python `available_accelerator_memory_bytes`). -/
def availableAcceleratorMemoryBytes (hardware : HardwareProfile) : Option ℤ :=
  (hardware.gpus.map (·.vramAvailableBytes) ++
    (hardware.accelerators.filter (·.ownsMemory)).filterMap (·.availableMemoryBytes)).max?

/-- A machine with no GPU and no accelerator has no run-now VRAM budget. -/
lemma availableAcceleratorMemoryBytes_eq_none {hardware : HardwareProfile}
    (noGpus : hardware.gpus = []) (noAccelerators : hardware.accelerators = []) :
    availableAcceleratorMemoryBytes hardware = none := by
  simp [availableAcceleratorMemoryBytes, noGpus, noAccelerators]

/-- The budget is the largest availability any memory-owning device reports. -/
lemma availableAcceleratorMemoryBytes_eq_some_iff {hardware : HardwareProfile} {budget : ℤ} :
    availableAcceleratorMemoryBytes hardware = some budget ↔
      ((∃ gpu ∈ hardware.gpus, gpu.vramAvailableBytes = budget) ∨
        ∃ accelerator ∈ hardware.accelerators, accelerator.ownsMemory ∧
          accelerator.availableMemoryBytes = some budget) ∧
      (∀ gpu ∈ hardware.gpus, gpu.vramAvailableBytes ≤ budget) ∧
      ∀ accelerator ∈ hardware.accelerators, accelerator.ownsMemory →
        ∀ bytes, accelerator.availableMemoryBytes = some bytes → bytes ≤ budget := by
  unfold availableAcceleratorMemoryBytes
  rw [List.max?_eq_some_iff]
  simp only [List.mem_append, List.mem_map, List.mem_filterMap, List.mem_filter]
  constructor
  · rintro ⟨attained, bound⟩
    refine ⟨?_, fun gpu mem => bound _ (.inl ⟨gpu, mem, rfl⟩), ?_⟩
    · rcases attained with h | ⟨a, ⟨mem, owns⟩, eq⟩
      · exact .inl h
      · exact .inr ⟨a, mem, owns, eq⟩
    · intro a mem owns bytes eq
      exact bound bytes (.inr ⟨a, ⟨mem, owns⟩, eq⟩)
  · rintro ⟨attained, gpuBound, accBound⟩
    refine ⟨?_, ?_⟩
    · rcases attained with h | ⟨a, mem, owns, eq⟩
      · exact .inl h
      · exact .inr ⟨a, ⟨mem, owns⟩, eq⟩
    · rintro bytes (⟨gpu, mem, rfl⟩ | ⟨a, ⟨mem, owns⟩, eq⟩)
      · exact gpuBound gpu mem
      · exact accBound a mem owns bytes eq

end Jaull.Domain
