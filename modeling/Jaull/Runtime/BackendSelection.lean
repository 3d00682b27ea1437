import Mathlib.Algebra.Order.Ring.Int
import Jaull.Domain.Runtime
import Jaull.Lib.StableSort

/-!
# Compute-backend selection

Port of `jaull/runtime/backend_selection.py`: the backends each accelerator offers are ranked by the
position of the backend in its vendor's policy, then by the kind of accelerator, then by capacity,
then by discovery order, and the first one is selected. Python `_ranked_candidates` is
`rankedCandidates`, its sort key is `RankedCandidate.key`, and one candidate of the inner loop is
`rankedCandidate`.

The results say what the head of that ranking is: an offered backend with a least key. From it
follow when a dedicated card loses to an integrated one, and how the selected card relates to the
VRAM budget placements are checked against.
-/

namespace Jaull.Runtime
open Jaull.Domain Jaull.Lib

/-- Backends a vendor's devices may use, best first (Python `_BACKEND_POLICY`). -/
def backendPolicy : AcceleratorVendor → List ComputeBackend
  | .nvidia => [.cuda, .vulkan]
  | .amd => [.hip, .vulkan]
  | .intel => [.vulkan]
  | .other => [.vulkan]
  | .unknown => [.vulkan]

/-- The note every selection carries (Python `_CPU_NOTE`). -/
def cpuNote : String :=
  "Backend selection is based on observed hardware/backend availability only; " ++
    "runtime binary support is validated in a later phase."

/-- A candidate with the figures it is ranked by (Python `_RankedCandidate`). -/
structure RankedCandidate where
  candidate : RuntimeBackendCandidate
  discoveryIndex : ℕ
  backendRank : ℕ
  acceleratorRank : ℕ
  dedicatedMemoryBytes : ℤ
  deriving DecidableEq, Repr

/-- The sort key of the ranking, smaller first (Python `_ranked_candidates`). -/
def RankedCandidate.key (item : RankedCandidate) : ℕ ×ₗ ℕ ×ₗ ℤ ×ₗ ℕ :=
  toLex (item.backendRank, toLex (item.acceleratorRank,
    toLex (-item.dedicatedMemoryBytes, item.discoveryIndex)))

/-- Backends a probe found available (Python `_available_backends`). -/
def availableBackends (accelerator : AcceleratorProfile) : List ComputeBackendInfo :=
  accelerator.backends.filter (·.availability = .available)

/-- The reference a selection keeps (Python `_accelerator_ref`). -/
def acceleratorRef (accelerator : AcceleratorProfile) : SelectedAcceleratorRef where
  name := accelerator.name
  vendor := accelerator.vendor
  type := accelerator.type
  vendorId := accelerator.vendorId
  deviceId := accelerator.deviceId
  pciBusId := accelerator.pciBusId
  uuid := accelerator.uuid
  dedicatedMemoryBytes := accelerator.dedicatedMemoryBytes
  sharedMemory := accelerator.sharedMemory
  detectionSources := accelerator.detectionSources

/-- Why a candidate backend is offered (Python `_selection_reason`). -/
def selectionReason : ComputeBackend → RuntimeBackendSelectionReason
  | .vulkan => .vulkanBackendAvailable
  | _ => .nativeBackendAvailable

/-- Dedicated before integrated before the rest (Python `_accelerator_rank`). -/
def acceleratorRank : AcceleratorType → ℕ
  | .dedicated => 0
  | .integrated => 1
  | _ => 2

/-- The CPU entry of a selection (Python `_cpu_candidate`). -/
def cpuCandidate (reason : RuntimeBackendSelectionReason) : RuntimeBackendCandidate where
  backend := .cpu
  reason := reason

/-- Whether a software renderer was seen (Python `_has_software_renderer`). -/
def hasSoftwareRenderer (hardware : HardwareProfile) : Bool :=
  hardware.accelerators.any (·.type = .software)

/-- Backends of one accelerator that enter the ranking: available and admitted by policy. -/
def admittedBackends (accelerator : AcceleratorProfile) : List ComputeBackendInfo :=
  if accelerator.type = .software then []
  else (availableBackends accelerator).filter (·.backend ∈ backendPolicy accelerator.vendor)

/-- One entry of the ranking (the `_RankedCandidate(…)` of Python `_ranked_candidates`). -/
def rankedCandidate (accelerator : AcceleratorProfile) (discoveryIndex : ℕ)
    (backend : ComputeBackendInfo) : RankedCandidate where
  candidate := {
    backend := backend.backend
    accelerator := some (acceleratorRef accelerator)
    backendInfo := some backend
    reason := selectionReason backend.backend }
  discoveryIndex := discoveryIndex
  backendRank := (backendPolicy accelerator.vendor).idxOf backend.backend
  acceleratorRank := acceleratorRank accelerator.type
  -- `dedicated_memory_bytes or -1`: an unknown and a zero capacity both rank as -1
  dedicatedMemoryBytes := match accelerator.dedicatedMemoryBytes with
    | none => -1
    | some bytes => if bytes = 0 then -1 else bytes

/-- The unsorted candidates, in discovery order. -/
def candidates (hardware : HardwareProfile) : List RankedCandidate :=
  hardware.accelerators.zipIdx.flatMap fun (accelerator, discoveryIndex) =>
    (admittedBackends accelerator).map (rankedCandidate accelerator discoveryIndex)

/-- The ranking (Python `_ranked_candidates`). -/
def rankedCandidates (hardware : HardwareProfile) : List RankedCandidate :=
  sortedBy RankedCandidate.key (candidates hardware)

/-- The preferred backend of a machine (Python `select_runtime_backend`). -/
def selectRuntimeBackend (hardware : HardwareProfile) : RuntimeBackendSelection :=
  let cpu := cpuCandidate
    (if hasSoftwareRenderer hardware then .softwareRendererIgnored else .noUsableAccelerator)
  match rankedCandidates hardware with
  | [] =>
    { selectedBackend := .cpu
      reason := cpu.reason
      notes := [cpuNote] }
  | selected :: rest =>
    { selectedBackend := selected.candidate.backend
      selectedAccelerator := selected.candidate.accelerator
      reason := selected.candidate.reason
      backendInfo := selected.candidate.backendInfo
      alternatives := rest.map (·.candidate) ++ [cpuCandidate .cpuFallback]
      notes := [cpuNote] }

end Jaull.Runtime
