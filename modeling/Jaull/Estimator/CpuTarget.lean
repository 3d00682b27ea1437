import Jaull.Estimator.Compatibility

/-!
# The CPU target against the automatic one

On a machine without any accelerator both targets end in system RAM, by different paths: the CPU
target compares the raw total with it, the automatic target the analysis' `CPU_RAM` requirement,
which leaves the device reserve out. The two summaries are computed here for known components and
then compared.
-/

namespace Jaull.Estimator
open Jaull.Domain

/-- Components that are all known, with the total they sum to. -/
def MemoryComponents.known (c : MemoryComponents) : KnownComponents where
  weightsBytes := some c.weightsBytes
  kvCacheBytes := some c.kvCacheBytes
  overheadBytes := some c.overheadBytes
  deviceReserveBytes := c.deviceReserveBytes
  safetyMarginBytes := c.safetyMarginBytes
  totalBytes := some c.total

/-- A machine with system RAM and nothing else. -/
structure CpuOnly (hardware : HardwareProfile) : Prop where
  gpus : hardware.gpus = []
  accelerators : hardware.accelerators = []
  ram_pos : 0 < hardware.memory.availableBytes

section
variable {c : MemoryComponents} {hardware : HardwareProfile} {blocks : Option ℤ}
  {weightDecomposition : Option TransformerBlockWeightDecomposition}
  {auto cpu : ComponentAssessment}

/-- A CPU-only machine has no accelerator budget. -/
lemma CpuOnly.noBudget (only : CpuOnly hardware) :
    availableAcceleratorMemoryBytes hardware = none :=
  availableAcceleratorMemoryBytes_eq_none only.gpus only.accelerators

/-- The analysis of a CPU-only machine is the host result. -/
lemma CpuOnly.analyzeComponents_eq {layers result} (only : CpuOnly hardware)
    (eq : analyzeComponents c hardware blocks layers weightDecomposition = .ok result) :
    ∃ resolved, result = hostResult c none hardware.memory.availableBytes resolved
      .discreteMemory weightDecomposition := by
  have topology : memoryTopology hardware = .discreteMemory := by
    simp [memoryTopology, only.noBudget, only.accelerators]
  simp only [analyzeComponents, topology, analyzeDiscreteMemory, only.noBudget] at eq
  cases resolve : resolveTransformerBlocks c blocks layers weightDecomposition with
  | error e =>
    rw [resolve] at eq
    cases eq
  | ok resolved =>
    rw [resolve] at eq
    exact ⟨resolved, (Except.ok.inj eq).symm⟩

/-- The CPU target reports the total over the available RAM, reserve included. -/
lemma CpuOnly.cpu_assessment (only : CpuOnly hardware)
    (eq : assessComponentsWithFit c.known blocks hardware .cpu weightDecomposition = .ok cpu) :
    cpu.assessment.ratio = some ((c.total : ℚ) / hardware.memory.availableBytes) ∧
      cpu.assessment.status = statusFromRatio ((c.total : ℚ) / hardware.memory.availableBytes) := by
  have pos := only.ram_pos
  simp only [assessComponentsWithFit, MemoryComponents.known] at eq
  rw [if_pos (by decide)] at eq
  cases eq
  simp only [assess, assessSingle]
  rw [if_neg (by omega)]
  exact ⟨rfl, rfl⟩

/-- The automatic target reports what the CPU needs over the available RAM when it fits, and no
ratio when it does not. The reserve does not enter either way. -/
lemma CpuOnly.auto_assessment (only : CpuOnly hardware)
    (eq : assessComponentsWithFit c.known blocks hardware .auto weightDecomposition = .ok auto) :
    (c.cpuRequired ≤ hardware.memory.availableBytes →
      auto.assessment.ratio = some ((c.cpuRequired : ℚ) / hardware.memory.availableBytes) ∧
        auto.assessment.status =
          statusFromRatio ((c.cpuRequired : ℚ) / hardware.memory.availableBytes)) ∧
    (hardware.memory.availableBytes < c.cpuRequired →
      auto.assessment.ratio = none ∧ auto.assessment.status = .insufficient) := by
  have pos := only.ram_pos
  simp only [assessComponentsWithFit, MemoryComponents.known] at eq
  rw [if_neg (by decide)] at eq
  cases analysis : analyzeComponents
      { weightsBytes := c.weightsBytes
        kvCacheBytes := c.kvCacheBytes
        overheadBytes := c.overheadBytes
        deviceReserveBytes := c.deviceReserveBytes
        safetyMarginBytes := c.safetyMarginBytes }
      hardware blocks none weightDecomposition with
  | error e =>
    rw [analysis] at eq
    cases eq
  | ok fit =>
    rw [analysis] at eq
    obtain ⟨resolved, rfl⟩ := only.analyzeComponents_eq analysis
    constructor
    · intro fits
      have mode : (hostResult c none hardware.memory.availableBytes resolved .discreteMemory
          weightDecomposition).mode = .cpuRam := by simp [hostResult, fits]
      simp only [assessmentFromFit, mode] at eq
      simp only [hostResult, fitRatio] at eq
      rw [if_neg (by omega)] at eq
      cases eq
      exact ⟨rfl, rfl⟩
    · intro exceeds
      have mode : (hostResult c none hardware.memory.availableBytes resolved .discreteMemory
          weightDecomposition).mode = .tooLarge := by
        simp only [hostResult]
        rw [if_neg (by omega)]
      simp only [assessmentFromFit, mode] at eq
      cases eq
      exact ⟨rfl, rfl⟩

/-- The two targets agree in status and ratio exactly when no reserve is charged and the model
fits system RAM. -/
theorem CpuOnly.targets_agree_iff (only : CpuOnly hardware)
    (eqAuto : assessComponentsWithFit c.known blocks hardware .auto weightDecomposition = .ok auto)
    (eqCpu : assessComponentsWithFit c.known blocks hardware .cpu weightDecomposition = .ok cpu) :
    (cpu.assessment.status = auto.assessment.status ∧
      cpu.assessment.ratio = auto.assessment.ratio) ↔
      c.deviceReserveBytes = 0 ∧ c.cpuRequired ≤ hardware.memory.availableBytes := by
  obtain ⟨cpuRatio, cpuStatus⟩ := only.cpu_assessment eqCpu
  obtain ⟨fitting, exceeding⟩ := only.auto_assessment eqAuto
  have ramQ : (hardware.memory.availableBytes : ℚ) ≠ 0 := by
    exact_mod_cast only.ram_pos.ne'
  -- the two ratios differ by the reserve
  have total : c.total = c.cpuRequired + c.deviceReserveBytes := by
    simp only [MemoryComponents.total, MemoryComponents.cpuRequired]
    ring
  rcases le_or_gt c.cpuRequired hardware.memory.availableBytes with fits | exceeds
  · obtain ⟨autoRatio, autoStatus⟩ := fitting fits
    rw [cpuRatio, cpuStatus, autoRatio, autoStatus]
    constructor
    · rintro ⟨_, ratios⟩
      have totals : (c.total : ℚ) = c.cpuRequired :=
        (div_left_inj' ramQ).mp (Option.some.inj ratios)
      have totals' : c.total = c.cpuRequired := by exact_mod_cast totals
      exact ⟨by omega, fits⟩
    · rintro ⟨noReserve, _⟩
      rw [total, noReserve, add_zero]
      exact ⟨rfl, rfl⟩
  · obtain ⟨autoRatio, _⟩ := exceeding exceeds
    rw [cpuRatio, autoRatio]
    constructor
    · rintro ⟨_, ratios⟩
      cases ratios
    · rintro ⟨_, fits⟩
      omega

end

/-- A 16 GiB machine without accelerators. -/
def cpuLaptop : HardwareProfile where
  os := "Linux"
  arch := "x86_64"
  cpu := {}
  memory := { totalBytes := 17179869184, availableBytes := 17179869184 }

/-- A model that needs 12 GiB of RAM, with the 1 GiB reserve of a GGUF estimate. -/
def twelveGib : MemoryComponents where
  weightsBytes := 10737418240
  kvCacheBytes := 1879048192
  overheadBytes := 268435456
  deviceReserveBytes := 1073741824

lemma cpuLaptop_cpuOnly : CpuOnly cpuLaptop :=
  ⟨rfl, rfl, by decide⟩

/-- `CpuOnly.targets_agree_iff` on the laptop, for a model that needs no reserve and for the same
model with it: the targets agree on the first and not on the second. -/
theorem targets_agree_iff_cpuLaptop :
    (∃ auto cpu, assessComponentsWithFit
        (MemoryComponents.known { twelveGib with deviceReserveBytes := 0 }) (some 32) cpuLaptop
          .auto none = .ok auto ∧
      assessComponentsWithFit
        (MemoryComponents.known { twelveGib with deviceReserveBytes := 0 }) (some 32) cpuLaptop
          .cpu none = .ok cpu ∧
      cpu.assessment.status = auto.assessment.status ∧
      cpu.assessment.ratio = auto.assessment.ratio) ∧
    ∃ auto cpu, assessComponentsWithFit twelveGib.known (some 32) cpuLaptop .auto none = .ok auto ∧
      assessComponentsWithFit twelveGib.known (some 32) cpuLaptop .cpu none = .ok cpu ∧
      ¬ (cpu.assessment.status = auto.assessment.status ∧
        cpu.assessment.ratio = auto.assessment.ratio) := by
  constructor
  · refine ⟨_, _, rfl, rfl, ?_⟩
    apply (@CpuOnly.targets_agree_iff { twelveGib with deviceReserveBytes := 0 }
      cpuLaptop (some 32) none _ _ cpuLaptop_cpuOnly rfl rfl).mpr
    exact ⟨rfl, by decide⟩
  · refine ⟨_, _, rfl, rfl, fun agree => ?_⟩
    obtain ⟨noReserve, _⟩ := (@CpuOnly.targets_agree_iff twelveGib
      cpuLaptop (some 32) none _ _ cpuLaptop_cpuOnly rfl rfl).mp agree
    cases noReserve

/-- With the reserve, the CPU target sees 13 of 16 GiB used where the automatic one sees 12: the
statuses differ. -/
theorem cpuLaptop_targets_differ :
    ¬ ∀ (c : MemoryComponents) (hardware : HardwareProfile) (blocks : Option ℤ)
      (auto cpu : ComponentAssessment), c.Nonneg → CpuOnly hardware →
      assessComponentsWithFit c.known blocks hardware .auto none = .ok auto →
      assessComponentsWithFit c.known blocks hardware .cpu none = .ok cpu →
      cpu.assessment.status = auto.assessment.status ∧
        cpu.assessment.ratio = auto.assessment.ratio := by
  intro agree
  have nonneg : twelveGib.Nonneg := ⟨by decide, by decide, by decide, by decide, by decide⟩
  obtain ⟨_, ratio⟩ :=
    agree twelveGib cpuLaptop (some 32) _ _ nonneg cpuLaptop_cpuOnly rfl rfl
  revert ratio
  decide +kernel

end Jaull.Estimator
