import Jaull.Cases.CaseRecords
import Jaull.Lib.HalfEven
import Jaull.Lib.ListMap
import Jaull.Text.Json

/-!
# The machine and the cohort of a stored speed

Port of `machine_fingerprint` of `jaull/evaluation/hardware_fingerprint.py` with its granularity, and of
`speed_cohort` of `jaull/recommendation/local_evidence.py`. The main result says when two totals of system
memory are told apart: the granularity absorbs a difference only when no half-way point of its grid lies
between the two totals.
-/

namespace Jaull.Recommendation
open Jaull.Domain Jaull.Lib Jaull.Text

/-- Python `EVIDENCE_MEMORY_GRANULARITY`. -/
def evidenceMemoryGranularity : ℤ :=
  256 * 1024 * 1024

/-- The profile of a machine that reports another total of system memory. -/
def withTotal (hardware : HardwareProfile) (total : ℤ) : HardwareProfile :=
  { hardware with memory := { hardware.memory with totalBytes := total } }

/-- Python `round(memory / granularity) * granularity`. -/
def roundedMemory (granularity memory : ℤ) : Except PyError ℤ :=
  if granularity = 0 then .error .division
  else if (overflowBound : ℚ) ≤ |(memory : ℚ) / granularity| then .error .overflow
  else .ok (roundHalfEven (nearestDouble (memory / granularity)) * granularity)

/-- Python `machine_fingerprint`. -/
def machineFingerprint (granularity : Option ℤ) (hardware : HardwareProfile) :
    Except PyError (List String) :=
  match granularity with
  | none => .ok (Cases.machineFingerprint hardware)
  | some granularity => do
    let memory ← roundedMemory granularity hardware.memory.totalBytes
    pure (Cases.machineFingerprint (withTotal hardware memory))

section Cohort

/-- Python `json.dumps` of a list whose items have these texts. -/
def jsonArray (items : List String) : String :=
  "[" ++ ", ".intercalate items ++ "]"

/-- Python `json.dumps` of a dictionary whose values have these texts, with `sort_keys`. -/
def jsonObject (fields : List (String × String)) : String :=
  "\x7b" ++ ", ".intercalate ((sortedBy Prod.fst fields).map fun field =>
    quoted field.1 ++ ": " ++ field.2) ++ "\x7d"

/-- Python `json.dumps` of a value that may be absent. -/
def jsonOption {α : Type} (text : α → String) (value : Option α) : String :=
  (value.map text).getD "null"

/-- Python `json.dumps` of `LlamaBenchProtocol.model_dump`. -/
def protocolText (protocol : LlamaBenchProtocol) : String :=
  jsonObject
    [("build_commit", jsonOption quoted protocol.buildCommit),
      ("build_number", jsonOption toString protocol.buildNumber),
      ("n_threads", jsonOption toString protocol.nThreads),
      ("n_batch", jsonOption toString protocol.nBatch),
      ("n_ubatch", jsonOption toString protocol.nUbatch),
      ("cache_type_k", jsonOption quoted protocol.cacheTypeK),
      ("cache_type_v", jsonOption quoted protocol.cacheTypeV),
      ("flash_attn", jsonOption quoted protocol.flashAttn),
      ("load_mode", jsonOption quoted protocol.loadMode),
      ("warmup", jsonOption quoted protocol.warmup),
      ("thread_policy", jsonOption quoted protocol.threadPolicy)]

/-- Python `speed_cohort`. -/
def speedCohort (sha256 : String → String) (record : BenchmarkRecord) : Except PyError String := do
  let machine ← machineFingerprint (some evidenceMemoryGranularity) record.hardware
  pure (sha256 (jsonObject
    [("machine", jsonArray (machine.map quoted)),
      ("gpu_environment",
        jsonArray ((gpuEnvironment record.hardware record.requestedBackend).map
          fun (name, driver, cuda) =>
            jsonArray [quoted name, jsonOption quoted driver, jsonOption quoted cuda])),
      ("methodology", jsonOption quoted record.observation.methodology),
      ("protocol", jsonOption protocolText record.observation.protocol),
      ("backend", quoted record.requestedBackend.value),
      ("device", jsonOption quoted record.requestedDevice),
      ("workload",
        jsonArray [jsonArray (record.prefillSizes.map toString),
          jsonArray (record.generationSizes.map toString), toString record.repetitions])]))

/-- The readers of local evidence. A total beyond the doubles, on which Python raises, has no fingerprint
and no cohort. -/
def localReaders (sha256 : String → String) (fastestRecordBlockers : BenchmarkRecord → List String)
    (modelDumpJson : BenchmarkRecord → String)
    (runtimeDeviceNameMatches : String → String → String → Bool) : RecordReaders where
  machineFingerprint hardware :=
    ((machineFingerprint (some evidenceMemoryGranularity) hardware).toOption).getD []
  fastestRecordBlockers := fastestRecordBlockers
  speedCohort record := ((speedCohort sha256 record).toOption).getD ""
  modelDumpJson := modelDumpJson
  runtimeDeviceNameMatches := runtimeDeviceNameMatches

end Cohort

section Drift

/-- A total of system memory in units of the granularity, as a double. -/
def evidenceUnits (total : ℤ) : ℚ :=
  nearestDouble (total / evidenceMemoryGranularity)

/-- Both totals have doubles, and no half-way point of the grid lies between them. -/
def SteadyTotals (total total' : ℤ) : Prop :=
  |(total : ℚ) / evidenceMemoryGranularity| < overflowBound ∧
  |(total' : ℚ) / evidenceMemoryGranularity| < overflowBound ∧
  SameStep (evidenceUnits total) (evidenceUnits total')

/-- What is stored for a record is found again by the same machine with another total: one fingerprint,
one machine, one cohort. -/
def SurvivesReboot (readers : RecordReaders) (sha256 : String → String) (record : BenchmarkRecord)
    (total : ℤ) : Prop :=
  (∃ fields,
    machineFingerprint (some evidenceMemoryGranularity) record.hardware = .ok fields ∧
    machineFingerprint (some evidenceMemoryGranularity) (withTotal record.hardware total) =
      .ok fields) ∧
  sameMachine readers record.hardware (withTotal record.hardware total) = true ∧
  ∃ cohort, speedCohort sha256 record = .ok cohort ∧
    speedCohort sha256 { record with hardware := withTotal record.hardware total } = .ok cohort

variable {total total' : ℤ} {hardware : HardwareProfile}

lemma granularity_ne_zero : evidenceMemoryGranularity ≠ 0 := by
  decide

/-- When a total is rounded, and to what. -/
lemma roundedMemory_eq_ok {memory : ℤ} :
    roundedMemory evidenceMemoryGranularity total = .ok memory ↔
      |(total : ℚ) / evidenceMemoryGranularity| < overflowBound ∧
      memory = roundHalfEven (evidenceUnits total) * evidenceMemoryGranularity := by
  rw [roundedMemory, if_neg granularity_ne_zero]
  by_cases large : (overflowBound : ℚ) ≤ |(total : ℚ) / evidenceMemoryGranularity|
  · rw [if_pos large]
    constructor
    · intro eq
      cases eq
    · intro holds
      exact absurd large (not_le.mpr holds.1)
  · rw [if_neg large]
    constructor
    · intro eq
      exact ⟨not_le.mp large, (Except.ok.inj eq).symm⟩
    · intro holds
      rw [holds.2]
      rfl

/-- A fingerprint shows the rounded total. -/
lemma caseFingerprint_inj {memory memory' : ℤ} :
    Cases.machineFingerprint (withTotal hardware memory) =
      Cases.machineFingerprint (withTotal hardware memory') ↔ memory = memory' := by
  constructor
  · intro eq
    have texts : toString memory = toString memory' := by
      simpa [Cases.machineFingerprint, withTotal] using eq
    exact toString_injective texts
  · intro eq
    rw [eq]

/-- One fingerprint for two totals. -/
lemma machineFingerprint_withTotal (hardware : HardwareProfile) :
    (∃ fields,
      machineFingerprint (some evidenceMemoryGranularity) (withTotal hardware total) = .ok fields ∧
      machineFingerprint (some evidenceMemoryGranularity) (withTotal hardware total') = .ok fields) ↔
    SteadyTotals total total' := by
  constructor
  · intro alike
    obtain ⟨fields, eq, eq'⟩ := alike
    obtain ⟨memory, rounded, shown⟩ := bind_eq_ok.mp eq
    obtain ⟨memory', rounded', shown'⟩ := bind_eq_ok.mp eq'
    have same := (Except.ok.inj shown).trans (Except.ok.inj shown').symm
    obtain ⟨finite, value⟩ := roundedMemory_eq_ok.mp rounded
    obtain ⟨finite', value'⟩ := roundedMemory_eq_ok.mp rounded'
    have memories : memory = memory' := caseFingerprint_inj.mp same
    rw [value, value', mul_eq_mul_right_iff, or_iff_left granularity_ne_zero] at memories
    exact ⟨finite, finite', roundHalfEven_eq_iff.mp memories⟩
  · intro steady
    obtain ⟨finite, finite', same⟩ := steady
    have memories : roundHalfEven (evidenceUnits total) = roundHalfEven (evidenceUnits total') :=
      roundHalfEven_eq_iff.mpr same
    exact ⟨_, bind_eq_ok.mpr ⟨_, roundedMemory_eq_ok.mpr ⟨finite, rfl⟩, rfl⟩,
      bind_eq_ok.mpr ⟨_, roundedMemory_eq_ok.mpr ⟨finite', congrArg (· * _) memories⟩, rfl⟩⟩

/-- Totals below eight pebibytes are compared with the half-way points exactly. -/
lemma pastHalf_evidenceUnits (small : total.natAbs < 2 ^ 53) (k : ℤ) :
    PastHalf k (evidenceUnits total) ↔
      (2 * k + 1) * 2 ^ 27 < total ∨ total = (2 * k + 1) * 2 ^ 27 ∧ k % 2 = 1 := by
  have granularity : (evidenceMemoryGranularity : ℚ) = 2 ^ 28 := by
    norm_num [evidenceMemoryGranularity]
  have halfway : (k : ℚ) + 1 / 2 = (((2 * k + 1) * 2 ^ 27 : ℤ) : ℚ) / 2 ^ 28 := by
    push_cast
    ring
  have pow_pos : (0 : ℚ) < 2 ^ 28 := by positivity
  rw [evidenceUnits, granularity, nearestDouble_div_pow small (by decide), PastHalf, halfway,
    div_lt_div_iff_of_pos_right pow_pos, div_left_inj' pow_pos.ne', Int.cast_lt, Int.cast_inj]

/-- Stored evidence survives another total of memory exactly when no half-way point of the grid lies
between the two totals. -/
theorem survivesReboot_iff (sha256 : String → String)
    (fastestRecordBlockers : BenchmarkRecord → List String) (modelDumpJson : BenchmarkRecord → String)
    (runtimeDeviceNameMatches : String → String → String → Bool) (record : BenchmarkRecord)
    (total : ℤ) :
    SurvivesReboot
        (localReaders sha256 fastestRecordBlockers modelDumpJson runtimeDeviceNameMatches) sha256
        record total ↔
      SteadyTotals record.hardware.memory.totalBytes total := by
  have own : withTotal record.hardware record.hardware.memory.totalBytes = record.hardware := rfl
  rw [← machineFingerprint_withTotal record.hardware, own]
  constructor
  · intro survives
    exact survives.1
  · intro alike
    obtain ⟨fields, eq, eq'⟩ := alike
    refine ⟨⟨fields, eq, eq'⟩, ?_, ?_⟩
    · simp [sameMachine, localReaders, eq, eq']
    · -- the graphics environment does not look at system memory
      exact ⟨_, bind_eq_ok.mpr ⟨fields, eq, rfl⟩, bind_eq_ok.mpr ⟨fields, eq', rfl⟩⟩

/-- A machine whose total lies one kibibyte below a half-way point. -/
def rebootedMachine : HardwareProfile where
  os := "Linux"
  arch := "x86_64"
  cpu := {}
  memory := { totalBytes := 255 * 2 ^ 27 - 1024, availableBytes := 0 }

/-- Two kibibytes more, and the machine is another one. -/
theorem rebootedMachine_forgotten :
    ¬∀ (hardware : HardwareProfile) (total : ℤ), |total - hardware.memory.totalBytes| ≤ 1024 * 1024 →
      ∃ fields, machineFingerprint (some evidenceMemoryGranularity) hardware = .ok fields ∧
        machineFingerprint (some evidenceMemoryGranularity) (withTotal hardware total) = .ok fields := by
  intro absorbed
  have alike := absorbed rebootedMachine (255 * 2 ^ 27 + 1024) (by decide)
  have steady : SteadyTotals (255 * 2 ^ 27 - 1024) (255 * 2 ^ 27 + 1024) :=
    (machineFingerprint_withTotal rebootedMachine).mp alike
  have past := (steady.2.2 127).mpr
  rw [pastHalf_evidenceUnits (by decide), pastHalf_evidenceUnits (by decide)] at past
  exact absurd (past (by decide)) (by decide)

end Drift

end Jaull.Recommendation
