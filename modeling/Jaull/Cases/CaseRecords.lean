import Jaull.Cases.Manifest
import Jaull.Recommendation.LocalEvidence
import Jaull.Text.WordTables

/-!
# What the validation of cases reads of records

The fields of experiment and benchmark records that only the validation of cases reads, and what it makes of
them: the fingerprint of a machine (`jaull/evaluation/hardware_fingerprint.py`), the build of a runtime, and
the conditions that may differ between runs.
-/

namespace Jaull.Cases
open Jaull.Domain Jaull.Evaluation Jaull.Lib Jaull.Text

/-- What the probe of a runtime says of its version (Python `RuntimeCapability`). -/
inductive ProbedVersions
  | llamaCpp (versionText : Option String)
  | pyTorch (torchVersion transformersVersion : Option String)
  deriving DecidableEq, Repr

/-- An experiment record with what only the validation of cases reads. -/
structure CaseExperiment extends ExperimentRecord where
  gitCommit : Option String := none
  executedCommand : List String := []
  versions : ProbedVersions
  deriving DecidableEq, Repr

/-- A benchmark record with what only the validation of cases reads. -/
structure CaseBenchmark extends BenchmarkRecord where
  gitCommit : Option String := none
  contextLength : Option ℤ := none
  versions : Option ProbedVersions := none
  deriving DecidableEq, Repr

section Machines

/-- Python `AcceleratorVendor.value`. -/
def vendorValue : AcceleratorVendor → String
  | .nvidia => "nvidia"
  | .amd => "amd"
  | .intel => "intel"
  | .other => "other"
  | .unknown => "unknown"

/-- Python `AcceleratorType.value`. -/
def typeValue : AcceleratorType → String
  | .dedicated => "dedicated"
  | .integrated => "integrated"
  | .software => "software"
  | .unknown => "unknown"

/-- Python `str(count or "")`. -/
def countText : Option ℤ → String
  | some 0 => ""
  | some count => toString count
  | none => ""

/-- An accelerator in a fingerprint. -/
def acceleratorText (accelerator : AcceleratorProfile) : String :=
  ":".intercalate
    [accelerator.name, vendorValue accelerator.vendor, typeValue accelerator.type,
      accelerator.vendorId.getD "", accelerator.deviceId.getD "", accelerator.pciBusId.getD "",
      accelerator.uuid.getD "", countText accelerator.dedicatedMemoryBytes,
      if accelerator.sharedMemory then "True" else "False"]

/-- Python `machine_fingerprint`, without a granularity. -/
def machineFingerprint (hardware : HardwareProfile) : List String :=
  [hardware.os, hardware.osVersion.getD "", hardware.arch, hardware.cpu.model.getD "",
    countText hardware.cpu.physicalCores, countText hardware.cpu.logicalCores,
    toString hardware.memory.totalBytes] ++
  sortedBy id (hardware.gpus.map fun gpu => gpu.name ++ ":" ++ toString gpu.vramTotalBytes) ++
  sortedBy id (hardware.accelerators.map acceleratorText)

end Machines

section Builds

/-- Python `runtime_capability_version`. -/
def runtimeCapabilityVersion : Option ProbedVersions → Option String
  | some (.llamaCpp versionText) => versionText
  | some (.pyTorch torchVersion transformersVersion) =>
    match [torchVersion, transformersVersion].filterMap id with
    | [] => none
    | parts => some (" / ".intercalate parts)
  | none => none

/-- The build that a benchmark ran on. -/
def benchmarkBuild (benchmark : CaseBenchmark) : Option String :=
  match benchmark.llamaBenchVersion with
  | some version => version
  | none => runtimeCapabilityVersion benchmark.versions

/-- A colon or lower-case letter of a pattern whose case is ignored. -/
def anyCase (letter c : ℕ) : Bool :=
  c = letter || (97 ≤ letter && c + 32 = letter) || (letter = 115 && c = 0x17f) ||
    (letter = 105 && (c = 0x130 || c = 0x131))

/-- A literal whose case is ignored. -/
def literalAnyCase : List ℕ → Pattern
  | [] => fun place => [place]
  | letter :: rest => (Pattern.one (anyCase letter)).seq (literalAnyCase rest)

/-- `[0-9a-f]`, whose case is ignored. -/
def isHexAnyCase (c : ℕ) : Bool :=
  isHexCode c || (65 ≤ c && c ≤ 70)

/-- What two groups read, with patterns around the first. -/
def pairAt (before group₁ between group₂ after : Pattern) (place : Place) : List (List ℕ × List ℕ) :=
  (before place).flatMap fun a => (group₁ a).flatMap fun b =>
    (between b).flatMap fun c => (group₂ c).flatMap fun d =>
      (after d).map fun _ => (readBetween a b, readBetween c d)

/-- Python `_LLAMA_CPP_BUILD`: the number and the commit that it reads at a place. -/
def llamaCppBuild (place : Place) : List (List ℕ × List ℕ) :=
  let space := isSpaceCode
  let number := Pattern.plus isDigitCode
  let commit := Pattern.plus isHexAnyCase
  let opening := (Pattern.star space).seq (.literal (codesOf "("))
  let closing := Pattern.literal (codesOf ")")
  let comma := ((Pattern.literal (codesOf ",")).seq (.star space)).seq
    ((literalAnyCase (codesOf "commit")).seq (.plus space))
  pairAt ((literalAnyCase (codesOf "version:")).seq (.star space)).opt number opening commit closing place ++
  (pairAt ((literalAnyCase (codesOf "build:")).seq (.star space)) commit opening number closing place).map
    Prod.swap ++
  pairAt ((literalAnyCase (codesOf "build")).seq (.plus space)) number comma commit (fun place => [place])
    place

/-- What is found at the first place of a text where something is found (Python `re.search`). -/
def searchFrom {α : Type} (at' : Place → List α) : Option ℕ → List ℕ → Option α
  | before, text =>
    match at' ⟨before, text⟩ with
    | found :: _ => some found
    | [] =>
      match text with
      | [] => none
      | c :: rest => searchFrom at' (some c) rest

/-- Python `_runtime_build_key`. -/
def runtimeBuildKey (build : String) : List ℕ :=
  match searchFrom llamaCppBuild none (codesOf build) with
  | some (number, commit) =>
    codesOf "llama.cpp " ++ number ++ codesOf " (" ++
      commit.map (fun c => if 65 ≤ c ∧ c ≤ 70 then c + 32 else c) ++ codesOf ")"
  | none => codesOf build

example : runtimeBuildKey "version: 10357 (689E227DB)" = runtimeBuildKey "build: 689e227db (10357)" := by
  decide +kernel

end Builds

section Conditions

/-- Python `str(text)` of a text that may be missing. -/
def versionText (version : Option String) : String :=
  version.getD "None"

/-- What differs between one GPU at two scans. -/
def gpuDifferences (index : ℕ) (one other : GpuInfo) : List String :=
  (if one.vramAvailableBytes ≠ other.vramAvailableBytes then
    ["available VRAM on GPU " ++ toString index ++ " differed at scan time (" ++
      toString one.vramAvailableBytes ++ " vs " ++ toString other.vramAvailableBytes ++ " bytes)"]
  else []) ++
  (if one.driverVersion ≠ other.driverVersion then
    ["GPU " ++ toString index ++ " driver differed (" ++ versionText one.driverVersion ++ " vs " ++
      versionText other.driverVersion ++ ")"]
  else []) ++
  if one.cudaVersion ≠ other.cudaVersion then
    ["GPU " ++ toString index ++ " CUDA version differed (" ++ versionText one.cudaVersion ++ " vs " ++
      versionText other.cudaVersion ++ ")"]
  else []

/-- Python `_condition_differences`. -/
def conditionDifferences (left right : HardwareProfile) : List String :=
  (if left.memory.availableBytes ≠ right.memory.availableBytes then
    ["available RAM differed at scan time (" ++ toString left.memory.availableBytes ++ " vs " ++
      toString right.memory.availableBytes ++ " bytes)"]
  else []) ++
  ((left.gpus.zip right.gpus).zipIdx.flatMap fun ((one, other), index) =>
    gpuDifferences index one other)

end Conditions

end Jaull.Cases
