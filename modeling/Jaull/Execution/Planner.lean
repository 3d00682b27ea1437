import Jaull.Lib.FlagUnits
import Jaull.Lib.NumberText
import Jaull.Lib.Words
import Jaull.Runtime.DeviceMatching
import Jaull.Runtime.Recommend

/-!
# Launch planning

Port of `plan_launch` of `jaull/application/execution/planner.py`. The steps that pin a device and that
switch flash attention off show what they add in the command preview; the step that applies the overrides of
the user does not, and a device that is pinned again is shown twice.
-/

namespace Jaull.Execution
open Jaull.Domain Jaull.Lib Jaull.Runtime Jaull.Text

section Model

/-- Python `ExecutionOverrides`. -/
structure ExecutionOverrides where
  contextSize : Option ℤ := none
  nGpuLayers : Option ℤ := none
  deriving DecidableEq, Repr

/-- Python `RuntimeBackendCapability`. -/
inductive RuntimeBackendCapability
  | llamaCpp (devices : List LlamaCppRuntimeDevice)
  | pyTorch
  deriving DecidableEq, Repr

/-- Python `ExecutionReadiness`, with the capability of the selected backend. -/
structure LaunchReadiness extends ExecutionReadiness where
  selectedBackendCapability : Option RuntimeBackendCapability := none
  deriving DecidableEq, Repr

/-- The arguments of Python `plan_launch`. -/
structure PlanArguments where
  runtime : RuntimeName
  estimate : Option PlannedEstimate := none
  hardware : Option HardwareProfile := none
  overrides : Option ExecutionOverrides := none
  tensorContext : Option LlamaCppTensorContext := none
  backendSelection : Option RuntimeBackendSelection := none
  executionReadiness : Option LaunchReadiness := none

/-- The context that the user sets. -/
def PlanArguments.contextSize (arguments : PlanArguments) : Option ℤ :=
  arguments.overrides.bind (·.contextSize)

/-- The layers that the user sets. -/
def PlanArguments.nGpuLayers (arguments : PlanArguments) : Option ℤ :=
  arguments.overrides.bind (·.nGpuLayers)

/-- Python `LLAMA_CPP_DEFAULT_CONTEXT_SIZE`. -/
def llamaCppDefaultContextSize : ℤ :=
  4096

/-- A launch that is left to the user. -/
def userSpecifiedLaunch (runtime : RuntimeName) : LaunchRecommendation where
  runtime := runtime
  confidence := .unknown
  reasons := ["No memory estimate available; the launch plan is user-specified."]
  flags :=
    if runtime = .llamaCpp then
      [{ name := "--ctx-size"
         value := toString llamaCppDefaultContextSize
         source := .policy
         explanation := "llama.cpp default context; no memory estimate was run." }]
    else []

/-- Python `_automatic_launch`. -/
def automaticLaunch (arguments : PlanArguments) : Except LaunchFailure LaunchRecommendation :=
  match arguments.estimate with
  | none => .ok (userSpecifiedLaunch arguments.runtime)
  | some estimate =>
    match estimate.stored.filter (·.runtime = arguments.runtime) with
    | some existing => .ok existing
    | none =>
      if arguments.hardware.isNone then .ok (userSpecifiedLaunch arguments.runtime)
      else do
        let recomputed ← recommend estimate estimate.repositoryType
        return if recomputed.runtime = arguments.runtime then recomputed
          else userSpecifiedLaunch arguments.runtime

/-- The recommendation that the steps start from. -/
def startingLaunch (arguments : PlanArguments) : Except LaunchFailure LaunchRecommendation := do
  let base ← automaticLaunch arguments
  match arguments.tensorContext, arguments.estimate with
  | some context, some estimate =>
    if arguments.runtime = .llamaCpp ∧ arguments.hardware.isSome ∧ arguments.nGpuLayers.isNone then
      if arguments.contextSize.all (· = estimate.inferenceConfiguration.contextLength) then
        buildLlamaCpp estimate (some context)
      else
        return { base with
          warnings := base.warnings ++
            ["Local tensor refinement skipped: context override differs from KV estimate."] }
    else return base
  | _, _ => return base

/-- Python `_upsert_flag`. -/
def upsertFlag (flags : List LaunchFlag) (name value explanation : String) : List LaunchFlag :=
  let replacement : LaunchFlag :=
    { name := name, value := value, source := .userInput, explanation := explanation }
  if flags.any (·.name = name) then flags.map fun flag => if flag.name = name then replacement else flag
  else flags ++ [replacement]

/-- The device that a launch is pinned to. -/
structure PinnedDevice where
  backend : ComputeBackend
  runtimeId : String
  deriving DecidableEq, Repr

/-- The guards of Python `_apply_backend_device`. -/
def pinnedDevice (backendSelection : Option RuntimeBackendSelection)
    (executionReadiness : Option LaunchReadiness) : Option PinnedDevice :=
  match backendSelection, executionReadiness with
  | some selection, some readiness =>
    if readiness.status ≠ .ready then none
    else if selection.selectedBackend = .cpu then none
    else
      match readiness.runtimeCapability, readiness.selectedBackendCapability with
      | .llamaCpp _, some (.llamaCpp devices) =>
        if devices.isEmpty then none
        else
          match (matchRuntimeDevice selection devices).device with
          | none => none
          | some matched =>
            if strip matched.runtimeId = "" then none
            else some { backend := selection.selectedBackend, runtimeId := matched.runtimeId }
      | _, _ => none
  | _, _ => none

/-- Python `_apply_backend_device`. -/
def applyBackendDevice (rec : LaunchRecommendation) (backendSelection : Option RuntimeBackendSelection)
    (executionReadiness : Option LaunchReadiness) : LaunchRecommendation :=
  if rec.runtime ≠ .llamaCpp then rec
  else
    match pinnedDevice backendSelection executionReadiness with
    | none => rec
    | some pinned =>
      { rec with
        flags := upsertFlag rec.flags "--device" pinned.runtimeId
          ("Runtime device selected by the confirmed llama.cpp capability probe (" ++
            pinned.backend.value ++ ").")
        commandPreview := rec.commandPreview.map fun preview => preview ++ " --device " ++ pinned.runtimeId }

/-- A flag that is set where the user gives a value. -/
def upsertGiven (flags : List LaunchFlag) (name : String) (value : Option ℤ) (explanation : String) :
    List LaunchFlag :=
  match value with
  | some value => upsertFlag flags name (toString value) explanation
  | none => flags

/-- The flags with what the user sets. -/
def overriddenFlags (flags : List LaunchFlag) (overrides : ExecutionOverrides) : List LaunchFlag :=
  upsertGiven
    (upsertGiven flags "--ctx-size" overrides.contextSize "Context length set explicitly on the command line.")
    "--n-gpu-layers" overrides.nGpuLayers "GPU layer count set explicitly on the command line."

/-- Python `_apply_overrides`. -/
def applyOverrides (rec : LaunchRecommendation) (overrides : ExecutionOverrides) : LaunchRecommendation :=
  let flags := overriddenFlags rec.flags overrides
  if flags = rec.flags then rec else { rec with flags := flags }

/-- Whether a driver is one of Mesa Dozen. -/
def isDozen (selection : RuntimeBackendSelection) : Bool :=
  match selection.backendInfo with
  | none => false
  | some info => casefold (strip (info.driverName.getD "")) ∈ ["dozen", "dzn"]

/-- The guards of Python `_apply_vulkan_driver_compatibility`. -/
def needsFlashAttnOff (rec : LaunchRecommendation) (selection : Option RuntimeBackendSelection) : Bool :=
  match selection with
  | none => false
  | some selection =>
    rec.runtime = .llamaCpp && selection.selectedBackend = .vulkan && isDozen selection &&
      rec.flags.any (fun flag => flag.name = "--n-gpu-layers" && flag.value ≠ "0") &&
      !rec.flags.any (·.name = "--flash-attn")

/-- Why flash attention is switched off. -/
def flashAttnExplanation : String :=
  "Flash Attention disabled for Mesa Dozen compatibility: the automatic " ++
    "shader path can request an unsupported Vulkan subgroup size."

/-- Python `_apply_vulkan_driver_compatibility`. -/
def applyVulkanDriverCompatibility (rec : LaunchRecommendation)
    (selection : Option RuntimeBackendSelection) : LaunchRecommendation :=
  if needsFlashAttnOff rec selection then
    { rec with
      flags := rec.flags ++
        [{ name := "--flash-attn", value := "off", source := .policy, explanation := flashAttnExplanation }]
      warnings := rec.warnings ++ [flashAttnExplanation]
      commandPreview := rec.commandPreview.map fun preview => preview ++ " --flash-attn off" }
  else rec

/-- Python `_LLAMA_CPP_REQUIRED_FLAGS`. -/
def llamaCppRequiredFlags : List String :=
  ["--ctx-size", "--n-gpu-layers"]

/-- Python `_require_runnable`. -/
def requireRunnable (runtime : RuntimeName) (rec : LaunchRecommendation) : Except LaunchFailure Unit :=
  if runtime ≠ .llamaCpp then .ok ()
  else
    let missing := llamaCppRequiredFlags.filter fun name => !rec.flags.any (·.name = name)
    if missing.isEmpty then .ok ()
    else
      .error (.planning ("Could not resolve an automatic llama.cpp launch plan (missing " ++
        ", ".intercalate missing ++ "). Re-run with --n-gpu-layers 0 for CPU-only, or " ++
        "--n-gpu-layers N to choose the offload explicitly."))

/-- The steps behind the starting launch. -/
def resolvedLaunch (base : LaunchRecommendation) (arguments : PlanArguments) : LaunchRecommendation :=
  let pinned := applyBackendDevice base arguments.backendSelection arguments.executionReadiness
  let overridden := applyOverrides pinned (arguments.overrides.getD {})
  applyVulkanDriverCompatibility overridden arguments.backendSelection

/-- Python `plan_launch`. -/
def planLaunch (arguments : PlanArguments) : Except LaunchFailure LaunchRecommendation := do
  let base ← startingLaunch arguments
  let resolved := resolvedLaunch base arguments
  requireRunnable arguments.runtime resolved
  return resolved

end Model

section Command

/-- The words of a command line. -/
def commandWords (text : String) : List String :=
  (wordsOf isSpace text.toList).map String.ofList

/-- A text that a command line shows as one word. -/
def ShownWhole (text : String) : Prop :=
  IsWord isSpace text.toList

/-- The flags with their values. -/
def pairsOf (flags : List LaunchFlag) : List (String × String) :=
  flags.map fun flag => (flag.name, flag.value)

/-- A flag as a command line shows it. -/
def shown (flag : String × String) : List String :=
  [flag.1, flag.2]

/-- A command line shows exactly these flags behind its program, each once and with its value. -/
def ListsFlags (preview : String) (flags : List (String × String)) : Prop :=
  (flags.map Prod.fst).Nodup ∧
    ∃ (program : String) (listed : List (String × String)),
      commandWords preview = program :: listed.flatMap shown ∧ listed.Perm flags

/-- The command preview, where there is one, lists the flags. -/
def ShowsCommand (rec : LaunchRecommendation) : Prop :=
  ∀ preview, rec.commandPreview = some preview → ListsFlags preview (pairsOf rec.flags)

variable {text text' : String} {flags flags' : List (String × String)}

/-- Words on either side of a blank. -/
lemma commandWords_append (text text' : String) :
    commandWords (text ++ " " ++ text') = commandWords text ++ commandWords text' := by
  have parted : (text ++ " " ++ text').toList = text.toList ++ ' ' :: text'.toList := by
    rw [String.toList_append, String.toList_append, List.append_assoc]
    rfl
  rw [commandWords, parted, wordsOf_append_gap (by decide), List.map_append]
  rfl

/-- A text that is shown whole is one word. -/
lemma ShownWhole.words (whole : ShownWhole text) : commandWords text = [text] := by
  rw [commandWords, IsWord.wordsOf_eq whole, List.map_singleton, String.ofList_toList]

/-- Each word is shown whole. -/
lemma shownWhole_of_mem {word : String} (mem : word ∈ commandWords text) : ShownWhole word := by
  obtain ⟨letters, inside, rfl⟩ := List.mem_map.mp mem
  rw [ShownWhole, String.toList_ofList]
  exact isWord_of_mem inside

/-- The characters of a number are no blanks. -/
lemma isSpace_of_number {c : Char} (number : Lib.isNumberChar c = true) : isSpace c = false := by
  simp only [Lib.isNumberChar, Bool.or_eq_true, decide_eq_true_eq] at number
  rcases number with (((digit | rfl) | rfl) | rfl) | rfl
  · apply isSpace_of_isSlugChar
    simp only [Char.isDigit, Bool.and_eq_true, decide_eq_true_eq] at digit
    simp only [isSlugChar, Bool.or_eq_true, Bool.and_eq_true, decide_eq_true_eq]
    exact .inr digit
  · decide
  · decide
  · decide
  · decide

/-- A number is shown whole. -/
lemma shownWhole_toString (n : ℤ) : ShownWhole (toString n) := by
  refine ⟨?_, ?_⟩
  · rw [toList_toString, intText]
    obtain ⟨c, rest, digits, _⟩ := toDigits_head n.natAbs
    rw [digits, signed]
    split
    · exact List.cons_ne_nil _ _
    · exact List.cons_ne_nil _ _
  · intro c mem
    rw [toList_toString] at mem
    exact isSpace_of_number (intText_number n c mem)

/-- What is shown is read back. -/
lemma flatMap_shown_injective (eq : flags.flatMap shown = flags'.flatMap shown) : flags = flags' := by
  induction flags generalizing flags' with
  | nil =>
    cases flags' with
    | nil => rfl
    | cons flag rest => cases eq
  | cons flag rest ih =>
    cases flags' with
    | nil => cases eq
    | cons flag' rest' =>
      rw [List.flatMap_cons, List.flatMap_cons] at eq
      obtain ⟨name, values⟩ := List.cons.inj eq
      obtain ⟨value, others⟩ := List.cons.inj values
      rw [ih others, Prod.ext name value]

/-- A name or value that is listed is a word of the command. -/
lemma mem_words_of_listed {program word : String} {listed : List (String × String)} {flag : String × String}
    (words : commandWords text = program :: listed.flatMap shown) (mem : flag ∈ listed) (part : word ∈ shown flag) :
    word ∈ commandWords text := by
  rw [words]
  exact List.mem_cons_of_mem _ (List.mem_flatMap.mpr ⟨flag, mem, part⟩)

end Command

section Upsert
variable {flags : List LaunchFlag} {name value explanation : String} {pair : String × String}

/-- A flag is set when its name is among the pairs. -/
lemma mem_names_iff : (flags.any (·.name = name)) = true ↔ name ∈ (pairsOf flags).map Prod.fst := by
  rw [pairsOf, List.map_map, List.any_eq_true, List.mem_map]
  constructor
  · rintro ⟨flag, mem, same⟩
    exact ⟨flag, mem, of_decide_eq_true same⟩
  · rintro ⟨flag, mem, same⟩
    exact ⟨flag, mem, decide_eq_true same⟩

/-- A flag that is there keeps its place and gets the value. -/
lemma pairsOf_upsertFlag_of_mem (there : name ∈ (pairsOf flags).map Prod.fst) :
    pairsOf (upsertFlag flags name value explanation) =
      (pairsOf flags).map fun pair => if pair.1 = name then (name, value) else pair := by
  rw [upsertFlag, if_pos (mem_names_iff.mpr there), pairsOf, pairsOf, List.map_map, List.map_map]
  apply List.map_congr_left
  intro flag mem
  change (_, _) = if flag.name = name then _ else _
  by_cases same : flag.name = name
  · dsimp only [Function.comp]
    rw [if_pos same, if_pos same]
  · dsimp only [Function.comp]
    rw [if_neg same, if_neg same]

/-- A flag that is not there comes last. -/
lemma pairsOf_upsertFlag_of_notMem (fresh : name ∉ (pairsOf flags).map Prod.fst) :
    pairsOf (upsertFlag flags name value explanation) = pairsOf flags ++ [(name, value)] := by
  rw [upsertFlag, if_neg (fun there => fresh (mem_names_iff.mp there)), pairsOf, List.map_append]
  rfl

/-- An upsert sets the flag. -/
lemma mem_pairsOf_upsertFlag : (name, value) ∈ pairsOf (upsertFlag flags name value explanation) := by
  by_cases there : name ∈ (pairsOf flags).map Prod.fst
  · rw [pairsOf_upsertFlag_of_mem there]
    obtain ⟨pair, mem, same⟩ := List.mem_map.mp there
    exact List.mem_map.mpr ⟨pair, mem, if_pos same⟩
  · rw [pairsOf_upsertFlag_of_notMem there]
    exact List.mem_append_right _ (List.mem_singleton.mpr rfl)

/-- The other flags stay as they are. -/
lemma mem_pairsOf_upsertFlag_iff (other : pair.1 ≠ name) :
    pair ∈ pairsOf (upsertFlag flags name value explanation) ↔ pair ∈ pairsOf flags := by
  by_cases there : name ∈ (pairsOf flags).map Prod.fst
  · rw [pairsOf_upsertFlag_of_mem there, List.mem_map]
    constructor
    · rintro ⟨held, mem, made⟩
      split at made
      · rw [← made] at other
        exact absurd rfl other
      · exact made ▸ mem
    · intro mem
      exact ⟨pair, mem, if_neg other⟩
  · rw [pairsOf_upsertFlag_of_notMem there, List.mem_append, List.mem_singleton]
    apply or_iff_left
    rintro rfl
    exact other rfl

/-- Giving a flag the value that it has changes nothing that is shown. -/
lemma pairsOf_upsertFlag_self (nodup : ((pairsOf flags).map Prod.fst).Nodup) (held : (name, value) ∈ pairsOf flags) :
    pairsOf (upsertFlag flags name value explanation) = pairsOf flags := by
  rw [pairsOf_upsertFlag_of_mem (List.mem_map.mpr ⟨_, held, rfl⟩)]
  refine (List.map_congr_left ?_).trans (List.map_id _)
  intro pair mem
  split
  · rename_i same
    exact List.inj_on_of_nodup_map nodup held mem same.symm
  · rfl

/-- A flag that is there is not counted again. -/
lemma length_upsertFlag_of_mem (there : name ∈ (pairsOf flags).map Prod.fst) :
    (pairsOf (upsertFlag flags name value explanation)).length = (pairsOf flags).length := by
  rw [pairsOf_upsertFlag_of_mem there, List.length_map]

variable {given : Option ℤ}

/-- So does an upsert of a number that is given. -/
lemma mem_pairsOf_upsertGiven {n : ℤ} (value : given = some n) :
    (name, toString n) ∈ pairsOf (upsertGiven flags name given explanation) := by
  rw [value]
  exact mem_pairsOf_upsertFlag

/-- Other flags stay. -/
lemma mem_pairsOf_upsertGiven_iff (other : pair.1 ≠ name) :
    pair ∈ pairsOf (upsertGiven flags name given explanation) ↔ pair ∈ pairsOf flags := by
  cases given with
  | none => exact Iff.rfl
  | some n => exact mem_pairsOf_upsertFlag_iff other

/-- A flag that holds the number already stays as it is. -/
lemma pairsOf_upsertGiven_self (nodup : ((pairsOf flags).map Prod.fst).Nodup)
    (held : ∀ n, given = some n → (name, toString n) ∈ pairsOf flags) :
    pairsOf (upsertGiven flags name given explanation) = pairsOf flags := by
  cases given with
  | none => rfl
  | some n => exact pairsOf_upsertFlag_self nodup (held n rfl)

/-- Such an upsert adds no flag. -/
lemma length_upsertGiven (held : ∀ n, given = some n → (name, toString n) ∈ pairsOf flags) :
    (pairsOf (upsertGiven flags name given explanation)).length = (pairsOf flags).length := by
  cases given with
  | none => rfl
  | some n => exact length_upsertFlag_of_mem (List.mem_map.mpr ⟨_, held n rfl, rfl⟩)

end Upsert

section Steps

lemma ctxSize_ne_device : "--ctx-size" ≠ "--device" := by decide

lemma nGpuLayers_ne_device : "--n-gpu-layers" ≠ "--device" := by decide

lemma ctxSize_ne_nGpuLayers : "--ctx-size" ≠ "--n-gpu-layers" := by decide

variable {base : LaunchRecommendation} {arguments : PlanArguments}

/-- The device that a launch is pinned to. -/
def PlanArguments.pinned (arguments : PlanArguments) : Option PinnedDevice :=
  pinnedDevice arguments.backendSelection arguments.executionReadiness

/-- The flag that pins the device. -/
def deviceFlag (pinned : Option PinnedDevice) : List (String × String) :=
  pinned.toList.map fun pinned => ("--device", pinned.runtimeId)

/-- The words that pinning adds to a preview. -/
def deviceWords (pinned : Option PinnedDevice) : List String :=
  pinned.toList.flatMap fun pinned => "--device" :: commandWords pinned.runtimeId

/-- The flags of a launch once its device is pinned. -/
def pinnedFlags (base : LaunchRecommendation) (arguments : PlanArguments) : List LaunchFlag :=
  (applyBackendDevice base arguments.backendSelection arguments.executionReadiness).flags

/-- The flags of a launch once the overrides are applied. -/
def plannedFlags (base : LaunchRecommendation) (arguments : PlanArguments) : List LaunchFlag :=
  overriddenFlags (pinnedFlags base arguments) (arguments.overrides.getD {})

/-- What the user does not set again, and where a device is pinned for the first time, the preview goes
on showing. -/
structure KeepsPreview (base : LaunchRecommendation) (arguments : PlanArguments) : Prop where
  device : ∀ pinned, arguments.pinned = some pinned →
    "--device" ∉ (pairsOf base.flags).map Prod.fst ∧ ShownWhole pinned.runtimeId
  contextSize : ∀ n, arguments.contextSize = some n → ("--ctx-size", toString n) ∈ pairsOf base.flags
  nGpuLayers : ∀ n, arguments.nGpuLayers = some n → ("--n-gpu-layers", toString n) ∈ pairsOf base.flags

/-- Overrides change flags only. -/
lemma applyOverrides_eq (rec : LaunchRecommendation) (overrides : ExecutionOverrides) :
    applyOverrides rec overrides = { rec with flags := overriddenFlags rec.flags overrides } := by
  rw [applyOverrides]
  split
  · rename_i same
    rw [same]
  · rfl

/-- The context that is asked for is the one of the arguments. -/
lemma contextSize_getD : (arguments.overrides.getD {}).contextSize = arguments.contextSize := by
  rw [PlanArguments.contextSize]
  cases arguments.overrides with
  | none => rfl
  | some overrides => rfl

/-- So are the layers. -/
lemma nGpuLayers_getD : (arguments.overrides.getD {}).nGpuLayers = arguments.nGpuLayers := by
  rw [PlanArguments.nGpuLayers]
  cases arguments.overrides with
  | none => rfl
  | some overrides => rfl

/-- Pinning keeps the other flags. -/
lemma mem_pinnedFlags_iff {pair : String × String} (other : pair.1 ≠ "--device") :
    pair ∈ pairsOf (pinnedFlags base arguments) ↔ pair ∈ pairsOf base.flags := by
  rw [pinnedFlags, applyBackendDevice]
  split
  · exact Iff.rfl
  · cases pinnedDevice arguments.backendSelection arguments.executionReadiness with
    | none => exact Iff.rfl
    | some pinned => exact mem_pairsOf_upsertFlag_iff other

variable (llamaCpp : base.runtime = .llamaCpp)
include llamaCpp

/-- A pinned device is among the flags. -/
lemma mem_pinnedFlags {pinned : PinnedDevice} (at' : arguments.pinned = some pinned) :
    ("--device", pinned.runtimeId) ∈ pairsOf (pinnedFlags base arguments) := by
  rw [PlanArguments.pinned] at at'
  rw [pinnedFlags, applyBackendDevice, if_neg (not_not.mpr llamaCpp), at']
  exact mem_pairsOf_upsertFlag

/-- A device that is pinned for the first time comes last. -/
lemma pairsOf_pinnedFlags (fresh : ∀ pinned, arguments.pinned = some pinned →
    "--device" ∉ (pairsOf base.flags).map Prod.fst) :
    pairsOf (pinnedFlags base arguments) = pairsOf base.flags ++ deviceFlag arguments.pinned := by
  rw [PlanArguments.pinned] at fresh ⊢
  rw [pinnedFlags, applyBackendDevice, if_neg (not_not.mpr llamaCpp)]
  cases at' : pinnedDevice arguments.backendSelection arguments.executionReadiness with
  | none => exact (List.append_nil _).symm
  | some pinned => exact pairsOf_upsertFlag_of_notMem (fresh pinned at')

/-- Where a device was set, pinning adds no flag. -/
lemma length_pinnedFlags (there : "--device" ∈ (pairsOf base.flags).map Prod.fst) :
    (pairsOf (pinnedFlags base arguments)).length = (pairsOf base.flags).length := by
  rw [pinnedFlags, applyBackendDevice, if_neg (not_not.mpr llamaCpp)]
  cases pinnedDevice arguments.backendSelection arguments.executionReadiness with
  | none => rfl
  | some pinned => exact length_upsertFlag_of_mem there

/-- Where nothing is set again, the steps add the flag of the device and no other. -/
lemma pairsOf_plannedFlags (nodup : ((pairsOf base.flags).map Prod.fst).Nodup)
    (keeps : KeepsPreview base arguments) :
    pairsOf (plannedFlags base arguments) = pairsOf base.flags ++ deviceFlag arguments.pinned ∧
      ((pairsOf (plannedFlags base arguments)).map Prod.fst).Nodup := by
  have pinnedPairs := pairsOf_pinnedFlags llamaCpp fun pinned at' => (keeps.device pinned at').1
  have pinnedNodup : ((pairsOf (pinnedFlags base arguments)).map Prod.fst).Nodup := by
    rw [pinnedPairs, deviceFlag]
    cases at' : arguments.pinned with
    | none =>
      rw [Option.toList_none, List.map_nil, List.append_nil]
      exact nodup
    | some pinned => exact nodup_names_concat nodup (keeps.device pinned at').1
  have context : ∀ n, (arguments.overrides.getD {}).contextSize = some n →
      ("--ctx-size", toString n) ∈ pairsOf (pinnedFlags base arguments) := by
    intro n value
    rw [contextSize_getD] at value
    exact (mem_pinnedFlags_iff ctxSize_ne_device).mpr (keeps.contextSize n value)
  have contextPairs : pairsOf (upsertGiven (pinnedFlags base arguments) "--ctx-size"
      (arguments.overrides.getD {}).contextSize "Context length set explicitly on the command line.") =
      pairsOf (pinnedFlags base arguments) := pairsOf_upsertGiven_self pinnedNodup context
  have layers : ∀ n, (arguments.overrides.getD {}).nGpuLayers = some n → ("--n-gpu-layers", toString n) ∈
      pairsOf (upsertGiven (pinnedFlags base arguments) "--ctx-size" (arguments.overrides.getD {}).contextSize
        "Context length set explicitly on the command line.") := by
    intro n value
    rw [nGpuLayers_getD] at value
    rw [contextPairs]
    exact (mem_pinnedFlags_iff nGpuLayers_ne_device).mpr (keeps.nGpuLayers n value)
  have planned : pairsOf (plannedFlags base arguments) = pairsOf (pinnedFlags base arguments) := by
    rw [plannedFlags, overriddenFlags, pairsOf_upsertGiven_self (contextPairs ▸ pinnedNodup) layers, contextPairs]
  exact ⟨planned.trans pinnedPairs, planned ▸ pinnedNodup⟩

/-- Where the steps add the flag of the device and no other, nothing is set again. -/
lemma set_once_of_perm
    (perm : (pairsOf base.flags ++ deviceFlag arguments.pinned).Perm (pairsOf (plannedFlags base arguments))) :
    (∀ pinned, arguments.pinned = some pinned → "--device" ∉ (pairsOf base.flags).map Prod.fst) ∧
      (∀ n, arguments.contextSize = some n → ("--ctx-size", toString n) ∈ pairsOf base.flags) ∧
      ∀ n, arguments.nGpuLayers = some n → ("--n-gpu-layers", toString n) ∈ pairsOf base.flags := by
  have stays : ∀ pair ∈ pairsOf (plannedFlags base arguments), pair.1 ≠ "--device" → pair ∈ pairsOf base.flags := by
    intro pair mem other
    rcases List.mem_append.mp (perm.mem_iff.mpr mem) with mem | mem
    · exact mem
    · obtain ⟨pinned, _, rfl⟩ := List.mem_map.mp mem
      exact absurd rfl other
  have context : ∀ n, arguments.contextSize = some n → ("--ctx-size", toString n) ∈ pairsOf base.flags := by
    intro n value
    rw [← contextSize_getD] at value
    refine stays _ ?_ ctxSize_ne_device
    rw [plannedFlags, overriddenFlags, mem_pairsOf_upsertGiven_iff ctxSize_ne_nGpuLayers]
    exact mem_pairsOf_upsertGiven value
  have layers : ∀ n, arguments.nGpuLayers = some n → ("--n-gpu-layers", toString n) ∈ pairsOf base.flags := by
    intro n value
    rw [← nGpuLayers_getD] at value
    exact stays _ (mem_pairsOf_upsertGiven value) nGpuLayers_ne_device
  refine ⟨?_, context, layers⟩
  intro pinned at' there
  -- a device that is pinned again is counted once among the flags and twice in the preview
  have contextThere : ∀ n, (arguments.overrides.getD {}).contextSize = some n →
      ("--ctx-size", toString n) ∈ pairsOf (pinnedFlags base arguments) := by
    intro n value
    rw [contextSize_getD] at value
    exact (mem_pinnedFlags_iff ctxSize_ne_device).mpr (context n value)
  have layersThere : ∀ n, (arguments.overrides.getD {}).nGpuLayers = some n → ("--n-gpu-layers", toString n) ∈
      pairsOf (upsertGiven (pinnedFlags base arguments) "--ctx-size" (arguments.overrides.getD {}).contextSize
        "Context length set explicitly on the command line.") := by
    intro n value
    rw [nGpuLayers_getD] at value
    exact (mem_pairsOf_upsertGiven_iff ctxSize_ne_nGpuLayers.symm).mpr
      ((mem_pinnedFlags_iff nGpuLayers_ne_device).mpr (layers n value))
  have counted := perm.length_eq
  rw [plannedFlags, overriddenFlags, length_upsertGiven layersThere, length_upsertGiven contextThere,
    length_pinnedFlags llamaCpp there, List.length_append, at'] at counted
  exact absurd counted (Nat.ne_of_gt (Nat.lt_succ_self _))

end Steps

section Preview
variable {base launch : LaunchRecommendation} {arguments : PlanArguments} {preview : String}

/-- A text without blanks is shown whole. -/
lemma shownWhole_of_all {text : String} (some : text.toList.isEmpty = false)
    (solid : (text.toList.all fun c => !isSpace c) = true) : ShownWhole text where
  some := by
    intro empty
    rw [empty] at some
    cases some
  solid := by
    intro c mem
    exact Bool.not_eq_true' _ |>.mp (List.all_eq_true.mp solid c mem)

/-- The flag that switches flash attention off. -/
def flashFlag (base : LaunchRecommendation) (arguments : PlanArguments) : List (String × String) :=
  let pinned := applyBackendDevice base arguments.backendSelection arguments.executionReadiness
  if needsFlashAttnOff (applyOverrides pinned (arguments.overrides.getD {})) arguments.backendSelection then
    [("--flash-attn", "off")]
  else []

/-- The flags of the launch that is returned. -/
lemma pairsOf_resolvedLaunch (base : LaunchRecommendation) (arguments : PlanArguments) :
    pairsOf (resolvedLaunch base arguments).flags =
      pairsOf (plannedFlags base arguments) ++ flashFlag base arguments := by
  rw [resolvedLaunch, flashFlag, applyVulkanDriverCompatibility]
  split
  · rw [applyOverrides_eq, pairsOf, List.map_append]
    rfl
  · rw [applyOverrides_eq, List.append_nil]
    rfl

/-- Flash attention is switched off only where no flag says anything of it. -/
lemma flashFlag_cases (base : LaunchRecommendation) (arguments : PlanArguments) :
    flashFlag base arguments = [] ∨ flashFlag base arguments = [("--flash-attn", "off")] ∧
      "--flash-attn" ∉ (pairsOf (plannedFlags base arguments)).map Prod.fst := by
  rw [flashFlag]
  split
  · rename_i needs
    refine .inr ⟨rfl, ?_⟩
    intro there
    rw [applyOverrides_eq] at needs
    cases selected : arguments.backendSelection with
    | none =>
      rw [selected] at needs
      cases needs
    | some selection =>
      rw [selected, needsFlashAttnOff.eq_def] at needs
      dsimp only at needs
      rw [Bool.and_eq_true, Bool.not_eq_true', ← selected] at needs
      have named : (plannedFlags base arguments).any (·.name = "--flash-attn") = true := mem_names_iff.mpr there
      exact absurd (named.symm.trans needs.2) Bool.noConfusion
  · exact .inl rfl

/-- The words of a preview with a device. -/
lemma commandWords_device (preview runtimeId : String) :
    commandWords (preview ++ " --device " ++ runtimeId) =
      commandWords preview ++ "--device" :: commandWords runtimeId := by
  have spelled : preview ++ " --device " ++ runtimeId = preview ++ " " ++ "--device" ++ " " ++ runtimeId := by
    rw [show " --device " = " " ++ "--device" ++ " " by decide, ← String.append_assoc, ← String.append_assoc]
  have device : ShownWhole "--device" := shownWhole_of_all (by decide) (by decide)
  rw [spelled, commandWords_append, commandWords_append, device.words, List.append_assoc]
  rfl

/-- The words of a preview with flash attention off. -/
lemma commandWords_flash (preview : String) :
    commandWords (preview ++ " --flash-attn off") = commandWords preview ++ ["--flash-attn", "off"] := by
  have spelled : preview ++ " --flash-attn off" = preview ++ " " ++ "--flash-attn" ++ " " ++ "off" := by
    rw [show " --flash-attn off" = " " ++ "--flash-attn" ++ " " ++ "off" by decide, ← String.append_assoc,
      ← String.append_assoc, ← String.append_assoc]
  have name : ShownWhole "--flash-attn" := shownWhole_of_all (by decide) (by decide)
  have value : ShownWhole "off" := shownWhole_of_all (by decide) (by decide)
  rw [spelled, commandWords_append, commandWords_append, name.words, value.words, List.append_assoc]
  rfl

/-- Without a preview there is none to complete. -/
lemma preview_of_none (none : base.commandPreview = Option.none) :
    (resolvedLaunch base arguments).commandPreview = Option.none := by
  have pinned : (applyBackendDevice base arguments.backendSelection
      arguments.executionReadiness).commandPreview = Option.none := by
    rw [applyBackendDevice]
    split
    · exact none
    · cases pinnedDevice arguments.backendSelection arguments.executionReadiness with
      | none => exact none
      | some pinned =>
        dsimp only
        rw [none]
        rfl
  rw [resolvedLaunch, applyOverrides_eq, applyVulkanDriverCompatibility]
  dsimp only
  split
  · dsimp only
    rw [pinned]
    rfl
  · exact pinned

/-- The words of the preview that is returned. -/
lemma preview_of_some (arguments : PlanArguments) (llamaCpp : base.runtime = .llamaCpp)
    (some : base.commandPreview = Option.some preview) :
    ∃ text, (resolvedLaunch base arguments).commandPreview = Option.some text ∧
      commandWords text =
        commandWords preview ++ deviceWords arguments.pinned ++ (flashFlag base arguments).flatMap shown := by
  obtain ⟨text, pinned, words⟩ : ∃ text, (applyBackendDevice base arguments.backendSelection
      arguments.executionReadiness).commandPreview = Option.some text ∧
      commandWords text = commandWords preview ++ deviceWords arguments.pinned := by
    rw [applyBackendDevice, if_neg (not_not.mpr llamaCpp), PlanArguments.pinned]
    cases pinnedDevice arguments.backendSelection arguments.executionReadiness with
    | none => exact ⟨preview, some, (List.append_nil _).symm⟩
    | some pinned =>
      refine ⟨preview ++ " --device " ++ pinned.runtimeId, ?_, ?_⟩
      · dsimp only
        rw [some]
        rfl
      · rw [commandWords_device, deviceWords, Option.toList_some, List.flatMap_singleton]
  rw [resolvedLaunch, flashFlag, applyVulkanDriverCompatibility]
  split
  · refine ⟨text ++ " --flash-attn off", ?_, ?_⟩
    · rw [applyOverrides_eq]
      dsimp only
      rw [pinned]
      rfl
    · rw [commandWords_flash, words]
      rfl
  · refine ⟨text, ?_, ?_⟩
    · rw [applyOverrides_eq]
      exact pinned
    · rw [words, List.flatMap_nil, List.append_nil]

end Preview

section Starting
variable {arguments : PlanArguments} {base launch : LaunchRecommendation}

/-- The builder for llama.cpp launches llama.cpp. -/
lemma runtime_of_buildLlamaCpp {estimate : PlannedEstimate} {context : Option LlamaCppTensorContext}
    (built : buildLlamaCpp estimate context = .ok base) : base.runtime = .llamaCpp := by
  rw [buildLlamaCpp] at built
  cases plan : pickGpuLayers estimate.toLaunchEstimate context with
  | error failure =>
    rw [plan] at built
    cases built
  | ok layerPlan =>
    rw [plan] at built
    cases built
    rfl

/-- An automatic launch is of the runtime of the arguments. -/
lemma runtime_of_automaticLaunch (automatic : automaticLaunch arguments = .ok base) :
    base.runtime = arguments.runtime := by
  rw [automaticLaunch] at automatic
  split at automatic
  · cases automatic
    rfl
  · rename_i estimate _
    cases stored : estimate.stored.filter (·.runtime = arguments.runtime) with
    | some existing =>
      rw [stored] at automatic
      cases automatic
      exact of_decide_eq_true (Option.filter_eq_some_iff.mp stored).2
    | none =>
      rw [stored] at automatic
      dsimp only at automatic
      split at automatic
      · cases automatic
        rfl
      · cases recommended : recommend estimate estimate.repositoryType with
        | error failure =>
          rw [recommended] at automatic
          cases automatic
        | ok recomputed =>
          rw [recommended] at automatic
          cases automatic
          split
          · assumption
          · rfl

/-- So is the launch that a plan starts from. -/
lemma runtime_of_startingLaunch (llamaCpp : arguments.runtime = .llamaCpp)
    (starts : startingLaunch arguments = .ok base) : base.runtime = .llamaCpp := by
  rw [startingLaunch] at starts
  cases automatic : automaticLaunch arguments with
  | error failure =>
    rw [automatic] at starts
    cases starts
  | ok first =>
    have named := (runtime_of_automaticLaunch automatic).trans llamaCpp
    rw [automatic] at starts
    dsimp only [bind, Except.bind] at starts
    split at starts
    · split at starts
      · split at starts
        · exact runtime_of_buildLlamaCpp starts
        · cases starts
          exact named
      · cases starts
        exact named
    · cases starts
      exact named

/-- A plan resolves the launch it starts from. -/
lemma planLaunch_eq (starts : startingLaunch arguments = .ok base) (planned : planLaunch arguments = .ok launch) :
    launch = resolvedLaunch base arguments := by
  rw [planLaunch, starts] at planned
  dsimp only [bind, Except.bind] at planned
  split at planned
  · cases planned
  · cases planned
    rfl

end Starting

section Built
variable {estimate : PlannedEstimate}

/-- The recommendation that is built for llama.cpp shows its command when the name of the file is one word. -/
lemma llamaCppRecommendation_shows (layerPlan : LlamaCppLayerPlan) (whole : ShownWhole (fileHint estimate)) :
    ShowsCommand (llamaCppRecommendation estimate layerPlan) := by
  intro preview at'
  cases at'
  refine ⟨?_, "llama-server", pairsOf (llamaCppRecommendation estimate layerPlan).flags, ?_, List.Perm.refl _⟩
  · change ["--model", "--ctx-size", "--n-gpu-layers"].Nodup
    decide
  · have spelled : ∀ hint context layers : String,
        "llama-server --model " ++ hint ++ " --ctx-size " ++ context ++ " --n-gpu-layers " ++ layers =
          "llama-server" ++ " " ++ "--model" ++ " " ++ hint ++ " " ++ "--ctx-size" ++ " " ++ context ++ " " ++
            "--n-gpu-layers" ++ " " ++ layers := by
      intro hint context layers
      rw [show "llama-server --model " = "llama-server" ++ " " ++ "--model" ++ " " by decide,
        show " --ctx-size " = " " ++ "--ctx-size" ++ " " by decide,
        show " --n-gpu-layers " = " " ++ "--n-gpu-layers" ++ " " by decide]
      simp only [String.append_assoc]
    have program : ShownWhole "llama-server" := shownWhole_of_all (by decide) (by decide)
    have model : ShownWhole "--model" := shownWhole_of_all (by decide) (by decide)
    have ctxSize : ShownWhole "--ctx-size" := shownWhole_of_all (by decide) (by decide)
    have nGpuLayers : ShownWhole "--n-gpu-layers" := shownWhole_of_all (by decide) (by decide)
    rw [spelled, commandWords_append, commandWords_append, commandWords_append, commandWords_append,
      commandWords_append, commandWords_append, program.words, model.words, whole.words, ctxSize.words,
      nGpuLayers.words, (shownWhole_toString _).words, (shownWhole_toString _).words]
    rfl

end Built

section Shows
variable {arguments : PlanArguments} {base launch : LaunchRecommendation}

/-- A device that is shown whole is shown as the flag and its id. -/
lemma deviceWords_eq (whole : ∀ pinned, arguments.pinned = some pinned → ShownWhole pinned.runtimeId) :
    deviceWords arguments.pinned = (deviceFlag arguments.pinned).flatMap shown := by
  cases at' : arguments.pinned with
  | none => rfl
  | some pinned =>
    rw [deviceWords, Option.toList_some, List.flatMap_singleton, (whole pinned at').words]
    rfl

/-- The steps go on showing the command that they keep. -/
lemma shows_of_keeps (llamaCpp : base.runtime = .llamaCpp) (shows : ShowsCommand base)
    (keeps : KeepsPreview base arguments) : ShowsCommand (resolvedLaunch base arguments) := by
  intro text at'
  cases first : base.commandPreview with
  | none =>
    rw [preview_of_none first] at at'
    cases at'
  | some preview =>
    obtain ⟨nodup, program, listed, words, perm⟩ := shows preview first
    obtain ⟨planned, plannedNodup⟩ := pairsOf_plannedFlags llamaCpp nodup keeps
    obtain ⟨text', returned, words'⟩ := preview_of_some arguments llamaCpp first
    rw [returned] at at'
    cases at'
    refine ⟨?_, program, listed ++ deviceFlag arguments.pinned ++ flashFlag base arguments, ?_, ?_⟩
    · rw [pairsOf_resolvedLaunch]
      rcases flashFlag_cases base arguments with none | ⟨off, fresh⟩
      · rw [none, List.append_nil]
        exact plannedNodup
      · rw [off]
        exact nodup_names_concat plannedNodup fresh
    · rw [words', words, deviceWords_eq fun pinned at' => (keeps.device pinned at').2, List.flatMap_append,
        List.flatMap_append]
      rfl
    · rw [pairsOf_resolvedLaunch, planned]
      exact (perm.append_right _).append_right _

/-- What the steps go on showing, they kept. -/
lemma keeps_of_shows {preview : String} (llamaCpp : base.runtime = .llamaCpp) (shows : ShowsCommand base)
    (first : base.commandPreview = some preview) (after : ShowsCommand (resolvedLaunch base arguments)) :
    KeepsPreview base arguments := by
  obtain ⟨-, program, listed, words, perm⟩ := shows preview first
  obtain ⟨text, returned, words'⟩ := preview_of_some arguments llamaCpp first
  obtain ⟨-, program', listed', words'', perm'⟩ := after text returned
  rw [pairsOf_resolvedLaunch] at perm'
  have whole : ∀ pinned, arguments.pinned = some pinned → ShownWhole pinned.runtimeId := by
    intro pinned at'
    have set := mem_pinnedFlags llamaCpp at'
    have planned : ("--device", pinned.runtimeId) ∈ pairsOf (plannedFlags base arguments) := by
      rw [plannedFlags, overriddenFlags, mem_pairsOf_upsertGiven_iff nGpuLayers_ne_device.symm,
        mem_pairsOf_upsertGiven_iff ctxSize_ne_device.symm]
      exact set
    have listed := perm'.mem_iff.mpr (List.mem_append_left _ planned)
    exact shownWhole_of_mem (mem_words_of_listed words'' listed (List.mem_cons_of_mem _ List.mem_cons_self))
  have same : listed ++ deviceFlag arguments.pinned ++ flashFlag base arguments = listed' := by
    rw [words', words, deviceWords_eq whole, List.cons_append, List.cons_append, ← List.flatMap_append,
      ← List.flatMap_append] at words''
    exact flatMap_shown_injective (List.cons.inj words'').2
  rw [← same, List.perm_append_right_iff] at perm'
  obtain ⟨device, context, layers⟩ := set_once_of_perm llamaCpp ((perm.symm.append_right _).trans perm')
  exact ⟨fun pinned at' => ⟨device pinned at', whole pinned at'⟩, context, layers⟩

/-- The command that is shown is the one that will run exactly when no flag that it shows is set again: a
device is pinned to a launch without one and under an identifier of one word, and the context and the layers
that the user sets are those of the launch. -/
theorem planLaunch_shows_iff (llamaCpp : arguments.runtime = .llamaCpp) (starts : startingLaunch arguments = .ok base)
    (shows : ShowsCommand base) (planned : planLaunch arguments = .ok launch) :
    ShowsCommand launch ↔ base.commandPreview = none ∨ KeepsPreview base arguments := by
  have named := runtime_of_startingLaunch llamaCpp starts
  rw [planLaunch_eq starts planned]
  constructor
  · intro after
    cases first : base.commandPreview with
    | none => exact .inl rfl
    | some preview => exact .inr (keeps_of_shows named shows first after)
  · rintro (none | keeps)
    · intro text at'
      rw [preview_of_none none] at at'
      cases at'
    · exact shows_of_keeps named shows keeps

/-- A file of two blocks, with the launch that is stored with its estimate. -/
def plannedTwoBlocks : PlannedEstimate :=
  let estimate : PlannedEstimate := { twoBlockEstimate 0 (Int.le_refl 0) 0 with repositoryType := .gguf }
  { estimate with stored := some (llamaCppRecommendation estimate { nGpuLayers := 2 }) }

/-- The stored launch: `llama-server --model model.gguf --ctx-size 4096 --n-gpu-layers 2`. -/
def twoBlockLaunch : LaunchRecommendation :=
  llamaCppRecommendation plannedTwoBlocks { nGpuLayers := 2 }

/-- The launch of the example shows its command. -/
lemma twoBlockLaunch_shows : ShowsCommand twoBlockLaunch :=
  llamaCppRecommendation_shows _ (shownWhole_of_all (by decide) (by decide))

/-- The selection of a HIP device. -/
def hipSelection : RuntimeBackendSelection where
  selectedBackend := .hip
  reason := .nativeBackendAvailable

/-- A readiness for it. -/
def hipReadiness : LaunchReadiness where
  status := .ready
  reason := .selectedBackendExposed
  selection := hipSelection
  runtimeCapability := .llamaCpp "build"
  selectedBackendCapability := some (.llamaCpp [{ backend := .hip, runtimeId := "HIP0" }])

/-- A device is pinned, and the user sets a context. -/
def pinnedArguments (context : ℤ) : PlanArguments where
  runtime := .llamaCpp
  estimate := some plannedTwoBlocks
  overrides := some { contextSize := some context }
  backendSelection := some hipSelection
  executionReadiness := some hipReadiness

/-- The arguments of the example pin that device. -/
lemma pinnedArguments_pinned (context : ℤ) :
    (pinnedArguments context).pinned = some { backend := .hip, runtimeId := "HIP0" } := by
  have matched : pinnedDevice (some hipSelection) (some hipReadiness) =
      some { backend := .hip, runtimeId := "HIP0" } := by
    decide
  exact matched

/-- The context of the launch, set again, is shown with the device. -/
theorem sameContext_shown : ShowsCommand (resolvedLaunch twoBlockLaunch (pinnedArguments 4096)) := by
  have keeps : KeepsPreview twoBlockLaunch (pinnedArguments 4096) := by
    refine ⟨?_, ?_, ?_⟩
    · intro pinned at'
      rw [pinnedArguments_pinned] at at'
      cases at'
      exact ⟨by decide, shownWhole_of_all (by decide) (by decide)⟩
    · intro n at'
      cases at'
      decide
    · intro n at'
      cases at'
  exact (planLaunch_shows_iff rfl rfl twoBlockLaunch_shows rfl).mpr (.inr keeps)

/-- The launch runs with a context of 8192 and shows one of 4096. -/
theorem otherContext_hidden : ∃ base launch, startingLaunch (pinnedArguments 8192) = .ok base ∧
    ShowsCommand base ∧ planLaunch (pinnedArguments 8192) = .ok launch ∧ ¬ShowsCommand launch := by
  refine ⟨twoBlockLaunch, resolvedLaunch twoBlockLaunch (pinnedArguments 8192), rfl, twoBlockLaunch_shows, rfl, ?_⟩
  intro shows
  have keeps := keeps_of_shows rfl twoBlockLaunch_shows rfl shows
  have held := keeps.contextSize 8192 rfl
  exact absurd held (by decide)

end Shows

end Jaull.Execution
