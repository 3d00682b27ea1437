import Jaull.Domain.Candidates
import Jaull.Domain.ExecutionPlans
import Jaull.Domain.Memory
import Jaull.Text.Case
import Mathlib.Data.Rat.Floor

/-!
# KV cache

Port of `jaull/estimator/kv_cache.py`.
-/

namespace Jaull.Estimator
open Jaull.Domain Jaull.Lib Jaull.Text

/-- Python `FORMULA`. -/
def kvFormula : String :=
  "kv_bytes = 2 * num_layers * num_kv_heads * head_dim " ++
    "* context * batch * concurrent_users * bytes_per_kv_element"

/-- Python `_WINDOW_ALWAYS_ACTIVE_MODEL_TYPES`. -/
def windowAlwaysActiveModelTypes : List String :=
  ["mistral", "mixtral"]

/-- Python `key in flags`. -/
def hasFlag (flags : List (String × Json)) (key : String) : Bool :=
  (flags.lookup key).isSome

/-- Python `_is_mixture_of_experts`. -/
def isMixtureOfExperts (config : ModelConfig) : Bool :=
  ["num_experts", "num_local_experts", "moe_intermediate_size"].any (hasFlag config.rawFlags)

/-- Python `_detect_exotic_architecture`. -/
def detectExoticArchitecture (config : ModelConfig) : Option String :=
  let flags := config.rawFlags
  if (flags.lookup "unsupported_kv_head_dimensions").any Json.truthy then
    some "Unequal or unresolved key/value head dimensions"
  else if ["q_lora_rank", "kv_lora_rank"].any (hasFlag flags) then
    some "Multi-head Latent Attention (Deepseek-style)"
  else if ["text_config", "vision_config", "audio_config"].any (hasFlag flags) then
    some "Multimodal composite configuration"
  else if hasFlag flags "auto_map" then
    some "Custom architecture requiring trust_remote_code"
  else none

/-- The name the family of a model is known by. -/
def modelFamily (config : ModelConfig) : String :=
  lower (config.modelType.getD "")

/-- Python `_apply_sliding_window`: the context to size for, a note, and whether the decision rests on an
assumption. -/
def applySlidingWindow (config : ModelConfig) (contextLength : ℤ) : ℤ × Option String × Bool :=
  match config.slidingWindow with
  | none => (contextLength, none, false)
  | some window =>
    if window = 0 ∨ contextLength ≤ window then (contextLength, none, false)
    else
      match config.useSlidingWindow with
      | some true =>
        (window, some ("Context capped at sliding_window=" ++ toString window ++
          " tokens (user requested " ++ toString contextLength ++ "); use_sliding_window is true."),
          false)
      | some false =>
        (contextLength, some ("Config declares sliding_window=" ++ toString window ++
          " but use_sliding_window is false, so the window does not bound the KV cache and the full " ++
          toString contextLength ++ "-token context is sized."), false)
      | none =>
        let modelType := modelFamily config
        if modelType ∈ windowAlwaysActiveModelTypes then
          (window, some ("Context capped at sliding_window=" ++ toString window ++
            " tokens (user requested " ++ toString contextLength ++ "). " ++ modelType ++
            " does not expose use_sliding_window and windows attention unconditionally, so the " ++
            "window is applied on the architecture's behaviour."), true)
        else
          (contextLength, some ("Config declares sliding_window=" ++ toString window ++
            " but not use_sliding_window, and " ++
            (if modelType = "" then "this architecture" else modelType) ++
            " has no known window semantics. Sized for the full " ++ toString contextLength ++
            "-token context to avoid under-estimating the KV cache."), true)

/-- Python `_unknown`. -/
def unknownKvCache (contextLength batchSize dtypeBytes : ℤ) (reason : String) : KvCacheEstimate where
  component :=
    { name := "KV cache"
      bytes := none
      source := .unknown
      confidence := .unknown
      explanation := reason }
  contextLength := contextLength
  batchSize := batchSize
  dtypeBytes := dtypeBytes
  formula := kvFormula
  notes := [reason]

/-- The configuration fields without which the cache is unknown. -/
def missingFields (config : ModelConfig) : List String :=
  (if config.numHiddenLayers.isNone then ["num_hidden_layers"] else []) ++
    (if config.numAttentionHeads.isNone then ["num_attention_heads"] else []) ++
    if config.hiddenSize.isNone then ["hidden_size"] else []

/-- The dimension of a head (the `head_dim` of Python `estimate_kv_cache`). -/
def headDimension (config : ModelConfig) (hidden heads : ℤ) : Except EstimateError ℤ :=
  match config.headDim with
  | some dim => if dim = 0 then floorDiv hidden heads else .ok dim
  | none => floorDiv hidden heads

/-- The estimate of a configuration whose dimensions are known. -/
def knownKvCache (config : ModelConfig) (layers heads headDim contextLength batchSize dtypeBytes
    concurrentUsers : ℤ) : KvCacheEstimate :=
  let kvHeads := orInt config.numKeyValueHeads heads
  let (effectiveContext, windowNote, windowAssumed) := applySlidingWindow config contextLength
  let mixtureOfExperts := isMixtureOfExperts config
  { component :=
      { name := "KV cache"
        bytes := some (2 * layers * kvHeads * headDim * effectiveContext * batchSize *
          concurrentUsers * dtypeBytes)
        source := .derived
        confidence := if windowAssumed ∨ mixtureOfExperts then .medium else .high
        explanation := toString layers ++ " layers x " ++ toString kvHeads ++ " KV heads x " ++
          toString headDim ++ " head_dim x " ++ toString effectiveContext ++ " tokens x batch " ++
          toString batchSize ++ " x " ++ toString dtypeBytes ++ " bytes x " ++
          toString concurrentUsers ++ " sessions x 2." }
    layers := some layers
    kvHeads := some kvHeads
    headDim := some headDim
    contextLength := effectiveContext
    batchSize := batchSize
    dtypeBytes := dtypeBytes
    formula := kvFormula
    notes := windowNote.toList ++
      (if mixtureOfExperts then
        ["Mixture-of-Experts: the experts sit in the feed-forward layers, so the KV cache " ++
          "follows the attention dimensions; this has not been validated against a " ++
          "Mixture-of-Experts run."]
      else []) ++
      (if config.numKeyValueHeads.any fun n => n ≠ 0 ∧ n < heads then
        ["Grouped-Query Attention: " ++ toString kvHeads ++ " KV heads for " ++ toString heads ++
          " attention heads."]
      else []) ++
      if 1 < concurrentUsers then
        ["Sized for " ++ toString concurrentUsers ++ " concurrent sessions; assumes each keeps " ++
          "its own KV cache."]
      else [] }

/-- Python `estimate_kv_cache`. -/
def estimateKvCache (config : Option ModelConfig) (contextLength batchSize : ℤ)
    (kvDtype : WeightPrecision) (concurrentUsers : ℤ) : Except EstimateError KvCacheEstimate :=
  let dtypeBytes := ⌊bytesPerParameter kvDtype⌋
  let unknown := unknownKvCache contextLength batchSize dtypeBytes
  match config with
  | none => .ok (unknown "Model configuration is not available; KV cache cannot be estimated.")
  | some config =>
    match detectExoticArchitecture config with
    | some exotic => .ok (unknown ("Non-standard attention architecture: " ++ exotic ++ "."))
    | none =>
      match config.numHiddenLayers, config.numAttentionHeads, config.hiddenSize with
      | some layers, some heads, some hidden => do
        let headDim ← headDimension config hidden heads
        return knownKvCache config layers heads headDim contextLength batchSize dtypeBytes
          concurrentUsers
      | _, _, _ =>
        .ok (unknown ("Missing configuration fields: " ++ ", ".intercalate (missingFields config) ++
          "."))

/-- The dimension of a head is the stated one, or what the heads share. -/
lemma headDimension_eq {config : ModelConfig} {hidden heads : ℤ} (nonzero : heads ≠ 0) :
    headDimension config hidden heads = .ok (orInt config.headDim (hidden.fdiv heads)) := by
  rw [headDimension, floorDiv, if_neg nonzero]
  cases config.headDim with
  | none => rfl
  | some dim =>
    dsimp only [orInt]
    split <;> rfl

end Jaull.Estimator
