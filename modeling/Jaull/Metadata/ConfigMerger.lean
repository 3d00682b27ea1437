import Jaull.Domain.ExecutionPlans
import Jaull.Lib.Dict
import Jaull.Metadata.GgufReader
import Jaull.Text.Case

/-!
# Configuration merger

Port of `jaull/metadata/config_merger.py`: what the GGUF header states wins, the base configuration fills
the gaps.
-/

namespace Jaull.Metadata
open Jaull.Domain Jaull.Lib Jaull.Text

/-- Python `_COMPOSITE_FLAGS`. -/
def compositeFlags : List String :=
  ["text_config", "vision_config", "audio_config"]

/-- The flag of a head whose key and value dimensions differ. -/
def unsupportedHeadFlag : String :=
  "unsupported_kv_head_dimensions"

/-- Python `_arch_to_class_name`. -/
def archToClassName (architecture : String) : String :=
  let mapping :=
    [("llama", "LlamaForCausalLM"), ("qwen2", "Qwen2ForCausalLM"), ("mistral", "MistralForCausalLM"),
      ("phi3", "Phi3ForCausalLM"), ("gemma", "GemmaForCausalLM"), ("gemma2", "Gemma2ForCausalLM"),
      ("gemma3", "Gemma3ForCausalLM"), ("falcon", "FalconForCausalLM"),
      ("gptj", "GPTJForCausalLM"), ("gpt2", "GPT2LMHeadModel")]
  (mapping.lookup (lower architecture)).getD (architecture ++ "ForCausalLM")

/-- Where the value of a field was picked from (the `sources` of Python `pick`). -/
def pickSource {α : Type} (field : String) (headerValue baseValue : Option α) :
    List (String × ConfigurationSource) :=
  if headerValue.isSome then [(field, .ggufHeader)]
  else if baseValue.isSome then [(field, .baseModelConfig)]
  else []

/-- Whether two stated values disagree (the `conflicts` of Python `pick`). -/
def pickConflict {α : Type} [DecidableEq α] (field : String) (headerValue baseValue : Option α) :
    List (ConfigurationConflict α) :=
  match headerValue, baseValue with
  | some h, some b => if h = b then [] else [⟨field, h, b⟩]
  | _, _ => []

/-- The source of a field that only the base configuration has. -/
def baseSource {α : Type} (field : String) (baseValue : Option α) :
    List (String × ConfigurationSource) :=
  pickSource field none baseValue

/-- An integer of the attention block, by the name the header gives its architecture. -/
def attentionLength (header : GgufHeaderMetadata) (name : String) : Option ℤ :=
  (header.rawKv.get (header.architecture.getD "None" ++ ".attention." ++ name)).bind
    GgufValue.int?

/-- The key dimension of a head: the one stated, or an even share of the hidden size. -/
def keyDim (headDim hidden heads : Option ℤ) : Option ℤ :=
  match headDim, hidden, heads with
  | some dim, _, _ => some dim
  | none, some hidden, some heads => if 0 < heads then some (hidden.fdiv heads) else none
  | none, _, _ => none

/-- The flags of a merged configuration. The composite flags go when the header's file states the
attention dimensions. -/
def mergedFlags (header : Option GgufHeaderMetadata) (flags : List (String × Json))
    (headDim layers hidden heads : Option ℤ) : List (String × Json) :=
  match header with
  | none => flags
  | some header =>
    let valueDim := attentionLength header "value_length"
    let flags :=
      if valueDim.isSome ∧ valueDim ≠ keyDim headDim hidden heads then
        dictSet flags unsupportedHeadFlag (.bool true)
      else flags
    if layers.isSome ∧ heads.isSome ∧ hidden.isSome then compositeFlags.foldl dictPop flags
    else flags

/-- Python `merge`. -/
def merge (header : Option GgufHeaderMetadata) (base : Option ModelConfig) :
    Option EnrichedConfig :=
  if header.isNone ∧ base.isNone then none else
  let architecture := header.bind (·.architecture)
  let baseArchitectures := (base.map (·.architectures)).getD []
  let architectures :=
    match truthy architecture with
    | some architecture => [archToClassName architecture]
    | none => baseArchitectures
  let baseModelType := base.bind (·.modelType)
  let maxPosition := header.bind (·.contextLength)
  let baseMaxPosition := base.bind (·.maxPositionEmbeddings)
  let hidden := header.bind (·.embeddingLength)
  let baseHidden := base.bind (·.hiddenSize)
  let layers := header.bind (·.blockCount)
  let baseLayers := base.bind (·.numHiddenLayers)
  let heads := header.bind (·.headCount)
  let baseHeads := base.bind (·.numAttentionHeads)
  let kvHeads := header.bind (·.headCountKv)
  let baseKvHeads := base.bind (·.numKeyValueHeads)
  let headDim := header.bind (attentionLength · "key_length")
  let baseHeadDim := base.bind (·.headDim)
  let slidingWindow := base.bind (·.slidingWindow)
  let useSlidingWindow := base.bind (·.useSlidingWindow)
  let torchDtype := base.bind (·.torchDtype)
  let intermediateSize := base.bind (·.intermediateSize)
  let ropeScaling := base.bind (·.ropeScaling)
  let tieWordEmbeddings := base.bind (·.tieWordEmbeddings)
  let vocabSize := base.bind (·.vocabSize)
  let quantizationConfig := base.bind (·.quantizationConfig)
  some
    { config :=
        { architectures := architectures
          modelType := truthy (architecture.or baseModelType)
          torchDtype := torchDtype
          maxPositionEmbeddings := maxPosition.or baseMaxPosition
          hiddenSize := hidden.or baseHidden
          numHiddenLayers := layers.or baseLayers
          numAttentionHeads := heads.or baseHeads
          numKeyValueHeads := kvHeads.or baseKvHeads
          headDim := headDim.or baseHeadDim
          intermediateSize := intermediateSize
          slidingWindow := slidingWindow
          useSlidingWindow := useSlidingWindow
          ropeScaling := ropeScaling
          tieWordEmbeddings := tieWordEmbeddings
          vocabSize := vocabSize
          quantizationConfig := quantizationConfig
          rawFlags := mergedFlags header ((base.map (·.rawFlags)).getD []) (headDim.or baseHeadDim)
            (layers.or baseLayers) (hidden.or baseHidden) (heads.or baseHeads) }
      sources :=
        pickSource "architectures" (truthy architecture) baseArchitectures.head? ++
        pickSource "model_type" architecture baseModelType ++
        pickSource "max_position_embeddings" maxPosition baseMaxPosition ++
        pickSource "hidden_size" hidden baseHidden ++
        pickSource "num_hidden_layers" layers baseLayers ++
        pickSource "num_attention_heads" heads baseHeads ++
        pickSource "num_key_value_heads" kvHeads baseKvHeads ++
        pickSource "head_dim" headDim baseHeadDim ++
        baseSource "sliding_window" slidingWindow ++
        baseSource "use_sliding_window" useSlidingWindow ++
        baseSource "torch_dtype" torchDtype ++
        baseSource "intermediate_size" intermediateSize ++
        baseSource "rope_scaling" ropeScaling ++
        baseSource "tie_word_embeddings" tieWordEmbeddings ++
        baseSource "vocab_size" vocabSize ++
        baseSource "quantization_config" quantizationConfig
      conflicts :=
        (pickConflict "model_type" architecture baseModelType).map .inl ++
        (pickConflict "max_position_embeddings" maxPosition baseMaxPosition ++
          pickConflict "hidden_size" hidden baseHidden ++
          pickConflict "num_hidden_layers" layers baseLayers ++
          pickConflict "num_attention_heads" heads baseHeads ++
          pickConflict "num_key_value_heads" kvHeads baseKvHeads ++
          pickConflict "head_dim" headDim baseHeadDim).map .inr }

/-- Whether the flags say that key and value dimensions differ. -/
def unsupportedHeads (flags : List (String × Json)) : Bool :=
  (flags.lookup unsupportedHeadFlag).any Json.truthy

section Merged
variable (header : GgufHeaderMetadata)

/-- A flag that is set is read back. -/
lemma unsupportedHeads_set (flags : List (String × Json)) :
    unsupportedHeads (dictSet flags unsupportedHeadFlag (.bool true)) = true := by
  rw [unsupportedHeads, lookup_dictSet_self]
  rfl

/-- Dropping the composite flags leaves the others as they are. -/
lemma lookup_pops {flags : List (String × Json)} {name : String} (other : name ∉ compositeFlags) :
    (compositeFlags.foldl dictPop flags).lookup name = flags.lookup name := by
  simp only [compositeFlags, List.mem_cons, List.not_mem_nil, or_false, not_or] at other
  obtain ⟨ne₁, ne₂, ne₃⟩ := other
  simp only [compositeFlags, List.foldl_cons, List.foldl_nil]
  rw [lookup_dictPop_ne ne₃, lookup_dictPop_ne ne₂, lookup_dictPop_ne ne₁]

/-- Dropping the composite flags leaves that of the heads. -/
lemma unsupportedHeads_pop (flags : List (String × Json)) :
    unsupportedHeads (compositeFlags.foldl dictPop flags) = unsupportedHeads flags := by
  rw [unsupportedHeads, lookup_pops (by decide)]
  rfl

/-- The flag of a merged configuration. -/
lemma unsupportedHeads_mergedFlags (flags : List (String × Json))
    (headDim layers hidden heads : Option ℤ) :
    unsupportedHeads (mergedFlags (some header) flags headDim layers hidden heads) = true ↔
      unsupportedHeads flags = true ∨
        ∃ dim, attentionLength header "value_length" = some dim ∧
          keyDim headDim hidden heads ≠ some dim := by
  have set : unsupportedHeads
      (if (attentionLength header "value_length").isSome ∧
          attentionLength header "value_length" ≠ keyDim headDim hidden heads then
        dictSet flags unsupportedHeadFlag (.bool true) else flags) = true ↔
      unsupportedHeads flags = true ∨
        ∃ dim, attentionLength header "value_length" = some dim ∧
          keyDim headDim hidden heads ≠ some dim := by
    split
    · rename_i differ
      obtain ⟨dim, eq⟩ := Option.isSome_iff_exists.mp differ.1
      refine iff_of_true (unsupportedHeads_set flags) (.inr ⟨dim, eq, ?_⟩)
      rw [← eq]
      exact Ne.symm differ.2
    · rename_i same
      refine ⟨.inl, ?_⟩
      rintro (flagged | ⟨dim, eq, ne⟩)
      · exact flagged
      · refine absurd ⟨Option.isSome_of_eq_some eq, ?_⟩ same
        rw [eq]
        exact Ne.symm ne
  rw [mergedFlags]
  split
  · rw [unsupportedHeads_pop, set]
  · exact set

end Merged

end Jaull.Metadata
