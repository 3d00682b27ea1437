import Jaull.Evaluation.RuntimeContract

/-!
# Identities of quality records

Port of the identity half of `jaull/evaluation/quality_records.py`: what a record says it measured, under
which protocol. A condition of the source that is an `or` of several tests is a row of checks with one
text.
-/

namespace Jaull.Evaluation
open Jaull.Lib

section Constants

/-- Python `PLUMBING_SUITES`. -/
def plumbingSuites : List Json :=
  [.str "jaull-quality-smoke-v1", .str "jaull-ifeval-chat-smoke-v1"]

/-- Python `NON_REUSABLE_SUITES`. -/
def nonReusableSuites : List Json :=
  plumbingSuites ++ [.str "jaull-hellaswag-100-v1"]

/-- Python `CLASSIFICATIONS`. -/
def classifications : List Json :=
  [.str "plumbing", .str "limited", .str "full"]

/-- Python `IDENTITY_FIELDS`. -/
def identityFields : List String :=
  ["artifact_sha256", "suite", "dataset", "samples", "evaluator", "runtime", "protocol"]

/-- Python `EVALUATOR_FIELDS`. -/
def evaluatorFields : List String :=
  ["evaluator_commit", "backend_sha256", "suite_sha256", "sample_ids", "num_fewshot", "context",
    "apply_chat_template", "system_instruction", "generation", "use_cache", "cache_requests", "seeds",
    "server_seed", "python", "packages"]

/-- Python `GENERATION_EVALUATOR_FIELDS`. -/
def generationEvaluatorFields : List String :=
  ["evaluator_commit", "source_sha256", "suite_sha256", "sample_ids", "num_fewshot", "context",
    "apply_chat_template", "chat_template_source", "chat_template_sha256", "reasoning",
    "system_instruction", "generation", "langdetect_seed", "use_cache", "cache_requests", "python",
    "packages"]

/-- Python `RUNTIME_FIELDS`. -/
def runtimeFields : List String :=
  ["server_sha256", "image_id", "fingerprint", "backend_flags", "server_defaults_sha256"]

/-- Python `DATASET_FIELDS`. -/
def datasetFields : List String :=
  ["repo", "revision", "sha256", "sample_ids", "total_samples"]

/-- Python `SUPPORTED_PROTOCOL`. -/
def supportedProtocol : Json :=
  .obj [("mode", .str "loglikelihood"), ("tokenize_add_special", .bool true),
    ("temperature", .int 0), ("max_tokens", .int 1), ("logprobs", .int 2), ("id_slot", .int 0),
    ("target_logit_bias", .int 100), ("cached_prompt_tokens", .int 0)]

/-- Python `GENERATION_SETTINGS`. -/
def generationSettings : Json :=
  .obj [("until", .arr []), ("temperature", .int 0), ("max_gen_toks", .int 1280), ("seed", .int 1234)]

/-- Python `GENERATION_PROTOCOL["mode"]`. -/
def generationMode : PyString :=
  "chat_generation"

/-- Python `GENERATION_PROTOCOL`. -/
def generationProtocol : Json :=
  .obj [("mode", .str generationMode), ("chat_template", .str "gguf"), ("reasoning", .str "off"),
    ("temperature", .int 0), ("max_tokens", .int 1280), ("stop", .arr []), ("seed", .int 1234),
    ("cached_prompt_tokens", .int 0)]

/-- Python `PROMPT_METRICS`. -/
def promptMetrics : List String :=
  ["prompt_level_strict_acc", "prompt_level_loose_acc"]

/-- Python `INSTRUCTION_METRICS`. -/
def instructionMetrics : List String :=
  ["inst_level_strict_acc", "inst_level_loose_acc"]

end Constants

/-- Python `digest`. -/
def digest (env : Surroundings) (value : Json) : Except Refusal String :=
  if !value.leaves finiteLeaf then
    .error (.value "Out of range float values are not JSON compliant")
  else (encoded .compact (sortKeys value)).map env.sha256

mutual

/-- Python `known`, with this many levels of the stack left; `none` is a `RecursionError`. -/
def known : ℕ → Json → Option Bool
  | 0, _ => none
  | levels + 1, .obj fields => if fields.isEmpty then some false else knownFields levels fields
  | levels + 1, .arr items => if items.isEmpty then some false else knownItems levels items
  | _ + 1, .null => some false
  | _ + 1, .str s => some (s ≠ "")
  | _ + 1, .bool _ => some true
  | _ + 1, .int _ => some true
  | _ + 1, .float _ => some true

/-- Python `all(known(item) for item in value)`, which ends at the first item that is unknown. -/
def knownItems : ℕ → List Json → Option Bool
  | _, [] => some true
  | levels, item :: items => do
    if ← known levels item then knownItems levels items else return false

/-- The same over the values of a dictionary. -/
def knownFields : ℕ → List (PyString × Json) → Option Bool
  | _, [] => some true
  | levels, (_, value) :: fields => do
    if ← known levels value then knownFields levels fields else return false

end

mutual

/-- A walk ends on every value that is nested less deep than the stack allows. -/
lemma known_of_depth {levels : ℕ} : ∀ value : Json, value.depth < levels → (known levels value).isSome
  | .arr items => by
    intro fits
    cases levels with
    | zero => cases fits
    | succ levels =>
      rw [known]
      split
      · rfl
      · exact knownItems_of_depth items (Nat.lt_of_succ_lt_succ fits)
  | .obj fields => by
    intro fits
    cases levels with
    | zero => cases fits
    | succ levels =>
      rw [known]
      split
      · rfl
      · exact knownFields_of_depth fields (Nat.lt_of_succ_lt_succ fits)
  | .null => by
    intro fits
    cases fits <;> rfl
  | .bool b => by
    intro fits
    cases fits <;> rfl
  | .int n => by
    intro fits
    cases fits <;> rfl
  | .float x => by
    intro fits
    cases fits <;> rfl
  | .str s => by
    intro fits
    cases fits <;> rfl

/-- A list within the levels is known or not, without an error. -/
lemma knownItems_of_depth {levels : ℕ} :
    ∀ items : List Json, depthItems items < levels → (knownItems levels items).isSome
  | [] => fun _ => rfl
  | item :: items => by
    intro fits
    obtain ⟨first, rest⟩ := max_lt_iff.mp fits
    obtain ⟨walked, eq⟩ := Option.isSome_iff_exists.mp (known_of_depth item first)
    rw [knownItems, eq]
    cases walked with
    | true => exact knownItems_of_depth items rest
    | false => rfl

/-- So are the fields of an object. -/
lemma knownFields_of_depth {levels : ℕ} :
    ∀ fields : List (PyString × Json), depthFields fields < levels → (knownFields levels fields).isSome
  | [] => fun _ => rfl
  | (_, value) :: fields => by
    intro fits
    obtain ⟨first, rest⟩ := max_lt_iff.mp fits
    obtain ⟨walked, eq⟩ := Option.isSome_iff_exists.mp (known_of_depth value first)
    rw [knownFields, eq]
    cases walked with
    | true => exact knownFields_of_depth fields rest
    | false => rfl

end

/-- A dictionary without some keys. -/
def without (value : Json) (names : List String) : Json :=
  .obj ((value.dict?.getD []).filter fun entry => names.all fun name => entry.1 ≠ .text name)

/-- Python `identity_mode`. -/
def identityMode (identity : Json) : Option PyString := do
  let fields ← identity.dict?
  let protocol ← (getField fields "protocol").dict?
  (getField protocol "mode").string?

/-- Python `value is not None` for some keys of a dictionary. -/
def refuseStated (value : Json) (text : String) : List String → Except Refusal Unit
  | [] => .ok ()
  | name :: names => do
    refuseIf ((← value.field name) ≠ .null) text
    refuseStated value text names

/-- The digests of a tuple, each exact. -/
def requireDigests : List Json → Except Refusal Unit
  | [] => .ok ()
  | sha :: rest => do
    refuseIf (!sha.string?.any (isHex 64)) "Unknown exact digest"
    requireDigests rest

/-- Python `text.removeprefix("sha256:")`, as code points. -/
def withoutShaLabel (s : PyString) : List ℕ :=
  if codesOf "sha256:" <+: s.codes then s.codes.drop 7 else s.codes

/-- Python `type(item) is int and 0 <= item < total`. -/
def isSampleId (total : ℤ) : Json → Bool
  | .int n => 0 ≤ n && n < total
  | _ => false

/-- Python `type(value) is int and value >= 1`. -/
def isPositiveInt : Json → Bool
  | .int n => 1 ≤ n
  | _ => false

/-- The part of Python `_validate_shared_identity` in front of the runtime contract. -/
def validateSharedFields (identity protocol : Json) (evaluatorDigests : List Json) :
    Except Refusal Unit := do
  let evaluator ← identity.field "evaluator"
  let suite ← identity.field "suite"
  let dataset ← identity.field "dataset"
  let runtime ← identity.field "runtime"
  let unsupported := "Unsupported identity schema/protocol"
  refuseIf (!(← suite.setIs ["name", "sha256"])) unsupported
  refuseIf (!(← dataset.setIs datasetFields)) unsupported
  let observable ← runtime.holds "execution"
  refuseIf (!(← runtime.setIs (if observable then runtimeFields ++ ["execution"] else runtimeFields)))
    unsupported
  refuseIf (!pyEq (← identity.field "protocol") protocol) unsupported
  let imageId := (← runtime.field "image_id").string?
  refuseIf imageId.isNone "Unknown exact image digest"
  requireDigests ([← identity.field "artifact_sha256", ← suite.field "sha256",
    ← dataset.field "sha256", ← runtime.field "server_sha256"] ++ evaluatorDigests ++
    [← runtime.field "server_defaults_sha256"])
  refuseIf (!imageId.any fun id => codesAreHex 64 (withoutShaLabel id)) "Unknown exact digest"
  let ids ← dataset.field "sample_ids"
  let total ← dataset.field "total_samples"
  let incomplete := "Incomplete sample/config identity"
  refuseIf (!isPositiveInt total) incomplete
  let items := ids.list?.getD []
  refuseIf (items.isEmpty || !items.all (isSampleId (total.index?.getD 0)) || !decide items.Nodup)
    incomplete
  refuseIf (!pyEq (← evaluator.field "sample_ids") ids) incomplete
  refuseIf (!pyEq (← evaluator.field "suite_sha256") (← suite.field "sha256")) incomplete
  refuseIf (!isPositiveInt (← evaluator.field "context")) incomplete
  refuseIf (!(← matchesHex 40 (← evaluator.field "evaluator_commit"))) incomplete
  refuseIf (!(← matchesHex 40 (← dataset.field "revision"))) incomplete
  refuseIf (((← evaluator.field "packages").dict?.getD []).isEmpty) incomplete
  let flags := (← runtime.field "backend_flags").list?
  refuseIf (flags.isNone || (flags.getD []).any (·.string?.isNone)) incomplete

/-- Python `[sample["doc_id"] for sample in samples]`. -/
def docIds (samples : List Json) : Except Refusal (List Json) :=
  samples.mapM (·.field "doc_id")

/-- The keys of a sample in an identity. -/
def sampleFields : List String :=
  ["doc_id", "doc_hash", "prompt_hash", "target_hash", "arguments"]

/-- What each selected sample must be. -/
def validateSample (sample : Json) : Except Refusal Unit := do
  refuseIf (!(← sample.setIs sampleFields)) "Unknown sample identity"
  let unknown := "Unknown sample/prompt digest"
  refuseIf (!(← matchesHex 64 (← sample.field "doc_hash"))) unknown
  refuseIf (!(← matchesHex 64 (← sample.field "prompt_hash"))) unknown
  refuseIf (!(← matchesHex 64 (← sample.field "target_hash"))) unknown

/-- The part of Python `_validate_shared_identity` behind the runtime contract. -/
def validateSamples (identity : Json) : Except Refusal Unit := do
  let samples := (← identity.field "samples").list?
  let incomplete := "Incomplete selected sample identity"
  refuseIf samples.isNone incomplete
  let ids := (← (← identity.field "dataset").field "sample_ids").list?.getD []
  refuseIf (!pyEqItems (← docIds (samples.getD [])) ids) incomplete
  (samples.getD []).forM validateSample

/-- Python `_validate_shared_identity`. -/
def validateSharedIdentity (identity protocol : Json) (evaluatorDigests : List Json) :
    Except PyError Unit := do
  lifted (validateSharedFields identity protocol evaluatorDigests)
  let runtime ← lifted (identity.field "runtime")
  let observable ← lifted (runtime.holds "execution")
  doIf observable do
    validateRuntimeExecution (← lifted (runtime.field "execution")) runtime 2048 18083 false
  lifted (validateSamples identity)

/-- The settings among the arguments of a sample. -/
def generationArguments : Json :=
  .obj [("until", .arr []), ("do_sample", .bool false),
    ("temperature", .float (.finite ⟨false, 0, 0, .inr ⟨rfl, rfl⟩⟩)), ("max_gen_toks", .int 1280)]

/-- The prompt in the arguments of a sample. -/
def generationPrompt (sample : Json) : Except Refusal PyString := do
  let prompt := promptOf (← sample.field "arguments")
  refuseIf prompt.isNone "Missing/inconsistent generation arguments"
  return prompt.getD ""
where
  -- The pinned harness writes the chat as a list of one element.
  promptOf : Json → Option PyString
    | .arr [.arr [.arr [.str prompt], settings]] =>
      if pyEq settings generationArguments then some prompt else none
    | _ => none

/-- The text of the one message of a chat. -/
def messageContent : Json → Option PyString
  | .arr [.obj message] =>
    if pyEq (getField message "role") (.str "user") && message.all (fun entry =>
        entry.1 = "role" || entry.1 = "content") then
      (getField message "content").string?.filter fun content => !isBlank content
    else none
  | _ => none

/-- What a prompt must decode to and hash to. -/
def checkPrompt (env : Surroundings) (sample messages : Json) (prompt : PyString) :
    Except Refusal PyString := do
  let content := messageContent messages
  refuseIf content.isNone unknown
  let text ← prompt.encoded
  refuseIf (!pyEq (.str (env.sha256 text)) (← sample.field "prompt_hash")) unknown
  refuseIf (!pyEq (.str (env.sha256 (codesOf "0"))) (← sample.field "target_hash")) unknown
  return content.getD ""
where
  unknown := "Unknown/mismatched generation prompt identity"

/-- Python `_generation_messages`, for the text of the message. -/
def generationMessages (env : Surroundings) (sample : Json) : Except PyError PyString := do
  let prompt ← lifted (generationPrompt sample)
  let messages ← env.decode prompt
  lifted (checkPrompt env sample messages prompt)

/-- The text of an identity that is not supported. -/
def unknownIdentity : String :=
  "Unknown identity or unsupported chat/generation/cache mode"

/-- Python `not known(value)` as a reason to refuse. -/
def requireKnown (env : Surroundings) (walk : Walk) (value : Json) : Except PyError Unit :=
  match known (env.levels walk) value with
  | some true => .ok ()
  | some false => .error (.refused (.value unknownIdentity))
  | none => .error .recursion

/-- The settings of an evaluator that likelihood scoring leaves out. -/
def scoringAbsent : List String :=
  ["system_instruction", "generation", "use_cache"]

/-- The settings of an evaluator that chat generation leaves out. -/
def chatAbsent : List String :=
  ["system_instruction", "use_cache"]

/-- The evaluator of a likelihood scoring, but for the values that have to be known. -/
def scoringEvaluator (identity : Json) : Except Refusal Json := do
  refuseIf (!(← identity.setIs identityFields)) "Missing/unknown identity fields"
  let evaluator ← identity.field "evaluator"
  refuseIf (!(← evaluator.setIs evaluatorFields)) "Incomplete evaluator identity"
  refuseStated evaluator unknownIdentity scoringAbsent
  refuseIf ((← evaluator.field "apply_chat_template") ≠ .bool false) unknownIdentity
  refuseIf ((← evaluator.field "cache_requests") ≠ .bool false) unknownIdentity
  return evaluator

/-- What of a likelihood scoring has to be known. -/
def scoringParts (identity evaluator : Json) : List Json :=
  [without evaluator scoringAbsent, without identity ["evaluator"]]

/-- The part of Python `validate_identity` that is about likelihood scoring, with the digest of the
evaluator's backend. -/
def validateScoringIdentity (env : Surroundings) (identity : Json) : Except PyError (List Json) := do
  let evaluator ← lifted (scoringEvaluator identity)
  (scoringParts identity evaluator).forM (requireKnown env .scoring)
  return [← lifted (evaluator.field "backend_sha256")]

/-- The evaluator of a chat, but for the values that have to be known. -/
def chatEvaluator (identity : Json) : Except Refusal Json := do
  refuseIf (!(← identity.setIs identityFields)) "Missing/unknown identity fields"
  let evaluator ← identity.field "evaluator"
  refuseIf (!(← evaluator.setIs generationEvaluatorFields)) "Incomplete evaluator identity"
  let sources := ((← evaluator.field "source_sha256").dict?).getD []
  refuseStated evaluator unknownIdentity chatAbsent
  refuseIf ((← evaluator.field "apply_chat_template") ≠ .bool true) unknownIdentity
  refuseIf (!pyEq (← evaluator.field "chat_template_source") (.str "gguf")) unknownIdentity
  refuseIf (!pyEq (← evaluator.field "reasoning") (.str "off")) unknownIdentity
  refuseIf ((← evaluator.field "cache_requests") ≠ .bool false) unknownIdentity
  refuseIf (!pyEq (← evaluator.field "generation") generationSettings) unknownIdentity
  refuseIf (!(← evaluator.field "langdetect_seed").isInt) unknownIdentity
  refuseIf (!pyEq (← evaluator.field "num_fewshot") (.int 0)) unknownIdentity
  refuseIf sources.isEmpty unknownIdentity
  return evaluator

/-- What of a chat has to be known. -/
def chatParts (identity evaluator : Json) : List Json :=
  [without evaluator (chatAbsent ++ ["generation"]),
    without identity ["evaluator", "protocol", "samples"]]

/-- The digests of the template and of the sources. -/
def chatDigests (evaluator : Json) : Except Refusal (List Json) := do
  let sources := ((← evaluator.field "source_sha256").dict?).getD []
  return (← evaluator.field "chat_template_sha256") :: sources.map (·.2)

/-- The part of Python `_validate_generation_identity` that is about chat generation, with the digests of
the template and of the sources. -/
def validateChatIdentity (env : Surroundings) (identity : Json) : Except PyError (List Json) := do
  let evaluator ← lifted (chatEvaluator identity)
  (chatParts identity evaluator).forM (requireKnown env .chat)
  lifted (chatDigests evaluator)

/-- Python `_validate_generation_identity`. -/
def validateGenerationIdentity (env : Surroundings) (identity : Json) : Except PyError Unit := do
  let digests ← validateChatIdentity env identity
  validateSharedIdentity identity generationProtocol digests
  let samples ← lifted (identity.field "samples")
  (samples.list?.getD []).forM fun sample => do
    discard (generationMessages env sample)

/-- Python `validate_identity`. -/
def validateIdentity (env : Surroundings) (identity : Json) : Except PyError Unit := do
  discard identity.entries
  if identityMode identity = some generationMode then validateGenerationIdentity env identity
  else do
    let digests ← validateScoringIdentity env identity
    validateSharedIdentity identity supportedProtocol digests

end Jaull.Evaluation
