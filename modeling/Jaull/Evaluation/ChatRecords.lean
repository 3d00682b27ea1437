import Jaull.Evaluation.Comparability
import Jaull.Evaluation.Saving
import Jaull.Lib.PyEquality

/-!
# Chat records

A chat record of any selection of samples, with every instruction followed, and surroundings in which the
contract accepts it.
-/

namespace Jaull.Evaluation
open Jaull.Lib Jaull.Text

/-- Distinct samples of a split. -/
structure Selection where
  total : ℕ
  ids : List ℕ
  nonempty : ids ≠ []
  nodup : ids.Nodup
  inside : ∀ id ∈ ids, id < total
  small : total < 10 ^ 4300

/-- Numbers below a thousand are of few digits. -/
lemma lt_of_lt_thousand {n : ℕ} (lt : n < 10 ^ 3) : n < 10 ^ 4300 :=
  lt.trans_le (Nat.pow_le_pow_right (by decide) (by decide))

section Trees

/-- The digest of the target of a prompt, of the prompt, of its document, of the sources of the checkers,
of the identity and of the record. -/
def targetSha : String := "1111111111111111111111111111111111111111111111111111111111111111"
/-- The digest that stands for that of the prompt. -/
def promptSha : String := "2222222222222222222222222222222222222222222222222222222222222222"
/-- The digest that stands for that of the prompt document, and the digest of the artifact. -/
def documentSha : String := "3333333333333333333333333333333333333333333333333333333333333333"
/-- The digest of the sources of the suite, as the source fixes it. -/
def sourcesSha : String := "97d0fb7fe8ea896a9e54b5042b7e0feb21b8cbb1d75b4b92d03f778d068fc850"
/-- The digest that stands for that of the identity. -/
def identitySha : String := "5555555555555555555555555555555555555555555555555555555555555555"
/-- The digest that stands for that of the record. -/
def recordSha : String := "6666666666666666666666666666666666666666666666666666666666666666"

/-- The prompt of every sample. -/
def chatPrompt : String :=
  "[\x7b\"role\": \"user\", \"content\": \"Write without commas.\"\x7d]"

/-- The messages of the prompt. -/
def chatMessages : Json :=
  .arr [.obj [("role", .str "user"), ("content", .str "Write without commas.")]]

/-- The document that the messages are read from. -/
def chatDocument : Json :=
  .obj [("prompt", .str "Write without commas."),
    ("instruction_id_list", .arr [.str "punctuation:no_comma"])]

/-- The sources of the suite. -/
def chatSources : Json :=
  .obj [("utils.py", .str "7777777777777777777777777777777777777777777777777777777777777777")]

/-- A selected sample. -/
def chatSample (id : ℕ) : List (PyString × Json) :=
  [("doc_id", .int id), ("doc_hash", .str documentSha), ("prompt_hash", .str promptSha),
    ("target_hash", .str targetSha),
    ("arguments", .arr [.arr [.arr [.str chatPrompt], generationArguments]])]

/-- A sample with the outcomes of its one instruction. -/
def chatResult (id : ℕ) : Json :=
  .obj (chatSample id ++ [(.text "resps", .arr [.arr [.str "Yes"]]),
    (.text "filtered_resps", .arr [.str "Yes"]), (.text "doc", chatDocument),
    (.text "prompt_level_strict_acc", .bool true), (.text "prompt_level_loose_acc", .bool true),
    (.text "inst_level_strict_acc", .arr [.bool true]),
    (.text "inst_level_loose_acc", .arr [.bool true])])

/-- The selected sample ids, as an identity lists them. -/
def Selection.idsJson (selection : Selection) : List Json :=
  selection.ids.map fun id : ℕ => Json.int id

/-- The audited suite. -/
def chatSuite : Json :=
  .obj [("name", .str "jaull-ifeval-chat-v1"),
    ("sha256", .str "2822c4af6d1274027884bcb825610a48a060ce58d9714051cb48fd51bde1a9c8")]

/-- The dataset of the selection. -/
def Selection.dataset (selection : Selection) : Json :=
  .obj [("repo", .str "google/IFEval"), ("revision", .str "966cd89545d6b6acfd7638bc708b98261ca58e84"),
    ("sha256", .str "6a85310ca8ce15eff755aa08a3a4ff931c7e273e7515ebb3c492ea85fd8288f2"),
    ("total_samples", .int selection.total), ("sample_ids", .arr selection.idsJson)]

/-- The evaluator that ran the selection. -/
def Selection.evaluator (selection : Selection) : Json :=
  .obj [("evaluator_commit", .str "ad8737ae7fad24cf64e50fc7fc31397bff586b9e"),
    ("source_sha256", chatSources),
    ("suite_sha256", .str "2822c4af6d1274027884bcb825610a48a060ce58d9714051cb48fd51bde1a9c8"),
    ("sample_ids", .arr selection.idsJson), ("num_fewshot", .int 0), ("context", .int 4096),
    ("apply_chat_template", .bool true), ("chat_template_source", .str "gguf"),
    ("chat_template_sha256", .str documentSha), ("reasoning", .str "off"),
    ("system_instruction", .null), ("generation", generationSettings), ("langdetect_seed", .int 0),
    ("use_cache", .null), ("cache_requests", .bool false), ("python", .str "3.12"),
    ("packages", .obj [("lm-eval", .str "0.4")])]

/-- The runtime that answered. -/
def chatRuntime : Json :=
  .obj [("server_sha256", .str "cdb0749a2cffc6f2fe710a9616263f90e6a016e8ac07a9caa5be160fc2c5d98e"),
    ("image_id", .str documentSha), ("fingerprint", .str "b10357-689e227db"),
    ("backend_flags", .arr [.str "--seed", .str "0"]), ("server_defaults_sha256", .str documentSha)]

/-- The identity of a selection. -/
def Selection.identity (selection : Selection) : Json :=
  .obj [("artifact_sha256", .str documentSha), ("suite", chatSuite), ("dataset", selection.dataset),
    ("samples", .arr (selection.ids.map fun id => .obj (chatSample id))),
    ("evaluator", selection.evaluator), ("runtime", chatRuntime), ("protocol", generationProtocol)]

/-- The result of the selection, in which every sample passes. -/
def Selection.result (selection : Selection) : Json :=
  let task : PyString := "jaull-ifeval-chat-v1"
  .obj [("n-samples", .obj [(task, .obj [("original", .int selection.total),
      ("effective", .int selection.ids.length)])]),
    ("samples", .obj [(task, .arr (selection.ids.map chatResult))]),
    ("results", .obj [(task, .obj [("prompt_level_strict_acc,none", .int 1),
      ("prompt_level_loose_acc,none", .int 1), ("inst_level_strict_acc,none", .int 1),
      ("inst_level_loose_acc,none", .int 1)])]),
    ("configs", .obj [(task, .str "ifeval")])]

/-- The record of a selection, graded as a full run. -/
def Selection.record (selection : Selection) : Json :=
  .obj [("schema_version", .int 2), ("status", .str "completed"), ("classification", .str "full"),
    ("identity", selection.identity), ("identity_sha256", .str identitySha),
    ("provenance", .obj [("hardware", .str "workstation")]),
    ("outcome", .obj [("responses", .int selection.ids.length), ("truncated", .int 0)]),
    ("result", selection.result)]

end Trees

section Digests
variable {selection : Selection}

/-- A number of few digits can be digested. -/
lemma digestible_natCast {n : ℕ} (small : n < 10 ^ 4300) : Digestible (.int n) := by
  refine digestible_int ?_
  rwa [Int.natAbs_natCast]

/-- A selection has few samples. -/
lemma Selection.length_small (selection : Selection) : selection.ids.length < 10 ^ 4300 := by
  have inside : selection.ids ⊆ List.range selection.total := fun id mem =>
    List.mem_range.mpr (selection.inside id mem)
  have le := (List.subperm_of_subset selection.nodup inside).length_le
  rw [List.length_range] at le
  exact le.trans_lt selection.small

/-- The ids of a selection can be digested. -/
lemma digestible_ids : Digestible (.arr selection.idsJson) := by
  rw [digestible_arr]
  intro item mem
  obtain ⟨id, inside, rfl⟩ := List.mem_map.mp mem
  exact digestible_natCast ((selection.inside id inside).trans selection.small)

/-- A sample can be digested with whatever digestible fields follow. -/
lemma digestible_sample {id : ℕ} (small : id < 10 ^ 4300) {fields : List (PyString × Json)}
    (able : Digestible (.obj fields)) : Digestible (.obj (chatSample id ++ fields)) := by
  have arguments : Digestible generationArguments := by
    simp (disch := decide) [generationArguments]
  simp [chatSample, digestible_natCast small, arguments, able]

/-- The identity of a selection can be digested. -/
lemma digestible_identity : Digestible selection.identity := by
  have dataset : Digestible selection.dataset :=
    digestible_cons.mpr ⟨digestible_str _, digestible_cons.mpr ⟨digestible_str _,
      digestible_cons.mpr ⟨digestible_str _, digestible_cons.mpr ⟨digestible_natCast selection.small,
        digestible_cons.mpr ⟨digestible_ids, digestible_nil⟩⟩⟩⟩⟩
  have samples : Digestible (.arr (selection.ids.map fun id => .obj (chatSample id))) := by
    rw [digestible_arr]
    intro item mem
    obtain ⟨id, inside, rfl⟩ := List.mem_map.mp mem
    rw [← List.append_nil (chatSample id)]
    exact digestible_sample ((selection.inside id inside).trans selection.small) digestible_nil
  have evaluator : Digestible selection.evaluator :=
    digestible_cons.mpr ⟨digestible_str _, digestible_cons.mpr ⟨⟨rfl, rfl, rfl⟩,
      digestible_cons.mpr ⟨digestible_str _, digestible_cons.mpr ⟨digestible_ids,
        by simp (disch := decide) [generationSettings]⟩⟩⟩⟩
  exact digestible_cons.mpr ⟨digestible_str _, digestible_cons.mpr ⟨⟨rfl, rfl, rfl⟩,
    digestible_cons.mpr ⟨dataset, digestible_cons.mpr ⟨samples, digestible_cons.mpr ⟨evaluator,
      by simp (disch := decide) [chatRuntime, generationProtocol, generationMode]⟩⟩⟩⟩⟩

/-- So can its result. -/
lemma digestible_result : Digestible selection.result := by
  have counts : Digestible (.obj [("original", .int selection.total),
      ("effective", .int selection.ids.length)]) :=
    digestible_cons.mpr ⟨digestible_natCast selection.small,
      digestible_cons.mpr ⟨digestible_natCast selection.length_small, digestible_nil⟩⟩
  have samples : Digestible (.arr (selection.ids.map chatResult)) := by
    rw [digestible_arr]
    intro item mem
    obtain ⟨id, inside, rfl⟩ := List.mem_map.mp mem
    exact digestible_sample ((selection.inside id inside).trans selection.small) ⟨rfl, rfl, rfl⟩
  exact digestible_cons.mpr ⟨digestible_cons.mpr ⟨counts, digestible_nil⟩,
    digestible_cons.mpr ⟨digestible_cons.mpr ⟨samples, digestible_nil⟩,
      by simp (disch := decide)⟩⟩

/-- So can its record. -/
lemma digestible_record : Digestible selection.record := by
  have outcome : Digestible (.obj [("responses", .int selection.ids.length), ("truncated", .int 0)]) :=
    digestible_cons.mpr ⟨digestible_natCast selection.length_small,
      by simp (disch := decide)⟩
  exact digestible_cons.mpr ⟨digestible_small (by decide),
    digestible_cons.mpr ⟨digestible_str _, digestible_cons.mpr ⟨digestible_str _,
      digestible_cons.mpr ⟨digestible_identity, digestible_cons.mpr ⟨digestible_str _,
        digestible_cons.mpr ⟨⟨rfl, rfl, rfl⟩, digestible_cons.mpr ⟨outcome,
          digestible_cons.mpr ⟨digestible_result, digestible_nil⟩⟩⟩⟩⟩⟩⟩⟩

end Digests

section Keys
variable {selection : Selection}

/-- Items without repeated keys make a list without them. -/
lemma distinctItems_map {α : Type} {f : α → Json} (each : ∀ a, distinctKeys (f a) = true) (l : List α) :
    distinctItems (l.map f) = true := by
  induction l with
  | nil => rfl
  | cons a l ih =>
    rw [List.map_cons, distinctItems, each, ih]
    rfl

lemma distinct_ids : distinctItems selection.idsJson = true :=
  distinctItems_map (fun _ => rfl) _

lemma distinct_dataset : distinctKeys selection.dataset = true := by
  simp only [Selection.dataset, distinctKeys, distinctFields, distinct_ids, List.map_cons, List.map_nil]
  decide +kernel

/-- The identity repeats no key. -/
lemma distinct_identity : distinctKeys selection.identity = true := by
  have samples : distinctItems (selection.ids.map fun id => .obj (chatSample id)) = true :=
    distinctItems_map (fun _ => rfl) _
  have dataset := @distinct_dataset selection
  simp only [Selection.identity, Selection.evaluator, distinctKeys, distinctFields, distinct_ids, dataset,
    samples, List.map_cons, List.map_nil]
  decide +kernel

/-- The record repeats no key. -/
lemma distinct_record : distinctKeys selection.record = true := by
  have samples : distinctItems (selection.ids.map chatResult) = true :=
    distinctItems_map (fun _ => rfl) _
  have identity := @distinct_identity selection
  simp only [Selection.record, Selection.result, distinctKeys, distinctFields, identity, samples,
    List.map_cons, List.map_nil]
  decide +kernel

end Keys

section Surroundings

/-- A digest that knows some texts and differs from theirs on all others. -/
def tableSha (table : List (List ℕ × String)) (codes : List ℕ) : String :=
  (table.lookup codes).getD ("x" ++ exampleSurroundings.sha256 codes)

/-- A table of digests with a rule for the rest tells all texts apart. -/
lemma tableSha_injective {table : List (List ℕ × String)} (nodup : (table.map Prod.snd).Nodup)
    (other : ∀ entry ∈ table, entry.2.toList.head? ≠ some 'x') :
    Function.Injective (tableSha table) := by
  have fresh : ∀ {codes sha}, (codes, sha) ∈ table → ∀ text, sha ≠ "x" ++ text := by
    intro codes sha mem text eq
    refine other _ mem ?_
    rw [eq, String.toList_append]
    rfl
  intro a b eq
  rw [tableSha, tableSha] at eq
  cases foundA : table.lookup a with
  | some shaA =>
    cases foundB : table.lookup b with
    | some shaB =>
      rw [foundA, foundB] at eq
      cases eq
      have same := List.inj_on_of_nodup_map nodup (mem_of_lookup foundA)
        (mem_of_lookup foundB) rfl
      exact congrArg Prod.fst same
    | none =>
      rw [foundA, foundB] at eq
      exact absurd eq (fresh (mem_of_lookup foundA) (exampleSurroundings.sha256 b))
  | none =>
    cases foundB : table.lookup b with
    | some shaB =>
      rw [foundA, foundB] at eq
      exact absurd eq.symm (fresh (mem_of_lookup foundB) (exampleSurroundings.sha256 a))
    | none =>
      rw [foundA, foundB] at eq
      have tail : exampleSurroundings.sha256 a = exampleSurroundings.sha256 b := by
        simpa using eq
      exact exampleSurroundings_injective tail

section Table
variable {codes codes' : List ℕ} {sha : String} {rest : List (List ℕ × String)}

lemma tableSha_self : tableSha ((codes, sha) :: rest) codes = sha := by
  rw [tableSha, List.lookup_cons_self, Option.getD_some]

/-- An entry that differs somewhere is passed over. -/
lemma tableSha_cons (i : ℕ) {c c' : ℕ} (left : codes[i]? = some c) (right : codes'[i]? = some c')
    (apart : c ≠ c') : tableSha ((codes', sha) :: rest) codes = tableSha rest codes := by
  have other : (codes == codes') = false := by
    refine beq_false_of_ne ?_
    intro same
    rw [same, right] at left
    exact apart (Option.some.inj left).symm
  rw [tableSha, tableSha, List.lookup_cons, other]

end Table

/-- The texts that are hashed for a record of a selection. -/
def Selection.table (selection : Selection) : List (List ℕ × String) :=
  [(codesOf "0", targetSha), (codesOf chatPrompt, promptSha),
    (render (.indented 2) 0 chatDocument, documentSha),
    (render .compact 0 (sortKeys chatSources), sourcesSha),
    (render .compact 0 (sortKeys selection.identity), identitySha),
    (render .compact 0 (sortKeys selection.record), recordSha)]

/-- Surroundings with the digests of a selection, in which its prompts and its file can be read. -/
def Selection.surroundings (selection : Selection) : Surroundings where
  sha256 := tableSha selection.table
  loads text :=
    if text = chatPrompt then .tree chatMessages
    else if text = .text (String.ofList (charsOf
      (render (.indented 2) 0 (envelope selection.record recordSha) ++ [10]))) then
      .tree (envelope selection.record recordSha)
    else .malformed "Expecting value"
  levels _ := 498
  observed _ _ _ := .missing
  observedExternal _ _ := .missing

variable {selection : Selection}

lemma head_ofList (c : Char) (l : List Char) : (String.ofList (c :: l)).toList.head? = some c := by
  rw [String.toList_ofList]
  rfl

/-- Digests are texts of digits. -/
lemma head_ne_x : ∀ sha ∈ [targetSha, promptSha, documentSha, sourcesSha, identitySha, recordSha],
    sha.toList.head? ≠ some 'x' := by
  have target : targetSha.toList.head? = some '1' := head_ofList _ _
  have prompt : promptSha.toList.head? = some '2' := head_ofList _ _
  have document : documentSha.toList.head? = some '3' := head_ofList _ _
  have sources : sourcesSha.toList.head? = some '9' := head_ofList _ _
  have identity : identitySha.toList.head? = some '5' := head_ofList _ _
  have record : recordSha.toList.head? = some '6' := head_ofList _ _
  simp [target, prompt, document, sources, identity, record]

/-- The digests of the example tell all texts apart. -/
lemma surroundings_injective : Function.Injective selection.surroundings.sha256 :=
  tableSha_injective
    (by simp [targetSha, promptSha, documentSha, sourcesSha, identitySha, recordSha] :
      [targetSha, promptSha, documentSha, sourcesSha, identitySha, recordSha].Nodup)
    fun entry mem => head_ne_x entry.2 (List.mem_map_of_mem (f := Prod.snd) mem)

/-- The table behind the digests of the example. -/
lemma surroundings_sha256 (codes : List ℕ) : selection.surroundings.sha256 codes =
    tableSha [(codesOf "0", targetSha), (codesOf chatPrompt, promptSha),
      (render (.indented 2) 0 chatDocument, documentSha),
      (render .compact 0 (sortKeys chatSources), sourcesSha),
      (render .compact 0 (sortKeys selection.identity), identitySha),
      (render .compact 0 (sortKeys selection.record), recordSha)] codes :=
  rfl

lemma sha_target : selection.surroundings.sha256 (codesOf "0") = targetSha := by
  rw [surroundings_sha256]
  exact tableSha_self

lemma sha_prompt : selection.surroundings.sha256 (codesOf chatPrompt) = promptSha := by
  rw [surroundings_sha256, @tableSha_cons _ _ _ _ 0 91 48 rfl rfl (by decide)]
  exact tableSha_self

/-- The digest of the prompt document. -/
lemma sha_document :
    selection.surroundings.sha256 (render (.indented 2) 0 chatDocument) = documentSha := by
  rw [surroundings_sha256, @tableSha_cons _ _ _ _ 0 123 48 rfl rfl (by decide),
    @tableSha_cons _ _ _ _ 0 123 91 rfl rfl (by decide)]
  exact tableSha_self

/-- The digest of the sources. -/
lemma sha_sources : shaOf selection.surroundings chatSources = sourcesSha := by
  rw [shaOf, surroundings_sha256, @tableSha_cons _ _ _ _ 0 123 48 rfl rfl (by decide),
    @tableSha_cons _ _ _ _ 0 123 91 rfl rfl (by decide),
    @tableSha_cons _ _ _ _ 1 34 10 rfl rfl (by decide)]
  exact tableSha_self

/-- An object whose first key begins otherwise than that of the sources is none of the first four texts. -/
lemma sha_object {codes : List ℕ} {c : ℕ} (first : codes[0]? = some 123) (second : codes[1]? = some 34)
    (third : codes[2]? = some c) (apart : c ≠ 117) :
    selection.surroundings.sha256 codes =
      tableSha [(render .compact 0 (sortKeys selection.identity), identitySha),
        (render .compact 0 (sortKeys selection.record), recordSha)] codes := by
  have sources : (render .compact 0 (sortKeys chatSources))[2]? = some 117 := rfl
  rw [surroundings_sha256, @tableSha_cons _ _ _ _ 0 123 48 first rfl (by decide),
    @tableSha_cons _ _ _ _ 0 123 91 first rfl (by decide),
    @tableSha_cons _ _ _ _ 1 34 10 second rfl (by decide), tableSha_cons 2 third sources apart]

lemma third_identity : (render .compact 0 (sortKeys selection.identity))[2]? = some 97 := by
  rfl

lemma third_record : (render .compact 0 (sortKeys selection.record))[2]? = some 99 := by
  rfl

lemma sha_identity : shaOf selection.surroundings selection.identity = identitySha := by
  rw [shaOf, sha_object rfl rfl third_identity (by decide)]
  exact tableSha_self

/-- The digest of the record. -/
lemma sha_record : shaOf selection.surroundings selection.record = recordSha := by
  rw [shaOf, sha_object rfl rfl third_record (by decide),
    tableSha_cons 2 third_record third_identity (by decide)]
  exact tableSha_self

end Surroundings

section Accepted
variable {selection : Selection}

lemma nonempty_ids : selection.idsJson ≠ [] :=
  mt List.map_eq_nil_iff.mp selection.nonempty

/-- A list of ids is known, two levels of the stack suffice. -/
lemma known_ids (levels : ℕ) : known (levels + 2) (.arr selection.idsJson) = some true := by
  have items : ∀ l : List ℕ, knownItems (levels + 1) (l.map fun id : ℕ => Json.int id) = some true := by
    intro l
    induction l with
    | nil => rfl
    | cons id ids ih => exact ih
  have some : selection.idsJson.isEmpty = false := List.isEmpty_eq_false_iff.mpr nonempty_ids
  rw [known, some, if_neg Bool.false_ne_true, Selection.idsJson, items]

/-- The identity passes the checks of the chat protocol, which leave two digests to check. -/
lemma validateChatIdentity_chat :
    validateChatIdentity selection.surroundings selection.identity = .ok [.str documentSha,
      .str "7777777777777777777777777777777777777777777777777777777777777777"] := by
  have evaluator : known 498 (without selection.evaluator (chatAbsent ++ ["generation"])) =
      some true := by
    change (known 497 (.arr selection.idsJson) >>= fun walked => if walked then some true else some false) =
      some true
    rw [known_ids]
    rfl
  have rest : known 498 (without selection.identity ["evaluator", "protocol", "samples"]) =
      some true := by
    have dataset : known 497 selection.dataset = some true := by
      change (known 496 (.arr selection.idsJson) >>= fun walked => if walked then some true else some false) =
        some true
      rw [known_ids]
      rfl
    change (known 497 selection.dataset >>= fun walked => if walked then some true else some false) = some true
    rw [dataset]
    rfl
  have stated : chatEvaluator selection.identity = .ok selection.evaluator := rfl
  have levels : selection.surroundings.levels .chat = 498 := rfl
  have parts : (chatParts selection.identity selection.evaluator).forM
      (requireKnown selection.surroundings .chat) = .ok () := by
    rw [forM_eq_ok]
    intro value mem
    rw [requireKnown, levels]
    rcases List.mem_pair.mp mem with rfl | rfl
    · rw [evaluator]
    · rw [rest]
  rw [validateChatIdentity, stated, lifted_ok, ok_bind, parts]
  rfl

/-- It passes the checks that both protocols share. -/
lemma validateSharedFields_chat :
    validateSharedFields selection.identity generationProtocol [.str documentSha,
      .str "7777777777777777777777777777777777777777777777777777777777777777"] = .ok () := by
  have positive : isPositiveInt (.int selection.total) = true := by
    obtain ⟨id, mem⟩ := List.exists_mem_of_ne_nil _ selection.nonempty
    have lt := selection.inside id mem
    exact decide_eq_true (by omega)
  have inside : selection.idsJson.all (isSampleId selection.total) = true := by
    rw [List.all_eq_true]
    intro item mem
    obtain ⟨id, inside, rfl⟩ := List.mem_map.mp mem
    have lt := selection.inside id inside
    simp [isSampleId, lt]
  have nodup : selection.idsJson.Nodup :=
    selection.nodup.map fun _ _ eq => Int.ofNat.inj (Json.int.inj eq)
  have same : pyEq (.arr selection.idsJson) (.arr selection.idsJson) = true :=
    pyEq_self _ digestible_ids.finite distinct_ids
  have reduced : validateSharedFields selection.identity generationProtocol [.str documentSha,
      .str "7777777777777777777777777777777777777777777777777777777777777777"] = (do
      let incomplete := "Incomplete sample/config identity"
      refuseIf (!isPositiveInt (.int selection.total)) incomplete
      refuseIf (selection.idsJson.isEmpty || !selection.idsJson.all (isSampleId selection.total) ||
        !decide selection.idsJson.Nodup) incomplete
      refuseIf (!pyEq (.arr selection.idsJson) (.arr selection.idsJson)) incomplete
      return) := rfl
  rw [reduced, positive, inside, same, List.isEmpty_eq_false_iff.mpr nonempty_ids, decide_eq_true nodup]
  rfl

/-- The ids of samples that are built from ids. -/
lemma docIds_map {f : ℕ → Json} (each : ∀ id, (f id).field "doc_id" = .ok (.int id)) (l : List ℕ) :
    docIds (l.map f) = .ok (l.map fun id : ℕ => Json.int id) := by
  induction l with
  | nil => rfl
  | cons id ids ih =>
    rw [docIds] at ih ⊢
    rw [List.map_cons, List.mapM_cons, each, ok_bind, ih]
    rfl

lemma pyEqItems_ids : pyEqItems selection.idsJson selection.idsJson = true :=
  pyEqItems_self _ digestible_ids.finite distinct_ids

/-- A check that passes for each id passes for all of them. -/
lemma forM_map_ok {α : Type} {ε : Type} {f : ℕ → α} {check : α → Except ε Unit}
    (each : ∀ id, check (f id) = .ok ()) (l : List ℕ) : (l.map f).forM check = .ok () := by
  rw [forM_eq_ok]
  intro a mem
  obtain ⟨id, -, rfl⟩ := List.mem_map.mp mem
  exact each id

/-- The samples of the identity pass. -/
lemma validateSamples_chat : validateSamples selection.identity = .ok () := by
  have reduced : validateSamples selection.identity = (do
      let ids ← docIds (selection.ids.map fun id => .obj (chatSample id))
      refuseIf (!pyEqItems ids selection.idsJson) "Incomplete selected sample identity"
      (selection.ids.map fun id => Json.obj (chatSample id)).forM validateSample) := rfl
  rw [reduced, docIds_map (fun _ => rfl)]
  change (do
      refuseIf (!pyEqItems selection.idsJson selection.idsJson) "Incomplete selected sample identity"
      (selection.ids.map fun id => Json.obj (chatSample id)).forM validateSample) = .ok ()
  rw [pyEqItems_ids]
  exact forM_map_ok (f := fun id => Json.obj (chatSample id)) (fun _ => rfl) selection.ids

/-- The prompt is read as its messages. -/
lemma decode_prompt : selection.surroundings.decode chatPrompt = .ok chatMessages := by
  have loads : selection.surroundings.loads chatPrompt = .tree chatMessages := by
    simp only [Selection.surroundings, if_true]
  rw [Surroundings.decode, loads]

/-- The user message of a sample. -/
lemma generationMessages_chat (id : ℕ) (fields : List (PyString × Json)) :
    generationMessages selection.surroundings (.obj (chatSample id ++ fields)) =
      .ok "Write without commas." := by
  have settings : pyEq generationArguments generationArguments = true := by
    decide +kernel
  have prompt : generationPrompt (.obj (chatSample id ++ fields)) = .ok chatPrompt := by
    change (do
      let prompt := if pyEq generationArguments generationArguments then some (.text chatPrompt) else none
      refuseIf prompt.isNone "Missing/inconsistent generation arguments"
      return prompt.getD "") = Except.ok (PyString.text chatPrompt)
    rw [settings]
    rfl
  have encoded : (PyString.text chatPrompt).encoded = .ok (codesOf chatPrompt) := rfl
  have promptHash : (Json.obj (chatSample id ++ fields)).field "prompt_hash" = .ok (.str promptSha) := rfl
  have targetHash : (Json.obj (chatSample id ++ fields)).field "target_hash" = .ok (.str targetSha) := rfl
  have content : messageContent chatMessages = some (.text "Write without commas.") := by
    decide +kernel
  rw [generationMessages, prompt, lifted_ok, ok_bind, decode_prompt, ok_bind, checkPrompt, content,
    encoded]
  simp only [Option.isNone_some, ok_bind, promptHash, sha_prompt, targetHash, sha_target, pyEq_str.mpr rfl]
  rfl

/-- The identity of a selection is accepted. -/
lemma validateIdentity_chat :
    validateIdentity selection.surroundings selection.identity = .ok () := by
  have chat : identityMode selection.identity = some generationMode := rfl
  have plain : (Json.field selection.identity "runtime") = .ok chatRuntime := rfl
  have unobserved : chatRuntime.holds "execution" = .ok false := rfl
  have samples : selection.identity.field "samples" =
      .ok (.arr (selection.ids.map fun id => .obj (chatSample id))) := rfl
  have shared : validateSharedIdentity selection.identity generationProtocol [.str documentSha,
      .str "7777777777777777777777777777777777777777777777777777777777777777"] = .ok () := by
    rw [validateSharedIdentity, validateSharedFields_chat, plain]
    simp only [lifted_ok, ok_bind, unobserved, doIf, Bool.false_eq_true, if_false, validateSamples_chat]
  rw [validateIdentity, if_pos chat, validateGenerationIdentity, validateChatIdentity_chat, samples]
  simp only [lifted_ok, ok_bind, shared]
  refine forM_map_ok (fun id => ?_) _
  rw [← List.append_nil (chatSample id), generationMessages_chat]
  rfl

/-- The record carries the digest of its identity. -/
lemma validateChecksum_chat :
    validateChecksum selection.surroundings selection.record selection.identity = .ok () := by
  have reduced : validateChecksum selection.surroundings selection.record selection.identity = (do
      refuseIf (!pyEq (.str identitySha) (.str (← digest selection.surroundings selection.identity)))
        "Identity checksum mismatch") := rfl
  rw [reduced, digest_of_digestible digestible_identity, sha_identity]
  rfl

/-- The results belong to the samples, in order. -/
lemma matchSamples_chat (l : List ℕ) :
    matchSamples (l.map chatResult) (l.map fun id => .obj (chatSample id)) = .ok () := by
  induction l with
  | nil => rfl
  | cons id ids ih =>
    have picked : pick (chatResult id) (chatSample id) = .ok (chatSample id) := rfl
    have same : pyEq (.obj (chatSample id)) (.obj (chatSample id)) = true :=
      pyEq_self _ (by rfl) (by rfl)
    have fields : (Json.obj (chatSample id)).dict?.getD [] = chatSample id := rfl
    rw [List.map_cons, List.map_cons, matchSamples, fields, picked, ok_bind, same]
    exact ih

/-- The tables of the results of a selection. -/
def Selection.tables (selection : Selection) : TaskResults :=
  ⟨selection.idsJson, selection.ids.map chatResult,
    .obj [("prompt_level_strict_acc,none", .int 1),
      ("prompt_level_loose_acc,none", .int 1), ("inst_level_strict_acc,none", .int 1),
      ("inst_level_loose_acc,none", .int 1)]⟩

/-- The tables of the result. -/
lemma generationResults_chat :
    generationResults selection.record selection.identity = .ok selection.tables := by
  have counts : countsAre selection.identity selection.idsJson (.obj [("original", .int selection.total),
      ("effective", .int selection.ids.length)]) = .ok true := by
    have same : pyEq (.obj [("original", .int selection.total), ("effective", .int selection.ids.length)])
        (.obj [("original", .int selection.total), ("effective", .int selection.idsJson.length)]) = true := by
      rw [Selection.idsJson, List.length_map]
      exact pyEq_self _ (by rfl) (by rfl)
    rw [← same]
    rfl
  have samples : samplesAre (.arr selection.idsJson) (.arr (selection.ids.map chatResult)) = .ok true := by
    have reduced : samplesAre (.arr selection.idsJson) (.arr (selection.ids.map chatResult)) = (do
        return pyEqItems (← docIds (selection.ids.map chatResult)) selection.idsJson) := rfl
    rw [reduced, docIds_map (fun _ => rfl)]
    exact congrArg Except.ok pyEqItems_ids
  have reduced : generationResults selection.record selection.identity = (do
      lifted (refuseIf (!(← lifted (countsAre selection.identity selection.idsJson
        (.obj [("original", .int selection.total), ("effective", .int selection.ids.length)]))))
          mismatchedResults)
      lifted (refuseIf (!(← lifted (samplesAre (.arr selection.idsJson)
        (.arr (selection.ids.map chatResult))))) mismatchedResults)
      lifted (matchSamples (selection.ids.map chatResult)
        (selection.ids.map fun id => .obj (chatSample id)))
      return selection.tables) := rfl
  rw [reduced, counts, samples, matchSamples_chat]
  rfl

/-- The result of every sample is consistent. -/
lemma validateGenerationSample_chat (id : ℕ) :
    validateGenerationSample selection.surroundings (chatResult id) = .ok () := by
  have document : generationDocument selection.surroundings (chatResult id) = .ok chatDocument := by
    have reduced : generationDocument selection.surroundings (chatResult id) = (do
      lifted (refuseIf (!pyEq (.str (selection.surroundings.sha256 (render (.indented 2) 0 chatDocument)))
        (.str documentSha)) "Generation document differs from its prompt identity")
      return chatDocument) := rfl
    rw [reduced, sha_document]
    rfl
  rw [validateGenerationSample, chatResult, generationMessages_chat, ← chatResult, document]
  rfl

/-- A column in which all results have one value. -/
lemma column_chat {name : String} {value : Json}
    (each : ∀ id, getField ((chatResult id).dict?.getD []) name = value) :
    column (selection.ids.map chatResult) name = List.replicate selection.ids.length value := by
  rw [column, List.map_map, List.eq_replicate_iff]
  constructor
  · rw [List.length_map]
  · intro item mem
    obtain ⟨id, -, rfl⟩ := List.mem_map.mp mem
    exact each id

/-- Where all pass, the share is one. -/
lemma shareOf_replicate {n : ℕ} (some : n ≠ 0) : shareOf (List.replicate n (.bool true)) = 1 := by
  have value : (Json.bool true).number.getD 0 = 1 := rfl
  rw [shareOf, List.map_replicate, value, List.sum_replicate, List.length_replicate, nsmul_one]
  exact div_self (Nat.cast_ne_zero.mpr some)

/-- All metrics of the result are one. -/
lemma aggregates_chat : ∀ metric ∈ generationAggregates (selection.ids.map chatResult),
    metric.1 ∈ promptMetrics ++ instructionMetrics ∧ metric.2 = 1 := by
  have some : selection.ids.length ≠ 0 := mt List.length_eq_zero_iff.mp selection.nonempty
  have prompts : ∀ name ∈ promptMetrics, ∀ id,
      getField ((chatResult id).dict?.getD []) name = .bool true :=
    List.forall_mem_cons.mpr ⟨fun _ => rfl, List.forall_mem_cons.mpr ⟨fun _ => rfl,
      List.forall_mem_nil _⟩⟩
  have instructions : ∀ name ∈ instructionMetrics, ∀ id,
      getField ((chatResult id).dict?.getD []) name = .arr [.bool true] :=
    List.forall_mem_cons.mpr ⟨fun _ => rfl, List.forall_mem_cons.mpr ⟨fun _ => rfl,
      List.forall_mem_nil _⟩⟩
  intro metric mem
  rw [generationAggregates, List.mem_append, List.mem_map, List.mem_map] at mem
  rcases mem with ⟨name, mem, rfl⟩ | ⟨name, mem, rfl⟩
  · exact ⟨List.mem_append_left _ mem,
      (congrArg shareOf (column_chat (prompts name mem))).trans (shareOf_replicate some)⟩
  · refine ⟨List.mem_append_right _ mem, ?_⟩
    have lists := @column_chat selection _ _ (instructions name mem)
    dsimp only
    rw [lists, List.flatMap_replicate]
    exact (congrArg shareOf List.flatten_replicate_singleton).trans (shareOf_replicate some)

/-- A record of a selection is accepted in its surroundings. -/
theorem validateRecord_chat : validateRecord selection.surroundings selection.record = .ok () := by
  have generation : validateRecord selection.surroundings selection.record =
      validateGenerationRecord selection.surroundings selection.record := by rfl
  have head : generationHead selection.surroundings selection.record = .ok selection.identity := by rfl
  have samples : selection.tables.samples.forM
      (validateGenerationSample selection.surroundings) = .ok () :=
    forM_map_ok validateGenerationSample_chat selection.ids
  have reported : ∀ name ∈ promptMetrics ++ instructionMetrics,
      validateMetric selection.tables.results name 1 = .ok () := by
    change ∀ name ∈ promptMetrics ++ instructionMetrics, validateMetric (.obj
      [("prompt_level_strict_acc,none", .int 1), ("prompt_level_loose_acc,none", .int 1),
        ("inst_level_strict_acc,none", .int 1), ("inst_level_loose_acc,none", .int 1)]) name 1 = .ok ()
    decide +kernel
  have metrics : (generationAggregates selection.tables.samples).forM (fun metric =>
      validateMetric selection.tables.results metric.1 metric.2) = .ok () := by
    rw [forM_eq_ok]
    intro metric mem
    obtain ⟨known, one⟩ := aggregates_chat metric mem
    rw [one]
    exact reported metric.1 known
  have outcome : validateOutcome selection.record selection.tables.ids = .ok () := by
    have reduced : validateOutcome selection.record selection.idsJson = (do
        let inconsistent := "Missing/inconsistent generation outcome"
        refuseIf (!pyEq (.int selection.ids.length) (.int selection.idsJson.length)) inconsistent
        refuseIf (!((0 : ℚ) ≤ 0 && 0 ≤ ((selection.ids.length : ℤ) : ℚ))) inconsistent) := rfl
    have length : selection.idsJson.length = selection.ids.length := List.length_map _
    have same : pyEq (.int selection.ids.length) (.int selection.ids.length) = true :=
      pyEq_self _ rfl rfl
    have nonneg : (0 : ℚ) ≤ ((selection.ids.length : ℤ) : ℚ) := by positivity
    change validateOutcome selection.record selection.idsJson = .ok ()
    rw [reduced, length, same, decide_eq_true nonneg]
    rfl
  rw [generation, validateGenerationRecord, head, ok_bind, validateIdentity_chat, ok_bind,
    validateChecksum_chat, lifted_ok, ok_bind, generationResults_chat, ok_bind, samples, ok_bind, metrics,
    ok_bind, outcome, lifted_ok]

end Accepted

end Jaull.Evaluation
