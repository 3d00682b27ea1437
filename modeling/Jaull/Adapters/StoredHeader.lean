import Jaull.Adapters.Caches
import Jaull.Metadata.ConfigMerger

/-!
# Headers read back from the cache

The cache of headers leaves out the keys of the tokenizer, and the merger reads two keys that begin with the
name of the architecture. A file may name its architecture `tokenizer`: its key and value lengths are then
read from the file and not from the cache.
-/

namespace Jaull.Adapters
open Jaull.Domain Jaull.Lib Jaull.Metadata Jaull.Text

section Entries

/-- What the cache keeps of a table: the value of each key that is none of the tokenizer. -/
lemma get_storedEntries (entries : GgufEntries) (key : String) :
    (storedEntries entries).get key = if ofTokenizer key then none else entries.get key := by
  have apart : ((dictComprehension Prod.fst Prod.snd (entries.filter fun entry => !ofTokenizer entry.1)
      []).map Prod.fst).Nodup := nodup_dictComprehension List.nodup_nil
  have kept := lookup_filter_key (d := entries.reverse) (k := key) fun key => !ofTokenizer key
  rw [GgufEntries.get, GgufEntries.get, storedEntries,
    lookup_eq_of_perm ((List.reverse_perm _).trans (sortedBy_perm _ _)) apart, lookup_dictComprehension_entries,
    List.lookup_nil, Option.or_none, ← List.filter_reverse, kept]
  cases ofTokenizer key with
  | true => rfl
  | false => rfl

/-- What a header that is read back holds under a key. -/
lemma get_stored (header : GgufHeaderMetadata) (key : String) :
    (storedHeader header).rawKv.get key = if ofTokenizer key then none else header.rawKv.get key :=
  get_storedEntries header.rawKv key

end Entries

section Names

/-- A word with a separator begins a name where it begins the part before the separator, or is that part. -/
lemma separated_prefix_iff {α : Type} {separator : α} {word name rest : List α} (plain : separator ∉ word) :
    word ++ [separator] <+: name ++ separator :: rest ↔ name = word ∨ word ++ [separator] <+: name := by
  constructor
  · intro begins
    rcases List.prefix_or_prefix_of_prefix begins (List.prefix_append name (separator :: rest)) with short | long
    · exact .inr short
    · obtain ⟨tail, eq⟩ := long
      rw [← eq, List.prefix_append_right_inj] at begins
      cases tail using List.reverseRecOn with
      | nil =>
        rw [List.append_nil] at eq
        rw [eq]
        exact .inr List.prefix_rfl
      | append_singleton front last =>
        rw [← List.append_assoc] at eq
        obtain ⟨same, -⟩ := List.append_inj' eq rfl
        cases front with
        | nil =>
          rw [List.append_nil] at same
          exact .inl same
        | cons c front =>
          -- a separator in the middle of the word
          rw [List.cons_append, List.cons_prefix_cons] at begins
          rw [← same, begins.1] at plain
          exact absurd (List.mem_append_right _ List.mem_cons_self) plain
  · rintro (rfl | begins)
    · rw [List.prefix_append_right_inj, List.cons_prefix_cons]
      exact ⟨rfl, List.nil_prefix⟩
    · exact begins.trans (List.prefix_append _ _)

/-- The keys of such an architecture are keys of the tokenizer. -/
def namesTokenizer (architecture : String) : Bool :=
  architecture = "tokenizer" || ofTokenizer architecture

/-- Whether a key of the attention block is of the tokenizer is a matter of the architecture. -/
lemma ofTokenizer_attention (architecture name : String) :
    ofTokenizer (architecture ++ ".attention." ++ name) = namesTokenizer architecture := by
  have word : "tokenizer.".toList.map Char.toNat = "tokenizer".toList.map Char.toNat ++ [46] := rfl
  have key : (architecture ++ ".attention." ++ name).toList.map Char.toNat =
      architecture.toList.map Char.toNat ++ 46 :: (("attention." ++ name).toList.map Char.toNat) := by
    rw [String.toList_append, String.toList_append, String.toList_append, List.map_append, List.map_append,
      List.map_append, List.append_assoc]
    rfl
  rw [Bool.eq_iff_iff, ofTokenizer, isTokenizerKey, List.isPrefixOf_iff_prefix, word, key,
    separated_prefix_iff (by decide), namesTokenizer, Bool.or_eq_true, decide_eq_true_eq, ofTokenizer,
    isTokenizerKey, List.isPrefixOf_iff_prefix, word]
  apply or_congr_left
  constructor
  · intro same
    exact String.ext (map_toNat_injective same)
  · rintro rfl
    rfl

/-- A length of the attention block is read back unless the architecture is named after the tokenizer. -/
lemma attentionLength_stored (header : GgufHeaderMetadata) (name : String) :
    attentionLength (storedHeader header) name =
      if namesTokenizer (header.architecture.getD "None") then none else attentionLength header name := by
  rw [attentionLength, get_stored, ← ofTokenizer_attention _ name]
  change Option.bind (if ofTokenizer (header.architecture.getD "None" ++ ".attention." ++ name) then _ else _) _ = _
  split
  · rfl
  · rfl

end Names

section Merging
variable {header : GgufHeaderMetadata} {base : Option ModelConfig}

/-- Setting what is there changes nothing. -/
lemma dictSet_eq_self {flags : List (String × Json)} {name : String} {value : Json}
    (there : flags.lookup name = some value) : dictSet flags name value = flags := by
  induction flags with
  | nil => cases there
  | cons entry rest ih =>
    obtain ⟨own, held⟩ := entry
    rw [dictSet]
    split
    · rename_i same
      subst same
      rw [List.lookup_cons_self] at there
      rw [Option.some.inj there]
    · rename_i other
      rw [lookup_cons_ne (Ne.symm other)] at there
      rw [ih there]

/-- Setting a flag changes the flags unless it was set. -/
lemma set_eq_iff {flags : List (String × Json)} {pop : Prop} [Decidable pop] :
    (if pop then compositeFlags.foldl dictPop flags else flags) =
        (if pop then compositeFlags.foldl dictPop (dictSet flags unsupportedHeadFlag (.bool true))
          else dictSet flags unsupportedHeadFlag (.bool true)) ↔
      flags.lookup unsupportedHeadFlag = some (.bool true) := by
  constructor
  · intro same
    have found := congrArg (List.lookup unsupportedHeadFlag) same
    split at found
    · rw [lookup_pops (by decide), lookup_pops (by decide), lookup_dictSet_self] at found
      exact found
    · rw [lookup_dictSet_self] at found
      exact found
  · intro there
    rw [dictSet_eq_self there]

/-- The flags that a header without a value length yields. -/
lemma mergedFlags_eq_iff {stored : GgufHeaderMetadata} (absent : attentionLength stored "value_length" = none)
    (flags : List (String × Json)) (headDim layers hidden heads : Option ℤ) :
    mergedFlags (some stored) flags headDim layers hidden heads =
        mergedFlags (some header) flags headDim layers hidden heads ↔
      ∀ dim, attentionLength header "value_length" = some dim →
        keyDim headDim hidden heads = some dim ∨ flags.lookup unsupportedHeadFlag = some (.bool true) := by
  have unset : ¬ ((none : Option ℤ).isSome = true ∧ none ≠ keyDim headDim hidden heads) :=
    fun both => Bool.false_ne_true both.1
  rw [mergedFlags, mergedFlags, absent, if_neg unset]
  cases stated : attentionLength header "value_length" with
  | none =>
    rw [if_neg unset]
    exact iff_of_true rfl fun dim eq => absurd eq (Option.some_ne_none dim).symm
  | some dim =>
    by_cases same : some dim = keyDim headDim hidden heads
    · have agrees : ¬ ((some dim).isSome = true ∧ some dim ≠ keyDim headDim hidden heads) := fun both => both.2 same
      rw [if_neg agrees]
      refine iff_of_true rfl fun dim' eq => .inl ?_
      rw [← same, eq]
    · have differs : (some dim).isSome = true ∧ some dim ≠ keyDim headDim hidden heads := ⟨rfl, same⟩
      rw [if_pos differs, set_eq_iff]
      constructor
      · intro there dim' _
        exact .inr there
      · intro idle
        rcases idle dim rfl with eq | there
        · exact absurd eq.symm same
        · exact there

/-- The configuration that a header and a base configuration merge to. -/
def mergedConfig (header : GgufHeaderMetadata) (base : Option ModelConfig) : Option ModelConfig :=
  (merge (some header) base).map (·.config)

/-- The lengths of the attention block that the header states make no difference: the key length is the head
dimension of the base configuration, and the value length is the key dimension, or the flag is set anyway. -/
def LengthsIdle (header : GgufHeaderMetadata) (base : Option ModelConfig) : Prop :=
  (∀ dim, attentionLength header "key_length" = some dim → base.bind (·.headDim) = some dim) ∧
    ∀ dim, attentionLength header "value_length" = some dim →
      keyDim (base.bind (·.headDim)) (header.embeddingLength.or (base.bind (·.hiddenSize)))
          (header.headCount.or (base.bind (·.numAttentionHeads))) = some dim ∨
        ((base.map (·.rawFlags)).getD []).lookup unsupportedHeadFlag = some (.bool true)

/-- The merge of a header and a base configuration, field by field. -/
lemma mergedConfig_eq (header : GgufHeaderMetadata) (base : Option ModelConfig) :
    mergedConfig header base = some
      { architectures :=
          match truthy header.architecture with
          | some architecture => [archToClassName architecture]
          | none => (base.map (·.architectures)).getD []
        modelType := truthy (header.architecture.or (base.bind (·.modelType)))
        torchDtype := base.bind (·.torchDtype)
        maxPositionEmbeddings := header.contextLength.or (base.bind (·.maxPositionEmbeddings))
        hiddenSize := header.embeddingLength.or (base.bind (·.hiddenSize))
        numHiddenLayers := header.blockCount.or (base.bind (·.numHiddenLayers))
        numAttentionHeads := header.headCount.or (base.bind (·.numAttentionHeads))
        numKeyValueHeads := header.headCountKv.or (base.bind (·.numKeyValueHeads))
        headDim := (attentionLength header "key_length").or (base.bind (·.headDim))
        intermediateSize := base.bind (·.intermediateSize)
        slidingWindow := base.bind (·.slidingWindow)
        useSlidingWindow := base.bind (·.useSlidingWindow)
        ropeScaling := base.bind (·.ropeScaling)
        tieWordEmbeddings := base.bind (·.tieWordEmbeddings)
        vocabSize := base.bind (·.vocabSize)
        quantizationConfig := base.bind (·.quantizationConfig)
        rawFlags := mergedFlags (some header) ((base.map (·.rawFlags)).getD [])
          ((attentionLength header "key_length").or (base.bind (·.headDim)))
          (header.blockCount.or (base.bind (·.numHiddenLayers)))
          (header.embeddingLength.or (base.bind (·.hiddenSize)))
          (header.headCount.or (base.bind (·.numAttentionHeads))) } := by
  rw [mergedConfig, merge, if_neg (fun neither => Bool.false_ne_true neither.1)]
  rfl

/-- Two headers that differ in their tables only merge to the same configuration where their head dimensions
and their flags are the same. -/
lemma mergedConfig_eq_iff {stored : GgufHeaderMetadata} (fields : stored = { header with rawKv := stored.rawKv }) :
    mergedConfig stored base = mergedConfig header base ↔
      (attentionLength stored "key_length").or (base.bind (·.headDim)) =
          (attentionLength header "key_length").or (base.bind (·.headDim)) ∧
        mergedFlags (some stored) ((base.map (·.rawFlags)).getD [])
            ((attentionLength header "key_length").or (base.bind (·.headDim)))
            (header.blockCount.or (base.bind (·.numHiddenLayers)))
            (header.embeddingLength.or (base.bind (·.hiddenSize)))
            (header.headCount.or (base.bind (·.numAttentionHeads))) =
          mergedFlags (some header) ((base.map (·.rawFlags)).getD [])
            ((attentionLength header "key_length").or (base.bind (·.headDim)))
            (header.blockCount.or (base.bind (·.numHiddenLayers)))
            (header.embeddingLength.or (base.bind (·.hiddenSize)))
            (header.headCount.or (base.bind (·.numAttentionHeads))) := by
  have layers : stored.blockCount = header.blockCount := by rw [fields]
  have hidden : stored.embeddingLength = header.embeddingLength := by rw [fields]
  have heads : stored.headCount = header.headCount := by rw [fields]
  have kvHeads : stored.headCountKv = header.headCountKv := by rw [fields]
  have positions : stored.contextLength = header.contextLength := by rw [fields]
  have architecture : stored.architecture = header.architecture := by rw [fields]
  rw [mergedConfig_eq, mergedConfig_eq, layers, hidden, heads, kvHeads, positions, architecture, Option.some_inj,
    ModelConfig.mk.injEq]
  simp only [true_and]
  apply and_congr_right
  intro dims
  rw [dims]

/-- A header that is read back merges to the same configuration exactly where no length is left out that makes
a difference. -/
lemma mergedConfig_stored_iff (header : GgufHeaderMetadata) (base : Option ModelConfig) :
    mergedConfig (storedHeader header) base = mergedConfig header base ↔
      (namesTokenizer (header.architecture.getD "None") = true → LengthsIdle header base) := by
  rw [mergedConfig_eq_iff rfl]
  have key := attentionLength_stored header "key_length"
  have value := attentionLength_stored header "value_length"
  cases named : namesTokenizer (header.architecture.getD "None") with
  | false =>
    rw [named, if_neg Bool.false_ne_true] at key value
    refine iff_of_true ⟨by rw [key], ?_⟩ fun eq => absurd eq Bool.false_ne_true
    rw [mergedFlags, mergedFlags, value]
  | true =>
    rw [named, if_pos rfl] at key value
    rw [mergedFlags_eq_iff value, key, Option.none_or, LengthsIdle]
    refine Iff.trans ?_ (forall_prop_of_true rfl).symm
    constructor
    · rintro ⟨dims, flags⟩
      rw [← dims] at flags
      refine ⟨?_, flags⟩
      intro dim stated
      rw [dims, stated, Option.some_or]
    · rintro ⟨dims, flags⟩
      have same : base.bind (·.headDim) = (attentionLength header "key_length").or (base.bind (·.headDim)) := by
        cases stated : attentionLength header "key_length" with
        | none => rw [Option.none_or]
        | some dim => rw [Option.some_or, dims dim stated]
      rw [← same]
      exact ⟨rfl, flags⟩

end Merging

section Served
variable {ρ τ α : Type} {env : CacheEnv} {cache : EntryCache ρ τ α}

/-- What a lookup serves after a value was put is what is stored of the value. -/
lemma eq_stored_of_served {stored : α → α} {files : CacheFiles} {time now : ℤ} {request : ρ} {value served : α}
    (roundTrips : ∀ target, cache.target request = some target → cache.RoundTrips env stored time target value)
    (hit : cache.get env (cache.put env files time request value false) now request = .ok (.hit served)) :
    served = stored value := by
  obtain ⟨target, content, text, raw, targeted, file, decoded, loaded, judged⟩ := EntryCache.get_eq_hit hit
  obtain ⟨⟨text', decoded', loaded'⟩, _, validated⟩ := roundTrips target targeted
  rw [EntryCache.put, targeted] at file
  have written : EntryFile.bytes (env.dumps (cache.entry env time target value)) = .bytes content :=
    (Function.update_self _ _ _).symm.trans file
  cases written
  cases decoded.symm.trans decoded'
  cases loaded.symm.trans loaded'
  obtain ⟨fields, dict, _, _, valid⟩ := EntryCache.judge_eq_hit judged
  rw [EntryCache.entry, sortKeys] at dict
  cases dict
  rw [getField_sortFields, cache.fields_payload, validated] at valid
  exact (Option.some.inj valid).symm

variable (ttl : ℤ) (dump : GgufHeaderMetadata → Json) (validate : Json → Option GgufHeaderMetadata)

/-- A header that the cache serves merges like the header that was put, exactly where its architecture is not
named after the tokenizer or the lengths it states make no difference; it is as complete in any case. -/
theorem servedHeader_merges_iff {files : CacheFiles} {time now : ℤ} {request : HeaderRequest}
    {header served : GgufHeaderMetadata}
    (roundTrips : ∀ target, (ggufHeaderCache ttl dump validate).target request = some target →
      (ggufHeaderCache ttl dump validate).RoundTrips env storedHeader time target header)
    (hit : (ggufHeaderCache ttl dump validate).get env
      ((ggufHeaderCache ttl dump validate).put env files time request header false) now request =
        .ok (.hit served)) :
    served.isComplete = header.isComplete ∧ ∀ base, mergedConfig served base = mergedConfig header base ↔
      (namesTokenizer (header.architecture.getD "None") = true → LengthsIdle header base) := by
  have same := eq_stored_of_served roundTrips hit
  subst same
  exact ⟨rfl, mergedConfig_stored_iff header⟩

/-- A file that names its architecture after the tokenizer, its keys not in order. -/
def namedFile : List UInt8 :=
  writeFile
    [writeTextEntry "general.name" "Named", writeTextEntry "general.architecture" "tokenizer",
      writeIntEntry "tokenizer.attention.key_length" 128]

/-- The header of that file. -/
def namedHeader : GgufHeaderMetadata :=
  (parseHeader namedFile).header?.getD {}

/-- A cache of such headers, for a day. They are read back with their keys in order. -/
def namedCache : EntryCache HeaderRequest HeaderTarget GgufHeaderMetadata :=
  ggufHeaderCache 86400000000
    (fun _ => .obj [("architecture", .str "tokenizer"), ("name", .str "Named"),
      ("raw_kv", .obj [("general.name", .str "Named"), ("general.architecture", .str "tokenizer"),
        ("tokenizer.attention.key_length", .int 128)])])
    fun _ => some
      { namedHeader with
        rawKv := [("general.architecture", .string "tokenizer"), ("general.name", .string "Named")] }

/-- Its entry for the header. -/
def namedEntry : Json :=
  .obj (namedCache.fields ⟨oneFile, { path := "model.gguf" }⟩ epoch (namedCache.dump namedHeader))

/-- Surroundings at the start of the epoch in which every file holds the entry. -/
def namedEnv : CacheEnv where
  sha256 key := key
  loads _ := .tree (sortKeys namedEntry)
  dumps := jsonBytes
  fromIso _ := some 0
  isoFormat _ := epoch

set_option maxRecDepth 4000 in
/-- The header is stored without the key of its attention block. -/
lemma storedHeader_named : storedHeader namedHeader =
    { namedHeader with
      rawKv := [("general.architecture", .string "tokenizer"), ("general.name", .string "Named")] } := by
  have parsed : namedHeader.rawKv =
      [("general.name", .string "Named"), ("general.architecture", .string "tokenizer"),
        ("tokenizer.attention.key_length", .int 128)] := rfl
  rw [storedHeader, parsed]
  rfl

/-- The entry of the header is read back. -/
lemma namedCache_roundTrips (target : HeaderTarget) (targeted : namedCache.target oneFile = some target) :
    namedCache.RoundTrips namedEnv storedHeader 0 target namedHeader := by
  have target_eq : target = ⟨oneFile, { path := "model.gguf" }⟩ := (Option.some.inj targeted).symm
  subst target_eq
  exact ⟨⟨_, decode_jsonBytes _, rfl⟩, rfl, congrArg some storedHeader_named.symm⟩

/-- A lookup behind the put serves what is stored of the header. -/
lemma namedCache_serves :
    namedCache.get namedEnv (namedCache.put namedEnv (fun _ => .absent) 0 oneFile namedHeader false) 0 oneFile =
      .ok (.hit (storedHeader namedHeader)) := by
  have target : namedCache.target oneFile = some ⟨oneFile, { path := "model.gguf" }⟩ := rfl
  rw [EntryCache.get, EntryCache.put, target]
  dsimp only
  rw [if_neg Bool.false_ne_true, Function.update_self]
  have entry : namedEnv.dumps (EntryCache.entry namedEnv namedCache 0 ⟨oneFile, { path := "model.gguf" }⟩ namedHeader) =
      jsonBytes namedEntry := rfl
  rw [entry]
  dsimp only
  rw [decode_jsonBytes]
  have loads : ∀ text, namedEnv.loads text = .tree (sortKeys namedEntry) := fun _ => rfl
  dsimp only
  rw [loads, storedHeader_named]
  dsimp only
  rfl

/-- `servedHeader_merges_iff` of the header that names its architecture after the tokenizer. -/
theorem namedHeader_merges_iff :
    (∀ target, namedCache.target oneFile = some target →
      namedCache.RoundTrips namedEnv storedHeader 0 target namedHeader) ∧
    (storedHeader namedHeader).isComplete = namedHeader.isComplete ∧
      ∀ base, mergedConfig (storedHeader namedHeader) base = mergedConfig namedHeader base ↔
        (namesTokenizer (namedHeader.architecture.getD "None") = true → LengthsIdle namedHeader base) :=
  ⟨namedCache_roundTrips, servedHeader_merges_iff _ _ _ namedCache_roundTrips namedCache_serves⟩

/-- The head dimension that the file states is lost on the way through the cache. -/
theorem namedHeader_headDim_lost :
    parseHeader namedFile = .header namedHeader ∧
      namedCache.get namedEnv (namedCache.put namedEnv (fun _ => .absent) 0 oneFile namedHeader false) 0 oneFile =
        .ok (.hit (storedHeader namedHeader)) ∧
      mergedConfig (storedHeader namedHeader) none ≠ mergedConfig namedHeader none := by
  refine ⟨Parsed.eq_header (by decide +kernel), namedCache_serves, ?_⟩
  intro same
  have dims := congrArg (fun config => config.bind (·.headDim)) same
  revert dims
  decide +kernel

end Served

end Jaull.Adapters
