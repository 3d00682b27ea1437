import Jaull.Adapters.StoredHeader
import Jaull.Domain.Enrichment
import Jaull.Huggingface.Classifiers
import Jaull.Metadata.RangeReader

/-!
# Enrichment of a representation

Port of `jaull/metadata/service.py`: the header of a representation is looked up in the cache of headers or read
with ranged requests, its base model is resolved, and the configuration of the base model is merged into it.
-/

/-!
## The base model of a repository

Port of `jaull/metadata/base_model_resolver.py`, with `MetadataSource` and `BaseModelResolution` of
`jaull/domain/estimation.py`. The data of a model card are the entries of its `to_dict`. `repr` is Python's
`repr` of a text.
-/

namespace Jaull.Metadata
open Jaull.Domain Jaull.Huggingface Jaull.Lib Jaull.Text

/-- A value of a model card. -/
inductive CardValue
  | null
  | text (value : String)
  | list (items : List CardValue)
  | dict (entries : List (String × CardValue))
  /-- A number or a date. -/
  | other
  deriving Repr

/-- The data of a model card. -/
abbrev CardData : Type :=
  List (String × CardValue)

/-- The text, where the value is one. -/
def CardValue.text? : CardValue → Option String
  | .text value => some value
  | _ => none

/-- Python `MetadataSource`. -/
inductive MetadataSource
  | modelCardMetadata | ggufMetadata | explicitRepositoryReference | unresolved
  deriving DecidableEq, Repr

/-- Python `BaseModelResolution`. -/
structure BaseModelResolution where
  repoId : Option String
  source : MetadataSource
  confidence : EstimationConfidence
  evidence : List String := []
  warnings : List String := []
  candidates : List String := []
  deriving DecidableEq, Repr

section References

/-- A character of a name in a URL (`[^/\s#?]`). -/
def isReferenceChar (c : Char) : Bool :=
  c ≠ '/' && !isSpace c && c ≠ '#' && c ≠ '?'

/-- The scheme and the host of a URL of the hub, in any case. -/
def hubHost : Scanner Unit := do
  Scanner.literal sameLetter "HTTP".toList
  fun text => some (((Scanner.literal sameLetter ['S'] text).getD ((), text)))
  Scanner.literal sameLetter "://HUGGINGFACE.CO/".toList

/-- Python `_HF_URL_RE` at the beginning of a text, with the group it captures. -/
def hubUrlAt : Scanner String := do
  hubHost
  let owner ← Scanner.some1 isReferenceChar
  Scanner.literal Scanner.sameChar ['/']
  let name ← Scanner.some1 isReferenceChar
  return String.ofList (owner ++ '/' :: name)

/-- Python `_HF_URL_RE.search`, the group it captures. -/
def hubUrlIn : List Char → Option String
  | [] => none
  | c :: rest =>
    match hubUrlAt (c :: rest) with
    | some (reference, _) => some reference
    | none => hubUrlIn rest

/-- Python `_normalise_ref`. -/
def normaliseRef (value : String) : Option String :=
  let ref := strip value
  if ref = "" then none
  else
    match hubUrlAt ref.toList with
    | some (reference, _) => some reference
    | none =>
      if '/' ∈ ref.toList ∧ ¬("http".toList <+: ref.toList) ∧ ¬("www".toList <+: ref.toList) then some ref
      else none

/-- The references that a list of a card holds. -/
def listedRefs (items : List CardValue) : List String :=
  items.filterMap fun item => item.text?.bind normaliseRef

/-- Python `_RELATION_KEYS`. -/
def relationKeys : List String :=
  ["finetune", "quantized_by", "merge", "adapter", "base_model"]

/-- The references of an entry of a dictionary of relations. -/
def relationRefs : Option CardValue → List String
  | some (.text value) => (normaliseRef value).toList
  | some (.list items) => listedRefs items
  | _ => []

end References

/-- A base model that a source names. -/
def resolved (candidate : String) (source : MetadataSource) (confidence : EstimationConfidence)
    (evidence : String) : BaseModelResolution where
  repoId := some candidate
  source := source
  confidence := confidence
  evidence := [evidence]

/-- Several base models, none of which is picked. -/
def ambiguous (candidates : List String) (warning : String) (evidence : List String) : BaseModelResolution where
  repoId := none
  source := .unresolved
  confidence := .low
  candidates := candidates
  warnings := [warning]
  evidence := evidence

/-- Python `_from_card_data`. -/
def fromCardData (cardData : CardData) : Option BaseModelResolution :=
  match cardData.lookup "base_model" with
  | some (.text value) =>
    (normaliseRef value).map fun candidate =>
      resolved candidate .modelCardMetadata .high ("Model card `base_model: " ++ candidate ++ "`.")
  | some (.list items) =>
    match listedRefs items with
    | [] => none
    | [candidate] =>
      some (resolved candidate .modelCardMetadata .high
        ("Model card `base_model` list with one entry: " ++ candidate ++ "."))
    | candidates =>
      some (ambiguous candidates "Model card lists multiple base models; refusing to pick one automatically."
        ["Candidates: " ++ ", ".intercalate candidates ++ "."])
  | some (.dict entries) =>
    match (relationKeys.flatMap fun key => relationRefs (entries.lookup key)).reverse.dedup.reverse with
    | [] => none
    | [candidate] =>
      some (resolved candidate .modelCardMetadata .high
        ("Model card relation entry resolved to " ++ candidate ++ "."))
    | candidates =>
      some (ambiguous candidates "Model card relations point to multiple base models; ambiguous." [])
  | _ => none

/-- Python `_from_gguf_header`. -/
def fromGgufHeader (header : Option GgufHeaderMetadata) : Option BaseModelResolution :=
  ((header.bind (·.sourceRepository)).bind normaliseRef).map fun candidate =>
    resolved candidate .ggufMetadata .high
      ("GGUF header `general.source.huggingface.repository` = " ++ candidate ++ ".")

/-- The fields of a card that may hold a URL. -/
def urlKeys : List String :=
  ["source", "source_url", "homepage", "url"]

/-- Python `_from_url`. -/
def fromUrl (cardData : CardData) : Option BaseModelResolution :=
  urlKeys.findSome? fun key =>
    (((cardData.lookup key).bind (·.text?)).bind fun value => hubUrlIn value.toList).map fun candidate =>
      resolved candidate .explicitRepositoryReference .medium
        ("Model card field '" ++ key ++ "' references " ++ candidate ++ ".")

/-- Python `GGUF_SUFFIX_HINTS`. -/
def ggufSuffixHints : List String :=
  ["-GGUF", "-gguf", ".gguf"]

/-- Python `_name_hint`. -/
def nameHint (repoId : String) : Option String :=
  ggufSuffixHints.findSome? fun suffix =>
    if suffix.toList <:+ repoId.toList then
      let base := repoId.toList.take (repoId.toList.length - suffix.toList.length)
      if '/' ∈ base then some (String.ofList base) else none
    else none

/-- No source names a base model. -/
def unresolvedBase (repr : String → String) (repoId : String) : BaseModelResolution where
  repoId := none
  source := .unresolved
  confidence := .low
  evidence := (nameHint repoId).toList.map fun hint =>
    "Repository name suggests conversion of " ++ repr hint ++ " but this is only a hint."
  warnings := ["Base model could not be resolved from model card, GGUF header or URLs."]

/-- Python `resolve_base_model`, for the data of the card that `_extract_card_data` extracts. -/
def resolveBaseModel (repr : String → String) (cardData : CardData) (header : Option GgufHeaderMetadata)
    (repoId : String) : BaseModelResolution :=
  (((fromCardData cardData).or (fromGgufHeader header)).or (fromUrl cardData)).getD (unresolvedBase repr repoId)

end Jaull.Metadata

namespace Jaull.Metadata
open Jaull.Adapters Jaull.Domain Jaull.Lib Jaull.Text

/-- What comes of the `config.json` of a base model: its configuration, or an exception of one of the kinds that
`_fetch_base_config` tells apart. -/
inductive BaseConfigFetch
  | config (config : ModelConfig)
  | notFound
  | accessDenied
  | unavailable (text : String)
  | jaullError (text : String)
  | unparsable (text : String)

/-- What an enrichment asks of the hub and of the network, and Python's `repr` of texts and conflicting values.
-/
structure EnrichServices where
  repr : String → String
  conflictText : ConfigurationConflict String ⊕ ConfigurationConflict ℤ → String
  /-- The data of the model card of a repository, or the text of a `JaullError`. -/
  modelInfo : String → Except String CardData
  baseConfig : String → BaseConfigFetch
  rangeClient : Option HttpRangeClient
  /-- Python `hf_hub_url`. -/
  hubUrl : String → String → String

/-- Python `EnrichmentResult`. -/
structure EnrichmentResult where
  enrichedConfig : Option EnrichedConfig
  baseModelResolution : BaseModelResolution
  ggufHeader : Option GgufHeaderMetadata
  warnings : List String

variable (services : EnrichServices)

/-- Python `PurePosixPath(filename).name`. -/
def posixName (filename : String) : String :=
  String.ofList ((((filename.toList.splitOn '/').filter fun part => part ≠ [] && part ≠ ['.']).getLast?).getD [])

/-- Python `_looks_like_multipart_non_first`: the digits in front of the first `-of-` are not those of one. -/
def looksLikeMultipartNonFirst (filename : String) : Bool :=
  let name := (posixName filename).toList
  match (List.range name.length).find? fun i => "-of-".toList.isPrefixOf (name.drop i) with
  | none => false
  | some i =>
    let index := ((name.take i).reverse.takeWhile (· ≠ '-')).reverse
    index ≠ [] && index.all isDigitChar && decimalValue index ≠ 1

/-- The turns in which `fetch_gguf_header` comes to its end. -/
def headerTurns : ℕ :=
  7

/-- Python `read_variant_header`, with the warnings it adds. -/
def readVariantHeader (client : HttpRangeClient) (repoId : String) (variant : GgufVariant) :
    Option GgufHeaderMetadata × List String :=
  match firstShard variant with
  | none => (none, [])
  | some file =>
    let multipart :=
      if looksLikeMultipartNonFirst file.path then
        ["Variant " ++ variant.quantization ++ " looks multipart; using first shard " ++ posixName file.path ++
          " for header read."]
      else []
    match fetchGgufHeader headerTurns (services.hubUrl repoId file.path) client with
    | none => (none, multipart)
    | some (result, _) => (result.header, multipart ++ result.warnings)

/-- Python `_fetch_base_config`, with the warnings it adds. -/
def fetchBaseConfig (repoId : String) : Option ModelConfig × List String :=
  match services.baseConfig repoId with
  | .config config => (some config, [])
  | .notFound => (none, ["Base repository " ++ repoId ++ " does not exist; skipping enrichment."])
  | .accessDenied => (none, ["Base repository " ++ repoId ++ " is gated; set HF_TOKEN to enable enrichment."])
  | .unavailable text => (none, ["Could not reach " ++ repoId ++ " for base config: " ++ text ++ "."])
  | .jaullError text => (none, ["Could not read base config from " ++ repoId ++ ": " ++ text ++ "."])
  | .unparsable text => (none, ["config.json for " ++ repoId ++ " could not be parsed: " ++ text ++ "."])

section Headers
variable (env : CacheEnv) (cache : EntryCache HeaderRequest HeaderTarget GgufHeaderMetadata)

/-- The header that an enrichment works with, the warnings about it, and the cache afterwards: `now` is the time
of the lookup, and `time` that of the entry, which the operating system may refuse to write. -/
def headerOf (files : CacheFiles) (now time : ℤ) (refused : Bool) (request : HeaderRequest) :
    Except Escaped (Option GgufHeaderMetadata × List String × CacheFiles) :=
  match cache.get env files now request with
  | .error escaped => .error escaped
  | .ok (.hit header) => .ok (some header, [], files)
  | .ok (.miss _) =>
    match services.rangeClient with
    | none => .ok (none, [], files)
    | some client =>
      match readVariantHeader services client request.repoId request.variant with
      | (none, warnings) => .ok (none, warnings, files)
      | (some header, warnings) =>
        .ok (some header, warnings, cache.put env files time request header refused)

end Headers

/-- The end of Python `enrich`, with the header it works with. -/
def enrichWith (repoId : String) (header : Option GgufHeaderMetadata) (warnings : List String) : EnrichmentResult :=
  let info := services.modelInfo repoId
  let infoWarnings :=
    match info with
    | .ok _ => []
    | .error text => ["Could not re-read model info while enriching: " ++ text]
  let resolution : BaseModelResolution := resolveBaseModel services.repr (info.toOption.getD []) header repoId
  let base :=
    match resolution.repoId with
    | some baseRepoId =>
      if baseRepoId ≠ "" ∧ resolution.confidence ∈ [EstimationConfidence.high, .medium] then
        fetchBaseConfig services baseRepoId
      else (none, [])
    | none => (none, [])
  let enriched := merge header base.1
  { enrichedConfig := enriched
    baseModelResolution := resolution
    ggufHeader := header
    warnings := infoWarnings ++ warnings ++ resolution.warnings ++ base.2 ++
      ((enriched.map (·.conflicts)).getD []).map services.conflictText }

/-- Python `enrich` of a chosen representation, with the cache of headers. -/
def enrich (env : CacheEnv) (cache : EntryCache HeaderRequest HeaderTarget GgufHeaderMetadata) (files : CacheFiles)
    (now time : ℤ) (refused : Bool) (request : HeaderRequest) : Except Escaped (EnrichmentResult × CacheFiles) :=
  match headerOf services env cache files now time refused request with
  | .error escaped => .error escaped
  | .ok (header, warnings, files') => .ok (enrichWith services request.repoId header warnings, files')

end Jaull.Metadata
