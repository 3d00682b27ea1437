import Jaull.Estimator.Configuration
import Jaull.Estimator.Service
import Jaull.Lib.NumberText
import Jaull.Workflow.RunCache
import Mathlib.Algebra.Order.Floor.Ring
import Mathlib.Algebra.Order.Archimedean.Basic

/-!
# The estimates of a run

Port of `_config_key` of `jaull/workflow/orchestrator.py` and of the estimates it caches. The key leaves four
fields of a configuration out that the estimate reads, so a request may be answered with the estimate of
another configuration: exactly which requests may be is shown below.
-/

namespace Jaull.Workflow
open Jaull.Domain Jaull.Estimator Jaull.Lib

universe u v w x y

section Serve
variable {κ : Type u} [DecidableEq κ] {ν : Type v} {ε : Type w} {ρ : Type x} {ω : Type y}

/-- Python `get_or_compute` of a call that runs alone. -/
def RunCache.getOrCompute (cache : RunCache κ ν) (key : κ) (factory : Except ε ν) :
    RunCache κ ν × Except ε ν :=
  match cache.entries.lookup key with
  | some value => ({ cache with hits := cache.hits + 1 }, .ok value)
  | none =>
    let missed := { cache with misses := cache.misses + 1 }
    match factory with
    | .ok value =>
      let stored := missed.setDefault key value
      (stored.1, .ok stored.2)
    | .error error => (missed, .error error)

/-- How a call ends. -/
def ended : Except ε ν → CallPhase ν ε
  | .ok value => .returned value
  | .error error => .raised error

/-- Three steps of a call that runs alone. -/
lemma advance_alone (cache : RunCache κ ν) (key : κ) (factory : Except ε ν) :
    let looked := cache.advance key factory .idle
    let computed := looked.1.advance key factory looked.2
    computed.1.advance key factory computed.2 =
      ((cache.getOrCompute key factory).1, ended (cache.getOrCompute key factory).2) := by
  dsimp only
  rw [RunCache.getOrCompute]
  cases found : cache.entries.lookup key with
  | some value =>
    rw [show cache.advance key factory .idle = ({ cache with hits := cache.hits + 1 }, .returned value) by
      rw [RunCache.advance.eq_def]
      dsimp only
      rw [found]]
    rfl
  | none =>
    rw [show cache.advance key factory .idle = ({ cache with misses := cache.misses + 1 }, .computing) by
      rw [RunCache.advance.eq_def]
      dsimp only
      rw [found]]
    cases factory with
    | ok value => rfl
    | error error => rfl

variable (key : ρ → κ) (fresh : ρ → Except ε ν)

/-- What requests that come one after the other are answered. -/
def serve (cache : RunCache κ ν) : List ρ → List (Except ε ν)
  | [] => []
  | request :: rest =>
    let answer := cache.getOrCompute (key request) (fresh request)
    answer.2 :: serve answer.1 rest

variable {key fresh} {cache : RunCache κ ν} {k : κ} {value : ν} {request : ρ} {requests : List ρ} {out : ν → ω}

/-- A key that is held is answered with what is held, and counted as a hit. -/
lemma getOrCompute_of_held {factory : Except ε ν} (held : cache.entries.lookup k = some value) :
    cache.getOrCompute k factory = ({ cache with hits := cache.hits + 1 }, .ok value) := by
  rw [RunCache.getOrCompute, held]

/-- What a call leaves under a key: what was there, or what the call computed. -/
lemma lookup_getOrCompute (cache : RunCache κ ν) (key k : κ) (factory : Except ε ν) :
    (cache.getOrCompute key factory).1.entries.lookup k =
      (cache.entries.lookup k).or (if k = key then factory.toOption else none) := by
  rw [RunCache.getOrCompute]
  cases found : cache.entries.lookup key with
  | some value =>
    change cache.entries.lookup k = _
    by_cases same : k = key
    · rw [same, found]
      rfl
    · rw [if_neg same, Option.or_none]
  | none =>
    cases factory with
    | error error =>
      change cache.entries.lookup k = _
      rw [show (if k = key then (Except.error error : Except ε ν).toOption else none) = none by
        split
        · rfl
        · rfl, Option.or_none]
    | ok value =>
      by_cases same : k = key
      · subst same
        obtain ⟨held, which⟩ := lookup_setDefault_self { cache with misses := cache.misses + 1 } k value
        rw [held, which, if_pos rfl, found]
        rfl
      · rw [lookup_setDefault_ne same, if_neg same, Option.or_none]

/-- A value that is stored answers every later request of its key. -/
lemma serve_of_held (held : cache.entries.lookup k = some value) {position : ℕ}
    (at' : requests[position]? = some request) (same : key request = k) :
    (serve key fresh cache requests)[position]? = some (.ok value) := by
  induction requests generalizing cache position with
  | nil => cases at'
  | cons first rest ih =>
    rw [serve]
    cases position with
    | zero =>
      cases at'
      rw [List.getElem?_cons_zero, same, getOrCompute_of_held held]
    | succ position =>
      rw [List.getElem?_cons_succ] at at' ⊢
      refine ih ?_ at'
      rw [lookup_getOrCompute, held]
      rfl

/-- What is held under a key is what each of the requests of the key would be answered by its own factory. -/
def HoldsFresh (key : ρ → κ) (fresh : ρ → Except ε ν) (out : ν → ω) (cache : RunCache κ ν)
    (requests : List ρ) : Prop :=
  ∀ request ∈ requests, ∀ value, cache.entries.lookup (key request) = some value →
    (fresh request).map out = .ok (out value)

/-- Requests of one key that would be answered alike are answered as by their own factories. -/
lemma serve_exact (holds : HoldsFresh key fresh out cache requests)
    (agree : requests.Pairwise fun a b => key a = key b → (fresh a).map out = (fresh b).map out) :
    (serve key fresh cache requests).map (·.map out) = requests.map fun request => (fresh request).map out := by
  induction requests generalizing cache with
  | nil => rfl
  | cons first rest ih =>
    obtain ⟨alike, later⟩ := List.pairwise_cons.mp agree
    rw [serve, List.map_cons, List.map_cons]
    congr 1
    · rw [RunCache.getOrCompute]
      cases found : cache.entries.lookup (key first) with
      | some value => exact (holds first List.mem_cons_self value found).symm
      | none =>
        cases fresh first with
        | error error => rfl
        | ok value =>
          dsimp only
          rw [(lookup_setDefault_self _ _ _).2, found]
          rfl
    · refine ih ?_ later
      -- what the first request stores is fresh for the later ones of its key
      intro request mem value
      rw [lookup_getOrCompute]
      cases found : cache.entries.lookup (key request) with
      | some held =>
        intro eq
        cases eq
        exact holds request (List.mem_cons_of_mem _ mem) value found
      | none =>
        intro eq
        rw [Option.none_or] at eq
        split at eq
        · rename_i same
          rw [← alike request mem same.symm]
          cases own : fresh first with
          | error error =>
            rw [own] at eq
            cases eq
          | ok value' =>
            rw [own] at eq
            cases eq
            rfl
        · cases eq

/-- What a call returned is held under its key. -/
lemma held_of_answered {factory : Except ε ν} (answered : (cache.getOrCompute k factory).2 = .ok value) :
    (cache.getOrCompute k factory).1.entries.lookup k = some value := by
  rw [RunCache.getOrCompute] at answered ⊢
  cases found : cache.entries.lookup k with
  | some held =>
    rw [found] at answered
    cases answered
    exact found
  | none =>
    rw [found] at answered
    cases factory with
    | error error => cases answered
    | ok value' =>
      cases answered
      exact (lookup_setDefault_self _ _ _).1

/-- Where every request is answered as by its own factory, two requests of one key would be. -/
lemma agree_of_exact (whole : ∀ request ∈ requests, ∃ value, fresh request = .ok value)
    (exact : (serve key fresh cache requests).map (·.map out) = requests.map fun request => (fresh request).map out) :
    requests.Pairwise fun a b => key a = key b → (fresh a).map out = (fresh b).map out := by
  induction requests generalizing cache with
  | nil => exact List.Pairwise.nil
  | cons first rest ih =>
    obtain ⟨own, computes⟩ := whole first List.mem_cons_self
    rw [serve, List.map_cons, List.map_cons] at exact
    obtain ⟨head, tail⟩ := List.cons.inj exact
    refine List.pairwise_cons.mpr ⟨?_, ih (fun request mem => whole request (List.mem_cons_of_mem _ mem)) tail⟩
    intro request mem same
    cases answered : (cache.getOrCompute (key first) (fresh first)).2 with
    | error error =>
      rw [answered, computes] at head
      cases head
    | ok value =>
      obtain ⟨position, at'⟩ := List.mem_iff_getElem?.mp mem
      have repeated : (serve key fresh (cache.getOrCompute (key first) (fresh first)).1 rest)[position]? =
          some (.ok value) := serve_of_held (held_of_answered answered) at' same.symm
      have here := congrArg (·[position]?) tail
      rw [List.getElem?_map, List.getElem?_map, repeated, at', Option.map_some, Option.map_some] at here
      rw [← head, answered]
      exact Option.some.inj here

section Calls
variable {ι : Type*} [DecidableEq ι] {callKey : ι → κ} {factory : ι → Except ε ν}

/-- The world after the next step of one call. -/
def stepped (callKey : ι → κ) (factory : ι → Except ε ν) (i : ι)
    (world : World ι (CacheState ι κ ν) (CallPhase ν ε)) : World ι (CacheState ι κ ν) (CallPhase ν ε) :=
  let advanced := world.shared.cache.advance (callKey i) (factory i) (world.phase i)
  { shared :=
      { cache := advanced.1
        stores :=
          if (world.phase i).storing then world.shared.stores ++ [i] else world.shared.stores }
    phase := Function.update world.phase i advanced.2 }

variable {world : World ι (CacheState ι κ ν) (CallPhase ν ε)}

/-- The next step of a call is a move of it. -/
lemma interleaved_stepped (i : ι) :
    Interleaved (callMoves callKey factory) world (stepped callKey factory i world) :=
  .move ⟨rfl, rfl⟩

variable (callKey factory) in
/-- A call that has not begun, run alone, leaves the cache and ends as `getOrCompute` says, and no other call
notices. -/
lemma run_alone {i : ι} (idle : world.phase i = .idle) :
    ∃ world', Run (callMoves callKey factory) world world' ∧
      world'.shared.cache = (world.shared.cache.getOrCompute (callKey i) (factory i)).1 ∧
      world'.phase = Function.update world.phase i
        (ended (world.shared.cache.getOrCompute (callKey i) (factory i)).2) := by
  let looked := stepped callKey factory i world
  let computed := stepped callKey factory i looked
  have alone := advance_alone world.shared.cache (callKey i) (factory i)
  have first : looked.phase i = (world.shared.cache.advance (callKey i) (factory i) .idle).2 := by
    change Function.update world.phase i _ i = _
    rw [Function.update_self, idle]
  have second : computed.phase i =
      (looked.shared.cache.advance (callKey i) (factory i) (looked.phase i)).2 := by
    change Function.update looked.phase i _ i = _
    rw [Function.update_self]
  have cache : looked.shared.cache = (world.shared.cache.advance (callKey i) (factory i) .idle).1 := by
    change (world.shared.cache.advance (callKey i) (factory i) (world.phase i)).1 = _
    rw [idle]
  have last : computed.shared.cache.advance (callKey i) (factory i) (computed.phase i) =
      ((world.shared.cache.getOrCompute (callKey i) (factory i)).1,
        ended (world.shared.cache.getOrCompute (callKey i) (factory i)).2) := by
    rw [← alone, second, show computed.shared.cache =
      (looked.shared.cache.advance (callKey i) (factory i) (looked.phase i)).1 from rfl, first, cache]
  refine ⟨stepped callKey factory i computed, ?_, congrArg Prod.fst last, ?_⟩
  · exact ((Relation.ReflTransGen.single (interleaved_stepped i)).tail (interleaved_stepped i)).tail
      (interleaved_stepped i)
  · change Function.update (Function.update (Function.update world.phase i _) i _) i _ = _
    rw [Function.update_idem, Function.update_idem, last]

/-- Calls made one after the other are a run of the interleaved calls, and it answers them as `serve` does. -/
lemma run_serve {calls : List ι} (apart : calls.Nodup) (idle : ∀ i ∈ calls, world.phase i = .idle) :
    ∃ world', Run (callMoves callKey factory) world world' ∧
      calls.map world'.phase = (serve callKey factory world.shared.cache calls).map ended ∧
      ∀ i ∉ calls, world'.phase i = world.phase i := by
  induction calls generalizing world with
  | nil => exact ⟨world, .refl, rfl, fun i _ => rfl⟩
  | cons call rest ih =>
    obtain ⟨fresh, apart⟩ := List.nodup_cons.mp apart
    obtain ⟨world₁, run₁, cache₁, phase₁⟩ :=
      run_alone callKey factory (idle call List.mem_cons_self)
    have others : ∀ i, i ≠ call → world₁.phase i = world.phase i := by
      intro i ne
      rw [phase₁, Function.update_of_ne ne]
    obtain ⟨world₂, run₂, answers, kept⟩ := ih apart fun i mem => by
      rw [others i fun eq => fresh (eq ▸ mem)]
      exact idle i (List.mem_cons_of_mem _ mem)
    refine ⟨world₂, run₁.trans run₂, ?_, ?_⟩
    · rw [List.map_cons, serve, List.map_cons, answers, cache₁, kept call fresh, phase₁, Function.update_self]
    · intro i notMem
      rw [List.mem_cons, not_or] at notMem
      rw [kept i notMem.2, others i notMem.1]

end Calls

end Serve

section Key

/-- Python `config.precision or ''`. -/
def precisionText : Option WeightPrecision → String
  | some precision => precision.value
  | none => ""

/-- Python `_config_key`. -/
def configKey (config : InferenceConfiguration) : String :=
  config.quantization.getD "" ++ "|" ++ precisionText config.precision ++ "|" ++
    toString config.contextLength ++ "|" ++ toString config.batchSize ++ "|" ++ config.targetDevice.value

/-- The fields that the key of a configuration tells: an empty quantization is none. -/
structure SameKeyed (config config' : InferenceConfiguration) : Prop where
  quantization : config.quantization.getD "" = config'.quantization.getD ""
  precision : config.precision = config'.precision
  contextLength : config.contextLength = config'.contextLength
  batchSize : config.batchSize = config'.batchSize
  targetDevice : config.targetDevice = config'.targetDevice

/-- A text without the mark between the fields. -/
def noBar (text : String) : Bool :=
  text.toList.all (· ≠ '|')

lemma ne_bar {text : String} (free : noBar text = true) : ∀ c ∈ text.toList, c ≠ '|' :=
  fun c mem => of_decide_eq_true (List.all_eq_true.mp free c mem)

/-- A precision is written without bars. -/
lemma precisionText_noBar (precision : Option WeightPrecision) : noBar (precisionText precision) = true := by
  cases precision with
  | none => rfl
  | some precision => cases precision <;> rfl

/-- The text of a precision is read back. -/
lemma ofValue?_precisionText (precision : Option WeightPrecision) :
    WeightPrecision.ofValue? (precisionText precision) = precision := by
  cases precision with
  | none => decide
  | some precision => cases precision <;> decide

/-- Precisions are told apart by their texts. -/
lemma precisionText_injective {precision precision' : Option WeightPrecision}
    (eq : precisionText precision = precisionText precision') : precision = precision' := by
  calc
    precision = WeightPrecision.ofValue? (precisionText precision) := (ofValue?_precisionText _).symm
    _ = WeightPrecision.ofValue? (precisionText precision') := by rw [eq]
    _ = precision' := ofValue?_precisionText _

lemma deviceValue_noBar (device : TargetDevice) : noBar device.value = true := by
  cases device <;> rfl

lemma deviceValue_injective {device device' : TargetDevice} (eq : device.value = device'.value) :
    device = device' := by
  cases device <;> cases device' <;> first | rfl | exact absurd eq (by decide)

/-- A number is written without bars. -/
lemma toString_noBar (n : ℤ) : ∀ c ∈ (toString n).toList, c ≠ '|' := by
  intro c mem
  rw [toList_toString] at mem
  rintro rfl
  exact absurd (intText_number n '|' mem) (by decide)

/-- The key of a configuration in characters. -/
lemma toList_configKey (config : InferenceConfiguration) :
    (configKey config).toList =
      ((((config.quantization.getD "").toList ++ '|' :: (precisionText config.precision).toList) ++
        '|' :: (toString config.contextLength).toList) ++ '|' :: (toString config.batchSize).toList) ++
        '|' :: config.targetDevice.value.toList := by
  rw [configKey]
  simp only [String.toList_append, List.append_assoc]
  rfl

/-- Read from its end, a key parts at its bars. -/
lemma configKey_eq_iff {config config' : InferenceConfiguration} :
    configKey config = configKey config' ↔ SameKeyed config config' := by
  constructor
  · intro eq
    have texts := congrArg String.toList eq
    rw [toList_configKey, toList_configKey] at texts
    obtain ⟨texts, device⟩ := split_last (ne_bar (deviceValue_noBar _)) (ne_bar (deviceValue_noBar _)) texts
    obtain ⟨texts, batch⟩ := split_last (toString_noBar _) (toString_noBar _) texts
    obtain ⟨texts, context⟩ := split_last (toString_noBar _) (toString_noBar _) texts
    obtain ⟨quantization, precision⟩ :=
      split_last (ne_bar (precisionText_noBar _)) (ne_bar (precisionText_noBar _)) texts
    exact
      { quantization := String.toList_injective quantization
        precision := precisionText_injective (String.toList_injective precision)
        contextLength := toString_injective (String.toList_injective context)
        batchSize := toString_injective (String.toList_injective batch)
        targetDevice := deviceValue_injective (String.toList_injective device) }
  · intro same
    rw [configKey, configKey, same.quantization, same.precision, same.contextLength, same.batchSize,
      same.targetDevice]

end Key

section Congruence

/-- The placement, the KV cache and the total of an estimate. -/
structure EstimateOutputs where
  assessment : CompatibilityAssessment
  hardwareFit : Option HardwareFitResult
  kvCache : KvCacheEstimate
  totalBytes : Option ℤ
  deriving DecidableEq

/-- What of an estimate a request is for. -/
def outputs (estimate : EstimatedMemory) : EstimateOutputs where
  assessment := estimate.assessment
  hardwareFit := estimate.hardwareFit
  kvCache := estimate.kvCache
  totalBytes := estimate.totalBytes

/-- The fields that an estimate reads and no key tells. -/
structure SameUnkeyed (config config' : InferenceConfiguration) : Prop where
  kvCacheDtype : ⌊bytesPerParameter config.kvCacheDtype⌋ = ⌊bytesPerParameter config'.kvCacheDtype⌋
  concurrentUsers : config.concurrentUsers = config'.concurrentUsers
  safetyMarginPercent : config.safetyMarginPercent = config'.safetyMarginPercent
  deviceReserveBytes : config.deviceReserveBytes = config'.deviceReserveBytes

variable {services : EstimateServices} {hardware : HardwareProfile} {repoId : String} {analysis : ModelAnalysis}

/-- No quantization and the empty one are both false. -/
lemma truthy_eq_of_getD {text text' : Option String} (same : text.getD "" = text'.getD "") :
    truthy text = truthy text' := by
  have alone : ∀ text : Option String, truthy text = truthy (some (text.getD "")) := by
    intro text
    cases text with
    | none => rfl
    | some text => rfl
  rw [alone text, alone text', same]

/-- They select the same variant. -/
lemma selectVariant_congr {variants : List GgufVariant} {quantization quantization' : Option String}
    (same : quantization.getD "" = quantization'.getD "") :
    selectVariant variants quantization = selectVariant variants quantization' := by
  rw [selectVariant.eq_def, selectVariant.eq_def variants quantization', same, truthy_eq_of_getD same]

/-- So the weights are estimated alike. -/
lemma estimateWeights_congr {quantization quantization' : Option String} {precision : Option WeightPrecision}
    (same : quantization.getD "" = quantization'.getD "") :
    estimateWeights services repoId analysis quantization precision =
      estimateWeights services repoId analysis quantization' precision := by
  rw [estimateWeights.eq_def, estimateWeights.eq_def services repoId analysis quantization',
    selectVariant_congr same]

/-- Types of one whole size make one KV cache. -/
lemma estimateKvCache_congr {config : Option ModelConfig} {context batch users : ℤ} {dtype dtype' : WeightPrecision}
    (same : ⌊bytesPerParameter dtype⌋ = ⌊bytesPerParameter dtype'⌋) :
    estimateKvCache config context batch dtype users = estimateKvCache config context batch dtype' users := by
  rw [estimateKvCache.eq_def, estimateKvCache.eq_def config context batch dtype', same]

/-- An estimate reads no other field of its configuration than these. -/
lemma estimateMemory_congr {config config' : InferenceConfiguration} (keyed : SameKeyed config config')
    (unkeyed : SameUnkeyed config config') :
    (estimateMemory services hardware repoId analysis config).map outputs =
      (estimateMemory services hardware repoId analysis config').map outputs := by
  rw [estimateMemory, estimateMemory, keyed.precision, keyed.contextLength, keyed.batchSize, keyed.targetDevice,
    unkeyed.concurrentUsers, estimateWeights_congr keyed.quantization]
  cases estimateWeights services repoId analysis config'.quantization config'.precision with
  | error failure => rfl
  | ok weighed =>
    obtain ⟨stored, choice⟩ := weighed
    dsimp only [bind, Except.bind]
    cases effectiveConfig services analysis choice with
    | error failure => rfl
    | ok effective =>
      dsimp only
      cases (addTransformerBlockDecomposition stored effective).mapError EstimationFailure.estimate with
      | error failure => rfl
      | ok weights =>
        dsimp only
        rw [estimateKvCache_congr unkeyed.kvCacheDtype]
        cases (estimateKvCache effective config'.contextLength config'.batchSize config'.kvCacheDtype
          config'.concurrentUsers).mapError EstimationFailure.estimate with
        | error failure => rfl
        | ok kvCache =>
          dsimp only
          rw [reserveBytes, reserveBytes, marginPercent, marginPercent, unkeyed.deviceReserveBytes,
            unkeyed.safetyMarginPercent]
          cases (assessComponentsWithFit _ kvCache.layers hardware config'.targetDevice
            weights.transformerBlockDecomposition).mapError EstimationFailure.analyze with
          | error failure => rfl
          | ok assessed => rfl

end Congruence

section Worlds

/-- What the validators of Python `InferenceConfiguration` check. -/
structure ConfigurationValid (config : InferenceConfiguration) : Prop where
  context_pos : 0 < config.contextLength
  batch_pos : 0 < config.batchSize
  margin_nonneg : 0 ≤ config.safetyMarginPercent
  margin_le : config.safetyMarginPercent ≤ 100
  reserve_nonneg : 0 ≤ config.deviceReserveBytes
  users_pos : 1 ≤ config.concurrentUsers

/-- A hub that has one safetensors summary, or none. -/
def plainServices (summary : Option SafetensorsSummary) : EstimateServices where
  packedTransformersQuantizationLabel := fun _ => none
  safetensorsSummary := fun _ => .ok summary
  enrich := fun _ _ => .ok none
  recommendRuntime := fun _ => { runtime := .transformers, confidence := .low }

/-- A hub on which a repository has `count` parameters. -/
def sizedServices (count : ℕ) : EstimateServices :=
  plainServices (some { totalParameters := count })

/-- A transformers repository without files. -/
def plainAnalysis (config : Option ModelConfig) : ModelAnalysis where
  classification := { primaryType := .transformers }
  config := config

/-- One layer with one head of one dimension. -/
def smallestConfig : ModelConfig where
  hiddenSize := some 1
  numHiddenLayers := some 1
  numAttentionHeads := some 1

/-- A machine without GPU. -/
def bareMachine : HardwareProfile where
  os := "Linux"
  arch := "x86_64"
  cpu := {}
  memory := { totalBytes := 0, availableBytes := 0 }

variable {hardware : HardwareProfile} {repoId : String} {config config' : InferenceConfiguration}

/-- The bytes of the weights. -/
def weightBytes (count : ℕ) (precision : Option WeightPrecision) : ℤ :=
  ⌈((count : ℤ) : ℚ) * bytesPerParameter (precision.getD .float16)⌉

/-- The bytes that do not depend on a reserve or a margin: the weights and the overhead. -/
def storedBytes (count : ℕ) (precision : Option WeightPrecision) : ℤ :=
  let weights := weightBytes count precision
  weights + max overheadMinBytes (512 * 1024 ^ 2 + truncate (1 / 10 * weights))

/-- The total over the bytes that are stored. -/
def plannedTotal (stored : ℤ) (config : InferenceConfiguration) : ℤ :=
  let subtotal := stored + config.deviceReserveBytes
  subtotal + ⌈(subtotal : ℚ) * (config.safetyMarginPercent / 100)⌉

/-- The bytes of a reserve. -/
lemma deviceReserve_bytes {bytes : ℤ} (nonneg : 0 ≤ bytes) : (deviceReserveComponent bytes).bytes = some bytes := by
  change some (if bytes ≤ 0 then 0 else bytes) = some bytes
  split
  · rename_i le
    rw [Int.le_antisymm le nonneg]
  · rfl

/-- The bytes of a margin. -/
lemma safetyMargin_bytes {subtotal : ℤ} {percent : ℚ} (nonneg : 0 ≤ percent) :
    ((safetyMarginComponent (some subtotal) percent).bind (·.bytes)).getD 0 =
      ⌈(subtotal : ℚ) * (percent / 100)⌉ := by
  rw [safetyMarginComponent]
  split
  · rename_i le
    rw [le_antisymm le nonneg, zero_div, mul_zero, Int.ceil_zero]
    rfl
  · rfl

lemma sumComponents_four (a b c : ℤ) : sumComponents [some a, none, some b, some c] = some (a + b + c) := by
  change some (a + (b + (c + 0))) = _
  rw [Int.add_zero, Int.add_assoc]

lemma sumComponents_two (a b : ℤ) : sumComponents [some a, some b] = some (a + b) := by
  change some (a + (b + 0)) = _
  rw [Int.add_zero]

/-- The weights of a model of so many parameters. -/
lemma sized_weights (count : ℕ) (precision : Option WeightPrecision) :
    (estimateWeightsFromSafetensors { totalParameters := count } precision none).component.bytes =
      some (weightBytes count precision) := by
  cases precision with
  | none => rfl
  | some precision => rfl

/-- On such a hub every estimate has a total. -/
lemma sized_estimate (count : ℕ) (valid : ConfigurationValid config) :
    ∃ estimate, estimateMemory (sizedServices count) bareMachine repoId (plainAnalysis none) config = .ok estimate ∧
      estimate.totalBytes = some (plannedTotal (storedBytes count config.precision) config) := by
  refine ⟨_, rfl, ?_⟩
  have subtotal : sumComponents
      [(estimateWeightsFromSafetensors { totalParameters := count } config.precision none).component.bytes, none,
        (overheadOf false (estimateWeightsFromSafetensors { totalParameters := count } config.precision
          none).component.bytes).component.bytes,
        (deviceReserveComponent config.deviceReserveBytes).bytes] =
      some (storedBytes count config.precision + config.deviceReserveBytes) := by
    rw [sized_weights, deviceReserve_bytes valid.reserve_nonneg]
    exact sumComponents_four _ _ _
  let total (subtotal : Option ℤ) : Option ℤ := sumComponents
    [subtotal, some (((safetyMarginComponent subtotal config.safetyMarginPercent).bind (·.bytes)).getD 0)]
  refine (congrArg total subtotal).trans ?_
  dsimp only [total]
  rw [safetyMargin_bytes valid.margin_nonneg, sumComponents_two, plannedTotal]

/-- More parameters take more bytes. -/
lemma le_storedBytes (count : ℕ) (precision : Option WeightPrecision) :
    (count : ℚ) / 2 ≤ storedBytes count precision := by
  have least : ∀ precision, (1 : ℚ) / 2 ≤ bytesPerParameter precision := by
    intro precision
    cases precision <;> rw [bytesPerParameter] <;> norm_num
  have weights : (count : ℚ) / 2 ≤ weightBytes count precision := by
    calc
      (count : ℚ) / 2 = count * (1 / 2) := by ring
      _ ≤ count * bytesPerParameter (precision.getD .float16) :=
        mul_le_mul_of_nonneg_left (least _) (Nat.cast_nonneg _)
      _ ≤ weightBytes count precision := by
        rw [weightBytes, Int.cast_natCast]
        exact Int.le_ceil _
  have overhead : 0 ≤ max overheadMinBytes (512 * 1024 ^ 2 + truncate (1 / 10 * weightBytes count precision)) :=
    le_max_of_le_left (by decide)
  have more : weightBytes count precision ≤ storedBytes count precision := Int.le_add_of_nonneg_right overhead
  exact weights.trans (Int.cast_le.mpr more)

/-- A larger margin takes more bytes once there are enough to take it of. -/
lemma margin_le_of_totals (valid' : ConfigurationValid config')
    (totals : ∀ count : ℕ, plannedTotal (storedBytes count config.precision) config =
      plannedTotal (storedBytes count config.precision) config') :
    config'.safetyMarginPercent ≤ config.safetyMarginPercent := by
  by_contra more
  rw [not_le] at more
  have apart : 0 < (config'.safetyMarginPercent - config.safetyMarginPercent) / 100 := by linarith
  -- what the smaller margin can take besides its share of the stored bytes
  obtain ⟨half, enough⟩ := exists_nat_ge
    ((config.deviceReserveBytes + config.deviceReserveBytes * (config.safetyMarginPercent / 100) + 1) /
      ((config'.safetyMarginPercent - config.safetyMarginPercent) / 100))
  rw [div_le_iff₀ apart] at enough
  have stored : (half : ℚ) ≤ storedBytes (2 * half) config.precision := by
    have least := le_storedBytes (2 * half) config.precision
    rw [Nat.cast_mul, Nat.cast_ofNat, mul_div_cancel_left₀ _ two_ne_zero] at least
    exact least
  have share := mul_le_mul_of_nonneg_right stored apart.le
  have total : (plannedTotal (storedBytes (2 * half) config.precision) config : ℚ) =
      plannedTotal (storedBytes (2 * half) config.precision) config' := by rw [totals]
  rw [plannedTotal, plannedTotal] at total
  push_cast at total
  have below := Int.ceil_lt_add_one
    ((storedBytes (2 * half) config.precision + config.deviceReserveBytes : ℚ) * (config.safetyMarginPercent / 100))
  have above := Int.le_ceil
    ((storedBytes (2 * half) config.precision + config'.deviceReserveBytes : ℚ) * (config'.safetyMarginPercent / 100))
  have reserve : (0 : ℚ) ≤ config'.deviceReserveBytes := Int.cast_nonneg valid'.reserve_nonneg
  have taken := mul_nonneg reserve valid'.margin_nonneg
  linarith

/-- A larger reserve takes more bytes. -/
lemma plannedTotal_lt {stored : ℤ} (valid : ConfigurationValid config)
    (margin : config.safetyMarginPercent = config'.safetyMarginPercent)
    (less : config.deviceReserveBytes < config'.deviceReserveBytes) :
    plannedTotal stored config < plannedTotal stored config' := by
  rw [plannedTotal, plannedTotal, ← margin]
  have subtotal : stored + config.deviceReserveBytes < stored + config'.deviceReserveBytes :=
    Int.add_lt_add_left less stored
  apply add_lt_add_of_lt_of_le subtotal
  apply Int.ceil_mono
  apply mul_le_mul_of_nonneg_right (Int.cast_le.mpr subtotal.le)
  exact div_nonneg valid.margin_nonneg (by norm_num)

/-- Equal totals on every hub come from one margin and one reserve. -/
lemma headroom_eq_of_totals (valid : ConfigurationValid config) (valid' : ConfigurationValid config')
    (totals : ∀ count : ℕ, plannedTotal (storedBytes count config.precision) config =
      plannedTotal (storedBytes count config.precision) config')
    (precision : config.precision = config'.precision) :
    config.safetyMarginPercent = config'.safetyMarginPercent ∧
      config.deviceReserveBytes = config'.deviceReserveBytes := by
  have margin : config.safetyMarginPercent = config'.safetyMarginPercent := by
    apply le_antisymm
    · exact margin_le_of_totals valid fun count => precision ▸ (totals count).symm
    · exact margin_le_of_totals valid' totals
  refine ⟨margin, ?_⟩
  rcases lt_trichotomy config.deviceReserveBytes config'.deviceReserveBytes with less | same | more
  · exact absurd (totals 0) (plannedTotal_lt valid margin less).ne
  · exact same
  · exact absurd (totals 0) (plannedTotal_lt valid' margin.symm more).ne'

/-- On a hub without sizes, a repository whose configuration is known has a KV cache that tells its figures. -/
lemma smallest_estimate (config : InferenceConfiguration) :
    ∃ estimate, estimateMemory (plainServices none) bareMachine repoId (plainAnalysis (some smallestConfig)) config =
        .ok estimate ∧
      estimate.kvCache = knownKvCache smallestConfig 1 1 1 config.contextLength config.batchSize
        ⌊bytesPerParameter config.kvCacheDtype⌋ config.concurrentUsers :=
  ⟨_, rfl, rfl⟩

/-- Equal KV caches of that repository come from one size of an element and one number of users. -/
lemma users_eq_of_kvCache {context batch bytes bytes' users users' : ℤ}
    (same : knownKvCache smallestConfig 1 1 1 context batch bytes users =
      knownKvCache smallestConfig 1 1 1 context batch bytes' users') : bytes = bytes' ∧ users = users' := by
  have dtypeBytes : bytes = bytes' := congrArg (·.dtypeBytes) same
  subst dtypeBytes
  have explained := congrArg (fun estimate => estimate.component.explanation.toList) same
  have parted : ∀ a b c : String, (a ++ b ++ c).toList = a.toList ++ b.toList ++ c.toList := by
    intro a b c
    rw [String.toList_append, String.toList_append]
  have texts := (parted _ _ _).symm.trans (explained.trans (parted _ _ _))
  refine ⟨rfl, toString_injective (String.toList_injective ?_)⟩
  exact List.append_cancel_left (List.append_cancel_right texts)

end Worlds

section Requests

/-- An estimate that is asked for: the repository, and a configuration that its validators accept. -/
structure EstimateRequest where
  repoId : String
  config : InferenceConfiguration
  valid : ConfigurationValid config

/-- The key of the run-wide cache. -/
def EstimateRequest.key (request : EstimateRequest) : String × String :=
  (request.repoId, configKey request.config)

/-- A fresh `estimate_memory`, on what the run inspected. -/
def freshEstimate (services : EstimateServices) (hardware : HardwareProfile) (analysis : String → ModelAnalysis)
    (request : EstimateRequest) : Except EstimationFailure EstimatedMemory :=
  estimateMemory services hardware request.repoId (analysis request.repoId) request.config

/-- The cached path answers every request as a fresh estimate would. -/
def ServedFresh (services : EstimateServices) (hardware : HardwareProfile) (analysis : String → ModelAnalysis)
    (requests : List EstimateRequest) : Prop :=
  (serve EstimateRequest.key (freshEstimate services hardware analysis) {} requests).map (·.map outputs) =
    requests.map fun request => (freshEstimate services hardware analysis request).map outputs

instance (services : EstimateServices) (hardware : HardwareProfile) (analysis : String → ModelAnalysis)
    (requests : List EstimateRequest) : Decidable (ServedFresh services hardware analysis requests) :=
  inferInstanceAs (Decidable (_ = _))

/-- Requests of one key agree in every field that the key leaves out. -/
def KeysTellAll (requests : List EstimateRequest) : Prop :=
  requests.Pairwise fun request request' =>
    request.key = request'.key → SameUnkeyed request.config request'.config

variable {requests : List EstimateRequest}

/-- Keys that tell all requests apart serve each afresh. -/
lemma servedFresh_of_keysTellAll {services : EstimateServices} {hardware : HardwareProfile}
    {analysis : String → ModelAnalysis} (tell : KeysTellAll requests) :
    ServedFresh services hardware analysis requests := by
  apply serve_exact
  · intro request mem value held
    cases held
  · refine tell.imp ?_
    intro request request' unkeyed same
    have keyed := configKey_eq_iff.mp (congrArg Prod.snd same)
    rw [freshEstimate, freshEstimate, show request.repoId = request'.repoId from congrArg Prod.fst same]
    exact estimateMemory_congr keyed (unkeyed same)

/-- What two requests of one key have in common where every estimate exists. -/
lemma outputs_eq_of_servedFresh {services : EstimateServices} {config : Option ModelConfig}
    (served : ServedFresh services bareMachine (fun _ => plainAnalysis config) requests)
    (whole : ∀ request ∈ requests, ∃ estimate,
      freshEstimate services bareMachine (fun _ => plainAnalysis config) request = .ok estimate) :
    requests.Pairwise fun request request' => request.key = request'.key →
      ∀ estimate estimate', freshEstimate services bareMachine (fun _ => plainAnalysis config) request = .ok estimate →
        freshEstimate services bareMachine (fun _ => plainAnalysis config) request' = .ok estimate' →
        outputs estimate = outputs estimate' := by
  refine (agree_of_exact whole served).imp ?_
  intro request request' agree same estimate estimate' fresh fresh'
  have both := agree same
  rw [fresh, fresh'] at both
  exact Except.ok.inj both

/-- The run-wide cache answers every sequence of requests as fresh estimates would, whatever the hub, the
machine and the repositories are, exactly when the requests of each key agree in the size of a KV element, the
users, the safety margin and the reserve. -/
theorem servedFresh_iff (requests : List EstimateRequest) :
    (∀ services hardware analysis, ServedFresh services hardware analysis requests) ↔ KeysTellAll requests := by
  constructor
  · intro served
    have sized := fun count => outputs_eq_of_servedFresh
      (served (sizedServices count) bareMachine fun _ => plainAnalysis none) fun request _ =>
        (sized_estimate count request.valid).imp fun _ => And.left
    have smallest := outputs_eq_of_servedFresh
      (served (plainServices none) bareMachine fun _ => plainAnalysis (some smallestConfig)) fun request _ =>
        (smallest_estimate request.config).imp fun _ => And.left
    rw [KeysTellAll, List.pairwise_iff_getElem]
    intro i j hi hj less same
    have keyed := configKey_eq_iff.mp (congrArg Prod.snd same)
    have totals : ∀ count, plannedTotal (storedBytes count requests[i].config.precision) requests[i].config =
        plannedTotal (storedBytes count requests[i].config.precision) requests[j].config := by
      intro count
      obtain ⟨estimate, fresh, total⟩ := sized_estimate count requests[i].valid
      obtain ⟨estimate', fresh', total'⟩ := sized_estimate count requests[j].valid
      have agree := List.pairwise_iff_getElem.mp (sized count) i j hi hj less same estimate estimate' fresh fresh'
      have both := congrArg EstimateOutputs.totalBytes agree
      change estimate.totalBytes = estimate'.totalBytes at both
      rw [total, total', ← keyed.precision] at both
      exact Option.some.inj both
    obtain ⟨margin, reserve⟩ :=
      headroom_eq_of_totals requests[i].valid requests[j].valid totals keyed.precision
    obtain ⟨estimate, fresh, kvCache⟩ := smallest_estimate requests[i].config
    obtain ⟨estimate', fresh', kvCache'⟩ := smallest_estimate requests[j].config
    have agree := List.pairwise_iff_getElem.mp smallest i j hi hj less same estimate estimate' fresh fresh'
    have both := congrArg EstimateOutputs.kvCache agree
    change estimate.kvCache = estimate'.kvCache at both
    rw [kvCache, kvCache', keyed.contextLength, keyed.batchSize] at both
    obtain ⟨bytes, users⟩ := users_eq_of_kvCache both
    exact ⟨bytes, users, margin, reserve⟩
  · intro tell services hardware analysis
    exact servedFresh_of_keysTellAll tell

/-- A configuration that a run asks an estimate for: what `_build_config` makes of the requirements of the run,
with a quantization, a precision and a target of its own. -/
def AskedBy (requirements : UserRequirements) (config : InferenceConfiguration) : Prop :=
  ∃ quantization precision target,
    config = { buildConfig requirements quantization precision with targetDevice := target }

/-- What the ladders try is asked by the run. -/
lemma askedBy_ggufConfig (requirements : UserRequirements) (hardware : Option HardwareProfile)
    (quantization : String) : AskedBy requirements (ggufConfig requirements hardware quantization) := by
  rw [ggufConfig]
  split
  · exact ⟨some quantization, none, .cpu, rfl⟩
  · exact ⟨some quantization, none, .auto, rfl⟩

/-- A plan of another variant asks with the configuration that was selected, under its own quantization and
precision. -/
lemma askedBy_configForVariant {collaborators : Recommendation.Collaborators}
    {evaluated : EvaluatedCandidate} {requirements : UserRequirements} {selected : InferenceConfiguration}
    (asked : AskedBy requirements selected) (chosen : evaluated.selectedConfiguration = some selected)
    (quantization : Option String) (precision : Option WeightPrecision) :
    AskedBy requirements
      (Recommendation.configForVariant collaborators evaluated requirements quantization precision) := by
  obtain ⟨_, _, target, rfl⟩ := asked
  rw [Recommendation.configForVariant, chosen]
  exact ⟨quantization, precision, target, rfl⟩

/-- A run has one reserve, one margin, one number of users and one KV type, so its cache answers every sequence
of its requests as fresh estimates would. -/
theorem servedFresh_of_askedBy {requirements : UserRequirements}
    (asked : ∀ request ∈ requests, AskedBy requirements request.config) (services : EstimateServices)
    (hardware : HardwareProfile) (analysis : String → ModelAnalysis) :
    ServedFresh services hardware analysis requests := by
  apply servedFresh_of_keysTellAll
  apply List.Pairwise.imp_of_mem (R := fun _ _ => True)
  · intro request request' mem mem' _ _
    obtain ⟨_, _, _, eq⟩ := asked request mem
    obtain ⟨_, _, _, eq'⟩ := asked request' mem'
    rw [eq, eq']
    exact ⟨rfl, rfl, rfl, rfl⟩
  · exact List.pairwise_of_forall fun _ _ => trivial

/-- A configuration of the guided path, and one that reserves nothing: one key. -/
def reservedRequest : EstimateRequest where
  repoId := "org/model"
  config := { contextLength := 4096, deviceReserveBytes := 512 * 1024 ^ 2 }
  valid := ⟨by decide, by decide, by decide +kernel, by decide +kernel, by decide, by decide⟩

/-- A request without reserve. -/
def unreservedRequest : EstimateRequest where
  repoId := "org/model"
  config := { contextLength := 4096 }
  valid := ⟨by decide, by decide, by decide +kernel, by decide +kernel, by decide, by decide⟩

/-- The second request is answered with the total of the first. -/
theorem unreserved_answered_reserved :
    reservedRequest.key = unreservedRequest.key ∧
      ¬ServedFresh (sizedServices 1000000000) bareMachine (fun _ => plainAnalysis none)
        [reservedRequest, unreservedRequest] := by
  refine ⟨rfl, ?_⟩
  decide +kernel

end Requests

end Jaull.Workflow
