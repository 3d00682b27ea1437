import Jaull.Estimator.KvCache
import Jaull.Lib.CeilShare

/-!
# What truncating the element size loses

`int(bytes_per_parameter(kv_dtype))` drops the half byte of a four-bit element, so the cache of such a
dtype is sized to zero bytes. `neverUndercounts_iff` says for which configurations that shows.
-/

namespace Jaull.Estimator
open Jaull.Domain Jaull.Lib

/-- Every dimension the configuration states is positive. -/
def PositiveDimensions (config : ModelConfig) : Prop :=
  ∀ dimension ∈ [config.numHiddenLayers, config.numAttentionHeads, config.hiddenSize,
    config.numKeyValueHeads, config.headDim, config.slidingWindow], ∀ n, dimension = some n → 0 < n

/-- The elements of the cache: two per layer, KV head, head dimension, token in force, sequence and
session. -/
def kvElements (config : ModelConfig) (layers heads hidden contextLength batchSize concurrentUsers : ℤ) :
    ℤ :=
  2 * layers * orInt config.numKeyValueHeads heads * orInt config.headDim (hidden.fdiv heads) *
    (applySlidingWindow config contextLength).1 * batchSize * concurrentUsers

/-- A cache reported as known takes at least its exact size. -/
def NeverUndercounts (config : ModelConfig) (contextLength batchSize : ℤ) (kvDtype : WeightPrecision)
    (concurrentUsers : ℤ) : Prop :=
  ∀ estimate bytes layers heads hidden,
    estimateKvCache (some config) contextLength batchSize kvDtype concurrentUsers = .ok estimate →
    estimate.component.bytes = some bytes → config.numHiddenLayers = some layers →
    config.numAttentionHeads = some heads → config.hiddenSize = some hidden →
    kvElements config layers heads hidden contextLength batchSize concurrentUsers *
      bytesPerParameter kvDtype ≤ bytes

/-- The cache is sized, and to something: a standard attention whose dimensions are stated, its heads not
more than the hidden size they split unless their dimension is stated too. -/
def Sized (config : ModelConfig) : Prop :=
  detectExoticArchitecture config = none ∧ config.numHiddenLayers.isSome ∧
    ∃ heads hidden, config.numAttentionHeads = some heads ∧ config.hiddenSize = some hidden ∧
      (config.headDim.isSome ∨ heads ≤ hidden)

section
variable {config : ModelConfig} {contextLength batchSize concurrentUsers : ℤ}
  {kvDtype : WeightPrecision} {estimate : KvCacheEstimate} {layers heads hidden bytes : ℤ}

/-- A value that is positive where it is stated stands for itself. -/
lemma orInt_of_pos {a : Option ℤ} {b : ℤ} (pos : ∀ n, a = some n → 0 < n) :
    orInt a b = a.getD b := by
  cases a with
  | none => rfl
  | some n => rw [orInt, if_neg (pos n rfl).ne', Option.getD_some]

/-- A positive window leaves a positive context. -/
lemma applySlidingWindow_pos (window : ∀ n, config.slidingWindow = some n → 0 < n)
    (context : 0 < contextLength) : 0 < (applySlidingWindow config contextLength).1 := by
  cases stated : config.slidingWindow with
  | none =>
    rw [applySlidingWindow, stated]
    exact context
  | some n =>
    have pos := window n stated
    simp only [applySlidingWindow, stated]
    split
    · exact context
    · split
      · exact pos
      · exact context
      · split
        · exact pos
        · exact context

/-- What a cache reported as known is made of. -/
lemma bytes_of_estimateKvCache (heads_pos : ∀ n, config.numAttentionHeads = some n → 0 < n)
    (run : estimateKvCache (some config) contextLength batchSize kvDtype concurrentUsers =
      .ok estimate) (known : estimate.component.bytes = some bytes) :
    detectExoticArchitecture config = none ∧ ∃ layers heads hidden,
      config.numHiddenLayers = some layers ∧ config.numAttentionHeads = some heads ∧
      config.hiddenSize = some hidden ∧
      bytes = kvElements config layers heads hidden contextLength batchSize concurrentUsers *
        ⌊bytesPerParameter kvDtype⌋ := by
  simp only [estimateKvCache] at run
  cases exotic : detectExoticArchitecture config with
  | some reason =>
    rw [exotic] at run
    cases run
    cases known
  | none =>
    rw [exotic] at run
    cases eqL : config.numHiddenLayers with
    | none =>
      rw [eqL] at run
      cases run
      cases known
    | some layers =>
      cases eqA : config.numAttentionHeads with
      | none =>
        rw [eqL, eqA] at run
        cases run
        cases known
      | some heads =>
        cases eqH : config.hiddenSize with
        | none =>
          rw [eqL, eqA, eqH] at run
          cases run
          cases known
        | some hidden =>
          rw [eqL, eqA, eqH] at run
          refine ⟨rfl, layers, heads, hidden, rfl, rfl, rfl, ?_⟩
          simp only [headDimension_eq (heads_pos heads eqA).ne'] at run
          cases run
          cases known
          rfl

/-- What `estimateKvCache` returns when the dimensions are stated. -/
lemma estimateKvCache_known (heads_pos : 0 < heads)
    (plain : detectExoticArchitecture config = none) (eqL : config.numHiddenLayers = some layers)
    (eqA : config.numAttentionHeads = some heads) (eqH : config.hiddenSize = some hidden) :
    ∃ estimate, estimateKvCache (some config) contextLength batchSize kvDtype concurrentUsers =
        .ok estimate ∧
      estimate.component.bytes =
        some (kvElements config layers heads hidden contextLength batchSize concurrentUsers *
          ⌊bytesPerParameter kvDtype⌋) := by
  simp only [estimateKvCache, plain, eqL, eqA, eqH, headDimension_eq heads_pos.ne']
  exact ⟨_, rfl, rfl⟩

/-- There are elements to cache unless a head count or a head size is zero. -/
lemma kvElements_pos_iff (positive : PositiveDimensions config) (context : 0 < contextLength)
    (batch : 0 < batchSize) (users : 0 < concurrentUsers)
    (eqL : config.numHiddenLayers = some layers) (eqA : config.numAttentionHeads = some heads)
    (eqH : config.hiddenSize = some hidden) :
    0 < kvElements config layers heads hidden contextLength batchSize concurrentUsers ↔
      config.headDim.isSome ∨ heads ≤ hidden := by
  have layers_pos := positive _ (by simp) _ eqL
  have heads_pos := positive _ (by simp) _ eqA
  have hidden_pos := positive _ (by simp) _ eqH
  have kvHeads_pos : 0 < orInt config.numKeyValueHeads heads := by
    rw [orInt_of_pos (positive _ (by simp))]
    cases stated : config.numKeyValueHeads with
    | none => exact heads_pos
    | some n => exact positive config.numKeyValueHeads (by simp) n stated
  have inForce := applySlidingWindow_pos (positive config.slidingWindow (by simp)) context
  have others : kvElements config layers heads hidden contextLength batchSize concurrentUsers =
      2 * layers * orInt config.numKeyValueHeads heads *
        (applySlidingWindow config contextLength).1 * batchSize * concurrentUsers *
        orInt config.headDim (hidden.fdiv heads) := by
    rw [kvElements]
    ring
  rw [others, mul_pos_iff_of_pos_left (by positivity), orInt_of_pos (positive _ (by simp))]
  cases stated : config.headDim with
  | none =>
    have divides : 0 < hidden.fdiv heads ↔ heads ≤ hidden := by
      rw [Int.lt_iff_add_one_le, zero_add, le_fdiv_iff heads_pos, one_mul]
    simp [divides]
  | some n =>
    have pos := positive config.headDim (by simp) n stated
    simp [pos]

/-- Truncation loses something exactly of a half-byte element. -/
lemma floor_bytesPerParameter (dtype : WeightPrecision) :
    (dtype ≠ .int4 → (⌊bytesPerParameter dtype⌋ : ℚ) = bytesPerParameter dtype) ∧
      (dtype = .int4 → ⌊bytesPerParameter dtype⌋ = 0) := by
  cases dtype with
  | float32 => exact ⟨fun _ => by decide +kernel, nofun⟩
  | float16 => exact ⟨fun _ => by decide +kernel, nofun⟩
  | bfloat16 => exact ⟨fun _ => by decide +kernel, nofun⟩
  | int8 => exact ⟨fun _ => by decide +kernel, nofun⟩
  | int4 => exact ⟨fun ne => absurd rfl ne, fun _ => by decide +kernel⟩

/-- Over positive dimensions, contexts, batches and users the known cache never falls short of its exact
size, unless a cache that takes memory is sized for four-bit elements. -/
theorem neverUndercounts_iff (positive : PositiveDimensions config) (context : 0 < contextLength)
    (batch : 0 < batchSize) (users : 0 < concurrentUsers) :
    NeverUndercounts config contextLength batchSize kvDtype concurrentUsers ↔
      (Sized config → kvDtype ≠ .int4) := by
  constructor
  · intro never ⟨plain, statedL, heads, hidden, eqA, eqH, divides⟩ fourBit
    obtain ⟨layers, eqL⟩ := Option.isSome_iff_exists.mp statedL
    have heads_pos : 0 < heads := positive config.numAttentionHeads (by simp) heads eqA
    obtain ⟨estimate, run, known⟩ := @estimateKvCache_known config contextLength batchSize
      concurrentUsers kvDtype layers heads hidden heads_pos plain eqL eqA eqH
    -- there are elements, but the whole bytes of half a byte are none
    have elements := (kvElements_pos_iff positive context batch users eqL eqA eqH).mpr divides
    have fits := never estimate _ layers heads hidden run known eqL eqA eqH
    rw [(floor_bytesPerParameter kvDtype).2 fourBit, mul_zero, Int.cast_zero] at fits
    have elementsQ : (0 : ℚ) <
        kvElements config layers heads hidden contextLength batchSize concurrentUsers := by
      exact_mod_cast elements
    have half : 0 < bytesPerParameter kvDtype := by
      rw [fourBit]
      decide +kernel
    exact absurd (mul_pos elementsQ half) (not_lt.mpr fits)
  · intro wholeBytes estimate bytes layers heads hidden run known eqL eqA eqH
    obtain ⟨plain, layers', heads', hidden', eqL', eqA', eqH', built⟩ :=
      bytes_of_estimateKvCache (positive config.numAttentionHeads (by simp)) run known
    cases Option.some.inj (eqL.symm.trans eqL')
    cases Option.some.inj (eqA.symm.trans eqA')
    cases Option.some.inj (eqH.symm.trans eqH')
    have elements := kvElements_pos_iff positive context batch users eqL eqA eqH
    rw [built, Int.cast_mul]
    by_cases fourBit : kvDtype = .int4
    · -- nothing is sized: the heads outnumber the hidden size they split
      have none : ¬ (config.headDim.isSome ∨ heads ≤ hidden) := by
        intro divides
        exact wholeBytes ⟨plain, Option.isSome_of_eq_some eqL, heads, hidden, eqA, eqH, divides⟩
          fourBit
      have nonpos : ¬ 0 < kvElements config layers heads hidden contextLength batchSize
          concurrentUsers := mt elements.mp none
      have nonposQ :
          (kvElements config layers heads hidden contextLength batchSize concurrentUsers : ℚ) ≤ 0 := by
        exact_mod_cast not_lt.mp nonpos
      have half : 0 ≤ bytesPerParameter kvDtype := by
        rw [fourBit]
        decide +kernel
      rw [(floor_bytesPerParameter kvDtype).2 fourBit, Int.cast_zero, mul_zero]
      exact mul_nonpos_of_nonpos_of_nonneg nonposQ half
    · rw [(floor_bytesPerParameter kvDtype).1 fourBit]

end

/-- A 7B model with grouped heads. -/
def groupedHeads : ModelConfig where
  hiddenSize := some 4096
  numHiddenLayers := some 32
  numAttentionHeads := some 32
  numKeyValueHeads := some 8

/-- The sample's dimensions are positive. -/
lemma groupedHeads_positive : PositiveDimensions groupedHeads := by
  intro dimension mem n eq
  simp only [groupedHeads, List.mem_cons, List.not_mem_nil, or_false] at mem
  rcases mem with rfl | rfl | rfl | rfl | rfl | rfl <;> cases eq <;> decide

/-- `neverUndercounts_iff` on the 7B model at half precision. -/
theorem neverUndercounts_iff_groupedHeads :
    NeverUndercounts groupedHeads 8192 1 .float16 1 :=
  (neverUndercounts_iff groupedHeads_positive (by decide) (by decide) (by decide)).mpr
    fun _ => by decide

/-- Asked for four-bit elements, the cache of the 7B model is reported to take no memory: 8192 tokens
need 268435456 bytes. -/
theorem groupedHeads_undercounted :
    ¬ ∀ (config : ModelConfig) (contextLength batchSize concurrentUsers : ℤ)
        (kvDtype : WeightPrecision), PositiveDimensions config → 0 < contextLength →
      0 < batchSize → 0 < concurrentUsers →
        NeverUndercounts config contextLength batchSize kvDtype concurrentUsers := by
  intro never
  have fits := never groupedHeads 8192 1 1 .int4 groupedHeads_positive (by decide) (by decide)
    (by decide)
  obtain ⟨estimate, run, known⟩ := @estimateKvCache_known groupedHeads 8192 1 1 .int4 32 32 4096
    (by decide) rfl rfl rfl rfl
  have short := fits estimate _ 32 32 4096 run known rfl rfl rfl
  exact absurd short (by decide +kernel)

end Jaull.Estimator
