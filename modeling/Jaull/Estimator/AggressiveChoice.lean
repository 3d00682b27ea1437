import Jaull.Estimator.Configuration
import Jaull.Recommendation.Recommend

/-!
# When an aggressive quantization is chosen

The rungs of a ladder without aggressive quantizations are tried before every aggressive one, so an
aggressive one is reached only when none of them settled the search. Under Balanced a tight rung does not
settle it: an aggressive quantization with more headroom then overtakes it, although something larger
fits.
-/

namespace Jaull.Estimator
open Jaull.Domain Jaull.Lib Jaull.Recommendation Jaull.Text

/-- A resident fit with headroom. -/
def roomy : CompatibilityStatus → Bool
  | .comfortable | .compatible => true
  | .tight | .offloadingRequired | .insufficient | .unknown => false

/-- A fit is acceptable when it is roomy or tight. -/
lemma acceptable_iff {status : CompatibilityStatus} :
    acceptable status ↔ roomy status ∨ status = .tight := by
  cases status <;> simp [acceptable, roomy]

/-- A configuration with an aggressive quantization is reported, and as fitting. -/
def ConfigurationChoice.TakesAggressive (choice : ConfigurationChoice) : Prop :=
  ∃ config estimate quantization, choice.configuration = some config ∧
    choice.estimate = some estimate ∧ config.quantization = some quantization ∧
    upper quantization ∈ aggressiveQuantizations ∧ acceptable estimate.assessment.status

/-- The variant has an aggressive quantization. -/
def IsAggressive (variant : GgufVariant) : Prop :=
  upper variant.quantization ∈ aggressiveQuantizations

/-- The options of the state do not fit, unless a tight rung is remembered. -/
def LadderState.Exhausted (state : LadderState) : Prop :=
  state.tightFallback = none → ∀ option ∈ state.fallbackOptions,
    ¬ acceptable option.2.2.assessment.status

/-- What a search for a GGUF configuration is given. -/
structure GgufSearch where
  analysis : ModelAnalysis
  requirements : UserRequirements
  estimateFn : EstimateFn
  hardware : Option HardwareProfile

namespace GgufSearch
variable (search : GgufSearch)

/-- The variants there are to choose from. -/
def offered : List GgufVariant :=
  preferredGgufVariants search.analysis.classification.ggufVariants

/-- How a quantization is estimated to fit. -/
def fit (quantization : String) : CompatibilityStatus :=
  (search.estimateFn search.analysis
    (ggufConfig search.requirements search.hardware quantization)).assessment.status

/-- The quantization of a rung. -/
def quantization (rung : String) : String :=
  ((availableQuantizations search.analysis).lookup rung).getD rung

/-- The configuration of a rung. -/
def config (rung : String) : InferenceConfiguration :=
  ggufConfig search.requirements search.hardware (search.quantization rung)

/-- The estimate of a rung. -/
def estimate (rung : String) : MemoryEstimate :=
  search.estimateFn search.analysis (search.config rung)

/-- The choice of a rung. -/
def choice (rung : String) (considered warnings : List String) : ConfigurationChoice :=
  ggufChoice rung (search.config rung) (search.estimate rung) search.requirements.priority considered
    warnings

/-- The body of the loop of the search. -/
def pass : String → LadderState → Pass LadderState ConfigurationChoice :=
  ladderPass search.analysis search.requirements search.estimateFn search.hardware
    (availableQuantizations search.analysis)

/-- The rung is put off for one with more headroom. -/
def Deferred (rung : String) : Prop :=
  search.fit (search.quantization rung) = .tight ∧ search.requirements.priority = .balanced ∧
    rung ∉ aggressiveQuantizations

/-- The rung ends the search. -/
def Settles (state : LadderState) (rung : String) : Prop :=
  acceptable (search.fit (search.quantization rung)) ∧ ¬ search.Deferred rung ∧
    ¬ (state.tightFallback.isSome ∧ search.fit (search.quantization rung) = .tight)

variable {search} {state : LadderState} {rung : String}

/-- A rung that settles the search is chosen. -/
lemma pass_of_settles (settles : search.Settles state rung) :
    ∃ considered, search.pass rung state = .done (search.choice rung considered []) := by
  obtain ⟨fits, notDeferred, notSkipped⟩ := settles
  refine ⟨state.considered ++
    [search.quantization rung ++ ": " ++ (search.fit (search.quantization rung)).value], ?_⟩
  rw [pass, ladderPass]
  exact (if_pos fits).trans ((if_neg notDeferred).trans (if_neg notSkipped))

/-- A rung that does not settle the search adds to the options, and is remembered when put off. -/
lemma pass_of_not_settles (not : ¬ search.Settles state rung) :
    ∃ state', search.pass rung state = .next state' ∧
      (search.Deferred rung → state'.tightFallback =
        state.tightFallback.or (some (rung, search.config rung, search.estimate rung))) ∧
      (¬ search.Deferred rung → state'.tightFallback = state.tightFallback) ∧
      state'.fallbackOptions = state.fallbackOptions ++
        [(search.fit (search.quantization rung), search.config rung, search.estimate rung)] := by
  rw [pass, ladderPass]
  by_cases fits : acceptable (search.fit (search.quantization rung))
  · by_cases deferred : search.Deferred rung
    · exact ⟨_, (if_pos fits).trans (if_pos deferred), fun _ => rfl, absurd deferred, rfl⟩
    · have skipped : state.tightFallback.isSome ∧
          search.fit (search.quantization rung) = .tight := by
        by_contra notSkipped
        exact not ⟨fits, deferred, notSkipped⟩
      exact ⟨_, (if_pos fits).trans ((if_neg deferred).trans (if_pos skipped)),
        fun now => absurd now deferred, fun _ => rfl, rfl⟩
  · refine ⟨_, if_neg fits, ?_, fun _ => rfl, rfl⟩
    intro deferred
    have tight : search.fit (search.quantization rung) = .tight := deferred.1
    rw [tight] at fits
    exact absurd rfl fits

/-- A rung that does not settle the search leaves it exhausted up to there. -/
lemma exhausted_step {state' : LadderState} (exhausted : state.Exhausted)
    (not : ¬ search.Settles state rung)
    (remembered : search.Deferred rung → state'.tightFallback =
      state.tightFallback.or (some (rung, search.config rung, search.estimate rung)))
    (kept : ¬ search.Deferred rung → state'.tightFallback = state.tightFallback)
    (options : state'.fallbackOptions = state.fallbackOptions ++
      [(search.fit (search.quantization rung), search.config rung, search.estimate rung)]) :
    state'.Exhausted := by
  intro unremembered option mem
  have notDeferred : ¬ search.Deferred rung := by
    intro deferred
    rw [remembered deferred, Option.or_eq_none_iff] at unremembered
    cases unremembered.2
  have before : state.tightFallback = none := (kept notDeferred).symm.trans unremembered
  rw [options] at mem
  rcases List.mem_append.mp mem with earlier | last
  · exact exhausted before option earlier
  · cases List.mem_singleton.mp last
    intro fits
    exact not ⟨fits, notDeferred, fun skipped => by rw [before] at skipped; cases skipped.1⟩

/-- Trying rungs that are not aggressive: one that fits settles the search, or every tight one is put off
and the first remembered. -/
lemma forEach_pass_plain {rungs : List String} (plain : ∀ rung ∈ rungs, rung ∉ aggressiveQuantizations)
    (exhausted : state.Exhausted)
    (nothing : search.requirements.priority ≠ .balanced → state.tightFallback = none) :
    (∃ rung ∈ rungs, ∃ considered,
      forEach search.pass rungs state = .done (search.choice rung considered []) ∧
      acceptable (search.fit (search.quantization rung)) ∧
      (roomy (search.fit (search.quantization rung)) ∨
        search.requirements.priority ≠ .balanced)) ∨
    ∃ state', forEach search.pass rungs state = .next state' ∧ state'.Exhausted ∧
      (∀ rung ∈ rungs, ¬ roomy (search.fit (search.quantization rung)) ∧
        (search.fit (search.quantization rung) = .tight →
          search.requirements.priority = .balanced ∧ state'.tightFallback.isSome)) ∧
      (∀ tight, state'.tightFallback = some tight → state.tightFallback = some tight ∨
        tight.1 ∈ rungs ∧ tight.2.1 = search.config tight.1 ∧
          search.fit (search.quantization tight.1) = .tight) ∧
      (state.tightFallback.isSome → state'.tightFallback.isSome) := by
  induction rungs generalizing state with
  | nil =>
    refine .inr ⟨state, rfl, exhausted, ?_, fun tight eq => .inl eq, fun isSome => isSome⟩
    intro rung mem
    cases mem
  | cons rung rest ih =>
    have isPlain := plain rung List.mem_cons_self
    rw [forEach]
    -- the first rung settles the search, or is passed by and the rest decides
    by_cases settles : search.Settles state rung
    · obtain ⟨considered, run⟩ := pass_of_settles settles
      rw [run]
      refine .inl ⟨rung, List.mem_cons_self, considered, rfl, settles.1, ?_⟩
      rcases acceptable_iff.mp settles.1 with isRoomy | isTight
      · exact .inl isRoomy
      · exact .inr fun balanced => settles.2.1 ⟨isTight, balanced, isPlain⟩
    · obtain ⟨state', run, remembered, kept, options⟩ := pass_of_not_settles settles
      have exhausted' := exhausted_step exhausted settles remembered kept options
      have nothing' : search.requirements.priority ≠ .balanced → state'.tightFallback = none := by
        intro unbalanced
        rw [kept fun deferred => unbalanced deferred.2.1]
        exact nothing unbalanced
      have grows : state.tightFallback.isSome → state'.tightFallback.isSome := by
        intro isSome
        -- what was remembered on the way is the first rung's only if nothing was before
        by_cases deferred : search.Deferred rung
        · rw [remembered deferred, Option.isSome_or, isSome, Bool.true_or]
        · rw [kept deferred]
          exact isSome
      have notRoomy : ¬ roomy (search.fit (search.quantization rung)) := by
        intro isRoomy
        have notTight : search.fit (search.quantization rung) ≠ .tight := by
          intro isTight
          rw [isTight] at isRoomy
          cases isRoomy
        exact settles ⟨acceptable_iff.mpr (.inl isRoomy), fun deferred => notTight deferred.1,
          fun skipped => notTight skipped.2⟩
      -- a tight rung is only put off when the priority is balanced
      have putOff : search.fit (search.quantization rung) = .tight →
          search.requirements.priority = .balanced ∧ state'.tightFallback.isSome := by
        intro isTight
        have balanced : search.requirements.priority = .balanced := by
          by_contra unbalanced
          refine settles ⟨acceptable_iff.mpr (.inr isTight), fun deferred => unbalanced deferred.2.1,
            ?_⟩
          rw [nothing unbalanced]
          exact fun skipped => absurd skipped.1 (by decide)
        refine ⟨balanced, ?_⟩
        rw [remembered ⟨isTight, balanced, isPlain⟩, Option.isSome_or, Option.isSome_some,
          Bool.or_true]
      rw [run]
      -- what the passed rung leaves behind meets the hypotheses again
      have tail := @ih state' (fun other mem => plain other (List.mem_cons_of_mem rung mem))
        exhausted' nothing'
      rcases tail with ⟨other, mem, considered, done, fits, why⟩ |
        ⟨last, next, exhausted'', all, from_, keeps⟩
      · exact .inl ⟨other, List.mem_cons_of_mem rung mem, considered, done, fits, why⟩
      · refine .inr ⟨last, next, exhausted'', ?_, ?_, fun isSome => keeps (grows isSome)⟩
        · intro other mem
          rcases List.mem_cons.mp mem with rfl | mem
          · exact ⟨notRoomy, fun isTight => ⟨(putOff isTight).1, keeps (putOff isTight).2⟩⟩
          · exact all other mem
        · intro tight eq
          rcases from_ tight eq with earlier | ⟨mem, conf, isTight⟩
          · by_cases deferred : search.Deferred rung
            · rw [remembered deferred] at earlier
              rcases Option.or_eq_some_iff.mp earlier with before | ⟨_, now⟩
              · exact .inl before
              · cases now
                exact .inr ⟨List.mem_cons_self, rfl, deferred.1⟩
            · rw [kept deferred] at earlier
              exact .inl earlier
          · exact .inr ⟨List.mem_cons_of_mem rung mem, conf, isTight⟩

/-- Trying aggressive rungs: one that fits settles the search, a tight one only when none is remembered. -/
lemma forEach_pass_aggressive {rungs : List String}
    (aggressive : ∀ rung ∈ rungs, rung ∈ aggressiveQuantizations) (exhausted : state.Exhausted) :
    (∃ rung ∈ rungs, ∃ considered,
      forEach search.pass rungs state = .done (search.choice rung considered []) ∧
      acceptable (search.fit (search.quantization rung)) ∧
      (roomy (search.fit (search.quantization rung)) ∨ state.tightFallback = none)) ∨
    ∃ state', forEach search.pass rungs state = .next state' ∧ state'.Exhausted ∧
      (∀ rung ∈ rungs, ¬ roomy (search.fit (search.quantization rung)) ∧
        (state.tightFallback = none → ¬ acceptable (search.fit (search.quantization rung)))) ∧
      state'.tightFallback = state.tightFallback := by
  induction rungs generalizing state with
  | nil =>
    refine .inr ⟨state, rfl, exhausted, ?_, rfl⟩
    intro rung mem
    cases mem
  | cons rung rest ih =>
    have isAggressive := aggressive rung List.mem_cons_self
    have notDeferred : ¬ search.Deferred rung := fun deferred => deferred.2.2 isAggressive
    rw [forEach]
    by_cases settles : search.Settles state rung
    · obtain ⟨considered, run⟩ := pass_of_settles settles
      rw [run]
      refine .inl ⟨rung, List.mem_cons_self, considered, rfl, settles.1, ?_⟩
      rcases acceptable_iff.mp settles.1 with isRoomy | isTight
      · exact .inl isRoomy
      · refine .inr ?_
        -- a tight aggressive rung yields to one that is remembered
        by_contra remembered
        exact settles.2.2 ⟨Option.isSome_iff_ne_none.mpr remembered, isTight⟩
    · obtain ⟨state', run, remembered, kept, options⟩ := pass_of_not_settles settles
      have exhausted' := exhausted_step exhausted settles remembered kept options
      have notRoomy : ¬ roomy (search.fit (search.quantization rung)) := by
        intro isRoomy
        refine settles ⟨acceptable_iff.mpr (.inl isRoomy), notDeferred, ?_⟩
        rintro ⟨_, isTight⟩
        rw [isTight] at isRoomy
        cases isRoomy
      have notFits : state.tightFallback = none →
          ¬ acceptable (search.fit (search.quantization rung)) := by
        intro unremembered fits
        refine settles ⟨fits, notDeferred, ?_⟩
        rw [unremembered]
        exact fun skipped => absurd skipped.1 (by decide)
      rw [run]
      have tail := @ih state' (fun other mem => aggressive other (List.mem_cons_of_mem rung mem))
        exhausted'
      -- an aggressive rung is never put off, so the memory stays as it was
      rw [kept notDeferred] at tail
      rcases tail with ⟨other, mem, considered, done, fits, why⟩ | ⟨last, next, exhausted'', all, same⟩
      · exact .inl ⟨other, List.mem_cons_of_mem rung mem, considered, done, fits, why⟩
      · refine .inr ⟨last, next, exhausted'', ?_, same⟩
        intro other mem
        rcases List.mem_cons.mp mem with rfl | mem
        · exact ⟨notRoomy, notFits⟩
        · exact all other mem

/-! ### The rungs of a search -/

variable (search)

/-- The rungs tried first. -/
def plainRungs : List String :=
  let available := (availableQuantizations search.analysis).map (·.1)
  let ladder := quantizationLadder search.requirements.priority
  ladder.filter (· ∈ available) ++
    (sortedBy id (available.filter (· ∉ ladder))).filter (· ∉ aggressiveQuantizations)

/-- The rungs tried last. -/
def aggressiveRungs : List String :=
  let available := (availableQuantizations search.analysis).map (·.1)
  let ladder := quantizationLadder search.requirements.priority
  (sortedBy id (available.filter (· ∉ ladder))).filter fun rung => !(rung ∉ aggressiveQuantizations)

/-- The aggressive rungs come after the others. -/
lemma orderedRungs_eq :
    orderedRungs ((availableQuantizations search.analysis).map (·.1))
      (quantizationLadder search.requirements.priority) =
        search.plainRungs ++ search.aggressiveRungs := by
  have key : (fun rung : String => toLex (decide (rung ∈ aggressiveQuantizations), rung)) =
      fun rung => toLex (!decide (rung ∉ aggressiveQuantizations), id rung) := by
    funext rung
    rw [decide_not, Bool.not_not, id]
  rw [orderedRungs, key, ← partition_sortedBy, ← List.append_assoc]
  rfl

/-- The variant is the one tried under its upper-case name. -/
def Tried (variant : GgufVariant) : Prop :=
  variant ∈ search.offered ∧ search.quantization (upper variant.quantization) = variant.quantization

variable {search}

/-- Every name available is that of a variant tried. -/
lemma mem_available_iff :
    rung ∈ (availableQuantizations search.analysis).map (·.1) ↔
      ∃ variant, search.Tried variant ∧ upper variant.quantization = rung := by
  constructor
  · intro mem
    obtain ⟨found, eq⟩ : ∃ found, (availableQuantizations search.analysis).lookup rung = some found :=
      Option.isSome_iff_exists.mp (isSome_lookup_of_key mem)
    rcases lookup_dictComprehension eq with earlier | ⟨variant, offered, named, same⟩
    · cases earlier
    · refine ⟨variant, ⟨offered, ?_⟩, named⟩
      rw [quantization, named, eq]
      exact same.symm
  · rintro ⟨variant, ⟨offered, _⟩, named⟩
    have there : ((availableQuantizations search.analysis).lookup
        (upper variant.quantization)).isSome :=
      @isSome_lookup_of_mem _ _ _ [] _ _ _ (fun variant : GgufVariant => upper variant.quantization)
        (·.quantization) _ variant offered
    obtain ⟨found, eq⟩ := Option.isSome_iff_exists.mp there
    rw [← named]
    exact List.mem_map_of_mem (f := (·.1)) (mem_of_lookup eq)

variable (search)

/-- No ladder rung of the priority is aggressive. -/
def PlainLadder : Prop :=
  ∀ rung ∈ quantizationLadder search.requirements.priority, rung ∉ aggressiveQuantizations

variable {search}

/-- The plain rungs are those of variants that are not aggressive. -/
lemma mem_plainRungs_iff (plain : search.PlainLadder) :
    rung ∈ search.plainRungs ↔ rung ∉ aggressiveQuantizations ∧
      ∃ variant, search.Tried variant ∧ upper variant.quantization = rung := by
  rw [← mem_available_iff, plainRungs, List.mem_append, List.mem_filter, List.mem_filter,
    mem_sortedBy, List.mem_filter]
  simp only [decide_eq_true_eq]
  constructor
  · rintro (⟨ladder, mem⟩ | ⟨⟨mem, _⟩, notAggressive⟩)
    · exact ⟨plain rung ladder, mem⟩
    · exact ⟨notAggressive, mem⟩
  · rintro ⟨notAggressive, mem⟩
    by_cases ladder : rung ∈ quantizationLadder search.requirements.priority
    · exact .inl ⟨ladder, mem⟩
    · exact .inr ⟨⟨mem, ladder⟩, notAggressive⟩

/-- The others are those of aggressive ones. -/
lemma mem_aggressiveRungs_iff (plain : search.PlainLadder) :
    rung ∈ search.aggressiveRungs ↔ rung ∈ aggressiveQuantizations ∧
      ∃ variant, search.Tried variant ∧ upper variant.quantization = rung := by
  rw [← mem_available_iff, aggressiveRungs, List.mem_filter, mem_sortedBy, List.mem_filter]
  simp only [decide_not, Bool.not_not, Bool.not_eq_true', decide_eq_true_eq, decide_eq_false_iff_not]
  constructor
  · rintro ⟨⟨mem, _⟩, aggressive⟩
    exact ⟨aggressive, mem⟩
  · rintro ⟨aggressive, mem⟩
    exact ⟨⟨mem, fun ladder => plain rung ladder aggressive⟩, aggressive⟩

/-! ### What is chosen -/

/-- The configuration of a rung has its quantization. -/
lemma quantization_of_config {config : InferenceConfiguration}
    (eq : config = ggufConfig search.requirements search.hardware rung) :
    config.quantization = some rung := by
  rw [eq, ggufConfig]
  split <;> rfl

/-- The choice of an aggressive rung takes it. -/
lemma takesAggressive_choice {variant : GgufVariant} {considered warnings : List String}
    (tried : search.Tried variant) (aggressive : IsAggressive variant)
    (fits : acceptable (search.fit variant.quantization)) :
    (search.choice (upper variant.quantization) considered warnings).TakesAggressive := by
  refine ⟨_, _, variant.quantization, rfl, rfl, ?_, aggressive, ?_⟩
  · apply quantization_of_config
    rw [config, tried.2]
  · rw [estimate, config, tried.2]
    exact fits

/-- That of a plain rung does not. -/
lemma not_takesAggressive_ggufChoice {variant : GgufVariant} {considered warnings : List String}
    {priority : RecommendationPriority} {name : String} {estimate : MemoryEstimate}
    (tried : search.Tried variant) (plain : ¬ IsAggressive variant) :
    ¬ (ggufChoice name (search.config (upper variant.quantization)) estimate priority considered
      warnings).TakesAggressive := by
  rintro ⟨chosen, _, quantization, conf, _, named, aggressive, _⟩
  have same : search.config (upper variant.quantization) = chosen := Option.some.inj conf
  rw [← same, config, quantization_of_config rfl, tried.2] at named
  rw [← Option.some.inj named] at aggressive
  exact plain aggressive

end GgufSearch

/-- The fallback is one of the options. -/
lemma mem_of_fallbackOption {options : List LadderOption} {option : LadderOption}
    (eq : fallbackOption options = some option) : option ∈ options := by
  rw [fallbackOption, Option.or_eq_some_iff] at eq
  rcases eq with found | ⟨_, first⟩
  · rw [Option.or_eq_some_iff, Option.or_eq_some_iff] at found
    rcases found with found | ⟨_, found | ⟨_, found⟩⟩
    all_goals exact List.mem_of_find?_eq_some found
  · exact List.mem_of_head? first

/-- What is reported when the ladder is exhausted does not fit. -/
lemma not_takesAggressive_exhaustedChoice {options : List LadderOption} {message reason : String}
    {considered warnings : List String}
    (exhausted : ∀ option ∈ options, ¬ acceptable option.2.2.assessment.status) :
    ¬ (exhaustedChoice message reason options considered warnings).TakesAggressive := by
  rintro ⟨_, estimate, _, _, est, _, _, fits⟩
  obtain ⟨option, found, same⟩ := Option.map_eq_some_iff.mp est
  apply exhausted option (mem_of_fallbackOption found)
  rw [same]
  exact fits

namespace GgufSearch
variable (search : GgufSearch)

/-- Under Balanced a tight variant is put off, no other has more headroom, and an aggressive one has. -/
def Overtaken : Prop :=
  search.requirements.priority = .balanced ∧
    (∃ variant, search.Tried variant ∧ ¬ IsAggressive variant ∧ search.fit variant.quantization = .tight) ∧
    (∀ variant, search.Tried variant → ¬ IsAggressive variant → ¬ roomy (search.fit variant.quantization)) ∧
    ∃ variant, search.Tried variant ∧ IsAggressive variant ∧ roomy (search.fit variant.quantization)

/-- What fits without being aggressive has the upper-case name of another variant, and is not tried. -/
def Shadowed : Prop :=
  (∃ variant ∈ search.offered, ¬ IsAggressive variant ∧ acceptable (search.fit variant.quantization)) ∧
    (∀ variant, search.Tried variant → ¬ IsAggressive variant →
      ¬ acceptable (search.fit variant.quantization)) ∧
    ∃ variant, search.Tried variant ∧ IsAggressive variant ∧
      acceptable (search.fit variant.quantization)

/-- What the search settles on. -/
def selected : ConfigurationChoice :=
  selectGguf search.analysis search.requirements search.estimateFn search.hardware

/-- Nothing larger fits. -/
def NothingLargerFits : Prop :=
  ∀ variant ∈ search.offered, ¬ IsAggressive variant → ¬ acceptable (search.fit variant.quantization)

variable {search}

/-- What the search selects, by its ladder. -/
lemma selected_eq :
    search.selected =
      if (availableQuantizations search.analysis).isEmpty then
        { configuration := none
          estimate := none
          reason := "No unambiguous complete GGUF representation could be selected."
          warnings := ["GGUF representations are missing, incomplete or ambiguous."] }
      else
        match forEach search.pass search.plainRungs {} with
        | .done choice => choice
        | .next state =>
          match forEach search.pass search.aggressiveRungs state with
          | .done choice => choice
          | .next state =>
            afterLadder search.requirements (availableQuantizations search.analysis) state := by
  rw [selected, selectGguf, orderedRungs_eq, forEach_append]
  split
  · rfl
  · rw [← pass]
    cases forEach search.pass search.plainRungs {} <;> rfl

variable {state : LadderState}

variable (search state) in
/-- What the rungs that are not aggressive leave behind when none settles the search. -/
def Rejected : Prop :=
  ∀ variant, search.Tried variant → ¬ IsAggressive variant →
    ¬ roomy (search.fit variant.quantization) ∧
      (search.fit variant.quantization = .tight →
        search.requirements.priority = .balanced ∧ state.tightFallback.isSome)

/-- Nothing larger fits where no plain rung does. -/
lemma nothingLargerFits_iff {variant : GgufVariant} (rejected : Rejected search state)
    (tried : search.Tried variant) (aggressive : IsAggressive variant)
    (fits : acceptable (search.fit variant.quantization))
    (why : roomy (search.fit variant.quantization) ∨ state.tightFallback = none) :
    search.NothingLargerFits ↔ ¬ search.Overtaken ∧ ¬ search.Shadowed := by
  constructor
  · intro nothing
    refine ⟨?_, ?_⟩
    · rintro ⟨_, ⟨tight, ⟨offered, _⟩, isPlain, isTight⟩, _⟩
      exact nothing tight offered isPlain (acceptable_iff.mpr (.inr isTight))
    · rintro ⟨⟨larger, offered, isPlain, larger_fits⟩, _⟩
      exact nothing larger offered isPlain larger_fits
  · rintro ⟨notOvertaken, notShadowed⟩ larger offered isPlain larger_fits
    apply notShadowed
    refine ⟨⟨larger, offered, isPlain, larger_fits⟩, ?_, variant, tried, aggressive, fits⟩
    intro other otherTried otherPlain otherFits
    have isTight : search.fit other.quantization = .tight :=
      (acceptable_iff.mp otherFits).resolve_left (rejected other otherTried otherPlain).1
    obtain ⟨balanced, remembered⟩ := (rejected other otherTried otherPlain).2 isTight
    have isRoomy : roomy (search.fit variant.quantization) := by
      rcases why with isRoomy | none
      · exact isRoomy
      · rw [none] at remembered
        cases remembered
    exact notOvertaken ⟨balanced, ⟨other, otherTried, otherPlain, isTight⟩,
      fun plain plainTried isPlain => (rejected plain plainTried isPlain).1,
      variant, tried, aggressive, isRoomy⟩

/-- A tight rung that is remembered is neither overtaken nor shadowed where no aggressive one fits. -/
lemma not_overtaken_not_shadowed
    (remembered : state.tightFallback.isSome → ∃ variant, search.Tried variant ∧
      ¬ IsAggressive variant ∧ search.fit variant.quantization = .tight)
    (noneFits : ∀ variant, search.Tried variant → IsAggressive variant →
      ¬ roomy (search.fit variant.quantization) ∧
        (state.tightFallback = none → ¬ acceptable (search.fit variant.quantization))) :
    ¬ search.Overtaken ∧ ¬ search.Shadowed := by
  refine ⟨?_, ?_⟩
  · rintro ⟨_, _, _, variant, tried, aggressive, isRoomy⟩
    exact (noneFits variant tried aggressive).1 isRoomy
  · rintro ⟨_, nothing, variant, tried, aggressive, fits⟩
    cases eq : state.tightFallback with
    | none => exact (noneFits variant tried aggressive).2 eq fits
    | some tight =>
      obtain ⟨larger, largerTried, isPlain, isTight⟩ := remembered (Option.isSome_of_eq_some eq)
      exact nothing larger largerTried isPlain (acceptable_iff.mpr (.inr isTight))

/-- An aggressive variant is chosen as fitting although something larger fits exactly when one overtakes
the tight variants put off, or shadows. -/
lemma selected_truthful_iff (plain : search.PlainLadder) :
    (search.selected.TakesAggressive → search.NothingLargerFits) ↔
      ¬ search.Overtaken ∧ ¬ search.Shadowed := by
  rw [selected_eq]
  split
  · -- no quantization is available, so no rung is tried
    rename_i empty
    have none : ∀ variant, ¬ search.Tried variant := by
      intro variant tried
      have mem := mem_available_iff.mpr ⟨variant, tried, rfl⟩
      rw [List.isEmpty_iff.mp empty] at mem
      cases mem
    constructor
    · intro _
      refine ⟨?_, ?_⟩
      · rintro ⟨_, ⟨variant, tried, _⟩, _⟩
        exact none variant tried
      · rintro ⟨_, _, variant, tried, _⟩
        exact none variant tried
    · rintro _ ⟨_, _, _, conf, _⟩
      cases conf
  · have plainRungs : ∀ rung ∈ search.plainRungs, rung ∉ aggressiveQuantizations :=
      fun rung mem => ((mem_plainRungs_iff plain).mp mem).1
    have aggressiveRungs : ∀ rung ∈ search.aggressiveRungs, rung ∈ aggressiveQuantizations :=
      fun rung mem => ((mem_aggressiveRungs_iff plain).mp mem).1
    have start : ({} : LadderState).Exhausted := by
      intro _ option mem
      cases mem
    -- the plain rungs come first: one settles the search, or all are rejected
    rcases forEach_pass_plain plainRungs start (fun _ => rfl) with
      ⟨rung, mem, considered, run, fits, why⟩ | ⟨state, run, exhausted, rejected, remembered, _⟩
    · rw [run]
      obtain ⟨notAggressive, variant, tried, rfl⟩ := (mem_plainRungs_iff plain).mp mem
      rw [tried.2] at fits why
      constructor
      · intro _
        refine ⟨?_, ?_⟩
        · rintro ⟨balanced, _, tight, _⟩
          rcases why with isRoomy | unbalanced
          · exact tight variant tried notAggressive isRoomy
          · exact unbalanced balanced
        · rintro ⟨_, nothing, _⟩
          exact nothing variant tried notAggressive fits
      · intro _ takes
        exact absurd takes (not_takesAggressive_ggufChoice tried notAggressive)
    · rw [run]
      dsimp only
      have rejected' : Rejected search state := by
        intro variant tried notAggressive
        have mem := (mem_plainRungs_iff plain).mpr ⟨notAggressive, variant, tried, rfl⟩
        have all := rejected (upper variant.quantization) mem
        rw [tried.2] at all
        exact all
      -- then the aggressive ones, behind what the plain rungs left in the state
      have rest := @forEach_pass_aggressive search _ _ aggressiveRungs exhausted
      rcases rest with
        ⟨rung, mem, considered, run, fits, why⟩ | ⟨last, run, exhausted, noneFits, same⟩
      · rw [run]
        obtain ⟨aggressive, variant, tried, rfl⟩ := (mem_aggressiveRungs_iff plain).mp mem
        rw [tried.2] at fits why
        rw [← nothingLargerFits_iff rejected' tried aggressive fits why]
        have takes : (search.choice (upper variant.quantization) considered []).TakesAggressive :=
          takesAggressive_choice tried aggressive fits
        exact ⟨fun truthful => truthful takes, fun nothing _ => nothing⟩
      · rw [run]
        -- a tight fit that is remembered is that of a plain rung
        have tightTried : ∀ tight, state.tightFallback = some tight → ∃ variant, search.Tried variant ∧
            ¬ IsAggressive variant ∧ search.fit variant.quantization = .tight ∧
              tight.2.1 = search.config (upper variant.quantization) := by
          intro tight eq
          rcases remembered tight eq with earlier | ⟨mem, conf, isTight⟩
          · cases earlier
          · obtain ⟨notAggressive, variant, tried, named⟩ := (mem_plainRungs_iff plain).mp mem
            rw [← named, tried.2] at isTight
            rw [← named] at conf notAggressive
            exact ⟨variant, tried, notAggressive, isTight, conf⟩
        have neither : ¬ search.Overtaken ∧ ¬ search.Shadowed := by
          apply @not_overtaken_not_shadowed search state
          · intro isSome
            obtain ⟨tight, eq⟩ := Option.isSome_iff_exists.mp isSome
            obtain ⟨variant, tried, notAggressive, isTight, _⟩ := tightTried tight eq
            exact ⟨variant, tried, notAggressive, isTight⟩
          · intro variant tried aggressive
            have all := noneFits (upper variant.quantization)
              ((mem_aggressiveRungs_iff plain).mpr ⟨aggressive, variant, tried, rfl⟩)
            rw [tried.2] at all
            exact all
        refine ⟨fun _ => neither, fun _ takes => absurd takes ?_⟩
        -- nothing settled it: the remembered tight fit, or the answer that nothing fits
        show ¬ (afterLadder search.requirements (availableQuantizations search.analysis)
          last).TakesAggressive
        rw [afterLadder]
        cases eq : last.tightFallback with
        | none => exact not_takesAggressive_exhaustedChoice (exhausted eq)
        | some tight =>
          obtain ⟨variant, tried, notAggressive, _, conf⟩ := tightTried tight (same ▸ eq)
          obtain ⟨name, config, estimate⟩ := tight
          cases conf
          exact not_takesAggressive_ggufChoice tried notAggressive

end GgufSearch

/-- With no aggressive rung on its ladder, a search for a GGUF configuration chooses an aggressive
quantization as fitting only when nothing larger fits, unless that quantization overtakes the tight ones
put off, or what fits is shadowed. -/
theorem takesAggressive_truthful_iff (collaborators : Collaborators) (search : GgufSearch)
    (gguf : search.analysis.classification.primaryType = .gguf) (plain : search.PlainLadder) :
    ((selectConfiguration collaborators search.analysis search.requirements search.estimateFn
        search.hardware).TakesAggressive → search.NothingLargerFits) ↔
      ¬ search.Overtaken ∧ ¬ search.Shadowed := by
  rw [selectConfiguration, if_pos gguf]
  exact GgufSearch.selected_truthful_iff plain

/-- A Balanced search of a repository with two quantizations: how the larger one fits is given, the
aggressive one fits comfortably. -/
def twoQuantizations (larger : CompatibilityStatus) : GgufSearch where
  analysis :=
    { classification :=
        { primaryType := .gguf
          ggufVariants := ["Q4_K_M", "Q2_K"].map fun quantization =>
            { quantization := quantization
              files := [{ path := quantization ++ ".gguf" }]
              totalBytes := none } } }
  requirements := chatRequest .balanced
  estimateFn _ config :=
    { inferenceConfiguration := config
      totalBytes := none
      assessment :=
        { status := if config.quantization = some "Q4_K_M" then larger else .comfortable
          confidence := .medium
          targetDevice := .auto
          effectiveDevice := .gpu } }
  hardware := none

/-- What a search settles on, nothing known of the machine. -/
def GgufSearch.settled (search : GgufSearch) : ConfigurationChoice :=
  selectConfiguration namingCollaborators search.analysis search.requirements search.estimateFn
    search.hardware

/-- The search of the example is truthful when nothing fits. -/
theorem takesAggressive_truthful_iff_insufficient :
    ((twoQuantizations .insufficient).settled.TakesAggressive →
        (twoQuantizations .insufficient).NothingLargerFits) ↔
      ¬ (twoQuantizations .insufficient).Overtaken ∧ ¬ (twoQuantizations .insufficient).Shadowed :=
  takesAggressive_truthful_iff namingCollaborators (twoQuantizations .insufficient) rfl
    (by rw [GgufSearch.PlainLadder]; decide)

/-- The aggressive quantization is chosen, with its warning, past one that fits tightly. -/
theorem twoQuantizations_overtaken :
    (twoQuantizations .tight).settled.TakesAggressive ∧
      (twoQuantizations .tight).settled.warnings = [aggressiveWarning "Q2_K"] ∧
      ¬ (twoQuantizations .tight).NothingLargerFits := by
  refine ⟨?_, by decide +kernel, ?_⟩
  · refine ⟨ggufConfig (chatRequest .balanced) none "Q2_K", (twoQuantizations .tight).estimate "Q2_K",
      "Q2_K", ?_, ?_, rfl, ?_, ?_⟩
    all_goals decide +kernel
  · intro nothing
    have larger : ∃ variant ∈ (twoQuantizations .tight).offered, variant.quantization = "Q4_K_M" := by
      decide +kernel
    obtain ⟨variant, offered, named⟩ := larger
    apply nothing variant offered
    · rw [IsAggressive, named]
      decide +kernel
    · rw [named]
      decide +kernel

end Jaull.Estimator
