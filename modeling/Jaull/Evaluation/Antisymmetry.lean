import Jaull.Evaluation.Outcomes

/-!
# Antisymmetry of comparisons

What swapping two accepted records makes of their comparison: status and checks stay, the differences of
the tasks are negated. A bootstrap interval lies between the ranks 50 and 1950 of 2000 means; negated means
have their order turned around, so the swapped interval lies between the negated ranks 1949 and 49.
-/

namespace Jaull.Evaluation
open Jaull.Lib

variable {env : Surroundings} {rng : Generator}

section Differences

/-- The other way round the paired differences change their sign. -/
lemma pairDifferences_ok {xs ys : List ℤ} (length : xs.length = ys.length) :
    pairDifferences xs ys = .ok (List.zipWith (· - ·) xs ys) ∧
      pairDifferences ys xs = .ok ((List.zipWith (· - ·) xs ys).map (- ·)) := by
  induction xs generalizing ys with
  | nil =>
    cases ys with
    | nil => exact ⟨rfl, rfl⟩
    | cons y ys => cases length
  | cons x xs ih =>
    cases ys with
    | nil => cases length
    | cons y ys =>
      obtain ⟨forth, back⟩ := ih (Nat.succ.inj length)
      constructor
      · rw [pairDifferences, forth]
        rfl
      · rw [pairDifferences, back, List.zipWith_cons_cons, List.map_cons, neg_sub]
        rfl

/-- So does their sum. -/
lemma sum_map_neg (l : List ℤ) : (l.map (- ·)).sum = -l.sum := by
  induction l with
  | nil => rfl
  | cons x l ih => rw [List.map_cons, List.sum_cons, ih, List.sum_cons, neg_add]

/-- So does their mean. -/
lemma mean_ok {l : List ℤ} (some : l ≠ []) :
    mean l = .ok (l.sum / l.length) ∧ mean (l.map (- ·)) = .ok (-(l.sum / l.length : ℚ)) := by
  have some' : l.map (- ·) ≠ [] := fun eq => some (List.map_eq_nil_iff.mp eq)
  constructor
  · rw [mean, if_neg some]
  · rw [mean, if_neg some', sum_map_neg, List.length_map, Int.cast_neg, neg_div]

/-- A value occurs as often as its negation does the other way round. -/
lemma count_map_neg (l : List ℤ) (n : ℤ) : (l.map (- ·)).count n = l.count (-n) := by
  have turned := List.count_map_of_injective l (- ·) neg_injective (-n)
  rwa [neg_neg] at turned

lemma length_dedup_map_neg (l : List ℤ) : (l.map (- ·)).dedup.length = l.dedup.length := by
  rw [List.dedup_map_of_injective neg_injective, List.length_map]

end Differences

section Intervals

/-- A replicate draws the same samples, so its mean changes its sign. -/
lemma replicateMean_map_neg (seed : ℕ) (values : List ℤ) (r : ℕ) :
    replicateMean rng seed (values.map (- ·)) r = -replicateMean rng seed values r := by
  have drawn : ∀ steps : List ℕ,
      (steps.map fun step => (((values.map (- ·)).getD
        (rng.draw seed values.length (r * values.length + step)) 0 : ℤ) : ℚ)).sum =
      -(steps.map fun step => ((values.getD
        (rng.draw seed values.length (r * values.length + step)) 0 : ℤ) : ℚ)).sum := by
    intro steps
    induction steps with
    | nil => rfl
    | cons step steps ih =>
      have one : ∀ place : ℕ, (values.map (- ·)).getD place 0 = -values.getD place 0 := by
        intro place
        have mapped := @List.getD_map _ _ values 0 place (- · : ℤ → ℤ)
        simpa using mapped
      rw [List.map_cons, List.sum_cons, ih, one, List.map_cons, List.sum_cons, Int.cast_neg, neg_add]
  rw [replicateMean, replicateMean, List.length_map, drawn, neg_div]

/-- The negated values have the negated means, in the other order. -/
lemma bootstrapEstimates_map_neg (seed : ℕ) (values : List ℤ) {rank : ℕ}
    (lt : rank < bootstrapReplicates) :
    (bootstrapEstimates rng seed (values.map (- ·))).getD rank 0 =
      -(bootstrapEstimates rng seed values).getD (bootstrapReplicates - 1 - rank) 0 := by
  have means : (List.range bootstrapReplicates).map (replicateMean rng seed (values.map (- ·))) =
      ((List.range bootstrapReplicates).map (replicateMean rng seed values)).map (- ·) := by
    rw [List.map_map]
    exact List.map_congr_left fun r _ => replicateMean_map_neg seed values r
  have length : ((List.range bootstrapReplicates).map (replicateMean rng seed values)).length =
      bootstrapReplicates := by
    rw [List.length_map, List.length_range]
  have antitone : Antitone fun q : ℚ => -q := fun _ _ le => neg_le_neg le
  have turned := getD_sortedBy_map_of_antitone antitone (length.symm ▸ lt) 0
  rw [length, neg_zero] at turned
  rw [bootstrapEstimates, means, turned, bootstrapEstimates]

/-- What swapping makes of an uncertainty. -/
inductive SwappedUncertainty (estimates : List ℚ) : Uncertainty → Uncertainty → Prop
  | notEstimated (reason : String) :
    SwappedUncertainty estimates (.notEstimated reason) (.notEstimated reason)
  | estimated (interval : Interval) (lower : interval.lower = estimates.getD 50 0)
    (upper : interval.upper = estimates.getD 1950 0) :
    SwappedUncertainty estimates (.estimated interval)
      (.estimated { interval with
        lower := -estimates.getD 1949 0
        upper := -estimates.getD 49 0 })

/-- What is said of the uncertainty is what the swap of its percentiles gives. -/
lemma uncertainty_map_neg (paired : List ℤ) (limited plumbing : Bool) (seed : ℕ) :
    SwappedUncertainty (bootstrapEstimates rng seed paired)
      (uncertainty rng paired limited plumbing seed)
      (uncertainty rng (paired.map (- ·)) limited plumbing seed) := by
  rw [uncertainty, uncertainty, List.length_map, length_dedup_map_neg]
  split
  · exact .notEstimated _
  · split
    · exact .notEstimated _
    · split
      · exact .notEstimated _
      · have lower : (bootstrapEstimates rng seed (paired.map (- ·))).getD 50 0 =
            -(bootstrapEstimates rng seed paired).getD 1949 0 :=
          bootstrapEstimates_map_neg seed paired (by decide)
        have upper : (bootstrapEstimates rng seed (paired.map (- ·))).getD 1950 0 =
            -(bootstrapEstimates rng seed paired).getD 49 0 :=
          bootstrapEstimates_map_neg seed paired (by decide)
        dsimp only
        rw [lower, upper]
        apply SwappedUncertainty.estimated
        · dsimp only
        · dsimp only

end Intervals

section Tasks
variable {a b task : Json} {metric : String}

/-- What swapping makes of the comparison of a task. -/
structure SwappedTask (env : Surroundings) (rng : Generator) (a b : Json) (t t' : TaskComparison) :
    Prop where
  task : t'.task = t.task
  metric : t'.metric = t.metric
  left : t'.left = t.right
  right : t'.right = t.left
  leftMinusRight : t'.leftMinusRight = -t.leftMinusRight
  percentagePoints : t'.percentagePoints = -t.percentagePoints
  leftOnlyCorrect : t'.leftOnlyCorrect = t.rightOnlyCorrect
  rightOnlyCorrect : t'.rightOnlyCorrect = t.leftOnlyCorrect
  bothSame : t'.bothSame = t.bothSame
  uncertainty : ∃ seed xs ys paired, comparisonSeed env a b = .ok seed ∧
    recordOutcomes a t.task t.metric = .ok xs ∧ recordOutcomes b t.task t.metric = .ok ys ∧
    pairDifferences xs ys = .ok paired ∧
    SwappedUncertainty (bootstrapEstimates rng seed paired) t.uncertainty t'.uncertainty

/-- A side is built on the outcomes of its record. -/
lemma sideOf_ok {record : Json} {outcomes : List ℤ} {side : Side}
    (ok : sideOf record task metric = .ok (side, outcomes)) :
    recordOutcomes record task metric = .ok outcomes := by
  simp only [sideOf, bind_eq_ok] at ok
  obtain ⟨flat, eq, result, -, results, -, value, -, same⟩ := ok
  cases same
  exact eq

/-- The comparison of a task from its sides and the differences of their outcomes. -/
def pairedComparison (rng : Generator) (task : Json) (metric : String) (left right : Side)
    (paired : List ℤ) (difference : ℚ) (limited plumbing : Bool) (seed : ℕ) : TaskComparison where
  task := task
  metric := metric
  left := left
  right := right
  leftMinusRight := difference
  percentagePoints := difference * 100
  leftOnlyCorrect := paired.count 1
  rightOnlyCorrect := paired.count (-1)
  bothSame := paired.count 0
  uncertainty :=
    if metric ∈ instructionMetrics then
      .notEstimated ("instructions are clustered within prompts; resampling them " ++
        "independently would overstate precision")
    else uncertainty rng paired limited plumbing seed

/-- The comparison of a task from its two sides and their paired differences. -/
lemma compareTask_ok {xs ys paired : List ℤ} {left right : Side} {seed : ℕ} {difference : ℚ}
    (limited plumbing : Bool) (sideA : sideOf a task metric = .ok (left, xs))
    (sideB : sideOf b task metric = .ok (right, ys)) (pairs : pairDifferences xs ys = .ok paired)
    (average : mean paired = .ok difference) :
    compareTask rng a b task limited plumbing seed metric =
      .ok (pairedComparison rng task metric left right paired difference limited plumbing seed) := by
  rw [compareTask, sideA, ok_bind, sideB, ok_bind, pairs, ok_bind, average]
  rfl

/-- The comparison of a task whose outcomes are as many on both sides, and some. -/
lemma compareTask_swap {xs ys : List ℤ} {left right : Side} {seed : ℕ} (limited plumbing : Bool)
    (seedEq : comparisonSeed env a b = .ok seed) (sideA : sideOf a task metric = .ok (left, xs))
    (sideB : sideOf b task metric = .ok (right, ys)) (length : xs.length = ys.length)
    (some : xs ≠ []) :
    ∃ t t', compareTask rng a b task limited plumbing seed metric = .ok t ∧
      compareTask rng b a task limited plumbing seed metric = .ok t' ∧
      SwappedTask env rng a b t t' := by
  obtain ⟨forth, back⟩ := pairDifferences_ok length
  have paired : List.zipWith (· - ·) xs ys ≠ [] := by
    rw [← List.length_pos_iff, List.length_zipWith, ← length, min_self]
    exact List.length_pos_iff.mpr some
  obtain ⟨meanForth, meanBack⟩ := mean_ok paired
  refine ⟨_, _, compareTask_ok limited plumbing sideA sideB forth meanForth,
    compareTask_ok limited plumbing sideB sideA back meanBack, ?_⟩
  refine ⟨rfl, rfl, rfl, rfl, rfl, neg_mul _ _, count_map_neg _ 1, ?_, ?_, ?_⟩
  · exact (count_map_neg _ (-1)).trans (by rw [neg_neg]; rfl)
  · exact (count_map_neg _ 0).trans (by rw [neg_zero]; rfl)
  · refine ⟨seed, xs, ys, _, seedEq, sideOf_ok sideA, sideOf_ok sideB, forth, ?_⟩
    rw [pairedComparison, pairedComparison]
    split
    · exact .notEstimated _
    · exact uncertainty_map_neg _ limited plumbing seed

end Tasks

section Records
variable {a b identityA identityB : Json} {tablesA tablesB : TaskResults}

/-- The mode that a protocol states. -/
def protocolMode (protocol : Json) : Option PyString := do
  let fields ← protocol.dict?
  (getField fields "mode").string?

/-- The mode is read off the protocol. -/
lemma identityMode_eq {identity protocol : Json} (eq : identity.field "protocol" = .ok protocol) :
    identityMode identity = protocolMode protocol := by
  obtain ⟨fields, rfl, found⟩ := field_eq_ok.mp eq
  have stated : getField fields "protocol" = protocol := by rw [getField, found, Option.getD_some]
  rw [identityMode, Json.dict?, Option.bind_eq_bind, Option.bind_some, stated]
  rfl

/-- Sorting the keys keeps the mode of a protocol. -/
lemma protocolMode_sortKeys (protocol : Json) :
    protocolMode (sortKeys protocol) = protocolMode protocol := by
  cases protocol with
  | obj fields =>
    have string : ∀ value : Json, (sortKeys value).string? = value.string? := by
      intro value
      cases value <;> rw [sortKeys] <;> rfl
    rw [sortKeys]
    exact (congrArg Json.string? (getField_sortFields fields "mode")).trans (string _)
  | arr items =>
    rw [sortKeys]
    rfl
  | _ => rw [sortKeys]

/-- And that of an identity. -/
lemma identityMode_sortKeys (identity : Json) : identityMode (sortKeys identity) = identityMode identity := by
  cases identity with
  | obj fields =>
    have mode : ∀ fields : List (PyString × Json),
        identityMode (.obj fields) = protocolMode (getField fields "protocol") := fun _ => rfl
    rw [sortKeys, mode, mode, getField_sortFields, protocolMode_sortKeys]
  | arr items =>
    rw [sortKeys]
    rfl
  | _ => rw [sortKeys]

/-- Fields of two identities that are the same when sorted. -/
def SameField (identityA identityB : Json) (field : String) : Prop :=
  ∀ v w, identityA.field field = .ok v → identityB.field field = .ok w → sortKeys v = sortKeys w

/-- A field other than runtime and evaluator is compared as it is. -/
lemma comparable_plain {identity value : Json} {field : String} (runtime : field ≠ "runtime")
    (evaluator : field ≠ "evaluator") (eq : identity.field field = .ok value) :
    comparable identity field = .ok value := by
  rw [comparable, eq, lifted_ok, ok_bind, if_neg runtime, if_neg fun both => evaluator both.1]
  rfl

/-- Equal contents agree in each such field. -/
lemma sameField_of_contents {names : List String} {as bs : List (PyString × Json)}
    (normalA : Normalised identityA names as) (normalB : Normalised identityB names bs)
    (same : contents as = contents bs) {field : String} (mem : field ∈ names)
    (runtime : field ≠ "runtime") (evaluator : field ≠ "evaluator") :
    SameField identityA identityB field := by
  induction names generalizing as bs with
  | nil => cases mem
  | cons name names ih =>
    obtain ⟨v, as, rfl, vEq, -, normalA⟩ := normalA.tail
    obtain ⟨w, bs, rfl, wEq, -, normalB⟩ := normalB.tail
    obtain ⟨first, others⟩ := List.cons.inj same
    rcases List.mem_cons.mp mem with rfl | mem
    · intro v' w' eqA eqB
      rw [comparable_plain runtime evaluator eqA] at vEq
      rw [comparable_plain runtime evaluator eqB] at wEq
      cases vEq
      cases wEq
      exact first
    · exact ih normalA normalB others mem

/-- Identities with one protocol have one mode. -/
lemma identityMode_of_sameField (validA : AcceptedIdentity env identityA)
    (validB : AcceptedIdentity env identityB) (same : SameField identityA identityB "protocol") :
    identityMode identityA = identityMode identityB := by
  obtain ⟨_, sharedA⟩ := validA.shared
  obtain ⟨_, sharedB⟩ := validB.shared
  obtain ⟨protocolA, eqA, -⟩ := sharedA.protocol
  obtain ⟨protocolB, eqB, -⟩ := sharedB.protocol
  rw [identityMode_eq eqA, identityMode_eq eqB, ← protocolMode_sortKeys, same _ _ eqA eqB,
    protocolMode_sortKeys]

/-- A task that has tables can be looked up. -/
lemma AcceptedTables.hashable_task {record identity task : Json} {tables : TaskResults}
    (belongs : AcceptedTables record identity tables) (eq : taskOf identity = .ok task) :
    hashable task = true := by
  obtain ⟨result, task', samples, -, eq', found, -⟩ := belongs.task
  rw [eq] at eq'
  cases eq'
  rw [taskTable, bind_eq_ok] at found
  obtain ⟨table, -, found⟩ := found
  exact hashable_of_item_eq_ok found

/-- Identities with one suite have one task. -/
lemma taskOf_of_sameField (belongsA : AcceptedTables a identityA tablesA)
    (belongsB : AcceptedTables b identityB tablesB) (suite : SameField identityA identityB "suite") :
    ∃ task, taskOf identityA = .ok task ∧ taskOf identityB = .ok task := by
  obtain ⟨_, task, _, -, eqA, -⟩ := belongsA.task
  obtain ⟨_, task', _, -, eqB, -⟩ := belongsB.task
  obtain ⟨suiteA, suiteEqA, nameA⟩ := bind_eq_ok.mp eqA
  obtain ⟨suiteB, suiteEqB, nameB⟩ := bind_eq_ok.mp eqB
  have sorted := field_of_sortKeys_eq (suite _ _ suiteEqA suiteEqB) nameA nameB
  have same := eq_of_sortKeys_eq sorted (belongsA.hashable_task eqA) (belongsB.hashable_task eqB)
  exact ⟨task, eqA, same ▸ eqB⟩

/-- An accepted record has samples. -/
lemma AcceptedTables.samples_ne_nil {record identity : Json} {tables : TaskResults}
    (belongs : AcceptedTables record identity tables) (valid : AcceptedIdentity env identity) :
    tables.samples ≠ [] := by
  intro none
  obtain ⟨docs, docsEq, same⟩ := belongs.docs
  obtain ⟨_, shared⟩ := valid.shared
  obtain ⟨dataset, ids, total, datasetEq, idsEq, some, -⟩ := shared.dataset
  have listed := belongs.ids
  simp only [idsOf, datasetEq, idsEq, ok_bind, Json.list?, Option.getD_some] at listed
  cases listed
  rw [none] at docsEq
  cases docsEq
  cases hids : tables.ids with
  | nil => exact some hids
  | cons id ids =>
    rw [hids] at same
    cases same

/-- Its samples carry the hashes that the identity lists. -/
lemma AcceptedTables.hashes {record identity : Json} {tables : TaskResults}
    (belongs : AcceptedTables record identity tables) {samples : List Json}
    (eq : identity.field "samples" = .ok (.arr samples)) {shas : List PyString}
    (has : List.Forall₂ HasHash samples shas) : List.Forall₂ HasHash tables.samples shas := by
  obtain ⟨samples', eq', matched⟩ := belongs.matched
  rw [eq] at eq'
  cases eq'
  exact matchSamples_ok matched has

/-- Samples of one selection and one mode are alike in every compared metric. -/
lemma samples_alike (inj : Function.Injective env.sha256)
    (acceptedA : AcceptedRecord env a identityA tablesA)
    (acceptedB : AcceptedRecord env b identityB tablesB)
    (samples : SameField identityA identityB "samples")
    (mode : identityMode identityA = identityMode identityB) {metric : String}
    (mem : metric ∈ comparedMetrics identityA) :
    List.Forall₂ (Alike metric) tablesA.samples tablesB.samples := by
  obtain ⟨samplesA, selectedA⟩ := acceptedA.valid.samples
  obtain ⟨samplesB, selectedB⟩ := acceptedB.valid.samples
  obtain ⟨shas, hasA⟩ := selectedA.hashes
  have sorted := samples _ _ selectedA.field selectedB.field
  rw [sortKeys, sortKeys, Json.arr.injEq] at sorted
  have hasB : List.Forall₂ HasHash samplesB shas := by
    apply hashes_of_sortKeys_eq sorted hasA
    intro sample inside
    obtain ⟨_, sha, -, has⟩ := validateSample_ok (selectedB.valid sample inside)
    exact ⟨sha, has⟩
  apply forall₂_join (acceptedA.belongs.hashes selectedA.field hasA)
    (acceptedB.belongs.hashes selectedB.field hasB)
  intro s memS t memT sha hasS hasT
  rw [comparedMetrics] at mem
  split at mem
  · rename_i generation
    exact alike_of_generation inj (acceptedA.generation generation s memS)
      (acceptedB.generation (mode ▸ generation) t memT) hasS hasT mem
  · rename_i scoring
    exact alike_of_scoring (acceptedA.scoring scoring s memS)
      (acceptedB.scoring (mode ▸ scoring) t memT) mem

/-- The side of an accepted record is there when its outcomes are. -/
lemma sideOf_accepted {record identity task : Json} {tables : TaskResults}
    (accepted : AcceptedRecord env record identity tables) (taskEq : taskOf identity = .ok task)
    {metric : String} (mem : metric ∈ comparedMetrics identity) {xs : List ℤ}
    (outcomes : flatOutcomes metric tables.samples = .ok xs) :
    ∃ side, sideOf record task metric = .ok (side, xs) := by
  obtain ⟨result, task', samples, resultEq, taskEq', samplesEq, membersEq, resultsEq⟩ :=
    accepted.belongs.task
  rw [taskEq] at taskEq'
  cases taskEq'
  obtain ⟨value, valueEq⟩ := accepted.metrics metric mem
  refine ⟨⟨value, xs.sum, xs.length⟩, ?_⟩
  rw [sideOf, recordOutcomes, resultEq, lifted_ok, ok_bind, samplesEq, ok_bind, membersEq, lifted_ok,
    ok_bind, outcomes, ok_bind, ok_bind, resultsEq, ok_bind, valueEq]
  rfl

/-- Identities of one mode are compared by the same metrics. -/
lemma comparedMetrics_eq (mode : identityMode identityA = identityMode identityB) :
    comparedMetrics identityA = comparedMetrics identityB := by
  rw [comparedMetrics, comparedMetrics, mode]

/-- The order of two texts does not matter to the pair of them. -/
lemma sortedPair_comm (s t : PyString) : sortedPair s t = sortedPair t s := by
  rw [sortedPair, sortedPair]
  rcases lt_trichotomy s.codes t.codes with lt | eq | lt
  · rw [if_neg (asymm lt), if_pos lt]
  · rw [PyString.codes_injective eq]
  · rw [if_pos lt, if_neg (asymm lt)]

/-- The seed of two accepted records does not depend on their order. -/
lemma comparisonSeed_ok (acceptedA : AcceptedRecord env a identityA tablesA)
    (acceptedB : AcceptedRecord env b identityB tablesB) :
    ∃ seed, comparisonSeed env a b = .ok seed ∧ comparisonSeed env b a = .ok seed := by
  obtain ⟨shaA, -, eqA⟩ := acceptedA.checksum
  obtain ⟨shaB, -, eqB⟩ := acceptedB.checksum
  have able : Digestible (.arr (sortedPair (.text shaA) (.text shaB))) := by
    rw [sortedPair]
    split <;> exact ⟨rfl, rfl, rfl⟩
  have digests := @digest_of_digestible env _ able
  refine ⟨seedOf (shaOf env (.arr (sortedPair (.text shaA) (.text shaB)))), ?_, ?_⟩
  · rw [comparisonSeed, eqA, ok_bind, eqB, ok_bind, sortedDigests, ok_bind, digests]
    rfl
  · rw [comparisonSeed, eqB, ok_bind, eqA, ok_bind, sortedDigests, sortedPair_comm, ok_bind, digests]
    rfl

/-- The comparisons of the tasks of two accepted records, both ways. -/
lemma compareTasks_swap (inj : Function.Injective env.sha256)
    (acceptedA : AcceptedRecord env a identityA tablesA)
    (acceptedB : AcceptedRecord env b identityB tablesB) {comparable : Bool}
    (same : comparable = true → ∀ field ∈ ["suite", "samples", "protocol"],
      SameField identityA identityB field) (limited plumbing : Bool) :
    ∃ tasks tasks', compareTasks env rng a b comparable limited plumbing = .ok tasks ∧
      compareTasks env rng b a comparable limited plumbing = .ok tasks' ∧
      List.Forall₂ (SwappedTask env rng a b) tasks tasks' := by
  cases comparable with
  | false => exact ⟨[], [], rfl, rfl, .nil⟩
  | true =>
    obtain ⟨suite, samples, protocol, -⟩ : SameField identityA identityB "suite" ∧
        SameField identityA identityB "samples" ∧ SameField identityA identityB "protocol" ∧ True :=
      ⟨same rfl _ (by decide), same rfl _ (by decide), same rfl _ (by decide), trivial⟩
    have mode := identityMode_of_sameField acceptedA.valid acceptedB.valid protocol
    obtain ⟨task, taskA, taskB⟩ := taskOf_of_sameField acceptedA.belongs acceptedB.belongs suite
    obtain ⟨seed, seedEq, seedEq'⟩ := comparisonSeed_ok acceptedA acceptedB
    have each : ∀ metric ∈ comparedMetrics identityA, ∃ t t',
        compareTask rng a b task limited plumbing seed metric = .ok t ∧
        compareTask rng b a task limited plumbing seed metric = .ok t' ∧
        SwappedTask env rng a b t t' := by
      intro metric mem
      have alike := samples_alike inj acceptedA acceptedB samples mode mem
      obtain ⟨xs, ys, runA, runB, length, some⟩ := flatOutcomes_ok alike
      obtain ⟨left, sideA⟩ := sideOf_accepted acceptedA taskA mem runA
      obtain ⟨right, sideB⟩ := sideOf_accepted acceptedB taskB (comparedMetrics_eq mode ▸ mem) runB
      exact compareTask_swap limited plumbing seedEq sideA sideB length
        (some (acceptedA.belongs.samples_ne_nil acceptedA.valid))
    obtain ⟨tasks, tasks', run, run', swapped⟩ := mapM_forall₂ each
    refine ⟨tasks, tasks', ?_, ?_, swapped⟩
    · rw [compareTasks, Bool.not_true, if_neg Bool.false_ne_true, acceptedA.field, lifted_ok, ok_bind,
        taskA, lifted_ok, ok_bind, seedEq, lifted_ok, ok_bind, run]
    · rw [compareTasks, Bool.not_true, if_neg Bool.false_ne_true, acceptedB.field, lifted_ok, ok_bind,
        taskB, lifted_ok, ok_bind, seedEq', lifted_ok, ok_bind, ← comparedMetrics_eq mode, run']

/-- A disjunction of two checks that return. -/
lemma either_ok {x y : Except Refusal Bool} {p q : Bool} (first : x = .ok p) (second : y = .ok q) :
    either x y = .ok (p || q) := by
  rw [either, first, ok_bind, second]
  cases p <;> rfl

/-- Whether a value is listed can be asked of what has a hash. -/
lemma isOneOf_ok {value : Json} {options : List Json} (able : hashable value = true) :
    ∃ one, isOneOf value options = .ok one := by
  rw [isOneOf, if_pos able]
  exact ⟨_, rfl⟩

/-- Of an accepted record it can be asked whether it is of a plumbing run. -/
lemma isPlumbing_ok {record identity : Json} {tables : TaskResults}
    (accepted : AcceptedRecord env record identity tables) : ∃ p, isPlumbing record = .ok p := by
  obtain ⟨classification, classificationEq, -⟩ := accepted.belongs.classification
  obtain ⟨_, task, _, -, taskEq, -⟩ := accepted.belongs.task
  obtain ⟨one, oneEq⟩ := @isOneOf_ok task plumbingSuites (accepted.belongs.hashable_task taskEq)
  rw [isPlumbing, classificationEq, ok_bind]
  split
  · exact ⟨true, rfl⟩
  · exact ⟨one, by rw [accepted.field, ok_bind, taskEq, ok_bind, oneEq]⟩

/-- And whether it is of a limited run. -/
lemma isLimited_ok {record identity : Json} {tables : TaskResults}
    (accepted : AcceptedRecord env record identity tables) : ∃ p, isLimited record = .ok p := by
  obtain ⟨classification, classificationEq, -⟩ := accepted.belongs.classification
  obtain ⟨_, task, _, -, taskEq, -⟩ := accepted.belongs.task
  obtain ⟨one, oneEq⟩ := @isOneOf_ok task nonReusableSuites (accepted.belongs.hashable_task taskEq)
  obtain ⟨_, shared⟩ := accepted.valid.shared
  obtain ⟨dataset, ids, total, datasetEq, idsEq, -, totalEq⟩ := shared.dataset
  rw [isLimited, classificationEq, ok_bind, accepted.field, ok_bind]
  split
  · exact ⟨true, rfl⟩
  · have named : (do isOneOf (← taskOf identity) nonReusableSuites) = .ok one := by
      rw [taskEq, ok_bind, oneEq]
    have size : (Json.arr ids).size = .ok ids.length := rfl
    refine ⟨one || decide ((ids.length : ℚ) < total), either_ok named ?_⟩
    rw [datasetEq, ok_bind, idsEq, ok_bind, size, ok_bind, totalEq]
    rfl

/-- An accepted record has a provenance when it has a digest. -/
lemma provenanceOf_ok_iff {record identity : Json} {tables : TaskResults}
    (accepted : AcceptedRecord env record identity tables) (side source : String) :
    (∃ provenance, provenanceOf env side source record = .ok provenance) ↔
      ∃ sha, digest env record = .ok sha := by
  constructor
  · intro ⟨provenance, ok⟩
    obtain ⟨sha, eq, -⟩ := bind_eq_ok.mp ok
    exact ⟨sha, eq⟩
  · intro ⟨sha, eq⟩
    obtain ⟨provenance, hardware, provenanceEq, hardwareEq⟩ := accepted.hardware
    refine ⟨⟨side, source, sha, identity, hardware⟩, ?_⟩
    rw [provenanceOf, eq, ok_bind, accepted.field, ok_bind, provenanceEq, ok_bind, hardwareEq]
    rfl

end Records

section Comparisons

/-- What swapping makes of a comparison. -/
structure Swapped (env : Surroundings) (rng : Generator) (a b : Json) (c c' : Comparison) : Prop where
  status : c'.status = c.status
  checks : c'.checks = c.checks
  perTask : List.Forall₂ (SwappedTask env rng a b) c.perTask c'.perTask

/-- The phases of a comparison in front of the provenance. -/
structure Phases (env : Surroundings) (rng : Generator) (a b : Json) (checks : List Check)
    (plumbing limited : Bool) (tasks : List TaskComparison) : Prop where
  left : validateRecord env a = .ok ()
  right : validateRecord env b = .ok ()
  checks_eq : comparisonChecks env a b = .ok checks
  plumbing_eq : either (isPlumbing a) (isPlumbing b) = .ok plumbing
  limited_eq : either (isLimited a) (isLimited b) = .ok limited
  tasks_eq : compareTasks env rng a b (checks.all (·.agrees)) limited plumbing = .ok tasks

variable {a b : Json} {checks : List Check} {plumbing limited : Bool} {tasks : List TaskComparison}

/-- What is left of a comparison after its phases. -/
lemma Phases.compare_eq (phases : Phases env rng a b checks plumbing limited tasks)
    (leftSource rightSource : String) :
    compareQualityRecords env rng a b leftSource rightSource = (do
      let leftProvenance ← lifted (provenanceOf env "left" leftSource a)
      let rightProvenance ← lifted (provenanceOf env "right" rightSource b)
      return {
        schemaVersion := 1
        purpose := "diagnostic_only"
        status := statusOf (checks.all (·.agrees)) plumbing limited
        checks := checks
        reasons := checks.map fun check =>
          check.field ++ (if check.agrees then " matches" else " differs; comparison withheld")
        limitations := limitationsOf plumbing limited
        provenance := [leftProvenance, rightProvenance]
        perTask := tasks }) := by
  rw [compareQualityRecords, phases.left, ok_bind, phases.right, ok_bind, phases.checks_eq, ok_bind]
  dsimp only
  rw [phases.plumbing_eq, lifted_ok, ok_bind, phases.limited_eq, lifted_ok, ok_bind, phases.tasks_eq,
    ok_bind]

/-- With both provenances the comparison is there. -/
lemma Phases.compare_ok (phases : Phases env rng a b checks plumbing limited tasks)
    {leftSource rightSource : String} {left right : RecordProvenance}
    (leftEq : provenanceOf env "left" leftSource a = .ok left)
    (rightEq : provenanceOf env "right" rightSource b = .ok right) :
    ∃ c, compareQualityRecords env rng a b leftSource rightSource = .ok c := by
  rw [phases.compare_eq, leftEq, lifted_ok, ok_bind, rightEq, lifted_ok, ok_bind]
  exact ⟨_, rfl⟩

/-- A comparison is what its phases say. -/
lemma Phases.of_compare (phases : Phases env rng a b checks plumbing limited tasks)
    {leftSource rightSource : String} {c : Comparison}
    (run : compareQualityRecords env rng a b leftSource rightSource = .ok c) :
    c.status = statusOf (checks.all (·.agrees)) plumbing limited ∧ c.checks = checks ∧
      c.perTask = tasks ∧ (∃ left, provenanceOf env "left" leftSource a = .ok left) ∧
      ∃ right, provenanceOf env "right" rightSource b = .ok right := by
  rw [phases.compare_eq, bind_eq_ok] at run
  obtain ⟨left, leftEq, run⟩ := run
  obtain ⟨right, rightEq, run⟩ := bind_eq_ok.mp run
  cases run
  exact ⟨rfl, rfl, rfl, ⟨left, lifted_eq_ok.mp leftEq⟩, right, lifted_eq_ok.mp rightEq⟩

/-- The phases of two accepted records succeed both ways. -/
lemma phases_swap (inj : Function.Injective env.sha256) (okA : validateRecord env a = .ok ())
    (okB : validateRecord env b = .ok ()) (rng : Generator) :
    ∃ checks plumbing limited tasks tasks', Phases env rng a b checks plumbing limited tasks ∧
      Phases env rng b a checks plumbing limited tasks' ∧
      List.Forall₂ (SwappedTask env rng a b) tasks tasks' := by
  obtain ⟨identityA, tablesA, acceptedA⟩ := validateRecord_ok okA
  obtain ⟨identityB, tablesB, acceptedB⟩ := validateRecord_ok okB
  obtain ⟨identityA', as, versionA, c, comparedA⟩ := compared_of_valid okA
  obtain ⟨identityB', bs, versionB, d, comparedB⟩ := compared_of_valid okB
  have sameA : identityA' = identityA :=
    Except.ok.inj (comparedA.identityEq.symm.trans acceptedA.field)
  have sameB : identityB' = identityB :=
    Except.ok.inj (comparedB.identityEq.symm.trans acceptedB.field)
  subst sameA
  subst sameB
  obtain ⟨checks, forth, back, agree⟩ := comparedA.checks comparedB
  obtain ⟨plumbingA, plumbingEqA⟩ := isPlumbing_ok acceptedA
  obtain ⟨plumbingB, plumbingEqB⟩ := isPlumbing_ok acceptedB
  obtain ⟨limitedA, limitedEqA⟩ := isLimited_ok acceptedA
  obtain ⟨limitedB, limitedEqB⟩ := isLimited_ok acceptedB
  have same : checks.all (·.agrees) = true → ∀ field ∈ ["suite", "samples", "protocol"],
      SameField identityA' identityB' field := by
    intro all field mem
    have equal := (map_shaOf_eq_iff inj).mp (agree.mp (List.all_eq_true.mp all)).1
    obtain ⟨known, runtime, evaluator⟩ := (by decide : ∀ field ∈ ["suite", "samples", "protocol"],
      field ∈ comparedFields ∧ field ≠ "runtime" ∧ field ≠ "evaluator") field mem
    exact sameField_of_contents comparedA.normal comparedB.normal equal known runtime evaluator
  obtain ⟨tasks, tasks', run, run', swapped⟩ := compareTasks_swap inj acceptedA acceptedB same
    (limitedA || limitedB) (plumbingA || plumbingB)
  refine ⟨checks, plumbingA || plumbingB, limitedA || limitedB, tasks, tasks', ?_, ?_, swapped⟩
  · exact ⟨okA, okB, forth, either_ok plumbingEqA plumbingEqB, either_ok limitedEqA limitedEqB, run⟩
  · refine ⟨okB, okA, back, ?_, ?_, run'⟩
    · rw [either_ok plumbingEqB plumbingEqA, Bool.or_comm]
    · rw [either_ok limitedEqB limitedEqA, Bool.or_comm]

/-- Once its phases pass, a comparison fails for want of a digest only. -/
lemma compares_iff (phases : Phases env rng a b checks plumbing limited tasks)
    (leftSource rightSource : String) :
    (∃ c, compareQualityRecords env rng a b leftSource rightSource = .ok c) ↔
      (∃ sha, digest env a = .ok sha) ∧ ∃ sha, digest env b = .ok sha := by
  obtain ⟨identityA, tablesA, acceptedA⟩ := validateRecord_ok phases.left
  obtain ⟨identityB, tablesB, acceptedB⟩ := validateRecord_ok phases.right
  rw [← provenanceOf_ok_iff acceptedA "left" leftSource,
    ← provenanceOf_ok_iff acceptedB "right" rightSource]
  constructor
  · intro ⟨c, run⟩
    exact (phases.of_compare run).2.2.2
  · intro ⟨⟨left, leftEq⟩, right, rightEq⟩
    exact phases.compare_ok leftEq rightEq

/-- Accepted records compare exactly when both have digests, and then both ways. -/
theorem compareQualityRecords_swap (inj : Function.Injective env.sha256) {a b : Json}
    (okA : validateRecord env a = .ok ()) (okB : validateRecord env b = .ok ()) (rng : Generator)
    (leftSource rightSource : String) :
    ((∃ c, compareQualityRecords env rng a b leftSource rightSource = .ok c) ↔
        (∃ sha, digest env a = .ok sha) ∧ ∃ sha, digest env b = .ok sha) ∧
      ∀ c, compareQualityRecords env rng a b leftSource rightSource = .ok c →
        ∃ c', compareQualityRecords env rng b a rightSource leftSource = .ok c' ∧
          Swapped env rng a b c c' := by
  obtain ⟨checks, plumbing, limited, tasks, tasks', phases, phases', swapped⟩ :=
    phases_swap inj okA okB rng
  have digests := compares_iff phases leftSource rightSource
  refine ⟨digests, ?_⟩
  intro c run
  obtain ⟨shaA, shaB⟩ := digests.mp ⟨c, run⟩
  obtain ⟨c', run'⟩ := (compares_iff phases' rightSource leftSource).mpr ⟨shaB, shaA⟩
  obtain ⟨status, checksEq, perTask, -⟩ := phases.of_compare run
  obtain ⟨status', checksEq', perTask', -⟩ := phases'.of_compare run'
  refine ⟨c', run', status'.trans status.symm, checksEq'.trans checksEq.symm, ?_⟩
  rw [perTask, perTask']
  exact swapped

end Comparisons

section Example

/-- A generator that draws the first of two values in 1950 replicates, and then the second. -/
def lateGenerator : Generator where
  draw _ count step := if step / count < 1950 then 0 else min 1 (count - 1)
  draw_lt seed count step some := by
    split
    · exact some
    · omega

/-- The generator draws the first sample in the early replicates and the second in the late ones. -/
lemma replicateMean_lateGenerator (seed r : ℕ) :
    replicateMean lateGenerator seed [0, 1] r = if r < 1950 then 0 else 1 := by
  have first : (r * 2 + 0) / 2 = r := by omega
  have second : (r * 2 + 1) / 2 = r := by omega
  have steps : List.range 2 = [0, 1] := rfl
  simp only [replicateMean, List.length_cons, List.length_nil, Nat.reduceAdd, steps, List.map_cons,
    List.map_nil, lateGenerator, first, second]
  split
  · norm_num
  · norm_num

/-- So the sorted estimates are zeros, then ones. -/
lemma bootstrapEstimates_lateGenerator (seed : ℕ) {rank : ℕ}
    (lt : rank < bootstrapReplicates) :
    (bootstrapEstimates lateGenerator seed [0, 1]).getD rank 0 = if rank < 1950 then 0 else 1 := by
  have ascending : ((List.range bootstrapReplicates).map
      (replicateMean lateGenerator seed [0, 1])).Pairwise (fun p q => id p ≤ id q) := by
    rw [List.pairwise_map]
    apply List.pairwise_lt_range.imp
    intro r r' before
    rw [replicateMean_lateGenerator, replicateMean_lateGenerator]
    split
    · split <;> norm_num
    · rw [if_neg (by omega)]
  rw [bootstrapEstimates, sortedBy_eq_self ascending, List.getD_eq_getElem?_getD, List.getElem?_map,
    List.getElem?_range lt, Option.map_some, Option.getD_some, replicateMean_lateGenerator]

/-- A record whose hardware cannot be encoded. -/
def surrogateRecord : Json :=
  exampleRecord (.int 1) zeroSha (.surrogate "" 0 "") (.int 1, .int 1) (.int 1)

/-- A record with a surrogate is accepted. -/
lemma surrogateRecord_accepted : validateRecord exampleSurroundings surrogateRecord = .ok () :=
  exampleRecord_accepted (by decide +kernel) (by decide +kernel) exampleIdentity_digestible
    (by decide +kernel) exampleIdentity_valid (by decide +kernel)

/-- A record of an artifact has a digest when what it does not share with the others has one. -/
lemma exampleRecord_digestible {version mean : Json} {hardware : String} {accs : Json × Json}
    (ableVersion : Digestible version) (ableMean : Digestible mean) (ableFirst : Digestible accs.1)
    (ableSecond : Digestible accs.2) :
    Digestible (exampleRecord version zeroSha (.text hardware) accs mean) := by
  simp (disch := decide) [exampleRecord, exampleResult, exampleSample, ableVersion, ableMean,
    ableFirst, ableSecond, exampleIdentity_digestible]

/-- The record of two right answers has a digest. -/
lemma perfectRecord_digestible : Digestible (perfectRecord (.int 1)) := by
  have one : Digestible (.int 1) := digestible_small (by decide)
  exact exampleRecord_digestible one one one one

/-- So has the record of one right answer. -/
lemma mixedRecord_digestible : Digestible mixedRecord :=
  exampleRecord_digestible (digestible_small (by decide)) (digestible_finite _)
    (digestible_small (by decide)) (digestible_small (by decide))

/-- The record with a surrogate has none. -/
lemma surrogateRecord_not_digestible : ¬Digestible surrogateRecord := by
  intro able
  have text := able.text
  rw [(by decide +kernel : surrogateRecord.leaves textLeaf = false)] at text
  cases text

/-- All checks of two such records of one version and artifact match. -/
lemma exampleRecord_checks {artifact mean mean' : Json} {hardware hardware' : PyString}
    {accs accs' : Json × Json} {checks : List Check}
    (okA : validateRecord exampleSurroundings
      (exampleRecord (.int 1) artifact hardware accs mean) = .ok ())
    (okB : validateRecord exampleSurroundings
      (exampleRecord (.int 1) artifact hardware' accs' mean') = .ok ())
    (eq : comparisonChecks exampleSurroundings (exampleRecord (.int 1) artifact hardware accs mean)
      (exampleRecord (.int 1) artifact hardware' accs' mean') = .ok checks) :
    checks.all (·.agrees) = true := by
  obtain ⟨identityA, as, versionA, c, comparedA⟩ := compared_of_valid okA
  obtain ⟨identityB, bs, versionB, d, comparedB⟩ := compared_of_valid okB
  obtain ⟨checks', eq', -, agree⟩ := comparedA.checks comparedB
  rw [eq] at eq'
  cases eq'
  have identities : identityA = identityB :=
    Except.ok.inj (comparedA.identityEq.symm.trans comparedB.identityEq)
  have fields : as = bs := by
    have eqA := comparedA.normal.fields_eq
    rw [identities, comparedB.normal.fields_eq] at eqA
    exact (Except.ok.inj eqA).symm
  have versions : pyEq versionA versionB = true := by
    rw [← Except.ok.inj comparedA.versionEq, ← Except.ok.inj comparedB.versionEq]
    rfl
  have classes : c = d := by
    have eq := Except.ok.inj (comparedA.classificationEq.symm.trans comparedB.classificationEq)
    cases eq
    rfl
  exact List.all_eq_true.mpr (agree.mpr ⟨by rw [fields], versions, classes⟩)

/-- The first of a list of results. -/
lemma head_of_mapM_ok {metric : String} {metrics : List String} {tasks : List TaskComparison}
    {f : String → Except PyError TaskComparison} (run : (metric :: metrics).mapM f = .ok tasks) :
    ∃ t rest, tasks = t :: rest ∧ f metric = .ok t := by
  rw [List.mapM_cons, bind_eq_ok] at run
  obtain ⟨t, first, run⟩ := run
  obtain ⟨rest, -, run⟩ := bind_eq_ok.mp run
  cases run
  exact ⟨t, rest, rfl, first⟩

/-- The interval between the two runs reaches from zero to one. -/
lemma compareTask_mixed {seed : ℕ} {t : TaskComparison}
    (ok : compareTask lateGenerator (perfectRecord (.int 1)) mixedRecord
      (.str "jaull-hellaswag-100-v1") true false seed "acc" = .ok t) :
    t.task = .str "jaull-hellaswag-100-v1" ∧ t.metric = "acc" ∧
      ∃ interval, t.uncertainty = .estimated interval ∧ interval.lower = 0 ∧ interval.upper = 1 := by
  have sideA : sideOf (perfectRecord (.int 1)) (.str "jaull-hellaswag-100-v1") "acc" =
      .ok (⟨.int 1, 2, 2⟩, [1, 1]) := by
    decide +kernel
  have sideB : sideOf mixedRecord (.str "jaull-hellaswag-100-v1") "acc" =
      .ok (⟨halfFloat, 1, 2⟩, [1, 0]) := by
    decide +kernel
  have pairs : pairDifferences [1, 1] [1, 0] = .ok [0, 1] := by
    decide
  have average : mean [0, 1] = .ok (1 / 2) := by
    decide +kernel
  rw [compareTask_ok true false sideA sideB pairs average] at ok
  cases ok
  have single : "acc" ∉ instructionMetrics := by decide
  have varied : ¬(([0, 1] : List ℤ).length < 2 ∨ ([0, 1] : List ℤ).dedup.length < 2) := by decide
  have lower : (bootstrapEstimates lateGenerator seed [0, 1]).getD 50 0 = 0 := by
    rw [bootstrapEstimates_lateGenerator seed (by decide), if_pos (by decide)]
  have upper : (bootstrapEstimates lateGenerator seed [0, 1]).getD 1950 0 = 1 := by
    rw [bootstrapEstimates_lateGenerator seed (by decide), if_neg (by decide)]
  refine ⟨rfl, rfl, ?_⟩
  rw [pairedComparison]
  dsimp only
  rw [if_neg single, uncertainty, if_neg Bool.false_ne_true, Bool.not_true,
    if_neg Bool.false_ne_true, if_neg varied]
  dsimp only
  rw [lower, upper]
  exact ⟨_, rfl, by dsimp only, by dsimp only⟩

/-- The first tasks of the example, both ways. -/
lemma mixed_tasks {checks : List Check} {plumbing limited : Bool} {tasks : List TaskComparison}
    (phases : Phases exampleSurroundings lateGenerator (perfectRecord (.int 1)) mixedRecord checks
      plumbing limited tasks) :
    ∃ t rest interval, tasks = t :: rest ∧ t.task = .str "jaull-hellaswag-100-v1" ∧
      t.metric = "acc" ∧ t.uncertainty = .estimated interval ∧ interval.lower = 0 ∧
      interval.upper = 1 := by
  have plumbingEq : either (isPlumbing (perfectRecord (.int 1))) (isPlumbing mixedRecord) =
      .ok false := by
    decide +kernel
  have limitedEq : either (isLimited (perfectRecord (.int 1))) (isLimited mixedRecord) =
      .ok true := by
    decide +kernel
  have run := phases.tasks_eq
  rw [phases.plumbing_eq] at plumbingEq
  rw [phases.limited_eq] at limitedEq
  cases plumbingEq
  cases limitedEq
  rw [exampleRecord_checks phases.left phases.right phases.checks_eq, compareTasks, Bool.not_true,
    if_neg Bool.false_ne_true] at run
  simp only [bind_eq_ok, lifted_eq_ok] at run
  obtain ⟨identity, identityEq, task, taskEq, seed, -, run⟩ := run
  cases identityEq
  cases taskEq
  obtain ⟨t, rest, rfl, first⟩ := head_of_mapM_ok run
  obtain ⟨taskEq, metric, interval, eq, lower, upper⟩ := compareTask_mixed first
  exact ⟨t, rest, interval, rfl, taskEq, metric, eq, lower, upper⟩

/-- The paired differences of the two runs. -/
lemma mixed_paired {xs ys paired : List ℤ}
    (runA : recordOutcomes (perfectRecord (.int 1)) (.str "jaull-hellaswag-100-v1") "acc" = .ok xs)
    (runB : recordOutcomes mixedRecord (.str "jaull-hellaswag-100-v1") "acc" = .ok ys)
    (pairs : pairDifferences xs ys = .ok paired) : paired = [0, 1] := by
  have outcomesA : recordOutcomes (perfectRecord (.int 1)) (.str "jaull-hellaswag-100-v1") "acc" =
      .ok [1, 1] := by
    decide +kernel
  have outcomesB : recordOutcomes mixedRecord (.str "jaull-hellaswag-100-v1") "acc" =
      .ok [1, 0] := by
    decide +kernel
  rw [outcomesA] at runA
  rw [outcomesB] at runB
  cases runA
  cases runB
  exact (Except.ok.inj pairs).symm

/-- A record whose hardware cannot be encoded is accepted and does not compare. The interval of a perfect
record and a mixed one is from zero to one, and the swapped one from zero to zero. -/
theorem compareQualityRecords_lopsided :
    Function.Injective exampleSurroundings.sha256 ∧
      validateRecord exampleSurroundings (perfectRecord (.int 1)) = .ok () ∧
      validateRecord exampleSurroundings mixedRecord = .ok () ∧
      validateRecord exampleSurroundings surrogateRecord = .ok () ∧
      (∀ c, compareQualityRecords exampleSurroundings lateGenerator surrogateRecord
        (perfectRecord (.int 1)) "left.json" "right.json" ≠ .ok c) ∧
      ∃ c c' t t' rest rest' interval interval',
        compareQualityRecords exampleSurroundings lateGenerator (perfectRecord (.int 1)) mixedRecord
          "left.json" "right.json" = .ok c ∧
        compareQualityRecords exampleSurroundings lateGenerator mixedRecord (perfectRecord (.int 1))
          "right.json" "left.json" = .ok c' ∧
        c.perTask = t :: rest ∧ c'.perTask = t' :: rest' ∧ t.metric = "acc" ∧ t'.metric = "acc" ∧
        t.uncertainty = .estimated interval ∧ t'.uncertainty = .estimated interval' ∧
        interval'.lower ≠ -interval.upper := by
  refine ⟨exampleSurroundings_injective, perfectRecord_accepted, mixedRecord_accepted,
    surrogateRecord_accepted, ?_, ?_⟩
  · intro c run
    -- a record that cannot be encoded is not compared, though it is accepted
    obtain ⟨_, _, _, _, _, phases, -⟩ := phases_swap exampleSurroundings_injective
      surrogateRecord_accepted perfectRecord_accepted lateGenerator
    obtain ⟨⟨sha, eq⟩, -⟩ := (compares_iff phases "left.json" "right.json").mp ⟨c, run⟩
    exact surrogateRecord_not_digestible (digest_eq_ok.mp eq).1
  · obtain ⟨checks, plumbing, limited, tasks, tasks', phases, phases', swapped⟩ :=
      phases_swap exampleSurroundings_injective perfectRecord_accepted mixedRecord_accepted
        lateGenerator
    have digestA : ∃ sha, digest exampleSurroundings (perfectRecord (.int 1)) = .ok sha :=
      ⟨_, digest_of_digestible perfectRecord_digestible⟩
    have digestB : ∃ sha, digest exampleSurroundings mixedRecord = .ok sha :=
      ⟨_, digest_of_digestible mixedRecord_digestible⟩
    obtain ⟨c, run⟩ := (compares_iff phases "left.json" "right.json").mpr ⟨digestA, digestB⟩
    obtain ⟨c', run'⟩ := (compares_iff phases' "right.json" "left.json").mpr ⟨digestB, digestA⟩
    obtain ⟨-, -, perTask, -⟩ := phases.of_compare run
    obtain ⟨-, -, perTask', -⟩ := phases'.of_compare run'
    obtain ⟨t, rest, interval, rfl, task, metric, eq, -, upper⟩ := mixed_tasks phases
    cases swapped with
    | @cons _ t' _ rest' first others =>
      -- both directions draw from one seed, and the late generator draws late ranks
      obtain ⟨seed, xs, ys, paired, -, runA, runB, pairs, bounds⟩ := first.uncertainty
      rw [task, metric] at runA runB
      rw [mixed_paired runA runB pairs] at bounds
      generalize uncertaintyEq' : t'.uncertainty = uncertainty' at bounds
      rw [eq] at bounds
      cases bounds with
      | estimated _ _ _ =>
        refine ⟨c, c', t, t', rest, rest', interval, _, run, run', perTask, perTask', metric,
          first.metric.trans metric, eq, uncertaintyEq', ?_⟩
        dsimp only
        rw [bootstrapEstimates_lateGenerator seed (by decide), if_pos (by decide), upper]
        norm_num

/-- A perfect record and a mixed one compare, and the swapped comparison is the swapped one. -/
theorem compareQualityRecords_swap_mixed :
    ∃ c c', compareQualityRecords exampleSurroundings lateGenerator (perfectRecord (.int 1))
        mixedRecord "left.json" "right.json" = .ok c ∧
      compareQualityRecords exampleSurroundings lateGenerator mixedRecord (perfectRecord (.int 1))
        "right.json" "left.json" = .ok c' ∧
      Swapped exampleSurroundings lateGenerator (perfectRecord (.int 1)) mixedRecord c c' := by
  obtain ⟨iff, swaps⟩ := compareQualityRecords_swap exampleSurroundings_injective
    perfectRecord_accepted mixedRecord_accepted lateGenerator "left.json" "right.json"
  obtain ⟨c, run⟩ := iff.mpr ⟨⟨_, digest_of_digestible perfectRecord_digestible⟩,
    ⟨_, digest_of_digestible mixedRecord_digestible⟩⟩
  obtain ⟨c', run', swapped⟩ := swaps c run
  exact ⟨c, c', run, run', swapped⟩

end Example

end Jaull.Evaluation
