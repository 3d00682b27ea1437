import Jaull.Evaluation.Comparability

/-!
# Outcomes of accepted records

The samples of an accepted record are those of its identity, in its order, and each has outcomes for every
compared metric. How many outcomes there are depends on the documents of the samples alone.
-/

namespace Jaull.Evaluation
open Jaull.Lib

variable {env : Surroundings} {record identity : Json}

section Hashes

/-- The document that a sample is about. -/
def HasHash (sample : Json) (sha : PyString) : Prop :=
  sample.field "doc_hash" = .ok (.str sha)

/-- What was picked is of the sample. -/
lemma pick_ok {sample : Json} {fields picked : List (PyString × Json)}
    (ok : pick sample fields = .ok picked) {name : String} {value : Json}
    (mem : (PyString.text name, value) ∈ fields) :
    ∃ member, sample.field name = .ok member ∧ (PyString.text name, member) ∈ picked := by
  induction fields generalizing picked with
  | nil => cases mem
  | cons entry rest ih =>
    obtain ⟨key, w⟩ := entry
    cases sample with
    | obj entries =>
      simp only [pick] at ok
      cases found : entries.lookup key with
      | none =>
        rw [found] at ok
        cases ok
      | some member =>
        rw [found] at ok
        obtain ⟨others, run, rfl⟩ := exists_of_map_eq_ok ok
        rcases List.mem_cons.mp mem with eq | mem
        · cases eq
          exact ⟨member, field_obj.mpr found, List.mem_cons_self⟩
        · obtain ⟨member', eq, inside⟩ := ih run mem
          exact ⟨member', eq, List.mem_cons_of_mem _ inside⟩
    | _ => cases ok

/-- The entries of a dictionary have equals in an equal one. -/
lemma pyEqFields_ok {as bs : List (PyString × Json)} (same : pyEqFields as bs = true)
    {key : PyString} {a : Json} (mem : (key, a) ∈ as) :
    ∃ b, bs.lookup key = some b ∧ (bothNan a b || pyEq a b) = true := by
  induction as with
  | nil => cases mem
  | cons entry rest ih =>
    obtain ⟨k, w⟩ := entry
    rw [pyEqFields, Bool.and_eq_true] at same
    rcases List.mem_cons.mp mem with eq | mem
    · cases eq
      cases found : bs.lookup key with
      | none =>
        rw [found] at same
        cases same.1
      | some b =>
        rw [found] at same
        exact ⟨b, rfl, same.1⟩
    · exact ih same.2 mem

/-- A sample with the picked fields has their hash. -/
lemma hasHash_of_pick {sample : Json} {fields picked : List (PyString × Json)} {sha : PyString}
    (picks : pick sample fields = .ok picked) (same : pyEq (.obj picked) (.obj fields) = true)
    (has : HasHash (.obj fields) sha) : HasHash sample sha := by
  have at' := field_obj.mp has
  obtain ⟨member, eq, inside⟩ := pick_ok picks (mem_of_lookup at')
  rw [pyEq, Bool.and_eq_true] at same
  obtain ⟨stated, found, equal⟩ := pyEqFields_ok same.2 inside
  rw [at'] at found
  cases found
  have equal : pyEq member (.str sha) = true := by
    rcases (Bool.or_eq_true _ _).mp equal with nan | equal
    · cases member with
      | float x => cases x <;> cases nan
      | _ => cases nan
    · exact equal
  rw [HasHash, eq, pyEq_str.mp equal]

/-- The samples of a result repeat the documents that the identity selects. -/
lemma matchSamples_ok {samples expected : List Json} (ok : matchSamples samples expected = .ok ())
    {shas : List PyString} (has : List.Forall₂ HasHash expected shas) :
    List.Forall₂ HasHash samples shas := by
  induction expected generalizing samples shas with
  | nil =>
    cases has
    cases samples with
    | nil => exact .nil
    | cons sample samples => cases ok
  | cons first rest ih =>
    cases has with
    | cons head tail =>
      cases samples with
      | nil => cases ok
      | cons sample samples =>
        simp only [matchSamples, bind_eq_ok, refuseIf_eq_ok, exists_const,
          Bool.not_eq_false'] at ok
        obtain ⟨picked, picks, same, ok⟩ := ok
        obtain ⟨fields, rfl, -⟩ := field_eq_ok.mp head
        exact .cons (hasHash_of_pick picks same head) (ih ok tail)

/-- The selected samples have hashes. -/
lemma SelectedSamples.hashes {samples : List Json} (selected : SelectedSamples identity samples) :
    ∃ shas, List.Forall₂ HasHash samples shas := by
  have all := selected.valid
  clear selected
  induction samples with
  | nil => exact ⟨[], .nil⟩
  | cons sample rest ih =>
    obtain ⟨first, others⟩ := List.forall_mem_cons.mp all
    obtain ⟨fields, sha, -, has⟩ := validateSample_ok first
    obtain ⟨shas, rest⟩ := ih others
    exact ⟨sha :: shas, .cons has rest⟩

/-- Selections that are the same when sorted are about the same documents. -/
lemma hashes_of_sortKeys_eq {as bs : List Json} (same : sortItems as = sortItems bs)
    {shas : List PyString} (hasA : List.Forall₂ HasHash as shas)
    (selected : ∀ b ∈ bs, ∃ sha, HasHash b sha) : List.Forall₂ HasHash bs shas := by
  induction hasA generalizing bs with
  | nil =>
    cases bs with
    | nil => exact .nil
    | cons b bs => cases same
  | @cons a sha as shas has _ ih =>
    cases bs with
    | nil => cases same
    | cons b bs =>
      rw [sortItems, sortItems, List.cons.injEq] at same
      obtain ⟨⟨sha', first⟩, others⟩ := List.forall_mem_cons.mp selected
      have equal := field_of_sortKeys_eq same.1 has first
      rw [sortKeys, sortKeys, Json.str.injEq] at equal
      rw [← equal] at first
      exact .cons first (ih same.2 others)

end Hashes

section Outcomes

/-- A metric that is zero or one. -/
def isBinary (value : Json) : Bool :=
  pyEq value (.int 0) || pyEq value (.int 1)

/-- A metric that is required to be binary is. -/
lemma requireBinary_ok {sample : Json} {text : String} {metrics : List String}
    (ok : requireBinary sample text metrics = .ok ()) {metric : String} (mem : metric ∈ metrics) :
    ∃ value, sample.field metric = .ok value ∧ isBinary value = true := by
  induction metrics with
  | nil => cases mem
  | cons first rest ih =>
    simp only [requireBinary, bind_eq_ok, refuseIf_eq_ok, exists_const, Bool.not_eq_false'] at ok
    obtain ⟨value, eq, binary, others⟩ := ok
    rcases List.mem_cons.mp mem with rfl | mem
    · exact ⟨value, eq, binary⟩
    · exact ih others mem

/-- A binary value is a number. -/
lemma intOf_binary {value : Json} (binary : isBinary value = true) : ∃ n, intOf value = .ok n := by
  have exact : ∃ q, value.magnitude = some (.exact q) := by
    rcases (Bool.or_eq_true _ _).mp binary with zero | one
    · exact ⟨_, magnitude_of_pyEq_int zero⟩
    · exact ⟨_, magnitude_of_pyEq_int one⟩
  obtain ⟨q, magnitude⟩ := exact
  cases value with
  | bool b => exact ⟨_, rfl⟩
  | int n => exact ⟨_, rfl⟩
  | float x =>
    cases x with
    | finite d => exact ⟨_, rfl⟩
    | nan => cases magnitude
    | infinity negative => cases magnitude
  | null => cases magnitude
  | str s => cases magnitude
  | arr items => cases magnitude
  | obj fields => cases magnitude

/-- Two samples with as many outcomes in a metric. -/
def Alike (metric : String) (s t : Json) : Prop :=
  ∃ xs ys, sampleOutcomes metric s = .ok xs ∧ sampleOutcomes metric t = .ok ys ∧
    xs.length = ys.length ∧ xs ≠ []

/-- A metric of one value has one outcome. -/
lemma sampleOutcomes_single {sample value : Json} {metric : String}
    (single : metric ∉ instructionMetrics) (eq : sample.field metric = .ok value) {n : ℤ}
    (int : intOf value = .ok n) : sampleOutcomes metric sample = .ok [n] := by
  rw [sampleOutcomes, eq, lifted_ok, ok_bind, if_neg single, int]
  rfl

/-- Two samples with such values are alike. -/
lemma alike_of_single {s t v w : Json} {metric : String} (single : metric ∉ instructionMetrics)
    (eqS : s.field metric = .ok v) (eqT : t.field metric = .ok w) (intV : ∃ n, intOf v = .ok n)
    (intW : ∃ n, intOf w = .ok n) : Alike metric s t := by
  obtain ⟨n, intV⟩ := intV
  obtain ⟨m, intW⟩ := intW
  exact ⟨[n], [m], sampleOutcomes_single single eqS intV, sampleOutcomes_single single eqT intW, rfl,
    List.cons_ne_nil n []⟩

/-- Scores are binary. -/
lemma scoresOf_binary {sample : Json} {scores : List Json} (ok : scoresOf sample = .ok scores)
    {metric : String} (mem : metric ∈ scoringMetrics) :
    ∃ value, sample.field metric = .ok value ∧ isBinary value = true := by
  simp only [scoresOf, bind_eq_ok, refuseIf_eq_ok, exists_const] at ok
  obtain ⟨-, -, -, -, -, -, -, -, -, -, -, -, -, -, -, -, -, -, _, binary, -⟩ := ok
  exact requireBinary_ok binary mem

/-- Scored samples are alike. -/
lemma alike_of_scoring {s t : Json} (okS : validateScoringSample s = .ok ())
    (okT : validateScoringSample t = .ok ()) {metric : String} (mem : metric ∈ scoringMetrics) :
    Alike metric s t := by
  obtain ⟨scoresS, eqS, -⟩ := bind_eq_ok.mp okS
  obtain ⟨scoresT, eqT, -⟩ := bind_eq_ok.mp okT
  obtain ⟨v, fieldS, binaryV⟩ := scoresOf_binary (lifted_eq_ok.mp eqS) mem
  obtain ⟨w, fieldT, binaryW⟩ := scoresOf_binary (lifted_eq_ok.mp eqT) mem
  have single : metric ∉ instructionMetrics :=
    (by decide : ∀ metric ∈ scoringMetrics, metric ∉ instructionMetrics) metric mem
  exact alike_of_single single fieldS fieldT (intOf_binary binaryV) (intOf_binary binaryW)

/-- Documents with one text are one. -/
lemma document_of_hash (inj : Function.Injective env.sha256) {s t d e : Json} {sha : PyString}
    (docS : generationDocument env s = .ok d) (docT : generationDocument env t = .ok e)
    (hasS : HasHash s sha) (hasT : HasHash t sha) : d = e := by
  have text : ∀ {u document : Json}, generationDocument env u = .ok document → HasHash u sha →
      PyString.text (env.sha256 (render (.indented 2) 0 document)) = sha := by
    intro u document ok has
    simp only [generationDocument, bind_eq_ok, lifted_eq_ok, refuseIf_eq_ok, exists_const,
      Bool.not_eq_false'] at ok
    obtain ⟨document', -, -, -, text, textEq, hash, hashEq, same, eq⟩ := ok
    cases eq
    rw [has] at hashEq
    cases hashEq
    have encodes : text = render (.indented 2) 0 document := by
      rw [encoded] at textEq
      split at textEq
      · cases textEq
      · split at textEq
        · cases textEq
        · exact (Except.ok.inj textEq).symm
    rw [pyEq_str, Json.str.injEq] at same
    rw [← encodes, same]
  have same := (text docS hasS).trans (text docT hasT).symm
  rw [PyString.text.injEq] at same
  exact render_injective (.indented 2) (inj same)

/-- The outcomes of a generation sample: a list of booleans for the instructions, and one for the prompt. -/
lemma validateOutcomes_ok {sample : Json} {instructions : ℕ} {metrics : List (String × String)}
    (ok : validateOutcomes sample instructions metrics = .ok ()) {promptMetric instructionMetric : String}
    (mem : (promptMetric, instructionMetric) ∈ metrics) :
    ∃ followed b, sample.field instructionMetric = .ok (.arr followed) ∧
      followed.length = instructions ∧ (∀ outcome ∈ followed, isBool outcome = true) ∧
      sample.field promptMetric = .ok (.bool b) := by
  induction metrics with
  | nil => cases mem
  | cons first rest ih =>
    obtain ⟨p, i⟩ := first
    simp only [validateOutcomes, bind_eq_ok, refuseIf_eq_ok, exists_const] at ok
    obtain ⟨followed, followedEq, length, bools, prompt, promptEq, same, others⟩ := ok
    rcases List.mem_cons.mp mem with eq | mem
    · cases eq
      cases followed with
      | arr items =>
        rw [not_not.mp (of_decide_eq_false same)] at promptEq
        refine ⟨items, _, followedEq, ?_, ?_, promptEq⟩
        · exact not_not.mp (of_decide_eq_false (Bool.or_eq_false_iff.mp length).2)
        · simpa [Json.list?] using bools
      | _ => cases length
    · exact ih others mem

/-- A metric of some truth values has so many outcomes. -/
lemma sampleOutcomes_many {sample : Json} {followed : List Json} {metric : String}
    (many : metric ∈ instructionMetrics) (eq : sample.field metric = .ok (.arr followed))
    (bools : ∀ outcome ∈ followed, isBool outcome = true) :
    ∃ xs, sampleOutcomes metric sample = .ok xs ∧ xs.length = followed.length := by
  have ints : ∀ outcome ∈ followed, ∃ n, intOf outcome = .ok n := by
    intro outcome mem
    cases outcome with
    | bool b => exact ⟨_, rfl⟩
    | _ => cases bools _ mem
  refine ⟨followed.map fun outcome => (intOf outcome).toOption.getD 0, ?_, List.length_map _⟩
  · rw [sampleOutcomes, eq, lifted_ok, ok_bind, if_pos many, Json.members, lifted_ok, ok_bind]
    exact mapM_eq_ok 0 ints

/-- What a generation sample says of its instructions. -/
lemma validateGenerationSample_ok {sample : Json} (ok : validateGenerationSample env sample = .ok ()) :
    ∃ document list, generationDocument env sample = .ok document ∧
      document.field "instruction_id_list" = .ok list ∧ (list.list?.getD []).isEmpty = false ∧
      validateOutcomes sample (list.list?.getD []).length (promptMetrics.zip instructionMetrics) =
        .ok () := by
  simp only [validateGenerationSample, bind_eq_ok, lifted_eq_ok, refuseIf_eq_ok, exists_const] at ok
  obtain ⟨-, -, document, documentEq, -, -, -, replies⟩ := ok
  simp only [validateReplies, bind_eq_ok, refuseIf_eq_ok, exists_const] at replies
  obtain ⟨-, -, list, listEq, -, -, -, -, -, -, -, some, outcomes⟩ := replies
  exact ⟨document, list, documentEq, listEq, some, outcomes⟩

/-- Generated samples of one document are alike. -/
lemma alike_of_generation (inj : Function.Injective env.sha256) {s t : Json} {sha : PyString}
    (okS : validateGenerationSample env s = .ok ()) (okT : validateGenerationSample env t = .ok ())
    (hasS : HasHash s sha) (hasT : HasHash t sha) {metric : String}
    (mem : metric ∈ promptMetrics ++ instructionMetrics) : Alike metric s t := by
  obtain ⟨document, list, docS, listS, some, outcomesS⟩ := validateGenerationSample_ok okS
  obtain ⟨document', list', docT, listT, -, outcomesT⟩ := validateGenerationSample_ok okT
  -- one document, so one list of instructions
  have same : list = list' := by
    rw [document_of_hash inj docS docT hasS hasT, listT] at listS
    exact (Except.ok.inj listS).symm
  rw [← same] at outcomesT
  have paired : ∃ p i, (p, i) ∈ promptMetrics.zip instructionMetrics ∧ p ∉ instructionMetrics ∧
      i ∈ instructionMetrics ∧ (metric = p ∨ metric = i) := by
    simp only [promptMetrics, instructionMetrics, List.cons_append, List.nil_append, List.mem_cons,
      List.not_mem_nil, or_false] at mem
    rcases mem with rfl | rfl | rfl | rfl
    · exact ⟨_, "inst_level_strict_acc", by decide, by decide, by decide, .inl rfl⟩
    · exact ⟨_, "inst_level_loose_acc", by decide, by decide, by decide, .inl rfl⟩
    · exact ⟨"prompt_level_strict_acc", _, by decide, by decide, by decide, .inr rfl⟩
    · exact ⟨"prompt_level_loose_acc", _, by decide, by decide, by decide, .inr rfl⟩
  obtain ⟨p, i, pair, single, many, which⟩ := paired
  obtain ⟨followedS, b, manyS, lengthS, boolsS, singleS⟩ := validateOutcomes_ok outcomesS pair
  obtain ⟨followedT, c, manyT, lengthT, boolsT, singleT⟩ := validateOutcomes_ok outcomesT pair
  rcases which with rfl | rfl
  · exact alike_of_single single singleS singleT ⟨_, rfl⟩ ⟨_, rfl⟩
  · obtain ⟨xs, runS, lengthXs⟩ := sampleOutcomes_many many manyS boolsS
    obtain ⟨ys, runT, lengthYs⟩ := sampleOutcomes_many many manyT boolsT
    refine ⟨xs, ys, runS, runT, ?_, ?_⟩
    · rw [lengthXs, lengthYs, lengthS, lengthT]
    · rintro rfl
      rw [← lengthXs] at lengthS
      rw [List.isEmpty_eq_false_iff, ← List.length_pos_iff, ← lengthS] at some
      exact Nat.lt_irrefl 0 some

/-- Outcomes of samples that are alike are as many, and there are some if there are samples. -/
lemma flatOutcomes_ok {metric : String} {ss ts : List Json} (alike : List.Forall₂ (Alike metric) ss ts) :
    ∃ xs ys, flatOutcomes metric ss = .ok xs ∧ flatOutcomes metric ts = .ok ys ∧
      xs.length = ys.length ∧ (ss ≠ [] → xs ≠ []) := by
  induction alike with
  | nil => exact ⟨[], [], rfl, rfl, rfl, fun some => absurd rfl some⟩
  | @cons s t ss ts first _ ih =>
    obtain ⟨us, vs, runS, runT, length, some⟩ := first
    obtain ⟨xs, ys, runSs, runTs, length', -⟩ := ih
    refine ⟨us ++ xs, vs ++ ys, ?_, ?_, ?_, ?_⟩
    · rw [flatOutcomes, runS, ok_bind, runSs]
      rfl
    · rw [flatOutcomes, runT, ok_bind, runTs]
      rfl
    · rw [List.length_append, List.length_append, length, length']
    · intro _ eq
      exact some (List.append_eq_nil_iff.mp eq).1

end Outcomes

end Jaull.Evaluation
