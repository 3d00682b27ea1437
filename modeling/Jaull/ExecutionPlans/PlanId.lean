import Jaull.Domain.ExecutionPlans
import Jaull.Text.Slug

/-!
# Plan ids

Port of `_plan_id` of `jaull/execution_plans/service.py`. The parts of a plan are slugged and joined by
the dash a slug may itself hold, so an id does not tell where one part ends; `planId_eq_iff` says what it
does tell.
-/

namespace Jaull.ExecutionPlans
open Jaull.Domain Jaull.Text

/-- Whether the plan names the Vulkan backend in its id. -/
def onVulkan (selection : Option RuntimeBackendSelection) : Bool :=
  selection.any (·.selectedBackend = .vulkan)

/-- The parts of an id (the `parts` of Python `_plan_id`). CPU and native plans keep their historical
ids. -/
def planParts (artifact : ArtifactVariant) (runtime : RuntimeRecommendation)
    (selection : Option RuntimeBackendSelection) : List String :=
  [slug artifact.repoId,
    slug ((truthy artifact.filename).getD "repo"),
    artifact.format.value,
    ((truthy artifact.quantization).or (truthy artifact.precision)).getD "default",
    runtime.runtime.value] ++
  if onVulkan selection then ["vulkan"] else []

/-- Python `_plan_id`. -/
def planId (artifact : ArtifactVariant) (runtime : RuntimeRecommendation)
    (selection : Option RuntimeBackendSelection) : String :=
  "plan-" ++ "-".intercalate (((planParts artifact runtime selection).filter (· ≠ "")).map slug)

/-- What an id says of the artifact: the slugs of its repository, its file, its format and its
quantization or precision. -/
def artifactSlugs (artifact : ArtifactVariant) : List String :=
  [slug artifact.repoId,
    slug ((truthy artifact.filename).getD "repo"),
    slug artifact.format.value,
    slug (((truthy artifact.quantization).or (truthy artifact.precision)).getD "default")]

/-- What an id says of the runtime and of the backend, at its end. -/
def ending (runtime : RuntimeName) (vulkan : Bool) : String :=
  "-" ++ slug runtime.value ++ if vulkan then "-vulkan" else ""

/-- A slug is never empty. -/
lemma slug_ne_empty (value : String) : slug value ≠ "" := by
  intro empty
  apply (slug_isSlug value).ne_nil
  rw [empty]
  rfl

/-- A truthy text is not empty. -/
lemma truthy_ne_empty {text : Option String} {text' : String} (kept : truthy text = some text') :
    text' ≠ "" := by
  rw [truthy, Option.filter_eq_some_iff] at kept
  exact of_decide_eq_true kept.2

/-- No part of an id is empty. -/
lemma planParts_ne_empty {artifact runtime selection} :
    ∀ part ∈ planParts artifact runtime selection, part ≠ "" := by
  intro part mem
  rw [planParts] at mem
  rcases List.mem_append.mp mem with mem | mem
  · have weights : ((truthy artifact.quantization).or (truthy artifact.precision)).getD "default" ≠
        "" := by
      cases quantization : truthy artifact.quantization with
      | some text => exact truthy_ne_empty quantization
      | none =>
        cases precision : truthy artifact.precision with
        | some text => exact truthy_ne_empty precision
        | none => exact (by decide : "default" ≠ "")
    have format : artifact.format.value ≠ "" := by
      cases artifact.format <;> decide
    have named : runtime.runtime.value ≠ "" := by
      cases runtime.runtime <;> decide
    simp only [List.mem_cons, List.not_mem_nil, or_false] at mem
    rcases mem with eq | eq | eq | eq | eq
    · rw [eq]
      exact slug_ne_empty _
    · rw [eq]
      exact slug_ne_empty _
    · rw [eq]
      exact format
    · rw [eq]
      exact weights
    · rw [eq]
      exact named
  · split at mem
    case isTrue =>
      rw [List.mem_singleton.mp mem]
      decide
    case isFalse => cases mem

/-- An id is the artifact's slugs, joined, and the ending. -/
lemma planId_eq {artifact runtime selection} :
    planId artifact runtime selection =
      "plan-" ++ "-".intercalate (artifactSlugs artifact) ++
        ending runtime.runtime (onVulkan selection) := by
  have kept : (planParts artifact runtime selection).filter (· ≠ "") =
      planParts artifact runtime selection := by
    apply List.filter_eq_self.mpr
    intro part mem
    exact decide_eq_true (planParts_ne_empty part mem)
  have slugs : (planParts artifact runtime selection).map slug =
      artifactSlugs artifact ++ slug runtime.runtime.value ::
        if onVulkan selection then ["vulkan"] else [] := by
    have vulkan : slug "vulkan" = "vulkan" := by decide +kernel
    rw [planParts, artifactSlugs]
    cases onVulkan selection
    · simp only [List.map_cons, List.map_nil, slug_slug, List.cons_append, List.nil_append,
        Bool.false_eq_true, if_false]
    · simp only [List.map_cons, List.map_nil, slug_slug, List.cons_append, List.nil_append,
        if_true, vulkan]
  have some : artifactSlugs artifact ≠ [] := List.cons_ne_nil _ _
  rw [planId, kept, slugs, ending,
    String.intercalate_append_of_ne_nil some (List.cons_ne_nil _ _)]
  cases onVulkan selection <;> simp [String.append_assoc]

/-- The runtimes as an id spells them. -/
lemma slug_runtime (runtime : RuntimeName) :
    slug runtime.value =
      match runtime with
      | .llamaCpp => "llama-cpp"
      | .transformers => "transformers"
      | .vllm => "vllm"
      | .unknown => "unknown" := by
  cases runtime <;> decide +kernel

/-- No ending is the end of another. -/
lemma ending_eq_of_suffix {runtime runtime' vulkan vulkan'}
    (suffix : (ending runtime vulkan).toList <:+ (ending runtime' vulkan').toList) :
    runtime = runtime' ∧ vulkan = vulkan' := by
  rw [ending, ending, slug_runtime, slug_runtime] at suffix
  cases runtime <;> cases runtime' <;> cases vulkan <;> cases vulkan'
  all_goals
    revert suffix
    decide +kernel

/-- The joined slugs with one of them singled out. -/
lemma intercalate_split (before after : List String) (part : String) :
    "-".intercalate (before ++ part :: after) =
      (if before = [] then "" else "-".intercalate before ++ "-") ++ part ++
        if after = [] then "" else "-" ++ "-".intercalate after := by
  have rest : "-".intercalate (part :: after) =
      part ++ if after = [] then "" else "-" ++ "-".intercalate after := by
    split
    case isTrue none => simp [none]
    case isFalse ne => rw [String.intercalate_cons_of_ne_nil ne, String.append_assoc]
  split
  case isTrue none => rw [none, List.nil_append, rest, String.empty_append]
  case isFalse ne =>
    rw [String.intercalate_append_of_ne_nil ne (List.cons_ne_nil _ _), rest, String.append_assoc,
      String.append_assoc, String.append_assoc]

/-- Two plans share an id exactly when they share the runtime, Vulkan or not, and the joined text of the
artifact's slugs. So they never share one when a single slug tells them apart. -/
theorem planId_eq_iff (artifact artifact' : ArtifactVariant)
    (runtime runtime' : RuntimeRecommendation)
    (selection selection' : Option RuntimeBackendSelection) :
    (planId artifact runtime selection = planId artifact' runtime' selection' ↔
      runtime.runtime = runtime'.runtime ∧ onVulkan selection = onVulkan selection' ∧
        "-".intercalate (artifactSlugs artifact) = "-".intercalate (artifactSlugs artifact')) ∧
    ∀ before part part' after, artifactSlugs artifact = before ++ part :: after →
      artifactSlugs artifact' = before ++ part' :: after → part ≠ part' →
      planId artifact runtime selection ≠ planId artifact' runtime' selection' := by
  have told : planId artifact runtime selection = planId artifact' runtime' selection' →
      runtime.runtime = runtime'.runtime ∧ onVulkan selection = onVulkan selection' ∧
        "-".intercalate (artifactSlugs artifact) = "-".intercalate (artifactSlugs artifact') := by
    intro same
    rw [planId_eq, planId_eq, String.append_assoc, String.append_assoc] at same
    have same := congrArg String.toList ((String.append_right_inj _).mp same)
    rw [String.toList_append, String.toList_append] at same
    -- both endings end one text, so one ends the other
    have ends : (ending runtime.runtime (onVulkan selection)).toList <:+
        (ending runtime'.runtime (onVulkan selection')).toList ∨
        (ending runtime'.runtime (onVulkan selection')).toList <:+
        (ending runtime.runtime (onVulkan selection)).toList :=
      List.suffix_or_suffix_of_suffix ⟨_, same⟩ (List.suffix_append _ _)
    have agree : runtime.runtime = runtime'.runtime ∧ onVulkan selection = onVulkan selection' := by
      rcases ends with ends | ends
      · exact ending_eq_of_suffix ends
      · obtain ⟨runtimes, backends⟩ := ending_eq_of_suffix ends
        exact ⟨runtimes.symm, backends.symm⟩
    obtain ⟨runtimes, backends⟩ := agree
    rw [runtimes, backends] at same
    exact ⟨runtimes, backends, String.toList_inj.mp (List.append_cancel_right same)⟩
  refine ⟨⟨told, ?_⟩, ?_⟩
  · rintro ⟨runtimes, backends, texts⟩
    rw [planId_eq, planId_eq, runtimes, backends, texts]
  · intro before part part' after eq eq' ne same
    obtain ⟨_, _, texts⟩ := told same
    rw [eq, eq', intercalate_split, intercalate_split] at texts
    exact ne ((String.append_right_inj _).mp ((String.append_left_inj _).mp texts))

/-- Plans of one artifact on the CPU and on CUDA share an id, and so do plans of two repositories whose
names differ in case and punctuation alone. -/
theorem planId_clashes :
    let artifact (repoId : String) : ArtifactVariant :=
      { modelIdentity := { modelName := "Model" }
        repoId := repoId
        format := .gguf
        filename := some "model-Q4_K_M.gguf"
        quantization := some "Q4_K_M" }
    let runtime : RuntimeRecommendation := { runtime := .llamaCpp, confidence := .high }
    let on (backend : ComputeBackend) : Option RuntimeBackendSelection :=
      some { selectedBackend := backend, reason := .nativeBackendAvailable }
    planId (artifact "acme/Model-7B") runtime (on .cpu) =
        planId (artifact "acme/Model-7B") runtime (on .cuda) ∧
      planId (artifact "acme/Model-7B") runtime (on .cuda) =
        planId (artifact "acme/model_7b") runtime (on .cuda) := by
  decide +kernel

end Jaull.ExecutionPlans
