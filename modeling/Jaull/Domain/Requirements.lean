import Mathlib.Data.Int.Notation
import Mathlib.Tactic.Common

/-!
# Requirements domain

Port of the part of `jaull/domain/requirements.py` that planning and ranking read. The throughput
limits, the assumptions and the search preferences of a request belong to other stages and are left
out.
-/

namespace Jaull.Domain

/-- What the model is for (Python `UseCase`). -/
inductive UseCase
  | generalChat | coding | documentQa | summarizationExtraction | reasoning | batchProcessing
  | writingTranslation
  deriving DecidableEq, Repr

/-- What the user ranks first (Python `RecommendationPriority`). -/
inductive RecommendationPriority
  | quality | balanced | speed | memory
  deriving DecidableEq, Repr

/-- The stored value of a priority (Python `RecommendationPriority.value`). -/
def RecommendationPriority.value : RecommendationPriority → String
  | .quality => "quality"
  | .balanced => "balanced"
  | .speed => "speed"
  | .memory => "memory"

/-- How requests reach the model (Python `WorkloadMode`). -/
inductive WorkloadMode
  | interactive | batch | service
  deriving DecidableEq, Repr

/-- Normalised answers of the user (Python `UserRequirements`). -/
structure UserRequirements where
  useCase : UseCase
  workloadMode : WorkloadMode := .interactive
  priority : RecommendationPriority
  languages : List String := []
  concurrentUsers : ℤ := 1
  desiredContext : ℤ
  commercialUseRequired : Option Bool := none
  deriving DecidableEq, Repr

/-- Whether commercial use is required outright (Python `commercial_use_required is True`). -/
def UserRequirements.commercial (requirements : UserRequirements) : Bool :=
  requirements.commercialUseRequired == some true

end Jaull.Domain
