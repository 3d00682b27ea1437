import Jaull.Domain.ExecutionPlans
import Jaull.Domain.Hardware
import Jaull.Lib.SlotMerge
import Jaull.Text.Case
import Mathlib.Data.Finset.Card
import Mathlib.Data.List.Basic

/-!
# Merging accelerators

Port of the merging of `jaull/hardware/detector.py`: what one probe reports is merged into what the probes
before it found. Both the accelerators and the backends of one accelerator are merged slot by slot.
-/

namespace Jaull.Hardware
open Jaull.Domain Jaull.Lib Jaull.Text

section Names

/-- The runs of characters that satisfy a predicate. -/
def runsOf (p : Char → Bool) (text : String) : List String :=
  ((text.toList.splitOnP (!p ·)).filter (· ≠ [])).map String.ofList

/-- Python `_normalized_name`. -/
def normalizedName (name : String) : String :=
  " ".intercalate (runsOf (!isSpace ·) (casefold name))

/-- A small ASCII letter or a digit. -/
def isTokenChar (c : Char) : Bool :=
  isAsciiLower c || ('0' ≤ c && c ≤ '9')

/-- Python `_device_tokens`. -/
def deviceTokens (name : String) : Finset String :=
  (runsOf isTokenChar (casefold name)).toFinset \
    {"nvidia", "geforce", "amd", "intel", "graphics", "tm"}

/-- Python `_likely_same_device_name`. -/
def likelySameDeviceName (left right : String) : Bool :=
  let leftTokens := deviceTokens left
  let rightTokens := deviceTokens right
  let overlap := leftTokens ∩ rightTokens
  leftTokens ≠ ∅ && rightTokens ≠ ∅ && 2 ≤ overlap.card &&
    ((∃ token ∈ overlap, token.toList.all Char.isDigit) || overlap = leftTokens ||
      overlap = rightTokens)

/-- The name of one device is, contains or shares its telling parts with that of the other. -/
def sameName (existing candidate : String) : Bool :=
  existing = candidate ||
    (existing ≠ "" && candidate ≠ "" &&
      (existing.toList <:+: candidate.toList || candidate.toList <:+: existing.toList)) ||
    likelySameDeviceName existing candidate

end Names

section Backends

/-- Python `_availability_rank`. -/
def availabilityRank : BackendAvailability → ℕ
  | .available => 3
  | .unavailable => 2
  | .unknown => 1

/-- Python `_stronger_backend`. -/
def strongerBackend (current candidate : ComputeBackendInfo) : ComputeBackendInfo :=
  if availabilityRank current.availability < availabilityRank candidate.availability then candidate
  else if availabilityRank candidate.availability < availabilityRank current.availability then current
  else if candidate.softwareRenderer && !current.softwareRenderer then candidate
  else if (truthy candidate.detail).isSome && (truthy current.detail).isNone then candidate
  else current

/-- A report on a backend is merged into the first entry of that backend. -/
def backendMerge : SlotMerge ComputeBackendInfo ComputeBackendInfo where
  find merged addition := merged.findIdx? (·.backend = addition.backend)
  update := strongerBackend
  fresh addition := addition
  find_lt found := (List.findIdx?_eq_some_iff_getElem.mp found).1

/-- Python `_merge_backends`. -/
def mergeBackends (existing additions : List ComputeBackendInfo) : List ComputeBackendInfo :=
  backendMerge.mergeAll existing additions

end Backends

section Accelerators

/-- Python `_merge_sources`. -/
def mergeSources (left right : List String) : List String :=
  (left ++ right).eraseDups

/-- Two identifiers that are there and equal. -/
def sameIdentifier (left right : Option String) : Bool :=
  (truthy left).isSome && left = right

/-- Python `_same_stable_identity`. -/
def sameStableIdentity (existing candidate : AcceleratorProfile) : Bool :=
  sameIdentifier existing.uuid candidate.uuid || sameIdentifier existing.pciBusId candidate.pciBusId ||
    (existing.vendor = candidate.vendor && existing.vendorId.isSome &&
      existing.vendorId = candidate.vendorId && existing.deviceId.isSome &&
      existing.deviceId = candidate.deviceId &&
      normalizedName existing.name = normalizedName candidate.name)

/-- What the second loop of Python `_matching_accelerator_index` asks of an entry. -/
def similarAccelerator (existing candidate : AcceleratorProfile) : Bool :=
  existing.vendor = candidate.vendor &&
    sameName (normalizedName existing.name) (normalizedName candidate.name)

/-- The entries that a candidate is similar to. -/
def similarIndexes (accelerators : List AcceleratorProfile) (candidate : AcceleratorProfile) : List ℕ :=
  (List.range accelerators.length).filter fun index =>
    accelerators[index]?.any (similarAccelerator · candidate)

/-- Python `_matching_accelerator_index`. -/
def matchingAcceleratorIndex (accelerators : List AcceleratorProfile) (candidate : AcceleratorProfile) :
    Option ℕ :=
  match accelerators.findIdx? (sameStableIdentity · candidate) with
  | some index => some index
  | none =>
    match similarIndexes accelerators candidate with
    | [index] => some index
    | _ => none

/-- Python `existing or addition` of an optional text. -/
def orElse (existing addition : Option String) : Option String :=
  (truthy existing).or addition

/-- What an entry becomes when an addition is merged into it. -/
def enrich (existing addition : AcceleratorProfile) : AcceleratorProfile :=
  { existing with
    uuid := orElse existing.uuid addition.uuid
    pciBusId := orElse existing.pciBusId addition.pciBusId
    vendorId := orElse existing.vendorId addition.vendorId
    deviceId := orElse existing.deviceId addition.deviceId
    detectionSources := mergeSources existing.detectionSources addition.detectionSources
    backends := mergeBackends existing.backends addition.backends }

/-- An entry is recognised as the one of an addition: it is the first of the same stable identity, or none
has that identity and it is the only one that is similar. -/
def RecognisedAs (accelerators : List AcceleratorProfile) (index : ℕ) (candidate : AcceleratorProfile) :
    Prop :=
  (∃ existing, accelerators[index]? = some existing ∧ sameStableIdentity existing candidate ∧
    ∀ earlier < index, ¬ accelerators[earlier]?.any (sameStableIdentity · candidate)) ∨
  ((∀ other ∈ accelerators, ¬ sameStableIdentity other candidate) ∧
    (∃ existing, accelerators[index]? = some existing ∧ similarAccelerator existing candidate) ∧
    ∀ other, accelerators[other]?.any (similarAccelerator · candidate) → other = index)

/-- The indexes of the similar entries. -/
lemma mem_similarIndexes {accelerators : List AcceleratorProfile} {candidate : AcceleratorProfile}
    {index : ℕ} : index ∈ similarIndexes accelerators candidate ↔
      accelerators[index]?.any (similarAccelerator · candidate) := by
  rw [similarIndexes, List.mem_filter, List.mem_range]
  constructor
  · intro both
    exact both.2
  · intro similar
    refine ⟨?_, similar⟩
    by_contra beyond
    rw [List.getElem?_eq_none (not_lt.mp beyond)] at similar
    cases similar

lemma similarIndexes_nodup (accelerators : List AcceleratorProfile) (candidate : AcceleratorProfile) :
    (similarIndexes accelerators candidate).Nodup :=
  List.nodup_range.filter _

/-- A list without repetition whose only member is `a`. -/
lemma singleton_of_nodup {α : Type} {l : List α} {a : α} (nodup : l.Nodup) (mem : a ∈ l)
    (all : ∀ b ∈ l, b = a) : l = [a] := by
  cases l with
  | nil => cases mem
  | cons b rest =>
    have first := all b List.mem_cons_self
    cases rest with
    | nil => rw [first]
    | cons c rest =>
      have second := all c (List.mem_cons_of_mem b List.mem_cons_self)
      rw [List.nodup_cons] at nodup
      exact absurd (first.trans second.symm ▸ List.mem_cons_self) nodup.1

/-- What the matching of an addition finds. -/
theorem matchingAcceleratorIndex_eq_some_iff {accelerators : List AcceleratorProfile}
    {candidate : AcceleratorProfile} {index : ℕ} :
    matchingAcceleratorIndex accelerators candidate = some index ↔
      RecognisedAs accelerators index candidate := by
  rw [matchingAcceleratorIndex]
  cases stable : accelerators.findIdx? (sameStableIdentity · candidate) with
  | some first =>
    obtain ⟨lt, same, before⟩ := List.findIdx?_eq_some_iff_getElem.mp stable
    constructor
    · intro eq
      have found : first = index := Option.some.inj eq
      subst found
      refine .inl ⟨accelerators[first], List.getElem?_eq_getElem lt, same, ?_⟩
      intro earlier earlierLt
      rw [List.getElem?_eq_getElem (earlierLt.trans lt)]
      exact before earlier earlierLt
    · rintro (⟨existing, there, same', before'⟩ | ⟨none, _⟩)
      · obtain ⟨lt', eq⟩ := List.getElem?_eq_some_iff.mp there
        -- only the first entry with the identity is found
        rcases lt_trichotomy first index with less | rfl | more
        · have stays := before' first less
          rw [List.getElem?_eq_getElem lt] at stays
          exact absurd same stays
        · rfl
        · rw [← eq] at same'
          exact absurd same' (before index more)
      · exact absurd same (none _ (List.getElem_mem lt))
  | none =>
    -- no identity is shared, so the one similar entry decides
    have unstable : ∀ other ∈ accelerators, ¬ sameStableIdentity other candidate := by
      intro other mem same
      rw [List.findIdx?_eq_none_iff] at stable
      have differs := stable other mem
      rw [same] at differs
      cases differs
    have only : (∀ other, accelerators[other]?.any (similarAccelerator · candidate) → other = index) ↔
        ∀ other ∈ similarIndexes accelerators candidate, other = index :=
      forall_congr' fun other => by rw [mem_similarIndexes]
    have there : (∃ existing, accelerators[index]? = some existing ∧
        similarAccelerator existing candidate) ↔ index ∈ similarIndexes accelerators candidate := by
      rw [mem_similarIndexes, Option.any_eq_true]
    rw [RecognisedAs, and_iff_right unstable, there, only]
    have nodup := similarIndexes_nodup accelerators candidate
    constructor
    · intro eq
      dsimp only at eq
      split at eq
      · rename_i found single
        have same : found = index := Option.some.inj eq
        rw [single, same]
        exact .inr ⟨List.mem_singleton_self _, fun other mem => List.mem_singleton.mp mem⟩
      · cases eq
    · rintro (⟨existing, there', same, _⟩ | ⟨mem, all⟩)
      · exact absurd same (unstable existing (List.mem_of_getElem? there'))
      · rw [singleton_of_nodup nodup mem all]

/-- An addition is merged into the entry that it is recognised as. -/
def acceleratorMerge : SlotMerge AcceleratorProfile AcceleratorProfile where
  find := matchingAcceleratorIndex
  update := enrich
  fresh addition := addition
  find_lt := by
    intro accelerators candidate index found
    rcases matchingAcceleratorIndex_eq_some_iff.mp found with ⟨_, there, _⟩ | ⟨_, ⟨_, there, _⟩, _⟩
    · exact (List.getElem?_eq_some_iff.mp there).1
    · exact (List.getElem?_eq_some_iff.mp there).1

/-- Python `merge_accelerators`. -/
def mergeAccelerators (base additions : List AcceleratorProfile) : List AcceleratorProfile :=
  acceleratorMerge.mergeAll base additions

end Accelerators

end Jaull.Hardware
