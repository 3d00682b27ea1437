import Jaull.Hardware.Detector

/-!
# Merging without losing a device

A merge keeps what is known of a device and never weakens what a probe said of a backend. It keeps the
devices of one probe apart exactly where none of them is recognised as the entry of an earlier one: the list
that an addition is matched against holds the earlier additions of the same probe, so a second card of one
model is folded into the first.
-/

namespace Jaull.Hardware
open Jaull.Domain Jaull.Lib Jaull.Text

section Backends
variable {current candidate report : ComputeBackendInfo} {existing additions : List ComputeBackendInfo}

/-- An entry says at least as much for its backend as a report did. -/
def AtLeast (report info : ComputeBackendInfo) : Prop :=
  info.backend = report.backend ∧
    availabilityRank report.availability ≤ availabilityRank info.availability

/-- Some entry says at least as much as a report did. -/
def Covers (entries : List ComputeBackendInfo) (report : ComputeBackendInfo) : Prop :=
  ∃ info ∈ entries, AtLeast report info

lemma AtLeast.refl (report : ComputeBackendInfo) : AtLeast report report :=
  ⟨rfl, le_refl _⟩

lemma AtLeast.trans (a b c : ComputeBackendInfo) (first : AtLeast a b) (second : AtLeast b c) :
    AtLeast a c :=
  ⟨second.1.trans first.1, first.2.trans second.2⟩

/-- The stronger of two reports on one backend says at least as much as both. -/
lemma strongerBackend_atLeast (same : current.backend = candidate.backend) :
    AtLeast current (strongerBackend current candidate) ∧
      AtLeast candidate (strongerBackend current candidate) := by
  rw [strongerBackend]
  split
  · rename_i less
    exact ⟨⟨same.symm, less.le⟩, .refl _⟩
  · rename_i notLess
    split
    · rename_i more
      exact ⟨.refl _, ⟨same, more.le⟩⟩
    · rename_i notMore
      have equal := le_antisymm (not_lt.mp notLess) (not_lt.mp notMore)
      split
      · exact ⟨⟨same.symm, equal.ge⟩, .refl _⟩
      · split
        · exact ⟨⟨same.symm, equal.ge⟩, .refl _⟩
        · exact ⟨.refl _, ⟨same, equal.le⟩⟩

/-- A report is merged into the one of its backend. -/
lemma backendMerge_step (merged : List ComputeBackendInfo) (addition : ComputeBackendInfo) (i : ℕ)
    (current : ComputeBackendInfo) (found : backendMerge.find merged addition = some i)
    (there : merged[i]? = some current) : current.backend = addition.backend := by
  obtain ⟨lt, same, _⟩ := List.findIdx?_eq_some_iff_getElem.mp found
  obtain ⟨_, eq⟩ := List.getElem?_eq_some_iff.mp there
  rw [← eq]
  exact of_decide_eq_true same

/-- What was known of a backend stays covered. -/
lemma mergeBackends_covers_existing (known : report ∈ existing) :
    Covers (mergeBackends existing additions) report := by
  obtain ⟨i, lt, eq⟩ := List.mem_iff_getElem.mp known
  have there : existing[i]? = some report := by
    rw [List.getElem?_eq_getElem lt, eq]
  obtain ⟨info, last, atLeast⟩ : ∃ info, (backendMerge.mergeAll existing additions)[i]? = some info ∧
      AtLeast report info := by
    apply SlotMerge.mergeAll_keeps AtLeast.refl ?_ AtLeast.trans there
    intro merged addition i current found there
    exact (strongerBackend_atLeast (backendMerge_step merged addition i current found there)).1
  exact ⟨info, List.mem_of_getElem? last, atLeast⟩

/-- What an addition says of a backend becomes covered. -/
lemma mergeBackends_covers_addition (reported : report ∈ additions) :
    Covers (mergeBackends existing additions) report := by
  obtain ⟨k, lt, eq⟩ := List.mem_iff_getElem.mp reported
  have there : additions[k]? = some report := by
    rw [List.getElem?_eq_getElem lt, eq]
  have lt' : k < (backendMerge.places existing additions).length := by
    rw [SlotMerge.places_length]
    exact lt
  obtain ⟨info, last, atLeast⟩ : ∃ info, (backendMerge.mergeAll existing additions)[
      (backendMerge.places existing additions)[k]]? = some info ∧ AtLeast report info := by
    apply SlotMerge.mergeAll_reflects (S := fun info report => AtLeast report info) AtLeast.refl ?_
      AtLeast.trans AtLeast.refl ?_ ?_ there (List.getElem?_eq_getElem lt')
    · intro merged addition i current found there
      exact (strongerBackend_atLeast (backendMerge_step merged addition i current found there)).1
    · intro merged addition i current found there
      exact (strongerBackend_atLeast (backendMerge_step merged addition i current found there)).2
    · intro info info' report more atLeast
      exact AtLeast.trans report info info' atLeast more
  exact ⟨info, List.mem_of_getElem? last, atLeast⟩

end Backends

section Accelerators
variable {base additions merged : List AcceleratorProfile} {card card' : AcceleratorProfile}

/-- A known identifier is kept. -/
def KeepsText (before after : Option String) : Prop :=
  ∀ text, text ≠ "" → before = some text → after = some text

/-- What is kept of an entry. -/
structure KeptAs (entry entry' : AcceleratorProfile) : Prop where
  name : entry'.name = entry.name
  vendor : entry'.vendor = entry.vendor
  type : entry'.type = entry.type
  dedicated : entry'.dedicatedMemoryBytes = entry.dedicatedMemoryBytes
  available : entry'.availableMemoryBytes = entry.availableMemoryBytes
  shared : entry'.sharedMemory = entry.sharedMemory
  uuid : KeepsText entry.uuid entry'.uuid
  pciBusId : KeepsText entry.pciBusId entry'.pciBusId
  vendorId : KeepsText entry.vendorId entry'.vendorId
  deviceId : KeepsText entry.deviceId entry'.deviceId
  backends : ∀ report ∈ entry.backends, Covers entry'.backends report

/-- An entry covers what a report says of its backends. -/
def Reflects (entry report : AcceleratorProfile) : Prop :=
  ∀ info ∈ report.backends, Covers entry.backends info

/-- A text that is there stays. -/
lemma keepsText_orElse (existing addition : Option String) :
    KeepsText existing (orElse existing addition) := by
  intro text nonempty eq
  have kept : truthy existing = some text := by
    rw [eq, truthy]
    exact Option.filter_some_pos (decide_eq_true nonempty)
  rw [orElse, kept, Option.some_or]

/-- And stays. -/
lemma KeepsText.trans {a b c : Option String} (first : KeepsText a b) (second : KeepsText b c) :
    KeepsText a c := by
  intro text nonempty eq
  exact second text nonempty (first text nonempty eq)

/-- What covers all entries covers what they cover. -/
lemma Covers.trans {entries entries' : List ComputeBackendInfo} {report : ComputeBackendInfo}
    (covers : Covers entries report) (all : ∀ info ∈ entries, Covers entries' info) :
    Covers entries' report := by
  obtain ⟨info, mem, atLeast⟩ := covers
  obtain ⟨info', mem', more⟩ := all info mem
  exact ⟨info', mem', AtLeast.trans report info info' atLeast more⟩

/-- Entries cover themselves. -/
lemma covers_of_mem {entries : List ComputeBackendInfo} :
    ∀ report ∈ entries, Covers entries report :=
  fun report mem => ⟨report, mem, .refl report⟩

lemma KeptAs.refl (entry : AcceleratorProfile) : KeptAs entry entry :=
  ⟨rfl, rfl, rfl, rfl, rfl, rfl, fun _ _ eq => eq, fun _ _ eq => eq, fun _ _ eq => eq,
    fun _ _ eq => eq, covers_of_mem⟩

/-- What is kept twice is kept. -/
lemma KeptAs.trans (a b c : AcceleratorProfile) (first : KeptAs a b) (second : KeptAs b c) :
    KeptAs a c where
  name := second.name.trans first.name
  vendor := second.vendor.trans first.vendor
  type := second.type.trans first.type
  dedicated := second.dedicated.trans first.dedicated
  available := second.available.trans first.available
  shared := second.shared.trans first.shared
  uuid := first.uuid.trans second.uuid
  pciBusId := first.pciBusId.trans second.pciBusId
  vendorId := first.vendorId.trans second.vendorId
  deviceId := first.deviceId.trans second.deviceId
  backends report mem := (first.backends report mem).trans second.backends

/-- Merging an addition into an entry keeps the entry. -/
lemma keptAs_enrich (existing addition : AcceleratorProfile) : KeptAs existing (enrich existing addition) where
  name := rfl
  vendor := rfl
  type := rfl
  dedicated := rfl
  available := rfl
  shared := rfl
  uuid := keepsText_orElse _ _
  pciBusId := keepsText_orElse _ _
  vendorId := keepsText_orElse _ _
  deviceId := keepsText_orElse _ _
  backends _ mem := mergeBackends_covers_existing mem

/-- An entry that was enriched reflects the addition. -/
lemma reflects_enrich (existing addition : AcceleratorProfile) :
    Reflects (enrich existing addition) addition :=
  fun _ mem => mergeBackends_covers_addition mem

/-- A merge loses nothing: the devices of the probe go to different entries, every entry of the base is kept
in its place, and every entry covers what was reported of it. -/
structure MergesApart (base additions : List AcceleratorProfile) : Prop where
  injective : (acceleratorMerge.places base additions).Nodup
  kept : ∀ (i : ℕ) entry, base[i]? = some entry →
    ∃ entry', (mergeAccelerators base additions)[i]? = some entry' ∧ KeptAs entry entry'
  reflected : ∀ (k : ℕ) place addition, (acceleratorMerge.places base additions)[k]? = some place →
    additions[k]? = some addition →
      ∃ entry, (mergeAccelerators base additions)[place]? = some entry ∧ Reflects entry addition

/-- At its turn, no addition is recognised as an entry that is taken or that an earlier addition went to. -/
def Distinguished : List AcceleratorProfile → List ℕ → List AcceleratorProfile → Prop
  | _, _, [] => True
  | merged, taken, addition :: rest =>
    (∀ i ∈ taken, ¬ RecognisedAs merged i addition) ∧
      Distinguished (acceleratorMerge.merge merged addition)
        (acceleratorMerge.place merged addition :: taken) rest

/-- Additions are distinguished when they go to different places. -/
lemma distinguished_iff_apart {taken : List ℕ} :
    Distinguished merged taken additions ↔ acceleratorMerge.Apart merged taken additions := by
  induction additions generalizing merged taken with
  | nil => exact Iff.rfl
  | cons addition rest ih =>
    rw [Distinguished, SlotMerge.Apart, ih]
    apply and_congr_left'
    apply forall₂_congr
    intro i _
    exact not_congr matchingAcceleratorIndex_eq_some_iff.symm

/-- Two descriptions that a merge may take for those of one device. -/
def Alike (entry addition : AcceleratorProfile) : Prop :=
  sameStableIdentity entry addition = true ∨ similarAccelerator entry addition = true

/-- What an addition is recognised as is like it. -/
lemma RecognisedAs.alike {i : ℕ} (recognised : RecognisedAs merged i card') (there : merged[i]? = some card) :
    Alike card card' := by
  rcases recognised with ⟨entry, own, same, _⟩ | ⟨_, ⟨entry, own, similar⟩, _⟩
  · rw [there] at own
    cases own
    exact .inl same
  · rw [there] at own
    cases own
    exact .inr similar

/-- Devices of one vendor and one name are similar. -/
lemma similarAccelerator_of_name (vendor : card.vendor = card'.vendor)
    (name : normalizedName card.name = normalizedName card'.name) : similarAccelerator card card' = true := by
  rw [similarAccelerator, sameName, decide_eq_true vendor, decide_eq_true name, Bool.true_or, Bool.true_or,
    Bool.and_true]

/-- An identifier of a merged entry is one of the two. -/
lemma sameIdentifier_orElse {existing addition other : Option String}
    (same : sameIdentifier (orElse existing addition) other = true) :
    sameIdentifier existing other = true ∨ sameIdentifier addition other = true := by
  rw [orElse] at same
  cases known : truthy existing with
  | none =>
    rw [known, Option.none_or] at same
    exact .inr same
  | some text =>
    obtain ⟨own, _⟩ := Option.filter_eq_some_iff.mp known
    rw [known, Option.some_or, ← own] at same
    exact .inl same

/-- What is like a merged entry is like the entry before or like the addition: the merge puts identifiers together, and
keeps the vendor and the name. -/
lemma Alike.of_enrich {entry addition other : AcceleratorProfile} (alike : Alike (enrich entry addition) other) :
    Alike entry other ∨ Alike addition other := by
  rcases alike with same | similar
  · rw [sameStableIdentity, Bool.or_eq_true, Bool.or_eq_true] at same
    rcases same with (uuid | bus) | ids
    · rcases sameIdentifier_orElse uuid with own | own
      · exact .inl (.inl (by rw [sameStableIdentity, own, Bool.true_or, Bool.true_or]))
      · exact .inr (.inl (by rw [sameStableIdentity, own, Bool.true_or, Bool.true_or]))
    · rcases sameIdentifier_orElse bus with own | own
      · exact .inl (.inl (by rw [sameStableIdentity, own, Bool.or_true, Bool.true_or]))
      · exact .inr (.inl (by rw [sameStableIdentity, own, Bool.or_true, Bool.true_or]))
    · simp only [Bool.and_eq_true, decide_eq_true_eq] at ids
      obtain ⟨⟨⟨⟨⟨vendor, _⟩, _⟩, _⟩, _⟩, name⟩ := ids
      exact .inl (.inr (similarAccelerator_of_name vendor name))
  · exact .inl (.inr similar)

/-- What the probes say tells the additions apart: no two of them are alike, and no two are like one entry of the
base. -/
structure ToldApart (base additions : List AcceleratorProfile) : Prop where
  unlike : additions.Pairwise fun a b => ¬ Alike a b
  single : ∀ entry ∈ base, additions.Pairwise fun a b => ¬ (Alike entry a ∧ Alike entry b)

/-- Additions that are told apart go to different entries. -/
lemma ToldApart.distinguished (told : ToldApart base additions) : Distinguished base [] additions := by
  rw [distinguished_iff_apart]
  refine SlotMerge.apart_of_told ?_ (fun _ _ _ => Alike.of_enrich) (fun _ _ alike => alike) told.unlike told.single ?_
  · intro accelerators addition i entry found there
    exact (matchingAcceleratorIndex_eq_some_iff.mp found).alike there
  · intro i mem
    cases mem

/-- Every entry of the base stays in its place and is kept. -/
lemma mergeAccelerators_kept {i : ℕ} (there : base[i]? = some card) :
    ∃ entry, (mergeAccelerators base additions)[i]? = some entry ∧ KeptAs card entry :=
  SlotMerge.mergeAll_keeps KeptAs.refl (fun _ addition _ entry _ _ => keptAs_enrich entry addition)
    KeptAs.trans there

/-- The entry that an addition goes to covers what it says. -/
lemma mergeAccelerators_reflected {k place : ℕ}
    (goes : (acceleratorMerge.places base additions)[k]? = some place)
    (there : additions[k]? = some card) :
    ∃ entry, (mergeAccelerators base additions)[place]? = some entry ∧ Reflects entry card := by
  apply SlotMerge.mergeAll_reflects KeptAs.refl ?_ KeptAs.trans ?_ ?_ ?_ there goes
  · intro _ addition _ entry _ _
    exact keptAs_enrich entry addition
  · intro addition
    exact covers_of_mem
  · intro _ addition _ entry _ _
    exact reflects_enrich entry addition
  · intro entry entry' addition keeps reflects info mem
    exact (reflects info mem).trans keeps.backends

/-- The places are those of different entries exactly where the additions are distinguished. -/
lemma places_nodup_iff_distinguished (base additions : List AcceleratorProfile) :
    (acceleratorMerge.places base additions).Nodup ↔ Distinguished base [] additions := by
  have nothing : ∀ i ∈ ([] : List ℕ), i < base.length := by
    intro i mem
    cases mem
  have free : ∀ i ∈ ([] : List ℕ), i ∉ acceleratorMerge.places base additions := by
    intro i mem
    cases mem
  have apart : ((acceleratorMerge.places base additions).Nodup ∧
      ∀ i ∈ ([] : List ℕ), i ∉ acceleratorMerge.places base additions) ↔
        acceleratorMerge.Apart base [] additions :=
    SlotMerge.places_nodup_iff nothing
  rw [and_iff_left free, ← distinguished_iff_apart] at apart
  exact apart

/-- Additions that are distinguished are merged apart. -/
lemma mergesApart_of_distinguished (distinguished : Distinguished base [] additions) : MergesApart base additions where
  injective := (places_nodup_iff_distinguished base additions).mpr distinguished
  kept := fun _ _ there => mergeAccelerators_kept there
  reflected := fun _ _ _ goes there => mergeAccelerators_reflected goes there

/-- A merge loses nothing exactly where the additions are distinguished. -/
theorem mergesApart_iff (base additions : List AcceleratorProfile) :
    MergesApart base additions ↔ Distinguished base [] additions := by
  constructor
  · intro merges
    exact (places_nodup_iff_distinguished base additions).mp merges.injective
  · exact mergesApart_of_distinguished

/-- So a merge loses nothing where what the probes say tells the additions apart. -/
theorem ToldApart.mergesApart (told : ToldApart base additions) : MergesApart base additions :=
  mergesApart_of_distinguished told.distinguished

/-- Two cards of one model that one probe reports are not told apart. -/
lemma not_distinguished_sameModel (vendor : card.vendor = card'.vendor)
    (name : normalizedName card.name = normalizedName card'.name) :
    ¬ Distinguished [] [] [card, card'] := by
  intro ⟨_, apart, _⟩
  have first : acceleratorMerge.place [] card = 0 ∧ acceleratorMerge.merge [] card = [card] := by
    have none : acceleratorMerge.find [] card = none := rfl
    rw [SlotMerge.place, SlotMerge.merge, none]
    exact ⟨rfl, rfl⟩
  rw [first.1, first.2] at apart
  apply apart 0 List.mem_cons_self
  have similar := similarAccelerator_of_name vendor name
  by_cases stable : sameStableIdentity card card'
  · exact .inl ⟨card, rfl, stable, fun earlier lt => absurd lt (Nat.not_lt_zero _)⟩
  · refine .inr ⟨?_, ⟨card, rfl, similar⟩, ?_⟩
    · intro other mem
      rw [List.mem_singleton.mp mem]
      exact stable
    · intro other same
      cases other with
      | zero => rfl
      | succ other => cases same

/-- A card as one probe describes it. -/
def reportedCard (name deviceId : String) (memory : ℤ) : AcceleratorProfile where
  name := name
  vendor := .amd
  type := .dedicated
  vendorId := some "0x1002"
  deviceId := some deviceId
  dedicatedMemoryBytes := some memory
  detectionSources := ["vulkaninfo"]
  backends := [{ backend := .vulkan, availability := .available }]

/-- Two cards that one probe reports, the second of a given name and device id. -/
def twoCards (second deviceId : String) : List AcceleratorProfile :=
  [reportedCard "Radeon RX 7900 XT" "0x744c" 21474836480, reportedCard second deviceId 25769803776]

/-- Of two cards of one model one is left, and so it is of two models of which one name begins with the
other. -/
theorem twoCards_folded :
    (mergeAccelerators [] (twoCards "Radeon RX 7900 XT" "0x744c")).length = 1 ∧
      ¬ MergesApart [] (twoCards "Radeon RX 7900 XT" "0x744c") ∧
      (mergeAccelerators [] (twoCards "Radeon RX 7900 XTX" "0x744d")).length = 1 ∧
      ¬ MergesApart [] (twoCards "Radeon RX 7900 XTX" "0x744d") := by
  have folded : ∀ cards, acceleratorMerge.places [] cards = [0, 0] → ¬ MergesApart [] cards := by
    intro cards eq apart
    have nodup := apart.injective
    rw [eq] at nodup
    exact absurd nodup (by decide)
  refine ⟨by decide +kernel, folded _ ?_, by decide +kernel, folded _ ?_⟩
  · decide +kernel
  · decide +kernel

end Accelerators

end Jaull.Hardware
