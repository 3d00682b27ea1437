import Jaull.Domain.Runtime
import Jaull.Text.Slug

/-!
# Runtime devices

Port of `jaull/runtime/device_matching.py`: which device of llama.cpp is the accelerator that was selected.
Two names are the same device when their normal forms agree, whole or without the trailing annotation that
one of them carries. Whether a normal form is empty is looked at on one side and for the whole name only.
-/

namespace Jaull.Runtime
open Jaull.Domain Jaull.Text

section Names

/-- The length of the trademark mark at the beginning of a text (Python `_TRADEMARK_RE`), zero if there is
none. -/
def markLength : List Char → ℕ
  | '(' :: r :: ')' :: _ => if r = 'r' || r = 'R' then 3 else 0
  | '(' :: t :: m :: ')' :: _ => if (t = 't' || t = 'T') && (m = 'm' || m = 'M') then 4 else 0
  | _ => 0

/-- Python `_TRADEMARK_RE.sub("", name)`, with the number of characters of a mark that are still to skip. -/
def dropMarks : ℕ → List Char → List Char
  | _, [] => []
  | skip + 1, _ :: rest => dropMarks skip rest
  | 0, c :: rest =>
    match markLength (c :: rest) with
    | 0 => c :: dropMarks 0 rest
    | length + 1 => dropMarks length rest

/-- Python `_TRADEMARK_RE.sub("", name)`. -/
def withoutMarks (name : List Char) : List Char :=
  dropMarks 0 name

/-- Python `_TRAILING_ANNOTATION_RE.match`: a parenthesis and nothing else to the end of the text. -/
def isAnnotation (text : List Char) : Bool :=
  match text.dropWhile isSpace with
  | '(' :: inner =>
    match inner.dropWhile (fun c => c ≠ '(' && c ≠ ')') with
    | ')' :: rest => rest.all isSpace
    | _ => false
  | _ => false

/-- Python `_TRAILING_ANNOTATION_RE.sub("", text)`. -/
def beforeAnnotations : List Char → List Char
  | [] => []
  | c :: rest => if isAnnotation (c :: rest) then [] else c :: beforeAnnotations rest

/-- Python `_NON_ALNUM_RE.sub(" ", text)`; `inRun` is set inside a run that has its blank. -/
def blankRuns : Bool → List Char → List Char
  | _, [] => []
  | inRun, c :: rest =>
    if isSlugChar c then c :: blankRuns false rest
    else if inRun then blankRuns true rest
    else ' ' :: blankRuns true rest

/-- Python `_full_name`. -/
def fullName (name : List Char) : String :=
  strip (String.ofList (blankRuns false ((withoutMarks name).flatMap foldChar)))

/-- Python `_without_annotation`. -/
def withoutAnnotations (name : List Char) : String :=
  fullName (beforeAnnotations (withoutMarks name))

/-- Python `_has_annotation`. -/
def hasAnnotation (name : List Char) : Bool :=
  (withoutMarks name).tails.any isAnnotation

/-- Python `names_agree`. -/
def namesAgree (left right : String) : Bool :=
  let full := fullName left.toList
  if full = "" then false
  else if full = fullName right.toList then true
  else
    hasAnnotation left.toList ≠ hasAnnotation right.toList &&
      withoutAnnotations left.toList = withoutAnnotations right.toList

example : namesAgree "Arc(TM) B60" "Arc B60 (G21)" := by decide +kernel

end Names

section Devices

/-- Python `LlamaCppRuntimeDevice`. -/
structure LlamaCppRuntimeDevice where
  backend : ComputeBackend
  runtimeId : String
  name : Option String := none
  deriving DecidableEq, Repr

/-- Python `RuntimeDeviceMatchReason`. -/
inductive RuntimeDeviceMatchReason
  | matchedByName | onlyHardwareDevice | noHardwareDevice | nameMismatch | ambiguous
  deriving DecidableEq, Repr

/-- Python `RuntimeDeviceMatch`. -/
structure RuntimeDeviceMatch where
  device : Option LlamaCppRuntimeDevice
  reason : RuntimeDeviceMatchReason
  deriving DecidableEq, Repr

/-- Python `_SOFTWARE_DEVICE_MARKERS`. -/
def softwareDeviceMarkers : List String :=
  ["llvmpipe", "lavapipe", "swiftshader", "microsoft basic render"]

/-- Python `_is_software_renderer`. -/
def isSoftwareRenderer (device : LlamaCppRuntimeDevice) : Bool :=
  let name := casefold (device.name.getD "")
  softwareDeviceMarkers.any fun marker => name.toList.tails.any (marker.toList.isPrefixOf ·)

/-- The devices whose names agree with an accelerator's (the `named` of Python `match_runtime_device`). -/
def namedDevices (candidates : List LlamaCppRuntimeDevice) (accelerator : SelectedAcceleratorRef) :
    List LlamaCppRuntimeDevice :=
  candidates.filter fun device => device.name.any (namesAgree · accelerator.name)

/-- The answer without a match by name. -/
def matchWithoutName (backend : ComputeBackend) : List LlamaCppRuntimeDevice → RuntimeDeviceMatch
  | [only] =>
    -- A sole visible adapter may be an integrated GPU, not the selected card.
    if backend = .vulkan then ⟨none, .nameMismatch⟩ else ⟨some only, .onlyHardwareDevice⟩
  | _ => ⟨none, .ambiguous⟩

/-- Python `match_runtime_device`, of the devices of a capability. -/
def matchRuntimeDevice (selection : RuntimeBackendSelection) (devices : List LlamaCppRuntimeDevice) :
    RuntimeDeviceMatch :=
  let candidates := devices.filter fun device => !isSoftwareRenderer device
  if candidates = [] then ⟨none, .noHardwareDevice⟩
  else
    match selection.selectedAccelerator.filter fun accelerator => fullName accelerator.name.toList ≠ "" with
    | none => matchWithoutName selection.selectedBackend candidates
    | some accelerator =>
      match namedDevices candidates accelerator with
      | [device] => ⟨some device, .matchedByName⟩
      | [] => matchWithoutName selection.selectedBackend candidates
      | _ => ⟨none, .ambiguous⟩

/-- Whether a field of the expected accelerator, where known, is the observed one. -/
def fieldMatches (expected observed : Option String) : Bool :=
  expected.isNone || observed = expected

/-- Python `selected_accelerator_matches`. -/
def selectedAcceleratorMatches (expected observed : Option SelectedAcceleratorRef) : Bool :=
  match expected, observed with
  | some expected, some observed =>
    expected.vendor = observed.vendor && namesAgree expected.name observed.name &&
    fieldMatches expected.uuid observed.uuid && fieldMatches expected.pciBusId observed.pciBusId &&
    fieldMatches expected.vendorId observed.vendorId && fieldMatches expected.deviceId observed.deviceId
  | _, _ => false

end Devices

section Forms

/-- A letter or digit is left in what a character folds to. -/
def Spells (c : Char) : Prop :=
  ∃ d ∈ foldChar c, isSlugChar d = true

/-- A slug's character is no blank. -/
lemma isSpace_of_isSlugChar {c : Char} (isSlug : isSlugChar c = true) : isSpace c = false := by
  simp only [isSlugChar, isAsciiLower, Bool.or_eq_true, Bool.and_eq_true, decide_eq_true_eq,
    Char.le_def, UInt32.le_iff_toNat_le] at isSlug
  have code : 48 ≤ c.toNat ∧ c.toNat ≤ 122 := by
    have small : ('a' : Char).val.toNat = 97 ∧ ('z' : Char).val.toNat = 122 ∧
      ('0' : Char).val.toNat = 48 ∧ ('9' : Char).val.toNat = 57 := by decide
    have own : c.val.toNat = c.toNat := rfl
    omega
  simp only [isSpace, Bool.or_eq_false_iff, Bool.and_eq_false_iff, decide_eq_false_iff_not,
    beq_eq_false_iff_ne]
  omega

/-- Stripping leaves what is no white space. -/
lemma mem_strip {text : List Char} {c : Char} (mem : c ∈ text) (solid : isSpace c = false) :
    c ∈ (strip (String.ofList text)).toList := by
  have keep : ∀ {l : List Char}, c ∈ l → c ∈ l.dropWhile isSpace := by
    intro l mem
    have split := List.takeWhile_append_dropWhile (p := isSpace) (l := l)
    rw [← split] at mem
    rcases List.mem_append.mp mem with front | back
    · have space := List.mem_takeWhile_imp front
      rw [solid] at space
      exact absurd space Bool.false_ne_true
    · exact back
  rw [strip, String.toList_ofList, String.toList_ofList, List.mem_reverse]
  exact keep (List.mem_reverse.mpr (keep mem))

/-- Joining blanks keeps the slug's characters. -/
lemma mem_blankRuns {text : List Char} {c : Char} (isSlug : isSlugChar c = true) (inRun : Bool)
    (mem : c ∈ text) : c ∈ blankRuns inRun text := by
  induction text generalizing inRun with
  | nil => cases mem
  | cons d rest ih =>
    rw [blankRuns]
    rcases List.mem_cons.mp mem with rfl | later
    · rw [if_pos isSlug]
      exact List.mem_cons_self
    · split
      · exact List.mem_cons_of_mem _ (ih false later)
      · split
        · exact ih true later
        · exact List.mem_cons_of_mem _ (ih true later)

/-- Without letters and digits one blank at most is left. -/
lemma blankRuns_blank {text : List Char} (none : ∀ c ∈ text, isSlugChar c = false) (inRun : Bool) :
    ∀ c ∈ blankRuns inRun text, c = ' ' := by
  induction text generalizing inRun with
  | nil =>
    intro c mem
    cases mem
  | cons d rest ih =>
    have later := ih fun c mem => none c (List.mem_cons_of_mem _ mem)
    rw [blankRuns, if_neg (Bool.eq_false_iff.mp (none d List.mem_cons_self))]
    split
    · exact later true
    · intro c mem
      rcases List.mem_cons.mp mem with rfl | mem
      · rfl
      · exact later true c mem

/-- A name normalises to nothing when nothing in it, marks aside, spells. -/
lemma fullName_eq_empty {name : List Char} :
    fullName name = "" ↔ ∀ c ∈ withoutMarks name, ¬Spells c := by
  rw [fullName]
  constructor
  · intro empty c mem spells
    obtain ⟨d, memD, isSlug⟩ := spells
    have kept := mem_strip
      (mem_blankRuns isSlug false (List.mem_flatMap.mpr ⟨c, mem, memD⟩)) (isSpace_of_isSlugChar isSlug)
    rw [empty] at kept
    cases kept
  · intro none
    have blank : ∀ c ∈ blankRuns false ((withoutMarks name).flatMap foldChar), c = ' ' := by
      apply blankRuns_blank
      intro d mem
      obtain ⟨c, memC, memD⟩ := List.mem_flatMap.mp mem
      exact Bool.eq_false_iff.mpr fun isSlug => none c memC ⟨d, memD, isSlug⟩
    have dropped : (blankRuns false ((withoutMarks name).flatMap foldChar)).dropWhile isSpace = [] := by
      rw [List.dropWhile_eq_nil_iff]
      intro c mem
      rw [blank c mem]
      decide
    rw [strip, String.toList_ofList, dropped]
    rfl

/-- Dropping marks keeps the order. -/
lemma dropMarks_sublist (skip : ℕ) (text : List Char) : (dropMarks skip text).Sublist text := by
  induction text generalizing skip with
  | nil =>
    cases skip with
    | zero => exact List.Sublist.refl _
    | succ => exact List.Sublist.refl _
  | cons c rest ih =>
    cases skip with
    | succ skip => exact (ih skip).cons c
    | zero =>
      rw [dropMarks]
      split
      · exact (ih 0).cons_cons c
      · exact (ih _).cons c

/-- So does dropping what follows an annotation. -/
lemma beforeAnnotation_sublist (text : List Char) : (beforeAnnotations text).Sublist text := by
  induction text with
  | nil => exact List.Sublist.refl _
  | cons c rest ih =>
    rw [beforeAnnotations]
    split
    · exact List.nil_sublist _
    · exact ih.cons_cons c

/-- What normalises to nothing normalises to nothing without its annotation. -/
lemma withoutAnnotation_eq_empty {name : List Char} (empty : fullName name = "") :
    withoutAnnotations name = "" := by
  rw [withoutAnnotations, fullName_eq_empty]
  rw [fullName_eq_empty] at empty
  intro c mem
  exact empty c ((beforeAnnotation_sublist _).subset ((dropMarks_sublist 0 _).subset mem))

end Forms

section Agreement
variable {a b : String}

/-- Two names share a normal form that is not empty: the whole one, or the one without the trailing
annotation that one of them carries. -/
def Shares (a b : String) : Prop :=
  ∃ form : String, form ≠ "" ∧
    (fullName a.toList = form ∧ fullName b.toList = form ∨
      hasAnnotation a.toList ≠ hasAnnotation b.toList ∧
        withoutAnnotations a.toList = form ∧ withoutAnnotations b.toList = form)

/-- Two different names of which one is annotated, and nothing is left of either without the annotation. -/
def Nameless (a b : String) : Prop :=
  fullName a.toList ≠ fullName b.toList ∧ hasAnnotation a.toList ≠ hasAnnotation b.toList ∧
    withoutAnnotations a.toList = "" ∧ withoutAnnotations b.toList = ""

/-- Names agree in both directions or in none, and they tie an accelerator to a device only when they share a
normal form. -/
structure AgreeSoundly (a b : String) : Prop where
  symmetric : namesAgree a b = namesAgree b a
  shares : namesAgree a b = true → Shares a b
  device : ∀ (selection : RuntimeBackendSelection) (devices : List LlamaCppRuntimeDevice)
    (accelerator : SelectedAcceleratorRef) (device : LlamaCppRuntimeDevice),
    selection.selectedAccelerator = some accelerator → accelerator.name = b → device.name = some a →
    matchRuntimeDevice selection devices = ⟨some device, .matchedByName⟩ → Shares a b
  accelerator : ∀ expected observed : SelectedAcceleratorRef, expected.name = a → observed.name = b →
    selectedAcceleratorMatches (some expected) (some observed) = true → Shares a b

/-- Names agree in full, or without the annotation that only one of them has. -/
lemma namesAgree_iff :
    namesAgree a b = true ↔ fullName a.toList ≠ "" ∧
      (fullName a.toList = fullName b.toList ∨
        hasAnnotation a.toList ≠ hasAnnotation b.toList ∧
          withoutAnnotations a.toList = withoutAnnotations b.toList) := by
  rw [namesAgree]
  by_cases empty : fullName a.toList = ""
  · simp [empty]
  · by_cases same : fullName a.toList = fullName b.toList
    · simp [← same, empty]
    · simp [same, empty]

/-- A name that agrees and shares nothing is annotated with all it spells. -/
lemma Shares.of_namesAgree (named : ¬Nameless a b) (agree : namesAgree a b = true) : Shares a b := by
  obtain ⟨some, forms⟩ := namesAgree_iff.mp agree
  by_cases same : fullName a.toList = fullName b.toList
  · exact ⟨fullName a.toList, some, .inl ⟨rfl, same.symm⟩⟩
  · obtain ⟨one, without⟩ := forms.resolve_left same
    refine ⟨withoutAnnotations a.toList, ?_, .inr ⟨one, rfl, without.symm⟩⟩
    intro empty
    exact named ⟨same, one, empty, without ▸ empty⟩

/-- Nameless entries share nothing. -/
lemma Nameless.not_shares (nameless : Nameless a b) : ¬Shares a b := by
  intro shares
  obtain ⟨form, some, whole | part⟩ := shares
  · exact nameless.1 (whole.1.trans whole.2.symm)
  · exact some (part.2.1 ▸ nameless.2.2.1)

lemma Nameless.symm (nameless : Nameless a b) : Nameless b a :=
  ⟨nameless.1.symm, nameless.2.1.symm, nameless.2.2.2, nameless.2.2.1⟩

/-- So does sharing. -/
lemma Shares.symm (shares : Shares a b) : Shares b a := by
  obtain ⟨form, some, whole | part⟩ := shares
  · exact ⟨form, some, .inl ⟨whole.2, whole.1⟩⟩
  · exact ⟨form, some, .inr ⟨part.1.symm, part.2.2, part.2.1⟩⟩

/-- Names that share a normal form agree. -/
lemma Shares.namesAgree (shares : Shares a b) : namesAgree a b = true := by
  obtain ⟨form, some, whole | part⟩ := shares
  · exact namesAgree_iff.mpr ⟨whole.1 ▸ some, .inl (whole.1.trans whole.2.symm)⟩
  · refine namesAgree_iff.mpr ⟨?_, .inr ⟨part.1, part.2.1.trans part.2.2.symm⟩⟩
    intro empty
    exact some (part.2.1 ▸ withoutAnnotation_eq_empty empty)

/-- Without a match by name none is reported. -/
lemma matchWithoutName_ne (backend : ComputeBackend) (candidates : List LlamaCppRuntimeDevice) :
    (matchWithoutName backend candidates).reason ≠ .matchedByName := by
  rw [matchWithoutName.eq_def]
  split
  · split
    · intro eq
      cases eq
    · intro eq
      cases eq
  · intro eq
    cases eq

/-- A device matched by name has a name that agrees. -/
lemma namesAgree_of_matched {selection : RuntimeBackendSelection} {devices : List LlamaCppRuntimeDevice}
    {accelerator : SelectedAcceleratorRef} {device : LlamaCppRuntimeDevice}
    (selected : selection.selectedAccelerator = some accelerator) (name : device.name = some a)
    (matched : matchRuntimeDevice selection devices = ⟨some device, .matchedByName⟩) :
    namesAgree a accelerator.name = true := by
  unfold matchRuntimeDevice at matched
  dsimp only at matched
  rw [selected] at matched
  split at matched
  · cases matched
  · split at matched
    · exact absurd (congrArg RuntimeDeviceMatch.reason matched) (matchWithoutName_ne _ _)
    · rename_i other kept
      have own : accelerator = other := (Option.filter_eq_some_iff.mp kept).1 |> Option.some.inj
      subst own
      split at matched
      · rename_i found only
        cases matched
        have mem : device ∈
            namedDevices (devices.filter fun device => !isSoftwareRenderer device) accelerator := by
          rw [only]
          exact List.mem_singleton_self _
        have agree := (List.mem_filter.mp mem).2
        rw [name, Option.any_some] at agree
        exact agree
      · exact absurd (congrArg RuntimeDeviceMatch.reason matched) (matchWithoutName_ne _ _)
      · cases matched

/-- Names agree soundly unless nothing is left of them without the annotation that one of them carries. -/
theorem namesAgree_sound_iff (a b : String) : AgreeSoundly a b ↔ ¬Nameless a b := by
  constructor
  · intro sound nameless
    have apart : namesAgree a b ≠ true := fun agree => nameless.not_shares (sound.shares agree)
    have apart' : namesAgree b a ≠ true := by
      rw [← sound.symmetric]
      exact apart
    obtain ⟨differ, one, empty, empty'⟩ := nameless
    rcases eq_or_ne (fullName a.toList) "" with none | some
    · apply apart'
      refine namesAgree_iff.mpr ⟨?_, .inr ⟨one.symm, empty'.trans empty.symm⟩⟩
      intro none'
      exact differ (none.trans none'.symm)
    · exact apart (namesAgree_iff.mpr ⟨some, .inr ⟨one, empty.trans empty'.symm⟩⟩)
  · intro named
    have named' : ¬Nameless b a := fun nameless => named nameless.symm
    refine ⟨?_, Shares.of_namesAgree named, ?_, ?_⟩
    · rw [Bool.eq_iff_iff]
      constructor
      · intro agree
        exact (Shares.of_namesAgree named agree).symm.namesAgree
      · intro agree
        exact (Shares.of_namesAgree named' agree).symm.namesAgree
    · intro selection devices accelerator device selected isB isA matched
      have agree := namesAgree_of_matched selected isA matched
      rw [isB] at agree
      exact Shares.of_namesAgree named agree
    · intro expected observed isA isB matched
      rw [selectedAcceleratorMatches] at matched
      simp only [Bool.and_eq_true] at matched
      rw [← isA, ← isB] at named ⊢
      exact Shares.of_namesAgree named matched.1.1.1.1.2

/-- An accelerator whose name is nothing but an annotation is taken for one whose name has no Latin letter or
digit, and not the other way round. -/
theorem annotatedName_agrees :
    (namesAgree "(BMG G21)" "显卡" = true ∧ namesAgree "显卡" "(BMG G21)" = false) ∧
      fullName "显卡".toList = "" ∧ withoutAnnotations "(BMG G21)".toList = "" ∧
      selectedAcceleratorMatches (some { name := "(BMG G21)", vendor := .intel, type := .dedicated })
        (some { name := "显卡", vendor := .intel, type := .dedicated }) = true := by
  decide +kernel

end Agreement

end Jaull.Runtime
